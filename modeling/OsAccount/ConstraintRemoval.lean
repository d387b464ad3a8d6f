import OsAccount.ConstraintUpdate
import OsAccount.Machine

namespace OsAccount.ConstraintRemoval

open Fields JsonUtils ConstraintStore ConstraintUpdate

/-- The loops of a removal go over the items that a document had when the loop
began. `replaced` names those whose item was freed since, by the write of a new
one. -/
structure Walk where
  loop : Loop
  replaced : List String

def removeSource (constraintType key idStr : String) (w : Walk) : Walk :=
  ⟨removeConstraintsFromJsonOperate constraintType key idStr w.loop,
    (if (getVectorStringFromJson w.loop.json key).filter (· ≠ idStr) = [] then constraintType else key) :: w.replaced⟩

def walkFields (body : Walk → String → Option Walk) (j : Json) (constraintsList : List String) : Option Json :=
  ((keys (fields j)).foldlM body ⟨⟨j, [], constraintsList⟩, []⟩).map fun w =>
    w.loop.waitForErase.foldl deleteItemFromJson w.loop.json

def removeGlobalSource (idStr : String) (w : Walk) (key : String) : Option Walk :=
  if key ∈ w.replaced then none
  else if key ≠ allGlobalConstraints ∧ key ≠ deviceOwnerId then
    let constraintsList := getVectorStringFromJson w.loop.json allGlobalConstraints
    some (removeSource allGlobalConstraints key idStr { w with loop := { w.loop with constraintsList } })
  else some w

def removeSpecificSource (idStr : String) (w : Walk) (key : String) : Option Walk :=
  if key ∈ w.replaced then none
  else if key = allSpecificConstraints then some w
  else some (removeSource allSpecificConstraints key idStr w)

def removeOABaseConstraintsInfo (a : FileAnswer) (id : Int) (file : Json) : Ret × Json :=
  match a.read, a.write with
  | .error ret, _ => (.error ret, file)
  | .ok (), .error ret => (.error ret, file)
  | .ok (), .ok () => (.ok (), deleteItemFromJson file (toString id))

def saved (write : Ret) (file j : Json) : Ret × Json :=
  match write with
  | .error ret => (.error ret, file)
  | .ok () => (.ok (), j)

def removeOAGlobalConstraintsInfo (a : FileAnswer) (id : Int) (file : Json) : Option (Ret × Json) :=
  match a.read with
  | .error ret => some (.error ret, file)
  | .ok () => (walkFields (removeGlobalSource (toString id)) file (getVectorStringFromJson file
      allGlobalConstraints)).map (saved a.write file)

def removeUserConstraintsFromSpecificObj (idStr : String) (j : Json) (target : String) : Option Json :=
  match getItemFromJson j target with
  | none => some j
  | some d =>
      let constraintsList := getVectorStringFromJson d allSpecificConstraints
      if constraintsList = [] then some j
      else (walkFields (removeSpecificSource idStr) d constraintsList).map (addObjToJson j target)

def removeAllUsersConstraintsInfo (idStr : String) (j : Json) : Option Json :=
  (keys (fields j)).foldlM (removeUserConstraintsFromSpecificObj idStr) j

def removeOASpecificConstraintsInfo (a : FileAnswer) (id : Int) (file : Json) : Option (Ret × Json) :=
  match a.read with
  | .error ret => some (.error ret, file)
  | .ok () =>
      let j := if isKeyExist file (toString id) then deleteItemFromJson file (toString id) else file
      (removeAllUsersConstraintsInfo (toString id) j).map (saved a.write file)

structure ConstraintFiles where
  base : Json
  global : Json
  specific : Json

structure RemovalAnswer where
  base : FileAnswer
  global : FileAnswer
  specific : FileAnswer

def removeOAConstraintsInfo (a : RemovalAnswer) (id : Int) (s : ConstraintFiles) : Option (Ret × ConstraintFiles) :=
  match removeOABaseConstraintsInfo a.base id s.base with
  | (.error ret, base) => some (.error ret, { s with base })
  | (.ok (), base) => do
      let s := { s with base }
      match ← removeOAGlobalConstraintsInfo a.global id s.global with
      | (.error ret, global) => some (.error ret, { s with global })
      | (.ok (), global) =>
          let s := { s with global }
          let (ret, specific) ← removeOASpecificConstraintsInfo a.specific id s.specific
          some (ret, { s with specific })

structure Listed (constraintType : String) (reserved : List String) (j : Json) : Prop where
  record : IsRecord j
  listed {c : String} : c ∉ reserved →
    (c ∈ getVectorStringFromJson j constraintType ↔ getVectorStringFromJson j c ≠ [])

structure TargetsListed (j : Json) : Prop where
  record : IsRecord j
  target {t : String} {d : Json} : getItemFromJson j t = some d → Listed allSpecificConstraints specificReserved d

structure StoreListed (s : ConstraintFiles) : Prop where
  base : IsRecord s.base
  global : Listed allGlobalConstraints globalReserved s.global
  specific : TargetsListed s.specific

structure SourceRemoved (constraintType : String) (reserved : List String) (idStr : String) (j j' : Json) : Prop where
  listed : Listed constraintType reserved j'
  sources {c : String} : c ∉ reserved →
    getVectorStringFromJson j' c = (getVectorStringFromJson j c).filter (· ≠ idStr)
  others {key : String} : key ∈ reserved → key ≠ constraintType → getItemFromJson j' key = getItemFromJson j key

section walk

variable {constraintType idStr : String} {reserved done : List String} {j : Json} {w : Walk}

/-- The loop over the fields of `j` has dealt with the fields of `done`. -/
structure Removing (constraintType : String) (reserved : List String) (idStr : String) (j : Json)
    (done : List String) (w : Walk) : Prop where
  record : IsRecord w.loop.json
  list : getVectorStringFromJson w.loop.json constraintType = w.loop.constraintsList
  listed {c : String} : c ∈ w.loop.constraintsList ↔
    c ∈ getVectorStringFromJson j constraintType ∧ c ∉ w.loop.waitForErase
  waiting {c : String} : c ∈ w.loop.waitForErase ↔
    c ∈ done ∧ c ∉ reserved ∧ (getVectorStringFromJson j c).filter (· ≠ idStr) = []
  sources {c : String} : c ∉ reserved → c ∉ w.loop.waitForErase → getVectorStringFromJson w.loop.json c =
    if c ∈ done then (getVectorStringFromJson j c).filter (· ≠ idStr) else getVectorStringFromJson j c
  others {key : String} : key ∈ reserved → key ≠ constraintType →
    getItemFromJson w.loop.json key = getItemFromJson j key
  replaced {key : String} : key ∈ w.replaced → key ∈ done ∨ key = constraintType

theorem removing_start (hj : IsRecord j) :
    Removing constraintType reserved idStr j []
      ⟨⟨j, [], getVectorStringFromJson j constraintType⟩, []⟩ where
  record := hj
  list := rfl
  listed := by simp
  waiting := by simp
  sources _ _ := by simp
  others _ _ := rfl
  replaced hk := by cases hk

variable {key : String}

theorem Removing.reserved_key (h : Removing constraintType reserved idStr j done w)
    (hkey : key ∈ reserved) : Removing constraintType reserved idStr j (key :: done) w where
  record := h.record
  list := h.list
  listed := h.listed
  waiting {c} := by
    rw [h.waiting, List.mem_cons]
    constructor
    · exact fun ⟨hc, hrest⟩ => ⟨.inr hc, hrest⟩
    · rintro ⟨rfl | hc, hnot, hfilter⟩
      · exact absurd hkey hnot
      · exact ⟨hc, hnot, hfilter⟩
  sources {c} hc hw := by
    have hne : c ≠ key := fun he => hc (he ▸ hkey)
    rw [h.sources hc hw]
    simp [hne]
  others := h.others
  replaced hk := (h.replaced hk).imp_left (List.mem_cons_of_mem key)

theorem Removing.step (h : Removing constraintType reserved idStr j done w) (hall : constraintType ∈ reserved)
    (hne : constraintType ≠ "") (hkey : key ∉ reserved) (hdone : key ∉ done) :
    Removing constraintType reserved idStr j (key :: done) (removeSource constraintType key idStr w) := by
  have hw : key ∉ w.loop.waitForErase := fun hw => hdone (h.waiting.mp hw).1
  have hsame : getVectorStringFromJson w.loop.json key = getVectorStringFromJson j key := by
    rw [h.sources hkey hw, if_neg hdone]
  have hty : constraintType ≠ key := fun he => hkey (he ▸ hall)
  by_cases hlast : (getVectorStringFromJson j key).filter (· ≠ idStr) = []
  · -- no source is left: the key waits for its deletion
    have hget := getVector_addVector h.record hne (w.loop.constraintsList.filter (· ≠ key))
    have hwalk : removeSource constraintType key idStr w =
        ⟨⟨addVectorStringToJson w.loop.json constraintType (w.loop.constraintsList.filter (· ≠ key)),
          w.loop.waitForErase ++ [key], w.loop.constraintsList.filter (· ≠ key)⟩, constraintType :: w.replaced⟩ := by
      simp only [removeSource, removeConstraintsFromJsonOperate, hsame, if_pos hlast]
    rw [hwalk]
    refine ⟨isRecord_addVector h.record _ _, ?_, fun {c} => ?_, fun {c} => ?_, fun {c} hc hcw => ?_,
      fun {k} hk hkt => ?_, fun {k} hk => ?_⟩
    · rw [hget, if_pos rfl]
    · simp only [List.mem_filter, h.listed, List.mem_append, List.mem_singleton, decide_eq_true_eq,
        not_or, and_assoc]
    · simp only [List.mem_append, h.waiting, List.mem_cons]
      by_cases hc : c = key
      · subst hc
        exact iff_of_true (.inr (.inl rfl)) ⟨.inl rfl, hkey, hlast⟩
      · simp [hc]
    · have hct : constraintType ≠ c := fun he => hc (he ▸ hall)
      simp only [List.mem_append, List.mem_singleton, not_or] at hcw
      rw [hget, if_neg hct, h.sources hc hcw.1]
      simp [hcw.2]
    · rw [getItem_addVector_of_ne h.record hne (Ne.symm hkt), h.others hk hkt]
    · rcases List.mem_cons.mp hk with rfl | hk
      · exact .inr rfl
      · exact (h.replaced hk).imp_left (List.mem_cons_of_mem key)
  · -- the other sources stay
    have hkey₀ : key ≠ "" := by
      rintro rfl
      simp [getVectorStringFromJson, getItemFromJson, strings] at hlast
    have hget := getVector_addVector h.record hkey₀ ((getVectorStringFromJson j key).filter (· ≠ idStr))
    have hwalk : removeSource constraintType key idStr w =
        ⟨{ w.loop with json :=
            addVectorStringToJson w.loop.json key ((getVectorStringFromJson j key).filter (· ≠ idStr)) },
          key :: w.replaced⟩ := by
      simp only [removeSource, removeConstraintsFromJsonOperate, hsame, if_neg hlast]
    rw [hwalk]
    refine ⟨isRecord_addVector h.record _ _, ?_, h.listed, fun {c} => ?_, fun {c} hc hcw => ?_,
      fun {k} hk hkt => ?_, fun {k} hk => ?_⟩
    · rw [hget, if_neg hty.symm, h.list]
    · rw [h.waiting, List.mem_cons]
      by_cases hc : c = key
      · subst hc
        exact iff_of_false (fun hc => hdone hc.1) (fun hc => hlast hc.2.2)
      · simp [hc]
    · rw [hget]
      by_cases hck : key = c
      · simp [hck]
      · rw [if_neg hck, h.sources hc hcw]
        simp [Ne.symm hck]
    · have hkk : key ≠ k := fun he => hkey (he ▸ hk)
      rw [getItem_addVector_of_ne h.record hkey₀ hkk, h.others hk hkt]
    · rcases List.mem_cons.mp hk with rfl | hk
      · exact .inl List.mem_cons_self
      · exact (h.replaced hk).imp_left (List.mem_cons_of_mem key)

theorem getItem_eq_none_of_not_mem (h : key ∉ keys (fields j)) : getItemFromJson j key = none := by
  unfold getItemFromJson
  split
  · rfl
  · exact find_eq_none.mpr h

theorem Removing.sourceRemoved (hall : constraintType ∈ reserved) (hj : Listed constraintType reserved j)
    (h : Removing constraintType reserved idStr j (keys (fields j)).reverse w) :
    SourceRemoved constraintType reserved idStr j (w.loop.waitForErase.foldl deleteItemFromJson w.loop.json) := by
  obtain ⟨hrec, hget⟩ := foldl_deleteItem h.record w.loop.waitForErase
  have hreserved : ∀ key ∈ reserved, key ∉ w.loop.waitForErase := fun key hk hw => (h.waiting.mp hw).2.1 hk
  have hsources : ∀ c ∉ reserved, getVectorStringFromJson
      (w.loop.waitForErase.foldl deleteItemFromJson w.loop.json) c =
        (getVectorStringFromJson j c).filter (· ≠ idStr) := by
    intro c hc
    rw [getVectorStringFromJson, hget]
    by_cases hw : c ∈ w.loop.waitForErase
    · rw [if_pos hw, (h.waiting.mp hw).2.2]
      rfl
    · rw [if_neg hw]
      refine (h.sources hc hw).trans ?_
      split
      · rfl
      · -- a field that the loop did not see has no source
        rename_i hdone
        rw [List.mem_reverse] at hdone
        simp [getVectorStringFromJson, getItem_eq_none_of_not_mem hdone, strings]
  refine ⟨⟨hrec, fun {c} hc => ?_⟩, fun {c} => hsources c, fun {key} hk hne => ?_⟩
  · rw [hsources c hc, getVectorStringFromJson, hget, if_neg (hreserved _ hall)]
    rw [show strings (getItemFromJson w.loop.json constraintType) = w.loop.constraintsList from h.list, h.listed,
      hj.listed hc, h.waiting, List.mem_reverse]
    constructor
    · rintro ⟨hsome, hnot⟩ hfilter
      refine hnot ⟨?_, hc, hfilter⟩
      by_contra hkey
      simp [getVectorStringFromJson, getItem_eq_none_of_not_mem hkey, strings] at hsome
    · intro hfilter
      refine ⟨fun hnil => hfilter (by rw [hnil]; rfl), fun hw => hfilter hw.2.2⟩
  · rw [hget, if_neg (hreserved key hk), h.others hk hne]

theorem Listed.keys_nodup (hj : Listed constraintType reserved j) : (keys (fields j)).Nodup := by
  have hrec := hj.record
  cases j with
  | obj l => exact hrec
  | _ => cases hrec

theorem walkFields_sourceRemoved {body : Walk → String → Option Walk} (hall : constraintType ∈ reserved)
    (hbody : ∀ {w w' : Walk} {done : List String} {key : String}, Removing constraintType reserved idStr j done w →
      key ∉ done → body w key = some w' → Removing constraintType reserved idStr j (key :: done) w')
    (hj : Listed constraintType reserved j) {j' : Json}
    (h : walkFields body j (getVectorStringFromJson j constraintType) = some j') :
    SourceRemoved constraintType reserved idStr j j' := by
  obtain ⟨w, hw, rfl⟩ := Option.map_eq_some_iff.mp h
  have hdone := Machine.foldlM_invariant hbody hj.keys_nodup (removing_start hj.record)
    (fun _ _ hk => by cases hk) hw
  rw [List.append_nil] at hdone
  exact hdone.sourceRemoved hall hj

end walk

theorem removeGlobalSource_step {idStr key : String} {j : Json} {done : List String} {w w' : Walk}
    (h : Removing allGlobalConstraints globalReserved idStr j done w) (hkey : key ∉ done)
    (hw : removeGlobalSource idStr w key = some w') :
    Removing allGlobalConstraints globalReserved idStr j (key :: done) w' := by
  unfold removeGlobalSource at hw
  rw [Option.ite_none_left_eq_some] at hw
  obtain ⟨-, hw⟩ := hw
  split at hw
  · rename_i hne
    obtain rfl := Option.some.inj hw
    have hsame : ({ w with loop := { w.loop with
        constraintsList := getVectorStringFromJson w.loop.json allGlobalConstraints } } : Walk) = w := by
      rw [h.list]
    rw [hsame]
    exact h.step (by simp [globalReserved]) (by decide) (by simpa [globalReserved] using hne) hkey
  · rename_i hne
    obtain rfl := Option.some.inj hw
    refine h.reserved_key ?_
    simp only [globalReserved, List.mem_cons, List.not_mem_nil, or_false]
    tauto

theorem removeSpecificSource_step {idStr key : String} {j : Json} {done : List String} {w w' : Walk}
    (h : Removing allSpecificConstraints specificReserved idStr j done w) (hkey : key ∉ done)
    (hw : removeSpecificSource idStr w key = some w') :
    Removing allSpecificConstraints specificReserved idStr j (key :: done) w' := by
  unfold removeSpecificSource at hw
  rw [Option.ite_none_left_eq_some] at hw
  obtain ⟨-, hw⟩ := hw
  split at hw
  · rename_i heq
    obtain rfl := Option.some.inj hw
    exact h.reserved_key (by simp [specificReserved, heq])
  · rename_i hne
    obtain rfl := Option.some.inj hw
    exact h.step (by simp [specificReserved]) (by decide) (by simpa [specificReserved] using hne) hkey

/-- The targets of `done` have lost the source, the others are as they were. -/
structure TargetsDone (idStr : String) (j : Json) (done : List String) (j' : Json) : Prop where
  record : IsRecord j'
  rest {t : String} : t ∉ done → getItemFromJson j' t = getItemFromJson j t
  gone {t : String} : getItemFromJson j t = none → getItemFromJson j' t = none
  removed {t : String} {d : Json} : t ∈ done → getItemFromJson j t = some d →
    ∃ d', getItemFromJson j' t = some d' ∧ SourceRemoved allSpecificConstraints specificReserved idStr d d'

theorem sourceRemoved_self {idStr : String} {d : Json} (hd : Listed allSpecificConstraints specificReserved d)
    (hempty : getVectorStringFromJson d allSpecificConstraints = []) :
    SourceRemoved allSpecificConstraints specificReserved idStr d d := by
  refine ⟨hd, fun {c} hc => ?_, fun _ _ => rfl⟩
  have hnone : getVectorStringFromJson d c = [] := by
    by_contra hsome
    have hlisted := (hd.listed hc).mpr hsome
    rw [hempty] at hlisted
    cases hlisted
  rw [hnone]
  rfl

theorem removeUserConstraints_step {idStr target : String} {j j₁ j₂ : Json} {done : List String} (hj : TargetsListed j)
    (h : TargetsDone idStr j done j₁) (hnew : target ∉ done)
    (hcall : removeUserConstraintsFromSpecificObj idStr j₁ target = some j₂) :
    TargetsDone idStr j (target :: done) j₂ := by
  unfold removeUserConstraintsFromSpecificObj at hcall
  have hsame := h.rest hnew
  have hrest {t : String} (ht : t ∉ target :: done) : t ∉ done :=
    fun hd => ht (List.mem_cons_of_mem target hd)
  cases hd : getItemFromJson j target with
  | none =>
      simp only [hsame, hd, Option.some.injEq] at hcall
      subst hcall
      refine ⟨h.record, fun ht => h.rest (hrest ht), h.gone, fun {t d} ht hd' => ?_⟩
      rcases List.mem_cons.mp ht with rfl | ht
      · rw [hd] at hd'
        cases hd'
      · exact h.removed ht hd'
  | some d =>
      simp only [hsame, hd] at hcall
      split at hcall
      · rename_i hempty
        obtain rfl := Option.some.inj hcall
        refine ⟨h.record, fun ht => h.rest (hrest ht), h.gone, fun {t d'} ht hd' => ?_⟩
        rcases List.mem_cons.mp ht with rfl | ht
        · rw [hd] at hd'
          obtain rfl := Option.some.inj hd'
          exact ⟨d, hsame.trans hd, sourceRemoved_self (hj.target hd) hempty⟩
        · exact h.removed ht hd'
      · obtain ⟨d₂, hd₂, rfl⟩ := Option.map_eq_some_iff.mp hcall
        have hremoved := walkFields_sourceRemoved (by simp [specificReserved]) removeSpecificSource_step
          (hj.target hd) hd₂
        have htarget : target ≠ "" := by
          rintro rfl
          simp [getItemFromJson] at hd
        have hget := getItem_setItem h.record htarget d₂
        refine ⟨isRecord_setItem h.record _ _, fun {t} ht => ?_, fun {t} ht => ?_, fun {t d'} ht hd' => ?_⟩
        · have hne : target ≠ t := fun he => ht (he ▸ List.mem_cons_self)
          rw [addObjToJson, hget, if_neg hne, h.rest (hrest ht)]
        · have hne : target ≠ t := by
            rintro rfl
            rw [hd] at ht
            cases ht
          rw [addObjToJson, hget, if_neg hne, h.gone ht]
        · rw [addObjToJson, hget]
          rcases List.mem_cons.mp ht with rfl | ht
          · rw [hd] at hd'
            obtain rfl := Option.some.inj hd'
            exact ⟨d₂, if_pos rfl, hremoved⟩
          · have hne : target ≠ t := fun he => hnew (he ▸ ht)
            rw [if_neg hne]
            exact h.removed ht hd'

theorem TargetsListed.keys_nodup {j : Json} (hj : TargetsListed j) : (keys (fields j)).Nodup := by
  have hrec := hj.record
  cases j with
  | obj l => exact hrec
  | _ => cases hrec

theorem removeAllUsersConstraintsInfo_done {idStr : String} {j j' : Json} (hj : TargetsListed j)
    (h : removeAllUsersConstraintsInfo idStr j = some j') :
    TargetsDone idStr j (keys (fields j)).reverse j' := by
  have hstart : TargetsDone idStr j [] j := ⟨hj.record, fun _ => rfl, id, fun ht => by cases ht⟩
  have hdone := Machine.foldlM_invariant (removeUserConstraints_step hj) hj.keys_nodup hstart
    (fun _ _ hk => by cases hk) h
  rwa [List.append_nil] at hdone

/-- The list of all constraints stands before the constraints, as every writer
of the files lays them out. -/
def ListFirst (constraintType : String) (reserved : List String) (j : Json) : Prop :=
  ∃ pre post, keys (fields j) = pre ++ constraintType :: post ∧ ∀ key ∈ pre, key ∈ reserved

structure ListsFirst (s : ConstraintFiles) : Prop where
  global : ListFirst allGlobalConstraints globalReserved s.global
  specific {t : String} {d : Json} : getItemFromJson s.specific t = some d →
    ListFirst allSpecificConstraints specificReserved d

section defined

variable {constraintType idStr : String} {reserved : List String} {j : Json}

theorem walkFields_isSome {body : Walk → String → Option Walk} (hall : constraintType ∈ reserved)
    (hbody : ∀ {w w' : Walk} {done : List String} {key : String}, Removing constraintType reserved idStr j done w →
      key ∉ done → body w key = some w' → Removing constraintType reserved idStr j (key :: done) w')
    (hkept : ∀ {w : Walk} {key : String}, key ∈ reserved → w.replaced = [] → body w key = some w)
    (hfree : ∀ {w : Walk} {key : String}, key ∉ w.replaced → ∃ w', body w key = some w')
    (hj : Listed constraintType reserved j) (hfirst : ListFirst constraintType reserved j) :
    ∃ j', walkFields body j (getVectorStringFromJson j constraintType) = some j' := by
  obtain ⟨pre, post, hkeys, hpre⟩ := hfirst
  have hnodup := hj.keys_nodup
  rw [hkeys] at hnodup
  have hstay : ∀ keys : List String, (∀ key ∈ keys, key ∈ reserved) → ∀ w : Walk, w.replaced = [] →
      keys.foldlM body w = some w := by
    intro keys hkeys w hw
    induction keys with
    | nil => rfl
    | cons key keys ih =>
        rw [List.foldlM_cons, hkept (hkeys key List.mem_cons_self) hw]
        exact ih fun k hk => hkeys k (List.mem_cons_of_mem key hk)
  have hsplit : pre ++ constraintType :: post = (pre ++ [constraintType]) ++ post := by simp
  rw [hsplit] at hkeys hnodup
  have hfront : ∀ key ∈ pre ++ [constraintType], key ∈ reserved := by
    intro key hk
    rcases List.mem_append.mp hk with hk | hk
    · exact hpre key hk
    · rw [List.mem_singleton.mp hk]
      exact hall
  have hstart := hstay _ hfront ⟨⟨j, [], getVectorStringFromJson j constraintType⟩, []⟩ rfl
  obtain ⟨hnodupFront, hnodupPost, hdisjoint⟩ := List.nodup_append.mp hnodup
  have hdone := Machine.foldlM_invariant hbody hnodupFront (removing_start hj.record)
    (fun _ _ hk => by cases hk) hstart
  have htotal : ∀ {w : Walk} {done : List String} {key : String},
      Removing constraintType reserved idStr j done w ∧ constraintType ∈ done → key ∉ done →
      ∃ w', body w key = some w' ∧ Removing constraintType reserved idStr j (key :: done) w' ∧
        constraintType ∈ key :: done := by
    rintro w done key ⟨h, hty⟩ hkey
    have hnot : key ∉ w.replaced := by
      intro hk
      rcases h.replaced hk with hk | rfl
      · exact hkey hk
      · exact hkey hty
    obtain ⟨w', hw'⟩ := hfree hnot
    exact ⟨w', hw', hbody h hkey hw', List.mem_cons_of_mem key hty⟩
  have hnew : ∀ key ∈ post, key ∉ (pre ++ [constraintType]).reverse ++ [] := by
    intro key hk hd
    rw [List.append_nil, List.mem_reverse] at hd
    exact hdisjoint key hd key hk rfl
  obtain ⟨w, hw⟩ := Machine.foldlM_total
    (I := fun done w => Removing constraintType reserved idStr j done w ∧ constraintType ∈ done)
    htotal hnodupPost ⟨hdone, by simp⟩ hnew
  refine ⟨w.loop.waitForErase.foldl deleteItemFromJson w.loop.json, ?_⟩
  rw [walkFields, hkeys, List.foldlM_append, hstart]
  simp [hw]

theorem removeGlobal_isSome (hj : Listed allGlobalConstraints globalReserved j)
    (hfirst : ListFirst allGlobalConstraints globalReserved j) (idStr : String) :
    ∃ j', walkFields (removeGlobalSource idStr) j (getVectorStringFromJson j allGlobalConstraints) = some j' := by
  refine walkFields_isSome (by simp [globalReserved]) removeGlobalSource_step (fun {w key} hkey hw => ?_)
    (fun {w key} hkey => ?_) hj hfirst
  · have hreserved : ¬(key ≠ allGlobalConstraints ∧ key ≠ deviceOwnerId) := by
      simp only [globalReserved, List.mem_cons, List.not_mem_nil, or_false] at hkey
      tauto
    rw [removeGlobalSource, hw, if_neg List.not_mem_nil, if_neg hreserved]
  · rw [removeGlobalSource, if_neg hkey]
    split
    · exact ⟨_, rfl⟩
    · exact ⟨_, rfl⟩

theorem removeSpecific_isSome (hj : Listed allSpecificConstraints specificReserved j)
    (hfirst : ListFirst allSpecificConstraints specificReserved j) (idStr : String) :
    ∃ j', walkFields (removeSpecificSource idStr) j (getVectorStringFromJson j allSpecificConstraints) = some j' := by
  refine walkFields_isSome (by simp [specificReserved]) removeSpecificSource_step (fun {w key} hkey hw => ?_)
    (fun {w key} hkey => ?_) hj hfirst
  · rw [removeSpecificSource, hw, if_neg List.not_mem_nil, if_pos (by simpa [specificReserved] using hkey)]
  · rw [removeSpecificSource, if_neg hkey]
    split
    · exact ⟨_, rfl⟩
    · exact ⟨_, rfl⟩

theorem removeAllUsers_isSome (hj : TargetsListed j)
    (hfirst : ∀ {t d}, getItemFromJson j t = some d → ListFirst allSpecificConstraints specificReserved d)
    (idStr : String) : ∃ j', removeAllUsersConstraintsInfo idStr j = some j' := by
  have hstart : TargetsDone idStr j [] j := ⟨hj.record, fun _ => rfl, id, fun ht => by cases ht⟩
  refine Machine.foldlM_total (fun {j₁ done target} h hnew => ?_) hj.keys_nodup hstart
    (fun _ _ hk => by cases hk)
  have hsome : ∃ j₂, removeUserConstraintsFromSpecificObj idStr j₁ target = some j₂ := by
    unfold removeUserConstraintsFromSpecificObj
    rw [h.rest hnew]
    cases hd : getItemFromJson j target with
    | none => exact ⟨j₁, rfl⟩
    | some d =>
        obtain ⟨d', hd'⟩ := removeSpecific_isSome (hj.target hd) (hfirst hd) idStr
        simp only [hd', Option.map_some]
        split
        · exact ⟨_, rfl⟩
        · exact ⟨_, rfl⟩
  obtain ⟨j₂, hj₂⟩ := hsome
  exact ⟨j₂, hj₂, removeUserConstraints_step hj h hnew hj₂⟩

end defined

structure AccountRemoved (idStr : String) (s s' : ConstraintFiles) : Prop where
  base : getItemFromJson s'.base idStr = none
  otherBase {key : String} : key ≠ idStr → getItemFromJson s'.base key = getItemFromJson s.base key
  global {c : String} : c ∉ globalReserved → idStr ∉ getVectorStringFromJson s'.global c
  otherGlobal {c source : String} : c ∉ globalReserved → source ≠ idStr →
    (source ∈ getVectorStringFromJson s'.global c ↔ source ∈ getVectorStringFromJson s.global c)
  owner : getItemFromJson s'.global deviceOwnerId = getItemFromJson s.global deviceOwnerId
  onlyGlobal {c : String} : c ∉ globalReserved → (∀ source ∈ getVectorStringFromJson s.global c, source = idStr) →
    c ∉ getVectorStringFromJson s'.global allGlobalConstraints
  target : getItemFromJson s'.specific idStr = none
  otherTarget {t : String} : t ≠ idStr →
    (getItemFromJson s'.specific t = none ↔ getItemFromJson s.specific t = none)
  specific {t : String} {d d' : Json} : getItemFromJson s.specific t = some d →
    getItemFromJson s'.specific t = some d' → ∀ c ∉ specificReserved,
      idStr ∉ getVectorStringFromJson d' c ∧
      (∀ source ≠ idStr, source ∈ getVectorStringFromJson d' c ↔ source ∈ getVectorStringFromJson d c) ∧
      ((∀ source ∈ getVectorStringFromJson d c, source = idStr) →
        c ∉ getVectorStringFromJson d' allSpecificConstraints)

section removed

variable {constraintType idStr c : String} {reserved : List String} {j j' : Json}

theorem SourceRemoved.not_mem (h : SourceRemoved constraintType reserved idStr j j') (hc : c ∉ reserved) :
    idStr ∉ getVectorStringFromJson j' c := by
  rw [h.sources hc]
  simp

theorem SourceRemoved.mem_iff (h : SourceRemoved constraintType reserved idStr j j') (hc : c ∉ reserved)
    {source : String} (hne : source ≠ idStr) :
    source ∈ getVectorStringFromJson j' c ↔ source ∈ getVectorStringFromJson j c := by
  rw [h.sources hc]
  simp [hne]

theorem SourceRemoved.not_listed (h : SourceRemoved constraintType reserved idStr j j') (hc : c ∉ reserved)
    (honly : ∀ source ∈ getVectorStringFromJson j c, source = idStr) :
    c ∉ getVectorStringFromJson j' constraintType := by
  rw [h.listed.listed hc, h.sources hc, not_not, List.filter_eq_nil_iff]
  exact fun source hs => by simp [honly source hs]

theorem deleteTarget_eq (hj : IsRecord j) (t : String) :
    getItemFromJson (if isKeyExist j idStr then deleteItemFromJson j idStr else j) t =
      if idStr = t then none else getItemFromJson j t := by
  split
  · exact getItem_deleteItem hj idStr t
  · rename_i hkey
    by_cases ht : idStr = t
    · subst ht
      simpa [isKeyExist] using hkey
    · rw [if_neg ht]

end removed

theorem targetsListed_deleteTarget {j : Json} (hj : TargetsListed j) (idStr : String) :
    TargetsListed (if isKeyExist j idStr then deleteItemFromJson j idStr else j) := by
  refine ⟨?_, fun {t d} hd => ?_⟩
  · split
    · exact isRecord_deleteItem hj.record idStr
    · exact hj.record
  · rw [deleteTarget_eq hj.record, Option.ite_none_left_eq_some] at hd
    exact hj.target hd.2

theorem saved_ok {write : Ret} {file j j' : Json} (h : saved write file j = (.ok (), j')) : j' = j := by
  cases write with
  | error ret => cases h
  | ok _ => exact (congrArg Prod.snd h).symm

variable {a : FileAnswer} {id : Int} {file file' : Json}

theorem removeOABaseConstraintsInfo_ok
    (h : removeOABaseConstraintsInfo a id file = (.ok (), file')) : file' = deleteItemFromJson file (toString id) := by
  unfold removeOABaseConstraintsInfo at h
  split at h
  · cases h
  · cases h
  · exact (congrArg Prod.snd h).symm

theorem removeOAGlobalConstraintsInfo_ok
    (h : removeOAGlobalConstraintsInfo a id file = some (.ok (), file')) :
    walkFields (removeGlobalSource (toString id)) file (getVectorStringFromJson file allGlobalConstraints) =
      some file' := by
  unfold removeOAGlobalConstraintsInfo at h
  split at h
  · cases h
  · obtain ⟨j, hj, hsaved⟩ := Option.map_eq_some_iff.mp h
    rw [hj, saved_ok hsaved]

theorem removeOASpecificConstraintsInfo_ok
    (h : removeOASpecificConstraintsInfo a id file = some (.ok (), file')) :
    removeAllUsersConstraintsInfo (toString id) (if isKeyExist file (toString id) then
      deleteItemFromJson file (toString id) else file) = some file' := by
  unfold removeOASpecificConstraintsInfo at h
  split at h
  · cases h
  · obtain ⟨j, hj, hsaved⟩ := Option.map_eq_some_iff.mp h
    rw [hj, saved_ok hsaved]

theorem removeOAConstraintsInfo_ok {a : RemovalAnswer} {s s' : ConstraintFiles}
    (h : removeOAConstraintsInfo a id s = some (.ok (), s')) :
    removeOABaseConstraintsInfo a.base id s.base = (.ok (), s'.base) ∧
      removeOAGlobalConstraintsInfo a.global id s.global = some (.ok (), s'.global) ∧
      removeOASpecificConstraintsInfo a.specific id s.specific = some (.ok (), s'.specific) := by
  unfold removeOAConstraintsInfo at h
  split at h
  · cases h
  · rename_i base hbase
    rw [Option.bind_eq_bind, Option.bind_eq_some_iff] at h
    obtain ⟨⟨ret, global⟩, hglobal, h⟩ := h
    cases ret with
    | error ret => cases h
    | ok _ =>
        obtain ⟨⟨ret, specific⟩, hspecific, h⟩ := Option.bind_eq_some_iff.mp h
        obtain ⟨rfl, rfl⟩ := Prod.mk.inj (Option.some.inj h)
        exact ⟨hbase, hglobal, hspecific⟩

theorem accountRemoved {idStr : String} {s s' : ConstraintFiles} (hs : StoreListed s)
    (hbase : s'.base = deleteItemFromJson s.base idStr)
    (hglobal : SourceRemoved allGlobalConstraints globalReserved idStr s.global s'.global)
    (htargets : TargetsListed (if isKeyExist s.specific idStr then deleteItemFromJson s.specific idStr else s.specific))
    (hspecific : removeAllUsersConstraintsInfo idStr (if isKeyExist s.specific idStr then
      deleteItemFromJson s.specific idStr else s.specific) = some s'.specific) :
    StoreListed s' ∧ AccountRemoved idStr s s' := by
  have hdone := removeAllUsersConstraintsInfo_done htargets hspecific
  have hget (t : String) : getItemFromJson (if isKeyExist s.specific idStr then
      deleteItemFromJson s.specific idStr else s.specific) t =
        if idStr = t then none else getItemFromJson s.specific t := deleteTarget_eq hs.specific.record t
  have hvisited {t : String} {d : Json} (ht : t ≠ idStr) (hd : getItemFromJson s.specific t = some d) :
      ∃ d', getItemFromJson s'.specific t = some d' ∧
        SourceRemoved allSpecificConstraints specificReserved idStr d d' := by
    have hd' := hget t
    rw [if_neg (Ne.symm ht), hd] at hd'
    refine hdone.removed ?_ hd'
    rw [List.mem_reverse]
    by_contra hkey
    rw [getItem_eq_none_of_not_mem hkey] at hd'
    cases hd'
  have hgone : getItemFromJson s'.specific idStr = none := hdone.gone (by rw [hget, if_pos rfl])
  have hnone {t : String} (ht : getItemFromJson s.specific t = none) : getItemFromJson s'.specific t = none := by
    refine hdone.gone ?_
    rw [hget, ht]
    split
    · rfl
    · rfl
  refine ⟨⟨?_, hglobal.listed, hdone.record, fun {t d'} hd' => ?_⟩, ?_⟩
  · rw [hbase]
    exact isRecord_deleteItem hs.base idStr
  · have ht : t ≠ idStr := by
      rintro rfl
      rw [hgone] at hd'
      cases hd'
    cases hd : getItemFromJson s.specific t with
    | none =>
        rw [hnone hd] at hd'
        cases hd'
    | some d =>
        obtain ⟨d₂, hd₂, hremoved⟩ := hvisited ht hd
        obtain rfl := Option.some.inj (hd'.symm.trans hd₂)
        exact hremoved.listed
  · refine ⟨?_, fun {key} hne => ?_, hglobal.not_mem, fun hc => hglobal.mem_iff hc, ?_,
      hglobal.not_listed, hgone,
      fun {t} ht => ⟨fun hn => ?_, hnone⟩, fun {t d d'} hd hd' c hc => ?_⟩
    · rw [hbase, getItem_deleteItem hs.base, if_pos rfl]
    · rw [hbase, getItem_deleteItem hs.base, if_neg (Ne.symm hne)]
    · exact hglobal.others (by simp [globalReserved]) (by decide)
    · cases hd : getItemFromJson s.specific t with
      | none => rfl
      | some d =>
          obtain ⟨d', hd', -⟩ := hvisited ht hd
          rw [hn] at hd'
          cases hd'
    · have ht : t ≠ idStr := by
        rintro rfl
        rw [hgone] at hd'
        cases hd'
      obtain ⟨d₂, hd₂, hremoved⟩ := hvisited ht hd
      obtain rfl := Option.some.inj (hd'.symm.trans hd₂)
      exact ⟨hremoved.not_mem hc, fun _ => hremoved.mem_iff hc, hremoved.not_listed hc⟩

/-- A removal that succeeds leaves a store in which lists and keys agree and
nothing is left of the account, while all else is as it was; and with files that
can be read and written it does succeed. -/
theorem removeOAConstraintsInfo_removes (id : Int) (s : ConstraintFiles) (hs : StoreListed s) :
    (∀ a s', removeOAConstraintsInfo a id s = some (.ok (), s') →
      StoreListed s' ∧ AccountRemoved (toString id) s s') ∧
    (ListsFirst s → ∃ s', removeOAConstraintsInfo ⟨⟨.ok (), .ok ()⟩, ⟨.ok (), .ok ()⟩, ⟨.ok (), .ok ()⟩⟩ id s =
      some (.ok (), s')) := by
  have htargets := targetsListed_deleteTarget hs.specific (toString id)
  refine ⟨fun a s' h => ?_, fun hfirst => ?_⟩
  · obtain ⟨hbase, hglobal, hspecific⟩ := removeOAConstraintsInfo_ok h
    have hremoved := walkFields_sourceRemoved (by simp [globalReserved]) removeGlobalSource_step hs.global
      (removeOAGlobalConstraintsInfo_ok hglobal)
    exact accountRemoved hs (removeOABaseConstraintsInfo_ok hbase) hremoved htargets
      (removeOASpecificConstraintsInfo_ok hspecific)
  · obtain ⟨global, hglobal⟩ := removeGlobal_isSome hs.global hfirst.global (toString id)
    obtain ⟨specific, hspecific⟩ := removeAllUsers_isSome htargets (fun {t d} hd => by
      rw [deleteTarget_eq hs.specific.record, Option.ite_none_left_eq_some] at hd
      exact hfirst.specific hd.2) (toString id)
    have hglobal' : removeOAGlobalConstraintsInfo ⟨.ok (), .ok ()⟩ id s.global = some (.ok (), global) := by
      simp only [removeOAGlobalConstraintsInfo, hglobal, Option.map_some, saved]
    have hspecific' : removeOASpecificConstraintsInfo ⟨.ok (), .ok ()⟩ id s.specific =
        some (.ok (), specific) := by
      simp only [removeOASpecificConstraintsInfo, hspecific, Option.map_some, saved]
    refine ⟨⟨deleteItemFromJson s.base (toString id), global, specific⟩, ?_⟩
    simp only [removeOAConstraintsInfo, removeOABaseConstraintsInfo, hglobal', hspecific',
      Option.bind_eq_bind,
      Option.bind_some]

theorem listed_of_wellFormed {constraintType : String} {reserved : List String} {j : Json}
    (h : WellFormed constraintType reserved j) : Listed constraintType reserved j := ⟨h.record, h.listed⟩

/-- An account that accounts 100 and 102 forbid to use USB, and 100 alone to
send messages. -/
def usbForbidden : Json :=
  .obj [(allSpecificConstraints, .arr [.str "constraint.usb", .str "constraint.sms"]),
    ("constraint.usb", .arr [.str "100", .str "102"]), ("constraint.sms", .arr [.str "100"])]

theorem listed_usbForbidden : Listed allSpecificConstraints specificReserved usbForbidden := by
  have hlist : getVectorStringFromJson usbForbidden allSpecificConstraints =
      ["constraint.usb", "constraint.sms"] := by decide
  refine ⟨by simp [usbForbidden, IsRecord, keys, allSpecificConstraints], fun {c} hc => ?_⟩
  rw [hlist]
  by_cases husb : "constraint.usb" = c
  · subst husb
    decide
  · by_cases hsms : "constraint.sms" = c
    · subst hsms
      decide
    · have hall : allSpecificConstraints ≠ c := fun h => hc (by simp [specificReserved, h])
      simp [getVectorStringFromJson, getItemFromJson, usbForbidden, fields, find, strings, husb, hsms, hall,
        Ne.symm husb, Ne.symm hsms]

def twoAccounts : ConstraintFiles where
  base := .obj [("100", .arr [.str "constraint.wifi"]), ("101", .arr [])]
  global := wifiForbidden
  specific := .obj [("100", emptyTarget), ("101", usbForbidden)]

theorem storeListed_twoAccounts : StoreListed twoAccounts ∧ ListsFirst twoAccounts := by
  have htarget : ∀ t d, getItemFromJson twoAccounts.specific t = some d → d = emptyTarget ∨ d = usbForbidden := by
    intro t d hd
    simp only [getItemFromJson, twoAccounts, fields, find] at hd
    split_ifs at hd with h₀ h₁ h₂
    · exact .inl (Option.some.inj hd).symm
    · exact .inr (Option.some.inj hd).symm
  refine ⟨⟨?_, listed_of_wellFormed wellFormed_wifiForbidden, ?_, fun {t d} hd => ?_⟩, ?_, fun {t d} hd => ?_⟩
  · simp [twoAccounts, IsRecord, keys]
  · simp [twoAccounts, IsRecord, keys]
  · obtain rfl | rfl := htarget t d hd
    · exact listed_of_wellFormed wellFormed_emptyTarget
    · exact listed_usbForbidden
  · exact ⟨[deviceOwnerId], ["constraint.wifi"], rfl, by simp [globalReserved]⟩
  · obtain rfl | rfl := htarget t d hd
    · exact ⟨[], [], rfl, by simp⟩
    · exact ⟨[], ["constraint.usb", "constraint.sms"], rfl, by simp⟩

theorem removeOAConstraintsInfo_twoAccounts :
    ∃ s', removeOAConstraintsInfo ⟨⟨.ok (), .ok ()⟩, ⟨.ok (), .ok ()⟩, ⟨.ok (), .ok ()⟩⟩ 100 twoAccounts =
        some (.ok (), s') ∧
      "constraint.wifi" ∉ getVectorStringFromJson s'.global allGlobalConstraints ∧
      getItemFromJson s'.base "101" = some (.arr []) ∧
      ∃ d, getItemFromJson s'.specific "101" = some d ∧ "102" ∈ getVectorStringFromJson d "constraint.usb" ∧
        "constraint.sms" ∉ getVectorStringFromJson d allSpecificConstraints := by
  obtain ⟨hs, hfirst⟩ := storeListed_twoAccounts
  obtain ⟨hremoves, hreturns⟩ := removeOAConstraintsInfo_removes 100 twoAccounts hs
  obtain ⟨s', hs'⟩ := hreturns hfirst
  obtain ⟨-, hremoved⟩ := hremoves _ _ hs'
  refine ⟨s', hs', hremoved.onlyGlobal (by decide) (by decide), ?_, ?_⟩
  · rw [hremoved.otherBase (by decide)]
    rfl
  · have hbefore : getItemFromJson twoAccounts.specific "101" = some usbForbidden := rfl
    cases hd : getItemFromJson s'.specific "101" with
    | none => simp [(hremoved.otherTarget (by decide)).mp hd] at hbefore
    | some d =>
        obtain ⟨-, husb, -⟩ := hremoved.specific hbefore hd "constraint.usb" (by decide)
        obtain ⟨-, -, hsms⟩ := hremoved.specific hbefore hd "constraint.sms" (by decide)
        exact ⟨d, rfl, (husb "102" (by decide)).mpr (by decide), hsms (by decide)⟩

end OsAccount.ConstraintRemoval
