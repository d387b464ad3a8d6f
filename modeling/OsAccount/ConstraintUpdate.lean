import OsAccount.ConstraintStore

namespace OsAccount.ConstraintUpdate

open JsonUtils ConstraintStore

variable {j : Json}

theorem isRecord_addVector (h : IsRecord j) (key : String) (vec : List String) :
    IsRecord (addVectorStringToJson j key vec) := isRecord_setItem h key _

theorem getItem_addVector_of_ne (h : IsRecord j) {key key' : String} (hk : key ≠ "") (hne : key ≠ key')
    (vec : List String) : getItemFromJson (addVectorStringToJson j key vec) key' = getItemFromJson j key' := by
  rw [addVectorStringToJson, getItem_setItem h hk, if_neg hne]

theorem getVector_addVector (h : IsRecord j) {key : String} (hk : key ≠ "") (vec : List String)
    (key' : String) :
    getVectorStringFromJson (addVectorStringToJson j key vec) key' =
      if key = key' then vec else getVectorStringFromJson j key' := by
  rw [getVectorStringFromJson, addVectorStringToJson, getItem_setItem h hk]
  split
  · rw [strings_arr]
  · rfl

section operate

variable {constraintType idStr : String} {reserved : List String}

/-- What the loop has in mind about a constraint: the keys that wait for their
deletion count as deleted. -/
def sourcesOf (l : Loop) (c : String) : List String :=
  if c ∈ l.waitForErase then [] else getVectorStringFromJson l.json c

structure LoopInv (constraintType : String) (reserved : List String) (idStr : String) (l : Loop) : Prop where
  record : IsRecord l.json
  list : getVectorStringFromJson l.json constraintType = l.constraintsList
  nodup : l.constraintsList.Nodup
  notReserved {c : String} : c ∈ l.constraintsList → c ∉ reserved
  listed {c : String} : c ∉ reserved → (c ∈ l.constraintsList ↔ sourcesOf l c ≠ [])
  sources {c : String} : c ∉ reserved → (sourcesOf l c).Nodup
  waiting {c : String} : c ∈ l.waitForErase →
    c ∉ reserved ∧ (getVectorStringFromJson l.json c).filter (· ≠ idStr) = []

variable {j : Json}

theorem loopInv_start (h : WellFormed constraintType reserved j) (idStr : String) :
    LoopInv constraintType reserved idStr ⟨j, [], getVectorStringFromJson j constraintType⟩ where
  record := h.record
  list := rfl
  nodup := h.nodup
  notReserved := h.notReserved
  listed hc := by simpa [sourcesOf] using h.listed hc
  sources hc := by simpa [sourcesOf] using h.sources hc
  waiting hc := by cases hc

theorem foldl_deleteItem (h : IsRecord j) (ks : List String) :
    IsRecord (ks.foldl deleteItemFromJson j) ∧ ∀ key, getItemFromJson (ks.foldl deleteItemFromJson j) key =
      if key ∈ ks then none else getItemFromJson j key := by
  induction ks generalizing j with
  | nil => exact ⟨h, fun key => by simp⟩
  | cons k ks ih =>
      obtain ⟨hrec, hget⟩ := ih (isRecord_deleteItem h k)
      refine ⟨hrec, fun key => ?_⟩
      rw [List.foldl_cons, hget, getItem_deleteItem h]
      by_cases hk : k = key
      · simp [hk]
      · simp [hk, Ne.symm hk]

variable {l : Loop}

theorem wellFormed_of_loopInv (hall : constraintType ∈ reserved)
    (h : LoopInv constraintType reserved idStr l) :
    WellFormed constraintType reserved (l.waitForErase.foldl deleteItemFromJson l.json) ∧
    (∀ c, getVectorStringFromJson (l.waitForErase.foldl deleteItemFromJson l.json) c = sourcesOf l c) ∧
    (∀ key ∈ reserved, getItemFromJson (l.waitForErase.foldl deleteItemFromJson l.json) key =
      getItemFromJson l.json key) := by
  obtain ⟨hrec, hget⟩ := foldl_deleteItem h.record l.waitForErase
  have hsources : ∀ c, getVectorStringFromJson (l.waitForErase.foldl deleteItemFromJson l.json) c =
      sourcesOf l c := by
    intro c
    rw [getVectorStringFromJson, hget, sourcesOf]
    split
    · rfl
    · rfl
  have hreserved : ∀ key ∈ reserved, key ∉ l.waitForErase := fun key hk hw => (h.waiting hw).1 hk
  have hlist : sourcesOf l constraintType = l.constraintsList := by
    rw [sourcesOf, if_neg (hreserved _ hall), h.list]
  refine ⟨⟨hrec, ?_, fun hc => ?_, fun hc => ?_, fun hc => ?_⟩, hsources, fun key hk => ?_⟩
  · rw [hsources, hlist]
    exact h.nodup
  · rw [hsources, hlist] at hc
    exact h.notReserved hc
  · rw [hsources, hsources, hlist]
    exact h.listed hc
  · rw [hsources]
    exact h.sources hc
  · rw [hget, if_neg (hreserved key hk)]

def changed (isAdd : Bool) (before touched : Prop) : Prop :=
  if isAdd then before ∨ touched else before ∧ ¬touched

theorem changed_or (isAdd : Bool) (before t₁ t₂ : Prop) :
    changed isAdd (changed isAdd before t₁) t₂ ↔ changed isAdd before (t₁ ∨ t₂) := by
  cases isAdd
  · simp only [changed, Bool.false_eq_true, if_false]
    tauto
  · simp only [changed, if_true]
    tauto

/-- From one state of the loop to a later one, the source is added to, or
removed from, the constraints that were touched. -/
structure Steps (constraintType : String) (reserved : List String) (idStr : String) (isAdd : Bool)
    (touched : String → Prop) (l l' : Loop) : Prop where
  inv : LoopInv constraintType reserved idStr l'
  waitForErase : isAdd = true → l'.waitForErase = []
  effect {c source : String} : c ∉ reserved →
    (source ∈ sourcesOf l' c ↔ changed isAdd (source ∈ sourcesOf l c) (touched c ∧ source = idStr))
  others {key : String} : key ∈ reserved → key ≠ constraintType →
    getItemFromJson l'.json key = getItemFromJson l.json key

variable {isAdd : Bool}

theorem Steps.trans {t₁ t₂ : String → Prop} {l₁ l₂ l₃ : Loop}
    (h : Steps constraintType reserved idStr isAdd t₁ l₁ l₂) (k : Steps constraintType reserved idStr isAdd t₂ l₂ l₃) :
    Steps constraintType reserved idStr isAdd (fun c => t₁ c ∨ t₂ c) l₁ l₃ where
  inv := k.inv
  waitForErase := k.waitForErase
  effect hc := by
    rw [k.effect hc, or_and_right, ← changed_or]
    unfold changed
    rw [h.effect hc]
    rfl
  others hk hne := (k.others hk hne).trans (h.others hk hne)

structure Changes (constraintType : String) (reserved : List String) (c : String) (vec : List String)
    (l l' : Loop) : Prop where
  record : IsRecord l'.json
  list : getVectorStringFromJson l'.json constraintType = l'.constraintsList
  nodup : l'.constraintsList.Nodup
  mem {c' : String} : c' ∈ l'.constraintsList ↔ if c = c' then vec ≠ [] else c' ∈ l.constraintsList
  sources {c' : String} : c' ∉ reserved → sourcesOf l' c' = if c = c' then vec else sourcesOf l c'
  others {key : String} : key ∈ reserved → key ≠ constraintType →
    getItemFromJson l'.json key = getItemFromJson l.json key

variable {c : String}

theorem Changes.steps {l l' : Loop} {v : List String}
    (hch : Changes constraintType reserved c v l l') (h : LoopInv constraintType reserved idStr l)
    (hc : c ∉ reserved) (hvec : v.Nodup)
    (heffect : ∀ source, source ∈ v ↔ changed isAdd (source ∈ sourcesOf l c) (source = idStr))
    (hwait : ∀ c ∈ l'.waitForErase, c ∉ reserved ∧
      (getVectorStringFromJson l'.json c).filter (· ≠ idStr) = [])
    (hnone : isAdd = true → l'.waitForErase = []) :
    Steps constraintType reserved idStr isAdd (· = c) l l' := by
  refine ⟨⟨hch.record, hch.list, hch.nodup, fun {c'} hc' => ?_, fun {c'} hc' => ?_, fun {c'} hc' => ?_,
    fun {c'} => hwait c'⟩, hnone, fun {c' source} hc' => ?_, hch.others⟩
  · rw [hch.mem] at hc'
    split at hc'
    · rename_i he
      rw [← he]
      exact hc
    · exact h.notReserved hc'
  · rw [hch.mem, hch.sources hc']
    split
    · rfl
    · exact h.listed hc'
  · rw [hch.sources hc']
    split
    · exact hvec
    · exact h.sources hc'
  · rw [hch.sources hc']
    split
    · rename_i he
      subst he
      simp [heffect]
    · rename_i he
      cases isAdd <;> simp [changed, Ne.symm he]

theorem sourcesOf_of_not_mem (h : c ∉ l.waitForErase) :
    sourcesOf l c = getVectorStringFromJson l.json c := if_neg h

theorem changes_sources (hall : constraintType ∈ reserved)
    (h : LoopInv constraintType reserved idStr l) (hc : c ∉ reserved) (hc₀ : c ≠ "")
    (hw : c ∉ l.waitForErase) (hlisted : c ∈ l.constraintsList) {vec : List String} (hvec : vec ≠ []) :
    Changes constraintType reserved c vec l { l with json := addVectorStringToJson l.json c vec } := by
  have hget := getVector_addVector h.record hc₀ vec
  refine ⟨isRecord_addVector h.record _ _, ?_, h.nodup, fun {c'} => ?_, fun {c'} _ => ?_,
    fun {key} hk _ => ?_⟩
  · have hca : c ≠ constraintType := fun he => hc (he ▸ hall)
    rw [hget, if_neg hca, h.list]
  · split
    · rename_i he
      rw [← he]
      exact iff_of_true hlisted hvec
    · rfl
  · simp only [sourcesOf, hget]
    by_cases he : c = c'
    · subst he
      simp [hw]
    · simp [he]
  · have hkc : c ≠ key := fun he => hc (he ▸ hk)
    exact getItem_addVector_of_ne h.record hc₀ hkc vec

theorem changes_listed (hall : constraintType ∈ reserved) (hne : constraintType ≠ "")
    (h : LoopInv constraintType reserved idStr l) (hw : l.waitForErase = []) (hc : c ∉ reserved)
    (hc₀ : c ≠ "") (hlisted : c ∉ l.constraintsList) :
    Changes constraintType reserved c [idStr] l { l with
      json := addVectorStringToJson (addVectorStringToJson l.json c [idStr]) constraintType (l.constraintsList ++ [c])
      constraintsList := l.constraintsList ++ [c] } := by
  have hrec := isRecord_addVector h.record c [idStr]
  have hget : ∀ c', getVectorStringFromJson (addVectorStringToJson (addVectorStringToJson l.json c [idStr])
      constraintType (l.constraintsList ++ [c])) c' =
      if constraintType = c' then l.constraintsList ++ [c] else if c = c' then [idStr]
      else getVectorStringFromJson l.json c' := by
    intro c'
    rw [getVector_addVector hrec hne, getVector_addVector h.record hc₀]
  refine ⟨isRecord_addVector hrec _ _, ?_, ?_, fun {c'} => ?_, fun {c'} hc' => ?_, fun {key} hk hka => ?_⟩
  · rw [hget, if_pos rfl]
  · exact h.nodup.append (List.nodup_singleton _) (by simpa using hlisted)
  · by_cases he : c = c'
    · simp [he]
    · simp [he, Ne.symm he]
  · have hca : constraintType ≠ c' := fun he => hc' (he ▸ hall)
    simp [sourcesOf, hw, hget, hca]
  · have hkc : c ≠ key := fun he => hc (he ▸ hk)
    rw [getItem_addVector_of_ne hrec hne (Ne.symm hka), getItem_addVector_of_ne h.record hc₀ hkc]

theorem changes_unlisted (hall : constraintType ∈ reserved) (hne : constraintType ≠ "")
    (h : LoopInv constraintType reserved idStr l) (c : String) :
    Changes constraintType reserved c [] l
      ⟨addVectorStringToJson l.json constraintType (l.constraintsList.filter (· ≠ c)), l.waitForErase ++ [c],
        l.constraintsList.filter (· ≠ c)⟩ := by
  have hget := getVector_addVector h.record hne (l.constraintsList.filter (· ≠ c))
  refine ⟨isRecord_addVector h.record _ _, ?_, h.nodup.filter _, fun {c'} => ?_, fun {c'} hc' => ?_,
    fun {key} _ hka => getItem_addVector_of_ne h.record hne (Ne.symm hka) _⟩
  · rw [hget, if_pos rfl]
  · by_cases he : c = c'
    · simp [he]
    · simp [he, Ne.symm he]
  · have hca : constraintType ≠ c' := fun he => hc' (he ▸ hall)
    by_cases he : c = c'
    · simp [sourcesOf, he]
    · simp only [sourcesOf, hget, if_neg hca, List.mem_append, List.mem_singleton, Ne.symm he,
        or_false, he, if_false]

theorem addConstraint_steps (hall : constraintType ∈ reserved) (hne : constraintType ≠ "")
    (h : LoopInv constraintType reserved idStr l) (hw : l.waitForErase = []) (hc : c ∉ reserved)
    (hc₀ : c ≠ "") :
    Steps constraintType reserved idStr true (· = c) l (addConstraint constraintType c idStr l) := by
  have hwc : c ∉ l.waitForErase := by simp [hw]
  have hwait : ∀ {P : String → Prop}, ∀ c ∈ l.waitForErase, P c := by simp [hw]
  have hsources := sourcesOf_of_not_mem hwc
  unfold addConstraint
  split
  · rename_i hlisted
    simp only
    split
    · -- the source is there already
      rename_i hid
      refine ⟨h, fun _ => hw, fun {c' source} _ => ?_, fun _ _ => rfl⟩
      simp only [changed, if_true, iff_self_or]
      rintro ⟨rfl, rfl⟩
      rw [hsources]
      exact hid
    · rename_i hid
      refine (changes_sources hall h hc hc₀ hwc hlisted (by simp)).steps h hc ?_
        (fun source => ?_) hwait (fun _ => hw)
      · have hnodup := h.sources hc
        rw [hsources] at hnodup
        exact hnodup.append (List.nodup_singleton _) (by simpa using hid)
      · simp [changed, hsources]
  · rename_i hlisted
    have hempty : sourcesOf l c = [] := by
      have hiff := h.listed hc
      tauto
    refine (changes_listed hall hne h hw hc hc₀ hlisted).steps h hc (List.nodup_singleton _)
      (fun source => ?_) hwait
      (fun _ => hw)
    simp [changed, hempty]

theorem removeConstraints_steps (hall : constraintType ∈ reserved) (hne : constraintType ≠ "")
    (h : LoopInv constraintType reserved idStr l) (hc : c ∉ reserved) (hc₀ : c ≠ "") :
    Steps constraintType reserved idStr false (· = c) l
      (removeConstraintsFromJsonOperate constraintType c idStr l) := by
  have hca : constraintType ≠ c := fun he => hc (he ▸ hall)
  unfold removeConstraintsFromJsonOperate
  simp only
  split
  · -- the last source goes: the key is left for later
    rename_i hlast
    have hget := getVector_addVector h.record hne (l.constraintsList.filter (· ≠ c))
    refine (changes_unlisted hall hne h c).steps h hc List.nodup_nil (fun source => ?_) (fun c' hw => ?_)
      (fun hadd => by cases hadd)
    · simp only [changed, Bool.false_eq_true, if_false, List.not_mem_nil, false_iff, not_and, not_not]
      intro hs
      unfold sourcesOf at hs
      split at hs
      · cases hs
      · by_contra hid
        have hmem : source ∈ (getVectorStringFromJson l.json c).filter (· ≠ idStr) :=
          List.mem_filter.mpr ⟨hs, by simpa using hid⟩
        rw [hlast] at hmem
        cases hmem
    · rcases List.mem_append.mp hw with hw | hw
      · have hca' : constraintType ≠ c' := fun he => (h.waiting hw).1 (he ▸ hall)
        rw [hget, if_neg hca']
        exact h.waiting hw
      · rw [List.mem_singleton.mp hw, hget, if_neg hca]
        exact ⟨hc, hlast⟩
  · rename_i hsome
    have hw : c ∉ l.waitForErase := fun hw => hsome (h.waiting hw).2
    have hsources := sourcesOf_of_not_mem hw
    have hlisted : c ∈ l.constraintsList := by
      rw [h.listed hc, hsources]
      intro hnil
      rw [hnil] at hsome
      exact hsome rfl
    refine (changes_sources hall h hc hc₀ hw hlisted hsome).steps h hc ?_ (fun source => ?_)
      (fun c' hw' => ?_)
      (fun hadd => by cases hadd)
    · have hnodup := h.sources hc
      rw [hsources] at hnodup
      exact hnodup.filter _
    · simp [changed, hsources]
    · have hcc : c ≠ c' := fun he => hw (he ▸ hw')
      rw [getVector_addVector h.record hc₀, if_neg hcc]
      exact h.waiting hw'

theorem steps_self (h : LoopInv constraintType reserved idStr l) (hs : sourcesOf l c = []) :
    Steps constraintType reserved idStr false (· = c) l l := by
  refine ⟨h, fun hadd => (by cases hadd), fun {c' source} _ => ?_, fun _ _ => rfl⟩
  simp only [changed, Bool.false_eq_true, if_false]
  constructor
  · refine fun hm => ⟨hm, ?_⟩
    rintro ⟨rfl, -⟩
    rw [hs] at hm
    cases hm
  · exact And.left

theorem foldl_steps {body : Loop → String → Loop}
    (hbody : ∀ l c, LoopInv constraintType reserved idStr l → (isAdd = true → l.waitForErase = []) →
      c ∉ reserved → c ≠ "" → Steps constraintType reserved idStr isAdd (· = c) l (body l c))
    (constraints : List String) (hcs : ∀ c ∈ constraints, c ∉ reserved ∧ c ≠ "")
    (h : LoopInv constraintType reserved idStr l) (hw : isAdd = true → l.waitForErase = []) :
    Steps constraintType reserved idStr isAdd (· ∈ constraints) l (constraints.foldl body l) := by
  induction constraints generalizing l with
  | nil =>
      refine ⟨h, hw, fun _ => ?_, fun _ _ => rfl⟩
      cases isAdd <;> simp [changed]
  | cons c cs ih =>
      have hc := hcs c List.mem_cons_self
      have hstep := hbody l c h hw hc.1 hc.2
      have hrest := ih (fun c' hc' => hcs c' (List.mem_cons_of_mem c hc')) hstep.inv hstep.waitForErase
      simpa only [List.foldl_cons, List.mem_cons] using hstep.trans hrest

structure Operates (constraintType : String) (reserved : List String) (idStr : String) (constraints : List String)
    (isAdd : Bool) (j j' : Json) : Prop where
  wellFormed : WellFormed constraintType reserved j'
  imposed {c source : String} : Imposed constraintType j' c source ↔
    changed isAdd (Imposed constraintType j c source) (c ∈ constraints ∧ source = idStr)
  others {key : String} : key ∈ reserved → key ≠ constraintType → getItemFromJson j' key = getItemFromJson j key

theorem imposed_iff (h : WellFormed constraintType reserved j) (c source : String) :
    Imposed constraintType j c source ↔ c ∉ reserved ∧ source ∈ getVectorStringFromJson j c := by
  constructor
  · rintro ⟨hc, hs⟩
    exact ⟨h.notReserved hc, hs⟩
  · rintro ⟨hc, hs⟩
    exact ⟨(h.listed hc).mpr (List.ne_nil_of_mem hs), hs⟩

theorem dataOperate_operates {body : Loop → String → Loop} (hall : constraintType ∈ reserved)
    (hbody : ∀ l c, LoopInv constraintType reserved idStr l → (isAdd = true → l.waitForErase = []) →
      c ∉ reserved → c ≠ "" → Steps constraintType reserved idStr isAdd (· = c) l (body l c))
    {constraints : List String} (hcs : ∀ c ∈ constraints, c ∉ reserved ∧ c ≠ "")
    (h : WellFormed constraintType reserved j) :
    Operates constraintType reserved idStr constraints isAdd j (dataOperate constraintType body constraints j) := by
  have hsteps := foldl_steps hbody constraints hcs (loopInv_start h idStr) (fun _ => rfl)
  unfold dataOperate
  obtain ⟨hwf, hsources, hreserved⟩ := wellFormed_of_loopInv hall hsteps.inv
  refine ⟨hwf, fun {c source} => ?_, fun hk hne => (hreserved _ hk).trans (hsteps.others hk hne)⟩
  rw [imposed_iff hwf, imposed_iff h, hsources]
  by_cases hc : c ∈ reserved
  · have hcs' : c ∉ constraints := fun hm => (hcs c hm).1 hc
    cases isAdd <;> simp [changed, hc, hcs']
  · rw [hsteps.effect hc]
    simp [hc, sourcesOf]

end operate

def globalReserved : List String := [allGlobalConstraints, deviceOwnerId]

def specificReserved : List String := [allSpecificConstraints]

variable {constraints : List String} {isAdd : Bool}

theorem globalConstraintsDataOperate_operates {idStr : String}
    (hcs : ∀ c ∈ constraints, c ∉ globalReserved ∧ c ≠ "")
    (h : WellFormed allGlobalConstraints globalReserved j) :
    Operates allGlobalConstraints globalReserved idStr constraints isAdd j
      (globalConstraintsDataOperate idStr constraints isAdd j) := by
  have hall : allGlobalConstraints ∈ globalReserved := by simp [globalReserved]
  have hne : allGlobalConstraints ≠ "" := by decide
  apply dataOperate_operates hall _ hcs h
  intro l c hl hw hc hc₀
  cases isAdd with
  | true => exact addConstraint_steps hall hne hl (hw rfl) hc hc₀
  | false =>
      simp only [Bool.false_eq_true, if_false]
      split
      · exact removeConstraints_steps hall hne hl hc hc₀
      · rename_i hlisted
        apply steps_self hl
        have hiff := hl.listed hc
        tauto

theorem specificConstraintsDataOperate_operates {idStr : String}
    (hcs : ∀ c ∈ constraints, c ∉ specificReserved ∧ c ≠ "")
    (h : WellFormed allSpecificConstraints specificReserved j) :
    Operates allSpecificConstraints specificReserved idStr constraints isAdd j
      (specificConstraintsDataOperate idStr constraints isAdd j) := by
  have hall : allSpecificConstraints ∈ specificReserved := by simp [specificReserved]
  have hne : allSpecificConstraints ≠ "" := by decide
  apply dataOperate_operates hall _ hcs h
  intro l c hl hw hc hc₀
  cases isAdd with
  | true => exact addConstraint_steps hall hne hl (hw rfl) hc hc₀
  | false =>
      simp only [Bool.false_eq_true, if_false]
      split
      · exact removeConstraints_steps hall hne hl hc hc₀
      · -- without a key there is no source
        rename_i hkey
        apply steps_self hl
        have hnone : getItemFromJson l.json c = none := by
          simpa [isKeyExist, Option.isSome_iff_ne_none] using hkey
        simp [sourcesOf, getVectorStringFromJson, hnone, strings]

structure TargetsWellFormed (j : Json) : Prop where
  record : IsRecord j
  target {t : String} {d : Json} : getItemFromJson j t = some d →
    WellFormed allSpecificConstraints specificReserved d

def ImposedOn (j : Json) (t c source : String) : Prop :=
  ∃ d, getItemFromJson j t = some d ∧ Imposed allSpecificConstraints d c source

theorem wellFormed_emptyTarget : WellFormed allSpecificConstraints specificReserved emptyTarget := by
  have hnone : ∀ c, getVectorStringFromJson emptyTarget c = [] := by
    intro c
    by_cases hc : allSpecificConstraints = c
    · simp [← hc, getVectorStringFromJson, getItemFromJson, emptyTarget, fields, Fields.find, strings]
    · simp [getVectorStringFromJson, getItemFromJson, emptyTarget, fields, Fields.find, strings, hc]
  refine ⟨by simp [emptyTarget, IsRecord, Fields.keys], ?_, fun hc => ?_, fun _ => ?_, fun _ => ?_⟩
  · rw [hnone]
    exact List.nodup_nil
  · rw [hnone] at hc
    cases hc
  · simp [hnone]
  · rw [hnone]
    exact List.nodup_nil

theorem getItem_specificTargetOperate (idStr : String) (isAdd : Bool) {t : String} (ht : t ≠ "")
    (constraints : List String) {j d : Json} (h : IsRecord j) (hd : getItemFromJson j t = some d) (t' : String) :
    getItemFromJson (specificTargetOperate idStr t constraints isAdd j) t' =
      if t = t' then some (specificConstraintsDataOperate idStr constraints isAdd d) else getItemFromJson j t' := by
  simp only [specificTargetOperate, hd, addObjToJson, getItem_setItem h ht]

theorem specificTargetOperate_operates (idStr : String) (isAdd : Bool) {t : String}
    (ht : t ≠ "") (hcs : ∀ c ∈ constraints, c ∉ specificReserved ∧ c ≠ "") {j d : Json} (h : TargetsWellFormed j)
    (hd : getItemFromJson j t = some d) :
    TargetsWellFormed (specificTargetOperate idStr t constraints isAdd j) ∧
    (∀ c source, ImposedOn (specificTargetOperate idStr t constraints isAdd j) t c source ↔
      changed isAdd (Imposed allSpecificConstraints d c source) (c ∈ constraints ∧ source = idStr)) ∧
    (∀ t' ≠ t, getItemFromJson (specificTargetOperate idStr t constraints isAdd j) t' = getItemFromJson j t') := by
  have hop : Operates allSpecificConstraints specificReserved idStr constraints isAdd d
      (specificConstraintsDataOperate idStr constraints isAdd d) :=
    specificConstraintsDataOperate_operates hcs (h.target hd)
  have hget := getItem_specificTargetOperate idStr isAdd ht constraints h.record hd
  refine ⟨⟨?_, fun {t' d'} hd' => ?_⟩, fun c source => ?_, fun t' hne => ?_⟩
  · simp only [specificTargetOperate, hd]
    exact isRecord_setItem h.record _ _
  · rw [hget] at hd'
    split at hd'
    · cases hd'
      exact hop.wellFormed
    · exact h.target hd'
  · simp only [ImposedOn, hget, if_true, Option.some.injEq, exists_eq_left']
    exact hop.imposed
  · rw [hget, if_neg (Ne.symm hne)]

theorem updateSpecificOAConstraints_operates {idStr t : String}
    (ht : t ≠ "") (hcs : ∀ c ∈ constraints, c ∉ specificReserved ∧ c ≠ "") (h : TargetsWellFormed j) :
    ∃ j', updateSpecificOAConstraints ⟨.ok (), .ok ()⟩ idStr t constraints isAdd j = (.ok (), j') ∧
      TargetsWellFormed j' ∧
      (∀ c source, ImposedOn j' t c source ↔
        changed isAdd (ImposedOn j t c source) (c ∈ constraints ∧ source = idStr)) ∧
      (∀ t' ≠ t, getItemFromJson j' t' = getItemFromJson j t') := by
  cases hd : getItemFromJson j t with
  | some d =>
      obtain ⟨hwf, himp, hothers⟩ := specificTargetOperate_operates idStr isAdd ht hcs h hd
      refine ⟨_, by simp [updateSpecificOAConstraints, isKeyExist, hd], hwf, fun c source => ?_, hothers⟩
      rw [himp]
      simp [ImposedOn, hd]
  | none =>
      have hkey : isKeyExist j t = false := by simp [isKeyExist, hd]
      have hnone : ∀ c source, ¬ImposedOn j t c source := by simp [ImposedOn, hd]
      cases isAdd with
      | false =>
          refine ⟨j, by simp [updateSpecificOAConstraints, hkey], h, fun c source => ?_, fun _ _ => rfl⟩
          simp [changed, hnone]
      | true =>
          have hget := getItem_setItem h.record ht emptyTarget
          have h' : TargetsWellFormed (addObjToJson j t emptyTarget) := by
            refine ⟨isRecord_setItem h.record _ _, fun {t' d'} hd' => ?_⟩
            rw [addObjToJson, hget] at hd'
            split at hd'
            · cases hd'
              exact wellFormed_emptyTarget
            · exact h.target hd'
          have hd' : getItemFromJson (addObjToJson j t emptyTarget) t = some emptyTarget := by
            rw [addObjToJson, hget, if_pos rfl]
          obtain ⟨hwf, himp, hothers⟩ := specificTargetOperate_operates idStr true ht hcs h' hd'
          refine ⟨_, by simp [updateSpecificOAConstraints, hkey], hwf, fun c source => ?_, fun t' hne => ?_⟩
          · rw [himp]
            simp [changed, hnone, Imposed, getVectorStringFromJson, getItemFromJson, emptyTarget,
              fields, Fields.find,
              strings, allSpecificConstraints]
          · rw [hothers t' hne, addObjToJson, hget, if_neg (Ne.symm hne)]

/-- Both updates keep their store well formed and change who imposes what by
the given constraints and the given source, and nothing else. -/
theorem updateOAConstraints_exact (idStr : String) (constraints : List String) (isAdd : Bool)
    (hne : "" ∉ constraints) :
    (∀ j, WellFormed allGlobalConstraints globalReserved j → (∀ c ∈ constraints, c ∉ globalReserved) →
      ∃ j', updateGlobalOAConstraints ⟨.ok (), .ok ()⟩ idStr constraints isAdd j = (.ok (), j') ∧
        WellFormed allGlobalConstraints globalReserved j' ∧
        (∀ c source, Imposed allGlobalConstraints j' c source ↔
          changed isAdd (Imposed allGlobalConstraints j c source) (c ∈ constraints ∧ source = idStr)) ∧
        getItemFromJson j' deviceOwnerId = getItemFromJson j deviceOwnerId) ∧
    (∀ t j, t ≠ "" → TargetsWellFormed j → (∀ c ∈ constraints, c ∉ specificReserved) →
      ∃ j', updateSpecificOAConstraints ⟨.ok (), .ok ()⟩ idStr t constraints isAdd j = (.ok (), j') ∧
        TargetsWellFormed j' ∧
        (∀ c source, ImposedOn j' t c source ↔
          changed isAdd (ImposedOn j t c source) (c ∈ constraints ∧ source = idStr)) ∧
        ∀ t' ≠ t, getItemFromJson j' t' = getItemFromJson j t') := by
  have hne' : ∀ c ∈ constraints, c ≠ "" := fun c hc he => hne (he ▸ hc)
  refine ⟨fun j h hcs => ?_, fun t j ht h hcs => ?_⟩
  · have hop : Operates allGlobalConstraints globalReserved idStr constraints isAdd j _ :=
      globalConstraintsDataOperate_operates (fun c hc => ⟨hcs c hc, hne' c hc⟩) h
    exact ⟨_, rfl, hop.wellFormed, fun _ _ => hop.imposed,
      hop.others (by simp [globalReserved]) (by decide)⟩
  · exact updateSpecificOAConstraints_operates ht (fun c hc => ⟨hcs c hc, hne' c hc⟩) h

def wifiForbidden : Json :=
  .obj [(deviceOwnerId, .num (-1)), (allGlobalConstraints, .arr [.str "constraint.wifi"]),
    ("constraint.wifi", .arr [.str "100"])]

theorem wellFormed_wifiForbidden : WellFormed allGlobalConstraints globalReserved wifiForbidden := by
  have hlist : getVectorStringFromJson wifiForbidden allGlobalConstraints = ["constraint.wifi"] := by decide
  have hsources : ∀ c, c ∉ globalReserved → getVectorStringFromJson wifiForbidden c =
      if "constraint.wifi" = c then ["100"] else [] := by
    intro c hc
    simp only [globalReserved, List.mem_cons, List.not_mem_nil, or_false, not_or] at hc
    by_cases hw : "constraint.wifi" = c
    · subst hw
      decide
    · simp [getVectorStringFromJson, getItemFromJson, wifiForbidden, fields, Fields.find, strings, hw,
        Ne.symm hc.1, Ne.symm hc.2]
  refine ⟨by simp [wifiForbidden, IsRecord, Fields.keys, deviceOwnerId, allGlobalConstraints], ?_,
    fun {c} hc => ?_,
    fun {c} hc => ?_, fun {c} hc => ?_⟩
  · simp [hlist]
  · rw [hlist, List.mem_singleton] at hc
    rw [hc]
    decide
  · rw [hlist, hsources c hc]
    by_cases hw : "constraint.wifi" = c
    · simp [hw]
    · simp [hw, Ne.symm hw]
  · rw [hsources c hc]
    split <;> simp

theorem updateOAConstraints_wifi :
    ∃ j', updateGlobalOAConstraints ⟨.ok (), .ok ()⟩ "101" ["constraint.wifi", "constraint.usb"] true wifiForbidden =
        (.ok (), j') ∧
      Imposed allGlobalConstraints j' "constraint.wifi" "100" ∧
      Imposed allGlobalConstraints j' "constraint.usb" "101" := by
  obtain ⟨j', hj', -, himp, -⟩ := (updateOAConstraints_exact "101" ["constraint.wifi", "constraint.usb"] true
    (by decide)).1 wifiForbidden wellFormed_wifiForbidden (by decide)
  refine ⟨j', hj', (himp _ _).mpr ?_, (himp _ _).mpr (.inr ⟨by decide, rfl⟩)⟩
  exact .inl ⟨by decide, by decide⟩

/-- The list names each constraint once, and it names a constraint if and only
if the key of the constraint has sources without repetition. -/
structure ListsCleanKeys (constraintType : String) (reserved : List String) (j : Json) : Prop where
  record : IsRecord j
  nodup : (getVectorStringFromJson j constraintType).Nodup
  listed {c : String} : c ∉ reserved → (c ∈ getVectorStringFromJson j constraintType ↔
    getVectorStringFromJson j c ≠ [] ∧ (getVectorStringFromJson j c).Nodup)

def repeatedSource : Json :=
  .obj [(allSpecificConstraints, .arr []), ("constraint.wifi", .arr [.str "1", .str "1", .str "2"])]

/-- Removing the repeated source leaves a key that ought to be listed, and an
empty name is listed without a key. -/
theorem updateOAConstraints_breaks_list :
    (ListsCleanKeys allSpecificConstraints specificReserved repeatedSource ∧
      updateSpecificOAConstraints ⟨.ok (), .ok ()⟩ "1" "100" ["constraint.wifi"] false
        (.obj [("100", repeatedSource)]) =
        (.ok (), .obj [("100", .obj [(allSpecificConstraints, .arr []), ("constraint.wifi", .arr [.str "2"])])]) ∧
      ¬ListsCleanKeys allSpecificConstraints specificReserved
        (.obj [(allSpecificConstraints, .arr []), ("constraint.wifi", .arr [.str "2"])])) ∧
    (ListsCleanKeys allSpecificConstraints specificReserved emptyTarget ∧
      updateSpecificOAConstraints ⟨.ok (), .ok ()⟩ "1" "100" [""] true (.obj [("100", emptyTarget)]) =
        (.ok (), .obj [("100", .obj [(allSpecificConstraints, .arr [.str ""])])]) ∧
      ¬ListsCleanKeys allSpecificConstraints specificReserved (.obj [(allSpecificConstraints, .arr [.str ""])])) := by
  refine ⟨⟨⟨by simp [repeatedSource, IsRecord, Fields.keys, allSpecificConstraints], by decide,
    fun {c} hc => ?_⟩,
    by rfl, fun h => ?_⟩, ⟨⟨wellFormed_emptyTarget.record, wellFormed_emptyTarget.nodup, fun {c} hc => ?_⟩, by rfl,
    fun h => ?_⟩⟩
  · have hlist : getVectorStringFromJson repeatedSource allSpecificConstraints = [] := by decide
    by_cases hw : "constraint.wifi" = c
    · subst hw
      decide
    · have hne : allSpecificConstraints ≠ c := by simpa [specificReserved, eq_comm] using hc
      rw [hlist]
      simp [getVectorStringFromJson, getItemFromJson, repeatedSource, fields, Fields.find, strings, hw, hne]
  · have hlisted := (h.listed (c := "constraint.wifi") (by decide)).mpr (by decide)
    revert hlisted
    decide
  · have hwf := wellFormed_emptyTarget
    rw [hwf.listed hc]
    simp [hwf.sources hc]
  · have hsourced := (h.listed (c := "") (by decide)).mp (by decide)
    revert hsourced
    decide

end OsAccount.ConstraintUpdate
