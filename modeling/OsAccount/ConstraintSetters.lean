import OsAccount.AccountConstraints

namespace OsAccount.ConstraintSetters

open Std JsonUtils ConstraintStore ConstraintUpdate AccountConstraints AccountList
open ConstraintRemoval (ConstraintFiles saved)

variable {c : String}

theorem mem_changeConstraints {enable : Bool} {constraints old : List String} :
    c ∈ changeConstraints enable constraints old ↔ changed enable (c ∈ old) (c ∈ constraints) := by
  unfold changeConstraints
  induction constraints generalizing old with
  | nil => cases enable <;> simp [changed]
  | cons c' cs ih =>
      rw [List.foldl_cons, ih]
      cases enable with
      | true =>
          simp only [changed, if_true, List.mem_cons]
          split
          · rename_i hold
            constructor
            · tauto
            · rintro (h | rfl | h)
              · exact .inl h
              · exact .inl hold
              · exact .inr h
          · simp only [List.mem_append, List.mem_singleton]
            tauto
      | false =>
          simp only [changed, Bool.false_eq_true, if_false, List.mem_filter, List.mem_cons, decide_eq_true_eq]
          tauto

theorem changed_self {enable : Bool} {before touched : Prop} (h : touched) :
    changed enable before touched ↔ enable = true := by
  cases enable <;> simp [changed, h]

section loop

variable {constraintType idStr : String}

/-- What the loop keeps over any document: `grown` are the constraints it has added. -/
structure AddLoop (constraintType idStr : String) (j : Json) (grown : String → Prop) (l : Loop) : Prop where
  record : IsRecord l.json
  list : getVectorStringFromJson l.json constraintType = l.constraintsList
  waiting : l.waitForErase = []
  mem {c : String} : c ∈ l.constraintsList ↔ c ∈ getVectorStringFromJson j constraintType ∨ grown c
  source {c : String} : grown c → c ≠ constraintType → idStr ∈ getVectorStringFromJson l.json c
  others {key : String} : ¬grown key → key ≠ constraintType → getItemFromJson l.json key = getItemFromJson j key

variable {c : String}

theorem AddLoop.step {j : Json} {grown : String → Prop} {l : Loop} (h : AddLoop constraintType idStr j grown l)
    (hne : constraintType ≠ "") (hc : c ≠ constraintType) (hc₀ : c ≠ "") :
    AddLoop constraintType idStr j (fun c' => c' = c ∨ grown c') (addConstraint constraintType c idStr l) := by
  have hlist : ∀ {json : Json} {vec : List String}, IsRecord json →
      getVectorStringFromJson (addVectorStringToJson json c vec) constraintType =
        getVectorStringFromJson json constraintType := fun hrec => by
          rw [getVector_addVector hrec hc₀, if_neg hc]
  unfold addConstraint
  split
  · rename_i hmem
    have hmem' : c ∈ getVectorStringFromJson j constraintType ∨ grown c := h.mem.mp hmem
    simp only
    split
    · rename_i hid
      refine ⟨h.record, h.list, h.waiting, fun {c'} => ?_, fun {c'} hg hc' => ?_, fun {key} hg hk => ?_⟩
      · rw [h.mem]
        constructor
        · tauto
        · rintro (h | rfl | h) <;> tauto
      · rcases hg with rfl | hg
        · exact hid
        · exact h.source hg hc'
      · exact h.others (fun hg' => hg (.inr hg')) hk
    · refine ⟨isRecord_addVector h.record _ _, ?_, h.waiting, fun {c'} => ?_, fun {c'} hg hc' => ?_,
        fun {key} hg hk => ?_⟩
      · rw [hlist h.record, h.list]
      · rw [h.mem]
        constructor
        · tauto
        · rintro (h | rfl | h) <;> tauto
      · rw [getVector_addVector h.record hc₀]
        split
        · simp
        · rename_i hne'
          exact h.source (hg.resolve_left (Ne.symm hne')) hc'
      · have hck : c ≠ key := fun he => hg (.inl he.symm)
        rw [getItem_addVector_of_ne h.record hc₀ hck]
        exact h.others (fun hg' => hg (.inr hg')) hk
  · have hrec := isRecord_addVector h.record c [idStr]
    refine ⟨isRecord_addVector hrec _ _, ?_, h.waiting, fun {c'} => ?_, fun {c'} hg hc' => ?_,
      fun {key} hg hk => ?_⟩
    · rw [getVector_addVector hrec hne, if_pos rfl]
    · simp only [List.mem_append, List.mem_singleton, h.mem]
      tauto
    · rw [getVector_addVector hrec hne, if_neg (Ne.symm hc'), getVector_addVector h.record hc₀]
      split
      · simp
      · rename_i hne'
        exact h.source (hg.resolve_left (Ne.symm hne')) hc'
    · have hck : c ≠ key := fun he => hg (.inl he.symm)
      rw [getItem_addVector_of_ne hrec hne (Ne.symm hk), getItem_addVector_of_ne h.record hc₀ hck]
      exact h.others (fun hg' => hg (.inr hg')) hk

/-- What the loop keeps while it removes: the constraints that it finds and
that have no other source leave the list, and their keys wait for the deletion. -/
structure RemoveLoop (constraintType idStr : String) (j : Json) (found gone : String → Prop) (l : Loop) : Prop where
  record : IsRecord l.json
  list : getVectorStringFromJson l.json constraintType = l.constraintsList
  waiting {c : String} : c ∈ l.waitForErase → c ≠ constraintType ∧ gone c ∧ c ∉ l.constraintsList
  mem {c : String} : c ∈ l.constraintsList ↔ c ∈ getVectorStringFromJson j constraintType ∧
    ¬(gone c ∧ found c ∧ (getVectorStringFromJson j c).filter (· ≠ idStr) = [])
  key {c : String} : c ≠ constraintType → isKeyExist l.json c = isKeyExist j c
  vector {c : String} : c ≠ constraintType →
    getVectorStringFromJson l.json c = getVectorStringFromJson j c ∨
    getVectorStringFromJson l.json c = (getVectorStringFromJson j c).filter (· ≠ idStr)
  source {c : String} : gone c → c ≠ constraintType → c ∈ l.constraintsList → idStr ∉ getVectorStringFromJson l.json c
  others {key : String} : ¬gone key → key ≠ constraintType → getItemFromJson l.json key = getItemFromJson j key

variable {j : Json} {found gone : String → Prop} {l : Loop}

theorem RemoveLoop.filtered (h : RemoveLoop constraintType idStr j found gone l)
    (hc : c ≠ constraintType) :
    (getVectorStringFromJson l.json c).filter (· ≠ idStr) = (getVectorStringFromJson j c).filter (· ≠ idStr) := by
  rcases h.vector hc with hv | hv
  · rw [hv]
  · rw [hv, List.filter_filter]
    simp

theorem isKeyExist_addVector_of_ne {j : Json} (h : IsRecord j) {key key' : String} (hk : key ≠ "") (hne : key ≠ key')
    (vec : List String) : isKeyExist (addVectorStringToJson j key vec) key' = isKeyExist j key' := by
  rw [isKeyExist, getItem_addVector_of_ne h hk hne, isKeyExist]

theorem isKeyExist_of_getVector {j : Json} {key : String} (h : getVectorStringFromJson j key ≠ []) :
    isKeyExist j key = true := by
  unfold isKeyExist
  cases hi : getItemFromJson j key with
  | none => simp [getVectorStringFromJson, hi, strings] at h
  | some item => rfl

theorem RemoveLoop.remove (h : RemoveLoop constraintType idStr j found gone l) (hne : constraintType ≠ "")
    (hc : c ≠ constraintType) (hc₀ : c ≠ "") (hfound : found c) :
    RemoveLoop constraintType idStr j found (fun c' => c' = c ∨ gone c')
      (removeConstraintsFromJsonOperate constraintType c idStr l) := by
  have hfilter := h.filtered hc
  unfold removeConstraintsFromJsonOperate
  simp only
  split
  · -- no other source: the constraint leaves the list
    rename_i hlast
    rw [hlast] at hfilter
    refine ⟨isRecord_addVector h.record _ _, ?_, fun {c'} hw => ?_, fun {c'} => ?_, fun {c'} hc' => ?_,
      fun {c'} hc' => ?_, fun {c'} hg hct hm => ?_, fun {key} hg hk => ?_⟩
    · rw [getVector_addVector h.record hne, if_pos rfl]
    · rcases List.mem_append.mp hw with hw | hw
      · obtain ⟨hct, hg, hl⟩ := h.waiting hw
        exact ⟨hct, .inr hg, fun hm => hl (List.mem_of_mem_filter hm)⟩
      · rw [List.mem_singleton.mp hw]
        exact ⟨hc, .inl rfl, by simp⟩
    · rw [List.mem_filter, h.mem, decide_eq_true_eq]
      by_cases he : c' = c
      · subst he
        simp only [← hfilter, hfound]
        tauto
      · simp [he]
    · rw [isKeyExist_addVector_of_ne h.record hne (Ne.symm hc'), h.key hc']
    · rw [getVector_addVector h.record hne, if_neg (Ne.symm hc')]
      exact h.vector hc'
    · obtain ⟨hm, he⟩ := List.mem_filter.mp hm
      rw [getVector_addVector h.record hne, if_neg (Ne.symm hct)]
      exact h.source (hg.resolve_left (by simpa using he)) hct hm
    · rw [getItem_addVector_of_ne h.record hne (Ne.symm hk)]
      exact h.others (fun hg' => hg (.inr hg')) hk
  · -- the key keeps the other sources
    rename_i hsome
    have hget := getVector_addVector h.record hc₀ ((getVectorStringFromJson l.json c).filter (· ≠ idStr))
    refine ⟨isRecord_addVector h.record _ _, ?_, fun {c'} hw => ?_, fun {c'} => ?_, fun {c'} hc' => ?_,
      fun {c'} hc' => ?_, fun {c'} hg hct hm => ?_, fun {key} hg hk => ?_⟩
    · rw [hget, if_neg hc, h.list]
    · obtain ⟨hct, hg, hl⟩ := h.waiting hw
      exact ⟨hct, .inr hg, hl⟩
    · rw [h.mem]
      by_cases he : c' = c
      · subst he
        have hother := fun hnil => hsome (hfilter.trans hnil)
        tauto
      · simp [he]
    · by_cases he : c = c'
      · subst he
        have hold : getVectorStringFromJson j c ≠ [] := by
          intro hnil
          rw [hnil] at hfilter
          exact hsome hfilter
        have hnew : getVectorStringFromJson (addVectorStringToJson l.json c
            ((getVectorStringFromJson l.json c).filter (· ≠ idStr))) c ≠ [] := by
          rw [hget, if_pos rfl]
          exact hsome
        rw [isKeyExist_of_getVector hold, isKeyExist_of_getVector hnew]
      · rw [isKeyExist_addVector_of_ne h.record hc₀ he, h.key hc']
    · rw [hget]
      split
      · rename_i he
        subst he
        exact .inr hfilter
      · exact h.vector hc'
    · rw [hget]
      split
      · simp
      · rename_i he
        exact h.source (hg.resolve_left (Ne.symm he)) hct hm
    · have hck : c ≠ key := fun he => hg (.inl he.symm)
      rw [getItem_addVector_of_ne h.record hc₀ hck]
      exact h.others (fun hg' => hg (.inr hg')) hk

theorem RemoveLoop.skip (h : RemoveLoop constraintType idStr j found gone l)
    (hskip : c ∈ l.constraintsList → ¬found c ∧ getVectorStringFromJson l.json c = []) :
    RemoveLoop constraintType idStr j found (fun c' => c' = c ∨ gone c') l := by
  refine ⟨h.record, h.list, fun {c'} hw => ?_, fun {c'} => ?_, h.key, h.vector, fun {c'} hg hct hm => ?_,
    fun {key} hg hk => h.others (fun hg' => hg (.inr hg')) hk⟩
  · obtain ⟨hct, hg, hl⟩ := h.waiting hw
    exact ⟨hct, .inr hg, hl⟩
  · rw [h.mem]
    by_cases he : c' = c
    · subst he
      have hmem := h.mem (c := c')
      tauto
    · simp [he]
  · rcases hg with rfl | hg
    · rw [(hskip hm).2]
      simp
    · exact h.source hg hct hm

/-- A change of a document, whatever its lists and keys say: `found` are the
constraints for which a removal looks at the sources. -/
structure Rewritten (constraintType idStr : String) (constraints : List String) (isAdd : Bool)
    (found : String → Prop) (j j' : Json) : Prop where
  record : IsRecord j'
  mem {c : String} : c ∈ getVectorStringFromJson j' constraintType ↔
    changed isAdd (c ∈ getVectorStringFromJson j constraintType)
      (c ∈ constraints ∧ (isAdd = false → found c ∧ (getVectorStringFromJson j c).filter (· ≠ idStr) = []))
  imposed {c : String} : c ∈ constraints → (Imposed constraintType j' c idStr ↔ isAdd = true)
  others {key : String} : key ∉ constraints → key ≠ constraintType → getItemFromJson j' key = getItemFromJson j key

theorem rewritten_add (hj : IsRecord j) (hne : constraintType ≠ "") {constraints : List String}
    (hcs : ∀ c ∈ constraints, c ≠ constraintType ∧ c ≠ "") (found : String → Prop) :
    Rewritten constraintType idStr constraints true found j
      (dataOperate constraintType (fun l c => addConstraint constraintType c idStr l) constraints j) := by
  have hloop : ∀ (cs : List String) (l : Loop) (grown : String → Prop),
    (∀ c ∈ cs, c ≠ constraintType ∧ c ≠ "") →
      AddLoop constraintType idStr j grown l →
      AddLoop constraintType idStr j (fun c => grown c ∨ c ∈ cs)
        (cs.foldl (fun l c => addConstraint constraintType c idStr l) l) := by
    intro cs
    induction cs with
    | nil => intro l grown _ h; simpa using h
    | cons c cs ih =>
        intro l grown hcs h
        have hc := hcs c List.mem_cons_self
        have hrest := ih _ _ (fun c' hc' => hcs c' (List.mem_cons_of_mem c hc')) (h.step hne hc.1 hc.2)
        have heq : (fun c' => (c' = c ∨ grown c') ∨ c' ∈ cs) = fun c' => grown c' ∨ c' ∈ c :: cs := by
          funext c'
          rw [List.mem_cons, eq_iff_iff]
          tauto
        rwa [heq] at hrest
  have hstart : AddLoop constraintType idStr j (fun _ => False)
      ⟨j, [], getVectorStringFromJson j constraintType⟩ :=
    ⟨hj, rfl, rfl, by simp, fun h => h.elim, fun _ _ => rfl⟩
  have h := hloop constraints _ _ hcs hstart
  unfold dataOperate
  simp only [h.waiting, List.foldl_nil]
  refine ⟨h.record, fun {c} => ?_, fun {c} hc => ?_, fun {key} hkey hk => h.others (by simpa using hkey) hk⟩
  · rw [h.list, h.mem]
    simp [changed]
  · refine iff_of_true ⟨?_, h.source (.inr hc) (hcs c hc).1⟩ rfl
    rw [h.list, h.mem]
    exact .inr (.inr hc)

theorem rewritten_remove (hj : IsRecord j) {constraints : List String}
    (hcs : ∀ c ∈ constraints, c ≠ constraintType ∧ c ≠ "") {found : String → Prop} {body : Loop → String → Loop}
    (hbody : ∀ l gone c, RemoveLoop constraintType idStr j found gone l → c ≠ constraintType → c ≠ "" →
      RemoveLoop constraintType idStr j found (fun c' => c' = c ∨ gone c') (body l c)) :
    Rewritten constraintType idStr constraints false found j (dataOperate constraintType body constraints j) := by
  have hloop : ∀ (cs : List String) (l : Loop) (gone : String → Prop),
    (∀ c ∈ cs, c ≠ constraintType ∧ c ≠ "") →
      RemoveLoop constraintType idStr j found gone l →
      RemoveLoop constraintType idStr j found (fun c => gone c ∨ c ∈ cs) (cs.foldl body l) := by
    intro cs
    induction cs with
    | nil => intro l gone _ h; simpa using h
    | cons c cs ih =>
        intro l gone hcs h
        have hc := hcs c List.mem_cons_self
        have hrest := ih _ _ (fun c' hc' => hcs c' (List.mem_cons_of_mem c hc')) (hbody l gone c h hc.1 hc.2)
        have heq : (fun c' => (c' = c ∨ gone c') ∨ c' ∈ cs) = fun c' => gone c' ∨ c' ∈ c :: cs := by
          funext c'
          rw [List.mem_cons, eq_iff_iff]
          tauto
        rwa [heq] at hrest
  have hstart : RemoveLoop constraintType idStr j found (fun _ => False)
      ⟨j, [], getVectorStringFromJson j constraintType⟩ :=
    ⟨hj, rfl, fun hw => (by cases hw), by simp, fun _ => rfl, fun _ => .inl rfl,
      fun h => h.elim, fun _ _ => rfl⟩
  have h := hloop constraints _ _ hcs hstart
  unfold dataOperate
  generalize constraints.foldl body ⟨j, [], getVectorStringFromJson j constraintType⟩ = l at h
  obtain ⟨hrec, hget⟩ := foldl_deleteItem h.record l.waitForErase
  have hlist : ∀ key ∉ l.waitForErase, getVectorStringFromJson
    (l.waitForErase.foldl deleteItemFromJson l.json) key =
      getVectorStringFromJson l.json key := by
    intro key hkey
    unfold getVectorStringFromJson
    rw [hget, if_neg hkey]
  have hct := hlist constraintType fun hw => (h.waiting hw).1 rfl
  refine ⟨hrec, fun {c} => ?_, fun {c} hc => ?_, fun {key} hkey hk => ?_⟩
  · rw [hct, h.list, h.mem]
    simp [changed]
  · refine iff_of_false ?_ (by simp)
    rintro ⟨hm, hs⟩
    rw [hct, h.list] at hm
    rw [hlist c fun hw => (h.waiting hw).2.2 hm] at hs
    exact h.source (.inr hc) (hcs c hc).1 hm hs
  · rw [hget, if_neg fun hw => hkey (by simpa using (h.waiting hw).2.1)]
    exact h.others (by simpa using hkey) hk

end loop

/-- A removal from the global constraints looks at the sources of a constraint that is listed. -/
theorem globalConstraintsDataOperate_rewrites {idStr : String} {constraints : List String} (isAdd : Bool)
    (hcs : ∀ c ∈ constraints, c ∉ globalReserved ∧ c ≠ "") {j : Json} (hj : IsRecord j) :
    Rewritten allGlobalConstraints idStr constraints isAdd (fun _ => True) j
      (globalConstraintsDataOperate idStr constraints isAdd j) := by
  have hne : allGlobalConstraints ≠ "" := by decide
  have hcs' : ∀ c ∈ constraints, c ≠ allGlobalConstraints ∧ c ≠ "" := by
    intro c hc
    have hres := hcs c hc
    simp only [globalReserved, List.mem_cons, not_or] at hres
    exact ⟨hres.1.1, hres.2⟩
  unfold globalConstraintsDataOperate
  cases isAdd with
  | true => exact rewritten_add hj hne hcs' _
  | false =>
      apply rewritten_remove hj hcs'
      intro l gone c h hc hc₀
      simp only [Bool.false_eq_true, if_false]
      split
      · exact h.remove hne hc hc₀ trivial
      · exact h.skip fun hm => by contradiction

/-- A removal from the constraints of a target looks at the sources of a constraint that has a key. -/
theorem specificConstraintsDataOperate_rewrites {idStr : String} {constraints : List String} (isAdd : Bool)
    (hcs : ∀ c ∈ constraints, c ∉ specificReserved ∧ c ≠ "") {j : Json} (hj : IsRecord j) :
    Rewritten allSpecificConstraints idStr constraints isAdd (fun c => isKeyExist j c = true) j
      (specificConstraintsDataOperate idStr constraints isAdd j) := by
  have hne : allSpecificConstraints ≠ "" := by decide
  have hcs' : ∀ c ∈ constraints, c ≠ allSpecificConstraints ∧ c ≠ "" := by
    intro c hc
    simpa [specificReserved] using hcs c hc
  unfold specificConstraintsDataOperate
  cases isAdd with
  | true => exact rewritten_add hj hne hcs' _
  | false =>
      apply rewritten_remove hj hcs'
      intro l gone c h hc hc₀
      simp only [Bool.false_eq_true, if_false]
      split
      · rename_i hkey
        exact h.remove hne hc hc₀ (by rw [← h.key hc]; exact hkey)
      · rename_i hkey
        refine h.skip fun _ => ⟨by rwa [← h.key hc], ?_⟩
        by_contra hv
        exact hkey (isKeyExist_of_getVector hv)

theorem toOption_getGlobalOAConstraintsList (file : Json) :
    (getGlobalOAConstraintsList file).toOption.getD [] = getVectorStringFromJson file allGlobalConstraints := by
  unfold getGlobalOAConstraintsList
  split
  · rename_i hempty
    simp [Except.toOption, getVectorStringFromJson, getItemFromJson, hempty, Fields.find, strings]
  · rfl

theorem toOption_getSpecificOAConstraintsList (file : Json) (id : Int) :
    (getSpecificOAConstraintsList file id).toOption.getD [] =
      getVectorStringFromJson (targetOf file id) allSpecificConstraints := by
  unfold getSpecificOAConstraintsList
  split
  · rename_i hempty
    have htarget : targetOf file id = .null := by simp [targetOf, getItemFromJson, hempty, Fields.find]
    rw [htarget]
    rfl
  · rfl

def restrictedAdmin (s : State) (b : Build) (ask : Ret) (id : Int) (info : AccountFile) : Prop :=
  (b.supportAuthorization && !b.isEmulator) = true ∧ id ≥ startUserId ∧
    (refreshAccountTypeInCache s ask id info.type).1 = (.admin, true)

theorem restrictedAdmin_congr {s s' : State} (hcache : s'.typeCache = s.typeCache) (htee : s'.tee = s.tee) (b : Build)
    (ask : Ret) (id : Int) {info info' : AccountFile} (htype : info'.type = info.type) :
    restrictedAdmin s' b ask id info' ↔ restrictedAdmin s b ask id info := by
  have hrefresh : (refreshAccountTypeInCache s' ask id info'.type).1 =
      (refreshAccountTypeInCache s ask id info.type).1 := by
    unfold refreshAccountTypeInCache
    rw [hcache, htee, htype]
    cases s.typeCache[id]? with
    | some cachedType => rfl
    | none => cases ask <;> rfl
  rw [restrictedAdmin, restrictedAdmin, hrefresh]

def hasConstraint (s : State) (b : Build) (ask : Ret) (id : Int) (info : AccountFile) (c : String) : Prop :=
  c ∈ info.constraints ∨ (c = constraintAdminAuthorize ∧ restrictedAdmin s b ask id info) ∨
    c ∈ getVectorStringFromJson s.files.global allGlobalConstraints ∨
    c ∈ getVectorStringFromJson (targetOf s.files.specific id) allSpecificConstraints

theorem mem_adminConstraints {constraints : List String} :
    c ∈ adminConstraints constraints ↔ c ∈ constraints ∨ c = constraintAdminAuthorize := by
  unfold adminConstraints
  split
  · rename_i hmem
    constructor
    · exact .inl
    · rintro (h | rfl)
      · exact h
      · exact hmem
  · simp

variable {info : AccountFile}

theorem getRealOsAccountInfoById_constraints {s : State} {id : Int}
    (h : s.accounts[id]? = some info) (b : Build) (ask : Ret) :
    ∃ real, (getRealOsAccountInfoById s b (.ok ()) ask id).1 = .ok real ∧ ∀ c, c ∈ real.constraints ↔
      c ∈ info.constraints ∨ (c = constraintAdminAuthorize ∧ restrictedAdmin s b ask id info) := by
  simp only [getRealOsAccountInfoById, getOsAccountInfoById, h, Except.map, restrictedAdmin]
  split
  · rename_i hb
    refine ⟨_, rfl, fun c => ?_⟩
    split
    · rename_i hadmin
      rw [mem_adminConstraints]
      simp [hb, hadmin.1, Prod.ext_iff, hadmin.2.1, hadmin.2.2]
    · rename_i hadmin
      have hnot : ¬(id ≥ startUserId ∧
          (refreshAccountTypeInCache s ask id info.type).1 = (.admin, true)) := by
        simpa [Prod.ext_iff] using hadmin
      simp [hnot]
  · rename_i hb
    exact ⟨info, rfl, fun c => by simp [hb]⟩

theorem isOsAccountConstraintEnable_eq_ok {s : State} {id : Int}
    (h : s.accounts[id]? = some info) (b : Build) (ask : Ret) (c : String) :
    ∃ enabled : Bool, isOsAccountConstraintEnable s b ask id c = .ok enabled ∧
      (enabled = true ↔ hasConstraint s b ask id info c) := by
  obtain ⟨real, hreal, hmem⟩ := getRealOsAccountInfoById_constraints h b ask
  refine ⟨_, by rw [isOsAccountConstraintEnable, hreal], ?_⟩
  rw [decide_eq_true_iff, hmem, toOption_getGlobalOAConstraintsList, toOption_getSpecificOAConstraintsList,
    hasConstraint, or_assoc]

theorem isOsAccountConstraintEnable_of_absent {s : State} {id : Int} (h : s.accounts[id]? = none) (b : Build)
    (ask : Ret) (c : String) : isOsAccountConstraintEnable s b ask id c = .error .accountNotExistError := by
  simp [isOsAccountConstraintEnable, getRealOsAccountInfoById, getOsAccountInfoById, h]

def SameAnswers (b : Build) (s s' : State) : Prop :=
  ∀ ask id c, isOsAccountConstraintEnable s' b ask id c = isOsAccountConstraintEnable s b ask id c

theorem sameAnswers_iff (b : Build) {s s' : State}
    (h : ∀ id : Int, (s'.accounts[id]?).isSome = (s.accounts[id]?).isSome) :
    SameAnswers b s s' ↔ ∀ ask id info info', s.accounts[id]? = some info → s'.accounts[id]? = some info' →
      ∀ c, hasConstraint s' b ask id info' c ↔ hasConstraint s b ask id info c := by
  constructor
  · intro hsame ask id info info' hinfo hinfo' c
    obtain ⟨e, he, hiff⟩ := isOsAccountConstraintEnable_eq_ok hinfo b ask c
    obtain ⟨e', he', hiff'⟩ := isOsAccountConstraintEnable_eq_ok hinfo' b ask c
    have heq := hsame ask id c
    rw [he, he', Except.ok.injEq] at heq
    rw [← hiff, ← hiff', heq]
  · intro hall ask id c
    have hsome := h id
    cases hinfo : s.accounts[id]? with
    | none =>
        rw [hinfo, Option.isSome_none, Option.isSome_eq_false_iff, Option.isNone_iff_eq_none] at hsome
        rw [isOsAccountConstraintEnable_of_absent hinfo, isOsAccountConstraintEnable_of_absent hsome]
    | some info =>
        rw [hinfo, Option.isSome_some, Option.isSome_iff_exists] at hsome
        obtain ⟨info', hinfo'⟩ := hsome
        obtain ⟨e, he, hiff⟩ := isOsAccountConstraintEnable_eq_ok hinfo b ask c
        obtain ⟨e', he', hiff'⟩ := isOsAccountConstraintEnable_eq_ok hinfo' b ask c
        rw [he, he', Except.ok.injEq, Bool.eq_iff_iff, hiff, hiff']
        exact hall ask id info info' hinfo hinfo' c

structure Stored (files : ConstraintFiles) : Prop where
  base : IsRecord files.base
  global : IsRecord files.global
  specific : IsRecord files.specific
  target {t : String} {d : Json} : getItemFromJson files.specific t = some d → IsRecord d

/-- The owner that the file names; `-1` is the owner in memory before it is read. -/
def persistedOwner (global : Json) : Int := (getIntFromJson global deviceOwnerId).getD (-1)

/-- What a setter promises: `asked` says that a constraint is in the store as
the call wants it. -/
structure Honest (b : Build) (s : State) (r : Ret × State) (constraints : List String)
    (asked : State → String → Prop) : Prop where
  done : r.1 = .ok () → (∀ c ∈ constraints, asked r.2 c) ∧ r.2.deviceOwnerId = persistedOwner r.2.files.global
  failed : r.1 ≠ .ok () → SameAnswers b s r.2

def BaseAsked (id : Int) (enable : Bool) (s : State) (c : String) : Prop :=
  (∃ info, s.accounts[id]? = some info ∧ (c ∈ info.constraints ↔ enable = true)) ∧
  (c ∈ getVectorStringFromJson s.files.base (toString id) ↔ enable = true)

def GlobalAsked (enforcerId : Int) (enable : Bool) (s : State) (c : String) : Prop :=
  Imposed allGlobalConstraints s.files.global c (toString enforcerId) ↔ enable = true

def SpecificAsked (targetId enforcerId : Int) (enable : Bool) (s : State) (c : String) : Prop :=
  ImposedOn s.files.specific (toString targetId) c (toString enforcerId) ↔ enable = true

def Written (a : FileAnswer) : Prop := a.read = .ok () ∧ a.write = .ok ()

instance (a : FileAnswer) : Decidable (Written a) := inferInstanceAs (Decidable (_ ∧ _))

def OwnerChanges (s : State) (isDeviceOwner : Bool) (id : Int) : Prop :=
  (isDeviceOwner = true ∧ id ≠ s.deviceOwnerId) ∨ (isDeviceOwner = false ∧ id = s.deviceOwnerId)

instance (s : State) (isDeviceOwner : Bool) (id : Int) : Decidable (OwnerChanges s isDeviceOwner id) :=
  inferInstanceAs (Decidable (_ ∨ _))

theorem saved_eq (write : Ret) (file j : Json) :
    saved write file j = (write, if write = .ok () then j else file) := by
  cases write with
  | error e => simp [saved]
  | ok u => rfl

theorem persistedOwner_updated {global : Json} (h : IsRecord global) (owner : Int) :
    persistedOwner (addIntToJson global deviceOwnerId owner) = owner := by
  have hne : deviceOwnerId ≠ "" := by decide
  rw [persistedOwner, getIntFromJson, addIntToJson, getItem_setItem h hne, if_pos rfl]
  rfl

theorem persistedOwner_congr {j j' : Json} (h : getItemFromJson j' deviceOwnerId = getItemFromJson j deviceOwnerId) :
    persistedOwner j' = persistedOwner j := by
  rw [persistedOwner, getIntFromJson, h, persistedOwner, getIntFromJson]

theorem setDeviceOwnerId_eq (s : State) (a : FileAnswer) (owner : Int) :
    ((setDeviceOwnerId s a owner).1 = .ok () ∧ Written a ∧ (setDeviceOwnerId s a owner).2 = { s with
      files := { s.files with global := addIntToJson s.files.global deviceOwnerId owner }, deviceOwnerId := owner }) ∨
    ((setDeviceOwnerId s a owner).1 ≠ .ok () ∧ ¬Written a ∧ (setDeviceOwnerId s a owner).2 = s) := by
  unfold setDeviceOwnerId updateDeviceOwnerId Written
  cases hr : a.read with
  | error e => exact .inr ⟨by simp, by simp, rfl⟩
  | ok u =>
      cases hw : a.write with
      | error e => exact .inr ⟨by simp [saved], by simp, rfl⟩
      | ok u => exact .inl ⟨rfl, by simp, rfl⟩

theorem dealWithDeviceOwnerId_cases (s : State) (a : FileAnswer) (isDeviceOwner : Bool) (id : Int) :
    ((dealWithDeviceOwnerId s a isDeviceOwner id).1 = .ok () ∧ ¬OwnerChanges s isDeviceOwner id ∧
      (dealWithDeviceOwnerId s a isDeviceOwner id).2 = s) ∨
    ((dealWithDeviceOwnerId s a isDeviceOwner id).1 = .ok () ∧ OwnerChanges s isDeviceOwner id ∧ Written a ∧
      ∃ owner, (dealWithDeviceOwnerId s a isDeviceOwner id).2 = { s with
        files := { s.files with global := addIntToJson s.files.global deviceOwnerId owner },
        deviceOwnerId := owner }) ∨
    ((dealWithDeviceOwnerId s a isDeviceOwner id).1 ≠ .ok () ∧ OwnerChanges s isDeviceOwner id ∧ ¬Written a ∧
      (dealWithDeviceOwnerId s a isDeviceOwner id).2 = s) := by
  unfold dealWithDeviceOwnerId
  split
  · rename_i hnew
    rcases setDeviceOwnerId_eq s a id with ⟨hret, hw, hs⟩ | ⟨hret, hw, hs⟩
    · exact .inr (.inl ⟨hret, .inl hnew, hw, id, hs⟩)
    · exact .inr (.inr ⟨hret, .inl hnew, hw, hs⟩)
  · rename_i hnew
    split
    · rename_i hold
      rcases setDeviceOwnerId_eq s a (-1) with ⟨hret, hw, hs⟩ | ⟨hret, hw, hs⟩
      · exact .inr (.inl ⟨hret, .inr hold, hw, -1, hs⟩)
      · exact .inr (.inr ⟨hret, .inr hold, hw, hs⟩)
    · rename_i hold
      exact .inl ⟨rfl, by simp [OwnerChanges, hnew, hold], rfl⟩

/-- The second half of a setter, on a state that differs from the one before the
call in its constraints only. -/
theorem honest_dealWithDeviceOwnerId (b : Build) {s s' : State} (a : FileAnswer) (isDeviceOwner : Bool) (id : Int)
    {constraints : List String} {asked : State → String → Prop} (hglobal : IsRecord s'.files.global)
    (howner : s'.deviceOwnerId = s.deviceOwnerId)
    (hpersisted : persistedOwner s'.files.global = persistedOwner s.files.global)
    (hasked : ∀ owner, ∀ c ∈ constraints, asked { s' with
      files := { s'.files with global := addIntToJson s'.files.global deviceOwnerId owner },
      deviceOwnerId := owner } c ↔ asked s' c) :
    Honest b s (dealWithDeviceOwnerId s' a isDeviceOwner id) constraints asked ↔
      if OwnerChanges s isDeviceOwner id ∧ ¬Written a then SameAnswers b s s'
      else (∀ c ∈ constraints, asked s' c) ∧
        (OwnerChanges s isDeviceOwner id ∨ s.deviceOwnerId = persistedOwner s.files.global) := by
  have hchanges : OwnerChanges s' isDeviceOwner id ↔ OwnerChanges s isDeviceOwner id := by
    rw [OwnerChanges, howner, OwnerChanges]
  simp only [← hchanges]
  rcases dealWithDeviceOwnerId_cases s' a isDeviceOwner id with ⟨hret, hc, hs⟩ | ⟨hret, hc, hw, owner, hs⟩ |
    ⟨hret, hc, hw, hs⟩
  · rw [if_neg fun h => hc h.1]
    constructor
    · intro h
      obtain ⟨hall, ho⟩ := h.done hret
      rw [hs] at hall ho
      exact ⟨hall, .inr (by rw [← howner, ho, hpersisted])⟩
    · rintro ⟨hall, ho⟩
      refine ⟨fun _ => ?_, fun hne => (hne hret).elim⟩
      rw [hs, howner, hpersisted]
      exact ⟨hall, ho.resolve_left hc⟩
  · rw [if_neg fun h => h.2 hw]
    constructor
    · intro h
      obtain ⟨hall, -⟩ := h.done hret
      rw [hs] at hall
      exact ⟨fun c hc => (hasked owner c hc).mp (hall c hc), .inl hc⟩
    · rintro ⟨hall, -⟩
      refine ⟨fun _ => ?_, fun hne => (hne hret).elim⟩
      rw [hs]
      exact ⟨fun c hc => (hasked owner c hc).mpr (hall c hc), (persistedOwner_updated hglobal owner).symm⟩
  · rw [if_pos ⟨hc, hw⟩]
    constructor
    · intro h
      have hsame := h.failed hret
      rwa [hs] at hsame
    · intro hsame
      refine ⟨fun hok => (hret hok).elim, fun _ => ?_⟩
      rwa [hs]

theorem getOsAccountInfoById_eq_ok {s : State} {read : Ret} {id : Int} :
    getOsAccountInfoById s read id = .ok info ↔ s.accounts[id]? = some info ∧ read = .ok () := by
  unfold getOsAccountInfoById
  cases hinfo : s.accounts[id]? with
  | none => simp
  | some found =>
      cases read with
      | error e => simp [Except.map]
      | ok u => simp [Except.map]

theorem names_of_checkConstraints {definition : Option Definition} {constraints : List String}
    (h : checkConstraints definition constraints = true) :
    ∀ c ∈ constraints, c ∉ globalReserved ∧ c ∉ specificReserved ∧ c ≠ "" := by
  cases definition with
  | none => cases h
  | some d =>
      intro c hc
      have hmem := List.all_eq_true.mp h c hc
      exact d.names c (by simpa using hmem)

def withConstraints (enable : Bool) (constraints : List String) (info : AccountFile) : AccountFile :=
  { info with constraints := changeConstraints enable constraints info.constraints }

section base

variable (s : State) (a : SetAnswer) (id : Int) (constraints : List String) (enable : Bool)

structure RecordWritten (info : AccountFile) : Prop where
  found : getOsAccountInfoById s a.account id = .ok info
  kept : info.toBeRemoved = false
  known : checkConstraints a.definition constraints = true
  written : a.updateOsAccount = .ok ()

variable {s a id constraints} in
theorem RecordWritten.unique {info info' : AccountFile} (h : RecordWritten s a id constraints info)
    (h' : RecordWritten s a id constraints info') : info = info' := by
  have heq := h.found
  rwa [h'.found, Except.ok.injEq, eq_comm] at heq

theorem setOsAccountConstraints_cases :
    (∃ e, setOsAccountConstraints s a id constraints enable = (.error e, s) ∧
      ∀ info, ¬RecordWritten s a id constraints info) ∨
    ∃ info, RecordWritten s a id constraints info ∧ setOsAccountConstraints s a id constraints enable =
      (.ok (), { s with accounts := s.accounts.insert id (withConstraints enable constraints info) }) := by
  unfold setOsAccountConstraints
  split
  · rename_i e he
    refine .inl ⟨_, rfl, fun info h => ?_⟩
    have hfound := h.found
    rw [he] at hfound
    cases hfound
  · rename_i info hinfo
    have hsome : id ∈ s.accounts := by
      rw [ExtTreeMap.mem_iff_isSome_getElem?, (getOsAccountInfoById_eq_ok.mp hinfo).1]
      rfl
    split
    · rename_i hremoved
      refine .inl ⟨_, rfl, fun info' h => ?_⟩
      have hfound := h.found
      rw [hinfo, Except.ok.injEq] at hfound
      rw [hfound, h.kept] at hremoved
      cases hremoved
    · rename_i hremoved
      split
      · rename_i hunknown
        refine .inl ⟨_, rfl, fun info' h => ?_⟩
        simp [h.known] at hunknown
      · rename_i hknown
        simp only [updateOsAccount, hsome, not_true, if_false]
        cases hw : a.updateOsAccount with
        | error e =>
            refine .inl ⟨_, rfl, fun info' h => ?_⟩
            have hwritten := h.written
            rw [hw] at hwritten
            cases hwritten
        | ok u => exact .inr ⟨info, ⟨hinfo, by simpa using hremoved, by simpa using hknown, hw⟩, rfl⟩

def BaseUpdated : Prop :=
  a.constraints.read = .ok () ∧
    (a.constraints.write = .ok () ∨ (isKeyExist s.files.base (toString id) = false ∧ enable = false))

instance : Decidable (BaseUpdated s a id enable) := inferInstanceAs (Decidable (_ ∧ _))

theorem updateBaseOAConstraints_cases (hbase : IsRecord s.files.base) :
    ((updateBaseOAConstraints a.constraints (toString id) constraints enable s.files.base).1 = .ok () ∧
      BaseUpdated s a id enable ∧ ∀ c ∈ constraints, c ∈ getVectorStringFromJson
        (updateBaseOAConstraints a.constraints (toString id) constraints enable s.files.base).2 (toString id) ↔
        enable = true) ∨
    ((updateBaseOAConstraints a.constraints (toString id) constraints enable s.files.base).1 ≠ .ok () ∧
      ¬BaseUpdated s a id enable) := by
  have hid := Decimal.toString_ne_empty id
  unfold updateBaseOAConstraints BaseUpdated
  generalize toString id = idStr at hid
  have hget : ∀ vec : List String, getVectorStringFromJson
      (addVectorStringToJson s.files.base idStr vec) idStr = vec := by
    intro vec
    rw [getVector_addVector hbase hid, if_pos rfl]
  cases hr : a.constraints.read with
  | error e => exact .inr ⟨by simp, by simp⟩
  | ok u =>
      simp only [saved_eq]
      cases hkey : isKeyExist s.files.base idStr with
      | false =>
          cases enable with
          | false =>
              refine .inl ⟨rfl, by simp, fun c _ => ?_⟩
              have hnone : getItemFromJson s.files.base idStr = none := by simpa [isKeyExist] using hkey
              simp [getVectorStringFromJson, hnone, strings]
          | true =>
              cases hw : a.constraints.write with
              | error e => exact .inr ⟨by simp, by simp⟩
              | ok u =>
                  refine .inl ⟨by simp, by simp, fun c hc => ?_⟩
                  simpa [hget] using hc
      | true =>
          cases hw : a.constraints.write with
          | error e => exact .inr ⟨by simp, by simp⟩
          | ok u =>
              refine .inl ⟨by simp, by simp, fun c hc => ?_⟩
              simp only [Bool.not_true, Bool.false_eq_true, if_false, if_true, hget]
              rw [mem_changeConstraints, changed_self hc]

def BaseHonestWhen (b : Build) : Prop :=
  a.recover = .ok () → ∀ info, RecordWritten s a id constraints info →
    if BaseUpdated s a id enable then s.deviceOwnerId = persistedOwner s.files.global
    else ∀ c ∈ constraints, (c ∈ info.constraints ↔ enable = true) ∨
      ∀ ask, (c = constraintAdminAuthorize ∧ restrictedAdmin s b ask id info) ∨
        c ∈ getVectorStringFromJson s.files.global allGlobalConstraints ∨
        c ∈ getVectorStringFromJson (targetOf s.files.specific id) allSpecificConstraints

theorem sameAnswers_of_accounts {b : Build} {s s' : State} (haccounts : s'.accounts = s.accounts)
    (h : ∀ ask id info, s.accounts[id]? = some info → ∀ c, hasConstraint s' b ask id info c ↔
      hasConstraint s b ask id info c) : SameAnswers b s s' := by
  rw [sameAnswers_iff b (by simp [haccounts])]
  intro ask id info info' hinfo hinfo'
  rw [haccounts, hinfo, Option.some.injEq] at hinfo'
  subst hinfo'
  exact h ask id info hinfo

/-- The answers stay the same if the record gets constraints that the account
has anyway, or loses constraints that it has from elsewhere. -/
theorem sameAnswers_record (b : Build) {s' : State} {info : AccountFile} (hinfo : s.accounts[id]? = some info)
    (haccounts : s'.accounts = s.accounts.insert id (withConstraints enable constraints info))
    (hglobal : s'.files.global = s.files.global) (hspecific : s'.files.specific = s.files.specific)
    (hcache : s'.typeCache = s.typeCache) (htee : s'.tee = s.tee) :
    SameAnswers b s s' ↔ ∀ c ∈ constraints, (c ∈ info.constraints ↔ enable = true) ∨
      ∀ ask, (c = constraintAdminAuthorize ∧ restrictedAdmin s b ask id info) ∨
        c ∈ getVectorStringFromJson s.files.global allGlobalConstraints ∨
        c ∈ getVectorStringFromJson (targetOf s.files.specific id) allSpecificConstraints := by
  have hget : ∀ id' : Int, s'.accounts[id']? =
      if id = id' then some (withConstraints enable constraints info) else s.accounts[id']? := by
    intro id'
    rw [haccounts, ExtTreeMap.getElem?_insert]
    simp
  have hrecord : ∀ ask, restrictedAdmin s' b ask id (withConstraints enable constraints info) ↔
      restrictedAdmin s b ask id info := fun ask => restrictedAdmin_congr hcache htee b ask id rfl
  have hothers : ∀ ask id' info', restrictedAdmin s' b ask id' info' ↔ restrictedAdmin s b ask id' info' :=
    fun ask id' info' => restrictedAdmin_congr hcache htee b ask id' rfl
  rw [sameAnswers_iff]
  · constructor
    · intro h c hc
      by_cases hkept : c ∈ info.constraints ↔ enable = true
      · exact .inl hkept
      · refine .inr fun ask => ?_
        have hiff := h ask id info _ hinfo (by rw [hget, if_pos rfl]) c
        rw [hasConstraint, hrecord, hglobal, hspecific, withConstraints, mem_changeConstraints,
          changed_self hc] at hiff
        unfold hasConstraint at hiff
        tauto
    · intro h ask id' info₀ info' hinfo₀ hinfo' c
      rw [hget] at hinfo'
      split at hinfo'
      · rename_i he
        subst he
        rw [hinfo, Option.some.injEq] at hinfo₀
        rw [Option.some.injEq] at hinfo'
        subst hinfo₀ hinfo'
        rw [hasConstraint, hrecord, hglobal, hspecific, withConstraints, mem_changeConstraints, hasConstraint]
        by_cases hc : c ∈ constraints
        · rw [changed_self hc]
          rcases h c hc with hkept | helse
          · rw [hkept]
          · have hask := helse ask
            tauto
        · cases enable <;> simp [changed, hc]
      · rw [hinfo₀, Option.some.injEq] at hinfo'
        subst hinfo'
        rw [hasConstraint, hothers, hglobal, hspecific, hasConstraint]
  · intro id'
    rw [hget]
    split
    · rename_i he
      rw [← he, hinfo]
      rfl
    · rfl

theorem honest_unchanged {b : Build} {asked : State → String → Prop} (e : ErrCode) :
    Honest b s (.error e, s) constraints asked :=
  ⟨fun hok => (by cases hok), fun _ _ _ _ => rfl⟩

theorem setBaseOsAccountConstraints_honest (b : Build) (h : Stored s.files) :
    Honest b s (setBaseOsAccountConstraints s a id constraints enable) constraints (BaseAsked id enable) ↔
      BaseHonestWhen s a id constraints enable b := by
  unfold setBaseOsAccountConstraints BaseHonestWhen
  cases hrec : a.recover with
  | error e => exact iff_of_true (honest_unchanged s constraints _) (fun hok => by cases hok)
  | ok u =>
      rcases setOsAccountConstraints_cases s a id constraints enable with ⟨e, heq, hnone⟩ | ⟨info, hinfo, heq⟩
      · simp only [heq]
        exact iff_of_true (honest_unchanged s constraints e) (fun _ info hinfo => (hnone info hinfo).elim)
      · have hsame : SameAnswers b s { s with
            accounts := s.accounts.insert id (withConstraints enable constraints info), files := { s.files with
              base := (updateBaseOAConstraints a.constraints (toString id) constraints enable s.files.base).2 } } ↔ _ :=
          sameAnswers_record s id constraints enable b
            (getOsAccountInfoById_eq_ok.mp hinfo.found).1 rfl rfl rfl rfl rfl
        simp only [heq]
        have hcases := updateBaseOAConstraints_cases s a id constraints enable h.base
        rcases hcases with ⟨hret, hupdated, hbase⟩ | ⟨hret, hfailed⟩
        · constructor
          · intro hhonest _ info' hinfo'
            rw [if_pos hupdated]
            exact (hhonest.done hret).2
          · intro hwhen
            have howner := hwhen trivial info hinfo
            rw [if_pos hupdated] at howner
            refine ⟨fun _ => ⟨fun c hc =>
              ⟨⟨withConstraints enable constraints info, ?_, ?_⟩, hbase c hc⟩, howner⟩,
              fun hne => (hne hret).elim⟩
            · simp
            · rw [withConstraints, mem_changeConstraints, changed_self hc]
        · constructor
          · intro hhonest _ info' hinfo'
            rw [if_neg hfailed, ← hinfo.unique hinfo']
            exact hsame.mp (hhonest.failed hret)
          · intro hwhen
            have hkept := hwhen trivial info hinfo
            rw [if_neg hfailed] at hkept
            exact ⟨fun hok => (hret hok).elim, fun _ => hsame.mpr hkept⟩

end base

def ListingKept (constraintType idStr : String) (enable : Bool) (found : Prop) (j : Json) (c : String) : Prop :=
  if enable then c ∈ getVectorStringFromJson j constraintType
  else c ∈ getVectorStringFromJson j constraintType → found → ∃ source ∈ getVectorStringFromJson j c, source ≠ idStr

theorem Rewritten.listingKept_iff {constraintType idStr : String} {constraints : List String} {enable : Bool}
    {found : String → Prop} {j j' : Json} (h : Rewritten constraintType idStr constraints enable found j j')
    (hc : c ∈ constraints) : (c ∈ getVectorStringFromJson j' constraintType ↔
      c ∈ getVectorStringFromJson j constraintType) ↔ ListingKept constraintType idStr enable (found c) j c := by
  rw [h.mem, ListingKept]
  cases enable with
  | true => simp [changed, hc]
  | false =>
      have hother : (getVectorStringFromJson j c).filter (· ≠ idStr) = [] ↔
          ¬∃ source ∈ getVectorStringFromJson j c, source ≠ idStr := by simp
      simp only [changed, hc, true_and, hother, Bool.false_eq_true, if_false, forall_const, not_and, not_not,
        and_iff_left_iff_imp]

section global

variable (s : State) (a : SetAnswer) (constraints : List String) (enable : Bool) (enforcerId : Int)
  (isDeviceOwner : Bool)

def GlobalHonestWhen (b : Build) : Prop :=
  ∀ info, getOsAccountInfoById s a.enforcer enforcerId = .ok info → info.toBeRemoved = false →
    checkConstraints a.definition constraints = true →
    if OwnerChanges s isDeviceOwner enforcerId ∧ ¬Written a.owner then
      Written a.constraints → ∀ c ∈ constraints,
        ListingKept allGlobalConstraints (toString enforcerId) enable True s.files.global c ∨
        ∀ ask id info, s.accounts[id]? = some info → c ∈ info.constraints ∨
          (c = constraintAdminAuthorize ∧ restrictedAdmin s b ask id info) ∨
          c ∈ getVectorStringFromJson (targetOf s.files.specific id) allSpecificConstraints
    else
      (Written a.constraints ∨ ∀ c ∈ constraints, GlobalAsked enforcerId enable s c) ∧
      (OwnerChanges s isDeviceOwner enforcerId ∨ s.deviceOwnerId = persistedOwner s.files.global)

theorem updateGlobalOAConstraints_snd (a : FileAnswer) (idStr : String) (file : Json) :
    (updateGlobalOAConstraints a idStr constraints enable file).2 =
      if Written a then globalConstraintsDataOperate idStr constraints enable file else file := by
  obtain ⟨read, write⟩ := a
  cases read with
  | error e => simp [updateGlobalOAConstraints, Written]
  | ok u => cases write <;> simp [updateGlobalOAConstraints, Written]

/-- The constraints of the global list that a change adds or takes away do not
show if every account has them from elsewhere. -/
theorem sameAnswers_global (b : Build) {s' : State} (haccounts : s'.accounts = s.accounts)
    (hspecific : s'.files.specific = s.files.specific) (hcache : s'.typeCache = s.typeCache) (htee : s'.tee = s.tee)
    (h : Rewritten allGlobalConstraints (toString enforcerId) constraints enable (fun _ => True) s.files.global
      s'.files.global) :
    SameAnswers b s s' ↔ ∀ c ∈ constraints,
      ListingKept allGlobalConstraints (toString enforcerId) enable True s.files.global c ∨
      ∀ ask id info, s.accounts[id]? = some info → c ∈ info.constraints ∨
        (c = constraintAdminAuthorize ∧ restrictedAdmin s b ask id info) ∨
        c ∈ getVectorStringFromJson (targetOf s.files.specific id) allSpecificConstraints := by
  have hrestricted : ∀ ask id info, restrictedAdmin s' b ask id info ↔ restrictedAdmin s b ask id info :=
    fun ask id info => restrictedAdmin_congr hcache htee b ask id rfl
  constructor
  · intro hsame c hc
    rw [sameAnswers_iff b (by simp [haccounts])] at hsame
    by_cases hkept : ListingKept allGlobalConstraints (toString enforcerId) enable True s.files.global c
    · exact .inl hkept
    · refine .inr fun ask id info hinfo => ?_
      have hiff := hsame ask id info info hinfo (by rw [haccounts, hinfo]) c
      rw [← h.listingKept_iff hc] at hkept
      rw [hasConstraint, hrestricted, hspecific, hasConstraint] at hiff
      tauto
  · intro hkept
    refine sameAnswers_of_accounts haccounts fun ask id info hinfo c => ?_
    rw [hasConstraint, hrestricted, hspecific, hasConstraint]
    by_cases hc : c ∈ constraints
    · rcases hkept c hc with hlist | helse
      · rw [(h.listingKept_iff hc).mpr hlist]
      · have hmasked := helse ask id info hinfo
        tauto
    · have hlist : c ∈ getVectorStringFromJson s'.files.global allGlobalConstraints ↔
          c ∈ getVectorStringFromJson s.files.global allGlobalConstraints := by
        rw [h.mem]
        cases enable <;> simp [changed, hc]
      rw [hlist]

theorem getVector_addInt {j : Json} (h : IsRecord j) {key key' : String} (hk : key ≠ "") (hne : key ≠ key')
    (value : Int) : getVectorStringFromJson (addIntToJson j key value) key' = getVectorStringFromJson j key' := by
  unfold getVectorStringFromJson addIntToJson
  rw [getItem_setItem h hk, if_neg hne]

theorem globalAsked_owner {s : State} (h : IsRecord s.files.global) {c : String} (hc : c ∉ globalReserved)
    (owner : Int) : GlobalAsked enforcerId enable { s with
      files := { s.files with global := addIntToJson s.files.global deviceOwnerId owner },
      deviceOwnerId := owner } c ↔ GlobalAsked enforcerId enable s c := by
  have hne : deviceOwnerId ≠ "" := by decide
  have hall : deviceOwnerId ≠ allGlobalConstraints := by decide
  have hkey : deviceOwnerId ≠ c := by
    rintro rfl
    simp [globalReserved] at hc
  simp only [GlobalAsked, Imposed, getVector_addInt h hne hall, getVector_addInt h hne hkey]

theorem setGlobalOsAccountConstraints_honest (b : Build) (h : Stored s.files) :
    Honest b s (setGlobalOsAccountConstraints s a constraints enable enforcerId isDeviceOwner) constraints
      (GlobalAsked enforcerId enable) ↔ GlobalHonestWhen s a constraints enable enforcerId isDeviceOwner b := by
  unfold setGlobalOsAccountConstraints GlobalHonestWhen
  cases hinfo : getOsAccountInfoById s a.enforcer enforcerId with
  | error e => exact iff_of_true (honest_unchanged s constraints _) (fun info hok => by cases hok)
  | ok info =>
      simp only [Except.ok.injEq, forall_eq']
      cases hremoved : info.toBeRemoved with
      | true => exact iff_of_true (honest_unchanged s constraints _) (fun hok => by cases hok)
      | false =>
          cases hknown : checkConstraints a.definition constraints with
          | false => exact iff_of_true (honest_unchanged s constraints _) (fun _ hok => by cases hok)
          | true =>
              simp only [Bool.false_eq_true, if_false, Bool.not_true, forall_const]
              have hnames : ∀ c ∈ constraints, c ∉ globalReserved ∧ c ≠ "" := fun c hc =>
                ⟨(names_of_checkConstraints hknown c hc).1, (names_of_checkConstraints hknown c hc).2.2⟩
              rw [updateGlobalOAConstraints_snd]
              split
              · rename_i hw
                have hrewrite : Rewritten allGlobalConstraints
                  (toString enforcerId) constraints enable (fun _ => True)
                    s.files.global (globalConstraintsDataOperate (toString enforcerId) constraints enable
                      s.files.global) :=
                  globalConstraintsDataOperate_rewrites enable hnames h.global
                have howner : getItemFromJson
                  (globalConstraintsDataOperate (toString enforcerId) constraints enable
                    s.files.global) deviceOwnerId = getItemFromJson s.files.global deviceOwnerId :=
                  hrewrite.others (fun hm => (hnames _ hm).1 (by simp [globalReserved])) (by decide)
                refine (honest_dealWithDeviceOwnerId b a.owner isDeviceOwner enforcerId ?_ ?_ ?_ ?_).trans ?_
                · exact hrewrite.record
                · rfl
                · exact persistedOwner_congr howner
                · exact fun owner c hc => globalAsked_owner enable enforcerId hrewrite.record
                    (hnames c hc).1 owner
                have hsame : SameAnswers b s { s with files := { s.files with
                    global := globalConstraintsDataOperate (toString enforcerId) constraints enable s.files.global } } ↔
                    _ := sameAnswers_global s constraints enable enforcerId b rfl rfl rfl rfl hrewrite
                rw [hsame]
                have hasked : ∀ c ∈ constraints, GlobalAsked enforcerId enable
                    { s with files := { s.files with
                        global := globalConstraintsDataOperate (toString enforcerId) constraints enable
                          s.files.global } } c :=
                  fun c hc => hrewrite.imposed hc
                simp only [hw, true_or, true_and, forall_const, eq_true hasked]
              · rename_i hw
                refine (honest_dealWithDeviceOwnerId b a.owner isDeviceOwner enforcerId h.global rfl rfl ?_).trans ?_
                · exact fun owner c hc => globalAsked_owner enable enforcerId h.global (hnames c hc).1 owner
                have hsame : SameAnswers b s s := fun _ _ _ => rfl
                simp only [hw, false_or, false_imp_iff, eq_true hsame]

end global

section specific

variable (s : State) (a : SetAnswer) (constraints : List String) (enable : Bool) (targetId enforcerId : Int)
  (isDeviceOwner : Bool)

def SpecificHonestWhen (b : Build) : Prop :=
  ∀ enforcer, getOsAccountInfoById s a.enforcer enforcerId = .ok enforcer →
    ∀ target, getOsAccountInfoById s a.account targetId = .ok target →
      (target.toBeRemoved || enforcer.toBeRemoved) = false →
    checkConstraints a.definition constraints = true →
    if OwnerChanges s isDeviceOwner enforcerId ∧ ¬Written a.owner then
      Written a.constraints → ∀ c ∈ constraints,
        ListingKept allSpecificConstraints (toString enforcerId) enable
          (isKeyExist (targetOf s.files.specific targetId) c = true) (targetOf s.files.specific targetId) c ∨
        ∀ ask, c ∈ target.constraints ∨ (c = constraintAdminAuthorize ∧ restrictedAdmin s b ask targetId target) ∨
          c ∈ getVectorStringFromJson s.files.global allGlobalConstraints
    else
      (Written a.constraints ∨ ∀ c ∈ constraints, SpecificAsked targetId enforcerId enable s c) ∧
      (OwnerChanges s isDeviceOwner enforcerId ∨ s.deviceOwnerId = persistedOwner s.files.global)

theorem rewritten_emptyTarget {idStr : String} {constraints : List String} (found : String → Prop) {d' : Json}
    (h : Rewritten allSpecificConstraints idStr constraints true found emptyTarget d') (found' : String → Prop) :
    Rewritten allSpecificConstraints idStr constraints true found' .null d' := by
  refine ⟨h.record, fun {c} => ?_, h.imposed, fun {key} hkey hk => ?_⟩
  · rw [h.mem]
    have hempty : getVectorStringFromJson emptyTarget allSpecificConstraints =
        getVectorStringFromJson .null allSpecificConstraints := by decide
    rw [hempty]
    simp [changed]
  · rw [h.others hkey hk]
    simp [getItemFromJson, emptyTarget, fields, Fields.find, Ne.symm hk]

/-- The update of one target: nothing happens, or the document of the target is changed. -/
theorem updateSpecificOAConstraints_snd_cases (a : FileAnswer) {file : Json} (h : IsRecord file)
    (htarget : ∀ t d, getItemFromJson file t = some d → IsRecord d)
    (hnames : ∀ c ∈ constraints, c ∉ specificReserved ∧ c ≠ "") :
    ((updateSpecificOAConstraints a (toString enforcerId) (toString targetId) constraints enable file).2 = file ∧
      (Written a → enable = false ∧ getItemFromJson file (toString targetId) = none)) ∨
    (Written a ∧ ∃ d', (∀ t', getItemFromJson
        (updateSpecificOAConstraints a (toString enforcerId) (toString targetId) constraints enable file).2 t' =
        if toString targetId = t' then some d' else getItemFromJson file t') ∧
      Rewritten allSpecificConstraints (toString enforcerId) constraints enable
        (fun c => isKeyExist (targetOf file targetId) c = true) (targetOf file targetId) d') := by
  have ht := Decimal.toString_ne_empty targetId
  unfold targetOf
  generalize toString targetId = t at ht
  obtain ⟨read, write⟩ := a
  cases read with
  | error e => exact .inl ⟨rfl, by simp [Written]⟩
  | ok u =>
      cases hd : getItemFromJson file t with
      | some d =>
          have hkey : isKeyExist file t = true := by simp [isKeyExist, hd]
          cases write with
          | error e => exact .inl ⟨by simp [updateSpecificOAConstraints, hkey], by simp [Written]⟩
          | ok u =>
              refine .inr ⟨⟨rfl, rfl⟩,
                specificConstraintsDataOperate (toString enforcerId) constraints enable d,
                fun t' => ?_, specificConstraintsDataOperate_rewrites enable hnames (htarget t d hd)⟩
              simp only [updateSpecificOAConstraints, hkey, Bool.not_true, Bool.false_and,
                Bool.false_eq_true, if_false,
                if_true]
              rw [getItem_specificTargetOperate _ enable ht constraints h hd]
      | none =>
          have hkey : isKeyExist file t = false := by simp [isKeyExist, hd]
          cases enable with
          | false => exact .inl ⟨by simp [updateSpecificOAConstraints, hkey], fun _ => ⟨rfl, rfl⟩⟩
          | true =>
              cases write with
              | error e => exact .inl ⟨by simp [updateSpecificOAConstraints, hkey], by simp [Written]⟩
              | ok u =>
                  have hnew := getItem_setItem h ht emptyTarget
                  have hrec : IsRecord (addObjToJson file t emptyTarget) := isRecord_setItem h _ _
                  have hd' : getItemFromJson (addObjToJson file t emptyTarget) t = some emptyTarget := by
                    rw [addObjToJson, hnew, if_pos rfl]
                  refine .inr ⟨⟨rfl, rfl⟩,
                    specificConstraintsDataOperate (toString enforcerId) constraints true
                    emptyTarget, fun t' => ?_, rewritten_emptyTarget _
                    (specificConstraintsDataOperate_rewrites true hnames wellFormed_emptyTarget.record) _⟩
                  simp only [updateSpecificOAConstraints, hkey, Bool.not_true, Bool.and_false,
                    Bool.false_eq_true,
                    if_false]
                  rw [getItem_specificTargetOperate _ true ht constraints hrec hd']
                  split
                  · rfl
                  · rename_i hne
                    rw [addObjToJson, hnew, if_neg hne]

/-- The constraints that the list of a target gets or loses do not show if the
target has them from elsewhere. -/
theorem sameAnswers_specific (b : Build) {s' : State} {target : AccountFile} {d' : Json}
    (htarget : s.accounts[targetId]? = some target) (haccounts : s'.accounts = s.accounts)
    (hglobal : s'.files.global = s.files.global) (hcache : s'.typeCache = s.typeCache) (htee : s'.tee = s.tee)
    (hget : ∀ t', getItemFromJson s'.files.specific t' =
      if toString targetId = t' then some d' else getItemFromJson s.files.specific t')
    (h : Rewritten allSpecificConstraints (toString enforcerId) constraints enable
      (fun c => isKeyExist (targetOf s.files.specific targetId) c = true) (targetOf s.files.specific targetId) d') :
    SameAnswers b s s' ↔ ∀ c ∈ constraints,
      ListingKept allSpecificConstraints (toString enforcerId) enable
        (isKeyExist (targetOf s.files.specific targetId) c = true) (targetOf s.files.specific targetId) c ∨
      ∀ ask, c ∈ target.constraints ∨ (c = constraintAdminAuthorize ∧ restrictedAdmin s b ask targetId target) ∨
        c ∈ getVectorStringFromJson s.files.global allGlobalConstraints := by
  have hrestricted : ∀ ask id info, restrictedAdmin s' b ask id info ↔ restrictedAdmin s b ask id info :=
    fun ask id info => restrictedAdmin_congr hcache htee b ask id rfl
  have hself : targetOf s'.files.specific targetId = d' := by
    rw [targetOf, hget, if_pos rfl, Option.getD_some]
  constructor
  · intro hsame c hc
    rw [sameAnswers_iff b (by simp [haccounts])] at hsame
    by_cases hkept : ListingKept allSpecificConstraints (toString enforcerId) enable
        (isKeyExist (targetOf s.files.specific targetId) c = true) (targetOf s.files.specific targetId) c
    · exact .inl hkept
    · refine .inr fun ask => ?_
      have hiff := hsame ask targetId target target htarget (by rw [haccounts, htarget]) c
      rw [← h.listingKept_iff hc] at hkept
      rw [hasConstraint, hrestricted, hglobal, hself, hasConstraint] at hiff
      tauto
  · intro hkept
    refine sameAnswers_of_accounts haccounts fun ask id info hinfo c => ?_
    rw [hasConstraint, hrestricted, hglobal, hasConstraint]
    by_cases hid : targetId = id
    · subst hid
      rw [htarget, Option.some.injEq] at hinfo
      subst hinfo
      rw [hself]
      by_cases hc : c ∈ constraints
      · rcases hkept c hc with hlist | helse
        · rw [(h.listingKept_iff hc).mpr hlist]
        · have hmasked := helse ask
          tauto
      · have hlist : c ∈ getVectorStringFromJson d' allSpecificConstraints ↔
            c ∈ getVectorStringFromJson (targetOf s.files.specific targetId) allSpecificConstraints := by
          rw [h.mem]
          cases enable <;> simp [changed, hc]
        rw [hlist]
    · have hother : targetOf s'.files.specific id = targetOf s.files.specific id := by
        rw [targetOf, hget, if_neg fun he => hid (Decimal.toString_injective he), targetOf]
      rw [hother]

theorem setSpecificOsAccountConstraints_honest (b : Build) (h : Stored s.files) :
    Honest b s (setSpecificOsAccountConstraints s a constraints enable targetId enforcerId isDeviceOwner) constraints
      (SpecificAsked targetId enforcerId enable) ↔
      SpecificHonestWhen s a constraints enable targetId enforcerId isDeviceOwner b := by
  unfold setSpecificOsAccountConstraints SpecificHonestWhen
  cases hinfo : getOsAccountInfoById s a.enforcer enforcerId with
  | error e => exact iff_of_true (honest_unchanged s constraints _) (fun _ hok => by cases hok)
  | ok enforcer =>
      cases htarget : getOsAccountInfoById s a.account targetId with
      | error e => exact iff_of_true (honest_unchanged s constraints _) (fun _ _ _ hok => by cases hok)
      | ok target =>
          simp only [Except.ok.injEq, forall_eq']
          cases hremoved : target.toBeRemoved || enforcer.toBeRemoved with
          | true => exact iff_of_true (honest_unchanged s constraints _) (fun hok => by cases hok)
          | false =>
              cases hknown : checkConstraints a.definition constraints with
              | false => exact iff_of_true (honest_unchanged s constraints _) (fun _ hok => by cases hok)
              | true =>
                  simp only [Bool.false_eq_true, if_false, Bool.not_true, forall_const]
                  have hnames : ∀ c ∈ constraints, c ∉ specificReserved ∧ c ≠ "" := fun c hc =>
                    (names_of_checkConstraints hknown c hc).2
                  have hupdate := updateSpecificOAConstraints_snd_cases constraints enable targetId enforcerId
                    a.constraints h.specific (fun t d => h.target) hnames
                  generalize (updateSpecificOAConstraints a.constraints (toString enforcerId)
                    (toString targetId) constraints enable s.files.specific).2 = specific at hupdate
                  refine (honest_dealWithDeviceOwnerId b a.owner isDeviceOwner enforcerId ?_ ?_ ?_ ?_).trans ?_
                  · exact h.global
                  · rfl
                  · rfl
                  · exact fun owner c hc => Iff.rfl
                  rcases hupdate with ⟨rfl, hw⟩ | ⟨hw, d', hget, hrewrite⟩
                  · have hsame : SameAnswers b s s := fun _ _ _ => rfl
                    by_cases hwritten : Written a.constraints
                    · -- a removal for a target without constraints
                      obtain ⟨rfl, hnone⟩ := hw hwritten
                      have hasked : ∀ c ∈ constraints, SpecificAsked targetId enforcerId false s c := by
                        intro c _
                        rw [SpecificAsked, ImposedOn, hnone]
                        simp
                      have hkept : ∀ c, ListingKept allSpecificConstraints (toString enforcerId) false
                          (isKeyExist (targetOf s.files.specific targetId) c = true)
                          (targetOf s.files.specific targetId) c := by
                        intro c hlisted
                        rw [targetOf, hnone] at hlisted
                        cases hlisted
                      simp only [hkept, true_or, implies_true, eq_true hsame, eq_true hasked,
                        or_true, true_and]
                    · simp only [hwritten, false_or, false_imp_iff, eq_true hsame]
                  · have hsame : SameAnswers b s { s with files := { s.files with specific } } ↔ _ :=
                      sameAnswers_specific s constraints enable targetId enforcerId b
                        (getOsAccountInfoById_eq_ok.mp htarget).1 rfl rfl rfl rfl hget hrewrite
                    have hasked : ∀ c ∈ constraints,
                        SpecificAsked targetId enforcerId enable { s with files := { s.files with specific } } c := by
                      intro c hc
                      rw [SpecificAsked, ImposedOn]
                      simp only [hget, if_true, Option.some.injEq, exists_eq_left']
                      exact hrewrite.imposed hc
                    rw [hsame]
                    simp only [hw, true_or, true_and, forall_const, eq_true hasked]

end specific

/-- A setter reports honestly if and only if no write fails between its first
and its last, or the change that the failed write leaves behind does not show. -/
theorem constraintSetters_honest_iff (b : Build) (s : State) (h : Stored s.files) (a : SetAnswer)
    (constraints : List String) (enable : Bool) (id enforcerId : Int) (isDeviceOwner : Bool) :
    (Honest b s (setBaseOsAccountConstraints s a id constraints enable) constraints (BaseAsked id enable) ↔
      BaseHonestWhen s a id constraints enable b) ∧
    (Honest b s (setGlobalOsAccountConstraints s a constraints enable enforcerId isDeviceOwner) constraints
      (GlobalAsked enforcerId enable) ↔ GlobalHonestWhen s a constraints enable enforcerId isDeviceOwner b) ∧
    (Honest b s (setSpecificOsAccountConstraints s a constraints enable id enforcerId isDeviceOwner) constraints
      (SpecificAsked id enforcerId enable) ↔
      SpecificHonestWhen s a constraints enable id enforcerId isDeviceOwner b) :=
  ⟨setBaseOsAccountConstraints_honest s a id constraints enable b h,
    setGlobalOsAccountConstraints_honest s a constraints enable enforcerId isDeviceOwner b h,
    setSpecificOsAccountConstraints_honest s a constraints enable id enforcerId isDeviceOwner b h⟩

def firstStart : State where
  accounts := (∅ : ExtTreeMap Int AccountFile compare).insert 100 { localId := 100, isCreateCompleted := true }
  files := ⟨.obj [("100", .arr [])], .obj [(deviceOwnerId, .num (-1)), (allGlobalConstraints, .arr [])],
    .obj [("100", .obj [(allSpecificConstraints, .arr [])])]⟩
  deviceOwnerId := -1
  typeCache := ∅
  tee := ∅

/-- Every call succeeds but the write of the constraints, which ends with `write`. -/
def constraintsAnswer (write : Ret) : SetAnswer :=
  ⟨.ok (), .ok (), .ok (), some ⟨["constraint.wifi"], by decide⟩, .ok (), ⟨.ok (), write⟩, ⟨.ok (), .ok ()⟩⟩

theorem constraintSetters_honest_firstStart :
    Honest ⟨false, false⟩ firstStart
      (setGlobalOsAccountConstraints firstStart (constraintsAnswer (.ok ())) ["constraint.wifi"] true 100 true)
      ["constraint.wifi"] (GlobalAsked 100 true) := by
  have hstored : Stored firstStart.files := by
    refine ⟨?_, ?_, ?_, fun {t d} hd => ?_⟩
    · simp [firstStart, IsRecord, Fields.keys]
    · simp [firstStart, IsRecord, Fields.keys, deviceOwnerId, allGlobalConstraints]
    · simp [firstStart, IsRecord, Fields.keys]
    · by_cases ht : t = "100"
      · subst ht
        cases hd
        simp [IsRecord, Fields.keys]
      · simp [firstStart, getItemFromJson, fields, Fields.find, Ne.symm ht] at hd
  refine ((constraintSetters_honest_iff ⟨false, false⟩ firstStart hstored (constraintsAnswer (.ok ()))
    ["constraint.wifi"] true 100 100 true).2.1).mpr fun info _ _ _ => ?_
  have howner : OwnerChanges firstStart true 100 := by decide
  have hwritten : ∀ write, Written (constraintsAnswer write).owner := fun write => ⟨rfl, rfl⟩
  rw [if_neg fun hfails => hfails.2 (hwritten _)]
  exact ⟨.inl ⟨rfl, rfl⟩, .inl howner⟩

/-- The constraints of the global file are not written and the call says that
they are; the setter of one account says that it failed and has changed the
record. -/
theorem constraintSetters_not_honest :
    ¬Honest ⟨false, false⟩ firstStart (setGlobalOsAccountConstraints firstStart
      (constraintsAnswer (.error .fileWriteFailed)) ["constraint.wifi"] true 100 true)
      ["constraint.wifi"] (GlobalAsked 100 true) ∧
    ¬Honest ⟨false, false⟩ firstStart (setBaseOsAccountConstraints firstStart
      (constraintsAnswer (.error .fileWriteFailed)) 100 ["constraint.wifi"] true)
      ["constraint.wifi"] (BaseAsked 100 true) := by
  constructor
  · intro h
    have himposed := ((h.done (by decide +kernel)).1 "constraint.wifi" (by decide)).mpr rfl
    revert himposed
    unfold Imposed
    decide +kernel
  · intro h
    have hsame := h.failed (by decide +kernel) (.ok ()) 100 "constraint.wifi"
    revert hsame
    decide +kernel

end OsAccount.ConstraintSetters
