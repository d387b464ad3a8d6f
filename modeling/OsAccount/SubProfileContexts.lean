import OsAccount.Machine
import OsAccount.SubProfiles
import Mathlib.Data.List.Nodup

namespace OsAccount.SubProfileContexts

open Std SubProfiles

structure WellFormed (max : MaxCount) (osAccountId : Int) (ctx : SubProfileContext) : Prop where
  nodup : ctx.subProfileIdList.Nodup
  base_mem : base osAccountId ∈ ctx.subProfileIdList
  range : ∀ id ∈ ctx.subProfileIdList, id ≠ base osAccountId →
    base osAccountId + osAccountSubProfileIdMin ≤ id ∧ id ≤ base osAccountId + osAccountSubProfileIdMax
  headless : ctx.subProfileIndexMap[headlessSubProfileIndex]? = some (base osAccountId)
  keys : ∀ (i id : Int), ctx.subProfileIndexMap[i]? = some id → headlessSubProfileIndex ≤ i ∧ i ≤ max.val
  injective : ∀ (i j id : Int), ctx.subProfileIndexMap[i]? = some id → ctx.subProfileIndexMap[j]? = some id → i = j
  values : ∀ id : Int, id ∈ ctx.subProfileIdList ↔ ∃ i : Int, ctx.subProfileIndexMap[i]? = some id

section allocators

variable {max : MaxCount}

theorem allocateSubProfileIndex_eq_ok {nextSubProfileIndex index : Int} {indexMap : ExtTreeMap Int Int compare}
    (h : allocateSubProfileIndex max nextSubProfileIndex indexMap = .ok index) :
    (headlessSubProfileIndex + 1 ≤ index ∧ index ≤ max.val) ∧ index ∉ indexMap := by
  unfold allocateSubProfileIndex at h
  split at h
  · rename_i hfirst
    cases h
    obtain ⟨hrange, hfree⟩ := CyclicSearch.firstFree_eq_some max.one_le hfirst
    exact ⟨hrange, of_decide_eq_false hfree⟩
  · cases h

theorem allocateSubProfileIndex_eq_error_iff {nextSubProfileIndex : Int} {indexMap : ExtTreeMap Int Int compare} :
    (∃ e, allocateSubProfileIndex max nextSubProfileIndex indexMap = .error e) ↔
      ∀ index, headlessSubProfileIndex + 1 ≤ index → index ≤ max.val → index ∈ indexMap := by
  have hnone : CyclicSearch.firstFree (fun i => i ∈ indexMap) (headlessSubProfileIndex + 1) max.val
      nextSubProfileIndex = none ↔ _ := CyclicSearch.firstFree_eq_none_iff max.one_le
  simp only [decide_eq_true_eq] at hnone
  refine Iff.trans ?_ hnone
  unfold allocateSubProfileIndex
  split <;> rename_i hfirst <;> simp [hfirst]

theorem id_range_nonempty (osAccountId : Int) :
    base osAccountId + osAccountSubProfileIdMin ≤ base osAccountId + osAccountSubProfileIdMax :=
  Int.add_le_add_left (by decide) _

theorem allocateOsAccountSubProfileId_eq_ok {osAccountId nextSubProfileId id : Int} {idList : List Int}
    (h : allocateOsAccountSubProfileId osAccountId nextSubProfileId idList = .ok id) :
    (base osAccountId + osAccountSubProfileIdMin ≤ id ∧ id ≤ base osAccountId + osAccountSubProfileIdMax) ∧
      id ∉ idList := by
  unfold allocateOsAccountSubProfileId at h
  split at h
  · rename_i hfirst
    cases h
    obtain ⟨hrange, hfree⟩ := CyclicSearch.firstFree_eq_some (id_range_nonempty osAccountId) hfirst
    exact ⟨hrange, of_decide_eq_false hfree⟩
  · cases h

theorem allocateOsAccountSubProfileId_eq_error_iff {osAccountId nextSubProfileId : Int} {idList : List Int} :
    (∃ e, allocateOsAccountSubProfileId osAccountId nextSubProfileId idList = .error e) ↔
      ∀ id, base osAccountId + osAccountSubProfileIdMin ≤ id → id ≤ base osAccountId + osAccountSubProfileIdMax →
        id ∈ idList := by
  have hnone : CyclicSearch.firstFree (fun id => id ∈ idList) (base osAccountId + osAccountSubProfileIdMin)
      (base osAccountId + osAccountSubProfileIdMax) nextSubProfileId = none ↔ _ :=
    CyclicSearch.firstFree_eq_none_iff (id_range_nonempty osAccountId)
  simp only [decide_eq_true_eq] at hnone
  rw [← hnone]
  unfold allocateOsAccountSubProfileId
  split <;> rename_i hfirst <;> simp [hfirst]

end allocators

section contexts

variable {max : MaxCount} {osAccountId : Int} {ctx : SubProfileContext}

theorem base_ne_of_range {id : Int} (h : base osAccountId + osAccountSubProfileIdMin ≤ id) : id ≠ base osAccountId := by
  unfold osAccountSubProfileIdMin at h
  omega

theorem wellFormed_default (max : MaxCount) (osAccountId : Int) :
    WellFormed max osAccountId (createWithHeadlessDefault osAccountId) := by
  have hmap : ∀ i id : Int, (createWithHeadlessDefault osAccountId).subProfileIndexMap[i]? = some id ↔
      i = headlessSubProfileIndex ∧ id = base osAccountId := by
    intro i id
    simp only [createWithHeadlessDefault, OrderedMap.getElem?_insert_eq]
    split
    · rename_i hi
      simp [← hi, eq_comm]
    · rename_i hi
      simp [Ne.symm hi]
  refine ⟨List.nodup_singleton _, List.mem_singleton_self _, ?_, (hmap _ _).2 ⟨rfl, rfl⟩, ?_, ?_, ?_⟩
  · intro id hid hne
    exact (hne (List.mem_singleton.1 hid)).elim
  · intro i id hi
    rw [((hmap i id).1 hi).1]
    have hone := max.one_le
    unfold headlessSubProfileIndex
    omega
  · intro i j id hi hj
    rw [((hmap i id).1 hi).1, ((hmap j id).1 hj).1]
  · intro id
    refine ⟨fun hid => ⟨headlessSubProfileIndex, (hmap _ _).2 ⟨rfl, List.mem_singleton.1 hid⟩⟩, ?_⟩
    rintro ⟨i, hi⟩
    exact List.mem_singleton.2 ((hmap i id).1 hi).2

theorem WellFormed.extend (h : WellFormed max osAccountId ctx) {id index : Int}
    (hid : base osAccountId + osAccountSubProfileIdMin ≤ id ∧ id ≤ base osAccountId + osAccountSubProfileIdMax)
    (hnew : id ∉ ctx.subProfileIdList) (hindex : headlessSubProfileIndex + 1 ≤ index ∧ index ≤ max.val)
    (hfree : index ∉ ctx.subProfileIndexMap) : WellFormed max osAccountId (ctx.extend id index) := by
  have hmap : ∀ i v : Int, (ctx.extend id index).subProfileIndexMap[i]? = some v ↔
      (i = index ∧ v = id) ∨ ctx.subProfileIndexMap[i]? = some v := by
    intro i v
    simp only [SubProfileContext.extend, OrderedMap.getElem?_insert_eq]
    split
    · rename_i hi
      subst hi
      rw [ExtTreeMap.mem_iff_isSome_getElem?, Bool.not_eq_true, Option.isSome_eq_false_iff,
        Option.isNone_iff_eq_none]
        at hfree
      simp [hfree, eq_comm]
    · rename_i hi
      simp [Ne.symm hi]
  have hvalue : ∀ i : Int, ctx.subProfileIndexMap[i]? ≠ some id := fun i hi => hnew ((h.values id).2 ⟨i, hi⟩)
  refine ⟨?_, List.mem_append_left _ h.base_mem, ?_, (hmap _ _).2 (.inr h.headless), ?_, ?_, ?_⟩
  · refine List.nodup_append.2 ⟨h.nodup, List.nodup_singleton id, fun v hv w hw => ?_⟩
    rw [List.mem_singleton.1 hw]
    rintro rfl
    exact hnew hv
  · intro v hv hne
    rcases List.mem_append.1 hv with hv | hv
    · exact h.range v hv hne
    · rwa [List.mem_singleton.1 hv]
  · intro i v hi
    rcases (hmap i v).1 hi with ⟨rfl, _⟩ | hi
    · unfold headlessSubProfileIndex at hindex ⊢
      omega
    · exact h.keys i v hi
  · intro i j v hi hj
    rcases (hmap i v).1 hi with ⟨hi', hv⟩ | hi' <;> rcases (hmap j v).1 hj with ⟨hj', hv'⟩ | hj'
    · exact hi'.trans hj'.symm
    · exact (hvalue j (hv ▸ hj')).elim
    · exact (hvalue i (hv' ▸ hi')).elim
    · exact h.injective i j v hi' hj'
  · intro v
    constructor
    · intro hv
      rcases List.mem_append.1 hv with hv | hv
      · obtain ⟨i, hi⟩ := (h.values v).1 hv
        exact ⟨i, (hmap i v).2 (.inr hi)⟩
      · exact ⟨index, (hmap index v).2 (.inl ⟨rfl, List.mem_singleton.1 hv⟩)⟩
    · rintro ⟨i, hi⟩
      rcases (hmap i v).1 hi with ⟨_, rfl⟩ | hi
      · exact List.mem_append_right _ (List.mem_singleton_self _)
      · exact List.mem_append_left _ ((h.values v).2 ⟨i, hi⟩)

theorem getElem?_eraseIndexOf {indexMap : ExtTreeMap Int Int compare}
    (hinj : ∀ (i j id : Int), indexMap[i]? = some id → indexMap[j]? = some id → i = j) (id i : Int) :
    (eraseIndexOf id indexMap)[i]? = if indexMap[i]? = some id then none else indexMap[i]? := by
  unfold eraseIndexOf
  cases hfind : indexMap.toList.find? (fun p => p.2 = id) with
  | none =>
      have hnone : indexMap[i]? ≠ some id := by
        intro hi
        have hno := List.find?_eq_none.1 hfind (i, id) (ExtTreeMap.mem_toList_iff_getElem?_eq_some.2 hi)
        simp at hno
      rw [if_neg hnone]
  | some p =>
      have hp : indexMap[p.1]? = some id := by
        have hmem := ExtTreeMap.mem_toList_iff_getElem?_eq_some.1 (List.mem_of_find?_eq_some hfind)
        have hvalue := List.find?_some hfind
        rwa [of_decide_eq_true hvalue] at hmem
      dsimp only
      rw [OrderedMap.getElem?_erase_eq]
      by_cases hi : p.1 = i
      · rw [if_pos hi, if_pos (hi ▸ hp)]
      · rw [if_neg hi, if_neg fun he => hi (hinj _ _ id hp he)]

theorem WellFormed.purge (h : WellFormed max osAccountId ctx) {id : Int} (hid : id ≠ base osAccountId) :
    WellFormed max osAccountId (purgeGarbageIdFromAccountInfo ctx id) := by
  have hmap : ∀ i v : Int, (purgeGarbageIdFromAccountInfo ctx id).subProfileIndexMap[i]? = some v ↔
      v ≠ id ∧ ctx.subProfileIndexMap[i]? = some v := by
    intro i v
    simp only [purgeGarbageIdFromAccountInfo, getElem?_eraseIndexOf h.injective]
    split
    · rename_i hi
      simp [hi, eq_comm]
    · rename_i hi
      refine ⟨fun hv => ⟨?_, hv⟩, fun hv => hv.2⟩
      rintro rfl
      exact hi hv
  have hlist : ∀ v, v ∈ (purgeGarbageIdFromAccountInfo ctx id).subProfileIdList ↔ v ≠ id ∧
      v ∈ ctx.subProfileIdList :=
    fun v => h.nodup.mem_erase_iff
  refine ⟨h.nodup.erase id, (hlist _).2 ⟨hid.symm, h.base_mem⟩, fun v hv => h.range v ((hlist v).1 hv).2,
    (hmap _ _).2 ⟨hid.symm, h.headless⟩, fun i v hi => h.keys i v ((hmap i v).1 hi).2,
    fun i j v hi hj => h.injective i j v ((hmap i v).1 hi).2 ((hmap j v).1 hj).2, fun v => ?_⟩
  rw [hlist, h.values]
  constructor
  · rintro ⟨hne, i, hi⟩
    exact ⟨i, (hmap i v).2 ⟨hne, hi⟩⟩
  · rintro ⟨i, hi⟩
    obtain ⟨hne, hi⟩ := (hmap i v).1 hi
    exact ⟨hne, i, hi⟩

theorem WellFormed.purge_all (h : WellFormed max osAccountId ctx) {ids : List Int}
    (hids : ∀ id ∈ ids, id ≠ base osAccountId) :
    WellFormed max osAccountId (ids.foldl purgeGarbageIdFromAccountInfo ctx) := by
  induction ids generalizing ctx with
  | nil => exact h
  | cons id ids ih =>
      exact ih (h.purge (hids id List.mem_cons_self)) fun v hv => hids v (List.mem_cons_of_mem id hv)

theorem rollback_eq {id index : Int} (hfree : index ∉ ctx.subProfileIndexMap) : { ctx with
    subProfileIdList := (ctx.subProfileIdList ++ [id]).dropLast
    subProfileIndexMap := (ctx.subProfileIndexMap.insert index id).erase index } = ctx := by
  have hmap : (ctx.subProfileIndexMap.insert index id).erase index = ctx.subProfileIndexMap := by
    apply ExtTreeMap.ext_getElem?
    intro i
    rw [OrderedMap.getElem?_erase_eq]
    split
    · rename_i hi
      subst hi
      exact (ExtTreeMap.getElem?_eq_none hfree).symm
    · rename_i hi
      rw [OrderedMap.getElem?_insert_eq, if_neg hi]
  rw [hmap, List.dropLast_concat]

end contexts

/-- Every context is well formed, and no directory is in the place of the headless
sub-profile or holds the record of another one. -/
structure Inv (max : MaxCount) (d : Disk) : Prop where
  contexts : ∀ (a : Int) (ctx : SubProfileContext), (d a).context = some ctx → WellFormed max a ctx
  dirs : ∀ (a s : Int) (info : Option OsAccountSubspaceInfo), (d a).dirs[s]? = some info →
    s ≠ base a ∧ ∀ i, info = some i → i.userId = a ∧ i.subspaceId = s

structure Keeps (max : MaxCount) (osAccountId : Int) (d d' : Disk) : Prop where
  inv : Inv max d'
  others : ∀ b, b ≠ osAccountId → (d' b).context = (d b).context

section disk

variable {max : MaxCount} {osAccountId : Int} {d d₁ d₂ : Disk}

theorem Keeps.refl (h : Inv max d) : Keeps max osAccountId d d := ⟨h, fun _ _ => rfl⟩

theorem Keeps.trans (h₁ : Keeps max osAccountId d d₁) (h₂ : Keeps max osAccountId d₁ d₂) :
    Keeps max osAccountId d d₂ :=
  ⟨h₂.inv, fun b hb => (h₂.others b hb).trans (h₁.others b hb)⟩

theorem keeps_setContext (h : Inv max d) {ctx : SubProfileContext} (hctx : WellFormed max osAccountId ctx) :
    Keeps max osAccountId d (d.setContext osAccountId ctx) := by
  refine ⟨⟨?_, ?_⟩, ?_⟩
  · intro a ctx' ha
    rw [context_setContext] at ha
    split at ha
    · rename_i he
      cases ha
      rwa [he]
    · exact h.contexts a ctx' ha
  · intro a s info ha
    rw [dirs_setContext] at ha
    exact h.dirs a s info ha
  · intro b hb
    rw [context_setContext, if_neg hb]

theorem keeps_setDir (h : Inv max d) {a s : Int} {info : Option OsAccountSubspaceInfo} (hs : s ≠ base a)
    (hinfo : ∀ i, info = some i → i.userId = a ∧ i.subspaceId = s) : Keeps max osAccountId d (d.setDir a s info) := by
  refine ⟨⟨?_, ?_⟩, ?_⟩
  · intro b ctx hb
    rw [context_setDir] at hb
    exact h.contexts b ctx hb
  · intro b t info' hb
    rw [dirs_setDir] at hb
    split at hb
    · rename_i he
      obtain ⟨rfl, rfl⟩ := he
      cases hb
      exact ⟨hs, hinfo⟩
    · exact h.dirs b t info' hb
  · exact fun b _ => context_setDir d a b s info

theorem keeps_eraseDir (h : Inv max d) (a s : Int) : Keeps max osAccountId d (d.eraseDir a s) := by
  refine ⟨⟨?_, ?_⟩, fun b _ => context_eraseDir d a b s⟩
  · intro b ctx hb
    rw [context_eraseDir] at hb
    exact h.contexts b ctx hb
  · intro b t info hb
    rw [dirs_eraseDir] at hb
    split at hb
    · cases hb
    · exact h.dirs b t info hb

theorem keeps_updateOsAccountSubspaceInfo (h : Inv max d) {ctx : SubProfileContext}
    (hctx : WellFormed max osAccountId ctx) (a : WriteAnswer) :
    Keeps max osAccountId d (updateOsAccountSubspaceInfo a osAccountId ctx d).2 := by
  cases a with
  | success => exact keeps_setContext h hctx
  | failure e => exact .refl h
  | crash => exact .refl h

variable (osAccountId) in
theorem keeps_removeSubProfileDir (h : Inv max d) (a : DirAnswer) (id s : Int) :
    Keeps max osAccountId d (removeSubProfileDir a id s d).2 := by
  unfold removeSubProfileDir
  split
  · exact .refl h
  rename_i hmem
  obtain ⟨info, hinfo⟩ := Option.isSome_iff_exists.1 (ExtTreeMap.mem_iff_isSome_getElem?.1 (not_not.1 hmem))
  have hempty : Keeps max osAccountId d (d.setDir id s none) :=
    keeps_setDir h (h.dirs id s info hinfo).1 fun i hi => by cases hi
  cases a with
  | success => exact keeps_eraseDir h id s
  | failure e emptied =>
      cases emptied with
      | true => exact hempty
      | false => exact .refl h
  | crash emptied =>
      cases emptied with
      | true => exact hempty
      | false => exact .refl h

theorem keeps_saveSubProfileInfo (h : Inv max d) (a : SaveAnswer) {info : OsAccountSubspaceInfo}
    (hinfo : info.subspaceId ≠ base info.userId) : Keeps max osAccountId d (saveSubProfileInfo a info d).2 := by
  have hmake : ∀ made, Keeps max osAccountId d (makeDir made info d) := by
    intro made
    unfold makeDir
    split
    · exact keeps_setDir h hinfo fun i hi => by cases hi
    · exact .refl h
  cases a with
  | success =>
      refine keeps_setDir h hinfo fun i hi => ?_
      cases hi
      exact ⟨rfl, rfl⟩
  | failure e made => exact hmake made
  | crash made => exact hmake made

variable (osAccountId) in
theorem keeps_removeSubProfileDirs (h : Inv max d) (a : Int → DirAnswer) (id : Int) (subIds : List Int) :
    Keeps max osAccountId d (removeSubProfileDirs a id subIds d).2 := by
  induction subIds generalizing d with
  | nil => exact .refl h
  | cons subId subIds ih =>
      have hremove := keeps_removeSubProfileDir osAccountId h (a subId) id subId
      unfold removeSubProfileDirs
      split <;> rename_i hr <;> rw [hr] at hremove
      · exact hremove
      · exact hremove.trans (ih hremove.inv)
      · have hrest := hremove.trans (ih hremove.inv)
        dsimp only at hrest ⊢
        split <;> rename_i hr' <;> rw [hr'] at hrest <;> exact hrest

@[simp]
theorem ignoreError_snd (r : Done Unit × Disk) : (ignoreError r).2 = r.2 := by
  obtain ⟨r, d⟩ := r
  cases r with
  | ok u => rfl
  | error stop => cases stop <;> rfl

theorem keeps_purgeGarbageIdsFromContext (h : Inv max d) (a : WriteAnswer) {ids : List Int}
    (hids : ∀ id ∈ ids, id ≠ base osAccountId) :
    Keeps max osAccountId d (purgeGarbageIdsFromContext a osAccountId ids d).2 := by
  unfold purgeGarbageIdsFromContext
  split
  · exact .refl h
  · rename_i ctx hctx
    rw [ignoreError_snd]
    exact keeps_updateOsAccountSubspaceInfo h ((h.contexts osAccountId ctx hctx).purge_all hids) a

theorem garbageIds_ne_base (h : Inv max d) : ∀ id ∈ garbageIds d osAccountId, id ≠ base osAccountId := by
  intro id hid
  unfold garbageIds scanPendingRemovalSubProfileIds at hid
  obtain ⟨_, info, hinfo, _⟩ := mem_scanSubProfileIds.1 hid
  exact (h.dirs osAccountId id _ hinfo).1

variable (osAccountId) in
theorem keeps_removeGarbageSubProfiles (h : Inv max d) (a : Int → DirAnswer) (purge : WriteAnswer) :
    Keeps max osAccountId d (removeGarbageSubProfiles a purge osAccountId d).2 := by
  have hremove := keeps_removeSubProfileDirs osAccountId h a osAccountId (garbageIds d osAccountId)
  unfold removeGarbageSubProfiles
  split
  · exact .refl h
  split <;> rename_i hr <;> rw [hr] at hremove
  · exact hremove
  split
  · exact hremove
  · have hpurge := hremove.trans (keeps_purgeGarbageIdsFromContext hremove.inv purge (garbageIds_ne_base h))
    dsimp only at hpurge ⊢
    split <;> rename_i hr' <;> rw [hr'] at hpurge <;> exact hpurge

theorem wellFormed_readSubProfileContext (h : Inv max d) (osAccountId : Int) :
    WellFormed max osAccountId (readSubProfileContext d osAccountId) := by
  unfold readSubProfileContext
  cases hctx : (d osAccountId).context with
  | none => exact wellFormed_default max osAccountId
  | some ctx => exact h.contexts osAccountId ctx hctx

variable (osAccountId) in
theorem keeps_contextToExtend (h : Inv max d) (a : CreateAnswer) :
    Keeps max osAccountId d (contextToExtend max a osAccountId d).2 ∧
      ∀ ctx, (contextToExtend max a osAccountId d).1 = .ok ctx →
        ctx = readSubProfileContext (contextToExtend max a osAccountId d).2 osAccountId := by
  have hremove := keeps_removeGarbageSubProfiles osAccountId h a.removeGarbageDir a.purge
  unfold contextToExtend
  split
  · unfold tryReclaimSubProfileSlots
    split <;> rename_i hr <;> rw [hr] at hremove
    · exact ⟨hremove, fun ctx hctx => by cases hctx⟩
    split
    · exact ⟨hremove, fun ctx hctx => by cases hctx⟩
    split
    · exact ⟨hremove, fun ctx hctx => by cases hctx⟩
    · refine ⟨hremove, fun ctx hctx => ?_⟩
      cases hctx
      rfl
  · refine ⟨.refl h, fun ctx hctx => ?_⟩
    cases hctx
    rfl

theorem keeps_rollbackSubProfileCreation (h : Inv max d) (a : CreateAnswer) {ctx : SubProfileContext}
    (hctx : WellFormed max osAccountId ctx) (id : Int) {index : Int} (hfree : index ∉ ctx.subProfileIndexMap) :
    Keeps max osAccountId d (rollbackSubProfileCreation a osAccountId id index ctx d).2 := by
  have hremove := keeps_removeSubProfileDir osAccountId h a.rollbackDir osAccountId id
  rw [← ignoreError_snd] at hremove
  unfold rollbackSubProfileCreation
  split <;> rename_i hr <;> rw [hr] at hremove
  · exact hremove
  · rw [ignoreError_snd, rollback_eq hfree]
    exact hremove.trans (keeps_updateOsAccountSubspaceInfo hremove.inv hctx a.rollback)

theorem keeps_allocateAndPersistSubProfile (h : Inv max d) (a : CreateAnswer) {ctx : SubProfileContext}
    (hctx : WellFormed max osAccountId ctx) {id : Int}
    (hid : base osAccountId + osAccountSubProfileIdMin ≤ id ∧ id ≤ base osAccountId + osAccountSubProfileIdMax)
    (hnew : id ∉ ctx.subProfileIdList) :
    Keeps max osAccountId d (allocateAndPersistSubProfile max a osAccountId ctx id d).2 := by
  unfold allocateAndPersistSubProfile
  split
  · exact .refl h
  rename_i index hindex
  obtain ⟨hrange, hfree⟩ := allocateSubProfileIndex_eq_ok hindex
  have hwrite := keeps_updateOsAccountSubspaceInfo h (hctx.extend hid hnew hrange hfree) a.persist
  split <;> rename_i hr <;> rw [hr] at hwrite
  · exact hwrite
  rename_i d₁
  have hsave : Keeps max osAccountId d
      (saveSubProfileInfo a.save (createdInfo osAccountId id index a.createTime) d₁).2 :=
    hwrite.trans (keeps_saveSubProfileInfo hwrite.inv a.save (base_ne_of_range hid.1))
  split <;> rename_i hr' <;> rw [hr'] at hsave
  · exact hsave
  · exact hsave
  · have hrollback := hsave.trans (keeps_rollbackSubProfileCreation hsave.inv a hctx id hfree)
    dsimp only at hrollback
    split <;> rename_i hr'' <;> rw [hr''] at hrollback <;> exact hrollback

/-- A creation makes room in the context, and then a record under an id that the context does not have. -/
theorem createSubProfile_rule {P : Disk → Prop} (hinv : Inv max d) {a : CreateAnswer}
    (hextend : P (contextToExtend max a osAccountId d).2)
    (hallocate : ∀ (d' : Disk) (id : Int), P d' →
      base osAccountId + osAccountSubProfileIdMin ≤ id ∧ id ≤ base osAccountId + osAccountSubProfileIdMax →
      id ∉ (readSubProfileContext d' osAccountId).subProfileIdList →
      P (allocateAndPersistSubProfile max a osAccountId (readSubProfileContext d' osAccountId) id d').2) :
    P (createSubProfile max a osAccountId d).2 := by
  have hread := (keeps_contextToExtend osAccountId hinv a).2
  unfold createSubProfile
  split <;> rename_i hr <;> rw [hr] at hextend hread
  · exact hextend
  rename_i ctx d₁
  split
  · exact hextend
  · rename_i id hid
    obtain ⟨hrange, hnew⟩ := allocateOsAccountSubProfileId_eq_ok hid
    rw [hread ctx rfl] at hnew ⊢
    exact hallocate d₁ id hextend hrange hnew

theorem keeps_createSubProfile (h : Inv max d) (a : CreateAnswer) :
    Keeps max osAccountId d (createSubProfile max a osAccountId d).2 :=
  createSubProfile_rule h (keeps_contextToExtend osAccountId h a).1 fun _ _ hkeeps hrange hnew =>
    hkeeps.trans (keeps_allocateAndPersistSubProfile hkeeps.inv a
      (wellFormed_readSubProfileContext hkeeps.inv osAccountId) hrange hnew)

theorem keeps_updateContextAfterRemove (h : Inv max d) (a : WriteAnswer) {id : Int} (hid : id ≠ base osAccountId) :
    Keeps max osAccountId d (updateContextAfterRemove a osAccountId id d).2 := by
  unfold updateContextAfterRemove
  split
  · exact .refl h
  split
  · exact .refl h
  · rename_i ctx hctx _
    rw [ignoreError_snd]
    exact keeps_updateOsAccountSubspaceInfo h ((h.contexts osAccountId ctx hctx).purge hid) a

theorem makeDir_of_getElem? (made : Bool) {info : OsAccountSubspaceInfo} {stored : Option OsAccountSubspaceInfo}
    (h : (d info.userId).dirs[info.subspaceId]? = some stored) : makeDir made info d = d := by
  refine if_neg fun hm => hm.2 ?_
  rw [ExtTreeMap.mem_iff_isSome_getElem?, h]
  rfl

/-- What a removal does with a record: it is marked, then its directory goes, and last its place in the context. -/
def removeRecord (a : RemoveAnswer) (osAccountId id : Int) (info : OsAccountSubspaceInfo) (d : Disk) :
    Done Unit × Disk :=
  match saveSubProfileInfo a.save { info with toBeRemoved := true } d with
  | (.error e, d) => (.error e, d)
  | (.ok (), d) =>
      match removeSubProfileDir a.removeDir osAccountId id d with
      | (.error e, d) => (.error e, d)
      | (.ok (), d) => updateContextAfterRemove a.update osAccountId id d

theorem removeSubProfile_cases (h : Inv max d) (a : RemoveAnswer) (id : Int) :
    (∃ e, removeSubProfile a osAccountId id d = (.error e, d)) ∨
    ∃ info, id ≠ base osAccountId ∧ (d osAccountId).dirs[id]? = some (some info) ∧ info.userId = osAccountId ∧
      info.subspaceId = id ∧ info.isCreateCompleted = true ∧
      removeSubProfile a osAccountId id d = removeRecord a osAccountId id info d := by
  unfold removeSubProfile
  split
  · exact .inl ⟨_, rfl⟩
  rename_i hbase
  split
  · exact .inl ⟨_, rfl⟩
  rename_i info hload
  have hinfo := Option.join_eq_some_iff.1 hload
  obtain ⟨hu, hs⟩ := (h.dirs osAccountId id _ hinfo).2 info rfl
  split
  · exact .inl ⟨_, rfl⟩
  rename_i hvalid
  rw [Bool.not_eq_true, Bool.not_eq_false', Bool.and_eq_true] at hvalid
  split
  · exact .inl ⟨_, rfl⟩
  split
  · exact .inl ⟨_, rfl⟩
  · exact .inr ⟨info, hbase, hinfo, hu, hs, hvalid.1, rfl⟩

theorem keeps_removeSubProfile (h : Inv max d) (a : RemoveAnswer) (id : Int) :
    Keeps max osAccountId d (removeSubProfile a osAccountId id d).2 := by
  obtain ⟨e, hrefused⟩ | ⟨info, hbase, -, hu, hs, -, hfound⟩ := removeSubProfile_cases h a id
  · rw [hrefused]
    exact .refl h
  rw [hfound, removeRecord]
  have hsave : Keeps max osAccountId d (saveSubProfileInfo a.save { info with toBeRemoved := true } d).2 := by
    refine keeps_saveSubProfileInfo h a.save ?_
    dsimp only
    rwa [hu, hs]
  split <;> rename_i hr <;> rw [hr] at hsave
  · exact hsave
  have hremove := hsave.trans (keeps_removeSubProfileDir osAccountId hsave.inv a.removeDir osAccountId id)
  dsimp only at hremove
  split <;> rename_i hr' <;> rw [hr'] at hremove
  · exact hremove
  · exact hremove.trans (keeps_updateContextAfterRemove hremove.inv a.update hbase)

theorem keeps_cleanupOrphanedSubProfiles (h : Inv max d) (a : CleanupAnswer) (osAccountIds : List Int) (b : Int) :
    Keeps max b d (cleanupOrphanedSubProfiles a osAccountIds d).2 := by
  induction osAccountIds generalizing d with
  | nil => exact .refl h
  | cons id osAccountIds ih =>
      have horphan := keeps_removeSubProfileDirs b h (a.orphan id) id (scanOrphanedSubProfileIds d id [])
      unfold cleanupOrphanedSubProfiles
      split <;> rename_i hr <;> rw [hr] at horphan
      · exact horphan
      rename_i d₁
      have hpending := horphan.trans
        (keeps_removeSubProfileDirs b horphan.inv (a.pending id) id
          (scanPendingRemovalSubProfileIds d₁ id []))
      dsimp only at hpending ⊢
      split <;> rename_i hr' <;> rw [hr'] at hpending
      · exact hpending
      · exact hpending.trans (ih hpending.inv)

def concerns : Event → Option Int
  | .createSubProfile _ osAccountId => some osAccountId
  | .removeSubProfile _ osAccountId _ => some osAccountId
  | .removeGarbageSubProfiles _ _ osAccountId => some osAccountId
  | .cleanupOrphanedSubProfiles _ _ => none

/-- One event keeps the invariant, and the contexts of the accounts it does not concern. -/
theorem keeps_step (h : Inv max d) (e : Event) :
    Inv max (step max d e) ∧ ∀ b, concerns e ≠ some b → (step max d e b).context = (d b).context := by
  cases e with
  | createSubProfile a osAccountId =>
      have hkeeps : Keeps max osAccountId d (step max d (.createSubProfile a osAccountId)) :=
        keeps_createSubProfile h a
      exact ⟨hkeeps.inv, fun b hb => hkeeps.others b fun he => hb (congrArg some he.symm)⟩
  | removeSubProfile a osAccountId subspaceId =>
      have hkeeps : Keeps max osAccountId d (step max d (.removeSubProfile a osAccountId subspaceId)) :=
        keeps_removeSubProfile h a subspaceId
      exact ⟨hkeeps.inv, fun b hb => hkeeps.others b fun he => hb (congrArg some he.symm)⟩
  | removeGarbageSubProfiles a purge osAccountId =>
      have hkeeps : Keeps max osAccountId d (step max d (.removeGarbageSubProfiles a purge osAccountId)) :=
        keeps_removeGarbageSubProfiles osAccountId h a purge
      exact ⟨hkeeps.inv, fun b hb => hkeeps.others b fun he => hb (congrArg some he.symm)⟩
  | cleanupOrphanedSubProfiles a osAccountIds =>
      refine ⟨(keeps_cleanupOrphanedSubProfiles h a osAccountIds 0).inv, fun b _ => ?_⟩
      have hne : b ≠ b + 1 := by omega
      exact (keeps_cleanupOrphanedSubProfiles h a osAccountIds (b + 1)).others b hne

def nothing : Disk := fun _ => {}

theorem inv_nothing (max : MaxCount) : Inv max nothing := by
  constructor
  · intro a ctx ha
    cases ha
  · intro a s info ha
    simp [nothing] at ha

def reached (max : MaxCount) (es : List Event) : Disk := Machine.run (step max) nothing es

theorem inv_reached (max : MaxCount) (es : List Event) : Inv max (reached max es) := by
  have hstep : ∀ d e, Inv max d → Inv max (step max d e) := fun d e h => (keeps_step h e).1
  exact Machine.run_invariant hstep (inv_nothing max) es

structure Created (max : MaxCount) (osAccountId : Int) (ctx : SubProfileContext) (info : OsAccountSubspaceInfo)
    (d' : Disk) : Prop where
  id : base osAccountId + osAccountSubProfileIdMin ≤ info.subspaceId ∧
    info.subspaceId ≤ base osAccountId + osAccountSubProfileIdMax
  id_free : info.subspaceId ∉ ctx.subProfileIdList
  index : headlessSubProfileIndex + 1 ≤ info.index ∧ info.index ≤ max.val
  index_free : info.index ∉ ctx.subProfileIndexMap
  context : (d' osAccountId).context = some (ctx.extend info.subspaceId info.index)
  dir : (d' osAccountId).dirs[info.subspaceId]? = some (some info)

theorem created_of_createSubProfile {a : CreateAnswer} {info : OsAccountSubspaceInfo}
    (h : createSubProfile max a osAccountId d = (.ok info, d₂)) :
    ∃ ctx d₁, contextToExtend max a osAccountId d = (.ok ctx, d₁) ∧ Created max osAccountId ctx info d₂ := by
  unfold createSubProfile at h
  cases hextend : contextToExtend max a osAccountId d with
  | mk result d₁ =>
  rw [hextend] at h
  cases result with
  | error e => cases h
  | ok ctx =>
  refine ⟨ctx, d₁, rfl, ?_⟩
  dsimp only at h
  cases hid : allocateOsAccountSubProfileId osAccountId ctx.nextSubProfileId ctx.subProfileIdList with
  | error e =>
      rw [hid] at h
      cases h
  | ok id =>
  rw [hid] at h
  obtain ⟨hrange, hnew⟩ := allocateOsAccountSubProfileId_eq_ok hid
  dsimp only at h
  unfold allocateAndPersistSubProfile at h
  cases hindex : allocateSubProfileIndex max ctx.nextSubProfileIndex ctx.subProfileIndexMap with
  | error e =>
      rw [hindex] at h
      cases h
  | ok index =>
  rw [hindex] at h
  obtain ⟨hindexRange, hfree⟩ := allocateSubProfileIndex_eq_ok hindex
  dsimp only at h
  cases hpersist : a.persist with
  | failure e =>
      rw [hpersist] at h
      cases h
  | crash =>
      rw [hpersist] at h
      cases h
  | success =>
  rw [hpersist] at h
  dsimp only [updateOsAccountSubspaceInfo] at h
  cases hsave : a.save with
  | failure e made =>
      rw [hsave] at h
      dsimp only [saveSubProfileInfo] at h
      split at h <;> cases h
  | crash made =>
      rw [hsave] at h
      cases h
  | success =>
  rw [hsave] at h
  dsimp only [saveSubProfileInfo] at h
  cases h
  refine ⟨hrange, hnew, hindexRange, hfree, ?_, ?_⟩
  · rw [context_setDir, context_setContext, if_pos rfl]
    rfl
  · rw [dirs_setDir, if_pos ⟨rfl, rfl⟩]

/-- The invariant of the contexts, what a creation adds to them, and when an
allocation fails. A creation extends the context that is on disk, once garbage has
been reclaimed if the account is at its limit. -/
theorem subProfile_contexts (max : MaxCount) (es : List Event) :
    (∀ osAccountId ctx, (reached max es osAccountId).context = some ctx → WellFormed max osAccountId ctx) ∧
    (∀ a osAccountId info d', createSubProfile max a osAccountId (reached max es) = (.ok info, d') →
      ∃ ctx d₁, contextToExtend max a osAccountId (reached max es) = (.ok ctx, d₁) ∧
        ctx = readSubProfileContext d₁ osAccountId ∧
        (¬isAtLimit max (readSubProfileContext (reached max es) osAccountId) → d₁ = reached max es) ∧
        Created max osAccountId ctx info d') ∧
    (∀ e osAccountId, concerns e ≠ some osAccountId →
      (step max (reached max es) e osAccountId).context = (reached max es osAccountId).context) ∧
    (∀ osAccountId nextSubProfileId idList,
      (∃ e, allocateOsAccountSubProfileId osAccountId nextSubProfileId idList = .error e) ↔
        ∀ id, base osAccountId + osAccountSubProfileIdMin ≤ id → id ≤ base osAccountId + osAccountSubProfileIdMax →
          id ∈ idList) ∧
    (∀ nextSubProfileIndex indexMap, (∃ e, allocateSubProfileIndex max nextSubProfileIndex indexMap = .error e) ↔
      ∀ index, headlessSubProfileIndex + 1 ≤ index → index ≤ max.val → index ∈ indexMap) := by
  have hinv := inv_reached max es
  refine ⟨hinv.contexts, ?_, fun e b hb => (keeps_step hinv e).2 b hb,
    fun _ _ _ => allocateOsAccountSubProfileId_eq_error_iff, fun _ _ => allocateSubProfileIndex_eq_error_iff⟩
  intro a osAccountId info d' hcreate
  obtain ⟨ctx, d₁, hextend, hcreated⟩ := created_of_createSubProfile hcreate
  have hread := (keeps_contextToExtend osAccountId hinv a).2
  rw [hextend] at hread
  refine ⟨ctx, d₁, hextend, hread ctx rfl, fun hlimit => ?_, hcreated⟩
  rw [contextToExtend, if_neg hlimit] at hextend
  exact (congrArg Prod.snd hextend).symm

end disk

end OsAccount.SubProfileContexts
