import OsAccount.SubProfileGarbage

namespace OsAccount.SubProfileSlots

open Std SubProfiles SubProfileContexts SubProfileGarbage

section creation

variable {max : MaxCount} {osAccountId : Int} {d d₁ : Disk} {ctx : SubProfileContext}

structure Succeeding (a : CreateAnswer) : Prop where
  removeGarbageDir : ∀ id, a.removeGarbageDir id = .success
  purge : a.purge = .success
  persist : a.persist = .success
  save : a.save = .success

theorem length_erase_base (h : WellFormed max osAccountId ctx) :
    ((ctx.subProfileIdList.erase (base osAccountId)).length : Int) = ctx.subProfileIdList.length - 1 := by
  have hpos : 0 < ctx.subProfileIdList.length := List.length_pos_of_mem h.base_mem
  rw [List.length_erase_of_mem h.base_mem]
  omega

theorem exists_allocateOsAccountSubProfileId (h : WellFormed max osAccountId ctx) (hlimit : ¬isAtLimit max ctx)
    (hint : Int) : ∃ id, allocateOsAccountSubProfileId osAccountId hint ctx.subProfileIdList = .ok id := by
  have hlength := length_erase_base h
  have hmax := max.le_max
  have hfree : ∃ id, CyclicSearch.firstFree (fun id => id ∈ ctx.subProfileIdList)
      (base osAccountId + osAccountSubProfileIdMin)
          (base osAccountId + osAccountSubProfileIdMax) hint = some id := by
    apply CyclicSearch.exists_firstFree (l := ctx.subProfileIdList.erase (base osAccountId)) id
    · intro id hlo _ hid
      exact (List.mem_erase_of_ne (base_ne_of_range hlo)).2 (of_decide_eq_true hid)
    · exact fun _ _ _ _ he => he
    · unfold isAtLimit at hlimit
      unfold osAccountSubProfileIdMin osAccountSubProfileIdMax at *
      omega
  obtain ⟨id, hid⟩ := hfree
  unfold allocateOsAccountSubProfileId
  rw [hid]
  exact ⟨id, rfl⟩

theorem exists_allocateSubProfileIndex (h : WellFormed max osAccountId ctx) (hlimit : ¬isAtLimit max ctx)
    (hint : Int) : ∃ index, allocateSubProfileIndex max hint ctx.subProfileIndexMap = .ok index := by
  have hlength := length_erase_base h
  have hvalue : ∀ i : Int, i ∈ ctx.subProfileIndexMap →
      ctx.subProfileIndexMap[i]? = some (ctx.subProfileIndexMap[i]?.getD 0) := by
    intro i hi
    obtain ⟨id, hid⟩ := Option.isSome_iff_exists.1 (ExtTreeMap.mem_iff_isSome_getElem?.1 hi)
    rw [hid]
    rfl
  have hfree : ∃ index, CyclicSearch.firstFree (fun i => i ∈ ctx.subProfileIndexMap)
    (headlessSubProfileIndex + 1)
      max.val hint = some index := by
    apply CyclicSearch.exists_firstFree (l := ctx.subProfileIdList.erase (base osAccountId))
      fun i => ctx.subProfileIndexMap[i]?.getD 0
    · intro i hlo _ hi
      have hi := hvalue i (of_decide_eq_true hi)
      refine (List.mem_erase_of_ne fun he => ?_).2 ((h.values _).2 ⟨i, hi⟩)
      rw [he] at hi
      have hzero := h.injective i headlessSubProfileIndex _ hi h.headless
      omega
    · intro i j hi hj he
      have hi := hvalue i (of_decide_eq_true hi)
      have hj := hvalue j (of_decide_eq_true hj)
      rw [← he] at hj
      exact h.injective i j _ hi hj
    · unfold isAtLimit at hlimit
      unfold headlessSubProfileIndex
      omega
  obtain ⟨index, hindex⟩ := hfree
  unfold allocateSubProfileIndex
  rw [hindex]
  exact ⟨index, rfl⟩

theorem createSubProfile_of_contextToExtend {a : CreateAnswer} (ha : Succeeding a)
    (hextend : contextToExtend max a osAccountId d = (.ok ctx, d₁)) (hctx : WellFormed max osAccountId ctx)
    (hlimit : ¬isAtLimit max ctx) : ∃ info d', createSubProfile max a osAccountId d = (.ok info, d') := by
  obtain ⟨id, hid⟩ := exists_allocateOsAccountSubProfileId hctx hlimit ctx.nextSubProfileId
  obtain ⟨index, hindex⟩ := exists_allocateSubProfileIndex hctx hlimit ctx.nextSubProfileIndex
  unfold createSubProfile
  rw [hextend]
  dsimp only
  rw [hid]
  dsimp only
  unfold allocateAndPersistSubProfile
  rw [hindex, ha.persist, ha.save]
  exact ⟨_, _, rfl⟩

end creation

section limit

variable {max : MaxCount} {osAccountId : Int} {d : Disk}

variable (d osAccountId) in
def occupied : List Int :=
  (readSubProfileContext d osAccountId).subProfileIdList.filter fun id =>
    decide (id ≠ base osAccountId) && !(loadSubProfileInfo d osAccountId id).any fun info => info.toBeRemoved

theorem isSubProfileId_of_mem {ctx : SubProfileContext} (h : WellFormed max osAccountId ctx) {id : Int}
    (hid : id ∈ ctx.subProfileIdList) : isSubProfileId osAccountId id = true := by
  by_cases he : id = base osAccountId
  · rw [he, isSubProfileId, sub_self]
    decide
  · exact isSubProfileId_of_range (h.range id hid he)

theorem mem_occupied_iff (hinv : Inv max d) {id : Int} : id ∈ occupied osAccountId d ↔
    id ∈ (readSubProfileContext d osAccountId).subProfileIdList ∧ id ≠ base osAccountId ∧
      id ∉ garbageIds d osAccountId := by
  have hwf := wellFormed_readSubProfileContext hinv osAccountId
  unfold occupied loadSubProfileInfo
  rw [List.mem_filter, Bool.and_eq_true, decide_eq_true_iff, Bool.not_eq_true', ← Bool.not_eq_true,
    Option.any_eq_true]
  refine and_congr_right fun hid => and_congr_right fun _ => not_congr ?_
  rw [mem_garbageIds]
  constructor
  · rintro ⟨info, hinfo, hremoved⟩
    exact ⟨isSubProfileId_of_mem hwf hid, info, Option.join_eq_some_iff.1 hinfo, hremoved⟩
  · rintro ⟨_, info, hinfo, hremoved⟩
    exact ⟨info, Option.join_eq_some_iff.2 hinfo, hremoved⟩

theorem length_occupied (hinv : Inv max d) : ((occupied osAccountId d).length : Int) =
    ((garbageIds d osAccountId).foldl purgeGarbageIdFromAccountInfo
      (readSubProfileContext d osAccountId)).subProfileIdList.length - 1 := by
  have hwf := wellFormed_readSubProfileContext hinv osAccountId
  have hpurged : WellFormed max osAccountId ((garbageIds d osAccountId).foldl purgeGarbageIdFromAccountInfo
      (readSubProfileContext d osAccountId)) := hwf.purge_all (garbageIds_ne_base hinv)
  rw [← length_erase_base hpurged, Int.natCast_inj]
  refine List.Perm.length_eq ((List.perm_ext_iff_of_nodup (hwf.nodup.filter _)
    (hpurged.nodup.erase _)).2 fun id => ?_)
  rw [hpurged.nodup.mem_erase_iff, subProfileIdList_purge_all, hwf.nodup.mem_sdiff_iff]
  exact (mem_occupied_iff hinv).trans (by tauto)

theorem removeGarbageSubProfiles_succeeds {a : Int → DirAnswer} (ha : ∀ id, a id = .success) {ctx : SubProfileContext}
    (hctx : (d osAccountId).context = some ctx) :
    ∃ d', removeGarbageSubProfiles a .success osAccountId d = (.ok (garbageIds d osAccountId).length, d') ∧
      readSubProfileContext d' osAccountId = (garbageIds d osAccountId).foldl purgeGarbageIdFromAccountInfo ctx := by
  have hsuccess : ∀ id, isSuccess (a id) = true := fun id => by
    rw [ha]
    rfl
  have hcrash : ∀ id ∈ garbageIds d osAccountId, isCrash (a id) = false := fun id _ => by
    rw [ha]
    rfl
  obtain ⟨d₁, hd₁, hremoved⟩ :=
    removeSubProfileDirs_removes (nodup_garbageIds d osAccountId) (fun _ => mem_dirs_of_mem_garbageIds) hcrash
  rw [List.countP_eq_length.2 fun id _ => hsuccess id] at hd₁
  unfold removeGarbageSubProfiles
  split
  · rename_i hnil
    rw [hnil]
    exact ⟨d, rfl, readSubProfileContext_of_some hctx⟩
  rename_i hnil
  rw [hd₁]
  dsimp only
  rw [if_neg fun hzero => hnil (List.length_eq_zero_iff.1 hzero), purgeGarbageIdsFromContext,
    hremoved.context, hctx]
  exact ⟨_, rfl, readSubProfileContext_setContext _⟩

variable (max osAccountId d) in
def CanCreate : Prop :=
  ∀ a, Succeeding a → ∃ info d', createSubProfile max a osAccountId d = (.ok info, d')

theorem succeeding_succeeds : Succeeding succeeding := ⟨fun _ => rfl, rfl, rfl, rfl⟩

theorem canCreate_iff (hinv : Inv max d) :
    CanCreate max osAccountId d ↔ ((occupied osAccountId d).length : Int) < max.val := by
  have hwf := wellFormed_readSubProfileContext hinv osAccountId
  have hlength : ((occupied osAccountId d).length : Int) = _ := length_occupied hinv
  by_cases hlimit : isAtLimit max (readSubProfileContext d osAccountId)
  · cases hctx : (d osAccountId).context with
    | none =>
        unfold readSubProfileContext isAtLimit at hlimit
        rw [hctx] at hlimit
        have hone := max.one_le
        dsimp only [Option.getD_none, createWithHeadlessDefault, List.length_singleton] at hlimit
        omega
    | some ctx =>
    rw [readSubProfileContext_of_some hctx] at hlength
    have hextend : ∀ a, Succeeding a → ∃ d', readSubProfileContext d' osAccountId =
        (garbageIds d osAccountId).foldl purgeGarbageIdFromAccountInfo ctx ∧
        contextToExtend max a osAccountId d =
          if (garbageIds d osAccountId).length = 0 then (.error (.error .subProfileLimit), d')
          else if isAtLimit max (readSubProfileContext d' osAccountId) then
            (.error (.error .subProfileLimit), d')
          else (.ok (readSubProfileContext d' osAccountId), d') := by
      intro a ha
      obtain ⟨d', hd', hread⟩ := removeGarbageSubProfiles_succeeds ha.removeGarbageDir hctx
      refine ⟨d', hread, ?_⟩
      rw [contextToExtend, if_pos hlimit, tryReclaimSubProfileSlots, ha.purge, hd']
    have hnil : (garbageIds d osAccountId).length = 0 →
        ¬((occupied osAccountId d).length : Int) < max.val := by
      intro hzero
      rw [List.length_eq_zero_iff.1 hzero, List.foldl_nil] at hlength
      rw [readSubProfileContext_of_some hctx] at hlimit
      unfold isAtLimit at hlimit
      omega
    have hfull : ∀ d', readSubProfileContext d' osAccountId =
        (garbageIds d osAccountId).foldl purgeGarbageIdFromAccountInfo ctx →
        (isAtLimit max (readSubProfileContext d' osAccountId) ↔
          ¬((occupied osAccountId d).length : Int) < max.val) := by
      intro d' hread
      rw [hlength, hread]
      unfold isAtLimit
      omega
    constructor
    · intro h
      obtain ⟨info, d', hcreate⟩ := h succeeding succeeding_succeeds
      obtain ⟨ctx', d₁, hok, _⟩ := created_of_createSubProfile hcreate
      obtain ⟨d₂, hread, heq⟩ := hextend succeeding succeeding_succeeds
      rw [hok] at heq
      split at heq
      · cases heq
      split at heq
      · cases heq
      · rename_i hroom
        exact not_not.1 fun h => hroom ((hfull d₂ hread).2 h)
    · intro h a ha
      obtain ⟨d₂, hread, heq⟩ := hextend a ha
      have hroom : ¬isAtLimit max (readSubProfileContext d₂ osAccountId) := fun hl => (hfull d₂ hread).1 hl h
      rw [if_neg fun hzero => hnil hzero h, if_neg hroom] at heq
      have hkeeps := (keeps_contextToExtend osAccountId hinv a).1
      rw [heq] at hkeeps
      exact createSubProfile_of_contextToExtend ha heq
        (wellFormed_readSubProfileContext hkeeps.inv osAccountId) hroom
  · refine iff_of_true (fun a ha => ?_) ?_
    · exact createSubProfile_of_contextToExtend ha (if_neg hlimit) hwf hlimit
    · rw [subProfileIdList_purge_all, hwf.nodup.sdiff_eq_filter] at hlength
      have hle := List.length_filter_le (fun id => decide (id ∉ garbageIds d osAccountId))
        (readSubProfileContext d osAccountId).subProfileIdList
      unfold isAtLimit at hlimit
      omega

end limit

section runs

variable {max : MaxCount} {osAccountId : Int} {d d₁ d₂ : Disk}

def Used (d : Disk) : Prop :=
  ∀ a, ∀ id ∈ (readSubProfileContext d a).subProfileIdList, id ≠ base a →
    ∃ info, (d a).dirs[id]? = some (some info) ∧ info.isCreateCompleted = true

def leavesDir : DirAnswer → Bool
  | .success => false
  | .failure _ emptied => !emptied
  | .crash emptied => !emptied

def LeavesListed (osAccountId : Int) (d : Disk) (a : Int → DirAnswer) : Prop :=
  ∀ id, Pending osAccountId d id → id ∈ (readSubProfileContext d osAccountId).subProfileIdList →
    leavesDir (a id) = true

def CollectsWhole (osAccountId : Int) (d : Disk) (a : Int → DirAnswer) (purge : WriteAnswer) : Prop :=
  LeavesListed osAccountId d a ∨
    (∀ id, Pending osAccountId d id → isCrash (a id) = false) ∧
      (∃ id, Pending osAccountId d id ∧ isSuccess (a id) = true) ∧ purge = .success

def CreatesWhole (a : CreateAnswer) : Prop :=
  a.persist = .success → a.save = .success ∨
    (∃ e made, a.save = .failure e made) ∧ isCrash a.rollbackDir = false ∧ a.rollback = .success

variable (max) in
def KeepsSlots (d : Disk) : Event → Prop
  | .createSubProfile a osAccountId => (isAtLimit max (readSubProfileContext d osAccountId) →
      CollectsWhole osAccountId d a.removeGarbageDir a.purge) ∧ CreatesWhole a
  | .removeSubProfile a osAccountId subspaceId => a.save = .success →
      subspaceId ∈ (readSubProfileContext d osAccountId).subProfileIdList →
        leavesDir a.removeDir = true ∨ a.removeDir = .success ∧ a.update = .success
  | .removeGarbageSubProfiles a purge osAccountId => CollectsWhole osAccountId d a purge
  | .cleanupOrphanedSubProfiles a osAccountIds => ∀ osAccountId ∈ osAccountIds,
      LeavesListed osAccountId d (a.pending osAccountId)

theorem afterRemoval_of_leavesDir {a : DirAnswer} (ha : leavesDir a = true)
    (info : Option (Option OsAccountSubspaceInfo)) : afterRemoval a info = info := by
  cases info with
  | none => rfl
  | some info =>
      cases a with
      | success => cases ha
      | failure e emptied =>
          cases emptied with
          | true => cases ha
          | false => rfl
      | crash emptied =>
          cases emptied with
          | true => cases ha
          | false => rfl

variable {ids : List Int}

theorem Used.shrunk (h : Used d) {a : Int → DirAnswer} (hs : Shrunk a osAccountId ids d d₁)
    (hleaves : ∀ id ∈ ids, id ∈ (readSubProfileContext d osAccountId).subProfileIdList → id ≠ base osAccountId →
      leavesDir (a id) = true) : Used d₁ := by
  intro b id hid hne
  rw [readSubProfileContext_congr (hs.context b)] at hid
  obtain ⟨info, hinfo, hcompleted⟩ := h b id hid hne
  refine ⟨info, ?_, hcompleted⟩
  rcases hs.dirs b id with he | ⟨rfl, hmem, he⟩
  · rw [he, hinfo]
  · rw [he, afterRemoval_of_leavesDir (hleaves id hmem hid hne), hinfo]

theorem Used.setContext (h : Used d) {ctx : SubProfileContext}
    (hctx : ∀ id ∈ ctx.subProfileIdList, id ≠ base osAccountId →
      ∃ info, (d osAccountId).dirs[id]? = some (some info) ∧ info.isCreateCompleted = true) :
    Used (d.setContext osAccountId ctx) := by
  intro b id hid hne
  rw [dirs_setContext]
  unfold readSubProfileContext at hid
  rw [context_setContext] at hid
  split at hid
  · rename_i hb
    subst hb
    exact hctx id hid hne
  · exact h b id hid hne

theorem used_removeGarbageSubProfiles (hinv : Inv max d) (h : Used d) {a : Int → DirAnswer} {purge : WriteAnswer}
    (hwhole : CollectsWhole osAccountId d a purge) :
    Used (removeGarbageSubProfiles a purge osAccountId d).2 := by
  rcases hwhole with hleaves | ⟨hcrash, ⟨g, hg, hsuccess⟩, hpurge⟩
  · -- What is listed keeps its directory, whatever the purge does.
    have hused : Used (removeSubProfileDirs a osAccountId (garbageIds d osAccountId) d).2 :=
      h.shrunk (shrunk_removeSubProfileDirs a osAccountId
        (garbageIds d osAccountId) d) fun id hid hlisted _ =>
        hleaves id (mem_garbageIds_iff_pending.1 hid) hlisted
    unfold removeGarbageSubProfiles
    split
    · exact h
    split <;> rename_i hr <;> rw [hr] at hused
    · exact hused
    split
    · exact hused
    rename_i d₁ _
    have hpurged : Used (purgeGarbageIdsFromContext purge osAccountId (garbageIds d osAccountId) d₁).2 := by
      unfold purgeGarbageIdsFromContext
      split
      · exact hused
      rename_i ctx hctx
      rw [ignoreError_snd]
      cases purge with
      | failure e => exact hused
      | crash => exact hused
      | success =>
          refine hused.setContext fun id hid hne => hused osAccountId id ?_ hne
          rw [subProfileIdList_purge_all] at hid
          rw [readSubProfileContext_of_some hctx]
          exact (List.diff_sublist _ _).subset hid
    split <;> rename_i hr' <;> rw [hr'] at hpurged <;> exact hpurged
  · -- What is left in the context has not been attempted.
    obtain ⟨d₁, hremoved, heq⟩ :=
      removeGarbageSubProfiles_removes purge fun id hid => hcrash id (mem_garbageIds_iff_pending.1 hid)
    rw [heq, if_pos ⟨g, mem_garbageIds_iff_pending.2 hg, hsuccess⟩]
    intro b id hid hne
    rw [dirs_purgeGarbageIdsFromContext, hremoved.dirs]
    unfold readSubProfileContext at hid
    rw [context_purgeGarbageIdsFromContext, hremoved.context] at hid
    by_cases hb : b = osAccountId
    · subst hb
      rw [if_pos ⟨rfl, hpurge⟩] at hid
      cases hctx : (d b).context with
      | none =>
          rw [hctx] at hid
          exact (hne (List.mem_singleton.1 hid)).elim
      | some ctx =>
          rw [hctx, Option.map_some, Option.getD_some, subProfileIdList_purge_all,
            (hinv.contexts b ctx hctx).nodup.mem_sdiff_iff] at hid
          rw [if_neg fun hmem => hid.2 hmem.2]
          refine h b id ?_ hne
          rw [readSubProfileContext_of_some hctx]
          exact hid.1
    · rw [if_neg fun he => hb he.1] at hid ⊢
      exact h b id hid hne

variable {a : CreateAnswer}

theorem used_contextToExtend (hinv : Inv max d) (h : Used d)
    (hwhole : isAtLimit max (readSubProfileContext d osAccountId) →
      CollectsWhole osAccountId d a.removeGarbageDir a.purge) : Used (contextToExtend max a osAccountId d).2 := by
  rw [contextToExtend_snd]
  split
  · rename_i hlimit
    exact used_removeGarbageSubProfiles hinv h (hwhole hlimit)
  · exact h

theorem Used.congr (h : Used d) (hread : ∀ b, readSubProfileContext d₁ b = readSubProfileContext d b)
    (hdirs : ∀ b, ∀ id ∈ (readSubProfileContext d b).subProfileIdList, id ≠ base b →
      (d₁ b).dirs[id]? = (d b).dirs[id]?) : Used d₁ := by
  intro b id hid hne
  rw [hread] at hid
  rw [hdirs b id hid hne]
  exact h b id hid hne

theorem context_makeDir (made : Bool) (info : OsAccountSubspaceInfo) (b : Int) :
    (makeDir made info d b).context = (d b).context := by
  unfold makeDir
  split
  · exact context_setDir d info.userId b info.subspaceId none
  · rfl

theorem dirs_makeDir_of_ne (made : Bool) {info : OsAccountSubspaceInfo} {b t : Int}
    (hne : ¬(b = info.userId ∧ t = info.subspaceId)) : (makeDir made info d b).dirs[t]? = (d b).dirs[t]? := by
  unfold makeDir
  split
  · rw [dirs_setDir, if_neg hne]
  · rfl

theorem rollbackSubProfileCreation_snd {ctx : SubProfileContext} {id index : Int}
    (hdir : isCrash a.rollbackDir = false) (hrollback : a.rollback = .success)
    (hfree : index ∉ ctx.subProfileIndexMap) : (rollbackSubProfileCreation a osAccountId id index ctx d).2 =
      (removeSubProfileDir a.rollbackDir osAccountId id d).2.setContext osAccountId ctx := by
  unfold rollbackSubProfileCreation
  rw [hrollback, rollback_eq hfree]
  have hnot : (removeSubProfileDir a.rollbackDir osAccountId id d).1 ≠ .error .crash := by
    unfold removeSubProfileDir
    split
    · nofun
    · cases hanswer : a.rollbackDir with
      | success => nofun
      | failure e emptied => nofun
      | crash emptied =>
          rw [hanswer] at hdir
          cases hdir
  cases hr : removeSubProfileDir a.rollbackDir osAccountId id d with
  | mk r d' =>
  rw [hr] at hnot
  cases r with
  | ok u => rfl
  | error stop =>
      cases stop with
      | error e => rfl
      | crash => exact (hnot rfl).elim

variable {id : Int}

theorem used_allocateAndPersistSubProfile (h : Used d) (hwhole : CreatesWhole a)
    (hnew : id ∉ (readSubProfileContext d osAccountId).subProfileIdList) :
    Used (allocateAndPersistSubProfile max a osAccountId (readSubProfileContext d osAccountId) id d).2 := by
  unfold allocateAndPersistSubProfile
  split
  · exact h
  rename_i index hindex
  obtain ⟨_, hfree⟩ := allocateSubProfileIndex_eq_ok hindex
  unfold updateOsAccountSubspaceInfo
  cases hpersist : a.persist with
  | failure e => exact h
  | crash => exact h
  | success =>
  unfold saveSubProfileInfo
  rcases hwhole hpersist with hsave | ⟨⟨e, made, hsave⟩, hdir, hrollback⟩
  · rw [hsave]
    intro b v hv hne
    dsimp only at hv ⊢
    rw [readSubProfileContext_congr (context_setDir _ _ b _ _)] at hv
    rw [dirs_setDir, dirs_setContext]
    by_cases he : b = osAccountId ∧ v = id
    · exact ⟨createdInfo osAccountId id index a.createTime, if_pos he, rfl⟩
    · suffices hv : v ∈ (readSubProfileContext d b).subProfileIdList by
        obtain ⟨info, hinfo, hcompleted⟩ := h b v hv hne
        exact ⟨info, (if_neg he).trans hinfo, hcompleted⟩
      by_cases hb : b = osAccountId
      · subst hb
        rw [readSubProfileContext_setContext] at hv
        rcases List.mem_append.1 hv with hv | hv
        · exact hv
        · exact (he ⟨rfl, List.mem_singleton.1 hv⟩).elim
      · rwa [readSubProfileContext_congr ((context_setContext d osAccountId b _).trans (if_neg hb))] at hv
  · rw [hsave]
    dsimp only
    suffices hused : Used (rollbackSubProfileCreation a osAccountId id index
      (readSubProfileContext d osAccountId)
        (makeDir made (createdInfo osAccountId id index a.createTime)
          (d.setContext osAccountId ((readSubProfileContext d osAccountId).extend id index)))).2 by
      split <;> rename_i hr <;> rw [hr] at hused <;> exact hused
    rw [rollbackSubProfileCreation_snd hdir hrollback hfree]
    refine h.congr (fun b => ?_) fun b v hv hne => ?_
    · by_cases hb : b = osAccountId
      · subst hb
        exact readSubProfileContext_setContext _
      · refine readSubProfileContext_congr ?_
        rw [context_setContext, if_neg hb, context_removeSubProfileDir, context_makeDir,
          context_setContext, if_neg hb]
    · have he : ¬(b = osAccountId ∧ v = id) := by
        rintro ⟨rfl, rfl⟩
        exact hnew hv
      rw [dirs_setContext, dirs_removeSubProfileDir, if_neg he, dirs_makeDir_of_ne made he, dirs_setContext]

theorem used_createSubProfile (hinv : Inv max d) (h : Used d)
    (hcollect : isAtLimit max (readSubProfileContext d osAccountId) →
      CollectsWhole osAccountId d a.removeGarbageDir a.purge)
    (hwhole : CreatesWhole a) : Used (createSubProfile max a osAccountId d).2 := by
  refine createSubProfile_rule hinv (used_contextToExtend hinv h hcollect) fun d' id hused _ hnew => ?_
  exact used_allocateAndPersistSubProfile hused hwhole hnew

theorem Used.setDir (h : Used d) {info : OsAccountSubspaceInfo} (hcompleted : info.isCreateCompleted = true) :
    Used (d.setDir osAccountId id (some info)) := by
  intro b v hv hne
  rw [readSubProfileContext_congr (context_setDir d osAccountId b id (some info))] at hv
  rw [dirs_setDir]
  by_cases he : b = osAccountId ∧ v = id
  · exact ⟨info, if_pos he, hcompleted⟩
  · rw [if_neg he]
    exact h b v hv hne

theorem used_updateContextAfterRemove (h : Used d) (a : WriteAnswer) (id : Int) :
    Used (updateContextAfterRemove a osAccountId id d).2 := by
  unfold updateContextAfterRemove
  split
  · exact h
  split
  · exact h
  rename_i ctx hctx _
  rw [ignoreError_snd]
  cases a with
  | failure e => exact h
  | crash => exact h
  | success =>
      refine h.setContext fun v hv hne => h osAccountId v ?_ hne
      rw [readSubProfileContext_of_some hctx]
      exact List.mem_of_mem_erase hv

theorem used_updateContextAfterRemove_eraseDir (hinv : Inv max d) (h : Used d) :
    Used (updateContextAfterRemove .success osAccountId id (d.eraseDir osAccountId id)).2 := by
  have hothers : ∀ b v, v ∈ (readSubProfileContext d b).subProfileIdList → v ≠ base b →
      ¬(b = osAccountId ∧ v = id) → ∃ info, (d.eraseDir osAccountId id b).dirs[v]? = some (some info) ∧
        info.isCreateCompleted = true := by
    intro b v hv hne he
    rw [dirs_eraseDir, if_neg he]
    exact h b v hv hne
  have hread : ∀ b, readSubProfileContext (d.eraseDir osAccountId id) b = readSubProfileContext d b :=
    fun b => readSubProfileContext_congr (context_eraseDir d osAccountId b id)
  unfold updateContextAfterRemove
  rw [context_eraseDir]
  cases hctx : (d osAccountId).context with
  | none =>
      intro b v hv hne
      dsimp only at hv ⊢
      rw [hread] at hv
      refine hothers b v hv hne ?_
      rintro ⟨rfl, _⟩
      unfold readSubProfileContext at hv
      rw [hctx] at hv
      exact hne (List.mem_singleton.1 hv)
  | some ctx =>
  dsimp only
  by_cases hmem : id ∈ ctx.subProfileIdList
  · rw [if_neg (not_not.2 hmem), ignoreError_snd]
    intro b v hv hne
    dsimp only [updateOsAccountSubspaceInfo] at hv ⊢
    rw [dirs_setContext]
    by_cases hb : b = osAccountId
    · subst hb
      rw [readSubProfileContext_setContext] at hv
      obtain ⟨hne', hv⟩ := (hinv.contexts b ctx hctx).nodup.mem_erase_iff.1 hv
      refine hothers b v ?_ hne fun he => hne' he.2
      rwa [readSubProfileContext_of_some hctx]
    · rw [readSubProfileContext_congr ((context_setContext _ osAccountId b _).trans (if_neg hb)), hread] at hv
      exact hothers b v hv hne fun he => hb he.1
  · rw [if_pos hmem]
    intro b v hv hne
    rw [hread] at hv
    refine hothers b v hv hne ?_
    rintro ⟨rfl, rfl⟩
    rw [readSubProfileContext_of_some hctx] at hv
    exact hmem hv

theorem used_removeSubProfileDir_updateContextAfterRemove (hinv : Inv max d) (h : Used d) {removeDir : DirAnswer}
    {update : WriteAnswer} (hmem : id ∈ (d osAccountId).dirs)
    (hkeeps : id ∈ (readSubProfileContext d osAccountId).subProfileIdList →
      leavesDir removeDir = true ∨ removeDir = .success ∧ update = .success) :
    Used (match removeSubProfileDir removeDir osAccountId id d with
      | (Except.error e, d) => (Except.error e, d)
      | (Except.ok (), d) => updateContextAfterRemove update osAccountId id d).2 := by
  have hleaves : (id ∈ (readSubProfileContext d osAccountId).subProfileIdList → leavesDir removeDir = true) →
      Used (removeSubProfileDir removeDir osAccountId id d).2 := by
    intro hleaves
    refine h.shrunk (shrunk_removeSubProfileDir
      (fun _ => removeDir) osAccountId id d) fun v hv hlisted _ => hleaves ?_
    rwa [List.mem_singleton.1 hv] at hlisted
  rw [removeSubProfileDir_of_mem removeDir hmem] at hleaves ⊢
  cases removeDir with
  | success =>
      by_cases hlisted : id ∈ (readSubProfileContext d osAccountId).subProfileIdList
      · rcases hkeeps hlisted with hdir | ⟨_, rfl⟩
        · cases hdir
        · exact used_updateContextAfterRemove_eraseDir hinv h
      · exact used_updateContextAfterRemove (hleaves fun hl => (hlisted hl).elim) update id
  | failure e emptied => exact hleaves fun hl => (hkeeps hl).elim (fun hdir => hdir) fun he => nomatch he.1
  | crash emptied => exact hleaves fun hl => (hkeeps hl).elim (fun hdir => hdir) fun he => nomatch he.1

theorem used_removeSubProfile (hinv : Inv max d) (h : Used d) {a : RemoveAnswer}
    (hkeeps : a.save = .success → id ∈ (readSubProfileContext d osAccountId).subProfileIdList →
      leavesDir a.removeDir = true ∨ a.removeDir = .success ∧ a.update = .success) :
    Used (removeSubProfile a osAccountId id d).2 := by
  obtain ⟨e, hrefused⟩ | ⟨info, hne, hinfo, hu, hs, hcompleted, hfound⟩ := removeSubProfile_cases hinv a id
  · rw [hrefused]
    exact h
  rw [hfound, removeRecord]
  subst hu hs
  have hmake : ∀ made, makeDir made { info with toBeRemoved := true } d = d :=
    fun made => makeDir_of_getElem? made hinfo
  cases hsave : a.save with
  | failure e made =>
      dsimp only [saveSubProfileInfo]
      rwa [hmake]
  | crash made =>
      dsimp only [saveSubProfileInfo]
      rwa [hmake]
  | success =>
      have hused : Used (d.setDir info.userId info.subspaceId (some { info with toBeRemoved := true })) :=
        h.setDir hcompleted
      have hwrite : Keeps max info.userId d
          (d.setDir info.userId info.subspaceId (some { info with toBeRemoved := true })) := by
        refine keeps_setDir hinv hne fun i hi => ?_
        cases hi
        exact ⟨rfl, rfl⟩
      refine used_removeSubProfileDir_updateContextAfterRemove hwrite.inv hused ?_ ?_
      · rw [ExtTreeMap.mem_iff_isSome_getElem?, dirs_setDir, if_pos ⟨rfl, rfl⟩]
        rfl
      · rw [readSubProfileContext_congr (context_setDir d _ _ _ _)]
        exact hkeeps hsave

theorem pending_of_shrunk {a : Int → DirAnswer} {b : Int} (hs : Shrunk a b ids d d₁)
    (h : Pending osAccountId d₁ id) : Pending osAccountId d id := by
  obtain ⟨hid, info, hinfo, hremoved⟩ := h
  refine ⟨hid, info, ?_, hremoved⟩
  rcases hs.dirs osAccountId id with he | ⟨_, _, he⟩
  · rwa [he] at hinfo
  · rw [he] at hinfo
    exact eq_of_afterRemoval_eq hinfo

theorem LeavesListed.shrunk {a a' : Int → DirAnswer} {b : Int} (hs : Shrunk a b ids d d₁)
    (h : LeavesListed osAccountId d a') : LeavesListed osAccountId d₁ a' := by
  intro id hpending hid
  rw [readSubProfileContext_congr (hs.context osAccountId)] at hid
  exact h id (pending_of_shrunk hs hpending) hid

theorem used_cleanupOrphanedSubProfiles (h : Used d) {a : CleanupAnswer} {osAccountIds : List Int}
    (hleaves : ∀ id ∈ osAccountIds, LeavesListed id d (a.pending id)) :
    Used (cleanupOrphanedSubProfiles a osAccountIds d).2 := by
  induction osAccountIds generalizing d with
  | nil => exact h
  | cons id osAccountIds ih =>
      have hshrunk := shrunk_removeSubProfileDirs (a.orphan id) id (scanOrphanedSubProfileIds d id []) d
      have horphan : Used (removeSubProfileDirs (a.orphan id) id
          (scanOrphanedSubProfileIds d id []) d).2 := by
        refine h.shrunk hshrunk fun v hv hlisted hne => ?_
        obtain ⟨_, info, hinfo, horphaned⟩ := mem_scanSubProfileIds.1 hv
        obtain ⟨info', hinfo', hcompleted⟩ := h id v hlisted hne
        rw [hinfo] at hinfo'
        cases hinfo'
        rw [hcompleted] at horphaned
        cases horphaned
      unfold cleanupOrphanedSubProfiles
      split <;> rename_i hr <;> rw [hr] at horphan hshrunk
      · exact horphan
      rename_i d₁
      have hshrunk' := shrunk_removeSubProfileDirs (a.pending id) id
        (scanPendingRemovalSubProfileIds d₁ id []) d₁
      have hpending : Used (removeSubProfileDirs (a.pending id) id
          (scanPendingRemovalSubProfileIds d₁ id []) d₁).2 :=
        horphan.shrunk hshrunk' fun v hv hlisted _ =>
          (hleaves id List.mem_cons_self).shrunk hshrunk v (mem_scanSubProfileIds.1 hv) hlisted
      split <;> rename_i hr' <;> rw [hr'] at hpending hshrunk'
      · exact hpending
      · exact ih hpending fun b hb =>
          ((hleaves b (List.mem_cons_of_mem id hb)).shrunk hshrunk).shrunk hshrunk'

theorem used_step (hinv : Inv max d) (h : Used d) (e : Event) (he : KeepsSlots max d e) : Used (step max d e) := by
  cases e with
  | createSubProfile a osAccountId => exact used_createSubProfile hinv h he.1 he.2
  | removeSubProfile a osAccountId subspaceId => exact used_removeSubProfile hinv h he
  | removeGarbageSubProfiles a purge osAccountId => exact used_removeGarbageSubProfiles hinv h he
  | cleanupOrphanedSubProfiles a osAccountIds => exact used_cleanupOrphanedSubProfiles h he

theorem used_nothing : Used nothing :=
  fun _ _ hid hne => (hne (List.mem_singleton.1 hid)).elim

theorem used_reached {es : List Event} (hes : Machine.Meets (step max) (KeepsSlots max) nothing es) :
    Used (reached max es) := by
  have hstep : ∀ d e, (Inv max d ∧ Used d) → KeepsSlots max d e → Inv max (step max d e) ∧
      Used (step max d e) :=
    fun d e h he => ⟨(keeps_step h.1 e).1, used_step h.1 h.2 e he⟩
  exact (Machine.run_invariant_of_meets hstep ⟨inv_nothing max, used_nothing⟩ hes).2

variable (osAccountId d) in
def validSubProfiles : List Int :=
  (scanOsAccountSubProfileIds d osAccountId []).filter fun id => id ≠ base osAccountId

theorem length_occupied_le (hinv : Inv max d) (h : Used d) :
    (occupied osAccountId d).length ≤ (validSubProfiles osAccountId d).length := by
  have hwf := wellFormed_readSubProfileContext hinv osAccountId
  refine ((hwf.nodup.filter _).subperm fun id hid => ?_).length_le
  obtain ⟨hlisted, hne, hgarbage⟩ := (mem_occupied_iff hinv).1 hid
  obtain ⟨info, hinfo, hcompleted⟩ := h osAccountId id hlisted hne
  have hid := isSubProfileId_of_mem hwf hlisted
  refine List.mem_filter.2 ⟨mem_scanSubProfileIds.2 ⟨hid, info, hinfo, ?_⟩, decide_eq_true hne⟩
  rw [hcompleted, Bool.true_and, Bool.not_eq_true', Bool.eq_false_iff]
  exact fun hremoved => hgarbage (mem_garbageIds.2 ⟨hid, info, hinfo, hremoved⟩)

variable (max osAccountId d) in
def SlotsUsable : Prop :=
  ((validSubProfiles osAccountId d).length : Int) < max.val → CanCreate max osAccountId d

/-- When a slot is usable in a state, and in which runs slots stay usable. -/
theorem slots_usable (max : MaxCount) :
    (∀ es osAccountId, SlotsUsable max osAccountId (reached max es) ↔
      (((validSubProfiles osAccountId (reached max es)).length : Int) < max.val →
        ((occupied osAccountId (reached max es)).length : Int) < max.val)) ∧
    (∀ es, Machine.Meets (step max) (KeepsSlots max) nothing es →
      ∀ osAccountId, SlotsUsable max osAccountId (reached max es)) := by
  refine ⟨fun es osAccountId => forall_congr' fun _ => canCreate_iff (inv_reached max es),
    fun es hes osAccountId => ?_⟩
  intro hvalid
  have hle : (occupied osAccountId (reached max es)).length ≤ _ :=
    length_occupied_le (inv_reached max es) (used_reached hes)
  exact (canCreate_iff (inv_reached max es)).2 (by omega)

end runs

section leak

def one : MaxCount := ⟨1, by decide, by decide⟩

/-- A sub-profile is created, its removal is cut off by a crash once the record says
so, and the service starts again. -/
def cutOff : List Event :=
  [.createSubProfile succeeding 100,
    .removeSubProfile { foregroundSubProfileId := some 100000, deleteSubProfileCred := .ok (), save := .success
                        removeDir := .crash false, update := .success } 100 100001,
    .cleanupOrphanedSubProfiles { orphan := fun _ _ => .success, pending := fun _ _ => .success } [100]]

/-- The start-up removes the directory but not the id, and no creation succeeds any more. -/
theorem slot_leaks : ¬SlotsUsable one 100 (reached one cutOff) := by
  intro h
  obtain ⟨info, d', hcreate⟩ := h (by decide +kernel) succeeding succeeding_succeeds
  have hnone : (createSubProfile one succeeding 100 (reached one cutOff)).1.toOption = none :=
    by decide +kernel
  rw [hcreate] at hnone
  cases hnone

end leak

end OsAccount.SubProfileSlots
