import OsAccount.SubProfileAccounts

namespace OsAccount.SubProfileRecords

open Function Std SubProfiles SubProfileContexts SubProfileGarbage SubProfileAccounts
open DistributedAccount (OhosAccountInfo OhosAccountState AccountInfo Request ohosAccountUdidLength
  generateOhosUdidWithSha256 checkSameDistributedAccount updateOhosAccountInfo buildJsonFileFromScratch)

section disk

variable {max : MaxCount} {osAccountId : Int} {d : Disk}

/-- The contexts are right, the id of every directory is taken, and every record that
can be loaded is that of a valid sub-profile. -/
structure Sound (max : MaxCount) (d : Disk) : Prop where
  inv : Inv max d
  listed : Listed d
  valid : ∀ a id info, loadSubProfileInfo d a id = some info →
    isSubProfileId a id = true ∧ info.isCreateCompleted = true ∧ info.toBeRemoved = false

theorem load_eq_some_iff {a id : Int} {info : OsAccountSubspaceInfo} :
    loadSubProfileInfo d a id = some info ↔ (d a).dirs[id]? = some (some info) := Option.join_eq_some_iff

@[simp]
theorem load_setContext (ctx : SubProfileContext) (b j : Int) :
    loadSubProfileInfo (d.setContext osAccountId ctx) b j = loadSubProfileInfo d b j := by
  rw [loadSubProfileInfo, dirs_setContext, loadSubProfileInfo]

@[simp]
theorem load_setDir (id : Int) (info : Option OsAccountSubspaceInfo) (b j : Int) :
    loadSubProfileInfo (d.setDir osAccountId id info) b j =
      if b = osAccountId ∧ j = id then info else loadSubProfileInfo d b j := by
  rw [loadSubProfileInfo, dirs_setDir]
  split
  · rfl
  · rfl

@[simp]
theorem load_eraseDir (id b j : Int) :
    loadSubProfileInfo (d.eraseDir osAccountId id) b j =
      if b = osAccountId ∧ j = id then none else loadSubProfileInfo d b j := by
  rw [loadSubProfileInfo, dirs_eraseDir]
  split
  · rfl
  · rfl

theorem load_updateOsAccountSubspaceInfo (a : WriteAnswer) (osAccountId : Int) (ctx : SubProfileContext) (d : Disk)
    (b j : Int) :
    loadSubProfileInfo (updateOsAccountSubspaceInfo a osAccountId ctx d).2 b j = loadSubProfileInfo d b j := by
  cases a with
  | success => exact load_setContext ctx b j
  | failure e => rfl
  | crash => rfl

theorem load_removeSubProfileDir {id : Int} (hid : loadSubProfileInfo d osAccountId id = none) (b j : Int) :
    loadSubProfileInfo (removeSubProfileDir .success osAccountId id d).2 b j = loadSubProfileInfo d b j := by
  unfold removeSubProfileDir
  split
  · rfl
  · rw [load_eraseDir]
    split
    · rename_i he
      rw [he.1, he.2, hid]
    · rfl

theorem load_makeDir (made : Bool) (info : OsAccountSubspaceInfo)
    (hid : loadSubProfileInfo d info.userId info.subspaceId = none) (b j : Int) :
    loadSubProfileInfo (makeDir made info d) b j = loadSubProfileInfo d b j := by
  unfold makeDir
  split
  · rw [load_setDir]
    split
    · rename_i he
      rw [he.1, he.2, hid]
    · rfl
  · rfl

theorem load_rollbackSubProfileCreation {a : CreateAnswer} (ha : a.rollbackDir = .success) {id : Int} (index : Int)
    (ctx : SubProfileContext) (hid : loadSubProfileInfo d osAccountId id = none) (b j : Int) :
    loadSubProfileInfo (rollbackSubProfileCreation a osAccountId id index ctx d).2 b j = loadSubProfileInfo d b j := by
  have hremove : loadSubProfileInfo (ignoreError (removeSubProfileDir .success osAccountId id d)).2 b j =
      loadSubProfileInfo d b j := by
    rw [ignoreError_snd]
    exact load_removeSubProfileDir hid b j
  unfold rollbackSubProfileCreation
  rw [ha]
  split <;> rename_i hr <;> rw [hr] at hremove
  · exact hremove
  · rw [ignoreError_snd, load_updateOsAccountSubspaceInfo]
    exact hremove

theorem garbageIds_eq_nil (h : Sound max d) : garbageIds d osAccountId = [] := by
  rw [List.eq_nil_iff_forall_not_mem]
  intro id hid
  obtain ⟨-, info, hinfo, hremoved⟩ := mem_garbageIds.1 hid
  rw [(h.valid _ _ _ (load_eq_some_iff.2 hinfo)).2.2] at hremoved
  cases hremoved

theorem contextToExtend_of_sound (h : Sound max d) (a : CreateAnswer) (osAccountId : Int) :
    (contextToExtend max a osAccountId d).2 = d := by
  rw [contextToExtend_snd]
  split
  · rw [removeGarbageSubProfiles_of_nil (garbageIds_eq_nil h)]
  · rfl

theorem load_eq_none_of_not_mem {id : Int} (h : id ∉ (d osAccountId).dirs) :
    loadSubProfileInfo d osAccountId id = none := by
  rw [loadSubProfileInfo, not_mem_dirs_iff.1 h]
  rfl

def CreateEffect (osAccountId : Int) (d : Disk) : Done OsAccountSubspaceInfo × Disk → Prop
  | (.error _, d') => ∀ b j, loadSubProfileInfo d' b j = loadSubProfileInfo d b j
  | (.ok info, d') =>
      ((base osAccountId + osAccountSubProfileIdMin ≤ info.subspaceId ∧
        info.subspaceId ≤ base osAccountId + osAccountSubProfileIdMax) ∧
        info.isCreateCompleted = true ∧ info.toBeRemoved = false) ∧
      loadSubProfileInfo d osAccountId info.subspaceId = none ∧
        ∀ b j, loadSubProfileInfo d' b j =
          if b = osAccountId ∧ j = info.subspaceId then some info else loadSubProfileInfo d b j

theorem createEffect_allocateAndPersist (a : CreateSaves) {id : Int}
    (hrange : base osAccountId + osAccountSubProfileIdMin ≤ id ∧ id ≤ base osAccountId + osAccountSubProfileIdMax)
    (hid : loadSubProfileInfo d osAccountId id = none) (ctx : SubProfileContext) :
    CreateEffect osAccountId d (allocateAndPersistSubProfile max a.answer osAccountId ctx id d) := by
  unfold allocateAndPersistSubProfile
  split
  · exact fun _ _ => rfl
  rename_i index _
  have hpersist := load_updateOsAccountSubspaceInfo a.answer.persist osAccountId (ctx.extend id index) d
  split <;> rename_i hr <;> rw [hr] at hpersist
  · exact hpersist
  rename_i d₁
  have hid₁ : loadSubProfileInfo d₁ osAccountId id = none := (hpersist _ _).trans hid
  cases hsave : a.save with
  | ok u =>
      have hanswer : a.answer.save = .success := by simp [CreateSaves.answer, saveAnswer, hsave]
      rw [hanswer]
      refine ⟨⟨hrange, rfl, rfl⟩, hid, fun b j => ?_⟩
      rw [load_setDir, hpersist]
      rfl
  | error e =>
      have hanswer : a.answer.save = .failure e a.made := by simp [CreateSaves.answer, saveAnswer, hsave]
      have hmake := load_makeDir a.made (createdInfo osAccountId id index a.answer.createTime) hid₁
      rw [hanswer]
      simp only [saveSubProfileInfo]
      have hrollback := load_rollbackSubProfileCreation (a := a.answer) rfl index ctx
        ((hmake osAccountId id).trans hid₁)
      split <;> rename_i hr' <;> rw [hr'] at hrollback
      · exact fun b j => ((hrollback b j).trans (hmake b j)).trans (hpersist b j)
      · exact fun b j => ((hrollback b j).trans (hmake b j)).trans (hpersist b j)

theorem createEffect (h : Sound max d) (a : CreateSaves) (osAccountId : Int) :
    CreateEffect osAccountId d (createSubProfile max a.answer osAccountId d) := by
  have hread := (keeps_contextToExtend osAccountId h.inv a.answer).2
  unfold createSubProfile
  cases hextend : contextToExtend max a.answer osAccountId d with
  | mk r d₁ =>
  have hsame := contextToExtend_of_sound h a.answer osAccountId
  rw [hextend] at hsame hread
  obtain rfl : d₁ = d := hsame
  cases r with
  | error e => exact fun _ _ => rfl
  | ok ctx =>
      dsimp only
      split
      · exact fun _ _ => rfl
      rename_i id hid
      obtain ⟨hrange, hnew⟩ := allocateOsAccountSubProfileId_eq_ok hid
      rw [hread ctx rfl] at hnew
      refine createEffect_allocateAndPersist a hrange (load_eq_none_of_not_mem fun hmem => ?_) ctx
      exact hnew (h.listed osAccountId id (isSubProfileId_of_range hrange) hmem)

theorem sound_create (h : Sound max d) (a : CreateSaves) (osAccountId : Int) :
    Sound max (createSubProfile max a.answer osAccountId d).2 := by
  have heffect := createEffect h a osAccountId
  refine ⟨(keeps_createSubProfile h.inv a.answer).inv, listed_createSubProfile h.inv h.listed
    (fun _ _ _ _ _ _ _ _ => rfl) fun _ _ ⟨_, _, hrollback⟩ => ?_, fun b id info hload => ?_⟩
  · cases hrollback
  · cases hcreate : createSubProfile max a.answer osAccountId d with
    | mk r d' =>
    rw [hcreate] at heffect hload
    cases r with
    | error e => exact h.valid b id info ((heffect b id).symm.trans hload)
    | ok created =>
        obtain ⟨⟨hrange, hvalid⟩, -, hloads⟩ := heffect
        rw [hloads] at hload
        split at hload
        · rename_i he
          cases hload
          rw [he.1, he.2]
          exact ⟨isSubProfileId_of_range hrange, hvalid⟩
        · exact h.valid b id info hload

def RemoveEffect (osAccountId id : Int) (d : Disk) : Done Unit × Disk → Prop
  | (.error _, d') => ∀ b j, loadSubProfileInfo d' b j = loadSubProfileInfo d b j
  | (.ok (), d') =>
      ∀ b j, loadSubProfileInfo d' b j = if b = osAccountId ∧ j = id then none else loadSubProfileInfo d b j

theorem load_updateContextAfterRemove (a : WriteAnswer) (osAccountId id : Int) (d : Disk) (b j : Int) :
    loadSubProfileInfo (updateContextAfterRemove a osAccountId id d).2 b j = loadSubProfileInfo d b j := by
  unfold updateContextAfterRemove
  split
  · rfl
  split
  · rfl
  · rw [ignoreError_snd, load_updateOsAccountSubspaceInfo]

theorem updateContextAfterRemove_ok (r : Ret) (osAccountId id : Int) (d : Disk) :
    ∃ d', updateContextAfterRemove (writeAnswer r) osAccountId id d = (.ok (), d') := by
  unfold updateContextAfterRemove
  split
  · exact ⟨_, rfl⟩
  split
  · exact ⟨_, rfl⟩
  · cases r with
    | ok u => exact ⟨_, rfl⟩
    | error e => exact ⟨_, rfl⟩

/-- The removal of the directory of a record that is marked, and the context after that. -/
theorem load_removeMarked (update : Ret) (osAccountId id : Int) (info : OsAccountSubspaceInfo) (d : Disk) :
    ∃ d₁ d₂, removeSubProfileDir .success osAccountId id (d.setDir osAccountId id (some info)) = (.ok (), d₁) ∧
      updateContextAfterRemove (writeAnswer update) osAccountId id d₁ = (.ok (), d₂) ∧
      ∀ b j, loadSubProfileInfo d₂ b j = if b = osAccountId ∧ j = id then none else loadSubProfileInfo d b j := by
  have hthere : ¬id ∉ (d.setDir osAccountId id (some info) osAccountId).dirs := by
    rw [not_not, ExtTreeMap.mem_iff_isSome_getElem?, dirs_setDir, if_pos ⟨rfl, rfl⟩]
    rfl
  obtain ⟨d₂, hupdate⟩ := updateContextAfterRemove_ok update osAccountId id
    ((d.setDir osAccountId id (some info)).eraseDir osAccountId id)
  have hloads := load_updateContextAfterRemove (writeAnswer update) osAccountId id
    ((d.setDir osAccountId id (some info)).eraseDir osAccountId id)
  rw [hupdate] at hloads
  refine ⟨_, d₂, if_neg hthere, hupdate, fun b j => ?_⟩
  rw [hloads, load_eraseDir, load_setDir]
  split
  · rfl
  · rfl

theorem removeEffect (h : Inv max d) (a : RemoveSaves) (osAccountId id : Int) :
    RemoveEffect osAccountId id d (removeSubProfile a.answer osAccountId id d) := by
  obtain ⟨e, hrefused⟩ | ⟨info, -, hinfo, hu, hs, -, hfound⟩ := removeSubProfile_cases h a.answer id
  · rw [hrefused]
    exact fun _ _ => rfl
  rw [hfound, removeRecord]
  subst hu hs
  cases hsave : a.save with
  | error e =>
      have hanswer : a.answer.save = .failure e a.made := by simp [RemoveSaves.answer, saveAnswer, hsave]
      have hmake : makeDir a.made { info with toBeRemoved := true } d = d := makeDir_of_getElem? a.made hinfo
      rw [hanswer]
      simp only [saveSubProfileInfo, hmake]
      exact fun _ _ => rfl
  | ok u =>
      have hanswer : a.answer.save = .success := by simp [RemoveSaves.answer, saveAnswer, hsave]
      obtain ⟨d₁, d₂, hremove, hupdate, hloads⟩ := load_removeMarked a.update info.userId info.subspaceId
        { info with toBeRemoved := true } d
      rw [hanswer]
      dsimp only [saveSubProfileInfo]
      rw [show a.answer.removeDir = .success from rfl, hremove]
      dsimp only
      rw [show a.answer.update = writeAnswer a.update from rfl, hupdate]
      exact hloads

theorem sound_remove (h : Sound max d) (a : RemoveSaves) (osAccountId id : Int) :
    Sound max (removeSubProfile a.answer osAccountId id d).2 := by
  have heffect := removeEffect h.inv a osAccountId id
  refine ⟨(keeps_removeSubProfile h.inv a.answer id).inv, listed_removeSubProfile h.inv h.listed a.answer id,
    fun b j info hload => ?_⟩
  cases hremove : removeSubProfile a.answer osAccountId id d with
  | mk r d' =>
  rw [hremove] at heffect hload
  cases r with
  | error e => exact h.valid b j info ((heffect b j).symm.trans hload)
  | ok u =>
      rw [heffect] at hload
      split at hload
      · cases hload
      · exact h.valid b j info hload

theorem sound_nothing (max : MaxCount) : Sound max nothing := by
  refine ⟨inv_nothing max, fun a id _ hmem => ?_, fun a id info hload => ?_⟩
  · simp [nothing] at hmem
  · simp [nothing, loadSubProfileInfo] at hload

theorem load_removed (b j : Int) :
    loadSubProfileInfo (update d osAccountId {}) b j =
      if b = osAccountId then none else loadSubProfileInfo d b j := by
  by_cases hb : b = osAccountId
  · subst hb
    simp [loadSubProfileInfo]
  · simp [loadSubProfileInfo, hb]

theorem sound_removed (h : Sound max d) (osAccountId : Int) : Sound max (update d osAccountId {}) := by
  refine ⟨⟨fun a ctx ha => ?_, fun a s info ha => ?_⟩, fun a id hid hmem => ?_, fun b j info hload => ?_⟩
  · by_cases hne : a = osAccountId
    · subst hne
      simp at ha
    · rw [update_of_ne hne] at ha
      exact h.inv.contexts a ctx ha
  · by_cases hne : a = osAccountId
    · subst hne
      simp at ha
    · rw [update_of_ne hne] at ha
      exact h.inv.dirs a s info ha
  · by_cases hne : a = osAccountId
    · subst hne
      simp at hmem
    · rw [update_of_ne hne] at hmem
      rw [readSubProfileContext, update_of_ne hne]
      exact h.listed a id hid hmem
  · rw [load_removed] at hload
    split at hload
    · cases hload
    · exact h.valid b j info hload

end disk

abbrev Records : Type := Int → Int → Option AccountInfo

def Records.set (R : Records) (a i : Int) (x : Option AccountInfo) : Records :=
  update R a (update (R a) i x)

@[simp]
theorem records_set_apply (R : Records) (a i : Int) (x : Option AccountInfo) (b j : Int) :
    R.set a i x b j = if b = a ∧ j = i then x else R b j := by
  unfold Records.set
  by_cases hb : b = a
  · subst hb
    by_cases hj : j = i
    · subst hj
      simp
    · simp [hj]
  · simp [hb]

def records (s : State) : Records := fun a i =>
  if i = base a then some (s.accounts a i) else (loadSubProfileInfo s.disk a i).map fun _ => s.accounts a i

section lookup

variable {max : MaxCount} {sha256 : Sha256} {s : State} {a i : Int} {x : AccountInfo}

theorem records_base (s : State) (a : Int) : records s a (base a) = some (s.accounts a (base a)) := if_pos rfl

theorem records_of_ne (hi : i ≠ base a) :
    records s a i = (loadSubProfileInfo s.disk a i).map fun _ => s.accounts a i := if_neg hi

theorem eq_accounts_of_records (h : records s a i = some x) : x = s.accounts a i := by
  unfold records at h
  split at h
  · exact (Option.some.inj h).symm
  · obtain ⟨_, -, rfl⟩ := Option.map_eq_some_iff.mp h
    rfl

theorem records_setAccount (h : records s a i = some x) (y : AccountInfo) :
    records (s.setAccount a i y) = (records s).set a i (some y) := by
  funext b j
  rw [records_set_apply]
  by_cases he : b = a ∧ j = i
  · rw [if_pos he, he.1, he.2]
    unfold records at h ⊢
    by_cases hi : i = base a
    · simp [hi]
    · rw [if_neg hi] at h ⊢
      obtain ⟨info, hload, -⟩ := Option.map_eq_some_iff.mp h
      simp [hload]
  · rw [if_neg he]
    unfold records
    simp [he]

theorem getDistributedAccountSpaceInfo_eq (h : Sound max s.disk) (a i : Int) :
    getDistributedAccountSpaceInfo s a i =
      match records s a i with
      | some x => .ok ⟨a, i, x⟩
      | none => .error .accountNotExistError := by
  unfold getDistributedAccountSpaceInfo
  by_cases hi : i = base a
  · rw [if_pos hi, hi, records_base]
  · rw [if_neg hi, records_of_ne hi]
    cases hload : loadSubProfileInfo s.disk a i with
    | none => rfl
    | some info =>
        obtain ⟨hu, hs⟩ := (h.inv.dirs a i _ (load_eq_some_iff.1 hload)).2 info rfl
        simp [hu, hs]

theorem mem_scan_iff (h : Sound max s.disk) :
    i ∈ scanOsAccountSubProfileIds s.disk a [] ↔ i ≠ base a ∧ (records s a i).isSome = true := by
  rw [scanOsAccountSubProfileIds, mem_scanSubProfileIds]
  constructor
  · rintro ⟨-, info, hinfo, -⟩
    have hi := (h.inv.dirs a i _ hinfo).1
    rw [records_of_ne hi, load_eq_some_iff.2 hinfo]
    exact ⟨hi, rfl⟩
  · rintro ⟨hi, hsome⟩
    rw [records_of_ne hi, Option.isSome_map, Option.isSome_iff_exists] at hsome
    obtain ⟨info, hload⟩ := hsome
    obtain ⟨hid, hcomplete, hremoved⟩ := h.valid a i info hload
    exact ⟨hid, info, load_eq_some_iff.1 hload, by simp [hcomplete, hremoved]⟩

theorem verifyOthers_eq_ok_iff (h : Sound max s.disk) (accountInfo : OhosAccountInfo) {ids : List Int}
    (hids : ∀ j ∈ ids, (records s a j).isSome = true) :
    verifyOthers sha256 s a i accountInfo ids = .ok () ↔
      ∀ j ∈ ids, j ≠ i → ∀ y, records s a j = some y →
        checkSameDistributedAccount sha256 y.ohosAccountInfo accountInfo = false := by
  induction ids with
  | nil => simp [verifyOthers]
  | cons j ids ih =>
      obtain ⟨y, hy⟩ := Option.isSome_iff_exists.1 (hids j List.mem_cons_self)
      have ih := ih fun k hk => hids k (List.mem_cons_of_mem j hk)
      rw [verifyOthers, getDistributedAccountSpaceInfo_eq h, hy, List.forall_mem_cons]
      by_cases hji : j = i
      · simp [hji, ih]
      · cases hsame : checkSameDistributedAccount sha256 y.ohosAccountInfo accountInfo with
        | false => simp [hji, hsame, hy, ih]
        | true => simp [hji, hsame, hy]

end lookup

end OsAccount.SubProfileRecords
