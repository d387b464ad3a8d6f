import OsAccount.PrivilegeCacheParts

namespace OsAccount.PrivilegeCacheRemoval

open Std OrderedMap PrivilegeTable PrivilegeRecords PrivilegeCache PrivilegeCacheParts

variable {γ : Type}

def recordOf (m : ProcessMap γ) (pid : Int) (idx : Nat) : Option (PrivilegeRecord γ) :=
  m[pid]?.bind fun p => p.getPrivilegeRecord idx

/-- The second map is the first one, except that records of a given kind may
be missing. No process entry of it is empty. -/
structure UpTo (dropped : PrivilegeRecord γ → Prop) (m m' : ProcessMap γ) : Prop where
  part : PartOf m' m
  nonempty {pid : Int} {p : ProcessPrivilegeRecord γ} : m'[pid]? = some p → p.getPrivilegeNum ≠ 0
  kept {pid : Int} {idx : Nat} {r : PrivilegeRecord γ} :
    recordOf m pid idx = some r → ¬dropped r → recordOf m' pid idx = some r

def Expired (u : Uptime) (r : PrivilegeRecord γ) : Prop := ∃ t, u = .ok t ∧ r.needClean t = true

def OthersExpired (t : Int) (pid : Int) (idx : Nat) (m : ProcessMap γ) : Prop :=
  ∀ pid' idx' r, recordOf m pid' idx' = some r → ¬(pid = pid' ∧ idx = idx') → r.needClean t = true

variable {idx : Nat} {r : PrivilegeRecord γ}

theorem recordOf_eq_some {m : ProcessMap γ} {pid : Int} :
    recordOf m pid idx = some r ↔ ∃ p, m[pid]? = some p ∧ p.privilegeRecordMap[idx]? = some r :=
  Option.bind_eq_some_iff

theorem recordOf_of_getElem? {m : ProcessMap γ} {pid : Int} {p : ProcessPrivilegeRecord γ}
    (hp : m[pid]? = some p) (idx : Nat) : recordOf m pid idx = p.privilegeRecordMap[idx]? := by
  simp [recordOf, hp, ProcessPrivilegeRecord.getPrivilegeRecord]

theorem recordOf_insert (m : ProcessMap γ) (pid : Int) (p : ProcessPrivilegeRecord γ) (pid' : Int) (idx : Nat) :
    recordOf (m.insert pid p) pid' idx =
      if pid = pid' then p.privilegeRecordMap[idx]? else recordOf m pid' idx := by
  simp only [recordOf, ExtTreeMap.getElem?_insert, LawfulEqCmp.compare_eq_iff_eq]
  split
  · rfl
  · rfl

theorem recordOf_of_partOf {m' m : ProcessMap γ} (h : PartOf m' m) {pid : Int}
    (hr : recordOf m' pid idx = some r) : recordOf m pid idx = some r := by
  obtain ⟨p', hp', hr⟩ := recordOf_eq_some.mp hr
  obtain ⟨p, hp, hpp⟩ := h hp'
  exact recordOf_eq_some.mpr ⟨p, hp, hpp.records hr⟩

theorem UpTo.of_wellFormed (dropped : PrivilegeRecord γ → Prop) {m : ProcessMap γ} (h : WellFormed m) :
    UpTo dropped m m := ⟨.refl m, h.nonempty, fun hr _ => hr⟩

variable {t : Int}

theorem getElem?_cleanExpired {m : ProcessMap γ} {pid : Int} {p' : ProcessPrivilegeRecord γ} :
    (cleanExpired t m)[pid]? = some p' ↔
      ∃ p, m[pid]? = some p ∧ p' = p.cleanCurrentExpiredPrivileges t ∧ p'.getPrivilegeNum ≠ 0 := by
  simp only [cleanExpired, getElem?_sweep, Option.bind_eq_some_iff, Option.ite_none_left_eq_some,
    Option.some.injEq]
  constructor
  · rintro ⟨p, hp, hn, rfl⟩
    exact ⟨p, hp, rfl, hn⟩
  · rintro ⟨p, hp, rfl, hn⟩
    exact ⟨p, hp, hn, rfl⟩

theorem getPrivilegeNum_ne_zero {p : ProcessPrivilegeRecord γ}
    (h : p.privilegeRecordMap[idx]? = some r) : p.getPrivilegeNum ≠ 0 := by
  intro hn
  rw [ProcessPrivilegeRecord.getPrivilegeNum_eq_zero] at hn
  rw [hn idx] at h
  cases h

theorem recordOf_cleanExpired {m : ProcessMap γ} {pid : Int} :
    recordOf (cleanExpired t m) pid idx = some r ↔ recordOf m pid idx = some r ∧ r.needClean t = false := by
  simp only [recordOf_eq_some, getElem?_cleanExpired]
  constructor
  · rintro ⟨_, ⟨p, hp, rfl, -⟩, hr⟩
    rw [ProcessPrivilegeRecord.getElem?_cleanCurrentExpiredPrivileges] at hr
    exact ⟨⟨p, hp, hr.1⟩, hr.2⟩
  · rintro ⟨⟨p, hp, hr⟩, hc⟩
    have hr' := (p.getElem?_cleanCurrentExpiredPrivileges t idx r).mpr ⟨hr, hc⟩
    exact ⟨_, ⟨p, hp, rfl, getPrivilegeNum_ne_zero hr'⟩, hr'⟩

theorem upTo_cleanExpired (t : Int) (m : ProcessMap γ) :
    UpTo (fun r => r.needClean t = true) m (cleanExpired t m) where
  part := partOf_cleanExpired t m
  nonempty hp := by
    obtain ⟨_, -, -, hn⟩ := getElem?_cleanExpired.mp hp
    exact hn
  kept hr hn := recordOf_cleanExpired.mpr ⟨hr, by simpa using hn⟩

theorem isEmpty_cleanExpired (t : Int) (m : ProcessMap γ) :
    (cleanExpired t m).isEmpty = true ↔ ∀ pid idx r, recordOf m pid idx = some r → r.needClean t = true := by
  rw [isEmpty_iff_getElem?]
  constructor
  · intro h pid idx r hr
    by_contra hn
    obtain ⟨p, hp, -⟩ := recordOf_eq_some.mp (recordOf_cleanExpired.mpr ⟨hr, by simpa using hn⟩)
    rw [h pid] at hp
    cases hp
  · intro h pid
    by_contra hne
    obtain ⟨_, hp'⟩ := Option.ne_none_iff_exists'.mp hne
    obtain ⟨p, hp, rfl, hn⟩ := getElem?_cleanExpired.mp hp'
    apply hn
    rw [ProcessPrivilegeRecord.getPrivilegeNum_eq_zero]
    intro idx
    by_contra hr
    obtain ⟨r, hr⟩ := Option.ne_none_iff_exists'.mp hr
    rw [ProcessPrivilegeRecord.getElem?_cleanCurrentExpiredPrivileges] at hr
    have := h pid idx r (recordOf_eq_some.mpr ⟨p, hp, hr.1⟩)
    rw [hr.2] at this
    cases this

section withoutRecord

variable {m : ProcessMap γ} {pid : Int} {p : ProcessPrivilegeRecord γ}

theorem partOf_withoutRecord (hp : m[pid]? = some p) (idx : Nat) : PartOf (withoutRecord p pid idx m) m := by
  unfold withoutRecord
  split
  · exact partOf_erase m pid
  · rename_i hn
    refine partOf_insert (.refl m) hp ⟨rfl, rfl, rfl, rfl, fun hr => ?_, fun _ => hn⟩
    simp only [ProcessPrivilegeRecord.removePrivilege, ExtTreeMap.getElem?_erase] at hr
    split at hr
    · cases hr
    · exact hr

theorem recordOf_withoutRecord (hp : m[pid]? = some p) (idx : Nat) (pid' : Int) (idx' : Nat) :
    recordOf (withoutRecord p pid idx m) pid' idx' =
      if pid = pid' ∧ idx = idx' then none else recordOf m pid' idx' := by
  by_cases hpid : pid = pid'
  · subst hpid
    have hrec : (p.removePrivilege idx).privilegeRecordMap[idx']? =
        if idx = idx' then none else p.privilegeRecordMap[idx']? := by
      simp [ProcessPrivilegeRecord.removePrivilege, ExtTreeMap.getElem?_erase]
    rw [recordOf_of_getElem? hp]
    simp only [true_and]
    rw [← hrec]
    unfold withoutRecord
    split
    · rename_i hn
      rw [ProcessPrivilegeRecord.getPrivilegeNum_eq_zero] at hn
      simp [recordOf, hn idx']
    · simp [recordOf_insert]
  · unfold withoutRecord
    simp only [hpid, false_and, if_false]
    split
    · simp [recordOf, ExtTreeMap.getElem?_erase, hpid]
    · simp [recordOf_insert, hpid]

/-- The record object a failed removal holds on to is the one of the map, if
the map still has its process. -/
theorem getD_cleanExpired_withoutRecord (idx : Nat) (t : Int) :
    (cleanExpired t (withoutRecord p pid idx m))[pid]?.getD
      ((p.removePrivilege idx).cleanCurrentExpiredPrivileges t) =
      (p.removePrivilege idx).cleanCurrentExpiredPrivileges t := by
  cases hc : (cleanExpired t (withoutRecord p pid idx m))[pid]? with
  | none => rfl
  | some q =>
      obtain ⟨q', hq', rfl, -⟩ := getElem?_cleanExpired.mp hc
      unfold withoutRecord at hq'
      split at hq'
      · simp at hq'
      · simp only [ExtTreeMap.getElem?_insert_self, Option.some.injEq] at hq'
        rw [Option.getD_some, hq']

theorem setPrivilegeRecord_getElem? (p : ProcessPrivilegeRecord γ) (idx idx' : Nat) (r : PrivilegeRecord γ) :
    (p.setPrivilegeRecord idx r).privilegeRecordMap[idx']? =
      if idx = idx' then some r else p.privilegeRecordMap[idx']? := by
  simp [ProcessPrivilegeRecord.setPrivilegeRecord, ExtTreeMap.getElem?_insert]

theorem getElem?_setPrivilegeRecord_clean_remove {idx idx' : Nat} {r r' : PrivilegeRecord γ} {t : Int} :
    (((p.removePrivilege idx).cleanCurrentExpiredPrivileges t).setPrivilegeRecord idx r).privilegeRecordMap[idx']? =
      some r' ↔
      idx = idx' ∧ r = r' ∨ idx ≠ idx' ∧ p.privilegeRecordMap[idx']? = some r' ∧ r'.needClean t = false := by
  rw [setPrivilegeRecord_getElem?]
  by_cases hi : idx = idx'
  · simp [hi]
  · simp [hi, ProcessPrivilegeRecord.getElem?_cleanCurrentExpiredPrivileges,
      ProcessPrivilegeRecord.removePrivilege, ExtTreeMap.getElem?_erase]

/-- The clean-up and the roll-back of one record together only lose records
that were due for cleaning. -/
theorem upTo_rollback (hwf : WellFormed m) (hp : m[pid]? = some p) {idx : Nat} {r : PrivilegeRecord γ}
    (hr : p.privilegeRecordMap[idx]? = some r) (t : Int) :
    UpTo (fun r => r.needClean t = true) m
      (rollbackDelSingleRecord ((p.removePrivilege idx).cleanCurrentExpiredPrivileges t) (some r)
        (cleanExpired t (withoutRecord p pid idx m))) ∧
    recordOf (rollbackDelSingleRecord ((p.removePrivilege idx).cleanCurrentExpiredPrivileges t) (some r)
        (cleanExpired t (withoutRecord p pid idx m))) pid idx = some r := by
  have hpid : ((p.removePrivilege idx).cleanCurrentExpiredPrivileges t).pid = pid :=
    (hwf.pid hp : p.pid = pid)
  have hidx : r.privilegeIdx = idx := hwf.privilegeIdx hp hr
  have hself := (getElem?_setPrivilegeRecord_clean_remove (p := p) (t := t)).mpr
    (.inl ⟨(rfl : idx = idx), (rfl : r = r)⟩)
  simp only [rollbackDelSingleRecord, hpid, getD_cleanExpired_withoutRecord,
    ProcessPrivilegeRecord.rollbackPrivilege, hidx]
  refine ⟨⟨?_, ?_, ?_⟩, ?_⟩
  · refine partOf_insert ((partOf_cleanExpired t _).trans (partOf_withoutRecord hp idx)) hp
      ⟨rfl, rfl, rfl, rfl, fun hr' => ?_, fun _ => getPrivilegeNum_ne_zero hself⟩
    rcases getElem?_setPrivilegeRecord_clean_remove.mp hr' with ⟨rfl, rfl⟩ | ⟨-, hr', -⟩
    · exact hr
    · exact hr'
  · intro pid' q hq
    rw [ExtTreeMap.getElem?_insert] at hq
    split at hq
    · cases hq
      exact getPrivilegeNum_ne_zero hself
    · exact (upTo_cleanExpired t _).nonempty hq
  · intro pid' idx' r' hr' hn
    rw [recordOf_insert]
    split
    · rename_i hpp
      subst hpp
      rw [recordOf_of_getElem? hp] at hr'
      rw [getElem?_setPrivilegeRecord_clean_remove]
      by_cases hi : idx = idx'
      · subst hi
        rw [hr, Option.some.injEq] at hr'
        exact .inl ⟨rfl, hr'⟩
      · exact .inr ⟨hi, hr', by simpa using hn⟩
    · rename_i hpp
      rw [recordOf_cleanExpired, recordOf_withoutRecord hp]
      simp only [hpp, false_and, if_false]
      exact ⟨hr', by simpa using hn⟩
  · rw [recordOf_insert, if_pos rfl]
    exact hself

end withoutRecord

theorem withoutRecord_of_none {m : ProcessMap γ} {pid : Int} {p : ProcessPrivilegeRecord γ}
    (hp : m[pid]? = some p) (hn : p.getPrivilegeNum ≠ 0) (hr : p.privilegeRecordMap[idx]? = none) :
    withoutRecord p pid idx m = m := by
  have hsame : p.removePrivilege idx = p := by
    have : p.privilegeRecordMap.erase idx = p.privilegeRecordMap := by
      apply ExtTreeMap.ext_getElem?
      intro j
      rw [ExtTreeMap.getElem?_erase]
      split
      · rename_i hj
        obtain rfl : idx = j := by simpa using hj
        exact hr.symm
      · rfl
    simp [ProcessPrivilegeRecord.removePrivilege, this]
  rw [withoutRecord, hsame, if_neg hn, insert_self m pid p hp]

theorem rollback_withoutRecord {m : ProcessMap γ} (hwf : WellFormed m) {pid : Int}
    {p : ProcessPrivilegeRecord γ} (hp : m[pid]? = some p)
    (hr : p.privilegeRecordMap[idx]? = some r) :
    rollbackDelSingleRecord (p.removePrivilege idx) (some r) (withoutRecord p pid idx m) = m := by
  have hpid : (p.removePrivilege idx).pid = pid := (hwf.pid hp : p.pid = pid)
  have hget : (withoutRecord p pid idx m)[pid]?.getD (p.removePrivilege idx) = p.removePrivilege idx := by
    unfold withoutRecord
    split <;> simp
  have hset : (p.removePrivilege idx).setPrivilegeRecord idx r = p := by
    have : (p.privilegeRecordMap.erase idx).insert idx r = p.privilegeRecordMap := by
      apply ExtTreeMap.ext_getElem?
      intro j
      by_cases hj : idx = j
      · subst hj
        simp [hr]
      · simp [ExtTreeMap.getElem?_insert, ExtTreeMap.getElem?_erase, hj]
    simp [ProcessPrivilegeRecord.removePrivilege, ProcessPrivilegeRecord.setPrivilegeRecord, this]
  simp only [rollbackDelSingleRecord, hpid, hget, ProcessPrivilegeRecord.rollbackPrivilege,
    hwf.privilegeIdx hp hr, hset]
  apply ExtTreeMap.ext_getElem?
  intro k
  by_cases hk : pid = k
  · subst hk
    simp [hp]
  · unfold withoutRecord
    split <;> simp [ExtTreeMap.getElem?_insert, ExtTreeMap.getElem?_erase, hk]

theorem isEmpty_clean_withoutRecord {m : ProcessMap γ} {pid : Int} {p : ProcessPrivilegeRecord γ}
    (hp : m[pid]? = some p) (t : Int) :
    (cleanExpired t (withoutRecord p pid idx m)).isEmpty = true ↔ OthersExpired t pid idx m := by
  rw [isEmpty_cleanExpired]
  constructor
  · intro h pid' idx' r hr hne
    apply h pid' idx' r
    rw [recordOf_withoutRecord hp, if_neg hne, hr]
  · intro h pid' idx' r hr
    rw [recordOf_withoutRecord hp] at hr
    split at hr
    · cases hr
    · rename_i hne
      exact h pid' idx' r hr hne

variable {o : PersistAnswer} {s s' : CacheStore γ}

theorem toPersistFile_ok
    (h : toPersistFile o t s = (.ok (), s')) :
    s'.processPrivilegeMap = s.processPrivilegeMap ∧
      (s.processPrivilegeMap.isEmpty = true ∧ (s'.file = none ∨ o.deleteFile = false ∧ s'.file = s.file) ∨
       s.processPrivilegeMap.isEmpty = false ∧ o.result = .ok () ∧
         s'.file = some ⟨t, persisted s.processPrivilegeMap⟩) := by
  unfold toPersistFile at h
  split at h
  · rename_i hempty
    cases h
    refine ⟨rfl, .inl ⟨hempty, ?_⟩⟩
    cases o.deleteFile
    · exact .inr ⟨rfl, rfl⟩
    · exact .inl rfl
  · rename_i hne
    split at h
    · cases h
    · rename_i ho
      cases h
      exact ⟨rfl, .inr ⟨by simpa using hne, ho, rfl⟩⟩

theorem toPersistFile_error {ret : ErrCode}
    (h : toPersistFile o t s = (.error ret, s')) :
    s' = s ∧ o.result = .error ret ∧ s.processPrivilegeMap.isEmpty = false := by
  unfold toPersistFile at h
  split at h
  · cases h
  · rename_i hne
    split at h
    · rename_i ret' ho
      cases h
      exact ⟨rfl, ho, by simpa using hne⟩
    · cases h

theorem upTo_rollback_getPrivilegeRecord {m : ProcessMap γ} (hwf : WellFormed m) {pid : Int}
    {p : ProcessPrivilegeRecord γ} (hp : m[pid]? = some p) (idx : Nat) (t : Int) :
    UpTo (fun r => r.needClean t = true) m
      (rollbackDelSingleRecord ((p.removePrivilege idx).cleanCurrentExpiredPrivileges t) (p.getPrivilegeRecord idx)
        (cleanExpired t (withoutRecord p pid idx m))) ∧
    recordOf (rollbackDelSingleRecord ((p.removePrivilege idx).cleanCurrentExpiredPrivileges t)
      (p.getPrivilegeRecord idx) (cleanExpired t (withoutRecord p pid idx m))) pid idx = recordOf m pid idx := by
  rw [recordOf_of_getElem? hp]
  cases hr : p.privilegeRecordMap[idx]? with
  | none =>
      simp only [ProcessPrivilegeRecord.getPrivilegeRecord, hr, rollbackDelSingleRecord,
        withoutRecord_of_none hp (hwf.nonempty hp) hr]
      refine ⟨upTo_cleanExpired t _, ?_⟩
      by_contra hne
      obtain ⟨r, hr'⟩ := Option.ne_none_iff_exists'.mp hne
      rw [recordOf_cleanExpired, recordOf_of_getElem? hp, hr] at hr'
      cases hr'.1
  | some r =>
      simp only [ProcessPrivilegeRecord.getPrivilegeRecord, hr]
      exact upTo_rollback hwf hp hr t

/-- What a removal can do. It stops at a process without an entry; a clock that
cannot be read, or a save that fails, puts the record back. -/
theorem removeSingle_cases {u : Uptime} {pid : Int}
    {ret : Ret} (hwf : WellFormed s.processPrivilegeMap) (h : removeSingle u o pid idx s = (ret, s')) :
    (s.processPrivilegeMap[pid]? = none ∧ ret = .ok () ∧ s' = s) ∨
    (∃ p, s.processPrivilegeMap[pid]? = some p ∧
      ((∃ e, u = .error e ∧ ret = .error e ∧ s' = s) ∨
       (∃ t, u = .ok t ∧ ret = .ok () ∧ toPersistFile o t { s with
          processPrivilegeMap := cleanExpired t (withoutRecord p pid idx s.processPrivilegeMap) } = (.ok (), s')) ∨
       (∃ t e, u = .ok t ∧ o.result = .error e ∧ ret = .error e ∧ s'.file = s.file ∧
          (cleanExpired t (withoutRecord p pid idx s.processPrivilegeMap)).isEmpty = false ∧
          UpTo (fun r => r.needClean t = true) s.processPrivilegeMap s'.processPrivilegeMap ∧
          recordOf s'.processPrivilegeMap pid idx = recordOf s.processPrivilegeMap pid idx))) := by
  unfold removeSingle at h
  split at h
  · rename_i hp
    cases h
    exact .inl ⟨hp, rfl, rfl⟩
  · rename_i p hp
    refine .inr ⟨p, hp, ?_⟩
    cases u with
    | error e =>
        simp only [cleanExpiredPrivilegesAndSaveToFile, sharedAfterClean] at h
        cases h
        refine .inl ⟨e, rfl, rfl, ?_⟩
        cases hr : p.privilegeRecordMap[idx]? with
        | none =>
            simp [ProcessPrivilegeRecord.getPrivilegeRecord, hr, rollbackDelSingleRecord,
              withoutRecord_of_none hp (hwf.nonempty hp) hr]
        | some r => simp [ProcessPrivilegeRecord.getPrivilegeRecord, hr, rollback_withoutRecord hwf hp hr]
    | ok t =>
        simp only [cleanExpiredPrivilegesAndSaveToFile, sharedAfterClean] at h
        split at h
        · rename_i s₁ hs₁
          cases h
          exact .inr (.inl ⟨t, rfl, rfl, hs₁⟩)
        · rename_i e s₁ hs₁
          cases h
          obtain ⟨rfl, ho, hne⟩ := toPersistFile_error hs₁
          exact .inr (.inr ⟨t, e, rfl, ho, rfl, rfl, hne, upTo_rollback_getPrivilegeRecord hwf hp idx t⟩)

theorem removeSingle_shrinks (u : Uptime) (o : PersistAnswer) (pid : Int) (idx : Nat) {s : CacheStore γ}
    (hwf : WellFormed s.processPrivilegeMap) : Shrinks s (removeSingle u o pid idx s).2 := by
  obtain ⟨-, -, hs⟩ | ⟨p, hp, ⟨e, -, -, hs⟩ | ⟨t, -, -, hs⟩ | ⟨t, e, -, -, -, hf, -, hm, -⟩⟩ :=
    removeSingle_cases hwf (Prod.eta (removeSingle u o pid idx s)).symm
  · rw [hs]
    exact .refl s
  · rw [hs]
    exact .refl s
  · have hsave := toPersistFile_shrinks o t { s with
      processPrivilegeMap := cleanExpired t (withoutRecord p pid idx s.processPrivilegeMap) }
    rw [hs] at hsave
    exact (Shrinks.of_map ((partOf_cleanExpired t _).trans (partOf_withoutRecord hp idx))).trans hsave
  · refine ⟨hm.part, fun hf' => .inl ?_⟩
    rw [← hf]
    exact hf'

end OsAccount.PrivilegeCacheRemoval
