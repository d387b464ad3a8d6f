import OsAccount.PrivilegeCache

namespace OsAccount.PrivilegeCacheParts

open Std OrderedMap PrivilegeTable PrivilegeRecords PrivilegeCache

variable {γ : Type}

/-- Process entries are keyed by their pid, records by their privilege, and no
entry is empty. -/
structure WellFormed (m : ProcessMap γ) : Prop where
  pid {pid : Int} {p : ProcessPrivilegeRecord γ} : m[pid]? = some p → p.pid = pid
  privilegeIdx {pid : Int} {p : ProcessPrivilegeRecord γ} {idx : Nat} {r : PrivilegeRecord γ} :
    m[pid]? = some p → p.privilegeRecordMap[idx]? = some r → r.privilegeIdx = idx
  nonempty {pid : Int} {p : ProcessPrivilegeRecord γ} : m[pid]? = some p → p.getPrivilegeNum ≠ 0

structure IsPart (p' p : ProcessPrivilegeRecord γ) : Prop where
  pid : p'.pid = p.pid
  uid : p'.uid = p.uid
  processStartTime : p'.processStartTime = p.processStartTime
  remoteObject : p'.remoteObject = p.remoteObject
  records {idx : Nat} {r : PrivilegeRecord γ} :
    p'.privilegeRecordMap[idx]? = some r → p.privilegeRecordMap[idx]? = some r
  nonempty : p.getPrivilegeNum ≠ 0 → p'.getPrivilegeNum ≠ 0

def PartOf (m' m : ProcessMap γ) : Prop :=
  ∀ ⦃pid : Int⦄ ⦃p' : ProcessPrivilegeRecord γ⦄, m'[pid]? = some p' → ∃ p, m[pid]? = some p ∧ IsPart p' p

theorem IsPart.refl (p : ProcessPrivilegeRecord γ) : IsPart p p :=
  ⟨rfl, rfl, rfl, rfl, id, id⟩

theorem IsPart.trans {p q r : ProcessPrivilegeRecord γ} (h : IsPart p q) (k : IsPart q r) : IsPart p r :=
  ⟨h.pid.trans k.pid, h.uid.trans k.uid, h.processStartTime.trans k.processStartTime,
    h.remoteObject.trans k.remoteObject, fun hr => k.records (h.records hr),
    fun hr => h.nonempty (k.nonempty hr)⟩

theorem PartOf.refl (m : ProcessMap γ) : PartOf m m := fun _ p hp => ⟨p, hp, .refl p⟩

theorem PartOf.trans {l m n : ProcessMap γ} (h : PartOf l m) (k : PartOf m n) : PartOf l n := by
  intro pid p hp
  obtain ⟨q, hq, hpq⟩ := h hp
  obtain ⟨r, hr, hqr⟩ := k hq
  exact ⟨r, hr, hpq.trans hqr⟩

theorem WellFormed.of_partOf {m' m : ProcessMap γ} (h : WellFormed m) (k : PartOf m' m) : WellFormed m' where
  pid hp := by
    obtain ⟨q, hq, hpq⟩ := k hp
    rw [hpq.pid, h.pid hq]
  privilegeIdx hp hr := by
    obtain ⟨q, hq, hpq⟩ := k hp
    exact h.privilegeIdx hq (hpq.records hr)
  nonempty hp := by
    obtain ⟨q, hq, hpq⟩ := k hp
    exact hpq.nonempty (h.nonempty hq)

theorem partOf_sweep {f : Int → ProcessPrivilegeRecord γ → Option (ProcessPrivilegeRecord γ)}
    (hf : ∀ {pid p p'}, f pid p = some p' → IsPart p' p) (m : ProcessMap γ) : PartOf (sweep f m) m := by
  intro pid p' hp'
  rw [getElem?_sweep, Option.bind_eq_some_iff] at hp'
  obtain ⟨p, hp, hpf⟩ := hp'
  exact ⟨p, hp, hf hpf⟩

theorem partOf_erase (m : ProcessMap γ) (pid : Int) : PartOf (m.erase pid) m := by
  intro k p hp
  rw [ExtTreeMap.getElem?_erase] at hp
  split at hp
  · cases hp
  · exact ⟨p, hp, .refl p⟩

theorem partOf_insert {m m' : ProcessMap γ} (h : PartOf m' m) {pid : Int} {p p' : ProcessPrivilegeRecord γ}
    (hp : m[pid]? = some p) (hp' : IsPart p' p) : PartOf (m'.insert pid p') m := by
  intro k q hq
  rw [ExtTreeMap.getElem?_insert] at hq
  split at hq
  · rename_i hk
    obtain rfl : pid = k := by simpa using hk
    cases hq
    exact ⟨p, hp, hp'⟩
  · exact h hq

theorem isPart_clean (p : ProcessPrivilegeRecord γ) (t : Int)
    (h : (p.cleanCurrentExpiredPrivileges t).getPrivilegeNum ≠ 0) :
    IsPart (p.cleanCurrentExpiredPrivileges t) p :=
  ⟨rfl, rfl, rfl, rfl,
    fun hr => ((ProcessPrivilegeRecord.getElem?_cleanCurrentExpiredPrivileges _ _ _ _).mp hr).1, fun _ => h⟩

theorem partOf_cleanExpired (t : Int) (m : ProcessMap γ) : PartOf (cleanExpired t m) m := by
  apply partOf_sweep
  intro pid p p' hp'
  rw [Option.ite_none_left_eq_some] at hp'
  obtain ⟨hn, hp'⟩ := hp'
  cases hp'
  exact isPart_clean p t hn

/-- The store after an operation that only drops records: the map is a part of
the map before, and a file the operation wrote was written from such a part. -/
structure Shrinks (s s' : CacheStore γ) : Prop where
  map : PartOf s'.processPrivilegeMap s.processPrivilegeMap
  file {f : Snapshot γ} : s'.file = some f → s.file = some f ∨
    ∃ m, PartOf m s.processPrivilegeMap ∧ f.processRecords = persisted m

theorem Shrinks.refl (s : CacheStore γ) : Shrinks s s := ⟨.refl _, .inl⟩

theorem Shrinks.trans {s₁ s₂ s₃ : CacheStore γ} (h : Shrinks s₁ s₂) (k : Shrinks s₂ s₃) : Shrinks s₁ s₃ where
  map := k.map.trans h.map
  file hf := by
    rcases k.file hf with hf | ⟨m, hm, hf⟩
    · exact h.file hf
    · exact .inr ⟨m, hm.trans h.map, hf⟩

theorem Shrinks.of_map {s : CacheStore γ} {m : ProcessMap γ} (h : PartOf m s.processPrivilegeMap) :
    Shrinks s { s with processPrivilegeMap := m } := ⟨h, .inl⟩

theorem toPersistFile_map (o : PersistAnswer) (t : Int) (s : CacheStore γ) :
    (toPersistFile o t s).2.processPrivilegeMap = s.processPrivilegeMap := by
  unfold toPersistFile
  split
  · rfl
  · split <;> rfl

theorem toPersistFile_shrinks (o : PersistAnswer) (t : Int) (s : CacheStore γ) :
    Shrinks s (toPersistFile o t s).2 := by
  unfold toPersistFile
  split
  · refine ⟨.refl _, fun hf => .inl ?_⟩
    rw [Option.ite_none_left_eq_some] at hf
    exact hf.2
  · split
    · exact .refl s
    · refine ⟨.refl _, fun hf => .inr ?_⟩
      cases hf
      exact ⟨_, .refl _, rfl⟩

theorem clean_shrinks (u : Uptime) (o : PersistAnswer) (s : CacheStore γ) :
    Shrinks s (cleanExpiredPrivilegesAndSaveToFile u o s).2 := by
  cases u with
  | error ret => exact .refl s
  | ok t => exact (Shrinks.of_map (partOf_cleanExpired t _)).trans (toPersistFile_shrinks o t _)

def oneRecord (pid uid startTime : Int) (remoteObject : Option RemoteObject) (r : PrivilegeRecord γ) :
    ProcessMap γ :=
  (∅ : ProcessMap γ).insert pid
    ⟨pid, uid, startTime, remoteObject, (∅ : RecordMap γ).insert r.privilegeIdx r⟩

theorem wellFormed_oneRecord (pid uid startTime : Int) (remoteObject : Option RemoteObject)
    (r : PrivilegeRecord γ) : WellFormed (oneRecord pid uid startTime remoteObject r) := by
  have hget : ∀ {k : Int} {p : ProcessPrivilegeRecord γ},
      (oneRecord pid uid startTime remoteObject r)[k]? = some p →
      pid = k ∧ p = ⟨pid, uid, startTime, remoteObject, (∅ : RecordMap γ).insert r.privilegeIdx r⟩ := by
    intro k p hp
    simp only [oneRecord, ExtTreeMap.getElem?_insert, LawfulEqCmp.compare_eq_iff_eq,
      ExtTreeMap.getElem?_empty, Option.ite_none_right_eq_some, Option.some.injEq] at hp
    exact ⟨hp.1, hp.2.symm⟩
  refine ⟨fun hp => ?_, fun hp hr => ?_, fun hp => ?_⟩
  · obtain ⟨rfl, rfl⟩ := hget hp
    rfl
  · obtain ⟨rfl, rfl⟩ := hget hp
    simp only [ExtTreeMap.getElem?_insert, LawfulEqCmp.compare_eq_iff_eq, ExtTreeMap.getElem?_empty,
      Option.ite_none_right_eq_some, Option.some.injEq] at hr
    rw [← hr.2, hr.1]
  · obtain ⟨rfl, rfl⟩ := hget hp
    simp [ProcessPrivilegeRecord.getPrivilegeNum, ExtTreeMap.size_insert]

end OsAccount.PrivilegeCacheParts
