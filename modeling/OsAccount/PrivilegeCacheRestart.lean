import OsAccount.PrivilegeCacheRemoval

namespace OsAccount.PrivilegeCacheRestart

open Std OrderedMap PrivilegeTable PrivilegeRecords PrivilegeCache PrivilegeCacheParts PrivilegeCacheRemoval

variable {γ : Type}

variable {e : LoadAnswer}

theorem loadProcess_eq_some {t : Int} {p p' : ProcessPrivilegeRecord γ} :
    loadProcess e t p = some p' ↔
      0 < p.pid ∧ e.getProcessStartTime p.pid = .ok p.processStartTime ∧ e.openPidFd p.pid = .ok () ∧
        p' = p.cleanCurrentExpiredPrivileges t ∧ p'.getPrivilegeNum ≠ 0 := by
  unfold loadProcess
  constructor
  · intro h
    rw [Option.ite_none_left_eq_some] at h
    obtain ⟨hpid, h⟩ := h
    split at h
    · rename_i startTime hst hfd
      rw [Option.ite_none_left_eq_some, not_or, not_not] at h
      obtain ⟨⟨rfl, hn⟩, hp'⟩ := h
      cases hp'
      exact ⟨by omega, hst, hfd, rfl, hn⟩
    · cases h
  · rintro ⟨hpid, hst, hfd, rfl, hn⟩
    rw [hst, hfd, if_neg (by omega)]
    simp [hn]

/-- The file the service reads after a restart at clock `t`: it exists, can be
read, is older than `t`, and its digest can be computed. -/
structure Readable (e : LoadAnswer) (t : Int) (f : Snapshot γ) : Prop where
  uptime : e.uptime = .ok t
  readFile : e.readFile = true
  updateTime : f.updateTime < t
  generateDigest : e.generateDigest = true

variable {s : CacheStore γ} {pid : Int}

theorem getElem?_restart {p' : ProcessPrivilegeRecord γ} :
    (restart e s).processPrivilegeMap[pid]? = some p' ↔
      ∃ t f p, s.file = some f ∧ Readable e t f ∧ f.processRecords[pid]? = some p ∧
        loadProcess e t p = some p' := by
  unfold restart fromPersistFile
  constructor
  · intro h
    split at h
    · simp at h
    · simp at h
    · rename_i t f hu hf
      split at h
      · simp at h
      · rename_i hread
        split at h
        · simp at h
        · rename_i htime
          split at h
          · simp at h
          · rename_i hdigest
            simp only [getElem?_sweepInto, ExtTreeMap.getElem?_empty, Option.or_none,
              Option.bind_eq_some_iff] at h
            obtain ⟨p, hp, hload⟩ := h
            exact ⟨t, f, p, hf, ⟨hu, by simpa using hread, by omega, by simpa using hdigest⟩, hp, hload⟩
  · rintro ⟨t, f, p, hf, ⟨hu, hread, htime, hdigest⟩, hp, hload⟩
    simp only [hu, hf, hread, hdigest]
    rw [if_neg (by simp), if_neg (by omega), if_neg (by simp)]
    simp [getElem?_sweepInto, hp, hload]

theorem restart_file {f : Snapshot γ} (h : (restart e s).file = some f) :
    s.file = some f := by
  unfold restart fromPersistFile at h
  split at h
  · exact h
  · exact h
  · split at h
    · exact h
    · split at h
      · simp only [Option.ite_none_left_eq_some] at h
        exact h.2
      · split at h <;> exact h

theorem partOf_restart {f : Snapshot γ} (hf : s.file = some f) :
    PartOf (restart e s).processPrivilegeMap f.processRecords := by
  intro pid p' hp'
  obtain ⟨t, f', p, hf', -, hp, hload⟩ := getElem?_restart.mp hp'
  obtain rfl : f = f' := by simpa [hf] using hf'
  obtain ⟨-, -, -, rfl, hn⟩ := loadProcess_eq_some.mp hload
  exact ⟨p, hp, isPart_clean p t hn⟩

theorem recordOf_restart {idx : Nat} {r : PrivilegeRecord γ} :
    recordOf (restart e s).processPrivilegeMap pid idx = some r ↔
      ∃ t f p, s.file = some f ∧ Readable e t f ∧ f.processRecords[pid]? = some p ∧ 0 < p.pid ∧
        e.getProcessStartTime p.pid = .ok p.processStartTime ∧ e.openPidFd p.pid = .ok () ∧
        p.privilegeRecordMap[idx]? = some r ∧ r.needClean t = false := by
  rw [recordOf_eq_some]
  constructor
  · rintro ⟨p', hp', hr⟩
    obtain ⟨t, f, p, hf, hread, hp, hload⟩ := getElem?_restart.mp hp'
    obtain ⟨hpid, hst, hfd, rfl, -⟩ := loadProcess_eq_some.mp hload
    rw [ProcessPrivilegeRecord.getElem?_cleanCurrentExpiredPrivileges] at hr
    exact ⟨t, f, p, hf, hread, hp, hpid, hst, hfd, hr.1, hr.2⟩
  · rintro ⟨t, f, p, hf, hread, hp, hpid, hst, hfd, hr, hc⟩
    have hr' := (p.getElem?_cleanCurrentExpiredPrivileges t idx r).mpr ⟨hr, hc⟩
    have hload := loadProcess_eq_some.mpr ⟨hpid, hst, hfd, rfl, getPrivilegeNum_ne_zero hr'⟩
    exact ⟨_, getElem?_restart.mpr ⟨t, f, p, hf, hread, hp, hload⟩, hr'⟩

theorem getElem?_persisted {m : ProcessMap γ} {p' : ProcessPrivilegeRecord γ} :
    (persisted m)[pid]? = some p' ↔
      ∃ p, m[pid]? = some p ∧ p' = { p with remoteObject := none } ∧ p.getPrivilegeNum ≠ 0 := by
  simp only [persisted, getElem?_sweep, Option.bind_eq_some_iff, Option.ite_none_left_eq_some,
    Option.some.injEq]
  constructor
  · rintro ⟨p, hp, hn, rfl⟩
    exact ⟨p, hp, rfl, hn⟩
  · rintro ⟨p, hp, rfl, hn⟩
    exact ⟨p, hp, hn, rfl⟩

theorem recordOf_persisted (m : ProcessMap γ) (pid : Int) (idx : Nat) :
    recordOf (persisted m) pid idx = recordOf m pid idx := by
  apply Option.ext
  intro r
  simp only [recordOf_eq_some, getElem?_persisted]
  constructor
  · rintro ⟨_, ⟨p, hp, rfl, -⟩, hr⟩
    exact ⟨p, hp, hr⟩
  · rintro ⟨p, hp, hr⟩
    exact ⟨_, ⟨p, hp, rfl, getPrivilegeNum_ne_zero hr⟩, hr⟩

end OsAccount.PrivilegeCacheRestart
