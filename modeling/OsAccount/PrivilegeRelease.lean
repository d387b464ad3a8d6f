import OsAccount.PrivilegeCacheRestart

namespace OsAccount.PrivilegeRelease

open Std OrderedMap PrivilegeTable PrivilegeRecords PrivilegeCache PrivilegeCacheParts PrivilegeCacheRemoval
  PrivilegeCacheRestart

structure Consistent (s : CacheStore Unit) : Prop where
  wellFormed : WellFormed s.processPrivilegeMap
  file {f : Snapshot Unit} : s.file = some f → f.processRecords = persisted s.processPrivilegeMap
  noFile : s.file = none → s.processPrivilegeMap.isEmpty = true

def Later (u : Uptime) (t₁ : Int) : Prop := ∀ t, u = .ok t → t < t₁

def ProcessesAlive (e : LoadAnswer) (m : ProcessMap Unit) : Prop :=
  ∀ pid p, m[pid]? = some p → e.getProcessStartTime pid = .ok p.processStartTime ∧ e.openPidFd pid = .ok ()

def AllOrNothing (u : Uptime) (o : PersistAnswer) (pid : Int) (idx : Nat) (s : CacheStore Unit) : Prop :=
  match removeSingle u o pid idx s with
  | (.ok (), s') =>
      recordOf s'.processPrivilegeMap pid idx = none ∧
        ∀ e t₁, e.uptime = .ok t₁ → Later u t₁ → ProcessesAlive e s.processPrivilegeMap →
          recordOf (restart e s').processPrivilegeMap pid idx = none
  | (.error _, s') =>
      UpTo (Expired u) s.processPrivilegeMap s'.processPrivilegeMap ∧
        recordOf s'.processPrivilegeMap pid idx = recordOf s.processPrivilegeMap pid idx

/-- The release leaves an empty map, its file cannot be deleted, and the
released record is not expired at the first clock that is later than both. -/
def StaleFileRevives (u : Uptime) (o : PersistAnswer) (pid : Int) (idx : Nat) (s : CacheStore Unit) : Prop :=
  ∃ t f r, u = .ok t ∧ o.deleteFile = false ∧ s.file = some f ∧ 0 < pid ∧
    recordOf s.processPrivilegeMap pid idx = some r ∧ OthersExpired t pid idx s.processPrivilegeMap ∧
    r.needClean (max f.updateTime t + 1) = false

variable {u : Uptime} {o : PersistAnswer} {pid : Int} {idx : Nat} {s : CacheStore Unit}

/-- A restart from the file of a consistent store brings back only records of
the map. -/
theorem recordOf_of_restart (hs : Consistent s) {e : LoadAnswer} {s' : CacheStore Unit} (hf : s'.file = s.file)
    {r : PrivilegeRecord Unit} (hr : recordOf (restart e s').processPrivilegeMap pid idx = some r) :
    ∃ t f, s.file = some f ∧ Readable e t f ∧ 0 < pid ∧ recordOf s.processPrivilegeMap pid idx = some r ∧
      r.needClean t = false := by
  obtain ⟨t, f, p', hf', hread, hp', hpos, -, -, hr, hc⟩ := recordOf_restart.mp hr
  rw [hf] at hf'
  rw [hs.file hf'] at hp'
  obtain ⟨p, hp, rfl, -⟩ := getElem?_persisted.mp hp'
  have hpid : p.pid = pid := hs.wellFormed.pid hp
  refine ⟨t, f, hf', hread, ?_, recordOf_eq_some.mpr ⟨p, hp, hr⟩, hc⟩
  rw [← hpid]
  exact hpos

def aliveAnswer (t : Int) (m : ProcessMap Unit) : LoadAnswer where
  uptime := .ok t
  readFile := true
  generateDigest := true
  deleteFile := true
  getProcessStartTime pid := match m[pid]? with
    | some p => .ok p.processStartTime
    | none => .error (.sys 0)
  openPidFd _ := .ok ()

theorem processesAlive_aliveAnswer (t : Int) (m : ProcessMap Unit) : ProcessesAlive (aliveAnswer t m) m := by
  intro pid p hp
  simp [aliveAnswer, hp]

theorem not_allOrNothing_of_revives (hs : Consistent s) (h : StaleFileRevives u o pid idx s) :
    ¬AllOrNothing u o pid idx s := by
  obtain ⟨t, f, r, rfl, hdel, hf, hpos, hr, hothers, hc⟩ := h
  obtain ⟨p, hp, hrp⟩ := recordOf_eq_some.mp hr
  have hempty := (isEmpty_clean_withoutRecord hp t).mpr hothers
  have hcall : ∃ m, removeSingle (.ok t) o pid idx s = (.ok (), ⟨m, s.file⟩) := by
    refine ⟨cleanExpired t (withoutRecord p pid idx s.processPrivilegeMap), ?_⟩
    simp [removeSingle, hp, cleanExpiredPrivilegesAndSaveToFile, toPersistFile, hempty, hdel]
  obtain ⟨m, hcall⟩ := hcall
  intro hall
  simp only [AllOrNothing, hcall] at hall
  have hlater : Later (.ok t) (max f.updateTime t + 1) := by
    intro t' ht'
    cases ht'
    omega
  have hgone := hall.2 (aliveAnswer _ s.processPrivilegeMap) _ rfl hlater (processesAlive_aliveAnswer _ _)
  have hpid : p.pid = pid := hs.wellFormed.pid hp
  have hback : recordOf (restart (aliveAnswer (max f.updateTime t + 1) s.processPrivilegeMap)
      ⟨m, s.file⟩).processPrivilegeMap pid idx = some r := by
    refine recordOf_restart.mpr ⟨_, f, { p with remoteObject := none }, hf, ⟨rfl, rfl, by omega, rfl⟩, ?_, ?_,
      ?_, rfl, hrp, hc⟩
    · rw [hs.file hf]
      exact getElem?_persisted.mpr ⟨p, hp, rfl, getPrivilegeNum_ne_zero hrp⟩
    · rw [← hpid] at hpos
      exact hpos
    · simp only [hpid]
      exact (processesAlive_aliveAnswer _ _ pid p hp).1
  rw [hgone] at hback
  cases hback

theorem allOrNothing_of_not_revives (hs : Consistent s) (h : ¬StaleFileRevives u o pid idx s) :
    AllOrNothing u o pid idx s := by
  unfold AllOrNothing
  rcases hcall : removeSingle u o pid idx s with ⟨ret, s'⟩
  obtain ⟨hp, rfl, rfl⟩ | ⟨p, hp, ⟨e, -, rfl, rfl⟩ | ⟨t, rfl, rfl, hsave⟩ |
    ⟨t, e, rfl, -, rfl, -, -, hm, hr⟩⟩ := removeSingle_cases hs.wellFormed hcall
  · -- no entry for the process, hence none in the file
    have hnone : recordOf s'.processPrivilegeMap pid idx = none := by simp [recordOf, hp]
    refine ⟨hnone, fun e t₁ _ _ _ => Option.eq_none_iff_forall_ne_some.mpr fun r hr => ?_⟩
    obtain ⟨-, -, -, -, -, hr, -⟩ := recordOf_of_restart hs rfl hr
    rw [hnone] at hr
    cases hr
  · exact ⟨.of_wellFormed _ hs.wellFormed, rfl⟩
  · obtain ⟨hmap, hfile⟩ := toPersistFile_ok hsave
    have hnone : ∀ r, recordOf (cleanExpired t (withoutRecord p pid idx s.processPrivilegeMap)) pid idx ≠
        some r := by
      intro r hr
      rw [recordOf_cleanExpired, recordOf_withoutRecord hp, if_pos ⟨rfl, rfl⟩] at hr
      cases hr.1
    refine ⟨?_, fun e t₁ hu hlater _ => Option.eq_none_iff_forall_ne_some.mpr fun r hr => ?_⟩
    · rw [hmap]
      exact Option.eq_none_iff_forall_ne_some.mpr hnone
    rcases hfile with ⟨hempty, hfile | ⟨hdel, hfile⟩⟩ | ⟨-, -, hfile⟩
    · obtain ⟨-, f, -, hf, -⟩ := recordOf_restart.mp hr
      rw [hfile] at hf
      cases hf
    · -- the stale file is read back
      obtain ⟨t', f, hf, hread, hpos, hr', hc⟩ := recordOf_of_restart hs hfile hr
      refine h ⟨t, f, r, rfl, hdel, hf, hpos, hr', (isEmpty_clean_withoutRecord hp t).mp hempty, ?_⟩
      obtain rfl : t₁ = t' := by simpa [hu] using hread.uptime
      have htime := hread.updateTime
      have ht := hlater t rfl
      by_contra hn
      rw [Bool.not_eq_false] at hn
      have hmono := PrivilegeRecord.needClean_mono hn (u := t₁) (by omega)
      rw [hc] at hmono
      cases hmono
    · obtain ⟨t', f, p', hf, -, hp', -, -, -, hr', -⟩ := recordOf_restart.mp hr
      rw [hfile] at hf
      cases hf
      apply hnone r
      rw [← recordOf_persisted]
      exact recordOf_eq_some.mpr ⟨p', hp', hr'⟩
  · refine ⟨⟨hm.part, hm.nonempty, fun hr' hn => hm.kept hr' fun hc => hn ⟨t, rfl, hc⟩⟩, hr⟩

/-- A release is all or nothing across a restart exactly when it does not leave
a stale file that still lists the released record. -/
theorem removeSingle_allOrNothing_iff (u : Uptime) (o : PersistAnswer) (pid : Int) (idx : Nat)
    (s : CacheStore Unit) (hs : Consistent s) :
    AllOrNothing u o pid idx s ↔ ¬StaleFileRevives u o pid idx s :=
  ⟨fun h hr => not_allOrNothing_of_revives hs hr h, allOrNothing_of_not_revives hs⟩

def releasedStore : CacheStore Unit :=
  let m := oneRecord 7 20000000 500 none ⟨0, 301000, 12, .notRequired, ()⟩
  ⟨m, some ⟨1000, persisted m⟩⟩

theorem consistent_releasedStore : Consistent releasedStore := by
  refine ⟨wellFormed_oneRecord _ _ _ _ _, fun hf => ?_, fun hf => ?_⟩
  · cases hf
    rfl
  · cases hf

theorem removeSingle_allOrNothing_released : AllOrNothing (.ok 2000) .allOk 7 0 releasedStore := by
  rw [removeSingle_allOrNothing_iff _ _ _ _ _ consistent_releasedStore]
  rintro ⟨t, f, r, -, hdel, -⟩
  cases hdel

/-- With a file that cannot be deleted the release reports success and the
next restart grants the privilege again. -/
theorem removeSingle_revives :
    Consistent releasedStore ∧
      ¬AllOrNothing (.ok 2000) { PersistAnswer.allOk with deleteFile := false } 7 0 releasedStore := by
  refine ⟨consistent_releasedStore, not_allOrNothing_of_revives consistent_releasedStore ?_⟩
  refine ⟨2000, ⟨1000, persisted releasedStore.processPrivilegeMap⟩, ⟨0, 301000, 12, .notRequired, ()⟩, rfl,
    rfl, rfl, by decide, by decide, ?_, by decide⟩
  rw [← isEmpty_clean_withoutRecord (p := ⟨7, 20000000, 500, none,
    (∅ : RecordMap Unit).insert 0 ⟨0, 301000, 12, .notRequired, ()⟩⟩) (by decide)]
  decide

end OsAccount.PrivilegeRelease
