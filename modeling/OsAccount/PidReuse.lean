import OsAccount.Machine
import OsAccount.PrivilegeCacheInvariant
import OsAccount.ProcessStat

namespace OsAccount.PidReuse

open Std OrderedMap PrivilegeTable PrivilegeRecords PrivilegeCache PrivilegeCacheParts PrivilegeCacheRemoval
  PrivilegeCacheRestart PrivilegeCacheInvariant Machine ProcessStat

/-- The processes of the system, each with the line of its `/proc/<pid>/stat`,
and the cache. Every record remembers the start time of the process that held
the pid when it was added. -/
structure State where
  stat : Int → Option Stat
  started : List (Int × Nat)
  /-- Death notifications under way: the pid that died, the pid to be removed. -/
  notifications : List (Int × Int)
  store : CacheStore (Option Int)

/-- A process may change its name and the numbers in its line at any time, but
neither its pid nor its start time. -/
inductive Event
  | start (stat : Stat)
  | change (stat : Stat)
  | exit (pid : Int)
  | notify (pid removed : Int) (u : Uptime) (o : PersistAnswer)
  | addCache (e : AddAnswer) (callerInfo : AuthenCallerInfo) (safeStartTime : Nat)
  | addCacheAndNotifyKernel (e : KernelAnswer) (callerInfo : AuthenCallerInfo)
  | removeSingle (u : Uptime) (o : PersistAnswer) (pid : Int) (idx : Nat)
  | restart (e : LoadAnswer)

def State.startTime (s : State) (pid : Int) : Option Int := (s.stat pid).map fun stat => (stat.startTime : Int)

def State.setStat (s : State) (pid : Int) (stat : Option Stat) : Int → Option Stat :=
  fun k => if k = pid then stat else s.stat k

/-- A start time is read from the line that the process shows at that moment,
if the file system lets it be read. -/
def readStartTime (s : State) (pid : Int) (answer : Except ErrCode Int) : Except ErrCode Int :=
  match answer, s.stat pid with
  | .error ret, _ => .error ret
  | .ok _, none => .error .fileNotExist
  | .ok _, some stat => getProcessStartTime stat.procFiles pid

def registeredOn (m : ProcessMap (Option Int)) (pid startTime : Int) : List Int :=
  (m.toList.filter fun e => e.2.remoteObject = some ⟨pid, startTime⟩).map Prod.fst

def step (s : State) : Event → State
  | .start stat =>
      -- a pid is free again once the notifications of its last process are delivered
      if s.stat stat.pid = none ∧ (∀ n ∈ s.notifications, n.1 ≠ stat.pid) ∧ (stat.pid, stat.startTime) ∉ s.started then
        { s with stat := s.setStat stat.pid (some stat), started := (stat.pid, stat.startTime) :: s.started }
      else s
  | .change stat =>
      if s.startTime stat.pid = some (stat.startTime : Int) then { s with stat := s.setStat stat.pid (some stat) } else s
  | .exit pid =>
      match s.startTime pid with
      | none => s
      | some t => { s with
          stat := s.setStat pid none
          notifications := (registeredOn s.store.processPrivilegeMap pid t).map (fun k => (pid, k)) ++
            s.notifications }
  | .notify pid removed u o =>
      if (pid, removed) ∈ s.notifications then
        { s with
          notifications := s.notifications.erase (pid, removed)
          store := removeProcess u o removed s.store }
      else s
  | .addCache e callerInfo safeStartTime =>
      let create := { e.create with startTime := readStartTime s callerInfo.pid e.create.startTime }
      { s with store := (addCache { e with create := create } callerInfo safeStartTime
          (s.startTime callerInfo.pid) s.store).2 }
  | .addCacheAndNotifyKernel e callerInfo =>
      let create := { e.create with startTime := readStartTime s callerInfo.pid e.create.startTime }
      { s with store := (addCacheAndNotifyKernel { e with create := create } callerInfo
          (s.startTime callerInfo.pid) s.store).2 }
  | .removeSingle u o pid idx => { s with store := (removeSingle u o pid idx s.store).2 }
  | .restart e =>
      -- the recipients die with the service
      let e := { e with getProcessStartTime := fun pid => readStartTime s pid (e.getProcessStartTime pid) }
      { s with notifications := [], store := restart e s.store }

def initial : State := ⟨fun _ => none, [], [], ⟨∅, none⟩⟩

/-- A process exits only while the entry stored under its pid, if any, has its
death recipient on an object of that very process. When the service starts
again, a process shows the start time that is saved under its pid only if it is
the one that the saved records were added for. -/
def Recognized (s : State) : Event → Prop
  | .exit pid => ∀ t p, s.startTime pid = some t → s.store.processPrivilegeMap[pid]? = some p →
      p.remoteObject = some ⟨pid, t⟩
  | .restart _ => ∀ f pid stat p, s.store.file = some f → s.stat pid = some stat → f.processRecords[pid]? = some p →
      getProcessStartTime stat.procFiles pid = .ok p.processStartTime →
      ∀ (idx : Nat) r, p.privilegeRecordMap[idx]? = some r → r.origin = some (stat.startTime : Int)
  | _ => True

/-- The process that a record was added for is still there, or its entry is
about to be removed. -/
def Current (s : State) (p : Holder) (r : PrivilegeRecord (Option Int)) : Prop :=
  (∃ t, s.startTime p.pid = some t ∧ r.origin = some t) ∨ (p.pid, p.pid) ∈ s.notifications

structure Inv (s : State) : Prop where
  records : StoreValid (Current s) (fun _ _ => True) s.store
  notified {pid removed : Int} : (pid, removed) ∈ s.notifications → s.startTime pid = none

theorem initial_inv : Inv initial where
  records := ⟨fun _ _ _ => trivial, valid_empty, fun hf => by cases hf⟩
  notified h := by cases h

theorem mem_registeredOn {m : ProcessMap (Option Int)} {pid t k : Int} :
    k ∈ registeredOn m pid t ↔ ∃ p, m[k]? = some p ∧ p.remoteObject = some ⟨pid, t⟩ := by
  simp [registeredOn, ExtTreeMap.mem_toList_iff_getElem?_eq_some]

theorem readStartTime_ok {s : State} {pid : Int} {answer : Except ErrCode Int} {t : Int}
    (h : readStartTime s pid answer = .ok t) :
    ∃ stat, s.stat pid = some stat ∧ getProcessStartTime stat.procFiles pid = .ok t := by
  unfold readStartTime at h
  split at h
  · cases h
  · cases h
  · rename_i stat hstat
    exact ⟨stat, hstat, h⟩

theorem startTime_of_stat {s : State} {pid : Int} {stat : Stat} (h : s.stat pid = some stat) :
    s.startTime pid = some (stat.startTime : Int) := by
  rw [State.startTime, h]
  rfl

theorem startTime_eq_none {s : State} {pid : Int} : s.startTime pid = none ↔ s.stat pid = none :=
  Option.map_eq_none_iff

theorem startTime_setStat (s : State) (pid : Int) (stat : Option Stat) (k : Int) :
    State.startTime { s with stat := s.setStat pid stat } k =
      if k = pid then stat.map fun stat => (stat.startTime : Int) else s.startTime k := by
  dsimp only [State.startTime, State.setStat]
  split <;> rfl

theorem removeProcess_getElem? (u : Uptime) (o : PersistAnswer) (pid : Int) (s : CacheStore (Option Int)) :
    (removeProcess u o pid s).processPrivilegeMap[pid]? = none := by
  unfold removeProcess
  split
  · rename_i h
    exact h
  · refine Option.eq_none_iff_forall_ne_some.mpr fun p hp => ?_
    obtain ⟨q, hq, -⟩ := (clean_shrinks u o { s with processPrivilegeMap := s.processPrivilegeMap.erase pid }).map hp
    simp at hq

section events

variable {s : State}

theorem start_inv (h : Inv s) (stat : Stat) : Inv (step s (.start stat)) := by
  simp only [step]
  split
  · rename_i hfree
    obtain ⟨hnone, hquiet, -⟩ := hfree
    have hold : ∀ {k : Int}, k ≠ stat.pid →
        State.startTime { s with stat := s.setStat stat.pid (some stat) } k = s.startTime k := fun hk => by
      rw [startTime_setStat, if_neg hk]
    refine ⟨⟨fun _ _ _ => trivial, h.records.map.mono fun p r hr => ?_, h.records.file⟩, fun {k n} hn => ?_⟩
    · rcases hr with ⟨t, ht, horigin⟩ | hn
      · have hk : p.pid ≠ stat.pid := by
          intro hk
          rw [hk, startTime_eq_none.mpr hnone] at ht
          cases ht
        exact .inl ⟨t, (hold hk).trans ht, horigin⟩
      · exact .inr hn
    · exact (hold (hquiet (k, n) hn)).trans (h.notified hn)
  · exact h

theorem change_inv (h : Inv s) (stat : Stat) : Inv (step s (.change stat)) := by
  simp only [step]
  split
  · rename_i hheld
    have hsame : ∀ k, State.startTime { s with stat := s.setStat stat.pid (some stat) } k = s.startTime k := by
      intro k
      rw [startTime_setStat]
      split
      · rename_i hk
        rw [hk, hheld]
        rfl
      · rfl
    refine ⟨⟨fun _ _ _ => trivial, h.records.map.mono fun p r hr => ?_, h.records.file⟩, fun {k n} hn => ?_⟩
    · rcases hr with ⟨t, ht, horigin⟩ | hn
      · exact .inl ⟨t, (hsame p.pid).trans ht, horigin⟩
      · exact .inr hn
    · exact (hsame k).trans (h.notified hn)
  · exact h

theorem exit_inv (h : Inv s) (pid : Int) (hc : Recognized s (.exit pid)) : Inv (step s (.exit pid)) := by
  simp only [step]
  split
  · exact h
  · rename_i t ht
    refine ⟨⟨fun _ _ _ => trivial, ⟨h.records.map.wellFormed, fun {k p idx r} hp hr => ?_⟩, h.records.file⟩,
      fun {k n} hn => ?_⟩
    · have hk : p.pid = k := h.records.map.wellFormed.pid hp
      by_cases hkp : k = pid
      · -- the entry of the process that exits is removed by its own notification
        refine .inr (List.mem_append_left _ (List.mem_map.mpr ⟨k, ?_, by simp [holder, hk, hkp]⟩))
        rw [hkp] at hp ⊢
        exact mem_registeredOn.mpr ⟨p, hp, hc t p ht hp⟩
      · rcases h.records.map.records hp hr with ⟨t', ht', horigin⟩ | hn
        · refine .inl ⟨t', ?_, horigin⟩
          have hne : (holder p).pid ≠ pid := by
            rw [← hk] at hkp
            exact hkp
          change State.startTime { s with stat := s.setStat pid none } (holder p).pid = some t'
          rw [startTime_setStat, if_neg hne, ht']
        · exact .inr (List.mem_append_right _ hn)
    · change State.startTime { s with stat := s.setStat pid none } k = none
      rw [startTime_setStat]
      split
      · rfl
      · rename_i hkp
        rcases List.mem_append.mp hn with hn | hn
        · obtain ⟨j, -, hj⟩ := List.mem_map.mp hn
          cases hj
          exact absurd rfl hkp
        · exact h.notified hn

theorem notify_inv (h : Inv s) (pid removed : Int) (u : Uptime) (o : PersistAnswer) :
    Inv (step s (.notify pid removed u o)) := by
  simp only [step]
  split
  · have hstore := h.records.of_shrinks (removeProcess_shrinks u o removed s.store)
    refine ⟨⟨fun _ _ _ => trivial, ⟨hstore.map.wellFormed, fun {k p idx r} hp hr => ?_⟩, hstore.file⟩,
      fun hn => h.notified (List.mem_of_mem_erase hn)⟩
    rcases hstore.map.records hp hr with hst | hn
    · exact .inl hst
    · refine .inr ((List.mem_erase_of_ne ?_).mpr hn)
      have hk : p.pid = k := hstore.map.wellFormed.pid hp
      rintro heq
      have hrem : k = removed := by
        rw [← hk]
        exact congrArg Prod.snd heq
      rw [hrem, removeProcess_getElem?] at hp
      cases hp
  · exact h

theorem added_current (h : Inv s) {create : ProcessPrivilegeRecord.CreateAnswer} {callerInfo : AuthenCallerInfo}
    {p : ProcessPrivilegeRecord (Option Int)} {r : PrivilegeRecord (Option Int)}
    (hp : findOrCreate { create with startTime := readStartTime s callerInfo.pid create.startTime } callerInfo
      s.store.processPrivilegeMap = .ok p) (hr : r.origin = s.startTime callerInfo.pid) : Current s (holder p) r := by
  have hpid : p.pid = callerInfo.pid := findOrCreate_pid h.records.map.wellFormed hp
  rw [← hpid] at hr
  rcases findOrCreate_ok hp with hp | ⟨-, -, -, hst, -⟩
  · -- any record of the stored entry knows the process
    obtain ⟨idx, r', hr'⟩ : ∃ (idx : Nat) (r' : PrivilegeRecord (Option Int)),
        p.privilegeRecordMap[idx]? = some r' := by
      by_contra hnone
      refine h.records.map.wellFormed.nonempty hp (p.getPrivilegeNum_eq_zero.mpr fun idx => ?_)
      by_contra hne
      exact hnone ⟨idx, Option.ne_none_iff_exists'.mp hne⟩
    rcases h.records.map.records hp hr' with ⟨t, ht, -⟩ | hn
    · exact .inl ⟨t, ht, hr.trans ht⟩
    · exact .inr hn
  · obtain ⟨stat, hstat, -⟩ := readStartTime_ok hst
    have ht : s.startTime p.pid = some (stat.startTime : Int) := by
      rw [hpid]
      exact startTime_of_stat hstat
    exact .inl ⟨_, ht, hr.trans ht⟩

theorem restart_inv (h : Inv s) (e : LoadAnswer) (hc : Recognized s (.restart e)) : Inv (step s (.restart e)) := by
  have hv := valid_restart h.records
    { e with getProcessStartTime := fun pid => readStartTime s pid (e.getProcessStartTime pid) }
  refine ⟨⟨fun _ _ _ => trivial, ⟨hv.wellFormed, fun {k p idx r} hp hr => .inl ?_⟩,
    fun hf => h.records.file (restart_file hf)⟩, fun hn => by cases hn⟩
  obtain ⟨t, f, p', hf, -, hp', hload⟩ := getElem?_restart.mp hp
  obtain ⟨-, hst, -, rfl, -⟩ := loadProcess_eq_some.mp hload
  have hk : p'.pid = k := (h.records.file hf).wellFormed.pid hp'
  obtain ⟨stat, hstat, hread⟩ := readStartTime_ok hst
  rw [ProcessPrivilegeRecord.getElem?_cleanCurrentExpiredPrivileges] at hr
  refine ⟨stat.startTime, startTime_of_stat hstat, ?_⟩
  rw [← hk] at hp'
  exact hc f p'.pid stat p' hf hstat hp' hread idx r hr.1

end events

theorem step_inv (s : State) (ev : Event) (h : Inv s) (hc : Recognized s ev) : Inv (step s ev) := by
  cases ev with
  | start stat => exact start_inv h stat
  | change stat => exact change_inv h stat
  | exit pid => exact exit_inv h pid hc
  | notify pid removed u o => exact notify_inv h pid removed u o
  | addCache e callerInfo safeStartTime =>
      exact ⟨storeValid_addCache h.records safeStartTime fun p t hp => added_current h hp rfl, h.notified⟩
  | addCacheAndNotifyKernel e callerInfo =>
      exact ⟨storeValid_addCacheAndNotifyKernel h.records
        (fun p hp => added_current h hp rfl) (fun _ hs => hs)
        (fun _ _ _ _ _ _ _ hr _ => hr), h.notified⟩
  | removeSingle u o pid idx => exact ⟨storeValid_removeSingle h.records u o pid idx, h.notified⟩
  | restart e => exact restart_inv h e hc

def GrantedFromCache (s : State) (u : Uptime) (tee : Nat → Nat → PrivilegeRecord.TimestampAnswer) (pid : Int)
    (idx : Nat) (r : PrivilegeRecord (Option Int)) : Prop :=
  ∃ p remain, s.store.processPrivilegeMap[pid]? = some p ∧ p.checkPrivilege u tee idx = .ok remain ∧
    p.getPrivilegeRecord idx = some r

/-- As long as every exit of a process that has an entry is noticed by that
entry, and no process passes for the one that was saved under its pid, a grant
from the cache is one that was added for the process that holds the pid. -/
theorem granted_process_unchanged (events : List Event) (h : Meets step Recognized initial events)
    (u : Uptime) (tee : Nat → Nat → PrivilegeRecord.TimestampAnswer) (pid : Int) (idx : Nat)
    (r : PrivilegeRecord (Option Int)) (t : Int) :
    let s := run step initial events
    GrantedFromCache s u tee pid idx r → s.startTime pid = some t → r.origin = some t := by
  rintro s ⟨p, remain, hp, -, hr⟩ ht
  have hinv : Inv s := run_invariant_of_meets step_inv initial_inv h
  have hpid : p.pid = pid := hinv.records.map.wellFormed.pid hp
  rcases hinv.records.map.records hp hr with ⟨t', ht', horigin⟩ | hn
  · simp only [holder, hpid, ht] at ht'
    rw [horigin, ← ht']
  · have hnone := hinv.notified hn
    simp only [holder, hpid, ht] at hnone
    cases hnone

def shell (t : Nat) (ht : t < 2 ^ 64) : Stat := process 7 "sh".toList (by decide) t ht

def startAndAdd (stat : Stat) : List Event :=
  [.start stat, .addCache ⟨⟨.ok 0, .ok (), true⟩, .ok 1000, .ok 1000, .allOk⟩
    ⟨7, 20010001, 1, some (some ⟨7, stat.startTime⟩)⟩ 42]

def noTimestamp : Nat → Nat → PrivilegeRecord.TimestampAnswer := fun _ _ => ⟨.ok (), 0, false⟩

def serviceRestarts : Event := .restart ⟨.ok 2000, true, true, true, fun _ => .ok 0, fun _ => .ok ()⟩

def noticedExit : List Event :=
  startAndAdd (shell 500 (by decide)) ++ [.exit 7, .notify 7 7 (.ok 1500) .allOk] ++ startAndAdd (shell 900 (by decide))

theorem granted_process_unchanged_noticed :
    ∃ r, GrantedFromCache (run step initial noticedExit) (.ok 3000) noTimestamp 7 1 r ∧ r.origin = some 900 := by
  have hmeets : Meets step Recognized initial noticedExit := by
    refine ⟨trivial, trivial, fun t p ht hp => ?_, trivial, trivial, trivial, trivial⟩
    have hstart : (run step initial (startAndAdd (shell 500 (by decide)))).startTime 7 = some 500 := by decide +kernel
    have hentry : (run step initial (startAndAdd (shell 500 (by decide)))).store.processPrivilegeMap[(7 : Int)]? =
        some ⟨7, 20010001, 500, some ⟨7, 500⟩,
          (∅ : RecordMap (Option Int)).insert 1 ⟨1, 301000, 42, .notRequired, some 500⟩⟩ := by decide +kernel
    obtain rfl : 500 = t := Option.some.inj (hstart.symm.trans ht)
    rw [← Option.some.inj (hentry.symm.trans hp)]
  have hgrant : GrantedFromCache (run step initial noticedExit) (.ok 3000) noTimestamp 7 1
      ⟨1, 301000, 42, .notRequired, some 900⟩ :=
    ⟨⟨7, 20010001, 900, some ⟨7, 900⟩,
      (∅ : RecordMap (Option Int)).insert 1 ⟨1, 301000, 42, .notRequired, some 900⟩⟩, 298,
      by decide +kernel, by decide +kernel, by decide +kernel⟩
  exact ⟨_, hgrant, granted_process_unchanged noticedExit hmeets
    (.ok 3000) noTimestamp 7 1 _ 900 hgrant (by decide +kernel)⟩

/-- The service restarts before the process exits: the reloaded entry has no
death recipient. -/
def restartThenExit : List Event :=
  startAndAdd (shell 500 (by decide)) ++ [serviceRestarts, .exit 7, .start (shell 900 (by decide))]

theorem reused_pid_keeps_grant :
    (run step initial restartThenExit).startTime 7 = some 900 ∧
      GrantedFromCache (run step initial restartThenExit) (.ok 3000) noTimestamp 7 1
        ⟨1, 301000, 42, .notRequired, some 500⟩ :=
  ⟨by decide +kernel, ⟨7, 20010001, 500, none,
    (∅ : RecordMap (Option Int)).insert 1 ⟨1, 301000, 42, .notRequired, some 500⟩⟩, 298,
    by decide +kernel, by decide +kernel, by decide +kernel⟩

/-- Both processes are named by a parenthesis, so that both show the start time
0. The first one is dead when the service starts again, so that its removal is
lost, and the second one passes for it at the next start. -/
def namedAlike : List Event :=
  startAndAdd (parenthesis 7 500 (by decide)) ++
    [.exit 7, serviceRestarts, .start (parenthesis 7 900 (by decide)), serviceRestarts]

theorem namesake_keeps_grant :
    (run step initial namedAlike).startTime 7 = some 900 ∧
      GrantedFromCache (run step initial namedAlike) (.ok 3000) noTimestamp 7 1
        ⟨1, 301000, 42, .notRequired, some 500⟩ :=
  ⟨by decide +kernel, ⟨7, 20010001, 0, none,
    (∅ : RecordMap (Option Int)).insert 1 ⟨1, 301000, 42, .notRequired, some 500⟩⟩, 298,
    by decide +kernel, by decide +kernel, by decide +kernel⟩

end OsAccount.PidReuse
