import OsAccount.Machine
import OsAccount.PrivilegeUpdate

namespace OsAccount.AccountRemoval

open Std OrderedMap PrivilegeTable PrivilegeRecords PrivilegeCache PrivilegeCacheParts PrivilegeCacheRemoval
  PrivilegeCacheRestart PrivilegeCacheInvariant PrivilegeUpdate Machine

/-- The requests that are open, by the pid they are for, and the cache. Every
record remembers the uid of the process that asked for it. -/
structure State where
  connectInfo : ExtTreeMap Int ConnectAbilityInfo compare
  requestRemoteObject : ExtTreeMap Int RemoteObject compare
  store : CacheStore Int

inductive Op
  | ask (info : ConnectAbilityInfo) (requestRemoteObj : RemoteObject)
  | report (e : UpdateAnswer) (widgetUid : Int) (pid : Int) (grantTime : Nat)
  | finish (pid : Int)
  | removeSingle (u : Uptime) (o : PersistAnswer) (pid : Int) (idx : Nat)
  | removeUser (u : Uptime) (o : PersistAnswer) (localId : Int)
  | removeProcess (u : Uptime) (o : PersistAnswer) (pid : Int)
  | cleanExpired (u : Uptime) (o : PersistAnswer)
  | restart (e : LoadAnswer)

def step (s : State) : Op → State
  | .ask info requestRemoteObj =>
      if info.callingPid ∈ s.connectInfo then s
      else { s with
        connectInfo := s.connectInfo.insert info.callingPid info
        requestRemoteObject := s.requestRemoteObject.insert info.callingPid requestRemoteObj }
  | .report e widgetUid pid grantTime =>
      match s.connectInfo[pid]? with
      | none => s
      | some info => { s with
          requestRemoteObject := s.requestRemoteObject.erase info.callingPid
          store := (updatePrivilegeCache e widgetUid info s.requestRemoteObject[info.callingPid]? grantTime
            info.callingUid s.store).2 }
  | .finish pid => { s with
      connectInfo := s.connectInfo.erase pid
      requestRemoteObject := s.requestRemoteObject.erase pid }
  | .removeSingle u o pid idx => { s with store := (removeSingle u o pid idx s.store).2 }
  | .removeUser u o localId => { s with store := removeUser u o localId s.store }
  | .removeProcess u o pid => { s with store := removeProcess u o pid s.store }
  | .cleanExpired u o => { s with store := (cleanExpiredPrivilegesAndSaveToFile u o s.store).2 }
  | .restart e => ⟨∅, ∅, restart e s.store⟩

def initial : State := ⟨∅, ∅, ⟨∅, none⟩⟩

def localIdOf (uid : Int) : Int := uid.tdiv uidTransformDivisor

/-- The uid a grant for `pid` is stored under when the process with uid
`widgetUid` reports it: an entry keeps the uid it was made with. -/
def storedUid (m : ProcessMap Int) (widgetUid pid : Int) : Int :=
  match m[pid]? with
  | none => widgetUid
  | some p => p.uid

def SameAccount (s : State) : Op → Prop
  | .report _ widgetUid pid _ => ∀ info, s.connectInfo[pid]? = some info →
      localIdOf (storedUid s.store.processPrivilegeMap widgetUid info.callingPid) = localIdOf info.callingUid
  | _ => True

def OfAccount (p : Holder) (r : PrivilegeRecord Int) : Prop := localIdOf p.uid = localIdOf r.origin

def Inv (s : State) : Prop := StoreValid OfAccount OfAccount s.store

theorem step_inv (s : State) (op : Op) (h : Inv s) (hop : SameAccount s op) : Inv (step s op) := by
  cases op with
  | ask info requestRemoteObj =>
      simp only [step]
      split <;> exact h
  | report e widgetUid pid grantTime =>
      simp only [step]
      split
      · exact h
      · rename_i info hinfo
        have hsame := hop info hinfo
        refine storeValid_updatePrivilegeCache (P := fun p uid => localIdOf p.uid = localIdOf uid) h ?_
        intro create code p hp
        rw [← hsame]
        rcases findOrCreate_ok hp with hp | ⟨hp, -, huid, -⟩
        · simp [storedUid, hp, holder]
        · simp [storedUid, hp, holder, huid]
  | finish pid => exact h
  | removeSingle u o pid idx => exact storeValid_removeSingle h u o pid idx
  | removeUser u o localId => exact h.of_shrinks (removeUser_shrinks u o localId _)
  | removeProcess u o pid => exact h.of_shrinks (removeProcess_shrinks u o pid _)
  | cleanExpired u o => exact storeValid_clean h u o
  | restart e => exact storeValid_restart h e

theorem initial_inv : Inv initial := ⟨fun _ _ => id, valid_empty, fun hf => by cases hf⟩

theorem recordOf_removeUser {u : Uptime} {o : PersistAnswer} {localId : Int} {s : CacheStore Int} {pid : Int}
    {idx : Nat} {r : PrivilegeRecord Int} :
    recordOf (removeUser u o localId s).processPrivilegeMap pid idx = some r ↔
      ∃ p, s.processPrivilegeMap[pid]? = some p ∧ p.privilegeRecordMap[idx]? = some r ∧
        localIdOf p.uid ≠ localId ∧ ¬Expired u r := by
  have hsweep : ∀ r, recordOf (sweep (fun _ p => if p.getProcessLocalId = localId then none else some p)
      s.processPrivilegeMap) pid idx = some r ↔
        ∃ p, s.processPrivilegeMap[pid]? = some p ∧ p.privilegeRecordMap[idx]? = some r ∧
          localIdOf p.uid ≠ localId := by
    intro r
    simp only [recordOf_eq_some, getElem?_sweep, Option.bind_eq_some_iff, Option.ite_none_left_eq_some,
      Option.some.injEq]
    constructor
    · rintro ⟨p, ⟨p', hp', hl, rfl⟩, hr⟩
      exact ⟨p', hp', hr, hl⟩
    · rintro ⟨p, hp, hr, hl⟩
      exact ⟨p, ⟨p, hp, hl, rfl⟩, hr⟩
  unfold removeUser cleanExpiredPrivilegesAndSaveToFile
  cases u with
  | error ret =>
      rw [hsweep]
      simp [Expired]
  | ok t =>
      simp only [toPersistFile_map]
      rw [recordOf_cleanExpired, hsweep]
      have hexp : ¬Expired (.ok t) r ↔ r.needClean t = false := by
        simp [Expired]
      rw [hexp]
      constructor
      · rintro ⟨⟨p, hp, hr, hl⟩, hc⟩
        exact ⟨p, hp, hr, hl, hc⟩
      · rintro ⟨p, hp, hr, hl, hc⟩
        exact ⟨⟨p, hp, hr, hl⟩, hc⟩

/-- If every report is stored under the account of the process that asked,
removing an account revokes the grants of that account and no others. -/
theorem removeUser_revokes_account (ops : List Op) (h : Meets step SameAccount initial ops) (u : Uptime)
    (o : PersistAnswer) (localId : Int) :
    let s := (run step initial ops).store
    let s' := removeUser u o localId s
    (∀ pid idx r, recordOf s'.processPrivilegeMap pid idx = some r → localIdOf r.origin ≠ localId) ∧
    (∀ pid idx r, recordOf s.processPrivilegeMap pid idx = some r → localIdOf r.origin ≠ localId →
      ¬Expired u r → recordOf s'.processPrivilegeMap pid idx = some r) := by
  have hinv : Inv (run step initial ops) := run_invariant_of_meets step_inv initial_inv h
  refine ⟨fun pid idx r hr => ?_, fun pid idx r hr hl hn => ?_⟩
  · obtain ⟨p, hp, hrp, hl, -⟩ := recordOf_removeUser.mp hr
    rw [← (hinv.map.records hp hrp : localIdOf p.uid = _)]
    exact hl
  · obtain ⟨p, hp, hrp⟩ := recordOf_eq_some.mp hr
    refine recordOf_removeUser.mpr ⟨p, hp, hrp, ?_, hn⟩
    rw [← (hinv.map.records hp hrp : localIdOf p.uid = _)] at hl
    exact hl

def askKillProcess : ConnectAbilityInfo :=
  ⟨"ohos.privilege.kill_process", "Kill process across users", 300, "widget", [], 20010001, 7, "", "s1"⟩

def allOkAnswer : UpdateAnswer where
  add := ⟨⟨.ok 500, .ok (), true⟩, .ok 1000, .ok 1000, .allOk⟩
  kernel := ⟨⟨.ok 500, .ok (), true⟩, .ok 1000, .allOk, .ok (), .allOk, .ok 1000, .allOk⟩

def flow (widgetUid : Int) : List Op :=
  [.ask askKillProcess ⟨7, 500⟩, .report allOkAnswer widgetUid 7 42]

theorem removeUser_revokes_account_flow :
    recordOf (removeUser (.ok 2000) .allOk 100 (run step initial (flow 20010002)).store).processPrivilegeMap 7 1 =
      none := by
  have h : Meets step SameAccount initial (flow 20010002) := by
    refine ⟨trivial, fun info hinfo => ?_, trivial⟩
    have hask : (step initial (.ask askKillProcess ⟨7, 500⟩)).connectInfo[(7 : Int)]? =
        some askKillProcess := by
      decide
    obtain rfl : askKillProcess = info := by simpa [hask] using hinfo
    decide
  have hrevoked := (removeUser_revokes_account (flow 20010002) h (.ok 2000) .allOk 100).1 7 1
  refine Option.eq_none_iff_forall_ne_some.mpr fun r hr => hrevoked r hr ?_
  have hstored : recordOf (run step initial (flow 20010002)).store.processPrivilegeMap 7 1 =
      some ⟨1, 301000, 42, .notRequired, 20010001⟩ := by decide
  obtain ⟨p, hp, hrp, -⟩ := recordOf_removeUser.mp hr
  rw [recordOf_eq_some.mpr ⟨p, hp, hrp⟩, Option.some.injEq] at hstored
  rw [hstored]
  decide

/-- A report from a process of the system account leaves a grant of account
100 in the cache when that account is removed. -/
theorem removeUser_leaves_grant :
    recordOf (removeUser (.ok 2000) .allOk 100 (run step initial (flow 1088)).store).processPrivilegeMap 7 1 =
      some ⟨1, 301000, 42, .notRequired, 20010001⟩ ∧ localIdOf 20010001 = 100 := by
  decide

end OsAccount.AccountRemoval
