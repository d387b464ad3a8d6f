import OsAccount.OrderedMap
import OsAccount.ErrCode
import OsAccount.PrivilegeTable
import Mathlib.Algebra.Group.Nat.Defs
import Mathlib.Algebra.Ring.Int.Defs

namespace OsAccount.PrivilegeRecords

open Std OrderedMap PrivilegeTable

inductive PrivilegeAuthStatus
  | notRequired
  | unconfirmed
  | authorized
deriving DecidableEq, Repr

/-- One cached grant. The field `origin` is never read by the code: it carries
what a statement wants to remember about the call that stored the record. -/
structure PrivilegeRecord (γ : Type) where
  privilegeIdx : Nat
  expiredTime : Int
  safeStartTime : Nat
  authStatus : PrivilegeAuthStatus
  origin : γ
deriving DecidableEq, Repr

structure RemoteObject where
  hostPid : Int
  hostStartTime : Int
deriving DecidableEq, Repr

abbrev RecordMap (γ : Type) := ExtTreeMap Nat (PrivilegeRecord γ) compare

structure ProcessPrivilegeRecord (γ : Type) where
  pid : Int
  uid : Int
  processStartTime : Int
  remoteObject : Option RemoteObject
  privilegeRecordMap : RecordMap γ
deriving DecidableEq

structure AuthenCallerInfo where
  pid : Int
  uid : Int
  privilegeIdx : Nat
  remoteObject : Option (Option RemoteObject)
deriving DecidableEq, Repr

abbrev Uptime := Except ErrCode Int

def expiredTimeOffset : Nat := 2

def uidTransformDivisor : Int := 200000

def milliSecondsPerSecond : Nat := 1000

def addTimePeriod (bootTimeStampMs : Int) (period : Nat) : Int :=
  bootTimeStampMs + ((period * milliSecondsPerSecond) % 2 ^ 32 : Nat)

def decTimePeriod (bootTimeStampMs : Int) (period : Nat) : Int :=
  bootTimeStampMs - ((period * milliSecondsPerSecond) % 2 ^ 32 : Nat)

def int32Max : Int := 2 ^ 31 - 1

def int64Max : Int := 2 ^ 63 - 1

def toInt32 (n : Int) : Int := n.bmod (2 ^ 32)

variable {γ : Type}

namespace PrivilegeRecord

structure TimestampAnswer where
  ret : Ret
  remainTimeSec : Int
  isValid : Bool
deriving DecidableEq, Repr

def getRemainTimeSec (checkTimestampExpired : Nat → Nat → TimestampAnswer) (r : PrivilegeRecord γ)
    (currentTimeStamp : Int) : Except ErrCode Int :=
  if currentTimeStamp < decTimePeriod r.expiredTime expiredTimeOffset then
    .ok (toInt32 ((r.expiredTime - currentTimeStamp).tdiv milliSecondsPerSecond))
  else if currentTimeStamp ≤ addTimePeriod r.expiredTime expiredTimeOffset then
    -- within two seconds of the expiry the secure clock decides
    let timeout := ((getPrivilegeBriefDef r.privilegeIdx).map PrivilegeBriefDef.timeout).getD 0
    let answer := checkTimestampExpired r.safeStartTime timeout
    match answer.ret with
    | .error ret => .error ret
    | .ok () => .ok (if answer.isValid then answer.remainTimeSec else 0)
  else .ok 0

def needClean (r : PrivilegeRecord γ) (currentTimeStamp : Int) : Bool :=
  if r.authStatus ≠ .notRequired then false
  else !(currentTimeStamp ≤ addTimePeriod r.expiredTime expiredTimeOffset)

/-- Only a record that needs no kernel grant is ever cleaned, and it stays
due for cleaning once it is. -/
theorem needClean_mono {r : PrivilegeRecord γ} {t u : Int} (h : r.needClean t = true) (htu : t ≤ u) :
    r.needClean u = true := by
  unfold needClean at *
  split at h
  · cases h
  · rename_i hs
    simp only [hs, if_false, Bool.not_eq_true', decide_eq_false_iff_not, Int.not_le] at h ⊢
    omega

end PrivilegeRecord

namespace ProcessPrivilegeRecord

structure CreateAnswer where
  startTime : Except ErrCode Int
  openPidFd : Ret
  addDeathRecipient : Bool
deriving Repr

def createEmpty (e : CreateAnswer) (callerInfo : AuthenCallerInfo) :
    Except ErrCode (ProcessPrivilegeRecord γ) :=
  match callerInfo.remoteObject with
  | none | some none => .error .nullPtrError
  | some (some remoteObject) =>
      match e.startTime, e.openPidFd with
      | .error ret, _ => .error ret
      | .ok _, .error ret => .error ret
      | .ok startTime, .ok () =>
          if e.addDeathRecipient then .ok ⟨callerInfo.pid, callerInfo.uid, startTime, some remoteObject, ∅⟩
          else .error .addDeathRecipient

def getPrivilegeNum (p : ProcessPrivilegeRecord γ) : Nat := p.privilegeRecordMap.size

def getProcessLocalId (p : ProcessPrivilegeRecord γ) : Int := p.uid.tdiv uidTransformDivisor

def getPrivilegeRecord (p : ProcessPrivilegeRecord γ) (privilegeIdx : Nat) : Option (PrivilegeRecord γ) :=
  p.privilegeRecordMap[privilegeIdx]?

def setPrivilegeRecord (p : ProcessPrivilegeRecord γ) (privilegeIdx : Nat) (r : PrivilegeRecord γ) :
    ProcessPrivilegeRecord γ :=
  { p with privilegeRecordMap := p.privilegeRecordMap.insert privilegeIdx r }

def removePrivilege (p : ProcessPrivilegeRecord γ) (privilegeIdx : Nat) : ProcessPrivilegeRecord γ :=
  { p with privilegeRecordMap := p.privilegeRecordMap.erase privilegeIdx }

def rollbackPrivilege (p : ProcessPrivilegeRecord γ) (removedRecord : PrivilegeRecord γ) :
    ProcessPrivilegeRecord γ :=
  p.setPrivilegeRecord removedRecord.privilegeIdx removedRecord

def cleanCurrentExpiredPrivileges (p : ProcessPrivilegeRecord γ) (currentTimeStamp : Int) :
    ProcessPrivilegeRecord γ :=
  { p with privilegeRecordMap :=
      sweep (fun _ r => if r.needClean currentTimeStamp then none else some r) p.privilegeRecordMap }

def timedRecord (privilegeIdx : Nat) (currTime : Int) (safeStartTime : Nat) (origin : γ) : PrivilegeRecord γ :=
  let timeout := ((getPrivilegeBriefDef privilegeIdx).map PrivilegeBriefDef.timeout).getD 0
  ⟨privilegeIdx, addTimePeriod currTime timeout, safeStartTime, .notRequired, origin⟩

def addOrUpdatePrivilege (u : Uptime) (p : ProcessPrivilegeRecord γ) (privilegeIdx safeStartTime : Nat)
    (origin : γ) : Except ErrCode (ProcessPrivilegeRecord γ) :=
  match u with
  | .error ret => .error ret
  | .ok currTime => .ok (p.setPrivilegeRecord privilegeIdx (timedRecord privilegeIdx currTime safeStartTime origin))

def checkPrivilege (u : Uptime) (tee : Nat → Nat → PrivilegeRecord.TimestampAnswer)
    (p : ProcessPrivilegeRecord γ) (privilegeIdx : Nat) : Except ErrCode Int :=
  match u with
  | .error ret => .error ret
  | .ok currTime =>
      match p.getPrivilegeRecord privilegeIdx with
      | none => .error .privilegeDenied
      | some r =>
          match r.authStatus with
          | .authorized => .ok int32Max
          | .unconfirmed => .error .privilegeDenied
          | .notRequired =>
              match r.getRemainTimeSec tee currTime with
              | .error ret => .error ret
              | .ok remainTime => if remainTime = 0 then .error .privilegeDenied else .ok remainTime

theorem getPrivilegeNum_eq_zero (p : ProcessPrivilegeRecord γ) :
    p.getPrivilegeNum = 0 ↔ ∀ idx : Nat, p.privilegeRecordMap[idx]? = none := by
  rw [← isEmpty_iff_getElem?, ExtTreeMap.isEmpty_eq_size_beq_zero]
  simp [getPrivilegeNum]

theorem getElem?_cleanCurrentExpiredPrivileges (p : ProcessPrivilegeRecord γ) (t : Int) (idx : Nat)
    (r : PrivilegeRecord γ) :
    (p.cleanCurrentExpiredPrivileges t).privilegeRecordMap[idx]? = some r ↔
      p.privilegeRecordMap[idx]? = some r ∧ r.needClean t = false := by
  simp only [cleanCurrentExpiredPrivileges, getElem?_sweep, Option.bind_eq_some_iff,
    Option.ite_none_left_eq_some, Bool.not_eq_true, Option.some.injEq]
  constructor
  · rintro ⟨a, ha, hc, rfl⟩
    exact ⟨ha, hc⟩
  · rintro ⟨ha, hc⟩
    exact ⟨r, ha, hc, rfl⟩

/-- A grant is reported only for a record that is stored and not awaiting the
kernel. -/
theorem checkPrivilege_ok {u : Uptime} {tee : Nat → Nat → PrivilegeRecord.TimestampAnswer}
    {p : ProcessPrivilegeRecord γ} {idx : Nat} {remain : Int}
    (h : p.checkPrivilege u tee idx = .ok remain) :
    ∃ r, p.privilegeRecordMap[idx]? = some r ∧ r.authStatus ≠ .unconfirmed := by
  cases u with
  | error ret => simp [checkPrivilege] at h
  | ok t =>
      cases hr : p.privilegeRecordMap[idx]? with
      | none => simp [checkPrivilege, getPrivilegeRecord, hr] at h
      | some r =>
          refine ⟨r, rfl, fun hs => ?_⟩
          simp [checkPrivilege, getPrivilegeRecord, hr, hs] at h

end ProcessPrivilegeRecord

end OsAccount.PrivilegeRecords
