import OsAccount.PrivilegeRecords

namespace OsAccount.PrivilegeCache

open Std OrderedMap PrivilegeTable PrivilegeRecords

variable {γ : Type}

abbrev ProcessMap (γ : Type) := ExtTreeMap Int (ProcessPrivilegeRecord γ) compare

/-- What the cache file says: the clock reading stored with it and the process
records it lists. Its text is the subject of `PrivilegeCacheText`. -/
structure Snapshot (γ : Type) where
  updateTime : Int
  processRecords : ProcessMap γ
deriving DecidableEq

structure CacheStore (γ : Type) where
  processPrivilegeMap : ProcessMap γ
  file : Option (Snapshot γ)
deriving DecidableEq

structure PersistAnswer where
  mapToJsonString : Bool
  generateDigest : Ret
  toJsonString : Bool
  writeFile : Ret
  deleteFile : Bool
deriving DecidableEq, Repr

def PersistAnswer.allOk : PersistAnswer := ⟨true, .ok (), true, .ok (), true⟩

def PersistAnswer.result (o : PersistAnswer) : Ret := do
  if !o.mapToJsonString then throw .dumpJsonError
  o.generateDigest
  if !o.toJsonString then throw .dumpJsonError
  o.writeFile

/-- The part of a process record that is written: records without any
privilege are skipped, and the remote object is not stored. -/
def persisted (m : ProcessMap γ) : ProcessMap γ :=
  sweep (fun _ p => if p.getPrivilegeNum = 0 then none else some { p with remoteObject := none }) m

def toPersistFile (o : PersistAnswer) (currTime : Int) (s : CacheStore γ) : Ret × CacheStore γ :=
  if s.processPrivilegeMap.isEmpty then
    -- the outcome of the deletion is ignored
    (.ok (), { s with file := if o.deleteFile then none else s.file })
  else match o.result with
    | .error ret => (.error ret, s)
    | .ok () => (.ok (), { s with file := some ⟨currTime, persisted s.processPrivilegeMap⟩ })

/-- Drop the expired privileges of every process, then the processes that are
left without any. -/
def cleanExpired (currTime : Int) (m : ProcessMap γ) : ProcessMap γ :=
  sweep (fun _ p =>
    let p := p.cleanCurrentExpiredPrivileges currTime
    if p.getPrivilegeNum = 0 then none else some p) m

def cleanExpiredPrivilegesAndSaveToFile (u : Uptime) (o : PersistAnswer) (s : CacheStore γ) :
    Ret × CacheStore γ :=
  match u with
  | .error ret => (.error ret, s)
  | .ok currTime =>
      toPersistFile o currTime { s with processPrivilegeMap := cleanExpired currTime s.processPrivilegeMap }

/-- The process record the caller holds is the object stored in the map when
it is still there. -/
def rollbackDelSingleRecord (processRecord : ProcessPrivilegeRecord γ)
    (removedRecord : Option (PrivilegeRecord γ)) (m : ProcessMap γ) : ProcessMap γ :=
  match removedRecord with
  | none => m
  | some removedRecord =>
      m.insert processRecord.pid ((m[processRecord.pid]?.getD processRecord).rollbackPrivilege removedRecord)

/-- The clean-up inside the save also runs on the record object the caller
holds, if the clock could be read. -/
def sharedAfterClean (u : Uptime) (p : ProcessPrivilegeRecord γ) : ProcessPrivilegeRecord γ :=
  match u with
  | .error _ => p
  | .ok currTime => p.cleanCurrentExpiredPrivileges currTime

def withoutRecord (processRecord : ProcessPrivilegeRecord γ) (pid : Int) (privilegeIdx : Nat)
    (m : ProcessMap γ) : ProcessMap γ :=
  if (processRecord.removePrivilege privilegeIdx).getPrivilegeNum = 0 then m.erase pid
  else m.insert pid (processRecord.removePrivilege privilegeIdx)

def removeSingle (u : Uptime) (o : PersistAnswer) (pid : Int) (privilegeIdx : Nat) (s : CacheStore γ) :
    Ret × CacheStore γ :=
  match s.processPrivilegeMap[pid]? with
  | none => (.ok (), s)
  | some processRecord =>
      let removedRecord := processRecord.getPrivilegeRecord privilegeIdx
      let m := withoutRecord processRecord pid privilegeIdx s.processPrivilegeMap
      match cleanExpiredPrivilegesAndSaveToFile u o { s with processPrivilegeMap := m } with
      | (.ok (), s) => (.ok (), s)
      | (.error ret, s) =>
          let processRecord := sharedAfterClean u (processRecord.removePrivilege privilegeIdx)
          let m := rollbackDelSingleRecord processRecord removedRecord s.processPrivilegeMap
          (.error ret, { s with processPrivilegeMap := m })

def findOrCreate (e : ProcessPrivilegeRecord.CreateAnswer) (callerInfo : AuthenCallerInfo)
    (m : ProcessMap γ) : Except ErrCode (ProcessPrivilegeRecord γ) :=
  match m[callerInfo.pid]? with
  | none => ProcessPrivilegeRecord.createEmpty e callerInfo
  | some p => .ok p

structure AddAnswer where
  create : ProcessPrivilegeRecord.CreateAnswer
  uptime : Uptime
  saveUptime : Uptime
  save : PersistAnswer

def addCache (e : AddAnswer) (callerInfo : AuthenCallerInfo) (safeStartTime : Nat) (origin : γ)
    (s : CacheStore γ) : Ret × CacheStore γ :=
  match findOrCreate e.create callerInfo s.processPrivilegeMap with
  | .error ret => (.error ret, s)
  | .ok p =>
      match p.addOrUpdatePrivilege e.uptime callerInfo.privilegeIdx safeStartTime origin with
      | .error ret => (.error ret, s)
      | .ok p =>
          let s := { s with processPrivilegeMap := s.processPrivilegeMap.insert callerInfo.pid p }
          (.ok (), (cleanExpiredPrivilegesAndSaveToFile e.saveUptime e.save s).2)

def setAuthStatusForRecord (pid : Int) (privilegeIdx : Nat) (authType : PrivilegeAuthStatus)
    (m : ProcessMap γ) : Except ErrCode (ProcessMap γ) :=
  match m[pid]? with
  | none => .error .noCache
  | some p =>
      match p.getPrivilegeRecord privilegeIdx with
      | none => .error .noCache
      | some r => .ok (m.insert pid (p.setPrivilegeRecord privilegeIdx { r with authStatus := authType }))

/-- What the system answers during one acquisition of a kernel-backed
privilege. At most one clean-up runs in it. -/
structure KernelAnswer where
  create : ProcessPrivilegeRecord.CreateAnswer
  uptime : Uptime
  prepareSave : PersistAnswer
  setKernelAuthorization : Ret
  confirmSave : PersistAnswer
  removeUptime : Uptime
  removeSave : PersistAnswer

def unconfirmedRecord (privilegeIdx : Nat) (origin : γ) : PrivilegeRecord γ :=
  ⟨privilegeIdx, int64Max, 0, .unconfirmed, origin⟩

def currTimeOrZero : Uptime → Int
  | .ok currTime => currTime
  | .error _ => 0

def prepareKernelAuthCache (e : KernelAnswer) (callerInfo : AuthenCallerInfo) (origin : γ)
    (s : CacheStore γ) : Ret × CacheStore γ :=
  match findOrCreate e.create callerInfo s.processPrivilegeMap with
  | .error ret => (.error ret, s)
  | .ok p =>
      let p := p.setPrivilegeRecord callerInfo.privilegeIdx (unconfirmedRecord callerInfo.privilegeIdx origin)
      match toPersistFile e.prepareSave (currTimeOrZero e.uptime)
        { s with processPrivilegeMap := s.processPrivilegeMap.insert callerInfo.pid p } with
      | (.ok (), s) => (.ok (), s)
      | (.error ret, s) =>
          (.error ret, (removeSingle e.removeUptime e.removeSave callerInfo.pid callerInfo.privilegeIdx s).2)

/-- The status change after the kernel granted, saved again; a failed save
leaves the record for the next query to confirm. -/
def confirmKernelAuthCache (o : PersistAnswer) (currTime : Int) (pid : Int) (privilegeIdx : Nat)
    (s : CacheStore γ) : CacheStore γ :=
  match setAuthStatusForRecord pid privilegeIdx .authorized s.processPrivilegeMap with
  | .error _ => s
  | .ok m =>
      match toPersistFile o currTime { s with processPrivilegeMap := m } with
      | (.ok (), s) => s
      | (.error _, s) =>
          match setAuthStatusForRecord pid privilegeIdx .unconfirmed s.processPrivilegeMap with
          | .error _ => s
          | .ok m => { s with processPrivilegeMap := m }

def addCacheAndNotifyKernel (e : KernelAnswer) (callerInfo : AuthenCallerInfo) (origin : γ)
    (s : CacheStore γ) : Ret × CacheStore γ :=
  match prepareKernelAuthCache e callerInfo origin s with
  | (.error ret, s) => (.error ret, s)
  | (.ok (), s) =>
      match e.setKernelAuthorization with
      | .ok () => (.ok (), confirmKernelAuthCache e.confirmSave (currTimeOrZero e.uptime) callerInfo.pid
          callerInfo.privilegeIdx s)
      | .error ret =>
          (.error (if ret = .kernelDeviceNotFound then .kernelDeviceNotFound else .kernelNotifyFailed),
            (removeSingle e.removeUptime e.removeSave callerInfo.pid callerInfo.privilegeIdx s).2)

structure QueryAnswer where
  queryKernelAuthorization : Except ErrCode Bool
  uptime : Uptime
  save : PersistAnswer
  removeUptime : Uptime
  removeSave : PersistAnswer

def updateToAuthorized (u : Uptime) (o : PersistAnswer) (pid : Int) (privilegeIdx : Nat)
    (s : CacheStore γ) : CacheStore γ :=
  match u with
  | .error _ => s
  | .ok currTime => confirmKernelAuthCache o currTime pid privilegeIdx s

def hasKernelAuthorization (e : QueryAnswer) (pid : Int) (privilegeIdx : Nat) (s : CacheStore γ) :
    Except ErrCode Bool × CacheStore γ :=
  match s.processPrivilegeMap[pid]? with
  | none => (.ok false, s)
  | some p =>
      match p.getPrivilegeRecord privilegeIdx with
      | none => (.ok false, s)
      | some r =>
          match r.authStatus, e.queryKernelAuthorization with
          | .authorized, _ => (.ok true, s)
          | .notRequired, _ => (.ok false, s)
          | .unconfirmed, .error ret =>
              (.error (if ret = .kernelDeviceNotFound then ret else .systemServiceException), s)
          | .unconfirmed, .ok true => (.ok true, updateToAuthorized e.uptime e.save pid privilegeIdx s)
          | .unconfirmed, .ok false =>
              (.ok false, (removeSingle e.removeUptime e.removeSave pid privilegeIdx s).2)

def removeUser (u : Uptime) (o : PersistAnswer) (localId : Int) (s : CacheStore γ) : CacheStore γ :=
  let m := sweep (fun _ p => if p.getProcessLocalId = localId then none else some p) s.processPrivilegeMap
  (cleanExpiredPrivilegesAndSaveToFile u o { s with processPrivilegeMap := m }).2

def removeProcess (u : Uptime) (o : PersistAnswer) (pid : Int) (s : CacheStore γ) : CacheStore γ :=
  match s.processPrivilegeMap[pid]? with
  | none => s
  | some _ =>
      (cleanExpiredPrivilegesAndSaveToFile u o
        { s with processPrivilegeMap := s.processPrivilegeMap.erase pid }).2

structure CheckAnswer where
  uptime : Uptime
  checkTimestampExpired : Nat → Nat → PrivilegeRecord.TimestampAnswer
  getAcl : Int → Except ErrCode Int

def checkAcl (e : CheckAnswer) (pid : Int) : Except ErrCode Int :=
  match e.getAcl pid with
  | .error ret => .error ret
  | .ok aclLevel => if aclLevel ≥ 1 then .ok (-1) else .error .privilegeDenied

/-- The remaining seconds of a granted privilege, or why it is refused. The
clean-up task started on a refusal is a step of its own. -/
def checkPrivilege (e : CheckAnswer) (pid : Int) (privilegeIdx : Nat) (m : ProcessMap γ) :
    Except ErrCode Int :=
  match m[pid]? with
  | none => checkAcl e pid
  | some p =>
      match p.checkPrivilege e.uptime e.checkTimestampExpired privilegeIdx with
      | .ok remainTime => .ok remainTime
      | .error ret =>
          if ret ≠ .privilegeDenied then .error ret
          else match p.getPrivilegeRecord privilegeIdx with
            | none => checkAcl e pid
            | some r => if r.authStatus ≠ .notRequired then .error .privilegeDenied else checkAcl e pid

structure LoadAnswer where
  uptime : Uptime
  readFile : Bool
  generateDigest : Bool
  deleteFile : Bool
  getProcessStartTime : Int → Except ErrCode Int
  openPidFd : Int → Ret

/-- A process record of the file that may be loaded: its process is alive with
the recorded start time, and it keeps a privilege that is not expired. -/
def loadProcess (e : LoadAnswer) (currTime : Int) (p : ProcessPrivilegeRecord γ) :
    Option (ProcessPrivilegeRecord γ) :=
  if p.pid ≤ 0 then none
  else match e.getProcessStartTime p.pid, e.openPidFd p.pid with
    | .ok startTime, .ok () =>
        let p' := p.cleanCurrentExpiredPrivileges currTime
        if startTime ≠ p.processStartTime ∨ p'.getPrivilegeNum = 0 then none else some p'
    | _, _ => none

def fromPersistFile (e : LoadAnswer) (s : CacheStore γ) : Ret × CacheStore γ :=
  match e.uptime, s.file with
  | .error ret, _ => (.error ret, s)
  | .ok _, none => (.ok (), s)
  | .ok currTime, some f =>
      if !e.readFile then (.ok (), s)
      else if f.updateTime ≥ currTime then
        (.ok (), { s with file := if e.deleteFile then none else s.file })
      else if !e.generateDigest then (.ok (), s)
      else
        let m := sweepInto (fun _ p => loadProcess e currTime p) f.processRecords s.processPrivilegeMap
        (.ok (), { s with processPrivilegeMap := m })

def restart (e : LoadAnswer) (s : CacheStore γ) : CacheStore γ :=
  (fromPersistFile e { s with processPrivilegeMap := ∅ }).2

end OsAccount.PrivilegeCache
