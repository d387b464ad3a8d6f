import OsAccount.PrivilegeCacheInvariant

namespace OsAccount.PrivilegeUpdate

open Std PrivilegeTable PrivilegeRecords PrivilegeCache PrivilegeCacheParts PrivilegeCacheInvariant

structure SubjectInfo where
  pid : Int
  uid : Int
  customName : String
deriving DecidableEq, Repr

structure AcquireAuthorizationOptions where
  challenge : List UInt8
  isReuseNeeded : Bool
  isInteractionAllowed : Bool
  hasContext : Bool
  isContextValid : Bool
  subjectInfo : Option SubjectInfo
deriving DecidableEq, Repr

structure ConnectAbilityInfo where
  privilege : String
  description : String
  timeout : Nat
  bundleName : String
  challenge : List UInt8
  callingUid : Int
  callingPid : Int
  customName : String
  sessionId : String
deriving DecidableEq, Repr

/-- `other` is a value of the `int32_t` enumeration that has no name. -/
inductive AuthorizationResultCode
  | success
  | canceled
  | interactionNotAllowed
  | denied
  | serviceBusy
  | privilegeNotSupported
  | other (code : Int)
deriving DecidableEq, Repr

structure AuthorizationResult where
  privilege : String
  resultCode : AuthorizationResultCode
  isReused : Bool
  validityPeriod : Int
  token : List UInt8
deriving DecidableEq, Repr

def AuthorizationResult.ofPrivilege (privilege : String) : AuthorizationResult := ⟨privilege, .success, true, 0, []⟩

structure Caller where
  pid : Int
  uid : Int
deriving DecidableEq, Repr

def initializeConnectAbilityInfo (caller : Caller) (generateSessionId : String) (pdef : PrivilegeBriefDef)
    (options : AcquireAuthorizationOptions) (authAppBundleName : String) : Except ErrCode ConnectAbilityInfo :=
  let subject := options.subjectInfo.getD ⟨caller.pid, caller.uid, ""⟩
  if generateSessionId.isEmpty then .error .getContentError
  else .ok ⟨pdef.privilegeName, pdef.description, pdef.timeout, authAppBundleName, options.challenge,
    subject.uid, subject.pid, subject.customName, generateSessionId⟩

/-- What the system answers during one update of the cache: only the part of
the branch that is taken is used. -/
structure UpdateAnswer where
  add : AddAnswer
  kernel : KernelAnswer

variable {γ : Type}

/-- The entry is stored under the pid of the request and under the uid of the
process whose IPC call is being served. -/
def updatePrivilegeCache (e : UpdateAnswer) (ipcCallingUid : Int) (info : ConnectAbilityInfo)
    (requestRemoteObj : Option RemoteObject) (grantTime : Nat) (origin : γ) (s : CacheStore γ) :
    Ret × CacheStore γ :=
  match transferPrivilegeToCode info.privilege, getPrivilegeBriefDefByName info.privilege with
  | none, _ => (.error .cacheError, s)
  | some _, none => (.error .cacheError, s)
  | some code, some pdef =>
      let callerInfo : AuthenCallerInfo := ⟨info.callingPid, ipcCallingUid, code, some requestRemoteObj⟩
      match pdef.kernelPermission with
      | some _ =>
          match addCacheAndNotifyKernel e.kernel callerInfo origin s with
          | (.ok (), s) => (.ok (), s)
          | (.error ret, s) =>
              (.error (if ret = .kernelDeviceNotFound then .kernelDeviceNotFound else .cacheError), s)
      | none =>
          match addCache e.add callerInfo grantTime origin s with
          | (.ok (), s) => (.ok (), s)
          | (.error _, s) => (.error .cacheError, s)

/-- An update keeps a relation between entries and the origins of their
records, if the entry it works on has it with the new origin. -/
theorem storeValid_updatePrivilegeCache {P : Holder → γ → Prop} {s : CacheStore γ}
    (h : StoreValid (fun p r => P p r.origin) (fun p r => P p r.origin) s) {e : UpdateAnswer} {uid : Int}
    {info : ConnectAbilityInfo}
    {requestRemoteObj : Option RemoteObject} {grantTime : Nat} {origin : γ}
    (hP : ∀ create code p, findOrCreate create ⟨info.callingPid, uid, code, some requestRemoteObj⟩
      s.processPrivilegeMap = .ok p → P (holder p) origin) :
    StoreValid (fun p r => P p r.origin) (fun p r => P p r.origin)
      (updatePrivilegeCache e uid info requestRemoteObj grantTime origin s).2 := by
  unfold updatePrivilegeCache
  split
  · exact h
  · exact h
  · rename_i code pdef _ _
    simp only
    split
    · have hkernel := storeValid_addCacheAndNotifyKernel (e := e.kernel) h (fun p hp => hP _ code p hp)
        (fun _ hs => hs) (fun _ _ _ _ _ _ _ hr _ => hr)
      split
      · rename_i s₁ hs₁
        rw [hs₁] at hkernel
        exact hkernel
      · rename_i ret s₁ hs₁
        rw [hs₁] at hkernel
        exact hkernel
    · have hadd := storeValid_addCache (e := e.add) h grantTime (fun p t hp => hP _ code p hp)
      split
      · rename_i s₁ hs₁
        rw [hs₁] at hadd
        exact hadd
      · rename_i ret s₁ hs₁
        rw [hs₁] at hadd
        exact hadd

end OsAccount.PrivilegeUpdate
