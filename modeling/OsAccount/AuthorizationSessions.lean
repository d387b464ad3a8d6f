import OsAccount.PrivilegeUpdate
import Mathlib.Logic.Function.Basic

namespace OsAccount.AuthorizationSessions

open Std PrivilegeTable PrivilegeRecords PrivilegeUpdate

def maxCallbackMapSize : Nat := 65535

/-- What the session steps read of a `ConnectAbilityInfo`. The id of a session
is the number of the counter that is part of its text and makes it unique. -/
structure SessionInfo where
  sessionId : Nat
  callingPid : Int
  callingUid : Int
  privilege : String
  isPublicApi : Bool
deriving DecidableEq

/-- The object that a UI extension reports to. `savedFrom` remembers the session
whose update wrote the saved result; no step reads it. -/
structure ConnectAbilityCallback where
  info : SessionInfo
  errCode : Ret
  result : AuthorizationResult
  hasUpdateAuthInfo : Bool
  savedFrom : Nat

/-- A session with its authorization callback, known by its remote object. The
flags say whether the connect callback was handed out, and whether the task is
waiting for the extension to be connected. -/
structure Session where
  callbackObject : Nat
  connectCallback : ConnectAbilityCallback
  started : Bool
  connecting : Bool

/-- One `OnResult` that the authorization callback of a session received. The
last two fields remember whose data it got: the session of the privilege, and
the session of the result code and the token. -/
structure Answer where
  receiver : Nat
  errCode : Ret
  result : AuthorizationResult
  privilegeFrom : Nat
  resultFrom : Nat

structure UpdateOutcome where
  errCode : Ret
  resultCode : AuthorizationResultCode
  token : List UInt8
  remainValidityTime : Int

structure Update where
  info : SessionInfo
  outcome : Option UpdateOutcome

/-- The global maps, the objects they point to, the calls under way and the
answers given so far. Callbacks are known by the session they belong to. -/
structure State where
  sessionIdCounter : Nat
  sessions : Nat → Option Session
  callbackMap : ExtTreeMap Int Nat compare
  connectbackMap : ExtTreeMap Int Nat compare
  requestRemoteObjectMap : ExtTreeMap Int RemoteObject compare
  pidToUidMap : ExtTreeMap Int Int compare
  pidFdMap : ExtTreeMap Int Int compare
  sessionIdToPidMap : ExtTreeMap Nat Int compare
  updates : Nat → Option Update
  answers : List Answer

def initial (bootTimeMs : Nat) : State := ⟨bootTimeMs, fun _ => none, ∅, ∅, ∅, ∅, ∅, ∅, fun _ => none, []⟩

def State.setSession (s : State) (n : Nat) (session : Session) : State :=
  { s with sessions := Function.update s.sessions n (some session) }

def State.setUpdate (s : State) (u : Nat) (update : Option Update) : State :=
  { s with updates := Function.update s.updates u update }

def State.answer (s : State) (a : Answer) : State := { s with answers := s.answers ++ [a] }

def cleanupAuthorizationSessionMaps (requesterPid : Int) (s : State) : State :=
  { s with
    sessionIdToPidMap :=
      match (s.connectbackMap[requesterPid]?).bind s.sessions with
      | some session => s.sessionIdToPidMap.erase session.connectCallback.info.sessionId
      | none => s.sessionIdToPidMap
    connectbackMap := s.connectbackMap.erase requesterPid
    requestRemoteObjectMap := s.requestRemoteObjectMap.erase requesterPid
    pidToUidMap := s.pidToUidMap.erase requesterPid
    pidFdMap := s.pidFdMap.erase requesterPid }

def eraseSession (requesterPid : Int) (s : State) : State :=
  let s := cleanupAuthorizationSessionMaps requesterPid s
  { s with callbackMap := s.callbackMap.erase requesterPid }

def storeMaps (fd : Int) (info : SessionInfo) (requestRemoteObj : RemoteObject) (s : State) : State :=
  { s with
    pidFdMap := s.pidFdMap.insert info.callingPid fd
    pidToUidMap := s.pidToUidMap.insert info.callingPid info.callingUid
    callbackMap := s.callbackMap.insert info.callingPid info.sessionId
    connectbackMap := s.connectbackMap.insert info.callingPid info.sessionId
    requestRemoteObjectMap := s.requestRemoteObjectMap.insert info.callingPid requestRemoteObj
    sessionIdToPidMap := s.sessionIdToPidMap.insert info.sessionId info.callingPid }

/-- `openSmartPidFd` is the answer of the system for the calling process. -/
def storeCallbackMaps (openSmartPidFd : Except ErrCode Int) (info : SessionInfo) (requestRemoteObj : RemoteObject)
    (s : State) : Ret × State :=
  if s.callbackMap.size ≥ maxCallbackMapSize then (.error .busy, s)
  else if info.callingPid ∈ s.callbackMap then (.error .busy, s)
  else match openSmartPidFd with
    | .error _ => (.error .getProxyError, s)
    | .ok fd => (.ok (), storeMaps fd info requestRemoteObj s)

/-- A request with a context. `prepared` is the outcome of the checks that come
before the maps are touched. -/
structure Request where
  prepared : Ret
  openSmartPidFd : Except ErrCode Int
  callingPid : Int
  callingUid : Int
  privilege : String
  isPublicApi : Bool
  isReuseNeeded : Bool
  callbackObject : Nat
  requestRemoteObj : RemoteObject

def Request.info (r : Request) (sessionId : Nat) : SessionInfo :=
  ⟨sessionId, r.callingPid, r.callingUid, r.privilege, r.isPublicApi⟩

def Request.session (r : Request) (sessionId : Nat) (started : Bool) : Session :=
  let result := { AuthorizationResult.ofPrivilege r.privilege with isReused := r.isReuseNeeded }
  ⟨r.callbackObject, ⟨r.info sessionId, .ok (), result, false, sessionId⟩, started, started⟩

def createSession (r : Request) (started : Bool) (s : State) : State :=
  let n := s.sessionIdCounter
  State.setSession { s with sessionIdCounter := n + 1 } n (r.session n started)

def busyAnswer (n : Nat) (privilege : String) : Answer :=
  ⟨n, .ok (), { AuthorizationResult.ofPrivilege privilege with resultCode := .serviceBusy }, n, n⟩

def acquireAuthorization (r : Request) (s : State) : State :=
  match r.prepared with
  | .error _ => s
  | .ok () =>
      let n := s.sessionIdCounter
      match storeCallbackMaps r.openSmartPidFd (r.info n) r.requestRemoteObj s with
      | (.ok (), s) => createSession r true s
      | (.error ret, s) =>
          let s := createSession r false s
          if ret = .busy then s.answer (busyAnswer n r.privilege) else s

/-- The function that delivers the result of a connect callback: to whichever
session is stored under the pid. -/
def acquireAuthorizationOnResultfunc (errCode : Ret) (result : AuthorizationResult) (callingPid : Int)
    (privilegeFrom resultFrom : Nat) (s : State) : State :=
  match s.callbackMap[callingPid]? with
  | none => s
  | some receiver => eraseSession callingPid (s.answer ⟨receiver, errCode, result, privilegeFrom, resultFrom⟩)

def authorizationResultCode : Int → AuthorizationResultCode
  | 0 => .success
  | 12300301 => .canceled
  | 12300302 => .interactionNotAllowed
  | 12300303 => .denied
  | 12300304 => .serviceBusy
  | 12300305 => .privilegeNotSupported
  | code => .other code

/-- What a connect callback passes on: the code, the result, and the session
that the result code and the token come from. -/
def ConnectAbilityCallback.report (c : ConnectAbilityCallback) (errorCode : Ret) (iamResultCode : Int) :
    Ret × AuthorizationResult × Nat :=
  let result := AuthorizationResult.ofPrivilege c.info.privilege
  match errorCode with
  | .error ret => (.error ret, result, c.info.sessionId)
  | .ok () =>
      let result := { result with resultCode := authorizationResultCode iamResultCode }
      if iamResultCode ≠ 0 then (.ok (), result, c.info.sessionId)
      else if c.hasUpdateAuthInfo then (c.errCode, c.result, c.savedFrom)
      else (.ok (), { result with resultCode := .canceled }, c.info.sessionId)

def onResult (n : Nat) (errorCode : Ret) (iamResultCode : Int) (s : State) : State :=
  match s.sessions n with
  | none => s
  | some session =>
      if session.started then
        let (errCode, result, resultFrom) := session.connectCallback.report errorCode iamResultCode
        let info := session.connectCallback.info
        acquireAuthorizationOnResultfunc errCode result info.callingPid info.sessionId resultFrom s
      else s

/-- The end of the task of a session, with the answer of `OnConnectAbility`: on
a failure the maps are rolled back and the session's own callback is told. -/
def executeUIExtensionTask (n : Nat) (onConnectAbility : Ret) (s : State) : State :=
  match s.sessions n with
  | none => s
  | some session =>
      if session.connecting then
        let info := session.connectCallback.info
        let s := s.setSession n { session with connecting := false }
        match onConnectAbility with
        | .ok () => s
        | .error ret =>
            (eraseSession info.callingPid s).answer
              ⟨n, .error ret, AuthorizationResult.ofPrivilege info.privilege, n, n⟩
      else s

def updateAuthInfoBegin (u sessionId : Nat) (s : State) : State :=
  match s.updates u, ((s.sessionIdToPidMap[sessionId]?).bind (s.connectbackMap[·]?)).bind s.sessions with
  | none, some session => s.setUpdate u (some ⟨session.connectCallback.info, none⟩)
  | _, _ => s

/-- What the account manager, the trusted environment and the privilege cache
answer to an update. -/
structure TaAnswer where
  isAdmin : Except ErrCode Bool
  applyUserToken : Except ErrCode (List UInt8 × Int)
  updateCache : Ret

def updateCacheResult (a : TaAnswer) (info : SessionInfo) : Ret :=
  if transferPrivilegeToCode info.privilege = none then .error .cacheError else a.updateCache

def applyTaAuthorization (a : TaAnswer) (info : SessionInfo) : Ret × AuthorizationResultCode :=
  match a.isAdmin, a.applyUserToken with
  | .error ret, _ => (.error ret, .success)
  | .ok false, _ => (.ok (), .denied)
  | .ok true, .error ret => (.error ret, .success)
  | .ok true, .ok _ =>
      match updateCacheResult a info with
      | .error .kernelDeviceNotFound =>
          if info.isPublicApi then (.ok (), .privilegeNotSupported) else (.error .invalidParameter, .success)
      | ret => (ret, .success)

def updateOutcome (a : TaAnswer) (info : SessionInfo) : UpdateOutcome :=
  let (errCode, resultCode) := applyTaAuthorization a info
  let (token, remainValidityTime) := a.applyUserToken.toOption.getD ([], 0)
  ⟨errCode, resultCode, if errCode = .ok () ∧ resultCode = .success then token else [], remainValidityTime⟩

def takesRemoteObject (a : TaAnswer) (info : SessionInfo) : Bool :=
  a.isAdmin = .ok true && a.applyUserToken.toOption.isSome && (transferPrivilegeToCode info.privilege).isSome

def updateAuthInfoApply (u : Nat) (a : TaAnswer) (s : State) : State :=
  match s.updates u with
  | some ⟨info, none⟩ =>
      let s := s.setUpdate u (some ⟨info, some (updateOutcome a info)⟩)
      if takesRemoteObject a info then
        { s with requestRemoteObjectMap := s.requestRemoteObjectMap.erase info.callingPid }
      else s
  | _ => s

def ConnectAbilityCallback.updateAuthorizationResult (c : ConnectAbilityCallback) (o : UpdateOutcome)
    (savedFrom : Nat) : ConnectAbilityCallback :=
  { c with
    errCode := o.errCode
    result := { c.result with
      privilege := c.info.privilege
      resultCode := o.resultCode
      validityPeriod := o.remainValidityTime
      token := o.token }
    hasUpdateAuthInfo := true
    savedFrom := savedFrom }

/-- The second locked section of `UpdateAuthInfo`: it looks for the connect
callback under the pid again. -/
def updateAuthInfoEnd (u : Nat) (s : State) : State :=
  match s.updates u with
  | some ⟨info, some outcome⟩ =>
      let s := s.setUpdate u none
      match s.connectbackMap[info.callingPid]? with
      | none => s
      | some n =>
          match s.sessions n with
          | none => s
          | some session =>
              s.setSession n { session with
                connectCallback := session.connectCallback.updateAuthorizationResult outcome info.sessionId }
  | _ => s

def onRemoteDied (object : Nat) (s : State) : State :=
  match s.callbackMap.toList.find? fun q => (s.sessions q.2).map Session.callbackObject = some object with
  | none => s
  | some (callingPid, _) => eraseSession callingPid s

inductive Event
  | acquire (r : Request)
  | onResult (n : Nat) (errorCode : Ret) (iamResultCode : Int)
  | connected (n : Nat) (onConnectAbility : Ret)
  | updateBegin (u sessionId : Nat)
  | updateApply (u : Nat) (a : TaAnswer)
  | updateEnd (u : Nat)
  | remoteDied (object : Nat)

def step (s : State) : Event → State
  | .acquire r => acquireAuthorization r s
  | .onResult n errorCode iamResultCode => onResult n errorCode iamResultCode s
  | .connected n onConnectAbility => executeUIExtensionTask n onConnectAbility s
  | .updateBegin u sessionId => updateAuthInfoBegin u sessionId s
  | .updateApply u a => updateAuthInfoApply u a s
  | .updateEnd u => updateAuthInfoEnd u s
  | .remoteDied object => onRemoteDied object s

end OsAccount.AuthorizationSessions
