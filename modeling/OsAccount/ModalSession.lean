import OsAccount.Machine
import OsAccount.AuthorizationSessions

namespace OsAccount.ModalSession

open PrivilegeUpdate AuthorizationSessions

/-- What the connection reads of a request. The id of its session is the number
of the counter that is part of its text and makes it unique. -/
structure ConnectAbilityInfo where
  sessionId : Nat
  bundleName : String
  abilityName : String
  privilege : String
  callingPid : Int

structure Reply where
  receiver : Nat
  errCode : Ret
  result : AuthorizationResult

/-- One call of `SaveAuthorizationResult`, with the session that it was made for. -/
structure Save where
  session : Nat
  resultCode : AuthorizationResultCode
  token : List UInt8

/-- The connection and the updates under way. Callbacks and stubs are known by
their session, and the recipient of a requester's death by its bundle name. The
last three fields record the requests, the saves and the replies; no step reads
them. -/
structure State where
  sessionIdCounter : Nat
  errCode : Ret
  callback : Option Nat
  appDeathRecipient : Option String
  authResult : AuthorizationResult
  info : ConnectAbilityInfo
  abilityConnectionStub : Option Nat
  authAppRemoteObj : Option Nat
  authDeathRecipient : Bool
  authAppPid : Int
  hasAuthCallback : Bool
  pidFdPtr : Bool
  updates : Nat → Option Nat
  requests : Nat → Option ConnectAbilityInfo
  saves : List Save
  replies : List Reply

def initial (bootTimeMs : Nat) : State where
  sessionIdCounter := bootTimeMs
  errCode := .ok ()
  callback := none
  appDeathRecipient := none
  authResult := AuthorizationResult.ofPrivilege ""
  info := ⟨0, "", "", "", -1⟩
  abilityConnectionStub := none
  authAppRemoteObj := none
  authDeathRecipient := false
  authAppPid := -1
  hasAuthCallback := false
  pidFdPtr := false
  updates := fun _ => none
  requests := fun _ => none
  saves := []
  replies := []

structure Request where
  bundleName : String
  abilityName : String
  privilege : String
  callingPid : Int
  isReuseNeeded : Bool
  callbackObject : Bool
  addDeathRecipient : Bool
  newStub : Bool
  openSmartPidFd : Ret
  connectServiceExtensionAbility : Ret

def clearMemberVariables (s : State) : State :=
  { s with
    authDeathRecipient := false
    authAppRemoteObj := none
    abilityConnectionStub := none
    authAppPid := -1
    -- the recipient is only forgotten together with its callback, which always has an object here
    appDeathRecipient := if s.callback.isSome then none else s.appDeathRecipient
    callback := none
    hasAuthCallback := false
    errCode := .ok ()
    pidFdPtr := false }

def sessionDisconnectExtension (s : State) : State :=
  if s.abilityConnectionStub.isNone then s else clearMemberVariables s

def callbackOnResult (onResult : Ret) (errCode : Ret) (resultCode : AuthorizationResultCode) (s : State) :
    Ret × State :=
  match s.callback with
  | none => (.error .getStubError, s)
  | some receiver =>
      let authResult := { s.authResult with resultCode }
      let s := { s with authResult, replies := s.replies ++ [⟨receiver, errCode, authResult⟩] }
      (onResult, sessionDisconnectExtension s)

def createCallbackDeathRecipient (r : Request) (s : State) : Ret × State :=
  -- the bundle name is read before the new request replaces the old one
  if !r.callbackObject || !r.addDeathRecipient then (.error .addDeathRecipient, { s with appDeathRecipient := none })
  else (.ok (), { s with appDeathRecipient := some s.info.bundleName })

def createStubAndConnect (r : Request) (info : ConnectAbilityInfo) (authorizationResult : AuthorizationResult)
    (s : State) : Ret × State :=
  if !r.newStub then (.error .getStubError, { s with appDeathRecipient := none })
  else
    let s := { s with
      abilityConnectionStub := some info.sessionId
      info
      callback := some info.sessionId
      authResult := authorizationResult }
    match r.openSmartPidFd with
    | .error _ => (.error .createSysExtensionError, clearMemberVariables s)
    | .ok () =>
        let s := { s with pidFdPtr := true }
        match r.connectServiceExtensionAbility with
        | .error _ => (.error .createSysExtensionError, clearMemberVariables s)
        | .ok () => (.ok (), s)

def sessionConnectExtension (r : Request) (info : ConnectAbilityInfo) (authorizationResult : AuthorizationResult)
    (s : State) : Ret × State :=
  if s.abilityConnectionStub.isSome then
    (.ok (), { s with
      replies := s.replies ++ [⟨info.sessionId, .ok (), { authorizationResult with resultCode := .serviceBusy }⟩] })
  else
    match createCallbackDeathRecipient r s with
    | (.error e, s) => (.error e, s)
    | (.ok (), s) => createStubAndConnect r info authorizationResult s

def Request.info (r : Request) (sessionId : Nat) : ConnectAbilityInfo :=
  ⟨sessionId, r.bundleName, r.abilityName, r.privilege, r.callingPid⟩

def Request.result (r : Request) : AuthorizationResult :=
  { AuthorizationResult.ofPrivilege r.privilege with isReused := r.isReuseNeeded }

def generateSessionId (r : Request) (s : State) : State :=
  { s with
    sessionIdCounter := s.sessionIdCounter + 1
    requests := Function.update s.requests s.sessionIdCounter (some (r.info s.sessionIdCounter)) }

def acquireAuthorization (r : Request) (s : State) : Ret × State :=
  sessionConnectExtension r (r.info s.sessionIdCounter) r.result (generateSessionId r s)

def saveAuthorizationResult (errCode : Ret) (resultCode : AuthorizationResultCode) (taToken : List UInt8)
    (remainValidityTime : Int) (s : State) : Ret × State :=
  if s.abilityConnectionStub.isNone then (.error .getStubError, s)
  else (.ok (), { s with
    errCode
    authResult := { s.authResult with resultCode, token := taToken, validityPeriod := remainValidityTime }
    hasAuthCallback := true })

/-- The part after the extensions were asked for, by name and ability. The first
part only looks whether there is a connection. -/
def hasServiceConnect (infos : Except ErrCode (List (String × String))) (onResult : Ret) (s : State) : Bool × State :=
  if s.abilityConnectionStub.isNone then (false, s)
  else
    match infos with
    | .error _ => (true, s)
    | .ok infos =>
        if infos.any fun info => info.1 = s.info.bundleName ∧ info.2 = s.info.abilityName then (true, s)
        else
          match callbackOnResult onResult (.error .createSysExtensionError) .success s with
          | (.ok (), s) => (false, s)
          | (.error _, s) => (true, s)

def getConnectInfo (callingPid : Int) (s : State) : Option ConnectAbilityInfo :=
  if callingPid = s.authAppPid then some s.info else none

def registerAuthAppRemoteObject (callingPid : Int) (authAppRemoteObj : Option Nat)
    (newRecipient addDeathRecipient : Bool)
    (s : State) : Ret × State :=
  if s.abilityConnectionStub.isNone then (.error .getStubError, s)
  else
    match authAppRemoteObj with
    | none => (.error .invalidParameter, s)
    | some authAppRemoteObj =>
        if !newRecipient || !addDeathRecipient then (.error .addDeathRecipient, { s with authDeathRecipient := false })
        else (.ok (), { s with
          authDeathRecipient := true, authAppRemoteObj := some authAppRemoteObj, authAppPid := callingPid })

def unRegisterAuthAppRemoteObject (callingPid : Int) (onResult : Ret) (s : State) : Ret × State :=
  if s.authAppPid ≠ callingPid then (.error .notSupport, s)
  else
    let resultCode := if s.hasAuthCallback then s.authResult.resultCode else .canceled
    (.ok (), (callbackOnResult onResult s.errCode resultCode s).2)

def onAuthAppRemoteDeath (object : Nat) (onResult : Ret) (s : State) : State :=
  if s.authDeathRecipient ∧ s.authAppRemoteObj = some object then
    (callbackOnResult onResult (.error .createSysExtensionError) .success s).2
  else s

/-- The first section of `UpdateAuthInfo`. A session that is not the connected one
is looked for among those with a context. -/
def updateAuthInfoBegin (u : Nat) (callingPid : Int) (sessionId : Nat) (s : State) : State :=
  match getConnectInfo callingPid s with
  | none => s
  | some info =>
      if sessionId = info.sessionId then { s with updates := Function.update s.updates u (some sessionId) } else s

/-- The end of `UpdateAuthInfo`, once the trusted environment has answered. -/
def updateAuthInfoEnd (u : Nat) (o : UpdateOutcome) (s : State) : State :=
  match s.updates u with
  | none => s
  | some sessionId =>
      let token := if o.errCode = .ok () ∧ o.resultCode = .success then o.token else []
      (saveAuthorizationResult o.errCode o.resultCode token o.remainValidityTime { s with
        updates := Function.update s.updates u none
        saves := s.saves ++ [⟨sessionId, o.resultCode, token⟩] }).2

inductive Event
  | acquire (r : Request)
  | register (callingPid : Int) (authAppRemoteObj : Option Nat) (newRecipient addDeathRecipient : Bool)
  | unRegister (callingPid : Int) (onResult : Ret)
  | hasServiceConnect (infos : Except ErrCode (List (String × String))) (onResult : Ret)
  | abilityConnectFailed (onResult : Ret)
  | authAppDied (object : Nat) (onResult : Ret)
  | requesterDied
  | updateBegin (u : Nat) (callingPid : Int) (sessionId : Nat)
  | updateEnd (u : Nat) (outcome : UpdateOutcome)

def step (s : State) : Event → State
  | .acquire r => (acquireAuthorization r s).2
  | .register callingPid authAppRemoteObj newRecipient addDeathRecipient =>
      (registerAuthAppRemoteObject callingPid authAppRemoteObj newRecipient addDeathRecipient s).2
  | .unRegister callingPid onResult => (unRegisterAuthAppRemoteObject callingPid onResult s).2
  | .hasServiceConnect infos onResult => (hasServiceConnect infos onResult s).2
  | .abilityConnectFailed onResult => (callbackOnResult onResult (.error .createSysExtensionError) .success s).2
  | .authAppDied object onResult => onAuthAppRemoteDeath object onResult s
  | .requesterDied => sessionDisconnectExtension s
  | .updateBegin u callingPid sessionId => updateAuthInfoBegin u callingPid sessionId s
  | .updateEnd u outcome => updateAuthInfoEnd u outcome s

structure Closed (s : State) : Prop where
  callback : s.callback = none
  appDeathRecipient : s.appDeathRecipient = none
  authDeathRecipient : s.authDeathRecipient = false
  authAppRemoteObj : s.authAppRemoteObj = none
  authAppPid : s.authAppPid = -1
  hasAuthCallback : s.hasAuthCallback = false

structure Belongs (s : State) (n : Nat) : Prop where
  callback : s.callback = some n
  info : s.requests n = some s.info
  privilege : s.authResult.privilege = s.info.privilege
  appDeathRecipient : s.appDeathRecipient = some s.info.bundleName

def Own (s : State) (r : Reply) : Prop :=
  r.result.resultCode = .success → r.result.token ≠ [] → ⟨r.receiver, .success, r.result.token⟩ ∈ s.saves

structure NoLeak (s : State) : Prop where
  once : (s.replies.map Reply.receiver).Nodup
  own : ∀ r ∈ s.replies, Own s r
  closed : s.abilityConnectionStub = none → Closed s
  connected : ∀ n, s.abilityConnectionStub = some n → Belongs s n

def Accepted (s : State) (r : Request) : Prop :=
  s.abilityConnectionStub = none ∧ r.callbackObject = true ∧ r.addDeathRecipient = true ∧ r.newStub = true ∧
    r.openSmartPidFd = .ok () ∧ r.connectServiceExtensionAbility = .ok ()

/-- An accepted request finds its own bundle name in the connection, and a result
is saved while the session that it was computed for is connected. -/
def OwnRequest (s : State) : Event → Prop
  | .acquire r => Accepted s r → s.info.bundleName = r.bundleName
  | .updateEnd u _ => ∀ m ∈ s.updates u, ∀ n ∈ s.abilityConnectionStub, n = m
  | _ => True

/-- What every run keeps: the callback is that of the connected session, which
was not answered before. -/
structure Linked (s : State) : Prop where
  callback : s.callback = s.abilityConnectionStub
  closed : s.abilityConnectionStub = none → Closed s
  stub_lt : ∀ n, s.abilityConnectionStub = some n → n < s.sessionIdCounter
  receiver_lt : ∀ n ∈ s.replies.map Reply.receiver, n < s.sessionIdCounter
  unanswered : ∀ n, s.abilityConnectionStub = some n → n ∉ s.replies.map Reply.receiver
  once : (s.replies.map Reply.receiver).Nodup

variable {s : State} {n : Nat}

theorem closed_clearMemberVariables (h : s.callback.isSome) : Closed (clearMemberVariables s) where
  callback := rfl
  appDeathRecipient := if_pos h
  authDeathRecipient := rfl
  authAppRemoteObj := rfl
  authAppPid := rfl
  hasAuthCallback := rfl

theorem Linked.clearMemberVariables (hcallback : s.callback.isSome)
    (hlt : ∀ n ∈ s.replies.map Reply.receiver, n < s.sessionIdCounter)
    (honce : (s.replies.map Reply.receiver).Nodup) : Linked (ModalSession.clearMemberVariables s) where
  callback := rfl
  closed _ := closed_clearMemberVariables hcallback
  stub_lt _ hn := nomatch hn
  receiver_lt := hlt
  unanswered _ hn := nomatch hn
  once := honce

theorem Linked.sessionDisconnectExtension (h : Linked s) : Linked (ModalSession.sessionDisconnectExtension s) := by
  unfold ModalSession.sessionDisconnectExtension
  split
  · exact h
  · rename_i hstub
    refine Linked.clearMemberVariables ?_ h.receiver_lt h.once
    rw [h.callback, Option.isSome_iff_ne_none]
    simpa using hstub

theorem callbackOnResult_eq (h : Linked s) (hn : s.abilityConnectionStub = some n) (onResult errCode : Ret)
    (resultCode : AuthorizationResultCode) :
    callbackOnResult onResult errCode resultCode s = (onResult, clearMemberVariables { s with
      authResult := { s.authResult with resultCode }
      replies := s.replies ++ [⟨n, errCode, { s.authResult with resultCode }⟩] }) := by
  have hcallback : s.callback = some n := h.callback.trans hn
  simp only [callbackOnResult, hcallback, sessionDisconnectExtension, hn]
  rfl

theorem callbackOnResult_closed (h : Linked s) (hn : s.abilityConnectionStub = none) (onResult errCode : Ret)
    (resultCode : AuthorizationResultCode) :
    callbackOnResult onResult errCode resultCode s = (.error .getStubError, s) := by
  have hcallback : s.callback = none := h.callback.trans hn
  simp only [callbackOnResult, hcallback]

theorem Linked.callbackOnResult (h : Linked s) (onResult errCode : Ret) (resultCode : AuthorizationResultCode) :
    Linked (ModalSession.callbackOnResult onResult errCode resultCode s).2 := by
  cases hn : s.abilityConnectionStub with
  | none => rwa [callbackOnResult_closed h hn]
  | some n =>
      rw [callbackOnResult_eq h hn]
      refine Linked.clearMemberVariables (by simp [h.callback, hn]) ?_ ?_
      · intro m hm
        rw [List.map_append, List.mem_append] at hm
        obtain hm | hm := hm
        · exact h.receiver_lt m hm
        · obtain rfl : m = n := by simpa using hm
          exact h.stub_lt m hn
      · rw [List.map_append, List.nodup_append]
        refine ⟨h.once, by simp, ?_⟩
        rintro a ha b hb rfl
        obtain rfl : a = n := by simpa using hb
        exact h.unanswered a hn ha

theorem hasServiceConnect_cases (infos : Except ErrCode (List (String × String))) (onResult : Ret) :
    (hasServiceConnect infos onResult s).2 = s ∨ (hasServiceConnect infos onResult s).2 =
      (callbackOnResult onResult (.error .createSysExtensionError) .success s).2 := by
  unfold hasServiceConnect
  split
  · exact .inl rfl
  · cases infos with
    | error e => exact .inl rfl
    | ok infos =>
        dsimp only
        split
        · exact .inl rfl
        · right
          split <;> rename_i hc <;> rw [hc]

def connecting (r : Request) (s : State) : State :=
  { generateSessionId r s with
    appDeathRecipient := some s.info.bundleName
    abilityConnectionStub := some s.sessionIdCounter
    info := r.info s.sessionIdCounter
    callback := some s.sessionIdCounter
    authResult := r.result }

theorem createStubAndConnect_cases {t : State} (r : Request) (hn : s.abilityConnectionStub = none)
    (hrecipient : r.callbackObject = true ∧ r.addDeathRecipient = true)
    (ht : (createStubAndConnect r (r.info s.sessionIdCounter) r.result
      { generateSessionId r s with appDeathRecipient := some s.info.bundleName }).2 = t) :
    t = { generateSessionId r s with appDeathRecipient := none } ∨
    t = clearMemberVariables (connecting r s) ∨
    (Accepted s r ∧ t = { connecting r s with pidFdPtr := true }) := by
  subst ht
  unfold createStubAndConnect
  cases hstub : r.newStub with
  | false => exact .inl rfl
  | true =>
      right
      cases hfd : r.openSmartPidFd with
      | error e => exact .inl rfl
      | ok _ =>
          cases hconnect : r.connectServiceExtensionAbility with
          | error e => exact .inl rfl
          | ok _ => exact .inr ⟨⟨hn, hrecipient.1, hrecipient.2, hstub, hfd, hconnect⟩, rfl⟩

theorem acquireAuthorization_cases (r : Request) :
    (s.abilityConnectionStub ≠ none ∧ (acquireAuthorization r s).2 = { generateSessionId r s with
      replies := s.replies ++ [⟨s.sessionIdCounter, .ok (), { r.result with resultCode := .serviceBusy }⟩] }) ∨
    (s.abilityConnectionStub = none ∧
      (acquireAuthorization r s).2 = { generateSessionId r s with appDeathRecipient := none }) ∨
    (s.abilityConnectionStub = none ∧ (acquireAuthorization r s).2 = clearMemberVariables (connecting r s)) ∨
    (Accepted s r ∧ (acquireAuthorization r s).2 = { connecting r s with pidFdPtr := true }) := by
  unfold acquireAuthorization sessionConnectExtension
  cases hn : s.abilityConnectionStub with
  | some n =>
      left
      rw [if_pos (by simp [generateSessionId, hn])]
      exact ⟨by simp, rfl⟩
  | none =>
      right
      rw [if_neg (by simp [generateSessionId, hn])]
      by_cases hrecipient : r.callbackObject = true ∧ r.addDeathRecipient = true
      · have hcreate : createCallbackDeathRecipient r (generateSessionId r s) =
            (.ok (), { generateSessionId r s with appDeathRecipient := some s.info.bundleName }) := by
          simp [createCallbackDeathRecipient, hrecipient, generateSessionId]
        rw [hcreate]
        obtain ht | ht | ht := createStubAndConnect_cases r hn hrecipient rfl
        · exact .inl ⟨rfl, ht⟩
        · exact .inr (.inl ⟨rfl, ht⟩)
        · exact .inr (.inr ht)
      · left
        have hcreate : createCallbackDeathRecipient r (generateSessionId r s) =
            (.error .addDeathRecipient, { generateSessionId r s with appDeathRecipient := none }) := by
          unfold createCallbackDeathRecipient
          rw [if_pos (by simpa [Decidable.imp_iff_not_or] using hrecipient)]
        rw [hcreate]
        exact ⟨rfl, rfl⟩

theorem Linked.lt_succ (h : Linked s) {m : Nat} (hm : m ∈ s.replies.map Reply.receiver) :
    m < s.sessionIdCounter + 1 := Nat.lt_succ_of_lt (h.receiver_lt m hm)

theorem Linked.counter_not_mem (h : Linked s) : s.sessionIdCounter ∉ s.replies.map Reply.receiver :=
  fun hm => Nat.lt_irrefl _ (h.receiver_lt _ hm)

theorem Linked.acquireAuthorization (h : Linked s) (r : Request) :
    Linked (ModalSession.acquireAuthorization r s).2 := by
  obtain ⟨hn, ht⟩ | ⟨hn, ht⟩ | ⟨hn, ht⟩ | ⟨⟨hn, -⟩, ht⟩ := acquireAuthorization_cases (s := s) r
  · have hmap : ((ModalSession.acquireAuthorization r s).2.replies.map Reply.receiver) =
        s.replies.map Reply.receiver ++ [s.sessionIdCounter] := by simp [ht]
    refine ⟨?_, ?_, ?_, ?_, ?_, ?_⟩
    · rw [ht]
      exact h.callback
    · rw [ht]
      exact fun hnone => absurd hnone hn
    · rw [ht]
      exact fun n hs => Nat.lt_succ_of_lt (h.stub_lt n hs)
    · intro m hm
      rw [hmap, List.mem_append, List.mem_singleton] at hm
      rw [ht]
      obtain hm | rfl := hm
      · exact h.lt_succ hm
      · exact Nat.lt_succ_self _
    · intro n hs hm
      rw [ht] at hs
      rw [hmap, List.mem_append, List.mem_singleton] at hm
      obtain hm | rfl := hm
      · exact h.unanswered n hs hm
      · exact Nat.lt_irrefl _ (h.stub_lt _ hs)
    · rw [hmap, List.nodup_append]
      refine ⟨h.once, by simp, ?_⟩
      rintro a ha b hb rfl
      obtain rfl : a = s.sessionIdCounter := by simpa using hb
      exact h.counter_not_mem ha
  · rw [ht]
    have hclosed := h.closed hn
    refine ⟨h.callback, fun _ => ⟨hclosed.callback, rfl, hclosed.authDeathRecipient, hclosed.authAppRemoteObj,
      hclosed.authAppPid, hclosed.hasAuthCallback⟩, ?_, fun m hm => h.lt_succ hm, h.unanswered, h.once⟩
    intro n hs
    exact Nat.lt_succ_of_lt (h.stub_lt n hs)
  · rw [ht]
    exact Linked.clearMemberVariables rfl (fun m hm => h.lt_succ hm) h.once
  · rw [ht]
    refine ⟨rfl, fun hnone => ?_, ?_, fun m hm => h.lt_succ hm, ?_, h.once⟩
    · cases hnone
    · rintro n ⟨⟩
      exact Nat.lt_succ_self _
    · rintro n ⟨⟩
      exact h.counter_not_mem

structure Quiet (s t : State) : Prop where
  stub : t.abilityConnectionStub = s.abilityConnectionStub
  callback : t.callback = s.callback
  counter : t.sessionIdCounter = s.sessionIdCounter
  replies : t.replies = s.replies
  requests : t.requests = s.requests
  info : t.info = s.info
  appDeathRecipient : t.appDeathRecipient = s.appDeathRecipient
  privilege : t.authResult.privilege = s.authResult.privilege
  saves : s.saves ⊆ t.saves
  closed : s.abilityConnectionStub = none → Closed s → Closed t

theorem Linked.quiet {t : State} (h : Linked s) (ht : Quiet s t) : Linked t where
  callback := by rw [ht.callback, ht.stub, h.callback]
  closed hn := ht.closed (ht.stub ▸ hn) (h.closed (ht.stub ▸ hn))
  stub_lt n hn := by
    rw [ht.stub] at hn
    rw [ht.counter]
    exact h.stub_lt n hn
  receiver_lt := by
    rw [ht.replies, ht.counter]
    exact h.receiver_lt
  unanswered n hn := by
    rw [ht.stub] at hn
    rw [ht.replies]
    exact h.unanswered n hn
  once := by
    rw [ht.replies]
    exact h.once

theorem Quiet.refl (s : State) : Quiet s s :=
  ⟨rfl, rfl, rfl, rfl, rfl, rfl, rfl, rfl, List.Subset.refl _, fun _ hc => hc⟩

theorem quiet_registerAuthAppRemoteObject (callingPid : Int) (authAppRemoteObj : Option Nat)
    (newRecipient addDeathRecipient : Bool) :
    Quiet s (registerAuthAppRemoteObject callingPid authAppRemoteObj newRecipient addDeathRecipient s).2 := by
  unfold registerAuthAppRemoteObject
  split
  · exact Quiet.refl s
  · rename_i hstub
    have hn : s.abilityConnectionStub ≠ none := by simpa using hstub
    cases authAppRemoteObj with
    | none => exact Quiet.refl s
    | some object =>
        dsimp only
        split <;> exact ⟨rfl, rfl, rfl, rfl, rfl, rfl, rfl, rfl, List.Subset.refl _,
          fun hnone => absurd hnone hn⟩

theorem quiet_updateAuthInfoBegin (u : Nat) (callingPid : Int) (sessionId : Nat) :
    Quiet s (updateAuthInfoBegin u callingPid sessionId s) := by
  unfold updateAuthInfoBegin
  split
  · exact Quiet.refl s
  · split
    · exact ⟨rfl, rfl, rfl, rfl, rfl, rfl, rfl, rfl, List.Subset.refl _,
        fun _ hc => ⟨hc.1, hc.2, hc.3, hc.4, hc.5, hc.6⟩⟩
    · exact Quiet.refl s

theorem quiet_updateAuthInfoEnd (u : Nat) (o : UpdateOutcome) : Quiet s (updateAuthInfoEnd u o s) := by
  unfold updateAuthInfoEnd
  split
  · exact Quiet.refl s
  · unfold saveAuthorizationResult
    dsimp only
    split
    · exact ⟨rfl, rfl, rfl, rfl, rfl, rfl, rfl, rfl, List.subset_append_left _ _,
        fun _ hc => ⟨hc.1, hc.2, hc.3, hc.4, hc.5, hc.6⟩⟩
    · rename_i hstub
      have hn : s.abilityConnectionStub ≠ none := by simpa using hstub
      exact ⟨rfl, rfl, rfl, rfl, rfl, rfl, rfl, rfl, List.subset_append_left _ _,
        fun hnone => absurd hnone hn⟩

theorem token_registerAuthAppRemoteObject (callingPid : Int) (authAppRemoteObj : Option Nat)
    (newRecipient addDeathRecipient : Bool) :
    (registerAuthAppRemoteObject callingPid authAppRemoteObj newRecipient addDeathRecipient s).2.authResult.token =
      s.authResult.token := by
  unfold registerAuthAppRemoteObject
  split
  · rfl
  · cases authAppRemoteObj with
    | none => rfl
    | some object =>
        dsimp only
        split <;> rfl

theorem token_updateAuthInfoBegin (u : Nat) (callingPid : Int) (sessionId : Nat) :
    (updateAuthInfoBegin u callingPid sessionId s).authResult.token = s.authResult.token := by
  unfold updateAuthInfoBegin
  split
  · rfl
  · split <;> rfl

/-- What a step does to the connection: nothing, a saved result, an answer, a
disconnection, or a request. -/
theorem step_cases (s : State) (e : Event) :
    (Quiet s (step s e) ∧ (step s e).authResult.token = s.authResult.token) ∨
    (∃ u o, e = .updateEnd u o ∧ step s e = updateAuthInfoEnd u o s) ∨
    (∃ onResult errCode resultCode, step s e = (callbackOnResult onResult errCode resultCode s).2) ∨
    step s e = sessionDisconnectExtension s ∨
    (∃ r, e = .acquire r ∧ step s e = (acquireAuthorization r s).2) := by
  cases e with
  | acquire r => exact .inr (.inr (.inr (.inr ⟨r, rfl, rfl⟩)))
  | register callingPid object newRecipient addDeathRecipient =>
      exact .inl ⟨quiet_registerAuthAppRemoteObject callingPid object newRecipient addDeathRecipient,
        token_registerAuthAppRemoteObject callingPid object newRecipient addDeathRecipient⟩
  | unRegister callingPid onResult =>
      by_cases hpid : s.authAppPid ≠ callingPid
      · left
        simpa only [step, unRegisterAuthAppRemoteObject, if_pos hpid, and_true] using Quiet.refl s
      · right
        right
        left
        exact ⟨onResult, s.errCode, _, by simp only [step, unRegisterAuthAppRemoteObject, if_neg hpid]; rfl⟩
  | hasServiceConnect infos onResult =>
      obtain ht | ht := hasServiceConnect_cases (s := s) infos onResult
      · left
        rw [step, ht]
        exact ⟨Quiet.refl s, rfl⟩
      · exact .inr (.inr (.inl ⟨onResult, _, _, ht⟩))
  | abilityConnectFailed onResult => exact .inr (.inr (.inl ⟨onResult, _, _, rfl⟩))
  | authAppDied object onResult =>
      by_cases hobject : s.authDeathRecipient ∧ s.authAppRemoteObj = some object
      · exact .inr (.inr (.inl ⟨onResult, _, _, if_pos hobject⟩))
      · left
        simpa only [step, onAuthAppRemoteDeath, if_neg hobject, and_true] using Quiet.refl s
  | requesterDied => exact .inr (.inr (.inr (.inl rfl)))
  | updateBegin u callingPid sessionId =>
      exact .inl ⟨quiet_updateAuthInfoBegin u callingPid sessionId,
        token_updateAuthInfoBegin u callingPid sessionId⟩
  | updateEnd u o => exact .inr (.inl ⟨u, o, rfl, rfl⟩)

theorem Linked.step (h : Linked s) (e : Event) : Linked (ModalSession.step s e) := by
  obtain ⟨ht, -⟩ | ⟨u, o, -, ht⟩ | ⟨onResult, errCode, resultCode, ht⟩ | ht | ⟨r, -, ht⟩ := step_cases s e
  · exact h.quiet ht
  · exact ht ▸ h.quiet (quiet_updateAuthInfoEnd u o)
  · exact ht ▸ h.callbackOnResult onResult errCode resultCode
  · exact ht ▸ h.sessionDisconnectExtension
  · exact ht ▸ h.acquireAuthorization r

theorem linked_initial (bootTimeMs : Nat) : Linked (initial bootTimeMs) :=
  ⟨rfl, fun _ => ⟨rfl, rfl, rfl, rfl, rfl, rfl⟩, nofun, nofun, nofun, List.nodup_nil⟩

/-- What runs keep that meet no other request: the data of the connected request
are its own, and so is a token that waits for its reply. -/
structure Owned (s : State) : Prop where
  own : ∀ r ∈ s.replies, Own s r
  connected : ∀ n, s.abilityConnectionStub = some n → Belongs s n
  pending : ∀ n, s.abilityConnectionStub = some n → s.authResult.token ≠ [] →
    ⟨n, .success, s.authResult.token⟩ ∈ s.saves

theorem owned_initial (bootTimeMs : Nat) : Owned (initial bootTimeMs) := by
  refine ⟨fun r hr => ?_, fun n hn => ?_, fun n hn => ?_⟩
  · cases hr
  · cases hn
  · cases hn

theorem Owned.sessionDisconnectExtension (h : Owned s) : Owned (ModalSession.sessionDisconnectExtension s) := by
  unfold ModalSession.sessionDisconnectExtension
  split
  · exact h
  · exact ⟨h.own, nofun, nofun⟩

theorem Owned.callbackOnResult (h : Owned s) (hl : Linked s) (onResult errCode : Ret)
    (resultCode : AuthorizationResultCode) :
    Owned (ModalSession.callbackOnResult onResult errCode resultCode s).2 := by
  cases hn : s.abilityConnectionStub with
  | none => rwa [callbackOnResult_closed hl hn]
  | some n =>
      rw [callbackOnResult_eq hl hn]
      refine ⟨fun r hr => ?_, fun m hm => ?_, fun m hm => ?_⟩
      · obtain hr | hr := List.mem_append.1 hr
        · exact h.own r hr
        · obtain rfl := List.mem_singleton.1 hr
          exact fun _ htoken => h.pending n hn htoken
      · cases hm
      · cases hm

theorem Owned.acquireAuthorization (h : Owned s) (hl : Linked s) {r : Request}
    (hown : OwnRequest s (.acquire r)) : Owned (ModalSession.acquireAuthorization r s).2 := by
  obtain ⟨hn, ht⟩ | ⟨hn, ht⟩ | ⟨hn, ht⟩ | ⟨haccepted, ht⟩ := acquireAuthorization_cases (s := s) r
  · rw [ht]
    refine ⟨?_, ?_, h.pending⟩
    · intro reply hr
      obtain hr | hr := List.mem_append.1 hr
      · exact h.own reply hr
      · obtain rfl := List.mem_singleton.1 hr
        exact fun hcode => nomatch hcode
    · intro n hs
      have hb := h.connected n hs
      have hne : n ≠ s.sessionIdCounter := Nat.ne_of_lt (hl.stub_lt n hs)
      refine ⟨hb.callback, ?_, hb.privilege, hb.appDeathRecipient⟩
      exact (Function.update_of_ne hne _ _).trans hb.info
  · rw [ht]
    exact ⟨h.own, fun n hs => absurd (hn.symm.trans hs) nofun, fun n hs => absurd (hn.symm.trans hs) nofun⟩
  · rw [ht]
    exact ⟨h.own, nofun, nofun⟩
  · rw [ht]
    refine ⟨h.own, ?_, ?_⟩
    · rintro n ⟨⟩
      refine ⟨rfl, Function.update_self _ _ _, rfl, ?_⟩
      exact congrArg some (hown haccepted)
    · rintro n - htoken
      exact absurd rfl htoken

theorem Owned.quiet {t : State} (h : Owned s) (ht : Quiet s t)
    (hpending : ∀ n, s.abilityConnectionStub = some n → t.authResult.token ≠ [] →
      ⟨n, .success, t.authResult.token⟩ ∈ t.saves) : Owned t where
  own r hr hcode htoken := ht.saves (h.own r (ht.replies ▸ hr) hcode htoken)
  connected n hn := by
    have hb := h.connected n (ht.stub ▸ hn)
    refine ⟨?_, ?_, ?_, ?_⟩
    · rw [ht.callback, hb.callback]
    · rw [ht.requests, ht.info, hb.info]
    · rw [ht.privilege, ht.info, hb.privilege]
    · rw [ht.appDeathRecipient, ht.info, hb.appDeathRecipient]
  pending n hn := hpending n (ht.stub ▸ hn)

theorem pending_updateAuthInfoEnd (h : Owned s) {u : Nat} {o : UpdateOutcome} (hown : OwnRequest s (.updateEnd u o))
    (hn : s.abilityConnectionStub = some n) (htoken : (updateAuthInfoEnd u o s).authResult.token ≠ []) :
    ⟨n, .success, (updateAuthInfoEnd u o s).authResult.token⟩ ∈ (updateAuthInfoEnd u o s).saves := by
  cases hu : s.updates u with
  | none =>
      simp only [updateAuthInfoEnd, hu] at htoken ⊢
      exact h.pending n hn htoken
  | some m =>
      obtain rfl : n = m := hown m hu n hn
      simp only [updateAuthInfoEnd, hu, saveAuthorizationResult, hn, Option.isNone_some, Bool.false_eq_true,
        if_false] at htoken ⊢
      by_cases ho : o.errCode = .ok () ∧ o.resultCode = .success
      · simp [ho]
      · rw [if_neg ho] at htoken
        exact absurd rfl htoken

theorem Owned.step (h : Owned s) (hl : Linked s) {e : Event} (hown : OwnRequest s e) :
    Owned (ModalSession.step s e) := by
  obtain ⟨ht, htoken⟩ | ⟨u, o, rfl, ht⟩ | ⟨onResult, errCode, resultCode, ht⟩ | ht |
      ⟨r, rfl, ht⟩ := step_cases s e
  · refine h.quiet ht ?_
    rw [htoken]
    exact fun n hn hne => ht.saves (h.pending n hn hne)
  · rw [ht]
    exact h.quiet (quiet_updateAuthInfoEnd u o) fun n hn => pending_updateAuthInfoEnd h hown hn
  · exact ht ▸ h.callbackOnResult hl onResult errCode resultCode
  · exact ht ▸ h.sessionDisconnectExtension
  · exact ht ▸ h.acquireAuthorization hl hown

theorem NoLeak.of_linked (hl : Linked s) (h : Owned s) : NoLeak s := ⟨hl.once, h.own, hl.closed, h.connected⟩

/-- The session leaks nothing in a run whose requests find their own bundle name
and whose results are saved while their session is connected. -/
theorem session_never_leaks (bootTimeMs : Nat) (es : List Event)
    (hes : Machine.Meets step OwnRequest (initial bootTimeMs) es) :
    NoLeak (Machine.run step (initial bootTimeMs) es) := by
  have h : Linked (Machine.run step (initial bootTimeMs) es) ∧
      Owned (Machine.run step (initial bootTimeMs) es) :=
    @Machine.run_invariant_of_meets _ _ step OwnRequest (fun s => Linked s ∧ Owned s)
      (fun s e h hown => ⟨h.1.step e, h.2.step h.1 hown⟩) _
      ⟨linked_initial bootTimeMs, owned_initial bootTimeMs⟩ es hes
  exact NoLeak.of_linked h.1 h.2

def adminRequest (openSmartPidFd : Ret) : Request where
  bundleName := "com.ohos.authapp"
  abilityName := "AuthService"
  privilege := "ohos.privilege.manage_local_accounts"
  callingPid := 5
  isReuseNeeded := false
  callbackObject := true
  addDeathRecipient := true
  newStub := true
  openSmartPidFd
  connectServiceExtensionAbility := .ok ()

def granted : UpdateOutcome := ⟨.ok (), .success, [7], 100⟩

/-- The pid of the first requester cannot be opened, and the second one is granted
its privilege. -/
def grantedRun : List Event :=
  [.acquire (adminRequest (.error (.sys 3))), .acquire (adminRequest (.ok ())), .register 9 (some 1) true true,
    .updateBegin 0 9 1, .updateEnd 0 granted, .unRegister 9 (.ok ())]

theorem session_never_leaks_granted :
    (Machine.run step (initial 0) grantedRun).replies.map (fun r => (r.receiver, r.result.token)) = [(1, [7])] ∧
      NoLeak (Machine.run step (initial 0) grantedRun) :=
  ⟨rfl, session_never_leaks 0 grantedRun ⟨(nomatch ·.2.2.2.2.1), fun _ => rfl, trivial, trivial,
    by rintro m ⟨⟩ n ⟨⟩; rfl, trivial, trivial⟩⟩

/-- The widget leaves while its result is being computed, and the result is saved
for the request that comes next. -/
def crossedRun : List Event :=
  [.acquire (adminRequest (.ok ())), .register 9 (some 1) true true, .updateBegin 0 9 0, .unRegister 9 (.ok ()),
    .acquire (adminRequest (.ok ())), .updateEnd 0 granted, .register 9 (some 2) true true, .unRegister 9 (.ok ())]

theorem saved_result_leaks :
    ¬ NoLeak (Machine.run step (initial 0) [.acquire (adminRequest (.ok ()))]) ∧
      ¬ NoLeak (Machine.run step (initial 0) crossedRun) := by
  refine ⟨?_, ?_⟩
  · intro h
    -- the recipient was made with the bundle name of no request
    have hrecipient := (h.connected 0 rfl).appDeathRecipient
    exact absurd hrecipient (by decide)
  · intro h
    have hsaved := h.own _ (List.mem_cons_of_mem _ List.mem_cons_self) rfl (by decide)
    obtain ⟨⟩ | ⟨_, ⟨⟩⟩ := hsaved

end OsAccount.ModalSession
