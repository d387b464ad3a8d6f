import OsAccount.AuthorizationSessions
import OsAccount.Machine

namespace OsAccount.AuthorizationSessionMaps

open Std PrivilegeRecords PrivilegeUpdate AuthorizationSessions

/-- The maps agree: each stored pid has the same session everywhere, and the
session ids are those of the stored sessions. -/
structure Consistent (s : State) : Prop where
  fresh {n : Nat} : s.sessionIdCounter ≤ n → s.sessions n = none
  sessionId {n : Nat} {session : Session} : s.sessions n = some session →
    session.connectCallback.info.sessionId = n
  connectback (pid : Int) : s.connectbackMap[pid]? = s.callbackMap[pid]?
  pidToUid (pid : Int) : pid ∈ s.pidToUidMap ↔ pid ∈ s.callbackMap
  pidFd (pid : Int) : pid ∈ s.pidFdMap ↔ pid ∈ s.callbackMap
  sessionIdToPid {n : Nat} {pid : Int} : s.sessionIdToPidMap[n]? = some pid ↔ s.callbackMap[pid]? = some n
  stored {pid : Int} {n : Nat} : s.callbackMap[pid]? = some n →
    ∃ session, s.sessions n = some session ∧ session.started = true ∧ session.connectCallback.info.callingPid = pid

variable {s : State} {n : Nat} {session session' : Session}

theorem consistent_initial (bootTimeMs : Nat) : Consistent (initial bootTimeMs) := by
  refine ⟨fun _ => rfl, fun h => ?_, fun _ => rfl, fun _ => ?_, fun _ => ?_, ?_, fun h => ?_⟩
  all_goals simp_all [initial]

theorem Consistent.lt_counter (h : Consistent s) (hn : s.sessions n = some session) : n < s.sessionIdCounter := by
  by_contra hle
  rw [h.fresh (Nat.not_lt.mp hle)] at hn
  cases hn

theorem Consistent.frame (h : Consistent s) (answers : List Answer) (updates : Nat → Option Update)
    (requestRemoteObjectMap : ExtTreeMap Int RemoteObject compare) :
    Consistent { s with
      answers := answers
      updates := updates
      requestRemoteObjectMap := requestRemoteObjectMap } :=
  ⟨h.fresh, h.sessionId, h.connectback, h.pidToUid, h.pidFd, h.sessionIdToPid, h.stored⟩

theorem Consistent.setSession (h : Consistent s) (hn : s.sessions n = some session)
    (hstarted : session'.started = session.started)
    (hinfo : session'.connectCallback.info = session.connectCallback.info) :
    Consistent (s.setSession n session') where
  fresh {m} hm := by
    have hne : m ≠ n := fun he => absurd (h.lt_counter hn) (Nat.not_lt.mpr (he ▸ hm))
    simpa [State.setSession, hne] using h.fresh hm
  sessionId {m x} hx := by
    by_cases hm : m = n
    · subst hm
      obtain rfl : session' = x := by simpa [State.setSession] using hx
      rw [hinfo, h.sessionId hn]
    · exact h.sessionId (by simpa [State.setSession, hm] using hx)
  connectback := h.connectback
  pidToUid := h.pidToUid
  pidFd := h.pidFd
  sessionIdToPid := h.sessionIdToPid
  stored {pid m} hm := by
    obtain ⟨x, hx, hon, hpid⟩ := h.stored hm
    by_cases hmn : m = n
    · subst hmn
      obtain rfl := Option.some.inj (hn.symm.trans hx)
      exact ⟨session', by simp [State.setSession], by rw [hstarted, hon], by rw [hinfo, hpid]⟩
    · exact ⟨x, by simpa [State.setSession, hmn] using hx, hon, hpid⟩

theorem getElem?_eraseSession_callbackMap (pid k : Int) :
    (eraseSession pid s).callbackMap[k]? = if pid = k then none else s.callbackMap[k]? := by
  simp [eraseSession, cleanupAuthorizationSessionMaps, ExtTreeMap.getElem?_erase]

theorem Consistent.eraseSession (h : Consistent s) (pid : Int) : Consistent (eraseSession pid s) where
  fresh := h.fresh
  sessionId := h.sessionId
  connectback k := by
    simp [AuthorizationSessions.eraseSession, cleanupAuthorizationSessionMaps,
      ExtTreeMap.getElem?_erase, h.connectback]
  pidToUid k := by
    simp [AuthorizationSessions.eraseSession, cleanupAuthorizationSessionMaps,
      ExtTreeMap.mem_erase, h.pidToUid]
  pidFd k := by
    simp [AuthorizationSessions.eraseSession, cleanupAuthorizationSessionMaps, ExtTreeMap.mem_erase, h.pidFd]
  sessionIdToPid {m k} := by
    rw [getElem?_eraseSession_callbackMap]
    cases hp : s.callbackMap[pid]? with
    | none =>
        have hmap : (AuthorizationSessions.eraseSession pid s).sessionIdToPidMap = s.sessionIdToPidMap := by
          simp [AuthorizationSessions.eraseSession, cleanupAuthorizationSessionMaps, h.connectback, hp]
        rw [hmap, h.sessionIdToPid]
        by_cases hk : pid = k
        · simp [← hk, hp]
        · simp [hk]
    | some i =>
        obtain ⟨x, hx, -⟩ := h.stored hp
        have hmap : (AuthorizationSessions.eraseSession pid s).sessionIdToPidMap =
            s.sessionIdToPidMap.erase i := by
          simp [AuthorizationSessions.eraseSession, cleanupAuthorizationSessionMaps, h.connectback, hp, hx,
            h.sessionId hx]
        rw [hmap, ExtTreeMap.getElem?_erase]
        by_cases hi : i = m
        · -- the id of the erased session leads nowhere else
          subst hi
          simp only [LawfulEqCmp.compare_eq_iff_eq, if_true, reduceCtorEq, false_iff]
          by_cases hk : pid = k
          · simp [hk]
          · rw [if_neg hk, ← h.sessionIdToPid, h.sessionIdToPid.mpr hp]
            simpa using hk
        · rw [if_neg (by simpa using hi), h.sessionIdToPid]
          by_cases hk : pid = k
          · simp [← hk, hp, hi]
          · simp [hk]
  stored {k m} hk := by
    rw [getElem?_eraseSession_callbackMap] at hk
    rw [Option.ite_none_left_eq_some] at hk
    exact h.stored hk.2

/-- What a request does: nothing, a session that is refused, with or without an
answer, or a session that is stored under a pid that was free. -/
theorem acquireAuthorization_cases (r : Request) (s : State) :
    acquireAuthorization r s = s ∨
      acquireAuthorization r s = createSession r false s ∨
      acquireAuthorization r s = (createSession r false s).answer (busyAnswer s.sessionIdCounter r.privilege) ∨
      (r.callingPid ∉ s.callbackMap ∧ ∃ fd, acquireAuthorization r s =
        storeMaps fd (r.info s.sessionIdCounter) r.requestRemoteObj (createSession r true s)) := by
  unfold acquireAuthorization storeCallbackMaps
  cases r.prepared with
  | error ret => exact .inl rfl
  | ok _ =>
      by_cases hsize : s.callbackMap.size ≥ maxCallbackMapSize
      · exact .inr (.inr (.inl (by simp [hsize])))
      · by_cases hpid : r.callingPid ∈ s.callbackMap
        · exact .inr (.inr (.inl (by simp [hsize, Request.info, hpid])))
        · cases hfd : r.openSmartPidFd with
          | error ret => exact .inr (.inl (by simp [hsize, Request.info, hpid]))
          | ok fd => exact .inr (.inr (.inr ⟨hpid, fd, by simp [hsize, Request.info, hpid]; rfl⟩))

theorem createSession_sessions (r : Request) (started : Bool) (s : State) (m : Nat) :
    (createSession r started s).sessions m =
      if m = s.sessionIdCounter then some (r.session s.sessionIdCounter started) else s.sessions m := by
  by_cases hm : m = s.sessionIdCounter
  · subst hm
    simp [createSession, State.setSession]
  · simp [createSession, State.setSession, hm]

theorem Consistent.createSession (h : Consistent s) (r : Request) (started : Bool) :
    Consistent (createSession r started s) where
  fresh {m} hm := by
    have hlt : s.sessionIdCounter < m := hm
    rw [createSession_sessions, if_neg (by omega)]
    exact h.fresh (by omega)
  sessionId {m x} hx := by
    rw [createSession_sessions] at hx
    split at hx
    · rename_i hm
      obtain rfl := Option.some.inj hx
      exact hm.symm
    · exact h.sessionId hx
  connectback := h.connectback
  pidToUid := h.pidToUid
  pidFd := h.pidFd
  sessionIdToPid := h.sessionIdToPid
  stored {pid m} hm := by
    obtain ⟨x, hx, hon, hpid⟩ := h.stored hm
    have hlt := h.lt_counter hx
    exact ⟨x, by rw [createSession_sessions, if_neg (by omega), hx], hon, hpid⟩

theorem Consistent.storeMaps (h : Consistent s) (hn : s.sessions n = some session) (hstarted : session.started = true)
    (hnew : ∀ pid : Int, s.callbackMap[pid]? ≠ some n) {info : SessionInfo}
    (hinfo : session.connectCallback.info = info) (hpid : info.callingPid ∉ s.callbackMap) (fd : Int)
    (requestRemoteObj : RemoteObject) : Consistent (storeMaps fd info requestRemoteObj s) := by
  have hid : info.sessionId = n := by rw [← hinfo, h.sessionId hn]
  refine ⟨h.fresh, h.sessionId, fun k => ?_, fun k => ?_, fun k => ?_, fun {m k} => ?_, fun {k m} hk => ?_⟩
  · simp [AuthorizationSessions.storeMaps, ExtTreeMap.getElem?_insert, h.connectback]
  · simp [AuthorizationSessions.storeMaps, h.pidToUid]
  · simp [AuthorizationSessions.storeMaps, h.pidFd]
  · have hfree : s.callbackMap[info.callingPid]? = none := ExtTreeMap.getElem?_eq_none hpid
    simp only [AuthorizationSessions.storeMaps, ExtTreeMap.getElem?_insert,
      LawfulEqCmp.compare_eq_iff_eq, hid]
    by_cases hm : n = m
    · subst hm
      by_cases hk : info.callingPid = k
      · simp [hk]
      · simp [hk, hnew k]
    · rw [if_neg hm, h.sessionIdToPid]
      by_cases hk : info.callingPid = k
      · simp [← hk, hfree, hm]
      · simp [hk]
  · simp only [AuthorizationSessions.storeMaps, ExtTreeMap.getElem?_insert,
      LawfulEqCmp.compare_eq_iff_eq, hid] at hk
    split at hk
    · rename_i hk'
      obtain rfl := Option.some.inj hk
      exact ⟨session, hn, hstarted, by rw [hinfo, hk']⟩
    · exact h.stored hk

theorem Consistent.counter_not_stored (h : Consistent s) (pid : Int) :
    s.callbackMap[pid]? ≠ some s.sessionIdCounter := by
  intro hp
  obtain ⟨x, hx, -⟩ := h.stored hp
  exact absurd (h.lt_counter hx) (Nat.lt_irrefl _)

def answerOf (session : Session) (receiver : Nat) (errorCode : Ret) (iamResultCode : Int) : Answer :=
  let report := session.connectCallback.report errorCode iamResultCode
  ⟨receiver, report.1, report.2.1, session.connectCallback.info.sessionId, report.2.2⟩

theorem onResult_eq (hn : s.sessions n = some session) (hstarted : session.started = true) {receiver : Nat}
    (hreceiver : s.callbackMap[session.connectCallback.info.callingPid]? = some receiver) (errorCode : Ret)
    (iamResultCode : Int) :
    AuthorizationSessions.onResult n errorCode iamResultCode s =
      (AuthorizationSessions.eraseSession session.connectCallback.info.callingPid s).answer
        (answerOf session receiver errorCode iamResultCode) := by
  unfold AuthorizationSessions.onResult acquireAuthorizationOnResultfunc
  simp only [hn, hstarted, if_true, hreceiver]
  rfl

/-- What the report of a connect callback does: nothing, or an answer to the
session that is stored under its pid. -/
theorem onResult_cases (n : Nat) (errorCode : Ret) (iamResultCode : Int) (s : State) :
    AuthorizationSessions.onResult n errorCode iamResultCode s = s ∨
      ∃ session receiver, s.sessions n = some session ∧ session.started = true ∧
        s.callbackMap[session.connectCallback.info.callingPid]? = some receiver ∧
        AuthorizationSessions.onResult n errorCode iamResultCode s =
          (AuthorizationSessions.eraseSession session.connectCallback.info.callingPid s).answer
            (answerOf session receiver errorCode iamResultCode) := by
  cases hn : s.sessions n with
  | none => exact .inl (by simp [AuthorizationSessions.onResult, hn])
  | some session =>
      by_cases hstarted : session.started = true
      · cases hp : s.callbackMap[session.connectCallback.info.callingPid]? with
        | none => exact .inl (by simp [AuthorizationSessions.onResult,
            acquireAuthorizationOnResultfunc, hn, hp])
        | some receiver => exact .inr ⟨session, receiver, rfl, hstarted, hp, onResult_eq hn hstarted hp _ _⟩
      · exact .inl (by simp [AuthorizationSessions.onResult, hn, hstarted])

theorem executeUIExtensionTask_cases (n : Nat) (onConnectAbility : Ret) (s : State) :
    executeUIExtensionTask n onConnectAbility s = s ∨
      ∃ session, s.sessions n = some session ∧ session.connecting = true ∧
        (executeUIExtensionTask n onConnectAbility s = s.setSession n { session with connecting := false } ∨
          ∃ ret, onConnectAbility = .error ret ∧ executeUIExtensionTask n onConnectAbility s =
            (AuthorizationSessions.eraseSession session.connectCallback.info.callingPid
              (s.setSession n { session with connecting := false })).answer ⟨n, .error ret,
                AuthorizationResult.ofPrivilege session.connectCallback.info.privilege, n, n⟩) := by
  unfold executeUIExtensionTask
  cases hn : s.sessions n with
  | none => exact .inl rfl
  | some session =>
      by_cases hconnecting : session.connecting
      · cases onConnectAbility with
        | ok _ => exact .inr ⟨session, rfl, hconnecting, .inl (by simp [hconnecting])⟩
        | error ret => exact .inr ⟨session, rfl, hconnecting, .inr ⟨ret, rfl, by simp [hconnecting]⟩⟩
      · exact .inl (by simp [hconnecting])

theorem updateAuthInfoBegin_cases (u sessionId : Nat) (s : State) :
    ∃ update, updateAuthInfoBegin u sessionId s = s.setUpdate u update := by
  unfold updateAuthInfoBegin
  split
  · exact ⟨_, rfl⟩
  · exact ⟨s.updates u, by simp [State.setUpdate]⟩

theorem updateAuthInfoApply_cases (u : Nat) (a : TaAnswer) (s : State) :
    ∃ update remoteObjects, updateAuthInfoApply u a s =
      { s.setUpdate u update with requestRemoteObjectMap := remoteObjects } := by
  unfold updateAuthInfoApply
  split
  · split
    · exact ⟨_, _, rfl⟩
    · exact ⟨_, s.requestRemoteObjectMap, rfl⟩
  · exact ⟨s.updates u, s.requestRemoteObjectMap, by simp [State.setUpdate]⟩

theorem updateAuthInfoEnd_cases (u : Nat) (s : State) :
    (∃ update, updateAuthInfoEnd u s = s.setUpdate u update) ∨
      ∃ info outcome n session, s.updates u = some ⟨info, some outcome⟩ ∧
        s.connectbackMap[info.callingPid]? = some n ∧ s.sessions n = some session ∧
        updateAuthInfoEnd u s = (s.setUpdate u none).setSession n { session with
          connectCallback := session.connectCallback.updateAuthorizationResult outcome info.sessionId } := by
  unfold updateAuthInfoEnd
  split
  · rename_i info outcome hu
    simp only [State.setUpdate]
    split
    · exact .inl ⟨none, rfl⟩
    · rename_i n hn
      split
      · exact .inl ⟨none, rfl⟩
      · rename_i session hsession
        exact .inr ⟨info, outcome, n, session, hu, hn, hsession, rfl⟩
  · exact .inl ⟨s.updates u, by simp [State.setUpdate]⟩

theorem onRemoteDied_cases (object : Nat) (s : State) :
    onRemoteDied object s = s ∨ ∃ pid, onRemoteDied object s = AuthorizationSessions.eraseSession pid s := by
  unfold onRemoteDied
  split
  · exact .inl rfl
  · exact .inr ⟨_, rfl⟩

end OsAccount.AuthorizationSessionMaps
