import OsAccount.AuthorizationSessionMaps

namespace OsAccount.SessionSeparation

open Std PrivilegeRecords PrivilegeUpdate AuthorizationSessions AuthorizationSessionMaps

structure MapsAgree (s : State) : Prop where
  connectback (pid : Int) : pid ∈ s.connectbackMap ↔ pid ∈ s.callbackMap
  pidToUid (pid : Int) : pid ∈ s.pidToUidMap ↔ pid ∈ s.callbackMap
  pidFd (pid : Int) : pid ∈ s.pidFdMap ↔ pid ∈ s.callbackMap
  injective {m n : Nat} {pid : Int} : s.sessionIdToPidMap[m]? = some pid → s.sessionIdToPidMap[n]? = some pid → m = n
  image (pid : Int) : (∃ n : Nat, s.sessionIdToPidMap[n]? = some pid) ↔ pid ∈ s.callbackMap

def Own (s : State) (a : Answer) : Prop :=
  (∃ session, s.sessions a.receiver = some session ∧ a.result.privilege = session.connectCallback.info.privilege) ∧
    a.privilegeFrom = a.receiver ∧ a.resultFrom = a.receiver

structure SessionsApart (s : State) : Prop where
  maps : MapsAgree s
  once : (s.answers.map Answer.receiver).Nodup
  own : ∀ a ∈ s.answers, Own s a

/-- The step meets no other session: what is stored under the pid of a report or
of a finished update is the same session, and a session whose connection fails
has not been answered before. -/
def OwnSession (s : State) : Event → Prop
  | .onResult n _ _ => ∀ session ∈ s.sessions n, session.started = true →
      ∀ m ∈ s.callbackMap[session.connectCallback.info.callingPid]?, m = n
  | .connected n (.error _) => ∀ session ∈ s.sessions n, session.connecting = true →
      n ∉ s.answers.map Answer.receiver
  | .updateEnd u => ∀ update ∈ s.updates u, update.outcome.isSome = true →
      ∀ m ∈ s.connectbackMap[update.info.callingPid]?, m = update.info.sessionId
  | _ => True

instance (s : State) : (e : Event) → Decidable (OwnSession s e)
  | .acquire _ | .connected _ (.ok _) | .updateBegin _ _ | .updateApply _ _ | .remoteDied _ => .isTrue trivial
  | .onResult n _ _ => inferInstanceAs (Decidable (∀ session ∈ s.sessions n, session.started = true →
      ∀ m ∈ s.callbackMap[session.connectCallback.info.callingPid]?, m = n))
  | .connected n (.error _) => inferInstanceAs (Decidable (∀ session ∈ s.sessions n, session.connecting = true →
      n ∉ s.answers.map Answer.receiver))
  | .updateEnd u => inferInstanceAs (Decidable (∀ update ∈ s.updates u, update.outcome.isSome = true →
      ∀ m ∈ s.connectbackMap[update.info.callingPid]?, m = update.info.sessionId))

/-- What a run that meets no other session keeps: a stored session has not been
answered, and a saved result is the session's own. -/
structure Separated (s : State) : Prop where
  consistent : Consistent s
  unanswered {pid : Int} {n : Nat} : s.callbackMap[pid]? = some n → n ∉ s.answers.map Answer.receiver
  saved {n : Nat} {session : Session} : s.sessions n = some session →
    session.connectCallback.savedFrom = n ∧
      session.connectCallback.result.privilege = session.connectCallback.info.privilege
  once : (s.answers.map Answer.receiver).Nodup
  own : ∀ a ∈ s.answers, Own s a

variable {s : State} {n : Nat} {session session' : Session}

theorem mapsAgree_of_consistent (h : Consistent s) : MapsAgree s where
  connectback pid := by
    rw [ExtTreeMap.mem_iff_isSome_getElem?, ExtTreeMap.mem_iff_isSome_getElem?, h.connectback]
  pidToUid := h.pidToUid
  pidFd := h.pidFd
  injective {m n pid} hm hn := by
    rw [h.sessionIdToPid] at hm hn
    exact Option.some.inj (hm.symm.trans hn)
  image pid := by
    simp only [h.sessionIdToPid]
    rw [ExtTreeMap.mem_iff_isSome_getElem?, Option.isSome_iff_exists]

theorem separated_initial (bootTimeMs : Nat) : Separated (initial bootTimeMs) := by
  refine ⟨consistent_initial bootTimeMs, fun _ => ?_, fun h => ?_, .nil, fun a ha => ?_⟩
  · simp [initial]
  · cases h
  · cases ha

theorem Separated.frame (h : Separated s) (updates : Nat → Option Update)
    (requestRemoteObjectMap : ExtTreeMap Int RemoteObject compare) :
    Separated { s with updates := updates, requestRemoteObjectMap := requestRemoteObjectMap } :=
  ⟨h.consistent.frame _ _ _, h.unanswered, h.saved, h.once, h.own⟩

theorem Separated.setSession (h : Separated s) (hn : s.sessions n = some session)
    (hstarted : session'.started = session.started)
    (hinfo : session'.connectCallback.info = session.connectCallback.info)
    (hfrom : session'.connectCallback.savedFrom = n)
    (hprivilege : session'.connectCallback.result.privilege = session'.connectCallback.info.privilege) :
    Separated (s.setSession n session') where
  consistent := h.consistent.setSession hn hstarted hinfo
  unanswered := h.unanswered
  saved {m x} hx := by
    by_cases hm : m = n
    · subst hm
      obtain rfl : session' = x := by simpa [State.setSession] using hx
      exact ⟨hfrom, hprivilege⟩
    · exact h.saved (by simpa [State.setSession, hm] using hx)
  once := h.once
  own a ha := by
    obtain ⟨⟨x, hx, hp⟩, hfroms⟩ := h.own a ha
    refine ⟨?_, hfroms⟩
    by_cases hm : a.receiver = n
    · rw [hm] at hx ⊢
      obtain rfl := Option.some.inj (hn.symm.trans hx)
      exact ⟨session', by simp [State.setSession], by rw [hinfo, hp]⟩
    · exact ⟨x, by simpa [State.setSession, hm] using hx, hp⟩

theorem Separated.eraseSession (h : Separated s) (pid : Int) : Separated (eraseSession pid s) where
  consistent := h.consistent.eraseSession pid
  unanswered {k m} hk := by
    rw [getElem?_eraseSession_callbackMap, Option.ite_none_left_eq_some] at hk
    exact h.unanswered hk.2
  saved := h.saved
  once := h.once
  own := h.own

theorem Separated.answer (h : Separated s) {a : Answer} (hstored : ∀ pid : Int, s.callbackMap[pid]? ≠ some a.receiver)
    (hnew : a.receiver ∉ s.answers.map Answer.receiver) (hown : Own s a) : Separated (s.answer a) where
  consistent := h.consistent.frame _ _ _
  unanswered {pid m} hm := by
    have hne : m ≠ a.receiver := fun he => hstored pid (he ▸ hm)
    simpa [State.answer, hne] using h.unanswered hm
  saved := h.saved
  once := by
    simp only [State.answer, List.map_append, List.map_cons, List.map_nil]
    rw [List.nodup_append]
    refine ⟨h.once, by simp, fun m hm k hk he => hnew ?_⟩
    rwa [← List.mem_singleton.mp hk, ← he]
  own b hb := by
    obtain hb | hb := List.mem_append.mp hb
    · exact h.own b hb
    · rw [List.mem_singleton.mp hb]
      exact hown

theorem Separated.createSession (h : Separated s) (r : Request) (started : Bool) :
    Separated (createSession r started s) where
  consistent := h.consistent.createSession r started
  unanswered := h.unanswered
  saved {m x} hx := by
    rw [createSession_sessions] at hx
    split at hx
    · rename_i hm
      obtain rfl := Option.some.inj hx
      exact ⟨hm.symm, rfl⟩
    · exact h.saved hx
  once := h.once
  own a ha := by
    obtain ⟨⟨x, hx, hp⟩, hfroms⟩ := h.own a ha
    have hlt := h.consistent.lt_counter hx
    exact ⟨⟨x, by rw [createSession_sessions, if_neg (by omega), hx], hp⟩, hfroms⟩

theorem Separated.counter_unanswered (h : Separated s) : s.sessionIdCounter ∉ s.answers.map Answer.receiver := by
  intro hmem
  obtain ⟨a, ha, he⟩ := List.mem_map.mp hmem
  obtain ⟨⟨x, hx, -⟩, -⟩ := h.own a ha
  have hlt := h.consistent.lt_counter hx
  omega

theorem separated_acquire (h : Separated s) (r : Request) : Separated (acquireAuthorization r s) := by
  have hcreated (started : Bool) : (createSession r started s).sessions s.sessionIdCounter =
      some (r.session s.sessionIdCounter started) := by
    rw [createSession_sessions, if_pos rfl]
  obtain hs | hs | hs | ⟨hpid, fd, hs⟩ := acquireAuthorization_cases r s
  · rw [hs]
    exact h
  · rw [hs]
    exact h.createSession r false
  · rw [hs]
    refine (h.createSession r false).answer (fun pid => ?_) ?_ ⟨⟨_, hcreated false, rfl⟩, rfl, rfl⟩
    · exact h.consistent.counter_not_stored pid
    · exact h.counter_unanswered
  · rw [hs]
    have h' := h.createSession r true
    refine ⟨?_, fun {pid m} hm => ?_, h'.saved, h'.once, h'.own⟩
    · exact h'.consistent.storeMaps
        (hcreated true) rfl h.consistent.counter_not_stored rfl hpid fd r.requestRemoteObj
    · simp only [storeMaps, ExtTreeMap.getElem?_insert, LawfulEqCmp.compare_eq_iff_eq] at hm
      split at hm
      · rw [← Option.some.inj hm]
        exact h.counter_unanswered
      · exact h.unanswered hm

theorem report_privilege {c : ConnectAbilityCallback} (h : c.result.privilege = c.info.privilege) (errorCode : Ret)
    (iamResultCode : Int) : (c.report errorCode iamResultCode).2.1.privilege = c.info.privilege := by
  unfold ConnectAbilityCallback.report
  cases errorCode with
  | error ret => rfl
  | ok _ =>
      dsimp only
      split_ifs
      · rfl
      · exact h
      · rfl

theorem report_resultFrom {c : ConnectAbilityCallback} (h : c.savedFrom = c.info.sessionId) (errorCode : Ret)
    (iamResultCode : Int) : (c.report errorCode iamResultCode).2.2 = c.info.sessionId := by
  unfold ConnectAbilityCallback.report
  cases errorCode with
  | error ret => rfl
  | ok _ =>
      dsimp only
      split_ifs
      · rfl
      · exact h
      · rfl

theorem Separated.not_stored_eraseSession (h : Separated s) (hn : s.sessions n = some session) (k : Int) :
    (AuthorizationSessions.eraseSession session.connectCallback.info.callingPid s).callbackMap[k]? ≠ some n := by
  rw [getElem?_eraseSession_callbackMap]
  intro hk
  rw [Option.ite_none_left_eq_some] at hk
  obtain ⟨x, hx, -, hpid⟩ := h.consistent.stored hk.2
  obtain rfl := Option.some.inj (hn.symm.trans hx)
  exact hk.1 hpid

theorem separated_onResult (h : Separated s) (n : Nat) (errorCode : Ret) (iamResultCode : Int)
    (hown : OwnSession s (.onResult n errorCode iamResultCode)) :
    Separated (onResult n errorCode iamResultCode s) := by
  obtain hs | ⟨session, receiver, hn, hstarted, hreceiver, hs⟩ := onResult_cases n errorCode iamResultCode s
  · rw [hs]
    exact h
  · rw [hs]
    obtain rfl : receiver = n := hown session hn hstarted receiver hreceiver
    obtain ⟨hfrom, hprivilege⟩ := h.saved hn
    have hid := h.consistent.sessionId hn
    have hresult := report_resultFrom (hfrom.trans hid.symm) errorCode iamResultCode
    exact (h.eraseSession session.connectCallback.info.callingPid).answer (h.not_stored_eraseSession hn)
      (h.unanswered hreceiver)
      ⟨⟨session, hn, report_privilege hprivilege errorCode iamResultCode⟩, hid, hresult.trans hid⟩

theorem separated_connected (h : Separated s) (n : Nat) (onConnectAbility : Ret)
    (hown : OwnSession s (.connected n onConnectAbility)) :
    Separated (executeUIExtensionTask n onConnectAbility s) := by
  obtain hs | ⟨session, hn, hconnecting, hcase⟩ := executeUIExtensionTask_cases n onConnectAbility s
  · rw [hs]
    exact h
  obtain ⟨hfrom, hprivilege⟩ := h.saved hn
  have h' : Separated (s.setSession n { session with connecting := false }) :=
    h.setSession hn rfl rfl hfrom hprivilege
  have hn' : (s.setSession n { session with connecting := false }).sessions n =
      some { session with connecting := false } := by simp [State.setSession]
  obtain hs | ⟨ret, rfl, hs⟩ := hcase
  · rw [hs]
    exact h'
  · rw [hs]
    refine (h'.eraseSession _).answer (fun k => ?_) (hown session hn hconnecting) ⟨⟨_, hn', rfl⟩, rfl, rfl⟩
    exact h'.not_stored_eraseSession hn' k

theorem separated_updateEnd (h : Separated s) (u : Nat) (hown : OwnSession s (.updateEnd u)) :
    Separated (updateAuthInfoEnd u s) := by
  obtain ⟨update, hs⟩ | ⟨info, outcome, n, session, hu, hstored, hn, hs⟩ := updateAuthInfoEnd_cases u s
  · rw [hs]
    exact h.frame _ _
  · rw [hs]
    have hid : n = info.sessionId := hown _ hu rfl n hstored
    exact (h.frame _ _ : Separated (s.setUpdate u none)).setSession hn rfl rfl hid.symm rfl

theorem separated_step (h : Separated s) (e : Event) (hown : OwnSession s e) : Separated (step s e) := by
  cases e with
  | acquire r => exact separated_acquire h r
  | onResult n errorCode iamResultCode => exact separated_onResult h n errorCode iamResultCode hown
  | connected n onConnectAbility => exact separated_connected h n onConnectAbility hown
  | updateBegin u sessionId =>
      obtain ⟨update, hs⟩ := updateAuthInfoBegin_cases u sessionId s
      rw [step, hs]
      exact h.frame _ _
  | updateApply u a =>
      obtain ⟨update, remoteObjects, hs⟩ := updateAuthInfoApply_cases u a s
      rw [step, hs]
      exact h.frame _ _
  | updateEnd u => exact separated_updateEnd h u hown
  | remoteDied object =>
      obtain hs | ⟨pid, hs⟩ := onRemoteDied_cases object s
      · rw [step, hs]
        exact h
      · rw [step, hs]
        exact h.eraseSession pid

/-- In every run whose steps meet no other session, the sessions stay apart. -/
theorem sessions_apart (bootTimeMs : Nat) (events : List Event)
    (hown : Machine.Meets step OwnSession (initial bootTimeMs) events) :
    SessionsApart (Machine.run step (initial bootTimeMs) events) := by
  have h : Separated (Machine.run step (initial bootTimeMs) events) :=
    @Machine.run_invariant_of_meets _ _ step OwnSession Separated (fun _ e h => separated_step h e) _
      (separated_initial bootTimeMs) _ hown
  exact ⟨mapsAgree_of_consistent h.consistent, h.once, h.own⟩

section examples

def request (privilege : String) : Request :=
  ⟨.ok (), .ok 3, 7, 20010001, privilege, true, true, 0, ⟨7, 500⟩⟩

def granted : TaAnswer := ⟨.ok true, .ok ([1, 2], 300), .ok ()⟩

def grantedSession : List Event :=
  [.acquire (request "ohos.privilege.manage_local_accounts"), .connected 0 (.ok ()), .updateBegin 0 0,
    .updateApply 0 granted, .updateEnd 0, .onResult 0 (.ok ()) 0]

def nextSession : List Event :=
  grantedSession ++ [.acquire (request "ohos.privilege.kill_process"), .onResult 1 (.ok ()) 12300301]

def lateReport : List Event :=
  grantedSession ++ [.acquire (request "ohos.privilege.kill_process"), .onResult 0 (.ok ()) 0]

theorem sessions_apart_nextSession : SessionsApart (Machine.run step (initial 0) nextSession) :=
  sessions_apart 0 nextSession
    ⟨trivial, trivial, trivial, trivial, by decide, by decide, trivial, by decide, trivial⟩

/-- The second session asked for another privilege, and is given the token of
the first. -/
theorem late_report_mixes : ¬SessionsApart (Machine.run step (initial 0) lateReport) := by
  intro happart
  have hsources : (Machine.run step (initial 0) lateReport).answers.map
      (fun a => (a.receiver, a.resultFrom, a.result.token)) = [(0, 0, [1, 2]), (1, 0, [1, 2])] := by decide
  have hmem : (1, 0, [1, 2]) ∈ (Machine.run step (initial 0) lateReport).answers.map
      (fun a => (a.receiver, a.resultFrom, a.result.token)) := by simp [hsources]
  obtain ⟨a, ha, heq⟩ := List.mem_map.mp hmem
  obtain ⟨-, -, hfrom⟩ := happart.own a ha
  simp only [Prod.mk.injEq] at heq
  omega

end examples

end OsAccount.SessionSeparation
