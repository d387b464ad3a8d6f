import OsAccount.PrivilegeUpdate

namespace OsAccount.AuthorizationReuse

open Std OrderedMap PrivilegeTable PrivilegeRecords PrivilegeCache PrivilegeCacheParts PrivilegeUpdate

/-- What the permission manager, the connections and the bundle manager answer
during one request. -/
structure ServiceAnswer where
  checkPermissionAndIdentity : Ret
  hasCallback : Bool
  hasServiceConnect : Bool
  hasExtensionConnect : Bool
  generateSessionId : String
  authAppBundleName : String
  verifyWidget : Bool

structure Request where
  caller : Caller
  privilege : String
  options : AcquireAuthorizationOptions

/-- How a request leaves the service: with an error, with an answer to the
callback, or with a connection to the widget that asks the user. -/
inductive Outcome
  | error (ret : ErrCode)
  | onResult (result : AuthorizationResult)
  | connect (info : ConnectAbilityInfo)
deriving DecidableEq

def maxChallengeLen : Nat := 32

def validateChallengeAndContext (options : AcquireAuthorizationOptions) : Ret :=
  if options.challenge.length > maxChallengeLen ∨ (options.hasContext ∧ !options.isContextValid) then
    .error .invalidParameter
  else .ok ()

def checkCallbackAndConnections (a : ServiceAnswer) (options : AcquireAuthorizationOptions) :
    Except ErrCode AuthorizationResultCode :=
  if !a.hasCallback then .error .getProxyError
  else if a.hasServiceConnect then .ok .serviceBusy
  else if options.hasContext && a.hasExtensionConnect then .ok .serviceBusy
  else .ok .success

/-- The answer given without interaction, or `none` when the request has to go
on to the user. The cache is asked about the calling process. -/
def handleWhenReuse (e : CheckAnswer) (q : Request) (m : ProcessMap Unit) :
    Except ErrCode (Option AuthorizationResult) :=
  match transferPrivilegeToCode q.privilege with
  | none => .error .invalidParameter
  | some code =>
      match checkPrivilege e q.caller.pid code m with
      | .ok validityPeriod => .ok (some { AuthorizationResult.ofPrivilege q.privilege with
          validityPeriod := validityPeriod, isReused := q.options.isReuseNeeded })
      | .error _ =>
          if q.options.isInteractionAllowed then .ok none
          else .ok (some { AuthorizationResult.ofPrivilege q.privilege with resultCode := .interactionNotAllowed })

def innerAcquireAuthorization (a : ServiceAnswer) (pdef : PrivilegeBriefDef) (q : Request) : Outcome :=
  match initializeConnectAbilityInfo q.caller a.generateSessionId pdef q.options a.authAppBundleName with
  | .error ret => .error ret
  | .ok info => if a.verifyWidget then .connect info else .error .extensionIllegal

/-- The checks in front of the cache and the dialog: how they end the request,
or else the definition of the privilege. -/
def checkRequest (a : ServiceAnswer) (q : Request) : Except Outcome PrivilegeBriefDef :=
  match a.checkPermissionAndIdentity, validateChallengeAndContext q.options,
      checkCallbackAndConnections a q.options with
  | .error ret, _, _ => .error (.error ret)
  | .ok (), .error ret, _ => .error (.error ret)
  | .ok (), .ok (), .error ret => .error (.error ret)
  | .ok (), .ok (), .ok resultCode =>
      if resultCode ≠ .success then
        .error (.onResult { AuthorizationResult.ofPrivilege q.privilege with resultCode := resultCode })
      else match getPrivilegeBriefDefByName q.privilege with
        | none => .error (.error .invalidParameter)
        | some pdef => .ok pdef

def acquireAuthorization (a : ServiceAnswer) (e : CheckAnswer) (q : Request) (m : ProcessMap Unit) : Outcome :=
  match checkRequest a q with
  | .error outcome => outcome
  | .ok pdef =>
      if q.options.isReuseNeeded then
        match handleWhenReuse e q m with
        | .error ret => .error ret
        | .ok (some result) => .onResult result
        | .ok none => innerAcquireAuthorization a pdef q
      else if !q.options.isInteractionAllowed then
        .onResult { AuthorizationResult.ofPrivilege q.privilege with resultCode := .interactionNotAllowed }
      else innerAcquireAuthorization a pdef q

def recordedPid (q : Request) : Int :=
  match q.options.subjectInfo with
  | none => q.caller.pid
  | some subjectInfo => subjectInfo.pid

variable {a : ServiceAnswer} {q : Request}

theorem checkRequest_not_connect {outcome : Outcome}
    (h : checkRequest a q = .error outcome) :
    (∀ info, outcome ≠ .connect info) ∧ ∀ result, outcome = .onResult result → result.resultCode ≠ .success := by
  unfold checkRequest at h
  split at h
  · cases h
    simp
  · cases h
    simp
  · cases h
    simp
  · split at h
    · rename_i hbusy
      cases h
      simp [hbusy]
    · split at h
      · cases h
        simp
      · cases h

/-- The service answers from the cache only if the process the grant would be
recorded for holds the privilege, and nothing about other processes matters. -/
def ReuseLooksAtSubject (a : ServiceAnswer) (q : Request) : Prop :=
  (∀ e m result, acquireAuthorization a e q m = .onResult result → result.resultCode = .success →
    ∃ code remain, transferPrivilegeToCode q.privilege = some code ∧
      checkPrivilege e (recordedPid q) code m = .ok remain) ∧
  (∀ e (m m' : ProcessMap Unit), m[recordedPid q]? = m'[recordedPid q]? →
    acquireAuthorization a e q m = acquireAuthorization a e q m')

theorem checkPrivilege_congr (e : CheckAnswer) (pid : Int) (idx : Nat) {m m' : ProcessMap Unit}
    (h : m[pid]? = m'[pid]?) : checkPrivilege e pid idx m = checkPrivilege e pid idx m' := by
  simp only [checkPrivilege, h]

theorem reuseLooksAtSubject_of_error {outcome : Outcome}
    (h : checkRequest a q = .error outcome) : ReuseLooksAtSubject a q := by
  simp only [ReuseLooksAtSubject, acquireAuthorization, h]
  refine ⟨fun e m result hresult hs => ?_, fun _ _ _ _ => trivial⟩
  exact absurd hs ((checkRequest_not_connect h).2 result hresult)

theorem reuseLooksAtSubject_of_same (hreuse : q.options.isReuseNeeded = true)
    (h : recordedPid q = q.caller.pid) : ReuseLooksAtSubject a q := by
  cases hcheck : checkRequest a q with
  | error outcome => exact reuseLooksAtSubject_of_error hcheck
  | ok pdef =>
      simp only [ReuseLooksAtSubject, acquireAuthorization, hcheck, hreuse, if_true, h]
      refine ⟨fun e m result hresult hs => ?_, fun e m m' hm => ?_⟩
      · cases hcode : transferPrivilegeToCode q.privilege with
        | none => simp [handleWhenReuse, hcode] at hresult
        | some code =>
            cases hc : checkPrivilege e q.caller.pid code m with
            | ok remain => exact ⟨code, remain, rfl, hc⟩
            | error ret =>
                cases hi : q.options.isInteractionAllowed with
                | false =>
                    simp only [handleWhenReuse, hcode, hc, hi, Bool.false_eq_true, if_false,
                      Outcome.onResult.injEq] at hresult
                    rw [← hresult] at hs
                    cases hs
                | true =>
                    simp only [handleWhenReuse, hcode, hc, hi, if_true] at hresult
                    unfold innerAcquireAuthorization at hresult
                    split at hresult
                    · cases hresult
                    · split at hresult <;> cases hresult
      · have hsame : handleWhenReuse e q m = handleWhenReuse e q m' := by
          unfold handleWhenReuse
          split
          · rfl
          · rw [checkPrivilege_congr e _ _ hm]
        rw [hsame]

theorem transferPrivilegeToCode_of_checkRequest {pdef : PrivilegeBriefDef}
    (h : checkRequest a q = .ok pdef) : ∃ code, transferPrivilegeToCode q.privilege = some code := by
  unfold checkRequest at h
  split at h
  · cases h
  · cases h
  · cases h
  · split at h
    · cases h
    · split at h
      · cases h
      · rename_i pdef' hdef
        obtain ⟨code, hcode, -⟩ := Option.bind_eq_some_iff.mp hdef
        exact ⟨code, hcode⟩

def noAclAnswer : CheckAnswer := ⟨.ok 0, fun _ _ => ⟨.ok (), 0, false⟩, fun _ => .ok 0⟩

/-- If the caller holds a privilege that the subject does not hold, the reuse
answers success all the same. -/
theorem recordedPid_of_reuseLooksAtSubject {pdef : PrivilegeBriefDef}
    (hreuse : q.options.isReuseNeeded = true) (hcheck : checkRequest a q = .ok pdef)
    (h : ReuseLooksAtSubject a q) : recordedPid q = q.caller.pid := by
  by_contra hne
  obtain ⟨code, hcode⟩ := transferPrivilegeToCode_of_checkRequest hcheck
  let m : ProcessMap Unit := oneRecord q.caller.pid 0 0 none ⟨code, 0, 0, .authorized, ()⟩
  have hcaller : checkPrivilege noAclAnswer q.caller.pid code m = .ok int32Max := by
    simp [checkPrivilege, m, oneRecord, ProcessPrivilegeRecord.checkPrivilege, noAclAnswer,
      ProcessPrivilegeRecord.getPrivilegeRecord]
  have hsubject : checkPrivilege noAclAnswer (recordedPid q) code m = .error .privilegeDenied := by
    simp [checkPrivilege, m, oneRecord, Ne.symm hne, checkAcl, noAclAnswer]
  have hanswer : acquireAuthorization a noAclAnswer q m = .onResult
      { AuthorizationResult.ofPrivilege q.privilege with
        validityPeriod := int32Max, isReused := q.options.isReuseNeeded } := by
    simp [acquireAuthorization, hcheck, hreuse, handleWhenReuse, hcode, hcaller]
  obtain ⟨code', remain, hcode', hgrant⟩ := h.1 _ _ _ hanswer rfl
  rw [hcode, Option.some.injEq] at hcode'
  rw [← hcode', hsubject] at hgrant
  cases hgrant

/-- The reuse decision is about the process the grant would be recorded for
exactly when that is the caller itself or the request ends before the cache is
asked. -/
theorem reuseLooksAtSubject_iff (a : ServiceAnswer) (q : Request) (hreuse : q.options.isReuseNeeded = true) :
    ReuseLooksAtSubject a q ↔
      recordedPid q = q.caller.pid ∨ ∃ outcome, checkRequest a q = .error outcome := by
  constructor
  · intro h
    cases hcheck : checkRequest a q with
    | error outcome => exact .inr ⟨outcome, rfl⟩
    | ok pdef => exact .inl (recordedPid_of_reuseLooksAtSubject hreuse hcheck h)
  · rintro (h | ⟨outcome, h⟩)
    · exact reuseLooksAtSubject_of_same hreuse h
    · exact reuseLooksAtSubject_of_error h

def allowedAnswer : ServiceAnswer := ⟨.ok (), true, false, false, "0123", "widget", true⟩

def reuseRequest (subjectInfo : Option SubjectInfo) : Request :=
  ⟨⟨40, 5523⟩, "ohos.privilege.kill_process", ⟨[], true, true, false, false, subjectInfo⟩⟩

theorem reuseLooksAtSubject_self : ReuseLooksAtSubject allowedAnswer (reuseRequest none) :=
  (reuseLooksAtSubject_iff allowedAnswer (reuseRequest none) rfl).mpr (.inl rfl)

/-- The service holds the privilege, process 7 does not, and the request for
process 7 is answered with success. -/
theorem reuse_answers_for_caller :
    let q := reuseRequest (some ⟨7, 20010001, "editor"⟩)
    let m : ProcessMap Unit := oneRecord 40 5523 0 none ⟨1, 301000, 42, .notRequired, ()⟩
    recordedPid q = 7 ∧
      acquireAuthorization allowedAnswer noAclAnswer q m =
        .onResult ⟨"ohos.privilege.kill_process", .success, true, 301, []⟩ ∧
      checkPrivilege noAclAnswer 7 1 m = .error .privilegeDenied := by
  decide

end OsAccount.AuthorizationReuse
