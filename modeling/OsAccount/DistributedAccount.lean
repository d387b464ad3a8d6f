import Mathlib.Data.List.Induction
import OsAccount.CText
import OsAccount.ErrCode
import OsAccount.Machine

namespace OsAccount.DistributedAccount

open CText

inductive OhosAccountState
  | invalid
  | unbound
  | login
  | notLogin
  | logoff
  | tokenExpired
deriving DecidableEq

inductive AccountInnerEvent
  | bindSuccess
  | bindFailed
  | authenticateSuccess
  | authenticateFailed
  | tokenExpired
  | passwordChanged
  | manualLogout
  | manualUnbound
  | manualLogoff
deriving DecidableEq

def ohosAccountEventLogin : String := "Ohos.account.event.LOGIN"

def ohosAccountEventLogout : String := "Ohos.account.event.LOGOUT"

def ohosAccountEventTokenInvalid : String := "Ohos.account.event.TOKEN_INVALID"

def ohosAccountEventLogoff : String := "Ohos.account.event.LOGOFF"

def defaultOhosAccountName : String := "ohosAnonymousName"

def defaultOhosAccountUid : String := "ohosAnonymousUid"

def defaultCallingUid : Int := -1

def accountVersionDefault : Int := 0

def accountVersionAnon : Int := 1

def maxNameLength : Nat := 256

def maxUidLength : Nat := 512

def ohosAccountUdidLength : Nat := 64

structure OhosAccountInfo where
  name : String := ""
  uid : String := ""
  status : OhosAccountState := .unbound
  callingUid : Int := defaultCallingUid
  nickname : String := ""
  avatar : String := ""
  scalableData : String := ""
  rawUid : String := ""
deriving DecidableEq

structure AccountInfo where
  ohosAccountInfo : OhosAccountInfo
  bindTime : Int
  version : Int
deriving DecidableEq

def buildJsonFileFromScratch : AccountInfo where
  ohosAccountInfo :=
    { name := defaultOhosAccountName, uid := defaultOhosAccountUid, rawUid := defaultOhosAccountUid }
  bindTime := 0
  version := accountVersionDefault

def AccountInfo.clear (a : AccountInfo) : AccountInfo where
  ohosAccountInfo := { name := defaultOhosAccountName, uid := defaultOhosAccountUid }
  bindTime := 0
  version := a.version

def AccountInfo.setStatus (a : AccountInfo) (status : OhosAccountState) : AccountInfo :=
  { a with ohosAccountInfo := { a.ohosAccountInfo with status } }

/-- What the next call reads of a record that was saved. Its texts have been through C
strings in the file. -/
def saveOhosAccountInfo (a : AccountInfo) : AccountInfo :=
  { a with ohosAccountInfo := { a.ohosAccountInfo with
      name := cStr a.ohosAccountInfo.name
      uid := cStr a.ohosAccountInfo.uid
      nickname := cStr a.ohosAccountInfo.nickname
      avatar := cStr a.ohosAccountInfo.avatar
      scalableData := cStr a.ohosAccountInfo.scalableData
      rawUid := cStr a.ohosAccountInfo.rawUid } }

inductive Entry
  | action (nextState : OhosAccountState)
  | noAction

def stateMachineMap : OhosAccountState → AccountInnerEvent → Option Entry
  | .unbound, .bindSuccess => some (.action .login)
  | .unbound, .bindFailed => some (.action .unbound)
  | .unbound, .authenticateSuccess => some (.action .login)
  | .unbound, .authenticateFailed => some .noAction
  | .unbound, .tokenExpired => some .noAction
  | .unbound, .passwordChanged => some .noAction
  | .unbound, .manualLogout => some .noAction
  | .unbound, .manualUnbound => some .noAction
  | .unbound, .manualLogoff => some .noAction
  | .login, .bindSuccess => some .noAction
  | .login, .bindFailed => some (.action .login)
  | .login, .authenticateSuccess => some .noAction
  | .login, .authenticateFailed => some .noAction
  | .login, .tokenExpired => some (.action .tokenExpired)
  | .login, .passwordChanged => some (.action .unbound)
  | .login, .manualLogout => some (.action .unbound)
  | .login, .manualUnbound => some (.action .unbound)
  | .login, .manualLogoff => some (.action .unbound)
  | .tokenExpired, .bindSuccess => some (.action .login)
  | .tokenExpired, .manualLogout => some (.action .unbound)
  | .tokenExpired, .tokenExpired => some (.action .tokenExpired)
  | .tokenExpired, .manualLogoff => some (.action .unbound)
  | _, _ => none

def stateChangeProcess (currentState : OhosAccountState) (evt : AccountInnerEvent) : Option OhosAccountState :=
  match stateMachineMap currentState evt with
  | none => none
  | some .noAction => some currentState
  | some (.action nextState) => some nextState

def checkEventValid (eventStr : String) : Option AccountInnerEvent :=
  if eventStr = ohosAccountEventLogin then some .bindSuccess
  else if eventStr = ohosAccountEventLogout then some .manualUnbound
  else if eventStr = ohosAccountEventTokenInvalid then some .tokenExpired
  else if eventStr = ohosAccountEventLogoff then some .manualLogoff
  else none

def handleEvent (curOhosAccount : AccountInfo) (eventStr : String) : Option AccountInfo :=
  match checkEventValid eventStr with
  | none => none
  | some event => (stateChangeProcess curOhosAccount.ohosAccountInfo.status event).map curOhosAccount.setStatus

def hexByte (b : UInt8) : List Char := [(Nat.digitChar (b.toNat / 16)).toUpper, (Nat.digitChar (b.toNat % 16)).toUpper]

section handlers

variable (sha256 : Sha256)

def returnOhosUdidWithSha256 (uid : String) : String := String.ofList ((sha256 uid).toList.flatMap hexByte)

def generateOhosUdidWithSha256 (name uid : String) : String :=
  if name = "" ∨ name.utf8ByteSize > maxNameLength then ""
  else if uid = "" ∨ uid.utf8ByteSize > maxUidLength then ""
  else returnOhosUdidWithSha256 sha256 uid

def checkOhosAccountCanBind (curr : AccountInfo) (newOhosAccountInfo : OhosAccountInfo) (newOhosUid : String) : Ret :=
  if newOhosUid.length ≠ ohosAccountUdidLength then .error .invalidParameter
  else if curr.ohosAccountInfo.status = .login ∧
      (curr.ohosAccountInfo.uid ≠ newOhosUid ∨ curr.ohosAccountInfo.name ≠ newOhosAccountInfo.name) then
    .error .accountNotExistError
  else .ok ()

def checkSameDistributedAccount (curr newOhosAccountInfo : OhosAccountInfo) : Bool :=
  newOhosAccountInfo.name = curr.name ∧
    generateOhosUdidWithSha256 sha256 newOhosAccountInfo.name newOhosAccountInfo.uid = curr.uid

structure Request where
  ohosAccountInfo : OhosAccountInfo
  eventStr : String
  time : Int
  callingUid : Int

def updateOhosAccountInfo (r : Request) (ohosAccountUid : String) : AccountInfo where
  ohosAccountInfo := { r.ohosAccountInfo with
    rawUid := r.ohosAccountInfo.uid, uid := ohosAccountUid, status := .login, callingUid := r.callingUid }
  bindTime := r.time
  version := accountVersionAnon

variable (curr : AccountInfo) (r : Request)

def loginOhosAccount : Ret × AccountInfo :=
  let ohosAccountUid := generateOhosUdidWithSha256 sha256 r.ohosAccountInfo.name r.ohosAccountInfo.uid
  match checkOhosAccountCanBind curr r.ohosAccountInfo ohosAccountUid with
  | .error _ => (.error .accountNotExistError, curr)
  | .ok () =>
      match handleEvent curr r.eventStr with
      | none => (.error .zidlAccountServiceError, curr)
      | some _ => (.ok (), saveOhosAccountInfo (updateOhosAccountInfo r ohosAccountUid))

/-- `LogoutOhosAccount` and `LogoffOhosAccount` differ in what they publish. -/
def releaseOhosAccount : Ret × AccountInfo :=
  if !checkSameDistributedAccount sha256 curr.ohosAccountInfo r.ohosAccountInfo then (.error .accountNotExistError, curr)
  else
    match handleEvent curr r.eventStr with
    | none => (.error .zidlAccountServiceError, curr)
    | some currentAccount => (.ok (), saveOhosAccountInfo currentAccount.clear)

def logoutOhosAccount : Ret × AccountInfo := releaseOhosAccount sha256 curr r

def logoffOhosAccount : Ret × AccountInfo := releaseOhosAccount sha256 curr r

def handleOhosAccountTokenInvalidEvent : Ret × AccountInfo :=
  if !checkSameDistributedAccount sha256 curr.ohosAccountInfo r.ohosAccountInfo then (.error .accountNotExistError, curr)
  else
    match handleEvent curr r.eventStr with
    | none => (.error .zidlAccountServiceError, curr)
    | some currentOhosAccount => (.ok (), saveOhosAccountInfo currentOhosAccount)

def procDistributedAccountStateChange : Ret × AccountInfo :=
  if r.eventStr = ohosAccountEventLogin then loginOhosAccount sha256 curr r
  else if r.eventStr = ohosAccountEventLogout then logoutOhosAccount sha256 curr r
  else if r.eventStr = ohosAccountEventLogoff then logoffOhosAccount sha256 curr r
  else if r.eventStr = ohosAccountEventTokenInvalid then handleOhosAccountTokenInvalidEvent sha256 curr r
  else (.error .invalidParameter, curr)

def step : AccountInfo := (procDistributedAccountStateChange sha256 curr r).2

end handlers

section runs

variable {sha256 : Sha256} {curr : AccountInfo} {r : Request}

theorem length_returnOhosUdidWithSha256 (sha256 : Sha256) (uid : String) :
    (returnOhosUdidWithSha256 sha256 uid).length = ohosAccountUdidLength := by
  have hbytes : ∀ bs : List UInt8, (bs.flatMap hexByte).length = 2 * bs.length := by
    intro bs
    induction bs with
    | nil => rfl
    | cons b bs ih =>
        rw [List.flatMap_cons, List.length_append, ih, List.length_cons]
        have hb : (hexByte b).length = 2 := rfl
        omega
  rw [returnOhosUdidWithSha256, String.length_ofList, hbytes, Vector.length_toList]
  rfl

theorem noNul_returnOhosUdidWithSha256 (sha256 : Sha256) (uid : String) :
    NoNul (returnOhosUdidWithSha256 sha256 uid) := by
  have hdigit : ∀ n < 16, (Nat.digitChar n).toUpper ≠ '\x00' := by decide
  unfold NoNul returnOhosUdidWithSha256
  rw [String.toList_ofList, List.mem_flatMap]
  rintro ⟨b, -, hb⟩
  have hlt := b.toNat_lt
  rcases List.mem_pair.mp hb with he | he
  · exact hdigit (b.toNat / 16) (by omega) he.symm
  · exact hdigit (b.toNat % 16) (by omega) he.symm

theorem noNul_generateOhosUdidWithSha256 (sha256 : Sha256) (name uid : String) :
    NoNul (generateOhosUdidWithSha256 sha256 name uid) := by
  unfold generateOhosUdidWithSha256
  split
  · exact noNul_empty
  split
  · exact noNul_empty
  · exact noNul_returnOhosUdidWithSha256 sha256 uid

inductive Outcome (sha256 : Sha256) (curr : AccountInfo) (r : Request) : Ret × AccountInfo → Prop
  | refused (e : ErrCode) : Outcome sha256 curr r (.error e, curr)
  | login (hevent : r.eventStr = ohosAccountEventLogin)
      (hcan : checkOhosAccountCanBind curr r.ohosAccountInfo
        (generateOhosUdidWithSha256 sha256 r.ohosAccountInfo.name r.ohosAccountInfo.uid) = .ok ()) :
      Outcome sha256 curr r (.ok (), saveOhosAccountInfo (updateOhosAccountInfo r
        (generateOhosUdidWithSha256 sha256 r.ohosAccountInfo.name r.ohosAccountInfo.uid)))
  | released (hevent : r.eventStr = ohosAccountEventLogout ∨ r.eventStr = ohosAccountEventLogoff) :
      Outcome sha256 curr r (.ok (), curr.clear)
  | tokenInvalid (hevent : r.eventStr = ohosAccountEventTokenInvalid)
      (hsame : checkSameDistributedAccount sha256 curr.ohosAccountInfo r.ohosAccountInfo = true)
      (next : OhosAccountState) (hnext : stateChangeProcess curr.ohosAccountInfo.status .tokenExpired = some next) :
      Outcome sha256 curr r (.ok (), saveOhosAccountInfo (curr.setStatus next))

theorem checkEventValid_login : checkEventValid ohosAccountEventLogin = some .bindSuccess := by decide

theorem checkEventValid_logout : checkEventValid ohosAccountEventLogout = some .manualUnbound := by decide

theorem checkEventValid_tokenInvalid : checkEventValid ohosAccountEventTokenInvalid = some .tokenExpired := by decide

theorem checkEventValid_logoff : checkEventValid ohosAccountEventLogoff = some .manualLogoff := by decide

theorem handleEvent_of_checkEventValid {eventStr : String} {event : AccountInnerEvent}
    (h : checkEventValid eventStr = some event) (curr : AccountInfo) :
    handleEvent curr eventStr = (stateChangeProcess curr.ohosAccountInfo.status event).map curr.setStatus := by
  rw [handleEvent, h]

variable (a : AccountInfo)

@[simp]
theorem clear_setStatus (status : OhosAccountState) : (a.setStatus status).clear = a.clear := rfl

theorem noNul_defaultOhosAccountName : NoNul defaultOhosAccountName := by decide

theorem noNul_defaultOhosAccountUid : NoNul defaultOhosAccountUid := by decide

theorem saveOhosAccountInfo_clear : saveOhosAccountInfo a.clear = a.clear := by
  unfold saveOhosAccountInfo AccountInfo.clear
  dsimp only
  rw [noNul_defaultOhosAccountName.cStr, noNul_defaultOhosAccountUid.cStr, cStr_empty]

theorem outcome_release (sha256 : Sha256)
    (hevent : r.eventStr = ohosAccountEventLogout ∨ r.eventStr = ohosAccountEventLogoff) :
    Outcome sha256 curr r (releaseOhosAccount sha256 curr r) := by
  unfold releaseOhosAccount
  split
  · exact .refused _
  split
  · exact .refused _
  · rename_i currentAccount hhandle
    have hclear : saveOhosAccountInfo currentAccount.clear = curr.clear := by
      rw [saveOhosAccountInfo_clear]
      unfold handleEvent at hhandle
      split at hhandle
      · cases hhandle
      · rw [Option.map_eq_some_iff] at hhandle
        obtain ⟨status, _, rfl⟩ := hhandle
        exact clear_setStatus curr status
    rw [hclear]
    exact .released hevent

theorem outcome (sha256 : Sha256) (curr : AccountInfo) (r : Request) :
    Outcome sha256 curr r (procDistributedAccountStateChange sha256 curr r) := by
  unfold procDistributedAccountStateChange
  split
  · rename_i hevent
    unfold loginOhosAccount
    dsimp only
    split
    · exact .refused _
    rename_i hcan
    split
    · exact .refused _
    · exact .login hevent hcan
  split
  · rename_i hevent
    exact outcome_release sha256 (.inl hevent)
  split
  · rename_i hevent
    exact outcome_release sha256 (.inr hevent)
  split
  · rename_i hevent
    unfold handleOhosAccountTokenInvalidEvent
    split
    · exact .refused _
    rename_i hsame
    rw [hevent, handleEvent_of_checkEventValid checkEventValid_tokenInvalid]
    cases hnext : stateChangeProcess curr.ohosAccountInfo.status .tokenExpired with
    | none => exact .refused _
    | some next => exact .tokenInvalid hevent (by simpa using hsame) next hnext
  · exact .refused _

structure Bound (sha256 : Sha256) (a : AccountInfo) : Prop where
  status : a.ohosAccountInfo.status = .login ∨ a.ohosAccountInfo.status = .tokenExpired
  uid : ∃ uid, returnOhosUdidWithSha256 sha256 uid = a.ohosAccountInfo.uid

structure Unbound (a : AccountInfo) : Prop where
  name : a.ohosAccountInfo.name = defaultOhosAccountName
  uid : a.ohosAccountInfo.uid = defaultOhosAccountUid
  status : a.ohosAccountInfo.status = .unbound
  callingUid : a.ohosAccountInfo.callingUid = defaultCallingUid
  nickname : a.ohosAccountInfo.nickname = ""
  avatar : a.ohosAccountInfo.avatar = ""
  scalableData : a.ohosAccountInfo.scalableData = ""
  bindTime : a.bindTime = 0

def Inv (sha256 : Sha256) (a : AccountInfo) : Prop := Unbound a ∨ Bound sha256 a

theorem unbound_clear : Unbound a.clear := ⟨rfl, rfl, rfl, rfl, rfl, rfl, rfl, rfl⟩

theorem inv_initial (sha256 : Sha256) : Inv sha256 buildJsonFileFromScratch :=
  .inl ⟨rfl, rfl, rfl, rfl, rfl, rfl, rfl, rfl⟩

theorem length_of_checkOhosAccountCanBind {info : OhosAccountInfo} {newOhosUid : String}
    (h : checkOhosAccountCanBind curr info newOhosUid = .ok ()) : newOhosUid.length = ohosAccountUdidLength := by
  unfold checkOhosAccountCanBind at h
  split at h
  · cases h
  · rename_i hlength
    exact not_not.1 hlength

theorem Bound.length {a : AccountInfo} (h : Bound sha256 a) : a.ohosAccountInfo.uid.length = ohosAccountUdidLength := by
  obtain ⟨uid, huid⟩ := h.uid
  rw [← huid]
  exact length_returnOhosUdidWithSha256 sha256 uid

theorem Bound.noNul {a : AccountInfo} (h : Bound sha256 a) : NoNul a.ohosAccountInfo.uid := by
  obtain ⟨uid, huid⟩ := h.uid
  rw [← huid]
  exact noNul_returnOhosUdidWithSha256 sha256 uid

variable {name uid : String}

theorem generate_eq_of_length
    (h : (generateOhosUdidWithSha256 sha256 name uid).length = ohosAccountUdidLength) :
    generateOhosUdidWithSha256 sha256 name uid = returnOhosUdidWithSha256 sha256 uid := by
  unfold generateOhosUdidWithSha256 at h ⊢
  split at h
  · cases h
  split at h
  · cases h
  · rename_i hname huid
    rw [if_neg hname, if_neg huid]

theorem bound_login
    (h : (generateOhosUdidWithSha256 sha256 r.ohosAccountInfo.name r.ohosAccountInfo.uid).length =
      ohosAccountUdidLength) :
    let uid := generateOhosUdidWithSha256 sha256 r.ohosAccountInfo.name r.ohosAccountInfo.uid
    Bound sha256 (saveOhosAccountInfo (updateOhosAccountInfo r uid)) ∧
      (saveOhosAccountInfo (updateOhosAccountInfo r uid)).ohosAccountInfo.uid = uid := by
  have huid : (saveOhosAccountInfo (updateOhosAccountInfo r (generateOhosUdidWithSha256 sha256 r.ohosAccountInfo.name
      r.ohosAccountInfo.uid))).ohosAccountInfo.uid =
        generateOhosUdidWithSha256 sha256 r.ohosAccountInfo.name r.ohosAccountInfo.uid :=
    (noNul_generateOhosUdidWithSha256 sha256 r.ohosAccountInfo.name r.ohosAccountInfo.uid).cStr
  exact ⟨⟨.inl rfl, r.ohosAccountInfo.uid, (generate_eq_of_length h).symm.trans huid.symm⟩, huid⟩

theorem Bound.setStatus {a : AccountInfo} (h : Bound sha256 a) {status : OhosAccountState}
    (hstatus : status = .login ∨ status = .tokenExpired) : Bound sha256 (saveOhosAccountInfo (a.setStatus status)) ∧
      (saveOhosAccountInfo (a.setStatus status)).ohosAccountInfo.uid = a.ohosAccountInfo.uid := by
  have huid : (saveOhosAccountInfo (a.setStatus status)).ohosAccountInfo.uid = a.ohosAccountInfo.uid := h.noNul.cStr
  exact ⟨⟨hstatus, huid ▸ h.uid⟩, huid⟩

theorem not_checkSame_of_unbound (h : Unbound curr) (info : OhosAccountInfo) :
    checkSameDistributedAccount sha256 curr.ohosAccountInfo info = false := by
  unfold checkSameDistributedAccount
  refine decide_eq_false fun hsame => ?_
  have hlength : (generateOhosUdidWithSha256 sha256 info.name info.uid).length = 0 ∨
      (generateOhosUdidWithSha256 sha256 info.name info.uid).length = ohosAccountUdidLength := by
    unfold generateOhosUdidWithSha256
    split
    · exact .inl rfl
    split
    · exact .inl rfl
    · exact .inr (length_returnOhosUdidWithSha256 sha256 info.uid)
  rw [hsame.2, h.uid] at hlength
  revert hlength
  decide

theorem inv_step (sha256 : Sha256) (curr : AccountInfo) (r : Request) (h : Inv sha256 curr) :
    Inv sha256 (step sha256 curr r) := by
  have hout := outcome sha256 curr r
  unfold step
  generalize procDistributedAccountStateChange sha256 curr r = result at hout
  cases hout with
  | refused e => exact h
  | login hevent hcan => exact .inr (bound_login (length_of_checkOhosAccountCanBind hcan)).1
  | released hevent => exact .inl (unbound_clear curr)
  | tokenInvalid hevent hsame next hnext =>
      rcases h with h | h
      · rw [not_checkSame_of_unbound h] at hsame
        cases hsame
      · have hexpired : next = .tokenExpired := by
          rcases h.status with hs | hs <;> rw [hs] at hnext <;> cases hnext <;> rfl
        subst hexpired
        exact .inr (h.setStatus (.inr rfl)).1

/-- The request names the account of a login, in the words of the login or of the record. -/
def Names (login r : Request) : Prop :=
  r.ohosAccountInfo.uid = login.ohosAccountInfo.uid ∧
    (r.ohosAccountInfo.name = login.ohosAccountInfo.name ∨ r.ohosAccountInfo.name = cStr login.ohosAccountInfo.name)

def Matches (login r : Request) : Prop :=
  r.ohosAccountInfo.name = cStr login.ohosAccountInfo.name ∧ r.ohosAccountInfo.name ≠ ""

def Releases (sha256 : Sha256) (curr : AccountInfo) (r : Request) : Prop :=
  (procDistributedAccountStateChange sha256 curr r).1 = .ok () ∧
    Unbound (procDistributedAccountStateChange sha256 curr r).2

def LogsIn (sha256 : Sha256) (curr : AccountInfo) (r : Request) : Prop :=
  r.eventStr = ohosAccountEventLogin ∧ (procDistributedAccountStateChange sha256 curr r).1 = .ok ()

def LogsOut (sha256 : Sha256) (curr : AccountInfo) (r : Request) : Prop :=
  (r.eventStr = ohosAccountEventLogout ∨ r.eventStr = ohosAccountEventLogoff) ∧
    (procDistributedAccountStateChange sha256 curr r).1 = .ok ()

def Replaces (sha256 : Sha256) (curr : AccountInfo) (r : Request) : Prop :=
  curr.ohosAccountInfo.status ≠ .unbound ∧ (step sha256 curr r).ohosAccountInfo.status ≠ .unbound ∧
    (step sha256 curr r).ohosAccountInfo.uid ≠ curr.ohosAccountInfo.uid

def Overtakes (sha256 : Sha256) (curr : AccountInfo) (r : Request) : Prop :=
  r.eventStr = ohosAccountEventLogin ∧ curr.ohosAccountInfo.status = .tokenExpired ∧
    (generateOhosUdidWithSha256 sha256 r.ohosAccountInfo.name r.ohosAccountInfo.uid).length = ohosAccountUdidLength ∧
    generateOhosUdidWithSha256 sha256 r.ohosAccountInfo.name r.ohosAccountInfo.uid ≠ curr.ohosAccountInfo.uid

theorem Bound.status_ne_unbound (h : Bound sha256 curr) : curr.ohosAccountInfo.status ≠ .unbound := by
  intro hs
  rcases h.status with h | h <;> rw [h] at hs <;> cases hs

theorem bound_of_status (h : Inv sha256 curr) (hstatus : curr.ohosAccountInfo.status ≠ .unbound) :
    Bound sha256 curr :=
  h.resolve_left fun h => hstatus h.status

theorem status_unbound_iff (h : Inv sha256 curr) : curr.ohosAccountInfo.status = .unbound ↔
    curr.ohosAccountInfo.name = defaultOhosAccountName ∧ curr.ohosAccountInfo.uid = defaultOhosAccountUid := by
  rcases h with h | h
  · exact iff_of_true h.status ⟨h.name, h.uid⟩
  · refine iff_of_false h.status_ne_unbound fun hdefault => ?_
    have hlength := h.length
    rw [hdefault.2] at hlength
    revert hlength
    decide

structure BoundTo (sha256 : Sha256) (curr : AccountInfo) (login : Request) : Prop where
  bound : Bound sha256 curr
  name : curr.ohosAccountInfo.name = cStr login.ohosAccountInfo.name
  uid : curr.ohosAccountInfo.uid = generateOhosUdidWithSha256 sha256 login.ohosAccountInfo.name login.ohosAccountInfo.uid

theorem lengths_of_generate
    (h : (generateOhosUdidWithSha256 sha256 name uid).length = ohosAccountUdidLength) :
    ¬(name = "" ∨ name.utf8ByteSize > maxNameLength) ∧ ¬(uid = "" ∨ uid.utf8ByteSize > maxUidLength) := by
  unfold generateOhosUdidWithSha256 at h
  split at h
  · cases h
  split at h
  · cases h
  · rename_i hname huid
    exact ⟨hname, huid⟩

variable {login : Request}

theorem checkSame_iff (h : BoundTo sha256 curr login) (hnames : Names login r) :
    checkSameDistributedAccount sha256 curr.ohosAccountInfo r.ohosAccountInfo = true ↔ Matches login r := by
  have hlength : (generateOhosUdidWithSha256 sha256 login.ohosAccountInfo.name login.ohosAccountInfo.uid).length =
      ohosAccountUdidLength := h.uid ▸ h.bound.length
  obtain ⟨hlogin, huid⟩ := lengths_of_generate hlength
  unfold checkSameDistributedAccount Matches
  rw [decide_eq_true_iff, h.name]
  refine and_congr_right fun hname => ?_
  rw [h.uid, hnames.1, generate_eq_of_length hlength]
  have hsize : ¬r.ohosAccountInfo.name.utf8ByteSize > maxNameLength := by
    rw [hname]
    exact Nat.not_lt.mpr ((utf8ByteSize_cStr_le _).trans (Nat.not_lt.mp fun hlong => hlogin (.inr hlong)))
  unfold generateOhosUdidWithSha256
  by_cases hempty : r.ohosAccountInfo.name = ""
  · rw [if_pos (.inl hempty)]
    refine iff_of_false (fun he => ?_) (not_not_intro hempty)
    have hlen := congrArg String.length he
    rw [length_returnOhosUdidWithSha256] at hlen
    cases hlen
  · rw [if_neg fun hor => hor.elim hempty hsize, if_neg huid]
    exact iff_of_true rfl hempty

theorem releases_iff (h : BoundTo sha256 curr login) (hnames : Names login r)
    {event : AccountInnerEvent} (hevent : checkEventValid r.eventStr = some event)
    (hproc : procDistributedAccountStateChange sha256 curr r = releaseOhosAccount sha256 curr r) :
    Releases sha256 curr r ↔
      Matches login r ∧ (stateChangeProcess curr.ohosAccountInfo.status event).isSome = true := by
  unfold Releases
  rw [hproc, releaseOhosAccount, ← checkSame_iff h hnames]
  cases checkSameDistributedAccount sha256 curr.ohosAccountInfo r.ohosAccountInfo with
  | false => exact iff_of_false (fun hok => nomatch hok.1) fun hand => nomatch hand.1
  | true =>
      rw [Bool.not_true, if_neg Bool.false_ne_true, handleEvent_of_checkEventValid hevent]
      cases stateChangeProcess curr.ohosAccountInfo.status event with
      | none => exact iff_of_false (fun hok => nomatch hok.1) fun hand => nomatch hand.2
      | some next =>
          refine iff_of_true ⟨rfl, ?_⟩ ⟨rfl, rfl⟩
          change Unbound (saveOhosAccountInfo (curr.setStatus next).clear)
          rw [saveOhosAccountInfo_clear]
          exact unbound_clear _

theorem releases_logoff_iff (h : BoundTo sha256 curr login) (hnames : Names login r)
    (hevent : r.eventStr = ohosAccountEventLogoff) : Releases sha256 curr r ↔ Matches login r := by
  rw [releases_iff h hnames (by rw [hevent]; exact checkEventValid_logoff)]
  · refine and_iff_left ?_
    rcases h.bound.status with hs | hs <;> rw [hs] <;> rfl
  · unfold procDistributedAccountStateChange
    rw [hevent]
    rfl

theorem releases_logout_iff (h : BoundTo sha256 curr login) (hnames : Names login r)
    (hevent : r.eventStr = ohosAccountEventLogout) :
    Releases sha256 curr r ↔ Matches login r ∧ curr.ohosAccountInfo.status ≠ .tokenExpired := by
  rw [releases_iff h hnames (by rw [hevent]; exact checkEventValid_logout)]
  · refine and_congr_right fun _ => ?_
    rcases h.bound.status with hs | hs <;> rw [hs] <;> decide
  · unfold procDistributedAccountStateChange
    rw [hevent]
    rfl

theorem procDistributedAccountStateChange_login (hevent : r.eventStr = ohosAccountEventLogin)
    (hstatus : curr.ohosAccountInfo.status = .unbound ∨ curr.ohosAccountInfo.status = .tokenExpired)
    (hlength : (generateOhosUdidWithSha256 sha256 r.ohosAccountInfo.name r.ohosAccountInfo.uid).length =
      ohosAccountUdidLength) :
    procDistributedAccountStateChange sha256 curr r = (.ok (), saveOhosAccountInfo
      (updateOhosAccountInfo r (generateOhosUdidWithSha256 sha256 r.ohosAccountInfo.name r.ohosAccountInfo.uid))) := by
  have hcan : checkOhosAccountCanBind curr r.ohosAccountInfo
      (generateOhosUdidWithSha256 sha256 r.ohosAccountInfo.name r.ohosAccountInfo.uid) = .ok () := by
    unfold checkOhosAccountCanBind
    rw [if_neg (not_not.2 hlength), if_neg]
    rintro ⟨hlogin, -⟩
    rcases hstatus with hs | hs <;> rw [hs] at hlogin <;> cases hlogin
  unfold procDistributedAccountStateChange loginOhosAccount
  rw [if_pos hevent]
  dsimp only
  rw [hcan, hevent, handleEvent_of_checkEventValid checkEventValid_login]
  rcases hstatus with hs | hs <;> rw [hs] <;> rfl

theorem step_of_overtakes (h : Overtakes sha256 curr r) : step sha256 curr r = saveOhosAccountInfo
    (updateOhosAccountInfo r (generateOhosUdidWithSha256 sha256 r.ohosAccountInfo.name r.ohosAccountInfo.uid)) := by
  unfold step
  rw [procDistributedAccountStateChange_login h.1 (.inr h.2.1) h.2.2.1]

theorem replaces_iff (h : Inv sha256 curr) (r : Request) : Replaces sha256 curr r ↔ Overtakes sha256 curr r := by
  constructor
  · rintro ⟨hstatus, hafter, hne⟩
    have hbound := bound_of_status h hstatus
    have hout := outcome sha256 curr r
    unfold step at hafter hne
    generalize procDistributedAccountStateChange sha256 curr r = result at hout hafter hne
    cases hout with
    | refused e => exact (hne rfl).elim
    | login hevent hcan =>
        have hlength := length_of_checkOhosAccountCanBind hcan
        rw [(bound_login hlength).2] at hne
        refine ⟨hevent, hbound.status.resolve_left fun hlogin => ?_, hlength, hne⟩
        unfold checkOhosAccountCanBind at hcan
        split at hcan
        · cases hcan
        split at hcan
        · cases hcan
        · rename_i hother
          exact hother ⟨hlogin, .inl (Ne.symm hne)⟩
    | released hevent => exact (hafter rfl).elim
    | tokenInvalid hevent hsame next hnext => exact (hne hbound.noNul.cStr).elim
  · intro hover
    refine ⟨?_, ?_, ?_⟩
    · rw [hover.2.1]
      exact fun he => by cases he
    · rw [step_of_overtakes hover]
      exact fun he => by cases he
    · rw [step_of_overtakes hover, (bound_login hover.2.2.1).2]
      exact hover.2.2.2

theorem boundTo_of_logsIn (h : LogsIn sha256 curr r) : BoundTo sha256 (step sha256 curr r) r := by
  obtain ⟨hlogin, hok⟩ := h
  have hout := outcome sha256 curr r
  unfold step
  generalize procDistributedAccountStateChange sha256 curr r = result at hout hok
  cases hout with
  | refused e => cases hok
  | login hevent hcan =>
      obtain ⟨hbound, huid⟩ := bound_login (length_of_checkOhosAccountCanBind hcan)
      exact ⟨hbound, rfl, huid⟩
  | released hevent =>
      rw [hlogin] at hevent
      exact absurd hevent (by decide)
  | tokenInvalid hevent hsame next hnext =>
      rw [hlogin] at hevent
      exact absurd hevent (by decide)

theorem uid_step (h : Bound sha256 curr) (hout : ¬LogsOut sha256 curr r) (hover : ¬Overtakes sha256 curr r) :
    Bound sha256 (step sha256 curr r) ∧ (step sha256 curr r).ohosAccountInfo.uid = curr.ohosAccountInfo.uid := by
  have hbound : Bound sha256 (step sha256 curr r) := by
    refine (inv_step sha256 curr r (.inr h)).resolve_left fun hunbound => ?_
    have hcases := outcome sha256 curr r
    unfold LogsOut at hout
    unfold step at hunbound
    generalize procDistributedAccountStateChange sha256 curr r = result at hcases hout hunbound
    cases hcases with
    | refused e => exact h.status_ne_unbound hunbound.status
    | login hevent hcan => cases hunbound.status
    | released hevent => exact hout ⟨hevent, rfl⟩
    | tokenInvalid hevent hsame next hnext =>
        have hnext' : next = .unbound := hunbound.status
        subst hnext'
        rcases h.status with hs | hs <;> rw [hs] at hnext <;> cases hnext
  refine ⟨hbound, ?_⟩
  by_contra hne
  exact hover ((replaces_iff (.inr h) r).1 ⟨h.status_ne_unbound, hbound.status_ne_unbound, hne⟩)

theorem uid_run {rs : List Request} (h : Bound sha256 curr)
    (hkept : Machine.Meets (step sha256) (fun a r => ¬LogsOut sha256 a r ∧ ¬Overtakes sha256 a r) curr rs) :
    Bound sha256 (Machine.run (step sha256) curr rs) ∧
      (Machine.run (step sha256) curr rs).ohosAccountInfo.uid = curr.ohosAccountInfo.uid := by
  have hstep : ∀ a r, (Bound sha256 a ∧ a.ohosAccountInfo.uid = curr.ohosAccountInfo.uid) →
      (¬LogsOut sha256 a r ∧ ¬Overtakes sha256 a r) →
      Bound sha256 (step sha256 a r) ∧ (step sha256 a r).ohosAccountInfo.uid = curr.ohosAccountInfo.uid := by
    rintro a r ⟨ha, huid⟩ ⟨hout, hover⟩
    obtain ⟨hbound, hkept⟩ := uid_step ha hout hover
    exact ⟨hbound, hkept.trans huid⟩
  exact Machine.run_invariant_of_meets hstep ⟨h, rfl⟩ hkept

def reached (sha256 : Sha256) (rs : List Request) : AccountInfo :=
  Machine.run (step sha256) buildJsonFileFromScratch rs

theorem inv_reached (sha256 : Sha256) (rs : List Request) : Inv sha256 (reached sha256 rs) :=
  Machine.run_invariant (inv_step sha256) (inv_initial sha256) rs

theorem reached_append (sha256 : Sha256) (rs : List Request) (r : Request) (between : List Request) :
    reached sha256 (rs ++ r :: between) =
      Machine.run (step sha256) (step sha256 (reached sha256 rs) r) between := by
  unfold reached Machine.run
  rw [List.foldl_append, List.foldl_cons]

/-- Between the logins of two accounts there is a logout, if none of the requests
from one login to the other overtakes a binding. -/
theorem logsOut_between {rs between : List Request} {r₁ r₂ : Request} (h₁ : LogsIn sha256 (reached sha256 rs) r₁)
    (h₂ : LogsIn sha256 (reached sha256 (rs ++ r₁ :: between)) r₂)
    (hcollision : returnOhosUdidWithSha256 sha256 r₁.ohosAccountInfo.uid =
      returnOhosUdidWithSha256 sha256 r₂.ohosAccountInfo.uid → r₁.ohosAccountInfo.uid = r₂.ohosAccountInfo.uid)
    (hne : r₁.ohosAccountInfo.uid ≠ r₂.ohosAccountInfo.uid)
    (hover : Machine.Meets (step sha256) (fun a r => ¬Overtakes sha256 a r) (reached sha256 rs)
      (r₁ :: between ++ [r₂])) :
    ∃ before r after, between = before ++ r :: after ∧ LogsOut sha256 (reached sha256 (rs ++ r₁ :: before)) r := by
  simp only [reached_append] at h₂ ⊢
  rw [List.cons_append, Machine.Meets, Machine.meets_append] at hover
  obtain ⟨_, hbetween, hover₂, _⟩ := hover
  obtain ⟨hbound₁, _, huid₁⟩ := boundTo_of_logsIn h₁
  obtain ⟨hbound₂, _, huid₂⟩ := boundTo_of_logsIn h₂
  by_contra hno
  have hkept : Machine.Meets (step sha256) (fun a r => ¬LogsOut sha256 a r)
      (step sha256 (reached sha256 rs) r₁) between := by
    by_contra hout
    obtain ⟨before, r, after, hsplit, hr⟩ := Machine.exists_of_not_meets hout
    exact hno ⟨before, r, after, hsplit, not_not.1 hr⟩
  obtain ⟨hbound, huid⟩ := uid_run hbound₁ (hkept.and hbetween)
  refine hover₂ ((replaces_iff (.inr hbound) r₂).1 ⟨hbound.status_ne_unbound, hbound₂.status_ne_unbound, ?_⟩)
  rw [huid₂, huid, huid₁]
  intro he
  have hlength₁ := hbound₁.length
  have hlength₂ := hbound₂.length
  rw [huid₁] at hlength₁
  rw [huid₂] at hlength₂
  rw [generate_eq_of_length hlength₁, generate_eq_of_length hlength₂] at he
  exact hne (hcollision he.symm)

def BoundBy (sha256 : Sha256) (rs : List Request) (login : Request) : Prop :=
  ∃ before after, rs = before ++ login :: after ∧ LogsIn sha256 (reached sha256 before) login ∧
    Machine.Meets (step sha256) (fun a r => ¬LogsIn sha256 a r ∧ ¬LogsOut sha256 a r)
      (step sha256 (reached sha256 before) login) after

theorem BoundTo.step (h : BoundTo sha256 curr login) (hin : ¬LogsIn sha256 curr r)
    (hout : ¬LogsOut sha256 curr r) : BoundTo sha256 (step sha256 curr r) login := by
  have hcases := outcome sha256 curr r
  unfold LogsIn at hin
  unfold LogsOut at hout
  unfold DistributedAccount.step
  generalize procDistributedAccountStateChange sha256 curr r = result at hcases hin hout
  cases hcases with
  | refused e => exact h
  | login hevent hcan => exact (hin ⟨hevent, rfl⟩).elim
  | released hevent => exact (hout ⟨hevent, rfl⟩).elim
  | tokenInvalid hevent hsame next hnext =>
      have hexpired : next = .tokenExpired := by
        rcases h.bound.status with hs | hs <;> rw [hs] at hnext <;> cases hnext <;> rfl
      subst hexpired
      obtain ⟨hbound, huid⟩ := h.bound.setStatus (.inr rfl)
      refine ⟨hbound, ?_, huid.trans h.uid⟩
      calc cStr curr.ohosAccountInfo.name
        _ = cStr (cStr login.ohosAccountInfo.name) := by rw [h.name]
        _ = cStr login.ohosAccountInfo.name := (noNul_cStr _).cStr

theorem BoundBy.boundTo {rs : List Request} (h : BoundBy sha256 rs login) :
    BoundTo sha256 (reached sha256 rs) login := by
  obtain ⟨before, after, rfl, hlogin, hafter⟩ := h
  have hstep : ∀ a r, BoundTo sha256 a login → ¬LogsIn sha256 a r ∧ ¬LogsOut sha256 a r →
      BoundTo sha256 (step sha256 a r) login := fun a r hbound hr => hbound.step hr.1 hr.2
  rw [reached_append]
  exact Machine.run_invariant_of_meets hstep (boundTo_of_logsIn hlogin) hafter

theorem status_of_not_logsIn (hstatus : (step sha256 curr r).ohosAccountInfo.status ≠ .unbound)
    (hin : ¬LogsIn sha256 curr r) : curr.ohosAccountInfo.status ≠ .unbound ∧ ¬LogsOut sha256 curr r := by
  have hcases := outcome sha256 curr r
  unfold LogsIn at hin
  unfold LogsOut
  unfold step at hstatus
  generalize procDistributedAccountStateChange sha256 curr r = result at hcases hin hstatus
  cases hcases with
  | refused e => exact ⟨hstatus, fun hout => nomatch hout.2⟩
  | login hevent hcan => exact (hin ⟨hevent, rfl⟩).elim
  | released hevent => exact (hstatus rfl).elim
  | tokenInvalid hevent hsame next hnext =>
      refine ⟨fun hs => ?_, ?_⟩
      · rw [hs] at hnext
        cases hnext
        exact hstatus rfl
      · rw [hevent]
        exact fun hout => absurd hout.1 (by decide)

theorem exists_boundBy (rs : List Request) (h : (reached sha256 rs).ohosAccountInfo.status ≠ .unbound) :
    ∃ login, BoundBy sha256 rs login := by
  induction rs using List.reverseRecOn with
  | nil => exact (h rfl).elim
  | append_singleton rs r ih =>
      have hstep : reached sha256 (rs ++ [r]) = step sha256 (reached sha256 rs) r := reached_append sha256 rs r []
      rw [hstep] at h
      by_cases hin : LogsIn sha256 (reached sha256 rs) r
      · exact ⟨r, rs, [], rfl, hin, trivial⟩
      · obtain ⟨hstatus, hout⟩ := status_of_not_logsIn h hin
        obtain ⟨login, before, after, rfl, hlogin, hafter⟩ := ih hstatus
        refine ⟨login, before, after ++ [r], by rw [List.append_assoc]; rfl, hlogin, ?_⟩
        rw [reached_append] at hin hout
        exact Machine.meets_append.mpr ⟨hafter, ⟨hin, hout⟩, trivial⟩

theorem generate_of_fits (sha256 : Sha256)
    (hname : ¬(name = "" ∨ name.utf8ByteSize > maxNameLength)) (huid : ¬(uid = "" ∨ uid.utf8ByteSize > maxUidLength)) :
    generateOhosUdidWithSha256 sha256 name uid = returnOhosUdidWithSha256 sha256 uid := by
  rw [generateOhosUdidWithSha256, if_neg hname, if_neg huid]

theorem logsIn_first (sha256 : Sha256) (hevent : login.eventStr = ohosAccountEventLogin)
    (hname : ¬(login.ohosAccountInfo.name = "" ∨ login.ohosAccountInfo.name.utf8ByteSize > maxNameLength))
    (huid : ¬(login.ohosAccountInfo.uid = "" ∨ login.ohosAccountInfo.uid.utf8ByteSize > maxUidLength)) :
    LogsIn sha256 (reached sha256 []) login ∧ (reached sha256 [login]).ohosAccountInfo.status = .login := by
  have hlength : (generateOhosUdidWithSha256 sha256 login.ohosAccountInfo.name login.ohosAccountInfo.uid).length =
      ohosAccountUdidLength := by
    rw [generate_of_fits sha256 hname huid]
    exact length_returnOhosUdidWithSha256 sha256 _
  have hstatus : (reached sha256 []).ohosAccountInfo.status = .unbound := rfl
  have hproc := procDistributedAccountStateChange_login hevent (.inl hstatus) hlength
  exact ⟨⟨hevent, congrArg Prod.fst hproc⟩, congrArg (·.2.ohosAccountInfo.status) hproc⟩

theorem status_of_tokenInvalid (h : BoundTo sha256 curr login) (hnames : Names login r)
    (hmatch : Matches login r) (hevent : r.eventStr = ohosAccountEventTokenInvalid) :
    (step sha256 curr r).ohosAccountInfo.status = .tokenExpired := by
  unfold step procDistributedAccountStateChange handleOhosAccountTokenInvalidEvent
  rw [(checkSame_iff h hnames).mpr hmatch, hevent, handleEvent_of_checkEventValid checkEventValid_tokenInvalid]
  rcases h.bound.status with hs | hs <;> rw [hs] <;> rfl

/-- What a binding allows in every state that is reached. A request names the bound
account in the words of its login; the record has the name up to its first NUL. -/
theorem distributed_binding (sha256 : Sha256) (rs : List Request) :
    ((reached sha256 rs).ohosAccountInfo.status = .unbound ↔
      (reached sha256 rs).ohosAccountInfo.name = defaultOhosAccountName ∧
        (reached sha256 rs).ohosAccountInfo.uid = defaultOhosAccountUid) ∧
    ((reached sha256 rs).ohosAccountInfo.status ≠ .unbound → ∃ login, BoundBy sha256 rs login) ∧
    (∀ login r, BoundBy sha256 rs login → Names login r →
      (r.eventStr = ohosAccountEventLogoff → (Releases sha256 (reached sha256 rs) r ↔ Matches login r)) ∧
      (r.eventStr = ohosAccountEventLogout → (Releases sha256 (reached sha256 rs) r ↔
        Matches login r ∧ (reached sha256 rs).ohosAccountInfo.status ≠ .tokenExpired))) ∧
    (∀ r, Replaces sha256 (reached sha256 rs) r ↔ Overtakes sha256 (reached sha256 rs) r) ∧
    (∀ r₁ between r₂, LogsIn sha256 (reached sha256 rs) r₁ →
      LogsIn sha256 (reached sha256 (rs ++ r₁ :: between)) r₂ →
      (returnOhosUdidWithSha256 sha256 r₁.ohosAccountInfo.uid =
        returnOhosUdidWithSha256 sha256 r₂.ohosAccountInfo.uid → r₁.ohosAccountInfo.uid = r₂.ohosAccountInfo.uid) →
      r₁.ohosAccountInfo.uid ≠ r₂.ohosAccountInfo.uid →
      Machine.Meets (step sha256) (fun a r => ¬Overtakes sha256 a r) (reached sha256 rs) (r₁ :: between ++ [r₂]) →
      ∃ before r after, between = before ++ r :: after ∧ LogsOut sha256 (reached sha256 (rs ++ r₁ :: before)) r) := by
  have hinv := inv_reached sha256 rs
  refine ⟨status_unbound_iff hinv, exists_boundBy rs, fun login r hbound hnames => ?_, replaces_iff hinv,
    fun r₁ between r₂ h₁ h₂ hcollision hne hover => logsOut_between h₁ h₂ hcollision hne hover⟩
  exact ⟨releases_logoff_iff hbound.boundTo hnames, releases_logout_iff hbound.boundTo hnames⟩

end runs

def digest (uid : String) : Vector UInt8 32 :=
  if uid = "1" then
    #v[0x6b, 0x86, 0xb2, 0x73, 0xff, 0x34, 0xfc, 0xe1, 0x9d, 0x6b, 0x80, 0x4e, 0xff, 0x5a, 0x3f, 0x57,
    0x47, 0xad, 0xa4, 0xea, 0xa2, 0x2f, 0x1d, 0x49, 0xc0, 0x1e, 0x52, 0xdd, 0xb7, 0x87, 0x5b, 0x4b]
  else if uid = "2" then
    #v[0xd4, 0x73, 0x5e, 0x3a, 0x26, 0x5e, 0x16, 0xee, 0xe0, 0x3f, 0x59, 0x71, 0x8b, 0x9b, 0x5d, 0x03,
    0x01, 0x9c, 0x07, 0xd8, 0xb6, 0xc5, 0x1f, 0x90, 0xda, 0x3a, 0x66, 0x6e, 0xec, 0x13, 0xab, 0x35]
  else Vector.replicate 32 0

def request (name uid eventStr : String) : Request := ⟨{ name, uid }, eventStr, 0, 0⟩

def loginAlice : Request := request "alice" "1" ohosAccountEventLogin

def expireAlice : Request := request "alice" "1" ohosAccountEventTokenInvalid

def logoutAlice : Request := request "alice" "1" ohosAccountEventLogout

def loginBob : Request := request "bob" "2" ohosAccountEventLogin

def loginNul : Request := request "\x00x" "1" ohosAccountEventLogin

def logoffNul : Request := request "\x00x" "1" ohosAccountEventLogoff

def logoffEmpty : Request := request "" "1" ohosAccountEventLogoff

theorem distributed_binding_alice : Releases digest (reached digest [loginAlice]) logoutAlice := by
  obtain ⟨hlogin, hstatus⟩ := logsIn_first digest (rfl : loginAlice.eventStr = _) (by decide) (by decide)
  have hbound : BoundBy digest [loginAlice] loginAlice := ⟨[], [], rfl, hlogin, trivial⟩
  have hnames : Names loginAlice logoutAlice := ⟨rfl, .inl rfl⟩
  refine (((distributed_binding digest [loginAlice]).2.2.1 loginAlice logoutAlice hbound hnames).2 rfl).2 ?_
  refine ⟨⟨by decide +kernel, by decide⟩, ?_⟩
  rw [hstatus]
  decide

/-- When the token has expired, a logout is refused and another login is not. A binding
whose name starts with a NUL is not released by any name. -/
theorem expired_binding :
    BoundBy digest [loginAlice, expireAlice] loginAlice ∧ Names loginAlice logoutAlice ∧
    ¬Releases digest (reached digest [loginAlice, expireAlice]) logoutAlice ∧
    Replaces digest (reached digest [loginAlice, expireAlice]) loginBob ∧
    BoundBy digest [loginNul] loginNul ∧ Names loginNul logoffNul ∧ Names loginNul logoffEmpty ∧
    ¬Releases digest (reached digest [loginNul]) logoffNul ∧
    ¬Releases digest (reached digest [loginNul]) logoffEmpty := by
  obtain ⟨hlogin, -⟩ := logsIn_first digest (rfl : loginAlice.eventStr = _) (by decide) (by decide)
  obtain ⟨hloginNul, -⟩ := logsIn_first digest (rfl : loginNul.eventStr = _) (by decide) (by decide)
  have hnul : BoundBy digest [loginNul] loginNul := ⟨[], [], rfl, hloginNul, trivial⟩
  have hbound : BoundBy digest [loginAlice, expireAlice] loginAlice := by
    refine ⟨[], [expireAlice], rfl, hlogin, ⟨fun h => ?_, fun h => ?_⟩, trivial⟩
    · exact absurd h.1 (by decide)
    · exact h.1.elim (by decide) (by decide)
  have hnames : Names loginAlice logoutAlice := ⟨rfl, .inl rfl⟩
  have hfirst : BoundBy digest [loginAlice] loginAlice := ⟨[], [], rfl, hlogin, trivial⟩
  have hexpired : (reached digest [loginAlice, expireAlice]).ohosAccountInfo.status = .tokenExpired := by
    rw [← List.singleton_append, reached_append, Machine.run, List.foldl_nil]
    exact status_of_tokenInvalid hfirst.boundTo ⟨rfl, .inl rfl⟩ ⟨by decide +kernel, by decide⟩ rfl
  have hsame : Names loginNul logoffNul := ⟨rfl, .inl rfl⟩
  have hempty : Names loginNul logoffEmpty := ⟨rfl, .inr (by decide +kernel)⟩
  have hbob : generateOhosUdidWithSha256 digest "bob" "2" = returnOhosUdidWithSha256 digest "2" :=
    generate_of_fits digest (by decide) (by decide)
  have halice : generateOhosUdidWithSha256 digest "alice" "1" = returnOhosUdidWithSha256 digest "1" :=
    generate_of_fits digest (by decide) (by decide)
  refine ⟨hbound, hnames, fun h => ((releases_logout_iff hbound.boundTo hnames rfl).mp h).2 hexpired,
    (replaces_iff (inv_reached digest _) loginBob).mpr ⟨rfl, hexpired, ?_, ?_⟩, hnul, hsame, hempty,
    fun h => ?_, fun h => ?_⟩
  · exact (congrArg String.length hbob).trans (length_returnOhosUdidWithSha256 digest "2")
  · intro he
    have hchars := String.ofList_injective (hbob.symm.trans (he.trans (hbound.boundTo.uid.trans halice)))
    exact absurd hchars (by decide +kernel)
  · exact absurd ((releases_logoff_iff hnul.boundTo hsame rfl).mp h).1 (by decide +kernel)
  · exact ((releases_logoff_iff hnul.boundTo hempty rfl).mp h).2 rfl

end OsAccount.DistributedAccount
