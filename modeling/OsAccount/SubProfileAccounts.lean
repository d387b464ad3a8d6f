import OsAccount.DistributedAccount
import OsAccount.SubProfileGarbage

namespace OsAccount.SubProfileAccounts

open Std SubProfiles SubProfileContexts SubProfileGarbage
open DistributedAccount
  (OhosAccountInfo OhosAccountState AccountInnerEvent Entry AccountInfo Request ohosAccountEventLogin
  ohosAccountEventLogout ohosAccountEventTokenInvalid ohosAccountEventLogoff ohosAccountUdidLength defaultOhosAccountName
  defaultOhosAccountUid accountVersionAnon generateOhosUdidWithSha256 checkSameDistributedAccount updateOhosAccountInfo
  saveOhosAccountInfo buildJsonFileFromScratch)

def stateMachineMap : OhosAccountState → AccountInnerEvent → Option Entry
  | .unbound, .bindSuccess => some (.action .login)
  | .unbound, .bindFailed => some (.action .unbound)
  | .unbound, .authenticateSuccess => some (.action .login)
  | .unbound, _ => some .noAction
  | .login, .bindSuccess => some .noAction
  | .login, .bindFailed => some (.action .login)
  | .login, .authenticateSuccess => some .noAction
  | .login, .authenticateFailed => some .noAction
  | .login, .tokenExpired => some (.action .tokenExpired)
  | .login, .passwordChanged => some (.action .unbound)
  | .login, .manualLogout => some (.action .notLogin)
  | .login, .manualUnbound => some (.action .unbound)
  | .login, .manualLogoff => some (.action .logoff)
  | .notLogin, .bindSuccess | .tokenExpired, .bindSuccess | .logoff, .bindSuccess => some (.action .login)
  | .notLogin, .manualLogout | .tokenExpired, .manualLogout | .logoff, .manualLogout => some (.action .notLogin)
  | .notLogin, .tokenExpired | .tokenExpired, .tokenExpired | .logoff, .tokenExpired => some (.action .tokenExpired)
  | .notLogin, .manualLogoff | .tokenExpired, .manualLogoff | .logoff, .manualLogoff => some (.action .logoff)
  | _, _ => none

def stateChangeProcess (currentState : OhosAccountState) (evt : AccountInnerEvent) : Option OhosAccountState :=
  match stateMachineMap currentState evt with
  | none => none
  | some .noAction => some currentState
  | some (.action nextState) => some nextState

def checkEventValid (eventStr : String) : Option AccountInnerEvent :=
  if eventStr = ohosAccountEventLogin then some .bindSuccess
  else if eventStr = ohosAccountEventLogout then some .manualLogout
  else if eventStr = ohosAccountEventTokenInvalid then some .tokenExpired
  else if eventStr = ohosAccountEventLogoff then some .manualLogoff
  else none

inductive SubscribeType
  | login
  | logout
  | logoff
  | tokenInvalid
  | bound
  | unbound
deriving DecidableEq

structure Notification where
  type : SubscribeType
  localId : Int
  subspaceId : Int
deriving DecidableEq

/-- The disk, and the distributed account in the record of a sub-profile. That of the
headless one is in a file of the OS account. -/
structure State where
  disk : Disk
  accounts : Int → Int → AccountInfo

def State.setAccount (s : State) (localId subspaceId : Int) (account : AccountInfo) : State :=
  { s with accounts := Function.update s.accounts localId (Function.update (s.accounts localId) subspaceId account) }

@[simp]
theorem disk_setAccount (s : State) (a i : Int) (account : AccountInfo) : (s.setAccount a i account).disk = s.disk := rfl

@[simp]
theorem accounts_setAccount (s : State) (a i : Int) (account : AccountInfo) (b j : Int) :
    (s.setAccount a i account).accounts b j = if b = a ∧ j = i then account else s.accounts b j := by
  unfold State.setAccount
  by_cases hb : b = a
  · subst hb
    by_cases hj : j = i
    · subst hj
      simp
    · simp [hj]
  · simp [hb]

structure Reply where
  ret : Done Unit
  state : State
  published : List Notification

def refused (e : ErrCode) (s : State) : Reply := ⟨.error (.error e), s, []⟩

structure SpaceInfo where
  userId : Int
  subspaceId : Int
  account : AccountInfo

def getDistributedAccountSpaceInfo (s : State) (localId subspaceId : Int) : Except ErrCode SpaceInfo :=
  if subspaceId = base localId then .ok ⟨localId, subspaceId, s.accounts localId (base localId)⟩
  else
    match loadSubProfileInfo s.disk localId subspaceId with
    | none => .error .accountNotExistError
    | some info => .ok ⟨info.userId, info.subspaceId, s.accounts localId subspaceId⟩

/-- The rest of the record is written as it was read. Either file takes its texts through
C strings. -/
def setDistributedAccountSpaceInfo (save : Ret) (spaceInfo : SpaceInfo) (s : State) : Ret × State :=
  match save with
  | .error e => (.error e, s)
  | .ok () =>
      let account :=
        if spaceInfo.subspaceId = base spaceInfo.userId then { spaceInfo.account with version := accountVersionAnon }
        else spaceInfo.account
      (.ok (), s.setAccount spaceInfo.userId spaceInfo.subspaceId (saveOhosAccountInfo account))

def handleSpaceStateChange (spaceInfo : SpaceInfo) (eventStr : String) : Except ErrCode SpaceInfo :=
  match checkEventValid eventStr with
  | none => .error .invalidParameter
  | some event =>
      match stateChangeProcess spaceInfo.account.ohosAccountInfo.status event with
      | none => .error .zidlAccountServiceError
      | some newState => .ok { spaceInfo with account := spaceInfo.account.setStatus newState }

section events

variable (localId subspaceId : Int)

def publishLoginSpaceEvents (originalStatus : OhosAccountState) : List Notification :=
  (if originalStatus = .unbound then [⟨.bound, localId, subspaceId⟩] else []) ++
    if originalStatus = .login then [] else [⟨.login, localId, subspaceId⟩]

def publishLogoutSpaceEvents (isUnbound : Bool) : List Notification :=
  ⟨.logout, localId, subspaceId⟩ :: if isUnbound then [⟨.unbound, localId, subspaceId⟩] else []

end events

section calls

variable (max : MaxCount) (sha256 : Sha256)

def verifyOthers (s : State) (localId subspaceId : Int) (accountInfo : OhosAccountInfo) : List Int → Ret
  | [] => .ok ()
  | curId :: subSpaceIds =>
      if curId = subspaceId then verifyOthers s localId subspaceId accountInfo subSpaceIds
      else
        match getDistributedAccountSpaceInfo s localId curId with
        | .error e => .error e
        | .ok targetInfo =>
            if checkSameDistributedAccount sha256 targetInfo.account.ohosAccountInfo accountInfo then
              .error .subProfileDistributeAccAlreadyBound
            else verifyOthers s localId subspaceId accountInfo subSpaceIds

def verifySpaceAccountBinding (s : State) (localId subspaceId : Int) (accountInfo : OhosAccountInfo)
    (spaceInfo : SpaceInfo) : Ret :=
  let subSpaceIds := scanOsAccountSubProfileIds s.disk localId []
  if spaceInfo.account.ohosAccountInfo.status ≠ .unbound then
    if checkSameDistributedAccount sha256 spaceInfo.account.ohosAccountInfo accountInfo then .ok ()
    else .error .accountNotExistError
  else verifyOthers sha256 s localId subspaceId accountInfo subSpaceIds

def loginOhosAccountSpace (save : Ret) (userId subspaceId : Int) (r : Request) (s : State) : Reply :=
  match getDistributedAccountSpaceInfo s userId subspaceId with
  | .error e => refused e s
  | .ok spaceInfo =>
      let ohosAccountUid := generateOhosUdidWithSha256 sha256 r.ohosAccountInfo.name r.ohosAccountInfo.uid
      if ohosAccountUid.length ≠ ohosAccountUdidLength then refused .zidlAccountServiceError s
      else
        match verifySpaceAccountBinding sha256 s userId subspaceId r.ohosAccountInfo spaceInfo with
        | .error e => refused e s
        | .ok () =>
            match handleSpaceStateChange spaceInfo r.eventStr with
            | .error e => refused e s
            | .ok changed =>
                let account := updateOhosAccountInfo r ohosAccountUid
                match setDistributedAccountSpaceInfo save { changed with account } s with
                | (.error e, s) => refused e s
                | (.ok (), s) =>
                    ⟨.ok (), s, publishLoginSpaceEvents userId subspaceId spaceInfo.account.ohosAccountInfo.status⟩

/-- `LogoutOhosAccountSpace`, `LogoffOhosAccountSpace` and
`HandleOhosAccountSpaceTokenInvalidEvent` differ in what they publish. -/
def changeSpaceState (published : List Notification) (save : Ret) (userId subspaceId : Int) (r : Request) (s : State) :
    Reply :=
  match getDistributedAccountSpaceInfo s userId subspaceId with
  | .error e => refused e s
  | .ok spaceInfo =>
      if !checkSameDistributedAccount sha256 spaceInfo.account.ohosAccountInfo r.ohosAccountInfo then
        refused .accountNotExistError s
      else
        match handleSpaceStateChange spaceInfo r.eventStr with
        | .error e => refused e s
        | .ok spaceInfo =>
            match setDistributedAccountSpaceInfo save spaceInfo s with
            | (.error e, s) => refused e s
            | (.ok (), s) => ⟨.ok (), s, published⟩

def logoutOhosAccountSpace (save : Ret) (userId subspaceId : Int) : Request → State → Reply :=
  changeSpaceState sha256 (publishLogoutSpaceEvents userId subspaceId false) save userId subspaceId

def logoffOhosAccountSpace (save : Ret) (userId subspaceId : Int) : Request → State → Reply :=
  changeSpaceState sha256 [⟨.logoff, userId, subspaceId⟩] save userId subspaceId

def handleOhosAccountSpaceTokenInvalidEvent (save : Ret) (userId subspaceId : Int) : Request → State → Reply :=
  changeSpaceState sha256 [⟨.tokenInvalid, userId, subspaceId⟩] save userId subspaceId

def clearMainAccountIfMatch (save : Ret) (localId bundleUid : Int) (s : State) : State × List Notification :=
  let accountInfo := s.accounts localId (base localId)
  if accountInfo.ohosAccountInfo.callingUid ≠ bundleUid ∨ accountInfo.ohosAccountInfo.status = .unbound then (s, [])
  else
    -- The result of the save is ignored.
    (match save with
      | .ok () => s.setAccount localId (base localId) (saveOhosAccountInfo accountInfo.clear)
      | .error _ => s,
      publishLogoutSpaceEvents localId (base localId) true)

def clearDistributedAccountSpaceIfMatch (save : Ret) (localId spaceId bundleUid : Int) (s : State) :
    State × List Notification :=
  match getDistributedAccountSpaceInfo s localId spaceId with
  | .error _ => (s, [])
  | .ok spaceInfo =>
      if spaceInfo.account.ohosAccountInfo.callingUid ≠ bundleUid ∨
          spaceInfo.account.ohosAccountInfo.status = .unbound then (s, [])
      else
        ((setDistributedAccountSpaceInfo save { spaceInfo with account := spaceInfo.account.clear } s).2,
          publishLogoutSpaceEvents localId spaceId true)

def clearDistributedAccountSpaces (saves : Int → Ret) (localId bundleUid : Int) :
    List Int → State → State × List Notification
  | [], s => (s, [])
  | spaceId :: spaceIds, s =>
      let (s, published) := clearDistributedAccountSpaceIfMatch (saves spaceId) localId spaceId bundleUid s
      let (s, rest) := clearDistributedAccountSpaces saves localId bundleUid spaceIds s
      (s, published ++ rest)

def clearDistributedAccountSpacesIfMatch (saves : Int → Ret) (localId bundleUid : Int) (s : State) :
    State × List Notification :=
  clearDistributedAccountSpaces saves localId bundleUid (scanOsAccountSubProfileIds s.disk localId []) s

def onPackageRemoved (saves : Int → Int → Ret) (callingUid : Int) : List Int → State → State × List Notification
  | [], s => (s, [])
  | localId :: localIds, s =>
      let (s, main) := clearMainAccountIfMatch (saves localId (base localId)) localId callingUid s
      let (s, spaces) := clearDistributedAccountSpacesIfMatch (saves localId) localId callingUid s
      let (s, rest) := onPackageRemoved saves callingUid localIds s
      (s, main ++ spaces ++ rest)

def writeAnswer : Ret → WriteAnswer
  | .ok () => .success
  | .error e => .failure e

def saveAnswer (made : Bool) : Ret → SaveAnswer
  | .ok () => .success
  | .error e => .failure e made

structure CreateSaves where
  purge : Ret
  persist : Ret
  save : Ret
  made : Bool
  rollback : Ret
  createTime : Int

def CreateSaves.answer (a : CreateSaves) : CreateAnswer where
  removeGarbageDir _ := .success
  purge := writeAnswer a.purge
  persist := writeAnswer a.persist
  save := saveAnswer a.made a.save
  rollbackDir := .success
  rollback := writeAnswer a.rollback
  createTime := a.createTime

def newAccount : AccountInfo := { buildJsonFileFromScratch with version := accountVersionAnon }

def createOsAccountSubspace (a : CreateSaves) (osAccountId : Int) (s : State) : Reply :=
  match createSubProfile max a.answer osAccountId s.disk with
  | (.error stop, disk) => ⟨.error stop, { s with disk }, []⟩
  | (.ok createdInfo, disk) =>
      ⟨.ok (), State.setAccount { s with disk } osAccountId createdInfo.subspaceId newAccount, []⟩

structure RemoveSaves where
  foregroundSubProfileId : Option Int
  deleteSubProfileCred : Ret
  save : Ret
  made : Bool
  update : Ret

def RemoveSaves.answer (a : RemoveSaves) : RemoveAnswer where
  foregroundSubProfileId := a.foregroundSubProfileId
  deleteSubProfileCred := a.deleteSubProfileCred
  save := saveAnswer a.made a.save
  removeDir := .success
  update := writeAnswer a.update

def deleteOsAccountSubspace (a : RemoveSaves) (osAccountId subspaceId : Int) (s : State) : Reply :=
  if subspaceId = base osAccountId then refused .subProfileRestricted s
  else
    match getDistributedAccountSpaceInfo s osAccountId subspaceId with
    | .error e => refused (if e = .accountNotExistError then .subProfileNotFound else e) s
    | .ok profileInfo =>
        match removeSubProfile a.answer osAccountId subspaceId s.disk with
        | (.error stop, disk) => ⟨.error stop, { s with disk }, []⟩
        | (.ok (), disk) =>
            ⟨.ok (), { s with disk },
              if profileInfo.account.ohosAccountInfo.status ≠ .unbound then [⟨.unbound, osAccountId, subspaceId⟩]
              else []⟩

def sendMultiSpaceLogoutOnDelOsAccount (s : State) (localId : Int) : List Notification :=
  (scanOsAccountSubProfileIds s.disk localId []).flatMap fun spaceId =>
    match getDistributedAccountSpaceInfo s localId spaceId with
    | .error _ => []
    | .ok spaceInfo =>
        if spaceInfo.account.ohosAccountInfo.status = .unbound then []
        else
          (if spaceInfo.account.ohosAccountInfo.status = .login then publishLogoutSpaceEvents localId spaceId false
            else []) ++ [⟨.unbound, localId, spaceId⟩]

/-- The removal of an OS account: the notifications, and then the directory with
all the files of the account goes. -/
def removeOsAccount (localId : Int) (s : State) : State × List Notification :=
  (State.setAccount { s with disk := Function.update s.disk localId {} } localId (base localId) buildJsonFileFromScratch,
    sendMultiSpaceLogoutOnDelOsAccount s localId)

inductive Operation
  | login (save : Ret) (userId subspaceId : Int) (r : Request)
  | logout (save : Ret) (userId subspaceId : Int) (r : Request)
  | logoff (save : Ret) (userId subspaceId : Int) (r : Request)
  | tokenInvalid (save : Ret) (userId subspaceId : Int) (r : Request)
  | create (a : CreateSaves) (osAccountId : Int)
  | delete (a : RemoveSaves) (osAccountId subspaceId : Int)
  | removeOsAccount (localId : Int)
  | packageRemoved (saves : Int → Int → Ret) (callingUid : Int) (localIds : List Int)

def perform (s : State) : Operation → State × List Notification
  | .login save userId subspaceId r =>
      let reply := loginOhosAccountSpace sha256 save userId subspaceId r s
      (reply.state, reply.published)
  | .logout save userId subspaceId r =>
      let reply := logoutOhosAccountSpace sha256 save userId subspaceId r s
      (reply.state, reply.published)
  | .logoff save userId subspaceId r =>
      let reply := logoffOhosAccountSpace sha256 save userId subspaceId r s
      (reply.state, reply.published)
  | .tokenInvalid save userId subspaceId r =>
      let reply := handleOhosAccountSpaceTokenInvalidEvent sha256 save userId subspaceId r s
      (reply.state, reply.published)
  | .create a osAccountId =>
      let reply := createOsAccountSubspace max a osAccountId s
      (reply.state, reply.published)
  | .delete a osAccountId subspaceId =>
      let reply := deleteOsAccountSubspace a osAccountId subspaceId s
      (reply.state, reply.published)
  | .removeOsAccount localId => removeOsAccount localId s
  | .packageRemoved saves callingUid localIds => onPackageRemoved saves callingUid localIds s

def initial : State := ⟨nothing, fun _ _ => buildJsonFileFromScratch⟩

end calls

end OsAccount.SubProfileAccounts
