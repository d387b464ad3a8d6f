import OsAccount.MarkedResources
import OsAccount.OperatingMarker

namespace OsAccount.AccountResources

open AccountList MarkedResources
open OperatingMarker (Build Creation)

/-- `MAX_RETRY_TIMES` of the interface to the other services and of `Init`, and `MAX_INSERT_RETRY_TIMES`. -/
def maxRetryTimes : Nat := 10

def initRetryTimes : Nat := 50

def maxInsertRetryTimes : Nat := 3

/-- What the service and the other two have of an account: whether it is in the account list, its file, and its users
with the storage and with the bundle manager. `kept` says that users were left behind with no account. Of the list
only the ids count, and that a list which cannot be read at the start is made anew is left out. -/
structure Stores where
  listed : Bool := false
  record : Option OsAccountInfo := none
  storageUser : Bool := false
  bundleUser : Bool := false
  kept : Bool := false
deriving DecidableEq

def isLive (osAccountInfo : OsAccountInfo) : Bool := osAccountInfo.isCreateCompleted && !osAccountInfo.toBeRemoved

/-- What a program takes for granted of an account: that a copy made before the marker was set still tells whether the
account is live, that the account has no users, or that it has both. -/
inductive Expectation
  | asRead (osAccountInfo : OsAccountInfo)
  | noUsers
  | users

inductive Act
  | getOsAccountInfoById
  | isExistFile
  | accountListFile
  | inputFileByPathAndContent (osAccountInfo : OsAccountInfo)
  | deleteDirOrFile
  | prepareAddUser
  | removeStorageUser
  | createNewUser
  | removeBundleUser
  | keepData
  | expect (e : Expectation)

def Act.Ret : Act → Type
  | .getOsAccountInfoById => OsAccount.Ret × OsAccountInfo
  | .isExistFile => Bool
  | .accountListFile => OsAccount.Ret × Bool
  | .keepData | .expect _ => Unit
  | .inputFileByPathAndContent _ | .deleteDirOrFile | .prepareAddUser | .removeStorageUser | .createNewUser
  | .removeBundleUser => OsAccount.Ret

structure Fault where
  failure : Option ErrCode := none
  takes : Bool := false

def Fault.outcome (f : Fault) : Ret :=
  match f.failure with
  | some e => .error e
  | none => .ok ()

def Fault.happens (f : Fault) : Bool := f.failure.isNone || f.takes

def Fault.changes (f : Fault) (r r' : Stores) : Ret × Stores := (f.outcome, if f.happens then r' else r)

def Fault.reads (f : Fault) (record : Option OsAccountInfo) : Ret × OsAccountInfo :=
  match f.failure, record with
  | some e, _ => (.error e, {})
  | none, none => (.error .accountNotExistError, {})
  | none, some osAccountInfo => (.ok (), osAccountInfo)

/-- The file of the account list belongs to no account: `accountListFile` says how an access to it ends, and whether it
takes place. -/
def effect : (a : Act) → Fault → Stores → a.Ret × Stores
  | .getOsAccountInfoById, f, r => (f.reads r.record, r)
  | .isExistFile, _, r => (r.record.isSome, r)
  | .accountListFile, f, r => ((f.outcome, f.happens), r)
  | .inputFileByPathAndContent osAccountInfo, f, r => f.changes r { r with record := some osAccountInfo }
  | .deleteDirOrFile, f, r => f.changes r { r with record := none }
  | .prepareAddUser, f, r => f.changes r { r with storageUser := true }
  | .removeStorageUser, f, r => f.changes r { r with storageUser := false }
  | .createNewUser, f, r => f.changes r { r with bundleUser := true }
  | .removeBundleUser, f, r => f.changes r { r with bundleUser := false }
  | .keepData, _, r => ((), { r with kept := true })
  | .expect _, _, r => ((), r)

def Stores.hasUsers (r : Stores) : Bool := r.storageUser || r.bundleUser

/-- The calls that concern no account in particular, or nothing of it that is stored. Their outcome is an answer. -/
inductive Call
  | isCreationAllowed
  | checkSaCall
  | getNonSACreatedOACount
  | getSerialNumber
  | getAllowCreateId
  | getConstraintsByType
  | setDomainInfo
  | getRealOsAccountInfoById
  | isOsAccountExists
  | setNextLocalId
  | validateOsAccount
  | checkTypeNumber
  | updateBaseOAConstraints
  | getOsAccountIdList
  | getOsAccountsByDomainInfo
  | queryAllCreatedOsAccounts
  | exceedsMaxOsAccountNum
  | isOsAccountConstraintEnable
  | delOsAccountType
  | setOsAccountTypeInTee
  | sendToIDMAccountDelete
  | isForeground
  | isActivedOrVerified
  | sendToAMSAccountDeactivate
  | activateOsAccount
  | sendToAMSAccountStop
  | checkAllAppDied
  | sendToStorageAccountStop
  | removeOAConstraintsInfo
  | getStorageProxy
  | checkHighestHapInstallForCreate
  | initOsAccountSubspaceForNewAccount
  | sendToStorageAccountCreateComplete
  | isValidOsAccount
  | isDefaultActivated
  | setDefaultActivatedOsAccount
  | isPluginAvailable
  | getDomainAccountInfo
  | onAccountBound
  | bindResult
  | onAccountUnBound

abbrev Reply (_ : Call) : Type := OperatingMarker.Answer

abbrev Access : Type := MarkedResources.Access Int Act Call

abbrev Answer : Access → Type := MarkedResources.Answer Act.Ret Reply

abbrev Step : Type → Type := Program Access Answer

section operations

variable {α : Type}

def checkAndAddLocalIdOperating (id : Int) : Step Bool := @Program.call Access Answer (.mark id)

def clearMarker (id : Int) : Step Unit := @Program.call Access Answer (.clear id)

def enter (id : Int) : Step Unit := @Program.call Access Answer (.enter id)

def leave (id : Int) : Step Unit := @Program.call Access Answer (.leave id)

def removeLocalIdToOperating (id : Int) : Step Unit := do
  leave id
  clearMarker id

def act (id : Int) (a : Act) : Step a.Ret := @Program.call Access Answer (.act id a)

def ask (c : Call) : Step OperatingMarker.Answer := @Program.call Access Answer (.outside c)

def ret (c : Call) : Step Ret := do
  let answer ← ask c
  return answer.ret

def flag (c : Call) : Step Bool := do
  let answer ← ask c
  return answer.flag

def inCase (c : Bool) (p : Step α) (a : α) : Step α := if c then p else pure a

def getOsAccountInfoById (id : Int) : Step (Ret × OsAccountInfo) := act id .getOsAccountInfoById

def updateOsAccount (osAccountInfo : OsAccountInfo) : Step Ret := do
  let isExistFile : Bool ← act osAccountInfo.localId .isExistFile
  if !isExistFile then return .error .updateFileNotExistsError
  act osAccountInfo.localId (.inputFileByPathAndContent osAccountInfo)

def getAccountListFromFile : Step (List Int) := @Program.call Access Answer .readList

/-- The account list is written back as a whole, with the ids that were read and the entry of the account changed. -/
def saveAccountListToFile (own : Option Int) (accountIdList : List Int) : Step Unit :=
  @Program.call Access Answer (.writeList own accountIdList)

def updateAccountList (id : Int) (isAdd : Bool) : Step Ret := do
  let (result, _) : Ret × Bool ← act id .accountListFile
  if result ≠ .ok () then return result
  let accountIdList ← getAccountListFromFile
  if isAdd && accountIdList.contains id then return .ok ()
  let (result, happens) : Ret × Bool ← act id .accountListFile
  inCase happens
    (saveAccountListToFile (some id) (if isAdd then accountIdList ++ [id] else accountIdList.filter (· ≠ id))) ()
  return result

/-- A call that writes the account list back with the ids that it has read, for what else the list holds. It does so
also when it fails, if the answer says so. -/
def askWithAccountList (c : Call) : Step OperatingMarker.Answer := do
  let accountIdList ← getAccountListFromFile
  let answer ← ask c
  inCase (answer.ret = .ok () || answer.flag) (saveAccountListToFile none accountIdList) ()
  return answer

def retWithAccountList (c : Call) : Step Ret := do
  let answer ← askWithAccountList c
  return answer.ret

def listOsAccount (id : Int) : Step Ret := if startUserId ≤ id then updateAccountList id true else pure (.ok ())

def insertOsAccount (osAccountInfo : OsAccountInfo) : Step Ret := do
  if osAccountInfo.localId < adminLocalId then return .error .idCannotCreateError
  let isExistFile : Bool ← act osAccountInfo.localId .isExistFile
  if isExistFile then return .error .insertFileExistsError
  let updateRet ← listOsAccount osAccountInfo.localId
  if updateRet ≠ .ok () then return updateRet
  act osAccountInfo.localId (.inputFileByPathAndContent osAccountInfo)

def delOsAccount (id : Int) : Step Ret := do
  if id ≤ startUserId ∨ id > maxUserId then return .error .cannotDeleteIdError
  let result : Ret ← act id .deleteDirOrFile
  if result ≠ .ok () then return result
  updateAccountList id false

variable (b : Build)

def sendToBMSAccountDelete (id : Int) : Step Ret := act id .removeBundleUser

def sendToStorageAccountRemove (id : Int) : Step Ret := do
  if !b.hasStoragePart then return .ok ()
  let errCode ← ret .getStorageProxy
  if errCode ≠ .ok () then return errCode
  act id .removeStorageUser

def deactivateOsAccountByInfo (osAccountInfo : OsAccountInfo) : Step Ret := do
  let errCode ← updateOsAccount osAccountInfo
  return if errCode ≠ .ok () ∧ errCode ≠ .error .dataNoSpace then .error .updateAccountError else .ok ()

def sendMsgForAccountStop (osAccountInfo : OsAccountInfo) : Step Ret := do
  let errCode ← ret .sendToAMSAccountStop
  if errCode ≠ .ok () then return errCode
  let errCode ← ret .checkAllAppDied
  if errCode ≠ .ok () then return errCode
  let errCode ← ret .sendToStorageAccountStop
  if errCode ≠ .ok () ∧ errCode ≠ .error .storageStopUserFailed then return .error .getSystemAbilityManager
  deactivateOsAccountByInfo osAccountInfo

def resetForegroundBeforeRemove : Step Ret := do
  if !(← flag .isForeground) then return .ok ()
  if b.enableMultiForegroundOsAccounts then return ← ret .sendToAMSAccountDeactivate
  let errCode ← ret .activateOsAccount
  return if errCode ≠ .ok () then .error .removeAccountActivedError else .ok ()

def deleteFromIDM : Step Ret := inCase b.hasUserIdmPart (ret .sendToIDMAccountDelete) (.ok ())

def prepareRemoveOsAccount (osAccountInfo : OsAccountInfo) (isCleanGarbage : Bool) : Step Ret := do
  let errCode ← deleteFromIDM b
  if errCode ≠ .ok () then return errCode
  if isCleanGarbage then return .ok ()
  let errCode ← resetForegroundBeforeRemove b
  if errCode ≠ .ok () then return errCode
  sendMsgForAccountStop osAccountInfo

def sendMsgForAccountRemove (id : Int) : Step Ret := do
  let errCode ← sendToBMSAccountDelete id
  if errCode ≠ .ok () then return errCode
  let errCode ← sendToStorageAccountRemove b id
  if errCode ≠ .ok () then return .error .getSystemAbilityManager
  delOsAccount id

def deleteFromTee : Step Ret := inCase b.supportAuthorization (ret .delOsAccountType) (.ok ())

def removeOsAccountOperate (id : Int) (osAccountInfo : OsAccountInfo) (isCleanGarbage : Bool) : Step Ret := do
  if isCleanGarbage && !osAccountInfo.isCreateCompleted && !osAccountInfo.isDataRemovable then return .ok ()
  let res ← deleteFromTee b
  if res ≠ .ok () then return res
  let errCode ← prepareRemoveOsAccount b osAccountInfo isCleanGarbage
  if errCode ≠ .ok () then return errCode
  let errCode ← sendMsgForAccountRemove b id
  if errCode ≠ .ok () then return errCode
  ret .removeOAConstraintsInfo

/-- One turn of the loop of `CleanGarbageOsAccounts`, with what it adds to the count. -/
def cleanGarbageOsAccount (excludeId id : Int) : Step Nat := do
  if id = startUserId ∨ id = adminLocalId ∨ id = u1Id ∨ id = excludeId then return 0
  if !(← checkAndAddLocalIdOperating id) then return 0
  let (errCode, osAccountInfo) ← getOsAccountInfoById id
  if errCode ≠ .ok () ∧ errCode ≠ .error .accountNotExistError then
    removeLocalIdToOperating id
    return 0
  if !osAccountInfo.toBeRemoved && osAccountInfo.isCreateCompleted then
    removeLocalIdToOperating id
    return 0
  let errCode ← removeOsAccountOperate b id { osAccountInfo with localId := id } true
  removeLocalIdToOperating id
  return if errCode = .ok () then 1 else 0

def cleanGarbageOsAccountsIn (excludeId : Int) : List Int → Step Nat
  | [] => pure 0
  | id :: idList => do
      let n ← cleanGarbageOsAccount b excludeId id
      let m ← cleanGarbageOsAccountsIn excludeId idList
      return n + m

def cleanGarbageOsAccounts (excludeId : Int) : Step Nat := do
  let errCode ← ret .getOsAccountIdList
  if errCode ≠ .ok () then return 0
  let idList ← getAccountListFromFile
  cleanGarbageOsAccountsIn b excludeId idList

/-- The files of an account whose data may not be removed are, and its users stay behind. -/
def rollbackOsAccount (osAccountInfo : OsAccountInfo) (needDelStorage needDelBms : Bool) : Step Unit := do
  let res ← deleteFromTee b
  if res ≠ .ok () then return ()
  if !osAccountInfo.isDataRemovable then
    act osAccountInfo.localId .keepData
    let _ ← delOsAccount osAccountInfo.localId
    return ()
  let errCode ← inCase needDelBms (sendToBMSAccountDelete osAccountInfo.localId) (.ok ())
  if errCode ≠ .ok () then return ()
  let errCode ← inCase needDelStorage (sendToStorageAccountRemove b osAccountInfo.localId) (.ok ())
  if errCode ≠ .ok () then return ()
  if !osAccountInfo.domainInfo.accountName.isEmpty then return ()
  let _ ← delOsAccount osAccountInfo.localId
  return ()

def innerSendToStorageAccountCreate (localId : Int) : Step Ret := do
  if !b.hasStoragePart then return .ok ()
  let errCode ← ret .getStorageProxy
  if errCode ≠ .ok () then return errCode
  let err : Ret ← act localId .prepareAddUser
  if err = .ok () then return .ok ()
  let n ← cleanGarbageOsAccounts b localId
  if n = 0 then return err
  act localId .prepareAddUser

def sendToStorageAccountCreate (localId : Int) : Nat → Ret → Step Ret
  | 0, errCode => pure errCode
  | n + 1, _ => do
      let errCode ← innerSendToStorageAccountCreate b localId
      if errCode ≠ .error .ipcError ∧ errCode ≠ .error .ipcSaDied then return errCode
      sendToStorageAccountCreate localId n errCode

def sendToBMSAccountCreate (localId : Int) : Nat → Ret → Step Ret
  | 0, errCode => pure errCode
  | n + 1, _ => do
      let errCode : Ret ← act localId .createNewUser
      if errCode ≠ .error .ipcError ∧ errCode ≠ .error .ipcSaDied then return errCode
      sendToBMSAccountCreate localId n errCode

def finalizeAccountCreate (osAccountInfo : OsAccountInfo) : Step Ret := do
  let initSubspaceRet ← ret .initOsAccountSubspaceForNewAccount
  if initSubspaceRet ≠ .ok () then
    rollbackOsAccount b osAccountInfo true true
    return .error .updateAccountError
  let errCode ← updateOsAccount { osAccountInfo with isCreateCompleted := true }
  if errCode ≠ .ok () then
    rollbackOsAccount b { osAccountInfo with isCreateCompleted := true } true true
    return .error .updateAccountError
  let _ ← ret .sendToStorageAccountCreateComplete
  return .ok ()

def sendMsgForAccountCreate (osAccountInfo : OsAccountInfo) : Step Ret := do
  let errCode ← sendToStorageAccountCreate b osAccountInfo.localId maxRetryTimes (.ok ())
  if errCode ≠ .ok () then
    rollbackOsAccount b osAccountInfo false false
    return .error .getSystemAbilityManager
  let errCode ← sendToBMSAccountCreate osAccountInfo.localId maxRetryTimes (.ok ())
  if errCode ≠ .ok () then
    rollbackOsAccount b osAccountInfo true false
    return errCode
  let errCode ← ret .checkHighestHapInstallForCreate
  if errCode ≠ .ok () then
    rollbackOsAccount b osAccountInfo true true
    return errCode
  finalizeAccountCreate b osAccountInfo

def checkAndCleanOsAccounts : Step Bool := do
  if ← flag .getNonSACreatedOACount then return true
  let n ← cleanGarbageOsAccounts b (-1)
  return 0 < n

def assignSpecifiedLocalId (specifiedId : Int) : Step Ret := do
  if specifiedId < startUserId ∨ specifiedId > maxCreatableUserId then return .error .invalidParameter
  let answer ← ask .getRealOsAccountInfoById
  if answer.ret ≠ .ok () ∧ answer.ret ≠ .error .accountNotExistError then return answer.ret
  if answer.ret = .ok () ∧ isLive answer.info then return .error .localIdAlreadyExistsError
  let _ ← cleanGarbageOsAccounts b (-1)
  let answer ← ask .isOsAccountExists
  if answer.ret ≠ .ok () then return answer.ret
  if answer.flag then return .error .localIdAlreadyExistsError
  retWithAccountList .setNextLocalId

def newLocalId (c : Creation) : Step (Ret × Int) :=
  if c.type = .maintenance then pure (.ok (), maintenanceModeId)
  else match c.specifiedId with
    | some specifiedId => do
        let errCode ← assignSpecifiedLocalId b specifiedId
        return (errCode, specifiedId)
    | none => do
        let answer ← askWithAccountList .getAllowCreateId
        return (answer.ret, answer.id)

def fillOsAccountInfo (c : Creation) : Step (Ret × OsAccountInfo) := do
  let errCode ← retWithAccountList .getSerialNumber
  if errCode ≠ .ok () then return (errCode, c.osAccountInfo)
  let (errCode, id) ← newLocalId b c
  if errCode ≠ .ok () then return (errCode, c.osAccountInfo)
  let errCode ← ret .getConstraintsByType
  if errCode ≠ .ok () then return (errCode, c.osAccountInfo)
  let isSaCall ← flag .checkSaCall
  let errCode ← ret .setDomainInfo
  return (errCode,
    { localId := id, localName := c.osAccountInfo.localName, shortName := c.osAccountInfo.shortName, type := c.type,
      domainInfo := c.osAccountInfo.domainInfo, creatorIsNative := isSaCall })

def prepareOsAccountInfo (c : Creation) : Step (Ret × OsAccountInfo) := do
  let (errCode, osAccountInfo) ← fillOsAccountInfo b c
  if errCode ≠ .ok () then return (errCode, osAccountInfo)
  let errCode ← ret .validateOsAccount
  if errCode ≠ .ok () then return (errCode, osAccountInfo)
  let errCode ← ret .checkTypeNumber
  if errCode = .error .maxTypeCanCreateError then return (.error .maxCanCreateError, osAccountInfo)
  if errCode ≠ .ok () then return (errCode, osAccountInfo)
  if !(← checkAndAddLocalIdOperating osAccountInfo.localId) then return (.error .accountOperatingError, osAccountInfo)
  let errCode ← insertOsAccount osAccountInfo
  if errCode ≠ .ok () then return (errCode, osAccountInfo)
  let errCode ← ret .updateBaseOAConstraints
  return (errCode, osAccountInfo)

def insertOsAccountTypeToTee : Step Ret := do
  let errCode ← ret .setOsAccountTypeInTee
  if errCode ≠ .error .teeReachLimit then return errCode
  let n ← cleanGarbageOsAccounts b (-1)
  if 0 < n then return ← ret .setOsAccountTypeInTee
  return errCode

def handleCreateOsAccountToken (c : Creation) : Step Ret := do
  if c.hasToken then return ← insertOsAccountTypeToTee b
  return if c.isEdmCalling then .ok () else .error .privilegeDenied

/-- What the two overloads share. `rest` comes after the preparation. -/
def createOsAccountOverload (c : Creation) (rest : OsAccountInfo → Step Ret) : Step Ret := do
  if !(← flag .isCreationAllowed) then return .error .notAllowedCreationError
  let isSaCall ← flag .checkSaCall
  let isAllowed ← inCase (!isSaCall) (checkAndCleanOsAccounts b) true
  if !isAllowed then return .error .maxCanCreateError
  let (errCode, osAccountInfo) ← prepareOsAccountInfo b
    { c with osAccountInfo := { c.osAccountInfo with domainInfo := {} } }
  if errCode ≠ .ok () then
    removeLocalIdToOperating osAccountInfo.localId
    return errCode
  rest osAccountInfo

def createOsAccount (c : Creation) : Step Ret :=
  createOsAccountOverload b c fun osAccountInfo => do
    let errCode ← sendMsgForAccountCreate b osAccountInfo
    removeLocalIdToOperating osAccountInfo.localId
    return errCode

def createOsAccountWithOptions (c : Creation) : Step Ret :=
  createOsAccountOverload b c fun osAccountInfo => do
    let errCode ← inCase b.supportAuthorization (handleCreateOsAccountToken b c) (.ok ())
    if errCode ≠ .ok () then
      removeLocalIdToOperating osAccountInfo.localId
      return errCode
    let errCode ← sendMsgForAccountCreate b osAccountInfo
    removeLocalIdToOperating osAccountInfo.localId
    return errCode

def prepareOsAccountInfoWithFullInfo (osAccountInfo : OsAccountInfo) : Step Ret := do
  let errCode ← retWithAccountList .getSerialNumber
  if errCode ≠ .ok () then return errCode
  let errCode ← retWithAccountList .setNextLocalId
  if errCode ≠ .ok () then return errCode
  let errCode ← insertOsAccount osAccountInfo
  if errCode ≠ .ok () ∧ errCode ≠ .error .insertFileExistsError then return errCode
  let errCode ← ret .getConstraintsByType
  if errCode ≠ .ok () then return errCode
  ret .updateBaseOAConstraints

/-- What is there of the account is removed if it is to be, with the record of the caller. -/
def clearTheWay (osAccountInfo : OsAccountInfo) : Step Ret := do
  let (errCode, oldInfo) ← getOsAccountInfoById osAccountInfo.localId
  if errCode = .error .accountNotExistError then return .ok ()
  if errCode ≠ .ok () then return errCode
  if !oldInfo.isCreateCompleted then return .ok ()
  if oldInfo.toBeRemoved then return ← removeOsAccountOperate b osAccountInfo.localId osAccountInfo false
  return .error .accountAlreadyExistError

def begun (c : Creation) : OsAccountInfo := { c.osAccountInfo with isCreateCompleted := false, isDataRemovable := false }

def createOsAccountWithFullInfo (c : Creation) : Step Ret := do
  if !(← flag .isCreationAllowed) then return .error .notAllowedCreationError
  if !(← checkAndAddLocalIdOperating c.osAccountInfo.localId) then return .error .accountOperatingError
  let errCode ← clearTheWay b c.osAccountInfo
  if errCode ≠ .ok () then
    removeLocalIdToOperating c.osAccountInfo.localId
    return errCode
  let osAccountInfo := begun c
  let errCode ← prepareOsAccountInfoWithFullInfo osAccountInfo
  if errCode ≠ .ok () then
    removeLocalIdToOperating c.osAccountInfo.localId
    return errCode
  let errCode ← inCase (b.supportAuthorization && c.hasToken) (insertOsAccountTypeToTee b) (.ok ())
  if errCode ≠ .ok () then
    removeLocalIdToOperating c.osAccountInfo.localId
    return errCode
  let errCode ← sendMsgForAccountCreate b osAccountInfo
  removeLocalIdToOperating c.osAccountInfo.localId
  return errCode

/-- One turn of `CheckDomainAccountBound`: does the account keep the domain account bound. Its record was read before
the marker was set. -/
def staysBound (osAccountInfo : OsAccountInfo) : Step Bool := do
  if isLive osAccountInfo then return true
  if !(← checkAndAddLocalIdOperating osAccountInfo.localId) then return true
  act osAccountInfo.localId (.expect (.asRead osAccountInfo))
  let errCode ← removeOsAccountOperate b osAccountInfo.localId osAccountInfo true
  removeLocalIdToOperating osAccountInfo.localId
  return errCode ≠ .ok ()

def anyStaysBound : List OsAccountInfo → Step Bool
  | [] => pure false
  | osAccountInfo :: osAccountInfos => do
      let bound ← staysBound b osAccountInfo
      let rest ← anyStaysBound osAccountInfos
      return bound || rest

def checkDomainAccountBound : Step (Ret × Bool) := do
  let answer ← ask .getOsAccountsByDomainInfo
  if answer.ret ≠ .ok () then return (answer.ret, false)
  let isBound ← anyStaysBound b answer.infos
  return (.ok (), isBound)

def firstToBind (isEnabled : Bool) : List OsAccountInfo → Option OsAccountInfo
  | [osAccountInfo] =>
      if isEnabled ∧ osAccountInfo.localId = startUserId ∧ osAccountInfo.domainInfo.domain.isEmpty then
        some osAccountInfo
      else none
  | _ => none

/-- The first account as it is bound. `SetDomainInfo` may refuse the domain account, which nobody notices. -/
def firstBound (c : Creation) (isSet : Bool) (osAccountInfo : OsAccountInfo) : OsAccountInfo :=
  { osAccountInfo with
    localName := c.osAccountInfo.domainInfo.accountName
    shortName := c.osAccountInfo.shortName
    domainInfo := if isSet then c.osAccountInfo.domainInfo else osAccountInfo.domainInfo }

/-- The first account is written back as it was read, with no marker set, and the callback does nothing more to it. -/
def bindFirstAccount (osAccountInfo : OsAccountInfo) : Step Ret := do
  enter osAccountInfo.localId
  act osAccountInfo.localId (.expect (.asRead osAccountInfo))
  let errCode ← updateOsAccount osAccountInfo
  leave osAccountInfo.localId
  if errCode ≠ .ok () then return errCode
  let errCode ← ret .onAccountBound
  if errCode ≠ .ok () then return errCode
  ret .bindResult

def isCreationConstrained : Step (Ret × Bool) :=
  if b.enableMultipleOsAccounts then do
    let answer ← ask .isOsAccountConstraintEnable
    return (answer.ret, answer.flag)
  else pure (.ok (), true)

def handleUnbindDomainAccountFailed (osAccountInfo : OsAccountInfo) : Step Unit := do
  let errCode ← ret .onAccountUnBound
  if errCode ≠ .ok () then return ()
  act osAccountInfo.localId (.expect .noUsers)
  let _ ← delOsAccount osAccountInfo.localId
  return ()

def onBindResult (osAccountInfo : OsAccountInfo) (errCode : Ret) : Step Ret := do
  if osAccountInfo.localId = startUserId then return errCode
  if errCode ≠ .ok () then
    let _ ← delOsAccount osAccountInfo.localId
    return errCode
  let errCode ← inCase b.supportAuthorization (ret .setOsAccountTypeInTee) (.ok ())
  if errCode ≠ .ok () then
    handleUnbindDomainAccountFailed osAccountInfo
    return errCode
  let errCode ← sendMsgForAccountCreate b osAccountInfo
  let _ ← inCase (errCode ≠ .ok ()) (handleUnbindDomainAccountFailed osAccountInfo) ()
  return errCode

/-- The marker is cleared as soon as the record is there. The account is made after that. -/
def bindNewAccount (c : Creation) : Step Ret := do
  let (errCode, osAccountInfo) ← prepareOsAccountInfo b
    { c with osAccountInfo := { c.osAccountInfo with localName := c.osAccountInfo.domainInfo.accountName } }
  if errCode ≠ .ok () then
    removeLocalIdToOperating osAccountInfo.localId
    return errCode
  clearMarker osAccountInfo.localId
  let errCode ← updateOsAccount osAccountInfo
  if errCode ≠ .ok () then
    leave osAccountInfo.localId
    return errCode
  let errCode ← ret .onAccountBound
  if errCode ≠ .ok () then
    leave osAccountInfo.localId
    return errCode
  let bindResult ← ret .bindResult
  let errCode ← onBindResult b osAccountInfo bindResult
  leave osAccountInfo.localId
  return errCode

def bindDomainAccount (c : Creation) : Step Ret := do
  let (errCode, isBound) ← checkDomainAccountBound b
  if errCode ≠ .ok () then return errCode
  if isBound then return .error .domainAlreadyBindError
  let (errCode, isEnabled) ← isCreationConstrained b
  if errCode ≠ .ok () then return .error .isOsAccountConstraintEnableError
  let answer ← ask .queryAllCreatedOsAccounts
  if answer.ret ≠ .ok () then return answer.ret
  match firstToBind isEnabled answer.infos with
  | some osAccountInfo => do
      let isSet ← flag .setDomainInfo
      bindFirstAccount (firstBound c isSet osAccountInfo)
  | none => if b.enableMultipleOsAccounts then bindNewAccount b c else pure (.error .notEnableMultiError)

def isOversize : Step Bool := do
  if ← flag .checkSaCall then return false
  flag .exceedsMaxOsAccountNum

/-- `CheckAndCreateDomainAccountCallback::OnResult`. What is bound is the domain account that the plug-in answers
with. -/
def onDomainAccountInfo (c : Creation) : Step Ret := do
  let answer ← ask .getDomainAccountInfo
  if answer.ret ≠ .ok () then return answer.ret
  let domainInfo := answer.info.domainInfo
  if domainInfo.accountName = "" ∨ domainInfo.domain = "" then return .error .jsAccountNotFound
  bindDomainAccount b { c with osAccountInfo := { c.osAccountInfo with domainInfo } }

def createOsAccountForDomain (c : Creation) : Step Ret := do
  if !(← flag .isCreationAllowed) then return .error .notAllowedCreationError
  let (errCode, isBound) ← checkDomainAccountBound b
  if errCode ≠ .ok () then return errCode
  if isBound then return .error .domainAlreadyBindError
  let errCode ← ret .queryAllCreatedOsAccounts
  if errCode ≠ .ok () then return errCode
  if ← isOversize then return .error .maxCanCreateError
  let errCode ← ret .isPluginAvailable
  if errCode ≠ .ok () then return errCode
  onDomainAccountInfo b c

def removeOsAccount (id : Int) : Step Ret := do
  if !(← checkAndAddLocalIdOperating id) then return .error .accountOperatingError
  let (errCode, osAccountInfo) ← getOsAccountInfoById id
  if errCode ≠ .ok () then
    removeLocalIdToOperating id
    return .error .accountNotExistError
  let errCode ← ret .sendToStorageAccountCreateComplete
  if errCode ≠ .ok () then
    removeLocalIdToOperating id
    return errCode
  let errCode ← updateOsAccount { osAccountInfo with toBeRemoved := true }
  if errCode ≠ .ok () then
    removeLocalIdToOperating id
    return errCode
  let errCode ← removeOsAccountOperate b id { osAccountInfo with toBeRemoved := true } false
  removeLocalIdToOperating id
  return errCode

/-- The list keeps the default account of the display. It is written only if that was the account. -/
def resetDefaultActivatedAccount : Step Ret := do
  if !(← flag .isDefaultActivated) then return .ok ()
  retWithAccountList .setDefaultActivatedOsAccount

def setOsAccountToBeRemoved (localId : Int) (toBeRemoved : Bool) : Step Ret := do
  if !(← checkAndAddLocalIdOperating localId) then return .error .accountOperatingError
  let (errCode, osAccountInfo) ← getOsAccountInfoById localId
  if errCode ≠ .ok () then
    removeLocalIdToOperating localId
    return .error .accountNotExistError
  let errCode ← inCase toBeRemoved resetDefaultActivatedAccount (.ok ())
  if errCode ≠ .ok () then
    removeLocalIdToOperating localId
    return errCode
  let _ ← inCase (!toBeRemoved) (act localId (.expect .users)) ()
  let errCode ← updateOsAccount { osAccountInfo with toBeRemoved }
  removeLocalIdToOperating localId
  return errCode

def sendMsgForAccountDeactivate (osAccountInfo : OsAccountInfo) (isStopStorage : Bool) : Step Ret := do
  let errCode ← ret .sendToAMSAccountDeactivate
  if errCode ≠ .ok () then return errCode
  let errCode ← inCase isStopStorage (ret .sendToStorageAccountStop) (.ok ())
  if errCode ≠ .ok () then return errCode
  deactivateOsAccountByInfo osAccountInfo

def deactivateOsAccount (id : Int) (isStopStorage : Bool) : Step Ret := do
  if !(← checkAndAddLocalIdOperating id) then return .error .accountOperatingError
  let (errCode, osAccountInfo) ← getOsAccountInfoById id
  if errCode ≠ .ok () then
    removeLocalIdToOperating id
    return .error .accountNotExistError
  if !(← flag .isActivedOrVerified) then
    removeLocalIdToOperating id
    return .ok ()
  let errCode ← ret .isValidOsAccount
  if errCode ≠ .ok () then
    removeLocalIdToOperating id
    return errCode
  let errCode ← sendMsgForAccountDeactivate osAccountInfo isStopStorage
  removeLocalIdToOperating id
  return errCode

def createBaseAdminAccount : Step Unit := do
  if ← flag .isOsAccountExists then return ()
  enter adminLocalId
  let _ ← insertOsAccount { localId := adminLocalId, isCreateCompleted := true, isActived := true }
  leave adminLocalId
  return ()

def retryToInsertOsAccount (osAccountInfo : OsAccountInfo) : Nat → Ret → Step Ret
  | 0, errCode => pure errCode
  | n + 1, _ => do
      let errCode ← insertOsAccount osAccountInfo
      if errCode = .ok () ∨ errCode = .error .insertFileExistsError then return .ok ()
      retryToInsertOsAccount osAccountInfo n errCode

def createBaseStandardAccount (id : Int) : Step Bool := do
  let errCode ← ret .getConstraintsByType
  if errCode ≠ .ok () then return false
  let osAccountInfo : OsAccountInfo := { localId := id, isDataRemovable := false }
  enter id
  act id (.expect (.asRead osAccountInfo))
  let errCode ← retryToInsertOsAccount osAccountInfo maxInsertRetryTimes (.ok ())
  let _ ← inCase (errCode ≠ .ok ()) (act id .keepData) ()
  let errCode ← sendMsgForAccountCreate b osAccountInfo
  leave id
  return errCode = .ok ()

def createFirstAccount : Nat → Step Bool
  | 0 => pure false
  | n + 1 => do
      if ← createBaseStandardAccount b startUserId then return true
      createFirstAccount n

end operations

inductive Op
  | createBaseAdminAccount
  | createBaseStandardAccount (id : Int)
  | createFirstAccount
  | createOsAccount (c : Creation)
  | createOsAccountWithOptions (c : Creation)
  | createOsAccountWithFullInfo (c : Creation)
  | createOsAccountForDomain (c : Creation)
  | removeOsAccount (id : Int)
  | cleanGarbageOsAccounts (excludeId : Int)
  | setOsAccountToBeRemoved (localId : Int) (toBeRemoved : Bool)
  | deactivateOsAccount (id : Int) (isStopStorage : Bool)

def program (b : Build) : Op → Step Unit
  | .createBaseAdminAccount => createBaseAdminAccount
  | .createBaseStandardAccount id => do let _ ← createBaseStandardAccount b id
  | .createFirstAccount => do let _ ← createFirstAccount b initRetryTimes
  | .createOsAccount c => do let _ ← createOsAccount b c
  | .createOsAccountWithOptions c => do let _ ← createOsAccountWithOptions b c
  | .createOsAccountWithFullInfo c => do let _ ← createOsAccountWithFullInfo b c
  | .createOsAccountForDomain c => do let _ ← createOsAccountForDomain b c
  | .removeOsAccount id => do let _ ← removeOsAccount b id
  | .cleanGarbageOsAccounts excludeId => do let _ ← cleanGarbageOsAccounts b excludeId
  | .setOsAccountToBeRemoved localId toBeRemoved => do let _ ← setOsAccountToBeRemoved localId toBeRemoved
  | .deactivateOsAccount id isStopStorage => do let _ ← deactivateOsAccount id isStopStorage

end OsAccount.AccountResources
