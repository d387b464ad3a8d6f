import OsAccount.OsAccountInfo
import OsAccount.MarkedProcesses

namespace OsAccount.OperatingMarker

open AccountList MarkedProcesses

def maxRetryTimes : Nat := 10

structure Build where
  supportAuthorization : Bool
  enableMultipleOsAccounts : Bool
  enableMultipleActiveAccounts : Bool
  enableMultiForegroundOsAccounts : Bool
  supportStopMainOsAccount : Bool
  hasUserIdmPart : Bool
  hasStoragePart : Bool

inductive Mutex
  | createOsAccountMutex
  | createOrBindDomainAccountMutex
deriving DecidableEq

inductive Call
  | isCreationAllowed
  | checkSaCall
  | getNonSACreatedOACount
  | getSerialNumber
  | getAllowCreateId
  | getConstraintsByType
  | setDomainInfo
  | isOsAccountExists
  | setNextLocalId
  | validateOsAccount
  | checkTypeNumber
  | insertOsAccount
  | updateBaseOAConstraints
  | updateOsAccount
  | getOsAccountIdList
  | getOsAccountInfoById
  | getRealOsAccountInfoById
  | getOsAccountsByDomainInfo
  | queryAllCreatedOsAccounts
  | isOsAccountConstraintEnable
  | delOsAccountType
  | setOsAccountTypeInTee
  | sendToIDMAccountDelete
  | sendToAMSAccountDeactivate
  | sendMsgForAccountStop
  | sendMsgForAccountRemove
  | removeOAConstraintsInfo
  | getStorageProxy
  | prepareAddUser
  | sendToBMSAccountCreate
  | checkHighestHapInstallForCreate
  | finalizeAccountCreate
  | prepareOsAccountInfoWithFullInfo
  | sendToStorageAccountCreateComplete
  | prepareActivateOsAccount
  | findForegroundAccount
  | sendToStorageAndAMSAccountStart
  | findLoggedInAccount
  | isValidOsAccount
  | sendMsgForAccountDeactivate
  | resetDefaultActivatedAccount
  | isPluginAvailable

structure Answer where
  ret : Ret
  flag : Bool
  id : Int
  ids : List Int
  info : OsAccountInfo
  infos : List OsAccountInfo

abbrev Step := Proc Int Mutex Call Answer

def checkAndAddLocalIdOperating (localId : Int) : Step Bool := .add localId pure

def removeLocalIdToOperating (localId : Int) : Step Unit := .remove localId (pure ())

def asks {α : Type} (c : Call) (f : Answer → α) : Step α := .ask c fun a => pure (f a)

abbrev ret (c : Call) : Step Ret := asks c Answer.ret

abbrev flag (c : Call) : Step Bool := asks c Answer.flag

abbrev info (c : Call) : Step (Ret × OsAccountInfo) := asks c fun a => (a.ret, a.info)

abbrev infos (c : Call) : Step (Ret × List OsAccountInfo) := asks c fun a => (a.ret, a.infos)

def withLock {α : Type} (m : Mutex) (p : Step α) : Step α :=
  .lock m do
    let a ← p
    .unlock m (pure a)

def deactivateOsAccount (id : Int) : Step Ret := do
  if !(← checkAndAddLocalIdOperating id) then return .error .accountOperatingError
  let (errCode, osAccountInfo) ← info .getRealOsAccountInfoById
  if errCode ≠ .ok () then
    removeLocalIdToOperating id
    return .error .accountNotExistError
  if !osAccountInfo.isActived && !osAccountInfo.isVerified then
    removeLocalIdToOperating id
    return .ok ()
  let errCode ← ret .isValidOsAccount
  if errCode ≠ .ok () then
    removeLocalIdToOperating id
    return errCode
  let errCode ← ret .sendMsgForAccountDeactivate
  if errCode ≠ .ok () then
    removeLocalIdToOperating id
    return errCode
  removeLocalIdToOperating id
  return .ok ()

variable (b : Build)

def updateAccountToBackground (oldId : Int) : Step Ret := do
  let (errCode, oldOsAccountInfo) ← info .getOsAccountInfoById
  if errCode ≠ .ok () then return .ok ()
  if b.enableMultipleActiveAccounts then
    if !b.supportStopMainOsAccount && oldId = startUserId then return .ok ()
    let isLoggedIn ← flag .findLoggedInAccount
    if oldOsAccountInfo.type ≠ .privateType && !isLoggedIn then
      let _ ← deactivateOsAccount oldId
      return .ok ()
  return .ok ()

def sendMsgForAccountActivate (localId : Int) : Step Ret := do
  let (oldIdExist, oldId) ← asks .findForegroundAccount fun a => (a.flag, a.id)
  let errCode ← ret .sendToStorageAndAMSAccountStart
  if errCode ≠ .ok () then return errCode
  if oldIdExist && oldId ≠ localId then
    let errCode ← updateAccountToBackground b oldId
    return errCode
  return errCode

def activateOsAccount (id : Int) : Step Ret := do
  if !(← checkAndAddLocalIdOperating id) then return .error .accountOperatingError
  let errCode ← ret .prepareActivateOsAccount
  if errCode ≠ .ok () then
    removeLocalIdToOperating id
    return if errCode = .error .accountAlreadyActiveError then .ok () else errCode
  let errCode ← sendMsgForAccountActivate b id
  removeLocalIdToOperating id
  return errCode

def resetForegroundBeforeRemove (osAccountInfo : OsAccountInfo) : Step Ret := do
  if osAccountInfo.isForeground then
    if b.enableMultiForegroundOsAccounts then
      let errCode ← ret .sendToAMSAccountDeactivate
      return errCode
    else
      let errCode ← activateOsAccount b startUserId
      if errCode ≠ .ok () then return .error .removeAccountActivedError
  return .ok ()

def prepareRemoveOsAccount (osAccountInfo : OsAccountInfo) (isCleanGarbage : Bool) : Step Ret := do
  if b.hasUserIdmPart then
    let errCode ← ret .sendToIDMAccountDelete
    if errCode ≠ .ok () then return errCode
  if isCleanGarbage then return .ok ()
  let errCode ← resetForegroundBeforeRemove b osAccountInfo
  if errCode ≠ .ok () then return errCode
  ret .sendMsgForAccountStop

def removeOsAccountOperate (osAccountInfo : OsAccountInfo) (isCleanGarbage : Bool) : Step Ret := do
  if isCleanGarbage && !osAccountInfo.isCreateCompleted && !osAccountInfo.isDataRemovable then return .ok ()
  if b.supportAuthorization then
    let res ← ret .delOsAccountType
    if res ≠ .ok () then return res
  let errCode ← prepareRemoveOsAccount b osAccountInfo isCleanGarbage
  if errCode ≠ .ok () then return errCode
  let errCode ← ret .sendMsgForAccountRemove
  if errCode ≠ .ok () then return errCode
  ret .removeOAConstraintsInfo

/-- One turn of the loop of `CleanGarbageOsAccounts`, with what it adds to the count. -/
def cleanGarbageOsAccount (excludeId id : Int) : Step Nat := do
  if id = startUserId ∨ id = adminLocalId ∨ id = u1Id ∨ id = excludeId then return 0
  if !(← checkAndAddLocalIdOperating id) then return 0
  let (errCode, osAccountInfo) ← info .getRealOsAccountInfoById
  if errCode ≠ .ok () ∧ errCode ≠ .error .accountNotExistError then
    removeLocalIdToOperating id
    return 0
  if !osAccountInfo.toBeRemoved && osAccountInfo.isCreateCompleted then
    removeLocalIdToOperating id
    return 0
  let errCode ← removeOsAccountOperate b { osAccountInfo with localId := id } true
  removeLocalIdToOperating id
  return if errCode = .ok () then 1 else 0

def cleanGarbageOsAccountsIn (excludeId : Int) : List Int → Step Nat
  | [] => pure 0
  | id :: idList => do
      let n ← cleanGarbageOsAccount b excludeId id
      let m ← cleanGarbageOsAccountsIn excludeId idList
      return n + m

def cleanGarbageOsAccounts (excludeId : Int) : Step Nat := do
  let (errCode, idList) ← asks .getOsAccountIdList fun a => (a.ret, a.ids)
  if errCode ≠ .ok () then return 0
  cleanGarbageOsAccountsIn b excludeId idList

def checkAndCleanOsAccounts : Step Bool := do
  if ← flag .getNonSACreatedOACount then return true
  let n ← cleanGarbageOsAccounts b (-1)
  return 0 < n

def assignSpecifiedLocalId (specifiedId : Int) : Step Ret := do
  if specifiedId < startUserId ∨ specifiedId > maxCreatableUserId then return .error .invalidParameter
  let (errCode, osAccountInfo) ← info .getRealOsAccountInfoById
  if errCode ≠ .ok () ∧ errCode ≠ .error .accountNotExistError then return errCode
  if errCode = .ok () ∧ !osAccountInfo.toBeRemoved ∧ osAccountInfo.isCreateCompleted then
    return .error .localIdAlreadyExistsError
  let _ ← cleanGarbageOsAccounts b (-1)
  let (errCode, isExists) ← asks .isOsAccountExists fun a => (a.ret, a.flag)
  if errCode ≠ .ok () then return errCode
  if isExists then return .error .localIdAlreadyExistsError
  ret .setNextLocalId

/-- What the creations are asked for: with the record of the caller, and the id
that the options ask for. -/
structure Creation where
  osAccountInfo : OsAccountInfo
  type : OsAccountType
  specifiedId : Option Int
  hasToken : Bool
  isEdmCalling : Bool

def newLocalId (c : Creation) : Step (Ret × Int) :=
  if c.type = .maintenance then pure (.ok (), maintenanceModeId)
  else match c.specifiedId with
    | some specifiedId => do
        let errCode ← assignSpecifiedLocalId b specifiedId
        return (errCode, specifiedId)
    | none => asks .getAllowCreateId fun a => (a.ret, a.id)

/-- The result comes with the id that the record holds afterwards: the caller's
one as long as no id was found. -/
def fillOsAccountInfo (c : Creation) : Step (Ret × Int) := do
  let errCode ← ret .getSerialNumber
  if errCode ≠ .ok () then return (errCode, c.osAccountInfo.localId)
  let (errCode, id) ← newLocalId b c
  if errCode ≠ .ok () then return (errCode, c.osAccountInfo.localId)
  let errCode ← ret .getConstraintsByType
  if errCode ≠ .ok () then return (errCode, c.osAccountInfo.localId)
  let errCode ← ret .setDomainInfo
  return (errCode, id)

def prepareOsAccountInfo (c : Creation) : Step (Ret × Int) := do
  let (errCode, localId) ← fillOsAccountInfo b c
  if errCode ≠ .ok () then return (errCode, localId)
  let errCode ← ret .validateOsAccount
  if errCode ≠ .ok () then return (errCode, localId)
  let errCode ← ret .checkTypeNumber
  if errCode = .error .maxTypeCanCreateError then return (.error .maxCanCreateError, localId)
  if errCode ≠ .ok () then return (errCode, localId)
  if !(← checkAndAddLocalIdOperating localId) then return (.error .accountOperatingError, localId)
  let errCode ← ret .insertOsAccount
  if errCode ≠ .ok () then return (errCode, localId)
  let errCode ← ret .updateBaseOAConstraints
  return (errCode, localId)

def innerSendToStorageAccountCreate (localId : Int) : Step Ret := do
  if !b.hasStoragePart then return .ok ()
  let errCode ← ret .getStorageProxy
  if errCode ≠ .ok () then return errCode
  let err ← ret .prepareAddUser
  if err = .ok () then return .ok ()
  let n ← cleanGarbageOsAccounts b localId
  if n = 0 then return err
  ret .prepareAddUser

def sendToStorageAccountCreate (localId : Int) : Nat → Ret → Step Ret
  | 0, errCode => pure errCode
  | n + 1, _ => do
      let errCode ← innerSendToStorageAccountCreate b localId
      if errCode ≠ .error .ipcError ∧ errCode ≠ .error .ipcSaDied then return errCode
      sendToStorageAccountCreate localId n errCode

def sendMsgForAccountCreate (localId : Int) : Step Ret := do
  let errCode ← sendToStorageAccountCreate b localId maxRetryTimes (.ok ())
  if errCode ≠ .ok () then return .error .getSystemAbilityManager
  let errCode ← ret .sendToBMSAccountCreate
  if errCode ≠ .ok () then return errCode
  let errCode ← ret .checkHighestHapInstallForCreate
  if errCode ≠ .ok () then return errCode
  ret .finalizeAccountCreate

def insertOsAccountTypeToTee : Step Ret := do
  let errCode ← ret .setOsAccountTypeInTee
  if errCode = .error .teeReachLimit then
    let n ← cleanGarbageOsAccounts b (-1)
    if 0 < n then
      let errCode ← ret .setOsAccountTypeInTee
      return errCode
    else return errCode
  return errCode

def handleCreateOsAccountToken (c : Creation) (localId : Int) : Step Ret := do
  if c.hasToken then
    let errCode ← insertOsAccountTypeToTee b
    if errCode ≠ .ok () then
      removeLocalIdToOperating localId
      return errCode
    return .ok ()
  else if c.isEdmCalling then return .ok ()
  else
    removeLocalIdToOperating localId
    return .error .privilegeDenied

/-- What the two overloads share. `rest` comes after the preparation. -/
def createOsAccountOverload (c : Creation) (rest : Int → Step Ret) : Step Ret := do
  if !(← flag .isCreationAllowed) then return .error .notAllowedCreationError
  withLock .createOsAccountMutex do
    if !(← flag .checkSaCall) then
      if !(← checkAndCleanOsAccounts b) then return .error .maxCanCreateError
    let (errCode, localId) ← prepareOsAccountInfo b c
    if errCode ≠ .ok () then
      removeLocalIdToOperating localId
      return errCode
    rest localId

def createOsAccount (c : Creation) : Step Ret :=
  createOsAccountOverload b c fun localId => do
    let errCode ← sendMsgForAccountCreate b localId
    removeLocalIdToOperating localId
    return errCode

def createOsAccountWithOptions (c : Creation) : Step Ret :=
  createOsAccountOverload b c fun localId => do
    if b.supportAuthorization then
      let errCode ← handleCreateOsAccountToken b c localId
      if errCode ≠ .ok () then return errCode
    let errCode ← sendMsgForAccountCreate b localId
    removeLocalIdToOperating localId
    return errCode

def createOsAccountWithFullInfo (c : Creation) : Step Ret := do
  if !(← flag .isCreationAllowed) then return .error .notAllowedCreationError
  withLock .createOsAccountMutex do
    if !(← checkAndAddLocalIdOperating c.osAccountInfo.localId) then return .error .accountOperatingError
    let (errCode, oldInfo) ← info .getOsAccountInfoById
    if errCode ≠ .ok () ∧ errCode ≠ .error .accountNotExistError then
      removeLocalIdToOperating c.osAccountInfo.localId
      return errCode
    if errCode = .ok () ∧ oldInfo.isCreateCompleted then
      if oldInfo.toBeRemoved then
        -- the record of the caller is handed over, not the one that was found
        let errCode ← removeOsAccountOperate b c.osAccountInfo false
        if errCode ≠ .ok () then
          removeLocalIdToOperating c.osAccountInfo.localId
          return errCode
      else
        removeLocalIdToOperating c.osAccountInfo.localId
        return .error .accountAlreadyExistError
    let errCode ← ret .prepareOsAccountInfoWithFullInfo
    if errCode ≠ .ok () then
      removeLocalIdToOperating c.osAccountInfo.localId
      return errCode
    if b.supportAuthorization && c.hasToken then
      let errCode ← insertOsAccountTypeToTee b
      if errCode ≠ .ok () then
        removeLocalIdToOperating c.osAccountInfo.localId
        return errCode
    let errCode ← sendMsgForAccountCreate b c.osAccountInfo.localId
    removeLocalIdToOperating c.osAccountInfo.localId
    return errCode

/-- One turn of `CheckDomainAccountBound`: does the account keep the domain account bound. -/
def staysBound (osAccountInfo : OsAccountInfo) : Step Bool := do
  if osAccountInfo.isCreateCompleted && !osAccountInfo.toBeRemoved then return true
  if !(← checkAndAddLocalIdOperating osAccountInfo.localId) then return true
  let errCode ← removeOsAccountOperate b osAccountInfo true
  removeLocalIdToOperating osAccountInfo.localId
  return errCode ≠ .ok ()

def anyStaysBound : List OsAccountInfo → Step Bool
  | [] => pure false
  | osAccountInfo :: osAccountInfos => do
      let bound ← staysBound b osAccountInfo
      let rest ← anyStaysBound osAccountInfos
      return bound || rest

def checkDomainAccountBound : Step (Ret × Bool) := do
  let (result, osAccountInfos) ← infos .getOsAccountsByDomainInfo
  if result ≠ .ok () then return (result, false)
  let isBound ← anyStaysBound b osAccountInfos
  return (.ok (), isBound)

def isCreationConstrained : Step (Ret × Bool) :=
  if b.enableMultipleOsAccounts then asks .isOsAccountConstraintEnable fun a => (a.ret, a.flag)
  else pure (.ok (), true)

/-- The id of the record that is bound: a single first account without a domain
replaces the record of the caller. -/
def boundLocalId (c : Creation) (isEnabled : Bool) : List OsAccountInfo → Int
  | [osAccountInfo] =>
      if isEnabled ∧ osAccountInfo.localId = startUserId ∧ osAccountInfo.domainInfo.domain.isEmpty then startUserId
      else c.osAccountInfo.localId
  | _ => c.osAccountInfo.localId

def bindDomainAccount (c : Creation) : Step Ret :=
  withLock .createOrBindDomainAccountMutex do
    let (errCode, isBound) ← checkDomainAccountBound b
    if errCode ≠ .ok () then return errCode
    if isBound then return .error .domainAlreadyBindError
    let (errCode, isEnabled) ← isCreationConstrained b
    if errCode ≠ .ok () then return .error .isOsAccountConstraintEnableError
    let (errCode, osAccountInfos) ← infos .queryAllCreatedOsAccounts
    if errCode ≠ .ok () then return errCode
    if boundLocalId c isEnabled osAccountInfos ≠ startUserId then
      if b.enableMultipleOsAccounts then
        let (errCode, localId) ← prepareOsAccountInfo b c
        removeLocalIdToOperating localId
        if errCode ≠ .ok () then return errCode
      else return .error .notEnableMultiError
    ret .updateOsAccount

/-- The part up to the plug-in, which calls back with `BindDomainAccount`. -/
def createOsAccountForDomain : Step Ret :=
  withLock .createOrBindDomainAccountMutex do
    if !(← flag .isCreationAllowed) then return .error .notAllowedCreationError
    withLock .createOsAccountMutex do
      let (errCode, isBound) ← checkDomainAccountBound b
      if errCode ≠ .ok () then return errCode
      if isBound then return .error .domainAlreadyBindError
      let (errCode, _) ← infos .queryAllCreatedOsAccounts
      if errCode ≠ .ok () then return errCode
      ret .isPluginAvailable

def removeOsAccount (id : Int) : Step Ret := do
  if !(← checkAndAddLocalIdOperating id) then return .error .accountOperatingError
  let (errCode, osAccountInfo) ← info .getRealOsAccountInfoById
  if errCode ≠ .ok () then
    removeLocalIdToOperating id
    return .error .accountNotExistError
  let errCode ← ret .sendToStorageAccountCreateComplete
  if errCode ≠ .ok () then
    removeLocalIdToOperating id
    return errCode
  let osAccountInfo := { osAccountInfo with toBeRemoved := true }
  let errCode ← ret .updateOsAccount
  if errCode ≠ .ok () then
    removeLocalIdToOperating id
    return errCode
  let errCode ← removeOsAccountOperate b osAccountInfo false
  removeLocalIdToOperating id
  return errCode

def setOsAccountTypeInTEE : Step Ret :=
  if b.supportAuthorization then ret .setOsAccountTypeInTee else pure (.ok ())

def setOsAccountType (id : Int) : Step Ret :=
  withLock .createOsAccountMutex do
    let errCode ← ret .getOsAccountInfoById
    if errCode ≠ .ok () then return errCode
    let errCode ← ret .checkTypeNumber
    if errCode ≠ .ok () then return errCode
    if !(← checkAndAddLocalIdOperating id) then return .error .accountOperatingError
    let errCode ← setOsAccountTypeInTEE b
    if errCode ≠ .ok () then
      removeLocalIdToOperating id
      return errCode
    let errCode ← ret .updateOsAccount
    if errCode ≠ .ok () ∧ !b.supportAuthorization then
      removeLocalIdToOperating id
      return errCode
    removeLocalIdToOperating id
    return .ok ()

def setOsAccountToBeRemoved (localId : Int) (toBeRemoved : Bool) : Step Ret := do
  if !(← checkAndAddLocalIdOperating localId) then return .error .accountOperatingError
  let errCode ← ret .getOsAccountInfoById
  if errCode ≠ .ok () then
    removeLocalIdToOperating localId
    return .error .accountNotExistError
  if toBeRemoved then
    let errCode ← ret .resetDefaultActivatedAccount
    if errCode ≠ .ok () then
      removeLocalIdToOperating localId
      return errCode
  let errCode ← ret .updateOsAccount
  removeLocalIdToOperating localId
  return errCode

def updateOsAccountWithFullInfo (localId : Int) : Step Ret := do
  if !(← checkAndAddLocalIdOperating localId) then return .error .accountOperatingError
  let errCode ← ret .getOsAccountInfoById
  if errCode ≠ .ok () then
    removeLocalIdToOperating localId
    return errCode
  let errCode ← ret .updateOsAccount
  removeLocalIdToOperating localId
  return errCode

def updateAccountInfoByDomainAccountInfo (userId : Int) : Step Ret := do
  if !(← checkAndAddLocalIdOperating userId) then return .error .accountOperatingError
  let result ← ret .getOsAccountInfoById
  if result ≠ .ok () then
    removeLocalIdToOperating userId
    return result
  let result ← ret .updateOsAccount
  if result ≠ .ok () then
    removeLocalIdToOperating userId
    return result
  removeLocalIdToOperating userId
  return .ok ()

inductive Op
  | createOsAccount (c : Creation)
  | createOsAccountWithOptions (c : Creation)
  | createOsAccountWithFullInfo (c : Creation)
  | bindDomainAccount (c : Creation)
  | createOsAccountForDomain
  | removeOsAccount (id : Int)
  | cleanGarbageOsAccounts (excludeId : Int)
  | setOsAccountType (id : Int)
  | setOsAccountToBeRemoved (localId : Int) (toBeRemoved : Bool)
  | updateOsAccountWithFullInfo (localId : Int)
  | updateAccountInfoByDomainAccountInfo (userId : Int)
  | activateOsAccount (id : Int)
  | deactivateOsAccount (id : Int)

def program : Op → Step Unit
  | .createOsAccount c => do let _ ← createOsAccount b c
  | .createOsAccountWithOptions c => do let _ ← createOsAccountWithOptions b c
  | .createOsAccountWithFullInfo c => do let _ ← createOsAccountWithFullInfo b c
  | .bindDomainAccount c => do let _ ← bindDomainAccount b c
  | .createOsAccountForDomain => do let _ ← createOsAccountForDomain b
  | .removeOsAccount id => do let _ ← removeOsAccount b id
  | .cleanGarbageOsAccounts excludeId => do let _ ← cleanGarbageOsAccounts b excludeId
  | .setOsAccountType id => do let _ ← setOsAccountType b id
  | .setOsAccountToBeRemoved localId toBeRemoved => do let _ ← setOsAccountToBeRemoved localId toBeRemoved
  | .updateOsAccountWithFullInfo localId => do let _ ← updateOsAccountWithFullInfo localId
  | .updateAccountInfoByDomainAccountInfo userId => do let _ ← updateAccountInfoByDomainAccountInfo userId
  | .activateOsAccount id => do let _ ← activateOsAccount b id
  | .deactivateOsAccount id => do let _ ← deactivateOsAccount id

/-- The operations that clear the marker after `PrepareOsAccountInfo`, also when
it did not set it. -/
def clearsUnset : Op → Bool
  | .createOsAccount _ | .createOsAccountWithOptions _ | .bindDomainAccount _ => true
  | _ => false

section balance

open Proc

variable {strict : Bool} {id : Int} {α : Type}

theorem balanced_asks (c : Call) (f : Answer → α) : IsBalanced strict (asks c f) :=
  IsBalanced.ask c fun a => IsBalanced.pure (f a)

theorem releases_exit (id : Int) (a : α) : Releases strict id (do removeLocalIdToOperating id; return a) :=
  Releases.remove id (IsBalanced.pure a)

theorem balanced_operating (id : Int) {p q : Step α} (hq : IsBalanced strict q) (hp : Releases strict id p) :
    IsBalanced strict (do if !(← checkAndAddLocalIdOperating id) then q else p) :=
  IsBalanced.add id hp hq

theorem balanced_withLock (m : Mutex) {p : Step α} (hp : IsBalanced strict p) : IsBalanced strict (withLock m p) := by
  intro held
  exact Ends.bind ((hp held).mono fun _ _ h => h)

theorem balanced_deactivateOsAccount (id : Int) : IsBalanced strict (deactivateOsAccount id) := by
  refine balanced_operating id (IsBalanced.pure _) ?_
  refine Releases.bind (balanced_asks _ _) ?_
  rintro ⟨errCode, osAccountInfo⟩
  refine Releases.ite (releases_exit id _) ?_
  refine Releases.ite (releases_exit id _) ?_
  refine Releases.bind (balanced_asks _ _) fun errCode => ?_
  refine Releases.ite (releases_exit id _) ?_
  refine Releases.bind (balanced_asks _ _) fun errCode => ?_
  exact Releases.ite (releases_exit id _) (releases_exit id _)

theorem balanced_updateAccountToBackground (oldId : Int) : IsBalanced strict (updateAccountToBackground b oldId) := by
  refine IsBalanced.bind (balanced_asks _ _) ?_
  rintro ⟨errCode, oldOsAccountInfo⟩
  refine IsBalanced.ite (IsBalanced.pure _) (IsBalanced.ite ?_ (IsBalanced.pure _))
  refine IsBalanced.ite (IsBalanced.pure _) ?_
  refine IsBalanced.bind (balanced_asks _ _) fun isLoggedIn => ?_
  refine IsBalanced.ite ?_ (IsBalanced.pure _)
  exact IsBalanced.bind (balanced_deactivateOsAccount oldId) fun _ => IsBalanced.pure _

variable (localId : Int)

theorem balanced_sendMsgForAccountActivate : IsBalanced strict (sendMsgForAccountActivate b localId) := by
  refine IsBalanced.bind (balanced_asks _ _) ?_
  rintro ⟨oldIdExist, oldId⟩
  refine IsBalanced.bind (balanced_asks _ _) fun errCode => ?_
  refine IsBalanced.ite (IsBalanced.pure _) (IsBalanced.ite ?_ (IsBalanced.pure _))
  exact balanced_updateAccountToBackground b oldId

theorem balanced_activateOsAccount (id : Int) : IsBalanced strict (activateOsAccount b id) := by
  refine balanced_operating id (IsBalanced.pure _) ?_
  refine Releases.bind (balanced_asks _ _) fun errCode => ?_
  refine Releases.ite (releases_exit id _) ?_
  exact Releases.bind (balanced_sendMsgForAccountActivate b id) fun errCode => releases_exit id _

variable (osAccountInfo : OsAccountInfo)

theorem balanced_resetForegroundBeforeRemove :
    IsBalanced strict (resetForegroundBeforeRemove b osAccountInfo) := by
  refine IsBalanced.ite (IsBalanced.ite ?_ ?_) (IsBalanced.pure _)
  · exact IsBalanced.bind (balanced_asks _ _) fun errCode => IsBalanced.pure _
  · refine IsBalanced.bind (balanced_activateOsAccount b startUserId) fun errCode => ?_
    exact IsBalanced.ite (IsBalanced.pure _) (IsBalanced.pure _)

theorem balanced_prepareRemoveOsAccount (isCleanGarbage : Bool) :
    IsBalanced strict (prepareRemoveOsAccount b osAccountInfo isCleanGarbage) := by
  have hrest : IsBalanced strict (do
      if isCleanGarbage then return .ok ()
      let errCode ← resetForegroundBeforeRemove b osAccountInfo
      if errCode ≠ .ok () then return errCode
      ret .sendMsgForAccountStop) := by
    refine IsBalanced.ite (IsBalanced.pure _) ?_
    refine IsBalanced.bind (balanced_resetForegroundBeforeRemove b osAccountInfo) fun errCode => ?_
    exact IsBalanced.ite (IsBalanced.pure _) (balanced_asks _ _)
  refine IsBalanced.ite ?_ hrest
  exact IsBalanced.bind (balanced_asks _ _) fun errCode => IsBalanced.ite (IsBalanced.pure _) hrest

theorem balanced_removeOsAccountOperate (isCleanGarbage : Bool) :
    IsBalanced strict (removeOsAccountOperate b osAccountInfo isCleanGarbage) := by
  have hrest : IsBalanced strict (do
      let errCode ← prepareRemoveOsAccount b osAccountInfo isCleanGarbage
      if errCode ≠ .ok () then return errCode
      let errCode ← ret .sendMsgForAccountRemove
      if errCode ≠ .ok () then return errCode
      ret .removeOAConstraintsInfo) := by
    refine IsBalanced.bind (balanced_prepareRemoveOsAccount b osAccountInfo isCleanGarbage) fun errCode => ?_
    refine IsBalanced.ite (IsBalanced.pure _) ?_
    exact IsBalanced.bind (balanced_asks _ _) fun errCode => IsBalanced.ite (IsBalanced.pure _)
      (balanced_asks _ _)
  refine IsBalanced.ite (IsBalanced.pure _) (IsBalanced.ite ?_ hrest)
  exact IsBalanced.bind (balanced_asks _ _) fun res => IsBalanced.ite (IsBalanced.pure _) hrest

theorem balanced_cleanGarbageOsAccount (excludeId id : Int) :
    IsBalanced strict (cleanGarbageOsAccount b excludeId id) := by
  refine IsBalanced.ite (IsBalanced.pure _) (balanced_operating id (IsBalanced.pure _) ?_)
  refine Releases.bind (balanced_asks _ _) ?_
  rintro ⟨errCode, osAccountInfo⟩
  refine Releases.ite (releases_exit id _) (Releases.ite (releases_exit id _) ?_)
  exact Releases.bind (balanced_removeOsAccountOperate b _ true) fun errCode => releases_exit id _

theorem balanced_cleanGarbageOsAccountsIn (excludeId : Int) (idList : List Int) :
    IsBalanced strict (cleanGarbageOsAccountsIn b excludeId idList) := by
  induction idList with
  | nil => exact IsBalanced.pure 0
  | cons id idList ih =>
      refine IsBalanced.bind (balanced_cleanGarbageOsAccount b excludeId id) fun n => ?_
      exact IsBalanced.bind ih fun m => IsBalanced.pure _

theorem balanced_cleanGarbageOsAccounts (excludeId : Int) : IsBalanced strict (cleanGarbageOsAccounts b excludeId) := by
  refine IsBalanced.bind (balanced_asks _ _) ?_
  rintro ⟨errCode, idList⟩
  exact IsBalanced.ite (IsBalanced.pure _) (balanced_cleanGarbageOsAccountsIn b excludeId idList)

theorem balanced_checkAndCleanOsAccounts : IsBalanced strict (checkAndCleanOsAccounts b) := by
  refine IsBalanced.bind (balanced_asks _ _) fun below => ?_
  refine IsBalanced.ite (IsBalanced.pure _) ?_
  exact IsBalanced.bind (balanced_cleanGarbageOsAccounts b _) fun n => IsBalanced.pure _

theorem balanced_assignSpecifiedLocalId (specifiedId : Int) :
    IsBalanced strict (assignSpecifiedLocalId b specifiedId) := by
  refine IsBalanced.ite (IsBalanced.pure _) (IsBalanced.bind (balanced_asks _ _) ?_)
  rintro ⟨errCode, osAccountInfo⟩
  refine IsBalanced.ite (IsBalanced.pure _) (IsBalanced.ite (IsBalanced.pure _) ?_)
  refine IsBalanced.bind (balanced_cleanGarbageOsAccounts b _) fun _ => IsBalanced.bind (balanced_asks _ _) ?_
  rintro ⟨errCode, isExists⟩
  exact IsBalanced.ite (IsBalanced.pure _) (IsBalanced.ite (IsBalanced.pure _) (balanced_asks _ _))

variable (c : Creation)

theorem balanced_newLocalId : IsBalanced strict (newLocalId b c) := by
  refine IsBalanced.ite (IsBalanced.pure _) ?_
  cases c.specifiedId with
  | some specifiedId =>
      exact IsBalanced.bind (balanced_assignSpecifiedLocalId b specifiedId) fun errCode => IsBalanced.pure _
  | none => exact balanced_asks _ _

theorem balanced_fillOsAccountInfo : IsBalanced strict (fillOsAccountInfo b c) := by
  refine IsBalanced.bind (balanced_asks _ _) fun errCode => IsBalanced.ite (IsBalanced.pure _) ?_
  refine IsBalanced.bind (balanced_newLocalId b c) ?_
  rintro ⟨errCode, id⟩
  refine IsBalanced.ite (IsBalanced.pure _) (IsBalanced.bind (balanced_asks _ _) fun errCode => ?_)
  refine IsBalanced.ite (IsBalanced.pure _) ?_
  exact IsBalanced.bind (balanced_asks _ _) fun errCode => IsBalanced.pure _

theorem balanced_innerSendToStorageAccountCreate :
    IsBalanced strict (innerSendToStorageAccountCreate b localId) := by
  refine IsBalanced.ite (IsBalanced.pure _) (IsBalanced.bind (balanced_asks _ _) fun errCode => ?_)
  refine IsBalanced.ite (IsBalanced.pure _) (IsBalanced.bind (balanced_asks _ _) fun err => ?_)
  refine IsBalanced.ite (IsBalanced.pure _)
    (IsBalanced.bind (balanced_cleanGarbageOsAccounts b localId) fun n => ?_)
  exact IsBalanced.ite (IsBalanced.pure _) (balanced_asks _ _)

theorem balanced_sendToStorageAccountCreate (n : Nat) (errCode : Ret) :
    IsBalanced strict (sendToStorageAccountCreate b localId n errCode) := by
  induction n generalizing errCode with
  | zero => exact IsBalanced.pure errCode
  | succ n ih =>
      refine IsBalanced.bind (balanced_innerSendToStorageAccountCreate b localId) fun errCode => ?_
      exact IsBalanced.ite (IsBalanced.pure _) (ih errCode)

theorem balanced_sendMsgForAccountCreate : IsBalanced strict (sendMsgForAccountCreate b localId) := by
  refine IsBalanced.bind (balanced_sendToStorageAccountCreate b localId _ _) fun errCode => ?_
  refine IsBalanced.ite (IsBalanced.pure _) (IsBalanced.bind (balanced_asks _ _) fun errCode => ?_)
  refine IsBalanced.ite (IsBalanced.pure _) (IsBalanced.bind (balanced_asks _ _) fun errCode => ?_)
  exact IsBalanced.ite (IsBalanced.pure _) (balanced_asks _ _)

theorem balanced_insertOsAccountTypeToTee : IsBalanced strict (insertOsAccountTypeToTee b) := by
  refine IsBalanced.bind (balanced_asks _ _) fun errCode => IsBalanced.ite ?_ (IsBalanced.pure _)
  refine IsBalanced.bind (balanced_cleanGarbageOsAccounts b _) fun n => IsBalanced.ite ?_ (IsBalanced.pure _)
  exact IsBalanced.bind (balanced_asks _ _) fun errCode => IsBalanced.pure _

theorem balanced_createOsAccountWithFullInfo : IsBalanced strict (createOsAccountWithFullInfo b c) := by
  refine IsBalanced.bind (balanced_asks _ _) fun allowed => IsBalanced.ite (IsBalanced.pure _) ?_
  refine balanced_withLock _ (balanced_operating _ (IsBalanced.pure _) ?_)
  refine Releases.bind (balanced_asks _ _) ?_
  rintro ⟨errCode, oldInfo⟩
  have hsend : Releases strict c.osAccountInfo.localId (do
      let errCode ← sendMsgForAccountCreate b c.osAccountInfo.localId
      removeLocalIdToOperating c.osAccountInfo.localId
      return errCode) :=
    Releases.bind (balanced_sendMsgForAccountCreate b _) fun errCode => releases_exit _ _
  have hprepared : Releases strict c.osAccountInfo.localId (do
      let errCode ← ret .prepareOsAccountInfoWithFullInfo
      if errCode ≠ .ok () then
        removeLocalIdToOperating c.osAccountInfo.localId
        return errCode
      if b.supportAuthorization && c.hasToken then
        let errCode ← insertOsAccountTypeToTee b
        if errCode ≠ .ok () then
          removeLocalIdToOperating c.osAccountInfo.localId
          return errCode
      let errCode ← sendMsgForAccountCreate b c.osAccountInfo.localId
      removeLocalIdToOperating c.osAccountInfo.localId
      return errCode) := by
    refine Releases.bind (balanced_asks _ _) fun errCode => Releases.ite (releases_exit _ _) ?_
    refine Releases.ite ?_ hsend
    refine Releases.bind (balanced_insertOsAccountTypeToTee b) fun errCode => ?_
    exact Releases.ite (releases_exit _ _) hsend
  refine Releases.ite (releases_exit _ _) (Releases.ite (Releases.ite ?_ (releases_exit _ _)) hprepared)
  refine Releases.bind (balanced_removeOsAccountOperate b _ _) fun errCode => ?_
  exact Releases.ite (releases_exit _ _) hprepared

theorem balanced_staysBound : IsBalanced strict (staysBound b osAccountInfo) := by
  refine IsBalanced.ite (IsBalanced.pure _) (balanced_operating _ (IsBalanced.pure _) ?_)
  exact Releases.bind (balanced_removeOsAccountOperate b _ _) fun errCode => releases_exit _ _

theorem balanced_anyStaysBound (osAccountInfos : List OsAccountInfo) :
    IsBalanced strict (anyStaysBound b osAccountInfos) := by
  induction osAccountInfos with
  | nil => exact IsBalanced.pure false
  | cons osAccountInfo osAccountInfos ih =>
      refine IsBalanced.bind (balanced_staysBound b osAccountInfo) fun bound => ?_
      exact IsBalanced.bind ih fun rest => IsBalanced.pure _

theorem balanced_checkDomainAccountBound : IsBalanced strict (checkDomainAccountBound b) := by
  refine IsBalanced.bind (balanced_asks _ _) ?_
  rintro ⟨result, osAccountInfos⟩
  refine IsBalanced.ite (IsBalanced.pure _) ?_
  exact IsBalanced.bind (balanced_anyStaysBound b osAccountInfos) fun isBound => IsBalanced.pure _

theorem balanced_createOsAccountForDomain : IsBalanced strict (createOsAccountForDomain b) := by
  refine balanced_withLock _ (IsBalanced.bind (balanced_asks _ _) fun allowed => IsBalanced.ite
    (IsBalanced.pure _) ?_)
  refine balanced_withLock _ (IsBalanced.bind (balanced_checkDomainAccountBound b) ?_)
  rintro ⟨errCode, isBound⟩
  refine IsBalanced.ite (IsBalanced.pure _)
    (IsBalanced.ite (IsBalanced.pure _) (IsBalanced.bind (balanced_asks _ _) ?_))
  rintro ⟨errCode, osAccountInfos⟩
  exact IsBalanced.ite (IsBalanced.pure _) (balanced_asks _ _)

theorem balanced_removeOsAccount (id : Int) : IsBalanced strict (removeOsAccount b id) := by
  refine balanced_operating id (IsBalanced.pure _) (Releases.bind (balanced_asks _ _) ?_)
  rintro ⟨errCode, osAccountInfo⟩
  refine Releases.ite (releases_exit id _) (Releases.bind (balanced_asks _ _) fun errCode => ?_)
  refine Releases.ite (releases_exit id _) (Releases.bind (balanced_asks _ _) fun errCode => ?_)
  refine Releases.ite (releases_exit id _) ?_
  exact Releases.bind (balanced_removeOsAccountOperate b _ _) fun errCode => releases_exit id _

theorem balanced_setOsAccountTypeInTEE : IsBalanced strict (setOsAccountTypeInTEE b) :=
  IsBalanced.ite (balanced_asks _ _) (IsBalanced.pure _)

theorem balanced_setOsAccountType (id : Int) : IsBalanced strict (setOsAccountType b id) := by
  refine balanced_withLock _ (IsBalanced.bind (balanced_asks _ _) fun errCode => ?_)
  refine IsBalanced.ite (IsBalanced.pure _) (IsBalanced.bind (balanced_asks _ _) fun errCode => ?_)
  refine IsBalanced.ite (IsBalanced.pure _) (balanced_operating id (IsBalanced.pure _) ?_)
  refine Releases.bind (balanced_setOsAccountTypeInTEE b) fun errCode => ?_
  refine Releases.ite (releases_exit id _) (Releases.bind (balanced_asks _ _) fun errCode => ?_)
  exact Releases.ite (releases_exit id _) (releases_exit id _)

theorem balanced_setOsAccountToBeRemoved (toBeRemoved : Bool) :
    IsBalanced strict (setOsAccountToBeRemoved localId toBeRemoved) := by
  refine balanced_operating localId (IsBalanced.pure _) (Releases.bind (balanced_asks _ _) fun errCode => ?_)
  have hupdate : Releases strict localId (do
      let errCode ← ret .updateOsAccount
      removeLocalIdToOperating localId
      return errCode) := Releases.bind (balanced_asks _ _) fun errCode => releases_exit localId _
  refine Releases.ite (releases_exit localId _) (Releases.ite ?_ hupdate)
  exact Releases.bind (balanced_asks _ _) fun errCode => Releases.ite (releases_exit localId _) hupdate

theorem balanced_updateOsAccountWithFullInfo :
    IsBalanced strict (updateOsAccountWithFullInfo localId) := by
  refine balanced_operating localId (IsBalanced.pure _) (Releases.bind (balanced_asks _ _) fun errCode => ?_)
  refine Releases.ite (releases_exit localId _) ?_
  exact Releases.bind (balanced_asks _ _) fun errCode => releases_exit localId _

theorem balanced_updateAccountInfoByDomainAccountInfo (userId : Int) :
    IsBalanced strict (updateAccountInfoByDomainAccountInfo userId) := by
  refine balanced_operating userId (IsBalanced.pure _) (Releases.bind (balanced_asks _ _) fun result => ?_)
  refine Releases.ite (releases_exit userId _) (Releases.bind (balanced_asks _ _) fun result => ?_)
  exact Releases.ite (releases_exit userId _) (releases_exit userId _)

/-- What `PrepareOsAccountInfo` leaves: the marker of the returned id is set, or
the call has failed without setting one. -/
def Prepared (r : Ret × Int) (held : List Int) : Prop := held = [r.2] ∨ (r.1 ≠ .ok () ∧ held = [])

theorem ends_asks {β : Type} {Q : β → List Int → Prop} {held : List Int} {c : Call} {f : Answer → α} {k : α → Step β}
    (h : ∀ a, Ends strict Q (k a) held) : Ends strict Q (asks c f >>= k) held := fun a => h (f a)

theorem ends_prepareOsAccountInfo : Ends strict Prepared (prepareOsAccountInfo b c) [] := by
  have hfail : ∀ {errCode : Ret} (localId : Int), errCode ≠ .ok () →
      Ends strict Prepared (pure (errCode, localId) : Step (Ret × Int)) [] := fun _ herr => .inr ⟨herr, rfl⟩
  apply Ends.bind
  refine (balanced_fillOsAccountInfo b c []).mono ?_
  rintro ⟨errCode, localId⟩ _ rfl
  dsimp only
  split
  · exact hfail localId ‹_›
  refine ends_asks fun validated => ?_
  split
  · exact hfail localId ‹_›
  refine ends_asks fun counted => ?_
  split
  · exact hfail localId nofun
  split
  · exact hfail localId ‹_›
  refine ⟨?_, hfail localId nofun⟩
  refine ends_asks fun inserted => ?_
  split
  · exact .inl rfl
  · exact fun _ => .inl rfl

theorem ends_exit_prepared {r : Ret × Int} {held : List Int} (h : Prepared r held) (a : α) :
    Ends false (fun _ held => held = []) (do removeLocalIdToOperating r.2; return a) held := by
  refine ⟨nofun, ?_⟩
  obtain rfl | ⟨-, rfl⟩ := h
  · exact List.erase_cons_head ..
  · rfl

theorem Ends.withLock {Q : α → List Int → Prop} (m : Mutex) {p : Step α} (h : Ends strict Q p []) :
    Ends strict Q (withLock m p) [] := Ends.bind h

theorem ends_createOsAccountOverload {rest : Int → Step Ret}
    (hrest : ∀ localId, Releases false localId (rest localId)) :
    Ends false (fun _ held => held = []) (createOsAccountOverload b c rest) [] := by
  refine ends_asks fun allowed => ?_
  split
  · rfl
  have hprepare : Ends false (fun _ held => held = []) (do
      let (errCode, localId) ← prepareOsAccountInfo b c
      if errCode ≠ .ok () then
        removeLocalIdToOperating localId
        return errCode
      rest localId) [] := by
    apply Ends.bind
    refine (ends_prepareOsAccountInfo b c).mono ?_
    rintro ⟨errCode, localId⟩ held hheld
    dsimp only
    split
    · exact ends_exit_prepared hheld errCode
    · rename_i hok
      obtain rfl | ⟨herr, -⟩ := hheld
      · exact hrest localId []
      · exact absurd herr hok
  apply Ends.withLock
  refine ends_asks fun native => ?_
  split
  · apply Ends.bind
    refine (balanced_checkAndCleanOsAccounts b []).mono ?_
    rintro cleaned _ rfl
    split
    · rfl
    · exact hprepare
  · exact hprepare

theorem releases_handleCreateOsAccountToken (localId : Int) {p : Step Ret}
    (hp : Releases strict localId p) :
    Releases strict localId (do
      let errCode ← handleCreateOsAccountToken b c localId
      if errCode ≠ .ok () then return errCode
      p) := by
  intro held
  apply Ends.bind
  have hend : ∀ {errCode : Ret}, errCode ≠ .ok () →
      Ends strict (fun errCode held' => Ends strict (fun _ held' => held' = held)
        (if errCode ≠ .ok () then pure errCode else p) held')
        (do removeLocalIdToOperating localId; return errCode) (localId :: held) := by
    intro errCode herr
    refine ⟨fun _ => List.mem_cons_self, ?_⟩
    rw [List.erase_cons_head]
    change Ends strict (fun _ held' => held' = held) (if errCode ≠ .ok () then pure errCode else p) held
    rw [if_pos herr]
    rfl
  have hgo : Ends strict (fun errCode held' => Ends strict (fun _ held' => held' = held)
      (if errCode ≠ .ok () then pure errCode else p) held') (pure (.ok ()) : Step Ret) (localId :: held) := hp held
  unfold handleCreateOsAccountToken
  split
  · apply Ends.bind
    refine (balanced_insertOsAccountTypeToTee b (localId :: held)).mono ?_
    rintro errCode _ rfl
    split
    · exact hend ‹_›
    · exact hgo
  · split
    · exact hgo
    · exact hend nofun

theorem ends_createOsAccount : Ends false (fun _ held => held = []) (createOsAccount b c) [] := by
  refine ends_createOsAccountOverload b c fun localId => ?_
  exact Releases.bind (balanced_sendMsgForAccountCreate b localId) fun errCode => releases_exit localId _

theorem ends_createOsAccountWithOptions :
    Ends false (fun _ held => held = []) (createOsAccountWithOptions b c) [] := by
  refine ends_createOsAccountOverload b c fun localId => ?_
  have hsend : Releases false localId (do
      let errCode ← sendMsgForAccountCreate b localId
      removeLocalIdToOperating localId
      return errCode) :=
    Releases.bind (balanced_sendMsgForAccountCreate b localId) fun errCode => releases_exit localId _
  exact Releases.ite (releases_handleCreateOsAccountToken b c localId hsend) hsend

theorem ends_bindDomainAccount : Ends false (fun _ held => held = []) (bindDomainAccount b c) [] := by
  have hupdate : Ends false (fun _ held => held = []) (ret .updateOsAccount) [] := fun _ => rfl
  apply Ends.withLock
  apply Ends.bind
  refine (balanced_checkDomainAccountBound b []).mono ?_
  rintro ⟨errCode, isBound⟩ _ rfl
  dsimp only
  split
  · rfl
  split
  · rfl
  apply Ends.bind
  have hconstrained : IsBalanced false (isCreationConstrained b) :=
    IsBalanced.ite (balanced_asks _ _) (IsBalanced.pure _)
  refine (hconstrained []).mono ?_
  rintro ⟨errCode, isEnabled⟩ _ rfl
  dsimp only
  split
  · rfl
  refine ends_asks ?_
  rintro ⟨errCode, osAccountInfos⟩
  dsimp only
  split
  · rfl
  split
  · split
    · apply Ends.bind
      refine (ends_prepareOsAccountInfo b c).mono ?_
      rintro ⟨errCode, localId⟩ held hheld
      refine Ends.bind ((ends_exit_prepared hheld ()).mono ?_)
      rintro _ _ rfl
      split
      · rfl
      · exact hupdate
    · rfl
  · exact hupdate

theorem ends_program (op : Op) : Ends (!clearsUnset op) (fun _ held => held = []) (program b op) [] := by
  cases op with
  | createOsAccount c => exact Ends.bind (ends_createOsAccount b c)
  | createOsAccountWithOptions c => exact Ends.bind (ends_createOsAccountWithOptions b c)
  | bindDomainAccount c => exact Ends.bind (ends_bindDomainAccount b c)
  | createOsAccountWithFullInfo c => exact Ends.bind (balanced_createOsAccountWithFullInfo b c [])
  | createOsAccountForDomain => exact Ends.bind (balanced_createOsAccountForDomain b [])
  | removeOsAccount id => exact Ends.bind (balanced_removeOsAccount b id [])
  | cleanGarbageOsAccounts excludeId => exact Ends.bind (balanced_cleanGarbageOsAccounts b excludeId [])
  | setOsAccountType id => exact Ends.bind (balanced_setOsAccountType b id [])
  | setOsAccountToBeRemoved localId toBeRemoved =>
      exact Ends.bind (balanced_setOsAccountToBeRemoved localId toBeRemoved [])
  | updateOsAccountWithFullInfo localId => exact Ends.bind (balanced_updateOsAccountWithFullInfo localId [])
  | updateAccountInfoByDomainAccountInfo userId =>
      exact Ends.bind (balanced_updateAccountInfoByDomainAccountInfo userId [])
  | activateOsAccount id => exact Ends.bind (balanced_activateOsAccount b id [])
  | deactivateOsAccount id => exact Ends.bind (balanced_deactivateOsAccount id [])

end balance

/-- The markers are owned in every run in which no creation and no binding whose
preparation set no marker clears the marker of another operation. -/
theorem operating_marker_owned (es : List (Event Answer Op))
    (hes : Machine.Meets (step (program b)) (NoStray clearsUnset) System.empty es) :
    Owned (Machine.run (step (program b)) System.empty es) :=
  owned_run (program b) (ends_program b) hes

def fullBuild : Build := ⟨true, true, true, true, true, true, true⟩

def granted : Answer := ⟨.ok (), true, 101, [], {}, []⟩

def nameTaken : Answer := { granted with ret := .error .nameHadExisted }

def maintenanceCreation : Creation := ⟨{}, .maintenance, none, false, false⟩

def refusedCreation (t : Nat) : List (Event Answer Op) :=
  [.start t (.createOsAccount maintenanceCreation), .next t granted, .next t granted, .next t granted,
    .next t granted, .next t granted, .next t granted, .next t nameTaken, .next t granted]

theorem operating_marker_owned_maintenance :
    (Machine.run (step (program fullBuild)) System.empty
        (.start 0 (.activateOsAccount 101) :: .next 0 granted :: refusedCreation 1)).markers = [101] ∧
      Owned (Machine.run (step (program fullBuild)) System.empty
        (.start 0 (.activateOsAccount 101) :: .next 0 granted :: refusedCreation 1)) :=
  ⟨by decide, operating_marker_owned fullBuild _ (by decide)⟩

/-- The maintenance account is being activated when its creation is refused, and
its removal starts before the activation has ended. -/
def doubleMarking : List (Event Answer Op) :=
  .start 0 (.activateOsAccount maintenanceModeId) :: .next 0 granted :: refusedCreation 1 ++
    [.start 2 (.removeOsAccount maintenanceModeId), .next 2 granted]

theorem refused_creation_clears_marker :
    ¬ Owned (Machine.run (step (program fullBuild)) System.empty doubleMarking) := by
  intro h
  have hactivation : (Machine.run (step
      (program fullBuild)) System.empty doubleMarking).Holds 0 maintenanceModeId :=
    ⟨_, rfl, by decide⟩
  have hremoval : (Machine.run (step
      (program fullBuild)) System.empty doubleMarking).Holds 2 maintenanceModeId :=
    ⟨_, rfl, by decide⟩
  exact absurd (h.exclusive _ 0 2 hactivation hremoval) (by decide)

end OsAccount.OperatingMarker
