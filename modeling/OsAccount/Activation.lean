import Mathlib.Data.Finset.Card
import OsAccount.Machine
import OsAccount.OrderedMap
import OsAccount.OsAccountInfo

namespace OsAccount.Activation

open Std

/-- The accounts in use, with several active accounts and one foreground account
for each display. The maps of the logged in and of the verified accounts only have
true values. -/
structure State where
  activeAccountId : List Int
  foregroundAccountMap : ExtTreeMap Nat Int compare
  loggedInAccounts : Finset Int
  verifiedAccounts : Finset Int

def initial : State := ⟨[], ∅, ∅, ∅⟩

structure Config where
  maxLoggedInOsAccountNum : Nat
  enableU1Account : Bool
  supportStopMainOsAccount : Bool

abbrev Reading := Except ErrCode OsAccountInfo

variable (s : State)

def pushIdIntoActiveList (id : Int) : State := { s with activeAccountId := id :: s.activeAccountId.filter (· ≠ id) }

def eraseIdFromActiveList (id : Int) : State := { s with activeAccountId := s.activeAccountId.filter (· ≠ id) }

def eraseLoggedInAndVerified (id : Int) : State :=
  { s with loggedInAccounts := s.loggedInAccounts.erase id, verifiedAccounts := s.verifiedAccounts.erase id }

def displayOf (id : Int) : Nat :=
  ((s.foregroundAccountMap.toList.filter (·.2 = id)).getLast?.map (·.1)).getD invalidDisplayId

def getRealOsAccountInfoById (file : Reading) (id : Int) : Reading :=
  match file with
  | .error e => .error e
  | .ok osAccountInfo =>
      let osAccountInfo := { osAccountInfo with
        localId := id
        isVerified := id ∈ s.verifiedAccounts
        isLoggedIn := id ∈ s.loggedInAccounts
        isActived := id ∈ s.activeAccountId }
      if id ∉ s.activeAccountId then
        .ok { osAccountInfo with displayId := invalidDisplayId, isForeground := false }
      else
        .ok { osAccountInfo with displayId := displayOf s id, isForeground := displayOf s id ≠ invalidDisplayId }

def isValidOsAccount (osAccountInfo : OsAccountInfo) : Ret :=
  if !osAccountInfo.isCreateCompleted then .error .uncompletedError
  else if osAccountInfo.toBeRemoved then .error .toBeRemovedError
  else .ok ()

def isLoggedInAccountsOversize (config : Config) : Bool :=
  let logginAccountSize := s.loggedInAccounts.card
  if config.enableU1Account ∧ u1Id ∈ s.loggedInAccounts then logginAccountSize - 1 ≥ config.maxLoggedInOsAccountNum
  else logginAccountSize ≥ config.maxLoggedInOsAccountNum

def isActiveCrossDisplay (id : Int) (displayId : Nat) : Bool :=
  s.foregroundAccountMap.toList.any fun entry => entry.2 = id && entry.1 ≠ displayId

def validateDisplayForActivation (validateDisplayPrimary : Ret) (id : Int) (displayId : Nat) : Ret :=
  match if displayId = defaultDisplayId then .ok () else validateDisplayPrimary with
  | .error e =>
      if e = .fileReadFailed ∨ e = .badJsonFormatError then crossDisplay
      else .error e
  | .ok () => crossDisplay
where
  crossDisplay : Ret := if isActiveCrossDisplay s id displayId then .error .crossDisplayActiveError else .ok ()

structure DeactivateAnswer where
  file : Reading
  amsDeactivate : Ret
  storageStop : Ret
  updateOsAccount : Ret

/-- The answers to the calls of an activation. Once the ability manager has started
the account it calls back with its id. -/
structure ActivateAnswer where
  file : Reading
  validateDisplayPrimary : Ret
  unlockUser : Ret
  startUser : Ret
  oldFile : Reading
  background : DeactivateAnswer

/-- A file that may not be read does not keep the first account of a display from
being activated. -/
def prepareActivateOsAccount (config : Config) (a : ActivateAnswer) (id : Int) (displayId : Nat) : Reading :=
  let foregroundId := s.foregroundAccountMap[displayId]?
  match getRealOsAccountInfoById s a.file id with
  | .error e =>
      if e = .fileAccessDenied then
        if foregroundId.isSome then .error .fileAccessDenied
        else
          match validateDisplayForActivation s a.validateDisplayPrimary id displayId with
          | .error e => .error e
          | .ok () => notOversize { localId := id }
      else .error .accountNotExistError
  | .ok osAccountInfo =>
      if foregroundId = some id ∧ osAccountInfo.isVerified then .error .accountAlreadyActiveError
      else
        match validateDisplayForActivation s a.validateDisplayPrimary id displayId, isValidOsAccount osAccountInfo with
        | .error e, _ => .error e
        | .ok (), .error e => .error e
        | .ok (), .ok () => notOversize osAccountInfo
where
  notOversize (osAccountInfo : OsAccountInfo) : Reading :=
    if !osAccountInfo.isActived && isLoggedInAccountsOversize s config then .error .loggedInAccountsOversize
    else .ok osAccountInfo

/-- An account whose storage is unlocked is verified, and logged in if it has no
credential. -/
def sendToStorageAccountStart (unlockUser : Ret) (osAccountInfo : OsAccountInfo) : Ret × State :=
  if unlockUser = .error .getSystemAbilityManager then (.error .getSystemAbilityManager, s)
  else
    let isUserUnlocked : Bool := unlockUser = .ok ()
    let isLoggedIn := osAccountInfo.isLoggedIn ||
      !osAccountInfo.isVerified && isUserUnlocked && osAccountInfo.credentialId = 0
    let isVerified := osAccountInfo.isVerified || isUserUnlocked
    let id := osAccountInfo.localId
    (.ok (), { s with
      verifiedAccounts := if isVerified then insert id s.verifiedAccounts else s.verifiedAccounts
      loggedInAccounts := if isLoggedIn then insert id s.loggedInAccounts else s.loggedInAccounts })

/-- The callback of a start. Only on the default display the account is looked for
in the list. -/
def onAccountStarted (displayId : Nat) (localId : Int) : State :=
  let s := if displayId = defaultDisplayId then pushIdIntoActiveList s localId
    else { s with activeAccountId := s.activeAccountId ++ [localId] }
  if displayId = invalidDisplayId then s
  else { s with foregroundAccountMap := s.foregroundAccountMap.insert displayId localId }

def sendToAMSAndSamgrAccountStart (startUser : Ret) (displayId : Nat) (localId : Int) : Ret × State :=
  match startUser with
  | .error e => (.error e, s)
  | .ok () => (.ok (), onAccountStarted s displayId localId)

def sendToStorageAndAMSAccountStart (a : ActivateAnswer) (osAccountInfo : OsAccountInfo) (startStorage : Bool)
    (displayId : Nat) (isAppRecovery : Bool) : Ret × State :=
  match if startStorage then sendToStorageAccountStart s a.unlockUser osAccountInfo else (.ok (), s) with
  | (.error e, s) =>
      if !isAppRecovery then (.error e, s)
      else sendToAMSAndSamgrAccountStart s a.startUser displayId osAccountInfo.localId
  | (.ok (), s) => sendToAMSAndSamgrAccountStart s a.startUser displayId osAccountInfo.localId

def cleanForegroundAccountMap (osAccountInfo : OsAccountInfo) : State :=
  if osAccountInfo.isForeground ∧ s.foregroundAccountMap[osAccountInfo.displayId]? = some osAccountInfo.localId then
    { s with foregroundAccountMap := s.foregroundAccountMap.erase osAccountInfo.displayId }
  else s

def deactivateOsAccountByInfo (updateOsAccount : Ret) (osAccountInfo : OsAccountInfo) : Ret × State :=
  let s := eraseLoggedInAndVerified s osAccountInfo.localId
  let s := cleanForegroundAccountMap s osAccountInfo
  let s := eraseIdFromActiveList s osAccountInfo.localId
  if updateOsAccount = .ok () ∨ updateOsAccount = .error .dataNoSpace then (.ok (), s)
  else (.error .updateAccountError, s)

def sendMsgForAccountDeactivate (a : DeactivateAnswer) (osAccountInfo : OsAccountInfo) (isStopStorage : Bool) :
    Ret × State :=
  let s := cleanForegroundAccountMap s osAccountInfo
  match a.amsDeactivate with
  | .error e => (.error e, s)
  | .ok () =>
      match if isStopStorage then a.storageStop else .ok () with
      | .error e =>
          (.error e, eraseIdFromActiveList (eraseLoggedInAndVerified s osAccountInfo.localId) osAccountInfo.localId)
      | .ok () => deactivateOsAccountByInfo s a.updateOsAccount osAccountInfo

def deactivateOsAccount (a : DeactivateAnswer) (id : Int) (isStopStorage : Bool) : Ret × State :=
  match getRealOsAccountInfoById s a.file id with
  | .error _ => (.error .accountNotExistError, s)
  | .ok osAccountInfo =>
      if !osAccountInfo.isActived && !osAccountInfo.isVerified then (.ok (), s)
      else
        match isValidOsAccount osAccountInfo with
        | .error e => (.error e, s)
        | .ok () => sendMsgForAccountDeactivate s a osAccountInfo isStopStorage

def updateAccountToBackground (config : Config) (a : ActivateAnswer) (oldId : Int) : State :=
  match a.oldFile with
  | .error _ => s
  | .ok oldOsAccountInfo =>
      if !config.supportStopMainOsAccount ∧ oldId = AccountList.startUserId then s
      else if oldOsAccountInfo.type ≠ .privateType ∧ oldId ∉ s.loggedInAccounts then
        (deactivateOsAccount s a.background oldId false).2
      else s

def sendMsgForAccountActivate (config : Config) (a : ActivateAnswer) (osAccountInfo : OsAccountInfo)
    (startStorage : Bool) (displayId : Nat) (isAppRecovery : Bool) : Ret × State :=
  let oldId := s.foregroundAccountMap[displayId]?
  match sendToStorageAndAMSAccountStart s a osAccountInfo startStorage displayId isAppRecovery with
  | (.error e, s) => (.error e, s)
  | (.ok (), s) =>
      match oldId with
      | none => (.ok (), s)
      | some oldId =>
          if oldId = osAccountInfo.localId then (.ok (), s) else (.ok (), updateAccountToBackground s config a oldId)

def activateOsAccount (config : Config) (a : ActivateAnswer) (id : Int) (startStorage : Bool) (displayId : Nat)
    (isAppRecovery : Bool) : Ret × State :=
  match prepareActivateOsAccount s config a id displayId with
  | .error e => (if e = .accountAlreadyActiveError then .ok () else .error e, s)
  | .ok osAccountInfo => sendMsgForAccountActivate s config a osAccountInfo startStorage displayId isAppRecovery

def activateOsAccountInBackground (a : ActivateAnswer) (id : Int) : Ret × State :=
  match getRealOsAccountInfoById s a.file id with
  | .error _ => (.error .accountNotExistError, s)
  | .ok osAccountInfo =>
      match isValidOsAccount osAccountInfo with
      | .error _ => (.error .accountNotExistError, s)
      | .ok () =>
          let (_, s) := sendToStorageAccountStart s a.unlockUser osAccountInfo
          sendToAMSAndSamgrAccountStart s a.startUser invalidDisplayId osAccountInfo.localId

/-- The answers to the calls of a removal: those before the account is stopped and
those after it. -/
structure RemoveAnswer where
  file : Reading
  before : Ret
  amsDeactivate : Ret
  amsStop : Ret
  checkAllAppDied : Ret
  storageStop : Ret
  updateOsAccount : Ret
  after : Ret

def sendMsgForAccountStop (a : RemoveAnswer) (osAccountInfo : OsAccountInfo) : Ret × State :=
  match a.amsStop, a.checkAllAppDied with
  | .error e, _ => (.error e, s)
  | .ok (), .error e => (.error e, s)
  | .ok (), .ok () =>
      if a.storageStop ≠ .ok () ∧ a.storageStop ≠ .error .storageStopUserFailed then (.error .getSystemAbilityManager, s)
      else deactivateOsAccountByInfo s a.updateOsAccount osAccountInfo

def prepareRemoveOsAccount (a : RemoveAnswer) (osAccountInfo : OsAccountInfo) : Ret × State :=
  match if osAccountInfo.isForeground then a.amsDeactivate else .ok () with
  | .error e => (.error e, s)
  | .ok () => sendMsgForAccountStop (eraseLoggedInAndVerified s osAccountInfo.localId) a osAccountInfo

def removeOsAccount (a : RemoveAnswer) (id : Int) : Ret × State :=
  match getRealOsAccountInfoById s a.file id with
  | .error _ => (.error .accountNotExistError, s)
  | .ok osAccountInfo =>
      match a.before with
      | .error e => (.error e, s)
      | .ok () =>
          match prepareRemoveOsAccount s a { osAccountInfo with toBeRemoved := true } with
          | (.error e, s) => (.error e, s)
          | (.ok (), s) => (a.after, s)

def setOsAccountIsVerified (file : Reading) (id : Int) (isVerified : Bool) : Ret × State :=
  match getRealOsAccountInfoById s file id with
  | .error _ => (.error .accountNotExistError, s)
  | .ok osAccountInfo =>
      if osAccountInfo.toBeRemoved then (.error .toBeRemovedError, s)
      else if isVerified then (.ok (), { s with verifiedAccounts := insert id s.verifiedAccounts })
      else (.ok (), { s with verifiedAccounts := s.verifiedAccounts.erase id })

def setOsAccountIsLoggedIn (file : Reading) (updateOsAccount : Ret) (id : Int) (isLoggedIn : Bool) : Ret × State :=
  match getRealOsAccountInfoById s file id with
  | .error _ => (.error .accountNotExistError, s)
  | .ok osAccountInfo =>
      if osAccountInfo.toBeRemoved then (.error .toBeRemovedError, s)
      else
        let s := { s with loggedInAccounts :=
          if isLoggedIn then insert id s.loggedInAccounts else s.loggedInAccounts.erase id }
        if updateOsAccount = .ok () ∨ updateOsAccount = .error .dataNoSpace then (.ok (), s)
        else (.error .updateAccountError, s)

def getBackgroundOsAccountLocalIds : List Int :=
  let foregroundIds := s.foregroundAccountMap.toList.map (·.2)
  s.activeAccountId.filter (· ∉ foregroundIds)

inductive Event
  | activateOsAccount (a : ActivateAnswer) (id : Int) (startStorage : Bool) (displayId : Nat) (isAppRecovery : Bool)
  | activateOsAccountInBackground (a : ActivateAnswer) (id : Int)
  | deactivateOsAccount (a : DeactivateAnswer) (id : Int) (isStopStorage : Bool)
  | removeOsAccount (a : RemoveAnswer) (id : Int)
  | setOsAccountIsVerified (file : Reading) (id : Int) (isVerified : Bool)
  | setOsAccountIsLoggedIn (file : Reading) (updateOsAccount : Ret) (id : Int) (isLoggedIn : Bool)

def perform (config : Config) : Event → Ret × State
  | .activateOsAccount a id startStorage displayId isAppRecovery =>
      activateOsAccount s config a id startStorage displayId isAppRecovery
  | .activateOsAccountInBackground a id => activateOsAccountInBackground s a id
  | .deactivateOsAccount a id isStopStorage => deactivateOsAccount s a id isStopStorage
  | .removeOsAccount a id => removeOsAccount s a id
  | .setOsAccountIsVerified file id isVerified => setOsAccountIsVerified s file id isVerified
  | .setOsAccountIsLoggedIn file updateOsAccount id isLoggedIn =>
      setOsAccountIsLoggedIn s file updateOsAccount id isLoggedIn

def step (config : Config) (s : State) (e : Event) : State := (perform s config e).2

end OsAccount.Activation
