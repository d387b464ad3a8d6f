import OsAccount.Activation
import OsAccount.SourcedCache

namespace OsAccount.VerifiedAccounts

open Activation AccountList SourcedCache
open Activation (isValidOsAccount)

def activeEl2Failed : ErrCode := .sys 30

def getSystemAbility : ErrCode := .sys 4194321

def secretCheck : ErrCode := .sys 4194350

def pluginNotExistError : ErrCode := .sys 4653071

def lockError : ErrCode := .sys 4653073

/-- `MAX_RETRY_TIMES` of the interface to the other services and of the IAM manager. -/
def maxRetryTimes : Nat := 10

def iamMaxRetryTimes : Nat := 20

/-- The calls that concern neither the marks nor the keys. Their outcome is a reply; what is read of an account comes
with its other marks. -/
inductive Outside
  | getOsAccountInfoById (id : Int)
  | checkAndAddLocalIdOperating (id : Int)
  | getStorageProxy
  | isSecretFlagExist (id : Int)
  | isExistPIN (id : Int)
  | isDomainUnlockEnabled (id : Int)
  | deleteSecretFlag (id : Int)
  | prepareStartUser (id : Int)
  | stopUser (id : Int)
  | getUserNeedActiveStatus (id : Int)
  | getLockScreenStatus (id : Int)
  | unlockUserScreen (id : Int)
  | foregroundOn (displayId : Nat)
  | validateDisplayForActivation (id : Int) (displayId : Nat)
  | isLoggedInAccountsOversize
  | firstOsAccount
  | sendToAMSAndSamgrAccountStart (id : Int)
  | sendToAMSAccountStop (id : Int)
  | checkAllAppDied (id : Int)
  | sendToAMSAccountDeactivate (id : Int)
  | updateOsAccount (osAccountInfo : AccountFile)
  | sendToIDMAccountDelete (id : Int)
  | sendToStorageAccountCreateComplete (id : Int)
  | removeOsAccountData (id : Int)
  | isPluginAvailable
  | isOsAccountDeactivatingOrLocking (id : Int)
  | setOsAccountIsLoggedIn (id : Int)

def Reply : Outside → Type
  | .getOsAccountInfoById _ => Except ErrCode AccountFile
  | .isExistPIN _ | .isDomainUnlockEnabled _ | .getUserNeedActiveStatus _ | .getLockScreenStatus _ =>
      Except ErrCode Bool
  | .checkAndAddLocalIdOperating _ | .isSecretFlagExist _ | .isLoggedInAccountsOversize | .isPluginAvailable
  | .isOsAccountDeactivatingOrLocking _ => Bool
  | .foregroundOn _ => Option Int
  | .firstOsAccount => Option AccountFile
  | .deleteSecretFlag _ => Unit
  | .getStorageProxy | .prepareStartUser _ | .stopUser _ | .unlockUserScreen _ | .validateDisplayForActivation _ _
  | .sendToAMSAndSamgrAccountStart _ | .sendToAMSAccountStop _ | .checkAllAppDied _ | .sendToAMSAccountDeactivate _
  | .updateOsAccount _ | .sendToIDMAccountDelete _ | .sendToStorageAccountCreateComplete _ | .removeOsAccountData _
  | .setOsAccountIsLoggedIn _ => Ret

/-- The source is the key of an account that the storage service has active, the cache are the verified accounts. -/
abbrev Access : Type := SourcedCache.Access Int Unit Unit Outside

abbrev Answer : Access → Type := SourcedCache.Answer ErrCode Reply

abbrev Step : Type → Type := Program Access Answer

def unreached : Ret → Bool
  | .error .ipcError | .error .ipcSaDied => true
  | .error e => e = getSystemAbility
  | .ok () => false

/-- A key that was offered is active unless the storage service says that it is not or was not reached. A failure to
make a key inactive leaves it active. -/
def Credible (takes : Int → Bool) (ret : Ret) : Int × Option Unit → Prop
  | (id, some ()) => ret = .error activeEl2Failed ∨ unreached ret = true ∨ takes id = true
  | (id, none) => ret = .ok () ∨ takes id = false

instance (takes : Int → Bool) (ret : Ret) : (v : Int × Option Unit) → Decidable (Credible takes ret v)
  | (id, some ()) =>
      inferInstanceAs (Decidable (ret = .error activeEl2Failed ∨ unreached ret = true ∨ takes id = true))
  | (id, none) => inferInstanceAs (Decidable (ret = .ok () ∨ takes id = false))

def discipline : Discipline Int Unit Unit ErrCode where
  agrees _ key := key = some ()
  silent key := key.isSome
  credible values takes ret := ∀ v ∈ values, Credible takes ret v
  agrees_of_silent _ key h := by
    obtain ⟨_, rfl⟩ := Option.isSome_iff_exists.mp h
    rfl

instance (c : Unit) (key : Option Unit) : Decidable (discipline.agrees c key) :=
  inferInstanceAs (Decidable (key = some ()))

instance (values : List (Int × Option Unit)) (takes : Int → Bool) (ret : Ret) :
    Decidable (discipline.credible values takes ret) :=
  inferInstanceAs (Decidable (∀ v ∈ values, Credible takes ret v))

section operations

def find (id : Int) : Step (Option Unit) := @Program.call Access Answer (.find id)

def rely (id : Int) : Step (Option Unit) := @Program.call Access Answer (.rely id)

/-- `GetFileEncryptStatus`: the files of an account are not encrypted while its key is active. The service is taken to
tell the state of the key as it is. -/
def getFileEncryptStatus (id : Int) : Step (Except ErrCode (Option Unit)) := @Program.call Access Answer (.ask id)

def activeUserKey (id : Int) : Step Ret := @Program.call Access Answer (.offer [(id, some ())])

def inactiveUserKey (id : Int) : Step Ret := @Program.call Access Answer (.offer [(id, none)])

def insertVerified (id : Int) : Step Unit := @Program.call Access Answer (.fill [(id, some ())])

def eraseVerified (id : Int) : Step Unit := @Program.call Access Answer (.fill [(id, none)])

def outside (o : Outside) : Step (Reply o) := @Program.call Access Answer (.outside o)

def getRealOsAccountInfoById (look : Int → Step (Option Unit)) (id : Int) : Step (Except ErrCode AccountFile) := do
  match ← outside (.getOsAccountInfoById id) with
  | .error e => return .error e
  | .ok info => do
      let isVerified ← look id
      return .ok { info with localId := id, isVerified := isVerified.isSome }

def isOsAccountVerified (id : Int) : Step (Except ErrCode Bool) := do
  match ← getRealOsAccountInfoById find id with
  | .error _ => return .error .accountNotExistError
  | .ok osAccountInfo => return .ok osAccountInfo.isVerified

def needSkipActiveUserKey (localId : Int) : Step (Bool × Ret) := do
  if !(← outside (.isSecretFlagExist localId)) then return (false, .ok ())
  match ← outside .getStorageProxy with
  | .error _ => return (false, .error .getSystemAbilityManager)
  | .ok () => do
      match ← getFileEncryptStatus localId with
      | .error e => return (false, .error e)
      | .ok (some ()) => return (true, .ok ())
      | .ok none => do
          let isExistPIN ← outside (.isExistPIN localId)
          let isDomainUnlockEnabled ← outside (.isDomainUnlockEnabled localId)
          match isExistPIN, isDomainUnlockEnabled with
          | .error e, _ => return (false, .error e)
          | .ok _, .error e => return (false, .error e)
          | .ok false, .ok false => do
              outside (.deleteSecretFlag localId)
              return (false, .ok ())
          | .ok _, .ok _ => return (true, .error secretCheck)

/-- A key that is not active does not let the user start. Any other failure is forgotten. -/
def startUnlocked (localId : Int) (startUser : Bool) (errCode : Ret) : Step Ret :=
  if errCode = .error activeEl2Failed then pure errCode
  else if startUser then outside (.prepareStartUser localId)
  else pure (.ok ())

def unlockUser (localId : Int) (startUser : Bool) : Nat → Ret → Step Ret
  | 0, errCode => pure errCode
  | n + 1, _ => do
      match ← outside .getStorageProxy with
      | .error _ => unlockUser localId startUser n (.error .getSystemAbilityManager)
      | .ok () => do
          let (isNeedSkip, ret) ← needSkipActiveUserKey localId
          if isNeedSkip then return ret
          let errCode ← startUnlocked localId startUser (← activeUserKey localId)
          if errCode = .error .ipcError ∨ errCode = .error .ipcSaDied then unlockUser localId startUser n errCode
          else return errCode

def sendToStorageAccountStart (osAccountInfo : AccountFile) : Step Ret := do
  let err ← unlockUser osAccountInfo.localId (!osAccountInfo.isVerified) maxRetryTimes (.ok ())
  if err = .error .getSystemAbilityManager then return .error .getSystemAbilityManager
  if osAccountInfo.isVerified ∨ err = .ok () then insertVerified osAccountInfo.localId
  return .ok ()

def sendToStorageAccountStop (localId : Int) : Step Ret := do
  match ← outside .getStorageProxy with
  | .error _ => return .error .getSystemAbilityManager
  | .ok () => do
      match ← outside (.stopUser localId) with
      | .error _ => return .error .storageStopUserFailed
      | .ok () => do
          match ← inactiveUserKey localId with
          | .error _ => return .error .storageStopUserFailed
          | .ok () => return .ok ()

def deactivateOsAccountByInfo (osAccountInfo : AccountFile) : Step Ret := do
  eraseVerified osAccountInfo.localId
  let errCode : Ret ← outside (.updateOsAccount osAccountInfo)
  return if errCode ≠ .ok () ∧ errCode ≠ .error .dataNoSpace then .error .updateAccountError else .ok ()

def deactivateOsAccountById (id : Int) : Step Ret := do
  match ← getRealOsAccountInfoById find id with
  | .error _ => return .error .accountNotExistError
  | .ok osAccountInfo => deactivateOsAccountByInfo osAccountInfo

def sendMsgForAccountDeactivate (osAccountInfo : AccountFile) (isStopStorage : Bool) : Step Ret := do
  match ← outside (.sendToAMSAccountDeactivate osAccountInfo.localId) with
  | .error e => return .error e
  | .ok () => do
      if !isStopStorage then return ← deactivateOsAccountByInfo osAccountInfo
      match ← sendToStorageAccountStop osAccountInfo.localId with
      | .error e => do
          eraseVerified osAccountInfo.localId
          return .error e
      | .ok () => deactivateOsAccountByInfo osAccountInfo

def deactivateOsAccount (id : Int) (isStopStorage : Bool) : Step Ret := do
  if !(← outside (.checkAndAddLocalIdOperating id)) then return .error .accountOperatingError
  match ← getRealOsAccountInfoById find id with
  | .error _ => return .error .accountNotExistError
  | .ok osAccountInfo => do
      if !osAccountInfo.isActived && !osAccountInfo.isVerified then return .ok ()
      match isValidOsAccount osAccountInfo.toOsAccountInfo with
      | .error e => return .error e
      | .ok () => sendMsgForAccountDeactivate osAccountInfo isStopStorage

/-- In the build with several foreground accounts. -/
def updateAccountToBackground (config : Config) (oldId : Int) : Step Unit := do
  match ← outside (.getOsAccountInfoById oldId) with
  | .error _ => return ()
  | .ok oldOsAccountInfo => do
      if !config.supportStopMainOsAccount && oldId = startUserId then return ()
      if oldOsAccountInfo.type ≠ .privateType ∧ !oldOsAccountInfo.isLoggedIn then
        let _ ← deactivateOsAccount oldId false
      return ()

def startStorageOf (osAccountInfo : AccountFile) (startStorage : Bool) : Step Ret :=
  if startStorage then sendToStorageAccountStart osAccountInfo else pure (.ok ())

def sendToStorageAndAMSAccountStart (osAccountInfo : AccountFile) (startStorage isAppRecovery : Bool) : Step Ret := do
  let errCode ← startStorageOf osAccountInfo startStorage
  if errCode ≠ .ok () ∧ !isAppRecovery then return errCode
  outside (.sendToAMSAndSamgrAccountStart osAccountInfo.localId)

def sendMsgForAccountActivate (config : Config) (osAccountInfo : AccountFile) (startStorage : Bool)
    (displayId : Nat) (isAppRecovery : Bool) : Step Ret := do
  let oldId ← outside (.foregroundOn displayId)
  match ← sendToStorageAndAMSAccountStart osAccountInfo startStorage isAppRecovery with
  | .error e => return .error e
  | .ok () => do
      match oldId with
      | none => return .ok ()
      | some oldId => do
          if oldId ≠ osAccountInfo.localId then updateAccountToBackground config oldId
          return .ok ()

def prepareActivateOsAccount (id : Int) (displayId : Nat) : Step (Except ErrCode AccountFile) := do
  let info ← getRealOsAccountInfoById rely id
  let foregroundId : Option Int ← outside (.foregroundOn displayId)
  match info with
  | .ok osAccountInfo => do
      if foregroundId = some id ∧ osAccountInfo.isVerified then return .error .accountAlreadyActiveError
      match ← outside (.validateDisplayForActivation id displayId) with
      | .error e => return .error e
      | .ok () => do
          match isValidOsAccount osAccountInfo.toOsAccountInfo with
          | .error e => return .error e
          | .ok () => do
              if !osAccountInfo.isActived && (← outside .isLoggedInAccountsOversize) then
                return .error .loggedInAccountsOversize
              return .ok osAccountInfo
  | .error e => do
      if e ≠ .fileAccessDenied then return .error .accountNotExistError
      if foregroundId ≠ none then return .error .fileAccessDenied
      match ← outside (.validateDisplayForActivation id displayId) with
      | .error e => return .error e
      | .ok () => do
          let isOversize : Bool ← outside .isLoggedInAccountsOversize
          if isOversize then return .error .loggedInAccountsOversize
          return .ok { localId := id }

def activateOsAccount (config : Config) (id : Int) (startStorage : Bool) (displayId : Nat)
    (isAppRecovery : Bool) : Step Ret := do
  if !(← outside (.checkAndAddLocalIdOperating id)) then return .error .accountOperatingError
  match ← prepareActivateOsAccount id displayId with
  | .error .accountAlreadyActiveError => return .ok ()
  | .error e => return .error e
  | .ok osAccountInfo => sendMsgForAccountActivate config osAccountInfo startStorage displayId isAppRecovery

def activateOsAccountInBackground (id : Int) : Step Ret := do
  match ← getRealOsAccountInfoById rely id with
  | .error _ => return .error .accountNotExistError
  | .ok osAccountInfo => do
      match isValidOsAccount osAccountInfo.toOsAccountInfo with
      | .error _ => return .error .accountNotExistError
      | .ok () => do
          let _ ← sendToStorageAccountStart osAccountInfo
          outside (.sendToAMSAndSamgrAccountStart osAccountInfo.localId)

def retryToGetAccount (osAccountInfo : AccountFile) : Step AccountFile := do
  let first : Option AccountFile ← outside .firstOsAccount
  match first with
  | none => return osAccountInfo
  | some osAccountInfo => do
      let isVerified ← rely osAccountInfo.localId
      return { osAccountInfo with isVerified := isVerified.isSome }

def prepareForDefaultAccount (activatedId : Int) : Step AccountFile := do
  match ← getRealOsAccountInfoById rely activatedId with
  | .ok osAccountInfo =>
      if isValidOsAccount osAccountInfo.toOsAccountInfo = .ok () then return osAccountInfo
      else retryToGetAccount osAccountInfo
  | .error e =>
      if e ≠ .fileAccessDenied then retryToGetAccount { localId := startUserId } else return { localId := startUserId }

def activateDefaultOsAccount (config : Config) (activatedId : Int) : Step Ret := do
  let osAccountInfo ← prepareForDefaultAccount activatedId
  sendMsgForAccountActivate config osAccountInfo true defaultDisplayId true

/-- `SendMsgForAccountStop`. A storage that fails to stop does not keep the account from being deactivated. -/
def sendMsgForAccountStop (osAccountInfo : AccountFile) : Step Ret := do
  match ← outside (.sendToAMSAccountStop osAccountInfo.localId) with
  | .error e => return .error e
  | .ok () => do
      match ← outside (.checkAllAppDied osAccountInfo.localId) with
      | .error e => return .error e
      | .ok () => do
          let errCode ← sendToStorageAccountStop osAccountInfo.localId
          if errCode ≠ .ok () ∧ errCode ≠ .error .storageStopUserFailed then return .error .getSystemAbilityManager
          deactivateOsAccountByInfo osAccountInfo

/-- In the build with several foreground accounts. -/
def resetForegroundBeforeRemove (osAccountInfo : AccountFile) : Step Ret :=
  if osAccountInfo.isForeground then outside (.sendToAMSAccountDeactivate osAccountInfo.localId) else pure (.ok ())

def prepareRemoveOsAccount (osAccountInfo : AccountFile) (isCleanGarbage : Bool) : Step Ret := do
  match ← outside (.sendToIDMAccountDelete osAccountInfo.localId) with
  | .error e => return .error e
  | .ok () => do
      if isCleanGarbage then return .ok ()
      match ← resetForegroundBeforeRemove osAccountInfo with
      | .error e => return .error e
      | .ok () => do
          eraseVerified osAccountInfo.localId
          sendMsgForAccountStop osAccountInfo

/-- The key of a removed account stays: that `RemoveUser` deletes it too is left out. -/
def removeOsAccount (id : Int) : Step Ret := do
  if !(← outside (.checkAndAddLocalIdOperating id)) then return .error .accountOperatingError
  match ← getRealOsAccountInfoById find id with
  | .error _ => return .error .accountNotExistError
  | .ok osAccountInfo => do
      match ← outside (.sendToStorageAccountCreateComplete id) with
      | .error e => return .error e
      | .ok () => do
          match ← outside (.updateOsAccount { osAccountInfo with toBeRemoved := true }) with
          | .error e => return .error e
          | .ok () => do
              match ← prepareRemoveOsAccount osAccountInfo false with
              | .error e => return .error e
              | .ok () => outside (.removeOsAccountData id)

def lockOsAccount (localId : Int) : Step Ret := do
  if !(← outside .isPluginAvailable) then return .error pluginNotExistError
  if !(← outside (.checkAndAddLocalIdOperating localId)) then return .error .accountOperatingError
  match ← getRealOsAccountInfoById find localId with
  | .error _ => return .error .accountNotExistError
  | .ok osAccountInfo => do
      match isValidOsAccount osAccountInfo.toOsAccountInfo with
      | .error e => return .error e
      | .ok () => do
          if !osAccountInfo.isVerified then return .ok ()
          match ← inactiveUserKey localId with
          | .error _ => return .error lockError
          | .ok () => do
              eraseVerified localId
              return .ok ()

def setOsAccountIsVerified (id : Int) (isVerified : Bool) : Step Ret := do
  match ← getRealOsAccountInfoById find id with
  | .error _ => return .error .accountNotExistError
  | .ok osAccountInfo => do
      if osAccountInfo.toBeRemoved then return .error .toBeRemovedError
      if isVerified then insertVerified id else eraseVerified id
      return .ok ()

def activateUserKey (userId : Int) : Nat → Ret → Step Ret
  | 0, errCode => pure errCode
  | n + 1, _ => do
      match ← outside .getStorageProxy with
      | .error _ => activateUserKey userId n (.error getSystemAbility)
      | .ok () => do
          let errCode ← activeUserKey userId
          if unreached errCode then activateUserKey userId n errCode else return errCode

/-- An account that is verified needs its key only if the storage service says so, or does not answer. -/
def checkNeedReactivateUserKey (userId : Int) : Step (Ret × Bool) := do
  match ← outside (.getUserNeedActiveStatus userId) with
  | .error e => return (.error e, true)
  | .ok needReactivateKey => return (.ok (), needReactivateKey)

def needActivateKey (accountId : Int) (isVerified : Except ErrCode Bool) : Step (Ret × Bool) :=
  if isVerified = .ok true then checkNeedReactivateUserKey accountId else pure (.ok (), true)

/-- The error and whether the account is to be marked. The mark does not wait for the outcome of what follows the
activation. -/
def unlockUserStorage (accountId : Int) (hasSecret : Bool) : Step (Ret × Bool) := do
  if !hasSecret then return (.ok (), false)
  let isVerified ← isOsAccountVerified accountId
  let (ret, needActivate) ← needActivateKey accountId isVerified
  if !needActivate then return (ret, false)
  let ret ← activateUserKey accountId iamMaxRetryTimes (.ok ())
  if ret = .error activeEl2Failed then return (ret, false)
  let _ ← outside (.prepareStartUser accountId)
  return (ret, true)

def unlockEnhancedStorage (accountId : Int) (isUpdateVerifiedStatus : Bool) : Step Ret := do
  if isUpdateVerifiedStatus then return .ok ()
  match ← outside (.getLockScreenStatus accountId) with
  | .ok true => return .ok ()
  | _ => outside (.unlockUserScreen accountId)

inductive AuthType
  | pin
  | face
  | fingerprint
  | recoveryKey
  | privatePin
  | customAuth
  | domain
deriving DecidableEq

structure AuthCallback where
  userId : Int
  authType : AuthType
  isQuestionAuth : Bool
  isRemoteAuth : Bool

structure AuthResult where
  isSuccess : Bool
  userId : Option Int
  hasSecret : Bool
  isTokenFromRemoteDevice : Option Bool

def unlockAccount (a : AuthCallback) (accountId : Int) (hasSecret : Bool) : Step (Ret × Bool) := do
  if (a.authType = .pin ∨ a.authType = .customAuth) ∧ !a.isRemoteAuth then
    if !hasSecret then return (.ok (), false)
    let (ret, isUpdateVerifiedStatus) ← unlockUserStorage accountId hasSecret
    if ret = .error activeEl2Failed then return (ret, isUpdateVerifiedStatus)
    return (← unlockEnhancedStorage accountId isUpdateVerifiedStatus, isUpdateVerifiedStatus)
  if a.authType = .recoveryKey then return (.ok (), false)
  return (← unlockEnhancedStorage accountId false, false)

def handleAuthResult (a : AuthCallback) (r : AuthResult) (accountId : Int) : Step (Ret × Bool) :=
  if a.authType = .domain then pure (.ok (), false) else unlockAccount a accountId r.hasSecret

def setUnlocked (accountId : Int) (isUpdateVerifiedStatus : Bool) : Step Unit := do
  if isUpdateVerifiedStatus then
    let _ ← setOsAccountIsVerified accountId true
  let _ ← outside (.setOsAccountIsLoggedIn accountId)
  return ()

def AuthCallback.onResult (a : AuthCallback) (r : AuthResult) : Step Unit := do
  let authedAccountId := r.userId.getD a.userId
  if !r.isSuccess then return ()
  if a.authType = .privatePin ∨ a.isQuestionAuth then return ()
  if a.isRemoteAuth ∧ r.isTokenFromRemoteDevice.getD false then return ()
  let isLeaving : Bool ← outside (.isOsAccountDeactivatingOrLocking authedAccountId)
  if isLeaving then return ()
  match ← handleAuthResult a r authedAccountId with
  | (.error _, _) => return ()
  | (.ok (), isUpdateVerifiedStatus) => setUnlocked authedAccountId isUpdateVerifiedStatus

def handleUnlockResult (userId : Int) (hasSecret : Bool) : Step Ret := do
  let isLeaving : Bool ← outside (.isOsAccountDeactivatingOrLocking userId)
  if isLeaving then return .ok ()
  let (ret, isUpdateVerifiedStatus) ← unlockUserStorage userId hasSecret
  if ret = .error activeEl2Failed then return ret
  match ← unlockEnhancedStorage userId isUpdateVerifiedStatus with
  | .error e => return .error e
  | .ok () => do
      setUnlocked userId isUpdateVerifiedStatus
      return .ok ()

end operations

section pays

variable {α : Type} {id : Int} {d : Debt Int Unit}

def Lit (id : Int) (d : Debt Int Unit) : Prop := ∀ key, d.known id = some key → key = some ()

def KnowsActive (id : Int) (d : Debt Int Unit) : Prop := d.known id = some (some ())

theorem KnowsActive.lit (h : KnowsActive id d) : Lit id d := by
  intro key hkey
  exact (Option.some.inj (h.symm.trans hkey)).symm

theorem pays_outside (o : Outside) : Pays discipline (outside o) := fun _ hd _ => hd

theorem ensures_outside {o : Outside} {f : Reply o → Step α} {Q : α → Debt Int Unit → Prop}
    (h : ∀ x, Ensures discipline Q (f x) d) : Ensures discipline Q (outside o >>= f) d := h

theorem ensures_ite {c : Prop} [Decidable c] {p q : Step α} {Q : α → Debt Int Unit → Prop}
    (hp : Ensures discipline Q p d) (hq : Ensures discipline Q q d) :
    Ensures discipline Q (if c then p else q) d := by
  split
  · exact hp
  · exact hq

theorem pays_ite {c : Prop} [Decidable c] {p q : Step α} (hp : Pays discipline p) (hq : Pays discipline q) :
    Pays discipline (if c then p else q) :=
  fun d hd => ensures_ite (hp d hd) (hq d hd)

theorem ensures_eraseVerified (h : ∀ k ≠ id, d.owed k = false) :
    Ensures discipline (fun _ d => d.Free) (eraseVerified id) d := by
  refine ⟨?_, ?_⟩
  · intro k c hc
    cases List.mem_singleton.mp hc
  · intro k
    by_cases hk : k = id
    · simp [Debt.pay, hk]
    · simp [Debt.pay, h k hk]

theorem pays_eraseVerified (id : Int) : Pays discipline (eraseVerified id) :=
  fun _ hd => ensures_eraseVerified fun k _ => hd k

theorem ensures_insertVerified (hd : d.Free) (hlit : Lit id d) :
    Ensures discipline (fun _ d => d.Free) (insertVerified id) d := by
  refine ⟨?_, ?_⟩
  · intro k c hc key hkey
    obtain ⟨rfl, -⟩ := Prod.mk.inj (List.mem_singleton.mp hc)
    exact hlit key hkey
  · intro k
    exact (Bool.and_eq_false_imp ..).mpr fun h => (by cases (hd k).symm.trans h)

structure Activated (id : Int) (d : Debt Int Unit) (ret : Ret) (d' : Debt Int Unit) : Prop where
  free : d'.Free
  lit : Lit id d'
  keeps : KnowsActive id d → KnowsActive id d'
  known : ret = .error activeEl2Failed ∨ unreached ret = true ∨ KnowsActive id d'

theorem activated_activeUserKey (hd : d.Free) :
    Ensures discipline (Activated id d) (activeUserKey id) d := by
  intro takes ret hcredible
  have hret := hcredible (id, some ()) List.mem_cons_self
  change Activated id d ret (if takes id then d.changed discipline.silent id (some ()) else d.doubt id (some ()))
  cases htakes : takes id with
  | true =>
      have hknown : KnowsActive id (d.changed discipline.silent id (some ())) := Function.update_self ..
      refine ⟨fun k => ?_, hknown.lit, fun _ => hknown, .inr (.inr hknown)⟩
      simp [Debt.changed, discipline, hd k]
  | false =>
      have hdoubt : (d.doubt id (some ())).known id = (d.known id).filter (· = some ()) := Function.update_self ..
      refine ⟨hd, ?_, ?_, ?_⟩
      · intro key hkey
        exact of_decide_eq_true (Option.filter_eq_some_iff.mp (hdoubt.symm.trans hkey)).2
      · intro hknown
        exact hdoubt.trans (by rw [hknown]; rfl)
      · rcases hret with hret | hret | hret
        · exact .inl hret
        · exact .inr (.inl hret)
        · cases htakes.symm.trans hret

structure Skipped (id : Int) (d : Debt Int Unit) (answer : Bool × Ret) (d' : Debt Int Unit) : Prop where
  free : d'.Free
  keeps : KnowsActive id d → KnowsActive id d'
  known : answer = (true, .ok ()) → KnowsActive id d'

theorem skipped_needSkipActiveUserKey (hd : d.Free) :
    Ensures discipline (Skipped id d) (needSkipActiveUserKey id) d := by
  have hsame : ∀ answer, answer ≠ (true, .ok ()) → Skipped id d answer d :=
    fun answer hanswer => ⟨hd, fun h => h, fun h => absurd h hanswer⟩
  refine ensures_outside fun isExist => ?_
  cases isExist with
  | false => exact hsame _ (by decide)
  | true =>
      refine ensures_outside fun proxy => ?_
      cases proxy with
      | error e => exact hsame _ (fun h => (by cases h))
      | ok _ =>
          refine ⟨fun key hkey => ?_, fun e _ => hsame _ (fun h => (by cases h))⟩
          have hlearned : (d.learn id key).known id = some key := Function.update_self ..
          have hkeeps : KnowsActive id d → KnowsActive id (d.learn id key) := fun h =>
            hlearned.trans (congrArg some (hkey _ h).symm)
          cases key with
          | some _ => exact ⟨hd, hkeeps, fun _ => hlearned⟩
          | none =>
              have hother : ∀ answer, answer ≠ (true, .ok ()) → Skipped id d answer (d.learn id none) :=
                fun answer hanswer => ⟨hd, hkeeps, fun h => absurd h hanswer⟩
              refine ensures_outside fun isExistPIN => ?_
              refine ensures_outside fun isDomainUnlockEnabled => ?_
              cases isExistPIN with
              | error e => exact hother _ (fun h => (by cases h))
              | ok isExistPIN =>
                  cases isDomainUnlockEnabled with
                  | error e => exact hother _ (fun h => (by cases h))
                  | ok isDomainUnlockEnabled =>
                      cases isDomainUnlockEnabled with
                      | true =>
                          cases isExistPIN with
                          | _ => exact hother _ (fun h => (by cases h))
                      | false =>
                          cases isExistPIN with
                          | true => exact hother _ (fun h => (by cases h))
                          | false => exact fun _ => hother _ (fun h => (by cases h))

structure Unlocked (id : Int) (d : Debt Int Unit) (ret : Ret) (d' : Debt Int Unit) : Prop where
  free : d'.Free
  keeps : KnowsActive id d → KnowsActive id d'
  lit : ret = .ok () → Lit id d'

theorem Unlocked.trans {d₁ d₂ : Debt Int Unit} {ret : Ret} (h : KnowsActive id d → KnowsActive id d₁)
    (hnext : Unlocked id d₁ ret d₂) : Unlocked id d ret d₂ :=
  ⟨hnext.free, fun hd => hnext.keeps (h hd), hnext.lit⟩

theorem ensures_startUnlocked (startUser : Bool) (errCode : Ret) :
    Ensures discipline (fun _ d' => d' = d) (startUnlocked id startUser errCode) d := by
  unfold startUnlocked
  split
  · rfl
  · cases startUser with
    | true => exact fun _ => rfl
    | false => rfl

theorem unlocked_unlockUser (hd : d.Free) (hlit : Lit id d) (startUser : Bool) (n : Nat) (errCode : Ret) :
    Ensures discipline (Unlocked id d) (unlockUser id startUser n errCode) d := by
  induction n generalizing d errCode with
  | zero => exact ⟨hd, fun h => h, fun _ => hlit⟩
  | succ n ih =>
      refine ensures_outside fun proxy => ?_
      cases proxy with
      | error e => exact ih hd hlit _
      | ok _ =>
          refine Ensures.bind ((skipped_needSkipActiveUserKey hd).mono ?_)
          rintro ⟨isNeedSkip, ret⟩ d₁ hskipped
          cases isNeedSkip with
          | true =>
              refine ⟨hskipped.free, hskipped.keeps, fun hret => ?_⟩
              exact (hskipped.known (congrArg (Prod.mk true) hret)).lit
          | false =>
              refine Ensures.bind ((activated_activeUserKey hskipped.free).mono ?_)
              intro code d₂ hactivated
              refine Ensures.bind ((ensures_startUnlocked startUser code).mono ?_)
              rintro errCode d₂ rfl
              have hkeeps : KnowsActive id d → KnowsActive id d₂ := fun h => hactivated.keeps (hskipped.keeps h)
              split
              · exact (ih hactivated.free hactivated.lit errCode).mono fun _ _ h => h.trans hkeeps
              · exact ⟨hactivated.free, hkeeps, fun _ => hactivated.lit⟩

structure Ready (osAccountInfo : AccountFile) (d : Debt Int Unit) : Prop where
  free : d.Free
  lit : Lit osAccountInfo.localId d
  known : osAccountInfo.isVerified = true → KnowsActive osAccountInfo.localId d

variable {osAccountInfo : AccountFile}

theorem ensures_sendToStorageAccountStart (h : Ready osAccountInfo d) :
    Ensures discipline (fun _ d => d.Free) (sendToStorageAccountStart osAccountInfo) d := by
  refine Ensures.bind ((unlocked_unlockUser h.free h.lit _ _ _).mono ?_)
  intro err d' hunlocked
  split
  · exact hunlocked.free
  · split
    · rename_i hmarked
      have hlit : Lit osAccountInfo.localId d' := by
        rcases hmarked with hverified | herr
        · exact (hunlocked.keeps (h.known hverified)).lit
        · exact hunlocked.lit herr
      exact Ensures.bind ((ensures_insertVerified hunlocked.free hlit).mono fun _ _ hd => hd)
    · exact hunlocked.free

theorem pays_getRealOsAccountInfoById (id : Int) : Pays discipline (getRealOsAccountInfoById find id) := by
  refine (pays_outside _).bind fun info => ?_
  cases info with
  | error e => exact Pays.pure _
  | ok info => exact Pays.bind (p := find id) (fun _ hd _ => hd) fun _ => Pays.pure _

/-- What a stop of the storage leaves to be told: that the key is inactive, if it succeeded. -/
theorem ensures_inactiveUserKey (hd : d.Free) :
    Ensures discipline (fun ret d => (∀ k ≠ id, d.owed k = false) ∧ (ret ≠ .ok () → d.Free)) (inactiveUserKey id) d := by
  intro takes ret hcredible
  have hret := hcredible (id, none) List.mem_cons_self
  change (∀ k ≠ id, (if takes id then d.changed discipline.silent id none else d.doubt id none).owed k = false) ∧
    (ret ≠ .ok () → (if takes id then d.changed discipline.silent id none else d.doubt id none).Free)
  cases htakes : takes id with
  | true =>
      refine ⟨fun k hk => ?_, fun herror => ?_⟩
      · simp [Debt.changed, hk, hd k]
      · cases htakes.symm.trans (hret.resolve_left herror)
  | false => exact ⟨fun k _ => hd k, fun _ => hd⟩

theorem ensures_sendToStorageAccountStop (hd : d.Free) :
    Ensures discipline (fun ret d => (∀ k ≠ id, d.owed k = false) ∧ (ret ≠ .ok () → d.Free))
      (sendToStorageAccountStop id) d := by
  have hsame : ∀ ret : Ret, (∀ k ≠ id, d.owed k = false) ∧ (ret ≠ .ok () → d.Free) :=
    fun _ => ⟨fun k _ => hd k, fun _ => hd⟩
  refine ensures_outside fun proxy => ?_
  cases proxy with
  | error e => exact hsame _
  | ok _ =>
      refine ensures_outside fun stopped => ?_
      cases stopped with
      | error e => exact hsame _
      | ok _ =>
          refine Ensures.bind ((ensures_inactiveUserKey hd).mono ?_)
          intro ret d' hret
          cases ret with
          | error e => exact ⟨hret.1, fun _ => hret.2 fun h => (by cases h)⟩
          | ok _ => exact ⟨hret.1, fun h => absurd rfl h⟩

theorem ensures_deactivateOsAccountByInfo
    (h : ∀ k ≠ osAccountInfo.localId, d.owed k = false) :
    Ensures discipline (fun _ d => d.Free) (deactivateOsAccountByInfo osAccountInfo) d :=
  Ensures.bind ((ensures_eraseVerified h).mono fun _ _ hd _ => hd)

theorem pays_deactivateOsAccountByInfo (osAccountInfo : AccountFile) :
    Pays discipline (deactivateOsAccountByInfo osAccountInfo) :=
  fun _ hd => ensures_deactivateOsAccountByInfo fun k _ => hd k

theorem pays_deactivateOsAccountById (id : Int) : Pays discipline (deactivateOsAccountById id) := by
  refine (pays_getRealOsAccountInfoById id).bind fun info => ?_
  cases info with
  | error e => exact Pays.pure _
  | ok osAccountInfo => exact pays_deactivateOsAccountByInfo osAccountInfo

theorem pays_sendMsgForAccountDeactivate (osAccountInfo : AccountFile) (isStopStorage : Bool) :
    Pays discipline (sendMsgForAccountDeactivate osAccountInfo isStopStorage) := by
  refine (pays_outside _).bind fun ret => ?_
  cases ret with
  | error e => exact Pays.pure _
  | ok _ =>
      refine pays_ite (pays_deactivateOsAccountByInfo osAccountInfo) ?_
      intro d hd
      refine Ensures.bind ((ensures_sendToStorageAccountStop hd).mono ?_)
      intro ret d' hret
      cases ret with
      | error e => exact Ensures.bind ((ensures_eraseVerified hret.1).mono fun _ _ hd => hd)
      | ok _ => exact ensures_deactivateOsAccountByInfo hret.1

theorem pays_deactivateOsAccount (id : Int) (isStopStorage : Bool) :
    Pays discipline (deactivateOsAccount id isStopStorage) := by
  refine (pays_outside _).bind fun added => pays_ite (Pays.pure _) ?_
  refine (pays_getRealOsAccountInfoById id).bind fun info => ?_
  cases info with
  | error e => exact Pays.pure _
  | ok osAccountInfo =>
      refine pays_ite (Pays.pure _) ?_
      cases isValidOsAccount osAccountInfo.toOsAccountInfo with
      | error e => exact Pays.pure _
      | ok _ => exact pays_sendMsgForAccountDeactivate osAccountInfo isStopStorage

variable (config : Config)

theorem pays_updateAccountToBackground (oldId : Int) :
    Pays discipline (updateAccountToBackground config oldId) := by
  refine (pays_outside _).bind fun info => ?_
  cases info with
  | error e => exact Pays.pure _
  | ok oldOsAccountInfo =>
      exact pays_ite (Pays.pure _)
        (pays_ite ((pays_deactivateOsAccount oldId false).bind fun _ => Pays.pure _) (Pays.pure _))

theorem pays_sendMsgForAccountStop (osAccountInfo : AccountFile) :
    Pays discipline (sendMsgForAccountStop osAccountInfo) := by
  refine (pays_outside _).bind fun ret => ?_
  cases ret with
  | error e => exact Pays.pure _
  | ok _ =>
      refine (pays_outside _).bind fun ret => ?_
      cases ret with
      | error e => exact Pays.pure _
      | ok _ =>
          intro d hd
          refine Ensures.bind ((ensures_sendToStorageAccountStop hd).mono ?_)
          intro errCode d' hret
          split
          · rename_i herror
            exact hret.2 herror.1
          · exact ensures_deactivateOsAccountByInfo hret.1

theorem pays_prepareRemoveOsAccount (osAccountInfo : AccountFile) (isCleanGarbage : Bool) :
    Pays discipline (prepareRemoveOsAccount osAccountInfo isCleanGarbage) := by
  refine (pays_outside _).bind fun ret => ?_
  cases ret with
  | error e => exact Pays.pure _
  | ok _ =>
      refine pays_ite (Pays.pure _) ?_
      refine Pays.bind (p := resetForegroundBeforeRemove osAccountInfo) (pays_ite (pays_outside _) (Pays.pure _))
        fun errCode => ?_
      cases errCode with
      | error e => exact Pays.pure _
      | ok _ => exact (pays_eraseVerified _).bind fun _ => pays_sendMsgForAccountStop osAccountInfo

theorem pays_removeOsAccount (id : Int) : Pays discipline (removeOsAccount id) := by
  refine (pays_outside _).bind fun added => pays_ite (Pays.pure _) ?_
  refine (pays_getRealOsAccountInfoById id).bind fun info => ?_
  cases info with
  | error e => exact Pays.pure _
  | ok osAccountInfo =>
      refine (pays_outside _).bind fun ret => ?_
      cases ret with
      | error e => exact Pays.pure _
      | ok _ =>
          refine (pays_outside _).bind fun ret => ?_
          cases ret with
          | error e => exact Pays.pure _
          | ok _ =>
              refine (pays_prepareRemoveOsAccount osAccountInfo false).bind fun ret => ?_
              cases ret with
              | error e => exact Pays.pure _
              | ok _ => exact pays_outside _

theorem pays_lockOsAccount (localId : Int) : Pays discipline (lockOsAccount localId) := by
  refine (pays_outside _).bind fun available => pays_ite (Pays.pure _) ?_
  refine (pays_outside _).bind fun added => pays_ite (Pays.pure _) ?_
  refine (pays_getRealOsAccountInfoById localId).bind fun info => ?_
  cases info with
  | error e => exact Pays.pure _
  | ok osAccountInfo =>
      dsimp only
      cases isValidOsAccount osAccountInfo.toOsAccountInfo with
      | error e => exact Pays.pure _
      | ok _ =>
          refine pays_ite (Pays.pure _) ?_
          intro d hd
          refine Ensures.bind ((ensures_inactiveUserKey hd).mono ?_)
          intro ret d' hret
          cases ret with
          | error e => exact hret.2 fun h => (by cases h)
          | ok _ => exact Ensures.bind ((ensures_eraseVerified hret.1).mono fun _ _ hd => hd)

structure Fresh (d : Debt Int Unit) : Prop where
  free : d.Free
  lit : ∀ id, Lit id d

theorem fresh_clear : Fresh .clear := ⟨fun _ => rfl, fun _ _ h => (by cases h)⟩

theorem Fresh.ready_default (h : Fresh d) (id : Int) : Ready { localId := id } d :=
  ⟨h.free, h.lit id, fun h => (by cases h)⟩

theorem Fresh.learn (h : Fresh d) (id : Int) : Fresh (d.learn id (some ())) := by
  refine ⟨h.free, fun j key hkey => ?_⟩
  by_cases hj : j = id
  · subst hj
    have hself : (d.learn j (some ())).known j = some (some ()) := Function.update_self ..
    exact (Option.some.inj (hself.symm.trans hkey)).symm
  · exact h.lit j key ((Function.update_of_ne hj ..).symm.trans hkey)

theorem ready_rely (h : Fresh d) (id : Int) (info : AccountFile) :
    Ensures discipline (fun info d => Fresh d ∧ Ready info d)
      (rely id >>= fun isVerified => pure { info with localId := id, isVerified := isVerified.isSome }) d := by
  refine ⟨h.free id, ⟨h, h.free, h.lit id, fun h => (by cases h)⟩, ?_⟩
  rintro c key rfl -
  have hlearned := h.learn id
  exact ⟨hlearned, hlearned.free, hlearned.lit id, fun _ => Function.update_self ..⟩

theorem ready_getRealOsAccountInfoById (h : Fresh d) (id : Int) :
    Ensures discipline (fun info d => Fresh d ∧ ∀ osAccountInfo, info = .ok osAccountInfo → Ready osAccountInfo d)
      (getRealOsAccountInfoById rely id) d := by
  refine ensures_outside fun info => ?_
  cases info with
  | error e => exact ⟨h, fun _ h => (by cases h)⟩
  | ok info =>
      obtain ⟨howed, hnone, hsome⟩ := ready_rely h id info
      refine ⟨howed, ⟨hnone.1, fun _ h => Except.ok.inj h ▸ hnone.2⟩, fun c key hc hkey => ?_⟩
      have hready := hsome c key hc hkey
      exact ⟨hready.1, fun _ h => Except.ok.inj h ▸ hready.2⟩

theorem ready_prepareActivateOsAccount (h : Fresh d) (id : Int) (displayId : Nat) :
    Ensures discipline (fun info d => d.Free ∧ ∀ osAccountInfo, info = .ok osAccountInfo → Ready osAccountInfo d)
      (prepareActivateOsAccount id displayId) d := by
  refine Ensures.bind ((ready_getRealOsAccountInfoById h id).mono ?_)
  rintro info d ⟨h, hready⟩
  have herror : ∀ e : ErrCode, d.Free ∧ ∀ osAccountInfo, Except.error e = .ok osAccountInfo → Ready osAccountInfo d :=
    fun e => ⟨h.free, fun _ h => (by cases h)⟩
  refine ensures_outside fun foregroundId => ?_
  cases info with
  | error e =>
      dsimp only
      split
      · exact herror _
      · split
        · exact herror _
        · refine ensures_outside fun ret => ?_
          cases ret with
          | error e => exact herror e
          | ok _ =>
              refine ensures_outside fun isOversize => ?_
              cases isOversize with
              | true => exact herror _
              | false => exact ⟨h.free, fun _ hinfo => Except.ok.inj hinfo ▸ h.ready_default id⟩
  | ok osAccountInfo =>
      dsimp only
      split
      · exact herror _
      · refine ensures_outside fun ret => ?_
        cases ret with
        | error e => exact herror e
        | ok _ =>
            dsimp only
            cases isValidOsAccount osAccountInfo.toOsAccountInfo with
            | error e => exact herror e
            | ok _ =>
                refine ensures_outside fun isOversize => ?_
                split
                · exact herror _
                · exact ⟨h.free, fun _ hinfo => hready _ hinfo⟩

theorem ensures_sendMsgForAccountActivate (h : Ready osAccountInfo d)
    (config : Config) (startStorage : Bool) (displayId : Nat) (isAppRecovery : Bool) :
    Ensures discipline (fun _ d => d.Free)
      (sendMsgForAccountActivate config osAccountInfo startStorage displayId isAppRecovery) d := by
  refine ensures_outside fun oldId => ?_
  have hstarted : Ensures discipline (fun _ d => d.Free) (startStorageOf osAccountInfo startStorage) d := by
    cases startStorage with
    | true => exact ensures_sendToStorageAccountStart h
    | false => exact h.free
  have hboth : Ensures discipline (fun _ d => d.Free)
      (sendToStorageAndAMSAccountStart osAccountInfo startStorage isAppRecovery) d := by
    refine Ensures.bind (hstarted.mono ?_)
    intro errCode d hd
    exact ensures_ite hd fun _ => hd
  refine Ensures.bind (hboth.mono ?_)
  intro ret d hd
  cases ret with
  | error e => exact hd
  | ok _ =>
      cases oldId with
      | none => exact hd
      | some oldId =>
          dsimp only
          split
          · exact ((pays_updateAccountToBackground config oldId).bind fun _ => Pays.pure _) d hd
          · exact hd

theorem settles_activateOsAccount (id : Int) (startStorage : Bool) (displayId : Nat)
    (isAppRecovery : Bool) :
    Settles discipline (activateOsAccount config id startStorage displayId isAppRecovery) := by
  refine ensures_outside fun added => ?_
  cases added with
  | false => exact fun _ => rfl
  | true =>
      refine Ensures.bind ((ready_prepareActivateOsAccount fresh_clear id displayId).mono ?_)
      rintro info d ⟨hd, hready⟩
      cases info with
      | error e =>
          cases e with
          | _ => exact hd
      | ok osAccountInfo =>
          exact ensures_sendMsgForAccountActivate (hready _ rfl) config startStorage displayId isAppRecovery

theorem settles_activateOsAccountInBackground (id : Int) :
    Settles discipline (activateOsAccountInBackground id) := by
  refine Ensures.bind ((ready_getRealOsAccountInfoById fresh_clear id).mono ?_)
  rintro info d ⟨h, hready⟩
  cases info with
  | error e => exact h.free
  | ok osAccountInfo =>
      dsimp only
      cases isValidOsAccount osAccountInfo.toOsAccountInfo with
      | error e => exact h.free
      | ok _ =>
          refine Ensures.bind ((ensures_sendToStorageAccountStart (hready _ rfl)).mono ?_)
          exact fun _ d hd _ => hd

theorem ready_retryToGetAccount (h : Fresh d) (hready : Ready osAccountInfo d) :
    Ensures discipline (fun info d => Ready info d) (retryToGetAccount osAccountInfo) d := by
  refine ensures_outside fun first => ?_
  cases first with
  | none => exact hready
  | some first => exact (ready_rely h first.localId first).mono fun _ _ h => h.2

theorem ready_prepareForDefaultAccount (activatedId : Int) :
    Ensures discipline (fun info d => Ready info d) (prepareForDefaultAccount activatedId) .clear := by
  refine Ensures.bind ((ready_getRealOsAccountInfoById fresh_clear activatedId).mono ?_)
  rintro info d ⟨h, hready⟩
  cases info with
  | ok osAccountInfo => exact ensures_ite (hready _ rfl) (ready_retryToGetAccount h (hready _ rfl))
  | error e =>
      have hdefault := h.ready_default startUserId
      exact ensures_ite (ready_retryToGetAccount h hdefault) hdefault

theorem settles_activateDefaultOsAccount (activatedId : Int) :
    Settles discipline (activateDefaultOsAccount config activatedId) := by
  refine Ensures.bind ((ready_prepareForDefaultAccount activatedId).mono ?_)
  intro osAccountInfo d h
  exact ensures_sendMsgForAccountActivate h config true defaultDisplayId true

theorem activated_activateUserKey (hd : d.Free) (hlit : Lit id d) {n : Nat} {errCode : Ret}
    (h : 0 < n ∨ unreached errCode = true) :
    Ensures discipline (Activated id d) (activateUserKey id n errCode) d := by
  induction n generalizing d errCode with
  | zero => exact ⟨hd, hlit, fun h => h, .inr (.inl (h.resolve_left (Nat.lt_irrefl 0)))⟩
  | succ n ih =>
      refine ensures_outside fun proxy => ?_
      cases proxy with
      | error e => exact ih hd hlit (.inr rfl)
      | ok _ =>
          refine Ensures.bind ((activated_activeUserKey hd).mono ?_)
          intro code d' hactivated
          split
          · rename_i hunreached
            exact (ih hactivated.free hactivated.lit (.inr hunreached)).mono fun _ _ h =>
              ⟨h.free, h.lit, fun hknown => h.keeps (hactivated.keeps hknown), h.known⟩
          · exact hactivated

theorem ensures_isOsAccountVerified {Q : Except ErrCode Bool → Debt Int Unit → Prop} (h : ∀ x, Q x d) :
    Ensures discipline Q (isOsAccountVerified id) d := by
  refine Ensures.bind (ensures_outside fun info => ?_)
  cases info with
  | error e => exact h _
  | ok info => exact fun c => h _

/-- An account that is to be marked has an active key, unless the storage service was not reached at last. -/
structure Marked (id : Int) (answer : Ret × Bool) (d : Debt Int Unit) : Prop where
  free : d.Free
  lit : Lit id d
  known : answer.2 = true → unreached answer.1 = true ∨ KnowsActive id d

theorem Marked.unmarked (hd : d.Free) (hlit : Lit id d) (ret : Ret) : Marked id (ret, false) d :=
  ⟨hd, hlit, fun h => (by cases h)⟩

theorem ensures_needActivateKey {Q : Ret × Bool → Debt Int Unit → Prop} (isVerified : Except ErrCode Bool)
    (h : ∀ answer, Q answer d) : Ensures discipline Q (needActivateKey id isVerified) d := by
  refine ensures_ite (ensures_outside fun need => ?_) (h _)
  cases need with
  | error e => exact h _
  | ok need => exact h _

theorem marked_unlockUserStorage (hd : d.Free) (hlit : Lit id d) (hasSecret : Bool) :
    Ensures discipline (Marked id) (unlockUserStorage id hasSecret) d := by
  refine ensures_ite (Marked.unmarked hd hlit _) ?_
  refine Ensures.bind (ensures_isOsAccountVerified fun isVerified => ?_)
  refine Ensures.bind (ensures_needActivateKey isVerified ?_)
  rintro ⟨ret, need⟩
  refine ensures_ite (Marked.unmarked hd hlit _) ?_
  refine Ensures.bind ((activated_activateUserKey hd hlit (.inl (by decide))).mono ?_)
  intro ret d hactivated
  by_cases hret : ret = .error activeEl2Failed
  · rw [if_pos hret]
    exact Marked.unmarked hactivated.free hactivated.lit ret
  · rw [if_neg hret]
    exact fun _ => ⟨hactivated.free, hactivated.lit, fun _ => hactivated.known.resolve_left hret⟩

theorem ensures_unlockEnhancedStorage (id : Int) (isUpdateVerifiedStatus : Bool) :
    Ensures discipline (fun _ d' => d' = d) (unlockEnhancedStorage id isUpdateVerifiedStatus) d := by
  refine ensures_ite rfl (ensures_outside fun status => ?_)
  cases status with
  | error e => exact fun _ => rfl
  | ok status =>
      cases status with
      | true => rfl
      | false => exact fun _ => rfl

structure Markable (id : Int) (d : Debt Int Unit) : Prop where
  free : d.Free
  lit : Lit id d

theorem Marked.markable {answer : Ret × Bool} (h : Marked id answer d) : Markable id d := ⟨h.free, h.lit⟩

theorem markable_unlockAccount (h : Markable id d) (a : AuthCallback) (hasSecret : Bool) :
    Ensures discipline (fun _ d => Markable id d) (unlockAccount a id hasSecret) d := by
  have henhanced : ∀ {d : Debt Int Unit}, Markable id d → ∀ isUpdate : Bool,
      Ensures discipline (fun _ d => Markable id d)
        (unlockEnhancedStorage id isUpdate >>= fun ret => pure (ret, isUpdate)) d := by
    intro d h isUpdate
    refine Ensures.bind ((ensures_unlockEnhancedStorage id isUpdate).mono ?_)
    rintro ret _ rfl
    exact h
  refine ensures_ite (ensures_ite h ?_) (ensures_ite h (henhanced h false))
  refine Ensures.bind ((marked_unlockUserStorage h.free h.lit hasSecret).mono ?_)
  rintro ⟨ret, isUpdate⟩ d hmarked
  exact ensures_ite hmarked.markable (henhanced hmarked.markable isUpdate)

theorem ensures_setOsAccountIsVerified (h : Markable id d) (isVerified : Bool) :
    Ensures discipline (fun _ d => d.Free) (setOsAccountIsVerified id isVerified) d := by
  refine Ensures.bind (ensures_outside fun info => ?_)
  cases info with
  | error e => exact h.free
  | ok info =>
      intro c
      refine ensures_ite h.free ?_
      cases isVerified with
      | true => exact Ensures.bind ((ensures_insertVerified h.free h.lit).mono fun _ _ hd => hd)
      | false => exact Ensures.bind ((pays_eraseVerified id d h.free).mono fun _ _ hd => hd)

theorem ensures_setUnlocked (h : Markable id d) (isUpdateVerifiedStatus : Bool) :
    Ensures discipline (fun _ d => d.Free) (setUnlocked id isUpdateVerifiedStatus) d := by
  cases isUpdateVerifiedStatus with
  | true => exact Ensures.bind ((ensures_setOsAccountIsVerified h true).mono fun _ _ hd _ => hd)
  | false => exact fun _ => h.free

theorem markable_clear (id : Int) : Markable id .clear := ⟨fun _ => rfl, fun _ h => (by cases h)⟩

theorem settles_onResult (a : AuthCallback) (r : AuthResult) : Settles discipline (a.onResult r) := by
  refine ensures_ite (fun _ => rfl) (ensures_ite (fun _ => rfl) (ensures_ite (fun _ => rfl) ?_))
  refine ensures_outside fun (isLeaving : Bool) => ensures_ite (fun _ => rfl) ?_
  have hresult : Ensures discipline (fun _ d => Markable (r.userId.getD a.userId) d)
      (handleAuthResult a r (r.userId.getD a.userId)) .clear :=
    ensures_ite (markable_clear _) (markable_unlockAccount (markable_clear _) a r.hasSecret)
  refine Ensures.bind (hresult.mono ?_)
  rintro ⟨ret, isUpdate⟩ d h
  cases ret with
  | error e => exact h.free
  | ok _ => exact ensures_setUnlocked h isUpdate

theorem settles_handleUnlockResult (userId : Int) (hasSecret : Bool) :
    Settles discipline (handleUnlockResult userId hasSecret) := by
  refine ensures_outside fun (isLeaving : Bool) => ensures_ite (fun _ => rfl) ?_
  have h := markable_clear userId
  refine Ensures.bind ((marked_unlockUserStorage h.free h.lit hasSecret).mono ?_)
  rintro ⟨ret, isUpdate⟩ d hmarked
  refine ensures_ite hmarked.free ?_
  refine Ensures.bind ((ensures_unlockEnhancedStorage userId isUpdate).mono ?_)
  rintro ret _ rfl
  cases ret with
  | error e => exact hmarked.free
  | ok _ => exact Ensures.bind ((ensures_setUnlocked hmarked.markable isUpdate).mono fun _ _ hd => hd)

end pays

inductive Operation
  | isOsAccountVerified (id : Int)
  | activateOsAccount (id : Int) (startStorage : Bool) (displayId : Nat) (isAppRecovery : Bool)
  | activateOsAccountInBackground (id : Int)
  | activateDefaultOsAccount (activatedId : Int)
  | deactivateOsAccount (id : Int) (isStopStorage : Bool)
  | deactivateOsAccountById (id : Int)
  | removeOsAccount (id : Int)
  | lockOsAccount (localId : Int)
  | setOsAccountIsVerified (id : Int) (isVerified : Bool)
  | onResult (a : AuthCallback) (r : AuthResult)
  | handleUnlockResult (userId : Int) (hasSecret : Bool)

def forget {α : Type} (p : Step α) : Step Unit := p >>= fun _ => pure ()

def program (config : Config) : Operation → Step Unit
  | .isOsAccountVerified id => forget (isOsAccountVerified id)
  | .activateOsAccount id startStorage displayId isAppRecovery =>
      forget (activateOsAccount config id startStorage displayId isAppRecovery)
  | .activateOsAccountInBackground id => forget (activateOsAccountInBackground id)
  | .activateDefaultOsAccount activatedId => forget (activateDefaultOsAccount config activatedId)
  | .deactivateOsAccount id isStopStorage => forget (deactivateOsAccount id isStopStorage)
  | .deactivateOsAccountById id => forget (deactivateOsAccountById id)
  | .removeOsAccount id => forget (removeOsAccount id)
  | .lockOsAccount localId => forget (lockOsAccount localId)
  | .setOsAccountIsVerified id isVerified => forget (setOsAccountIsVerified id isVerified)
  | .onResult a r => a.onResult r
  | .handleUnlockResult userId hasSecret => forget (handleUnlockResult userId hasSecret)

theorem settles_forget {α : Type} {p : Step α} (h : Settles discipline p) : Settles discipline (forget p) :=
  Ensures.bind (h.mono fun _ _ hd => hd)

theorem settles_program (config : Config) (op : Operation) : Settles discipline (program config op) := by
  cases op with
  | isOsAccountVerified id => exact settles_forget (ensures_isOsAccountVerified fun _ _ => rfl)
  | activateOsAccount id startStorage displayId isAppRecovery =>
      exact settles_forget (settles_activateOsAccount config id startStorage displayId isAppRecovery)
  | activateOsAccountInBackground id => exact settles_forget (settles_activateOsAccountInBackground id)
  | activateDefaultOsAccount activatedId => exact settles_forget (settles_activateDefaultOsAccount config activatedId)
  | deactivateOsAccount id isStopStorage => exact settles_forget (pays_deactivateOsAccount id isStopStorage).settles
  | deactivateOsAccountById id => exact settles_forget (pays_deactivateOsAccountById id).settles
  | removeOsAccount id => exact settles_forget (pays_removeOsAccount id).settles
  | lockOsAccount localId => exact settles_forget (pays_lockOsAccount localId).settles
  | setOsAccountIsVerified id isVerified =>
      exact settles_forget (ensures_setOsAccountIsVerified (markable_clear id) isVerified)
  | onResult a r => exact settles_onResult a r
  | handleUnlockResult userId hasSecret => exact settles_forget (settles_handleUnlockResult userId hasSecret)

abbrev Store : Type := SourcedCache.Store Int Unit Unit

abbrev Env : Type := SourcedCache.Env Int ErrCode Reply

abbrev System (τ : Type) : Type := SourcedCache.State Int Unit Unit ErrCode Reply τ

abbrev Event (τ : Type) : Type := SourcedCache.Event Int ErrCode Reply τ Operation

abbrev next {τ : Type} [DecidableEq τ] (config : Config) : System τ → Event τ → System τ :=
  step discipline.silent (program config)

def booted {τ : Type} (keys : Int → Option Unit) : System τ :=
  { store := { source := keys, cache := fun _ => none } }

@[simp]
theorem exec_find (env : Env) (store : Store) (id : Int) :
    Program.exec (handle env) (find id) store = (store.cache id, store) := rfl

@[simp]
theorem exec_outside (env : Env) (store : Store) (o : Outside) :
    Program.exec (handle env) (outside o) store = (env.reply o, store) := rfl

theorem cache_of_isOsAccountVerified {env : Env} {store : Store} {id : Int}
    (h : (Program.exec (handle env) (isOsAccountVerified id) store).1 = .ok true) : store.cache id = some () := by
  cases hinfo : env.reply (.getOsAccountInfoById id) with
  | error e =>
      have hexec : (Program.exec (handle env) (isOsAccountVerified id) store).1 = .error .accountNotExistError := by
        unfold isOsAccountVerified getRealOsAccountInfoById
        simp [hinfo]
      cases hexec.symm.trans h
  | ok info =>
      have hexec : (Program.exec (handle env) (isOsAccountVerified id) store).1 = .ok (store.cache id).isSome := by
        unfold isOsAccountVerified getRealOsAccountInfoById
        simp [hinfo]
      obtain ⟨_, hmark⟩ := Option.isSome_iff_exists.mp (Except.ok.inj (hexec.symm.trans h))
      exact hmark

/-- Whatever starts, unlocks, stops, locks and removes accounts at the same time: a verified account has an active
key, as long as no call makes a key inactive that another call knows to be active and has not marked yet. -/
theorem verified_active {τ : Type} [DecidableEq τ] (config : Config) (keys : Int → Option Unit)
    (events : List (Event τ))
    (hevents : Machine.Meets (next config) (fun s e => Undisturbed s discipline e) (booted keys) events) (id : Int)
    (hid : Settled (Machine.run (next config) (booted keys) events) id) (env : Env)
    (hverified : (Program.exec (handle env) (isOsAccountVerified id)
      (Machine.run (next config) (booted keys) events).store).1 = .ok true) :
    (Machine.run (next config) (booted keys) events).store.source id = some () := by
  have hbooted : Coherent (booted keys : System τ) discipline := coherent_of_empty fun _ => rfl
  have h := coherent_run (settles_program config) hbooted hevents
  exact h.faithful id () hid (cache_of_isOsAccountVerified hverified)

def alice : AccountFile :=
  { localId := 100, localName := "alice", isActived := true, isCreateCompleted := true, isLoggedIn := true }

def replies : (o : Outside) → Reply o
  | .getOsAccountInfoById _ => .ok alice
  | .isExistPIN _ | .isDomainUnlockEnabled _ | .getUserNeedActiveStatus _ | .getLockScreenStatus _ => .ok false
  | .checkAndAddLocalIdOperating _ | .isPluginAvailable => true
  | .isSecretFlagExist _ | .isLoggedInAccountsOversize | .isOsAccountDeactivatingOrLocking _ => false
  | .foregroundOn _ => none
  | .firstOsAccount => some alice
  | .deleteSecretFlag _ => ()
  | .getStorageProxy | .prepareStartUser _ | .stopUser _ | .unlockUserScreen _ | .validateDisplayForActivation _ _
  | .sendToAMSAndSamgrAccountStart _ | .sendToAMSAccountStop _ | .checkAllAppDied _ | .sendToAMSAccountDeactivate _
  | .updateOsAccount _ | .sendToIDMAccountDelete _ | .sendToStorageAccountCreateComplete _ | .removeOsAccountData _
  | .setOsAccountIsLoggedIn _ => .ok ()

def calm : Env := ⟨none, fun _ => true, replies⟩

def config : Config := ⟨2, false, true⟩

def pinEntered : Operation :=
  .onResult ⟨100, .pin, false, false⟩ ⟨true, some 100, true, none⟩

def steps (t : Bool) (env : Env) (n : Nat) : List (Event Bool) := List.replicate n (.step t env)

/-- The account is stopped, started without a secret flag and unlocked, while another account is stopped. -/
def unlocked : List (Event Bool) :=
  .start false (.deactivateOsAccount 100 true) :: steps false calm 20 ++ [.start false pinEntered] ++
    steps false calm 4 ++ [.start true (.deactivateOsAccount 101 true)] ++ steps true calm 20 ++ steps false calm 10

theorem verified_active_alice :
    (Machine.run (next config) (booted fun _ => some ()) unlocked).store.source 100 = some () :=
  verified_active config (fun _ => some ()) unlocked (by decide +kernel) 100 (by decide +kernel) calm (by decide +kernel)

def overtaken : List (Event Bool) :=
  .start false pinEntered :: steps false calm 5 ++ [.start true (.deactivateOsAccount 100 true)] ++
    steps true calm 20 ++ steps false calm 10

theorem verified_inactive_overtaken :
    (Program.exec (handle calm) (isOsAccountVerified 100)
        (Machine.run (next config) (booted fun _ => none) overtaken).store).1 = .ok true ∧
      (Machine.run (next config) (booted fun _ => none) overtaken).store.source 100 = none := by
  decide +kernel

def lost : Env := ⟨some .ipcError, fun _ => false, replies⟩

theorem verified_inactive_lost :
    (Program.exec (handle calm) (isOsAccountVerified 100)
        (Machine.run (next config) (booted fun _ => none) (.start false pinEntered :: steps false lost 60)).store).1 =
        .ok true ∧
      (Machine.run (next config) (booted fun _ => none)
        (.start false pinEntered :: steps false lost 60)).store.source 100 = none := by
  decide +kernel

end OsAccount.VerifiedAccounts
