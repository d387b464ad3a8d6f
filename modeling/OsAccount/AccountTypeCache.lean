import OsAccount.AccountWriters
import OsAccount.OperatingMarker
import OsAccount.SourcedCache

namespace OsAccount.AccountTypeCache

open Function AccountList SourcedCache
open AccountConstraints (adminConstraints constraintAdminAuthorize)

def teeNotAllowRecovery : ErrCode := .sys 4194361

def maxRetryTimes : Nat := 3

/-- The calls that concern neither the cache nor the trusted environment. Their outcome is a reply. -/
inductive Outside
  | getOsAccountInfoById (id : Int)
  | getOsAccountIdList
  | getOsAccountList
  | updateOsAccount (osAccountInfo : AccountFile)
  | isOsAccountExists (id : Int)
  | setNextLocalId (id : Int)
  | getAllowCreateId
  | checkAndAddLocalIdOperating (id : Int)
  | checkTypeNumber (type : OsAccountType)
  | isBelowMaxOsAccountNum
  | fillOsAccountInfo (id : Int)
  | insertOsAccount (osAccountInfo : AccountFile)
  | sendToStorageAccountCreateComplete (id : Int)
  | sendToIDMAccountDelete (id : Int)
  | resetForegroundBeforeRemove (id : Int)
  | removeOsAccountData (id : Int)
  | prepareAddUser (id : Int)
  | sendMsgForAccountCreate (id : Int)
  | onAccountUnBound (id : Int)

def Reply : Outside → Type
  | .getOsAccountInfoById _ | .fillOsAccountInfo _ => Except ErrCode AccountFile
  | .getOsAccountIdList => Except ErrCode (List Int)
  | .getOsAccountList => Except ErrCode (List AccountFile)
  | .isOsAccountExists _ => Except ErrCode Bool
  | .getAllowCreateId => Except ErrCode Int
  | .checkAndAddLocalIdOperating _ | .isBelowMaxOsAccountNum => Bool
  | .resetForegroundBeforeRemove _ => List Int × Ret
  | .updateOsAccount _ | .setNextLocalId _ | .checkTypeNumber _ | .insertOsAccount _
  | .sendToStorageAccountCreateComplete _ | .sendToIDMAccountDelete _ | .removeOsAccountData _ | .prepareAddUser _
  | .sendMsgForAccountCreate _ | .onAccountUnBound _ => Ret

abbrev Access : Type := SourcedCache.Access Int OsAccountType (OsAccountType × Bool) Outside

abbrev Answer : Access → Type := SourcedCache.Answer ErrCode Reply

abbrev Step : Type → Type := Program Access Answer

def Agrees : OsAccountType × Bool → Option OsAccountType → Prop
  | (type, false), known => known = some type
  | (_, true), known => known = none

instance : (c : OsAccountType × Bool) → (known : Option OsAccountType) → Decidable (Agrees c known)
  | (type, false), known => inferInstanceAs (Decidable (known = some type))
  | (_, true), known => inferInstanceAs (Decidable (known = none))

def discipline : Discipline Int OsAccountType (OsAccountType × Bool) ErrCode where
  agrees := Agrees
  silent _ := false
  credible _ _ _ := True
  agrees_of_silent _ _ h := (by cases h)

instance (c : OsAccountType × Bool) (known : Option OsAccountType) : Decidable (discipline.agrees c known) :=
  inferInstanceAs (Decidable (Agrees c known))

instance (values : List (Int × Option OsAccountType)) (takes : Int → Bool) (ret : Ret) :
    Decidable (discipline.credible values takes ret) := inferInstanceAs (Decidable True)

section operations

def find (id : Int) : Step (Option (OsAccountType × Bool)) := @Program.call Access Answer (.find id)

def ask (id : Int) : Step (Except ErrCode (Option OsAccountType)) := @Program.call Access Answer (.ask id)

def change (id : Int) (type : Option OsAccountType) : Step Ret := @Program.call Access Answer (.change id type)

def setAccountTypeInCache (id : Int) (type : OsAccountType × Bool) : Step Unit :=
  @Program.call Access Answer (.fill [(id, some type)])

def clearAccountCache (id : Int) : Step Unit := @Program.call Access Answer (.fill [(id, none)])

def lock : Step Unit := @Program.call Access Answer .lock

def unlock : Step Unit := @Program.call Access Answer .unlock

def setAccountTypesInCache (typeMap : List (Int × Option (OsAccountType × Bool))) : Step Unit :=
  @Program.call Access Answer (.fill typeMap)

def offer (accounts : List (Int × OsAccountType)) : Step Ret :=
  @Program.call Access Answer (.offer (accounts.map fun v => (v.1, some v.2)))

def outside (o : Outside) : Step (Reply o) := @Program.call Access Answer (.outside o)

def refreshAccountTypeInCache (id : Int) (localType : OsAccountType) : Step (Except ErrCode (OsAccountType × Bool)) := do
  lock
  match ← find id with
  | some cachedType => do
      unlock
      return .ok cachedType
  | none => do
      match ← ask id with
      | .ok (some realType) => do
          setAccountTypeInCache id (realType, false)
          unlock
          return .ok (realType, false)
      | .ok none => do
          setAccountTypeInCache id (localType, true)
          unlock
          return .ok (localType, true)
      | .error e => do
          unlock
          return .error e

def cachedAccountType (id : Int) (localType : OsAccountType) : Step (OsAccountType × Bool) := do
  match ← find id with
  | some cachedType => return cachedType
  | none => do
      let refreshed ← refreshAccountTypeInCache id localType
      return refreshed.toOption.getD (localType, false)

def getRealOsAccountInfoById (id : Int) : Step (Except ErrCode AccountFile) := do
  match ← outside (.getOsAccountInfoById id) with
  | .error e => return .error e
  | .ok info => do
      let cachedType ← cachedAccountType id info.type
      let constraints :=
        if id ≥ startUserId ∧ cachedType.1 = .admin ∧ cachedType.2 then adminConstraints info.constraints
        else info.constraints
      return .ok { info with constraints, type := cachedType.1 }

def getOsAccountType (id : Int) : Step (Except ErrCode OsAccountType) := do
  match ← outside (.getOsAccountInfoById id) with
  | .error _ => return .error .accountNotExistError
  | .ok info => do
      let cachedType ← cachedAccountType id info.type
      return .ok cachedType.1

def setOsAccountType (id : Int) (type : OsAccountType) : Step Ret := do
  match ← outside (.getOsAccountInfoById id) with
  | .error e => return .error e
  | .ok info => do
      match ← outside (.checkTypeNumber type) with
      | .error e => return .error e
      | .ok () => do
          if !(← outside (.checkAndAddLocalIdOperating id)) then return .error .accountOperatingError
          match ← change id (some type) with
          | .error e => return .error e
          | .ok () => do
              setAccountTypeInCache id (type, false)
              let constraints :=
                if type = .admin then info.constraints.filter (· ≠ constraintAdminAuthorize) else info.constraints
              let _ ← outside (.updateOsAccount { info with type, constraints })
              return .ok ()

def lookUps : List Int → Step Unit
  | [] => pure ()
  | id :: ids => do
      let _ ← getRealOsAccountInfoById id
      lookUps ids

def removeOsAccountOperate (id : Int) (osAccountInfo : AccountFile) (isCleanGarbage : Bool) : Step Ret := do
  if isCleanGarbage && !osAccountInfo.isCreateCompleted && !osAccountInfo.isDataRemovable then return .ok ()
  match ← change id none with
  | .error e => return .error e
  | .ok () => do
      clearAccountCache id
      match ← outside (.sendToIDMAccountDelete id) with
      | .error e => return .error e
      | .ok () => do
          if isCleanGarbage then return ← outside (.removeOsAccountData id)
          let (ids, ret) ← outside (.resetForegroundBeforeRemove id)
          lookUps ids
          match ret with
          | .error e => return .error e
          | .ok () => outside (.removeOsAccountData id)

def removeOsAccount (id : Int) : Step Ret := do
  if !(← outside (.checkAndAddLocalIdOperating id)) then return .error .accountOperatingError
  match ← getRealOsAccountInfoById id with
  | .error _ => return .error .accountNotExistError
  | .ok osAccountInfo => do
      match ← outside (.sendToStorageAccountCreateComplete id) with
      | .error e => return .error e
      | .ok () => do
          match ← outside (.updateOsAccount { osAccountInfo with toBeRemoved := true }) with
          | .error e => return .error e
          | .ok () => removeOsAccountOperate id { osAccountInfo with toBeRemoved := true } false

def garbageInfo (id : Int) : Except ErrCode AccountFile → Option AccountFile
  | .error e => if e ≠ .accountNotExistError then none else some { localId := id }
  | .ok info => if !info.toBeRemoved && info.isCreateCompleted then none else some { info with localId := id }

def cleanGarbageOsAccount (excludeId id : Int) : Step Nat := do
  if id = startUserId ∨ id = adminLocalId ∨ id = u1Id ∨ id = excludeId then return 0
  if !(← outside (.checkAndAddLocalIdOperating id)) then return 0
  match garbageInfo id (← getRealOsAccountInfoById id) with
  | none => return 0
  | some osAccountInfo => do
      let errCode ← removeOsAccountOperate id osAccountInfo true
      return if errCode = .ok () then 1 else 0

def cleanGarbageOsAccountsIn (excludeId : Int) : List Int → Step Nat
  | [] => pure 0
  | id :: idList => do
      let n ← cleanGarbageOsAccount excludeId id
      let m ← cleanGarbageOsAccountsIn excludeId idList
      return n + m

def cleanGarbageOsAccounts (excludeId : Int) : Step Nat := do
  match ← outside .getOsAccountIdList with
  | .error _ => return 0
  | .ok idList => cleanGarbageOsAccountsIn excludeId idList

def insertOsAccountTypeToTee (id : Int) (type : OsAccountType) : Step Ret := do
  match ← change id (some type) with
  | .error .teeReachLimit => do
      let n ← cleanGarbageOsAccounts (-1)
      if 0 < n then change id (some type) else return .error .teeReachLimit
  | ret => return ret

def insertOsAccountType (id : Int) (type : OsAccountType) : Step Ret := do
  match ← insertOsAccountTypeToTee id type with
  | .error e => return .error e
  | .ok () => do
      setAccountTypeInCache id (type, false)
      return .ok ()

def rollbackOsAccount (id : Int) : Step Unit := do
  match ← change id none with
  | .error _ => return ()
  | .ok () => do
      clearAccountCache id
      let _ ← outside (.removeOsAccountData id)
      return ()

def innerSendToStorageAccountCreate (id : Int) : Step Ret := do
  match ← outside (.prepareAddUser id) with
  | .ok () => return .ok ()
  | .error e => do
      let n ← cleanGarbageOsAccounts id
      if n = 0 then return .error e else outside (.prepareAddUser id)

def sendToStorageAccountCreate (id : Int) : Nat → Ret → Step Ret
  | 0, errCode => pure errCode
  | n + 1, _ => do
      let errCode ← innerSendToStorageAccountCreate id
      if errCode ≠ .error .ipcError ∧ errCode ≠ .error .ipcSaDied then return errCode
      sendToStorageAccountCreate id n errCode

/-- The calls after the one to the storage are one call here: whichever of them fails, the account is rolled back. -/
def sendMsgForAccountCreate (id : Int) : Step Ret := do
  match ← sendToStorageAccountCreate id OperatingMarker.maxRetryTimes (.ok ()) with
  | .error _ => do
      rollbackOsAccount id
      return .error .getSystemAbilityManager
  | .ok () => do
      match ← outside (.sendMsgForAccountCreate id) with
      | .error e => do
          rollbackOsAccount id
          return .error e
      | .ok () => return .ok ()

structure Creation where
  type : OsAccountType
  localId : Option Int
  hasToken : Bool
  isEdmCalling : Bool

def assignSpecifiedLocalId (specifiedId : Int) : Step (Except ErrCode Int) := do
  if specifiedId < startUserId ∨ specifiedId > maxCreatableUserId then return .error .invalidParameter
  match garbageInfo specifiedId (← getRealOsAccountInfoById specifiedId) with
  | none => return .error .localIdAlreadyExistsError
  | some _ => do
      let _ ← cleanGarbageOsAccounts (-1)
      match ← outside (.isOsAccountExists specifiedId) with
      | .error e => return .error e
      | .ok true => return .error .localIdAlreadyExistsError
      | .ok false => do
          match ← outside (.setNextLocalId (specifiedId + 1)) with
          | .error e => return .error e
          | .ok () => return .ok specifiedId

def newLocalId (c : Creation) : Step (Except ErrCode Int) :=
  if c.type = .maintenance then pure (.ok maintenanceModeId)
  else
    match c.localId with
    | some specifiedId => assignSpecifiedLocalId specifiedId
    | none => outside .getAllowCreateId

/-- The types that `CheckTypeNumber` looks up before are left out: each look-up
is what a query does. -/
def prepareOsAccountInfo (c : Creation) : Step (Except ErrCode AccountFile) := do
  match ← newLocalId c with
  | .error e => return .error e
  | .ok id => do
      match ← outside (.fillOsAccountInfo id) with
      | .error e => return .error e
      | .ok info => do
          if !(← outside (.checkAndAddLocalIdOperating id)) then return .error .accountOperatingError
          let osAccountInfo := { info with localId := id, type := c.type }
          match ← outside (.insertOsAccount osAccountInfo) with
          | .error e => return .error e
          | .ok () => return .ok osAccountInfo

def handleCreateOsAccountToken (osAccountInfo : AccountFile) (c : Creation) : Step Ret :=
  if c.hasToken then insertOsAccountType osAccountInfo.localId osAccountInfo.type
  else if c.isEdmCalling then do
    setAccountTypeInCache osAccountInfo.localId (osAccountInfo.type, true)
    return .ok ()
  else pure (.error .privilegeDenied)

def checkAndCleanOsAccounts : Step Bool := do
  let isBelow : Bool ← outside .isBelowMaxOsAccountNum
  if isBelow then return true
  let n ← cleanGarbageOsAccounts (-1)
  return 0 < n

def createOsAccount (c : Creation) : Step Ret := do
  if !(← checkAndCleanOsAccounts) then return .error .maxCanCreateError
  match ← prepareOsAccountInfo c with
  | .error e => return .error e
  | .ok osAccountInfo => do
      match ← handleCreateOsAccountToken osAccountInfo c with
      | .error e => return .error e
      | .ok () => sendMsgForAccountCreate osAccountInfo.localId

def createOsAccountByName (c : Creation) : Step Ret := do
  if !(← checkAndCleanOsAccounts) then return .error .maxCanCreateError
  match ← prepareOsAccountInfo c with
  | .error e => return .error e
  | .ok osAccountInfo => sendMsgForAccountCreate osAccountInfo.localId

def removeOldAccount (osAccountInfo : AccountFile) : Step Ret := do
  match ← outside (.getOsAccountInfoById osAccountInfo.localId) with
  | .error e => return if e = .accountNotExistError then .ok () else .error e
  | .ok oldInfo => do
      if !oldInfo.isCreateCompleted then return .ok ()
      if !oldInfo.toBeRemoved then return .error .accountAlreadyExistError
      removeOsAccountOperate osAccountInfo.localId osAccountInfo false

def createOsAccountWithFullInfo (osAccountInfo : AccountFile) (hasToken : Bool) : Step Ret := do
  if !(← outside (.checkAndAddLocalIdOperating osAccountInfo.localId)) then return .error .accountOperatingError
  match ← removeOldAccount osAccountInfo with
  | .error e => return .error e
  | .ok () => do
      match ← outside (.insertOsAccount osAccountInfo) with
      | .error e => return .error e
      | .ok () => do
          if hasToken then
            match ← insertOsAccountType osAccountInfo.localId osAccountInfo.type with
            | .error e => return .error e
            | .ok () => sendMsgForAccountCreate osAccountInfo.localId
          else
            setAccountTypeInCache osAccountInfo.localId (osAccountInfo.type, true)
            sendMsgForAccountCreate osAccountInfo.localId

/-- `BindDomainAccountCallback::OnResult` for an account other than the first one: the account of a domain is in the
files, and its domain bound. -/
def bindDomainAccountCallbackOnResult (osAccountInfo : AccountFile) : Step Ret := do
  match ← change osAccountInfo.localId (some osAccountInfo.type) with
  | .error e => do
      let _ ← outside (.onAccountUnBound osAccountInfo.localId)
      return .error e
  | .ok () => do
      setAccountTypeInCache osAccountInfo.localId (osAccountInfo.type, false)
      match ← sendMsgForAccountCreate osAccountInfo.localId with
      | .error e => do
          let _ ← outside (.onAccountUnBound osAccountInfo.localId)
          return .error e
      | .ok () => return .ok ()

def isMigrated (osAccountInfo : AccountFile) : Step Bool :=
  if !osAccountInfo.isCreateCompleted || osAccountInfo.toBeRemoved then pure false
  else outside (.checkAndAddLocalIdOperating osAccountInfo.localId)

def collectAccounts : List AccountFile → Step (List (Int × OsAccountType))
  | [] => pure []
  | osAccountInfo :: osAccountInfos => do
      let isTaken ← isMigrated osAccountInfo
      let rest ← collectAccounts osAccountInfos
      return if isTaken then (osAccountInfo.localId, osAccountInfo.type) :: rest else rest

def queryTypes : List Int → Step (List (Int × Option (OsAccountType × Bool)))
  | [] => pure []
  | id :: ids => do
      let type ← ask id
      let typeMap ← queryTypes ids
      return match type with
        | .ok (some realType) => (id, some (realType, false)) :: typeMap
        | _ => typeMap

def preloadAccountTypesFromTee (ids : List Int) : Step Unit := do
  let typeMap ← queryTypes ids
  setAccountTypesInCache typeMap

def migrateOsAccountTypesToTEE : Step Ret := do
  match ← outside .getOsAccountList with
  | .error e => return .error e
  | .ok osAccountInfos => do
      let accounts ← collectAccounts osAccountInfos
      if accounts = [] then return .ok ()
      let errCode ← offer accounts
      preloadAccountTypesFromTee (accounts.map Prod.fst)
      return errCode

def startOsAccountTypeMigration : Nat → Step Unit
  | 0 => pure ()
  | n + 1 => do
      let ret ← migrateOsAccountTypesToTEE
      if ret = .ok () ∨ ret = .error teeNotAllowRecovery then return ()
      startOsAccountTypeMigration n

end operations

section tidy

variable {α : Type}

theorem tidy_outside (o : Outside) : Tidy discipline (outside o) := fun _ => rfl

theorem tidy_find (id : Int) : Tidy discipline (find id) := fun _ => rfl

theorem tidy_ite {c : Prop} [Decidable c] {p q : Step α} (hp : Tidy discipline p) (hq : Tidy discipline q) :
    Tidy discipline (if c then p else q) := by
  split
  · exact hp
  · exact hq

theorem tidy_ask {id : Int} {f : Except ErrCode (Option OsAccountType) → Step α}
    (entry : Option OsAccountType → OsAccountType × Bool) (g : Option OsAccountType → Step α)
    (hf : ∀ known, f (.ok known) = setAccountTypeInCache id (entry known) >>= fun _ => g known)
    (hentry : ∀ known, Agrees (entry known) known) (hg : ∀ known, Tidy discipline (g known))
    (herror : ∀ e, Tidy discipline (f (.error e))) : Tidy discipline (ask id >>= f) := by
  refine ⟨fun known _ => ?_, fun e _ => herror e⟩
  have hknown := hf known
  change Ensures discipline _ (f (.ok known)) _
  rw [hknown]
  refine ⟨?_, ?_⟩
  · intro k c hc v hv
    obtain ⟨rfl, hfilled⟩ := Prod.mk.inj (List.mem_singleton.mp hc)
    obtain rfl := Option.some.inj hfilled
    have hlearned : (Debt.clear.learn k known).known k = some known := update_self ..
    obtain rfl := Option.some.inj (hlearned.symm.trans hv)
    exact hentry known
  · have hpaid : (Debt.clear.learn id known).pay [id] = (Debt.clear : Debt Int OsAccountType) := rfl
    change Ensures discipline _ (g known) ((Debt.clear.learn id known).pay [id])
    rw [hpaid]
    exact hg known

variable {g : Step α}

theorem ensures_tell {id : Int} {type : Option OsAccountType} {entry : Option (OsAccountType × Bool)}
    (hentry : ∀ c ∈ entry, Agrees c type) (hg : Tidy discipline g) :
    Ensures discipline (fun _ d => d = .clear) (@Program.call Access Answer (.fill [(id, entry)]) >>= fun _ => g)
      (Debt.clear.changed discipline.silent id type) := by
  refine ⟨?_, ?_⟩
  · intro k c hc v hv
    obtain ⟨rfl, hfilled⟩ := Prod.mk.inj (List.mem_singleton.mp hc)
    have hchanged : (Debt.clear.changed discipline.silent k type).known k = some type := update_self ..
    obtain rfl := Option.some.inj (hchanged.symm.trans hv)
    exact hentry c hfilled.symm
  · have hpaid : (Debt.clear.changed discipline.silent id type).pay [id] = (Debt.clear : Debt Int OsAccountType) := by
      refine congrArg (Debt.mk fun _ => none) (funext fun k => ?_)
      simp [Debt.changed, Debt.clear, discipline]
    change Ensures discipline _ g ((Debt.clear.changed discipline.silent id type).pay [id])
    rw [hpaid]
    exact hg

variable {f : Ret → Step α}

theorem tidy_change {id : Int} {type : Option OsAccountType} (entry : Option (OsAccountType × Bool))
    (hf : f (.ok ()) = @Program.call Access Answer (.fill [(id, entry)]) >>= fun _ => g)
    (hentry : ∀ c ∈ entry, Agrees c type) (hg : Tidy discipline g) (herror : ∀ e, Tidy discipline (f (.error e))) :
    Tidy discipline (change id type >>= f) := by
  refine ⟨?_, fun e => herror e⟩
  change Ensures discipline _ (f (.ok ())) _
  rw [hf]
  exact ensures_tell hentry hg

theorem tidy_refreshAccountTypeInCache (id : Int) (localType : OsAccountType) :
    Tidy discipline (refreshAccountTypeInCache id localType) := by
  refine Tidy.bind (p := lock) rfl fun _ => (tidy_find id).bind fun cachedType => ?_
  cases cachedType with
  | some cachedType => exact Tidy.bind (p := unlock) rfl fun _ => Tidy.pure _
  | none =>
      refine tidy_ask (fun known => known.elim (localType, true) fun type => (type, false))
        (fun known => unlock >>= fun _ => pure (.ok (known.elim (localType, true) fun type => (type, false))))
        ?_ ?_ (fun _ => rfl) (fun _ => rfl)
      · intro known
        cases known with
        | _ => rfl
      · intro known
        cases known with
        | _ => exact rfl

theorem tidy_cachedAccountType (id : Int) (localType : OsAccountType) :
    Tidy discipline (cachedAccountType id localType) := by
  refine (tidy_find id).bind fun cachedType => ?_
  cases cachedType with
  | some cachedType => exact Tidy.pure _
  | none => exact (tidy_refreshAccountTypeInCache id localType).bind fun _ => Tidy.pure _

theorem tidy_getRealOsAccountInfoById (id : Int) : Tidy discipline (getRealOsAccountInfoById id) := by
  refine (tidy_outside _).bind fun info => ?_
  cases info with
  | error e => exact Tidy.pure _
  | ok info => exact (tidy_cachedAccountType id _).bind fun _ => Tidy.pure _

theorem tidy_getOsAccountType (id : Int) : Tidy discipline (getOsAccountType id) := by
  refine (tidy_outside _).bind fun info => ?_
  cases info with
  | error e => exact Tidy.pure _
  | ok info => exact (tidy_cachedAccountType id _).bind fun _ => Tidy.pure _

theorem tidy_setOsAccountType (id : Int) (type : OsAccountType) : Tidy discipline (setOsAccountType id type) := by
  refine (tidy_outside _).bind fun info => ?_
  cases info with
  | error e => exact Tidy.pure _
  | ok info =>
      refine (tidy_outside _).bind fun ret => ?_
      cases ret with
      | error e => exact Tidy.pure _
      | ok _ =>
          refine (tidy_outside _).bind fun added => tidy_ite (Tidy.pure _) ?_
          refine tidy_change (some (type, false)) rfl ?_ ((tidy_outside _).bind fun _ => Tidy.pure _)
            fun _ => Tidy.pure _
          intro c hc
          cases hc
          rfl

theorem tidy_lookUps (ids : List Int) : Tidy discipline (lookUps ids) := by
  induction ids with
  | nil => exact Tidy.pure ()
  | cons id ids ih => exact (tidy_getRealOsAccountInfoById id).bind fun _ => ih

theorem tidy_delete {id : Int} (hf : f (.ok ()) = clearAccountCache id >>= fun _ => g)
    (hg : Tidy discipline g) (herror : ∀ e, Tidy discipline (f (.error e))) : Tidy discipline (change id none >>= f) :=
  tidy_change none hf (fun c hc => (by cases hc)) hg herror

theorem tidy_set {id : Int} {type : OsAccountType}
    (hf : f (.ok ()) = setAccountTypeInCache id (type, false) >>= fun _ => g)
    (hg : Tidy discipline g) (herror : ∀ e, Tidy discipline (f (.error e))) :
    Tidy discipline (change id (some type) >>= f) := by
  refine tidy_change (some (type, false)) hf ?_ hg herror
  intro c hc
  cases hc
  rfl

theorem tidy_removeOsAccountOperate (id : Int) (osAccountInfo : AccountFile) (isCleanGarbage : Bool) :
    Tidy discipline (removeOsAccountOperate id osAccountInfo isCleanGarbage) := by
  refine tidy_ite (Tidy.pure _) (tidy_delete rfl ?_ fun _ => Tidy.pure _)
  refine (tidy_outside _).bind fun idm => ?_
  cases idm with
  | error e => exact Tidy.pure _
  | ok _ =>
      refine tidy_ite ((tidy_outside _).bind fun _ => Tidy.pure _) ((tidy_outside _).bind fun reset => ?_)
      obtain ⟨ids, ret⟩ := reset
      refine (tidy_lookUps ids).bind fun _ => ?_
      cases ret with
      | error e => exact Tidy.pure _
      | ok _ => exact tidy_outside _

theorem tidy_removeOsAccount (id : Int) : Tidy discipline (removeOsAccount id) := by
  refine (tidy_outside _).bind fun added => tidy_ite (Tidy.pure _) ?_
  refine (tidy_getRealOsAccountInfoById id).bind fun info => ?_
  cases info with
  | error e => exact Tidy.pure _
  | ok info =>
      refine (tidy_outside _).bind fun ret => ?_
      cases ret with
      | error e => exact Tidy.pure _
      | ok _ =>
          refine (tidy_outside _).bind fun ret => ?_
          cases ret with
          | error e => exact Tidy.pure _
          | ok _ => exact tidy_removeOsAccountOperate id _ false

theorem tidy_cleanGarbageOsAccount (excludeId id : Int) : Tidy discipline (cleanGarbageOsAccount excludeId id) := by
  refine tidy_ite (Tidy.pure _) ((tidy_outside _).bind fun added => tidy_ite (Tidy.pure _) ?_)
  refine (tidy_getRealOsAccountInfoById id).bind fun info => ?_
  split
  · exact Tidy.pure _
  · exact (tidy_removeOsAccountOperate id _ true).bind fun _ => Tidy.pure _

theorem tidy_cleanGarbageOsAccounts (excludeId : Int) : Tidy discipline (cleanGarbageOsAccounts excludeId) := by
  have hlist : ∀ ids, Tidy discipline (cleanGarbageOsAccountsIn excludeId ids) := by
    intro ids
    induction ids with
    | nil => exact Tidy.pure _
    | cons id ids ih => exact (tidy_cleanGarbageOsAccount excludeId id).bind fun _ => ih.bind fun _ => Tidy.pure _
  refine (tidy_outside _).bind fun ids => ?_
  cases ids with
  | error e => exact Tidy.pure _
  | ok ids => exact hlist ids

def Changed (id : Int) (type : OsAccountType) (ret : Ret) (d : Debt Int OsAccountType) : Prop :=
  d = match ret with
    | .ok () => Debt.clear.changed discipline.silent id (some type)
    | .error _ => .clear

theorem changed_change (id : Int) (type : OsAccountType) :
    Ensures discipline (Changed id type) (change id (some type)) .clear := ⟨rfl, fun _ => rfl⟩

theorem changed_insertOsAccountTypeToTee (id : Int) (type : OsAccountType) :
    Ensures discipline (Changed id type) (insertOsAccountTypeToTee id type) .clear := by
  apply Ensures.bind
  refine (changed_change id type).mono ?_
  intro ret d hd
  split
  · subst hd
    refine Ensures.bind ((tidy_cleanGarbageOsAccounts (-1)).mono ?_)
    rintro n d rfl
    split
    · exact changed_change id type
    · exact rfl
  · exact hd

theorem tidy_insertOsAccountType (id : Int) (type : OsAccountType) : Tidy discipline (insertOsAccountType id type) := by
  apply Ensures.bind
  refine (changed_insertOsAccountTypeToTee id type).mono ?_
  intro ret d hd
  cases ret with
  | error e => exact hd
  | ok _ =>
      subst hd
      refine ensures_tell (fun c hc => ?_) (Tidy.pure _)
      cases hc
      rfl

theorem tidy_rollbackOsAccount (id : Int) : Tidy discipline (rollbackOsAccount id) :=
  tidy_delete rfl ((tidy_outside _).bind fun _ => Tidy.pure _) fun _ => Tidy.pure _

theorem tidy_sendToStorageAccountCreate (id : Int) (n : Nat) (errCode : Ret) :
    Tidy discipline (sendToStorageAccountCreate id n errCode) := by
  induction n generalizing errCode with
  | zero => exact Tidy.pure _
  | succ n ih =>
      refine Tidy.bind ?_ fun errCode => tidy_ite (Tidy.pure _) (ih errCode)
      refine (tidy_outside _).bind fun ret => ?_
      cases ret with
      | ok _ => exact Tidy.pure _
      | error e => exact (tidy_cleanGarbageOsAccounts id).bind fun n => tidy_ite (Tidy.pure _) (tidy_outside _)

theorem tidy_sendMsgForAccountCreate (id : Int) : Tidy discipline (sendMsgForAccountCreate id) := by
  refine (tidy_sendToStorageAccountCreate id _ _).bind fun ret => ?_
  cases ret with
  | error e => exact (tidy_rollbackOsAccount id).bind fun _ => Tidy.pure _
  | ok _ =>
      refine (tidy_outside _).bind fun ret => ?_
      cases ret with
      | error e => exact (tidy_rollbackOsAccount id).bind fun _ => Tidy.pure _
      | ok _ => exact Tidy.pure _

theorem tidy_assignSpecifiedLocalId (id : Int) : Tidy discipline (assignSpecifiedLocalId id) := by
  refine tidy_ite (Tidy.pure _) ((tidy_getRealOsAccountInfoById id).bind fun info => ?_)
  split
  · exact Tidy.pure _
  · refine (tidy_cleanGarbageOsAccounts (-1)).bind fun _ => (tidy_outside _).bind fun isExists => ?_
    split
    · exact Tidy.pure _
    · exact Tidy.pure _
    · refine (tidy_outside _).bind fun ret => ?_
      cases ret with
      | error e => exact Tidy.pure _
      | ok _ => exact Tidy.pure _

variable (c : Creation)

theorem tidy_prepareOsAccountInfo : Tidy discipline (prepareOsAccountInfo c) := by
  refine Tidy.bind ?_ fun localId => ?_
  · unfold newLocalId
    refine tidy_ite (Tidy.pure _) ?_
    cases c.localId with
    | none => exact tidy_outside _
    | some specifiedId => exact tidy_assignSpecifiedLocalId specifiedId
  cases localId with
  | error e => exact Tidy.pure _
  | ok id =>
      refine (tidy_outside _).bind fun info => ?_
      cases info with
      | error e => exact Tidy.pure _
      | ok info =>
          refine (tidy_outside _).bind fun added => tidy_ite (Tidy.pure _) ((tidy_outside _).bind fun ret => ?_)
          cases ret with
          | error e => exact Tidy.pure _
          | ok _ => exact Tidy.pure _

/-- A mark of the cache that is not told by the trusted environment: that it is right is up to the run. -/
theorem tidy_setAccountTypeInCache (id : Int) (type : OsAccountType × Bool) :
    Tidy discipline (setAccountTypeInCache id type) :=
  ⟨fun _ _ _ _ hv => (by cases hv), rfl⟩

variable (osAccountInfo : AccountFile)

theorem tidy_handleCreateOsAccountToken (c : Creation) :
    Tidy discipline (handleCreateOsAccountToken osAccountInfo c) :=
  tidy_ite (tidy_insertOsAccountType _ _)
    (tidy_ite ((tidy_setAccountTypeInCache _ _).bind fun _ => Tidy.pure _) (Tidy.pure _))

theorem tidy_checkAndCleanOsAccounts : Tidy discipline checkAndCleanOsAccounts :=
  (tidy_outside _).bind fun (_ : Bool) =>
    tidy_ite (Tidy.pure _) ((tidy_cleanGarbageOsAccounts (-1)).bind fun _ => Tidy.pure _)

theorem tidy_createOsAccount : Tidy discipline (createOsAccount c) := by
  refine tidy_checkAndCleanOsAccounts.bind fun _ => tidy_ite (Tidy.pure _) ?_
  refine (tidy_prepareOsAccountInfo c).bind fun info => ?_
  cases info with
  | error e => exact Tidy.pure _
  | ok osAccountInfo =>
      refine (tidy_handleCreateOsAccountToken osAccountInfo c).bind fun ret => ?_
      cases ret with
      | error e => exact Tidy.pure _
      | ok _ => exact tidy_sendMsgForAccountCreate _

theorem tidy_createOsAccountByName : Tidy discipline (createOsAccountByName c) := by
  refine tidy_checkAndCleanOsAccounts.bind fun _ => tidy_ite (Tidy.pure _) ?_
  refine (tidy_prepareOsAccountInfo c).bind fun info => ?_
  cases info with
  | error e => exact Tidy.pure _
  | ok osAccountInfo => exact tidy_sendMsgForAccountCreate _

theorem tidy_removeOldAccount : Tidy discipline (removeOldAccount osAccountInfo) := by
  refine (tidy_outside _).bind fun oldInfo => ?_
  cases oldInfo with
  | error e => exact Tidy.pure _
  | ok oldInfo => exact tidy_ite (Tidy.pure _) (tidy_ite (Tidy.pure _) (tidy_removeOsAccountOperate _ _ _))

theorem tidy_createOsAccountWithFullInfo (hasToken : Bool) :
    Tidy discipline (createOsAccountWithFullInfo osAccountInfo hasToken) := by
  refine (tidy_outside _).bind fun added => tidy_ite (Tidy.pure _) ?_
  refine (tidy_removeOldAccount osAccountInfo).bind fun ret => ?_
  cases ret with
  | error e => exact Tidy.pure _
  | ok _ =>
      refine (tidy_outside _).bind fun ret => ?_
      cases ret with
      | error e => exact Tidy.pure _
      | ok _ =>
          refine tidy_ite ((tidy_insertOsAccountType _ _).bind fun ret => ?_)
            ((tidy_setAccountTypeInCache _ _).bind fun _ => tidy_sendMsgForAccountCreate _)
          cases ret with
          | error e => exact Tidy.pure _
          | ok _ => exact tidy_sendMsgForAccountCreate _

theorem tidy_bindDomainAccountCallbackOnResult :
    Tidy discipline (bindDomainAccountCallbackOnResult osAccountInfo) := by
  refine tidy_set rfl ((tidy_sendMsgForAccountCreate _).bind fun ret => ?_) fun e =>
    (tidy_outside _).bind fun _ => Tidy.pure _
  cases ret with
  | error e => exact (tidy_outside _).bind fun _ => Tidy.pure _
  | ok _ => exact Tidy.pure _

theorem tidy_collectAccounts (osAccountInfos : List AccountFile) : Tidy discipline (collectAccounts osAccountInfos) := by
  induction osAccountInfos with
  | nil => exact Tidy.pure _
  | cons osAccountInfo osAccountInfos ih =>
      have hmigrated : Tidy discipline (isMigrated osAccountInfo) := tidy_ite (Tidy.pure _) (tidy_outside _)
      exact hmigrated.bind fun _ => ih.bind fun _ => Tidy.pure _

def Backed (d : Debt Int OsAccountType) : Prop := ∀ id, d.owed id = true → ∃ type, d.known id = some (some type)

theorem owed_offered (takes : Int → Bool) (accounts : List (Int × OsAccountType)) (id : Int)
    (hid : (Debt.clear.offered discipline.silent takes (accounts.map fun v => (v.1, some v.2))).owed id = true) :
    takes id = true ∧ id ∈ accounts.map Prod.fst ∧
      ∃ type, (Debt.clear.offered discipline.silent takes (accounts.map fun v => (v.1, some v.2))).known id =
        some (some type) := by
  revert id
  refine @offered_induction _ _ _ _ _ _ (fun _ => none)
    (fun _ d => ∀ id, d.owed id = true →
      takes id = true ∧ id ∈ accounts.map Prod.fst ∧ ∃ type, d.known id = some (some type)) _ _ ?_ ?_ ?_
  · intro v hv htakes _ d hd id hid
    obtain ⟨account, haccount, rfl⟩ := List.mem_map.mp hv
    by_cases hk : id = account.1
    · subst hk
      exact ⟨htakes, List.mem_map_of_mem haccount, account.2, update_self ..⟩
    · have hold : d.owed id = true := by simpa [Debt.changed, hk] using hid
      obtain ⟨hidTakes, hmem, type, htype⟩ := hd id hold
      exact ⟨hidTakes, hmem, type, (update_of_ne hk ..).trans htype⟩
  · intro v _ hleft _ d hd id hid
    obtain ⟨hidTakes, hmem, type, htype⟩ := hd id hid
    have hk : id ≠ v.1 := by
      rintro rfl
      exact Bool.noConfusion (hleft.symm.trans hidTakes)
    exact ⟨hidTakes, hmem, type, (update_of_ne hk ..).trans htype⟩
  · intro id hid
    cases hid

/-- What is known and put down after the trusted environment was asked for the types of the ids. -/
structure Queried (ids : List Int) (d : Debt Int OsAccountType) (typeMap : List (Int × Option (OsAccountType × Bool)))
    (d' : Debt Int OsAccountType) : Prop where
  owed : d'.owed = d.owed
  known : ∀ id known, d.known id = some known → d'.known id = some known
  entries : ∀ e ∈ typeMap, ∃ type, e.2 = some (type, false) ∧ d'.known e.1 = some (some type)
  covers : ∀ id ∈ ids, d.owed id = true → id ∈ typeMap.map Prod.fst

theorem queried_queryTypes {ids : List Int} {d : Debt Int OsAccountType} (hd : Backed d) :
    Ensures discipline (Queried ids d) (queryTypes ids) d := by
  induction ids generalizing d with
  | nil => exact ⟨rfl, fun _ _ h => h, fun e he => (by cases he), fun id hid => (by cases hid)⟩
  | cons id ids ih =>
      refine ⟨fun known hknown => ?_, fun e he => ?_⟩
      · have hlearn : ∀ j v, d.known j = some v → (d.learn id known).known j = some v := by
          intro j v hv
          by_cases hj : j = id
          · subst hj
            exact (update_self ..).trans (congrArg some (hknown v hv).symm)
          · exact (update_of_ne hj ..).trans hv
        have hbacked : Backed (d.learn id known) := fun j hj => (hd j hj).imp fun type htype => hlearn j _ htype
        refine Ensures.bind (p := queryTypes ids) ((ih hbacked).mono ?_)
        intro typeMap d' h
        cases known with
        | none =>
            refine ⟨h.owed, fun j v hv => h.known j v (hlearn j v hv), h.entries, fun j hj howed => ?_⟩
            rcases List.mem_cons.mp hj with rfl | hj
            · obtain ⟨type, htype⟩ := hd j howed
              cases hknown _ htype
            · exact h.covers j hj howed
        | some realType =>
            refine ⟨h.owed, fun j v hv => h.known j v (hlearn j v hv), fun e he => ?_, fun j hj howed => ?_⟩
            · rcases List.mem_cons.mp he with rfl | he
              · exact ⟨realType, rfl, h.known id _ (update_self ..)⟩
              · exact h.entries e he
            · rcases List.mem_cons.mp hj with rfl | hj
              · exact List.mem_cons_self
              · exact List.mem_cons_of_mem _ (h.covers j hj howed)
      · refine Ensures.bind (p := queryTypes ids) ((ih hd).mono ?_)
        intro typeMap d' h
        refine ⟨h.owed, h.known, h.entries, fun j hj howed => ?_⟩
        rcases List.mem_cons.mp hj with rfl | hj
        · cases he.symm.trans howed
        · exact h.covers j hj howed

theorem ensures_preloadAccountTypesFromTee {ids : List Int} {d : Debt Int OsAccountType} (hd : Backed d)
    (hids : ∀ id, d.owed id = true → id ∈ ids) :
    Ensures discipline (fun _ d => d = .clear) (preloadAccountTypesFromTee ids) d := by
  refine Ensures.bind ((queried_queryTypes hd).mono ?_)
  intro typeMap d' h
  refine ⟨?_, ?_⟩
  · intro id c hc known hknown
    obtain ⟨type, htype, hlearned⟩ := h.entries _ hc
    obtain rfl := Option.some.inj htype
    exact Option.some.inj (hknown.symm.trans hlearned)
  · refine congrArg (Debt.mk fun _ => none) (funext fun id => ?_)
    cases howed : d.owed id with
    | false => rw [h.owed, howed, Bool.false_and]
    | true =>
        have hmem := h.covers id (hids id howed) howed
        simp [hmem]

theorem tidy_migrateOsAccountTypesToTEE : Tidy discipline migrateOsAccountTypesToTEE := by
  refine (tidy_outside _).bind fun infos => ?_
  cases infos with
  | error e => exact Tidy.pure _
  | ok osAccountInfos =>
      refine (tidy_collectAccounts osAccountInfos).bind fun accounts => tidy_ite (Tidy.pure _) ?_
      intro takes errCode _
      exact Ensures.bind (p := preloadAccountTypesFromTee _)
        ((ensures_preloadAccountTypesFromTee (fun id hid => (owed_offered takes accounts id hid).2.2)
          fun id hid => (owed_offered takes accounts id hid).2.1).mono fun _ _ hd => hd)

theorem tidy_startOsAccountTypeMigration (n : Nat) : Tidy discipline (startOsAccountTypeMigration n) := by
  induction n with
  | zero => exact Tidy.pure ()
  | succ n ih => exact tidy_migrateOsAccountTypesToTEE.bind fun _ => tidy_ite (Tidy.pure _) ih

end tidy

inductive Operation
  | getRealOsAccountInfoById (id : Int)
  | getOsAccountType (id : Int)
  | setOsAccountType (id : Int) (type : OsAccountType)
  | createOsAccount (c : Creation)
  | createOsAccountByName (c : Creation)
  | createOsAccountWithFullInfo (osAccountInfo : AccountFile) (hasToken : Bool)
  | bindDomainAccountCallbackOnResult (osAccountInfo : AccountFile)
  | removeOsAccount (id : Int)
  | cleanGarbageOsAccounts (excludeId : Int)
  | startOsAccountTypeMigration

def forget {α : Type} (p : Step α) : Step Unit := p >>= fun _ => pure ()

def program : Operation → Step Unit
  | .getRealOsAccountInfoById id => forget (getRealOsAccountInfoById id)
  | .getOsAccountType id => forget (getOsAccountType id)
  | .setOsAccountType id type => forget (setOsAccountType id type)
  | .createOsAccount c => forget (createOsAccount c)
  | .createOsAccountByName c => forget (createOsAccountByName c)
  | .createOsAccountWithFullInfo osAccountInfo hasToken => forget (createOsAccountWithFullInfo osAccountInfo hasToken)
  | .bindDomainAccountCallbackOnResult osAccountInfo => forget (bindDomainAccountCallbackOnResult osAccountInfo)
  | .removeOsAccount id => forget (removeOsAccount id)
  | .cleanGarbageOsAccounts excludeId => forget (cleanGarbageOsAccounts excludeId)
  | .startOsAccountTypeMigration => startOsAccountTypeMigration (maxRetryTimes + 1)

theorem tidy_forget {α : Type} {p : Step α} (h : Tidy discipline p) : Tidy discipline (forget p) :=
  h.bind fun _ => Tidy.pure ()

theorem tidy_program (op : Operation) : Tidy discipline (program op) := by
  cases op with
  | getRealOsAccountInfoById id => exact tidy_forget (tidy_getRealOsAccountInfoById id)
  | getOsAccountType id => exact tidy_forget (tidy_getOsAccountType id)
  | setOsAccountType id type => exact tidy_forget (tidy_setOsAccountType id type)
  | createOsAccount c => exact tidy_forget (tidy_createOsAccount c)
  | createOsAccountByName c => exact tidy_forget (tidy_createOsAccountByName c)
  | createOsAccountWithFullInfo osAccountInfo hasToken =>
      exact tidy_forget (tidy_createOsAccountWithFullInfo osAccountInfo hasToken)
  | bindDomainAccountCallbackOnResult osAccountInfo =>
      exact tidy_forget (tidy_bindDomainAccountCallbackOnResult osAccountInfo)
  | removeOsAccount id => exact tidy_forget (tidy_removeOsAccount id)
  | cleanGarbageOsAccounts excludeId => exact tidy_forget (tidy_cleanGarbageOsAccounts excludeId)
  | startOsAccountTypeMigration => exact tidy_startOsAccountTypeMigration _

abbrev Store : Type := SourcedCache.Store Int OsAccountType (OsAccountType × Bool)

abbrev Env : Type := SourcedCache.Env Int ErrCode Reply

section alone

variable (env : Env) (store : Store) (id : Int)

def answered (localType : OsAccountType) : OsAccountType × Bool :=
  match store.cache id, env.failure with
  | some cachedType, _ => cachedType
  | none, some _ => (localType, false)
  | none, none => (store.source id).elim (localType, true) fun type => (type, false)

def told (localType : OsAccountType) : Store :=
  match store.cache id, env.failure with
  | none, none => { store with cache := update store.cache id (some (answered env store id localType)) }
  | _, _ => store

@[simp]
theorem exec_lock : Program.exec (handle env) lock store = ((), store) := rfl

@[simp]
theorem exec_unlock : Program.exec (handle env) unlock store = ((), store) := rfl

@[simp]
theorem exec_find : Program.exec (handle env) (find id) store = (store.cache id, store) := rfl

@[simp]
theorem exec_ask :
    Program.exec (handle env) (ask id) store = (env.outcome.map fun _ => store.source id, store) := rfl

@[simp]
theorem exec_change_of_none (type : Option OsAccountType) (h : env.failure = none) :
    Program.exec (handle env) (change id type) store =
      (.ok (), { store with source := update store.source id type }) := by
  have hexec : Program.exec (handle env) (change id type) store = handle env (.change id type) store := rfl
  rw [hexec, handle, Env.outcome, h]
  rfl

@[simp]
theorem exec_setAccountTypeInCache (type : OsAccountType × Bool) :
    Program.exec (handle env) (setAccountTypeInCache id type) store =
      ((), { store with cache := update store.cache id (some type) }) := rfl

@[simp]
theorem exec_outside (o : Outside) : Program.exec (handle env) (outside o) store = (env.reply o, store) := rfl

variable {env store id}

variable (localType : OsAccountType)

theorem exec_refreshAccountTypeInCache (hcache : store.cache id = none) :
    Program.exec (handle env) (refreshAccountTypeInCache id localType) store =
      (env.failure.elim (.ok (answered env store id localType)) .error, told env store id localType) := by
  unfold refreshAccountTypeInCache
  cases hfailure : env.failure with
  | some e => simp [told, Env.outcome, hfailure, hcache, Except.map]
  | none =>
      cases hsource : store.source id with
      | none => simp [answered, told, Env.outcome, hfailure, hcache, hsource, Except.map]
      | some type => simp [answered, told, Env.outcome, hfailure, hcache, hsource, Except.map]

theorem exec_cachedAccountType :
    Program.exec (handle env) (cachedAccountType id localType) store =
      (answered env store id localType, told env store id localType) := by
  unfold cachedAccountType
  cases hcache : store.cache id with
  | some cachedType => simp [hcache, answered, told]
  | none =>
      have hrefresh := @exec_refreshAccountTypeInCache env store id localType hcache
      cases hfailure : env.failure with
      | some e => simp [hcache, hrefresh, hfailure, answered, Except.toOption]
      | none => simp [hcache, hrefresh, hfailure, Except.toOption]

def realInfo (id : Int) (cachedType : OsAccountType × Bool) (info : AccountFile) : AccountFile :=
  { info with
    constraints :=
      if id ≥ startUserId ∧ cachedType.1 = .admin ∧ cachedType.2 then adminConstraints info.constraints
      else info.constraints
    type := cachedType.1 }

theorem exec_getRealOsAccountInfoById {info : AccountFile}
    (hinfo : env.reply (.getOsAccountInfoById id) = .ok info) :
    Program.exec (handle env) (getRealOsAccountInfoById id) store =
      (.ok (realInfo id (answered env store id info.type) info), told env store id info.type) := by
  unfold getRealOsAccountInfoById
  simp [hinfo, exec_cachedAccountType, realInfo]

theorem exec_getOsAccountType {info : AccountFile} (hinfo : env.reply (.getOsAccountInfoById id) = .ok info) :
    Program.exec (handle env) (getOsAccountType id) store =
      (.ok (answered env store id info.type).1, told env store id info.type) := by
  unfold getOsAccountType
  simp [hinfo, exec_cachedAccountType]

theorem answered_agrees (hfailure : env.failure = none)
    (hcache : ∀ c, store.cache id = some c → Agrees c (store.source id)) :
    Agrees (answered env store id localType) (store.source id) := by
  unfold answered
  cases hc : store.cache id with
  | some c => exact hcache c hc
  | none =>
      cases hsource : store.source id with
      | none => simp [hfailure, Agrees]
      | some type => simp [hfailure, Agrees]

end alone

variable {τ : Type}

abbrev System (τ : Type) : Type := SourcedCache.State Int OsAccountType (OsAccountType × Bool) ErrCode Reply τ

abbrev Event (τ : Type) : Type := SourcedCache.Event Int ErrCode Reply τ Operation

abbrev next {τ : Type} [DecidableEq τ] : System τ → Event τ → System τ := step discipline.silent program

def booted (tee : Int → Option OsAccountType) : System τ := { store := { source := tee, cache := fun _ => none } }

/-- What the queries say of the type of an account is what the trusted environment knows, and an administrator that
it does not know is restricted. -/
structure Truthful (store : Store) (id : Int) : Prop where
  cached : ∀ c, store.cache id = some c → Agrees c (store.source id)
  type : ∀ (env : Env) info type, env.failure = none → env.reply (.getOsAccountInfoById id) = .ok info →
    store.source id = some type →
    (Program.exec (handle env) (getOsAccountType id) store).1 = .ok type ∧
      (Program.exec (handle env) (getRealOsAccountInfoById id) store).1 = .ok { info with type }
  restricted : ∀ (env : Env) info real, env.failure = none → env.reply (.getOsAccountInfoById id) = .ok info →
    store.source id = none → startUserId ≤ id →
    (Program.exec (handle env) (getRealOsAccountInfoById id) store).1 = .ok real → real.type = .admin →
    constraintAdminAuthorize ∈ real.constraints

theorem truthful_of_agrees {store : Store} {id : Int} (h : ∀ c, store.cache id = some c → Agrees c (store.source id)) :
    Truthful store id := by
  refine ⟨h, ?_, ?_⟩
  · intro env info type hfailure hinfo htype
    have hagrees := @answered_agrees env store id info.type hfailure h
    rw [htype] at hagrees
    have hanswered : answered env store id info.type = (type, false) := by
      cases hanswer : answered env store id info.type with
      | mk known isRestricted =>
          rw [hanswer] at hagrees
          cases isRestricted with
          | true => cases hagrees
          | false => rw [Option.some.inj hagrees]
    rw [exec_getOsAccountType hinfo, exec_getRealOsAccountInfoById hinfo, hanswered]
    refine ⟨rfl, ?_⟩
    simp [realInfo]
  · intro env info real hfailure hinfo hnone hid hreal hadmin
    have hagrees := @answered_agrees env store id info.type hfailure h
    rw [exec_getRealOsAccountInfoById hinfo] at hreal
    obtain rfl := Except.ok.inj hreal
    have hmarked : (answered env store id info.type).2 = true := by
      rw [hnone] at hagrees
      cases hanswer : answered env store id info.type with
      | mk known isRestricted =>
          rw [hanswer] at hagrees
          cases isRestricted with
          | true => rfl
          | false => cases hagrees
    have hconstraints : (realInfo id (answered env store id info.type) info).constraints =
        adminConstraints info.constraints := if_pos ⟨hid, hadmin, hmarked⟩
    rw [hconstraints, adminConstraints]
    split
    · assumption
    · exact List.mem_append_right _ List.mem_cons_self

/-- Whatever creates, changes, removes, migrates and asks for types at the same time: as long as nobody changes a type
that another call has just learned and not put into the cache, the queries tell what the trusted environment knows. -/
theorem types_truthful [DecidableEq τ] (tee : Int → Option OsAccountType) (events : List (Event τ))
    (hevents : Machine.Meets next (fun s e => Undisturbed s discipline e) (booted tee) events) (id : Int)
    (hid : Settled (Machine.run next (booted tee) events) id) :
    Truthful (Machine.run next (booted tee) events).store id := by
  have hbooted : Coherent (booted tee : System τ) discipline := coherent_of_empty fun _ => rfl
  have h := coherent_run (fun op => (tidy_program op).settles) hbooted hevents
  exact truthful_of_agrees fun c hc => h.faithful id c hid hc

def replies (info : AccountFile) : (o : Outside) → Reply o
  | .getOsAccountInfoById _ | .fillOsAccountInfo _ => .ok info
  | .getOsAccountIdList => .ok [info.localId]
  | .getOsAccountList => .ok [info]
  | .isOsAccountExists _ => .ok true
  | .getAllowCreateId => .ok info.localId
  | .checkAndAddLocalIdOperating _ | .isBelowMaxOsAccountNum => true
  | .resetForegroundBeforeRemove _ => ([], .ok ())
  | .updateOsAccount _ | .setNextLocalId _ | .checkTypeNumber _ | .insertOsAccount _
  | .sendToStorageAccountCreateComplete _ | .sendToIDMAccountDelete _ | .removeOsAccountData _ | .prepareAddUser _
  | .sendMsgForAccountCreate _ | .onAccountUnBound _ => .ok ()

def carol : AccountFile := { localId := 101, localName := "carol", type := .normal }

def calm : Env := ⟨none, fun _ => true, replies carol⟩

def normalTee (id : Int) : Option OsAccountType := if id = carol.localId then some .normal else none

def steps (t : Bool) (n : Nat) : List (Event Bool) := List.replicate n (.step t calm)

/-- A query ends before the type is changed, and one of another account goes on meanwhile. -/
def promoted : List (Event Bool) :=
  .start false (.getOsAccountType 101) :: steps false 8 ++ [.start false (.getOsAccountType 102)] ++ steps false 5 ++
    [.start true (.setOsAccountType 101 .admin)] ++ steps true 5 ++ steps false 3 ++ steps true 2

theorem types_truthful_admin :
    (Program.exec (handle calm) (getOsAccountType 101)
      (Machine.run next (booted normalTee) promoted).store).1 = .ok .admin :=
  ((types_truthful normalTee promoted (by decide +kernel) 101 (by decide +kernel)).type calm carol .admin rfl rfl
    (by decide +kernel)).1

def overtaken : List (Event Bool) :=
  .start false (.getOsAccountType 101) :: steps false 5 ++ [.start true (.setOsAccountType 101 .admin)] ++
    steps true 7 ++ steps false 3

theorem not_truthful_overtaken :
    ¬Truthful (Machine.run next (booted normalTee) overtaken).store 101 := by
  intro h
  have hagrees := h.cached (.normal, false) (by decide +kernel)
  revert hagrees
  decide +kernel

end OsAccount.AccountTypeCache
