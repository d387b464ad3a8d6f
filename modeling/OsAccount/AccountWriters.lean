import OsAccount.AccountConstraints
import OsAccount.SerialNumbers

namespace OsAccount.AccountWriters

open Std JsonUtils ConstraintStore AccountConstraints AccountList
open ConstraintRemoval (removeOAConstraintsInfo)
open SerialNumbers (LocalId)

structure FileAnswers where
  read : Ret
  insert : Ret
  base : FileAnswer
  update : Ret
  delete : Ret
  removal : ConstraintRemoval.RemovalAnswer
  owner : FileAnswer

def filesSucceed : FileAnswers :=
  ⟨.ok (), .ok (), ⟨.ok (), .ok ()⟩, .ok (), .ok (), ⟨⟨.ok (), .ok ()⟩, ⟨.ok (), .ok ()⟩, ⟨.ok (), .ok ()⟩⟩,
    ⟨.ok (), .ok ()⟩⟩

variable (s : State) (b : Build) (f : FileAnswers)

def insertOsAccount (osAccountInfo : AccountFile) : Ret × State :=
  let id := osAccountInfo.localId
  if id < adminLocalId then (.error .idCannotCreateError, s)
  else if id ∈ s.accounts then (.error .insertFileExistsError, s)
  else
    match f.insert with
    | .error e => (.error e, s)
    | .ok () => (.ok (), { s with accounts := s.accounts.insert id osAccountInfo })

def delOsAccount (id : Int) : Ret × State :=
  if id ≤ startUserId ∨ id > maxUserId then (.error .cannotDeleteIdError, s)
  else
    match f.delete with
    | .error e => (.error e, s)
    | .ok () => (.ok (), { s with accounts := s.accounts.erase id })

def updateBase (id : Int) (constraints : List String) : Ret × State :=
  let (ret, base) := updateBaseOAConstraints f.base (toString id) constraints true s.files.base
  (ret, { s with files := { s.files with base } })

def updateAccountTypeCache (id : Int) (type : OsAccountType) (isRestricted : Bool) : State :=
  if b.supportAuthorization then { s with typeCache := s.typeCache.insert id (type, isRestricted) } else s

def delOsAccountType (answer : Ret) (id : Int) : Ret × State :=
  if b.supportAuthorization then
    match answer with
    | .error e => (.error e, s)
    | .ok () => (.ok (), { s with tee := s.tee.erase id, typeCache := s.typeCache.erase id })
  else (.ok (), s)

structure Status where
  isVerified : Bool
  isLoggedIn : Bool
  isActived : Bool
  isForeground : Bool
  displayId : Nat

def withStatus (osAccountInfo : AccountFile) (a : Status) : AccountFile :=
  { osAccountInfo with
    isVerified := a.isVerified
    isLoggedIn := a.isLoggedIn
    isActived := a.isActived
    isForeground := a.isForeground
    displayId := a.displayId }

structure WriteBack where
  id : Int
  ask : Ret
  status : Status

def writeBack (w : WriteBack) : State :=
  match getRealOsAccountInfoById s b f.read w.ask w.id with
  | (.error _, s) => s
  | (.ok osAccountInfo, s) => (updateOsAccount s f.update w.id (withStatus osAccountInfo w.status)).2

/-- The activation of the first account, if the removed one is in the foreground:
what is written back, and how it ends. -/
structure ResetAnswer where
  written : List WriteBack
  result : Ret

/-- The answers to the calls of a removal: to the trusted environment, before the
account is stopped, when it is stopped, and before its files are deleted. -/
structure OperateAnswer where
  delOsAccountType : Ret
  idm : Ret
  reset : Option ResetAnswer
  stop : Ret
  send : Ret

def resetForegroundBeforeRemove (a : Option ResetAnswer) : Ret × State :=
  match a with
  | none => (.ok (), s)
  | some a => (a.result, a.written.foldl (fun s w => writeBack s b f w) s)

def deactivateOsAccountByInfo (id : Int) (osAccountInfo : AccountFile) : Ret × State :=
  match updateOsAccount s f.update id osAccountInfo with
  | (.ok (), s) => (.ok (), s)
  | (.error e, s) => (if e = .dataNoSpace then .ok () else .error .updateAccountError, s)

def prepareRemoveOsAccount (a : OperateAnswer) (id : Int) (osAccountInfo : AccountFile) (isCleanGarbage : Bool) :
    Ret × State :=
  match a.idm with
  | .error e => (.error e, s)
  | .ok () =>
      if isCleanGarbage then (.ok (), s)
      else
        match resetForegroundBeforeRemove s b f a.reset with
        | (.error e, s) => (.error e, s)
        | (.ok (), s) =>
            match a.stop with
            | .error e => (.error e, s)
            | .ok () => deactivateOsAccountByInfo s f id osAccountInfo

def sendMsgForAccountRemove (a : OperateAnswer) (id : Int) : Ret × State :=
  match a.send with
  | .error e => (.error e, s)
  | .ok () => delOsAccount s f id

def checkAndRefreshLocalIdRecord (id : Int) : State :=
  if id = s.deviceOwnerId then (setDeviceOwnerId s f.owner (-1)).2 else s

/-- The end of a removal. `none` stands for the use of an item that was freed, as in
the removal of the constraints. -/
def removeOsAccountFiles (a : OperateAnswer) (id : Int) : Option (Ret × State) :=
  match sendMsgForAccountRemove s f a id with
  | (.error e, s) => some (.error e, s)
  | (.ok (), s) =>
      match removeOAConstraintsInfo f.removal id s.files with
      | none => none
      | some (.error e, files) => some (.error e, { s with files })
      | some (.ok (), files) => some (.ok (), checkAndRefreshLocalIdRecord { s with files } f id)

def removeOsAccountOperate (a : OperateAnswer) (id : Int) (osAccountInfo : AccountFile) (isCleanGarbage : Bool) :
    Option (Ret × State) :=
  if isCleanGarbage && !osAccountInfo.isCreateCompleted && !osAccountInfo.isDataRemovable then some (.ok (), s)
  else
    match delOsAccountType s b a.delOsAccountType id with
    | (.error e, s) => some (.error e, s)
    | (.ok (), s) =>
        match prepareRemoveOsAccount s b f a id osAccountInfo isCleanGarbage with
        | (.error e, s) => some (.error e, s)
        | (.ok (), s) => removeOsAccountFiles s f a id

structure RemoveAnswer where
  isOperating : Bool
  ask : Ret
  storage : Ret
  operate : OperateAnswer

def removeOsAccount (a : RemoveAnswer) (id : Int) : Option (Ret × State) :=
  if a.isOperating then some (.error .accountOperatingError, s)
  else
    match getRealOsAccountInfoById s b f.read a.ask id with
    | (.error _, s) => some (.error .accountNotExistError, s)
    | (.ok osAccountInfo, s) =>
        match a.storage with
        | .error e => some (.error e, s)
        | .ok () =>
            let osAccountInfo := { osAccountInfo with toBeRemoved := true }
            match updateOsAccount s f.update id osAccountInfo with
            | (.error e, s) => some (.error e, s)
            | (.ok (), s) => removeOsAccountOperate s b f a.operate id osAccountInfo false

structure CleanAnswer where
  id : Int
  isOperating : Bool
  ask : Ret
  operate : OperateAnswer

def cleanGarbageOsAccount (excludeId : Int) (a : CleanAnswer) : Option State :=
  if a.id = startUserId ∨ a.id = adminLocalId ∨ a.id = u1Id ∨ a.id = excludeId ∨ a.isOperating then some s
  else
    match getRealOsAccountInfoById s b f.read a.ask a.id with
    | (.error e, s) =>
        if e ≠ .accountNotExistError then some s
        else (removeOsAccountOperate s b f a.operate a.id { localId := a.id } true).map Prod.snd
    | (.ok osAccountInfo, s) =>
        if !osAccountInfo.toBeRemoved && osAccountInfo.isCreateCompleted then some s
        else (removeOsAccountOperate s b f a.operate a.id { osAccountInfo with localId := a.id } true).map Prod.snd

def cleanGarbageOsAccounts (excludeId : Int) (garbage : List CleanAnswer) : Option State :=
  garbage.foldlM (fun s a => cleanGarbageOsAccount s b f excludeId a) s

structure RollbackAnswer where
  delOsAccountType : Ret
  bundle : Ret
  storage : Ret

structure MsgAnswer where
  storage : Ret
  bundle : Ret
  highestHap : Ret
  subspace : Ret
  rollback : RollbackAnswer

def rollbackOsAccount (a : RollbackAnswer) (osAccountInfo : AccountFile) (needDelStorage needDelBms : Bool) : State :=
  match delOsAccountType s b a.delOsAccountType osAccountInfo.localId with
  | (.error _, s) => s
  | (.ok (), s) =>
      if !osAccountInfo.isDataRemovable then (delOsAccount s f osAccountInfo.localId).2
      else
        match if needDelBms then a.bundle else .ok (), if needDelStorage then a.storage else .ok () with
        | .error _, _ => s
        | .ok (), .error _ => s
        | .ok (), .ok () =>
            if osAccountInfo.domainInfo.accountName = "" then (delOsAccount s f osAccountInfo.localId).2 else s

def finalizeAccountCreate (a : MsgAnswer) (osAccountInfo : AccountFile) : Ret × State :=
  match a.subspace with
  | .error _ => (.error .updateAccountError, rollbackOsAccount s b f a.rollback osAccountInfo true true)
  | .ok () =>
      let osAccountInfo := { osAccountInfo with isCreateCompleted := true }
      match updateOsAccount s f.update osAccountInfo.localId osAccountInfo with
      | (.error _, s) => (.error .updateAccountError, rollbackOsAccount s b f a.rollback osAccountInfo true true)
      | (.ok (), s) => (.ok (), s)

def sendMsgForAccountCreate (a : MsgAnswer) (osAccountInfo : AccountFile) : Ret × State :=
  match a.storage with
  | .error _ => (.error .getSystemAbilityManager, rollbackOsAccount s b f a.rollback osAccountInfo false false)
  | .ok () =>
      match a.bundle with
      | .error e => (.error e, rollbackOsAccount s b f a.rollback osAccountInfo true false)
      | .ok () =>
          match a.highestHap with
          | .error e => (.error e, rollbackOsAccount s b f a.rollback osAccountInfo true true)
          | .ok () => finalizeAccountCreate s b f a osAccountInfo

/-- How the trusted environment answers in the end, and the accounts that are
cleaned up before if it has reached its limit. -/
structure TeeAnswer where
  garbage : List CleanAnswer
  result : Ret

def insertOsAccountTypeToTee (a : TeeAnswer) (id : Int) (type : OsAccountType) : Option (Ret × State) := do
  let s ← cleanGarbageOsAccounts s b f id a.garbage
  match a.result with
  | .error e => return (.error e, s)
  | .ok () => return (.ok (), { s with tee := s.tee.insert id type })

def insertOsAccountType (a : TeeAnswer) (id : Int) (type : OsAccountType) : Option (Ret × State) := do
  match ← insertOsAccountTypeToTee s b f a id type with
  | (.error e, s) => return (.error e, s)
  | (.ok (), s) => return (.ok (), updateAccountTypeCache s b id type false)

/-- What a creation is asked for. The constraints of a type are those of the
configuration file. -/
structure Creation where
  localName : String
  shortName : String
  type : OsAccountType
  hasToken : Bool
  isEdmCalling : Bool

/-- An administrator that is made without a token gets one more constraint, in its
record only. -/
def handleCreateOsAccountToken (a : TeeAnswer) (osAccountInfo : AccountFile) (c : Creation) :
    Option (Except ErrCode AccountFile × State) :=
  if c.hasToken then do
    match ← insertOsAccountType s b f a osAccountInfo.localId osAccountInfo.type with
    | (.error e, s) => return (.error e, s)
    | (.ok (), s) => return (.ok osAccountInfo, s)
  else if c.isEdmCalling then
    let constraints :=
      if osAccountInfo.type = .admin then osAccountInfo.constraints ++ [constraintAdminAuthorize]
      else osAccountInfo.constraints
    some (.ok { osAccountInfo with constraints },
      updateAccountTypeCache s b osAccountInfo.localId osAccountInfo.type true)
  else some (.error .privilegeDenied, s)

/-- The answers to the calls of a creation: the clean-up of the accounts that are in
the way, the id that all checks let through, and those after the insertion. -/
structure CreateAnswer where
  garbage : List CleanAnswer
  localId : Except ErrCode LocalId
  tee : TeeAnswer
  msg : MsgAnswer

variable (constraintsByType : OsAccountType → List String)

def prepareOsAccountInfo (localId : Except ErrCode LocalId) (c : Creation) : Except ErrCode AccountFile × State :=
  match localId with
  | .error e => (.error e, s)
  | .ok localId =>
      let osAccountInfo : AccountFile :=
        { localId := localId.val
          localName := c.localName
          shortName := c.shortName
          type := c.type
          constraints := constraintsByType c.type }
      match insertOsAccount s f osAccountInfo with
      | (.error e, s) => (.error e, s)
      | (.ok (), s) =>
          match updateBase s f osAccountInfo.localId osAccountInfo.constraints with
          | (.error e, s) => (.error e, s)
          | (.ok (), s) => (.ok osAccountInfo, s)

def createOsAccount (a : CreateAnswer) (c : Creation) : Option (Ret × State) := do
  let s ← cleanGarbageOsAccounts s b f (-1) a.garbage
  match prepareOsAccountInfo s f constraintsByType a.localId c with
  | (.error e, s) => return (.error e, s)
  | (.ok osAccountInfo, s) =>
      if b.supportAuthorization then
        match ← handleCreateOsAccountToken s b f a.tee osAccountInfo c with
        | (.error e, s) => return (.error e, s)
        | (.ok osAccountInfo, s) => return sendMsgForAccountCreate s b f a.msg osAccountInfo
      else return sendMsgForAccountCreate s b f a.msg osAccountInfo

/-- The answers to the calls of a creation with all fields: whether it may begin, the
removal of the account with the id, the serial number and the next id, and those after
the insertion. -/
structure FullInfoAnswer where
  begins : Ret
  removal : OperateAnswer
  numbers : Ret
  tee : TeeAnswer
  msg : MsgAnswer

def merge (l₁ l₂ : List String) : List String := List.merge l₁ l₂ fun x y => decide ¬y < x

def prepareOsAccountInfoWithFullInfo (numbers : Ret) (osAccountInfo : AccountFile) :
    Except ErrCode AccountFile × State :=
  match numbers with
  | .error e => (.error e, s)
  | .ok () =>
      let osAccountInfo := { osAccountInfo with isCreateCompleted := false, isDataRemovable := false }
      match insertOsAccount s f osAccountInfo with
      | (.error e, s) => if e = .insertFileExistsError then update s osAccountInfo else (.error e, s)
      | (.ok (), s) => update s osAccountInfo
where
  update (s : State) (osAccountInfo : AccountFile) : Except ErrCode AccountFile × State :=
    let constraints := merge (constraintsByType osAccountInfo.type) osAccountInfo.constraints
    match updateBase s f osAccountInfo.localId constraints with
    | (.error e, s) => (.error e, s)
    | (.ok (), s) => (.ok { osAccountInfo with constraints }, s)

def createOsAccountWithFullInfo (a : FullInfoAnswer) (osAccountInfo : AccountFile) (hasToken : Bool) :
    Option (Ret × State) :=
  match a.begins with
  | .error e => some (.error e, s)
  | .ok () =>
      match getOsAccountInfoById s f.read osAccountInfo.localId with
      | .error e => if e = .accountNotExistError then create s else some (.error e, s)
      | .ok oldInfo =>
          if oldInfo.isCreateCompleted then
            if oldInfo.toBeRemoved then do
              match ← removeOsAccountOperate s b f a.removal osAccountInfo.localId osAccountInfo false with
              | (.error e, s) => return (.error e, s)
              | (.ok (), s) => create s
            else some (.error .accountAlreadyExistError, s)
          else create s
where
  create (s : State) : Option (Ret × State) :=
    match prepareOsAccountInfoWithFullInfo s f constraintsByType a.numbers osAccountInfo with
    | (.error e, s) => some (.error e, s)
    | (.ok osAccountInfo, s) =>
        if b.supportAuthorization && hasToken then do
          match ← insertOsAccountType s b f a.tee osAccountInfo.localId osAccountInfo.type with
          | (.error e, s) => return (.error e, s)
          | (.ok (), s) => return sendMsgForAccountCreate s b f a.msg osAccountInfo
        else
          let s := updateAccountTypeCache s b osAccountInfo.localId osAccountInfo.type true
          some (sendMsgForAccountCreate s b f a.msg osAccountInfo)

def updateOsAccountWithFullInfo (isOperating : Bool) (newInfo : AccountFile) : Ret × State :=
  if isOperating then (.error .accountOperatingError, s)
  else
    match getOsAccountInfoById s f.read newInfo.localId with
    | .error e => (.error e, s)
    | .ok oldInfo => updateOsAccount s f.update newInfo.localId { oldInfo with
        localName := newInfo.localName
        type := newInfo.type
        photo := newInfo.photo
        constraints := newInfo.constraints }

structure TypeAnswer where
  checkTypeNumber : Ret
  isOperating : Bool
  tee : Ret

def setOsAccountType (a : TypeAnswer) (id : Int) (type : OsAccountType) : Ret × State :=
  match getOsAccountInfoById s f.read id, a.checkTypeNumber with
  | .error e, _ => (.error e, s)
  | .ok _, .error e => (.error e, s)
  | .ok osAccountInfo, .ok () =>
      if a.isOperating then (.error .accountOperatingError, s)
      else
        match if b.supportAuthorization then a.tee else .ok () with
        | .error e => (.error e, s)
        | .ok () =>
            let s := if b.supportAuthorization then { s with tee := s.tee.insert id type } else s
            let s := updateAccountTypeCache s b id type false
            let constraints :=
              if type = .admin then osAccountInfo.constraints.filter (· ≠ constraintAdminAuthorize)
              else osAccountInfo.constraints
            let (ret, s) := updateOsAccount s f.update id { osAccountInfo with type, constraints }
            (if b.supportAuthorization then .ok () else ret, s)

/-- The operations on accounts and constraints, with the answers to their calls. `read`
is what every query does: it reads an account. -/
inductive Op
  | createOsAccount (a : CreateAnswer) (c : Creation)
  | createOsAccountWithFullInfo (a : FullInfoAnswer) (osAccountInfo : AccountFile) (hasToken : Bool)
  | updateOsAccountWithFullInfo (isOperating : Bool) (newInfo : AccountFile)
  | setBaseOsAccountConstraints (definition : Option Definition) (id : Int) (constraints : List String)
      (enable : Bool)
  | setGlobalOsAccountConstraints (definition : Option Definition) (constraints : List String) (enable : Bool)
      (enforcerId : LocalId) (isDeviceOwner : Bool)
  | setSpecificOsAccountConstraints (definition : Option Definition) (constraints : List String) (enable : Bool)
      (targetId enforcerId : LocalId) (isDeviceOwner : Bool)
  | setOsAccountType (a : TypeAnswer) (id : Int) (type : OsAccountType)
  | removeOsAccount (a : RemoveAnswer) (id : Int)
  | read (ask : Ret) (id : Int)

def settersSucceed (definition : Option Definition) : SetAnswer :=
  ⟨.ok (), .ok (), .ok (), definition, .ok (), ⟨.ok (), .ok ()⟩, ⟨.ok (), .ok ()⟩⟩

def perform : Op → Option State
  | .createOsAccount a c => (createOsAccount s b filesSucceed constraintsByType a c).map Prod.snd
  | .createOsAccountWithFullInfo a osAccountInfo hasToken =>
      (createOsAccountWithFullInfo s b filesSucceed constraintsByType a osAccountInfo hasToken).map Prod.snd
  | .updateOsAccountWithFullInfo isOperating newInfo =>
      some (updateOsAccountWithFullInfo s filesSucceed isOperating newInfo).2
  | .setBaseOsAccountConstraints definition id constraints enable =>
      some (setBaseOsAccountConstraints s (settersSucceed definition) id constraints enable).2
  | .setGlobalOsAccountConstraints definition constraints enable enforcerId isDeviceOwner =>
      some (setGlobalOsAccountConstraints s (settersSucceed definition) constraints enable enforcerId.val
        isDeviceOwner).2
  | .setSpecificOsAccountConstraints definition constraints enable targetId enforcerId isDeviceOwner =>
      some (setSpecificOsAccountConstraints s (settersSucceed definition) constraints enable targetId.val enforcerId.val
        isDeviceOwner).2
  | .setOsAccountType a id type => some (setOsAccountType s b filesSucceed a id type).2
  | .removeOsAccount a id => (removeOsAccount s b filesSucceed a id).map Prod.snd
  | .read ask id => some (getRealOsAccountInfoById s b (.ok ()) ask id).2

end OsAccount.AccountWriters
