import OsAccount.OsAccountInfo
import OsAccount.OrderedMap

namespace OsAccount.AccountDirectory

open Std AccountList

/-- The ids of the account list, the account files, and the id to try next. The
texts of a file are as its document has them. -/
structure Directory where
  accountIdList : List Int
  accounts : ExtTreeMap Int OsAccountInfo compare
  nextLocalId : Int

def initial (localName : String) : Directory where
  accountIdList := [startUserId]
  accounts := (∅ : ExtTreeMap Int OsAccountInfo compare).insert startUserId
    { localId := startUserId, localName := CText.cStr localName, isCreateCompleted := true, isDataRemovable := false }
  nextLocalId := startUserId + 1

variable (d : Directory)

def getOsAccountList : List OsAccountInfo := d.accountIdList.filterMap fun id => d.accounts[id]?

def queryAllCreatedOsAccounts : List OsAccountInfo :=
  (d.accountIdList.map fun id => d.accounts[id]?.getD {}).filter fun info => info.isCreateCompleted && !info.toBeRemoved

def isNonSACreated (id : Int) : Bool :=
  match d.accounts[id]? with
  | some info => !info.creatorIsNative
  | none => true

def getNonSACreatedOACount : Nat := d.accountIdList.countP (isNonSACreated d)

def validateAgainst (osAccountInfo : OsAccountInfo) : List OsAccountInfo → Ret
  | [] => .ok ()
  | info :: osAccountInfos =>
      if info.type = .privateType ∨ info.localId = osAccountInfo.localId ∨ info.toBeRemoved then
        validateAgainst osAccountInfo osAccountInfos
      else if osAccountInfo.localName = info.localName then .error .nameHadExisted
      else if osAccountInfo.shortName ≠ "" ∧ osAccountInfo.shortName = info.shortName then .error .shortNameHadExisted
      else validateAgainst osAccountInfo osAccountInfos

def validateOsAccount (osAccountInfo : OsAccountInfo) : Ret :=
  if osAccountInfo.type = .privateType then .ok () else validateAgainst osAccountInfo (getOsAccountList d)

def maxPrivateTypeNumber : Nat := 1

def maxMaintenanceTypeNumber : Nat := 1

def getTypeNumber (type : OsAccountType) : Nat := (queryAllCreatedOsAccounts d).countP fun info => info.type = type

def checkTypeNumber (type : OsAccountType) : Ret :=
  if type = .privateType ∧ getTypeNumber d type ≥ maxPrivateTypeNumber then .error .maxTypeCanCreateError
  else if type = .maintenance ∧ getTypeNumber d type ≥ maxMaintenanceTypeNumber then .error .maxTypeCanCreateError
  else .ok ()

/-- The answers when an account is deleted. After an error the file of the account
may be gone, with its directory left. -/
structure DelAnswer where
  deleteDirOrFile : Ret
  emptied : Bool
  updateAccountList : Ret

def delOsAccount (a : DelAnswer) (id : Int) : Ret × Directory :=
  if id ≤ startUserId ∨ id > maxUserId then (.error .cannotDeleteIdError, d)
  else
    match a.deleteDirOrFile with
    | .error e => (.error e, if a.emptied then { d with accounts := d.accounts.erase id } else d)
    | .ok () =>
        let d := { d with accounts := d.accounts.erase id }
        match a.updateAccountList with
        | .error e => (.error e, d)
        | .ok () => (.ok (), { d with accountIdList := d.accountIdList.filter (· ≠ id) })

/-- `updateAccountList` and `inputFile` are the answers of the file system. The
list is written before the file. -/
def insertOsAccount (updateAccountList inputFile : Ret) (osAccountInfo : OsAccountInfo) : Ret × Directory :=
  let id := osAccountInfo.localId
  if id < adminLocalId then (.error .idCannotCreateError, d)
  else if id ∈ d.accounts then (.error .insertFileExistsError, d)
  else
    match if id ≥ startUserId then updateAccountList else .ok () with
    | .error e => (.error e, d)
    | .ok () =>
        let d := if id ≥ startUserId ∧ id ∉ d.accountIdList
          then { d with accountIdList := d.accountIdList ++ [id] } else d
        match inputFile with
        | .error e => (.error e, d)
        | .ok () => (.ok (), { d with accounts := d.accounts.insert id osAccountInfo.stored })

def updateOsAccount (inputFile : Ret) (osAccountInfo : OsAccountInfo) : Ret × Directory :=
  if osAccountInfo.localId ∉ d.accounts then (.error .updateFileNotExistsError, d)
  else
    match inputFile with
    | .error e => (.error e, d)
    | .ok () => (.ok (), { d with accounts := d.accounts.insert osAccountInfo.localId osAccountInfo.stored })

structure RemovalAnswer where
  before : Ret
  del : DelAnswer
  after : Ret

def removeOsAccountOperate (a : RemovalAnswer) (osAccountInfo : OsAccountInfo) (isCleanGarbage : Bool) :
    Ret × Directory :=
  if isCleanGarbage && !osAccountInfo.isCreateCompleted && !osAccountInfo.isDataRemovable then (.ok (), d)
  else
    match a.before with
    | .error e => (.error e, d)
    | .ok () =>
        match delOsAccount d a.del osAccountInfo.localId with
        | (.error e, d) => (.error e, d)
        | (.ok (), d) => (a.after, d)

/-- One turn of the loop of `CleanGarbageOsAccounts`, with what it adds to the count. -/
def cleanGarbageOsAccount (a : RemovalAnswer) (excludeId id : Int) : Nat × Directory :=
  if id = startUserId ∨ id = adminLocalId ∨ id = u1Id ∨ id = excludeId then (0, d)
  else
    let osAccountInfo := { d.accounts[id]?.getD {} with localId := id }
    if !osAccountInfo.toBeRemoved && osAccountInfo.isCreateCompleted then (0, d)
    else
      match removeOsAccountOperate d a osAccountInfo true with
      | (.ok (), d) => (1, d)
      | (.error _, d) => (0, d)

def cleanGarbageOsAccountsIn (a : Int → RemovalAnswer) (excludeId : Int) : List Int → Directory → Nat × Directory
  | [], d => (0, d)
  | id :: idList, d =>
      let (n, d) := cleanGarbageOsAccount d (a id) excludeId id
      let (m, d) := cleanGarbageOsAccountsIn a excludeId idList d
      (n + m, d)

def cleanGarbageOsAccounts (a : Int → RemovalAnswer) (excludeId : Int) : Nat × Directory :=
  cleanGarbageOsAccountsIn a excludeId d.accountIdList d

def checkAndCleanOsAccounts (maxOsAccountNum : Nat) (a : Int → RemovalAnswer) : Bool × Directory :=
  if getNonSACreatedOACount d < maxOsAccountNum then (true, d)
  else
    let (n, d) := cleanGarbageOsAccounts d a (-1)
    (0 < n, d)

structure Creation where
  localName : String
  shortName : String
  type : OsAccountType
  specifiedId : Option Int
  domainInfo : DomainAccountInfo
  isSaCall : Bool

/-- The answers to the calls that a creation makes. The cleanings are those of the
quota check and of the search for an id, and those that the trusted environment
and the storage service make necessary. The system says how long a name may be. -/
structure CreateAnswer where
  isCreationAllowed : Bool
  cleaning : Int → RemovalAnswer
  idCleaning : Int → RemovalAnswer
  laterCleanings : List (Int → RemovalAnswer)
  getSerialNumber : Ret
  saveNextLocalId : Ret
  getConstraintsByType : Ret
  localNameMaxSize : Nat
  updateAccountList : Ret
  inputFile : Ret
  updateBaseOAConstraints : Ret
  setOsAccountType : Ret
  sendMsg : Ret
  updateOsAccount : Ret
  rollback : Ret
  del : DelAnswer
  removal : RemovalAnswer

def assignSpecifiedLocalId (a : CreateAnswer) (specifiedId : Int) : Except ErrCode Int × Directory :=
  if specifiedId < startUserId ∨ specifiedId > maxCreatableUserId then (.error .invalidParameter, d)
  else
    match d.accounts[specifiedId]? with
    | some info =>
        if !info.toBeRemoved && info.isCreateCompleted then (.error .localIdAlreadyExistsError, d)
        else assign (cleanGarbageOsAccounts d a.idCleaning (-1)).2
    | none => assign (cleanGarbageOsAccounts d a.idCleaning (-1)).2
where
  assign (d : Directory) : Except ErrCode Int × Directory :=
    if specifiedId ∈ d.accounts then (.error .localIdAlreadyExistsError, d)
    else
      match a.saveNextLocalId with
      | .error e => (.error e, d)
      | .ok () => (.ok specifiedId, { d with nextLocalId := max (specifiedId + 1) d.nextLocalId })

def getAllowCreateId (a : CreateAnswer) : Except ErrCode Int × Directory :=
  let id := getNextLocalId (d.accountIdList.map toString) d.nextLocalId
  if id > maxCreatableUserId then (.error .maxCanCreateError, d)
  else
    match a.saveNextLocalId with
    | .error e => (.error e, d)
    | .ok () => (.ok id, { d with nextLocalId := id + 1 })

def newLocalId (a : CreateAnswer) (c : Creation) : Except ErrCode Int × Directory :=
  if c.type = .maintenance then (.ok maintenanceModeId, d)
  else
    match c.specifiedId with
    | some specifiedId => assignSpecifiedLocalId d a specifiedId
    | none => getAllowCreateId d a

def fillOsAccountInfo (a : CreateAnswer) (c : Creation) : Except ErrCode OsAccountInfo × Directory :=
  match a.getSerialNumber with
  | .error e => (.error e, d)
  | .ok () =>
      match newLocalId d a c with
      | (.error e, d) => (.error e, d)
      | (.ok localId, d) =>
          match a.getConstraintsByType with
          | .error e => (.error e, d)
          | .ok () =>
              if ¬ c.domainInfo.Fits a.localNameMaxSize then (.error .createOsAccountForDomainError, d)
              else (.ok {
                localId
                localName := c.localName
                shortName := c.shortName
                type := c.type
                domainInfo := c.domainInfo
                creatorIsNative := c.isSaCall }, d)

def prepareOsAccountInfo (a : CreateAnswer) (c : Creation) : Except ErrCode OsAccountInfo × Directory :=
  match fillOsAccountInfo d a c with
  | (.error e, d) => (.error e, d)
  | (.ok osAccountInfo, d) =>
      match validateOsAccount d osAccountInfo, checkTypeNumber d c.type with
      | .error e, _ => (.error e, d)
      | .ok (), .error e => (.error (if e = .maxTypeCanCreateError then .maxCanCreateError else e), d)
      | .ok (), .ok () =>
          match insertOsAccount d a.updateAccountList a.inputFile osAccountInfo with
          | (.error e, d) => (.error e, d)
          | (.ok (), d) =>
              match a.updateBaseOAConstraints with
              | .error e => (.error e, d)
              | .ok () => (.ok osAccountInfo, d)

def rollbackOsAccount (a : CreateAnswer) (osAccountInfo : OsAccountInfo) : Directory :=
  match a.rollback with
  | .error _ => d
  | .ok () =>
      if osAccountInfo.isDataRemovable ∧ osAccountInfo.domainInfo.accountName ≠ "" then d
      else (delOsAccount d a.del osAccountInfo.localId).2

def laterCleanings (a : CreateAnswer) (localId : Int) : Directory :=
  a.laterCleanings.foldl (fun d cleaning => (cleanGarbageOsAccounts d cleaning localId).2) d

def sendMsgForAccountCreate (a : CreateAnswer) (osAccountInfo : OsAccountInfo) : Ret × Directory :=
  match a.sendMsg with
  | .error e => (.error e, rollbackOsAccount d a osAccountInfo)
  | .ok () =>
      let osAccountInfo := { osAccountInfo with isCreateCompleted := true }
      match updateOsAccount d a.updateOsAccount osAccountInfo with
      | (.error _, d) => (.error .updateAccountError, rollbackOsAccount d a osAccountInfo)
      | (.ok (), d) => (.ok (), d)

def createOsAccount (maxOsAccountNum : Nat) (a : CreateAnswer) (c : Creation) : Ret × Directory :=
  if !a.isCreationAllowed then (.error .notAllowedCreationError, d)
  else
    match if c.isSaCall then (true, d) else checkAndCleanOsAccounts d maxOsAccountNum a.cleaning with
    | (false, d) => (.error .maxCanCreateError, d)
    | (true, d) =>
        match prepareOsAccountInfo d a c with
        | (.error e, d) => (.error e, d)
        | (.ok osAccountInfo, d) =>
            let d := laterCleanings d a osAccountInfo.localId
            match a.setOsAccountType with
            | .error e => (.error e, d)
            | .ok () => sendMsgForAccountCreate d a osAccountInfo

def createOsAccountWithFullInfo (a : CreateAnswer) (osAccountInfo : OsAccountInfo) : Ret × Directory :=
  if !a.isCreationAllowed then (.error .notAllowedCreationError, d)
  else
    match d.accounts[osAccountInfo.localId]? with
    | some oldInfo =>
        if oldInfo.isCreateCompleted then
          if oldInfo.toBeRemoved then
            match removeOsAccountOperate d a.removal osAccountInfo false with
            | (.error e, d) => (.error e, d)
            | (.ok (), d) => create d
          else (.error .accountAlreadyExistError, d)
        else create d
    | none => create d
where
  create (d : Directory) : Ret × Directory :=
    let osAccountInfo := { osAccountInfo with isCreateCompleted := false, isDataRemovable := false }
    match a.getSerialNumber, a.saveNextLocalId with
    | .error e, _ => (.error e, d)
    | .ok (), .error e => (.error e, d)
    | .ok (), .ok () =>
        let d := { d with nextLocalId := max (osAccountInfo.localId + 1) d.nextLocalId }
        let (inserted, d) := insertOsAccount d a.updateAccountList a.inputFile osAccountInfo
        if inserted ≠ .ok () ∧ inserted ≠ .error .insertFileExistsError then (inserted, d)
        else
          match a.getConstraintsByType, a.updateBaseOAConstraints with
          | .error e, _ => (.error e, d)
          | .ok (), .error e => (.error e, d)
          | .ok (), .ok () =>
              let d := laterCleanings d a osAccountInfo.localId
              match a.setOsAccountType with
              | .error e => (.error e, d)
              | .ok () => sendMsgForAccountCreate d a osAccountInfo

def isSameDomainAccount (info curInfo : DomainAccountInfo) : Bool :=
  (info.accountId ≠ "" ∧ curInfo.accountId = info.accountId) ∨
    (curInfo.accountName = info.accountName ∧ curInfo.domain = info.domain)

def getOsAccountsByDomainInfo (info : DomainAccountInfo) : List OsAccountInfo :=
  (d.accountIdList.map fun id => d.accounts[id]?.getD {}).filter fun osAccountInfo =>
    isSameDomainAccount info osAccountInfo.domainInfo

/-- One turn of `CheckDomainAccountBound`: an account that cannot be removed keeps
the domain account bound. -/
def staysBound (a : RemovalAnswer) (osAccountInfo : OsAccountInfo) : Bool × Directory :=
  if osAccountInfo.isCreateCompleted && !osAccountInfo.toBeRemoved then (true, d)
  else
    match removeOsAccountOperate d a osAccountInfo true with
    | (.ok (), d) => (false, d)
    | (.error _, d) => (true, d)

def anyStaysBound (a : Int → RemovalAnswer) : List OsAccountInfo → Directory → Bool × Directory
  | [], d => (false, d)
  | osAccountInfo :: osAccountInfos, d =>
      let (bound, d) := staysBound d (a osAccountInfo.localId) osAccountInfo
      let (rest, d) := anyStaysBound a osAccountInfos d
      (bound || rest, d)

def checkDomainAccountBound (a : Int → RemovalAnswer) (info : DomainAccountInfo) : Bool × Directory :=
  anyStaysBound a (getOsAccountsByDomainInfo d info) d

def firstAccount (isEnabled : Bool) : Option OsAccountInfo :=
  match queryAllCreatedOsAccounts d with
  | [osAccountInfo] =>
      if isEnabled ∧ osAccountInfo.localId = startUserId ∧ osAccountInfo.domainInfo.domain = "" then some osAccountInfo
      else none
  | _ => none

/-- The account is named after the domain account. `isEnabled` says whether
accounts may not be created directly. -/
def bindDomainAccount (a : CreateAnswer) (isEnabled : Bool) (c : Creation) : Except ErrCode OsAccountInfo × Directory :=
  match checkDomainAccountBound d a.cleaning c.domainInfo with
  | (true, d) => (.error .domainAlreadyBindError, d)
  | (false, d) =>
      match firstAccount d isEnabled with
      | some osAccountInfo => update d { osAccountInfo with
          localName := c.domainInfo.accountName
          shortName := c.shortName
          domainInfo := osAccountInfo.domainInfo.setDomainInfo a.localNameMaxSize c.domainInfo }
      | none =>
          match prepareOsAccountInfo d a { c with localName := c.domainInfo.accountName } with
          | (.error e, d) => (.error e, d)
          | (.ok osAccountInfo, d) => update d osAccountInfo
where
  update (d : Directory) (osAccountInfo : OsAccountInfo) : Except ErrCode OsAccountInfo × Directory :=
    match updateOsAccount d a.updateOsAccount osAccountInfo with
    | (.error e, d) => (.error e, d)
    | (.ok (), d) => (.ok osAccountInfo, d)

/-- `BindDomainAccountCallback`, with what the plug-in said to the binding. -/
def completeDomainAccount (a : CreateAnswer) (bound : Ret) (osAccountInfo : OsAccountInfo) : Ret × Directory :=
  if osAccountInfo.localId = startUserId then (bound, d)
  else
    match bound, a.setOsAccountType with
    | .error e, _ => (.error e, (delOsAccount d a.removal.del osAccountInfo.localId).2)
    | .ok (), .error e => (.error e, unbind d)
    | .ok (), .ok () =>
        match sendMsgForAccountCreate (laterCleanings d a osAccountInfo.localId) a osAccountInfo with
        | (.error e, d) => (.error e, unbind d)
        | (.ok (), d) => (.ok (), d)
where
  unbind (d : Directory) : Directory :=
    match a.removal.before with
    | .error _ => d
    | .ok () => (delOsAccount d a.removal.del osAccountInfo.localId).2

/-- The answers of the plug-in: the domain account that it knows under what it is
asked for, and whether it has bound that account. Between them the service takes
down the binding. -/
structure PluginAnswer where
  isPluginAvailable : Bool
  getDomainAccountInfo : Except ErrCode DomainAccountInfo
  onAccountBound : Ret
  bound : Ret

/-- `CheckAndCreateDomainAccountCallback`: what is bound is the domain account that
the plug-in answers with. It may call back in the name of a system ability. -/
def onDomainAccountInfo (a : CreateAnswer) (p : PluginAnswer) (isEnabled isSaCallback : Bool) (c : Creation) :
    Ret × Directory :=
  match p.getDomainAccountInfo with
  | .error e => (.error e, d)
  | .ok domainInfo =>
      if domainInfo.accountName = "" ∨ domainInfo.domain = "" then (.error .jsAccountNotFound, d)
      else
        match bindDomainAccount d a isEnabled { c with domainInfo, isSaCall := isSaCallback } with
        | (.error e, d) => (.error e, d)
        | (.ok osAccountInfo, d) =>
            match p.onAccountBound with
            | .error e => (.error e, d)
            | .ok () => completeDomainAccount d a p.bound osAccountInfo

/-- The creation for a domain account, with the calls that the plug-in makes back.
Only the created accounts are counted, and those of a system ability are not. -/
def createOsAccountForDomain (maxOsAccountNum : Nat) (a : CreateAnswer) (p : PluginAnswer)
    (bound : Int → RemovalAnswer) (isEnabled isSaCallback : Bool) (c : Creation) : Ret × Directory :=
  if !a.isCreationAllowed then (.error .notAllowedCreationError, d)
  else
    match checkDomainAccountBound d bound c.domainInfo with
    | (true, d) => (.error .domainAlreadyBindError, d)
    | (false, d) =>
        if !c.isSaCall &&
            (queryAllCreatedOsAccounts d).countP (fun info => !info.creatorIsNative) ≥ maxOsAccountNum then
          (.error .maxCanCreateError, d)
        else if !p.isPluginAvailable then (.error .pluginNotExist, d)
        else onDomainAccountInfo d a p isEnabled isSaCallback c

def updateOsAccountWithFullInfo (inputFile : Ret) (newInfo : OsAccountInfo) : Ret × Directory :=
  match d.accounts[newInfo.localId]? with
  | none => (.error .accountNotExistError, d)
  | some oldInfo => updateOsAccount d inputFile { oldInfo with localName := newInfo.localName, type := newInfo.type }

def setOsAccountName (inputFile : Ret) (id : Int) (name : String) : Ret × Directory :=
  match d.accounts[id]? with
  | none => (.error .accountNotExistError, d)
  | some osAccountInfo =>
      if osAccountInfo.toBeRemoved then (.error .toBeRemovedError, d)
      else if osAccountInfo.localName = name then (.ok (), d)
      else
        let osAccountInfo := { osAccountInfo with localName := name }
        match validateOsAccount d osAccountInfo with
        | .error e => (.error e, d)
        | .ok () =>
            match updateOsAccount d inputFile osAccountInfo with
            | (.error _, d) => (.error .updateAccountError, d)
            | (.ok (), d) => (.ok (), d)

/-- `reset` is the answer when the default account of the display is reset. -/
def setOsAccountToBeRemoved (reset inputFile : Ret) (localId : Int) (toBeRemoved : Bool) : Ret × Directory :=
  match d.accounts[localId]? with
  | none => (.error .accountNotExistError, d)
  | some osAccountInfo =>
      match if toBeRemoved then reset else .ok () with
      | .error e => (.error e, d)
      | .ok () => updateOsAccount d inputFile { osAccountInfo with toBeRemoved }

def removeOsAccount (storage inputFile : Ret) (a : RemovalAnswer) (id : Int) : Ret × Directory :=
  match d.accounts[id]? with
  | none => (.error .accountNotExistError, d)
  | some osAccountInfo =>
      match storage with
      | .error e => (.error e, d)
      | .ok () =>
          let osAccountInfo := { osAccountInfo with toBeRemoved := true }
          match updateOsAccount d inputFile osAccountInfo with
          | (.error e, d) => (.error e, d)
          | (.ok (), d) => removeOsAccountOperate d a osAccountInfo false

inductive Event
  | createOsAccount (a : CreateAnswer) (c : Creation)
  | createOsAccountWithFullInfo (a : CreateAnswer) (osAccountInfo : OsAccountInfo)
  | bindDomainAccount (a : CreateAnswer) (isEnabled : Bool) (c : Creation)
  | createOsAccountForDomain (a : CreateAnswer) (p : PluginAnswer) (bound : Int → RemovalAnswer)
      (isEnabled isSaCallback : Bool) (c : Creation)
  | updateOsAccountWithFullInfo (inputFile : Ret) (newInfo : OsAccountInfo)
  | setOsAccountName (inputFile : Ret) (id : Int) (name : String)
  | setOsAccountToBeRemoved (reset inputFile : Ret) (localId : Int) (toBeRemoved : Bool)
  | removeOsAccount (storage inputFile : Ret) (a : RemovalAnswer) (id : Int)
  | cleanGarbageOsAccounts (a : Int → RemovalAnswer)

def perform (maxOsAccountNum : Nat) : Event → Ret × Directory
  | .createOsAccount a c => createOsAccount d maxOsAccountNum a c
  | .createOsAccountWithFullInfo a osAccountInfo => createOsAccountWithFullInfo d a osAccountInfo
  | .bindDomainAccount a isEnabled c =>
      match bindDomainAccount d a isEnabled c with
      | (.error e, d) => (.error e, d)
      | (.ok _, d) => (.ok (), d)
  | .createOsAccountForDomain a p bound isEnabled isSaCallback c =>
      createOsAccountForDomain d maxOsAccountNum a p bound isEnabled isSaCallback c
  | .updateOsAccountWithFullInfo inputFile newInfo => updateOsAccountWithFullInfo d inputFile newInfo
  | .setOsAccountName inputFile id name => setOsAccountName d inputFile id name
  | .setOsAccountToBeRemoved reset inputFile localId toBeRemoved =>
      setOsAccountToBeRemoved d reset inputFile localId toBeRemoved
  | .removeOsAccount storage inputFile a id => removeOsAccount d storage inputFile a id
  | .cleanGarbageOsAccounts a => (.ok (), (cleanGarbageOsAccounts d a (-1)).2)

def step (maxOsAccountNum : Nat) (d : Directory) (e : Event) : Directory := (perform d maxOsAccountNum e).2

def everythingRemoved : RemovalAnswer := ⟨.ok (), ⟨.ok (), true, .ok ()⟩, .ok ()⟩

def everythingSucceeds : CreateAnswer where
  isCreationAllowed := true
  cleaning _ := everythingRemoved
  idCleaning _ := everythingRemoved
  laterCleanings := []
  getSerialNumber := .ok ()
  saveNextLocalId := .ok ()
  getConstraintsByType := .ok ()
  localNameMaxSize := 256
  updateAccountList := .ok ()
  inputFile := .ok ()
  updateBaseOAConstraints := .ok ()
  setOsAccountType := .ok ()
  sendMsg := .ok ()
  updateOsAccount := .ok ()
  rollback := .ok ()
  del := everythingRemoved.del
  removal := everythingRemoved

def creation (localName : String) : Creation := ⟨localName, "", .normal, none, {}, false⟩

structure Shrinks (d d' : Directory) : Prop where
  accounts : ∀ (n : Int) (info : OsAccountInfo), d'.accounts[n]? = some info → d.accounts[n]? = some info
  sublist : d'.accountIdList.Sublist d.accountIdList
  files : ∀ (n : Int) (info : OsAccountInfo),
    d'.accounts[n]? = some info → n ∈ d.accountIdList → n ∈ d'.accountIdList

section shrinks

variable {d} {d₁ d₂ : Directory}

theorem Shrinks.refl (d : Directory) : Shrinks d d := ⟨fun _ _ h => h, List.Sublist.refl _, fun _ _ _ h => h⟩

theorem Shrinks.trans (h₁ : Shrinks d d₁) (h₂ : Shrinks d₁ d₂) : Shrinks d d₂ where
  accounts n info h := h₁.accounts n info (h₂.accounts n info h)
  sublist := h₂.sublist.trans h₁.sublist
  files n info h hn := h₂.files n info h (h₁.files n info (h₂.accounts n info h) hn)

theorem shrinks_erase (d : Directory) (id : Int) : Shrinks d { d with accounts := d.accounts.erase id } := by
  refine ⟨?_, List.Sublist.refl _, fun _ _ _ h => h⟩
  intro n info h
  dsimp only at h
  rw [OrderedMap.getElem?_erase_eq] at h
  split at h
  · cases h
  · exact h

theorem shrinks_delOsAccount (a : DelAnswer) (id : Int) : Shrinks d (delOsAccount d a id).2 := by
  have herase := shrinks_erase d id
  unfold delOsAccount
  split
  · exact Shrinks.refl d
  split
  · dsimp only
    split
    · exact herase
    · exact Shrinks.refl d
  · dsimp only
    split
    · exact herase
    · refine ⟨herase.accounts, List.filter_sublist, ?_⟩
      intro n info h hn
      refine List.mem_filter.2 ⟨hn, ?_⟩
      dsimp only at h
      rw [OrderedMap.getElem?_erase_eq] at h
      split at h
      · cases h
      · rename_i hne
        exact decide_eq_true fun he => hne he.symm

theorem shrinks_removeOsAccountOperate (a : RemovalAnswer) (osAccountInfo : OsAccountInfo) (isCleanGarbage : Bool) :
    Shrinks d (removeOsAccountOperate d a osAccountInfo isCleanGarbage).2 := by
  have hdel := shrinks_delOsAccount (d := d) a.del osAccountInfo.localId
  unfold removeOsAccountOperate
  split
  · exact Shrinks.refl d
  split
  · exact Shrinks.refl d
  · split <;> rename_i hr <;> rwa [hr] at hdel

theorem shrinks_cleanGarbageOsAccount (a : RemovalAnswer) (excludeId id : Int) :
    Shrinks d (cleanGarbageOsAccount d a excludeId id).2 := by
  unfold cleanGarbageOsAccount
  split
  · exact Shrinks.refl d
  dsimp only
  split
  · exact Shrinks.refl d
  · have hremove := shrinks_removeOsAccountOperate
        (d := d) a { d.accounts[id]?.getD {} with localId := id } true
    split <;> rename_i hr <;> rwa [hr] at hremove

theorem shrinks_cleanGarbageOsAccounts (a : Int → RemovalAnswer) (excludeId : Int) :
    Shrinks d (cleanGarbageOsAccounts d a excludeId).2 := by
  unfold cleanGarbageOsAccounts
  generalize d.accountIdList = idList
  induction idList generalizing d with
  | nil => exact Shrinks.refl d
  | cons id idList ih => exact (shrinks_cleanGarbageOsAccount (a id) excludeId id).trans ih

theorem shrinks_checkAndCleanOsAccounts (maxOsAccountNum : Nat) (a : Int → RemovalAnswer) :
    Shrinks d (checkAndCleanOsAccounts d maxOsAccountNum a).2 := by
  unfold checkAndCleanOsAccounts
  split
  · exact Shrinks.refl d
  · exact shrinks_cleanGarbageOsAccounts a (-1)

theorem shrinks_laterCleanings (a : CreateAnswer) (localId : Int) : Shrinks d (laterCleanings d a localId) := by
  unfold laterCleanings
  induction a.laterCleanings generalizing d with
  | nil => exact Shrinks.refl d
  | cons cleaning cleanings ih => exact (shrinks_cleanGarbageOsAccounts cleaning localId).trans ih

theorem shrinks_rollbackOsAccount (a : CreateAnswer) (osAccountInfo : OsAccountInfo) :
    Shrinks d (rollbackOsAccount d a osAccountInfo) := by
  unfold rollbackOsAccount
  split
  · exact Shrinks.refl d
  split
  · exact Shrinks.refl d
  · exact shrinks_delOsAccount a.del osAccountInfo.localId

theorem shrinks_nextLocalId (d : Directory) (nextLocalId : Int) : Shrinks d { d with nextLocalId } :=
  ⟨fun _ _ h => h, List.Sublist.refl _, fun _ _ _ h => h⟩

theorem shrinks_newLocalId (a : CreateAnswer) (c : Creation) : Shrinks d (newLocalId d a c).2 := by
  have hassign : ∀ (specifiedId : Int) (d : Directory), Shrinks d
      (assignSpecifiedLocalId.assign a specifiedId d).2 := by
    intro specifiedId d
    unfold assignSpecifiedLocalId.assign
    split
    · exact Shrinks.refl d
    split
    · exact Shrinks.refl d
    · exact shrinks_nextLocalId d _
  have hclean : ∀ specifiedId,
      Shrinks d (assignSpecifiedLocalId.assign a specifiedId
          (cleanGarbageOsAccounts d a.idCleaning (-1)).2).2 :=
    fun specifiedId => (shrinks_cleanGarbageOsAccounts a.idCleaning (-1)).trans (hassign specifiedId _)
  unfold newLocalId
  split
  · exact Shrinks.refl d
  split
  · rename_i specifiedId hspecified
    unfold assignSpecifiedLocalId
    split
    · exact Shrinks.refl d
    split
    · split
      · exact Shrinks.refl d
      · exact hclean specifiedId
    · exact hclean specifiedId
  · unfold getAllowCreateId
    dsimp only
    split
    · exact Shrinks.refl d
    split
    · exact Shrinks.refl d
    · exact shrinks_nextLocalId d _

theorem shrinks_fillOsAccountInfo (a : CreateAnswer) (c : Creation) : Shrinks d (fillOsAccountInfo d a c).2 := by
  have hid := shrinks_newLocalId (d := d) a c
  unfold fillOsAccountInfo
  split
  · exact Shrinks.refl d
  split
  · rename_i hr
    rwa [hr] at hid
  · rename_i hr
    rw [hr] at hid
    split
    · exact hid
    · split <;> exact hid

theorem shrinks_checkDomainAccountBound (a : Int → RemovalAnswer) (info : DomainAccountInfo) :
    Shrinks d (checkDomainAccountBound d a info).2 := by
  unfold checkDomainAccountBound
  generalize getOsAccountsByDomainInfo d info = osAccountInfos
  induction osAccountInfos generalizing d with
  | nil => exact Shrinks.refl d
  | cons osAccountInfo osAccountInfos ih =>
      have hstays : Shrinks d (staysBound d (a osAccountInfo.localId) osAccountInfo).2 := by
        unfold staysBound
        split
        · exact Shrinks.refl d
        · have hremove := shrinks_removeOsAccountOperate (d := d) (a osAccountInfo.localId) osAccountInfo true
          split <;> rename_i hr <;> rwa [hr] at hremove
      exact hstays.trans ih

end shrinks

end OsAccount.AccountDirectory
