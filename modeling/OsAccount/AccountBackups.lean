import OsAccount.DistributedStorage
import OsAccount.LocalNames

namespace OsAccount.AccountBackups

open JsonUtils AccountDirectory LocalNames CText Function
open DistributedStorage (TextFile getFileContentByPath maxFileSize)

def userPhotoFileTxtName : String := "photo.txt"

def userPhotoFileJpgName : String := "fase.jpg"

def userPhotoFilePngName : String := "fase.png"

def userPhotoBaseJpgHead : String := "data:image/jpeg;base64,"

def userPhotoBasePngHead : String := "data:image/png;base64,"

def shortNameMaxSize : Nat := 255

def specialCharacterArray : List Char := ['<', '>', '|', '"', ':', '*', '?', '/', '\\']

def shortNameCannotBeNameArray : List String := [".", ".."]

def tokenNative : Int32 := 1

def typeCode : OsAccountType → Int32
  | .admin => 0
  | .normal => 1
  | .guest => 2
  | .maintenance => 512
  | .privateType => 1024

/-- A number of no type is like that of an administrator: only `PRIVATE` is told from the others. -/
def accountType (code : Int32) : OsAccountType :=
  ([.normal, .guest, .maintenance, .privateType].find? fun type => typeCode type == code).getD .admin

structure AccountRest where
  constraints : List String := []
  photo : String := ""
  createTime : Int64 := 0
  lastLoginTime : Int64 := 0
  serialNumber : Int64 := 0
  creatorType : Int32 := 0
  version : Int32 := 0
  foregroundSubProfileId : Int32 := -1
deriving DecidableEq

structure Account where
  info : OsAccountInfo
  rest : AccountRest
  native : info.creatorIsNative = decide (rest.creatorType = tokenNative)

/-- The accounts, the photo files next to them, and the entries of the base constraints. -/
structure Store where
  directory : Directory
  rest : Int → AccountRest
  photos : Int → String → Option String
  baseConstraints : Int → Option (List String)
  native : ∀ (n : Int) (info : OsAccountInfo), directory.accounts[n]? = some info →
    info.creatorIsNative = decide ((rest n).creatorType = tokenNative)

def getOsAccountInfoById (s : Store) (id : Int32) : Option Account :=
  match h : s.directory.accounts[id.toInt]? with
  | none => none
  | some info => some ⟨info, s.rest id.toInt, s.native _ info h⟩

def validateShortName (shortName : String) : Ret :=
  if shortName.utf8ByteSize = 0 ∨ shortName.utf8ByteSize > shortNameMaxSize then .error .invalidParameter
  else if shortName.toList.any (specialCharacterArray.contains ·) then .error .invalidParameter
  else if shortNameCannotBeNameArray.contains shortName then .error .invalidParameter
  else .ok ()

def isEmpty (domainInfo : DomainAccountInfo) : Bool :=
  domainInfo.domain = "" ∧ domainInfo.accountName = "" ∧ domainInfo.accountId = "" ∧ domainInfo.serverConfigId = ""

def isSameAccount (src tar : DomainAccountInfo) : Bool :=
  (src.accountId ≠ "" ∧ src.accountId = tar.accountId) ∨
    (src.accountName ≠ "" ∧ src.accountName = tar.accountName ∧ src.domain ≠ "" ∧ src.domain = tar.domain)

def buildBackupJson (info : OsAccountInfo) (rest : AccountRest) (photo : String) : Json :=
  let j := createJson
  let j := addIntToJson j "localId" info.localId
  let j := addStringToJson j "localName" info.localName
  let j := addStringToJson j "shortName" info.shortName
  let j := addIntToJson j "type" (typeCode info.type).toInt
  let j := addStringToJson j "photo" photo
  let j := addIntToJson j "version" rest.version.toInt
  addIntToJson j "creatorType" rest.creatorType.toInt

def getTextFromJson (j : Json) (key : String) : Option String := (getStringFromJson j key).map cStr

def parseBackupJson (jsonRoot : Json) : Option Account := do
  let localId ← getIntFromJson jsonRoot "localId"
  let localName ← getTextFromJson jsonRoot "localName"
  let shortName ← getTextFromJson jsonRoot "shortName"
  let type ← getIntFromJson jsonRoot "type"
  let photo ← getTextFromJson jsonRoot "photo"
  let version ← getIntFromJson jsonRoot "version"
  let creatorType ← getIntFromJson jsonRoot "creatorType"
  pure
    { info :=
        { localId := (Int32.ofInt localId).toInt
          localName
          shortName
          type := accountType (Int32.ofInt type)
          creatorIsNative := Int32.ofInt creatorType = tokenNative }
      rest :=
        { photo
          version := Int32.ofInt version
          creatorType := Int32.ofInt creatorType }
      native := rfl }

/-- What the plug-in says of an account: `none` when there is no plug-in to ask. -/
abbrev Plugin := Option (Except ErrCode DomainAccountInfo)

def checkDomainAccountConsistency : Plugin → Except ErrCode DomainAccountInfo
  | none => .ok {}
  | some (.ok domainInfo) => .ok domainInfo
  | some (.error e) => if e = .jsAccountNotFound then .ok {} else .error e

theorem native_insert (s : Store) (a : Account) (n : Int) (info : OsAccountInfo)
    (h : (s.directory.accounts.insert a.info.localId a.info)[n]? = some info) :
    info.creatorIsNative = decide ((update s.rest a.info.localId a.rest n).creatorType = tokenNative) := by
  rw [OrderedMap.getElem?_insert_eq] at h
  split at h
  · rename_i heq
    cases h
    rw [← heq, update_self]
    exact a.native
  · rename_i hne
    rw [update_of_ne (Ne.symm hne)]
    exact s.native n info h

section restore

variable (localNameMaxSize : Nat) (encode : String → String) (size : Json → Nat)
  (constraintsByType : OsAccountType → List String) (plugin : Plugin) (s : Store)

def getPhotoById (id : Int32) (photo : String) : Except ErrCode String :=
  if photo ≠ userPhotoFileJpgName ∧ photo ≠ userPhotoFilePngName ∧ photo ≠ userPhotoFileTxtName then .ok photo
  else
    match getFileContentByPath (s.photos id.toInt photo) with
    | none => .error .fileReadFailed
    | some byteStr =>
        if photo = userPhotoFileTxtName then .ok byteStr
        else if photo = userPhotoFileJpgName then .ok (userPhotoBaseJpgHead ++ encode byteStr)
        else .ok (userPhotoBasePngHead ++ encode byteStr)

def doBackup (localId : Int32) : Except ErrCode TextFile :=
  match getOsAccountInfoById s localId with
  | none => .error .jsAccountNotFound
  | some a =>
      if a.info.toBeRemoved || !a.info.isCreateCompleted then .error .jsAccountNotFound
      else
        match getPhotoById encode s localId a.rest.photo with
        | .error _ => .error .systemServiceException
        | .ok photo =>
            let jsonInfo := buildBackupJson a.info a.rest photo
            .ok ⟨some jsonInfo, size jsonInfo⟩

def validateBackupName (backupInfo : OsAccountInfo) : Ret :=
  if backupInfo.localName = "" ∨ backupInfo.localName.utf8ByteSize ≥ localNameMaxSize then .error .jsInvalidParameter
  else if validateShortName backupInfo.shortName ≠ .ok () then .error .jsInvalidParameter
  else
    match validateOsAccount s.directory backupInfo with
    | .ok () => .ok ()
    | .error .nameHadExisted => .error .jsAccountAlreadyExist
    | .error .shortNameHadExisted => .error .jsAccountShortNameAlreadyExist
    | .error _ => .error .systemServiceException

def validateDomainBinding (localId : Int32) (backupDomainInfo curDomainInfo : DomainAccountInfo) : Ret :=
  if curDomainInfo.domain ≠ "" ∧ plugin.isSome ∧ !isSameAccount backupDomainInfo curDomainInfo then
    .error .jsOsAccountAlreadyBound
  else if (queryAllCreatedOsAccounts s.directory).any fun info =>
      info.localId ≠ localId.toInt ∧ backupDomainInfo.domain ≠ "" ∧ info.domainInfo.domain ≠ "" ∧
        isSameAccount backupDomainInfo info.domainInfo then
    .error .jsDomainAccountAlreadyBound
  else .ok ()

def checkRestorePreconditions (localId : Int32) (backupInfo currentInfo : OsAccountInfo) : Ret :=
  match validateBackupName localNameMaxSize s backupInfo with
  | .error e => .error e
  | .ok () => validateDomainBinding plugin s localId backupInfo.domainInfo currentInfo.domainInfo

def parseAndCheckBackup (localId : Int32) (backupData : TextFile) (currentInfo : Account) : Except ErrCode Account :=
  if backupData.size > maxFileSize then .error .systemServiceException
  else
    match backupData.document.bind parseBackupJson with
    | none => .error .jsInvalidParameter
    | some backupInfo =>
        if backupInfo.info.localId ≠ localId.toInt then .error .jsInvalidParameter
        else
          match checkDomainAccountConsistency plugin with
          | .error _ => .error .systemServiceException
          | .ok domainInfo =>
              let domainInfo := backupInfo.info.domainInfo.setDomainInfo localNameMaxSize domainInfo
              let backupInfo :=
                { backupInfo with info := { backupInfo.info with domainInfo }, native := backupInfo.native }
              match checkRestorePreconditions localNameMaxSize plugin s localId backupInfo.info currentInfo.info with
              | .error e => .error e
              | .ok () => .ok backupInfo

def buildRestoredAccountInfo (backupInfo currentInfo : Account) : Account where
  info :=
    { currentInfo.info with
      localName := backupInfo.info.localName
      shortName := if currentInfo.info.shortName = "" then backupInfo.info.shortName else currentInfo.info.shortName
      creatorIsNative := backupInfo.rest.creatorType = tokenNative
      domainInfo :=
        if isEmpty backupInfo.info.domainInfo then currentInfo.info.domainInfo
        else currentInfo.info.domainInfo.setDomainInfo localNameMaxSize backupInfo.info.domainInfo }
  rest := { currentInfo.rest with creatorType := backupInfo.rest.creatorType }
  native := rfl

def setPhotoById (id : Int32) (photo : String) : Store :=
  { s with photos := update s.photos id.toInt (update (s.photos id.toInt) userPhotoFileTxtName photo) }

def updateOsAccount (a : Account) : Ret × Store :=
  if a.info.localId ∉ s.directory.accounts then (.error .updateFileNotExistsError, s)
  else
    (.ok (), { s with
      directory := { s.directory with accounts := s.directory.accounts.insert a.info.localId a.info }
      rest := update s.rest a.info.localId a.rest
      native := native_insert s a })

def resetBaseOAConstraints (id : Int32) (constraints : List String) : Store :=
  { s with baseConstraints := update s.baseConstraints id.toInt (some constraints) }

def restoredAccount (backupInfo currentInfo : Account) : Account :=
  let currentInfo := buildRestoredAccountInfo localNameMaxSize backupInfo currentInfo
  { currentInfo with
    info := currentInfo.info.stored
    rest := { currentInfo.rest with
      photo := userPhotoFileTxtName, constraints := constraintsByType currentInfo.info.type }
    native := currentInfo.native }

def applyRestoreData (localId : Int32) (backupInfo currentInfo : Account) : Ret × Store :=
  let restored := restoredAccount localNameMaxSize constraintsByType backupInfo currentInfo
  match updateOsAccount (setPhotoById s localId backupInfo.rest.photo) restored with
  | (.error _, s) => (.error .systemServiceException, s)
  | (.ok (), s) => (.ok (), resetBaseOAConstraints s localId restored.rest.constraints)

def doRestore (localId : Int32) (backupData : TextFile) : Ret × Store :=
  match getOsAccountInfoById s localId with
  | none => (.error .jsAccountNotFound, s)
  | some currentInfo =>
      if currentInfo.info.toBeRemoved || !currentInfo.info.isCreateCompleted then (.error .jsAccountNotFound, s)
      else
        match parseAndCheckBackup localNameMaxSize plugin s localId backupData currentInfo with
        | .error e => (.error e, s)
        | .ok backupInfo => applyRestoreData localNameMaxSize constraintsByType s localId backupInfo currentInfo

/-- A restore keeps all of the record but for the names, the creator, the domain account, the photo and the
constraints. -/
def KeepsRecord (s s' : Store) (id : Int32) (info : OsAccountInfo) : Prop :=
  ∃ localName shortName creatorIsNative domainInfo constraints creatorType,
    s'.directory.accounts[id.toInt]? = some { info with localName, shortName, creatorIsNative, domainInfo } ∧
      s'.rest id.toInt = { s.rest id.toInt with constraints, photo := userPhotoFileTxtName, creatorType }

def FreeNames (d : Directory) (id : Int32) (info backupInfo : OsAccountInfo) : Prop :=
  ∀ n ∈ d.accountIdList, n ≠ id.toInt → ∀ j, d.accounts[n]? = some j → Visible j →
    backupInfo.localName ≠ j.localName ∧
      (info.shortName = "" → backupInfo.shortName ≠ "" → j.shortName ≠ "" → backupInfo.shortName ≠ j.shortName)

/-- Data of the type that is not checked either names a private account or takes no name of another one. -/
def TakesNoName (d : Directory) (id : Int32) (info : OsAccountInfo) (backupData : TextFile) : Prop :=
  ∀ b, backupData.document.bind parseBackupJson = some b → b.info.type = .privateType → info.type ≠ .privateType →
    FreeNames d id info b.info

/-- A backup of an account is restored, and changes neither its photo nor, but for the constraints, its record. -/
def SelfRestores (id : Int32) (info : OsAccountInfo) : Prop :=
  ∃ text s', doBackup encode size s id = .ok text ∧
    doRestore localNameMaxSize constraintsByType none s id text = (.ok (), s') ∧
    s'.directory.accounts[id.toInt]? = some info ∧
    (∃ constraints, s'.rest id.toInt = { s.rest id.toInt with constraints, photo := userPhotoFileTxtName }) ∧
    getPhotoById encode s' id (s'.rest id.toInt).photo = getPhotoById encode s id (s.rest id.toInt).photo

/-- The names pass the checks of a restore, and the photo can be read, has no NUL, and fits. -/
structure Restorable (id : Int32) (info : OsAccountInfo) : Prop where
  localName : info.localName ≠ "" ∧ info.localName.utf8ByteSize < localNameMaxSize
  shortName : validateShortName info.shortName = .ok ()
  unique : validateOsAccount s.directory info = .ok ()
  photo : ∃ photo, getPhotoById encode s id (s.rest id.toInt).photo = .ok photo ∧ NoNul photo ∧
    photo.utf8ByteSize ≤ maxFileSize ∧ size (buildBackupJson info (s.rest id.toInt) photo) ≤ maxFileSize

end restore

section selfRestore

variable {localNameMaxSize : Nat} {encode : String → String} {size : Json → Nat}
  {constraintsByType : OsAccountType → List String} {plugin : Plugin} {s : Store} {id : Int32} {info : OsAccountInfo}

theorem getOsAccountInfoById_some (h : s.directory.accounts[id.toInt]? = some info) :
    getOsAccountInfoById s id = some ⟨info, s.rest id.toInt, s.native _ info h⟩ := by
  rw [getOsAccountInfoById]
  split
  · rename_i hnone
    cases hnone.symm.trans h
  · rename_i info' hsome
    cases hsome.symm.trans h
    rfl

theorem accountType_typeCode (type : OsAccountType) : accountType (typeCode type) = type := by
  cases type <;> decide

theorem parseBackupJson_build (a : Account) (photo : String) (hid : a.info.localId = id.toInt)
    (hstored : a.info.stored = a.info) :
    ∃ b, parseBackupJson (buildBackupJson a.info a.rest photo) = some b ∧
      b.info =
        { localId := id.toInt
          localName := a.info.localName
          shortName := a.info.shortName
          type := a.info.type
          creatorIsNative := a.info.creatorIsNative } ∧
      b.info.domainInfo = {} ∧ b.rest.photo = cStr photo ∧ b.rest.creatorType = a.rest.creatorType := by
  have hlocalId : getIntFromJson (buildBackupJson a.info a.rest photo) "localId" = some a.info.localId := rfl
  have htype : getIntFromJson (buildBackupJson a.info a.rest photo) "type" =
      some (typeCode a.info.type).toInt := rfl
  have hversion : getIntFromJson (buildBackupJson a.info a.rest photo) "version" =
      some a.rest.version.toInt := rfl
  have hcreator : getIntFromJson (buildBackupJson a.info a.rest photo) "creatorType" =
      some a.rest.creatorType.toInt := rfl
  have htext : ∀ text : String, (some (cStr text)).map cStr = some (cStr text) := fun text => by simp
  have hlocalName : getTextFromJson (buildBackupJson a.info a.rest photo) "localName" =
      some a.info.localName := by
    rw [← (a.info.noNul_localName hstored).cStr]
    exact htext a.info.localName
  have hshortName : getTextFromJson (buildBackupJson a.info a.rest photo) "shortName" =
      some a.info.shortName := by
    rw [← (a.info.noNul_shortName hstored).cStr]
    exact htext a.info.shortName
  have hphoto : getTextFromJson (buildBackupJson a.info a.rest photo) "photo" = some (cStr photo) := htext photo
  rw [parseBackupJson]
  simp only [hlocalId, hlocalName, hshortName, htype, hphoto, hversion, hcreator, hid, Int32.ofInt_toInt,
    accountType_typeCode, Option.bind_eq_bind, Option.bind_some]
  exact ⟨_, rfl, by rw [a.native], rfl, rfl, rfl⟩

theorem validateOsAccount_congr {d : Directory} {i j : OsAccountInfo} (hid : i.localId = j.localId)
    (hname : i.localName = j.localName) (hshort : i.shortName = j.shortName) (htype : i.type = j.type) :
    validateOsAccount d i = validateOsAccount d j := by
  have hagainst (infos : List OsAccountInfo) : validateAgainst i infos = validateAgainst j infos := by
    induction infos with
    | nil => rfl
    | cons info infos ih => simp only [validateAgainst, hid, hname, hshort, ih]
  rw [validateOsAccount, validateOsAccount, htype, hagainst]

theorem validateBackupName_ok_iff (backupInfo : OsAccountInfo) :
    validateBackupName localNameMaxSize s backupInfo = .ok () ↔
      (backupInfo.localName ≠ "" ∧ backupInfo.localName.utf8ByteSize < localNameMaxSize) ∧
        validateShortName backupInfo.shortName = .ok () ∧ validateOsAccount s.directory backupInfo = .ok () := by
  rw [validateBackupName]
  by_cases hname : backupInfo.localName = "" ∨ backupInfo.localName.utf8ByteSize ≥ localNameMaxSize
  · rw [if_pos hname]
    refine iff_of_false nofun ?_
    rintro ⟨⟨hne, hlt⟩, -⟩
    rcases hname with hempty | hlong
    · exact hne hempty
    · omega
  · rw [if_neg hname]
    rw [not_or, not_le] at hname
    rw [and_iff_right hname]
    by_cases hshort : validateShortName backupInfo.shortName = .ok ()
    · rw [if_neg (not_not_intro hshort), and_iff_right hshort]
      cases validateOsAccount s.directory backupInfo with
      | ok u => exact iff_of_true rfl rfl
      | error e =>
          refine iff_of_false ?_ nofun
          cases e <;> exact nofun
    · rw [if_pos hshort]
      exact iff_of_false nofun fun h => hshort h.1

theorem parseAndCheckBackup_ok {backupData : TextFile} {currentInfo b : Account}
    (h : parseAndCheckBackup localNameMaxSize plugin s id backupData currentInfo = .ok b) :
    backupData.size ≤ maxFileSize ∧ ∃ parsed, backupData.document.bind parseBackupJson = some parsed ∧
      parsed.info.localId = id.toInt ∧ b.rest = parsed.rest ∧
      (∃ domainInfo, b.info = { parsed.info with domainInfo }) ∧
      validateBackupName localNameMaxSize s b.info = .ok () := by
  rw [parseAndCheckBackup] at h
  split at h
  · cases h
  rename_i hsize
  refine ⟨not_lt.mp hsize, ?_⟩
  cases hparse : backupData.document.bind parseBackupJson with
  | none =>
      rw [hparse] at h
      cases h
  | some parsed =>
      rw [hparse] at h
      dsimp only at h
      split at h
      · cases h
      rename_i hid
      cases hplugin : checkDomainAccountConsistency plugin with
      | error e =>
          rw [hplugin] at h
          cases h
      | ok domainInfo =>
          simp only [hplugin, checkRestorePreconditions] at h
          generalize parsed.info.domainInfo.setDomainInfo localNameMaxSize domainInfo = domainInfo at h
          cases hname : validateBackupName localNameMaxSize s { parsed.info with domainInfo } with
          | error e =>
              simp only [hname] at h
              cases h
          | ok u =>
              simp only [hname] at h
              split at h
              · cases h
              · cases h
                exact ⟨parsed, rfl, not_not.mp hid, rfl, ⟨domainInfo, rfl⟩, hname⟩

theorem parseAndCheckBackup_of_parse {parsed : Account} (currentInfo : Account) (backupData : TextFile)
    (hsize : backupData.size ≤ maxFileSize) (hparse : backupData.document.bind parseBackupJson = some parsed)
    (hid : parsed.info.localId = id.toInt) (hdomain : parsed.info.domainInfo = {})
    (hname : validateBackupName localNameMaxSize s { parsed.info with domainInfo := {} } = .ok ()) :
    ∃ b, parseAndCheckBackup localNameMaxSize none s id backupData currentInfo = .ok b ∧ b.rest = parsed.rest ∧
      b.info = { parsed.info with domainInfo := {} } := by
  have hbinding : validateDomainBinding none s id {} currentInfo.info.domainInfo = .ok () := by
    simp [validateDomainBinding]
  have hset : parsed.info.domainInfo.setDomainInfo localNameMaxSize {} = {} := by
    rw [hdomain, DomainAccountInfo.setDomainInfo, ite_self]
  rw [parseAndCheckBackup, if_neg (not_lt.mpr hsize), hparse]
  dsimp only
  rw [if_neg (not_not_intro hid)]
  simp only [checkDomainAccountConsistency, checkRestorePreconditions, hset, hname, hbinding]
  exact ⟨_, rfl, rfl, rfl⟩

theorem updateOsAccount_stored {a : Account} (h : a.info.localId ∈ s.directory.accounts) :
    updateOsAccount s a = (.ok (), { s with
      directory := { s.directory with accounts := s.directory.accounts.insert a.info.localId a.info }
      rest := update s.rest a.info.localId a.rest
      native := native_insert s a }) :=
  if_neg (not_not_intro h)

structure Restored (localNameMaxSize : Nat) (constraintsByType : OsAccountType → List String) (s s' : Store)
    (id : Int32) (b a : Account) :
    Prop where
  directory : s'.directory =
    { s.directory with
      accounts := s.directory.accounts.insert a.info.localId
        (restoredAccount localNameMaxSize constraintsByType b a).info }
  rest : s'.rest = update s.rest a.info.localId (restoredAccount localNameMaxSize constraintsByType b a).rest
  photos : s'.photos =
    update s.photos id.toInt (update (s.photos id.toInt) userPhotoFileTxtName b.rest.photo)

variable (localNameMaxSize constraintsByType) in
theorem applyRestoreData_eq {a : Account} (hstored : a.info.localId ∈ s.directory.accounts) (b : Account) :
    ∃ s', applyRestoreData localNameMaxSize constraintsByType s id b a = (.ok (), s') ∧
      Restored localNameMaxSize constraintsByType s s' id b a := by
  have hupdate : (restoredAccount localNameMaxSize constraintsByType b a).info.localId ∈
      (setPhotoById s id b.rest.photo).directory.accounts := hstored
  rw [applyRestoreData, updateOsAccount_stored hupdate]
  exact ⟨_, rfl, rfl, rfl, rfl⟩

theorem doRestore_of_info (h : s.directory.accounts[id.toInt]? = some info) (hcompleted : info.isCreateCompleted = true)
    (hkept : info.toBeRemoved = false) (backupData : TextFile) :
    doRestore localNameMaxSize constraintsByType plugin s id backupData =
      match parseAndCheckBackup localNameMaxSize plugin s id backupData ⟨info, s.rest id.toInt, s.native _ info h⟩ with
      | .error e => (.error e, s)
      | .ok b => applyRestoreData localNameMaxSize constraintsByType s id b
        ⟨info, s.rest id.toInt, s.native _ info h⟩ := by
  rw [doRestore, getOsAccountInfoById_some h]
  dsimp only
  rw [hcompleted, hkept]
  rfl

theorem doRestore_ok (h : s.directory.accounts[id.toInt]? = some info) (hid : info.localId = id.toInt)
    (hcompleted : info.isCreateCompleted = true) (hkept : info.toBeRemoved = false) {backupData : TextFile} {s' : Store}
    (hrestore : doRestore localNameMaxSize constraintsByType plugin s id backupData = (.ok (), s')) :
    ∃ b, parseAndCheckBackup localNameMaxSize plugin s id backupData ⟨info, s.rest id.toInt, s.native _ info h⟩ = .ok b ∧
      Restored localNameMaxSize constraintsByType s s' id b ⟨info, s.rest id.toInt, s.native _ info h⟩ := by
  have hstored : info.localId ∈ s.directory.accounts := by
    rw [hid, Std.ExtTreeMap.mem_iff_isSome_getElem?, h]
    rfl
  rw [doRestore_of_info h hcompleted hkept] at hrestore
  cases hparse : parseAndCheckBackup localNameMaxSize plugin s id backupData
    ⟨info, s.rest id.toInt, s.native _ info h⟩ with
  | error e =>
      rw [hparse] at hrestore
      cases hrestore
  | ok b =>
      rw [hparse] at hrestore
      obtain ⟨s'', happly, hrestored⟩ := applyRestoreData_eq localNameMaxSize constraintsByType
        (a := ⟨info, s.rest id.toInt, s.native _ info h⟩) hstored b
      cases happly.symm.trans hrestore
      exact ⟨b, rfl, hrestored⟩

variable (encode size) in
theorem doBackup_of_info (h : s.directory.accounts[id.toInt]? = some info) (hcompleted : info.isCreateCompleted = true)
    (hkept : info.toBeRemoved = false) :
    doBackup encode size s id =
      match getPhotoById encode s id (s.rest id.toInt).photo with
      | .error _ => .error .systemServiceException
      | .ok photo =>
          .ok ⟨some (buildBackupJson info (s.rest id.toInt) photo),
            size (buildBackupJson info (s.rest id.toInt) photo)⟩ := by
  rw [doBackup, getOsAccountInfoById_some h]
  dsimp only
  rw [hcompleted, hkept]
  rfl

theorem getPhotoById_restored {s' : Store} {photo : String}
    (h : s'.photos id.toInt userPhotoFileTxtName = some photo) :
    getPhotoById encode s' id userPhotoFileTxtName = .ok photo ↔ photo.utf8ByteSize ≤ maxFileSize := by
  have hname : ¬(userPhotoFileTxtName ≠ userPhotoFileJpgName ∧ userPhotoFileTxtName ≠ userPhotoFilePngName ∧
      userPhotoFileTxtName ≠ userPhotoFileTxtName) := by simp
  rw [getPhotoById, if_neg hname, h, getFileContentByPath]
  by_cases hsize : photo.utf8ByteSize ≤ maxFileSize
  · simp [Option.filter, hsize]
  · simp [Option.filter, hsize]

theorem getPhotoById_file {s' : Store} {text photo : String}
    (h : s'.photos id.toInt userPhotoFileTxtName = some text)
    (hread : getPhotoById encode s' id userPhotoFileTxtName = .ok photo) : text = photo := by
  have hname : ¬(userPhotoFileTxtName ≠ userPhotoFileJpgName ∧ userPhotoFileTxtName ≠ userPhotoFilePngName ∧
      userPhotoFileTxtName ≠ userPhotoFileTxtName) := by simp
  rw [getPhotoById, if_neg hname, h, getFileContentByPath] at hread
  by_cases hsize : text.utf8ByteSize ≤ maxFileSize
  · simpa [Option.filter, hsize] using hread
  · simp [Option.filter, hsize] at hread

theorem Restored.photo_rest {b a : Account} {s' : Store} (h : Restored localNameMaxSize constraintsByType s s' id b a)
    (hid : a.info.localId = id.toInt) :
    s'.photos id.toInt userPhotoFileTxtName = some b.rest.photo ∧
      s'.rest id.toInt = (restoredAccount localNameMaxSize constraintsByType b a).rest ∧
      s'.directory.accounts[id.toInt]? = some (restoredAccount localNameMaxSize constraintsByType b a).info := by
  rw [h.photos, h.rest, h.directory, hid, update_self, update_self, update_self]
  exact ⟨rfl, rfl, Std.ExtTreeMap.getElem?_insert_self⟩

variable (constraintsByType) in
theorem restoredAccount_self {b a : Account} (hstored : a.info.stored = a.info)
    (hname : b.info.localName = a.info.localName)
    (hshort : b.info.shortName = a.info.shortName) (hdomain : b.info.domainInfo = {})
    (hcreator : b.rest.creatorType = a.rest.creatorType) :
    (restoredAccount localNameMaxSize constraintsByType b a).info = a.info ∧
      (restoredAccount localNameMaxSize constraintsByType b a).rest =
        { a.rest with photo := userPhotoFileTxtName, constraints := constraintsByType a.info.type } := by
  have hempty : isEmpty {} = true := by decide
  simp only [restoredAccount, buildRestoredAccountInfo, hname, hshort, hdomain, hcreator, hempty, if_true, ite_self,
    ← a.native, hstored, and_true]

theorem selfRestores_iff (h : s.directory.accounts[id.toInt]? = some info) (hid : info.localId = id.toInt)
    (hstored : info.stored = info) (hcompleted : info.isCreateCompleted = true) (hkept : info.toBeRemoved = false) :
    SelfRestores localNameMaxSize encode size constraintsByType s id info ↔
      Restorable localNameMaxSize encode size s id info := by
  have hbackup := doBackup_of_info encode size h hcompleted hkept
  constructor
  · rintro ⟨text, s', htext, hrestore, -, -, hsame⟩
    cases hphoto : getPhotoById encode s id (s.rest id.toInt).photo with
    | error e =>
        rw [hbackup, hphoto] at htext
        cases htext
    | ok photo =>
        rw [hbackup, hphoto] at htext
        cases htext
        obtain ⟨b, hcheck, hrestored⟩ := doRestore_ok h hid hcompleted hkept hrestore
        obtain ⟨hsize, parsed, hparse, -, hrest, ⟨domainInfo, hinfo⟩, hname⟩ := parseAndCheckBackup_ok hcheck
        obtain ⟨b', hbuild, hinfo', -, hphoto', -⟩ :=
          parseBackupJson_build ⟨info, s.rest id.toInt, s.native _ info h⟩ photo hid hstored
        dsimp only at hparse hbuild
        rw [Option.bind_some, hbuild] at hparse
        obtain rfl := Option.some.inj hparse
        obtain ⟨hfile, hrest', -⟩ := hrestored.photo_rest hid
        obtain ⟨hlocal, hshort, hunique⟩ := (validateBackupName_ok_iff b.info).mp hname
        rw [hinfo, hinfo'] at hlocal hshort
        rw [hrest, hphoto'] at hfile
        have hname' : (s'.rest id.toInt).photo = userPhotoFileTxtName := by rw [hrest']; rfl
        rw [hname', hphoto] at hsame
        have htext : cStr photo = photo := getPhotoById_file hfile hsame
        rw [htext] at hfile
        refine ⟨hlocal, hshort, ?_, photo, hphoto, cStr_eq_self_iff.mp htext, ?_, hsize⟩
        · rw [← hunique, hinfo, hinfo']
          exact validateOsAccount_congr hid rfl rfl rfl
        · exact (getPhotoById_restored hfile).mp hsame
  · rintro ⟨hlocal, hshort, hunique, photo, hphoto, htext, hfits, hsize⟩
    obtain ⟨parsed, hbuild, hinfo, hdomain, hphoto', hcreator⟩ :=
      parseBackupJson_build ⟨info, s.rest id.toInt, s.native _ info h⟩ photo hid hstored
    have hname : validateBackupName localNameMaxSize s { parsed.info with domainInfo := {} } = .ok () := by
      rw [validateBackupName_ok_iff, hinfo]
      refine ⟨hlocal, hshort, ?_⟩
      rw [← hunique]
      exact validateOsAccount_congr hid.symm rfl rfl rfl
    obtain ⟨b, hcheck, hrest, hinfo'⟩ := parseAndCheckBackup_of_parse
      ⟨info, s.rest id.toInt, s.native _ info h⟩
      ⟨some (buildBackupJson info (s.rest id.toInt) photo),
        size (buildBackupJson info (s.rest id.toInt) photo)⟩
      hsize (by rw [Option.bind_some, hbuild]) (by rw [hinfo]) hdomain hname
    have hfile : info.localId ∈ s.directory.accounts := by
      rw [hid, Std.ExtTreeMap.mem_iff_isSome_getElem?, h]
      rfl
    obtain ⟨s', happly, hrestored⟩ := applyRestoreData_eq localNameMaxSize constraintsByType
      (a := ⟨info, s.rest id.toInt, s.native _ info h⟩) hfile b
    obtain ⟨hfile, hrest', hinfo''⟩ := hrestored.photo_rest hid
    obtain ⟨hself, hselfRest⟩ := restoredAccount_self constraintsByType (b := b)
      (a := ⟨info, s.rest id.toInt, s.native _ info h⟩) hstored (by rw [hinfo', hinfo]) (by rw [hinfo', hinfo])
      (by rw [hinfo']) (by rw [hrest, hcreator])
    refine ⟨_, s', hbackup.trans (by rw [hphoto]), ?_, hinfo''.trans (congrArg some hself), ?_, ?_⟩
    · rw [doRestore_of_info h hcompleted hkept, hcheck]
      exact happly
    · rw [hrest', hselfRest]
      exact ⟨_, rfl⟩
    · rw [hrest', hselfRest, hphoto]
      rw [hrest, hphoto', htext.cStr] at hfile
      exact (getPhotoById_restored hfile).mpr hfits

end selfRestore

section anyRestore

variable {localNameMaxSize : Nat} {constraintsByType : OsAccountType → List String} {plugin : Plugin} {s s' : Store}
  {id : Int32} {info : OsAccountInfo} {backupData : TextFile}

theorem keepsRecord_of_restore (h : s.directory.accounts[id.toInt]? = some info) (hid : info.localId = id.toInt)
    (hcompleted : info.isCreateCompleted = true) (hkept : info.toBeRemoved = false)
    (hrestore : doRestore localNameMaxSize constraintsByType plugin s id backupData = (.ok (), s')) :
    KeepsRecord s s' id info := by
  obtain ⟨b, -, hrestored⟩ := doRestore_ok h hid hcompleted hkept hrestore
  obtain ⟨-, hrest, hinfo⟩ := hrestored.photo_rest hid
  exact ⟨_, _, _, _, _, _, hinfo, hrest⟩

theorem parseBackupJson_noNul {jsonRoot : Json} {b : Account} (h : parseBackupJson jsonRoot = some b) :
    NoNul b.info.localName ∧ NoNul b.info.shortName := by
  have hread {key text : String} (htext : getTextFromJson jsonRoot key = some text) : NoNul text := by
    obtain ⟨value, -, rfl⟩ := Option.map_eq_some_iff.mp htext
    exact noNul_cStr value
  simp only [parseBackupJson, Option.bind_eq_bind, Option.bind_eq_some_iff] at h
  obtain ⟨localId, -, localName, hlocalName, shortName, hshortName, type, -, photo, -, version, -, creatorType, -, h⟩ :=
    h
  cases h
  exact ⟨hread hlocalName, hread hshortName⟩

/-- What is stored after a restore: a record of the account, with its own or a new short name. -/
theorem restored_names (h : s.directory.accounts[id.toInt]? = some info) (hid : info.localId = id.toInt)
    (hstored : info.stored = info) (hcompleted : info.isCreateCompleted = true) (hkept : info.toBeRemoved = false)
    (hrestore : doRestore localNameMaxSize constraintsByType plugin s id backupData = (.ok (), s')) :
    ∃ b restored, backupData.document.bind parseBackupJson = some b ∧
      b.info.localId = id.toInt ∧ validateOsAccount s.directory b.info = .ok () ∧
      s'.directory = { s.directory with accounts := s.directory.accounts.insert restored.localId restored } ∧
      restored.stored = restored ∧ restored.localId = id.toInt ∧ restored.type = info.type ∧
        restored.toBeRemoved = info.toBeRemoved ∧
      restored.localName = b.info.localName ∧
      restored.shortName = if info.shortName = "" then b.info.shortName else info.shortName := by
  obtain ⟨b, hcheck, hrestored⟩ := doRestore_ok h hid hcompleted hkept hrestore
  obtain ⟨-, parsed, hparse, hlocalId, -, ⟨domainInfo, hinfo⟩, hname⟩ := parseAndCheckBackup_ok hcheck
  have hunique := ((validateBackupName_ok_iff b.info).mp hname).2.2
  obtain ⟨document, -, hdocument⟩ := Option.bind_eq_some_iff.mp hparse
  obtain ⟨hlocal, hshort⟩ := parseBackupJson_noNul hdocument
  refine ⟨parsed, (restoredAccount localNameMaxSize constraintsByType b
    ⟨info, s.rest id.toInt, s.native _ info h⟩).info, hparse,
    hlocalId, ?_, hrestored.directory, OsAccountInfo.stored_stored _, hid, rfl, rfl, ?_, ?_⟩
  · rw [← hunique, hinfo]
    exact validateOsAccount_congr rfl rfl rfl rfl
  · simp only [restoredAccount, buildRestoredAccountInfo, hinfo, OsAccountInfo.stored_localName, hlocal.cStr]
  · simp only [restoredAccount, buildRestoredAccountInfo, hinfo, OsAccountInfo.stored_shortName]
    split
    · exact hshort.cStr
    · exact (info.noNul_shortName hstored).cStr

theorem uniqueNames_restored_iff (hd : Consistent s.directory) (h : s.directory.accounts[id.toInt]? = some info)
    (hstored : info.stored = info) (hlisted : AccountList.startUserId ≤ id.toInt)
    (hcompleted : info.isCreateCompleted = true)
    (hkept : info.toBeRemoved = false)
    (hrestore : doRestore localNameMaxSize constraintsByType plugin s id backupData = (.ok (), s')) :
    UniqueNames s'.directory ↔ TakesNoName s.directory id info backupData := by
  have hid := hd.keyed _ _ h
  have hmem := hd.listed _ _ h hlisted
  obtain ⟨b, restored, hparse, hlocalId, hunique, hdirectory, hfile, hrestoredId, htype, hremoved, hname, hshort⟩ :=
    restored_names h hid hstored hcompleted hkept hrestore
  rw [hdirectory]
  constructor
  · intro hnew b' hparse' _ hpublic n hn hne j hj hvisible
    obtain rfl : b = b' := Option.some.inj (hparse.symm.trans hparse')
    have hself : (s.directory.accounts.insert restored.localId restored)[id.toInt]? = some restored := by
      rw [hrestoredId]
      exact Std.ExtTreeMap.getElem?_insert_self
    have hother : (s.directory.accounts.insert restored.localId restored)[n]? = some j := by
      rw [OrderedMap.getElem?_insert_eq, hrestoredId, if_neg (Ne.symm hne)]
      exact hj
    obtain ⟨hlocal, hshorts⟩ := hnew id.toInt hmem n hn (Ne.symm hne) restored j hself hother
      ⟨by rwa [htype], by rw [hremoved, hkept]⟩ hvisible
    rw [hname] at hlocal
    refine ⟨hlocal, fun hempty => ?_⟩
    rw [hshort, if_pos hempty] at hshorts
    exact hshorts
  · intro hfree
    have hfits : Fits restored s.directory := by
      intro n hn hne j hj hvisible hvisible'
      rw [hrestoredId] at hne
      have hpublic : info.type ≠ .privateType := by
        rw [← htype]
        exact hvisible.1
      have hnames : b.info.localName ≠ j.localName ∧
          (info.shortName = "" → b.info.shortName ≠ "" → j.shortName ≠ "" →
              b.info.shortName ≠ j.shortName) := by
        by_cases hprivate : b.info.type = .privateType
        · exact hfree b hparse hprivate hpublic n hn hne j hj hvisible'
        · rw [validateOsAccount, if_neg hprivate] at hunique
          have hdistinct := validateAgainst_ok hunique j (List.mem_filterMap.2 ⟨n, hn, hj⟩)
            (by rw [hd.keyed n j hj, hlocalId]; exact hne) hvisible'
          exact ⟨hdistinct.1, fun _ => hdistinct.2⟩
      rw [hfile]
      refine ⟨by rw [hname]; exact hnames.1, ?_⟩
      rw [hshort]
      split
      · rename_i hempty
        exact hnames.2 hempty
      · exact (hd.unique id.toInt hmem n hn (Ne.symm hne) info j h hj ⟨hpublic, hkept⟩ hvisible').2
    have hput := Consistent.put hd hfits fun _ => by rw [hrestoredId]; exact hmem
    rw [hfile] at hput
    exact hput.unique

/-- In the accounts that any operations have produced, the backup of an account is restored if and only if its names
pass the checks and its photo fits; and any data that are accepted keep the record, and keep the names of the accounts
different if and only if they do not use the type that is not checked to take a name of another account. -/
theorem backup_restore_iff (maxOsAccountNum : Nat) (localName : String) (es : List Event) (localNameMaxSize : Nat)
    (encode : String → String) (size : Json → Nat) (constraintsByType : OsAccountType → List String) (s : Store)
    (hs : s.directory = Machine.run (step maxOsAccountNum) (initial localName) es) (id : Int32) (info : OsAccountInfo)
    (h : s.directory.accounts[id.toInt]? = some info) (hlisted : AccountList.startUserId ≤ id.toInt)
    (hcompleted : info.isCreateCompleted = true) (hkept : info.toBeRemoved = false) :
    (SelfRestores localNameMaxSize encode size constraintsByType s id info ↔
        Restorable localNameMaxSize encode size s id info) ∧
      ∀ plugin backupData s',
        doRestore localNameMaxSize constraintsByType plugin s id backupData = (.ok (), s') →
          KeepsRecord s s' id info ∧
            (UniqueNames s.directory → (UniqueNames s'.directory ↔ TakesNoName s.directory id info backupData)) := by
  have hwritten : DirectoryRules.Written s.directory := by
    rw [hs]
    exact Machine.run_invariant (fun _ e h => h.step maxOsAccountNum e)
      (DirectoryRules.Written.initial localName) es
  have hid := hwritten.keyed _ _ h
  have hstored := hwritten.stored _ _ h
  refine ⟨selfRestores_iff h hid hstored hcompleted hkept, fun plugin backupData s' hrestore => ?_⟩
  exact ⟨keepsRecord_of_restore h hid hcompleted hkept hrestore, fun hunique =>
    uniqueNames_restored_iff ⟨hwritten.toTidy, hunique⟩ h hstored hlisted hcompleted hkept hrestore⟩

def plainStore (d : Directory) : Store where
  directory := d
  rest n := { creatorType := if d.accounts[n]?.any OsAccountInfo.creatorIsNative then tokenNative else 0 }
  photos _ _ := none
  baseConstraints _ := none
  native n info h := by
    dsimp only
    rw [h, Option.any_some]
    cases info.creatorIsNative with
    | false => rw [if_neg (by decide), decide_eq_false (by decide)]
    | true => rw [if_pos rfl, decide_eq_true rfl]

def twoAccounts : List Event :=
  [.createOsAccount everythingSucceeds { creation "alice" with shortName := "al" },
    .createOsAccount everythingSucceeds (creation "bob")]

def twoAccountsStore : Store := plainStore (Machine.run (step 1000) (initial "owner") twoAccounts)

theorem twoAccounts_info (n : Int) (hn : n = 101 ∨ n = 102) :
    twoAccountsStore.directory.accounts[n]? = some
      { localId := n
        localName := if n = 101 then "alice" else "bob"
        shortName := if n = 101 then "al" else ""
        type := .normal
        isCreateCompleted := true } := by
  rcases hn with rfl | rfl <;> decide +kernel

/-- The account with a short name is restored from its backup. -/
theorem backup_restore_alice :
    SelfRestores 256 (fun text => text) (fun _ => 200) (fun _ => []) twoAccountsStore 101
      { localId := 101, localName := "alice", shortName := "al", type := .normal, isCreateCompleted := true } :=
  (backup_restore_iff 1000 "owner" twoAccounts 256 (fun text => text) (fun _ => 200)
    (fun _ => []) twoAccountsStore rfl 101 _
    (twoAccounts_info 101 (.inl rfl)) (by decide) rfl rfl).1.mpr
    ⟨by decide, by decide, by decide +kernel, "", by decide +kernel, by decide, by decide, by decide⟩

def takenName : TextFile :=
  ⟨some (buildBackupJson
    { localId := 102, localName := "alice", shortName := "bo", type := .privateType } {} ""), 200⟩

/-- The account without a short name is not restored from its backup, and a restore takes the name of another account
with data of the private type. -/
theorem not_backup_restore_bob :
    ¬SelfRestores 256 (fun text => text) (fun _ => 200) (fun _ => []) twoAccountsStore 102
        { localId := 102, localName := "bob", type := .normal, isCreateCompleted := true } ∧
      UniqueNames twoAccountsStore.directory ∧
      ∃ s', doRestore 256 (fun _ => []) none twoAccountsStore 102 takenName = (.ok (), s') ∧
        ¬UniqueNames s'.directory := by
  have hbob := twoAccounts_info 102 (.inr rfl)
  refine ⟨fun hself => ?_, ?_, (doRestore 256 (fun _ => []) none twoAccountsStore 102 takenName).2,
    ?_, fun hunique => ?_⟩
  · have hshort := ((selfRestores_iff hbob rfl (by decide) rfl rfl).mp hself).shortName
    exact absurd hshort (by decide)
  · exact (Machine.run_invariant_of_meets (fun _ e h he => consistent_step 1000 e h he)
      (consistent_initial "owner") (by decide +kernel)).unique
  · have hret : (doRestore 256 (fun _ => []) none twoAccountsStore 102 takenName).1 = .ok () :=
      by decide +kernel
    rw [← hret]
  · have hstored : ∀ n ∈ [(101 : Int), 102],
        n ∈ (doRestore 256 (fun _ => []) none twoAccountsStore 102 takenName).2.directory.accountIdList ∧
        ((doRestore 256 (fun _ => []) none twoAccountsStore 102 takenName).2.directory.accounts[n]?.map
          fun info => (info.localName, info.type, info.toBeRemoved)) = some ("alice", .normal, false) := by
      decide +kernel
    obtain ⟨hm, hi⟩ := hstored 101 (by decide)
    obtain ⟨hn, hj⟩ := hstored 102 (by decide)
    obtain ⟨i, hi, hvi⟩ := Option.map_eq_some_iff.mp hi
    obtain ⟨j, hj, hvj⟩ := Option.map_eq_some_iff.mp hj
    simp only [Prod.mk.injEq] at hvi hvj
    obtain ⟨hiname, hitype, hiremoved⟩ := hvi
    obtain ⟨hjname, hjtype, hjremoved⟩ := hvj
    refine (hunique 101 hm 102 hn (by decide) i j hi hj ⟨?_, hiremoved⟩ ⟨?_, hjremoved⟩).1
      (hiname.trans hjname.symm)
    · rw [hitype]
      exact nofun
    · rw [hjtype]
      exact nofun

end anyRestore

end OsAccount.AccountBackups
