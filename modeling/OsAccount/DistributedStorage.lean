import OsAccount.JsonUtils
import OsAccount.DistributedAccount

namespace OsAccount.DistributedStorage

open JsonUtils CText
open DistributedAccount (defaultOhosAccountName defaultOhosAccountUid)

def keyOhosAccountName : String := "account_name"

def keyOhosAccountRawUid : String := "raw_uid"

def keyOhosAccountUid : String := "open_id"

def keyOhosAccountStatus : String := "bind_status"

def keyOhosAccountCallingUid : String := "calling_uid"

def keyOhosAccountNickname : String := "account_nickname"

def keyOhosAccountAvatar : String := "account_avatar"

def keyOhosAccountScalableData : String := "account_scalableData"

def keyVersion : String := "version"

def keyUserId : String := "user_id"

def keyBindTime : String := "bind_time"

def keyCreateTime : String := "createTime"

def keySubspaceId : String := "subspaceId"

def keyOsAccountId : String := "osAccountId"

def keyIsCreateCompleted : String := "is_create_completed"

def keyToBeRemoved : String := "to_be_removed"

def keySubspaceIndex : String := "subspaceIndex"

def keySubspaceOffset : String := "subspaceOffset"

def maxAccountJsonFileSize : Nat := 16 * 1024 * 1024

def maxFileSize : Nat := 16 * 1024 * 1024

def accountStateUnbound : Int32 := 0

structure OhosAccountInfo where
  name : String := ""
  uid : String := ""
  status : Int32 := accountStateUnbound
  callingUid : Int32 := -1
  nickname : String := ""
  avatar : String := ""
  scalableData : String := ""
  rawUid : String := ""
deriving DecidableEq

/-- The account with its texts as a document keeps them. The avatar has a file of its own. -/
def OhosAccountInfo.cStrings (info : OhosAccountInfo) : OhosAccountInfo :=
  { info with
    name := cStr info.name
    uid := cStr info.uid
    nickname := cStr info.nickname
    scalableData := cStr info.scalableData
    rawUid := cStr info.rawUid }

structure OhosAccountInfo.NoNul (info : OhosAccountInfo) : Prop where
  name : CText.NoNul info.name
  uid : CText.NoNul info.uid
  nickname : CText.NoNul info.nickname
  scalableData : CText.NoNul info.scalableData
  rawUid : CText.NoNul info.rawUid

theorem OhosAccountInfo.cStrings_eq_self_iff {info : OhosAccountInfo} : info.cStrings = info ↔ info.NoNul := by
  constructor
  · intro h
    refine ⟨?_, ?_, ?_, ?_, ?_⟩ <;> rw [← cStr_eq_self_iff]
    · exact congrArg name h
    · exact congrArg uid h
    · exact congrArg nickname h
    · exact congrArg scalableData h
    · exact congrArg rawUid h
  · intro h
    rw [cStrings, h.name.cStr, h.uid.cStr, h.nickname.cStr, h.scalableData.cStr, h.rawUid.cStr]

structure AccountInfo where
  ohosAccountInfo : OhosAccountInfo := {}
  bindTime : Int64 := 0
  userId : Int32 := 0
  version : Int32 := 0
  createTime : Int64 := 0
deriving DecidableEq

structure OsAccountSubspaceInfo where
  ohosAccountInfo : OhosAccountInfo := {}
  bindTime : Int64 := 0
  userId : Int32 := 0
  version : Int32 := 0
  subspaceId : Int32 := 0
  index : Int32 := 0
  subspaceOffset : Int32 := 0
  isCreateCompleted : Bool := false
  toBeRemoved : Bool := false
  createTime : Int64 := 0
deriving DecidableEq

structure TextFile where
  document : Option Json
  size : Nat

structure Files where
  dir : Bool
  json : Option TextFile
  avatar : Option String

structure Writes where
  createDir : Ret
  avatar : Ret
  json : Ret

structure Rebuild where
  now : Int64
  removeFile : Bool
  writes : Writes

def buildJsonFileFromScratch (now : Int64) (userId : Int32) : AccountInfo where
  ohosAccountInfo :=
    { name := defaultOhosAccountName, uid := defaultOhosAccountUid, rawUid := defaultOhosAccountUid }
  userId := userId
  createTime := now

def serializeAccountInfoToJson (info : AccountInfo) : Json :=
  let j := createJson
  let j := addIntToJson j keyVersion info.version.toInt
  let j := addIntToJson j keyBindTime info.bindTime.toInt32.toInt
  let j := addInt64ToJson j keyCreateTime info.createTime.toInt
  let j := addIntToJson j keyUserId info.userId.toInt
  let j := addStringToJson j keyOhosAccountName info.ohosAccountInfo.name
  let j := addStringToJson j keyOhosAccountRawUid info.ohosAccountInfo.rawUid
  let j := addStringToJson j keyOhosAccountUid info.ohosAccountInfo.uid
  let j := addIntToJson j keyOhosAccountStatus info.ohosAccountInfo.status.toInt
  let j := addIntToJson j keyOhosAccountCallingUid info.ohosAccountInfo.callingUid.toInt
  let j := addStringToJson j keyOhosAccountNickname info.ohosAccountInfo.nickname
  addStringToJson j keyOhosAccountScalableData info.ohosAccountInfo.scalableData

def serializeSubProfileInfoToJson (info : OsAccountSubspaceInfo) : Json :=
  let j := createJson
  let j := addIntToJson j keySubspaceId info.subspaceId.toInt
  let j := addIntToJson j keyOsAccountId info.userId.toInt
  let j := addBoolToJson j keyIsCreateCompleted info.isCreateCompleted
  let j := addBoolToJson j keyToBeRemoved info.toBeRemoved
  let j := addIntToJson j keyBindTime info.bindTime.toInt32.toInt
  let j := addIntToJson j keyVersion info.version.toInt
  let j := addStringToJson j keyOhosAccountName info.ohosAccountInfo.name
  let j := addStringToJson j keyOhosAccountRawUid info.ohosAccountInfo.rawUid
  let j := addStringToJson j keyOhosAccountUid info.ohosAccountInfo.uid
  let j := addIntToJson j keyOhosAccountStatus info.ohosAccountInfo.status.toInt
  let j := addIntToJson j keyOhosAccountCallingUid info.ohosAccountInfo.callingUid.toInt
  let j := addStringToJson j keyOhosAccountNickname info.ohosAccountInfo.nickname
  let j := addStringToJson j keyOhosAccountScalableData info.ohosAccountInfo.scalableData
  let j := addIntToJson j keySubspaceIndex info.index.toInt
  let j := addIntToJson j keySubspaceOffset info.subspaceOffset.toInt
  addInt64ToJson j keyCreateTime info.createTime.toInt

def getJsonNumberField (j : Json) (key : String) : Option Int :=
  match getItemFromJson j key with
  | some (.num n) => some n
  | _ => none

def getInt32 (n? : Option Int) (default : Int32) : Int32 := (n?.map Int32.ofInt).getD default

def getInt64 (n? : Option Int) (default : Int64) : Int64 := (n?.map Int64.ofInt).getD default

def getAccountInfoFromJson (j : Json) (accountInfo : AccountInfo) (userId : Int32) : AccountInfo where
  version := getInt32 (getJsonNumberField j keyVersion) accountInfo.version
  bindTime := getInt64 (getJsonNumberField j keyBindTime) accountInfo.bindTime
  createTime := getInt64 (getInt64FromJson j keyCreateTime) accountInfo.createTime
  ohosAccountInfo :=
    { name := (getStringFromJson j keyOhosAccountName).getD accountInfo.ohosAccountInfo.name
      rawUid := (getStringFromJson j keyOhosAccountRawUid).getD accountInfo.ohosAccountInfo.rawUid
      uid := (getStringFromJson j keyOhosAccountUid).getD accountInfo.ohosAccountInfo.uid
      status := getInt32 (getJsonNumberField j keyOhosAccountStatus) accountInfo.ohosAccountInfo.status
      callingUid := getInt32 (getJsonNumberField j keyOhosAccountCallingUid) accountInfo.ohosAccountInfo.callingUid
      nickname := (getStringFromJson j keyOhosAccountNickname).getD accountInfo.ohosAccountInfo.nickname
      avatar := (getStringFromJson j keyOhosAccountAvatar).getD accountInfo.ohosAccountInfo.avatar
      scalableData := (getStringFromJson j keyOhosAccountScalableData).getD accountInfo.ohosAccountInfo.scalableData }
  userId := userId

def parseSubProfileInfoFromJson (j : Json) (info : OsAccountSubspaceInfo) : OsAccountSubspaceInfo where
  subspaceId := getInt32 (getIntFromJson j keySubspaceId) info.subspaceId
  userId := getInt32 (getIntFromJson j keyOsAccountId) info.userId
  isCreateCompleted := (getBoolFromJson j keyIsCreateCompleted).getD info.isCreateCompleted
  toBeRemoved := (getBoolFromJson j keyToBeRemoved).getD info.toBeRemoved
  bindTime := (getInt32 (getIntFromJson j keyBindTime) 0).toInt64
  version := getInt32 (getIntFromJson j keyVersion) info.version
  ohosAccountInfo :=
    { name := (getStringFromJson j keyOhosAccountName).getD info.ohosAccountInfo.name
      rawUid := (getStringFromJson j keyOhosAccountRawUid).getD info.ohosAccountInfo.rawUid
      uid := (getStringFromJson j keyOhosAccountUid).getD info.ohosAccountInfo.uid
      status := getInt32 (getIntFromJson j keyOhosAccountStatus) info.ohosAccountInfo.status
      callingUid := getInt32 (getIntFromJson j keyOhosAccountCallingUid) info.ohosAccountInfo.callingUid
      nickname := (getStringFromJson j keyOhosAccountNickname).getD info.ohosAccountInfo.nickname
      avatar := info.ohosAccountInfo.avatar
      scalableData := (getStringFromJson j keyOhosAccountScalableData).getD info.ohosAccountInfo.scalableData }
  index := getInt32 (getIntFromJson j keySubspaceIndex) info.index
  subspaceOffset := getInt32 (getIntFromJson j keySubspaceOffset) info.subspaceOffset
  createTime := getInt64 (getInt64FromJson j keyCreateTime) info.createTime

def getFileContentByPath (avatar : Option String) : Option String :=
  avatar.filter fun content => content.utf8ByteSize ≤ maxFileSize

def fillAvatarIntoJson (j : Json) (avatar : Option String) : Json :=
  match getItemFromJson j keyOhosAccountAvatar with
  | some (.str s) => addStringToJson j keyOhosAccountAvatar s
  | some _ => j
  | none =>
      match getFileContentByPath avatar with
      | some avatarData => addStringToJson j keyOhosAccountAvatar avatarData
      | none => j

section files

variable (size : Json → Nat)

def packJsonToString (j : Json) : TextFile := ⟨some j, size j⟩

def saveAccountInfo (info : AccountInfo) (files : Files) (w : Writes) : Ret × Files :=
  match w.avatar with
  | .error e => (.error e, files)
  | .ok () =>
      let files := { files with avatar := some info.ohosAccountInfo.avatar }
      match w.json with
      | .error e => (.error e, files)
      | .ok () => (.ok (), { files with json := some (packJsonToString size (serializeAccountInfoToJson info)) })

def removeOversizedFile (r : Rebuild) (userId : Int32) (files : Files) : Except ErrCode Files :=
  match files.json with
  | none => .ok files
  | some file =>
      if file.size ≤ maxAccountJsonFileSize then .ok files
      else if !r.removeFile then .error .datadealInputFileError
      else .ok (saveAccountInfo size (buildJsonFileFromScratch r.now userId) { files with json := none } r.writes).2

def readJsonFile (files : Files) : Except ErrCode Json :=
  match files.json with
  | none => .error .datadealInputFileError
  | some file =>
      match file.document.filter isObject with
      | none => .error .datadealJsonFileCorruption
      | some jsonData => .ok (fillAvatarIntoJson jsonData files.avatar)

def parseJsonFromFile (r : Rebuild) (userId : Int32) (files : Files) : Except ErrCode Json :=
  match removeOversizedFile size r userId files with
  | .error e => .error e
  | .ok files => readJsonFile files

def getAccountInfo (r : Rebuild) (userId : Int32) (files : Files) : Except ErrCode AccountInfo :=
  if userId < 0 then .error .managerIdError
  else
    let files :=
      match files.json with
      | some _ => files
      | none => (saveAccountInfo size (buildJsonFileFromScratch r.now userId) files r.writes).2
    match parseJsonFromFile size r userId files with
    | .error e => .error e
    | .ok jsonData => .ok (getAccountInfoFromJson jsonData {} userId)

def saveSubProfileFiles (info : OsAccountSubspaceInfo) (serializedContent : TextFile) (files : Files) (w : Writes) :
    Ret × Files :=
  let dir? : Ret := if files.dir then .ok () else w.createDir
  match dir? with
  | .error e => (.error e, files)
  | .ok () =>
      let files := { files with dir := true }
      match w.avatar with
      | .error e => (.error e, files)
      | .ok () =>
          let files := { files with avatar := some info.ohosAccountInfo.avatar }
          match w.json with
          | .error e => (.error e, files)
          | .ok () => (.ok (), { files with json := some serializedContent })

def saveSubProfileInfo (info : OsAccountSubspaceInfo) (files : Files) (w : Writes) : Ret × Files :=
  saveSubProfileFiles info (packJsonToString size (serializeSubProfileInfoToJson info)) files w

end files

def loadSubProfileInfo (files : Files) : Except ErrCode OsAccountSubspaceInfo :=
  match files.json with
  | none => .error .accountNotExistError
  | some file =>
      if file.size > maxFileSize then .error .fileReadFailed
      else
        match file.document with
        | none => .error .datadealJsonFileCorruption
        | some j =>
            let info := parseSubProfileInfoFromJson j {}
            match getFileContentByPath files.avatar with
            | some avatar => .ok { info with ohosAccountInfo := { info.ohosAccountInfo with avatar } }
            | none => .ok info

def Survives {ρ : Type} (saved : Ret × Files) (load : Files → Except ErrCode ρ) (files : Files) (info : ρ) : Prop :=
  match saved.1 with
  | .ok () => load saved.2 = .ok info
  | .error _ => load saved.2 = load files

section roundTrip

theorem toInt64_toInt32_iff (t : Int64) : t.toInt32.toInt64 = t ↔ Decimal.Fits 32 t.toInt := by
  have hlow := t.toInt32.le_toInt
  have hhigh := t.toInt32.toInt_lt
  rw [← Int64.toInt_inj, Int32.toInt_toInt64, Decimal.Fits]
  constructor
  · intro h
    omega
  · intro h
    rw [Int64.toInt_toInt32]
    exact Int.bmod_eq_of_le (by omega) (by omega)

@[simp]
theorem intValue_repr (t : Int64) : intValue? 64 (some (.str t.toInt.repr)) = some t.toInt :=
  Decimal.parseSigned_toString ⟨t.le_toInt, t.toInt_lt⟩

@[simp]
theorem intValue_num (bits : Nat) (n : Int) : intValue? bits (some (.num n)) = some n := rfl

@[simp]
theorem getInt32_some (n d : Int32) : getInt32 (some n.toInt) d = n := by simp [getInt32]

@[simp]
theorem getInt64_some (t d : Int64) : getInt64 (some t.toInt) d = t := by simp [getInt64]

@[simp]
theorem getInt64_some_int32 (n : Int32) (d : Int64) : getInt64 (some n.toInt) d = n.toInt64 := by simp [getInt64]

/-- The record as the next load finds it: a time comes back from 32 bits, and a
text up to its first NUL. -/
def AccountInfo.stored (info : AccountInfo) (avatar : String) : AccountInfo :=
  { info with
    bindTime := info.bindTime.toInt32.toInt64
    ohosAccountInfo := { info.ohosAccountInfo.cStrings with avatar } }

def OsAccountSubspaceInfo.stored (info : OsAccountSubspaceInfo) (avatar : String) : OsAccountSubspaceInfo :=
  { info with
    bindTime := info.bindTime.toInt32.toInt64
    ohosAccountInfo := { info.ohosAccountInfo.cStrings with avatar } }

theorem getAccountInfoFromJson_serialize (info : AccountInfo) :
    getAccountInfoFromJson (serializeAccountInfoToJson info) {} info.userId = info.stored "" := by
  simp (disch := decide) only [getAccountInfoFromJson, serializeAccountInfoToJson, addStringToJson_eq,
    addInt64ToJson_eq, getStringFromJson_eq]
  simp [-Int64.toInt_toInt32, AccountInfo.stored, OhosAccountInfo.cStrings, createJson, addIntToJson,
    setItem, Fields.set, Fields.find, getItemFromJson, fields, getJsonNumberField,
    getInt64FromJson, stringValue?, keyVersion, keyBindTime,
    keyCreateTime, keyUserId, keyOhosAccountName, keyOhosAccountRawUid, keyOhosAccountUid, keyOhosAccountStatus,
    keyOhosAccountCallingUid, keyOhosAccountNickname, keyOhosAccountScalableData, keyOhosAccountAvatar]

theorem parseSubProfileInfoFromJson_serialize (info : OsAccountSubspaceInfo) :
    parseSubProfileInfoFromJson (serializeSubProfileInfoToJson info) {} = info.stored "" := by
  simp (disch := decide) only [parseSubProfileInfoFromJson, serializeSubProfileInfoToJson, addStringToJson_eq,
    addInt64ToJson_eq, getStringFromJson_eq]
  simp [-Int64.toInt_toInt32, OsAccountSubspaceInfo.stored, OhosAccountInfo.cStrings, createJson, addIntToJson,
    addBoolToJson, setItem, Fields.set, Fields.find, getItemFromJson, fields, getIntFromJson, getBoolFromJson,
    getInt64FromJson, stringValue?, keyVersion, keyBindTime, keyCreateTime, keySubspaceId, keyOsAccountId,
    keyIsCreateCompleted, keyToBeRemoved, keySubspaceIndex, keySubspaceOffset, keyOhosAccountName,
    keyOhosAccountRawUid, keyOhosAccountUid, keyOhosAccountStatus, keyOhosAccountCallingUid, keyOhosAccountNickname,
    keyOhosAccountScalableData]

end roundTrip

section avatars

variable {size : Json → Nat} {userId : Int32} {files : Files} {j : Json}

def readAvatar (avatar : Option String) : String := (getFileContentByPath avatar).getD ""

theorem readAvatar_some_iff (avatar : String) :
    readAvatar (some avatar) = avatar ↔ avatar.utf8ByteSize ≤ maxFileSize := by
  by_cases hsize : avatar.utf8ByteSize ≤ maxFileSize
  · simp [readAvatar, getFileContentByPath, Option.filter, hsize]
  · have hne : "" ≠ avatar := by
      rintro rfl
      exact hsize (Nat.zero_le _)
    simp [readAvatar, getFileContentByPath, Option.filter, hsize, hne]

def readAvatarText (avatar : Option String) : String := cStr (readAvatar avatar)

theorem readAvatarText_some_iff (avatar : String) :
    readAvatarText (some avatar) = avatar ↔ NoNul avatar ∧ avatar.utf8ByteSize ≤ maxFileSize := by
  by_cases hsize : avatar.utf8ByteSize ≤ maxFileSize
  · rw [readAvatarText, (readAvatar_some_iff avatar).mpr hsize, cStr_eq_self_iff, and_iff_left hsize]
  · have hne : "" ≠ avatar := by
      rintro rfl
      exact hsize (Nat.zero_le _)
    simp [readAvatarText, readAvatar, getFileContentByPath, Option.filter, hsize, hne]

structure ReadsAvatar (userId : Int32) (files : Files) : Prop where
  userId : ¬userId < 0
  readable : ∃ file j, files.json = some file ∧ file.size ≤ maxAccountJsonFileSize ∧ file.document = some j ∧
    isObject j ∧ getItemFromJson j keyOhosAccountAvatar = none

theorem getAccountInfoFromJson_fill (hobj : isObject j = true) (habsent : getItemFromJson j keyOhosAccountAvatar = none)
    (avatar : Option String) (userId : Int32) :
    getAccountInfoFromJson (fillAvatarIntoJson j avatar) {} userId =
      let info := getAccountInfoFromJson j {} userId
      { info with ohosAccountInfo := { info.ohosAccountInfo with avatar := readAvatarText avatar } } := by
  have hnul : NoNul keyOhosAccountAvatar := by decide
  rw [fillAvatarIntoJson, habsent, readAvatarText, readAvatar]
  cases getFileContentByPath avatar with
  | none => simp [getAccountInfoFromJson, getStringFromJson_eq hnul, habsent]
  | some avatarData =>
      have hne : keyOhosAccountAvatar ≠ "" := by decide
      have hother {key : String} (hkey : keyOhosAccountAvatar ≠ key) :
          getItemFromJson (setItem j keyOhosAccountAvatar (.str (cStr avatarData))) key = getItemFromJson j key := by
        rw [getItem_setItem_of_isObject hobj hne, if_neg hkey]
      have hself : getItemFromJson (setItem j keyOhosAccountAvatar (.str (cStr avatarData))) keyOhosAccountAvatar =
          some (.str (cStr avatarData)) := by
        rw [getItem_setItem_of_isObject hobj hne, if_pos rfl]
      simp (disch := decide) only [getAccountInfoFromJson, addStringToJson_eq, getJsonNumberField,
        getStringFromJson_eq, getInt64FromJson, hother, hself]
      rfl

theorem getAccountInfo_of_readable {file : TextFile} (huser : ¬userId < 0) (hjson : files.json = some file)
    (hsize : file.size ≤ maxAccountJsonFileSize) (r : Rebuild) :
    getAccountInfo size r userId files =
      match file.document.filter isObject with
      | none => .error .datadealJsonFileCorruption
      | some j => .ok (getAccountInfoFromJson (fillAvatarIntoJson j files.avatar) {} userId) := by
  rw [getAccountInfo, if_neg huser, hjson]
  simp only [parseJsonFromFile, removeOversizedFile, readJsonFile, hjson, hsize, if_true]
  cases file.document.filter isObject with
  | none => rfl
  | some j => rfl

theorem readJsonFile_none (h : files.json = none) : readJsonFile files = .error .datadealInputFileError := by
  rw [readJsonFile, h]

theorem parseJsonFromFile_none (h : files.json = none) (r : Rebuild) (userId : Int32) :
    parseJsonFromFile size r userId files = .error .datadealInputFileError := by
  simp [parseJsonFromFile, removeOversizedFile, readJsonFile, h]

/-- A file that is built again does not show the avatar before, unless there is no file. -/
theorem rebuilt_avatar (size : Json → Nat) (dir : Bool) (avatar avatar' : Option String) (scratch : AccountInfo)
    (w : Writes) :
    (saveAccountInfo size scratch ⟨dir, none, avatar⟩ w).2 = (saveAccountInfo size scratch ⟨dir, none, avatar'⟩ w).2 ∨
      (saveAccountInfo size scratch ⟨dir, none, avatar⟩ w).2.json = none ∧
        (saveAccountInfo size scratch ⟨dir, none, avatar'⟩ w).2.json = none := by
  unfold saveAccountInfo
  cases w.avatar with
  | error e => exact .inr ⟨rfl, rfl⟩
  | ok u => cases w.json with
    | error e => exact .inl rfl
    | ok u => exact .inl rfl

theorem getAccountInfo_avatar {dir : Bool} {json : Option TextFile} {avatar : Option String}
    (h : ¬ReadsAvatar userId ⟨dir, json, avatar⟩) (avatar' : Option String) (r : Rebuild) :
    getAccountInfo size r userId ⟨dir, json, avatar'⟩ = getAccountInfo size r userId ⟨dir, json, avatar⟩ := by
  by_cases huser : userId < 0
  · simp [getAccountInfo, huser]
  have hrebuilt := rebuilt_avatar size dir avatar' avatar (buildJsonFileFromScratch r.now userId) r.writes
  cases json with
  | none =>
      simp only [getAccountInfo, if_neg huser]
      rcases hrebuilt with heq | ⟨hleft, hright⟩
      · rw [heq]
      · rw [parseJsonFromFile_none hleft, parseJsonFromFile_none hright]
  | some file =>
      by_cases hsize : file.size ≤ maxAccountJsonFileSize
      · rw [getAccountInfo_of_readable huser rfl hsize r, getAccountInfo_of_readable huser rfl hsize r]
        cases hdoc : file.document.filter isObject with
        | none => rfl
        | some j =>
            obtain ⟨hdoc, hobj⟩ := Option.filter_eq_some_iff.mp hdoc
            have hpresent : getItemFromJson j keyOhosAccountAvatar ≠ none := fun habsent =>
              h ⟨huser, file, j, rfl, hsize, hdoc, hobj, habsent⟩
            have hfill : fillAvatarIntoJson j avatar' = fillAvatarIntoJson j avatar := by
              unfold fillAvatarIntoJson
              cases hitem : getItemFromJson j keyOhosAccountAvatar with
              | none => exact (hpresent hitem).elim
              | some item => cases item <;> rfl
            simp only [hfill]
      · simp only [getAccountInfo, if_neg huser, parseJsonFromFile, removeOversizedFile, hsize, if_false]
        cases r.removeFile with
        | false => rfl
        | true =>
            rcases hrebuilt with heq | ⟨hleft, hright⟩
            · simp [heq]
            · simp [readJsonFile_none hleft, readJsonFile_none hright]

def Readable (files : Files) : Prop :=
  ∃ file j, files.json = some file ∧ file.size ≤ maxFileSize ∧ file.document = some j

theorem loadSubProfileInfo_of_readable {file : TextFile} (hjson : files.json = some file)
    (hsize : file.size ≤ maxFileSize) (hdoc : file.document = some j) :
    loadSubProfileInfo files =
      let info := parseSubProfileInfoFromJson j {}
      .ok { info with ohosAccountInfo := { info.ohosAccountInfo with avatar := readAvatar files.avatar } } := by
  have hbig : ¬file.size > maxFileSize := by omega
  simp only [loadSubProfileInfo, hjson, hdoc, if_neg hbig, readAvatar]
  cases getFileContentByPath files.avatar with
  | none => rfl
  | some avatar => rfl

theorem loadSubProfileInfo_avatar {dir dir' : Bool} {json : Option TextFile} {avatar : Option String}
    (h : ¬Readable ⟨dir, json, avatar⟩) (avatar' : Option String) :
    loadSubProfileInfo ⟨dir', json, avatar'⟩ = loadSubProfileInfo ⟨dir, json, avatar⟩ := by
  cases json with
  | none => rfl
  | some file =>
      by_cases hsize : file.size > maxFileSize
      · simp [loadSubProfileInfo, hsize]
      · cases hdoc : file.document with
        | none => simp [loadSubProfileInfo, hdoc]
        | some j => exact (h ⟨file, j, rfl, by omega, hdoc⟩).elim

end avatars

section survival

variable {size : Json → Nat}

theorem stored_eq_iff {info : AccountInfo} {avatar : String} :
    info.stored avatar = info ↔ Decimal.Fits 32 info.bindTime.toInt ∧ info.ohosAccountInfo.NoNul ∧
      avatar = info.ohosAccountInfo.avatar := by
  rw [← toInt64_toInt32_iff]
  constructor
  · intro h
    have havatar : avatar = info.ohosAccountInfo.avatar := congrArg (fun i => i.ohosAccountInfo.avatar) h
    subst havatar
    exact ⟨congrArg AccountInfo.bindTime h,
      OhosAccountInfo.cStrings_eq_self_iff.mp (congrArg AccountInfo.ohosAccountInfo h), rfl⟩
  · rintro ⟨htime, hnul, rfl⟩
    rw [AccountInfo.stored, htime, OhosAccountInfo.cStrings_eq_self_iff.mpr hnul]

theorem subProfile_stored_eq_iff {info : OsAccountSubspaceInfo} {avatar : String} :
    info.stored avatar = info ↔ Decimal.Fits 32 info.bindTime.toInt ∧ info.ohosAccountInfo.NoNul ∧
      avatar = info.ohosAccountInfo.avatar := by
  rw [← toInt64_toInt32_iff]
  constructor
  · intro h
    have havatar : avatar = info.ohosAccountInfo.avatar := congrArg (fun i => i.ohosAccountInfo.avatar) h
    subst havatar
    exact ⟨congrArg OsAccountSubspaceInfo.bindTime h,
      OhosAccountInfo.cStrings_eq_self_iff.mp (congrArg OsAccountSubspaceInfo.ohosAccountInfo h), rfl⟩
  · rintro ⟨htime, hnul, rfl⟩
    rw [OsAccountSubspaceInfo.stored, htime, OhosAccountInfo.cStrings_eq_self_iff.mpr hnul]

/-- What a save of a headless profile needs: that the record fits, and, when only
the avatar was written, that no load shows it. -/
def AccountInfoKept (size : Json → Nat) (info : AccountInfo) (files : Files) (w : Writes) : Prop :=
  match w.avatar, w.json with
  | .ok (), .ok () =>
      ¬info.userId < 0 ∧ size (serializeAccountInfoToJson info) ≤ maxAccountJsonFileSize ∧
        Decimal.Fits 32 info.bindTime.toInt ∧ info.ohosAccountInfo.NoNul ∧
        NoNul info.ohosAccountInfo.avatar ∧ info.ohosAccountInfo.avatar.utf8ByteSize ≤ maxFileSize
  | .ok (), .error _ =>
      ReadsAvatar info.userId files → readAvatarText (some info.ohosAccountInfo.avatar) = readAvatarText files.avatar
  | .error _, _ => True

def SubProfileKept (size : Json → Nat) (info : OsAccountSubspaceInfo) (files : Files) (w : Writes) : Prop :=
  match (if files.dir then .ok () else w.createDir : Ret), w.avatar, w.json with
  | .ok (), .ok (), .ok () =>
      size (serializeSubProfileInfoToJson info) ≤ maxFileSize ∧
        Decimal.Fits 32 info.bindTime.toInt ∧ info.ohosAccountInfo.NoNul ∧
        info.ohosAccountInfo.avatar.utf8ByteSize ≤ maxFileSize
  | .ok (), .ok (), .error _ =>
      Readable files → readAvatar (some info.ohosAccountInfo.avatar) = readAvatar files.avatar
  | _, _, _ => True

theorem getAccountInfo_saved (info : AccountInfo) (files : Files) (r : Rebuild) (huser : ¬info.userId < 0)
    (hsize : size (serializeAccountInfoToJson info) ≤ maxAccountJsonFileSize) :
    getAccountInfo size r info.userId
        ⟨files.dir, some (packJsonToString size (serializeAccountInfoToJson info)), some info.ohosAccountInfo.avatar⟩ =
      .ok (info.stored (readAvatarText (some info.ohosAccountInfo.avatar))) := by
  have hobj : isObject (serializeAccountInfoToJson info) = true := rfl
  have habsent : getItemFromJson (serializeAccountInfoToJson info) keyOhosAccountAvatar = none := rfl
  rw [getAccountInfo_of_readable huser rfl hsize r]
  simp only [packJsonToString, Option.filter_some, hobj, if_true]
  rw [getAccountInfoFromJson_fill hobj habsent, getAccountInfoFromJson_serialize]
  rfl

theorem getAccountInfo_avatar_iff {userId : Int32} {dir : Bool} {json : Option TextFile}
    {avatar avatar' : Option String} :
    (∀ r, getAccountInfo size r userId ⟨dir, json, avatar'⟩ = getAccountInfo size r userId ⟨dir, json, avatar⟩) ↔
      (ReadsAvatar userId ⟨dir, json, avatar⟩ → readAvatarText avatar' = readAvatarText avatar) := by
  constructor
  · rintro h ⟨huser, file, j, hjson, hsize, hdoc, hobj, habsent⟩
    obtain rfl : json = some file := hjson
    have heq := h ⟨0, false, ⟨.ok (), .ok (), .ok ()⟩⟩
    rw [getAccountInfo_of_readable huser rfl hsize, getAccountInfo_of_readable huser rfl hsize] at heq
    simp only [hdoc, Option.filter_some, hobj, if_true, getAccountInfoFromJson_fill hobj habsent,
      Except.ok.injEq] at heq
    exact congrArg (fun i => i.ohosAccountInfo.avatar) heq
  · intro h r
    by_cases hreads : ReadsAvatar userId ⟨dir, json, avatar⟩
    · have heq := h hreads
      obtain ⟨huser, file, j, hjson, hsize, hdoc, hobj, habsent⟩ := hreads
      obtain rfl : json = some file := hjson
      rw [getAccountInfo_of_readable huser rfl hsize, getAccountInfo_of_readable huser rfl hsize]
      simp only [hdoc, Option.filter_some, hobj, if_true, getAccountInfoFromJson_fill hobj habsent, heq]
    · exact getAccountInfo_avatar hreads avatar' r

theorem accountInfo_survives_iff (size : Json → Nat) (info : AccountInfo) (files : Files) (w : Writes) :
    (∀ r, Survives (saveAccountInfo size info files w) (getAccountInfo size r info.userId) files info) ↔
      AccountInfoKept size info files w := by
  unfold Survives saveAccountInfo AccountInfoKept
  cases w.avatar with
  | error e => simp
  | ok u => cases w.json with
    | error e => exact getAccountInfo_avatar_iff
    | ok u =>
        constructor
        · intro h
          have hload := h ⟨0, false, ⟨.ok (), .ok (), .ok ()⟩⟩
          by_cases huser : info.userId < 0
          · simp [getAccountInfo, huser] at hload
          by_cases hsize : size (serializeAccountInfoToJson info) ≤ maxAccountJsonFileSize
          · dsimp only at hload
            rw [getAccountInfo_saved info files _ huser hsize, Except.ok.injEq, stored_eq_iff,
              readAvatarText_some_iff]
              at hload
            exact ⟨huser, hsize, hload⟩
          · simp [getAccountInfo, huser, parseJsonFromFile, removeOversizedFile,
              packJsonToString, hsize] at hload
        · rintro ⟨huser, hsize, hkept⟩ r
          dsimp only
          rw [getAccountInfo_saved info files r huser hsize, Except.ok.injEq, stored_eq_iff,
            readAvatarText_some_iff]
          exact hkept

theorem loadSubProfileInfo_saved (info : OsAccountSubspaceInfo) (dir : Bool)
    (hsize : size (serializeSubProfileInfoToJson info) ≤ maxFileSize) :
    loadSubProfileInfo
        ⟨dir, some (packJsonToString size (serializeSubProfileInfoToJson info)), some info.ohosAccountInfo.avatar⟩ =
      .ok (info.stored (readAvatar (some info.ohosAccountInfo.avatar))) := by
  rw [loadSubProfileInfo_of_readable rfl hsize rfl, parseSubProfileInfoFromJson_serialize]
  rfl

theorem loadSubProfileInfo_avatar_iff {dir dir' : Bool} {json : Option TextFile} {avatar avatar' : Option String} :
    loadSubProfileInfo ⟨dir', json, avatar'⟩ = loadSubProfileInfo ⟨dir, json, avatar⟩ ↔
      (Readable ⟨dir, json, avatar⟩ → readAvatar avatar' = readAvatar avatar) := by
  constructor
  · rintro heq ⟨file, j, hjson, hsize, hdoc⟩
    obtain rfl : json = some file := hjson
    rw [loadSubProfileInfo_of_readable rfl hsize hdoc, loadSubProfileInfo_of_readable rfl hsize hdoc] at heq
    exact congrArg (fun i => i.ohosAccountInfo.avatar) (Except.ok.inj heq)
  · intro h
    by_cases hreads : Readable ⟨dir, json, avatar⟩
    · have heq := h hreads
      obtain ⟨file, j, hjson, hsize, hdoc⟩ := hreads
      obtain rfl : json = some file := hjson
      rw [loadSubProfileInfo_of_readable rfl hsize hdoc, loadSubProfileInfo_of_readable rfl hsize hdoc]
      simp only [heq]
    · exact loadSubProfileInfo_avatar hreads avatar'

theorem subProfile_survives_iff (size : Json → Nat) (info : OsAccountSubspaceInfo) (files : Files) (w : Writes) :
    Survives (saveSubProfileInfo size info files w) loadSubProfileInfo files info ↔
      SubProfileKept size info files w := by
  unfold Survives saveSubProfileInfo saveSubProfileFiles SubProfileKept
  dsimp only
  cases (if files.dir then .ok () else w.createDir : Ret) with
  | error e => simp
  | ok u => cases w.avatar with
    | error e =>
        have hdir : loadSubProfileInfo { files with dir := true } = loadSubProfileInfo files := rfl
        simp [hdir]
    | ok u => cases w.json with
      | error e => exact loadSubProfileInfo_avatar_iff
      | ok u =>
          dsimp only
          by_cases hsize : size (serializeSubProfileInfoToJson info) ≤ maxFileSize
          · rw [loadSubProfileInfo_saved info true hsize, Except.ok.injEq, subProfile_stored_eq_iff,
              readAvatar_some_iff]
            exact ⟨fun h => ⟨hsize, h⟩, fun h => h.2⟩
          · have hbig : size (serializeSubProfileInfoToJson info) > maxFileSize := by omega
            simp [loadSubProfileInfo, packJsonToString, hbig, hsize]

/-- Exactly the saves that leave no record behind but the new or the old one. -/
theorem records_survive_iff (size : Json → Nat) (files : Files) (w : Writes) :
    (∀ info : AccountInfo,
      (∀ r, Survives (saveAccountInfo size info files w) (getAccountInfo size r info.userId) files info) ↔
        AccountInfoKept size info files w) ∧
    ∀ info : OsAccountSubspaceInfo,
      Survives (saveSubProfileInfo size info files w) loadSubProfileInfo files info ↔
        SubProfileKept size info files w :=
  ⟨fun info => accountInfo_survives_iff size info files w,
    fun info => subProfile_survives_iff size info files w⟩

def writesDone : Writes := ⟨.ok (), .ok (), .ok ()⟩

def noFiles : Files := ⟨true, none, none⟩

def loggedIn (bindTime : Int64) : AccountInfo where
  ohosAccountInfo :=
    { name := "mail", uid := "5A", rawUid := "mail", status := 1, callingUid := 3301, avatar := "photo" }
  bindTime := bindTime
  userId := 100
  version := 1

/-- A login after January 2038 comes back with another time, and when the
document of a logout is not written, the account stays logged in without its
avatar. -/
theorem not_records_survive :
    ¬Survives (saveAccountInfo (fun _ => 300) (loggedIn 2147483648) noFiles writesDone)
        (getAccountInfo (fun _ => 300) ⟨0, true, writesDone⟩ 100) noFiles (loggedIn 2147483648) ∧
      let files := (saveAccountInfo (fun _ => 300) (loggedIn 0) noFiles writesDone).2
      ¬Survives (saveAccountInfo (fun _ => 300) (buildJsonFileFromScratch 0 100) files
          { writesDone with json := .error .fileWriteFailed })
        (getAccountInfo (fun _ => 300) ⟨0, true, writesDone⟩ 100) files (buildJsonFileFromScratch 0 100) := by
  constructor
  · intro h
    have htime := congrArg (fun loaded => loaded.toOption.map AccountInfo.bindTime) h
    exact absurd htime (by decide +kernel)
  · intro files h
    have havatar := congrArg (fun loaded => loaded.toOption.map (·.ohosAccountInfo.avatar)) h
    exact absurd havatar (by decide +kernel)

end survival

end OsAccount.DistributedStorage
