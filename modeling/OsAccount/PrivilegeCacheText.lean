import OsAccount.JsonUtils
import OsAccount.PrivilegeCache

namespace OsAccount.PrivilegeRecords

open Std JsonUtils PrivilegeTable

def privilegeAuthStatusToString : PrivilegeAuthStatus → String
  | .notRequired => "NOT_REQUIRED"
  | .unconfirmed => "UNCONFIRMED"
  | .authorized => "AUTHORIZED"

def stringToPrivilegeAuthStatus (authTypeStr : String) : PrivilegeAuthStatus :=
  if authTypeStr = "AUTHORIZED" then .authorized
  else if authTypeStr = "UNCONFIRMED" then .unconfirmed
  else .notRequired

namespace PrivilegeRecord

def toJson (r : PrivilegeRecord Unit) : Json :=
  let j := addStringToJson createJson "privilegeName" (transferCodeToPrivilege r.privilegeIdx)
  let j := addInt64ToJson j "expiredTimeStamp" r.expiredTime
  let j := addInt64ToJson j "safeStartTime" r.safeStartTime
  addStringToJson j "authStatus" (privilegeAuthStatusToString r.authStatus)

def fromJson (j : Json) : Option (PrivilegeRecord Unit) := do
  if !isObject j then failure
  let privilegeName ← getStringFromJson j "privilegeName"
  let privilegeIdx ← transferPrivilegeToCode privilegeName
  let expiredTime ← getInt64FromJson j "expiredTimeStamp"
  let safeStartTime ← getInt64FromJson j "safeStartTime"
  let authTypeStr := (getStringFromJson j "authStatus").getD "NOT_REQUIRED"
  -- the start time is narrowed to 32 bits
  pure ⟨privilegeIdx, expiredTime, (safeStartTime % 2 ^ 32).toNat, stringToPrivilegeAuthStatus authTypeStr, ()⟩

end PrivilegeRecord

namespace ProcessPrivilegeRecord

def toJson (p : ProcessPrivilegeRecord Unit) : Option Json :=
  if p.getPrivilegeNum = 0 then none
  else
    let j := addIntToJson createJson "pid" p.pid
    let j := addIntToJson j "uid" p.uid
    let j := addInt64ToJson j "processStartTime" p.processStartTime
    some (addObjToJson j "privilegeRecords" (.arr (p.privilegeRecordMap.toList.map fun q => q.2.toJson)))

def parsePrivilegeRecordJsonArray (currentTime : Int) (items : List Json) : Option (RecordMap Unit) :=
  items.foldlM (fun m item => do
    let record ← PrivilegeRecord.fromJson item
    pure (if record.needClean currentTime then m else m.insert record.privilegeIdx record)) ∅

def checkProcessAlive (getProcessStartTime : Int → Except ErrCode Int) (p : ProcessPrivilegeRecord Unit) : Bool :=
  0 < p.pid && getProcessStartTime p.pid = .ok p.processStartTime

def fromJson (e : PrivilegeCache.LoadAnswer) (currTime : Int) (j : Json) :
    Except ErrCode (Option (ProcessPrivilegeRecord Unit)) := do
  let some pid := getIntFromJson j "pid" | throw .badJsonFormatError
  let some uid := getIntFromJson j "uid" | throw .badJsonFormatError
  let some processStartTime := getInt64FromJson j "processStartTime" | throw .badJsonFormatError
  let record : ProcessPrivilegeRecord Unit := ⟨pid, uid, processStartTime, none, ∅⟩
  if !record.checkProcessAlive e.getProcessStartTime then throw .checkTimeFailed
  e.openPidFd pid
  let some items := getJsonArrayFromJson j "privilegeRecords" | throw .badJsonFormatError
  let some records := parsePrivilegeRecordJsonArray currTime items | throw .badJsonFormatError
  let record := { record with privilegeRecordMap := records }
  pure (if record.getPrivilegeNum = 0 then none else some record)

end ProcessPrivilegeRecord

end OsAccount.PrivilegeRecords

namespace OsAccount.PrivilegeCacheText

open Std JsonUtils PrivilegeRecords PrivilegeCache

/-- The JSON library. What it prints is a C string, of which the service makes its text. -/
structure CJson where
  printUnformatted : Json → String
  parse : String → Option Json

def CJson.packJsonToString (c : CJson) (j : Json) : String := CText.cStr (c.printUnformatted j)

def CJson.createJsonFromString (c : CJson) (s : String) : Option Json := if s = "" then none else c.parse s

structure TextStore where
  processPrivilegeMap : ProcessMap Unit
  file : Option String

def mapToJson (m : ProcessMap Unit) : Json := .arr (m.toList.filterMap fun q => q.2.toJson)

def toJson (currTime : Int) (recordStr : String) (digest : List UInt8) : Json :=
  let j := addInt64ToJson createJson "updateTime" currTime
  let j := addVectorUint8ToJson j "digest" digest
  addStringToJson j "processRecords" recordStr

section persist

variable (c : CJson) (generateAccountInfoDigest : String → List UInt8)

def generateDigestFromHuks (updateTime : Int) (jsonStr : String) : List UInt8 :=
  generateAccountInfoDigest (toString updateTime ++ ":" ++ jsonStr)

def persistStr (currTime : Int) (m : ProcessMap Unit) : String :=
  let jsonStr := c.packJsonToString (mapToJson m)
  let digest := generateDigestFromHuks generateAccountInfoDigest currTime jsonStr
  c.packJsonToString (toJson currTime jsonStr digest)

/-- The answers say which of the steps fail for lack of memory, of the key
store or of the disk. -/
def toPersistFile (o : PersistAnswer) (currTime : Int) (s : TextStore) : Ret × TextStore :=
  if s.processPrivilegeMap.isEmpty then (.ok (), { s with file := if o.deleteFile then none else s.file })
  else match o.result with
    | .error ret => (.error ret, s)
    | .ok () =>
        (.ok (), { s with file := some (persistStr c generateAccountInfoDigest currTime s.processPrivilegeMap) })

/-- What `ReadAndCheckPersistRecordValid` makes of the file: the records, or
`none` if loading is skipped; the flag says whether the file is to be deleted. -/
def readAndCheckPersistRecordValid (e : LoadAnswer) (currTime : Int) (fileContent : String) : Option String × Bool :=
  if !e.readFile then (none, false)
  else match c.createJsonFromString fileContent with
    | none => (none, false)
    | some j =>
        if !isObject j then (none, false)
        else match getInt64FromJson j "updateTime" with
          | none => (none, true)
          | some updateTime =>
              if updateTime ≥ currTime then (none, true)
              else match getStringFromJson j "processRecords" with
                | none => (none, false)
                | some processRecordsStr =>
                    if !e.generateDigest then (none, false)
                    else if getVectorUint8FromJson j "digest" ≠
                        generateDigestFromHuks generateAccountInfoDigest updateTime processRecordsStr then (none, true)
                    else (some processRecordsStr, false)

def loadProcessRecords (e : LoadAnswer) (currTime : Int) (items : List Json) (m : ProcessMap Unit) :
    ProcessMap Unit :=
  items.foldl (fun m item => match ProcessPrivilegeRecord.fromJson e currTime item with
    | .ok (some record) => m.insert record.pid record
    | _ => m) m

def fromPersistFile (e : LoadAnswer) (s : TextStore) : Ret × TextStore :=
  match e.uptime, s.file with
  | .error ret, _ => (.error ret, s)
  | .ok _, none => (.ok (), s)
  | .ok currTime, some fileContent =>
      match readAndCheckPersistRecordValid c generateAccountInfoDigest e currTime fileContent with
      | (none, delete) => (.ok (), { s with file := if delete && e.deleteFile then none else s.file })
      | (some recordStr, _) =>
          match c.createJsonFromString recordStr with
          | some (.arr items) =>
              (.ok (), { s with processPrivilegeMap := loadProcessRecords e currTime items s.processPrivilegeMap })
          | _ => (.error .badJsonFormatError, s)

def loaded (e : LoadAnswer) (file : Option String) : ProcessMap Unit :=
  (fromPersistFile c generateAccountInfoDigest e ⟨∅, file⟩).2.processPrivilegeMap

end persist

end OsAccount.PrivilegeCacheText
