import OsAccount.Fields
import OsAccount.Machine

namespace OsAccount.DatabaseAdapters

inductive DbAdapterSecurityLevel
  | invalidLabel
  | noLabel
  | s0
  | s1
  | s2
  | s3Ex
  | s3
  | s4
deriving DecidableEq

inductive DbAdapterArea
  | invalidArea
  | el0
  | el1
  | el2
  | el3
  | el4
deriving DecidableEq

inductive DbAdapterStatus
  | success
  | ipcError
  | internalError
  | keyNotExist
  | notSupport
deriving DecidableEq

structure DbAdapterOptions where
  encrypt : Bool := false
  autoSync : Bool := false
  securityLevel : DbAdapterSecurityLevel := .s1
  area : DbAdapterArea := .el1
  baseDir : String := ""

structure DbAdapterEntry where
  key : String
  value : String
deriving DecidableEq

/-- The interface of the back ends: `σ` is what they keep, and `η` is a handle of a store. -/
structure DataManager (σ η : Type) where
  getSingleKvStore : σ → (options : DbAdapterOptions) → (appIdStr storeIdStr : String) → DbAdapterStatus × Option η × σ
  get : σ → η → (keyStr : String) → DbAdapterStatus × String × σ
  delete : σ → η → (keyStr : String) → DbAdapterStatus × σ
  put : σ → η → (keyStr valueStr : String) → DbAdapterStatus × σ
  getEntries : σ → η → (subId : String) → DbAdapterStatus × List DbAdapterEntry × σ
  putBatch : σ → η → (entries : List DbAdapterEntry) → DbAdapterStatus × σ

namespace DistributedKv

inductive Status
  | success
  | keyNotFound
  | ipcError
  | other (code : Int32)

structure Options where
  createIfMissing : Bool
  encrypt : Bool
  autoSync : Bool
  syncable : Bool
  securityLevel : DbAdapterSecurityLevel
  area : DbAdapterArea
  baseDir : String

structure Entry where
  key : String
  value : String
deriving DecidableEq

structure Library (κ η : Type) where
  getSingleKvStore : κ → Options → (appId storeId : String) → Status × Option η × κ
  getEntries : κ → η → String → Status × List Entry
  get : κ → η → String → Status × String
  delete : κ → η → String → Status × κ
  put : κ → η → String → String → Status × κ
  putBatch : κ → η → List Entry → Status × κ

end DistributedKv

namespace DbAdapterKvStore

open DistributedKv (Status)

def convertKvStatus : Status → DbAdapterStatus
  | .success => .success
  | .keyNotFound => .keyNotExist
  | .ipcError => .ipcError
  | .other _ => .internalError

variable {κ η : Type} (lib : DistributedKv.Library κ η) (s : κ)

def getEntries (kvStorePtr : η) (subId : String) : DbAdapterStatus × List DbAdapterEntry × κ :=
  match lib.getEntries s kvStorePtr subId with
  | (.success, entries) => (.success, entries.map fun item => ⟨item.key, item.value⟩, s)
  | (kvStatus, _) => (convertKvStatus kvStatus, [], s)

def get (kvStorePtr : η) (keyStr : String) : DbAdapterStatus × String × κ :=
  match lib.get s kvStorePtr keyStr with
  | (.success, value) => (.success, value, s)
  | (kvStatus, _) => (convertKvStatus kvStatus, "", s)

def delete (kvStorePtr : η) (keyStr : String) : DbAdapterStatus × κ :=
  (lib.delete s kvStorePtr keyStr).map convertKvStatus id

def put (kvStorePtr : η) (keyStr valueStr : String) : DbAdapterStatus × κ :=
  (lib.put s kvStorePtr keyStr valueStr).map convertKvStatus id

def putBatch (kvStorePtr : η) (entries : List DbAdapterEntry) : DbAdapterStatus × κ :=
  (lib.putBatch s kvStorePtr (entries.map fun entry => ⟨entry.key, entry.value⟩)).map convertKvStatus id

def getSingleKvStore (options : DbAdapterOptions) (appIdStr storeIdStr : String) : DbAdapterStatus × Option η × κ :=
  let kvOptions : DistributedKv.Options :=
    { createIfMissing := true
      encrypt := options.encrypt
      autoSync := options.autoSync
      syncable := options.autoSync
      securityLevel := options.securityLevel
      area := options.area
      baseDir := options.baseDir }
  match lib.getSingleKvStore s kvOptions appIdStr storeIdStr with
  | (.success, some kvStore, s') => (.success, some kvStore, s')
  | (status, _, s') => (convertKvStatus status, none, s')

end DbAdapterKvStore

def kvStoreAdapterDataManager {κ η : Type} (lib : DistributedKv.Library κ η) : DataManager κ η where
  getSingleKvStore := DbAdapterKvStore.getSingleKvStore lib
  get := DbAdapterKvStore.get lib
  delete := DbAdapterKvStore.delete lib
  put := DbAdapterKvStore.put lib
  getEntries := DbAdapterKvStore.getEntries lib
  putBatch := DbAdapterKvStore.putBatch lib

namespace Sqlite

/-- A column of a row, by its type: numbers that are not integers, blobs and nulls are `other`. -/
inductive Column
  | integer (value : Int64)
  | text (value : String)
  | other

abbrev Row : Type := List (String × Column)

inductive State
  | row
  | done
  | busy
  | misuse
  | unknown
deriving DecidableEq

/-- The rows that the steps of a statement give, one after another, and the state of the step after the last one. -/
structure Result (σ : Type) where
  rows : List Row
  last : State
  db : σ

/-- An attempt to open the database file: the result is `ok`, and there is a `handle`. -/
structure Opened (σ : Type) where
  ok : Bool
  handle : Bool
  db : σ

/-- The library of SQLite, which is not part of the repository. A statement is run with texts for its parameters. -/
structure Library (σ : Type) where
  sqliteOpen : σ → (fileName : String) → Opened σ
  run : σ → (sql : String) → (bound : List (String × String)) → Result σ

end Sqlite

inductive VariantValue
  | null
  | int (value : Int32)
  | int64 (value : Int64)
  | string (value : String)

def VariantValue.getString : VariantValue → String
  | .string value => value
  | _ => ""

abbrev GenericValues : Type := List (String × VariantValue)

/-- The first of the values that were put under a key, as with the insertions into a map. -/
def GenericValues.getString (values : GenericValues) (key : String) : String :=
  match Fields.find key values with
  | none => ""
  | some value => value.getString

namespace Statement

def cString (s : String) : String := String.ofList (s.toList.takeWhile (· ≠ '\x00'))

def getColumnInt : Sqlite.Column → Int32
  | .integer value => value.toInt32
  | _ => 0

def getColumnString (value : String) : String := cString value

def getValue (flagInt64 : Bool) : Sqlite.Column → VariantValue
  | .integer value => if flagInt64 then .int64 value else .int value.toInt32
  | .text value => .string (getColumnString value)
  | .other => .null

def genericValues (row : Sqlite.Row) : GenericValues := row.map fun column => (column.1, getValue false column.2)

def first {σ : Type} (result : Sqlite.Result σ) : Sqlite.State :=
  if result.rows.isEmpty then result.last else .row

end Statement

def accountInfoTableKey : String := "key"

def accountInfoTableValue : String := "value"

def createTableStr : String := "create table if not exists "

def textStr : String := " text not null,"

def pragmaVersionCommand : String := "PRAGMA user_version"

/-- The database of the app accounts: whether there is a connection, and what is in the file. -/
structure AppAccountSqliteHelper (σ : Type) where
  connected : Bool := false
  db : σ

namespace AppAccountSqliteHelper

def accountInfoTableName : String := "account_info"

def databaseName : String := "account.db"

def databasePath : String := "/data/service/el2/100/account/app_account/"

def databaseVersion : Int32 := 1

variable {σ : Type} (lib : Sqlite.Library σ) (s : AppAccountSqliteHelper σ)

def executeSql (sql : String) : AppAccountSqliteHelper σ := { s with db := (lib.run s.db sql []).db }

def getVersion : Int32 × AppAccountSqliteHelper σ :=
  let result := lib.run s.db pragmaVersionCommand []
  (result.rows.foldl (fun version row => match row with
    | [] => version
    | column :: _ => Statement.getColumnInt column.2) 0, { s with db := result.db })

def setVersion : AppAccountSqliteHelper σ :=
  executeSql lib s (pragmaVersionCommand ++ " = " ++ toString databaseVersion)

def createAppAccountTableSql : String :=
  createTableStr ++ (accountInfoTableName ++ " (") ++ accountInfoTableKey ++ textStr ++ accountInfoTableValue ++
    textStr ++ "primary key(" ++ accountInfoTableKey ++ "))"

def onCreate : AppAccountSqliteHelper σ := executeSql lib s createAppAccountTableSql

def onUpdate : AppAccountSqliteHelper σ := s

def upgrade : AppAccountSqliteHelper σ :=
  let (version, s) := getVersion lib s
  if version = databaseVersion then s
  else
    let s := executeSql lib s "BEGIN;"
    let s := if version = 0 then onCreate lib s else if version < databaseVersion then onUpdate s else s
    executeSql lib (setVersion lib s) "COMMIT;"

def openDb : AppAccountSqliteHelper σ :=
  if s.connected then s
  else if databaseName.isEmpty ∨ databasePath.isEmpty ∨ databaseVersion < 0 then s
  else
    let opened := lib.sqliteOpen s.db (databasePath ++ databaseName)
    let s := { connected := opened.handle, db := opened.db }
    if opened.ok then upgrade lib s else s

end AppAccountSqliteHelper

namespace DbAdapterSqlite

open AppAccountSqliteHelper Statement

def generateGetSql : String :=
  "select * from " ++ accountInfoTableName ++ " where 1=1" ++ " and " ++
    (accountInfoTableKey ++ "=:" ++ accountInfoTableKey)

def generateDeleteSql : String :=
  "delete from " ++ accountInfoTableName ++ " where 1=1" ++ " and " ++
    (accountInfoTableKey ++ "=:" ++ accountInfoTableKey)

def generatePutSql : String :=
  "insert or replace into " ++ accountInfoTableName ++ " values(" ++ (":" ++ accountInfoTableKey) ++ "," ++
    (":" ++ accountInfoTableValue) ++ ")"

def generateGetEntriesSql : String :=
  "select * from " ++ accountInfoTableName ++ " where 1=1" ++ " and " ++
    (accountInfoTableKey ++ " like :" ++ accountInfoTableKey)

variable {σ : Type} (lib : Sqlite.Library σ) (s : AppAccountSqliteHelper σ)

def checkOrOpenDb : DbAdapterStatus × AppAccountSqliteHelper σ :=
  if s.connected then (.success, s)
  else
    let s := openDb lib s
    if s.connected then (.success, s) else (.internalError, s)

def get (keyStr : String) : DbAdapterStatus × String × AppAccountSqliteHelper σ :=
  match checkOrOpenDb lib s with
  | (.success, s) =>
      let result := lib.run s.db generateGetSql [(":" ++ accountInfoTableKey, keyStr)]
      let s := { s with db := result.db }
      match result.rows.map genericValues with
      | [] => (.keyNotExist, "", s)
      | [values] => (.success, values.getString accountInfoTableValue, s)
      | _ => (.internalError, "", s)
  | (status, s) => (status, "", s)

def execute (sql : String) (bound : List (String × String)) : DbAdapterStatus × AppAccountSqliteHelper σ :=
  match checkOrOpenDb lib s with
  | (.success, s) =>
      let result := lib.run s.db sql bound
      let s := { s with db := result.db }
      if first result = .done then (.success, s) else (.internalError, s)
  | (status, s) => (status, s)

def delete (keyStr : String) : DbAdapterStatus × AppAccountSqliteHelper σ :=
  execute lib s generateDeleteSql [(":" ++ accountInfoTableKey, keyStr)]

def put (keyStr valueStr : String) : DbAdapterStatus × AppAccountSqliteHelper σ :=
  execute lib s generatePutSql [(":" ++ accountInfoTableKey, keyStr), (":" ++ accountInfoTableValue, valueStr)]

def getEntries (subId : String) : DbAdapterStatus × List DbAdapterEntry × AppAccountSqliteHelper σ :=
  match checkOrOpenDb lib s with
  | (.success, s) =>
      let result := lib.run s.db generateGetEntriesSql [(":" ++ accountInfoTableKey, subId ++ "%")]
      let entries := (result.rows.map genericValues).map fun values =>
        ⟨values.getString accountInfoTableKey, values.getString accountInfoTableValue⟩
      (.success, entries, { s with db := result.db })
  | (status, s) => (status, [], s)

def putBatch (_ : List DbAdapterEntry) : DbAdapterStatus × AppAccountSqliteHelper σ := (.notSupport, s)

def getSingleKvStore (_ : DbAdapterOptions) (_ _ : String) :
    DbAdapterStatus × Option Unit × AppAccountSqliteHelper σ :=
  match checkOrOpenDb lib s with
  | (.success, s) => (.success, some (), s)
  | (_, s) => (.internalError, none, s)

end DbAdapterSqlite

def sqliteAdapterDataManager {σ : Type} (lib : Sqlite.Library σ) : DataManager (AppAccountSqliteHelper σ) Unit where
  getSingleKvStore := DbAdapterSqlite.getSingleKvStore lib
  get s _ := DbAdapterSqlite.get lib s
  delete s _ := DbAdapterSqlite.delete lib s
  put s _ := DbAdapterSqlite.put lib s
  getEntries s _ := DbAdapterSqlite.getEntries lib s
  putBatch s _ := DbAdapterSqlite.putBatch s

def kvStoreEl1BaseDir : String := "/data/service/el1/public/database/"

structure AccountDataStorage where
  appId : String
  storeId : String
  options : DbAdapterOptions

def AccountDataStorage.make (appId storeId : String) (options : DbAdapterOptions) : AccountDataStorage :=
  { appId
    storeId
    options :=
      { options with baseDir := if options.area = .el1 then kvStoreEl1BaseDir ++ appId else options.baseDir } }

inductive Operation
  | put (keyStr valueStr : String)
  | get (keyStr : String)
  | delete (keyStr : String)
  | getEntries (subId : String)
  | putBatch (entries : List DbAdapterEntry)

structure Answer where
  status : DbAdapterStatus
  value : String := ""
  entries : List DbAdapterEntry := []

section perform

variable {σ η : Type} (manager : DataManager σ η)

def performOn (s : σ) (store : η) : Operation → Answer × σ
  | .put keyStr valueStr =>
      let (status, s) := manager.put s store keyStr valueStr
      ({ status }, s)
  | .get keyStr =>
      let (status, value, s) := manager.get s store keyStr
      ({ status, value }, s)
  | .delete keyStr =>
      let (status, s) := manager.delete s store keyStr
      ({ status }, s)
  | .getEntries subId =>
      let (status, entries, s) := manager.getEntries s store subId
      ({ status, entries }, s)
  | .putBatch entries =>
      let (status, s) := manager.putBatch s store entries
      ({ status }, s)

def perform (s : σ) (request : AccountDataStorage × Operation) : Answer × σ :=
  match manager.getSingleKvStore s request.1.options request.1.appId request.1.storeId with
  | (.success, some store, s) => performOn manager s store request.2
  | (status, _, s) => ({ status }, s)

def after (s : σ) (requests : List (AccountDataStorage × Operation)) : σ :=
  Machine.run (fun s request => (perform manager s request).2) s requests

end perform

end OsAccount.DatabaseAdapters
