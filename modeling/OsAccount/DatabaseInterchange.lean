import OsAccount.DatabaseAdapters
import OsAccount.LikePatterns
import Mathlib.Data.List.TakeWhile
import Mathlib.Logic.Function.Basic

namespace OsAccount.DatabaseInterchange

open Function Fields DatabaseAdapters LikePatterns AppAccountSqliteHelper DbAdapterSqlite

/-- The stores of the library of distributed data: a map for every application and store id. -/
abbrev Maps : Type := String × String → String → Option String

def Maps.set (m : Maps) (store : String × String) (key : String) (value : Option String) : Maps :=
  update m store (update (m store) key value)

theorem Maps.set_eq (m : Maps) (store : String × String) (key : String) (value : Option String) :
    m.set store key value =
      fun store' key' => if (store, key) = (store', key') then value else m store' key' := by
  funext store' key'
  rw [Maps.set, update_apply]
  by_cases hstore : store' = store
  · subst hstore
    rw [if_pos rfl, update_apply]
    exact if_congr ⟨fun h => h ▸ rfl, fun h => (Prod.mk.inj h).2.symm⟩ rfl rfl
  · rw [if_neg hstore, if_neg fun h => hstore (Prod.mk.inj h).1.symm]

/-- What the adapter relies on: the stores are independent maps, and a query by prefix finds the entries whose key has
the prefix. -/
structure Independent {κ η : Type} (lib : DistributedKv.Library κ η) (name : η → String × String) (maps : κ → Maps) :
    Prop where
  getSingleKvStore : ∀ s options appId storeId, options.createIfMissing = true →
    ∃ store s', lib.getSingleKvStore s options appId storeId = (.success, some store, s') ∧
      name store = (appId, storeId) ∧ maps s' = maps s
  get_some : ∀ s store key value, maps s (name store) key = some value → lib.get s store key = (.success, value)
  get_none : ∀ s store key, maps s (name store) key = none → (lib.get s store key).1 = .keyNotFound
  delete : ∀ s store key, (lib.delete s store key).1 = .success ∧
    maps (lib.delete s store key).2 = (maps s).set (name store) key none
  put : ∀ s store key value, (lib.put s store key value).1 = .success ∧
    maps (lib.put s store key value).2 = (maps s).set (name store) key (some value)
  getEntries : ∀ s store subId, (lib.getEntries s store subId).1 = .success ∧
    ∀ entry, entry ∈ (lib.getEntries s store subId).2 ↔
      subId.toList <+: entry.key.toList ∧ maps s (name store) entry.key = some entry.value
  putBatch : ∀ s store entries, (lib.putBatch s store entries).1 = .success ∧
    maps (lib.putBatch s store entries).2 =
      entries.foldl (fun m entry => m.set (name store) entry.key (some entry.value)) (maps s)

/-- What a database file holds: the version that its users have set, and the rows of the table once it is there. -/
structure Contents where
  version : Int32 := 0
  table : Option (List (String × String)) := none
  primaryKey : (keys (table.getD [])).Nodup := by exact List.nodup_nil

def Contents.rows (c : Contents) : List (String × String) := c.table.getD []

theorem Contents.rows_eq {c : Contents} {rows : List (String × String)} (h : c.table = some rows) : c.rows = rows := by
  rw [Contents.rows, h, Option.getD_some]

def toRow (row : String × String) : Sqlite.Row :=
  [(accountInfoTableKey, .text row.1), (accountInfoTableValue, .text row.2)]

def NoNull (s : String) : Prop := '\x00' ∉ s.toList

instance (s : String) : Decidable (NoNull s) := inferInstanceAs (Decidable (¬_))

/-- What the documentation of SQLite says about the statements of the adapter. About texts with null characters it
says nothing. -/
structure Documented {σ : Type} (lib : Sqlite.Library σ) (contents : σ → Contents) : Prop where
  sqliteOpen : ∀ s fileName, (lib.sqliteOpen s fileName).ok = true ∧ (lib.sqliteOpen s fileName).handle = true ∧
    contents (lib.sqliteOpen s fileName).db = contents s
  getVersion : ∀ s, (lib.run s pragmaVersionCommand []).rows =
      [[("user_version", .integer (contents s).version.toInt64)]] ∧
    contents (lib.run s pragmaVersionCommand []).db = contents s
  setVersion : ∀ s, (contents (lib.run s (pragmaVersionCommand ++ " = " ++ toString databaseVersion) []).db).table =
    (contents s).table
  transaction : ∀ s sql, sql = "BEGIN;" ∨ sql = "COMMIT;" → contents (lib.run s sql []).db = contents s
  createTable : ∀ s, (contents (lib.run s createAppAccountTableSql []).db).table = some (contents s).rows
  get : ∀ s rows key, (contents s).table = some rows →
    (lib.run s generateGetSql [(":key", key)]).rows =
        ((find key rows).toList.map fun value => toRow (key, value)) ∧
      contents (lib.run s generateGetSql [(":key", key)]).db = contents s
  getEntries : ∀ s rows pattern, (contents s).table = some rows → NoNull pattern → (∀ row ∈ rows, NoNull row.1) →
    (lib.run s generateGetEntriesSql [(":key", pattern)]).rows.Perm
        ((rows.filter fun row => like pattern.toList row.1.toList).map toRow) ∧
      contents (lib.run s generateGetEntriesSql [(":key", pattern)]).db = contents s
  delete : ∀ s rows key, (contents s).table = some rows →
    (lib.run s generateDeleteSql [(":key", key)]).rows = [] ∧
      (lib.run s generateDeleteSql [(":key", key)]).last = .done ∧
      ∃ rows', (contents (lib.run s generateDeleteSql [(":key", key)]).db).table = some rows' ∧
        ∀ key', find key' rows' = if key = key' then none else find key' rows
  put : ∀ s rows key value, (contents s).table = some rows →
    (lib.run s generatePutSql [(":key", key), (":value", value)]).rows = [] ∧
      (lib.run s generatePutSql [(":key", key), (":value", value)]).last = .done ∧
      ∃ rows', (contents (lib.run s generatePutSql [(":key", key), (":value", value)]).db).table = some rows' ∧
        ∀ key', find key' rows' = if key = key' then some value else find key' rows

def NoNulls : Operation → Prop
  | .put keyStr valueStr => NoNull keyStr ∧ NoNull valueStr
  | .getEntries subId => NoNull subId
  | .get _ | .delete _ | .putBatch _ => True

structure Same (a b : Answer) : Prop where
  status : a.status = b.status
  value : a.value = b.value
  entries : ∀ entry, entry ∈ a.entries ↔ entry ∈ b.entries

/-- The same entries are found as far as they have the prefix. If the prefix means nothing special in a pattern, no
others are found. -/
def SameEntries : Operation → List DbAdapterEntry → List DbAdapterEntry → Prop
  | .getEntries subId, found, expected =>
      (∀ entry : DbAdapterEntry, subId.toList <+: entry.key.toList → (entry ∈ found ↔ entry ∈ expected)) ∧
        ((∀ c ∈ subId.toList, Literal c) → ∀ entry, entry ∈ found ↔ entry ∈ expected)
  | _, found, expected => found = expected

structure Agrees (operation : Operation) (a b : Answer) : Prop where
  status : a.status = b.status
  value : a.value = b.value
  entries : SameEntries operation a.entries b.entries

def oneStore {κ η : Type} (manager : DataManager κ η) (storage : AccountDataStorage) (s : κ) :
    Operation → Answer × κ
  | .putBatch _ => ({ status := .notSupport }, s)
  | operation => perform manager s (storage, operation)

def effect (entries : String → Option String) : Operation → String → Option String
  | .put keyStr valueStr => update entries keyStr (some valueStr)
  | .delete keyStr => update entries keyStr none
  | .get _ | .getEntries _ | .putBatch _ => entries

def statusOf (entries : String → Option String) : Operation → DbAdapterStatus
  | .get keyStr => if (entries keyStr).isSome then .success else .keyNotExist
  | .put _ _ | .delete _ | .getEntries _ => .success
  | .putBatch _ => .notSupport

def valueOf (entries : String → Option String) : Operation → String
  | .get keyStr => (entries keyStr).getD ""
  | .put _ _ | .delete _ | .getEntries _ | .putBatch _ => ""

def EntriesOf (query : String → String → Prop) (entries : String → Option String) :
    Operation → List DbAdapterEntry → Prop
  | .getEntries subId, found =>
      ∀ entry : DbAdapterEntry, entry ∈ found ↔ query subId entry.key ∧ entries entry.key = some entry.value
  | _, found => found = []

structure Right (query : String → String → Prop) (entries : String → Option String) (operation : Operation)
    (a : Answer) : Prop where
  status : a.status = statusOf entries operation
  value : a.value = valueOf entries operation
  entries : EntriesOf query entries operation a.entries

def byPrefix (subId key : String) : Prop := subId.toList <+: key.toList

def byPattern (subId key : String) : Prop := like (subId ++ "%").toList key.toList = true

theorem byPattern_of_byPrefix {subId key : String} (h : byPrefix subId key) : byPattern subId key := by
  rw [byPattern, String.toList_append]
  exact like_of_prefix h

theorem byPrefix_of_byPattern {subId key : String} (hliteral : ∀ c ∈ subId.toList, Literal c)
    (h : byPattern subId key) : byPrefix subId key := by
  rw [byPattern, String.toList_append] at h
  exact prefix_of_like hliteral h

/-- A query by pattern tells from a query by prefix only by the keys that do not have the prefix. -/
theorem Right.agrees {entries : String → Option String} {operation : Operation} {a b : Answer}
    (ha : Right byPattern entries operation a)
    (hb : Right byPrefix entries operation b) : Agrees operation a b where
  status := ha.status.trans hb.status.symm
  value := ha.value.trans hb.value.symm
  entries := by
    have hentries := ha.entries
    have hexpected := hb.entries
    cases operation with
    | getEntries subId =>
        have hstarts : ∀ entry : DbAdapterEntry, subId.toList <+: entry.key.toList →
            (entry ∈ a.entries ↔ entry ∈ b.entries) := by
          intro entry hkey
          rw [hentries entry, hexpected entry]
          exact and_congr_left fun _ => iff_of_true (byPattern_of_byPrefix hkey) hkey
        refine ⟨hstarts, fun hliteral entry => ⟨fun hfound => ?_, fun hfound => ?_⟩⟩
        · have hkey := byPrefix_of_byPattern hliteral ((hentries entry).mp hfound).1
          exact (hstarts entry hkey).mp hfound
        · exact (hstarts entry ((hexpected entry).mp hfound).1).mpr hfound
    | put keyStr valueStr => exact Eq.trans hentries (Eq.symm hexpected)
    | get keyStr => exact Eq.trans hentries (Eq.symm hexpected)
    | delete keyStr => exact Eq.trans hentries (Eq.symm hexpected)
    | putBatch batch => exact Eq.trans hentries (Eq.symm hexpected)

theorem oneStore_eq {κ η : Type} {manager : DataManager κ η} {storage : AccountDataStorage} {s : κ}
    {operation : Operation} (h : ∀ batch, operation ≠ .putBatch batch) :
    oneStore manager storage s operation = perform manager s (storage, operation) := by
  cases operation with
  | putBatch batch => exact absurd rfl (h batch)
  | _ => rfl

section sqlite

variable {σ : Type} {lib : Sqlite.Library σ} {contents : σ → Contents} {s : AppAccountSqliteHelper σ}
  {entries : String → Option String}

structure Holds (contents : σ → Contents) (s : AppAccountSqliteHelper σ) (entries : String → Option String) : Prop where
  rows : ∀ key, find key (contents s.db).rows = entries key
  noNull : ∀ key value, entries key = some value → NoNull key ∧ NoNull value
  created : (contents s.db).table = none → s.connected = false ∧ (contents s.db).version = 0

theorem cString_eq {s : String} (h : NoNull s) : Statement.cString s = s := by
  have htake : s.toList.takeWhile (· ≠ '\x00') = s.toList := by
    refine List.takeWhile_eq_self_iff.mpr fun c hc => decide_eq_true ?_
    rintro rfl
    exact h hc
  rw [Statement.cString, htake, String.ofList_toList]

theorem getVersion_spec (hlib : Documented lib contents) (s : AppAccountSqliteHelper σ) :
    (getVersion lib s).1 = (contents s.db).version ∧ (getVersion lib s).2.connected = s.connected ∧
      contents (getVersion lib s).2.db = contents s.db := by
  obtain ⟨hrows, hcontents⟩ := hlib.getVersion s.db
  refine ⟨?_, rfl, hcontents⟩
  rw [getVersion]
  dsimp only
  rw [hrows]
  exact Int32.toInt32_toInt64 _

theorem upgrade_spec (hlib : Documented lib contents) (s : AppAccountSqliteHelper σ)
    (hcreated : (contents s.db).table = none → (contents s.db).version = 0) :
    (upgrade lib s).connected = s.connected ∧ (contents (upgrade lib s).db).table = some (contents s.db).rows := by
  obtain ⟨hversion, hconnected, hcontents⟩ := getVersion_spec hlib s
  have htable : (contents s.db).version ≠ 0 → (contents s.db).table = some (contents s.db).rows := by
    intro hne
    cases htable : (contents s.db).table with
    | none => exact absurd (hcreated htable) hne
    | some rows => rw [Contents.rows_eq htable]
  rw [upgrade]
  generalize getVersion lib s = read at hversion hconnected hcontents
  obtain ⟨version, s'⟩ := read
  dsimp only at hversion hconnected hcontents ⊢
  subst hversion
  split
  · rename_i hcurrent
    refine ⟨hconnected, ?_⟩
    rw [hcontents]
    exact htable (by rw [hcurrent]; decide)
  · have hbegin : contents (executeSql lib s' "BEGIN;").db = contents s.db :=
      (hlib.transaction s'.db "BEGIN;" (.inl rfl)).trans hcontents
    have hcommit : ∀ s, contents (executeSql lib s "COMMIT;").db = contents s.db :=
      fun s => hlib.transaction s.db "COMMIT;" (.inr rfl)
    rw [hcommit, setVersion]
    refine ⟨?_, (hlib.setVersion _).trans ?_⟩
    · rw [← hconnected]
      split
      · rfl
      · split <;> rfl
    · split
      · refine (hlib.createTable _).trans ?_
        rw [hbegin]
      · rename_i hne
        have hold := htable hne
        rw [onUpdate, ite_self, hbegin]
        exact hold

theorem checkOrOpenDb_spec (hlib : Documented lib contents) (h : Holds contents s entries) :
    ∃ s', checkOrOpenDb lib s = (.success, s') ∧ s'.connected = true ∧ Holds contents s' entries ∧
      ∃ rows, (contents s'.db).table = some rows := by
  cases hconnected : s.connected with
  | true =>
      refine ⟨s, by rw [checkOrOpenDb, if_pos hconnected], hconnected, h, ?_⟩
      refine Option.ne_none_iff_exists'.mp fun hnone => ?_
      rw [(h.created hnone).1] at hconnected
      cases hconnected
  | false =>
      obtain ⟨hok, hhandle, hcontents⟩ := hlib.sqliteOpen s.db (databasePath ++ databaseName)
      have hopen : openDb lib s = upgrade lib ⟨true, (lib.sqliteOpen s.db (databasePath ++ databaseName)).db⟩ := by
        rw [openDb, if_neg (by simp [hconnected]), if_neg (by decide)]
        dsimp only
        rw [if_pos hok, hhandle]
      obtain ⟨hafter, htable⟩ := upgrade_spec hlib
        ⟨true, (lib.sqliteOpen s.db (databasePath ++ databaseName)).db⟩ fun hnone => by
          rw [hcontents] at hnone ⊢
          exact (h.created hnone).2
      rw [hcontents] at htable
      rw [← hopen] at hafter htable
      refine ⟨openDb lib s, ?_, hafter, ⟨fun key => ?_, h.noNull, fun hnone => ?_⟩, _, htable⟩
      · rw [checkOrOpenDb, if_neg (by simp [hconnected])]
        exact if_pos hafter
      · rw [Contents.rows_eq htable]
        exact h.rows key
      · rw [htable] at hnone
        cases hnone

theorem checkOrOpenDb_of_connected (hconnected : s.connected = true) : checkOrOpenDb lib s = (.success, s) :=
  if_pos hconnected

theorem execute_of_connected (hconnected : s.connected = true) {sql : String} {bound : List (String × String)}
    (hrows : (lib.run s.db sql bound).rows = []) (hlast : (lib.run s.db sql bound).last = .done) :
    execute lib s sql bound = (.success, { s with db := (lib.run s.db sql bound).db }) := by
  have hfirst : Statement.first (lib.run s.db sql bound) = .done := by
    rw [Statement.first, hrows]
    exact hlast
  rw [execute, checkOrOpenDb_of_connected hconnected]
  exact if_pos hfirst

theorem genericValues_toRow {row : String × String} (hkey : NoNull row.1) (hvalue : NoNull row.2) :
    (Statement.genericValues (toRow row)).getString accountInfoTableKey = row.1 ∧
      (Statement.genericValues (toRow row)).getString accountInfoTableValue = row.2 :=
  ⟨cString_eq hkey, cString_eq hvalue⟩

theorem Holds.congr (h : Holds contents s entries) {db : σ} (hdb : contents db = contents s.db) :
    Holds contents { s with db } entries where
  rows key := by rw [hdb, h.rows]
  noNull := h.noNull
  created hnone := by
    dsimp only at hnone ⊢
    rw [hdb] at hnone ⊢
    exact h.created hnone

theorem Holds.update (h : Holds contents s entries) {db : σ} {rows : List (String × String)}
    (htable : (contents db).table = some rows) {key : String} {value : Option String}
    (hrows : ∀ key', find key' rows = if key = key' then value else find key' (contents s.db).rows)
    (hnull : ∀ v, value = some v → NoNull key ∧ NoNull v) :
    Holds contents { s with db } (update entries key value) where
  rows key' := by
    rw [Contents.rows_eq htable, hrows, h.rows, update_apply]
    exact if_congr eq_comm rfl rfl
  noNull key' v hv := by
    rw [update_apply] at hv
    split at hv
    · rename_i hkey
      rw [hkey]
      exact hnull v hv
    · exact h.noNull key' v hv
  created hnone := by
    rw [htable] at hnone
    cases hnone

theorem mem_entries {found : List Sqlite.Row} {matched : List (String × String)}
    (hfound : found.Perm (matched.map toRow)) (hnull : ∀ row ∈ matched, NoNull row.1 ∧ NoNull row.2)
    (entry : DbAdapterEntry) :
    (entry ∈ (found.map Statement.genericValues).map fun values =>
      (⟨values.getString accountInfoTableKey, values.getString accountInfoTableValue⟩ : DbAdapterEntry)) ↔
      (entry.key, entry.value) ∈ matched := by
  rw [List.map_map, (hfound.map _).mem_iff, List.map_map, List.mem_map]
  constructor
  · rintro ⟨row, hrow, rfl⟩
    obtain ⟨hkey, hvalue⟩ := genericValues_toRow (hnull row hrow).1 (hnull row hrow).2
    dsimp only [comp_apply]
    rw [hkey, hvalue]
    exact hrow
  · intro hrow
    obtain ⟨hkey, hvalue⟩ := genericValues_toRow (hnull _ hrow).1 (hnull _ hrow).2
    refine ⟨_, hrow, ?_⟩
    dsimp only [comp_apply]
    rw [hkey, hvalue]

theorem performOn_spec (hlib : Documented lib contents) (h : Holds contents s entries) (hconnected : s.connected = true)
    {operation : Operation} (hnull : NoNulls operation) :
    Right byPattern entries operation
        (performOn (sqliteAdapterDataManager lib) s () operation).1 ∧
      Holds contents (performOn (sqliteAdapterDataManager lib) s () operation).2 (effect entries operation) := by
  obtain ⟨rows, htable⟩ : ∃ rows, (contents s.db).table = some rows := by
    refine Option.ne_none_iff_exists'.mp fun hnone => ?_
    rw [(h.created hnone).1] at hconnected
    cases hconnected
  have hrows : ∀ key, find key rows = entries key := by
    intro key
    rw [← h.rows, Contents.rows_eq htable]
  cases operation with
  | put keyStr valueStr =>
      obtain ⟨hnone, hlast, rows', htable', hfind⟩ := hlib.put s.db rows keyStr valueStr htable
      have hput : DbAdapterSqlite.put lib s keyStr valueStr = (.success, _) :=
        execute_of_connected hconnected hnone hlast
      rw [performOn]
      dsimp only [sqliteAdapterDataManager]
      rw [hput]
      refine ⟨⟨rfl, rfl, rfl⟩, h.update htable' (fun key' => ?_) ?_⟩
      · rw [hfind, hrows, h.rows]
      · rintro v ⟨⟩
        exact hnull
  | delete keyStr =>
      obtain ⟨hnone, hlast, rows', htable', hfind⟩ := hlib.delete s.db rows keyStr htable
      have hdelete : DbAdapterSqlite.delete lib s keyStr = (.success, _) :=
        execute_of_connected hconnected hnone hlast
      rw [performOn]
      dsimp only [sqliteAdapterDataManager]
      rw [hdelete]
      refine ⟨⟨rfl, rfl, rfl⟩, h.update htable' (fun key' => ?_) nofun⟩
      rw [hfind, hrows, h.rows]
  | get keyStr =>
      obtain ⟨hfound, hdb⟩ := hlib.get s.db rows keyStr htable
      rw [hrows] at hfound
      rw [performOn]
      dsimp only [sqliteAdapterDataManager]
      rw [DbAdapterSqlite.get, checkOrOpenDb_of_connected hconnected]
      dsimp only
      rw [show ":" ++ accountInfoTableKey = ":key" from rfl, hfound]
      cases hvalue : entries keyStr with
      | none =>
          refine ⟨⟨?_, ?_, rfl⟩, h.congr hdb⟩
          · rw [statusOf, hvalue]
            rfl
          · rw [valueOf, hvalue]
            rfl
      | some value =>
          have hstring := (h.noNull keyStr value hvalue).2
          refine ⟨⟨?_, ?_, rfl⟩, h.congr hdb⟩
          · rw [statusOf, hvalue]
            rfl
          · rw [valueOf, hvalue]
            exact cString_eq hstring
  | getEntries subId =>
      have hmem : ∀ row : String × String, row ∈ rows ↔ entries row.1 = some row.2 := by
        intro row
        have hdistinct := (contents s.db).primaryKey
        rw [htable, Option.getD_some] at hdistinct
        rw [← hrows]
        exact ⟨find_of_mem hdistinct, mem_of_find⟩
      have hrow : ∀ row ∈ rows, NoNull row.1 ∧ NoNull row.2 := fun row hr => h.noNull _ _ ((hmem row).mp hr)
      have hpattern : NoNull (subId ++ "%") := by
        rw [NoNull, String.toList_append, List.mem_append, not_or]
        exact ⟨hnull, by decide⟩
      obtain ⟨hfound, hdb⟩ := hlib.getEntries s.db rows (subId ++ "%") htable hpattern fun row hr => (hrow row hr).1
      rw [performOn]
      dsimp only [sqliteAdapterDataManager]
      rw [DbAdapterSqlite.getEntries, checkOrOpenDb_of_connected hconnected]
      refine ⟨⟨rfl, rfl, fun entry => ?_⟩, h.congr hdb⟩
      refine (mem_entries hfound (fun row hr => hrow row (List.mem_filter.mp hr).1) entry).trans ?_
      rw [List.mem_filter, hmem, and_comm]
      rfl
  | putBatch batch => exact ⟨⟨rfl, rfl, rfl⟩, h⟩

theorem perform_spec (hlib : Documented lib contents) (h : Holds contents s entries)
    {request : AccountDataStorage × Operation} (hnull : NoNulls request.2) :
    Right byPattern entries request.2 (perform (sqliteAdapterDataManager lib) s request).1 ∧
      Holds contents (perform (sqliteAdapterDataManager lib) s request).2 (effect entries request.2) := by
  obtain ⟨s', hopen, hconnected, h', -⟩ := checkOrOpenDb_spec hlib h
  have hstore : getSingleKvStore lib s request.1.options request.1.appId request.1.storeId =
      (.success, some (), s') := by
    rw [getSingleKvStore, hopen]
  have hperform : perform (sqliteAdapterDataManager lib) s request =
      performOn (sqliteAdapterDataManager lib) s' () request.2 := by
    rw [perform]
    dsimp only [sqliteAdapterDataManager]
    rw [hstore]
  rw [hperform]
  exact performOn_spec hlib h' hconnected hnull

end sqlite

section kvStore

variable {κ η : Type} {lib : DistributedKv.Library κ η} {name : η → String × String} {maps : κ → Maps}

theorem kvStore_performOn_spec (hlib : Independent lib name maps) (s : κ) (store : η) {operation : Operation}
    (hoperation : ∀ batch, operation ≠ .putBatch batch) :
    Right byPrefix (maps s (name store)) operation (performOn (kvStoreAdapterDataManager lib) s store operation).1 ∧
      maps (performOn (kvStoreAdapterDataManager lib) s store operation).2 (name store) =
        effect (maps s (name store)) operation := by
  cases operation with
  | put keyStr valueStr =>
      obtain ⟨hstatus, hput⟩ := hlib.put s store keyStr valueStr
      refine ⟨⟨congrArg DbAdapterKvStore.convertKvStatus hstatus, rfl, rfl⟩, ?_⟩
      exact (congrFun hput (name store)).trans (update_self ..)
  | delete keyStr =>
      obtain ⟨hstatus, hdelete⟩ := hlib.delete s store keyStr
      refine ⟨⟨congrArg DbAdapterKvStore.convertKvStatus hstatus, rfl, rfl⟩, ?_⟩
      exact (congrFun hdelete (name store)).trans (update_self ..)
  | get keyStr =>
      rw [performOn]
      dsimp only [kvStoreAdapterDataManager]
      cases hvalue : maps s (name store) keyStr with
      | none =>
          have hget := hlib.get_none s store keyStr hvalue
          rw [DbAdapterKvStore.get]
          generalize lib.get s store keyStr = answer at hget
          obtain ⟨status, value⟩ := answer
          obtain rfl : status = .keyNotFound := hget
          refine ⟨⟨?_, ?_, rfl⟩, rfl⟩
          · rw [statusOf, hvalue]
            rfl
          · rw [valueOf, hvalue]
            rfl
      | some value =>
          rw [DbAdapterKvStore.get, hlib.get_some s store keyStr value hvalue]
          refine ⟨⟨?_, ?_, rfl⟩, rfl⟩
          · rw [statusOf, hvalue]
            rfl
          · rw [valueOf, hvalue]
            rfl
  | getEntries subId =>
      obtain ⟨hstatus, hentries⟩ := hlib.getEntries s store subId
      rw [performOn]
      dsimp only [kvStoreAdapterDataManager]
      rw [DbAdapterKvStore.getEntries]
      generalize lib.getEntries s store subId = answer at hstatus hentries
      obtain ⟨status, found⟩ := answer
      obtain rfl : status = .success := hstatus
      refine ⟨⟨rfl, rfl, fun entry => ?_⟩, rfl⟩
      dsimp only
      rw [List.mem_map]
      constructor
      · rintro ⟨item, hitem, rfl⟩
        exact (hentries item).mp hitem
      · intro hentry
        exact ⟨⟨entry.key, entry.value⟩, (hentries ⟨entry.key, entry.value⟩).mpr hentry, rfl⟩
  | putBatch batch => exact absurd rfl (hoperation batch)

theorem oneStore_spec (hlib : Independent lib name maps) (storage : AccountDataStorage) (s : κ)
    (operation : Operation) :
    Right byPrefix (maps s (storage.appId, storage.storeId)) operation
        (oneStore (kvStoreAdapterDataManager lib) storage s operation).1 ∧
      maps (oneStore (kvStoreAdapterDataManager lib) storage s operation).2 (storage.appId, storage.storeId) =
        effect (maps s (storage.appId, storage.storeId)) operation := by
  by_cases hbatch : ∃ batch, operation = .putBatch batch
  · obtain ⟨batch, rfl⟩ := hbatch
    exact ⟨⟨rfl, rfl, rfl⟩, rfl⟩
  · have hoperation : ∀ batch, operation ≠ .putBatch batch := fun batch he => hbatch ⟨batch, he⟩
    obtain ⟨store, s', hopen, hname, hmaps⟩ := hlib.getSingleKvStore s
      { createIfMissing := true
        encrypt := storage.options.encrypt
        autoSync := storage.options.autoSync
        syncable := storage.options.autoSync
        securityLevel := storage.options.securityLevel
        area := storage.options.area
        baseDir := storage.options.baseDir } storage.appId storage.storeId rfl
    have hstore : DbAdapterKvStore.getSingleKvStore lib s storage.options storage.appId storage.storeId =
        (.success, some store, s') := by
      rw [DbAdapterKvStore.getSingleKvStore, hopen]
    have hperform : oneStore (kvStoreAdapterDataManager lib) storage s operation =
        performOn (kvStoreAdapterDataManager lib) s' store operation := by
      rw [oneStore_eq hoperation, perform]
      dsimp only [kvStoreAdapterDataManager]
      rw [hstore]
    rw [hperform, ← hmaps, ← hname]
    exact kvStore_performOn_spec hlib s' store hoperation

end kvStore

section instances

inductive StatementKind
  | getVersion
  | setVersion
  | createTable
  | get
  | getEntries
  | delete
  | put
  | other
deriving DecidableEq

def statementKind (sql : String) : StatementKind :=
  if sql = pragmaVersionCommand then .getVersion
  else if sql = pragmaVersionCommand ++ " = " ++ toString databaseVersion then .setVersion
  else if sql = createAppAccountTableSql then .createTable
  else if sql = generateGetSql then .get
  else if sql = generateGetEntriesSql then .getEntries
  else if sql = generateDeleteSql then .delete
  else if sql = generatePutSql then .put
  else .other

def parameter (name : String) (bound : List (String × String)) : String := (find name bound).getD ""

def tables : Sqlite.Library Contents where
  sqliteOpen s _ := ⟨true, true, s⟩
  run s sql bound :=
    match statementKind sql with
    | .getVersion => ⟨[[("user_version", .integer s.version.toInt64)]], .done, s⟩
    | .setVersion => ⟨[], .done, { s with version := databaseVersion }⟩
    | .createTable => ⟨[], .done, { s with table := some s.rows }⟩
    | .get =>
        let key := parameter ":key" bound
        ⟨(find key s.rows).toList.map fun value => toRow (key, value), .done, s⟩
    | .getEntries =>
        let pattern := parameter ":key" bound
        ⟨(s.rows.filter fun row => like pattern.toList row.1.toList).map toRow, .done, s⟩
    | .delete =>
        let key := parameter ":key" bound
        ⟨[], .done, { s with table := some (delete key s.rows), primaryKey := nodup_delete s.primaryKey }⟩
    | .put =>
        let key := parameter ":key" bound
        let value := parameter ":value" bound
        ⟨[], .done, { s with table := some (set key value s.rows), primaryKey := nodup_set s.primaryKey }⟩
    | .other => ⟨[], .done, s⟩

theorem statementKind_other {sql : String} (h : sql = "BEGIN;" ∨ sql = "COMMIT;") : statementKind sql = .other := by
  rcases h with rfl | rfl <;> decide

theorem documented_tables : Documented tables id where
  sqliteOpen _ _ := ⟨rfl, rfl, rfl⟩
  getVersion _ := ⟨rfl, rfl⟩
  setVersion s := by
    have hsql : statementKind (pragmaVersionCommand ++ " = " ++ toString databaseVersion) = .setVersion := by decide
    simp only [tables, hsql, id]
  transaction s sql h := by simp only [tables, statementKind_other h]
  createTable s := by
    have hsql : statementKind createAppAccountTableSql = .createTable := by decide
    simp only [tables, hsql, id]
  get s rows key htable := by
    have hsql : statementKind generateGetSql = .get := by decide
    have hrows : s.rows = rows := Contents.rows_eq htable
    simp only [tables, hsql, id, hrows]
    exact ⟨rfl, trivial⟩
  getEntries s rows pattern htable _ _ := by
    have hsql : statementKind generateGetEntriesSql = .getEntries := by decide
    have hrows : s.rows = rows := Contents.rows_eq htable
    simp only [tables, hsql, id, hrows]
    exact ⟨.refl _, trivial⟩
  delete s rows key htable := by
    have hsql : statementKind generateDeleteSql = .delete := by decide
    have hrows : s.rows = rows := Contents.rows_eq htable
    simp only [tables, hsql, id]
    refine ⟨trivial, trivial, _, rfl, fun key' => ?_⟩
    rw [← hrows]
    exact find_delete s.primaryKey key key'
  put s rows key value htable := by
    have hsql : statementKind generatePutSql = .put := by decide
    have hrows : s.rows = rows := Contents.rows_eq htable
    simp only [tables, hsql, id]
    refine ⟨trivial, trivial, _, rfl, fun key' => ?_⟩
    rw [← hrows]
    exact find_set key key' value s.rows

abbrev Stores : Type := {l : List (((String × String) × String) × String) // (keys l).Nodup}

def Stores.maps (s : Stores) : Maps := fun store key => find (store, key) s.1

def Stores.put (s : Stores) (store : String × String) (key value : String) : Stores :=
  ⟨set (store, key) value s.1, nodup_set s.2⟩

def stores : DistributedKv.Library Stores (String × String) where
  getSingleKvStore s _ appId storeId := (.success, some (appId, storeId), s)
  getEntries s store subId := (.success, s.1.filterMap fun item =>
    if item.1.1 = store ∧ subId.toList.isPrefixOf item.1.2.toList then some ⟨item.1.2, item.2⟩ else none)
  get s store key :=
    match find (store, key) s.1 with
    | some value => (.success, value)
    | none => (.keyNotFound, "")
  delete s store key := (.success, ⟨delete (store, key) s.1, nodup_delete s.2⟩)
  put s store key value := (.success, s.put store key value)
  putBatch s store entries := (.success, entries.foldl (fun s entry => s.put store entry.key entry.value) s)

theorem maps_put (s : Stores) (store : String × String) (key value : String) :
    (s.put store key value).maps = s.maps.set store key (some value) := by
  funext store' key'
  rw [Stores.maps, Stores.put, find_set, Maps.set_eq]
  rfl

theorem independent_stores : Independent stores id Stores.maps where
  getSingleKvStore s _ appId storeId _ := ⟨(appId, storeId), s, rfl, rfl, rfl⟩
  get_some s store key value h := by
    rw [stores]
    dsimp only
    rw [show find (store, key) s.1 = some value from h]
  get_none s store key h := by
    rw [stores]
    dsimp only
    rw [show find (store, key) s.1 = none from h]
  delete s store key := by
    refine ⟨rfl, ?_⟩
    funext store' key'
    rw [Maps.set_eq]
    exact find_delete s.2 (store, key) (store', key')
  put s store key value := ⟨rfl, maps_put s store key value⟩
  getEntries s store subId := by
    refine ⟨rfl, fun entry => ?_⟩
    rw [stores]
    dsimp only
    rw [List.mem_filterMap]
    constructor
    · rintro ⟨item, hitem, hentry⟩
      rw [Option.ite_none_right_eq_some] at hentry
      obtain ⟨⟨rfl, hstarts⟩, hentry⟩ := hentry
      obtain rfl := Option.some.inj hentry
      exact ⟨List.isPrefixOf_iff_prefix.mp hstarts, find_of_mem s.2 hitem⟩
    · rintro ⟨hstarts, hfind⟩
      exact ⟨((store, entry.key), entry.value), mem_of_find hfind,
        if_pos ⟨rfl, List.isPrefixOf_iff_prefix.mpr hstarts⟩⟩
  putBatch s store entries := by
    refine ⟨rfl, ?_⟩
    rw [stores]
    dsimp only
    induction entries generalizing s with
    | nil => rfl
    | cons entry entries ih =>
        rw [List.foldl_cons, List.foldl_cons, ih, maps_put]
        rfl

end instances

def afterOneStore {κ η : Type} (manager : DataManager κ η) (storage : AccountDataStorage) (s : κ)
    (operations : List Operation) : κ :=
  Machine.run (fun s operation => (oneStore manager storage s operation).2) s operations

/-- The database of SQLite is one store for all storages: after any operations on any storages, an operation is
answered as by one store of the distributed data that has got them all. -/
theorem sqlite_agrees_oneStore {σ κ η : Type} {sqlite : Sqlite.Library σ} {contents : σ → Contents}
    {lib : DistributedKv.Library κ η} {name : η → String × String} {maps : κ → Maps}
    (hsqlite : Documented sqlite contents) (hlib : Independent lib name maps) (storage : AccountDataStorage)
    {s : AppAccountSqliteHelper σ} {t : κ} (h : Holds contents s (maps t (storage.appId, storage.storeId)))
    (before : List (AccountDataStorage × Operation)) (request : AccountDataStorage × Operation)
    (hnull : ∀ r ∈ before ++ [request], NoNulls r.2) :
    Agrees request.2
      (perform (sqliteAdapterDataManager sqlite) (after (sqliteAdapterDataManager sqlite) s before) request).1
      (oneStore (kvStoreAdapterDataManager lib) storage
        (afterOneStore (kvStoreAdapterDataManager lib) storage t (before.map Prod.snd)) request.2).1 := by
  induction before generalizing s t with
  | nil =>
      have ha := (perform_spec hsqlite h (hnull request List.mem_cons_self)).1
      exact ha.agrees (oneStore_spec hlib storage t request.2).1
  | cons first before ih =>
      obtain ⟨-, hs⟩ := perform_spec hsqlite h (hnull first List.mem_cons_self)
      rw [← (oneStore_spec hlib storage t first.2).2] at hs
      exact ih hs fun r hr => hnull r (List.mem_cons_of_mem first hr)

def appAccountStorage (storeId : String) : AccountDataStorage :=
  .make "app_account_manager_service" storeId { area := .el2 }

/-- One user finds the entry of another one, and a batch is refused. -/
theorem not_same_twoUsers :
    (let before := [(appAccountStorage "account_100", Operation.put "app#0#name#" "{}")]
     let request := (appAccountStorage "account_101", Operation.get "app#0#name#")
     ¬Same
        (perform (sqliteAdapterDataManager tables)
          (after (sqliteAdapterDataManager tables) { db := {} } before) request).1
        (perform (kvStoreAdapterDataManager stores)
          (after (kvStoreAdapterDataManager stores) ⟨[], List.nodup_nil⟩ before) request).1) ∧
      ¬Same
        (perform (sqliteAdapterDataManager tables) { db := {} } (appAccountStorage "account_100", .putBatch [])).1
        (perform (kvStoreAdapterDataManager stores) ⟨[], List.nodup_nil⟩
          (appAccountStorage "account_100", .putBatch [])).1 := by
  constructor
  · intro before request h
    exact absurd h.status (by decide)
  · intro h
    exact absurd h.status (by decide)

theorem sqlite_agrees_oneStore_twoUsers :
    Agrees (.getEntries "app#0#")
      (perform (sqliteAdapterDataManager tables)
        (after (sqliteAdapterDataManager tables) { db := {} }
          [(appAccountStorage "account_100", .put "app#0#name#" "{}")])
        (appAccountStorage "account_101", .getEntries "app#0#")).1
      (oneStore (kvStoreAdapterDataManager stores) (appAccountStorage "account_100")
        (afterOneStore (kvStoreAdapterDataManager stores) (appAccountStorage "account_100") ⟨[], List.nodup_nil⟩
          [.put "app#0#name#" "{}"]) (.getEntries "app#0#")).1 := by
  have hempty : Holds id ({ db := {} } : AppAccountSqliteHelper Contents)
      (Stores.maps ⟨[], List.nodup_nil⟩ ("app_account_manager_service", "account_100")) :=
    ⟨fun _ => rfl, nofun, fun _ => ⟨rfl, rfl⟩⟩
  exact sqlite_agrees_oneStore documented_tables independent_stores (appAccountStorage "account_100") hempty
    [(appAccountStorage "account_100", .put "app#0#name#" "{}")]
    (appAccountStorage "account_101", .getEntries "app#0#") (by simp [NoNulls]; decide)

end OsAccount.DatabaseInterchange
