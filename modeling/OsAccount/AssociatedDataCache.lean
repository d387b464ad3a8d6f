import OsAccount.AppAccountFailures
import OsAccount.AppAccountService
import OsAccount.RecordFrames

namespace OsAccount.AssociatedDataCache

open Function Fields Program Std CText AppAccountInfo AppAccountStore AppAccountFailures AppAccountService
  RecordFrames JsonUtils

section documents

def packJsonToMap (j : Json) : ExtTreeMap String String :=
  (fields j).foldl (fun m p => match stringValue? p.2 with
    | some value => m.insert p.1 value
    | none => m) ∅

def getAllAssociatedData (a : AppAccountInfo) : Except ErrCode (ExtTreeMap String String) :=
  match a.associatedData with
  | none => .error .dumpJsonError
  | some j => if isObject j then .ok (packJsonToMap j) else .error .dumpJsonError

def dataOf (a : AppAccountInfo) : ExtTreeMap String String := (getAllAssociatedData a).toOption.getD ∅

def setAssociatedData (a : AppAccountInfo) (key value : String) : Except ErrCode AppAccountInfo :=
  let j := a.associatedData.getD createJson
  if ¬isKeyExistByText j key ∧ (fields j).length ≥ maxAssociatedDataNumber then .error .associatedDataOverSize
  else if key = "" then .error .dumpJsonError
  else .ok { a with associatedData := some (addStringToJson j key value) }

end documents

section cache

structure AssociatedDataCacheItem where
  data : ExtTreeMap String String
  name : String
  freq : Int

abbrev Cache : Type := ExtTreeMap Nat AssociatedDataCacheItem

def associatedDataCacheMaxSize : Nat := 5

namespace Cache

variable (t : Cache) (uid : Nat) (name : String)

def find : Option AssociatedDataCacheItem := t[uid]?.filter fun item => item.name = name

def popDataFromAssociatedDataCache : Cache :=
  match t.toList with
  | [] => t
  | first :: rest =>
      let toPoped := rest.foldl (fun toPoped it => if toPoped.2 > it.2.freq then (it.1, 0) else toPoped)
        (first.1, first.2.freq)
      (t.map fun uid item => if uid = first.1 then item else { item with freq := 0 }).erase toPoped.1

def removeByUid : Cache := t.erase uid

def removeByAccount : Cache := if (t.find uid name).isSome then t.erase uid else t

def update (key value : String) : Cache :=
  match t.find uid name with
  | none => t
  | some item => t.insert uid { item with data := item.data.insert key value }

end Cache

def findValue (data : ExtTreeMap String String) (key : String) : Except ErrCode String :=
  match data[key]? with
  | none => .error .associatedDataKeyNotExist
  | some value => .ok value

def getAssociatedDataFromStorage (fails : Failures) (bundleName : Option BundleName) (appIndex : Nat)
    (name key : String) (uid : Nat) (s : Store) (t : Cache) : Except ErrCode String × Cache :=
  match bundleName with
  | none => (.error .getBundleName, t)
  | some bundleName =>
  match (performWith fails (getAccountInfoFromDataStorage (newAccount bundleName.1 appIndex name)) s).1 with
  | .error e => (.error e, t)
  | .ok info =>
      let t := if t.size ≥ associatedDataCacheMaxSize then t.popDataFromAssociatedDataCache else t
      (findValue (dataOf info) key, t.insertIfNew uid { data := dataOf info, name, freq := 0 })

def getAssociatedData (fails : Failures) (instIndex : Option Nat) (bundleName : Option BundleName)
    (name key : String) (uid : Nat) (s : Store) (t : Cache) : Except ErrCode String × Cache :=
  match t.find uid name with
  | none =>
      match instIndex with
      | none => (.error .getAppIndex, t)
      | some appIndex => getAssociatedDataFromStorage fails bundleName appIndex name key uid s (t.erase uid)
  | some item => (findValue item.data key, t.insert uid { item with freq := item.freq + 1 })

def saveAssociatedData (a : AppAccountInfo) (key value : String) : StoreProgram Ret := do
  match ← getAccountInfoFromDataStorage a with
  | .error e => return .error e
  | .ok info =>
  match AssociatedDataCache.setAssociatedData info key value with
  | .error e => return .error e
  | .ok info => saveAccountInfo info

end cache

section service

def uidTransformDivisor : Nat := 200000

def localIdOf (uid : Nat) : Nat := uid / uidTransformDivisor

structure Caller where
  bundleName : BundleName
  appIndex : Nat
deriving DecidableEq

def Caller.account (caller : Caller) (name : String) : AppAccountInfo :=
  newAccount caller.bundleName.1 caller.appIndex name

structure Memory where
  medium : Medium
  cache : Cache

def forget : Access → Cache → Cache
  | .removeAssociatedDataCacheByAccount uid name, t => t.removeByAccount uid name
  | .removeAssociatedDataCacheByUid uid, t => t.removeByUid uid
  | _, t => t

def answer (fails : Failures) (e : Access) (m : Memory) : Answer e × Memory :=
  ((attempt fails e m.medium).1, ⟨(attempt fails e m.medium).2, forget e m.cache⟩)

def performCached {α : Type} (fails : Failures) (p : StoreProgram α) (s : Store) (t : Cache) : α × Store × Cache :=
  let result := exec (writing (answer fails)) p ⟨⟨{ store := s }, fun _ => 0⟩, t⟩
  (result.1, result.2.medium.database.close, result.2.cache)

/-- The stores of the OS accounts, the uids that the bundle manager has given away,
the OS accounts that are removed, and the cache. -/
structure State where
  stores : Nat → Store
  installed : ExtTreeMap Nat Caller := ∅
  removedOsAccounts : ExtTreeSet Nat := ∅
  cache : Cache := ∅

namespace State

variable (s : State) (fails : Failures) (uid : Nat)

def storeOf : Store := s.stores (localIdOf uid)

def setStore (store : Store) : State := { s with stores := update s.stores (localIdOf uid) store }

def setCache (cache : Cache) : State := { s with cache }

def perform (p : StoreProgram Ret) : State :=
  let result := performCached fails p (s.storeOf uid) s.cache
  (s.setStore uid result.2.1).setCache result.2.2

def setAssociatedData (a : AppAccountInfo) (name key value : String) : State :=
  let result := performCached fails (saveAssociatedData a key value) (s.storeOf uid) s.cache
  let cache := if result.1 = .ok () then result.2.2.update uid name key value else result.2.2
  (s.setStore uid result.2.1).setCache cache

def getAssociatedData (caller : Caller) (name key : String) : Except ErrCode String × Cache :=
  AssociatedDataCache.getAssociatedData fails (some caller.appIndex) (some caller.bundleName) name key uid
    (s.storeOf uid) s.cache

def isFree (caller : Caller) : Bool :=
  !s.installed.contains uid &&
    s.installed.toList.all fun p => localIdOf p.1 ≠ localIdOf uid || p.2 ≠ caller

def withCaller (serve : Caller → State) : State :=
  match s.installed[uid]? with
  | none => s
  | some caller => serve caller

def onPackageRemoved : State :=
  match s.installed[uid]? with
  | none => s.setCache (s.cache.removeByUid uid)
  | some caller =>
      let isOsAccountRemoved := s.removedOsAccounts.contains (localIdOf uid)
      { s.perform fails uid (AppAccountStore.onPackageRemoved isOsAccountRemoved uid caller.bundleName.1 caller.appIndex)
        with installed := s.installed.erase uid }

end State

inductive Operation
  | addAccount (uid : Nat) (name extraInfo : String)
  | createAccount (uid : Nat) (name : String) (customData : ExtTreeMap String String)
  | deleteAccount (uid : Nat) (name : String)
  | setAssociatedData (uid : Nat) (name key value : String)
  | getAssociatedData (uid : Nat) (name key : String)
  | install (uid : Nat) (caller : Caller)
  | onPackageRemoved (uid : Nat)
  | osAccountRemoved (localId : Nat)
  | osAccountCreated (localId : Nat)

/-- The store of an OS account goes with its directory, and the uids of its
applications are free again. -/
def step (s : State) : Failures × Operation → State
  | (fails, .addAccount uid name extraInfo) =>
      s.withCaller uid fun caller => s.perform fails uid (addAccount (caller.account name) extraInfo)
  | (fails, .createAccount uid name customData) =>
      s.withCaller uid fun caller => s.perform fails uid (createAccount (caller.account name) customData)
  | (fails, .deleteAccount uid name) =>
      s.withCaller uid fun caller => s.perform fails uid (deleteAccount (caller.account name) uid name)
  | (fails, .setAssociatedData uid name key value) =>
      s.withCaller uid fun caller => s.setAssociatedData fails uid (caller.account name) name key value
  | (fails, .getAssociatedData uid name key) =>
      s.withCaller uid fun caller => s.setCache (s.getAssociatedData fails uid caller name key).2
  | (_, .install uid caller) =>
      if s.isFree uid caller then { s with installed := s.installed.insert uid caller } else s
  | (fails, .onPackageRemoved uid) => s.onPackageRemoved fails uid
  | (_, .osAccountRemoved localId) =>
      { s with
        stores := update s.stores localId {}
        installed := s.installed.filter fun uid _ => localIdOf uid ≠ localId
        removedOsAccounts := s.removedOsAccounts.insert localId }
  | (_, .osAccountCreated localId) => { s with removedOsAccounts := s.removedOsAccounts.erase localId }

def Transparent (s : State) : Failures × Operation → Prop
  | (fails, .getAssociatedData uid name key) => ∀ caller, s.installed[uid]? = some caller →
      (s.getAssociatedData fails uid caller name key).1 =
        ((s.setCache ∅).getAssociatedData fails uid caller name key).1
  | _ => True

def Distinct (customData : ExtTreeMap String String) : Prop := (customData.keys.map cStr).Nodup

instance (customData : ExtTreeMap String String) : Decidable (Distinct customData) :=
  inferInstanceAs (Decidable (List.Nodup _))

/-- An account with a cached item is not overwritten, an item is not compared with a read that
fails, and no uid is given away while there is an item of its former owner. What is added
keeps its name and its keys in the document, and what an item is given too. -/
def Harmless (s : State) : Failures × Operation → Prop
  | (fails, .addAccount uid name _) => ∀ caller, s.installed[uid]? = some caller →
      (NoNul caller.bundleName.1 ∧ NoNul name) ∧
        (s.cache.find uid name = none ∨ AddHarmless fails (s.storeOf uid) (caller.account name))
  | (fails, .createAccount uid name customData) => ∀ caller, s.installed[uid]? = some caller →
      (NoNul caller.bundleName.1 ∧ NoNul name ∧ Distinct customData) ∧
        (s.cache.find uid name = none ∨ AddHarmless fails (s.storeOf uid) (caller.account name))
  | (_, .setAssociatedData uid name key value) => s.cache.find uid name = none ∨ NoNul key ∧ NoNul value
  | (fails, .getAssociatedData uid name _) => s.cache.find uid name = none ∨ fails .get 0 = false
  | (_, .install uid caller) => s.isFree uid caller = false ∨ s.cache[uid]? = none
  | _ => True

end service

section frames

variable {D : Json → Prop} {K : String → Prop} {s : Store} {α : Type}

theorem possible_failed (e : Access) : possible D e (failed e) := by
  cases e with
  | get key => exact nofun
  | getEntries subId => exact nofun
  | _ => trivial

theorem attempt_keeps (fails : Failures) (e : Access) (m : Medium) (he : allowed D K e) (hm : Framed D K s m.database) :
    possible D e (attempt fails e m).1 ∧ Framed D K s (attempt fails e m).2.database := by
  unfold attempt
  cases kind e with
  | none => exact succeed_keeps e m.database he hm
  | some k =>
      dsimp only
      split
      · exact ⟨possible_failed e, hm⟩
      · exact succeed_keeps e m.database he hm

theorem performWith_keeps (fails : Failures) {p : StoreProgram α} {post : α → Prop} (hp : Keeps D K post p)
    (hs : WellKept D s) :
    post (performWith fails p s).1 ∧ Frame D K s (performWith fails p s).2 := by
  have hstart : Framed D K s { store := s } := ⟨⟨hs, fun _ _ => rfl⟩, nofun⟩
  obtain ⟨hpost, hend⟩ := exec_ensures (fun e m he hm => attempt_keeps fails e m he hm) hp
    (s := ⟨{ store := s }, fun _ => 0⟩) hstart
  exact ⟨hpost, hend.close⟩

theorem answer_keeps (fails : Failures) (e : Access) (m : Memory) (he : allowed D K e)
    (hm : Framed D K s m.medium.database) :
    possible D e (answer fails e m).1 ∧ Framed D K s (answer fails e m).2.medium.database :=
  attempt_keeps fails e m.medium he hm

theorem performCached_exec (fails : Failures) {p : StoreProgram α} {post : α → Prop} (hp : Keeps D K post p)
    (hs : WellKept D s) (t : Cache) : exec (writing (answer fails)) p ⟨⟨{ store := s }, fun _ => 0⟩, t⟩ =
      exec (answer fails) p ⟨⟨{ store := s }, fun _ => 0⟩, t⟩ :=
  exec_congr (writing_eq (answer fails)) (answer_keeps fails) hp (framed_start hs)

end frames

section items

variable {t t' : Cache} {uid uid' : Nat} {name : String} {item : AssociatedDataCacheItem} {s : Store}
  {a : AppAccountInfo} {m : Memory} {α : Type} (fails : Failures)

theorem Cache.find_eq_some : t.find uid name = some item ↔ t[uid]? = some item ∧ item.name = name := by
  unfold Cache.find
  rw [Option.filter_eq_some_iff, decide_eq_true_eq]

theorem Cache.find_eq_none :
    t.find uid name = none ↔ ∀ item : AssociatedDataCacheItem, t[uid]? = some item → item.name ≠ name := by
  rw [Option.eq_none_iff_forall_ne_some]
  constructor
  · intro h item hitem hname
    exact h item (find_eq_some.mpr ⟨hitem, hname⟩)
  · intro h item hitem
    obtain ⟨hlookup, hname⟩ := find_eq_some.mp hitem
    exact h item hlookup hname

structure Cache.Sub (t' t : Cache) : Prop where
  size : t'.size ≤ t.size
  item : ∀ (uid : Nat) (item : AssociatedDataCacheItem), t'[uid]? = some item →
    ∃ old : AssociatedDataCacheItem, t[uid]? = some old ∧ old.name = item.name ∧ old.data = item.data

theorem Cache.Sub.refl (t : Cache) : t.Sub t := ⟨Nat.le_refl _, fun _ item hitem => ⟨item, hitem, rfl, rfl⟩⟩

theorem Cache.Sub.trans {t₁ t₂ t₃ : Cache} (h : t₁.Sub t₂) (h' : t₂.Sub t₃) : t₁.Sub t₃ := by
  refine ⟨Nat.le_trans h.size h'.size, fun uid item hitem => ?_⟩
  obtain ⟨mid, hmid, hname, hdata⟩ := h.item uid item hitem
  obtain ⟨old, hold, hname', hdata'⟩ := h'.item uid mid hmid
  exact ⟨old, hold, hname'.trans hname, hdata'.trans hdata⟩

theorem Cache.Sub.find_eq_none (h : t'.Sub t) (hc : t.find uid name = none) : t'.find uid name = none := by
  rw [Cache.find_eq_none] at hc ⊢
  intro item hitem hname
  obtain ⟨old, hold, hname', -⟩ := h.item uid item hitem
  exact hc old hold (hname'.trans hname)

theorem Cache.getElem?_erase (t : Cache) (uid uid' : Nat) :
    (t.erase uid)[uid']? = if uid = uid' then none else t[uid']? :=
  OrderedMap.getElem?_erase_eq t uid uid'

theorem Cache.size_replace (hitem : t[uid]? = some item) (item' : AssociatedDataCacheItem) :
    (t.insert uid item').size = t.size := by
  have hmem : t.contains uid = true := by
    rw [ExtTreeMap.contains_eq_isSome_getElem?, hitem]
    rfl
  rw [ExtTreeMap.size_insert, if_pos hmem]

theorem Cache.getElem?_insert (t : Cache) (uid uid' : Nat) (item : AssociatedDataCacheItem) :
    (t.insert uid item)[uid']? = if uid = uid' then some item else t[uid']? :=
  OrderedMap.getElem?_insert_eq t uid uid' item

theorem Cache.sub_erase (t : Cache) (uid : Nat) : Cache.Sub (t.erase uid) t := by
  refine ⟨ExtTreeMap.size_erase_le, fun uid' item hitem => ?_⟩
  rw [Cache.getElem?_erase] at hitem
  split at hitem
  · cases hitem
  · exact ⟨item, hitem, rfl, rfl⟩

theorem Cache.sub_removeByAccount (t : Cache) (uid : Nat) (name : String) : (t.removeByAccount uid name).Sub t := by
  unfold Cache.removeByAccount
  split
  · exact t.sub_erase uid
  · exact .refl t

theorem Cache.find_removeByAccount (t : Cache) (uid : Nat) (name : String) :
    (t.removeByAccount uid name).find uid name = none := by
  unfold Cache.removeByAccount
  split
  · rw [Cache.find_eq_none]
    intro item hitem
    rw [Cache.getElem?_erase, if_pos rfl] at hitem
    cases hitem
  · next h => exact Option.not_isSome_iff_eq_none.mp h

theorem forget_sub (e : Access) (t : Cache) : (forget e t).Sub t := by
  cases e with
  | removeAssociatedDataCacheByAccount uid name => exact t.sub_removeByAccount uid name
  | removeAssociatedDataCacheByUid uid => exact t.sub_erase uid
  | _ => exact .refl t

theorem exec_answer (p : StoreProgram α) (m : Memory) :
    (exec (answer fails) p m).1 = (exec (attempt fails) p m.medium).1 ∧
      (exec (answer fails) p m).2.medium = (exec (attempt fails) p m.medium).2 :=
  exec_view (attempt fails) Memory.medium (fun _ _ => ⟨rfl, rfl⟩) p m

theorem performCached_eq {D : Json → Prop} {K : String → Prop} {p : StoreProgram α} {post : α → Prop}
    (hp : Keeps D K post p) (hs : WellKept D s) (t : Cache) :
    (performCached fails p s t).1 = (performWith fails p s).1 ∧
      (performCached fails p s t).2.1 = (performWith fails p s).2 := by
  unfold performCached
  rw [performCached_exec fails hp hs t]
  obtain ⟨hanswer, hmedium⟩ := exec_answer fails p ⟨⟨{ store := s }, fun _ => 0⟩, t⟩
  exact ⟨hanswer, congrArg (fun m => m.database.close) hmedium⟩

theorem cache_writing (e : Access) (m : Memory) : (writing (answer fails) e m).2.cache = forget e m.cache := by
  cases e <;> rfl

theorem exec_sub {handle : (e : Access) → Memory → Answer e × Memory}
    (hhandle : ∀ e m, (handle e m).2.cache = forget e m.cache) (p : StoreProgram α) (m : Memory) :
    (exec handle p m).2.cache.Sub m.cache := by
  have hsub : ∀ e m', m'.cache.Sub m.cache → (handle e m').2.cache.Sub m.cache := by
    intro e m' h
    rw [hhandle]
    exact (forget_sub e m'.cache).trans h
  exact exec_invariant hsub p (.refl m.cache)

theorem performCached_sub (p : StoreProgram α) (s : Store) (t : Cache) : (performCached fails p s t).2.2.Sub t :=
  exec_sub (cache_writing fails) p _

theorem cache_onPackageRemoved (isOsAccountRemoved : Bool) (uid : Nat) (bundleName : String) (appIndex : Nat)
    (s : Store) (t : Cache) :
    (performCached fails (onPackageRemoved isOsAccountRemoved uid bundleName appIndex) s t).2.2[uid]? = none := by
  unfold performCached onPackageRemoved
  rw [exec_bind]
  have hsub := exec_sub (cache_writing fails)
    (if isOsAccountRemoved then pure (.ok ()) else removeAppAccountData bundleName appIndex)
    (exec (writing (answer fails)) (removeAssociatedDataCacheByUid uid)
      ⟨⟨{ store := s }, fun _ => 0⟩, t⟩).2
  rw [Option.eq_none_iff_forall_ne_some]
  intro item hitem
  obtain ⟨old, hold, -⟩ := hsub.item uid item hitem
  have herased : (t.erase uid)[uid]? = none := by rw [Cache.getElem?_erase, if_pos rfl]
  cases herased.symm.trans hold

theorem database_getAccountInfo (a : AppAccountInfo) (m : Memory) :
    (exec (answer fails) (getAccountInfoFromDataStorage a) m).2.medium.database = m.medium.database := by
  rw [(exec_answer fails _ m).2, exec_getAccountInfo, database_count]

theorem saved_deleteAccountInfo (a : AppAccountInfo) (m : Memory) :
    (exec (answer fails) (deleteAccountInfoFromDataStorage a) m).2.medium.database.saved =
      m.medium.database.saved := by
  unfold deleteAccountInfoFromDataStorage
  rw [exec_bind]
  have hread := database_getAccountInfo fails a m
  generalize exec (answer fails) (getAccountInfoFromDataStorage a) m = r at hread ⊢
  obtain ⟨x, m₁⟩ := r
  rw [← hread]
  cases x with
  | error e => rfl
  | ok info =>
      dsimp only
      rw [exec_bind]
      have hround := (roundsOnly_removeValue fails info.getPrimeKey m₁.medium).saved
      rw [← (exec_answer fails _ m₁).2] at hround
      generalize exec (answer fails) (removeValueFromKvStore info.getPrimeKey) m₁ = r at hround ⊢
      obtain ⟨x, m₂⟩ := r
      cases x with
      | error e => exact hround
      | ok _ => exact hround

/-- Whatever fails in the deletion of an account: an item of the account is gone, or the
store is as before. -/
theorem deleteAccount_forgets {D : Json → Prop} (hs : WellKept D s) (a : AppAccountInfo) (ha : Reads a) (uid : Nat)
    (name : String) (t : Cache) :
    (performCached fails (deleteAccount a uid name) s t).2.1 = s ∨
      (performCached fails (deleteAccount a uid name) s t).2.2.find uid name = none := by
  unfold performCached
  rw [performCached_exec fails (keeps_deleteAccount (K := fun _ => True) ha trivial uid name) hs]
  unfold deleteAccount
  rw [exec_bind]
  have hread := database_getAccountInfo fails a ⟨⟨{ store := s }, fun _ => 0⟩, t⟩
  generalize exec (answer fails) (getAccountInfoFromDataStorage a)
      ⟨⟨{ store := s }, fun _ => 0⟩, t⟩ = r
    at hread ⊢
  obtain ⟨x, m₁⟩ := r
  cases x with
  | error e => exact .inl (congrArg Database.close hread)
  | ok info =>
      dsimp only
      unfold controlDeleteAccount
      rw [exec_bind]
      have hstart := exec_answer fails startDbTransaction m₁
      rw [AppAccountFailures.exec_startDbTransaction] at hstart
      generalize exec (answer fails) startDbTransaction m₁ = r at hstart ⊢
      obtain ⟨x, m₂⟩ := r
      obtain ⟨hanswer, hmedium⟩ := hstart
      dsimp only at hanswer hmedium hread
      by_cases hfail : fails .startTransaction (m₁.medium.made .startTransaction) = true
      · rw [if_pos hfail] at hanswer hmedium
        subst hanswer
        refine .inl ?_
        dsimp only [exec_pure]
        rw [hmedium, database_count, hread]
        rfl
      rw [if_neg hfail] at hanswer hmedium
      subst hanswer
      have hsaved : m₂.medium.database.saved = some s := by
        rw [hmedium, hread]
      dsimp only
      rw [exec_bind]
      have hkeep := saved_deleteAccountInfo fails info m₂
      generalize exec (answer fails) (deleteAccountInfoFromDataStorage info) m₂ = r at hkeep ⊢
      obtain ⟨x, m₃⟩ := r
      cases x with
      | error e =>
          refine .inl ?_
          show m₃.medium.database.saved.getD m₃.medium.database.store = s
          rw [hkeep.trans hsaved]
          rfl
      | ok stored =>
          refine .inr ?_
          have hforget : ((answer fails
              (.removeAssociatedDataCacheByAccount uid name) m₃).2.cache).find uid name = none :=
            Cache.find_removeByAccount m₃.cache uid name
          have hhandle : ∀ e m, (answer fails e m).2.cache = forget e m.cache := fun _ _ => rfl
          exact (exec_sub hhandle _ (answer fails
            (.removeAssociatedDataCacheByAccount uid name) m₃).2).find_eq_none hforget

end items

section values

variable {a b : AppAccountInfo} {key value : String}

theorem getElem?_packJsonToMap {l : List (String × Json)} (h : (keys l).Nodup) (k : String) :
    (packJsonToMap (.obj l))[k]? = (find k l).bind stringValue? := by
  have hfold : ∀ (acc : ExtTreeMap String String), (l.foldl (fun m p => match stringValue? p.2 with
      | some value => m.insert p.1 value
      | none => m) acc)[k]? = ((find k l).bind stringValue?).or acc[k]? := by
    induction l with
    | nil => exact fun acc => rfl
    | cons p l ih =>
        intro acc
        obtain ⟨j, x⟩ := p
        rw [keys_cons, List.nodup_cons] at h
        rw [List.foldl_cons, ih h.2, find]
        by_cases hj : j = k
        · subst hj
          rw [find_eq_none.mpr h.1, if_pos rfl]
          cases hx : stringValue? x with
          | none => simp [hx]
          | some text => simp [hx]
        · rw [if_neg hj]
          cases hx : stringValue? x with
          | none => rfl
          | some text => simp [OrderedMap.getElem?_insert_eq, hj]
  rw [packJsonToMap, fields, hfold]
  simp

theorem getElem?_dataOf (h : ∀ j, a.associatedData = some j → IsRecord j) (k : String) :
    (dataOf a)[k]? = (find k (fields (a.associatedData.getD createJson))).bind stringValue? := by
  unfold dataOf getAllAssociatedData
  cases ha : a.associatedData with
  | none => simp [Except.toOption, createJson, fields, find]
  | some j =>
      have hj := h j ha
      cases j with
      | obj l => exact getElem?_packJsonToMap hj k
      | _ => cases hj

structure DataSet (a b : AppAccountInfo) (key value : String) : Prop where
  primeKey : b.getPrimeKey = a.getPrimeKey
  kept : Kept IsRecord a.getPrimeKey b
  data : dataOf b = (dataOf a).insert (cStr key) (cStr value)

theorem setAssociatedData_spec (ha : Kept IsRecord a.getPrimeKey a) (h : setAssociatedData a key value = .ok b) :
    DataSet a b key value := by
  unfold setAssociatedData at h
  dsimp only at h
  split at h
  · cases h
  split at h
  · cases h
  next hkey =>
    obtain rfl := Except.ok.inj h
    have hrecord : IsRecord (a.associatedData.getD createJson) := by
      cases hj : a.associatedData with
      | none => exact List.nodup_nil
      | some j => exact ha.document j hj
    have hkept : Kept IsRecord a.getPrimeKey
        { a with associatedData := some (addStringToJson (a.associatedData.getD createJson) key value) } := by
      refine ⟨rfl, ha.owner, ?_, ha.plain.owner, ha.plain.name, ha.plain.extraInfo, ha.plain.authorizedApps,
        ha.plain.oauthTokens⟩
      rintro j ⟨⟩
      exact isRecord_setItemByText hrecord key (.str (cStr value))
    refine ⟨rfl, hkept, ExtTreeMap.ext_getElem? fun k => ?_⟩
    rw [getElem?_dataOf hkept.document, OrderedMap.getElem?_insert_eq, getElem?_dataOf ha.document]
    generalize a.associatedData.getD createJson = j at hrecord ⊢
    cases j with
    | obj l =>
        dsimp only [Option.getD_some, addStringToJson, setItemByText]
        rw [if_neg hkey, fields, find_set, fields]
        split
        · rfl
        · rfl
    | _ => cases hrecord

end values

section walk

variable {t : Cache}

theorem mem_toPoped (rest : List (Nat × AssociatedDataCacheItem)) (toPoped : Nat × Int) :
    (rest.foldl (fun toPoped it => if toPoped.2 > it.2.freq then (it.1, 0) else toPoped) toPoped).1 ∈
      toPoped.1 :: rest.map Prod.fst := by
  induction rest generalizing toPoped with
  | nil => exact List.mem_cons_self
  | cons it rest ih =>
      rw [List.foldl_cons, List.map_cons]
      by_cases hfreq : toPoped.2 > it.2.freq
      · rw [if_pos hfreq]
        exact List.mem_cons_of_mem _ (ih (it.1, 0))
      · have hrest := ih toPoped
        rw [if_neg hfreq]
        rw [List.mem_cons] at hrest ⊢
        exact hrest.imp_right (List.mem_cons_of_mem _)

theorem pop_sub (hc : 0 < t.size) :
    t.popDataFromAssociatedDataCache.Sub t ∧ t.popDataFromAssociatedDataCache.size < t.size := by
  have hlength : t.toList.length = t.size := ExtTreeMap.length_toList
  unfold Cache.popDataFromAssociatedDataCache
  cases hlist : t.toList with
  | nil =>
      rw [hlist] at hlength
      exact absurd hc (by rw [← hlength]; exact Nat.lt_irrefl 0)
  | cons first rest =>
      dsimp only
      have hmem := mem_toPoped rest (first.1, first.2.freq)
      generalize (rest.foldl (fun toPoped it => if toPoped.2 > it.2.freq then (it.1, 0) else toPoped)
        (first.1, first.2.freq)).1 = popped at hmem ⊢
      generalize hreset : (t.map fun uid item =>
          if uid = first.1 then item else { item with freq := 0 }) = reset
      have hpopped : popped ∈ t := by
        have hkeys : popped ∈ t.toList.map Prod.fst := by
          rw [hlist]
          exact hmem
        rw [ExtTreeMap.map_fst_toList_eq_keys, ExtTreeMap.mem_keys] at hkeys
        exact hkeys
      have hsize : (reset.erase popped).size = t.size - 1 := by
        rw [← hreset, ExtTreeMap.size_erase, ExtTreeMap.size_map, 
          if_pos (ExtTreeMap.mem_iff_contains.mp (ExtTreeMap.mem_map.mpr hpopped))]
      refine ⟨⟨by omega, fun uid item hitem => ?_⟩, by omega⟩
      rw [Cache.getElem?_erase] at hitem
      split at hitem
      · cases hitem
      rw [← hreset, ExtTreeMap.getElem?_map] at hitem
      obtain ⟨old, hold, rfl⟩ := Option.map_eq_some_iff.mp hitem
      refine ⟨old, hold, ?_⟩
      split
      · exact ⟨rfl, rfl⟩
      · exact ⟨rfl, rfl⟩

end walk

section coherence

def Backed (store : Store) (caller : Caller) (item : AssociatedDataCacheItem) : Prop :=
  ∃ a, store.accounts[(caller.account item.name).getPrimeKey]? = some a ∧ item.data = dataOf a

structure Coherent (s : State) : Prop where
  stores : ∀ localId, WellKept IsRecord (s.stores localId)
  once : ∀ (uid uid' : Nat) (caller : Caller), s.installed[uid]? = some caller → s.installed[uid']? = some caller →
    localIdOf uid = localIdOf uid' → uid = uid'
  items : ∀ (uid : Nat) (caller : Caller) (item : AssociatedDataCacheItem), s.installed[uid]? = some caller →
    s.cache[uid]? = some item → Backed (s.storeOf uid) caller item

variable {s : State} {fails : Failures} {uid : Nat} {caller caller' : Caller} {name name' key value : String}
  {store store' : Store} {t : Cache} {item : AssociatedDataCacheItem}

theorem account_inj (h : (caller.account name).getPrimeKey = (caller'.account name').getPrimeKey) :
    caller = caller' ∧ name = name' := by
  obtain ⟨howner, hindex, hname⟩ := (getPrimeKey_inj caller.bundleName.2 caller'.bundleName.2).mp h
  obtain ⟨bundleName, appIndex⟩ := caller
  obtain ⟨bundleName', appIndex'⟩ := caller'
  obtain rfl : bundleName = bundleName' := Subtype.ext howner
  obtain rfl : appIndex = appIndex' := hindex
  exact ⟨rfl, hname⟩

theorem Backed.of_old {old : AssociatedDataCacheItem} (h : Backed store caller old) (hname : old.name = item.name)
    (hdata : old.data = item.data) : Backed store caller item := by
  unfold Backed at h
  rw [hname, hdata] at h
  exact h

def OwnKey (caller : Caller) (k : String) : Prop := ∃ name, k = (caller.account name).getPrimeKey

theorem frame_own {s s' : Store} (h : Frame IsRecord (fun k => k = (caller.account name).getPrimeKey) s s') :
    Frame IsRecord (OwnKey caller) s s' :=
  ⟨h.kept, fun k hk => h.same k fun he => hk ⟨name, he⟩⟩

theorem Backed.frame {K : String → Prop} (h : Backed store caller item) (hframe : Frame IsRecord K store store')
    (hk : ¬K (caller.account item.name).getPrimeKey) : Backed store' caller item := by
  obtain ⟨a, ha, hdata⟩ := h
  exact ⟨a, (hframe.same _ hk).trans ha, hdata⟩

theorem storeOf_setStore (s : State) (uid uid' : Nat) (store : Store) :
    (s.setStore uid store).storeOf uid' = if localIdOf uid' = localIdOf uid then store else s.storeOf uid' :=
  update_apply ..

/-- An operation of a caller writes only under its own keys, and the items of the other
uids stay. -/
theorem Coherent.changed (h : Coherent s) (hcaller : s.installed[uid]? = some caller)
    (hframe : Frame IsRecord (OwnKey caller) (s.storeOf uid) store)
    (hothers : ∀ (uid' : Nat) (item : AssociatedDataCacheItem), uid' ≠ uid → t[uid']? = some item →
      ∃ old : AssociatedDataCacheItem, s.cache[uid']? = some old ∧ old.name = item.name ∧ old.data = item.data)
    (hown : ∀ item : AssociatedDataCacheItem, t[uid]? = some item → Backed store caller item) :
    Coherent ((s.setStore uid store).setCache t) where
  stores localId := by
    by_cases hlocal : localId = localIdOf uid
    · rw [hlocal]
      show WellKept IsRecord (update s.stores (localIdOf uid) store (localIdOf uid))
      rw [update_self]
      exact hframe.kept
    · show WellKept IsRecord (update s.stores (localIdOf uid) store localId)
      rw [update_of_ne hlocal]
      exact h.stores localId
  once := h.once
  items := by
    intro uid' caller' item hcaller' hitem
    show Backed ((s.setStore uid store).storeOf uid') caller' item
    rw [storeOf_setStore]
    by_cases huid : uid' = uid
    · subst huid
      obtain rfl : caller = caller' := Option.some.inj (hcaller.symm.trans hcaller')
      rw [if_pos rfl]
      exact hown item hitem
    · obtain ⟨old, hold, hname, hdata⟩ := hothers uid' item huid hitem
      have hback := (h.items uid' caller' old hcaller' hold).of_old hname hdata
      by_cases hlocal : localIdOf uid' = localIdOf uid
      · rw [if_pos hlocal]
        have hstore : s.storeOf uid' = s.storeOf uid := congrArg s.stores hlocal
        rw [hstore] at hback
        refine hback.frame hframe ?_
        rintro ⟨name, hname⟩
        obtain ⟨rfl, -⟩ := account_inj hname
        exact huid (h.once uid' uid caller' hcaller' hcaller hlocal)
      · rw [if_neg hlocal]
        exact hback

theorem Coherent.performed (h : Coherent s) (hcaller : s.installed[uid]? = some caller) {p : StoreProgram Ret}
    (hp : KeepsRet IsRecord (fun k => k = (caller.account name).getPrimeKey) p)
    (hforget : (performCached fails p (s.storeOf uid) s.cache).2.1 = s.storeOf uid ∨
      (performCached fails p (s.storeOf uid) s.cache).2.2.find uid name = none) : Coherent (s.perform fails uid p) := by
  have hsub := performCached_sub fails p (s.storeOf uid) s.cache
  have hframe := (performWith_keeps fails hp (h.stores (localIdOf uid))).2
  have hcached := performCached_eq fails hp (h.stores (localIdOf uid)) s.cache
  rw [← hcached.2] at hframe
  refine h.changed hcaller (frame_own hframe) (fun uid' item _ => hsub.item uid' item) ?_
  intro item hitem
  obtain ⟨old, hold, hname, hdata⟩ := hsub.item uid item hitem
  have hback := (h.items uid caller old hcaller hold).of_old hname hdata
  rcases hforget with hsame | hnone
  · rw [hsame]
    exact hback
  · refine hback.frame hframe fun he => ?_
    exact Cache.find_eq_none.mp hnone item hitem (account_inj he).2

theorem isRecord_createJsonFromMap {customData : ExtTreeMap String String} (h : Distinct customData) :
    IsRecord (createJsonFromMap customData) := by
  have hkeys : keys (customData.toList.map fun p => (cStr p.1, Json.str (cStr p.2))) = customData.keys.map cStr := by
    rw [← ExtTreeMap.map_fst_toList_eq_keys, keys, List.map_map, List.map_map]
    rfl
  unfold createJsonFromMap IsRecord
  dsimp only
  rw [hkeys]
  exact h

theorem Coherent.added (h : Coherent s) (hcaller : s.installed[uid]? = some caller)
    (hadd : s.cache.find uid name = none ∨ AddHarmless fails (s.storeOf uid) (caller.account name))
    {b : AppAccountInfo} (howner : b.owner = (caller.account name).owner)
    (hindex : b.appIndex = (caller.account name).appIndex)
    (hb : Kept IsRecord (caller.account name).getPrimeKey b) (p : StoreProgram Ret)
    (hp : p = do
      match ← getAccountInfoFromDataStorage (caller.account name) with
      | .ok _ => return .error .addExistingAccount
      | .error _ => addAccountInfoIntoDataStorage b) : Coherent (s.perform fails uid p) := by
  have hkept : Kept IsRecord b.getPrimeKey b := ⟨rfl, hb.owner, hb.document, hb.plain⟩
  have hkeeps : KeepsRet IsRecord (fun k => k = (caller.account name).getPrimeKey) p :=
    keeps_add (b := b) (reads_newAccount _ _ _) hb.key hkept p hp
  refine h.performed hcaller hkeeps ?_
  cases hfind : s.cache.find uid name with
  | none => exact .inr ((performCached_sub fails p _ s.cache).find_eq_none hfind)
  | some item =>
      refine .inl ?_
      obtain ⟨hitem, rfl⟩ := Cache.find_eq_some.mp hfind
      obtain ⟨a, ha, -⟩ := h.items uid caller item hcaller hitem
      have hharmless := hadd.resolve_left (by rw [hfind]; exact nofun)
      have hfull : (perform p (s.storeOf uid)).2 = s.storeOf uid := by
        rw [perform_add hb.key p hp, ha]
      have hstores : WellKept IsRecord (s.storeOf uid) := h.stores (localIdOf uid)
      rw [(performCached_eq fails hkeeps hstores s.cache).2]
      rcases (atomic_add howner hindex hb.key p hp hharmless).store with hsame | hdone
      · exact hsame
      · exact hdone.trans hfull

theorem keeps_saveAssociatedData (ha : Reads a) (key value : String) :
    KeepsRet IsRecord (fun k => k = a.getPrimeKey) (saveAssociatedData a key value) := by
  refine keeps_modify (fun info => setAssociatedData info key value) (fun e => e)
    (K := fun k => k = a.getPrimeKey) ha (fun info b hinfo hset => ?_) (fun b hb => keeps_saveKept rfl hb) _ rfl
  have hb := setAssociatedData_spec ⟨rfl, hinfo.owner, hinfo.document, hinfo.plain⟩ hset
  exact ⟨hb.primeKey.trans hinfo.key, hb.kept.owner, hb.kept.document, hb.kept.plain⟩

theorem saveAssociatedData_cases (fails : Failures) (hs : WellKept IsRecord store) (caller : Caller)
    (name key value : String) :
    (∃ e, performWith fails (saveAssociatedData (caller.account name) key value) store = (.error e, store)) ∨
      ∃ stored b, store.accounts[(caller.account name).getPrimeKey]? = some stored ∧ DataSet stored b key value ∧
        performWith fails (saveAssociatedData (caller.account name) key value) store =
          (.ok (), store.put (caller.account name).getPrimeKey b.toJson) := by
  have hwith := performWith_modify (caller.account name) (fun info => setAssociatedData info key value)
    (saveAssociatedData (caller.account name) key value) rfl fails store
  cases hread : read fails 0 store (caller.account name).getPrimeKey with
  | none =>
      rw [hread] at hwith
      exact .inl ⟨_, hwith⟩
  | some stored =>
      have hstored := accounts_of_read hread
      have hkept := hs _ _ hstored
      have hsame : (caller.account name).fromJson stored = stored := fromJson_newAccount ..
      rw [hread] at hwith
      dsimp only at hwith
      rw [hsame] at hwith
      cases hset : setAssociatedData stored key value with
      | error e =>
          rw [hset] at hwith
          exact .inl ⟨e, hwith⟩
      | ok b =>
          have hb := setAssociatedData_spec ⟨rfl, hkept.owner, hkept.document, hkept.plain⟩ hset
          have hkey : b.getPrimeKey = (caller.account name).getPrimeKey := hb.primeKey.trans hkept.key
          rw [hset] at hwith
          dsimp only at hwith
          rw [hkey] at hwith
          cases hread' : read fails 1 store (caller.account name).getPrimeKey with
          | none =>
              rw [hread'] at hwith
              exact .inl ⟨_, hwith⟩
          | some _ =>
              rw [hread'] at hwith
              dsimp only at hwith
              by_cases hput : fails .put 0 = true
              · rw [if_pos hput] at hwith
                exact .inl ⟨_, hwith⟩
              · rw [if_neg hput] at hwith
                exact .inr ⟨stored, b, hstored, hb, hwith⟩

theorem Coherent.dataSet (h : Coherent s) (hcaller : s.installed[uid]? = some caller)
    (htexts : s.cache.find uid name = none ∨ NoNul key ∧ NoNul value) :
    Coherent (s.setAssociatedData fails uid (caller.account name) name key value) := by
  have hp := keeps_saveAssociatedData (a := caller.account name) (reads_newAccount _ _ _) key value
  have hcached := performCached_eq fails hp (h.stores (localIdOf uid)) s.cache
  rw [show s.stores (localIdOf uid) = s.storeOf uid from rfl] at hcached
  unfold State.setAssociatedData
  dsimp only
  rw [hcached.1]
  rcases saveAssociatedData_cases fails (h.stores (localIdOf uid)) caller name key value with
    ⟨e, herror⟩ | ⟨stored, b, hstored, hb, hok⟩
  · have hresult : (performWith fails (saveAssociatedData (caller.account name) key value)
        (s.storeOf uid)).1 ≠ .ok () := by
      rw [show s.storeOf uid = s.stores (localIdOf uid) from rfl, herror]
      exact nofun
    rw [if_neg hresult]
    refine h.performed hcaller hp (.inl ?_)
    rw [hcached.2]
    exact congrArg Prod.snd herror
  · have hstore : s.storeOf uid = s.stores (localIdOf uid) := rfl
    rw [← hstore] at hstored hok
    have hframe := (performWith_keeps fails hp (h.stores (localIdOf uid))).2
    rw [← hstore] at hframe
    have hsub := performCached_sub fails (saveAssociatedData (caller.account name) key value)
      (s.storeOf uid) s.cache
    rw [hok, if_pos rfl, hcached.2]
    generalize (performCached fails (saveAssociatedData (caller.account name) key value)
      (s.storeOf uid) s.cache).2.2 = t
      at hsub ⊢
    have hold : ∀ item : AssociatedDataCacheItem, t[uid]? = some item →
        Backed (s.storeOf uid) caller item := by
      intro item hitem
      obtain ⟨old, hold, hname, hdata⟩ := hsub.item uid item hitem
      exact (h.items uid caller old hcaller hold).of_old hname hdata
    unfold Cache.update
    cases hfind : t.find uid name with
    | none =>
        refine h.changed hcaller (frame_own hframe) (fun uid' item _ => hsub.item uid' item) ?_
        intro item hitem
        refine (hold item hitem).frame hframe fun he => ?_
        exact Cache.find_eq_none.mp hfind item hitem (account_inj he).2
    | some item =>
        obtain ⟨hitem, rfl⟩ := Cache.find_eq_some.mp hfind
        have hlookup : ∀ uid', (t.insert uid { item with data := item.data.insert key value })[uid']? =
            if uid = uid' then some { item with data := item.data.insert key value } else t[uid']? :=
          fun uid' => t.getElem?_insert uid uid' _
        refine h.changed hcaller (frame_own hframe) (fun uid' other huid hother => ?_) fun other hother => ?_
        · rw [hlookup, if_neg huid.symm] at hother
          exact hsub.item uid' other hother
        · rw [hlookup, if_pos rfl] at hother
          obtain rfl := Option.some.inj hother
          obtain ⟨a, ha, hdata⟩ := hold item hitem
          obtain rfl : stored = a := Option.some.inj (hstored.symm.trans ha)
          refine ⟨b.toJson, ?_, ?_⟩
          · rw [hok]
            dsimp only
            rw [Store.getElem?_put, if_pos rfl]
          · have hcached : s.cache.find uid item.name ≠ none :=
              fun hnone => by cases hfind.symm.trans (hsub.find_eq_none hnone)
            obtain ⟨hkey, hvalue⟩ := htexts.resolve_left hcached
            show item.data.insert key value = dataOf b
            rw [hb.data, hdata, hkey.cStr, hvalue.cStr]

theorem performWith_getAccountInfo (fails : Failures) (a : AppAccountInfo) (store : Store) :
    (performWith fails (getAccountInfoFromDataStorage a) store).1 =
      match read fails 0 store a.getPrimeKey with
      | none => .error .getAccountInfoById
      | some stored => .ok (a.fromJson stored) := by
  have hexec : exec (attempt fails) (getAccountInfoFromDataStorage a) ⟨{ store }, fun _ => 0⟩ = _ :=
    exec_getAccountInfo
  exact congrArg Prod.fst hexec

def readValue (fails : Failures) (store : Store) (a : AppAccountInfo) (key : String) : Except ErrCode String :=
  match read fails 0 store a.getPrimeKey with
  | none => .error .getAccountInfoById
  | some stored => findValue (dataOf stored) key

def Cache.addItem (t : Cache) (uid : Nat) (item : AssociatedDataCacheItem) : Cache :=
  (if t.size ≥ associatedDataCacheMaxSize then t.popDataFromAssociatedDataCache else t).insertIfNew uid item

theorem getAssociatedDataFromStorage_eq (fails : Failures) (caller : Caller) (name key : String) (uid : Nat)
    (store : Store) (t : Cache) :
    getAssociatedDataFromStorage fails (some caller.bundleName) caller.appIndex name key uid store t =
      (readValue fails store (caller.account name) key,
        match read fails 0 store (caller.account name).getPrimeKey with
        | none => t
        | some stored => t.addItem uid { data := dataOf stored, name, freq := 0 }) := by
  unfold getAssociatedDataFromStorage readValue
  have hwith := performWith_getAccountInfo fails (caller.account name) store
  dsimp only
  rw [show newAccount caller.bundleName.1 caller.appIndex name = caller.account name from rfl, hwith]
  cases read fails 0 store (caller.account name).getPrimeKey with
  | none => rfl
  | some stored =>
      have hsame : (caller.account name).fromJson stored = stored := fromJson_newAccount ..
      dsimp only
      rw [hsame]
      rfl

theorem Cache.addItem_room (hc : t.size ≤ associatedDataCacheMaxSize) (uid : Nat) (item : AssociatedDataCacheItem) :
    ∃ t' : Cache, t'.Sub t ∧ t'.size < associatedDataCacheMaxSize ∧ t.addItem uid item = t'.insertIfNew uid item := by
  unfold Cache.addItem
  by_cases hfull : t.size ≥ associatedDataCacheMaxSize
  · obtain ⟨hsub, hless⟩ := pop_sub (Nat.lt_of_lt_of_le (by decide) hfull)
    exact ⟨_, hsub, Nat.lt_of_lt_of_le hless hc, by rw [if_pos hfull]⟩
  · exact ⟨t, .refl t, Nat.lt_of_not_le hfull, by rw [if_neg hfull]⟩

theorem Cache.size_addItem (hc : t.size ≤ associatedDataCacheMaxSize) (uid : Nat) (item : AssociatedDataCacheItem) :
    (t.addItem uid item).size ≤ associatedDataCacheMaxSize := by
  obtain ⟨t', -, hroom, hadd⟩ := Cache.addItem_room hc uid item
  rw [hadd]
  exact Nat.le_trans ExtTreeMap.size_insertIfNew_le hroom

theorem Cache.item_addItem (uid : Nat) (hc : t.size ≤ associatedDataCacheMaxSize)
    (item : AssociatedDataCacheItem) (uid' : Nat)
    (item' : AssociatedDataCacheItem) (hitem : (t.addItem uid item)[uid']? = some item') : (uid' = uid ∧ item' = item) ∨
      ∃ old : AssociatedDataCacheItem, t[uid']? = some old ∧ old.name = item'.name ∧ old.data = item'.data := by
  obtain ⟨t', hsub, -, hadd⟩ := Cache.addItem_room hc uid item
  rw [hadd, ExtTreeMap.getElem?_insertIfNew] at hitem
  split at hitem
  · next he =>
      exact .inl ⟨(LawfulEqCmp.compare_eq_iff_eq.mp he.1).symm, (Option.some.inj hitem).symm⟩
  · exact .inr (hsub.item uid' item' hitem)

theorem Coherent.dataGot (h : Coherent s) (hsize : s.cache.size ≤ associatedDataCacheMaxSize)
    (hcaller : s.installed[uid]? = some caller) (name key : String) :
    Coherent (s.setCache (s.getAssociatedData fails uid caller name key).2) := by
  have hsame : s.setStore uid (s.storeOf uid) = s := by
    unfold State.setStore State.storeOf
    rw [update_eq_self]
  have hframe : Frame IsRecord (OwnKey caller) (s.storeOf uid) (s.storeOf uid) :=
    ⟨h.stores (localIdOf uid), fun _ _ => rfl⟩
  have hitems : ∀ {item old : AssociatedDataCacheItem}, s.cache[uid]? = some old → old.name = item.name →
      old.data = item.data → Backed (s.storeOf uid) caller item :=
    fun hold hname hdata => (h.items uid caller _ hcaller hold).of_old hname hdata
  have hchanged := h.changed hcaller hframe (t := (s.getAssociatedData fails uid caller name key).2)
  rw [hsame] at hchanged
  unfold State.getAssociatedData getAssociatedData at hchanged ⊢
  cases hfind : s.cache.find uid name with
  | some item =>
      rw [hfind] at hchanged
      dsimp only at hchanged ⊢
      obtain ⟨hitem, -⟩ := Cache.find_eq_some.mp hfind
      refine hchanged (fun uid' other huid hother => ?_) fun other hother => ?_
      · rw [Cache.getElem?_insert, if_neg huid.symm] at hother
        exact ⟨other, hother, rfl, rfl⟩
      · rw [Cache.getElem?_insert, if_pos rfl] at hother
        obtain rfl := Option.some.inj hother
        exact hitems hitem rfl rfl
  | none =>
      rw [hfind] at hchanged
      dsimp only at hchanged ⊢
      have hsub := s.cache.sub_erase uid
      have hsize' := Nat.le_trans hsub.size hsize
      rw [getAssociatedDataFromStorage_eq] at hchanged ⊢
      cases hread : read fails 0 (s.storeOf uid) (caller.account name).getPrimeKey with
      | none =>
          rw [hread] at hchanged
          refine hchanged (fun uid' other _ => hsub.item uid' other) fun other hother => ?_
          obtain ⟨old, hold, hname, hdata⟩ := hsub.item uid other hother
          exact hitems hold hname hdata
      | some stored =>
          rw [hread] at hchanged
          have hadded := Cache.item_addItem uid hsize' { data := dataOf stored, name, freq := 0 }
          refine hchanged (fun uid' other huid hother => ?_) fun other hother => ?_
          · obtain ⟨old, hold, hname, hdata⟩ := (hadded uid' other hother).resolve_left fun he => huid he.1
            obtain ⟨older, holder, hname', hdata'⟩ := hsub.item uid' old hold
            exact ⟨older, holder, hname'.trans hname, hdata'.trans hdata⟩
          · rcases hadded uid other hother with ⟨-, rfl⟩ | ⟨old, hold, -⟩
            · exact ⟨stored, accounts_of_read hread, rfl⟩
            · rw [Cache.getElem?_erase, if_pos rfl] at hold
              cases hold

end coherence

section runs

variable {s : State} {fails : Failures} {uid : Nat} {caller : Caller} {name key value : String}

theorem size_update {t : Cache} (hc : t.size ≤ associatedDataCacheMaxSize) (uid : Nat) (name key value : String) :
    (t.update uid name key value).size ≤ associatedDataCacheMaxSize := by
  unfold Cache.update
  cases hfind : t.find uid name with
  | none => exact hc
  | some item =>
      dsimp only
      rw [Cache.size_replace (Cache.find_eq_some.mp hfind).1]
      exact hc

theorem size_getAssociatedData {t : Cache} (hc : t.size ≤ associatedDataCacheMaxSize) (caller : Caller)
    (store : Store) :
    (getAssociatedData fails (some caller.appIndex) (some caller.bundleName) name key uid store t).2.size ≤
      associatedDataCacheMaxSize := by
  unfold getAssociatedData
  cases hfind : t.find uid name with
  | some item =>
      dsimp only
      rw [Cache.size_replace (Cache.find_eq_some.mp hfind).1]
      exact hc
  | none =>
      have herased : (t.erase uid).size ≤ associatedDataCacheMaxSize := Nat.le_trans (t.sub_erase uid).size hc
      dsimp only
      rw [getAssociatedDataFromStorage_eq]
      cases read fails 0 store (caller.account name).getPrimeKey with
      | none => exact herased
      | some stored => exact Cache.size_addItem herased uid _

theorem size_perform (p : StoreProgram Ret) (hs : s.cache.size ≤ associatedDataCacheMaxSize) :
    (s.perform fails uid p).cache.size ≤ associatedDataCacheMaxSize :=
  Nat.le_trans (performCached_sub fails p (s.storeOf uid) s.cache).size hs

theorem size_withCaller {serve : Caller → State} (hs : s.cache.size ≤ associatedDataCacheMaxSize)
    (hserve : ∀ caller, (serve caller).cache.size ≤ associatedDataCacheMaxSize) :
    (s.withCaller uid serve).cache.size ≤ associatedDataCacheMaxSize := by
  unfold State.withCaller
  split
  · exact hs
  · exact hserve _

theorem size_step (s : State) (x : Failures × Operation) (hs : s.cache.size ≤ associatedDataCacheMaxSize) :
    (step s x).cache.size ≤ associatedDataCacheMaxSize := by
  obtain ⟨fails, op⟩ := x
  cases op with
  | addAccount uid name extraInfo => exact size_withCaller hs fun caller => size_perform _ hs
  | createAccount uid name customData => exact size_withCaller hs fun caller => size_perform _ hs
  | deleteAccount uid name => exact size_withCaller hs fun caller => size_perform _ hs
  | setAssociatedData uid name key value =>
      refine size_withCaller hs fun caller => ?_
      have hsub := performCached_sub fails (saveAssociatedData (caller.account name) key value)
        (s.storeOf uid) s.cache
      unfold State.setAssociatedData State.setCache
      dsimp only
      split
      · exact size_update (Nat.le_trans hsub.size hs) uid name key value
      · exact Nat.le_trans hsub.size hs
  | getAssociatedData uid name key =>
      exact size_withCaller hs fun caller => size_getAssociatedData hs caller (s.storeOf uid)
  | install uid caller =>
      unfold step
      dsimp only
      split
      · exact hs
      · exact hs
  | onPackageRemoved uid =>
      unfold step State.onPackageRemoved
      dsimp only
      split
      · exact Nat.le_trans (s.cache.sub_erase uid).size hs
      · exact size_perform _ hs
  | osAccountRemoved localId => exact hs
  | osAccountCreated localId => exact hs

theorem Coherent.withCaller (h : Coherent s) {serve : Caller → State}
    (hserve : ∀ caller, s.installed[uid]? = some caller → Coherent (serve caller)) :
    Coherent (s.withCaller uid serve) := by
  unfold State.withCaller
  cases hcaller : s.installed[uid]? with
  | none => exact h
  | some caller => exact hserve caller hcaller

theorem Coherent.installed (h : Coherent s) (hfree : s.isFree uid caller = true) (hcache : s.cache[uid]? = none) :
    Coherent { s with installed := s.installed.insert uid caller } := by
  have hlookup : ∀ uid', (s.installed.insert uid caller)[uid']? =
      if uid = uid' then some caller else s.installed[uid']? :=
    fun uid' => OrderedMap.getElem?_insert_eq s.installed uid uid' caller
  unfold State.isFree at hfree
  rw [Bool.and_eq_true, List.all_eq_true] at hfree
  have hother : ∀ uid', s.installed[uid']? = some caller → localIdOf uid' ≠ localIdOf uid := by
    intro uid' huid' hlocal
    have hentry := hfree.2 (uid', caller) (ExtTreeMap.mem_toList_iff_getElem?_eq_some.mpr huid')
    simp [hlocal] at hentry
  refine ⟨h.stores, fun uid₁ uid₂ caller' h₁ h₂ hlocal => ?_, fun uid' caller' item hcaller' hitem => ?_⟩
  · dsimp only at h₁ h₂
    rw [hlookup] at h₁ h₂
    split at h₁
    · next he₁ =>
        split at h₂
        · next he₂ => exact he₁.symm.trans he₂
        · obtain rfl := Option.some.inj h₁
          exact absurd (he₁ ▸ hlocal.symm) (hother uid₂ h₂)
    · split at h₂
      · next he₂ =>
          obtain rfl := Option.some.inj h₂
          exact absurd (he₂ ▸ hlocal) (hother uid₁ h₁)
      · exact h.once uid₁ uid₂ caller' h₁ h₂ hlocal
  · dsimp only at hcaller' hitem
    rw [hlookup] at hcaller'
    split at hcaller'
    · next he =>
        subst he
        cases hcache.symm.trans hitem
    · exact h.items uid' caller' item hcaller' hitem

theorem Coherent.freed (h : Coherent s) (installed : ExtTreeMap Nat Caller)
    (hsub : ∀ (uid : Nat) (caller : Caller), installed[uid]? = some caller → s.installed[uid]? = some caller) :
    Coherent { s with installed } :=
  ⟨h.stores, fun uid uid' caller h₁ h₂ => h.once uid uid' caller (hsub uid caller h₁) (hsub uid' caller h₂),
    fun uid caller item hcaller => h.items uid caller item (hsub uid caller hcaller)⟩

theorem Coherent.packageRemoved (h : Coherent s) (fails : Failures) (uid : Nat) :
    Coherent (s.onPackageRemoved fails uid) := by
  unfold State.onPackageRemoved
  cases hcaller : s.installed[uid]? with
  | none =>
      refine ⟨h.stores, h.once, fun uid' caller' item hcaller' hitem => ?_⟩
      obtain ⟨old, hold, hname, hdata⟩ := (s.cache.sub_erase uid).item uid' item hitem
      exact (h.items uid' caller' old hcaller' hold).of_old hname hdata
  | some caller =>
      dsimp only
      generalize hp : AppAccountStore.onPackageRemoved (s.removedOsAccounts.contains (localIdOf uid)) uid
        caller.bundleName.1 caller.appIndex = p
      have hkeeps : KeepsRet IsRecord (OwnKey caller) p :=
        hp ▸ keeps_onPackageRemoved _ uid caller.bundleName.2 caller.appIndex
      have hsub := performCached_sub fails p (s.storeOf uid) s.cache
      have hframe := (performWith_keeps fails hkeeps (h.stores (localIdOf uid))).2
      rw [← (performCached_eq fails hkeeps (h.stores (localIdOf uid)) s.cache).2] at hframe
      have hgone : (performCached fails p (s.storeOf uid) s.cache).2.2[uid]? = none :=
        hp ▸ cache_onPackageRemoved fails _ uid caller.bundleName.1 caller.appIndex (s.storeOf uid) s.cache
      have hperform : Coherent (s.perform fails uid p) := by
        refine h.changed hcaller hframe (fun uid' item _ => hsub.item uid' item) fun item hitem => ?_
        cases hgone.symm.trans hitem
      refine hperform.freed (s.installed.erase uid) fun uid' caller' hcaller' => ?_
      rw [OrderedMap.getElem?_erase_eq] at hcaller'
      split at hcaller'
      · cases hcaller'
      · exact hcaller'

theorem Coherent.userRemoved (h : Coherent s) (localId : Nat) (removedOsAccounts : ExtTreeSet Nat) :
    Coherent { s with
      stores := update s.stores localId {}
      installed := s.installed.filter fun uid _ => localIdOf uid ≠ localId
      removedOsAccounts } := by
  have hinstalled : ∀ (uid : Nat) (caller : Caller),
      (s.installed.filter fun uid _ => localIdOf uid ≠ localId)[uid]? = some caller →
        s.installed[uid]? = some caller ∧ localIdOf uid ≠ localId := by
    intro uid caller hcaller
    rw [ExtTreeMap.getElem?_filter', Option.filter_eq_some_iff, decide_eq_true_eq] at hcaller
    exact hcaller
  refine ⟨fun localId' => ?_, fun uid uid' caller h₁ h₂ => ?_, fun uid caller item hcaller hitem => ?_⟩
  · dsimp only
    by_cases hlocal : localId' = localId
    · rw [hlocal, update_self]
      intro k a ha
      exact absurd ha (by simp)
    · rw [update_of_ne hlocal]
      exact h.stores localId'
  · exact h.once uid uid' caller (hinstalled uid caller h₁).1 (hinstalled uid' caller h₂).1
  · obtain ⟨hbefore, hlocal⟩ := hinstalled uid caller hcaller
    have hback := h.items uid caller item hbefore hitem
    unfold State.storeOf at hback ⊢
    dsimp only
    rw [update_of_ne hlocal]
    exact hback

theorem coherent_step (s : State) (x : Failures × Operation)
    (h : Coherent s ∧ s.cache.size ≤ associatedDataCacheMaxSize) (hx : Harmless s x) : Coherent (step s x) := by
  obtain ⟨h, hsize⟩ := h
  obtain ⟨fails, op⟩ := x
  cases op with
  | addAccount uid name extraInfo =>
      refine h.withCaller fun caller hcaller => ?_
      obtain ⟨⟨hbundle, hname⟩, hadd⟩ := hx caller hcaller
      have hplain := plain_newAccount hbundle hname caller.appIndex
      have hcut : s.perform fails uid (addAccount (caller.account name) extraInfo) =
          s.perform fails uid (addAccount (caller.account name) (cStr extraInfo)) := by
        unfold State.perform performCached
        rw [exec_addAccount_cStr]
      rw [hcut]
      exact h.added hcaller hadd (b := (caller.account name).setExtraInfo (cStr extraInfo)) rfl rfl
        ⟨rfl, caller.bundleName.2, nofun, hplain.owner, hplain.name, noNul_cStr extraInfo, hplain.authorizedApps,
          hplain.oauthTokens⟩ _ rfl
  | createAccount uid name customData =>
      refine h.withCaller fun caller hcaller => ?_
      obtain ⟨⟨hbundle, hname, hdistinct⟩, hadd⟩ := hx caller hcaller
      have hplain := plain_newAccount hbundle hname caller.appIndex
      refine h.added hcaller hadd
        (b := { caller.account name with associatedData := some (createJsonFromMap customData) }) rfl rfl ?_ _ rfl
      refine ⟨rfl, caller.bundleName.2, ?_, hplain.owner, hplain.name, hplain.extraInfo, hplain.authorizedApps,
        hplain.oauthTokens⟩
      rintro j ⟨⟩
      exact isRecord_createJsonFromMap hdistinct
  | deleteAccount uid name =>
      refine h.withCaller fun caller hcaller => ?_
      have hp := keeps_deleteAccount (D := IsRecord) (K := fun k => k = (caller.account name).getPrimeKey)
        (reads_newAccount caller.bundleName.1 caller.appIndex name) rfl uid name
      exact h.performed hcaller hp (deleteAccount_forgets fails (h.stores (localIdOf uid)) _
        (reads_newAccount caller.bundleName.1 caller.appIndex name) uid name s.cache)
  | setAssociatedData uid name key value =>
      exact h.withCaller fun caller hcaller => h.dataSet hcaller hx
  | getAssociatedData uid name key =>
      exact h.withCaller fun caller hcaller => h.dataGot hsize hcaller name key
  | install uid caller =>
      unfold step
      dsimp only
      split
      · next hfree =>
          exact h.installed hfree (hx.resolve_left (by rw [hfree]; exact nofun))
      · exact h
  | onPackageRemoved uid => exact h.packageRemoved fails uid
  | osAccountRemoved localId => exact h.userRemoved localId _
  | osAccountCreated localId => exact ⟨h.stores, h.once, h.items⟩

theorem transparent_of_coherent (h : Coherent s) {x : Failures × Operation} (hx : Harmless s x) : Transparent s x := by
  obtain ⟨fails, op⟩ := x
  cases op with
  | getAssociatedData uid name key =>
      intro caller hcaller
      have hempty : Cache.find ∅ uid name = none := by
        rw [Cache.find_eq_none]
        intro item hitem
        simp at hitem
      unfold State.getAssociatedData getAssociatedData
      rw [show ((s.setCache ∅).cache.find uid name) = none from hempty]
      dsimp only
      cases hfind : s.cache.find uid name with
      | none =>
          dsimp only
          rw [getAssociatedDataFromStorage_eq, getAssociatedDataFromStorage_eq]
          rfl
      | some item =>
          obtain ⟨hitem, rfl⟩ := Cache.find_eq_some.mp hfind
          obtain ⟨a, ha, hdata⟩ := h.items uid caller item hcaller hitem
          have hget : fails .get 0 = false := hx.resolve_left (by rw [hfind]; exact nofun)
          have hread : AppAccountFailures.read fails 0 (s.storeOf uid)
              (caller.account item.name).getPrimeKey = some a := by
            unfold AppAccountFailures.read
            rw [hget, ha]
            rfl
          have hvalue : readValue fails (s.storeOf uid) (caller.account item.name) key =
              findValue (dataOf a) key := by
            unfold readValue
            rw [hread]
          dsimp only
          rw [getAssociatedDataFromStorage_eq]
          show findValue item.data key = readValue fails (s.storeOf uid) (caller.account item.name) key
          rw [hvalue, hdata]
  | _ => trivial

structure Started (s : State) : Prop where
  stores : ∀ localId, WellKept IsRecord (s.stores localId)
  once : ∀ (uid uid' : Nat) (caller : Caller), s.installed[uid]? = some caller → s.installed[uid']? = some caller →
    localIdOf uid = localIdOf uid' → uid = uid'
  cache : s.cache = ∅

/-- The cache never grows over its size, and as long as no step makes an item stale, it
cannot be told from an empty one. -/
theorem cache_run (hs : Started s) (ops : List (Failures × Operation)) :
    (Machine.run step s ops).cache.size ≤ associatedDataCacheMaxSize ∧
      (Machine.Meets step Harmless s ops → Machine.Meets step Transparent s ops) := by
  have hsize : s.cache.size ≤ associatedDataCacheMaxSize := by
    rw [hs.cache]
    exact Nat.zero_le _
  refine ⟨Machine.run_invariant size_step hsize ops, fun hops => ?_⟩
  have hcoherent : Coherent s := by
    refine ⟨hs.stores, hs.once, fun uid caller item _ hitem => ?_⟩
    rw [hs.cache] at hitem
    simp at hitem
  have hstep : ∀ s x, Coherent s ∧ s.cache.size ≤ associatedDataCacheMaxSize → Harmless s x →
      Coherent (step s x) ∧ (step s x).cache.size ≤ associatedDataCacheMaxSize :=
    fun s x h hx => ⟨coherent_step s x h hx, size_step s x h.2⟩
  exact Machine.Meets.imp_of_meets hstep (fun s x h hx => transparent_of_coherent h.1 hx)
    ⟨hcoherent, hsize⟩ hops

theorem notMem_mail : '#' ∉ "com.example.mail".toList := by decide

def mail : Caller := ⟨⟨"com.example.mail", notMem_mail⟩, 0⟩

def firstUser : List (Failures × Operation) :=
  [(never, .install 20010001 mail), (never, .createAccount 20010001 "alice" ∅),
    (never, .setAssociatedData 20010001 "alice" "key" "old"), (never, .getAssociatedData 20010001 "alice" "key")]

def secondUser : List (Failures × Operation) :=
  [(never, .osAccountRemoved 100), (never, .osAccountCreated 100), (never, .install 20010001 mail)]

def begun : State := { stores := fun _ => {} }

theorem started_begun : Started begun := by
  refine ⟨fun localId k a ha => ?_, fun uid uid' caller hcaller => ?_, rfl⟩
  · exact absurd ha (by simp [begun])
  · exact absurd hcaller (by simp [begun])

theorem transparent_firstUser : Machine.Meets step Transparent begun
    (firstUser ++ [(never, .setAssociatedData 20010001 "alice" "key" "new"),
      (never, .getAssociatedData 20010001 "alice" "key")]) := by
  have hmail : (step begun (never, .install 20010001 mail)).installed[20010001]? = some mail := by decide +kernel
  refine (cache_run started_begun _).2 ⟨.inr (by decide +kernel), fun caller hcaller => ?_, .inr (by decide),
    .inr rfl, .inr (by decide), .inr rfl, trivial⟩
  obtain rfl : mail = caller := Option.some.inj (hmail.symm.trans hcaller)
  exact ⟨by decide +kernel, .inl (by decide +kernel)⟩

/-- The data of the removed user, those of an account that a failing addition has
overwritten, and a value that its document has cut. -/
theorem not_transparent_secondUser :
    ¬Transparent (Machine.run step begun (firstUser ++ secondUser))
      (never, .getAssociatedData 20010001 "alice" "key") ∧
    ¬Transparent (Machine.run step begun (firstUser ++
      [(only [(.get, 0), (.get, 1)], .addAccount 20010001 "alice" "")]))
      (never, .getAssociatedData 20010001 "alice" "key") ∧
    ¬Transparent (Machine.run step begun (firstUser ++
      [(never, .setAssociatedData 20010001 "alice" "key" "new\x00er")]))
      (never, .getAssociatedData 20010001 "alice" "key") := by
  refine ⟨fun h => ?_, fun h => ?_, fun h => ?_⟩
  · exact absurd (h mail (by decide +kernel)) (by decide +kernel)
  · exact absurd (h mail (by decide +kernel)) (by decide +kernel)
  · exact absurd (h mail (by decide +kernel)) (by decide +kernel)

end runs

end OsAccount.AssociatedDataCache
