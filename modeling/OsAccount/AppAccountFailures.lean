import Mathlib.Algebra.Order.Ring.Nat
import OsAccount.AppAccountStore
import OsAccount.Machine

namespace OsAccount.AppAccountFailures

open Program Std AppAccountInfo AuthorizedAccounts AppAccountStore

inductive Kind
  | get
  | getAuthorizedAccounts
  | getEntries
  | put
  | putAuthorizedAccounts
  | delete
  | startTransaction
  | commit
deriving DecidableEq

def kind : Access → Option Kind
  | .get _ => some .get
  | .getAuthorizedAccounts => some .getAuthorizedAccounts
  | .getEntries _ => some .getEntries
  | .put _ _ => some .put
  | .putAuthorizedAccounts _ => some .putAuthorizedAccounts
  | .delete _ => some .delete
  | .startTransaction => some .startTransaction
  | .commit => some .commit
  | .removeAssociatedDataCacheByAccount _ _ => none
  | .removeAssociatedDataCacheByUid _ => none

def failed : (e : Access) → Answer e
  | .get _ => none
  | .getAuthorizedAccounts => none
  | .getEntries _ => none
  | .put _ _ => false
  | .putAuthorizedAccounts _ => false
  | .delete _ => false
  | .startTransaction => false
  | .commit => false
  | .removeAssociatedDataCacheByAccount _ _ => ()
  | .removeAssociatedDataCacheByUid _ => ()

abbrev Failures : Type := Kind → Nat → Bool

structure Medium where
  database : Database
  made : Kind → Nat

def Medium.count (m : Medium) (k : Kind) : Medium := { m with made := Function.update m.made k (m.made k + 1) }

def attempt (fails : Failures) (e : Access) (m : Medium) : Answer e × Medium :=
  let done := succeed e m.database
  match kind e with
  | none => (done.1, { m with database := done.2 })
  | some k => if fails k (m.made k) then (failed e, m.count k) else (done.1, { m.count k with database := done.2 })

def performWith {α : Type} (fails : Failures) (p : StoreProgram α) (s : Store) : α × Store :=
  let result := exec (attempt fails) p ⟨{ store := s }, fun _ => 0⟩
  (result.1, result.2.database.close)

inductive Operation
  | addAccount (owner : String) (appIndex : Nat) (name extraInfo : String)
  | createAccount (owner : String) (appIndex : Nat) (name : String) (customData : ExtTreeMap String String)
  | setAccountExtraInfo (owner : String) (appIndex : Nat) (name extraInfo : String)
  | enableAppAccess (owner : String) (appIndex : Nat) (name authorizedApp : String) (apiVersion : Nat)
  | disableAppAccess (owner : String) (appIndex : Nat) (name authorizedApp : String) (apiVersion : Nat)
  | deleteAccount (owner : String) (appIndex : Nat) (name : String) (uid : Nat)
  | onPackageRemoved (isOsAccountRemoved : Bool) (uid : Nat) (bundleName : String) (appIndex : Nat)

def program : Operation → StoreProgram Ret
  | .addAccount owner appIndex name extraInfo => addAccount (newAccount owner appIndex name) extraInfo
  | .createAccount owner appIndex name customData => createAccount (newAccount owner appIndex name) customData
  | .setAccountExtraInfo owner appIndex name extraInfo => setAccountExtraInfo (newAccount owner appIndex name) extraInfo
  | .enableAppAccess owner appIndex name authorizedApp apiVersion =>
      enableAppAccess (newAccount owner appIndex name) authorizedApp apiVersion
  | .disableAppAccess owner appIndex name authorizedApp apiVersion =>
      disableAppAccess (newAccount owner appIndex name) authorizedApp apiVersion
  | .deleteAccount owner appIndex name uid => deleteAccount (newAccount owner appIndex name) uid name
  | .onPackageRemoved isOsAccountRemoved uid bundleName appIndex =>
      onPackageRemoved isOsAccountRemoved uid bundleName appIndex

/-- The store is as before or as it would be without a failure, and a success means
the latter. -/
structure Atomic (fails : Failures) (p : StoreProgram Ret) (s : Store) : Prop where
  store : (performWith fails p s).2 = s ∨ (performWith fails p s).2 = (perform p s).2
  success : (performWith fails p s).1 = .ok () → (performWith fails p s).2 = (perform p s).2

section accesses

variable {fails : Failures} {m : Medium} {α : Type}

def never : Failures := fun _ _ => false

theorem exec_never (p : StoreProgram α) (m : Medium) :
    (exec (attempt never) p m).1 = (exec succeed p m.database).1 ∧
      (exec (attempt never) p m).2.database = (exec succeed p m.database).2 := by
  induction p generalizing m with
  | ret a => exact ⟨rfl, rfl⟩
  | access e next ih =>
      have he : (attempt never e m).1 = (succeed e m.database).1 ∧
          (attempt never e m).2.database = (succeed e m.database).2 := by
        unfold attempt
        cases kind e with
        | none => exact ⟨rfl, rfl⟩
        | some k => exact ⟨rfl, rfl⟩
      obtain ⟨hanswer, hdatabase⟩ := he
      have hnext := ih (attempt never e m).1 (attempt never e m).2
      rw [hdatabase, hanswer] at hnext
      unfold exec
      rw [hanswer]
      exact hnext

theorem performWith_never (p : StoreProgram α) (s : Store) : performWith never p s = perform p s := by
  obtain ⟨hanswer, hdatabase⟩ := exec_never p ⟨{ store := s }, fun _ => 0⟩
  exact Prod.ext hanswer (congrArg Database.close hdatabase)

end accesses

section specifications

variable {fails : Failures} {m : Medium} {a info : AppAccountInfo} {key : String}

def Medium.setStore (m : Medium) (s : Store) : Medium := { m with database := { m.database with store := s } }

@[simp]
theorem made_count (m : Medium) (k j : Kind) : (m.count k).made j = if j = k then m.made k + 1 else m.made j :=
  Function.update_apply ..

@[simp]
theorem database_count (m : Medium) (k : Kind) : (m.count k).database = m.database := rfl

@[simp]
theorem made_setStore (m : Medium) (s : Store) : (m.setStore s).made = m.made := rfl

@[simp]
theorem store_setStore (m : Medium) (s : Store) : (m.setStore s).database.store = s := rfl

@[simp]
theorem saved_setStore (m : Medium) (s : Store) : (m.setStore s).database.saved = m.database.saved := rfl

theorem exec_access {e : Access} {k : Kind} (he : kind e = some k) : exec (attempt fails) (call e) m =
    if fails k (m.made k) then (failed e, m.count k)
    else ((succeed e m.database).1, { m.count k with database := (succeed e m.database).2 }) := by
  rw [exec_call]
  unfold attempt
  rw [he]

def read (fails : Failures) (i : Nat) (s : Store) (key : String) : Option AppAccountInfo :=
  if fails .get i then none else s.accounts[key]?

def readTable (fails : Failures) (i : Nat) (t : Option Json) : Option Json :=
  if fails .getAuthorizedAccounts i then none else t

theorem exec_get (key : String) : exec (attempt fails) (get key) m =
    (read fails (m.made .get) m.database.store key, m.count .get) := by
  rw [exec_access rfl]
  unfold read
  split
  · rfl
  · rfl

theorem exec_getAccountInfo : exec (attempt fails) (getAccountInfoFromDataStorage a) m =
    (match read fails (m.made .get) m.database.store a.getPrimeKey with
      | none => .error .getAccountInfoById
      | some stored => .ok (a.fromJson stored), m.count .get) := by
  unfold getAccountInfoFromDataStorage
  rw [exec_bind, exec_get]
  cases read fails (m.made .get) m.database.store a.getPrimeKey with
  | none => rfl
  | some stored => rfl

theorem exec_put (info : AppAccountInfo) : exec (attempt fails) (putValueToKvStore key info) m =
    if fails .put (m.made .put) then (.error .queryDistributeDataError, m.count .put)
    else (.ok (), (m.count .put).setStore (m.database.store.put key info)) := by
  unfold putValueToKvStore
  rw [exec_bind, exec_access rfl]
  split
  · rfl
  · rfl

theorem exec_addAccountInfo : exec (attempt fails) (addAccountInfo a) m =
    match read fails (m.made .get) m.database.store a.getPrimeKey with
    | some _ => (.error .dataStorageKeyExisted, m.count .get)
    | none => exec (attempt fails) (putValueToKvStore a.getPrimeKey a.toJson) (m.count .get) := by
  unfold addAccountInfo isKeyExists
  rw [exec_bind, exec_bind, exec_get]
  cases read fails (m.made .get) m.database.store a.getPrimeKey with
  | none => rfl
  | some stored => rfl

theorem exec_saveAccountInfo : exec (attempt fails) (saveAccountInfo a) m =
    match read fails (m.made .get) m.database.store a.getPrimeKey with
    | none => (.error .dataStorageKeyNotExists, m.count .get)
    | some _ => exec (attempt fails) (putValueToKvStore a.getPrimeKey a.toJson) (m.count .get) := by
  unfold saveAccountInfo isKeyExists
  rw [exec_bind, exec_bind, exec_get]
  cases read fails (m.made .get) m.database.store a.getPrimeKey with
  | none => rfl
  | some stored => rfl

theorem exec_loadData (subId : String) : exec (attempt fails) (loadDataByLocalFuzzyQuery subId) m =
    (if fails .getEntries (m.made .getEntries) then .error .queryDistributeDataError
      else .ok (m.database.store.getEntries subId), m.count .getEntries) := by
  unfold loadDataByLocalFuzzyQuery
  rw [exec_bind, exec_access rfl]
  by_cases h : fails .getEntries (m.made .getEntries) = true
  · rw [if_pos h, if_pos h]
    rfl
  · rw [if_neg h, if_neg h]
    rfl

theorem exec_startDbTransaction : exec (attempt fails) startDbTransaction m =
    if fails .startTransaction (m.made .startTransaction) then
      (.error .queryDistributeDataError, m.count .startTransaction)
    else (.ok (), { m.count .startTransaction with
      database := ⟨m.database.store, some m.database.store⟩ }) := by
  unfold startDbTransaction
  rw [exec_bind, exec_access rfl]
  split
  · rfl
  · rfl

theorem exec_commitDbTransaction : exec (attempt fails) commitDbTransaction m =
    if fails .commit (m.made .commit) then (.error .queryDistributeDataError, m.count .commit)
    else (.ok (), { m.count .commit with database := ⟨m.database.store, none⟩ }) := by
  unfold commitDbTransaction
  rw [exec_bind, exec_access rfl]
  split
  · rfl
  · rfl

def writeTable (change : Option Json → Json) : StoreProgram Ret := do
  putAuthorizedAccounts (change (← getAuthorizedAccounts))

theorem exec_writeTable (change : Option Json → Json) : exec (attempt fails) (writeTable change) m =
    if fails .putAuthorizedAccounts (m.made .putAuthorizedAccounts) then
      (.error .queryDistributeDataError, (m.count .getAuthorizedAccounts).count .putAuthorizedAccounts)
    else (.ok (), ((m.count .getAuthorizedAccounts).count .putAuthorizedAccounts).setStore
      (m.database.store.putTable
        (change (readTable fails (m.made .getAuthorizedAccounts) m.database.store.authorizedAccounts)))) := by
  have hread : exec (attempt fails) getAuthorizedAccounts m =
      (readTable fails (m.made .getAuthorizedAccounts) m.database.store.authorizedAccounts,
        m.count .getAuthorizedAccounts) := by
    rw [exec_access rfl]
    unfold readTable
    split
    · rfl
    · rfl
  unfold writeTable putAuthorizedAccounts
  rw [exec_bind, hread]
  dsimp only
  have hmade : (m.count .getAuthorizedAccounts).made .putAuthorizedAccounts =
      m.made .putAuthorizedAccounts := by
    rw [made_count, if_neg (by decide)]
  rw [exec_bind, exec_access rfl, hmade]
  split
  · rfl
  · rfl

theorem exec_removeValue (key : String) : exec (attempt fails) (removeValueFromKvStore key) m =
    match read fails (m.made .get) m.database.store key with
    | none => (.ok (), m.count .get)
    | some _ =>
        if fails .delete (m.made .delete) then (.error .deleteKeyFromKvstore, (m.count .get).count .delete)
        else (.ok (), ((m.count .get).count .delete).setStore (m.database.store.delete key)) := by
  unfold removeValueFromKvStore
  rw [exec_bind, exec_get]
  cases read fails (m.made .get) m.database.store key with
  | none => rfl
  | some stored =>
      have hmade : (m.count .get).made .delete = m.made .delete := by
        rw [made_count, if_neg (by decide)]
      dsimp only
      rw [exec_bind, exec_access rfl, hmade]
      split
      · rfl
      · rfl

end specifications

section accounts

variable {fails : Failures} {s : Store}

theorem read_never (i : Nat) (s : Store) (key : String) : read never i s key = s.accounts[key]? := rfl

theorem accounts_of_read {i : Nat} {key : String} {stored : AppAccountInfo} (h : read fails i s key = some stored) :
    s.accounts[key]? = some stored := by
  unfold read at h
  split at h
  · cases h
  · exact h

theorem performWith_add {a b : AppAccountInfo} (hkey : b.getPrimeKey = a.getPrimeKey) (p : StoreProgram Ret)
    (hp : p = do
      match ← getAccountInfoFromDataStorage a with
      | .ok _ => return .error .addExistingAccount
      | .error _ => addAccountInfoIntoDataStorage b) (fails : Failures) (s : Store) :
    performWith fails p s =
      match read fails 0 s a.getPrimeKey with
      | some _ => (.error .addExistingAccount, s)
      | none =>
          if fails .getEntries 0 then (.error .queryDistributeDataError, s)
          else if accountMaxSize ≤ (s.getEntries (ownerKey b.owner b.appIndex)).length then (.error .accountMaxSize, s)
          else
            match read fails 1 s a.getPrimeKey with
            | some _ => (.error .dataStorageKeyExisted, s)
            | none =>
                if fails .put 0 then (.error .queryDistributeDataError, s)
                else (.ok (), s.put a.getPrimeKey b.toJson) := by
  subst hp
  unfold performWith
  rw [exec_bind, exec_getAccountInfo]
  dsimp only
  cases read fails 0 s a.getPrimeKey with
  | some stored => rfl
  | none =>
      dsimp only
      unfold addAccountInfoIntoDataStorage
      rw [exec_bind, exec_loadData]
      simp only [made_count, database_count, reduceCtorEq, if_false]
      by_cases hentries : fails .getEntries 0 = true
      · rw [if_pos hentries, if_pos hentries]
        rfl
      rw [if_neg hentries, if_neg hentries]
      dsimp only
      by_cases hsize : accountMaxSize ≤ (s.getEntries (ownerKey b.owner b.appIndex)).length
      · rw [if_pos hsize, if_pos hsize]
        rfl
      rw [if_neg hsize, if_neg hsize, exec_addAccountInfo, hkey]
      simp only [made_count, database_count, reduceCtorEq, if_false, if_true]
      cases read fails 1 s a.getPrimeKey with
      | some stored => rfl
      | none =>
          dsimp only
          rw [exec_put]
          simp only [made_count, database_count, reduceCtorEq, if_false]
          by_cases hput : fails .put 0 = true
          · rw [if_pos hput, if_pos hput]
            rfl
          · rw [if_neg hput, if_neg hput]
            rfl

theorem perform_add {a b : AppAccountInfo} (hkey : b.getPrimeKey = a.getPrimeKey) (p : StoreProgram Ret)
    (hp : p = do
      match ← getAccountInfoFromDataStorage a with
      | .ok _ => return .error .addExistingAccount
      | .error _ => addAccountInfoIntoDataStorage b) (s : Store) :
    perform p s =
      match s.accounts[a.getPrimeKey]? with
      | some _ => (.error .addExistingAccount, s)
      | none =>
          if accountMaxSize ≤ (s.getEntries (ownerKey b.owner b.appIndex)).length then (.error .accountMaxSize, s)
          else (.ok (), s.put a.getPrimeKey b.toJson) := by
  rw [← performWith_never, performWith_add hkey p hp]
  simp only [read_never]
  cases s.accounts[a.getPrimeKey]? with
  | some stored => rfl
  | none => rfl

variable {p : StoreProgram Ret}

theorem Atomic.of_unchanged {e : ErrCode} (h : performWith fails p s = (.error e, s)) :
    Atomic fails p s := by
  refine ⟨.inl (by rw [h]), fun hok => ?_⟩
  rw [h] at hok
  cases hok

theorem Atomic.of_performed (h : performWith fails p s = perform p s) : Atomic fails p s :=
  ⟨.inr (by rw [h]), fun _ => by rw [h]⟩

theorem Atomic.of_guard {c : Prop} [Decidable c] {e : ErrCode} {rest : Ret × Store}
    (h : performWith fails p s = if c then (.error e, s) else rest)
    (hrest : ¬c → performWith fails p s = rest → Atomic fails p s) : Atomic fails p s := by
  by_cases hc : c
  · rw [if_pos hc] at h
    exact .of_unchanged h
  · rw [if_neg hc] at h
    exact hrest hc h

/-- An account that is there is overwritten if both reads fail, and no other access of
the operation does. -/
def AddHarmless (fails : Failures) (s : Store) (a : AppAccountInfo) : Prop :=
  s.accounts[a.getPrimeKey]? = none ∨ fails .get 0 = false ∨ fails .get 1 = false ∨ fails .getEntries 0 = true ∨
    accountMaxSize ≤ (s.getEntries (ownerKey a.owner a.appIndex)).length ∨ fails .put 0 = true

theorem atomic_add {a b : AppAccountInfo} (howner : b.owner = a.owner) (hindex : b.appIndex = a.appIndex)
    (hkey : b.getPrimeKey = a.getPrimeKey) (p : StoreProgram Ret)
    (hp : p = do
      match ← getAccountInfoFromDataStorage a with
      | .ok _ => return .error .addExistingAccount
      | .error _ => addAccountInfoIntoDataStorage b) (h : AddHarmless fails s a) : Atomic fails p s := by
  have hwith := performWith_add hkey p hp fails s
  have hfull := perform_add hkey p hp s
  rw [howner, hindex] at hwith hfull
  cases hk : s.accounts[a.getPrimeKey]? with
  | none =>
      have hread : ∀ i, read fails i s a.getPrimeKey = none := fun i => by
        unfold read
        rw [hk, ite_self]
      rw [hread, hread] at hwith
      rw [hk] at hfull
      dsimp only at hwith hfull
      refine .of_guard hwith fun hentries hwith => ?_
      by_cases hsize : accountMaxSize ≤ (s.getEntries (ownerKey a.owner a.appIndex)).length
      · rw [if_pos hsize] at hwith
        exact .of_unchanged hwith
      rw [if_neg hsize] at hwith hfull
      exact .of_guard hwith fun _ hwith => .of_performed (hwith.trans hfull.symm)
  | some stored =>
      unfold read at hwith
      rw [hk] at hwith
      by_cases hfirst : fails .get 0 = true
      · rw [if_pos hfirst] at hwith
        dsimp only at hwith
        refine .of_guard hwith fun hentries hwith => ?_
        refine .of_guard hwith fun hsize hwith => ?_
        by_cases hsecond : fails .get 1 = true
        · rw [if_pos hsecond] at hwith
          dsimp only at hwith
          have hput : fails .put 0 = true := by
            rcases h with hnone | hget | hget | h | h | h
            · rw [hk] at hnone
              cases hnone
            · rw [hget] at hfirst
              cases hfirst
            · rw [hget] at hsecond
              cases hsecond
            · exact (hentries h).elim
            · exact (hsize h).elim
            · exact h
          rw [if_pos hput] at hwith
          exact .of_unchanged hwith
        · rw [if_neg hsecond] at hwith
          exact .of_unchanged hwith
      · rw [if_neg hfirst] at hwith
        exact .of_unchanged hwith

theorem performWith_modify (a : AppAccountInfo) (modify : AppAccountInfo → Except ErrCode AppAccountInfo)
    (p : StoreProgram Ret) (hp : p = do
      match ← getAccountInfoFromDataStorage a with
      | .error e => return .error e
      | .ok info =>
      match modify info with
      | .error e => return .error e
      | .ok info => saveAccountInfo info) (fails : Failures) (s : Store) :
    performWith fails p s =
      match read fails 0 s a.getPrimeKey with
      | none => (.error .getAccountInfoById, s)
      | some stored =>
          match modify (a.fromJson stored) with
          | .error e => (.error e, s)
          | .ok info =>
              match read fails 1 s info.getPrimeKey with
              | none => (.error .dataStorageKeyNotExists, s)
              | some _ =>
                  if fails .put 0 then (.error .queryDistributeDataError, s)
                  else (.ok (), s.put info.getPrimeKey info.toJson) := by
  subst hp
  unfold performWith
  rw [exec_bind, exec_getAccountInfo]
  dsimp only
  cases read fails 0 s a.getPrimeKey with
  | none => rfl
  | some stored =>
      dsimp only
      cases modify (a.fromJson stored) with
      | error e => rfl
      | ok info =>
          dsimp only
          rw [exec_saveAccountInfo]
          simp only [made_count, database_count, if_true]
          cases read fails 1 s info.getPrimeKey with
          | none => rfl
          | some _ =>
              dsimp only
              rw [exec_put]
              simp only [made_count, database_count, reduceCtorEq, if_false]
              by_cases hput : fails .put 0 = true
              · rw [if_pos hput, if_pos hput]
                rfl
              · rw [if_neg hput, if_neg hput]
                rfl

theorem performWith_setAccountExtraInfo (a : AppAccountInfo) (extraInfo : String) (fails : Failures) (s : Store) :
    performWith fails (setAccountExtraInfo a extraInfo) s =
      match read fails 0 s a.getPrimeKey with
      | none => (.error .getAccountInfoById, s)
      | some stored =>
          let info := (a.fromJson stored).setExtraInfo extraInfo
          match read fails 1 s info.getPrimeKey with
          | none => (.error .dataStorageKeyNotExists, s)
          | some _ =>
              if fails .put 0 then (.error .queryDistributeDataError, s)
              else (.ok (), s.put info.getPrimeKey info.toJson) :=
  performWith_modify a (fun info => .ok (info.setExtraInfo extraInfo)) _ rfl fails s

theorem atomic_setAccountExtraInfo (a : AppAccountInfo) (extraInfo : String) (fails : Failures) (s : Store) :
    Atomic fails (setAccountExtraInfo a extraInfo) s := by
  have hwith := performWith_setAccountExtraInfo a extraInfo fails s
  have hfull := performWith_setAccountExtraInfo a extraInfo never s
  rw [performWith_never] at hfull
  cases hread : read fails 0 s a.getPrimeKey with
  | none =>
      rw [hread] at hwith
      exact .of_unchanged hwith
  | some stored =>
      rw [hread] at hwith
      rw [read_never, accounts_of_read hread] at hfull
      dsimp only at hwith hfull
      cases hread' : read fails 1 s ((a.fromJson stored).setExtraInfo extraInfo).getPrimeKey with
      | none =>
          rw [hread'] at hwith
          exact .of_unchanged hwith
      | some stored' =>
          rw [hread'] at hwith
          rw [read_never, accounts_of_read hread'] at hfull
          exact .of_guard hwith fun _ hwith => .of_performed (hwith.trans hfull.symm)

def changeAccess (a : AppAccountInfo) (modify : AppAccountInfo → Except ErrCode AppAccountInfo)
    (change : AppAccountInfo → Option Json → Json) : StoreProgram Ret := do
  match ← getAccountInfoFromDataStorage a with
  | .error e => return .error e
  | .ok info =>
  match modify info with
  | .error e => return .error e
  | .ok info => saveAccess info fun info => writeTable (change info)

theorem enableAppAccess_eq (a : AppAccountInfo) (authorizedApp : String) (apiVersion : Nat) :
    AppAccountStore.enableAppAccess a authorizedApp apiVersion =
      changeAccess a (fun info => info.enableAppAccess authorizedApp apiVersion)
        fun info t => savedTable t authorizedApp info.getPrimeKey := rfl

theorem disableAppAccess_eq (a : AppAccountInfo) (authorizedApp : String) (apiVersion : Nat) :
    AppAccountStore.disableAppAccess a authorizedApp apiVersion =
      changeAccess a
        (fun info => (info.disableAppAccess authorizedApp apiVersion).mapError fun _ => .disableAppAccessNotExisted)
        fun info t => removedTable t authorizedApp info.getPrimeKey := by
  unfold AppAccountStore.disableAppAccess changeAccess
  refine bind_congr fun r => ?_
  cases r with
  | error e => rfl
  | ok info =>
      dsimp only
      cases info.disableAppAccess authorizedApp apiVersion with
      | error e => rfl
      | ok info => rfl

theorem performWith_changeAccess (a : AppAccountInfo) (modify : AppAccountInfo → Except ErrCode AppAccountInfo)
    (change : AppAccountInfo → Option Json → Json) (fails : Failures) (s : Store) :
    performWith fails (changeAccess a modify change) s =
      match read fails 0 s a.getPrimeKey with
      | none => (.error .getAccountInfoById, s)
      | some stored =>
          match modify (a.fromJson stored) with
          | .error e => (.error e, s)
          | .ok info =>
              if fails .startTransaction 0 then (.error .queryDistributeDataError, s)
              else
                match read fails 1 s info.getPrimeKey with
                | none => (.error .dataStorageKeyNotExists, s)
                | some _ =>
                    if fails .put 0 ∨ fails .putAuthorizedAccounts 0 ∨ fails .commit 0 then
                      (.error .queryDistributeDataError, s)
                    else
                      (.ok (), (s.put info.getPrimeKey info.toJson).putTable
                        (change info (readTable fails 0 s.authorizedAccounts))) := by
  unfold performWith changeAccess
  rw [exec_bind, exec_getAccountInfo]
  dsimp only
  cases read fails 0 s a.getPrimeKey with
  | none => rfl
  | some stored =>
      dsimp only
      cases modify (a.fromJson stored) with
      | error e => rfl
      | ok info =>
          dsimp only
          unfold saveAccess
          rw [exec_bind, exec_startDbTransaction]
          simp only [made_count, database_count, reduceCtorEq, if_false]
          by_cases hstart : fails .startTransaction 0 = true
          · rw [if_pos hstart, if_pos hstart]
            rfl
          rw [if_neg hstart, if_neg hstart]
          dsimp only
          rw [exec_bind, exec_saveAccountInfo]
          simp only [made_count, reduceCtorEq, if_false, if_true]
          cases read fails 1 s info.getPrimeKey with
          | none => rfl
          | some _ =>
              dsimp only
              rw [exec_put]
              simp only [made_count, database_count, reduceCtorEq, if_false]
              by_cases hput : fails .put 0 = true
              · rw [if_pos hput, if_pos (.inl hput)]
                rfl
              rw [if_neg hput]
              dsimp only
              rw [exec_bind, exec_writeTable]
              simp only [made_count, made_setStore, store_setStore, reduceCtorEq, if_false]
              by_cases htable : fails .putAuthorizedAccounts 0 = true
              · rw [if_pos htable, if_pos (.inr (.inl htable))]
                rfl
              rw [if_neg htable]
              dsimp only
              rw [exec_commitDbTransaction]
              simp only [made_count, made_setStore, reduceCtorEq, if_false]
              by_cases hcommit : fails .commit 0 = true
              · rw [if_pos hcommit, if_pos (.inr (.inr hcommit))]
                rfl
              · have hnone : ¬(fails .put 0 = true ∨ fails .putAuthorizedAccounts 0 = true ∨
                    fails .commit 0 = true) := by
                  rintro (h | h | h)
                  · exact hput h
                  · exact htable h
                  · exact hcommit h
                rw [if_neg hcommit, if_neg hnone]
                rfl

def AccessHarmless (fails : Failures) (s : Store) (a : AppAccountInfo)
    (modify : AppAccountInfo → Except ErrCode AppAccountInfo) : Prop :=
  fails .getAuthorizedAccounts 0 = false ∨ s.authorizedAccounts = none ∨
    (∀ stored, s.accounts[a.getPrimeKey]? = some stored → ∃ e, modify (a.fromJson stored) = .error e) ∨
    fails .get 0 = true ∨ fails .startTransaction 0 = true ∨ fails .get 1 = true ∨ fails .put 0 = true ∨
    fails .putAuthorizedAccounts 0 = true ∨ fails .commit 0 = true

theorem readTable_eq {i : Nat} {t : Option Json} (h : fails .getAuthorizedAccounts i = false ∨ t = none) :
    readTable fails i t = t := by
  unfold readTable
  rcases h with h | rfl
  · rw [h]
    rfl
  · exact ite_self _

theorem atomic_changeAccess (a : AppAccountInfo) {modify : AppAccountInfo → Except ErrCode AppAccountInfo}
    (change : AppAccountInfo → Option Json → Json) (h : AccessHarmless fails s a modify) :
    Atomic fails (changeAccess a modify change) s := by
  have hwith := performWith_changeAccess a modify change fails s
  have hfull := performWith_changeAccess a modify change never s
  rw [performWith_never] at hfull
  cases hread : read fails 0 s a.getPrimeKey with
  | none =>
      rw [hread] at hwith
      exact .of_unchanged hwith
  | some stored =>
      have hk := accounts_of_read hread
      rw [hread] at hwith
      rw [read_never, hk] at hfull
      dsimp only at hwith hfull
      cases hmodify : modify (a.fromJson stored) with
      | error e =>
          rw [hmodify] at hwith
          exact .of_unchanged hwith
      | ok info =>
          rw [hmodify] at hwith hfull
          dsimp only at hwith hfull
          refine .of_guard hwith fun hstart hwith => ?_
          cases hread' : read fails 1 s info.getPrimeKey with
          | none =>
              rw [hread'] at hwith
              exact .of_unchanged hwith
          | some stored' =>
              rw [hread'] at hwith
              rw [read_never, accounts_of_read hread'] at hfull
              dsimp only at hwith hfull
              refine .of_guard hwith fun hend hwith => ?_
              have htable : readTable fails 0 s.authorizedAccounts = s.authorizedAccounts := by
                refine readTable_eq ?_
                rcases h with h | h | h | h | h | h | h
                · exact .inl h
                · exact .inr h
                · obtain ⟨e, he⟩ := h stored hk
                  rw [hmodify] at he
                  cases he
                · unfold read at hread
                  rw [if_pos h] at hread
                  cases hread
                · exact (hstart h).elim
                · unfold read at hread'
                  rw [if_pos h] at hread'
                  cases hread'
                · exact (hend h).elim
              rw [htable] at hwith
              exact .of_performed (hwith.trans hfull.symm)

end accounts

section removals

variable {fails : Failures} {m : Medium} {s : Store} {a info : AppAccountInfo}

structure RoundsOnly (m m' : Medium) : Prop where
  saved : m'.database.saved = m.database.saved
  commit : m'.made .commit = m.made .commit

theorem RoundsOnly.refl (m : Medium) : RoundsOnly m m := ⟨rfl, rfl⟩

theorem RoundsOnly.trans {m₁ m₂ m₃ : Medium} (h : RoundsOnly m₁ m₂) (h' : RoundsOnly m₂ m₃) : RoundsOnly m₁ m₃ :=
  ⟨h'.saved.trans h.saved, h'.commit.trans h.commit⟩

theorem exec_removeAuthorizedAccount (info : AppAccountInfo) (app : String) :
    exec (attempt fails) (removeAuthorizedAccountFromDataStorage info app) m =
      exec (attempt fails) (writeTable fun t => removedTable t app info.getPrimeKey) m := rfl

theorem roundsOnly_writeTable (fails : Failures) (change : Option Json → Json) (m : Medium) :
    RoundsOnly m (exec (attempt fails) (writeTable change) m).2 := by
  rw [exec_writeTable]
  split
  · exact ⟨rfl, by simp⟩
  · exact ⟨rfl, by simp⟩

theorem roundsOnly_removeAuthorizedAccounts (fails : Failures) (info : AppAccountInfo) (apps : List String)
    (m : Medium) : RoundsOnly m (exec (attempt fails) (removeAuthorizedAccounts info apps) m).2 := by
  induction apps generalizing m with
  | nil => exact .refl m
  | cons app apps ih =>
      have hone := roundsOnly_writeTable fails (fun t => removedTable t app info.getPrimeKey) m
      rw [removeAuthorizedAccounts, exec_bind, exec_removeAuthorizedAccount]
      split
      · exact hone
      · exact hone.trans (ih _)

theorem roundsOnly_removeAuthorizations (fails : Failures) (info : AppAccountInfo) (apps : List String)
    (m : Medium) : RoundsOnly m (exec (attempt fails) (removeAuthorizations info apps) m).2 := by
  induction apps generalizing m with
  | nil => exact .refl m
  | cons app apps ih =>
      rw [removeAuthorizations, exec_bind]
      exact (roundsOnly_writeTable fails (fun t => removedTable t app info.getPrimeKey) m).trans (ih _)

theorem roundsOnly_removeValue (fails : Failures) (key : String) (m : Medium) :
    RoundsOnly m (exec (attempt fails) (removeValueFromKvStore key) m).2 := by
  rw [exec_removeValue]
  split
  · exact ⟨rfl, by simp⟩
  · split
    · exact ⟨rfl, by simp⟩
    · exact ⟨rfl, by simp⟩

theorem roundsOnly_removeAccounts (fails : Failures) (appIndex : Nat) (accounts : List (String × AppAccountInfo))
    (m : Medium) : RoundsOnly m (exec (attempt fails) (removeAccounts appIndex accounts) m).2 := by
  induction accounts generalizing m with
  | nil => exact .refl m
  | cons account accounts ih =>
      rw [removeAccounts, exec_bind, exec_bind]
      exact ((roundsOnly_removeAuthorizations fails _ _ m).trans
        (roundsOnly_removeValue fails _ _)).trans (ih _)

def TableAnswered (fails : Failures) (m : Medium) (n : Nat) : Prop :=
  ∀ i < n, fails .getAuthorizedAccounts (m.made .getAuthorizedAccounts + i) = false ∧
    fails .putAuthorizedAccounts (m.made .putAuthorizedAccounts + i) = false

def Medium.forget (m : Medium) (id : String) (apps : List String) : Medium where
  database := { m.database with store := { m.database.store with
    authorizedAccounts := removedFrom id m.database.store.authorizedAccounts apps } }
  made k := if k = .getAuthorizedAccounts ∨ k = .putAuthorizedAccounts then m.made k + apps.length else m.made k

theorem forget_nil (m : Medium) (id : String) : m.forget id [] = m := by
  have hmade : (m.forget id []).made = m.made := by
    funext k
    exact ite_self _
  exact congrArg (Medium.mk m.database) hmade

theorem forget_cons (m : Medium) (id app : String) (apps : List String) :
    (((m.count .getAuthorizedAccounts).count .putAuthorizedAccounts).setStore
      (m.database.store.putTable (removedTable m.database.store.authorizedAccounts app id))).forget id apps =
      m.forget id (app :: apps) := by
  refine congrArg (Medium.mk _) (funext fun k => ?_)
  cases k <;> simp [Nat.add_assoc, Nat.add_comm 1]

theorem exec_writeTable_answered (h : TableAnswered fails m 1) (change : Option Json → Json) :
    exec (attempt fails) (writeTable change) m =
      (.ok (), ((m.count .getAuthorizedAccounts).count .putAuthorizedAccounts).setStore
        (m.database.store.putTable (change m.database.store.authorizedAccounts))) := by
  obtain ⟨hget, hput⟩ := h 0 Nat.one_pos
  rw [Nat.add_zero] at hget hput
  rw [exec_writeTable, readTable_eq (.inl hget), if_neg (ne_true_of_eq_false hput)]

theorem TableAnswered.mono {n n' : Nat} (h : TableAnswered fails m n) (hn : n' ≤ n) : TableAnswered fails m n' :=
  fun i hi => h i (Nat.lt_of_lt_of_le hi hn)

theorem TableAnswered.next {n : Nat} (h : TableAnswered fails m (n + 1)) (s : Store) :
    TableAnswered fails (((m.count .getAuthorizedAccounts).count .putAuthorizedAccounts).setStore s) n := by
  intro i hi
  have hnext := h (i + 1) (Nat.succ_lt_succ hi)
  simpa [Nat.add_assoc, Nat.add_comm 1] using hnext

variable {apps : List String}

theorem exec_removeAuthorizedAccounts_answered (info : AppAccountInfo)
    (h : TableAnswered fails m apps.length) :
    exec (attempt fails) (removeAuthorizedAccounts info apps) m =
      (.ok (), m.forget info.getPrimeKey apps) := by
  induction apps generalizing m with
  | nil => rw [forget_nil]; rfl
  | cons app apps ih =>
      have hone := exec_writeTable_answered
        (h.mono (Nat.le_add_left 1 _)) fun t => removedTable t app info.getPrimeKey
      rw [removeAuthorizedAccounts, exec_bind, exec_removeAuthorizedAccount, hone, ← forget_cons]
      exact ih (h.next _)

theorem exec_removeAuthorizations_answered (info : AppAccountInfo)
    (h : TableAnswered fails m apps.length) :
    exec (attempt fails) (removeAuthorizations info apps) m = ((), m.forget info.getPrimeKey apps) := by
  induction apps generalizing m with
  | nil => rw [forget_nil]; rfl
  | cons app apps ih =>
      have hone := exec_writeTable_answered
        (h.mono (Nat.le_add_left 1 _)) fun t => removedTable t app info.getPrimeKey
      rw [removeAuthorizations, exec_bind, exec_removeAuthorizedAccount, hone, ← forget_cons]
      exact ih (h.next _)

theorem exec_removeAuthorizedAccounts_aborts (info : AppAccountInfo) {i : Nat} (hi : i < apps.length)
    (h : fails .putAuthorizedAccounts (m.made .putAuthorizedAccounts + i) = true) :
    ∃ e, (exec (attempt fails) (removeAuthorizedAccounts info apps) m).1 = .error e := by
  induction apps generalizing m i with
  | nil => cases hi
  | cons app apps ih =>
      rw [removeAuthorizedAccounts, exec_bind, exec_removeAuthorizedAccount, exec_writeTable]
      by_cases hput : fails .putAuthorizedAccounts (m.made .putAuthorizedAccounts) = true
      · rw [if_pos hput]
        exact ⟨_, rfl⟩
      · rw [if_neg hput]
        dsimp only
        cases i with
        | zero => exact (hput h).elim
        | succ i =>
            refine ih (Nat.lt_of_succ_lt_succ hi) ?_
            simpa [Nat.add_assoc, Nat.add_comm 1] using h

def finishDelete (uid : Nat) (name : String) (info : AppAccountInfo) : StoreProgram Ret := do
  removeAssociatedDataCacheByAccount uid name
  match ← removeAuthorizedAccounts info info.authorizedApps.toList with
  | .error e => return .error e
  | .ok () => commitDbTransaction

variable (uid : Nat) (name : String)

theorem exec_finishDelete (info : AppAccountInfo) :
    exec (attempt fails) (finishDelete uid name info) m =
      match exec (attempt fails) (removeAuthorizedAccounts info info.authorizedApps.toList) m with
      | (.error e, m') => (.error e, m')
      | (.ok (), m') =>
          if fails .commit (m'.made .commit) then (.error .queryDistributeDataError, m'.count .commit)
          else (.ok (), { m'.count .commit with database := ⟨m'.database.store, none⟩ }) := by
  unfold finishDelete
  rw [exec_bind, exec_bind]
  change exec (attempt fails) (match (exec (attempt fails) (removeAuthorizedAccounts info
      info.authorizedApps.toList) m).1 with
    | .error e => return .error e
    | .ok () => commitDbTransaction) (exec (attempt fails) (removeAuthorizedAccounts info
      info.authorizedApps.toList) m).2 = _
  cases exec (attempt fails) (removeAuthorizedAccounts info info.authorizedApps.toList) m with
  | mk r m' =>
  cases r with
  | error e => rfl
  | ok u => exact exec_commitDbTransaction

theorem finishDelete_aborts (info : AppAccountInfo) (hsaved : m.database.saved = some s)
    (h : (∃ i < info.authorizedApps.size, fails .putAuthorizedAccounts (m.made .putAuthorizedAccounts + i) = true) ∨
      fails .commit (m.made .commit) = true) :
    ∃ e, (exec (attempt fails) (finishDelete uid name info) m).1 = .error e ∧
      (exec (attempt fails) (finishDelete uid name info) m).2.database.close = s := by
  have hrounds := roundsOnly_removeAuthorizedAccounts fails info info.authorizedApps.toList m
  have hclose : ∀ m' : Medium, m'.database.saved = m.database.saved → m'.database.close = s := by
    intro m' hm'
    rw [Database.close, hm', hsaved]
    rfl
  have haborts : ∀ i < info.authorizedApps.size,
      fails .putAuthorizedAccounts (m.made .putAuthorizedAccounts + i) = true →
        ∃ e, (exec (attempt fails)
            (removeAuthorizedAccounts info info.authorizedApps.toList) m).1 = .error e :=
    fun i hi => exec_removeAuthorizedAccounts_aborts info (by rwa [ExtTreeSet.length_toList])
  rw [exec_finishDelete]
  cases hexec : exec (attempt fails) (removeAuthorizedAccounts info info.authorizedApps.toList) m with
  | mk r m' =>
  rw [hexec] at hrounds haborts
  cases r with
  | error e => exact ⟨e, rfl, hclose m' hrounds.saved⟩
  | ok u =>
      rcases h with ⟨i, hi, hput⟩ | hcommit
      · obtain ⟨e, he⟩ := haborts i hi hput
        cases he
      · dsimp only
        rw [hrounds.commit, if_pos hcommit]
        exact ⟨_, rfl, hclose _ hrounds.saved⟩

theorem finishDelete_answered (info : AppAccountInfo)
    (h : TableAnswered fails m info.authorizedApps.size) (hcommit : fails .commit (m.made .commit) = false) :
    (exec (attempt fails) (finishDelete uid name info) m).1 = .ok () ∧
      (exec (attempt fails) (finishDelete uid name info) m).2.database.close =
        { m.database.store with
          authorizedAccounts :=
            removedFrom info.getPrimeKey m.database.store.authorizedAccounts info.authorizedApps.toList } := by
  rw [exec_finishDelete, exec_removeAuthorizedAccounts_answered info (by rwa [ExtTreeSet.length_toList])]
  dsimp only
  rw [if_neg]
  · exact ⟨rfl, rfl⟩
  · exact ne_true_of_eq_false hcommit

def opened (s : Store) : Medium :=
  { ((Medium.mk { store := s } fun _ => 0).count .get).count .startTransaction with database := ⟨s, some s⟩ }

def withoutRecord (fails : Failures) (s : Store) (key : String) : Option Medium :=
  match read fails 2 s key with
  | none => some (((opened s).count .get).count .get)
  | some _ =>
      if fails .delete 0 then none
      else some (((((opened s).count .get).count .get).count .delete).setStore (s.delete key))

theorem performWith_deleteAccount (a : AppAccountInfo) (uid : Nat) (name : String) (fails : Failures) (s : Store) :
    performWith fails (deleteAccount a uid name) s =
      match read fails 0 s a.getPrimeKey with
      | none => (.error .getAccountInfoById, s)
      | some stored =>
          if fails .startTransaction 0 then (.error .queryDistributeDataError, s)
          else
            match read fails 1 s (a.fromJson stored).getPrimeKey with
            | none => (.error .getAccountInfoById, s)
            | some stored' =>
                let info := (a.fromJson stored).fromJson stored'
                match withoutRecord fails s info.getPrimeKey with
                | none => (.error .deleteKeyFromKvstore, s)
                | some m =>
                    ((exec (attempt fails) (finishDelete uid name info) m).1,
                      (exec (attempt fails) (finishDelete uid name info) m).2.database.close) := by
  unfold performWith deleteAccount
  rw [exec_bind, exec_getAccountInfo]
  dsimp only
  cases read fails 0 s a.getPrimeKey with
  | none => rfl
  | some stored =>
      dsimp only
      unfold controlDeleteAccount
      rw [exec_bind, exec_startDbTransaction]
      simp only [made_count, database_count, reduceCtorEq, if_false]
      by_cases hstart : fails .startTransaction 0 = true
      · rw [if_pos hstart, if_pos hstart]
        rfl
      rw [if_neg hstart, if_neg hstart]
      dsimp only
      unfold deleteAccountInfoFromDataStorage
      rw [exec_bind, exec_bind, exec_getAccountInfo]
      simp only [made_count, reduceCtorEq, if_false, if_true]
      cases read fails 1 s (a.fromJson stored).getPrimeKey with
      | none => rfl
      | some stored' =>
          dsimp only
          rw [exec_bind, exec_removeValue]
          unfold withoutRecord
          simp only [made_count, database_count, reduceCtorEq, if_false, if_true]
          cases read fails 2 s ((a.fromJson stored).fromJson stored').getPrimeKey with
          | none => rfl
          | some _ =>
              dsimp only
              by_cases hdelete : fails .delete 0 = true
              · rw [if_pos hdelete, if_pos hdelete]
                rfl
              · rw [if_neg hdelete, if_neg hdelete]
                rfl

theorem withoutRecord_eq_some {key : String} (h : withoutRecord fails s key = some m) :
    m.database.saved = some s ∧
      (m.made .getAuthorizedAccounts = 0 ∧ m.made .putAuthorizedAccounts = 0 ∧ m.made .commit = 0) ∧
      (fails .get 2 = false → m.database.store = s.delete key) := by
  unfold withoutRecord at h
  split at h
  · rename_i hread
    cases h
    refine ⟨rfl, ⟨rfl, rfl, rfl⟩, fun hget => ?_⟩
    unfold read at hread
    rw [hget, if_neg Bool.false_ne_true] at hread
    apply Store.ext
    · exact (OrderedMap.erase_absent s.accounts key hread).symm
    · rfl
  · split at h
    · cases h
    · cases h
      exact ⟨rfl, ⟨rfl, rfl, rfl⟩, fun _ => rfl⟩

theorem withoutRecord_eq_none {key : String} (h : withoutRecord fails s key = none) : fails .delete 0 = true := by
  unfold withoutRecord at h
  split at h
  · cases h
  · split at h
    · rename_i hdelete
      exact hdelete
    · cases h

def deleted (s : Store) (a : AppAccountInfo) : Option AppAccountInfo :=
  (s.accounts[a.getPrimeKey]?).bind fun stored =>
    (s.accounts[(a.fromJson stored).getPrimeKey]?).map (a.fromJson stored).fromJson

theorem finishDelete_removes (hm : withoutRecord fails s info.getPrimeKey = some m)
    (hget : fails .get 2 = false) (htable : ∀ i < info.authorizedApps.size,
      fails .getAuthorizedAccounts i = false ∧ fails .putAuthorizedAccounts i = false)
    (hcommit : fails .commit 0 = false) :
    ((exec (attempt fails) (finishDelete uid name info) m).1,
      (exec (attempt fails) (finishDelete uid name info) m).2.database.close) =
        (.ok (), s.removeAccount info) := by
  obtain ⟨-, ⟨hmadeGet, hmadePut, hmadeCommit⟩, hstore⟩ := withoutRecord_eq_some hm
  have hanswered : TableAnswered fails m info.authorizedApps.size := by
    intro i hi
    rw [hmadeGet, hmadePut, Nat.zero_add]
    exact htable i hi
  obtain ⟨hok, hclose⟩ := finishDelete_answered uid name info hanswered (by rwa [hmadeCommit])
  rw [hok, hclose, hstore hget]
  rfl

theorem perform_deleteAccount {a info : AppAccountInfo} (h : deleted s a = some info) (uid : Nat) (name : String) :
    perform (deleteAccount a uid name) s = (.ok (), s.removeAccount info) := by
  obtain ⟨stored, hk, hdeleted⟩ := Option.bind_eq_some_iff.mp h
  obtain ⟨stored', hk', rfl⟩ := Option.map_eq_some_iff.mp hdeleted
  rw [← performWith_never, performWith_deleteAccount]
  simp only [read_never, hk, hk']
  have hstart : ¬never .startTransaction 0 = true := Bool.false_ne_true
  rw [if_neg hstart]
  cases hm : withoutRecord never s ((a.fromJson stored).fromJson stored').getPrimeKey with
  | none => cases withoutRecord_eq_none hm
  | some m => exact finishDelete_removes uid name hm rfl (fun _ _ => ⟨rfl, rfl⟩) rfl

/-- A read in the transaction that fails is harmless only if the transaction does not
come to its end. -/
def DeleteHarmless (fails : Failures) (s : Store) (a : AppAccountInfo) : Prop :=
  ∀ info, deleted s a = some info →
    (fails .get 2 = false ∧ ∀ i < info.authorizedApps.size, fails .getAuthorizedAccounts i = false) ∨
      fails .get 0 = true ∨ fails .startTransaction 0 = true ∨ fails .get 1 = true ∨
      (fails .get 2 = false ∧ info.getPrimeKey ∈ s.accounts ∧ fails .delete 0 = true) ∨
      (∃ i < info.authorizedApps.size, fails .putAuthorizedAccounts i = true) ∨ fails .commit 0 = true

theorem atomic_deleteAccount (a : AppAccountInfo) (uid : Nat) (name : String) (h : DeleteHarmless fails s a) :
    Atomic fails (deleteAccount a uid name) s := by
  have hwith := performWith_deleteAccount a uid name fails s
  cases hread : read fails 0 s a.getPrimeKey with
  | none =>
      rw [hread] at hwith
      exact .of_unchanged hwith
  | some stored =>
  rw [hread] at hwith
  dsimp only at hwith
  refine .of_guard hwith fun hstart hwith => ?_
  cases hread' : read fails 1 s (a.fromJson stored).getPrimeKey with
  | none =>
      rw [hread'] at hwith
      exact .of_unchanged hwith
  | some stored' =>
  rw [hread'] at hwith
  dsimp only at hwith
  have hk := accounts_of_read hread
  have hk' := accounts_of_read hread'
  have hdeleted : deleted s a = some ((a.fromJson stored).fromJson stored') := by
    unfold deleted
    rw [hk, Option.bind_some, hk']
    rfl
  have hfull := perform_deleteAccount hdeleted uid name
  generalize hinfo : (a.fromJson stored).fromJson stored' = info at hwith hfull hdeleted
  cases hm : withoutRecord fails s info.getPrimeKey with
  | none =>
      rw [hm] at hwith
      exact .of_unchanged hwith
  | some m =>
  rw [hm] at hwith
  dsimp only at hwith
  obtain ⟨hsaved, ⟨hmadeGet, hmadePut, hmadeCommit⟩, -⟩ := withoutRecord_eq_some hm
  by_cases hend : (∃ i < info.authorizedApps.size, fails .putAuthorizedAccounts i = true) ∨
    fails .commit 0 = true
  · have hend' : (∃ i < info.authorizedApps.size,
        fails .putAuthorizedAccounts (m.made .putAuthorizedAccounts + i) = true) ∨
          fails .commit (m.made .commit) = true := by
      rw [hmadePut, hmadeCommit]
      simpa using hend
    obtain ⟨e, herror, hclose⟩ := finishDelete_aborts uid name info hsaved hend'
    rw [herror, hclose] at hwith
    exact .of_unchanged hwith
  · rw [not_or] at hend
    have hclean : fails .get 2 = false ∧
        ∀ i < info.authorizedApps.size, fails .getAuthorizedAccounts i = false := by
      rcases h info hdeleted with h | h | h | h | ⟨hget, hmem, hdelete⟩ | h | h
      · exact h
      · unfold read at hread
        rw [if_pos h] at hread
        cases hread
      · exact (hstart h).elim
      · unfold read at hread'
        rw [if_pos h] at hread'
        cases hread'
      · obtain ⟨x, hx⟩ := Option.isSome_iff_exists.mp (ExtTreeMap.mem_iff_isSome_getElem?.mp hmem)
        unfold withoutRecord read at hm
        rw [if_neg (ne_true_of_eq_false hget), hx] at hm
        dsimp only at hm
        rw [if_pos hdelete] at hm
        cases hm
      · exact (hend.1 h).elim
      · exact (hend.2 h).elim
    refine .of_performed (hwith.trans
      ((finishDelete_removes uid name hm hclean.1 (fun i hi => ?_) ?_).trans hfull.symm))
    · refine ⟨hclean.2 i hi, ?_⟩
      rw [← Bool.not_eq_true]
      exact fun hput => hend.1 ⟨i, hi, hput⟩
    · rw [← Bool.not_eq_true]
      exact hend.2

def RoundsAnswered (fails : Failures) (m : Medium) (accounts : List (String × AppAccountInfo)) : Prop :=
  TableAnswered fails m (accounts.map fun account => account.2.authorizedApps.size).sum ∧
    ∀ i < accounts.length, fails .get (m.made .get + i) = false ∧ fails .delete (m.made .delete + i) = false

theorem exec_removeValue_answered (key : String) (hget : fails .get (m.made .get) = false)
    (hdelete : fails .delete (m.made .delete) = false) :
    ∃ m', exec (attempt fails) (removeValueFromKvStore key) m = (.ok (), m') ∧
      m'.database.store = m.database.store.delete key ∧ m'.made .get = m.made .get + 1 ∧
      (m'.made .delete = m.made .delete ∨ m'.made .delete = m.made .delete + 1) ∧
      m'.made .getAuthorizedAccounts = m.made .getAuthorizedAccounts ∧
      m'.made .putAuthorizedAccounts = m.made .putAuthorizedAccounts := by
  rw [exec_removeValue]
  unfold read
  rw [if_neg (ne_true_of_eq_false hget)]
  cases hk : m.database.store.accounts[key]? with
  | none =>
      refine ⟨_, rfl, ?_, by simp, .inl (by simp), by simp, by simp⟩
      apply Store.ext
      · exact (OrderedMap.erase_absent m.database.store.accounts key hk).symm
      · rfl
  | some stored =>
      dsimp only
      rw [if_neg (ne_true_of_eq_false hdelete)]
      exact ⟨_, rfl, rfl, by simp, .inr (by simp), by simp, by simp⟩

theorem exec_removeAccounts_answered (appIndex : Nat) {accounts : List (String × AppAccountInfo)}
    (h : RoundsAnswered fails m accounts) :
    (exec (attempt fails) (removeAccounts appIndex accounts) m).2.database.store =
      accounts.foldl (fun s account => s.removeAccount (account.2.setAppIndex appIndex)) m.database.store := by
  induction accounts generalizing m with
  | nil => rfl
  | cons account accounts ih =>
      obtain ⟨htable, hvalues⟩ := h
      rw [List.map_cons, List.sum_cons] at htable
      have hsize : (account.2.setAppIndex appIndex).authorizedApps.toList.length =
          account.2.authorizedApps.size :=
        ExtTreeSet.length_toList
      have hforget := exec_removeAuthorizations_answered (account.2.setAppIndex appIndex)
        (by rw [hsize]; exact htable.mono (Nat.le_add_right ..))
      obtain ⟨hget, hdelete⟩ := hvalues 0 (Nat.succ_pos _)
      rw [removeAccounts, exec_bind, hforget]
      dsimp only
      generalize hm₁ : m.forget (account.2.setAppIndex appIndex).getPrimeKey
        (account.2.setAppIndex appIndex).authorizedApps.toList = m₁
      have hget₁ : fails .get (m₁.made .get) = false := by
        rw [← hm₁]
        exact hget
      have hdelete₁ : fails .delete (m₁.made .delete) = false := by
        rw [← hm₁]
        exact hdelete
      obtain ⟨m', hexec, hstore, hmadeGet, hmadeDelete, hmadeRead, hmadeWrite⟩ :=
        exec_removeValue_answered (account.2.setAppIndex appIndex).getPrimeKey hget₁ hdelete₁
      subst hm₁
      rw [exec_bind, hexec]
      dsimp only
      have hread : m'.made .getAuthorizedAccounts =
          m.made .getAuthorizedAccounts + account.2.authorizedApps.size :=
        hmadeRead.trans (congrArg (m.made .getAuthorizedAccounts + ·) hsize)
      have hwrite : m'.made .putAuthorizedAccounts =
          m.made .putAuthorizedAccounts + account.2.authorizedApps.size :=
        hmadeWrite.trans (congrArg (m.made .putAuthorizedAccounts + ·) hsize)
      have hnext : RoundsAnswered fails m' accounts := by
        refine ⟨fun i hi => ?_, fun i hi => ⟨?_, ?_⟩⟩
        · rw [hread, hwrite, Nat.add_assoc, Nat.add_assoc]
          exact htable _ (Nat.add_lt_add_left hi _)
        · have hvalue := (hvalues (i + 1) (Nat.succ_lt_succ hi)).1
          rw [hmadeGet]
          change fails .get (m.made .get + 1 + i) = false
          rwa [Nat.add_assoc, Nat.add_comm 1]
        · rcases hmadeDelete with hmade | hmade
          · rw [hmade]
            exact (hvalues i (Nat.lt_succ_of_lt hi)).2
          · have hvalue := (hvalues (i + 1) (Nat.succ_lt_succ hi)).2
            rw [hmade]
            change fails .delete (m.made .delete + 1 + i) = false
            rwa [Nat.add_assoc, Nat.add_comm 1]
      rw [ih hnext, hstore, List.foldl_cons]
      rfl

def RemovalHarmless (fails : Failures) (s : Store) (bundleName : String) (appIndex : Nat) : Prop :=
  fails .startTransaction 0 = true ∨ fails .getEntries 0 = true ∨ fails .commit 0 = true ∨
    ((∀ i < ((s.getEntries (ownerKey bundleName appIndex)).map fun account => account.2.authorizedApps.size).sum,
      fails .getAuthorizedAccounts i = false ∧ fails .putAuthorizedAccounts i = false) ∧
    ∀ i < (s.getEntries (ownerKey bundleName appIndex)).length, fails .get i = false ∧ fails .delete i = false)

def loaded (s : Store) : Medium :=
  ({ (Medium.mk { store := s } fun _ => 0).count .startTransaction with database := ⟨s, some s⟩ }).count .getEntries

theorem performWith_onPackageRemoved (bundleName : String) (appIndex : Nat) (fails : Failures) (s : Store) :
    performWith fails (onPackageRemoved false uid bundleName appIndex) s =
      if fails .startTransaction 0 then (.error .queryDistributeDataError, s)
      else if fails .getEntries 0 then (.error .queryDistributeDataError, s)
      else if fails .commit 0 then (.error .queryDistributeDataError, s)
      else (.ok (), (exec (attempt fails)
        (removeAccounts appIndex (s.getEntries (ownerKey bundleName appIndex))) (loaded s)).2.database.store) := by
  have hrounds := roundsOnly_removeAccounts fails appIndex
    (s.getEntries (ownerKey bundleName appIndex)) (loaded s)
  change ((exec (attempt fails) (removeAppAccountData bundleName appIndex)
      ⟨{ store := s }, fun _ => 0⟩).1,
    (exec (attempt fails) (removeAppAccountData bundleName appIndex)
      ⟨{ store := s }, fun _ => 0⟩).2.database.close) = _
  unfold removeAppAccountData
  rw [exec_bind, exec_startDbTransaction]
  dsimp only
  by_cases hstart : fails .startTransaction 0 = true
  · rw [if_pos hstart, if_pos hstart]
    rfl
  rw [if_neg hstart, if_neg hstart]
  dsimp only
  rw [exec_bind, exec_loadData]
  simp only [made_count, reduceCtorEq, if_false]
  by_cases hentries : fails .getEntries 0 = true
  · rw [if_pos hentries, if_pos hentries]
    rfl
  rw [if_neg hentries, if_neg hentries]
  dsimp only
  rw [exec_bind]
  change ((exec (attempt fails) commitDbTransaction (exec (attempt fails)
    (removeAccounts appIndex (s.getEntries (ownerKey bundleName appIndex))) (loaded s)).2).1,
    (exec (attempt fails) commitDbTransaction (exec (attempt fails)
    (removeAccounts appIndex (s.getEntries (ownerKey bundleName appIndex))) (loaded s)).2).2.database.close) = _
  have hcommits : (exec (attempt fails)
    (removeAccounts appIndex (s.getEntries (ownerKey bundleName appIndex)))
      (loaded s)).2.made .commit = 0 := hrounds.commit
  rw [exec_commitDbTransaction, hcommits]
  by_cases hcommit : fails .commit 0 = true
  · rw [if_pos hcommit, if_pos hcommit]
    refine congrArg (Prod.mk _) ?_
    rw [Database.close, database_count, hrounds.saved]
    rfl
  · rw [if_neg hcommit, if_neg hcommit]
    rfl

theorem atomic_removeAppAccountData {bundleName : String} {appIndex : Nat}
    (h : RemovalHarmless fails s bundleName appIndex) :
    Atomic fails (onPackageRemoved false uid bundleName appIndex) s := by
  have hfull := perform_onPackageRemoved uid bundleName appIndex s
  have hwith := performWith_onPackageRemoved uid bundleName appIndex fails s
  refine .of_guard hwith fun hstart hwith => ?_
  refine .of_guard hwith fun hentries hwith => ?_
  refine .of_guard hwith fun hcommit hwith => ?_
  rcases h with h | h | h | ⟨htable, hvalues⟩
  · exact (hstart h).elim
  · exact (hentries h).elim
  · exact (hcommit h).elim
  · have hanswered : RoundsAnswered fails (loaded s) (s.getEntries (ownerKey bundleName appIndex)) := by
      refine ⟨fun i hi => ?_, fun i hi => ?_⟩
      · have hi' := htable i hi
        simpa [loaded] using hi'
      · have hi' := hvalues i hi
        simpa [loaded] using hi'
    rw [exec_removeAccounts_answered appIndex hanswered] at hwith
    exact .of_performed (hwith.trans hfull.symm)

end removals

section runs

/-- The failures that no operation takes for an absence, or that its transaction undoes. -/
def Harmless (fails : Failures) (s : Store) : Operation → Prop
  | .addAccount owner appIndex name _ => AddHarmless fails s (newAccount owner appIndex name)
  | .createAccount owner appIndex name _ => AddHarmless fails s (newAccount owner appIndex name)
  | .setAccountExtraInfo _ _ _ _ => True
  | .enableAppAccess owner appIndex name authorizedApp apiVersion =>
      AccessHarmless fails s (newAccount owner appIndex name) fun info => info.enableAppAccess authorizedApp apiVersion
  | .disableAppAccess owner appIndex name authorizedApp apiVersion =>
      AccessHarmless fails s (newAccount owner appIndex name) fun info =>
        (info.disableAppAccess authorizedApp apiVersion).mapError fun _ => .disableAppAccessNotExisted
  | .deleteAccount owner appIndex name _ => DeleteHarmless fails s (newAccount owner appIndex name)
  | .onPackageRemoved isOsAccountRemoved _ bundleName appIndex =>
      isOsAccountRemoved = true ∨ RemovalHarmless fails s bundleName appIndex

theorem atomic_of_harmless {fails : Failures} {s : Store} {op : Operation} (h : Harmless fails s op) :
    Atomic fails (program op) s := by
  cases op with
  | addAccount owner appIndex name extraInfo =>
      exact atomic_add (b := (newAccount owner appIndex name).setExtraInfo extraInfo) rfl rfl rfl _ rfl h
  | createAccount owner appIndex name customData =>
      exact atomic_add
        (b := { newAccount owner appIndex name with associatedData := some (createJsonFromMap customData) })
        rfl rfl rfl _ rfl h
  | setAccountExtraInfo owner appIndex name extraInfo => exact atomic_setAccountExtraInfo _ extraInfo fails s
  | enableAppAccess owner appIndex name authorizedApp apiVersion =>
      rw [program, enableAppAccess_eq]
      exact atomic_changeAccess _ _ h
  | disableAppAccess owner appIndex name authorizedApp apiVersion =>
      rw [program, disableAppAccess_eq]
      exact atomic_changeAccess _ _ h
  | deleteAccount owner appIndex name uid => exact atomic_deleteAccount _ uid name h
  | onPackageRemoved isOsAccountRemoved uid bundleName appIndex =>
      cases isOsAccountRemoved with
      | true => exact .of_performed rfl
      | false => exact atomic_removeAppAccountData uid (h.resolve_left Bool.false_ne_true)

def step (s : Store) (x : Failures × Operation) : Store := (performWith x.1 (program x.2) s).2

/-- Every operation of a run with harmless failures is all or nothing. -/
theorem atomic_run (s : Store) (ops : List (Failures × Operation))
    (h : Machine.Meets step (fun s x => Harmless x.1 s x.2) s ops) :
    Machine.Meets step (fun s x => Atomic x.1 (program x.2) s) s ops := by
  have hstep : ∀ (s : Store) (x : Failures × Operation), True → True := fun _ _ _ => trivial
  exact h.imp_of_invariant hstep (fun _ _ _ hop => atomic_of_harmless hop) trivial

def addAlice (extraInfo : String) : Operation := .addAccount "com.example.mail" 0 "alice" extraInfo

def enableAlice (authorizedApp : String) : Operation :=
  .enableAppAccess "com.example.mail" 0 "alice" authorizedApp apiVersion9

def withAlice : Store :=
  [addAlice "kept", enableAlice "com.example.a", enableAlice "com.example.b"].foldl
    (fun s op => (perform (program op) s).2) {}

def only (l : List (Kind × Nat)) : Failures := fun k i => decide ((k, i) ∈ l)

theorem atomic_run_commit : Machine.Meets step (fun s x => Atomic x.1 (program x.2) s) withAlice
    [(only [(.getAuthorizedAccounts, 0), (.commit, 0)], enableAlice "com.example.c"),
      (only [(.get, 0), (.put, 0)], addAlice "")] :=
  atomic_run withAlice _ ⟨.inr (.inr (.inr (.inr (.inr (.inr (.inr (.inr (by decide)))))))),
    .inr (.inr (.inl (by decide))), trivial⟩

/-- Two reads that fail overwrite the account, one the table; a read or a removal
that fails reports a success without an effect. -/
theorem not_atomic_withAlice :
    ¬Atomic (only [(.get, 0), (.get, 1)]) (program (addAlice "")) withAlice ∧
    ¬Atomic (only [(.getAuthorizedAccounts, 0)]) (program (enableAlice "com.example.c")) withAlice ∧
    ¬Atomic (only [(.get, 2)]) (program (.deleteAccount "com.example.mail" 0 "alice" 3301)) withAlice ∧
    ¬Atomic (only [(.delete, 0)]) (program (.onPackageRemoved false 3301 "com.example.mail" 0)) withAlice := by
  have hrecord : ∀ {s s' : Store}, s = s' →
      (s.accounts["com.example.mail#0#alice#"]?).map (·.extraInfo) =
        (s'.accounts["com.example.mail#0#alice#"]?).map (·.extraInfo) := by
    rintro s _ rfl
    rfl
  have htable : ∀ {s s' : Store}, s = s' → accessibleAccounts s.authorizedAccounts "com.example.a" =
      accessibleAccounts s'.authorizedAccounts "com.example.a" := by
    rintro s _ rfl
    rfl
  refine ⟨fun h => ?_, fun h => ?_, fun h => ?_, fun h => ?_⟩
  · exact absurd (hrecord (h.success (by decide +kernel))) (by decide +kernel)
  · exact absurd (htable (h.success (by decide +kernel))) (by decide +kernel)
  · exact absurd (hrecord (h.success (by decide +kernel))) (by decide +kernel)
  · exact absurd (hrecord (h.success (by decide +kernel))) (by decide +kernel)

end runs

end OsAccount.AppAccountFailures
