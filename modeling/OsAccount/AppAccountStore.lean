import OsAccount.AuthorizedAccounts
import OsAccount.OrderedMap
import OsAccount.AppAccountInfo
import OsAccount.Program

namespace OsAccount.AppAccountStore

open Program Std CText AppAccountInfo AuthorizedAccounts

def accountMaxSize : Nat := 1000

/-- The store of one OS user: the records under their keys, and the table that
lists for every authorized application the accounts it may use. The second
store of a distributed build and the secrets in the asset service are left out. -/
@[ext]
structure Store where
  accounts : ExtTreeMap String AppAccountInfo := ∅
  authorizedAccounts : Option Json := none

namespace Store

variable (s : Store)

def put (key : String) (info : AppAccountInfo) : Store := { s with accounts := s.accounts.insert key info }

def delete (key : String) : Store := { s with accounts := s.accounts.erase key }

def putTable (table : Json) : Store := { s with authorizedAccounts := some table }

def getEntries (subId : String) : List (String × AppAccountInfo) :=
  s.accounts.toList.filter fun e => subId.toList.isPrefixOf e.1.toList

end Store

inductive Access
  | get (key : String)
  | getAuthorizedAccounts
  | getEntries (subId : String)
  | put (key : String) (info : AppAccountInfo)
  | putAuthorizedAccounts (table : Json)
  | delete (key : String)
  | startTransaction
  | commit
  | removeAssociatedDataCacheByAccount (uid : Nat) (name : String)
  | removeAssociatedDataCacheByUid (uid : Nat)

abbrev Answer : Access → Type
  | .get _ => Option AppAccountInfo
  | .getAuthorizedAccounts => Option Json
  | .getEntries _ => Option (List (String × AppAccountInfo))
  | .removeAssociatedDataCacheByAccount _ _ => Unit
  | .removeAssociatedDataCacheByUid _ => Unit
  | _ => Bool

abbrev StoreProgram (α : Type) : Type := Program Access Answer α

section storage

abbrev get (keyStr : String) : StoreProgram (Option AppAccountInfo) := call (Access.get keyStr)

abbrev getAuthorizedAccounts : StoreProgram (Option Json) := call Access.getAuthorizedAccounts

abbrev getEntries (subId : String) : StoreProgram (Option (List (String × AppAccountInfo))) :=
  call (Access.getEntries subId)

abbrev put (keyStr : String) (info : AppAccountInfo) : StoreProgram Bool := call (Access.put keyStr info)

abbrev putTable (table : Json) : StoreProgram Bool := call (Access.putAuthorizedAccounts table)

abbrev delete (keyStr : String) : StoreProgram Bool := call (Access.delete keyStr)

abbrev startTransaction : StoreProgram Bool := call Access.startTransaction

abbrev commit : StoreProgram Bool := call Access.commit

abbrev removeAssociatedDataCacheByAccount (uid : Nat) (name : String) : StoreProgram Unit :=
  call (Access.removeAssociatedDataCacheByAccount uid name)

abbrev removeAssociatedDataCacheByUid (uid : Nat) : StoreProgram Unit :=
  call (Access.removeAssociatedDataCacheByUid uid)

variable (a : AppAccountInfo)

def isKeyExists (keyStr : String) : StoreProgram Bool := do
  return (← get keyStr).isSome

def putValueToKvStore (keyStr : String) (info : AppAccountInfo) : StoreProgram Ret := do
  if ← put keyStr info then return .ok () else return .error .queryDistributeDataError

def putAuthorizedAccounts (table : Json) : StoreProgram Ret := do
  if ← putTable table then return .ok () else return .error .queryDistributeDataError

def addAccountInfo : StoreProgram Ret := do
  if ← isKeyExists a.getPrimeKey then return .error .dataStorageKeyExisted
  else putValueToKvStore a.getPrimeKey a.toJson

def saveAccountInfo : StoreProgram Ret := do
  if ← isKeyExists a.getPrimeKey then putValueToKvStore a.getPrimeKey a.toJson
  else return .error .dataStorageKeyNotExists

def removeValueFromKvStore (keyStr : String) : StoreProgram Ret := do
  match ← get keyStr with
  | none => return .ok ()
  | some _ => if ← delete keyStr then return .ok () else return .error .deleteKeyFromKvstore

def loadDataByLocalFuzzyQuery (subId : String) : StoreProgram (Except ErrCode (List (String × AppAccountInfo))) := do
  match ← getEntries subId with
  | none => return .error .queryDistributeDataError
  | some entries => return .ok entries

def getAccountInfoFromDataStorage : StoreProgram (Except ErrCode AppAccountInfo) := do
  match ← get a.getPrimeKey with
  | none => return .error .getAccountInfoById
  | some stored => return .ok (a.fromJson stored)

def getAccessibleAccountsFromDataStorage (authorizedApp : String) : StoreProgram (List String) := do
  return (getAccessibleAccountsFromAuthorizedAccounts (← getAuthorizedAccounts) authorizedApp).2

def saveAuthorizedAccountIntoDataStorage (authorizedApp : String) : StoreProgram Ret := do
  putAuthorizedAccounts (savedTable (← getAuthorizedAccounts) authorizedApp a.getPrimeKey)

def removeAuthorizedAccountFromDataStorage (authorizedApp : String) : StoreProgram Ret := do
  putAuthorizedAccounts (removedTable (← getAuthorizedAccounts) authorizedApp a.getPrimeKey)

def startDbTransaction : StoreProgram Ret := do
  if ← startTransaction then return .ok () else return .error .queryDistributeDataError

def commitDbTransaction : StoreProgram Ret := do
  if ← commit then return .ok () else return .error .queryDistributeDataError

end storage

section control

variable (a : AppAccountInfo)

def addAccountInfoIntoDataStorage : StoreProgram Ret := do
  match ← loadDataByLocalFuzzyQuery (ownerKey a.owner a.appIndex) with
  | .error e => return .error e
  | .ok accounts =>
      if accounts.length ≥ accountMaxSize then return .error .accountMaxSize
      else addAccountInfo a

def addAccount (extraInfo : String) : StoreProgram Ret := do
  match ← getAccountInfoFromDataStorage a with
  | .ok _ => return .error .addExistingAccount
  | .error _ => addAccountInfoIntoDataStorage (a.setExtraInfo extraInfo)

def createJsonFromMap (mapData : ExtTreeMap String String) : Json :=
  .obj (mapData.toList.map fun p => (cStr p.1, .str (cStr p.2)))

def createAccount (customData : ExtTreeMap String String) : StoreProgram Ret := do
  match ← getAccountInfoFromDataStorage a with
  | .ok _ => return .error .addExistingAccount
  | .error _ => addAccountInfoIntoDataStorage { a with associatedData := some (createJsonFromMap customData) }

def setAccountExtraInfo (extraInfo : String) : StoreProgram Ret := do
  match ← getAccountInfoFromDataStorage a with
  | .error e => return .error e
  | .ok info => saveAccountInfo (info.setExtraInfo extraInfo)

def saveAccess (info : AppAccountInfo) (saveTable : AppAccountInfo → StoreProgram Ret) : StoreProgram Ret := do
  match ← startDbTransaction with
  | .error e => return .error e
  | .ok () =>
  match ← saveAccountInfo info with
  | .error e => return .error e
  | .ok () =>
  match ← saveTable info with
  | .error e => return .error e
  | .ok () => commitDbTransaction

def enableAppAccess (authorizedApp : String) (apiVersion : Nat) : StoreProgram Ret := do
  match ← getAccountInfoFromDataStorage a with
  | .error e => return .error e
  | .ok info =>
  match info.enableAppAccess authorizedApp apiVersion with
  | .error e => return .error e
  | .ok info => saveAccess info fun info => saveAuthorizedAccountIntoDataStorage info authorizedApp

def disableAppAccess (authorizedApp : String) (apiVersion : Nat) : StoreProgram Ret := do
  match ← getAccountInfoFromDataStorage a with
  | .error e => return .error e
  | .ok info =>
  match info.disableAppAccess authorizedApp apiVersion with
  | .error _ => return .error .disableAppAccessNotExisted
  | .ok info => saveAccess info fun info => removeAuthorizedAccountFromDataStorage info authorizedApp

def deleteAccountInfoFromDataStorage : StoreProgram (Except ErrCode AppAccountInfo) := do
  match ← getAccountInfoFromDataStorage a with
  | .error e => return .error e
  | .ok info =>
  match ← removeValueFromKvStore info.getPrimeKey with
  | .error e => return .error e
  | .ok () => return .ok info

def removeAuthorizedAccounts (info : AppAccountInfo) : List String → StoreProgram Ret
  | [] => return .ok ()
  | authorizedApp :: rest => do
      match ← removeAuthorizedAccountFromDataStorage info authorizedApp with
      | .error e => return .error e
      | .ok () => removeAuthorizedAccounts info rest

def controlDeleteAccount (uid : Nat) (name : String) (info : AppAccountInfo) : StoreProgram Ret := do
  match ← startDbTransaction with
  | .error e => return .error e
  | .ok () =>
  match ← deleteAccountInfoFromDataStorage info with
  | .error e => return .error e
  | .ok info =>
  removeAssociatedDataCacheByAccount uid name
  match ← removeAuthorizedAccounts info info.authorizedApps.toList with
  | .error e => return .error e
  | .ok () => commitDbTransaction

def deleteAccount (uid : Nat) (name : String) : StoreProgram Ret := do
  match ← getAccountInfoFromDataStorage a with
  | .error e => return .error e
  | .ok info => controlDeleteAccount uid name info

def removeAuthorizations (info : AppAccountInfo) : List String → StoreProgram Unit
  | [] => return ()
  | authorizedApp :: rest => do
      let _ ← removeAuthorizedAccountFromDataStorage info authorizedApp
      removeAuthorizations info rest

def removeAccounts (appIndex : Nat) : List (String × AppAccountInfo) → StoreProgram Unit
  | [] => return ()
  | account :: rest => do
      let info := account.2.setAppIndex appIndex
      removeAuthorizations info info.authorizedApps.toList
      let _ ← removeValueFromKvStore info.getPrimeKey
      removeAccounts appIndex rest

def removeAppAccountData (bundleName : String) (appIndex : Nat) : StoreProgram Ret := do
  match ← startDbTransaction with
  | .error e => return .error e
  | .ok () =>
  match ← loadDataByLocalFuzzyQuery (ownerKey bundleName appIndex) with
  | .error e => return .error e
  | .ok accounts =>
  removeAccounts appIndex accounts
  commitDbTransaction

def onPackageRemoved (isOsAccountRemoved : Bool) (uid : Nat) (bundleName : String) (appIndex : Nat) :
    StoreProgram Ret := do
  removeAssociatedDataCacheByUid uid
  if isOsAccountRemoved then return .ok ()
  else removeAppAccountData bundleName appIndex

def getAllAccountsFromDataStorage (owner : String) : StoreProgram (Except ErrCode (List AppAccountInfo)) := do
  match ← loadDataByLocalFuzzyQuery owner with
  | .error e => return .error e
  | .ok accounts => return .ok (accounts.map Prod.snd)

/-- The accounts that the caller may use, as far as `visible` does not hide them. -/
def filterAccessibleAccounts (visible : AppAccountInfo → Bool) :
    List String → StoreProgram (Except ErrCode (List AppAccountInfo))
  | [] => return .ok []
  | account :: rest => do
      match ← get account with
      | none => return .error .getAccountInfoById
      | some info =>
      match ← filterAccessibleAccounts visible rest with
      | .error e => return .error e
      | .ok infos => return .ok (if visible info then info :: infos else infos)

def filterAccessibleAccountsByOwner (visible : AppAccountInfo → Bool) (owner : String)
    (accessibleAccounts : List String) : StoreProgram (Except ErrCode (List AppAccountInfo)) :=
  filterAccessibleAccounts (fun info => info.owner = owner && visible info) accessibleAccounts

/-- The owner and a caller with the permission query the keys, any other caller
gets what it is authorized to use. -/
def getAllAccounts (subspace hasPermission : Bool) (visible : AppAccountInfo → Bool) (owner : String)
    (ownerAppIndex : Nat) (bundleName : String) (callerAppIndex : Nat) :
    StoreProgram (Except ErrCode (List AppAccountInfo)) := do
  if (bundleName = owner ∧ callerAppIndex = ownerAppIndex) ∨ hasPermission then
    getAllAccountsFromDataStorage (ownerKey owner ownerAppIndex)
  else
    let accessibleAccounts ←
      getAccessibleAccountsFromDataStorage (encodeAuthorizedApp subspace bundleName callerAppIndex)
    filterAccessibleAccountsByOwner visible owner accessibleAccounts

def getAllAccessibleAccountsFromDataStorage (subspace : Bool) (visible : AppAccountInfo → Bool) (bundleName : String)
    (appIndex : Nat) : StoreProgram (Except ErrCode (List AppAccountInfo)) := do
  let accessibleAccounts ←
    getAccessibleAccountsFromDataStorage (encodeAuthorizedApp subspace bundleName appIndex)
  match ← filterAccessibleAccounts visible accessibleAccounts with
  | .error e => return .error e
  | .ok appAccounts =>
  match ← getAllAccountsFromDataStorage (ownerKey bundleName appIndex) with
  | .error e => return .error e
  | .ok currentAppAccounts => return .ok (appAccounts ++ currentAppAccounts)

end control

section handler

structure Database where
  store : Store
  saved : Option Store := none

def succeed : (e : Access) → Database → Answer e × Database
  | .get key, d => (d.store.accounts[key]?, d)
  | .getAuthorizedAccounts, d => (d.store.authorizedAccounts, d)
  | .getEntries subId, d => (some (d.store.getEntries subId), d)
  | .put key info, d => (true, { d with store := d.store.put key info })
  | .putAuthorizedAccounts table, d => (true, { d with store := d.store.putTable table })
  | .delete key, d => (true, { d with store := d.store.delete key })
  | .startTransaction, d => (true, { d with saved := some d.store })
  | .commit, d => (true, { d with saved := none })
  | .removeAssociatedDataCacheByAccount _ _, d => ((), d)
  | .removeAssociatedDataCacheByUid _, d => ((), d)

/-- What is left when an operation returns: a transaction that was not committed
is rolled back. -/
def Database.close (d : Database) : Store := d.saved.getD d.store

def perform {α : Type} (p : StoreProgram α) (s : Store) : α × Store :=
  let result := exec succeed p { store := s }
  (result.1, result.2.close)

end handler

section specifications

theorem Store.getElem?_put (s : Store) (k j : String) (info : AppAccountInfo) :
    (s.put k info).accounts[j]? = if k = j then some info else s.accounts[j]? :=
  OrderedMap.getElem?_insert_eq s.accounts k j info

variable {d : Database} {a info : AppAccountInfo} {key subId authorizedApp : String}

theorem exec_get : exec succeed (get key) d = (d.store.accounts[key]?, d) := rfl

@[simp]
theorem exec_saveAuthorizedAccount : exec succeed (saveAuthorizedAccountIntoDataStorage a authorizedApp) d =
    (.ok (), { d with
      store := d.store.putTable (savedTable d.store.authorizedAccounts authorizedApp a.getPrimeKey) }) := rfl

@[simp]
theorem exec_removeAuthorizedAccount :
    exec succeed (removeAuthorizedAccountFromDataStorage a authorizedApp) d = (.ok (), { d with
      store := d.store.putTable (removedTable d.store.authorizedAccounts authorizedApp a.getPrimeKey) }) := rfl

@[simp]
theorem exec_loadDataByLocalFuzzyQuery :
    exec succeed (loadDataByLocalFuzzyQuery subId) d = (.ok (d.store.getEntries subId), d) := rfl

@[simp]
theorem exec_startDbTransaction :
    exec succeed startDbTransaction d = (.ok (), { d with saved := some d.store }) := rfl

@[simp]
theorem exec_commitDbTransaction :
    exec succeed commitDbTransaction d = (.ok (), { d with saved := none }) := rfl

theorem exec_getAccountInfo_of_none (h : d.store.accounts[a.getPrimeKey]? = none) :
    exec succeed (getAccountInfoFromDataStorage a) d = (.error .getAccountInfoById, d) := by
  unfold getAccountInfoFromDataStorage
  rw [exec_bind, exec_get, h]
  rfl

theorem exec_getAccountInfo_of_some {stored : AppAccountInfo} (h : d.store.accounts[a.getPrimeKey]? = some stored) :
    exec succeed (getAccountInfoFromDataStorage a) d = (.ok (a.fromJson stored), d) := by
  unfold getAccountInfoFromDataStorage
  rw [exec_bind, exec_get, h]
  rfl

theorem exec_getAccountInfo_newAccount {owner name : String} {appIndex : Nat} {stored : AppAccountInfo}
    (h : d.store.accounts[(newAccount owner appIndex name).getPrimeKey]? = some stored) :
    exec succeed (getAccountInfoFromDataStorage (newAccount owner appIndex name)) d = (.ok stored, d) := by
  rw [exec_getAccountInfo_of_some h, fromJson_newAccount]

theorem exec_addAccountInfo_of_none (h : d.store.accounts[a.getPrimeKey]? = none) :
    exec succeed (addAccountInfo a) d =
      (.ok (), { d with store := d.store.put a.getPrimeKey a.toJson }) := by
  unfold addAccountInfo isKeyExists
  rw [exec_bind, exec_bind, exec_get, h]
  rfl

theorem exec_saveAccountInfo_of_some {stored : AppAccountInfo} (h : d.store.accounts[a.getPrimeKey]? = some stored) :
    exec succeed (saveAccountInfo a) d =
      (.ok (), { d with store := d.store.put a.getPrimeKey a.toJson }) := by
  unfold saveAccountInfo isKeyExists
  rw [exec_bind, exec_bind, exec_get, h]
  rfl

theorem exec_removeValue : exec succeed (removeValueFromKvStore key) d =
    (.ok (), { d with store := d.store.delete key }) := by
  unfold removeValueFromKvStore
  rw [exec_bind, exec_get]
  cases h : d.store.accounts[key]? with
  | none =>
      have herase : d.store.delete key = d.store := by
        apply Store.ext
        · exact OrderedMap.erase_absent d.store.accounts key h
        · rfl
      rw [herase]
      rfl
  | some _ => rfl

theorem exec_removeAuthorizations (info : AppAccountInfo) (apps : List String) (d : Database) :
    exec succeed (removeAuthorizations info apps) d = ((), { d with store := { d.store with
      authorizedAccounts := removedFrom info.getPrimeKey d.store.authorizedAccounts apps } }) := by
  induction apps generalizing d with
  | nil => rfl
  | cons app apps ih =>
      rw [removeAuthorizations, exec_bind, exec_removeAuthorizedAccount, ih]
      rfl

theorem exec_removeAuthorizedAccounts (info : AppAccountInfo) (apps : List String) (d : Database) :
    exec succeed (removeAuthorizedAccounts info apps) d = (.ok (), { d with store := { d.store with
      authorizedAccounts := removedFrom info.getPrimeKey d.store.authorizedAccounts apps } }) := by
  induction apps generalizing d with
  | nil => rfl
  | cons app apps ih =>
      rw [removeAuthorizedAccounts, exec_bind, exec_removeAuthorizedAccount]
      exact ih _

def Store.removeAccount (s : Store) (info : AppAccountInfo) : Store where
  accounts := s.accounts.erase info.getPrimeKey
  authorizedAccounts := removedFrom info.getPrimeKey s.authorizedAccounts info.authorizedApps.toList

theorem exec_removeAccounts (appIndex : Nat) (accounts : List (String × AppAccountInfo)) (d : Database) :
    exec succeed (removeAccounts appIndex accounts) d = ((), { d with
      store := accounts.foldl (fun s account => s.removeAccount (account.2.setAppIndex appIndex)) d.store }) := by
  induction accounts generalizing d with
  | nil => rfl
  | cons account accounts ih =>
      rw [removeAccounts, exec_bind, exec_removeAuthorizations, exec_bind,
        exec_removeValue, ih]
      rfl

theorem perform_onPackageRemoved (uid : Nat) (bundleName : String) (appIndex : Nat) (s : Store) :
    perform (onPackageRemoved false uid bundleName appIndex) s =
      (.ok (), (s.getEntries (ownerKey bundleName appIndex)).foldl
        (fun s account => s.removeAccount (account.2.setAppIndex appIndex)) s) := by
  unfold perform onPackageRemoved removeAppAccountData
  simp [exec_removeAccounts, Database.close, succeed]

theorem perform_getAllAccounts (subspace hasPermission : Bool) (visible : AppAccountInfo → Bool) (owner : String)
    (appIndex : Nat) (s : Store) :
    perform (getAllAccounts subspace hasPermission visible owner appIndex owner appIndex) s =
      (.ok ((s.getEntries (ownerKey owner appIndex)).map Prod.snd), s) := by
  unfold perform getAllAccounts getAllAccountsFromDataStorage
  simp [Database.close]

theorem mem_getEntries {s : Store} {subId k : String} {info : AppAccountInfo} : (k, info) ∈ s.getEntries subId ↔
    s.accounts[k]? = some info ∧ subId.toList <+: k.toList := by
  simp [Store.getEntries, ExtTreeMap.mem_toList_iff_getElem?_eq_some]

theorem exec_addAccountInfoIntoDataStorage (h : d.store.accounts[a.getPrimeKey]? = none) :
    exec succeed (addAccountInfoIntoDataStorage a) d =
      if accountMaxSize ≤ (d.store.getEntries (ownerKey a.owner a.appIndex)).length then (.error .accountMaxSize, d)
      else (.ok (), { d with store := d.store.put a.getPrimeKey a.toJson }) := by
  unfold addAccountInfoIntoDataStorage
  rw [exec_bind, exec_loadDataByLocalFuzzyQuery]
  dsimp only
  split
  · rfl
  · exact exec_addAccountInfo_of_none h

end specifications

end OsAccount.AppAccountStore
