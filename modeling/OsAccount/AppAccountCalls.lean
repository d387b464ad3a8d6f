import OsAccount.AppAccountAuthorization
import OsAccount.AssociatedDataCache
import OsAccount.Interleavings
import OsAccount.OAuthTokens

namespace OsAccount.AppAccountCalls

open Program Std AppAccountInfo AuthorizedAccounts AppAccountStore AppAccountService OAuthTokens
open TransactionPrograms Interleavings

inductive Lock
  | appAccountLock (uid : Nat)
  | mutex
  | associatedDataMutex
deriving DecidableEq

abbrev Place : Type := Option String

section storage

def kind : Access → Kind
  | .startTransaction => .start
  | .commit => .commit
  | _ => .plain

def needs : Access → Option Lock
  | .removeAssociatedDataCacheByAccount _ _ => some .associatedDataMutex
  | .removeAssociatedDataCacheByUid _ => some .associatedDataMutex
  | _ => none

def touches : Access → Place → Bool
  | .get key, place => place = some key
  | .put key _, place => place = some key
  | .delete key, place => place = some key
  | .getEntries subId, some key => subId.toList.isPrefixOf key.toList
  | .getAuthorizedAccounts, place => place.isNone
  | .putAuthorizedAccounts _, place => place.isNone
  | _, _ => false

def write : Access → Option Place
  | .put key _ => some (some key)
  | .delete key => some (some key)
  | .putAuthorizedAccounts _ => some none
  | _ => none

def look (s : Store) : Place → Option AppAccountInfo ⊕ Option Json
  | some key => .inl s.accounts[key]?
  | none => .inr s.authorizedAccounts

/-- The store takes every text as it is given: texts with a NUL, at which the
JSON of a record would cut them, are left out. -/
def storage : Interface Access Answer Store Place (Option AppAccountInfo ⊕ Option Json) Lock where
  handle e s := ((succeed e { store := s }).1, (succeed e { store := s }).2.store)
  kind := kind
  needs := needs
  touches := touches
  write := write
  look := look

theorem getEntries_eq_toList_filter (s : Store) (subId : String) :
    s.getEntries subId = (s.accounts.filter fun key _ => subId.toList.isPrefixOf key.toList).toList := by
  rw [ExtTreeMap.toList_filter]
  rfl

theorem getEntries_congr {s s' : Store} {subId : String}
    (h : ∀ key : String, subId.toList.isPrefixOf key.toList = true → s.accounts[key]? = s'.accounts[key]?) :
    s.getEntries subId = s'.getEntries subId := by
  rw [getEntries_eq_toList_filter, getEntries_eq_toList_filter]
  refine congrArg ExtTreeMap.toList (ExtTreeMap.ext_getElem? fun key => ?_)
  rw [ExtTreeMap.getElem?_filter', ExtTreeMap.getElem?_filter']
  cases hkey : subId.toList.isPrefixOf key.toList with
  | true => rw [h key hkey]
  | false =>
      cases s.accounts[key]? <;> cases s'.accounts[key]? <;> rfl

theorem storage_local : storage.Local where
  ext s s' h := by
    refine Store.ext (ExtTreeMap.ext_getElem? fun key => ?_) ?_
    · exact Sum.inl.inj (h (some key))
    · exact Sum.inr.inj (h none)
  touches_write e x hx := by
    cases e <;> cases hx <;> simp [storage, touches]
  answer e s s' h := by
    cases e with
    | get key => exact Sum.inl.inj (h (some key) (by simp [storage, touches]))
    | getAuthorizedAccounts => exact Sum.inr.inj (h none rfl)
    | getEntries subId =>
        exact congrArg some (getEntries_congr fun key hkey => Sum.inl.inj (h (some key) hkey))
    | _ => rfl
  effect e s s' x h hx := by
    cases e <;> cases hx
    · simp [storage, look, succeed, Store.getElem?_put]
    · rfl
    · simp [storage, look, succeed, Store.delete]
  frame e s x hx := by
    cases e with
    | put key info =>
        cases x with
        | none => rfl
        | some key' =>
            have hne : key ≠ key' := fun he => hx (by rw [he]; rfl)
            exact congrArg Sum.inl ((Store.getElem?_put ..).trans (if_neg hne))
    | putAuthorizedAccounts table =>
        cases x with
        | none => exact absurd rfl hx
        | some key' => rfl
    | delete key =>
        cases x with
        | none => rfl
        | some key' =>
            have hne : key ≠ key' := fun he => hx (by rw [he]; rfl)
            exact congrArg Sum.inl ((OrderedMap.getElem?_erase_eq ..).trans (if_neg hne))
    | _ => rfl
  mark e s s' hk := by
    cases e with
    | startTransaction => rfl
    | commit => rfl
    | _ => exact absurd rfl hk

def databaseOf (d : AppAccountStore.Database) : Database Store := { store := d.store, saved := d.saved }

theorem succeed_eq_access (e : Access) (d : AppAccountStore.Database) :
    (succeed e d).1 = (storage.access e (databaseOf d)).1 ∧
      databaseOf (succeed e d).2 = (storage.access e (databaseOf d)).2 := by
  cases e <;> exact ⟨rfl, rfl⟩

theorem perform_storage {α : Type} (p : StoreProgram α) (s : Store) : storage.perform p s = perform p s := by
  obtain ⟨hresult, hdatabase⟩ := exec_view storage.access databaseOf succeed_eq_access p { store := s }
  exact (Prod.ext hresult (congrArg TransactionPrograms.Database.close hdatabase)).symm

end storage

section calls

/-- The calls of an OS user that write accounts which are there. An authorized application is given as the lists name
it, and the indices that the bundle manager has come with the requests of the sessions. -/
inductive Operation
  | setAccountExtraInfo (caller : AppAccountCallingInfo) (name extraInfo : String)
  | enableAppAccess (caller : AppAccountCallingInfo) (name authorizedApp : String) (apiVersion : Nat)
  | disableAppAccess (caller : AppAccountCallingInfo) (name authorizedApp : String) (apiVersion : Nat)
  | setAssociatedData (caller : AppAccountCallingInfo) (name key value : String)
  | setOAuthToken (request : AuthenticatorSessionRequest) (resolvedAppIndex : Nat)
  | deleteOAuthToken (request : AuthenticatorSessionRequest) (resolvedAppIndex apiVersion : Nat)
  | setOAuthTokenVisibility (request : AuthenticatorSessionRequest) (targetAppIndex apiVersion : Nat)
  | deleteAccount (caller : AppAccountCallingInfo) (name : String)
  | onPackageRemoved (isOsAccountRemoved : Bool) (uid : Nat) (bundleName : BundleName) (appIndex : Nat)

namespace Operation

variable (subspace : Bool)

def program : Operation → StoreProgram Ret
  | setAccountExtraInfo caller name extraInfo => AppAccountStore.setAccountExtraInfo (caller.account name) extraInfo
  | enableAppAccess caller name authorizedApp apiVersion =>
      AppAccountStore.enableAppAccess (caller.account name) authorizedApp apiVersion
  | disableAppAccess caller name authorizedApp apiVersion =>
      AppAccountStore.disableAppAccess (caller.account name) authorizedApp apiVersion
  | setAssociatedData caller name key value => AssociatedDataCache.saveAssociatedData (caller.account name) key value
  | setOAuthToken request resolvedAppIndex => OAuthTokens.setOAuthToken request resolvedAppIndex
  | deleteOAuthToken request resolvedAppIndex apiVersion =>
      OAuthTokens.deleteOAuthToken subspace request resolvedAppIndex apiVersion
  | setOAuthTokenVisibility request targetAppIndex apiVersion =>
      OAuthTokens.setOAuthTokenVisibility subspace request targetAppIndex apiVersion
  | deleteAccount caller name => AppAccountStore.deleteAccount (caller.account name) caller.callingUid name
  | onPackageRemoved isOsAccountRemoved uid bundleName appIndex =>
      AppAccountStore.onPackageRemoved isOsAccountRemoved uid bundleName.1 appIndex

/-- The service takes the lock of the uid of the caller. The removal of a package comes as an event, without a call. -/
def locks : Operation → List Lock
  | setAccountExtraInfo caller _ _ => [.appAccountLock caller.callingUid]
  | enableAppAccess caller _ _ _ => [.appAccountLock caller.callingUid]
  | disableAppAccess caller _ _ _ => [.appAccountLock caller.callingUid]
  | setAssociatedData caller _ _ _ => [.appAccountLock caller.callingUid, .associatedDataMutex]
  | setOAuthToken request _ => [.appAccountLock request.callerUid, .mutex]
  | deleteOAuthToken request _ _ => [.appAccountLock request.callerUid, .mutex]
  | setOAuthTokenVisibility request _ _ => [.appAccountLock request.callerUid, .mutex]
  | deleteAccount caller _ => [.appAccountLock caller.callingUid]
  | onPackageRemoved _ _ _ _ => []

def call (op : Operation) : Call Access Answer ErrCode Lock where
  locks := op.locks
  program := op.program subspace

end Operation

end calls

section failures

def Undone (p : StoreProgram Ret) (d : AppAccountStore.Database) : Prop :=
  ∀ e, (exec succeed p d).1 = .error e → (exec succeed p d).2.close = d.close

variable {p : StoreProgram Ret} {d : AppAccountStore.Database} {a info : AppAccountInfo}

theorem undone_of_unchanged (h : (exec succeed p d).2 = d) : Undone p d :=
  fun _ _ => congrArg AppAccountStore.Database.close h

theorem undone_of_ok (h : (exec succeed p d).1 = .ok ()) : Undone p d :=
  fun _ he => by cases h.symm.trans he

theorem undone_ret (r : Ret) : Undone (pure r) d := undone_of_unchanged rfl

theorem undone_getAccountInfo {f : Except ErrCode AppAccountInfo → StoreProgram Ret}
    (herror : ∀ e, Undone (f (.error e)) d) (hok : ∀ info, Undone (f (.ok info)) d) :
    Undone (getAccountInfoFromDataStorage a >>= f) d := by
  intro e
  rw [exec_bind]
  cases h : d.store.accounts[a.getPrimeKey]? with
  | none =>
      rw [exec_getAccountInfo_of_none h]
      exact herror _ e
  | some stored =>
      rw [exec_getAccountInfo_of_some h]
      exact hok _ e

theorem exec_saveAccountInfo_of_none (h : d.store.accounts[a.getPrimeKey]? = none) :
    exec succeed (saveAccountInfo a) d = (.error .dataStorageKeyNotExists, d) := by
  rw [saveAccountInfo, isKeyExists, exec_bind, exec_bind, exec_get, h]
  rfl

theorem undone_saveAccountInfo : Undone (saveAccountInfo a) d := by
  cases h : d.store.accounts[a.getPrimeKey]? with
  | none => exact undone_of_unchanged (by rw [exec_saveAccountInfo_of_none h])
  | some stored => exact undone_of_ok (by rw [exec_saveAccountInfo_of_some h])

theorem undone_saveAccess (hd : d.saved = none) {saveTable : AppAccountInfo → StoreProgram Ret} {f : Option Json → Json}
    (htable : ∀ d', exec succeed (saveTable info) d' =
      (.ok (), { d' with store := d'.store.putTable (f d'.store.authorizedAccounts) })) :
    Undone (saveAccess info saveTable) d := by
  cases h : d.store.accounts[info.getPrimeKey]? with
  | none =>
      intro e _
      have hexec : exec succeed (saveAccess info saveTable) d =
          (.error .dataStorageKeyNotExists, { d with saved := some d.store }) := by
        rw [saveAccess, exec_bind, exec_startDbTransaction]
        dsimp only
        rw [exec_bind, exec_saveAccountInfo_of_none (d := ⟨d.store, some d.store⟩) h]
        rfl
      rw [hexec, AppAccountStore.Database.close, AppAccountStore.Database.close, hd]
      rfl
  | some stored => exact undone_of_ok (by rw [AppAccountAuthorization.exec_saveAccess h htable])

theorem deleteAccountInfo_of_error {e : ErrCode}
    (h : (exec succeed (deleteAccountInfoFromDataStorage info) d).1 = .error e) :
    (exec succeed (deleteAccountInfoFromDataStorage info) d).2 = d := by
  rw [deleteAccountInfoFromDataStorage, exec_bind] at h ⊢
  cases hk : d.store.accounts[info.getPrimeKey]? with
  | none => rw [exec_getAccountInfo_of_none hk]; rfl
  | some stored =>
      rw [exec_getAccountInfo_of_some hk] at h
      dsimp only at h
      rw [exec_bind, exec_removeValue] at h
      cases h

theorem undone_controlDeleteAccount (hd : d.saved = none) (uid : Nat) (name : String) :
    Undone (controlDeleteAccount uid name info) d := by
  intro e
  rw [controlDeleteAccount, exec_bind, exec_startDbTransaction]
  dsimp only
  rw [exec_bind]
  cases h : (exec succeed (deleteAccountInfoFromDataStorage info) ⟨d.store, some d.store⟩).1 with
  | error e' =>
      intro _
      rw [deleteAccountInfo_of_error h, AppAccountStore.Database.close, AppAccountStore.Database.close, hd]
      rfl
  | ok info' =>
      dsimp only
      rw [exec_bind, exec_bind, exec_removeAuthorizedAccounts]
      intro herror
      cases herror

theorem undone_program (subspace : Bool) (op : Operation) (hd : d.saved = none) : Undone (op.program subspace) d := by
  cases op with
  | setAccountExtraInfo caller name extraInfo =>
      exact undone_getAccountInfo (fun _ => undone_ret _) fun info => undone_saveAccountInfo
  | enableAppAccess caller name authorizedApp apiVersion =>
      refine undone_getAccountInfo (fun _ => undone_ret _) fun info => ?_
      dsimp only
      cases info.enableAppAccess authorizedApp apiVersion with
      | error e => exact undone_ret _
      | ok info => exact undone_saveAccess hd (f := fun t => savedTable t authorizedApp info.getPrimeKey) fun _ => rfl
  | disableAppAccess caller name authorizedApp apiVersion =>
      refine undone_getAccountInfo (fun _ => undone_ret _) fun info => ?_
      dsimp only
      cases info.disableAppAccess authorizedApp apiVersion with
      | error e => exact undone_ret _
      | ok info => exact undone_saveAccess hd (f := fun t => removedTable t authorizedApp info.getPrimeKey) fun _ => rfl
  | setAssociatedData caller name key value =>
      refine undone_getAccountInfo (fun _ => undone_ret _) fun info => ?_
      dsimp only
      cases AssociatedDataCache.setAssociatedData info key value with
      | error e => exact undone_ret _
      | ok info => exact undone_saveAccountInfo
  | setOAuthToken request resolvedAppIndex =>
      refine undone_getAccountInfo (fun _ => undone_ret _) fun info => ?_
      dsimp only
      cases info.setOAuthToken request.authType request.token with
      | error e => exact undone_ret _
      | ok info => exact undone_saveAccountInfo
  | deleteOAuthToken request resolvedAppIndex apiVersion =>
      refine undone_getAccountInfo (fun _ => undone_ret _) fun info => ?_
      dsimp only
      split
      · cases deletedToken request apiVersion info with
        | error e => exact undone_ret _
        | ok info => exact undone_saveAccountInfo
      · exact undone_ret _
  | setOAuthTokenVisibility request targetAppIndex apiVersion =>
      refine undone_getAccountInfo (fun _ => undone_ret _) fun info => ?_
      dsimp only
      cases info.setOAuthTokenVisibility request.authType
          (encodeAuthorizedApp subspace request.bundleName targetAppIndex) request.isTokenVisible apiVersion with
      | error e => exact undone_ret _
      | ok info => exact undone_saveAccountInfo
  | deleteAccount caller name =>
      exact undone_getAccountInfo (fun _ => undone_ret _) fun info =>
        undone_controlDeleteAccount hd caller.callingUid name
  | onPackageRemoved isOsAccountRemoved uid bundleName appIndex =>
      refine undone_of_ok ?_
      cases isOsAccountRemoved with
      | true => rfl
      | false =>
          obtain ⟨store, saved⟩ := d
          obtain rfl : saved = none := hd
          exact congrArg Prod.fst (perform_onPackageRemoved uid bundleName.1 appIndex store)

theorem perform_call_of_error (subspace : Bool) (op : Operation) {s : Store} {e : ErrCode}
    (h : (storage.perform (op.call subspace).program s).1 = .error e) :
    (storage.perform (op.call subspace).program s).2 = s := by
  rw [perform_storage] at h ⊢
  exact undone_program subspace op rfl e h

end failures

end OsAccount.AppAccountCalls
