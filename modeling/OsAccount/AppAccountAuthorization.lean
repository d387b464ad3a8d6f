import OsAccount.AppAccountService
import OsAccount.Machine
import OsAccount.RecordFrames

namespace OsAccount.AppAccountAuthorization

open Program Std CText AppAccountInfo AuthorizedAccounts AppAccountStore RecordFrames CloneIsolation AppAccountService

/-- The records and the table name the same authorizations, and an application can
query the accounts that it may use. -/
structure Agreement (s : Store) : Prop where
  authorized : ∀ (k : String) (a : AppAccountInfo), s.accounts[k]? = some a → ∀ app,
    app ∈ a.authorizedApps ↔ a.getPrimeKey ∈ listedAccounts s.authorizedAccounts app
  stored : ∀ app k, k ∈ listedAccounts s.authorizedAccounts app → ∃ a, s.accounts[k]? = some a ∧ a.getPrimeKey = k
  nodup : ∀ app, (listedAccounts s.authorizedAccounts app).Nodup
  query : ∀ subspace visible bundleName appIndex, ∃ infos,
    (perform (getAllAccessibleAccountsFromDataStorage subspace visible bundleName appIndex) s).1 = .ok infos

abbrev anyDocument : Json → Prop := fun _ => True

abbrev anyKey : String → Prop := fun _ => True

structure Listed (s : Store) : Prop where
  table : WellFormed s.authorizedAccounts
  named : Named s.authorizedAccounts
  authorized : ∀ (k : String) (a : AppAccountInfo), s.accounts[k]? = some a → ∀ app, NoNul app →
    (app ∈ a.authorizedApps ↔ k ∈ accessibleAccounts s.authorizedAccounts app)
  stored : ∀ app, NoNul app → ∀ k ∈ accessibleAccounts s.authorizedAccounts app, k ∈ s.accounts

structure Agree (s : Store) : Prop extends Listed s where
  kept : WellKept anyDocument s

theorem Agree.toKeyed {s : Store} (h : Agree s) : Keyed s where
  key := fun k a hk => (h.kept k a hk).key.symm
  owner := fun k a hk => (h.kept k a hk).owner
  table := h.table

inductive Effect (s : Store) : Store → Prop
  | unchanged : Effect s s
  | created (a : AppAccountInfo) (howner : '#' ∉ a.owner.toList) (hnew : s.accounts[a.getPrimeKey]? = none)
      (happs : ∀ app, app ∉ a.authorizedApps) : Effect s (s.put a.getPrimeKey a)
  | updated (a stored : AppAccountInfo) (hk : s.accounts[a.getPrimeKey]? = some stored) (howner : '#' ∉ a.owner.toList)
      (happs : ∀ app, app ∈ a.authorizedApps ↔ app ∈ stored.authorizedApps) : Effect s (s.put a.getPrimeKey a)
  | enabled (a stored : AppAccountInfo) (app : String) (hk : s.accounts[a.getPrimeKey]? = some stored)
      (howner : '#' ∉ a.owner.toList) (hne : app ≠ "") (happ : NoNul app)
      (happs : ∀ app', app' ∈ a.authorizedApps ↔ app' ∈ stored.authorizedApps ∨ app' = app) :
      Effect s ((s.put a.getPrimeKey a).putTable (savedTable s.authorizedAccounts app a.getPrimeKey))
  | disabled (a stored : AppAccountInfo) (app : String) (hk : s.accounts[a.getPrimeKey]? = some stored)
      (howner : '#' ∉ a.owner.toList) (hne : app ≠ "") (happ : NoNul app)
      (happs : ∀ app', app' ∈ a.authorizedApps ↔ app' ∈ stored.authorizedApps ∧ app' ≠ app) :
      Effect s ((s.put a.getPrimeKey a).putTable (removedTable s.authorizedAccounts app a.getPrimeKey))
  | deleted (a : AppAccountInfo) (hk : s.accounts[a.getPrimeKey]? = some a) : Effect s (s.removeAccount a)
  | packageRemoved (owner : BundleName) (appIndex uid : Nat) : Effect s (removed s owner.1 appIndex uid)

section operations

variable {s : Store} {a info : AppAccountInfo} {d : Database}

theorem exec_saveAccess {stored : AppAccountInfo} (hk : d.store.accounts[info.getPrimeKey]? = some stored)
    {saveTable : AppAccountInfo → StoreProgram Ret} {f : Option Json → Json}
    (htable : ∀ d', exec succeed (saveTable info) d' =
      (.ok (), { d' with store := d'.store.putTable (f d'.store.authorizedAccounts) })) :
    exec succeed (saveAccess info saveTable) d = (.ok (), { d with
      store := (d.store.put info.getPrimeKey info.toJson).putTable (f d.store.authorizedAccounts)
      saved := none }) := by
  unfold saveAccess
  rw [exec_bind, exec_startDbTransaction]
  dsimp only
  rw [exec_bind, exec_saveAccountInfo_of_some (d := ⟨d.store, some d.store⟩) hk]
  dsimp only
  rw [exec_bind, htable]
  rfl

theorem perform_saveAccess {stored : AppAccountInfo} (hk : s.accounts[info.getPrimeKey]? = some stored)
    {saveTable : AppAccountInfo → StoreProgram Ret} {f : Option Json → Json}
    (htable : ∀ d', exec succeed (saveTable info) d' =
      (.ok (), { d' with store := d'.store.putTable (f d'.store.authorizedAccounts) })) :
    (perform (saveAccess info saveTable) s).2 =
      (s.put info.getPrimeKey info.toJson).putTable (f s.authorizedAccounts) := by
  unfold perform
  rw [exec_saveAccess (d := ⟨s, none⟩) hk htable]
  rfl

theorem effect_add (howner : '#' ∉ a.owner.toList) (hnew : s.accounts[a.getPrimeKey]? = none)
    (happs : a.authorizedApps = ∅) :
    Effect s (exec succeed (addAccountInfoIntoDataStorage a) { store := s }).2.close := by
  rw [exec_addAccountInfoIntoDataStorage hnew]
  split
  · exact .unchanged
  · exact .created a.toJson howner hnew fun app => by
      change app ∉ a.authorizedApps
      simp [happs]

theorem exec_account (caller : AppAccountCallingInfo) {name : String} {stored : AppAccountInfo}
    (h : d.store.accounts[(caller.account name).getPrimeKey]? = some stored) :
    exec succeed (getAccountInfoFromDataStorage (caller.account name)) d = (.ok stored, d) :=
  exec_getAccountInfo_newAccount h

theorem perform_get {caller : AppAccountCallingInfo} {name : String} {stored : AppAccountInfo}
    (hk : s.accounts[(caller.account name).getPrimeKey]? = some stored)
    (next : Except ErrCode AppAccountInfo → StoreProgram Ret) :
    perform (getAccountInfoFromDataStorage (caller.account name) >>= next) s = perform (next (.ok stored)) s := by
  unfold perform
  rw [exec_bind, exec_account caller (d := ⟨s, none⟩) hk]

theorem effect_get {caller : AppAccountCallingInfo} {name : String}
    {next : Except ErrCode AppAccountInfo → StoreProgram Ret}
    (hnone : s.accounts[(caller.account name).getPrimeKey]? = none →
      Effect s (perform (next (.error .getAccountInfoById)) s).2)
    (hsome : ∀ stored, s.accounts[(caller.account name).getPrimeKey]? = some stored →
      Effect s (perform (next (.ok stored)) s).2) :
    Effect s (perform (getAccountInfoFromDataStorage (caller.account name) >>= next) s).2 := by
  cases hk : s.accounts[(caller.account name).getPrimeKey]? with
  | none =>
      unfold perform
      rw [exec_bind, exec_getAccountInfo_of_none hk]
      exact hnone hk
  | some stored =>
      rw [perform_get hk]
      exact hsome stored hk

theorem effect_addAccount (caller : AppAccountCallingInfo) (name extraInfo : String) (s : Store) :
    Effect s (perform (addAccount (caller.account name) extraInfo) s).2 :=
  effect_get (fun hk => effect_add caller.bundleName.2 hk rfl) fun _ _ => .unchanged

theorem effect_createAccount (caller : AppAccountCallingInfo) (name : String)
    (customData : ExtTreeMap String String) (s : Store) :
    Effect s (perform (createAccount (caller.account name) customData) s).2 :=
  effect_get (fun hk => effect_add caller.bundleName.2 hk rfl) fun _ _ => .unchanged

theorem effect_setAccountExtraInfo (h : Keyed s) (caller : AppAccountCallingInfo) (name extraInfo : String) :
    Effect s (perform (setAccountExtraInfo (caller.account name) extraInfo) s).2 := by
  refine effect_get (fun _ => .unchanged) fun stored hk => ?_
  have hkey : s.accounts[stored.getPrimeKey]? = some stored := (h.key _ _ hk) ▸ hk
  have howner : '#' ∉ stored.owner.toList := h.owner _ _ hk
  unfold perform
  dsimp only
  rw [exec_saveAccountInfo_of_some (a := stored.setExtraInfo extraInfo) (d := ⟨s, none⟩) hkey]
  exact .updated (stored.setExtraInfo extraInfo).toJson stored hkey howner fun app => Iff.rfl

theorem effect_enableAppAccess (h : Keyed s) (caller : AppAccountCallingInfo) (name : String) {app : String}
    (hne : app ≠ "") (happ : NoNul app) (apiVersion : Nat) :
    Effect s (perform (AppAccountStore.enableAppAccess (caller.account name) app apiVersion) s).2 := by
  refine effect_get (fun _ => .unchanged) fun stored hk => ?_
  dsimp only
  cases henable : stored.enableAppAccess app apiVersion with
  | error e => exact .unchanged
  | ok info =>
      obtain ⟨hsame, howner, hmem⟩ := enableAppAccess_spec henable
      have hkey : s.accounts[info.getPrimeKey]? = some stored := by
        rw [hsame]
        exact (h.key _ _ hk) ▸ hk
      dsimp only
      rw [perform_saveAccess (f := fun t => savedTable t app info.getPrimeKey) hkey fun d' => rfl]
      refine .enabled info.toJson stored app hkey ?_ hne happ fun app' => hmem app'
      have hstored : '#' ∉ stored.owner.toList := h.owner _ _ hk
      change '#' ∉ info.owner.toList
      rw [howner]
      exact hstored

theorem mem_of_disableAppAccess {app : String} {apiVersion : Nat} (hversion : apiVersion < apiVersion9)
    (h : a.disableAppAccess app apiVersion = .ok info) : app ∈ a.authorizedApps := by
  unfold AppAccountInfo.disableAppAccess at h
  split at h
  · cases h
  · next hno =>
      by_contra hmem
      exact hno ⟨fun hin => hmem (ExtTreeSet.contains_iff_mem.mp hin), hversion⟩

theorem effect_disableAppAccess (h : Agree s) (caller : AppAccountCallingInfo) (name : String) {app : String}
    (hne : app ≠ "") (apiVersion : Nat) (happ : apiVersion < apiVersion9 ∨ NoNul app) :
    Effect s (perform (AppAccountStore.disableAppAccess (caller.account name) app apiVersion) s).2 := by
  refine effect_get (fun _ => .unchanged) fun stored hk => ?_
  dsimp only
  cases hdisable : stored.disableAppAccess app apiVersion with
  | error e => exact .unchanged
  | ok info =>
      obtain ⟨hsame, howner, hmem⟩ := disableAppAccess_spec hdisable
      have hkey : s.accounts[info.getPrimeKey]? = some stored := by
        rw [hsame]
        exact (h.toKeyed.key _ _ hk) ▸ hk
      dsimp only
      rw [perform_saveAccess (f := fun t => removedTable t app info.getPrimeKey) hkey fun d' => rfl]
      refine .disabled info.toJson stored app hkey ?_ hne ?_ fun app' => hmem app'
      swap
      · exact happ.elim
          (fun hversion => (h.kept _ _ hk).plain.authorizedApps app (mem_of_disableAppAccess hversion hdisable)) id
      have hstored : '#' ∉ stored.owner.toList := (h.kept _ _ hk).owner
      change '#' ∉ info.owner.toList
      rw [howner]
      exact hstored

theorem exec_deleteAccountInfo (hk : d.store.accounts[a.getPrimeKey]? = some a) :
    exec succeed (deleteAccountInfoFromDataStorage a) d =
      (.ok a, { d with store := d.store.delete a.getPrimeKey }) := by
  unfold deleteAccountInfoFromDataStorage
  rw [exec_bind, exec_getAccountInfo_of_some hk, fromJson_self]
  dsimp only
  rw [exec_bind, exec_removeValue]
  rfl

theorem effect_deleteAccount (h : Keyed s) (caller : AppAccountCallingInfo) (name : String) (uid : Nat) :
    Effect s (perform (deleteAccount (caller.account name) uid name) s).2 := by
  refine effect_get (fun _ => .unchanged) fun stored hk => ?_
  have hkey : s.accounts[stored.getPrimeKey]? = some stored := (h.key _ _ hk) ▸ hk
  unfold perform
  dsimp only
  unfold controlDeleteAccount
  rw [exec_bind, exec_startDbTransaction]
  dsimp only
  rw [exec_bind, exec_deleteAccountInfo (d := ⟨s, some s⟩) hkey]
  dsimp only
  rw [exec_bind, exec_bind, exec_removeAuthorizedAccounts]
  exact .deleted stored hkey

theorem effect_onPackageRemoved (isOsAccountRemoved : Bool) (uid : Nat) (bundleName : BundleName) (appIndex : Nat)
    (s : Store) : Effect s (perform (onPackageRemoved isOsAccountRemoved uid bundleName.1 appIndex) s).2 := by
  cases isOsAccountRemoved with
  | true => exact .unchanged
  | false => exact .packageRemoved bundleName appIndex uid

theorem encoded_ne_empty {subspace : Bool} {app : String} (happ : isEmptyOrOversize app bundleNameMaxSize = false)
    (appIndex : Nat) : encodeAuthorizedApp subspace app appIndex ≠ "" := by
  refine encodeAuthorizedApp_ne_empty ?_ appIndex
  rintro rfl
  cases happ

theorem noNul_encodeAuthorizedApp {app : String} (happ : NoNul app) (subspace : Bool) (appIndex : Nat) :
    NoNul (encodeAuthorizedApp subspace app appIndex) := by
  have hjoin : NoNul (app ++ hyphen ++ toString appIndex) :=
    (happ.append (by decide)).append (noNul_toString_nat appIndex)
  unfold encodeAuthorizedApp
  split
  · exact hjoin
  · split
    · exact happ
    · exact hjoin

theorem noNul_of_special {name : String} (h : containsSpecialChar name = false) : NoNul name := by
  intro hmem
  rw [containsSpecialChar, List.any_eq_false] at h
  exact h '\x00' (by simp) (decide_eq_true hmem)

end operations

section requests

/-- The requests that bring no text with a NUL into a record or to a lookup in the
table. API 7 asks for the name of the application in the record first. -/
def Harmless : Request → Prop
  | .addAccount caller _ _ => NoNul caller.bundleName.1
  | .createAccount caller name _ => NoNul caller.bundleName.1 ∧ NoNul name
  | .enableAppAccess _ _ authorizedApp _ => NoNul authorizedApp
  | .setAppAccess _ _ authorizedApp _ _ => NoNul authorizedApp
  | _ => True

instance : (r : Request) → Decidable (Harmless r)
  | .addAccount _ _ _ => inferInstanceAs (Decidable (NoNul _))
  | .createAccount _ _ _ => inferInstanceAs (Decidable (_ ∧ _))
  | .enableAppAccess _ _ _ _ => inferInstanceAs (Decidable (NoNul _))
  | .setAppAccess _ _ _ _ _ => inferInstanceAs (Decidable (NoNul _))
  | .deleteAccount _ _ => .isTrue trivial
  | .setAccountExtraInfo _ _ _ => .isTrue trivial
  | .disableAppAccess _ _ _ _ => .isTrue trivial
  | .onPackageRemoved _ _ _ _ => .isTrue trivial

def Leaves (s : Store) (p : StoreProgram Ret) : Prop :=
  Effect s (performWritten p s).2 ∧ WellKept anyDocument (performWritten p s).2

variable {s : Store} {p : StoreProgram Ret}

theorem leaves_of_keeps (h : Agree s) (hp : KeepsRet anyDocument anyKey p) (heffect : Effect s (perform p s).2) :
    Leaves s p := by
  obtain ⟨hsame, hkept⟩ := performWritten_eq hp h.kept
  rw [Leaves, hsame]
  exact ⟨heffect, hkept⟩

theorem leaves_refuse (h : Agree s) (r : Ret) : Leaves s (pure r) := ⟨.unchanged, h.kept⟩

theorem leaves_guard (h : Agree s) {c : Bool} (hp : c = false → Leaves s p) : Leaves s (if c then refuse else p) := by
  cases c with
  | true => exact leaves_refuse h _
  | false => exact hp rfl

theorem leaves_addAccount (h : Agree s) {caller : AppAccountCallingInfo} (hbundle : NoNul caller.bundleName.1)
    {name : String} (hname : NoNul name) (extraInfo : String) :
      Leaves s (addAccount (caller.account name) extraInfo) := by
  have hcut : performWritten (addAccount (caller.account name) extraInfo) s =
      performWritten (addAccount (caller.account name) (cStr extraInfo)) s := by
    unfold performWritten
    rw [exec_addAccount_cStr]
  have hplain := plain_newAccount hbundle hname caller.appIndex
  rw [Leaves, hcut]
  refine leaves_of_keeps h (keeps_add (b := (caller.account name).setExtraInfo (cStr extraInfo))
    (reads_newAccount _ _ _) trivial ?_ _ rfl) (effect_addAccount caller name _ s)
  exact ⟨rfl, caller.bundleName.2, fun _ _ => trivial, hplain.owner, hplain.name, noNul_cStr extraInfo,
    hplain.authorizedApps, hplain.oauthTokens⟩

theorem keeps_createAccount {caller : AppAccountCallingInfo} (hbundle : NoNul caller.bundleName.1) {name : String}
    (hname : NoNul name) (customData : ExtTreeMap String String) :
    KeepsRet anyDocument anyKey (createAccount (caller.account name) customData) := by
  have hplain := plain_newAccount hbundle hname caller.appIndex
  refine keeps_add (b := { caller.account name with associatedData := some (createJsonFromMap customData) })
    (reads_newAccount _ _ _) trivial ?_ _ rfl
  exact ⟨rfl, caller.bundleName.2, fun _ _ => trivial, hplain.owner, hplain.name, hplain.extraInfo,
    hplain.authorizedApps, hplain.oauthTokens⟩

theorem leaves_createAccount (h : Agree s) {caller : AppAccountCallingInfo} (hbundle : NoNul caller.bundleName.1)
    {name : String} (hname : NoNul name) (customData : ExtTreeMap String String) :
    Leaves s (createAccount (caller.account name) customData) :=
  leaves_of_keeps h (keeps_createAccount hbundle hname customData) (effect_createAccount caller name customData s)

theorem leaves_setAccountExtraInfo (h : Agree s) (caller : AppAccountCallingInfo) (name extraInfo : String) :
    Leaves s (setAccountExtraInfo (caller.account name) extraInfo) := by
  have hcut : performWritten (setAccountExtraInfo (caller.account name) extraInfo) s =
      performWritten (setAccountExtraInfo (caller.account name) (cStr extraInfo)) s := by
    unfold performWritten
    rw [exec_setAccountExtraInfo_cStr]
  rw [Leaves, hcut]
  refine leaves_of_keeps h (keeps_modify (fun info => .ok (info.setExtraInfo (cStr extraInfo))) id
    (reads_newAccount _ _ _) (fun info b hinfo hb => ?_) (fun b hb => keeps_saveKept trivial hb) _ rfl)
    (effect_setAccountExtraInfo h.toKeyed caller name _)
  obtain rfl := Except.ok.inj hb
  exact ⟨hinfo.key, hinfo.owner, hinfo.document, hinfo.plain.owner, hinfo.plain.name, noNul_cStr extraInfo,
    hinfo.plain.authorizedApps, hinfo.plain.oauthTokens⟩

theorem leaves_deleteAccount (h : Agree s) (caller : AppAccountCallingInfo) (name : String) (uid : Nat) :
    Leaves s (deleteAccount (caller.account name) uid name) :=
  leaves_of_keeps h (keeps_deleteAccount (reads_newAccount _ _ _) trivial uid name)
    (effect_deleteAccount h.toKeyed caller name uid)

theorem leaves_enableAppAccess (h : Agree s) (caller : AppAccountCallingInfo) (name : String) {app : String}
    (hne : app ≠ "") (happ : NoNul app) (apiVersion : Nat) :
    Leaves s (AppAccountStore.enableAppAccess (caller.account name) app apiVersion) :=
  leaves_of_keeps h (keeps_enableAppAccess (reads_newAccount _ _ _) trivial happ apiVersion)
    (effect_enableAppAccess h.toKeyed caller name hne happ apiVersion)

theorem leaves_disableAppAccess (h : Agree s) (caller : AppAccountCallingInfo) (name : String) {app : String}
    (hne : app ≠ "") (apiVersion : Nat) (happ : apiVersion < apiVersion9 ∨ NoNul app) :
    Leaves s (AppAccountStore.disableAppAccess (caller.account name) app apiVersion) :=
  leaves_of_keeps h (keeps_disableAppAccess (reads_newAccount _ _ _) trivial app apiVersion)
    (effect_disableAppAccess h caller name hne apiVersion happ)

theorem keeps_packageRemoved (isOsAccountRemoved : Bool) (uid : Nat) (bundleName : BundleName) (appIndex : Nat) :
    KeepsRet anyDocument anyKey (onPackageRemoved isOsAccountRemoved uid bundleName.1 appIndex) := by
  refine (keeps_onPackageRemoved isOsAccountRemoved uid bundleName.2 appIndex).mono fun e he => ?_
  cases e with
  | put key info => exact ⟨trivial, he.2⟩
  | _ => trivial

theorem leaves_onPackageRemoved (h : Agree s) (isOsAccountRemoved : Bool) (uid : Nat) (bundleName : BundleName)
    (appIndex : Nat) : Leaves s (onPackageRemoved isOsAccountRemoved uid bundleName.1 appIndex) :=
  leaves_of_keeps h (keeps_packageRemoved isOsAccountRemoved uid bundleName appIndex)
    (effect_onPackageRemoved isOsAccountRemoved uid bundleName appIndex s)

theorem leaves_serve (h : Agree s) (subspace : Bool) {r : Request} (hr : Harmless r) : Leaves s (serve subspace r) := by
  cases r with
  | addAccount caller name extraInfo =>
      refine leaves_guard h fun hc => ?_
      rw [Bool.or_eq_false_iff, Bool.or_eq_false_iff] at hc
      exact leaves_addAccount h hr (noNul_of_special hc.1.2) extraInfo
  | createAccount caller name customData => exact leaves_guard h fun _ => leaves_createAccount h hr.1 hr.2 customData
  | deleteAccount caller name => exact leaves_guard h fun _ => leaves_deleteAccount h caller name caller.callingUid
  | setAccountExtraInfo caller name extraInfo =>
      exact leaves_guard h fun _ => leaves_setAccountExtraInfo h caller name extraInfo
  | enableAppAccess caller name authorizedApp authorizedAppIndex =>
      refine leaves_guard h fun hc => ?_
      rw [Bool.or_eq_false_iff] at hc
      split
      · exact leaves_refuse h _
      · exact leaves_enableAppAccess h caller name (encoded_ne_empty hc.2 authorizedAppIndex)
          (noNul_encodeAuthorizedApp hr subspace authorizedAppIndex) apiVersion7
  | disableAppAccess caller name authorizedApp authorizedAppIndex =>
      refine leaves_guard h fun hc => ?_
      rw [Bool.or_eq_false_iff] at hc
      split
      · exact leaves_refuse h _
      · exact leaves_disableAppAccess h caller name (encoded_ne_empty hc.2 authorizedAppIndex) apiVersion7
          (.inl (by decide))
  | setAppAccess caller name authorizedApp authorizedAppIndex isAccessible =>
      refine leaves_guard h fun hc => ?_
      rw [Bool.or_eq_false_iff] at hc
      have hne : encodeAuthorizedApp subspace authorizedApp authorizedAppIndex ≠ "" :=
        encoded_ne_empty hc.2 authorizedAppIndex
      have hplain := noNul_encodeAuthorizedApp hr subspace authorizedAppIndex
      split
      · cases isAccessible <;> exact leaves_refuse h _
      · cases isAccessible with
        | true => exact leaves_enableAppAccess h caller name hne hplain apiVersion9
        | false => exact leaves_disableAppAccess h caller name hne apiVersion9 (.inr hplain)
  | onPackageRemoved isOsAccountRemoved uid bundleName appIndex =>
      exact leaves_onPackageRemoved h isOsAccountRemoved uid bundleName appIndex

end requests

section agreement

variable {s : Store} {a stored : AppAccountInfo} {app : String}

theorem listed_put (h : Agree s) {t : Option Json} (htable : WellFormed t) (hnamed : Named t)
    (hlists : ∀ k app, NoNul app → (k ∈ accessibleAccounts t app ↔
      if k = a.getPrimeKey then app ∈ a.authorizedApps else k ∈ accessibleAccounts s.authorizedAccounts app)) :
    Listed { s.put a.getPrimeKey a with authorizedAccounts := t } where
  table := htable
  named := hnamed
  authorized := by
    intro k b hk app happ
    rw [hlists k app happ]
    rw [Store.getElem?_put] at hk
    split at hk
    · rename_i hkey
      rw [if_pos hkey.symm, Option.some.inj hk]
    · rename_i hkey
      rw [if_neg (Ne.symm hkey)]
      exact h.authorized k b hk app happ
  stored := by
    intro app happ k hmem
    refine OrderedMap.mem_insert_iff.2 ?_
    rw [hlists k app happ] at hmem
    split at hmem
    · rename_i hkey
      exact .inl hkey
    · exact .inr (h.stored app happ k hmem)

theorem listed_created (h : Agree s) (hnew : s.accounts[a.getPrimeKey]? = none)
    (happs : ∀ app, app ∉ a.authorizedApps) : Listed (s.put a.getPrimeKey a) := by
  refine listed_put h h.table h.named fun k app happ => ?_
  split
  · rename_i hk
    refine iff_of_false (fun hmem => ?_) (happs app)
    have hstored := h.stored app happ k hmem
    rw [hk, ← ExtTreeMap.isSome_getElem?_iff_mem, hnew] at hstored
    cases hstored
  · exact Iff.rfl

theorem listed_updated (h : Agree s) (hk : s.accounts[a.getPrimeKey]? = some stored)
    (happs : ∀ app, app ∈ a.authorizedApps ↔ app ∈ stored.authorizedApps) : Listed (s.put a.getPrimeKey a) := by
  refine listed_put h h.table h.named fun k app happ => ?_
  split
  · rename_i hkey
    rw [happs, h.authorized _ _ hk app happ, hkey]
  · exact Iff.rfl

theorem listed_enabled (h : Agree s) (hk : s.accounts[a.getPrimeKey]? = some stored) (hne : app ≠ "") (happ : NoNul app)
    (happs : ∀ app', app' ∈ a.authorizedApps ↔ app' ∈ stored.authorizedApps ∨ app' = app) :
    Listed ((s.put a.getPrimeKey a).putTable (savedTable s.authorizedAccounts app a.getPrimeKey)) := by
  refine listed_put h (wellFormed_savedTable h.table app _) (named_add h.named happ _) fun k app' happ' => ?_
  rw [mem_savedTable h.table, JsonUtils.sameKey_iff happ happ', and_iff_left hne, eq_comm (a := app)]
  split
  · rename_i hkey
    rw [happs, h.authorized _ _ hk app' happ', hkey]
    simp
  · rename_i hkey
    simp [hkey]

theorem listed_disabled (h : Agree s) (hk : s.accounts[a.getPrimeKey]? = some stored) (hne : app ≠ "")
    (happ : NoNul app) (happs : ∀ app', app' ∈ a.authorizedApps ↔ app' ∈ stored.authorizedApps ∧ app' ≠ app) :
    Listed ((s.put a.getPrimeKey a).putTable (removedTable s.authorizedAccounts app a.getPrimeKey)) := by
  refine listed_put h (wellFormed_removedTable h.table app _) (named_add h.named happ _) fun k app' happ' => ?_
  rw [mem_removedTable h.table, JsonUtils.sameKey_iff happ happ', and_iff_left hne, eq_comm (a := app)]
  split
  · rename_i hkey
    rw [happs, h.authorized _ _ hk app' happ', hkey]
    simp
  · rename_i hkey
    simp [hkey]

theorem ne_empty_of_accessible {t : Option Json} {k : String} (hmem : k ∈ accessibleAccounts t app) : app ≠ "" := by
  rintro rfl
  rw [accessibleAccounts_empty_key] at hmem
  cases hmem

theorem listed_deleted (h : Agree s) (hk : s.accounts[a.getPrimeKey]? = some a) : Listed (s.removeAccount a) := by
  obtain ⟨hwell, hmem⟩ := removedFrom_spec h.table a.getPrimeKey a.authorizedApps.toList
  have hplain : ∀ app ∈ a.authorizedApps.toList, NoNul app :=
    fun app happ => (h.kept _ _ hk).plain.authorizedApps app (ExtTreeSet.mem_toList.mp happ)
  have hkept : ∀ {k : String} {b : AppAccountInfo}, (s.removeAccount a).accounts[k]? = some b →
      k ≠ a.getPrimeKey ∧ s.accounts[k]? = some b := by
    intro k b hb
    change (s.accounts.erase a.getPrimeKey)[k]? = some b at hb
    rw [OrderedMap.getElem?_erase_eq] at hb
    split at hb
    · cases hb
    · rename_i hne
      exact ⟨Ne.symm hne, hb⟩
  have hlists : ∀ k app, NoNul app → (k ∈ accessibleAccounts (s.removeAccount a).authorizedAccounts app ↔
      k ∈ accessibleAccounts s.authorizedAccounts app ∧ k ≠ a.getPrimeKey) := by
    intro k app happ
    refine (hmem k app).trans (and_congr_right fun hin => not_congr ?_)
    refine and_iff_left_of_imp fun he => ⟨app, ?_, JsonUtils.sameKey_self (ne_empty_of_accessible hin)⟩
    rw [ExtTreeSet.mem_toList, h.authorized _ _ hk app happ, ← he]
    exact hin
  exact
    { table := hwell
      named := named_removedFrom h.named _ hplain
      authorized := fun k b hb app happ => by
        rw [hlists k app happ, h.authorized k b (hkept hb).2 app happ]
        exact (and_iff_left (hkept hb).1).symm
      stored := fun app happ k hin => by
        rw [hlists k app happ] at hin
        exact OrderedMap.mem_erase_iff.2 ⟨hin.2, h.stored app happ k hin.1⟩ }

theorem mem_accessible_removed (h : Agree s) (owner : BundleName) (appIndex uid : Nat) {k : String}
    {b : AppAccountInfo} (hb : s.accounts[k]? = some b) (happ : NoNul app) :
    k ∈ accessibleAccounts (removed s owner.1 appIndex uid).authorizedAccounts app ↔
      k ∈ accessibleAccounts s.authorizedAccounts app ∧ ¬Owns owner.1 appIndex b := by
  by_cases howns : Owns owner.1 appIndex b
  · refine iff_of_false (fun hin => ?_) fun hand => hand.2 howns
    have hmem : app ∈ b.authorizedApps := by
      rw [removed_eq, (table_removeAll h.table).2] at hin
      exact (h.authorized k b hb app happ).2 hin.1
    exact forgotten_removed h.toKeyed owner.2 uid hb howns hmem hin
  · rw [and_iff_left howns]
    exact kept_removed h.toKeyed owner.2 uid
      (fun name he => howns (owns_of_removedKey h.toKeyed owner.2 hb he)) app

theorem named_removeAll (hnamed : Named s.authorizedAccounts) (appIndex : Nat)
    {accounts : List (String × AppAccountInfo)} (hplain : ∀ e ∈ accounts, e.2.Plain) :
    Named (removeAll appIndex accounts s).authorizedAccounts := by
  induction accounts generalizing s with
  | nil => exact hnamed
  | cons e accounts ih =>
      refine ih (s := s.removeAccount (e.2.setAppIndex appIndex)) ?_ fun e' he' =>
        hplain e' (List.mem_cons_of_mem e he')
      exact named_removedFrom hnamed _ fun app happ =>
        (hplain e List.mem_cons_self).authorizedApps app (ExtTreeSet.mem_toList.mp happ)

theorem listed_removed (h : Agree s) (owner : BundleName) (appIndex uid : Nat) :
    Listed (removed s owner.1 appIndex uid) := by
  have hkept : ∀ {k : String} {b : AppAccountInfo}, (removed s owner.1 appIndex uid).accounts[k]? = some b ↔
      s.accounts[k]? = some b ∧ ¬Owns owner.1 appIndex b := by
    intro k b
    rw [accounts_removed h.toKeyed owner.2]
    simp [Option.filter_eq_some_iff]
  refine
    { table := ?_
      named := ?_
      authorized := fun k b hb app happ => ?_
      stored := fun app happ k hin => ?_ }
  · rw [removed_eq]
    exact (table_removeAll h.table).1
  · rw [removed_eq]
    exact named_removeAll h.named appIndex fun e he => (h.kept _ _ (mem_getEntries.mp he).1).plain
  · obtain ⟨hk, howns⟩ := hkept.1 hb
    rw [mem_accessible_removed h owner appIndex uid hk happ, h.authorized k b hk app happ]
    exact (and_iff_left howns).symm
  · have hstored : k ∈ s.accounts := by
      rw [removed_eq, (table_removeAll h.table).2] at hin
      exact h.stored app happ k hin.1
    obtain ⟨b, hb⟩ : ∃ b, s.accounts[k]? = some b := ⟨_, ExtTreeMap.getElem?_eq_some_getElem hstored⟩
    rw [mem_accessible_removed h owner appIndex uid hb happ] at hin
    rw [← ExtTreeMap.isSome_getElem?_iff_mem, hkept.2 ⟨hb, hin.2⟩]
    rfl

theorem listed_of_effect {s' : Store} (h : Agree s) (he : Effect s s') : Listed s' := by
  cases he with
  | unchanged => exact h.toListed
  | created a howner hnew happs => exact listed_created h hnew happs
  | updated a stored hk howner happs => exact listed_updated h hk happs
  | enabled a stored app hk howner hne happ happs => exact listed_enabled h hk hne happ happs
  | disabled a stored app hk howner hne happ happs => exact listed_disabled h hk hne happ happs
  | deleted a hk => exact listed_deleted h hk
  | packageRemoved owner appIndex uid => exact listed_removed h owner appIndex uid

theorem Leaves.agree {p : StoreProgram Ret} (hp : Leaves s p) (h : Agree s) : Agree (performWritten p s).2 :=
  ⟨listed_of_effect h hp.1, hp.2⟩

end agreement

section runs

def step (subspace : Bool) (s : Store) (r : Request) : Store := (performWritten (serve subspace r) s).2

variable {s : Store}

theorem agree_step (subspace : Bool) (h : Agree s) {r : Request} (hr : Harmless r) : Agree (step subspace s r) :=
  (leaves_serve h subspace hr).agree h

theorem agree_run (subspace : Bool) (h : Agree s) {rs : List Request} (hrs : ∀ r ∈ rs, Harmless r) :
    Agree (Machine.run (step subspace) s rs) := by
  induction rs generalizing s with
  | nil => exact h
  | cons r rs ih =>
      exact ih (agree_step subspace h (hrs r List.mem_cons_self)) fun r' hr' => hrs r' (List.mem_cons_of_mem r hr')

theorem exec_filterAccessibleAccounts (visible : AppAccountInfo → Bool) {d : Database} {accounts : List String}
    (h : ∀ k ∈ accounts, k ∈ d.store.accounts) :
    ∃ infos, exec succeed (filterAccessibleAccounts visible accounts) d = (.ok infos, d) := by
  induction accounts with
  | nil => exact ⟨[], rfl⟩
  | cons k accounts ih =>
      obtain ⟨infos, hinfos⟩ := ih fun j hj => h j (List.mem_cons_of_mem k hj)
      obtain ⟨info, hk⟩ : ∃ info, d.store.accounts[k]? = some info :=
        ⟨_, ExtTreeMap.getElem?_eq_some_getElem (h k List.mem_cons_self)⟩
      refine ⟨if visible info then info :: infos else infos, ?_⟩
      rw [filterAccessibleAccounts, exec_bind, exec_get, hk]
      dsimp only
      rw [exec_bind, hinfos]
      rfl

theorem stored_of_accessible (h : Agree s) {app k : String} (hmem : k ∈ accessibleAccounts s.authorizedAccounts app) :
    k ∈ s.accounts := by
  rw [h.named.accessibleAccounts_cStr] at hmem
  exact h.stored _ (noNul_cStr app) k hmem

theorem accessible_query_succeeds (h : Agree s) (subspace : Bool) (visible : AppAccountInfo → Bool)
    (bundleName : String) (appIndex : Nat) : ∃ infos,
      (perform (getAllAccessibleAccountsFromDataStorage subspace visible bundleName appIndex) s).1 = .ok infos := by
  have hstored : ∀ k ∈ accessibleAccounts s.authorizedAccounts (encodeAuthorizedApp subspace bundleName appIndex),
      k ∈ s.accounts := fun k hk => stored_of_accessible h hk
  obtain ⟨infos, hinfos⟩ := exec_filterAccessibleAccounts visible (d := ⟨s, none⟩) hstored
  refine ⟨infos ++ (s.getEntries (ownerKey bundleName appIndex)).map Prod.snd, ?_⟩
  unfold perform getAllAccessibleAccountsFromDataStorage
  rw [exec_bind]
  change (exec succeed (filterAccessibleAccounts visible
    (accessibleAccounts s.authorizedAccounts (encodeAuthorizedApp subspace bundleName appIndex)) >>= _) ⟨s, none⟩).1 = _
  rw [exec_bind, hinfos]
  rfl

theorem Agree.agreement (h : Agree s) : Agreement s where
  authorized := by
    intro k a hk app
    rw [(h.kept k a hk).key]
    by_cases happ : NoNul app
    · rw [listedAccounts_eq happ]
      exact h.authorized k a hk app happ
    · rw [h.named.listedAccounts_of_nul happ]
      exact iff_of_false (fun hmem => happ ((h.kept k a hk).plain.authorizedApps app hmem)) List.not_mem_nil
  stored := by
    intro app k hmem
    by_cases happ : NoNul app
    · rw [listedAccounts_eq happ] at hmem
      have hstored := h.stored app happ k hmem
      exact ⟨_, ExtTreeMap.getElem?_eq_some_getElem hstored,
        (h.kept k _ (ExtTreeMap.getElem?_eq_some_getElem hstored)).key⟩
    · rw [h.named.listedAccounts_of_nul happ] at hmem
      cases hmem
  nodup := by
    intro app
    by_cases happ : NoNul app
    · rw [listedAccounts_eq happ]
      exact h.table.nodup app
    · rw [h.named.listedAccounts_of_nul happ]
      exact List.nodup_nil
  query := accessible_query_succeeds h

theorem authorizations_agree (subspace : Bool) (h : Agree s) {rs : List Request} (hrs : ∀ r ∈ rs, Harmless r) :
    Agreement (Machine.run (step subspace) s rs) := (agree_run subspace h hrs).agreement

theorem agree_empty : Agree {} where
  table := wellFormed_none
  named := nofun
  authorized := fun k a hk => by simp at hk
  stored := fun app happ k hin => by cases hin
  kept := fun k a hk => by simp at hk

section cut

variable {caller : AppAccountCallingInfo} {name app : String} {a : AppAccountInfo}

theorem performWritten_enableAppAccess (h : Agree s) (ha : s.accounts[(caller.account name).getPrimeKey]? = some a)
    (happ : NoNul app) (hsize : a.authorizedApps.size < maxAppAuthListSize) :
    (performWritten (AppAccountStore.enableAppAccess (caller.account name) app apiVersion9) s).2 =
      (s.put a.getPrimeKey { a with authorizedApps := a.authorizedApps.insert app }.toJson).putTable
        (savedTable s.authorizedAccounts app a.getPrimeKey) := by
  have henable : a.enableAppAccess app apiVersion9 = .ok { a with authorizedApps := a.authorizedApps.insert app } := by
    have hinsert : (a.authorizedApps.insert app).size ≤ a.authorizedApps.size + 1 := ExtTreeSet.size_insert_le
    unfold AppAccountInfo.enableAppAccess
    rw [if_neg fun hand => absurd hand.2 (by decide), if_neg (by omega)]
  have hkey : s.accounts[({ a with authorizedApps := a.authorizedApps.insert app } : AppAccountInfo).getPrimeKey]? =
      some a := h.toKeyed.key _ _ ha ▸ ha
  rw [(performWritten_eq (keeps_enableAppAccess (a := caller.account name) (D := anyDocument) (K := anyKey)
    (reads_newAccount _ _ _) trivial happ apiVersion9) h.kept).1]
  refine (congrArg Prod.snd (perform_get ha _)).trans ?_
  dsimp only
  rw [henable]
  exact perform_saveAccess (f := fun t => savedTable t app a.getPrimeKey) hkey fun d' => rfl

theorem performWritten_disableAppAccess (h : Agree s) (ha : s.accounts[(caller.account name).getPrimeKey]? = some a)
    (app : String) : (performWritten (AppAccountStore.disableAppAccess (caller.account name) app apiVersion9) s).2 =
      (s.put a.getPrimeKey { a with authorizedApps := a.authorizedApps.erase app }.toJson).putTable
        (removedTable s.authorizedAccounts app a.getPrimeKey) := by
  have hdisable : a.disableAppAccess app apiVersion9 = .ok { a with authorizedApps := a.authorizedApps.erase app } :=
    if_neg fun hand => absurd hand.2 (by decide)
  have hkey : s.accounts[({ a with authorizedApps := a.authorizedApps.erase app } : AppAccountInfo).getPrimeKey]? =
      some a := h.toKeyed.key _ _ ha ▸ ha
  rw [(performWritten_eq (keeps_disableAppAccess (a := caller.account name) (D := anyDocument) (K := anyKey)
    (reads_newAccount _ _ _) trivial app apiVersion9) h.kept).1]
  refine (congrArg Prod.snd (perform_get ha _)).trans ?_
  dsimp only
  rw [hdisable]
  exact perform_saveAccess (f := fun t => removedTable t app a.getPrimeKey) hkey fun d' => rfl

theorem performWritten_createAccount (h : Agree s) (hbundle : NoNul caller.bundleName.1) (hname : NoNul name)
    (customData : ExtTreeMap String String) (hnew : s.accounts[(caller.account name).getPrimeKey]? = none)
    (hfree : (s.getEntries (ownerKey caller.bundleName.1 caller.appIndex)).length < accountMaxSize) :
    (performWritten (createAccount (caller.account name) customData) s).2 = s.put (caller.account name).getPrimeKey
      { caller.account name with associatedData := some (createJsonFromMap customData) }.toJson := by
  rw [(performWritten_eq (keeps_createAccount hbundle hname customData) h.kept).1]
  unfold perform createAccount
  rw [exec_bind, exec_getAccountInfo_of_none hnew]
  dsimp only
  rw [exec_addAccountInfoIntoDataStorage hnew]
  exact congrArg (fun r : Ret × Database => r.2.close) (if_neg (Nat.not_le.mpr hfree))

/-- A name that differs from an authorized one behind a NUL takes the account off the
list of the authorized one, and leaves the record as it is. -/
theorem not_agreement_of_cut (h : Agree s) (ha : s.accounts[(caller.account name).getPrimeKey]? = some a)
    {app' : String} (hmem : app ∈ a.authorizedApps) (hsame : JsonUtils.SameKey app' app) (hne : app' ≠ app) :
    ¬Agreement (performWritten (AppAccountStore.disableAppAccess (caller.account name) app' apiVersion9) s).2 := by
  intro hagree
  rw [performWritten_disableAppAccess h ha] at hagree
  have hrecord := (Store.getElem?_put s a.getPrimeKey a.getPrimeKey
    { a with authorizedApps := a.authorizedApps.erase app' }.toJson).trans (if_pos rfl)
  have hleft : app ∈ ({ a with authorizedApps := a.authorizedApps.erase app' } : AppAccountInfo).authorizedApps :=
    ExtTreeSet.mem_erase.mpr ⟨fun heq => hne (LawfulEqCmp.compare_eq_iff_eq.mp heq), hmem⟩
  have hlisted := (hagree.authorized _ _ hrecord app).mp hleft
  rw [listedAccounts_eq ((h.kept _ _ ha).plain.authorizedApps app hmem)] at hlisted
  exact ((mem_removedTable h.table).mp hlisted).2 ⟨rfl, hsame⟩

end cut

def mail : BundleName := ⟨"com.example.mail", by decide⟩

def alice : AppAccountCallingInfo := ⟨20010001, mail, 0⟩

def shared : List Request := [.createAccount alice "alice" ∅, .setAppAccess alice "alice" "com.example.photos" 0 true]

theorem harmless_shared : ∀ r ∈ shared, Harmless r := by
  unfold shared
  decide

theorem authorizations_agree_shared :
    Agreement (Machine.run (step false) {} (shared ++ [.addAccount alice "bob" "work",
      .enableAppAccess alice "bob" "com.example.photos" 0, .setAppAccess alice "alice" "com.example.photos" 0 false])) :=
  authorizations_agree false agree_empty (by decide)

theorem found_shared : ∃ a : AppAccountInfo,
    (Machine.run (step false) {} shared).accounts[(alice.account "alice").getPrimeKey]? = some a ∧
      "com.example.photos" ∈ a.authorizedApps := by
  have hcreated : step false {} (.createAccount alice "alice" ∅) = Store.put {} (alice.account "alice").getPrimeKey
      { alice.account "alice" with associatedData := some (createJsonFromMap ∅) }.toJson :=
    performWritten_createAccount agree_empty (by decide) (by decide) ∅ (by simp) (by decide)
  have hagree : Agree (step false {} (.createAccount alice "alice" ∅)) := agree_step false agree_empty (by decide)
  have hfound : (step false {} (.createAccount alice "alice" ∅)).accounts[(alice.account "alice").getPrimeKey]? =
      some { alice.account "alice" with associatedData := some (createJsonFromMap ∅) }.toJson := by
    rw [hcreated, Store.getElem?_put, if_pos rfl]
  have hshared := performWritten_enableAppAccess hagree hfound (by decide : CText.NoNul "com.example.photos") (by decide)
  refine ⟨{ alice.account "alice" with
    associatedData := some (createJsonFromMap ∅)
    authorizedApps := ExtTreeSet.insert ∅ "com.example.photos" }.toJson, ?_, ExtTreeSet.mem_insert_self⟩
  refine (congrArg (fun s' : Store => s'.accounts[(alice.account "alice").getPrimeKey]?) hshared).trans ?_
  exact (Store.getElem?_put _ _ _ _).trans (if_pos rfl)

theorem not_agreement_shared : ¬Agreement (Machine.run (step false) {}
    (shared ++ [.setAppAccess alice "alice" "com.example.photos\x00" 0 false])) := by
  obtain ⟨a, ha, hmem⟩ := found_shared
  rw [Machine.run_append]
  exact not_agreement_of_cut (agree_run false agree_empty harmless_shared) ha hmem (by decide) (by decide)

end runs

end OsAccount.AppAccountAuthorization
