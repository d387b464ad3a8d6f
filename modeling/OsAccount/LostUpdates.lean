import OsAccount.AppAccountCalls

namespace OsAccount.LostUpdates

open OrderedMap Std AppAccountInfo AuthorizedAccounts AppAccountStore AppAccountService OAuthTokens
open TransactionPrograms Interleavings AppAccountCalls

section edits

variable (subspace : Bool)

def edit : Operation → Option (AppAccountInfo × (AppAccountInfo → Except ErrCode AppAccountInfo))
  | .setAccountExtraInfo caller name extraInfo => some (caller.account name, fun a => .ok (a.setExtraInfo extraInfo))
  | .enableAppAccess caller name authorizedApp apiVersion =>
      some (caller.account name, fun a => a.enableAppAccess authorizedApp apiVersion)
  | .disableAppAccess caller name authorizedApp apiVersion =>
      some (caller.account name, fun a => a.disableAppAccess authorizedApp apiVersion)
  | .setAssociatedData caller name key value =>
      some (caller.account name, fun a => AssociatedDataCache.setAssociatedData a key value)
  | .setOAuthToken request resolvedAppIndex =>
      some (newAccount request.callerBundleName resolvedAppIndex request.name,
        fun a => a.setOAuthToken request.authType request.token)
  | .deleteOAuthToken request resolvedAppIndex apiVersion =>
      some (newAccount request.owner resolvedAppIndex request.name, deletedToken request apiVersion)
  | .setOAuthTokenVisibility request targetAppIndex apiVersion =>
      some (newAccount request.callerBundleName request.appIndex request.name, fun a =>
        a.setOAuthTokenVisibility request.authType (encodeAuthorizedApp subspace request.bundleName targetAppIndex)
          request.isTokenVisible apiVersion)
  | .deleteAccount _ _ => none
  | .onPackageRemoved _ _ _ _ => none

def Deletes (key : String) : Operation → Prop
  | .deleteAccount caller name => key = (caller.account name).getPrimeKey
  | .onPackageRemoved isOsAccountRemoved _ bundleName appIndex =>
      isOsAccountRemoved = false ∧ ∃ name, key = (newAccount bundleName.1 appIndex name).getPrimeKey
  | _ => False

def requestKey (request : AuthenticatorSessionRequest) : String :=
  (newAccount request.callerBundleName request.appIndex request.name).getPrimeKey

def Enables (key app : String) : Operation → Prop
  | .enableAppAccess caller name authorizedApp _ => (caller.account name).getPrimeKey = key ∧ authorizedApp = app
  | _ => False

def Shows (key type app : String) : Operation → Prop
  | .setOAuthTokenVisibility request targetAppIndex _ =>
      request.isTokenVisible = true ∧ requestKey request = key ∧ request.authType = type ∧
        encodeAuthorizedApp subspace request.bundleName targetAppIndex = app
  | _ => False

def Idles : Operation → Prop
  | .deleteOAuthToken _ _ _ => True
  | .onPackageRemoved isOsAccountRemoved _ _ _ => isOsAccountRemoved = true
  | _ => False

inductive Change (s : Store) (op : Operation) : Ret → Store → Prop
  | failed (e : ErrCode) : Change s op (.error e) s
  | idle (hidles : Idles op) : Change s op (.ok ()) s
  | edited (account stored info : AppAccountInfo) (f : AppAccountInfo → Except ErrCode AppAccountInfo) (s' : Store)
      (hedit : edit subspace op = some (account, f)) (hk : s.accounts[account.getPrimeKey]? = some stored)
      (hinfo : f stored = .ok info) (hkey : info.getPrimeKey = stored.getPrimeKey) (howner : info.owner = stored.owner)
      (haccounts : s'.accounts = s.accounts.insert info.getPrimeKey info.toJson) : Change s op (.ok ()) s'
  | removed (s' : Store) (hedit : edit subspace op = none)
      (hkept : ∀ (k : String) a, s'.accounts[k]? = some a → s.accounts[k]? = some a)
      (hgone : ∀ k, Deletes k op → s'.accounts[k]? = none) : Change s op (.ok ()) s'

end edits

section tokens

variable {tokens : ExtTreeMap String OAuthTokenInfo} {a info : AppAccountInfo} {type app authType token : String}

def Shown (tokens : ExtTreeMap String OAuthTokenInfo) (type app : String) : Prop :=
  ∃ tokenInfo, tokens[type]? = some tokenInfo ∧ app ∈ tokenInfo.authList

def Hides (a info : AppAccountInfo) : Prop :=
  ∃ oauthTokens, info = { a with oauthTokens } ∧ ∀ type app, Shown oauthTokens type app → Shown a.oauthTokens type app

theorem hides_refl (a : AppAccountInfo) : Hides a a := ⟨a.oauthTokens, rfl, fun _ _ h => h⟩

theorem shown_insert {tokenInfo : OAuthTokenInfo} (h : Shown (tokens.insert authType tokenInfo) type app) :
    (authType = type ∧ app ∈ tokenInfo.authList) ∨ (authType ≠ type ∧ Shown tokens type app) := by
  obtain ⟨found, hfound, happ⟩ := h
  rw [getElem?_insert_eq] at hfound
  split at hfound
  · rename_i he
    rw [← Option.some.inj hfound] at happ
    exact .inl ⟨he, happ⟩
  · rename_i hne
    exact .inr ⟨hne, found, hfound, happ⟩

theorem shown_toJson (h : Shown a.toJson.oauthTokens type app) : Shown a.oauthTokens type app := by
  obtain ⟨tokenInfo, hfound, happ⟩ := h
  rw [getElem?_toJson] at hfound
  obtain ⟨old, hold, rfl⟩ := Option.map_eq_some_iff.mp hfound
  exact ⟨old, (Option.filter_eq_some_iff.mp hold).1, happ⟩

theorem hides_insert {old tokenInfo : OAuthTokenInfo} (hold : a.oauthTokens[authType]? = some old)
    (hlist : ∀ app, app ∈ tokenInfo.authList → app ∈ old.authList) :
    Hides a { a with oauthTokens := a.oauthTokens.insert authType tokenInfo } := by
  refine ⟨_, rfl, fun type app h => ?_⟩
  rcases shown_insert h with ⟨rfl, happ⟩ | ⟨-, hshown⟩
  · exact ⟨old, hold, hlist app happ⟩
  · exact hshown

theorem hides_setOAuthToken (h : a.setOAuthToken authType token = .ok info) : Hides a info := by
  rw [AppAccountInfo.setOAuthToken] at h
  split at h
  · rename_i tokenInfo hold
    obtain rfl := Except.ok.inj h
    exact hides_insert hold fun _ happ => happ
  · split at h
    · cases h
    · obtain rfl := Except.ok.inj h
      refine ⟨_, rfl, fun type app h => ?_⟩
      rcases shown_insert h with ⟨-, happ⟩ | ⟨-, hshown⟩
      · cases ExtTreeSet.not_mem_empty happ
      · exact hshown

theorem hides_deleteOAuthToken (h : a.deleteOAuthToken authType token = .ok info) : Hides a info := by
  rw [AppAccountInfo.deleteOAuthToken] at h
  split at h
  · rename_i tokenInfo hold
    split at h
    · obtain rfl := Except.ok.inj h
      exact hides_insert hold fun _ happ => happ
    · cases h
  · cases h

theorem hides_deleteAuthToken {isOwnerSelf : Bool} (h : a.deleteAuthToken authType token isOwnerSelf = .ok info) :
    Hides a info := by
  rw [AppAccountInfo.deleteAuthToken] at h
  split at h
  · cases h
  · rename_i tokenInfo hold
    split at h
    · obtain rfl := Except.ok.inj h
      exact hides_refl a
    · split at h
      · obtain rfl := Except.ok.inj h
        refine ⟨_, rfl, fun type app ⟨found, hfound, happ⟩ => ⟨found, ?_, happ⟩⟩
        rw [getElem?_erase_eq] at hfound
        split at hfound
        · cases hfound
        · exact hfound
      · obtain rfl := Except.ok.inj h
        exact hides_insert hold fun _ happ => happ

variable {apiVersion : Nat}

theorem hides_deletedToken {request : AuthenticatorSessionRequest}
    (h : deletedToken request apiVersion a = .ok info) : Hides a info := by
  rw [deletedToken] at h
  split at h
  · exact hides_deleteAuthToken h
  · exact hides_deleteOAuthToken h

/-- A call on the visibility of a token shows it to the application that it names, or to nobody. -/
theorem shown_setOAuthTokenVisibility {bundleName : String} {isVisible : Bool}
    (h : a.setOAuthTokenVisibility authType bundleName isVisible apiVersion = .ok info) :
    ∃ oauthTokens, info = { a with oauthTokens } ∧ ∀ type app, Shown oauthTokens type app →
      Shown a.oauthTokens type app ∨ (isVisible = true ∧ authType = type ∧ bundleName = app) := by
  have hunchanged : ∃ oauthTokens, a = { a with oauthTokens } ∧ ∀ type app, Shown oauthTokens type app →
      Shown a.oauthTokens type app ∨ (isVisible = true ∧ authType = type ∧ bundleName = app) :=
    ⟨a.oauthTokens, rfl, fun _ _ h => .inl h⟩
  rw [AppAccountInfo.setOAuthTokenVisibility] at h
  split at h
  · exact Except.ok.inj h ▸ hunchanged
  split at h
  · split at h
    · cases h
    split at h
    · exact Except.ok.inj h ▸ hunchanged
    · rename_i hvisible
      split at h
      · cases h
      · obtain rfl := Except.ok.inj h
        refine ⟨_, rfl, fun type app h => ?_⟩
        rcases shown_insert h with ⟨he, happ⟩ | ⟨-, hshown⟩
        · refine .inr ⟨by simpa using hvisible, he, ?_⟩
          simpa using happ
        · exact .inl hshown
  · rename_i tokenInfo hold
    dsimp only at h
    split at h
    · obtain rfl := Except.ok.inj h
      refine ⟨_, rfl, fun type app h => .inl ?_⟩
      rcases shown_insert h with ⟨rfl, happ⟩ | ⟨-, hshown⟩
      · exact ⟨tokenInfo, hold, ExtTreeSet.mem_of_mem_erase happ⟩
      · exact hshown
    · rename_i hvisible
      split at h
      · cases h
      · obtain rfl := Except.ok.inj h
        refine ⟨_, rfl, fun type app h => ?_⟩
        rcases shown_insert h with ⟨rfl, happ⟩ | ⟨-, hshown⟩
        · rw [ExtTreeSet.mem_insert, LawfulEqCmp.compare_eq_iff_eq] at happ
          rcases happ with he | happ
          · exact .inr ⟨by simpa using hvisible, rfl, he⟩
          · exact .inl ⟨tokenInfo, hold, happ⟩
        · exact .inl hshown

/-- A token that is hidden from an application is not shown to it any more, unless the account is its own. -/
theorem not_shown_of_hidden {bundleName : String} (hself : a.isSelfBundle bundleName = false)
    (howner : bundleName ≠ a.owner)
    (h : a.setOAuthTokenVisibility authType bundleName false apiVersion = .ok info) :
    ¬Shown info.oauthTokens authType bundleName := by
  rw [AppAccountInfo.setOAuthTokenVisibility, hself, if_neg (by simpa using howner)] at h
  rintro ⟨found, hfound, happ⟩
  split at h
  · rename_i hnone
    split at h
    · cases h
    · rw [if_pos Bool.not_false] at h
      rw [← Except.ok.inj h, hnone] at hfound
      cases hfound
  · rw [if_pos Bool.not_false] at h
    rw [← Except.ok.inj h] at hfound
    dsimp only at hfound
    rw [getElem?_insert_eq, if_pos rfl] at hfound
    rw [← Option.some.inj hfound] at happ
    simp at happ

end tokens

structure Filed (s : Store) : Prop where
  key : ∀ (k : String) a, s.accounts[k]? = some a → k = a.getPrimeKey
  owner : ∀ (k : String) a, s.accounts[k]? = some a → '#' ∉ a.owner.toList

theorem setAssociatedData_eq {a info : AppAccountInfo} {key value : String}
    (h : AssociatedDataCache.setAssociatedData a key value = .ok info) :
    ∃ associatedData, info = { a with associatedData } := by
  rw [AssociatedDataCache.setAssociatedData] at h
  split at h
  · cases h
  split at h
  · cases h
  · exact ⟨_, (Except.ok.inj h).symm⟩

instance (s : Store) : Decidable (Filed s) :=
  decidable_of_iff (∀ p ∈ s.accounts.toList, p.1 = p.2.getPrimeKey ∧ '#' ∉ p.2.owner.toList) <| by
    constructor
    · intro h
      exact ⟨fun k a ha => (h (k, a) (ExtTreeMap.mem_toList_iff_getElem?_eq_some.mpr ha)).1,
        fun k a ha => (h (k, a) (ExtTreeMap.mem_toList_iff_getElem?_eq_some.mpr ha)).2⟩
    · intro h p hp
      have hk := ExtTreeMap.mem_toList_iff_getElem?_eq_some.mp hp
      exact ⟨h.key p.1 p.2 hk, h.owner p.1 p.2 hk⟩

section changes

variable {subspace : Bool} {s s' : Store} {op : Operation} {r : Ret} {key : String} {P : AppAccountInfo → Prop}

theorem Change.filed (h : Change subspace s op r s') (hs : Filed s) : Filed s' := by
  cases h with
  | failed e => exact hs
  | idle hidles => exact hs
  | edited account stored info f s' hedit hk hinfo hkey howner haccounts =>
      refine ⟨fun k a ha => ?_, fun k a ha => ?_⟩
      · rw [haccounts, getElem?_insert_eq] at ha
        split at ha
        · rename_i he
          rw [← he, ← Option.some.inj ha]
          rfl
        · exact hs.key k a ha
      · rw [haccounts, getElem?_insert_eq] at ha
        split at ha
        · rw [← Option.some.inj ha]
          change '#' ∉ info.owner.toList
          rw [howner]
          exact hs.owner _ _ hk
        · exact hs.owner k a ha
  | removed s' hedit hkept hgone =>
      exact ⟨fun k a ha => hs.key k a (hkept k a ha), fun k a ha => hs.owner k a (hkept k a ha)⟩

theorem Change.keeps (h : Change subspace s op r s') (hs : Filed s)
    (hP : ∀ account f stored info, edit subspace op = some (account, f) → account.getPrimeKey = key → P stored →
      f stored = .ok info → P info.toJson)
    (hkey : ∀ a, s.accounts[key]? = some a → P a) : ∀ a, s'.accounts[key]? = some a → P a := by
  intro a ha
  cases h with
  | failed e => exact hkey a ha
  | idle hidles => exact hkey a ha
  | edited account stored info f s' hedit hk hinfo hsame howner haccounts =>
      rw [haccounts, getElem?_insert_eq] at ha
      split at ha
      · rename_i he
        have haccount : account.getPrimeKey = key := (hs.key _ _ hk).trans (hsame.symm.trans he)
        rw [← Option.some.inj ha]
        exact hP account f stored info hedit haccount (hkey stored (haccount ▸ hk)) hinfo
      · exact hkey a ha
  | removed s' hedit hkept hgone => exact hkey a (hkept key a ha)

theorem Change.saved (h : Change subspace s op (.ok ()) s') (hs : Filed s) (hidles : ¬Idles op)
    {account : AppAccountInfo} {f : AppAccountInfo → Except ErrCode AppAccountInfo}
    (hedit : edit subspace op = some (account, f)) :
    ∃ stored info, f stored = .ok info ∧ s'.accounts[account.getPrimeKey]? = some info.toJson := by
  cases h with
  | idle hidle => exact absurd hidle hidles
  | edited account' stored info f' s' hedit' hk hinfo hkey howner haccounts =>
      obtain ⟨rfl, rfl⟩ := Prod.mk.inj (Option.some.inj (hedit.symm.trans hedit'))
      refine ⟨stored, info, hinfo, ?_⟩
      rw [haccounts, getElem?_insert_eq, if_pos (hkey.trans (hs.key _ _ hk).symm)]
  | removed s' hnone hkept hgone => cases hedit.symm.trans hnone

theorem Change.gone (h : Change subspace s op (.ok ()) s') (hdeletes : Deletes key op) : s'.accounts[key]? = none := by
  have hidles : ¬Idles op := by
    cases op with
    | deleteAccount caller name => exact id
    | onPackageRemoved isOsAccountRemoved uid bundleName appIndex =>
        intro h
        cases h.symm.trans hdeletes.1
    | _ => cases hdeletes
  have hnone : edit subspace op = none := by
    cases op with
    | deleteAccount caller name => rfl
    | onPackageRemoved isOsAccountRemoved uid bundleName appIndex => rfl
    | _ => cases hdeletes
  cases h with
  | idle hidle => exact absurd hidle hidles
  | edited account stored info f s' hedit hk hinfo hkey howner haccounts => cases hnone.symm.trans hedit
  | removed s' hedit hkept hgone => exact hgone key hdeletes

variable {owner name : String} {appIndex : Nat}

theorem change_get {next : Except ErrCode AppAccountInfo → StoreProgram Ret}
    (hnone : Change subspace s op (perform (next (.error .getAccountInfoById)) s).1
      (perform (next (.error .getAccountInfoById)) s).2)
    (hsome : ∀ stored, s.accounts[(newAccount owner appIndex name).getPrimeKey]? = some stored →
      Change subspace s op (perform (next (.ok stored)) s).1 (perform (next (.ok stored)) s).2) :
    Change subspace s op (perform (getAccountInfoFromDataStorage (newAccount owner appIndex name) >>= next) s).1
      (perform (getAccountInfoFromDataStorage (newAccount owner appIndex name) >>= next) s).2 := by
  rw [perform, Program.exec_bind]
  cases hk : s.accounts[(newAccount owner appIndex name).getPrimeKey]? with
  | none =>
      rw [exec_getAccountInfo_of_none hk]
      exact hnone
  | some stored =>
      rw [exec_getAccountInfo_newAccount (d := ⟨s, none⟩) hk]
      exact hsome stored hk

theorem change_save (hs : Filed s) {stored info : AppAccountInfo}
    {f : AppAccountInfo → Except ErrCode AppAccountInfo}
    (hedit : edit subspace op = some (newAccount owner appIndex name, f))
    (hk : s.accounts[(newAccount owner appIndex name).getPrimeKey]? = some stored) (hinfo : f stored = .ok info)
    (hkey : info.getPrimeKey = stored.getPrimeKey) (howner : info.owner = stored.owner) :
    Change subspace s op (perform (saveAccountInfo info) s).1 (perform (saveAccountInfo info) s).2 := by
  have hsame : s.accounts[info.getPrimeKey]? = some stored := by
    rw [hkey, ← hs.key _ _ hk]
    exact hk
  rw [perform, exec_saveAccountInfo_of_some (d := ⟨s, none⟩) hsame]
  exact .edited _ stored info f _ hedit hk hinfo hkey howner rfl

theorem change_saveAccess (hs : Filed s) {stored info : AppAccountInfo}
    {f : AppAccountInfo → Except ErrCode AppAccountInfo}
    (hedit : edit subspace op = some (newAccount owner appIndex name, f))
    (hk : s.accounts[(newAccount owner appIndex name).getPrimeKey]? = some stored) (hinfo : f stored = .ok info)
    (hkey : info.getPrimeKey = stored.getPrimeKey) (howner : info.owner = stored.owner)
    {saveTable : AppAccountInfo → StoreProgram Ret} {g : Option Json → Json}
    (htable : ∀ d', Program.exec succeed (saveTable info) d' =
      (.ok (), { d' with store := d'.store.putTable (g d'.store.authorizedAccounts) })) :
    Change subspace s op (perform (saveAccess info saveTable) s).1 (perform (saveAccess info saveTable) s).2 := by
  have hsame : s.accounts[info.getPrimeKey]? = some stored := by
    rw [hkey, ← hs.key _ _ hk]
    exact hk
  rw [perform, AppAccountAuthorization.exec_saveAccess (d := ⟨s, none⟩) hsame htable]
  exact .edited _ stored info f _ hedit hk hinfo hkey howner rfl

theorem removed_of_filed (hs : Filed s) (owner : BundleName) (appIndex : Nat) (name : String) :
    (CloneIsolation.removeAll appIndex (s.getEntries (ownerKey owner.1 appIndex)) s).accounts[
      (newAccount owner.1 appIndex name).getPrimeKey]? = none := by
  rw [CloneIsolation.getElem?_removeAll]
  cases hk : s.accounts[(newAccount owner.1 appIndex name).getPrimeKey]? with
  | none => exact ite_self _
  | some a =>
      have hkey := hs.key _ a hk
      have hsame := hkey
      rw [getPrimeKey_inj owner.2 (hs.owner _ a hk)] at hsame
      obtain ⟨howner, hindex, -⟩ := hsame
      refine if_pos ⟨(a.getPrimeKey, a), ?_, hkey.trans (CloneIsolation.removedKey_self hindex.symm).symm⟩
      rw [mem_getEntries]
      refine ⟨hkey ▸ hk, (ownerKey_prefix_iff a owner.2 (hs.owner _ a hk)).mpr ⟨howner.symm, ?_⟩⟩
      rw [← hindex]
      exact continues_refl appIndex

theorem change_program (hs : Filed s) (subspace : Bool) (op : Operation) :
    Change subspace s op (perform (op.program subspace) s).1 (perform (op.program subspace) s).2 := by
  cases op with
  | setAccountExtraInfo caller name extraInfo =>
      exact change_get (.failed _) fun stored hk => change_save hs rfl hk rfl rfl rfl
  | enableAppAccess caller name authorizedApp apiVersion =>
      refine change_get (.failed _) fun stored hk => ?_
      dsimp only
      cases hinfo : stored.enableAppAccess authorizedApp apiVersion with
      | error e => exact .failed _
      | ok info =>
          obtain ⟨hkey, howner, -⟩ := enableAppAccess_spec hinfo
          exact change_saveAccess hs rfl hk hinfo hkey howner
            (g := fun t => savedTable t authorizedApp info.getPrimeKey) fun _ => rfl
  | disableAppAccess caller name authorizedApp apiVersion =>
      refine change_get (.failed _) fun stored hk => ?_
      dsimp only
      cases hinfo : stored.disableAppAccess authorizedApp apiVersion with
      | error e => exact .failed _
      | ok info =>
          obtain ⟨hkey, howner, -⟩ := disableAppAccess_spec hinfo
          exact change_saveAccess hs rfl hk hinfo hkey howner
            (g := fun t => removedTable t authorizedApp info.getPrimeKey) fun _ => rfl
  | setAssociatedData caller name key value =>
      refine change_get (.failed _) fun stored hk => ?_
      dsimp only
      cases hinfo : AssociatedDataCache.setAssociatedData stored key value with
      | error e => exact .failed _
      | ok info =>
          obtain ⟨associatedData, rfl⟩ := setAssociatedData_eq hinfo
          exact change_save hs rfl hk hinfo rfl rfl
  | setOAuthToken request resolvedAppIndex =>
      refine change_get (.failed _) fun stored hk => ?_
      dsimp only
      cases hinfo : stored.setOAuthToken request.authType request.token with
      | error e => exact .failed _
      | ok info =>
          obtain ⟨oauthTokens, rfl, -⟩ := hides_setOAuthToken hinfo
          exact change_save hs rfl hk hinfo rfl rfl
  | deleteOAuthToken request resolvedAppIndex apiVersion =>
      refine change_get (.failed _) fun stored hk => ?_
      dsimp only
      split
      · cases hinfo : deletedToken request apiVersion stored with
        | error e =>
            have hidles : Idles (.deleteOAuthToken request resolvedAppIndex apiVersion) := trivial
            dsimp only
            split
            · exact .failed _
            · exact .idle hidles
        | ok info =>
            obtain ⟨oauthTokens, rfl, -⟩ := hides_deletedToken hinfo
            exact change_save hs rfl hk hinfo rfl rfl
      · exact .failed _
  | setOAuthTokenVisibility request targetAppIndex apiVersion =>
      refine change_get (.failed _) fun stored hk => ?_
      dsimp only
      cases hinfo : stored.setOAuthTokenVisibility request.authType
          (encodeAuthorizedApp subspace request.bundleName targetAppIndex) request.isTokenVisible apiVersion with
      | error e => exact .failed _
      | ok info =>
          obtain ⟨oauthTokens, rfl, -⟩ := shown_setOAuthTokenVisibility hinfo
          exact change_save hs rfl hk hinfo rfl rfl
  | deleteAccount caller name =>
      refine change_get (.failed _) fun stored hk => ?_
      have hkey : s.accounts[stored.getPrimeKey]? = some stored := (hs.key _ _ hk) ▸ hk
      dsimp only
      rw [perform, controlDeleteAccount, Program.exec_bind, exec_startDbTransaction]
      dsimp only
      rw [Program.exec_bind, AppAccountAuthorization.exec_deleteAccountInfo (d := ⟨s, some s⟩) hkey]
      dsimp only
      rw [Program.exec_bind, Program.exec_bind, exec_removeAuthorizedAccounts]
      have haccounts : ∀ k : String, (s.delete stored.getPrimeKey).accounts[k]? =
          if stored.getPrimeKey = k then none else s.accounts[k]? :=
        getElem?_erase_eq s.accounts stored.getPrimeKey
      refine .removed _ rfl (fun k a ha => ?_) fun k hdeleted => (haccounts k).trans (if_pos ?_)
      · have ha' := (haccounts k).symm.trans ha
        split at ha'
        · cases ha'
        · exact ha'
      · exact (hs.key _ _ hk).symm.trans hdeleted.symm
  | onPackageRemoved isOsAccountRemoved uid bundleName appIndex =>
      cases isOsAccountRemoved with
      | true => exact .idle rfl
      | false =>
          rw [Operation.program, perform_onPackageRemoved]
          refine .removed _ rfl (fun k a ha => ?_) fun k hdeleted => ?_
          · have ha' := (CloneIsolation.getElem?_removeAll s k).symm.trans ha
            split at ha'
            · cases ha'
            · exact ha'
          · obtain ⟨-, name, rfl⟩ := hdeleted
            exact removed_of_filed hs bundleName appIndex name

end changes

section revocations

variable {subspace : Bool} {s s' : Store} {op : Operation} {a account info : AppAccountInfo}
  {f : AppAccountInfo → Except ErrCode AppAccountInfo}

structure Edited (subspace : Bool) (op : Operation) (key : String) (a info : AppAccountInfo) : Prop where
  owner : info.owner = a.owner
  appIndex : info.appIndex = a.appIndex
  authorized : ∀ app, app ∈ info.authorizedApps → app ∈ a.authorizedApps ∨ Enables key app op
  shown : ∀ type app, Shown info.oauthTokens type app →
    Shown a.oauthTokens type app ∨ Shows subspace key type app op

theorem Edited.of_hides {key : String} (h : Hides a info) : Edited subspace op key a info := by
  obtain ⟨oauthTokens, rfl, hshown⟩ := h
  exact ⟨rfl, rfl, fun _ happ => .inl happ, fun type app h => .inl (hshown type app h)⟩

theorem enableAppAccess_eq {app : String} {apiVersion : Nat} (h : a.enableAppAccess app apiVersion = .ok info) :
    ∃ authorizedApps, info = { a with authorizedApps } := by
  rw [AppAccountInfo.enableAppAccess] at h
  split at h
  · cases h
  split at h
  · cases h
  · exact ⟨_, (Except.ok.inj h).symm⟩

theorem disableAppAccess_eq {app : String} {apiVersion : Nat} (h : a.disableAppAccess app apiVersion = .ok info) :
    ∃ authorizedApps, info = { a with authorizedApps } := by
  rw [AppAccountInfo.disableAppAccess] at h
  split at h
  · cases h
  · exact ⟨_, (Except.ok.inj h).symm⟩

theorem edited_edit (hedit : edit subspace op = some (account, f)) (hinfo : f a = .ok info) :
    Edited subspace op account.getPrimeKey a info := by
  cases op with
  | setAccountExtraInfo caller name extraInfo =>
      obtain ⟨rfl, rfl⟩ := Prod.mk.inj (Option.some.inj hedit)
      obtain rfl := Except.ok.inj hinfo
      exact ⟨rfl, rfl, fun _ happ => .inl happ, fun _ _ h => .inl h⟩
  | enableAppAccess caller name authorizedApp apiVersion =>
      obtain ⟨rfl, rfl⟩ := Prod.mk.inj (Option.some.inj hedit)
      have hmem := (enableAppAccess_spec hinfo).2.2
      obtain ⟨authorizedApps, rfl⟩ := enableAppAccess_eq hinfo
      refine ⟨rfl, rfl, fun app happ => ?_, fun _ _ h => .inl h⟩
      exact ((hmem app).mp happ).imp_right fun he => ⟨rfl, he.symm⟩
  | disableAppAccess caller name authorizedApp apiVersion =>
      obtain ⟨rfl, rfl⟩ := Prod.mk.inj (Option.some.inj hedit)
      have hmem := (disableAppAccess_spec hinfo).2.2
      obtain ⟨authorizedApps, rfl⟩ := disableAppAccess_eq hinfo
      exact ⟨rfl, rfl, fun app happ => .inl ((hmem app).mp happ).1, fun _ _ h => .inl h⟩
  | setAssociatedData caller name key value =>
      obtain ⟨rfl, rfl⟩ := Prod.mk.inj (Option.some.inj hedit)
      obtain ⟨associatedData, rfl⟩ := setAssociatedData_eq hinfo
      exact ⟨rfl, rfl, fun _ happ => .inl happ, fun _ _ h => .inl h⟩
  | setOAuthToken request resolvedAppIndex =>
      obtain ⟨rfl, rfl⟩ := Prod.mk.inj (Option.some.inj hedit)
      exact .of_hides (hides_setOAuthToken hinfo)
  | deleteOAuthToken request resolvedAppIndex apiVersion =>
      obtain ⟨rfl, rfl⟩ := Prod.mk.inj (Option.some.inj hedit)
      exact .of_hides (hides_deletedToken hinfo)
  | setOAuthTokenVisibility request targetAppIndex apiVersion =>
      obtain ⟨rfl, rfl⟩ := Prod.mk.inj (Option.some.inj hedit)
      obtain ⟨oauthTokens, rfl, hshown⟩ := shown_setOAuthTokenVisibility hinfo
      refine ⟨rfl, rfl, fun _ happ => .inl happ, fun type app h => ?_⟩
      exact (hshown type app h).imp_right fun ⟨hvisible, htype, happ⟩ => ⟨hvisible, rfl, htype, happ⟩
  | deleteAccount caller name => cases hedit
  | onPackageRemoved isOsAccountRemoved uid bundleName appIndex => cases hedit

def Hidden (type app : String) (a : AppAccountInfo) : Prop :=
  app ≠ a.owner → a.isSelfBundle app = false → ¬Shown a.oauthTokens type app

theorem hidden_of_edited {key type app : String} (h : Edited subspace op key a info)
    (hshows : ¬Shows subspace key type app op) (ha : Hidden type app a) : Hidden type app info.toJson := by
  intro howner hself hshown
  have hself' : a.isSelfBundle app = false := by
    rw [isSelfBundle, ← h.owner, ← h.appIndex]
    exact hself
  exact ha (h.owner ▸ howner) hself' ((h.shown type app (shown_toJson hshown)).resolve_right hshows)

end revocations

section histories

variable {τ : Type} (subspace : Bool) (ops : τ → Operation)

def calls (t : τ) : Call Access Answer ErrCode Lock := (ops t).call subspace

/-- The store is what the calls that have succeeded make of it one after the other. So an account that was deleted is
not there, and an application has no access and sees no token once that was taken from it, unless another call has given
it back. -/
structure NoLostUpdate (init : Store) (s : State Access Answer ErrCode Store Lock τ) : Prop where
  sequential : Serializable storage (calls subspace ops) init s
  deleted : Filed init → ∀ t key, Succeeded s t → Deletes key (ops t) → s.store.accounts[key]? = none
  revoked : Filed init → ∀ t caller name authorizedApp apiVersion, Succeeded s t →
    ops t = .disableAppAccess caller name authorizedApp apiVersion →
    (∀ u, Succeeded s u → ¬Enables (caller.account name).getPrimeKey authorizedApp (ops u)) →
    ∀ a, s.store.accounts[(caller.account name).getPrimeKey]? = some a → authorizedApp ∉ a.authorizedApps
  hidden : Filed init → ∀ t request targetAppIndex apiVersion, Succeeded s t →
    ops t = .setOAuthTokenVisibility request targetAppIndex apiVersion → request.isTokenVisible = false →
    (∀ u, Succeeded s u → ¬Shows subspace (requestKey request) request.authType
      (encodeAuthorizedApp subspace request.bundleName targetAppIndex) (ops u)) →
    ∀ a, s.store.accounts[requestKey request]? = some a →
      Hidden request.authType (encodeAuthorizedApp subspace request.bundleName targetAppIndex) a

variable {subspace ops} {init : Store} {s : State Access Answer ErrCode Store Lock τ}

theorem change_call (hs : Filed init) (t : τ) :
    Change subspace init (ops t) (storage.perform (calls subspace ops t).program init).1
      (storage.perform (calls subspace ops t).program init).2 := by
  rw [perform_storage]
  exact change_program hs subspace (ops t)

/-- A property of the record under a key that one call brings about and the others keep. -/
theorem holds_of_serializable (h : Serializable storage (calls subspace ops) init s) (hinit : Filed init) {t : τ}
    (ht : Succeeded s t) {key : String} {P : AppAccountInfo → Prop}
    (hestablish : ∀ s s', Filed s → Change subspace s (ops t) (.ok ()) s' → ∀ a, s'.accounts[key]? = some a → P a)
    (hkeep : ∀ u, Succeeded s u → ∀ account f stored info, edit subspace (ops u) = some (account, f) →
      account.getPrimeKey = key → P stored → f stored = .ok info → P info.toJson) :
    ∀ a, s.store.accounts[key]? = some a → P a := by
  obtain ⟨order, -, horder, hserial⟩ := h
  have hfiled : ∀ t s, Filed s → Filed (storage.perform (calls subspace ops t).program s).2 :=
    fun t s hs => (change_call hs t).filed hs
  refine serial_establishes (Q := fun s : Store => ∀ a, s.accounts[key]? = some a → P a) hfiled hinit
    ((horder t).mpr ht) (fun s hs hok => ?_) (fun u hu s hs hP => ?_) hserial
  · exact hestablish s _ hs (hok ▸ change_call hs t)
  · exact (change_call hs u).keeps hs (hkeep u ((horder u).mp hu)) hP

theorem noLostUpdate_of_serializable (h : Serializable storage (calls subspace ops) init s) :
    NoLostUpdate subspace ops init s where
  sequential := h
  deleted hinit t key ht hdeletes := by
    refine Option.eq_none_iff_forall_not_mem.mpr fun a ha => ?_
    refine holds_of_serializable (P := fun _ => False) h hinit ht (fun s s' _ hchange a ha => ?_)
      (fun _ _ _ _ _ _ _ _ hstored _ => hstored) a ha
    cases (hchange.gone hdeletes).symm.trans ha
  revoked hinit t caller name authorizedApp apiVersion ht hop hother := by
    refine holds_of_serializable h hinit ht (fun s s' hs hchange a ha => ?_)
      fun u hu account f stored info hedit hkey hstored hinfo happ => ?_
    · rw [hop] at hchange
      obtain ⟨stored, info, hinfo, hsaved⟩ := hchange.saved hs id rfl
      obtain rfl := Option.some.inj (hsaved.symm.trans ha)
      exact fun happ => (((disableAppAccess_spec hinfo).2.2 authorizedApp).mp happ).2 rfl
    · rcases (edited_edit hedit hinfo).authorized authorizedApp happ with happ | henables
      · exact hstored happ
      · exact hother u hu (hkey ▸ henables)
  hidden hinit t request targetAppIndex apiVersion ht hop hvisible hother := by
    refine holds_of_serializable h hinit ht (fun s s' hs hchange a ha => ?_)
      fun u hu account f stored info hedit hkey hstored hinfo => ?_
    · rw [hop] at hchange
      obtain ⟨stored, info, hinfo, hsaved⟩ := hchange.saved hs id rfl
      obtain rfl := Option.some.inj (hsaved.symm.trans ha)
      rw [hvisible] at hinfo
      intro howner hself hshown
      obtain ⟨oauthTokens, rfl, -⟩ := shown_setOAuthTokenVisibility hinfo
      exact not_shown_of_hidden (a := stored) hself howner hinfo (shown_toJson hshown)
    · exact hidden_of_edited (edited_edit hedit hinfo) (fun hshows => hother u hu (hkey ▸ hshows)) hstored

variable [DecidableEq τ]

/-- Calls that keep out of each other's way lose no update, whatever the interleaving. -/
theorem undisturbed_noLostUpdate (subspace : Bool) (ops : τ → Operation) (init : Store) {ts : List τ}
    (hts : Machine.Meets (step storage (calls subspace ops)) (Undisturbed storage)
      (initial (calls subspace ops) init) ts)
    (hfinal : Final (Machine.run (step storage (calls subspace ops)) (initial (calls subspace ops) init) ts)) :
    NoLostUpdate subspace ops init
      (Machine.run (step storage (calls subspace ops)) (initial (calls subspace ops) init) ts) :=
  noLostUpdate_of_serializable
    (run_serializable storage_local (fun t _ _ => perform_call_of_error subspace (ops t)) init hts hfinal)

end histories

section races

def mail : AppAccountCallingInfo where
  callingUid := 20010044
  bundleName := ⟨"com.example.mail", AssociatedDataCache.notMem_mail⟩
  appIndex := 0

def chat : AppAccountCallingInfo where
  callingUid := 20010045
  bundleName := ⟨"com.example.chat", by decide⟩
  appIndex := 0

def mailKey : String := (mail.account "alice").getPrimeKey

def chatKey : String := (chat.account "alice").getPrimeKey

def twoAccounts : Store where
  accounts := (ExtTreeMap.empty.insert mailKey (mail.account "alice")).insert chatKey (chat.account "alice")

/-- Calls of both applications, one of them in a transaction while the other one writes. -/
def meeting : Bool → Operation
  | false => .setAccountExtraInfo mail "alice" "signature"
  | true => .enableAppAccess chat "alice" "com.example.mail" 9

def meetingSteps : List Bool :=
  [false, true, true, false, true, false, true, false, true, true, false, true, true, true]

theorem undisturbed_noLostUpdate_meeting :
    Succeeded (Machine.run (step storage (calls false meeting)) (initial (calls false meeting) twoAccounts) meetingSteps)
        false ∧
      NoLostUpdate false meeting twoAccounts
        (Machine.run (step storage (calls false meeting)) (initial (calls false meeting) twoAccounts) meetingSteps) :=
  ⟨by decide +kernel, undisturbed_noLostUpdate false meeting twoAccounts (by decide +kernel) (by decide +kernel)⟩

/-- The package is removed between the reads and the write of a call of its application. -/
def racing : Bool → Operation
  | false => .setAccountExtraInfo mail "alice" "signature"
  | true => .onPackageRemoved false mail.callingUid mail.bundleName mail.appIndex

def racingSteps : List Bool := List.replicate 4 false ++ List.replicate 7 true ++ [false]

/-- The deleted account is there again, which it is in no order of the two calls. -/
theorem not_serializable_racing :
    let s := Machine.run (step storage (calls false racing)) (initial (calls false racing) twoAccounts) racingSteps
    Final s ∧ (∀ t, Succeeded s t) ∧ s.store.accounts[mailKey]?.isSome = true ∧
      ¬Serializable storage (calls false racing) twoAccounts s := by
  intro s
  have hthere : s.store.accounts[mailKey]?.isSome = true := by decide +kernel
  have hremoved : Succeeded s true := by decide +kernel
  refine ⟨by decide +kernel, by decide +kernel, hthere, fun h => ?_⟩
  have hgone := (noLostUpdate_of_serializable h).deleted (by decide +kernel) true mailKey hremoved ⟨rfl, "alice", rfl⟩
  rw [hgone] at hthere
  cases hthere

end races

end OsAccount.LostUpdates
