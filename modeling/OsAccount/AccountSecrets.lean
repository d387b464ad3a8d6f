import OsAccount.TokenDeletion
import OsAccount.AppAccountAuthorization
import OsAccount.AppAccountFailures

namespace OsAccount.AccountSecrets

open OrderedMap Std CText JsonUtils AppAccountInfo AppAccountStore OAuthTokens AssetStore AppAccountService
  CloneIsolation
  RecordFrames AppAccountAuthorization

def credentialTypeMaxSize : Nat := 1024

def credentialMaxSize : Nat := 1024

/-- The calls of the build with the asset part on secrets, and those that make and remove
accounts. -/
inductive Operation
  | createAccount (caller : AppAccountCallingInfo) (name : String) (customData : ExtTreeMap String String)
  | deleteAccount (caller : AppAccountCallingInfo) (name : String)
  | setAccountCredential (caller : AppAccountCallingInfo) (name credentialType credential : String)
  | getAccountCredential (caller : AppAccountCallingInfo) (name credentialType : String)
  | deleteAccountCredential (caller : AppAccountCallingInfo) (name credentialType : String)
  | setOAuthToken (request : AuthenticatorSessionRequest) (resolvedAppIndex : Nat)
  | deleteOAuthToken (request : AuthenticatorSessionRequest) (resolvedAppIndex apiVersion : Nat)
  | onPackageRemoved (isOsAccountRemoved : Bool) (uid : Nat) (bundleName : BundleName) (appIndex : Nat)

section requests

variable (sha256 : Sha256) (subspace : Bool) (caller : AppAccountCallingInfo)
  (name credentialType credential : String) (v : Vault Assets)

def serveGetAccountCredential : Except ErrCode String :=
  if isEmptyOrOversize name nameMaxSize || isEmptyOrOversize credentialType credentialTypeMaxSize then
    .error .invalidParameter
  else
    match v.load (caller.account name) with
    | .error e => .error e
    | .ok info =>
    match getAccountCredential info credentialType with
    | .error e => .error e
    | .ok credentialAlias => .ok ((v.assets.data credentialAlias).getD "")

def serveSetAccountCredential : Ret × Vault Assets :=
  if isEmptyOrOversize name nameMaxSize || isEmptyOrOversize credentialType credentialTypeMaxSize ||
      isOversize credential credentialMaxSize then (.error .invalidParameter, v)
  else
    match v.load (caller.account name) with
    | .error _ => (.error .appAccountNotExist, v)
    | .ok info =>
    match setAccountCredential (.asset sha256) info credentialType credential with
    | .error e => (.error e, v)
    | .ok info =>
        let saved := v.save info
        match saved.1 with
        | .error e => (.error e, saved.2)
        | .ok () =>
            let credentialAlias := (getAccountCredential info credentialType).toOption.getD ""
            (.ok (), saved.2.setAssets (saved.2.assets.save (ownerKey caller.bundleName.1 caller.appIndex)
              (getAlias sha256 info) credentialAlias credential))

def serveDeleteAccountCredential : Ret × Vault Assets :=
  if isEmptyOrOversize name nameMaxSize || isEmptyOrOversize credentialType credentialTypeMaxSize then
    (.error .invalidParameter, v)
  else
    match v.load (caller.account name) with
    | .error _ => (.error .appAccountNotExist, v)
    | .ok info =>
        let credentialAlias := (getAccountCredential info credentialType).toOption.getD ""
        let v := v.setAssets (v.assets.remove credentialAlias)
        match deleteAccountCredential info credentialType with
        | .error e => (.error e, v)
        | .ok info => v.save info

def serveCreateAccount (customData : ExtTreeMap String String) : Ret × Vault Assets :=
  let created := performWritten (AppAccountService.serveCreateAccount caller name customData) v.store
  (created.1, { v with store := created.2 })

def serveDeleteAccount : Ret × Vault Assets :=
  let deleted := performWritten (AppAccountService.serveDeleteAccount caller name) v.store
  match deleted.1 with
  | .error e => (.error e, { v with store := deleted.2 })
  | .ok () =>
      let assets := v.assets.removeByAccountLabel (caller.account name).getPrimeKey
      (.ok (), { store := deleted.2, assets })

def onPackageRemoved (isOsAccountRemoved : Bool) (uid : Nat) (bundleName : BundleName) (appIndex : Nat) :
    Ret × Vault Assets :=
  let removed := performWritten (AppAccountStore.onPackageRemoved isOsAccountRemoved uid bundleName.1 appIndex) v.store
  match removed.1, isOsAccountRemoved with
  | .ok (), false =>
      let assets := v.assets.removeByHapLabel (ownerKey bundleName.1 appIndex)
      (.ok (), { store := removed.2, assets })
  | r, _ => (r, { v with store := removed.2 })

def call : Operation → Ret × Vault Assets
  | .createAccount caller name customData => serveCreateAccount caller name v customData
  | .deleteAccount caller name => serveDeleteAccount caller name v
  | .setAccountCredential caller name credentialType credential =>
      serveSetAccountCredential sha256 caller name credentialType credential v
  | .getAccountCredential _ _ _ => (.ok (), v)
  | .deleteAccountCredential caller name credentialType => serveDeleteAccountCredential caller name credentialType v
  | .setOAuthToken request resolvedAppIndex =>
      serveSetOAuthToken (.asset sha256) mapService request resolvedAppIndex v
  | .deleteOAuthToken request resolvedAppIndex apiVersion =>
      serveDeleteOAuthToken (.asset sha256) mapService subspace request resolvedAppIndex apiVersion v
  | .onPackageRemoved isOsAccountRemoved uid bundleName appIndex =>
      onPackageRemoved v isOsAccountRemoved uid bundleName appIndex

end requests

/-- The secrets, and what the last calls that succeeded have set as the credentials of the
accounts that are there. -/
structure Traced where
  vault : Vault Assets := { assets := ∅ }
  last : String → String → Option String := fun _ _ => none

section traces

variable (sha256 : Sha256) (subspace : Bool)

def lastSet (last : String → String → Option String) (key type : String) : Operation → Option String
  | .setAccountCredential caller name credentialType credential =>
      if (caller.account name).getPrimeKey = key ∧ credentialType = type then some credential else last key type
  | .deleteAccountCredential caller name credentialType =>
      if (caller.account name).getPrimeKey = key ∧ credentialType = type then none else last key type
  | _ => last key type

def note (s : Traced) (op : Operation) : Traced :=
  let called := call sha256 subspace s.vault op
  { vault := called.2
    last := fun key type =>
      match called.2.store.accounts[key]?, called.1 with
      | none, _ => none
      | some _, .error _ => s.last key type
      | some _, .ok () => lastSet s.last key type op }

/-- Secrets are fields of their accounts: a credential is the one that was set last, and
none is left of an account that was deleted. -/
structure Faithful (ops : List Operation) : Prop where
  credential : ∀ before caller name credentialType after,
    ops = before ++ .getAccountCredential caller name credentialType :: after → ∀ value,
    let s := Machine.run (note sha256 subspace) {} before
    serveGetAccountCredential caller name credentialType s.vault = .ok value ↔
      s.last (caller.account name).getPrimeKey credentialType = some value
  deleted : ∀ before caller name after, ops = before ++ .deleteAccount caller name :: after →
    let v := (Machine.run (note sha256 subspace) {} before).vault
    let called := call sha256 subspace v (.deleteAccount caller name)
    called.1 = .ok () → ∀ type, called.2.assets[aliasOf sha256 (caller.account name) type]? = none

def credential (v : Vault Assets) (key type : String) : Option String :=
  v.store.accounts[key]?.bind fun a => (getAccountCredential a type).toOption

def savedAlias (a : AppAccountInfo) (type : String) : String :=
  (a.oauthTokens[type]?.map (·.token)).getD (aliasOf sha256 a type)

/-- An account has a name that a document holds as a whole, and no secret when it is deleted; a
credential is set for such a type, and asked for or deleted for another only where none is found;
an empty one is set only where there is no secret; no alias is used for another credential or by another
application; and a token is not set or deleted under the alias of a credential. -/
def Careful (s : Traced) : Operation → Prop
  | .createAccount caller name _ => NoNul caller.bundleName.1 ∧ NoNul name
  | .deleteAccount caller name =>
      (caller.account name).getPrimeKey ∈ s.vault.store.accounts →
        ∀ type, s.vault.assets[aliasOf sha256 (caller.account name) type]? = none
  | .setAccountCredential caller name credentialType value =>
      let aliasName := aliasOf sha256 (caller.account name) credentialType
      NoNul credentialType ∧ (∀ key type, NoNul type → credential s.vault key type = some aliasName →
        key = (caller.account name).getPrimeKey ∧ type = credentialType) ∧
      ∀ asset, s.vault.assets[aliasName]? = some asset →
        asset.hapLabel = ownerKey caller.bundleName.1 caller.appIndex ∧ value ≠ ""
  | .getAccountCredential caller name credentialType =>
      NoNul credentialType ∨ credential s.vault (caller.account name).getPrimeKey credentialType = none
  | .deleteAccountCredential caller name credentialType =>
      NoNul credentialType ∨ credential s.vault (caller.account name).getPrimeKey credentialType = none
  | .setOAuthToken request resolvedAppIndex => ∀ a,
      s.vault.store.accounts[(newAccount request.callerBundleName resolvedAppIndex request.name).getPrimeKey]? = some a →
        request.token = "" ∨ s.vault.assets.data (savedAlias sha256 a request.authType) = some request.token ∨
          ∀ key type, credential s.vault key type ≠ some (savedAlias sha256 a request.authType)
  | .deleteOAuthToken request resolvedAppIndex apiVersion => ∀ a aliasName,
      s.vault.store.accounts[(newAccount request.owner resolvedAppIndex request.name).getPrimeKey]? = some a →
        a.checkOAuthTokenVisibility request.authType (callerKey subspace request) apiVersion = .ok true →
        a.getOAuthToken request.authType apiVersion = .ok aliasName →
          s.vault.assets.data aliasName = some request.token →
            ∀ key type, credential s.vault key type ≠ some aliasName
  | _ => True

end traces

section records

variable {sha256 : Sha256} {a b : AppAccountInfo} {credentialType type value : String}

theorem aliasOf_eq (sha256 : Sha256) (h : a.getPrimeKey = b.getPrimeKey) (type : String) :
    aliasOf sha256 a type = aliasOf sha256 b type := by
  unfold aliasOf getAlias
  rw [h]

/-- A record as the calls write it: its credentials are aliases under types that the service
lets pass. -/
structure Regular (sha256 : Sha256) (a : AppAccountInfo) : Prop where
  name : isEmptyOrOversize a.name nameMaxSize = false
  json : IsRecord (a.accountCredential.getD createJson)
  type : ∀ type aliasName, NoNul type → getAccountCredential a type = .ok aliasName →
    isEmptyOrOversize type credentialTypeMaxSize = false ∧ aliasName = aliasOf sha256 a type

theorem getAccountCredential_of_none (h : a.accountCredential = none) (type : String) :
    getAccountCredential a type = .error .accountCredentialNotExist := by
  unfold getAccountCredential
  rw [h]
  dsimp only
  have hkey : isKeyExistByText createJson type = false := by
    unfold isKeyExistByText getItemByText
    split
    · rfl
    · rfl
  rw [Option.getD_none, hkey]
  rfl

theorem getAccountCredential_congr (h : b.accountCredential = a.accountCredential) (type : String) :
    getAccountCredential b type = getAccountCredential a type := by
  unfold getAccountCredential
  rw [h]

theorem getAccountCredential_eq (a : AppAccountInfo) (type : String) : getAccountCredential a type =
    match getItemByText (a.accountCredential.getD createJson) type with
    | none => .error .accountCredentialNotExist
    | some item => .ok ((stringValue? item).getD "") := by
  unfold getAccountCredential isKeyExistByText getStringFromJson
  dsimp only
  cases getItemByText (a.accountCredential.getD createJson) type with
  | none => rfl
  | some item => rfl

theorem isObject_of_isRecord {j : Json} (h : IsRecord j) : isObject j = true := by
  cases j with
  | obj l => rfl
  | _ => cases h

theorem Regular.found (ha : Regular sha256 a) (hnul : NoNul credentialType)
    (hkey : isKeyExistByText (a.accountCredential.getD createJson) credentialType = true) :
    getAccountCredential a credentialType = .ok (aliasOf sha256 a credentialType) := by
  obtain ⟨item, hitem⟩ := Option.isSome_iff_exists.mp hkey
  have hget := getAccountCredential_eq a credentialType
  rw [hitem] at hget
  rw [hget, ← (ha.type credentialType _ hnul hget).2]

theorem setAccountCredential_spec (ha : Regular sha256 a) (hnul : NoNul credentialType)
    (htype : isEmptyOrOversize credentialType credentialTypeMaxSize = false)
    (h : setAccountCredential (.asset sha256) a credentialType value = .ok b) :
    (∃ j, b = { a with accountCredential := j }) ∧ Regular sha256 b ∧
      ∀ type, NoNul type → getAccountCredential b type =
        if credentialType = type then .ok (aliasOf sha256 a credentialType)
        else getAccountCredential a type := by
  have hne : credentialType ≠ "" := by
    rintro rfl
    cases htype
  unfold setAccountCredential at h
  dsimp only at h
  rw [isObject_of_isRecord ha.json] at h
  by_cases hkey : isKeyExistByText (a.accountCredential.getD createJson) credentialType = true
  · rw [hkey] at h
    obtain rfl := Except.ok.inj h
    refine ⟨⟨a.accountCredential, rfl⟩, ha, fun type _ => ?_⟩
    split
    · next he =>
        subst he
        exact ha.found hnul hkey
    · rfl
  · rw [Bool.not_eq_true] at hkey
    rw [hkey] at h
    simp only [Bool.not_true, Bool.false_eq_true, if_false, hne] at h
    obtain rfl := Except.ok.inj h
    have hget : ∀ type, NoNul type → getAccountCredential { a with accountCredential := some (addStringToJson
        (a.accountCredential.getD createJson) credentialType (aliasOf sha256 a credentialType)) } type =
          if credentialType = type then .ok (aliasOf sha256 a credentialType)
          else getAccountCredential a type := by
      intro type htext
      rw [getAccountCredential_eq, getAccountCredential_eq a, Option.getD_some, addStringToJson_eq hnul,
        (noNul_aliasOf sha256 a credentialType).cStr, getItemByText_eq htext, getItemByText_eq htext,
        getItem_setItem ha.json hne]
      by_cases he : credentialType = type
      · rw [if_pos he, if_pos he]
        rfl
      · rw [if_neg he, if_neg he]
    refine ⟨⟨_, rfl⟩, ⟨ha.name, isRecord_setItemByText ha.json _ _, fun type aliasName htext hok => ?_⟩, hget⟩
    rw [hget type htext] at hok
    split at hok
    · next he =>
        subst he
        exact ⟨htype, (Except.ok.inj hok).symm⟩
    · exact ha.type type aliasName htext hok

theorem deleteAccountCredential_spec (ha : Regular sha256 a) (hnul : NoNul credentialType)
    (h : deleteAccountCredential a credentialType = .ok b) :
    (∃ j, b = { a with accountCredential := j }) ∧ Regular sha256 b ∧
      getAccountCredential a credentialType = .ok (aliasOf sha256 a credentialType) ∧
      ∀ type, NoNul type → getAccountCredential b type =
        if credentialType = type then .error .accountCredentialNotExist else getAccountCredential a type := by
  unfold deleteAccountCredential at h
  cases hj : a.accountCredential with
  | none =>
      rw [hj] at h
      cases h
  | some j =>
      rw [hj] at h
      dsimp only at h
      have hjson : IsRecord j := by
        have hjson := ha.json
        rw [hj] at hjson
        exact hjson
      split at h
      · cases h
      · next hfound =>
        obtain rfl := Except.ok.inj h
        have hget : ∀ type, NoNul type → getAccountCredential
            { a with accountCredential := some (deleteItemByText j credentialType) } type =
              if credentialType = type then .error .accountCredentialNotExist else getAccountCredential a type := by
          intro type htext
          rw [getAccountCredential_eq, getAccountCredential_eq a, Option.getD_some, hj, Option.getD_some,
            deleteItemByText_eq hnul, getItemByText_eq htext, getItemByText_eq htext, getItem_deleteItem hjson]
          by_cases he : credentialType = type
          · rw [if_pos he, if_pos he]
          · rw [if_neg he, if_neg he]
        have hrecord : IsRecord (deleteItemByText j credentialType) := by
          rw [deleteItemByText_eq hnul]
          exact isRecord_deleteItem hjson _
        refine ⟨⟨_, rfl⟩, ⟨ha.name, hrecord, fun type aliasName htext hok => ?_⟩, ?_, hget⟩
        · rw [hget type htext] at hok
          split at hok
          · cases hok
          · exact ha.type type aliasName htext hok
        · simp only [Bool.or_eq_true, Bool.not_eq_true', not_or, Bool.not_eq_false] at hfound
          refine ha.found hnul ?_
          rw [hj]
          exact hfound.2

theorem deleteAccountCredential_found (h : deleteAccountCredential a credentialType = .ok b) :
    ∃ aliasName, getAccountCredential a credentialType = .ok aliasName := by
  unfold deleteAccountCredential at h
  cases hj : a.accountCredential with
  | none =>
      rw [hj] at h
      cases h
  | some j =>
      rw [hj] at h
      dsimp only at h
      split at h
      · cases h
      · next hfound =>
        simp only [Bool.or_eq_true, Bool.not_eq_true', not_or, Bool.not_eq_false] at hfound
        refine ⟨(getStringFromJson j credentialType).getD "", ?_⟩
        unfold getAccountCredential
        dsimp only
        rw [hj, Option.getD_some, hfound.2]
        rfl

theorem deleteAccountCredential_error {e : ErrCode} (ha : Regular sha256 a)
    (h : deleteAccountCredential a credentialType = .error e) :
    getAccountCredential a credentialType = .error .accountCredentialNotExist := by
  unfold deleteAccountCredential at h
  cases hj : a.accountCredential with
  | none => exact getAccountCredential_of_none hj credentialType
  | some j =>
      have hobject : isObject j = true := by
        have hjson := ha.json
        rw [hj] at hjson
        exact isObject_of_isRecord hjson
      rw [hj] at h
      dsimp only at h
      split at h
      · next hfound =>
        rw [hobject, Bool.not_true, Bool.false_or] at hfound
        unfold getAccountCredential
        dsimp only
        rw [hj, Option.getD_some, if_pos hfound]
      · cases h

end records

section invariants

variable {sha256 : Sha256} {subspace : Bool} {v v' : Vault Assets} {s : Traced} {a b : AppAccountInfo}
  {key type aliasName : String}

theorem credential_eq_some : credential v key type = some aliasName ↔
    ∃ a, v.store.accounts[key]? = some a ∧ getAccountCredential a type = .ok aliasName := by
  unfold credential
  rw [Option.bind_eq_some_iff]
  refine exists_congr fun a => and_congr_right fun _ => ?_
  cases getAccountCredential a type with
  | error e => exact ⟨nofun, nofun⟩
  | ok found => exact ⟨fun h => congrArg Except.ok (Option.some.inj h),
      fun h => congrArg some (Except.ok.inj h)⟩

theorem credential_of_none (h : v.store.accounts[key]? = none) (type : String) : credential v key type = none := by
  unfold credential
  rw [h]
  rfl

theorem credential_of_some (h : v.store.accounts[key]? = some a) (type : String) :
    credential v key type = (getAccountCredential a type).toOption := by
  unfold credential
  rw [h]
  rfl

/-- The records are regular and their credentials have aliases and secrets of their own, with the
values that were set last. -/
structure Tidy (sha256 : Sha256) (s : Traced) : Prop where
  agree : Agree s.vault.store
  regular : ∀ (k : String) (a : AppAccountInfo), s.vault.store.accounts[k]? = some a → Regular sha256 a
  label : ∀ (aliasName : String) (asset : Asset), s.vault.assets[aliasName]? = some asset →
    '#' ∉ asset.accountLabel.toList
  owner : ∀ (k : String) (a : AppAccountInfo) (type aliasName : String) (asset : Asset),
    s.vault.store.accounts[k]? = some a → NoNul type → getAccountCredential a type = .ok aliasName →
      s.vault.assets[aliasName]? = some asset → asset.hapLabel = ownerKey a.owner a.appIndex
  alone : ∀ k t k' t' aliasName, NoNul t → NoNul t' → credential s.vault k t = some aliasName →
    credential s.vault k' t' = some aliasName → k = k' ∧ t = t'
  value : ∀ k t, s.last k t = if NoNul t then
    (credential s.vault k t).map fun aliasName => (s.vault.assets.data aliasName).getD "" else none

structure Spared (v v' : Vault Assets) : Prop where
  account : ∀ (k : String) (a' : AppAccountInfo), v'.store.accounts[k]? = some a' →
    (v.store.accounts[k]? = none ∧ a'.accountCredential = none ∧ isEmptyOrOversize a'.name nameMaxSize = false) ∨
    ∃ a, v.store.accounts[k]? = some a ∧ a'.owner = a.owner ∧ a'.appIndex = a.appIndex ∧ a'.name = a.name ∧
      a'.accountCredential = a.accountCredential
  assets : ∀ k t aliasName, NoNul t → credential v k t = some aliasName → v'.store.accounts[k]? ≠ none →
    v'.assets[aliasName]? = v.assets[aliasName]?

theorem Spared.of_assets (hstore : v'.store = v.store)
    (h : ∀ k t aliasName, NoNul t → credential v k t = some aliasName →
      v'.assets[aliasName]? = v.assets[aliasName]?) :
    Spared v v' := by
  refine ⟨fun k a ha => .inr ⟨a, ?_, rfl, rfl, rfl, rfl⟩, fun k t aliasName ht hc _ => h k t aliasName ht hc⟩
  rw [← hstore]
  exact ha

theorem Spared.refl (v : Vault Assets) : Spared v v := .of_assets rfl fun _ _ _ _ _ => rfl

theorem Spared.of_put (ha : v.store.accounts[key]? = some a) (hb : b.owner = a.owner ∧ b.appIndex = a.appIndex ∧
    b.name = a.name ∧ b.accountCredential = a.accountCredential) (hstore : v'.store = v.store.put key b)
    (h : ∀ k t aliasName, NoNul t → credential v k t = some aliasName →
      v'.assets[aliasName]? = v.assets[aliasName]?) :
    Spared v v' := by
  refine ⟨fun k a' ha' => .inr ?_, fun k t aliasName ht hc _ => h k t aliasName ht hc⟩
  rw [hstore, Store.getElem?_put] at ha'
  split at ha'
  · next he =>
      subst he
      obtain rfl := Option.some.inj ha'
      exact ⟨a, ha, hb⟩
  · exact ⟨a', ha', rfl, rfl, rfl, rfl⟩

theorem Regular.of_none (hname : isEmptyOrOversize a.name nameMaxSize = false) (h : a.accountCredential = none) :
    Regular sha256 a := by
  refine ⟨hname, ?_, fun type aliasName _ hget => ?_⟩
  · rw [h]
    exact List.nodup_nil
  · rw [getAccountCredential_of_none h] at hget
    cases hget

theorem Regular.congr (ha : Regular sha256 a) (hb : b.owner = a.owner ∧ b.appIndex = a.appIndex ∧ b.name = a.name ∧
    b.accountCredential = a.accountCredential) : Regular sha256 b := by
  obtain ⟨howner, hindex, hname, hcredential⟩ := hb
  have hkey : b.getPrimeKey = a.getPrimeKey := by
    unfold getPrimeKey
    rw [howner, hindex, hname]
  refine ⟨hname ▸ ha.name, hcredential ▸ ha.json, fun type aliasName htext hget => ?_⟩
  rw [getAccountCredential_congr hcredential] at hget
  rw [aliasOf_eq _ hkey]
  exact ha.type type aliasName htext hget

theorem Spared.credential_eq (h : Spared v v') (k type : String) :
    credential v' k type = if v'.store.accounts[k]? = none then none else credential v k type := by
  cases ha' : v'.store.accounts[k]? with
  | none => exact credential_of_none ha' type
  | some a' =>
      rw [if_neg nofun, credential_of_some ha']
      rcases h.account k a' ha' with ⟨hnone, hcredential, -⟩ | ⟨a, ha, -, -, -, hcredential⟩
      · rw [credential_of_none hnone, getAccountCredential_of_none hcredential]
        rfl
      · rw [credential_of_some ha, getAccountCredential_congr hcredential]

theorem tidy_spared (h : Tidy sha256 s) (hv : Spared s.vault v') (hagree : Agree v'.store)
    (hlabel : ∀ (aliasName : String) (asset : Asset), v'.assets[aliasName]? = some asset →
      '#' ∉ asset.accountLabel.toList) {last : String → String → Option String}
    (hlast : ∀ k t, last k t = if v'.store.accounts[k]? = none then none else s.last k t) :
    Tidy sha256 ⟨v', last⟩ := by
  have hold : ∀ k t aliasName, credential v' k t = some aliasName → v'.store.accounts[k]? ≠ none ∧
      credential s.vault k t = some aliasName := by
    intro k t aliasName hc
    rw [hv.credential_eq] at hc
    split at hc
    · cases hc
    · next hne => exact ⟨hne, hc⟩
  refine ⟨hagree, fun k a' ha' => ?_, hlabel, fun k a' t aliasName asset ha' ht hget hasset => ?_,
    fun k t k' t' aliasName ht ht' hc hc' => ?_, fun k t => ?_⟩
  · rcases hv.account k a' ha' with ⟨-, hcredential, hname⟩ | ⟨a, ha, hb⟩
    · exact .of_none hname hcredential
    · exact (h.regular k a ha).congr hb
  · obtain ⟨hne, hc⟩ := hold k t aliasName (credential_eq_some.mpr ⟨a', ha', hget⟩)
    rw [hv.assets k t aliasName ht hc hne] at hasset
    obtain ⟨a, ha, hget'⟩ := credential_eq_some.mp hc
    rcases hv.account k a' ha' with ⟨hnone, -⟩ | ⟨a₀, ha₀, howner, hindex, -⟩
    · rw [hnone] at ha
      cases ha
    · obtain rfl : a = a₀ := Option.some.inj (ha.symm.trans ha₀)
      rw [howner, hindex]
      exact h.owner k a t aliasName asset ha ht hget' hasset
  · exact h.alone k t k' t' aliasName ht ht' (hold k t aliasName hc).2 (hold k' t' aliasName hc').2
  · dsimp only
    rw [hlast, hv.credential_eq]
    by_cases hne : v'.store.accounts[k]? = none
    · rw [if_pos hne, if_pos hne, Option.map_none, ite_self]
    · rw [if_neg hne, if_neg hne, h.value]
      refine if_ctx_congr Iff.rfl (fun ht => ?_) fun _ => rfl
      cases hc : credential s.vault k t with
      | none => rfl
      | some aliasName =>
          unfold Assets.data
          rw [Option.map_some, Option.map_some, hv.assets k t aliasName ht hc hne]

theorem performWritten_refuse (s : Store) : performWritten refuse s = (.error .invalidParameter, s) := rfl

theorem createAccount_spared (caller : AppAccountCallingInfo) (name : String) (customData : ExtTreeMap String String)
    (h : Agree v.store) (hop : NoNul caller.bundleName.1 ∧ NoNul name) :
    let v' := (serveCreateAccount caller name v customData).2
    Agree v'.store ∧ Spared v v' ∧ v'.assets = v.assets := by
  refine ⟨(leaves_serve h false (r := .createAccount caller name customData) hop).agree h, ?_, rfl⟩
  unfold serveCreateAccount AppAccountService.serveCreateAccount
  by_cases hguard : (isEmptyOrOversize name nameMaxSize || customDataOversize customData) = true
  · rw [if_pos hguard, performWritten_refuse]
    exact .refl v
  · rw [if_neg hguard, (performWritten_eq (keeps_createAccount hop.1 hop.2 customData) h.kept).1]
    have hperform := AppAccountFailures.perform_add (a := caller.account name)
      (b := { caller.account name with associatedData := some (createJsonFromMap customData) }) rfl
      (createAccount (caller.account name) customData) rfl v.store
    cases hk : v.store.accounts[(caller.account name).getPrimeKey]? with
    | some stored =>
        rw [hk] at hperform
        rw [hperform]
        exact .refl v
    | none =>
        rw [hk] at hperform
        dsimp only at hperform
        split at hperform
        · rw [hperform]
          exact .refl v
        · rw [hperform]
          refine ⟨fun k a' ha' => ?_, fun _ _ _ _ _ _ => rfl⟩
          dsimp only at ha'
          rw [Store.getElem?_put] at ha'
          split at ha'
          · next he =>
              subst he
              obtain rfl := Option.some.inj ha'
              refine .inl ⟨hk, rfl, ?_⟩
              rw [Bool.not_eq_true, Bool.or_eq_false_iff] at hguard
              exact hguard.1
          · exact .inr ⟨a', ha', rfl, rfl, rfl, rfl⟩

variable {assets : Assets}

theorem removeByKey_eq (a : AppAccountInfo) (hlabel : ∀ (aliasName : String) (asset : Asset),
    assets[aliasName]? = some asset → '#' ∉ asset.accountLabel.toList) (aliasName : String) :
    (assets.removeByAccountLabel a.getPrimeKey)[aliasName]? = assets[aliasName]? := by
  unfold Assets.removeByAccountLabel
  rw [ExtTreeMap.getElem?_filter']
  cases hasset : assets[aliasName]? with
  | none => rfl
  | some asset =>
      rw [Option.filter_some, if_pos]
      refine decide_eq_true fun he => hlabel aliasName asset hasset ?_
      rw [he, toList_getPrimeKey]
      exact List.mem_append_right _ List.mem_cons_self

theorem deleteAccount_spec (h : Tidy sha256 s) (caller : AppAccountCallingInfo) (name : String) :
    let v' := (serveDeleteAccount caller name s.vault).2
    Agree v'.store ∧ Spared s.vault v' ∧ (∀ aliasName : String, v'.assets[aliasName]? = s.vault.assets[aliasName]?) ∧
      ((serveDeleteAccount caller name s.vault).1 = .ok () →
        (caller.account name).getPrimeKey ∈ s.vault.store.accounts) := by
  unfold serveDeleteAccount AppAccountService.serveDeleteAccount
  by_cases hguard : isEmptyOrOversize name nameMaxSize = true
  · rw [if_pos hguard, performWritten_refuse]
    exact ⟨h.agree, .refl _, fun _ => rfl, nofun⟩
  rw [if_neg hguard]
  have hleft := (leaves_deleteAccount h.agree caller name caller.callingUid).agree h.agree
  have hsame := (performWritten_eq (keeps_deleteAccount (a := caller.account name) (D := anyDocument) (K := anyKey)
    (reads_newAccount _ _ _) trivial caller.callingUid name) h.agree.kept).1
  rw [hsame] at hleft ⊢
  cases hk : s.vault.store.accounts[(caller.account name).getPrimeKey]? with
  | none =>
      have hperform : perform (deleteAccount (caller.account name) caller.callingUid name) s.vault.store =
          (.error .getAccountInfoById, s.vault.store) := by
        unfold perform deleteAccount
        rw [Program.exec_bind, exec_getAccountInfo_of_none hk]
        rfl
      rw [hperform]
      exact ⟨h.agree, .refl _, fun _ => rfl, nofun⟩
  | some a =>
      have hkey := h.agree.toKeyed.key _ _ hk
      have hdeleted : AppAccountFailures.deleted s.vault.store (caller.account name) = some a := by
        unfold AppAccountFailures.deleted
        rw [hk, Option.bind_some, show (caller.account name).fromJson a = a from fromJson_newAccount .., ← hkey, hk,
          Option.map_some, fromJson_self]
      rw [AppAccountFailures.perform_deleteAccount hdeleted] at hleft ⊢
      have hstored : s.vault.store.accounts[a.getPrimeKey]? = some a := hkey ▸ hk
      have hassets := removeByKey_eq (caller.account name) h.label
      refine ⟨hleft, ⟨fun k a' ha' => .inr ⟨a', ?_, rfl, rfl, rfl, rfl⟩,
        fun k t aliasName _ _ _ => hassets aliasName⟩, hassets, fun _ => ?_⟩
      · unfold Store.removeAccount at ha'
        dsimp only at ha'
        rw [getElem?_erase_eq] at ha'
        split at ha'
        · cases ha'
        · exact ha'
      · rw [← ExtTreeMap.isSome_getElem?_iff_mem, hk]
        rfl

theorem ownerKey_injective {owner owner' : String} {i j : Nat} (howner : '#' ∉ owner.toList)
    (howner' : '#' ∉ owner'.toList) (h : ownerKey owner i = ownerKey owner' j) : owner = owner' ∧ i = j := by
  have hprefix := (ownerKey_prefix_iff (newAccount owner i "") howner howner).mpr ⟨rfl, continues_refl i⟩
  rw [h] at hprefix
  obtain ⟨heq, -⟩ := (ownerKey_prefix_iff (newAccount owner i "") howner' howner).mp hprefix
  change owner = owner' at heq
  subst heq
  unfold ownerKey at h
  have hlist := congrArg String.toList h
  rw [String.toList_append, String.toList_append, String.toList_append, String.toList_append] at hlist
  exact ⟨rfl, toString_nat_injective (List.append_cancel_left hlist)⟩

theorem onPackageRemoved_spec (h : Tidy sha256 s) (isOsAccountRemoved : Bool) (uid : Nat) (bundleName : BundleName)
    (appIndex : Nat) : let v' := (onPackageRemoved s.vault isOsAccountRemoved uid bundleName appIndex).2
    Agree v'.store ∧ Spared s.vault v' ∧ ∀ (aliasName : String) (asset : Asset),
      v'.assets[aliasName]? = some asset → s.vault.assets[aliasName]? = some asset := by
  cases isOsAccountRemoved with
  | true => exact ⟨h.agree, .refl _, fun _ _ hasset => hasset⟩
  | false =>
      have hleft := (leaves_onPackageRemoved h.agree false uid bundleName appIndex).agree h.agree
      have hremoved : performWritten (AppAccountStore.onPackageRemoved false uid bundleName.1 appIndex) s.vault.store =
          (.ok (), removed s.vault.store bundleName.1 appIndex uid) := by
        rw [(performWritten_eq (keeps_packageRemoved false uid bundleName appIndex) h.agree.kept).1]
        exact Prod.ext (by rw [perform_onPackageRemoved]) rfl
      unfold onPackageRemoved
      dsimp only
      rw [hremoved] at hleft ⊢
      dsimp only
      have hkept : ∀ (k : String) (a : AppAccountInfo),
        (removed s.vault.store bundleName.1 appIndex uid).accounts[k]? =
          some a → s.vault.store.accounts[k]? = some a ∧ ¬Owns bundleName.1 appIndex a := by
        intro k a ha
        rw [accounts_removed h.agree.toKeyed bundleName.2] at ha
        obtain ⟨ha, howns⟩ := Option.filter_eq_some_iff.mp ha
        exact ⟨ha, by simpa using howns⟩
      refine ⟨hleft,
        ⟨fun k a' ha' => .inr ⟨a', (hkept k a' ha').1, rfl, rfl, rfl, rfl⟩, fun k t aliasName ht hc hne => ?_⟩,
        fun aliasName asset hasset => ?_⟩
      · obtain ⟨a, ha⟩ := Option.ne_none_iff_exists'.mp hne
        obtain ⟨hstored, howns⟩ := hkept k a ha
        obtain ⟨a₀, ha₀, hget⟩ := credential_eq_some.mp hc
        obtain rfl : a = a₀ := Option.some.inj (hstored.symm.trans ha₀)
        dsimp only
        unfold Assets.removeByHapLabel
        rw [ExtTreeMap.getElem?_filter']
        cases hasset : s.vault.assets[aliasName]? with
        | none => rfl
        | some asset =>
            rw [Option.filter_some, if_pos]
            refine decide_eq_true fun he => howns ?_
            rw [h.owner k a t aliasName asset hstored ht hget hasset] at he
            exact ownerKey_injective (h.agree.toKeyed.owner k a hstored) bundleName.2 he
      · unfold Assets.removeByHapLabel at hasset
        rw [ExtTreeMap.getElem?_filter'] at hasset
        exact (Option.filter_eq_some_iff.mp hasset).1

theorem setOAuthToken_record {sha256 : Sha256} {authType text : String}
    (h : AssetStore.setOAuthToken (.asset sha256) a authType text = .ok b) :
    ∃ oauthTokens, b = { a with oauthTokens } := by
  obtain ⟨tokenInfo, hb, -⟩ := setOAuthToken_ok h
  exact ⟨_, hb⟩

theorem saved_alias {text : String} (h : AssetStore.setOAuthToken (.asset sha256) a type text = .ok b) :
    (b.getOAuthToken type apiVersion8).toOption.getD "" = savedAlias sha256 a type := by
  obtain ⟨info, rfl, -, htoken, -⟩ := setOAuthToken_ok h
  unfold recordToken at htoken
  dsimp only at htoken
  unfold AppAccountInfo.getOAuthToken savedAlias
  rw [TokenDeletion.getElem?_inserted, ← htoken]
  dsimp only
  rw [if_neg (by decide)]
  split
  · next hempty => exact hempty.symm
  · rfl

theorem deletedToken_record {sha256 : Sha256} {authType text : String} {apiVersion : Nat}
    {isOwnerSelf : Bool} (h : (if apiVersion ≥ apiVersion9 then a.deleteAuthToken authType text isOwnerSelf
      else AssetStore.deleteOAuthToken (.asset sha256) a authType text) = .ok b) :
    ∃ oauthTokens, b = { a with oauthTokens } := by
  split at h
  · unfold deleteAuthToken at h
    split at h
    · cases h
    split at h
    · exact ⟨a.oauthTokens, (Except.ok.inj h).symm⟩
    split at h
    · exact ⟨_, (Except.ok.inj h).symm⟩
    · exact ⟨_, (Except.ok.inj h).symm⟩
  · unfold AssetStore.deleteOAuthToken at h
    dsimp only at h
    split at h
    · split at h
      · exact ⟨_, (Except.ok.inj h).symm⟩
      · cases h
    · cases h

theorem written_same (ha : a.Plain) (howner : b.owner = a.owner) (hindex : b.appIndex = a.appIndex)
    (hname : b.name = a.name) (hcredential : b.accountCredential = a.accountCredential) :
    let b' := b.toJson.written
    b'.owner = a.owner ∧ b'.appIndex = a.appIndex ∧ b'.name = a.name ∧ b'.accountCredential = a.accountCredential := by
  refine ⟨?_, hindex, ?_, hcredential⟩
  · change cStr b.owner = a.owner
    rw [howner, ha.owner.cStr]
  · change cStr b.name = a.name
    rw [hname, ha.name.cStr]

theorem agree_save (h : Agree v.store) (ha : v.store.accounts[key]? = some a) (hkey : b.getPrimeKey = a.getPrimeKey)
    (howner : b.owner = a.owner) (happs : b.authorizedApps = a.authorizedApps) (assets : Assets) :
    Vault.save ⟨v.store, assets⟩ b = (.ok (), ⟨v.store.put key b.toJson.written, assets⟩) ∧
      Agree (v.store.put key b.toJson.written) := by
  obtain ⟨hkeyA, hownerA, -, hplain⟩ := h.kept key a ha
  have he : b.toJson.getPrimeKey = key := hkey.trans hkeyA
  have hnul : NoNul b.toJson.getPrimeKey := by
    rw [he, ← hkeyA]
    exact hplain.getPrimeKey
  have hownerB : b.toJson.written.owner = a.owner := by
    change cStr b.owner = a.owner
    rw [howner, hplain.owner.cStr]
  have happsB : b.toJson.written.authorizedApps = a.authorizedApps := by
    change writtenTexts b.authorizedApps = a.authorizedApps
    rw [happs, writtenTexts_eq hplain.authorizedApps]
  have hwritten : b.toJson.written.getPrimeKey = key := (getPrimeKey_written hnul).trans he
  have hkept : Kept anyDocument key b.toJson.written :=
    ⟨hwritten, hownerB ▸ hownerA, fun _ _ => trivial, plain_written b.toJson⟩
  refine ⟨?_, ?_, (Frame.put (K := anyKey) ⟨h.kept, fun _ _ => rfl⟩ trivial hkept).kept⟩
  · rw [save_eq (v := ⟨v.store, assets⟩) (a := b) (by rw [show b.getPrimeKey = key from he]; exact ha),
      show b.getPrimeKey = key from he]
  · have hstored : v.store.accounts[b.toJson.written.getPrimeKey]? = some a := hwritten ▸ ha
    have heffect := Effect.updated b.toJson.written a hstored (hownerB ▸ hownerA) fun app => by rw [happsB]
    rw [hwritten] at heffect
    exact listed_of_effect h heffect

theorem getElem?_saved {hapLabel accountLabel name value : String}
    (hsame : value = "" ∨ assets.data name = some value ∨ aliasName ≠ name) :
    (assets.save hapLabel accountLabel name value)[aliasName]? = assets[aliasName]? := by
  unfold Assets.save
  split
  · rfl
  · next hvalue =>
    by_cases hne : aliasName = name
    · subst hne
      obtain ⟨asset, hasset, rfl⟩ :=
        Option.map_eq_some_iff.mp ((hsame.resolve_left hvalue).resolve_right fun h => h rfl)
      rw [hasset]
      dsimp only
      rw [getElem?_insert_eq, if_pos rfl]
    · split
      · rw [getElem?_insert_eq, if_neg (Ne.symm hne)]
      · rw [getElem?_insert_eq, if_neg (Ne.symm hne)]

theorem label_saved {hapLabel accountLabel name value : String} (haccount : '#' ∉ accountLabel.toList)
    (h : ∀ (aliasName : String) (asset : Asset), assets[aliasName]? = some asset → '#' ∉ asset.accountLabel.toList)
    {asset : Asset} (hasset : (assets.save hapLabel accountLabel name value)[aliasName]? = some asset) :
    '#' ∉ asset.accountLabel.toList := by
  unfold Assets.save at hasset
  split at hasset
  · exact h aliasName asset hasset
  split at hasset
  · rw [getElem?_insert_eq] at hasset
    split at hasset
    · obtain rfl := Option.some.inj hasset
      exact haccount
    · exact h aliasName asset hasset
  · next old hold =>
    rw [getElem?_insert_eq] at hasset
    split at hasset
    · obtain rfl := Option.some.inj hasset
      exact h name old hold
    · exact h aliasName asset hasset

theorem setOAuthToken_step (h : Tidy sha256 s) {request : AuthenticatorSessionRequest} {resolvedAppIndex : Nat}
    (hop : Careful sha256 subspace s (.setOAuthToken request resolvedAppIndex)) :
    let v' := (serveSetOAuthToken (.asset sha256) mapService request resolvedAppIndex s.vault).2
    Agree v'.store ∧ Spared s.vault v' ∧ ∀ (aliasName : String) (asset : Asset), v'.assets[aliasName]? = some asset →
      '#' ∉ asset.accountLabel.toList := by
  unfold serveSetOAuthToken
  rw [load_newAccount]
  generalize hkey : (newAccount request.callerBundleName resolvedAppIndex request.name).getPrimeKey = key
  cases ha : s.vault.store.accounts[key]? with
  | none => exact ⟨h.agree, .refl _, h.label⟩
  | some a =>
      dsimp only
      cases hb : AssetStore.setOAuthToken (.asset sha256) a request.authType request.token with
      | error e => exact ⟨h.agree, .refl _, h.label⟩
      | ok b =>
          dsimp only
          have halias := saved_alias hb
          obtain ⟨oauthTokens, rfl⟩ := setOAuthToken_record hb
          obtain ⟨hsave, hagree⟩ :=
            agree_save (b := { a with oauthTokens }) h.agree ha rfl rfl rfl s.vault.assets
          rw [hsave]
          dsimp only
          rw [halias, saveDataToAsset_map]
          refine ⟨hagree, .of_put (b := (AppAccountInfo.toJson { a with oauthTokens }).written) ha
            (written_same (h.agree.kept key a ha).plain rfl rfl rfl rfl) rfl
            fun k t aliasName _ hc => ?_, fun aliasName asset hasset => ?_⟩
          · refine getElem?_saved
              ((hop a (hkey ▸ ha)).imp_right (Or.imp_right fun hunused he => ?_))
            exact hunused k t (he ▸ hc)
          · exact label_saved (notMem_computeHash (by decide) sha256 _) h.label hasset

theorem deleteOAuthToken_step (h : Tidy sha256 s) {request : AuthenticatorSessionRequest}
    {resolvedAppIndex apiVersion : Nat}
    (hop : Careful sha256 subspace s (.deleteOAuthToken request resolvedAppIndex apiVersion)) :
    let v' := (serveDeleteOAuthToken (.asset sha256) mapService subspace request resolvedAppIndex apiVersion s.vault).2
    Agree v'.store ∧ Spared s.vault v' ∧ ∀ (aliasName : String) (asset : Asset), v'.assets[aliasName]? = some asset →
      '#' ∉ asset.accountLabel.toList := by
  unfold serveDeleteOAuthToken
  rw [load_newAccount]
  generalize hkey : (newAccount request.owner resolvedAppIndex request.name).getPrimeKey = key
  have hunchanged : Agree s.vault.store ∧ Spared s.vault s.vault ∧ ∀ (aliasName : String) (asset : Asset),
      s.vault.assets[aliasName]? = some asset → '#' ∉ asset.accountLabel.toList := ⟨h.agree, .refl _, h.label⟩
  cases ha : s.vault.store.accounts[key]? with
  | none => exact hunchanged
  | some a =>
      dsimp only
      split
      · next hvisible =>
        cases hget : a.getOAuthToken request.authType apiVersion with
        | error e => exact hunchanged
        | ok found =>
            dsimp only
            have hquery : getDataFromAsset mapService found s.vault.assets =
                (s.vault.assets.data found, s.vault.assets) := rfl
            rw [hquery]
            dsimp only
            split
            · exact hunchanged
            · next hsame =>
              rw [not_not] at hsame
              have hassets : ∀ k t aliasName, NoNul t → credential s.vault k t = some aliasName →
                  (s.vault.assets.remove found)[aliasName]? = s.vault.assets[aliasName]? := by
                intro k t aliasName _ hc
                unfold Assets.remove
                rw [getElem?_erase_eq]
                split
                · next he =>
                  subst he
                  cases hdata : s.vault.assets.data found with
                  | none => exact (Option.map_eq_none_iff.mp hdata).symm
                  | some value =>
                      rw [hdata, Option.getD_some] at hsame
                      exact absurd hc (hop a found (hkey ▸ ha) hvisible hget (hsame ▸ hdata) k t)
                · rfl
              have hlabel : ∀ (aliasName : String) (asset : Asset),
                  (s.vault.assets.remove found)[aliasName]? = some asset →
                      '#' ∉ asset.accountLabel.toList := by
                intro aliasName asset hasset
                unfold Assets.remove at hasset
                rw [getElem?_erase_eq] at hasset
                split at hasset
                · cases hasset
                · exact h.label aliasName asset hasset
              rw [removeDataFromAsset_map]
              unfold finishDeletion Vault.setAssets
              generalize hb : (if apiVersion ≥ apiVersion9 then a.deleteAuthToken request.authType found
                (request.owner = request.callerBundleName)
                else AssetStore.deleteOAuthToken (.asset sha256) a request.authType found) = r
              cases r with
              | error e => exact ⟨h.agree, .of_assets rfl hassets, hlabel⟩
              | ok b =>
                  obtain ⟨oauthTokens, rfl⟩ := deletedToken_record hb
                  obtain ⟨hsave, hagree⟩ := agree_save (b := { a with oauthTokens }) h.agree ha rfl rfl rfl
                    (s.vault.assets.remove found)
                  dsimp only
                  rw [hsave]
                  exact ⟨hagree, .of_put (b := (AppAccountInfo.toJson { a with oauthTokens }).written) ha
                    (written_same (h.agree.kept key a ha).plain rfl rfl rfl rfl) rfl hassets, hlabel⟩
      · exact hunchanged

theorem credential_put (assets : Assets) (ha : v.store.accounts[key]? = some a) {credentialType : String}
    {r : Except ErrCode String} (hget : ∀ type, NoNul type → getAccountCredential b type =
      if credentialType = type then r else getAccountCredential a type) (k : String) {t : String} (ht : NoNul t) :
    credential ⟨v.store.put key b.toJson.written, assets⟩ k t =
      if key = k ∧ credentialType = t then r.toOption else credential v k t := by
  unfold credential
  dsimp only
  rw [Store.getElem?_put]
  by_cases hk : key = k
  · subst hk
    rw [if_pos rfl, ha, Option.bind_some, Option.bind_some, show getAccountCredential b.toJson.written t =
      getAccountCredential b t from rfl, hget t ht]
    by_cases hsame : credentialType = t
    · rw [if_pos hsame, if_pos ⟨rfl, hsame⟩]
    · rw [if_neg hsame, if_neg fun h => hsame h.2]
  · rw [if_neg hk, if_neg fun h => hk h.1]

theorem regular_put (h : Tidy sha256 s) (hb : Regular sha256 b) (hplain : NoNul b.owner ∧ NoNul b.name) (k : String)
    (a' : AppAccountInfo) (ha' : (s.vault.store.put key b.toJson.written).accounts[k]? = some a') :
    Regular sha256 a' := by
  rw [Store.getElem?_put] at ha'
  split at ha'
  · obtain rfl := Option.some.inj ha'
    exact hb.congr ⟨hplain.1.cStr, rfl, hplain.2.cStr, rfl⟩
  · exact h.regular k a' ha'

theorem hapLabel_saved {hapLabel accountLabel name value : String} {asset : Asset}
    (hold : ∀ asset : Asset, assets[name]? = some asset → asset.hapLabel = hapLabel)
    (hasset : (assets.save hapLabel accountLabel name value)[name]? = some asset) :
    asset.hapLabel = hapLabel := by
  unfold Assets.save at hasset
  split at hasset
  · exact hold asset hasset
  split at hasset
  · rw [getElem?_insert_eq, if_pos rfl] at hasset
    obtain rfl := Option.some.inj hasset
    rfl
  · next old hfound =>
    rw [getElem?_insert_eq, if_pos rfl] at hasset
    obtain rfl := Option.some.inj hasset
    exact hold old hfound

theorem data_save (hapLabel accountLabel name value : String) (assets : Assets) :
    ((assets.save hapLabel accountLabel name value).data name).getD "" =
      if value = "" then (assets.data name).getD "" else value := by
  unfold Assets.save Assets.data
  by_cases hvalue : value = ""
  · rw [if_pos hvalue, if_pos hvalue]
  · rw [if_neg hvalue, if_neg hvalue]
    cases assets[name]? with
    | none =>
        dsimp only
        rw [getElem?_insert_eq, if_pos rfl]
        rfl
    | some asset =>
        dsimp only
        rw [getElem?_insert_eq, if_pos rfl]
        rfl

theorem data_saved {hapLabel accountLabel name value : String}
    (hold : assets[name]? ≠ none → value ≠ "") :
    ((assets.save hapLabel accountLabel name value).data name).getD "" = value := by
  rw [data_save]
  split
  · next hvalue =>
    have hnone : assets[name]? = none := not_not.mp fun hne => hold hne hvalue
    rw [Assets.data, hnone, hvalue]
    rfl
  · rfl

theorem tidy_credential (h : Tidy sha256 s) (ha : s.vault.store.accounts[key]? = some a) (hb : Regular sha256 b)
    (howner : b.owner = a.owner ∧ b.appIndex = a.appIndex ∧ b.name = a.name) {credentialType : String}
    (hnul : NoNul credentialType) {r : Except ErrCode String} (hget : ∀ type, NoNul type →
      getAccountCredential b type = if credentialType = type then r else getAccountCredential a type)
    (hagree : Agree (s.vault.store.put key b.toJson.written))
    (hlabel : ∀ (aliasName : String) (asset : Asset), assets[aliasName]? = some asset → '#' ∉ asset.accountLabel.toList)
    (hother : ∀ k t aliasName, NoNul t → ¬(key = k ∧ credentialType = t) → credential s.vault k t = some aliasName →
      assets[aliasName]? = s.vault.assets[aliasName]?)
    (hself : ∀ aliasName, r = .ok aliasName →
      (∀ k t, NoNul t → credential s.vault k t = some aliasName → key = k ∧ credentialType = t) ∧
      ∀ asset : Asset, assets[aliasName]? = some asset → asset.hapLabel = ownerKey a.owner a.appIndex)
    {last : String → String → Option String} (hlast : ∀ k t, last k t = if key = k ∧ credentialType = t then
      r.toOption.map fun aliasName => (assets.data aliasName).getD "" else s.last k t) :
    Tidy sha256 ⟨⟨s.vault.store.put key b.toJson.written, assets⟩, last⟩ := by
  have hplain := (h.agree.kept key a ha).plain
  have hnames : NoNul b.owner ∧ NoNul b.name := by
    rw [howner.1, howner.2.2]
    exact ⟨hplain.owner, hplain.name⟩
  have howners : ownerKey b.toJson.written.owner b.toJson.written.appIndex = ownerKey a.owner a.appIndex := by
    change ownerKey (cStr b.owner) b.appIndex = _
    rw [hnames.1.cStr, howner.1, howner.2.1]
  have hcredential := fun k {t} (ht : NoNul t) => credential_put assets ha hget k ht
  have hof : ∀ {aliasName : String}, r.toOption = some aliasName → r = .ok aliasName := by
    intro aliasName hr
    cases r with
    | error e => cases hr
    | ok found => exact congrArg Except.ok (Option.some.inj hr)
  refine ⟨hagree, regular_put h hb hnames, hlabel, fun k a' t aliasName asset ha' ht hget' hasset => ?_,
    fun k t k' t' aliasName ht ht' hc hc' => ?_, fun k t => ?_⟩
  · have hc := (hcredential k ht).symm.trans (credential_eq_some.mpr ⟨a', ha', hget'⟩)
    dsimp only at ha' hasset
    split at hc
    · next hk =>
        obtain ⟨rfl, rfl⟩ := hk
        rw [Store.getElem?_put, if_pos rfl] at ha'
        obtain rfl := Option.some.inj ha'
        rw [howners]
        exact (hself aliasName (hof hc)).2 asset hasset
    · next hk =>
        obtain ⟨a₀, ha₀, hget₀⟩ := credential_eq_some.mp hc
        rw [hother k t aliasName ht hk hc] at hasset
        have hlabels := h.owner k a₀ t aliasName asset ha₀ ht hget₀ hasset
        rw [Store.getElem?_put] at ha'
        split at ha'
        · next he =>
            subst he
            obtain rfl := Option.some.inj ha'
            obtain rfl : a = a₀ := Option.some.inj (ha.symm.trans ha₀)
            rw [howners]
            exact hlabels
        · obtain rfl : a' = a₀ := Option.some.inj (ha'.symm.trans ha₀)
          exact hlabels
  · rw [hcredential k ht] at hc
    rw [hcredential k' ht'] at hc'
    split at hc
    · next hk =>
        split at hc'
        · next hk' => exact ⟨hk.1.symm.trans hk'.1, hk.2.symm.trans hk'.2⟩
        · next hk' => exact absurd ((hself aliasName (hof hc)).1 k' t' ht' hc') hk'
    · next hk =>
        split at hc'
        · exact absurd ((hself aliasName (hof hc')).1 k t ht hc) hk
        · exact h.alone k t k' t' aliasName ht ht' hc hc'
  · dsimp only
    rw [hlast]
    by_cases ht : NoNul t
    · rw [if_pos ht, hcredential k ht]
      split
      · rfl
      · next hk =>
        rw [h.value, if_pos ht]
        cases hc : credential s.vault k t with
        | none => rfl
        | some aliasName =>
            unfold Assets.data
            rw [Option.map_some, Option.map_some, hother k t aliasName ht hk hc]
    · have hne : credentialType ≠ t := fun he => ht (he ▸ hnul)
      rw [if_neg ht, if_neg fun he => hne he.2, h.value, if_neg ht]

theorem put_eq_none (ha : v.store.accounts[key]? = some a) (k : String) :
    (v.store.put key b).accounts[k]? = none ↔ v.store.accounts[k]? = none := by
  rw [Store.getElem?_put]
  split
  · next he =>
      subst he
      rw [ha]
      exact ⟨nofun, nofun⟩
  · exact Iff.rfl

def Writes (sha256 : Sha256) (s : Traced) (key credentialType : String) (value : Option String)
    (called : Ret × Vault Assets) : Prop :=
  (∃ e, called.1 = .error e ∧ Spared s.vault called.2 ∧ Agree called.2.store ∧
    ∀ (aliasName : String) (asset : Asset), called.2.assets[aliasName]? = some asset → '#' ∉ asset.accountLabel.toList) ∨
  called.1 = .ok () ∧ (∀ k : String, called.2.store.accounts[k]? = none → key ≠ k ∧ s.vault.store.accounts[k]? = none) ∧
    Tidy sha256 ⟨called.2, fun k t => if key = k ∧ credentialType = t then value else s.last k t⟩

theorem setAccountCredential_step (h : Tidy sha256 s) {caller : AppAccountCallingInfo}
    {name credentialType value : String}
    (hop : Careful sha256 subspace s (.setAccountCredential caller name credentialType value)) :
    Writes sha256 s (caller.account name).getPrimeKey credentialType (some value)
      (serveSetAccountCredential sha256 caller name credentialType value s.vault) := by
  have hrefused : ∀ e, Writes sha256 s (caller.account name).getPrimeKey credentialType (some value)
      (.error e, s.vault) := fun e => .inl ⟨e, rfl, .refl _, h.agree, h.label⟩
  unfold serveSetAccountCredential
  by_cases hguard : (isEmptyOrOversize name nameMaxSize || isEmptyOrOversize credentialType credentialTypeMaxSize ||
      isOversize value credentialMaxSize) = true
  · rw [if_pos hguard]
    exact hrefused _
  rw [if_neg hguard]
  rw [Bool.not_eq_true, Bool.or_eq_false_iff, Bool.or_eq_false_iff] at hguard
  obtain ⟨hnul, hunused, hasset⟩ := hop
  unfold AppAccountCallingInfo.account at hunused hasset hrefused ⊢
  rw [load_newAccount]
  generalize hkey : (newAccount caller.bundleName.1 caller.appIndex name).getPrimeKey =
    key at hunused hasset hrefused ⊢
  cases ha : s.vault.store.accounts[key]? with
  | none => exact hrefused _
  | some a =>
      dsimp only
      cases hb : setAccountCredential (.asset sha256) a credentialType value with
      | error e => exact hrefused e
      | ok b =>
          obtain ⟨⟨j, hj⟩, hregular, hget⟩ := setAccountCredential_spec (h.regular key a ha) hnul hguard.1.2 hb
          have hkeyA : a.getPrimeKey = key := (h.agree.kept key a ha).key
          have hkeyB : b.getPrimeKey = a.getPrimeKey := by rw [hj]; rfl
          obtain ⟨hsave, hagree⟩ :=
            agree_save (b := b) h.agree ha hkeyB (by rw [hj]) (by rw [hj]) s.vault.assets
          have howner := (getPrimeKey_inj (h.agree.kept key a ha).owner caller.bundleName.2
            (a := a) (b := newAccount caller.bundleName.1 caller.appIndex name)).mp (hkeyA.trans hkey.symm)
          rw [aliasOf_eq _ (hkey.trans hkeyA.symm)] at hunused hasset
          generalize aliasOf sha256 a credentialType = aliasName at hget hunused hasset
          have hself : getAccountCredential b credentialType = .ok aliasName := by
            rw [hget credentialType hnul, if_pos rfl]
          dsimp only
          rw [hsave]
          dsimp only
          rw [hself]
          refine .inr ⟨rfl, fun k hk => ?_, ?_⟩
          · have hnone := (put_eq_none ha k).mp hk
            refine ⟨fun he => ?_, hnone⟩
            rw [← he, ha] at hnone
            cases hnone
          · have hlabels : ∀ asset : Asset, s.vault.assets[aliasName]? = some asset →
                asset.hapLabel = ownerKey caller.bundleName.1 caller.appIndex :=
                  fun asset hold => (hasset asset hold).1
            refine tidy_credential h ha hregular (by rw [hj]; exact ⟨rfl, rfl, rfl⟩) hnul hget hagree
              (fun found asset hfound => label_saved (notMem_computeHash (by decide) sha256 _) h.label hfound)
              (fun k t found ht hne hc => getElem?_saved (.inr (.inr fun he => ?_)))
              (fun found hfound => ?_) (fun k t => ?_)
            · subst he
              exact hne ⟨(hunused k t ht hc).1.symm, (hunused k t ht hc).2.symm⟩
            · obtain rfl := Except.ok.inj hfound
              refine ⟨fun k t ht hc => ⟨(hunused k t ht hc).1.symm, (hunused k t ht hc).2.symm⟩,
                fun asset hsaved => ?_⟩
              rw [show a.owner = caller.bundleName.1 from howner.1,
                show a.appIndex = caller.appIndex from howner.2.1]
              exact hapLabel_saved hlabels hsaved
            · split
              · refine congrArg some (data_saved fun hne => ?_).symm
                obtain ⟨asset, hold⟩ := Option.ne_none_iff_exists'.mp hne
                exact (hasset asset hold).2
              · rfl

theorem deleteAccountCredential_step (h : Tidy sha256 s) {caller : AppAccountCallingInfo} {name credentialType : String}
    (hop : Careful sha256 subspace s (.deleteAccountCredential caller name credentialType)) :
    Writes sha256 s (caller.account name).getPrimeKey credentialType none
      (serveDeleteAccountCredential caller name credentialType s.vault) := by
  have hrefused : ∀ e, Writes sha256 s (caller.account name).getPrimeKey credentialType none
      (.error e, s.vault) := fun e => .inl ⟨e, rfl, .refl _, h.agree, h.label⟩
  unfold serveDeleteAccountCredential
  by_cases hguard : (isEmptyOrOversize name nameMaxSize || isEmptyOrOversize credentialType credentialTypeMaxSize) = true
  · rw [if_pos hguard]
    exact hrefused _
  rw [if_neg hguard]
  unfold Careful at hop
  dsimp only at hop
  unfold AppAccountCallingInfo.account at hop hrefused ⊢
  rw [load_newAccount]
  generalize hkey : (newAccount caller.bundleName.1 caller.appIndex name).getPrimeKey = key at hop hrefused ⊢
  cases ha : s.vault.store.accounts[key]? with
  | none => exact hrefused _
  | some a =>
      dsimp only
      have hlabel : ∀ name (aliasName : String) (asset : Asset),
          (s.vault.assets.remove name)[aliasName]? = some asset →
              '#' ∉ asset.accountLabel.toList := by
        intro name aliasName asset hasset
        unfold Assets.remove at hasset
        rw [getElem?_erase_eq] at hasset
        split at hasset
        · cases hasset
        · exact h.label aliasName asset hasset
      have hothers : ∀ {name aliasName : String}, name ≠ aliasName →
          (s.vault.assets.remove name)[aliasName]? = s.vault.assets[aliasName]? := by
        intro name aliasName hne
        unfold Assets.remove
        rw [getElem?_erase_eq, if_neg hne]
      unfold Vault.setAssets
      cases hb : deleteAccountCredential a credentialType with
      | error e =>
          have hname : (getAccountCredential a credentialType).toOption.getD "" = "" := by
            rw [deleteAccountCredential_error (h.regular key a ha) hb]
            rfl
          refine .inl ⟨e, rfl, .of_assets rfl fun k t aliasName ht hc => hothers ?_, h.agree, hlabel _⟩
          obtain ⟨a', ha', hget⟩ := credential_eq_some.mp hc
          rw [hname, ((h.regular k a' ha').type t aliasName ht hget).2]
          exact (aliasOf_ne_empty sha256 a' t).symm
      | ok b =>
          have hnul : NoNul credentialType := by
            refine hop.resolve_right fun hnone => ?_
            obtain ⟨found, hfound⟩ := deleteAccountCredential_found hb
            exact absurd (hnone.symm.trans (credential_eq_some.mpr ⟨a, ha, hfound⟩)) nofun
          obtain ⟨⟨j, hj⟩, hregular, hself, hget⟩ := deleteAccountCredential_spec (h.regular key a ha) hnul hb
          have hkeyA : a.getPrimeKey = key := (h.agree.kept key a ha).key
          have hkeyB : b.getPrimeKey = a.getPrimeKey := by rw [hj]; rfl
          generalize aliasOf sha256 a credentialType = aliasName at hself
          rw [hself]
          obtain ⟨hsave, hagree⟩ := agree_save (b := b) h.agree ha hkeyB (by rw [hj]) (by rw [hj])
            (s.vault.assets.remove aliasName)
          have hc' : credential s.vault key credentialType = some aliasName :=
            credential_eq_some.mpr ⟨a, ha, hself⟩
          dsimp only
          rw [show (Except.ok aliasName : Except ErrCode String).toOption.getD "" = aliasName from rfl, hsave]
          refine .inr ⟨rfl, fun k hk => ?_, ?_⟩
          · have hnone := (put_eq_none ha k).mp hk
            refine ⟨fun he => ?_, hnone⟩
            rw [← he, ha] at hnone
            cases hnone
          · refine tidy_credential h ha hregular (by rw [hj]; exact ⟨rfl, rfl, rfl⟩) hnul hget hagree (hlabel aliasName)
              (fun k t found ht hne hc => hothers fun he => ?_) nofun (fun k t => rfl)
            subst he
            exact hne (h.alone key credentialType k t aliasName hnul ht hc' hc)

theorem last_note {op : Operation} (hop : ∀ k t, lastSet s.last k t op = s.last k t) (k t : String) :
    (note sha256 subspace s op).last k t =
      if (call sha256 subspace s.vault op).2.store.accounts[k]? = none then none else s.last k t := by
  unfold note
  dsimp only
  cases (call sha256 subspace s.vault op).2.store.accounts[k]? with
  | none => rfl
  | some a =>
      rw [if_neg nofun]
      cases (call sha256 subspace s.vault op).1 with
      | error e => rfl
      | ok u => exact hop k t

theorem tidy_writes (h : Tidy sha256 s) {op : Operation} {credentialType : String} {value : Option String}
    (hop : ∀ k t, lastSet s.last k t op = if key = k ∧ credentialType = t then value else s.last k t)
    (hw : Writes sha256 s key credentialType value (call sha256 subspace s.vault op)) :
    Tidy sha256 (note sha256 subspace s op) := by
  rcases hw with ⟨e, herror, hspared, hagree, hlabel⟩ | ⟨hok, hstored, htidy⟩
  · refine tidy_spared h hspared hagree hlabel fun k t => ?_
    rw [herror]
    cases (call sha256 subspace s.vault op).2.store.accounts[k]? with
    | none => rfl
    | some a => rfl
  · have hnote : note sha256 subspace s op = ⟨(call sha256 subspace s.vault op).2,
        fun k t => if key = k ∧ credentialType = t then value else s.last k t⟩ := by
      unfold note
      dsimp only
      rw [hok]
      refine congrArg _ (funext fun k => funext fun t => ?_)
      cases hk : (call sha256 subspace s.vault op).2.store.accounts[k]? with
      | none =>
          obtain ⟨hne, hnone⟩ := hstored k hk
          dsimp only
          rw [if_neg fun he => hne he.1, h.value, credential_of_none hnone, Option.map_none, ite_self]
      | some a => exact hop k t
    rw [hnote]
    exact htidy

theorem tidy_deleteAccount (h : Tidy sha256 s) (subspace : Bool) (caller : AppAccountCallingInfo) (name : String) :
    Tidy sha256 (note sha256 subspace s (.deleteAccount caller name)) := by
  obtain ⟨hagree, hspared, hassets, -⟩ := deleteAccount_spec h caller name
  refine tidy_spared h hspared hagree (fun aliasName asset hasset => ?_) (last_note fun _ _ => rfl)
  exact h.label aliasName asset ((hassets aliasName).symm.trans hasset)

theorem tidy_step (op : Operation) (h : Tidy sha256 s) (hop : Careful sha256 subspace s op) :
    Tidy sha256 (note sha256 subspace s op) := by
  cases op with
  | createAccount caller name customData =>
      obtain ⟨hagree, hspared, hassets⟩ := createAccount_spared caller name customData h.agree hop
      exact tidy_spared h hspared hagree (hassets ▸ h.label) (last_note fun _ _ => rfl)
  | deleteAccount caller name =>
      exact tidy_deleteAccount h subspace caller name
  | setAccountCredential caller name credentialType value =>
      exact tidy_writes h (fun _ _ => rfl) (setAccountCredential_step h hop)
  | deleteAccountCredential caller name credentialType =>
      exact tidy_writes h (fun _ _ => rfl) (deleteAccountCredential_step h hop)
  | getAccountCredential caller name credentialType =>
      exact tidy_spared h (.refl _) h.agree h.label (last_note fun _ _ => rfl)
  | setOAuthToken request resolvedAppIndex =>
      obtain ⟨hagree, hspared, hlabel⟩ := setOAuthToken_step h hop
      exact tidy_spared h hspared hagree hlabel (last_note fun _ _ => rfl)
  | deleteOAuthToken request resolvedAppIndex apiVersion =>
      obtain ⟨hagree, hspared, hlabel⟩ := deleteOAuthToken_step h hop
      exact tidy_spared h hspared hagree hlabel (last_note fun _ _ => rfl)
  | onPackageRemoved isOsAccountRemoved uid bundleName appIndex =>
      obtain ⟨hagree, hspared, hassets⟩ := onPackageRemoved_spec h isOsAccountRemoved uid bundleName appIndex
      exact tidy_spared h hspared hagree
        (fun aliasName asset hasset => h.label aliasName asset (hassets aliasName asset hasset))
        (last_note fun _ _ => rfl)

theorem Tidy.credential_iff (h : Tidy sha256 s) {caller : AppAccountCallingInfo} {name credentialType : String}
    (hop : Careful sha256 subspace s (.getAccountCredential caller name credentialType)) (value : String) :
    serveGetAccountCredential caller name credentialType s.vault = .ok value ↔
      s.last (caller.account name).getPrimeKey credentialType = some value := by
  unfold Careful at hop
  dsimp only at hop
  rw [h.value]
  unfold AppAccountCallingInfo.account at hop ⊢
  have hload := load_newAccount s.vault caller.bundleName.1 caller.appIndex name
  unfold serveGetAccountCredential AppAccountCallingInfo.account
  generalize hkey : (newAccount caller.bundleName.1 caller.appIndex name).getPrimeKey = key at hop hload ⊢
  rw [hload]
  cases ha : s.vault.store.accounts[key]? with
  | none =>
      rw [credential_of_none ha, Option.map_none, ite_self]
      split
      · exact ⟨nofun, nofun⟩
      · exact ⟨nofun, nofun⟩
  | some a =>
      have hregular := h.regular key a ha
      rw [credential_of_some ha] at hop ⊢
      have hname : a.name = name := by
        have hkeyA : a.getPrimeKey = (newAccount caller.bundleName.1 caller.appIndex name).getPrimeKey :=
          (h.agree.kept key a ha).key.trans hkey.symm
        exact ((getPrimeKey_inj (h.agree.kept key a ha).owner caller.bundleName.2).mp hkeyA).2.2
      dsimp only
      cases hget : getAccountCredential a credentialType with
      | error e =>
          rw [show (Except.error e : Except ErrCode String).toOption = none from rfl, Option.map_none, ite_self]
          split
          · exact ⟨nofun, nofun⟩
          · exact ⟨nofun, nofun⟩
      | ok aliasName =>
          have hnul : NoNul credentialType := by
            refine hop.resolve_right fun hnone => ?_
            rw [hget] at hnone
            cases hnone
          rw [if_pos hnul, if_neg]
          · exact ⟨fun he => congrArg some (Except.ok.inj he),
              fun he => congrArg Except.ok (Option.some.inj he)⟩
          · rw [← hname, hregular.name, (hregular.type credentialType aliasName hnul hget).1]
            decide

theorem tidy_empty (sha256 : Sha256) : Tidy sha256 {} := by
  have hnone : ∀ k : String, (∅ : ExtTreeMap String AppAccountInfo)[k]? = none :=
    fun k => ExtTreeMap.getElem?_empty
  have hcredential : ∀ k t, credential { assets := ∅ } k t = none := fun k t => credential_of_none (hnone k) t
  refine ⟨agree_empty, fun k a ha => ?_, fun aliasName asset hasset => ?_, fun k a t aliasName asset ha => ?_,
    fun k t k' t' aliasName _ _ hc => ?_, fun k t => ?_⟩
  · cases (hnone k).symm.trans ha
  · cases ExtTreeMap.getElem?_empty.symm.trans hasset
  · cases (hnone k).symm.trans ha
  · cases (hcredential k t).symm.trans hc
  · rw [hcredential, Option.map_none, ite_self]

theorem setAccountCredential_record {build : Build} {credentialType value : String}
    (h : setAccountCredential build a credentialType value = .ok b) : ∃ j, b = { a with accountCredential := j } := by
  unfold setAccountCredential at h
  dsimp only at h
  split at h
  · cases h
  have hsaved : ∀ value, (if credentialType = "" then Except.error ErrCode.dumpJsonError else .ok { a with
      accountCredential := some (addStringToJson (a.accountCredential.getD createJson) credentialType value) }) =
        .ok b → ∃ j, b = { a with accountCredential := j } := by
    intro value h
    split at h
    · cases h
    · exact ⟨_, (Except.ok.inj h).symm⟩
  cases build with
  | plain => exact hsaved _ h
  | asset sha256 =>
      dsimp only at h
      split at h
      · exact ⟨a.accountCredential, (Except.ok.inj h).symm⟩
      · exact hsaved _ h

theorem serveSetAccountCredential_ok (h : Tidy sha256 s) {caller : AppAccountCallingInfo}
    {name credentialType value : String}
    (hok : (serveSetAccountCredential sha256 caller name credentialType value s.vault).1 = .ok ()) :
    ∃ a b, s.vault.store.accounts[(caller.account name).getPrimeKey]? = some a ∧
      isEmptyOrOversize credentialType credentialTypeMaxSize = false ∧
      setAccountCredential (.asset sha256) a credentialType value = .ok b ∧
      (serveSetAccountCredential sha256 caller name credentialType value s.vault).2 =
        ⟨s.vault.store.put (caller.account name).getPrimeKey b.toJson.written,
          s.vault.assets.save (ownerKey caller.bundleName.1 caller.appIndex) (getAlias sha256 b)
            ((getAccountCredential b credentialType).toOption.getD "") value⟩ := by
  unfold serveSetAccountCredential AppAccountCallingInfo.account at hok ⊢
  split at hok
  · cases hok
  next hguard =>
  rw [if_neg hguard]
  rw [load_newAccount] at hok ⊢
  generalize hkey : (newAccount caller.bundleName.1 caller.appIndex name).getPrimeKey = key at hok ⊢
  rw [Bool.not_eq_true, Bool.or_eq_false_iff, Bool.or_eq_false_iff] at hguard
  cases ha : s.vault.store.accounts[key]? with
  | none =>
      rw [ha] at hok
      cases hok
  | some a =>
      rw [ha] at hok
      dsimp only at hok ⊢
      cases hb : setAccountCredential (.asset sha256) a credentialType value with
      | error e =>
          rw [hb] at hok
          cases hok
      | ok b =>
          obtain ⟨j, rfl⟩ := setAccountCredential_record hb
          have hsave := (agree_save (b := { a with accountCredential := j }) h.agree ha rfl rfl rfl s.vault.assets).1
          refine ⟨a, { a with accountCredential := j }, rfl, hguard.1.2, hb, ?_⟩
          dsimp only
          rw [hsave]
          rfl

theorem serveGetAccountCredential_put {caller : AppAccountCallingInfo} {name : String} (store : Store) (assets : Assets)
    (hname : isEmptyOrOversize name nameMaxSize = false)
    (htype : isEmptyOrOversize type credentialTypeMaxSize = false) (hget : getAccountCredential b type = .ok aliasName) :
    serveGetAccountCredential caller name type
      ⟨store.put (caller.account name).getPrimeKey b.toJson.written, assets⟩ =
        .ok ((assets.data aliasName).getD "") := by
  unfold serveGetAccountCredential AppAccountCallingInfo.account
  rw [hname, htype, load_newAccount]
  dsimp only
  rw [Store.getElem?_put, if_pos rfl]
  dsimp only
  rw [show getAccountCredential b.toJson.written type = getAccountCredential b type from rfl, hget]
  rfl

theorem Tidy.stored (h : Tidy sha256 s) {caller : AppAccountCallingInfo} {name value : String}
    (hlast : s.last (caller.account name).getPrimeKey type = some value) :
    ∃ a, s.vault.store.accounts[(caller.account name).getPrimeKey]? = some a ∧ NoNul type ∧
      getAccountCredential a type = .ok (aliasOf sha256 (caller.account name) type) ∧
      (s.vault.assets.data (aliasOf sha256 (caller.account name) type)).getD "" = value := by
  rw [h.value] at hlast
  split at hlast
  · next hnul =>
      obtain ⟨aliasName, hc, hvalue⟩ := Option.map_eq_some_iff.mp hlast
      obtain ⟨a, ha, hget⟩ := credential_eq_some.mp hc
      have halias := ((h.regular _ a ha).type type aliasName hnul hget).2
      rw [aliasOf_eq sha256 (h.agree.toKeyed.key _ _ ha).symm] at halias
      exact ⟨a, ha, hnul, halias ▸ hget, halias ▸ hvalue⟩
  · cases hlast

/-- A credential that is set empty is what the asset store has under its alias. -/
theorem read_afterSet (h : Tidy sha256 s) {caller : AppAccountCallingInfo} {name credentialType value : String}
    (hok : (serveSetAccountCredential sha256 caller name credentialType value s.vault).1 = .ok ())
    (hname : isEmptyOrOversize name nameMaxSize = false) (hnul : NoNul credentialType) :
    serveGetAccountCredential caller name credentialType
        (serveSetAccountCredential sha256 caller name credentialType value s.vault).2 =
      .ok (if value = "" then (s.vault.assets.data (aliasOf sha256 (caller.account name) credentialType)).getD ""
        else value) := by
  obtain ⟨a, b, ha, htype, hb, hserve⟩ := serveSetAccountCredential_ok h hok
  have hget := (setAccountCredential_spec (h.regular _ a ha) hnul htype hb).2.2 credentialType hnul
  rw [if_pos rfl, aliasOf_eq sha256 (h.agree.toKeyed.key _ _ ha).symm] at hget
  rw [hserve, serveGetAccountCredential_put _ _ hname htype hget, hget]
  exact congrArg Except.ok (data_save ..)

theorem setAccountCredential_found {credentialType value : String} (ha : Regular sha256 a)
    (hget : getAccountCredential a credentialType = .ok aliasName) :
    setAccountCredential (.asset sha256) a credentialType value = .ok a := by
  rw [getAccountCredential_eq] at hget
  unfold setAccountCredential isKeyExistByText
  dsimp only
  rw [isObject_of_isRecord ha.json]
  cases hitem : getItemByText (a.accountCredential.getD createJson) credentialType with
  | none =>
      rw [hitem] at hget
      cases hget
  | some item => rfl

/-- A type that a document cannot tell from the one of a credential overwrites it. -/
theorem read_afterSetCut (h : Tidy sha256 s) {caller : AppAccountCallingInfo} {name credentialType value : String}
    (hok : (serveSetAccountCredential sha256 caller name credentialType value s.vault).1 = .ok ())
    (hname : isEmptyOrOversize name nameMaxSize = false)
    (ha : s.vault.store.accounts[(caller.account name).getPrimeKey]? = some a)
    (hnul : NoNul type) (hget : getAccountCredential a type = .ok aliasName) (hcut : cStr credentialType = type) :
    serveGetAccountCredential caller name type
        (serveSetAccountCredential sha256 caller name credentialType value s.vault).2 =
      .ok (if value = "" then (s.vault.assets.data aliasName).getD "" else value) := by
  have hregular := h.regular _ a ha
  have htype := (hregular.type type aliasName hnul hget).1
  have hsame : getAccountCredential a credentialType = .ok aliasName := by
    rw [← hget, getAccountCredential_eq, getAccountCredential_eq, getItemByText, getItemByText, hcut, hnul.cStr]
    have hne : type ≠ "" := by
      rintro rfl
      cases htype
    rw [if_neg hne, if_neg]
    rintro rfl
    exact hne (hcut.symm.trans cStr_empty)
  obtain ⟨a', b, ha', -, hb, hserve⟩ := serveSetAccountCredential_ok h hok
  obtain rfl := Option.some.inj (ha.symm.trans ha')
  obtain rfl := Except.ok.inj ((setAccountCredential_found hregular hsame).symm.trans hb)
  rw [hserve, serveGetAccountCredential_put _ _ hname htype hget, hsame]
  exact congrArg Except.ok (data_save ..)

theorem read_afterToken (h : Tidy sha256 s) {caller : AppAccountCallingInfo} {r : AuthenticatorSessionRequest}
    (hcaller : r.callerBundleName = caller.bundleName.1)
    (hname : isEmptyOrOversize r.name nameMaxSize = false)
    (ha : s.vault.store.accounts[(caller.account r.name).getPrimeKey]? = some a) (hempty : a.oauthTokens = ∅)
    (hnul : NoNul r.authType) (hget : getAccountCredential a r.authType = .ok aliasName) :
    serveGetAccountCredential caller r.name r.authType
        (serveSetOAuthToken (.asset sha256) mapService r caller.appIndex s.vault).2 =
      .ok (if r.token = "" then (s.vault.assets.data aliasName).getD "" else r.token) := by
  have hregular := (h.regular _ a ha).type r.authType aliasName hnul hget
  have hnone : a.oauthTokens[r.authType]? = none := by
    rw [hempty]
    exact ExtTreeMap.getElem?_empty
  have hset : ∃ b, AssetStore.setOAuthToken (.asset sha256) a r.authType r.token = .ok b := by
    unfold AssetStore.setOAuthToken
    rw [hnone, hempty]
    exact ⟨_, rfl⟩
  obtain ⟨b, hb⟩ := hset
  have halias := saved_alias hb
  obtain ⟨oauthTokens, rfl⟩ := setOAuthToken_record hb
  unfold serveSetOAuthToken AppAccountCallingInfo.account at *
  rw [hcaller, load_newAccount, ha]
  dsimp only
  rw [hb]
  dsimp only
  rw [(agree_save (b := { a with oauthTokens }) h.agree ha rfl rfl rfl s.vault.assets).1]
  dsimp only
  rw [halias, saveDataToAsset_map, savedAlias, hnone, Option.map_none, Option.getD_none, ← hregular.2]
  refine (serveGetAccountCredential_put (b := { a with oauthTokens }) _ _ hname hregular.1 hget).trans ?_
  exact congrArg Except.ok (data_save ..)

theorem assets_afterDelete (h : Tidy sha256 s) {caller : AppAccountCallingInfo} {name value : String}
    (hname : isEmptyOrOversize name nameMaxSize = false)
    (hlast : s.last (caller.account name).getPrimeKey type = some value) :
    (serveDeleteAccountCredential caller name type s.vault).2.assets =
      s.vault.assets.remove (aliasOf sha256 (caller.account name) type) := by
  obtain ⟨a, ha, hnul, hget, -⟩ := h.stored hlast
  have htype := ((h.regular _ a ha).type type _ hnul hget).1
  unfold serveDeleteAccountCredential AppAccountCallingInfo.account at *
  rw [hname, htype, load_newAccount, ha]
  dsimp only
  rw [hget]
  cases deleteAccountCredential a type with
  | error e => rfl
  | ok b => rfl

theorem getElem?_remove_save {hapLabel accountLabel value : String}
    (h : ∀ name : String, assets[name]? = none) (name : String) :
    ((assets.save hapLabel accountLabel aliasName value).remove aliasName)[name]? = none := by
  unfold Assets.remove
  rw [getElem?_erase_eq]
  split
  · rfl
  · next hne => exact (getElem?_saved (.inr (.inr (Ne.symm hne)))).trans (h name)

end invariants

/-- Along every run of careful calls the secrets are fields of their accounts. -/
theorem faithful_run (sha256 : Sha256) (subspace : Bool) (ops : List Operation)
    (hops : Machine.Meets (note sha256 subspace) (Careful sha256 subspace) {} ops) : Faithful sha256 subspace ops := by
  have htidy : ∀ {ops}, Machine.Meets (note sha256 subspace) (Careful sha256 subspace) {} ops →
      Tidy sha256 (Machine.run (note sha256 subspace) {} ops) :=
    Machine.run_invariant_of_meets (fun s op h hop => tidy_step op h hop) (tidy_empty sha256)
  refine ⟨fun before caller name credentialType after hsplit value => ?_,
    fun before caller name after hsplit hok type => ?_⟩
  · subst hsplit
    obtain ⟨hbefore, hop, -⟩ := Machine.meets_append.mp hops
    exact (htidy hbefore).credential_iff hop value
  subst hsplit
  obtain ⟨hbefore, hop, -⟩ := Machine.meets_append.mp hops
  obtain ⟨-, -, hassets, hstored⟩ := deleteAccount_spec (htidy hbefore) caller name
  exact (hassets _).trans (hop (hstored hok) type)

theorem no_credential {v : Vault Assets} (h : (v.store.accounts.toList.all fun e => e.2.accountCredential.isNone) = true)
    (key type : String) : credential v key type = none := by
  cases ha : v.store.accounts[key]? with
  | none => exact credential_of_none ha type
  | some a =>
      have hnone := List.all_eq_true.mp h (key, a) (ExtTreeMap.mem_toList_iff_getElem?_eq_some.mpr ha)
      rw [credential_of_some ha, getAccountCredential_of_none (Option.isNone_iff_eq_none.mp hnone)]
      rfl

def mail : AppAccountCallingInfo := ⟨20010001, AppAccountAuthorization.mail, 0⟩

def loginRequest : AuthenticatorSessionRequest :=
  { name := "alice", authType := "login", token := "token", callerBundleName := "com.example.mail", appIndex := 0 }

theorem not_faithful_of_read {sha256 : Sha256} {subspace : Bool} {before : List Operation}
    {op : Operation} {caller : AppAccountCallingInfo} {name type : String} (value : String)
    (hread : serveGetAccountCredential caller name type
      (call sha256 subspace (Machine.run (note sha256 subspace) {} before).vault op).2 = .ok value)
    (hlast : (note sha256 subspace (Machine.run (note sha256 subspace) {} before) op).last
      (caller.account name).getPrimeKey type ≠ some value) :
    ¬Faithful sha256 subspace (before ++ [op, .getAccountCredential caller name type]) := by
  intro h
  have hiff := h.credential (before ++ [op]) caller name type [] (by rw [List.append_assoc]; rfl) value
  rw [Machine.run_append] at hiff
  exact hlast (hiff.mp hread)

def savedSecret : List Operation :=
  [.createAccount mail "alice" ∅, .setAccountCredential mail "alice" "login" "1234"]

theorem tidy_created : Tidy sizeDigest (note sizeDigest false {} (.createAccount mail "alice" ∅)) :=
  tidy_step _ (tidy_empty sizeDigest) ⟨by decide, by decide⟩

theorem careful_savedSecret : Machine.Meets (note sizeDigest false) (Careful sizeDigest false) {} savedSecret := by
  refine ⟨⟨by decide, by decide⟩, ⟨by decide, fun key type _ hc => ?_, fun asset hasset => ?_⟩, trivial⟩
  · cases (no_credential (by decide +kernel) key type).symm.trans hc
  · cases ((isEmpty_iff_getElem? _).mp (by decide +kernel) _).symm.trans hasset

theorem stored_savedSecret : Tidy sizeDigest (Machine.run (note sizeDigest false) {} savedSecret) ∧
    (Machine.run (note sizeDigest false) {} savedSecret).last (mail.account "alice").getPrimeKey "login" =
      some "1234" := by
  refine ⟨?_, by decide +kernel⟩
  exact Machine.run_invariant_of_meets (fun _ op h hop => tidy_step op h hop) (tidy_empty sizeDigest) careful_savedSecret

/-- A credential is set, asked for and deleted before the account is. -/
theorem faithful_deletedBefore : Faithful sizeDigest false (savedSecret ++
    [.getAccountCredential mail "alice" "login", .deleteAccountCredential mail "alice" "login",
      .getAccountCredential mail "alice" "login", .deleteAccount mail "alice"]) := by
  refine faithful_run sizeDigest false _ (Machine.meets_append.mpr ⟨careful_savedSecret, .inl (by decide),
    .inl (by decide), .inl (by decide), fun _ type => ?_, trivial⟩)
  obtain ⟨htidy, hlast⟩ := stored_savedSecret
  have hset : (call sizeDigest false (note sizeDigest false {} (.createAccount mail "alice" ∅)).vault
      (.setAccountCredential mail "alice" "login" "1234")).1 = .ok () := by decide +kernel
  obtain ⟨a, b, ha, htype, hb, hserve⟩ := serveSetAccountCredential_ok tidy_created hset
  have hnul : NoNul "login" := by decide
  have hget := (setAccountCredential_spec (tidy_created.regular _ a ha) hnul htype hb).2.2 "login" hnul
  rw [if_pos rfl, aliasOf_eq sizeDigest (tidy_created.agree.toKeyed.key _ _ ha).symm] at hget
  rw [hget] at hserve
  change (serveDeleteAccountCredential mail "alice" "login"
    (Machine.run (note sizeDigest false) {} savedSecret).vault).2.assets[_]? = none
  rw [assets_afterDelete htidy (by decide) hlast]
  change ((serveSetAccountCredential sizeDigest mail "alice" "login" "1234"
    (note sizeDigest false {} (.createAccount mail "alice" ∅)).vault).2.assets.remove _)[_]? = none
  rw [hserve]
  exact getElem?_remove_save (fun _ => ExtTreeMap.getElem?_empty) _

/-- The secret of a deleted account stays, and an account with its name gets it when it sets
an empty credential. An empty credential, a token and a type that is the same up to a NUL leave
another value than was set. -/
theorem not_faithful_savedSecret :
    ¬Faithful sizeDigest false (savedSecret ++ [.deleteAccount mail "alice"]) ∧
    ¬Faithful sizeDigest false (savedSecret ++ [.deleteAccount mail "alice", .createAccount mail "alice" ∅] ++
      [.setAccountCredential mail "alice" "login" "", .getAccountCredential mail "alice" "login"]) ∧
    ¬Faithful sizeDigest false (savedSecret ++
      [.setAccountCredential mail "alice" "login" "", .getAccountCredential mail "alice" "login"]) ∧
    ¬Faithful sizeDigest false (savedSecret ++
      [.setOAuthToken loginRequest 0, .getAccountCredential mail "alice" "login"]) ∧
    ¬Faithful sizeDigest false (savedSecret ++
      [.setAccountCredential mail "alice" "login\x00x" "5678", .getAccountCredential mail "alice" "login"]) := by
  obtain ⟨htidy, hlast⟩ := stored_savedSecret
  obtain ⟨a, ha, hnul, hget, hdata⟩ := htidy.stored hlast
  have hkept := (deleteAccount_spec htidy mail "alice").2.2.1 (aliasOf sizeDigest (mail.account "alice") "login")
  have hempty : (call sizeDigest false (Machine.run (note sizeDigest false) {} savedSecret).vault
      (.setAccountCredential mail "alice" "login" "")).1 = .ok () := by decide +kernel
  have hcut : (call sizeDigest false (Machine.run (note sizeDigest false) {} savedSecret).vault
      (.setAccountCredential mail "alice" "login\x00x" "5678")).1 = .ok () := by decide +kernel
  refine ⟨fun h => ?_, ?_, ?_, ?_, ?_⟩
  · have hleft := h.deleted savedSecret mail "alice" [] rfl (by decide +kernel) "login"
    rw [Assets.data, hkept.symm.trans hleft] at hdata
    exact absurd hdata (by decide)
  · have hcareful : Careful sizeDigest false {} (.createAccount mail "alice" ∅) := ⟨by decide, by decide⟩
    have htidy' := @tidy_step sizeDigest false _ (.createAccount mail "alice" ∅)
      (tidy_deleteAccount htidy false mail "alice") hcareful
    have hset : (call sizeDigest false (note sizeDigest false (note sizeDigest false (Machine.run
        (note sizeDigest false) {} savedSecret) (.deleteAccount mail "alice")) (.createAccount mail "alice" ∅)).vault
          (.setAccountCredential mail "alice" "login" "")).1 = .ok () := by decide +kernel
    refine not_faithful_of_read "1234" ?_ (by decide +kernel)
    rw [Machine.run_append]
    refine (read_afterSet htidy' hset (by decide) hnul).trans (congrArg Except.ok ?_)
    rw [if_pos rfl, ← hdata, Assets.data, Assets.data, ← hkept]
    rfl
  · refine not_faithful_of_read "1234" ?_ (by decide +kernel)
    refine (read_afterSet htidy hempty (by decide) hnul).trans (congrArg Except.ok ?_)
    rw [if_pos rfl, hdata]
  · have hall : ((Machine.run (note sizeDigest false) {} savedSecret).vault.store.accounts.toList.all
        fun e => e.2.oauthTokens.isEmpty) = true := by decide +kernel
    have hnone := List.all_eq_true.mp hall (_, a) (ExtTreeMap.mem_toList_iff_getElem?_eq_some.mpr ha)
    have hread := read_afterToken (r := loginRequest) htidy rfl (by decide) ha (ExtTreeMap.isEmpty_iff.mp hnone) hnul
      hget
    rw [if_neg (by decide)] at hread
    refine not_faithful_of_read "token" hread fun htoken => ?_
    rw [last_note fun _ _ => rfl] at htoken
    split at htoken
    · cases htoken
    · exact absurd (hlast.symm.trans htoken) (by decide)
  · have hread := read_afterSetCut htidy hcut (by decide) ha hnul hget
      (by decide +kernel)
    rw [if_neg (by decide)] at hread
    exact not_faithful_of_read "5678" hread (by decide +kernel)

end OsAccount.AccountSecrets
