import OsAccount.AppAccountTexts
import OsAccount.OAuthTokens
import OsAccount.OrderedMap

namespace OsAccount.AssetStore

open Std CText JsonUtils AppAccountInfo AppAccountStore OAuthTokens

section service

inductive AssetResult
  | success
  | duplicated
  | failed (code : Nat)
deriving DecidableEq

def duplicatedCode : Nat := 24000003

def AssetResult.ret : AssetResult → Ret
  | .success => .ok ()
  | .duplicated => .error (.sys duplicatedCode)
  | .failed code => .error (.sys code)

/-- The service that keeps the secrets of an OS user under their aliases. It is no part
of the repository. -/
structure AssetService (σ : Type) where
  assetAdd (hapLabel accountLabel aliasName secret : String) : σ → AssetResult × σ
  assetUpdate (aliasName secret : String) : σ → AssetResult × σ
  assetQuery (aliasName : String) : σ → Option String × σ
  assetRemove (aliasName : String) : σ → AssetResult × σ

variable {σ : Type} (service : AssetService σ)

def saveDataToAsset (hapLabel accountLabel aliasName value : String) (s : σ) : Ret × σ :=
  if value = "" then (.ok (), s)
  else
    let added := service.assetAdd hapLabel accountLabel aliasName value s
    let saved := if added.1 = .duplicated then service.assetUpdate aliasName value added.2 else added
    (saved.1.ret, saved.2)

def getDataFromAsset (aliasName : String) (s : σ) : Option String × σ := service.assetQuery aliasName s

def removeDataFromAsset (aliasName : String) (s : σ) : AssetResult × σ := service.assetRemove aliasName s

/-- What the callers are promised, with the secrets that the service has: a call that
succeeds does what it is asked to do, and one that fails does nothing. -/
structure AssetService.Lawful (contents : σ → String → Option String) : Prop where
  add : ∀ hapLabel accountLabel aliasName secret s,
    let added := service.assetAdd hapLabel accountLabel aliasName secret s
    contents added.2 =
      if added.1 = .success then Function.update (contents s) aliasName (some secret) else contents s
  update : ∀ aliasName secret s,
    let updated := service.assetUpdate aliasName secret s
    contents updated.2 =
      if updated.1 = .success then Function.update (contents s) aliasName (some secret) else contents s
  query : ∀ aliasName s,
    let found := service.assetQuery aliasName s
    contents found.2 = contents s ∧ ∀ secret, found.1 = some secret → contents s aliasName = some secret
  remove : ∀ aliasName s,
    let removed := service.assetRemove aliasName s
    contents removed.2 =
      if removed.1 = .success then Function.update (contents s) aliasName none else contents s

end service

section contents

variable {σ : Type} {service : AssetService σ} {contents : σ → String → Option String}
  {name name' value : String} {s : σ}

theorem AssetResult.ret_eq_ok {r : AssetResult} (h : r.ret = .ok ()) : r = .success := by
  cases r with
  | success => rfl
  | duplicated => cases h
  | failed code => cases h

theorem contents_saved (hservice : service.Lawful contents) (hapLabel accountLabel name value : String) (s : σ) :
    let saved := saveDataToAsset service hapLabel accountLabel name value s
    (contents saved.2 = contents s ∧ (saved.1 = .ok () → value = "")) ∨
      contents saved.2 = Function.update (contents s) name (some value) := by
  have hadd := hservice.add hapLabel accountLabel name value s
  unfold saveDataToAsset
  split
  · next hempty => exact .inl ⟨rfl, fun _ => hempty⟩
  · generalize service.assetAdd hapLabel accountLabel name value s = added at hadd ⊢
    obtain ⟨r, s₁⟩ := added
    have hupdate := hservice.update name value s₁
    dsimp only at hadd hupdate ⊢
    by_cases hduplicated : r = .duplicated
    · subst hduplicated
      rw [if_pos rfl]
      rw [if_neg (by decide)] at hadd
      rw [hadd] at hupdate
      by_cases hdone : (service.assetUpdate name value s₁).1 = .success
      · rw [if_pos hdone] at hupdate
        exact .inr hupdate
      · rw [if_neg hdone] at hupdate
        exact .inl ⟨hupdate, fun hok => absurd (AssetResult.ret_eq_ok hok) hdone⟩
    · rw [if_neg hduplicated]
      by_cases hdone : r = .success
      · rw [if_pos hdone] at hadd
        exact .inr hadd
      · rw [if_neg hdone] at hadd
        exact .inl ⟨hadd, fun hok => absurd (AssetResult.ret_eq_ok hok) hdone⟩

theorem contents_saved_other (hservice : service.Lawful contents) (hapLabel accountLabel value : String)
    (hne : name' ≠ name) :
    contents (saveDataToAsset service hapLabel accountLabel name value s).2 name' = contents s name' := by
  rcases contents_saved hservice hapLabel accountLabel name value s with ⟨hsame, -⟩ | hset
  · rw [hsame]
  · rw [hset, Function.update_of_ne hne]

theorem contents_saved_self (hservice : service.Lawful contents) {hapLabel accountLabel : String}
    (hok : (saveDataToAsset service hapLabel accountLabel name value s).1 = .ok ()) (hvalue : value ≠ "") :
    contents (saveDataToAsset service hapLabel accountLabel name value s).2 name = some value := by
  rcases contents_saved hservice hapLabel accountLabel name value s with ⟨-, hempty⟩ | hset
  · exact absurd (hempty hok) hvalue
  · rw [hset, Function.update_self]

theorem contents_removed_other (hservice : service.Lawful contents) (hne : name' ≠ name) :
    contents (removeDataFromAsset service name s).2 name' = contents s name' := by
  have hremove := hservice.remove name s
  unfold removeDataFromAsset
  dsimp only at hremove
  rw [hremove]
  split
  · rw [Function.update_of_ne hne]
  · rfl

theorem contents_removed_self (hservice : service.Lawful contents)
    (hdone : contents s name = none ∨ (removeDataFromAsset service name s).1 = .success) :
    contents (removeDataFromAsset service name s).2 name = none := by
  have hremove := hservice.remove name s
  unfold removeDataFromAsset at hdone ⊢
  dsimp only at hremove
  rw [hremove]
  split
  · rw [Function.update_self]
  · next hfailed => exact hdone.resolve_right hfailed

end contents

section map

structure Asset where
  secret : String
  hapLabel : String
  accountLabel : String
deriving DecidableEq

abbrev Assets : Type := ExtTreeMap String Asset

namespace Assets

variable (assets : Assets)

def save (hapLabel accountLabel aliasName value : String) : Assets :=
  if value = "" then assets
  else
    match assets[aliasName]? with
    | none => assets.insert aliasName { secret := value, hapLabel, accountLabel }
    | some asset => assets.insert aliasName { asset with secret := value }

def data (aliasName : String) : Option String := assets[aliasName]?.map (·.secret)

def remove (aliasName : String) : Assets := assets.erase aliasName

def removeByHapLabel (label : String) : Assets := assets.filter fun _ asset => asset.hapLabel ≠ label

def removeByAccountLabel (label : String) : Assets := assets.filter fun _ asset => asset.accountLabel ≠ label

end Assets

def notFoundCode : Nat := 24000002

def mapService : AssetService Assets where
  assetAdd hapLabel accountLabel aliasName secret assets :=
    if (assets[aliasName]?).isSome then (.duplicated, assets)
    else (.success, assets.insert aliasName { secret, hapLabel, accountLabel })
  assetUpdate aliasName secret assets :=
    match assets[aliasName]? with
    | none => (.failed notFoundCode, assets)
    | some asset => (.success, assets.insert aliasName { asset with secret })
  assetQuery aliasName assets := (assets.data aliasName, assets)
  assetRemove aliasName assets :=
    if (assets[aliasName]?).isSome then (.success, assets.remove aliasName) else (.failed notFoundCode, assets)

theorem saveDataToAsset_map (hapLabel accountLabel aliasName value : String) (assets : Assets) :
    saveDataToAsset mapService hapLabel accountLabel aliasName value assets =
      (.ok (), assets.save hapLabel accountLabel aliasName value) := by
  unfold saveDataToAsset Assets.save
  split
  · rfl
  · cases hfound : assets[aliasName]? with
    | none =>
        have hadd : mapService.assetAdd hapLabel accountLabel aliasName value assets =
            (.success, assets.insert aliasName { secret := value, hapLabel, accountLabel }) := by
          unfold mapService
          dsimp only
          rw [hfound]
          rfl
        rw [hadd]
        rfl
    | some asset =>
        have hadd : mapService.assetAdd hapLabel accountLabel aliasName value assets = (.duplicated, assets) := by
          unfold mapService
          dsimp only
          rw [hfound]
          rfl
        have hupdate : mapService.assetUpdate aliasName value assets =
            (.success, assets.insert aliasName { asset with secret := value }) := by
          unfold mapService
          dsimp only
          rw [hfound]
        rw [hadd]
        dsimp only
        rw [if_pos rfl, hupdate]
        rfl

theorem removeDataFromAsset_map (aliasName : String) (assets : Assets) :
    (removeDataFromAsset mapService aliasName assets).2 = assets.remove aliasName := by
  unfold removeDataFromAsset mapService Assets.remove
  dsimp only
  split
  · rfl
  · next habsent =>
      exact (OrderedMap.erase_absent assets aliasName (Option.not_isSome_iff_eq_none.mp habsent)).symm

theorem lawful_mapService : mapService.Lawful fun assets aliasName => assets.data aliasName where
  add := by
    intro hapLabel accountLabel aliasName secret assets
    unfold mapService Assets.data
    dsimp only
    split
    · rfl
    · refine funext fun name => ?_
      rw [if_pos rfl, OrderedMap.getElem?_insert_eq, Function.update_apply]
      by_cases hname : aliasName = name
      · rw [if_pos hname, if_pos hname.symm]
        rfl
      · rw [if_neg hname, if_neg (Ne.symm hname)]
  update := by
    intro aliasName secret assets
    unfold mapService Assets.data
    dsimp only
    cases assets[aliasName]? with
    | none => rfl
    | some asset =>
        refine funext fun name => ?_
        dsimp only
        rw [if_pos rfl, OrderedMap.getElem?_insert_eq, Function.update_apply]
        by_cases hname : aliasName = name
        · rw [if_pos hname, if_pos hname.symm]
          rfl
        · rw [if_neg hname, if_neg (Ne.symm hname)]
  query := fun _ _ => ⟨rfl, fun _ hfound => hfound⟩
  remove := by
    intro aliasName assets
    unfold mapService Assets.data Assets.remove
    dsimp only
    split
    · refine funext fun name => ?_
      rw [if_pos rfl, OrderedMap.getElem?_erase_eq, Function.update_apply]
      by_cases hname : aliasName = name
      · rw [if_pos hname, if_pos hname.symm]
        rfl
      · rw [if_neg hname, if_neg (Ne.symm hname)]
    · rfl

end map

def hexDigit (n : Nat) : Char := (Nat.digitChar n).toUpper

def computeHash (sha256 : Sha256) (input : String) : String :=
  String.ofList ((sha256 input).toList.flatMap fun b => [hexDigit (b.toNat / 16), hexDigit (b.toNat % 16)])

def sizeDigest (text : String) : Vector UInt8 32 := Vector.replicate 32 (UInt8.ofNat text.utf8ByteSize)

/-- With the asset part the records hold aliases, which are made of hashes, in the
place of the secrets. -/
inductive Build
  | plain
  | asset (sha256 : Sha256)

def getAlias (sha256 : Sha256) (a : AppAccountInfo) : String := computeHash sha256 a.getPrimeKey

def aliasOf (sha256 : Sha256) (a : AppAccountInfo) (type : String) : String :=
  getAlias sha256 a ++ computeHash sha256 type

def secret (build : Build) (contents : String → Option String) (token : String) : String :=
  match build with
  | .plain => token
  | .asset _ => (contents token).getD ""

section hashes

variable {c : Char}

theorem hexDigit_hex : ∀ n < 16, hexDigit n ∈ "0123456789ABCDEF".toList := by decide

theorem notMem_computeHash (hc : c ∉ "0123456789ABCDEF".toList) (sha256 : Sha256) (input : String) :
    c ∉ (computeHash sha256 input).toList := by
  unfold computeHash
  rw [String.toList_ofList, List.mem_flatMap]
  rintro ⟨b, -, hb⟩
  have hlt := b.toNat_lt
  rcases List.mem_pair.mp hb with rfl | rfl
  · exact hc (hexDigit_hex (b.toNat / 16) (by omega))
  · exact hc (hexDigit_hex (b.toNat % 16) (by omega))

variable (sha256 : Sha256)

theorem computeHash_ne_empty (input : String) : computeHash sha256 input ≠ "" := by
  intro he
  have hlist := congrArg (fun s => s.toList.length) he
  unfold computeHash at hlist
  simp at hlist

theorem aliasOf_ne_empty (a : AppAccountInfo) (type : String) :
    aliasOf sha256 a type ≠ "" := by
  intro he
  have hlist := congrArg String.toList he
  unfold aliasOf at hlist
  rw [String.toList_append] at hlist
  have hright := (List.append_eq_nil_iff.mp hlist).2
  exact computeHash_ne_empty sha256 type (String.toList_inj.mp hright)

theorem noNul_aliasOf (a : AppAccountInfo) (type : String) :
    NoNul (aliasOf sha256 a type) :=
  NoNul.append (notMem_computeHash (by decide) sha256 _) (notMem_computeHash (by decide) sha256 _)

end hashes

section tokens

variable (build : Build) (a : AppAccountInfo) (authType token : String)

def setOAuthToken : Except ErrCode AppAccountInfo :=
  match build with
  | .plain => a.setOAuthToken authType token
  | .asset sha256 =>
      match a.oauthTokens[authType]? with
      | some tokenInfo => .ok { a with oauthTokens := a.oauthTokens.insert authType { tokenInfo with status := true } }
      | none =>
          if a.oauthTokens.size ≥ maxTokenNumber then .error .oauthTokenMaxSize
          else
            let tokenInfo := { token := aliasOf sha256 a authType, status := token != "" }
            .ok { a with oauthTokens := a.oauthTokens.insert authType tokenInfo }

def deleteOAuthToken : Except ErrCode AppAccountInfo :=
  match build with
  | .plain => a.deleteOAuthToken authType token
  | .asset _ =>
      match a.oauthTokens[authType]? with
      | some tokenInfo =>
          if tokenInfo.token = token then
            .ok { a with oauthTokens := a.oauthTokens.insert authType { tokenInfo with status := false } }
          else .error .oauthTokenNotExist
      | none => .error .oauthTokenNotExist

end tokens

section credentials

variable (build : Build) (a : AppAccountInfo) (credentialType credential : String)

def getAccountCredential : Except ErrCode String :=
  let jsonObject := a.accountCredential.getD createJson
  if !isKeyExistByText jsonObject credentialType then .error .accountCredentialNotExist
  else .ok ((getStringFromJson jsonObject credentialType).getD "")

def setAccountCredential : Except ErrCode AppAccountInfo :=
  let jsonObject := a.accountCredential.getD createJson
  if !isObject jsonObject then .error .badJsonFormatError
  else
    let save := fun value =>
      if credentialType = "" then .error .dumpJsonError
      else .ok { a with accountCredential := some (addStringToJson jsonObject credentialType value) }
    match build with
    | .plain => save credential
    | .asset sha256 =>
        if isKeyExistByText jsonObject credentialType then .ok a else save (aliasOf sha256 a credentialType)

def deleteAccountCredential : Except ErrCode AppAccountInfo :=
  match a.accountCredential with
  | none => .error .accountCredentialNotExist
  | some jsonObject =>
      if !isObject jsonObject || !isKeyExistByText jsonObject credentialType then .error .accountCredentialNotExist
      else .ok { a with accountCredential := some (deleteItemByText jsonObject credentialType) }

end credentials

structure Vault (σ : Type) where
  store : Store := {}
  assets : σ

namespace Vault

variable {σ : Type}

def load (v : Vault σ) (a : AppAccountInfo) : Except ErrCode AppAccountInfo :=
  (perform (getAccountInfoFromDataStorage a) v.store).1

def save (v : Vault σ) (a : AppAccountInfo) : Ret × Vault σ :=
  let saved := performWritten (saveAccountInfo a) v.store
  (saved.1, { v with store := saved.2 })

def setAssets (v : Vault σ) (assets : σ) : Vault σ := { v with assets }

end Vault

section requests

variable {σ : Type} (build : Build) (service : AssetService σ) (subspace : Bool) (request : AuthenticatorSessionRequest)
  (resolvedAppIndex targetAppIndex : Nat) (apiVersion : Nat) (v : Vault σ)

def serveGetOAuthToken : Except ErrCode String × Vault σ :=
  match v.load (newAccount request.owner resolvedAppIndex request.name) with
  | .error _ => (.error .appAccountNotExist, v)
  | .ok info =>
  match info.checkOAuthTokenVisibility request.authType (callerKey subspace request) apiVersion with
  | .ok true =>
      match info.getOAuthToken request.authType apiVersion with
      | .error e => (.error e, v)
      | .ok token =>
      match build with
      | .plain => (.ok token, v)
      | .asset _ =>
          let found := getDataFromAsset service token v.assets
          let token := found.1.getD ""
          (if token = "" ∧ apiVersion < apiVersion9 then .error .oauthTokenNotExist else .ok token, v.setAssets found.2)
  | _ => (.error .permissionDenied, v)

def serveSetOAuthToken : Ret × Vault σ :=
  match v.load (newAccount request.callerBundleName resolvedAppIndex request.name) with
  | .error _ => (.error .appAccountNotExist, v)
  | .ok info =>
  match setOAuthToken build info request.authType request.token with
  | .error e => (.error e, v)
  | .ok info =>
      let saved := v.save info
      match saved.1, build with
      | .ok (), .asset sha256 =>
          let authTypeAlias := (info.getOAuthToken request.authType apiVersion8).toOption.getD ""
          let added := saveDataToAsset service (ownerKey request.callerBundleName info.appIndex)
            (getAlias sha256 info) authTypeAlias request.token saved.2.assets
          (added.1, saved.2.setAssets added.2)
      | _, _ => saved

def finishDeletion (info : AppAccountInfo) (token : String) : Ret × Vault σ :=
  let deleted :=
    if apiVersion ≥ apiVersion9 then
      info.deleteAuthToken request.authType token (request.owner = request.callerBundleName)
    else deleteOAuthToken build info request.authType token
  match deleted with
  | .error e => (if apiVersion ≥ apiVersion9 then .error e else .ok (), v)
  | .ok info => v.save info

/-- A secret that is not found in the asset store counts as the one that is asked for,
and whether its removal succeeds is not looked at. -/
def serveDeleteOAuthToken : Ret × Vault σ :=
  match v.load (newAccount request.owner resolvedAppIndex request.name) with
  | .error _ => (.error .appAccountNotExist, v)
  | .ok info =>
  match info.checkOAuthTokenVisibility request.authType (callerKey subspace request) apiVersion with
  | .ok true =>
      match build with
      | .plain => finishDeletion build request apiVersion v info request.token
      | .asset _ =>
          match info.getOAuthToken request.authType apiVersion with
          | .error e => (if apiVersion ≥ apiVersion9 then .error e else .ok (), v)
          | .ok aliasName =>
              let found := getDataFromAsset service aliasName v.assets
              if found.1.getD request.token ≠ request.token then (.ok (), v.setAssets found.2)
              else
                let removed := removeDataFromAsset service aliasName found.2
                finishDeletion build request apiVersion (v.setAssets removed.2) info aliasName
  | _ => (.error .permissionDenied, v)

def serveSetOAuthTokenVisibility : Ret × Vault σ :=
  let served := performWritten (setOAuthTokenVisibility subspace request targetAppIndex apiVersion) v.store
  (served.1, { v with store := served.2 })

def findToken (tokenInfo : OAuthTokenInfo) (s : σ) : String × σ :=
  match build with
  | .plain => (tokenInfo.token, s)
  | .asset _ =>
      let found := getDataFromAsset service tokenInfo.token s
      (found.1.getD "", found.2)

/-- The loop over the tokens. An empty token without readers is one of API 8 that
was deleted. -/
def visibleTokens (isSelf : Bool) (bundleKey : String) : List OAuthTokenInfo → σ → List OAuthTokenInfo × σ
  | [], s => ([], s)
  | tokenInfo :: rest, s =>
      if !isSelf && !tokenInfo.authList.contains bundleKey then visibleTokens isSelf bundleKey rest s
      else
        let found := findToken build service tokenInfo s
        let visible := visibleTokens isSelf bundleKey rest found.2
        if found.1 = "" && tokenInfo.authList.isEmpty then visible
        else ({ tokenInfo with token := found.1, authList := ∅ } :: visible.1, visible.2)

def serveGetAllOAuthTokens : Except ErrCode (List OAuthTokenInfo) × Vault σ :=
  match v.load (newAccount request.owner resolvedAppIndex request.name) with
  | .error _ => (.error .appAccountNotExist, v)
  | .ok info =>
      let isSelf := request.callerBundleName = request.owner && request.appIndex = resolvedAppIndex
      let visible := visibleTokens build service isSelf (callerKey subspace request) info.getAllOAuthTokens v.assets
      (.ok visible.1, v.setAssets visible.2)

end requests

section specifications

variable {σ : Type} {v : Vault σ} {a : AppAccountInfo}

theorem load_newAccount (v : Vault σ) (owner : String) (appIndex : Nat) (name : String) :
    v.load (newAccount owner appIndex name) =
      match v.store.accounts[(newAccount owner appIndex name).getPrimeKey]? with
      | none => .error .getAccountInfoById
      | some stored => .ok stored := by
  unfold Vault.load perform
  cases hk : v.store.accounts[(newAccount owner appIndex name).getPrimeKey]? with
  | none => rw [exec_getAccountInfo_of_none hk]
  | some stored => rw [exec_getAccountInfo_newAccount hk]

theorem save_eq {stored : AppAccountInfo} (hk : v.store.accounts[a.getPrimeKey]? = some stored) :
    v.save a = (.ok (), { v with store := v.store.put a.getPrimeKey a.toJson.written }) := by
  have hwrite : Program.exec (writing succeed) (saveAccountInfo a) { store := v.store } =
      (.ok (), { store := v.store.put a.getPrimeKey a.toJson.written }) := by
    unfold saveAccountInfo isKeyExists
    rw [Program.exec_bind]
    have hget : Program.exec (writing succeed) (get a.getPrimeKey) { store := v.store } =
        (some stored, { store := v.store }) := by
      rw [Program.exec_call]
      exact Prod.ext hk rfl
    rw [Program.exec_bind, hget]
    rfl
  unfold Vault.save performWritten
  rw [hwrite]
  rfl

variable {build : Build} {b : AppAccountInfo} {authType text : String}

def recordToken (build : Build) (a : AppAccountInfo) (authType text : String) : String :=
  match build with
  | .plain => text
  | .asset sha256 => (a.oauthTokens[authType]?.map (·.token)).getD (aliasOf sha256 a authType)

/-- A token that is there keeps its readers and with the asset part its alias; a new one has no readers and takes a
free place. -/
theorem setOAuthToken_ok (h : setOAuthToken build a authType text = .ok b) :
    ∃ tokenInfo : OAuthTokenInfo, b = { a with oauthTokens := a.oauthTokens.insert authType tokenInfo } ∧
      (text ≠ "" → tokenInfo.status = true) ∧
      tokenInfo.token = recordToken build a authType text ∧
      (∀ info, a.oauthTokens[authType]? = some info → tokenInfo.authList = info.authList) ∧
      (a.oauthTokens[authType]? = none →
        tokenInfo.authList = ∅ ∧ tokenInfo.status = (text != "") ∧ a.oauthTokens.size < maxTokenNumber) := by
  cases hold : a.oauthTokens[authType]? with
  | some info =>
      cases build with
      | plain =>
          rw [setOAuthToken, AppAccountInfo.setOAuthToken, hold] at h
          exact ⟨_, (Except.ok.inj h).symm, fun _ => rfl, rfl,
            fun _ hinfo => Option.some.inj hinfo ▸ rfl, nofun⟩
      | asset sha256 =>
          simp only [setOAuthToken, hold] at h
          exact ⟨_, (Except.ok.inj h).symm, fun _ => rfl, by rw [recordToken, hold]; rfl,
            fun _ hinfo => Option.some.inj hinfo ▸ rfl, nofun⟩
  | none =>
      cases build with
      | plain =>
          simp only [setOAuthToken, AppAccountInfo.setOAuthToken, hold] at h
          split at h
          · cases h
          · rename_i hsize
            exact ⟨_, (Except.ok.inj h).symm, bne_iff_ne.mpr, rfl, nofun,
              fun _ => ⟨rfl, rfl, Nat.lt_of_not_le hsize⟩⟩
      | asset sha256 =>
          simp only [setOAuthToken, hold] at h
          split at h
          · cases h
          · rename_i hsize
            exact ⟨_, (Except.ok.inj h).symm, bne_iff_ne.mpr, by rw [recordToken, hold]; rfl, nofun,
              fun _ => ⟨rfl, rfl, Nat.lt_of_not_le hsize⟩⟩

end specifications

end OsAccount.AssetStore
