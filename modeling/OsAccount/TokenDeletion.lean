import OsAccount.AssetStore
import OsAccount.Machine

namespace OsAccount.TokenDeletion

open OrderedMap Std CText AppAccountInfo AppAccountStore OAuthTokens AssetStore

/-- The calls on the tokens of accounts. The indices that the bundle manager has for the
owner and for the application that shall see the token come with them. -/
inductive Operation
  | setOAuthToken (request : AuthenticatorSessionRequest) (resolvedAppIndex : Nat)
  | deleteOAuthToken (request : AuthenticatorSessionRequest) (resolvedAppIndex apiVersion : Nat)
  | setOAuthTokenVisibility (request : AuthenticatorSessionRequest) (targetAppIndex apiVersion : Nat)
  | getOAuthToken (request : AuthenticatorSessionRequest) (resolvedAppIndex apiVersion : Nat)
  | getAllOAuthTokens (request : AuthenticatorSessionRequest) (resolvedAppIndex : Nat)

def callerAccount (request : AuthenticatorSessionRequest) (appIndex : Nat) : String :=
  (newAccount request.callerBundleName appIndex request.name).getPrimeKey

def ownerAccount (request : AuthenticatorSessionRequest) (appIndex : Nat) : String :=
  (newAccount request.owner appIndex request.name).getPrimeKey

variable {σ : Type} (build : Build) (service : AssetService σ) (contents : σ → String → Option String) (subspace : Bool)

def step (v : Vault σ) : Operation → Vault σ
  | .setOAuthToken request resolvedAppIndex => (serveSetOAuthToken build service request resolvedAppIndex v).2
  | .deleteOAuthToken request resolvedAppIndex apiVersion =>
      (serveDeleteOAuthToken build service subspace request resolvedAppIndex apiVersion v).2
  | .setOAuthTokenVisibility request targetAppIndex apiVersion =>
      (serveSetOAuthTokenVisibility subspace request targetAppIndex apiVersion v).2
  | .getOAuthToken request resolvedAppIndex apiVersion =>
      (serveGetOAuthToken build service subspace request resolvedAppIndex apiVersion v).2
  | .getAllOAuthTokens request resolvedAppIndex =>
      (serveGetAllOAuthTokens build service subspace request resolvedAppIndex v).2

def token (v : Vault σ) (key type : String) : Option OAuthTokenInfo :=
  v.store.accounts[key]?.bind fun a => a.oauthTokens[type]?

def Returns (v : Vault σ) (key type text : String) : Operation → Prop
  | .getOAuthToken request resolvedAppIndex apiVersion =>
      ownerAccount request resolvedAppIndex = key ∧ request.authType = type ∧
        (serveGetOAuthToken build service subspace request resolvedAppIndex apiVersion v).1 = .ok text
  | .getAllOAuthTokens request resolvedAppIndex =>
      ownerAccount request resolvedAppIndex = key ∧ ∃ tokens,
        (serveGetAllOAuthTokens build service subspace request resolvedAppIndex v).1 = .ok tokens ∧
          ∃ tokenInfo ∈ tokens, tokenInfo.authType = type ∧ tokenInfo.token = text
  | _ => False

def Sets (key type : String) : Operation → Prop
  | .setOAuthToken request resolvedAppIndex => callerAccount request resolvedAppIndex = key ∧ request.authType = type
  | _ => False

def Deletes (key type text : String) : Operation → Prop
  | .deleteOAuthToken request resolvedAppIndex _ =>
      ownerAccount request resolvedAppIndex = key ∧ request.authType = type ∧ request.token = text
  | _ => False

def Current (v : Vault σ) (key type text : String) : Prop :=
  ∃ tokenInfo, token v key type = some tokenInfo ∧ secret build (contents v.assets) tokenInfo.token = text

structure Honest (v : Vault σ) (ops : List Operation) : Prop where
  deleted : ∀ before request resolvedAppIndex apiVersion after query rest,
    ops = before ++ .deleteOAuthToken request resolvedAppIndex apiVersion :: (after ++ query :: rest) →
    let v' := Machine.run (step build service subspace) v before
    let key := ownerAccount request resolvedAppIndex
    (serveDeleteOAuthToken build service subspace request resolvedAppIndex apiVersion v').1 = .ok () →
    Current build contents v' key request.authType request.token → (∀ op ∈ after, ¬Sets key request.authType op) →
    ¬Returns build service subspace (Machine.run (step build service subspace) v
      (before ++ .deleteOAuthToken request resolvedAppIndex apiVersion :: after)) key request.authType
        request.token query
  set : ∀ before request resolvedAppIndex after query queryAppIndex apiVersion rest,
    ops = before ++ .setOAuthToken request resolvedAppIndex ::
      (after ++ .getOAuthToken query queryAppIndex apiVersion :: rest) →
    let v' := Machine.run (step build service subspace) v before
    let key := callerAccount request resolvedAppIndex
    (serveSetOAuthToken build service request resolvedAppIndex v').1 = .ok () → request.token ≠ "" →
    (∀ op ∈ after, ¬Sets key request.authType op ∧ ¬Deletes key request.authType request.token op) →
    ownerAccount query queryAppIndex = key → query.authType = request.authType →
      (serveGetOAuthToken build service subspace query queryAppIndex apiVersion (Machine.run
        (step build service subspace) v (before ++ .setOAuthToken request resolvedAppIndex :: after))).1 ∈
        ([.error .permissionDenied, .ok request.token] : List (Except ErrCode String))

def Answers (aliasName : String) (s : σ) : Prop := (getDataFromAsset service aliasName s).1 = contents s aliasName

/-- A token that is set has a type that a document holds as a whole. Without the asset part its text
is one too; with it the record is not one that a call on the visibility has made, and the alias is not
in use. -/
def HarmlessSet (v : Vault σ) (request : AuthenticatorSessionRequest) (resolvedAppIndex : Nat) : Prop :=
  (request.token = "" ∨ NoNul request.authType) ∧
    match build with
    | .plain => NoNul request.token
    | .asset sha256 => ∀ a, v.store.accounts[callerAccount request resolvedAppIndex]? = some a →
        (∀ tokenInfo, a.oauthTokens[request.authType]? = some tokenInfo → tokenInfo.token ≠ "") ∧
        ∀ key type tokenInfo, token v key type = some tokenInfo → tokenInfo.token = aliasOf sha256 a request.authType →
          key = callerAccount request resolvedAppIndex ∧ type = request.authType

/-- No token is empty when it is deleted. Without the asset part only an owner deletes with API 9;
with it a token with another text is found, and the one that is asked for is removed unless its
record goes as well. -/
def HarmlessDelete (v : Vault σ) (request : AuthenticatorSessionRequest) (resolvedAppIndex apiVersion : Nat) : Prop :=
  ∀ a, v.store.accounts[ownerAccount request resolvedAppIndex]? = some a →
    a.checkOAuthTokenVisibility request.authType (callerKey subspace request) apiVersion = .ok true →
      (Current build contents v (ownerAccount request resolvedAppIndex) request.authType request.token →
        request.token ≠ "" ∧ (build = .plain → apiVersion < apiVersion9 ∨ request.owner = request.callerBundleName)) ∧
      (build ≠ .plain → ∀ aliasName, a.getOAuthToken request.authType apiVersion = .ok aliasName →
        if contents v.assets aliasName = some request.token then
          (removeDataFromAsset service aliasName (getDataFromAsset service aliasName v.assets).2).1 = .success ∨
            (apiVersion ≥ apiVersion9 ∧ request.owner = request.callerBundleName)
        else Answers service contents aliasName v.assets)

def Harmless (v : Vault σ) : Operation → Prop
  | .setOAuthToken request resolvedAppIndex => HarmlessSet build v request resolvedAppIndex
  | .deleteOAuthToken request resolvedAppIndex apiVersion =>
      HarmlessDelete build service contents subspace v request resolvedAppIndex apiVersion
  | .getOAuthToken request resolvedAppIndex _ =>
      build ≠ .plain → ∀ tokenInfo, token v (ownerAccount request resolvedAppIndex) request.authType = some tokenInfo →
        Answers service contents tokenInfo.token v.assets
  | _ => True

/-- The store as the operations leave it. With the asset part, no two tokens have one alias,
and nothing is saved under the empty one. -/
structure Sound (v : Vault σ) : Prop where
  key : ∀ (k : String) (a : AppAccountInfo), v.store.accounts[k]? = some a → a.getPrimeKey = k
  plain : ∀ (k : String) (a : AppAccountInfo), v.store.accounts[k]? = some a → a.Plain
  type : ∀ k t tokenInfo, token v k t = some tokenInfo → tokenInfo.authType = t
  empty : build ≠ .plain → contents v.assets "" = none
  alone : build ≠ .plain → ∀ k t k' t' x x', token v k t = some x → token v k' t' = some x' → x.token = x'.token →
    x.token ≠ "" → k = k' ∧ t = t'

section records

variable {build : Build} {a b : AppAccountInfo} {authType text type : String} {apiVersion : Nat}

structure OnlyType (authType : String) (a b : AppAccountInfo) : Prop where
  key : b.getPrimeKey = a.getPrimeKey
  other : ∀ type, type ≠ authType → b.oauthTokens[type]? = a.oauthTokens[type]?

theorem OnlyType.refl (authType : String) (a : AppAccountInfo) : OnlyType authType a a := ⟨rfl, fun _ _ => rfl⟩

theorem onlyType_insert (authType : String) (a : AppAccountInfo) (tokenInfo : OAuthTokenInfo) :
    OnlyType authType a { a with oauthTokens := a.oauthTokens.insert authType tokenInfo } := by
  refine ⟨rfl, fun type htype => ?_⟩
  dsimp only
  rw [getElem?_insert_eq, if_neg htype.symm]

theorem onlyType_erase (authType : String) (a : AppAccountInfo) :
    OnlyType authType a { a with oauthTokens := a.oauthTokens.erase authType } := by
  refine ⟨rfl, fun type htype => ?_⟩
  dsimp only
  rw [getElem?_erase_eq, if_neg htype.symm]

theorem getElem?_inserted (authType : String) (a : AppAccountInfo) (tokenInfo : OAuthTokenInfo) :
    ({ a with oauthTokens := a.oauthTokens.insert authType tokenInfo } : AppAccountInfo).oauthTokens[authType]? =
      some tokenInfo := by
  dsimp only
  rw [getElem?_insert_eq, if_pos rfl]

structure Fits (type : String) (b : AppAccountInfo) : Prop where
  cut : NoNul type ∨ ∀ tokenInfo, b.toJson.oauthTokens[type]? = some tokenInfo → tokenInfo.token = ""
  text : ∀ tokenInfo, b.oauthTokens[type]? = some tokenInfo → NoNul tokenInfo.token

theorem Fits.of_plain (ha : a.Plain) (type : String) : Fits type a := by
  refine ⟨?_, fun tokenInfo h => (ha.oauthTokens type tokenInfo h).2.token⟩
  cases hinfo : a.oauthTokens[type]? with
  | none =>
      refine .inr fun tokenInfo h => ?_
      rw [getElem?_toJson, hinfo] at h
      cases h
  | some tokenInfo => exact .inl (ha.oauthTokens type tokenInfo hinfo).1

theorem fits_insert (ha : a.Plain) {tokenInfo : OAuthTokenInfo} (htext : NoNul tokenInfo.token)
    (hnew : a.oauthTokens[authType]? = none → NoNul authType ∨ tokenInfo.token = "" ∨
      tokenInfo.status = false ∧ tokenInfo.authList = ∅) :
    Fits authType { a with oauthTokens := a.oauthTokens.insert authType tokenInfo } := by
  refine ⟨?_, fun x hx => ?_⟩
  · cases hold : a.oauthTokens[authType]? with
    | some old => exact .inl (ha.oauthTokens authType old hold).1
    | none =>
        refine (hnew hold).imp_right fun hempty x hx => ?_
        rw [getElem?_toJson, getElem?_inserted] at hx
        obtain ⟨x', hx', rfl⟩ := Option.map_eq_some_iff.mp hx
        obtain ⟨hsame, hkept⟩ := Option.filter_eq_some_iff.mp hx'
        obtain rfl := Option.some.inj hsame
        refine hempty.resolve_right fun ⟨hstatus, hlist⟩ => ?_
        rw [hstatus, hlist] at hkept
        simp at hkept
  · rw [getElem?_inserted] at hx
    exact Option.some.inj hx ▸ htext

theorem fits_erase (authType : String) (a : AppAccountInfo) :
    Fits authType { a with oauthTokens := a.oauthTokens.erase authType } := by
  have hnone : (a.oauthTokens.erase authType)[authType]? = none := by
    rw [getElem?_erase_eq, if_pos rfl]
  refine ⟨.inr fun x hx => ?_, fun x hx => ?_⟩
  · rw [getElem?_toJson] at hx
    dsimp only at hx
    rw [hnone] at hx
    cases hx
  · dsimp only at hx
    rw [hnone] at hx
    cases hx

/-- A token that a call on another one may drop if nothing is set, or make without a text. -/
structure Carries (x x' : Option OAuthTokenInfo) : Prop where
  back : ∀ info', x' = some info' → info'.token = "" ∨ ∃ info, x = some info ∧ info.token = info'.token
  forth : ∀ info, x = some info → info.status = true →
    ∃ info', x' = some info' ∧ info'.token = info.token ∧ info'.status = true

theorem Carries.refl (x : Option OAuthTokenInfo) : Carries x x :=
  ⟨fun info' h => .inr ⟨info', h, rfl⟩, fun info h hstatus => ⟨info, h, rfl, hstatus⟩⟩

theorem Carries.trans {x y z : Option OAuthTokenInfo} (h : Carries x y) (h' : Carries y z) : Carries x z := by
  refine ⟨fun info hinfo => ?_, fun info hinfo hstatus => ?_⟩
  · rcases h'.back info hinfo with hempty | ⟨mid, hmid, htoken⟩
    · exact .inl hempty
    · rcases h.back mid hmid with hempty | ⟨old, hold, htoken'⟩
      · exact .inl (htoken ▸ hempty)
      · exact .inr ⟨old, hold, htoken'.trans htoken⟩
  · obtain ⟨mid, hmid, htoken, hstatus⟩ := h.forth info hinfo hstatus
    obtain ⟨info', hinfo', htoken', hstatus'⟩ := h'.forth mid hmid hstatus
    exact ⟨info', hinfo', htoken'.trans htoken, hstatus'⟩

theorem carries_toJson (a : AppAccountInfo) (type : String) :
    Carries a.oauthTokens[type]? a.toJson.oauthTokens[type]? := by
  rw [getElem?_toJson]
  refine ⟨fun info' hinfo' => ?_, fun info hinfo hstatus => ?_⟩
  · obtain ⟨info, hinfo, rfl⟩ := Option.map_eq_some_iff.mp hinfo'
    exact .inr ⟨info, (Option.filter_eq_some_iff.mp hinfo).1, rfl⟩
  · refine ⟨{ info with authType := type }, ?_, rfl, hstatus⟩
    rw [hinfo, Option.filter_some, if_pos (by rw [hstatus]; rfl)]
    rfl

theorem authType_toJson {tokenInfo : OAuthTokenInfo} (h : a.toJson.oauthTokens[type]? = some tokenInfo) :
    tokenInfo.authType = type := by
  rw [getElem?_toJson] at h
  obtain ⟨info, -, rfl⟩ := Option.map_eq_some_iff.mp h
  rfl

/-- What a document has of a record that differs in one type from one that came out of
a document. -/
structure Document (authType : String) (b : AppAccountInfo) : Prop where
  back : ∀ (type : String) (info' : OAuthTokenInfo), b.toJson.written.oauthTokens[type]? = some info' →
    NoNul type ∧ info'.authType = type ∧ (info'.token = "" ∨
      ∃ info, b.oauthTokens[type]? = some info ∧ info.token = info'.token)
  forth : ∀ (type : String) (info : OAuthTokenInfo), NoNul authType ∨ type ≠ authType →
    b.oauthTokens[type]? = some info → info.status = true →
      ∃ info', b.toJson.written.oauthTokens[type]? = some info' ∧ info'.token = info.token ∧ info'.status = true

theorem document (ha : a.Plain) (honly : OnlyType authType a b) (hfits : Fits authType b) : Document authType b := by
  have hplain : ∀ (t : String) (x : OAuthTokenInfo), t ≠ authType → b.toJson.oauthTokens[t]? = some x →
      NoNul t ∧ NoNul x.token := by
    intro t x ht hx
    rw [getElem?_toJson, honly.other t ht] at hx
    obtain ⟨old, hold, rfl⟩ := Option.map_eq_some_iff.mp hx
    obtain ⟨htype, hold⟩ := ha.oauthTokens t old (Option.filter_eq_some_iff.mp hold).1
    exact ⟨htype, hold.token⟩
  have htext : ∀ x, b.toJson.oauthTokens[authType]? = some x → NoNul x.token := by
    intro x hx
    rw [getElem?_toJson] at hx
    obtain ⟨old, hold, rfl⟩ := Option.map_eq_some_iff.mp hx
    exact hfits.text old (Option.filter_eq_some_iff.mp hold).1
  refine ⟨fun type info' hinfo' => ?_, fun type info htype hinfo hstatus => ?_⟩
  · obtain ⟨t, x, hx, rfl, rfl⟩ := written_back hinfo'
    refine ⟨noNul_cStr t, congrArg cStr (authType_toJson hx), ?_⟩
    by_cases hcut : t = authType ∧ ¬NoNul authType
    · obtain ⟨rfl, hnul⟩ := hcut
      refine .inl ?_
      rw [OAuthTokenInfo.written, (hfits.cut.resolve_left hnul) x hx, cStr_empty]
    · have hnoNul : NoNul t ∧ NoNul x.token := by
        by_cases ht : t = authType
        · subst ht
          exact ⟨not_not.mp fun h => hcut ⟨rfl, h⟩, htext x hx⟩
        · exact hplain t x ht hx
      rw [OAuthTokenInfo.written, hnoNul.2.cStr, hnoNul.1.cStr]
      exact (carries_toJson b t).back x hx
  · obtain ⟨x, hx, htoken, hstatus'⟩ := (carries_toJson b type).forth info hinfo hstatus
    have hnoNul : NoNul type ∧ NoNul x.token := by
      by_cases ht : type = authType
      · subst ht
        exact ⟨htype.resolve_right fun h => h rfl, htext x hx⟩
      · exact hplain type x ht hx
    refine ⟨x.written, written_forth hnoNul.1 hx, ?_, hstatus'⟩
    rw [OAuthTokenInfo.written, hnoNul.2.cStr, htoken]

theorem Document.carries (h : Document authType b) (htype : NoNul authType ∨ type ≠ authType) :
    Carries b.oauthTokens[type]? b.toJson.written.oauthTokens[type]? :=
  ⟨fun info' hinfo' => (h.back type info' hinfo').2.2, fun info hinfo => h.forth type info htype hinfo⟩

theorem setOAuthToken_spec (ha : a.Plain) (htype : text = "" ∨ NoNul authType) (hplain : build = .plain → NoNul text)
    (h : setOAuthToken build a authType text = .ok b) : OnlyType authType a b ∧ Fits authType b ∧
    ∃ tokenInfo, b.oauthTokens[authType]? = some tokenInfo ∧ (text ≠ "" → tokenInfo.status = true) ∧
      tokenInfo.token = recordToken build a authType text := by
  obtain ⟨tokenInfo, rfl, hstatus, htext, -, hnew⟩ := setOAuthToken_ok h
  have hnoNul : NoNul tokenInfo.token := by
    rw [htext]
    unfold recordToken
    cases build with
    | plain => exact hplain rfl
    | asset sha256 =>
        dsimp only
        cases hold : a.oauthTokens[authType]? with
        | none => exact noNul_aliasOf sha256 a authType
        | some old => exact (ha.oauthTokens authType old hold).2.token
  refine ⟨onlyType_insert authType a tokenInfo, fits_insert ha hnoNul fun hnone => ?_, tokenInfo,
    getElem?_inserted authType a tokenInfo, hstatus, htext⟩
  obtain ⟨hlist, hset, -⟩ := hnew hnone
  refine htype.symm.imp_right fun hempty => .inr ⟨?_, hlist⟩
  rw [hset, hempty]
  rfl

/-- The record after a deletion. Without the asset part a caller that is not the owner keeps
the text with API 9. -/
theorem deleted_spec (ha : a.Plain) (build : Build) (apiVersion : Nat) {info : OAuthTokenInfo}
    (hinfo : a.oauthTokens[authType]? = some info) (htext : info.token = text) (isOwnerSelf : Bool) :
    ∃ b, (if apiVersion ≥ apiVersion9 then a.deleteAuthToken authType text isOwnerSelf
      else deleteOAuthToken build a authType text) = .ok b ∧ OnlyType authType a b ∧ Fits authType b ∧
      ∀ info', b.oauthTokens[authType]? = some info' → info'.token = "" ∨
        (info'.token = text ∧ ¬(apiVersion ≥ apiVersion9 ∧ isOwnerSelf = true) ∧
          (build = .plain → apiVersion ≥ apiVersion9 ∧ isOwnerSelf = false)) := by
  obtain ⟨htype, hplain⟩ := ha.oauthTokens authType info hinfo
  have hfits : ∀ x : OAuthTokenInfo, NoNul x.token →
      Fits authType { a with oauthTokens := a.oauthTokens.insert authType x } :=
    fun x hx => fits_insert ha hx fun _ => .inl htype
  by_cases hversion : apiVersion ≥ apiVersion9
  · rw [if_pos hversion]
    unfold deleteAuthToken
    rw [hinfo]
    dsimp only
    rw [if_neg (not_not_intro htext)]
    cases isOwnerSelf with
    | true =>
        refine ⟨_, rfl, onlyType_erase authType a, fits_erase authType a, fun info' hinfo' => ?_⟩
        dsimp only at hinfo'
        rw [getElem?_erase_eq, if_pos rfl] at hinfo'
        cases hinfo'
    | false =>
        refine ⟨_, rfl, onlyType_insert authType a _, hfits _ hplain.token, fun info' hinfo' => .inr ?_⟩
        rw [getElem?_inserted] at hinfo'
        obtain rfl := Option.some.inj hinfo'
        exact ⟨htext, nofun, fun _ => ⟨hversion, rfl⟩⟩
  · rw [if_neg hversion]
    unfold AssetStore.deleteOAuthToken
    cases build with
    | plain =>
        dsimp only
        unfold AppAccountInfo.deleteOAuthToken
        rw [hinfo]
        dsimp only
        rw [if_pos htext]
        refine ⟨_, rfl, onlyType_insert authType a _, hfits _ noNul_empty, fun info' hinfo' => .inl ?_⟩
        rw [getElem?_inserted] at hinfo'
        obtain rfl := Option.some.inj hinfo'
        rfl
    | asset sha256 =>
        dsimp only
        rw [hinfo]
        dsimp only
        rw [if_pos htext]
        refine ⟨_, rfl, onlyType_insert authType a _, hfits _ hplain.token, fun info' hinfo' => .inr ?_⟩
        rw [getElem?_inserted] at hinfo'
        obtain rfl := Option.some.inj hinfo'
        exact ⟨htext, fun h => hversion h.1, nofun⟩

theorem deleted_other {isOwnerSelf : Bool} (hother : ∀ info, a.oauthTokens[authType]? = some info → info.token ≠ text)
    (h : (if apiVersion ≥ apiVersion9 then a.deleteAuthToken authType text isOwnerSelf
      else deleteOAuthToken build a authType text) = .ok b) : b = a := by
  cases hinfo : a.oauthTokens[authType]? with
  | none =>
      split at h
      · unfold deleteAuthToken at h
        rw [hinfo] at h
        cases h
      · unfold AssetStore.deleteOAuthToken AppAccountInfo.deleteOAuthToken at h
        rw [hinfo] at h
        split at h
        · cases h
        · cases h
  | some info =>
      have hne := hother info hinfo
      split at h
      · unfold deleteAuthToken at h
        rw [hinfo] at h
        dsimp only at h
        rw [if_pos hne] at h
        exact (Except.ok.inj h).symm
      · unfold AssetStore.deleteOAuthToken AppAccountInfo.deleteOAuthToken at h
        rw [hinfo] at h
        dsimp only at h
        rw [if_neg hne, if_neg hne] at h
        split at h
        · cases h
        · cases h

theorem setOAuthTokenVisibility_spec {bundleName : String} {isVisible : Bool} (ha : a.Plain)
    (h : a.setOAuthTokenVisibility authType bundleName isVisible apiVersion = .ok b) :
    OnlyType authType a b ∧ Fits authType b ∧ ∀ type : String, Carries a.oauthTokens[type]? b.oauthTokens[type]? := by
  have hfits : ∀ old tokenInfo : OAuthTokenInfo, a.oauthTokens[authType]? = some old → tokenInfo.token = old.token →
      Fits authType { a with oauthTokens := a.oauthTokens.insert authType tokenInfo } := by
    intro old tokenInfo hold htoken
    obtain ⟨htype, hplain⟩ := ha.oauthTokens authType old hold
    exact fits_insert ha (htoken ▸ hplain.token) fun _ => .inl htype
  have hinsert : ∀ tokenInfo : OAuthTokenInfo, Carries a.oauthTokens[authType]? (some tokenInfo) →
      ∀ type : String, Carries a.oauthTokens[type]? (a.oauthTokens.insert authType tokenInfo)[type]? := by
    intro tokenInfo hcarries type
    rw [getElem?_insert_eq]
    split
    · next he =>
        subst he
        exact hcarries
    · exact .refl _
  have hnew : a.oauthTokens[authType]? = none → ∀ tokenInfo : OAuthTokenInfo, tokenInfo.token = "" →
      Carries a.oauthTokens[authType]? (some tokenInfo) := by
    intro hnone tokenInfo hempty
    rw [hnone]
    refine ⟨?_, nofun⟩
    rintro _ ⟨⟩
    exact .inl hempty
  have hold : ∀ old tokenInfo : OAuthTokenInfo, a.oauthTokens[authType]? = some old →
    tokenInfo.token = old.token →
      tokenInfo.status = old.status → Carries a.oauthTokens[authType]? (some tokenInfo) := by
    intro old tokenInfo hold htoken hstatus
    rw [hold]
    refine ⟨?_, ?_⟩
    · rintro _ ⟨⟩
      exact .inr ⟨old, rfl, htoken.symm⟩
    · rintro _ ⟨⟩ hset
      exact ⟨tokenInfo, rfl, htoken, hstatus.trans hset⟩
  unfold AppAccountInfo.setOAuthTokenVisibility at h
  split at h
  · obtain rfl := Except.ok.inj h
    exact ⟨.refl authType _, .of_plain ha authType, fun type => .refl _⟩
  cases hinfo : a.oauthTokens[authType]? with
  | none =>
      rw [hinfo] at h
      dsimp only at h
      split at h
      · cases h
      split at h
      · obtain rfl := Except.ok.inj h
        exact ⟨.refl authType _, .of_plain ha authType, fun type => .refl _⟩
      split at h
      · cases h
      · obtain rfl := Except.ok.inj h
        exact ⟨onlyType_insert authType a _, fits_insert ha noNul_empty fun _ => .inr (.inl rfl),
          hinsert _ (hnew hinfo _ rfl)⟩
  | some info =>
      rw [hinfo] at h
      dsimp only at h
      split at h
      · obtain rfl := Except.ok.inj h
        exact ⟨onlyType_insert authType a _, hfits info _ hinfo rfl, hinsert _ (hold info _ hinfo rfl rfl)⟩
      split at h
      · cases h
      · obtain rfl := Except.ok.inj h
        exact ⟨onlyType_insert authType a _, hfits info _ hinfo rfl, hinsert _ (hold info _ hinfo rfl rfl)⟩

end records

section secrets

variable {σ : Type} {build : Build} {service : AssetService σ} {contents : σ → String → Option String}
  {name name' value : String} {s s' : σ}

theorem secret_eq (build : Build) {c c' : String → Option String} (h : c name = c' name) :
    secret build c name = secret build c' name := by
  unfold secret
  rw [h]

theorem secret_of_none (sha256 : Sha256) {c : String → Option String} (h : c name = none) :
    secret (.asset sha256) c name = "" := by
  unfold secret
  dsimp only
  rw [h]
  rfl

theorem secret_of_some (sha256 : Sha256) {c : String → Option String} (h : c name = some value) :
    secret (.asset sha256) c name = value := by
  unfold secret
  dsimp only
  rw [h]
  rfl

theorem findToken_spec (hservice : service.Lawful contents) (build : Build) (tokenInfo : OAuthTokenInfo) (s : σ) :
    contents (findToken build service tokenInfo s).2 = contents s ∧
      ((findToken build service tokenInfo s).1 = "" ∨
        (findToken build service tokenInfo s).1 = secret build (contents s) tokenInfo.token) := by
  cases build with
  | plain => exact ⟨rfl, .inr rfl⟩
  | asset sha256 =>
      obtain ⟨hsame, hfound⟩ := hservice.query tokenInfo.token s
      refine ⟨hsame, ?_⟩
      unfold findToken getDataFromAsset
      dsimp only
      cases hquery : (service.assetQuery tokenInfo.token s).1 with
      | none => exact .inl rfl
      | some found => exact .inr (secret_of_some sha256 (hfound found hquery)).symm

theorem visibleTokens_spec (hservice : service.Lawful contents) (build : Build) (isSelf : Bool) (bundleKey : String)
    (tokens : List OAuthTokenInfo) (s : σ) :
    contents (AssetStore.visibleTokens build service isSelf bundleKey tokens s).2 = contents s ∧
      ∀ x ∈ (AssetStore.visibleTokens build service isSelf bundleKey tokens s).1, ∃ y ∈ tokens, x.authType = y.authType ∧
        (x.token = "" ∨ x.token = secret build (contents s) y.token) := by
  induction tokens generalizing s with
  | nil => exact ⟨rfl, nofun⟩
  | cons y tokens ih =>
      unfold AssetStore.visibleTokens
      split
      · obtain ⟨hsame, hmem⟩ := ih s
        refine ⟨hsame, fun x hx => ?_⟩
        obtain ⟨z, hz, h⟩ := hmem x hx
        exact ⟨z, List.mem_cons_of_mem y hz, h⟩
      · obtain ⟨hsame, hfound⟩ := findToken_spec hservice build y s
        obtain ⟨hrest, hmem⟩ := ih (findToken build service y s).2
        rw [hsame] at hrest hmem
        have hmem' : ∀ x ∈ (AssetStore.visibleTokens build service isSelf bundleKey tokens
            (findToken build service y s).2).1,
            ∃ z ∈ y :: tokens, x.authType = z.authType ∧
              (x.token = "" ∨ x.token = secret build (contents s) z.token) := by
          intro x hx
          obtain ⟨z, hz, h⟩ := hmem x hx
          exact ⟨z, List.mem_cons_of_mem y hz, h⟩
        dsimp only
        split
        · exact ⟨hrest, hmem'⟩
        · refine ⟨hrest, fun x hx => ?_⟩
          rcases List.mem_cons.mp hx with rfl | hx
          · exact ⟨y, List.mem_cons_self, rfl, hfound⟩
          · exact hmem' x hx

end secrets

section writes

variable {σ : Type} {build : Build} {contents : σ → String → Option String} {v v' : Vault σ}
  {key type text : String} {a b : AppAccountInfo}

/-- The account `a` is written back as `b`, which differs in one type of token. -/
structure Write (v v' : Vault σ) (key type : String) (a b : AppAccountInfo) : Prop where
  stored : v.store.accounts[key]? = some a
  only : OnlyType type a b
  document : Document type b
  store : v'.store = v.store.put key b.toJson.written

theorem token_put (v : Vault σ) (key : String) (a : AppAccountInfo) (assets : σ) (k t : String) :
    token ⟨v.store.put key a, assets⟩ k t = if key = k then a.oauthTokens[t]? else token v k t := by
  unfold token
  rw [Store.getElem?_put]
  split
  · rfl
  · rfl

theorem Write.token_eq (h : Write v v' key type a b) (k t : String) :
    token v' k t = if key = k then b.toJson.written.oauthTokens[t]? else token v k t := by
  rw [← token_put v key b.toJson.written v'.assets, ← h.store]

theorem Write.token_old (h : Write v v' key type a b) (t : String) : token v key t = a.oauthTokens[t]? := by
  unfold token
  rw [h.stored]
  rfl

theorem Write.carries (h : Write v v' key type a b) {k t : String} (hne : ¬(k = key ∧ t = type)) :
    Carries (token v k t) (token v' k t) := by
  rw [h.token_eq]
  by_cases hk : key = k
  · subst hk
    have ht : t ≠ type := fun ht => hne ⟨rfl, ht⟩
    rw [if_pos rfl, h.token_old, ← h.only.other t ht]
    exact h.document.carries (.inr ht)
  · rw [if_neg hk]
    exact .refl _

theorem Write.carries_of_carries (h : Write v v' key type a b) (ha : a.Plain)
    (hcarries : ∀ t : String, Carries a.oauthTokens[t]? b.oauthTokens[t]?) (k t : String) :
    Carries (token v k t) (token v' k t) := by
  by_cases hother : k = key ∧ t = type
  · obtain ⟨rfl, rfl⟩ := hother
    rw [h.token_eq, if_pos rfl, h.token_old]
    by_cases ht : NoNul t
    · exact (hcarries t).trans (h.document.carries (.inl ht))
    · refine ⟨fun info' hinfo' => ?_, fun info hinfo => ?_⟩
      · exact (ht (h.document.back t info' hinfo').1).elim
      · exact (ht (ha.oauthTokens t info hinfo).1).elim
  · exact h.carries hother

/-- A write keeps the store sound if the token that it changes keeps its alias or gets one
that is not in use. -/
theorem Write.sound (h : Write v v' key type a b) (hv : Sound build contents v)
    (hempty : build ≠ .plain → contents v'.assets "" = none)
    (halone : build ≠ .plain → ∀ info', b.oauthTokens[type]? = some info' → ∀ k t info, token v k t = some info →
      info.token = info'.token → info.token ≠ "" → k = key ∧ t = type) : Sound build contents v' := by
  have hback := h.document.back
  have hold : build ≠ .plain → ∀ t info', b.toJson.written.oauthTokens[t]? = some info' → info'.token ≠ "" →
      ∀ k t' info, token v k t' = some info → info.token = info'.token → k = key ∧ t' = t := by
    intro hbuild t info' hinfo' hne k t' info hinfo htoken
    have hne' : info.token ≠ "" := htoken ▸ hne
    obtain ⟨mid, hmid, hmidToken⟩ := (hback t info' hinfo').2.2.resolve_left hne
    by_cases ht : t = type
    · subst ht
      exact halone hbuild mid hmid k t' info hinfo (htoken.trans hmidToken.symm) hne'
    · rw [h.only.other t ht, ← h.token_old] at hmid
      exact hv.alone hbuild k t' key t info mid hinfo hmid (htoken.trans hmidToken.symm) hne'
  have hrecord : ∀ (k : String) (c : AppAccountInfo), v'.store.accounts[k]? = some c → c.getPrimeKey = k ∧ c.Plain := by
    intro k c hc
    rw [h.store, Store.getElem?_put] at hc
    split at hc
    · next he =>
        obtain rfl := Option.some.inj hc
        subst he
        have hkey : b.toJson.getPrimeKey = key := h.only.key.trans (hv.key key a h.stored)
        have hnoNul : NoNul b.toJson.getPrimeKey := by
          rw [hkey, ← hv.key key a h.stored]
          exact (hv.plain key a h.stored).getPrimeKey
        exact ⟨(getPrimeKey_written hnoNul).trans hkey, plain_written b.toJson⟩
    · exact ⟨hv.key k c hc, hv.plain k c hc⟩
  refine ⟨fun k c hc => (hrecord k c hc).1, fun k c hc => (hrecord k c hc).2, fun k t info hinfo => ?_, hempty,
    fun hbuild k t k' t' x x' hx hx' htoken hne => ?_⟩
  · rw [h.token_eq] at hinfo
    split at hinfo
    · exact (hback t info hinfo).2.1
    · exact hv.type k t info hinfo
  · rw [h.token_eq] at hx hx'
    have hne' : x'.token ≠ "" := htoken ▸ hne
    split at hx
    · next hk =>
        subst hk
        split at hx'
        · next hk' =>
            subst hk'
            by_cases ht : t = type
            · by_cases ht' : t' = type
              · exact ⟨rfl, ht.trans ht'.symm⟩
              · obtain ⟨mid, hmid, hmidToken⟩ := (hback t' x' hx').2.2.resolve_left hne'
                rw [h.only.other t' ht', ← h.token_old] at hmid
                obtain ⟨hk, ht⟩ := hold hbuild t x hx hne key t' mid hmid (hmidToken.trans htoken.symm)
                exact ⟨rfl, ht.symm⟩
            · obtain ⟨mid, hmid, hmidToken⟩ := (hback t x hx).2.2.resolve_left hne
              rw [h.only.other t ht, ← h.token_old] at hmid
              exact hold hbuild t' x' hx' hne' key t mid hmid (hmidToken.trans htoken)
        · obtain ⟨hk', ht'⟩ := hold hbuild t x hx hne k' t' x' hx' htoken.symm
          exact ⟨hk'.symm, ht'.symm⟩
    · split at hx'
      · next hk' =>
          subst hk'
          exact hold hbuild t' x' hx' hne' k t x hx htoken
      · exact hv.alone hbuild k t k' t' x x' hx hx' htoken hne

def Gone (build : Build) (contents : σ → String → Option String) (v : Vault σ) (key type : String) : Prop :=
  ∀ info, token v key type = some info → secret build (contents v.assets) info.token = ""

def Held (build : Build) (contents : σ → String → Option String) (v : Vault σ) (key type text : String) : Prop :=
  ∃ info, token v key type = some info ∧ info.status = true ∧ secret build (contents v.assets) info.token = text

structure Spares (build : Build) (contents : σ → String → Option String) (v v' : Vault σ) (key type : String) :
    Prop where
  carries : Carries (token v key type) (token v' key type)
  secret : ∀ info, token v key type = some info →
    AssetStore.secret build (contents v'.assets) info.token = AssetStore.secret build (contents v.assets) info.token

theorem secret_empty (hv : Sound build contents v) : secret build (contents v.assets) "" = "" := by
  cases hb : build with
  | plain => rfl
  | asset sha256 => exact secret_of_none sha256 (hv.empty (by rw [hb]; exact nofun))

theorem Gone.spared (h : Gone build contents v key type) (hv' : Sound build contents v')
    (hs : Spares build contents v v' key type) : Gone build contents v' key type := by
  intro info' hinfo'
  rcases hs.carries.back info' hinfo' with hempty | ⟨info, hinfo, htoken⟩
  · rw [hempty]
    exact secret_empty hv'
  · rw [← htoken, hs.secret info hinfo]
    exact h info hinfo

theorem Held.spared (h : Held build contents v key type text) (hs : Spares build contents v v' key type) :
    Held build contents v' key type text := by
  obtain ⟨info, hinfo, hstatus, hsecret⟩ := h
  obtain ⟨info', hinfo', htoken, hstatus'⟩ := hs.carries.forth info hinfo hstatus
  refine ⟨info', hinfo', hstatus', ?_⟩
  rw [htoken, hs.secret info hinfo]
  exact hsecret

structure Local (build : Build) (contents : σ → String → Option String) (v v' : Vault σ) (key type : String) :
    Prop where
  sound : Sound build contents v'
  others : ∀ k t, ¬(k = key ∧ t = type) → Spares build contents v v' k t

structure Asked (contents : σ → String → Option String) (v v' : Vault σ) : Prop where
  store : v'.store = v.store
  contents : contents v'.assets = contents v.assets

theorem Asked.refl (v : Vault σ) : Asked contents v v := ⟨rfl, rfl⟩

theorem Asked.token (h : Asked contents v v') (k t : String) : token v' k t = TokenDeletion.token v k t := by
  unfold TokenDeletion.token
  rw [h.store]

theorem Asked.sound (h : Asked contents v v') (hv : Sound build contents v) : Sound build contents v' := by
  refine ⟨?_, ?_, fun k t info hinfo => hv.type k t info (h.token k t ▸ hinfo), ?_,
    fun hbuild k t k' t' x x' hx hx' => hv.alone hbuild k t k' t' x x' (h.token k t ▸ hx) (h.token k' t' ▸ hx')⟩
  · rw [h.store]
    exact hv.key
  · rw [h.store]
    exact hv.plain
  · rw [h.contents]
    exact hv.empty

theorem Asked.spares (h : Asked contents v v') (k t : String) : Spares build contents v v' k t := by
  refine ⟨?_, fun info _ => ?_⟩
  · rw [h.token]
    exact .refl _
  · rw [h.contents]

theorem Asked.local (h : Asked contents v v') (hv : Sound build contents v) (key type : String) :
    Local build contents v v' key type := ⟨h.sound hv, fun k t _ => h.spares k t⟩

end writes

section calls

variable {σ : Type} {build : Build} {service : AssetService σ} {contents : σ → String → Option String} {subspace : Bool}
  {v : Vault σ} {request : AuthenticatorSessionRequest} {resolvedAppIndex targetAppIndex apiVersion : Nat}
  {a b : AppAccountInfo} {key type text : String}

theorem saved_write (hv : Sound build contents v) (ha : v.store.accounts[key]? = some a) (hb : OnlyType type a b)
    (hfits : Fits type b) (assets : σ) :
    Vault.save ⟨v.store, assets⟩ b = (.ok (), ⟨v.store.put key b.toJson.written, assets⟩) ∧
      Write v ⟨v.store.put key b.toJson.written, assets⟩ key type a b := by
  have hkey : b.getPrimeKey = key := hb.key.trans (hv.key key a ha)
  refine ⟨?_, ha, hb, document (hv.plain key a ha) hb hfits, rfl⟩
  rw [save_eq (v := ⟨v.store, assets⟩) (by rw [hkey]; exact ha), hkey]

theorem set_step (hservice : service.Lawful contents) (hv : Sound build contents v)
    (hh : HarmlessSet build v request resolvedAppIndex) :
    Local build contents v (serveSetOAuthToken build service request resolvedAppIndex v).2
      (callerAccount request resolvedAppIndex) request.authType ∧
    ((serveSetOAuthToken build service request resolvedAppIndex v).1 = .ok () → request.token ≠ "" →
      Held build contents (serveSetOAuthToken build service request resolvedAppIndex v).2
        (callerAccount request resolvedAppIndex) request.authType request.token) := by
  obtain ⟨htype, hbuild⟩ := hh
  generalize hkey : callerAccount request resolvedAppIndex = key at hbuild
  unfold serveSetOAuthToken
  rw [load_newAccount,
    show (newAccount request.callerBundleName resolvedAppIndex request.name).getPrimeKey = key from hkey]
  cases ha : v.store.accounts[key]? with
  | none => exact ⟨(Asked.refl v).local hv _ _, nofun⟩
  | some a =>
  dsimp only
  cases hset : AssetStore.setOAuthToken build a request.authType request.token with
  | error e => exact ⟨(Asked.refl v).local hv _ _, nofun⟩
  | ok b =>
  have hplain : build = .plain → NoNul request.token := by
    rintro rfl
    exact hbuild
  obtain ⟨honly, hfits, tokenInfo, htoken, hstatus, htext⟩ := setOAuthToken_spec (hv.plain key a ha) htype hplain hset
  obtain ⟨hsave, hwrite⟩ := saved_write hv ha honly hfits v.assets
  have hstored : request.token ≠ "" → ∃ info', b.toJson.written.oauthTokens[request.authType]? = some info' ∧
      info'.token = tokenInfo.token ∧ info'.status = true :=
    fun hne => hwrite.document.forth request.authType tokenInfo (.inl (htype.resolve_left hne)) htoken (hstatus hne)
  dsimp only
  rw [hsave]
  cases build with
  | plain =>
      refine ⟨⟨hwrite.sound hv (fun h => absurd rfl h) (fun h => absurd rfl h), fun k t hne =>
        ⟨hwrite.carries hne, fun _ _ => rfl⟩⟩, fun _ hne => ?_⟩
      obtain ⟨info', hinfo', htoken', hstatus'⟩ := hstored hne
      refine ⟨info', ?_, hstatus', htoken'.trans htext⟩
      rw [hwrite.token_eq, if_pos rfl, hinfo']
  | asset sha256 =>
      obtain ⟨hnonempty, hfree⟩ := hbuild a ha
      unfold recordToken at htext
      dsimp only at htext ⊢
      have hname : tokenInfo.token ≠ "" := by
        cases hold : a.oauthTokens[request.authType]? with
        | none =>
            rw [hold] at htext
            exact htext ▸ aliasOf_ne_empty sha256 a request.authType
        | some old =>
            rw [hold] at htext
            exact htext ▸ hnonempty old hold
      have hget : (b.getOAuthToken request.authType apiVersion8).toOption.getD "" = tokenInfo.token := by
        unfold AppAccountInfo.getOAuthToken
        rw [htoken]
        dsimp only
        rw [if_neg (by decide), if_neg hname]
        rfl
      rw [hget]
      have hothers : ∀ name, name ≠ tokenInfo.token → contents (saveDataToAsset service
          (ownerKey request.callerBundleName b.appIndex) (getAlias sha256 b) tokenInfo.token request.token v.assets).2
            name = contents v.assets name :=
        fun name hne => contents_saved_other hservice _ _ _ hne
      have hself : (saveDataToAsset service (ownerKey request.callerBundleName b.appIndex) (getAlias sha256 b)
          tokenInfo.token request.token v.assets).1 = .ok () → request.token ≠ "" → contents (saveDataToAsset service
            (ownerKey request.callerBundleName b.appIndex) (getAlias sha256 b) tokenInfo.token request.token
              v.assets).2 tokenInfo.token = some request.token := contents_saved_self hservice
      generalize saveDataToAsset service (ownerKey request.callerBundleName b.appIndex) (getAlias sha256 b)
        tokenInfo.token request.token v.assets = added at hothers hself ⊢
      have hfreeToken : ∀ k t info, token v k t = some info → info.token = tokenInfo.token →
          k = key ∧ t = request.authType := by
        intro k t info hinfo he
        cases hold : a.oauthTokens[request.authType]? with
        | none =>
            rw [hold] at htext
            exact hfree k t info hinfo (he.trans htext)
        | some old =>
            rw [hold] at htext
            have holdToken : token v key request.authType = some old := (hwrite.token_old _).trans hold
            exact hv.alone nofun k t key request.authType info old hinfo holdToken (he.trans htext)
              (by rw [he]; exact hname)
      have hwrite' : Write v ⟨v.store.put key b.toJson.written, added.2⟩ key request.authType a b :=
        ⟨hwrite.stored, honly, hwrite.document, rfl⟩
      refine ⟨⟨hwrite'.sound hv (fun _ => (hothers "" hname.symm).trans (hv.empty nofun)) fun _ info' hinfo' => ?_,
        fun k t hne => ⟨hwrite'.carries hne, fun info hinfo => secret_eq _ (hothers _ fun he => ?_)⟩⟩,
        fun hok hne => ?_⟩
      · obtain rfl : info' = tokenInfo := Option.some.inj (hinfo'.symm.trans htoken)
        exact fun k t info hinfo he _ => hfreeToken k t info hinfo he
      · exact hne (hfreeToken k t info hinfo he)
      · obtain ⟨info', hinfo', htoken', hstatus'⟩ := hstored hne
        refine ⟨info', ?_, hstatus', ?_⟩
        · rw [Vault.setAssets, hwrite'.token_eq, if_pos rfl, hinfo']
        · rw [htoken']
          exact secret_of_some sha256 (hself hok hne)

structure Deletion (build : Build) (contents : σ → String → Option String) (v : Vault σ) (result : Ret × Vault σ)
    (key type text : String) : Prop where
  rest : Local build contents v result.2 key type
  gone : Gone build contents v key type → Gone build contents result.2 key type
  done : result.1 = .ok () → Current build contents v key type text →
    text ≠ "" ∧ Gone build contents result.2 key type
  held : ∀ other, other ≠ "" → other ≠ text → Held build contents v key type other →
    Held build contents result.2 key type other

theorem Deletion.asked (hv : Sound build contents v) {v' : Vault σ} (h : Asked contents v v') {r : Ret}
    (hr : r = .ok () → ¬Current build contents v key type text) : Deletion build contents v (r, v') key type text :=
  ⟨h.local hv key type, fun hgone => hgone.spared (h.sound hv) (h.spares key type),
    fun hok hcurrent => (hr hok hcurrent).elim, fun _ _ _ hheld => hheld.spared (h.spares key type)⟩

theorem Current.of_stored (ha : v.store.accounts[key]? = some a) : Current build contents v key type text ↔
    ∃ info, a.oauthTokens[type]? = some info ∧ secret build (contents v.assets) info.token = text := by
  unfold Current token
  rw [ha]
  rfl

theorem finish_match (apiVersion : Nat) (hv : Sound build contents v) (ha : v.store.accounts[key]? = some a)
    {info : OAuthTokenInfo} (hinfo : a.oauthTokens[request.authType]? = some info) (assets : σ) :
    ∃ b, finishDeletion build request apiVersion ⟨v.store, assets⟩ a info.token =
        (.ok (), ⟨v.store.put key b.toJson.written, assets⟩) ∧
      Write v ⟨v.store.put key b.toJson.written, assets⟩ key request.authType a b ∧
      ∀ info', b.oauthTokens[request.authType]? = some info' → info'.token = "" ∨
        (info'.token = info.token ∧ ¬(apiVersion ≥ apiVersion9 ∧ request.owner = request.callerBundleName) ∧
          (build = .plain → apiVersion ≥ apiVersion9 ∧ request.owner ≠ request.callerBundleName)) := by
  obtain ⟨b, hb, honly, hfits, htoken⟩ := deleted_spec (hv.plain key a ha) build apiVersion hinfo rfl
    (decide (request.owner = request.callerBundleName))
  obtain ⟨hsave, hwrite⟩ := saved_write hv ha honly hfits assets
  refine ⟨b, ?_, hwrite, fun info' hinfo' => ?_⟩
  · unfold finishDeletion
    dsimp only
    rw [hb]
    exact hsave
  · refine (htoken info' hinfo').imp_right fun h => ⟨h.1, fun hself => ?_, fun hbuild => ?_⟩
    · exact h.2.1 ⟨hself.1, decide_eq_true hself.2⟩
    · obtain ⟨hversion, howner⟩ := h.2.2 hbuild
      exact ⟨hversion, of_decide_eq_false howner⟩

theorem delete_plain (hv : Sound .plain contents v)
    (hh : HarmlessDelete .plain service contents subspace v request resolvedAppIndex apiVersion) :
    Deletion .plain contents v (serveDeleteOAuthToken .plain service subspace request resolvedAppIndex apiVersion v)
      (ownerAccount request resolvedAppIndex) request.authType request.token := by
  unfold HarmlessDelete at hh
  generalize hkey : ownerAccount request resolvedAppIndex = key at hh ⊢
  unfold serveDeleteOAuthToken
  rw [load_newAccount, show (newAccount request.owner resolvedAppIndex request.name).getPrimeKey = key from hkey]
  cases ha : v.store.accounts[key]? with
  | none => exact .asked hv (.refl v) nofun
  | some a =>
  dsimp only
  split
  · next hvisible =>
      have hplain := hv.plain key a ha
      by_cases hcurrent : Current .plain contents v key request.authType request.token
      · obtain ⟨info, hinfo, htext⟩ := (Current.of_stored ha).mp hcurrent
        obtain ⟨hne, hcaller⟩ := (hh a ha hvisible).1 hcurrent
        obtain ⟨b, hfinish, hwrite, htoken⟩ := finish_match apiVersion hv ha hinfo v.assets
        rw [show info.token = request.token from htext] at hfinish htoken
        rw [show finishDeletion .plain request apiVersion v a request.token = _ from hfinish]
        have hgone : Gone .plain contents ⟨v.store.put key b.toJson.written, v.assets⟩ key request.authType := by
          intro info' hinfo'
          rw [hwrite.token_eq, if_pos rfl] at hinfo'
          rcases (hwrite.document.back _ info' hinfo').2.2 with hempty | ⟨mid, hmid, hmidToken⟩
          · exact hempty
          · rcases htoken mid hmid with hempty | ⟨-, -, hversion⟩
            · exact hmidToken.symm.trans hempty
            · obtain ⟨hversion, howner⟩ := hversion rfl
              rcases hcaller rfl with hold | hself
              · exact absurd hversion (Nat.not_le_of_lt hold)
              · exact (howner hself).elim
        refine ⟨⟨hwrite.sound hv (fun h => absurd rfl h) fun h => absurd rfl h, fun k t hother =>
          ⟨hwrite.carries hother, fun _ _ => rfl⟩⟩, fun _ => hgone, fun _ _ => ⟨hne, hgone⟩,
          fun other _ hother hheld => ?_⟩
        obtain ⟨held, hheld, -, hsecret⟩ := hheld
        rw [hwrite.token_old] at hheld
        obtain rfl : info = held := Option.some.inj (hinfo.symm.trans hheld)
        exact (hother (hsecret.symm.trans htext)).elim
      · have hnone : ∀ info, a.oauthTokens[request.authType]? = some info → info.token ≠ request.token :=
          fun info hinfo htext => hcurrent ((Current.of_stored ha).mpr ⟨info, hinfo, htext⟩)
        unfold finishDeletion
        dsimp only
        generalize hdeleted : (if apiVersion ≥ apiVersion9 then
          a.deleteAuthToken request.authType request.token (decide (request.owner = request.callerBundleName))
          else AssetStore.deleteOAuthToken .plain a request.authType request.token) = deleted
        cases deleted with
        | error e => exact .asked hv (.refl v) fun _ => hcurrent
        | ok b =>
            obtain rfl := deleted_other hnone hdeleted
            obtain ⟨hsave, hwrite⟩ := saved_write hv ha (.refl request.authType b) (.of_plain hplain _) v.assets
            dsimp only
            rw [show v.save b = _ from hsave]
            have hspares : ∀ k t, Spares .plain contents v ⟨v.store.put key b.toJson.written, v.assets⟩ k t :=
              fun k t => ⟨hwrite.carries_of_carries hplain (fun _ => .refl _) k t, fun _ _ => rfl⟩
            have hsound : Sound .plain contents ⟨v.store.put key b.toJson.written, v.assets⟩ :=
              hwrite.sound hv (fun h => absurd rfl h) fun h => absurd rfl h
            exact ⟨⟨hsound, fun k t _ => hspares k t⟩, fun hgone => hgone.spared hsound (hspares _ _),
              fun _ h => (hcurrent h).elim, fun other _ _ hheld => hheld.spared (hspares _ _)⟩
  · exact .asked hv (.refl v) nofun

theorem getOAuthToken_ok {found : String} (h : a.getOAuthToken type apiVersion = .ok found) :
    ∃ info, a.oauthTokens[type]? = some info ∧ info.token = found := by
  unfold AppAccountInfo.getOAuthToken at h
  cases hinfo : a.oauthTokens[type]? with
  | none =>
      rw [hinfo] at h
      cases h
  | some info =>
      refine ⟨info, rfl, ?_⟩
      rw [hinfo] at h
      dsimp only at h
      split at h
      · split at h
        · cases h
        · exact Except.ok.inj h
      · split at h
        · cases h
        · exact Except.ok.inj h

theorem getOAuthToken_error {e : ErrCode} {info : OAuthTokenInfo} (hinfo : a.oauthTokens[type]? = some info)
    (hversion : ¬apiVersion ≥ apiVersion9) (h : a.getOAuthToken type apiVersion = .error e) : info.token = "" := by
  unfold AppAccountInfo.getOAuthToken at h
  rw [hinfo] at h
  dsimp only at h
  rw [if_neg hversion] at h
  by_contra hne
  rw [if_neg hne] at h
  cases h

theorem delete_asset {sha256 : Sha256} (hservice : service.Lawful contents)
    (hv : Sound (.asset sha256) contents v)
    (hh : HarmlessDelete (.asset sha256) service contents subspace v request resolvedAppIndex apiVersion) :
    Deletion (.asset sha256) contents v
      (serveDeleteOAuthToken (.asset sha256) service subspace request resolvedAppIndex apiVersion v)
      (ownerAccount request resolvedAppIndex) request.authType request.token := by
  unfold HarmlessDelete at hh
  generalize hkey : ownerAccount request resolvedAppIndex = key at hh ⊢
  unfold serveDeleteOAuthToken
  rw [load_newAccount, show (newAccount request.owner resolvedAppIndex request.name).getPrimeKey = key from hkey]
  cases ha : v.store.accounts[key]? with
  | none => exact .asked hv (.refl v) nofun
  | some a =>
  dsimp only
  split
  · next hvisible =>
      obtain ⟨hcurrent, halias⟩ := hh a ha hvisible
      cases hget : a.getOAuthToken request.authType apiVersion with
      | error e =>
          refine .asked hv (.refl v) fun hresult hnow => ?_
          obtain ⟨info, hinfo, htext⟩ := (Current.of_stored ha).mp hnow
          obtain ⟨hne, -⟩ := hcurrent hnow
          by_cases hversion : apiVersion ≥ apiVersion9
          · rw [if_pos hversion] at hresult
            cases hresult
          · rw [getOAuthToken_error hinfo hversion hget, secret_empty hv] at htext
            exact hne htext.symm
      | ok name =>
          obtain ⟨info, hinfo, rfl⟩ := getOAuthToken_ok hget
          have hservices := halias nofun info.token hget
          obtain ⟨hsame, hfound⟩ := hservice.query info.token v.assets
          unfold Answers at hservices
          dsimp only
          change contents (getDataFromAsset service info.token v.assets).2 = _ at hsame
          change ∀ secret, (getDataFromAsset service info.token v.assets).1 = some secret → _ at hfound
          generalize getDataFromAsset service info.token v.assets = found at hservices hsame hfound ⊢
          by_cases hasked : found.1.getD request.token = request.token
          · rw [if_neg (not_not_intro hasked)]
            generalize hremoved : removeDataFromAsset service info.token found.2 = removed at hservices ⊢
            obtain ⟨b, hfinish, hwrite, htoken⟩ := finish_match apiVersion hv ha hinfo removed.2
            rw [show finishDeletion (.asset sha256) request apiVersion (v.setAssets removed.2) a info.token = _ from
              hfinish]
            have hother : ∀ name, name ≠ info.token → contents removed.2 name = contents v.assets name := by
              intro name hne
              rw [← hremoved, contents_removed_other hservice hne, hsame]
            have hempty : contents removed.2 "" = none := by
              by_cases hname : "" = info.token
              · rw [← hremoved, ← hname]
                refine contents_removed_self hservice (.inl ?_)
                rw [hsame]
                exact hv.empty nofun
              · exact (hother "" hname).trans (hv.empty nofun)
            have hstored : token v key request.authType = some info := (hwrite.token_old _).trans hinfo
            have halone : ∀ k t x, token v k t = some x → x.token = info.token → x.token ≠ "" →
                k = key ∧ t = request.authType :=
              fun k t x hx he hne => hv.alone nofun k t key request.authType x info hx hstored he hne
            have hcleared : ¬(apiVersion ≥ apiVersion9 ∧ request.owner = request.callerBundleName) →
                contents removed.2 info.token = none := by
              intro hkept
              rw [← hremoved] at hservices ⊢
              refine contents_removed_self hservice ?_
              rw [hsame]
              split at hservices
              · exact .inr (hservices.resolve_right hkept)
              · next hnot =>
                refine .inl ?_
                cases hnow : contents v.assets info.token with
                | none => rfl
                | some secret =>
                    rw [hservices, hnow] at hasked
                    exact (hnot (hnow.trans (congrArg some hasked))).elim
            have hsound : Sound (.asset sha256) contents ⟨v.store.put key b.toJson.written, removed.2⟩ := by
              refine hwrite.sound hv (fun _ => hempty) fun _ info' hinfo' k t x hx he hne => ?_
              rcases htoken info' hinfo' with hnone | ⟨hsame, -⟩
              · exact (hne (he.trans hnone)).elim
              · exact halone k t x hx (he.trans hsame) hne
            have hgone : Gone (.asset sha256) contents ⟨v.store.put key b.toJson.written, removed.2⟩ key
                request.authType := by
              intro info' hinfo'
              rw [hwrite.token_eq, if_pos rfl] at hinfo'
              rcases (hwrite.document.back _ info' hinfo').2.2 with hnone | ⟨mid, hmid, hmidToken⟩
              · rw [hnone]
                exact secret_empty hsound
              · rw [← hmidToken]
                rcases htoken mid hmid with hnone | ⟨hsame, hkept, -⟩
                · rw [hnone]
                  exact secret_empty hsound
                · rw [hsame]
                  exact secret_of_none sha256 (hcleared hkept)
            refine ⟨⟨hsound, fun k t hrest => ⟨hwrite.carries hrest, fun x hx => ?_⟩⟩,
              fun _ => hgone, fun _ hnow => ⟨(hcurrent hnow).1, hgone⟩, fun other hne hdistinct hheld => ?_⟩
            · by_cases hname : x.token = info.token
              · have hnone : x.token = "" := by
                  by_contra hne
                  exact hrest (halone k t x hx hname hne)
                rw [hnone]
                exact secret_eq _ (hempty.trans (hv.empty nofun).symm)
              · exact secret_eq _ (hother x.token hname)
            · obtain ⟨held, hheld, -, hsecret⟩ := hheld
              obtain rfl : info = held := Option.some.inj (hstored.symm.trans hheld)
              unfold secret at hsecret
              dsimp only at hsecret
              cases hnow : contents v.assets info.token with
              | none =>
                  rw [hnow] at hsecret
                  exact (hne hsecret.symm).elim
              | some secret =>
                  rw [hnow] at hsecret
                  obtain rfl : secret = other := hsecret
                  rw [hnow, if_neg fun he => hdistinct (Option.some.inj he)] at hservices
                  rw [hservices] at hasked
                  exact (hdistinct hasked).elim
          · rw [if_pos hasked]
            have hasking : Asked contents v (v.setAssets found.2) := ⟨rfl, hsame⟩
            refine .asked hv hasking fun _ hnow => ?_
            obtain ⟨info', hinfo', htext⟩ := (Current.of_stored ha).mp hnow
            obtain rfl : info = info' := Option.some.inj (hinfo.symm.trans hinfo')
            cases hquery : found.1 with
            | none =>
                rw [hquery] at hasked
                exact hasked rfl
            | some secret =>
                rw [hquery] at hasked
                rw [secret_of_some sha256 (hfound secret hquery)] at htext
                exact hasked htext
  · exact .asked hv (.refl v) nofun

theorem visibility_step (hv : Sound build contents v) (request : AuthenticatorSessionRequest)
    (targetAppIndex apiVersion : Nat) :
    Sound build contents (serveSetOAuthTokenVisibility subspace request targetAppIndex apiVersion v).2 ∧ ∀ k t,
      Spares build contents v (serveSetOAuthTokenVisibility subspace request targetAppIndex apiVersion v).2 k t := by
  unfold serveSetOAuthTokenVisibility performWritten OAuthTokens.setOAuthTokenVisibility
  rw [Program.exec_bind, exec_getAccountInfo_writing]
  generalize hkey : (newAccount request.callerBundleName request.appIndex request.name).getPrimeKey = key
  cases ha : v.store.accounts[key]? with
  | none =>
      rw [exec_getAccountInfo_of_none (by rw [hkey]; exact ha)]
      exact ⟨hv, fun k t => (Asked.refl v).spares k t⟩
  | some a =>
      rw [exec_getAccountInfo_newAccount (by rw [hkey]; exact ha)]
      dsimp only
      generalize hb : a.setOAuthTokenVisibility request.authType
        (encodeAuthorizedApp subspace request.bundleName targetAppIndex) request.isTokenVisible apiVersion = r
      cases r with
      | error e => exact ⟨hv, fun k t => (Asked.refl v).spares k t⟩
      | ok b =>
          have hplain := hv.plain key a ha
          obtain ⟨honly, hfits, hcarries⟩ := setOAuthTokenVisibility_spec hplain hb
          obtain ⟨hsave, hwrite⟩ := saved_write hv ha honly hfits v.assets
          unfold Vault.save performWritten at hsave
          have hresult : (Program.exec (writing succeed) (saveAccountInfo b) { store := v.store }).2.close =
              v.store.put key b.toJson.written := congrArg (fun r => r.2.store) hsave
          dsimp only
          rw [hresult]
          refine ⟨hwrite.sound hv hv.empty fun hbuild info' hinfo' k t info hinfo he hne => ?_, fun k t =>
            ⟨hwrite.carries_of_carries hplain hcarries k t, fun _ _ => rfl⟩⟩
          rcases (hcarries request.authType).back info' hinfo' with hempty | ⟨old, hold, holdToken⟩
          · exact (hne (he.trans hempty)).elim
          · rw [← hwrite.token_old] at hold
            exact hv.alone hbuild k t key request.authType info old hinfo hold (he.trans holdToken.symm) hne

end calls

section runs

variable {σ : Type} {build : Build} {service : AssetService σ} {contents : σ → String → Option String} {subspace : Bool}
  {v : Vault σ} {key type text : String}

theorem delete_step (hservice : service.Lawful contents) (hv : Sound build contents v)
    {request : AuthenticatorSessionRequest} {resolvedAppIndex apiVersion : Nat}
    (hh : HarmlessDelete build service contents subspace v request resolvedAppIndex apiVersion) :
    Deletion build contents v (serveDeleteOAuthToken build service subspace request resolvedAppIndex apiVersion v)
      (ownerAccount request resolvedAppIndex) request.authType request.token := by
  cases build with
  | plain => exact delete_plain hv hh
  | asset sha256 => exact delete_asset hservice hv hh

theorem getOAuthToken_spec (hservice : service.Lawful contents) (build : Build) (subspace : Bool) (v : Vault σ)
    (request : AuthenticatorSessionRequest) (resolvedAppIndex apiVersion : Nat) :
    let served := serveGetOAuthToken build service subspace request resolvedAppIndex apiVersion v
    Asked contents v served.2 ∧ ∀ found, served.1 = .ok found →
      ∃ info, token v (ownerAccount request resolvedAppIndex) request.authType = some info ∧
        (found = "" ∨ found = secret build (contents v.assets) info.token) := by
  generalize hkey : ownerAccount request resolvedAppIndex = key
  unfold serveGetOAuthToken
  rw [load_newAccount, show (newAccount request.owner resolvedAppIndex request.name).getPrimeKey = key from hkey]
  cases ha : v.store.accounts[key]? with
  | none => exact ⟨.refl v, nofun⟩
  | some a =>
  dsimp only
  split
  · cases hget : a.getOAuthToken request.authType apiVersion with
    | error e => exact ⟨.refl v, nofun⟩
    | ok name =>
        obtain ⟨info, hinfo, rfl⟩ := getOAuthToken_ok hget
        have hstored : token v key request.authType = some info := by
          unfold token
          rw [ha]
          exact hinfo
        have hfind := findToken_spec hservice build info v.assets
        cases build with
        | plain => exact ⟨.refl v, fun found hfound => ⟨info, hstored, .inr (Except.ok.inj hfound).symm⟩⟩
        | asset sha256 =>
            refine ⟨⟨rfl, hfind.1⟩, fun found hfound => ⟨info, hstored, ?_⟩⟩
            dsimp only at hfound
            split at hfound
            · cases hfound
            · exact Except.ok.inj hfound ▸ hfind.2
  · exact ⟨.refl v, nofun⟩

theorem getAllOAuthTokens_spec (hservice : service.Lawful contents) (build : Build) (subspace : Bool) (v : Vault σ)
    (request : AuthenticatorSessionRequest) (resolvedAppIndex : Nat) :
    let served := serveGetAllOAuthTokens build service subspace request resolvedAppIndex v
    Asked contents v served.2 ∧ ∀ tokens, served.1 = .ok tokens → ∀ x ∈ tokens,
      ∃ type info, token v (ownerAccount request resolvedAppIndex) type = some info ∧ x.authType = info.authType ∧
        (x.token = "" ∨ x.token = secret build (contents v.assets) info.token) := by
  generalize hkey : ownerAccount request resolvedAppIndex = key
  unfold serveGetAllOAuthTokens
  rw [load_newAccount, show (newAccount request.owner resolvedAppIndex request.name).getPrimeKey = key from hkey]
  cases ha : v.store.accounts[key]? with
  | none => exact ⟨.refl v, nofun⟩
  | some a =>
      obtain ⟨hsame, hmem⟩ := visibleTokens_spec hservice build
        (request.callerBundleName = request.owner && request.appIndex = resolvedAppIndex)
        (callerKey subspace request) a.getAllOAuthTokens v.assets
      refine ⟨⟨rfl, hsame⟩, fun tokens htokens x hx => ?_⟩
      obtain rfl := Except.ok.inj htokens
      obtain ⟨info, hinfo, h⟩ := hmem x hx
      unfold AppAccountInfo.getAllOAuthTokens at hinfo
      obtain ⟨⟨t, info⟩, hentry, rfl⟩ := List.mem_map.mp hinfo
      refine ⟨t, info, ?_, h⟩
      unfold token
      rw [ha]
      exact ExtTreeMap.mem_toList_iff_getElem?_eq_some.mp hentry

theorem sound_step (hservice : service.Lawful contents) (op : Operation) (hv : Sound build contents v)
    (hop : Harmless build service contents subspace v op) :
    Sound build contents (step build service subspace v op) := by
  cases op with
  | setOAuthToken request resolvedAppIndex => exact (set_step hservice hv hop).1.sound
  | deleteOAuthToken request resolvedAppIndex apiVersion => exact (delete_step hservice hv hop).rest.sound
  | setOAuthTokenVisibility request targetAppIndex apiVersion => exact
      (visibility_step hv request _ apiVersion).1
  | getOAuthToken request resolvedAppIndex apiVersion =>
      exact (getOAuthToken_spec hservice build subspace v request resolvedAppIndex apiVersion).1.sound hv
  | getAllOAuthTokens request resolvedAppIndex =>
      exact (getAllOAuthTokens_spec hservice build subspace v request resolvedAppIndex).1.sound hv

theorem gone_step (hservice : service.Lawful contents) (op : Operation) (hv : Sound build contents v)
    (hop : Harmless build service contents subspace v op) (hgone : Gone build contents v key type)
    (hsets : ¬Sets key type op) : Gone build contents (step build service subspace v op) key type := by
  have hsound := sound_step hservice op hv hop
  cases op with
  | setOAuthToken request resolvedAppIndex =>
      have hother : ¬(key = callerAccount request resolvedAppIndex ∧ type = request.authType) :=
        fun h => hsets ⟨h.1.symm, h.2.symm⟩
      exact hgone.spared hsound ((set_step hservice hv hop).1.others key type hother)
  | deleteOAuthToken request resolvedAppIndex apiVersion =>
      have hdelete := delete_step hservice hv hop
      by_cases hsame : key = ownerAccount request resolvedAppIndex ∧ type = request.authType
      · obtain ⟨rfl, rfl⟩ := hsame
        exact hdelete.gone hgone
      · exact hgone.spared hsound (hdelete.rest.others key type hsame)
  | setOAuthTokenVisibility request targetAppIndex apiVersion =>
      exact hgone.spared hsound ((visibility_step hv request targetAppIndex apiVersion).2 key type)
  | getOAuthToken request resolvedAppIndex apiVersion =>
      exact hgone.spared hsound
        ((getOAuthToken_spec hservice build subspace v request resolvedAppIndex apiVersion).1.spares key type)
  | getAllOAuthTokens request resolvedAppIndex =>
      exact hgone.spared hsound
        ((getAllOAuthTokens_spec hservice build subspace v request resolvedAppIndex).1.spares key type)

theorem held_step (hservice : service.Lawful contents) (op : Operation) (hv : Sound build contents v)
    (hop : Harmless build service contents subspace v op) (htext : text ≠ "")
    (hheld : Held build contents v key type text) (hsets : ¬Sets key type op) (hdeletes : ¬Deletes key type text op) :
    Held build contents (step build service subspace v op) key type text := by
  cases op with
  | setOAuthToken request resolvedAppIndex =>
      have hother : ¬(key = callerAccount request resolvedAppIndex ∧ type = request.authType) :=
        fun h => hsets ⟨h.1.symm, h.2.symm⟩
      exact hheld.spared ((set_step hservice hv hop).1.others key type hother)
  | deleteOAuthToken request resolvedAppIndex apiVersion =>
      have hdelete := delete_step hservice hv hop
      by_cases hsame : key = ownerAccount request resolvedAppIndex ∧ type = request.authType
      · obtain ⟨rfl, rfl⟩ := hsame
        exact hdelete.held text htext (fun he => hdeletes ⟨rfl, rfl, he.symm⟩) hheld
      · exact hheld.spared (hdelete.rest.others key type hsame)
  | setOAuthTokenVisibility request targetAppIndex apiVersion =>
      exact hheld.spared ((visibility_step hv request targetAppIndex apiVersion).2 key type)
  | getOAuthToken request resolvedAppIndex apiVersion =>
      exact hheld.spared
        ((getOAuthToken_spec hservice build subspace v request resolvedAppIndex apiVersion).1.spares key type)
  | getAllOAuthTokens request resolvedAppIndex =>
      exact hheld.spared
        ((getAllOAuthTokens_spec hservice build subspace v request resolvedAppIndex).1.spares key type)

theorem gone_along (hservice : service.Lawful contents) (key type : String) (v : Vault σ) (op : Operation)
    (h : Sound build contents v ∧ Gone build contents v key type)
    (hop : Harmless build service contents subspace v op ∧ ¬Sets key type op) :
    Sound build contents (step build service subspace v op) ∧
      Gone build contents (step build service subspace v op) key type :=
  ⟨sound_step hservice op h.1 hop.1, gone_step hservice op h.1 hop.1 h.2 hop.2⟩

theorem held_along (hservice : service.Lawful contents) (key type : String) (htext : text ≠ "") (v : Vault σ)
    (op : Operation) (h : Sound build contents v ∧ Held build contents v key type text)
    (hop : Harmless build service contents subspace v op ∧ ¬Sets key type op ∧ ¬Deletes key type text op) :
    Sound build contents (step build service subspace v op) ∧
      Held build contents (step build service subspace v op) key type text :=
  ⟨sound_step hservice op h.1 hop.1, held_step hservice op h.1 hop.1 htext h.2 hop.2.1 hop.2.2⟩

theorem Gone.not_returns (hservice : service.Lawful contents) (hv : Sound build contents v)
    (h : Gone build contents v key type) (htext : text ≠ "") (query : Operation) :
    ¬Returns build service subspace v key type text query := by
  cases query with
  | getOAuthToken request resolvedAppIndex apiVersion =>
      rintro ⟨rfl, rfl, hget⟩
      obtain ⟨info, hinfo, hfound⟩ :=
        (getOAuthToken_spec hservice build subspace v request resolvedAppIndex apiVersion).2 text hget
      exact htext ((hfound.resolve_left htext).trans (h info hinfo))
  | getAllOAuthTokens request resolvedAppIndex =>
      rintro ⟨rfl, tokens, hall, x, hx, rfl, rfl⟩
      obtain ⟨t, info, hinfo, htype, hfound⟩ :=
        (getAllOAuthTokens_spec hservice build subspace v request resolvedAppIndex).2 tokens hall x hx
      obtain rfl : x.authType = t := htype.trans (hv.type _ t info hinfo)
      exact htext ((hfound.resolve_left htext).trans (h info hinfo))
  | setOAuthToken request resolvedAppIndex => exact id
  | deleteOAuthToken request resolvedAppIndex apiVersion => exact id
  | setOAuthTokenVisibility request targetAppIndex apiVersion => exact id

theorem Held.returned (hv : Sound build contents v) (htext : text ≠ "") {query : AuthenticatorSessionRequest}
    {queryAppIndex apiVersion : Nat} (h : Held build contents v (ownerAccount query queryAppIndex) query.authType text)
    (hquery : Harmless build service contents subspace v (.getOAuthToken query queryAppIndex apiVersion)) :
    (serveGetOAuthToken build service subspace query queryAppIndex apiVersion v).1 ∈
      ([.error .permissionDenied, .ok text] : List (Except ErrCode String)) := by
  obtain ⟨info, hinfo, hstatus, hsecret⟩ := h
  have hanswers := fun hbuild => hquery hbuild info hinfo
  generalize hkey : ownerAccount query queryAppIndex = key at hinfo
  unfold serveGetOAuthToken
  rw [load_newAccount, show (newAccount query.owner queryAppIndex query.name).getPrimeKey = key from hkey]
  obtain ⟨a, ha, hinfo⟩ := Option.bind_eq_some_iff.mp hinfo
  rw [ha]
  dsimp only
  split
  · have hname : info.token ≠ "" := by
      intro hempty
      rw [hempty, secret_empty hv] at hsecret
      exact htext hsecret.symm
    have hget : a.getOAuthToken query.authType apiVersion = .ok info.token := by
      unfold AppAccountInfo.getOAuthToken
      rw [hinfo]
      dsimp only
      split
      · rw [hstatus]
        rfl
      · rfl
    rw [hget]
    refine List.mem_cons_of_mem _ (List.mem_singleton.mpr ?_)
    cases build with
    | plain => exact congrArg Except.ok hsecret
    | asset sha256 =>
        unfold secret at hsecret
        dsimp only at hsecret ⊢
        rw [hanswers nofun, hsecret, if_neg fun h => htext h.1]
  · exact List.mem_cons_self

theorem sound_of_no_tokens (hkeys : ∀ (k : String) (a : AppAccountInfo), v.store.accounts[k]? = some a →
    a.getPrimeKey = k ∧ a.Plain ∧ a.oauthTokens = ∅) (hassets : contents v.assets "" = none) :
    Sound build contents v := by
  have hnone : ∀ k t info, token v k t ≠ some info := by
    intro k t info h
    obtain ⟨a, ha, hinfo⟩ := Option.bind_eq_some_iff.mp h
    rw [(hkeys k a ha).2.2, ExtTreeMap.getElem?_empty] at hinfo
    cases hinfo
  exact ⟨fun k a ha => (hkeys k a ha).1, fun k a ha => (hkeys k a ha).2.1, fun k t info h => absurd h (hnone k t info),
    fun _ => hassets, fun _ k t _ _ x _ h => absurd h (hnone k t x)⟩

def aliceVault : Vault Assets where
  store :=
    { accounts := (∅ : ExtTreeMap String AppAccountInfo).insert "com.example.mail#0#alice#"
        (newAccount "com.example.mail" 0 "alice") }
  assets := ∅

def setRequest : AuthenticatorSessionRequest :=
  { name := "alice", authType := "login", token := "secret", callerBundleName := "com.example.mail", appIndex := 0 }

def showRequest : AuthenticatorSessionRequest :=
  { name := "alice", authType := "login", bundleName := "com.example.reader", callerBundleName := "com.example.mail",
    appIndex := 0, isTokenVisible := true }

def readerRequest : AuthenticatorSessionRequest :=
  { name := "alice", owner := "com.example.mail", authType := "login", token := "secret",
    callerBundleName := "com.example.reader", appIndex := 0 }

def ownerRequest : AuthenticatorSessionRequest := { readerRequest with callerBundleName := "com.example.mail" }

theorem stored_aliceVault {k : String} {a : AppAccountInfo} (h : aliceVault.store.accounts[k]? = some a) :
    "com.example.mail#0#alice#" = k ∧ newAccount "com.example.mail" 0 "alice" = a := by
  unfold aliceVault at h
  dsimp only at h
  rw [getElem?_insert_eq] at h
  split at h
  · next hk => exact ⟨hk, Option.some.inj h⟩
  · rw [ExtTreeMap.getElem?_empty] at h
    cases h

theorem sound_aliceVault (build : Build) : Sound build Assets.data aliceVault := by
  refine sound_of_no_tokens (fun k a ha => ?_) rfl
  obtain ⟨rfl, rfl⟩ := stored_aliceVault ha
  exact ⟨by decide +kernel, plain_newAccount (by decide) (by decide) 0, rfl⟩

theorem harmlessSet_aliceVault (build : Build) : HarmlessSet build aliceVault setRequest 0 := by
  refine ⟨.inr (by decide), ?_⟩
  cases build with
  | plain => decide
  | asset sha256 =>
      refine fun a ha => ⟨fun info hinfo => ?_, fun key type info hinfo => ?_⟩
      · obtain ⟨-, rfl⟩ := stored_aliceVault ha
        rw [newAccount, ExtTreeMap.getElem?_empty] at hinfo
        cases hinfo
      · obtain ⟨b, hb, hinfo⟩ := Option.bind_eq_some_iff.mp hinfo
        obtain ⟨-, rfl⟩ := stored_aliceVault hb
        rw [newAccount, ExtTreeMap.getElem?_empty] at hinfo
        cases hinfo

theorem harmlessDelete_map {v : Vault Assets} {request : AuthenticatorSessionRequest} (htext : request.token ≠ "")
    {apiVersion : Nat} (hcaller : apiVersion < apiVersion9 ∨ request.owner = request.callerBundleName)
    (resolvedAppIndex : Nat) :
    HarmlessDelete build mapService Assets.data subspace v request resolvedAppIndex apiVersion := by
  refine fun a ha hvisible => ⟨fun _ => ⟨htext, fun _ => hcaller⟩, fun _ aliasName _ => ?_⟩
  split
  · next hfound =>
    obtain ⟨asset, hasset, -⟩ := Option.map_eq_some_iff.mp hfound
    refine .inl ?_
    unfold removeDataFromAsset mapService getDataFromAsset
    dsimp only
    rw [if_pos (by rw [hasset]; rfl)]
  · rfl

end runs

end OsAccount.TokenDeletion
