import OsAccount.OAuthTokens
import Mathlib.Data.List.TakeWhile

namespace OsAccount.TokenPolicy

open Std AppAccountInfo AppAccountStore OAuthTokens

variable {subspace : Bool} {bundleName : String} {appIndex apiVersion : Nat} {a : AppAccountInfo}

theorem parse_of_no_hyphen (h : '#' ∉ bundleName.toList) : parseAuthorizedApp bundleName = some (bundleName, 0) := by
  have hdrop : bundleName.toList.reverse.dropWhile (· != '#') = [] := by
    rw [List.dropWhile_eq_nil_iff]
    intro c hc
    rw [List.mem_reverse] at hc
    simpa using fun he : c = '#' => h (he ▸ hc)
  unfold parseAuthorizedApp
  rw [hdrop]

theorem parseDigits_toString (n : Nat) : Decimal.parseDigits (toString n).toList = some n := by
  change Decimal.parseDigits n.repr.toList = _
  rw [Nat.toList_repr, Decimal.parseDigits_toDigits]

theorem parse_joined (bundleName : String) (h : appIndex ≤ 0xFFFFFFFF) :
    parseAuthorizedApp (bundleName ++ hyphen ++ toString appIndex) = some (bundleName, appIndex) := by
  have hlist : (bundleName ++ hyphen ++ toString appIndex).toList.reverse =
      (toString appIndex).toList.reverse ++ '#' :: bundleName.toList.reverse := by
    simp [String.toList_append, hyphen]
  have hdigits : ∀ c ∈ (toString appIndex).toList.reverse, (c != '#') = true := by
    intro c hc
    rw [List.mem_reverse] at hc
    simpa using fun he : c = '#' => hyphen_notMem_toString appIndex (he ▸ hc)
  unfold parseAuthorizedApp
  rw [hlist, List.dropWhile_append_of_pos hdigits, List.takeWhile_append_of_pos hdigits,
    List.dropWhile_cons_of_neg (by decide), List.takeWhile_cons_of_neg (by decide)]
  simp only [List.append_nil, List.reverse_reverse, parseDigits_toString]
  rw [if_neg (by omega), String.ofList_toList]

theorem parse_encode (hname : '#' ∉ bundleName.toList) (hindex : appIndex ≤ 0xFFFFFFFF) :
    parseAuthorizedApp (encodeAuthorizedApp subspace bundleName appIndex) = some (bundleName, appIndex) := by
  unfold encodeAuthorizedApp
  split
  · exact parse_joined bundleName hindex
  · split
    · rename_i hzero
      rw [hzero]
      exact parse_of_no_hyphen hname
    · exact parse_joined bundleName hindex

theorem encode_eq_iff {owner : String} (howner : '#' ∉ owner.toList) :
    encodeAuthorizedApp subspace bundleName appIndex = owner ↔
      subspace = false ∧ appIndex = 0 ∧ bundleName = owner := by
  have hjoined : bundleName ++ hyphen ++ toString appIndex ≠ owner := by
    rintro rfl
    exact howner (by simp [String.toList_append, hyphen])
  unfold encodeAuthorizedApp
  cases subspace with
  | true => simpa using hjoined
  | false =>
      by_cases hzero : appIndex = 0
      · simp [hzero]
      · simpa [hzero] using hjoined

def Allowed (subspace : Bool) (a : AppAccountInfo) (authType bundleName : String) (appIndex : Nat) : Bool :=
  decide (bundleName = a.owner ∧ appIndex = a.appIndex) ||
    a.oauthTokens[authType]?.any fun tokenInfo =>
      tokenInfo.authList.contains (encodeAuthorizedApp subspace bundleName appIndex)

def ask (a : AppAccountInfo) (authType bundleName : String) (appIndex : Nat) : AuthenticatorSessionRequest where
  name := a.name
  owner := a.owner
  authType := authType
  callerBundleName := bundleName
  appIndex := appIndex

/-- The request of somebody at the index of the owner whether an application sees the token. -/
def askFor (a : AppAccountInfo) (authType callerBundleName bundleName : String) : AuthenticatorSessionRequest where
  name := a.name
  owner := a.owner
  authType := authType
  bundleName := bundleName
  callerBundleName := callerBundleName
  appIndex := a.appIndex

def isPresent (tokenInfo : OAuthTokenInfo) : Bool := !(tokenInfo.token = "" && tokenInfo.authList.isEmpty)

variable (subspace) in
/-- The permission check of `GetOAuthToken` lets the caller through. -/
def Passes (s : Store) (a : AppAccountInfo) (authType bundleName : String) (appIndex apiVersion : Nat) : Prop :=
  (perform (OAuthTokens.getOAuthToken subspace (ask a authType bundleName appIndex) a.appIndex apiVersion) s).1 ≠
    .error .permissionDenied

structure OnePolicy (subspace : Bool) (s : Store) (a : AppAccountInfo) (authType bundleName : String)
    (appIndex apiVersion : Nat) : Prop where
  token : Passes subspace s a authType bundleName appIndex apiVersion ↔
    Allowed subspace a authType bundleName appIndex
  all : (perform (OAuthTokens.getAllOAuthTokens subspace (ask a authType bundleName appIndex) a.appIndex) s).1 =
    .ok ((a.oauthTokens.toList.filter fun e => Allowed subspace a e.1 bundleName appIndex && isPresent e.2).map
      fun e => { e.2 with authList := ∅ })
  visibility : ∀ callerBundleName,
    (perform (OAuthTokens.checkOAuthTokenVisibility subspace (askFor a authType callerBundleName bundleName) appIndex
      apiVersion) s).1 = .ok true ↔ Passes subspace s a authType bundleName appIndex apiVersion

variable {s : Store} {authType : String}

theorem visible_iff : a.checkOAuthTokenVisibility authType bundleName apiVersion = .ok true ↔
    bundleName = a.owner ∨ a.isSelfBundle bundleName ∨
      (a.oauthTokens[authType]?.any fun tokenInfo => tokenInfo.authList.contains bundleName) = true := by
  unfold AppAccountInfo.checkOAuthTokenVisibility
  split
  · rename_i hself
    rw [Bool.or_eq_true, decide_eq_true_iff] at hself
    exact iff_of_true rfl (by tauto)
  · rename_i hself
    rw [Bool.or_eq_true, decide_eq_true_iff, not_or] at hself
    cases a.oauthTokens[authType]? with
    | none =>
        refine iff_of_false (fun he => ?_) (by simpa using hself)
        dsimp only at he
        split at he <;> cases he
    | some tokenInfo =>
        simp [hself.1, hself.2]

theorem passes_iff (hs : s.accounts[a.getPrimeKey]? = some a) :
    Passes subspace s a authType bundleName appIndex apiVersion ↔
      a.checkOAuthTokenVisibility authType (encodeAuthorizedApp subspace bundleName appIndex) apiVersion =
        .ok true := by
  unfold Passes perform OAuthTokens.getOAuthToken
  rw [Program.exec_bind, ask]
  dsimp only
  rw [exec_getAccountInfo_newAccount (d := ⟨s, none⟩) hs, callerKey]
  dsimp only
  cases hcheck : a.checkOAuthTokenVisibility authType
    (encodeAuthorizedApp subspace bundleName appIndex) apiVersion with
  | error e => simp
  | ok visible =>
      cases visible with
      | false => simp
      | true =>
          refine iff_of_true ?_ rfl
          change a.getOAuthToken authType apiVersion ≠ _
          unfold AppAccountInfo.getOAuthToken
          split
          · simp
          · split_ifs <;> simp

theorem isSelfBundle_encode (hname : '#' ∉ bundleName.toList) (hindex : appIndex ≤ 0xFFFFFFFF) :
    a.isSelfBundle (encodeAuthorizedApp subspace bundleName appIndex) =
      decide (bundleName = a.owner ∧ appIndex = a.appIndex) := by
  rw [isSelfBundle, parse_encode hname hindex, Bool.decide_and]

theorem visibleTokens_eq (isSelf : Bool) (bundleKey : String) (entries : List (String × OAuthTokenInfo)) :
    visibleTokens isSelf bundleKey (entries.map Prod.snd) =
      (entries.filter fun e => (isSelf || e.2.authList.contains bundleKey) && isPresent e.2).map
        fun e => { e.2 with authList := ∅ } := by
  induction entries with
  | nil => rfl
  | cons e entries ih =>
      rw [List.map_cons, visibleTokens, ih, List.filter_cons]
      unfold isPresent
      cases isSelf <;> cases e.2.authList.contains bundleKey <;>
        cases decide (e.2.token = "") && e.2.authList.isEmpty <;> rfl

theorem all_tokens (hs : s.accounts[a.getPrimeKey]? = some a) :
    (perform (OAuthTokens.getAllOAuthTokens subspace (ask a authType bundleName appIndex) a.appIndex) s).1 =
      .ok ((a.oauthTokens.toList.filter fun e => Allowed subspace a e.1 bundleName appIndex && isPresent e.2).map
        fun e => { e.2 with authList := ∅ }) := by
  unfold perform OAuthTokens.getAllOAuthTokens
  rw [Program.exec_bind, ask]
  dsimp only
  rw [exec_getAccountInfo_newAccount (d := ⟨s, none⟩) hs, callerKey]
  change Except.ok (visibleTokens _ _ (a.oauthTokens.toList.map Prod.snd)) = _
  rw [visibleTokens_eq]
  refine congrArg (fun entries => Except.ok (List.map _ entries)) (List.filter_congr fun e he => ?_)
  have hstored := ExtTreeMap.mem_toList_iff_getElem?_eq_some.1 he
  simp [Allowed, hstored]

theorem visibility_iff (hs : s.accounts[a.getPrimeKey]? = some a) (callerBundleName : String) :
    (perform (OAuthTokens.checkOAuthTokenVisibility subspace (askFor a authType callerBundleName bundleName) appIndex
      apiVersion) s).1 = .ok true ↔ Passes subspace s a authType bundleName appIndex apiVersion := by
  rw [passes_iff hs]
  unfold perform OAuthTokens.checkOAuthTokenVisibility
  rw [Program.exec_bind, askFor]
  dsimp only
  rw [exec_getAccountInfo_newAccount (d := ⟨s, none⟩) hs]
  rfl

def MainOfClone (subspace : Bool) (a : AppAccountInfo) (bundleName : String) (appIndex : Nat) : Prop :=
  subspace = false ∧ bundleName = a.owner ∧ appIndex = 0 ∧ a.appIndex ≠ 0

theorem passes_iff_allowed_or (subspace : Bool) (authType : String) (apiVersion : Nat)
    (hs : s.accounts[a.getPrimeKey]? = some a) (howner : '#' ∉ a.owner.toList)
    (hname : '#' ∉ bundleName.toList) (hindex : appIndex ≤ 0xFFFFFFFF) :
    Passes subspace s a authType bundleName appIndex apiVersion ↔
      Allowed subspace a authType bundleName appIndex = true ∨ MainOfClone subspace a bundleName appIndex := by
  rw [passes_iff hs, visible_iff, encode_eq_iff howner, isSelfBundle_encode hname hindex,
    Allowed, Bool.or_eq_true,
    MainOfClone]
  by_cases hclone : a.appIndex = appIndex
  · subst hclone
    simp
    tauto
  · have hmain : appIndex = 0 → ¬a.appIndex = 0 := fun hzero he => hclone (he.trans hzero.symm)
    simp
    tauto

def NamesOwner (a : AppAccountInfo) (authType : String) : Prop :=
  (a.oauthTokens[authType]?.any fun tokenInfo => tokenInfo.authList.contains a.owner) = true

theorem allowed_mainOfClone (authType : String) (h : MainOfClone subspace a bundleName appIndex) :
    Allowed subspace a authType bundleName appIndex = true ↔ NamesOwner a authType := by
  obtain ⟨rfl, rfl, rfl, hclone⟩ := h
  have hkey : encodeAuthorizedApp false a.owner 0 = a.owner := rfl
  rw [Allowed, NamesOwner, hkey]
  simp [Ne.symm hclone]

/-- The first test of the visibility forgets the index that the second compares. -/
theorem onePolicy_iff (hs : s.accounts[a.getPrimeKey]? = some a) (howner : '#' ∉ a.owner.toList)
    (hname : '#' ∉ bundleName.toList) (hindex : appIndex ≤ 0xFFFFFFFF) :
    OnePolicy subspace s a authType bundleName appIndex apiVersion ↔
      (MainOfClone subspace a bundleName appIndex → NamesOwner a authType) := by
  have hpasses := passes_iff_allowed_or subspace authType apiVersion hs howner hname hindex
  constructor
  · intro h hmain
    exact (allowed_mainOfClone authType hmain).1 (h.token.1 (hpasses.2 (.inr hmain)))
  · intro h
    exact
      { token := hpasses.trans (or_iff_left_of_imp fun hmain =>
        (allowed_mainOfClone authType hmain).2 (h hmain))
        all := all_tokens hs
        visibility := visibility_iff hs }

def secondary : AppAccountInfo := { newAccount "com.example.mail" 10000 "alice" with
  oauthTokens := ExtTreeMap.insert ∅ "refresh" { authType := "refresh", token := "secret" } }

def secondaryStore : Store := Store.put {} secondary.getPrimeKey secondary

theorem stored_secondary : secondaryStore.accounts[secondary.getPrimeKey]? = some secondary := by
  unfold secondaryStore
  rw [Store.getElem?_put, if_pos rfl]

theorem onePolicy_secondary : OnePolicy false secondaryStore secondary "refresh" "com.example.mail" 10000 9 :=
  (onePolicy_iff stored_secondary (by decide) (by decide)
    (by decide)).2 fun hmain => absurd hmain.2.2.1 (by decide)

theorem not_onePolicy_secondary : ¬OnePolicy false secondaryStore secondary "refresh" "com.example.mail" 0 9 := by
  intro h
  have hpasses := (passes_iff_allowed_or false "refresh" 9 stored_secondary (by decide) (by decide)
    (by decide : (0 : Nat) ≤ 0xFFFFFFFF)).2 (.inr ⟨rfl, rfl, rfl, by decide⟩)
  have hallowed := h.token.1 hpasses
  have hlist : secondary.oauthTokens["refresh"]? = some { authType := "refresh", token := "secret" } :=
    (OrderedMap.getElem?_insert_eq _ _ _ _).trans (if_pos rfl)
  rw [Allowed, hlist] at hallowed
  simp [secondary, newAccount] at hallowed

end OsAccount.TokenPolicy
