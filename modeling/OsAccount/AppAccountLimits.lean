import OsAccount.AssetStore
import OsAccount.AssociatedDataCache
import OsAccount.Machine

namespace OsAccount.AppAccountLimits

open Std AppAccountInfo AppAccountStore AppAccountService

/-- What the service does to a record of an account that it has in memory. The indexes of
the applications come from the bundle manager. -/
inductive Operation
  | initCustomData (data : ExtTreeMap String String)
  | setExtraInfo (extraInfo : String)
  | setSyncEnable (syncEnable : Bool)
  | setAssociatedData (key value : String)
  | setAccountCredential (credentialType credential : String)
  | deleteAccountCredential (credentialType : String)
  | enableAppAccess (authorizedApp : String) (appIndex apiVersion : Nat)
  | disableAppAccess (authorizedApp : String) (appIndex apiVersion : Nat)
  | setOAuthToken (authType token : String)
  | deleteOAuthToken (authType token : String)
  | deleteAuthToken (authType token : String) (isOwnerSelf : Bool)
  | setOAuthTokenVisibility (authType bundleName : String) (appIndex : Nat) (isVisible : Bool) (apiVersion : Nat)
  | saveAndLoad

variable (build : AssetStore.Build) (subspace : Bool)

def perform (a : AppAccountInfo) : Operation → Except ErrCode AppAccountInfo
  | .initCustomData data => .ok { a with associatedData := some (createJsonFromMap data) }
  | .setExtraInfo extraInfo => .ok (a.setExtraInfo extraInfo)
  | .setSyncEnable syncEnable => .ok { a with syncEnable }
  | .setAssociatedData key value => AssociatedDataCache.setAssociatedData a key value
  | .setAccountCredential credentialType credential => AssetStore.setAccountCredential build a credentialType credential
  | .deleteAccountCredential credentialType => AssetStore.deleteAccountCredential a credentialType
  | .enableAppAccess authorizedApp appIndex apiVersion =>
      if isEmptyOrOversize authorizedApp bundleNameMaxSize then .error .invalidParameter
      else a.enableAppAccess (encodeAuthorizedApp subspace authorizedApp appIndex) apiVersion
  | .disableAppAccess authorizedApp appIndex apiVersion =>
      if isEmptyOrOversize authorizedApp bundleNameMaxSize then .error .invalidParameter
      else a.disableAppAccess (encodeAuthorizedApp subspace authorizedApp appIndex) apiVersion
  | .setOAuthToken authType token => AssetStore.setOAuthToken build a authType token
  | .deleteOAuthToken authType token => AssetStore.deleteOAuthToken build a authType token
  | .deleteAuthToken authType token isOwnerSelf => a.deleteAuthToken authType token isOwnerSelf
  | .setOAuthTokenVisibility authType bundleName appIndex isVisible apiVersion =>
      if isEmptyOrOversize bundleName bundleNameMaxSize then .error .invalidParameter
      else
        a.setOAuthTokenVisibility authType (encodeAuthorizedApp subspace bundleName appIndex) isVisible apiVersion
  | .saveAndLoad => .ok ((newAccount a.owner a.appIndex a.name).fromJson a.toJson)

def step (a : AppAccountInfo) (op : Operation) : AppAccountInfo := (perform build subspace a op).toOption.getD a

def Reachable (a : AppAccountInfo) : Prop :=
  ∃ owner name, ∃ appIndex : UInt32, ∃ ops,
    a = Machine.run (step build subspace) (newAccount owner appIndex.toNat name) ops

structure Readable (maxSize : Nat) (apps : ExtTreeSet String) : Prop where
  size : apps.size ≤ maxSize
  empty : "" ∉ apps

structure Bounded (a : AppAccountInfo) : Prop where
  index : a.appIndex < 2 ^ 32
  apps : Readable maxAppAuthListSize a.authorizedApps
  tokens : a.oauthTokens.size ≤ maxTokenNumber
  lists : ∀ (authType : String) (tokenInfo : OAuthTokenInfo), a.oauthTokens[authType]? = some tokenInfo →
    Readable maxOauthListSize tokenInfo.authList

section readable

variable {maxSize : Nat} {apps : ExtTreeSet String} {app : String}

theorem readable_empty : Readable maxSize ∅ where
  size := by simp
  empty := by simp

theorem Readable.insert (h : Readable maxSize apps) (hsize : (apps.insert app).size ≤ maxSize) (happ : app ≠ "") :
    Readable maxSize (apps.insert app) where
  size := hsize
  empty := by simpa [happ] using h.empty

theorem Readable.erase (h : Readable maxSize apps) : Readable maxSize (apps.erase app) where
  size := Nat.le_trans ExtTreeSet.size_erase_le h.size
  empty := by
    rw [ExtTreeSet.mem_erase]
    exact fun hmem => h.empty hmem.2

theorem readable_singleton (happ : app ≠ "") : Readable maxOauthListSize {app} := by
  have hempty : Readable maxOauthListSize ∅ := readable_empty
  refine hempty.insert ?_ happ
  exact Nat.le_trans ExtTreeSet.size_insert_le (by simp [maxOauthListSize])

theorem encodeAuthorizedApp_ne_empty {bundleName : String} (h : isEmptyOrOversize bundleName bundleNameMaxSize = false)
    (appIndex : Nat) : encodeAuthorizedApp subspace bundleName appIndex ≠ "" := by
  have hname : bundleName ≠ "" := by
    rintro rfl
    exact absurd h (by decide)
  have hjoined : bundleName ++ hyphen ++ toString appIndex ≠ "" := by
    intro hempty
    have hlist := congrArg String.toList hempty
    simp [String.toList_append, hyphen] at hlist
  unfold encodeAuthorizedApp
  split
  · exact hjoined
  · split
    · exact hname
    · exact hjoined

end readable

section bounded

variable {a b : AppAccountInfo} {authType token app : String} {tokenInfo : OAuthTokenInfo} {apiVersion : Nat}

theorem bounded_newAccount (owner : String) (appIndex : UInt32) (name : String) :
    Bounded (newAccount owner appIndex.toNat name) where
  index := appIndex.toNat_lt
  apps := readable_empty
  tokens := by simp [newAccount]
  lists := by simp [newAccount]

theorem Bounded.setApps (h : Bounded a) {apps : ExtTreeSet String} (happs : Readable maxAppAuthListSize apps) :
    Bounded { a with authorizedApps := apps } where
  index := h.index
  apps := happs
  tokens := h.tokens
  lists := h.lists

theorem Bounded.insertToken (h : Bounded a) (hlist : Readable maxOauthListSize tokenInfo.authList)
    (hnew : a.oauthTokens[authType]? = none → a.oauthTokens.size < maxTokenNumber) :
    Bounded { a with oauthTokens := a.oauthTokens.insert authType tokenInfo } where
  index := h.index
  apps := h.apps
  tokens := by
    dsimp only
    rw [ExtTreeMap.size_insert]
    split
    · exact h.tokens
    · rename_i hmem
      exact hnew (ExtTreeMap.getElem?_eq_none fun hfound => hmem (ExtTreeMap.contains_iff_mem.mpr hfound))
  lists := by
    intro type info hinfo
    rw [OrderedMap.getElem?_insert_eq] at hinfo
    by_cases htype : authType = type
    · rw [if_pos htype] at hinfo
      cases hinfo
      exact hlist
    · rw [if_neg htype] at hinfo
      exact h.lists type info hinfo

theorem Bounded.replaceToken (h : Bounded a) {info : OAuthTokenInfo} (hfound : a.oauthTokens[authType]? = some info)
    (hsame : tokenInfo.authList = info.authList) :
    Bounded { a with oauthTokens := a.oauthTokens.insert authType tokenInfo } := by
  refine h.insertToken ?_ fun hnone => ?_
  · rw [hsame]
    exact h.lists authType info hfound
  · rw [hfound] at hnone
    cases hnone

theorem Bounded.eraseToken (h : Bounded a) (authType : String) :
    Bounded { a with oauthTokens := a.oauthTokens.erase authType } where
  index := h.index
  apps := h.apps
  tokens := Nat.le_trans ExtTreeMap.size_erase_le h.tokens
  lists := by
    intro type info hinfo
    rw [OrderedMap.getElem?_erase_eq] at hinfo
    by_cases htype : authType = type
    · rw [if_pos htype] at hinfo
      cases hinfo
    · rw [if_neg htype] at hinfo
      exact h.lists type info hinfo

theorem Bounded.enableAppAccess (h : Bounded a) (happ : app ≠ "") (hb : a.enableAppAccess app apiVersion = .ok b) :
    Bounded b := by
  unfold AppAccountInfo.enableAppAccess at hb
  dsimp only at hb
  split at hb
  · cases hb
  split at hb
  · cases hb
  · rename_i hsize
    cases hb
    exact h.setApps (h.apps.insert (Nat.le_of_not_gt hsize) happ)

theorem Bounded.disableAppAccess (h : Bounded a) (hb : a.disableAppAccess app apiVersion = .ok b) : Bounded b := by
  unfold AppAccountInfo.disableAppAccess at hb
  split at hb
  · cases hb
  · cases hb
    exact h.setApps h.apps.erase

theorem Bounded.setOAuthToken (h : Bounded a) (hb : AssetStore.setOAuthToken build a authType token = .ok b) :
    Bounded b := by
  obtain ⟨tokenInfo, rfl, -, -, hold, hnew⟩ := AssetStore.setOAuthToken_ok hb
  refine h.insertToken ?_ fun hnone => (hnew hnone).2.2
  cases hfound : a.oauthTokens[authType]? with
  | none =>
      rw [(hnew hfound).1]
      exact readable_empty
  | some info =>
      rw [hold info hfound]
      exact h.lists authType info hfound

theorem Bounded.deleteOAuthToken (h : Bounded a) (hb : AssetStore.deleteOAuthToken build a authType token = .ok b) :
    Bounded b := by
  cases hfound : a.oauthTokens[authType]? with
  | none => cases build <;> simp [AssetStore.deleteOAuthToken, AppAccountInfo.deleteOAuthToken, hfound] at hb
  | some tokenInfo =>
      cases build with
      | plain =>
          simp only [AssetStore.deleteOAuthToken, AppAccountInfo.deleteOAuthToken, hfound] at hb
          split at hb
          · cases hb
            exact h.replaceToken hfound rfl
          · cases hb
      | asset computeHash =>
          simp only [AssetStore.deleteOAuthToken, hfound] at hb
          split at hb
          · cases hb
            exact h.replaceToken hfound rfl
          · cases hb

theorem Bounded.deleteAuthToken (h : Bounded a) {isOwnerSelf : Bool}
    (hb : a.deleteAuthToken authType token isOwnerSelf = .ok b) : Bounded b := by
  unfold AppAccountInfo.deleteAuthToken at hb
  cases hfound : a.oauthTokens[authType]? with
  | none =>
      rw [hfound] at hb
      cases hb
  | some tokenInfo =>
      rw [hfound] at hb
      dsimp only at hb
      split at hb
      · cases hb
        exact h
      split at hb
      · cases hb
        exact h.eraseToken authType
      · cases hb
        exact h.replaceToken hfound rfl

theorem Bounded.setOAuthTokenVisibility (h : Bounded a) (happ : app ≠ "") {isVisible : Bool}
    (hb : a.setOAuthTokenVisibility authType app isVisible apiVersion = .ok b) : Bounded b := by
  unfold AppAccountInfo.setOAuthTokenVisibility at hb
  split at hb
  · cases hb
    exact h
  cases hfound : a.oauthTokens[authType]? with
  | none =>
      rw [hfound] at hb
      dsimp only at hb
      split at hb
      · cases hb
      split at hb
      · cases hb
        exact h
      split at hb
      · cases hb
      · rename_i hsize
        cases hb
        exact h.insertToken (readable_singleton happ) fun _ => Nat.lt_of_not_le hsize
  | some tokenInfo =>
      have hlist := h.lists authType tokenInfo hfound
      have hold : a.oauthTokens[authType]? = none → a.oauthTokens.size < maxTokenNumber := by
        intro hnone
        rw [hfound] at hnone
        cases hnone
      rw [hfound] at hb
      dsimp only at hb
      split at hb
      · cases hb
        exact h.insertToken hlist.erase hold
      split at hb
      · cases hb
      · rename_i hsize
        cases hb
        exact h.insertToken (hlist.insert (Nat.le_of_not_gt hsize) happ) hold

theorem Bounded.toJson (h : Bounded a) : Bounded a.toJson where
  index := h.index
  apps := h.apps
  tokens := by
    refine Nat.le_trans ?_ h.tokens
    simp only [AppAccountInfo.toJson, ExtTreeMap.size_map]
    exact ExtTreeMap.size_filter_le_size
  lists := by
    intro type info hinfo
    simp only [AppAccountInfo.toJson, ExtTreeMap.getElem?_map, ExtTreeMap.getElem?_filter'] at hinfo
    obtain ⟨stored, hstored, rfl⟩ := Option.map_eq_some_iff.mp hinfo
    obtain ⟨hstored, -⟩ := Option.filter_eq_some_iff.mp hstored
    exact h.lists type stored hstored

theorem Bounded.congr (h : Bounded a) (hindex : b.appIndex = a.appIndex) (happs : b.authorizedApps = a.authorizedApps)
    (htokens : b.oauthTokens = a.oauthTokens) : Bounded b where
  index := by
    rw [hindex]
    exact h.index
  apps := by
    rw [happs]
    exact h.apps
  tokens := by
    rw [htokens]
    exact h.tokens
  lists := by
    rw [htokens]
    exact h.lists

theorem setAccountCredential_eq {credentialType credential : String}
    (hb : AssetStore.setAccountCredential build a credentialType credential = .ok b) :
    ∃ document, b = { a with accountCredential := document } := by
  unfold AssetStore.setAccountCredential at hb
  dsimp only at hb
  split at hb
  · cases hb
  · cases build with
    | plain =>
        dsimp only at hb
        split at hb
        · cases hb
        · cases hb
          exact ⟨_, rfl⟩
    | asset computeHash =>
        dsimp only at hb
        split at hb
        · cases hb
          exact ⟨_, rfl⟩
        split at hb
        · cases hb
        · cases hb
          exact ⟨_, rfl⟩

theorem Bounded.perform (h : Bounded a) (op : Operation) (hb : perform build subspace a op = .ok b) : Bounded b := by
  cases op with
  | initCustomData data =>
      cases hb
      exact h.congr rfl rfl rfl
  | setExtraInfo extraInfo =>
      cases hb
      exact h.congr rfl rfl rfl
  | setSyncEnable syncEnable =>
      cases hb
      exact h.congr rfl rfl rfl
  | setAssociatedData key value =>
      simp only [AppAccountLimits.perform, AssociatedDataCache.setAssociatedData] at hb
      split at hb
      · cases hb
      split at hb
      · cases hb
      · cases hb
        exact h.congr rfl rfl rfl
  | setAccountCredential credentialType credential =>
      obtain ⟨document, rfl⟩ := setAccountCredential_eq build hb
      exact h.congr rfl rfl rfl
  | deleteAccountCredential credentialType =>
      simp only [AppAccountLimits.perform, AssetStore.deleteAccountCredential] at hb
      split at hb
      · cases hb
      split at hb
      · cases hb
      · cases hb
        exact h.congr rfl rfl rfl
  | enableAppAccess authorizedApp appIndex apiVersion =>
      simp only [AppAccountLimits.perform] at hb
      split at hb
      · cases hb
      · rename_i hname
        exact h.enableAppAccess (encodeAuthorizedApp_ne_empty subspace
          (Bool.eq_false_of_not_eq_true hname) appIndex) hb
  | disableAppAccess authorizedApp appIndex apiVersion =>
      simp only [AppAccountLimits.perform] at hb
      split at hb
      · cases hb
      · exact h.disableAppAccess hb
  | setOAuthToken authType token => exact h.setOAuthToken build hb
  | deleteOAuthToken authType token => exact h.deleteOAuthToken build hb
  | deleteAuthToken authType token isOwnerSelf => exact h.deleteAuthToken hb
  | setOAuthTokenVisibility authType bundleName appIndex isVisible apiVersion =>
      simp only [AppAccountLimits.perform] at hb
      split at hb
      · cases hb
      · rename_i hname
        exact h.setOAuthTokenVisibility
          (encodeAuthorizedApp_ne_empty subspace (Bool.eq_false_of_not_eq_true hname) appIndex) hb
  | saveAndLoad =>
      simp only [AppAccountLimits.perform, fromJson_newAccount] at hb
      cases hb
      exact h.toJson

theorem bounded_step (op : Operation) (h : Bounded a) : Bounded (step build subspace a op) := by
  unfold step
  cases hb : perform build subspace a op with
  | error e => exact h
  | ok b => exact h.perform build subspace op hb

theorem Reachable.bounded (h : Reachable build subspace a) : Bounded a := by
  obtain ⟨owner, name, appIndex, ops, rfl⟩ := h
  have hnew : Bounded (newAccount owner appIndex.toNat name) := bounded_newAccount owner appIndex name
  exact Machine.run_invariant (fun a op ha => bounded_step build subspace op ha) hnew ops

end bounded

end OsAccount.AppAccountLimits
