import OsAccount.AppAccountStore

namespace OsAccount

open Program Std CText

namespace AppAccountInfo

def writtenTexts (texts : ExtTreeSet String) : ExtTreeSet String :=
  texts.toList.foldl (fun texts text => texts.insert (cStr text)) ∅

def OAuthTokenInfo.written (tokenInfo : OAuthTokenInfo) : OAuthTokenInfo where
  authType := cStr tokenInfo.authType
  token := cStr tokenInfo.token
  authList := writtenTexts tokenInfo.authList
  status := tokenInfo.status

/-- What the document of a record has of its texts, each of which goes through a
C string. When types differ only behind a NUL, the first of them counts. -/
def written (a : AppAccountInfo) : AppAccountInfo :=
  { a with
    owner := cStr a.owner
    name := cStr a.name
    extraInfo := cStr a.extraInfo
    authorizedApps := writtenTexts a.authorizedApps
    oauthTokens := a.oauthTokens.toList.foldl
      (fun oauthTokens it => oauthTokens.insertIfNew (cStr it.1) it.2.written) ∅ }

structure OAuthTokenInfo.Plain (tokenInfo : OAuthTokenInfo) : Prop where
  authType : NoNul tokenInfo.authType
  token : NoNul tokenInfo.token
  authList : ∀ app ∈ tokenInfo.authList, NoNul app

structure Plain (a : AppAccountInfo) : Prop where
  owner : NoNul a.owner
  name : NoNul a.name
  extraInfo : NoNul a.extraInfo
  authorizedApps : ∀ app ∈ a.authorizedApps, NoNul app
  oauthTokens : ∀ (authType : String) (tokenInfo : OAuthTokenInfo), a.oauthTokens[authType]? = some tokenInfo →
    NoNul authType ∧ tokenInfo.Plain

variable {a info : AppAccountInfo} {owner name app t : String} {appIndex apiVersion : Nat}

theorem writtenTexts_eq {texts : ExtTreeSet String} (h : ∀ text ∈ texts, NoNul text) : writtenTexts texts = texts := by
  refine (List.foldl_ext _ _ ∅ fun written text htext => ?_).trans (OrderedMap.foldl_insert_toList texts)
  rw [(h text (ExtTreeSet.mem_toList.mp htext)).cStr]

theorem OAuthTokenInfo.Plain.written {tokenInfo : OAuthTokenInfo} (h : tokenInfo.Plain) :
    tokenInfo.written = tokenInfo := by
  rw [OAuthTokenInfo.written, h.authType.cStr, h.token.cStr, writtenTexts_eq h.authList]

theorem Plain.written (h : Plain a) : a.written = a := by
  have htokens : a.oauthTokens.toList.foldl
      (fun oauthTokens it => oauthTokens.insertIfNew (cStr it.1) it.2.written) ∅ = a.oauthTokens := by
    refine (List.foldl_ext _ _ ∅ fun oauthTokens it hit => ?_).trans (OrderedMap.foldl_insertIfNew_toList a.oauthTokens)
    obtain ⟨htype, hplain⟩ := h.oauthTokens it.1 it.2 (ExtTreeMap.mem_toList_iff_getElem?_eq_some.mp hit)
    rw [htype.cStr, hplain.written]
  rw [AppAccountInfo.written, h.owner.cStr, h.name.cStr, h.extraInfo.cStr, writtenTexts_eq h.authorizedApps, htokens]

theorem mem_writtenTexts {texts : ExtTreeSet String} {text : String} (h : text ∈ writtenTexts texts) : NoNul text := by
  have hmap : writtenTexts texts = (texts.toList.map cStr).foldl (fun texts text => texts.insert text) ∅ := by
    rw [writtenTexts, List.foldl_map]
  rw [hmap] at h
  rcases OrderedMap.mem_foldl_insert.mp h with hnone | hmem
  · simp at hnone
  · obtain ⟨text', -, rfl⟩ := List.mem_map.mp hmem
    exact noNul_cStr text'

theorem getElem?_written (a : AppAccountInfo) (t : String) :
    a.written.oauthTokens[t]? = (a.oauthTokens.toList.find? fun it => cStr it.1 = t).map (·.2.written) := by
  unfold written
  dsimp only
  rw [OrderedMap.getElem?_foldl_insertIfNew, ExtTreeMap.getElem?_empty, Option.none_or]

theorem written_back {tokenInfo : OAuthTokenInfo} (h : a.written.oauthTokens[t]? = some tokenInfo) :
    ∃ (type : String) (info : OAuthTokenInfo), a.oauthTokens[type]? = some info ∧ cStr type = t ∧
      info.written = tokenInfo := by
  rw [getElem?_written] at h
  obtain ⟨⟨type, info⟩, hfound, rfl⟩ := Option.map_eq_some_iff.mp h
  exact ⟨type, info, ExtTreeMap.mem_toList_iff_getElem?_eq_some.mp (List.mem_of_find?_eq_some hfound),
    of_decide_eq_true (List.find?_some hfound :), rfl⟩

theorem written_forth {tokenInfo : OAuthTokenInfo} (ht : NoNul t) (h : a.oauthTokens[t]? = some tokenInfo) :
    a.written.oauthTokens[t]? = some tokenInfo.written := by
  have hmem := ExtTreeMap.mem_toList_iff_getElem?_eq_some.mpr h
  rw [getElem?_written]
  cases hfound : a.oauthTokens.toList.find? fun it => cStr it.1 = t with
  | none => exact absurd (decide_eq_true ht.cStr) (List.find?_eq_none.mp hfound _ hmem)
  | some it =>
      obtain ⟨hit, before, after, hsplit, hbefore⟩ := List.find?_eq_some_iff_append.mp hfound
      have hordered := ExtTreeMap.ordered_keys_toList (t := a.oauthTokens)
      rw [hsplit] at hmem hordered
      rcases List.mem_append.mp hmem with hin | hin
      · exact absurd (hbefore _ hin) (by simp [ht.cStr])
      rcases List.mem_cons.mp hin with rfl | hin
      · rfl
      · have hlt := List.rel_of_pairwise_cons (List.pairwise_append.mp hordered).2.1 hin
        refine absurd (compareOfLessAndEq_eq_lt.mp hlt) ?_
        rw [← of_decide_eq_true hit]
        exact not_lt_cStr it.1

theorem plain_written (a : AppAccountInfo) : a.written.Plain where
  owner := noNul_cStr a.owner
  name := noNul_cStr a.name
  extraInfo := noNul_cStr a.extraInfo
  authorizedApps := fun _ happ => mem_writtenTexts happ
  oauthTokens := by
    intro authType tokenInfo hfound
    obtain ⟨type, info, -, rfl, rfl⟩ := written_back hfound
    exact ⟨noNul_cStr type, noNul_cStr _, noNul_cStr _, fun _ happ => mem_writtenTexts happ⟩

theorem plain_newAccount (howner : NoNul owner) (hname : NoNul name) (appIndex : Nat) :
    (newAccount owner appIndex name).Plain where
  owner := howner
  name := hname
  extraInfo := noNul_empty
  authorizedApps := by simp [newAccount]
  oauthTokens := by simp [newAccount]

theorem noNul_getPrimeKey (hkey : NoNul a.getPrimeKey) : NoNul a.owner ∧ NoNul a.name := by
  rw [NoNul, toList_getPrimeKey, keyText] at hkey
  simp only [List.mem_append, List.mem_cons, not_or] at hkey
  exact ⟨hkey.1, hkey.2.2.2.2.1⟩

theorem Plain.getPrimeKey (h : a.Plain) : NoNul a.getPrimeKey := by
  have hhyphen : NoNul hyphen := by decide
  exact (((h.owner.append hhyphen).append (noNul_toString_nat a.appIndex)).append hhyphen |>.append h.name)
    |>.append hhyphen

theorem getPrimeKey_written (hkey : NoNul a.getPrimeKey) : a.written.getPrimeKey = a.getPrimeKey := by
  obtain ⟨howner, hname⟩ := noNul_getPrimeKey hkey
  unfold AppAccountInfo.getPrimeKey AppAccountInfo.written
  dsimp only
  rw [howner.cStr, hname.cStr]

theorem Plain.toJson (h : a.Plain) : a.toJson.Plain where
  owner := h.owner
  name := h.name
  extraInfo := h.extraInfo
  authorizedApps := h.authorizedApps
  oauthTokens := by
    intro authType tokenInfo hfound
    rw [getElem?_toJson] at hfound
    obtain ⟨info, hinfo, rfl⟩ := Option.map_eq_some_iff.mp hfound
    obtain ⟨htype, hplain⟩ := h.oauthTokens authType info (Option.filter_eq_some_iff.mp hinfo).1
    exact ⟨htype, htype, hplain.token, hplain.authList⟩

theorem enableAppAccess_eq (h : a.enableAppAccess app apiVersion = .ok info) :
    info = { a with authorizedApps := a.authorizedApps.insert app } := by
  unfold AppAccountInfo.enableAppAccess at h
  dsimp only at h
  split at h
  · cases h
  split at h
  · cases h
  · exact (Except.ok.inj h).symm

theorem disableAppAccess_eq (h : a.disableAppAccess app apiVersion = .ok info) :
    info = { a with authorizedApps := a.authorizedApps.erase app } := by
  unfold AppAccountInfo.disableAppAccess at h
  split at h
  · cases h
  · exact (Except.ok.inj h).symm

theorem Plain.enableAppAccess (h : a.Plain) (happ : NoNul app) (henable : a.enableAppAccess app apiVersion = .ok info) :
    info.Plain := by
  obtain ⟨-, -, hmem⟩ := enableAppAccess_spec henable
  obtain rfl := enableAppAccess_eq henable
  refine ⟨h.owner, h.name, h.extraInfo, fun app' happ' => ?_, h.oauthTokens⟩
  rcases (hmem app').mp happ' with hold | rfl
  · exact h.authorizedApps app' hold
  · exact happ

theorem Plain.disableAppAccess (h : a.Plain) (hdisable : a.disableAppAccess app apiVersion = .ok info) : info.Plain := by
  obtain ⟨-, -, hmem⟩ := disableAppAccess_spec hdisable
  obtain rfl := disableAppAccess_eq hdisable
  exact ⟨h.owner, h.name, h.extraInfo, fun app' happ' => h.authorizedApps app' ((hmem app').mp happ').1,
    h.oauthTokens⟩

theorem Plain.fromJson {stored : AppAccountInfo} (h : a.Plain) (hstored : stored.Plain) : (a.fromJson stored).Plain where
  owner := hstored.owner
  name := hstored.name
  extraInfo := hstored.extraInfo
  authorizedApps := by
    intro app happ
    exact (ExtTreeSet.mem_union_iff.mp happ).elim (h.authorizedApps app) (hstored.authorizedApps app)
  oauthTokens := by
    intro authType tokenInfo hfound
    rw [AppAccountInfo.fromJson, ExtTreeMap.getElem?_union, Option.or_eq_some_iff] at hfound
    exact hfound.elim (h.oauthTokens authType tokenInfo) fun hold => hstored.oauthTokens authType tokenInfo hold.2

end AppAccountInfo

namespace AppAccountStore

def writing {σ : Type} (handle : (e : Access) → σ → Answer e × σ) : (e : Access) → σ → Answer e × σ
  | .put key info, s => handle (.put key info.written) s
  | e, s => handle e s

def performWritten {α : Type} (p : StoreProgram α) (s : Store) : α × Store :=
  let result := exec (writing succeed) p { store := s }
  (result.1, result.2.close)

theorem exec_getAccountInfo_writing {σ : Type} (handle : (e : Access) → σ → Answer e × σ) (a : AppAccountInfo) (d : σ) :
    exec (writing handle) (getAccountInfoFromDataStorage a) d =
      exec handle (getAccountInfoFromDataStorage a) d := by
  unfold getAccountInfoFromDataStorage
  rw [exec_bind, exec_bind]
  have hget : exec (writing handle) (get a.getPrimeKey) d = exec handle (get a.getPrimeKey) d := rfl
  rw [hget]
  cases (exec handle (get a.getPrimeKey) d).1 with
  | none => rfl
  | some stored => rfl

section alike

variable {σ : Type} (handle : (e : Access) → σ → Answer e × σ) {a b : AppAccountInfo}

theorem exec_putValue_written {key : String} {info info' : AppAccountInfo} (h : info.written = info'.written) (d : σ) :
    exec (writing handle) (putValueToKvStore key info) d =
      exec (writing handle) (putValueToKvStore key info') d := by
  have hput : exec (writing handle) (put key info) d = exec (writing handle) (put key info') d := by
    rw [exec_call, exec_call, writing, writing, h]
  unfold putValueToKvStore
  rw [exec_bind, exec_bind, hput]

theorem exec_addAccountInfo_written (hkey : a.getPrimeKey = b.getPrimeKey) (h : a.toJson.written = b.toJson.written)
    (d : σ) :
    exec (writing handle) (addAccountInfo a) d = exec (writing handle) (addAccountInfo b) d := by
  unfold addAccountInfo
  rw [hkey]
  refine exec_bind_congr (fun found d => ?_) d
  cases found with
  | true => rfl
  | false => exact exec_putValue_written handle h d

theorem exec_saveAccountInfo_written (hkey : a.getPrimeKey = b.getPrimeKey) (h : a.toJson.written = b.toJson.written)
    (d : σ) :
    exec (writing handle) (saveAccountInfo a) d = exec (writing handle) (saveAccountInfo b) d := by
  unfold saveAccountInfo
  rw [hkey]
  refine exec_bind_congr (fun found d => ?_) d
  cases found with
  | true => exact exec_putValue_written handle h d
  | false => rfl

theorem written_setExtraInfo (a : AppAccountInfo) (extraInfo : String) :
    (a.setExtraInfo extraInfo).toJson.written = (a.setExtraInfo (cStr extraInfo)).toJson.written := by
  unfold AppAccountInfo.written AppAccountInfo.toJson AppAccountInfo.setExtraInfo
  dsimp only
  rw [cStr_cStr]

theorem getPrimeKey_setExtraInfo (a : AppAccountInfo) (extraInfo : String) :
    (a.setExtraInfo extraInfo).getPrimeKey = a.getPrimeKey := rfl

theorem exec_addAccount_cStr (a : AppAccountInfo) (extraInfo : String) (d : σ) :
    exec (writing handle) (addAccount a extraInfo) d =
      exec (writing handle) (addAccount a (cStr extraInfo)) d := by
  refine exec_bind_congr (fun found d => ?_) d
  cases found with
  | ok _ => rfl
  | error _ =>
      refine exec_bind_congr (fun accounts d => ?_) d
      cases accounts with
      | error _ => rfl
      | ok accounts =>
          dsimp only
          split
          · rfl
          · exact exec_addAccountInfo_written handle
              ((getPrimeKey_setExtraInfo a _).trans (getPrimeKey_setExtraInfo a _).symm)
              (written_setExtraInfo a extraInfo) d

theorem exec_setAccountExtraInfo_cStr (a : AppAccountInfo) (extraInfo : String) (d : σ) :
    exec (writing handle) (setAccountExtraInfo a extraInfo) d =
      exec (writing handle) (setAccountExtraInfo a (cStr extraInfo)) d := by
  refine exec_bind_congr (fun found d => ?_) d
  cases found with
  | error _ => rfl
  | ok info =>
      exact exec_saveAccountInfo_written handle
        ((getPrimeKey_setExtraInfo info _).trans (getPrimeKey_setExtraInfo info _).symm)
        (written_setExtraInfo info extraInfo) d

end alike

end AppAccountStore

end OsAccount
