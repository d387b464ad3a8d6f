import OsAccount.ErrCode
import OsAccount.JsonUtils
import Std.Data.ExtTreeMap
import Std.Data.ExtTreeSet

namespace OsAccount.AppAccountInfo

open Std

def maxTokenNumber : Nat := 128

def maxOauthListSize : Nat := 512

def maxAssociatedDataNumber : Nat := 1024

def maxAppAuthListSize : Nat := 1024

def apiVersion7 : Nat := 7

def apiVersion8 : Nat := 8

def apiVersion9 : Nat := 9

def hyphen : String := "#"

structure OAuthTokenInfo where
  authType : String := ""
  token : String := ""
  authList : ExtTreeSet String := ∅
  status : Bool := true

end AppAccountInfo

open Std AppAccountInfo in
/-- The record of an account. Its two JSON texts are kept as the documents that
they parse to, without one for the empty text. -/
structure AppAccountInfo where
  owner : String
  name : String
  extraInfo : String := ""
  appIndex : Nat := 0
  authorizedApps : ExtTreeSet String := ∅
  syncEnable : Bool := false
  associatedData : Option Json := none
  accountCredential : Option Json := none
  oauthTokens : ExtTreeMap String OAuthTokenInfo := ∅

namespace AppAccountInfo

open Std

def newAccount (owner : String) (appIndex : Nat) (name : String) : AppAccountInfo := { owner, name, appIndex }

variable (a : AppAccountInfo)

def getPrimeKey : String := a.owner ++ hyphen ++ toString a.appIndex ++ hyphen ++ a.name ++ hyphen

def setExtraInfo (extraInfo : String) : AppAccountInfo := { a with extraInfo }

def setAppIndex (appIndex : Nat) : AppAccountInfo := { a with appIndex }

def encodeAuthorizedApp (subspace : Bool) (bundleName : String) (appIndex : Nat) : String :=
  if subspace then bundleName ++ hyphen ++ toString appIndex
  else if appIndex = 0 then bundleName
  else bundleName ++ hyphen ++ toString appIndex

/-- What is stored: a token that is not set and that nobody may see is left out,
and the type of a token is its key. -/
def toJson : AppAccountInfo :=
  { a with
    oauthTokens := (a.oauthTokens.filter fun _ tokenInfo => tokenInfo.status || !tokenInfo.authList.isEmpty).map
      fun authType tokenInfo => { tokenInfo with authType } }

def fromJson (stored : AppAccountInfo) : AppAccountInfo :=
  { stored with
    authorizedApps := a.authorizedApps ∪ stored.authorizedApps
    oauthTokens := stored.oauthTokens ∪ a.oauthTokens }

def enableAppAccess (authorizedApp : String) (apiVersion : Nat) : Except ErrCode AppAccountInfo :=
  let authorizedApps := a.authorizedApps.insert authorizedApp
  if a.authorizedApps.contains authorizedApp ∧ apiVersion < apiVersion9 then .error .enableAppAccessAlreadyExists
  else if authorizedApps.size > maxAppAuthListSize then .error .oauthListMaxSize
  else .ok { a with authorizedApps }

def disableAppAccess (authorizedApp : String) (apiVersion : Nat) : Except ErrCode AppAccountInfo :=
  if ¬a.authorizedApps.contains authorizedApp ∧ apiVersion < apiVersion9 then .error .disableAppAccessNotExisted
  else .ok { a with authorizedApps := a.authorizedApps.erase authorizedApp }

theorem getElem?_toJson (type : String) : a.toJson.oauthTokens[type]? =
    (a.oauthTokens[type]?.filter fun tokenInfo => tokenInfo.status || !tokenInfo.authList.isEmpty).map
      fun tokenInfo => { tokenInfo with authType := type } := by
  unfold toJson
  rw [ExtTreeMap.getElem?_map, ExtTreeMap.getElem?_filter']

theorem fromJson_newAccount (owner : String) (appIndex : Nat) (name : String) (stored : AppAccountInfo) :
    (newAccount owner appIndex name).fromJson stored = stored := by
  have happs : (∅ ∪ stored.authorizedApps : ExtTreeSet String) = stored.authorizedApps :=
    ExtTreeSet.ext_mem fun app => by simp
  have htokens : (stored.oauthTokens ∪ ∅ : ExtTreeMap String OAuthTokenInfo) = stored.oauthTokens :=
    ExtTreeMap.ext_getElem? fun authType => by simp [ExtTreeMap.getElem?_union]
  unfold fromJson newAccount
  rw [happs, htokens]

theorem fromJson_self : a.fromJson a = a := by
  have happs : a.authorizedApps ∪ a.authorizedApps = a.authorizedApps := ExtTreeSet.ext_mem fun app => by simp
  have htokens : a.oauthTokens ∪ a.oauthTokens = a.oauthTokens :=
    ExtTreeMap.ext_getElem? fun authType => by simp [ExtTreeMap.getElem?_union]
  unfold fromJson
  rw [happs, htokens]

theorem enableAppAccess_spec {a info : AppAccountInfo} {authorizedApp : String} {apiVersion : Nat}
    (h : a.enableAppAccess authorizedApp apiVersion = .ok info) :
    info.getPrimeKey = a.getPrimeKey ∧ info.owner = a.owner ∧
      ∀ app, app ∈ info.authorizedApps ↔ app ∈ a.authorizedApps ∨ app = authorizedApp := by
  unfold enableAppAccess at h
  dsimp only at h
  split at h
  · cases h
  split at h
  · cases h
  · obtain rfl := Except.ok.inj h
    refine ⟨rfl, rfl, fun app => ?_⟩
    rw [ExtTreeSet.mem_insert, LawfulEqCmp.compare_eq_iff_eq, or_comm, eq_comm]

theorem disableAppAccess_spec {a info : AppAccountInfo} {authorizedApp : String} {apiVersion : Nat}
    (h : a.disableAppAccess authorizedApp apiVersion = .ok info) :
    info.getPrimeKey = a.getPrimeKey ∧ info.owner = a.owner ∧
      ∀ app, app ∈ info.authorizedApps ↔ app ∈ a.authorizedApps ∧ app ≠ authorizedApp := by
  unfold disableAppAccess at h
  split at h
  · cases h
  · obtain rfl := Except.ok.inj h
    refine ⟨rfl, rfl, fun app => ?_⟩
    rw [ExtTreeSet.mem_erase, ne_eq, LawfulEqCmp.compare_eq_iff_eq, and_comm, eq_comm]

section keys

variable {bundleName owner name owner' name' : String} {i j : Nat}

theorem hyphen_notMem_toString (i : Nat) : '#' ∉ (toString i).toList :=
  Decimal.notMem_toString (by decide) (by decide) (i : Int)

theorem toString_nat_injective (h : (toString i).toList = (toString j).toList) : i = j := by
  have hint : toString (i : Int) = toString (j : Int) := String.toList_inj.mp h
  exact Int.ofNat.inj (Decimal.toString_injective hint)

def keyText (owner : String) (i : Nat) (name : String) : List Char :=
  owner.toList ++ '#' :: ((toString i).toList ++ '#' :: (name.toList ++ ['#']))

theorem toList_getPrimeKey : a.getPrimeKey.toList = keyText a.owner a.appIndex a.name := by
  simp [getPrimeKey, keyText, hyphen, String.toList_append]

theorem keyText_inj (howner : '#' ∉ owner.toList) (howner' : '#' ∉ owner'.toList)
    (h : keyText owner i name = keyText owner' j name') : owner = owner' ∧ i = j ∧ name = name' := by
  obtain ⟨ho, hrest⟩ := Decimal.append_cons_inj howner howner' h
  obtain ⟨hi, hname⟩ := Decimal.append_cons_inj (hyphen_notMem_toString i) (hyphen_notMem_toString j) hrest
  exact ⟨String.toList_inj.mp ho, toString_nat_injective hi,
    String.toList_inj.mp (List.append_cancel_right hname)⟩

theorem getPrimeKey_inj {a b : AppAccountInfo} (ha : '#' ∉ a.owner.toList) (hb : '#' ∉ b.owner.toList) :
    a.getPrimeKey = b.getPrimeKey ↔ a.owner = b.owner ∧ a.appIndex = b.appIndex ∧ a.name = b.name := by
  constructor
  · intro h
    have htext := congrArg String.toList h
    rw [toList_getPrimeKey, toList_getPrimeKey] at htext
    exact keyText_inj ha hb htext
  · rintro ⟨ho, hi, hn⟩
    rw [getPrimeKey, getPrimeKey, ho, hi, hn]

/-- The start of the keys of a bundle and an index. The text has no separator at its end. -/
def ownerKey (owner : String) (i : Nat) : String := owner ++ hyphen ++ toString i

def Continues (i j : Nat) : Prop := (toString i).toList <+: (toString j).toList

instance (i j : Nat) : Decidable (Continues i j) := inferInstanceAs (Decidable (_ <+: _))

theorem continues_refl (i : Nat) : Continues i i := List.prefix_refl _

theorem prefix_of_append_cons {c : Char} {l m r t : List Char} (hl : c ∉ l) (h : l ++ t = m ++ c :: r) : l <+: m := by
  rcases List.append_eq_append_iff.mp h with ⟨d, rfl, -⟩ | ⟨d, rfl, hd⟩
  · exact List.prefix_append l d
  · cases d with
    | nil => simp
    | cons x d =>
        obtain ⟨rfl, -⟩ := List.cons.inj hd
        simp at hl

theorem ownerKey_prefix_iff (howner : '#' ∉ owner.toList) (ha : '#' ∉ a.owner.toList) :
    (ownerKey owner i).toList <+: a.getPrimeKey.toList ↔ a.owner = owner ∧ Continues i a.appIndex := by
  have hkey : (ownerKey owner i).toList = owner.toList ++ '#' :: (toString i).toList := by
    simp [ownerKey, hyphen, String.toList_append]
  rw [hkey, toList_getPrimeKey, keyText]
  constructor
  · rintro ⟨t, ht⟩
    rw [List.append_assoc, List.cons_append] at ht
    obtain ⟨ho, hrest⟩ := Decimal.append_cons_inj howner ha ht
    exact ⟨String.toList_inj.mp ho.symm, prefix_of_append_cons (hyphen_notMem_toString i) hrest⟩
  · rintro ⟨rfl, t, ht⟩
    rw [← ht]
    exact ⟨t ++ '#' :: (a.name.toList ++ ['#']), by simp⟩

end keys

end AppAccountInfo

end OsAccount
