import OsAccount.AppAccountLimits
import OsAccount.TypedQueue

namespace OsAccount.AppAccountCodecs

open OrderedMap Std AppAccountInfo AppAccountService AppAccountLimits JsonUtils TypedQueue

/-- The members of an `AppAccountInfo`. The texts have no NUL character in them. -/
structure AppAccountRecord where
  owner : String := ""
  name : String := ""
  aliasName : String := ""
  appIndex : UInt32 := 0
  extraInfo : String := ""
  authorizedApps : ExtTreeSet String := ∅
  syncEnable : Bool := false
  associatedData : String := ""
  accountCredential : String := ""
  oauthTokens : ExtTreeMap String OAuthTokenInfo := ∅

/-- The record as the operations see it. `parse` reads a JSON text. -/
def AppAccountRecord.info (parse : String → Option Json) (r : AppAccountRecord) : AppAccountInfo where
  owner := r.owner
  name := r.name
  extraInfo := r.extraInfo
  appIndex := r.appIndex.toNat
  authorizedApps := r.authorizedApps
  syncEnable := r.syncEnable
  associatedData := parse r.associatedData
  accountCredential := parse r.accountCredential
  oauthTokens := r.oauthTokens

inductive ParcelItem
  | string (s : String)
  | bool (b : Bool)
  | uint32 (n : UInt32)

structure Parcel (P : Type) where
  writeString : String → StateT P Option Unit
  writeBool : Bool → StateT P Option Unit
  writeUint32 : UInt32 → StateT P Option Unit
  readString : StateT P Option String
  readBool : StateT P Option Bool
  readUint32 : StateT P Option UInt32

structure Parcel.InOrder {P : Type} (parcel : Parcel P) (contents : P → List ParcelItem) : Prop where
  writeString : ∀ s, Appends contents (parcel.writeString s) [.string s]
  writeBool : ∀ b, Appends contents (parcel.writeBool b) [.bool b]
  writeUint32 : ∀ n, Appends contents (parcel.writeUint32 n) [.uint32 n]
  readString : ∀ s, Takes contents parcel.readString [.string s] s
  readBool : ∀ b, Takes contents parcel.readBool [.bool b] b
  readUint32 : ∀ n, Takes contents parcel.readUint32 [.uint32 n] n

structure Parcel.Roomy {P : Type} (parcel : Parcel P) : Prop where
  writeString : ∀ s, Succeeds (parcel.writeString s)
  writeBool : ∀ b, Succeeds (parcel.writeBool b)
  writeUint32 : ∀ n, Succeeds (parcel.writeUint32 n)

section parcels

variable {P : Type} (parcel : Parcel P)

def writeStringSet (stringSet : ExtTreeSet String) : StateT P Option Unit := do
  parcel.writeUint32 (UInt32.ofNat stringSet.size)
  stringSet.toList.forM parcel.writeString

def writeTokenInfo (it : String × OAuthTokenInfo) : StateT P Option Unit := do
  parcel.writeString it.1
  parcel.writeString it.2.token
  writeStringSet parcel it.2.authList

def writeTokenInfos (tokenInfos : ExtTreeMap String OAuthTokenInfo) : StateT P Option Unit := do
  parcel.writeUint32 (UInt32.ofNat tokenInfos.size)
  tokenInfos.toList.forM (writeTokenInfo parcel)

def marshalling (r : AppAccountRecord) : StateT P Option Unit := do
  parcel.writeString r.owner
  parcel.writeString r.name
  parcel.writeString r.extraInfo
  writeStringSet parcel r.authorizedApps
  parcel.writeBool r.syncEnable
  parcel.writeString r.associatedData
  parcel.writeString r.accountCredential
  writeTokenInfos parcel r.oauthTokens
  parcel.writeUint32 r.appIndex

def readElement (stringSet : ExtTreeSet String) : StateT P Option (ExtTreeSet String) := do
  let it ← parcel.readString
  if it = "" then failure else return stringSet.insert it

def readStringSet : StateT P Option (ExtTreeSet String) := do
  let size ← parcel.readUint32
  if size.toNat > maxCustomDataSize then failure else times size.toNat (readElement parcel) ∅

def readTokenInfo (tokenInfos : ExtTreeMap String OAuthTokenInfo) :
    StateT P Option (ExtTreeMap String OAuthTokenInfo) := do
  let authType ← parcel.readString
  let token ← parcel.readString
  let authList ← readStringSet parcel
  return tokenInfos.insertIfNew authType { authType, token, authList }

def readTokenInfos : StateT P Option (ExtTreeMap String OAuthTokenInfo) := do
  let size ← parcel.readUint32
  if size.toNat > maxTokenNumber then failure else times size.toNat (readTokenInfo parcel) ∅

def unmarshalling : StateT P Option AppAccountRecord := do
  let owner ← parcel.readString
  let name ← parcel.readString
  let extraInfo ← parcel.readString
  let authorizedApps ← readStringSet parcel
  let syncEnable ← parcel.readBool
  let associatedData ← parcel.readString
  let accountCredential ← parcel.readString
  let oauthTokens ← readTokenInfos parcel
  let appIndex ← parcel.readUint32
  return {
    owner, name, appIndex, extraInfo, authorizedApps, syncEnable, associatedData, accountCredential, oauthTokens }

end parcels

section documents

def tokenObject (it : String × OAuthTokenInfo) : Json :=
  let tokenObject := createJson
  let tokenObject := addTextToJson tokenObject "authType" it.1
  let tokenObject := addTextToJson tokenObject "oauthToken" it.2.token
  let tokenObject := addBoolToJson tokenObject "status" it.2.status
  addSetStringToJson tokenObject "authList" it.2.authList

def tokenArray (oauthTokens : ExtTreeMap String OAuthTokenInfo) : List Json :=
  (oauthTokens.toList.filter fun it => !(!it.2.status && it.2.authList.isEmpty)).map tokenObject

def toJson (r : AppAccountRecord) : Json :=
  let jsonObject := createJson
  let jsonObject := addTextToJson jsonObject "owner" r.owner
  let jsonObject := addTextToJson jsonObject "name" r.name
  let jsonObject := addTextToJson jsonObject "alias" r.aliasName
  let jsonObject := addTextToJson jsonObject "extraInfo" r.extraInfo
  let jsonObject := addIntToJson jsonObject "appIndex" (Int.bmod r.appIndex.toNat (2 ^ 32))
  let jsonObject := addSetStringToJson jsonObject "authorizedApps" r.authorizedApps
  let jsonObject := addBoolToJson jsonObject "syncEnable" r.syncEnable
  let jsonObject := addTextToJson jsonObject "associatedData" r.associatedData
  let jsonObject := addTextToJson jsonObject "accountCredential" r.accountCredential
  addObjToJson jsonObject "tokenInfos" (.arr (tokenArray r.oauthTokens))

def tokenOf (item : Json) : OAuthTokenInfo where
  token := (getStringFromJson item "oauthToken").getD ""
  status := (getBoolFromJson item "status").getD false
  authType := (getStringFromJson item "authType").getD ""
  authList := getSetStringFromJson item "authList" ∅

def parseTokenInfosFromJson (items : List Json) (oauthTokens : ExtTreeMap String OAuthTokenInfo) :
    ExtTreeMap String OAuthTokenInfo :=
  (items.take maxTokenNumber).foldl
    (fun oauthTokens item => oauthTokens.insertIfNew (tokenOf item).authType (tokenOf item)) oauthTokens

def fromJson (jsonObject : Json) (r : AppAccountRecord) : Option AppAccountRecord :=
  if !isObject jsonObject then none
  else some {
    owner := (getStringFromJson jsonObject "owner").getD r.owner
    name := (getStringFromJson jsonObject "name").getD r.name
    aliasName := (getStringFromJson jsonObject "alias").getD r.aliasName
    extraInfo := (getStringFromJson jsonObject "extraInfo").getD r.extraInfo
    appIndex := (getUint32FromJson jsonObject "appIndex").getD r.appIndex
    syncEnable := (getBoolFromJson jsonObject "syncEnable").getD r.syncEnable
    authorizedApps := getSetStringFromJson jsonObject "authorizedApps" r.authorizedApps
    associatedData := (getStringFromJson jsonObject "associatedData").getD r.associatedData
    accountCredential := (getStringFromJson jsonObject "accountCredential").getD r.accountCredential
    oauthTokens :=
      match getJsonArrayFromJson jsonObject "tokenInfos" with
      | some items => parseTokenInfosFromJson items r.oauthTokens
      | none => r.oauthTokens }

end documents

section parcels

variable {P : Type} {parcel : Parcel P} {contents : P → List ParcelItem}

def stringSetItems (stringSet : ExtTreeSet String) : List ParcelItem :=
  [.uint32 (UInt32.ofNat stringSet.size)] ++ stringSet.toList.flatMap fun it => [.string it]

def tokenInfoItems (it : String × OAuthTokenInfo) : List ParcelItem :=
  [.string it.1] ++ ([.string it.2.token] ++ stringSetItems it.2.authList)

def tokenInfosItems (tokenInfos : ExtTreeMap String OAuthTokenInfo) : List ParcelItem :=
  [.uint32 (UInt32.ofNat tokenInfos.size)] ++ tokenInfos.toList.flatMap tokenInfoItems

def items (r : AppAccountRecord) : List ParcelItem :=
  [.string r.owner] ++ ([.string r.name] ++ ([.string r.extraInfo] ++ (stringSetItems r.authorizedApps ++
    ([.bool r.syncEnable] ++ ([.string r.associatedData] ++ ([.string r.accountCredential] ++
      (tokenInfosItems r.oauthTokens ++ [.uint32 r.appIndex])))))))

theorem appends_writeStringSet (h : parcel.InOrder contents) (stringSet : ExtTreeSet String) :
    Appends contents (writeStringSet parcel stringSet) (stringSetItems stringSet) :=
  (h.writeUint32 _).seq (Appends.forM h.writeString stringSet.toList)

theorem appends_writeTokenInfo (h : parcel.InOrder contents) (it : String × OAuthTokenInfo) :
    Appends contents (writeTokenInfo parcel it) (tokenInfoItems it) :=
  (h.writeString _).seq ((h.writeString _).seq (appends_writeStringSet h _))

theorem appends_writeTokenInfos (h : parcel.InOrder contents) (tokenInfos : ExtTreeMap String OAuthTokenInfo) :
    Appends contents (writeTokenInfos parcel tokenInfos) (tokenInfosItems tokenInfos) :=
  (h.writeUint32 _).seq (Appends.forM (appends_writeTokenInfo h) tokenInfos.toList)

theorem appends_marshalling (h : parcel.InOrder contents) (r : AppAccountRecord) :
    Appends contents (marshalling parcel r) (items r) := by
  refine (h.writeString _).seq ((h.writeString _).seq ((h.writeString _).seq ?_))
  refine (appends_writeStringSet h _).seq ((h.writeBool _).seq ?_)
  refine (h.writeString _).seq ((h.writeString _).seq ?_)
  exact (appends_writeTokenInfos h _).seq (h.writeUint32 _)

theorem succeeds_writeStringSet (h : parcel.Roomy) (stringSet : ExtTreeSet String) :
    Succeeds (writeStringSet parcel stringSet) :=
  (h.writeUint32 _).bind fun _ => Succeeds.forM h.writeString _

theorem succeeds_writeTokenInfos (h : parcel.Roomy) (tokenInfos : ExtTreeMap String OAuthTokenInfo) :
    Succeeds (writeTokenInfos parcel tokenInfos) := by
  refine (h.writeUint32 _).bind fun _ => Succeeds.forM (fun it => ?_) _
  exact (h.writeString _).bind fun _ => (h.writeString _).bind fun _ => succeeds_writeStringSet h _

theorem succeeds_marshalling (h : parcel.Roomy) (r : AppAccountRecord) : Succeeds (marshalling parcel r) := by
  refine (h.writeString _).bind fun _ => (h.writeString _).bind fun _ => (h.writeString _).bind fun _ => ?_
  refine (succeeds_writeStringSet h _).bind fun _ => (h.writeBool _).bind fun _ => ?_
  refine (h.writeString _).bind fun _ => (h.writeString _).bind fun _ => ?_
  exact (succeeds_writeTokenInfos h _).bind fun _ => h.writeUint32 _

theorem takes_readElement (h : parcel.InOrder contents) {it : String} (hit : it ≠ "") (stringSet : ExtTreeSet String) :
    Takes contents (readElement parcel stringSet) [.string it] (stringSet.insert it) := by
  have hrest : Takes contents (if it = "" then failure else return stringSet.insert it : StateT P Option _) []
      (stringSet.insert it) := by
    rw [if_neg hit]
    exact Takes.pure _
  exact (h.readString it).bind hrest

theorem takes_readStringSet (h : parcel.InOrder contents) {maxSize : Nat} {stringSet : ExtTreeSet String}
    (hset : Readable maxSize stringSet) (hmax : maxSize ≤ maxCustomDataSize) :
    Takes contents (readStringSet parcel) (stringSetItems stringSet) stringSet := by
  have hsize : stringSet.size ≤ maxCustomDataSize := Nat.le_trans hset.size hmax
  have hcount : (UInt32.ofNat stringSet.size).toNat = stringSet.toList.length := by
    rw [UInt32.toNat_ofNat_of_lt' (Nat.lt_of_le_of_lt hsize (by decide)), ExtTreeSet.length_toList]
  refine (h.readUint32 _).bind ?_
  rw [hcount, if_neg (by rw [ExtTreeSet.length_toList]; omega)]
  have hloop : Takes contents (times stringSet.toList.length (readElement parcel) ∅)
      (stringSet.toList.flatMap fun it => [.string it])
          (stringSet.toList.foldl (fun s it => s.insert it) ∅) := by
    refine Takes.times (fun it hit s => takes_readElement h ?_ s) ∅
    rintro rfl
    exact hset.empty (ExtTreeSet.mem_toList.mp hit)
  rwa [foldl_insert_toList] at hloop

def parcelled (authType : String) (tokenInfo : OAuthTokenInfo) : OAuthTokenInfo :=
  { tokenInfo with authType, status := true }

theorem takes_readTokenInfo (h : parcel.InOrder contents) {it : String × OAuthTokenInfo}
    (hlist : Readable maxOauthListSize it.2.authList) (tokenInfos : ExtTreeMap String OAuthTokenInfo) :
    Takes contents (readTokenInfo parcel tokenInfos) (tokenInfoItems it)
      (tokenInfos.insertIfNew it.1 (parcelled it.1 it.2)) := by
  refine (h.readString it.1).bind ((h.readString it.2.token).bind ?_)
  rw [← List.append_nil (stringSetItems it.2.authList)]
  exact (takes_readStringSet h hlist (by decide)).bind (Takes.pure _)

theorem takes_readTokenInfos (h : parcel.InOrder contents) {tokenInfos : ExtTreeMap String OAuthTokenInfo}
    (hsize : tokenInfos.size ≤ maxTokenNumber)
    (hlists : ∀ (authType : String) (tokenInfo : OAuthTokenInfo), tokenInfos[authType]? = some tokenInfo →
      Readable maxOauthListSize tokenInfo.authList) :
    Takes contents (readTokenInfos parcel) (tokenInfosItems tokenInfos)
      (sweep (fun authType tokenInfo => some (parcelled authType tokenInfo)) tokenInfos) := by
  have hcount : (UInt32.ofNat tokenInfos.size).toNat = tokenInfos.toList.length := by
    rw [UInt32.toNat_ofNat_of_lt' (Nat.lt_of_le_of_lt hsize (by decide)), ExtTreeMap.length_toList]
  have hloop : Takes contents (times tokenInfos.toList.length (readTokenInfo parcel) ∅)
      (tokenInfos.toList.flatMap tokenInfoItems)
      (tokenInfos.toList.foldl (fun m it => m.insertIfNew it.1 (parcelled it.1 it.2)) ∅) := by
    refine Takes.times (fun it hit m => takes_readTokenInfo h ?_ m) ∅
    exact hlists it.1 it.2 (ExtTreeMap.mem_toList_iff_getElem?_eq_some.mp hit)
  have hsweep := foldl_insertIfNew_filterMap
    (fun authType tokenInfo => some (parcelled authType tokenInfo)) tokenInfos
  rw [List.foldl_filterMap] at hsweep
  refine (h.readUint32 _).bind ?_
  rw [hcount, if_neg (by rw [ExtTreeMap.length_toList]; omega), ← hsweep]
  exact hloop

def throughParcel (r : AppAccountRecord) : AppAccountRecord :=
  { r with
    aliasName := ""
    oauthTokens := sweep (fun authType tokenInfo => some (parcelled authType tokenInfo)) r.oauthTokens }

theorem takes_unmarshalling (h : parcel.InOrder contents) {parse : String → Option Json} {r : AppAccountRecord}
    (hr : Bounded (r.info parse)) : Takes contents (unmarshalling parcel) (items r) (throughParcel r) := by
  refine (h.readString _).bind ((h.readString _).bind ((h.readString _).bind ?_))
  refine (takes_readStringSet h hr.apps (Nat.le_refl _)).bind ((h.readBool _).bind ?_)
  refine (h.readString _).bind ((h.readString _).bind ?_)
  refine (takes_readTokenInfos h hr.tokens hr.lists).bind ?_
  exact (h.readUint32 _).bind (Takes.pure (throughParcel r))

end parcels

section documents

theorem toJson_eq (r : AppAccountRecord) : toJson r = .obj [("owner", .str r.owner), ("name", .str r.name),
    ("alias", .str r.aliasName), ("extraInfo", .str r.extraInfo),
    ("appIndex", .num (Int.bmod r.appIndex.toNat (2 ^ 32))),
    ("authorizedApps", .arr (r.authorizedApps.toList.map .str)), ("syncEnable", .bool r.syncEnable),
    ("associatedData", .str r.associatedData), ("accountCredential", .str r.accountCredential),
    ("tokenInfos", .arr (tokenArray r.oauthTokens))] := rfl

theorem getSetStringFromJson_of_item {j : Json} {key : String} {setData : ExtTreeSet String}
    (h : getItemFromJson j key = some (.arr (setData.toList.map .str))) : getSetStringFromJson j key ∅ = setData := by
  unfold getSetStringFromJson getJsonArrayFromJson
  rw [h]
  have hstrings : (setData.toList.map Json.str).filterMap stringValue? = setData.toList := by
    rw [List.filterMap_map]
    exact List.filterMap_some
  dsimp only
  rw [hstrings, foldl_insert_toList]

theorem tokenOf_tokenObject (it : String × OAuthTokenInfo) :
    tokenOf (tokenObject it) = { it.2 with authType := it.1 } := by
  have hlist : getSetStringFromJson (tokenObject it) "authList" ∅ = it.2.authList :=
    getSetStringFromJson_of_item rfl
  unfold tokenOf
  rw [hlist]
  rfl

theorem ofNat_bmod (n : UInt32) : UInt32.ofNat (Int.bmod n.toNat (2 ^ 32) % 2 ^ 32).toNat = n := by
  have hmod : Int.bmod n.toNat (2 ^ 32) % 2 ^ 32 = (n.toNat : Int) % 2 ^ 32 := Int.bmod_emod
  have hlt : (n.toNat : Int) < 2 ^ 32 := by exact_mod_cast n.toNat_lt
  rw [hmod, Int.emod_eq_of_lt (Int.natCast_nonneg _) hlt, Int.toNat_natCast, UInt32.ofNat_toNat]

def documented (authType : String) (tokenInfo : OAuthTokenInfo) : Option OAuthTokenInfo :=
  if !tokenInfo.status && tokenInfo.authList.isEmpty then none else some { tokenInfo with authType }

theorem parse_tokenArray {oauthTokens : ExtTreeMap String OAuthTokenInfo} (hsize : oauthTokens.size ≤ maxTokenNumber) :
    parseTokenInfosFromJson (tokenArray oauthTokens) ∅ = sweep documented oauthTokens := by
  have hlength : (tokenArray oauthTokens).length ≤ maxTokenNumber := by
    unfold tokenArray
    rw [List.length_map]
    exact Nat.le_trans (List.length_filter_le _ _) (by rwa [ExtTreeMap.length_toList])
  unfold parseTokenInfosFromJson
  rw [List.take_of_length_le hlength, ← foldl_insertIfNew_filterMap]
  unfold tokenArray
  rw [List.foldl_map, List.foldl_filter, List.foldl_filterMap]
  congr 1
  funext m it
  rw [tokenOf_tokenObject]
  unfold documented
  cases !it.2.status && it.2.authList.isEmpty with
  | true => rfl
  | false => rfl

def throughJson (r : AppAccountRecord) : AppAccountRecord :=
  { r with oauthTokens := sweep documented r.oauthTokens }

theorem fromJson_toJson {r : AppAccountRecord} (hsize : r.oauthTokens.size ≤ maxTokenNumber) :
    fromJson (toJson r) {} = some (throughJson r) := by
  have happs : getSetStringFromJson (toJson r) "authorizedApps" ∅ = r.authorizedApps :=
    getSetStringFromJson_of_item rfl
  have hindex : getUint32FromJson (toJson r) "appIndex" = some r.appIndex :=
    congrArg some (ofNat_bmod r.appIndex)
  have htokens : getJsonArrayFromJson (toJson r) "tokenInfos" = some (tokenArray r.oauthTokens) := rfl
  unfold fromJson
  rw [if_neg (by simp [toJson_eq, isObject]), happs, hindex, htokens]
  dsimp only
  rw [parse_tokenArray hsize]
  rfl

end documents

section observers

structure SameMembers (r r' : AppAccountRecord) : Prop where
  owner : r'.owner = r.owner
  name : r'.name = r.name
  extraInfo : r'.extraInfo = r.extraInfo
  appIndex : r'.appIndex = r.appIndex
  authorizedApps : r'.authorizedApps = r.authorizedApps
  syncEnable : r'.syncEnable = r.syncEnable
  associatedData : r'.associatedData = r.associatedData
  accountCredential : r'.accountCredential = r.accountCredential

structure SameReaders (a b : AppAccountInfo) (authType : String) : Prop where
  list : ∀ apiVersion, b.getOAuthList authType apiVersion = a.getOAuthList authType apiVersion
  visibility : ∀ bundleName apiVersion,
    b.checkOAuthTokenVisibility authType bundleName apiVersion =
      a.checkOAuthTokenVisibility authType bundleName apiVersion

def Dropped (a : AppAccountInfo) (authType : String) : Prop :=
  ∃ tokenInfo, a.oauthTokens[authType]? = some tokenInfo ∧ tokenInfo.status = false ∧ tokenInfo.authList.isEmpty = true

variable {parse : String → Option Json} {r r' : AppAccountRecord} {authType : String}

theorem getOAuthList_eq (a : AppAccountInfo) (authType : String) (apiVersion : Nat) :
    a.getOAuthList authType apiVersion =
      (a.oauthTokens[authType]?.map (·.authList)).elim
        (if apiVersion ≥ apiVersion9 then .error .oauthTypeNotExist else .ok ∅) .ok := by
  rw [getOAuthList]
  cases a.oauthTokens[authType]? with
  | none => rfl
  | some tokenInfo => rfl

theorem checkOAuthTokenVisibility_eq (a : AppAccountInfo) (authType bundleName : String) (apiVersion : Nat) :
    a.checkOAuthTokenVisibility authType bundleName apiVersion =
      if bundleName = a.owner || a.isSelfBundle bundleName then .ok true
      else
        (a.oauthTokens[authType]?.map (·.authList)).elim
          (if apiVersion ≥ apiVersion9 then .error .oauthTypeNotExist else .ok false)
          fun authList => .ok (authList.contains bundleName) := by
  rw [checkOAuthTokenVisibility]
  cases a.oauthTokens[authType]? with
  | none => rfl
  | some tokenInfo => rfl

theorem sameReaders_of_lists (h : SameMembers r r')
    (hlists : r'.oauthTokens[authType]?.map (·.authList) = r.oauthTokens[authType]?.map (·.authList)) :
    SameReaders (r.info parse) (r'.info parse) authType := by
  have howner : (r'.info parse).owner = (r.info parse).owner := h.owner
  have hself (bundleName : String) :
      (r'.info parse).isSelfBundle bundleName = (r.info parse).isSelfBundle bundleName := by
    unfold isSelfBundle AppAccountRecord.info
    rw [h.owner, h.appIndex]
  have hlists : (r'.info parse).oauthTokens[authType]?.map (·.authList) =
      (r.info parse).oauthTokens[authType]?.map (·.authList) := hlists
  constructor
  · intro apiVersion
    rw [getOAuthList_eq, getOAuthList_eq, hlists]
  · intro bundleName apiVersion
    rw [checkOAuthTokenVisibility_eq, checkOAuthTokenVisibility_eq, hself, howner, hlists]

/-- What a token is, but for its type and, for the calls before API version 9, its status. -/
theorem getOAuthToken_eq {apiVersion : Nat}
    (htoken : r'.oauthTokens[authType]?.map (·.token) = r.oauthTokens[authType]?.map (·.token))
    (hstatus : apiVersion < apiVersion9 ∨
      r'.oauthTokens[authType]?.map (·.status) = r.oauthTokens[authType]?.map (·.status)) :
    (r'.info parse).getOAuthToken authType apiVersion = (r.info parse).getOAuthToken authType apiVersion := by
  unfold getOAuthToken AppAccountRecord.info
  dsimp only
  cases hr : r.oauthTokens[authType]? with
  | none =>
      rw [hr, Option.map_none, Option.map_eq_none_iff] at htoken
      rw [htoken]
  | some tokenInfo =>
      rw [hr, Option.map_some] at htoken hstatus
      obtain ⟨tokenInfo', hr', htext⟩ := Option.map_eq_some_iff.mp htoken
      rw [hr'] at hstatus ⊢
      dsimp only
      rw [htext]
      rcases hstatus with hversion | hsame
      · rw [if_neg (Nat.not_le_of_lt hversion), if_neg (Nat.not_le_of_lt hversion)]
      · have hset : tokenInfo'.status = tokenInfo.status := Option.some.inj hsame
        rw [hset]

theorem sameMembers_throughParcel (r : AppAccountRecord) : SameMembers r (throughParcel r) :=
  ⟨rfl, rfl, rfl, rfl, rfl, rfl, rfl, rfl⟩

theorem sameMembers_throughJson (r : AppAccountRecord) : SameMembers r (throughJson r) :=
  ⟨rfl, rfl, rfl, rfl, rfl, rfl, rfl, rfl⟩

@[simp]
theorem getElem?_throughParcel (r : AppAccountRecord) (authType : String) :
    (throughParcel r).oauthTokens[authType]? = r.oauthTokens[authType]?.map (parcelled authType) := by
  unfold throughParcel
  rw [getElem?_sweep, Option.map_eq_bind]
  rfl

@[simp]
theorem getElem?_throughJson (r : AppAccountRecord) (authType : String) :
    (throughJson r).oauthTokens[authType]? = r.oauthTokens[authType]?.bind (documented authType) :=
  getElem?_sweep ..

theorem documented_of_not_dropped {tokenInfo : OAuthTokenInfo} (hr : r.oauthTokens[authType]? = some tokenInfo)
    (h : ¬Dropped (r.info parse) authType) : documented authType tokenInfo = some { tokenInfo with authType } := by
  refine if_neg fun hdrop => ?_
  rw [Bool.and_eq_true, Bool.not_eq_true'] at hdrop
  exact h ⟨tokenInfo, hr, hdrop⟩

/-- A record is written to a parcel and to a document, and what is read back has the same members and tells the
readers of its tokens the same. Of a parcel a token comes back as one that is set; in a document a token that is not
set and that nobody may see is left out. -/
theorem appAccountInfo_codecs {P : Type} {parcel : Parcel P} {contents : P → List ParcelItem}
    (h : parcel.InOrder contents) (build : AssetStore.Build) (subspace : Bool) (parse : String → Option Json)
    (r : AppAccountRecord) (hr : Reachable build subspace (r.info parse)) :
    (parcel.Roomy → ∀ p, ((marshalling parcel r).run p).isSome) ∧
    (∀ p p', contents p = [] → (marshalling parcel r).run p = some ((), p') →
      ∃ r' p'', (unmarshalling parcel).run p' = some (r', p'') ∧ SameMembers r r' ∧ ∀ authType,
        SameReaders (r.info parse) (r'.info parse) authType ∧ ∀ apiVersion,
          (apiVersion < apiVersion9 ∨
            ∀ tokenInfo, r.oauthTokens[authType]? = some tokenInfo → tokenInfo.status = true) →
            (r'.info parse).getOAuthToken authType apiVersion = (r.info parse).getOAuthToken authType apiVersion) ∧
    ∃ r', fromJson (toJson r) {} = some r' ∧ SameMembers r r' ∧ ∀ authType,
      (Dropped (r.info parse) authType → r'.oauthTokens[authType]? = none) ∧
      (¬Dropped (r.info parse) authType → SameReaders (r.info parse) (r'.info parse) authType ∧ ∀ apiVersion,
        (r'.info parse).getOAuthToken authType apiVersion = (r.info parse).getOAuthToken authType apiVersion) := by
  have hbounded : Bounded (r.info parse) := hr.bounded build subspace
  refine ⟨fun hroomy p => succeeds_marshalling hroomy r p, ?_, ?_⟩
  · intro p p' hempty hwrite
    have hcontents := appends_marshalling h r p p' hwrite
    rw [hempty, List.nil_append, ← List.append_nil (items r)] at hcontents
    obtain ⟨p'', hread, -⟩ := takes_unmarshalling h hbounded p' [] hcontents
    refine ⟨throughParcel r, p'', hread, sameMembers_throughParcel r, fun authType => ⟨?_, ?_⟩⟩
    · refine sameReaders_of_lists (sameMembers_throughParcel r) ?_
      rw [getElem?_throughParcel, Option.map_map]
      rfl
    · intro apiVersion hstatus
      refine getOAuthToken_eq ?_ (hstatus.imp_right fun hset => ?_)
      · rw [getElem?_throughParcel, Option.map_map]
        rfl
      · rw [getElem?_throughParcel, Option.map_map]
        refine Option.map_congr fun tokenInfo hfound => ?_
        exact (hset tokenInfo hfound).symm
  · refine ⟨throughJson r, fromJson_toJson hbounded.tokens, sameMembers_throughJson r,
      fun authType => ⟨?_, ?_⟩⟩
    · rintro ⟨tokenInfo, hfound, hstatus, hlist⟩
      have hr : r.oauthTokens[authType]? = some tokenInfo := hfound
      rw [getElem?_throughJson, hr, Option.bind_some, documented, hstatus, hlist]
      rfl
    · intro hkept
      have hsame {γ : Type} (f : OAuthTokenInfo → γ)
        (hf : ∀ tokenInfo, f { tokenInfo with authType } = f tokenInfo) :
          (throughJson r).oauthTokens[authType]?.map f = r.oauthTokens[authType]?.map f := by
        rw [getElem?_throughJson]
        cases hfound : r.oauthTokens[authType]? with
        | none => rfl
        | some tokenInfo =>
            rw [Option.bind_some, documented_of_not_dropped hfound hkept]
            exact congrArg some (hf tokenInfo)
      refine ⟨sameReaders_of_lists (sameMembers_throughJson r) (hsame _ fun _ => rfl), fun apiVersion => ?_⟩
      exact getOAuthToken_eq (hsame _ fun _ => rfl) (.inr (hsame _ fun _ => rfl))

end observers

section examples

def itemList : Parcel (List ParcelItem) where
  writeString s := fun q => some ((), q ++ [.string s])
  writeBool b := fun q => some ((), q ++ [.bool b])
  writeUint32 n := fun q => some ((), q ++ [.uint32 n])
  readString := fun
    | .string s :: rest => some (s, rest)
    | _ => none
  readBool := fun
    | .bool b :: rest => some (b, rest)
    | _ => none
  readUint32 := fun
    | .uint32 n :: rest => some (n, rest)
    | _ => none

theorem inOrder_itemList : itemList.InOrder id := by
  constructor
  case writeString | writeBool | writeUint32 =>
    intro x q q' h
    cases h
    rfl
  case readString | readBool | readUint32 =>
    intro x q rest h
    exact ⟨rest, by rw [id_eq] at h; rw [h]; rfl, rfl⟩

theorem roomy_itemList : itemList.Roomy := ⟨fun _ _ => rfl, fun _ _ => rfl, fun _ _ => rfl⟩

def noText (_ : String) : Option Json := none

def withToken (tokenInfo : OAuthTokenInfo) : AppAccountRecord where
  owner := "com.example.mail"
  name := "alice"
  oauthTokens := (∅ : ExtTreeMap String OAuthTokenInfo).insert "login" tokenInfo

theorem reachable_withToken (token : String) :
    Reachable .plain false ((withToken { token, status := token != "" }).info noText) :=
  ⟨"com.example.mail", "alice", 0, [.setOAuthToken "login" token], rfl⟩

theorem appAccountInfo_codecs_alice :
    (∃ p' r' p'', (marshalling itemList (withToken { token := "key" })).run [] = some ((), p') ∧
      (unmarshalling itemList).run p' = some (r', p'') ∧
      (r'.info noText).getOAuthToken "login" apiVersion9 = .ok "key") ∧
    ∃ r', fromJson (toJson (withToken { token := "key" })) {} = some r' ∧
      (r'.info noText).getOAuthToken "login" apiVersion9 = .ok "key" := by
  have hcodecs := appAccountInfo_codecs inOrder_itemList .plain false noText (withToken { token := "key" })
    (reachable_withToken "key")
  have hset : (withToken { token := "key" }).oauthTokens["login"]? = some { token := "key" } :=
    ExtTreeMap.getElem?_insert_self
  have htoken : ((withToken { token := "key" }).info noText).getOAuthToken "login" apiVersion9 = .ok "key" := by
    unfold getOAuthToken AppAccountRecord.info
    dsimp only
    rw [hset]
    rfl
  constructor
  · obtain ⟨⟨⟨⟩, p'⟩, hwrite⟩ := Option.isSome_iff_exists.mp (hcodecs.1 roomy_itemList [])
    obtain ⟨r', p'', hread, -, hsame⟩ := hcodecs.2.1 [] p' rfl hwrite
    refine ⟨p', r', p'', hwrite, hread, ?_⟩
    rw [(hsame "login").2 apiVersion9 (.inr fun tokenInfo hfound => ?_), htoken]
    cases hset.symm.trans hfound
    rfl
  · obtain ⟨r', hread, -, hsame⟩ := hcodecs.2.2
    refine ⟨r', hread, ?_⟩
    rw [((hsame "login").2 ?_).2 apiVersion9, htoken]
    rintro ⟨tokenInfo, hfound, hstatus, -⟩
    cases hset.symm.trans hfound
    cases hstatus

/-- A token that was set to the empty text has an empty list, which is not there any more after a document. -/
theorem not_appAccountInfo_codecs_empty :
    ¬∀ r : AppAccountRecord, Reachable .plain false (r.info noText) → ∃ r', fromJson (toJson r) {} = some r' ∧
      ∀ authType apiVersion,
        (r'.info noText).getOAuthList authType apiVersion = (r.info noText).getOAuthList authType apiVersion := by
  intro h
  obtain ⟨r', hread, hsame⟩ := h (withToken { token := "", status := false }) (reachable_withToken "")
  have hfound : (withToken { token := "", status := false }).oauthTokens["login"]? =
      some { token := "", status := false } := ExtTreeMap.getElem?_insert_self
  have hdropped : (throughJson (withToken { token := "", status := false })).oauthTokens["login"]? = none := by
    rw [getElem?_throughJson, hfound, Option.bind_some]
    exact if_pos ExtTreeSet.isEmpty_empty
  have hsize : (withToken { token := "", status := false }).oauthTokens.size ≤ maxTokenNumber :=
    ((reachable_withToken "").bounded .plain false).tokens
  rw [fromJson_toJson hsize] at hread
  cases hread
  have hlist := hsame "login" apiVersion9
  unfold getOAuthList AppAccountRecord.info at hlist
  dsimp only at hlist
  rw [hdropped, hfound] at hlist
  cases hlist

end examples

end OsAccount.AppAccountCodecs
