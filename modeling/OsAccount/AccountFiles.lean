import OsAccount.AccountList
import OsAccount.OrderedMap
import OsAccount.Machine

namespace OsAccount.AccountFiles

open Std JsonUtils AccountList

/-- The account list, and the directories of the accounts: each with the serial
number that its account file holds, if the file is there. -/
structure Files where
  list : Json
  directories : ExtTreeMap Int (Option Int) compare

def Files.serialNumber? (s : Files) (id : Int) : Option Int := s.directories[id]?.join

/-- The serial numbers that `GetOsAccountList` finds. `strToInt` is the
conversion of the system's string library. -/
def getOsAccountList (strToInt : String → Option Int) (s : Files) : List Int :=
  (getVectorStringFromJson s.list accountList).filterMap fun idStr => (strToInt idStr).bind s.serialNumber?

/-- What the file system answers: about the list, and about the file or the
directory of an account. After an error the directory may be there without its
file. -/
structure WriteAnswer where
  readList : Ret
  saveList : Ret
  account : Ret
  emptied : Bool

def WriteAnswer.allOk : WriteAnswer := ⟨.ok (), .ok (), .ok (), false⟩

def saveAccountList (a : WriteAnswer) (idStr : String) (isAdd : Bool) (j : Json) : Except ErrCode Json := do
  a.readList
  match updateAccountList idStr isAdd j with
  | .fail e => .error e
  | .keep => pure j
  | .write j' => do
      a.saveList
      pure j'

def insertOsAccount (a : WriteAnswer) (localId serialNumber : Int) (s : Files) : Ret × Files :=
  if localId < adminLocalId then (.error .idCannotCreateError, s)
  else if (s.serialNumber? localId).isSome then (.error .insertFileExistsError, s)
  else
    match if localId ≥ startUserId then saveAccountList a (toString localId) true s.list else .ok s.list with
    | .error e => (.error e, s)
    | .ok list =>
        match a.account with
        | .error e => (.error e, ⟨list, if a.emptied then s.directories.insert localId none else s.directories⟩)
        | .ok () => (.ok (), ⟨list, s.directories.insert localId (some serialNumber)⟩)

def delOsAccount (a : WriteAnswer) (id : Int) (s : Files) : Ret × Files :=
  if id ≤ startUserId ∨ id > maxUserId then (.error .cannotDeleteIdError, s)
  else
    match a.account with
    | .error e =>
        let emptied := a.emptied && s.directories.contains id
        (.error e, { s with directories := if emptied then s.directories.insert id none else s.directories })
    | .ok () =>
        let s := { s with directories := s.directories.erase id }
        match saveAccountList a (toString id) false s.list with
        | .error e => (.error e, s)
        | .ok list => (.ok (), { s with list })

structure View (n : Int) (full : Bool) (ids : List Int) (j : Json) : Prop where
  record : IsRecord j
  serialNumber : getInt64FromJson j serialNumberNum = some n
  full : getBoolFromJson j isSerialNumberFull = some full
  ids : getVectorStringFromJson j accountList = ids.map toString

section view

variable {n : Int} {full : Bool} {ids : List Int} {j : Json}

theorem fits_of_le_carryNum (hlo : 1 ≤ n) (hhi : n ≤ carryNum) : Decimal.Fits 64 n := by
  simp only [Decimal.Fits, carryNum] at *
  omega

theorem intValue?_text (hn : Decimal.Fits 64 n) : intValue? 64 (some (.str (toString n))) = some n :=
  Decimal.parseSigned_toString hn

theorem view_buildAccountListJson (ids : List Int) : View 1 false ids (buildAccountListJson (ids.map toString)) where
  record := by
    simp (disch := decide) only [buildAccountListJson, addIntToJson, addBoolToJson, addInt64ToJson_eq, addObjToJson,
      addVectorStringToJson]
    repeat apply isRecord_setItem
    exact List.nodup_nil
  serialNumber := by
    refine Eq.trans ?_ (intValue?_text (n := 1) (by decide))
    rfl
  full := rfl
  ids := strings_arr (ids.map toString)

theorem View.setItem (h : View n full ids j) {key : String} (hkey : key ≠ "") (hs : key ≠ serialNumberNum)
    (hf : key ≠ isSerialNumberFull) (hl : key ≠ accountList) (value : Json) : View n full ids (setItem j key value) := by
  have hget := getItem_setItem h.record hkey value
  refine ⟨isRecord_setItem h.record key value, ?_, ?_, ?_⟩
  · rw [getInt64FromJson, hget, if_neg hs]
    exact h.serialNumber
  · rw [getBoolFromJson, hget, if_neg hf]
    exact h.full
  · rw [getVectorStringFromJson, hget, if_neg hl]
    exact h.ids

theorem View.setIds (h : View n full ids j) (ids' : List Int) :
    View n full ids' (addVectorStringToJson j accountList (ids'.map toString)) := by
  have hget := getItem_setItem h.record (by decide : accountList ≠ "") (.arr ((ids'.map toString).map .str))
  refine ⟨isRecord_setItem h.record _ _, ?_, ?_, ?_⟩
  · rw [getInt64FromJson, addVectorStringToJson, hget, if_neg (by decide)]
    exact h.serialNumber
  · rw [getBoolFromJson, addVectorStringToJson, hget, if_neg (by decide)]
    exact h.full
  · rw [getVectorStringFromJson, addVectorStringToJson, hget, if_pos rfl, strings_arr]

theorem View.setSerialNumber (h : View n full ids j) {m : Int} (hm : Decimal.Fits 64 m) :
    View m full ids (addInt64ToJson j serialNumberNum m) := by
  have hget := getItem_setItem h.record (by decide : serialNumberNum ≠ "") (.str (toString m))
  refine ⟨isRecord_setItem h.record _ _, ?_, ?_, ?_⟩
  · rw [getInt64FromJson, addInt64ToJson_eq (by decide), hget, if_pos rfl]
    exact intValue?_text hm
  · rw [getBoolFromJson, addInt64ToJson_eq (by decide), hget, if_neg (by decide)]
    exact h.full
  · rw [getVectorStringFromJson, addInt64ToJson_eq (by decide), hget, if_neg (by decide)]
    exact h.ids

theorem View.setFull (h : View n full ids j) : View n true ids (addBoolToJson j isSerialNumberFull true) := by
  have hget := getItem_setItem h.record (by decide : isSerialNumberFull ≠ "") (.bool true)
  refine ⟨isRecord_setItem h.record _ _, ?_, ?_, ?_⟩
  · rw [getInt64FromJson, addBoolToJson, hget, if_neg (by decide)]
    exact h.serialNumber
  · rw [getBoolFromJson, addBoolToJson, hget, if_pos rfl]
  · rw [getVectorStringFromJson, addBoolToJson, hget, if_neg (by decide)]
    exact h.ids

theorem mem_map_toString {id : Int} : toString id ∈ ids.map toString ↔ id ∈ ids := by
  rw [List.mem_map]
  constructor
  · rintro ⟨id', hid', he⟩
    rwa [← Decimal.toString_injective he]
  · exact fun hid => ⟨id, hid, rfl⟩

def listed (ids : List Int) (id : Int) (isAdd : Bool) : List Int :=
  if isAdd then if id ∈ ids then ids else ids ++ [id] else ids.filter (· ≠ id)

theorem saveAccountList_eq_ok {a : WriteAnswer} {idStr : String} {isAdd : Bool} {j' : Json}
    (h : saveAccountList a idStr isAdd j = .ok j') :
    updateAccountList idStr isAdd j = .keep ∧ j' = j ∨ updateAccountList idStr isAdd j = .write j' := by
  obtain ⟨readList, saveList, _, _⟩ := a
  simp only [saveAccountList] at h
  cases readList with
  | error e => cases h
  | ok _ =>
      cases hupdate : updateAccountList idStr isAdd j with
      | fail e =>
          rw [hupdate] at h
          cases h
      | keep =>
          rw [hupdate] at h
          cases h
          exact .inl ⟨rfl, rfl⟩
      | write j₁ =>
          rw [hupdate] at h
          cases saveList with
          | error e => cases h
          | ok _ =>
              cases h
              exact .inr rfl

theorem View.saveAccountList (h : View n full ids j) (id : Int) (isAdd : Bool) {a : WriteAnswer} {j' : Json}
    (hsave : saveAccountList a (toString id) isAdd j = .ok j') : View n full (listed ids id isAdd) j' := by
  have hcount (ids' : List Int) : View n full ids' (addIntToJson (addVectorStringToJson j accountList
      (ids'.map toString)) countAccountNum (ids'.map toString).length) :=
    (h.setIds ids').setItem (by decide) (by decide) (by decide) (by decide) _
  have hupdate := saveAccountList_eq_ok hsave
  simp only [updateAccountList, h.ids, mem_map_toString] at hupdate
  cases isAdd with
  | true =>
      by_cases hmem : id ∈ ids
      · simp only [hmem, if_true] at hupdate
        obtain ⟨-, rfl⟩ | hupdate := hupdate
        · simpa [listed, hmem] using h
        · cases hupdate
      · simp only [hmem, if_true, if_false] at hupdate
        obtain ⟨hkeep, -⟩ | hwrite := hupdate
        · cases hkeep
        · cases hwrite
          have := hcount (ids ++ [id])
          simpa only [listed, hmem, if_true, if_false, List.map_append, List.map_cons,
            List.map_nil] using this
  | false =>
      have hfilter : (ids.map toString).filter (· ≠ toString id) = (ids.filter (· ≠ id)).map toString := by
        rw [List.filter_map]
        congr 1
        refine List.filter_congr fun id' _ => ?_
        have : toString id' = toString id ↔ id' = id := ⟨Decimal.toString_injective, fun he => he ▸ rfl⟩
        simp only [Function.comp_apply, ne_eq, this]
      simp only [Bool.false_eq_true, if_false, hfilter] at hupdate
      obtain ⟨hkeep, -⟩ | hwrite := hupdate
      · cases hkeep
      · cases hwrite
        exact hcount (ids.filter (· ≠ id))

theorem mem_listed {id id' : Int} {isAdd : Bool} :
    id' ∈ listed ids id isAdd ↔ if isAdd then id' ∈ ids ∨ id' = id else id' ∈ ids ∧ id' ≠ id := by
  cases isAdd with
  | true =>
      by_cases hmem : id ∈ ids
      · simp only [listed, hmem, if_true]
        exact ⟨.inl, fun h => h.elim (fun h => h) fun he => he ▸ hmem⟩
      · simp [listed, hmem]
  | false => simp [listed]

theorem nodup_listed {id : Int} {isAdd : Bool} (h : ids.Nodup) : (listed ids id isAdd).Nodup := by
  cases isAdd with
  | true =>
      by_cases hmem : id ∈ ids
      · simpa [listed, hmem] using h
      · simpa [listed, hmem, List.nodup_append] using ⟨h, fun a ha he => hmem (he ▸ ha)⟩
  | false => exact h.filter _

/-- The ids in the list after the insertion of an account. Those below
`startUserId` are not listed. -/
def enlisted (ids : List Int) (id : Int) : List Int := if startUserId ≤ id then listed ids id true else ids

theorem mem_enlisted {id id' : Int} : id' ∈ enlisted ids id ↔ id' ∈ ids ∨ id' = id ∧ startUserId ≤ id := by
  by_cases hid : startUserId ≤ id
  · simp [enlisted, hid, mem_listed]
  · simp [enlisted, hid]

theorem nodup_enlisted {id : Int} (h : ids.Nodup) : (enlisted ids id).Nodup := by
  rw [enlisted]
  split_ifs
  · exact nodup_listed h
  · exact h

end view

section operations

variable {n : Int} {full : Bool} {ids : List Int} {s : Files}

theorem serialNumber?_insert (list : Json) (id : Int) (d : Option Int) (id' : Int) :
    Files.serialNumber? ⟨list, s.directories.insert id d⟩ id' = if id = id' then d else s.serialNumber? id' := by
  rw [Files.serialNumber?, OrderedMap.getElem?_insert_eq]
  split_ifs
  · rfl
  · rfl

theorem serialNumber?_erase (list : Json) (id id' : Int) :
    Files.serialNumber? ⟨list, s.directories.erase id⟩ id' = if id = id' then none else s.serialNumber? id' := by
  rw [Files.serialNumber?, OrderedMap.getElem?_erase_eq]
  split_ifs
  · rfl
  · rfl

theorem serialNumber?_singleton (list : Json) (id v id' : Int) :
    Files.serialNumber? ⟨list, (∅ : ExtTreeMap Int (Option Int) compare).insert id (some v)⟩ id' =
      if id = id' then some v else none := by
  have hinsert := serialNumber?_insert (s := ⟨list, ∅⟩) list id (some v) id'
  simpa [Files.serialNumber?] using hinsert

theorem mem_directories_of_serialNumber? {id v : Int} (h : s.serialNumber? id = some v) : id ∈ s.directories := by
  rw [Files.serialNumber?, Option.join_eq_some_iff] at h
  rw [← ExtTreeMap.isSome_getElem?_iff_mem, h]
  rfl

variable {strToInt : String → Option Int}

theorem getOsAccountList_eq (h : View n full ids s.list) (hstr : ∀ id ∈ ids, strToInt (toString id) = some id) :
    getOsAccountList strToInt s = ids.filterMap s.serialNumber? := by
  rw [getOsAccountList, h.ids, List.filterMap_map]
  refine List.filterMap_congr fun id hid => ?_
  rw [Function.comp_apply, hstr id hid, Option.bind_some]

theorem length_getOsAccountList_le (h : View n full ids s.list)
    (hstr : ∀ id ∈ ids, strToInt (toString id) = some id) (hids : ids.Nodup) :
    (getOsAccountList strToInt s).length ≤ s.directories.size := by
  have hlength : (getOsAccountList strToInt s).length =
      (ids.filter fun id => (s.serialNumber? id).isSome).length := by
    rw [getOsAccountList_eq h hstr, List.length_filterMap_eq_countP, List.countP_eq_length_filter]
  have hsub : (ids.filter fun id => (s.serialNumber? id).isSome) ⊆ s.directories.keys := by
    intro id hid
    obtain ⟨v, hv⟩ := Option.isSome_iff_exists.1 (List.mem_filter.1 hid).2
    exact ExtTreeMap.mem_keys.2 (mem_directories_of_serialNumber? hv)
  rw [hlength, ← ExtTreeMap.length_keys]
  exact ((hids.filter _).subperm hsub).length_le

theorem insertOsAccount_cases (h : View n full ids s.list) (a : WriteAnswer) (localId serialNumber : Int) :
    (insertOsAccount a localId serialNumber s).2 = s ∨
      adminLocalId ≤ localId ∧ s.serialNumber? localId = none ∧
        ∃ list, View n full (enlisted ids localId) list ∧
          ((insertOsAccount a localId serialNumber s).2 = ⟨list, s.directories⟩ ∨
            ∃ d, (d = none ∨ d = some serialNumber) ∧
              (insertOsAccount a localId serialNumber s).2 = ⟨list, s.directories.insert localId d⟩) := by
  have hview {list : Json} (hlist : (if localId ≥ startUserId then saveAccountList a
    (toString localId) true s.list
      else .ok s.list) = .ok list) :
      View n full (enlisted ids localId) list := by
    by_cases hlisted : startUserId ≤ localId
    · rw [if_pos hlisted] at hlist
      rw [enlisted, if_pos hlisted]
      exact h.saveAccountList localId true hlist
    · rw [if_neg hlisted] at hlist
      rw [enlisted, if_neg hlisted]
      cases hlist
      exact h
  by_cases hlow : localId < adminLocalId
  · exact .inl (by simp only [insertOsAccount, hlow, if_true])
  by_cases hexists : (s.serialNumber? localId).isSome
  · exact .inl (by simp only [insertOsAccount, hlow, hexists, if_true, if_false])
  simp only [insertOsAccount, hlow, hexists, if_false]
  cases hlist : (if localId ≥ startUserId then saveAccountList a
    (toString localId) true s.list else .ok s.list) with
  | error e => exact .inl rfl
  | ok list =>
      refine .inr ⟨Int.not_lt.1 hlow, by simpa using hexists, list, hview hlist, ?_⟩
      cases a.account with
      | error e =>
          cases a.emptied with
          | false => exact .inl rfl
          | true => exact .inr ⟨none, .inl rfl, rfl⟩
      | ok _ => exact .inr ⟨some serialNumber, .inr rfl, rfl⟩

theorem saveAccountList_allOk (idStr : String) (isAdd : Bool) (j : Json) :
    ∃ j', saveAccountList .allOk idStr isAdd j = .ok j' := by
  cases isAdd with
  | true =>
      by_cases hmem : idStr ∈ getVectorStringFromJson j accountList
      · exact ⟨j, by simp only [saveAccountList, updateAccountList, hmem, if_true]; rfl⟩
      · exact ⟨_, by simp only [saveAccountList, updateAccountList, hmem, if_true, if_false]; rfl⟩
  | false => exact ⟨_, rfl⟩

theorem insertOsAccount_allOk (h : View n full ids s.list) {localId : Int} (hid : adminLocalId ≤ localId)
    (hnew : s.serialNumber? localId = none) (serialNumber : Int) :
    ∃ list, View n full (enlisted ids localId) list ∧
      insertOsAccount .allOk localId serialNumber s =
        (.ok (), ⟨list, s.directories.insert localId (some serialNumber)⟩) := by
  have hstart : insertOsAccount .allOk localId serialNumber s =
      match if localId ≥ startUserId then saveAccountList .allOk
        (toString localId) true s.list else .ok s.list with
      | .error e => (.error e, s)
      | .ok list => (.ok (), ⟨list, s.directories.insert localId (some serialNumber)⟩) := by
    simp only [insertOsAccount, Int.not_lt.2 hid, hnew, Option.isSome_none, Bool.false_eq_true, if_false]
    rfl
  by_cases hlisted : startUserId ≤ localId
  · obtain ⟨list, hsave⟩ := saveAccountList_allOk (toString localId) true s.list
    refine ⟨list, ?_, by rw [hstart, if_pos hlisted, hsave]⟩
    rw [enlisted, if_pos hlisted]
    exact h.saveAccountList localId true hsave
  · refine ⟨s.list, ?_, by rw [hstart, if_neg hlisted]⟩
    rw [enlisted, if_neg hlisted]
    exact h

theorem delOsAccount_allOk (h : View n full ids s.list) {id : Int} (hlo : startUserId < id) (hhi : id ≤ maxUserId) :
    ∃ list, View n full (listed ids id false) list ∧
      delOsAccount .allOk id s = (.ok (), ⟨list, s.directories.erase id⟩) := by
  obtain ⟨list, hsave⟩ := saveAccountList_allOk (toString id) false s.list
  have hid : ¬(id ≤ startUserId ∨ id > maxUserId) := by omega
  refine ⟨list, h.saveAccountList id false hsave, ?_⟩
  simp only [delOsAccount, hid, if_false]
  rw [show WriteAnswer.allOk.account = .ok () from rfl]
  simp only [hsave]

theorem delOsAccount_cases (h : View n full ids s.list) (a : WriteAnswer) (id : Int) :
    (delOsAccount a id s).2 = s ∨
      startUserId < id ∧
        (id ∈ s.directories ∧ (delOsAccount a id s).2 = { s with directories := s.directories.insert id none } ∨
          ∃ ids' list, (ids' = ids ∨ ids' = listed ids id false) ∧ View n full ids' list ∧
            (delOsAccount a id s).2 = ⟨list, s.directories.erase id⟩) := by
  by_cases hid : id ≤ startUserId ∨ id > maxUserId
  · exact .inl (by simp only [delOsAccount, hid, if_true])
  have hlow : startUserId < id := Int.not_le.1 fun hle => hid (.inl hle)
  simp only [delOsAccount, hid, if_false]
  cases a.account with
  | error e =>
      by_cases hemptied : a.emptied && s.directories.contains id
      · refine .inr ⟨hlow, .inl ⟨?_, by simp only [hemptied, if_true]⟩⟩
        rw [Bool.and_eq_true, ExtTreeMap.contains_iff_mem] at hemptied
        exact hemptied.2
      · exact .inl (by simp only [hemptied]; rfl)
  | ok _ =>
      refine .inr ⟨hlow, .inr ?_⟩
      cases hsave : saveAccountList a (toString id) false s.list with
      | error e => exact ⟨ids, s.list, .inl rfl, h, rfl⟩
      | ok list => exact ⟨_, list, .inr rfl, h.saveAccountList id false hsave, rfl⟩

end operations

end OsAccount.AccountFiles
