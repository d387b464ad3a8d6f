import OsAccount.AccountList
import OsAccount.OrderedMap

namespace OsAccount.DefaultActivatedIds

open Decimal Std AccountList JsonUtils

/-- The conversion of the C library: a number that does not fit is the greatest one, and a minus sign
negates modulo `2 ^ 64`. -/
def strtoull (s : String) : Option UInt64 :=
  (parse s).map fun n => if n.natAbs < 2 ^ 64 then UInt64.ofInt n else UInt64.ofNat (2 ^ 64 - 1)

def int32Value? : Json → Option Int
  | .num n => if Fits 32 n then some n else none
  | _ => none

def addUint64Int32 (mapData : ExtTreeMap UInt64 Int) (item : String × Json) : ExtTreeMap UInt64 Int :=
  match strtoull item.1, int32Value? item.2 with
  | some key, some value => mapData.insert key value
  | _, _ => mapData

def packJsonToMapUint64Int32 (j : Json) : ExtTreeMap UInt64 Int := (fields j).foldl addUint64Int32 ∅

def getDefaultActivatedOsAccount (displayId : UInt64) (id : Int) (j : Json) : Except ErrCode Int :=
  match getObjFromJson j defaultActivatedAccountId with
  | none =>
      if displayId.toNat ≠ defaultDisplayId then .error .displayIdNotExistError
      else .ok ((getIntFromJson j defaultActivatedAccountId).getD id)
  | some ids =>
      match getIntFromJson ids (toString displayId.toNat) with
      | none => .error .displayIdNotExistError
      | some id => .ok id

def getAllDefaultActivatedOsAccounts (j : Json) : Except ErrCode (ExtTreeMap UInt64 Int) :=
  match getObjFromJson j defaultActivatedAccountId with
  | none =>
      match getIntFromJson j defaultActivatedAccountId with
      | none => .error .badJsonFormatError
      | some tmpId => .ok ((∅ : ExtTreeMap UInt64 Int).insert (UInt64.ofNat defaultDisplayId) tmpId)
  | some ids => .ok (packJsonToMapUint64Int32 ids)

def setAll (sets : List (UInt64 × Int32)) (j : Json) : Except ErrCode Json :=
  sets.foldlM (fun j call => setDefaultActivatedOsAccount call.1.toNat call.2.toInt j) j

/-- The entry of a display in either format: the one number of the older lists is that of the default display. -/
def entry (j : Json) (displayId : UInt64) : Option Int :=
  match getObjFromJson j defaultActivatedAccountId with
  | some ids => getIntFromJson ids (toString displayId.toNat)
  | none => if displayId.toNat = defaultDisplayId then getIntFromJson j defaultActivatedAccountId else none

def HasIds (j : Json) : Prop :=
  getObjFromJson j defaultActivatedAccountId ≠ none ∨ getIntFromJson j defaultActivatedAccountId ≠ none

structure IsEntries (ids : Json) : Prop where
  record : IsRecord ids
  entries : ∀ item ∈ fields ids, ∃ displayId : UInt64, ∃ id : Int,
    Fits 32 id ∧ item = (toString displayId.toNat, .num id)

structure Readable (j : Json) : Prop where
  number : getObjFromJson j defaultActivatedAccountId = none →
    ∀ id, getIntFromJson j defaultActivatedAccountId = some id → Fits 32 id
  object : ∀ ids, getObjFromJson j defaultActivatedAccountId = some ids → IsEntries ids

def lastSet (sets : List (UInt64 × Int32)) (displayId : UInt64) : Option Int :=
  (sets.reverse.find? fun call => call.1 = displayId).map fun call => call.2.toInt

/-- The reader of one display gives what was set last, or else the entry that the list had, and all other fields
are as they were. -/
structure SetsEntries (j : Json) (sets : List (UInt64 × Int32)) (j' : Json) : Prop where
  get : ∀ d id, getDefaultActivatedOsAccount d id j' =
    match (lastSet sets d).or (entry j d) with
    | some id => .ok id
    | none => .error .displayIdNotExistError
  others : ∀ key, key ≠ defaultActivatedAccountId → getItemFromJson j' key = getItemFromJson j key

def ReadersAgree (j : Json) : Prop :=
  ∃ ids, getAllDefaultActivatedOsAccounts j = .ok ids ∧
    ∀ d id, ids[d]? = (getDefaultActivatedOsAccount d id j).toOption

section entries

variable {j ids : Json} {displayId d : UInt64} {id : Int}

theorem isObject_of_hasIds (h : HasIds j) : isObject j = true := by
  cases j with
  | obj l => rfl
  | _ => rcases h with h | h <;> exact (h rfl).elim

theorem getObj_eq_some (h : getObjFromJson j defaultActivatedAccountId = some ids) :
    isObject ids = true ∧ getItemFromJson j defaultActivatedAccountId = some ids := by
  unfold getObjFromJson at h
  split at h
  · rename_i l hitem
    cases h
    exact ⟨rfl, hitem⟩
  · cases h

theorem getObj_addObj (hj : isObject j = true) (hids : isObject ids = true) :
    getObjFromJson (addObjToJson j defaultActivatedAccountId ids) defaultActivatedAccountId = some ids := by
  rw [getObjFromJson, addObjToJson, getItem_setItem_of_isObject hj (by decide), if_pos rfl]
  cases ids with
  | obj l => rfl
  | _ => cases hids

theorem isObject_addInt (hids : isObject ids = true) (key : String) (value : Int) :
    isObject (addIntToJson ids key value) = true := by
  cases ids with
  | obj l =>
      rw [addIntToJson, setItem]
      split <;> rfl
  | _ => cases hids

theorem toString_nat_ne_empty (n : Nat) : toString n ≠ "" := toString_ne_empty (n : Int)

theorem toString_toNat_inj : toString displayId.toNat = toString d.toNat ↔ displayId = d := by
  constructor
  · intro h
    have hint : toString (displayId.toNat : Int) = toString (d.toNat : Int) := h
    exact UInt64.toNat_inj.mp (Int.ofNat_inj.mp (toString_injective hint))
  · rintro rfl
    rfl

theorem getInt_addInt (hids : isObject ids = true) :
    getIntFromJson (addIntToJson ids (toString displayId.toNat) id) (toString d.toNat) =
      if displayId = d then some id else getIntFromJson ids (toString d.toNat) := by
  rw [getIntFromJson, addIntToJson, getItem_setItem_of_isObject hids (toString_nat_ne_empty _)]
  simp only [toString_toNat_inj]
  split <;> rfl

theorem get_eq_entry (h : HasIds j) :
    getDefaultActivatedOsAccount displayId id j =
      match entry j displayId with
      | some id => .ok id
      | none => .error .displayIdNotExistError := by
  rw [getDefaultActivatedOsAccount, entry]
  cases hobj : getObjFromJson j defaultActivatedAccountId with
  | some ids =>
      dsimp only
      cases getIntFromJson ids (toString displayId.toNat) <;> rfl
  | none =>
      dsimp only
      by_cases hd : displayId.toNat = defaultDisplayId
      · obtain ⟨n, hn⟩ := Option.ne_none_iff_exists'.mp (h.resolve_left (not_not_intro hobj))
        rw [if_neg (not_not_intro hd), if_pos hd, hn]
        rfl
      · rw [if_pos hd, if_neg hd]

end entries

section sets

variable {j ids : Json} {displayId d : UInt64} {id : Int}

structure IsSet (j : Json) (displayId : UInt64) (id : Int) (j' : Json) : Prop where
  hasIds : HasIds j'
  entry : ∀ d, entry j' d = if displayId = d then some id else entry j d
  others : ∀ key, key ≠ defaultActivatedAccountId → getItemFromJson j' key = getItemFromJson j key
  readable : Readable j → Readable j'

theorem isEntries_createJson : IsEntries createJson := ⟨List.nodup_nil, fun _ h => (List.not_mem_nil h).elim⟩

theorem IsEntries.addInt (h : IsEntries ids) (hid : Fits 32 id) :
    IsEntries (addIntToJson ids (toString displayId.toNat) id) := by
  refine ⟨isRecord_setItem h.record _ _, fun item hitem => ?_⟩
  cases ids with
  | obj l =>
      rw [addIntToJson, setItem, if_neg (toString_nat_ne_empty _)] at hitem
      rcases Fields.mem_set hitem with rfl | hitem
      · exact ⟨displayId, id, hid, rfl⟩
      · exact h.entries item hitem
  | _ => exact h.record.elim

theorem isSet_addObj (hj : isObject j = true) (hids : isObject ids = true)
    (hentry : ∀ d : UInt64, getIntFromJson ids (toString d.toNat) = if displayId = d then some id else entry j d)
    (hreadable : Readable j → IsEntries ids) :
    IsSet j displayId id (addObjToJson j defaultActivatedAccountId ids) := by
  have hobj := getObj_addObj hj hids
  refine ⟨.inl (by simp [hobj]), fun d => ?_, fun key hkey => ?_, fun hj => ⟨?_, ?_⟩⟩
  · rw [entry, hobj]
    exact hentry d
  · rw [addObjToJson, getItem_setItem_of_isObject hj (by decide), if_neg hkey.symm]
  · intro hnone
    rw [hobj] at hnone
    cases hnone
  · intro ids' hids'
    rw [hobj] at hids'
    cases hids'
    exact hreadable hj

theorem isSet_object (hobj : getObjFromJson j defaultActivatedAccountId = some ids) (hid : Fits 32 id) :
    IsSet j displayId id
      (addObjToJson j defaultActivatedAccountId (addIntToJson ids (toString displayId.toNat) id)) := by
  have hids := (getObj_eq_some hobj).1
  refine isSet_addObj (isObject_of_hasIds (.inl (by simp [hobj]))) (isObject_addInt hids _ _)
    (fun d => ?_) fun h => ?_
  · rw [getInt_addInt hids, entry, hobj]
  · exact (h.object ids hobj).addInt hid

/-- The entry of the default display is taken over from a list with one number, unless it is the one to be set. -/
theorem isSet_number {tmpId : Int} (hobj : getObjFromJson j defaultActivatedAccountId = none)
    (hnumber : getIntFromJson j defaultActivatedAccountId = some tmpId) (hid : Fits 32 id) :
    IsSet j displayId id (addObjToJson j defaultActivatedAccountId (addIntToJson
      (if displayId.toNat ≠ defaultDisplayId then addIntToJson createJson (toString defaultDisplayId) tmpId
        else createJson) (toString displayId.toNat) id)) := by
  have hnone (d : UInt64) : getIntFromJson createJson (toString d.toNat) = none := by
    simp [getIntFromJson, getItemFromJson, createJson, fields, Fields.find, intValue?]
  have hzero (d : UInt64) : (0 : UInt64) = d ↔ d.toNat = defaultDisplayId := by
    rw [← UInt64.toNat_inj, eq_comm]
    rfl
  have hj := isObject_of_hasIds (j := j) (.inr (by simp [hnumber]))
  have hdefault (value : Int) : addIntToJson createJson (toString defaultDisplayId) value =
      addIntToJson createJson (toString (0 : UInt64).toNat) value := rfl
  by_cases hd : displayId.toNat = defaultDisplayId
  · rw [if_neg (not_not_intro hd)]
    refine isSet_addObj hj (isObject_addInt rfl _ _) (fun d => ?_) fun _ => isEntries_createJson.addInt hid
    rw [getInt_addInt rfl, entry, hobj, hnone]
    by_cases hdd : displayId = d
    · rw [if_pos hdd, if_pos hdd]
    · have hne : ¬d.toNat = defaultDisplayId := fun h => hdd (UInt64.toNat_inj.mp (hd.trans h.symm))
      rw [if_neg hdd, if_neg hdd]
      exact (if_neg hne).symm
  · rw [if_pos hd, hdefault]
    refine isSet_addObj hj (isObject_addInt (isObject_addInt rfl _ _) _ _) (fun d => ?_) fun h => ?_
    · rw [getInt_addInt (isObject_addInt rfl _ _), getInt_addInt rfl, entry, hobj, hnone, hnumber]
      simp only [hzero]
    · exact (isEntries_createJson.addInt (h.number hobj tmpId hnumber)).addInt hid

theorem fits_toInt (n : Int32) : Fits 32 n.toInt := ⟨n.le_toInt, n.toInt_lt⟩

theorem set_isSet (h : HasIds j) (displayId : UInt64) (id : Int32) :
    ∃ j', setDefaultActivatedOsAccount displayId.toNat id.toInt j = .ok j' ∧ IsSet j displayId id.toInt j' := by
  unfold setDefaultActivatedOsAccount
  cases hobj : getObjFromJson j defaultActivatedAccountId with
  | some ids => exact ⟨_, rfl, isSet_object hobj (fits_toInt id)⟩
  | none =>
      obtain ⟨tmpId, hnumber⟩ := Option.ne_none_iff_exists'.mp (h.resolve_left (not_not_intro hobj))
      rw [hnumber]
      exact ⟨_, rfl, isSet_number hobj hnumber (fits_toInt id)⟩

theorem lastSet_cons (call : UInt64 × Int32) (sets : List (UInt64 × Int32)) (d : UInt64) :
    lastSet (call :: sets) d = (lastSet sets d).or (if call.1 = d then some call.2.toInt else none) := by
  rw [lastSet, List.reverse_cons, List.find?_append, Option.map_or]
  by_cases hd : call.1 = d
  · rw [List.find?_cons_of_pos (by simpa using hd), if_pos hd]
    rfl
  · rw [List.find?_cons_of_neg (by simpa using hd), if_neg hd]
    rfl

structure AreSet (j : Json) (sets : List (UInt64 × Int32)) (j' : Json) : Prop where
  hasIds : HasIds j'
  entry : ∀ d, entry j' d = (lastSet sets d).or (entry j d)
  others : ∀ key, key ≠ defaultActivatedAccountId → getItemFromJson j' key = getItemFromJson j key
  readable : Readable j → Readable j'

theorem setAll_areSet (h : HasIds j) (sets : List (UInt64 × Int32)) :
    ∃ j', setAll sets j = .ok j' ∧ AreSet j sets j' := by
  induction sets generalizing j with
  | nil => exact ⟨j, rfl, h, fun _ => rfl, fun _ _ => rfl, id⟩
  | cons call sets ih =>
      obtain ⟨j₁, hcall, hset⟩ := set_isSet h call.1 call.2
      obtain ⟨j', hrun, hsets⟩ := ih hset.hasIds
      refine ⟨j', ?_, hsets.hasIds, fun d => ?_, fun key hkey => ?_,
        fun hj => hsets.readable (hset.readable hj)⟩
      · rw [setAll, List.foldlM_cons, hcall]
        exact hrun
      · rw [hsets.entry, lastSet_cons, hset.entry, Option.or_assoc]
        split <;> rfl
      · rw [hsets.others key hkey, hset.others key hkey]

end sets

section readers

variable {j ids : Json} {d : UInt64}

theorem strtoull_toString (d : UInt64) : strtoull (toString d.toNat) = some d := by
  have hparse : parse (toString d.toNat) = some (d.toNat : Int) := parse_repr_nat d.toNat
  have hfits : (d.toNat : Int).natAbs < 2 ^ 64 := d.toNat_lt
  have hmod : (d.toNat : Int) % 2 ^ 64 = d.toNat :=
    Int.emod_eq_of_lt (Int.natCast_nonneg _) (by exact_mod_cast d.toNat_lt)
  rw [strtoull, hparse, Option.map_some, if_pos hfits, UInt64.ofInt, hmod, Int.toNat_natCast,
    UInt64.ofNat_toNat]

theorem addUint64Int32_entry (mapData : ExtTreeMap UInt64 Int) (displayId : UInt64) {id : Int}
    (hid : Fits 32 id) :
    addUint64Int32 mapData (toString displayId.toNat, .num id) = mapData.insert displayId id := by
  simp only [addUint64Int32, strtoull_toString, int32Value?, if_pos hid]

theorem getElem?_foldl_addUint64Int32 {l : List (String × Json)} (hkeys : (Fields.keys l).Nodup)
    (hentries : ∀ item ∈ l, ∃ displayId : UInt64, ∃ id : Int,
      Fits 32 id ∧ item = (toString displayId.toNat, .num id)) (acc : ExtTreeMap UInt64 Int) :
    (l.foldl addUint64Int32 acc)[d]? = (intValue? 32 (Fields.find (toString d.toNat) l)).or acc[d]? := by
  induction l generalizing acc with
  | nil => rfl
  | cons item l ih =>
      obtain ⟨displayId, id, hid, rfl⟩ := hentries item List.mem_cons_self
      rw [Fields.keys_cons, List.nodup_cons] at hkeys
      rw [List.foldl_cons, ih hkeys.2 fun item hitem => hentries item (List.mem_cons_of_mem _ hitem),
        addUint64Int32_entry acc displayId hid, OrderedMap.getElem?_insert_eq, Fields.find]
      simp only [toString_toNat_inj]
      by_cases hd : displayId = d
      · subst hd
        rw [Fields.find_eq_none.mpr hkeys.1, if_pos rfl, if_pos rfl]
        rfl
      · rw [if_neg hd, if_neg hd]

theorem getElem?_packJsonToMapUint64Int32 (h : IsEntries ids) :
    (packJsonToMapUint64Int32 ids)[d]? = getIntFromJson ids (toString d.toNat) := by
  cases ids with
  | obj l =>
      rw [packJsonToMapUint64Int32, fields, getElem?_foldl_addUint64Int32 h.record h.entries, getIntFromJson,
        getItemFromJson, if_neg (toString_nat_ne_empty _)]
      simp [fields]
  | _ => exact h.record.elim

theorem getAll_eq_entry (h : HasIds j) (hreadable : Readable j) :
    ∃ ids, getAllDefaultActivatedOsAccounts j = .ok ids ∧ ∀ d : UInt64, ids[d]? = entry j d := by
  unfold getAllDefaultActivatedOsAccounts entry
  cases hobj : getObjFromJson j defaultActivatedAccountId with
  | some ids => exact ⟨_, rfl, fun d => getElem?_packJsonToMapUint64Int32 (hreadable.object ids hobj)⟩
  | none =>
      obtain ⟨tmpId, hnumber⟩ := Option.ne_none_iff_exists'.mp (h.resolve_left (not_not_intro hobj))
      rw [hnumber]
      refine ⟨_, rfl, fun d => ?_⟩
      have hzero : UInt64.ofNat defaultDisplayId = d ↔ d.toNat = defaultDisplayId := by
        rw [← UInt64.toNat_inj, eq_comm]
        rfl
      rw [OrderedMap.getElem?_insert_eq]
      simp [hzero]

/-- In either format every sequence of calls sets the entries of its displays and nothing else, and the reader of all
displays agrees with that of one, if what the list had were entries of displays. -/
theorem activated_ids_map (sets : List (UInt64 × Int32)) (h : HasIds j) :
    ∃ j', setAll sets j = .ok j' ∧ SetsEntries j sets j' ∧ (Readable j → ReadersAgree j') := by
  obtain ⟨j', hrun, hsets⟩ := setAll_areSet h sets
  refine ⟨j', hrun, ⟨fun d id => ?_, hsets.others⟩, fun hj => ?_⟩
  · rw [get_eq_entry hsets.hasIds, hsets.entry]
  · obtain ⟨ids, hids, hentries⟩ := getAll_eq_entry hsets.hasIds (hsets.readable hj)
    refine ⟨ids, hids, fun d id => ?_⟩
    rw [hentries, get_eq_entry hsets.hasIds]
    cases entry j' d <;> rfl

def olderList : Json := .obj [(accountList, .arr [.str "100"]), (defaultActivatedAccountId, .num 100)]

theorem readable_olderList : Readable olderList where
  number _ id hid := by
    have hnumber : getIntFromJson olderList defaultActivatedAccountId = some 100 := by decide
    rw [hnumber, Option.some.injEq] at hid
    subst hid
    decide
  object ids hids := by
    have hobj : getObjFromJson olderList defaultActivatedAccountId = none := by decide
    rw [hobj] at hids
    cases hids

theorem activated_ids_olderList :
    ∃ j', setAll [(1, 101)] olderList = .ok j' ∧ SetsEntries olderList [(1, 101)] j' ∧ ReadersAgree j' := by
  obtain ⟨j', hrun, hsets, hagree⟩ := activated_ids_map [(1, 101)] (j := olderList) (.inr (by decide))
  exact ⟨j', hrun, hsets, hagree readable_olderList⟩

/-- A key that the service does not write: only the reader of all displays takes it for a display. -/
def paddedKey : Json := .obj [(defaultActivatedAccountId, .obj [("05", .num 100)])]

theorem not_map_paddedKey :
    HasIds paddedKey ∧ ¬∃ j', setAll [] paddedKey = .ok j' ∧ SetsEntries paddedKey [] j' ∧ ReadersAgree j' := by
  refine ⟨.inl ?_, ?_⟩
  · simp [paddedKey, getObjFromJson, getItemFromJson, fields, Fields.find, defaultActivatedAccountId]
  · rintro ⟨j', hrun, -, ids, hids, hagree⟩
    cases hrun
    cases hids
    have hfive := hagree 5 0
    revert hfive
    decide

end readers

end OsAccount.DefaultActivatedIds
