import OsAccount.Fields
import OsAccount.CText
import Std.Data.ExtTreeSet

namespace OsAccount

inductive Json
  | null
  | bool (b : Bool)
  | num (n : Int)
  | str (s : String)
  | arr (items : List Json)
  | obj (fields : List (String × Json))
deriving Repr

namespace JsonUtils

open Fields CText

def fields : Json → List (String × Json)
  | .obj l => l
  | _ => []

/-- The item under a key; the empty key is refused before the lookup. The key is a
name that the service has in its code, in a document or in a number: there is no
NUL in it. -/
def getItemFromJson (j : Json) (key : String) : Option Json :=
  if key = "" then none else find key (fields j)

def isKeyExist (j : Json) (key : String) : Bool := (getItemFromJson j key).isSome

/-- The item under a key that somebody else chose. The library is handed the C
string of it, while the test for emptiness is one of the whole key. -/
def getItemByText (j : Json) (key : String) : Option Json :=
  if key = "" then none else find (cStr key) (fields j)

def isKeyExistByText (j : Json) (key : String) : Bool := (getItemByText j key).isSome

def stringValue? : Json → Option String
  | .str s => some s
  | _ => none

def strings : Option Json → List String
  | some (.arr items) => items.filterMap stringValue?
  | _ => []

def getVectorStringFromJson (j : Json) (key : String) : List String := strings (getItemFromJson j key)

/-- As `getVectorStringFromJson`, with the information whether there is an array. -/
def getVectorStringFromJson? (j : Json) (key : String) : Option (List String) :=
  match getItemFromJson j key with
  | some (.arr items) => some (items.filterMap stringValue?)
  | _ => none

def getObjFromJson (j : Json) (key : String) : Option Json :=
  match getItemFromJson j key with
  | some (.obj l) => some (.obj l)
  | _ => none

def intValue? (bits : Nat) : Option Json → Option Int
  | some (.num n) => some n
  | some (.str s) => Decimal.parseSigned bits s
  | _ => none

def getIntFromJson (j : Json) (key : String) : Option Int := intValue? 32 (getItemFromJson j key)

def getInt64FromJson (j : Json) (key : String) : Option Int := intValue? 64 (getItemFromJson j key)

def getBoolFromJson (j : Json) (key : String) : Option Bool :=
  match getItemFromJson j key with
  | some (.bool b) => some b
  | _ => none

def getStringFromJson (j : Json) (key : String) : Option String := (getItemByText j key).bind stringValue?

def getJsonArrayFromJson (j : Json) (key : String) : Option (List Json) :=
  match getItemFromJson j key with
  | some (.arr items) => some items
  | _ => none

def getSetStringFromJson (j : Json) (key : String) (setData : Std.ExtTreeSet String) : Std.ExtTreeSet String :=
  match getJsonArrayFromJson j key with
  | some items => (items.filterMap stringValue?).foldl (fun setData element => setData.insert element) setData
  | none => setData

def getUint32FromJson (j : Json) (key : String) : Option UInt32 :=
  (getIntFromJson j key).map fun value => UInt32.ofNat (value % 2 ^ 32).toNat

def byteValue? : Json → Option UInt8
  | .num n => some (UInt8.ofNat (n % 256).toNat)
  | _ => none

def getVectorUint8FromJson (j : Json) (key : String) : List UInt8 :=
  ((getJsonArrayFromJson j key).getD []).filterMap byteValue?

def isObject : Json → Bool
  | .obj _ => true
  | _ => false

def getVectorStringByText (j : Json) (key : String) : List String := strings (getItemByText j key)

/-- Set a field of an object. On anything else, and for the empty key, nothing
is stored. -/
def setItem (j : Json) (key : String) (value : Json) : Json :=
  match j with
  | .obj l => if key = "" then j else .obj (set key value l)
  | _ => j

def setItemByText (j : Json) (key : String) (value : Json) : Json :=
  match j with
  | .obj l => if key = "" then j else .obj (set (cStr key) value l)
  | _ => j

def addObjToJson (j : Json) (key : String) (childObj : Json) : Json := setItem j key childObj

def addVectorStringToJson (j : Json) (key : String) (vec : List String) : Json :=
  setItem j key (.arr (vec.map .str))

/-- As `addVectorStringToJson`, under a key that somebody else chose. -/
def addVectorStringByText (j : Json) (key : String) (vec : List String) : Json :=
  setItemByText j key (.arr (vec.map .str))

def addSetStringToJson (j : Json) (key : String) (setData : Std.ExtTreeSet String) : Json :=
  setItem j key (.arr (setData.toList.map .str))

def addIntToJson (j : Json) (key : String) (value : Int) : Json := setItem j key (.num value)

def addStringToJson (j : Json) (key value : String) : Json := setItemByText j key (.str (cStr value))

/-- As `addStringToJson`, of a text without NUL under a key of the service. -/
def addTextToJson (j : Json) (key value : String) : Json := setItem j key (.str value)

def addInt64ToJson (j : Json) (key : String) (value : Int) : Json := addStringToJson j key (toString value)

def addBoolToJson (j : Json) (key : String) (value : Bool) : Json := setItem j key (.bool value)

def addVectorUint8ToJson (j : Json) (key : String) (vec : List UInt8) : Json :=
  setItem j key (.arr (vec.map fun b => .num b.toNat))

def createJson : Json := .obj []

def deleteItemFromJson (j : Json) (key : String) : Json :=
  match j with
  | .obj l => if key = "" then j else .obj (delete key l)
  | _ => j

def deleteItemByText (j : Json) (key : String) : Json :=
  match j with
  | .obj l => if key = "" then j else .obj (delete (cStr key) l)
  | _ => j

def IsRecord : Json → Prop
  | .obj l => (keys l).Nodup
  | _ => False

section record

variable {j : Json} {key key' : String}

theorem isRecord_setItem (h : IsRecord j) (key : String) (value : Json) : IsRecord (setItem j key value) := by
  cases j with
  | obj l =>
      by_cases hk : key = ""
      · simpa [setItem, hk] using h
      · simpa [setItem, hk, IsRecord] using nodup_set h
  | _ => cases h

theorem getItem_setItem_of_isObject (h : isObject j = true) (hk : key ≠ "") (value : Json) (key' : String) :
    getItemFromJson (setItem j key value) key' = if key = key' then some value else getItemFromJson j key' := by
  cases j with
  | obj l =>
      by_cases hk' : key' = ""
      · subst hk'
        simp [getItemFromJson, hk]
      · simp [getItemFromJson, setItem, hk, hk', fields, find_set]
  | _ => cases h

theorem getItem_setItem (h : IsRecord j) (hk : key ≠ "") (value : Json) (key' : String) :
    getItemFromJson (setItem j key value) key' = if key = key' then some value else getItemFromJson j key' := by
  cases j with
  | obj l => exact getItem_setItem_of_isObject rfl hk value key'
  | _ => cases h

theorem getItemByText_setItemByText (h : isObject j = true) (hk : key ≠ "") (value : Json) (key' : String) :
    getItemByText (setItemByText j key value) key' =
      if cStr key = cStr key' ∧ key' ≠ "" then some value else getItemByText j key' := by
  cases j with
  | obj l =>
      by_cases hk' : key' = ""
      · subst hk'
        simp [getItemByText]
      · simp [getItemByText, setItemByText, hk, hk', fields, find_set]
  | _ => cases h

def SameKey (key key' : String) : Prop := cStr key = cStr key' ∧ key ≠ "" ∧ key' ≠ ""

instance (key key' : String) : Decidable (SameKey key key') := inferInstanceAs (Decidable (_ ∧ _))

theorem sameKey_self (hk : key ≠ "") : SameKey key key := ⟨rfl, hk, hk⟩

theorem sameKey_iff (hk : NoNul key) (hk' : NoNul key') : SameKey key key' ↔ key = key' ∧ key ≠ "" := by
  rw [SameKey, hk.cStr, hk'.cStr]
  constructor
  · exact fun h => ⟨h.1, h.2.1⟩
  · rintro ⟨rfl, hne⟩
    exact ⟨rfl, hne, hne⟩

theorem getVectorStringByText_set (h : IsRecord j) (key : String) (value : Json) (key' : String) :
    getVectorStringByText (setItemByText j key value) key' =
      if SameKey key key' then strings (some value) else getVectorStringByText j key' := by
  cases j with
  | obj l =>
      by_cases hk : key = ""
      · rw [if_neg fun hsame => hsame.2.1 hk, setItemByText, if_pos hk]
      · rw [getVectorStringByText, getItemByText_setItemByText rfl hk]
        by_cases hsame : cStr key = cStr key' ∧ key' ≠ ""
        · rw [if_pos hsame, if_pos ⟨hsame.1, hk, hsame.2⟩]
        · rw [if_neg hsame, if_neg fun hand => hsame ⟨hand.1, hand.2.2⟩]
          rfl
  | _ => cases h

theorem isRecord_deleteItem (h : IsRecord j) (key : String) : IsRecord (deleteItemFromJson j key) := by
  cases j with
  | obj l =>
      by_cases hk : key = ""
      · simpa [deleteItemFromJson, hk] using h
      · simpa [deleteItemFromJson, hk, IsRecord] using nodup_delete h
  | _ => cases h

theorem getItem_deleteItem (h : IsRecord j) (key key' : String) :
    getItemFromJson (deleteItemFromJson j key) key' = if key = key' then none else getItemFromJson j key' := by
  cases j with
  | obj l =>
      by_cases hk : key = ""
      · by_cases hk' : key = key'
        · simp [getItemFromJson, hk, ← hk']
        · simp [deleteItemFromJson, hk, hk ▸ hk']
      · by_cases hk' : key' = ""
        · subst hk'
          simp [getItemFromJson, hk]
        · simp [getItemFromJson, deleteItemFromJson, hk, hk', fields, find_delete h]
  | _ => cases h

theorem getItemByText_eq (hkey : NoNul key) (j : Json) : getItemByText j key = getItemFromJson j key := by
  rw [getItemByText, hkey.cStr, getItemFromJson]

theorem setItemByText_eq (hkey : NoNul key) (j value : Json) : setItemByText j key value = setItem j key value := by
  cases j <;> simp [setItemByText, setItem, hkey.cStr]

theorem deleteItemByText_eq (hkey : NoNul key) (j : Json) : deleteItemByText j key = deleteItemFromJson j key := by
  cases j <;> simp [deleteItemByText, deleteItemFromJson, hkey.cStr]

theorem getStringFromJson_eq (hkey : NoNul key) (j : Json) :
    getStringFromJson j key = (getItemFromJson j key).bind stringValue? := by
  rw [getStringFromJson, getItemByText_eq hkey]

theorem addStringToJson_eq (hkey : NoNul key) (j : Json) (value : String) :
    addStringToJson j key value = setItem j key (.str (cStr value)) := setItemByText_eq hkey j _

theorem addInt64ToJson_eq (hkey : NoNul key) (j : Json) (value : Int) :
    addInt64ToJson j key value = setItem j key (.str (toString value)) := by
  rw [addInt64ToJson, addStringToJson_eq hkey, (noNul_toString value).cStr]

theorem isRecord_setItemByText (h : IsRecord j) (key : String) (value : Json) :
    IsRecord (setItemByText j key value) := by
  cases j with
  | obj l =>
      by_cases hk : key = ""
      · simpa [setItemByText, hk] using h
      · simpa [setItemByText, hk, IsRecord] using nodup_set h
  | _ => cases h

theorem strings_arr (vec : List String) : strings (some (.arr (vec.map .str))) = vec := by
  simp [strings, List.filterMap_map, Function.comp_def, stringValue?]

end record

end JsonUtils

end OsAccount
