import OsAccount.Decimal
import OsAccount.ErrCode
import OsAccount.OrderedMap

namespace OsAccount.PosixMap

open Std

abbrev PosixDataMap := ExtTreeMap Int String compare

def accountPosixMapDelimiter : Char := ':'

def getAccountNameByLocalId (m : PosixDataMap) (localId : Int) : Option String := m[localId]?

def getLocalIdByAccountName (m : PosixDataMap) (accountName : String) : Option Int :=
  (m.toList.find? fun each => each.2 = accountName).map Prod.fst

def deleteByLocalId (m : PosixDataMap) (localId : Int) : PosixDataMap := m.erase localId

def modifyByLocalId (m : PosixDataMap) (localId : Int) (accountName : String) : PosixDataMap :=
  m.insert localId accountName

def line (each : Int × String) : List Char :=
  (toString each.1).toList ++ accountPosixMapDelimiter :: each.2.toList

def toText (m : PosixDataMap) : String := String.ofList (m.toList.flatMap fun each => line each ++ ['\n'])

/-- The lines that `std::getline` finds, after the characters in `cur`. -/
def getlines (cur : List Char) : List Char → List (List Char)
  | [] => if cur = [] then [] else [cur]
  | c :: l => if c = '\n' then cur :: getlines [] l else getlines (cur ++ [c]) l

def addLine (dataMap : PosixDataMap) (l : List Char) : Except ErrCode PosixDataMap :=
  match l.dropWhile (· ≠ accountPosixMapDelimiter) with
  | [] => .ok dataMap
  | _ :: name =>
      match Decimal.fromChars 32 (l.takeWhile (· ≠ accountPosixMapDelimiter)) with
      | none => .error .invalidParameter
      | some localId => .ok (dataMap.insert localId (String.ofList name))

def fromString (dataStr : String) : Except ErrCode PosixDataMap := (getlines [] dataStr.toList).foldlM addLine ∅

def Printable (m : PosixDataMap) : Prop :=
  ∀ (localId : Int) (name : String), m[localId]? = some name → Decimal.Fits 32 localId ∧ '\n' ∉ name.toList

section roundTrip

theorem getlines_append {l : List Char} (hl : '\n' ∉ l) (cur rest : List Char) :
    getlines cur (l ++ '\n' :: rest) = (cur ++ l) :: getlines [] rest := by
  induction l generalizing cur with
  | nil => simp [getlines]
  | cons c l ih =>
      rw [List.mem_cons, not_or] at hl
      rw [List.cons_append, getlines, if_neg (Ne.symm hl.1), ih hl.2]
      simp

theorem getlines_flatMap (l : List (List Char)) (hl : ∀ x ∈ l, '\n' ∉ x) :
    getlines [] (l.flatMap (· ++ ['\n'])) = l := by
  induction l with
  | nil => rfl
  | cons x l ih =>
      rw [List.flatMap_cons, List.append_assoc, List.singleton_append,
        getlines_append (hl x List.mem_cons_self),
        ih fun y hy => hl y (List.mem_cons_of_mem x hy), List.nil_append]

theorem newline_notMem_line {each : Int × String} (h : '\n' ∉ each.2.toList) : '\n' ∉ line each := by
  rw [line, List.mem_append, List.mem_cons, not_or, not_or]
  exact ⟨Decimal.notMem_toString (by decide) (by decide) each.1, by decide, h⟩

theorem addLine_line (dataMap : PosixDataMap) {each : Int × String} (h : Decimal.Fits 32 each.1) :
    addLine dataMap (line each) = .ok (dataMap.insert each.1 each.2) := by
  have hnot (c : Char) (hc : c ∈ (toString each.1).toList) : decide
      (c ≠ accountPosixMapDelimiter) = true := by
    rw [decide_eq_true_iff]
    rintro rfl
    exact Decimal.notMem_toString (by decide) (by decide) each.1 hc
  have hread := Decimal.fromChars_toString_append h (l := []) rfl
  rw [List.append_nil] at hread
  rw [addLine, line, List.dropWhile_append_of_pos hnot, List.takeWhile_append_of_pos hnot,
    List.dropWhile_cons_of_neg (by simp), List.takeWhile_cons_of_neg (by simp), List.append_nil]
  simp only [hread, String.ofList_toList]

theorem foldlM_addLine (l : List (Int × String)) (hl : ∀ each ∈ l, Decimal.Fits 32 each.1) (dataMap : PosixDataMap) :
    (l.map line).foldlM addLine dataMap = .ok (l.foldl (fun m each => m.insert each.1 each.2) dataMap) := by
  induction l generalizing dataMap with
  | nil => rfl
  | cons each l ih =>
      rw [List.map_cons, List.foldlM_cons, addLine_line dataMap (hl each List.mem_cons_self)]
      exact ih (fun e he => hl e (List.mem_cons_of_mem each he)) _

theorem foldl_insert_toList (m : PosixDataMap) : m.toList.foldl (fun m each => m.insert each.1 each.2) ∅ = m := by
  have hsweep : m.toList.foldl (fun m each => m.insert each.1 each.2) ∅ =
      OrderedMap.sweep (fun _ name => some name) m := rfl
  rw [hsweep]
  apply ExtTreeMap.ext_getElem?
  intro localId
  rw [OrderedMap.getElem?_sweep]
  exact Option.bind_fun_some _

theorem printable_of_mem_toList {m : PosixDataMap} (h : Printable m) {each : Int × String} (he : each ∈ m.toList) :
    Decimal.Fits 32 each.1 ∧ '\n' ∉ each.2.toList :=
  h each.1 each.2 (ExtTreeMap.mem_toList_iff_getElem?_eq_some.1 he)

theorem fromString_toText {m : PosixDataMap} (h : Printable m) : fromString (toText m) = .ok m := by
  have hlines : getlines [] (m.toList.flatMap fun each => line each ++ ['\n']) = m.toList.map line := by
    rw [← getlines_flatMap (m.toList.map line), List.flatMap_map]
    intro x hx
    obtain ⟨each, he, rfl⟩ := List.mem_map.1 hx
    exact newline_notMem_line (printable_of_mem_toList h he).2
  rw [fromString, toText, String.toList_ofList, hlines,
    foldlM_addLine m.toList (fun each he => (printable_of_mem_toList h he).1), foldl_insert_toList]

end roundTrip

end OsAccount.PosixMap
