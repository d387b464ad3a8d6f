import OsAccount.PosixGroups

namespace OsAccount.PosixMapText

open Std PosixMap
open PosixGroups (isNameChar checkAccountNameValid)

def assign (m : PosixDataMap) (dataStr : String) : Ret × PosixDataMap :=
  match fromString dataStr with
  | .error e => (.error e, m)
  | .ok dataMap => (.ok (), dataMap)

def textOf (entries : List (Int × String)) : String :=
  String.ofList (entries.flatMap fun each => line each ++ ['\n'])

def Valid (each : Int × String) : Prop := Decimal.Fits 32 each.1 ∧ checkAccountNameValid each.2 = true

theorem newline_notMem {name : String} (h : checkAccountNameValid name = true) : '\n' ∉ name.toList := by
  rw [checkAccountNameValid, Bool.and_eq_true, List.all_eq_true] at h
  intro hnewline
  exact absurd (h.2 '\n' hnewline) (by decide)

theorem fromString_textOf {entries : List (Int × String)} (h : ∀ each ∈ entries, Valid each) :
    fromString (textOf entries) = .ok (entries.foldl (fun m each => m.insert each.1 each.2) ∅) := by
  have hlines : getlines [] (entries.flatMap fun each => line each ++ ['\n']) = entries.map line := by
    rw [← getlines_flatMap (entries.map line), List.flatMap_map]
    intro x hx
    obtain ⟨each, he, rfl⟩ := List.mem_map.mp hx
    exact newline_notMem_line (newline_notMem (h each he).2)
  rw [fromString, textOf, String.toList_ofList, hlines, foldlM_addLine entries fun each he => (h each he).1]

theorem assign_toText (old : PosixDataMap) {m : PosixDataMap}
    (h : ∀ localId name, m[localId]? = some name → Valid (localId, name)) : assign old (toText m) = (.ok (), m) := by
  have hprintable : Printable m := fun localId name hname =>
    ⟨(h localId name hname).1, newline_notMem (h localId name hname).2⟩
  rw [assign, fromString_toText hprintable]

theorem assign_error {old : PosixDataMap} {dataStr : String} {e : ErrCode} (h : (assign old dataStr).1 = .error e) :
    (assign old dataStr).2 = old := by
  rw [assign] at h ⊢
  cases hread : fromString dataStr with
  | error e' => rfl
  | ok dataMap =>
      rw [hread] at h
      cases h

theorem toText_assign (old : PosixDataMap) {entries : List (Int × String)} (h : ∀ each ∈ entries, Valid each)
    (hsorted : entries.Pairwise fun a b => a.1 < b.1) : toText (assign old (textOf entries)).2 = textOf entries := by
  have hordered : entries.Pairwise fun a b => compare a.1 b.1 = .lt :=
    hsorted.imp fun hlt => Std.compare_eq_lt.mpr hlt
  rw [assign, fromString_textOf h]
  dsimp only
  rw [toText, OrderedMap.toList_foldl_insert hordered]
  rfl

/-- The text of a map and the map determine each other, and what cannot be read changes nothing. -/
theorem posixDataMap_codec :
    (∀ old m : PosixDataMap, (∀ localId name, m[localId]? = some name → Valid (localId, name)) →
      assign old (toText m) = (.ok (), m)) ∧
    (∀ (old : PosixDataMap) (dataStr : String) (e : ErrCode), (assign old dataStr).1 = .error e →
      (assign old dataStr).2 = old) ∧
    ∀ (old : PosixDataMap) (entries : List (Int × String)), (∀ each ∈ entries, Valid each) →
      (entries.Pairwise fun a b => a.1 < b.1) →
        (assign old (textOf entries)).1 = .ok () ∧ toText (assign old (textOf entries)).2 = textOf entries := by
  refine ⟨fun old m h => assign_toText old h, fun old dataStr e => assign_error,
    fun old entries h hsorted => ⟨?_, ?_⟩⟩
  · rw [assign, fromString_textOf h]
  · exact toText_assign old h hsorted

/-- A map, a text with a number that does not fit, and two lines. -/
theorem posixDataMap_codec_alice :
    assign ∅ (toText ((∅ : PosixDataMap).insert 100 "alice")) = (.ok (), (∅ : PosixDataMap).insert 100 "alice") ∧
      (assign ((∅ : PosixDataMap).insert 100 "alice") "9999999999:bob\n").2 =
        (∅ : PosixDataMap).insert 100 "alice" ∧
      toText (assign ∅ (textOf [(100, "alice"), (101, "bob")])).2 = textOf [(100, "alice"), (101, "bob")] := by
  refine ⟨posixDataMap_codec.1 _ _ fun localId name hname => ?_,
    posixDataMap_codec.2.1 _ _ .invalidParameter ?_,
    (posixDataMap_codec.2.2 _ _ ?_ ?_).2⟩
  · rw [OrderedMap.getElem?_insert_eq] at hname
    split at hname
    · rename_i heq
      cases hname
      rw [← heq]
      exact ⟨by decide, by decide⟩
    · rw [ExtTreeMap.getElem?_empty] at hname
      cases hname
  · decide +kernel
  · intro each heach
    simp only [List.mem_cons, List.not_mem_nil, or_false] at heach
    rcases heach with rfl | rfl <;> exact ⟨by decide, by decide⟩
  · decide

end OsAccount.PosixMapText
