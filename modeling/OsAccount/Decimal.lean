import Mathlib.Algebra.Group.Nat.Defs
import Mathlib.Algebra.Ring.Int.Defs
import Mathlib.Data.List.Basic

namespace OsAccount.Decimal

/-- The white space of the C locale, which the `strtol` family skips. -/
def isSpace (c : Char) : Bool := c ∈ [' ', '\t', '\n', '\x0b', '\x0c', '\r']

def parseDigits (l : List Char) : Option Nat :=
  if l ≠ [] ∧ l.all Char.isDigit then some (Nat.ofDigitChars 10 l 0) else none

/-- A decimal number that takes up the whole text, as `strtoll` converts it. -/
def parse (s : String) : Option Int :=
  match s.toList.dropWhile isSpace with
  | '-' :: l => (parseDigits l).map fun n => -(n : Int)
  | '+' :: l => (parseDigits l).map Int.ofNat
  | l => (parseDigits l).map Int.ofNat

def Fits (bits : Nat) (n : Int) : Prop := -2 ^ (bits - 1) ≤ n ∧ n < 2 ^ (bits - 1)

instance (bits : Nat) (n : Int) : Decidable (Fits bits n) := inferInstanceAs (Decidable (_ ∧ _))

def parseSigned (bits : Nat) (s : String) : Option Int := (parse s).filter fun n => Fits bits n

/-- The number at the start of a text, as `std::from_chars` reads it: what comes
after the digits is ignored. -/
def fromChars (bits : Nat) (l : List Char) : Option Int :=
  let value? (l : List Char) : Option Nat := parseDigits (l.takeWhile Char.isDigit)
  let n? : Option Int :=
    match l with
    | '-' :: l => (value? l).map fun n => -(n : Int)
    | l => (value? l).map Int.ofNat
  n?.filter fun n => Fits bits n

/-- The number at the start of a text, as `std::from_chars` reads an unsigned one, and what comes after its digits. -/
def fromCharsUnsigned (bits : Nat) (l : List Char) : Except Nat (Nat × List Char) :=
  match parseDigits (l.takeWhile Char.isDigit) with
  | none => .error 22 -- EINVAL
  | some n => if n < 2 ^ bits then .ok (n, l.dropWhile Char.isDigit) else .error 34 -- ERANGE

theorem not_isSpace_of_isDigit {c : Char} (h : c.isDigit) : isSpace c = false := by
  rw [isSpace, decide_eq_false_iff_not]
  intro hc
  simp only [List.mem_cons, List.not_mem_nil, or_false] at hc
  rcases hc with rfl | rfl | rfl | rfl | rfl | rfl <;> revert h <;> decide

theorem parseDigits_toDigits (n : Nat) : parseDigits (Nat.toDigits 10 n) = some n := by
  have hall : (Nat.toDigits 10 n).all Char.isDigit :=
    List.all_eq_true.2 fun c hc => Nat.isDigit_of_mem_toDigits (by omega) (by omega) hc
  rw [parseDigits, if_pos ⟨Nat.toDigits_ne_nil, hall⟩, Nat.ofDigitChars_ten_toDigits]

theorem parse_repr_nat (n : Nat) : parse n.repr = some n := by
  have hdigit {c : Char} (hc : c ∈ Nat.toDigits 10 n) : c.isDigit :=
    Nat.isDigit_of_mem_toDigits (by omega) (by omega) hc
  have hparse := parseDigits_toDigits n
  rw [parse, Nat.toList_repr]
  cases hl : Nat.toDigits 10 n with
  | nil => exact absurd hl Nat.toDigits_ne_nil
  | cons c l =>
      rw [hl] at hparse hdigit
      have hc : c.isDigit := hdigit (List.mem_cons_self ..)
      rw [List.dropWhile_cons_of_neg (by simp [not_isSpace_of_isDigit hc])]
      split
      · rename_i h
        rw [(List.cons.inj h).1] at hc
        exact absurd hc (by decide)
      · rename_i h
        rw [(List.cons.inj h).1] at hc
        exact absurd hc (by decide)
      · rw [hparse]
        rfl

theorem toList_toString_neg (n : Nat) :
    (toString (Int.negSucc n)).toList = '-' :: Nat.toDigits 10 (n + 1) := by
  change ("-" ++ (n + 1).repr).toList = _
  rw [String.toList_append, Nat.toList_repr]
  rfl

theorem notMem_toString {c : Char} (hdigit : c.isDigit = false) (hminus : c ≠ '-') (n : Int) :
    c ∉ (toString n).toList := by
  have hnot (k : Nat) : c ∉ Nat.toDigits 10 k := fun h => by
    simp [Nat.isDigit_of_mem_toDigits (by omega) (by omega) h] at hdigit
  cases n with
  | ofNat n =>
      change c ∉ n.repr.toList
      rw [Nat.toList_repr]
      exact hnot n
  | negSucc n =>
      rw [toList_toString_neg, List.mem_cons, not_or]
      exact ⟨hminus, hnot (n + 1)⟩

theorem parse_toString (n : Int) : parse (toString n) = some n := by
  cases n with
  | ofNat n => exact parse_repr_nat n
  | negSucc n =>
      rw [parse, toList_toString_neg, List.dropWhile_cons_of_neg (by decide)]
      simp [parseDigits_toDigits, Int.negSucc_eq]

theorem parseSigned_toString {bits : Nat} {n : Int} (h : Fits bits n) : parseSigned bits (toString n) = some n := by
  rw [parseSigned, parse_toString]
  simp [h]

theorem takeWhile_isDigit_toDigits (n : Nat) (l : List Char) (hl : l.head?.all (!·.isDigit)) :
    (Nat.toDigits 10 n ++ l).takeWhile Char.isDigit = Nat.toDigits 10 n := by
  rw [List.takeWhile_append_of_pos fun c hc => Nat.isDigit_of_mem_toDigits (by omega) (by omega) hc]
  cases l with
  | nil => simp
  | cons c l =>
      have hc : c.isDigit = false := by simpa using hl
      simp [hc]

/-- A number is read back from its decimal text, whatever follows, if that does
not go on with a digit. -/
theorem fromChars_toString_append {bits : Nat} {n : Int} (h : Fits bits n) {l : List Char}
    (hl : l.head?.all (!·.isDigit)) : fromChars bits ((toString n).toList ++ l) = some n := by
  cases n with
  | ofNat n =>
      change fromChars bits (n.repr.toList ++ l) = _
      rw [Nat.toList_repr]
      have hvalue := takeWhile_isDigit_toDigits n l hl
      cases hd : Nat.toDigits 10 n with
      | nil => exact absurd hd Nat.toDigits_ne_nil
      | cons c ds =>
          have hc : c ≠ '-' := by
            rintro rfl
            have hdigit := Nat.isDigit_of_mem_toDigits (by omega) (by omega) (hd ▸ List.mem_cons_self)
            exact absurd hdigit (by decide)
          have hparse := parseDigits_toDigits n
          rw [hd] at hvalue hparse
          rw [List.cons_append] at hvalue ⊢
          simp only [fromChars]
          split
          · rename_i he
            exact absurd (List.cons.inj he).1 hc
          · rw [hvalue, hparse]
            simpa using h
  | negSucc n =>
      rw [toList_toString_neg, List.cons_append]
      simp only [fromChars, takeWhile_isDigit_toDigits (n + 1) l hl, parseDigits_toDigits]
      simpa [Int.negSucc_eq] using h

theorem dropWhile_isDigit_toDigits (n : Nat) {l : List Char} (hl : l.head?.all (!·.isDigit)) :
    (Nat.toDigits 10 n ++ l).dropWhile Char.isDigit = l := by
  have hsplit := @List.takeWhile_append_dropWhile _ Char.isDigit (Nat.toDigits 10 n ++ l)
  rw [takeWhile_isDigit_toDigits n l hl] at hsplit
  exact List.append_cancel_left hsplit

/-- An unsigned number is read from the text of an integer if and only if it is that integer. -/
theorem fromCharsUnsigned_toString_append {bits : Nat} {n : Int} {l : List Char} (hl : l.head?.all (!·.isDigit))
    {value : Nat} {after : List Char} :
    fromCharsUnsigned bits ((toString n).toList ++ l) = .ok (value, after) ↔
      n = value ∧ value < 2 ^ bits ∧ after = l := by
  cases n with
  | ofNat n =>
      change fromCharsUnsigned bits (n.repr.toList ++ l) = _ ↔ _
      rw [fromCharsUnsigned, Nat.toList_repr, takeWhile_isDigit_toDigits n l hl, parseDigits_toDigits,
        dropWhile_isDigit_toDigits n hl]
      dsimp only
      split
      · rename_i hfits
        rw [Except.ok.injEq, Prod.mk.injEq, Int.ofNat_eq_natCast, Int.natCast_inj]
        constructor
        · rintro ⟨rfl, rfl⟩
          exact ⟨rfl, hfits, rfl⟩
        · rintro ⟨rfl, -, rfl⟩
          exact ⟨rfl, rfl⟩
      · rename_i hlarge
        refine iff_of_false nofun ?_
        rintro ⟨hn, hfits, -⟩
        rw [Int.ofNat_eq_natCast, Int.natCast_inj] at hn
        exact hlarge (hn ▸ hfits)
  | negSucc n =>
      rw [toList_toString_neg, List.cons_append, fromCharsUnsigned, List.takeWhile_cons_of_neg (by decide)]
      exact iff_of_false nofun fun h => nomatch h.1

theorem fits_of_fromChars {bits : Nat} {l : List Char} {n : Int} (h : fromChars bits l = some n) : Fits bits n := by
  have hfits := (Option.filter_eq_some_iff.1 h).2
  exact of_decide_eq_true hfits

theorem toString_injective {a b : Int} (h : toString a = toString b) : a = b := by
  have hab := parse_toString a
  rw [h, parse_toString b] at hab
  exact (Option.some.inj hab).symm

theorem toString_ne_empty (n : Int) : toString n ≠ "" := by
  intro h
  have hparse := parse_toString n
  rw [h] at hparse
  cases hparse

theorem append_cons_inj {c : Char} {l l' r r' : List Char} (hl : c ∉ l) (hl' : c ∉ l')
    (h : l ++ c :: r = l' ++ c :: r') : l = l' ∧ r = r' := by
  rcases List.append_eq_append_iff.mp h with ⟨d, rfl, hd⟩ | ⟨d, rfl, hd⟩
  all_goals
    cases d with
    | nil => simpa [eq_comm] using hd
    | cons x d =>
        obtain ⟨rfl, -⟩ := List.cons.inj hd
        simp at hl hl'

theorem toString_append_injective {c : Char} (hdigit : c.isDigit = false) (hminus : c ≠ '-') {a b : Int} {x y : String}
    (h : toString a ++ String.singleton c ++ x = toString b ++ String.singleton c ++ y) : a = b ∧ x = y := by
  have hlist := congrArg String.toList h
  simp only [String.toList_append, String.toList_singleton, List.append_assoc, List.singleton_append] at hlist
  obtain ⟨hnumber, htext⟩ :=
    append_cons_inj (notMem_toString hdigit hminus a) (notMem_toString hdigit hminus b) hlist
  exact ⟨toString_injective (String.toList_inj.mp hnumber), String.toList_inj.mp htext⟩

end OsAccount.Decimal
