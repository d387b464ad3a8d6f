import OsAccount.Decimal
import Mathlib.Data.List.TakeWhile

namespace OsAccount.Strtoull

open Decimal

def cStr (s : String) : List Char := s.toList.takeWhile (· ≠ '\x00')

/-- What a conversion leaves: the value, the text from `endptr` on, and whether `errno` is `ERANGE`. -/
structure Conversion where
  value : UInt64
  endptr : List Char
  erange : Bool

def splitSign : List Char → Bool × List Char
  | '-' :: l => (true, l)
  | '+' :: l => (false, l)
  | l => (false, l)

/-- The value of a number with its sign: a minus negates modulo `2 ^ 64`, and a number that does not fit is
the greatest one. -/
def unsignedValue (negative : Bool) (n : Nat) : UInt64 :=
  if n < 2 ^ 64 then if negative then -UInt64.ofNat n else UInt64.ofNat n else UInt64.ofNat (2 ^ 64 - 1)

/-- `strtoull` in base ten, as ISO C has it. Without digits there is no conversion, and `endptr` is the start. -/
def strtoull (str : List Char) : Conversion :=
  let signed := splitSign (str.dropWhile isSpace)
  match parseDigits (signed.2.takeWhile Char.isDigit) with
  | none => { value := 0, endptr := str, erange := false }
  | some n =>
      { value := unsignedValue signed.1 n
        endptr := signed.2.dropWhile Char.isDigit
        erange := decide (2 ^ 64 ≤ n) }

def Signed (sign str : List Char) (n : Nat) : Prop :=
  ∃ spaces digits, str = spaces ++ (sign ++ digits) ∧ (∀ c ∈ spaces, isSpace c = true) ∧ parseDigits digits = some n

def Numeral (str : List Char) (n : Nat) : Prop := Signed [] str n ∨ Signed ['+'] str n

def Negated (str : List Char) (n : Nat) : Prop := Signed ['-'] str n ∧ n < 2 ^ 64

def IsSign (sign : List Char) : Prop := sign = [] ∨ sign = ['+'] ∨ sign = ['-']

variable {str digits sign sign' : List Char} {n n' : Nat}

theorem parseDigits_eq_some : parseDigits digits = some n ↔
    (digits ≠ [] ∧ ∀ c ∈ digits, c.isDigit = true) ∧ Nat.ofDigitChars 10 digits 0 = n := by
  rw [parseDigits, Option.ite_none_right_eq_some, List.all_eq_true, Option.some.injEq]

theorem exists_digit_cons (h : parseDigits digits = some n) : ∃ c l, digits = c :: l ∧ c.isDigit = true := by
  obtain ⟨⟨hne, hall⟩, -⟩ := parseDigits_eq_some.mp h
  cases digits with
  | nil => exact absurd rfl hne
  | cons c l => exact ⟨c, l, rfl, hall c List.mem_cons_self⟩

theorem splitSign_append (hsign : IsSign sign) (h : parseDigits digits = some n) :
    splitSign (sign ++ digits) = (decide (sign = ['-']), digits) := by
  rcases hsign with rfl | rfl | rfl
  · obtain ⟨c, l, rfl, hc⟩ := exists_digit_cons h
    change splitSign (c :: l) = (false, c :: l)
    unfold splitSign
    split
    · rename_i he
      rw [(List.cons.inj he).1] at hc
      cases hc
    · rename_i he
      rw [(List.cons.inj he).1] at hc
      cases hc
    · rfl
  · rfl
  · rfl

theorem splitSign_cases (l : List Char) : ∃ sign, IsSign sign ∧ l = sign ++ (splitSign l).2 := by
  unfold splitSign
  split
  · exact ⟨['-'], .inr (.inr rfl), rfl⟩
  · exact ⟨['+'], .inr (.inl rfl), rfl⟩
  · exact ⟨[], .inl rfl, rfl⟩

theorem dropWhile_spaces {spaces : List Char} (hspaces : ∀ c ∈ spaces, isSpace c = true) (hsign : IsSign sign)
    (h : parseDigits digits = some n) : (spaces ++ (sign ++ digits)).dropWhile isSpace = sign ++ digits := by
  rw [List.dropWhile_append_of_pos hspaces]
  rcases hsign with rfl | rfl | rfl
  · obtain ⟨c, l, rfl, hc⟩ := exists_digit_cons h
    exact List.dropWhile_cons_of_neg (by rw [not_isSpace_of_isDigit hc]; exact Bool.false_ne_true)
  · exact List.dropWhile_cons_of_neg (by decide)
  · exact List.dropWhile_cons_of_neg (by decide)

theorem Signed.split (h : Signed sign str n) (hsign : IsSign sign) : ∃ digits,
    splitSign (str.dropWhile isSpace) = (decide (sign = ['-']), digits) ∧ parseDigits digits = some n := by
  obtain ⟨spaces, digits, rfl, hspaces, hdigits⟩ := h
  refine ⟨digits, ?_, hdigits⟩
  rw [dropWhile_spaces hspaces hsign hdigits, splitSign_append hsign hdigits]

theorem Signed.unique (h : Signed sign str n) (h' : Signed sign' str n') (hsign : IsSign sign) (hsign' : IsSign sign') :
    (sign = ['-'] ↔ sign' = ['-']) ∧ n = n' := by
  obtain ⟨digits, hsplit, hdigits⟩ := h.split hsign
  obtain ⟨digits', hsplit', hdigits'⟩ := h'.split hsign'
  obtain ⟨hminus, rfl⟩ := Prod.mk.inj (hsplit.symm.trans hsplit')
  exact ⟨decide_eq_decide.mp hminus, Option.some.inj (hdigits.symm.trans hdigits')⟩

theorem Negated.not_numeral (h : Negated str n) : ¬Numeral str n' := by
  rintro (hnumeral | hnumeral)
  · exact absurd ((h.1.unique hnumeral (.inr (.inr rfl)) (.inl rfl)).1.mp rfl) (by decide)
  · exact absurd ((h.1.unique hnumeral (.inr (.inr rfl)) (.inr (.inl rfl))).1.mp rfl) (by decide)

theorem Signed.strtoull_eq (h : Signed sign str n) (hsign : IsSign sign) :
    strtoull str = ⟨unsignedValue (decide (sign = ['-'])) n, [], decide (2 ^ 64 ≤ n)⟩ := by
  obtain ⟨digits, hsplit, hdigits⟩ := h.split hsign
  have hall := (parseDigits_eq_some.mp hdigits).1.2
  have htake : digits.takeWhile Char.isDigit = digits := List.takeWhile_eq_self_iff.mpr hall
  have hdrop : digits.dropWhile Char.isDigit = [] := List.dropWhile_eq_nil_iff.mpr hall
  rw [strtoull, hsplit]
  dsimp only
  rw [htake, hdigits, hdrop]

/-- A conversion takes up the whole text if and only if this is a number with an optional sign. -/
theorem endptr_eq_nil_iff : ((strtoull str).endptr ≠ str ∧ (strtoull str).endptr = []) ↔
    ∃ sign n, IsSign sign ∧ Signed sign str n := by
  constructor
  · rintro ⟨hne, hnil⟩
    obtain ⟨sign, hsign, hsplit⟩ := splitSign_cases (str.dropWhile isSpace)
    have hstr : str = str.takeWhile isSpace ++ (sign ++ (splitSign (str.dropWhile isSpace)).2) := by
      rw [← hsplit, List.takeWhile_append_dropWhile]
    unfold strtoull at hne hnil
    dsimp only at hne hnil
    cases hdigits : parseDigits ((splitSign (str.dropWhile isSpace)).2.takeWhile Char.isDigit) with
    | none =>
        rw [hdigits] at hne
        exact absurd rfl hne
    | some n =>
        rw [hdigits] at hnil
        rw [List.takeWhile_eq_self_iff.mpr (List.dropWhile_eq_nil_iff.mp hnil)] at hdigits
        exact ⟨sign, n, hsign, _, _, hstr, fun c => List.mem_takeWhile_imp, hdigits⟩
  · rintro ⟨sign, n, hsign, h⟩
    rw [h.strtoull_eq hsign]
    refine ⟨fun hnil => ?_, rfl⟩
    obtain ⟨spaces, digits, rfl, -, hdigits⟩ := h
    obtain ⟨c, l, rfl, -⟩ := exists_digit_cons hdigits
    simp at hnil

theorem numeral_toString (n : Nat) : Numeral (cStr (toString n)) n := by
  have hdigits : parseDigits (Nat.toDigits 10 n) = some n := parseDigits_toDigits n
  have hstr : cStr (toString n) = Nat.toDigits 10 n := by
    change n.repr.toList.takeWhile _ = _
    rw [Nat.toList_repr, List.takeWhile_eq_self_iff]
    intro c hc
    refine decide_eq_true ?_
    rintro rfl
    cases (parseDigits_eq_some.mp hdigits).1.2 _ hc
  exact .inl ⟨[], _, hstr, nofun, hdigits⟩

end OsAccount.Strtoull
