import Mathlib.Algebra.Group.Nat.Defs
import Mathlib.Algebra.Ring.Int.Defs
import Mathlib.Data.List.Basic

namespace OsAccount.Base64

def digits (a b c : UInt8) : List Nat :=
  let n := a.toNat * 2 ^ 16 + b.toNat * 2 ^ 8 + c.toNat
  [n / 64 ^ 3, n / 64 ^ 2 % 64, n / 64 % 64, n % 64]

section encoding

variable {α : Type} (char : Nat → α) (pad : α)

/-- The standard encoding: a last group of one or two bytes is filled up with zeros, and padding stands for the digits
that come from these alone. -/
def encode : List UInt8 → List α
  | [] => []
  | [a] => (digits a 0 0).take 2 |>.map char |>.append [pad, pad]
  | [a, b] => (digits a b 0).take 3 |>.map char |>.append [pad]
  | a :: b :: c :: bytes => (digits a b c).map char ++ encode bytes

/-- A text with a separator after each `width` characters, when `column` characters stand in the current line. -/
def breakLines (width : Nat) (sep : List α) : Nat → List α → List α
  | _, [] => []
  | column, c :: l =>
      if column + 1 = width then c :: (sep ++ breakLines width sep 0 l) else c :: breakLines width sep (column + 1) l

variable {width : Nat} {sep : List α}

theorem breakLines_append_of_lt {column : Nat} {word : List α} (h : column + word.length < width) (l : List α) :
    breakLines width sep column (word ++ l) = word ++ breakLines width sep (column + word.length) l := by
  induction word generalizing column with
  | nil => rfl
  | cons c word ih =>
      rw [List.length_cons] at h
      have hnext : column + 1 + word.length < width := by omega
      have hcolumn : column + 1 + word.length = column + (word.length + 1) := by omega
      rw [List.cons_append, breakLines, if_neg (by omega), ih hnext, hcolumn]
      rfl

theorem breakLines_append_of_eq {column : Nat} {word : List α} (h : column + word.length = width) (hne : word ≠ [])
    (l : List α) : breakLines width sep column (word ++ l) = word ++ (sep ++ breakLines width sep 0 l) := by
  induction word generalizing column with
  | nil => exact absurd rfl hne
  | cons c word ih =>
      rw [List.length_cons] at h
      cases word with
      | nil =>
          have hlast : column + 1 = width := h
          rw [List.cons_append, breakLines, if_pos hlast]
          rfl
      | cons d word =>
          rw [List.length_cons] at h
          have hnext : column + 1 + (d :: word).length = width := by
            rw [List.length_cons]
            omega
          rw [List.cons_append, breakLines, if_neg (by omega), ih hnext (List.cons_ne_nil d word)]
          rfl

end encoding

end OsAccount.Base64
