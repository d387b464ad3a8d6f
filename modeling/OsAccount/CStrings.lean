import Mathlib.Algebra.BigOperators.Group.List.Basic
import Mathlib.Algebra.Order.Ring.Nat

namespace OsAccount.CStrings

abbrev Memory : Type := Nat → UInt8

abbrev Text : Type := {s : List UInt8 // 0 ∉ s}

namespace Memory

def fill (m : Memory) (p count : Nat) (c : UInt8) : Memory := fun q => if p ≤ q ∧ q < p + count then c else m q

def write (m : Memory) (p : Nat) (s : List UInt8) : Memory := fun q => if p ≤ q then s[q - p]?.getD (m q) else m q

variable {m m' : Memory} {p q count : Nat} {c : UInt8} {s : List UInt8}

theorem fill_of_mem (h : p ≤ q ∧ q < p + count) : m.fill p count c q = c := if_pos h

theorem fill_of_notMem (h : q < p ∨ p + count ≤ q) : m.fill p count c q = m q := if_neg (by omega)

theorem write_of_lt (h : q < p) : m.write p s q = m q := if_neg (by omega)

theorem write_of_le (h : p + s.length ≤ q) : m.write p s q = m q := by
  rw [write, if_pos (by omega), List.getElem?_eq_none (by omega), Option.getD_none]

theorem write_add {i : Nat} (hi : i < s.length) : m.write p s (p + i) = s[i] := by
  rw [write, if_pos (Nat.le_add_right p i), Nat.add_sub_cancel_left, List.getElem?_eq_getElem hi,
    Option.getD_some]

end Memory

structure StringAt (m : Memory) (p : Nat) (s : Text) : Prop where
  char : ∀ (i : Nat) (hi : i < s.1.length), m (p + i) = s.1[i]
  terminator : m (p + s.1.length) = 0

theorem StringAt.congr {m m' : Memory} {p : Nat} {s : Text} (h : StringAt m p s)
    (hsame : ∀ q, p ≤ q → q ≤ p + s.1.length → m' q = m q) : StringAt m' p s where
  char i hi := by rw [hsame (p + i) (by omega) (by omega), h.char i hi]
  terminator := by rw [hsame _ (by omega) (by omega), h.terminator]

theorem stringAt_write {m : Memory} {p : Nat} {s : Text} (hzero : m (p + s.1.length) = 0) :
    StringAt (m.write p s.1) p s where
  char _ hi := Memory.write_add hi
  terminator := by rw [Memory.write_of_le (by omega), hzero]

def placed : Nat → List Text → List (Nat × Text)
  | _, [] => []
  | p, s :: texts => (p, s) :: placed (p + s.1.length + 1) texts

def need (texts : List Text) : Nat := (texts.map fun s => s.1.length + 1).sum

structure Layout (m : Memory) (first last : Nat) (parts : List (Nat × Text)) : Prop where
  inside : ∀ part ∈ parts, first ≤ part.1 ∧ part.1 + part.2.1.length < last
  disjoint : parts.Pairwise fun a b => a.1 + a.2.1.length < b.1 ∨ b.1 + b.2.1.length < a.1
  text : ∀ part ∈ parts, StringAt m part.1 part.2

theorem Layout.nil {m : Memory} {first last : Nat} : Layout m first last [] where
  inside _ h := nomatch h
  disjoint := .nil
  text _ h := nomatch h

theorem Layout.cons {m : Memory} {first last : Nat} {s : Text} {parts : List (Nat × Text)}
    (h : Layout m (first + s.1.length + 1) last parts) (hs : StringAt m first s)
    (hlast : first + s.1.length < last) : Layout m first last ((first, s) :: parts) where
  inside part hpart := by
    rcases List.mem_cons.mp hpart with rfl | hpart
    · exact ⟨Nat.le_refl first, hlast⟩
    · obtain ⟨hfirst, hend⟩ := h.inside part hpart
      exact ⟨by omega, hend⟩
  disjoint := by
    refine List.pairwise_cons.mpr ⟨fun part hpart => .inl ?_, h.disjoint⟩
    exact (h.inside part hpart).1
  text part hpart := by
    rcases List.mem_cons.mp hpart with rfl | hpart
    · exact hs
    · exact h.text part hpart

end OsAccount.CStrings
