import Mathlib.Data.List.Basic

namespace OsAccount.Segments

structure Segment where
  start : Nat
  size : Nat
deriving DecidableEq

variable {α : Type} (memory : Nat → α)

def read (start size : Nat) : List α := (List.range' start size).map memory

def Segment.content (s : Segment) : List α := read memory s.start s.size

/-- Segments that follow one another from one address up to another, none of them empty or larger
than a limit. -/
def Tiles (limit : Nat) : Nat → Nat → List Segment → Prop
  | a, b, [] => a = b
  | a, b, s :: l => s.start = a ∧ (0 < s.size ∧ s.size ≤ limit) ∧ Tiles limit (a + s.size) b l

variable {limit a b : Nat} {l : List Segment}

theorem Tiles.le (h : Tiles limit a b l) : a ≤ b := by
  induction l generalizing a with
  | nil => exact Nat.le_of_eq h
  | cons s l ih => exact Nat.le_trans (Nat.le_add_right a s.size) (ih h.2.2)

theorem Tiles.content (h : Tiles limit a b l) : l.flatMap (Segment.content memory) = read memory a (b - a) := by
  induction l generalizing a with
  | nil =>
      obtain rfl : a = b := h
      rw [Nat.sub_self]
      rfl
  | cons s l ih =>
      obtain ⟨rfl, -, hrest⟩ := h
      have hsplit : b - s.start = s.size + (b - (s.start + s.size)) := by
        have hle := hrest.le
        omega
      rw [List.flatMap_cons, ih hrest, hsplit, read, read, ← List.range'_append_1, List.map_append]
      rfl

theorem Tiles.mem (h : Tiles limit a b l) {s : Segment} (hs : s ∈ l) :
    (0 < s.size ∧ s.size ≤ limit) ∧ a ≤ s.start ∧ s.start + s.size ≤ b := by
  induction l generalizing a with
  | nil => cases hs
  | cons t l ih =>
      obtain ⟨rfl, hsize, hrest⟩ := h
      rcases List.mem_cons.mp hs with rfl | hs
      · exact ⟨hsize, Nat.le_refl _, hrest.le⟩
      · obtain ⟨hsize', hstart, hend⟩ := ih hrest hs
        exact ⟨hsize', Nat.le_trans (Nat.le_add_right ..) hstart, hend⟩

end OsAccount.Segments
