import Mathlib.Algebra.BigOperators.Group.List.Basic
import Mathlib.Algebra.Order.Ring.Nat
import Mathlib.Data.List.Basic

namespace OsAccount.ByteRecords

def encode : Nat → Nat → List UInt8
  | 0, _ => []
  | width + 1, n => UInt8.ofNat n :: encode width (n / 256)

def decode : List UInt8 → Nat
  | [] => 0
  | b :: bytes => b.toNat + 256 * decode bytes

@[simp]
theorem length_encode (width n : Nat) : (encode width n).length = width := by
  induction width generalizing n with
  | zero => rfl
  | succ width ih => rw [encode, List.length_cons, ih]

theorem decode_encode (width n : Nat) : decode (encode width n) = n % 256 ^ width := by
  induction width generalizing n with
  | zero => rw [pow_zero, Nat.mod_one, encode, decode]
  | succ width ih =>
      have hlow : (UInt8.ofNat n).toNat = n % 256 := UInt8.toNat_ofNat'
      rw [encode, decode, ih, hlow, pow_succ, Nat.mul_comm (256 ^ width), Nat.mod_mul]

theorem decode_encode_of_lt {width n : Nat} (h : n < 256 ^ width) : decode (encode width n) = n := by
  rw [decode_encode, Nat.mod_eq_of_lt h]

variable {β : Type}

/-- A field of a packed record, whose fields have the given widths and follow each other. -/
def field (widths : List Nat) (i : Nat) (bytes : List β) : List β :=
  (bytes.drop (widths.take i).sum).take (widths.getD i 0)

theorem field_flatten (parts : List (List β)) {i : Nat} (hi : i < parts.length) :
    field (parts.map List.length) i parts.flatten = parts[i] := by
  induction parts generalizing i with
  | nil => exact absurd hi (Nat.not_lt_zero i)
  | cons part parts ih =>
      cases i with
      | zero => simp [field]
      | succ i =>
          rw [List.length_cons, Nat.succ_lt_succ_iff] at hi
          rw [List.getElem_cons_succ, ← ih hi, field, field, List.map_cons,
            List.take_succ_cons, List.sum_cons,
            List.flatten_cons, List.drop_append, List.drop_eq_nil_of_le (Nat.le_add_right _ _), List.nil_append,
            Nat.add_sub_cancel_left, List.getD_cons_succ]

end OsAccount.ByteRecords
