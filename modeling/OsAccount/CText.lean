import Mathlib.Data.List.TakeWhile
import OsAccount.Decimal

abbrev OsAccount.Sha256 : Type := String → Vector UInt8 32

namespace OsAccount.CText

/-- What `c_str()` shows of a text to a reader that stops at the first NUL. A
text that went through such a reader is cut there. -/
def cStr (s : String) : String := String.ofList (s.toList.takeWhile (· ≠ '\x00'))

def NoNul (s : String) : Prop := '\x00' ∉ s.toList

instance (s : String) : Decidable (NoNul s) := inferInstanceAs (Decidable (¬_))

variable {s : String}

theorem toList_cStr (s : String) : (cStr s).toList = s.toList.takeWhile (· ≠ '\x00') := String.toList_ofList

theorem noNul_cStr (s : String) : NoNul (cStr s) := by
  intro h
  rw [toList_cStr] at h
  exact absurd (List.mem_takeWhile_imp h) (by decide)

theorem NoNul.cStr (h : NoNul s) : CText.cStr s = s := by
  rw [CText.cStr, List.takeWhile_eq_self_iff.mpr, String.ofList_toList]
  exact fun c hc => decide_eq_true fun heq => h (heq ▸ hc)

theorem cStr_eq_self_iff : cStr s = s ↔ NoNul s := ⟨fun h => h ▸ noNul_cStr s, NoNul.cStr⟩

@[simp]
theorem cStr_cStr (s : String) : cStr (cStr s) = cStr s := (noNul_cStr s).cStr

@[simp]
theorem cStr_empty : cStr "" = "" := rfl

theorem utf8ByteSize_cStr_le (s : String) : (cStr s).utf8ByteSize ≤ s.utf8ByteSize := by
  obtain ⟨t, ht⟩ := List.takeWhile_prefix (p := (· ≠ '\x00')) (l := s.toList)
  have hs : s = cStr s ++ String.ofList t := by
    rw [← String.toList_inj, String.toList_append, toList_cStr, String.toList_ofList, ht]
  conv_rhs => rw [hs]
  rw [String.utf8ByteSize_append]
  exact Nat.le_add_right _ _

theorem not_lt_cStr (s : String) : ¬ s < cStr s := by
  intro hlt
  have hprefix : (cStr s).toList <+: s.toList := by
    rw [toList_cStr]
    exact List.takeWhile_prefix _
  exact hprefix.le hlt

theorem noNul_ofList {l : List Char} (h : '\x00' ∉ l) : NoNul (String.ofList l) := by
  rwa [NoNul, String.toList_ofList]

theorem noNul_empty : NoNul "" := List.not_mem_nil

theorem NoNul.append {t : String} (hs : NoNul s) (ht : NoNul t) : NoNul (s ++ t) := by
  rw [NoNul, String.toList_append, List.mem_append]
  exact fun h => h.elim hs ht

theorem noNul_toString (n : Int) : NoNul (toString n) := Decimal.notMem_toString (by decide) (by decide) n

theorem noNul_toString_nat (n : Nat) : NoNul (toString n) := noNul_toString (n : Int)

end OsAccount.CText
