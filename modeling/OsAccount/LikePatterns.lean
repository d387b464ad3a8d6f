import Mathlib.Data.List.Infix

namespace OsAccount.LikePatterns

/-- SQL's LIKE: `%` stands for any text and `_` for any character; a character stands for itself and, in ASCII, for
the same letter in the other case. -/
def like : List Char → List Char → Bool
  | [], s => s.isEmpty
  | c :: pattern, [] => c = '%' && like pattern []
  | c :: pattern, d :: s =>
      if c = '%' then (d :: s).tails.any (like pattern)
      else (c = '_' || c.toLower = d.toLower) && like pattern s

def Literal (c : Char) : Prop := c ≠ '%' ∧ c ≠ '_' ∧ c.isAlpha = false

instance (c : Char) : Decidable (Literal c) := inferInstanceAs (Decidable (_ ∧ _))

theorem like_percent (s : List Char) : like ['%'] s = true := by
  cases s with
  | nil => rfl
  | cons d s =>
      rw [like, if_pos rfl, List.any_eq_true]
      exact ⟨[], (List.mem_tails _ _).mpr List.nil_suffix, rfl⟩

theorem like_of_prefix {pattern s : List Char} (h : pattern <+: s) : like (pattern ++ ['%']) s = true := by
  induction pattern generalizing s with
  | nil => exact like_percent s
  | cons c pattern ih =>
      obtain ⟨rest, rfl⟩ := h
      have hrest : like (pattern ++ ['%']) (pattern ++ rest) = true := ih (List.prefix_append pattern rest)
      rw [List.cons_append, List.cons_append, like]
      split
      · rw [List.any_eq_true]
        exact ⟨pattern ++ rest, (List.mem_tails _ _).mpr (List.suffix_cons c _), hrest⟩
      · simp [hrest]

theorem isAlpha_toLower {c : Char} (h : c.isUpper) : c.toLower.isAlpha = true := by
  have hupper : c.val ≥ 'A'.val ∧ c.val ≤ 'Z'.val := of_decide_eq_true h
  have hlow : 65 ≤ c.toNat := UInt32.le_iff_toNat_le.mp hupper.1
  have hhigh : c.toNat ≤ 90 := UInt32.le_iff_toNat_le.mp hupper.2
  have hval : c.toLower.val = c.val + 32 := congrArg Char.val (dif_pos hupper)
  have hsum : c.toLower.val.toNat = c.toNat + 32 := by
    rw [hval, UInt32.toNat_add]
    exact Nat.mod_eq_of_lt (Nat.lt_of_le_of_lt (Nat.add_le_add_right hhigh 32) (by decide))
  have hletter : 97 ≤ c.toLower.val.toNat ∧ c.toLower.val.toNat ≤ 122 := by omega
  have hlower : c.toLower.isLower = true :=
    Bool.and_eq_true_iff.mpr ⟨decide_eq_true (UInt32.le_iff_toNat_le.mpr hletter.1),
      decide_eq_true (UInt32.le_iff_toNat_le.mpr hletter.2)⟩
  exact Bool.or_eq_true_iff.mpr (.inr hlower)

theorem toLower_eq_self {c : Char} (h : c.isUpper = false) : c.toLower = c :=
  dif_neg (of_decide_eq_false h)

theorem eq_of_toLower_eq {c d : Char} (hc : c.isAlpha = false) (h : c.toLower = d.toLower) : c = d := by
  rw [toLower_eq_self (Bool.or_eq_false_iff.mp hc).1] at h
  cases hd : d.isUpper with
  | true =>
      rw [h, isAlpha_toLower hd] at hc
      cases hc
  | false => rwa [toLower_eq_self hd] at h

theorem prefix_of_like {pattern s : List Char} (hpattern : ∀ c ∈ pattern, Literal c)
    (h : like (pattern ++ ['%']) s = true) : pattern <+: s := by
  induction pattern generalizing s with
  | nil => exact List.nil_prefix
  | cons c pattern ih =>
      obtain ⟨hpercent, hunderscore, halpha⟩ := hpattern c List.mem_cons_self
      cases s with
      | nil => simp [like, hpercent] at h
      | cons d s =>
          rw [List.cons_append, like, if_neg hpercent, Bool.and_eq_true, Bool.or_eq_true] at h
          obtain ⟨hhead, htail⟩ := h
          have hc : c = d := by
            rcases hhead with hhead | hhead
            · exact absurd (of_decide_eq_true hhead) hunderscore
            · exact eq_of_toLower_eq halpha (of_decide_eq_true hhead)
          rw [← hc, List.prefix_cons_inj]
          exact ih (fun c hc => hpattern c (List.mem_cons_of_mem _ hc)) htail

end OsAccount.LikePatterns
