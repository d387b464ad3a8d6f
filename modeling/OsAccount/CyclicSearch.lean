import Mathlib.Data.Int.Interval

namespace OsAccount.CyclicSearch

variable (taken : Int → Bool) (lo hi : Int)

def next (c : Int) : Int := if c + 1 > hi then lo else c + 1

def search : Nat → Int → Option Int
  | 0, _ => none
  | n + 1, c => if taken c then search n (next lo hi c) else some c

def start (c : Int) : Int := if c < lo ∨ c > hi then lo else c

variable {taken lo hi} {n : Nat} {c x : Int}

theorem next_mem (hc : lo ≤ c ∧ c ≤ hi) : lo ≤ next lo hi c ∧ next lo hi c ≤ hi := by
  unfold next
  split <;> omega

theorem start_mem (h : lo ≤ hi) (c : Int) : lo ≤ start lo hi c ∧ start lo hi c ≤ hi := by
  unfold start
  split <;> omega

theorem search_eq_some (hc : lo ≤ c ∧ c ≤ hi) (h : search taken lo hi n c = some x) :
    (lo ≤ x ∧ x ≤ hi) ∧ taken x = false := by
  induction n generalizing c with
  | zero => cases h
  | succ n ih =>
      unfold search at h
      split at h
      · exact ih (next_mem hc) h
      · rename_i hfree
        cases h
        exact ⟨hc, Bool.eq_false_iff.2 hfree⟩

theorem taken_of_search_eq_none (hc : lo ≤ c ∧ c ≤ hi) (h : search taken lo hi n c = none) (hx : lo ≤ x ∧ x ≤ hi)
    (hnear : (c ≤ x ∧ x < c + n) ∨ (x < c ∧ x + (hi - lo + 1) < c + n)) : taken x = true := by
  induction n generalizing c with
  | zero => omega
  | succ n ih =>
      unfold search at h
      split at h
      · rename_i htaken
        by_cases he : x = c
        · rwa [he]
        · refine ih (next_mem hc) h ?_
          unfold next
          split <;> omega
      · cases h

theorem search_eq_none_iff (hc : lo ≤ c ∧ c ≤ hi) (hn : (n : Int) = hi - lo + 1) :
    search taken lo hi n c = none ↔ ∀ x, lo ≤ x → x ≤ hi → taken x = true := by
  constructor
  · intro h x hlo hhi
    exact taken_of_search_eq_none hc h ⟨hlo, hhi⟩ (by omega)
  · intro h
    cases hs : search taken lo hi n c with
    | none => rfl
    | some x =>
        obtain ⟨⟨hlo, hhi⟩, hfree⟩ := search_eq_some hc hs
        rw [h x hlo hhi] at hfree
        cases hfree

/-- The numbers of the cycle in the order in which a search from `c` on tries them. -/
def cycle (lo hi c : Int) : List Int :=
  (List.range (hi - c + 1).toNat).map (fun i : Nat => c + i) ++ (List.range (c - lo).toNat).map (fun i : Nat => lo + i)

theorem map_range_succ (c : Int) (n : Nat) :
    (List.range (n + 1)).map (fun i : Nat => c + i) = c :: (List.range n).map (fun i : Nat => c + 1 + i) := by
  rw [List.range_succ_eq_map, List.map_cons, List.map_map, Int.natCast_zero, add_zero]
  congr 1
  refine List.map_congr_left fun i _ => ?_
  simp only [Function.comp_apply, Nat.succ_eq_add_one, Nat.cast_add, Nat.cast_one]
  omega

theorem search_straight (h : c + n ≤ hi + 1) :
    search taken lo hi n c = ((List.range n).map fun i : Nat => c + i).find? fun x => !taken x := by
  induction n generalizing c with
  | zero => rfl
  | succ n ih =>
      rw [map_range_succ, List.find?_cons, search]
      cases htaken : taken c with
      | false => rfl
      | true =>
          cases n with
          | zero => rfl
          | succ n =>
              have hnext : next lo hi c = c + 1 := if_neg (by omega)
              rw [if_pos rfl, hnext]
              exact ih (by omega)

theorem search_over {m : Nat} (hm : c + m = hi + 1) (hpos : 0 < m) :
    search taken lo hi (m + n) c =
      (((List.range m).map fun i : Nat => c + i).find? fun x => !taken x).or (search taken lo hi n lo) := by
  induction m generalizing c with
  | zero => omega
  | succ m ih =>
      rw [map_range_succ, List.find?_cons, Nat.succ_add, search]
      cases htaken : taken c with
      | false => rfl
      | true =>
          rw [if_pos rfl]
          cases m with
          | zero =>
              have hnext : next lo hi c = lo := if_pos (by omega)
              rw [hnext, Nat.zero_add]
              rfl
          | succ m =>
              have hnext : next lo hi c = c + 1 := if_neg (by omega)
              rw [hnext, ih (by omega) m.succ_pos]
              rfl

/-- A search once around finds the first number in the order of the cycle that is not taken. -/
theorem search_eq_find (hc : lo ≤ c ∧ c ≤ hi) :
    search taken lo hi (hi - lo + 1).toNat c = (cycle lo hi c).find? fun x => !taken x := by
  have hlen : (hi - lo + 1).toNat = (hi - c + 1).toNat + (c - lo).toNat := by omega
  rw [hlen, search_over (by omega) (by omega), search_straight (by omega), cycle, List.find?_append]

variable (taken lo hi) in
def firstFree (hint : Int) : Option Int := search taken lo hi (hi - lo + 1).toNat (start lo hi hint)

theorem firstFree_eq_some (hle : lo ≤ hi) {hint : Int} (h : firstFree taken lo hi hint = some x) :
    (lo ≤ x ∧ x ≤ hi) ∧ taken x = false :=
  search_eq_some (start_mem hle hint) h

theorem firstFree_eq_none_iff (hle : lo ≤ hi) {hint : Int} :
    firstFree taken lo hi hint = none ↔ ∀ x, lo ≤ x → x ≤ hi → taken x = true :=
  search_eq_none_iff (start_mem hle hint) (Int.toNat_of_nonneg (by omega))

/-- The search succeeds if fewer numbers are taken than the cycle has. They are counted
by a list that they map into. -/
theorem exists_firstFree {l : List Int} (f : Int → Int)
    (hf : ∀ x, lo ≤ x → x ≤ hi → taken x = true → f x ∈ l)
    (hinj : ∀ x y, taken x = true → taken y = true → f x = f y → x = y) (hlen : (l.length : Int) < hi - lo + 1)
    (hint : Int) : ∃ x, firstFree taken lo hi hint = some x := by
  cases hsearch : firstFree taken lo hi hint with
  | some x => exact ⟨x, rfl⟩
  | none =>
      have htaken := (firstFree_eq_none_iff (by omega)).1 hsearch
      have hcard : (Finset.Icc lo hi).card ≤ l.toFinset.card := by
        apply Finset.card_le_card_of_injOn f
        · intro x hx
          obtain ⟨hlo, hhi⟩ := Finset.mem_Icc.1 hx
          exact List.mem_toFinset.2 (hf x hlo hhi (htaken x hlo hhi))
        · intro x hx y hy he
          obtain ⟨hlo, hhi⟩ := Finset.mem_Icc.1 hx
          obtain ⟨hlo', hhi'⟩ := Finset.mem_Icc.1 hy
          exact hinj x y (htaken x hlo hhi) (htaken y hlo' hhi') he
      have hlength := l.toFinset_card_le
      rw [Int.card_Icc] at hcard
      omega

end OsAccount.CyclicSearch
