import Mathlib.Data.List.Basic
import Mathlib.Data.List.Nodup

namespace OsAccount.Fields

variable {κ α : Type}

def keys (l : List (κ × α)) : List κ := l.map Prod.fst

@[simp]
theorem keys_cons (p : κ × α) (l : List (κ × α)) : keys (p :: l) = p.1 :: keys l := rfl

variable [DecidableEq κ]

def find (k : κ) : List (κ × α) → Option α
  | [] => none
  | (j, a) :: l => if j = k then some a else find k l

def set (k : κ) (v : α) : List (κ × α) → List (κ × α)
  | [] => [(k, v)]
  | (j, a) :: l => if j = k then (j, v) :: l else (j, a) :: set k v l

def delete (k : κ) : List (κ × α) → List (κ × α)
  | [] => []
  | (j, a) :: l => if j = k then l else (j, a) :: delete k l

variable {k : κ} {l : List (κ × α)}

theorem find_eq_none : find k l = none ↔ k ∉ keys l := by
  induction l with
  | nil => simp [find, keys]
  | cons p l ih =>
      obtain ⟨j, a⟩ := p
      by_cases hj : j = k
      · simp [find, hj]
      · simp [find, hj, ih, Ne.symm hj]

variable {v : α}

theorem mem_of_find (h : find k l = some v) : (k, v) ∈ l := by
  induction l with
  | nil => cases h
  | cons p l ih =>
      rw [find] at h
      split at h
      · rename_i hk
        rw [← Option.some.inj h, ← hk]
        exact List.mem_cons_self
      · exact List.mem_cons_of_mem p (ih h)

theorem find_of_mem (hl : (keys l).Nodup) (h : (k, v) ∈ l) : find k l = some v := by
  induction l with
  | nil => cases h
  | cons p l ih =>
      obtain ⟨j, a⟩ := p
      rw [keys_cons, List.nodup_cons] at hl
      rcases List.mem_cons.mp h with h | h
      · obtain ⟨rfl, rfl⟩ := Prod.mk.inj h
        exact if_pos rfl
      · have hne : j ≠ k := by
          rintro rfl
          exact hl.1 (List.mem_map.mpr ⟨_, h, rfl⟩)
        rw [find, if_neg hne]
        exact ih hl.2 h

theorem find_set (k k' : κ) (v : α) (l : List (κ × α)) :
    find k' (set k v l) = if k = k' then some v else find k' l := by
  induction l with
  | nil => simp [set, find]
  | cons p l ih =>
      obtain ⟨j, a⟩ := p
      by_cases hj : j = k
      · subst hj
        by_cases hk : j = k' <;> simp [set, find, hk]
      · by_cases hk : j = k'
        · subst hk
          simp [set, find, hj, Ne.symm hj]
        · simp [set, find, hj, hk, ih]

theorem mem_keys_set {k j : κ} : j ∈ keys (set k v l) ↔ j = k ∨ j ∈ keys l := by
  rw [← not_iff_not, ← find_eq_none, find_set, not_or, ← find_eq_none]
  by_cases hk : k = j
  · simp [hk]
  · simp [hk, Ne.symm hk]

theorem mem_set {p : κ × α} (h : p ∈ set k v l) : p = (k, v) ∨ p ∈ l := by
  induction l with
  | nil => exact .inl (List.mem_singleton.mp h)
  | cons q l ih =>
      rw [set] at h
      split at h
      · rename_i hk
        rcases List.mem_cons.mp h with rfl | h
        · exact .inl (by rw [hk])
        · exact .inr (List.mem_cons_of_mem q h)
      · rcases List.mem_cons.mp h with rfl | h
        · exact .inr List.mem_cons_self
        · exact (ih h).imp_right (List.mem_cons_of_mem q)

theorem nodup_set (h : (keys l).Nodup) : (keys (set k v l)).Nodup := by
  induction l with
  | nil => simp [set, keys]
  | cons p l ih =>
      obtain ⟨j, a⟩ := p
      rw [keys_cons, List.nodup_cons] at h
      by_cases hj : j = k
      · simp only [set, hj, if_true, keys_cons, List.nodup_cons]
        rw [← hj]
        exact h
      · simp [set, hj, mem_keys_set, h.1, ih h.2]

theorem find_delete (h : (keys l).Nodup) (k k' : κ) :
    find k' (delete k l) = if k = k' then none else find k' l := by
  induction l with
  | nil => simp [delete, find]
  | cons p l ih =>
      obtain ⟨j, a⟩ := p
      rw [keys_cons, List.nodup_cons] at h
      by_cases hj : j = k
      · subst hj
        by_cases hk : j = k'
        · subst hk
          simpa [delete, find_eq_none] using h.1
        · simp [delete, find, hk]
      · by_cases hk : j = k'
        · subst hk
          simp [delete, find, hj, Ne.symm hj]
        · simp [delete, find, hj, hk, ih h.2]

theorem nodup_delete (h : (keys l).Nodup) : (keys (delete k l)).Nodup := by
  have hsub : (delete k l).Sublist l := by
    induction l with
    | nil => exact .slnil
    | cons p l ih =>
        obtain ⟨j, a⟩ := p
        rw [keys_cons, List.nodup_cons] at h
        by_cases hj : j = k
        · simp [delete, hj]
        · simpa [delete, hj] using ih h.2
  exact h.sublist (hsub.map Prod.fst)

end OsAccount.Fields
