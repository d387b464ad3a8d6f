import Std.Data.ExtTreeMap
import Std.Data.ExtTreeSet
import Mathlib.Data.List.Basic

namespace OsAccount.OrderedMap

open Std

variable {κ α β : Type} {cmp : κ → κ → Ordering} [TransCmp cmp]

/-- Walk the entries of a map in key order and store the image of every entry
that `f` keeps, on top of a map that is already there. -/
def sweepInto (f : κ → α → Option β) (m : ExtTreeMap κ α cmp) (acc : ExtTreeMap κ β cmp) :
    ExtTreeMap κ β cmp :=
  m.toList.foldl (fun acc p => match f p.1 p.2 with
    | some b => acc.insert p.1 b
    | none => acc) acc

def sweep (f : κ → α → Option β) (m : ExtTreeMap κ α cmp) : ExtTreeMap κ β cmp := sweepInto f m ∅

theorem foldl_eq_sweepInto {f : κ → α → Option β} {m : ExtTreeMap κ α cmp}
    {g : ExtTreeMap κ β cmp → κ × α → ExtTreeMap κ β cmp}
    (hsome : ∀ acc, ∀ q ∈ m.toList, ∀ b, f q.1 q.2 = some b → g acc q = acc.insert q.1 b)
    (hnone : ∀ acc, ∀ q ∈ m.toList, f q.1 q.2 = none → g acc q = acc) (acc : ExtTreeMap κ β cmp) :
    m.toList.foldl g acc = sweepInto f m acc := by
  refine List.foldl_ext _ _ acc fun acc q hq => ?_
  cases hf : f q.1 q.2 with
  | none => exact hnone acc q hq hf
  | some b => exact hsome acc q hq b hf

variable [LawfulEqCmp cmp]

variable (f : κ → α → Option β)

theorem foldl_untouched (l : List (κ × α)) (acc : ExtTreeMap κ β cmp)
    (k : κ) (hk : ∀ p ∈ l, p.1 ≠ k) :
    (l.foldl (fun acc p => match f p.1 p.2 with
      | some b => acc.insert p.1 b
      | none => acc) acc)[k]? = acc[k]? := by
  induction l generalizing acc with
  | nil => rfl
  | cons p l ih =>
      rw [List.foldl_cons, ih _ fun q hq => hk q (List.mem_cons_of_mem p hq)]
      have hp : p.1 ≠ k := hk p List.mem_cons_self
      cases f p.1 p.2 with
      | none => rfl
      | some b => simp [ExtTreeMap.getElem?_insert, hp]

theorem foldl_found (l : List (κ × α)) (acc : ExtTreeMap κ β cmp)
    (hl : l.Pairwise fun a b => ¬cmp a.1 b.1 = .eq) (k : κ) (a : α) (ha : (k, a) ∈ l) :
    (l.foldl (fun acc p => match f p.1 p.2 with
      | some b => acc.insert p.1 b
      | none => acc) acc)[k]? = (f k a).or acc[k]? := by
  induction l generalizing acc with
  | nil => cases ha
  | cons p l ih =>
      rw [List.pairwise_cons] at hl
      rw [List.foldl_cons]
      rcases List.mem_cons.mp ha with rfl | ha
      · rw [foldl_untouched]
        · cases f k a <;> simp
        · intro q hq he
          exact hl.1 q hq (by simp [he])
      · rw [ih _ hl.2 ha]
        have hp : p.1 ≠ k := fun he => hl.1 _ ha (by simp [he])
        cases f p.1 p.2 <;> simp [ExtTreeMap.getElem?_insert, hp]

variable (m : ExtTreeMap κ α cmp)

/-- What a key holds after the walk: the kept image of its entry, or else
what the map below held. -/
theorem getElem?_sweepInto
    (acc : ExtTreeMap κ β cmp) (k : κ) :
    (sweepInto f m acc)[k]? = (m[k]?.bind (f k)).or acc[k]? := by
  unfold sweepInto
  cases h : m[k]? with
  | none =>
      rw [foldl_untouched]
      · rfl
      · rintro ⟨j, a⟩ hp rfl
        simp [ExtTreeMap.mem_toList_iff_getElem?_eq_some.mp hp] at h
  | some a =>
      exact foldl_found f m.toList acc ExtTreeMap.distinct_keys_toList k a
        (ExtTreeMap.mem_toList_iff_getElem?_eq_some.mpr h)

@[simp]
theorem getElem?_sweep (k : κ) :
    (sweep f m)[k]? = m[k]?.bind (f k) := by
  simp [sweep, getElem?_sweepInto]

theorem getElem?_insert_eq [DecidableEq κ] (k j : κ) (a : α) :
    (m.insert k a)[j]? = if k = j then some a else m[j]? := by
  simp only [ExtTreeMap.getElem?_insert, LawfulEqCmp.compare_eq_iff_eq]

theorem getElem?_erase_eq [DecidableEq κ] (k j : κ) :
    (m.erase k)[j]? = if k = j then none else m[j]? := by
  simp only [ExtTreeMap.getElem?_erase, LawfulEqCmp.compare_eq_iff_eq]

theorem mem_insert_iff {m : ExtTreeMap κ α cmp} {k j : κ} {a : α} : j ∈ m.insert k a ↔ j = k ∨ j ∈ m := by
  rw [ExtTreeMap.mem_insert, LawfulEqCmp.compare_eq_iff_eq, eq_comm]

/-- The values of `f` are keys of neither the map nor the entry that is added. -/
theorem forall_notMem_insert_iff {γ : Type} {f : γ → κ} {xs : List γ} {m : ExtTreeMap κ α cmp} {k : κ} {a : α} :
    (∀ x ∈ xs, f x ∉ m.insert k a) ↔ k ∉ xs.map f ∧ ∀ x ∈ xs, f x ∉ m := by
  constructor
  · intro h
    refine ⟨fun hk => ?_, fun x hx hmem => h x hx (mem_insert_iff.mpr (.inr hmem))⟩
    obtain ⟨x, hx, heq⟩ := List.mem_map.mp hk
    exact h x hx (mem_insert_iff.mpr (.inl heq))
  · rintro ⟨hk, hnew⟩ x hx hmem
    rcases mem_insert_iff.mp hmem with heq | hmem
    · exact hk (List.mem_map.mpr ⟨x, hx, heq⟩)
    · exact hnew x hx hmem

theorem mem_erase_iff {m : ExtTreeMap κ α cmp} {k j : κ} : j ∈ m.erase k ↔ j ≠ k ∧ j ∈ m := by
  rw [ExtTreeMap.mem_erase, ne_eq, LawfulEqCmp.compare_eq_iff_eq, eq_comm]

theorem isEmpty_iff_getElem? : m.isEmpty = true ↔ ∀ k : κ, m[k]? = none := by
  rw [ExtTreeMap.isEmpty_iff]
  constructor
  · rintro rfl k
    simp
  · intro h
    exact ExtTreeMap.ext_getElem? fun k => by simp [h k]

theorem insert_self (k : κ) (a : α) (h : m[k]? = some a) :
    m.insert k a = m := by
  apply ExtTreeMap.ext_getElem?
  intro j
  by_cases hj : k = j
  · subst hj
    simp [h]
  · simp [ExtTreeMap.getElem?_insert, hj]

theorem erase_absent (k : κ) (h : m[k]? = none) : m.erase k = m := by
  apply ExtTreeMap.ext_getElem?
  intro j
  by_cases hj : k = j
  · subst hj
    simp [h]
  · simp [ExtTreeMap.getElem?_erase, hj]

theorem toList_foldl_insert {l : List (κ × α)} (hl : l.Pairwise fun a b => cmp a.1 b.1 = .lt) :
    (l.foldl (fun m p => m.insert p.1 p.2) (∅ : ExtTreeMap κ α cmp)).toList = l := by
  have hdistinct : l.Pairwise fun a b => ¬cmp a.1 b.1 = .eq := by
    refine hl.imp fun hlt heq => ?_
    cases hlt.symm.trans heq
  have hordered : (l.foldl (fun m p => m.insert p.1 p.2) (∅ : ExtTreeMap κ α cmp)).toList.Pairwise
      fun a b => cmp a.1 b.1 = .lt := ExtTreeMap.ordered_keys_toList
  have hmem : ∀ p, p ∈ (l.foldl (fun m p => m.insert p.1 p.2) (∅ : ExtTreeMap κ α cmp)).toList ↔ p ∈ l := by
    rintro ⟨k, a⟩
    rw [ExtTreeMap.mem_toList_iff_getElem?_eq_some]
    constructor
    · intro h
      by_cases hk : ∃ p ∈ l, p.1 = k
      · obtain ⟨⟨j, b⟩, hb, rfl⟩ := hk
        have hfound := foldl_found (fun _ a => some a) l (∅ : ExtTreeMap κ α cmp) hdistinct j b hb
        cases h.symm.trans hfound
        exact hb
      · have habsent := foldl_untouched (fun _ a => some a) l (∅ : ExtTreeMap κ α cmp) k
          fun p hp he => hk ⟨p, hp, he⟩
        rw [ExtTreeMap.getElem?_empty] at habsent
        cases h.symm.trans habsent
    · exact fun h => foldl_found (fun _ a => some a) l (∅ : ExtTreeMap κ α cmp) hdistinct k a h
  have hnodup {l : List (κ × α)} (hl : l.Pairwise fun a b => cmp a.1 b.1 = .lt) : l.Nodup := by
    refine hl.imp fun {p q} hlt heq => ?_
    have hself : cmp q.1 q.1 = .eq := ReflCmp.compare_self
    rw [heq, hself] at hlt
    cases hlt
  refine ((List.perm_ext_iff_of_nodup (hnodup hordered) (hnodup hl)).mpr hmem).eq_of_pairwise ?_ hordered hl
  intro p q _ _ hpq hqp
  have hswap : cmp p.1 q.1 = (cmp q.1 p.1).swap := OrientedCmp.eq_swap
  rw [hpq, hqp] at hswap
  cases hswap

theorem foldl_insertIfNew {l : List (κ × α)} (hl : l.Pairwise fun a b => ¬cmp a.1 b.1 = .eq)
    {acc : ExtTreeMap κ α cmp} (hacc : ∀ p ∈ l, p.1 ∉ acc) :
    l.foldl (fun m p => m.insertIfNew p.1 p.2) acc = l.foldl (fun m p => m.insert p.1 p.2) acc := by
  induction l generalizing acc with
  | nil => rfl
  | cons p l ih =>
      rw [List.pairwise_cons] at hl
      have hnew : acc.insertIfNew p.1 p.2 = acc.insert p.1 p.2 := by
        apply ExtTreeMap.ext_getElem?
        intro k
        rw [ExtTreeMap.getElem?_insertIfNew, ExtTreeMap.getElem?_insert]
        simp only [hacc p List.mem_cons_self, not_false_eq_true, and_true]
      rw [List.foldl_cons, List.foldl_cons, hnew]
      refine ih hl.2 fun q hq => ?_
      rw [mem_insert_iff]
      rintro (heq | hmem)
      · exact hl.1 q hq (LawfulEqCmp.compare_eq_iff_eq.mpr heq.symm)
      · exact hacc q (List.mem_cons_of_mem p hq) hmem

theorem foldl_insertIfNew_filterMap :
    (m.toList.filterMap fun p => (f p.1 p.2).map (Prod.mk p.1)).foldl (fun acc q => acc.insertIfNew q.1 q.2) ∅ =
      sweep f m := by
  have hdistinct : (m.toList.filterMap fun p => (f p.1 p.2).map (Prod.mk p.1)).Pairwise
      fun a b => ¬cmp a.1 b.1 = .eq := by
    refine List.Pairwise.filterMap _ ?_ ExtTreeMap.distinct_keys_toList
    intro p q hpq p' hp' q' hq'
    obtain ⟨b, -, rfl⟩ := Option.map_eq_some_iff.mp hp'
    obtain ⟨c, -, rfl⟩ := Option.map_eq_some_iff.mp hq'
    exact hpq
  rw [foldl_insertIfNew hdistinct fun p _ => by simp, List.foldl_filterMap]
  unfold sweep sweepInto
  congr 1
  funext acc p
  cases f p.1 p.2 with
  | none => rfl
  | some b => rfl

theorem foldl_insertIfNew_toList :
    m.toList.foldl (fun acc q => acc.insertIfNew q.1 q.2) ∅ = m := by
  have hsweep := foldl_insertIfNew_filterMap (fun _ a => some a) m
  have hentries : m.toList.filterMap (fun p => (some p.2).map (Prod.mk p.1)) = m.toList := List.filterMap_some
  rw [hentries] at hsweep
  rw [hsweep]
  apply ExtTreeMap.ext_getElem?
  intro k
  rw [getElem?_sweep]
  cases m[k]? with
  | none => rfl
  | some a => rfl

theorem getElem?_foldl_insertIfNew [DecidableEq κ] {γ : Type} (f : γ → κ) (g : γ → β) (l : List γ)
    (acc : ExtTreeMap κ β cmp) (k : κ) :
    (l.foldl (fun acc x => acc.insertIfNew (f x) (g x)) acc)[k]? = acc[k]?.or ((l.find? fun x => f x = k).map g) := by
  induction l generalizing acc with
  | nil => simp
  | cons x l ih =>
      simp only [List.foldl_cons, ih, ExtTreeMap.getElem?_insertIfNew, LawfulEqCmp.compare_eq_iff_eq, List.find?_cons]
      by_cases hx : f x = k
      · subst hx
        by_cases hmem : f x ∈ acc
        · simp [hmem]
        · simp [hmem]
      · simp [hx]

theorem mem_foldl_insert {l : List κ} {s : ExtTreeSet κ cmp} {k : κ} :
    k ∈ l.foldl (fun s x => s.insert x) s ↔ k ∈ s ∨ k ∈ l := by
  induction l generalizing s with
  | nil => simp
  | cons x l ih =>
      rw [List.foldl_cons, ih, ExtTreeSet.mem_insert, LawfulEqCmp.compare_eq_iff_eq, List.mem_cons]
      tauto

theorem foldl_insert_toList (s : ExtTreeSet κ cmp) : s.toList.foldl (fun s x => s.insert x) ∅ = s := by
  apply ExtTreeSet.ext_mem
  intro k
  rw [mem_foldl_insert, ExtTreeSet.mem_toList]
  simp

end OsAccount.OrderedMap
