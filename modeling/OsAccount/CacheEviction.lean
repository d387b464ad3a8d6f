import Mathlib.Data.List.TakeWhile
import OsAccount.AssociatedDataCache

namespace OsAccount.CacheEviction

open Std AssociatedDataCache

/-- The counters in the order of the keys, as `PopDataFromAssociatedDataCache` meets them: no counter after the first
one that is below the counter of the first entry is still lower, or the last negative one after it is a least one. -/
def LeastFound : List Int → Prop
  | [] => True
  | first :: rest =>
      match rest.dropWhile fun freq => first ≤ freq with
      | [] => True
      | low :: after =>
          match (after.filter (· < 0)).getLast? with
          | none => ∀ freq ∈ after, low ≤ freq
          | some negative => ∀ freq ∈ low :: after, negative ≤ freq

abbrev Entry : Type := Nat × AssociatedDataCacheItem

def choose (toPoped : Nat × Int) (it : Entry) : Nat × Int :=
  if toPoped.2 > it.2.freq then (it.1, 0) else toPoped

def victim (first : Entry) (rest : List Entry) : Entry :=
  match rest.dropWhile fun it => first.2.freq ≤ it.2.freq with
  | [] => first
  | low :: after => (after.filter fun it => it.2.freq < 0).getLast?.getD low

variable {first : Entry} {rest : List Entry}

theorem foldl_choose_reset (after : List Entry) (low : Entry) :
    (after.foldl choose (low.1, 0)).1 = ((after.filter fun it => it.2.freq < 0).getLast?.getD low).1 := by
  induction after generalizing low with
  | nil => rfl
  | cons it after ih =>
      rw [List.foldl_cons, choose]
      by_cases hnegative : it.2.freq < 0
      · rw [if_pos hnegative, ih it, List.filter_cons, if_pos (decide_eq_true hnegative), List.getLast?_cons,
          Option.getD_some]
      · rw [if_neg hnegative, ih low, List.filter_cons, if_neg (by simpa using hnegative)]

theorem foldl_choose (rest : List Entry) (first : Entry) :
    (rest.foldl choose (first.1, first.2.freq)).1 = (victim first rest).1 := by
  induction rest with
  | nil => rfl
  | cons it rest ih =>
      rw [List.foldl_cons, choose, victim]
      by_cases hlow : first.2.freq > it.2.freq
      · rw [if_pos hlow, List.dropWhile_cons_of_neg (by simpa using hlow)]
        exact foldl_choose_reset rest it
      · rw [if_neg hlow, List.dropWhile_cons_of_pos (by simpa using hlow)]
        exact ih

theorem mem_of_getLast_filter {after : List Entry} {low it : Entry}
    (h : (after.filter fun it => it.2.freq < 0).getLast? = some it) : it ∈ low :: after := by
  have hmem := List.mem_of_mem_getLast? (Option.mem_def.mpr h)
  exact List.mem_cons_of_mem low (List.mem_of_mem_filter hmem)

theorem victim_mem (first : Entry) (rest : List Entry) : victim first rest ∈ first :: rest := by
  rw [victim]
  cases hdrop : rest.dropWhile fun it => first.2.freq ≤ it.2.freq with
  | nil => exact List.mem_cons_self
  | cons low after =>
      have hsub : low :: after ⊆ rest := by
        rw [← hdrop]
        exact (List.dropWhile_suffix _).subset
      refine List.mem_cons_of_mem first (hsub ?_)
      dsimp only
      cases hlast : (after.filter fun it => it.2.freq < 0).getLast? with
      | none => exact List.mem_cons_self
      | some it => exact mem_of_getLast_filter hlast

theorem least_of_after {low : Entry} {after : List Entry}
    (hdrop : (rest.dropWhile fun it => first.2.freq ≤ it.2.freq) = low :: after) {it : Entry}
    (hle : ∀ other ∈ low :: after, it.2.freq ≤ other.2.freq) :
    ∀ other ∈ first :: rest, it.2.freq ≤ other.2.freq := by
  have hsplit : rest = rest.takeWhile (fun it => first.2.freq ≤ it.2.freq) ++ low :: after := by
    rw [← hdrop, List.takeWhile_append_dropWhile]
  have hlow : low.2.freq < first.2.freq := by
    have hhead := List.head?_dropWhile_not (fun it : Entry => decide (first.2.freq ≤ it.2.freq)) rest
    rw [hdrop] at hhead
    simpa using hhead
  have hfirst : it.2.freq < first.2.freq := (hle low List.mem_cons_self).trans_lt hlow
  intro other hother
  rcases List.mem_cons.mp hother with rfl | hother
  · exact hfirst.le
  · rw [hsplit, List.mem_append] at hother
    rcases hother with hbefore | hafter
    · have hfreq : first.2.freq ≤ other.2.freq :=
        of_decide_eq_true (List.all_eq_true.mp List.all_takeWhile other hbefore)
      exact hfirst.le.trans hfreq
    · exact hle other hafter

theorem dropWhile_freq (first : Entry) (rest : List Entry) :
    ((rest.map fun it => it.2.freq).dropWhile fun freq => first.2.freq ≤ freq) =
      (rest.dropWhile fun it => first.2.freq ≤ it.2.freq).map fun it => it.2.freq := by
  rw [List.dropWhile_map]
  rfl

theorem victim_least_iff (first : Entry) (rest : List Entry) :
    (∀ other ∈ first :: rest, (victim first rest).2.freq ≤ other.2.freq) ↔
      LeastFound ((first :: rest).map fun it => it.2.freq) := by
  rw [List.map_cons, LeastFound, dropWhile_freq, victim]
  cases hdrop : rest.dropWhile fun it => first.2.freq ≤ it.2.freq with
  | nil =>
      rw [List.dropWhile_eq_nil_iff] at hdrop
      refine iff_of_true (fun other hother => ?_) trivial
      rcases List.mem_cons.mp hother with rfl | hother
      · exact Int.le_refl _
      · exact of_decide_eq_true (hdrop other hother)
  | cons low after =>
      have hsub : ∀ other ∈ low :: after, other ∈ first :: rest := by
        intro other hother
        rw [← hdrop] at hother
        exact List.mem_cons_of_mem first ((List.dropWhile_suffix _).subset hother)
      have hnegative : ((after.map fun it => it.2.freq).filter (· < 0)).getLast? =
          ((after.filter fun it => it.2.freq < 0).getLast?).map fun it => it.2.freq := by
        rw [List.filter_map, List.getLast?_map]
        rfl
      rw [List.map_cons]
      dsimp only
      rw [hnegative]
      cases hlast : (after.filter fun it => it.2.freq < 0).getLast? with
      | none =>
          dsimp only [Option.map_none, Option.getD_none]
          rw [List.forall_mem_map]
          constructor
          · exact fun h other hother => h other (hsub other (List.mem_cons_of_mem low hother))
          · intro h
            refine least_of_after hdrop fun other hother => ?_
            rcases List.mem_cons.mp hother with rfl | hother
            · exact Int.le_refl _
            · exact h other hother
      | some negative =>
          dsimp only [Option.map_some, Option.getD_some]
          have hfreqs : low.2.freq :: after.map (fun it => it.2.freq) =
              (low :: after).map fun it => it.2.freq := rfl
          rw [hfreqs, List.forall_mem_map]
          constructor
          · exact fun h other hother => h other (hsub other hother)
          · exact fun h => least_of_after hdrop h

theorem pop_spec {t : Cache} (hlist : t.toList = first :: rest) :
    t[(victim first rest).1]? = some (victim first rest).2 ∧
      t.popDataFromAssociatedDataCache.size + 1 = t.size ∧
      ∀ uid, uid ∈ t.popDataFromAssociatedDataCache ↔ uid ∈ t ∧ uid ≠ (victim first rest).1 := by
  have hmem : victim first rest ∈ t.toList := by
    rw [hlist]
    exact victim_mem first rest
  have hstored : t[(victim first rest).1]? = some (victim first rest).2 :=
    ExtTreeMap.mem_toList_iff_getElem?_eq_some.mp hmem
  have hin : (victim first rest).1 ∈ t := ExtTreeMap.mem_iff_isSome_getElem?.mpr (by rw [hstored]; rfl)
  have hpop : t.popDataFromAssociatedDataCache =
      (t.map fun uid item => if uid = first.1 then item else { item with freq := 0 }).erase
          (victim first rest).1 := by
    rw [Cache.popDataFromAssociatedDataCache, hlist]
    dsimp only
    rw [← foldl_choose rest first]
    rfl
  refine ⟨hstored, ?_, fun uid => ?_⟩
  · have hpos : 0 < t.size := by
      rw [← ExtTreeMap.length_toList, hlist]
      exact Nat.succ_pos _
    rw [hpop, ExtTreeMap.size_erase, ExtTreeMap.size_map,
      if_pos (ExtTreeMap.mem_iff_contains.mp (ExtTreeMap.mem_map.mpr hin))]
    omega
  · rw [hpop, OrderedMap.mem_erase_iff, ExtTreeMap.mem_map, and_comm]

/-- One entry is removed, and it is a least used one if and only if the walk does not pass over a lower counter. -/
theorem evicts_least_iff (t : Cache) (hfilled : t.isEmpty = false) :
    ∃ (uid : Nat) (item : AssociatedDataCacheItem), t[uid]? = some item ∧
      t.popDataFromAssociatedDataCache.size + 1 = t.size ∧
      (∀ other, other ∈ t.popDataFromAssociatedDataCache ↔ other ∈ t ∧ other ≠ uid) ∧
      ((∀ (other : Nat) (stored : AssociatedDataCacheItem), t[other]? = some stored → item.freq ≤ stored.freq) ↔
        LeastFound (t.toList.map fun it => it.2.freq)) := by
  cases hlist : t.toList with
  | nil =>
      rw [ExtTreeMap.toList_eq_nil_iff] at hlist
      cases hfilled.symm.trans (ExtTreeMap.isEmpty_iff.mpr hlist)
  | cons first rest =>
      obtain ⟨hstored, hsize, hkeys⟩ := pop_spec hlist
      refine ⟨_, _, hstored, hsize, hkeys, ?_⟩
      rw [← victim_least_iff, ← hlist]
      constructor
      · exact fun h it hit => h it.1 it.2 (ExtTreeMap.mem_toList_iff_getElem?_eq_some.mp hit)
      · exact fun h other stored hother => h (other, stored)
          (ExtTreeMap.mem_toList_iff_getElem?_eq_some.mpr hother)

def used (freq : Int) : AssociatedDataCacheItem := { data := ∅, name := "alice", freq }

def threeUsers : Cache := ((∅ : Cache).insert 1 (used 3)).insert 2 (used 2) |>.insert 3 (used 1)

theorem evicts_least_iff_twoUsers :
    ∃ (uid : Nat) (item : AssociatedDataCacheItem),
      (((∅ : Cache).insert 1 (used 3)).insert 2 (used 2))[uid]? = some item ∧
      ∀ (other : Nat) (stored : AssociatedDataCacheItem),
        (((∅ : Cache).insert 1 (used 3)).insert 2 (used 2))[other]? = some stored →
        item.freq ≤ stored.freq := by
  obtain ⟨uid, item, hstored, -, -, hleast⟩ :=
    evicts_least_iff (((∅ : Cache).insert 1 (used 3)).insert 2 (used 2)) (by decide +kernel)
  refine ⟨uid, item, hstored, hleast.mpr ?_⟩
  have hfreqs : (((∅ : Cache).insert 1 (used 3)).insert 2 (used 2)).toList.map
      (fun it => it.2.freq) = [3, 2] := by
    decide +kernel
  rw [hfreqs]
  exact fun _ h => by cases h

/-- The second user is removed, though the third has used the cache less: its counter is compared with one that has
been reset. -/
theorem not_evicts_least_threeUsers :
    ¬ ∃ (uid : Nat) (item : AssociatedDataCacheItem), threeUsers[uid]? = some item ∧
      (∀ other, other ∈ threeUsers.popDataFromAssociatedDataCache ↔ other ∈ threeUsers ∧ other ≠ uid) ∧
      ∀ (other : Nat) (stored : AssociatedDataCacheItem), threeUsers[other]? = some stored →
        item.freq ≤ stored.freq := by
  rintro ⟨uid, item, hstored, hkeys, hleast⟩
  have hsecond : 2 ∈ threeUsers ∧ 2 ∉ threeUsers.popDataFromAssociatedDataCache := by
    decide +kernel
  have huid : uid = 2 := by
    by_contra hne
    exact hsecond.2 ((hkeys 2).mpr ⟨hsecond.1, fun h => hne h.symm⟩)
  subst huid
  have hfreq : threeUsers[2]? = some (used 2) ∧ threeUsers[3]? = some (used 1) := by
    constructor
    · rw [threeUsers, ExtTreeMap.getElem?_insert, if_neg (by decide), ExtTreeMap.getElem?_insert,
        if_pos (by decide)]
    · rw [threeUsers, ExtTreeMap.getElem?_insert, if_pos (by decide)]
  have hitem : item = used 2 := Option.some.inj (hstored.symm.trans hfreq.1)
  have hle := hleast 3 (used 1) hfreq.2
  rw [hitem] at hle
  exact absurd hle (by decide)

end OsAccount.CacheEviction
