import OsAccount.Machine
import Mathlib.Logic.Function.Basic

namespace OsAccount.KeyedLocks

variable {κ μ ι : Type}

structure Holder (κ μ : Type) where
  key : κ
  lock : μ
  locked : Bool := false

structure Table (κ μ ι : Type) where
  entry : κ → Option μ
  holder : ι → Option (Holder κ μ)

def Table.Unused (t : Table κ μ ι) (m : μ) : Prop := ∀ j h, t.holder j = some h → h.lock ≠ m

/-- Two who have locks of one key have one lock, that of the table, and only one of them has
acquired it. -/
structure Exclusive (t : Table κ μ ι) : Prop where
  same : ∀ i j h h', t.holder i = some h → t.holder j = some h' → h.key = h'.key → h.lock = h'.lock
  entry : ∀ i h m, t.holder i = some h → t.entry h.key = some m → m = h.lock
  one : ∀ i j h h', t.holder i = some h → t.holder j = some h' → h.key = h'.key → h.locked = true →
    h'.locked = true → i = j

structure Sound (t : Table κ μ ι) : Prop where
  found : ∀ i h, t.holder i = some h → t.entry h.key = some h.lock
  one : ∀ i j h h', t.holder i = some h → t.holder j = some h' → h.lock = h'.lock → h.locked = true →
    h'.locked = true → i = j

theorem sound_of_nobody {t : Table κ μ ι} (h : ∀ i, t.holder i = none) : Sound t where
  found i a ha := by cases (h i).symm.trans ha
  one i _ a _ ha := by cases (h i).symm.trans ha

theorem Sound.exclusive {t : Table κ μ ι} (h : Sound t) : Exclusive t where
  same i j a b ha hb hkey := by
    have hfound := h.found i a ha
    rw [hkey, h.found j b hb] at hfound
    exact (Option.some.inj hfound).symm
  entry i a m ha hm := by
    rw [h.found i a ha] at hm
    exact (Option.some.inj hm).symm
  one i j a b ha hb hkey := by
    have hfound := h.found i a ha
    rw [hkey, h.found j b hb] at hfound
    exact h.one i j a b ha hb (Option.some.inj hfound).symm

variable [DecidableEq κ] [DecidableEq ι]

/-- What may happen to such a table. The guards are about locks, not about keys: they are what
counting the references to a lock can tell. -/
inductive Move (t : Table κ μ ι) : Table κ μ ι → Prop
  | stay : Move t t
  | join (i : ι) (k : κ) (m : μ) (hm : ∀ m', t.entry k = some m' → m' = m ∨ t.Unused m') :
      Move t ⟨Function.update t.entry k (some m), Function.update t.holder i (some ⟨k, m, false⟩)⟩
  | acquire (i : ι) (h : Holder κ μ) (hi : t.holder i = some h)
      (hfree : ∀ j h', t.holder j = some h' → h'.lock = h.lock → h'.locked = false) :
      Move t ⟨t.entry, Function.update t.holder i (some { h with locked := true })⟩
  | release (i : ι) (h : Holder κ μ) (hi : t.holder i = some h) :
      Move t ⟨t.entry, Function.update t.holder i (some { h with locked := false })⟩
  | leave (i : ι) : Move t ⟨t.entry, Function.update t.holder i none⟩
  | erase (i : ι) (h : Holder κ μ) (hi : t.holder i = some h)
      (halone : ∀ j h', t.holder j = some h' → h'.lock = h.lock → j = i) :
      Move t ⟨Function.update t.entry h.key none, Function.update t.holder i none⟩

section moves

variable {t t' : Table κ μ ι}

omit [DecidableEq κ] in
theorem Sound.update (hs : Sound t) {i : ι} {h : Holder κ μ} (hi : t.holder i = some h) (locked : Bool)
    (hfree : locked = true → ∀ j h', t.holder j = some h' → h'.lock = h.lock → h'.locked = false) :
    Sound ⟨t.entry, Function.update t.holder i (some { h with locked })⟩ := by
  have hcases : ∀ j a, Function.update t.holder i (some { h with locked }) j = some a →
      (j = i ∧ a = { h with locked }) ∨ (j ≠ i ∧ t.holder j = some a) := by
    intro j a ha
    by_cases hj : j = i
    · subst hj
      rw [Function.update_self] at ha
      exact .inl ⟨rfl, (Option.some.inj ha).symm⟩
    · rw [Function.update_of_ne hj] at ha
      exact .inr ⟨hj, ha⟩
  constructor
  · intro j a ha
    obtain ⟨-, rfl⟩ | ⟨-, hold⟩ := hcases j a ha
    · exact hs.found i h hi
    · exact hs.found j a hold
  · intro j j' a b ha hb hlock hlocked hlocked'
    obtain ⟨rfl, rfl⟩ | ⟨-, hold⟩ := hcases j a ha <;> obtain ⟨rfl, rfl⟩ | ⟨-, hold'⟩ := hcases j' b hb
    · rfl
    · exact absurd hlocked' (Bool.eq_false_iff.mp (hfree hlocked j' b hold' hlock.symm))
    · exact absurd hlocked (Bool.eq_false_iff.mp (hfree hlocked' j a hold hlock))
    · exact hs.one j j' a b hold hold' hlock hlocked hlocked'

omit [DecidableEq κ] in
theorem Sound.leave (hs : Sound t) (i : ι) : Sound ⟨t.entry, Function.update t.holder i none⟩ := by
  have hold : ∀ j a, Function.update t.holder i none j = some a → t.holder j = some a := by
    intro j a ha
    by_cases hj : j = i
    · subst hj
      rw [Function.update_self] at ha
      cases ha
    · rwa [Function.update_of_ne hj] at ha
  exact ⟨fun j a ha => hs.found j a (hold j a ha),
    fun j j' a b ha hb => hs.one j j' a b (hold j a ha) (hold j' b hb)⟩

theorem Sound.join (hs : Sound t) (i : ι) {k : κ} {m : μ} (hm : ∀ m', t.entry k = some m' → m' = m ∨ t.Unused m') :
    Sound ⟨Function.update t.entry k (some m), Function.update t.holder i (some ⟨k, m, false⟩)⟩ := by
  have hcases : ∀ j a, Function.update t.holder i (some ⟨k, m, false⟩) j = some a →
      a = ⟨k, m, false⟩ ∨ t.holder j = some a := by
    intro j a ha
    by_cases hj : j = i
    · subst hj
      rw [Function.update_self] at ha
      exact .inl (Option.some.inj ha).symm
    · rw [Function.update_of_ne hj] at ha
      exact .inr ha
  constructor
  · intro j a ha
    obtain rfl | hold := hcases j a ha
    · exact Function.update_self ..
    · have hfound := hs.found j a hold
      by_cases hk : a.key = k
      · subst hk
        rcases hm a.lock hfound with rfl | hunused
        · exact Function.update_self ..
        · exact absurd rfl (hunused j a hold)
      · exact (Function.update_of_ne hk ..).trans hfound
  · intro j j' a b ha hb hlock hlocked hlocked'
    obtain rfl | hold := hcases j a ha
    · cases hlocked
    · obtain rfl | hold' := hcases j' b hb
      · cases hlocked'
      · exact hs.one j j' a b hold hold' hlock hlocked hlocked'

theorem Sound.erase (hs : Sound t) {i : ι} {h : Holder κ μ} (hi : t.holder i = some h)
    (halone : ∀ j h', t.holder j = some h' → h'.lock = h.lock → j = i) :
    Sound ⟨Function.update t.entry h.key none, Function.update t.holder i none⟩ := by
  refine ⟨fun j a ha => ?_, (hs.leave i).one⟩
  change Function.update t.holder i none j = some a at ha
  have hne : j ≠ i := by
    rintro rfl
    rw [Function.update_self] at ha
    cases ha
  rw [Function.update_of_ne hne] at ha
  have hfound := hs.found j a ha
  have hkey : a.key ≠ h.key := by
    intro hkey
    rw [hkey, hs.found i h hi] at hfound
    exact hne (halone j a ha (Option.some.inj hfound).symm)
  exact (Function.update_of_ne hkey ..).trans hfound

theorem Move.sound (hmove : Move t t') (hs : Sound t) : Sound t' := by
  cases hmove with
  | stay => exact hs
  | join i k m hm => exact hs.join i hm
  | acquire i h hi hfree => exact hs.update hi true fun _ => hfree
  | release i h hi => exact hs.update hi false nofun
  | leave i => exact hs.leave i
  | erase i h hi halone => exact hs.erase hi halone

end moves

theorem exclusive_run {σ α : Type} {step : σ → α → σ} {Inv : σ → Prop} (view : σ → Table κ μ ι)
    (hinv : ∀ s a, Inv s → Inv (step s a)) (hmove : ∀ s a, Inv s → Sound (view s) → Move (view s) (view (step s a)))
    {s : σ} (hs : Inv s) (hview : Sound (view s)) (as : List α) : Exclusive (view (Machine.run step s as)) := by
  have hstep : ∀ s a, Inv s ∧ Sound (view s) → Inv (step s a) ∧ Sound (view (step s a)) :=
    fun s a h => ⟨hinv s a h.1, (hmove s a h.1 h.2).sound h.2⟩
  exact (Machine.run_invariant hstep ⟨hs, hview⟩ as).2.exclusive

section objects

variable {α : Type}

omit [DecidableEq κ] [DecidableEq ι]

def holders (holder? : α → Option (Holder κ μ)) (objects : List α) (i : Nat) : Option (Holder κ μ) :=
  objects[i]?.bind holder?

variable {holder? : α → Option (Holder κ μ)} {objects : List α}

theorem holders_eq_some {i : Nat} {h : Holder κ μ} :
    holders holder? objects i = some h ↔ ∃ a, objects[i]? = some a ∧ holder? a = some h := Option.bind_eq_some_iff

theorem holders_of_getElem? {i : Nat} {a : α} (hi : objects[i]? = some a) :
    holders holder? objects i = holder? a := by
  rw [holders, hi, Option.bind_some]

theorem holders_append (a : α) :
    holders holder? (objects ++ [a]) = Function.update (holders holder? objects) objects.length (holder? a) := by
  funext i
  rcases Nat.lt_trichotomy i objects.length with hi | rfl | hi
  · rw [Function.update_of_ne (Nat.ne_of_lt hi), holders, holders, List.getElem?_append_left hi]
  · rw [Function.update_self, holders_of_getElem? List.getElem?_concat_length]
  · have hlength : (objects ++ [a]).length ≤ i := by rwa [List.length_append, List.length_singleton]
    rw [Function.update_of_ne (Nat.ne_of_gt hi), holders, holders, List.getElem?_eq_none hlength,
      List.getElem?_eq_none (Nat.le_of_lt hi)]

theorem holders_set {i : Nat} {a : α} (hi : objects[i]? = some a) (b : α) :
    holders holder? (objects.set i b) = Function.update (holders holder? objects) i (holder? b) := by
  obtain ⟨hlt, -⟩ := List.getElem?_eq_some_iff.mp hi
  funext j
  by_cases hj : j = i
  · subst hj
    rw [Function.update_self, holders_of_getElem? (List.getElem?_set_self hlt)]
  · rw [Function.update_of_ne hj, holders, holders, List.getElem?_set_ne (Ne.symm hj)]

theorem eq_of_countP_le_one {p : α → Bool} {l : List α} (h : l.countP p ≤ 1) {i j : Nat} {a b : α}
    (hi : l[i]? = some a) (hj : l[j]? = some b) (ha : p a = true) (hb : p b = true) : i = j := by
  induction l generalizing i j with
  | nil => cases hi
  | cons c l ih =>
      rw [List.countP_cons] at h
      have hrest : ∀ {k : Nat} {d : α}, l[k]? = some d → p d = true → 0 < l.countP p :=
        fun hk hd => List.countP_pos_iff.mpr ⟨_, List.mem_of_getElem? hk, hd⟩
      cases i with
      | zero =>
          obtain rfl : c = a := Option.some.inj hi
          cases j with
          | zero => rfl
          | succ j =>
              have hpos := hrest hj hb
              rw [if_pos ha] at h
              omega
      | succ i =>
          have hpos := hrest hi ha
          cases j with
          | zero =>
              obtain rfl : c = b := Option.some.inj hj
              rw [if_pos hb] at h
              omega
          | succ j => exact congrArg Nat.succ (ih (by omega) hi hj)

variable {p : α → Bool} {m : μ}

theorem not_lock_of_countP_eq_zero (hp : ∀ a h, holder? a = some h → h.lock = m → p a = true)
    (h : objects.countP p = 0) (j : Nat) (b : Holder κ μ) (hb : holders holder? objects j = some b) : b.lock ≠ m := by
  intro hlock
  obtain ⟨a, hj, ha⟩ := holders_eq_some.mp hb
  exact List.countP_eq_zero.mp h a (List.mem_of_getElem? hj) (hp a b ha hlock)

theorem eq_of_lock_of_countP_le_one (hp : ∀ a h, holder? a = some h → h.lock = m → p a = true)
    (h : objects.countP p ≤ 1) {i : Nat} {a : α} (hi : objects[i]? = some a) (ha : p a = true) (j : Nat)
    (b : Holder κ μ) (hb : holders holder? objects j = some b) (hlock : b.lock = m) : j = i := by
  obtain ⟨a', hj, ha'⟩ := holders_eq_some.mp hb
  exact eq_of_countP_le_one h hj hi (hp a' b ha' hlock) ha

theorem not_locked_of_any_eq_false (hp : ∀ a h, holder? a = some h → h.lock = m → h.locked = true → p a = true)
    (h : objects.any p = false) (j : Nat) (b : Holder κ μ) (hb : holders holder? objects j = some b)
    (hlock : b.lock = m) : b.locked = false := by
  obtain ⟨a, hj, ha⟩ := holders_eq_some.mp hb
  refine Bool.eq_false_iff.mpr fun hlocked => ?_
  exact List.any_eq_false.mp h a (List.mem_of_getElem? hj) (hp a b ha hlock hlocked)

end objects

end OsAccount.KeyedLocks
