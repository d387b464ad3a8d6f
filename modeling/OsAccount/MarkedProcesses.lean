import OsAccount.Machine
import Mathlib.Logic.ExistsUnique
import Mathlib.Logic.Function.Basic
import Mathlib.Data.List.Nodup

namespace OsAccount.MarkedProcesses

variable {ι μ κ ρ α β Op : Type}

/-- A process that sets and clears markers, takes mutexes, and asks the outside
for answers. -/
inductive Proc (ι μ κ ρ α : Type)
  | done (a : α)
  | add (id : ι) (k : Bool → Proc ι μ κ ρ α)
  | remove (id : ι) (k : Proc ι μ κ ρ α)
  | lock (m : μ) (k : Proc ι μ κ ρ α)
  | unlock (m : μ) (k : Proc ι μ κ ρ α)
  | ask (c : κ) (k : ρ → Proc ι μ κ ρ α)

namespace Proc

def bind : Proc ι μ κ ρ α → (α → Proc ι μ κ ρ β) → Proc ι μ κ ρ β
  | done a, f => f a
  | add id k, f => add id fun b => (k b).bind f
  | remove id k, f => remove id (k.bind f)
  | lock m k, f => lock m (k.bind f)
  | unlock m k, f => unlock m (k.bind f)
  | ask c k, f => ask c fun r => (k r).bind f

instance : Monad (Proc ι μ κ ρ) where
  pure := done
  bind := bind

/-- Whatever the answers are, the process ends with `Q` for its result and the
markers that it has set and not cleared. A strict process only clears its own. -/
def Ends [BEq ι] (strict : Bool) (Q : α → List ι → Prop) : Proc ι μ κ ρ α → List ι → Prop
  | done a, held => Q a held
  | add id k, held => Ends strict Q (k true) (id :: held) ∧ Ends strict Q (k false) held
  | remove id k, held => (strict = true → id ∈ held) ∧ Ends strict Q k (held.erase id)
  | lock _ k, held => Ends strict Q k held
  | unlock _ k, held => Ends strict Q k held
  | ask _ k, held => ∀ r, Ends strict Q (k r) held

variable [BEq ι] {strict : Bool} {Q R : α → List ι → Prop} {held : List ι}

variable {p : Proc ι μ κ ρ α}

theorem Ends.mono (hQ : ∀ a held, Q a held → R a held) (h : Ends strict Q p held) :
    Ends strict R p held := by
  induction p generalizing held with
  | done a => exact hQ a held h
  | add id k ih => exact ⟨ih true h.1, ih false h.2⟩
  | remove id k ih => exact ⟨h.1, ih h.2⟩
  | lock m k ih => exact ih h
  | unlock m k ih => exact ih h
  | ask c k ih => exact fun r => ih r (h r)

variable {f : α → Proc ι μ κ ρ β}

theorem Ends.bind {R : β → List ι → Prop}
    (h : Ends strict (fun a held => Ends strict R (f a) held) p held) : Ends strict R (p >>= f) held := by
  induction p generalizing held with
  | done a => exact h
  | add id k ih => exact ⟨ih true h.1, ih false h.2⟩
  | remove id k ih => exact ⟨h.1, ih h.2⟩
  | lock m k ih => exact ih h
  | unlock m k ih => exact ih h
  | ask c k ih => exact fun r => ih r (h r)

def IsBalanced (strict : Bool) (p : Proc ι μ κ ρ α) : Prop := ∀ held, Ends strict (fun _ held' => held' = held) p held

def Releases (strict : Bool) (id : ι) (p : Proc ι μ κ ρ α) : Prop :=
  ∀ held, Ends strict (fun _ held' => held' = held) p (id :: held)

theorem IsBalanced.pure (a : α) : IsBalanced strict (Pure.pure a : Proc ι μ κ ρ α) := fun _ => rfl

theorem IsBalanced.ask (c : κ) {k : ρ → Proc ι μ κ ρ α} (h : ∀ r, IsBalanced strict (k r)) :
    IsBalanced strict (ask c k) :=
  fun held r => h r held

theorem IsBalanced.bind (hp : IsBalanced strict p)
    (hf : ∀ a, IsBalanced strict (f a)) : IsBalanced strict (p >>= f) := by
  intro held
  apply Ends.bind
  refine (hp held).mono ?_
  rintro a held' rfl
  exact hf a held'

theorem Releases.bind {id : ι} (hp : IsBalanced strict p)
    (hf : ∀ a, Releases strict id (f a)) : Releases strict id (p >>= f) := by
  intro held
  apply Ends.bind
  refine (hp (id :: held)).mono ?_
  rintro a _ rfl
  exact hf a held

theorem IsBalanced.ite {c : Prop} [Decidable c] {p q : Proc ι μ κ ρ α} (hp : IsBalanced strict p)
    (hq : IsBalanced strict q) : IsBalanced strict (if c then p else q) := by
  split
  · exact hp
  · exact hq

theorem Releases.ite {c : Prop} [Decidable c] {id : ι} {p q : Proc ι μ κ ρ α} (hp : Releases strict id p)
    (hq : Releases strict id q) : Releases strict id (if c then p else q) := by
  split
  · exact hp
  · exact hq

theorem Releases.remove [LawfulBEq ι] (id : ι) (hp : IsBalanced strict p) :
    Releases strict id (remove id p) := by
  intro held
  refine ⟨fun _ => List.mem_cons_self, ?_⟩
  rw [List.erase_cons_head]
  exact hp held

theorem IsBalanced.add (id : ι) {k : Bool → Proc ι μ κ ρ α} (htrue : Releases strict id (k true))
    (hfalse : IsBalanced strict (k false)) : IsBalanced strict (add id k) :=
  fun held => ⟨htrue held, hfalse held⟩

end Proc

structure Thread (ι μ κ ρ α Op : Type) where
  op : Op
  proc : Proc ι μ κ ρ α
  held : List ι

structure System (ι μ κ ρ α Op : Type) where
  markers : List ι
  locked : List μ
  threads : Nat → Option (Thread ι μ κ ρ α Op)

def System.empty : System ι μ κ ρ α Op := ⟨[], [], fun _ => none⟩

def System.put (s : System ι μ κ ρ α Op) (t : Nat) (th : Thread ι μ κ ρ α Op) : System ι μ κ ρ α Op :=
  { s with threads := Function.update s.threads t (some th) }

inductive Event (ρ Op : Type)
  | start (t : Nat) (op : Op)
  | next (t : Nat) (r : ρ)

def System.Holds (s : System ι μ κ ρ α Op) (t : Nat) (id : ι) : Prop := ∃ th, s.threads t = some th ∧ id ∈ th.held

/-- An id is marked when exactly one operation has set its marker and not cleared
it, no two operations have, and an operation that has ended has none. -/
structure Owned (s : System ι μ κ ρ α Op) : Prop where
  marked : ∀ id, id ∈ s.markers ↔ ∃! t, s.Holds t id
  exclusive : ∀ id t t', s.Holds t id → s.Holds t' id → t = t'
  ended : ∀ t th a, s.threads t = some th → th.proc = .done a → th.held = []

variable {s : System ι μ κ ρ α Op} {t : Nat} {th th' : Thread ι μ κ ρ α Op} {id : ι}

@[simp] theorem threads_put : (s.put t th').threads t = some th' := Function.update_self _ _ _

theorem threads_put_of_ne {t' : Nat} (ht : t' ≠ t) : (s.put t th').threads t' = s.threads t' :=
  Function.update_of_ne ht _ _

theorem holds_put {t' : Nat} : (s.put t th').Holds t' id ↔ if t' = t then id ∈ th'.held else s.Holds t' id := by
  unfold System.Holds
  split
  · rename_i ht
    subst ht
    simp
  · rename_i ht
    rw [threads_put_of_ne ht]

theorem holds_iff (hth : s.threads t = some th) : s.Holds t id ↔ id ∈ th.held := by
  simp [System.Holds, hth]

theorem forall_put {P : Thread ι μ κ ρ α Op → Prop} (h : ∀ t th, s.threads t = some th → P th) (hth' : P th')
    (t' : Nat) (th₁ : Thread ι μ κ ρ α Op) (h₁ : (s.put t th').threads t' = some th₁) : P th₁ := by
  by_cases ht : t' = t
  · subst ht
    rw [threads_put, Option.some_inj] at h₁
    exact h₁ ▸ hth'
  · rw [threads_put_of_ne ht] at h₁
    exact h t' th₁ h₁

variable [DecidableEq ι] {may : Op → Bool}

def stray (s : System ι μ κ ρ α Op) (th : Thread ι μ κ ρ α Op) : Bool :=
  match th.proc with
  | .remove id _ => id ∈ s.markers ∧ id ∉ th.held
  | _ => false

/-- The steps of the operations in `may` clear no marker of another operation. -/
def NoStray (may : Op → Bool) (s : System ι μ κ ρ α Op) : Event ρ Op → Prop
  | .start _ _ => True
  | .next t _ => ∀ th ∈ s.threads t, may th.op = true → stray s th = false

instance (may : Op → Bool) (s : System ι μ κ ρ α Op) : (e : Event ρ Op) → Decidable (NoStray may s e)
  | .start _ _ => .isTrue trivial
  | .next t _ => inferInstanceAs (Decidable (∀ th ∈ s.threads t, may th.op = true → stray s th = false))

structure Inv (may : Op → Bool) (s : System ι μ κ ρ α Op) : Prop where
  nodup : s.markers.Nodup
  marked : ∀ id, id ∈ s.markers ↔ ∃ t, s.Holds t id
  exclusive : ∀ id t t', s.Holds t id → s.Holds t' id → t = t'
  held : ∀ t th, s.threads t = some th → th.held.Nodup
  ends : ∀ t th, s.threads t = some th → th.proc.Ends (!may th.op) (fun _ held => held = []) th.held

theorem Inv.owned (h : Inv may s) : Owned s where
  marked id := by
    rw [h.marked]
    refine ⟨?_, fun ⟨t, ht, _⟩ => ⟨t, ht⟩⟩
    rintro ⟨t, ht⟩
    exact ⟨t, ht, fun t' ht' => h.exclusive id t' t ht' ht⟩
  exclusive := h.exclusive
  ended t th a hth hdone := by
    have hends := h.ends t th hth
    rwa [hdone] at hends

theorem Inv.put (h : Inv may s) (hheld : ∀ id, id ∈ th'.held ↔ s.Holds t id) (hnodup : th'.held.Nodup)
    (hends : th'.proc.Ends (!may th'.op) (fun _ held => held = []) th'.held) : Inv may (s.put t th') := by
  have hholds : ∀ t' id, (s.put t th').Holds t' id ↔ s.Holds t' id := by
    intro t' id
    rw [holds_put]
    split
    · rename_i ht
      rw [ht, hheld]
    · rfl
  refine ⟨h.nodup, ?_, ?_, ?_, ?_⟩
  · intro id
    simp only [hholds]
    exact h.marked id
  · intro id t₁ t₂
    rw [hholds, hholds]
    exact h.exclusive id t₁ t₂
  · exact forall_put h.held hnodup
  · exact forall_put h.ends hends

theorem Inv.add (h : Inv may s) (hth : s.threads t = some th) (hid : id ∉ s.markers) {k : Bool → Proc ι μ κ ρ α}
    (hends : (k true).Ends (!may th.op) (fun _ held => held = []) (id :: th.held)) :
    Inv may { s.put t { th with proc := k true, held := id :: th.held } with markers := s.markers ++ [id] } := by
  have hnone : ∀ t', ¬ s.Holds t' id := fun t' ht' => hid ((h.marked id).2 ⟨t', ht'⟩)
  have hholds : ∀ t' id', (s.put t { th with proc := k true, held := id :: th.held }).Holds t' id' ↔
      s.Holds t' id' ∨ (t' = t ∧ id' = id) := by
    intro t' id'
    rw [holds_put]
    split
    · rename_i ht
      subst ht
      simp [holds_iff hth, or_comm]
    · rename_i ht
      simp [ht]
  refine ⟨?_, ?_, ?_, ?_, ?_⟩
  · rw [List.nodup_append]
    refine ⟨h.nodup, by simp, ?_⟩
    rintro a ha b hb rfl
    obtain rfl : a = id := by simpa using hb
    exact hid ha
  · intro id'
    rw [List.mem_append, List.mem_singleton, h.marked]
    refine ⟨?_, ?_⟩
    · rintro (⟨t', ht'⟩ | rfl)
      · exact ⟨t', (hholds t' id').2 (.inl ht')⟩
      · exact ⟨t, (hholds t id').2 (.inr ⟨rfl, rfl⟩)⟩
    · rintro ⟨t', ht'⟩
      obtain ht' | ⟨-, rfl⟩ := (hholds t' id').1 ht'
      · exact .inl ⟨t', ht'⟩
      · exact .inr rfl
  · intro id' t₁ t₂ h₁ h₂
    obtain hs₁ | ⟨ht₁, hid₁⟩ := (hholds t₁ id').1 h₁
    · obtain hs₂ | ⟨-, rfl⟩ := (hholds t₂ id').1 h₂
      · exact h.exclusive id' t₁ t₂ hs₁ hs₂
      · exact absurd hs₁ (hnone t₁)
    · obtain hs₂ | ⟨ht₂, -⟩ := (hholds t₂ id').1 h₂
      · exact absurd (hid₁ ▸ hs₂) (hnone t₂)
      · rw [ht₁, ht₂]
  · refine forall_put h.held ?_
    exact List.nodup_cons.2 ⟨fun hmem => hnone t ((holds_iff hth).2 hmem), h.held t th hth⟩
  · exact forall_put h.ends hends

theorem Inv.remove (h : Inv may s) (hth : s.threads t = some th) {k : Proc ι μ κ ρ α}
    (hown : id ∈ th.held ∨ id ∉ s.markers)
    (hends : k.Ends (!may th.op) (fun _ held => held = []) (th.held.erase id)) :
    Inv may { s.put t { th with proc := k, held := th.held.erase id } with markers := s.markers.erase id } := by
  have hheld := h.held t th hth
  have hmine : ∀ t', s.Holds t' id → t' = t := by
    intro t' ht'
    obtain hown | hown := hown
    · exact h.exclusive id t' t ht' ((holds_iff hth).2 hown)
    · exact absurd ((h.marked id).2 ⟨t', ht'⟩) hown
  have hholds : ∀ t' id', (s.put t { th with proc := k, held := th.held.erase id }).Holds t' id' ↔
      id' ≠ id ∧ s.Holds t' id' := by
    intro t' id'
    rw [holds_put]
    split
    · rename_i ht
      subst ht
      rw [hheld.mem_erase_iff, holds_iff hth]
    · rename_i ht
      refine ⟨fun h' => ⟨?_, h'⟩, fun h' => h'.2⟩
      rintro rfl
      exact ht (hmine t' h')
  refine ⟨h.nodup.erase id, ?_, ?_, ?_, ?_⟩
  · intro id'
    rw [h.nodup.mem_erase_iff, h.marked]
    refine ⟨?_, ?_⟩
    · rintro ⟨hne, t', ht'⟩
      exact ⟨t', (hholds t' id').2 ⟨hne, ht'⟩⟩
    · rintro ⟨t', ht'⟩
      exact ⟨((hholds t' id').1 ht').1, t', ((hholds t' id').1 ht').2⟩
  · intro id' t₁ t₂ h₁ h₂
    exact h.exclusive id' t₁ t₂ ((hholds t₁ id').1 h₁).2 ((hholds t₂ id').1 h₂).2
  · exact forall_put h.held (hheld.erase id)
  · exact forall_put h.ends hends

theorem inv_empty : Inv may (System.empty : System ι μ κ ρ α Op) :=
  ⟨List.nodup_nil, by simp [System.empty, System.Holds], by simp [System.empty, System.Holds],
    nofun, nofun⟩

theorem Inv.locked (h : Inv may s) (locked : List μ) : Inv may { s with locked } :=
  ⟨h.nodup, h.marked, h.exclusive, h.held, h.ends⟩

variable [DecidableEq μ]

def next (r : ρ) (t : Nat) (th : Thread ι μ κ ρ α Op) (s : System ι μ κ ρ α Op) : System ι μ κ ρ α Op :=
  match th.proc with
  | .done _ => s
  | .add id k =>
      if id ∈ s.markers then s.put t { th with proc := k false }
      else { s.put t { th with proc := k true, held := id :: th.held } with markers := s.markers ++ [id] }
  | .remove id k =>
      { s.put t { th with proc := k, held := th.held.erase id } with markers := s.markers.erase id }
  | .lock m k =>
      if m ∈ s.locked then s else { s.put t { th with proc := k } with locked := m :: s.locked }
  | .unlock m k => { s.put t { th with proc := k } with locked := s.locked.erase m }
  | .ask _ k => s.put t { th with proc := k r }

variable (prog : Op → Proc ι μ κ ρ α)

def step (s : System ι μ κ ρ α Op) : Event ρ Op → System ι μ κ ρ α Op
  | .start t op => if (s.threads t).isSome then s else s.put t ⟨op, prog op, []⟩
  | .next t r =>
      match s.threads t with
      | none => s
      | some th => next r t th s

theorem Inv.next (h : Inv may s) (hth : s.threads t = some th) (hstray : may th.op = true → stray s th = false)
    (r : ρ) : Inv may (MarkedProcesses.next r t th s) := by
  have hends := h.ends t th hth
  have hheld : ∀ id, id ∈ th.held ↔ s.Holds t id := fun id => (holds_iff hth).symm
  have hnodup := h.held t th hth
  unfold MarkedProcesses.next
  cases hproc : th.proc with
  | done a => exact h
  | add id k =>
      rw [hproc] at hends
      dsimp only
      split
      · exact h.put hheld hnodup hends.2
      · rename_i hid
        exact h.add hth hid hends.1
  | remove id k =>
      rw [hproc] at hends
      refine h.remove hth ?_ hends.2
      cases hmay : may th.op with
      | false => exact .inl (hends.1 (by rw [hmay]; rfl))
      | true =>
          have hnot := hstray hmay
          rw [stray, hproc] at hnot
          by_cases hin : id ∈ s.markers
          · left
            by_contra hout
            simp [hin, hout] at hnot
          · exact .inr hin
  | lock m k =>
      rw [hproc] at hends
      dsimp only
      split
      · exact h
      · have hput : Inv may (s.put t { th with proc := k }) := h.put hheld hnodup hends
        exact hput.locked _
  | unlock m k =>
      rw [hproc] at hends
      have hput : Inv may (s.put t { th with proc := k }) := h.put hheld hnodup hends
      exact hput.locked _
  | ask c k =>
      rw [hproc] at hends
      exact h.put hheld hnodup (hends r)

theorem Inv.step (hprog : ∀ op, (prog op).Ends (!may op) (fun _ held => held = []) []) (h : Inv may s)
    {e : Event ρ Op} (hstray : NoStray may s e) : Inv may (MarkedProcesses.step prog s e) := by
  cases e with
  | start t op =>
      cases hth : s.threads t with
      | some th =>
          simp only [MarkedProcesses.step, hth, Option.isSome_some, if_true]
          exact h
      | none =>
          simp only [MarkedProcesses.step, hth, Option.isSome_none, Bool.false_eq_true, if_false]
          refine h.put ?_ List.nodup_nil (hprog op)
          simp [System.Holds, hth]
  | next t r =>
      cases hth : s.threads t with
      | none =>
          simp only [MarkedProcesses.step, hth]
          exact h
      | some th =>
          simp only [MarkedProcesses.step, hth]
          exact h.next hth (hstray th hth) r

/-- The markers are owned in every run without stray removals, if every operation
clears what it sets and only those in `may` clear more. -/
theorem owned_run (hprog : ∀ op, (prog op).Ends (!may op) (fun _ held => held = []) []) {es : List (Event ρ Op)}
    (hes : Machine.Meets (MarkedProcesses.step prog) (NoStray may) System.empty es) :
    Owned (Machine.run (MarkedProcesses.step prog) System.empty es) :=
  Inv.owned (Machine.run_invariant_of_meets (fun _ _ h hstray => h.step prog hprog hstray) inv_empty hes)

end OsAccount.MarkedProcesses
