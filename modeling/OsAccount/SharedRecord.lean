import OsAccount.Machine
import Mathlib.Logic.Function.Basic
import Mathlib.Data.List.Nodup

namespace OsAccount.SharedRecord

variable {σ ε ℓ τ : Type}

inductive Effect (σ ε : Type)
  | fail (e : ε)
  | keep
  | write (r : σ)

/-- An operation on a shared record. The checks of `accept` come before the lock
is taken. Under the lock, `prepare` fails or says whether the record is used,
`body` computes from the record that was read, and `conclude` is what remains to
be done once the record is dealt with. -/
structure Operation (σ ε ℓ : Type) where
  accept : Except ε Unit
  lock : ℓ
  prepare : Except ε Bool
  body : σ → Effect σ ε
  conclude : Except ε Unit

def Operation.attempt (op : Operation σ ε ℓ) (read : Except ε Unit) (r : σ) : Effect σ ε :=
  match op.prepare, read with
  | .error e, _ => .fail e
  | .ok false, _ => .keep
  | .ok true, .error e => .fail e
  | .ok true, .ok () => op.body r

def Operation.run (op : Operation σ ε ℓ) (r : σ) : Option σ :=
  match op.accept, op.attempt (.ok ()) r, op.conclude with
  | .ok (), .keep, .ok () => some r
  | .ok (), .write r', .ok () => some r'
  | _, _, _ => none

def serial (ops : τ → Operation σ ε ℓ) : σ → List τ → Option σ
  | r, [] => some r
  | r, t :: ts => ((ops t).run r).bind fun r' => serial ops r' ts

inductive Phase (σ ε : Type)
  | ready
  | entered
  | loaded (r r' : σ)
  | leaving (result : Except ε Unit)
  | finished (result : Except ε Unit)

/-- Calls that run at the same time. `overtaken` marks the calls since whose
read a holder of another lock has written the record, and `order` lists the
successful calls in the order in which they took effect. Neither influences a
step. -/
structure State (σ ε ℓ τ : Type) where
  record : σ
  holder : ℓ → Option τ
  phase : τ → Phase σ ε
  overtaken : τ → Bool
  order : List τ

def initial (r : σ) : State σ ε ℓ τ := ⟨r, fun _ => none, fun _ => .ready, fun _ => false, []⟩

inductive Event (ε τ : Type)
  | enter (t : τ)
  | read (t : τ) (answer : Except ε Unit)
  | store (t : τ) (answer : Except ε Unit)
  | release (t : τ)

def succeeded : Except ε Unit → Bool
  | .ok () => true
  | .error _ => false

def Serializable (ops : τ → Operation σ ε ℓ) (init : σ) (s : State σ ε ℓ τ) : Prop :=
  ∃ order : List τ, order.Nodup ∧
    (∀ t, t ∈ order ↔ s.phase t = .leaving (.ok ()) ∨ s.phase t = .finished (.ok ())) ∧
    serial ops init order = some s.record

theorem serial_snoc (ops : τ → Operation σ ε ℓ) (init : σ) (ts : List τ) (t : τ) :
    serial ops init (ts ++ [t]) = (serial ops init ts).bind (ops t).run := by
  induction ts generalizing init with
  | nil =>
      cases h : (ops t).run init <;> simp [serial, h]
  | cons u ts ih =>
      cases h : (ops u).run init with
      | none => simp [serial, h]
      | some r => simp [serial, h, ih]

variable {op : Operation σ ε ℓ}

theorem attempt_eq_keep {answer : Except ε Unit} {r : σ}
    (h : op.attempt answer r = .keep) : op.attempt (.ok ()) r = .keep := by
  unfold Operation.attempt at h ⊢
  split at h
  all_goals simp_all

theorem attempt_eq_write {answer : Except ε Unit} {r r' : σ}
    (h : op.attempt answer r = .write r') : op.attempt (.ok ()) r = .write r' := by
  unfold Operation.attempt at h ⊢
  split at h
  all_goals simp_all

variable (ops : τ → Operation σ ε ℓ)

def Fits (s : State σ ε ℓ τ) (t : τ) : Prop :=
  match s.phase t with
  | .ready => t ∉ s.order
  | .entered => (ops t).accept = .ok () ∧ s.holder (ops t).lock = some t ∧ t ∉ s.order
  | .loaded r r' => (ops t).accept = .ok () ∧ s.holder (ops t).lock = some t ∧ t ∉ s.order ∧
      (ops t).attempt (.ok ()) r = .write r' ∧ (s.overtaken t = false → s.record = r)
  | .leaving result => s.holder (ops t).lock = some t ∧ (t ∈ s.order ↔ succeeded result)
  | .finished result => t ∈ s.order ↔ succeeded result

structure Inv (init : σ) (s : State σ ε ℓ τ) : Prop where
  fits : ∀ t, Fits ops s t
  nodup : s.order.Nodup
  serial_order : serial ops init s.order = some s.record

variable {ops} {init : σ} {s s' : State σ ε ℓ τ} {t u : τ}

/-- A call does not notice what other calls do, unless they write the record
under the lock that it holds. -/
theorem Fits.frame (h : Fits ops s u) (hphase : s'.phase u = s.phase u)
    (hholder : s.holder (ops u).lock = some u → s'.holder (ops u).lock = some u)
    (horder : u ∈ s'.order ↔ u ∈ s.order)
    (hrecord : s.holder (ops u).lock = some u → s'.overtaken u = false →
      s.overtaken u = false ∧ s'.record = s.record) : Fits ops s' u := by
  unfold Fits at h ⊢
  rw [hphase]
  cases hp : s.phase u with
  | ready =>
      simp only [hp] at h ⊢
      rwa [horder]
  | entered =>
      simp only [hp] at h ⊢
      exact ⟨h.1, hholder h.2.1, by rw [horder]; exact h.2.2⟩
  | loaded r r' =>
      simp only [hp] at h ⊢
      obtain ⟨haccept, hheld, hnot, hattempt, hfresh⟩ := h
      refine ⟨haccept, hholder hheld, by rwa [horder], hattempt, fun ho => ?_⟩
      obtain ⟨ho', hr⟩ := hrecord hheld ho
      rw [hr, hfresh ho']
  | leaving result =>
      simp only [hp] at h ⊢
      exact ⟨hholder h.1, by rw [horder]; exact h.2⟩
  | finished result =>
      simp only [hp] at h ⊢
      rwa [horder]

theorem inv_initial (ops : τ → Operation σ ε ℓ) (r : σ) : Inv ops r (initial r) :=
  ⟨fun t => by simp [Fits, initial], List.nodup_nil, rfl⟩

variable [DecidableEq τ]

def State.setPhase (s : State σ ε ℓ τ) (t : τ) (p : Phase σ ε) : State σ ε ℓ τ :=
  { s with phase := Function.update s.phase t p }

def settle (ops : τ → Operation σ ε ℓ) (s : State σ ε ℓ τ) (t : τ) : State σ ε ℓ τ :=
  { s.setPhase t (.leaving (ops t).conclude) with
    order := if succeeded (ops t).conclude then s.order ++ [t] else s.order }

theorem Inv.setPhase (h : Inv ops init s) {p : Phase σ ε}
    (ht : Fits ops (s.setPhase t p) t) : Inv ops init (s.setPhase t p) := by
  refine ⟨fun u => ?_, h.nodup, h.serial_order⟩
  by_cases hu : u = t
  · rw [hu]
    exact ht
  · exact (h.fits u).frame (by simp [State.setPhase, hu]) id Iff.rfl (fun _ ho => ⟨ho, rfl⟩)

/-- A call that ends its work on the record takes its place in the order. The
other calls that hold a lock either see the same record or are overtaken. -/
theorem Inv.settle (h : Inv ops init s) (hheld : s.holder (ops t).lock = some t) (hnot : t ∉ s.order)
    {r' : σ} {overtaken : τ → Bool} (hrun : succeeded (ops t).conclude → (ops t).run s.record = some r')
    (hfail : ¬succeeded (ops t).conclude → r' = s.record)
    (hothers : ∀ u, u ≠ t → s.holder (ops u).lock = some u → overtaken u = false →
      s.overtaken u = false ∧ r' = s.record) :
    Inv ops init (settle ops { s with record := r', overtaken := overtaken } t) := by
  refine ⟨fun u => ?_, ?_, ?_⟩
  · by_cases hu : u = t
    · subst hu
      by_cases hc : succeeded (ops u).conclude <;>
        simp [Fits, SharedRecord.settle, State.setPhase, hc, hheld, hnot]
    · refine (h.fits u).frame (by simp [SharedRecord.settle, State.setPhase, hu]) id ?_ (hothers u hu)
      by_cases hc : succeeded (ops t).conclude <;> simp [SharedRecord.settle, hc, hu]
  · by_cases hc : succeeded (ops t).conclude
    · simpa [SharedRecord.settle, hc, List.nodup_append, h.nodup] using fun a ha
        (hat : a = t) => hnot (hat ▸ ha)
    · simpa [SharedRecord.settle, hc] using h.nodup
  · by_cases hc : succeeded (ops t).conclude
    · simp [SharedRecord.settle, State.setPhase, hc, serial_snoc, h.serial_order, hrun hc]
    · simpa [SharedRecord.settle, State.setPhase, hc, hfail hc] using h.serial_order

theorem succeeded_iff {result : Except ε Unit} : succeeded result ↔ result = .ok () := by
  cases result <;> simp [succeeded]

theorem run_of_keep {r : σ} (haccept : op.accept = .ok ())
    (hkeep : op.attempt (.ok ()) r = .keep) (hc : succeeded op.conclude) : op.run r = some r := by
  simp [Operation.run, haccept, hkeep, succeeded_iff.1 hc]

theorem run_of_write {r r' : σ} (haccept : op.accept = .ok ())
    (hwrite : op.attempt (.ok ()) r = .write r') (hc : succeeded op.conclude) : op.run r = some r' := by
  simp [Operation.run, haccept, hwrite, succeeded_iff.1 hc]

variable [DecidableEq ℓ]

/-- One step of one call. A step whose turn it is not changes nothing, so that a
list of events is any interleaving that respects the locks. -/
def step (ops : τ → Operation σ ε ℓ) (s : State σ ε ℓ τ) : Event ε τ → State σ ε ℓ τ
  | .enter t =>
      match s.phase t, (ops t).accept with
      | .ready, .error e => s.setPhase t (.finished (.error e))
      | .ready, .ok () =>
          if s.holder (ops t).lock = none then
            { s.setPhase t .entered with holder := Function.update s.holder (ops t).lock (some t) }
          else s
      | _, _ => s
  | .read t answer =>
      match s.phase t with
      | .entered =>
          match (ops t).attempt answer s.record with
          | .fail e => s.setPhase t (.leaving (.error e))
          | .keep => settle ops s t
          | .write r' =>
              { s.setPhase t (.loaded s.record r') with overtaken := Function.update s.overtaken t false }
      | _ => s
  | .store t answer =>
      match s.phase t, answer with
      | .loaded _ _, .error e => s.setPhase t (.leaving (.error e))
      | .loaded _ r', .ok () =>
          settle ops
            { s with record := r', overtaken := fun u => s.overtaken u || (ops u).lock ≠ (ops t).lock } t
      | _, _ => s
  | .release t =>
      match s.phase t with
      | .leaving result =>
          { s.setPhase t (.finished result) with holder := Function.update s.holder (ops t).lock none }
      | _ => s

def Event.call : Event ε τ → τ
  | .enter t | .read t _ | .store t _ | .release t => t

theorem step_phase_of_ne (ops : τ → Operation σ ε ℓ) (s : State σ ε ℓ τ) {e : Event ε τ} (h : e.call ≠ t) :
    (step ops s e).phase t = s.phase t := by
  have hupdate (p : Phase σ ε) : Function.update s.phase e.call p t = s.phase t :=
    Function.update_of_ne (Ne.symm h) p s.phase
  cases e <;> simp only [step] <;> repeat' split
  all_goals first | rfl | exact hupdate _

theorem run_phase_of_not_mem (ops : τ → Operation σ ε ℓ) (s : State σ ε ℓ τ) {es : List (Event ε τ)}
    (h : t ∉ es.map Event.call) : (Machine.run (step ops) s es).phase t = s.phase t := by
  induction es generalizing s with
  | nil => rfl
  | cons e es ih =>
      simp only [List.map_cons, List.mem_cons, not_or] at h
      rw [Machine.run_cons, ih (step ops s e) h.2, step_phase_of_ne ops s (Ne.symm h.1)]

/-- When a call writes, no holder of another lock has written since the call
read the record, and the rest of the call will not fail. -/
def Undisturbed (ops : τ → Operation σ ε ℓ) (s : State σ ε ℓ τ) : Event ε τ → Prop
  | .store t (.ok ()) => ∀ r r', s.phase t = .loaded r r' →
      s.overtaken t = false ∧ succeeded (ops t).conclude
  | _ => True

theorem inv_enter (h : Inv ops init s) (t : τ) : Inv ops init (step ops s (.enter t)) := by
  cases hp : s.phase t with
  | ready =>
      have ht : t ∉ s.order := by simpa [Fits, hp] using h.fits t
      cases ha : (ops t).accept with
      | error e =>
          simp only [step, hp, ha]
          exact h.setPhase (by simpa [Fits, State.setPhase, succeeded] using ht)
      | ok _ =>
          simp only [step, hp, ha]
          by_cases hfree : s.holder (ops t).lock = none
          · rw [if_pos hfree]
            refine ⟨fun u => ?_, h.nodup, h.serial_order⟩
            by_cases hu : u = t
            · subst hu
              simp [Fits, State.setPhase, ha, ht]
            · refine (h.fits u).frame (by simp [State.setPhase, hu]) (fun hheld => ?_) Iff.rfl
                (fun _ ho => ⟨ho, rfl⟩)
              by_cases hl : (ops u).lock = (ops t).lock
              · rw [hl, hfree] at hheld
                cases hheld
              · simpa [hl] using hheld
          · rw [if_neg hfree]
            exact h
  | _ => simpa [step, hp] using h

theorem inv_read (h : Inv ops init s) (t : τ) (answer : Except ε Unit) :
    Inv ops init (step ops s (.read t answer)) := by
  cases hp : s.phase t with
  | entered =>
      obtain ⟨haccept, hheld, hnot⟩ :
          (ops t).accept = .ok () ∧ s.holder (ops t).lock = some t ∧ t ∉ s.order := by
        simpa [Fits, hp] using h.fits t
      cases ha : (ops t).attempt answer s.record with
      | fail e =>
          simp only [step, hp, ha]
          exact h.setPhase (by simp [Fits, State.setPhase, succeeded, hheld, hnot])
      | keep =>
          simp only [step, hp, ha]
          exact h.settle hheld hnot (run_of_keep haccept (attempt_eq_keep ha)) (fun _ => rfl)
            (fun u _ _ ho => ⟨ho, rfl⟩)
      | write r' =>
          simp only [step, hp, ha]
          refine ⟨fun u => ?_, h.nodup, h.serial_order⟩
          by_cases hu : u = t
          · subst hu
            simp [Fits, State.setPhase, haccept, hheld, hnot, attempt_eq_write ha]
          · exact (h.fits u).frame (by simp [State.setPhase, hu]) id Iff.rfl
              (fun _ ho => ⟨by simpa [hu] using ho, rfl⟩)
  | _ => simpa [step, hp] using h

theorem inv_store (h : Inv ops init s) (t : τ) (answer : Except ε Unit)
    (hc : Undisturbed ops s (.store t answer)) : Inv ops init (step ops s (.store t answer)) := by
  cases hp : s.phase t with
  | loaded r r' =>
      obtain ⟨haccept, hheld, hnot, hwrite, hfresh⟩ : (ops t).accept = .ok () ∧
          s.holder (ops t).lock = some t ∧ t ∉ s.order ∧ (ops t).attempt (.ok ()) r = .write r' ∧
          (s.overtaken t = false → s.record = r) := by
        simpa only [Fits, hp] using h.fits t
      cases answer with
      | error e =>
          simp only [step, hp]
          exact h.setPhase (by simp [Fits, State.setPhase, succeeded, hheld, hnot])
      | ok _ =>
          obtain ⟨hover, hconclude⟩ := hc r r' hp
          simp only [step, hp]
          refine h.settle hheld hnot (fun _ => ?_) (fun hfail => absurd hconclude hfail)
            (fun u hu hu' ho => ?_)
          · rw [hfresh hover]
            exact run_of_write haccept hwrite hconclude
          · -- a call that is not overtaken shares the lock of `t`, which only `t` holds
            simp only [Bool.or_eq_false_iff, decide_eq_false_iff_not, not_not] at ho
            rw [ho.2, hheld] at hu'
            exact absurd (Option.some.inj hu').symm hu
  | _ => simpa [step, hp] using h

theorem inv_release (h : Inv ops init s) (t : τ) : Inv ops init (step ops s (.release t)) := by
  cases hp : s.phase t with
  | leaving result =>
      obtain ⟨hheld, horder⟩ : s.holder (ops t).lock = some t ∧ (t ∈ s.order ↔ succeeded result) := by
        simpa only [Fits, hp] using h.fits t
      simp only [step, hp]
      refine ⟨fun u => ?_, h.nodup, h.serial_order⟩
      by_cases hu : u = t
      · subst hu
        simpa [Fits, State.setPhase] using horder
      · refine (h.fits u).frame (by simp [State.setPhase, hu]) (fun hu' => ?_) Iff.rfl (fun _ ho => ⟨ho, rfl⟩)
        by_cases hl : (ops u).lock = (ops t).lock
        · rw [hl, hheld] at hu'
          exact absurd (Option.some.inj hu').symm hu
        · simpa [hl] using hu'
  | _ => simpa [step, hp] using h

theorem inv_step (h : Inv ops init s) (e : Event ε τ) (hc : Undisturbed ops s e) :
    Inv ops init (step ops s e) := by
  cases e with
  | enter t => exact inv_enter h t
  | read t answer => exact inv_read h t answer
  | store t answer => exact inv_store h t answer hc
  | release t => exact inv_release h t

omit [DecidableEq τ] [DecidableEq ℓ] in
theorem Inv.serializable (h : Inv ops init s) : Serializable ops init s := by
  refine ⟨s.order, h.nodup, fun t => ?_, h.serial_order⟩
  have ht := h.fits t
  unfold Fits at ht
  cases hp : s.phase t with
  | ready | entered | loaded r r' =>
      simp only [hp] at ht
      simp [ht]
  | leaving result | finished result =>
      simp only [hp] at ht
      simp [ht, succeeded_iff]

/-- Calls that are never overtaken between their read and their write have the
same effect as one after the other, whatever the interleaving. -/
theorem run_serializable (ops : τ → Operation σ ε ℓ) (init : σ) {es : List (Event ε τ)}
    (hes : Machine.Meets (step ops) (Undisturbed ops) (initial init) es) :
    Serializable ops init (Machine.run (step ops) (initial init) es) := by
  have hstep (s : State σ ε ℓ τ) (e : Event ε τ) (h : Inv ops init s) (hc : Undisturbed ops s e) :
      Inv ops init (step ops s e) := inv_step h e hc
  exact (Machine.run_invariant_of_meets hstep (inv_initial ops init) hes).serializable

end OsAccount.SharedRecord
