import Mathlib.Data.List.Basic

namespace OsAccount.Machine

variable {σ α : Type}

def run (step : σ → α → σ) (s : σ) (inputs : List α) : σ := inputs.foldl step s

/-- Every input of the run meets a condition on itself and on the state it is
given in. -/
def Meets (step : σ → α → σ) (C : σ → α → Prop) : σ → List α → Prop
  | _, [] => True
  | s, a :: as => C s a ∧ Meets step C (step s a) as

instance instDecidableMeets (step : σ → α → σ) (C : σ → α → Prop) [∀ s a, Decidable (C s a)] :
    (s : σ) → (as : List α) → Decidable (Meets step C s as)
  | _, [] => .isTrue trivial
  | s, a :: as =>
      have := instDecidableMeets step C (step s a) as
      inferInstanceAs (Decidable (C s a ∧ Meets step C (step s a) as))

theorem run_cons (step : σ → α → σ) (s : σ) (a : α) (as : List α) :
    run step s (a :: as) = run step (step s a) as := rfl

theorem run_append (step : σ → α → σ) (s : σ) (as bs : List α) :
    run step s (as ++ bs) = run step (run step s as) bs := List.foldl_append

theorem run_invariant_of_meets {step : σ → α → σ} {C : σ → α → Prop} {Inv : σ → Prop}
    (hstep : ∀ s a, Inv s → C s a → Inv (step s a)) {s : σ} (hs : Inv s)
    {as : List α} (has : Meets step C s as) : Inv (run step s as) := by
  induction as generalizing s with
  | nil => exact hs
  | cons a as ih =>
      rw [run_cons]
      exact ih (hstep s a hs has.1) has.2

theorem run_invariant {step : σ → α → σ} {Inv : σ → Prop}
    (hstep : ∀ s a, Inv s → Inv (step s a)) {s : σ} (hs : Inv s) (as : List α) :
    Inv (run step s as) := by
  induction as generalizing s with
  | nil => exact hs
  | cons a as ih =>
      rw [run_cons]
      exact ih (hstep s a hs)

/-- A condition on the steps that is exactly what keeps a property of the state
is met by a run if and only if the property holds all along the run. -/
theorem meets_iff_forall_prefix {step : σ → α → σ} {C : σ → α → Prop} {Inv P : σ → Prop}
    (hstep : ∀ s a, Inv s → C s a → Inv (step s a)) (hprop : ∀ s, Inv s → P s)
    (hback : ∀ s a, Inv s → P (step s a) → C s a) {s : σ} (hs : Inv s) {as : List α} :
    Meets step C s as ↔ ∀ as', as' <+: as → P (run step s as') := by
  induction as generalizing s with
  | nil =>
      refine iff_of_true trivial fun as' has' => ?_
      rw [List.prefix_nil.mp has']
      exact hprop s hs
  | cons a as ih =>
      constructor
      · rintro ⟨ha, has⟩ as' has'
        cases as' with
        | nil => exact hprop s hs
        | cons a' as' =>
            rw [List.cons_prefix_cons] at has'
            obtain ⟨rfl, has'⟩ := has'
            exact (ih (hstep s a' hs ha)).mp has as' has'
      · intro h
        have ha : C s a := hback s a hs (h [a] (by simp))
        refine ⟨ha, (ih (hstep s a hs ha)).mpr fun as' has' => ?_⟩
        exact h (a :: as') (List.cons_prefix_cons.mpr ⟨rfl, has'⟩)

theorem Meets.imp_of_meets {step : σ → α → σ} {C P : σ → α → Prop} {Inv : σ → Prop}
    (hstep : ∀ s a, Inv s → C s a → Inv (step s a)) (himp : ∀ s a, Inv s → C s a → P s a) {s : σ} (hs : Inv s)
    {as : List α} (has : Meets step C s as) : Meets step P s as := by
  induction as generalizing s with
  | nil => trivial
  | cons a as ih => exact ⟨himp s a hs has.1, ih (hstep s a hs has.1) has.2⟩

theorem Meets.imp_of_invariant {step : σ → α → σ} {C P : σ → α → Prop} {Inv : σ → Prop}
    (hstep : ∀ s a, Inv s → Inv (step s a)) (himp : ∀ s a, Inv s → C s a → P s a) {s : σ} (hs : Inv s)
    {as : List α} (has : Meets step C s as) : Meets step P s as :=
  has.imp_of_meets (fun s a h _ => hstep s a h) himp hs

theorem meets_congr {step : σ → α → σ} {C P : σ → α → Prop} {Inv : σ → Prop}
    (hstep : ∀ s a, Inv s → C s a → Inv (step s a)) (hiff : ∀ s a, Inv s → (C s a ↔ P s a)) {s : σ} (hs : Inv s)
    {as : List α} : Meets step C s as ↔ Meets step P s as := by
  constructor
  · exact fun h => h.imp_of_meets hstep (fun s a hs => (hiff s a hs).mp) hs
  · exact fun h => h.imp_of_meets (fun s a hs ha => hstep s a hs ((hiff s a hs).mpr ha))
      (fun s a hs => (hiff s a hs).mpr) hs

theorem Meets.and_forall {step : σ → α → σ} {C : σ → α → Prop} {D : α → Prop} {s : σ} {as : List α}
    (has : Meets step C s as) (hD : ∀ a ∈ as, D a) : Meets step (fun s a => C s a ∧ D a) s as := by
  induction as generalizing s with
  | nil => trivial
  | cons a as ih =>
      exact ⟨⟨has.1, hD a List.mem_cons_self⟩, ih has.2 fun b hb => hD b (List.mem_cons_of_mem a hb)⟩

theorem Meets.and {step : σ → α → σ} {C D : σ → α → Prop} {s : σ} {as : List α} (hC : Meets step C s as)
    (hD : Meets step D s as) : Meets step (fun s a => C s a ∧ D s a) s as := by
  induction as generalizing s with
  | nil => trivial
  | cons a as ih => exact ⟨⟨hC.1, hD.1⟩, ih hC.2 hD.2⟩

theorem meets_append {step : σ → α → σ} {C : σ → α → Prop} {s : σ} {as bs : List α} :
    Meets step C s (as ++ bs) ↔ Meets step C s as ∧ Meets step C (run step s as) bs := by
  induction as generalizing s with
  | nil => exact (iff_of_eq (true_and _)).symm
  | cons a as ih =>
      rw [List.cons_append, Meets, Meets, ih, run_cons]
      exact and_assoc.symm

theorem exists_of_not_meets {step : σ → α → σ} {C : σ → α → Prop} {s : σ} {as : List α} (h : ¬Meets step C s as) :
    ∃ before a after, as = before ++ a :: after ∧ ¬C (run step s before) a := by
  induction as generalizing s with
  | nil => exact (h trivial).elim
  | cons a as ih =>
      by_cases ha : C s a
      · obtain ⟨before, b, after, rfl, hb⟩ := ih fun has => h ⟨ha, has⟩
        exact ⟨a :: before, b, after, rfl, hb⟩
      · exact ⟨[], a, as, rfl, ha⟩

/-- A loop over distinct elements, each turn of which changes only what belongs to
its element. -/
theorem foldl_local {ι ν : Type} [DecidableEq ι] {body : σ → ι → σ} (view : σ → ι → ν) (change : ι → ν → ν)
    (hbody : ∀ s i j, view (body s i) j = if j = i then change i (view s i) else view s j)
    {is : List ι} (his : is.Nodup) (s : σ) (j : ι) :
    view (is.foldl body s) j = if j ∈ is then change j (view s j) else view s j := by
  induction is generalizing s with
  | nil => rfl
  | cons i is ih =>
      rw [List.nodup_cons] at his
      rw [List.foldl_cons, ih his.2, hbody]
      by_cases hj : j = i
      · subst hj
        rw [if_neg his.1, if_pos rfl, if_pos List.mem_cons_self]
      · rw [if_neg hj]
        simp [List.mem_cons, hj]

section traces

variable {β : Type} {step : σ → α → σ} {out : σ → α → Option β}

def trace (step : σ → α → σ) (out : σ → α → Option β) : σ → List α → List β
  | _, [] => []
  | s, a :: as => (out s a).toList ++ trace step out (step s a) as

/-- The rule for inputs that nobody notices: two runs, of which only the second one takes the hidden inputs, put out
the same if every step keeps a relation between their states. -/
theorem trace_filter {hidden : α → Bool} {R : σ → σ → Prop} {C D : σ → α → Prop}
    (hsilent : ∀ s a, hidden a = true → out s a = none)
    (hhidden : ∀ s s' a, R s s' → D s' a → hidden a = true → R s (step s' a))
    (hvisible : ∀ s s' a, R s s' → C s a → D s' a → hidden a = false →
      out s a = out s' a ∧ R (step s a) (step s' a)) {s s' : σ} (h : R s s') {as : List α}
    (hC : Meets step C s (as.filter fun a => !hidden a)) (hD : Meets step D s' as) :
    trace step out s (as.filter fun a => !hidden a) = trace step out s' as := by
  induction as generalizing s s' with
  | nil => rfl
  | cons a as ih =>
      cases ha : hidden a with
      | true =>
          rw [List.filter_cons_of_neg (by simp [ha])] at hC ⊢
          rw [ih (hhidden s s' a h hD.1 ha) hC hD.2, trace, hsilent s' a ha]
          rfl
      | false =>
          rw [List.filter_cons_of_pos (by simp [ha])] at hC ⊢
          obtain ⟨hout, hnext⟩ := hvisible s s' a h hC.1 hD.1 ha
          rw [trace, trace, hout, ih hnext hC.2 hD.2]

end traces

section visits

variable {I : List α → σ → Prop} {body : σ → α → Option σ} {done as : List α} {s s' : σ}

theorem not_mem_cons_of_nodup {a : α} (ha : a ∉ as) (hnew : ∀ b ∈ a :: as, b ∉ done) : ∀ b ∈ as, b ∉ a :: done := by
  intro b hb
  rw [List.mem_cons, not_or]
  exact ⟨fun he => ha (he ▸ hb), hnew b (List.mem_cons_of_mem a hb)⟩

/-- The rule for a loop that visits distinct elements and may stop: the
invariant speaks about the elements that were visited. -/
theorem foldlM_invariant
    (hbody : ∀ {s s' : σ} {done : List α} {a : α}, I done s → a ∉ done → body s a = some s' → I (a :: done) s')
    (has : as.Nodup) (h : I done s) (hnew : ∀ a ∈ as, a ∉ done) (hs : as.foldlM body s = some s') :
    I (as.reverse ++ done) s' := by
  induction as generalizing s done with
  | nil =>
      obtain rfl : s = s' := by simpa using hs
      simpa using h
  | cons a as ih =>
      rw [List.nodup_cons] at has
      rw [List.foldlM_cons, Option.bind_eq_bind, Option.bind_eq_some_iff] at hs
      obtain ⟨s₁, hs₁, hs⟩ := hs
      have hrest := ih has.2 (hbody h (hnew a List.mem_cons_self) hs₁) (not_mem_cons_of_nodup has.1 hnew) hs
      simpa using hrest

theorem foldlM_total
    (hbody : ∀ {s : σ} {done : List α} {a : α}, I done s → a ∉ done → ∃ s', body s a = some s' ∧ I (a :: done) s')
    (has : as.Nodup) (h : I done s) (hnew : ∀ a ∈ as, a ∉ done) : ∃ s', as.foldlM body s = some s' := by
  induction as generalizing s done with
  | nil => exact ⟨s, rfl⟩
  | cons a as ih =>
      rw [List.nodup_cons] at has
      obtain ⟨s₁, hs₁, h₁⟩ := hbody h (hnew a List.mem_cons_self)
      obtain ⟨s', hs'⟩ := ih has.2 h₁ (not_mem_cons_of_nodup has.1 hnew)
      exact ⟨s', by rw [List.foldlM_cons, hs₁]; exact hs'⟩

end visits

end OsAccount.Machine
