import Mathlib.Logic.Function.Basic

namespace OsAccount.RecordFields

structure Layout (ρ φ : Type) (val : φ → Type) where
  get : (f : φ) → ρ → val f
  set : (f : φ) → val f → ρ → ρ
  get_set : ∀ f v r, get f (set f v r) = v
  get_set_of_ne : ∀ {f g}, g ≠ f → ∀ v r, get g (set f v r) = get g r

variable {ρ φ τ : Type} {val : φ → Type} (L : Layout ρ φ val)

def assign (as : List (Sigma val)) (r : ρ) : ρ := as.foldl (fun r a => L.set a.1 a.2 r) r

def Assigns (as : List (Sigma val)) (f : φ) : Prop := ∃ a ∈ as, a.1 = f

variable [DecidableEq φ]

def lastValue (f : φ) : List (Sigma val) → val f → val f
  | [], v => v
  | a :: as, v => lastValue f as (if h : a.1 = f then h ▸ a.2 else v)

variable {L}

theorem get_assign (f : φ) (as : List (Sigma val)) (r : ρ) :
    L.get f (assign L as r) = lastValue f as (L.get f r) := by
  induction as generalizing r with
  | nil => rfl
  | cons a as ih =>
      have hrest := ih (L.set a.1 a.2 r)
      unfold assign at hrest ⊢
      rw [List.foldl_cons, hrest, lastValue]
      by_cases ha : a.1 = f
      · subst ha
        simp [L.get_set]
      · rw [dif_neg ha, L.get_set_of_ne (Ne.symm ha)]

theorem lastValue_append (f : φ) (as bs : List (Sigma val)) (v : val f) :
    lastValue f (as ++ bs) v = lastValue f bs (lastValue f as v) := by
  induction as generalizing v with
  | nil => rfl
  | cons a as ih => exact ih _

theorem lastValue_of_not_assigns {f : φ} {as : List (Sigma val)} (h : ¬Assigns as f) (v : val f) :
    lastValue f as v = v := by
  induction as generalizing v with
  | nil => rfl
  | cons a as ih =>
      have ha : a.1 ≠ f := fun he => h ⟨a, List.mem_cons_self, he⟩
      have has : ¬Assigns as f := fun ⟨b, hb, he⟩ => h ⟨b, List.mem_cons_of_mem a hb, he⟩
      rw [lastValue, dif_neg ha, ih has]

theorem lastValue_of_assigns {f : φ} {as : List (Sigma val)} (h : Assigns as f) (v w : val f) :
    lastValue f as v = lastValue f as w := by
  induction as generalizing v w with
  | nil =>
      obtain ⟨a, ha, -⟩ := h
      cases ha
  | cons a as ih =>
      rw [lastValue, lastValue]
      by_cases ha : a.1 = f
      · rw [dif_pos ha, dif_pos ha]
      · rw [dif_neg ha, dif_neg ha]
        obtain ⟨b, hb, he⟩ := h
        rcases List.mem_cons.mp hb with rfl | hb
        · exact (ha he).elim
        · exact ih ⟨b, hb, he⟩ v w

/-- A record that calls read and write as a whole. `loaded` has what a call has
read and what it is going to assign, `since` the writes since then, and `log`
the assignments of all writes. -/
structure State (ρ : Type) (val : φ → Type) (τ : Type) where
  record : ρ
  loaded : τ → Option (ρ × List (Sigma val))
  since : τ → List (τ × List (Sigma val))
  log : List (Sigma val)

def initial (r : ρ) : State ρ val τ := ⟨r, fun _ => none, fun _ => [], []⟩

variable [DecidableEq τ]

def State.read (s : State ρ val τ) (t : τ) (as : List (Sigma val)) : State ρ val τ :=
  { s with
    loaded := Function.update s.loaded t (some (s.record, as))
    since := Function.update s.since t [] }

variable (L)

def State.write (s : State ρ val τ) (t : τ) : State ρ val τ :=
  match s.loaded t with
  | none => s
  | some (r, as) =>
      { record := assign L as r
        loaded := Function.update s.loaded t none
        since := fun u => s.since u ++ [(t, as)]
        log := s.log ++ as }

/-- What the call would write over is what it has read, apart from the fields
that it assigns. -/
def Fresh (s : State ρ val τ) (t : τ) : Prop :=
  ∀ r as, s.loaded t = some (r, as) → ∀ f, ¬Assigns as f → L.get f r = L.get f s.record

def Kept (init : ρ) (s : State ρ val τ) : Prop :=
  ∀ f, L.get f s.record = lastValue f s.log (L.get f init)

def Traced (s : State ρ val τ) : Prop :=
  ∀ t r as, s.loaded t = some (r, as) → ∀ f, (∀ w ∈ s.since t, ¬Assigns w.2 f) → L.get f r = L.get f s.record

variable {L} {s : State ρ val τ} {t : τ} {init : ρ}

theorem get_write {r : ρ} {as : List (Sigma val)} (h : s.loaded t = some (r, as)) (hfresh : Fresh L s t) (f : φ) :
    L.get f (s.write L t).record = lastValue f as (L.get f s.record) := by
  have hrecord : (s.write L t).record = assign L as r := by simp [State.write, h]
  rw [hrecord, get_assign]
  by_cases hf : Assigns as f
  · exact lastValue_of_assigns hf _ _
  · rw [hfresh r as h f hf]

theorem Kept.write (h : Kept L init s) (hfresh : Fresh L s t) : Kept L init (s.write L t) := by
  intro f
  cases hl : s.loaded t with
  | none => simpa [State.write, hl] using h f
  | some p =>
      obtain ⟨r, as⟩ := p
      have hlog : (s.write L t).log = s.log ++ as := by simp [State.write, hl]
      rw [get_write hl hfresh, h f, hlog, lastValue_append]

theorem fresh_of_kept_write (h : Kept L init s) (hwrite : Kept L init (s.write L t)) : Fresh L s t := by
  intro r as hl f hf
  have hrecord : (s.write L t).record = assign L as r := by simp [State.write, hl]
  have hlog : (s.write L t).log = s.log ++ as := by simp [State.write, hl]
  have hafter := hwrite f
  rw [hrecord, get_assign, hlog, lastValue_append, lastValue_of_not_assigns hf,
    lastValue_of_not_assigns hf] at hafter
  rw [hafter, h f]

omit [DecidableEq φ] in
theorem Traced.read (h : Traced L s) (as : List (Sigma val)) : Traced L (s.read t as) := by
  intro u r bs hl f hf
  by_cases hu : u = t
  · subst hu
    simp only [State.read, Function.update_self, Option.some.injEq, Prod.mk.injEq] at hl
    rw [← hl.1, State.read]
  · simp only [State.read, Function.update_of_ne hu] at hl hf
    exact h u r bs hl f hf

theorem Traced.write (h : Traced L s) (hfresh : Fresh L s t) : Traced L (s.write L t) := by
  cases hl : s.loaded t with
  | none => simpa [State.write, hl] using h
  | some p =>
      obtain ⟨r, as⟩ := p
      intro u r' bs hu f hf
      have hloaded : s.loaded u = some (r', bs) := by
        by_cases hut : u = t
        · simp [State.write, hl, hut] at hu
        · simpa [State.write, hl, hut] using hu
      have hsince : ∀ w ∈ s.since u ++ [(t, as)], ¬Assigns w.2 f := by simpa [State.write, hl] using hf
      have has : ¬Assigns as f := hsince (t, as) (by simp)
      rw [get_write hl hfresh, lastValue_of_not_assigns has]
      exact h u r' bs hloaded f fun w hw => hsince w (by simp [hw])

omit [DecidableEq φ] [DecidableEq τ] in
/-- A call is fresh if the others that have written since gave no new value to a
field that it leaves alone. -/
theorem fresh_of_since (h : Traced L s)
    (hsince : ∀ r as, s.loaded t = some (r, as) → ∀ w ∈ s.since t, ∀ f, Assigns w.2 f → ¬Assigns as f →
      L.get f r = L.get f s.record) : Fresh L s t := by
  intro r as hl f hf
  by_cases hassigned : ∃ w ∈ s.since t, Assigns w.2 f
  · obtain ⟨w, hw, hwf⟩ := hassigned
    exact hsince r as hl w hw f hwf hf
  · exact h t r as hl f fun w hw hwf => hassigned ⟨w, hw, hwf⟩

end OsAccount.RecordFields
