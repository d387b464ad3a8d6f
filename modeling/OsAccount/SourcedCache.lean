import OsAccount.Machine
import OsAccount.Program
import Mathlib.Data.Fintype.Defs
import Mathlib.Logic.Function.Basic

namespace OsAccount.SourcedCache

open Function

section puts

variable {κ β : Type} [DecidableEq κ]

def put (m : κ → Option β) (es : List (κ × Option β)) : κ → Option β :=
  es.foldl (fun m e => update m e.1 e.2) m

theorem put_of_notMem {m : κ → Option β} {es : List (κ × Option β)} {k : κ} (h : k ∉ es.map Prod.fst) :
    put m es k = m k := by
  induction es generalizing m with
  | nil => rfl
  | cons e es ih =>
      rw [List.map_cons, List.mem_cons, not_or] at h
      rw [put, List.foldl_cons]
      exact (ih h.2).trans (update_of_ne h.1 e.2 m)

theorem put_mem {m : κ → Option β} {es : List (κ × Option β)} {k : κ} (h : k ∈ es.map Prod.fst) :
    (k, put m es k) ∈ es := by
  induction es generalizing m with
  | nil => cases h
  | cons e es ih =>
      rw [put, List.foldl_cons]
      by_cases hk : k ∈ es.map Prod.fst
      · exact List.mem_cons_of_mem e (ih hk)
      · rw [List.map_cons, List.mem_cons] at h
        obtain rfl : k = e.1 := h.resolve_right hk
        have hlast : put (update m e.1 e.2) es e.1 = e.2 :=
          (put_of_notMem hk).trans (update_self e.1 e.2 m)
        rw [put] at hlast
        rw [hlast]
        exact List.mem_cons_self

end puts

/-- What a program does to a source of values and to a cache of what the source has said. An entry of the cache may
be removed too. The source takes those of the offered values that it wants. A program may rely on an entry that it
finds. -/
inductive Access (κ ν γ Outside : Type)
  | find (k : κ)
  | rely (k : κ)
  | ask (k : κ)
  | change (k : κ) (value : Option ν)
  | offer (values : List (κ × Option ν))
  | fill (entries : List (κ × Option γ))
  | lock
  | unlock
  | outside (o : Outside)

def Answer {κ ν γ Outside : Type} (ε : Type) (Reply : Outside → Type) : Access κ ν γ Outside → Type
  | .find _ | .rely _ => Option γ
  | .ask _ => Except ε (Option ν)
  | .change _ _ | .offer _ => Except ε Unit
  | .fill _ | .lock | .unlock => Unit
  | .outside o => Reply o

/-- How the surroundings meet an access: whether the source fails, which of the values it is offered it takes, and
what the rest of the world replies. -/
structure Env (κ ε : Type) {Outside : Type} (Reply : Outside → Type) where
  failure : Option ε
  takes : κ → Bool
  reply : (o : Outside) → Reply o

structure Store (κ ν γ : Type) where
  source : κ → Option ν
  cache : κ → Option γ

/-- How a cache speaks of its source: what an entry says of a value, which values no entry is wrong about, and what
the outcome of an offer says of the values that were taken. -/
structure Discipline (κ ν γ ε : Type) where
  agrees : γ → Option ν → Prop
  silent : Option ν → Bool
  credible : List (κ × Option ν) → (κ → Bool) → Except ε Unit → Prop
  agrees_of_silent : ∀ (c : γ) (value : Option ν), silent value = true → agrees c value

variable {κ ν γ ε Outside τ : Type} {Reply : Outside → Type} [DecidableEq κ]

def Env.outcome (env : Env κ ε Reply) : Except ε Unit :=
  match env.failure with
  | some e => .error e
  | none => .ok ()

def taken (takes : κ → Bool) (values : List (κ × Option ν)) : List (κ × Option ν) := values.filter fun v => takes v.1

def handle (env : Env κ ε Reply) : (a : Access κ ν γ Outside) → Store κ ν γ → Answer ε Reply a × Store κ ν γ
  | .find k, s | .rely k, s => (s.cache k, s)
  | .ask k, s => (env.outcome.map fun _ => s.source k, s)
  | .change k value, s =>
      (env.outcome,
        match env.failure with
        | some _ => s
        | none => { s with source := update s.source k value })
  | .offer values, s => (env.outcome, { s with source := put s.source (taken env.takes values) })
  | .fill entries, s => ((), { s with cache := put s.cache entries })
  | .lock, s | .unlock, s => ((), s)
  | .outside o, s => (env.reply o, s)

/-- What a program knows of the source and has not told the cache: the values that it knows, and the keys whose
values it has changed. -/
structure Debt (κ ν : Type) where
  known : κ → Option (Option ν)
  owed : κ → Bool

def Debt.clear : Debt κ ν := ⟨fun _ => none, fun _ => false⟩

def Debt.Free (d : Debt κ ν) : Prop := ∀ k, d.owed k = false

def Debt.learn (d : Debt κ ν) (k : κ) (value : Option ν) : Debt κ ν :=
  { d with known := update d.known k (some value) }

variable [DecidableEq ν] (silent : Option ν → Bool)

def Debt.doubt (d : Debt κ ν) (k : κ) (value : Option ν) : Debt κ ν :=
  { d with known := update d.known k ((d.known k).filter (· = value)) }

def Debt.changed (d : Debt κ ν) (k : κ) (value : Option ν) : Debt κ ν where
  known := update d.known k (some value)
  owed j := d.owed j || (decide (j = k) && !silent value)

def Debt.offered (takes : κ → Bool) (d : Debt κ ν) (values : List (κ × Option ν)) : Debt κ ν :=
  values.foldl (fun d v => if takes v.1 then d.changed silent v.1 v.2 else d.doubt v.1 v.2) d

def Debt.pay (d : Debt κ ν) (keys : List κ) : Debt κ ν where
  known _ := none
  owed k := d.owed k && k ∉ keys

def note (env : Env κ ε Reply) (s : Store κ ν γ) (d : Debt κ ν) : Access κ ν γ Outside → Debt κ ν
  | .rely k =>
      match s.cache k with
      | some _ => d.learn k (s.source k)
      | none => d
  | .ask k =>
      match env.failure with
      | some _ => d
      | none => d.learn k (s.source k)
  | .change k value =>
      match env.failure with
      | some _ => d
      | none => d.changed silent k value
  | .offer values => d.offered silent env.takes values
  | .fill entries => d.pay (entries.map Prod.fst)
  | _ => d

section programs

variable (D : Discipline κ ν γ ε)

/-- Whatever the answers are, what the program puts into the cache agrees with what it knows, and it ends with `Q`.
An answer of the source is what the program knows already, if it knows it. What the source fails to say is not asked
for about a key that the program has changed, and no entry of such a key is relied on. -/
def Ensures {α : Type} (Q : α → Debt κ ν → Prop) : Program (Access κ ν γ Outside) (Answer ε Reply) α → Debt κ ν → Prop
  | .ret a, d => Q a d
  | .access (.find _) next, d => ∀ c, Ensures Q (next c) d
  | .access (.rely k) next, d =>
      d.owed k = false ∧ Ensures Q (next none) d ∧
        ∀ c value, D.agrees c value → (∀ v, d.known k = some v → v = value) →
          Ensures Q (next (some c)) (d.learn k value)
  | .access (.ask k) next, d =>
      (∀ value, (∀ v, d.known k = some v → v = value) → Ensures Q (next (.ok value)) (d.learn k value)) ∧
        ∀ e, d.owed k = false → Ensures Q (next (.error e)) d
  | .access (.change k value) next, d =>
      Ensures Q (next (.ok ())) (d.changed D.silent k value) ∧ ∀ e, Ensures Q (next (.error e)) d
  | .access (.offer values) next, d =>
      ∀ (takes : κ → Bool) ret, D.credible values takes ret → Ensures Q (next ret) (d.offered D.silent takes values)
  | .access (.fill entries) next, d =>
      (∀ k c, (k, some c) ∈ entries → ∀ v, d.known k = some v → D.agrees c v) ∧
        Ensures Q (next ()) (d.pay (entries.map Prod.fst))
  | .access .lock next, d | .access .unlock next, d => Ensures Q (next ()) d
  | .access (.outside _) next, d => ∀ x, Ensures Q (next x) d

def Settles {α : Type} (p : Program (Access κ ν γ Outside) (Answer ε Reply) α) : Prop :=
  Ensures D (fun _ d => d.Free) p .clear

def Tidy {α : Type} (p : Program (Access κ ν γ Outside) (Answer ε Reply) α) : Prop :=
  Ensures D (fun _ d => d = .clear) p .clear

def Pays {α : Type} (p : Program (Access κ ν γ Outside) (Answer ε Reply) α) : Prop :=
  ∀ d : Debt κ ν, d.Free → Ensures D (fun _ d => d.Free) p d

variable {D} {α β : Type} {Q : α → Debt κ ν → Prop} {R : β → Debt κ ν → Prop} {d : Debt κ ν}

variable {p : Program (Access κ ν γ Outside) (Answer ε Reply) α}
    {f : α → Program (Access κ ν γ Outside) (Answer ε Reply) β}

theorem Ensures.bind
    (h : Ensures D (fun a d => Ensures D R (f a) d) p d) : Ensures D R (p >>= f) d := by
  induction p generalizing d with
  | ret a => exact h
  | access a next ih =>
      cases a with
      | find k => exact fun c => ih c (h c)
      | rely k => exact ⟨h.1, ih _ h.2.1, fun c v hc hv => ih _ (h.2.2 c v hc hv)⟩
      | ask k => exact ⟨fun v hv => ih _ (h.1 v hv), fun e he => ih _ (h.2 e he)⟩
      | change k value => exact ⟨ih _ h.1, fun e => ih _ (h.2 e)⟩
      | offer values => exact fun takes ret hret => ih ret (h takes ret hret)
      | fill entries => exact ⟨h.1, ih _ h.2⟩
      | lock => exact ih () h
      | unlock => exact ih () h
      | outside o => exact fun x => ih x (h x)

theorem Ensures.mono {R : α → Debt κ ν → Prop} (hQ : ∀ a d, Q a d → R a d)
    (h : Ensures D Q p d) : Ensures D R p d := by
  induction p generalizing d with
  | ret a => exact hQ a d h
  | access a next ih =>
      cases a with
      | find k => exact fun c => ih c (h c)
      | rely k => exact ⟨h.1, ih _ h.2.1, fun c v hc hv => ih _ (h.2.2 c v hc hv)⟩
      | ask k => exact ⟨fun v hv => ih _ (h.1 v hv), fun e he => ih _ (h.2 e he)⟩
      | change k value => exact ⟨ih _ h.1, fun e => ih _ (h.2 e)⟩
      | offer values => exact fun takes ret hret => ih ret (h takes ret hret)
      | fill entries => exact ⟨h.1, ih _ h.2⟩
      | lock => exact ih () h
      | unlock => exact ih () h
      | outside o => exact fun x => ih x (h x)

theorem Tidy.pure (a : α) : Tidy D (Pure.pure a : Program (Access κ ν γ Outside) (Answer ε Reply) α) := rfl

theorem Tidy.bind
    (hp : Tidy D p) (hf : ∀ a, Tidy D (f a)) :
    Tidy D (p >>= f) := by
  apply Ensures.bind
  refine hp.mono ?_
  rintro a d rfl
  exact hf a

theorem Tidy.settles (h : Tidy D p) : Settles D p := by
  refine h.mono ?_
  rintro a d rfl
  exact fun _ => rfl

theorem Pays.settles (h : Pays D p) : Settles D p :=
  h .clear fun _ => rfl

theorem Pays.pure (a : α) : Pays D (Pure.pure a : Program (Access κ ν γ Outside) (Answer ε Reply) α) :=
  fun _ hd => hd

theorem Pays.bind
    (hp : Pays D p) (hf : ∀ a, Pays D (f a)) :
    Pays D (p >>= f) := by
  intro d hd
  apply Ensures.bind
  refine (hp d hd).mono ?_
  intro a d hd
  exact hf a d hd

end programs

def Debt.Honest (d : Debt κ ν) (source : κ → Option ν) : Prop := ∀ k v, d.known k = some v → source k = v

section accesses

variable {D : Discipline κ ν γ ε} {silent : Option ν → Bool} {env : Env κ ε Reply} {s : Store κ ν γ} {d : Debt κ ν}
  {source : κ → Option ν}

omit [DecidableEq κ] [DecidableEq ν] in
theorem Debt.honest_clear (source : κ → Option ν) : (Debt.clear : Debt κ ν).Honest source := by
  intro k v h
  cases h

omit [DecidableEq ν] in
theorem Debt.Honest.learn (h : d.Honest source) (k : κ) : (d.learn k (source k)).Honest source := by
  intro j v hv
  change update d.known k (some (source k)) j = some v at hv
  by_cases hj : j = k
  · subst hj
    rw [update_self] at hv
    exact Option.some.inj hv
  · rw [update_of_ne hj] at hv
    exact h j v hv

theorem Debt.Honest.doubt (h : d.Honest source) (k : κ) (value : Option ν) : (d.doubt k value).Honest source := by
  intro j v hv
  change update d.known k ((d.known k).filter (· = value)) j = some v at hv
  by_cases hj : j = k
  · subst hj
    rw [update_self] at hv
    exact h j v (Option.eq_some_of_filter_eq_some hv)
  · rw [update_of_ne hj] at hv
    exact h j v hv

omit [DecidableEq ν] in
theorem Debt.Honest.changed (h : d.Honest source) (k : κ) (value : Option ν) :
    (d.changed silent k value).Honest (update source k value) := by
  intro j v hv
  change update d.known k (some value) j = some v at hv
  by_cases hj : j = k
  · subst hj
    rw [update_self] at hv ⊢
    exact Option.some.inj hv
  · rw [update_of_ne hj] at hv ⊢
    exact h j v hv

theorem offered_induction {P : (κ → Option ν) → Debt κ ν → Prop} {takes : κ → Bool} {values : List (κ × Option ν)}
    (htaken : ∀ v ∈ values, takes v.1 = true → ∀ source d, P source d →
      P (update source v.1 v.2) (d.changed silent v.1 v.2))
    (hleft : ∀ v ∈ values, takes v.1 = false → ∀ source d, P source d → P source (d.doubt v.1 v.2))
    (h : P source d) :
    P (put source (taken takes values)) (d.offered silent takes values) := by
  induction values generalizing source d with
  | nil => exact h
  | cons v values ih =>
      replace ih : ∀ {source d}, P source d → P (put source (taken takes values)) (d.offered silent takes values) :=
        ih (fun w hw => htaken w (List.mem_cons_of_mem _ hw)) fun w hw => hleft w (List.mem_cons_of_mem _ hw)
      by_cases hv : takes v.1 = true
      · rw [taken, List.filter_cons, if_pos hv, Debt.offered, List.foldl_cons, if_pos hv]
        exact ih (htaken v List.mem_cons_self hv source d h)
      · rw [taken, List.filter_cons, if_neg hv, Debt.offered, List.foldl_cons, if_neg hv]
        exact ih (hleft v List.mem_cons_self (Bool.eq_false_iff.mpr hv) source d h)

theorem honest_note (h : d.Honest s.source) (a : Access κ ν γ Outside) :
    (note silent env s d a).Honest (handle env a s).2.source := by
  cases a with
  | rely k =>
      rw [note, handle]
      cases s.cache k with
      | some c => exact h.learn k
      | none => exact h
  | ask k =>
      rw [note, handle]
      cases env.failure with
      | some e => exact h
      | none => exact h.learn k
  | change k value =>
      rw [note, handle]
      cases env.failure with
      | some e => exact h
      | none => exact h.changed k value
  | offer values =>
      exact offered_induction (P := fun source d => d.Honest source) (fun v _ _ _ _ h => h.changed v.1 v.2)
        (fun v _ _ _ _ h => h.doubt v.1 v.2) h
  | fill entries => exact fun k v hv => (by cases hv)
  | find k => exact h
  | lock => exact h
  | unlock => exact h
  | outside o => exact h

omit [DecidableEq κ] [DecidableEq ν] in
theorem Debt.Honest.of_unchanged {source' : κ → Option ν} (h : d.Honest source)
    (hsource : ∀ k, source' k = source k ∨ d.known k = none) : d.Honest source' := by
  intro k v hv
  rcases hsource k with hk | hk
  · exact hk.trans (h k v hv)
  · cases hk.symm.trans hv

/-- What must hold when an access is made, beside what the program sees to itself. `Unknown` are the keys of which
no other program knows the value, `Unowed` those of which no other program has a value to tell. -/
def Allowed (D : Discipline κ ν γ ε) (env : Env κ ε Reply) (source : κ → Option ν) (Unknown Unowed : κ → Prop)
    (d : Debt κ ν) : Access κ ν γ Outside → Prop
  | .rely k => Unowed k
  | .ask k => env.failure.isSome → d.owed k = false
  | .change k value => env.failure = none → source k = value ∨ Unknown k
  | .offer values =>
      (∀ v ∈ taken env.takes values, source v.1 = v.2 ∨ Unknown v.1) ∧ D.credible values env.takes env.outcome
  | .fill entries => ∀ e ∈ entries, ∀ c ∈ e.2, d.known e.1 = none → D.agrees c (source e.1)
  | _ => True

variable {Unknown Unowed : κ → Prop} {a : Access κ ν γ Outside}

omit [DecidableEq ν] in
theorem source_handle (h : Allowed D env s.source Unknown Unowed d a) (k : κ) :
    (handle env a s).2.source k = s.source k ∨ Unknown k := by
  cases a with
  | change j value =>
      rw [handle]
      cases hfailure : env.failure with
      | some e => exact .inl rfl
      | none =>
          by_cases hk : k = j
          · subst hk
            exact (h hfailure).imp_left fun hvalue => (update_self k value s.source).trans hvalue.symm
          · exact .inl (update_of_ne hk value s.source)
  | offer values =>
      by_cases hk : k ∈ (taken env.takes values).map Prod.fst
      · exact (h.1 _ (put_mem hk)).imp_left Eq.symm
      · exact .inl (put_of_notMem hk)
  | _ => exact .inl rfl

variable {α : Type} {Q : α → Debt κ ν → Prop}
  {rest : Answer ε Reply a → Program (Access κ ν γ Outside) (Answer ε Reply) α}

theorem Ensures.next (h : Ensures D Q (.access a rest) d) (hd : d.Honest s.source)
    (hallowed : Allowed D env s.source Unknown Unowed d a)
    (hs : ∀ k c, Unowed k → d.owed k = false → s.cache k = some c → D.agrees c (s.source k)) :
    Ensures D Q (rest (handle env a s).1) (note D.silent env s d a) := by
  cases a with
  | rely k =>
      have hknown : ∀ v, d.known k = some v → v = s.source k := fun v hv => (hd k v hv).symm
      cases hcache : s.cache k with
      | none => simpa only [handle, note, hcache] using h.2.1
      | some c => simpa only [handle, note, hcache] using h.2.2 c _ (hs k c hallowed h.1 hcache) hknown
  | ask k =>
      unfold Allowed at hallowed
      cases hfailure : env.failure with
      | some e =>
          have howed := hallowed (by rw [hfailure]; rfl)
          simpa only [handle, note, Env.outcome, Except.map, hfailure] using h.2 e howed
      | none =>
          have hknown : ∀ v, d.known k = some v → v = s.source k := fun v hv => (hd k v hv).symm
          simpa only [handle, note, Env.outcome, Except.map, hfailure] using h.1 (s.source k) hknown
  | change k value =>
      cases hfailure : env.failure with
      | some e => simpa only [handle, note, Env.outcome, hfailure] using h.2 e
      | none => simpa only [handle, note, Env.outcome, hfailure] using h.1
  | offer values => exact h env.takes _ hallowed.2
  | fill entries => exact h.2
  | find k => exact h _
  | lock => exact h
  | unlock => exact h
  | outside o => exact h _

def Right (D : Discipline κ ν γ ε) (c : γ) (k : κ) (source : κ → Option ν) (d : Debt κ ν) : Prop :=
  d.owed k = false → D.agrees c (source k)

omit [DecidableEq ν] in
theorem Right.changed {c : γ} {k : κ} (h : Right D c k source d) (j : κ) (value : Option ν) :
    Right D c k (update source j value) (d.changed D.silent j value) := by
  intro howed
  obtain ⟨hold, hnew⟩ := Bool.or_eq_false_iff.mp howed
  by_cases hk : k = j
  · subst hk
    rw [update_self]
    refine D.agrees_of_silent c value ?_
    simpa using hnew
  · rw [update_of_ne hk]
    exact h hold

theorem agrees_handle (h : Ensures D Q (.access a rest) d) (hd : d.Honest s.source)
    (hallowed : Allowed D env s.source Unknown Unowed d a)
    (hs : ∀ k c, Unowed k → d.owed k = false → s.cache k = some c → D.agrees c (s.source k)) (k : κ) (c : γ)
    (hothers : Unowed k) (howed : (note D.silent env s d a).owed k = false)
    (hc : (handle env a s).2.cache k = some c) : D.agrees c ((handle env a s).2.source k) := by
  cases a with
  | rely j =>
      refine hs k c hothers ?_ hc
      rw [note] at howed
      cases hcache : s.cache j with
      | some e => simpa only [hcache, Debt.learn] using howed
      | none => simpa only [hcache] using howed
  | ask j =>
      refine hs k c hothers ?_ hc
      rw [note] at howed
      cases hfailure : env.failure with
      | some e => simpa only [hfailure] using howed
      | none => simpa only [hfailure, Debt.learn] using howed
  | change j value =>
      have hright : Right D c k s.source d := fun howed => by
        refine hs k c hothers howed ?_
        cases hfailure : env.failure with
        | some e => simpa only [handle, hfailure] using hc
        | none => simpa only [handle, hfailure] using hc
      cases hfailure : env.failure with
      | some e =>
          simp only [note, handle, hfailure] at howed ⊢
          exact hright howed
      | none =>
          simp only [note, handle, hfailure] at howed ⊢
          exact hright.changed j value howed
  | offer values =>
      have hright : Right D c k s.source d := fun howed => hs k c hothers howed hc
      exact offered_induction (P := fun source d => Right D c k source d) (fun v _ _ _ _ h => h.changed v.1 v.2)
        (fun _ _ _ _ _ h => h) hright howed
  | fill entries =>
      by_cases hk : k ∈ entries.map Prod.fst
      · have hmem := put_mem (m := s.cache) hk
        change put s.cache entries k = some c at hc
        rw [hc] at hmem
        cases hknown : d.known k with
        | none => exact hallowed (k, some c) hmem c rfl hknown
        | some v =>
            have hv := h.1 k c hmem v hknown
            rwa [← hd k v hknown] at hv
      · refine hs k c hothers ?_ ((put_of_notMem hk).symm.trans hc)
        simpa [note, Debt.pay, hk] using howed
  | find j => exact hs k c hothers howed hc
  | lock => exact hs k c hothers howed hc
  | unlock => exact hs k c hothers howed hc
  | outside o => exact hs k c hothers howed hc

end accesses

structure Thread (κ ν γ ε : Type) {Outside : Type} (Reply : Outside → Type) where
  rest : Program (Access κ ν γ Outside) (Answer ε Reply) Unit
  debt : Debt κ ν

structure State (κ ν γ ε : Type) {Outside : Type} (Reply : Outside → Type) (τ : Type) where
  store : Store κ ν γ
  holder : Option τ := none
  threads : τ → Option (Thread κ ν γ ε Reply) := fun _ => none

inductive Event (κ ε : Type) {Outside : Type} (Reply : Outside → Type) (τ Op : Type)
  | start (t : τ) (op : Op)
  | step (t : τ) (env : Env κ ε Reply)
  | restart

def waits (holder : Option τ) : Access κ ν γ Outside → Bool
  | .lock => holder.isSome
  | _ => false

def holds (holder : Option τ) (t : τ) : Access κ ν γ Outside → Option τ
  | .lock => some t
  | .unlock => none
  | _ => holder

variable {Op : Type}

section machine

variable [DecidableEq τ] (silent : Option ν → Bool)
  (program : Op → Program (Access κ ν γ Outside) (Answer ε Reply) Unit) (s : State κ ν γ ε Reply τ)

def resume (t : τ) (env : Env κ ε Reply) (th : Thread κ ν γ ε Reply) : State κ ν γ ε Reply τ :=
  match th.rest with
  | .ret () => { s with threads := update s.threads t none }
  | .access a next =>
      if waits s.holder a then s
      else
        { store := (handle env a s.store).2
          holder := holds s.holder t a
          threads := update s.threads t
            (some ⟨next (handle env a s.store).1, note silent env s.store th.debt a⟩) }

def step : Event κ ε Reply τ Op → State κ ν γ ε Reply τ
  | .start t op =>
      if (s.threads t).isSome then s
      else { s with threads := update s.threads t (some ⟨program op, .clear⟩) }
  | .step t env => (s.threads t).elim s (resume silent s t env)
  | .restart => { store := { s.store with cache := fun _ => none } }

def Unknown (t : τ) (k : κ) : Prop := ∀ u ≠ t, ∀ th, s.threads u = some th → th.debt.known k = none

def Unowed (t : τ) (k : κ) : Prop := ∀ u ≠ t, ∀ th, s.threads u = some th → th.debt.owed k = false

def Undisturbed (D : Discipline κ ν γ ε) : Event κ ε Reply τ Op → Prop
  | .step t env => ∀ a next debt, s.threads t = some ⟨.access a next, debt⟩ →
      Allowed D env s.store.source (Unknown s t) (Unowed s t) debt a
  | _ => True

def Settled (k : κ) : Prop := ∀ t th, s.threads t = some th → th.debt.owed k = false

structure Coherent (D : Discipline κ ν γ ε) : Prop where
  faithful : ∀ k c, Settled s k → s.store.cache k = some c → D.agrees c (s.store.source k)
  honest : ∀ t th, s.threads t = some th → th.debt.Honest s.store.source
  ensures : ∀ t th, s.threads t = some th → Ensures D (fun _ d => d.Free) th.rest th.debt

section decidable

def Thread.Knows (th : Option (Thread κ ν γ ε Reply)) (k : κ) : Bool := th.any fun th => (th.debt.known k).isSome

variable {k : κ}

omit [DecidableEq κ] [DecidableEq τ] [DecidableEq ν] in
theorem unknown_iff {t : τ} : Unknown s t k ↔ ∀ u ≠ t, Thread.Knows (s.threads u) k = false := by
  refine forall₂_congr fun u _ => ?_
  cases s.threads u with
  | none => exact iff_of_true (fun th hth => by cases hth) rfl
  | some th =>
      rw [Thread.Knows, Option.any_some, Option.isSome_eq_false_iff, Option.isNone_iff_eq_none]
      exact ⟨fun h => h th rfl, fun h th' hth' => Option.some.inj hth' ▸ h⟩

instance [Fintype τ] (t : τ) (k : κ) : Decidable (Unknown s t k) := decidable_of_iff _ (unknown_iff s).symm

def Thread.Owes (th : Option (Thread κ ν γ ε Reply)) (k : κ) : Bool := th.any fun th => th.debt.owed k

omit [DecidableEq κ] [DecidableEq ν] in
theorem owes_eq_false_iff {th : Option (Thread κ ν γ ε Reply)} :
    Thread.Owes th k = false ↔ ∀ th', th = some th' → th'.debt.owed k = false := by
  cases th with
  | none => exact iff_of_true rfl fun th hth => (by cases hth)
  | some th => exact ⟨fun h th' hth' => Option.some.inj hth' ▸ h, fun h => h th rfl⟩

omit [DecidableEq κ] [DecidableEq τ] [DecidableEq ν] in
theorem unowed_iff {t : τ} : Unowed s t k ↔ ∀ u ≠ t, Thread.Owes (s.threads u) k = false :=
  forall₂_congr fun _ _ => owes_eq_false_iff.symm

instance [Fintype τ] (t : τ) (k : κ) : Decidable (Unowed s t k) := decidable_of_iff _ (unowed_iff s).symm

omit [DecidableEq κ] [DecidableEq τ] [DecidableEq ν] in
theorem settled_iff : Settled s k ↔ ∀ t, Thread.Owes (s.threads t) k = false :=
  forall_congr' fun _ => owes_eq_false_iff.symm

instance [Fintype τ] (k : κ) : Decidable (Settled s k) := decidable_of_iff _ (settled_iff s).symm

variable {D : Discipline κ ν γ ε} [∀ c v, Decidable (D.agrees c v)]
  [∀ values takes ret, Decidable (D.credible values takes ret)] [DecidableEq ε]

instance {env : Env κ ε Reply} {source : κ → Option ν} {Unknown Unowed : κ → Prop} [∀ k, Decidable (Unknown k)]
    [∀ k, Decidable (Unowed k)] {d : Debt κ ν} :
    (a : Access κ ν γ Outside) → Decidable (Allowed D env source Unknown Unowed d a)
  | .rely k => inferInstanceAs (Decidable (Unowed k))
  | .ask k => inferInstanceAs (Decidable (env.failure.isSome → d.owed k = false))
  | .change k value => inferInstanceAs (Decidable (env.failure = none → source k = value ∨ Unknown k))
  | .offer values => inferInstanceAs (Decidable ((∀ v ∈ taken env.takes values, source v.1 = v.2 ∨ Unknown v.1) ∧
      D.credible values env.takes env.outcome))
  | .fill entries =>
      inferInstanceAs (Decidable (∀ e ∈ entries, ∀ c ∈ e.2, d.known e.1 = none → D.agrees c (source e.1)))
  | .find _ | .lock | .unlock | .outside _ => inferInstanceAs (Decidable True)

instance [Fintype τ] : (e : Event κ ε Reply τ Op) → Decidable (Undisturbed s D e)
  | .start _ _ | .restart => inferInstanceAs (Decidable True)
  | .step t env =>
      match ht : s.threads t with
      | none => .isTrue fun a next debt h => (by cases ht.symm.trans h)
      | some ⟨.ret (), _⟩ => .isTrue fun a next debt h => (by cases ht.symm.trans h)
      | some ⟨.access a next, debt⟩ =>
          decidable_of_iff (Allowed D env s.store.source (Unknown s t) (Unowed s t) debt a)
            ⟨fun h a next debt h' => (by cases ht.symm.trans h'; exact h), fun h => h a next debt ht⟩

end decidable

variable {program s} {D : Discipline κ ν γ ε}

variable {t : τ}

omit [DecidableEq κ] [DecidableEq ν] in
theorem settled_update {th : Option (Thread κ ν γ ε Reply)} {s' : State κ ν γ ε Reply τ} {k : κ}
    (hthreads : s'.threads = update s.threads t th) :
    Settled s' k ↔ (∀ th', th = some th' → th'.debt.owed k = false) ∧
      ∀ u ≠ t, ∀ th', s.threads u = some th' → th'.debt.owed k = false := by
  constructor
  · intro h
    refine ⟨fun th' hth' => h t th' ?_, fun u hu th' hth' => h u th' ?_⟩
    · rw [hthreads, update_self, hth']
    · rw [hthreads, update_of_ne hu, hth']
  · rintro ⟨hself, hothers⟩ u th' hth'
    rw [hthreads] at hth'
    by_cases hu : u = t
    · subst hu
      rw [update_self] at hth'
      exact hself th' hth'
    · rw [update_of_ne hu] at hth'
      exact hothers u hu th' hth'

theorem coherent_start (h : Coherent s D) {p : Program (Access κ ν γ Outside) (Answer ε Reply) Unit}
    (hp : Settles D p) (hidle : s.threads t = none) :
    Coherent { s with threads := update s.threads t (some ⟨p, .clear⟩) } D := by
  refine ⟨?_, ?_, ?_⟩
  · intro k c hk
    have hothers := ((settled_update rfl).mp hk).2
    refine h.faithful k c fun u th hu => hothers u ?_ th hu
    rintro rfl
    cases hidle.symm.trans hu
  · intro u th hu
    by_cases hut : u = t
    · subst hut
      obtain rfl := Option.some.inj ((update_self u _ s.threads).symm.trans hu)
      exact Debt.honest_clear _
    · exact h.honest u th ((update_of_ne hut _ _).symm.trans hu)
  · intro u th hu
    by_cases hut : u = t
    · subst hut
      obtain rfl := Option.some.inj ((update_self u _ s.threads).symm.trans hu)
      exact hp
    · exact h.ensures u th ((update_of_ne hut _ _).symm.trans hu)

theorem coherent_ret (h : Coherent s D) {d : Debt κ ν} (ht : s.threads t = some ⟨.ret (), d⟩) :
    Coherent { s with threads := update s.threads t none } D := by
  have hd : d.Free := h.ensures t _ ht
  refine ⟨?_, ?_, ?_⟩
  · intro k c hk
    have hothers := ((settled_update rfl).mp hk).2
    refine h.faithful k c fun u th hu => ?_
    by_cases hut : u = t
    · subst hut
      obtain rfl := Option.some.inj (ht.symm.trans hu)
      exact hd k
    · exact hothers u hut th hu
  · intro u th hu
    by_cases hut : u = t
    · subst hut
      cases (update_self u _ s.threads).symm.trans hu
    · exact h.honest u th ((update_of_ne hut _ _).symm.trans hu)
  · intro u th hu
    by_cases hut : u = t
    · subst hut
      cases (update_self u _ s.threads).symm.trans hu
    · exact h.ensures u th ((update_of_ne hut _ _).symm.trans hu)

theorem coherent_access (h : Coherent s D) {env : Env κ ε Reply} {a : Access κ ν γ Outside}
    {next : Answer ε Reply a → Program (Access κ ν γ Outside) (Answer ε Reply) Unit} {d : Debt κ ν}
    (ht : s.threads t = some ⟨.access a next, d⟩)
    (hallowed : Allowed D env s.store.source (Unknown s t) (Unowed s t) d a) (holder : Option τ) :
    Coherent
      { store := (handle env a s.store).2
        holder
        threads := update s.threads t (some ⟨next (handle env a s.store).1, note D.silent env s.store d a⟩) }
      D := by
  have hd : d.Honest s.store.source := h.honest t _ ht
  have hensures := h.ensures t _ ht
  have hs : ∀ k c, Unowed s t k → d.owed k = false → s.store.cache k = some c → D.agrees c (s.store.source k) := by
    intro k c hk hdk
    refine h.faithful k c fun u th hu => ?_
    by_cases hut : u = t
    · subst hut
      obtain rfl := Option.some.inj (ht.symm.trans hu)
      exact hdk
    · exact hk u hut th hu
  refine ⟨?_, ?_, ?_⟩
  · intro k c hk
    obtain ⟨hself, hothers⟩ := (settled_update rfl).mp hk
    exact agrees_handle hensures hd hallowed hs k c hothers (hself _ rfl)
  · intro u th hu
    by_cases hut : u = t
    · subst hut
      obtain rfl := Option.some.inj ((update_self u _ s.threads).symm.trans hu)
      exact honest_note hd a
    · have hth := (update_of_ne hut _ s.threads).symm.trans hu
      refine (h.honest u th hth).of_unchanged fun k => ?_
      exact (source_handle hallowed k).imp_right fun hunknown => hunknown u hut th hth
  · intro u th hu
    by_cases hut : u = t
    · subst hut
      obtain rfl := Option.some.inj ((update_self u _ s.threads).symm.trans hu)
      exact hensures.next hd hallowed hs
    · exact h.ensures u th ((update_of_ne hut _ _).symm.trans hu)

theorem coherent_step (hprogram : ∀ op, Settles D (program op)) (h : Coherent s D) {e : Event κ ε Reply τ Op}
    (he : Undisturbed s D e) : Coherent (step D.silent program s e) D := by
  cases e with
  | start t op =>
      rw [step]
      split
      · exact h
      · rename_i hidle
        exact coherent_start h (hprogram op) (by simpa using hidle)
  | step t env =>
      rw [step]
      cases ht : s.threads t with
      | none => exact h
      | some th =>
          obtain ⟨rest, d⟩ := th
          rw [Option.elim_some, resume]
          cases rest with
          | ret _ => exact coherent_ret h ht
          | access a next =>
              dsimp only
              split
              · exact h
              · exact coherent_access h ht (he a next d ht) _
  | restart =>
      refine ⟨?_, ?_, ?_⟩
      · intro k c _ hc
        cases hc
      · intro t th ht
        cases ht
      · intro t th ht
        cases ht

/-- The rule for programs that share a cache: it agrees with its source about every key whose changes have been told,
in every run in which nobody is disturbed. -/
theorem coherent_run (hprogram : ∀ op, Settles D (program op)) (h : Coherent s D)
    {es : List (Event κ ε Reply τ Op)}
    (hes : Machine.Meets (step D.silent program) (fun s e => Undisturbed s D e) s es) :
    Coherent (Machine.run (step D.silent program) s es) D := by
  have hstep : ∀ (s : State κ ν γ ε Reply τ) (e : Event κ ε Reply τ Op), Coherent s D → Undisturbed s D e →
      Coherent (step D.silent program s e) D := fun _ _ h he => coherent_step hprogram h he
  exact Machine.run_invariant_of_meets hstep h hes

omit [DecidableEq τ] in
theorem coherent_of_empty {store : Store κ ν γ} (h : ∀ k, store.cache k = none) :
    Coherent ({ store } : State κ ν γ ε Reply τ) D := by
  refine ⟨?_, ?_, ?_⟩
  · intro k c _ hc
    cases (h k).symm.trans hc
  · intro t th ht
    cases ht
  · intro t th ht
    cases ht

end machine

end OsAccount.SourcedCache
