import OsAccount.Machine
import OsAccount.Program
import Mathlib.Logic.Function.Basic

namespace OsAccount.MarkedResources

open Program Function

/-- What a program does to resources, each of which one program at a time is to work on. A marker says that a resource
is worked on. The work may begin without it, and go on after it was cleared. All the programs share a list of resources,
which they read and write as a whole, `own` being the resource whose entry a program means to change. -/
inductive Access (κ Act Outside : Type)
  | mark (k : κ)
  | clear (k : κ)
  | enter (k : κ)
  | leave (k : κ)
  | act (k : κ) (a : Act)
  | readList
  | writeList (own : Option κ) (list : List κ)
  | outside (o : Outside)

def Answer {κ Act Outside : Type} (Ret : Act → Type) (Reply : Outside → Type) : Access κ Act Outside → Type
  | .mark _ => Bool
  | .clear _ | .enter _ | .leave _ | .writeList _ _ => Unit
  | .readList => List κ
  | .act _ a => Ret a
  | .outside o => Reply o

/-- How the surroundings meet an access: what befalls an action, and what the rest of the world replies. -/
structure Env (ε : Type) {Outside : Type} (Reply : Outside → Type) where
  fault : ε
  reply : (o : Outside) → Reply o

/-- What the actions do, which faults may befall them, and what is to hold of every resource. Whether it is in the list
is a part of the resource, `enlist` sets it, and no action changes it. -/
structure Discipline (κ Act ε ρ : Type) (Ret : Act → Type) where
  effect : (a : Act) → ε → ρ → Ret a × ρ
  credible : Act → ε → ρ → Prop
  Inv : κ → ρ → Prop
  enlist : Bool → ρ → ρ
  enlist_enlist : ∀ v w r, enlist v (enlist w r) = enlist v r
  enlist_effect : ∀ v a e r, enlist v (effect a e (enlist v r)).2 = (effect a e (enlist v r)).2

variable {κ Act ε ρ τ Outside Op : Type} {Ret : Act → Type} {Reply : Outside → Type} [DecidableEq κ]

section programs

variable (D : Discipline κ Act ε ρ Ret)

/-- Whatever the answers are, a program that has these resources in hand only acts on what it has in hand, keeps the
invariant with every action, and ends with `Q`. -/
def Ensures {α : Type} (Q : α → (κ → Option ρ) → Prop) :
    Program (Access κ Act Outside) (Answer Ret Reply) α → (κ → Option ρ) → Prop
  | .ret a, held => Q a held
  | .access (.mark k) next, held =>
      Ensures Q (next false) held ∧
        (held k = none → ∀ r, D.Inv k r → Ensures Q (next true) (update held k (some r)))
  | .access (.clear _) next, held => Ensures Q (next ()) held
  | .access (.enter k) next, held =>
      held k = none → ∀ r, D.Inv k r → Ensures Q (next ()) (update held k (some r))
  | .access (.leave k) next, held => Ensures Q (next ()) (update held k none)
  | .access (.act k a) next, held =>
      ∃ r, held k = some r ∧ ∀ e, D.credible a e r →
        D.Inv k (D.effect a e r).2 ∧
          Ensures Q (next (D.effect a e r).1) (update held k (some (D.effect a e r).2))
  | .access .readList next, held =>
      ∀ list : List κ, (∀ k r, held k = some r → D.enlist (decide (k ∈ list)) r = r) → Ensures Q (next list) held
  | .access (.writeList none _) next, held => Ensures Q (next ()) held
  | .access (.writeList (some k) list) next, held =>
      ∃ r, held k = some r ∧ D.Inv k (D.enlist (decide (k ∈ list)) r) ∧
        Ensures Q (next ()) (update held k (some (D.enlist (decide (k ∈ list)) r)))
  | .access (.outside _) next, held => ∀ x, Ensures Q (next x) held

def Quiet {α : Type} (p : Program (Access κ Act Outside) (Answer Ret Reply) α) : Prop :=
  ∀ held, Ensures D (fun _ held' => held' = held) p held

def Proper {α : Type} (p : Program (Access κ Act Outside) (Answer Ret Reply) α) : Prop :=
  Ensures D (fun _ held => held = fun _ => none) p fun _ => none

def Yields {α : Type} (post : α → Prop) (p : Program (Access κ Act Outside) (Answer Ret Reply) α) : Prop :=
  ∀ held, Ensures D (fun a held' => held' = held ∧ post a) p held

def Works {α : Type} (k : κ) (P : ρ → Prop) (p : Program (Access κ Act Outside) (Answer Ret Reply) α)
    (Q : α → ρ → Prop) : Prop :=
  ∀ held r, held k = some r → D.Inv k r → P r →
    Ensures D (fun a held' => ∃ r', D.Inv k r' ∧ Q a r' ∧ held' = update held k (some r')) p held

def Finishes {α : Type} (k : κ) (P : ρ → Prop) (p : Program (Access κ Act Outside) (Answer Ret Reply) α) : Prop :=
  ∀ held r, held k = some r → D.Inv k r → P r →
    Ensures D (fun _ held' => held' = update held k none) p held

/-- The program begins with nothing in hand, and ends with the resource in hand that its result is about, or with
nothing. -/
def Takes {α : Type} (key : α → κ) (P : α → Option ρ → Prop) (p : Program (Access κ Act Outside) (Answer Ret Reply) α) :
    Prop :=
  Ensures D (fun a held => ∃ o, (∀ r, o = some r → D.Inv (key a) r) ∧ P a o ∧
    held = update (fun _ => none) (key a) o) p fun _ => none

variable {D} {α β : Type} {k : κ} {P : ρ → Prop} {held : κ → Option ρ}

theorem Ensures.bind {R : β → (κ → Option ρ) → Prop} {p : Program (Access κ Act Outside) (Answer Ret Reply) α}
    {f : α → Program (Access κ Act Outside) (Answer Ret Reply) β}
    (h : Ensures D (fun a held => Ensures D R (f a) held) p held) : Ensures D R (p >>= f) held := by
  induction p generalizing held with
  | ret a => exact h
  | access a next ih =>
      cases a with
      | mark k => exact ⟨ih false h.1, fun hk r hr => ih true (h.2 hk r hr)⟩
      | clear k => exact ih () h
      | enter k => exact fun hk r hr => ih () (h hk r hr)
      | leave k => exact ih () h
      | act k a =>
          obtain ⟨r, hr, h⟩ := h
          exact ⟨r, hr, fun e he => ⟨(h e he).1, ih _ (h e he).2⟩⟩
      | readList => exact fun list hlist => ih list (h list hlist)
      | writeList own list =>
          cases own with
          | none => exact ih () h
          | some k =>
              obtain ⟨r, hr, hinv, h⟩ := h
              exact ⟨r, hr, hinv, ih () h⟩
      | outside o => exact fun x => ih x (h x)

theorem Ensures.mono {Q R : α → (κ → Option ρ) → Prop} (hQ : ∀ a held, Q a held → R a held)
    {p : Program (Access κ Act Outside) (Answer Ret Reply) α} (h : Ensures D Q p held) : Ensures D R p held := by
  induction p generalizing held with
  | ret a => exact hQ a held h
  | access a next ih =>
      cases a with
      | mark k => exact ⟨ih false h.1, fun hk r hr => ih true (h.2 hk r hr)⟩
      | clear k => exact ih () h
      | enter k => exact fun hk r hr => ih () (h hk r hr)
      | leave k => exact ih () h
      | act k a =>
          obtain ⟨r, hr, h⟩ := h
          exact ⟨r, hr, fun e he => ⟨(h e he).1, ih _ (h e he).2⟩⟩
      | readList => exact fun list hlist => ih list (h list hlist)
      | writeList own list =>
          cases own with
          | none => exact ih () h
          | some k =>
              obtain ⟨r, hr, hinv, h⟩ := h
              exact ⟨r, hr, hinv, ih () h⟩
      | outside o => exact fun x => ih x (h x)

section quiet

variable {p q : Program (Access κ Act Outside) (Answer Ret Reply) α}

theorem Quiet.pure (a : α) : Quiet D (Pure.pure a : Program (Access κ Act Outside) (Answer Ret Reply) α) :=
  fun _ => rfl

variable {f : α → Program (Access κ Act Outside) (Answer Ret Reply) β}

theorem Quiet.bind (hp : Quiet D p)
    (hf : ∀ a, Quiet D (f a)) : Quiet D (p >>= f) := by
  intro held
  apply Ensures.bind
  refine (hp held).mono ?_
  rintro a held' rfl
  exact hf a held'

variable {c : Prop}

theorem Quiet.ite [Decidable c] (hp : c → Quiet D p) (hq : ¬c → Quiet D q) :
    Quiet D (if c then p else q) :=
  iteInduction (motive := Quiet D) hp hq

theorem Quiet.outside (o : Outside) :
    Quiet D (@call (Access κ Act Outside) (Answer Ret Reply) (.outside o)) := fun _ _ => rfl

theorem Quiet.readList : Quiet D (@call (Access κ Act Outside) (Answer Ret Reply) .readList) :=
  fun _ _ _ => rfl

theorem Quiet.writeList (list : List κ) :
    Quiet D (@call (Access κ Act Outside) (Answer Ret Reply) (.writeList none list)) := fun _ => rfl

theorem Quiet.mark {f : Bool → Program (Access κ Act Outside) (Answer Ret Reply) α} (hfalse : Quiet D (f false))
    (htrue : Finishes D k (fun _ => True) (f true)) :
    Quiet D (@call (Access κ Act Outside) (Answer Ret Reply) (.mark k) >>= f) := by
  intro held
  refine ⟨hfalse held, fun hk r hr => ?_⟩
  refine (htrue _ r (update_self k _ held) hr trivial).mono ?_
  rintro a held' rfl
  rw [update_idem, ← hk, update_eq_self]

theorem Quiet.before {R : β → (κ → Option ρ) → Prop}
    (hp : Quiet D p) (hf : ∀ a, Ensures D R (f a) held) : Ensures D R (p >>= f) held := by
  apply Ensures.bind
  refine (hp held).mono ?_
  rintro a held' rfl
  exact hf a

theorem Yields.pure {post : α → Prop} {a : α} (h : post a) :
    Yields D post (Pure.pure a : Program (Access κ Act Outside) (Answer Ret Reply) α) := fun _ => ⟨rfl, h⟩

theorem Yields.bind {post : β → Prop} (hp : Quiet D p)
    (hf : ∀ a, Yields D post (f a)) : Yields D post (p >>= f) := fun held => hp.before fun a => hf a held

theorem Yields.ite {post : α → Prop} [Decidable c] (hp : c → Yields D post p) (hq : ¬c → Yields D post q) :
    Yields D post (if c then p else q) :=
  iteInduction (motive := Yields D post) hp hq

theorem Quiet.proper (h : Quiet D p) : Proper D p := h _

theorem Proper.bind (hp : Proper D p)
    (hf : ∀ a, Proper D (f a)) : Proper D (p >>= f) := by
  apply Ensures.bind
  refine Ensures.mono ?_ hp
  rintro a held rfl
  exact hf a

theorem Proper.ite [Decidable c] (hp : c → Proper D p) (hq : ¬c → Proper D q) :
    Proper D (if c then p else q) :=
  iteInduction (motive := Proper D) hp hq

theorem Proper.enter {f : Unit → Program (Access κ Act Outside) (Answer Ret Reply) α}
    (h : Finishes D k (fun _ => True) (f ())) :
    Proper D (@call (Access κ Act Outside) (Answer Ret Reply) (.enter k) >>= f) := by
  intro _ r hr
  refine (h _ r (update_self k _ _) hr trivial).mono ?_
  rintro a held' rfl
  rw [update_idem]
  exact update_eq_self k fun _ => none

end quiet

section works

variable {Q : α → ρ → Prop} {p q : Program (Access κ Act Outside) (Answer Ret Reply) α}

theorem Works.pure {a : α} (h : ∀ r, D.Inv k r → P r → Q a r) :
    Works D k P (Pure.pure a : Program (Access κ Act Outside) (Answer Ret Reply) α) Q := by
  intro held r hk hr hP
  exact ⟨r, hr, h r hr hP, by rw [← hk, update_eq_self]⟩

theorem Works.bind {R : β → ρ → Prop} {f : α → Program (Access κ Act Outside) (Answer Ret Reply) β}
    (hp : Works D k P p Q) (hf : ∀ a, Works D k (Q a) (f a) R) : Works D k P (p >>= f) R := by
  intro held r hk hr hP
  apply Ensures.bind
  refine (hp held r hk hr hP).mono ?_
  rintro a _ ⟨r', hr', hQ, rfl⟩
  refine (hf a _ r' (update_self k _ held) hr' hQ).mono ?_
  rintro b _ ⟨r'', hr'', hR, rfl⟩
  exact ⟨r'', hr'', hR, update_idem _ _ _⟩

theorem Works.weaken {P' : ρ → Prop} {Q' : α → ρ → Prop} (h : Works D k P p Q) (hP : ∀ r, D.Inv k r → P' r → P r)
    (hQ : ∀ a r, D.Inv k r → Q a r → Q' a r) : Works D k P' p Q' := by
  intro held r hk hr hr'
  refine (h held r hk hr (hP r hr hr')).mono ?_
  rintro a _ ⟨r', hinv, hQr, rfl⟩
  exact ⟨r', hinv, hQ a r' hinv hQr, rfl⟩

theorem Works.of_forall (h : ∀ r₀, D.Inv k r₀ → P r₀ → Works D k (· = r₀) p Q) : Works D k P p Q :=
  fun held r hk hr hP => h r hr hP held r hk hr rfl

theorem Works.ite {c : Prop} [Decidable c] (hp : c → Works D k P p Q) (hq : ¬c → Works D k P q Q) :
    Works D k P (if c then p else q) Q :=
  iteInduction (motive := fun p => Works D k P p Q) hp hq

theorem Works.act {a : Act} {Q : Ret a → ρ → Prop}
    (h : ∀ r, D.Inv k r → P r → ∀ e, D.credible a e r →
      D.Inv k (D.effect a e r).2 ∧ Q (D.effect a e r).1 (D.effect a e r).2) :
    Works D k P (@call (Access κ Act Outside) (Answer Ret Reply) (.act k a)) Q := by
  intro held r hk hr hP
  refine ⟨r, hk, fun e he => ?_⟩
  obtain ⟨hinv, hQ⟩ := h r hr hP e he
  exact ⟨hinv, _, hinv, hQ, rfl⟩

theorem Works.readList (P : ρ → Prop) :
    Works D k P (@call (Access κ Act Outside) (Answer Ret Reply) .readList)
      fun (list : List κ) r => P r ∧ D.enlist (decide (k ∈ list)) r = r := by
  intro held r hk hr hP list hlist
  exact ⟨r, hr, ⟨hP, hlist k r hk⟩, by rw [← hk, update_eq_self]⟩

theorem Works.writeList {list : List κ} {Q : Unit → ρ → Prop}
    (h : ∀ r, D.Inv k r → P r →
      D.Inv k (D.enlist (decide (k ∈ list)) r) ∧ Q () (D.enlist (decide (k ∈ list)) r)) :
    Works D k P (@call (Access κ Act Outside) (Answer Ret Reply) (.writeList (some k) list)) Q := by
  intro held r hk hr hP
  obtain ⟨hinv, hQ⟩ := h r hr hP
  exact ⟨r, hk, hinv, _, hinv, hQ, rfl⟩

theorem Quiet.works (h : Quiet D p) (P : ρ → Prop) : Works D k P p (fun _ => P) := by
  intro held r hk hr hP
  refine (h held).mono ?_
  rintro a held' rfl
  exact ⟨r, hr, hP, by rw [← hk, update_eq_self]⟩

theorem Works.clear (P : ρ → Prop) (j : κ) :
    Works D k P (@call (Access κ Act Outside) (Answer Ret Reply) (.clear j)) (fun _ => P) := by
  intro held r hk hr hP
  exact ⟨r, hr, hP, by rw [← hk, update_eq_self]⟩

theorem Works.finishes {f : α → Program (Access κ Act Outside) (Answer Ret Reply) β} (hp : Works D k P p Q)
    (hf : ∀ a, Finishes D k (Q a) (f a)) : Finishes D k P (p >>= f) := by
  intro held r hk hr hP
  apply Ensures.bind
  refine (hp held r hk hr hP).mono ?_
  rintro a _ ⟨r', hr', hQ, rfl⟩
  refine (hf a _ r' (update_self k _ held) hr' hQ).mono ?_
  rintro b _ rfl
  exact update_idem _ _ _

end works

section finishes

variable {p q : Program (Access κ Act Outside) (Answer Ret Reply) α}

theorem Finishes.weaken {P' : ρ → Prop} (h : Finishes D k P p) (hP : ∀ r, D.Inv k r → P' r → P r) :
    Finishes D k P' p := fun held r hk hr hr' => h held r hk hr (hP r hr hr')

theorem Finishes.of_forall (h : ∀ r₀, D.Inv k r₀ → P r₀ → Finishes D k (· = r₀) p) : Finishes D k P p :=
  fun held r hk hr hP => h r hr hP held r hk hr rfl

theorem Finishes.ite {c : Prop} [Decidable c] (hp : c → Finishes D k P p) (hq : ¬c → Finishes D k P q) :
    Finishes D k P (if c then p else q) :=
  iteInduction (motive := Finishes D k P) hp hq

theorem Finishes.leave {f : Unit → Program (Access κ Act Outside) (Answer Ret Reply) α} (h : Quiet D (f ())) :
    Finishes D k P (@call (Access κ Act Outside) (Answer Ret Reply) (.leave k) >>= f) :=
  fun _ _ _ _ _ => h _

end finishes

section takes

variable {key : α → κ} {P : α → Option ρ → Prop} {p q : Program (Access κ Act Outside) (Answer Ret Reply) α}

theorem Takes.pure {a : α} (h : P a none) :
    Takes D key P (Pure.pure a : Program (Access κ Act Outside) (Answer Ret Reply) α) := by
  refine ⟨none, ?_, h, (update_eq_self (key a) fun _ => none).symm⟩
  intro r hr
  cases hr

theorem Takes.before {p : Program (Access κ Act Outside) (Answer Ret Reply) β}
    {f : β → Program (Access κ Act Outside) (Answer Ret Reply) α} (hp : Quiet D p) (hf : ∀ b, Takes D key P (f b)) :
    Takes D key P (p >>= f) := hp.before hf

theorem Takes.ite {c : Prop} [Decidable c] (hp : c → Takes D key P p) (hq : ¬c → Takes D key P q) :
    Takes D key P (if c then p else q) :=
  iteInduction (motive := Takes D key P) hp hq

theorem Takes.mark {f : Bool → Program (Access κ Act Outside) (Answer Ret Reply) α} (hfalse : Takes D key P (f false))
    (htrue : Works D k (fun _ => True) (f true) fun a r => key a = k ∧ P a (some r)) :
    Takes D key P (@call (Access κ Act Outside) (Answer Ret Reply) (.mark k) >>= f) := by
  refine ⟨hfalse, fun _ r hr => ?_⟩
  refine (htrue _ r (update_self k _ _) hr trivial).mono ?_
  rintro a _ ⟨r', hr', ⟨rfl, hP⟩, rfl⟩
  refine ⟨some r', ?_, hP, update_idem _ _ _⟩
  rintro _ ⟨⟩
  exact hr'

theorem Takes.proper {f : α → Program (Access κ Act Outside) (Answer Ret Reply) β} (hp : Takes D key P p)
    (hf : ∀ a o, (∀ r, o = some r → D.Inv (key a) r) → P a o →
      Ensures D (fun _ held => held = fun _ => none) (f a) (update (fun _ => none) (key a) o)) :
    Proper D (p >>= f) := by
  apply Ensures.bind
  refine Ensures.mono ?_ hp
  rintro a _ ⟨o, ho, hP, rfl⟩
  exact hf a o ho hP

theorem Finishes.taken {P : ρ → Prop} {r : ρ} (h : Finishes D k P p) (hr : D.Inv k r) (hP : P r) :
    Ensures D (fun _ held => held = fun _ => none) p (update (fun _ => none) k (some r)) := by
  refine (h _ r (update_self k _ _) hr hP).mono ?_
  rintro a held rfl
  rw [update_idem]
  exact update_eq_self k fun _ => none

end takes

end programs

/-- The resources, the list of those that are in it, their markers, and which program works on each of them. -/
structure Shared (κ ρ τ : Type) where
  resources : κ → ρ
  list : List κ
  marked : κ → Bool
  worker : κ → Option τ

variable [DecidableEq τ]

def Shared.resource (D : Discipline κ Act ε ρ Ret) (s : Shared κ ρ τ) (k : κ) : ρ :=
  D.enlist (decide (k ∈ s.list)) (s.resources k)

def Shared.held (D : Discipline κ Act ε ρ Ret) (s : Shared κ ρ τ) (t : τ) (k : κ) : Option ρ :=
  if s.worker k = some t then some (s.resource D k) else none

def Shared.crashed (s : Shared κ ρ τ) : Shared κ ρ τ := ⟨s.resources, s.list, fun _ => false, fun _ => none⟩

section accesses

variable (D : Discipline κ Act ε ρ Ret) (t : τ) (env : Env ε Reply)

def handle : (a : Access κ Act Outside) → Shared κ ρ τ → Answer Ret Reply a × Shared κ ρ τ
  | .mark k, s =>
      if s.marked k then (false, s)
      else (true, { s with
        marked := update s.marked k true
        worker := update s.worker k (some t) })
  | .clear k, s => ((), { s with marked := update s.marked k false })
  | .enter k, s => ((), { s with worker := update s.worker k (some t) })
  | .leave k, s => ((), if s.worker k = some t then { s with worker := update s.worker k none } else s)
  | .act k a, s =>
      ((D.effect a env.fault (s.resource D k)).1,
        { s with resources := update s.resources k (D.effect a env.fault (s.resource D k)).2 })
  | .readList, s => (s.list, s)
  | .writeList _ list, s => ((), { s with list })
  | .outside o, s => (env.reply o, s)

/-- Nobody clears the marker of another program or begins a work that is going on, no fault is incredible, and a list
that is written changes the entry of one resource at most: no other was changed since the list was read. -/
def Allowed (s : Shared κ ρ τ) : Access κ Act Outside → Prop
  | .mark k => s.marked k = false → s.worker k = none
  | .clear k => s.worker k = none ∨ s.worker k = some t
  | .enter k => s.worker k = none
  | .leave _ | .outside _ | .readList => True
  | .writeList own list =>
      (∀ k ∈ list, some k ≠ own → k ∈ s.list) ∧ ∀ k ∈ s.list, some k ≠ own → k ∈ list
  | .act k a => s.worker k = some t → D.credible a env.fault (s.resource D k)

instance [∀ a e r, Decidable (D.credible a e r)] (s : Shared κ ρ τ) (a : Access κ Act Outside) :
    Decidable (Allowed D t env s a) :=
  match a with
  | .mark k => inferInstanceAs (Decidable (s.marked k = false → s.worker k = none))
  | .clear k => inferInstanceAs (Decidable (s.worker k = none ∨ s.worker k = some t))
  | .enter k => inferInstanceAs (Decidable (s.worker k = none))
  | .leave _ | .outside _ | .readList => isTrue trivial
  | .writeList own list =>
      inferInstanceAs
        (Decidable ((∀ k ∈ list, some k ≠ own → k ∈ s.list) ∧ ∀ k ∈ s.list, some k ≠ own → k ∈ list))
  | .act k a => inferInstanceAs (Decidable (s.worker k = some t → D.credible a env.fault (s.resource D k)))

variable {D t env} {s : Shared κ ρ τ} {α : Type} {Q : α → (κ → Option ρ) → Prop} {a : Access κ Act Outside}
  {next : Answer Ret Reply a → Program (Access κ Act Outside) (Answer Ret Reply) α}

theorem held_of_worker {k : κ} (h : s.worker k = some t) : s.held D t k = some (s.resource D k) := if_pos h

theorem held_of_not_worker {k : κ} (h : s.worker k ≠ some t) : s.held D t k = none := if_neg h

theorem held_eq_some {k : κ} {r : ρ} : s.held D t k = some r ↔ s.worker k = some t ∧ s.resource D k = r := by
  rw [Shared.held]
  split
  · rename_i h
    simp [h]
  · rename_i h
    simp [h]

variable {s' : Shared κ ρ τ}

theorem held_congr {u : τ} (hworker : ∀ k, s'.worker k = some u ↔ s.worker k = some u)
    (hresources : ∀ k, s.worker k = some u → s'.resource D k = s.resource D k) : s'.held D u = s.held D u := by
  funext k
  by_cases hk : s.worker k = some u
  · rw [held_of_worker hk, held_of_worker ((hworker k).mpr hk), hresources k hk]
  · rw [held_of_not_worker hk, held_of_not_worker fun h => hk ((hworker k).mp h)]

theorem held_congr_at {k : κ} (hworker : s'.worker k = s.worker k)
    (hresources : s'.resource D k = s.resource D k) : s'.held D t k = s.held D t k := by
  simp only [Shared.held, hworker, hresources]

omit [DecidableEq τ] in
theorem enlist_resource (k : κ) : D.enlist (decide (k ∈ s.list)) (s.resource D k) = s.resource D k :=
  D.enlist_enlist _ _ _

omit [DecidableEq τ] in
theorem resource_act (k : κ) (a : Act) (e : ε) (j : κ) :
    Shared.resource D { s with resources := update s.resources k (D.effect a e (s.resource D k)).2 } j =
      update (s.resource D) k (D.effect a e (s.resource D k)).2 j := by
  by_cases hj : j = k
  · subst hj
    rw [update_self]
    refine (congrArg (D.enlist _) (update_self j _ _)).trans ?_
    exact D.enlist_effect _ a e _
  · rw [update_of_ne hj]
    exact congrArg (D.enlist _) (update_of_ne hj _ _)

omit [DecidableEq τ] in
theorem resource_writeList_of_ne {own : Option κ} {list : List κ} (ha : Allowed D t env s (.writeList own list)) {k : κ}
    (hk : some k ≠ own) : Shared.resource D { s with list } k = s.resource D k := by
  have hmem : k ∈ list ↔ k ∈ s.list := ⟨fun h => ha.1 k h hk, fun h => ha.2 k h hk⟩
  simp only [Shared.resource, hmem]

omit [DecidableEq τ] in
theorem resource_writeList (list : List κ) (k : κ) :
    Shared.resource D { s with list } k = D.enlist (decide (k ∈ list)) (s.resource D k) :=
  (D.enlist_enlist _ _ _).symm

theorem held_update_worker (marked : κ → Bool) (k : κ) :
    Shared.held D ⟨s.resources, s.list, marked, update s.worker k (some t)⟩ t =
      update (s.held D t) k (some (s.resource D k)) := by
  funext j
  by_cases hj : j = k
  · subst hj
    rw [update_self]
    exact held_of_worker (update_self j (some t) s.worker)
  · rw [update_of_ne hj]
    exact held_congr_at (update_of_ne hj _ _) rfl

theorem held_update_none (k : κ) :
    Shared.held D { s with worker := update s.worker k none } t = update (s.held D t) k none := by
  funext j
  by_cases hj : j = k
  · subst hj
    rw [update_self]
    refine held_of_not_worker fun h => ?_
    cases (update_self j none s.worker).symm.trans h
  · rw [update_of_ne hj]
    exact held_congr_at (update_of_ne hj _ _) rfl

/-- What changes one of the resources that a program has in hand changes nothing else that it has. -/
theorem held_update_resource {k : κ} {r : ρ} (hk : s.worker k = some t)
    (hworker : s'.worker = s.worker) (hself : s'.resource D k = r)
    (hother : ∀ j, j ≠ k → s'.resource D j = s.resource D j) :
    s'.held D t = update (s.held D t) k (some r) := by
  funext j
  by_cases hj : j = k
  · subst hj
    rw [update_self, held_eq_some, hworker]
    exact ⟨hk, hself⟩
  · rw [update_of_ne hj]
    exact held_congr_at (congrFun hworker j) (hother j hj)

theorem ensures_handle (h : Ensures D Q (.access a next) (s.held D t)) (hinv : ∀ k, D.Inv k (s.resource D k))
    (ha : Allowed D t env s a) : Ensures D Q (next (handle D t env a s).1) ((handle D t env a s).2.held D t) := by
  cases a with
  | mark k =>
      rw [handle]
      split
      · exact h.1
      · rename_i hmarked
        have hnone : s.held D t k = none := by
          refine held_of_not_worker ?_
          rw [ha (Bool.eq_false_iff.mpr hmarked)]
          exact Option.some_ne_none t |>.symm
        rw [held_update_worker]
        exact h.2 hnone _ (hinv k)
  | clear k => exact h
  | enter k =>
      have hnone : s.held D t k = none := by
        refine held_of_not_worker ?_
        rw [show s.worker k = none from ha]
        exact Option.some_ne_none t |>.symm
      rw [handle, held_update_worker]
      exact h hnone _ (hinv k)
  | leave k =>
      rw [handle]
      split
      · rw [held_update_none]
        exact h
      · rename_i hk
        have hleft : s.held D t = update (s.held D t) k none := by
          rw [← held_of_not_worker hk, update_eq_self]
        rw [hleft]
        exact h
  | act k a =>
      obtain ⟨r, hr, h⟩ := h
      obtain ⟨hworker, rfl⟩ := held_eq_some.mp hr
      have hheld : (handle D t env (.act k a) s).2.held D t =
          update (s.held D t) k (some (D.effect a env.fault (s.resource D k)).2) := by
        refine held_update_resource hworker rfl ?_ fun j hj => ?_
        · exact (resource_act k a env.fault k).trans (update_self k _ _)
        · exact (resource_act k a env.fault j).trans (update_of_ne hj _ _)
      rw [hheld]
      exact (h env.fault (ha hworker)).2
  | readList =>
      refine h s.list fun k r hr => ?_
      obtain ⟨-, rfl⟩ := held_eq_some.mp hr
      exact enlist_resource k
  | writeList own list =>
      cases own with
      | none =>
          have hheld : (handle D t env (.writeList none list) s).2.held D t = s.held D t :=
            held_congr (fun _ => Iff.rfl) fun j _ => resource_writeList_of_ne ha (Option.some_ne_none j)
          rw [hheld]
          exact h
      | some k =>
          obtain ⟨r, hr, -, h⟩ := h
          obtain ⟨hworker, rfl⟩ := held_eq_some.mp hr
          have hheld : (handle D t env (.writeList (some k) list) s).2.held D t =
              update (s.held D t) k (some (D.enlist (decide (k ∈ list)) (s.resource D k))) := by
            refine held_update_resource hworker rfl (resource_writeList list k) fun j hj => ?_
            exact resource_writeList_of_ne ha fun h => hj (Option.some.inj h)
          rw [hheld]
          exact h
  | outside o => exact h (env.reply o)

theorem inv_handle (h : Ensures D Q (.access a next) (s.held D t)) (hinv : ∀ k, D.Inv k (s.resource D k))
    (ha : Allowed D t env s a) (j : κ) : D.Inv j ((handle D t env a s).2.resource D j) := by
  cases a with
  | mark k =>
      rw [handle]
      split
      · exact hinv j
      · exact hinv j
  | clear k => exact hinv j
  | enter k => exact hinv j
  | leave k =>
      rw [handle]
      split
      · exact hinv j
      · exact hinv j
  | act k a =>
      obtain ⟨r, hr, h⟩ := h
      obtain ⟨hworker, rfl⟩ := held_eq_some.mp hr
      rw [handle]
      dsimp only
      rw [resource_act]
      by_cases hj : j = k
      · subst hj
        rw [update_self]
        exact (h env.fault (ha hworker)).1
      · rw [update_of_ne hj]
        exact hinv j
  | readList => exact hinv j
  | writeList own list =>
      rw [handle]
      dsimp only
      by_cases hj : some j = own
      · subst hj
        obtain ⟨r, hr, hlisted, -⟩ := h
        obtain ⟨-, rfl⟩ := held_eq_some.mp hr
        rw [resource_writeList]
        exact hlisted
      · rw [resource_writeList_of_ne ha hj]
        exact hinv j
  | outside o => exact hinv j

theorem held_handle_of_ne {u : τ} (hu : u ≠ t) (h : Ensures D Q (.access a next) (s.held D t))
    (ha : Allowed D t env s a) : (handle D t env a s).2.held D u = s.held D u := by
  have hupdate : ∀ {k : κ} {w : Option τ}, s.worker k ≠ some u → w ≠ some u →
      ∀ j, update s.worker k w j = some u ↔ s.worker j = some u := by
    intro k w hk hw j
    by_cases hj : j = k
    · subst hj
      rw [update_self]
      exact iff_of_false hw hk
    · rw [update_of_ne hj]
  have htu : some t ≠ some u := fun htu => hu (Option.some.inj htu).symm
  have hown : ∀ {k r}, s.held D t k = some r → ∀ j, s.worker j = some u → j ≠ k := by
    rintro k r hr j hj rfl
    exact htu ((held_eq_some.mp hr).1.symm.trans hj)
  cases a with
  | mark k =>
      rw [handle]
      split
      · rfl
      · rename_i hmarked
        refine held_congr (hupdate ?_ htu) fun _ _ => rfl
        rw [ha (Bool.eq_false_iff.mpr hmarked)]
        exact (Option.some_ne_none u).symm
  | clear k => rfl
  | enter k =>
      refine held_congr (hupdate ?_ htu) fun _ _ => rfl
      rw [show s.worker k = none from ha]
      exact (Option.some_ne_none u).symm
  | leave k =>
      rw [handle]
      split
      · rename_i hk
        refine held_congr (hupdate ?_ (Option.some_ne_none u).symm) fun _ _ => rfl
        rw [hk]
        exact htu
      · rfl
  | act k a =>
      obtain ⟨r, hr, -⟩ := h
      refine held_congr (fun _ => Iff.rfl) fun j hj => ?_
      exact (resource_act k a env.fault j).trans (update_of_ne (hown hr j hj) _ _)
  | readList => rfl
  | writeList own list =>
      refine held_congr (fun _ => Iff.rfl) fun j hj => resource_writeList_of_ne ha ?_
      rintro rfl
      obtain ⟨r, hr, -, -⟩ := h
      exact hown hr j hj rfl
  | outside o => rfl

theorem worker_handle_of_ne {u : τ} (hu : u ≠ t) {j : κ} (h : (handle D t env a s).2.worker j = some u) :
    s.worker j = some u := by
  have hupdate : ∀ {k : κ} {w : Option τ}, w ≠ some u → update s.worker k w j = some u →
      s.worker j = some u := by
    intro k w hw h
    by_cases hj : j = k
    · subst hj
      rw [update_self] at h
      exact absurd h hw
    · rwa [update_of_ne hj] at h
  have htu : some t ≠ some u := fun htu => hu (Option.some.inj htu).symm
  cases a with
  | mark k =>
      rw [handle] at h
      split at h
      · exact h
      · exact hupdate htu h
  | enter k => exact hupdate htu h
  | leave k =>
      rw [handle] at h
      split at h
      · exact hupdate (Option.some_ne_none u).symm h
      · exact h
  | clear k => exact h
  | act k a => exact h
  | readList => exact h
  | writeList own list => exact h
  | outside o => exact h

end accesses

structure State (κ ρ Act τ : Type) {Outside : Type} (Ret : Act → Type) (Reply : Outside → Type) where
  shared : Shared κ ρ τ
  threads : τ → Option (Program (Access κ Act Outside) (Answer Ret Reply) Unit) := fun _ => none

inductive Event (ε τ Op : Type) {Outside : Type} (Reply : Outside → Type)
  | start (t : τ) (op : Op)
  | step (t : τ) (env : Env ε Reply)
  | restart

section machine

variable (D : Discipline κ Act ε ρ Ret) (program : Op → Program (Access κ Act Outside) (Answer Ret Reply) Unit)
  (s : State κ ρ Act τ Ret Reply)

def resume (t : τ) (env : Env ε Reply) :
    Program (Access κ Act Outside) (Answer Ret Reply) Unit → State κ ρ Act τ Ret Reply
  | .ret () => { s with threads := update s.threads t none }
  | .access a next =>
      { shared := (handle D t env a s.shared).2
        threads := update s.threads t (some (next (handle D t env a s.shared).1)) }

def step : Event ε τ Op Reply → State κ ρ Act τ Ret Reply
  | .start t op =>
      if (s.threads t).isSome then s else { s with threads := update s.threads t (some (program op)) }
  | .step t env => (s.threads t).elim s (resume D s t env)
  | .restart => { shared := s.shared.crashed }

def Undisturbed (admissible : Op → Prop) : Event ε τ Op Reply → Prop
  | .start _ op => admissible op
  | .step t env =>
      match s.threads t with
      | some (.access a _) => Allowed D t env s.shared a
      | some (.ret _) | none => True
  | .restart => True

instance (admissible : Op → Prop) [DecidablePred admissible] [∀ a e r, Decidable (D.credible a e r)]
    (e : Event ε τ Op Reply) : Decidable (Undisturbed D s admissible e) :=
  match e with
  | .start _ op => inferInstanceAs (Decidable (admissible op))
  | .step t env =>
      match h : s.threads t with
      | some (.access a _) => decidable_of_iff (Allowed D t env s.shared a) (by rw [Undisturbed, h])
      | some (.ret _) => isTrue (by rw [Undisturbed, h]; trivial)
      | none => isTrue (by rw [Undisturbed, h]; trivial)
  | .restart => isTrue trivial

structure Consistent : Prop where
  inv : ∀ k, D.Inv k (s.shared.resource D k)
  idle : ∀ t k, s.threads t = none → s.shared.worker k ≠ some t
  ensures : ∀ t p, s.threads t = some p → Ensures D (fun _ held => held = fun _ => none) p (s.shared.held D t)

variable {D program s} {admissible : Op → Prop}

theorem consistent_start (h : Consistent D s) {t : τ} {p : Program (Access κ Act Outside) (Answer Ret Reply) Unit}
    (hp : Proper D p) (hidle : s.threads t = none) :
    Consistent D { s with threads := update s.threads t (some p) } := by
  refine ⟨h.inv, ?_, ?_⟩
  · intro u k hu
    refine h.idle u k ?_
    by_cases hut : u = t
    · exact hut ▸ hidle
    · exact (update_of_ne hut _ _).symm.trans hu
  · intro u q hu
    by_cases hut : u = t
    · subst hut
      obtain rfl := Option.some.inj ((update_self u _ s.threads).symm.trans hu)
      have hheld : s.shared.held D u = fun _ => none := funext fun k => held_of_not_worker (h.idle u k hidle)
      rw [hheld]
      exact hp
    · exact h.ensures u q ((update_of_ne hut _ _).symm.trans hu)

theorem consistent_ret (h : Consistent D s) {t : τ} (ht : s.threads t = some (.ret ())) :
    Consistent D { s with threads := update s.threads t none } := by
  have hheld : s.shared.held D t = fun _ => none := h.ensures t _ ht
  refine ⟨h.inv, ?_, ?_⟩
  · intro u k hu hworker
    by_cases hut : u = t
    · subst hut
      have hk := congrFun hheld k
      rw [held_of_worker hworker] at hk
      cases hk
    · exact h.idle u k ((update_of_ne hut _ _).symm.trans hu) hworker
  · intro u q hu
    by_cases hut : u = t
    · subst hut
      cases (update_self u _ s.threads).symm.trans hu
    · exact h.ensures u q ((update_of_ne hut _ _).symm.trans hu)

theorem consistent_access (h : Consistent D s) {t : τ} {env : Env ε Reply} {a : Access κ Act Outside}
    {next : Answer Ret Reply a → Program (Access κ Act Outside) (Answer Ret Reply) Unit}
    (ht : s.threads t = some (.access a next)) (ha : Allowed D t env s.shared a) :
    Consistent D
      { shared := (handle D t env a s.shared).2
        threads := update s.threads t (some (next (handle D t env a s.shared).1)) } := by
  have hensures := h.ensures t _ ht
  refine ⟨inv_handle hensures h.inv ha, ?_, ?_⟩
  · intro u k hu hworker
    by_cases hut : u = t
    · subst hut
      cases (update_self u _ s.threads).symm.trans hu
    · exact h.idle u k ((update_of_ne hut _ _).symm.trans hu) (worker_handle_of_ne hut hworker)
  · intro u q hu
    by_cases hut : u = t
    · subst hut
      obtain rfl := Option.some.inj ((update_self u _ s.threads).symm.trans hu)
      exact ensures_handle hensures h.inv ha
    · have hq := h.ensures u q ((update_of_ne hut _ s.threads).symm.trans hu)
      rwa [← held_handle_of_ne hut hensures ha] at hq

theorem consistent_step (hprogram : ∀ op, admissible op → Proper D (program op)) (h : Consistent D s)
    {e : Event ε τ Op Reply} (he : Undisturbed D s admissible e) : Consistent D (step D program s e) := by
  cases e with
  | start t op =>
      rw [step]
      split
      · exact h
      · rename_i hidle
        exact consistent_start h (hprogram op he) (by simpa using hidle)
  | step t env =>
      rw [step]
      cases ht : s.threads t with
      | none => exact h
      | some p =>
          rw [Option.elim_some]
          cases p with
          | ret _ => exact consistent_ret h ht
          | access a next =>
              rw [Undisturbed, ht] at he
              exact consistent_access h ht he
  | restart =>
      refine ⟨h.inv, ?_, ?_⟩
      · intro t k _
        exact (Option.some_ne_none t).symm
      · intro t p ht
        cases ht

/-- The rule for programs that mark what they work on: all the resources keep their invariant in every run in which
nobody is disturbed, wherever it crashes. -/
theorem consistent_run (hprogram : ∀ op, admissible op → Proper D (program op)) (h : Consistent D s)
    {es : List (Event ε τ Op Reply)}
    (hes : Machine.Meets (step D program) (fun s e => Undisturbed D s admissible e) s es) :
    Consistent D (Machine.run (step D program) s es) := by
  have hstep : ∀ (s : State κ ρ Act τ Ret Reply) (e : Event ε τ Op Reply), Consistent D s →
      Undisturbed D s admissible e → Consistent D (step D program s e) := fun _ _ h he => consistent_step hprogram h he
  exact Machine.run_invariant_of_meets hstep h hes

theorem consistent_of_idle {shared : Shared κ ρ τ} (hinv : ∀ k, D.Inv k (shared.resource D k))
    (hidle : ∀ k, shared.worker k = none) : Consistent D ({ shared } : State κ ρ Act τ Ret Reply) := by
  refine ⟨hinv, ?_, ?_⟩
  · intro t k _
    rw [hidle]
    exact (Option.some_ne_none t).symm
  · intro t p ht
    cases ht

end machine

section alone

variable (D : Discipline κ Act ε ρ Ret) (t : τ) (H : Env ε Reply → Prop)

/-- A program that runs alone, in surroundings that are as `H` says, ends with `Q`. -/
def Leads {α : Type} (Q : α → Shared κ ρ τ → Prop) :
    Program (Access κ Act Outside) (Answer Ret Reply) α → Shared κ ρ τ → Prop
  | .ret a, s => Q a s
  | .access a next, s => ∀ env, H env → Leads Q (next (handle D t env a s).1) (handle D t env a s).2

variable {D t H} {α β : Type} {Q : α → Shared κ ρ τ → Prop} {s : Shared κ ρ τ}

theorem Leads.bind {R : β → Shared κ ρ τ → Prop} {p : Program (Access κ Act Outside) (Answer Ret Reply) α}
    {f : α → Program (Access κ Act Outside) (Answer Ret Reply) β} (hp : Leads D t H Q p s)
    (hf : ∀ a s, Q a s → Leads D t H R (f a) s) : Leads D t H R (p >>= f) s := by
  induction p generalizing s with
  | ret a => exact hf a s hp
  | access a next ih => exact fun env henv => ih _ (hp env henv)

theorem Leads.mono {R : α → Shared κ ρ τ → Prop} (hQ : ∀ a s, Q a s → R a s)
    {p : Program (Access κ Act Outside) (Answer Ret Reply) α} (h : Leads D t H Q p s) : Leads D t H R p s := by
  induction p generalizing s with
  | ret a => exact hQ a s h
  | access a next ih => exact fun env henv => ih _ (h env henv)

theorem leads_run {Op : Type} {Q : Shared κ ρ τ → Prop}
    {program : Op → Program (Access κ Act Outside) (Answer Ret Reply) Unit}
    {p : Program (Access κ Act Outside) (Answer Ret Reply) Unit} {s : State κ ρ Act τ Ret Reply}
    (ht : s.threads t = some p) (h : Leads D t H (fun _ => Q) p s.shared) {envs : Nat → Env ε Reply}
    (henvs : ∀ i, H (envs i)) :
    ∃ n, (Machine.run (step D program) s ((List.range n).map fun i => .step t (envs i))).threads t = none ∧
      Q (Machine.run (step D program) s ((List.range n).map fun i => .step t (envs i))).shared := by
  induction p generalizing s envs with
  | ret a =>
      refine ⟨1, ?_, ?_⟩
      · simp only [List.range_one, List.map_cons, List.map_nil, Machine.run_cons, step, ht, Option.elim_some, resume]
        exact update_self t none s.threads
      · simp only [List.range_one, List.map_cons, List.map_nil, Machine.run_cons, step, ht, Option.elim_some, resume]
        exact h
  | access a next ih =>
      obtain ⟨n, hn⟩ := ih _ (s := resume D s t (envs 0) (.access a next)) (update_self t _ s.threads)
        (h (envs 0) (henvs 0)) fun i => henvs (i + 1)
      refine ⟨n + 1, ?_⟩
      rw [List.range_succ_eq_map, List.map_cons, List.map_map, Machine.run_cons, step, ht, Option.elim_some]
      exact hn

end alone

end OsAccount.MarkedResources
