import OsAccount.Program

namespace OsAccount.TransactionPrograms

inductive Kind
  | plain
  | start
  | commit
deriving DecidableEq

/-- An interface to a store that is made of places. An access looks at the places that it touches, writes one of them
at most, and waits for a lock if it needs one for a moment. -/
structure Interface (Access : Type) (Answer : Access → Type) (σ ℓ ν κ : Type) where
  handle : (e : Access) → σ → Answer e × σ
  kind : Access → Kind
  needs : Access → Option κ
  touches : Access → ℓ → Bool
  write : Access → Option ℓ
  look : σ → ℓ → ν

structure Database (σ : Type) where
  store : σ
  saved : Option σ := none

def Database.close {σ : Type} (d : Database σ) : σ := d.saved.getD d.store

variable {Access : Type} {Answer : Access → Type} {σ ℓ ν κ α : Type} (I : Interface Access Answer σ ℓ ν κ)

namespace Interface

structure Local : Prop where
  ext : ∀ s s', (∀ x, I.look s x = I.look s' x) → s = s'
  touches_write : ∀ e x, I.write e = some x → I.touches e x = true
  answer : ∀ e s s', (∀ x, I.touches e x = true → I.look s x = I.look s' x) → (I.handle e s).1 = (I.handle e s').1
  effect : ∀ e s s' x, (∀ y, I.touches e y = true → I.look s y = I.look s' y) → I.write e = some x →
    I.look (I.handle e s).2 x = I.look (I.handle e s').2 x
  frame : ∀ e s x, I.write e ≠ some x → I.look (I.handle e s).2 x = I.look s x
  mark : ∀ e s s', I.kind e ≠ .plain → (I.handle e s).1 = (I.handle e s').1

def conflict (e e' : Access) : Bool := (I.write e).any (I.touches e') || (I.write e').any (I.touches e)

def access (e : Access) (d : Database σ) : Answer e × Database σ :=
  ((I.handle e d.store).1, match I.kind e with
    | .plain => { d with store := (I.handle e d.store).2 }
    | .start => { d with saved := some d.store }
    | .commit => { d with saved := none })

/-- A program that runs alone. What a transaction has written is undone unless it is committed. -/
def perform (p : Program Access Answer α) (s : σ) : α × σ :=
  let result := Program.exec I.access p { store := s }
  (result.1, result.2.close)

def Touched (es : List Access) (x : ℓ) : Prop := ∃ e ∈ es, I.touches e x = true

def Written (es : List Access) (x : ℓ) : Prop := ∃ e ∈ es, I.write e = some x

inductive Reaches (p : Program Access Answer α) (d : Database σ) :
    List Access → Program Access Answer α → Database σ → Prop
  | refl : Reaches p d [] p d
  | plain {es e next d'} (h : Reaches p d es (.access e next) d') (hkind : I.kind e = .plain) :
      Reaches p d (es ++ [e]) (next (I.access e d').1) (I.access e d').2
  | mark {es e next d'} (h : Reaches p d es (.access e next) d') (hkind : I.kind e ≠ .plain) :
      Reaches p d es (next (I.access e d').1) (I.access e d').2

variable {I}

variable {x : ℓ}

theorem not_touches_of_conflict {e e' : Access} (h : I.conflict e e' = false) (hx : I.write e = some x) :
    I.touches e' x = false := by
  have hfirst := (Bool.or_eq_false_iff.mp h).1
  rwa [hx] at hfirst

theorem conflict_comm (e e' : Access) : I.conflict e e' = I.conflict e' e := Bool.or_comm ..

theorem not_written_nil (x : ℓ) : ¬I.Written [] x := by
  rintro ⟨e, he, -⟩
  cases he

theorem not_touched_nil (x : ℓ) : ¬I.Touched [] x := by
  rintro ⟨e, he, -⟩
  cases he

variable {e : Access}

theorem written_snoc {es : List Access} :
    I.Written (es ++ [e]) x ↔ I.Written es x ∨ I.write e = some x := by
  constructor
  · rintro ⟨e', he', hx⟩
    rcases List.mem_append.mp he' with he' | he'
    · exact .inl ⟨e', he', hx⟩
    · obtain rfl := List.mem_singleton.mp he'
      exact .inr hx
  · rintro (⟨e', he', hx⟩ | hx)
    · exact ⟨e', List.mem_append_left _ he', hx⟩
    · exact ⟨e, List.mem_append_right _ List.mem_cons_self, hx⟩

theorem touched_snoc {es : List Access} :
    I.Touched (es ++ [e]) x ↔ I.Touched es x ∨ I.touches e x = true := by
  constructor
  · rintro ⟨e', he', hx⟩
    rcases List.mem_append.mp he' with he' | he'
    · exact .inl ⟨e', he', hx⟩
    · obtain rfl := List.mem_singleton.mp he'
      exact .inr hx
  · rintro (⟨e', he', hx⟩ | hx)
    · exact ⟨e', List.mem_append_left _ he', hx⟩
    · exact ⟨e, List.mem_append_right _ List.mem_cons_self, hx⟩

theorem Local.touched_of_written (h : I.Local) {es : List Access} (hx : I.Written es x) : I.Touched es x := by
  obtain ⟨e, he, hwrite⟩ := hx
  exact ⟨e, he, h.touches_write e x hwrite⟩

theorem Local.handle_congr (h : I.Local) {s s' : σ}
    (hsame : ∀ x, I.touches e x = true → I.look s x = I.look s' x) (hx : I.look s x = I.look s' x) :
    I.look (I.handle e s).2 x = I.look (I.handle e s').2 x := by
  by_cases hwrite : I.write e = some x
  · exact h.effect e s s' x hsame hwrite
  · rw [h.frame e s x hwrite, h.frame e s' x hwrite, hx]

section reaches

variable {p q : Program Access Answer α} {d d' : Database σ} {es : List Access}

theorem Reaches.exec (h : I.Reaches p d es q d') : Program.exec I.access p d = Program.exec I.access q d' := by
  induction h with
  | refl => rfl
  | plain h hkind ih => exact ih
  | mark h hkind ih => exact ih

variable {e : Access}

theorem access_plain (hkind : I.kind e = .plain) :
    I.access e d = ((I.handle e d.store).1, { d with store := (I.handle e d.store).2 }) := by
  rw [access, hkind]

theorem access_start (hkind : I.kind e = .start) :
    I.access e d = ((I.handle e d.store).1, { d with saved := some d.store }) := by
  rw [access, hkind]

theorem access_commit (hkind : I.kind e = .commit) :
    I.access e d = ((I.handle e d.store).1, { d with saved := none }) := by
  rw [access, hkind]

theorem store_access_mark (hkind : I.kind e ≠ .plain) : (I.access e d).2.store = d.store := by
  cases hk : I.kind e with
  | plain => exact absurd hk hkind
  | start => rw [access_start hk]
  | commit => rw [access_commit hk]

/-- A place that is not written looks as in the beginning, in the store and in what has been saved of it. -/
theorem Reaches.frame (hlocal : I.Local) {s : σ} (h : I.Reaches p { store := s } es q d') {x : ℓ}
    (hx : ¬I.Written es x) :
    I.look d'.store x = I.look s x ∧ ∀ saved, d'.saved = some saved → I.look saved x = I.look s x := by
  induction h with
  | refl => exact ⟨rfl, nofun⟩
  | plain h hkind ih =>
      rw [written_snoc, not_or] at hx
      obtain ⟨hstore, hsaved⟩ := ih hx.1
      rw [access_plain hkind]
      exact ⟨(hlocal.frame _ _ x hx.2).trans hstore, hsaved⟩
  | @mark es e next d' h hkind ih =>
      obtain ⟨hstore, hsaved⟩ := ih hx
      refine ⟨(congrArg (I.look · x) (store_access_mark hkind)).trans hstore, fun saved hs => ?_⟩
      cases hk : I.kind e with
      | plain => exact absurd hk hkind
      | start =>
          rw [access_start hk] at hs
          rw [← Option.some.inj hs, hstore]
      | commit =>
          rw [access_commit hk] at hs
          cases hs

structure Alike (places : ℓ → Prop) (d d' : Database σ) : Prop where
  store : ∀ x, places x → I.look d.store x = I.look d'.store x
  open_iff : d'.saved.isSome = d.saved.isSome
  saved : ∀ x saved saved', places x → d.saved = some saved → d'.saved = some saved' →
    I.look saved x = I.look saved' x

theorem Reaches.congr (hlocal : I.Local) {s s' : σ} (h : I.Reaches p { store := s } es q d)
    (hsame : ∀ x, I.Touched es x → I.look s x = I.look s' x) :
    ∃ d', I.Reaches p { store := s' } es q d' ∧ Alike (I := I) (I.Touched es) d d' := by
  induction h with
  | refl => exact ⟨_, .refl, fun x hx => hsame x hx, rfl, nofun⟩
  | @plain es e next d h hkind ih =>
      obtain ⟨d', h', halike⟩ := ih fun x hx => hsame x (touched_snoc.mpr (.inl hx))
      have hold : ∀ x, I.Touched (es ++ [e]) x → I.Touched es x ∨
          (I.look d.store x = I.look s x ∧ I.look d'.store x = I.look s' x ∧
            (∀ saved, d.saved = some saved → I.look saved x = I.look s x) ∧
            ∀ saved, d'.saved = some saved → I.look saved x = I.look s' x) := by
        intro x hx
        by_cases hes : I.Touched es x
        · exact .inl hes
        · have hwritten : ¬I.Written es x := fun hw => hes (hlocal.touched_of_written hw)
          obtain ⟨hstore, hsaved⟩ := h.frame hlocal hwritten
          obtain ⟨hstore', hsaved'⟩ := h'.frame hlocal hwritten
          exact .inr ⟨hstore, hstore', hsaved, hsaved'⟩
      have hbefore : ∀ x, I.Touched (es ++ [e]) x → I.look d.store x = I.look d'.store x := by
        intro x hx
        rcases hold x hx with hes | ⟨hstore, hstore', -⟩
        · exact halike.store x hes
        · rw [hstore, hstore', hsame x hx]
      have htouch : ∀ x, I.touches e x = true → I.look d.store x = I.look d'.store x :=
        fun x hx => hbefore x (touched_snoc.mpr (.inr hx))
      have hnext := Reaches.plain h' hkind
      rw [access_plain hkind] at hnext ⊢
      rw [hlocal.answer e d.store d'.store htouch]
      refine ⟨_, hnext, fun x hx => hlocal.handle_congr htouch (hbefore x hx), halike.open_iff, ?_⟩
      intro x saved saved' hx hs hs'
      rcases hold x hx with hes | ⟨-, -, hsaved, hsaved'⟩
      · exact halike.saved x saved saved' hes hs hs'
      · rw [hsaved saved hs, hsaved' saved' hs', hsame x hx]
  | @mark es e next d h hkind ih =>
      obtain ⟨d', h', halike⟩ := ih hsame
      have hnext := Reaches.mark h' hkind
      have hanswer : (I.access e d).1 = (I.access e d').1 := hlocal.mark e d.store d'.store hkind
      refine ⟨_, hanswer ▸ hnext, fun x hx => ?_, ?_, fun x saved saved' hx hs hs' => ?_⟩
      · rw [store_access_mark hkind, store_access_mark hkind]
        exact halike.store x hx
      · cases hk : I.kind e with
        | plain => exact absurd hk hkind
        | start =>
            rw [access_start hk, access_start hk]
            rfl
        | commit =>
            rw [access_commit hk, access_commit hk]
      · cases hk : I.kind e with
        | plain => exact absurd hk hkind
        | start =>
            rw [access_start hk] at hs hs'
            rw [← Option.some.inj hs, ← Option.some.inj hs']
            exact halike.store x hx
        | commit =>
            rw [access_commit hk] at hs
            cases hs

end reaches

end Interface

end OsAccount.TransactionPrograms
