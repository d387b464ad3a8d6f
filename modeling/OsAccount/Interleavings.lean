import OsAccount.Machine
import OsAccount.TransactionPrograms
import Mathlib.Data.Fintype.Basic
import Mathlib.Data.List.Nodup
import Mathlib.Logic.Function.Basic

namespace OsAccount.Interleavings

open TransactionPrograms Function

structure Call (Access : Type) (Answer : Access → Type) (ε κ : Type) where
  locks : List κ
  program : Program Access Answer (Except ε Unit)

inductive Phase (Access : Type) (Answer : Access → Type) (ε κ : Type)
  | waiting (locks : List κ)
  | running (rest : Program Access Answer (Except ε Unit))
  | finished (result : Except ε Unit)

/-- The state of the calls. Some of it is history: the plain accesses that a call has made, whether others have written
since the open transaction began, and the calls that have succeeded in the order of their ends. -/
structure State (Access : Type) (Answer : Access → Type) (ε σ κ τ : Type) where
  store : σ
  saved : Option (τ × σ) := none
  holder : κ → Option τ := fun _ => none
  phase : τ → Phase Access Answer ε κ
  touched : τ → List Access := fun _ => []
  disturbed : Bool := false
  order : List τ := []

variable {Access : Type} {Answer : Access → Type} {ε σ ℓ ν κ τ : Type} (I : Interface Access Answer σ ℓ ν κ)

section calls

variable (calls : τ → Call Access Answer ε κ)

def initial (s : σ) : State Access Answer ε σ κ τ := { store := s, phase := fun t => .waiting (calls t).locks }

def succeeded : Except ε Unit → Bool
  | .ok () => true
  | .error _ => false

def serial (s : σ) : List τ → Option σ
  | [] => some s
  | t :: ts => if succeeded (I.perform (calls t).program s).1 then serial (I.perform (calls t).program s).2 ts else none

def Serializable (init : σ) (s : State Access Answer ε σ κ τ) : Prop :=
  ∃ order : List τ, order.Nodup ∧ (∀ t, t ∈ order ↔ s.phase t = .finished (.ok ())) ∧
    serial I calls init order = some s.store

def Succeeded (s : State Access Answer ε σ κ τ) (t : τ) : Prop := s.phase t = .finished (.ok ())

def Final (s : State Access Answer ε σ κ τ) : Prop := ∀ t rest, s.phase t ≠ .running rest

instance (s : State Access Answer ε σ κ τ) (t : τ) : Decidable (Succeeded s t) :=
  match hphase : s.phase t with
  | .finished (.ok ()) => .isTrue hphase
  | .finished (.error _) => .isFalse fun h => by cases hphase.symm.trans h
  | .waiting _ => .isFalse fun h => by cases hphase.symm.trans h
  | .running _ => .isFalse fun h => by cases hphase.symm.trans h

def Phase.isRunning : Phase Access Answer ε κ → Bool
  | .running _ => true
  | _ => false

theorem final_iff {s : State Access Answer ε σ κ τ} : Final s ↔ ∀ t, (s.phase t).isRunning = false := by
  refine forall_congr' fun t => ?_
  cases s.phase t with
  | running rest => exact iff_of_false (fun h => h rest rfl) nofun
  | _ => exact iff_of_true (fun _ => nofun) rfl

instance [Fintype τ] (s : State Access Answer ε σ κ τ) : Decidable (Final s) := decidable_of_iff _ final_iff.symm

variable [DecidableEq τ]

namespace State

variable (s : State Access Answer ε σ κ τ) (t : τ)

def setPhase (p : Phase Access Answer ε κ) : State Access Answer ε σ κ τ :=
  { s with phase := update s.phase t p }

def owns : Bool := s.saved.any fun saved => saved.1 = t

def released : Option (τ × σ) := if s.owns t then none else s.saved

def rolledBack : σ :=
  match s.saved with
  | some (u, saved) => if u = t then saved else s.store
  | none => s.store

section accesses

variable (e : Access) (next : Answer e → Program Access Answer (Except ε Unit))

def plain : State Access Answer ε σ κ τ :=
  { s.setPhase t (.running (next (I.handle e s.store).1)) with
    store := (I.handle e s.store).2
    touched := update s.touched t (s.touched t ++ [e])
    disturbed := s.disturbed || ((I.write e).isSome && !s.owns t) }

def start : State Access Answer ε σ κ τ :=
  match s.saved with
  | none =>
      { s.setPhase t (.running (next (I.handle e s.store).1)) with
        saved := some (t, s.store)
        disturbed := false }
  | some _ => s

def commit : State Access Answer ε σ κ τ :=
  { s.setPhase t (.running (next (I.handle e s.store).1)) with saved := s.released t }

end accesses

/-- The end of a call: a transaction that was not committed is rolled back, and the locks are given back. -/
def finish (result : Except ε Unit) : State Access Answer ε σ κ τ :=
  { s.setPhase t (.finished result) with
    store := s.rolledBack t
    saved := s.released t
    holder := fun l => if s.holder l = some t then none else s.holder l
    touched := update s.touched t []
    order := if succeeded result then s.order ++ [t] else s.order }

/-- A call that has made its last access returns, unless it has a transaction to roll back. -/
def settle : State Access Answer ε σ κ τ :=
  match s.phase t with
  | .running (.ret result) => if s.owns t then s else s.finish t result
  | _ => s

end State

structure Running (s : State Access Answer ε σ κ τ) (committed : σ) (t : τ)
    (rest : Program Access Answer (Except ε Unit)) (d : Database σ) : Prop where
  reaches : I.Reaches (calls t).program { store := committed } (s.touched t) rest d
  agree : ∀ x, I.Touched (s.touched t) x → I.look d.store x = I.look s.store x
  owner : d.saved.isSome = s.owns t
  saved : ∀ saved saved', s.saved = some (t, saved) → d.saved = some saved' → s.disturbed = false →
    ∀ x, (I.Written (s.touched t) x → I.look saved x = I.look saved' x) ∧
      (¬I.Written (s.touched t) x → I.look s.store x = I.look saved x)

structure Fits (init : σ) (s : State Access Answer ε σ κ τ) (committed : σ) : Prop where
  running : ∀ t rest, s.phase t = .running rest → ∃ d, Running I calls s committed t rest d
  idle : ∀ t, (∀ rest, s.phase t ≠ .running rest) → s.touched t = []
  unwritten : ∀ x, (∀ t, ¬I.Written (s.touched t) x) → I.look s.store x = I.look committed x
  apart : ∀ t u, t ≠ u → ∀ e ∈ s.touched t, ∀ e' ∈ s.touched u, I.conflict e e' = false
  owned : ∀ t, s.owns t = true → ∃ rest, s.phase t = .running rest
  serial_order : serial I calls init s.order = some committed
  nodup : s.order.Nodup
  order : ∀ t, t ∈ s.order ↔ s.phase t = .finished (.ok ())

variable {I calls} {init committed : σ} {s : State Access Answer ε σ κ τ} {t u : τ}
  {rest : Program Access Answer (Except ε Unit)} {d : Database σ}

theorem State.owns_iff : s.owns t = true ↔ ∃ saved, s.saved = some (t, saved) := by
  rw [State.owns, Option.any_eq_true]
  constructor
  · rintro ⟨⟨u, saved⟩, hs, hu⟩
    obtain rfl : u = t := of_decide_eq_true hu
    exact ⟨saved, hs⟩
  · rintro ⟨saved, hs⟩
    exact ⟨(t, saved), hs, decide_eq_true rfl⟩

theorem State.owns_unique (ht : s.owns t = true) (hu : s.owns u = true) : t = u := by
  obtain ⟨saved, hs⟩ := State.owns_iff.mp ht
  obtain ⟨saved', hs'⟩ := State.owns_iff.mp hu
  exact (Prod.mk.inj (Option.some.inj (hs.symm.trans hs'))).1

variable {s' : State Access Answer ε σ κ τ}

theorem State.owns_congr (h : s'.saved = s.saved) : s'.owns u = s.owns u := by
  rw [State.owns, State.owns, h]

theorem State.released_of_owns (hu : u ≠ t) (ho : s.owns u = true) : s.released t = s.saved :=
  if_neg fun ht => hu (State.owns_unique ho ht)

theorem State.owns_released (h : s'.saved = s.released t) :
    s'.owns t = false ∧ ∀ u, u ≠ t → s'.owns u = s.owns u := by
  have hkept : ∀ u, s'.owns u = true → s.owns t = false ∧ s'.saved = s.saved := by
    intro u ho
    obtain ⟨saved, hs⟩ := State.owns_iff.mp ho
    rw [h, State.released] at hs
    split at hs
    · cases hs
    · rename_i ht
      exact ⟨Bool.eq_false_iff.mpr ht, h.trans (if_neg ht)⟩
  refine ⟨Bool.eq_false_iff.mpr fun ho => ?_, fun u hu => Bool.eq_iff_iff.mpr ⟨fun ho => ?_, fun ho => ?_⟩⟩
  · obtain ⟨ht, hsaved⟩ := hkept t ho
    rw [State.owns_congr hsaved, ht] at ho
    cases ho
  · rwa [← State.owns_congr (hkept u ho).2]
  · rwa [State.owns_congr (h.trans (State.released_of_owns hu ho))]

theorem phase_setPhase_self (p : Phase Access Answer ε κ) : (s.setPhase t p).phase t = p := update_self ..

theorem phase_setPhase_of_ne (h : u ≠ t) (p : Phase Access Answer ε κ) : (s.setPhase t p).phase u = s.phase u :=
  update_of_ne h ..

theorem Running.frame (h : Running I calls s committed u rest d)
    (htouched : s'.touched u = s.touched u) (howns : s'.owns u = s.owns u)
    (hsaved : s.owns u = true → s'.saved = s.saved)
    (hstore : ∀ x, I.Touched (s.touched u) x → I.look s'.store x = I.look s.store x)
    (hother : s.owns u = true → s'.disturbed = false → s.disturbed = false ∧
      ∀ x, I.look s'.store x = I.look s.store x) : Running I calls s' committed u rest d where
  reaches := by
    rw [htouched]
    exact h.reaches
  agree x hx := by
    rw [htouched] at hx
    rw [h.agree x hx, hstore x hx]
  owner := by rw [h.owner, howns]
  saved saved saved' hs hs' hdisturbed x := by
    have hu : s'.owns u = true := State.owns_iff.mpr ⟨saved, hs⟩
    rw [howns] at hu
    obtain ⟨hold, hsame⟩ := hother hu hdisturbed
    rw [htouched, hsame x]
    rw [hsaved hu] at hs
    exact h.saved saved saved' hs hs' hold x

/-- A step that moves a call from one phase to another one in which it does not run, or lets it begin. -/
theorem Fits.setPhase (h : Fits I calls init s committed) {p : Phase Access Answer ε κ} (holder : κ → Option τ)
    (hwaiting : ∃ locks, s.phase t = .waiting locks)
    (hp : (∃ locks, p = .waiting locks) ∨ p = .running (calls t).program) :
    Fits I calls init { s.setPhase t p with holder } committed := by
  obtain ⟨locks, hlocks⟩ := hwaiting
  have hidle : s.touched t = [] := h.idle t fun rest hr => by cases hlocks.symm.trans hr
  have hother : ∀ u, u ≠ t → (s.setPhase t p).phase u = s.phase u := fun u hu => phase_setPhase_of_ne hu p
  have howns : s.owns t = false := by
    refine Bool.eq_false_iff.mpr fun ht => ?_
    obtain ⟨rest, hr⟩ := h.owned t ht
    cases hlocks.symm.trans hr
  refine ⟨fun u rest hr => ?_, fun u hr => ?_, h.unwritten, h.apart, fun u hu => ?_, h.serial_order, h.nodup,
    fun u => ?_⟩
  · by_cases hu : u = t
    · subst hu
      obtain rfl : p = .running rest := (phase_setPhase_self p).symm.trans hr
      obtain ⟨locks', hp⟩ | hp := hp
      · cases hp
      · obtain rfl : rest = (calls u).program := by injection hp
        refine ⟨{ store := committed }, ⟨?_, fun x hx => ?_, howns.symm, nofun⟩⟩
        · change I.Reaches _ _ (s.touched u) _ _
          rw [hidle]
          exact .refl
        · change I.Touched (s.touched u) x at hx
          rw [hidle] at hx
          exact absurd hx (Interface.not_touched_nil x)
    · obtain ⟨d, hd⟩ := h.running u rest ((hother u hu).symm.trans hr)
      exact ⟨d, hd.frame rfl rfl (fun _ => rfl) (fun _ _ => rfl) fun _ hdisturbed => ⟨hdisturbed, fun _ => rfl⟩⟩
  · by_cases hu : u = t
    · subst hu
      exact hidle
    · exact h.idle u fun rest hrest => hr rest ((hother u hu).trans hrest)
  · by_cases hut : u = t
    · subst hut
      cases howns.symm.trans hu
    · obtain ⟨rest, hr⟩ := h.owned u hu
      exact ⟨rest, (hother u hut).trans hr⟩
  · refine (h.order u).trans ?_
    by_cases hu : u = t
    · subst hu
      change _ ↔ (s.setPhase u p).phase u = _
      rw [phase_setPhase_self, hlocks]
      obtain ⟨locks', rfl⟩ | rfl := hp <;> exact ⟨nofun, nofun⟩
    · change _ ↔ (s.setPhase t p).phase u = _
      rw [hother u hu]

theorem Fits.look_eq (h : Fits I calls init s committed) {e : Access}
    (hapart : ∀ u, u ≠ t → ∀ e' ∈ s.touched u, I.conflict e e' = false) {x : ℓ}
    (hx : I.touches e x = true) (hwritten : ¬I.Written (s.touched t) x) :
    I.look s.store x = I.look committed x := by
  refine h.unwritten x fun u hu => ?_
  by_cases hut : u = t
  · subst hut
    exact hwritten hu
  · obtain ⟨e', he', hwrite⟩ := hu
    have hconflict := hapart u hut e' he'
    rw [Interface.conflict_comm] at hconflict
    rw [Interface.not_touches_of_conflict hconflict hwrite] at hx
    cases hx

theorem Fits.plain (hlocal : I.Local) (h : Fits I calls init s committed) {e : Access}
    {next : Answer e → Program Access Answer (Except ε Unit)} (hphase : s.phase t = .running (.access e next))
    (hkind : I.kind e = .plain) (hapart : ∀ u, u ≠ t → ∀ e' ∈ s.touched u, I.conflict e e' = false) :
    Fits I calls init (s.plain I t e next) committed := by
  obtain ⟨d, hd⟩ := h.running t _ hphase
  have hself : (s.plain I t e next).touched t = s.touched t ++ [e] := update_self ..
  have hother : ∀ u, u ≠ t → (s.plain I t e next).touched u = s.touched u := fun u hu => update_of_ne hu ..
  have hphases : ∀ u, u ≠ t → (s.plain I t e next).phase u = s.phase u := fun u hu => update_of_ne hu ..
  have hrunning : (s.plain I t e next).phase t = .running (next (I.handle e s.store).1) := update_self ..
  have hnew : ∀ x, I.touches e x = true → ¬I.Written (s.touched t) x → I.look s.store x = I.look committed x :=
    fun x => h.look_eq hapart
  have hframe : ∀ u, u ≠ t → ∀ x, I.Touched (s.touched u) x → I.write e ≠ some x := by
    intro u hu x ⟨e', he', hx⟩ hwrite
    rw [Interface.not_touches_of_conflict (hapart u hu e' he') hwrite] at hx
    cases hx
  have hsame : ∀ x, I.touches e x = true → I.look d.store x = I.look s.store x := by
    intro x hx
    by_cases htouched : I.Touched (s.touched t) x
    · exact hd.agree x htouched
    · have hwritten : ¬I.Written (s.touched t) x := fun hw => htouched (hlocal.touched_of_written hw)
      rw [(hd.reaches.frame hlocal hwritten).1, hnew x hx hwritten]
  refine ⟨fun u rest' hr => ?_, fun u hr => ?_, fun x hx => ?_, fun u v huv => ?_, fun u hu => ?_, h.serial_order,
    h.nodup, fun u => ?_⟩
  · by_cases hu : u = t
    · subst hu
      obtain rfl : next (I.handle e s.store).1 = rest' := by
        have hr' := hrunning.symm.trans hr
        injection hr'
      have hreaches := Interface.Reaches.plain hd.reaches hkind
      rw [Interface.access_plain hkind] at hreaches
      dsimp only at hreaches
      rw [hlocal.answer e d.store s.store hsame, ← hself] at hreaches
      refine ⟨{ d with store := (I.handle e d.store).2 }, hreaches, fun x hx => ?_, hd.owner,
        fun saved saved' hs hs' hdisturbed x => ?_⟩
      · rw [hself, Interface.touched_snoc] at hx
        refine hlocal.handle_congr hsame ?_
        rcases hx with hx | hx
        · exact hd.agree x hx
        · exact hsame x hx
      · obtain ⟨hold, hpresent⟩ :=
          hd.saved saved saved' hs hs' (Bool.or_eq_false_iff.mp hdisturbed).1 x
        rw [hself, Interface.written_snoc]
        refine ⟨fun hx => ?_, fun hx => ?_⟩
        · by_cases hwritten : I.Written (s.touched u) x
          · exact hold hwritten
          · have hwrite := hx.resolve_left hwritten
            rw [← hpresent hwritten, hnew x (hlocal.touches_write e x hwrite) hwritten,
              (hd.reaches.frame hlocal hwritten).2 saved' hs']
        · rw [not_or] at hx
          exact (hlocal.frame e s.store x hx.2).trans (hpresent hx.1)
    · obtain ⟨d', hd'⟩ := h.running u rest' ((hphases u hu).symm.trans hr)
      refine ⟨d', hd'.frame (hother u hu) rfl (fun _ => rfl) (fun x hx => ?_) fun howns hdisturbed => ?_⟩
      · exact hlocal.frame e s.store x (hframe u hu x hx)
      · obtain ⟨hold, hmine⟩ := Bool.or_eq_false_iff.mp hdisturbed
        have ht : s.owns t = false := Bool.eq_false_iff.mpr fun ht => hu (State.owns_unique howns ht)
        rw [ht, Bool.not_false, Bool.and_true] at hmine
        refine ⟨hold, fun x => hlocal.frame e s.store x fun hwrite => ?_⟩
        rw [hwrite] at hmine
        cases hmine
  · by_cases hu : u = t
    · subst hu
      exact absurd hrunning (hr _)
    · rw [hother u hu]
      exact h.idle u fun rest' hrest => hr rest' ((hphases u hu).trans hrest)
  · have hwrite : I.write e ≠ some x := fun hwrite =>
      hx t (by rw [hself]; exact Interface.written_snoc.mpr (.inr hwrite))
    refine (hlocal.frame e s.store x hwrite).trans (h.unwritten x fun u hu => ?_)
    by_cases hut : u = t
    · subst hut
      exact hx u (by rw [hself]; exact Interface.written_snoc.mpr (.inl hu))
    · exact hx u (by rwa [hother u hut])
  · intro e₁ he₁ e₂ he₂
    by_cases hu : u = t
    · subst hu
      rw [hother v (Ne.symm huv)] at he₂
      rw [hself] at he₁
      rcases List.mem_append.mp he₁ with he₁ | he₁
      · exact h.apart u v huv e₁ he₁ e₂ he₂
      · rw [List.mem_singleton.mp he₁]
        exact hapart v (Ne.symm huv) e₂ he₂
    · rw [hother u hu] at he₁
      by_cases hv : v = t
      · subst hv
        rw [hself] at he₂
        rcases List.mem_append.mp he₂ with he₂ | he₂
        · exact h.apart u v huv e₁ he₁ e₂ he₂
        · rw [List.mem_singleton.mp he₂, Interface.conflict_comm]
          exact hapart u hu e₁ he₁
      · rw [hother v hv] at he₂
        exact h.apart u v huv e₁ he₁ e₂ he₂
  · by_cases hut : u = t
    · subst hut
      exact ⟨_, hrunning⟩
    · obtain ⟨rest', hr⟩ := h.owned u hu
      exact ⟨rest', (hphases u hut).trans hr⟩
  · refine (h.order u).trans ?_
    by_cases hu : u = t
    · subst hu
      rw [hrunning, hphase]
      exact ⟨nofun, nofun⟩
    · rw [hphases u hu]

theorem Fits.mark (h : Fits I calls init s committed) {rest' : Program Access Answer (Except ε Unit)}
    {saved : Option (τ × σ)} {disturbed : Bool} (hphase : s.phase t = .running rest)
    (hrun : Running I calls { s.setPhase t (.running rest') with saved, disturbed } committed t rest' d)
    (howns : ∀ u, u ≠ t → ({ s with saved, disturbed } : State Access Answer ε σ κ τ).owns u = s.owns u)
    (hothers : ∀ u, u ≠ t → s.owns u = true → saved = s.saved ∧ disturbed = s.disturbed) :
    Fits I calls init { s.setPhase t (.running rest') with saved, disturbed } committed := by
  have hother : ∀ u, u ≠ t → (s.setPhase t (.running rest')).phase u = s.phase u := fun u hu => phase_setPhase_of_ne hu _
  have hself : (s.setPhase t (.running rest')).phase t = .running rest' := phase_setPhase_self _
  refine ⟨fun u rest'' hr => ?_, fun u hr => ?_, h.unwritten, h.apart, fun u hu => ?_, h.serial_order, h.nodup,
    fun u => ?_⟩
  · by_cases hu : u = t
    · subst hu
      obtain rfl : rest' = rest'' := by
        have hr' := hself.symm.trans hr
        injection hr'
      exact ⟨d, hrun⟩
    · obtain ⟨d', hd'⟩ := h.running u rest'' ((hother u hu).symm.trans hr)
      refine ⟨d', hd'.frame rfl (howns u hu) (fun ho => (hothers u hu ho).1) (fun _ _ => rfl) fun ho hdisturbed => ?_⟩
      exact ⟨(hothers u hu ho).2 ▸ hdisturbed, fun _ => rfl⟩
  · by_cases hu : u = t
    · subst hu
      exact absurd hself (hr _)
    · exact h.idle u fun rest'' hrest => hr rest'' ((hother u hu).trans hrest)
  · by_cases hut : u = t
    · subst hut
      exact ⟨_, hself⟩
    · obtain ⟨rest'', hr⟩ := h.owned u ((howns u hut).symm.trans hu)
      exact ⟨rest'', (hother u hut).trans hr⟩
  · refine (h.order u).trans ?_
    by_cases hu : u = t
    · subst hu
      change _ ↔ (s.setPhase u (.running rest')).phase u = _
      rw [hself, hphase]
      exact ⟨nofun, nofun⟩
    · change _ ↔ (s.setPhase t (.running rest')).phase u = _
      rw [hother u hu]

theorem Fits.start (hlocal : I.Local) (h : Fits I calls init s committed) {e : Access}
    {next : Answer e → Program Access Answer (Except ε Unit)} (hphase : s.phase t = .running (.access e next))
    (hkind : I.kind e = .start) : Fits I calls init (s.start I t e next) committed := by
  have hmark : I.kind e ≠ .plain := by
    rw [hkind]
    nofun
  rw [State.start]
  split
  · rename_i hnone
    obtain ⟨d, hd⟩ := h.running t _ hphase
    have howns : ∀ u, s.owns u = false := fun u => by rw [State.owns, hnone, Option.any_none]
    have hreaches := Interface.Reaches.mark hd.reaches hmark
    rw [Interface.access_start hkind] at hreaches
    dsimp only at hreaches
    rw [hlocal.mark e d.store s.store hmark] at hreaches
    refine h.mark hphase (d := { d with saved := some d.store }) ⟨hreaches, hd.agree, ?_, ?_⟩ (fun u hu => ?_)
      fun u _ hu => ?_
    · exact (decide_eq_true (Eq.refl t)).symm
    · intro saved saved' hs hs' _ x
      obtain rfl : s.store = saved := (Prod.mk.inj (Option.some.inj hs)).2
      obtain rfl : d.store = saved' := Option.some.inj hs'
      exact ⟨fun hx => (hd.agree x (hlocal.touched_of_written hx)).symm, fun _ => rfl⟩
    · rw [howns u]
      exact decide_eq_false (Ne.symm hu)
    · cases (howns u).symm.trans hu
  · exact h

theorem Fits.commit (hlocal : I.Local) (h : Fits I calls init s committed) {e : Access}
    {next : Answer e → Program Access Answer (Except ε Unit)} (hphase : s.phase t = .running (.access e next))
    (hkind : I.kind e = .commit) : Fits I calls init (s.commit I t e next) committed := by
  have hmark : I.kind e ≠ .plain := by
    rw [hkind]
    nofun
  obtain ⟨d, hd⟩ := h.running t _ hphase
  have hreaches := Interface.Reaches.mark hd.reaches hmark
  rw [Interface.access_commit hkind] at hreaches
  dsimp only at hreaches
  rw [hlocal.mark e d.store s.store hmark] at hreaches
  have hsaved : ({ s with saved := s.released t } : State Access Answer ε σ κ τ).saved = s.released t := rfl
  obtain ⟨hgone, hothers⟩ := State.owns_released hsaved
  exact h.mark hphase (d := { d with saved := none }) ⟨hreaches, hd.agree, hgone.symm, nofun⟩ hothers
    fun u hu ho => ⟨State.released_of_owns hu ho, rfl⟩

omit [DecidableEq τ] in
theorem serial_snoc {order : List τ} {s' : σ} (horder : serial I calls init order = some committed)
    (ht : I.perform (calls t).program committed = (.ok (), s')) : serial I calls init (order ++ [t]) = some s' := by
  induction order generalizing init with
  | nil =>
      obtain rfl : init = committed := Option.some.inj horder
      rw [List.nil_append, serial, ht]
      rfl
  | cons u order ih =>
      rw [serial] at horder
      rw [List.cons_append, serial]
      split at horder
      · rename_i hok
        rw [if_pos hok]
        exact ih horder
      · cases horder

theorem State.rolledBack_of_not_owns (h : s.owns t = false) : s.rolledBack t = s.store := by
  rw [State.rolledBack]
  split
  · rename_i u saved hs
    refine if_neg fun hu => Bool.eq_false_iff.mp h (State.owns_iff.mpr ⟨saved, ?_⟩)
    rw [hs, hu]
  · rfl

theorem State.rolledBack_of_owns {saved : σ} (h : s.saved = some (t, saved)) : s.rolledBack t = saved := by
  rw [State.rolledBack, h]
  exact if_pos rfl

theorem Fits.finish (hlocal : I.Local)
    (hatomic : ∀ t s e, (I.perform (calls t).program s).1 = .error e → (I.perform (calls t).program s).2 = s)
    (h : Fits I calls init s committed) {result : Except ε Unit} (hphase : s.phase t = .running (.ret result))
    (hundisturbed : s.owns t = true → s.disturbed = false) :
    ∃ committed', Fits I calls init (s.finish t result) committed' := by
  obtain ⟨d, hd⟩ := h.running t _ hphase
  have hself : (s.finish t result).touched t = [] := update_self ..
  have hother : ∀ u, u ≠ t → (s.finish t result).touched u = s.touched u := fun u hu => update_of_ne hu ..
  have hphases : ∀ u, u ≠ t → (s.finish t result).phase u = s.phase u := fun u hu => update_of_ne hu ..
  have hfinished : (s.finish t result).phase t = .finished result := update_self ..
  have hperform : I.perform (calls t).program committed = (result, d.close) := by
    rw [Interface.perform, hd.reaches.exec]
    rfl
  have hclose : ∀ x, ¬I.Written (s.touched t) x → I.look d.close x = I.look committed x := by
    intro x hx
    obtain ⟨hstore, hsaved⟩ := hd.reaches.frame hlocal hx
    rw [Database.close]
    cases hs : d.saved with
    | none => exact hstore
    | some saved => exact hsaved saved hs
  have hsaved : (s.finish t result).saved = s.released t := rfl
  have hgone := State.owns_released hsaved
  have hback : ∀ x, (I.Written (s.touched t) x → I.look (s.rolledBack t) x = I.look d.close x) ∧
      (¬I.Written (s.touched t) x → I.look (s.rolledBack t) x = I.look s.store x) := by
    intro x
    cases ho : s.owns t with
    | false =>
        have hnone : d.saved = none := Option.not_isSome_iff_eq_none.mp (by rw [hd.owner, ho]; nofun)
        rw [State.rolledBack_of_not_owns ho, Database.close, hnone]
        exact ⟨fun hx => (hd.agree x (hlocal.touched_of_written hx)).symm, fun _ => rfl⟩
    | true =>
        obtain ⟨saved, hs⟩ := State.owns_iff.mp ho
        obtain ⟨saved', hs'⟩ := Option.isSome_iff_exists.mp (hd.owner.trans ho)
        obtain ⟨hwritten, hrest⟩ := hd.saved saved saved' hs hs' (hundisturbed ho) x
        rw [State.rolledBack_of_owns hs, Database.close, hs']
        exact ⟨hwritten, fun hx => (hrest hx).symm⟩
  have hapart : ∀ u, u ≠ t → ∀ x, I.Touched (s.touched u) x → ¬I.Written (s.touched t) x := by
    intro u hu x ⟨e', he', hx⟩ ⟨e, he, hwrite⟩
    rw [Interface.not_touches_of_conflict (h.apart t u (Ne.symm hu) e he e' he') hwrite] at hx
    cases hx
  refine ⟨d.close, fun u rest' hr => ?_, fun u hr => ?_, fun x hx => ?_, fun u v huv => ?_, fun u hu => ?_, ?_, ?_,
    fun u => ?_⟩
  · by_cases hu : u = t
    · subst hu
      cases hfinished.symm.trans hr
    · obtain ⟨d₀, hd₀⟩ := h.running u rest' ((hphases u hu).symm.trans hr)
      obtain ⟨d', hreaches, halike⟩ := hd₀.reaches.congr hlocal fun x hx => (hclose x (hapart u hu x hx)).symm
      have hstore : ∀ x, I.Touched (s.touched u) x → I.look (s.rolledBack t) x = I.look s.store x :=
        fun x hx => (hback x).2 (hapart u hu x hx)
      have hold : ∀ saved, (s.finish t result).saved = some (u, saved) →
          s.owns t = false ∧ s.saved = some (u, saved) := by
        intro saved hs
        have ho : s.owns u = true := by
          rw [← hgone.2 u hu]
          exact State.owns_iff.mpr ⟨saved, hs⟩
        refine ⟨Bool.eq_false_iff.mpr fun ht => hu (State.owns_unique ho ht), ?_⟩
        exact (State.released_of_owns hu ho).symm.trans hs
      refine ⟨d', ?_, fun x hx => ?_, ?_, fun saved saved' hs hs' hdisturbed x => ?_⟩
      · rw [hother u hu]
        exact hreaches
      · rw [hother u hu] at hx
        rw [← halike.store x hx, hd₀.agree x hx]
        exact (hstore x hx).symm
      · rw [halike.open_iff, hd₀.owner]
        exact (hgone.2 u hu).symm
      · obtain ⟨ht, hs⟩ := hold saved hs
        obtain ⟨saved₀, hs₀⟩ := Option.isSome_iff_exists.mp (halike.open_iff.symm.trans (by rw [hs']; rfl))
        obtain ⟨hwritten, hrest⟩ := hd₀.saved saved saved₀ hs hs₀ hdisturbed x
        rw [hother u hu]
        refine ⟨fun hx => ?_, fun hx => ?_⟩
        · rw [hwritten hx]
          exact halike.saved x saved₀ saved' (hlocal.touched_of_written hx) hs₀ hs'
        · rw [← hrest hx]
          exact congrArg (I.look · x) (State.rolledBack_of_not_owns ht)
  · by_cases hu : u = t
    · subst hu
      exact hself
    · rw [hother u hu]
      exact h.idle u fun rest' hrest => hr rest' ((hphases u hu).trans hrest)
  · by_cases hwritten : I.Written (s.touched t) x
    · exact (hback x).1 hwritten
    · refine ((hback x).2 hwritten).trans ((h.unwritten x fun u hu => ?_).trans (hclose x hwritten).symm)
      by_cases hut : u = t
      · subst hut
        exact hwritten hu
      · exact hx u (by rwa [hother u hut])
  · intro e₁ he₁ e₂ he₂
    by_cases hu : u = t
    · subst hu
      rw [hself] at he₁
      cases he₁
    · by_cases hv : v = t
      · subst hv
        rw [hself] at he₂
        cases he₂
      · rw [hother u hu] at he₁
        rw [hother v hv] at he₂
        exact h.apart u v huv e₁ he₁ e₂ he₂
  · have hut : u ≠ t := by
      rintro rfl
      cases hgone.1.symm.trans hu
    obtain ⟨rest', hr⟩ := h.owned u ((hgone.2 u hut).symm.trans hu)
    exact ⟨rest', (hphases u hut).trans hr⟩
  · cases result with
    | ok _ => exact serial_snoc h.serial_order hperform
    | error e =>
        have hsame := hatomic t committed e (congrArg Prod.fst hperform)
        rw [hperform] at hsame
        exact h.serial_order.trans (congrArg some hsame.symm)
  · cases result with
    | ok _ =>
        have ht : t ∉ s.order := fun ht => by cases hphase.symm.trans ((h.order t).mp ht)
        exact (List.nodup_append_comm.mp (List.nodup_cons.mpr ⟨ht, h.nodup⟩))
    | error e => exact h.nodup
  · by_cases hu : u = t
    · subst hu
      rw [hfinished]
      cases result with
      | ok _ => exact iff_of_true (List.mem_append_right _ List.mem_cons_self) rfl
      | error e =>
          refine iff_of_false (fun ht => ?_) nofun
          cases hphase.symm.trans ((h.order u).mp ht)
    · rw [hphases u hu, ← h.order u]
      cases result with
      | ok _ => exact ⟨fun ht => (List.mem_append.mp ht).resolve_right fun he => hu (List.mem_singleton.mp he),
          List.mem_append_left _⟩
      | error e => exact Iff.rfl

theorem Fits.settle (hlocal : I.Local)
    (hatomic : ∀ t s e, (I.perform (calls t).program s).1 = .error e → (I.perform (calls t).program s).2 = s)
    (h : Fits I calls init s committed) (t : τ) : ∃ committed', Fits I calls init (s.settle t) committed' := by
  rw [State.settle]
  split
  · rename_i result hphase
    split
    · exact ⟨committed, h⟩
    · rename_i howns
      exact h.finish hlocal hatomic hphase fun ho => absurd ho howns
  · exact ⟨committed, h⟩

theorem eq_ok_of_succeeded {result : Except ε Unit} (h : succeeded result = true) : result = .ok () := by
  cases result with
  | ok _ => rfl
  | error e => cases h

omit [DecidableEq τ] in
theorem serial_invariant {Inv : σ → Prop} {ts : List τ} {s' : σ}
    (hstep : ∀ t ∈ ts, ∀ s, Inv s → Inv (I.perform (calls t).program s).2) (hinit : Inv init)
    (h : serial I calls init ts = some s') : Inv s' := by
  induction ts generalizing init with
  | nil => exact Option.some.inj h ▸ hinit
  | cons t ts ih =>
      rw [serial] at h
      split at h
      · exact ih (fun u hu => hstep u (List.mem_cons_of_mem t hu)) (hstep t List.mem_cons_self init hinit) h
      · cases h

omit [DecidableEq τ] in
theorem serial_establishes {Inv Q : σ → Prop} {ts : List τ} {s' : σ}
    (hstep : ∀ t s, Inv s → Inv (I.perform (calls t).program s).2) (hinit : Inv init) (ht : t ∈ ts)
    (hestablish : ∀ s, Inv s → (I.perform (calls t).program s).1 = .ok () → Q (I.perform (calls t).program s).2)
    (hkeep : ∀ u ∈ ts, ∀ s, Inv s → Q s → Q (I.perform (calls u).program s).2)
    (h : serial I calls init ts = some s') : Q s' := by
  induction ts generalizing init with
  | nil => cases ht
  | cons u ts ih =>
      rw [serial] at h
      split at h
      · rename_i hok
        rcases List.mem_cons.mp ht with rfl | ht
        · have hdone := hestablish init hinit (eq_ok_of_succeeded hok)
          have hboth : ∀ v ∈ ts, ∀ s, Inv s ∧ Q s →
              Inv (I.perform (calls v).program s).2 ∧ Q (I.perform (calls v).program s).2 :=
            fun v hv s hs => ⟨hstep v s hs.1, hkeep v (List.mem_cons_of_mem t hv) s hs.1 hs.2⟩
          exact (serial_invariant hboth ⟨hstep t init hinit, hdone⟩ h).2
        · exact ih (hstep u init hinit) ht (fun v hv => hkeep v (List.mem_cons_of_mem u hv)) h
      · cases h

end calls

section steps

variable (calls : τ → Call Access Answer ε κ) [DecidableEq τ] [DecidableEq κ]

/-- The next step of a call. A step whose turn it is not changes nothing, so that a list of calls is any interleaving
that respects the locks. -/
def step (s : State Access Answer ε σ κ τ) (t : τ) : State Access Answer ε σ κ τ :=
  match s.phase t with
  | .waiting [] => s.setPhase t (.running (calls t).program)
  | .waiting (l :: locks) =>
      if s.holder l = none then
        { s.setPhase t (.waiting locks) with holder := update s.holder l (some t) }
      else s
  | .running (.access e next) =>
      if (I.needs e).any fun l => (s.holder l).isSome then s
      else
        match I.kind e with
        | .plain => (s.plain I t e next).settle t
        | .start => s.start I t e next
        | .commit => (s.commit I t e next).settle t
  | .running (.ret result) => s.finish t result
  | .finished _ => s

/-- No call makes an access that is in conflict with one of a call that is under way, and no transaction is rolled back
after others have written. -/
def Undisturbed (s : State Access Answer ε σ κ τ) (t : τ) : Prop :=
  match s.phase t with
  | .running (.access e _) => I.kind e = .plain → ∀ u, u ≠ t → ∀ e' ∈ s.touched u, I.conflict e e' = false
  | .running (.ret _) => s.owns t = true → s.disturbed = false
  | _ => True

instance [Fintype τ] (s : State Access Answer ε σ κ τ) (t : τ) : Decidable (Undisturbed I s t) :=
  match hphase : s.phase t with
  | .waiting _ => .isTrue (by rw [Undisturbed, hphase]; trivial)
  | .running (.access e _) =>
      decidable_of_iff (I.kind e = .plain → ∀ u, u ≠ t → ∀ e' ∈ s.touched u, I.conflict e e' = false)
        (by rw [Undisturbed, hphase])
  | .running (.ret _) => decidable_of_iff (s.owns t = true → s.disturbed = false) (by rw [Undisturbed, hphase])
  | .finished _ => .isTrue (by rw [Undisturbed, hphase]; trivial)

variable {I calls} {init committed : σ} {s : State Access Answer ε σ κ τ} {t : τ}

theorem fits_step (hlocal : I.Local)
    (hatomic : ∀ t s e, (I.perform (calls t).program s).1 = .error e → (I.perform (calls t).program s).2 = s)
    (h : Fits I calls init s committed) (hc : Undisturbed I s t) :
    ∃ committed', Fits I calls init (step I calls s t) committed' := by
  rw [Undisturbed] at hc
  rw [step]
  cases hphase : s.phase t with
  | waiting locks =>
      cases locks with
      | nil => exact ⟨committed, h.setPhase s.holder ⟨[], hphase⟩ (.inr rfl)⟩
      | cons l locks =>
          dsimp only
          split
          · exact ⟨committed, h.setPhase _ ⟨_, hphase⟩ (.inl ⟨locks, rfl⟩)⟩
          · exact ⟨committed, h⟩
  | running rest =>
      rw [hphase] at hc
      cases rest with
      | ret result => exact h.finish hlocal hatomic hphase hc
      | access e next =>
          dsimp only
          split
          · exact ⟨committed, h⟩
          · cases hkind : I.kind e with
            | plain => exact (h.plain hlocal hphase hkind (hc hkind)).settle hlocal hatomic t
            | start => exact ⟨committed, h.start hlocal hphase hkind⟩
            | commit => exact (h.commit hlocal hphase hkind).settle hlocal hatomic t
  | finished result => exact ⟨committed, h⟩

omit [DecidableEq κ] in
theorem fits_initial (calls : τ → Call Access Answer ε κ) (init : σ) :
    Fits I calls init (initial calls init : State Access Answer ε σ κ τ) init where
  running _ _ hr := by cases hr
  idle _ _ := rfl
  unwritten _ _ := rfl
  apart _ _ _ _ he := by cases he
  owned _ ho := by cases ho
  serial_order := rfl
  nodup := List.nodup_nil
  order _ := ⟨nofun, nofun⟩

omit [DecidableEq κ] in
theorem Fits.serializable (hlocal : I.Local) (h : Fits I calls init s committed) (hfinal : Final s) :
    Serializable I calls init s := by
  have hstore : s.store = committed := by
    refine hlocal.ext _ _ fun x => h.unwritten x fun t ht => ?_
    rw [h.idle t (hfinal t)] at ht
    exact Interface.not_written_nil x ht
  exact ⟨s.order, h.nodup, h.order, hstore ▸ h.serial_order⟩

/-- Calls that undo what they have done if they fail, and that are not disturbed, leave the store as if those that
succeed had run one after the other, whatever the interleaving. -/
theorem run_serializable (hlocal : I.Local)
    (hatomic : ∀ t s e, (I.perform (calls t).program s).1 = .error e → (I.perform (calls t).program s).2 = s)
    (init : σ) {ts : List τ} (hts : Machine.Meets (step I calls) (Undisturbed I) (initial calls init) ts)
    (hfinal : Final (Machine.run (step I calls) (initial calls init) ts)) :
    Serializable I calls init (Machine.run (step I calls) (initial calls init) ts) := by
  have hstep : ∀ s t, (∃ committed, Fits I calls init s committed) → Undisturbed I s t →
      ∃ committed, Fits I calls init (step I calls s t) committed :=
    fun s t ⟨committed, h⟩ hc => fits_step hlocal hatomic h hc
  obtain ⟨committed, h⟩ := Machine.run_invariant_of_meets hstep ⟨init, fits_initial calls init⟩ hts
  exact h.serializable hlocal hfinal

end steps

end OsAccount.Interleavings
