import OsAccount.AccountConstraints
import OsAccount.Machine
import OsAccount.RecordFields

namespace OsAccount.AccountRecord

open AccountList
open AccountConstraints (Build Definition checkConstraints changeConstraints constraintAdminAuthorize)

def userPhotoFileTxtName : String := "photo.txt"

inductive Field
  | localName
  | constraints
  | photo
  | credentialId
  | lastLoginTime
  | type
  | toBeRemoved
  | domainInfo
  | isVerified
  | isLoggedIn
  | isActived
  | displayId
  | isForeground
deriving DecidableEq

def Field.Value : Field → Type
  | .localName | .photo => String
  | .constraints => List String
  | .credentialId | .displayId => Nat
  | .lastLoginTime => Int
  | .type => OsAccountType
  | .domainInfo => DomainAccountInfo
  | .toBeRemoved | .isVerified | .isLoggedIn | .isActived | .isForeground => Bool

def get : (f : Field) → AccountFile → f.Value
  | .localName, r => r.localName
  | .constraints, r => r.constraints
  | .photo, r => r.photo
  | .credentialId, r => r.credentialId
  | .lastLoginTime, r => r.lastLoginTime
  | .type, r => r.type
  | .toBeRemoved, r => r.toBeRemoved
  | .domainInfo, r => r.domainInfo
  | .isVerified, r => r.isVerified
  | .isLoggedIn, r => r.isLoggedIn
  | .isActived, r => r.isActived
  | .displayId, r => r.displayId
  | .isForeground, r => r.isForeground

def set : (f : Field) → f.Value → AccountFile → AccountFile
  | .localName, v, r => { r with localName := v }
  | .constraints, v, r => { r with constraints := v }
  | .photo, v, r => { r with photo := v }
  | .credentialId, v, r => { r with credentialId := v }
  | .lastLoginTime, v, r => { r with lastLoginTime := v }
  | .type, v, r => { r with type := v }
  | .toBeRemoved, v, r => { r with toBeRemoved := v }
  | .domainInfo, v, r => { r with domainInfo := v }
  | .isVerified, v, r => { r with isVerified := v }
  | .isLoggedIn, v, r => { r with isLoggedIn := v }
  | .isActived, v, r => { r with isActived := v }
  | .displayId, v, r => { r with displayId := v }
  | .isForeground, v, r => { r with isForeground := v }

def layout : RecordFields.Layout AccountFile Field Field.Value where
  get := get
  set := set
  get_set f v r := by cases f <;> rfl
  get_set_of_ne {f g} h v r := by
    cases f with
    | _ => cases g with
      | _ => first | rfl | exact (h rfl).elim

/-- What a call assigns to the record that it has read, as the file has it then: a
text is written as a C string. -/
abbrev Assignments : Type := List (Sigma Field.Value)

inductive Call
  | setOsAccountName (name : String)
  | setOsAccountConstraints (constraints : List String) (enable : Bool)
  | setOsAccountProfilePhoto (photo : String)
  | setOsAccountCredentialId (credentialId : Nat)
  | setOsAccountIsLoggedIn (isLoggedIn : Bool)
  | setOsAccountType (type : OsAccountType)
  | setOsAccountToBeRemoved (toBeRemoved : Bool)
  | updateAccountInfoByDomainAccountInfo (newDomainAccountInfo : DomainAccountInfo)

/-- The answers that a call gets from its read of the record on, what the tables of
the service say about the account, and how long the system lets a name be. -/
structure Answers where
  recover : Ret
  read : Ret
  validate : Ret
  definition : Option Definition
  setPhotoById : Ret
  checkTypeNumber : Ret
  resetDefaultActivatedAccount : Ret
  cachedType : Option (OsAccountType × Bool)
  isVerified : Bool
  isLoggedIn : Bool
  displayId : Option Nat
  now : Int
  localNameMaxSize : Nat

section calls

variable (a : Answers) (r : AccountFile)

def setOsAccountName (name : String) : Except ErrCode (Option Assignments) :=
  match a.recover, a.read with
  | .error _, _ => .error .fileWriteFailed
  | .ok (), .error _ => .error .accountNotExistError
  | .ok (), .ok () =>
      if r.toBeRemoved then .error .toBeRemovedError
      else if r.localName = name then .ok none
      else a.validate.map fun _ => some [⟨.localName, CText.cStr name⟩]

def setOsAccountConstraints (constraints : List String) (enable : Bool) : Except ErrCode (Option Assignments) :=
  match a.read with
  | .error _ => .error .accountNotExistError
  | .ok () =>
      if r.toBeRemoved then .error .toBeRemovedError
      else if !checkConstraints a.definition constraints then .error .invalidParameter
      else .ok (some [⟨.constraints, changeConstraints enable constraints r.constraints⟩])

def setOsAccountProfilePhoto (photo : String) : Except ErrCode (Option Assignments) :=
  match a.recover, a.read with
  | .error _, _ => .error .fileWriteFailed
  | .ok (), .error _ => .error .accountNotExistError
  | .ok (), .ok () =>
      if r.toBeRemoved then .error .toBeRemovedError
      else if r.photo = photo then .ok none
      else a.setPhotoById.map fun _ => some [⟨.photo, userPhotoFileTxtName⟩]

def setOsAccountCredentialId (credentialId : Nat) : Except ErrCode (Option Assignments) :=
  match a.read with
  | .error _ => .error .accountNotExistError
  | .ok () => .ok (some [⟨.credentialId, credentialId⟩])

def getRealOsAccountInfoById (b : Build) (id : Int) : Assignments :=
  let cachedType := a.cachedType.getD (r.type, false)
  (if b.supportAuthorization && !b.isEmulator then
    (if id ≥ startUserId ∧ cachedType = (.admin, true) ∧ constraintAdminAuthorize ∉ r.constraints then
      [⟨.constraints, r.constraints ++ [constraintAdminAuthorize]⟩] else []) ++ [⟨.type, cachedType.1⟩]
  else []) ++
  [⟨.isVerified, a.isVerified⟩, ⟨.isLoggedIn, a.isLoggedIn⟩, ⟨.isActived, a.displayId.isSome⟩,
    ⟨.displayId, a.displayId.getD invalidDisplayId⟩,
    ⟨.isForeground, (a.displayId.any (· ≠ invalidDisplayId) : Bool)⟩]

def setOsAccountIsLoggedIn (b : Build) (id : Int) : Except ErrCode (Option Assignments) :=
  match a.read with
  | .error _ => .error .accountNotExistError
  | .ok () =>
      if r.toBeRemoved then .error .toBeRemovedError
      else .ok (some (getRealOsAccountInfoById a r b id ++ if a.isLoggedIn then [] else [⟨.lastLoginTime, a.now⟩]))

def setOsAccountType (type : OsAccountType) : Except ErrCode (Option Assignments) :=
  match a.read, a.checkTypeNumber with
  | .error e, _ => .error e
  | .ok (), .error e => .error e
  | .ok (), .ok () => .ok (some (
      (if type = .admin then [⟨.constraints, r.constraints.filter (· ≠ constraintAdminAuthorize)⟩] else []) ++
      [⟨.type, type⟩]))

def setOsAccountToBeRemoved (toBeRemoved : Bool) : Except ErrCode (Option Assignments) :=
  match a.read with
  | .error _ => .error .accountNotExistError
  | .ok () =>
      match (if toBeRemoved then a.resetDefaultActivatedAccount else .ok ()) with
      | .error e => .error e
      | .ok () => .ok (some [⟨.toBeRemoved, toBeRemoved⟩])

def updateAccountInfoByDomainAccountInfo (newInfo : DomainAccountInfo) : Except ErrCode (Option Assignments) :=
  match a.read with
  | .error e => .error e
  | .ok () =>
      let domainInfo := r.domainInfo.setDomainInfo a.localNameMaxSize (r.domainInfo.updated newInfo)
      .ok (some [⟨.domainInfo, domainInfo.stored⟩])

end calls

/-- What a call does with the record that it has read: it fails, it has nothing
to write, or it has assignments. -/
def prepare (b : Build) (id : Int) (a : Answers) (r : AccountFile) : Call → Except ErrCode (Option Assignments)
  | .setOsAccountName name => setOsAccountName a r name
  | .setOsAccountConstraints constraints enable => setOsAccountConstraints a r constraints enable
  | .setOsAccountProfilePhoto photo => setOsAccountProfilePhoto a r photo
  | .setOsAccountCredentialId credentialId => setOsAccountCredentialId a credentialId
  | .setOsAccountIsLoggedIn _ => setOsAccountIsLoggedIn a r b id
  | .setOsAccountType type => setOsAccountType a r type
  | .setOsAccountToBeRemoved toBeRemoved => setOsAccountToBeRemoved a toBeRemoved
  | .updateAccountInfoByDomainAccountInfo newInfo => updateAccountInfoByDomainAccountInfo a r newInfo

def Call.failedWrite (b : Build) (e : ErrCode) : Call → Ret
  | .setOsAccountName _ | .setOsAccountConstraints .. | .setOsAccountProfilePhoto _ | .setOsAccountCredentialId _ =>
      .error .updateAccountError
  | .setOsAccountIsLoggedIn _ => if e = .dataNoSpace then .ok () else .error .updateAccountError
  | .setOsAccountType _ => if b.supportAuthorization then .ok () else .error e
  | .setOsAccountToBeRemoved _ | .updateAccountInfoByDomainAccountInfo _ => .error e

/-- What keeps calls on one account apart. `operating` is the mark that the
account is being worked on: who finds it set gives up. -/
inductive Lock
  | createOsAccountMutex
  | updateLock
  | operating
deriving DecidableEq

def Call.locks : Call → List Lock
  | .setOsAccountIsLoggedIn _ => [.updateLock]
  | .setOsAccountType _ => [.createOsAccountMutex, .updateLock]
  | .setOsAccountToBeRemoved _ | .updateAccountInfoByDomainAccountInfo _ => [.operating]
  | _ => []

def Call.marksLate : Call → Bool
  | .setOsAccountType _ => true
  | _ => false

/-- The two calls cannot both be between their read and their write when the
second writes: the first holds something that the second needs to write. -/
def Call.Excludes (c d : Call) : Prop := ∃ l ∈ c.locks, l ∈ d.locks ∨ (d.marksLate = true ∧ l = .operating)

inductive Phase
  | ready
  | entered
  | marking
  | loaded
  | leaving (result : Ret)
  | finished (result : Ret)

structure State (τ : Type) where
  core : RecordFields.State AccountFile Field.Value τ
  phase : τ → Phase
  holder : Lock → Option τ

def initial {τ : Type} (r : AccountFile) : State τ := ⟨RecordFields.initial r, fun _ => .ready, fun _ => none⟩

inductive Event (τ : Type)
  | enter (t : τ)
  | read (t : τ) (a : Answers)
  | mark (t : τ) (setOsAccountTypeInTEE : Ret)
  | write (t : τ) (updateOsAccount : Ret)
  | leave (t : τ)

variable {τ : Type} [DecidableEq τ]

def State.setPhase (s : State τ) (t : τ) (p : Phase) : State τ := { s with phase := Function.update s.phase t p }

def State.take (s : State τ) (t : τ) (ls : List Lock) : State τ :=
  { s with holder := fun l => if l ∈ ls then some t else s.holder l }

/-- One step of one call of `calls`. A step whose turn it is not changes nothing,
so that a list of events is any interleaving that respects locks and marks. -/
def step (b : Build) (id : Int) (calls : τ → Call) (s : State τ) : Event τ → State τ
  | .enter t =>
      match s.phase t with
      | .ready =>
          if ∀ l ∈ (calls t).locks, s.holder l = none then (s.take t (calls t).locks).setPhase t .entered
          else if Lock.operating ∈ (calls t).locks then s.setPhase t (.finished (.error .accountOperatingError))
          else s
      | _ => s
  | .read t a =>
      match s.phase t with
      | .entered =>
          match prepare b id a s.core.record (calls t) with
          | .error e => s.setPhase t (.leaving (.error e))
          | .ok none => s.setPhase t (.leaving (.ok ()))
          | .ok (some as) =>
              { s.setPhase t (if (calls t).marksLate then .marking else .loaded) with core := s.core.read t as }
      | _ => s
  | .mark t tee =>
      match s.phase t with
      | .marking =>
          if s.holder .operating = none then
            (s.take t [.operating]).setPhase t (match tee with
              | .error e => .leaving (.error e)
              | .ok () => .loaded)
          else s.setPhase t (.leaving (.error .accountOperatingError))
      | _ => s
  | .write t answer =>
      match s.phase t, answer with
      | .loaded, .error e => s.setPhase t (.leaving ((calls t).failedWrite b e))
      | .loaded, .ok () => { s.setPhase t (.leaving (.ok ())) with core := s.core.write layout t }
      | _, _ => s
  | .leave t =>
      match s.phase t with
      | .leaving result =>
          { s.setPhase t (.finished result) with holder := fun l => if s.holder l = some t then none else s.holder l }
      | _ => s

def Phase.Active : Phase → Prop
  | .entered | .marking | .loaded | .leaving _ => True
  | .ready | .finished _ => False

/-- A call that writes has read the present value of the fields that it leaves
alone, as far as the others that have written since were not excluded. -/
def Undisturbed (calls : τ → Call) (s : State τ) : Event τ → Prop
  | .write t (.ok ()) => s.phase t = .loaded → ∀ r as, s.core.loaded t = some (r, as) →
      ∀ w ∈ s.core.since t, ¬(calls t).Excludes (calls w.1) → ∀ f, RecordFields.Assigns w.2 f →
        ¬RecordFields.Assigns as f → get f r = get f s.core.record
  | _ => True

structure Inv (calls : τ → Call) (init : AccountFile) (s : State τ) : Prop where
  holds {t : τ} : (s.phase t).Active → ∀ l ∈ (calls t).locks, s.holder l = some t
  marked {t : τ} : s.phase t = .loaded → (calls t).marksLate = true → s.holder .operating = some t
  apart {t : τ} : s.phase t = .marking ∨ s.phase t = .loaded → ∀ w ∈ s.core.since t, ¬(calls t).Excludes (calls w.1)
  traced : RecordFields.Traced layout s.core
  kept : RecordFields.Kept layout init s.core

variable {b : Build} {id : Int} {calls : τ → Call} {init : AccountFile} {s : State τ} {t : τ}

omit [DecidableEq τ] in
theorem inv_initial (calls : τ → Call) (init : AccountFile) : Inv calls init (initial init) where
  holds h := by cases h
  marked h := by cases h
  apart _ w hw := by cases hw
  traced t r as h := by cases h
  kept f := rfl

theorem Inv.setPhase (h : Inv calls init s) {p : Phase} (hholds : p.Active → ∀ l ∈ (calls t).locks, s.holder l = some t)
    (hmarked : p = .loaded → (calls t).marksLate = true → s.holder .operating = some t)
    (hapart : p = .marking ∨ p = .loaded → ∀ w ∈ s.core.since t, ¬(calls t).Excludes (calls w.1)) :
    Inv calls init (s.setPhase t p) where
  holds {u} hu := by
    by_cases hut : u = t
    · subst hut
      simp only [State.setPhase, Function.update_self] at hu
      exact hholds hu
    · simp only [State.setPhase, Function.update_of_ne hut] at hu
      exact h.holds hu
  marked {u} hu := by
    by_cases hut : u = t
    · subst hut
      simp only [State.setPhase, Function.update_self] at hu
      exact hmarked hu
    · simp only [State.setPhase, Function.update_of_ne hut] at hu
      exact h.marked hu
  apart {u} hu := by
    by_cases hut : u = t
    · subst hut
      simp only [State.setPhase, Function.update_self] at hu
      exact hapart hu
    · simp only [State.setPhase, Function.update_of_ne hut] at hu
      exact h.apart hu
  traced := h.traced
  kept := h.kept

omit [DecidableEq τ] in
theorem holder_take (s : State τ) (t : τ) (ls : List Lock) (l : Lock) :
    (s.take t ls).holder l = if l ∈ ls then some t else s.holder l := rfl

omit [DecidableEq τ] in
theorem Inv.take (h : Inv calls init s) {ls : List Lock} (hfree : ∀ l ∈ ls, s.holder l = none) :
    Inv calls init (s.take t ls) where
  holds {u} hu l hl := by
    have hheld := h.holds hu l hl
    by_cases hls : l ∈ ls
    · rw [hfree l hls] at hheld
      cases hheld
    · rwa [holder_take, if_neg hls]
  marked {u} hu hlate := by
    have hheld := h.marked hu hlate
    by_cases hls : Lock.operating ∈ ls
    · rw [hfree _ hls] at hheld
      cases hheld
    · rwa [holder_take, if_neg hls]
  apart := h.apart
  traced := h.traced
  kept := h.kept

theorem inv_enter (h : Inv calls init s) (t : τ) : Inv calls init (step b id calls s (.enter t)) := by
  cases hp : s.phase t with
  | ready =>
      simp only [step, hp]
      split
      · rename_i hfree
        refine (h.take hfree).setPhase (fun _ l hl => ?_) (fun he => by cases he)
          (fun he => by rcases he with he | he <;> cases he)
        rw [holder_take, if_pos hl]
      · split
        · exact h.setPhase (fun he => he.elim) (fun he => by cases he)
            (fun he => by rcases he with he | he <;> cases he)
        · exact h
  | _ => simpa only [step, hp] using h

theorem Inv.leaving (h : Inv calls init s) (hactive : (s.phase t).Active) (result : Ret) :
    Inv calls init (s.setPhase t (.leaving result)) :=
  h.setPhase (fun _ => h.holds hactive) (fun he => by cases he)
    (fun he => by rcases he with he | he <;> cases he)

theorem Inv.read (h : Inv calls init s) (as : Assignments) (hmarking : s.phase t ≠ .marking)
    (hloaded : s.phase t ≠ .loaded) : Inv calls init { s with core := s.core.read t as } where
  holds := h.holds
  marked := h.marked
  apart {u} hu w hw := by
    have hut : u ≠ t := by
      rintro rfl
      exact hu.elim hmarking hloaded
    refine h.apart hu w ?_
    simpa [RecordFields.State.read, hut] using hw
  traced := h.traced.read as
  kept := h.kept

theorem inv_read (h : Inv calls init s) (t : τ) (a : Answers) : Inv calls init (step b id calls s (.read t a)) := by
  cases hp : s.phase t with
  | entered =>
      have hactive : (s.phase t).Active := by
        rw [hp]
        trivial
      simp only [step, hp]
      split
      · exact h.leaving hactive _
      · exact h.leaving hactive _
      · rename_i as hprepare
        have hread := h.read as (by rw [hp]; simp) (by rw [hp]; simp)
        refine hread.setPhase (fun _ => h.holds hactive) (fun he hlate => ?_) (fun _ w hw => ?_)
        · simp [hlate] at he
        · simp [RecordFields.State.read] at hw
  | _ => simpa only [step, hp] using h

theorem inv_mark (h : Inv calls init s) (t : τ) (tee : Ret) : Inv calls init (step b id calls s (.mark t tee)) := by
  cases hp : s.phase t with
  | marking =>
      have hactive : (s.phase t).Active := by
        rw [hp]
        trivial
      simp only [step, hp]
      split
      · rename_i hfree
        have htake : Inv calls init (s.take t [.operating]) := h.take (by simpa using hfree)
        cases tee with
        | error e => exact htake.leaving hactive _
        | ok u =>
            refine htake.setPhase (fun _ => htake.holds hactive) (fun _ _ => ?_)
              (fun _ => htake.apart (.inl hp))
            rw [holder_take, if_pos (by simp)]
      · exact h.leaving hactive _
  | _ => simpa only [step, hp] using h

omit [DecidableEq τ] in
theorem Inv.not_excludes (h : Inv calls init s) {u : τ} (hut : u ≠ t) (hu : s.phase u = .marking ∨ s.phase u = .loaded)
    (ht : s.phase t = .loaded) : ¬(calls u).Excludes (calls t) := by
  rintro ⟨l, hl, hneeds⟩
  have hactive : (s.phase u).Active := by rcases hu with hu | hu <;> rw [hu] <;> trivial
  have hheld := h.holds hactive l hl
  have hother : s.holder l = some t := by
    rcases hneeds with hl' | ⟨hlate, rfl⟩
    · exact h.holds (by rw [ht]; trivial) l hl'
    · exact h.marked ht hlate
  rw [hheld, Option.some.injEq] at hother
  exact hut hother

omit [DecidableEq τ] in
theorem Inv.fresh (h : Inv calls init s) (ht : s.phase t = .loaded) (hc : Undisturbed calls s (.write t (.ok ()))) :
    RecordFields.Fresh layout s.core t :=
  RecordFields.fresh_of_since h.traced fun r as hl w hw f =>
    hc ht r as hl w hw (h.apart (.inr ht) w hw) f

theorem Inv.write (h : Inv calls init s) (hfresh : RecordFields.Fresh layout s.core t)
    (hothers : ∀ u, s.phase u = .marking ∨ s.phase u = .loaded → ¬(calls u).Excludes (calls t)) :
    Inv calls init { s with core := s.core.write layout t } where
  holds := h.holds
  marked := h.marked
  apart {u} hu w hw := by
    cases hl : s.core.loaded t with
    | none => exact h.apart hu w (by simpa [RecordFields.State.write, hl] using hw)
    | some p =>
        have hw' : w ∈ s.core.since u ∨ w = (t, p.2) := by simpa [RecordFields.State.write, hl] using hw
        rcases hw' with hw' | rfl
        · exact h.apart hu w hw'
        · exact hothers u hu
  traced := h.traced.write hfresh
  kept := h.kept.write hfresh

theorem inv_write (h : Inv calls init s) (t : τ) (answer : Ret) (hc : Undisturbed calls s (.write t answer)) :
    Inv calls init (step b id calls s (.write t answer)) := by
  cases hp : s.phase t with
  | loaded =>
      have hactive : (s.phase t).Active := by
        rw [hp]
        trivial
      cases answer with
      | error e =>
          simp only [step, hp]
          exact h.leaving hactive _
      | ok u =>
          simp only [step, hp]
          refine (h.leaving hactive _).write (h.fresh hp hc) fun u hu => ?_
          have hut : u ≠ t := by
            rintro rfl
            rcases hu with hu | hu <;> simp [State.setPhase] at hu
          have hu' : s.phase u = .marking ∨ s.phase u = .loaded := by simpa [State.setPhase, hut] using hu
          exact h.not_excludes hut hu' hp
  | _ => simpa only [step, hp] using h

theorem inv_leave (h : Inv calls init s) (t : τ) : Inv calls init (step b id calls s (.leave t)) := by
  cases hp : s.phase t with
  | leaving result =>
      simp only [step, hp]
      have hother {u : τ} (hut : u ≠ t) {l : Lock} (hl : s.holder l = some u) :
          (if s.holder l = some t then none else s.holder l) = some u := by
        rw [if_neg, hl]
        rw [hl, Option.some.injEq]
        exact hut
      have hphase {u : τ} (hut : u ≠ t) : (s.setPhase t (.finished result)).phase u = s.phase u := by
        simp [State.setPhase, hut]
      have hself : (s.setPhase t (.finished result)).phase t = .finished result := by simp [State.setPhase]
      refine ⟨fun {u} hu l hl => ?_, fun {u} hu hlate => ?_, fun {u} hu => ?_, h.traced, h.kept⟩
      · have hut : u ≠ t := by
          rintro rfl
          exact (hself ▸ hu : Phase.Active (.finished result))
        exact hother hut (h.holds (hphase hut ▸ hu) l hl)
      · have hut : u ≠ t := by
          rintro rfl
          cases hself.symm.trans hu
        exact hother hut (h.marked ((hphase hut).symm.trans hu) hlate)
      · have hut : u ≠ t := by
          rintro rfl
          rcases hu with hu | hu <;> cases hself.symm.trans hu
        rw [show _ = _ from hphase hut] at hu
        exact h.apart hu
  | _ => simpa only [step, hp] using h

theorem inv_step (e : Event τ) (h : Inv calls init s) (hc : Undisturbed calls s e) :
    Inv calls init (step b id calls s e) := by
  cases e with
  | enter t => exact inv_enter h t
  | read t a => exact inv_read h t a
  | mark t tee => exact inv_mark h t tee
  | write t answer => exact inv_write h t answer hc
  | leave t => exact inv_leave h t

/-- No update of a field is lost, in whatever order the calls read and write, if
and only if each call that writes has read the present value of the fields that
it leaves alone. Only calls that nothing keeps apart can violate this. -/
theorem no_lost_field_update (b : Build) (id : Int) (calls : τ → Call) (init : AccountFile) (es : List (Event τ)) :
    Machine.Meets (step b id calls) (Undisturbed calls) (initial init) es ↔
      ∀ es', es' <+: es → RecordFields.Kept layout init (Machine.run (step b id calls) (initial init) es').core := by
  apply Machine.meets_iff_forall_prefix (fun s e => inv_step e) (fun s h => h.kept) _ (inv_initial calls init)
  intro s e h hkept
  cases e with
  | write t answer =>
      cases answer with
      | error e => trivial
      | ok u =>
          intro ht r as hl w _ _ f _ hf
          simp only [step, ht] at hkept
          exact RecordFields.fresh_of_kept_write h.kept hkept r as hl f hf
  | _ => trivial

def fine : Answers where
  recover := .ok ()
  read := .ok ()
  validate := .ok ()
  definition := none
  setPhotoById := .ok ()
  checkTypeNumber := .ok ()
  resetDefaultActivatedAccount := .ok ()
  cachedType := none
  isVerified := false
  isLoggedIn := false
  displayId := none
  now := 0
  localNameMaxSize := 256

/-- A new name takes a new credential back, for nothing keeps the two calls
apart; and a new type takes the to-be-removed flag back, since the account is
marked only after its record was read. -/
theorem lost_field_update :
    ¬RecordFields.Kept layout { localId := 101 } (Machine.run (step ⟨false, false⟩ 101
      (fun t : Bool => if t then Call.setOsAccountCredentialId 7 else Call.setOsAccountName "b"))
      (initial { localId := 101 })
      [.enter false, .read false fine, .enter true, .read true fine, .write true (.ok ()), .leave true,
        .write false (.ok ()), .leave false]).core ∧
    ¬RecordFields.Kept layout { localId := 101 } (Machine.run (step ⟨false, false⟩ 101
      (fun t : Bool => if t then Call.setOsAccountToBeRemoved true else Call.setOsAccountType .normal))
      (initial { localId := 101 })
      [.enter false, .read false fine, .enter true, .read true fine, .write true (.ok ()), .leave true,
        .mark false (.ok ()), .write false (.ok ()), .leave false]).core := by
  constructor
  · intro h
    have hcredential : (0 : Nat) = 7 := h .credentialId
    cases hcredential
  · intro h
    have hflag : false = true := h .toBeRemoved
    cases hflag

end OsAccount.AccountRecord
