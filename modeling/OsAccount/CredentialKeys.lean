import OsAccount.Machine
import Mathlib.Logic.Function.Basic
import Mathlib.Tactic.SplitIfs

namespace OsAccount.CredentialKeys

open Machine

/-- How a call to IAM, to the storage, on the flag file or on the record turns out. The storage may refuse
with `E_PARAMS_NULLPTR_ERR`, and IAM may update a credential without telling the old secret. A new credential
gets its id from IAM. -/
structure Outcome where
  ok : Bool
  nullParams : Bool := false
  noOldSecret : Bool := false
  credentialId : UInt64 := 0

/-- The secret and the id of the PIN that IAM takes, the secrets of the storage, where `none` is the empty
secret, whether the `iam_fault` file is there, and the credential id in the record of the account. -/
structure Keys (Secret : Type) where
  pin : Option Secret
  pinId : UInt64 := 0
  committed : Option Secret
  pending : Option (Option Secret) := none
  fault : Bool := false
  credentialId : UInt64 := 0

/-- The next call of `AddCredential` (up to `failed`), `UpdateCredential`, `DelCred`, `DelUser` and
`HandleFileKeyException`; `updateKey` and `deleteFlag` end three of them. -/
inductive Stage (Secret : Type)
  | addFlag (new : Secret)
  | addIam (new : Secret)
  | addRecord (new : Secret) (newId : UInt64)
  | addAuth (new : Secret)
  | failed
  | updateKey
  | deleteFlag
  | updateIam (new : Secret)
  | updateAuth (old new : Secret) (oldId newId : UInt64) (oldSecret : Option Secret)
  | updateRollback (old new : Secret) (oldId : UInt64)
  | updateCommit (old new : Secret) (newId : UInt64)
  | updateRecord (newId : UInt64)
  | deleteIam (credentialId : UInt64) (isPIN : Bool)
  | deleteRecord (oldSecret : Option Secret)
  | deleteAuth (oldSecret : Option Secret)
  | deleteKey
  | verify
  | userFlag (rootSecret : Option Secret)
  | userAuth (rootSecret : Option Secret)
  | userIam
  | userDeleteFlag
  | userKey
  | userRecord
  | checkFlag (secret : Secret)
  | getSecUserInfo (secret : Secret)
  | tryLock (secret : Secret)
  | restoreAuth (secret : Secret)

variable {Secret : Type}

namespace Keys

variable (k : Keys Secret)

def Accepts (secret : Option Secret) : Prop := k.committed = secret ∨ k.pending = some secret

def Covered : Prop := k.Accepts k.pin ∨ k.fault = true

def createSecretFaultFile (ok : Bool) : Keys Secret := if ok = true then { k with fault := true } else k

def deleteSecretFaultFile (ok : Bool) : Keys Secret := if ok = true then { k with fault := false } else k

def setOsAccountCredentialId (ok : Bool) (credentialId : UInt64) : Keys Secret :=
  if ok = true then { k with credentialId } else k

def isPIN (credentialId : UInt64) : Bool := k.credentialId ≠ 0 ∧ credentialId = k.credentialId

variable (ok : Bool) (credentialId : UInt64)

theorem covered_setOsAccountCredentialId :
    (k.setOsAccountCredentialId ok credentialId).Covered ↔ k.Covered := by
  rw [setOsAccountCredentialId]
  split_ifs <;> exact Iff.rfl

theorem pin_setOsAccountCredentialId :
    (k.setOsAccountCredentialId ok credentialId).pin = k.pin := by
  rw [setOsAccountCredentialId]
  split_ifs <;> rfl

theorem pending_setOsAccountCredentialId :
    (k.setOsAccountCredentialId ok credentialId).pending = k.pending := by
  rw [setOsAccountCredentialId]
  split_ifs <;> rfl

def updateStorageKeyContext (ok : Bool) : Keys Secret :=
  if ok = true then { k with committed := k.pending.getD k.committed, pending := none } else k

theorem getD_updateStorageKeyContext :
    (k.updateStorageKeyContext ok).pending.getD (k.updateStorageKeyContext ok).committed =
      k.pending.getD k.committed := by
  rw [updateStorageKeyContext]
  split_ifs <;> rfl

theorem pin_updateStorageKeyContext : (k.updateStorageKeyContext ok).pin = k.pin := by
  rw [updateStorageKeyContext]
  split_ifs <;> rfl

theorem fault_updateStorageKeyContext : (k.updateStorageKeyContext ok).fault = k.fault := by
  rw [updateStorageKeyContext]
  split_ifs <;> rfl

variable {k}

theorem accepts_of_getD {secret : Option Secret} (h : k.pending.getD k.committed = secret) :
    k.Accepts secret := by
  cases hp : k.pending with
  | none =>
      rw [hp] at h
      exact .inl h
  | some pending =>
      rw [hp] at h
      exact .inr (hp.trans (congrArg some h))

theorem Covered.createSecretFaultFile (h : k.Covered) (ok : Bool) : (k.createSecretFaultFile ok).Covered := by
  rw [Keys.createSecretFaultFile]
  split_ifs
  · exact .inr rfl
  · exact h

theorem covered_deleteSecretFaultFile {ok : Bool} (h : k.Covered) (hok : ok = true → k.Accepts k.pin) :
    (k.deleteSecretFaultFile ok).Covered := by
  rw [Keys.deleteSecretFaultFile]
  split_ifs with htrue
  · exact .inl (hok htrue)
  · exact h

variable (k) [DecidableEq Secret]

instance (secret : Option Secret) : Decidable (k.Accepts secret) := inferInstanceAs (Decidable (_ ∨ _))

instance : Decidable k.Covered := inferInstanceAs (Decidable (_ ∨ _))

def UpdatesUserAuth (o : Outcome) (oldSecret : Option Secret) : Prop :=
  o.ok = true ∧ (oldSecret = none ∨ k.Accepts oldSecret)

instance (o : Outcome) (oldSecret : Option Secret) : Decidable (k.UpdatesUserAuth o oldSecret) :=
  inferInstanceAs (Decidable (_ ∧ _))

def updateStorageUserAuth (o : Outcome) (oldSecret newSecret : Option Secret) : Keys Secret × Bool :=
  if k.UpdatesUserAuth o oldSecret then ({ k with pending := some newSecret }, true) else (k, o.nullParams)

theorem updateStorageUserAuth_cases (o : Outcome) (oldSecret newSecret : Option Secret)
    (hnull : o.nullParams = true → k.UpdatesUserAuth o oldSecret) :
    k.UpdatesUserAuth o oldSecret ∧
        k.updateStorageUserAuth o oldSecret newSecret = ({ k with pending := some newSecret }, true) ∨
      ¬k.UpdatesUserAuth o oldSecret ∧ k.updateStorageUserAuth o oldSecret newSecret = (k, false) := by
  by_cases hup : k.UpdatesUserAuth o oldSecret
  · exact .inl ⟨hup, if_pos hup⟩
  · refine .inr ⟨hup, (if_neg hup).trans ?_⟩
    rw [Bool.eq_false_iff.mpr fun hn => hup (hnull hn)]

end Keys

namespace Stage

def Locked : Stage Secret → Prop
  | .addFlag _ | .addIam _ | .addRecord _ _ | .addAuth _ | .failed | .updateKey | .deleteFlag | .updateIam _
  | .updateAuth _ _ _ _ _ | .updateRollback _ _ _ | .updateCommit _ _ _ | .updateRecord _ | .verify | .userFlag _
  | .userAuth _ | .userIam | .userDeleteFlag | .userKey | .userRecord | .restoreAuth _ => True
  | .deleteIam _ _ | .deleteRecord _ | .deleteAuth _ | .deleteKey | .checkFlag _ | .getSecUserInfo _ | .tryLock _ =>
      False

def Deletes : Stage Secret → Prop
  | .deleteRecord _ | .deleteAuth _ | .deleteKey => True
  | _ => False

def Relies : Stage Secret → Prop
  | .addRecord _ _ | .addAuth _ | .updateKey | .deleteFlag | .updateAuth _ _ _ _ _ | .updateRollback _ _ _
  | .updateCommit _ _ _ | .updateRecord _ | .deleteRecord _ | .deleteAuth _ | .deleteKey | .userIam | .userDeleteFlag
  | .userKey | .restoreAuth _ => True
  | _ => False

theorem Deletes.relies {stage : Stage Secret} (h : stage.Deletes) : stage.Relies := by
  cases stage <;> first | exact trivial | exact h.elim

theorem Relies.locked_or_deletes {stage : Stage Secret} (h : stage.Relies) : stage.Locked ∨ stage.Deletes := by
  cases stage <;> first | exact .inl trivial | exact .inr trivial | exact h.elim

variable (atOnce : Bool)

def Apart : Stage Secret → Prop
  | .addRecord _ _ | .addAuth _ | .deleteRecord _ | .deleteAuth _ | .userIam => True
  | .updateAuth _ _ _ _ _ | .updateRollback _ _ _ => atOnce = true
  | .updateCommit _ _ _ => atOnce = false
  | _ => False

end Stage

structure State (Secret : Type) where
  keys : Keys Secret
  calls : Nat → Option (Stage Secret) := fun _ => none
  lock : Option Nat := none

inductive Event (Secret : Type)
  | addCredential (call : Nat) (new : Secret)
  | updateCredential (call : Nat) (new : Secret)
  | delCred (call : Nat) (credentialId : UInt64)
  | delUser (call : Nat)
  | unlock (call : Nat)
  | step (call : Nat) (o : Outcome)
  | stop

namespace State

variable (s : State Secret)

def beginLocked (call : Nat) (stage : Stage Secret) : State Secret :=
  if (s.calls call).isSome = true ∨ s.lock.isSome = true then s
  else { s with calls := Function.update s.calls call (some stage), lock := some call }

def begin (call : Nat) (stage : Stage Secret) : State Secret :=
  if (s.calls call).isSome = true then s else { s with calls := Function.update s.calls call (some stage) }

def go (call : Nat) (keys : Keys Secret) : Option (Stage Secret) → State Secret
  | some stage => { s with keys, calls := Function.update s.calls call (some stage) }
  | none =>
      { keys, calls := Function.update s.calls call none, lock := if s.lock = some call then none else s.lock }

end State

section calls

variable [DecidableEq Secret] (atOnce : Bool)

/-- A call to the outside and the stage after it. IAM takes the PIN of an update at once, or from the deletion
of the old one on. What `DelCred` does for another credential than the PIN of IAM leaves the keys alone. -/
def advance (k : Keys Secret) (o : Outcome) : Stage Secret → Keys Secret × Option (Stage Secret)
  | .addFlag new => (k.createSecretFaultFile o.ok, some (.addIam new))
  | .addIam new =>
      if o.ok = true ∧ k.pin = none then
        ({ k with pin := some new, pinId := o.credentialId }, some (.addRecord new o.credentialId))
      else (k, some .failed)
  | .addRecord new newId => (k.setOsAccountCredentialId o.ok newId, some (.addAuth new))
  | .addAuth new =>
      match k.updateStorageUserAuth o none (some new) with
      | (k, true) => (k, some .updateKey)
      | (k, false) => (k, none)
  | .failed => (k.deleteSecretFaultFile o.ok, none)
  | .updateKey => (k.updateStorageKeyContext o.ok, if o.ok = true then some .deleteFlag else none)
  | .deleteFlag => (k.deleteSecretFaultFile o.ok, none)
  | .updateIam new =>
      match k.pin with
      | none => (k, none)
      | some old =>
          if o.ok = true then
            ({ k with
                pin := some (if atOnce = true then new else old)
                pinId := if atOnce = true then o.credentialId else k.pinId },
              some (.updateAuth old new k.pinId o.credentialId (if o.noOldSecret = true then none else some old)))
          else (k, none)
  | .updateAuth old new oldId newId oldSecret =>
      match k.updateStorageUserAuth o oldSecret (some new) with
      | (k, true) => (k, some (.updateCommit old new newId))
      | (k, false) => (k, some (.updateRollback old new oldId))
  | .updateRollback old new oldId =>
      (if o.ok = true ∧ atOnce = true ∧ k.pin = some new then { k with pin := some old, pinId := oldId } else k, none)
  | .updateCommit old new newId =>
      if o.ok = true ∧ (atOnce = true ∨ k.pin = some old) then
        ({ k with
            pin := if atOnce = true then k.pin else some new
            pinId := if atOnce = true then k.pinId else newId }, some (.updateRecord newId))
      else (k, none)
  | .updateRecord newId => (k.setOsAccountCredentialId o.ok newId, some .updateKey)
  | .deleteIam credentialId isPIN =>
      if o.ok = true ∧ k.pin ≠ none ∧ k.pinId = credentialId then
        ({ k with pin := none }, if isPIN = true then some (.deleteRecord k.pin) else none)
      else (k, none)
  | .deleteRecord oldSecret => (k.setOsAccountCredentialId o.ok 0, some (.deleteAuth oldSecret))
  | .deleteAuth oldSecret => ((k.updateStorageUserAuth o oldSecret none).1, some .deleteKey)
  | .deleteKey => (k.updateStorageKeyContext o.ok, none)
  | .verify => (k, if o.ok = true then some (.userFlag k.pin) else none)
  | .userFlag rootSecret => (k.createSecretFaultFile o.ok, some (.userAuth rootSecret))
  | .userAuth rootSecret =>
      match k.updateStorageUserAuth o rootSecret none with
      | (k, true) => (k, some .userIam)
      | (k, false) => (k, some .failed)
  | .userIam => if o.ok = true then ({ k with pin := none }, some .userDeleteFlag) else (k, none)
  | .userDeleteFlag => (k.deleteSecretFaultFile o.ok, some .userKey)
  | .userKey => (k.updateStorageKeyContext o.ok, some .userRecord)
  | .userRecord => (k.setOsAccountCredentialId o.ok 0, none)
  | .checkFlag secret => (k, if k.fault = true then some (.getSecUserInfo secret) else none)
  | .getSecUserInfo secret => (k, if o.ok = true then some (.tryLock secret) else none)
  | .tryLock secret => (k, some (.restoreAuth secret))
  | .restoreAuth secret =>
      match k.updateStorageUserAuth o none (some secret) with
      | (k, true) => (k, some .updateKey)
      | (k, false) => (k, none)

def step (s : State Secret) : Event Secret → State Secret
  | .addCredential call new => s.beginLocked call (.addFlag new)
  | .updateCredential call new => s.beginLocked call (.updateIam new)
  | .delCred call credentialId => s.begin call (.deleteIam credentialId (s.keys.isPIN credentialId))
  | .delUser call => s.beginLocked call .verify
  | .unlock call =>
      match s.keys.pin with
      | none => s
      | some secret => s.begin call (.checkFlag secret)
  | .step call o =>
      match s.calls call with
      | none => s
      | some (.tryLock secret) =>
          if s.lock = none then { s.go call s.keys (some (.restoreAuth secret)) with lock := some call }
          else s.go call s.keys none
      | some stage => s.go call (advance atOnce s.keys o stage).1 (advance atOnce s.keys o stage).2
  | .stop => { s with calls := fun _ => none, lock := none }

/-- A user whose storage takes the secret of IAM, and whose record has the id of the PIN. -/
def initial (pin : Option Secret) (pinId : UInt64) : State Secret :=
  { keys := { pin, pinId, committed := pin, credentialId := pinId } }

def Idle (s : State Secret) : Prop := ∀ call, s.calls call = none

def unlocking (call : Nat) : List (Event Secret) := .unlock call :: List.replicate 6 (.step call { ok := true })

/-- Where no call is in progress the storage takes the secret of IAM or the flag file is there, and an unlock
leaves the secret taken and no flag file. -/
def Settled (s : State Secret) : Prop :=
  Idle s → s.keys.Covered ∧
    ∀ call secret, s.keys.pin = some secret →
      (run (step atOnce) s (unlocking call)).keys.pin = some secret ∧
        (run (step atOnce) s (unlocking call)).keys.Accepts (some secret) ∧
        (run (step atOnce) s (unlocking call)).keys.fault = false

/-- The next call to the outside does not open a gap that nothing covers: what fails after the change of the
other side fails with the gap covered, and what is refused does not pass for a success. -/
def Safe (s : State Secret) (o : Outcome) : Stage Secret → Prop
  | .addAuth _ => (o.nullParams = true → s.keys.UpdatesUserAuth o none) ∧ (o.ok = false → s.keys.Covered)
  | .failed => o.ok = true → s.keys.Accepts s.keys.pin
  | .updateAuth _ _ _ _ oldSecret | .userAuth oldSecret =>
      o.nullParams = true → s.keys.UpdatesUserAuth o oldSecret
  | .updateRollback _ _ _ => atOnce = true → o.ok = false → s.keys.Covered
  | .updateCommit _ _ _ => atOnce = false → o.ok = false → s.keys.Covered
  | .deleteIam credentialId isPIN => o.ok = true → s.keys.pin ≠ none → s.keys.pinId = credentialId →
      (isPIN = false → s.keys.Accepts none ∨ s.keys.fault = true) ∧
        ∀ call stage, s.calls call = some stage → ¬stage.Relies
  | .deleteAuth oldSecret =>
      s.keys.UpdatesUserAuth o oldSecret ∨ s.keys.pending.getD s.keys.committed = none ∨ s.keys.fault = true
  | .userIam => o.ok = false → s.keys.Covered
  | .tryLock secret =>
      s.lock = none → s.keys.pin = some secret ∧ ∀ call stage, s.calls call = some stage → ¬stage.Deletes
  | .restoreAuth _ => o.nullParams = true → s.keys.UpdatesUserAuth o none
  | _ => True

/-- The call with the lock takes no step while a `DelCred`, which does not wait for the lock, has deleted the PIN,
and the service does not stop in an uncovered gap. -/
def Harmless (s : State Secret) : Event Secret → Prop
  | .step call o =>
      ∀ stage, s.calls call = some stage →
        Safe atOnce s o stage ∧ (stage.Locked → ∀ other stage', s.calls other = some stage' → ¬stage'.Deletes)
  | .stop => ∀ call stage, s.calls call = some stage → stage.Apart atOnce → s.keys.Covered
  | _ => True

end calls

section knowledge

variable (atOnce : Bool)

def Knows (k : Keys Secret) : Stage Secret → Prop
  | .addRecord new _ | .addAuth new => k.pin = some new
  | .updateRecord _ | .updateKey => k.pending = some k.pin
  | .deleteFlag => k.committed = k.pin
  | .updateAuth old new _ _ _ | .updateRollback old new _ =>
      k.pin = some (if atOnce = true then new else old) ∧ (k.Accepts (some old) ∨ k.fault = true)
  | .updateCommit old new _ =>
      k.pin = some (if atOnce = true then new else old) ∧ k.pending = some (some new)
  | .deleteRecord _ | .deleteAuth _ => k.pin = none
  | .deleteKey => k.pin = none ∧ (k.pending.getD k.committed = none ∨ k.fault = true)
  | .userIam => k.pending = some none
  | .userDeleteFlag | .userKey => k.pin = none ∧ k.pending = some none
  | .restoreAuth secret => k.pin = some secret ∧ k.Covered
  | _ => k.Covered

def After : Keys Secret × Option (Stage Secret) → Prop
  | (k, none) => k.Covered
  | (k, some stage) => Knows atOnce k stage

structure Inv (s : State Secret) : Prop where
  covered : (∀ i stage, s.calls i = some stage → ¬stage.Relies) → s.keys.Covered
  knows : ∀ i stage, s.calls i = some stage → stage.Relies → Knows atOnce s.keys stage
  alone : ∀ i stage, s.calls i = some stage → stage.Deletes →
    ∀ j stage', j ≠ i → s.calls j = some stage' → ¬stage'.Relies
  locked : ∀ i stage, s.calls i = some stage → stage.Locked → s.lock = some i
  held : ∀ i, s.lock = some i → ∃ stage, s.calls i = some stage ∧ stage.Locked

variable {atOnce} {k : Keys Secret} {s : State Secret} {stage : Stage Secret}

theorem knows_of_not_relies (hstage : ¬stage.Relies) : Knows atOnce k stage ↔ k.Covered := by
  cases stage <;> first | exact Iff.rfl | exact (hstage trivial).elim

/-- A call that is not between the changes of the two sides leaves nothing uncovered if it is stopped. -/
theorem Knows.covered (h : Knows atOnce k stage) (hstage : ¬stage.Apart atOnce) : k.Covered := by
  cases stage with
  | addRecord new newId => exact (hstage trivial).elim
  | addAuth new => exact (hstage trivial).elim
  | deleteRecord oldSecret => exact (hstage trivial).elim
  | deleteAuth oldSecret => exact (hstage trivial).elim
  | userIam => exact (hstage trivial).elim
  | updateRecord newId => exact .inl (.inr h)
  | updateKey => exact .inl (.inr h)
  | deleteFlag => exact .inl (.inl h)
  | updateAuth old new oldId newId oldSecret =>
      obtain ⟨hpin, hold⟩ := h
      have hlater : ¬atOnce = true := hstage
      rw [if_neg hlater] at hpin
      rwa [Keys.Covered, hpin]
  | updateRollback old new oldId =>
      obtain ⟨hpin, hold⟩ := h
      have hlater : ¬atOnce = true := hstage
      rw [if_neg hlater] at hpin
      rwa [Keys.Covered, hpin]
  | updateCommit old new newId =>
      obtain ⟨hpin, hpending⟩ := h
      have hatOnce : atOnce = true := Bool.of_not_eq_false hstage
      rw [if_pos hatOnce] at hpin
      exact .inl (.inr (by rw [hpin, hpending]))
  | deleteKey => exact h.2.imp_left fun hnone => h.1 ▸ Keys.accepts_of_getD hnone
  | userDeleteFlag => exact .inl (.inr (by rw [h.1, h.2]))
  | userKey => exact .inl (.inr (by rw [h.1, h.2]))
  | restoreAuth secret => exact h.2
  | _ => exact h

variable {i : Nat} {next : Option (Stage Secret)} {lock : Option Nat}

theorem locks_update (h : Inv atOnce s) (hlocked : ∀ stage, next = some stage → stage.Locked → lock = some i)
    (hheld : lock = some i → ∃ stage, next = some stage ∧ stage.Locked)
    (hlock : ∀ j, j ≠ i → (lock = some j ↔ s.lock = some j)) :
    (∀ j stage, Function.update s.calls i next j = some stage → stage.Locked → lock = some j) ∧
      ∀ j, lock = some j → ∃ stage, Function.update s.calls i next j = some stage ∧ stage.Locked := by
  constructor
  · intro j stage hj hstage
    by_cases hji : j = i
    · subst hji
      rw [Function.update_self] at hj
      exact hlocked stage hj hstage
    · rw [Function.update_of_ne hji] at hj
      exact (hlock j hji).mpr (h.locked j stage hj hstage)
  · intro j hj
    by_cases hji : j = i
    · subst hji
      rw [Function.update_self]
      exact hheld hj
    · rw [Function.update_of_ne hji]
      exact h.held j ((hlock j hji).mp hj)

theorem Inv.update (h : Inv atOnce s) (hothers : ∀ j stage, j ≠ i → s.calls j = some stage → ¬stage.Relies)
    (hafter : After atOnce (k, next)) (hlocked : ∀ stage, next = some stage → stage.Locked → lock = some i)
    (hheld : lock = some i → ∃ stage, next = some stage ∧ stage.Locked)
    (hlock : ∀ j, j ≠ i → (lock = some j ↔ s.lock = some j)) :
    Inv atOnce { keys := k, calls := Function.update s.calls i next, lock } := by
  have hself : ∀ j stage, Function.update s.calls i next j = some stage → stage.Relies → j = i ∧
      next = some stage := by
    intro j stage hj hstage
    by_cases hji : j = i
    · subst hji
      rw [Function.update_self] at hj
      exact ⟨rfl, hj⟩
    · rw [Function.update_of_ne hji] at hj
      exact (hothers j stage hji hj hstage).elim
  have hlocks := locks_update h hlocked hheld hlock
  refine ⟨fun hnone => ?_, fun j stage hj hstage => ?_, fun j stage hj hstage j' stage' hne hj' hstage' => ?_,
    hlocks.1, hlocks.2⟩
  · cases next with
    | none => exact hafter
    | some stage => exact (knows_of_not_relies (hnone i stage (Function.update_self ..))).mp hafter
  · obtain ⟨-, rfl⟩ := hself j stage hj hstage
    exact hafter
  · exact hne ((hself j' stage' hj' hstage').1.trans (hself j stage hj hstage.relies).1.symm)

theorem Inv.replace (h : Inv atOnce s) (hold : ∀ stage, s.calls i = some stage → ¬stage.Relies)
    (hnew : ∀ stage, next = some stage → ¬stage.Relies)
    (hlocked : ∀ stage, next = some stage → stage.Locked → lock = some i)
    (hheld : lock = some i → ∃ stage, next = some stage ∧ stage.Locked)
    (hlock : ∀ j, j ≠ i → (lock = some j ↔ s.lock = some j)) :
    Inv atOnce { keys := s.keys, calls := Function.update s.calls i next, lock } := by
  have hother : ∀ j stage, Function.update s.calls i next j = some stage → stage.Relies →
      j ≠ i ∧ s.calls j = some stage := by
    intro j stage hj hstage
    by_cases hji : j = i
    · subst hji
      rw [Function.update_self] at hj
      exact (hnew stage hj hstage).elim
    · rw [Function.update_of_ne hji] at hj
      exact ⟨hji, hj⟩
  have hlocks := locks_update h hlocked hheld hlock
  refine ⟨fun hnone => h.covered fun j stage hj hstage => ?_, fun j stage hj hstage => ?_,
    fun j stage hj hstage j' stage' hne hj' hstage' => ?_, hlocks.1, hlocks.2⟩
  · have hji : j ≠ i := by
      rintro rfl
      exact hold stage hj hstage
    exact hnone j stage ((Function.update_of_ne hji ..).trans hj) hstage
  · exact h.knows j stage (hother j stage hj hstage).2 hstage
  · exact h.alone j stage (hother j stage hj hstage.relies).2 hstage j' stage' hne
      (hother j' stage' hj' hstage').2 hstage'

theorem Inv.beginLocked (h : Inv atOnce s) (i : Nat) (hlocked : stage.Locked) (hrelies : ¬stage.Relies) :
    Inv atOnce (s.beginLocked i stage) := by
  rw [State.beginLocked]
  split_ifs with hbusy
  · exact h
  · rw [not_or, Bool.not_eq_true, Option.isSome_eq_false_iff, Option.isNone_iff_eq_none, Bool.not_eq_true,
      Option.isSome_eq_false_iff, Option.isNone_iff_eq_none] at hbusy
    obtain ⟨hcall, hlock⟩ := hbusy
    refine h.replace (fun stage' hs => ?_) (fun stage' hs => ?_) (fun _ _ _ => rfl)
      (fun _ => ⟨stage, rfl, hlocked⟩)
      fun j hj => ?_
    · exact (Option.some_ne_none stage' (hs.symm.trans hcall)).elim
    · cases hs
      exact hrelies
    · rw [hlock]
      exact iff_of_false (fun he => hj (Option.some.inj he).symm) (Option.some_ne_none j).symm

theorem Inv.begin (h : Inv atOnce s) (i : Nat) (hlocked : ¬stage.Locked) (hrelies : ¬stage.Relies) :
    Inv atOnce (s.begin i stage) := by
  rw [State.begin]
  split_ifs with hbusy
  · exact h
  · rw [Bool.not_eq_true, Option.isSome_eq_false_iff, Option.isNone_iff_eq_none] at hbusy
    refine h.replace (fun stage' hs => ?_) (fun stage' hs => ?_) (fun stage' hs hstage => ?_)
      (fun hlock => ?_)
      fun _ _ => Iff.rfl
    · exact (Option.some_ne_none stage' (hs.symm.trans hbusy)).elim
    · cases hs
      exact hrelies
    · cases hs
      exact (hlocked hstage).elim
    · obtain ⟨stage', hs, -⟩ := h.held i hlock
      exact (Option.some_ne_none stage' (hs.symm.trans hbusy)).elim

theorem Inv.covered_of_apart (h : Inv atOnce s)
    (hapart : ∀ i stage, s.calls i = some stage → stage.Apart atOnce → s.keys.Covered) : s.keys.Covered := by
  by_contra hc
  refine hc (h.covered fun i stage hi hstage => ?_)
  exact hc ((h.knows i stage hi hstage).covered fun ha => hc (hapart i stage hi ha))

theorem Inv.go (h : Inv atOnce s) {i : Nat} (hi : s.calls i = some stage)
    (hothers : ∀ j stage', j ≠ i → s.calls j = some stage' → ¬stage'.Relies) {next : Option (Stage Secret)}
    (hafter : After atOnce (k, next)) (hlocked : ∀ stage', next = some stage' → (stage'.Locked ↔ stage.Locked)) :
    Inv atOnce (s.go i k next) := by
  cases next with
  | none =>
      refine h.update hothers hafter (fun stage' hs => ?_) (fun hl => ?_) fun j hj => ?_
      · exact (Option.some_ne_none stage' hs.symm).elim
      · split_ifs at hl with hsame
        exact (hsame hl).elim
      · split_ifs with hsame
        · rw [hsame]
          exact iff_of_false not_false fun he => hj (Option.some.inj he).symm
        · exact Iff.rfl
  | some stage' =>
      have hiff := hlocked stage' rfl
      refine h.update hothers hafter (fun stage'' hs hstage => ?_)
        (fun hl => ⟨stage', rfl, ?_⟩) fun _ _ => Iff.rfl
      · cases hs
        exact h.locked i stage hi (hiff.mp hstage)
      · obtain ⟨stage'', hi', hstage⟩ := h.held i hl
        cases hi.symm.trans hi'
        exact hiff.mpr hstage

theorem Inv.pass (h : Inv atOnce s) {i : Nat} (hi : s.calls i = some stage) (hrelies : ¬stage.Relies)
    (hlocked : ¬stage.Locked) {next : Option (Stage Secret)}
    (hnext : ∀ stage', next = some stage' → ¬stage'.Relies ∧ ¬stage'.Locked) : Inv atOnce (s.go i s.keys next) := by
  have hfree : s.lock ≠ some i := by
    intro hl
    obtain ⟨stage', hi', hstage⟩ := h.held i hl
    cases hi.symm.trans hi'
    exact hlocked hstage
  have hold : ∀ stage', s.calls i = some stage' → ¬stage'.Relies := fun stage' hi' => by
    cases hi.symm.trans hi'
    exact hrelies
  cases next with
  | none =>
      rw [State.go, if_neg hfree]
      exact h.replace hold (fun stage' hs => (Option.some_ne_none stage' hs.symm).elim)
        (fun stage' hs => (Option.some_ne_none stage' hs.symm).elim)
          (fun hl => (hfree hl).elim) fun _ _ => Iff.rfl
  | some stage' =>
      obtain ⟨hr, hl⟩ := hnext stage' rfl
      refine h.replace hold (fun stage'' hs => ?_) (fun stage'' hs hstage => ?_) (fun hs => (hfree hs).elim)
        fun _ _ => Iff.rfl
      · cases hs
        exact hr
      · cases hs
        exact (hl hstage).elim

theorem Inv.knows_stage (h : Inv atOnce s) {i : Nat} (hi : s.calls i = some stage)
    (hothers : ∀ j stage', j ≠ i → s.calls j = some stage' → ¬stage'.Relies) : Knows atOnce s.keys stage := by
  by_cases hrelies : stage.Relies
  · exact h.knows i stage hi hrelies
  · refine (knows_of_not_relies hrelies).mpr (h.covered fun j stage' hj => ?_)
    by_cases hji : j = i
    · subst hji
      cases hi.symm.trans hj
      exact hrelies
    · exact hothers j stage' hji hj

theorem inv_initial (pin : Option Secret) (pinId : UInt64) : Inv atOnce (initial pin pinId) :=
  ⟨fun _ => .inl (.inl rfl), fun _ _ hi => (Option.some_ne_none _ hi.symm).elim,
    fun _ _ hi => (Option.some_ne_none _ hi.symm).elim, fun _ _ hi => (Option.some_ne_none _ hi.symm).elim,
    fun _ hl => (Option.some_ne_none _ hl.symm).elim⟩

theorem Inv.tryLock (h : Inv atOnce s) {i : Nat} {secret : Secret} (hi : s.calls i = some (.tryLock secret))
    (hlock : s.lock = none) (hpin : s.keys.pin = some secret)
    (hothers : ∀ j stage', s.calls j = some stage' → ¬stage'.Deletes) :
    Inv atOnce { s.go i s.keys (some (.restoreAuth secret)) with lock := some i } := by
  have hall : ∀ j stage', j ≠ i → s.calls j = some stage' → ¬stage'.Relies := by
    intro j stage' hji hj hrelies
    rcases hrelies.locked_or_deletes with hl | hd
    · exact Option.some_ne_none j ((h.locked j stage' hj hl).symm.trans hlock)
    · exact hothers j stage' hj hd
  have hknows : Knows atOnce s.keys (.tryLock secret) := h.knows_stage hi hall
  have hafter : After atOnce (s.keys, some (.restoreAuth secret)) := ⟨hpin, hknows⟩
  refine h.update hall hafter (fun _ _ _ => rfl) (fun _ => ⟨_, rfl, trivial⟩) fun j hj => ?_
  rw [hlock]
  exact iff_of_false (fun he => hj (Option.some.inj he).symm) (Option.some_ne_none j).symm

theorem harmless_of_only (stage : Stage Secret) {call : Nat} {o : Outcome}
    (hcall : s.calls call = some stage) (honly : ∀ other, other ≠ call → s.calls other = none)
    (hsafe : Safe atOnce s o stage) (hdeletes : ¬stage.Deletes) : Harmless atOnce s (.step call o) := by
  intro stage' hcall'
  cases hcall.symm.trans hcall'
  refine ⟨hsafe, fun _ other stage'' hother hd => ?_⟩
  by_cases hsame : other = call
  · subst hsame
    cases hcall.symm.trans hother
    exact hdeletes hd
  · exact Option.some_ne_none stage'' (hother.symm.trans (honly other hsame))

end knowledge

section steps

variable [DecidableEq Secret] {atOnce : Bool} {s : State Secret} {o : Outcome} {stage : Stage Secret}

theorem after_advance (h : Knows atOnce s.keys stage) (hsafe : Safe atOnce s o stage)
    (hlock : ∀ secret, stage = .tryLock secret → s.lock = none) : After atOnce (advance atOnce s.keys o stage) := by
  obtain ⟨k, calls, lock⟩ := s
  dsimp only at h hsafe hlock ⊢
  cases stage with
  | addFlag new => exact h.createSecretFaultFile o.ok
  | addIam new =>
      rw [advance]
      split_ifs
      · exact rfl
      · exact h
  | addRecord new newId =>
      rw [advance, After, Knows, Keys.pin_setOsAccountCredentialId]
      exact h
  | addAuth new =>
      rw [advance]
      rcases k.updateStorageUserAuth_cases o none (some new) hsafe.1 with ⟨-, heq⟩ | ⟨hup, heq⟩
      · rw [heq]
        exact congrArg some h.symm
      · rw [heq]
        exact hsafe.2 (Bool.eq_false_iff.mpr fun hok => hup ⟨hok, .inl rfl⟩)
  | failed => exact Keys.covered_deleteSecretFaultFile h hsafe
  | updateKey =>
      rw [advance, Keys.updateStorageKeyContext]
      split_ifs
      · exact congrArg (Option.getD · k.committed) h
      · exact .inl (.inr h)
  | deleteFlag =>
      rw [advance, Keys.deleteSecretFaultFile]
      split_ifs
      · exact .inl (.inl h)
      · exact .inl (.inl h)
  | updateIam new =>
      rw [advance]
      split
      · exact h
      · next old hpin =>
          have hold : k.Accepts (some old) ∨ k.fault = true := hpin ▸ h
          by_cases hok : o.ok = true
          · rw [if_pos hok]
            exact ⟨rfl, hold⟩
          · rw [if_neg hok]
            exact h
  | updateAuth old new oldId newId oldSecret =>
      rw [advance]
      rcases k.updateStorageUserAuth_cases o oldSecret (some new) hsafe with ⟨-, heq⟩ | ⟨-, heq⟩
      · rw [heq]
        exact ⟨h.1, rfl⟩
      · rw [heq]
        exact h
  | updateRollback old new oldId =>
      obtain ⟨hpin, hold⟩ := h
      rw [advance]
      split_ifs with hrolls
      · exact hold
      · cases atOnce with
        | false =>
            rw [After, Keys.Covered, hpin]
            exact hold
        | true => exact hsafe rfl (Bool.eq_false_iff.mpr fun hok => hrolls ⟨hok, rfl, hpin⟩)
  | updateCommit old new newId =>
      obtain ⟨hpin, hpending⟩ := h
      rw [advance]
      cases atOnce with
      | false =>
          by_cases hok : o.ok = true
          · rw [if_pos ⟨hok, .inr hpin⟩]
            exact hpending
          · rw [if_neg fun hcommits => hok hcommits.1]
            exact hsafe rfl (Bool.eq_false_iff.mpr hok)
      | true =>
          have htakes : k.pending = some k.pin := hpending.trans (congrArg some hpin.symm)
          by_cases hok : o.ok = true
          · rw [if_pos ⟨hok, .inl rfl⟩]
            exact htakes
          · rw [if_neg fun hcommits => hok hcommits.1]
            exact .inl (.inr htakes)
  | updateRecord newId =>
      rw [advance, After, Knows, Keys.pending_setOsAccountCredentialId, Keys.pin_setOsAccountCredentialId]
      exact h
  | deleteIam credentialId isPIN =>
      rw [advance]
      split_ifs with hdeletes hpin
      · exact rfl
      · exact (hsafe hdeletes.1 hdeletes.2.1 hdeletes.2.2).1 (Bool.eq_false_iff.mpr hpin)
      · exact h
  | deleteRecord oldSecret =>
      rw [advance, After, Knows, Keys.pin_setOsAccountCredentialId]
      exact h
  | deleteAuth oldSecret =>
      rw [advance, Keys.updateStorageUserAuth]
      split_ifs with hup
      · exact ⟨h, .inl rfl⟩
      · exact ⟨h, hsafe.resolve_left hup⟩
  | deleteKey =>
      obtain ⟨hpin, hcovered⟩ := h
      rw [advance, After, Keys.Covered, Keys.pin_updateStorageKeyContext,
        Keys.fault_updateStorageKeyContext, hpin]
      exact hcovered.imp_left fun hnone => Keys.accepts_of_getD
        ((k.getD_updateStorageKeyContext o.ok).trans hnone)
  | verify =>
      rw [advance]
      split_ifs <;> exact h
  | userFlag rootSecret => exact h.createSecretFaultFile o.ok
  | userAuth rootSecret =>
      rw [advance]
      rcases k.updateStorageUserAuth_cases o rootSecret none hsafe with ⟨-, heq⟩ | ⟨-, heq⟩
      · rw [heq]
        exact rfl
      · rw [heq]
        exact h
  | userIam =>
      rw [advance]
      split_ifs with hok
      · exact ⟨rfl, h⟩
      · exact hsafe (Bool.eq_false_iff.mpr hok)
  | userDeleteFlag =>
      rw [advance, Keys.deleteSecretFaultFile]
      split_ifs <;> exact h
  | userKey =>
      obtain ⟨hpin, hpending⟩ := h
      have hnone : k.pending.getD k.committed = none := by rw [hpending]; rfl
      change Keys.Covered _
      rw [Keys.Covered, Keys.pin_updateStorageKeyContext, hpin]
      exact .inl (Keys.accepts_of_getD ((k.getD_updateStorageKeyContext o.ok).trans hnone))
  | userRecord => exact (k.covered_setOsAccountCredentialId o.ok 0).mpr h
  | checkFlag secret =>
      rw [advance]
      split_ifs <;> exact h
  | getSecUserInfo secret =>
      rw [advance]
      split_ifs <;> exact h
  | tryLock secret => exact ⟨(hsafe (hlock secret rfl)).1, h⟩
  | restoreAuth secret =>
      rw [advance]
      rcases k.updateStorageUserAuth_cases o none (some secret) hsafe with ⟨-, heq⟩ | ⟨-, heq⟩
      · rw [heq]
        exact congrArg some h.1.symm
      · rw [heq]
        exact h.2

theorem advance_locked {k : Keys Secret} {stage' : Stage Secret} (h : (advance atOnce k o stage).2 = some stage')
    (hlock : ∀ secret, stage ≠ .tryLock secret) : stage'.Locked ↔ stage.Locked := by
  cases stage with
  | tryLock secret => exact (hlock secret rfl).elim
  | updateIam new =>
      rw [advance] at h
      split at h
      · cases h
      · split_ifs at h <;> cases h <;> exact Iff.rfl
  | addAuth new | updateAuth old new oldId newId oldSecret | userAuth rootSecret | restoreAuth secret =>
      rw [advance] at h
      split at h <;> cases h <;> exact Iff.rfl
  | failed | deleteFlag | deleteKey | userRecord | updateRollback old new oldId => cases h
  | addFlag new | addRecord new newId | updateRecord newId | deleteRecord oldSecret | deleteAuth oldSecret
  | userFlag rootSecret | userDeleteFlag | userKey =>
      cases h
      exact Iff.rfl
  | _ =>
      rw [advance] at h
      split_ifs at h <;> cases h <;> exact Iff.rfl

theorem advance_passive {k : Keys Secret} (hrelies : ¬stage.Relies) (hlocked : ¬stage.Locked)
    (hdelete : ∀ credentialId isPIN, stage = .deleteIam credentialId isPIN →
      ¬(o.ok = true ∧ k.pin ≠ none ∧ k.pinId = credentialId)) (hlock : ∀ secret, stage ≠ .tryLock secret) :
    (advance atOnce k o stage).1 = k ∧
      ∀ stage', (advance atOnce k o stage).2 = some stage' → ¬stage'.Relies ∧ ¬stage'.Locked := by
  cases stage with
  | deleteIam credentialId isPIN =>
      rw [advance, if_neg (hdelete credentialId isPIN rfl)]
      exact ⟨rfl, fun stage' h => (Option.some_ne_none stage' h.symm).elim⟩
  | checkFlag secret =>
      refine ⟨rfl, fun stage' h => ?_⟩
      rw [advance] at h
      split_ifs at h
      cases h
      exact ⟨not_false, not_false⟩
  | getSecUserInfo secret =>
      refine ⟨rfl, fun stage' h => ?_⟩
      rw [advance] at h
      split_ifs at h
      cases h
      exact ⟨not_false, not_false⟩
  | tryLock secret => exact (hlock secret rfl).elim
  | deleteRecord oldSecret => exact (hrelies trivial).elim
  | deleteAuth oldSecret => exact (hrelies trivial).elim
  | deleteKey => exact (hrelies trivial).elim
  | _ => exact (hlocked trivial).elim

theorem Inv.advance (h : Inv atOnce s) {i : Nat} (hi : s.calls i = some stage) (hsafe : Safe atOnce s o stage)
    (hothers : stage.Locked → ∀ j stage', s.calls j = some stage' → ¬stage'.Deletes)
    (hlock : ∀ secret, stage ≠ .tryLock secret) :
    Inv atOnce (s.go i (advance atOnce s.keys o stage).1 (advance atOnce s.keys o stage).2) := by
  by_cases hall : ∀ j stage', j ≠ i → s.calls j = some stage' → ¬stage'.Relies
  · exact h.go hi hall (after_advance (h.knows_stage hi hall) hsafe fun secret hs => (hlock secret hs).elim)
      fun stage' hs => advance_locked hs hlock
  · push Not at hall
    obtain ⟨j, stage', hji, hj, hrelies'⟩ := hall
    have hlocked : ¬stage.Locked := by
      intro hl
      rcases hrelies'.locked_or_deletes with hl' | hd
      · exact hji (Option.some.inj ((h.locked j stage' hj hl').symm.trans (h.locked i stage hi hl)))
      · exact hothers hl j stage' hj hd
    have hrelies : ¬stage.Relies := fun hr =>
      h.alone i stage hi (hr.locked_or_deletes.resolve_left hlocked) j stage' hji hj hrelies'
    have hdelete : ∀ credentialId isPIN, stage = .deleteIam credentialId isPIN →
        ¬(o.ok = true ∧ s.keys.pin ≠ none ∧ s.keys.pinId = credentialId) := by
      rintro credentialId isPIN rfl ⟨hok, hpin, hid⟩
      exact (hsafe hok hpin hid).2 j stage' hj hrelies'
    obtain ⟨hkeys, hnext⟩ := advance_passive hrelies hlocked hdelete hlock
    rw [hkeys]
    exact h.pass hi hrelies hlocked hnext

theorem Inv.step (h : Inv atOnce s) {e : Event Secret} (he : Harmless atOnce s e) : Inv atOnce (step atOnce s e) := by
  cases e with
  | addCredential call new => exact h.beginLocked call trivial not_false
  | updateCredential call new => exact h.beginLocked call trivial not_false
  | delCred call credentialId => exact h.begin call not_false not_false
  | delUser call => exact h.beginLocked call trivial not_false
  | unlock call =>
      rw [CredentialKeys.step]
      split
      · exact h
      · exact h.begin call not_false not_false
  | step call o =>
      rw [CredentialKeys.step]
      split
      · exact h
      · next secret hcall =>
          obtain ⟨hsafe, -⟩ := he _ hcall
          split_ifs with hlock
          · exact h.tryLock hcall hlock (hsafe hlock).1 (hsafe hlock).2
          · exact h.pass hcall not_false not_false fun stage' hs => (Option.some_ne_none stage' hs.symm).elim
      · next stage hlock hcall =>
          obtain ⟨hsafe, hothers⟩ := he _ hcall
          exact h.advance hcall hsafe hothers hlock
  | stop =>
      exact ⟨fun _ => h.covered_of_apart he, fun _ _ hi => (Option.some_ne_none _ hi.symm).elim,
        fun _ _ hi => (Option.some_ne_none _ hi.symm).elim, fun _ _ hi => (Option.some_ne_none _ hi.symm).elim,
        fun _ hl => (Option.some_ne_none _ hl.symm).elim⟩

theorem step_of_ended {call : Nat} (h : s.calls call = none) : step atOnce s (.step call o) = s := by
  rw [step, h]

theorem run_step_of_ended {call : Nat} (h : s.calls call = none) (n : Nat) :
    run (step atOnce) s (List.replicate n (.step call o)) = s := by
  induction n with
  | zero => rfl
  | succ n ih => rw [List.replicate_succ, run_cons, step_of_ended h, ih]

/-- A successful unlock sets the storage to the secret that it has, where the flag file is there. -/
theorem run_unlocking_of_fault (hidle : Idle s) (hlock : s.lock = none) {secret : Secret}
    (hpin : s.keys.pin = some secret) (hfault : s.keys.fault = true) (call : Nat) :
    (run (step atOnce) s (unlocking call)).keys =
      { s.keys with committed := some secret, pending := none, fault := false } := by
  simp [run, unlocking, List.replicate, step, State.begin, State.go, hidle call, hlock, hpin, hfault, advance,
    Keys.updateStorageUserAuth, Keys.UpdatesUserAuth, Keys.updateStorageKeyContext, Keys.deleteSecretFaultFile]

theorem run_unlocking_of_not_fault (hidle : Idle s) {secret : Secret} (hpin : s.keys.pin = some secret)
    (hfault : s.keys.fault = false) (call : Nat) : (run (step atOnce) s (unlocking call)).keys = s.keys := by
  have hbegin : run (step atOnce) s (unlocking call) = run (step atOnce) (s.begin call (.checkFlag secret))
      (List.replicate 6 (.step call { ok := true })) := by
    rw [unlocking, run_cons, step, hpin]
  have hended : (step atOnce (s.begin call (.checkFlag secret))
      (.step call { ok := true })).calls call = none := by
    simp [step, State.begin, State.go, hidle call, advance, hfault]
  rw [hbegin, List.replicate_succ, run_cons, run_step_of_ended hended]
  simp [step, State.begin, State.go, hidle call, advance, hfault]

theorem Inv.settled (h : Inv atOnce s) : Settled atOnce s := by
  intro hidle
  have hnone : ∀ i stage, s.calls i = some stage → ¬stage.Relies := fun i stage hi =>
    (Option.some_ne_none stage (hi.symm.trans (hidle i))).elim
  have hlock : s.lock = none := Option.eq_none_iff_forall_ne_some.mpr fun i hi => by
    obtain ⟨stage, hcall, -⟩ := h.held i hi
    exact Option.some_ne_none stage (hcall.symm.trans (hidle i))
  have hcovered := h.covered hnone
  refine ⟨hcovered, fun call secret hpin => ?_⟩
  cases hfault : s.keys.fault with
  | true =>
      rw [run_unlocking_of_fault hidle hlock hpin hfault]
      exact ⟨hpin, .inl rfl, rfl⟩
  | false =>
      rw [run_unlocking_of_not_fault hidle hpin hfault]
      refine ⟨hpin, hpin ▸ hcovered.resolve_right fun hf => ?_, hfault⟩
      exact Bool.false_ne_true (hfault.symm.trans hf)

end steps

def halfAdded : List (Event Nat) :=
  [.addCredential 0 7, .step 0 { ok := true }, .step 0 { ok := true, credentialId := 5 }, .step 0 { ok := true },
    .step 0 { ok := false }]

def halfDeleted : List (Event Nat) :=
  [.delCred 0 5, .step 0 { ok := true }, .step 0 { ok := true }, .step 0 { ok := false }, .step 0 { ok := true }]

/-- The service stops before the record has the id of a new PIN. The next unlock restores
the key and removes the flag file, and then IAM deletes the PIN. -/
def unrecorded : List (Event Nat) :=
  [.addCredential 0 7, .step 0 { ok := true }, .step 0 { ok := true, credentialId := 5 }, .stop] ++ unlocking 1 ++
    [.delCred 2 5, .step 2 { ok := true }]

theorem not_settled_of_drifted {atOnce : Bool} {s : State Nat} (hidle : Idle s) (hpin : s.keys.pin = none)
    (hcommitted : s.keys.committed = some 7) (hpending : s.keys.pending = none) (hfault : s.keys.fault = false) :
    ¬Settled atOnce s := by
  intro h
  have hcovered := (h hidle).1
  unfold Keys.Covered Keys.Accepts at hcovered
  rw [hpin, hcommitted, hpending, hfault] at hcovered
  exact absurd hcovered (by decide)

theorem not_settled_run_halfDeleted (atOnce : Bool) :
    ¬Settled atOnce (run (step atOnce) (initial (some 7) 5) halfDeleted) := by
  refine not_settled_of_drifted (fun call => ?_) ?_ ?_ ?_ ?_
  · by_cases hcall : call = 0 <;>
      simp [run, halfDeleted, step, State.begin, State.go, initial, advance, Keys.isPIN, hcall]
  all_goals cases atOnce <;> rfl

theorem not_settled_run_unrecorded (atOnce : Bool) :
    ¬Settled atOnce (run (step atOnce) (initial none 0) unrecorded) := by
  refine not_settled_of_drifted (fun call => ?_) ?_ ?_ ?_ ?_
  · by_cases hcall : call = 2 <;>
      simp [run, unrecorded, unlocking, List.replicate, step, State.beginLocked, State.begin, State.go, initial, advance,
        Keys.isPIN, Keys.createSecretFaultFile, Keys.deleteSecretFaultFile, Keys.updateStorageUserAuth,
        Keys.UpdatesUserAuth, Keys.updateStorageKeyContext, hcall]
  all_goals cases atOnce <;> rfl

end OsAccount.CredentialKeys
