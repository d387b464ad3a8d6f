import OsAccount.SubProfiles
import Mathlib.Data.Finset.Basic

namespace OsAccount.SubProfileSwitch

open Std SubProfiles

/-- Where a call of `SwitchSubProfile` stands that is not an activation. -/
inductive Switch
  | isValid (subspaceId : Int)
  | readAccount (subspaceId : Int)
  | readForeground (subspaceId : Int)
  | findRuntime (subspaceId fgId : Int)
  | setRuntime (subspaceId fgId : Int)
  | checkSession (subspaceId fromSubspaceId : Int)
  | acquire (subspaceId fromSubspaceId : Int)
  | resolveEnable (subspaceId fromSubspaceId : Int)
  | resolveDisable (subspaceId fromSubspaceId enableAppIndex : Int)
  | sync (subspaceId fromSubspaceId enableAppIndex disableAppIndex : Int) (i : Nat)
  | rollback (fromSubspaceId : Int) (e : ErrCode)
  | setForeground (subspaceId : Int)
  | persist (subspaceId : Int)
  | release (ret : Ret)
  | done (ret : Ret)

/-- Where the call of `RemoveSubProfile` stands that holds the mutex, with the record
that it has loaded. -/
inductive Removal
  | isValid (subspaceId : Int)
  | checkForeground (info : OsAccountSubspaceInfo)
  | deleteCred (info : OsAccountSubspaceInfo)
  | save (info : OsAccountSubspaceInfo)
  | removeDir (subspaceId : Int)
  | updateContext (subspaceId : Int)

structure SwitchAnswer where
  getOsAccountInfoById : Bool := true
  isLogin : Bool := false
  readSubProfileContext : Ret := .ok ()
  batchSetApplicationEnabled : Ret := .ok ()
  setOsAccountForegroundSubspaceId : Ret := .ok ()

structure RemovalAnswer where
  getOsAccountInfoById : Bool := true
  deleteSubProfileCred : Ret := .ok ()
  save : Option (ErrCode × Bool) := none
  removeDir : Option (ErrCode × Bool) := none
  update : Option ErrCode := none

structure State where
  disk : Disk
  foregroundSubProfileId : Int
  runtime : Option Int
  enabled : Finset Int
  switching : Bool
  calls : List Switch
  removal : Option Removal

def State.runtimeForeground (s : State) : Int := s.runtime.getD s.foregroundSubProfileId

def batchSetApplicationEnabled (enableAppIndex disableAppIndex : Int) (enabled : Finset Int) : Finset Int :=
  insert enableAppIndex (enabled.erase disableAppIndex)

def saveAnswer : Option (ErrCode × Bool) → SaveAnswer
  | none => .success
  | some (e, made) => .failure e made

def dirAnswer : Option (ErrCode × Bool) → DirAnswer
  | none => .success
  | some (e, emptied) => .failure e emptied

def writeAnswer : Option ErrCode → WriteAnswer
  | none => .success
  | some e => .failure e

section steps

variable (osAccountId : Int)

def indexOf (d : Disk) (subProfileId : Int) : Option Int :=
  (d osAccountId).context.bind fun ctx =>
    (ctx.subProfileIndexMap.toList.find? fun p => p.2 = subProfileId).map Prod.fst

def resolveSubProfileIndexFromContext (a : SwitchAnswer) (d : Disk) (subProfileId : Int) : Except ErrCode Int :=
  match a.readSubProfileContext with
  | .error e => .error e
  | .ok () =>
      match indexOf osAccountId d subProfileId with
      | none => .error .subProfileNotFound
      | some index => .ok index

def checkActiveSessionStatus (a : SwitchAnswer) (d : Disk) (fromSubspaceId : Int) : Bool :=
  decide (fromSubspaceId ≠ -1) && (loadSubProfileInfo d osAccountId fromSubspaceId).isSome && a.isLogin

def maxRetry : Nat := 3

def advance (a : SwitchAnswer) (s : State) : Switch → State × Switch
  | .isValid subspaceId =>
      if subspaceId = base osAccountId then (s, .done (.error .subProfileRestricted))
      else if isValidSubProfileExists s.disk osAccountId subspaceId then (s, .readAccount subspaceId)
      else (s, .done (.error .subProfileNotFound))
  | .readAccount subspaceId =>
      if a.getOsAccountInfoById then (s, .readForeground subspaceId)
      else (s, .done (.error .subProfileNotFound))
  | .readForeground subspaceId =>
      if a.getOsAccountInfoById then (s, .findRuntime subspaceId s.foregroundSubProfileId)
      else (s, .checkSession subspaceId (-1))
  | .findRuntime subspaceId fgId =>
      match s.runtime with
      | some fromSubspaceId => (s, .checkSession subspaceId fromSubspaceId)
      | none => (s, .setRuntime subspaceId fgId)
  | .setRuntime subspaceId fgId => ({ s with runtime := some fgId }, .checkSession subspaceId fgId)
  | .checkSession subspaceId fromSubspaceId =>
      if fromSubspaceId = subspaceId ∧ fromSubspaceId ≠ -1 then (s, .done (.ok ()))
      else if checkActiveSessionStatus osAccountId a s.disk fromSubspaceId then
        (s, .done (.error .subProfileHasActiveSession))
      else (s, .acquire subspaceId fromSubspaceId)
  | .acquire subspaceId fromSubspaceId =>
      if s.switching then (s, .done (.error .accountOperatingError))
      else ({ s with switching := true }, .resolveEnable subspaceId fromSubspaceId)
  | .resolveEnable subspaceId fromSubspaceId =>
      match resolveSubProfileIndexFromContext osAccountId a s.disk subspaceId with
      | .error e => (s, .rollback fromSubspaceId e)
      | .ok enableAppIndex => (s, .resolveDisable subspaceId fromSubspaceId enableAppIndex)
  | .resolveDisable subspaceId fromSubspaceId enableAppIndex =>
      match resolveSubProfileIndexFromContext osAccountId a s.disk fromSubspaceId with
      | .error _ => (s, .sync subspaceId fromSubspaceId enableAppIndex (-1) 0)
      | .ok disableAppIndex => (s, .sync subspaceId fromSubspaceId enableAppIndex disableAppIndex 0)
  | .sync subspaceId fromSubspaceId enableAppIndex disableAppIndex i =>
      match a.batchSetApplicationEnabled with
      | .ok () =>
          let curDisable := if i = 0 then disableAppIndex else -1
          ({ s with enabled := batchSetApplicationEnabled enableAppIndex curDisable s.enabled },
            .setForeground subspaceId)
      | .error e =>
          if (e = .ipcError ∨ e = .ipcSaDied) ∧ i + 1 < maxRetry then
            (s, .sync subspaceId fromSubspaceId enableAppIndex disableAppIndex (i + 1))
          else (s, .rollback fromSubspaceId e)
  | .rollback fromSubspaceId e => ({ s with runtime := some fromSubspaceId }, .release (.error e))
  | .setForeground subspaceId => ({ s with runtime := some subspaceId }, .persist subspaceId)
  | .persist subspaceId =>
      match a.setOsAccountForegroundSubspaceId with
      | .ok () => ({ s with foregroundSubProfileId := subspaceId }, .release (.ok ()))
      | .error _ => (s, .release (.ok ()))
  | .release ret => ({ s with switching := false }, .done ret)
  | .done ret => (s, .done ret)

def advanceRemoval (a : RemovalAnswer) (s : State) : Removal → State
  | .isValid subspaceId =>
      if subspaceId = base osAccountId then { s with removal := none }
      else
        match loadSubProfileInfo s.disk osAccountId subspaceId with
        | none => { s with removal := none }
        | some info =>
            if info.isCreateCompleted && !info.toBeRemoved then { s with removal := some (.checkForeground info) }
            else { s with removal := none }
  | .checkForeground info =>
      if a.getOsAccountInfoById = true ∧ s.foregroundSubProfileId = info.subspaceId then { s with removal := none }
      else { s with removal := some (.deleteCred info) }
  | .deleteCred info =>
      match a.deleteSubProfileCred with
      | .error _ => { s with removal := none }
      | .ok () => { s with removal := some (.save info) }
  | .save info =>
      match saveSubProfileInfo (saveAnswer a.save) { info with toBeRemoved := true } s.disk with
      | (.error _, d) => { s with disk := d, removal := none }
      | (.ok (), d) => { s with disk := d, removal := some (.removeDir info.subspaceId) }
  | .removeDir subspaceId =>
      match removeSubProfileDir (dirAnswer a.removeDir) osAccountId subspaceId s.disk with
      | (.error _, d) => { s with disk := d, removal := none }
      | (.ok (), d) => { s with disk := d, removal := some (.updateContext subspaceId) }
  | .updateContext subspaceId =>
      { s with
        disk := (updateContextAfterRemove (writeAnswer a.update) osAccountId subspaceId s.disk).2
        removal := none }

inductive Event
  | switchSubProfile (subspaceId : Int)
  | switch (n : Nat) (a : SwitchAnswer)
  | removeSubProfile (subspaceId : Int)
  | removal (a : RemovalAnswer)

def step (s : State) : Event → State
  | .switchSubProfile subspaceId => { s with calls := s.calls ++ [.isValid subspaceId] }
  | .switch n a =>
      match s.calls[n]? with
      | none => s
      | some call =>
          match advance osAccountId a s call with
          | (s, call) => { s with calls := s.calls.set n call }
  | .removeSubProfile subspaceId =>
      match s.removal with
      | none => { s with removal := some (.isValid subspaceId) }
      | some _ => s
  | .removal a =>
      match s.removal with
      | none => s
      | some removal => advanceRemoval osAccountId a s removal

end steps

end OsAccount.SubProfileSwitch
