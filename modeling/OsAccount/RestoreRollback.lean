import OsAccount.Machine
import OsAccount.RestoreFiles

namespace OsAccount.RestoreRollback

open Function AccountBackups RestoreFiles
open AccountDirectory (queryAllCreatedOsAccounts)
open DistributedStorage (TextFile)
open Machine (run Meets)

def restoreBackupMaxRetry : Nat := 3

inductive Request
  | onBackup (localId : Int32)
  | onRestore (localId : Int32) (backupData : TextFile)

def Request.localId : Request → Int32
  | .onBackup localId => localId
  | .onRestore localId _ => localId

/-- Who waits for `backupMutex_`, with the mark of its account: a request, or `CheckAndRecoverRestore`. -/
inductive Job
  | request (r : Request)
  | rollback (localId : Int32)

structure RestoreData where
  backupInfo : Account
  currentInfo : Account

inductive Phase
  | deleteOld (data : RestoreData)
  | createDir (data : RestoreData)
  | copy (data : RestoreData)
  | writeComplete (data : RestoreData)
  | deleteIncomplete
  | apply (writes : List Write)
  | deleteBackup
  | rollback (retry : Nat)
  | rollingBack (retry : Nat) (writes : List Write)
  | deleteRolledBack (ret : Ret)

/-- The holder of `backupMutex_` restores an account, or `CheckAndRecoverRestore` rolls it back. -/
structure Holder where
  localId : Int32
  restores : Bool
  phase : Phase

/-- `CheckAndRecoverRestore` on its way through the accounts, for a request. -/
structure Recovery where
  owner : Request
  left : List Int32
  waits : Bool := false
  needRetry : Bool := false

/-- What is told of an account: what was stored before the last restore that has begun, and what it would have stored,
whether `OnRestore` has failed, and whether the backup has been rolled back. -/
structure History where
  before : Stored
  after : Option Stored := none
  failed : Bool := false
  rolledBack : Bool := false

/-- The requests in `admitted` have passed `CheckAndRecoverRestore`. The history, and whether a restore has deleted a
complete backup that was not rolled back, are not in the source. -/
structure Service where
  store : Store
  backups : Int32 → Option Backup := fun _ => none
  isNeedRestoreRecover : Bool := true
  recovery : Option Recovery := none
  operatingId : List Int32 := []
  admitted : List Request := []
  waiting : List Job := []
  holder : Option Holder := none
  history : Int32 → History
  lost : Bool := false

def initial (store : Store) : Service where
  store
  history localId := { before := stored store localId }

inductive Event
  | request (r : Request) (listed : Ret)
  | recoverNext
  | claim (n : Nat)
  | enter (n : Nat) (plugin : Plugin)
  | act (o : Outcome)
  | stop

def setBackup (s : Service) (localId : Int32) (backup : Option Backup) : Service :=
  { s with backups := update s.backups localId backup }

def setHistory (s : Service) (localId : Int32) (history : History) : Service :=
  { s with history := update s.history localId history }

def setPhase (s : Service) (h : Holder) (phase : Phase) : Service :=
  { s with holder := some { h with phase } }

def getOsAccountLocalIds (s : Store) : List Int32 :=
  ((queryAllCreatedOsAccounts s.directory).filter fun info => AccountList.startUserId ≤ info.localId).map
    fun info => Int32.ofInt info.localId

section service

variable (localNameMaxSize : Nat) (constraintsByType : OsAccountType → List String) (s : Service)

/-- Up to the loop over the accounts. Only the first request after a start goes through them. -/
def checkAndRecoverRestore (r : Request) (listed : Ret) : Service :=
  if !s.isNeedRestoreRecover then { s with admitted := r :: s.admitted }
  else
    match listed with
    | .error _ => s
    | .ok () =>
        { s with
          isNeedRestoreRecover := false
          recovery := some { owner := r, left := getOsAccountLocalIds s.store } }

def recoverNext : Service :=
  match s.recovery with
  | none => s
  | some recovery =>
      if recovery.waits then s
      else
        match recovery.left with
        | [] =>
            { s with
              isNeedRestoreRecover := s.isNeedRestoreRecover || recovery.needRetry
              recovery := none
              admitted := recovery.owner :: s.admitted }
        | localId :: left =>
            if localId ∈ s.operatingId then { s with recovery := some { recovery with left, needRetry := true } }
            else
              { s with
                operatingId := localId :: s.operatingId
                waiting := .rollback localId :: s.waiting
                recovery := some { recovery with left, waits := true } }

def claim (n : Nat) : Service :=
  match s.admitted[n]? with
  | none => s
  | some r =>
      let s := { s with admitted := s.admitted.eraseIdx n }
      if r.localId ∈ s.operatingId then s
      else { s with operatingId := r.localId :: s.operatingId, waiting := .request r :: s.waiting }

def leave (localId : Int32) : Service := { s with holder := none, operatingId := s.operatingId.erase localId }

def finishRestore (localId : Int32) (failed : Bool) : Service :=
  leave (setHistory s localId { s.history localId with failed }) localId

def finishRecover (localId : Int32) (ret : Ret) : Service :=
  let s := leave s localId
  match ret with
  | .error _ => { s with isNeedRestoreRecover := true, recovery := none }
  | .ok () => { s with recovery := s.recovery.map fun recovery => { recovery with waits := false } }

/-- The end of `RollbackFromBackupUnlocked`. A restore has failed whatever its result. -/
def endRollback (h : Holder) (ret : Ret) : Service :=
  let s := setHistory s h.localId { s.history h.localId with rolledBack := ret = .ok () }
  if h.restores then finishRestore s h.localId true else finishRecover s h.localId ret

def startRollback (h : Holder) : Service :=
  setPhase (setHistory s h.localId { s.history h.localId with rolledBack := false }) h
    (if isBackupComplete (s.backups h.localId) then .rollback 0 else .deleteRolledBack (.ok ()))

def rollbackFailed (h : Holder) (retry : Nat) (e : ErrCode) : Service :=
  if givesUp e then setPhase s h (.deleteRolledBack (.error e))
  else if retry + 1 < restoreBackupMaxRetry then setPhase s h (.rollback (retry + 1))
  else endRollback s h (.error e)

def enter (n : Nat) (plugin : Plugin) : Service :=
  match s.holder, s.waiting[n]? with
  | none, some job =>
      let s := { s with waiting := s.waiting.eraseIdx n }
      match job with
      | .request (.onBackup localId) => leave s localId
      | .request (.onRestore localId backupData) =>
          match getOsAccountInfoById s.store localId with
          | none => leave s localId
          | some currentInfo =>
              if currentInfo.info.toBeRemoved || !currentInfo.info.isCreateCompleted then leave s localId
              else
                match parseAndCheckBackup localNameMaxSize plugin s.store localId backupData currentInfo with
                | .error _ => leave s localId
                | .ok backupInfo =>
                    { s with
                      holder := some { localId, restores := true, phase := .deleteOld { backupInfo, currentInfo } } }
      | .rollback localId => startRollback s { localId, restores := false, phase := .rollback 0 }
  | _, _ => s

/-- The first deletion of `CreateBackup`, with which a restore begins to change the files. -/
def deleteOld (h : Holder) (data : RestoreData) (o : Outcome) : Service :=
  let id := h.localId
  let history := s.history id
  let s :=
    { setHistory s id
        { history with
          before := stored s.store id
          after := some (stored
            (applyRestoreData localNameMaxSize constraintsByType s.store id data.backupInfo data.currentInfo).2 id)
          failed := false } with
      lost := s.lost || isBackupComplete (s.backups id) && !history.rolledBack }
  setPhase (setBackup s id (RestoreFiles.deleteBackup o (s.backups id))) h (.createDir data)

def proceed (h : Holder) (o : Outcome) : Service :=
  let id := h.localId
  let backup := s.backups id
  match h.phase with
  | .deleteOld data => deleteOld localNameMaxSize constraintsByType s h data o
  | .createDir data =>
      match createDir o backup with
      | (.error _, backup) => finishRestore (setBackup s id backup) id true
      | (.ok (), backup) => setPhase (setBackup s id backup) h (.copy data)
  | .copy data =>
      match copyUserDir o (stored s.store id) (backup.getD {}) with
      | (.error _, b) => setPhase (setBackup s id (some b)) h .deleteIncomplete
      | (.ok (), b) => setPhase (setBackup s id (some b)) h (.writeComplete data)
  | .writeComplete data =>
      match o.ret with
      | .error _ => setPhase s h .deleteIncomplete
      | .ok () =>
          let s := setHistory s id { s.history id with rolledBack := false }
          setPhase (setBackup s id (backup.map fun b => { b with complete := true })) h
            (.apply (restoreWrites localNameMaxSize constraintsByType data.backupInfo data.currentInfo))
  | .deleteIncomplete => finishRestore (setBackup s id (RestoreFiles.deleteBackup o backup)) id true
  | .apply [] => setPhase s h .deleteBackup
  | .apply (w :: writes) =>
      match writeFile o.ret s.store id w with
      | (.error _, store) => startRollback { s with store } h
      | (.ok (), store) => setPhase { s with store } h (.apply writes)
  | .deleteBackup => finishRestore (setBackup s id (RestoreFiles.deleteBackup o backup)) id false
  | .rollback retry =>
      match rollbackRecord o s.store id (backup.getD {}) with
      | .error e => rollbackFailed s h retry e
      | .ok (store, writes) => setPhase { s with store } h (.rollingBack retry writes)
  | .rollingBack _ [] => setPhase s h (.deleteRolledBack (.ok ()))
  | .rollingBack retry (w :: writes) =>
      match writeFile o.ret s.store id w with
      | (.error e, store) => rollbackFailed { s with store } h retry e
      | (.ok (), store) => setPhase { s with store } h (.rollingBack retry writes)
  | .deleteRolledBack ret => endRollback (setBackup s id (RestoreFiles.deleteBackup o backup)) h ret

def stop : Service :=
  { s with
    isNeedRestoreRecover := true
    recovery := none
    operatingId := []
    admitted := []
    waiting := []
    holder := none }

def step : Event → Service
  | .request r listed => checkAndRecoverRestore s r listed
  | .recoverNext => recoverNext s
  | .claim n => claim s n
  | .enter n plugin => enter localNameMaxSize s n plugin
  | .act o =>
      match s.holder with
      | none => s
      | some h => proceed localNameMaxSize constraintsByType s h o
  | .stop => stop s

/-- The holder of `backupMutex_` does not come to delete a complete backup that is still needed, and no failure leaves
a backup, or an account, that is taken for whole and is not. -/
def Careful (h : Holder) (o : Outcome) : Prop :=
  match h.phase with
  | .deleteOld _ =>
      (isBackupComplete (s.backups h.localId) → (s.history h.localId).rolledBack) ∧ KeepsWhole o (s.backups h.localId)
  | .copy _ => o.ret ≠ .ok () → isBackupComplete (s.backups h.localId) = false
  | .deleteIncomplete | .deleteBackup | .deleteRolledBack _ => KeepsWhole o (s.backups h.localId)
  | .rollback _ =>
      FailsForNow o ∧ (o.ret = .ok () → (s.backups h.localId).all fun b =>
        RestoresBefore (s.history h.localId).before (stored s.store h.localId) o.plugin b)
  | .rollingBack _ _ => FailsForNow o
  | _ => True

def Allowed : Event → Prop
  | .act o => ∀ h ∈ s.holder, Careful s h o
  | _ => True

/-- What is asked of the service: an account without a restore and without a backup is as before or as after the
restore, as before when `OnRestore` has failed and its backup is gone or rolled back, and no restore has deleted a
backup that was needed. -/
structure Atomic : Prop where
  whole : s.holder = none → ∀ id, s.backups id = none →
    stored s.store id = (s.history id).before ∨ (s.history id).after = some (stored s.store id)
  failed : ∀ id, (s.history id).failed → s.backups id = none ∨ (s.history id).rolledBack →
    stored s.store id = (s.history id).before
  kept : s.lost = false

end service

theorem setBackup_self (s : Service) (localId : Int32) (backup : Option Backup) :
    (setBackup s localId backup).backups localId = backup := update_self ..

theorem setHistory_self (s : Service) (localId : Int32) (history : History) :
    (setHistory s localId history).history localId = history := update_self ..

section invariant

/-- What holds of an account at every moment: the state to which a rollback would bring it is that before the restore,
and without a rollback it is whole. -/
structure Quiet (id : Int32) (history : History) (t : Stored) (backup : Option Backup) : Prop where
  settled : isBackupComplete backup = false → t = history.before ∨ history.after = some t
  failed : history.failed = true → isBackupComplete backup = false → t = history.before
  copied : isBackupComplete backup = true → Holds id history.before backup
  rolledBack : history.rolledBack = true → isBackupComplete backup = true → t = history.before
  photo : PhotoStored t backup

variable (localNameMaxSize : Nat) (constraintsByType : OsAccountType → List String)

structure Begun (data : RestoreData) (history : History) (t : Stored) : Prop where
  before : t = history.before
  failed : history.failed = false
  account : t.account = some data.currentInfo
  after : history.after =
    some ((restoreWrites localNameMaxSize constraintsByType data.backupInfo data.currentInfo).foldl Stored.write t)

/-- What the holder of `backupMutex_` has still to do leads to the state before or after the restore. -/
def InPhase (h : Holder) (history : History) (t : Stored) (backup : Option Backup) : Prop :=
  match h.phase with
  | .deleteOld data => t.account = some data.currentInfo
  | .createDir data | .copy data => Begun localNameMaxSize constraintsByType data history t
  | .writeComplete data => Begun localNameMaxSize constraintsByType data history t ∧ Holds h.localId t backup
  | .deleteIncomplete => t = history.before
  | .apply writes =>
      isBackupComplete backup = true ∧ history.rolledBack = false ∧ history.failed = false ∧
        history.after = some (writes.foldl Stored.write t) ∧ ∀ w ∈ writes, w.Of h.localId
  | .deleteBackup => history.rolledBack = false ∧ history.failed = false ∧ history.after = some t
  | .rollback _ => isBackupComplete backup = true ∧ history.rolledBack = false
  | .rollingBack _ writes =>
      isBackupComplete backup = true ∧ history.rolledBack = false ∧ writes.foldl Stored.write t = history.before ∧
        ∀ w ∈ writes, w.Of h.localId
  | .deleteRolledBack ret =>
      ret = .ok () ∧ (isBackupComplete backup = true ∨ h.restores = true → t = history.before)

structure Sound (s : Service) : Prop where
  keyed : Keyed s.store
  quiet : ∀ id, Quiet id (s.history id) (stored s.store id) (s.backups id)
  kept : s.lost = false

structure Consistent (s : Service) : Prop extends Sound s where
  held : ∀ h, s.holder = some h →
    InPhase localNameMaxSize constraintsByType h (s.history h.localId) (stored s.store h.localId) (s.backups h.localId)

variable {localNameMaxSize : Nat} {constraintsByType} {s : Service} {h : Holder} {id : Int32}
    {history : History} {t : Stored}
  {backup : Option Backup} {o : Outcome}

theorem Quiet.delete (hq : Quiet id history t backup) (hkeeps : KeepsWhole o backup)
    (hwhole : isBackupComplete backup = true → t = history.before ∨ history.after = some t)
    (hfailed : isBackupComplete backup = true → history.failed = true → t = history.before) :
    Quiet id history t (RestoreFiles.deleteBackup o backup) := by
  have hbackup : isBackupComplete (RestoreFiles.deleteBackup o backup) = true →
      RestoreFiles.deleteBackup o backup = backup := deleteBackup_complete hkeeps
  refine ⟨fun _ => ?_, fun hf _ => ?_, fun hcomplete => ?_, fun hrolled hcomplete => ?_, hq.photo.delete⟩
  · cases hcomplete : isBackupComplete backup with
    | true => exact hwhole hcomplete
    | false => exact hq.settled hcomplete
  · cases hcomplete : isBackupComplete backup with
    | true => exact hfailed hcomplete hf
    | false => exact hq.failed hf hcomplete
  · have hsame := hbackup hcomplete
    rw [hsame] at hcomplete ⊢
    exact hq.copied hcomplete
  · have hsame := hbackup hcomplete
    rw [hsame] at hcomplete
    exact hq.rolledBack hrolled hcomplete

theorem Sound.withBackup (hs : Sound s) (hq : Quiet id (s.history id) (stored s.store id) backup) :
    Sound (setBackup s id backup) := by
  refine ⟨hs.keyed, fun j => ?_, hs.kept⟩
  change Quiet j (s.history j) (stored s.store j) (update s.backups id backup j)
  by_cases hj : j = id
  · subst hj
    rw [update_self]
    exact hq
  · rw [update_of_ne hj]
    exact hs.quiet j

theorem Sound.withHistory (hs : Sound s) (hq : Quiet id history (stored s.store id) (s.backups id)) :
    Sound (setHistory s id history) := by
  refine ⟨hs.keyed, fun j => ?_, hs.kept⟩
  change Quiet j (update s.history id history j) (stored s.store j) (s.backups j)
  by_cases hj : j = id
  · subst hj
    rw [update_self]
    exact hq
  · rw [update_of_ne hj]
    exact hs.quiet j

variable {store : Store}

theorem Sound.write {w : Write} (hs : Sound s)
    (hperform : RestoreFiles.perform s.store id w = (.ok (), store)) (hw : w.Of id)
    (hq : Quiet id (s.history id) ((stored s.store id).write w) (s.backups id)) : Sound { s with store } := by
  refine ⟨hs.keyed.perform hperform hw, fun j => ?_, hs.kept⟩
  dsimp only
  rw [stored_perform hperform hw]
  split
  · rename_i hj
    subst hj
    exact hq
  · exact hs.quiet j

theorem Sound.inPhase (hs : Sound s) (phase : Phase)
    (hphase : InPhase localNameMaxSize constraintsByType { h with phase } (s.history h.localId)
      (stored s.store h.localId)
      (s.backups h.localId)) : Consistent localNameMaxSize constraintsByType (setPhase s h phase) := by
  refine ⟨⟨hs.keyed, hs.quiet, hs.kept⟩, ?_⟩
  rintro h' ⟨rfl⟩
  exact hphase

theorem consistent_leave (hs : Sound s) (id : Int32) : Consistent localNameMaxSize constraintsByType (leave s id) :=
  ⟨⟨hs.keyed, hs.quiet, hs.kept⟩, fun _ hh => by cases hh⟩

theorem consistent_finishRestore (hs : Sound s) {failed : Bool}
    (hfailed : failed = true → isBackupComplete (s.backups id) = false → stored s.store id = (s.history id).before) :
    Consistent localNameMaxSize constraintsByType (finishRestore s id failed) := by
  have hq := hs.quiet id
  have hs' : Sound (setHistory s id { s.history id with failed }) :=
    hs.withHistory ⟨hq.settled, hfailed, hq.copied, hq.rolledBack, hq.photo⟩
  exact consistent_leave hs' id

theorem consistent_finishRecover (hs : Sound s) (ret : Ret) :
    Consistent localNameMaxSize constraintsByType (finishRecover s id ret) := by
  cases ret with
  | ok u => exact ⟨⟨hs.keyed, hs.quiet, hs.kept⟩, fun _ hh => by cases hh⟩
  | error e => exact ⟨⟨hs.keyed, hs.quiet, hs.kept⟩, fun _ hh => by cases hh⟩

theorem consistent_endRollback (hs : Sound s) {ret : Ret}
    (hrolled : ret = .ok () → isBackupComplete (s.backups h.localId) = true →
      stored s.store h.localId = (s.history h.localId).before)
    (hfailed : h.restores = true → isBackupComplete (s.backups h.localId) = false →
      stored s.store h.localId = (s.history h.localId).before) :
    Consistent localNameMaxSize constraintsByType (endRollback s h ret) := by
  have hq := hs.quiet h.localId
  have hs' : Sound (setHistory s h.localId { s.history h.localId with rolledBack := decide (ret = .ok ()) }) :=
    hs.withHistory ⟨hq.settled, hq.failed, hq.copied, fun hret => hrolled (of_decide_eq_true hret), hq.photo⟩
  rw [endRollback]
  dsimp only
  split
  · rename_i hrestores
    refine consistent_finishRestore hs' fun _ hcomplete => ?_
    rw [setHistory_self]
    exact hfailed hrestores hcomplete
  · exact consistent_finishRecover hs' ret

theorem consistent_startRollback (hs : Sound s)
    (hcomplete : h.restores = true → isBackupComplete (s.backups h.localId) = true) :
    Consistent localNameMaxSize constraintsByType (startRollback s h) := by
  have hq := hs.quiet h.localId
  have hs' : Sound (setHistory s h.localId { s.history h.localId with rolledBack := false }) :=
    hs.withHistory ⟨hq.settled, hq.failed, hq.copied, fun hrolled => Bool.noConfusion hrolled, hq.photo⟩
  have hrolled : ((setHistory s h.localId { s.history h.localId with rolledBack := false }).history
      h.localId).rolledBack = false := by rw [setHistory_self]
  rw [startRollback]
  cases hbackup : isBackupComplete (s.backups h.localId) with
  | true => exact hs'.inPhase (.rollback 0) ⟨hbackup, hrolled⟩
  | false =>
      refine hs'.inPhase (.deleteRolledBack (.ok ())) ⟨rfl, fun hor => ?_⟩
      rcases hor with htrue | hrestores
      · cases hbackup.symm.trans htrue
      · cases hbackup.symm.trans (hcomplete hrestores)

theorem consistent_rollbackFailed (hs : Sound s) (hcomplete : isBackupComplete (s.backups h.localId) = true)
    (hrolled : (s.history h.localId).rolledBack = false) (retry : Nat) {e : ErrCode} (he : givesUp e = false) :
    Consistent localNameMaxSize constraintsByType (rollbackFailed s h retry e) := by
  rw [rollbackFailed, if_neg (Bool.eq_false_iff.mp he)]
  split
  · exact hs.inPhase (.rollback (retry + 1)) ⟨hcomplete, hrolled⟩
  · refine consistent_endRollback hs (fun hret => by cases hret) fun _ hfalse => ?_
    cases hcomplete.symm.trans hfalse

theorem Quiet.of_before (ht : t = history.before) (hcopied : isBackupComplete backup = true → Holds id t backup)
    (hphoto : PhotoStored t backup) : Quiet id history t backup :=
  ⟨fun _ => .inl ht, fun _ _ => ht, fun hcomplete => ht ▸ hcopied hcomplete, fun _ _ => ht, hphoto⟩

theorem Quiet.write (hq : Quiet id history t backup) (hcomplete : isBackupComplete backup = true)
    (hrolled : history.rolledBack = false) (w : Write) : Quiet id history (t.write w) backup := by
  refine ⟨fun hfalse => ?_, fun _ hfalse => ?_, hq.copied, fun htrue => ?_, hq.photo.write w⟩
  · cases hcomplete.symm.trans hfalse
  · cases hcomplete.symm.trans hfalse
  · cases hrolled.symm.trans htrue

variable {data : RestoreData}

theorem consistent_deleteOld (hs : Sound s)
    (haccount : (stored s.store h.localId).account = some data.currentInfo)
    (hneeded : isBackupComplete (s.backups h.localId) = true → (s.history h.localId).rolledBack = true)
    (hkeeps : KeepsWhole o (s.backups h.localId)) :
    Consistent localNameMaxSize constraintsByType (deleteOld localNameMaxSize constraintsByType s h data o) := by
  have hq := hs.quiet h.localId
  have hlost : (s.lost || isBackupComplete
      (s.backups h.localId) && !(s.history h.localId).rolledBack) = false := by
    rw [hs.kept, Bool.false_or]
    cases hcomplete : isBackupComplete (s.backups h.localId) with
    | true => rw [hneeded hcomplete, Bool.not_true, Bool.and_false]
    | false => rw [Bool.false_and]
  have hafter := stored_applyRestoreData localNameMaxSize constraintsByType haccount (hs.keyed _ _ haccount)
    data.backupInfo
  have hcopied : isBackupComplete (s.backups h.localId) = true →
      Holds h.localId (stored s.store h.localId) (s.backups h.localId) := by
    intro hcomplete
    rw [hq.rolledBack (hneeded hcomplete) hcomplete]
    exact hq.copied hcomplete
  rw [deleteOld]
  dsimp only
  generalize hhistory : History.mk (stored s.store h.localId)
    (some (stored
      (applyRestoreData localNameMaxSize constraintsByType s.store h.localId data.backupInfo data.currentInfo).2
      h.localId))
    false (s.history h.localId).rolledBack = history
  have hq' : Quiet h.localId history (stored s.store h.localId) (s.backups h.localId) := by
    subst hhistory
    exact .of_before rfl hcopied hq.photo
  have hs' := hs.withHistory hq'
  have hs'' : Sound { setHistory s h.localId history with
      lost := s.lost || isBackupComplete (s.backups h.localId) && !(s.history h.localId).rolledBack } :=
    ⟨hs'.keyed, hs'.quiet, hlost⟩
  have hself := setHistory_self s h.localId history
  have hdeleted : Quiet h.localId ((setHistory s h.localId history).history h.localId)
    (stored s.store h.localId)
      (RestoreFiles.deleteBackup o (s.backups h.localId)) := by
    rw [hself]
    subst hhistory
    exact hq'.delete hkeeps (fun _ => .inl rfl) fun _ _ => rfl
  refine (hs''.withBackup hdeleted).inPhase (.createDir data) ?_
  have hbegun : Begun localNameMaxSize constraintsByType data ((setHistory s h.localId history).history h.localId)
      (stored s.store h.localId) := by
    rw [hself]
    subst hhistory
    exact ⟨rfl, rfl, haccount, congrArg some hafter⟩
  exact hbegun

theorem consistent_createDir (hs : Sound s) (hphase : h.phase = .createDir data)
    (hbegun : Begun localNameMaxSize constraintsByType data (s.history h.localId) (stored s.store h.localId)) :
    Consistent localNameMaxSize constraintsByType (proceed localNameMaxSize constraintsByType s h o) := by
  have hq := hs.quiet h.localId
  rw [proceed, hphase]
  dsimp only
  cases hcreate : createDir o (s.backups h.localId) with
  | mk ret backup =>
      have hbackup : Quiet h.localId (s.history h.localId) (stored s.store h.localId) backup := by
        have hcases := createDir_cases o (s.backups h.localId)
        rw [hcreate] at hcases
        rcases hcases with rfl | ⟨-, rfl⟩
        · exact hq
        · refine .of_before hbegun.before (fun hcomplete => by cases hcomplete) ?_
          rintro b ⟨rfl⟩ hphoto
          cases hphoto
      cases ret with
      | error e => exact consistent_finishRestore (hs.withBackup hbackup) fun _ _ => hbegun.before
      | ok u => exact (hs.withBackup hbackup).inPhase (.copy data) hbegun

theorem consistent_copy (hs : Sound s) (hphase : h.phase = .copy data)
    (hbegun : Begun localNameMaxSize constraintsByType data (s.history h.localId) (stored s.store h.localId))
    (hcareful : o.ret ≠ .ok () → isBackupComplete (s.backups h.localId) = false) :
    Consistent localNameMaxSize constraintsByType (proceed localNameMaxSize constraintsByType s h o) := by
  have hq := hs.quiet h.localId
  have hid := hs.keyed _ _ hbegun.account
  have hphoto : PhotoStored (stored s.store h.localId) (some ((s.backups h.localId).getD {})) := by
    cases hbackup : s.backups h.localId with
    | none =>
        rintro b ⟨rfl⟩ hsome
        cases hsome
    | some b => exact hbackup ▸ hq.photo
  have hcomplete : isBackupComplete (s.backups h.localId) = ((s.backups h.localId).getD {}).complete := by
    cases s.backups h.localId <;> rfl
  have hcopy := copyUserDir_complete o (stored s.store h.localId) ((s.backups h.localId).getD {})
  have hphoto' : PhotoStored (stored s.store h.localId)
      (some (copyUserDir o (stored s.store h.localId) ((s.backups h.localId).getD {})).2) := hphoto.copy
  rw [proceed, hphase]
  dsimp only
  cases hresult : copyUserDir o (stored s.store h.localId) ((s.backups h.localId).getD {}) with
  | mk ret b =>
      rw [hresult] at hcopy hphoto'
      cases ret with
      | error e =>
          have hfailed : o.ret ≠ .ok () := by
            intro hok
            rw [copyUserDir, hok] at hresult
            cases hresult
          have hfalse : b.complete = false := hcopy.trans (hcomplete.symm.trans (hcareful hfailed))
          have hb : Quiet h.localId (s.history h.localId) (stored s.store h.localId) (some b) :=
            .of_before hbegun.before (fun htrue => by cases hfalse.symm.trans htrue) hphoto'
          exact (hs.withBackup hb).inPhase .deleteIncomplete hbegun.before
      | ok u =>
          have hholds := copyUserDir_holds hphoto hbegun.account hid hresult
          have hb : Quiet h.localId (s.history h.localId) (stored s.store h.localId) (some b) :=
            .of_before hbegun.before (fun _ => hholds) hphoto'
          refine (hs.withBackup hb).inPhase (.writeComplete data) ⟨hbegun, ?_⟩
          rw [setBackup_self]
          exact hholds

theorem consistent_writeComplete (hs : Sound s) (hphase : h.phase = .writeComplete data)
    (hbegun : Begun localNameMaxSize constraintsByType data (s.history h.localId) (stored s.store h.localId))
    (hholds : Holds h.localId (stored s.store h.localId) (s.backups h.localId)) :
    Consistent localNameMaxSize constraintsByType (proceed localNameMaxSize constraintsByType s h o) := by
  have hq := hs.quiet h.localId
  have hid := hs.keyed _ _ hbegun.account
  rw [proceed, hphase]
  dsimp only
  split
  · exact hs.inPhase .deleteIncomplete hbegun.before
  · generalize hhistory : { s.history h.localId with rolledBack := false } = history
    have hhistory' : Quiet h.localId history (stored s.store h.localId) (s.backups h.localId) := by
      subst hhistory
      exact .of_before hbegun.before (fun _ => hholds) hq.photo
    have hself := setHistory_self s h.localId history
    obtain ⟨a, complete, hbackup, ha, hkey⟩ := hholds
    have hmap : (s.backups h.localId).map (fun b => { b with complete := true }) =
        some { accountInfo := some (.ok a), photo := (stored s.store h.localId).photo, complete := true } := by
      rw [hbackup]
      rfl
    have hmarked : Quiet h.localId ((setHistory s h.localId history).history h.localId) (stored s.store h.localId)
        ((s.backups h.localId).map fun b => { b with complete := true }) := by
      rw [hself, hmap]
      subst hhistory
      exact .of_before hbegun.before (fun _ => ⟨a, true, rfl, ha, hkey⟩) fun b hb hphoto => by cases hb; exact hphoto
    refine ((hs.withHistory hhistory').withBackup hmarked).inPhase (.apply _) ?_
    have hphase' : isBackupComplete ((s.backups h.localId).map fun b => { b with complete := true }) = true ∧
        history.rolledBack = false ∧ history.failed = false ∧
        history.after = some ((restoreWrites localNameMaxSize constraintsByType data.backupInfo data.currentInfo).foldl
          Stored.write
          (stored s.store h.localId)) ∧
        ∀ w ∈ restoreWrites localNameMaxSize constraintsByType data.backupInfo data.currentInfo, w.Of h.localId := by
      subst hhistory
      refine ⟨by rw [hmap]; rfl, rfl, hbegun.failed, hbegun.after, ?_⟩
      intro w hw
      simp only [restoreWrites, List.mem_cons, List.not_mem_nil, or_false] at hw
      rcases hw with rfl | rfl | rfl | rfl
      · trivial
      · exact hid
      · trivial
      · trivial
    rw [InPhase]
    dsimp only
    rw [setBackup_self]
    have hsame : (setBackup (setHistory s h.localId history) h.localId
        ((s.backups h.localId).map fun b => { b with complete := true })).history h.localId = history := hself
    rw [hsame]
    exact hphase'

theorem consistent_deleteIncomplete (hs : Sound s) (hphase : h.phase = .deleteIncomplete)
    (hbefore : stored s.store h.localId = (s.history h.localId).before) (hkeeps : KeepsWhole o (s.backups h.localId)) :
    Consistent localNameMaxSize constraintsByType (proceed localNameMaxSize constraintsByType s h o) := by
  have hdeleted := (hs.quiet h.localId).delete hkeeps (fun _ => .inl hbefore) fun _ _ => hbefore
  rw [proceed, hphase]
  exact consistent_finishRestore (hs.withBackup hdeleted) fun _ _ => hbefore

theorem consistent_apply (hs : Sound s) {writes : List Write} (hphase : h.phase = .apply writes)
    (hcomplete : isBackupComplete (s.backups h.localId) = true) (hrolled : (s.history h.localId).rolledBack = false)
    (hfailed : (s.history h.localId).failed = false)
    (hafter : (s.history h.localId).after = some (writes.foldl Stored.write (stored s.store h.localId)))
    (hof : ∀ w ∈ writes, w.Of h.localId) :
    Consistent localNameMaxSize constraintsByType (proceed localNameMaxSize constraintsByType s h o) := by
  rw [proceed, hphase]
  cases writes with
  | nil => exact hs.inPhase .deleteBackup ⟨hrolled, hfailed, hafter⟩
  | cons w writes =>
      dsimp only
      cases hwrite : writeFile o.ret s.store h.localId w with
      | mk ret store =>
          cases ret with
          | error e =>
              obtain rfl := writeFile_error hwrite
              exact consistent_startRollback hs fun _ => hcomplete
          | ok u =>
              have hperform := (writeFile_ok hwrite).2
              have hw := hof w List.mem_cons_self
              have hs' := hs.write hperform hw ((hs.quiet h.localId).write hcomplete hrolled w)
              have hstored : stored store h.localId = (stored s.store h.localId).write w := by
                rw [stored_perform hperform hw, if_pos rfl]
              refine hs'.inPhase (.apply writes) ⟨hcomplete, hrolled, hfailed, ?_, fun w' hw' => ?_⟩
              · rw [hstored]
                exact hafter
              · exact hof w' (List.mem_cons_of_mem w hw')

theorem consistent_deleteBackup (hs : Sound s) (hphase : h.phase = .deleteBackup)
    (hfailed : (s.history h.localId).failed = false)
    (hafter : (s.history h.localId).after = some (stored s.store h.localId))
    (hkeeps : KeepsWhole o (s.backups h.localId)) :
    Consistent localNameMaxSize constraintsByType (proceed localNameMaxSize constraintsByType s h o) := by
  have hdeleted := (hs.quiet h.localId).delete hkeeps (fun _ => .inr hafter) fun _ hf => by
    cases hfailed.symm.trans hf
  rw [proceed, hphase]
  exact consistent_finishRestore (hs.withBackup hdeleted) fun hf => by cases hf

theorem consistent_rollback (hs : Sound s) {retry : Nat} (hphase : h.phase = .rollback retry)
    (hcomplete : isBackupComplete (s.backups h.localId) = true) (hrolled : (s.history h.localId).rolledBack = false)
    (hnow : FailsForNow o)
    (hright : o.ret = .ok () → (s.backups h.localId).all fun b =>
      RestoresBefore (s.history h.localId).before (stored s.store h.localId) o.plugin b) :
    Consistent localNameMaxSize constraintsByType (proceed localNameMaxSize constraintsByType s h o) := by
  have hholds := (hs.quiet h.localId).copied hcomplete
  cases hbackup : s.backups h.localId with
  | none =>
      rw [hbackup] at hcomplete
      cases hcomplete
  | some b =>
      rw [hbackup] at hholds hright
      rw [proceed, hphase]
      dsimp only
      rw [hbackup, Option.getD_some]
      cases hrecord : rollbackRecord o s.store h.localId b with
      | error e => exact consistent_rollbackFailed hs hcomplete hrolled retry (rollbackRecord_error hholds hnow hrecord)
      | ok result =>
          obtain ⟨store, writes⟩ := result
          have hok : o.ret = .ok () := rollbackRecord_ret hrecord
          have hbefore : RestoresBefore (s.history h.localId).before (stored s.store h.localId) o.plugin b :=
            of_decide_eq_true (hright hok)
          obtain ⟨a, hid, hperform, hwrites, hof⟩ := rollbackRecord_ok hholds hbefore hrecord
          have hs' := hs.write hperform hid ((hs.quiet h.localId).write hcomplete hrolled _)
          exact hs'.inPhase (.rollingBack retry writes) ⟨hcomplete, hrolled, hwrites, hof⟩

theorem consistent_rollingBack (hs : Sound s) {retry : Nat} {writes : List Write}
    (hphase : h.phase = .rollingBack retry writes) (hcomplete : isBackupComplete (s.backups h.localId) = true)
    (hrolled : (s.history h.localId).rolledBack = false)
    (hbefore : writes.foldl Stored.write (stored s.store h.localId) = (s.history h.localId).before)
    (hof : ∀ w ∈ writes, w.Of h.localId) (hnow : FailsForNow o) :
    Consistent localNameMaxSize constraintsByType (proceed localNameMaxSize constraintsByType s h o) := by
  rw [proceed, hphase]
  cases writes with
  | nil => exact hs.inPhase (.deleteRolledBack (.ok ())) ⟨rfl, fun _ => hbefore⟩
  | cons w writes =>
      dsimp only
      cases hwrite : writeFile o.ret s.store h.localId w with
      | mk ret store =>
          cases ret with
          | error e =>
              obtain rfl := writeFile_error hwrite
              exact consistent_rollbackFailed hs hcomplete hrolled retry (writeFile_failsForNow hnow hwrite)
          | ok u =>
              have hperform := (writeFile_ok hwrite).2
              have hw := hof w List.mem_cons_self
              have hs' := hs.write hperform hw ((hs.quiet h.localId).write hcomplete hrolled w)
              have hstored : stored store h.localId = (stored s.store h.localId).write w := by
                rw [stored_perform hperform hw, if_pos rfl]
              refine hs'.inPhase (.rollingBack retry writes) ⟨hcomplete, hrolled, ?_, fun w' hw' => ?_⟩
              · rw [hstored]
                exact hbefore
              · exact hof w' (List.mem_cons_of_mem w hw')

theorem consistent_deleteRolledBack (hs : Sound s) (hphase : h.phase = .deleteRolledBack (.ok ()))
    (hbefore : isBackupComplete (s.backups h.localId) = true ∨ h.restores = true →
      stored s.store h.localId = (s.history h.localId).before) (hkeeps : KeepsWhole o (s.backups h.localId)) :
    Consistent localNameMaxSize constraintsByType (proceed localNameMaxSize constraintsByType s h o) := by
  have hdeleted := (hs.quiet h.localId).delete hkeeps (fun hcomplete => .inl (hbefore (.inl hcomplete)))
    fun hcomplete _ => hbefore (.inl hcomplete)
  rw [proceed, hphase]
  refine consistent_endRollback (hs.withBackup hdeleted) (fun _ hcomplete => ?_) fun hrestores _ =>
    hbefore (.inr hrestores)
  rw [setBackup_self] at hcomplete
  rw [deleteBackup_complete hkeeps hcomplete] at hcomplete
  exact hbefore (.inl hcomplete)

theorem Consistent.proceed (hs : Consistent localNameMaxSize constraintsByType s) (hh : s.holder = some h)
    (hcareful : Careful s h o) :
    Consistent localNameMaxSize constraintsByType (proceed localNameMaxSize constraintsByType s h o) := by
  have hheld := hs.held h hh
  rw [InPhase] at hheld
  rw [Careful] at hcareful
  cases hphase : h.phase with
  | deleteOld data =>
      rw [hphase] at hheld hcareful
      rw [RestoreRollback.proceed, hphase]
      exact consistent_deleteOld hs.toSound hheld hcareful.1 hcareful.2
  | createDir data =>
      rw [hphase] at hheld
      exact consistent_createDir hs.toSound hphase hheld
  | copy data =>
      rw [hphase] at hheld hcareful
      exact consistent_copy hs.toSound hphase hheld hcareful
  | writeComplete data =>
      rw [hphase] at hheld
      exact consistent_writeComplete hs.toSound hphase hheld.1 hheld.2
  | deleteIncomplete =>
      rw [hphase] at hheld hcareful
      exact consistent_deleteIncomplete hs.toSound hphase hheld hcareful
  | apply writes =>
      rw [hphase] at hheld
      obtain ⟨hcomplete, hrolled, hfailed, hafter, hof⟩ := hheld
      exact consistent_apply hs.toSound hphase hcomplete hrolled hfailed hafter hof
  | deleteBackup =>
      rw [hphase] at hheld hcareful
      exact consistent_deleteBackup hs.toSound hphase hheld.2.1 hheld.2.2 hcareful
  | rollback retry =>
      rw [hphase] at hheld hcareful
      exact consistent_rollback hs.toSound hphase hheld.1 hheld.2 hcareful.1 hcareful.2
  | rollingBack retry writes =>
      rw [hphase] at hheld hcareful
      obtain ⟨hcomplete, hrolled, hbefore, hof⟩ := hheld
      exact consistent_rollingBack hs.toSound hphase hcomplete hrolled hbefore hof hcareful
  | deleteRolledBack ret =>
      rw [hphase] at hheld hcareful
      obtain ⟨rfl, hbefore⟩ := hheld
      exact consistent_deleteRolledBack hs.toSound hphase hbefore hcareful

theorem Consistent.enter (localNameMaxSize : Nat) (hs : Consistent localNameMaxSize constraintsByType s) (n : Nat)
    (plugin : Plugin) :
    Consistent localNameMaxSize constraintsByType (enter localNameMaxSize s n plugin) := by
  rw [RestoreRollback.enter]
  split
  · have hs' : Sound { s with waiting := s.waiting.eraseIdx n } := ⟨hs.keyed, hs.quiet, hs.kept⟩
    split
    · exact consistent_leave hs' _
    · rename_i localId backupData _
      dsimp only
      split
      · exact consistent_leave hs' localId
      · rename_i currentInfo haccount
        split
        · exact consistent_leave hs' localId
        · split
          · exact consistent_leave hs' localId
          · rename_i backupInfo _
            exact hs'.inPhase (h := ⟨localId, true, .deleteOld ⟨backupInfo, currentInfo⟩⟩) _ haccount
    · exact consistent_startRollback hs' fun hrestores => by cases hrestores
  · exact hs

theorem Consistent.step (localNameMaxSize : Nat) (hs : Consistent localNameMaxSize constraintsByType s) (e : Event)
    (he : Allowed s e) :
    Consistent localNameMaxSize constraintsByType (step localNameMaxSize constraintsByType s e) := by
  cases e with
  | request r listed =>
      change Consistent localNameMaxSize constraintsByType (checkAndRecoverRestore s r listed)
      unfold checkAndRecoverRestore
      split
      · exact ⟨⟨hs.keyed, hs.quiet, hs.kept⟩, hs.held⟩
      · split
        · exact hs
        · exact ⟨⟨hs.keyed, hs.quiet, hs.kept⟩, hs.held⟩
  | recoverNext =>
      rw [RestoreRollback.step, recoverNext]
      split
      · exact hs
      · split
        · exact hs
        · split
          · exact ⟨⟨hs.keyed, hs.quiet, hs.kept⟩, hs.held⟩
          · split
            · exact ⟨⟨hs.keyed, hs.quiet, hs.kept⟩, hs.held⟩
            · exact ⟨⟨hs.keyed, hs.quiet, hs.kept⟩, hs.held⟩
  | claim n =>
      rw [RestoreRollback.step, claim]
      split
      · exact hs
      · dsimp only
        split
        · exact ⟨⟨hs.keyed, hs.quiet, hs.kept⟩, hs.held⟩
        · exact ⟨⟨hs.keyed, hs.quiet, hs.kept⟩, hs.held⟩
  | enter n plugin => exact hs.enter localNameMaxSize n plugin
  | act o =>
      rw [RestoreRollback.step]
      cases hh : s.holder with
      | none => exact hs
      | some h => exact hs.proceed hh (he h hh)
  | stop => exact ⟨⟨hs.keyed, hs.quiet, hs.kept⟩, fun _ hh => by cases hh⟩

theorem consistent_initial (hkeyed : Keyed store) : Consistent localNameMaxSize constraintsByType (initial store) := by
  refine ⟨⟨hkeyed, fun id => ?_, rfl⟩, fun _ hh => by cases hh⟩
  exact .of_before rfl (fun hcomplete => by cases hcomplete) fun _ hb => by cases hb

theorem Sound.atomic (hs : Sound s) : Atomic s := by
  refine ⟨fun _ id hnone => ?_, fun id hfailed hgone => ?_, hs.kept⟩
  · refine (hs.quiet id).settled ?_
    rw [hnone]
    rfl
  · cases hcomplete : isBackupComplete (s.backups id) with
    | false => exact (hs.quiet id).failed hfailed hcomplete
    | true =>
        rcases hgone with hnone | hrolled
        · rw [hnone] at hcomplete
          cases hcomplete
        · exact (hs.quiet id).rolledBack hrolled hcomplete

theorem keyed_of_tidy (h : DirectoryRules.Tidy store.directory) : Keyed store := by
  intro id a ha
  rw [stored] at ha
  dsimp only at ha
  cases hinfo : store.directory.accounts[id.toInt]? with
  | none =>
      rw [getOsAccountInfoById] at ha
      split at ha
      · cases ha
      · rename_i hsome
        cases hinfo.symm.trans hsome
  | some info =>
      rw [getOsAccountInfoById_some hinfo] at ha
      cases ha
      exact h.keyed _ _ hinfo

end invariant

/-- The accounts that any operations have produced are restored atomically in every run whose holders of
`backupMutex_` are careful. -/
theorem restore_atomic (maxOsAccountNum : Nat) (localName : String) (es : List AccountDirectory.Event)
    (localNameMaxSize : Nat) (constraintsByType : OsAccountType → List String) (store : Store)
    (hstore : store.directory = run (AccountDirectory.step maxOsAccountNum) (AccountDirectory.initial localName) es)
    (events : List Event) (h : Meets (step localNameMaxSize constraintsByType) Allowed (initial store) events) :
    Atomic (run (step localNameMaxSize constraintsByType) (initial store) events) := by
  have htidy : DirectoryRules.Tidy store.directory := by
    rw [hstore]
    exact Machine.run_invariant (fun _ e h => h.step maxOsAccountNum e)
      (DirectoryRules.Tidy.initial localName) es
  have hinitial : Consistent localNameMaxSize constraintsByType (initial store) :=
    consistent_initial (keyed_of_tidy htidy)
  have hrun : Consistent localNameMaxSize constraintsByType
      (run (step localNameMaxSize constraintsByType) (initial store) events) :=
    Machine.run_invariant_of_meets (fun _ e hs he => hs.step localNameMaxSize e he) hinitial h
  exact hrun.toSound.atomic

def photoStore : Store where
  directory := twoAccountsStore.directory
  rest n := { twoAccountsStore.rest n with photo := userPhotoFileTxtName }
  photos _ name := if name = userPhotoFileTxtName then some "old" else none
  baseConstraints _ := some []
  native := twoAccountsStore.native

def carol : TextFile :=
  ⟨some (buildBackupJson { localId := 101, localName := "carol", shortName := "al", type := .normal } {} "new"), 200⟩

def firstRestore : List Event :=
  [.request (.onRestore 101 carol) (.ok ()),
    .recoverNext, .enter 0 none, .act {}, .recoverNext, .enter 0 none, .act {}, .recoverNext, .enter 0 none, .act {},
    .recoverNext, .claim 0, .enter 0 none, .act {}, .act {}, .act {}, .act {}, .act {}]

def failedWrite : Event := .act { ret := .error .dataNoSpace }

instance (s : Service) (o : Outcome) : (h : Holder) → Decidable (Careful s h o)
  | ⟨localId, _, .deleteOld _⟩ => inferInstanceAs (Decidable (
      (isBackupComplete (s.backups localId) → (s.history localId).rolledBack) ∧ KeepsWhole o (s.backups localId)))
  | ⟨localId, _, .copy _⟩ => inferInstanceAs (Decidable (o.ret ≠ .ok () → isBackupComplete (s.backups localId) = false))
  | ⟨localId, _, .deleteIncomplete⟩ => inferInstanceAs (Decidable (KeepsWhole o (s.backups localId)))
  | ⟨localId, _, .deleteBackup⟩ => inferInstanceAs (Decidable (KeepsWhole o (s.backups localId)))
  | ⟨localId, _, .deleteRolledBack _⟩ => inferInstanceAs (Decidable (KeepsWhole o (s.backups localId)))
  | ⟨localId, _, .rollback _⟩ => inferInstanceAs (Decidable (
      FailsForNow o ∧ (o.ret = .ok () → (s.backups localId).all fun b =>
        RestoresBefore (s.history localId).before (stored s.store localId) o.plugin b)))
  | ⟨_, _, .rollingBack _ _⟩ => inferInstanceAs (Decidable (FailsForNow o))
  | ⟨_, _, .createDir _⟩ => .isTrue trivial
  | ⟨_, _, .writeComplete _⟩ => .isTrue trivial
  | ⟨_, _, .apply _⟩ => .isTrue trivial

instance (s : Service) : (e : Event) → Decidable (Allowed s e)
  | .act o => inferInstanceAs (Decidable (∀ h ∈ s.holder, Careful s h o))
  | .request _ _ => .isTrue trivial
  | .recoverNext => .isTrue trivial
  | .claim _ => .isTrue trivial
  | .enter _ _ => .isTrue trivial
  | .stop => .isTrue trivial

/-- A restore that fails after the photo, and is rolled back at the second attempt. -/
theorem restore_atomic_rolledBack :
    Atomic (run (step 256 fun _ => []) (initial photoStore)
      (firstRestore ++ [failedWrite, failedWrite, .act {}, .act {}, .act {}, .act {}, .act {}, .act {}])) :=
  restore_atomic 1000 "owner" twoAccounts 256 (fun _ => []) photoStore rfl
    (firstRestore ++ [failedWrite, failedWrite, .act {}, .act {}, .act {}, .act {}, .act {}, .act {}])
    (by decide +kernel)

/-- The record cannot be written by the first restore and by its rollback, and the directory of the backup cannot be
made by the second. -/
def twoRestores : Service :=
  run (step 256 fun _ => []) (initial photoStore)
    (firstRestore ++ [failedWrite, failedWrite, failedWrite, failedWrite] ++
      [.request (.onRestore 101 carol) (.ok ()), .claim 0, .enter 0 none, .act {}, failedWrite])

/-- The second restore deletes the backup that the first has left, and the photo of a failed restore stays. -/
theorem not_atomic_twoRestores :
    ¬Atomic twoRestores ∧ twoRestores.holder.isNone ∧
      ((getOsAccountLocalIds twoRestores.store).all fun id => (twoRestores.backups id).isNone) = true ∧
      (twoRestores.history 101).failed = true ∧
      (getOsAccountInfoById twoRestores.store 101).map (fun a => a.info.localName) = some "alice" ∧
      (stored photoStore 101).photo = some "old" ∧ (stored twoRestores.store 101).photo = some "new" := by
  refine ⟨fun hatomic => ?_, by decide +kernel, by decide +kernel, by decide +kernel, by decide +kernel,
    by decide +kernel, by decide +kernel⟩
  have hlost : twoRestores.lost = true := by decide +kernel
  cases hlost.symm.trans hatomic.kept

end OsAccount.RestoreRollback
