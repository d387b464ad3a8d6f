import OsAccount.ErrCode
import OsAccount.Machine

namespace OsAccount.FileTransaction

def retryTimes : Nat := 3

/-- A transaction on a file, with what the disk has of the file and of its temporary file. -/
structure Transaction where
  isOpenTransaction : Bool := false
  isWriteSuccessOnce : Bool := false
  writeLocked : Bool := false
  file : Option (List UInt8)
  tempFile : Option (List UInt8) := none

inductive WriteOutcome
  | notOpened (accessDenied : Bool)
  | partly (size : Nat)
  | modeNotChanged
  | written

inductive RenameOutcome
  | renamed
  | again
  | failed

structure EndFaults where
  statFails : Nat → Bool := fun _ => false
  renames : Nat → RenameOutcome := fun _ => .renamed
  removes : Nat → Bool := fun _ => true

def fileExists (statFails : Nat → Bool) (file : Option (List UInt8)) : Bool :=
  ((List.range retryTimes).findSome? fun i => if statFails i then none else some file.isSome).getD false

def writeFileTo (content : List UInt8) (outcome : WriteOutcome) (file : Option (List UInt8)) :
    Ret × Option (List UInt8) :=
  match outcome with
  | .notOpened accessDenied => (.error (if accessDenied then .fileAccessDenied else .fileOpenFailed), file)
  | .partly size => (.error .fileWriteFailed, some (content.take size))
  | .modeNotChanged => (.error .fileChangeDirModeError, some content)
  | .written => (.ok (), some content)

section members

variable (t : Transaction)

def beginWriteTransaction (folder : Option Ret) (opened : Bool) : Ret × Transaction :=
  if t.isOpenTransaction then (.error .fileTransactionFailed, t)
  else
    let t := { t with isOpenTransaction := true, writeLocked := true }
    let closed := { t with isOpenTransaction := false, writeLocked := false }
    match folder with
    | some (.error errCode) => (.error errCode, closed)
    | _ => if opened then (.ok (), { t with tempFile := some [] }) else (.error .fileOpenFailed, closed)

def forceUnlock : Transaction :=
  if t.isOpenTransaction then { t with writeLocked := false, isOpenTransaction := false } else t

def deleteTempFile (removes : Nat → Bool) : Ret × Transaction :=
  if (List.range (retryTimes + 1)).any fun i => removes i && t.tempFile.isSome then (.ok (), { t with tempFile := none })
  else (.error .fileDeleError, t)

def rollback (removes : Nat → Bool) : Ret × Transaction :=
  if !t.isOpenTransaction then (.ok (), t)
  else
    let deleted := deleteTempFile t removes
    (deleted.1, forceUnlock deleted.2)

def writeFile (content : List UInt8) (outcome : WriteOutcome) : Ret × Transaction :=
  if !t.isOpenTransaction then (.error .fileWriteFailed, t)
  else
    let written := writeFileTo content outcome t.tempFile
    match written.1 with
    | .error _ => (.error .fileWriteFailed, { t with tempFile := written.2 })
    | .ok () => (.ok (), { t with tempFile := written.2, isWriteSuccessOnce := true })

def renamed (renames : Nat → RenameOutcome) : Bool :=
  ((List.range (retryTimes + 1)).findSome? fun i =>
    match renames i with
    | .renamed => some true
    | .failed => some false
    | .again => none).getD false

def swapFileNames (faults : EndFaults) : Ret × Transaction :=
  if !fileExists faults.statFails t.tempFile then (.error .fileNotExist, t)
  else if renamed faults.renames then (.ok (), { t with file := t.tempFile, tempFile := none })
  else (.error .fileSwapFailed, t)

def endTransaction (faults : EndFaults) : Ret × Transaction :=
  if !t.isOpenTransaction then (.ok (), t)
  else if t.isWriteSuccessOnce then
    let swapped := swapFileNames t faults
    (swapped.1, forceUnlock swapped.2)
  else (.ok (), (rollback t faults.removes).2)

end members

inductive Operation
  | beginWriteTransaction (folder : Option Ret) (opened : Bool)
  | writeFile (content : List UInt8) (outcome : WriteOutcome)
  | rollback (removes : Nat → Bool)
  | endTransaction (faults : EndFaults)

def call (t : Transaction) : Operation → Ret × Transaction
  | .beginWriteTransaction folder opened => beginWriteTransaction t folder opened
  | .writeFile content outcome => writeFile t content outcome
  | .rollback removes => rollback t removes
  | .endTransaction faults => endTransaction t faults

structure Traced where
  transaction : Transaction
  lastWrite : Option (List UInt8) := none

def lastWriteAfter (s : Traced) : Operation → Ret → Option (List UInt8)
  | .beginWriteTransaction _ _, .error _ => s.lastWrite
  | .writeFile content _, .ok () => some content
  | .writeFile _ _, .error _ => if s.transaction.isOpenTransaction then none else s.lastWrite
  | _, _ => none

def note (s : Traced) (op : Operation) : Traced where
  transaction := (call s.transaction op).2
  lastWrite := lastWriteAfter s op (call s.transaction op).1

/-- Only an end that succeeds changes the file, to what the last write of the round has
written; the lock is held while the transaction is open. -/
structure Atomic (s : Traced) (op : Operation) : Prop where
  kept : ((∀ faults, op ≠ .endTransaction faults) ∨ (call s.transaction op).1 ≠ .ok ()) →
    (note s op).transaction.file = s.transaction.file
  ended : ∀ faults, op = .endTransaction faults → (call s.transaction op).1 = .ok () →
    (note s op).transaction.file = s.lastWrite.or s.transaction.file
  locked : (note s op).transaction.writeLocked = (note s op).transaction.isOpenTransaction

/-- After a write of any round has succeeded, no round ends with the renaming of the temporary file
unless its last write has succeeded, or the file does not differ. -/
def Harmless (s : Traced) : Operation → Prop
  | .endTransaction faults =>
      s.transaction.isOpenTransaction = true → s.transaction.isWriteSuccessOnce = true →
        (swapFileNames s.transaction faults).1 = .ok () →
          s.lastWrite ≠ none ∨ s.transaction.tempFile = s.transaction.file
  | _ => True

structure Consistent (s : Traced) : Prop where
  locked : s.transaction.writeLocked = s.transaction.isOpenTransaction
  written : ∀ content, s.lastWrite = some content → s.transaction.isOpenTransaction = true ∧
    s.transaction.isWriteSuccessOnce = true ∧ s.transaction.tempFile = some content

section members

variable {t : Transaction}

theorem forceUnlock_of_open (h : t.isOpenTransaction = true) :
    forceUnlock t = { t with writeLocked := false, isOpenTransaction := false } := by
  unfold forceUnlock
  rw [if_pos h]

theorem deleteTempFile_spec (t : Transaction) (removes : Nat → Bool) :
    ∃ tempFile, (deleteTempFile t removes).2 = { t with tempFile } := by
  unfold deleteTempFile
  split
  · exact ⟨none, rfl⟩
  · exact ⟨t.tempFile, rfl⟩

theorem rollback_spec (removes : Nat → Bool) (h : t.isOpenTransaction = true) :
    ∃ tempFile, (rollback t removes).2 = { t with tempFile, writeLocked := false, isOpenTransaction := false } := by
  unfold rollback
  obtain ⟨tempFile, hdeleted⟩ := deleteTempFile_spec t removes
  refine ⟨tempFile, ?_⟩
  rw [h]
  dsimp only
  rw [Bool.not_true, if_neg Bool.false_ne_true, hdeleted]
  exact forceUnlock_of_open h

theorem swapFileNames_ok {faults : EndFaults} (h : (swapFileNames t faults).1 = .ok ()) :
    (swapFileNames t faults).2 = { t with file := t.tempFile, tempFile := none } := by
  unfold swapFileNames at h ⊢
  split at h
  · cases h
  split at h
  · next hexists hrenamed => rw [if_neg hexists, if_pos hrenamed]
  · cases h

theorem swapFileNames_error {faults : EndFaults} {e : ErrCode} (h : (swapFileNames t faults).1 = .error e) :
    (swapFileNames t faults).2 = t := by
  unfold swapFileNames at h ⊢
  split at h
  · next hexists => rw [if_pos hexists]
  split at h
  · cases h
  · next hexists hrenamed => rw [if_neg hexists, if_neg hrenamed]

theorem endTransaction_spec (faults : EndFaults) (h : t.isOpenTransaction = true) : ∃ tempFile,
    (endTransaction t faults).2 = { t with
      file := if t.isWriteSuccessOnce = true ∧ (swapFileNames t faults).1 = .ok () then t.tempFile else t.file
      tempFile, writeLocked := false, isOpenTransaction := false } ∧
    ((endTransaction t faults).1 = .ok () ↔ (t.isWriteSuccessOnce = true → (swapFileNames t faults).1 = .ok ())) := by
  unfold endTransaction
  rw [h, Bool.not_true, if_neg Bool.false_ne_true]
  by_cases honce : t.isWriteSuccessOnce = true
  · rw [if_pos honce]
    dsimp only
    cases hswap : (swapFileNames t faults).1 with
    | ok u =>
        refine ⟨none, ?_, iff_of_true rfl fun _ => rfl⟩
        rw [swapFileNames_ok hswap, if_pos ⟨honce, rfl⟩]
        exact forceUnlock_of_open h
    | error e =>
        refine ⟨t.tempFile, ?_, iff_of_false nofun fun himp => nomatch himp honce⟩
        rw [swapFileNames_error hswap, forceUnlock_of_open h, if_neg fun hand => nomatch hand.2]
  · obtain ⟨tempFile, hrollback⟩ := rollback_spec faults.removes h
    refine ⟨tempFile, ?_, ?_⟩
    · rw [if_neg honce, hrollback, if_neg fun hand => honce hand.1]
    · rw [if_neg honce]
      exact iff_of_true rfl fun hand => (honce hand).elim

theorem beginWriteTransaction_spec (folder : Option Ret) (opened : Bool)
    (hlocked : t.writeLocked = t.isOpenTransaction) :
    (beginWriteTransaction t folder opened = (.ok (), { t with
      isOpenTransaction := true, writeLocked := true, tempFile := some [] }) ∧ t.isOpenTransaction = false) ∨
    ∃ e, beginWriteTransaction t folder opened = (.error e, t) := by
  unfold beginWriteTransaction
  by_cases hopen : t.isOpenTransaction = true
  · rw [if_pos hopen]
    exact .inr ⟨_, rfl⟩
  · rw [if_neg hopen]
    rw [Bool.not_eq_true] at hopen
    have hclosed : { t with isOpenTransaction := false, writeLocked := false } = t := by
      cases t with
      | mk isOpen once locked file tempFile =>
          dsimp only at hopen hlocked
          rw [hlocked, hopen]
    dsimp only
    rw [hclosed]
    have hopened : ∀ r : Ret × Transaction, r = (if opened = true then (.ok (), { t with
        isOpenTransaction := true, writeLocked := true, tempFile := some [] }) else (.error .fileOpenFailed, t)) →
        (r = (.ok (), { t with isOpenTransaction := true, writeLocked := true, tempFile := some [] }) ∧
          t.isOpenTransaction = false) ∨ ∃ e, r = (.error e, t) := by
      rintro r rfl
      split
      · exact .inl ⟨rfl, hopen⟩
      · exact .inr ⟨_, rfl⟩
    cases folder with
    | none => exact hopened _ rfl
    | some r =>
        cases r with
        | error e => exact .inr ⟨e, rfl⟩
        | ok u => exact hopened _ rfl

theorem writeFile_spec (content : List UInt8) (outcome : WriteOutcome) (h : t.isOpenTransaction = true) :
    ((writeFile t content outcome).1 = .ok () ∧
      (writeFile t content outcome).2 = { t with tempFile := some content, isWriteSuccessOnce := true }) ∨
    ((writeFile t content outcome).1 = .error .fileWriteFailed ∧
      ∃ tempFile, (writeFile t content outcome).2 = { t with tempFile }) := by
  unfold writeFile
  rw [h, Bool.not_true, if_neg Bool.false_ne_true]
  cases outcome with
  | written => exact .inl ⟨rfl, rfl⟩
  | notOpened accessDenied => exact .inr ⟨rfl, t.tempFile, rfl⟩
  | partly size => exact .inr ⟨rfl, some (content.take size), rfl⟩
  | modeNotChanged => exact .inr ⟨rfl, some content, rfl⟩

end members

section steps

variable {s : Traced}

theorem Consistent.lastWrite_closed (h : Consistent s) (hclosed : s.transaction.isOpenTransaction = false) :
    s.lastWrite = none := by
  cases hlast : s.lastWrite with
  | none => rfl
  | some content =>
      have hopen := (h.written content hlast).1
      rw [hclosed] at hopen
      cases hopen

theorem note_of_call (s : Traced) (op : Operation) {r : Ret} {t : Transaction} (h : call s.transaction op = (r, t)) :
    note s op = ⟨t, lastWriteAfter s op r⟩ := by
  unfold note
  rw [h]

theorem atomic_of_kept {op : Operation} (hend : ∀ faults, op ≠ .endTransaction faults)
    (hfile : (note s op).transaction.file = s.transaction.file)
    (hlocked : (note s op).transaction.writeLocked = (note s op).transaction.isOpenTransaction) : Atomic s op :=
  ⟨fun _ => hfile, fun faults he => (hend faults he).elim, hlocked⟩

theorem begin_step (folder : Option Ret) (opened : Bool) (h : Consistent s) :
    Consistent (note s (.beginWriteTransaction folder opened)) ∧ Atomic s (.beginWriteTransaction folder opened) := by
  have hend : ∀ faults, Operation.beginWriteTransaction folder opened ≠ .endTransaction faults := nofun
  rcases beginWriteTransaction_spec folder opened h.locked with ⟨hbegin, -⟩ | ⟨e, hbegin⟩
  · have hnote : note s (.beginWriteTransaction folder opened) = ⟨{ s.transaction with
        isOpenTransaction := true, writeLocked := true, tempFile := some [] }, none⟩ :=
          note_of_call s (.beginWriteTransaction folder opened) hbegin
    refine ⟨?_, atomic_of_kept hend (by rw [hnote]) (by rw [hnote])⟩
    rw [hnote]
    exact ⟨rfl, nofun⟩
  · have hnote : note s (.beginWriteTransaction folder opened) = s :=
      note_of_call s (.beginWriteTransaction folder opened) hbegin
    refine ⟨?_, atomic_of_kept hend (by rw [hnote]) ?_⟩
    · rw [hnote]
      exact h
    · rw [hnote]
      exact h.locked

theorem write_step (content : List UInt8) (outcome : WriteOutcome) (h : Consistent s) :
    Consistent (note s (.writeFile content outcome)) ∧ Atomic s (.writeFile content outcome) := by
  have hend : ∀ faults, Operation.writeFile content outcome ≠ .endTransaction faults := nofun
  by_cases hopen : s.transaction.isOpenTransaction = true
  · have hlocked : s.transaction.writeLocked = s.transaction.isOpenTransaction := h.locked
    rcases writeFile_spec content outcome hopen with ⟨hok, hwrite⟩ | ⟨herror, tempFile, hwrite⟩
    · have hnote : note s (.writeFile content outcome) =
          ⟨{ s.transaction with tempFile := some content, isWriteSuccessOnce := true }, some content⟩ :=
        note_of_call s (.writeFile content outcome) (Prod.ext hok hwrite)
      refine ⟨?_, atomic_of_kept hend (by rw [hnote]) ?_⟩
      · rw [hnote]
        refine ⟨hlocked, ?_⟩
        rintro _ ⟨⟩
        exact ⟨hopen, rfl, rfl⟩
      · rw [hnote]
        exact hlocked
    · have hnote : note s (.writeFile content outcome) = ⟨{ s.transaction with tempFile }, none⟩ := by
        rw [note_of_call s (.writeFile content outcome) (Prod.ext herror hwrite)]
        unfold lastWriteAfter
        dsimp only
        rw [if_pos hopen]
      refine ⟨?_, atomic_of_kept hend (by rw [hnote]) ?_⟩
      · rw [hnote]
        exact ⟨hlocked, nofun⟩
      · rw [hnote]
        exact hlocked
  · have hnote : note s (.writeFile content outcome) = s := by
      have hclosed : (!s.transaction.isOpenTransaction) = true := by
        rw [Bool.not_eq_true] at hopen
        rw [hopen]
        rfl
      have hcall : call s.transaction (.writeFile content outcome) =
          (.error .fileWriteFailed, s.transaction) := if_pos hclosed
      rw [note_of_call s _ hcall]
      unfold lastWriteAfter
      dsimp only
      rw [if_neg hopen]
    refine ⟨?_, atomic_of_kept hend (by rw [hnote]) ?_⟩
    · rw [hnote]
      exact h
    · rw [hnote]
      exact h.locked

theorem rollback_step (removes : Nat → Bool) (h : Consistent s) :
    Consistent (note s (.rollback removes)) ∧ Atomic s (.rollback removes) := by
  have hend : ∀ faults, Operation.rollback removes ≠ .endTransaction faults := nofun
  by_cases hopen : s.transaction.isOpenTransaction = true
  · obtain ⟨tempFile, hrollback⟩ := rollback_spec removes hopen
    have hnote : note s (.rollback removes) =
        ⟨{ s.transaction with tempFile, writeLocked := false, isOpenTransaction := false }, none⟩ :=
      note_of_call s (.rollback removes) (Prod.ext rfl hrollback)
    refine ⟨?_, atomic_of_kept hend (by rw [hnote]) (by rw [hnote])⟩
    rw [hnote]
    exact ⟨rfl, nofun⟩
  · rw [Bool.not_eq_true] at hopen
    have hlast := h.lastWrite_closed hopen
    have hcall : call s.transaction (.rollback removes) = (.ok (), s.transaction) :=
      if_pos (by rw [hopen, Bool.not_false])
    have hnote : note s (.rollback removes) = s := by
      rw [note_of_call s _ hcall]
      cases s with
      | mk transaction lastWrite =>
          dsimp only at hlast
          rw [hlast]
          rfl
    refine ⟨?_, atomic_of_kept hend (by rw [hnote]) ?_⟩
    · rw [hnote]
      exact h
    · rw [hnote]
      exact h.locked

theorem end_step (faults : EndFaults) (h : Consistent s) :
    Consistent (note s (.endTransaction faults)) ∧
      (Atomic s (.endTransaction faults) ↔ Harmless s (.endTransaction faults)) := by
  by_cases hopen : s.transaction.isOpenTransaction = true
  · obtain ⟨tempFile, hend, hresult⟩ := endTransaction_spec faults hopen
    have hnote : (note s (.endTransaction faults)).transaction = _ := hend
    have hlast : (note s (.endTransaction faults)).lastWrite = none := rfl
    have hconsistent : Consistent (note s (.endTransaction faults)) := by
      refine ⟨?_, fun content hwritten => ?_⟩
      · rw [hnote]
      · rw [hlast] at hwritten
        cases hwritten
    refine ⟨hconsistent, fun hatomic _ honce hswap => ?_, fun hharmless => ⟨?_, ?_, hconsistent.locked⟩⟩
    · have hfile := hatomic.ended faults rfl (hresult.mpr fun _ => hswap)
      rw [hnote] at hfile
      dsimp only at hfile
      rw [if_pos ⟨honce, hswap⟩] at hfile
      cases hwritten : s.lastWrite with
      | none =>
          rw [hwritten] at hfile
          exact .inr hfile
      | some content => exact .inl nofun
    · rintro (hne | hfailed)
      · exact (hne faults rfl).elim
      · rw [hnote]
        exact if_neg fun hand => hfailed (hresult.mpr fun _ => hand.2)
    · rintro faults' ⟨⟩ hok
      have hok' := hresult.mp hok
      rw [hnote]
      dsimp only
      cases hwritten : s.lastWrite with
      | none =>
          split
          · next hand => exact (hharmless hopen hand.1 hand.2).resolve_left fun hne => hne hwritten
          · rfl
      | some content =>
          obtain ⟨-, honce, htemp⟩ := h.written content hwritten
          rw [if_pos ⟨honce, hok' honce⟩]
          exact htemp
  · rw [Bool.not_eq_true] at hopen
    have hlast := h.lastWrite_closed hopen
    have hcall : call s.transaction (.endTransaction faults) = (.ok (), s.transaction) :=
      if_pos (by rw [hopen, Bool.not_false])
    have hnote : note s (.endTransaction faults) = s := by
      rw [note_of_call s _ hcall]
      cases s with
      | mk transaction lastWrite =>
          dsimp only at hlast
          rw [hlast]
          rfl
    refine ⟨?_, iff_of_true ⟨fun _ => by rw [hnote], fun faults' _ _ => ?_, ?_⟩ fun hopen' => ?_⟩
    · rw [hnote]
      exact h
    · rw [hnote, hlast]
      rfl
    · rw [hnote]
      exact h.locked
    · rw [hopen] at hopen'
      cases hopen'

theorem step_spec (op : Operation) (h : Consistent s) : Consistent (note s op) ∧ (Atomic s op ↔ Harmless s op) := by
  cases op with
  | beginWriteTransaction folder opened =>
      obtain ⟨hconsistent, hatomic⟩ := begin_step folder opened h
      exact ⟨hconsistent, iff_of_true hatomic trivial⟩
  | writeFile content outcome =>
      obtain ⟨hconsistent, hatomic⟩ := write_step content outcome h
      exact ⟨hconsistent, iff_of_true hatomic trivial⟩
  | rollback removes =>
      obtain ⟨hconsistent, hatomic⟩ := rollback_step removes h
      exact ⟨hconsistent, iff_of_true hatomic trivial⟩
  | endTransaction faults => exact end_step faults h

end steps

/-- A transaction object is atomic along a run if and only if no round ends after a write
of it has failed, or without one, once a write of an earlier round has succeeded. -/
theorem atomic_run_iff (file : Option (List UInt8)) (ops : List Operation) :
    Machine.Meets note Atomic ⟨{ file }, none⟩ ops ↔ Machine.Meets note Harmless ⟨{ file }, none⟩ ops := by
  have hstart : Consistent ⟨{ file }, none⟩ := ⟨rfl, nofun⟩
  have hstep : ∀ s op, Consistent s → Consistent (note s op) := fun s op h => (step_spec op h).1
  constructor
  · exact fun h => h.imp_of_invariant hstep (fun s op hs hop => (step_spec op hs).2.mp hop) hstart
  · exact fun h => h.imp_of_invariant hstep (fun s op hs hop => (step_spec op hs).2.mpr hop) hstart

/-- A round without a write and one with a failing write lose the file. -/
theorem not_atomic_secondRound :
    ¬Machine.Meets note Atomic ⟨{ file := some [1] }, none⟩
      [.beginWriteTransaction none true, .writeFile [2] .written, .endTransaction {},
        .beginWriteTransaction none true, .endTransaction {}] ∧
    ¬Machine.Meets note Atomic ⟨{ file := some [1] }, none⟩
      [.beginWriteTransaction none true, .writeFile [2] .written, .writeFile [3, 4] (.partly 1),
        .endTransaction {}] := by
  refine ⟨fun h => ?_, fun h => ?_⟩
  · obtain ⟨-, -, -, -, hlast, -⟩ := h
    exact absurd (hlast.ended {} rfl rfl) (by decide)
  · obtain ⟨-, -, -, hlast, -⟩ := h
    exact absurd (hlast.ended {} rfl rfl) (by decide)

end OsAccount.FileTransaction
