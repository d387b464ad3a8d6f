import OsAccount.Machine
import Mathlib.Data.List.Infix
import Mathlib.Logic.Function.Basic

namespace OsAccount.TamperDetection

open Function

def fileWatcherLimit : Nat := 1024 * 100

def accountInfoDigestFilePath : String := "account_info_digest.json"

def Finds (fileName pattern : String) : Prop := pattern.toList <:+: fileName.toList

instance (fileName pattern : String) : Decidable (Finds fileName pattern) :=
  inferInstanceAs (Decidable (_ <:+: _))

def Under (dir fileName : String) : Prop := dir.toList ++ ['/'] <+: fileName.toList

instance (dir fileName : String) : Decidable (Under dir fileName) := inferInstanceAs (Decidable (_ <+: _))

structure FileWatcher where
  id : Int
  filePath : String
deriving DecidableEq

/-- The files with the watch descriptors of their inodes, the events of the kernel, those that
are read and wait for their callback, the flags, and what has been reported and recovered. The
last two fields only keep account: of the files that the service has deleted since they were created,
with whether the call succeeded, until an event of the file is handled; and of the paths of its calls that
succeeded, until an event of the path is handled. -/
structure State where
  files : List (String × Option Nat)
  nextWd : Nat := 0
  queue : List Nat := []
  fileNameMgrMap : List (Nat × FileWatcher) := []
  eventMap : List FileWatcher := []
  validDeleteFileOperationFlag : List String := []
  validModifyFileOperationFlag : List String := []
  reports : List String := []
  recoveries : List String := []
  unmatched : String → Option Bool := fun _ => none
  undelivered : String → Bool := fun _ => false

inductive Operation
  | deleteFile (path : String)
  /-- Where it fails, some of the files are gone. -/
  | deleteDir (path : String) (removed : List String) (complete : Bool)
  | createFile (path : String)
  | addFileWatcher (id : Int) (path : String)
  | outsiderDelete (path : String)
  | readEvents (count : Nat)
  /-- The callback of the next event that was read. `first` is the descriptor that the loop over the unordered map
  meets first; `recovers` is whether the recovery writes the file. -/
  | checkNotifyEvent (first : Nat) (recovers : Bool)

namespace State

def setValidModifyFileOperationFlag (s : State) (fileName : String) (flag : Bool) : State :=
  if Finds fileName accountInfoDigestFilePath then s
  else if flag = false then
    { s with validModifyFileOperationFlag := s.validModifyFileOperationFlag.filter (· ≠ fileName) }
  else if fileName ∈ s.validModifyFileOperationFlag then s
  else { s with validModifyFileOperationFlag := s.validModifyFileOperationFlag ++ [fileName] }

def setValidDeleteFileOperationFlag (s : State) (fileName : String) (flag : Bool) : State :=
  if flag = false then
    { s with validDeleteFileOperationFlag := s.validDeleteFileOperationFlag.filter (· ≠ fileName) }
  else { s with validDeleteFileOperationFlag := s.validDeleteFileOperationFlag ++ [fileName] }

def getValidModifyFileOperationFlag (s : State) (fileName : String) : Bool :=
  s.validModifyFileOperationFlag.any (· == fileName)

def getValidDeleteFileOperationFlag (s : State) (fileName : String) : Bool :=
  s.validDeleteFileOperationFlag.any fun flag => decide (Finds fileName flag)

def setInode (s : State) (path : String) (wd : Option Nat) : State :=
  { s with files := (path, wd) :: s.files.filter fun e => e.1 ≠ path }

def unlink (s : State) (path : String) : State :=
  match s.files.lookup path with
  | none => s
  | some wd => { s with files := s.files.filter (fun e => e.1 ≠ path), queue := s.queue ++ wd.toList }

def renameOver (s : State) (path : String) : State :=
  { (s.unlink path).setInode path none with unmatched := update s.unmatched path none }

def inputFileByPathAndContent (s : State) (path : String) : State :=
  (s.setValidModifyFileOperationFlag path true).renameOver path

/-- `inotify_add_watch`: an inode that is watched keeps its descriptor. -/
def startNotify (s : State) (path : String) : Option (Nat × State) :=
  match s.files.lookup path with
  | none => none
  | some (some wd) => some (wd, s)
  | some none => some (s.nextWd, { s.setInode path (some s.nextWd) with nextWd := s.nextWd + 1 })

def addFileWatcher (s : State) (id : Int) (filePath : String) : State :=
  if fileWatcherLimit < s.fileNameMgrMap.length then s
  else match s.startNotify filePath with
    | none => s
    | some (wd, s') =>
        { s' with fileNameMgrMap := (wd, ⟨id, filePath⟩) :: s'.fileNameMgrMap.filter fun e => e.1 ≠ wd }
          |>.setValidModifyFileOperationFlag filePath false

def closeNotify (s : State) (wd : Nat) (filePath : String) : State :=
  if s.files.lookup filePath = some (some wd) then s.setInode filePath none else s

def removeFileWatcher (s : State) (first : Nat) (id : Int) (filePath : String) : State :=
  let found := s.fileNameMgrMap.filter fun e => e.2 = ⟨id, filePath⟩
  match (found.find? fun e => e.1 = first).or found.head? with
  | none => s
  | some (wd, _) =>
      { s.closeNotify wd filePath with fileNameMgrMap := s.fileNameMgrMap.filter fun e => e.1 ≠ wd }

def rebuildFileWatcher (s : State) (id : Int) (filePath : String) : State :=
  let closed := (s.fileNameMgrMap.filter fun e => e.2 = ⟨id, filePath⟩).foldl
    (fun s e => s.closeNotify e.1 filePath) s
  let s := { closed with fileNameMgrMap := s.fileNameMgrMap.filter fun e => e.2 ≠ ⟨id, filePath⟩ }
  if fileWatcherLimit < s.fileNameMgrMap.length then s
  else match s.startNotify filePath with
    | none => s
    | some (wd, s') =>
        { s' with fileNameMgrMap := (wd, ⟨id, filePath⟩) :: s'.fileNameMgrMap.filter fun e => e.1 ≠ wd }

def dealRenameEvent (s : State) (fileName : String) (id : Int) : Bool × State :=
  if s.getValidModifyFileOperationFlag fileName = false then (false, s)
  else (true, (s.setValidModifyFileOperationFlag fileName false).rebuildFileWatcher id fileName)

def recoverAccountData (s : State) (fileName : String) (recovers : Bool) : State :=
  let s := if recovers then s.inputFileByPathAndContent fileName else s
  { s with recoveries := s.recoveries ++ [fileName] }

def dealWithFileDeleteEvent (s : State) (first : Nat) (recovers : Bool) (fileName : String) (id : Int) : State :=
  if s.getValidDeleteFileOperationFlag fileName then
    (s.setValidDeleteFileOperationFlag fileName false).removeFileWatcher first id fileName
  else
    match s.dealRenameEvent fileName id with
    | (true, s) => s
    | (false, s) =>
        ({ s with reports := s.reports ++ [fileName] }.recoverAccountData fileName recovers).addFileWatcher id fileName

def deleted (s : State) (path : String) (complete : Bool) : State :=
  match s.files.lookup path with
  | none => s
  | some _ => { s.unlink path with unmatched := update s.unmatched path (some complete) }

def succeeded (s : State) (path : String) : State :=
  { s.setValidDeleteFileOperationFlag path true with undelivered := update s.undelivered path true }

def matched (s : State) (fileName : String) : State :=
  { s with
    unmatched := update s.unmatched fileName none
    undelivered := update s.undelivered fileName false }

end State

section steps

variable (isDirectory : String → Bool)

/-- `isDirectory` is the layout: which paths are those of directories. -/
def step (s : State) : Operation → State
  | .deleteFile path =>
      match s.files.lookup path with
      | none => s
      | some _ => (s.deleted path true).succeeded path
  | .deleteDir path removed complete =>
      if isDirectory path = false then s
      else
        let gone := (removed ++ if complete then s.files.map Prod.fst else []).filter fun f => Under path f
        let s := gone.foldl (fun s f => s.deleted f complete) s
        if complete then s.succeeded path else s
  | .createFile path =>
      if isDirectory path ∨ (s.files.lookup path).isSome then s else s.inputFileByPathAndContent path
  | .addFileWatcher id path => s.addFileWatcher id path
  | .outsiderDelete path => s.unlink path
  | .readEvents count =>
      match s.eventMap with
      | [] =>
          { s with
            queue := s.queue.drop count
            eventMap := (s.queue.take count).filterMap fun wd => s.fileNameMgrMap.lookup wd }
      | _ :: _ => s
  | .checkNotifyEvent first recovers =>
      match s.eventMap with
      | [] => s
      | w :: eventMap =>
          ({ s with eventMap }.dealWithFileDeleteEvent first recovers w.filePath w.id).matched w.filePath

def initial (present : List String) : State :=
  { files := (present.filter fun f => !isDirectory f).map fun f => (f, none) }

/-- An event counts as legitimate if and only if the service has deleted its file since the file was
created, and no event has been matched with that. -/
def Truthful (s : State) : Operation → Prop
  | op@(.checkNotifyEvent _ _) =>
      ∀ w ∈ s.eventMap.head?,
        ((step isDirectory s op).reports = s.reports ∧ (step isDirectory s op).recoveries = s.recoveries ↔
          (s.unmatched w.filePath).isSome)
  | _ => True

instance (s : State) : (op : Operation) → Decidable (Truthful isDirectory s op)
  | .checkNotifyEvent _ _ => inferInstanceAs (Decidable (∀ w ∈ s.eventMap.head?, _))
  | .deleteFile _ | .deleteDir _ _ _ | .createFile _ | .addFileWatcher _ _ | .outsiderDelete _ | .readEvents _ =>
      .isTrue trivial

/-- A path that the service has deleted, with no event of its own since, is part of the name. -/
def Pending (s : State) (fileName : String) : Prop := ∃ path, s.undelivered path ∧ Finds fileName path

/-- An event of a file that the service has not deleted comes when no deleted path that is part
of its name is pending and the service is not writing it. -/
def Harmless (s : State) : Operation → Prop
  | .checkNotifyEvent _ _ =>
      ∀ w ∈ s.eventMap.head?,
        match s.unmatched w.filePath with
        | none => ¬Pending s w.filePath ∧ w.filePath ∉ s.validModifyFileOperationFlag
        | some false => Pending s w.filePath ∨ w.filePath ∈ s.validModifyFileOperationFlag
        | some true => True
  | _ => True

end steps

section frames

def State.account (s : State) :
    List String × (String → Option Bool) × (String → Bool) × List String × List String :=
  (s.validDeleteFileOperationFlag, s.unmatched, s.undelivered, s.reports, s.recoveries)

variable (s : State)

theorem account_setValidModifyFileOperationFlag (fileName : String) (flag : Bool) :
    (s.setValidModifyFileOperationFlag fileName flag).account = s.account := by
  rw [State.setValidModifyFileOperationFlag]
  split_ifs <;> rfl

variable (path : String)

theorem account_unlink : (s.unlink path).account = s.account := by
  rw [State.unlink]
  cases s.files.lookup path <;> rfl

theorem account_renameOver :
    (s.renameOver path).account =
      (s.validDeleteFileOperationFlag, update s.unmatched path none, s.undelivered, s.reports,
        s.recoveries) := by
  rw [State.renameOver, State.unlink]
  cases s.files.lookup path <;> rfl

theorem account_inputFileByPathAndContent :
    (s.inputFileByPathAndContent path).account =
      (s.validDeleteFileOperationFlag, update s.unmatched path none, s.undelivered, s.reports,
        s.recoveries) := by
  have h := account_setValidModifyFileOperationFlag s path true
  simp only [State.account, Prod.mk.injEq] at h
  obtain ⟨hflags, hunmatched, hundelivered, hreports, hrecoveries⟩ := h
  rw [State.inputFileByPathAndContent, account_renameOver, hflags, hunmatched, hundelivered,
    hreports, hrecoveries]

theorem account_startNotify {path : String} {wd : Nat} {s' : State} (h : s.startNotify path = some (wd, s')) :
    s'.account = s.account := by
  rw [State.startNotify] at h
  split at h <;> cases h <;> rfl

variable (filePath : String)

theorem account_addFileWatcher (id : Int) (filePath : String) :
    (s.addFileWatcher id filePath).account = s.account := by
  rw [State.addFileWatcher]
  split_ifs with hlimit
  · rfl
  · cases h : s.startNotify filePath with
    | none => rfl
    | some r =>
        have hr : r.2.account = s.account := account_startNotify s h
        exact (account_setValidModifyFileOperationFlag _ _ _).trans hr

theorem account_closeNotify (wd : Nat) (filePath : String) : (s.closeNotify wd filePath).account = s.account := by
  rw [State.closeNotify]
  split_ifs <;> rfl

theorem account_removeFileWatcher (first : Nat) (id : Int) (filePath : String) :
    (s.removeFileWatcher first id filePath).account = s.account := by
  rw [State.removeFileWatcher]
  dsimp only
  split
  · rfl
  · exact account_closeNotify s _ _

theorem account_closeAll (es : List (Nat × FileWatcher)) :
    (es.foldl (fun s e => s.closeNotify e.1 filePath) s).account = s.account := by
  induction es generalizing s with
  | nil => rfl
  | cons e es ih => exact (ih _).trans (account_closeNotify s e.1 filePath)

theorem account_rebuildFileWatcher (id : Int) (filePath : String) :
    (s.rebuildFileWatcher id filePath).account = s.account := by
  have hclosed := account_closeAll s filePath (s.fileNameMgrMap.filter fun e => e.2 = ⟨id, filePath⟩)
  rw [State.rebuildFileWatcher]
  dsimp only
  split_ifs with hlimit
  · exact hclosed
  · split
    · exact hclosed
    · next h => exact (account_startNotify _ h).trans hclosed

theorem account_dealWithFileDeleteEvent (first : Nat) (recovers : Bool) (fileName : String) (id : Int) :
    (s.dealWithFileDeleteEvent first recovers fileName id).account =
      if s.getValidDeleteFileOperationFlag fileName then
        (s.validDeleteFileOperationFlag.filter (· ≠ fileName), s.unmatched, s.undelivered, s.reports, s.recoveries)
      else if s.getValidModifyFileOperationFlag fileName then s.account
      else
        (s.validDeleteFileOperationFlag,
          if recovers then update s.unmatched fileName none else s.unmatched, s.undelivered,
          s.reports ++ [fileName], s.recoveries ++ [fileName]) := by
  rw [State.dealWithFileDeleteEvent, State.dealRenameEvent]
  by_cases hd : s.getValidDeleteFileOperationFlag fileName
  · rw [if_pos hd, if_pos hd]
    exact account_removeFileWatcher _ _ _ _
  · rw [if_neg hd, if_neg hd]
    cases hm : s.getValidModifyFileOperationFlag fileName with
    | true =>
        rw [if_neg (by decide), if_pos rfl]
        exact (account_rebuildFileWatcher _ _ _).trans (account_setValidModifyFileOperationFlag _ _ _)
    | false =>
        rw [if_pos rfl, if_neg Bool.false_ne_true]
        refine (account_addFileWatcher _ _ _).trans ?_
        cases recovers with
        | false => rfl
        | true =>
            have hwrite := account_inputFileByPathAndContent { s with reports := s.reports ++ [fileName] } fileName
            simp only [State.account, Prod.mk.injEq] at hwrite
            obtain ⟨hflags, hunmatched, hundelivered, hreports, hrecoveries⟩ := hwrite
            simp only [State.account, State.recoverAccountData, if_pos, hflags, hunmatched,
              hundelivered, hreports,
              hrecoveries]

end frames

section invariants

structure Placed (isDirectory : String → Bool) (s : State) : Prop where
  files : ∀ e ∈ s.files, isDirectory e.1 = false
  watchers : ∀ e ∈ s.fileNameMgrMap, isDirectory e.2.filePath = false
  events : ∀ w ∈ s.eventMap, isDirectory w.filePath = false

/-- The flags are the deleted paths that are pending, and the deletion of a file by a call that has succeeded
is excused by the flag of the file or of a directory that it was in. -/
structure Flagged (isDirectory : String → Bool) (s : State) : Prop where
  flags : ∀ path, path ∈ s.validDeleteFileOperationFlag ↔ s.undelivered path = true
  covered : ∀ fileName, s.unmatched fileName = some true →
    s.undelivered fileName = true ∨
      ∃ dir, isDirectory dir = true ∧ s.undelivered dir = true ∧ Under dir fileName

variable {isDirectory : String → Bool} {s : State}

theorem mem_of_lookup {κ β : Type} [BEq κ] [LawfulBEq κ] {k : κ} {b : β} {es : List (κ × β)}
    (h : es.lookup k = some b) : (k, b) ∈ es := by
  obtain ⟨before, after, rfl, -⟩ := List.lookup_eq_some_iff.mp h
  exact List.mem_append_right _ List.mem_cons_self

theorem finds_of_under {dir fileName : String} (h : Under dir fileName) : Finds fileName dir := by
  obtain ⟨rest, h⟩ := h
  exact ⟨[], '/' :: rest, by rw [← h]; simp⟩

theorem Placed.unlink (h : Placed isDirectory s) (path : String) : Placed isDirectory (s.unlink path) := by
  rw [State.unlink]
  split
  · exact h
  · exact ⟨fun e he => h.files e (List.mem_of_mem_filter he), h.watchers, h.events⟩

variable {path : String}

theorem Placed.setInode (h : Placed isDirectory s) (hpath : isDirectory path = false)
    (wd : Option Nat) : Placed isDirectory (s.setInode path wd) := by
  refine ⟨fun e he => ?_, h.watchers, h.events⟩
  rcases List.mem_cons.mp he with rfl | he
  · exact hpath
  · exact h.files e (List.mem_of_mem_filter he)

theorem Placed.of_lookup (h : Placed isDirectory s) {wd : Option Nat}
    (hpath : s.files.lookup path = some wd) : isDirectory path = false := h.files _ (mem_of_lookup hpath)

theorem Placed.setValidModifyFileOperationFlag (h : Placed isDirectory s) (fileName : String) (flag : Bool) :
    Placed isDirectory (s.setValidModifyFileOperationFlag fileName flag) := by
  rw [State.setValidModifyFileOperationFlag]
  split_ifs
  all_goals exact ⟨h.files, h.watchers, h.events⟩

theorem Placed.inputFileByPathAndContent (h : Placed isDirectory s)
    (hpath : isDirectory path = false) : Placed isDirectory (s.inputFileByPathAndContent path) := by
  have hinode := ((h.setValidModifyFileOperationFlag path true).unlink path).setInode hpath none
  exact ⟨hinode.files, hinode.watchers, hinode.events⟩

variable {s' : State}

theorem Placed.startNotify (h : Placed isDirectory s) {wd : Nat}
    (hs : s.startNotify path = some (wd, s')) : isDirectory path = false ∧ Placed isDirectory s' := by
  rw [State.startNotify] at hs
  split at hs
  · cases hs
  · next hpath =>
      cases hs
      exact ⟨h.of_lookup hpath, h⟩
  · next hpath =>
      cases hs
      have hinode := h.setInode (h.of_lookup hpath) (some s.nextWd)
      exact ⟨h.of_lookup hpath, hinode.files, hinode.watchers, hinode.events⟩

theorem Placed.watch (h : Placed isDirectory s) (hpath : isDirectory path = false) (wd : Nat)
    (id : Int) :
    Placed isDirectory
      { s with fileNameMgrMap := (wd, ⟨id, path⟩) :: s.fileNameMgrMap.filter fun e => e.1 ≠ wd } := by
  refine ⟨h.files, fun e he => ?_, h.events⟩
  rcases List.mem_cons.mp he with rfl | he
  · exact hpath
  · exact h.watchers e (List.mem_of_mem_filter he)

theorem Placed.unwatch (h : Placed isDirectory s) (p : Nat × FileWatcher → Bool) :
    Placed isDirectory { s with fileNameMgrMap := s.fileNameMgrMap.filter p } :=
  ⟨h.files, fun e he => h.watchers e (List.mem_of_mem_filter he), h.events⟩

theorem Placed.addFileWatcher (h : Placed isDirectory s) (id : Int) (filePath : String) :
    Placed isDirectory (s.addFileWatcher id filePath) := by
  rw [State.addFileWatcher]
  split_ifs
  · exact h
  · split
    · exact h
    · next hs =>
        obtain ⟨hpath, h⟩ := h.startNotify hs
        exact (h.watch hpath _ id).setValidModifyFileOperationFlag filePath false

theorem Placed.closeNotify (h : Placed isDirectory s) (wd : Nat) (filePath : String) :
    Placed isDirectory (s.closeNotify wd filePath) := by
  rw [State.closeNotify]
  split_ifs with hs
  · exact h.setInode (h.of_lookup hs) none
  · exact h

theorem closeNotify_fileNameMgrMap (wd : Nat) (filePath : String) :
    (s.closeNotify wd filePath).fileNameMgrMap = s.fileNameMgrMap := by
  rw [State.closeNotify]
  split_ifs <;> rfl

theorem Placed.removeFileWatcher (h : Placed isDirectory s) (first : Nat) (id : Int) (filePath : String) :
    Placed isDirectory (s.removeFileWatcher first id filePath) := by
  rw [State.removeFileWatcher]
  dsimp only
  split
  · exact h
  · next wd _ _ =>
      have hclosed := (h.closeNotify wd filePath).unwatch fun e => e.1 ≠ wd
      rwa [closeNotify_fileNameMgrMap] at hclosed

theorem Placed.closeAll (h : Placed isDirectory s) (filePath : String) (es : List (Nat × FileWatcher)) :
    Placed isDirectory (es.foldl (fun s e => s.closeNotify e.1 filePath) s) ∧
      (es.foldl (fun s e => s.closeNotify e.1 filePath) s).fileNameMgrMap = s.fileNameMgrMap := by
  induction es generalizing s with
  | nil => exact ⟨h, rfl⟩
  | cons e es ih =>
      obtain ⟨hplaced, hmap⟩ := ih (h.closeNotify e.1 filePath)
      exact ⟨hplaced, hmap.trans (closeNotify_fileNameMgrMap e.1 filePath)⟩

theorem Placed.rebuildFileWatcher (h : Placed isDirectory s) (id : Int) (filePath : String) :
    Placed isDirectory (s.rebuildFileWatcher id filePath) := by
  obtain ⟨hclosed, hmap⟩ := h.closeAll filePath (s.fileNameMgrMap.filter fun e => e.2 = ⟨id, filePath⟩)
  have hrest := hclosed.unwatch fun e => e.2 ≠ ⟨id, filePath⟩
  rw [hmap] at hrest
  rw [State.rebuildFileWatcher]
  dsimp only
  split_ifs
  · exact hrest
  · split
    · exact hrest
    · next hs =>
        obtain ⟨hpath, hwatched⟩ := hrest.startNotify hs
        exact hwatched.watch hpath _ id

theorem Placed.dealWithFileDeleteEvent (h : Placed isDirectory s) (first : Nat) (recovers : Bool)
    {fileName : String} (hfile : isDirectory fileName = false) (id : Int) :
    Placed isDirectory (s.dealWithFileDeleteEvent first recovers fileName id) := by
  rw [State.dealWithFileDeleteEvent, State.dealRenameEvent]
  split_ifs with hd hm
  · have hcleared : Placed isDirectory (s.setValidDeleteFileOperationFlag fileName false) :=
      ⟨h.files, h.watchers, h.events⟩
    exact hcleared.removeFileWatcher first id fileName
  · refine Placed.addFileWatcher ?_ id fileName
    have hreported : Placed isDirectory { s with reports := s.reports ++ [fileName] } :=
      ⟨h.files, h.watchers, h.events⟩
    cases recovers with
    | false => exact ⟨h.files, h.watchers, h.events⟩
    | true =>
        have hwritten := hreported.inputFileByPathAndContent hfile
        exact ⟨hwritten.files, hwritten.watchers, hwritten.events⟩
  · exact (h.setValidModifyFileOperationFlag fileName false).rebuildFileWatcher id fileName

theorem Placed.deleted (h : Placed isDirectory s) (path : String) (complete : Bool) :
    Placed isDirectory (s.deleted path complete) := by
  rw [State.deleted]
  split
  · exact h
  · have hgone := h.unlink path
    exact ⟨hgone.files, hgone.watchers, hgone.events⟩

theorem Placed.deletedAll (h : Placed isDirectory s) (complete : Bool) (gone : List String) :
    Placed isDirectory (gone.foldl (fun s f => s.deleted f complete) s) := by
  induction gone generalizing s with
  | nil => exact h
  | cons f gone ih => exact ih (h.deleted f complete)

theorem Placed.succeeded (h : Placed isDirectory s) (path : String) : Placed isDirectory (s.succeeded path) :=
  ⟨h.files, h.watchers, h.events⟩

theorem Placed.step (h : Placed isDirectory s) (op : Operation) : Placed isDirectory (step isDirectory s op) := by
  cases op with
  | deleteFile path =>
      rw [TamperDetection.step]
      split
      · exact h
      · exact (h.deleted path true).succeeded path
  | deleteDir path removed complete =>
      rw [TamperDetection.step]
      split_ifs with hdir hall
      · exact h
      · exact (h.deletedAll complete _).succeeded path
      · exact h.deletedAll complete _
  | createFile path =>
      rw [TamperDetection.step]
      split_ifs with hpath
      · exact h
      · exact h.inputFileByPathAndContent (Bool.eq_false_iff.mpr (not_or.mp hpath).1)
  | addFileWatcher id path => exact h.addFileWatcher id path
  | outsiderDelete path => exact h.unlink path
  | readEvents count =>
      rw [TamperDetection.step]
      split
      · refine ⟨h.files, h.watchers, fun w hw => ?_⟩
        obtain ⟨wd, -, hwd⟩ := List.mem_filterMap.mp hw
        exact h.watchers _ (mem_of_lookup hwd)
      · exact h
  | checkNotifyEvent first recovers =>
      rw [TamperDetection.step]
      split
      · exact h
      · next w eventMap hread =>
          have hevents : Placed isDirectory { s with eventMap } :=
            ⟨h.files, h.watchers, fun w' hw' => h.events w' (hread ▸ List.mem_cons_of_mem w hw')⟩
          have hw : isDirectory w.filePath = false := h.events w (hread ▸ List.mem_cons_self)
          have hdealt := hevents.dealWithFileDeleteEvent first recovers hw w.id
          exact ⟨hdealt.files, hdealt.watchers, hdealt.events⟩

theorem finds_self (fileName : String) : Finds fileName fileName := List.infix_rfl

theorem Flagged.of_account (h : Flagged isDirectory s) (hs : s'.account = s.account) :
    Flagged isDirectory s' := by
  simp only [State.account, Prod.mk.injEq] at hs
  obtain ⟨hflags, hunmatched, hundelivered, -⟩ := hs
  constructor
  · rw [hflags, hundelivered]
    exact h.flags
  · rw [hunmatched, hundelivered]
    exact h.covered

theorem Flagged.created (h : Flagged isDirectory s) (path : String) :
    Flagged isDirectory (s.inputFileByPathAndContent path) := by
  have hs := account_inputFileByPathAndContent s path
  simp only [State.account, Prod.mk.injEq] at hs
  obtain ⟨hflags, hunmatched, hundelivered, -⟩ := hs
  constructor
  · rw [hflags, hundelivered]
    exact h.flags
  · intro f hf
    rw [hunmatched, update_apply] at hf
    rw [hundelivered]
    split_ifs at hf
    exact h.covered f hf

theorem deletedAll_account (complete : Bool) (gone : List String) (s : State) :
    let s' := gone.foldl (fun s f => s.deleted f complete) s
    s'.validDeleteFileOperationFlag = s.validDeleteFileOperationFlag ∧ s'.undelivered = s.undelivered ∧
      ∀ f, s'.unmatched f = some true → s.unmatched f = some true ∨ complete = true ∧ f ∈ gone := by
  induction gone generalizing s with
  | nil => exact ⟨rfl, rfl, fun f hf => .inl hf⟩
  | cons g gone ih =>
      obtain ⟨hflags, hundelivered, hunmatched⟩ := ih (s.deleted g complete)
      have hs := account_unlink s g
      simp only [State.account, Prod.mk.injEq] at hs
      have hg : (s.deleted g complete).validDeleteFileOperationFlag = s.validDeleteFileOperationFlag ∧
          (s.deleted g complete).undelivered = s.undelivered ∧
            ∀ f, (s.deleted g complete).unmatched f = some true →
              s.unmatched f = some true ∨ complete = true ∧ f = g := by
        rw [State.deleted]
        split
        · exact ⟨rfl, rfl, fun f hf => .inl hf⟩
        · refine ⟨hs.1, hs.2.2.1, fun f hf => ?_⟩
          dsimp only at hf
          rw [update_apply] at hf
          split_ifs at hf with hfg
          · exact .inr ⟨Option.some.inj hf, hfg⟩
          · exact .inl hf
      refine ⟨hflags.trans hg.1, hundelivered.trans hg.2.1, fun f hf => ?_⟩
      rcases hunmatched f hf with hf | ⟨hcomplete, hf⟩
      · rcases hg.2.2 f hf with hf | ⟨hcomplete, rfl⟩
        · exact .inl hf
        · exact .inr ⟨hcomplete, List.mem_cons_self⟩
      · exact .inr ⟨hcomplete, List.mem_cons_of_mem g hf⟩

theorem Flagged.succeeded (h : Flagged isDirectory s)
    (hflags : s'.validDeleteFileOperationFlag = s.validDeleteFileOperationFlag)
    (hundelivered : s'.undelivered = s.undelivered)
    (hunmatched : ∀ f, s'.unmatched f = some true →
      s.unmatched f = some true ∨ f = path ∨ isDirectory path = true ∧ Under path f) :
    Flagged isDirectory (s'.succeeded path) := by
  have hkept : ∀ p, s.undelivered p = true → update s.undelivered path true p = true := by
    intro p hp
    rw [update_apply]
    split_ifs <;> simp_all
  constructor
  · intro p
    change p ∈ s'.validDeleteFileOperationFlag ++ [path] ↔ update s'.undelivered path true p = true
    rw [hflags, hundelivered, List.mem_append, List.mem_singleton, h.flags, update_apply]
    split_ifs with hp
    · exact iff_of_true (.inr hp) rfl
    · exact or_iff_left hp
  · intro f hf
    change update s'.undelivered path true f = true ∨
      ∃ dir, isDirectory dir = true ∧ update s'.undelivered path true dir = true ∧ Under dir f
    rw [hundelivered]
    rcases hunmatched f hf with hf | rfl | ⟨hdir, hunder⟩
    · rcases h.covered f hf with hf | ⟨dir, hdir, hopen, hunder⟩
      · exact .inl (hkept f hf)
      · exact .inr ⟨dir, hdir, hkept dir hopen, hunder⟩
    · exact .inl (update_self ..)
    · exact .inr ⟨path, hdir, update_self .., hunder⟩

theorem getValidDeleteFileOperationFlag_iff (h : Flagged isDirectory s) (fileName : String) :
    s.getValidDeleteFileOperationFlag fileName = true ↔ Pending s fileName := by
  simp only [State.getValidDeleteFileOperationFlag, List.any_eq_true, decide_eq_true_eq, h.flags, Pending]

theorem getValidModifyFileOperationFlag_iff (fileName : String) :
    s.getValidModifyFileOperationFlag fileName = true ↔ fileName ∈ s.validModifyFileOperationFlag := by
  simp [State.getValidModifyFileOperationFlag]

theorem Flagged.handled (h : Flagged isDirectory s) (first : Nat) (recovers : Bool) {fileName : String}
    (hfile : isDirectory fileName = false) (id : Int) :
    Flagged isDirectory ((s.dealWithFileDeleteEvent first recovers fileName id).matched fileName) := by
  have hs := account_dealWithFileDeleteEvent s first recovers fileName id
  set s' := s.dealWithFileDeleteEvent first recovers fileName id
  have hparts : (∀ p, p ∈ s'.validDeleteFileOperationFlag ↔
    p ∈ s.validDeleteFileOperationFlag ∧ p ≠ fileName) ∧
      s'.undelivered = s.undelivered ∧ ∀ f, f ≠ fileName → s'.unmatched f = s.unmatched f := by
    by_cases hd : s.getValidDeleteFileOperationFlag fileName
    · rw [if_pos hd] at hs
      simp only [State.account, Prod.mk.injEq] at hs
      obtain ⟨hflags, hunmatched, hundelivered, -⟩ := hs
      refine ⟨fun p => ?_, hundelivered, fun f hf => by rw [hunmatched]⟩
      rw [hflags, List.mem_filter, decide_eq_true_eq]
    · have hnot : ∀ p, p ∈ s.validDeleteFileOperationFlag → p ≠ fileName := by
        rintro p hp rfl
        exact hd ((getValidDeleteFileOperationFlag_iff h p).mpr ⟨p, (h.flags p).mp hp, finds_self p⟩)
      rw [if_neg hd] at hs
      have hunmatched : ∀ f, f ≠ fileName → s'.unmatched f = s.unmatched f := by
        intro f hf
        split_ifs at hs
        all_goals
          simp only [State.account, Prod.mk.injEq] at hs
          simp only [hs.2.1, update_of_ne hf]
      have hsame : s'.validDeleteFileOperationFlag = s.validDeleteFileOperationFlag ∧
          s'.undelivered = s.undelivered := by
        split_ifs at hs
        all_goals
          simp only [State.account, Prod.mk.injEq] at hs
          exact ⟨hs.1, hs.2.2.1⟩
      exact ⟨fun p => by rw [hsame.1]; exact (and_iff_left_of_imp (hnot p)).symm, hsame.2, hunmatched⟩
  obtain ⟨hflags, hundelivered, hunmatched⟩ := hparts
  have hother : ∀ p, p ≠ fileName →
      update s'.undelivered fileName false p = s.undelivered p := fun p hp => by
    rw [hundelivered, update_of_ne hp]
  constructor
  · intro p
    change p ∈ s'.validDeleteFileOperationFlag ↔ update s'.undelivered fileName false p = true
    rw [hflags, h.flags]
    by_cases hp : p = fileName
    · subst hp
      rw [update_self]
      simp
    · rw [hother p hp]
      exact and_iff_left hp
  · intro f hf
    change update s'.unmatched fileName none f = some true at hf
    rw [update_apply] at hf
    split_ifs at hf with hname
    rw [hunmatched f hname] at hf
    rcases h.covered f hf with hf | ⟨dir, hdir, hopen, hunder⟩
    · exact .inl ((hother f hname).trans hf)
    · have hne : dir ≠ fileName := by
        rintro rfl
        rw [hfile] at hdir
        cases hdir
      exact .inr ⟨dir, hdir, (hother dir hne).trans hopen, hunder⟩

theorem Flagged.step (h : Flagged isDirectory s) (hplaced : Placed isDirectory s) (op : Operation) :
    Flagged isDirectory (step isDirectory s op) := by
  cases op with
  | deleteFile path =>
      rw [TamperDetection.step]
      split
      · exact h
      · obtain ⟨hflags, hundelivered, hunmatched⟩ := deletedAll_account true [path] s
        exact h.succeeded hflags hundelivered fun f hf =>
          (hunmatched f hf).imp_right fun hf => .inl (List.mem_singleton.mp hf.2)
  | deleteDir path removed complete =>
      rw [TamperDetection.step]
      split_ifs with hdir hall
      · exact h
      · obtain ⟨hflags, hundelivered, hunmatched⟩ := deletedAll_account complete _ s
        refine h.succeeded hflags hundelivered fun f hf => (hunmatched f hf).imp_right fun hf => .inr ?_
        exact ⟨Bool.not_eq_false _ ▸ hdir, of_decide_eq_true (List.mem_filter.mp hf.2).2⟩
      · obtain ⟨hflags, hundelivered, hunmatched⟩ := deletedAll_account complete _ s
        constructor
        · rw [hflags, hundelivered]
          exact h.flags
        · intro f hf
          rw [hundelivered]
          rcases hunmatched f hf with hf | ⟨hcomplete, -⟩
          · exact h.covered f hf
          · exact (hall hcomplete).elim
  | createFile path =>
      rw [TamperDetection.step]
      split_ifs
      · exact h
      · exact h.created path
  | addFileWatcher id path => exact h.of_account (account_addFileWatcher s id path)
  | outsiderDelete path => exact h.of_account (account_unlink s path)
  | readEvents count =>
      rw [TamperDetection.step]
      split
      · exact h.of_account rfl
      · exact h
  | checkNotifyEvent first recovers =>
      rw [TamperDetection.step]
      split
      · exact h
      · next w eventMap hread =>
          have hw : isDirectory w.filePath = false := hplaced.events w (hread ▸ List.mem_cons_self)
          have hread' : Flagged isDirectory { s with eventMap } := h.of_account rfl
          exact hread'.handled first recovers hw w.id

/-- An event is excused exactly when a pending path is part of the name or the service is
writing the file. -/
theorem excused_iff (h : Flagged isDirectory s) {w : FileWatcher} {eventMap : List FileWatcher}
    (hread : s.eventMap = w :: eventMap) (first : Nat) (recovers : Bool) :
    (step isDirectory s (.checkNotifyEvent first recovers)).reports = s.reports ∧
        (step isDirectory s (.checkNotifyEvent first recovers)).recoveries = s.recoveries ↔
      Pending s w.filePath ∨ w.filePath ∈ s.validModifyFileOperationFlag := by
  have hs := account_dealWithFileDeleteEvent { s with eventMap } first recovers w.filePath w.id
  have hflagged : Flagged isDirectory { s with eventMap } := h.of_account rfl
  have hdelete := getValidDeleteFileOperationFlag_iff hflagged w.filePath
  have hmodify := getValidModifyFileOperationFlag_iff (s := { s with eventMap }) w.filePath
  rw [step, hread]
  change (State.dealWithFileDeleteEvent _ first recovers w.filePath w.id).reports = s.reports ∧
    (State.dealWithFileDeleteEvent _ first recovers w.filePath w.id).recoveries = s.recoveries ↔ _
  split_ifs at hs with hd hm
  · simp only [State.account, Prod.mk.injEq] at hs
    exact iff_of_true ⟨hs.2.2.2.1, hs.2.2.2.2⟩ (.inl (hdelete.mp hd))
  · simp only [State.account, Prod.mk.injEq] at hs
    exact iff_of_true ⟨hs.2.2.2.1, hs.2.2.2.2⟩ (.inr (hmodify.mp hm))
  all_goals
    simp only [State.account, Prod.mk.injEq] at hs
    refine iff_of_false (fun hsame => ?_)
      (not_or.mpr ⟨fun hp => hd (hdelete.mpr hp), fun hp => hm (hmodify.mpr hp)⟩)
    exact List.append_right_eq_self.not.mpr (List.cons_ne_nil _ _) (hs.2.2.2.1.symm.trans hsame.1)

theorem truthful_iff (h : Flagged isDirectory s) (op : Operation) :
    Truthful isDirectory s op ↔ Harmless s op := by
  cases op with
  | checkNotifyEvent first recovers =>
      cases hread : s.eventMap with
      | nil => simp [Truthful, Harmless, hread]
      | cons w eventMap =>
          simp only [Truthful, Harmless, hread, List.head?_cons, Option.mem_some_iff, forall_eq']
          rw [excused_iff h hread]
          cases hdeleted : s.unmatched w.filePath with
          | none =>
              rw [← not_or]
              simp
          | some complete =>
              cases complete with
              | false => simp
              | true =>
                  refine iff_of_true ((iff_true_right rfl).mpr (.inl ?_)) trivial
                  rcases h.covered w.filePath hdeleted with hopen | ⟨dir, -, hopen, hunder⟩
                  · exact ⟨w.filePath, hopen, finds_self _⟩
                  · exact ⟨dir, hopen, finds_of_under hunder⟩
  | _ => exact Iff.rfl

theorem initial_placed (isDirectory : String → Bool) (present : List String) :
    Placed isDirectory (initial isDirectory present) := by
  refine ⟨fun e he => ?_, fun e he => (List.not_mem_nil he).elim, fun w hw => (List.not_mem_nil hw).elim⟩
  obtain ⟨f, hf, rfl⟩ := List.mem_map.mp he
  simpa using (List.mem_filter.mp hf).2

theorem initial_flagged (isDirectory : String → Bool) (present : List String) :
    Flagged isDirectory (initial isDirectory present) := by
  refine ⟨fun path => iff_of_false List.not_mem_nil Bool.false_ne_true, fun f hf => ?_⟩
  cases hf

end invariants

/-- Over a whole run the deletion events of the files are told apart as they should be, if and only if no event
of a file that the service has not deleted comes while a deleted path that is part of its name is pending. -/
theorem truthful_run_iff (isDirectory : String → Bool) (present : List String) (ops : List Operation) :
    Machine.Meets (step isDirectory) (Truthful isDirectory) (initial isDirectory present) ops ↔
      Machine.Meets (step isDirectory) Harmless (initial isDirectory present) ops := by
  have hstep : ∀ s op, Placed isDirectory s ∧ Flagged isDirectory s →
      Placed isDirectory (step isDirectory s op) ∧ Flagged isDirectory (step isDirectory s op) :=
    fun s op h => ⟨h.1.step op, h.2.step h.1 op⟩
  exact Machine.meets_congr (fun s op hs _ => hstep s op hs) (fun s op hs => truthful_iff hs.2 op)
    ⟨initial_placed isDirectory present, initial_flagged isDirectory present⟩

def accountDirectory : String := "/data/service/el1/public/account/101"

def accountInfoFile : String := "/data/service/el1/public/account/101/account_info.json"

/-- The account is deleted and created again, and then its file is deleted from outside. -/
def createdAgain : List Operation :=
  [.createFile accountInfoFile, .addFileWatcher 101 accountInfoFile, .deleteDir accountDirectory [] true,
    .readEvents 1, .checkNotifyEvent 0 true, .createFile accountInfoFile, .addFileWatcher 101 accountInfoFile,
    .outsiderDelete accountInfoFile, .readEvents 1, .checkNotifyEvent 0 true]

theorem not_truthful_createdAgain : ¬Machine.Meets (step (· == accountDirectory)) (Truthful (· == accountDirectory))
    (initial (· == accountDirectory) []) createdAgain := by
  decide +kernel

end OsAccount.TamperDetection
