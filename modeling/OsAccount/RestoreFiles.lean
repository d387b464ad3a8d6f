import OsAccount.AccountBackups
import OsAccount.AccountConstraints

namespace OsAccount.RestoreFiles

open Function AccountBackups
open AccountConstraints (changeConstraints)
open DistributedStorage (getFileContentByPath)

/-- What is stored of an account: its record, the photo file and its entry of the base constraints. -/
structure Stored where
  account : Option Account
  photo : Option String
  base : Option (List String)

def stored (s : Store) (id : Int32) : Stored where
  account := getOsAccountInfoById s id
  photo := s.photos id.toInt userPhotoFileTxtName
  base := s.baseConstraints id.toInt

/-- The copy of the directory of an account. The record is what `ParseBackupForRollback` makes of the file: a copy that
was interrupted may have left one that cannot be read. -/
structure Backup where
  accountInfo : Option (Except ErrCode Account) := none
  photo : Option String := none
  complete : Bool := false

/-- What the files and the plug-in answer to a step: its result, whether a directory that could not be prepared is
there, and what an interrupted deletion or copy leaves of a backup. -/
structure Outcome where
  ret : Ret := .ok ()
  plugin : Plugin := none
  made : Bool := false
  left : Backup := {}

inductive Write
  | setPhoto (photo : String)
  | updateOsAccount (a : Account)
  | removeBase
  | updateBase (constraints : List String)
  | copyPhoto (photo : String)

def removeOABaseConstraintsInfo (s : Store) (id : Int32) : Store :=
  { s with baseConstraints := update s.baseConstraints id.toInt none }

def updateBaseOAConstraints (s : Store) (id : Int32) (constraints : List String) : Store :=
  let entry := (s.baseConstraints id.toInt).elim constraints (changeConstraints true constraints)
  { s with baseConstraints := update s.baseConstraints id.toInt (some entry) }

def perform (s : Store) (id : Int32) : Write → Ret × Store
  | .setPhoto photo => (.ok (), setPhotoById s id photo)
  | .updateOsAccount a => updateOsAccount s a
  | .removeBase => (.ok (), removeOABaseConstraintsInfo s id)
  | .updateBase constraints => (.ok (), updateBaseOAConstraints s id constraints)
  | .copyPhoto photo =>
      match getFileContentByPath (some photo) with
      | none => (.error .fileReadFailed, s)
      | some content => (.ok (), setPhotoById s id content)

def writeFile (ret : Ret) (s : Store) (id : Int32) (w : Write) : Ret × Store :=
  match ret with
  | .error e => (.error e, s)
  | .ok () => perform s id w

section backup

variable (o : Outcome)

def isBackupComplete (backup : Option Backup) : Bool := backup.any Backup.complete

def remaining (b : Backup) : Backup where
  accountInfo := if o.left.accountInfo.isSome then b.accountInfo else none
  photo := if o.left.photo.isSome then b.photo else none
  complete := b.complete && o.left.complete

def deleteBackup : Option Backup → Option Backup
  | none => none
  | some b =>
      match o.ret with
      | .ok () => none
      | .error _ => some (remaining o b)

def createDir (backup : Option Backup) : Ret × Option Backup :=
  match o.ret with
  | .ok () => (.ok (), some (backup.getD {}))
  | .error e => (.error e, if o.made then some (backup.getD {}) else backup)

def copyUserDir (t : Stored) (b : Backup) : Ret × Backup :=
  match o.ret with
  | .ok () => (.ok (), { b with accountInfo := t.account.map .ok, photo := t.photo <|> b.photo })
  | .error e =>
      (.error e, { b with
        accountInfo := o.left.accountInfo
        photo := if t.photo.isSome then o.left.photo else b.photo })

def parseBackupForRollback (localId : Int32) (b : Backup) : Except ErrCode Account :=
  match b.accountInfo with
  | none => .error .fileFindFileError
  | some (.error e) => .error e
  | some (.ok a) => if a.info.localId ≠ localId.toInt then .error .invalidParameter else .ok a

def calibrateDomainInfo (plugin : Plugin) (domainInfo : DomainAccountInfo) : Except ErrCode DomainAccountInfo :=
  if plugin.isNone then .ok domainInfo else checkDomainAccountConsistency plugin

def restoreWrites (localNameMaxSize : Nat) (constraintsByType : OsAccountType → List String)
    (backupInfo currentInfo : Account) : List Write :=
  let restored := restoredAccount localNameMaxSize constraintsByType backupInfo currentInfo
  [.setPhoto backupInfo.rest.photo, .updateOsAccount restored, .removeBase, .updateBase restored.rest.constraints]

def rollbackWrites (b : Backup) (backupInfo : Account) : List Write :=
  .removeBase :: .updateBase backupInfo.rest.constraints :: (b.photo.map Write.copyPhoto).toList

/-- `DoRollbackOnce` up to the record, with the writes that follow. The plug-in's domain account replaces the one of the
backup; `SetDomainInfo` would pass over one that is too long. -/
def rollbackRecord (s : Store) (localId : Int32) (b : Backup) : Except ErrCode (Store × List Write) :=
  match parseBackupForRollback localId b with
  | .error e => .error e
  | .ok backupInfo =>
      match calibrateDomainInfo o.plugin backupInfo.info.domainInfo with
      | .error e => .error e
      | .ok domainInfo =>
          let backupInfo := { backupInfo with info := { backupInfo.info with domainInfo }, native := backupInfo.native }
          match writeFile o.ret s localId (.updateOsAccount backupInfo) with
          | (.error e, _) => .error e
          | (.ok (), s) => .ok (s, rollbackWrites b backupInfo)

end backup

def Stored.write (t : Stored) : Write → Stored
  | .setPhoto photo => { t with photo := some photo }
  | .updateOsAccount a => { t with account := some a }
  | .removeBase => { t with base := none }
  | .updateBase constraints => { t with base := some (t.base.elim constraints (changeConstraints true constraints)) }
  | .copyPhoto photo => { t with photo := some photo }

def Write.Of (id : Int32) : Write → Prop
  | .updateOsAccount a => a.info.localId = id.toInt
  | _ => True

def givesUp (e : ErrCode) : Bool := e = .invalidParameter ∨ e = .badJsonFormatError

def Holds (id : Int32) (t : Stored) (backup : Option Backup) : Prop :=
  ∃ a complete, backup = some { accountInfo := some (.ok a), photo := t.photo, complete } ∧ t.account = some a ∧
    a.info.localId = id.toInt

def PhotoStored (t : Stored) (backup : Option Backup) : Prop :=
  ∀ b, backup = some b → b.photo.isSome → t.photo.isSome

/-- A deletion that fails leaves a complete backup whole, or takes the mark away that it is complete. -/
def KeepsWhole (o : Outcome) : Option Backup → Prop
  | none => True
  | some b =>
      o.ret ≠ .ok () → b.complete → o.left.complete →
        (b.accountInfo.isSome → o.left.accountInfo.isSome) ∧ (b.photo.isSome → o.left.photo.isSome)

def FailsForNow (o : Outcome) : Prop :=
  ∀ e ∈ [ErrCode.invalidParameter, .badJsonFormatError], o.ret ≠ .error e ∧ o.plugin ≠ some (.error e)

/-- The plug-in names the domain account of the backup, the entry before was that of the constraints in the record, and
no photo is stored unless the backup has one. -/
def RestoresBefore (before t : Stored) (plugin : Plugin) (b : Backup) : Prop :=
  match b.accountInfo with
  | some (.ok a) =>
      calibrateDomainInfo plugin a.info.domainInfo = .ok a.info.domainInfo ∧
        before.base = some a.rest.constraints ∧ (b.photo = none → t.photo = none)
  | _ => True

instance (o : Outcome) : (backup : Option Backup) → Decidable (KeepsWhole o backup)
  | none => .isTrue trivial
  | some b => inferInstanceAs (Decidable (o.ret ≠ .ok () → b.complete → o.left.complete →
      (b.accountInfo.isSome → o.left.accountInfo.isSome) ∧ (b.photo.isSome → o.left.photo.isSome)))

instance (o : Outcome) : Decidable (FailsForNow o) :=
  inferInstanceAs (Decidable (∀ e ∈ [ErrCode.invalidParameter, .badJsonFormatError],
    o.ret ≠ .error e ∧ o.plugin ≠ some (.error e)))

instance (before t : Stored) (plugin : Plugin) : (b : Backup) → Decidable (RestoresBefore before t plugin b)
  | ⟨some (.ok a), photo, _⟩ => inferInstanceAs (Decidable (
      calibrateDomainInfo plugin a.info.domainInfo = .ok a.info.domainInfo ∧
        before.base = some a.rest.constraints ∧ (photo = none → t.photo = none)))
  | ⟨some (.error _), _, _⟩ => .isTrue trivial
  | ⟨none, _, _⟩ => .isTrue trivial

def Keyed (s : Store) : Prop := ∀ (id : Int32) (a : Account), (stored s id).account = some a → a.info.localId = id.toInt

section writes

variable {s s' : Store} {id j : Int32} {w : Write} {o : Outcome}

theorem getOsAccountInfoById_congr (hinfo : s'.directory.accounts[j.toInt]? = s.directory.accounts[j.toInt]?)
    (hrest : s'.rest j.toInt = s.rest j.toInt) : getOsAccountInfoById s' j = getOsAccountInfoById s j := by
  cases h : s.directory.accounts[j.toInt]? with
  | none =>
      rw [getOsAccountInfoById, getOsAccountInfoById]
      split
      · split
        · rfl
        · rename_i hsome
          cases h.symm.trans hsome
      · rename_i hsome
        cases (hinfo.trans h).symm.trans hsome
  | some info =>
      rw [getOsAccountInfoById_some h, getOsAccountInfoById_some (hinfo.trans h)]
      simp only [hrest]

theorem getOsAccountInfoById_stored {a : Account} (hinfo : s.directory.accounts[id.toInt]? = some a.info)
    (hrest : s.rest id.toInt = a.rest) : getOsAccountInfoById s id = some a := by
  rw [getOsAccountInfoById_some hinfo]
  simp only [hrest]

theorem perform_error {e : ErrCode} (h : perform s id w = (.error e, s')) : s' = s := by
  cases w with
  | updateOsAccount a =>
      rw [perform, updateOsAccount] at h
      split at h <;> cases h
      rfl
  | copyPhoto photo =>
      rw [perform] at h
      split at h <;> cases h
      rfl
  | setPhoto photo => cases h
  | removeBase => cases h
  | updateBase constraints => cases h

theorem update_toInt {α : Type} (f : Int → α) (a : α) :
    update f id.toInt a j.toInt = if j = id then a else f j.toInt := by
  rw [update_apply]
  exact if_congr Int32.toInt_inj rfl rfl

theorem stored_setPhotoById (photo : String) : stored (setPhotoById s id photo) j =
    if j = id then { stored s j with photo := some photo } else stored s j := by
  have hphoto : stored (setPhotoById s id photo) j =
      { stored s j with
        photo := update s.photos id.toInt
          (update (s.photos id.toInt) userPhotoFileTxtName (some photo)) j.toInt userPhotoFileTxtName } := rfl
  rw [hphoto, update_toInt]
  split
  · rw [update_self]
  · rfl

theorem stored_setBase (entry : Option (List String)) :
    stored { s with baseConstraints := update s.baseConstraints id.toInt entry } j =
      if j = id then { stored s j with base := entry } else stored s j := by
  have hbase : stored { s with baseConstraints := update s.baseConstraints id.toInt entry } j =
      { stored s j with base := update s.baseConstraints id.toInt entry j.toInt } := rfl
  rw [hbase, update_toInt]
  split <;> rfl

theorem stored_updateOsAccount {a : Account} (h : updateOsAccount s a = (.ok (), s')) (hid : a.info.localId = id.toInt) :
    stored s' j = if j = id then { stored s j with account := some a } else stored s j := by
  rw [updateOsAccount] at h
  split at h <;> cases h
  split
  · rename_i hj
    subst hj
    rw [stored, getOsAccountInfoById_stored (a := a)]
    · rfl
    · rw [OrderedMap.getElem?_insert_eq, if_pos hid]
    · dsimp only
      rw [hid, update_self]
  · rename_i hj
    have hne : j.toInt ≠ a.info.localId := fun h => hj (Int32.toInt_inj.mp (h.trans hid))
    rw [stored, stored, getOsAccountInfoById_congr]
    · rw [OrderedMap.getElem?_insert_eq, if_neg (Ne.symm hne)]
    · dsimp only
      rw [update_of_ne hne]

theorem stored_perform (h : perform s id w = (.ok (), s')) (hw : w.Of id) :
    stored s' j = if j = id then (stored s j).write w else stored s j := by
  cases w with
  | setPhoto photo =>
      cases h
      exact stored_setPhotoById photo
  | updateOsAccount a => exact stored_updateOsAccount h hw
  | removeBase =>
      cases h
      exact stored_setBase none
  | updateBase constraints =>
      cases h
      rw [updateBaseOAConstraints, stored_setBase]
      split
      · rename_i hj
        subst hj
        rfl
      · rfl
  | copyPhoto photo =>
      rw [perform] at h
      cases hread : getFileContentByPath (some photo) with
      | none =>
          rw [hread] at h
          cases h
      | some content =>
          rw [hread] at h
          cases h
          obtain ⟨hcontent, -⟩ := Option.filter_eq_some_iff.mp hread
          cases hcontent
          exact stored_setPhotoById photo

theorem writeFile_error {ret : Ret} {e : ErrCode} (h : writeFile ret s id w = (.error e, s')) : s' = s := by
  cases ret with
  | error e' =>
      cases h
      rfl
  | ok u => exact perform_error h

theorem writeFile_ok {ret : Ret} (h : writeFile ret s id w = (.ok (), s')) :
    ret = .ok () ∧ perform s id w = (.ok (), s') := by
  cases ret with
  | error e => cases h
  | ok u => exact ⟨rfl, h⟩

theorem Keyed.perform (hs : Keyed s) (h : perform s id w = (.ok (), s')) (hw : w.Of id) : Keyed s' := by
  intro j a ha
  rw [stored_perform h hw] at ha
  split at ha
  · rename_i hj
    subst hj
    cases w with
    | updateOsAccount b =>
        cases ha
        exact hw
    | setPhoto photo => exact hs j a ha
    | removeBase => exact hs j a ha
    | updateBase constraints => exact hs j a ha
    | copyPhoto photo => exact hs j a ha
  · exact hs j a ha

end writes

section backups

variable {s s' : Store} {id j : Int32} {o : Outcome} {t before : Stored} {b : Backup} {backup : Option Backup}

/-- A complete restore is the restore of the faithful accounts: its writes leave what it leaves. -/
theorem stored_applyRestoreData (localNameMaxSize : Nat) (constraintsByType : OsAccountType → List String)
    {a : Account} (ha : (stored s id).account = some a) (hid : a.info.localId = id.toInt) (backupInfo : Account) :
    stored (applyRestoreData localNameMaxSize constraintsByType s id backupInfo a).2 id =
      (restoreWrites localNameMaxSize constraintsByType backupInfo a).foldl Stored.write (stored s id) := by
  have hmem : a.info.localId ∈ s.directory.accounts := by
    rw [hid, Std.ExtTreeMap.mem_iff_isSome_getElem?]
    cases h : s.directory.accounts[id.toInt]? with
    | some info => rfl
    | none =>
        have hnone : getOsAccountInfoById s id = none := by
          rw [getOsAccountInfoById]
          split
          · rfl
          · rename_i hsome
            cases h.symm.trans hsome
        cases hnone.symm.trans ha
  have hupdate : (restoredAccount localNameMaxSize constraintsByType backupInfo a).info.localId ∈
      (setPhotoById s id backupInfo.rest.photo).directory.accounts := hmem
  rw [applyRestoreData, updateOsAccount_stored hupdate]
  dsimp only
  rw [resetBaseOAConstraints, stored_setBase, if_pos rfl,
    stored_updateOsAccount (updateOsAccount_stored hupdate) hid, if_pos rfl, stored_setPhotoById, if_pos rfl]
  rfl

theorem deleteBackup_complete (h : KeepsWhole o backup) (hcomplete : isBackupComplete (deleteBackup o backup) = true) :
    deleteBackup o backup = backup := by
  cases backup with
  | none => rfl
  | some b =>
      rw [deleteBackup] at hcomplete ⊢
      cases hret : o.ret with
      | ok u =>
          rw [hret] at hcomplete
          cases hcomplete
      | error e =>
          rw [hret] at hcomplete
          have hboth : (b.complete && o.left.complete) = true := hcomplete
          rw [Bool.and_eq_true] at hboth
          obtain ⟨hinfo, hphoto⟩ := h (by rw [hret]; exact nofun) hboth.1 hboth.2
          obtain ⟨accountInfo, photo, complete⟩ := b
          simp only [remaining, Option.some.injEq, Backup.mk.injEq]
          refine ⟨?_, ?_, ?_⟩
          · cases accountInfo with
            | none => exact ite_self _
            | some info => exact if_pos (hinfo rfl)
          · cases photo with
            | none => exact ite_self _
            | some photo => exact if_pos (hphoto rfl)
          · rw [hboth.2, Bool.and_true]

theorem PhotoStored.delete (h : PhotoStored t backup) : PhotoStored t (deleteBackup o backup) := by
  intro b hb hphoto
  cases backup with
  | none => cases hb
  | some b' =>
      rw [deleteBackup] at hb
      split at hb <;> cases hb
      refine h b' rfl ?_
      rw [remaining] at hphoto
      dsimp only at hphoto
      split at hphoto
      · exact hphoto
      · cases hphoto

theorem PhotoStored.write (h : PhotoStored t backup) (w : Write) : PhotoStored (t.write w) backup := by
  intro b hb hphoto
  have ht := h b hb hphoto
  cases w with
  | setPhoto photo => rfl
  | updateOsAccount a => exact ht
  | removeBase => exact ht
  | updateBase constraints => exact ht
  | copyPhoto photo => rfl

theorem createDir_cases (o : Outcome) (backup : Option Backup) :
    (createDir o backup).2 = backup ∨ backup = none ∧ (createDir o backup).2 = some {} := by
  rw [createDir]
  cases backup with
  | none =>
      cases o.ret with
      | ok u => exact .inr ⟨rfl, rfl⟩
      | error e =>
          cases o.made with
          | false => exact .inl rfl
          | true => exact .inr ⟨rfl, rfl⟩
  | some b =>
      cases o.ret with
      | ok u => exact .inl rfl
      | error e =>
          left
          cases o.made <;> rfl

theorem copyUserDir_complete (o : Outcome) (t : Stored) (b : Backup) : (copyUserDir o t b).2.complete = b.complete := by
  rw [copyUserDir]
  cases o.ret <;> rfl

theorem PhotoStored.copy (h : PhotoStored t (some b)) : PhotoStored t (some (copyUserDir o t b).2) := by
  rintro b' ⟨rfl⟩ hphoto
  rw [copyUserDir] at hphoto
  cases ht : t.photo with
  | some photo => rfl
  | none =>
      have hb : b.photo.isSome := by
        cases hret : o.ret with
        | ok u =>
            rw [hret, ht] at hphoto
            exact hphoto
        | error e =>
            rw [hret, ht] at hphoto
            exact hphoto
      rw [← ht]
      exact h b rfl hb

theorem copyUserDir_holds {a : Account} (h : PhotoStored t (some b)) (ha : t.account = some a)
    (hid : a.info.localId = id.toInt) {b' : Backup} (hcopy : copyUserDir o t b = (.ok (), b')) :
    Holds id t (some b') := by
  rw [copyUserDir] at hcopy
  split at hcopy <;> cases hcopy
  refine ⟨a, b.complete, ?_, ha, hid⟩
  have hphoto : (t.photo <|> b.photo) = t.photo := by
    cases ht : t.photo with
    | some photo => rfl
    | none =>
        cases hb : b.photo with
        | none => rfl
        | some photo =>
            have hsome := h b rfl (by rw [hb]; rfl)
            rw [ht] at hsome
            cases hsome
  rw [hphoto, ha]
  rfl

theorem givesUp_of_failsForNow (ho : FailsForNow o) {e : ErrCode} (he : o.ret = .error e ∨ o.plugin = some (.error e)) :
    givesUp e = false := by
  rw [givesUp, decide_eq_false_iff_not]
  rintro (rfl | rfl)
  · have hanswers := ho .invalidParameter (by decide)
    exact he.elim hanswers.1 hanswers.2
  · have hanswers := ho .badJsonFormatError (by decide)
    exact he.elim hanswers.1 hanswers.2

theorem writeFile_failsForNow (ho : FailsForNow o) {w : Write} {e : ErrCode}
    (h : writeFile o.ret s id w = (.error e, s')) : givesUp e = false := by
  cases hret : o.ret with
  | error e' =>
      rw [hret] at h
      cases h
      exact givesUp_of_failsForNow ho (.inl hret)
  | ok u =>
      rw [hret, writeFile] at h
      cases w with
      | updateOsAccount a =>
          rw [perform, updateOsAccount] at h
          split at h <;> cases h
          rfl
      | copyPhoto photo =>
          rw [perform] at h
          split at h <;> cases h
          rfl
      | setPhoto photo => cases h
      | removeBase => cases h
      | updateBase constraints => cases h

theorem calibrateDomainInfo_error {domainInfo : DomainAccountInfo} {plugin : Plugin} {e : ErrCode}
    (h : calibrateDomainInfo plugin domainInfo = .error e) : plugin = some (.error e) := by
  rw [calibrateDomainInfo] at h
  cases plugin with
  | none => cases h
  | some answer =>
      rw [if_neg nofun] at h
      cases answer with
      | ok domainInfo => cases h
      | error e' =>
          rw [checkDomainAccountConsistency] at h
          split at h <;> cases h
          rfl

theorem rollbackRecord_ret {ws : List Write} (h : rollbackRecord o s id b = .ok (s', ws)) : o.ret = .ok () := by
  rw [rollbackRecord] at h
  split at h
  · cases h
  split at h
  · cases h
  dsimp only at h
  split at h <;> cases h
  rename_i hwrite
  exact (writeFile_ok hwrite).1

/-- A backup with what is stored fails for the reasons that the files and the plug-in give. -/
theorem rollbackRecord_error (h : Holds id before (some b)) (ho : FailsForNow o) {e : ErrCode}
    (herror : rollbackRecord o s id b = .error e) : givesUp e = false := by
  obtain ⟨a, complete, hb, -, hid⟩ := h
  cases hb
  have hparse : parseBackupForRollback id { accountInfo := some (.ok a), photo := before.photo, complete } = .ok a := by
    rw [parseBackupForRollback]
    exact if_neg (not_not_intro hid)
  rw [rollbackRecord, hparse] at herror
  dsimp only at herror
  cases hplugin : calibrateDomainInfo o.plugin a.info.domainInfo with
  | error e' =>
      rw [hplugin] at herror
      cases herror
      exact givesUp_of_failsForNow ho (.inr (calibrateDomainInfo_error hplugin))
  | ok domainInfo =>
      rw [hplugin] at herror
      dsimp only at herror
      split at herror <;> cases herror
      rename_i hwrite
      exact writeFile_failsForNow ho hwrite

theorem rollbackRecord_ok (h : Holds id before (some b)) (hbefore : RestoresBefore before (stored s id) o.plugin b)
    {ws : List Write} (hok : rollbackRecord o s id b = .ok (s', ws)) :
    ∃ a, a.info.localId = id.toInt ∧ perform s id (.updateOsAccount a) = (.ok (), s') ∧
      ws.foldl Stored.write (stored s' id) = before ∧ ∀ w ∈ ws, w.Of id := by
  obtain ⟨a, complete, hb, ha, hid⟩ := h
  cases hb
  have hparse : parseBackupForRollback id { accountInfo := some (.ok a), photo := before.photo, complete } = .ok a := by
    rw [parseBackupForRollback]
    exact if_neg (not_not_intro hid)
  obtain ⟨hdomain, hbase, hphoto⟩ := hbefore
  rw [rollbackRecord, hparse] at hok
  dsimp only at hok
  rw [hdomain] at hok
  dsimp only at hok
  split at hok <;> cases hok
  rename_i hwrite
  have hperform := (writeFile_ok hwrite).2
  refine ⟨a, hid, hperform, ?_, ?_⟩
  · have hs' : stored s' id = { stored s id with account := some a } := by
      rw [stored_perform hperform hid, if_pos rfl]
      rfl
    obtain ⟨account, photo, base⟩ := before
    cases ha
    cases hbase
    rw [hs', rollbackWrites]
    cases photo with
    | some photo => rfl
    | none =>
        have hnone : (stored s id).photo = none := hphoto rfl
        simp only [Option.map_none, Option.toList_none, List.foldl_cons, List.foldl_nil, Stored.write, hnone]
        rfl
  · intro w hw
    rw [rollbackWrites] at hw
    cases hbphoto : before.photo with
    | none =>
        simp only [hbphoto, Option.map_none, Option.toList_none, List.mem_cons, List.not_mem_nil, or_false] at hw
        rcases hw with rfl | rfl <;> trivial
    | some photo =>
        simp only [hbphoto, Option.map_some, Option.toList_some, List.mem_cons, List.not_mem_nil, or_false] at hw
        rcases hw with rfl | rfl | rfl <;> trivial

end backups

end OsAccount.RestoreFiles
