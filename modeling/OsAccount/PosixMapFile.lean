import OsAccount.CText
import OsAccount.PosixMap
import OsAccount.Machine

namespace OsAccount.PosixMapFile

open OrderedMap Std PosixMap CText

structure OsAccountInfo where
  localId : Int
  localName : String
  isCreateCompleted : Bool
  toBeRemoved : Bool

/-- How far a call of `UpdateOsAccount` has come: it has replaced `old` by `info`
in the account file; it has also seen the fault flag, and flushes the map with
so many attempts left; or it has seen that there is no fault flag. -/
inductive Phase
  | idle
  | written (info old : OsAccountInfo)
  | flushing (info old : OsAccountInfo) (attempts : Nat)
  | checked (info old : OsAccountInfo)

/-- Who flushes the map: the call itself, or one of the threads that were
started when a call had failed. -/
inductive Flusher
  | call
  | task (i : Nat)
deriving DecidableEq

/-- An attempt to flush the map holds the lock on it. It reads the accounts one
after another, writes the map, and removes the fault flag. -/
structure Attempt where
  flusher : Flusher
  idList : List Int
  posixDataMap : PosixDataMap
  written : Bool

structure State where
  accountList : List Int
  infos : ExtTreeMap Int OsAccountInfo compare
  map : Option String
  flag : Bool
  tasks : List Nat
  phase : Phase
  attempt : Option Attempt

def getOsAccountList (s : State) : List OsAccountInfo := s.accountList.filterMap (s.infos[·]?)

def addWanted (m : PosixDataMap) (accountInfo : OsAccountInfo) : PosixDataMap :=
  if !accountInfo.toBeRemoved && accountInfo.isCreateCompleted then
    modifyByLocalId m accountInfo.localId accountInfo.localName
  else m

def want (s : State) : PosixDataMap := (getOsAccountList s).foldl addWanted ∅

def readPosixMapFile (read : Ret) (s : State) : Except ErrCode String :=
  match s.map, read with
  | none, _ => .error .fileFindFileError
  | some _, .error e => .error e
  | some content, .ok () => .ok content

def writePosixMapFile (write : Ret) (content : String) (s : State) : Ret × State :=
  match write with
  | .error e => (.error e, s)
  | .ok () => (.ok (), { s with map := some content })

def removeFaultFlagFile (remove : Ret) (s : State) : State :=
  match remove with
  | .error _ => s
  | .ok () => { s with flag := false }

structure MapAnswer where
  read : Ret
  write : Ret

def deletePosixInfo (a : MapAnswer) (localId : Int) (s : State) : Ret × State :=
  match readPosixMapFile a.read s with
  | .error e => (.error e, s)
  | .ok content =>
      match fromString content with
      | .error e => (.error e, s)
      | .ok posixDataMap =>
          -- a failed write is logged and reported, and the call still succeeds
          (.ok (), (writePosixMapFile a.write (toText (deleteByLocalId posixDataMap localId)) s).2)

def modifyContent (write : Ret) (localId : Int) (accountName content : String) (s : State) : Ret × State :=
  match fromString content with
  | .error e => (.error e, s)
  | .ok posixDataMap =>
      if getAccountNameByLocalId posixDataMap localId = some accountName then (.ok (), s)
      else writePosixMapFile write (toText (modifyByLocalId posixDataMap localId accountName)) s

def modifyPosixInfo (a : MapAnswer) (localId : Int) (accountName : String) (s : State) : Ret × State :=
  match readPosixMapFile a.read s with
  | .error .fileFindFileError => modifyContent a.write localId accountName "" s
  | .error e => (.error e, s)
  | .ok content => modifyContent a.write localId accountName content s

def maxPosixRetryTimes : Nat := 3

def attemptsOf (s : State) : Flusher → Nat
  | .call => match s.phase with
    | .flushing _ _ attempts => attempts
    | _ => 0
  | .task i => s.tasks[i]?.getD 0

def setAttempts (attempts : Nat) (s : State) : Flusher → State
  | .call => match s.phase with
    | .flushing info old _ => { s with phase := if attempts = 0 then .idle else .flushing info old attempts }
    | _ => s
  | .task i => { s with tasks := s.tasks.set i attempts }

def failAttempt (flusher : Flusher) (s : State) : State :=
  setAttempts (attemptsOf s flusher - 1) { s with attempt := none } flusher

def beginFlush (flusher : Flusher) (list : Ret) (s : State) : State :=
  if s.attempt.isSome || attemptsOf s flusher == 0 then s
  else
    match list with
    | .error _ => failAttempt flusher s
    | .ok () => { s with attempt := some ⟨flusher, s.accountList, ∅, false⟩ }

def readNext (s : State) : State :=
  match s.attempt with
  | some ⟨flusher, id :: idList, posixDataMap, written⟩ =>
      { s with
        attempt := some ⟨flusher, idList, (s.infos[id]?.map (addWanted posixDataMap)).getD posixDataMap, written⟩ }
  | _ => s

def writeGathered (write : Ret) (s : State) : State :=
  match s.attempt with
  | some ⟨flusher, [], posixDataMap, false⟩ =>
      match writePosixMapFile write (toText posixDataMap) s with
      | (.error _, s) => failAttempt flusher s
      | (.ok (), s) => { s with attempt := some ⟨flusher, [], posixDataMap, true⟩ }
  | _ => s

def endFlush (removeFlag : Ret) (s : State) : State :=
  match s.attempt with
  | some ⟨flusher, _, _, true⟩ => setAttempts 0 { removeFaultFlagFile removeFlag s with attempt := none } flusher
  | _ => s

/-- The steps of `UpdateOsAccount`, and those of a flush. The first step of a
call ends with the account file written, the second one looks for the fault
flag, and the last one holds the lock on the map. -/
inductive Event
  | update (info : OsAccountInfo) (write : Ret)
  | check (isFaultFlagFileExist : Ret)
  | apply (createFlag : Ret) (a : MapAnswer) (removeFlag : Ret)
  | beginFlush (flusher : Flusher) (list : Ret)
  | readNext
  | writeGathered (write : Ret)
  | endFlush (removeFlag : Ret)

def updateOsAccount (info : OsAccountInfo) (write : Ret) (s : State) : State :=
  match s.infos[info.localId]?, write with
  | some old, .ok () => { s with
      infos := s.infos.insert info.localId { info with localName := cStr info.localName }
      phase := .written info old }
  | _, _ => s

def checkFaultFlag (isFaultFlagFileExist : Ret) (info old : OsAccountInfo) (s : State) : State :=
  match isFaultFlagFileExist with
  | .error _ => { s with phase := .idle }
  | .ok () =>
      if s.flag then { s with phase := .flushing info old maxPosixRetryTimes }
      else if !info.isCreateCompleted then { s with phase := .idle }
      else { s with phase := .checked info old }

def applyAccountInfo (createFlag : Ret) (a : MapAnswer) (removeFlag : Ret) (info : OsAccountInfo) (s : State) : State :=
  match createFlag with
  | .error _ => { s with phase := .idle }
  | .ok () =>
      let s := { s with flag := true }
      match if !info.toBeRemoved then modifyPosixInfo a info.localId info.localName s
        else deletePosixInfo a info.localId s with
      | (.error _, s) => { s with tasks := s.tasks ++ [maxPosixRetryTimes], phase := .idle }
      | (.ok (), s) => { removeFaultFlagFile removeFlag s with phase := .idle }

def step (s : State) (e : Event) : State :=
  match e with
  | .update info write => match s.phase with
    | .idle => updateOsAccount info write s
    | _ => s
  | .check isFaultFlagFileExist => match s.phase with
    | .written info old => checkFaultFlag isFaultFlagFileExist info old s
    | _ => s
  | .apply createFlag a removeFlag => match s.phase, s.attempt with
    | .checked info _, none => applyAccountInfo createFlag a removeFlag info s
    | _, _ => s
  | .beginFlush flusher list => beginFlush flusher list s
  | .readNext => readNext s
  | .writeGathered write => writeGathered write s
  | .endFlush removeFlag => endFlush removeFlag s

def wantedName (accountInfo : OsAccountInfo) : Option String :=
  if !accountInfo.toBeRemoved && accountInfo.isCreateCompleted then some accountInfo.localName else none

def wantedEntry (s : State) (accountInfo : OsAccountInfo) : Option String :=
  if accountInfo.localId ∈ s.accountList then wantedName accountInfo else none

/-- The account list names no account twice, the account files are stored under
the ids of their accounts, and every name takes up one line. -/
structure WellFormed (s : State) : Prop where
  nodup : s.accountList.Nodup
  key : ∀ (id : Int) (info : OsAccountInfo), s.infos[id]? = some info → info.localId = id
  fits : ∀ (id : Int) (info : OsAccountInfo), s.infos[id]? = some info → Decimal.Fits 32 id
  name : ∀ (id : Int) (info : OsAccountInfo), s.infos[id]? = some info → '\n' ∉ info.localName.toList

section wanted

variable {s : State}

theorem getElem?_addWanted (m : PosixDataMap) (accountInfo : OsAccountInfo) (id : Int) :
    (addWanted m accountInfo)[id]? =
      if accountInfo.localId = id then (wantedName accountInfo).or m[id]? else m[id]? := by
  by_cases hwanted : !accountInfo.toBeRemoved && accountInfo.isCreateCompleted
  · by_cases hid : accountInfo.localId = id
    · simp [addWanted, wantedName, hwanted, modifyByLocalId, hid]
    · simp [addWanted, hwanted, modifyByLocalId, getElem?_insert_eq, hid]
  · simp [addWanted, wantedName, hwanted]

theorem getElem?_foldl_addWanted {infos : ExtTreeMap Int OsAccountInfo compare}
    (hkey : ∀ (id : Int) (info : OsAccountInfo), infos[id]? = some info → info.localId = id) (ids : List Int)
    (m : PosixDataMap) (id : Int) :
    ((ids.filterMap (infos[·]?)).foldl addWanted m)[id]? =
      if id ∈ ids then (infos[id]?.bind wantedName).or m[id]? else m[id]? := by
  induction ids generalizing m with
  | nil => rfl
  | cons a ids ih =>
      cases ha : infos[a]? with
      | none =>
          rw [List.filterMap_cons_none ha, ih]
          by_cases hid : id = a
          · subst hid
            simp [ha]
          · simp [hid]
      | some info =>
          rw [List.filterMap_cons_some ha, List.foldl_cons, ih, getElem?_addWanted, hkey a info ha]
          by_cases hid : id = a
          · subst hid
            simp only [List.mem_cons, true_or, if_true, ha, Option.bind_some]
            split_ifs
            · cases wantedName info <;> rfl
            · rfl
          · simp [hid, Ne.symm hid]

theorem getElem?_want (h : WellFormed s) (id : Int) :
    (want s)[id]? = if id ∈ s.accountList then s.infos[id]?.bind wantedName else none := by
  rw [want, getOsAccountList, getElem?_foldl_addWanted h.key]
  simp

theorem wantedName_eq_some {accountInfo : OsAccountInfo} {name : String} (h : wantedName accountInfo = some name) :
    accountInfo.localName = name := by
  rw [wantedName] at h
  split_ifs at h
  exact Option.some.inj h

theorem WellFormed.printable (h : WellFormed s) : Printable (want s) := by
  intro id name hname
  rw [getElem?_want h] at hname
  split_ifs at hname
  obtain ⟨info, hinfo, hwanted⟩ := Option.bind_eq_some_iff.1 hname
  exact ⟨h.fits id info hinfo, wantedName_eq_some hwanted ▸ h.name id info hinfo⟩

end wanted

def content (s : State) : String := s.map.getD ""

def Synced (s : State) : Prop := content s = toText (want s)

def entryInFile (s : State) (id : Int) : Option String := (fromString (content s)).toOption.bind (·[id]?)

def Near (s : State) (info old : OsAccountInfo) : Prop :=
  ∃ m, Printable m ∧ content s = toText m ∧ (∀ id, id ≠ info.localId → m[id]? = (want s)[id]?) ∧
    (m[info.localId]? = wantedEntry s info ∨ m[info.localId]? = wantedEntry s old)

def Pending (s : State) (info old : OsAccountInfo) : Prop :=
  s.infos[info.localId]? = some info ∧ old.localId = info.localId

def Phase.pending : Phase → Option (OsAccountInfo × OsAccountInfo)
  | .idle => none
  | .written info old => some (info, old)
  | .flushing info old _ => some (info, old)
  | .checked info old => some (info, old)

def UpToDate (s : State) : Prop :=
  match s.phase.pending with
  | none => Synced s
  | some (info, old) => Near s info old

/-- What an attempt has gathered is what is wanted of the accounts it has read.
Only a thread of its own can have read the account that is being updated before
the update. -/
structure Gathered (s : State) (a : Attempt) : Prop where
  listed : ∀ id ∈ a.idList, id ∈ s.accountList
  nodup : a.idList.Nodup
  printable : Printable a.posixDataMap
  unread : ∀ id ∈ a.idList, a.posixDataMap[id]? = none
  read : ∀ id, id ∉ a.idList → a.posixDataMap[id]? = (want s)[id]? ∨ a.flusher ≠ .call ∧
    ∃ info old, s.phase.pending = some (info, old) ∧ info.localId = id ∧ a.posixDataMap[id]? = wantedEntry s old
  written : a.written = true → a.idList = [] ∧ content s = toText a.posixDataMap
  call : a.flusher = .call → ∃ info old n, s.phase = .flushing info old (n + 1)

/-- Without a fault flag the file holds the wanted map, up to the account that
is being updated. -/
structure Inv (s : State) : Prop where
  wellFormed : WellFormed s
  pending : ∀ info old, s.phase.pending = some (info, old) → Pending s info old
  upToDate : s.flag = true ∨ UpToDate s
  checked : ∀ info old, s.phase = .checked info old → s.flag = false ∧ info.isCreateCompleted = true
  gathered : ∀ a, s.attempt = some a → Gathered s a

/-- A call has nothing left to do in the file: it is marked as faulty, or has the
entry of the account. -/
def EntryKept (s : State) (info : OsAccountInfo) : Prop :=
  s.flag = true ∨ entryInFile s info.localId = wantedEntry s info

def ReadAgain (s : State) (info : OsAccountInfo) : Prop :=
  ∀ a, s.attempt = some a → info.localId ∈ a.idList ∨ a.posixDataMap[info.localId]? = wantedEntry s info

/-- The steps that keep the file and the flag right. Names take up one line and
have no NUL. A call that ends without having got to the map (the look for the
flag or its creation fails, the account is incomplete, or its own flush has
failed for the last time) leaves nothing to do. Only listed accounts are added,
to a map that has been read if there is one and it is written again with other
accounts in it. And the map without a removed account can be written. -/
def Clean (s : State) (e : Event) : Prop :=
  match e, s.phase with
  | .update info (.ok ()), .idle => '\n' ∉ info.localName.toList ∧ NoNul info.localName
  | .check (.error _), .written info _ => EntryKept s info ∧ ReadAgain s info
  | .check (.ok ()), .written info _ =>
      s.flag = true ∨ info.isCreateCompleted ∨ EntryKept s info ∧ ReadAgain s info
  | .apply (.error _) _ _, .checked info _ => s.attempt = none → EntryKept s info
  | .apply (.ok ()) a _, .checked info _ => s.attempt = none →
      if info.toBeRemoved then a.read ≠ .ok () ∨ a.write = .ok () ∨ entryInFile s info.localId = wantedEntry s info
      else info.localId ∈ s.accountList ∧ (s.map = none ∨ a.read ≠ .error .fileFindFileError ∨ a.write ≠ .ok () ∨
        ∀ id, id ≠ info.localId → (want s)[id]? = none)
  | .beginFlush .call (.error _), .flushing info _ 1 => s.attempt = none → EntryKept s info
  | .writeGathered (.error _), .flushing info _ 1 =>
      (∃ posixDataMap, s.attempt = some ⟨.call, [], posixDataMap, false⟩) → EntryKept s info
  | _, _ => True

section steps

variable {s : State} {info old : OsAccountInfo} {a : Attempt}

theorem Pending.getElem?_want (h : Pending s info old) (hs : WellFormed s) :
    (want s)[info.localId]? = wantedEntry s info := by
  rw [PosixMapFile.getElem?_want hs, h.1]
  rfl

theorem Pending.eq_want (h : Pending s info old) (hs : WellFormed s) {m : PosixDataMap}
    (hother : ∀ id, id ≠ info.localId → m[id]? = (want s)[id]?) (hid : m[info.localId]? = wantedEntry s info) :
    m = want s := by
  apply ExtTreeMap.ext_getElem?
  intro id
  by_cases he : id = info.localId
  · rw [he, hid, h.getElem?_want hs]
  · exact hother id he

theorem Near.synced (h : Near s info old) (hp : Pending s info old) (hs : WellFormed s)
    (hentry : entryInFile s info.localId = wantedEntry s info) : Synced s := by
  obtain ⟨m, hprintable, hcontent, hother, -⟩ := h
  rw [entryInFile, hcontent, fromString_toText hprintable] at hentry
  rw [Synced, hcontent, hp.eq_want hs hother hentry]

theorem UpToDate.of_pending (h : UpToDate s) (hp : s.phase.pending = some (info, old)) : Near s info old := by
  rwa [UpToDate, hp] at h

theorem Inv.synced (h : Inv s) (hp : s.phase.pending = some (info, old)) (hkept : EntryKept s info) :
    s.flag = true ∨ Synced s := by
  rcases h.upToDate with hflag | hnear
  · exact .inl hflag
  · exact hkept.imp_right fun hentry => (hnear.of_pending hp).synced (h.pending _ _ hp) h.wellFormed hentry

theorem Gathered.eq_want (h : Gathered s a) (hall : a.idList = []) (hmine : a.flusher = .call ∨ s.phase = .idle) :
    a.posixDataMap = want s := by
  apply ExtTreeMap.ext_getElem?
  intro id
  rcases h.read id (hall ▸ List.not_mem_nil) with heq | ⟨hne, info, old, hp, -⟩
  · exact heq
  · rcases hmine with hcall | hidle
    · exact absurd hcall hne
    · rw [hidle] at hp
      cases hp

theorem Gathered.upToDate (h : Gathered s a) (hall : a.idList = []) (hs : WellFormed s)
    (hpending : ∀ info old, s.phase.pending = some (info, old) → Pending s info old)
    (hcontent : content s = toText a.posixDataMap) : UpToDate s := by
  rw [UpToDate]
  split
  · rename_i hnone
    have hidle : s.phase = .idle := by
      cases hphase : s.phase with
      | idle => rfl
      | _ => rw [hphase] at hnone; cases hnone
    rw [Synced, hcontent, h.eq_want hall (.inr hidle)]
  · rename_i info old hp
    refine ⟨a.posixDataMap, h.printable, hcontent, fun id hid => ?_, ?_⟩
    · rcases h.read id (hall ▸ List.not_mem_nil) with heq | ⟨-, info', old', hp', hid', -⟩
      · exact heq
      · obtain ⟨rfl, rfl⟩ := Prod.mk.inj (Option.some.inj (hp.symm.trans hp'))
        exact absurd hid'.symm hid
    · rcases h.read info.localId (hall ▸ List.not_mem_nil) with heq | ⟨-, info', old', hp', -, hold⟩
      · exact .inl (heq.trans ((hpending _ _ hp).getElem?_want hs))
      · obtain ⟨rfl, rfl⟩ := Prod.mk.inj (Option.some.inj (hp.symm.trans hp'))
        exact .inr hold

theorem inv_idle (hs : WellFormed s) (h : s.flag = true ∨ Synced s)
    (hgathered : ∀ a, s.attempt = some a → Gathered { s with phase := .idle } a) : Inv { s with phase := .idle } where
  wellFormed := ⟨hs.nodup, hs.key, hs.fits, hs.name⟩
  pending := fun _ _ hphase => nomatch hphase
  upToDate := h
  checked := fun _ _ hphase => nomatch hphase
  gathered := hgathered

theorem inv_idle_of_none (hs : WellFormed s) (h : s.flag = true ∨ Synced s) (hnone : s.attempt = none) :
    Inv { s with phase := .idle } :=
  inv_idle hs h fun a ha => by
    rw [hnone] at ha
    cases ha

/-- A flush by another thread that goes on when the call ends has read the account again. -/
theorem Gathered.idle (h : Gathered s a) (hs : WellFormed s) (hp : s.phase.pending = some (info, old))
    (hpending : Pending s info old) (hother : a.flusher ≠ .call)
    (hagain : info.localId ∈ a.idList ∨ a.posixDataMap[info.localId]? = wantedEntry s info) :
    Gathered { s with phase := .idle } a where
  listed := h.listed
  nodup := h.nodup
  printable := h.printable
  unread := h.unread
  read id hid := by
    refine .inl ?_
    rcases h.read id hid with heq | ⟨-, info', old', hp', rfl, -⟩
    · exact heq
    · obtain ⟨rfl, rfl⟩ := Prod.mk.inj (Option.some.inj (hp.symm.trans hp'))
      exact (hagain.resolve_left hid).trans (hpending.getElem?_want hs).symm
  written := h.written
  call hcall := absurd hcall hother

theorem Gathered.phase (h : Gathered s a) (hother : a.flusher ≠ .call) {phase : Phase}
    (hsame : phase.pending = s.phase.pending) : Gathered { s with phase } a where
  listed := h.listed
  nodup := h.nodup
  printable := h.printable
  unread := h.unread
  read id hid := by
    rcases h.read id hid with heq | ⟨-, hold⟩
    · exact .inl heq
    · refine .inr ⟨hother, ?_⟩
      rw [← hsame] at hold
      exact hold
  written := h.written
  call hcall := absurd hcall hother

theorem Inv.notCall (h : Inv s) (ha : s.attempt = some a) (hphase : ∀ info old n, s.phase ≠ .flushing info old (n + 1)) :
    a.flusher ≠ .call := fun hcall => by
  obtain ⟨info, old, n, heq⟩ := (h.gathered a ha).call hcall
  exact hphase info old n heq

theorem Inv.update (h : Inv s) (hphase : s.phase = .idle) {write : Ret} (hclean : Clean s (.update info write)) :
    Inv (updateOsAccount info write s) := by
  cases hold : s.infos[info.localId]? with
  | none =>
      simp only [updateOsAccount, hold]
      exact h
  | some old =>
      cases write with
      | error e =>
          simp only [updateOsAccount, hold]
          exact h
      | ok _ =>
          simp only [Clean, hphase] at hclean
          simp only [updateOsAccount, hold, hclean.2.cStr]
          have hinfos (id : Int) := getElem?_insert_eq s.infos info.localId id info
          have hs : WellFormed { s with infos := s.infos.insert info.localId info, phase := .written info old } := by
            refine ⟨h.wellFormed.nodup, fun id info' hid => ?_, fun id info' hid => ?_, fun id info' hid => ?_⟩
            all_goals
              rw [hinfos] at hid
              split_ifs at hid with he
            · cases hid
              exact he
            · exact h.wellFormed.key id info' hid
            · exact he ▸ h.wellFormed.fits _ old hold
            · exact h.wellFormed.fits id info' hid
            · cases hid
              exact hclean.1
            · exact h.wellFormed.name id info' hid
          have hp : Pending { s with infos := s.infos.insert info.localId info, phase := .written info old } info old :=
            ⟨ExtTreeMap.getElem?_insert_self, h.wellFormed.key _ old hold⟩
          have hother (id : Int) (hid : id ≠ info.localId) : (want s)[id]? =
              (want { s with infos := s.infos.insert info.localId info, phase := .written info old })[id]? := by
            rw [getElem?_want h.wellFormed, getElem?_want hs]
            dsimp only
            rw [hinfos, if_neg (Ne.symm hid)]
          have hbefore : (want s)[info.localId]? = wantedEntry s old := by
            rw [getElem?_want h.wellFormed, hold, wantedEntry, hp.2]
            rfl
          have hidle : s.phase.pending = none := by rw [hphase]; rfl
          refine ⟨hs, fun info' old' hwritten => ?_, h.upToDate.imp_right fun hsynced => ?_,
            fun _ _ hchecked => (nomatch hchecked), fun a ha => ?_⟩
          · cases hwritten
            exact hp
          · rw [UpToDate, hidle] at hsynced
            exact ⟨want s, h.wellFormed.printable, hsynced, hother, .inr hbefore⟩
          · have hg := h.gathered a ha
            have hne : a.flusher ≠ .call := h.notCall ha (by simp [hphase])
            refine ⟨hg.listed, hg.nodup, hg.printable, hg.unread, fun id hid => ?_, hg.written,
              fun hcall => absurd hcall hne⟩
            have heq : a.posixDataMap[id]? = (want s)[id]? := by
              rcases hg.read id hid with heq | ⟨-, info', old', hp', -⟩
              · exact heq
              · rw [hidle] at hp'
                cases hp'
            by_cases he : id = info.localId
            · refine .inr ⟨hne, info, old, rfl, he.symm, ?_⟩
              rw [heq, he, hbefore]
              rfl
            · exact .inl (heq.trans (hother id he))

theorem Inv.check (h : Inv s) (hphase : s.phase = .written info old) {isFaultFlagFileExist : Ret}
    (hclean : Clean s (.check isFaultFlagFileExist)) : Inv (checkFaultFlag isFaultFlagFileExist info old s) := by
  have hp : s.phase.pending = some (info, old) := by rw [hphase]; rfl
  have hne (a : Attempt) (ha : s.attempt = some a) : a.flusher ≠ .call := h.notCall ha (by simp [hphase])
  have hends (hkept : EntryKept s info) (hagain : ReadAgain s info) : Inv { s with phase := .idle } :=
    inv_idle h.wellFormed (h.synced hp hkept) fun a ha =>
      (h.gathered a ha).idle h.wellFormed hp (h.pending _ _ hp) (hne a ha) (hagain a ha)
  have hgoesOn {phase : Phase} (hsame : phase.pending = some (info, old))
      (hchecked : ∀ info' old', phase = .checked info' old' → s.flag = false ∧ info'.isCreateCompleted = true) :
      Inv { s with phase } := by
    refine ⟨⟨h.wellFormed.nodup, h.wellFormed.key, h.wellFormed.fits, h.wellFormed.name⟩,
      fun info' old' hp' => h.pending info' old' (hp.trans (hsame.symm.trans hp')), h.upToDate.imp_right fun hdate => ?_,
      hchecked, fun a ha => (h.gathered a ha).phase (hne a ha) (hsame.trans hp.symm)⟩
    rw [UpToDate, hp] at hdate
    rw [UpToDate, hsame]
    exact hdate
  simp only [Clean, hphase] at hclean
  cases isFaultFlagFileExist with
  | error e => exact hends hclean.1 hclean.2
  | ok _ =>
      rw [checkFaultFlag]
      split_ifs with hflag hcompleted
      · exact hgoesOn rfl fun _ _ hchecked => nomatch hchecked
      · have hnot : ¬info.isCreateCompleted := by simpa using hcompleted
        obtain ⟨hkept, hagain⟩ := (hclean.resolve_left hflag).resolve_left hnot
        exact hends hkept hagain
      · refine hgoesOn rfl fun info' old' hchecked => ?_
        cases hchecked
        exact ⟨by simpa using hflag, by simpa using hcompleted⟩

theorem removeFaultFlagFile_synced (h : Synced s) (remove : Ret) : Synced (removeFaultFlagFile remove s) := by
  cases remove with
  | error e => exact h
  | ok _ => exact h

theorem removeFaultFlagFile_wellFormed (h : WellFormed s) (remove : Ret) :
    WellFormed (removeFaultFlagFile remove s) := by
  cases remove with
  | error e => exact h
  | ok _ => exact ⟨h.nodup, h.key, h.fits, h.name⟩

theorem removeFaultFlagFile_attempt (remove : Ret) (s : State) :
    (removeFaultFlagFile remove s).attempt = s.attempt := by
  cases remove <;> rfl

/-- An update of the map in the file: it fails and keeps everything, or the file
holds the wanted map afterwards. -/
def Updates (s : State) (r : Ret × State) : Prop :=
  (∃ e, r = (.error e, s)) ∨ ∃ map, r = (.ok (), { s with map }) ∧ Synced { s with map }

theorem modifyContent_updates {write : Ret} {text : String} {m : PosixDataMap} (htext : fromString text = .ok m)
    (hsame : m[info.localId]? = some info.localName → Synced s)
    (hwrite : write = .ok () → m.insert info.localId info.localName = want s) :
    Updates s (modifyContent write info.localId info.localName text s) := by
  rw [modifyContent, htext]
  dsimp only
  split_ifs with hfound
  · exact .inr ⟨s.map, rfl, hsame hfound⟩
  · cases write with
    | error e => exact .inl ⟨e, rfl⟩
    | ok _ =>
        refine .inr ⟨_, rfl, ?_⟩
        rw [modifyByLocalId, hwrite rfl]
        rfl

theorem modifyPosixInfo_updates (hs : WellFormed s) (hp : Pending s info old) (hnear : Near s info old)
    (hname : wantedEntry s info = some info.localName) {a : MapAnswer}
    (ha : s.map = none ∨ a.read ≠ .error .fileFindFileError ∨ a.write ≠ .ok () ∨
      ∀ id, id ≠ info.localId → (want s)[id]? = none) :
    Updates s (modifyPosixInfo a info.localId info.localName s) := by
  have hadded {m : PosixDataMap} (hother : ∀ id, id ≠ info.localId → m[id]? = (want s)[id]?) :
      m.insert info.localId info.localName = want s := by
    refine hp.eq_want hs (fun id hid => ?_) ?_
    · rw [getElem?_insert_eq, if_neg (Ne.symm hid), hother id hid]
    · rw [ExtTreeMap.getElem?_insert_self, hname]
  have hread : Updates s (modifyContent a.write info.localId info.localName (content s) s) := by
    obtain ⟨m, hprintable, hcontent, hother, -⟩ := hnear
    refine modifyContent_updates (hcontent ▸ fromString_toText hprintable) (fun hfound => ?_) fun _ => hadded hother
    rw [Synced, hcontent, hp.eq_want hs hother (hfound.trans hname.symm)]
  cases hmap : s.map with
  | none =>
      rw [content, hmap] at hread
      simp only [modifyPosixInfo, readPosixMapFile, hmap]
      exact hread
  | some text =>
      rw [content, hmap] at hread
      cases hanswer : a.read with
      | ok _ =>
          simp only [modifyPosixInfo, readPosixMapFile, hmap, hanswer]
          exact hread
      | error e =>
          simp only [modifyPosixInfo, readPosixMapFile, hmap, hanswer]
          split
          · -- the file is there, and taken for missing
            rename_i heq
            have hmissing : a.read = .error .fileFindFileError :=
              hanswer.trans (congrArg Except.error (Except.error.inj heq))
            refine modifyContent_updates (m := ∅) rfl (fun hfound => by simp at hfound) fun hwrite =>
              hadded fun id hid => ?_
            have halone := ((ha.resolve_left (by simp [hmap])).resolve_left (not_not_intro hmissing)).resolve_left
              (not_not_intro hwrite)
            rw [halone id hid, ExtTreeMap.getElem?_empty]
          · exact .inl ⟨_, rfl⟩
          · rename_i heq
            cases heq

theorem deletePosixInfo_updates (hs : WellFormed s) (hp : Pending s info old) (hnear : Near s info old)
    (hname : wantedEntry s info = none) {a : MapAnswer}
    (ha : a.read ≠ .ok () ∨ a.write = .ok () ∨ entryInFile s info.localId = wantedEntry s info) :
    Updates s (deletePosixInfo a info.localId s) := by
  cases hmap : s.map with
  | none =>
      simp only [deletePosixInfo, readPosixMapFile, hmap]
      exact .inl ⟨_, rfl⟩
  | some text =>
      cases hread : a.read with
      | error e =>
          simp only [deletePosixInfo, readPosixMapFile, hmap, hread]
          exact .inl ⟨_, rfl⟩
      | ok _ =>
          have hsynced (hentry : entryInFile s info.localId = wantedEntry s info) : Synced s := hnear.synced hp hs hentry
          obtain ⟨m, hprintable, hcontent, hother, -⟩ := hnear
          obtain rfl : text = toText m := by
            rw [content, hmap] at hcontent
            exact hcontent
          simp only [deletePosixInfo, readPosixMapFile, hmap, hread, fromString_toText hprintable]
          cases hwrite : a.write with
          | error e =>
              refine .inr ⟨s.map, rfl, hsynced ?_⟩
              rw [hread, hwrite] at ha
              exact (ha.resolve_left (not_not_intro rfl)).resolve_left (nomatch ·)
          | ok _ =>
              refine .inr ⟨_, rfl, ?_⟩
              have hm : deleteByLocalId m info.localId = want s := by
                refine hp.eq_want hs (fun id hid => ?_) ?_
                · rw [deleteByLocalId, getElem?_erase_eq, if_neg (Ne.symm hid), hother id hid]
                · rw [deleteByLocalId, ExtTreeMap.getElem?_erase_self, hname]
              rw [hm]
              rfl

theorem Inv.apply (h : Inv s) (hphase : s.phase = .checked info old) (hfree : s.attempt = none) {createFlag : Ret}
    {a : MapAnswer} {removeFlag : Ret} (hclean : Clean s (.apply createFlag a removeFlag)) :
    Inv (applyAccountInfo createFlag a removeFlag info s) := by
  have hp : s.phase.pending = some (info, old) := by rw [hphase]; rfl
  have hpending := h.pending _ _ hp
  obtain ⟨hflag, hcompleted⟩ := h.checked _ _ hphase
  have hnear : Near s info old := (h.upToDate.resolve_left (by simp [hflag])).of_pending hp
  simp only [Clean, hphase] at hclean
  cases createFlag with
  | error e => exact inv_idle_of_none h.wellFormed (h.synced hp (hclean hfree)) hfree
  | ok _ =>
      replace hclean := hclean hfree
      have hs : WellFormed { s with flag := true } :=
        ⟨h.wellFormed.nodup, h.wellFormed.key, h.wellFormed.fits, h.wellFormed.name⟩
      have hupdates : Updates { s with flag := true }
          (if !info.toBeRemoved then modifyPosixInfo a info.localId info.localName { s with flag := true }
            else deletePosixInfo a info.localId { s with flag := true }) := by
        by_cases hremoved : info.toBeRemoved
        · rw [if_neg (by simpa using hremoved)]
          rw [if_pos hremoved] at hclean
          exact deletePosixInfo_updates hs hpending hnear (by simp [wantedEntry, wantedName, hremoved]) hclean
        · rw [if_pos (by simpa using hremoved)]
          rw [if_neg hremoved] at hclean
          exact modifyPosixInfo_updates hs hpending hnear
            (by simp [wantedEntry, wantedName, hremoved, hcompleted, hclean.1]) hclean.2
      rw [applyAccountInfo]
      dsimp only
      obtain ⟨e, hr⟩ | ⟨map, hr, hsynced⟩ := hupdates
      · rw [hr]
        exact inv_idle_of_none (s := { s with flag := true, tasks := s.tasks ++ [maxPosixRetryTimes] })
          ⟨hs.nodup, hs.key, hs.fits, hs.name⟩ (.inl rfl) hfree
      · rw [hr]
        have hs' : WellFormed { s with map, flag := true } := ⟨hs.nodup, hs.key, hs.fits, hs.name⟩
        exact inv_idle_of_none (removeFaultFlagFile_wellFormed hs' removeFlag)
          (.inr (removeFaultFlagFile_synced hsynced removeFlag)) ((removeFaultFlagFile_attempt removeFlag _).trans hfree)

theorem Inv.free (h : Inv s) : Inv { s with attempt := none } where
  wellFormed := ⟨h.wellFormed.nodup, h.wellFormed.key, h.wellFormed.fits, h.wellFormed.name⟩
  pending := h.pending
  upToDate := h.upToDate
  checked := h.checked
  gathered := fun _ ha => nomatch ha

theorem Inv.setAttempts (h : Inv s) (hfree : s.attempt = none) (attempts : Nat) (flusher : Flusher)
    (hends : flusher = .call → attempts = 0 → ∀ info old n, s.phase = .flushing info old n → s.flag = true ∨ Synced s) :
    Inv (setAttempts attempts s flusher) := by
  have hnone {a : Attempt} (ha : s.attempt = some a) : False := by
    rw [hfree] at ha
    cases ha
  cases flusher with
  | task i =>
      exact ⟨⟨h.wellFormed.nodup, h.wellFormed.key, h.wellFormed.fits, h.wellFormed.name⟩, h.pending, h.upToDate,
        h.checked, fun a ha => (hnone ha).elim⟩
  | call =>
      rw [PosixMapFile.setAttempts]
      split
      · rename_i info old n hphase
        have hp : s.phase.pending = some (info, old) := by rw [hphase]; rfl
        split_ifs with hzero
        · exact inv_idle_of_none h.wellFormed (hends rfl hzero info old n hphase) hfree
        · refine ⟨⟨h.wellFormed.nodup, h.wellFormed.key, h.wellFormed.fits, h.wellFormed.name⟩,
            fun info' old' hp' => h.pending info' old' (hp.trans hp'), h.upToDate.imp_right fun hdate => ?_,
            fun _ _ hchecked => (nomatch hchecked), fun a ha => (hnone ha).elim⟩
          rw [UpToDate, hp] at hdate
          exact hdate
      · exact h

theorem Inv.failAttempt (h : Inv s) (flusher : Flusher)
    (hkept : flusher = .call → ∀ info old, s.phase = .flushing info old 1 → EntryKept s info)
    (hleft : flusher = .call → attemptsOf s .call ≠ 0) : Inv (failAttempt flusher s) := by
  refine h.free.setAttempts rfl _ flusher fun hcall hzero info old n hphase => ?_
  subst hcall
  have hphase' : s.phase = .flushing info old n := hphase
  replace hleft := hleft rfl
  rw [attemptsOf, hphase'] at hzero hleft
  obtain rfl : n = 1 := by
    dsimp only at hzero hleft
    omega
  exact h.synced (by rw [hphase']; rfl) (hkept rfl info old hphase')

theorem Inv.beginFlush (h : Inv s) (flusher : Flusher) (list : Ret) (hclean : Clean s (.beginFlush flusher list)) :
    Inv (beginFlush flusher list s) := by
  rw [PosixMapFile.beginFlush.eq_def]
  split_ifs with hbusy
  · exact h
  · rw [Bool.or_eq_true, not_or, Option.isSome_iff_ne_none, not_not, beq_iff_eq] at hbusy
    obtain ⟨hfree, hleft⟩ := hbusy
    cases list with
    | error e =>
        refine h.failAttempt flusher (fun hcall info old hphase => ?_) fun hcall => hcall ▸ hleft
        subst hcall
        simp only [Clean, hphase] at hclean
        exact hclean hfree
    | ok _ =>
        refine ⟨⟨h.wellFormed.nodup, h.wellFormed.key, h.wellFormed.fits, h.wellFormed.name⟩, h.pending, h.upToDate,
          h.checked, fun a ha => ?_⟩
        obtain rfl := Option.some.inj ha
        refine ⟨fun _ hid => hid, h.wellFormed.nodup, fun id name hname => by simp at hname, fun id _ => by simp,
          fun id hid => .inl ?_, fun hwritten => (nomatch hwritten), fun hcall => ?_⟩
        · change (∅ : PosixDataMap)[id]? = (want s)[id]?
          rw [getElem?_want h.wellFormed, if_neg hid, ExtTreeMap.getElem?_empty]
        · obtain rfl : flusher = .call := hcall
          rw [attemptsOf] at hleft
          cases hphase : s.phase with
          | flushing info old n =>
              rw [hphase] at hleft
              obtain ⟨k, rfl⟩ := Nat.exists_eq_succ_of_ne_zero hleft
              exact ⟨info, old, k, rfl⟩
          | _ => rw [hphase] at hleft; exact absurd rfl hleft

theorem Inv.readNext (h : Inv s) : Inv (readNext s) := by
  rw [PosixMapFile.readNext]
  split
  · rename_i flusher id idList m written hattempt
    have hg := h.gathered _ hattempt
    refine ⟨⟨h.wellFormed.nodup, h.wellFormed.key, h.wellFormed.fits, h.wellFormed.name⟩, h.pending, h.upToDate,
      h.checked, fun a ha => ?_⟩
    obtain rfl := Option.some.inj ha
    obtain ⟨hnew, hnodup⟩ := List.nodup_cons.mp hg.nodup
    have hnone : m[id]? = none := hg.unread id List.mem_cons_self
    have hget (j : Int) : ((s.infos[id]?.map (addWanted m)).getD m)[j]? =
        if j = id then s.infos[id]?.bind wantedName else m[j]? := by
      cases hinfo : s.infos[id]? with
      | none =>
          rw [Option.map_none, Option.getD_none]
          split_ifs with hj
          · rw [hj, hnone]
            rfl
          · rfl
      | some info =>
          rw [Option.map_some, Option.getD_some, getElem?_addWanted, h.wellFormed.key id info hinfo]
          by_cases hj : j = id
          · rw [if_pos hj.symm, if_pos hj, hj, hnone, Option.or_none]
            rfl
          · rw [if_neg (Ne.symm hj), if_neg hj]
    have hwant : (want s)[id]? = s.infos[id]?.bind wantedName := by
      rw [getElem?_want h.wellFormed, if_pos (hg.listed id List.mem_cons_self)]
    have hunwritten : written = true → False := fun hwritten => by
      cases (hg.written hwritten).1
    refine ⟨fun j hj => hg.listed j (List.mem_cons_of_mem id hj), hnodup, fun j name hname => ?_, fun j hj => ?_,
      fun j hj => ?_, fun hwritten => (hunwritten hwritten).elim, hg.call⟩
    · rw [hget] at hname
      split_ifs at hname with hj
      · refine h.wellFormed.printable j name ?_
        rw [hj, hwant]
        exact hname
      · exact hg.printable j name hname
    · rw [hget, if_neg (ne_of_mem_of_not_mem hj hnew)]
      exact hg.unread j (List.mem_cons_of_mem id hj)
    · by_cases he : j = id
      · refine .inl ?_
        rw [hget, if_pos he, he]
        exact hwant.symm
      · rw [hget, if_neg he]
        exact hg.read j fun hmem => (List.mem_cons.mp hmem).elim he hj
  · exact h

theorem Inv.writeGathered (h : Inv s) (write : Ret) (hclean : Clean s (.writeGathered write)) :
    Inv (writeGathered write s) := by
  rw [PosixMapFile.writeGathered]
  split
  · rename_i flusher m hattempt
    have hg := h.gathered _ hattempt
    cases write with
    | error e =>
        refine h.failAttempt flusher (fun hcall info old hphase => ?_) fun hcall => ?_
        · subst hcall
          simp only [Clean, hphase] at hclean
          exact hclean ⟨m, hattempt⟩
        · obtain ⟨info, old, n, hphase⟩ := hg.call hcall
          rw [attemptsOf, hphase]
          exact Nat.succ_ne_zero n
    | ok _ =>
        have hs : WellFormed { s with map := some (toText m), attempt := some ⟨flusher, [], m, true⟩ } :=
          ⟨h.wellFormed.nodup, h.wellFormed.key, h.wellFormed.fits, h.wellFormed.name⟩
        have hnew : Gathered { s with map := some (toText m), attempt := some ⟨flusher, [], m, true⟩ }
            ⟨flusher, [], m, true⟩ :=
          ⟨hg.listed, hg.nodup, hg.printable, hg.unread, hg.read, fun _ => ⟨rfl, rfl⟩, hg.call⟩
        refine ⟨hs, h.pending, .inr (hnew.upToDate rfl hs h.pending rfl), h.checked, fun a ha => ?_⟩
        obtain rfl := Option.some.inj ha
        exact hnew
  · exact h

theorem Inv.endFlush (h : Inv s) (removeFlag : Ret) : Inv (endFlush removeFlag s) := by
  rw [PosixMapFile.endFlush]
  split
  · rename_i flusher idList m hattempt
    have hg := h.gathered _ hattempt
    obtain ⟨hall, hcontent⟩ := hg.written rfl
    have hdate : UpToDate s := hg.upToDate hall h.wellFormed h.pending hcontent
    have hremoved : Inv { removeFaultFlagFile removeFlag s with attempt := none } := by
      cases removeFlag with
      | error e => exact h.free
      | ok _ =>
          exact ⟨⟨h.wellFormed.nodup, h.wellFormed.key, h.wellFormed.fits, h.wellFormed.name⟩, h.pending, .inr hdate,
            fun info old hchecked => ⟨rfl, (h.checked info old hchecked).2⟩, fun _ ha => nomatch ha⟩
    refine hremoved.setAttempts rfl 0 flusher fun hcall _ info old n hphase => .inr ?_
    have hsynced : Synced s := by rw [Synced, hcontent, hg.eq_want hall (.inl hcall)]
    cases removeFlag with
    | error e => exact hsynced
    | ok _ => exact hsynced
  · exact h

theorem Inv.step (h : Inv s) (e : Event) (hclean : Clean s e) : Inv (step s e) := by
  cases e with
  | update info write =>
      simp only [PosixMapFile.step]
      split
      · rename_i hphase
        exact h.update hphase hclean
      · exact h
  | check isFaultFlagFileExist =>
      simp only [PosixMapFile.step]
      split
      · rename_i hphase
        exact h.check hphase hclean
      · exact h
  | apply createFlag a removeFlag =>
      simp only [PosixMapFile.step]
      split
      · rename_i hphase hfree
        exact h.apply hphase hfree hclean
      · exact h
  | beginFlush flusher list => exact h.beginFlush flusher list hclean
  | readNext => exact h.readNext
  | writeGathered write => exact h.writeGathered write hclean
  | endFlush removeFlag => exact h.endFlush removeFlag

end steps

/-- Between the calls, with no flush under way, and with a fault flag or the
wanted map in the file. -/
structure Start (s : State) : Prop where
  wellFormed : WellFormed s
  idle : s.phase = .idle
  free : s.attempt = none
  synced : s.flag = true ∨ Synced s

theorem upToDate_idle {s : State} (h : s.phase = .idle) : UpToDate s ↔ Synced s := by
  rw [UpToDate, h]
  rfl

theorem Start.inv {s : State} (h : Start s) : Inv s where
  wellFormed := h.wellFormed
  pending info old hp := by
    rw [h.idle] at hp
    cases hp
  upToDate := h.synced.imp_right (upToDate_idle h.idle).mpr
  checked info old hphase := by
    rw [h.idle] at hphase
    cases hphase
  gathered a ha := by
    rw [h.free] at ha
    cases ha

section examples

def alice : OsAccountInfo := ⟨100, "alice", true, false⟩

def bob : OsAccountInfo := ⟨101, "bob", true, false⟩

def bobRemoved : OsAccountInfo := ⟨101, "bob", true, true⟩

def bothInfos : ExtTreeMap Int OsAccountInfo compare :=
  (∅ : ExtTreeMap Int OsAccountInfo compare).insert 100 alice |>.insert 101 bob

def bothNames : PosixDataMap := (∅ : PosixDataMap).insert 100 "alice" |>.insert 101 "bob"

def twoAccounts : State where
  accountList := [100, 101]
  infos := bothInfos
  map := some (toText bothNames)
  flag := false
  tasks := []
  phase := .idle
  attempt := none

def removeBob (write : Ret) : List Event :=
  [.update bobRemoved (.ok ()), .check (.ok ()), .apply (.ok ()) ⟨.ok (), write⟩ (.ok ())]

theorem getElem?_bothInfos (id : Int) :
    bothInfos[id]? = if 101 = id then some bob else if 100 = id then some alice else none := by
  rw [bothInfos, getElem?_insert_eq, getElem?_insert_eq, ExtTreeMap.getElem?_empty]

theorem getElem?_bothNames (id : Int) :
    bothNames[id]? = if 101 = id then some "bob" else if 100 = id then some "alice" else none := by
  rw [bothNames, getElem?_insert_eq, getElem?_insert_eq, ExtTreeMap.getElem?_empty]

theorem start_twoAccounts : Start twoAccounts := by
  have hs : WellFormed twoAccounts := by
    have hinfos (id : Int) (info : OsAccountInfo) (h : twoAccounts.infos[id]? = some info) :
        id = 101 ∧ info = bob ∨ id = 100 ∧ info = alice := by
      rw [twoAccounts, getElem?_bothInfos] at h
      split_ifs at h with h101 h100
      · exact .inl ⟨h101.symm, (Option.some.inj h).symm⟩
      · exact .inr ⟨h100.symm, (Option.some.inj h).symm⟩
    refine ⟨by decide, fun id info h => ?_, fun id info h => ?_, fun id info h => ?_⟩
    all_goals obtain ⟨rfl, rfl⟩ | ⟨rfl, rfl⟩ := hinfos id info h
    all_goals decide
  refine ⟨hs, rfl, rfl, .inr (congrArg toText (ExtTreeMap.ext_getElem? fun id => ?_))⟩
  rw [getElem?_want hs, getElem?_bothNames, twoAccounts, getElem?_bothInfos]
  by_cases h101 : 101 = id
  · subst h101
    rfl
  · by_cases h100 : 100 = id
    · subst h100
      rfl
    · simp [h101, h100, Ne.symm h101, Ne.symm h100]

theorem run_removeBob (write : Ret) :
    Machine.run step twoAccounts (removeBob write) =
      { twoAccounts with
        infos := bothInfos.insert 101 bobRemoved
        map := some (toText (if write = .ok () then bothNames.erase 101 else bothNames)) } := by
  have hprintable : Printable bothNames := by
    intro id name h
    rw [getElem?_bothNames] at h
    split_ifs at h with h101 h100
    · cases h
      exact h101 ▸ by decide
    · cases h
      exact h100 ▸ by decide
  have hdelete (s : State) (hmap : s.map = some (toText bothNames)) :
      deletePosixInfo ⟨.ok (), write⟩ bobRemoved.localId s =
        (.ok (), (writePosixMapFile write (toText (bothNames.erase 101)) s).2) := by
    simp only [deletePosixInfo, readPosixMapFile, hmap, fromString_toText hprintable]
    rfl
  change applyAccountInfo (.ok ()) ⟨.ok (), write⟩ (.ok ()) bobRemoved
    { twoAccounts with infos := bothInfos.insert 101 bobRemoved, phase := .checked bobRemoved bob } = _
  rw [applyAccountInfo]
  dsimp only
  rw [if_neg (by decide), hdelete _ rfl]
  cases write with
  | error e => rfl
  | ok _ => rfl

end examples

end OsAccount.PosixMapFile
