import OsAccount.DistributedStorage
import OsAccount.SubProfileAccounts

namespace OsAccount.HeadlessProfile

open JsonUtils DistributedStorage CText
open DistributedAccount (OhosAccountState AccountInnerEvent generateOhosUdidWithSha256 defaultOhosAccountName
  defaultOhosAccountUid ohosAccountUdidLength ohosAccountEventLogin)

def accountVersionAnon : Int32 := 1

def osAccountSubspaceIdMultiplier : Int32 := 1000

def stateCode : OhosAccountState → Int32
  | .invalid => -1
  | .unbound => accountStateUnbound
  | .login => 1
  | .notLogin => 2
  | .logoff => 3
  | .tokenExpired => 4

def accountState (status : Int32) : Option OhosAccountState :=
  [OhosAccountState.unbound, .login, .notLogin, .logoff, .tokenExpired].find? fun state => stateCode state == status

def clear (info : AccountInfo) : AccountInfo :=
  { info with
    ohosAccountInfo := { name := defaultOhosAccountName, uid := defaultOhosAccountUid }
    bindTime := 0 }

structure Request where
  ohosAccountInfo : OhosAccountInfo
  eventStr : String
  time : Int64
  callingUid : Int32

def getDistributedAccountSpaceInfo (localId : Int32) (curInfo : AccountInfo) : OsAccountSubspaceInfo where
  ohosAccountInfo := curInfo.ohosAccountInfo
  subspaceId := localId * osAccountSubspaceIdMultiplier
  userId := localId
  isCreateCompleted := true
  toBeRemoved := false
  bindTime := curInfo.bindTime
  version := curInfo.version

def setDistributedAccountSpaceInfo (spaceInfo : OsAccountSubspaceInfo) : AccountInfo where
  ohosAccountInfo := spaceInfo.ohosAccountInfo
  bindTime := spaceInfo.bindTime
  userId := spaceInfo.userId
  version := accountVersionAnon

def stateChangeProcess (status : Int32) (event : AccountInnerEvent) : Option Int32 :=
  match accountState status with
  | none => none
  | some state => (SubProfileAccounts.stateChangeProcess state event).map stateCode

def handleSpaceStateChange (spaceInfo : OsAccountSubspaceInfo) (eventStr : String) :
    Except ErrCode OsAccountSubspaceInfo :=
  match SubProfileAccounts.checkEventValid eventStr with
  | none => .error .invalidParameter
  | some event =>
      match stateChangeProcess spaceInfo.ohosAccountInfo.status event with
      | none => .error .zidlAccountServiceError
      | some newState => .ok { spaceInfo with ohosAccountInfo := { spaceInfo.ohosAccountInfo with status := newState } }

def updateOhosAccountSpaceInfo (r : Request) (ohosAccountUid : String) (spaceInfo : OsAccountSubspaceInfo) :
    OsAccountSubspaceInfo :=
  { spaceInfo with
    ohosAccountInfo := { r.ohosAccountInfo with
      rawUid := r.ohosAccountInfo.uid
      uid := ohosAccountUid
      status := stateCode .login
      callingUid := r.callingUid }
    bindTime := r.time
    version := accountVersionAnon }

section calls

variable (sha256 : Sha256)

def checkSameDistributedAccount (curr newOhosAccountInfo : OhosAccountInfo) : Bool :=
  newOhosAccountInfo.name = curr.name ∧
    generateOhosUdidWithSha256 sha256 newOhosAccountInfo.name newOhosAccountInfo.uid = curr.uid

/-- `scan` is the answer of the scan for sub-profiles and `others` that of the loop over them. -/
def verifySpaceAccountBinding (scan others : Ret) (accountInfo : OhosAccountInfo) (spaceInfo : OsAccountSubspaceInfo) :
    Ret :=
  match scan with
  | .error e => .error e
  | .ok () =>
      if spaceInfo.ohosAccountInfo.status ≠ accountStateUnbound then
        if checkSameDistributedAccount sha256 spaceInfo.ohosAccountInfo accountInfo then .ok ()
        else .error .accountNotExistError
      else others

def loginOhosAccountSpace (scan others : Ret) (r : Request) (spaceInfo : OsAccountSubspaceInfo) :
    Except ErrCode OsAccountSubspaceInfo :=
  let ohosAccountUid := generateOhosUdidWithSha256 sha256 r.ohosAccountInfo.name r.ohosAccountInfo.uid
  if ohosAccountUid.length ≠ ohosAccountUdidLength then .error .zidlAccountServiceError
  else
    match verifySpaceAccountBinding sha256 scan others r.ohosAccountInfo spaceInfo with
    | .error e => .error e
    | .ok () => (handleSpaceStateChange spaceInfo r.eventStr).map (updateOhosAccountSpaceInfo r ohosAccountUid)

/-- What `LogoutOhosAccountSpace`, `LogoffOhosAccountSpace` and `HandleOhosAccountSpaceTokenInvalidEvent` save. -/
def changeSpaceState (r : Request) (spaceInfo : OsAccountSubspaceInfo) : Except ErrCode OsAccountSubspaceInfo :=
  if !checkSameDistributedAccount sha256 spaceInfo.ohosAccountInfo r.ohosAccountInfo then .error .accountNotExistError
  else handleSpaceStateChange spaceInfo r.eventStr

def clearMainAccountIfMatch (bundleUid : Int32) (accountInfo : AccountInfo) : Option AccountInfo :=
  if accountInfo.ohosAccountInfo.callingUid ≠ bundleUid ∨ accountInfo.ohosAccountInfo.status = accountStateUnbound then
    none
  else some (clear accountInfo)

inductive Call
  | login (scan others : Ret) (r : Request)
  | logout (r : Request)
  | logoff (r : Request)
  | tokenInvalid (r : Request)
  | packageRemoved (callingUid : Int32)

structure Operation where
  call : Call
  load : Rebuild
  save : Writes

def Call.record (localId : Int32) (curInfo : AccountInfo) : Call → Option AccountInfo
  | .login scan others r =>
      (loginOhosAccountSpace sha256 scan others r (getDistributedAccountSpaceInfo localId curInfo)).toOption.map
        setDistributedAccountSpaceInfo
  | .logout r | .logoff r | .tokenInvalid r =>
      (changeSpaceState sha256 r (getDistributedAccountSpaceInfo localId curInfo)).toOption.map
        setDistributedAccountSpaceInfo
  | .packageRemoved callingUid => clearMainAccountIfMatch callingUid curInfo

variable (size : Json → Nat) (localId : Int32)

def filesAfterLoad (r : Rebuild) (files : Files) : Files :=
  if localId < 0 then files
  else
    let files :=
      match files.json with
      | some _ => files
      | none => (saveAccountInfo size (buildJsonFileFromScratch r.now localId) files r.writes).2
    match removeOversizedFile size r localId files with
    | .error _ => files
    | .ok files => files

def step (files : Files) (op : Operation) : Files :=
  let loaded := filesAfterLoad size localId op.load files
  match getAccountInfo size op.load localId files with
  | .error _ => loaded
  | .ok curInfo =>
      match op.call.record sha256 localId curInfo with
      | none => loaded
      | some info => (saveAccountInfo size info loaded op.save).2

def CreateTimeIs (createTime : Int64) (files : Files) : Prop :=
  ∀ r, ∃ info, getAccountInfo size r localId files = .ok info ∧ info.createTime = createTime

def OnlyStatusAndVersion (before after : Files) : Prop :=
  ∀ r, ∃ info status version, getAccountInfo size r localId before = .ok info ∧
    getAccountInfo size r localId after =
      .ok { info with ohosAccountInfo := { info.ohosAccountInfo with status }, version }

def Preserves (createTime : Int64) (files : Files) (op : Operation) : Prop :=
  CreateTimeIs size localId createTime (step sha256 size localId files op) ∧
    ((∃ r, op.call = .logout r ∨ op.call = .tokenInvalid r) →
      OnlyStatusAndVersion size localId files (step sha256 size localId files op))

def Saves (files : Files) (op : Operation) (info : AccountInfo) : Prop :=
  (∃ curInfo, getAccountInfo size op.load localId files = .ok curInfo ∧
      op.call.record sha256 localId curInfo = some info) ∧
    op.save.avatar = .ok () ∧ op.save.json = .ok ()

/-- The record that an operation saves fits in its file, and unless there was no creation time it is that of the
clean-up. -/
def Allowed (createTime : Int64) (files : Files) (op : Operation) : Prop :=
  ∀ info, Saves sha256 size localId files op info →
    size (serializeAccountInfoToJson info) ≤ maxAccountJsonFileSize ∧
      (createTime = 0 ∨ ∃ callingUid, op.call = .packageRemoved callingUid)

end calls

structure Holds (size : Json → Nat) (localId : Int32) (files : Files) (info : AccountInfo) : Prop where
  json : files.json = some (packJsonToString size (serializeAccountInfoToJson info))
  size : size (serializeAccountInfoToJson info) ≤ maxAccountJsonFileSize
  userId : info.userId = localId
  nonneg : ¬localId < 0

section holds

variable {sha256 : Sha256} {size : Json → Nat} {localId : Int32} {files : Files} {info : AccountInfo}

def found (files : Files) (info : AccountInfo) : AccountInfo := info.stored (readAvatarText files.avatar)

theorem getAccountInfo_of_holds (h : Holds size localId files info) (r : Rebuild) :
    getAccountInfo size r localId files = .ok (found files info) := by
  have hobj : isObject (serializeAccountInfoToJson info) = true := rfl
  have habsent : getItemFromJson (serializeAccountInfoToJson info) keyOhosAccountAvatar = none := rfl
  rw [getAccountInfo_of_readable h.nonneg h.json h.size r]
  simp only [packJsonToString, Option.filter_some, hobj, if_true]
  rw [getAccountInfoFromJson_fill hobj habsent, ← h.userId, getAccountInfoFromJson_serialize]
  rfl

theorem filesAfterLoad_of_holds (h : Holds size localId files info) (r : Rebuild) :
    filesAfterLoad size localId r files = files := by
  have hfits : (packJsonToString size (serializeAccountInfoToJson info)).size ≤
      maxAccountJsonFileSize := h.size
  simp only [filesAfterLoad, if_neg h.nonneg, h.json, removeOversizedFile, if_pos hfits]

theorem step_of_holds (h : Holds size localId files info) (op : Operation) :
    step sha256 size localId files op =
      match op.call.record sha256 localId (found files info) with
      | none => files
      | some info => (saveAccountInfo size info files op.save).2 := by
  rw [step, getAccountInfo_of_holds h, filesAfterLoad_of_holds h]

variable {op : Operation}

theorem saves_iff_of_holds (h : Holds size localId files info) {saved : AccountInfo} :
    Saves sha256 size localId files op saved ↔
      op.call.record sha256 localId (found files info) = some saved ∧ op.save.avatar = .ok () ∧
        op.save.json = .ok () := by
  rw [Saves, getAccountInfo_of_holds h]
  constructor
  · rintro ⟨⟨curInfo, heq, hrecord⟩, hdone⟩
    cases heq
    exact ⟨hrecord, hdone⟩
  · rintro ⟨hrecord, hdone⟩
    exact ⟨⟨_, rfl, hrecord⟩, hdone⟩

theorem step_of_not_saves (h : Holds size localId files info)
    (hsaves : ∀ saved, ¬Saves sha256 size localId files op saved) :
    (step sha256 size localId files op).json = files.json ∧
      ((step sha256 size localId files op).avatar = files.avatar ∨
        ∃ saved, op.call.record sha256 localId (found files info) = some saved ∧
          (step sha256 size localId files op).avatar = some saved.ohosAccountInfo.avatar) := by
  rw [step_of_holds h]
  cases hrecord : op.call.record sha256 localId (found files info) with
  | none => exact ⟨rfl, .inl rfl⟩
  | some saved =>
      have hsaved := hsaves saved
      rw [saves_iff_of_holds h, and_iff_right hrecord] at hsaved
      dsimp only
      rw [saveAccountInfo]
      cases havatar : op.save.avatar with
      | error e => exact ⟨rfl, .inl rfl⟩
      | ok u => cases hjson : op.save.json with
        | error e => exact ⟨rfl, .inr ⟨saved, rfl, rfl⟩⟩
        | ok u => exact (hsaved ⟨havatar, hjson⟩).elim

theorem step_of_saves (h : Holds size localId files info) {saved : AccountInfo}
    (hsaves : Saves sha256 size localId files op saved) :
    (step sha256 size localId files op).json = some (packJsonToString size (serializeAccountInfoToJson saved)) ∧
      (step sha256 size localId files op).avatar = some saved.ohosAccountInfo.avatar := by
  obtain ⟨hrecord, havatar, hjson⟩ := (saves_iff_of_holds h).mp hsaves
  rw [step_of_holds h, hrecord]
  dsimp only
  rw [saveAccountInfo, havatar, hjson]
  exact ⟨rfl, rfl⟩

theorem holds_of_not_saves (h : Holds size localId files info)
    (hsaves : ∀ saved, ¬Saves sha256 size localId files op saved) :
    Holds size localId (step sha256 size localId files op) info :=
  ⟨(step_of_not_saves h hsaves).1.trans h.json, h.size, h.userId, h.nonneg⟩

end holds

section records

variable {sha256 : Sha256} {localId : Int32} {curInfo saved : AccountInfo} {call : Call}

theorem handleSpaceStateChange_ok {spaceInfo changed : OsAccountSubspaceInfo} {eventStr : String}
    (h : handleSpaceStateChange spaceInfo eventStr = .ok changed) :
    ∃ status, changed = { spaceInfo with ohosAccountInfo := { spaceInfo.ohosAccountInfo with status } } := by
  rw [handleSpaceStateChange] at h
  cases hevent : SubProfileAccounts.checkEventValid eventStr with
  | none =>
      rw [hevent] at h
      cases h
  | some event =>
      rw [hevent] at h
      cases hstate : stateChangeProcess spaceInfo.ohosAccountInfo.status event with
      | none =>
          simp only [hstate] at h
          cases h
      | some newState =>
          simp only [hstate] at h
          cases h
          exact ⟨newState, rfl⟩

/-- A logout or a token that expires keeps the record but for the status, and loses what is not converted. -/
theorem changeSpaceState_record {r : Request} (huser : curInfo.userId = localId)
    (h : (changeSpaceState sha256 r (getDistributedAccountSpaceInfo localId curInfo)).toOption.map
      setDistributedAccountSpaceInfo = some saved) :
    ∃ status, saved =
      { curInfo with
        ohosAccountInfo := { curInfo.ohosAccountInfo with status }
        version := accountVersionAnon
        createTime := 0 } := by
  rw [changeSpaceState] at h
  split at h
  · cases h
  · cases hchange : handleSpaceStateChange (getDistributedAccountSpaceInfo localId curInfo) r.eventStr with
    | error e =>
        rw [hchange] at h
        cases h
    | ok changed =>
        rw [hchange] at h
        obtain ⟨status, rfl⟩ := handleSpaceStateChange_ok hchange
        subst huser
        cases h
        exact ⟨status, rfl⟩

theorem loginOhosAccountSpace_record {scan others : Ret} {r : Request}
    (h : (loginOhosAccountSpace sha256 scan others r (getDistributedAccountSpaceInfo localId curInfo)).toOption.map
      setDistributedAccountSpaceInfo = some saved) : saved.userId = localId ∧ saved.createTime = 0 := by
  simp only [loginOhosAccountSpace] at h
  split at h
  · cases h
  · split at h
    · cases h
    · cases hchange : handleSpaceStateChange (getDistributedAccountSpaceInfo localId curInfo) r.eventStr with
      | error e =>
          rw [hchange] at h
          cases h
      | ok changed =>
          rw [hchange] at h
          obtain ⟨status, rfl⟩ := handleSpaceStateChange_ok hchange
          cases h
          exact ⟨rfl, rfl⟩

theorem record_createTime (huser : curInfo.userId = localId) (h : call.record sha256 localId curInfo = some saved) :
    saved.userId = localId ∧
      (saved.createTime = curInfo.createTime ∧ (∃ callingUid, call = .packageRemoved callingUid) ∨
        saved.createTime = 0 ∧ ∀ callingUid, call ≠ .packageRemoved callingUid) := by
  cases call with
  | login scan others r =>
      obtain ⟨hid, htime⟩ := loginOhosAccountSpace_record h
      exact ⟨hid, .inr ⟨htime, fun callingUid hcall => by cases hcall⟩⟩
  | packageRemoved callingUid =>
      rw [Call.record, clearMainAccountIfMatch] at h
      split at h
      · cases h
      · cases h
        exact ⟨huser, .inl ⟨rfl, callingUid, rfl⟩⟩
  | _ =>
      obtain ⟨status, rfl⟩ := changeSpaceState_record huser h
      exact ⟨huser, .inr ⟨rfl, fun callingUid hcall => by cases hcall⟩⟩

end records

section runs

variable {sha256 : Sha256} {size : Json → Nat} {localId : Int32} {files : Files} {info : AccountInfo}
  {createTime : Int64}

def Inv (size : Json → Nat) (localId : Int32) (createTime : Int64) (files : Files) : Prop :=
  ∃ info, Holds size localId files info ∧ info.createTime = createTime

theorem createTimeIs_of_holds (h : Holds size localId files info) : CreateTimeIs size localId info.createTime files :=
  fun r => ⟨found files info, getAccountInfo_of_holds h r, rfl⟩

theorem fits_of_createTimeIs {saved : AccountInfo} (huser : ¬localId < 0)
    (hjson : files.json = some (packJsonToString size (serializeAccountInfoToJson saved)))
    (htime : CreateTimeIs size localId createTime files) :
    size (serializeAccountInfoToJson saved) ≤ maxAccountJsonFileSize := by
  by_contra hbig
  obtain ⟨info, hload, -⟩ := htime ⟨0, false, ⟨.ok (), .ok (), .ok ()⟩⟩
  simp [getAccountInfo, huser, hjson, parseJsonFromFile, removeOversizedFile, packJsonToString, hbig] at hload

variable {op : Operation}

theorem record_of_saves (h : Holds size localId files info) {saved : AccountInfo}
    (hsaves : Saves sha256 size localId files op saved) :
    saved.userId = localId ∧
      (saved.createTime = info.createTime ∧ (∃ callingUid, op.call = .packageRemoved callingUid) ∨
        saved.createTime = 0 ∧ ∀ callingUid, op.call ≠ .packageRemoved callingUid) := by
  have huser : (found files info).userId = localId := h.userId
  have htime : (found files info).createTime = info.createTime := rfl
  obtain ⟨hrecord, -⟩ := (saves_iff_of_holds h).mp hsaves
  rw [← htime]
  exact record_createTime huser hrecord

theorem holds_of_saves (h : Holds size localId files info) {saved : AccountInfo}
    (hsaves : Saves sha256 size localId files op saved)
    (hsize : size (serializeAccountInfoToJson saved) ≤ maxAccountJsonFileSize) :
    Holds size localId (step sha256 size localId files op) saved :=
  ⟨(step_of_saves h hsaves).1, hsize, (record_of_saves h hsaves).1, h.nonneg⟩

theorem inv_step (h : Inv size localId createTime files)
    (hop : Allowed sha256 size localId createTime files op) :
    Inv size localId createTime (step sha256 size localId files op) := by
  obtain ⟨info, hholds, rfl⟩ := h
  by_cases hsaves : ∃ saved, Saves sha256 size localId files op saved
  · obtain ⟨saved, hsaves⟩ := hsaves
    obtain ⟨hsize, hkind⟩ := hop saved hsaves
    refine ⟨saved, holds_of_saves hholds hsaves hsize, ?_⟩
    obtain ⟨-, ⟨htime, -⟩ | ⟨htime, hother⟩⟩ := record_of_saves hholds hsaves
    · exact htime
    · rcases hkind with hzero | ⟨callingUid, hcall⟩
      · exact htime.trans hzero.symm
      · exact (hother callingUid hcall).elim
  · exact ⟨info, holds_of_not_saves hholds (not_exists.mp hsaves), rfl⟩

theorem readAvatarText_readAvatarText (avatar : Option String) :
    readAvatarText (some (readAvatarText avatar)) = readAvatarText avatar := by
  rw [readAvatarText_some_iff, readAvatarText]
  refine ⟨noNul_cStr _, (utf8ByteSize_cStr_le _).trans ?_⟩
  rw [readAvatar, getFileContentByPath]
  cases havatar : avatar.filter fun content => content.utf8ByteSize ≤ maxFileSize with
  | none => exact Nat.zero_le _
  | some content => simpa using (Option.filter_eq_some_iff.mp havatar).2

theorem found_found {files after : Files} {status : Int32} {version : Int32} (htime : info.createTime = 0)
    (havatar : after.avatar = some (found files info).ohosAccountInfo.avatar) :
    found after
        { found files info with
          ohosAccountInfo := { (found files info).ohosAccountInfo with status }, version, createTime := 0 } =
      { found files info with ohosAccountInfo := { (found files info).ohosAccountInfo with status }, version } := by
  have hread : readAvatarText after.avatar = readAvatarText files.avatar := by
    rw [havatar]
    exact readAvatarText_readAvatarText files.avatar
  have hbind : info.bindTime.toInt32.toInt64.toInt32 = info.bindTime.toInt32 := Int32.toInt32_toInt64 _
  simp only [found, AccountInfo.stored, OhosAccountInfo.cStrings, cStr_cStr, hread, hbind, htime]

theorem onlyStatusAndVersion_of_not_saves (h : Holds size localId files info)
    (hsaves : ∀ saved, ¬Saves sha256 size localId files op saved)
    (hcall : ∃ r, op.call = .logout r ∨ op.call = .tokenInvalid r) :
    OnlyStatusAndVersion size localId files (step sha256 size localId files op) := by
  have havatar : readAvatarText (step sha256 size localId files op).avatar = readAvatarText files.avatar := by
    obtain ⟨-, hsame | ⟨saved, hrecord, havatar⟩⟩ := step_of_not_saves h hsaves
    · rw [hsame]
    · have huser : (found files info).userId = localId := h.userId
      obtain ⟨r, hcall | hcall⟩ := hcall
      all_goals
        rw [hcall] at hrecord
        obtain ⟨status, rfl⟩ := changeSpaceState_record huser hrecord
        rw [havatar]
        exact readAvatarText_readAvatarText files.avatar
  intro r
  refine ⟨found files info, info.ohosAccountInfo.status, info.version, getAccountInfo_of_holds h r, ?_⟩
  rw [getAccountInfo_of_holds (holds_of_not_saves h hsaves) r, found, havatar]
  rfl

theorem onlyStatusAndVersion_of_saves (h : Holds size localId files info) {saved : AccountInfo}
    (hsaves : Saves sha256 size localId files op saved)
    (hsize : size (serializeAccountInfoToJson saved) ≤ maxAccountJsonFileSize) (htime : info.createTime = 0)
    (hcall : ∃ r, op.call = .logout r ∨ op.call = .tokenInvalid r) :
    OnlyStatusAndVersion size localId files (step sha256 size localId files op) := by
  have huser : (found files info).userId = localId := h.userId
  have hrecord := ((saves_iff_of_holds h).mp hsaves).1
  have havatar := (step_of_saves h hsaves).2
  have hholds := holds_of_saves h hsaves hsize
  obtain ⟨status, rfl⟩ : ∃ status, saved =
      { found files info with
        ohosAccountInfo := { (found files info).ohosAccountInfo with status }
        version := accountVersionAnon
        createTime := 0 } := by
    obtain ⟨r, hcall | hcall⟩ := hcall
    all_goals
      rw [hcall] at hrecord
      exact changeSpaceState_record huser hrecord
  intro r
  refine ⟨found files info, status, accountVersionAnon, getAccountInfo_of_holds h r, ?_⟩
  rw [getAccountInfo_of_holds hholds r, found_found htime havatar]

theorem preserves_iff (h : Inv size localId createTime files) (op : Operation) :
    Allowed sha256 size localId createTime files op ↔ Preserves sha256 size localId createTime files op := by
  constructor
  · intro hop
    obtain ⟨after, hafter, htime⟩ := inv_step h hop
    obtain ⟨info, hholds, rfl⟩ := h
    refine ⟨?_, fun hcall => ?_⟩
    · rw [← htime]
      exact createTimeIs_of_holds hafter
    · by_cases hsaves : ∃ saved, Saves sha256 size localId files op saved
      · obtain ⟨saved, hsaves⟩ := hsaves
        obtain ⟨hsize, hzero | ⟨callingUid, hremoved⟩⟩ := hop saved hsaves
        · exact onlyStatusAndVersion_of_saves hholds hsaves hsize hzero hcall
        · obtain ⟨r, hcall | hcall⟩ := hcall
          all_goals cases hremoved.symm.trans hcall
      · exact onlyStatusAndVersion_of_not_saves hholds (not_exists.mp hsaves) hcall
  · obtain ⟨info, hholds, rfl⟩ := h
    rintro ⟨htime, -⟩ saved hsaves
    have hsize := fits_of_createTimeIs hholds.nonneg (step_of_saves hholds hsaves).1 htime
    refine ⟨hsize, ?_⟩
    obtain ⟨-, ⟨-, hremoved⟩ | ⟨hzero, -⟩⟩ := record_of_saves hholds hsaves
    · exact .inr hremoved
    · obtain ⟨loaded, hload, hloaded⟩ := htime ⟨0, false, ⟨.ok (), .ok (), .ok ()⟩⟩
      rw [getAccountInfo_of_holds (holds_of_saves hholds hsaves hsize)] at hload
      cases hload
      exact .inl (hloaded.symm.trans hzero)

/-- In a run of operations on a stored headless profile each keeps its creation time, and a logout or a token that
expires the rest but for status and version, if and only if nothing but the clean-up gets to save a record that had a
creation time, and every record that is saved fits. -/
theorem headless_preserved_iff (h : Holds size localId files info) (ops : List Operation) :
    Machine.Meets (step sha256 size localId) (Preserves sha256 size localId info.createTime) files ops ↔
      Machine.Meets (step sha256 size localId) (Allowed sha256 size localId info.createTime) files ops := by
  have hstep : ∀ files op, Inv size localId info.createTime files →
    Allowed sha256 size localId info.createTime files op →
      Inv size localId info.createTime (step sha256 size localId files op) :=
        fun files op hinv hop => inv_step hinv hop
  exact (Machine.meets_congr hstep (fun files op hinv => preserves_iff hinv op) ⟨info, h, rfl⟩).symm

def shortText : Json → Nat := fun _ => 300

def zeroHash : Sha256 := fun _ => Vector.replicate 32 0

def storedFiles (info : AccountInfo) : Files :=
  ⟨true, some (packJsonToString shortText (serializeAccountInfoToJson info)), some info.ohosAccountInfo.avatar⟩

theorem holds_storedFiles (info : AccountInfo) (h : ¬info.userId < 0) :
    Holds shortText info.userId (storedFiles info) info :=
  ⟨rfl, Nat.le_of_ble_eq_true rfl, rfl, h⟩

/-- A bound profile that was made at a time, when the bundle that bound it goes. -/
theorem headless_preserved_packageRemoved :
    Machine.Meets (step zeroHash shortText 100)
      (Preserves zeroHash shortText 100 1700000000000)
      (storedFiles { loggedIn 0 with createTime := 1700000000000 })
      [⟨.packageRemoved 3301, ⟨0, true, writesDone⟩, writesDone⟩] :=
  (headless_preserved_iff (holds_storedFiles { loggedIn 0 with createTime := 1700000000000 } (by decide))
    [⟨.packageRemoved 3301, ⟨0, true, writesDone⟩, writesDone⟩]).mpr
    ⟨fun _ _ => ⟨Nat.le_of_ble_eq_true rfl, .inr ⟨3301, rfl⟩⟩, trivial⟩

theorem not_preserved_firstLogin :
    ¬∀ files info ops, Holds shortText 100 files info →
      Machine.Meets (step zeroHash shortText 100) (Preserves zeroHash shortText 100 info.createTime) files ops := by
  intro h
  let r : Request := ⟨{ name := "mail", uid := "5A" }, ohosAccountEventLogin, 7, 3301⟩
  have hholds := holds_storedFiles (buildJsonFileFromScratch 1700000000000 100) (by decide)
  obtain ⟨⟨htime, -⟩, -⟩ := h _ _ [⟨.login (.ok ()) (.ok ()) r, ⟨0, true, writesDone⟩, writesDone⟩] hholds
  obtain ⟨info, hload, hinfo⟩ := htime ⟨0, true, writesDone⟩
  have hlost := congrArg (fun loaded => loaded.toOption.map AccountInfo.createTime) hload
  rw [Except.toOption, Option.map_some, hinfo] at hlost
  exact absurd hlost (by decide +kernel)

end runs

end OsAccount.HeadlessProfile
