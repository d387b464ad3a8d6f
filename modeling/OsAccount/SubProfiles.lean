import OsAccount.ErrCode
import OsAccount.OrderedMap
import OsAccount.CyclicSearch
import Mathlib.Logic.Function.Basic

namespace OsAccount.SubProfiles

open Function Std

def osAccountSubspaceIdMultiplier : Int := 1000

def osAccountSubProfileIdMin : Int := 1

def osAccountSubProfileIdMax : Int := 999

def headlessSubProfileIndex : Int := 0

structure MaxCount where
  val : Int
  one_le : 1 ≤ val
  le_max : val ≤ osAccountSubProfileIdMax

structure SubProfileContext where
  nextSubProfileId : Int
  subProfileIdList : List Int
  nextSubProfileIndex : Int
  subProfileIndexMap : ExtTreeMap Int Int compare

def base (osAccountId : Int) : Int := osAccountId * osAccountSubspaceIdMultiplier

def createWithHeadlessDefault (osAccountId : Int) : SubProfileContext where
  nextSubProfileId := base osAccountId + 1
  subProfileIdList := [base osAccountId]
  nextSubProfileIndex := 1
  subProfileIndexMap := (∅ : ExtTreeMap Int Int compare).insert headlessSubProfileIndex (base osAccountId)

structure OsAccountSubspaceInfo where
  userId : Int
  subspaceId : Int
  index : Int
  subspaceOffset : Int
  isCreateCompleted : Bool := false
  toBeRemoved : Bool := false
  createTime : Int := 0
deriving DecidableEq

structure AccountFiles where
  context : Option SubProfileContext := none
  dirs : ExtTreeMap Int (Option OsAccountSubspaceInfo) compare := ∅

abbrev Disk : Type := Int → AccountFiles

def Disk.setContext (d : Disk) (osAccountId : Int) (ctx : SubProfileContext) : Disk :=
  update d osAccountId { d osAccountId with context := some ctx }

def Disk.setDir (d : Disk) (osAccountId subspaceId : Int) (info : Option OsAccountSubspaceInfo) : Disk :=
  update d osAccountId { d osAccountId with dirs := (d osAccountId).dirs.insert subspaceId info }

def Disk.eraseDir (d : Disk) (osAccountId subspaceId : Int) : Disk :=
  update d osAccountId { d osAccountId with dirs := (d osAccountId).dirs.erase subspaceId }

section lookup

variable (d : Disk) (a b : Int)

@[simp]
theorem context_setContext (ctx : SubProfileContext) :
    (d.setContext a ctx b).context = if b = a then some ctx else (d b).context := by
  unfold Disk.setContext
  by_cases hb : b = a
  · subst hb
    rw [update_self, if_pos rfl]
  · rw [update_of_ne hb, if_neg hb]

@[simp]
theorem dirs_setContext (ctx : SubProfileContext) : (d.setContext a ctx b).dirs = (d b).dirs := by
  unfold Disk.setContext
  by_cases hb : b = a
  · subst hb
    rw [update_self]
  · rw [update_of_ne hb]

@[simp]
theorem context_setDir (s : Int) (info : Option OsAccountSubspaceInfo) :
    (d.setDir a s info b).context = (d b).context := by
  unfold Disk.setDir
  by_cases hb : b = a
  · subst hb
    rw [update_self]
  · rw [update_of_ne hb]

@[simp]
theorem dirs_setDir (s t : Int) (info : Option OsAccountSubspaceInfo) :
    (d.setDir a s info b).dirs[t]? = if b = a ∧ t = s then some info else (d b).dirs[t]? := by
  unfold Disk.setDir
  by_cases hb : b = a
  · subst hb
    rw [update_self, OrderedMap.getElem?_insert_eq]
    simp [eq_comm]
  · rw [update_of_ne hb, if_neg fun h => hb h.1]

@[simp]
theorem context_eraseDir (s : Int) : (d.eraseDir a s b).context = (d b).context := by
  unfold Disk.eraseDir
  by_cases hb : b = a
  · subst hb
    rw [update_self]
  · rw [update_of_ne hb]

@[simp]
theorem dirs_eraseDir (s t : Int) :
    (d.eraseDir a s b).dirs[t]? = if b = a ∧ t = s then none else (d b).dirs[t]? := by
  unfold Disk.eraseDir
  by_cases hb : b = a
  · subst hb
    rw [update_self, OrderedMap.getElem?_erase_eq]
    simp [eq_comm]
  · rw [update_of_ne hb, if_neg fun h => hb h.1]

end lookup

inductive Stop
  | error (e : ErrCode)
  | crash
deriving DecidableEq

abbrev Done (α : Type) : Type := Except Stop α

inductive WriteAnswer
  | success
  | failure (e : ErrCode)
  | crash
deriving DecidableEq

inductive DirAnswer
  | success
  | failure (e : ErrCode) (emptied : Bool)
  | crash (emptied : Bool)

inductive SaveAnswer
  | success
  | failure (e : ErrCode) (made : Bool)
  | crash (made : Bool)

def updateOsAccountSubspaceInfo (a : WriteAnswer) (osAccountId : Int) (ctx : SubProfileContext) (d : Disk) :
    Done Unit × Disk :=
  match a with
  | .success => (.ok (), d.setContext osAccountId ctx)
  | .failure e => (.error (.error e), d)
  | .crash => (.error .crash, d)

def removeSubProfileDir (a : DirAnswer) (osAccountId subspaceId : Int) (d : Disk) : Done Unit × Disk :=
  if subspaceId ∉ (d osAccountId).dirs then (.ok (), d)
  else
    match a with
    | .success => (.ok (), d.eraseDir osAccountId subspaceId)
    | .failure e emptied => (.error (.error e), if emptied then d.setDir osAccountId subspaceId none else d)
    | .crash emptied => (.error .crash, if emptied then d.setDir osAccountId subspaceId none else d)

def makeDir (made : Bool) (info : OsAccountSubspaceInfo) (d : Disk) : Disk :=
  if made ∧ info.subspaceId ∉ (d info.userId).dirs then d.setDir info.userId info.subspaceId none else d

def saveSubProfileInfo (a : SaveAnswer) (info : OsAccountSubspaceInfo) (d : Disk) : Done Unit × Disk :=
  match a with
  | .success => (.ok (), d.setDir info.userId info.subspaceId (some info))
  | .failure e made => (.error (.error e), makeDir made info d)
  | .crash made => (.error .crash, makeDir made info d)

def loadSubProfileInfo (d : Disk) (osAccountId subspaceId : Int) : Option OsAccountSubspaceInfo :=
  ((d osAccountId).dirs[subspaceId]?).join

def isValidSubProfileExists (d : Disk) (osAccountId subspaceId : Int) : Bool :=
  (loadSubProfileInfo d osAccountId subspaceId).any fun info => info.isCreateCompleted && !info.toBeRemoved

/-- `ParseDirEntryAsSubProfileId` skips the other directories of the account. -/
def isSubProfileId (osAccountId subspaceId : Int) : Bool :=
  0 ≤ subspaceId - base osAccountId ∧ subspaceId - base osAccountId ≤ osAccountSubProfileIdMax

def scanSubProfileIds (filter : OsAccountSubspaceInfo → Bool) (d : Disk) (osAccountId : Int) (_resultIds : List Int) :
    List Int :=
  (d osAccountId).dirs.keys.filter fun subspaceId =>
    isSubProfileId osAccountId subspaceId && (loadSubProfileInfo d osAccountId subspaceId).any filter

def scanOsAccountSubProfileIds (d : Disk) (osAccountId : Int) (validIds : List Int) : List Int :=
  scanSubProfileIds (fun info => info.isCreateCompleted && !info.toBeRemoved) d osAccountId validIds

def scanOrphanedSubProfileIds (d : Disk) (osAccountId : Int) (orphanIds : List Int) : List Int :=
  scanSubProfileIds (fun info => !info.isCreateCompleted) d osAccountId orphanIds

def scanPendingRemovalSubProfileIds (d : Disk) (osAccountId : Int) (pendingRemoveIds : List Int) : List Int :=
  scanSubProfileIds (fun info => info.toBeRemoved) d osAccountId pendingRemoveIds

theorem mem_scanSubProfileIds {filter : OsAccountSubspaceInfo → Bool} {d : Disk} {osAccountId id : Int}
    {resultIds : List Int} : id ∈ scanSubProfileIds filter d osAccountId resultIds ↔
      isSubProfileId osAccountId id = true ∧
        ∃ info, (d osAccountId).dirs[id]? = some (some info) ∧ filter info = true := by
  unfold scanSubProfileIds loadSubProfileInfo
  rw [List.mem_filter, ExtTreeMap.mem_keys, ExtTreeMap.mem_iff_isSome_getElem?, Bool.and_eq_true,
    Option.any_eq_true]
  constructor
  · rintro ⟨_, hid, info, hinfo, hfilter⟩
    exact ⟨hid, info, Option.join_eq_some_iff.1 hinfo, hfilter⟩
  · rintro ⟨hid, info, hinfo, hfilter⟩
    exact ⟨by rw [hinfo]; rfl, hid, info, Option.join_eq_some_iff.2 hinfo, hfilter⟩

def removeSubProfileDirs (a : Int → DirAnswer) (osAccountId : Int) : List Int → Disk → Done Nat × Disk
  | [], d => (.ok 0, d)
  | subId :: subIds, d =>
      match removeSubProfileDir (a subId) osAccountId subId d with
      | (.error .crash, d) => (.error .crash, d)
      | (.error (.error _), d) => removeSubProfileDirs a osAccountId subIds d
      | (.ok (), d) =>
          match removeSubProfileDirs a osAccountId subIds d with
          | (.error e, d) => (.error e, d)
          | (.ok removeNum, d) => (.ok (removeNum + 1), d)

def eraseIndexOf (subspaceId : Int) (indexMap : ExtTreeMap Int Int compare) : ExtTreeMap Int Int compare :=
  match indexMap.toList.find? (fun p => p.2 = subspaceId) with
  | some p => indexMap.erase p.1
  | none => indexMap

def purgeGarbageIdFromAccountInfo (ctx : SubProfileContext) (garbageId : Int) : SubProfileContext :=
  { ctx with
    subProfileIdList := ctx.subProfileIdList.erase garbageId
    subProfileIndexMap := eraseIndexOf garbageId ctx.subProfileIndexMap }

def ignoreError : Done Unit × Disk → Done Unit × Disk
  | (.error .crash, d) => (.error .crash, d)
  | (_, d) => (.ok (), d)

def purgeGarbageIdsFromContext (a : WriteAnswer) (osAccountId : Int) (garbageIds : List Int) (d : Disk) :
    Done Unit × Disk :=
  match (d osAccountId).context with
  | none => (.ok (), d)
  | some ctx => ignoreError (updateOsAccountSubspaceInfo a osAccountId
      (garbageIds.foldl purgeGarbageIdFromAccountInfo ctx) d)

def garbageIds (d : Disk) (osAccountId : Int) : List Int :=
  scanPendingRemovalSubProfileIds d osAccountId (scanOrphanedSubProfileIds d osAccountId [])

def removeGarbageSubProfiles (a : Int → DirAnswer) (purge : WriteAnswer) (osAccountId : Int) (d : Disk) :
    Done Nat × Disk :=
  if garbageIds d osAccountId = [] then (.ok 0, d)
  else
    match removeSubProfileDirs a osAccountId (garbageIds d osAccountId) d with
    | (.error e, d₁) => (.error e, d₁)
    | (.ok removeNum, d₁) =>
        if removeNum = 0 then (.ok 0, d₁)
        else
          match purgeGarbageIdsFromContext purge osAccountId (garbageIds d osAccountId) d₁ with
          | (.error e, d₂) => (.error e, d₂)
          | (.ok (), d₂) => (.ok removeNum, d₂)

section operations

variable (max : MaxCount)

def allocateSubProfileIndex (nextSubProfileIndex : Int) (subProfileIndexMap : ExtTreeMap Int Int compare) :
    Except ErrCode Int :=
  match CyclicSearch.firstFree (fun i => i ∈ subProfileIndexMap) (headlessSubProfileIndex + 1) max.val
      nextSubProfileIndex with
  | some index => .ok index
  | none => .error .subProfileLimit

def allocateOsAccountSubProfileId (osAccountId nextSubProfileId : Int) (subProfileIdList : List Int) :
    Except ErrCode Int :=
  match CyclicSearch.firstFree (fun id => id ∈ subProfileIdList) (base osAccountId + osAccountSubProfileIdMin)
      (base osAccountId + osAccountSubProfileIdMax) nextSubProfileId with
  | some id => .ok id
  | none => .error .subProfileLimit

def isAtLimit (ctx : SubProfileContext) : Prop := (ctx.subProfileIdList.length : Int) - 1 ≥ max.val

instance (ctx : SubProfileContext) : Decidable (isAtLimit max ctx) :=
  inferInstanceAs (Decidable ((ctx.subProfileIdList.length : Int) - 1 ≥ max.val))

def readSubProfileContext (d : Disk) (osAccountId : Int) : SubProfileContext :=
  (d osAccountId).context.getD (createWithHeadlessDefault osAccountId)

def tryReclaimSubProfileSlots (a : Int → DirAnswer) (purge : WriteAnswer) (osAccountId : Int) (d : Disk) :
    Done SubProfileContext × Disk :=
  match removeGarbageSubProfiles a purge osAccountId d with
  | (.error e, d) => (.error e, d)
  | (.ok cleaned, d) =>
      if cleaned = 0 then (.error (.error .subProfileLimit), d)
      else if isAtLimit max (readSubProfileContext d osAccountId) then (.error (.error .subProfileLimit), d)
      else (.ok (readSubProfileContext d osAccountId), d)

structure CreateAnswer where
  removeGarbageDir : Int → DirAnswer
  purge : WriteAnswer
  persist : WriteAnswer
  save : SaveAnswer
  rollbackDir : DirAnswer
  rollback : WriteAnswer
  createTime : Int

def contextToExtend (a : CreateAnswer) (osAccountId : Int) (d : Disk) : Done SubProfileContext × Disk :=
  if isAtLimit max (readSubProfileContext d osAccountId) then
    tryReclaimSubProfileSlots max a.removeGarbageDir a.purge osAccountId d
  else (.ok (readSubProfileContext d osAccountId), d)

def SubProfileContext.extend (ctx : SubProfileContext) (newSubspaceId allocatedIndex : Int) : SubProfileContext where
  nextSubProfileId := newSubspaceId + 1
  subProfileIdList := ctx.subProfileIdList ++ [newSubspaceId]
  nextSubProfileIndex := allocatedIndex + 1
  subProfileIndexMap := ctx.subProfileIndexMap.insert allocatedIndex newSubspaceId

def rollbackSubProfileCreation (a : CreateAnswer) (osAccountId newSubspaceId allocatedIndex : Int)
    (ctx : SubProfileContext) (d : Disk) : Done Unit × Disk :=
  match ignoreError (removeSubProfileDir a.rollbackDir osAccountId newSubspaceId d) with
  | (.error e, d) => (.error e, d)
  | (.ok (), d) => ignoreError (updateOsAccountSubspaceInfo a.rollback osAccountId { ctx with
      subProfileIdList := (ctx.subProfileIdList ++ [newSubspaceId]).dropLast
      subProfileIndexMap := (ctx.subProfileIndexMap.insert allocatedIndex newSubspaceId).erase allocatedIndex } d)

def createdInfo (osAccountId newSubspaceId allocatedIndex createTime : Int) : OsAccountSubspaceInfo where
  userId := osAccountId
  subspaceId := newSubspaceId
  index := allocatedIndex
  subspaceOffset := newSubspaceId - base osAccountId
  isCreateCompleted := true
  createTime

def allocateAndPersistSubProfile (a : CreateAnswer) (osAccountId : Int) (ctx : SubProfileContext)
    (newSubspaceId : Int) (d : Disk) : Done OsAccountSubspaceInfo × Disk :=
  match allocateSubProfileIndex max ctx.nextSubProfileIndex ctx.subProfileIndexMap with
  | .error e => (.error (.error e), d)
  | .ok allocatedIndex =>
      match updateOsAccountSubspaceInfo a.persist osAccountId (ctx.extend newSubspaceId allocatedIndex) d with
      | (.error e, d) => (.error e, d)
      | (.ok (), d) =>
          match saveSubProfileInfo a.save (createdInfo osAccountId newSubspaceId allocatedIndex a.createTime) d with
          | (.ok (), d) => (.ok (createdInfo osAccountId newSubspaceId allocatedIndex a.createTime), d)
          | (.error .crash, d) => (.error .crash, d)
          | (.error (.error e), d) =>
              match rollbackSubProfileCreation a osAccountId newSubspaceId allocatedIndex ctx d with
              | (.error stop, d) => (.error stop, d)
              | (.ok (), d) => (.error (.error e), d)

def createSubProfile (a : CreateAnswer) (osAccountId : Int) (d : Disk) : Done OsAccountSubspaceInfo × Disk :=
  match contextToExtend max a osAccountId d with
  | (.error e, d) => (.error e, d)
  | (.ok ctx, d) =>
      match allocateOsAccountSubProfileId osAccountId ctx.nextSubProfileId ctx.subProfileIdList with
      | .error e => (.error (.error e), d)
      | .ok newSubspaceId => allocateAndPersistSubProfile max a osAccountId ctx newSubspaceId d

/-- The answers to a removal. `foregroundSubProfileId` is what the record of the OS
account says, if it can be read. -/
structure RemoveAnswer where
  foregroundSubProfileId : Option Int
  deleteSubProfileCred : Ret
  save : SaveAnswer
  removeDir : DirAnswer
  update : WriteAnswer

def updateContextAfterRemove (a : WriteAnswer) (osAccountId subspaceId : Int) (d : Disk) : Done Unit × Disk :=
  match (d osAccountId).context with
  | none => (.ok (), d)
  | some ctx =>
      if subspaceId ∉ ctx.subProfileIdList then (.ok (), d)
      else ignoreError (updateOsAccountSubspaceInfo a osAccountId (purgeGarbageIdFromAccountInfo ctx subspaceId) d)

def removeSubProfile (a : RemoveAnswer) (osAccountId subspaceId : Int) (d : Disk) : Done Unit × Disk :=
  if subspaceId = base osAccountId then (.error (.error .subProfileRestricted), d)
  else
    match loadSubProfileInfo d osAccountId subspaceId with
    | none => (.error (.error .subProfileNotFound), d)
    | some info =>
        if !(info.isCreateCompleted && !info.toBeRemoved) then (.error (.error .subProfileNotFound), d)
        else if a.foregroundSubProfileId = some subspaceId then (.error (.error .subProfileIsForeground), d)
        else
          match a.deleteSubProfileCred with
          | .error e => (.error (.error e), d)
          | .ok () =>
              match saveSubProfileInfo a.save { info with toBeRemoved := true } d with
              | (.error e, d) => (.error e, d)
              | (.ok (), d) =>
                  match removeSubProfileDir a.removeDir osAccountId subspaceId d with
                  | (.error e, d) => (.error e, d)
                  | (.ok (), d) => updateContextAfterRemove a.update osAccountId subspaceId d

structure CleanupAnswer where
  orphan : Int → Int → DirAnswer
  pending : Int → Int → DirAnswer

def cleanupOrphanedSubProfiles (a : CleanupAnswer) : List Int → Disk → Done Unit × Disk
  | [], d => (.ok (), d)
  | osAccountId :: osAccountIds, d =>
      match removeSubProfileDirs (a.orphan osAccountId) osAccountId (scanOrphanedSubProfileIds d osAccountId []) d with
      | (.error e, d) => (.error e, d)
      | (.ok _, d) =>
          match removeSubProfileDirs (a.pending osAccountId) osAccountId
              (scanPendingRemovalSubProfileIds d osAccountId []) d with
          | (.error e, d) => (.error e, d)
          | (.ok _, d) => cleanupOrphanedSubProfiles a osAccountIds d

inductive Event
  | createSubProfile (a : CreateAnswer) (osAccountId : Int)
  | removeSubProfile (a : RemoveAnswer) (osAccountId subspaceId : Int)
  | removeGarbageSubProfiles (a : Int → DirAnswer) (purge : WriteAnswer) (osAccountId : Int)
  | cleanupOrphanedSubProfiles (a : CleanupAnswer) (osAccountIds : List Int)

def step (d : Disk) : Event → Disk
  | .createSubProfile a osAccountId => (createSubProfile max a osAccountId d).2
  | .removeSubProfile a osAccountId subspaceId => (removeSubProfile a osAccountId subspaceId d).2
  | .removeGarbageSubProfiles a purge osAccountId => (removeGarbageSubProfiles a purge osAccountId d).2
  | .cleanupOrphanedSubProfiles a osAccountIds => (cleanupOrphanedSubProfiles a osAccountIds d).2

end operations

end OsAccount.SubProfiles
