import OsAccount.Activation
import OsAccount.DirectoryRules

namespace OsAccount.DefaultActivation

open OrderedMap Std AccountList AccountDirectory DirectoryRules Activation

def invalidOsAccountId : Int := -1

/-- `DEFAULT_ACTIVATED_ACCOUNT_ID` of the account list file. It was one number once. -/
inductive Persisted
  | missing
  | number (id : Int)
  | object (ids : ExtTreeMap Nat Int compare)

namespace Persisted

def getAllDefaultActivatedOsAccounts : Persisted → ExtTreeMap Nat Int compare
  | missing => ∅
  | number id => (∅ : ExtTreeMap Nat Int compare).insert defaultDisplayId id
  | object ids => ids

def setDefaultActivatedOsAccount (write : Ret) (displayId : Nat) (id : Int) : Persisted → Ret × Persisted
  | missing => (.error .badJsonFormatError, missing)
  | number tmpId =>
      match write with
      | .error e => (.error e, number tmpId)
      | .ok () =>
          let tmpJson : ExtTreeMap Nat Int compare :=
            if displayId ≠ defaultDisplayId then (∅ : ExtTreeMap Nat Int compare).insert defaultDisplayId tmpId else ∅
          (.ok (), object (tmpJson.insert displayId id))
  | object ids =>
      match write with
      | .error e => (.error e, object ids)
      | .ok () => (.ok (), object (ids.insert displayId id))

end Persisted

/-- The accounts that are activated when a display is started and the device owner,
both in memory and in the files. -/
structure State where
  directory : Directory
  defaultActivatedIds : ExtTreeMap Nat Int compare
  persistedIds : Persisted
  deviceOwnerId : Int
  persistedOwnerId : Int

def initial (d : Directory) (deviceOwnerId : Int) : State where
  directory := d
  defaultActivatedIds := (∅ : ExtTreeMap Nat Int compare).insert defaultDisplayId startUserId
  persistedIds := .object ((∅ : ExtTreeMap Nat Int compare).insert defaultDisplayId startUserId)
  deviceOwnerId := deviceOwnerId
  persistedOwnerId := deviceOwnerId

variable (s : State)

def store (write : Ret) (displayId : Nat) (id : Int) : State :=
  { s with
    persistedIds := (s.persistedIds.setDefaultActivatedOsAccount write displayId id).2
    defaultActivatedIds := s.defaultActivatedIds.insert displayId id }

/-- `ValidateDisplayPrimary`, or the check of a build with one foreground account. -/
def validateDisplay (enableMultiForeground : Bool) (isPrimary : Ret) (displayId : Nat) : Ret :=
  if displayId = defaultDisplayId then .ok ()
  else if enableMultiForeground then isPrimary
  else .error .displayIdNotExistError

def setDefaultActivatedOsAccount (enableMultiForeground : Bool) (isPrimary write : Ret) (displayId : Nat) (id : Int) :
    Ret × State :=
  if id < startUserId then (.error .managerIdError, s)
  else
    match validateDisplay enableMultiForeground isPrimary displayId with
    | .error e => (.error e, s)
    | .ok () =>
        if s.defaultActivatedIds[displayId]? = some id then (.ok (), s)
        else
          match s.directory.accounts[id]? with
          | none => (.error .accountNotExistError, s)
          | some osAccountInfo =>
              match isValidOsAccount osAccountInfo, s.persistedIds.setDefaultActivatedOsAccount write displayId id with
              | .error e, _ => (.error e, s)
              | .ok (), (.error e, _) => (.error e, s)
              | .ok (), (.ok (), _) => (.ok (), store s write displayId id)

def resetDefaultActivatedAccount (write : Ret) (localId : Int) : Ret × State :=
  if s.defaultActivatedIds[defaultDisplayId]? = some localId then
    match s.persistedIds.setDefaultActivatedOsAccount write defaultDisplayId startUserId with
    | (.error e, _) => (.error e, s)
    | (.ok (), _) => (.ok (), store s write defaultDisplayId startUserId)
  else (.ok (), s)

def setOsAccountToBeRemoved (write inputFile : Ret) (localId : Int) (toBeRemoved : Bool) : Ret × State :=
  match s.directory.accounts[localId]? with
  | none => (.error .accountNotExistError, s)
  | some osAccountInfo =>
      match if toBeRemoved then resetDefaultActivatedAccount s write localId else (.ok (), s) with
      | (.error e, s) => (.error e, s)
      | (.ok (), s) =>
          let (r, d) := updateOsAccount s.directory inputFile { osAccountInfo with toBeRemoved }
          (r, { s with directory := d })

def fallback (displayId : Nat) : Int := if displayId = defaultDisplayId then startUserId else invalidOsAccountId

def refreshDisplays (write : Nat → Ret) (displayIds : List Nat) : State :=
  displayIds.foldl (fun s displayId => store s (write displayId) displayId (fallback displayId)) s

def refreshOwner (writeOwner : Ret) (id : Int) : State :=
  if id = s.deviceOwnerId then
    match writeOwner with
    | .error _ => s
    | .ok () => { s with deviceOwnerId := -1, persistedOwnerId := -1 }
  else s

def checkAndRefreshLocalIdRecord (write : Nat → Ret) (writeOwner : Ret) (id : Int) : State :=
  let updatesVec := (s.defaultActivatedIds.toList.filter (·.2 = id)).map (·.1)
  refreshOwner (refreshDisplays s write updatesVec) writeOwner id

def removeOsAccount (storage inputFile : Ret) (a : RemovalAnswer) (write : Nat → Ret) (writeOwner : Ret) (id : Int) :
    Ret × State :=
  match AccountDirectory.removeOsAccount s.directory storage inputFile a id with
  | (.error e, d) => (.error e, { s with directory := d })
  | (.ok (), d) => (.ok (), checkAndRefreshLocalIdRecord { s with directory := d } write writeOwner id)

def isValidActivateOsAccountId (d : Directory) (id : Int) : Bool :=
  if id < startUserId then false
  else
    match d.accounts[id]? with
    | none => false
    | some accountInfo => isValidOsAccount accountInfo = .ok ()

def parseIds (d : Directory) : List (Nat × Int) → ExtTreeMap Nat Int compare → List Int → ExtTreeMap Nat Int compare
  | [], ids, _ => ids
  | (displayId, localId) :: rawIds, ids, claimedIds =>
      if displayId = defaultDisplayId ∨ localId ∈ claimedIds then parseIds d rawIds ids claimedIds
      else if !isValidActivateOsAccountId d localId then parseIds d rawIds ids claimedIds
      else parseIds d rawIds (ids.insert displayId localId) (localId :: claimedIds)

def parseAllDefaultActivateIds (d : Directory) (persistedIds : Persisted) : ExtTreeMap Nat Int compare :=
  let rawIds := persistedIds.getAllDefaultActivatedOsAccounts
  let defaultDisplayAccount :=
    match rawIds[defaultDisplayId]? with
    | none => startUserId
    | some id => if isValidActivateOsAccountId d id then id else startUserId
  parseIds d rawIds.toList ((∅ : ExtTreeMap Nat Int compare).insert defaultDisplayId defaultDisplayAccount)
    [defaultDisplayAccount]

def restart : State :=
  { s with
    defaultActivatedIds := parseAllDefaultActivateIds s.directory s.persistedIds
    deviceOwnerId := s.persistedOwnerId }

inductive Event
  | setDefaultActivatedOsAccount (isPrimary write : Ret) (displayId : Nat) (id : Int)
  | setOsAccountToBeRemoved (write inputFile : Ret) (localId : Int) (toBeRemoved : Bool)
  | removeOsAccount (storage inputFile : Ret) (a : RemovalAnswer) (write : Nat → Ret) (writeOwner : Ret) (id : Int)
  | restart

def step (enableMultiForeground : Bool) (s : State) : Event → State
  | .setDefaultActivatedOsAccount isPrimary write displayId id =>
      (setDefaultActivatedOsAccount s enableMultiForeground isPrimary write displayId id).2
  | .setOsAccountToBeRemoved write inputFile localId toBeRemoved =>
      (setOsAccountToBeRemoved s write inputFile localId toBeRemoved).2
  | .removeOsAccount storage inputFile a write writeOwner id =>
      (removeOsAccount s storage inputFile a write writeOwner id).2
  | .restart => restart s

def FilesSucceed : Event → Prop
  | .setDefaultActivatedOsAccount _ write _ _ => write = .ok ()
  | .setOsAccountToBeRemoved write inputFile _ _ => write = .ok () ∧ inputFile = .ok ()
  | .removeOsAccount _ inputFile a write writeOwner _ => inputFile = .ok () ∧ a.del.deleteDirOrFile = .ok () ∧
      a.del.updateAccountList = .ok () ∧ a.after = .ok () ∧ (∀ displayId, write displayId = .ok ()) ∧ writeOwner = .ok ()
  | .restart => True

def IsUsable (d : Directory) (id : Int) : Prop :=
  ∃ info, d.accounts[id]? = some info ∧ info.isCreateCompleted = true ∧ info.toBeRemoved = false

structure NoDangling (s : State) : Prop where
  entries : ∀ (displayId : Nat) (id : Int), s.defaultActivatedIds[displayId]? = some id →
    IsUsable s.directory id ∨ id = fallback displayId
  default : defaultDisplayId ∈ s.defaultActivatedIds
  agree : ∀ (displayId : Nat) (id : Int), s.defaultActivatedIds[displayId]? = some id →
    s.persistedIds.getAllDefaultActivatedOsAccounts[displayId]? = some id
  owner : s.deviceOwnerId = -1 ∨ s.deviceOwnerId ∈ s.directory.accounts

structure Inv (s : State) : Prop extends NoDangling s where
  tidy : Tidy s.directory
  users : ∀ (displayId : Nat) (id : Int), s.defaultActivatedIds[displayId]? = some id →
    id = fallback displayId ∨ startUserId ≤ id
  sameOwner : s.persistedOwnerId = s.deviceOwnerId

/-- Where the code keeps the promise: a mark, or a removal that stops after it, does
not hit the account of a display, but for that of the default display. -/
def Kept (s : State) : Event → Prop
  | .setOsAccountToBeRemoved _ _ localId true => ∀ entry ∈ s.defaultActivatedIds.toList,
      entry.1 ≠ defaultDisplayId → entry.2 = localId → localId = fallback entry.1
  | .removeOsAccount storage _ a _ _ id => storage ≠ .ok () ∨
      (a.before = .ok () ∧ startUserId < id ∧ id ≤ maxUserId) ∨
      ∀ entry ∈ s.defaultActivatedIds.toList, entry.2 = id → id = fallback entry.1
  | _ => True

instance instDecidableKept (s : State) : (e : Event) → Decidable (Kept s e)
  | .setOsAccountToBeRemoved _ _ localId true => inferInstanceAs (Decidable (∀ entry ∈ s.defaultActivatedIds.toList,
      entry.1 ≠ defaultDisplayId → entry.2 = localId → localId = fallback entry.1))
  | .setOsAccountToBeRemoved _ _ _ false => .isTrue trivial
  | .removeOsAccount storage _ a _ _ id => inferInstanceAs (Decidable (storage ≠ .ok () ∨
      (a.before = .ok () ∧ startUserId < id ∧ id ≤ maxUserId) ∨
      ∀ entry ∈ s.defaultActivatedIds.toList, entry.2 = id → id = fallback entry.1))
  | .setDefaultActivatedOsAccount .. => .isTrue trivial
  | .restart => .isTrue trivial

section persisted

variable {p : Persisted} {displayId j : Nat} {id : Int}

theorem getElem?_setDefaultActivatedOsAccount (hp : defaultDisplayId ∈ p.getAllDefaultActivatedOsAccounts) :
    (p.setDefaultActivatedOsAccount (.ok ()) displayId id).2.getAllDefaultActivatedOsAccounts[j]? =
      if displayId = j then some id else p.getAllDefaultActivatedOsAccounts[j]? := by
  cases p with
  | missing => simp [Persisted.getAllDefaultActivatedOsAccounts] at hp
  | object ids => exact getElem?_insert_eq ids displayId j id
  | number tmpId =>
      simp only [Persisted.setDefaultActivatedOsAccount, Persisted.getAllDefaultActivatedOsAccounts,
        getElem?_insert_eq]
      split
      · rfl
      split
      · rw [getElem?_insert_eq]
      · rename_i hj hdefault
        rw [not_not] at hdefault
        subst hdefault
        rw [if_neg hj]

end persisted

section steps

variable {s} {displayId : Nat} {id : Int}

theorem NoDangling.mem_persisted (h : NoDangling s) :
    defaultDisplayId ∈ s.persistedIds.getAllDefaultActivatedOsAccounts := by
  obtain ⟨id, hid⟩ := Option.isSome_iff_exists.1 (ExtTreeMap.mem_iff_isSome_getElem?.1 h.default)
  rw [ExtTreeMap.mem_iff_isSome_getElem?, h.agree _ _ hid]
  rfl

variable {ids : ExtTreeMap Nat Int compare}

theorem Inv.put (h : Inv s) {p : Persisted} {f : Nat → Option Int}
    (hids : ∀ j : Nat, ids[j]? = (f j).or s.defaultActivatedIds[j]?)
    (hp : ∀ j : Nat, p.getAllDefaultActivatedOsAccounts[j]? =
      (f j).or s.persistedIds.getAllDefaultActivatedOsAccounts[j]?)
    (hchanged : ∀ j id, f j = some id → id = fallback j ∨ IsUsable s.directory id ∧ startUserId ≤ id) :
    Inv { s with defaultActivatedIds := ids, persistedIds := p } := by
  have hcases : ∀ (j : Nat) (id : Int), ids[j]? = some id →
      f j = some id ∨ f j = none ∧ s.defaultActivatedIds[j]? = some id := by
    intro j id hj
    rw [hids, Option.or_eq_some_iff] at hj
    exact hj
  refine ⟨⟨?_, ?_, ?_, h.owner⟩, h.tidy, ?_, h.sameOwner⟩
  · intro j id hj
    rcases hcases j id hj with hc | ⟨_, hj⟩
    · exact (hchanged j id hc).symm.imp_left And.left
    · exact h.entries j id hj
  · have hdefault := ExtTreeMap.mem_iff_isSome_getElem?.1 h.default
    refine ExtTreeMap.mem_iff_isSome_getElem?.2 ?_
    change ids[defaultDisplayId]?.isSome
    rw [hids]
    simp [hdefault]
  · intro j id hj
    change p.getAllDefaultActivatedOsAccounts[j]? = some id
    rw [hp]
    rcases hcases j id hj with hc | ⟨hc, hj⟩
    · rw [hc]
      rfl
    · rw [hc]
      exact h.agree j id hj
  · intro j id hj
    rcases hcases j id hj with hc | ⟨_, hj⟩
    · exact (hchanged j id hc).imp_right And.right
    · exact h.users j id hj

theorem Inv.store (h : Inv s) (hid : id = fallback displayId ∨ IsUsable s.directory id ∧ startUserId ≤ id) :
    Inv (store s (.ok ()) displayId id) := by
  refine h.put (f := fun j => if displayId = j then some id else none) ?_ ?_ ?_
  · intro j
    rw [getElem?_insert_eq]
    split <;> rfl
  · intro j
    rw [getElem?_setDefaultActivatedOsAccount h.mem_persisted]
    split <;> rfl
  · intro j i hc
    split at hc
    · rename_i he
      cases hc
      exact he ▸ hid
    · cases hc

variable {d : Directory}

theorem Inv.directory (h : Inv s) (hd : Tidy d)
    (hentries : ∀ (displayId : Nat) (id : Int), s.defaultActivatedIds[displayId]? = some id →
      IsUsable s.directory id → IsUsable d id ∨ id = fallback displayId)
    (howner : s.deviceOwnerId ∈ s.directory.accounts → s.deviceOwnerId ∈ d.accounts) :
    Inv { s with directory := d } := by
  refine ⟨⟨?_, h.default, h.agree, h.owner.imp_right howner⟩, hd, h.users, h.sameOwner⟩
  intro j id hj
  rcases h.entries j id hj with husable | hfall
  · exact hentries j id hj husable
  · exact .inr hfall

variable {info : OsAccountInfo}

theorem isUsable_of_isValidOsAccount (hinfo : d.accounts[id]? = some info)
    (hvalid : isValidOsAccount info = .ok ()) : IsUsable d id := by
  refine ⟨info, hinfo, ?_⟩
  unfold isValidOsAccount at hvalid
  split at hvalid
  · cases hvalid
  split at hvalid
  · cases hvalid
  · simp_all

theorem Inv.setDefaultActivatedOsAccount (h : Inv s) (enableMultiForeground : Bool) (isPrimary : Ret) :
    Inv (setDefaultActivatedOsAccount s enableMultiForeground isPrimary (.ok ()) displayId id).2 := by
  unfold DefaultActivation.setDefaultActivatedOsAccount
  split
  · exact h
  rename_i huser
  split
  · exact h
  split
  · exact h
  split
  · exact h
  rename_i info hinfo
  split
  · exact h
  · exact h
  · rename_i hvalid _
    exact h.store (.inr ⟨isUsable_of_isValidOsAccount hinfo hvalid, Int.not_lt.1 huser⟩)

theorem Inv.resetDefaultActivatedAccount (h : Inv s) (localId : Int) :
    Inv (resetDefaultActivatedAccount s (.ok ()) localId).2 ∧
      (resetDefaultActivatedAccount s (.ok ()) localId).2.directory = s.directory ∧
      ∀ (displayId : Nat) (id : Int),
        (resetDefaultActivatedAccount s (.ok ()) localId).2.defaultActivatedIds[displayId]? = some id →
        displayId = defaultDisplayId ∧ (id = localId → id = fallback displayId) ∨
          displayId ≠ defaultDisplayId ∧ s.defaultActivatedIds[displayId]? = some id := by
  have hnone : s.defaultActivatedIds[defaultDisplayId]? ≠ some localId →
      ∀ (displayId : Nat) (id : Int), s.defaultActivatedIds[displayId]? = some id →
        displayId = defaultDisplayId ∧ (id = localId → id = fallback displayId) ∨
          displayId ≠ defaultDisplayId ∧ s.defaultActivatedIds[displayId]? = some id := by
    intro hne j id hj
    by_cases hd : j = defaultDisplayId
    · subst hd
      exact .inl ⟨rfl, fun he => absurd (he ▸ hj) hne⟩
    · exact .inr ⟨hd, hj⟩
  unfold DefaultActivation.resetDefaultActivatedAccount
  split
  · split
    · rename_i hr
      have hp := h.mem_persisted
      cases hs : s.persistedIds with
      | missing => simp [hs, Persisted.getAllDefaultActivatedOsAccounts] at hp
      | number tmpId => simp [hs, Persisted.setDefaultActivatedOsAccount] at hr
      | object ids => simp [hs, Persisted.setDefaultActivatedOsAccount] at hr
    · refine ⟨h.store (.inl rfl), rfl, ?_⟩
      intro j id hj
      change (s.defaultActivatedIds.insert defaultDisplayId startUserId)[j]? = some id at hj
      rw [getElem?_insert_eq] at hj
      split at hj
      · rename_i he
        cases hj
        exact .inl ⟨he.symm, fun _ => he ▸ rfl⟩
      · rename_i he
        exact .inr ⟨fun hd => he hd.symm, hj⟩
  · rename_i hne
    exact ⟨h, rfl, hnone hne⟩

theorem updateOsAccount_ok (info : OsAccountInfo) {old : OsAccountInfo}
    (hold : d.accounts[info.localId]? = some old) :
    updateOsAccount d (.ok ()) info = (.ok (), { d with accounts := d.accounts.insert info.localId info.stored }) := by
  unfold updateOsAccount
  rw [if_neg]
  rw [not_not, ExtTreeMap.mem_iff_isSome_getElem?, hold]
  rfl

theorem Inv.mark (h : Inv s) (hinfo : s.directory.accounts[info.localId]? = some info)
    (toBeRemoved : Bool)
    (hentries : toBeRemoved = true → ∀ displayId : Nat, s.defaultActivatedIds[displayId]? = some info.localId →
      info.localId = fallback displayId) :
    Inv { s with directory := (updateOsAccount s.directory (.ok ()) { info with toBeRemoved }).2 } := by
  rw [updateOsAccount_ok { info with toBeRemoved } hinfo]
  refine h.directory (h.tidy.put fun hlow => h.tidy.listed _ info hinfo hlow) ?_ ?_
  · rintro displayId id hj ⟨i, hi, hcompleted, hmark⟩
    by_cases he : info.localId = id
    · subst he
      cases toBeRemoved with
      | true => exact .inr (hentries rfl displayId hj)
      | false =>
          obtain rfl : info = i := Option.some.inj (hinfo.symm.trans hi)
          exact .inl ⟨{ info with toBeRemoved := false }.stored,
            (getElem?_insert_eq ..).trans (if_pos rfl), hcompleted, rfl⟩
    · exact .inl ⟨i, ((getElem?_insert_eq ..).trans (if_neg he)).trans hi, hcompleted, hmark⟩
  · exact fun howner => mem_insert_iff.2 (.inr howner)

theorem Inv.setOsAccountToBeRemoved (h : Inv s) {localId : Int} {toBeRemoved : Bool}
    (hkept : Kept s (.setOsAccountToBeRemoved (.ok ()) (.ok ()) localId toBeRemoved)) :
    Inv (setOsAccountToBeRemoved s (.ok ()) (.ok ()) localId toBeRemoved).2 := by
  unfold DefaultActivation.setOsAccountToBeRemoved
  split
  · exact h
  rename_i info hinfo
  obtain rfl := h.tidy.keyed localId info hinfo
  cases toBeRemoved with
  | false => exact h.mark hinfo false fun hc => by cases hc
  | true =>
      obtain ⟨hreset, hdirectory, hshown⟩ := h.resetDefaultActivatedAccount info.localId
      rw [if_pos rfl]
      split
      · rename_i hr
        rwa [hr] at hreset
      · rename_i s₁ hr
        rw [hr] at hreset hdirectory hshown
        dsimp only at hreset hdirectory hshown
        rw [← hdirectory] at hinfo
        refine hreset.mark hinfo true fun _ displayId hj => ?_
        rcases hshown displayId _ hj with ⟨_, hfall⟩ | ⟨hd, hj⟩
        · exact hfall rfl
        · exact hkept _ (ExtTreeMap.mem_toList_iff_getElem?_eq_some.2 hj) hd rfl

theorem refreshDisplays_directory (d : Directory) (write : Nat → Ret) (displayIds : List Nat) :
    refreshDisplays { s with directory := d } write displayIds =
      { refreshDisplays s write displayIds with directory := d } := by
  induction displayIds generalizing s with
  | nil => rfl
  | cons displayId displayIds ih => exact ih (s := store s (write displayId) displayId (fallback displayId))

theorem checkAndRefreshLocalIdRecord_directory (d : Directory) (write : Nat → Ret) (writeOwner : Ret) :
    checkAndRefreshLocalIdRecord { s with directory := d } write writeOwner id =
      { checkAndRefreshLocalIdRecord s write writeOwner id with directory := d } := by
  unfold checkAndRefreshLocalIdRecord
  dsimp only
  rw [refreshDisplays_directory]
  unfold refreshOwner
  dsimp only
  split
  · cases writeOwner <;> rfl
  · rfl

theorem getElem?_refreshDisplays (write : Nat → Ret) (displayIds : List Nat) (j : Nat) :
    (refreshDisplays s write displayIds).defaultActivatedIds[j]? =
      if j ∈ displayIds then some (fallback j) else s.defaultActivatedIds[j]? := by
  induction displayIds generalizing s with
  | nil => rfl
  | cons displayId displayIds ih =>
      refine ih.trans ?_
      split
      · rename_i hj
        rw [if_pos (List.mem_cons_of_mem displayId hj)]
      · rename_i hj
        change (s.defaultActivatedIds.insert displayId (fallback displayId))[j]? = _
        rw [getElem?_insert_eq]
        by_cases he : displayId = j
        · subst he
          rw [if_pos rfl, if_pos List.mem_cons_self]
        · rw [if_neg he, if_neg]
          rw [List.mem_cons, not_or]
          exact ⟨fun hd => he hd.symm, hj⟩

theorem Inv.refreshDisplays (h : Inv s) {write : Nat → Ret} (hwrite : ∀ displayId, write displayId = .ok ())
    (displayIds : List Nat) : Inv (refreshDisplays s write displayIds) := by
  induction displayIds generalizing s with
  | nil => exact h
  | cons displayId displayIds ih =>
      have hstore : Inv (DefaultActivation.store s (write displayId) displayId (fallback displayId)) := by
        rw [hwrite]
        exact h.store (.inl rfl)
      exact ih hstore

theorem Inv.refreshOwner (h : Inv s) : Inv (refreshOwner s (.ok ()) id) := by
  unfold DefaultActivation.refreshOwner
  split
  · exact ⟨⟨h.entries, h.default, h.agree, .inl rfl⟩, h.tidy, h.users, rfl⟩
  · exact h

theorem refreshDisplays_keeps (write : Nat → Ret) (displayIds : List Nat) :
    (refreshDisplays s write displayIds).directory = s.directory := by
  induction displayIds generalizing s with
  | nil => rfl
  | cons displayId displayIds ih => exact ih

theorem refreshOwner_ids (writeOwner : Ret) :
    (refreshOwner s writeOwner id).defaultActivatedIds = s.defaultActivatedIds ∧
      (refreshOwner s writeOwner id).directory = s.directory := by
  unfold refreshOwner
  split
  · cases writeOwner <;> exact ⟨rfl, rfl⟩
  · exact ⟨rfl, rfl⟩

theorem refreshOwner_ne (hid : id ≠ -1) : (refreshOwner s (.ok ()) id).deviceOwnerId ≠ id := by
  unfold refreshOwner
  split
  · exact hid.symm
  · rename_i hne
    exact fun he => hne he.symm

theorem eq_fallback_of_refreshed {write : Nat → Ret} {writeOwner : Ret} {j : Nat}
    (hj : (checkAndRefreshLocalIdRecord s write writeOwner id).defaultActivatedIds[j]? = some id) : id = fallback j := by
  unfold checkAndRefreshLocalIdRecord at hj
  dsimp only at hj
  rw [(refreshOwner_ids writeOwner).1, getElem?_refreshDisplays] at hj
  split at hj
  · exact (Option.some.inj hj).symm
  · rename_i hn
    refine absurd (List.mem_map.2 ⟨(j, id), List.mem_filter.2 ⟨?_, decide_eq_true rfl⟩, rfl⟩) hn
    exact ExtTreeMap.mem_toList_iff_getElem?_eq_some.2 hj

theorem removeOsAccount_marked (hinfo : d.accounts[info.localId]? = some info)
    (a : RemovalAnswer) :
    AccountDirectory.removeOsAccount d (.ok ()) (.ok ()) a info.localId =
      removeOsAccountOperate (updateOsAccount d (.ok ()) { info with toBeRemoved := true }).2 a
        { info with toBeRemoved := true } false := by
  unfold AccountDirectory.removeOsAccount
  rw [hinfo]
  dsimp only
  rw [updateOsAccount_ok { info with toBeRemoved := true } hinfo]

/-- With a working file system a removal does nothing, stops after the mark, or
deletes the account. -/
theorem removeOsAccount_cases (hd : Tidy d) (storage : Ret) {a : RemovalAnswer}
    (hdel : a.del.deleteDirOrFile = .ok ()) (hlist : a.del.updateAccountList = .ok ()) (hafter : a.after = .ok ())
    (id : Int) :
    (∃ e, AccountDirectory.removeOsAccount d storage (.ok ()) a id = (.error e, d)) ∨
      (∃ (e : ErrCode) (info : OsAccountInfo), d.accounts[info.localId]? = some info ∧ id = info.localId ∧
        storage = .ok () ∧ ¬ (a.before = .ok () ∧ startUserId < id ∧ id ≤ maxUserId) ∧
        AccountDirectory.removeOsAccount d storage (.ok ()) a id =
          (.error e, (updateOsAccount d (.ok ()) { info with toBeRemoved := true }).2)) ∨
      startUserId < id ∧ ∃ d', AccountDirectory.removeOsAccount d storage (.ok ()) a id = (.ok (), d') ∧
        ∀ n : Int, n ≠ id → d'.accounts[n]? = d.accounts[n]? := by
  cases hinfo : d.accounts[id]? with
  | none => exact .inl ⟨.accountNotExistError, by simp only [AccountDirectory.removeOsAccount, hinfo]⟩
  | some info =>
      cases storage with
      | error e => exact .inl ⟨e, by simp only [AccountDirectory.removeOsAccount, hinfo]⟩
      | ok u =>
          obtain rfl := hd.keyed id info hinfo
          rw [removeOsAccount_marked hinfo]
          unfold removeOsAccountOperate delOsAccount
          rw [if_neg (by simp)]
          cases hbefore : a.before with
          | error e =>
              have hstops : ¬ ((.error e : Ret) = .ok () ∧ startUserId < info.localId ∧
                  info.localId ≤ maxUserId) :=
                fun h => by cases h.1
              exact .inr (.inl ⟨e, info, hinfo, rfl, rfl, hstops, rfl⟩)
          | ok v =>
              dsimp only
              by_cases hrange : info.localId ≤ startUserId ∨ info.localId > maxUserId
              · rw [if_pos hrange]
                exact .inr (.inl ⟨_, info, hinfo, rfl, rfl, by omega, rfl⟩)
              · rw [if_neg hrange, hdel, hlist, hafter]
                refine .inr (.inr ⟨by omega, _, rfl, ?_⟩)
                intro n hn
                rw [updateOsAccount_ok { info with toBeRemoved := true } hinfo]
                dsimp only
                rw [getElem?_erase_eq, if_neg hn.symm,
                  getElem?_insert_eq, if_neg hn.symm]

theorem Inv.removeOsAccount (h : Inv s) {storage : Ret} {a : RemovalAnswer} {write : Nat → Ret}
    (hdel : a.del.deleteDirOrFile = .ok ()) (hlist : a.del.updateAccountList = .ok ()) (hafter : a.after = .ok ())
    (hwrite : ∀ displayId, write displayId = .ok ())
    (hkept : Kept s (.removeOsAccount storage (.ok ()) a write (.ok ()) id)) :
    Inv (removeOsAccount s storage (.ok ()) a write (.ok ()) id).2 := by
  have htidy : Tidy (AccountDirectory.removeOsAccount s.directory storage (.ok ()) a id).2 :=
    h.tidy.step 0 (.removeOsAccount storage (.ok ()) a id)
  unfold DefaultActivation.removeOsAccount
  rcases removeOsAccount_cases h.tidy storage hdel hlist hafter id with
    ⟨e, hr⟩ | ⟨e, info, hinfo, rfl, hstorage, hstops, hr⟩ | ⟨huser, d', hr, hothers⟩
  · rw [hr]
    exact h
  · rw [hr]
    refine h.mark hinfo true fun _ displayId hj => ?_
    rcases hkept with hfails | hthrough | hshown
    · exact absurd hstorage hfails
    · exact absurd hthrough hstops
    · exact hshown _ (ExtTreeMap.mem_toList_iff_getElem?_eq_some.2 hj) rfl
  · rw [hr] at htidy ⊢
    dsimp only at htidy ⊢
    rw [checkAndRefreshLocalIdRecord_directory]
    have hrefresh : Inv (checkAndRefreshLocalIdRecord s write (.ok ()) id) :=
      (h.refreshDisplays hwrite _).refreshOwner
    have hdirectory : (checkAndRefreshLocalIdRecord s write (.ok ()) id).directory = s.directory :=
      (refreshOwner_ids (.ok ())).2.trans (refreshDisplays_keeps write _)
    refine hrefresh.directory htidy ?_ ?_
    · rintro displayId n hj ⟨info, hinfo, hvalid⟩
      by_cases hn : n = id
      · subst hn
        exact .inr (eq_fallback_of_refreshed hj)
      · exact .inl ⟨info, (hothers n hn).trans (hdirectory ▸ hinfo), hvalid⟩
    · intro howner
      have hne : (checkAndRefreshLocalIdRecord s write (.ok ()) id).deviceOwnerId ≠ id :=
        refreshOwner_ne (by rintro rfl; cases huser)
      rw [ExtTreeMap.mem_iff_isSome_getElem?] at howner ⊢
      rw [hothers _ hne, ← hdirectory]
      exact howner

theorem getElem?_parseIds {rawIds : List (Nat × Int)}
    {claimedIds : List Int} {j : Nat} (hj : (parseIds d rawIds ids claimedIds)[j]? = some id) :
    ids[j]? = some id ∨ j ≠ defaultDisplayId ∧ (j, id) ∈ rawIds ∧ isValidActivateOsAccountId d id = true := by
  induction rawIds generalizing ids claimedIds with
  | nil => exact .inl hj
  | cons entry rawIds ih =>
      obtain ⟨displayId, localId⟩ := entry
      unfold parseIds at hj
      have hlater : ∀ {ids : ExtTreeMap Nat Int compare} {claimedIds : List Int},
          (parseIds d rawIds ids claimedIds)[j]? = some id → ids[j]? = some id ∨ j ≠ defaultDisplayId ∧
            (j, id) ∈ (displayId, localId) :: rawIds ∧ isValidActivateOsAccountId d id = true := fun hj =>
        (ih hj).imp_right fun h => ⟨h.1, List.mem_cons_of_mem _ h.2.1, h.2.2⟩
      split at hj
      · exact hlater hj
      rename_i hskip
      split at hj
      · exact hlater hj
      rename_i hvalid
      rcases hlater hj with hput | hlisted
      · rw [getElem?_insert_eq] at hput
        split at hput
        · rename_i he
          cases hput
          subst he
          exact .inr ⟨fun hd => hskip (.inl hd), List.mem_cons_self, by simpa using hvalid⟩
        · exact .inl hput
      · exact .inr hlisted

theorem getElem?_parseIds_default {rawIds : List (Nat × Int)}
    {claimedIds : List Int} : (parseIds d rawIds ids claimedIds)[defaultDisplayId]? = ids[defaultDisplayId]? := by
  induction rawIds generalizing ids claimedIds with
  | nil => rfl
  | cons entry rawIds ih =>
      obtain ⟨displayId, localId⟩ := entry
      unfold parseIds
      split
      · exact ih
      rename_i hskip
      split
      · exact ih
      · rw [ih, getElem?_insert_eq, if_neg fun hd => hskip (.inl hd)]

theorem isUsable_of_isValidActivateOsAccountId (h : isValidActivateOsAccountId d id = true) :
    IsUsable d id ∧ startUserId ≤ id := by
  unfold isValidActivateOsAccountId at h
  split at h
  · cases h
  rename_i huser
  split at h
  · cases h
  · rename_i info hinfo
    exact ⟨isUsable_of_isValidOsAccount hinfo (of_decide_eq_true h), Int.not_lt.1 huser⟩

theorem Inv.defaultDisplayAccount (h : Inv s) {id : Int}
    (hid : s.persistedIds.getAllDefaultActivatedOsAccounts[defaultDisplayId]? = some id) :
    (if isValidActivateOsAccountId s.directory id then id else startUserId) = id := by
  split
  · rfl
  rename_i hinvalid
  obtain ⟨n, hn⟩ := Option.isSome_iff_exists.1 (ExtTreeMap.mem_iff_isSome_getElem?.1 h.default)
  obtain rfl : n = id := Option.some.inj ((h.agree _ _ hn).symm.trans hid)
  rcases h.users _ _ hn with hfall | huser
  · exact hfall.symm
  rcases h.entries _ _ hn with ⟨info, hinfo, hcompleted, hmark⟩ | hfall
  · refine absurd ?_ hinvalid
    unfold isValidActivateOsAccountId
    rw [if_neg (Int.not_lt.2 huser), hinfo]
    simp [isValidOsAccount, hcompleted, hmark]
  · exact hfall.symm

theorem Inv.restart (h : Inv s) : Inv (restart s) := by
  obtain ⟨first, hfirst⟩ := Option.isSome_iff_exists.1 (ExtTreeMap.mem_iff_isSome_getElem?.1 h.mem_persisted)
  obtain ⟨n, hn⟩ := Option.isSome_iff_exists.1 (ExtTreeMap.mem_iff_isSome_getElem?.1 h.default)
  obtain rfl : n = first := Option.some.inj ((h.agree _ _ hn).symm.trans hfirst)
  have hparse : parseAllDefaultActivateIds s.directory s.persistedIds =
      parseIds s.directory s.persistedIds.getAllDefaultActivatedOsAccounts.toList
        ((∅ : ExtTreeMap Nat Int compare).insert defaultDisplayId n) [n] := by
    unfold parseAllDefaultActivateIds
    dsimp only
    rw [hfirst]
    dsimp only
    rw [h.defaultDisplayAccount hfirst]
  have hcases : ∀ (j : Nat) (id : Int),
    (parseAllDefaultActivateIds s.directory s.persistedIds)[j]? = some id →
      j = defaultDisplayId ∧ id = n ∨ s.persistedIds.getAllDefaultActivatedOsAccounts[j]? = some id ∧
        IsUsable s.directory id ∧ startUserId ≤ id := by
    intro j id hj
    rw [hparse] at hj
    rcases getElem?_parseIds hj with hput | ⟨_, hlisted, hvalid⟩
    · rw [getElem?_insert_eq] at hput
      split at hput
      · rename_i he
        exact .inl ⟨he.symm, (Option.some.inj hput).symm⟩
      · simp at hput
    · exact .inr ⟨ExtTreeMap.mem_toList_iff_getElem?_eq_some.1 hlisted,
        isUsable_of_isValidActivateOsAccountId hvalid⟩
  refine ⟨⟨?_, ?_, ?_, ?_⟩, h.tidy, ?_, rfl⟩
  · intro j id hj
    rcases hcases j id hj with ⟨rfl, rfl⟩ | ⟨_, husable, _⟩
    · exact h.entries _ _ hn
    · exact .inl husable
  · refine ExtTreeMap.mem_iff_isSome_getElem?.2 ?_
    change (parseAllDefaultActivateIds s.directory s.persistedIds)[defaultDisplayId]?.isSome
    rw [hparse, getElem?_parseIds_default, getElem?_insert_eq, if_pos rfl]
    rfl
  · intro j id hj
    rcases hcases j id hj with ⟨rfl, rfl⟩ | ⟨hpersisted, _⟩
    · exact hfirst
    · exact hpersisted
  · change s.persistedOwnerId = -1 ∨ s.persistedOwnerId ∈ s.directory.accounts
    rw [h.sameOwner]
    exact h.owner
  · intro j id hj
    rcases hcases j id hj with ⟨rfl, rfl⟩ | ⟨_, _, huser⟩
    · exact h.users _ _ hn
    · exact .inr huser

theorem Inv.step (h : Inv s) (enableMultiForeground : Bool) {e : Event} (hfiles : FilesSucceed e) (hkept : Kept s e) :
    Inv (step enableMultiForeground s e) := by
  cases e with
  | setDefaultActivatedOsAccount isPrimary write displayId id =>
      obtain rfl : write = .ok () := hfiles
      exact h.setDefaultActivatedOsAccount enableMultiForeground isPrimary
  | setOsAccountToBeRemoved write inputFile localId toBeRemoved =>
      obtain ⟨rfl, rfl⟩ := hfiles
      exact h.setOsAccountToBeRemoved hkept
  | removeOsAccount storage inputFile a write writeOwner id =>
      obtain ⟨rfl, hdel, hlist, hafter, hwrite, rfl⟩ := hfiles
      exact h.removeOsAccount hdel hlist hafter hwrite hkept
  | restart => exact h.restart

theorem inv_initial (hd : Tidy d) {deviceOwnerId : Int}
    (howner : deviceOwnerId = -1 ∨ deviceOwnerId ∈ d.accounts) : Inv (initial d deviceOwnerId) := by
  have hentries : ∀ (displayId : Nat) (id : Int),
      (initial d deviceOwnerId).defaultActivatedIds[displayId]? = some id → id = fallback displayId := by
    intro displayId id hj
    simp only [initial, getElem?_insert_eq] at hj
    split at hj
    · rename_i he
      subst he
      exact (Option.some.inj hj).symm
    · simp at hj
  exact ⟨⟨fun j id hj => .inr (hentries j id hj), mem_insert_iff.2 (.inl rfl),
    fun _ _ hj => hj, howner⟩, hd,
    fun j id hj => .inl (hentries j id hj), rfl⟩

end steps

/-- No display and no device owner keeps an account that is gone, in every run
whose marks and failed removals only hit accounts that no display shows by default. -/
theorem no_dangling_default_account (enableMultiForeground : Bool) {d : Directory} (hd : Tidy d) {deviceOwnerId : Int}
    (howner : deviceOwnerId = -1 ∨ deviceOwnerId ∈ d.accounts) {es : List Event} (hfiles : ∀ e ∈ es, FilesSucceed e)
    (hes : Machine.Meets (step enableMultiForeground) Kept (initial d deviceOwnerId) es) :
    NoDangling (Machine.run (step enableMultiForeground) (initial d deviceOwnerId) es) := by
  have hinv : Inv (Machine.run (step enableMultiForeground) (initial d deviceOwnerId) es) := by
    refine Machine.run_invariant_of_meets ?_ (inv_initial hd howner) (hes.and_forall hfiles)
    exact fun s e h hmeets => h.step enableMultiForeground hmeets.2 hmeets.1
  exact hinv.toNoDangling

def threeAccounts : Directory :=
  Machine.run (AccountDirectory.step 1000) (AccountDirectory.initial "owner")
    [.createOsAccount everythingSucceeds (creation "alice"), .createOsAccount everythingSucceeds (creation "bob")]

theorem tidy_threeAccounts : Tidy threeAccounts :=
  Machine.run_invariant (fun _ e h => h.step 1000 e) (Tidy.initial "owner") _

/-- The default display loses the account that is marked, another display the one
that is removed. -/
def retiring : List Event :=
  [.setDefaultActivatedOsAccount (.ok ()) (.ok ()) 0 101, .setDefaultActivatedOsAccount (.ok ()) (.ok ()) 1 102,
    .setOsAccountToBeRemoved (.ok ()) (.ok ()) 101 true,
    .removeOsAccount (.ok ()) (.ok ()) everythingRemoved (fun _ => .ok ()) (.ok ()) 102, .restart]

theorem no_dangling_default_account_retiring :
    NoDangling (Machine.run (step true) (initial threeAccounts 102) retiring) := by
  refine no_dangling_default_account true tidy_threeAccounts (.inr (by decide +kernel)) ?_ (by decide +kernel)
  intro e he
  simp only [retiring, List.mem_cons, List.not_mem_nil, or_false] at he
  rcases he with rfl | rfl | rfl | rfl | rfl
  · exact rfl
  · exact rfl
  · exact ⟨rfl, rfl⟩
  · exact ⟨rfl, rfl, rfl, rfl, fun _ => rfl, rfl⟩
  · trivial

def marking : List Event :=
  [.setDefaultActivatedOsAccount (.ok ()) (.ok ()) 1 101, .setOsAccountToBeRemoved (.ok ()) (.ok ()) 101 true]

/-- The removal of the default account is refused by a service, then the service restarts. -/
def failedRemoval : List Event :=
  [.setDefaultActivatedOsAccount (.ok ()) (.ok ()) 0 101,
    .removeOsAccount (.ok ()) (.ok ()) { everythingRemoved with before := .error .teeReachLimit } (fun _ => .ok ())
      (.ok ()) 101, .restart]

theorem marked_account_stays_default :
    ¬ NoDangling (Machine.run (step true) (initial threeAccounts (-1)) marking) ∧
      ¬ NoDangling (Machine.run (step true) (initial threeAccounts (-1)) failedRemoval) := by
  constructor
  · intro h
    have hshown : (Machine.run (step true) (initial threeAccounts (-1)) marking).defaultActivatedIds[1]? = some 101 := by
      decide +kernel
    have hmark : ∀ info,
      (Machine.run (step true) (initial threeAccounts (-1)) marking).directory.accounts[(101 : Int)]? =
        some info → info.toBeRemoved = true := by
      rw [show (Machine.run (step true) (initial threeAccounts (-1)) marking).directory.accounts[(101 : Int)]? =
        some { localId := 101, localName := "alice", type := .normal, isCreateCompleted := true, toBeRemoved := true } by
          decide +kernel]
      rintro info ⟨⟩
      rfl
    rcases h.entries _ _ hshown with ⟨info, hinfo, _, hlive⟩ | hfall
    · rw [hmark info hinfo] at hlive
      cases hlive
    · cases hfall
  · intro h
    have hshown : (Machine.run (step true) (initial threeAccounts (-1)) failedRemoval).defaultActivatedIds[0]? =
        some startUserId := by
      decide +kernel
    have hstored : (Machine.run (step true) (initial threeAccounts (-1))
        failedRemoval).persistedIds.getAllDefaultActivatedOsAccounts[0]? = some 101 := by
      decide +kernel
    rw [h.agree _ _ hshown] at hstored
    cases hstored

end OsAccount.DefaultActivation
