import OsAccount.DirectoryRules

namespace OsAccount.AccountQuota

open Std AccountList AccountDirectory DirectoryRules

structure Entry where
  listed : Bool
  file : Option OsAccountInfo
deriving DecidableEq

def entry (d : Directory) (id : Int) : Entry := ⟨id ∈ d.accountIdList, d.accounts[id]?⟩

/-- What `RemoveOsAccountOperate` answers for a garbage account. An account that it
keeps counts as removed. -/
def reportsRemoval (a : RemovalAnswer) (osAccountInfo : OsAccountInfo) : Bool :=
  (!osAccountInfo.isCreateCompleted && !osAccountInfo.isDataRemovable) ||
    (a.before = .ok () ∧ startUserId < osAccountInfo.localId ∧ osAccountInfo.localId ≤ maxUserId ∧
      a.del.deleteDirOrFile = .ok () ∧ a.del.updateAccountList = .ok () ∧ a.after = .ok ())

namespace Entry

/-- Whether a turn of `CleanGarbageOsAccounts` adds to its number. -/
def reported (e : Entry) (a : RemovalAnswer) (excludeId id : Int) : Bool :=
  if id = startUserId ∨ id = adminLocalId ∨ id = u1Id ∨ id = excludeId then false
  else
    let osAccountInfo := { e.file.getD {} with localId := id }
    if !osAccountInfo.toBeRemoved && osAccountInfo.isCreateCompleted then false else reportsRemoval a osAccountInfo

def counted (e : Entry) : Bool := e.listed && e.file.all fun info => !info.creatorIsNative

def removed (e : Entry) (a : RemovalAnswer) (id : Int) (osAccountInfo : OsAccountInfo) : Entry :=
  if !osAccountInfo.isCreateCompleted && !osAccountInfo.isDataRemovable then e
  else if a.before ≠ .ok () ∨ id ≤ startUserId ∨ id > maxUserId then e
  else if a.del.deleteDirOrFile ≠ .ok () then if a.del.emptied then { e with file := none } else e
  else ⟨e.listed && a.del.updateAccountList ≠ .ok (), none⟩

def cleaned (e : Entry) (a : RemovalAnswer) (excludeId id : Int) : Entry :=
  if id = startUserId ∨ id = adminLocalId ∨ id = u1Id ∨ id = excludeId then e
  else
    let osAccountInfo := e.file.getD {}
    if !osAccountInfo.toBeRemoved && osAccountInfo.isCreateCompleted then e else e.removed a id osAccountInfo

def unbound (e : Entry) (a : RemovalAnswer) (info : DomainAccountInfo) (id : Int) : Entry :=
  match e.file with
  | none => e
  | some osAccountInfo =>
      if isSameDomainAccount info osAccountInfo.domainInfo &&
          !(osAccountInfo.isCreateCompleted && !osAccountInfo.toBeRemoved) then
        e.removed a id osAccountInfo
      else e

end Entry

variable {d d' : Directory}

theorem entry_erase (d : Directory) (id n : Int) :
    entry { d with accounts := d.accounts.erase id } n =
      if n = id then { entry d id with file := none } else entry d n := by
  unfold entry
  dsimp only
  rw [OrderedMap.getElem?_erase_eq]
  split
  · rename_i he
    rw [if_pos he.symm, he]
  · rename_i hne
    rw [if_neg (Ne.symm hne)]

theorem entry_unlist (d : Directory) (id n : Int) :
    entry { d with accountIdList := d.accountIdList.filter (· ≠ id) } n =
      if n = id then { entry d id with listed := false } else entry d n := by
  unfold entry
  dsimp only
  split
  · rename_i he
    simp [he]
  · rename_i hne
    simp [hne]

theorem entry_removeOsAccountOperate (d : Directory) (a : RemovalAnswer) (osAccountInfo : OsAccountInfo) (n : Int) :
    entry (removeOsAccountOperate d a osAccountInfo true).2 n =
      if n = osAccountInfo.localId then (entry d n).removed a n osAccountInfo else entry d n := by
  obtain ⟨before, ⟨delete, emptied, list⟩, after⟩ := a
  unfold removeOsAccountOperate Entry.removed
  rw [Bool.true_and]
  split
  · rw [ite_self]
  cases before with
  | error e => simp
  | ok u =>
      by_cases hid : osAccountInfo.localId ≤ startUserId ∨ osAccountInfo.localId > maxUserId
      · simp only [delOsAccount, if_pos hid]
        split
        · rename_i he
          simp [he, hid]
        · rfl
      · simp only [delOsAccount, if_neg hid]
        cases delete with
        | error e =>
            cases emptied with
            | false => simp
            | true =>
                simp only [if_true, entry_erase]
                split
                · rename_i he
                  simp [he, hid]
                · rfl
        | ok u =>
            cases list with
            | error e =>
                simp only [entry_erase]
                split
                · rename_i he
                  simp [he, hid]
                · rfl
            | ok u =>
                have h := entry_unlist { d with accounts := d.accounts.erase osAccountInfo.localId }
                  osAccountInfo.localId n
                simp only [entry_erase] at h
                simp only [h]
                split
                · rename_i he
                  simp [he, hid]
                · rfl

theorem removeOsAccountOperate_ok_iff (d : Directory) (a : RemovalAnswer) (osAccountInfo : OsAccountInfo) :
    (removeOsAccountOperate d a osAccountInfo true).1 = .ok () ↔ reportsRemoval a osAccountInfo = true := by
  obtain ⟨before, ⟨delete, emptied, list⟩, after⟩ := a
  unfold removeOsAccountOperate reportsRemoval
  rw [Bool.true_and]
  split
  · rename_i hkept
    simp [hkept]
  rename_i hremovable
  rw [Bool.not_eq_true] at hremovable
  rw [hremovable, Bool.false_or, decide_eq_true_iff]
  cases before with
  | error e => simp
  | ok u =>
      by_cases hid : osAccountInfo.localId ≤ startUserId ∨ osAccountInfo.localId > maxUserId
      · simp only [delOsAccount, if_pos hid]
        refine iff_of_false nofun fun h => ?_
        omega
      · have hrange : startUserId < osAccountInfo.localId ∧ osAccountInfo.localId ≤ maxUserId := by omega
        simp only [delOsAccount, if_neg hid]
        cases delete <;> cases list <;> simp [hrange]

theorem cleanGarbageOsAccount_number (d : Directory) (a : RemovalAnswer) (excludeId id : Int) :
    (cleanGarbageOsAccount d a excludeId id).1 = if (entry d id).reported a excludeId id then 1 else 0 := by
  unfold cleanGarbageOsAccount Entry.reported entry
  by_cases hspecial : id = startUserId ∨ id = adminLocalId ∨ id = u1Id ∨ id = excludeId
  · simp only [if_pos hspecial, if_neg Bool.false_ne_true]
  simp only [if_neg hspecial]
  split
  · rfl
  have hremove := removeOsAccountOperate_ok_iff d a { d.accounts[id]?.getD {} with localId := id }
  split <;> rename_i hr <;> rw [hr] at hremove
  · rw [if_pos (hremove.mp rfl)]
  · rw [if_neg (mt hremove.mpr nofun)]

theorem cleanGarbageOsAccount_directory (d : Directory) (a : RemovalAnswer) (excludeId id : Int) :
    (cleanGarbageOsAccount d a excludeId id).2 =
      if id = startUserId ∨ id = adminLocalId ∨ id = u1Id ∨ id = excludeId then d
      else if !(d.accounts[id]?.getD {}).toBeRemoved && (d.accounts[id]?.getD {}).isCreateCompleted then d
      else (removeOsAccountOperate d a { d.accounts[id]?.getD {} with localId := id } true).2 := by
  unfold cleanGarbageOsAccount
  split
  · rfl
  dsimp only
  split
  · rfl
  · split <;> rename_i hr <;> rw [hr]

theorem entry_cleanGarbageOsAccount (d : Directory) (a : RemovalAnswer) (excludeId id n : Int) :
    entry (cleanGarbageOsAccount d a excludeId id).2 n =
      if n = id then (entry d id).cleaned a excludeId id else entry d n := by
  rw [cleanGarbageOsAccount_directory, apply_ite (entry · n), apply_ite (entry · n),
    entry_removeOsAccountOperate]
  unfold Entry.cleaned
  by_cases hn : n = id
  · subst hn
    rw [if_pos rfl, if_pos rfl]
    rfl
  · rw [if_neg hn, if_neg hn, ite_self, ite_self]

theorem cleanGarbageOsAccountsIn_directory (a : Int → RemovalAnswer) (excludeId : Int) (ids : List Int)
    (d : Directory) : (cleanGarbageOsAccountsIn a excludeId ids d).2 =
      ids.foldl (fun d id => (cleanGarbageOsAccount d (a id) excludeId id).2) d := by
  induction ids generalizing d with
  | nil => rfl
  | cons id ids ih => exact ih _

theorem entry_cleanGarbageOsAccounts (h : d.accountIdList.Nodup) (a : Int → RemovalAnswer) (excludeId n : Int) :
    entry (cleanGarbageOsAccounts d a excludeId).2 n =
      if n ∈ d.accountIdList then (entry d n).cleaned (a n) excludeId n else entry d n := by
  rw [cleanGarbageOsAccounts, cleanGarbageOsAccountsIn_directory]
  exact Machine.foldl_local entry (fun id e => e.cleaned (a id) excludeId id)
    (fun d id n => entry_cleanGarbageOsAccount d (a id) excludeId id n) h d n

theorem cleanGarbageOsAccounts_number (h : d.accountIdList.Nodup) (a : Int → RemovalAnswer) (excludeId : Int) :
    (cleanGarbageOsAccounts d a excludeId).1 =
      d.accountIdList.countP fun n => (entry d n).reported (a n) excludeId n := by
  unfold cleanGarbageOsAccounts
  generalize d.accountIdList = ids at h
  induction ids generalizing d with
  | nil => rfl
  | cons id ids ih =>
      rw [List.nodup_cons] at h
      have hrest : ids.countP (fun n =>
          (entry (cleanGarbageOsAccount d (a id) excludeId id).2 n).reported (a n) excludeId n) =
          ids.countP fun n => (entry d n).reported (a n) excludeId n := by
        refine List.countP_congr fun n hn => ?_
        have hne : n ≠ id := fun he => h.1 (he ▸ hn)
        rw [entry_cleanGarbageOsAccount, if_neg hne]
      rw [cleanGarbageOsAccountsIn, List.countP_cons]
      dsimp only
      rw [cleanGarbageOsAccount_number, ih h.2, hrest, Nat.add_comm]

theorem removed_of_low (e : Entry) (a : RemovalAnswer) {id : Int} (hid : id ≤ startUserId) (info : OsAccountInfo) :
    e.removed a id info = e := by
  unfold Entry.removed
  simp [hid]

theorem entry_staysBound (d : Directory) (a : RemovalAnswer) (info : OsAccountInfo) (n : Int) :
    entry (staysBound d a info).2 n =
      if info.isCreateCompleted && !info.toBeRemoved then entry d n
      else if n = info.localId then (entry d n).removed a n info else entry d n := by
  unfold staysBound
  split
  · rfl
  · rw [← entry_removeOsAccountOperate]
    split <;> rename_i hr <;> rw [hr]

def keepsBound (a : RemovalAnswer) (info : OsAccountInfo) : Bool :=
  (info.isCreateCompleted && !info.toBeRemoved) || !reportsRemoval a info

theorem staysBound_fst (d : Directory) (a : RemovalAnswer) (info : OsAccountInfo) :
    (staysBound d a info).1 = keepsBound a info := by
  have hremove := removeOsAccountOperate_ok_iff d a info
  unfold staysBound keepsBound
  split
  · rename_i hlive
    simp [hlive]
  · rename_i hgarbage
    rw [Bool.not_eq_true] at hgarbage
    rw [hgarbage, Bool.false_or]
    split <;> rename_i hr <;> rw [hr] at hremove
    · simp [hremove.mp rfl]
    · rw [Bool.eq_false_iff.mpr (mt hremove.mpr nofun)]
      rfl

theorem checkDomainAccountBound_fst (d : Directory) (a : Int → RemovalAnswer) (info : DomainAccountInfo) :
    (checkDomainAccountBound d a info).1 =
      (getOsAccountsByDomainInfo d info).any fun i => keepsBound (a i.localId) i := by
  unfold checkDomainAccountBound
  generalize getOsAccountsByDomainInfo d info = infos
  induction infos generalizing d with
  | nil => rfl
  | cons i infos ih =>
      rw [anyStaysBound, List.any_cons, ← ih, ← staysBound_fst d]

theorem anyStaysBound_directory (a : Int → RemovalAnswer) (infos : List OsAccountInfo) (d : Directory) :
    (anyStaysBound a infos d).2 = infos.foldl (fun d info => (staysBound d (a info.localId) info).2) d := by
  induction infos generalizing d with
  | nil => rfl
  | cons info infos ih => exact ih _

theorem entry_checkDomainAccountBound (h : Tidy d) (a : Int → RemovalAnswer) (info : DomainAccountInfo) (n : Int) :
    entry (checkDomainAccountBound d a info).2 n =
      if n ∈ d.accountIdList then (entry d n).unbound (a n) info n else entry d n := by
  rw [checkDomainAccountBound, anyStaysBound_directory, getOsAccountsByDomainInfo,
    List.foldl_filter, List.foldl_map]
  let change (id : Int) (e : Entry) : Entry := match d.accounts[id]? with
    | none => e
    | some i =>
        if isSameDomainAccount info i.domainInfo && !(i.isCreateCompleted && !i.toBeRemoved) then
          e.removed (a id) id i
        else e
  refine Machine.foldl_local entry change ?_ h.nodup d n
  intro d' id n
  dsimp only [change]
  cases hfile : d.accounts[id]? with
  | none =>
      have hsame : entry (staysBound d' (a (-1)) {}).2 n = entry d' n := by
        rw [entry_staysBound]
        split
        · rfl
        split
        · rename_i hn
          exact removed_of_low _ _ (by rw [hn]; decide) _
        · rfl
      rw [Option.getD_none, apply_ite (entry · n), hsame, ite_self]
      split
      · rename_i hn
        rw [hn]
      · rfl
  | some i =>
      rw [Option.getD_some, apply_ite (entry · n), entry_staysBound, h.keyed id i hfile]
      by_cases hn : n = id
      · subst hn
        cases hsame : isSameDomainAccount info i.domainInfo with
        | false => simp only [hsame, Bool.false_and, Bool.false_eq_true, if_false, if_true]
        | true => cases hlive : (i.isCreateCompleted && !i.toBeRemoved) with
          | false => simp only [hsame, hlive, Bool.true_and, Bool.not_false, if_true,
              Bool.false_eq_true, if_false]
          | true => simp only [hsame, hlive, Bool.not_true, Bool.and_false, Bool.false_eq_true,
              if_true, if_false]
      · simp only [if_neg hn, ite_self]

section counts

theorem getNonSACreatedOACount_eq (d : Directory) :
    getNonSACreatedOACount d = d.accountIdList.countP fun n => (entry d n).counted := by
  refine List.countP_congr fun n hn => ?_
  unfold isNonSACreated Entry.counted entry
  rw [decide_eq_true hn, Bool.true_and]
  cases d.accounts[n]? <;> rfl

theorem getNonSACreatedOACount_le_of_shrinks (hs : Shrinks d d') :
    getNonSACreatedOACount d' ≤ d.accountIdList.countP fun n => (entry d' n).counted := by
  rw [getNonSACreatedOACount_eq]
  exact hs.sublist.countP_le

def Entry.steady (e : Entry) (a : RemovalAnswer) (id : Int) : Bool := !(e.cleaned a (-1) id).counted || e.counted

variable {e : Entry}

theorem listed_of_removed {a : RemovalAnswer} {id : Int} {info : OsAccountInfo}
    (h : (e.removed a id info).listed) : e.listed := by
  unfold Entry.removed at h
  split at h
  · exact h
  split at h
  · exact h
  split at h
  · split at h
    · exact h
    · exact h
  · exact (Bool.and_eq_true_iff.1 h).1

theorem listed_of_cleaned {a : RemovalAnswer} {excludeId id : Int} (h : (e.cleaned a excludeId id).listed) :
    e.listed := by
  unfold Entry.cleaned at h
  split at h
  · exact h
  dsimp only at h
  split at h
  · exact h
  · exact listed_of_removed h

theorem counted_of_cleaned {a : RemovalAnswer} {excludeId id : Int} (hsteady : e.steady a id)
    (h : (e.cleaned a excludeId id).counted) : e.counted := by
  unfold Entry.steady at hsteady
  unfold Entry.cleaned at h hsteady
  split at h
  · exact h
  rename_i hspecial
  simp only [not_or] at hspecial
  by_cases hid : id = -1
  · dsimp only at h
    rw [removed_of_low _ _ (by rw [hid]; decide), ite_self] at h
    exact h
  · rw [if_neg (by simp [hspecial, hid])] at hsteady
    rw [h] at hsteady
    exact hsteady

theorem counted_of_file_none (hfile : e.file = none) : e.counted = e.listed := by
  rw [Entry.counted, hfile, Option.all_none, Bool.and_true]

variable {a : CreateAnswer} {c : Creation} {info : OsAccountInfo}

def Follows (d₀ d : Directory) (n : Int) : Prop :=
  n ∈ d.accountIdList → n ∈ d₀.accountIdList ∧ (entry d n = entry d₀ n ∨ d.accounts[n]? = none)

variable {d₀ : Directory}

theorem Follows.of_shrinks {n : Int} (h : Follows d₀ d n) (hs : Shrinks d d') : Follows d₀ d' n := by
  intro hn
  have hlisted := hs.sublist.subset hn
  obtain ⟨hn₀, hfile⟩ := h hlisted
  refine ⟨hn₀, ?_⟩
  cases hnew : d'.accounts[n]? with
  | none => exact .inr rfl
  | some i =>
      have hold := hs.accounts n i hnew
      obtain he | hnone := hfile
      · rw [← he, entry, entry, hnew, hold, decide_eq_true hn, decide_eq_true hlisted]
        exact .inl rfl
      · rw [hnone] at hold
        cases hold

theorem Follows.refl (d : Directory) (n : Int) : Follows d d n := fun hn => ⟨hn, .inl rfl⟩

theorem getNonSACreatedOACount_cleanGarbageOsAccounts_le (ht : Tidy d) {answers : Int → RemovalAnswer} {excludeId : Int}
    (hfollows : ∀ n, n ≠ excludeId → Follows d₀ d n)
    (hsteady : ∀ n ∈ d₀.accountIdList, (entry d₀ n).steady (answers n) n) :
    getNonSACreatedOACount (cleanGarbageOsAccounts d answers excludeId).2 ≤ getNonSACreatedOACount d := by
  refine Nat.le_trans (getNonSACreatedOACount_le_of_shrinks
    (shrinks_cleanGarbageOsAccounts answers excludeId)) ?_
  rw [getNonSACreatedOACount_eq]
  refine List.countP_mono_left fun n hn hcounted => ?_
  rw [entry_cleanGarbageOsAccounts ht.nodup, if_pos hn] at hcounted
  by_cases hexclude : n = excludeId
  · unfold Entry.cleaned at hcounted
    rwa [if_pos (by simp [hexclude])] at hcounted
  · obtain ⟨hn₀, he | hnone⟩ := hfollows n hexclude hn
    · rw [he] at hcounted ⊢
      exact counted_of_cleaned (hsteady n hn₀) hcounted
    · rw [counted_of_file_none hnone]
      exact listed_of_cleaned (Bool.and_eq_true_iff.1 hcounted).1

theorem entry_put (d : Directory) (info : OsAccountInfo) (n : Int) :
    entry { d with accounts := d.accounts.insert info.localId info.stored } n =
      if n = info.localId then { entry d n with file := some info.stored } else entry d n := by
  unfold entry
  dsimp only
  rw [OrderedMap.getElem?_insert_eq]
  split
  · rename_i he
    rw [if_pos he.symm]
  · rename_i hne
    rw [if_neg (Ne.symm hne)]

theorem getNonSACreatedOACount_put (info : OsAccountInfo) {old : OsAccountInfo}
    (hold : d.accounts[info.localId]? = some old) (hcreator : info.creatorIsNative = old.creatorIsNative) :
    getNonSACreatedOACount { d with accounts := d.accounts.insert info.localId info.stored } =
      getNonSACreatedOACount d := by
  rw [getNonSACreatedOACount_eq, getNonSACreatedOACount_eq]
  refine List.countP_congr fun n hn => ?_
  rw [entry_put]
  split
  · rename_i he
    subst he
    simp [Entry.counted, entry, hold, hcreator]
  · rfl

theorem insertOsAccount_ok {updateAccountList inputFile : Ret}
    (h : insertOsAccount d updateAccountList inputFile info = (.ok (), d')) :
    getNonSACreatedOACount d' ≤ getNonSACreatedOACount d + (if info.creatorIsNative then 0 else 1) ∧
      d'.accounts[info.localId]? = some info.stored ∧ ∀ n, n ≠ info.localId → entry d' n = entry d n := by
  unfold insertOsAccount at h
  dsimp only at h
  split at h
  · cases h
  split at h
  · cases h
  rename_i hnew
  have hnone : d.accounts[info.localId]? = none := by simpa using hnew
  split at h
  · cases h
  split at h
  · cases h
  split at h
  · rename_i hlist
    cases h
    have hsame : ∀ n, n ≠ info.localId → entry { d with
        accountIdList := d.accountIdList ++ [info.localId]
        accounts := d.accounts.insert info.localId info.stored } n =
          entry d n := by
      intro n hn
      simp [entry, hn, OrderedMap.getElem?_insert_eq, Ne.symm hn]
    refine ⟨?_, ExtTreeMap.getElem?_insert_self, hsame⟩
    rw [getNonSACreatedOACount_eq, getNonSACreatedOACount_eq, List.countP_append]
    refine Nat.add_le_add (List.countP_mono_left fun n hn hcounted => ?_) ?_
    · have hne : n ≠ info.localId := fun he => hlist.2 (he ▸ hn)
      rwa [hsame n hne] at hcounted
    · rw [List.countP_singleton]
      cases hnative : info.creatorIsNative <;> simp [Entry.counted, entry, hnative]
  · cases h
    refine ⟨?_, ExtTreeMap.getElem?_insert_self, fun n hn => ?_⟩
    · rw [getNonSACreatedOACount_eq, getNonSACreatedOACount_eq]
      refine Nat.le_trans (List.countP_mono_left fun n hn hcounted => ?_) (Nat.le_add_right _ _)
      rw [entry_put] at hcounted
      split at hcounted
      · rename_i he
        subst he
        rw [counted_of_file_none hnone]
        exact decide_eq_true hn
      · exact hcounted
    · rw [entry_put, if_neg hn]

theorem getNonSACreatedOACount_newLocalId_le (ht : Tidy d) (hs : Shrinks d₀ d)
    (hsteady : ∀ n ∈ d₀.accountIdList, (entry d₀ n).steady (a.idCleaning n) n) :
    getNonSACreatedOACount (newLocalId d a c).2 ≤ getNonSACreatedOACount d := by
  have hclean : getNonSACreatedOACount (cleanGarbageOsAccounts d a.idCleaning (-1)).2 ≤
      getNonSACreatedOACount d :=
    getNonSACreatedOACount_cleanGarbageOsAccounts_le ht (fun n _ => (Follows.refl d₀ n).of_shrinks hs) hsteady
  have hassign : ∀ (specifiedId : Int) (d : Directory),
      getNonSACreatedOACount (assignSpecifiedLocalId.assign a specifiedId d).2 =
          getNonSACreatedOACount d := by
    intro specifiedId d
    unfold assignSpecifiedLocalId.assign
    split
    · rfl
    split
    · rfl
    · rfl
  unfold newLocalId
  split
  · exact le_rfl
  split
  · unfold assignSpecifiedLocalId
    split
    · exact le_rfl
    split
    · split
      · exact le_rfl
      · rwa [hassign]
    · rwa [hassign]
  · unfold AccountDirectory.getAllowCreateId
    dsimp only
    split
    · exact le_rfl
    split
    · exact le_rfl
    · exact le_rfl

theorem prepareOsAccountInfo_ok (ht : Tidy d) (hs : Shrinks d₀ d)
    (hsteady : ∀ n ∈ d₀.accountIdList, (entry d₀ n).steady (a.idCleaning n) n)
    (h : prepareOsAccountInfo d a c = (.ok info, d')) :
    getNonSACreatedOACount d' ≤ getNonSACreatedOACount d + (if c.isSaCall then 0 else 1) ∧
      d'.accounts[info.localId]? = some info.stored ∧ ∀ n, n ≠ info.localId → Follows d₀ d' n := by
  have hle := getNonSACreatedOACount_newLocalId_le (c := c) ht hs hsteady
  have hfill := shrinks_fillOsAccountInfo (d := d) a c
  unfold prepareOsAccountInfo at h
  split at h
  · cases h
  rename_i osAccountInfo _ hr
  obtain ⟨rfl, localId, hinfo⟩ := fillOsAccountInfo_ok hr
  have hcreator : osAccountInfo.creatorIsNative = c.isSaCall := by rw [hinfo]
  rw [hr] at hfill
  split at h
  · cases h
  · cases h
  split at h
  · cases h
  rename_i hinsert
  split at h
  · cases h
  cases h
  obtain ⟨hcount, hfile, hsame⟩ := insertOsAccount_ok hinsert
  rw [hcreator] at hcount
  refine ⟨Nat.le_trans hcount (Nat.add_le_add_right hle _), hfile, fun n hn hlisted => ?_⟩
  have hbefore := (Follows.refl d₀ n).of_shrinks (hs.trans hfill)
  have he := hsame n hn
  have hlisted' := congrArg Entry.listed he
  have hfile' := congrArg Entry.file he
  dsimp only [entry] at hlisted' hfile'
  rw [decide_eq_true hlisted] at hlisted'
  rw [he, hfile']
  exact hbefore (of_decide_eq_true hlisted'.symm)

theorem entry_cleanGarbageOsAccounts_exclude (ht : Tidy d) (answers : Int → RemovalAnswer) (id : Int) :
    entry (cleanGarbageOsAccounts d answers id).2 id = entry d id := by
  rw [entry_cleanGarbageOsAccounts ht.nodup]
  split
  · unfold Entry.cleaned
    rw [if_pos (by simp)]
  · rfl

theorem laterCleanings_le (ht : Tidy d) {localId : Int} (hfollows : ∀ n, n ≠ localId → Follows d₀ d n)
    (hsteady : ∀ n ∈ d₀.accountIdList, ∀ answers ∈ a.laterCleanings, (entry d₀ n).steady (answers n) n) :
    getNonSACreatedOACount (laterCleanings d a localId) ≤ getNonSACreatedOACount d ∧
      entry (laterCleanings d a localId) localId = entry d localId := by
  unfold laterCleanings
  generalize a.laterCleanings = cleanings at hsteady ⊢
  induction cleanings generalizing d with
  | nil => exact ⟨le_rfl, rfl⟩
  | cons answers cleanings ih =>
      have hshrinks := shrinks_cleanGarbageOsAccounts (d := d) answers localId
      obtain ⟨hcount, hentry⟩ := ih (ht.of_shrinks hshrinks) (fun n hn => (hfollows n hn).of_shrinks hshrinks)
        (fun n hn answers' ha => hsteady n hn answers' (List.mem_cons_of_mem _ ha))
      rw [List.foldl_cons, hentry, entry_cleanGarbageOsAccounts_exclude ht]
      refine ⟨Nat.le_trans hcount ?_, rfl⟩
      exact getNonSACreatedOACount_cleanGarbageOsAccounts_le ht hfollows
        fun n hn => hsteady n hn answers List.mem_cons_self

theorem sendMsgForAccountCreate_ok (hfile : d.accounts[info.localId]? = some info.stored)
    (h : sendMsgForAccountCreate d a info = (.ok (), d')) :
    getNonSACreatedOACount d' = getNonSACreatedOACount d := by
  unfold sendMsgForAccountCreate at h
  split at h
  · cases h
  dsimp only at h
  split at h
  · cases h
  rename_i hupdate
  cases h
  unfold updateOsAccount at hupdate
  split at hupdate
  · cases hupdate
  split at hupdate
  · cases hupdate
  · cases hupdate
    exact getNonSACreatedOACount_put { info with isCreateCompleted := true } hfile rfl

theorem completion_ok (ht : Tidy d) (hfile : d.accounts[info.localId]? = some info.stored)
    (hfollows : ∀ n, n ≠ info.localId → Follows d₀ d n)
    (hsteady : ∀ n ∈ d₀.accountIdList, ∀ answers ∈ a.laterCleanings, (entry d₀ n).steady (answers n) n)
    (h : sendMsgForAccountCreate (laterCleanings d a info.localId) a info = (.ok (), d')) :
    getNonSACreatedOACount d' ≤ getNonSACreatedOACount d := by
  obtain ⟨hcount, hentry⟩ := laterCleanings_le ht hfollows hsteady
  have hkept := congrArg Entry.file hentry
  dsimp only [entry] at hkept
  rw [hfile] at hkept
  rwa [sendMsgForAccountCreate_ok hkept h]

end counts

section conditions

variable (maxOsAccountNum : Nat) (d : Directory)

/-- No cleaning of the creation deletes the file of an account of a system ability
and leaves its id in the list. -/
def steadyCleanings (a : CreateAnswer) : Bool :=
  d.accountIdList.all fun n => (a.idCleaning :: a.laterCleanings).all fun answers => (entry d n).steady (answers n) n

def isFull (answers : Int → RemovalAnswer) : Bool :=
  getNonSACreatedOACount d ≥ maxOsAccountNum &&
    d.accountIdList.all fun n => !(entry d n).reported (answers n) (-1) n

def hasFreePlace (answers : Int → RemovalAnswer) : Bool :=
  getNonSACreatedOACount d < maxOsAccountNum ||
    d.accountIdList.countP (fun n => ((entry d n).cleaned (answers n) (-1) n).counted) < maxOsAccountNum

/-- The domain account stays bound to an account, or there are as many created
accounts as there may be. -/
def isFullForDomain (answers : Int → RemovalAnswer) (info : DomainAccountInfo) : Bool :=
  (getOsAccountsByDomainInfo d info).any (fun i => keepsBound (answers i.localId) i) ||
    (queryAllCreatedOsAccounts d).countP (fun i => !i.creatorIsNative) ≥ maxOsAccountNum

/-- The accounts that are left when the garbage of the domain account is removed,
with the new one. The plug-in may know another domain account than it was asked for. -/
def placesForDomain (answers cleaning : Int → RemovalAnswer) (isEnabled isSaCallback : Bool)
    (info pluginInfo : DomainAccountInfo) : Nat :=
  d.accountIdList.countP
      (fun n => (((entry d n).unbound (answers n) info n).unbound (cleaning n) pluginInfo n).counted) +
    if (firstAccount d isEnabled).isSome || isSaCallback then 0 else 1

/-- A creation that is not for a system ability meets a full list and is refused, or
it finds a free place. -/
def withinQuota : Event → Bool
  | .createOsAccount a c =>
      c.isSaCall || isFull maxOsAccountNum d a.cleaning ||
        hasFreePlace maxOsAccountNum d a.cleaning && steadyCleanings d a
  | .createOsAccountForDomain a p answers isEnabled isSaCallback c =>
      c.isSaCall || isFullForDomain maxOsAccountNum d answers c.domainInfo ||
        match p.getDomainAccountInfo with
        | .error _ => true
        | .ok info =>
            placesForDomain d answers a.cleaning isEnabled isSaCallback c.domainInfo info ≤ maxOsAccountNum &&
              steadyCleanings d a
  | _ => true

def isNonSACreation : Event → Bool
  | .createOsAccount _ c => !c.isSaCall
  | .createOsAccountForDomain _ _ _ _ _ c => !c.isSaCall
  | _ => false

def KeepsQuota (e : Event) : Prop :=
  isNonSACreation e → (perform d maxOsAccountNum e).1 = .ok () →
    getNonSACreatedOACount (step maxOsAccountNum d e) ≤ maxOsAccountNum

instance instDecidableKeepsQuota (e : Event) : Decidable (KeepsQuota maxOsAccountNum d e) :=
  inferInstanceAs (Decidable (_ → _ → _))

end conditions

section creations

variable {maxOsAccountNum : Nat} {a : CreateAnswer} {c : Creation} {info : OsAccountInfo}

theorem steady_of_steadyCleanings (h : steadyCleanings d a) :
    (∀ n ∈ d.accountIdList, (entry d n).steady (a.idCleaning n) n) ∧
      ∀ n ∈ d.accountIdList, ∀ answers ∈ a.laterCleanings, (entry d n).steady (answers n) n := by
  unfold steadyCleanings at h
  rw [List.all_eq_true] at h
  refine ⟨fun n hn => ?_, fun n hn answers ha => ?_⟩
  · exact List.all_eq_true.1 (h n hn) a.idCleaning List.mem_cons_self
  · exact List.all_eq_true.1 (h n hn) answers (List.mem_cons_of_mem _ ha)

variable {answers : Int → RemovalAnswer}

theorem checkAndCleanOsAccounts_lt (ht : Tidy d)
    (h : hasFreePlace maxOsAccountNum d answers) :
    getNonSACreatedOACount (checkAndCleanOsAccounts d maxOsAccountNum answers).2 < maxOsAccountNum := by
  unfold checkAndCleanOsAccounts
  split
  · assumption
  rename_i hfull
  simp only [hasFreePlace, Bool.or_eq_true, decide_eq_true_eq, hfull, false_or] at h
  refine Nat.lt_of_le_of_lt ?_ h
  refine Nat.le_trans (getNonSACreatedOACount_le_of_shrinks (shrinks_cleanGarbageOsAccounts answers (-1))) ?_
  refine Nat.le_of_eq (List.countP_congr fun n hn => ?_)
  rw [entry_cleanGarbageOsAccounts ht.nodup, if_pos hn]

theorem checkAndCleanOsAccounts_of_isFull (ht : Tidy d)
    (h : isFull maxOsAccountNum d answers) : (checkAndCleanOsAccounts d maxOsAccountNum answers).1 = false := by
  rw [isFull, Bool.and_eq_true, decide_eq_true_eq, List.all_eq_true] at h
  have hnumber : (cleanGarbageOsAccounts d answers (-1)).1 = 0 := by
    rw [cleanGarbageOsAccounts_number ht.nodup, List.countP_eq_zero]
    exact fun n hn => by simpa using h.2 n hn
  rw [checkAndCleanOsAccounts, if_neg (Nat.not_lt.mpr h.1)]
  dsimp only
  rw [hnumber]
  rfl

theorem createOsAccount_of_isFull (ht : Tidy d) (hsa : c.isSaCall = false)
    (h : isFull maxOsAccountNum d a.cleaning) : (createOsAccount d maxOsAccountNum a c).1 ≠ .ok () := by
  have hclean := checkAndCleanOsAccounts_of_isFull ht h
  unfold createOsAccount
  split
  · nofun
  rw [hsa, if_neg Bool.false_ne_true]
  split <;> rename_i hr <;> rw [hr] at hclean
  · nofun
  · cases hclean

theorem createOsAccount_ok (ht : Tidy d) (hsa : c.isSaCall = false)
    (hplace : hasFreePlace maxOsAccountNum d a.cleaning) (hsteady : steadyCleanings d a)
    (h : createOsAccount d maxOsAccountNum a c = (.ok (), d')) : getNonSACreatedOACount d' ≤ maxOsAccountNum := by
  obtain ⟨hid, hlater⟩ := steady_of_steadyCleanings hsteady
  have hclean := checkAndCleanOsAccounts_lt ht hplace
  have hshrinks := shrinks_checkAndCleanOsAccounts (d := d) maxOsAccountNum a.cleaning
  unfold createOsAccount at h
  rw [hsa] at h
  split at h
  · cases h
  simp only [Bool.false_eq_true, if_false] at h
  split at h
  · cases h
  rename_i hr
  rw [hr] at hclean hshrinks
  have ht₁ := ht.of_shrinks hshrinks
  split at h
  · cases h
  rename_i hprepare
  have ht₂ := (Tidy.rule.prepareOsAccountInfo (a := a) (c := c) ht₁ trivial).1
  rw [hprepare] at ht₂
  split at h
  · cases h
  obtain ⟨hcount, hfile, hfollows⟩ := prepareOsAccountInfo_ok ht₁ hshrinks hid hprepare
  have hle := completion_ok ht₂ hfile hfollows hlater h
  rw [hsa] at hcount
  simp only [Bool.false_eq_true, if_false] at hcount
  dsimp only at hclean hle
  omega

theorem checkDomainAccountBound_le (ht : Tidy d) (answers cleaning : Int → RemovalAnswer)
    (domainInfo pluginInfo : DomainAccountInfo) :
    getNonSACreatedOACount
        (checkDomainAccountBound (checkDomainAccountBound d answers domainInfo).2 cleaning pluginInfo).2 ≤
      d.accountIdList.countP fun n =>
        (((entry d n).unbound (answers n) domainInfo n).unbound (cleaning n) pluginInfo n).counted := by
  have hs₁ := shrinks_checkDomainAccountBound (d := d) answers domainInfo
  have ht₁ := ht.of_shrinks hs₁
  have hs₂ :=
    shrinks_checkDomainAccountBound
        (d := (checkDomainAccountBound d answers domainInfo).2) cleaning pluginInfo
  have h₁ := entry_checkDomainAccountBound ht answers domainInfo
  have h₂ := entry_checkDomainAccountBound ht₁ cleaning pluginInfo
  generalize (checkDomainAccountBound d answers domainInfo).2 = d₁ at *
  generalize (checkDomainAccountBound d₁ cleaning domainInfo).2 = d₂ at *
  refine Nat.le_trans (getNonSACreatedOACount_le_of_shrinks (hs₁.trans hs₂)) ?_
  refine List.countP_mono_left fun n hn hcounted => ?_
  have hlisted : n ∈ d₁.accountIdList := by
    have := (Bool.and_eq_true_iff.1 hcounted).1
    exact hs₂.sublist.subset (of_decide_eq_true this)
  rwa [h₂, if_pos hlisted, h₁, if_pos hn] at hcounted

theorem entry_of_live (ht : Tidy d) (answers : Int → RemovalAnswer) (domainInfo : DomainAccountInfo) {n : Int}
    (hlive : isLive d n) : entry (checkDomainAccountBound d answers domainInfo).2 n = entry d n := by
  rw [entry_checkDomainAccountBound ht]
  split
  · unfold Entry.unbound
    unfold isLive at hlive
    cases hfile : d.accounts[n]? with
    | none => simp [entry, hfile]
    | some i =>
        rw [hfile, Option.any_some] at hlive
        simp [entry, hfile, hlive]
  · rfl

theorem filter_map_eq_of_sublist {α β : Type} {ids' ids : List α} {f' f : α → β} {p : β → Bool}
    (hs : ids'.Sublist ids) (hnodup : ids.Nodup) (hkeep : ∀ n ∈ ids, p (f n) → n ∈ ids' ∧ f' n = f n)
    (hnew : ∀ n ∈ ids', p (f' n) → f' n = f n) : (ids'.map f').filter p = (ids.map f).filter p := by
  induction hs with
  | slnil => rfl
  | @cons ids' ids id hs ih =>
      rw [List.nodup_cons] at hnodup
      have hid : ¬ p (f id) := fun hp => hnodup.1 (hs.subset (hkeep id List.mem_cons_self hp).1)
      rw [List.map_cons, List.filter_cons_of_neg hid]
      exact ih hnodup.2 (fun n hn => hkeep n (List.mem_cons_of_mem _ hn)) hnew
  | @cons_cons ids' ids id hs ih =>
      rw [List.nodup_cons] at hnodup
      have ih := ih hnodup.2
        (fun n hn hp => by
          obtain ⟨hmem, he⟩ := hkeep n (List.mem_cons_of_mem _ hn) hp
          refine ⟨(List.mem_cons.1 hmem).resolve_left fun h => ?_, he⟩
          exact hnodup.1 (h ▸ hn))
        (fun n hn => hnew n (List.mem_cons_of_mem _ hn))
      rw [List.map_cons, List.map_cons, List.filter_cons, List.filter_cons, ih]
      by_cases hp : p (f id)
      · rw [(hkeep id List.mem_cons_self hp).2]
      · have hp' : ¬ p (f' id) := fun hp' => hp (hnew id List.mem_cons_self hp' ▸ hp')
        rw [if_neg hp, if_neg hp']

theorem queryAllCreatedOsAccounts_checkDomainAccountBound (ht : Tidy d) (answers : Int → RemovalAnswer)
    (domainInfo : DomainAccountInfo) :
    queryAllCreatedOsAccounts (checkDomainAccountBound d answers domainInfo).2 = queryAllCreatedOsAccounts d := by
  have hs := shrinks_checkDomainAccountBound (d := d) answers domainInfo
  unfold queryAllCreatedOsAccounts
  refine filter_map_eq_of_sublist hs.sublist ht.nodup (fun n hn hp => ?_) (fun n hn hp => ?_)
  · have hlive : isLive d n := by
      unfold isLive
      cases hfile : d.accounts[n]? with
      | none => simp [hfile] at hp
      | some i => simpa [hfile] using hp
    have he := entry_of_live ht answers domainInfo hlive
    have hlisted := congrArg Entry.listed he
    have hfile := congrArg Entry.file he
    dsimp only [entry] at hlisted hfile
    rw [decide_eq_true hn] at hlisted
    rw [hfile]
    exact ⟨of_decide_eq_true hlisted, rfl⟩
  · cases hfile : (checkDomainAccountBound d answers domainInfo).2.accounts[n]? with
    | none => simp [hfile] at hp
    | some i => rw [hs.accounts n i hfile]

theorem updateBound_ok {i : OsAccountInfo} (h : bindDomainAccount.update a d i = (.ok info, d')) :
    info = i ∧ d' = { d with accounts := d.accounts.insert i.localId i.stored } := by
  unfold bindDomainAccount.update updateOsAccount at h
  split at h
  · cases h
  rename_i hupdate
  cases h
  split at hupdate
  · cases hupdate
  split at hupdate
  · cases hupdate
  · cases hupdate
    exact ⟨rfl, rfl⟩

theorem completeDomainAccount_ok (ht : Tidy d) {bound : Ret} (hfile : d.accounts[info.localId]? = some info.stored)
    (hfollows : info.localId ≠ startUserId → ∀ n, n ≠ info.localId → Follows d₀ d n)
    (hsteady : ∀ n ∈ d₀.accountIdList, ∀ answers ∈ a.laterCleanings, (entry d₀ n).steady (answers n) n)
    (h : completeDomainAccount d a bound info = (.ok (), d')) :
    getNonSACreatedOACount d' ≤ getNonSACreatedOACount d := by
  unfold completeDomainAccount at h
  split at h
  · cases h
    exact le_rfl
  rename_i hid
  split at h
  · cases h
  · cases h
  split at h
  · cases h
  rename_i hsend
  cases h
  exact completion_ok ht hfile (hfollows hid) hsteady hsend

theorem createOsAccountForDomain_of_isFullForDomain (ht : Tidy d) {p : PluginAnswer}
    {isEnabled isSaCallback : Bool} (hsa : c.isSaCall = false)
    (h : isFullForDomain maxOsAccountNum d answers c.domainInfo) :
    (createOsAccountForDomain d maxOsAccountNum a p answers isEnabled isSaCallback c).1 ≠ .ok () := by
  have hbound := checkDomainAccountBound_fst d answers c.domainInfo
  have hquery := queryAllCreatedOsAccounts_checkDomainAccountBound ht answers c.domainInfo
  rw [isFullForDomain, Bool.or_eq_true, ← hbound] at h
  unfold createOsAccountForDomain
  split
  · nofun
  split
  · nofun
  rename_i hr
  rw [hr] at h hquery
  dsimp only at h hquery
  have hfull := of_decide_eq_true (h.resolve_left Bool.false_ne_true)
  rw [if_pos]
  · nofun
  · rw [hsa, hquery, Bool.not_false, Bool.true_and]
    exact decide_eq_true hfull

theorem bindDomainAccount_ok (ht : Tidy d) (hs : Shrinks d₀ d) {isEnabled : Bool}
    (hfirst : firstAccount d isEnabled = firstAccount d₀ isEnabled)
    (hid : ∀ n ∈ d₀.accountIdList, (entry d₀ n).steady (a.idCleaning n) n)
    (hlater : ∀ n ∈ d₀.accountIdList, ∀ answers ∈ a.laterCleanings, (entry d₀ n).steady (answers n) n)
    {bound : Ret} {d₁ : Directory} (hbind : bindDomainAccount d a isEnabled c = (.ok info, d₁))
    (h : completeDomainAccount d₁ a bound info = (.ok (), d')) :
    getNonSACreatedOACount d' ≤ getNonSACreatedOACount (checkDomainAccountBound d a.cleaning c.domainInfo).2 +
      if (firstAccount d₀ isEnabled).isSome || c.isSaCall then 0 else 1 := by
  have hs₁ := shrinks_checkDomainAccountBound (d := d) a.cleaning c.domainInfo
  have hquery := queryAllCreatedOsAccounts_checkDomainAccountBound ht a.cleaning c.domainInfo
  unfold bindDomainAccount at hbind
  split at hbind
  · cases hbind
  rename_i d₂ hr
  rw [hr] at hs₁ hquery ⊢
  have ht₂ := ht.of_shrinks hs₁
  have hfirst₂ : firstAccount d₂ isEnabled = firstAccount d₀ isEnabled := by
    rw [← hfirst]
    unfold firstAccount
    rw [hquery]
  split at hbind
  · rename_i i hi
    obtain ⟨hlow, hfile, -⟩ := firstAccount_file ht₂ hi
    obtain ⟨rfl, rfl⟩ := updateBound_ok hbind
    have hput := getNonSACreatedOACount_put { i with
      localName := c.domainInfo.accountName
      shortName := c.shortName
      domainInfo := i.domainInfo.setDomainInfo a.localNameMaxSize c.domainInfo } hfile rfl
    unfold completeDomainAccount at h
    rw [if_pos hlow] at h
    cases h
    dsimp only at hput ⊢
    omega
  · rename_i hnone
    split at hbind
    · cases hbind
    rename_i i d₄ hprepare
    obtain ⟨hcount, hfile, hfollows⟩ := prepareOsAccountInfo_ok ht₂ (hs.trans hs₁) hid hprepare
    have ht₄ := (Tidy.rule.prepareOsAccountInfo (a := a) (c := { c with
      localName := c.domainInfo.accountName }) ht₂ trivial).1
    rw [hprepare] at ht₄
    obtain ⟨rfl, rfl⟩ := updateBound_ok hbind
    rw [OrderedMap.insert_self _ _ _ hfile] at h
    have hle := completeDomainAccount_ok ht₄ hfile (fun _ => hfollows) hlater h
    rw [← hfirst₂, hnone, Option.isSome_none, Bool.false_or]
    dsimp only at hcount hle ⊢
    omega

theorem createOsAccountForDomain_ok (ht : Tidy d) {p : PluginAnswer}
    {isEnabled isSaCallback : Bool} (hplace : ∀ pluginInfo, p.getDomainAccountInfo = .ok pluginInfo →
      placesForDomain d answers a.cleaning isEnabled isSaCallback c.domainInfo pluginInfo ≤ maxOsAccountNum ∧
        steadyCleanings d a)
    (h : createOsAccountForDomain d maxOsAccountNum a p answers isEnabled isSaCallback c = (.ok (), d')) :
    getNonSACreatedOACount d' ≤ maxOsAccountNum := by
  have hs := shrinks_checkDomainAccountBound (d := d) answers c.domainInfo
  have hquery := queryAllCreatedOsAccounts_checkDomainAccountBound ht answers c.domainInfo
  unfold createOsAccountForDomain at h
  split at h
  · cases h
  have hbound := checkDomainAccountBound_le ht answers a.cleaning c.domainInfo
  split at h
  · cases h
  rename_i d₁ hr₁
  rw [hr₁] at hbound hs hquery
  have ht₁ := ht.of_shrinks hs
  split at h
  · cases h
  split at h
  · cases h
  unfold onDomainAccountInfo at h
  split at h
  · cases h
  rename_i pluginInfo hplugin
  obtain ⟨hplace, hsteady⟩ := hplace pluginInfo hplugin
  obtain ⟨hid, hlater⟩ := steady_of_steadyCleanings hsteady
  have hbound := hbound pluginInfo
  split at h
  · cases h
  split at h
  · cases h
  rename_i info d₂ hbind
  split at h
  · cases h
  have hfirst : firstAccount d₁ isEnabled = firstAccount d isEnabled := by
    unfold firstAccount
    rw [hquery]
  have hle := bindDomainAccount_ok ht₁ hs hfirst hid hlater hbind h
  unfold placesForDomain at hplace
  dsimp only at hbound hle
  omega

end creations

/-- If every creation that is not refused finds a free place, the quota is kept in
every run. -/
theorem quota_kept (maxOsAccountNum : Nat) (localName : String) (es : List Event)
    (hes : Machine.Meets (step maxOsAccountNum) (fun d e => withinQuota maxOsAccountNum d e) (initial localName) es) :
    Machine.Meets (step maxOsAccountNum) (KeepsQuota maxOsAccountNum) (initial localName) es := by
  refine hes.imp_of_invariant (fun d e ht => ht.step maxOsAccountNum e) ?_ (Tidy.initial localName)
  intro d e ht he hcreation hok
  unfold step
  have hr : perform d maxOsAccountNum e = (.ok (), (perform d maxOsAccountNum e).2) := Prod.ext hok rfl
  cases e with
  | createOsAccount a c =>
      have hsa : c.isSaCall = false := by simpa [isNonSACreation] using hcreation
      simp only [withinQuota, hsa, Bool.false_or, Bool.or_eq_true, Bool.and_eq_true] at he
      rcases he with hfull | ⟨hplace, hsteady⟩
      · exact absurd hok (createOsAccount_of_isFull ht hsa hfull)
      · exact createOsAccount_ok ht hsa hplace hsteady hr
  | createOsAccountForDomain a p answers isEnabled isSaCallback c =>
      have hsa : c.isSaCall = false := by simpa [isNonSACreation] using hcreation
      simp only [withinQuota, hsa, Bool.false_or, Bool.or_eq_true] at he
      rcases he with hfull | hplace
      · exact absurd hok (createOsAccountForDomain_of_isFullForDomain ht hsa hfull)
      · refine createOsAccountForDomain_ok ht (fun pluginInfo hplugin => ?_) hr
        simpa [hplugin] using hplace
  | _ => cases hcreation

def pluginAnswer (accountName domain : String) : PluginAnswer where
  isPluginAvailable := true
  getDomainAccountInfo := .ok { accountName, domain }
  onAccountBound := .ok ()
  bound := .ok ()

/-- A full list refuses an account. Then one is to be removed and makes place for
the next one, and a domain account finds no place. -/
def replacement : List Event :=
  [.createOsAccount everythingSucceeds (creation "alice"),
    .createOsAccount everythingSucceeds (creation "carol"),
    .setOsAccountToBeRemoved (.ok ()) (.ok ()) 101 true,
    .createOsAccount everythingSucceeds (creation "bob"),
    .createOsAccountForDomain everythingSucceeds (pluginAnswer "dave" "east.example") (fun _ => everythingRemoved)
      false false { creation "" with domainInfo := { accountName := "dave", domain := "east.example" } }]

theorem quota_kept_replacement :
    Machine.Meets (step 2) (fun d e => withinQuota 2 d e) (initial "owner") replacement ∧
      Machine.Meets (step 2) (KeepsQuota 2) (initial "owner") replacement :=
  ⟨by decide +kernel, quota_kept 2 "owner" replacement (by decide +kernel)⟩

def teeRefuses : CreateAnswer :=
  { everythingSucceeds with laterCleanings := [fun _ => everythingRemoved], setOsAccountType := .error .teeReachLimit }

def keptGarbage : List Event :=
  [.createOsAccountWithFullInfo teeRefuses { localId := 101, localName := "alice" },
    .createOsAccount everythingSucceeds (creation "bob")]

def systemGarbage : List Event :=
  [.createOsAccount everythingSucceeds (creation "alice"),
    .createOsAccount teeRefuses { creation "service" with isSaCall := true },
    .createOsAccount everythingSucceeds (creation "bob")]

theorem full_list_accepts_creation :
    ¬ Machine.Meets (step 2) (KeepsQuota 2) (initial "owner") keptGarbage ∧
      ¬ Machine.Meets (step 2) (KeepsQuota 2) (initial "owner") systemGarbage := by
  decide +kernel

end OsAccount.AccountQuota
