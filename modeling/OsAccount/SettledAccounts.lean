import OsAccount.BackedAccounts

namespace OsAccount.AccountResources

open AccountList MarkedResources Function
open OperatingMarker (Build)

section recovery

variable {b : Build} {α : Type}

structure Healthy (env : Env Fault Reply) : Prop where
  fault : env.fault = {}
  ret : ∀ c, (env.reply c).ret = .ok ()

abbrev Leads (b : Build) (Q : α → Shared Int Stores Nat → Prop) (p : Step α) (s : Shared Int Stores Nat) : Prop :=
  MarkedResources.Leads (discipline b) 0 Healthy Q p s

/-- What there is of the accounts, and which of them is marked, and worked on by the thread 0. -/
structure At (b : Build) (stores : Int → Stores) (id : Option Int) (s : Shared Int Stores Nat) : Prop where
  stores : ∀ j, s.resource (discipline b) j = stores j
  marked : ∀ j, s.marked j = decide (id = some j)
  worker : ∀ j, s.worker j = if id = some j then some 0 else none

abbrev Resting (b : Build) (stores : Int → Stores) (s : Shared Int Stores Nat) : Prop := At b stores none s

abbrev Working (b : Build) (stores : Int → Stores) (id : Int) (r : Stores) (s : Shared Int Stores Nat) : Prop :=
  At b (update stores id r) (some id) s

abbrev Gives (a : α) (P : Shared Int Stores Nat → Prop) (a' : α) (s : Shared Int Stores Nat) : Prop := a' = a ∧ P s

variable {stores : Int → Stores} {id : Int} {r : Stores} {s : Shared Int Stores Nat} {P : Shared Int Stores Nat → Prop}

theorem leads_ret (c : Call) (hs : P s) : Leads b (Gives (.ok ()) P) (ret c) s := fun _ henv => ⟨henv.ret c, hs⟩

theorem leads_inCase {p : Step Ret} (hp : Leads b (Gives (.ok ()) P) p s) (hs : P s) (c : Bool) :
    Leads b (Gives (.ok ()) P) (inCase c p (.ok ())) s := by
  rw [inCase]
  split
  · exact hp
  · exact ⟨rfl, hs⟩

theorem leads_act (a : Act) (hs : Working b stores id r s) :
    Leads b (Gives (effect a {} r).1 (Working b stores id (effect a {} r).2)) (act id a) s := by
  intro env henv
  have hr : s.resource (discipline b) id = r := (hs.stores id).trans (update_self id r stores)
  have heffect : (discipline b).effect a env.fault (s.resource (discipline b) id) = effect a {} r := by
    rw [hr, henv.fault]
    rfl
  refine ⟨congrArg Prod.fst heffect, fun j => ?_, hs.marked, hs.worker⟩
  refine (resource_act id a env.fault j).trans ?_
  rw [heffect, funext hs.stores, update_idem]

theorem leads_getAccountListFromFile {marker : Option Int} (hs : At b stores marker s) :
    Leads b (fun accountIdList s' => (∀ j, (stores j).listed = decide (j ∈ accountIdList)) ∧ At b stores marker s')
      getAccountListFromFile s := by
  intro env _
  refine ⟨fun j => ?_, hs⟩
  rw [← hs.stores j]
  rfl

def enlisted (accountIdList : List Int) (stores : Int → Stores) (j : Int) : Stores :=
  { stores j with listed := decide (j ∈ accountIdList) }

theorem leads_saveAccountListToFile {marker : Option Int} (own : Option Int) (accountIdList : List Int)
    (hs : At b stores marker s) :
    Leads b (fun _ s' => At b (enlisted accountIdList stores) marker s')
      (saveAccountListToFile own accountIdList) s := by
  intro env _
  refine ⟨fun j => ?_, hs.marked, hs.worker⟩
  refine (resource_writeList accountIdList j).trans ?_
  rw [hs.stores j]
  rfl

theorem leads_checked {Q : α → Shared Int Stores Nat → Prop} {p : Step Ret} {f g : Ret → Step α}
    (hp : Leads b (Gives (.ok ()) P) p s) (hg : ∀ s, P s → Leads b Q (g (.ok ())) s) :
    Leads b Q (do let errCode ← p; if errCode ≠ .ok () then f errCode else g errCode) s := by
  refine Leads.bind hp ?_
  rintro _ s' ⟨rfl, hs'⟩
  rw [if_neg (not_not_intro rfl)]
  exact hg s' hs'

theorem leads_accountListFile (hs : Working b stores id r s) :
    Leads b (Gives (.ok (), true) (Working b stores id r)) (act id .accountListFile) s := leads_act .accountListFile hs

theorem leads_unlist (hs : Working b stores id r s) :
    Leads b (Gives (.ok ()) (Working b stores id { r with listed := false })) (updateAccountList id false) s := by
  refine Leads.bind (leads_accountListFile hs) ?_
  rintro _ s₁ ⟨rfl, hs₁⟩
  refine Leads.bind (leads_getAccountListFromFile hs₁) ?_
  rintro accountIdList s₂ ⟨hlist, hs₂⟩
  refine Leads.bind (leads_accountListFile hs₂) ?_
  rintro _ s₃ ⟨rfl, hs₃⟩
  refine Leads.bind (leads_saveAccountListToFile (some id) (accountIdList.filter (· ≠ id)) hs₃) ?_
  intro _ s₄ hs₄
  have hstores : enlisted (accountIdList.filter (· ≠ id)) (update stores id r) =
      update stores id { r with listed := false } := by
    funext j
    rw [enlisted]
    by_cases hj : j = id
    · subst hj
      simp
    · have hj' := hlist j
      rw [update_of_ne hj] at hj'
      simp [hj, ← hj']
  rw [hstores] at hs₄
  exact ⟨rfl, hs₄⟩

def removed (r : Stores) : Stores := { kept := r.kept }

theorem leads_sendToStorageAccountRemove (hr : r.storageUser = true → b.hasStoragePart = true)
    (hs : Working b stores id r s) :
    Leads b (Gives (.ok ()) (Working b stores id { r with storageUser := false }))
      (sendToStorageAccountRemove b id) s := by
  rw [sendToStorageAccountRemove]
  split
  · rename_i hb
    have hnone : r.storageUser = false := by
      rw [Bool.not_eq_true'] at hb
      rw [← Bool.not_eq_true]
      exact fun h => Bool.false_ne_true (hb.symm.trans (hr h))
    refine ⟨rfl, ?_⟩
    rw [← withoutStorage_eq hnone]
    exact hs
  · exact leads_checked (leads_ret _ hs) fun s hs => leads_act .removeStorageUser hs

theorem leads_delOsAccount (hlow : startUserId < id) (hhigh : id ≤ maxUserId) (hs : Working b stores id r s) :
    Leads b (Gives (.ok ()) (Working b stores id { r with record := none, listed := false })) (delOsAccount id) s := by
  rw [delOsAccount, if_neg (by omega)]
  exact leads_checked (leads_act .deleteDirOrFile hs) fun s hs => leads_unlist hs

theorem leads_sendMsgForAccountRemove (hlow : startUserId < id) (hhigh : id ≤ maxUserId)
    (hr : r.storageUser = true → b.hasStoragePart = true) (hs : Working b stores id r s) :
    Leads b (Gives (.ok ()) (Working b stores id (removed r))) (sendMsgForAccountRemove b id) s := by
  refine leads_checked (leads_act .removeBundleUser hs) fun s hs => ?_
  have hs : Working b stores id { r with bundleUser := false } s := hs
  refine leads_checked (leads_sendToStorageAccountRemove (r := { r with bundleUser := false }) hr hs) fun s hs => ?_
  exact leads_delOsAccount hlow hhigh hs

theorem leads_removeOsAccountOperate {osAccountInfo : OsAccountInfo} (hlow : startUserId < id) (hhigh : id ≤ maxUserId)
    (hr : r.storageUser = true → b.hasStoragePart = true)
    (hremovable : (osAccountInfo.isCreateCompleted || osAccountInfo.isDataRemovable) = true)
    (hs : Working b stores id r s) :
    Leads b (Gives (.ok ()) (Working b stores id (removed r))) (removeOsAccountOperate b id osAccountInfo true) s := by
  rw [removeOsAccountOperate, if_neg ?_]
  · refine leads_checked (leads_inCase (leads_ret _ hs) hs _) fun s hs => ?_
    refine leads_checked ?_ fun s hs =>
      leads_checked (leads_sendMsgForAccountRemove hlow hhigh hr hs) fun s hs => leads_ret _ hs
    exact leads_checked (leads_inCase (leads_ret _ hs) hs _) fun s hs => ⟨rfl, hs⟩
  · cases hc : osAccountInfo.isCreateCompleted <;> cases hd : osAccountInfo.isDataRemovable <;> simp_all

theorem leads_checkAndAddLocalIdOperating (hs : Resting b stores s) :
    Leads b (Gives true (Working b stores id (stores id))) (checkAndAddLocalIdOperating id) s := by
  intro env _
  have hmarked : s.marked id = false := hs.marked id
  have hstores : update stores id (stores id) = stores := update_eq_self id stores
  rw [handle, hmarked, if_neg Bool.false_ne_true]
  refine ⟨rfl, fun j => ?_, fun j => ?_, fun j => ?_⟩
  · rw [hstores]
    exact hs.stores j
  · by_cases hj : j = id
    · subst hj
      simp
    · simp [hj, Ne.symm hj, hs.marked j]
  · by_cases hj : j = id
    · subst hj
      simp
    · simp [hj, Ne.symm hj, hs.worker j]

theorem leads_removeLocalIdToOperating (hs : Working b stores id r s) :
    Leads b (Gives () (Resting b (update stores id r))) (removeLocalIdToOperating id) s := by
  have hworker : s.worker id = some 0 := (hs.worker id).trans (if_pos rfl)
  intro env _ env' _
  refine ⟨rfl, ?_⟩
  simp only [handle, if_pos hworker]
  refine ⟨hs.stores, fun j => ?_, fun j => ?_⟩
  · by_cases hj : j = id
    · subst hj
      simp
    · simp [hj, Ne.symm hj, hs.marked j]
  · by_cases hj : j = id
    · subst hj
      simp
    · simp [hj, Ne.symm hj, hs.worker j]

theorem leads_exit (n : Nat) (hs : Working b stores id r s) :
    Leads b (fun _ s => Resting b (update stores id r) s) (do removeLocalIdToOperating id; return n) s := by
  refine Leads.bind (leads_removeLocalIdToOperating hs) ?_
  rintro _ s ⟨-, hs⟩
  exact hs

def isKept (osAccountInfo : OsAccountInfo) : Bool :=
  isLive osAccountInfo || (!osAccountInfo.isCreateCompleted && !osAccountInfo.isDataRemovable)

def sweep (r : Stores) : Stores := if r.record.any isKept then r else removed r

theorem leads_removeGarbage (osAccountInfo : OsAccountInfo) (hlow : startUserId < id) (hhigh : id ≤ maxUserId)
    (hr : r.storageUser = true → b.hasStoragePart = true) (hdead : isLive osAccountInfo = false)
    (hs : Working b stores id r s) :
    Leads b (fun _ s => Resting b (update stores id (if isKept osAccountInfo then r else removed r)) s)
      (do
        let errCode ← removeOsAccountOperate b id { osAccountInfo with localId := id } true
        removeLocalIdToOperating id
        return if errCode = .ok () then 1 else 0) s := by
  split
  · rename_i hkept
    rw [removeOsAccountOperate, if_pos]
    · exact leads_exit 1 hs
    · rw [isKept, hdead, Bool.false_or] at hkept
      exact hkept
  · rename_i hkept
    have hremovable : (osAccountInfo.isCreateCompleted || osAccountInfo.isDataRemovable) = true := by
      rw [isKept, hdead, Bool.false_or, ← Bool.not_or, Bool.not_eq_true', Bool.not_eq_false] at hkept
      exact hkept
    have hremove : Leads b (Gives (.ok ()) (Working b stores id (removed r)))
        (removeOsAccountOperate b id { osAccountInfo with localId := id } true) s :=
      leads_removeOsAccountOperate hlow hhigh hr hremovable hs
    refine Leads.bind hremove ?_
    rintro errCode s ⟨-, hs⟩
    exact leads_exit _ hs

variable {excludeId : Int}

theorem leads_cleanGarbageOsAccount (hlow : startUserId < id) (hhigh : id ≤ maxUserId)
    (hexclude : id ≠ excludeId) (hr : (stores id).storageUser = true → b.hasStoragePart = true)
    (hs : Resting b stores s) :
    Leads b (fun _ s => Resting b (update stores id (sweep (stores id))) s)
      (cleanGarbageOsAccount b excludeId id) s := by
  have hskip : ¬(id = startUserId ∨ id = adminLocalId ∨ id = u1Id ∨ id = excludeId) := by
    simp only [startUserId, adminLocalId, u1Id] at hlow ⊢
    omega
  rw [cleanGarbageOsAccount, if_neg hskip]
  refine Leads.bind (leads_checkAndAddLocalIdOperating hs) ?_
  rintro _ s ⟨rfl, hs⟩
  rw [if_neg (by decide)]
  refine Leads.bind (leads_act .getOsAccountInfoById hs) ?_
  rintro ⟨errCode, osAccountInfo⟩ s ⟨hanswer, hs⟩
  rw [effect] at hanswer
  rw [effect] at hs
  rw [sweep]
  cases hrecord : (stores id).record with
  | none =>
      rw [hrecord] at hanswer
      cases hanswer
      exact leads_removeGarbage {} hlow hhigh hr rfl hs
  | some record =>
      rw [hrecord] at hanswer
      cases hanswer
      dsimp only
      rw [Option.any_some, if_neg (fun h : (_ : Ret) ≠ _ ∧ _ => h.1 rfl)]
      by_cases hlive : (!osAccountInfo.toBeRemoved && osAccountInfo.isCreateCompleted) = true
      · rw [if_pos hlive, isKept, isLive, Bool.and_comm, hlive, Bool.true_or, if_pos rfl]
        exact leads_exit 0 hs
      · rw [if_neg hlive]
        refine leads_removeGarbage osAccountInfo hlow hhigh hr ?_ hs
        rw [isLive, Bool.and_comm]
        exact Bool.eq_false_iff.mpr hlive

def visited (excludeId : Int) (idList : List Int) (id : Int) : Prop := id ∈ idList ∧ id ≠ startUserId ∧ id ≠ excludeId

instance (excludeId : Int) (idList : List Int) (id : Int) : Decidable (visited excludeId idList id) :=
  inferInstanceAs (Decidable (_ ∧ _ ∧ _))

def swept (excludeId : Int) (idList : List Int) (stores : Int → Stores) (id : Int) : Stores :=
  if visited excludeId idList id then sweep (stores id) else stores id

theorem sweep_sweep (r : Stores) : sweep (sweep r) = sweep r := by
  by_cases hkept : r.record.any isKept = true
  · rw [sweep, sweep, if_pos hkept, if_pos hkept]
  · rw [sweep, sweep, if_neg hkept]
    rfl

theorem storageUser_sweep {r : Stores} (h : (sweep r).storageUser = true) : r.storageUser = true := by
  rw [sweep] at h
  split at h
  · exact h
  · cases h

variable {idList : List Int}

theorem swept_cons_of_skip (h : id = startUserId ∨ id = excludeId) :
    swept excludeId (id :: idList) stores = swept excludeId idList stores := by
  funext j
  have hvisited : visited excludeId (id :: idList) j ↔ visited excludeId idList j := by
    simp only [visited, List.mem_cons]
    constructor
    · rintro ⟨rfl | hj, hstart, hexclude⟩
      · exact absurd h (not_or.mpr ⟨hstart, hexclude⟩)
      · exact ⟨hj, hstart, hexclude⟩
    · rintro ⟨hj, hne⟩
      exact ⟨.inr hj, hne⟩
  simp only [swept, hvisited]

theorem swept_cons (hstart : id ≠ startUserId) (hexclude : id ≠ excludeId) :
    swept excludeId idList (update stores id (sweep (stores id))) = swept excludeId (id :: idList) stores := by
  funext j
  by_cases hj : j = id
  · subst hj
    rw [swept, update_self, sweep_sweep, ite_self, swept, if_pos ⟨List.mem_cons_self, hstart, hexclude⟩]
  · simp only [swept, visited, update_of_ne hj, List.mem_cons, hj, false_or]

theorem leads_cleanGarbageOsAccountsIn
    (hids : ∀ id ∈ idList, startUserId ≤ id ∧ id ≤ maxUserId)
    (hr : ∀ id, (stores id).storageUser = true → b.hasStoragePart = true) (hs : Resting b stores s) :
    Leads b (fun _ s => Resting b (swept excludeId idList stores) s)
      (cleanGarbageOsAccountsIn b excludeId idList) s := by
  induction idList generalizing stores s with
  | nil =>
      have hnone : swept excludeId [] stores = stores := funext fun id => if_neg fun h => (by cases h.1)
      rw [hnone]
      exact hs
  | cons id idList ih =>
      have hrest : ∀ j ∈ idList, startUserId ≤ j ∧ j ≤ maxUserId := fun j hj => hids j (List.mem_cons_of_mem _ hj)
      obtain ⟨hlow, hhigh⟩ := hids id List.mem_cons_self
      by_cases hskip : id = startUserId ∨ id = excludeId
      · rw [swept_cons_of_skip hskip]
        have hturn : cleanGarbageOsAccount b excludeId id = pure 0 := by
          rw [cleanGarbageOsAccount, if_pos]
          rcases hskip with h | h
          · exact .inl h
          · exact .inr (.inr (.inr h))
        rw [cleanGarbageOsAccountsIn, hturn]
        have hpass : Leads b (fun _ s => Resting b stores s) (pure 0 : Step Nat) s := hs
        refine Leads.bind hpass fun n s hs => ?_
        exact Leads.bind (ih hrest hr hs) fun m s hs => hs
      · obtain ⟨hstart, hexclude⟩ := not_or.mp hskip
        have hlow' : startUserId < id := Int.lt_iff_le_and_ne.mpr ⟨hlow, Ne.symm hstart⟩
        refine Leads.bind (leads_cleanGarbageOsAccount hlow' hhigh hexclude (hr id) hs) fun n s hs => ?_
        rw [← swept_cons hstart hexclude]
        refine Leads.bind (ih hrest (fun j hj => ?_) hs) fun m s hs => hs
        by_cases hjid : j = id
        · subst hjid
          rw [update_self] at hj
          exact hr j (storageUser_sweep hj)
        · rw [update_of_ne hjid] at hj
          exact hr j hj

/-- The ids that the cleaning goes through are those that the list holds when it begins. -/
theorem leads_cleanGarbageOsAccounts (excludeId : Int)
    (hids : ∀ id, (stores id).listed = true → startUserId ≤ id ∧ id ≤ maxUserId)
    (hr : ∀ id, (stores id).storageUser = true → b.hasStoragePart = true) (hs : Resting b stores s) :
    Leads b (fun _ s => ∃ idList : List Int, (∀ id, (stores id).listed = decide (id ∈ idList)) ∧
      Resting b (swept excludeId idList stores) s) (program b (.cleanGarbageOsAccounts excludeId)) s := by
  have hclean : Leads b (fun _ s => ∃ idList : List Int, (∀ id, (stores id).listed = decide (id ∈ idList)) ∧
      Resting b (swept excludeId idList stores) s) (cleanGarbageOsAccounts b excludeId) s := by
    refine leads_checked (leads_ret _ hs) fun s hs => ?_
    refine Leads.bind (leads_getAccountListFromFile hs) ?_
    rintro idList s ⟨hlist, hs⟩
    have hrange : ∀ id ∈ idList, startUserId ≤ id ∧ id ≤ maxUserId := fun id hid =>
      hids id ((hlist id).trans (decide_eq_true hid))
    refine MarkedResources.Leads.mono (fun n s hs => ?_) (leads_cleanGarbageOsAccountsIn hrange hr hs)
    exact ⟨idList, hlist, hs⟩
  exact Leads.bind hclean fun n s hs => hs

/-- Nothing is half made: the account is there with its users, its data may not be removed, or nothing of it is left
but what was left behind. -/
inductive Settled (b : Build) (r : Stores) : Prop
  | live (osAccountInfo : OsAccountInfo) (hrecord : r.record = some osAccountInfo) (hlive : isLive osAccountInfo = true)
      (hstorage : r.storageUser = b.hasStoragePart) (hbundle : r.bundleUser = true)
  | unremovable (osAccountInfo : OsAccountInfo) (hrecord : r.record = some osAccountInfo)
      (hcompleted : osAccountInfo.isCreateCompleted = false) (hremovable : osAccountInfo.isDataRemovable = false)
  | gone (hrecord : r.record = none) (hlisted : r.listed = false) (husers : r.hasUsers = false)
  | leftBehind (hrecord : r.record = none) (hkept : r.kept = true)

theorem settled_sweep {r : Stores} (h : Backed b id r) (hid : id ≠ adminLocalId) : Settled b (sweep r) := by
  rw [sweep]
  split
  · rename_i hkept
    cases hrecord : r.record with
    | none =>
        rw [hrecord] at hkept
        cases hkept
    | some osAccountInfo =>
        rw [hrecord, Option.any_some, isKept, Bool.or_eq_true, Bool.and_eq_true, Bool.not_eq_true',
          Bool.not_eq_true'] at hkept
        rcases hkept with hlive | ⟨hcompleted, hremovable⟩
        · obtain ⟨hstorage, hbundle⟩ := (h.served osAccountInfo hrecord hlive).resolve_left hid
          exact .live osAccountInfo hrecord hlive hstorage hbundle
        · exact .unremovable osAccountInfo hrecord hcompleted hremovable
  · exact .gone rfl rfl rfl

theorem settled_of_not_listed {r : Stores} (h : Backed b id r) (hid : startUserId ≤ id) (hlisted : r.listed = false) :
    Settled b r := by
  have hrecord : r.record = none := by
    rw [← Option.not_isSome_iff_eq_none]
    intro hsome
    cases hlisted.symm.trans (h.listed hsome hid)
  cases husers : r.hasUsers with
  | false => exact .gone hrecord hlisted husers
  | true =>
      refine .leftBehind hrecord ((h.recorded husers).resolve_left ?_)
      rw [hrecord]
      exact Bool.false_ne_true

end recovery

def cleanedUp (excludeId : Int) (envs : Nat → Env Fault Reply) (n : Nat) : List Event :=
  .restart :: .start 0 (.cleanGarbageOsAccounts excludeId) :: (List.range n).map fun i => .step 0 (envs i)

def halfRemoved : Stores :=
  { record := some { localId := 101, isCreateCompleted := true, toBeRemoved := true }, storageUser := true }

def found (id : Int) : Stores := if id = 101 then halfRemoved else {}

theorem backed_found (id : Int) : Backed phone id (storesOf (booted found [101]) id) := by
  by_cases hid : id = 101
  · subst hid
    refine ⟨fun info hinfo => ?_, fun _ _ => rfl, fun _ => rfl, fun _ => .inl rfl, fun info hinfo hlive => ?_⟩
    · obtain rfl := Option.some.inj hinfo
      rfl
    · obtain rfl := Option.some.inj hinfo
      cases hlive
  · have hfound : storesOf (booted found [101]) id = { found id with listed := decide (id ∈ [101]) } := rfl
    rw [hfound, found, if_neg hid]
    exact backed_empty phone id _

def removalBegun : List Event := [.start 0 (.removeOsAccount 101), .step 0 (calm 101)]

def triedAgain (n : Nat) : State :=
  Machine.run (step phone) (booted found [101]) (removalBegun ++ cleanedUp (-1) (fun _ => calm 101) n)

end OsAccount.AccountResources
