import OsAccount.AccountResources

namespace OsAccount.AccountResources

open AccountList MarkedResources
open OperatingMarker (Build Creation)

structure Backed (b : Build) (id : Int) (r : Stores) : Prop where
  named : ∀ osAccountInfo, r.record = some osAccountInfo → osAccountInfo.localId = id
  listed : r.record.isSome → startUserId ≤ id → r.listed = true
  stored : r.storageUser = true → b.hasStoragePart = true
  recorded : r.hasUsers = true → r.record.isSome ∨ r.kept = true
  served : ∀ osAccountInfo, r.record = some osAccountInfo → isLive osAccountInfo = true →
    id = adminLocalId ∨ (r.storageUser = b.hasStoragePart ∧ r.bundleUser = true)

def Granted (b : Build) : Expectation → Stores → Prop
  | .asRead osAccountInfo, r => ∀ info ∈ r.record, isLive info = isLive osAccountInfo
  | .noUsers, r => r.hasUsers = true → r.kept = true
  | .users, r => r.storageUser = b.hasStoragePart ∧ r.bundleUser = true

/-- A file that is not found is not there, what fails to be written or made has not been, a failure to write does not
say that the account exists, and what a program takes for granted is so. -/
def Credible (b : Build) : Act → Fault → Stores → Prop
  | .getOsAccountInfoById, f, r => f.failure = some .accountNotExistError → r.record = none
  | .accountListFile, f, _ => f.failure ≠ some .insertFileExistsError
  | .inputFileByPathAndContent _, f, _ =>
      (f.failure.isSome → f.takes = false) ∧ f.failure ≠ some .insertFileExistsError
  | .prepareAddUser, f, _ | .createNewUser, f, _ => f.failure.isSome → f.takes = false
  | .expect e, _, r => Granted b e r
  | _, _, _ => True

theorem enlist_effect (listed : Bool) (a : Act) (f : Fault) (r : Stores) :
    { (effect a f { r with listed }).2 with listed } = (effect a f { r with listed }).2 := by
  have hchanges : ∀ {r r' : Stores}, r.listed = listed → r'.listed = listed →
      { (f.changes r r').2 with listed } = (f.changes r r').2 := by
    rintro r r' rfl hr'
    rw [Fault.changes]
    dsimp only
    split
    · rw [← hr']
    · rfl
  cases a with
  | inputFileByPathAndContent osAccountInfo => exact hchanges rfl rfl
  | deleteDirOrFile => exact hchanges rfl rfl
  | prepareAddUser => exact hchanges rfl rfl
  | removeStorageUser => exact hchanges rfl rfl
  | createNewUser => exact hchanges rfl rfl
  | removeBundleUser => exact hchanges rfl rfl
  | getOsAccountInfoById => rfl
  | isExistFile => rfl
  | accountListFile => rfl
  | keepData => rfl
  | expect e => rfl

def discipline (b : Build) : Discipline Int Act Fault Stores Act.Ret where
  effect := effect
  credible := Credible b
  Inv := Backed b
  enlist listed r := { r with listed }
  enlist_enlist _ _ _ := rfl
  enlist_effect := enlist_effect

def Idle (id : Int) (r : Stores) : Prop :=
  ∀ osAccountInfo, r.record = some osAccountInfo → isLive osAccountInfo = true → id = adminLocalId

def MayBeIdle (id : Int) (osAccountInfo : OsAccountInfo) : Prop :=
  osAccountInfo.localId = id ∧ (isLive osAccountInfo = true → id = adminLocalId)

section backed

variable {b : Build} {id : Int} {r : Stores} {osAccountInfo : OsAccountInfo}

theorem Backed.list (h : Backed b id r) : Backed b id { r with listed := true } :=
  ⟨h.named, fun _ _ => rfl, h.stored, h.recorded, h.served⟩

theorem Backed.unlist (h : Backed b id r) (hrecord : r.record = none) : Backed b id { r with listed := false } := by
  refine ⟨h.named, fun hsome => ?_, h.stored, h.recorded, h.served⟩
  rw [hrecord] at hsome
  cases hsome

theorem Backed.write (h : Backed b id r) (hid : osAccountInfo.localId = id)
    (hlisted : startUserId ≤ id → r.listed = true)
    (hserved : isLive osAccountInfo = true →
      id = adminLocalId ∨ (r.storageUser = b.hasStoragePart ∧ r.bundleUser = true)) :
    Backed b id { r with record := some osAccountInfo } := by
  refine ⟨?_, fun _ => hlisted, h.stored, fun _ => .inl rfl, ?_⟩
  · intro info hinfo
    obtain rfl := Option.some.inj hinfo
    exact hid
  · intro info hinfo
    obtain rfl := Option.some.inj hinfo
    exact hserved

theorem Backed.erase (h : Backed b id r) (husers : r.hasUsers = true → r.kept = true) :
    Backed b id { r with record := none } := by
  refine ⟨?_, ?_, h.stored, fun hr => .inr (husers hr), ?_⟩
  · intro info hinfo
    cases hinfo
  · intro hsome
    cases hsome
  · intro info hinfo
    cases hinfo

theorem Backed.keep (h : Backed b id r) : Backed b id { r with kept := true } :=
  ⟨h.named, h.listed, h.stored, fun _ => .inr rfl, h.served⟩

theorem Backed.addStorage (h : Backed b id r) (hb : b.hasStoragePart = true) (hr : r.record.isSome ∨ r.kept = true) :
    Backed b id { r with storageUser := true } := by
  refine ⟨h.named, h.listed, fun _ => hb, fun _ => hr, fun info hinfo hlive => ?_⟩
  exact (h.served info hinfo hlive).imp_right fun hs => ⟨hb.symm, hs.2⟩

theorem Backed.addBundle (h : Backed b id r) (hr : r.record.isSome ∨ r.kept = true) :
    Backed b id { r with bundleUser := true } := by
  refine ⟨h.named, h.listed, h.stored, fun _ => hr, fun info hinfo hlive => ?_⟩
  exact (h.served info hinfo hlive).imp_right fun hs => ⟨hs.1, rfl⟩

theorem Backed.removeStorage (h : Backed b id r) (hidle : Idle id r) : Backed b id { r with storageUser := false } := by
  refine ⟨h.named, h.listed, fun hs => (by cases hs), fun hr => h.recorded ?_, fun info hinfo hlive => ?_⟩
  · rw [Stores.hasUsers] at hr ⊢
    rw [Bool.or_eq_true]
    exact .inr hr
  · exact .inl (hidle info hinfo hlive)

theorem Backed.removeBundle (h : Backed b id r) (hidle : Idle id r) : Backed b id { r with bundleUser := false } := by
  refine ⟨h.named, h.listed, h.stored, fun hr => h.recorded ?_, fun info hinfo hlive => ?_⟩
  · rw [Stores.hasUsers, Bool.or_false] at hr
    rw [Stores.hasUsers, hr, Bool.true_or]
  · exact .inl (hidle info hinfo hlive)

theorem idle_of_record_none (h : r.record = none) : Idle id r := by
  intro info hinfo
  cases h.symm.trans hinfo

theorem Idle.write (h : MayBeIdle id osAccountInfo) : Idle id { r with record := some osAccountInfo } := by
  intro info hinfo
  obtain rfl := Option.some.inj hinfo
  exact h.2

end backed

section works

variable {b : Build} {id : Int} {α : Type}

abbrev Works (b : Build) (id : Int) (P : Stores → Prop) (p : Step α) (Q : α → Stores → Prop) : Prop :=
  MarkedResources.Works (discipline b) id P p Q

abbrev Finishes (b : Build) (id : Int) (P : Stores → Prop) (p : Step α) : Prop :=
  MarkedResources.Finishes (discipline b) id P p

abbrev Quiet (b : Build) (p : Step α) : Prop := MarkedResources.Quiet (discipline b) p

abbrev Proper (b : Build) (p : Step α) : Prop := MarkedResources.Proper (discipline b) p

variable {f : Fault}

theorem changes_ensures {r r' : Stores} {P : Ret × Stores → Prop} (hok : P (.ok (), r'))
    (hfailed : ∀ e, f.failure = some e → P (.error e, r)) (htaken : ∀ e, f.failure = some e → P (.error e, r')) :
    P (f.changes r r') := by
  obtain ⟨failure, takes⟩ := f
  cases failure with
  | none => exact hok
  | some e =>
      cases takes with
      | false => exact hfailed e rfl
      | true => exact htaken e rfl

theorem changes_ensures_of_credible {r r' : Stores} {P : Ret × Stores → Prop}
    (hf : f.failure.isSome → f.takes = false) (hok : P (.ok (), r'))
    (hfailed : ∀ e, f.failure = some e → P (.error e, r)) : P (f.changes r r') := by
  obtain ⟨failure, takes⟩ := f
  cases failure with
  | none => exact hok
  | some e =>
      obtain rfl := hf rfl
      exact hfailed e rfl

variable {P : Stores → Prop}

theorem works_checked {R : Ret → Stores → Prop} {Q : α → Stores → Prop} {p : Step Ret}
    {f g : Ret → Step α} (hp : Works b id P p R)
    (hf : ∀ errCode, errCode ≠ .ok () → Works b id (R errCode) (f errCode) Q)
    (hg : Works b id (R (.ok ())) (g (.ok ())) Q) :
    Works b id P (do let errCode ← p; if errCode ≠ .ok () then f errCode else g errCode) Q := by
  refine Works.bind hp fun errCode => Works.ite (hf errCode) fun hok => ?_
  rw [not_not.mp hok]
  exact hg

theorem finishes_checked {R : Ret → Stores → Prop} {p : Step Ret} {f g : Ret → Step α}
    (hp : Works b id P p R) (hf : ∀ errCode, Finishes b id (R errCode) (f errCode))
    (hg : Finishes b id (R (.ok ())) (g (.ok ()))) :
    Finishes b id P (do let errCode ← p; if errCode ≠ .ok () then f errCode else g errCode) := by
  refine Works.finishes hp fun errCode => Finishes.ite (fun _ => hf errCode) fun hok => ?_
  rw [not_not.mp hok]
  exact hg

variable (c : Call)

theorem quiet_ask : Quiet b (ask c) := Quiet.outside c

theorem quiet_ret : Quiet b (ret c) := Quiet.bind (quiet_ask c) fun _ => Quiet.pure _

theorem quiet_flag : Quiet b (flag c) := Quiet.bind (quiet_ask c) fun _ => Quiet.pure _

theorem quiet_inCase {p : Step α} (hp : Quiet b p) (c : Bool) (a : α) : Quiet b (inCase c p a) :=
  Quiet.ite (fun _ => hp) fun _ => Quiet.pure a

theorem quiet_askWithAccountList : Quiet b (askWithAccountList c) :=
  Quiet.bind Quiet.readList fun list => Quiet.bind (quiet_ask c) fun _ =>
    Quiet.bind (quiet_inCase (Quiet.writeList list) _ _) fun _ => Quiet.pure _

theorem quiet_retWithAccountList : Quiet b (retWithAccountList c) :=
  Quiet.bind (quiet_askWithAccountList c) fun _ => Quiet.pure _

theorem works_isExistFile :
    Works b id P (act id .isExistFile) fun (isExistFile : Bool) r => P r ∧ r.record.isSome = isExistFile :=
  Works.act fun _ hr hP _ _ => ⟨hr, hP, rfl⟩

theorem reads_spec {record : Option OsAccountInfo}
    (hf : f.failure = some .accountNotExistError → record = none) :
    ((f.reads record).1 = .ok () → record = some (f.reads record).2) ∧
      ((f.reads record).1 = .error .accountNotExistError → record = none) := by
  obtain ⟨failure, takes⟩ := f
  cases failure with
  | some e => exact ⟨fun h => (by cases h), fun h => hf (congrArg some (Except.error.inj h))⟩
  | none =>
      cases record with
      | none => exact ⟨fun h => (by cases h), fun _ => rfl⟩
      | some osAccountInfo => exact ⟨fun _ => rfl, fun h => (by cases h)⟩

def Read (P : Stores → Prop) (answer : Ret × OsAccountInfo) (r : Stores) : Prop :=
  P r ∧ (answer.1 = .ok () → r.record = some answer.2) ∧ (answer.1 = .error .accountNotExistError → r.record = none)

theorem works_getOsAccountInfoById : Works b id P (getOsAccountInfoById id) (Read P) :=
  Works.act fun _ hr hP _ hf => ⟨hr, hP, reads_spec hf⟩

def Wrote (P : Stores → Prop) (osAccountInfo : OsAccountInfo) (errCode : Ret) (r : Stores) : Prop :=
  (errCode = .ok () ∧ ∃ r₀, P r₀ ∧ r = { r₀ with record := some osAccountInfo }) ∨
    (errCode ≠ .ok () ∧ errCode ≠ .error .insertFileExistsError ∧ P r)

theorem works_inputFile {osAccountInfo : OsAccountInfo} (hid : osAccountInfo.localId = id)
    (hlisted : ∀ r, Backed b id r → P r → startUserId ≤ id → r.listed = true)
    (hserved : ∀ r, Backed b id r → P r → isLive osAccountInfo = true →
      id = adminLocalId ∨ (r.storageUser = b.hasStoragePart ∧ r.bundleUser = true)) :
    Works b id P (act id (.inputFileByPathAndContent osAccountInfo)) (Wrote P osAccountInfo) := by
  refine Works.act fun r hr hP f hf => ?_
  have hcredible : (f.failure.isSome → f.takes = false) ∧ f.failure ≠ some .insertFileExistsError := hf
  refine changes_ensures_of_credible (P := fun x => Backed b id x.2 ∧ Wrote P osAccountInfo x.1 x.2) hcredible.1 ?_ ?_
  · exact ⟨hr.write hid (hlisted r hr hP) (hserved r hr hP), .inl ⟨rfl, r, hP, rfl⟩⟩
  · intro e he
    refine ⟨hr, .inr ⟨fun h => (by cases h), fun h => hcredible.2 ?_, hP⟩⟩
    rw [he, Except.error.inj h]

theorem works_updateOsAccount {osAccountInfo : OsAccountInfo} (hid : osAccountInfo.localId = id)
    (hserved : ∀ r, Backed b id r → P r → r.record.isSome = true → isLive osAccountInfo = true →
      id = adminLocalId ∨ (r.storageUser = b.hasStoragePart ∧ r.bundleUser = true)) :
    Works b id P (updateOsAccount osAccountInfo) (Wrote P osAccountInfo) := by
  subst hid
  refine Works.bind works_isExistFile fun isExistFile => Works.ite (fun _ => ?_) fun hexists => ?_
  · exact Works.pure fun r _ h => .inr ⟨fun h => (by cases h), fun h => (by cases h), h.1⟩
  · have hfound : isExistFile = true := by simpa using hexists
    subst hfound
    have hwrites : Works b osAccountInfo.localId (fun r => P r ∧ r.record.isSome = true)
        (act osAccountInfo.localId (.inputFileByPathAndContent osAccountInfo))
        (Wrote (fun r => P r ∧ r.record.isSome = true) osAccountInfo) :=
      works_inputFile rfl (fun r hr h => hr.listed h.2) fun r hr h => hserved r hr h.1 h.2
    refine hwrites.weaken (fun _ _ h => h) fun errCode r _ h => ?_
    rcases h with ⟨hok, r₀, h, hr₀⟩ | ⟨herr, hexists, h⟩
    · exact .inl ⟨hok, r₀, h.1, hr₀⟩
    · exact .inr ⟨herr, hexists, h.1⟩

theorem works_updateIdle {osAccountInfo : OsAccountInfo} (h : MayBeIdle id osAccountInfo) :
    Works b id (Idle id) (updateOsAccount osAccountInfo) fun _ => Idle id := by
  refine (works_updateOsAccount h.1 fun _ _ _ _ hlive => .inl (h.2 hlive)).weaken (fun _ _ hr => hr) ?_
  rintro errCode r _ (⟨-, r₀, -, rfl⟩ | ⟨-, -, hr⟩)
  · exact Idle.write h
  · exact hr

def Accessed (P : Stores → Prop) (answer : Ret × Bool) (r : Stores) : Prop :=
  P r ∧ answer.1 ≠ .error .insertFileExistsError ∧ (answer.1 = .ok () → answer.2 = true)

theorem works_accountListFile : Works b id P (act id .accountListFile) (Accessed P) := by
  refine Works.act fun r hr h f hf => ⟨hr, h, ?_, ?_⟩
  · obtain ⟨failure, takes⟩ := f
    cases failure with
    | none => exact fun h => (by cases h)
    | some e => exact fun h => hf (congrArg some (Except.error.inj h))
  · obtain ⟨failure, takes⟩ := f
    cases failure with
    | none => exact fun _ => rfl
    | some e => exact fun h => (by cases h)

/-- The entry of the account is as the update would have it, if the update does not fail. -/
def Listed (P : Stores → Prop) (isAdd : Bool) (errCode : Ret) (r : Stores) : Prop :=
  P r ∧ errCode ≠ .error .insertFileExistsError ∧ (errCode = .ok () → r.listed = isAdd)

theorem works_updateAccountList (isAdd : Bool)
    (hbacked : ∀ r, Backed b id r → P r → Backed b id { r with listed := isAdd })
    (hP : ∀ r, P r → P { r with listed := isAdd }) :
    Works b id P (updateAccountList id isAdd) (Listed P isAdd) := by
  refine Works.bind works_accountListFile fun result => Works.ite (fun hfail => ?_) fun _ => ?_
  · exact Works.pure fun r _ h => ⟨h.1, h.2.1, fun hok => absurd hok hfail⟩
  refine Works.bind (Works.readList _) fun accountIdList => Works.ite (fun hfound => ?_) fun hmissing => ?_
  · rw [Bool.and_eq_true] at hfound
    obtain ⟨rfl, hfound⟩ := hfound
    refine Works.pure fun r _ h => ⟨h.1.1, fun h => (by cases h), fun _ => ?_⟩
    have hlisted : ({ r with listed := decide (id ∈ accountIdList) } : Stores) = r := h.2
    rw [← hlisted]
    exact decide_eq_true (by simpa using hfound)
  have hentry : decide (id ∈ if isAdd then accountIdList ++ [id] else accountIdList.filter (· ≠ id)) = isAdd := by
    cases isAdd <;> simp
  refine Works.bind (works_accountListFile.weaken (fun _ _ h => h.1.1) fun _ _ _ h => h) fun answer => ?_
  refine Works.bind (Q := fun _ => Listed P isAdd answer.1) (Works.ite (fun _ => ?_) fun hkept => ?_) fun _ =>
    Works.pure fun _ _ h => h
  · refine Works.writeList fun r hr h => ?_
    rw [hentry]
    exact ⟨hbacked r hr h.1, hP r h.1, h.2.1, fun _ => rfl⟩
  · exact Works.pure fun r _ h => ⟨h.1, h.2.1, fun hok => absurd (h.2.2 hok) hkept⟩

def Told (P : Stores → Prop) (id : Int) (errCode : Ret) (r : Stores) : Prop :=
  P r ∧ errCode ≠ .error .insertFileExistsError ∧ (errCode = .ok () → startUserId ≤ id → r.listed = true)

theorem works_listOsAccount (id : Int) (hP : ∀ r, P r → P { r with listed := true }) :
    Works b id P (listOsAccount id) (Told P id) := by
  refine Works.ite (fun _ => ?_) fun hid => ?_
  · refine (works_updateAccountList true (fun r hr _ => hr.list) hP).weaken (fun _ _ h => h) fun errCode r _ h => ?_
    exact ⟨h.1, h.2.1, fun hok _ => h.2.2 hok⟩
  · exact Works.pure fun r _ h => ⟨h, fun h => (by cases h), fun _ h => absurd h hid⟩

structure Inserted (P : Stores → Prop) (osAccountInfo : OsAccountInfo) (errCode : Ret) (r : Stores) : Prop where
  kept : P r
  recorded : errCode = .ok () ∨ errCode = .error .insertFileExistsError → r.record.isSome
  fresh : errCode = .ok () → r.record = some osAccountInfo ∧ (r.hasUsers = true → r.kept = true)

theorem works_insertOsAccount {osAccountInfo : OsAccountInfo} (h : MayBeIdle id osAccountInfo)
    (hlist : ∀ r, P r → P { r with listed := true }) (hwrite : ∀ r, P r → P { r with record := some osAccountInfo }) :
    Works b id P (insertOsAccount osAccountInfo) (Inserted P osAccountInfo) := by
  obtain ⟨rfl, hlive⟩ := h
  refine Works.ite (fun _ => Works.pure fun r _ hr => ⟨hr, fun h => ?_, fun h => (by cases h)⟩) fun _ => ?_
  · rcases h with h | h <;> cases h
  refine Works.bind works_isExistFile fun isExistFile => Works.ite (fun hexists => ?_) fun hexists => ?_
  · exact Works.pure fun r _ hr => ⟨hr.1, fun _ => hr.2.trans hexists, fun h => (by cases h)⟩
  have hmissing : isExistFile = false := by simpa using hexists
  subst hmissing
  have hlisted := works_listOsAccount (b := b) osAccountInfo.localId
    (P := fun r => P r ∧ (r.hasUsers = true → r.kept = true)) fun r hr => ⟨hlist r hr.1, hr.2⟩
  refine Works.bind (hlisted.weaken (fun r hr h => ⟨h.1, fun husers => ?_⟩) fun _ _ _ h => h) fun updateRet => ?_
  · have hnone := h.2
    rcases hr.recorded husers with hsome | hkept
    · rw [hsome] at hnone
      cases hnone
    · exact hkept
  refine Works.ite (fun herr => Works.pure fun r _ hr => ⟨hr.1.1, fun h => ?_, fun h => absurd h herr⟩) fun hok => ?_
  · rcases h with h | h
    · exact absurd h herr
    · exact absurd h hr.2.1
  have hok : updateRet = .ok () := by simpa using hok
  refine (works_inputFile rfl (fun r _ hr => hr.2.2 hok) fun _ _ _ h => .inl (hlive h)).weaken (fun _ _ h => h) ?_
  rintro errCode r _ (⟨rfl, r₀, hr₀, rfl⟩ | ⟨herr, hother, hr⟩)
  · exact ⟨hwrite r₀ hr₀.1.1, fun _ => rfl, fun _ => ⟨rfl, hr₀.1.2⟩⟩
  · refine ⟨hr.1.1, fun h => ?_, fun h => absurd h herr⟩
    rcases h with h | h
    · exact absurd h herr
    · exact absurd h hother

theorem works_delOsAccount (herase : ∀ r, P r → P { r with record := none })
    (hunlist : ∀ r, P r → P { r with listed := false }) :
    Works b id (fun r => P r ∧ (r.hasUsers = true → r.kept = true)) (delOsAccount id) fun _ => P := by
  refine Works.ite (fun _ => Works.pure fun r _ h => h.1) fun _ => ?_
  have hdelete : Works b id (fun r => P r ∧ (r.hasUsers = true → r.kept = true)) (act id .deleteDirOrFile)
      fun (result : Ret) r => P r ∧ (result = .ok () → r.record = none) := by
    refine Works.act fun r hr h f _ => ?_
    refine changes_ensures (P := fun x => Backed b id x.2 ∧ P x.2 ∧ (x.1 = .ok () → x.2.record = none)) ?_ ?_ ?_
    · exact ⟨hr.erase h.2, herase r h.1, fun _ => rfl⟩
    · exact fun e _ => ⟨hr, h.1, fun h => (by cases h)⟩
    · exact fun e _ => ⟨hr.erase h.2, herase r h.1, fun _ => rfl⟩
  refine Works.bind hdelete fun result => Works.ite (fun _ => Works.pure fun r _ h => h.1) fun hok => ?_
  have hok : result = .ok () := by simpa using hok
  have hlist : Works b id (fun r => P r ∧ (result = .ok () → r.record = none)) (updateAccountList id false)
      (Listed (fun r => P r ∧ (result = .ok () → r.record = none)) false) :=
    works_updateAccountList false (fun r hr h => hr.unlist (h.2 hok)) fun r h => ⟨hunlist r h.1, h.2⟩
  exact hlist.weaken (fun _ _ h => h) fun _ _ _ h => h.1.1

def Dropped (r₀ r₁ : Stores) (errCode : Ret) (r : Stores) : Prop := r = r₁ ∨ (errCode ≠ .ok () ∧ r = r₀)

theorem works_sendToBMSAccountDelete {r₀ : Stores} (h : Idle id r₀) :
    Works b id (· = r₀) (sendToBMSAccountDelete id) (Dropped r₀ { r₀ with bundleUser := false }) := by
  refine Works.act fun r hr hP f _ => ?_
  obtain rfl : r = r₀ := hP
  refine changes_ensures
    (P := fun x => Backed b id x.2 ∧ Dropped r { r with bundleUser := false } x.1 x.2) ?_ ?_ ?_
  · exact ⟨hr.removeBundle h, .inl rfl⟩
  · exact fun e _ => ⟨hr, .inr ⟨fun h => (by cases h), rfl⟩⟩
  · exact fun e _ => ⟨hr.removeBundle h, .inl rfl⟩

theorem withoutStorage_eq {r : Stores} (h : r.storageUser = false) : r = { r with storageUser := false } := by
  cases r
  cases h
  rfl

theorem storageUser_of_not {r : Stores} (h : Backed b id r) (hb : (!b.hasStoragePart) = true) :
    r.storageUser = false := by
  cases hs : r.storageUser with
  | false => rfl
  | true =>
      rw [h.stored hs] at hb
      cases hb

theorem works_sendToStorageAccountRemove {r₀ : Stores} (h : Idle id r₀) :
    Works b id (· = r₀) (sendToStorageAccountRemove b id) (Dropped r₀ { r₀ with storageUser := false }) := by
  refine Works.ite (fun hb => Works.pure fun r hr hP => ?_) fun _ => ?_
  · obtain rfl : r = r₀ := hP
    exact .inl (withoutStorage_eq (storageUser_of_not hr hb))
  refine Works.bind ((quiet_ret _).works _) fun errCode => ?_
  refine Works.ite (fun herr => Works.pure fun r _ hP => .inr ⟨herr, hP⟩) fun _ => ?_
  refine Works.act fun r hr hP f _ => ?_
  obtain rfl : r = r₀ := hP
  refine changes_ensures
    (P := fun x => Backed b id x.2 ∧ Dropped r { r with storageUser := false } x.1 x.2) ?_ ?_ ?_
  · exact ⟨hr.removeStorage h, .inl rfl⟩
  · exact fun e _ => ⟨hr, .inr ⟨fun h => (by cases h), rfl⟩⟩
  · exact fun e _ => ⟨hr.removeStorage h, .inl rfl⟩

theorem quiet_deleteFromTee : Quiet b (deleteFromTee b) := Quiet.ite (fun _ => quiet_ret _) fun _ => Quiet.pure _

theorem quiet_deleteFromIDM : Quiet b (deleteFromIDM b) := Quiet.ite (fun _ => quiet_ret _) fun _ => Quiet.pure _

theorem quiet_resetForegroundBeforeRemove : Quiet b (resetForegroundBeforeRemove b) := by
  refine Quiet.bind (quiet_flag _) fun isForeground => Quiet.ite (fun _ => Quiet.pure _) fun _ => ?_
  refine Quiet.ite (fun _ => quiet_ret _) fun _ => ?_
  exact Quiet.bind (quiet_ret _) fun errCode => Quiet.pure _

theorem works_deactivateOsAccountByInfo {osAccountInfo : OsAccountInfo} (h : MayBeIdle id osAccountInfo) :
    Works b id (Idle id) (deactivateOsAccountByInfo osAccountInfo) fun _ => Idle id :=
  Works.bind (works_updateIdle h) fun _ => Works.pure fun _ _ h => h

theorem works_sendMsgForAccountStop {osAccountInfo : OsAccountInfo} (h : MayBeIdle id osAccountInfo) :
    Works b id (Idle id) (sendMsgForAccountStop osAccountInfo) fun _ => Idle id := by
  refine works_checked ((quiet_ret _).works _) (fun _ _ => Works.pure fun _ _ h => h) ?_
  refine works_checked ((quiet_ret _).works _) (fun _ _ => Works.pure fun _ _ h => h) ?_
  refine Works.bind ((quiet_ret _).works _) fun errCode => Works.ite (fun _ => Works.pure fun _ _ h => h) fun _ => ?_
  exact works_deactivateOsAccountByInfo h

theorem works_prepareRemoveOsAccount {osAccountInfo : OsAccountInfo} {isCleanGarbage : Bool}
    (h : isCleanGarbage = false → MayBeIdle id osAccountInfo) :
    Works b id (Idle id) (prepareRemoveOsAccount b osAccountInfo isCleanGarbage) fun _ => Idle id := by
  refine works_checked (quiet_deleteFromIDM.works _) (fun _ _ => Works.pure fun _ _ h => h) ?_
  refine Works.ite (fun _ => Works.pure fun _ _ h => h) fun hclean => ?_
  refine works_checked (quiet_resetForegroundBeforeRemove.works _) (fun _ _ => Works.pure fun _ _ h => h) ?_
  exact works_sendMsgForAccountStop (h (by simpa using hclean))

theorem Idle.of_record {r r' : Stores} (h : Idle id r) (hrecord : r'.record = r.record) : Idle id r' := by
  intro info hinfo
  exact h info (hrecord.symm.trans hinfo)

theorem Dropped.idle {r₀ r₁ r : Stores} {errCode : Ret} (h : Dropped r₀ r₁ errCode r) (hidle : Idle id r₀)
    (hrecord : r₁.record = r₀.record) : Idle id r := by
  rcases h with rfl | ⟨-, rfl⟩
  · exact hidle.of_record hrecord
  · exact hidle

theorem Dropped.eq_of_ok {r₀ r₁ r : Stores} {errCode : Ret} (h : Dropped r₀ r₁ errCode r) (hok : errCode = .ok ()) :
    r = r₁ := h.resolve_right fun h => h.1 hok

theorem works_delIdle : Works b id (fun r => Idle id r ∧ (r.hasUsers = true → r.kept = true)) (delOsAccount id)
    fun _ => Idle id :=
  works_delOsAccount (fun _ _ => idle_of_record_none rfl) fun _ h => h.of_record rfl

theorem works_sendMsgForAccountRemove :
    Works b id (Idle id) (sendMsgForAccountRemove b id) fun _ => Idle id := by
  refine Works.of_forall fun r₀ _ hidle => ?_
  refine works_checked (works_sendToBMSAccountDelete hidle) (fun _ _ => Works.pure fun r _ h => h.idle hidle rfl) ?_
  have hidle₁ : Idle id { r₀ with bundleUser := false } := hidle.of_record rfl
  refine works_checked ((works_sendToStorageAccountRemove hidle₁).weaken (fun r _ h => h.eq_of_ok rfl) fun _ _ _ h => h)
    (fun _ _ => Works.pure fun r _ h => h.idle hidle₁ rfl) ?_
  refine works_delIdle.weaken (fun r _ h => ?_) fun _ _ _ h => h
  rw [h.eq_of_ok rfl]
  exact ⟨hidle₁.of_record rfl, fun husers => (by cases husers)⟩

theorem works_removeOsAccountOperate {osAccountInfo : OsAccountInfo} {isCleanGarbage : Bool}
    (h : isCleanGarbage = false → MayBeIdle id osAccountInfo) :
    Works b id (Idle id) (removeOsAccountOperate b id osAccountInfo isCleanGarbage) fun _ => Idle id := by
  refine Works.ite (fun _ => Works.pure fun _ _ h => h) fun _ => ?_
  refine works_checked (quiet_deleteFromTee.works _) (fun _ _ => Works.pure fun _ _ h => h) ?_
  refine works_checked (works_prepareRemoveOsAccount h) (fun _ _ => Works.pure fun _ _ h => h) ?_
  refine works_checked works_sendMsgForAccountRemove (fun _ _ => Works.pure fun _ _ h => h) ?_
  exact (quiet_ret _).works _

theorem finishes_exit (id : Int) (a : α) :
    Finishes b id P (do removeLocalIdToOperating id; return a) := fun _ _ _ _ _ => rfl

theorem quiet_operating {p q : Step α} (hq : Quiet b q) (hp : Finishes b id (fun _ => True) p) :
    Quiet b (do if !(← checkAndAddLocalIdOperating id) then q else p) :=
  Quiet.mark (f := fun marked => if !marked then q else p) hq hp

theorem idle_of_read {answer : Ret × OsAccountInfo} {r : Stores} (h : Read P answer r)
    (hread : answer.1 = .ok () ∨ answer.1 = .error .accountNotExistError)
    (hlive : answer.1 = .ok () → isLive answer.2 = true → id = adminLocalId) : Idle id r := by
  rcases hread with hok | hmissing
  · intro info hinfo
    obtain rfl := Option.some.inj ((h.2.1 hok).symm.trans hinfo)
    exact hlive hok
  · exact idle_of_record_none (h.2.2 hmissing)

theorem quiet_cleanGarbageOsAccount (excludeId id : Int) : Quiet b (cleanGarbageOsAccount b excludeId id) := by
  refine Quiet.ite (fun _ => Quiet.pure _) fun _ => quiet_operating (Quiet.pure _) ?_
  refine Works.finishes (works_getOsAccountInfoById) ?_
  rintro ⟨errCode, osAccountInfo⟩
  refine Finishes.ite (fun _ => finishes_exit _ _) fun hread => Finishes.ite (fun _ => finishes_exit _ _) fun hlive => ?_
  have hremove : Works b id (Idle id) (removeOsAccountOperate b id { osAccountInfo with localId := id } true)
      fun _ => Idle id := works_removeOsAccountOperate fun h => (by cases h)
  refine Works.finishes (hremove.weaken (fun r _ h => idle_of_read h ?_ fun _ h => ?_) fun _ _ _ h => h) fun _ =>
    finishes_exit _ _
  · dsimp only
    by_cases hok : errCode = .ok ()
    · exact .inl hok
    · exact .inr (by simpa [hok] using hread)
  · refine absurd ?_ hlive
    rw [isLive, Bool.and_comm] at h
    exact h

theorem quiet_cleanGarbageOsAccountsIn (excludeId : Int) (idList : List Int) :
    Quiet b (cleanGarbageOsAccountsIn b excludeId idList) := by
  induction idList with
  | nil => exact Quiet.pure 0
  | cons id idList ih =>
      exact Quiet.bind (quiet_cleanGarbageOsAccount excludeId id) fun n => Quiet.bind ih fun m => Quiet.pure _

theorem quiet_cleanGarbageOsAccounts (excludeId : Int) : Quiet b (cleanGarbageOsAccounts b excludeId) := by
  refine Quiet.bind (quiet_ret _) fun errCode => Quiet.ite (fun _ => Quiet.pure _) fun _ => ?_
  exact Quiet.bind Quiet.readList fun idList => quiet_cleanGarbageOsAccountsIn excludeId idList

end works

section creations

variable {b : Build} {id : Int} {osAccountInfo : OsAccountInfo} {α : Type}

def Known (needDelStorage needDelBms : Bool) (r : Stores) : Prop :=
  r.kept = true ∨ ((r.storageUser = true → needDelStorage = true) ∧ (r.bundleUser = true → needDelBms = true))

theorem works_rollbackBundle (id : Int) (needDelStorage needDelBms : Bool) :
    Works b id (fun r => Idle id r ∧ Known needDelStorage needDelBms r)
      (inCase needDelBms (sendToBMSAccountDelete id) (.ok ()))
      fun errCode r => Idle id r ∧ (errCode = .ok () → Known needDelStorage false r) := by
  refine Works.ite (fun _ => Works.of_forall fun r₀ _ h => ?_) fun hneed => Works.pure fun r _ h => ⟨h.1, fun _ => ?_⟩
  · refine (works_sendToBMSAccountDelete h.1).weaken (fun _ _ h => h) fun errCode r _ hr =>
      ⟨hr.idle h.1 rfl, fun hok => ?_⟩
    rw [hr.eq_of_ok hok]
    exact h.2.imp_right fun h => ⟨h.1, fun hb => (by cases hb)⟩
  · rw [Bool.not_eq_true] at hneed
    rw [← hneed]
    exact h.2

theorem works_rollbackStorage (id : Int) (needDelStorage : Bool) :
    Works b id (fun r => Idle id r ∧ Known needDelStorage false r)
      (inCase needDelStorage (sendToStorageAccountRemove b id) (.ok ()))
      fun errCode r => Idle id r ∧ (errCode = .ok () → r.hasUsers = true → r.kept = true) := by
  have hnone : ∀ r, Known false false r → r.hasUsers = true → r.kept = true := by
    intro r h husers
    rw [Stores.hasUsers, Bool.or_eq_true] at husers
    rcases h with h | h
    · exact h
    · rcases husers with hs | hb
      · cases h.1 hs
      · cases h.2 hb
  refine Works.ite (fun _ => Works.of_forall fun r₀ _ h => ?_) fun hneed => Works.pure fun r _ h => ⟨h.1, fun _ => ?_⟩
  · refine (works_sendToStorageAccountRemove h.1).weaken (fun _ _ h => h) fun errCode r _ hr =>
      ⟨hr.idle h.1 rfl, fun hok => ?_⟩
    rw [hr.eq_of_ok hok]
    exact hnone _ (h.2.imp_right fun h => ⟨fun hs => (by cases hs), h.2⟩)
  · rw [Bool.not_eq_true] at hneed
    rw [hneed] at h
    exact hnone r h.2

def Rollable (osAccountInfo : OsAccountInfo) (needDelStorage needDelBms : Bool) (r : Stores) : Prop :=
  Idle osAccountInfo.localId r ∧ (osAccountInfo.isDataRemovable = true → Known needDelStorage needDelBms r)

theorem works_rollbackOsAccount (osAccountInfo : OsAccountInfo) (needDelStorage needDelBms : Bool) :
    Works b osAccountInfo.localId (Rollable osAccountInfo needDelStorage needDelBms)
      (rollbackOsAccount b osAccountInfo needDelStorage needDelBms) fun _ => Idle osAccountInfo.localId := by
  refine works_checked (quiet_deleteFromTee.works _) (fun _ _ => Works.pure fun _ _ h => h.1) ?_
  refine Works.ite (fun _ => ?_) fun hremovable => ?_
  · have hkeep : Works b osAccountInfo.localId (Rollable osAccountInfo needDelStorage needDelBms)
        (act osAccountInfo.localId .keepData)
        fun _ r => Idle osAccountInfo.localId r ∧ (r.hasUsers = true → r.kept = true) :=
      Works.act fun r hr h f _ => ⟨hr.keep, h.1.of_record rfl, fun _ => rfl⟩
    exact Works.bind hkeep fun _ => Works.bind works_delIdle fun _ => Works.pure fun _ _ h => h
  · have hremovable : osAccountInfo.isDataRemovable = true := by simpa using hremovable
    have hstart : ∀ r, Backed b osAccountInfo.localId r → Rollable osAccountInfo needDelStorage needDelBms r →
        Idle osAccountInfo.localId r ∧ Known needDelStorage needDelBms r := fun r _ h => ⟨h.1, h.2 hremovable⟩
    refine works_checked ((works_rollbackBundle _ needDelStorage needDelBms).weaken hstart fun _ _ _ h => h)
      (fun _ _ => Works.pure fun _ _ h => h.1) ?_
    have hstorage := works_rollbackStorage (b := b) osAccountInfo.localId needDelStorage
    refine works_checked (hstorage.weaken (fun r _ h => ⟨h.1, h.2 rfl⟩) fun _ _ _ h => h)
      (fun _ _ => Works.pure fun _ _ h => h.1) ?_
    refine Works.ite (fun _ => Works.pure fun _ _ h => h.1) fun _ => ?_
    exact Works.bind (works_delIdle.weaken (fun r _ h => ⟨h.1, h.2 rfl⟩) fun _ _ _ h => h) fun _ =>
      Works.pure fun _ _ h => h

structure Bare (osAccountInfo : OsAccountInfo) (r : Stores) : Prop where
  idle : Idle osAccountInfo.localId r
  recorded : r.record.isSome ∨ r.kept = true
  userless : osAccountInfo.isDataRemovable = true → r.hasUsers = true → r.kept = true

structure Stored (b : Build) (osAccountInfo : OsAccountInfo) (r : Stores) : Prop where
  idle : Idle osAccountInfo.localId r
  recorded : r.record.isSome ∨ r.kept = true
  storage : r.storageUser = b.hasStoragePart
  userless : osAccountInfo.isDataRemovable = true → r.bundleUser = true → r.kept = true

structure Served (b : Build) (osAccountInfo : OsAccountInfo) (r : Stores) : Prop where
  idle : Idle osAccountInfo.localId r
  recorded : r.record.isSome ∨ r.kept = true
  storage : r.storageUser = b.hasStoragePart
  bundle : r.bundleUser = true

def Reaches (S S' : Stores → Prop) (errCode : Ret) (r : Stores) : Prop :=
  (errCode = .ok () → S' r) ∧ (errCode ≠ .ok () → S r)

theorem works_prepareAddUser (hb : b.hasStoragePart = true) :
    Works b osAccountInfo.localId (Bare osAccountInfo) (act osAccountInfo.localId .prepareAddUser)
      (Reaches (Bare osAccountInfo) (Stored b osAccountInfo)) := by
  refine Works.act fun r hr h f hf => ?_
  refine changes_ensures_of_credible
    (P := fun x => Backed b osAccountInfo.localId x.2 ∧ Reaches (Bare osAccountInfo) (Stored b osAccountInfo) x.1 x.2)
    hf ?_ ?_
  · refine ⟨hr.addStorage hb h.recorded, fun _ => ⟨h.idle.of_record rfl, h.recorded, hb.symm, ?_⟩, fun hne =>
      absurd rfl hne⟩
    intro hremovable hbundle
    exact h.userless hremovable (by rw [Stores.hasUsers, show r.bundleUser = true from hbundle, Bool.or_true])
  · exact fun e _ => ⟨hr, fun h => (by cases h), fun _ => h⟩

theorem works_innerSendToStorageAccountCreate :
    Works b osAccountInfo.localId (Bare osAccountInfo) (innerSendToStorageAccountCreate b osAccountInfo.localId)
      (Reaches (Bare osAccountInfo) (Stored b osAccountInfo)) := by
  refine Works.ite (fun hb => Works.pure fun r hr h => ⟨fun _ => ?_, fun hne => absurd rfl hne⟩) fun hb => ?_
  · refine ⟨h.idle, h.recorded, ?_, fun hremovable hbundle => h.userless hremovable ?_⟩
    · rw [storageUser_of_not hr hb]
      simpa using hb
    · rw [Stores.hasUsers, hbundle, Bool.or_true]
  have hb : b.hasStoragePart = true := by simpa using hb
  refine works_checked ((quiet_ret _).works _)
    (fun _ herr => Works.pure fun r _ h => ⟨fun hok => absurd hok herr, fun _ => h⟩) ?_
  refine Works.bind (works_prepareAddUser hb) fun err => ?_
  refine Works.ite (fun hok => Works.pure fun r _ h => ⟨fun _ => h.1 hok, fun hne => absurd rfl hne⟩) fun herr => ?_
  refine Works.bind (((quiet_cleanGarbageOsAccounts osAccountInfo.localId).works (Bare osAccountInfo)).weaken
    (fun r _ h => h.2 herr) fun _ _ _ h => h) fun n => ?_
  refine Works.ite (fun _ => Works.pure fun r _ h => ⟨fun hok => absurd hok herr, fun _ => h⟩) fun _ => ?_
  exact works_prepareAddUser hb

variable {errCode : Ret}

theorem works_sendToStorageAccountCreate {n : Nat} (h : n = 0 → errCode ≠ .ok ()) :
    Works b osAccountInfo.localId (Bare osAccountInfo) (sendToStorageAccountCreate b osAccountInfo.localId n errCode)
      (Reaches (Bare osAccountInfo) (Stored b osAccountInfo)) := by
  induction n generalizing errCode with
  | zero => exact Works.pure fun r _ hr => ⟨fun hok => absurd hok (h rfl), fun _ => hr⟩
  | succ n ih =>
      refine Works.bind works_innerSendToStorageAccountCreate fun errCode => ?_
      refine Works.ite (fun _ => Works.pure fun _ _ h => h) fun hretry => ?_
      have herr : errCode ≠ .ok () := by
        rintro rfl
        exact hretry ⟨fun h => (by cases h), fun h => (by cases h)⟩
      exact (ih fun _ => herr).weaken (fun r _ h => h.2 herr) fun _ _ _ h => h

theorem works_createNewUser :
    Works b osAccountInfo.localId (Stored b osAccountInfo) (act osAccountInfo.localId .createNewUser)
      (Reaches (Stored b osAccountInfo) (Served b osAccountInfo)) := by
  refine Works.act fun r hr h f hf => ?_
  refine changes_ensures_of_credible
    (P := fun x => Backed b osAccountInfo.localId x.2 ∧
      Reaches (Stored b osAccountInfo) (Served b osAccountInfo) x.1 x.2) hf ?_ ?_
  · exact ⟨hr.addBundle h.recorded, fun _ => ⟨h.idle.of_record rfl, h.recorded, h.storage, rfl⟩, fun hne =>
      absurd rfl hne⟩
  · exact fun e _ => ⟨hr, fun h => (by cases h), fun _ => h⟩

theorem works_sendToBMSAccountCreate {n : Nat} (h : n = 0 → errCode ≠ .ok ()) :
    Works b osAccountInfo.localId (Stored b osAccountInfo) (sendToBMSAccountCreate osAccountInfo.localId n errCode)
      (Reaches (Stored b osAccountInfo) (Served b osAccountInfo)) := by
  induction n generalizing errCode with
  | zero => exact Works.pure fun r _ hr => ⟨fun hok => absurd hok (h rfl), fun _ => hr⟩
  | succ n ih =>
      refine Works.bind works_createNewUser fun (errCode : Ret) => ?_
      refine Works.ite (fun _ => Works.pure fun _ _ h => h) fun hretry => ?_
      have herr : errCode ≠ .ok () := by
        rintro rfl
        exact hretry ⟨fun h => (by cases h), fun h => (by cases h)⟩
      exact (ih fun _ => herr).weaken (fun r _ h => h.2 herr) fun _ _ _ h => h

theorem works_rollbackServed {needInfo : OsAccountInfo} (hid : needInfo.localId = osAccountInfo.localId) :
    Works b osAccountInfo.localId (Served b osAccountInfo) (rollbackOsAccount b needInfo true true)
      fun _ => Idle osAccountInfo.localId := by
  have hrollback := works_rollbackOsAccount (b := b) needInfo true true
  rw [hid] at hrollback
  refine hrollback.weaken (fun r _ h => ⟨?_, fun _ => .inr ⟨fun _ => rfl, fun _ => rfl⟩⟩) fun _ _ _ h => h
  rw [hid]
  exact h.idle

theorem works_finalizeAccountCreate :
    Works b osAccountInfo.localId (Served b osAccountInfo) (finalizeAccountCreate b osAccountInfo) fun _ _ => True := by
  refine works_checked ((quiet_ret _).works _) (fun _ _ => ?_) ?_
  · exact Works.bind (works_rollbackServed rfl) fun _ => Works.pure fun _ _ _ => trivial
  have hupdate : Works b osAccountInfo.localId (Served b osAccountInfo)
      (updateOsAccount { osAccountInfo with isCreateCompleted := true })
      (Wrote (Served b osAccountInfo) { osAccountInfo with isCreateCompleted := true }) :=
    works_updateOsAccount rfl fun r _ h _ _ => .inr ⟨h.storage, h.bundle⟩
  refine works_checked hupdate (fun errCode herr => ?_) ?_
  · have hrollback : Works b osAccountInfo.localId (Served b osAccountInfo)
        (rollbackOsAccount b { osAccountInfo with isCreateCompleted := true } true true)
        fun _ => Idle osAccountInfo.localId := works_rollbackServed rfl
    refine Works.bind (hrollback.weaken (fun r _ h => ?_) fun _ _ _ h => h) fun _ => Works.pure fun _ _ _ => trivial
    rcases h with ⟨hok, -⟩ | ⟨-, -, h⟩
    · exact absurd hok herr
    · exact h
  · exact Works.bind ((quiet_ret _).works _) fun _ => Works.pure fun _ _ _ => trivial

theorem Bare.rollable {r : Stores} (h : Bare osAccountInfo r) : Rollable osAccountInfo false false r := by
  refine ⟨h.idle, fun hremovable => ?_⟩
  by_cases hkept : r.kept = true
  · exact .inl hkept
  · refine .inr ⟨fun hs => absurd (h.userless hremovable ?_) hkept, fun hb => absurd (h.userless hremovable ?_) hkept⟩
    · rw [Stores.hasUsers, hs, Bool.true_or]
    · rw [Stores.hasUsers, hb, Bool.or_true]

theorem Stored.rollable {r : Stores} (h : Stored b osAccountInfo r) : Rollable osAccountInfo true false r := by
  refine ⟨h.idle, fun hremovable => ?_⟩
  by_cases hkept : r.kept = true
  · exact .inl hkept
  · exact .inr ⟨fun _ => rfl, fun hb => absurd (h.userless hremovable hb) hkept⟩

theorem works_rollbackReached {S S' : Stores → Prop} {needDelStorage needDelBms : Bool} {errCode res : Ret}
    (herr : errCode ≠ .ok ()) (hS : ∀ r, S r → Rollable osAccountInfo needDelStorage needDelBms r) :
    Works b osAccountInfo.localId (Reaches S S' errCode)
      (do rollbackOsAccount b osAccountInfo needDelStorage needDelBms; return res) fun _ _ => True := by
  have hrollback := works_rollbackOsAccount (b := b) osAccountInfo needDelStorage needDelBms
  exact Works.bind (hrollback.weaken (fun r _ h => hS r (h.2 herr)) fun _ _ _ h => h) fun _ =>
    Works.pure fun _ _ _ => trivial

theorem works_sendMsgForAccountCreate (osAccountInfo : OsAccountInfo) :
    Works b osAccountInfo.localId (Bare osAccountInfo) (sendMsgForAccountCreate b osAccountInfo) fun _ _ => True := by
  refine works_checked (works_sendToStorageAccountCreate fun h => (by cases h))
    (fun _ herr => works_rollbackReached herr fun _ h => h.rollable) ?_
  have hbms : Works b osAccountInfo.localId (Stored b osAccountInfo)
      (sendToBMSAccountCreate osAccountInfo.localId maxRetryTimes (.ok ()))
      (Reaches (Stored b osAccountInfo) (Served b osAccountInfo)) := works_sendToBMSAccountCreate fun h => (by cases h)
  refine works_checked (hbms.weaken (fun r _ h => h.1 rfl) fun _ _ _ h => h)
    (fun _ herr => works_rollbackReached herr fun _ h => h.rollable) ?_
  have hinstall : Works b osAccountInfo.localId (Served b osAccountInfo) (ret .checkHighestHapInstallForCreate)
      fun _ => Served b osAccountInfo := (quiet_ret _).works _
  refine works_checked (hinstall.weaken (fun r _ h => h.1 rfl) fun _ _ _ h => h) (fun _ _ => ?_)
    works_finalizeAccountCreate
  exact Works.bind (works_rollbackServed rfl) fun _ => Works.pure fun _ _ _ => trivial

theorem quiet_insertOsAccountTypeToTee : Quiet b (insertOsAccountTypeToTee b) := by
  refine Quiet.bind (quiet_ret _) fun errCode => Quiet.ite (fun _ => Quiet.pure _) fun _ => ?_
  refine Quiet.bind (quiet_cleanGarbageOsAccounts _) fun n => Quiet.ite (fun _ => quiet_ret _) fun _ => Quiet.pure _

variable (c : Creation)

theorem quiet_handleCreateOsAccountToken : Quiet b (handleCreateOsAccountToken b c) :=
  Quiet.ite (fun _ => quiet_insertOsAccountTypeToTee) fun _ => Quiet.pure _

theorem quiet_checkAndCleanOsAccounts : Quiet b (checkAndCleanOsAccounts b) :=
  Quiet.bind (quiet_flag _) fun _ =>
    Quiet.ite (fun _ => Quiet.pure _) fun _ => Quiet.bind (quiet_cleanGarbageOsAccounts _) fun _ => Quiet.pure _

theorem quiet_assignSpecifiedLocalId (specifiedId : Int) : Quiet b (assignSpecifiedLocalId b specifiedId) := by
  refine Quiet.ite (fun _ => Quiet.pure _) fun _ => Quiet.bind (quiet_ask _) fun answer => ?_
  refine Quiet.ite (fun _ => Quiet.pure _) fun _ => Quiet.ite (fun _ => Quiet.pure _) fun _ => ?_
  refine Quiet.bind (quiet_cleanGarbageOsAccounts _) fun _ => Quiet.bind (quiet_ask _) fun answer => ?_
  refine Quiet.ite (fun _ => Quiet.pure _) fun _ => Quiet.ite (fun _ => Quiet.pure _) fun _ => ?_
  exact quiet_retWithAccountList _

theorem quiet_newLocalId : Quiet b (newLocalId b c) := by
  refine Quiet.ite (fun _ => Quiet.pure _) fun _ => ?_
  cases c.specifiedId with
  | none => exact Quiet.bind (quiet_askWithAccountList _) fun _ => Quiet.pure _
  | some specifiedId => exact Quiet.bind (quiet_assignSpecifiedLocalId specifiedId) fun _ => Quiet.pure _

def New (osAccountInfo : OsAccountInfo) : Prop := isLive osAccountInfo = false ∧ osAccountInfo.isDataRemovable = true

theorem yields_fillOsAccountInfo :
    MarkedResources.Yields (discipline b) (fun x => x.1 = .ok () → New x.2) (fillOsAccountInfo b c) := by
  refine Yields.bind (quiet_retWithAccountList _) fun errCode =>
    Yields.ite (fun herr => Yields.pure fun h => absurd h herr) fun _ => ?_
  refine Yields.bind (quiet_newLocalId c) fun x =>
    Yields.ite (fun herr => Yields.pure fun h => absurd h herr) fun _ => ?_
  refine Yields.bind (quiet_ret _) fun errCode => Yields.ite (fun herr => Yields.pure fun h => absurd h herr) fun _ => ?_
  exact Yields.bind (quiet_flag _) fun isSaCall => Yields.bind (quiet_ret _) fun errCode =>
    Yields.pure fun _ => ⟨rfl, rfl⟩

/-- After the preparation the account is in hand with its record, or the preparation failed. -/
def Prepared (answer : Ret × OsAccountInfo) (r : Option Stores) : Prop :=
  answer.1 = .ok () → New answer.2 ∧ ∃ r', r = some r' ∧ Bare answer.2 r'

theorem bare_of_inserted {r : Stores} (h : Inserted (fun _ => True) osAccountInfo errCode r)
    (hok : errCode = .ok ()) (hnew : New osAccountInfo) : Bare osAccountInfo r := by
  obtain ⟨hrecord, husers⟩ := h.fresh hok
  refine ⟨fun info hinfo hlive => ?_, .inl (h.recorded (.inl hok)), fun _ => husers⟩
  obtain rfl := Option.some.inj (hrecord.symm.trans hinfo)
  rw [hnew.1] at hlive
  cases hlive

theorem New.mayBeIdle (h : New osAccountInfo) : MayBeIdle osAccountInfo.localId osAccountInfo := by
  refine ⟨rfl, fun hlive => ?_⟩
  rw [h.1] at hlive
  cases hlive

theorem takes_operating {key : α → Int} {P : α → Option Stores → Prop} {p q : Step α}
    (hq : Takes (discipline b) key P q)
    (hp : Works b id (fun _ => True) p fun a r => key a = id ∧ P a (some r)) :
    Takes (discipline b) key P (do if !(← checkAndAddLocalIdOperating id) then q else p) :=
  Takes.mark (f := fun marked => if !marked then q else p) hq hp

theorem takes_prepareOsAccountInfo :
    Takes (discipline b) (fun answer => answer.2.localId) Prepared (prepareOsAccountInfo b c) := by
  apply Ensures.bind
  refine (yields_fillOsAccountInfo c _).mono ?_
  rintro ⟨errCode, osAccountInfo⟩ held ⟨rfl, hnew⟩
  refine Takes.ite (fun herr => Takes.pure fun h => absurd h herr) fun hok => ?_
  have hnew : New osAccountInfo := hnew (not_not.mp hok)
  refine Takes.before (quiet_ret _) fun errCode => Takes.ite (fun herr => Takes.pure fun h => absurd h herr) fun _ => ?_
  refine Takes.before (quiet_ret _) fun errCode => Takes.ite (fun _ => Takes.pure fun h => (by cases h)) fun _ => ?_
  refine Takes.ite (fun herr => Takes.pure fun h => absurd h herr) fun _ => ?_
  refine takes_operating (Takes.pure fun h => (by cases h)) ?_
  have hinsert := works_insertOsAccount (b := b) (P := fun _ => True) hnew.mayBeIdle (fun _ _ => trivial)
    fun _ _ => trivial
  refine Works.bind hinsert fun errCode =>
    Works.ite (fun herr => Works.pure fun r _ _ => ⟨rfl, fun h => absurd h herr⟩) ?_
  intro hok
  refine Works.bind ((quiet_ret _).works _) fun errCode => Works.pure fun r _ h => ⟨rfl, fun _ => ⟨hnew, r, rfl, ?_⟩⟩
  exact bare_of_inserted h (not_not.mp hok) hnew

theorem proper_createOsAccountOverload {rest : OsAccountInfo → Step Ret}
    (hrest : ∀ osAccountInfo, Finishes b osAccountInfo.localId (Bare osAccountInfo) (rest osAccountInfo)) :
    Proper b (createOsAccountOverload b c rest) := by
  refine Proper.bind (quiet_flag _).proper fun _ => Proper.ite (fun _ => (Quiet.pure _).proper) fun _ => ?_
  refine Proper.bind (quiet_flag _).proper fun _ => ?_
  refine Proper.bind (quiet_inCase quiet_checkAndCleanOsAccounts _ _).proper fun _ => ?_
  refine Proper.ite (fun _ => (Quiet.pure _).proper) fun _ => Takes.proper (takes_prepareOsAccountInfo _) ?_
  rintro ⟨errCode, osAccountInfo⟩ o ho h
  dsimp only
  split
  · exact Function.update_idem _ _ _ |>.trans (Function.update_eq_self _ _)
  · rename_i hok
    obtain ⟨-, r, rfl, hbare⟩ := h (not_not.mp hok)
    exact (hrest osAccountInfo).taken (ho r rfl) hbare

theorem proper_createOsAccount : Proper b (createOsAccount b c) :=
  proper_createOsAccountOverload c fun _ => Works.finishes (works_sendMsgForAccountCreate _) fun _ => finishes_exit _ _

theorem proper_createOsAccountWithOptions : Proper b (createOsAccountWithOptions b c) := by
  refine proper_createOsAccountOverload c fun osAccountInfo => ?_
  refine finishes_checked ((quiet_inCase (quiet_handleCreateOsAccountToken c) _ _).works _)
    (fun _ => finishes_exit _ _) ?_
  exact Works.finishes (works_sendMsgForAccountCreate _) fun _ => finishes_exit _ _

theorem works_clearTheWay (h : MayBeIdle osAccountInfo.localId osAccountInfo) :
    Works b osAccountInfo.localId (fun _ => True) (clearTheWay b osAccountInfo)
      fun errCode r => errCode = .ok () → Idle osAccountInfo.localId r := by
  refine Works.bind works_getOsAccountInfoById ?_
  rintro ⟨errCode, oldInfo⟩
  refine Works.ite (fun hmissing => Works.pure fun r _ h _ => idle_of_record_none (h.2.2 hmissing)) fun _ => ?_
  refine Works.ite (fun herr => Works.pure fun r _ _ hok => absurd hok herr) fun hok => ?_
  have hidle : isLive oldInfo = false →
      ∀ r, Read (fun _ => True) (errCode, oldInfo) r → Idle osAccountInfo.localId r := by
    intro hdead r h
    refine idle_of_read h (.inl (not_not.mp hok)) fun _ hlive => ?_
    rw [hdead] at hlive
    cases hlive
  refine Works.ite (fun hdead => Works.pure fun r _ h _ => hidle ?_ r h) fun _ =>
    Works.ite (fun hdead => ?_) fun _ => ?_
  · rw [isLive, Bool.and_eq_false_iff]
    exact .inl (by simpa using hdead)
  · refine (works_removeOsAccountOperate fun _ => h).weaken (fun r _ h => hidle ?_ r h) fun _ _ _ h _ => h
    rw [isLive, hdead, Bool.not_true, Bool.and_false]
  · exact Works.pure fun r _ _ h => (by cases h)

theorem works_prepareOsAccountInfoWithFullInfo (osAccountInfo : OsAccountInfo)
    (hdead : isLive osAccountInfo = false) (hkeep : osAccountInfo.isDataRemovable = false) :
    Works b osAccountInfo.localId (Idle osAccountInfo.localId) (prepareOsAccountInfoWithFullInfo osAccountInfo)
      fun errCode r => errCode = .ok () → Bare osAccountInfo r := by
  have hmay : MayBeIdle osAccountInfo.localId osAccountInfo := ⟨rfl, fun hlive => (by rw [hdead] at hlive; cases hlive)⟩
  refine works_checked ((quiet_retWithAccountList _).works _) (fun _ herr => Works.pure fun _ _ _ h => absurd h herr) ?_
  refine works_checked ((quiet_retWithAccountList _).works _) (fun _ herr => Works.pure fun _ _ _ h => absurd h herr) ?_
  have hinsert := works_insertOsAccount (b := b) (P := Idle osAccountInfo.localId) hmay (fun _ h => h.of_record rfl)
    fun _ _ => Idle.write hmay
  refine Works.bind hinsert fun errCode =>
    Works.ite (fun herr => Works.pure fun _ _ _ h => absurd h herr.1) fun hok => ?_
  refine works_checked ((quiet_ret _).works _) (fun _ herr => Works.pure fun _ _ _ h => absurd h herr) ?_
  refine ((quiet_ret _).works _).weaken (fun _ _ h => h) fun _ r _ h _ => ⟨h.kept, .inl (h.recorded ?_), ?_⟩
  · exact (not_and_or.mp hok).imp not_not.mp not_not.mp
  · intro hremovable
    rw [hkeep] at hremovable
    cases hremovable

theorem quiet_createOsAccountWithFullInfo {c : Creation} (h : MayBeIdle c.osAccountInfo.localId c.osAccountInfo) :
    Quiet b (createOsAccountWithFullInfo b c) := by
  refine Quiet.bind (quiet_flag _) fun _ => Quiet.ite (fun _ => Quiet.pure _) fun _ => quiet_operating (Quiet.pure _) ?_
  refine finishes_checked (works_clearTheWay h) (fun _ => finishes_exit _ _) ?_
  have hprepare : Works b c.osAccountInfo.localId (Idle c.osAccountInfo.localId)
      (prepareOsAccountInfoWithFullInfo (begun c)) fun errCode r => errCode = .ok () → Bare (begun c) r :=
    works_prepareOsAccountInfoWithFullInfo (begun c) rfl rfl
  have hsend : Works b c.osAccountInfo.localId (Bare (begun c)) (sendMsgForAccountCreate b (begun c)) fun _ _ => True :=
    works_sendMsgForAccountCreate (begun c)
  refine finishes_checked (hprepare.weaken (fun r _ h => h rfl) fun _ _ _ h => h) (fun _ => finishes_exit _ _) ?_
  refine finishes_checked ((quiet_inCase quiet_insertOsAccountTypeToTee _ _).works _) (fun _ => finishes_exit _ _) ?_
  exact Works.finishes (hsend.weaken (fun r _ h => h rfl) fun _ _ _ h => h) fun _ => finishes_exit _ _

end creations

section bindings

variable {b : Build} {id : Int} {osAccountInfo : OsAccountInfo}

theorem works_expect {P : Stores → Prop} (e : Expectation) :
    Works b id P (act id (.expect e)) fun _ r => P r ∧ Granted b e r :=
  Works.act fun _ hr hP _ he => ⟨hr, hP, he⟩

theorem idle_of_expectation {r : Stores} (h : Granted b (.asRead osAccountInfo) r)
    (hdead : isLive osAccountInfo = false) : Idle id r := by
  intro info hinfo hlive
  rw [h info hinfo, hdead] at hlive
  cases hlive

theorem quiet_staysBound (osAccountInfo : OsAccountInfo) : Quiet b (staysBound b osAccountInfo) := by
  refine Quiet.ite (fun _ => Quiet.pure _) fun hdead => quiet_operating (Quiet.pure _) ?_
  refine Works.finishes (works_expect _) fun _ => ?_
  refine Works.finishes ((works_removeOsAccountOperate fun h => (by cases h)).weaken (fun r _ h => ?_) fun _ _ _ h => h)
    fun _ => finishes_exit _ _
  exact idle_of_expectation h.2 (Bool.not_eq_true _ ▸ hdead)

theorem quiet_anyStaysBound (osAccountInfos : List OsAccountInfo) : Quiet b (anyStaysBound b osAccountInfos) := by
  induction osAccountInfos with
  | nil => exact Quiet.pure false
  | cons osAccountInfo osAccountInfos ih =>
      exact Quiet.bind (quiet_staysBound osAccountInfo) fun _ => Quiet.bind ih fun _ => Quiet.pure _

theorem quiet_checkDomainAccountBound : Quiet b (checkDomainAccountBound b) := by
  refine Quiet.bind (quiet_ask _) fun answer => Quiet.ite (fun _ => Quiet.pure _) fun _ => ?_
  exact Quiet.bind (quiet_anyStaysBound answer.infos) fun _ => Quiet.pure _

theorem proper_bindFirstAccount (osAccountInfo : OsAccountInfo) : Proper b (bindFirstAccount osAccountInfo) := by
  refine Proper.enter (Works.finishes (works_expect _) fun _ => ?_)
  have hupdate : Works b osAccountInfo.localId (fun r => True ∧ Granted b (.asRead osAccountInfo) r)
      (updateOsAccount osAccountInfo) (Wrote (fun r => True ∧ Granted b (.asRead osAccountInfo) r) osAccountInfo) := by
    refine works_updateOsAccount rfl fun r hr h hsome hlive => ?_
    obtain ⟨info, hinfo⟩ := Option.isSome_iff_exists.mp hsome
    exact hr.served info hinfo ((h.2 info hinfo).trans hlive)
  refine Works.finishes hupdate fun _ => Finishes.leave ?_
  refine Quiet.ite (fun _ => Quiet.pure _) fun _ => Quiet.bind (quiet_ret _) fun _ => ?_
  exact Quiet.ite (fun _ => Quiet.pure _) fun _ => quiet_ret _

theorem works_handleUnbindDomainAccountFailed :
    Works b osAccountInfo.localId (fun _ => True) (handleUnbindDomainAccountFailed osAccountInfo) fun _ _ => True := by
  refine Works.bind ((quiet_ret _).works _) fun errCode => Works.ite (fun _ => Works.pure fun _ _ h => h) fun _ => ?_
  refine Works.bind (works_expect _) fun _ => Works.bind ?_ fun _ => Works.pure fun _ _ h => h
  exact works_delOsAccount (fun _ _ => trivial) fun _ _ => trivial

theorem works_onBindResult (hnew : New osAccountInfo) (bindResult : Ret) :
    Works b osAccountInfo.localId (Bare osAccountInfo) (onBindResult b osAccountInfo bindResult) fun _ _ => True := by
  refine Works.ite (fun _ => Works.pure fun _ _ _ => trivial) fun _ => Works.ite (fun _ => ?_) fun _ => ?_
  · have hdel : Works b osAccountInfo.localId (fun r => True ∧ (r.hasUsers = true → r.kept = true))
        (delOsAccount osAccountInfo.localId) fun _ _ => True :=
      works_delOsAccount (fun _ _ => trivial) fun _ _ => trivial
    exact Works.bind (hdel.weaken (fun r _ h => ⟨trivial, h.userless hnew.2⟩) fun _ _ _ h => h) fun _ =>
      Works.pure fun _ _ h => h
  refine Works.bind ((quiet_inCase (quiet_ret _) _ _).works _) fun errCode => Works.ite (fun _ => ?_) fun _ => ?_
  · exact Works.bind (works_handleUnbindDomainAccountFailed.weaken (fun _ _ _ => trivial) fun _ _ _ h => h) fun _ =>
      Works.pure fun _ _ h => h
  refine Works.bind (works_sendMsgForAccountCreate _) fun errCode => Works.bind ?_ fun _ => Works.pure fun _ _ h => h
  exact Works.ite (fun _ => works_handleUnbindDomainAccountFailed) fun _ => Works.pure fun _ _ h => h

theorem Bare.written {errCode : Ret} {r : Stores} (h : Wrote (Bare osAccountInfo) osAccountInfo errCode r)
    (hnew : New osAccountInfo) : Bare osAccountInfo r := by
  rcases h with ⟨-, r₀, h, rfl⟩ | ⟨-, -, h⟩
  · exact ⟨Idle.write hnew.mayBeIdle, .inl rfl, h.userless⟩
  · exact h

variable (c : Creation)

theorem proper_bindNewAccount : Proper b (bindNewAccount b c) := by
  refine Takes.proper (takes_prepareOsAccountInfo _) ?_
  rintro ⟨errCode, osAccountInfo⟩ o ho h
  dsimp only
  split
  · exact Function.update_idem _ _ _ |>.trans (Function.update_eq_self _ _)
  rename_i hok
  obtain ⟨hnew, r, rfl, hbare⟩ := h (not_not.mp hok)
  refine Finishes.taken (P := Bare osAccountInfo) ?_ (ho r rfl) hbare
  refine Works.finishes (Works.clear (Bare osAccountInfo) _) fun _ => ?_
  have hupdate : Works b osAccountInfo.localId (Bare osAccountInfo) (updateOsAccount osAccountInfo)
      (Wrote (Bare osAccountInfo) osAccountInfo) :=
    works_updateOsAccount rfl fun r _ _ _ hlive => .inl (hnew.mayBeIdle.2 hlive)
  refine finishes_checked (hupdate.weaken (fun _ _ h => h) fun _ _ _ h => Bare.written h hnew)
    (fun _ => Finishes.leave (Quiet.pure _)) ?_
  refine finishes_checked ((quiet_ret _).works _) (fun _ => Finishes.leave (Quiet.pure _)) ?_
  refine Works.finishes ((quiet_ret _).works _) fun bindResult => ?_
  exact Works.finishes (works_onBindResult hnew bindResult) fun _ => Finishes.leave (Quiet.pure _)

theorem quiet_isCreationConstrained : Quiet b (isCreationConstrained b) :=
  Quiet.ite (fun _ => Quiet.bind (quiet_ask _) fun _ => Quiet.pure _) fun _ => Quiet.pure _

theorem proper_bindDomainAccount : Proper b (bindDomainAccount b c) := by
  refine Proper.bind quiet_checkDomainAccountBound.proper fun x => ?_
  refine Proper.ite (fun _ => (Quiet.pure _).proper) fun _ => Proper.ite (fun _ => (Quiet.pure _).proper) fun _ => ?_
  refine Proper.bind quiet_isCreationConstrained.proper fun y => Proper.ite (fun _ => (Quiet.pure _).proper) fun _ => ?_
  refine Proper.bind (quiet_ask _).proper fun answer => Proper.ite (fun _ => (Quiet.pure _).proper) fun _ => ?_
  cases firstToBind y.2 answer.infos with
  | some osAccountInfo => exact Proper.bind (quiet_flag _).proper fun isSet => proper_bindFirstAccount _
  | none => exact Proper.ite (fun _ => proper_bindNewAccount c) fun _ => (Quiet.pure _).proper

theorem proper_onDomainAccountInfo : Proper b (onDomainAccountInfo b c) := by
  refine Proper.bind (quiet_ask _).proper fun answer => Proper.ite (fun _ => (Quiet.pure _).proper) fun _ => ?_
  exact Proper.ite (fun _ => (Quiet.pure _).proper) fun _ => proper_bindDomainAccount _

theorem quiet_isOversize : Quiet b isOversize :=
  Quiet.bind (quiet_flag _) fun _ => Quiet.ite (fun _ => Quiet.pure _) fun _ => quiet_flag _

theorem proper_createOsAccountForDomain : Proper b (createOsAccountForDomain b c) := by
  refine Proper.bind (quiet_flag _).proper fun _ => Proper.ite (fun _ => (Quiet.pure _).proper) fun _ => ?_
  refine Proper.bind quiet_checkDomainAccountBound.proper fun x => ?_
  refine Proper.ite (fun _ => (Quiet.pure _).proper) fun _ => Proper.ite (fun _ => (Quiet.pure _).proper) fun _ => ?_
  refine Proper.bind (quiet_ret _).proper fun _ => Proper.ite (fun _ => (Quiet.pure _).proper) fun _ => ?_
  refine Proper.bind quiet_isOversize.proper fun _ => Proper.ite (fun _ => (Quiet.pure _).proper) fun _ => ?_
  refine Proper.bind (quiet_ret _).proper fun _ => Proper.ite (fun _ => (Quiet.pure _).proper) fun _ => ?_
  exact proper_onDomainAccountInfo c

end bindings

section operators

variable {b : Build} {id : Int} {osAccountInfo : OsAccountInfo} {α : Type}

theorem works_writeBack {P : Stores → Prop} {info : OsAccountInfo} (hid : info.localId = osAccountInfo.localId)
    (hserved : ∀ r, Backed b id r → P r → isLive info = true →
      id = adminLocalId ∨ (r.storageUser = b.hasStoragePart ∧ r.bundleUser = true)) :
    Works b id (fun r => r.record = some osAccountInfo ∧ P r) (updateOsAccount info)
      (Wrote (fun r => r.record = some osAccountInfo ∧ P r) info) := by
  refine Works.of_forall fun r₀ hr₀ h => ?_
  have hinfo : info.localId = id := hid.trans (hr₀.named osAccountInfo h.1)
  refine (works_updateOsAccount (P := fun r => r.record = some osAccountInfo ∧ P r) hinfo fun r hr h _ hlive =>
    hserved r hr h.2 hlive).weaken (fun r _ hr => ?_) fun _ _ _ h => h
  rw [hr]
  exact h

theorem finishes_onRecord {errCode : Ret} {p q : Step α}
    (hp : Finishes b id (Read (fun _ => True) (errCode, osAccountInfo)) p)
    (hq : Finishes b id (fun r => r.record = some osAccountInfo) q) :
    Finishes b id (Read (fun _ => True) (errCode, osAccountInfo)) (if errCode ≠ .ok () then p else q) :=
  Finishes.ite (fun _ => hp) fun hok => hq.weaken fun _ _ h => h.2.1 (not_not.mp hok)

theorem quiet_removeOsAccount (id : Int) : Quiet b (removeOsAccount b id) := by
  refine quiet_operating (Quiet.pure _) (Works.finishes works_getOsAccountInfoById ?_)
  rintro ⟨errCode, osAccountInfo⟩
  refine finishes_onRecord (finishes_exit _ _) ?_
  refine finishes_checked ((quiet_ret _).works _) (fun _ => finishes_exit _ _) ?_
  have hdead : isLive { osAccountInfo with toBeRemoved := true } = false := Bool.and_false _
  have hwrite : Works b id (fun r => r.record = some osAccountInfo ∧ True)
      (updateOsAccount { osAccountInfo with toBeRemoved := true })
      (Wrote (fun r => r.record = some osAccountInfo ∧ True) { osAccountInfo with toBeRemoved := true }) := by
    refine works_writeBack rfl fun r _ _ hlive => ?_
    rw [hdead] at hlive
    cases hlive
  refine Works.finishes (hwrite.weaken (fun r _ h => ⟨h, trivial⟩) fun _ _ _ h => h) fun errCode => ?_
  refine Finishes.ite (fun _ => finishes_exit _ _) fun hwritten => Finishes.of_forall fun r₀ hr₀ h => ?_
  rcases h with ⟨-, r, h, rfl⟩ | ⟨herr, -⟩
  · have hid : osAccountInfo.localId = id := hr₀.named { osAccountInfo with toBeRemoved := true } rfl
    have hmay : MayBeIdle id { osAccountInfo with toBeRemoved := true } := by
      refine ⟨hid, fun hlive => ?_⟩
      rw [hdead] at hlive
      cases hlive
    have hremove : Works b id (Idle id) (removeOsAccountOperate b id { osAccountInfo with toBeRemoved := true } false)
        fun _ => Idle id := works_removeOsAccountOperate fun _ => hmay
    refine Works.finishes (hremove.weaken (fun r' _ h => ?_) fun _ _ _ h => h) fun _ => finishes_exit _ _
    rw [h]
    exact Idle.write hmay
  · exact absurd herr hwritten

theorem quiet_resetDefaultActivatedAccount : Quiet b resetDefaultActivatedAccount :=
  Quiet.bind (quiet_flag _) fun _ => Quiet.ite (fun _ => Quiet.pure _) fun _ => quiet_retWithAccountList _

theorem quiet_setOsAccountToBeRemoved (localId : Int) (toBeRemoved : Bool) :
    Quiet b (setOsAccountToBeRemoved localId toBeRemoved) := by
  refine quiet_operating (Quiet.pure _) (Works.finishes works_getOsAccountInfoById ?_)
  rintro ⟨errCode, osAccountInfo⟩
  refine finishes_onRecord (finishes_exit _ _) ?_
  refine finishes_checked ((quiet_inCase quiet_resetDefaultActivatedAccount _ _).works _) (fun _ => finishes_exit _ _) ?_
  have hexpect : Works b localId (fun r => r.record = some osAccountInfo)
      (inCase (!toBeRemoved) (act localId (.expect .users)) ())
      fun _ r => r.record = some osAccountInfo ∧
        (toBeRemoved = false → r.storageUser = b.hasStoragePart ∧ r.bundleUser = true) := by
    refine Works.ite (fun _ => (works_expect _).weaken (fun _ _ h => h) fun _ _ _ h => ⟨h.1, fun _ => h.2⟩)
      fun hkeep => ?_
    refine Works.pure fun r _ h => ⟨h, fun hfalse => ?_⟩
    rw [hfalse] at hkeep
    exact absurd rfl hkeep
  refine Works.finishes hexpect fun _ => ?_
  refine Works.finishes (works_writeBack rfl fun r _ h hlive => .inr (h ?_)) fun _ => finishes_exit _ _
  rw [isLive, Bool.and_eq_true] at hlive
  simpa using hlive.2

theorem quiet_deactivateOsAccount (id : Int) (isStopStorage : Bool) :
    Quiet b (deactivateOsAccount id isStopStorage) := by
  refine quiet_operating (Quiet.pure _) (Works.finishes works_getOsAccountInfoById ?_)
  rintro ⟨errCode, osAccountInfo⟩
  refine finishes_onRecord (finishes_exit _ _) ?_
  refine Works.finishes ((quiet_flag _).works _) fun _ => Finishes.ite (fun _ => finishes_exit _ _) fun _ => ?_
  refine finishes_checked ((quiet_ret _).works _) (fun _ => finishes_exit _ _) ?_
  have hsend : Works b id (fun r => r.record = some osAccountInfo ∧ r.record = some osAccountInfo)
      (sendMsgForAccountDeactivate osAccountInfo isStopStorage) fun _ _ => True := by
    refine works_checked ((quiet_ret _).works _) (fun _ _ => Works.pure fun _ _ _ => trivial) ?_
    refine works_checked ((quiet_inCase (quiet_ret _) _ _).works _) (fun _ _ => Works.pure fun _ _ _ => trivial) ?_
    exact Works.bind (works_writeBack rfl fun r hr h hlive => hr.served osAccountInfo h hlive) fun _ =>
      Works.pure fun _ _ _ => trivial
  exact Works.finishes (hsend.weaken (fun r _ h => ⟨h, h⟩) fun _ _ _ h => h) fun _ => finishes_exit _ _

theorem proper_createBaseAdminAccount : Proper b createBaseAdminAccount := by
  refine Proper.bind (quiet_flag _).proper fun _ => Proper.ite (fun _ => (Quiet.pure _).proper) fun _ => ?_
  have hinsert : Works b adminLocalId (fun _ => True)
      (insertOsAccount { localId := adminLocalId, isCreateCompleted := true, isActived := true })
      (Inserted (fun _ => True) { localId := adminLocalId, isCreateCompleted := true, isActived := true }) :=
    works_insertOsAccount ⟨rfl, fun _ => rfl⟩ (fun _ _ => trivial) fun _ _ => trivial
  exact Proper.enter (Works.finishes hinsert fun _ => Finishes.leave (Quiet.pure _))

theorem works_retryToInsertOsAccount (h : MayBeIdle id osAccountInfo) {n : Nat} {errCode : Ret}
    (hn : n = 0 → errCode ≠ .ok ()) :
    Works b id (Idle id) (retryToInsertOsAccount osAccountInfo n errCode)
      fun errCode r => Idle id r ∧ (errCode = .ok () → r.record.isSome) := by
  induction n generalizing errCode with
  | zero => exact Works.pure fun r _ hr => ⟨hr, fun hok => absurd hok (hn rfl)⟩
  | succ n ih =>
      have hinsert := works_insertOsAccount (b := b) h (fun _ h => h.of_record rfl) fun _ _ => Idle.write h
      refine Works.bind hinsert fun errCode => Works.ite (fun hstop => Works.pure fun r _ h => ⟨h.kept, fun _ => ?_⟩) ?_
      · exact h.recorded hstop
      · intro hretry
        exact (ih fun _ hok => hretry (.inl hok)).weaken (fun r _ h => h.kept) fun _ _ _ h => h

theorem proper_createBaseStandardAccount (id : Int) : Proper b (createBaseStandardAccount b id) := by
  refine Proper.bind (quiet_ret _).proper fun _ => Proper.ite (fun _ => (Quiet.pure _).proper) fun _ => ?_
  refine Proper.enter (Works.finishes (works_expect _) fun _ => ?_)
  have hmay : MayBeIdle id { localId := id, isDataRemovable := false } := ⟨rfl, fun h => (by cases h)⟩
  have hretry : Works b id (Idle id)
      (retryToInsertOsAccount { localId := id, isDataRemovable := false } maxInsertRetryTimes (.ok ()))
      fun errCode r => Idle id r ∧ (errCode = .ok () → r.record.isSome) :=
    works_retryToInsertOsAccount hmay fun h => (by cases h)
  refine Works.finishes (hretry.weaken (fun r _ h => idle_of_expectation h.2 rfl) fun _ _ _ h => h) fun errCode => ?_
  have hkeep : Works b id (fun r => Idle id r ∧ (errCode = .ok () → r.record.isSome))
      (inCase (errCode ≠ .ok ()) (act id .keepData) ())
      fun _ r => Bare { localId := id, isDataRemovable := false } r := by
    refine Works.ite (fun _ => Works.act fun r hr h _ _ => ?_) fun hok => Works.pure fun r _ h => ?_
    · exact ⟨hr.keep, h.1.of_record rfl, .inr rfl, fun h => (by cases h)⟩
    · exact ⟨h.1, .inl (h.2 (by simpa using hok)), fun h => (by cases h)⟩
  have hsend : Works b id (Bare { localId := id, isDataRemovable := false })
      (sendMsgForAccountCreate b { localId := id, isDataRemovable := false }) fun _ _ => True :=
    works_sendMsgForAccountCreate { localId := id, isDataRemovable := false }
  exact Works.finishes hkeep fun _ => Works.finishes hsend fun _ => Finishes.leave (Quiet.pure _)

theorem proper_createFirstAccount (n : Nat) : Proper b (createFirstAccount b n) := by
  induction n with
  | zero => exact (Quiet.pure _).proper
  | succ n ih =>
      refine Proper.bind (proper_createBaseStandardAccount startUserId) fun _ => ?_
      exact Proper.ite (fun _ => (Quiet.pure _).proper) fun _ => ih

end operators

/-- An account with a record of its own comes with one of an account that is not there to be used. -/
def Admissible : Op → Prop
  | .createOsAccountWithFullInfo c => MayBeIdle c.osAccountInfo.localId c.osAccountInfo
  | _ => True

theorem proper_program {b : Build} {op : Op} (h : Admissible op) : Proper b (program b op) := by
  have hdone : ∀ {α : Type} {p : Step α}, Proper b p → Proper b (do let _ ← p) := fun hp =>
    Proper.bind hp fun _ => (Quiet.pure _).proper
  cases op with
  | createBaseAdminAccount => exact proper_createBaseAdminAccount
  | createBaseStandardAccount id => exact hdone (proper_createBaseStandardAccount id)
  | createFirstAccount => exact hdone (proper_createFirstAccount _)
  | createOsAccount c => exact hdone (proper_createOsAccount c)
  | createOsAccountWithOptions c => exact hdone (proper_createOsAccountWithOptions c)
  | createOsAccountWithFullInfo c => exact hdone (quiet_createOsAccountWithFullInfo h).proper
  | createOsAccountForDomain c => exact hdone (proper_createOsAccountForDomain c)
  | removeOsAccount id => exact hdone (quiet_removeOsAccount id).proper
  | cleanGarbageOsAccounts excludeId => exact hdone (quiet_cleanGarbageOsAccounts excludeId).proper
  | setOsAccountToBeRemoved localId toBeRemoved => exact hdone (quiet_setOsAccountToBeRemoved localId toBeRemoved).proper
  | deactivateOsAccount id isStopStorage => exact hdone (quiet_deactivateOsAccount id isStopStorage).proper

abbrev State : Type := MarkedResources.State Int Stores Act Nat Act.Ret Reply

abbrev Event : Type := MarkedResources.Event Fault Nat Op Reply

def step (b : Build) : State → Event → State := MarkedResources.step (discipline b) (program b)

def booted (stores : Int → Stores) (accountIdList : List Int) : State :=
  { shared := ⟨stores, accountIdList, fun _ => false, fun _ => none⟩ }

def storesOf (s : State) (id : Int) : Stores :=
  { s.shared.resources id with listed := decide (id ∈ s.shared.list) }

def Undisturbed (b : Build) (s : State) (e : Event) : Prop := MarkedResources.Undisturbed (discipline b) s Admissible e

instance (b : Build) (e : Expectation) (r : Stores) : Decidable (Granted b e r) :=
  match e with
  | .asRead osAccountInfo => inferInstanceAs (Decidable (∀ info ∈ r.record, isLive info = isLive osAccountInfo))
  | .noUsers => inferInstanceAs (Decidable (r.hasUsers = true → r.kept = true))
  | .users => inferInstanceAs (Decidable (r.storageUser = b.hasStoragePart ∧ r.bundleUser = true))

instance (b : Build) (a : Act) (f : Fault) (r : Stores) : Decidable ((discipline b).credible a f r) :=
  match a with
  | .getOsAccountInfoById => inferInstanceAs (Decidable (f.failure = some .accountNotExistError → r.record = none))
  | .accountListFile => inferInstanceAs (Decidable (f.failure ≠ some .insertFileExistsError))
  | .inputFileByPathAndContent _ =>
      inferInstanceAs (Decidable ((f.failure.isSome → f.takes = false) ∧ f.failure ≠ some .insertFileExistsError))
  | .prepareAddUser | .createNewUser => inferInstanceAs (Decidable (f.failure.isSome → f.takes = false))
  | .expect e => inferInstanceAs (Decidable (Granted b e r))
  | .isExistFile | .deleteDirOrFile | .removeStorageUser | .removeBundleUser | .keepData => isTrue trivial

instance : DecidablePred Admissible
  | .createOsAccountWithFullInfo _ => inferInstanceAs (Decidable (_ ∧ _))
  | .createBaseAdminAccount | .createBaseStandardAccount _ | .createFirstAccount | .createOsAccount _
  | .createOsAccountWithOptions _ | .createOsAccountForDomain _ | .removeOsAccount _ | .cleanGarbageOsAccounts _
  | .setOsAccountToBeRemoved _ _ | .deactivateOsAccount _ _ => isTrue trivial

instance (b : Build) (s : State) (e : Event) : Decidable (Undisturbed b s e) :=
  inferInstanceAs (Decidable (MarkedResources.Undisturbed (discipline b) s Admissible e))

variable {b : Build} {stores : Int → Stores} {accountIdList : List Int}

theorem consistent_booted (h : ∀ id, Backed b id (storesOf (booted stores accountIdList) id)) {es : List Event}
    (hes : Machine.Meets (step b) (Undisturbed b) (booted stores accountIdList) es) :
    Consistent (discipline b) (Machine.run (step b) (booted stores accountIdList) es) := by
  have hconsistent : Consistent (discipline b) (booted stores accountIdList) := consistent_of_idle h fun _ => rfl
  exact consistent_run (fun op hop => proper_program hop) hconsistent hes

theorem backed_of_consistent {s : State} (h : Consistent (discipline b) s) (id : Int) : Backed b id (storesOf s id) :=
  h.inv id

def calm (id : Int) : Env Fault Reply where
  fault := {}
  reply _ := { ret := .ok (), flag := true, id, ids := [], info := {}, infos := [] }

def phone : Build := ⟨true, true, true, false, false, true, true⟩

def alice : Creation := ⟨{ localName := "alice" }, .normal, none, false, false⟩

theorem backed_empty (b : Build) (id : Int) (listed : Bool) : Backed b id { listed } := by
  refine ⟨fun info h => ?_, fun h => ?_, fun h => ?_, fun h => ?_, fun info h => ?_⟩
  · cases h
  · cases h
  · cases h
  · cases h
  · cases h

def created : List Event :=
  .start 0 (.createOsAccount alice) :: List.replicate 13 (.step 0 (calm 101)) ++
    .start 1 (.createOsAccount alice) :: List.replicate 8 (.step 1 (calm 102)) ++
      List.replicate 19 (.step 0 (calm 101))

def cutOff : List Event :=
  created ++ .start 0 (.removeOsAccount 101) :: List.replicate 15 (.step 0 (calm 101)) ++ [.restart]

def at101 (es : List Event) : Stores := storesOf (Machine.run (step phone) (booted (fun _ => {}) [100]) es) 101

def broughtBack : List Event :=
  cutOff ++ .start 0 (.setOsAccountToBeRemoved 101 false) :: List.replicate 8 (.step 0 (calm 101))

/-- Nothing checks that an account that is not to be removed any more still has its users. -/
theorem not_backed_broughtBack : ¬ Backed phone 101 (at101 broughtBack) := by
  intro h
  have hlive : (at101 broughtBack).record.any isLive = true := by decide +kernel
  have hbundle : (at101 broughtBack).bundleUser = false := by decide +kernel
  cases hrecord : (at101 broughtBack).record with
  | none =>
      rw [hrecord] at hlive
      cases hlive
  | some info =>
      rw [hrecord] at hlive
      rcases h.served info hrecord hlive with hid | ⟨-, hserved⟩
      · cases hid
      · cases hserved.symm.trans hbundle

/-- The second creation has read the account list before the first one, and writes it back after it. -/
def overwritten : List Event :=
  .start 1 (.createOsAccount alice) :: List.replicate 7 (.step 1 (calm 102)) ++
    .start 0 (.createOsAccount alice) :: List.replicate 32 (.step 0 (calm 101)) ++ [.step 1 (calm 102)]

theorem not_backed_overwritten : ¬ Backed phone 101 (at101 overwritten) := by
  intro h
  have hrecord : (at101 overwritten).record.isSome = true := by decide +kernel
  have hlisted : (at101 overwritten).listed = false := by decide +kernel
  exact Bool.false_ne_true (hlisted.symm.trans (h.listed hrecord (by decide)))

end OsAccount.AccountResources
