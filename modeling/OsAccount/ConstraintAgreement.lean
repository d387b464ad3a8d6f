import OsAccount.AccountCreations
import OsAccount.Machine

namespace OsAccount.ConstraintAgreement

open Std JsonUtils ConstraintStore ConstraintUpdate AccountConstraints AccountList AccountWriters AccountViews
open ConstraintDocuments ConstraintQueries ConstraintSetters AccountCreations OrderedMap
open ConstraintRemoval (ConstraintFiles)
open SerialNumbers (LocalId)

variable {s : State} {b : Build}

section fullInfo

variable (constraintsByType : OsAccountType → List String)

def fullTypeStep (hasToken : Bool) (a : TeeAnswer) : TypeStep :=
  if hasToken then if a.result = .ok () then .written else .unwritten else .restricted

/-- The creation of an account with all fields, in the state after the removal of the account
that was there. -/
structure CreatesFullHarmlessly (b : Build) (s : State) (a : FullInfoAnswer) (info : AccountFile) (hasToken : Bool) :
    Prop where
  clean : hasToken = true → CleansHarmlessly s b info.localId a.tee.garbage
  settled : constraintAdminAuthorize ∈ constraintsByType info.type ∨ constraintAdminAuthorize ∈ info.constraints ∨
    constraintAdminAuthorize ∈ (view s info.localId).base ∨
    TypeHarmless b info.localId (view s info.localId) info.type
      (Stuck a.msg { localId := info.localId, isDataRemovable := false }) (fullTypeStep hasToken a.tee)

theorem stuck_fullAccount {a : MsgAnswer} {info : AccountFile} (h : Stuck a (fullAccount constraintsByType info)) :
    Stuck a { localId := info.localId, isDataRemovable := false } := by
  obtain ⟨needDelStorage, needDelBms, hrolls, hdeleted, hnot⟩ := h
  refine ⟨needDelStorage, needDelBms, hrolls, hdeleted, fun hdeletes => hnot ⟨hdeletes.1, hdeletes.2.1, ?_⟩⟩
  exact fun hfalse => by cases hfalse

theorem createFull_sound (h : Sound b s) (a : FullInfoAnswer) (info : AccountFile) (hasToken : Bool)
    (hcreates : CreatesFullHarmlessly constraintsByType b s a info hasToken) :
    ∃ ret s', createOsAccountWithFullInfo.create b filesSucceed constraintsByType a info hasToken s = some (ret, s') ∧
      Sound b s' := by
  unfold createOsAccountWithFullInfo.create
  rcases prepareOsAccountInfoWithFullInfo_cases constraintsByType h a.numbers info with ⟨e, hprepare⟩ |
    ⟨r, s₁, hprepare, hprepared, hbase, hothers⟩
  · rw [hprepare]
    exact ⟨_, _, rfl, h⟩
  · rw [hprepare]
    have hsettled : constraintAdminAuthorize ∈ (view s₁ info.localId).base ∨
        TypeHarmless b info.localId (view s info.localId) info.type
          (Stuck a.msg (fullAccount constraintsByType info)) (fullTypeStep hasToken a.tee) := by
      rcases hcreates.settled with htype | hinfo | hown | hharmless
      · exact .inl ((hbase _).mpr (.inr (.inl htype)))
      · exact .inl ((hbase _).mpr (.inr (.inr hinfo)))
      · exact .inl ((hbase _).mpr (.inl hown))
      · exact .inr (hharmless.mono (stuck_fullAccount constraintsByType))
    unfold fullTypeStep at hsettled
    dsimp only
    cases hb : b.supportAuthorization with
    | false =>
        have hcache : updateAccountTypeCache s₁ b (fullAccount constraintsByType info).localId
            (fullAccount constraintsByType info).type true = s₁ := by
          rw [updateAccountTypeCache, hb]
          rfl
        simp only [Bool.false_and, Bool.false_eq_true, if_false, hcache]
        exact ⟨_, _, rfl, hprepared.sends_unchecked hb a.msg⟩
    | true =>
        cases hasToken with
        | true =>
            simp only [Bool.and_self, if_true] at hsettled ⊢
            obtain ⟨ret, s₂, hinsert, hbut, hcases⟩ := insertOsAccountType_sound hprepared.others hb a.tee info.type
              ((hcreates.clean rfl).congr hothers)
            have hinsert' : insertOsAccountType s₁ b filesSucceed a.tee (fullAccount constraintsByType info).localId
              (fullAccount constraintsByType info).type = some (ret, s₂) := hinsert
            simp only [hinsert', Option.bind_eq_bind, Option.bind_some]
            rcases hcases with ⟨hret, hresult, hview⟩ | ⟨rfl, hresult, hview⟩
            · rw [if_neg hresult] at hsettled
              cases ret with
              | ok u => exact absurd rfl hret
              | error e =>
                  have hsound : Sound b s₂ := (hprepared.congr hbut hview).sound (hview ▸ hsettled)
                  exact ⟨_, _, rfl, hsound⟩
            · rw [if_pos hresult] at hsettled
              exact ⟨_, _, rfl, hprepared.sends hbut hview a.msg hsettled⟩
        | false =>
            simp only [Bool.and_false, Bool.false_eq_true, if_false] at hsettled ⊢
            obtain ⟨hviews, hself⟩ := updateAccountTypeCache_view hb s₁ info.localId info.type
            have hbut : SoundBut b info.localId (updateAccountTypeCache s₁ b info.localId info.type true) := by
              refine ⟨?_, fun j hj => ?_⟩
              · simp only [updateAccountTypeCache, hb, if_true]
                exact hprepared.others.files
              · rw [hviews j hj]
                exact hprepared.others.backed j hj
            exact ⟨_, _, rfl, hprepared.sends hbut hself a.msg hsettled⟩

end fullInfo

theorem Sound.kept {s' : State} {id : Int} (h : Sound b s) (hfiles : FilesSound s'.files)
    (hothers : ∀ j ≠ id, Kept b j (view s j) (view s' j)) (hid : (view s' id).Backed b id) : Sound b s' := by
  refine ⟨hfiles, fun j => ?_⟩
  by_cases hj : j = id
  · exact hj ▸ hid
  · exact (hothers j hj).backed (h.backed j)

/-- A removal that ends after the type of the account is deleted. If the account was stopped
before, its record is replaced by `info`. -/
structure RemovesHarmlessly (b : Build) (v : View) (a : OperateAnswer) (id : Int) (info : AccountFile) : Prop where
  unstopped : a.delOsAccountType = .ok () → ¬Stops a → v.Forgettable b id
  constraints : (b.supportAuthorization = true → a.delOsAccountType = .ok ()) → Stops a → ¬Ends a id →
    ∀ c ∈ info.constraints, c ∈ v.base
  stopped : a.delOsAccountType = .ok () → Stops a → ¬Ends a id → ChecksType b id →
    constraintAdminAuthorize ∈ v.base ∨ (info.type ≠ .admin ∧
      (WritesBack a id → ∀ old, v.record = some old → old.type ≠ .admin))

theorem forgotten_of_checks {v : View} {id : Int} (h : ChecksType b id) :
    v.forgotten b = { v with cached := none, tee := none } := if_pos h.support

theorem base_forgotten (v : View) : (v.forgotten b).base = v.base := by
  unfold View.forgotten
  split
  · rfl
  · rfl

theorem removeOsAccountOperate_sound (h : Sound b s) (a : OperateAnswer) {id : Int} (info : AccountFile)
    (hrecord : (view s id).record.isSome) (hremoves : RemovesHarmlessly b (view s id) a id info) :
    ∃ ret s', removeOsAccountOperate s b filesSucceed a id info false = some (ret, s') ∧ Sound b s' := by
  obtain ⟨ret, s', hoperate, hfiles, hothers, hcases⟩ := removeOperate_spec b h.files a id info hrecord
  refine ⟨ret, s', hoperate, Sound.kept h hfiles hothers ?_⟩
  rcases hcases with ⟨-, hview⟩ | ⟨-, w, -, -, hview⟩ |
    ⟨-, hdeleted, w, hw, ⟨hstops, hview⟩ | ⟨hstops, hends, hsame, hview⟩⟩
  · rw [hview]
    exact h.backed id
  · rw [hview]
    exact backed_of_none rfl
  · rw [hview]
    refine hw.backed ((h.backed id).forgotten fun hchecks => ?_)
    exact hremoves.unstopped (hdeleted hchecks.support) hstops hchecks
  · have hbase : w.base = (view s id).base := hw.base.trans (base_forgotten _)
    rw [hview]
    refine backed_of_some rfl (fun c hc => ?_) fun hrestricted => ?_
    · exact hbase ▸ hremoves.constraints hdeleted hstops hends c hc
    · have hchecks := hrestricted.1
      rcases hremoves.stopped (hdeleted hchecks.support) hstops hends hchecks with hadmin | ⟨htype, hold⟩
      · exact hbase ▸ hadmin
      · exfalso
        by_cases hwrites : WritesBack a id
        · -- what was written back is no administrator either
          have hplain : ((view s id).forgotten b).Plain := by
            rw [forgotten_of_checks hchecks]
            exact ⟨fun hinfo => hold hwrites _ hinfo, fun hcached => (by cases hcached), fun htee => (by cases htee)⟩
          exact (hw.plain hplain).realType htype (congrArg Prod.fst hrestricted.2)
        · have hreal := hrestricted.2
          rw [hsame hwrites, forgotten_of_checks hchecks] at hreal
          exact htype (congrArg Prod.fst hreal)

def InterruptedHarmlessly (s : State) (b : Build) (a : RemoveAnswer) (id : Int) : Prop :=
  a.isOperating = false → a.storage = .ok () → a.operate.delOsAccountType = .ok () →
    ¬(Stops a.operate ∧ Ends a.operate id) → ChecksType b id →
    ∀ real s₁, getRealOsAccountInfoById s b (.ok ()) a.ask id = (.ok real, s₁) → real.type = .admin →
      constraintAdminAuthorize ∈ (view s id).base

theorem removeOsAccount_sound (h : Sound b s) (a : RemoveAnswer) (id : Int) (hremoves : InterruptedHarmlessly s b a id) :
    ∃ ret s', removeOsAccount s b filesSucceed a id = some (ret, s') ∧ Sound b s' := by
  unfold removeOsAccount
  cases hoperating : a.isOperating with
  | true => exact ⟨_, _, rfl, h⟩
  | false =>
      simp only [Bool.false_eq_true, if_false]
      cases hinfo : s.accounts[id]? with
      | none =>
          have hread : getRealOsAccountInfoById s b filesSucceed.read a.ask id = (.error .accountNotExistError, s) := by
            simp only [getRealOsAccountInfoById, getOsAccountInfoById, hinfo]
          rw [hread]
          exact ⟨_, _, rfl, h⟩
      | some info =>
          obtain ⟨real, cache, hreal, hcache, hback, -⟩ := getReal_spec hinfo b a.ask
          have hread : getRealOsAccountInfoById s b filesSucceed.read a.ask id = _ := hreal
          have hviews : ∀ j ≠ id, view { s with typeCache := cache } j = view s j := by
            intro j hj
            simp only [view, hcache j hj]
          have h₁ : Sound b { s with typeCache := cache } :=
            h.update id h.files hviews (hback.backed_read hinfo (h.backed id))
          simp only [hread]
          cases hstorage : a.storage with
          | error e => exact ⟨_, _, rfl, h₁⟩
          | ok u =>
              rcases updateOsAccount_cases { s with typeCache := cache } id { real with toBeRemoved := true } with
                ⟨hnone, -⟩ | ⟨-, hwrite⟩
              · rw [hinfo] at hnone
                cases hnone
              · have hupdate : updateOsAccount { s with typeCache := cache } filesSucceed.update id
                    { real with toBeRemoved := true } = _ := hwrite
                have hbacked : View.Backed { view s id with
                    record := some { real with toBeRemoved := true }, cached := cache[id]? } b id :=
                  hback.backed hinfo (h.backed id) rfl rfl
                have hself := view_insert { s with typeCache := cache } id { real with toBeRemoved := true } id
                rw [if_pos rfl] at hself
                have h₂ : Sound b { s with
                    typeCache := cache, accounts := s.accounts.insert id { real with toBeRemoved := true } } := by
                  refine h₁.update id h.files (fun j hj => ?_) (hself ▸ hbacked)
                  exact (view_insert { s with typeCache := cache } id _ j).trans (if_neg hj)
                simp only [hupdate]
                have hforget : a.operate.delOsAccountType = .ok () → ¬(Stops a.operate ∧ Ends a.operate id) →
                    ChecksType b id → real.type = .admin → constraintAdminAuthorize ∈ (view s id).base :=
                  fun hdeleted hnot hchecks => hremoves hoperating hstorage hdeleted hnot hchecks real _ hreal
                refine removeOsAccountOperate_sound h₂ a.operate { real with toBeRemoved := true }
                  (hself ▸ rfl) (hself ▸ ⟨?_, ?_, ?_⟩)
                · intro hdeleted hstops hchecks info' hinfo' htype
                  obtain rfl := Option.some.inj hinfo'
                  exact hforget hdeleted (fun hboth => hstops hboth.1) hchecks htype
                · intro _ _ _ c hc
                  exact hbacked.own rfl hc
                · intro hdeleted _ hends hchecks
                  by_cases htype : real.type = .admin
                  · exact .inl (hforget hdeleted (fun hboth => hends hboth.2) hchecks htype)
                  · refine .inr ⟨htype, fun _ old hold => ?_⟩
                    obtain rfl := Option.some.inj hold
                    exact htype

structure FullInfoHarmless (constraintsByType : OsAccountType → List String) (b : Build) (s : State)
    (a : FullInfoAnswer) (info : AccountFile) (hasToken : Bool) : Prop where
  removal {old : AccountFile} : a.begins = .ok () → s.accounts[info.localId]? = some old →
    old.isCreateCompleted = true → old.toBeRemoved = true →
    RemovesHarmlessly b (view s info.localId) a.removal info.localId info ∧
      ∀ s₁, removeOsAccountOperate s b filesSucceed a.removal info.localId info false = some (.ok (), s₁) →
        CreatesFullHarmlessly constraintsByType b s₁ a info hasToken
  creation : a.begins = .ok () → (∀ old, s.accounts[info.localId]? = some old → old.isCreateCompleted = false) →
    CreatesFullHarmlessly constraintsByType b s a info hasToken

theorem createOsAccountWithFullInfo_sound (constraintsByType : OsAccountType → List String) (h : Sound b s)
    (a : FullInfoAnswer) (info : AccountFile) (hasToken : Bool)
    (hharmless : FullInfoHarmless constraintsByType b s a info hasToken) :
    ∃ ret s', createOsAccountWithFullInfo s b filesSucceed constraintsByType a info hasToken = some (ret, s') ∧
      Sound b s' := by
  unfold createOsAccountWithFullInfo
  cases hbegins : a.begins with
  | error e => exact ⟨_, _, rfl, h⟩
  | ok u =>
      cases hold : s.accounts[info.localId]? with
      | none =>
          have hread : getOsAccountInfoById s filesSucceed.read info.localId = .error .accountNotExistError := by
            simp only [getOsAccountInfoById, hold]
          simp only [hread, if_true]
          refine createFull_sound constraintsByType h a info hasToken (hharmless.creation hbegins fun old hsome => ?_)
          rw [hold] at hsome
          cases hsome
      | some old =>
          have hread : getOsAccountInfoById s filesSucceed.read info.localId = .ok old :=
            getOsAccountInfoById_eq_ok.mpr ⟨hold, rfl⟩
          simp only [hread]
          cases hcompleted : old.isCreateCompleted with
          | false =>
              simp only [Bool.false_eq_true, if_false]
              refine createFull_sound constraintsByType h a info hasToken
                (hharmless.creation hbegins fun old' hsome => ?_)
              obtain rfl := Option.some.inj (hold.symm.trans hsome)
              exact hcompleted
          | true =>
              simp only [if_true]
              cases hremoved : old.toBeRemoved with
              | false => exact ⟨_, _, rfl, h⟩
              | true =>
                  obtain ⟨hremoves, hcreates⟩ := hharmless.removal hbegins hold hcompleted hremoved
                  have hrecord : (view s info.localId).record.isSome := by
                    rw [show (view s info.localId).record = some old from hold]
                    rfl
                  obtain ⟨ret, s₁, hoperate, h₁⟩ := removeOsAccountOperate_sound h a.removal info hrecord hremoves
                  simp only [hoperate, if_true, Option.bind_eq_bind, Option.bind_some]
                  cases ret with
                  | error e => exact ⟨_, _, rfl, h₁⟩
                  | ok u => exact createFull_sound constraintsByType h₁ a info hasToken (hcreates s₁ hoperate)

def UpdatesHarmlessly (s : State) (b : Build) (isOperating : Bool) (newInfo : AccountFile) : Prop :=
  isOperating = false → ∀ old, s.accounts[newInfo.localId]? = some old →
    (∀ c ∈ newInfo.constraints, c ∈ (view s newInfo.localId).base) ∧
      ((view s newInfo.localId).MayBeRestricted b newInfo.localId newInfo.type →
        constraintAdminAuthorize ∈ (view s newInfo.localId).base)

theorem updateOsAccountWithFullInfo_sound (h : Sound b s) (isOperating : Bool) (newInfo : AccountFile)
    (hupdates : UpdatesHarmlessly s b isOperating newInfo) :
    Sound b (updateOsAccountWithFullInfo s filesSucceed isOperating newInfo).2 := by
  unfold updateOsAccountWithFullInfo
  cases hoperating : isOperating with
  | true => exact h
  | false =>
      simp only [Bool.false_eq_true, if_false]
      cases hold : s.accounts[newInfo.localId]? with
      | none =>
          have hread : getOsAccountInfoById s filesSucceed.read newInfo.localId = .error .accountNotExistError := by
            simp only [getOsAccountInfoById, hold]
          rw [hread]
          exact h
      | some old =>
          have hread : getOsAccountInfoById s filesSucceed.read newInfo.localId = .ok old :=
            getOsAccountInfoById_eq_ok.mpr ⟨hold, rfl⟩
          obtain ⟨hown, hadmin⟩ := hupdates hoperating old hold
          rw [hread]
          dsimp only
          rcases updateOsAccount_cases s newInfo.localId _ with ⟨-, hwrite⟩ | ⟨-, hwrite⟩
          · exact hwrite ▸ h
          · exact hwrite ▸ h.write newInfo.localId hown hadmin

def BaseHarmless (s : State) (b : Build) (definition : Option Definition) (id : Int) (constraints : List String)
    (enable : Bool) : Prop :=
  enable = false → constraintAdminAuthorize ∈ constraints →
    ∀ info, RecordWritten s (settersSucceed definition) id constraints info →
      ¬(view s id).MayBeRestricted b id info.type

theorem setBaseOsAccountConstraints_sound (h : Sound b s) (definition : Option Definition) (id : Int)
    (constraints : List String) (enable : Bool) (hharmless : BaseHarmless s b definition id constraints enable) :
    Sound b (setBaseOsAccountConstraints s (settersSucceed definition) id constraints enable).2 := by
  unfold setBaseOsAccountConstraints
  dsimp only [settersSucceed]
  rcases setOsAccountConstraints_cases s (settersSucceed definition) id constraints enable with ⟨e, hset, -⟩ |
    ⟨info, hwritten, hset⟩
  · have hset' : setOsAccountConstraints s ⟨.ok (), .ok (), .ok (), definition, .ok (), ⟨.ok (), .ok ()⟩,
      ⟨.ok (), .ok ()⟩⟩ id constraints enable = _ := hset
    rw [hset']
    exact h
  · have hset' : setOsAccountConstraints s ⟨.ok (), .ok (), .ok (), definition, .ok (), ⟨.ok (), .ok ()⟩,
      ⟨.ok (), .ok ()⟩⟩ id constraints enable = _ := hset
    have hinfo : (view s id).record = some info := (getOsAccountInfoById_eq_ok.mp hwritten.found).1
    have hviews := view_insert s id (withConstraints enable constraints info)
    obtain ⟨base, l, hupdate, hfiles, hothers, hself, hl⟩ :=
      rebase_spec (s := { s with accounts := s.accounts.insert id (withConstraints enable constraints info) }) id
        h.files constraints enable
    rw [hset']
    simp only [hupdate]
    refine h.update id hfiles (fun j hj => ?_) ?_
    · rw [hothers j hj, hviews, if_neg hj]
    · rw [hviews, if_pos rfl] at hself hl
      rw [hself]
      refine backed_of_some rfl (fun c hc => ?_) fun hrestricted => ?_
      · -- the record and the base file change in the same way
        have hc' : changed enable (c ∈ info.constraints) (c ∈ constraints) := mem_changeConstraints.mp hc
        refine (hl c).mpr ?_
        cases enable with
        | true => exact hc'.imp_left ((h.backed id).own hinfo)
        | false => exact hc'.imp_left ((h.backed id).own hinfo)
      · have hadmin : constraintAdminAuthorize ∈ (view s id).base := (h.backed id).admin hinfo hrestricted
        refine (hl _).mpr ?_
        cases enable with
        | true => exact .inl hadmin
        | false => exact ⟨hadmin, fun hmem => hharmless rfl hmem info hwritten hrestricted⟩

theorem Sound.refile (h : Sound b s) {files : ConstraintFiles} (owner : Int) (hfiles : FilesSound files)
    (hbase : files.base = s.files.base) : Sound b { s with files, deviceOwnerId := owner } := by
  refine ⟨hfiles, fun j => ?_⟩
  have hview : view { s with files, deviceOwnerId := owner } j = view s j := by
    simp only [view, hbase]
  exact hview ▸ h.backed j

theorem dealWithDeviceOwnerId_sound (h : Sound b s) (isDeviceOwner : Bool) (id : Int) :
    Sound b (dealWithDeviceOwnerId s ⟨.ok (), .ok ()⟩ isDeviceOwner id).2 := by
  rcases dealWithDeviceOwnerId_cases s ⟨.ok (), .ok ()⟩ isDeviceOwner id with ⟨-, -, hs⟩ | ⟨-, -, -, owner, hs⟩ |
    ⟨-, -, -, hs⟩
  · rw [hs]
    exact h
  · rw [hs]
    exact Sound.refile h owner (filesSound_deviceOwner h.files owner) rfl
  · rw [hs]
    exact h

theorem isLocalId_toString (id : LocalId) : IsLocalId (toString id.val) := ⟨id.val, id.property, rfl⟩

theorem setGlobalOsAccountConstraints_sound (h : Sound b s) (definition : Option Definition) (constraints : List String)
    (enable : Bool) (enforcerId : LocalId) (isDeviceOwner : Bool) :
    Sound b (setGlobalOsAccountConstraints s (settersSucceed definition) constraints enable enforcerId.val
      isDeviceOwner).2 := by
  unfold setGlobalOsAccountConstraints
  split
  · exact h
  · split
    · exact h
    · split
      · exact h
      · rename_i hknown
        have hnames := names_of_checkConstraints (by simpa using hknown)
        have hempty : "" ∉ constraints := fun hempty => (hnames "" hempty).2.2 rfl
        have hfiles : FilesSound { s.files with global := (updateGlobalOAConstraints ⟨.ok (), .ok ()⟩
            (toString enforcerId.val) constraints enable s.files.global).2 } :=
          filesSound_updateGlobal h.files (isLocalId_toString enforcerId) (fun c hc => (hnames c hc).1) hempty
        exact dealWithDeviceOwnerId_sound (Sound.refile h s.deviceOwnerId hfiles rfl) isDeviceOwner enforcerId.val

theorem setSpecificOsAccountConstraints_sound (h : Sound b s) (definition : Option Definition)
    (constraints : List String) (enable : Bool) (targetId enforcerId : LocalId) (isDeviceOwner : Bool) :
    Sound b (setSpecificOsAccountConstraints s (settersSucceed definition) constraints enable targetId.val
      enforcerId.val isDeviceOwner).2 := by
  unfold setSpecificOsAccountConstraints
  split
  · exact h
  · exact h
  · split
    · exact h
    · split
      · exact h
      · rename_i hknown
        have hnames := names_of_checkConstraints (by simpa using hknown)
        have hempty : "" ∉ constraints := fun hempty => (hnames "" hempty).2.2 rfl
        have hfiles : FilesSound { s.files with specific := (updateSpecificOAConstraints ⟨.ok (), .ok ()⟩
            (toString enforcerId.val) (toString targetId.val) constraints enable s.files.specific).2 } :=
          filesSound_updateSpecific h.files (isLocalId_toString enforcerId) (Decimal.toString_ne_empty targetId.val)
            (fun c hc => (hnames c hc).2.1) hempty
        exact dealWithDeviceOwnerId_sound (Sound.refile h s.deviceOwnerId hfiles rfl) isDeviceOwner enforcerId.val

theorem setOsAccountType_sound (h : Sound b s) (a : TypeAnswer) (id : Int) (type : OsAccountType) :
    Sound b (setOsAccountType s b filesSucceed a id type).2 := by
  unfold setOsAccountType
  split
  · exact h
  · exact h
  · rename_i info hread hnumber
    split
    · exact h
    · split
      · exact h
      · have hinfo : (view s id).record = some info := (getOsAccountInfoById_eq_ok.mp hread).1
        have hown : ∀ c ∈ if type = .admin then info.constraints.filter (· ≠ constraintAdminAuthorize)
            else info.constraints, c ∈ (view s id).base := by
          intro c hc
          refine (h.backed id).own hinfo ?_
          split at hc
          · exact (List.mem_filter.mp hc).1
          · exact hc
        cases hb : b.supportAuthorization with
        | false =>
            simp only [updateAccountTypeCache, hb, Bool.false_eq_true, if_false]
            rcases updateOsAccount_cases s id _ with ⟨-, hwrite⟩ | ⟨-, hwrite⟩
            · exact hwrite ▸ h
            · refine hwrite ▸ h.write id hown fun hrestricted => ?_
              rw [hrestricted.1.support] at hb
              cases hb
        | true =>
            simp only [updateAccountTypeCache, hb, if_true]
            have hself : view { s with tee := s.tee.insert id type, typeCache := s.typeCache.insert id (type, false) }
                id = (view s id).typed type false := by
              simp [view, View.typed]
            have h₁ : Sound b
                { s with tee := s.tee.insert id type, typeCache := s.typeCache.insert id (type, false) } := by
              refine h.update id h.files (fun j hj => ?_) (hself ▸ ⟨(h.backed id).own, fun _ hrestricted => ?_⟩)
              · simp [view, getElem?_insert_eq, Ne.symm hj]
              · cases congrArg Prod.snd hrestricted.2
            rcases updateOsAccount_cases
              { s with tee := s.tee.insert id type, typeCache := s.typeCache.insert id (type, false) } id _ with
              ⟨-, hwrite⟩ | ⟨-, hwrite⟩
            · exact hwrite ▸ h₁
            · refine hwrite ▸ h₁.write id (hself ▸ hown) fun hrestricted => ?_
              rw [hself] at hrestricted
              cases congrArg Prod.snd hrestricted.2

theorem read_sound (h : Sound b s) (ask : Ret) (id : Int) :
    Sound b (getRealOsAccountInfoById s b (.ok ()) ask id).2 := by
  cases hinfo : s.accounts[id]? with
  | none =>
      have hread : getRealOsAccountInfoById s b (.ok ()) ask id = (.error .accountNotExistError, s) := by
        simp only [getRealOsAccountInfoById, getOsAccountInfoById, hinfo]
      rw [hread]
      exact h
  | some info =>
      obtain ⟨real, cache, hreal, hcache, hback, -⟩ := getReal_spec hinfo b ask
      rw [hreal]
      refine h.update id h.files (fun j hj => ?_) (hback.backed_read hinfo (h.backed id))
      simp only [view, hcache j hj]

section runs

variable (b : Build) (constraintsByType : OsAccountType → List String)

def Harmless (s : State) : Op → Prop
  | .createOsAccount a c => CleansHarmlessly s b (-1) a.garbage ∧
      ∀ s₁ localId, cleanGarbageOsAccounts s b filesSucceed (-1) a.garbage = some s₁ → a.localId = .ok localId →
        (view s₁ localId.val).record = none → CreatesHarmlessly constraintsByType b s₁ a c localId.val
  | .createOsAccountWithFullInfo a info hasToken => FullInfoHarmless constraintsByType b s a info hasToken
  | .updateOsAccountWithFullInfo isOperating newInfo => UpdatesHarmlessly s b isOperating newInfo
  | .setBaseOsAccountConstraints definition id constraints enable => BaseHarmless s b definition id constraints enable
  | .setGlobalOsAccountConstraints .. => True
  | .setSpecificOsAccountConstraints .. => True
  | .setOsAccountType .. => True
  | .removeOsAccount a id => InterruptedHarmlessly s b a id
  | .read .. => True

variable {b constraintsByType} in
theorem perform_sound (h : Sound b s) {op : Op} (hharmless : Harmless b constraintsByType s op) :
    ∃ s', perform s b constraintsByType op = some s' ∧ Sound b s' := by
  cases op with
  | createOsAccount a c =>
      obtain ⟨ret, s', hs', hsound⟩ := createOsAccount_sound constraintsByType h a c hharmless.1 hharmless.2
      exact ⟨s', by rw [perform, hs', Option.map_some], hsound⟩
  | createOsAccountWithFullInfo a info hasToken =>
      obtain ⟨ret, s', hs', hsound⟩ := createOsAccountWithFullInfo_sound constraintsByType h a info hasToken hharmless
      exact ⟨s', by rw [perform, hs', Option.map_some], hsound⟩
  | updateOsAccountWithFullInfo isOperating newInfo =>
      exact ⟨_, rfl, updateOsAccountWithFullInfo_sound h isOperating newInfo hharmless⟩
  | setBaseOsAccountConstraints definition id constraints enable =>
      exact ⟨_, rfl, setBaseOsAccountConstraints_sound h definition id constraints enable hharmless⟩
  | setGlobalOsAccountConstraints definition constraints enable enforcerId isDeviceOwner =>
      exact ⟨_, rfl, setGlobalOsAccountConstraints_sound h definition constraints enable enforcerId isDeviceOwner⟩
  | setSpecificOsAccountConstraints definition constraints enable targetId enforcerId isDeviceOwner =>
      exact ⟨_, rfl, setSpecificOsAccountConstraints_sound h definition constraints enable targetId enforcerId
        isDeviceOwner⟩
  | setOsAccountType a id type => exact ⟨_, rfl, setOsAccountType_sound h a id type⟩
  | removeOsAccount a id =>
      obtain ⟨ret, s', hs', hsound⟩ := removeOsAccount_sound h a id hharmless
      exact ⟨s', by rw [perform, hs', Option.map_some], hsound⟩
  | read ask id => exact ⟨_, rfl, read_sound h ask id⟩

def adminAccount : AccountFile where
  localId := adminLocalId
  isCreateCompleted := true
  isActived := true

def startAccount : AccountFile where
  localId := startUserId
  isCreateCompleted := true
  isDataRemovable := false
  constraints := constraintsByType .admin

def firstBoot (tee : ExtTreeMap Int OsAccountType compare) : State where
  accounts := ((∅ : ExtTreeMap Int AccountFile compare).insert adminLocalId adminAccount).insert startUserId
    (startAccount constraintsByType)
  files :=
    { base := .obj [(toString startUserId, .arr ((constraintsByType .admin).map .str))]
      global := .obj [(deviceOwnerId, .num (-1)), (allGlobalConstraints, .null)]
      specific := .obj [(toString startUserId, emptyTarget)] }
  deviceOwnerId := -1
  typeCache := ∅
  tee

def step : Option State → Op → Option State
  | none, _ => none
  | some s, op => perform s b constraintsByType op

def StepHarmless (s? : Option State) (op : Op) : Prop := ∀ s, s? = some s → Harmless b constraintsByType s op

theorem getVector_null {j : Json} (h : ∀ key item, getItemFromJson j key = some item → ∀ items, item ≠ .arr items)
    (key : String) : getVectorStringFromJson j key = [] := by
  unfold getVectorStringFromJson
  cases hitem : getItemFromJson j key with
  | none => rfl
  | some item =>
      cases item with
      | arr items => exact absurd rfl (h key _ hitem items)
      | _ => rfl

theorem wellFormed_of_empty {constraintType : String} {reserved : List String} {j : Json} (hj : IsRecord j)
    (h : ∀ key, getVectorStringFromJson j key = []) : WellFormed constraintType reserved j := by
  refine ⟨hj, ?_, fun hc => ?_, fun _ => ?_, fun _ => ?_⟩
  · rw [h]
    exact List.nodup_nil
  · rw [h] at hc
    cases hc
  · rw [h, h]
    exact iff_of_false List.not_mem_nil (fun hne => hne rfl)
  · rw [h]
    exact List.nodup_nil

theorem filesSound_firstBoot (tee : ExtTreeMap Int OsAccountType compare) :
    FilesSound (firstBoot constraintsByType tee).files := by
  have hglobal : ∀ key, getVectorStringFromJson (firstBoot constraintsByType tee).files.global key = [] := by
    refine getVector_null fun key item hitem items => ?_
    simp only [firstBoot, getItemFromJson, fields, Fields.find] at hitem
    split at hitem
    · cases hitem
    · split at hitem
      · exact Option.some.inj hitem ▸ (fun he => by cases he)
      · split at hitem
        · exact Option.some.inj hitem ▸ (fun he => by cases he)
        · cases hitem
  have htarget : ∀ {t d}, getItemFromJson (firstBoot constraintsByType tee).files.specific t = some d →
      d = emptyTarget := by
    intro t d hd
    simp only [firstBoot, getItemFromJson, fields, Fields.find] at hd
    split at hd
    · cases hd
    · split at hd
      · exact (Option.some.inj hd).symm
      · cases hd
  refine ⟨?_, wellFormed_of_empty ?_ hglobal, ⟨?_, fun hd => htarget hd ▸ wellFormed_emptyTarget⟩,
    ⟨⟨[deviceOwnerId], [], rfl, ?_⟩, fun hd => htarget hd ▸ ⟨[], [], rfl, fun _ hk => by cases hk⟩⟩, rfl, rfl, ?_, ?_⟩
  · simp [firstBoot, IsRecord, Fields.keys]
  · simp [firstBoot, IsRecord, Fields.keys, deviceOwnerId, allGlobalConstraints]
  · simp [firstBoot, IsRecord, Fields.keys]
  · simp [globalReserved]
  · rintro c source ⟨hc, -⟩
    rw [hglobal] at hc
    cases hc
  · rintro t c source ⟨d, hd, hc, -⟩
    rw [htarget hd] at hc
    cases hc

/-- On a device that checks types, the first administrator is known or has its constraint. -/
def StartsKnown (tee : ExtTreeMap Int OsAccountType compare) : Prop :=
  (b.supportAuthorization && !b.isEmulator) = true → tee[startUserId]? = none →
    constraintAdminAuthorize ∈ constraintsByType .admin

theorem firstBoot_sound (tee : ExtTreeMap Int OsAccountType compare)
    (hadmin : StartsKnown b constraintsByType tee) : Sound b (firstBoot constraintsByType tee) := by
  refine ⟨filesSound_firstBoot constraintsByType tee, fun id => ?_⟩
  have hrecord : (view (firstBoot constraintsByType tee) id).record =
      if id = startUserId then some (startAccount constraintsByType)
      else if id = adminLocalId then some adminAccount
      else none := by
    simp only [view, firstBoot, getElem?_insert_eq, eq_comm]
    rfl
  by_cases hstart : id = startUserId
  · subst hstart
    rw [if_pos rfl] at hrecord
    have hbase : (view (firstBoot constraintsByType tee) startUserId).base = constraintsByType .admin := by
      simp only [view, firstBoot, getVectorStringFromJson]
      exact strings_arr _
    refine backed_of_some hrecord (fun c hc => hbase ▸ hc) fun hrestricted => hbase ▸ hadmin hrestricted.1.1 ?_
    cases htee : tee[startUserId]? with
    | none => rfl
    | some type =>
        have hreal : (view (firstBoot constraintsByType tee) startUserId).realType .admin = (type, false) := by
          simp only [View.realType, view, firstBoot, htee]
          rfl
        cases congrArg Prod.snd (hreal.symm.trans hrestricted.2)
  · rw [if_neg hstart] at hrecord
    by_cases hadminId : id = adminLocalId
    · rw [if_pos hadminId] at hrecord
      refine backed_of_some hrecord (fun c hc => by cases hc) fun hrestricted => ?_
      have hid := hrestricted.1.2
      rw [hadminId] at hid
      exact absurd hid (by decide)
    · rw [if_neg hadminId] at hrecord
      exact backed_of_none hrecord

variable {b constraintsByType} in
theorem sound_run {tee : ExtTreeMap Int OsAccountType compare} (hadmin : StartsKnown b constraintsByType tee)
    {ops : List Op} (hops : Machine.Meets (step b constraintsByType) (StepHarmless b constraintsByType)
      (some (firstBoot constraintsByType tee)) ops) {before : List Op} (hbefore : before <+: ops) :
    ∃ s, Machine.run (step b constraintsByType) (some (firstBoot constraintsByType tee)) before = some s ∧
      Sound b s := by
  have hstep : ∀ s? op, (∃ s, s? = some s ∧ Sound b s) → StepHarmless b constraintsByType s? op →
      ∃ s', step b constraintsByType s? op = some s' ∧ Sound b s' := by
    rintro _ op ⟨s, rfl, h⟩ hharmless
    exact perform_sound h (hharmless s rfl)
  obtain ⟨after, rfl⟩ := hbefore
  exact Machine.run_invariant_of_meets hstep ⟨_, rfl, firstBoot_sound b constraintsByType tee hadmin⟩
    (Machine.meets_append.mp hops).1

/-- In a run of harmless operations from the first start, the three queries agree about
every account in every state that is reached. -/
theorem constraintQueries_agree (tee : ExtTreeMap Int OsAccountType compare)
    (hadmin : StartsKnown b constraintsByType tee)
    (ops : List Op) (hops : Machine.Meets (step b constraintsByType) (StepHarmless b constraintsByType)
      (some (firstBoot constraintsByType tee)) ops) {before : List Op} (hbefore : before <+: ops) :
    ∃ s, Machine.run (step b constraintsByType) (some (firstBoot constraintsByType tee)) before = some s ∧
      ∀ id info, s.accounts[id]? = some info → ∀ ask c, QueriesAgree s b ask id c := by
  obtain ⟨s, hs, h⟩ := sound_run hadmin hops hbefore
  exact ⟨s, hs, fun id info hinfo ask c => h.queriesAgree hinfo ask c⟩

/-- In such a run the base file has all the constraints of every record. -/
theorem queriesAgree_of_harmless (tee : ExtTreeMap Int OsAccountType compare)
    (hadmin : StartsKnown b constraintsByType tee)
    (ops : List Op) (hops : Machine.Meets (step b constraintsByType) (StepHarmless b constraintsByType)
      (some (firstBoot constraintsByType tee)) ops) {before : List Op} (hbefore : before <+: ops) :
    ∃ s, Machine.run (step b constraintsByType) (some (firstBoot constraintsByType tee)) before = some s ∧
      ∀ id info, s.accounts[id]? = some info →
        (∀ c ∈ info.constraints, c ∈ getVectorStringFromJson s.files.base (toString id)) ∧
        ∀ ask c, QueriesAgree s b ask id c := by
  obtain ⟨s, hs, h⟩ := sound_run hadmin hops hbefore
  exact ⟨s, hs, fun id info hinfo => ⟨fun c hc => (h.backed id).own hinfo hc,
    fun ask c => h.queriesAgree hinfo ask c⟩⟩

def knownStart : ExtTreeMap Int OsAccountType compare :=
  (∅ : ExtTreeMap Int OsAccountType compare).insert startUserId .admin

def servicesSucceed : MsgAnswer := ⟨.ok (), .ok (), .ok (), .ok (), ⟨.ok (), .ok (), .ok ()⟩⟩

def createAdmin (hasToken : Bool) : Op :=
  .createOsAccount ⟨[], .ok SerialNumbers.userId, ⟨[], .ok ()⟩, servicesSucceed⟩ ⟨"work", "work", .admin, hasToken, true⟩

theorem wifi_notReserved : ∀ c ∈ ["constraint.wifi"], c ∉ globalReserved ∧ c ∉ specificReserved ∧ c ≠ "" := by decide

def imposeWifi : List Op :=
  [.setGlobalOsAccountConstraints (some ⟨["constraint.wifi"], wifi_notReserved⟩) ["constraint.wifi"] true
      SerialNumbers.startId true,
    .setSpecificOsAccountConstraints (some ⟨["constraint.wifi"], wifi_notReserved⟩) ["constraint.wifi"] true
      SerialNumbers.userId SerialNumbers.startId true]

theorem harmless_createAdmin : StepHarmless ⟨true, false⟩ (fun _ => [])
    (some (firstBoot (fun _ => []) knownStart)) (createAdmin true) := by
  intro s _
  refine ⟨fun a ha => (by cases ha), fun s₁ localId _ _ _ => ⟨fun _ a ha => (by cases ha),
    .inr (.inr ⟨fun hadds => (by cases hadds.2.2.1), ?_⟩)⟩⟩
  rintro ⟨_, _, hrolls, -⟩
  cases hrolls with
  | storage h => cases h
  | bundle _ h => cases h
  | highestHap _ _ h => cases h
  | subspace _ _ _ h => cases h

theorem queriesAgree_of_harmless_wifi :
    ∃ s, Machine.run (step ⟨true, false⟩ fun _ => []) (some (firstBoot (fun _ => []) knownStart))
        (createAdmin true :: imposeWifi) = some s ∧
      isOsAccountConstraintEnable s ⟨true, false⟩ (.ok ()) 101 "constraint.wifi" = .ok true ∧
      QueriesAgree s ⟨true, false⟩ (.ok ()) 101 "constraint.wifi" := by
  obtain ⟨s, hs, hagree⟩ := queriesAgree_of_harmless ⟨true, false⟩ (fun _ => []) knownStart
    (by unfold StartsKnown; decide)
    (createAdmin true :: imposeWifi) ⟨harmless_createAdmin, fun _ _ => trivial, fun _ _ => trivial, trivial⟩
    (List.prefix_refl _)
  have hrun : (Machine.run (step ⟨true, false⟩ fun _ => []) (some (firstBoot (fun _ => []) knownStart))
      (createAdmin true :: imposeWifi)).map (fun s => (s.accounts[(101 : Int)]?.isSome,
        isOsAccountConstraintEnable s ⟨true, false⟩ (.ok ()) 101 "constraint.wifi")) = some (true, .ok true) := by
    decide +kernel
  rw [hs, Option.map_some, Option.some.injEq, Prod.mk.injEq] at hrun
  obtain ⟨info, hinfo⟩ := Option.isSome_iff_exists.mp hrun.1
  exact ⟨s, hs, hrun.2, (hagree 101 info hinfo).2 (.ok ()) "constraint.wifi"⟩

/-- Administrators are configured to have their constraint, which an account that the
enterprise manager makes has then from its start. -/
theorem constraintQueries_agree_edm :
    ∃ s, Machine.run (step ⟨true, false⟩ fun _ => [constraintAdminAuthorize])
        (some (firstBoot (fun _ => [constraintAdminAuthorize]) ∅)) (createAdmin false :: imposeWifi) = some s ∧
      isOsAccountConstraintEnable s ⟨true, false⟩ (.ok ()) 101 constraintAdminAuthorize = .ok true ∧
      QueriesAgree s ⟨true, false⟩ (.ok ()) 101 constraintAdminAuthorize := by
  have hcreate : StepHarmless ⟨true, false⟩ (fun _ => [constraintAdminAuthorize])
      (some (firstBoot (fun _ => [constraintAdminAuthorize]) ∅)) (createAdmin false) := fun s _ =>
    ⟨fun a ha => (by cases ha), fun s₁ localId _ _ _ => ⟨fun _ a ha => (by cases ha), .inl List.mem_cons_self⟩⟩
  obtain ⟨s, hs, hagree⟩ := constraintQueries_agree ⟨true, false⟩ (fun _ => [constraintAdminAuthorize]) ∅
    (fun _ _ => List.mem_cons_self) (createAdmin false :: imposeWifi)
    ⟨hcreate, fun _ _ => trivial, fun _ _ => trivial, trivial⟩ (List.prefix_refl _)
  have hrun : (Machine.run (step ⟨true, false⟩ fun _ => [constraintAdminAuthorize])
      (some (firstBoot (fun _ => [constraintAdminAuthorize]) ∅)) (createAdmin false :: imposeWifi)).map
      (fun s => (s.accounts[(101 : Int)]?.isSome,
        isOsAccountConstraintEnable s ⟨true, false⟩ (.ok ()) 101 constraintAdminAuthorize)) = some (true, .ok true) := by
    decide +kernel
  rw [hs, Option.map_some, Option.some.injEq, Prod.mk.injEq] at hrun
  obtain ⟨info, hinfo⟩ := Option.isSome_iff_exists.mp hrun.1
  exact ⟨s, hs, hrun.2, hagree 101 info hinfo (.ok ()) constraintAdminAuthorize⟩

/-- The enterprise manager makes an administrator: the constraint that it gets is there,
and no query says where from. -/
theorem not_queriesAgree_of_edm :
    ∃ s, step ⟨true, false⟩ (fun _ => []) (some (firstBoot (fun _ => []) knownStart)) (createAdmin false) = some s ∧
      (s.accounts[(101 : Int)]?).isSome ∧ ¬QueriesAgree s ⟨true, false⟩ (.ok ()) 101 constraintAdminAuthorize := by
  have hstep : (step ⟨true, false⟩ (fun _ => []) (some (firstBoot (fun _ => []) knownStart)) (createAdmin false)).map
      (fun s => ((s.accounts[(101 : Int)]?).isSome,
        isOsAccountConstraintEnable s ⟨true, false⟩ (.ok ()) 101 constraintAdminAuthorize,
        queryOsAccountConstraintSourceTypes s ⟨true, false⟩ (.ok ()) 101 constraintAdminAuthorize)) =
      some (true, .ok true, .ok []) := by
    decide +kernel
  obtain ⟨s, hs, hqueries⟩ := Option.map_eq_some_iff.mp hstep
  rw [Prod.mk.injEq, Prod.mk.injEq] at hqueries
  obtain ⟨hsome, henabled, hsources⟩ := hqueries
  refine ⟨s, hs, hsome, ?_⟩
  rintro ⟨enabled, all, sources, henabled', -, hsources', hagree⟩
  rw [henabled, Except.ok.injEq] at henabled'
  rw [hsources, Except.ok.injEq] at hsources'
  exact (hagree.sourced.mp henabled'.symm).1 hsources'.symm

theorem not_constraintQueries_agree :
    ¬∀ ops s, Machine.run (step ⟨true, false⟩ fun _ => []) (some (firstBoot (fun _ => []) knownStart)) ops = some s →
      ∀ id info, s.accounts[id]? = some info → ∀ ask c, QueriesAgree s ⟨true, false⟩ ask id c := by
  intro h
  obtain ⟨s, hs, hsome, hnot⟩ := not_queriesAgree_of_edm
  obtain ⟨info, hinfo⟩ := Option.isSome_iff_exists.mp hsome
  exact hnot (h [createAdmin false] s hs 101 info hinfo (.ok ()) constraintAdminAuthorize)

end runs

end OsAccount.ConstraintAgreement
