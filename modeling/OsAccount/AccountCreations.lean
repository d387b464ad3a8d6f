import OsAccount.AccountViews

namespace OsAccount.AccountCreations

open Std JsonUtils ConstraintStore ConstraintUpdate AccountConstraints AccountList AccountWriters AccountViews
open ConstraintDocuments ConstraintSetters OrderedMap
open SerialNumbers (LocalId)

variable {s : State} {b : Build}

structure LeftUntyped (s : State) (excludeId : Int) (a : CleanAnswer) : Prop where
  checked : ¬(a.id = startUserId ∨ a.id = adminLocalId ∨ a.id = u1Id ∨ a.id = excludeId ∨ a.isOperating)
  garbage : ∃ info, s.accounts[a.id]? = some info ∧ ¬(!info.toBeRemoved && info.isCreateCompleted) = true ∧
    (info.isCreateCompleted || info.isDataRemovable) = true
  typeDeleted : a.operate.delOsAccountType = .ok ()
  interrupted : ¬(a.operate.idm = .ok () ∧ Ends a.operate a.id)

structure SoundBut (b : Build) (id : Int) (s : State) : Prop where
  files : FilesSound s.files
  backed (j : Int) : j ≠ id → (view s j).Backed b j

variable {s' : State}

theorem SoundBut.update {k id : Int} (h : SoundBut b k s) (hfiles : FilesSound s'.files)
    (hothers : ∀ j ≠ id, view s' j = view s j) (hid : (view s' id).Backed b id) : SoundBut b k s' := by
  refine ⟨hfiles, fun j hk => ?_⟩
  by_cases hj : j = id
  · exact hj ▸ hid
  · rw [hothers j hj]
    exact h.backed j hk

variable {id : Int}

theorem SoundBut.sound (h : SoundBut b id s) (hid : (view s id).Backed b id) : Sound b s := by
  refine ⟨h.files, fun j => ?_⟩
  by_cases hj : j = id
  · exact hj ▸ hid
  · exact h.backed j hj

theorem SoundBut.of_sound (h : Sound b s) (id : Int) : SoundBut b id s := ⟨h.files, fun j _ => h.backed j⟩

def CleansHarmlessly (s : State) (b : Build) (excludeId : Int) (garbage : List CleanAnswer) : Prop :=
  ∀ a ∈ garbage, LeftUntyped s excludeId a → (view s a.id).Forgettable b a.id

def Lasts (v v' : View) : Prop := v'.record = none ∨ (v'.record = v.record ∧ v'.base = v.base)

theorem Lasts.refl (v : View) : Lasts v v := .inr ⟨rfl, rfl⟩

theorem Lasts.trans {v₁ v₂ v₃ : View} (h : Lasts v₁ v₂) (k : Lasts v₂ v₃) : Lasts v₁ v₃ := by
  rcases k with k | ⟨hrecord, hbase⟩
  · exact .inl k
  · rcases h with h | ⟨hrecord', hbase'⟩
    · exact .inl (hrecord.trans h)
    · exact .inr ⟨hrecord.trans hrecord', hbase.trans hbase'⟩

theorem Lasts.forgettable {v v' : View} (h : Lasts v v') (hforget : v.Forgettable b id) :
    v'.Forgettable b id := by
  intro hchecks info hinfo htype
  rcases h with hnone | ⟨hrecord, hbase⟩
  · rw [hnone] at hinfo
    cases hinfo
  · rw [hbase]
    exact hforget hchecks info (hrecord ▸ hinfo) htype

theorem lasts_forgotten (v : View) : Lasts v (v.forgotten b) := by
  unfold View.forgotten
  split
  · exact .inr ⟨rfl, rfl⟩
  · exact Lasts.refl v

variable {excludeId : Int} {garbage : List CleanAnswer}

theorem CleansHarmlessly.lasts
    (h : CleansHarmlessly s b excludeId garbage) (hlasts : ∀ j, Lasts (view s j) (view s' j)) :
    CleansHarmlessly s' b excludeId garbage := by
  intro a ha ⟨hchecked, ⟨info, hinfo, hgarbage⟩, hdeleted, hinterrupted⟩
  refine (hlasts a.id).forgettable (h a ha ⟨hchecked, ⟨info, ?_, hgarbage⟩, hdeleted, hinterrupted⟩)
  rcases hlasts a.id with hnone | ⟨hrecord, -⟩
  · cases hnone.symm.trans hinfo
  · exact hrecord.symm.trans hinfo

theorem CleansHarmlessly.congr
    (h : CleansHarmlessly s b excludeId garbage) (hothers : ∀ j ≠ excludeId, view s' j = view s j) :
    CleansHarmlessly s' b excludeId garbage := by
  intro a ha ⟨hchecked, ⟨info, hinfo, hgarbage⟩, hdeleted, hinterrupted⟩
  have hid : a.id ≠ excludeId := fun he => hchecked (.inr (.inr (.inr (.inl he))))
  have hrecord := congrArg View.record (hothers a.id hid)
  rw [hothers a.id hid]
  exact h a ha ⟨hchecked, ⟨info, hrecord.symm.trans hinfo, hgarbage⟩, hdeleted, hinterrupted⟩

theorem cleanGarbageOsAccount_sound (h : SoundBut b excludeId s) (a : CleanAnswer)
    (hclean : LeftUntyped s excludeId a → (view s a.id).Forgettable b a.id) :
    ∃ s', cleanGarbageOsAccount s b filesSucceed excludeId a = some s' ∧ SoundBut b excludeId s' ∧
      (∀ j, Lasts (view s j) (view s' j)) ∧ view s' excludeId = view s excludeId := by
  unfold cleanGarbageOsAccount
  split
  · exact ⟨s, rfl, h, fun j => Lasts.refl _, rfl⟩
  · rename_i hchecked
    have hexclude : excludeId ≠ a.id := fun he => hchecked (.inr (.inr (.inr (.inl he.symm))))
    have hothers : ∀ {s' : State}, (∀ j ≠ a.id, view s' j = view s j) → Lasts (view s a.id) (view s' a.id) →
        (∀ j, Lasts (view s j) (view s' j)) ∧ view s' excludeId = view s excludeId := by
      intro s' hothers hself
      refine ⟨fun j => ?_, hothers _ hexclude⟩
      by_cases hj : j = a.id
      · exact hj ▸ hself
      · rw [hothers j hj]
        exact Lasts.refl _
    cases hinfo : s.accounts[a.id]? with
    | none =>
        have hread : getRealOsAccountInfoById s b filesSucceed.read a.ask a.id =
            (.error .accountNotExistError, s) := by
          simp only [getRealOsAccountInfoById, getOsAccountInfoById, hinfo]
        have hnone : (view s a.id).record = none := hinfo
        obtain ⟨ret, s', hoperate, hsound, hviews, hself⟩ :=
          cleanOperate_spec b h.files a.operate a.id { localId := a.id }
        have hrecord : (view s' a.id).record = none := by
          rcases hself with hself | ⟨hself, -⟩ | ⟨-, -, -, hself⟩
          · rw [hself, hnone]
          · exact hself
          · rw [hself]
            unfold View.forgotten
            split
            · exact hnone
            · exact hnone
        simp only [hread, hoperate, ne_eq, not_true, if_false, Option.map_some]
        exact ⟨s', rfl, h.update hsound hviews (backed_of_none hrecord), hothers hviews (.inl hrecord)⟩
    | some info =>
        obtain ⟨real, cache, hreal, hcache, hback, -⟩ := getReal_spec hinfo b a.ask
        have hread : getRealOsAccountInfoById s b filesSucceed.read a.ask a.id = _ := hreal
        have hviews₁ : ∀ j ≠ a.id, view { s with typeCache := cache } j = view s j := by
          intro j hj
          simp only [view, hcache j hj]
        have hbacked₁ : (view { s with typeCache := cache } a.id).Backed b a.id :=
          hback.backed_read hinfo (h.backed a.id (Ne.symm hexclude))
        have hsound₁ : SoundBut b excludeId { s with typeCache := cache } := h.update h.files hviews₁ hbacked₁
        have hlasts₁ : Lasts (view s a.id) (view { s with typeCache := cache } a.id) := .inr ⟨rfl, rfl⟩
        simp only [hread]
        split
        · exact ⟨_, rfl, hsound₁, hothers hviews₁ hlasts₁⟩
        · rename_i hgarbage
          rw [hback.toBeRemoved, hback.isCreateCompleted] at hgarbage
          obtain ⟨ret, s', hoperate, hsound, hviews, hself⟩ :=
            cleanOperate_spec b hsound₁.files a.operate a.id { real with localId := a.id }
          have hviews' : ∀ j ≠ a.id, view s' j = view s j := fun j hj => (hviews j hj).trans (hviews₁ j hj)
          rw [hoperate]
          refine ⟨s', rfl, ?_⟩
          rcases hself with hself | ⟨hself, -⟩ | ⟨hflags, hdeleted, hinterrupted, hself⟩
          · exact ⟨h.update hsound hviews' (hself ▸ hbacked₁), hothers hviews' (hself ▸ hlasts₁)⟩
          · exact ⟨h.update hsound hviews' (backed_of_none hself), hothers hviews' (.inl hself)⟩
          · have hforget : (view { s with typeCache := cache } a.id).Forgettable b a.id := by
              refine hlasts₁.forgettable fun hchecks => hclean ?_ hchecks
              refine ⟨hchecked, ⟨info, hinfo, hgarbage, ?_⟩, hdeleted hchecks.support, hinterrupted⟩
              rw [← hback.isCreateCompleted, ← hback.isDataRemovable]
              exact hflags
            exact ⟨h.update hsound hviews' (hself ▸ hbacked₁.forgotten hforget),
              hothers hviews' (hself ▸ hlasts₁.trans (lasts_forgotten _))⟩

theorem cleanGarbageOsAccounts_sound (h : SoundBut b excludeId s)
    (hclean : CleansHarmlessly s b excludeId garbage) :
    ∃ s', cleanGarbageOsAccounts s b filesSucceed excludeId garbage = some s' ∧ SoundBut b excludeId s' ∧
      (∀ j, Lasts (view s j) (view s' j)) ∧ view s' excludeId = view s excludeId := by
  unfold cleanGarbageOsAccounts
  induction garbage generalizing s with
  | nil => exact ⟨s, rfl, h, fun j => Lasts.refl _, rfl⟩
  | cons a garbage ih =>
      obtain ⟨s₁, hs₁, h₁, hlasts₁, hexclude₁⟩ :=
        cleanGarbageOsAccount_sound h a (hclean a List.mem_cons_self)
      have hrest : CleansHarmlessly s b excludeId garbage := fun a' ha' => hclean a' (List.mem_cons_of_mem a ha')
      obtain ⟨s₂, hs₂, h₂, hlasts₂, hexclude₂⟩ := ih h₁ (hrest.lasts hlasts₁)
      refine ⟨s₂, ?_, h₂, fun j => (hlasts₁ j).trans (hlasts₂ j), hexclude₂.trans hexclude₁⟩
      rw [List.foldlM_cons, hs₁]
      exact hs₂

/-- Which data a creation deletes when it is undone: it is undone at the first call
that fails. -/
inductive RollsBack (a : MsgAnswer) : Bool → Bool → Prop
  | storage {e : ErrCode} : a.storage = .error e → RollsBack a false false
  | bundle {e : ErrCode} : a.storage = .ok () → a.bundle = .error e → RollsBack a true false
  | highestHap {e : ErrCode} : a.storage = .ok () → a.bundle = .ok () → a.highestHap = .error e →
      RollsBack a true true
  | subspace {e : ErrCode} : a.storage = .ok () → a.bundle = .ok () → a.highestHap = .ok () →
      a.subspace = .error e → RollsBack a true true

def Deletes (a : RollbackAnswer) (osAccountInfo : AccountFile) (needDelStorage needDelBms : Bool) : Prop :=
  startUserId < osAccountInfo.localId ∧ osAccountInfo.localId ≤ maxUserId ∧
    (osAccountInfo.isDataRemovable = true → (needDelBms = true → a.bundle = .ok ()) ∧
      (needDelStorage = true → a.storage = .ok ()) ∧ osAccountInfo.domainInfo.accountName = "")

def Stuck (a : MsgAnswer) (osAccountInfo : AccountFile) : Prop :=
  ∃ needDelStorage needDelBms, RollsBack a needDelStorage needDelBms ∧ a.rollback.delOsAccountType = .ok () ∧
    ¬Deletes a.rollback osAccountInfo needDelStorage needDelBms

theorem needed_ne_error {need : Bool} {ret : Ret} {e : ErrCode} (h : need = true → ret = .ok ()) :
    (if need = true then ret else .ok ()) ≠ .error e := by
  split
  · rename_i hneed
    rw [h hneed]
    exact fun he => by cases he
  · exact fun he => by cases he

theorem rollbackOsAccount_sound (h : Sound b s) (a : RollbackAnswer) (info : AccountFile)
    (needDelStorage needDelBms : Bool) (hstuck : a.delOsAccountType = .ok () →
      ¬Deletes a info needDelStorage needDelBms → (view s info.localId).Forgettable b info.localId) :
    Sound b (rollbackOsAccount s b filesSucceed a info needDelStorage needDelBms) := by
  unfold rollbackOsAccount
  rcases delOsAccountType_cases s b info.localId a.delOsAccountType with ⟨e, -, -, hdel⟩ |
    ⟨s₁, hdel, hanswer, hfiles, hothers, hself⟩
  · rw [hdel]
    exact h
  · rw [hdel]
    have hstays : ¬Deletes a info needDelStorage needDelBms → Sound b s₁ := by
      intro hnot
      refine h.update info.localId (hfiles ▸ h.files) hothers (hself ▸ (h.backed _).forgotten fun hchecks => ?_)
      exact hstuck (hanswer hchecks.support) hnot hchecks
    have hgoes : (startUserId < info.localId → info.localId ≤ maxUserId →
        Deletes a info needDelStorage needDelBms) → Sound b (delOsAccount s₁ filesSucceed info.localId).2 := by
      intro hdeletes
      rcases delOsAccount_cases s₁ info.localId with ⟨hid, hres⟩ | ⟨-, -, hres⟩
      · rw [hres]
        exact hstays fun hall => hid ⟨hall.1, hall.2.1⟩
      · rw [hres]
        exact h.erase (hfiles ▸ h.files) hothers
    dsimp only
    cases hremovable : info.isDataRemovable with
    | false =>
        refine hgoes fun hstart hmax => ⟨hstart, hmax, fun htrue => ?_⟩
        rw [hremovable] at htrue
        cases htrue
    | true =>
        simp only [Bool.not_true, Bool.false_eq_true, if_false]
        split
        · rename_i e hbundle
          exact hstays fun hall => needed_ne_error (hall.2.2 hremovable).1 hbundle
        · rename_i e _ hstorage
          exact hstays fun hall => needed_ne_error (hall.2.2 hremovable).2.1 hstorage
        · rename_i hbundle hstorage
          split
          · rename_i hname
            refine hgoes fun hstart hmax => ⟨hstart, hmax, fun _ => ⟨fun hneed => ?_, fun hneed => ?_, hname⟩⟩
            · rw [if_pos hneed] at hbundle
              exact hbundle
            · rw [if_pos hneed] at hstorage
              exact hstorage
          · rename_i hname
            exact hstays fun hall => hname (hall.2.2 hremovable).2.2

theorem sendMsgForAccountCreate_sound (h : Sound b s) (a : MsgAnswer) {info : AccountFile}
    (hown : ∀ c ∈ info.constraints, c ∈ (view s info.localId).base)
    (hadmin : (view s info.localId).MayBeRestricted b info.localId info.type →
      constraintAdminAuthorize ∈ (view s info.localId).base)
    (hstuck : Stuck a info → (view s info.localId).Forgettable b info.localId)
    (hrecord : (view s info.localId).record.isSome) : Sound b (sendMsgForAccountCreate s b filesSucceed a info).2 := by
  have hundo : ∀ {needDelStorage needDelBms}, RollsBack a needDelStorage needDelBms →
      Sound b (rollbackOsAccount s b filesSucceed a.rollback info needDelStorage needDelBms) :=
    fun hrolls => rollbackOsAccount_sound h _ _ _ _ fun hdeleted hnot => hstuck ⟨_, _, hrolls, hdeleted, hnot⟩
  unfold sendMsgForAccountCreate
  split
  · rename_i e hstorage
    exact hundo (.storage hstorage)
  · rename_i hstorage
    split
    · rename_i e hbundle
      exact hundo (.bundle hstorage hbundle)
    · rename_i hbundle
      split
      · rename_i e hhap
        exact hundo (.highestHap hstorage hbundle hhap)
      · rename_i hhap
        unfold finalizeAccountCreate
        split
        · rename_i e hsubspace
          exact hundo (.subspace hstorage hbundle hhap hsubspace)
        · rcases updateOsAccount_cases s info.localId { info with isCreateCompleted := true } with
            ⟨hnone, -⟩ | ⟨-, hwrite⟩
          · have hnone' : (view s info.localId).record = none := hnone
            rw [hnone'] at hrecord
            cases hrecord
          · have hupdate : updateOsAccount s filesSucceed.update info.localId
                { info with isCreateCompleted := true } = _ := hwrite
            simp only [hupdate]
            exact h.write info.localId hown hadmin

inductive TypeStep
  | unwritten
  | written
  | restricted

/-- The type of a new account does no harm: the account is not taken for an administrator
that the trusted environment does not know. `v` is what there was before, and `stuck` says
that the creation fails and loses the type. -/
def TypeHarmless (b : Build) (id : Int) (v : View) (type : OsAccountType) (stuck : Prop) : TypeStep → Prop
  | .unwritten => v.record = none → ¬v.MayBeRestricted b id type
  | .written => stuck → ChecksType b id → (v.record.elim type (·.type)) ≠ .admin
  | .restricted => ChecksType b id → type ≠ .admin ∧ (stuck → (v.record.elim type (·.type)) ≠ .admin)

theorem TypeHarmless.mono {v : View} {type : OsAccountType} {p q : Prop} (hpq : p → q) {step : TypeStep}
    (h : TypeHarmless b id v type q step) : TypeHarmless b id v type p step := by
  cases step with
  | unwritten => exact h
  | written => exact fun hp => h (hpq hp)
  | restricted => exact fun hchecks => ⟨(h hchecks).1, fun hp => (h hchecks).2 (hpq hp)⟩

theorem updateAccountTypeCache_view (hb : b.supportAuthorization = true) (s : State) (id : Int) (type : OsAccountType) :
    (∀ j ≠ id, view (updateAccountTypeCache s b id type true) j = view s j) ∧
      view (updateAccountTypeCache s b id type true) id = (view s id).typed type true := by
  simp only [updateAccountTypeCache, hb, if_true, view]
  refine ⟨fun j hj => ?_, ?_⟩
  · rw [getElem?_insert_eq, if_neg (Ne.symm hj)]
  · rw [getElem?_insert_eq, if_pos rfl]
    rfl

theorem insertOsAccountType_sound (h : SoundBut b id s) (hb : b.supportAuthorization = true) (a : TeeAnswer)
    (type : OsAccountType) (hclean : CleansHarmlessly s b id a.garbage) :
    ∃ ret s', insertOsAccountType s b filesSucceed a id type = some (ret, s') ∧ SoundBut b id s' ∧
      ((ret ≠ .ok () ∧ a.result ≠ .ok () ∧ view s' id = view s id) ∨
        (ret = .ok () ∧ a.result = .ok () ∧ view s' id = (view s id).typed type false)) := by
  obtain ⟨s₁, hs₁, h₁, -, hexclude⟩ := cleanGarbageOsAccounts_sound h hclean
  simp only [insertOsAccountType, insertOsAccountTypeToTee, hs₁, Option.bind_eq_bind, Option.bind_some]
  cases hresult : a.result with
  | error e => exact ⟨.error e, s₁, rfl, h₁, .inl ⟨by simp, by simp, hexclude⟩⟩
  | ok u =>
      simp only [updateAccountTypeCache, hb, if_true]
      have hself : view { s₁ with typeCache := s₁.typeCache.insert id (type, false), tee := s₁.tee.insert id type } id =
          (view s id).typed type false := by
        rw [← hexclude]
        simp [view, View.typed]
      refine ⟨.ok (), _, rfl, ⟨h₁.files, fun j hj => ?_⟩, .inr ⟨rfl, trivial, hself⟩⟩
      have hother : view { s₁ with typeCache := s₁.typeCache.insert id (type, false), tee := s₁.tee.insert id type } j =
          view s₁ j := by
        simp [view, getElem?_insert_eq, Ne.symm hj]
      rw [hother]
      exact h₁.backed j hj

/-- An account whose record and base constraints are there, but not its type. `v` is what
there was before, `info` the new account, and `r` its record. -/
structure Prepared (b : Build) (v : View) (info r : AccountFile) (s : State) : Prop where
  others : SoundBut b info.localId s
  view : ∃ l, view s info.localId = { v with record := some r, base := l } ∧ (∀ c ∈ v.base, c ∈ l) ∧
    (∀ c ∈ info.constraints, c ∈ l) ∧ ∀ c ∈ r.constraints, c ∈ l
  type : r.type = v.record.elim info.type (·.type)
  old {r' : AccountFile} : v.record = some r' → r' = r
  backed : v.Backed b info.localId

section prepared

variable {v : View} {info r : AccountFile}

def TypeSettled (b : Build) (v : View) (info : AccountFile) (s : State) (stuck : Prop) (step : TypeStep) : Prop :=
  constraintAdminAuthorize ∈ (AccountViews.view s info.localId).base ∨
    TypeHarmless b info.localId v info.type stuck step

theorem Prepared.sound (h : Prepared b v info r s) {stuck : Prop} (hsettled : TypeSettled b v info s stuck .unwritten) :
    Sound b s := by
  obtain ⟨l, hview, hbase, -, hr⟩ := h.view
  refine h.others.sound ?_
  rw [TypeSettled, hview] at hsettled
  rw [hview]
  refine backed_of_some rfl hr fun hrestricted => ?_
  rcases hsettled with hl | hharmless
  · exact hl
  · have htype := h.type
    cases hrecord : v.record with
    | none =>
        rw [hrecord, Option.elim_none] at htype
        rw [htype] at hrestricted
        exact absurd hrestricted (hharmless hrecord)
    | some old =>
        obtain rfl := h.old hrecord
        exact hbase _ (h.backed.admin hrecord hrestricted)

theorem Prepared.sends (h : Prepared b v info r s) {s' : State} (h' : SoundBut b info.localId s') {isRestricted : Bool}
    (hview' : AccountViews.view s' info.localId = (AccountViews.view s info.localId).typed info.type isRestricted)
    (a : MsgAnswer)
    (hsettled : TypeSettled b v info s (Stuck a info) (if isRestricted then .restricted else .written)) :
    Sound b (sendMsgForAccountCreate s' b filesSucceed a info).2 := by
  obtain ⟨l, hview, -, hown, hr⟩ := h.view
  rw [TypeSettled, hview] at hsettled
  rw [hview] at hview'
  have hrestricted : ∀ type, (AccountViews.view s' info.localId).MayBeRestricted b info.localId type →
      constraintAdminAuthorize ∈ l := by
    intro type hmay
    rw [hview'] at hmay
    rcases hsettled with hl | hharmless
    · exact hl
    · have hadmin : (info.type, isRestricted) = (.admin, true) := hmay.2
      rw [Prod.mk.injEq] at hadmin
      obtain ⟨htype, rfl⟩ := hadmin
      exact absurd htype (hharmless hmay.1).1
  have hbacked : (AccountViews.view s' info.localId).Backed b info.localId := by
    have hadmin := hrestricted r.type
    rw [hview'] at hadmin ⊢
    exact backed_of_some rfl hr hadmin
  refine sendMsgForAccountCreate_sound (h'.sound hbacked) a ?_ ?_ (fun hstuck hchecks r' hr' htype => ?_) ?_
  · rw [hview']
    exact hown
  · have hadmin := hrestricted info.type
    rw [hview'] at hadmin ⊢
    exact hadmin
  · rw [hview'] at hr' ⊢
    obtain rfl : r = r' := Option.some.inj hr'
    rcases hsettled with hl | hharmless
    · exact hl
    · rw [h.type] at htype
      cases isRestricted with
      | true => exact absurd htype ((hharmless hchecks).2 hstuck)
      | false => exact absurd htype (hharmless hstuck hchecks)
  · rw [hview']
    rfl

theorem Prepared.congr (h : Prepared b v info r s) {s' : State} (h' : SoundBut b info.localId s')
    (hview : AccountViews.view s' info.localId = AccountViews.view s info.localId) : Prepared b v info r s' :=
  ⟨h', hview ▸ h.view, h.type, h.old, h.backed⟩

theorem Prepared.withConstraints (h : Prepared b v info r s) {constraints : List String}
    (hown : ∀ c ∈ constraints, c ∈ (AccountViews.view s info.localId).base) :
    Prepared b v { info with constraints } r s := by
  obtain ⟨l, hview, hbase, -, hr⟩ := h.view
  rw [hview] at hown
  exact ⟨h.others, ⟨l, hview, hbase, hown, hr⟩, h.type, h.old, h.backed⟩

theorem Prepared.sends_unchecked (h : Prepared b v info r s) (hb : b.supportAuthorization = false) (a : MsgAnswer) :
    Sound b (sendMsgForAccountCreate s b filesSucceed a info).2 := by
  have hunchecked : ¬ChecksType b info.localId := by
    intro hchecks
    rw [hchecks.support] at hb
    cases hb
  obtain ⟨l, hview, -, hown, -⟩ := h.view
  have hsettled : TypeSettled b v info s True .unwritten := .inr fun _ hrestricted => hunchecked hrestricted.1
  have hs : Sound b s := h.sound hsettled
  refine sendMsgForAccountCreate_sound hs a ?_ (fun hrestricted => absurd hrestricted.1 hunchecked)
    (fun _ hchecks => absurd hchecks hunchecked) ?_
  · rw [hview]
    exact hown
  · rw [hview]
    rfl

end prepared

theorem insertOsAccount_cases (s : State) (info : AccountFile) :
    insertOsAccount s filesSucceed info = (.error .idCannotCreateError, s) ∨
    (insertOsAccount s filesSucceed info = (.error .insertFileExistsError, s) ∧
      (view s info.localId).record.isSome) ∨
    (insertOsAccount s filesSucceed info = (.ok (), { s with accounts := s.accounts.insert info.localId info }) ∧
      (view s info.localId).record = none) := by
  unfold insertOsAccount
  by_cases hid : info.localId < adminLocalId
  · exact .inl (if_pos hid)
  · rw [if_neg hid]
    by_cases hmem : info.localId ∈ s.accounts
    · exact .inr (.inl ⟨if_pos hmem, ExtTreeMap.mem_iff_isSome_getElem?.mp hmem⟩)
    · exact .inr (.inr ⟨if_neg hmem, ExtTreeMap.getElem?_eq_none hmem⟩)

theorem prepared_of_updateBase {s₁ : State} {v : View} (info r : AccountFile) (constraints : List String)
    (h : SoundBut b info.localId s₁) (hview : view s₁ info.localId = { v with record := some r })
    (hinfo : ∀ c ∈ info.constraints, c ∈ constraints) (hr : ∀ c ∈ r.constraints, c ∈ v.base ∨ c ∈ constraints)
    (htype : r.type = v.record.elim info.type (·.type)) (hold : ∀ {r'}, v.record = some r' → r' = r)
    (hv : v.Backed b info.localId) :
    ∃ s', updateBase s₁ filesSucceed info.localId constraints = (.ok (), s') ∧ Prepared b v info r s' ∧
      (∀ c, c ∈ (view s' info.localId).base ↔ c ∈ v.base ∨ c ∈ constraints) ∧
      ∀ j ≠ info.localId, view s' j = view s₁ j := by
  obtain ⟨base, l, hupdate, hfiles, hothers, hself, hl⟩ := rebase_spec info.localId h.files constraints true
  have hupdate' : updateBase s₁ filesSucceed info.localId constraints =
      (.ok (), { s₁ with files := { s₁.files with base } }) := by
    simp only [updateBase, filesSucceed, hupdate]
  rw [hview] at hself hl
  have hmem : ∀ c, c ∈ l ↔ c ∈ v.base ∨ c ∈ constraints := hl
  refine ⟨_, hupdate', ⟨⟨hfiles, fun j hj => ?_⟩, ⟨l, hself, fun c hc => ?_, fun c hc => ?_, fun c hc => ?_⟩, htype,
    hold, hv⟩, fun c => ?_, hothers⟩
  · rw [hothers j hj]
    exact h.backed j hj
  · exact (hmem c).mpr (.inl hc)
  · exact (hmem c).mpr (.inr (hinfo c hc))
  · exact (hmem c).mpr (hr c hc)
  · rw [hself]
    exact hmem c

section created

variable (constraintsByType : OsAccountType → List String)

def newAccount (id : Int) (c : Creation) : AccountFile where
  localId := id
  localName := c.localName
  shortName := c.shortName
  type := c.type
  constraints := constraintsByType c.type

theorem prepareOsAccountInfo_cases (h : Sound b s) (localId : LocalId) (c : Creation) :
    (∃ e, prepareOsAccountInfo s filesSucceed constraintsByType (.ok localId) c = (.error e, s)) ∨
    ∃ s', prepareOsAccountInfo s filesSucceed constraintsByType (.ok localId) c =
        (.ok (newAccount constraintsByType localId.val c), s') ∧ (view s localId.val).record = none ∧
      Prepared b (view s localId.val) (newAccount constraintsByType localId.val c)
        (newAccount constraintsByType localId.val c) s' ∧
      (∀ x, x ∈ (view s' localId.val).base ↔ x ∈ (view s localId.val).base ∨ x ∈ constraintsByType c.type) ∧
      ∀ j ≠ localId.val, view s' j = view s j := by
  have hfails : ∀ {e : ErrCode} {s₁ : State},
      insertOsAccount s filesSucceed (newAccount constraintsByType localId.val c) = (.error e, s₁) →
      prepareOsAccountInfo s filesSucceed constraintsByType (.ok localId) c = (.error e, s₁) := by
    intro e s₁ hinsert
    simp only [newAccount] at hinsert
    simp only [prepareOsAccountInfo, hinsert]
  have hprepares : ∀ {s₁ s₂ : State},
      insertOsAccount s filesSucceed (newAccount constraintsByType localId.val c) = (.ok (), s₁) →
      updateBase s₁ filesSucceed localId.val (constraintsByType c.type) = (.ok (), s₂) →
      prepareOsAccountInfo s filesSucceed constraintsByType (.ok localId) c =
        (.ok (newAccount constraintsByType localId.val c), s₂) := by
    intro s₁ s₂ hinsert hupdate
    simp only [newAccount] at hinsert ⊢
    simp only [prepareOsAccountInfo, hinsert, hupdate]
  rcases insertOsAccount_cases s (newAccount constraintsByType localId.val c) with hinsert | ⟨hinsert, -⟩ |
    ⟨hinsert, hnone⟩
  · exact .inl ⟨_, hfails hinsert⟩
  · exact .inl ⟨_, hfails hinsert⟩
  · have hself := view_insert s localId.val (newAccount constraintsByType localId.val c) localId.val
    rw [if_pos rfl] at hself
    have hbut : SoundBut b localId.val { s with
        accounts := s.accounts.insert localId.val (newAccount constraintsByType localId.val c) } := by
      refine ⟨h.files, fun j hj => ?_⟩
      rw [view_insert, if_neg hj]
      exact h.backed j
    have hnone' : (view s localId.val).record = none := hnone
    obtain ⟨s', hupdate, hprepared, hbase, hothers⟩ :=
      prepared_of_updateBase (newAccount constraintsByType localId.val c) (newAccount constraintsByType localId.val c)
        (constraintsByType c.type) hbut hself (fun c hc => hc) (fun c hc => .inr hc) (by rw [hnone', Option.elim_none])
        (fun hr' => by cases hnone'.symm.trans hr') (h.backed localId.val)
    refine .inr ⟨s', hprepares hinsert hupdate, hnone, hprepared, hbase, fun j hj => ?_⟩
    rw [hothers j hj, view_insert, if_neg hj]

def typeStep (c : Creation) (a : TeeAnswer) : TypeStep :=
  if c.hasToken then if a.result = .ok () then .written else .unwritten
  else if c.isEdmCalling then .restricted
  else .unwritten

/-- The enterprise manager makes an administrator: the record gets the constraint that
the base file does not get. -/
def AddsToRecord (b : Build) (c : Creation) : Prop :=
  b.supportAuthorization = true ∧ c.type = .admin ∧ c.hasToken = false ∧ c.isEdmCalling = true

structure CreatesHarmlessly (b : Build) (s : State) (a : CreateAnswer) (c : Creation) (id : Int) : Prop where
  clean : c.hasToken = true → CleansHarmlessly s b id a.tee.garbage
  settled : constraintAdminAuthorize ∈ constraintsByType c.type ∨ constraintAdminAuthorize ∈ (view s id).base ∨
    (¬AddsToRecord b c ∧ TypeHarmless b id (view s id) c.type (Stuck a.msg { localId := id })
      (typeStep c a.tee))

theorem handleCreateOsAccountToken_sound {s₁ : State} {localId : Int} {c : Creation} (a : CreateAnswer)
    (hb : b.supportAuthorization = true) (hcreates : CreatesHarmlessly constraintsByType b s a c localId)
    (hprepared : Prepared b (view s localId) (newAccount constraintsByType localId c)
      (newAccount constraintsByType localId c) s₁)
    (hbase : ∀ x, x ∈ (view s₁ localId).base ↔ x ∈ (view s localId).base ∨ x ∈ constraintsByType c.type)
    (hothers : ∀ j ≠ localId, view s₁ j = view s j) :
    ∃ ret s₂, handleCreateOsAccountToken s₁ b filesSucceed a.tee (newAccount constraintsByType localId c) c =
        some (ret, s₂) ∧
      ((∃ e, ret = .error e ∧ Sound b s₂) ∨
        ∃ info, ret = .ok info ∧ Sound b (sendMsgForAccountCreate s₂ b filesSucceed a.msg info).2) := by
  have hsettled : constraintAdminAuthorize ∈ (view s₁ localId).base ∨ (¬AddsToRecord b c ∧
      TypeHarmless b localId (view s localId) c.type (Stuck a.msg { localId }) (typeStep c a.tee)) := by
    rcases hcreates.settled with htype | hown | hharmless
    · exact .inl ((hbase _).mpr (.inr htype))
    · exact .inl ((hbase _).mpr (.inl hown))
    · exact .inr hharmless
  unfold handleCreateOsAccountToken
  unfold typeStep at hsettled
  cases htoken : c.hasToken with
  | true =>
      simp only [htoken, if_true] at hsettled ⊢
      obtain ⟨ret, s₂, hinsert, hbut, hcases⟩ := insertOsAccountType_sound hprepared.others hb a.tee c.type
        ((hcreates.clean htoken).congr hothers)
      have hinsert' : insertOsAccountType s₁ b filesSucceed a.tee (newAccount constraintsByType localId c).localId
        (newAccount constraintsByType localId c).type = some (ret, s₂) := hinsert
      simp only [hinsert', Option.bind_eq_bind, Option.bind_some]
      rcases hcases with ⟨hret, hresult, hview⟩ | ⟨rfl, hresult, hview⟩
      · rw [if_neg hresult] at hsettled
        cases ret with
        | ok u => exact absurd rfl hret
        | error e =>
            have hsound : Sound b s₂ := (hprepared.congr hbut hview).sound (hview ▸ hsettled.imp_right And.right)
            exact ⟨_, _, rfl, .inl ⟨_, rfl, hsound⟩⟩
      · rw [if_pos hresult] at hsettled
        exact ⟨_, _, rfl, .inr ⟨_, rfl, hprepared.sends hbut hview a.msg (hsettled.imp_right And.right)⟩⟩
  | false =>
      cases hedm : c.isEdmCalling with
      | false =>
          simp only [htoken, hedm, Bool.false_eq_true, if_false] at hsettled ⊢
          exact ⟨_, _, rfl, .inl ⟨_, rfl, hprepared.sound (hsettled.imp_right And.right)⟩⟩
      | true =>
          simp only [htoken, hedm, Bool.false_eq_true, if_false, if_true] at hsettled ⊢
          obtain ⟨hviews, hself⟩ := updateAccountTypeCache_view hb s₁ localId c.type
          have hbut : SoundBut b localId (updateAccountTypeCache s₁ b localId c.type true) := by
            refine ⟨?_, fun j hj => ?_⟩
            · simp only [updateAccountTypeCache, hb, if_true]
              exact hprepared.others.files
            · rw [hviews j hj]
              exact hprepared.others.backed j hj
          have hown : ∀ x ∈ if c.type = .admin then constraintsByType c.type ++ [constraintAdminAuthorize]
              else constraintsByType c.type, x ∈ (view s₁ localId).base := by
            intro x hx
            split at hx
            · rename_i hadmin
              rcases List.mem_append.mp hx with hx | hx
              · exact (hbase x).mpr (.inr hx)
              · rw [List.mem_singleton.mp hx]
                rcases hsettled with hauthorized | ⟨hnot, -⟩
                · exact hauthorized
                · exact absurd ⟨hb, hadmin, htoken, hedm⟩ hnot
            · exact (hbase x).mpr (.inr hx)
          exact ⟨_, _, rfl, .inr ⟨_, rfl, (hprepared.withConstraints hown).sends hbut hself a.msg
            (hsettled.imp_right And.right)⟩⟩

theorem createOsAccount_sound (h : Sound b s) (a : CreateAnswer) (c : Creation)
    (hclean : CleansHarmlessly s b (-1) a.garbage)
    (hcreates : ∀ s₁ localId, cleanGarbageOsAccounts s b filesSucceed (-1) a.garbage = some s₁ →
      a.localId = .ok localId → (view s₁ localId.val).record = none →
      CreatesHarmlessly constraintsByType b s₁ a c localId.val) :
    ∃ ret s', createOsAccount s b filesSucceed constraintsByType a c = some (ret, s') ∧ Sound b s' := by
  obtain ⟨s₁, hs₁, hbut, -, hexclude⟩ := cleanGarbageOsAccounts_sound (SoundBut.of_sound h (-1)) hclean
  have h₁ : Sound b s₁ := hbut.sound (hexclude ▸ h.backed (-1))
  simp only [createOsAccount, hs₁, Option.bind_eq_bind, Option.bind_some]
  cases hid : a.localId with
  | error e => exact ⟨_, _, rfl, h₁⟩
  | ok localId =>
      rcases prepareOsAccountInfo_cases constraintsByType h₁ localId c with ⟨e, hprepare⟩ |
        ⟨s₂, hprepare, hnone, hprepared, hbase, hothers⟩
      · rw [hprepare]
        exact ⟨_, _, rfl, h₁⟩
      · rw [hprepare]
        dsimp only
        cases hb : b.supportAuthorization with
        | false => exact ⟨_, _, rfl, hprepared.sends_unchecked hb a.msg⟩
        | true =>
            obtain ⟨ret, s₃, hhandle, hcases⟩ := handleCreateOsAccountToken_sound constraintsByType a hb
              (hcreates s₁ localId hs₁ hid hnone) hprepared hbase hothers
            simp only [hhandle, if_true, Option.bind_some]
            rcases hcases with ⟨e, rfl, hsound⟩ | ⟨info, rfl, hsound⟩
            · exact ⟨_, _, rfl, hsound⟩
            · exact ⟨_, _, rfl, hsound⟩

def incompleteAccount (info : AccountFile) : AccountFile :=
  { info with
    isCreateCompleted := false
    isDataRemovable := false }

def fullAccount (info : AccountFile) : AccountFile :=
  { incompleteAccount info with constraints := merge (constraintsByType info.type) info.constraints }

theorem mem_merge {l₁ l₂ : List String} {c : String} : c ∈ merge l₁ l₂ ↔ c ∈ l₁ ∨ c ∈ l₂ := List.mem_merge

theorem prepareOsAccountInfoWithFullInfo_cases (h : Sound b s) (numbers : Ret) (info : AccountFile) :
    (∃ e, prepareOsAccountInfoWithFullInfo s filesSucceed constraintsByType numbers info = (.error e, s)) ∨
    ∃ r s', prepareOsAccountInfoWithFullInfo s filesSucceed constraintsByType numbers info =
        (.ok (fullAccount constraintsByType info), s') ∧
      Prepared b (view s info.localId) (fullAccount constraintsByType info) r s' ∧
      (∀ c, c ∈ (view s' info.localId).base ↔
        c ∈ (view s info.localId).base ∨ c ∈ constraintsByType info.type ∨ c ∈ info.constraints) ∧
      ∀ j ≠ info.localId, view s' j = view s j := by
  cases numbers with
  | error e => exact .inl ⟨e, rfl⟩
  | ok u =>
      have hupdates : ∀ {s₁ s' : State}, updateBase s₁ filesSucceed info.localId
          (fullAccount constraintsByType info).constraints = (.ok (), s') →
          prepareOsAccountInfoWithFullInfo.update filesSucceed constraintsByType s₁ (incompleteAccount info) =
            (.ok (fullAccount constraintsByType info), s') := by
        intro s₁ s' hupdate
        have hmerge : updateBase s₁ filesSucceed (incompleteAccount info).localId
            (merge (constraintsByType (incompleteAccount info).type) (incompleteAccount info).constraints) =
              (.ok (), s') := hupdate
        simp only [prepareOsAccountInfoWithFullInfo.update, hmerge]
        rfl
      rcases insertOsAccount_cases s (incompleteAccount info) with hinsert | ⟨hinsert, hsome⟩ | ⟨hinsert, hnone⟩
      · simp only [incompleteAccount] at hinsert
        refine .inl ⟨.idCannotCreateError, ?_⟩
        simp only [prepareOsAccountInfoWithFullInfo, hinsert, reduceCtorEq, if_false]
      · obtain ⟨r, hr⟩ := Option.isSome_iff_exists.mp hsome
        have hr' : (view s info.localId).record = some r := hr
        obtain ⟨s', hupdate, hprepared, hbase, hothers⟩ :=
          prepared_of_updateBase (fullAccount constraintsByType info) r _ (SoundBut.of_sound h info.localId)
            (by rw [← hr']; rfl) (fun c hc => hc) (fun c hc => .inl ((h.backed info.localId).own hr' hc))
            (by rw [hr', Option.elim_some]) (fun hold => Option.some.inj (hold.symm.trans hr')) (h.backed info.localId)
        have hupdate' := hupdates hupdate
        simp only [incompleteAccount] at hinsert hupdate'
        refine .inr ⟨r, s', ?_, hprepared, fun c => ?_, hothers⟩
        · simp only [prepareOsAccountInfoWithFullInfo, hinsert, if_true, hupdate']
        · rw [← mem_merge]
          exact hbase c
      · have hnone' : (view s info.localId).record = none := hnone
        have hviews := view_insert s info.localId (incompleteAccount info)
        have hbut : SoundBut b info.localId { s with
            accounts := s.accounts.insert info.localId (incompleteAccount info) } := by
          refine ⟨h.files, fun j hj => ?_⟩
          rw [hviews, if_neg hj]
          exact h.backed j
        obtain ⟨s', hupdate, hprepared, hbase, hothers⟩ :=
          prepared_of_updateBase (fullAccount constraintsByType info) (incompleteAccount info) _ hbut
            ((hviews _).trans (if_pos rfl)) (fun c hc => hc) (fun c hc => .inr (mem_merge.mpr (.inr hc)))
            (by rw [hnone', Option.elim_none]; rfl) (fun hold => by cases hnone'.symm.trans hold)
            (h.backed info.localId)
        have hupdate' := hupdates hupdate
        simp only [incompleteAccount] at hinsert hupdate'
        refine .inr ⟨_, s', ?_, hprepared, fun c => ?_, fun j hj => ?_⟩
        · simp only [prepareOsAccountInfoWithFullInfo, hinsert, hupdate']
        · rw [← mem_merge]
          exact hbase c
        · rw [hothers j hj, hviews, if_neg hj]

end created

end OsAccount.AccountCreations
