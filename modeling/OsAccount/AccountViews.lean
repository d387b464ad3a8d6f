import OsAccount.AccountWriters
import OsAccount.ConstraintQueries

namespace OsAccount.AccountViews

open Std JsonUtils ConstraintStore ConstraintUpdate AccountConstraints AccountList AccountWriters
open ConstraintDocuments ConstraintQueries ConstraintSetters OrderedMap
open ConstraintRemoval (saved)
open SerialNumbers (LocalId)

structure View where
  record : Option AccountFile
  base : List String
  cached : Option (OsAccountType × Bool)
  tee : Option OsAccountType

def view (s : State) (id : Int) : View :=
  ⟨s.accounts[id]?, getVectorStringFromJson s.files.base (toString id), s.typeCache[id]?, s.tee[id]?⟩

def ChecksType (b : Build) (id : Int) : Prop := (b.supportAuthorization && !b.isEmulator) = true ∧ id ≥ startUserId

def View.realType (v : View) (type : OsAccountType) : OsAccountType × Bool :=
  v.cached.getD (match v.tee with
    | some realType => (realType, false)
    | none => (type, true))

def View.MayBeRestricted (v : View) (b : Build) (id : Int) (type : OsAccountType) : Prop :=
  ChecksType b id ∧ v.realType type = (.admin, true)

structure View.Backed (v : View) (b : Build) (id : Int) : Prop where
  own {info : AccountFile} {c : String} : v.record = some info → c ∈ info.constraints → c ∈ v.base
  admin {info : AccountFile} : v.record = some info → v.MayBeRestricted b id info.type →
    constraintAdminAuthorize ∈ v.base

structure View.Plain (v : View) : Prop where
  record {info : AccountFile} : v.record = some info → info.type ≠ .admin
  cached {t : OsAccountType × Bool} : v.cached = some t → t.1 ≠ .admin
  tee {type : OsAccountType} : v.tee = some type → type ≠ .admin

structure Sound (b : Build) (s : State) : Prop where
  files : FilesSound s.files
  backed (id : Int) : (view s id).Backed b id

section view

variable {b : Build} {id : Int} {v : View} {info : AccountFile}

theorem backed_of_none (h : v.record = none) : v.Backed b id where
  own hinfo := by
    rw [h] at hinfo
    cases hinfo
  admin hinfo := by
    rw [h] at hinfo
    cases hinfo

theorem backed_of_some (hrecord : v.record = some info) (hown : ∀ c ∈ info.constraints, c ∈ v.base)
    (hadmin : v.MayBeRestricted b id info.type → constraintAdminAuthorize ∈ v.base) : v.Backed b id where
  own {info' c} hinfo hc := by
    obtain rfl : info = info' := Option.some.inj (hrecord.symm.trans hinfo)
    exact hown c hc
  admin {info'} hinfo hrestricted := by
    obtain rfl : info = info' := Option.some.inj (hrecord.symm.trans hinfo)
    exact hadmin hrestricted

theorem View.Plain.realType (h : v.Plain) {type : OsAccountType} (htype : type ≠ .admin) :
    (v.realType type).1 ≠ .admin := by
  unfold View.realType
  cases hcached : v.cached with
  | some t => exact h.cached hcached
  | none =>
      cases htee : v.tee with
      | some realType => exact h.tee htee
      | none => exact htype

theorem mayBeRestricted_of_restrictedAdmin {s : State} {ask : Ret} (h : restrictedAdmin s b ask id info) :
    (view s id).MayBeRestricted b id info.type := by
  obtain ⟨hbuild, hid, htype⟩ := h
  refine ⟨⟨hbuild, hid⟩, ?_⟩
  unfold refreshAccountTypeInCache at htype
  unfold View.realType view
  cases hcached : s.typeCache[id]? with
  | some t =>
      rw [hcached] at htype
      exact htype
  | none =>
      rw [hcached] at htype
      cases ask with
      | error e => simp at htype
      | ok u =>
          cases htee : s.tee[id]? with
          | some realType => simp [htee] at htype
          | none =>
              simp only [htee] at htype
              exact htype

theorem Sound.queriesAgree {s : State} (h : Sound b s) (hinfo : s.accounts[id]? = some info) (ask : Ret) (c : String) :
    QueriesAgree s b ask id c := by
  rw [queriesAgree_iff h.files hinfo]
  rintro (hc | ⟨rfl, hrestricted⟩)
  · exact .inl ((h.backed id).own hinfo hc)
  · exact .inl ((h.backed id).admin hinfo (mayBeRestricted_of_restrictedAdmin hrestricted))

theorem Sound.update {s s' : State} (h : Sound b s) (id : Int) (hfiles : FilesSound s'.files)
    (hothers : ∀ j ≠ id, view s' j = view s j) (hid : (view s' id).Backed b id) : Sound b s' := by
  refine ⟨hfiles, fun j => ?_⟩
  by_cases hj : j = id
  · exact hj ▸ hid
  · rw [hothers j hj]
    exact h.backed j

end view

/-- What reading an account does: `cached` is its type in the cache afterwards. -/
structure ReadsBack (b : Build) (id : Int) (v : View) (info : AccountFile) (cached : Option (OsAccountType × Bool))
    (real : AccountFile) : Prop where
  constraints {c : String} : c ∈ real.constraints →
    c ∈ info.constraints ∨ (c = constraintAdminAuthorize ∧ v.MayBeRestricted b id info.type)
  localId : real.localId = info.localId
  toBeRemoved : real.toBeRemoved = info.toBeRemoved
  isCreateCompleted : real.isCreateCompleted = info.isCreateCompleted
  isDataRemovable : real.isDataRemovable = info.isDataRemovable
  restricted : View.MayBeRestricted { v with cached } b id info.type → v.MayBeRestricted b id info.type
  type : View.MayBeRestricted { v with cached } b id real.type → v.MayBeRestricted b id info.type
  plain : v.Plain → (∀ t, cached = some t → t.1 ≠ .admin) ∧ real.type ≠ .admin

theorem refreshAccountTypeInCache_spec (s : State) (ask : Ret) (id : Int) (type : OsAccountType) :
    ∃ cache, (refreshAccountTypeInCache s ask id type).2 = { s with typeCache := cache } ∧
      (∀ j ≠ id, cache[j]? = s.typeCache[j]?) ∧
      ((cache[id]? = some (refreshAccountTypeInCache s ask id type).1 ∧
          (refreshAccountTypeInCache s ask id type).1 = (view s id).realType type) ∨
        (cache[id]? = (view s id).cached ∧ (refreshAccountTypeInCache s ask id type).1 = (type, false))) := by
  unfold refreshAccountTypeInCache View.realType view
  cases hcached : s.typeCache[id]? with
  | some t => exact ⟨s.typeCache, rfl, fun _ _ => rfl, .inl ⟨hcached, rfl⟩⟩
  | none =>
      cases ask with
      | error e => exact ⟨s.typeCache, rfl, fun _ _ => rfl, .inr ⟨hcached, rfl⟩⟩
      | ok u =>
          refine ⟨_, rfl, fun j hj => ?_, .inl ⟨?_, rfl⟩⟩
          · rw [getElem?_insert_eq, if_neg (Ne.symm hj)]
          · rw [getElem?_insert_eq, if_pos rfl]

theorem getReal_spec {s : State} {id : Int} {info : AccountFile} (h : s.accounts[id]? = some info) (b : Build)
    (ask : Ret) : ∃ real cache, getRealOsAccountInfoById s b (.ok ()) ask id =
      (.ok real, { s with typeCache := cache }) ∧
    (∀ j ≠ id, cache[j]? = s.typeCache[j]?) ∧ ReadsBack b id (view s id) info cache[id]? real ∧
    ((b.supportAuthorization && !b.isEmulator) = true →
      real.type = (refreshAccountTypeInCache s ask id info.type).1.1) := by
  simp only [getRealOsAccountInfoById, getOsAccountInfoById, h, Except.map]
  by_cases hbuild : (b.supportAuthorization && !b.isEmulator) = true
  · obtain ⟨cache, hstate, hothers, hcache⟩ := refreshAccountTypeInCache_spec s ask id info.type
    generalize refreshAccountTypeInCache s ask id info.type = r at hstate hcache
    obtain ⟨t, s₁⟩ := r
    dsimp only at hstate hcache
    subst hstate
    simp only [hbuild, if_true]
    refine ⟨_, cache, rfl, hothers,
      ⟨fun {c} hc => ?_, rfl, rfl, rfl, rfl, ?_, ?_, fun hplain => ?_⟩, fun _ => rfl⟩
    · dsimp only at hc
      split at hc
      · rename_i hadmin
        rcases mem_adminConstraints.mp hc with hc | rfl
        · exact .inl hc
        · rcases hcache with ⟨-, ht⟩ | ⟨-, rfl⟩
          · exact .inr ⟨rfl, ⟨hbuild, hadmin.1⟩, ht ▸ Prod.ext hadmin.2.1 hadmin.2.2⟩
          · cases hadmin.2.2
      · exact .inl hc
    · rintro ⟨hchecks, htype⟩
      rcases hcache with ⟨hcached, ht⟩ | ⟨hcached, -⟩
      · rw [hcached] at htype
        exact ⟨hchecks, ht ▸ htype⟩
      · rw [hcached] at htype
        exact ⟨hchecks, htype⟩
    · rintro ⟨hchecks, htype⟩
      rcases hcache with ⟨hcached, ht⟩ | ⟨hcached, rfl⟩
      · rw [hcached] at htype
        exact ⟨hchecks, ht ▸ htype⟩
      · rw [hcached] at htype
        exact ⟨hchecks, htype⟩
    · have hinfo : info.type ≠ .admin := hplain.record h
      rcases hcache with ⟨hcached, ht⟩ | ⟨hcached, rfl⟩
      · have hreal := hplain.realType hinfo
        rw [← ht] at hreal
        refine ⟨fun t' ht' => ?_, hreal⟩
        rw [hcached, Option.some.injEq] at ht'
        exact ht' ▸ hreal
      · exact ⟨fun t' ht' => hplain.cached (hcached ▸ ht'), hinfo⟩
  · simp only [hbuild]
    exact ⟨info, s.typeCache, rfl, fun _ _ => rfl,
      ⟨fun hc => .inl hc, rfl, rfl, rfl, rfl, fun hr => hr, fun hr => hr,
      fun hplain => ⟨fun t ht => hplain.cached ht, hplain.record h⟩⟩, fun hb => absurd hb (by simp)⟩

section readsBack

variable {b : Build} {id : Int} {v : View} {info real real' : AccountFile} {cached : Option (OsAccountType × Bool)}

theorem ReadsBack.backed_read (h : ReadsBack b id v info cached real) (hinfo : v.record = some info)
    (hv : v.Backed b id) : View.Backed { v with cached } b id where
  own := hv.own
  admin {info'} hinfo' hrestricted := by
    obtain rfl : info = info' := Option.some.inj (hinfo.symm.trans hinfo')
    exact hv.admin hinfo (h.restricted hrestricted)

theorem ReadsBack.backed (h : ReadsBack b id v info cached real) (hinfo : v.record = some info) (hv : v.Backed b id)
    (hconstraints : real'.constraints = real.constraints) (htype : real'.type = real.type) :
    View.Backed { v with record := some real', cached } b id where
  own {info' c} hinfo' hc := by
    obtain rfl : real' = info' := Option.some.inj hinfo'
    rw [hconstraints] at hc
    rcases h.constraints hc with hc | ⟨rfl, hrestricted⟩
    · exact hv.own hinfo hc
    · exact hv.admin hinfo hrestricted
  admin {info'} hinfo' hrestricted := by
    obtain rfl : real' = info' := Option.some.inj hinfo'
    rw [htype] at hrestricted
    exact hv.admin hinfo (h.type hrestricted)

theorem ReadsBack.plainRead (h : ReadsBack b id v info cached real) (hv : v.Plain)
    (htype : real'.type = real.type) : View.Plain { v with record := some real', cached } where
  record {info'} hinfo' := by
    obtain rfl : real' = info' := Option.some.inj hinfo'
    rw [htype]
    exact (h.plain hv).2
  cached {t} ht := (h.plain hv).1 t ht
  tee := hv.tee

end readsBack

structure Kept (b : Build) (id : Int) (v v' : View) : Prop where
  base : v'.base = v.base
  record : v'.record.isSome = v.record.isSome
  backed : v.Backed b id → v'.Backed b id
  plain : v.Plain → v'.Plain

theorem Kept.refl (b : Build) (id : Int) (v : View) : Kept b id v v :=
  ⟨rfl, rfl, fun h => h, fun h => h⟩

theorem Kept.trans {b : Build} {id : Int} {v₁ v₂ v₃ : View} (h : Kept b id v₁ v₂) (k : Kept b id v₂ v₃) :
    Kept b id v₁ v₃ :=
  ⟨k.base.trans h.base, k.record.trans h.record, fun hv => k.backed (h.backed hv),
    fun hv => k.plain (h.plain hv)⟩

section writes

variable (s : State) (b : Build) (id : Int)

theorem view_insert (info : AccountFile) (j : Int) : view { s with accounts := s.accounts.insert id info } j =
    if j = id then { view s id with record := some info } else view s j := by
  simp only [view, getElem?_insert_eq]
  by_cases hj : j = id
  · subst hj
    simp
  · simp [hj, Ne.symm hj]

variable {s b} in
theorem Sound.write (h : Sound b s) {info : AccountFile} (hown : ∀ c ∈ info.constraints, c ∈ (view s id).base)
    (hadmin : (view s id).MayBeRestricted b id info.type → constraintAdminAuthorize ∈ (view s id).base) :
    Sound b { s with accounts := s.accounts.insert id info } := by
  refine h.update id h.files (fun j hj => ?_) ?_
  · rw [view_insert, if_neg hj]
  · rw [view_insert, if_pos rfl]
    exact backed_of_some rfl hown hadmin

theorem updateOsAccount_cases (info' : AccountFile) :
    (s.accounts[id]? = none ∧ updateOsAccount s (.ok ()) id info' = (.error .updateFileNotExistsError, s)) ∨
    (s.accounts[id]?.isSome ∧ updateOsAccount s (.ok ()) id info' =
      (.ok (), { s with accounts := s.accounts.insert id info' })) := by
  unfold updateOsAccount
  cases h : s.accounts[id]? with
  | none => exact .inl ⟨rfl, if_pos (by simpa using h)⟩
  | some info =>
      have hmem : id ∈ s.accounts := ExtTreeMap.mem_iff_isSome_getElem?.mpr (by rw [h]; rfl)
      exact .inr ⟨rfl, if_neg (not_not.mpr hmem)⟩

theorem writeBack_spec (w : WriteBack) : (writeBack s b filesSucceed w).files = s.files ∧
    (∀ j ≠ w.id, view (writeBack s b filesSucceed w) j = view s j) ∧
    Kept b w.id (view s w.id) (view (writeBack s b filesSucceed w) w.id) := by
  unfold writeBack filesSucceed
  cases hinfo : s.accounts[w.id]? with
  | none =>
      simp only [getRealOsAccountInfoById, getOsAccountInfoById, hinfo]
      exact ⟨trivial, fun _ _ => trivial, Kept.refl _ _ _⟩
  | some info =>
      obtain ⟨real, cache, hread, hothers, hback, -⟩ := getReal_spec hinfo b w.ask
      simp only [hread]
      rcases updateOsAccount_cases { s with typeCache := cache } w.id (withStatus real w.status) with
        ⟨hnone, -⟩ | ⟨-, hupdate⟩
      · rw [hinfo] at hnone
        cases hnone
      · rw [hupdate]
        refine ⟨rfl, fun j hj => ?_, ?_⟩
        · rw [view_insert, if_neg hj]
          simp only [view, hothers j hj]
        · rw [view_insert, if_pos rfl]
          refine ⟨rfl, ?_, fun hv => hback.backed hinfo hv rfl rfl, fun hv => hback.plainRead hv rfl⟩
          simp [view, hinfo]

theorem writeBack_kept (w : WriteBack) (j : Int) : Kept b j (view s j) (view (writeBack s b filesSucceed w) j) := by
  obtain ⟨-, hothers, hself⟩ := writeBack_spec s b w
  by_cases hj : j = w.id
  · exact hj ▸ hself
  · rw [hothers j hj]
    exact Kept.refl _ _ _

theorem foldl_writeBack_spec (ws : List WriteBack) :
    (ws.foldl (fun s w => writeBack s b filesSucceed w) s).files = s.files ∧
    (∀ j, Kept b j (view s j) (view (ws.foldl (fun s w => writeBack s b filesSucceed w) s) j)) ∧
    ∀ j, (∀ w ∈ ws, w.id ≠ j) → view (ws.foldl (fun s w => writeBack s b filesSucceed w) s) j = view s j := by
  induction ws generalizing s with
  | nil => exact ⟨rfl, fun j => Kept.refl _ _ _, fun _ _ => rfl⟩
  | cons w ws ih =>
      obtain ⟨hfiles, hothers, -⟩ := writeBack_spec s b w
      obtain ⟨hfiles', hkept, hothers'⟩ := ih (writeBack s b filesSucceed w)
      rw [List.foldl_cons]
      refine ⟨hfiles'.trans hfiles, fun j => (writeBack_kept s b w j).trans (hkept j), fun j hj => ?_⟩
      rw [hothers' j fun w' hw' => hj w' (List.mem_cons_of_mem w hw')]
      exact hothers j (Ne.symm (hj w List.mem_cons_self))

theorem view_erase (j : Int) : view { s with accounts := s.accounts.erase id } j =
    if j = id then { view s id with record := none } else view s j := by
  simp only [view, getElem?_erase_eq]
  by_cases hj : j = id
  · subst hj
    simp
  · simp [hj, Ne.symm hj]

variable {s b id} in
theorem Sound.erase {s₁ : State} (h : Sound b s) (hfiles : FilesSound s₁.files)
    (hothers : ∀ j ≠ id, view s₁ j = view s j) : Sound b { s₁ with accounts := s₁.accounts.erase id } := by
  refine h.update id hfiles (fun j hj => ?_) (backed_of_none ?_)
  · rw [view_erase, if_neg hj, hothers j hj]
  · rw [view_erase, if_pos rfl]

theorem delOsAccount_cases :
    (¬(startUserId < id ∧ id ≤ maxUserId) ∧
      delOsAccount s filesSucceed id = (.error .cannotDeleteIdError, s)) ∨
    (startUserId < id ∧ id ≤ maxUserId ∧
      delOsAccount s filesSucceed id = (.ok (), { s with accounts := s.accounts.erase id })) := by
  unfold delOsAccount
  by_cases hid : id ≤ startUserId ∨ id > maxUserId
  · rw [if_pos hid]
    exact .inl ⟨by omega, rfl⟩
  · rw [if_neg hid]
    exact .inr ⟨by omega, by omega, rfl⟩

def View.typed (v : View) (type : OsAccountType) (isRestricted : Bool) : View :=
  { v with
    cached := some (type, isRestricted)
    tee := if isRestricted then v.tee else some type }

def View.forgotten (v : View) (b : Build) : View :=
  if b.supportAuthorization then { v with cached := none, tee := none } else v

/-- The account may lose its type: it is no administrator then, or has the constraint
of one. -/
def View.Forgettable (v : View) (b : Build) (id : Int) : Prop :=
  ChecksType b id → ∀ info, v.record = some info → info.type = .admin → constraintAdminAuthorize ∈ v.base

theorem ChecksType.support {b : Build} {id : Int} (h : ChecksType b id) : b.supportAuthorization = true :=
  (Bool.and_eq_true_iff.mp h.1).1

theorem View.Backed.forgotten {v : View} {b : Build} {id : Int} (h : v.Backed b id) (hforget : v.Forgettable b id) :
    (v.forgotten b).Backed b id := by
  unfold View.forgotten
  split
  · refine ⟨h.own, fun {info} hinfo hrestricted => hforget hrestricted.1 info hinfo ?_⟩
    exact congrArg Prod.fst hrestricted.2
  · exact h

theorem View.Plain.forgotten {v : View} {b : Build} (h : v.Plain) : (v.forgotten b).Plain := by
  unfold View.forgotten
  split
  · exact ⟨h.record, fun ht => (by cases ht), fun ht => (by cases ht)⟩
  · exact h

theorem View.Plain.erased {v : View} (h : v.Plain) : View.Plain { v with record := none, base := [] } :=
  ⟨fun hinfo => (by cases hinfo), h.cached, h.tee⟩

theorem delOsAccountType_cases (answer : Ret) :
    (∃ e, b.supportAuthorization = true ∧ answer = .error e ∧ delOsAccountType s b answer id = (.error e, s)) ∨
    (∃ s', delOsAccountType s b answer id = (.ok (), s') ∧ (b.supportAuthorization = true → answer = .ok ()) ∧
      s'.files = s.files ∧ (∀ j ≠ id, view s' j = view s j) ∧ view s' id = (view s id).forgotten b) := by
  unfold delOsAccountType View.forgotten
  cases hb : b.supportAuthorization with
  | false => exact .inr ⟨s, rfl, by simp, rfl, fun _ _ => rfl, rfl⟩
  | true =>
      cases answer with
      | error e => exact .inl ⟨e, rfl, rfl, rfl⟩
      | ok u =>
          refine .inr ⟨_, rfl, fun _ => rfl, rfl, fun j hj => ?_, ?_⟩
          · simp [view, getElem?_erase_eq, Ne.symm hj]
          · simp [view]

variable {s} in
theorem rebase_spec (hfiles : FilesSound s.files) (constraints : List String) (isAdd : Bool) :
    ∃ base l, updateBaseOAConstraints ⟨.ok (), .ok ()⟩ (toString id) constraints isAdd s.files.base = (.ok (), base) ∧
      FilesSound { s.files with base } ∧
      (∀ j ≠ id, view { s with files := { s.files with base } } j = view s j) ∧
      view { s with files := { s.files with base } } id = { view s id with base := l } ∧
      ∀ c, c ∈ l ↔ changed isAdd (c ∈ (view s id).base) (c ∈ constraints) := by
  have hrecord := isRecord_updateBaseOAConstraints ⟨.ok (), .ok ()⟩ (toString id) constraints isAdd hfiles.base
  have hsaved : ∀ file j, saved (.ok ()) file j = (.ok (), j) := fun _ _ => rfl
  have hget : ∀ vec, getVectorStringFromJson (addVectorStringToJson s.files.base (toString id) vec) (toString id) =
      vec := by
    intro vec
    rw [getVector_addVector hfiles.base (Decimal.toString_ne_empty id), if_pos rfl]
  have hother : ∀ vec, ∀ j ≠ id,
      getVectorStringFromJson (addVectorStringToJson s.files.base (toString id) vec) (toString j) =
        getVectorStringFromJson s.files.base (toString j) := by
    intro vec j hj
    rw [getVector_addVector hfiles.base (Decimal.toString_ne_empty id),
      if_neg fun he => hj (Decimal.toString_injective he).symm]
  have hviews : ∀ vec, ∀ j ≠ id, view { s with files := { s.files with
      base := addVectorStringToJson s.files.base (toString id) vec } } j = view s j := by
    intro vec j hj
    simp only [view, hother vec j hj]
  unfold updateBaseOAConstraints at hrecord ⊢
  simp only [hsaved] at hrecord ⊢
  cases hkey : isKeyExist s.files.base (toString id) with
  | false =>
      have hnil : (view s id).base = [] := by
        have hnone : getItemFromJson s.files.base (toString id) = none := by simpa [isKeyExist] using hkey
        simp only [view, getVectorStringFromJson, hnone]
        rfl
      cases isAdd with
      | false => exact ⟨_, [], rfl, hfiles, fun _ _ => rfl, by rw [← hnil], by simp [changed, hnil]⟩
      | true =>
          simp only [hkey, Bool.not_false, if_true, Bool.not_true, Bool.false_eq_true, if_false] at hrecord ⊢
          exact ⟨_, constraints, rfl, filesSound_base hfiles hrecord, hviews _, by simp only [view, hget],
            by simp [changed, hnil]⟩
  | true =>
      simp only [hkey, Bool.not_true, Bool.false_eq_true, if_false] at hrecord ⊢
      exact ⟨_, _, rfl, filesSound_base hfiles hrecord, hviews _, by simp only [view, hget],
        fun c => mem_changeConstraints⟩

def Ends (a : OperateAnswer) (id : Int) : Prop := a.send = .ok () ∧ startUserId < id ∧ id ≤ maxUserId

theorem removeOsAccountFiles_spec {s : State} (hfiles : FilesSound s.files) (a : OperateAnswer) (id : Int) :
    (∃ e, removeOsAccountFiles s filesSucceed a id = some (.error e, s) ∧ ¬Ends a id) ∨
    (∃ s', removeOsAccountFiles s filesSucceed a id = some (.ok (), s') ∧ FilesSound s'.files ∧
      (∀ j ≠ id, view s' j = view s j) ∧ view s' id = { view s id with record := none, base := [] }) := by
  unfold removeOsAccountFiles sendMsgForAccountRemove
  cases hsend : a.send with
  | error e => exact .inl ⟨e, rfl, fun hends => by simp [Ends, hsend] at hends⟩
  | ok u =>
      simp only
      rcases delOsAccount_cases s id with ⟨hid, hdel⟩ | ⟨hstart, hmax, hdel⟩
      · rw [hdel]
        exact .inl ⟨_, rfl, fun hends => hid hends.2⟩
      · obtain ⟨files', hremove, hsound, hbase⟩ := filesSound_remove hfiles (show id ≠ startUserId by omega)
        rw [hdel]
        simp only [filesSucceed, hremove]
        refine .inr ⟨_, rfl, ?_⟩
        have hviews : ∀ s' : State, s'.accounts = s.accounts.erase id → s'.files.base = files'.base →
            s'.typeCache = s.typeCache → s'.tee = s.tee → (∀ j ≠ id, view s' j = view s j) ∧
            view s' id = { view s id with record := none, base := [] } := by
          intro s' haccounts hbase' hcache htee
          refine ⟨fun j hj => ?_, ?_⟩
          · have hne : toString id ≠ toString j := fun he => hj (Decimal.toString_injective he).symm
            simp only [view, haccounts, hbase', hcache, htee, hbase, getElem?_erase_eq, if_neg (Ne.symm hj),
              getVectorStringFromJson, getItem_deleteItem hfiles.base, if_neg hne]
          · simp [view, haccounts, hcache, htee, hbase', hbase, getVectorStringFromJson,
              getItem_deleteItem hfiles.base, strings]
        unfold checkAndRefreshLocalIdRecord
        split
        · exact ⟨filesSound_deviceOwner hsound (-1), hviews _ rfl rfl rfl rfl⟩
        · exact ⟨hsound, hviews _ rfl rfl rfl rfl⟩

def Stops (a : OperateAnswer) : Prop := a.idm = .ok () ∧ (∀ r ∈ a.reset, r.result = .ok ()) ∧ a.stop = .ok ()

def WritesBack (a : OperateAnswer) (id : Int) : Prop := ∃ r ∈ a.reset, ∃ w ∈ r.written, w.id = id

theorem resetForegroundBeforeRemove_spec (reset : Option ResetAnswer) :
    ∃ ret s', resetForegroundBeforeRemove s b filesSucceed reset = (ret, s') ∧
      (ret = .ok () ↔ ∀ r ∈ reset, r.result = .ok ()) ∧ s'.files = s.files ∧
      (∀ j, Kept b j (view s j) (view s' j)) ∧
      ∀ j, (¬∃ r ∈ reset, ∃ w ∈ r.written, w.id = j) → view s' j = view s j := by
  cases reset with
  | none => exact ⟨.ok (), s, rfl, by simp, rfl, fun j => Kept.refl _ _ _, fun _ _ => rfl⟩
  | some r =>
      obtain ⟨hfiles, hkept, hothers⟩ := foldl_writeBack_spec s b r.written
      refine ⟨r.result, _, rfl, by simp, hfiles, hkept, fun j hj => hothers j fun w hw he => ?_⟩
      exact hj ⟨r, rfl, w, hw, he⟩

theorem prepareRemoveOsAccount_clean (f : FileAnswers) (a : OperateAnswer) (info : AccountFile) :
    prepareRemoveOsAccount s b f a id info true = (a.idm, s) := by
  unfold prepareRemoveOsAccount
  cases a.idm with
  | error e => rfl
  | ok u => rfl

theorem prepareRemoveOsAccount_spec (a : OperateAnswer) (info : AccountFile) (hrecord : (view s id).record.isSome) :
    ∃ ret s', prepareRemoveOsAccount s b filesSucceed a id info false = (ret, s') ∧ s'.files = s.files ∧
      (∀ j ≠ id, Kept b j (view s j) (view s' j)) ∧
      ((ret ≠ .ok () ∧ ¬Stops a ∧ Kept b id (view s id) (view s' id)) ∨
        (ret = .ok () ∧ Stops a ∧ ∃ w, Kept b id (view s id) w ∧ (¬WritesBack a id → w = view s id) ∧
          view s' id = { w with record := some info })) := by
  unfold prepareRemoveOsAccount Stops WritesBack
  cases a.idm with
  | error e => exact ⟨.error e, s, rfl, rfl, fun j _ => Kept.refl _ _ _,
      .inl ⟨by simp, by simp, Kept.refl _ _ _⟩⟩
  | ok u =>
      obtain ⟨ret, s₁, hreset, hret, hfiles, hkept, hothers⟩ := resetForegroundBeforeRemove_spec s b a.reset
      simp only [hreset, Bool.false_eq_true, if_false]
      cases ret with
      | error e =>
          have hnot : ¬∀ r ∈ a.reset, r.result = .ok () := fun h => by cases hret.mpr h
          exact ⟨.error e, s₁, rfl, hfiles, fun j _ => hkept j, .inl ⟨by simp, fun h => hnot h.2.1, hkept id⟩⟩
      | ok u =>
          cases a.stop with
          | error e => exact ⟨.error e, s₁, rfl, hfiles, fun j _ => hkept j,
              .inl ⟨by simp, by simp, hkept id⟩⟩
          | ok u =>
              have hsome : s₁.accounts[id]?.isSome := ((hkept id).record).trans hrecord
              unfold deactivateOsAccountByInfo
              rcases updateOsAccount_cases s₁ id info with ⟨hnone, -⟩ | ⟨-, hupdate⟩
              · rw [hnone] at hsome
                cases hsome
              · have hwrite : updateOsAccount s₁ filesSucceed.update id info = _ := hupdate
                simp only [hwrite]
                refine ⟨.ok (), _, rfl, hfiles, fun j hj => ?_,
                  .inr ⟨rfl, ⟨trivial, hret.mp rfl, trivial⟩, _, hkept id,
                  fun hnot => hothers id hnot, ?_⟩⟩
                · rw [view_insert, if_neg hj]
                  exact hkept j
                · rw [view_insert, if_pos rfl]

end writes

theorem cleanOperate_spec {s : State} (b : Build) (hfiles : FilesSound s.files) (a : OperateAnswer) (id : Int)
    (info : AccountFile) : ∃ ret s', removeOsAccountOperate s b filesSucceed a id info true = some (ret, s') ∧
      FilesSound s'.files ∧ (∀ j ≠ id, view s' j = view s j) ∧
      (view s' id = view s id ∨ ((view s' id).record = none ∧ ((view s id).Plain → (view s' id).Plain)) ∨
        ((info.isCreateCompleted || info.isDataRemovable) = true ∧
          (b.supportAuthorization = true → a.delOsAccountType = .ok ()) ∧ ¬(a.idm = .ok () ∧ Ends a id) ∧
          view s' id = (view s id).forgotten b)) := by
  unfold removeOsAccountOperate
  split
  · exact ⟨.ok (), s, rfl, hfiles, fun _ _ => rfl, .inl rfl⟩
  · rename_i hskip
    have hgarbage : (info.isCreateCompleted || info.isDataRemovable) = true := by
      cases hcompleted : info.isCreateCompleted with
      | true => rfl
      | false => simpa [hcompleted] using hskip
    rcases delOsAccountType_cases s b id a.delOsAccountType with ⟨e, -, -, hdel⟩ |
      ⟨s₁, hdel, hanswer, hfiles₁, hothers, hself⟩
    · simp only [hdel]
      exact ⟨.error e, s, rfl, hfiles, fun _ _ => rfl, .inl rfl⟩
    · simp only [hdel, prepareRemoveOsAccount_clean]
      have hsound : FilesSound s₁.files := hfiles₁ ▸ hfiles
      cases hidm : a.idm with
      | error e =>
          have hnot : ¬(Except.error e = Except.ok () ∧ Ends a id) := fun hends => by cases hends.1
          exact ⟨.error e, s₁, rfl, hsound, hothers, .inr (.inr ⟨hgarbage, hanswer, hnot, hself⟩)⟩
      | ok u =>
          rcases removeOsAccountFiles_spec hsound a id with ⟨e, hret, hnot⟩ |
            ⟨s₂, hret, hsound₂, hothers₂, hview⟩
          · exact ⟨.error e, s₁, hret, hsound, hothers,
              .inr (.inr ⟨hgarbage, hanswer, fun hends => hnot hends.2, hself⟩)⟩
          · refine ⟨.ok (), s₂, hret, hsound₂, fun j hj => (hothers₂ j hj).trans (hothers j hj),
              .inr (.inl ?_)⟩
            rw [hview, hself]
            exact ⟨rfl, fun hplain => hplain.forgotten.erased⟩

/-- A removal that goes wrong after the type was deleted leaves the record that was
there, maybe written back, or writes the given one. -/
theorem removeOperate_spec {s : State} (b : Build) (hfiles : FilesSound s.files) (a : OperateAnswer) (id : Int)
    (info : AccountFile) (hrecord : (view s id).record.isSome) :
    ∃ ret s', removeOsAccountOperate s b filesSucceed a id info false = some (ret, s') ∧ FilesSound s'.files ∧
      (∀ j ≠ id, Kept b j (view s j) (view s' j)) ∧
      ((ret ≠ .ok () ∧ view s' id = view s id) ∨
        (ret = .ok () ∧ ∃ w, Kept b id ((view s id).forgotten b) w ∧ (¬WritesBack a id → w = (view s id).forgotten b) ∧
          view s' id = { w with record := none, base := [] }) ∨
        (ret ≠ .ok () ∧ (b.supportAuthorization = true → a.delOsAccountType = .ok ()) ∧
          ∃ w, Kept b id ((view s id).forgotten b) w ∧
            ((¬Stops a ∧ view s' id = w) ∨
              (Stops a ∧ ¬Ends a id ∧ (¬WritesBack a id → w = (view s id).forgotten b) ∧
                view s' id = { w with record := some info })))) := by
  simp only [removeOsAccountOperate, Bool.false_and, Bool.false_eq_true, if_false]
  rcases delOsAccountType_cases s b id a.delOsAccountType with ⟨e, -, -, hdel⟩ |
    ⟨s₁, hdel, hanswer, hfiles₁, hothers, hself⟩
  · simp only [hdel]
    exact ⟨.error e, s, rfl, hfiles, fun j _ => Kept.refl _ _ _, .inl ⟨by simp, rfl⟩⟩
  · simp only [hdel]
    have hrecord₁ : (view s₁ id).record.isSome := by
      rw [hself, View.forgotten]
      split
      · exact hrecord
      · exact hrecord
    obtain ⟨ret, s₂, hprepare, hfiles₂, hkept, hcases⟩ := prepareRemoveOsAccount_spec s₁ b id a info hrecord₁
    have hsound : FilesSound s₂.files := hfiles₂ ▸ hfiles₁ ▸ hfiles
    have hkept' : ∀ j ≠ id, Kept b j (view s j) (view s₂ j) := fun j hj => hothers j hj ▸ hkept j hj
    rw [hself] at hcases
    simp only [hprepare]
    rcases hcases with ⟨hret, hstops, hid⟩ | ⟨rfl, hstops, w, hw, hsame, hid⟩
    · cases ret with
      | ok u => exact absurd rfl hret
      | error e => exact ⟨.error e, s₂, rfl, hsound, hkept',
          .inr (.inr ⟨by simp, hanswer, _, hid, .inl ⟨hstops, rfl⟩⟩)⟩
    · rcases removeOsAccountFiles_spec hsound a id with ⟨e, hret, hnot⟩ |
        ⟨s₃, hret, hsound₃, hothers₃, hview⟩
      · exact ⟨.error e, s₂, hret, hsound, hkept',
          .inr (.inr ⟨by simp, hanswer, w, hw, .inr ⟨hstops, hnot, hsame, hid⟩⟩)⟩
      · exact ⟨.ok (), s₃, hret, hsound₃, fun j hj => (hothers₃ j hj).symm ▸ hkept' j hj,
          .inr (.inl ⟨rfl, w, hw, hsame, by rw [hview, hid]⟩)⟩

end OsAccount.AccountViews
