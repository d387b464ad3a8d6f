import OsAccount.ConstraintDocuments
import OsAccount.ConstraintSetters

namespace OsAccount.ConstraintQueries

open Std JsonUtils ConstraintStore ConstraintUpdate AccountConstraints AccountList ConstraintSetters
open ConstraintDocuments

inductive ConstraintSourceType
  | constraintNotExist
  | constraintTypeBase
  | constraintTypeDeviceOwner
  | constraintTypeProfileOwner
deriving DecidableEq, Repr

structure ConstraintSourceTypeInfo where
  localId : Int
  typeInfo : ConstraintSourceType
deriving DecidableEq, Repr

def getBaseOAConstraintsList (file : Json) (id : Int) : Except ErrCode (List String) :=
  if fields file = [] then .error .getContentError else .ok (getVectorStringFromJson file (toString id))

def isFromBaseOAConstraintsList (file : Json) (id : Int) (constraint : String) : Except ErrCode Bool :=
  (getBaseOAConstraintsList file id).map fun constraintsList => constraint ∈ constraintsList

def sourceTypeInfo (deviceOwnerId localId : Int) : ConstraintSourceTypeInfo where
  localId
  typeInfo := if localId = deviceOwnerId then .constraintTypeDeviceOwner else .constraintTypeProfileOwner

def sourceTypeInfos (deviceOwnerId : Int) (sources : List String) : List ConstraintSourceTypeInfo :=
  sources.filterMap fun source => (Decimal.parseSigned 32 source).map (sourceTypeInfo deviceOwnerId)

def isFromGlobalOAConstraintsList (file : Json) (deviceOwnerId : Int) (constraint : String) :
    Except ErrCode (List ConstraintSourceTypeInfo) :=
  (getGlobalOAConstraintsList file).map fun constraintsList =>
    if constraint ∈ constraintsList then sourceTypeInfos deviceOwnerId (getVectorStringFromJson file constraint)
    else []

def isFromSpecificOAConstraintsList (file : Json) (id deviceOwnerId : Int) (constraint : String) :
    Except ErrCode (List ConstraintSourceTypeInfo) :=
  (getSpecificOAConstraintsList file id).map fun constraintsList =>
    if constraint ∈ constraintsList then
      sourceTypeInfos deviceOwnerId (getVectorStringFromJson (targetOf file id) constraint)
    else []

variable (s : State) (b : Build)

/-- The three lists without repetition. Unlike in the other queries a list that
cannot be read is an error. -/
def getOsAccountAllConstraints (recover ask : Ret) (id : Int) : Except ErrCode (List String) :=
  match recover with
  | .error _ => .error .fileWriteFailed
  | .ok () =>
      match (getRealOsAccountInfoById s b (.ok ()) ask id).1 with
      | .error _ => .error .accountNotExistError
      | .ok osAccountInfo => do
          let globalConstraints ← getGlobalOAConstraintsList s.files.global
          let specificConstraints ← getSpecificOAConstraintsList s.files.specific id
          return changeConstraints true specificConstraints
            (changeConstraints true globalConstraints osAccountInfo.constraints)

def queryOsAccountConstraintSourceTypes (ask : Ret) (id : Int) (constraint : String) :
    Except ErrCode (List ConstraintSourceTypeInfo) :=
  match isOsAccountConstraintEnable s b ask id constraint with
  | .error e => .error e
  | .ok false => .ok [⟨-1, .constraintNotExist⟩]
  | .ok true =>
      let base := match isFromBaseOAConstraintsList s.files.base id constraint with
        | .ok true => [⟨-1, .constraintTypeBase⟩]
        | _ => []
      let globalSourceList := isFromGlobalOAConstraintsList s.files.global s.deviceOwnerId constraint
      let specificSourceList := isFromSpecificOAConstraintsList s.files.specific id s.deviceOwnerId constraint
      .ok (base ++ globalSourceList.toOption.getD [] ++ specificSourceList.toOption.getD [])

/-- The entries of one store: every enforcer once, with the type that the device
owner gives it, and nothing else. -/
structure EnforcersOnce (deviceOwnerId : Int) (imposed : String → Prop) (l : List ConstraintSourceTypeInfo) :
    Prop where
  once {enforcer : Int} : imposed (toString enforcer) →
    l.filter (fun info => info.localId = enforcer) = [sourceTypeInfo deviceOwnerId enforcer]
  only {info : ConstraintSourceTypeInfo} : info ∈ l → imposed (toString info.localId)

structure Agree (id : Int) (c : String) (enabled : Bool) (all : List String)
    (sources : List ConstraintSourceTypeInfo) : Prop where
  listed : enabled = true ↔ c ∈ all
  sourced : enabled = true ↔ sources ≠ [] ∧ ∀ info ∈ sources, info.typeInfo ≠ .constraintNotExist
  enforcers : ∃ base globalSourceList specificSourceList,
    sources = base ++ globalSourceList ++ specificSourceList ∧ (∀ info ∈ base, info.localId = -1) ∧
    EnforcersOnce s.deviceOwnerId (Imposed allGlobalConstraints s.files.global c) globalSourceList ∧
    EnforcersOnce s.deviceOwnerId (ImposedOn s.files.specific (toString id) c) specificSourceList

def QueriesAgree (ask : Ret) (id : Int) (c : String) : Prop :=
  ∃ enabled all sources, isOsAccountConstraintEnable s b ask id c = .ok enabled ∧
    getOsAccountAllConstraints s b (.ok ()) ask id = .ok all ∧
    queryOsAccountConstraintSourceTypes s b ask id c = .ok sources ∧ Agree s id c enabled all sources

theorem sourceTypeInfos_cons {id : Int} (h : Decimal.Fits 32 id) (deviceOwnerId : Int) (sources : List String) :
    sourceTypeInfos deviceOwnerId (toString id :: sources) =
      sourceTypeInfo deviceOwnerId id :: sourceTypeInfos deviceOwnerId sources := by
  unfold sourceTypeInfos
  rw [List.filterMap_cons_some (by rw [Decimal.parseSigned_toString h, Option.map_some])]

variable {deviceOwnerId : Int} {sources : List String}

theorem exists_of_mem_sourceTypeInfos
    (hids : ∀ source ∈ sources, IsLocalId source) {info : ConstraintSourceTypeInfo}
    (h : info ∈ sourceTypeInfos deviceOwnerId sources) :
    ∃ id : Int, toString id ∈ sources ∧ info = sourceTypeInfo deviceOwnerId id := by
  obtain ⟨source, hs, hinfo⟩ := List.mem_filterMap.mp h
  obtain ⟨id, hfits, rfl⟩ := hids source hs
  rw [Decimal.parseSigned_toString hfits, Option.map_some, Option.some.injEq] at hinfo
  exact ⟨id, hs, hinfo.symm⟩

theorem filter_sourceTypeInfos
    (hids : ∀ source ∈ sources, IsLocalId source) (hnodup : sources.Nodup) {enforcer : Int}
    (h : toString enforcer ∈ sources) :
    (sourceTypeInfos deviceOwnerId sources).filter (fun info => info.localId = enforcer) =
      [sourceTypeInfo deviceOwnerId enforcer] := by
  induction sources with
  | nil => cases h
  | cons source sources ih =>
      obtain ⟨id, hfits, rfl⟩ := hids source List.mem_cons_self
      have hids' : ∀ source ∈ sources, IsLocalId source := fun t ht => hids t (List.mem_cons_of_mem _ ht)
      rw [List.nodup_cons] at hnodup
      rw [sourceTypeInfos_cons hfits]
      by_cases hid : id = enforcer
      · subst hid
        have hrest : (sourceTypeInfos deviceOwnerId sources).filter (fun info => info.localId = id) = [] := by
          rw [List.filter_eq_nil_iff]
          intro info hinfo hsame
          obtain ⟨id', hid', rfl⟩ := exists_of_mem_sourceTypeInfos hids' hinfo
          rw [decide_eq_true_eq, sourceTypeInfo] at hsame
          exact hnodup.1 (hsame ▸ hid')
        rw [List.filter_cons_of_pos (by simp [sourceTypeInfo]), hrest]
      · have hmem : toString enforcer ∈ sources := by
          rcases List.mem_cons.mp h with he | hmem
          · exact absurd (Decimal.toString_injective he).symm hid
          · exact hmem
        rw [List.filter_cons_of_neg (by simp [sourceTypeInfo, hid]), ih hids' hnodup.2 hmem]

theorem sourceTypeInfos_ne_nil
    (hids : ∀ source ∈ sources, IsLocalId source) (h : sources ≠ []) : sourceTypeInfos deviceOwnerId sources ≠ [] := by
  cases sources with
  | nil => exact absurd rfl h
  | cons source sources =>
      obtain ⟨id, hfits, rfl⟩ := hids source List.mem_cons_self
      rw [sourceTypeInfos_cons hfits]
      exact List.cons_ne_nil _ _

section store

variable {constraintType c : String} {reserved : List String} {j : Json}

def storeInfos (deviceOwnerId : Int) (constraintType c : String) (j : Json) : List ConstraintSourceTypeInfo :=
  if c ∈ getVectorStringFromJson j constraintType then
    sourceTypeInfos deviceOwnerId (getVectorStringFromJson j c)
  else []

theorem enforcersOnce_storeInfos (h : WellFormed constraintType reserved j)
    (hids : ∀ {source}, Imposed constraintType j c source → IsLocalId source) (deviceOwnerId : Int) :
    EnforcersOnce deviceOwnerId (Imposed constraintType j c) (storeInfos deviceOwnerId constraintType c j) := by
  unfold storeInfos
  split
  · rename_i hc
    have hids' : ∀ source ∈ getVectorStringFromJson j c, IsLocalId source := fun source hs => hids ⟨hc, hs⟩
    refine ⟨fun himposed => filter_sourceTypeInfos hids'
      (h.sources (h.notReserved hc)) himposed.2, fun hinfo => ?_⟩
    obtain ⟨id, hid, rfl⟩ := exists_of_mem_sourceTypeInfos hids' hinfo
    exact ⟨hc, hid⟩
  · rename_i hc
    exact ⟨fun himposed => absurd himposed.1 hc, fun hinfo => by cases hinfo⟩

theorem storeInfos_eq_nil_iff (h : WellFormed constraintType reserved j)
    (hids : ∀ {source}, Imposed constraintType j c source → IsLocalId source) (deviceOwnerId : Int) :
    storeInfos deviceOwnerId constraintType c j = [] ↔ c ∉ getVectorStringFromJson j constraintType := by
  unfold storeInfos
  split
  · rename_i hc
    have hsome := (h.listed (h.notReserved hc)).mp hc
    exact iff_of_false (sourceTypeInfos_ne_nil (fun source hs => hids ⟨hc, hs⟩) hsome) (fun hnot => hnot hc)
  · rename_i hc
    exact iff_of_true rfl hc

theorem typeInfo_of_mem_storeInfos (hids : ∀ {source}, Imposed constraintType j c source → IsLocalId source)
    {deviceOwnerId : Int} {info : ConstraintSourceTypeInfo}
    (hinfo : info ∈ storeInfos deviceOwnerId constraintType c j) : info.typeInfo ≠ .constraintNotExist := by
  unfold storeInfos at hinfo
  split at hinfo
  · rename_i hc
    obtain ⟨id, -, rfl⟩ := exists_of_mem_sourceTypeInfos (fun source hs => hids ⟨hc, hs⟩) hinfo
    unfold sourceTypeInfo
    dsimp only
    split
    · decide
    · decide
  · cases hinfo

end store

variable (file : Json)

theorem isFromGlobal_toOption (deviceOwnerId : Int) (c : String) :
    (isFromGlobalOAConstraintsList file deviceOwnerId c).toOption.getD [] =
      storeInfos deviceOwnerId allGlobalConstraints c file := by
  have hlist := toOption_getGlobalOAConstraintsList file
  unfold isFromGlobalOAConstraintsList storeInfos
  rw [← hlist]
  cases getGlobalOAConstraintsList file with
  | error e => rfl
  | ok constraintsList => rfl

theorem isFromSpecific_toOption (id deviceOwnerId : Int) (c : String) :
    (isFromSpecificOAConstraintsList file id deviceOwnerId c).toOption.getD [] =
      storeInfos deviceOwnerId allSpecificConstraints c (targetOf file id) := by
  have hlist := toOption_getSpecificOAConstraintsList file id
  unfold isFromSpecificOAConstraintsList storeInfos
  rw [← hlist]
  cases getSpecificOAConstraintsList file id with
  | error e => rfl
  | ok constraintsList => rfl

theorem isFromBase_eq (id : Int) (c : String) :
    (isFromBaseOAConstraintsList file id c = .ok true) ↔ c ∈ getVectorStringFromJson file (toString id) := by
  unfold isFromBaseOAConstraintsList getBaseOAConstraintsList
  split
  · rename_i hempty
    simp [Except.map, getVectorStringFromJson, getItemFromJson, hempty, Fields.find, strings]
  · simp [Except.map]

theorem fields_ne_nil {j : Json} {key : String} (h : isKeyExist j key = true) : fields j ≠ [] := by
  intro hempty
  simp [isKeyExist, getItemFromJson, hempty, Fields.find] at h

theorem targetOf_cases (id : Int) :
    (getItemFromJson file (toString id) = none ∧ targetOf file id = .null) ∨
      getItemFromJson file (toString id) = some (targetOf file id) := by
  unfold targetOf
  cases getItemFromJson file (toString id) with
  | none => exact .inl ⟨rfl, rfl⟩
  | some d => exact .inr rfl

section agree

variable {s : State} {b : Build} {id : Int} {info : AccountFile}

theorem getOsAccountAllConstraints_eq_ok (h : FilesSound s.files) (hinfo : s.accounts[id]? = some info) (ask : Ret) :
    ∃ all, getOsAccountAllConstraints s b (.ok ()) ask id = .ok all ∧
      ∀ c, c ∈ all ↔ hasConstraint s b ask id info c := by
  obtain ⟨real, hreal, hmem⟩ := getRealOsAccountInfoById_constraints hinfo b ask
  refine ⟨_, by
    simp only [getOsAccountAllConstraints, hreal, getGlobalOAConstraintsList, getSpecificOAConstraintsList,
      if_neg (fields_ne_nil h.owner), if_neg (fields_ne_nil h.start)]
    rfl, fun c => ?_⟩
  rw [mem_changeConstraints, mem_changeConstraints, hasConstraint]
  simp only [changed, if_true, hmem]
  tauto

def baseInfos (base : Json) (id : Int) (c : String) : List ConstraintSourceTypeInfo :=
  if c ∈ getVectorStringFromJson base (toString id) then [⟨-1, .constraintTypeBase⟩] else []

theorem queryOsAccountConstraintSourceTypes_of_has (hinfo : s.accounts[id]? = some info) {ask : Ret} {c : String}
    (hc : hasConstraint s b ask id info c) : queryOsAccountConstraintSourceTypes s b ask id c =
      .ok (baseInfos s.files.base id c ++ storeInfos s.deviceOwnerId allGlobalConstraints c s.files.global ++
        storeInfos s.deviceOwnerId allSpecificConstraints c (targetOf s.files.specific id)) := by
  obtain ⟨enabled, henabled, hiff⟩ := isOsAccountConstraintEnable_eq_ok hinfo b ask c
  obtain rfl : enabled = true := hiff.mpr hc
  have hbase := isFromBase_eq s.files.base id c
  simp only [queryOsAccountConstraintSourceTypes, henabled, isFromGlobal_toOption,
    isFromSpecific_toOption, baseInfos]
  split
  · rename_i htrue
    rw [if_pos (hbase.mp htrue)]
  · rename_i hnot
    rw [if_neg fun hmem => hnot (hbase.mpr hmem)]

theorem queryOsAccountConstraintSourceTypes_of_not_has (hinfo : s.accounts[id]? = some info) {ask : Ret} {c : String}
    (hc : ¬hasConstraint s b ask id info c) :
    queryOsAccountConstraintSourceTypes s b ask id c = .ok [⟨-1, .constraintNotExist⟩] := by
  obtain ⟨enabled, henabled, hiff⟩ := isOsAccountConstraintEnable_eq_ok hinfo b ask c
  obtain rfl : enabled = false := Bool.eq_false_iff.mpr fun htrue => hc (hiff.mp htrue)
  simp only [queryOsAccountConstraintSourceTypes, henabled]

theorem enforcersOnce_specific (h : FilesSound s.files) (id deviceOwnerId : Int) (c : String) :
    EnforcersOnce deviceOwnerId (ImposedOn s.files.specific (toString id) c)
      (storeInfos deviceOwnerId allSpecificConstraints c (targetOf s.files.specific id)) := by
  rcases targetOf_cases s.files.specific id with ⟨hnone, hnull⟩ | hsome
  · rw [hnull]
    refine ⟨fun ⟨d, hd, _⟩ => ?_, fun hinfo => by cases hinfo⟩
    rw [hnone] at hd
    cases hd
  · have hself := enforcersOnce_storeInfos (c := c) (h.specific.target hsome)
      (fun himposed => h.targetEnforcer ⟨_, hsome, himposed⟩) deviceOwnerId
    refine ⟨fun ⟨d, hd, himposed⟩ => ?_, fun hinfo => ⟨_, hsome, hself.only hinfo⟩⟩
    rw [hsome, Option.some.injEq] at hd
    exact hself.once (hd ▸ himposed)

theorem storeInfos_specific (h : FilesSound s.files) (id deviceOwnerId : Int) (c : String) :
    (storeInfos deviceOwnerId allSpecificConstraints c (targetOf s.files.specific id) = [] ↔
      c ∉ getVectorStringFromJson (targetOf s.files.specific id) allSpecificConstraints) ∧
    ∀ info ∈ storeInfos deviceOwnerId allSpecificConstraints c (targetOf s.files.specific id),
      info.typeInfo ≠ .constraintNotExist := by
  rcases targetOf_cases s.files.specific id with ⟨-, hnull⟩ | hsome
  · rw [hnull]
    exact ⟨iff_of_true rfl List.not_mem_nil, fun info hinfo => by cases hinfo⟩
  · have hids : ∀ {source}, Imposed allSpecificConstraints (targetOf s.files.specific id) c source →
        IsLocalId source :=
      fun himposed => h.targetEnforcer ⟨_, hsome, himposed⟩
    exact ⟨storeInfos_eq_nil_iff (h.specific.target hsome) hids deviceOwnerId,
      fun info hinfo => typeInfo_of_mem_storeInfos hids hinfo⟩

/-- The queries agree if and only if what the account itself has is in the base
file too, or is imposed on it. -/
theorem queriesAgree_iff (h : FilesSound s.files) (hinfo : s.accounts[id]? = some info) (ask : Ret) (c : String) :
    QueriesAgree s b ask id c ↔
      (c ∈ info.constraints ∨ (c = constraintAdminAuthorize ∧ restrictedAdmin s b ask id info) →
        c ∈ getVectorStringFromJson s.files.base (toString id) ∨
        c ∈ getVectorStringFromJson s.files.global allGlobalConstraints ∨
        c ∈ getVectorStringFromJson (targetOf s.files.specific id) allSpecificConstraints) := by
  obtain ⟨enabled, henabled, hiff⟩ := isOsAccountConstraintEnable_eq_ok hinfo b ask c
  obtain ⟨all, hall, hmem⟩ := getOsAccountAllConstraints_eq_ok (b := b) h hinfo ask
  have hglobalNil := storeInfos_eq_nil_iff (c := c) h.global h.enforcer s.deviceOwnerId
  have hglobalOnce := enforcersOnce_storeInfos (c := c) h.global h.enforcer s.deviceOwnerId
  have hspecificOnce := enforcersOnce_specific h id s.deviceOwnerId c
  obtain ⟨hspecificNil, hspecificType⟩ := storeInfos_specific h id s.deviceOwnerId c
  by_cases hc : hasConstraint s b ask id info c
  · have hsources := queryOsAccountConstraintSourceTypes_of_has hinfo hc
    have henabled' : enabled = true := hiff.mpr hc
    constructor
    · rintro ⟨enabled', all', sources, henabled₁, -, hsources₁, hagree⟩ -
      rw [henabled, Except.ok.injEq] at henabled₁
      rw [hsources, Except.ok.injEq] at hsources₁
      have hsome := (hagree.sourced.mp (henabled₁ ▸ henabled')).1
      by_contra hnone
      rw [not_or, not_or] at hnone
      apply hsome
      rw [← hsources₁, baseInfos, if_neg hnone.1, hglobalNil.mpr hnone.2.1, hspecificNil.mpr hnone.2.2]
      rfl
    · intro hbacked
      refine ⟨enabled, all, _, henabled, hall, hsources, iff_of_true henabled' ((hmem c).mpr hc),
        iff_of_true henabled' ⟨?_, fun info hinfo => ?_⟩, ⟨_, _, _, rfl, fun info hinfo => ?_, hglobalOnce,
        hspecificOnce⟩⟩
      · intro hnil
        simp only [List.append_eq_nil_iff, hglobalNil, hspecificNil] at hnil
        obtain ⟨⟨hbase, hglobal⟩, hspecific⟩ := hnil
        have hbase' : c ∉ getVectorStringFromJson s.files.base (toString id) := by
          intro hmem
          rw [baseInfos, if_pos hmem] at hbase
          cases hbase
        rw [hasConstraint] at hc
        tauto
      · rcases List.mem_append.mp hinfo with hinfo | hinfo
        · rcases List.mem_append.mp hinfo with hinfo | hinfo
          · unfold baseInfos at hinfo
            split at hinfo
            · rw [List.mem_singleton.mp hinfo]
              decide
            · cases hinfo
          · exact typeInfo_of_mem_storeInfos h.enforcer hinfo
        · exact hspecificType info hinfo
      · unfold baseInfos at hinfo
        split at hinfo
        · rw [List.mem_singleton.mp hinfo]
        · cases hinfo
  · have hsources := queryOsAccountConstraintSourceTypes_of_not_has hinfo hc
    have henabled' : ¬enabled = true := fun htrue => hc (hiff.mp htrue)
    rw [hasConstraint] at hc
    have hglobal := hglobalNil.mpr (by tauto)
    have hspecific := hspecificNil.mpr (by tauto)
    rw [hglobal] at hglobalOnce
    rw [hspecific] at hspecificOnce
    refine iff_of_true ⟨enabled, all, _, henabled, hall, hsources, ?_, iff_of_false henabled' ?_,
      [⟨-1, .constraintNotExist⟩], [], [], rfl, ?_, hglobalOnce, hspecificOnce⟩ (fun hown => by tauto)
    · rw [hmem, hiff]
    · rintro ⟨-, hnot⟩
      exact hnot _ List.mem_cons_self rfl
    · intro info hinfo
      rw [List.mem_singleton.mp hinfo]

end agree

end OsAccount.ConstraintQueries
