import OsAccount.DisplayConfig
import Mathlib.Data.List.Induction

namespace OsAccount.DisplayUserZones

open Std DisplayConfig

structure Maps where
  logicalIdMap : ExtTreeMap Nat DisplayConfigInfo := ∅
  userZoneMap : ExtTreeMap Nat (List Nat) := ∅
  userZonePrimaryMap : ExtTreeMap Nat Nat := ∅

def userZoneOf (physicalToLogical : ExtTreeMap Nat Nat) (info : DisplayConfigInfo) : Option Nat :=
  match info.userZoneId with
  | some userZoneId => physicalToLogical[userZoneId]?
  | none => some info.logicalId

def Maps.add (m : Maps) (resolved : DisplayConfigInfo) : Maps :=
  { logicalIdMap := m.logicalIdMap.insert resolved.logicalId resolved
    userZoneMap :=
      m.userZoneMap.insert resolved.userZone (m.userZoneMap[resolved.userZone]?.getD [] ++ [resolved.logicalId])
    userZonePrimaryMap :=
      if resolved.userZone = resolved.logicalId then
        m.userZonePrimaryMap.insert resolved.userZone resolved.logicalId
      else m.userZonePrimaryMap }

def resolveDisplayUserZones (physicalToLogical : ExtTreeMap Nat Nat) :
    List DisplayConfigInfo → Maps → Except ErrCode Maps
  | [], m => .ok m
  | info :: displays, m =>
      if m.logicalIdMap.contains info.logicalId then .error .badJsonFormatError
      else
        match userZoneOf physicalToLogical info with
        | none => .error .badJsonFormatError
        | some userZone => resolveDisplayUserZones physicalToLogical displays (m.add { info with userZone })

def parseDisplayNodes (nodes : List XmlNode) (m : Maps) : Except ErrCode Maps := do
  let c ← collectDisplayNodes nodes {}
  resolveDisplayUserZones c.physicalToLogical c.displays m

def isResolved (m : Maps) (info : DisplayConfigInfo) : Bool :=
  info.userZone == info.logicalId ||
    match m.logicalIdMap[info.userZone]? with
    | none => false
    | some primary => primary.userZone == primary.logicalId

def validateParsedConfig (m : Maps) : Ret :=
  if m.userZonePrimaryMap.isEmpty then .error .badJsonFormatError
  else if m.logicalIdMap.toList.all fun e => isResolved m e.2 then .ok ()
  else .error .badJsonFormatError

/-- The children of the first `displays` under a root with the right name. -/
def findDisplaysNode : XmlNode → Option (List XmlNode)
  | .other => none
  | .element name _ children =>
      if name ≠ "Configs" then none
      else
        children.findSome? fun
          | .element name _ children => if name = "displays" then some children else none
          | .other => none

/-- `doc` is the root of the document, if the text is one. Whatever is rejected leaves no data. -/
def parseDisplayConfig (doc : Option XmlNode) (m : Maps) : Ret × Maps :=
  match doc.bind findDisplaysNode with
  | none => (.error .badJsonFormatError, {})
  | some nodes =>
      match parseDisplayNodes nodes m with
      | .error errCode => (.error errCode, {})
      | .ok m =>
          match validateParsedConfig m with
          | .error errCode => (.error errCode, {})
          | .ok () => (.ok (), m)

structure DisplayUserZoneConfigManager extends Maps where
  configReadFailed : Bool := false
  configFormatError : Bool := false

namespace DisplayUserZoneConfigManager

def loadConfigLocked (file : Except ErrCode (Option XmlNode)) (_ : DisplayUserZoneConfigManager) :
    Ret × DisplayUserZoneConfigManager :=
  match file with
  | .error errCode => (.error errCode, { configReadFailed := true })
  | .ok doc =>
      match parseDisplayConfig doc {} with
      | (.error errCode, m) => (.error errCode, { toMaps := m, configFormatError := true })
      | (.ok (), m) => (.ok (), { toMaps := m })

variable (file : Except ErrCode (Option XmlNode)) (s : DisplayUserZoneConfigManager)

def ensureConfigReady : Ret × DisplayUserZoneConfigManager :=
  if s.configFormatError then (.error .badJsonFormatError, s)
  else if !s.configReadFailed then (.ok (), s)
  else
    match s.loadConfigLocked file with
    | (.ok (), s) => (.ok (), s)
    | (.error _, s) => (.error (if s.configFormatError then .badJsonFormatError else .fileReadFailed), s)

def query {α : Type} (answer : Maps → Except ErrCode α) : Except ErrCode α × DisplayUserZoneConfigManager :=
  match s.ensureConfigReady file with
  | (.error errCode, s) => (.error errCode, s)
  | (.ok (), s) => (answer s.toMaps, s)

def isDisplayPrimary (logicalDisplayId : Nat) : Except ErrCode Bool × DisplayUserZoneConfigManager :=
  s.query file fun m =>
    match m.logicalIdMap[logicalDisplayId]? with
    | none => .ok true
    | some info => .ok (info.logicalId == info.userZone)

def getPrimaryDisplayId (logicalDisplayId : Nat) : Except ErrCode Nat × DisplayUserZoneConfigManager :=
  s.query file fun m =>
    match m.logicalIdMap[logicalDisplayId]? with
    | none => .ok logicalDisplayId
    | some info =>
        match m.userZonePrimaryMap[info.userZone]? with
        | none => .error .displayIdNotExistError
        | some primary => if m.logicalIdMap.contains primary then .ok primary else .error .displayIdNotExistError

def getDisplayIdsByLogicalId (logicalDisplayId : Nat) : Except ErrCode (List Nat) × DisplayUserZoneConfigManager :=
  s.query file fun m =>
    match m.logicalIdMap[logicalDisplayId]? with
    | none => .ok [logicalDisplayId]
    | some info =>
        match m.userZoneMap[info.userZone]? with
        | none => .ok []
        | some displayIds =>
            .ok (displayIds.filterMap fun displayId => (m.logicalIdMap[displayId]?).map DisplayConfigInfo.logicalId)

end DisplayUserZoneConfigManager

/-- The data hold the resolved displays: each by its logical id, the zones with their displays in order, and the
primaries. -/
structure Filed (infos : List DisplayConfigInfo) (m : Maps) : Prop where
  nodup : (infos.map DisplayConfigInfo.logicalId).Nodup
  display : ∀ l info, m.logicalIdMap[l]? = some info ↔ info ∈ infos ∧ info.logicalId = l
  zone : ∀ z, m.userZoneMap[z]?.getD [] =
    (infos.filter fun info => info.userZone = z).map DisplayConfigInfo.logicalId
  primary : ∀ z l, m.userZonePrimaryMap[z]? = some l ↔
    l = z ∧ ∃ info ∈ infos, info.logicalId = z ∧ info.userZone = z

theorem filed_nil : Filed [] {} where
  nodup := List.nodup_nil
  display l info := by simp
  zone z := by simp
  primary z l := by simp

section filed

variable {infos : List DisplayConfigInfo} {m : Maps} {info : DisplayConfigInfo}

theorem Filed.mem (h : Filed infos m) (hmem : info ∈ infos) : info.logicalId ∈ m.logicalIdMap :=
  ExtTreeMap.mem_iff_isSome_getElem?.mpr (by rw [(h.display _ info).mpr ⟨hmem, rfl⟩]; rfl)

theorem Filed.add (h : Filed infos m) (hnew : info.logicalId ∉ m.logicalIdMap) :
    Filed (infos ++ [info]) (m.add info) := by
  have hother {other : DisplayConfigInfo} (hmem : other ∈ infos) : other.logicalId ≠ info.logicalId :=
    fun heq => hnew (heq ▸ h.mem hmem)
  refine ⟨?_, fun l other => ?_, fun z => ?_, fun z l => ?_⟩
  · rw [List.map_append, List.nodup_append]
    refine ⟨h.nodup, List.nodup_singleton _, fun l hl l' hl' => ?_⟩
    obtain ⟨other, hmem, rfl⟩ := List.mem_map.mp hl
    rw [List.mem_singleton.mp hl']
    exact hother hmem
  · rw [Maps.add, OrderedMap.getElem?_insert_eq, List.mem_append, List.mem_singleton]
    split_ifs with hl
    · rw [Option.some.injEq, ← hl]
      constructor
      · rintro rfl
        exact ⟨.inr rfl, rfl⟩
      · rintro ⟨hmem | rfl, heq⟩
        · exact absurd heq (hother hmem)
        · rfl
    · rw [h.display]
      constructor
      · exact fun hdisplay => ⟨.inl hdisplay.1, hdisplay.2⟩
      · rintro ⟨hmem | rfl, heq⟩
        · exact ⟨hmem, heq⟩
        · exact absurd heq hl
  · rw [Maps.add, OrderedMap.getElem?_insert_eq, List.filter_append, List.map_append, List.filter_singleton]
    split_ifs with hz
    · rw [Option.getD_some, h.zone, hz, decide_eq_true rfl]
      rfl
    · rw [h.zone, decide_eq_false hz]
      exact (List.append_nil _).symm
  · rw [Maps.add]
    have hrest : (∃ other ∈ infos ++ [info], other.logicalId = z ∧ other.userZone = z) ↔
        (∃ other ∈ infos, other.logicalId = z ∧ other.userZone = z) ∨ info.logicalId = z ∧
            info.userZone = z := by
      simp only [List.mem_append, List.mem_singleton, or_and_right, exists_or, exists_eq_left]
    rw [hrest]
    split_ifs with hprimary
    · rw [OrderedMap.getElem?_insert_eq]
      split_ifs with hz
      · rw [Option.some.injEq, ← hz, hprimary]
        exact ⟨fun h => ⟨h.symm, .inr ⟨rfl, rfl⟩⟩, fun h => h.1.symm⟩
      · rw [h.primary]
        exact and_congr_right fun _ => ⟨.inl, fun h => h.resolve_right fun h => hz h.2⟩
    · rw [h.primary]
      refine and_congr_right fun _ => ⟨.inl, fun h => h.resolve_right fun h => hprimary (h.2.trans h.1.symm)⟩

end filed

def resolve (physicalToLogical : ExtTreeMap Nat Nat) (info : DisplayConfigInfo) : DisplayConfigInfo :=
  { info with userZone := (userZoneOf physicalToLogical info).getD 0 }

section resolving

variable {infos displays : List DisplayConfigInfo} {m m' : Maps} {physicalToLogical : ExtTreeMap Nat Nat}

theorem resolveDisplayUserZones_filed (h : Filed infos m)
    (hok : resolveDisplayUserZones physicalToLogical displays m = .ok m') :
    Filed (infos ++ displays.map (resolve physicalToLogical)) m' ∧
      ∀ info ∈ displays, (userZoneOf physicalToLogical info).isSome = true := by
  induction displays generalizing infos m with
  | nil =>
      cases hok
      rw [List.map_nil, List.append_nil]
      exact ⟨h, nofun⟩
  | cons info displays ih =>
      rw [resolveDisplayUserZones] at hok
      split_ifs at hok with hknown
      cases hzone : userZoneOf physicalToLogical info with
      | none =>
          rw [hzone] at hok
          cases hok
      | some userZone =>
          rw [hzone] at hok
          have hresolve : resolve physicalToLogical info = { info with userZone } := by
            rw [resolve, hzone, Option.getD_some]
          have hnew : info.logicalId ∉ m.logicalIdMap :=
            fun hmem => hknown (ExtTreeMap.mem_iff_contains.mp hmem)
          obtain ⟨hfiled, hsome⟩ := ih (@Filed.add infos m { info with userZone } h hnew) hok
          rw [List.map_cons, hresolve]
          rw [List.append_assoc] at hfiled
          refine ⟨hfiled, List.forall_mem_cons.mpr ⟨?_, hsome⟩⟩
          rw [hzone]
          rfl

theorem resolveDisplayUserZones_isOk (h : Filed infos m) (hnodup : (displays.map DisplayConfigInfo.logicalId).Nodup)
    (hnew : ∀ info ∈ displays, info.logicalId ∉ m.logicalIdMap)
    (hsome : ∀ info ∈ displays, (userZoneOf physicalToLogical info).isSome = true) :
    ∃ m', resolveDisplayUserZones physicalToLogical displays m = .ok m' := by
  induction displays generalizing infos m with
  | nil => exact ⟨m, rfl⟩
  | cons info displays ih =>
      rw [List.map_cons, List.nodup_cons] at hnodup
      obtain ⟨hinfo, hnew⟩ := List.forall_mem_cons.mp hnew
      obtain ⟨hzone, hsome⟩ := List.forall_mem_cons.mp hsome
      obtain ⟨userZone, hzone⟩ := Option.isSome_iff_exists.mp hzone
      rw [resolveDisplayUserZones, if_neg fun hknown => hinfo (ExtTreeMap.mem_iff_contains.mpr hknown), hzone]
      exact ih (@Filed.add infos m { info with userZone } h hinfo) hnodup.2
        (OrderedMap.forall_notMem_insert_iff.mpr ⟨hnodup.1, hnew⟩) hsome

theorem validateParsedConfig_eq_ok (h : Filed infos m) :
    validateParsedConfig m = .ok () ↔
      (∃ info ∈ infos, info.userZone = info.logicalId) ∧
        ∀ info ∈ infos, ∃ primary ∈ infos, primary.logicalId = info.userZone ∧
          primary.userZone = primary.logicalId := by
  have hempty : m.userZonePrimaryMap.isEmpty = true ↔ ¬ ∃ info ∈ infos, info.userZone = info.logicalId := by
    rw [OrderedMap.isEmpty_iff_getElem?]
    constructor
    · rintro hnone ⟨info, hmem, hprimary⟩
      have hsome := (h.primary info.logicalId info.logicalId).mpr ⟨rfl, info, hmem, rfl, hprimary⟩
      rw [hnone] at hsome
      cases hsome
    · intro hnone z
      cases hz : m.userZonePrimaryMap[z]? with
      | none => rfl
      | some l =>
          obtain ⟨-, info, hmem, hl, hz⟩ := (h.primary z l).mp hz
          exact absurd ⟨info, hmem, hz.trans hl.symm⟩ hnone
  have hresolved {info : DisplayConfigInfo} (hmem : info ∈ infos) : isResolved m info = true ↔
      ∃ primary ∈ infos, primary.logicalId = info.userZone ∧ primary.userZone = primary.logicalId := by
    rw [isResolved, Bool.or_eq_true, beq_iff_eq]
    constructor
    · rintro (hself | hother)
      · exact ⟨info, hmem, hself.symm, hself⟩
      · cases hprimary : m.logicalIdMap[info.userZone]? with
        | none =>
            rw [hprimary] at hother
            cases hother
        | some primary =>
            rw [hprimary] at hother
            obtain ⟨hin, hl⟩ := (h.display _ primary).mp hprimary
            exact ⟨primary, hin, hl, beq_iff_eq.mp hother⟩
    · rintro ⟨primary, hin, hl, hself⟩
      rw [(h.display info.userZone primary).mpr ⟨hin, hl⟩]
      exact .inr (beq_iff_eq.mpr hself)
  have hall : (m.logicalIdMap.toList.all fun e => isResolved m e.2) = true ↔
      ∀ info ∈ infos, ∃ primary ∈ infos, primary.logicalId = info.userZone ∧
        primary.userZone = primary.logicalId := by
    rw [List.all_eq_true]
    constructor
    · intro hall info hmem
      refine (hresolved hmem).mp (hall (info.logicalId, info) ?_)
      exact ExtTreeMap.mem_toList_iff_getElem?_eq_some.mpr ((h.display _ info).mpr ⟨hmem, rfl⟩)
    · rintro hall ⟨l, info⟩ hentry
      obtain ⟨hmem, -⟩ := (h.display l info).mp (ExtTreeMap.mem_toList_iff_getElem?_eq_some.mp hentry)
      exact (hresolved hmem).mpr (hall info hmem)
  rw [validateParsedConfig]
  split_ifs with hnone hentries
  · exact iff_of_false nofun fun h => hempty.mp hnone h.1
  · exact iff_of_true rfl ⟨not_not.mp fun hno => hnone (hempty.mpr hno), hall.mp hentries⟩
  · exact iff_of_false nofun fun h => hentries (hall.mpr h.2)

end resolving

def Primary (info : DisplayConfigInfo) : Prop := info.userZoneId = none ∨ info.userZoneId = some info.physicalId

/-- The nodes are displays whose ids differ, whose zones are those of primaries, and one of them is a primary. -/
structure Accepts (nodes : List XmlNode) (infos : List DisplayConfigInfo) : Prop where
  reads : List.Forall₂ Reads (nodes.filterMap displayChildren?) infos
  physical : (infos.map DisplayConfigInfo.physicalId).Nodup
  logical : (infos.map DisplayConfigInfo.logicalId).Nodup
  zones : ∀ info ∈ infos, ∀ z, info.userZoneId = some z → ∃ primary ∈ infos, primary.physicalId = z ∧ Primary primary
  primary : ∃ info ∈ infos, Primary info

def zone (m : Maps) (l : Nat) : Nat :=
  match m.logicalIdMap[l]? with
  | none => l
  | some info => info.userZone

/-- The primary of a display is the one with the physical id that its zone names, or the display itself. -/
structure PrimaryOf (infos : List DisplayConfigInfo) (primary : Nat → Nat) : Prop where
  named : ∀ info ∈ infos, ∀ other ∈ infos, info.userZoneId = some other.physicalId →
    primary info.logicalId = other.logicalId
  unnamed : ∀ info ∈ infos, info.userZoneId = none → primary info.logicalId = info.logicalId
  other : ∀ l, l ∉ infos.map DisplayConfigInfo.logicalId → primary l = l

section accepting

variable {infos : List DisplayConfigInfo} {physicalToLogical : ExtTreeMap Nat Nat} {info : DisplayConfigInfo}
  (hphysical : (infos.map DisplayConfigInfo.physicalId).Nodup)
  (hlogical : (infos.map DisplayConfigInfo.logicalId).Nodup)
  (hmap : ∀ z l, physicalToLogical[z]? = some l ↔ ∃ info ∈ infos, info.physicalId = z ∧ info.logicalId = l)

include hmap in
theorem userZoneOf_eq {z : Nat} (hz : info.userZoneId = some z) {other : DisplayConfigInfo} (hother : other ∈ infos)
    (hid : other.physicalId = z) : userZoneOf physicalToLogical info = some other.logicalId := by
  rw [userZoneOf, hz]
  exact (hmap z other.logicalId).mpr ⟨other, hother, hid, rfl⟩

include hmap in
theorem primaryOf_zone {m : Maps} (hfiled : Filed (infos.map (resolve physicalToLogical)) m) :
    PrimaryOf infos (zone m) := by
  have hzone {info : DisplayConfigInfo} (hmem : info ∈ infos) :
      zone m info.logicalId = (resolve physicalToLogical info).userZone := by
    rw [zone, (hfiled.display info.logicalId _).mpr ⟨List.mem_map_of_mem hmem, rfl⟩]
  refine ⟨fun info hmem other hother hid => ?_, fun info hmem hid => ?_, fun l hl => ?_⟩
  · rw [hzone hmem, resolve, userZoneOf_eq hmap hid hother rfl]
    rfl
  · rw [hzone hmem, resolve, userZoneOf, hid]
    rfl
  · rw [zone]
    cases h : m.logicalIdMap[l]? with
    | none => rfl
    | some info =>
        obtain ⟨hmem, rfl⟩ := (hfiled.display l info).mp h
        obtain ⟨other, hother, rfl⟩ := List.mem_map.mp hmem
        exact absurd (List.mem_map_of_mem hother) hl

include hphysical hlogical hmap in
theorem userZone_eq_logicalId_iff (hmem : info ∈ infos) (hsome : (userZoneOf physicalToLogical info).isSome = true) :
    (resolve physicalToLogical info).userZone = info.logicalId ↔ Primary info := by
  obtain ⟨zone, hzone⟩ := Option.isSome_iff_exists.mp hsome
  have hresolve : (resolve physicalToLogical info).userZone = zone := by
    rw [resolve, hzone]
    rfl
  rw [hresolve, Primary]
  cases hid : info.userZoneId with
  | none =>
      rw [userZoneOf, hid] at hzone
      exact iff_of_true (Option.some.inj hzone).symm (.inl rfl)
  | some z =>
      rw [userZoneOf, hid] at hzone
      obtain ⟨other, hother, rfl, rfl⟩ := (hmap z zone).mp hzone
      rw [Option.some.injEq]
      constructor
      · intro heq
        rw [List.inj_on_of_nodup_map hlogical hother hmem heq]
        exact .inr rfl
      · rintro (h | heq)
        · cases h
        · rw [List.inj_on_of_nodup_map hphysical hother hmem heq]

include hphysical hlogical hmap in
theorem resolved_iff (hsome : ∀ info ∈ infos, (userZoneOf physicalToLogical info).isSome = true) :
    ((∃ info ∈ infos.map (resolve physicalToLogical), info.userZone = info.logicalId) ∧
      ∀ info ∈ infos.map (resolve physicalToLogical), ∃ primary ∈ infos.map (resolve physicalToLogical),
        primary.logicalId = info.userZone ∧ primary.userZone = primary.logicalId) ↔
    (∃ info ∈ infos, Primary info) ∧
      ∀ info ∈ infos, ∀ z, info.userZoneId = some z → ∃ primary ∈ infos, primary.physicalId = z ∧ Primary primary := by
  have hprimary {info : DisplayConfigInfo} (hmem : info ∈ infos) :
      (resolve physicalToLogical info).userZone = (resolve physicalToLogical info).logicalId ↔ Primary info :=
    userZone_eq_logicalId_iff hphysical hlogical hmap hmem (hsome info hmem)
  simp only [List.mem_map, exists_exists_and_eq_and, forall_exists_index, and_imp, forall_apply_eq_imp_iff₂]
  refine and_congr (exists_congr fun info => and_congr_right hprimary) ?_
  refine forall₂_congr fun info hmem => ?_
  constructor
  · rintro ⟨primary, hin, hl, hself⟩ z hz
    obtain ⟨zone, hzone⟩ := Option.isSome_iff_exists.mp (hsome info hmem)
    have hfound := hzone
    rw [userZoneOf, hz] at hfound
    obtain ⟨other, hother, hid, hlogicalId⟩ := (hmap z zone).mp hfound
    have hsame : primary = other := by
      refine List.inj_on_of_nodup_map hlogical hin hother ?_
      have hl' : primary.logicalId = (userZoneOf physicalToLogical info).getD 0 := hl
      rw [hl', hzone, Option.getD_some, hlogicalId]
    exact ⟨primary, hin, hsame ▸ hid, (hprimary hin).mp hself⟩
  · intro hzones
    cases hz : info.userZoneId with
    | none => exact ⟨info, hmem, ((hprimary hmem).mpr (.inl hz)).symm, (hprimary hmem).mpr (.inl hz)⟩
    | some z =>
        obtain ⟨primary, hin, hid, hself⟩ := hzones z hz
        refine ⟨primary, hin, ?_, (hprimary hin).mpr hself⟩
        have hzone := userZoneOf_eq hmap hz hin hid
        change primary.logicalId = (userZoneOf physicalToLogical info).getD 0
        rw [hzone, Option.getD_some]

end accepting

section parsing

variable {doc : Option XmlNode} {nodes : List XmlNode} {infos : List DisplayConfigInfo} {m : Maps}

def logicalIds (infos : List DisplayConfigInfo) : ExtTreeMap Nat Nat :=
  infos.foldl (fun map info => map.insert info.physicalId info.logicalId) ∅

theorem getElem?_logicalIds (hphysical : (infos.map DisplayConfigInfo.physicalId).Nodup) (z l : Nat) :
    (logicalIds infos)[z]? = some l ↔ ∃ info ∈ infos, info.physicalId = z ∧ info.logicalId = l := by
  rw [logicalIds, getElem?_foldl_insert hphysical (fun _ _ => ExtTreeMap.not_mem_empty)]
  simp

theorem parseDisplayNodes_eq_ok :
    parseDisplayNodes nodes {} = .ok m ↔
      ∃ infos, List.Forall₂ Reads (nodes.filterMap displayChildren?) infos ∧
        (infos.map DisplayConfigInfo.physicalId).Nodup ∧
        resolveDisplayUserZones (logicalIds infos) infos {} = .ok m := by
  constructor
  · intro h
    cases hcollect : collectDisplayNodes nodes {} with
    | error errCode =>
        rw [parseDisplayNodes, hcollect] at h
        cases h
    | ok c =>
        obtain ⟨infos, hreads, hphysical, -, rfl⟩ := collectDisplayNodes_eq_ok.mp hcollect
        rw [parseDisplayNodes, hcollect] at h
        exact ⟨infos, hreads, hphysical, h⟩
  · rintro ⟨infos, hreads, hphysical, h⟩
    have hcollect := collectDisplayNodes_eq_ok (c := {}).mpr
      ⟨infos, hreads, hphysical, fun _ _ => ExtTreeMap.not_mem_empty, rfl⟩
    rw [parseDisplayNodes, hcollect]
    exact h

theorem parseDisplayConfig_of_accepts (hnodes : doc.bind findDisplaysNode = some nodes) (h : Accepts nodes infos) :
    ∃ m, parseDisplayConfig doc {} = (.ok (), m) := by
  have hmap := getElem?_logicalIds h.physical
  have hsome : ∀ info ∈ infos, (userZoneOf (logicalIds infos) info).isSome = true := by
    intro info hmem
    cases hz : info.userZoneId with
    | none =>
        rw [userZoneOf, hz]
        rfl
    | some z =>
        obtain ⟨primary, hin, hid, -⟩ := h.zones info hmem z hz
        rw [userZoneOf_eq hmap hz hin hid]
        rfl
  obtain ⟨m, hresolve⟩ :=
    resolveDisplayUserZones_isOk filed_nil h.logical (fun _ _ => ExtTreeMap.not_mem_empty) hsome
  have hfiled := (resolveDisplayUserZones_filed filed_nil hresolve).1
  have hvalid : validateParsedConfig m = .ok () :=
    (validateParsedConfig_eq_ok hfiled).mpr
      ((resolved_iff h.physical h.logical hmap hsome).mpr ⟨h.primary, h.zones⟩)
  refine ⟨m, ?_⟩
  rw [parseDisplayConfig, hnodes]
  dsimp only
  rw [parseDisplayNodes_eq_ok.mpr ⟨infos, h.reads, h.physical, hresolve⟩]
  dsimp only
  rw [hvalid]

/-- What is accepted are displays of the right form, and the data hold them with zones that each have a primary. -/
theorem accepts_of_parseDisplayConfig (h : parseDisplayConfig doc {} = (.ok (), m)) :
    (∃ nodes infos, doc.bind findDisplaysNode = some nodes ∧ Accepts nodes infos ∧ PrimaryOf infos (zone m)) ∧
      ∃ resolved, Filed resolved m ∧ ∀ info ∈ resolved, ∃ primary ∈ resolved,
        primary.logicalId = info.userZone ∧ primary.userZone = primary.logicalId := by
  rw [parseDisplayConfig] at h
  cases hnodes : doc.bind findDisplaysNode with
  | none =>
      rw [hnodes] at h
      cases h
  | some nodes =>
      rw [hnodes] at h
      dsimp only at h
      cases hparse : parseDisplayNodes nodes {} with
      | error errCode =>
          rw [hparse] at h
          cases h
      | ok parsed =>
          rw [hparse] at h
          dsimp only at h
          cases hvalid : validateParsedConfig parsed with
          | error errCode =>
              rw [hvalid] at h
              cases h
          | ok _ =>
              rw [hvalid] at h
              cases h
              obtain ⟨infos, hreads, hphysical, hresolve⟩ := parseDisplayNodes_eq_ok.mp hparse
              obtain ⟨hfiled, hsome⟩ := resolveDisplayUserZones_filed filed_nil hresolve
              rw [List.nil_append] at hfiled
              have hlogical : (infos.map DisplayConfigInfo.logicalId).Nodup := by
                have hnodup := hfiled.nodup
                rw [List.map_map] at hnodup
                exact hnodup
              have hchecked := (validateParsedConfig_eq_ok hfiled).mp hvalid
              have hspec :=
                (resolved_iff hphysical hlogical (getElem?_logicalIds hphysical) hsome).mp hchecked
              exact ⟨⟨nodes, infos, rfl, ⟨hreads, hphysical, hlogical, hspec.2, hspec.1⟩,
                primaryOf_zone (getElem?_logicalIds hphysical) hfiled⟩, _, hfiled, hchecked.2⟩

theorem parseDisplayConfig_rejected {errCode : ErrCode} {m' : Maps}
    (h : parseDisplayConfig doc m = (.error errCode, m')) : m' = {} := by
  rw [parseDisplayConfig] at h
  repeat' split at h
  all_goals cases h
  all_goals rfl

end parsing

section queries

variable {resolved : List DisplayConfigInfo} {m : Maps} (hfiled : Filed resolved m)
  (hprimaries : ∀ info ∈ resolved, ∃ primary ∈ resolved,
    primary.logicalId = info.userZone ∧ primary.userZone = primary.logicalId)

include hfiled hprimaries in
theorem zone_primary {l : Nat} {info : DisplayConfigInfo} (h : m.logicalIdMap[l]? = some info) :
    zone m l = info.userZone ∧ zone m info.userZone = info.userZone ∧ info.userZone ∈ m.logicalIdMap ∧
      m.userZonePrimaryMap[info.userZone]? = some info.userZone := by
  obtain ⟨primary, hin, hl, hself⟩ := hprimaries info ((hfiled.display l info).mp h).1
  have hentry : m.logicalIdMap[info.userZone]? = some primary := (hfiled.display _ primary).mpr ⟨hin, hl⟩
  refine ⟨?_, ?_, ?_, ?_⟩
  · rw [zone, h]
  · rw [zone, hentry]
    exact hself.trans hl
  · exact hl ▸ hfiled.mem hin
  · exact (hfiled.primary _ _).mpr ⟨rfl, primary, hin, hl, hself.trans hl⟩

include hfiled hprimaries in
theorem zone_zone (l : Nat) : zone m (zone m l) = zone m l := by
  cases h : m.logicalIdMap[l]? with
  | none =>
      have hself : zone m l = l := by rw [zone, h]
      rw [hself, hself]
  | some info =>
      obtain ⟨hzone, hidem, -⟩ := zone_primary hfiled hprimaries h
      rw [hzone, hidem]

open DisplayUserZoneConfigManager

variable {s : DisplayUserZoneConfigManager} {file : Except ErrCode (Option XmlNode)}

theorem query_ready {α : Type} (hread : s.configReadFailed = false) (hformat : s.configFormatError = false)
    (answer : Maps → Except ErrCode α) : s.query file answer = (answer s.toMaps, s) := by
  rw [query, ensureConfigReady, hread, hformat]
  rfl

variable (hread : s.configReadFailed = false) (hformat : s.configFormatError = false) (hs : s.toMaps = m)

include hfiled hread hformat hs in
theorem isDisplayPrimary_eq (l : Nat) : s.isDisplayPrimary file l = (.ok (decide (zone m l = l)), s) := by
  rw [isDisplayPrimary, query_ready hread hformat, hs]
  cases h : m.logicalIdMap[l]? with
  | none =>
      have hself : zone m l = l := by rw [zone, h]
      rw [hself, decide_eq_true rfl]
  | some info =>
      have hzone : zone m l = info.userZone := by rw [zone, h]
      have hl := ((hfiled.display l info).mp h).2
      dsimp only
      rw [hzone, hl, beq_eq_decide, decide_eq_decide.mpr eq_comm]

include hfiled hprimaries hread hformat hs in
theorem getPrimaryDisplayId_eq (l : Nat) : s.getPrimaryDisplayId file l = (.ok (zone m l), s) := by
  rw [getPrimaryDisplayId, query_ready hread hformat, hs]
  cases h : m.logicalIdMap[l]? with
  | none => rw [zone, h]
  | some info =>
      obtain ⟨hzone, -, hentry, hprimary⟩ := zone_primary hfiled hprimaries h
      dsimp only
      rw [hprimary]
      dsimp only
      rw [if_pos (ExtTreeMap.mem_iff_contains.mp hentry), hzone]

include hfiled in
theorem filterMap_zone (z : Nat) :
    ((resolved.filter fun info => info.userZone = z).map DisplayConfigInfo.logicalId).filterMap
        (fun displayId => (m.logicalIdMap[displayId]?).map DisplayConfigInfo.logicalId) =
      (resolved.filter fun info => info.userZone = z).map DisplayConfigInfo.logicalId := by
  rw [List.filterMap_map]
  have hfound : ∀ info ∈ resolved.filter fun info => info.userZone = z,
      ((fun displayId => (m.logicalIdMap[displayId]?).map DisplayConfigInfo.logicalId) ∘
        DisplayConfigInfo.logicalId) info = some info.logicalId := by
    intro info hmem
    rw [Function.comp_apply, (hfiled.display _ info).mpr ⟨List.mem_of_mem_filter hmem, rfl⟩]
    rfl
  rw [List.filterMap_congr hfound]
  exact congrFun (@List.filterMap_eq_map _ _ DisplayConfigInfo.logicalId) _

include hfiled hprimaries hread hformat hs in
theorem getDisplayIdsByLogicalId_eq (l : Nat) :
    ∃ displayIds, s.getDisplayIdsByLogicalId file l = (.ok displayIds, s) ∧ displayIds.Nodup ∧
      ∀ e, e ∈ displayIds ↔ zone m e = zone m l := by
  rw [getDisplayIdsByLogicalId, query_ready hread hformat, hs]
  cases h : m.logicalIdMap[l]? with
  | none =>
      have hself : zone m l = l := by rw [zone, h]
      refine ⟨[l], rfl, List.nodup_singleton l, fun e => ?_⟩
      rw [List.mem_singleton, hself]
      constructor
      · rintro rfl
        exact hself
      · intro he
        cases hentry : m.logicalIdMap[e]? with
        | none =>
            rw [zone, hentry] at he
            exact he
        | some info =>
            obtain ⟨hzone, -, hprimary, -⟩ := zone_primary hfiled hprimaries hentry
            rw [← hzone, he] at hprimary
            exact absurd (ExtTreeMap.mem_iff_isSome_getElem?.mp hprimary)
              (by rw [h]; exact Bool.false_ne_true)
  | some info =>
      obtain ⟨hzone, -, hprimary, -⟩ := zone_primary hfiled hprimaries h
      have hlist := hfiled.zone info.userZone
      have hmem (e : Nat) : e ∈ (resolved.filter fun other => other.userZone = info.userZone).map
          DisplayConfigInfo.logicalId ↔ zone m e = zone m l := by
        rw [hzone]
        constructor
        · intro he
          obtain ⟨other, hother, rfl⟩ := List.mem_map.mp he
          rw [List.mem_filter, decide_eq_true_iff] at hother
          rw [zone, (hfiled.display _ other).mpr ⟨hother.1, rfl⟩]
          exact hother.2
        · intro he
          cases hentry : m.logicalIdMap[e]? with
          | none =>
              have hself : zone m e = e := by rw [zone, hentry]
              rw [← he, hself] at hprimary
              exact absurd (ExtTreeMap.mem_iff_isSome_getElem?.mp hprimary)
                (by rw [hentry]; exact Bool.false_ne_true)
          | some other =>
              rw [zone, hentry] at he
              obtain ⟨hin, rfl⟩ := (hfiled.display e other).mp hentry
              exact List.mem_map_of_mem (List.mem_filter.mpr ⟨hin, decide_eq_true he⟩)
      refine ⟨_, ?_, ?_, hmem⟩
      · dsimp only
        cases hids : m.userZoneMap[info.userZone]? with
        | none =>
            rw [hids] at hlist
            exact congrArg (fun ids => (Except.ok ids, s)) hlist
        | some displayIds =>
            rw [hids, Option.getD_some] at hlist
            dsimp only
            rw [hlist, filterMap_zone hfiled]
      · exact hfiled.nodup.sublist (List.filter_sublist.map _)

end queries

section results

open DisplayUserZoneConfigManager

/-- A document is accepted exactly if its displays are of the right form with zones of primaries. Then the displays fall
into the zones that it names, with one primary each, to which all three queries agree; otherwise nothing is left. -/
theorem displayUserZones_partition (doc : Option XmlNode) (s : DisplayUserZoneConfigManager) :
    ((s.loadConfigLocked (.ok doc)).1 = .ok () ↔
      ∃ nodes infos, doc.bind findDisplaysNode = some nodes ∧ Accepts nodes infos) ∧
    ((s.loadConfigLocked (.ok doc)).1 = .ok () → ∃ (nodes : List XmlNode) (infos : List DisplayConfigInfo)
      (primary : Nat → Nat), doc.bind findDisplaysNode = some nodes ∧ Accepts nodes infos ∧ PrimaryOf infos primary ∧
      (∀ d, primary (primary d) = primary d) ∧
      ∀ (file : Except ErrCode (Option XmlNode)) (s' : DisplayUserZoneConfigManager),
        s' = (s.loadConfigLocked (.ok doc)).2 → ∀ d,
          s'.getPrimaryDisplayId file d = (.ok (primary d), s') ∧
          s'.isDisplayPrimary file d = (.ok (decide (primary d = d)), s') ∧
          ∃ displayIds, s'.getDisplayIdsByLogicalId file d = (.ok displayIds, s') ∧ displayIds.Nodup ∧
            ∀ e, e ∈ displayIds ↔ primary e = primary d) ∧
    ((s.loadConfigLocked (.ok doc)).1 ≠ .ok () → (s.loadConfigLocked (.ok doc)).2.toMaps = {}) := by
  cases hparse : parseDisplayConfig doc {} with
  | mk ret m =>
      cases ret with
      | error errCode =>
          have hload : s.loadConfigLocked (.ok doc) =
              (.error errCode, { toMaps := m, configFormatError := true }) := by
            rw [loadConfigLocked, hparse]
          rw [hload]
          refine ⟨iff_of_false nofun ?_, nofun, fun _ => parseDisplayConfig_rejected hparse⟩
          rintro ⟨nodes, infos, hnodes, haccepts⟩
          obtain ⟨m', hok⟩ := parseDisplayConfig_of_accepts hnodes haccepts
          rw [hparse] at hok
          cases hok
      | ok _ =>
          obtain ⟨⟨nodes, infos, hnodes, haccepts, hprimary⟩, resolved, hfiled, hprimaries⟩ :=
            accepts_of_parseDisplayConfig hparse
          have hload : s.loadConfigLocked (.ok doc) = (.ok (), { toMaps := m }) := by
            rw [loadConfigLocked, hparse]
          rw [hload]
          refine ⟨iff_of_true rfl ⟨nodes, infos, hnodes, haccepts⟩, fun _ => ⟨nodes, infos, zone m, hnodes, haccepts,
            hprimary, zone_zone hfiled hprimaries, ?_⟩, fun h => absurd rfl h⟩
          rintro file s' rfl d
          exact ⟨getPrimaryDisplayId_eq hfiled hprimaries rfl rfl rfl d,
            isDisplayPrimary_eq hfiled rfl rfl rfl d,
            getDisplayIdsByLogicalId_eq hfiled hprimaries rfl rfl rfl d⟩

def displayNode (physicalId logicalId : String) (userZoneId : List XmlNode) : XmlNode :=
  .element "display" none
    ([.element "physicalId" (some physicalId) [], .element "logicalId" (some logicalId) []] ++ userZoneId)

/-- Display 1 is in the zone of display 0. -/
def twoDisplays : XmlNode :=
  .element "Configs" none [.element "displays" none
    [displayNode "10" "0" [], displayNode "11" "1" [.element "userZoneId" (some "10") []]]]

example :
    ((loadConfigLocked (.ok (some twoDisplays)) {}).2.getPrimaryDisplayId (.error .fileReadFailed) 1).1 = .ok 0 := by
  decide +kernel

end results

end OsAccount.DisplayUserZones
