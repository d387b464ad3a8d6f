import OsAccount.ActivationInvariant
import OsAccount.DisplayUserZones

namespace OsAccount.ForegroundQueries

open Std Activation ActivationInvariant DisplayConfig DisplayUserZones

def displayNotPrimaryError : ErrCode := .sys 4194371

def accountInDisplayIdNotFoundError : ErrCode := .sys 4194342

def anyDisplayId : Nat := invalidDisplayId

structure Displays where
  allDisplayIds : List Nat
  file : Except ErrCode (Option XmlNode)

structure State where
  accounts : Activation.State
  zones : DisplayUserZoneConfigManager

section displays

variable (zones : DisplayUserZoneConfigManager) (a : Displays)

def validateDisplayId (displayId : Nat) : Ret :=
  if displayId ≠ defaultDisplayId ∧ displayId ∉ a.allDisplayIds then .error .displayIdNotExistError else .ok ()

def validateDisplayPrimary (displayId : Nat) : Ret × DisplayUserZoneConfigManager :=
  if displayId = defaultDisplayId then (.ok (), zones)
  else
    match validateDisplayId a displayId with
    | .error e => (.error e, zones)
    | .ok () =>
        match zones.isDisplayPrimary a.file displayId with
        | (.error e, zones) => (.error e, zones)
        | (.ok isPrimary, zones) => (if isPrimary then .ok () else .error displayNotPrimaryError, zones)

def primaryDisplayId (displayId : Nat) : Except ErrCode Nat × DisplayUserZoneConfigManager :=
  match zones.getPrimaryDisplayId a.file displayId with
  | (.error e, zones) => (if e = .displayIdNotExistError then .error e else .ok displayId, zones)
  | (.ok primaryDisplayId, zones) => (.ok primaryDisplayId, zones)

def displayIdsOf (displayId : Nat) : List Nat × DisplayUserZoneConfigManager :=
  match zones.getDisplayIdsByLogicalId a.file displayId with
  | (.error _, zones) => ([displayId], zones)
  | (.ok displayIds, zones) => (displayIds, zones)

end displays

variable (s : State) (a : Displays)

def isOsAccountForeground (localId : Int) (displayId : Nat) : Except ErrCode Bool × State :=
  if displayId = anyDisplayId then (.ok (s.accounts.foregroundAccountMap.toList.any (·.2 = localId)), s)
  else
    match validateDisplayId a displayId with
    | .error e => (.error e, s)
    | .ok () =>
        match primaryDisplayId s.zones a displayId with
        | (.error e, zones) => (.error e, { s with zones })
        | (.ok primaryDisplayId, zones) =>
            match s.accounts.foregroundAccountMap[primaryDisplayId]? with
            | none => (.error accountInDisplayIdNotFoundError, { s with zones })
            | some id => (.ok (id = localId), { s with zones })

def getForegroundOsAccountLocalId (displayId : Nat) : Except ErrCode Int × State :=
  match primaryDisplayId s.zones a displayId with
  | (.error e, zones) => (.error e, { s with zones })
  | (.ok primaryDisplayId, zones) =>
      match s.accounts.foregroundAccountMap[primaryDisplayId]? with
      | none => (.error accountInDisplayIdNotFoundError, { s with zones })
      | some localId => (.ok localId, { s with zones })

def getForegroundOsAccountDisplayId (localId : Int) : Except ErrCode Nat :=
  if displayOf s.accounts localId = invalidDisplayId then .error accountInDisplayIdNotFoundError
  else .ok (displayOf s.accounts localId)

def getForegroundOsAccountDisplayIds (localId : Int) : Except ErrCode (List Nat) × State :=
  match getForegroundOsAccountDisplayId s localId with
  | .error e => (.error e, s)
  | .ok displayId =>
      let (displayIds, zones) := displayIdsOf s.zones a displayId
      (.ok displayIds, { s with zones })

def getForegroundOsAccounts : List (Nat × Int) := s.accounts.foregroundAccountMap.toList

def validates (answer : ActivateAnswer) (id : Int) (displayId : Nat) : Bool :=
  match getRealOsAccountInfoById s.accounts answer.file id with
  | .error e => e = .fileAccessDenied && s.accounts.foregroundAccountMap[displayId]? = none
  | .ok osAccountInfo => !(s.accounts.foregroundAccountMap[displayId]? = some id && osAccountInfo.isVerified)

def answered : Event → Event × DisplayUserZoneConfigManager
  | .activateOsAccount answer id startStorage displayId isAppRecovery =>
      if validates s answer id displayId then
        let (validateDisplayPrimary, zones) := validateDisplayPrimary s.zones a displayId
        (.activateOsAccount { answer with validateDisplayPrimary } id startStorage displayId isAppRecovery, zones)
      else (.activateOsAccount answer id startStorage displayId isAppRecovery, s.zones)
  | e => (e, s.zones)

inductive Op
  | perform (a : Displays) (e : Event)
  | isOsAccountForeground (a : Displays) (localId : Int) (displayId : Nat)
  | getForegroundOsAccountLocalId (a : Displays) (displayId : Nat)
  | getForegroundOsAccountDisplayIds (a : Displays) (localId : Int)

def Op.displays : Op → Displays
  | .perform a _ | .isOsAccountForeground a _ _ | .getForegroundOsAccountLocalId a _
  | .getForegroundOsAccountDisplayIds a _ => a

def step (config : Config) (s : State) : Op → State
  | .perform a e =>
      let (e, zones) := answered s a e
      ⟨Activation.step config s.accounts e, zones⟩
  | .isOsAccountForeground a localId displayId => (isOsAccountForeground s a localId displayId).2
  | .getForegroundOsAccountLocalId a displayId => (getForegroundOsAccountLocalId s a displayId).2
  | .getForegroundOsAccountDisplayIds a localId => (getForegroundOsAccountDisplayIds s a localId).2

/-- `Init` reads the configuration of the zones, before any account is active. -/
def booted (file : Except ErrCode (Option XmlNode)) : State :=
  ⟨Activation.initial, (DisplayUserZoneConfigManager.loadConfigLocked file {}).2⟩

def Steady (zones : DisplayUserZoneConfigManager) (a : Displays) : Prop :=
  zones.configReadFailed = true → ∃ e, a.file = .error e

def Sound (config : Config) (s : State) (op : Op) : Prop :=
  Steady s.zones op.displays ∧
    ∀ a e, op = .perform a e → ActivationInvariant.sound config s.accounts (answered s a e).1 = true

structure QueriesAgree (s : State) (a : Displays) : Prop where
  shown : ∀ localId displayId, displayId ≠ anyDisplayId → validateDisplayId a displayId = .ok () →
    ((isOsAccountForeground s a localId displayId).1 = .ok true ↔
      (getForegroundOsAccountLocalId s a displayId).1 = .ok localId)
  displays : ∀ localId displayId, (getForegroundOsAccountLocalId s a displayId).1 = .ok localId ↔
    ∃ displayIds, (getForegroundOsAccountDisplayIds s a localId).1 = .ok displayIds ∧ displayId ∈ displayIds
  listed : ∀ localId displayId, (displayId, localId) ∈ getForegroundOsAccounts s ↔
    getForegroundOsAccountDisplayId s localId = .ok displayId
  once : ((getForegroundOsAccounts s).map Prod.fst).Nodup ∧ ((getForegroundOsAccounts s).map Prod.snd).Nodup
  any : ∀ localId, (isOsAccountForeground s a localId anyDisplayId).1 = .ok true ↔
    ∃ displayId, (displayId, localId) ∈ getForegroundOsAccounts s
  background : ∀ localId, localId ∈ getBackgroundOsAccountLocalIds s.accounts ↔
    localId ∈ s.accounts.activeAccountId ∧ (isOsAccountForeground s a localId anyDisplayId).1 = .ok false

section zones

variable {zones : DisplayUserZoneConfigManager} {a : Displays}

/-- What the manager answers: the primary of each display, and the displays of its zone. -/
structure Zoned (zones : DisplayUserZoneConfigManager) (a : Displays) : Prop where
  idem : ∀ d, zone zones.toMaps (zone zones.toMaps d) = zone zones.toMaps d
  primary : ∀ d, primaryDisplayId zones a d = (.ok (zone zones.toMaps d), zones)
  checked : ∀ d, ∃ ret, validateDisplayPrimary zones a d = (ret, zones) ∧
    (ret = .ok () ∨ ret = .error .fileReadFailed ∨ ret = .error .badJsonFormatError →
      d = defaultDisplayId ∨ zone zones.toMaps d = d)
  displayIds : ∀ d, ∃ displayIds, displayIdsOf zones a d = (displayIds, zones) ∧
    ∀ e, e ∈ displayIds ↔ zone zones.toMaps e = zone zones.toMaps d

theorem zone_nothing (d : Nat) : zone {} d = d := by simp [zone]

theorem zoned_of_error {errCode : ErrCode} (hne : errCode ≠ .displayIdNotExistError)
    (hnothing : zones.toMaps = {})
    (hquery : ∀ {α : Type} (answer : Maps → Except ErrCode α), zones.query a.file answer = (.error errCode, zones)) :
    Zoned zones a where
  idem d := by rw [hnothing, zone_nothing, zone_nothing]
  primary d := by
    rw [primaryDisplayId, DisplayUserZoneConfigManager.getPrimaryDisplayId, hquery, hnothing, zone_nothing]
    exact congrArg (fun ret => (ret, zones)) (if_neg hne)
  checked d := by
    rw [validateDisplayPrimary, DisplayUserZoneConfigManager.isDisplayPrimary, hquery, hnothing, zone_nothing]
    by_cases hd : d = defaultDisplayId
    · exact ⟨_, if_pos hd, fun _ => .inl hd⟩
    · rw [if_neg hd]
      cases validateDisplayId a d with
      | error e => exact ⟨_, rfl, fun _ => .inr rfl⟩
      | ok _ => exact ⟨_, rfl, fun _ => .inr rfl⟩
  displayIds d := by
    rw [displayIdsOf, DisplayUserZoneConfigManager.getDisplayIdsByLogicalId, hquery, hnothing]
    refine ⟨[d], rfl, fun e => ?_⟩
    rw [zone_nothing, zone_nothing, List.mem_singleton]

theorem zoned_of_filed {resolved : List DisplayConfigInfo} (hfiled : Filed resolved zones.toMaps)
    (hprimaries : ∀ info ∈ resolved, ∃ primary ∈ resolved,
      primary.logicalId = info.userZone ∧ primary.userZone = primary.logicalId)
    (hread : zones.configReadFailed = false) (hformat : zones.configFormatError = false) : Zoned zones a where
  idem := zone_zone hfiled hprimaries
  primary d := by
    rw [primaryDisplayId, getPrimaryDisplayId_eq hfiled hprimaries hread hformat rfl d]
  checked d := by
    rw [validateDisplayPrimary, isDisplayPrimary_eq hfiled hread hformat rfl d]
    by_cases hd : d = defaultDisplayId
    · exact ⟨_, if_pos hd, fun _ => .inl hd⟩
    · rw [if_neg hd]
      cases hexists : validateDisplayId a d with
      | error e =>
          refine ⟨_, rfl, fun hret => ?_⟩
          unfold validateDisplayId at hexists
          split at hexists
          · cases hexists
            rcases hret with hret | hret | hret <;> cases hret
          · cases hexists
      | ok _ =>
          by_cases hzone : zone zones.toMaps d = d
          · exact ⟨_, rfl, fun _ => .inr hzone⟩
          · refine ⟨_, rfl, fun hret => ?_⟩
            rw [if_neg (by rw [decide_eq_true_eq]; exact hzone)] at hret
            rcases hret with hret | hret | hret <;> cases hret
  displayIds d := by
    obtain ⟨displayIds, hids, -, hmem⟩ := getDisplayIdsByLogicalId_eq hfiled hprimaries hread hformat rfl d
    exact ⟨displayIds, by rw [displayIdsOf, hids], hmem⟩

/-- The configuration that was read, or found broken, or could not be read, stays what it was. -/
theorem zoned_booted (file : Except ErrCode (Option XmlNode)) (ha : Steady (booted file).zones a) :
    Zoned (booted file).zones a := by
  cases file with
  | error e =>
      obtain ⟨e', hfile⟩ := ha rfl
      refine @zoned_of_error _ _ .fileReadFailed (fun he => (by cases he)) rfl fun answer => ?_
      rw [hfile]
      rfl
  | ok doc =>
      cases hparse : parseDisplayConfig doc {} with
      | mk ret m =>
          cases ret with
          | error errCode =>
              have hload : (booted (.ok doc)).zones = { toMaps := m, configFormatError := true } := by
                simp only [booted, DisplayUserZoneConfigManager.loadConfigLocked, hparse]
              rw [hload]
              exact @zoned_of_error _ _ .badJsonFormatError (fun he => (by cases he))
                (parseDisplayConfig_rejected hparse) fun _ => rfl
          | ok _ =>
              have hload : (booted (.ok doc)).zones = { toMaps := m } := by
                simp only [booted, DisplayUserZoneConfigManager.loadConfigLocked, hparse]
              obtain ⟨-, resolved, hfiled, hprimaries⟩ := accepts_of_parseDisplayConfig hparse
              rw [hload]
              exact zoned_of_filed hfiled hprimaries rfl rfl

end zones

section shown

variable {s : Activation.State} {config : Config} {id : Int} {d : Nat} {n : Int}

def Hides (s s' : Activation.State) : Prop :=
  ∀ (d : Nat) (n : Int), s'.foregroundAccountMap[d]? = some n → s.foregroundAccountMap[d]? = some n

theorem Hides.refl (s : Activation.State) : Hides s s := fun _ _ h => h

theorem Hides.trans {s₁ s₂ s₃ : Activation.State} (h : Hides s₁ s₂) (h' : Hides s₂ s₃) : Hides s₁ s₃ :=
  fun d n hd => h d n (h' d n hd)

theorem hides_cleanForegroundAccountMap (s : Activation.State) (info : OsAccountInfo) :
    Hides s (cleanForegroundAccountMap s info) := fun _ _ hd => cleanForegroundAccountMap_shown hd

theorem hides_deactivateOsAccountByInfo (s : Activation.State) (updateOsAccount : Ret) (info : OsAccountInfo) :
    Hides s (deactivateOsAccountByInfo s updateOsAccount info).2 := by
  have h := hides_cleanForegroundAccountMap (eraseLoggedInAndVerified s info.localId) info
  unfold deactivateOsAccountByInfo
  dsimp only
  split
  · exact h
  · exact h

theorem hides_deactivateOsAccount (s : Activation.State) (a : DeactivateAnswer) (id : Int) (isStopStorage : Bool) :
    Hides s (deactivateOsAccount s a id isStopStorage).2 := by
  unfold deactivateOsAccount
  split
  · exact .refl s
  rename_i info _
  split
  · exact .refl s
  split
  · exact .refl s
  · have h := hides_cleanForegroundAccountMap s info
    unfold sendMsgForAccountDeactivate
    dsimp only
    split
    · exact h
    split
    · exact h
    · exact h.trans (hides_deactivateOsAccountByInfo _ _ _)

theorem hides_removeOsAccount (s : Activation.State) (a : RemoveAnswer) (id : Int) :
    Hides s (removeOsAccount s a id).2 := by
  unfold removeOsAccount
  split
  · exact .refl s
  rename_i info _
  split
  · exact .refl s
  have h : Hides s (prepareRemoveOsAccount s a { info with toBeRemoved := true }).2 := by
    unfold prepareRemoveOsAccount sendMsgForAccountStop
    split
    · exact .refl s
    split
    · exact .refl s
    · exact .refl s
    split
    · exact .refl s
    · exact (hides_deactivateOsAccountByInfo _ _ _ : Hides (eraseLoggedInAndVerified s _) _)
  split <;> rename_i hr <;> rw [hr] at h <;> exact h

theorem hides_updateAccountToBackground (s : Activation.State) (config : Config) (a : ActivateAnswer) (oldId : Int) :
    Hides s (updateAccountToBackground s config a oldId) := by
  unfold updateAccountToBackground
  split
  · exact .refl s
  split
  · exact .refl s
  split
  · exact hides_deactivateOsAccount s a.background oldId false
  · exact .refl s

theorem shown_of_start {startUser : Ret} {displayId : Nat}
    (h : (sendToAMSAndSamgrAccountStart s startUser displayId id).2.foregroundAccountMap[d]? = some n) :
    d = displayId ∧ displayId ≠ invalidDisplayId ∨ s.foregroundAccountMap[d]? = some n := by
  unfold sendToAMSAndSamgrAccountStart at h
  split at h
  · exact .inr h
  · exact (foreground_onAccountStarted h).imp_left fun hd => ⟨hd.1, hd.2.1⟩

theorem shown_of_sendToStorageAndAMSAccountStart {a : ActivateAnswer} {info : OsAccountInfo}
    {startStorage isAppRecovery : Bool} {displayId : Nat}
    (h : (sendToStorageAndAMSAccountStart s a info startStorage displayId isAppRecovery).2.foregroundAccountMap[d]? =
      some n) : d = displayId ∨ s.foregroundAccountMap[d]? = some n := by
  obtain ⟨-, hmap⟩ := sendToStorageAccountStart_lists s a.unlockUser info
  rw [sendToStorageAndAMSAccountStart_state] at h
  split at h
  · refine (shown_of_start h).imp And.left fun hd => ?_
    split at hd
    · rwa [hmap] at hd
    · exact hd
  · exact .inr h

theorem validated_of_prepareActivateOsAccount {a : ActivateAnswer} {displayId : Nat} {info : OsAccountInfo}
    (h : prepareActivateOsAccount s config a id displayId = .ok info) (zones : DisplayUserZoneConfigManager) :
    validates ⟨s, zones⟩ a id displayId = true ∧ (displayId = defaultDisplayId ∨ a.validateDisplayPrimary = .ok () ∨
      a.validateDisplayPrimary = .error .fileReadFailed ∨ a.validateDisplayPrimary = .error .badJsonFormatError) := by
  have hdisplay : validateDisplayForActivation s a.validateDisplayPrimary id displayId = .ok () →
      displayId = defaultDisplayId ∨ a.validateDisplayPrimary = .ok () ∨
        a.validateDisplayPrimary = .error .fileReadFailed ∨ a.validateDisplayPrimary = .error .badJsonFormatError := by
    intro hvalid
    by_cases hd : displayId = defaultDisplayId
    · exact .inl hd
    refine .inr ?_
    rw [validateDisplayForActivation, if_neg hd] at hvalid
    cases hprimary : a.validateDisplayPrimary with
    | ok _ => exact .inl rfl
    | error e =>
        rw [hprimary] at hvalid
        dsimp only at hvalid
        split at hvalid
        · rename_i he
          obtain rfl | rfl := he
          · exact .inr (.inl rfl)
          · exact .inr (.inr rfl)
        · cases hvalid
  unfold prepareActivateOsAccount at h
  unfold validates
  cases hfile : getRealOsAccountInfoById s a.file id with
  | error e =>
      rw [hfile] at h
      dsimp only at h ⊢
      split at h
      · rename_i he
        split at h
        · cases h
        rename_i hnone
        split at h
        · cases h
        rename_i hvalid
        refine ⟨?_, hdisplay hvalid⟩
        rw [Bool.not_eq_true, Option.isSome_eq_false_iff, Option.isNone_iff_eq_none] at hnone
        simp [he, hnone]
      · cases h
  | ok osAccountInfo =>
      rw [hfile] at h
      dsimp only at h ⊢
      split at h
      · cases h
      rename_i hnot
      split at h
      · cases h
      · cases h
      rename_i hvalid _
      refine ⟨?_, hdisplay hvalid⟩
      simpa [← imp_iff_not_or] using hnot

theorem shown_step {e : Event} (h : (Activation.step config s e).foregroundAccountMap[d]? = some n) :
    s.foregroundAccountMap[d]? = some n ∨ ∃ a id startStorage isAppRecovery info,
      e = .activateOsAccount a id startStorage d isAppRecovery ∧
        prepareActivateOsAccount s config a id d = .ok info := by
  cases e with
  | activateOsAccount a id startStorage displayId isAppRecovery =>
      rw [Activation.step, perform, activateOsAccount] at h
      split at h
      · exact .inl h
      rename_i info hprepare
      have hstarted : ∀ {ret s'},
          sendToStorageAndAMSAccountStart s a info startStorage displayId isAppRecovery = (ret, s') →
          s'.foregroundAccountMap[d]? = some n → d = displayId ∨ s.foregroundAccountMap[d]? = some n := by
        intro ret s' hr hd
        refine @shown_of_sendToStorageAndAMSAccountStart s d n a info startStorage isAppRecovery displayId ?_
        rw [hr]
        exact hd
      have hstart : d = displayId ∨ s.foregroundAccountMap[d]? = some n := by
        unfold sendMsgForAccountActivate at h
        dsimp only at h
        split at h <;> rename_i hr
        · exact hstarted hr h
        split at h
        · exact hstarted hr h
        split at h
        · exact hstarted hr h
        · exact hstarted hr (hides_updateAccountToBackground _ config a _ d n h)
      obtain rfl | hold := hstart
      · exact .inr ⟨a, id, startStorage, isAppRecovery, info, rfl, hprepare⟩
      · exact .inl hold
  | activateOsAccountInBackground a id =>
      rw [Activation.step, perform, activateOsAccountInBackground] at h
      split at h
      · exact .inl h
      rename_i info _
      split at h
      · exact .inl h
      obtain ⟨-, hmap⟩ := sendToStorageAccountStart_lists s a.unlockUser info
      cases hstorage : sendToStorageAccountStart s a.unlockUser info with
      | mk ret s' =>
          rw [hstorage] at h hmap
          obtain ⟨-, hne⟩ | hold := shown_of_start h
          · exact absurd rfl hne
          · exact .inl (hmap ▸ hold)
  | deactivateOsAccount a id isStopStorage => exact .inl (hides_deactivateOsAccount s a id isStopStorage d n h)
  | removeOsAccount a id => exact .inl (hides_removeOsAccount s a id d n h)
  | setOsAccountIsVerified file id isVerified =>
      rw [Activation.step, perform, setOsAccountIsVerified] at h
      repeat' split at h
      all_goals exact .inl h
  | setOsAccountIsLoggedIn file updateOsAccount id isLoggedIn =>
      rw [Activation.step, perform, setOsAccountIsLoggedIn] at h
      dsimp only at h
      repeat' split at h
      all_goals exact .inl h

end shown

section queries

variable {s : State} {a : Displays} {localId : Int} {displayId : Nat}

theorem getForegroundOsAccountLocalId_eq (h : Zoned s.zones a) (displayId : Nat) :
    ∃ ret, getForegroundOsAccountLocalId s a displayId = (ret, s) ∧ ∀ localId, ret = .ok localId ↔
      s.accounts.foregroundAccountMap[zone s.zones.toMaps displayId]? = some localId := by
  rw [getForegroundOsAccountLocalId, h.primary]
  dsimp only
  cases s.accounts.foregroundAccountMap[zone s.zones.toMaps displayId]? with
  | none => exact ⟨_, rfl, fun localId => ⟨fun he => (by cases he), fun he => (by cases he)⟩⟩
  | some id => exact ⟨_, rfl, fun localId => by rw [Except.ok.injEq, Option.some.injEq]⟩

theorem isOsAccountForeground_eq (h : Zoned s.zones a) (localId : Int) (displayId : Nat) :
    ∃ ret, isOsAccountForeground s a localId displayId = (ret, s) ∧
      (displayId ≠ anyDisplayId → validateDisplayId a displayId = .ok () → (ret = .ok true ↔
        s.accounts.foregroundAccountMap[zone s.zones.toMaps displayId]? = some localId)) := by
  rw [isOsAccountForeground]
  by_cases hany : displayId = anyDisplayId
  · rw [if_pos hany]
    exact ⟨_, rfl, fun hne => absurd hany hne⟩
  · rw [if_neg hany]
    cases hvalid : validateDisplayId a displayId with
    | error e => exact ⟨_, rfl, fun _ he => by cases he⟩
    | ok _ =>
        dsimp only
        rw [h.primary]
        dsimp only
        cases s.accounts.foregroundAccountMap[zone s.zones.toMaps displayId]? with
        | none => exact ⟨_, rfl, fun _ _ => ⟨fun he => (by cases he), fun he => (by cases he)⟩⟩
        | some id =>
            refine ⟨_, rfl, fun _ _ => ?_⟩
            rw [Except.ok.injEq, decide_eq_true_iff, Option.some.injEq]

theorem isOsAccountForeground_any (s : State) (a : Displays) (localId : Int) :
    (isOsAccountForeground s a localId anyDisplayId).1 =
      .ok (s.accounts.foregroundAccountMap.toList.any (·.2 = localId)) := by
  rw [isOsAccountForeground, if_pos rfl]

theorem getForegroundOsAccountDisplayIds_eq (h : Zoned s.zones a) (localId : Int) :
    ∃ ret, getForegroundOsAccountDisplayIds s a localId = (ret, s) ∧ ∀ displayIds, ret = .ok displayIds →
      ∃ d, getForegroundOsAccountDisplayId s localId = .ok d ∧
        ∀ e, e ∈ displayIds ↔ zone s.zones.toMaps e = zone s.zones.toMaps d := by
  rw [getForegroundOsAccountDisplayIds]
  cases hd : getForegroundOsAccountDisplayId s localId with
  | error e => exact ⟨_, rfl, fun displayIds he => by cases he⟩
  | ok d =>
      obtain ⟨displayIds, hids, hmem⟩ := h.displayIds d
      dsimp only
      rw [hids]
      refine ⟨_, rfl, fun ids he => ⟨d, rfl, ?_⟩⟩
      cases he
      exact hmem

theorem getForegroundOsAccountDisplayIds_ok (a : Displays) {d : Nat}
    (hd : getForegroundOsAccountDisplayId s localId = .ok d) :
    ∃ displayIds, (getForegroundOsAccountDisplayIds s a localId).1 = .ok displayIds := by
  rw [getForegroundOsAccountDisplayIds, hd]
  exact ⟨_, rfl⟩

theorem shown_of_displayOf {s : Activation.State} (h : displayOf s localId ≠ invalidDisplayId) :
    s.foregroundAccountMap[displayOf s localId]? = some localId := by
  unfold displayOf at h ⊢
  cases hlast : (s.foregroundAccountMap.toList.filter (·.2 = localId)).getLast? with
  | none =>
      rw [hlast] at h
      exact absurd rfl h
  | some entry =>
      obtain ⟨hmem, he⟩ := List.mem_filter.1 (List.mem_of_getLast? hlast)
      have hshown := ExtTreeMap.mem_toList_iff_getElem?_eq_some.1 hmem
      rw [of_decide_eq_true he] at hshown
      exact hshown

theorem getForegroundOsAccountDisplayId_eq_ok (h : Starting none s.accounts) :
    getForegroundOsAccountDisplayId s localId = .ok displayId ↔
      s.accounts.foregroundAccountMap[displayId]? = some localId := by
  unfold getForegroundOsAccountDisplayId
  constructor
  · intro hd
    split at hd
    · cases hd
    · rename_i hne
      cases hd
      exact shown_of_displayOf hne
  · intro hshown
    have hvalid : displayId ≠ invalidDisplayId := by
      rintro rfl
      exact h.invalid (ExtTreeMap.mem_iff_isSome_getElem?.2 (by rw [hshown]; rfl))
    rw [displayOf_eq h hshown, if_neg hvalid]

end queries

section runs

variable {config : Config} {s : State} {zones : DisplayUserZoneConfigManager}

structure Kept (zones : DisplayUserZoneConfigManager) (s : State) : Prop where
  same : s.zones = zones
  starting : Starting none s.accounts
  primaries : ∀ (d : Nat) (n : Int), s.accounts.foregroundAccountMap[d]? = some n → zone zones.toMaps d = d

theorem queriesAgree_of_kept (h : Kept zones s) {a : Displays} (hz : Zoned s.zones a) : QueriesAgree s a where
  shown localId displayId hany hvalid := by
    obtain ⟨ret, hret, hshown⟩ := isOsAccountForeground_eq hz localId displayId
    obtain ⟨ret', hret', hid⟩ := getForegroundOsAccountLocalId_eq hz displayId
    rw [hret, hret', hshown hany hvalid, hid]
  displays localId displayId := by
    obtain ⟨ret', hret', hid⟩ := getForegroundOsAccountLocalId_eq hz displayId
    obtain ⟨ret, hret, hids⟩ := getForegroundOsAccountDisplayIds_eq hz localId
    rw [hret', hid]
    have hprimary : ∀ d : Nat, s.accounts.foregroundAccountMap[d]? = some localId → zone s.zones.toMaps d = d :=
      fun d hd => by rw [h.same, h.primaries d localId hd]
    constructor
    · intro hshown
      have hd := (getForegroundOsAccountDisplayId_eq_ok h.starting).mpr hshown
      obtain ⟨displayIds, hok⟩ := getForegroundOsAccountDisplayIds_ok a hd
      refine ⟨displayIds, hok, ?_⟩
      rw [hret] at hok
      obtain ⟨d, hd', hmem⟩ := hids displayIds hok
      rw [hd] at hd'
      cases hd'
      rw [hmem, hprimary _ hshown]
    · rintro ⟨displayIds, hok, hmem⟩
      rw [hret] at hok
      obtain ⟨d, hd, hzone⟩ := hids displayIds hok
      have hshown := (getForegroundOsAccountDisplayId_eq_ok h.starting).mp hd
      rw [(hzone displayId).mp hmem, hprimary d hshown]
      exact hshown
  listed localId displayId := by
    rw [getForegroundOsAccountDisplayId_eq_ok h.starting, getForegroundOsAccounts,
      ExtTreeMap.mem_toList_iff_getElem?_eq_some]
  once := by
    have hfst : ((getForegroundOsAccounts s).map Prod.fst).Nodup := by
      rw [getForegroundOsAccounts, ExtTreeMap.map_fst_toList_eq_keys]
      exact ExtTreeMap.nodup_keys
    refine ⟨hfst, List.Nodup.map_on ?_ (List.Nodup.of_map _ hfst)⟩
    rintro ⟨d, n⟩ hd ⟨d', n'⟩ hd' he
    obtain rfl : n = n' := he
    rw [h.starting.foreground_once d d' n (ExtTreeMap.mem_toList_iff_getElem?_eq_some.1 hd)
      (ExtTreeMap.mem_toList_iff_getElem?_eq_some.1 hd')]
  any localId := by
    rw [isOsAccountForeground_any, Except.ok.injEq, List.any_eq_true]
    constructor
    · rintro ⟨⟨d, n⟩, hmem, he⟩
      rw [← of_decide_eq_true he]
      exact ⟨d, hmem⟩
    · rintro ⟨d, hmem⟩
      exact ⟨(d, localId), hmem, decide_eq_true rfl⟩
  background localId := by
    rw [isOsAccountForeground_any, Except.ok.injEq, List.any_eq_false, getBackgroundOsAccountLocalIds, List.mem_filter,
      decide_eq_true_iff, List.mem_map]
    refine and_congr_right fun _ => ⟨fun hnot entry hmem he => hnot ⟨entry, hmem, of_decide_eq_true he⟩, ?_⟩
    rintro hnot ⟨entry, hmem, he⟩
    exact hnot entry hmem (decide_eq_true he)

theorem answered_activateOsAccount {a : Displays} {displayId : Nat} {ret : Ret} {zones' : DisplayUserZoneConfigManager}
    (hret : validateDisplayPrimary s.zones a displayId = (ret, zones')) (answer : ActivateAnswer) (id : Int)
    (startStorage isAppRecovery : Bool) :
    answered s a (.activateOsAccount answer id startStorage displayId isAppRecovery) =
      if validates s answer id displayId then
        (.activateOsAccount { answer with validateDisplayPrimary := ret } id startStorage displayId isAppRecovery,
          zones')
      else (.activateOsAccount answer id startStorage displayId isAppRecovery, s.zones) := by
  rw [answered, hret]

theorem Kept.perform (h : Kept zones s) (hdefault : zone zones.toMaps defaultDisplayId = defaultDisplayId) {a : Displays}
    (hz : Zoned zones a) (e : Event) (hsound : sound config s.accounts (answered s a e).1 = true) :
    Kept zones (step config s (.perform a e)) := by
  have hzones : (answered s a e).2 = zones := by
    rw [← h.same] at hz ⊢
    cases e with
    | activateOsAccount answer id startStorage displayId isAppRecovery =>
        obtain ⟨ret, hret, -⟩ := hz.checked displayId
        rw [answered_activateOsAccount hret]
        split
        · rfl
        · rfl
    | _ => rfl
  refine ⟨hzones, starting_step config _ h.starting hsound, fun d n hd => ?_⟩
  have hd : (Activation.step config s.accounts (answered s a e).1).foregroundAccountMap[d]? = some n := hd
  obtain hold | ⟨answer, id, startStorage, isAppRecovery, info, he, hprepare⟩ := shown_step hd
  · exact h.primaries d n hold
  obtain ⟨hvalidates, hdisplay⟩ := validated_of_prepareActivateOsAccount hprepare s.zones
  cases e with
  | activateOsAccount answer' id' startStorage' displayId' isAppRecovery' =>
      obtain ⟨ret, hret, hchecked⟩ := hz.checked displayId'
      rw [← h.same] at hret
      rw [answered_activateOsAccount hret] at he
      split at he
      · cases he
        obtain rfl | hprimary := hdisplay.elim .inl hchecked
        · exact hdefault
        · exact hprimary
      · rename_i hnot
        cases he
        exact absurd hvalidates hnot
  | _ => cases he

theorem kept_step (h : Kept zones s) (hdefault : zone zones.toMaps defaultDisplayId = defaultDisplayId)
    (hzoned : ∀ a, Steady zones a → Zoned zones a) (op : Op) (hop : Sound config s op) :
    Kept zones (step config s op) := by
  have hz := hzoned op.displays (h.same ▸ hop.1)
  rw [← h.same] at hz
  cases op with
  | perform a e => exact h.perform hdefault (h.same ▸ hz) e (hop.2 a e rfl)
  | isOsAccountForeground a localId displayId =>
      change Zoned s.zones a at hz
      obtain ⟨ret, hret, -⟩ := isOsAccountForeground_eq hz localId displayId
      rw [step, hret]
      exact h
  | getForegroundOsAccountLocalId a displayId =>
      change Zoned s.zones a at hz
      obtain ⟨ret, hret, -⟩ := getForegroundOsAccountLocalId_eq hz displayId
      rw [step, hret]
      exact h
  | getForegroundOsAccountDisplayIds a localId =>
      change Zoned s.zones a at hz
      obtain ⟨ret, hret, -⟩ := getForegroundOsAccountDisplayIds_eq hz localId
      rw [step, hret]
      exact h

/-- Whatever is started, stopped and asked, on displays that come and go: the queries of the
foreground say the same, as long as the default display is a primary one. -/
theorem foregroundQueries_agree (config : Config) (file : Except ErrCode (Option XmlNode))
    (hdefault : zone (booted file).zones.toMaps defaultDisplayId = defaultDisplayId) (ops : List Op)
    (hops : Machine.Meets (step config) (Sound config) (booted file) ops) (a : Displays)
    (ha : Steady (booted file).zones a) : QueriesAgree (Machine.run (step config) (booted file) ops) a := by
  have hbooted : Kept (booted file).zones (booted file) := by
    refine ⟨rfl, starting_initial, fun d n hd => ?_⟩
    have hnone : (booted file).accounts.foregroundAccountMap[d]? = none := ExtTreeMap.getElem?_empty
    rw [hnone] at hd
    cases hd
  have hstep : ∀ s op, Kept (booted file).zones s → Sound config s op → Kept (booted file).zones (step config s op) :=
    fun s op h hop => kept_step h hdefault (fun _ => zoned_booted file) op hop
  have h := Machine.run_invariant_of_meets hstep hbooted hops
  exact queriesAgree_of_kept h (h.same.symm ▸ zoned_booted file ha)

def display (physicalId logicalId : String) (userZoneId : List XmlNode) : XmlNode :=
  .element "display" none ([.element "physicalId" (some physicalId) [], .element "logicalId" (some logicalId) []] ++
    userZoneId)

def twoDisplays : XmlNode :=
  .element "Configs" none [.element "displays" none
    [display "1" "1" [], display "2" "2" [.element "userZoneId" (some "1") []]]]

def withZones : Displays := ⟨[0, 1, 2], .ok (some twoDisplays)⟩

def withoutZones : Displays := ⟨[0, 1, 2], .error .fileReadFailed⟩

def twoActivations : List Op :=
  [.perform withZones (activation 101 1), .perform withZones (activation 102 0)]

theorem foregroundQueries_agree_twoDisplays :
    QueriesAgree (Machine.run (step ActivationInvariant.config) (booted withZones.file) twoActivations) withZones ∧
    (getForegroundOsAccountLocalId (Machine.run (step ActivationInvariant.config) (booted withZones.file) twoActivations)
      withZones 2).1 = .ok 101 := by
  have hread : (booted withZones.file).zones.configReadFailed = false := by decide +kernel
  have hread' : (step ActivationInvariant.config (booted withZones.file)
      (.perform withZones (activation 101 1))).zones.configReadFailed = false := by decide +kernel
  have hsteady : Steady (booted withZones.file).zones withZones := fun hfailed => by cases hread.symm.trans hfailed
  refine ⟨foregroundQueries_agree ActivationInvariant.config withZones.file (by decide +kernel) twoActivations ?_
    withZones hsteady, by decide +kernel⟩
  refine ⟨⟨hsteady, fun a e he => ?_⟩, ⟨fun hfailed => (by cases hread'.symm.trans hfailed), fun a e he => ?_⟩, trivial⟩
  · cases he
    decide +kernel
  · cases he
    decide +kernel

/-- The configuration turns up after an account has been started on the second display: the display
is looked for under its primary, and the account under both. -/
theorem foregroundQueries_disagree :
    ¬QueriesAgree (step ActivationInvariant.config (booted withoutZones.file) (.perform withoutZones (activation 101 2)))
      withZones := by
  intro h
  have hlocalId : (getForegroundOsAccountLocalId (step ActivationInvariant.config (booted withoutZones.file)
      (.perform withoutZones (activation 101 2))) withZones 2).1 = .error accountInDisplayIdNotFoundError := by
    decide +kernel
  have hids : (getForegroundOsAccountDisplayIds (step ActivationInvariant.config (booted withoutZones.file)
      (.perform withoutZones (activation 101 2))) withZones 101).1 = .ok [1, 2] := by decide +kernel
  have hok := (h.displays 101 2).mpr ⟨[1, 2], hids, by decide⟩
  rw [hlocalId] at hok
  cases hok

end runs

end OsAccount.ForegroundQueries
