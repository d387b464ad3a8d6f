import OsAccount.Activation

namespace OsAccount.ActivationInvariant

open Std Activation

structure Coherent (s : State) : Prop where
  nodup : s.activeAccountId.Nodup
  foreground_active : ∀ (displayId : Nat) (id : Int),
    s.foregroundAccountMap[displayId]? = some id → id ∈ s.activeAccountId
  foreground_once : ∀ (d d' : Nat) (id : Int),
    s.foregroundAccountMap[d]? = some id → s.foregroundAccountMap[d']? = some id → d = d'
  loggedIn_active : ∀ id ∈ s.loggedInAccounts, id ∈ s.activeAccountId
  verified_active : ∀ id ∈ s.verifiedAccounts, id ∈ s.activeAccountId

def BackgroundExact (s : State) : Prop :=
  (getBackgroundOsAccountLocalIds s).Nodup ∧ ∀ id, id ∈ getBackgroundOsAccountLocalIds s ↔
    id ∈ s.activeAccountId ∧ ∀ displayId : Nat, s.foregroundAccountMap[displayId]? ≠ some id

section conditions

variable (config : Config) (s : State)

def startsUser (a : ActivateAnswer) (startStorage isAppRecovery : Bool) : Bool :=
  !startStorage || a.unlockUser ≠ .error .getSystemAbilityManager || isAppRecovery

/-- An account is started on a display other than the default one only while it is
not active, and an unlocked account that is not active is started. -/
def startsSoundly (a : ActivateAnswer) (id : Int) (startStorage : Bool) (displayId : Nat) : Bool :=
  if a.startUser = .ok () then displayId = defaultDisplayId || id ∉ s.activeAccountId
  else id ∈ s.activeAccountId || !startStorage || a.unlockUser ≠ .ok ()

def sound : Event → Bool
  | .activateOsAccount a id startStorage displayId isAppRecovery =>
      match prepareActivateOsAccount s config a id displayId with
      | .error _ => true
      | .ok _ => !startsUser a startStorage isAppRecovery || startsSoundly s a id startStorage displayId
  | .activateOsAccountInBackground a id =>
      match getRealOsAccountInfoById s a.file id with
      | .error _ => true
      | .ok osAccountInfo => isValidOsAccount osAccountInfo ≠ .ok () || startsSoundly s a id true invalidDisplayId
  | .setOsAccountIsVerified _ id isVerified => !isVerified || id ∈ s.activeAccountId
  | .setOsAccountIsLoggedIn _ _ id isLoggedIn => !isLoggedIn || id ∈ s.activeAccountId
  | _ => true

end conditions

/-- The invariant while the account `starting` may be verified or logged in before
it is active. -/
structure Starting (starting : Option Int) (s : State) : Prop where
  nodup : s.activeAccountId.Nodup
  foreground_active : ∀ (displayId : Nat) (id : Int),
    s.foregroundAccountMap[displayId]? = some id → id ∈ s.activeAccountId
  foreground_once : ∀ (d d' : Nat) (id : Int),
    s.foregroundAccountMap[d]? = some id → s.foregroundAccountMap[d']? = some id → d = d'
  loggedIn_active : ∀ id ∈ s.loggedInAccounts, id ∈ s.activeAccountId ∨ starting = some id
  verified_active : ∀ id ∈ s.verifiedAccounts, id ∈ s.activeAccountId ∨ starting = some id
  invalid : invalidDisplayId ∉ s.foregroundAccountMap

variable {s s' : State} {starting : Option Int} {id : Int} {info : OsAccountInfo}

theorem Starting.coherent (h : Starting none s) : Coherent s where
  nodup := h.nodup
  foreground_active := h.foreground_active
  foreground_once := h.foreground_once
  loggedIn_active n hn := (h.loggedIn_active n hn).resolve_right fun he => by cases he
  verified_active n hn := (h.verified_active n hn).resolve_right fun he => by cases he

theorem Coherent.backgroundExact (h : Coherent s) : BackgroundExact s := by
  refine ⟨h.nodup.filter _, fun id => ?_⟩
  unfold getBackgroundOsAccountLocalIds
  rw [List.mem_filter, decide_eq_true_iff, List.mem_map]
  refine and_congr_right fun _ => ⟨fun hnot displayId hd => hnot ?_, fun hnot hmem => ?_⟩
  · exact ⟨(displayId, id), ExtTreeMap.mem_toList_iff_getElem?_eq_some.2 hd, rfl⟩
  · obtain ⟨⟨displayId, n⟩, hmem, rfl⟩ := hmem
    exact hnot displayId (ExtTreeMap.mem_toList_iff_getElem?_eq_some.1 hmem)

theorem starting_initial : Starting none initial := by
  refine ⟨List.nodup_nil, ?_, ?_, ?_, ?_, ?_⟩ <;> simp [initial]

def Knows (s : State) (info : OsAccountInfo) : Prop :=
  ∀ d : Nat, s.foregroundAccountMap[d]? = some info.localId → info.isForeground = true ∧ info.displayId = d

theorem displayOf_eq (h : Starting starting s) {d : Nat} (hd : s.foregroundAccountMap[d]? = some id) :
    displayOf s id = d := by
  unfold displayOf
  cases hlast : (s.foregroundAccountMap.toList.filter (·.2 = id)).getLast? with
  | none =>
      rw [List.getLast?_eq_none_iff, List.filter_eq_nil_iff] at hlast
      have hmem := ExtTreeMap.mem_toList_iff_getElem?_eq_some.2 hd
      exact absurd (decide_eq_true rfl) (hlast _ hmem)
  | some entry =>
      obtain ⟨hmem, he⟩ := List.mem_filter.1 (List.mem_of_getLast? hlast)
      have hshown := ExtTreeMap.mem_toList_iff_getElem?_eq_some.1 hmem
      rw [of_decide_eq_true he] at hshown
      exact h.foreground_once _ _ id hshown hd

theorem knows_of_getRealOsAccountInfoById (h : Starting starting s) {file : Reading}
    (hinfo : getRealOsAccountInfoById s file id = .ok info) : info.localId = id ∧ Knows s info := by
  unfold getRealOsAccountInfoById at hinfo
  split at hinfo
  · cases hinfo
  dsimp only at hinfo
  split at hinfo
  · rename_i hactive
    cases hinfo
    exact ⟨rfl, fun d hd => absurd (h.foreground_active d id hd) hactive⟩
  · cases hinfo
    refine ⟨rfl, fun d hd => ?_⟩
    have hne : d ≠ invalidDisplayId := by
      rintro rfl
      exact h.invalid (ExtTreeMap.mem_iff_isSome_getElem?.2 (by rw [hd]; rfl))
    dsimp only at hd ⊢
    rw [displayOf_eq h hd]
    exact ⟨decide_eq_true hne, rfl⟩

section deactivation

theorem Starting.eraseLoggedInAndVerified (h : Starting starting s) (id : Int) :
    Starting starting (eraseLoggedInAndVerified s id) where
  nodup := h.nodup
  foreground_active := h.foreground_active
  foreground_once := h.foreground_once
  loggedIn_active n hn := h.loggedIn_active n (Finset.mem_of_mem_erase hn)
  verified_active n hn := h.verified_active n (Finset.mem_of_mem_erase hn)
  invalid := h.invalid

theorem cleanForegroundAccountMap_shown {d : Nat} {n : Int}
    (hd : (cleanForegroundAccountMap s info).foregroundAccountMap[d]? = some n) :
    s.foregroundAccountMap[d]? = some n := by
  unfold cleanForegroundAccountMap at hd
  split at hd
  · dsimp only at hd
    rw [OrderedMap.getElem?_erase_eq] at hd
    split at hd
    · cases hd
    · exact hd
  · exact hd

theorem cleanForegroundAccountMap_active (s : State) (info : OsAccountInfo) :
    (cleanForegroundAccountMap s info).activeAccountId = s.activeAccountId ∧
      (cleanForegroundAccountMap s info).loggedInAccounts = s.loggedInAccounts ∧
      (cleanForegroundAccountMap s info).verifiedAccounts = s.verifiedAccounts := by
  unfold cleanForegroundAccountMap
  split
  · exact ⟨rfl, rfl, rfl⟩
  · exact ⟨rfl, rfl, rfl⟩

theorem Starting.cleanForegroundAccountMap (h : Starting starting s) (info : OsAccountInfo) :
    Starting starting (cleanForegroundAccountMap s info) := by
  obtain ⟨hactive, hloggedIn, hverified⟩ := cleanForegroundAccountMap_active s info
  refine ⟨?_, ?_, ?_, ?_, ?_, ?_⟩
  · rw [hactive]
    exact h.nodup
  · intro d n hd
    rw [hactive]
    exact h.foreground_active d n (cleanForegroundAccountMap_shown hd)
  · intro d d' n hd hd'
    exact h.foreground_once d d' n (cleanForegroundAccountMap_shown hd) (cleanForegroundAccountMap_shown hd')
  · rw [hactive, hloggedIn]
    exact h.loggedIn_active
  · rw [hactive, hverified]
    exact h.verified_active
  · intro hmem
    obtain ⟨n, hn⟩ := Option.isSome_iff_exists.1 (ExtTreeMap.mem_iff_isSome_getElem?.1 hmem)
    refine h.invalid (ExtTreeMap.mem_iff_isSome_getElem?.2 ?_)
    rw [cleanForegroundAccountMap_shown hn]
    rfl

theorem Knows.not_shown (h : Knows s info) (d : Nat) :
    (cleanForegroundAccountMap s info).foregroundAccountMap[d]? ≠ some info.localId := by
  intro hd
  have hshown := cleanForegroundAccountMap_shown hd
  obtain ⟨hforeground, rfl⟩ := h d hshown
  unfold Activation.cleanForegroundAccountMap at hd
  rw [if_pos ⟨hforeground, hshown⟩] at hd
  dsimp only at hd
  rw [OrderedMap.getElem?_erase_eq, if_pos rfl] at hd
  cases hd

theorem Starting.forget (h : Starting starting s) (hshown : ∀ d : Nat, s.foregroundAccountMap[d]? ≠ some id) :
    Starting starting (eraseIdFromActiveList (Activation.eraseLoggedInAndVerified s id) id) := by
  have hkeep : ∀ {n}, n ∈ s.activeAccountId → n ≠ id → n ∈ s.activeAccountId.filter (· ≠ id) :=
    fun hn hne => List.mem_filter.2 ⟨hn, decide_eq_true hne⟩
  refine ⟨h.nodup.filter _, ?_, h.foreground_once, ?_, ?_, h.invalid⟩
  · intro d n hd
    refine hkeep (h.foreground_active d n hd) ?_
    rintro rfl
    exact hshown d hd
  · intro n hn
    obtain ⟨hne, hn⟩ := Finset.mem_erase.1 hn
    exact (h.loggedIn_active n hn).imp_left fun hactive => hkeep hactive hne
  · intro n hn
    obtain ⟨hne, hn⟩ := Finset.mem_erase.1 hn
    exact (h.verified_active n hn).imp_left fun hactive => hkeep hactive hne

theorem cleanForegroundAccountMap_comm (s : State) (info : OsAccountInfo) (id : Int) :
    Activation.cleanForegroundAccountMap (Activation.eraseLoggedInAndVerified s id) info =
      Activation.eraseLoggedInAndVerified (Activation.cleanForegroundAccountMap s info) id := by
  unfold Activation.cleanForegroundAccountMap Activation.eraseLoggedInAndVerified
  dsimp only
  split
  · rfl
  · rfl

theorem Starting.deactivateOsAccountByInfo (h : Starting starting s) (hknows : Knows s info) (updateOsAccount : Ret) :
    Starting starting (deactivateOsAccountByInfo s updateOsAccount info).2 := by
  have hforget := (h.cleanForegroundAccountMap info).forget hknows.not_shown
  unfold Activation.deactivateOsAccountByInfo
  dsimp only
  rw [cleanForegroundAccountMap_comm]
  split
  · exact hforget
  · exact hforget

theorem Starting.sendMsgForAccountDeactivate (h : Starting starting s) (hknows : Knows s info) (a : DeactivateAnswer)
    (isStopStorage : Bool) : Starting starting (sendMsgForAccountDeactivate s a info isStopStorage).2 := by
  have hclean := h.cleanForegroundAccountMap info
  unfold Activation.sendMsgForAccountDeactivate
  dsimp only
  split
  · exact hclean
  split
  · exact hclean.forget hknows.not_shown
  · exact hclean.deactivateOsAccountByInfo (fun d hd => absurd hd (hknows.not_shown d)) a.updateOsAccount

theorem Starting.deactivateOsAccount (h : Starting starting s) (a : DeactivateAnswer) (id : Int) (isStopStorage : Bool) :
    Starting starting (deactivateOsAccount s a id isStopStorage).2 := by
  unfold Activation.deactivateOsAccount
  split
  · exact h
  rename_i hinfo
  obtain ⟨-, hknows⟩ := knows_of_getRealOsAccountInfoById h hinfo
  split
  · exact h
  split
  · exact h
  · exact h.sendMsgForAccountDeactivate hknows a isStopStorage

theorem Starting.sendMsgForAccountStop (h : Starting starting s) (hknows : Knows s info) (a : RemoveAnswer) :
    Starting starting (sendMsgForAccountStop s a info).2 := by
  unfold Activation.sendMsgForAccountStop
  split
  · exact h
  · exact h
  split
  · exact h
  · exact h.deactivateOsAccountByInfo hknows a.updateOsAccount

theorem Starting.removeOsAccount (h : Starting starting s) (a : RemoveAnswer) (id : Int) :
    Starting starting (removeOsAccount s a id).2 := by
  unfold Activation.removeOsAccount
  split
  · exact h
  rename_i info hinfo
  obtain ⟨-, hknows⟩ := knows_of_getRealOsAccountInfoById h hinfo
  split
  · exact h
  have hprepare : Starting starting (prepareRemoveOsAccount s a { info with toBeRemoved := true }).2 := by
    unfold prepareRemoveOsAccount
    split
    · exact h
    · exact (h.eraseLoggedInAndVerified _).sendMsgForAccountStop hknows a
  split <;> rename_i hr <;> rw [hr] at hprepare <;> exact hprepare

end deactivation

section activation

variable {config : Config} {a : ActivateAnswer} {displayId : Nat}

structure Flags (s : State) (id : Int) (info : OsAccountInfo) : Prop where
  localId : info.localId = id
  verified : info.isVerified = true → id ∈ s.verifiedAccounts
  loggedIn : info.isLoggedIn = true → id ∈ s.loggedInAccounts

theorem flags_of_getRealOsAccountInfoById {file : Reading} (hinfo : getRealOsAccountInfoById s file id = .ok info) :
    Flags s id info := by
  unfold getRealOsAccountInfoById at hinfo
  split at hinfo
  · cases hinfo
  dsimp only at hinfo
  split at hinfo
  · cases hinfo
    exact ⟨rfl, of_decide_eq_true, of_decide_eq_true⟩
  · cases hinfo
    exact ⟨rfl, of_decide_eq_true, of_decide_eq_true⟩

theorem here_of_validateDisplayForActivation {validateDisplayPrimary : Ret}
    (h : validateDisplayForActivation s validateDisplayPrimary id displayId = .ok ()) :
    ∀ d : Nat, s.foregroundAccountMap[d]? = some id → d = displayId := by
  have hcross : validateDisplayForActivation.crossDisplay s id displayId = .ok () := by
    unfold validateDisplayForActivation at h
    split at h
    · split at h
      · exact h
      · cases h
    · exact h
  unfold validateDisplayForActivation.crossDisplay isActiveCrossDisplay at hcross
  split at hcross
  · cases hcross
  rename_i hnot
  intro d hd
  by_contra hne
  refine hnot (List.any_eq_true.2 ⟨(d, id), ExtTreeMap.mem_toList_iff_getElem?_eq_some.2 hd, ?_⟩)
  simpa using hne

theorem prepareActivateOsAccount_ok (h : prepareActivateOsAccount s config a id displayId = .ok info) :
    Flags s id info ∧ ∀ d : Nat, s.foregroundAccountMap[d]? = some id → d = displayId := by
  have hsize : ∀ {i}, prepareActivateOsAccount.notOversize s config i = .ok info → i = info := by
    intro i hi
    unfold prepareActivateOsAccount.notOversize at hi
    split at hi
    · cases hi
    · cases hi
      rfl
  unfold prepareActivateOsAccount at h
  dsimp only at h
  split at h
  · split at h
    · split at h
      · cases h
      split at h
      · cases h
      rename_i hdisplay
      cases hsize h
      refine ⟨⟨rfl, fun hf => ?_, fun hf => ?_⟩, here_of_validateDisplayForActivation hdisplay⟩
      · cases hf
      · cases hf
    · cases h
  · rename_i hinfo
    split at h
    · cases h
    split at h
    · cases h
    · cases h
    rename_i hdisplay _
    cases hsize h
    exact ⟨flags_of_getRealOsAccountInfoById hinfo, here_of_validateDisplayForActivation hdisplay⟩

theorem sendToStorageAccountStart_lists (s : State) (unlockUser : Ret) (info : OsAccountInfo) :
    (sendToStorageAccountStart s unlockUser info).2.activeAccountId = s.activeAccountId ∧
      (sendToStorageAccountStart s unlockUser info).2.foregroundAccountMap = s.foregroundAccountMap := by
  unfold sendToStorageAccountStart
  split
  · exact ⟨rfl, rfl⟩
  · exact ⟨rfl, rfl⟩

theorem Starting.sendToStorageAccountStart (h : Starting none s) (unlockUser : Ret) (info : OsAccountInfo) :
    Starting (some info.localId) (sendToStorageAccountStart s unlockUser info).2 := by
  have hinsert : ∀ {ids : Finset Int} (b : Bool), (∀ n ∈ ids, n ∈ s.activeAccountId ∨ none = some n) →
      ∀ n ∈ if b then insert info.localId ids else ids, n ∈ s.activeAccountId ∨
          some info.localId = some n := by
    intro ids b hids n hn
    cases b with
    | false => exact .inl ((hids n hn).resolve_right fun he => by cases he)
    | true =>
        obtain rfl | hn := Finset.mem_insert.1 hn
        · exact .inr rfl
        · exact .inl ((hids n hn).resolve_right fun he => by cases he)
  unfold Activation.sendToStorageAccountStart
  split
  · exact ⟨h.nodup, h.foreground_active, h.foreground_once, hinsert false h.loggedIn_active,
      hinsert false h.verified_active, h.invalid⟩
  · exact ⟨h.nodup, h.foreground_active, h.foreground_once, hinsert _ h.loggedIn_active,
      hinsert _ h.verified_active, h.invalid⟩

theorem Starting.sendToStorageAccountStart_locked (h : Starting none s) (hflags : Flags s id info)
    {unlockUser : Ret} (hlocked : unlockUser ≠ .ok ()) :
    Starting none (Activation.sendToStorageAccountStart s unlockUser info).2 := by
  have hinsert : ∀ {ids : Finset Int} {b : Bool}, (∀ n ∈ ids, n ∈ s.activeAccountId ∨ none = some n) →
      (b = true → id ∈ ids) →
      ∀ n ∈ if b then insert info.localId ids else ids, n ∈ s.activeAccountId ∨ none = some n := by
    intro ids b hids hb n hn
    cases b with
    | false => exact hids n hn
    | true =>
        rw [hflags.localId] at hn
        obtain rfl | hn := Finset.mem_insert.1 hn
        · exact hids n (hb rfl)
        · exact hids n hn
  unfold Activation.sendToStorageAccountStart
  split
  · exact h
  · refine ⟨h.nodup, h.foreground_active, h.foreground_once, hinsert h.loggedIn_active fun hb => ?_,
      hinsert h.verified_active fun hb => ?_, h.invalid⟩
    · rw [decide_eq_false hlocked] at hb
      exact hflags.loggedIn (by simpa using hb)
    · rw [decide_eq_false hlocked, Bool.or_false] at hb
      exact hflags.verified hb

theorem activeAccountId_onAccountStarted (s : State) (displayId : Nat) (id n : Int) :
    n ∈ (onAccountStarted s displayId id).activeAccountId ↔ n = id ∨ n ∈ s.activeAccountId := by
  have hpush : n ∈ (pushIdIntoActiveList s id).activeAccountId ↔ n = id ∨ n ∈ s.activeAccountId := by
    unfold pushIdIntoActiveList
    by_cases hn : n = id
    · simp [hn]
    · simp [hn]
  have happend : n ∈ s.activeAccountId ++ [id] ↔ n = id ∨ n ∈ s.activeAccountId := by
    rw [List.mem_append, List.mem_singleton, or_comm]
  unfold onAccountStarted
  dsimp only
  split <;> split
  · exact hpush
  · exact happend
  · exact hpush
  · exact happend

theorem nodup_onAccountStarted (h : s.activeAccountId.Nodup)
    (hnew : displayId = defaultDisplayId ∨ id ∉ s.activeAccountId) :
    (onAccountStarted s displayId id).activeAccountId.Nodup := by
  have hpush : (pushIdIntoActiveList s id).activeAccountId.Nodup := by
    unfold pushIdIntoActiveList
    rw [List.nodup_cons]
    refine ⟨fun hmem => ?_, h.filter _⟩
    exact of_decide_eq_true (List.mem_filter.1 hmem).2 rfl
  have happend : displayId ≠ defaultDisplayId → (s.activeAccountId ++ [id]).Nodup := by
    intro hne
    rw [List.nodup_append]
    refine ⟨h, List.nodup_singleton id, fun m hm n hn he => (hnew.resolve_left hne) ?_⟩
    rwa [← List.mem_singleton.1 hn, ← he]
  unfold onAccountStarted
  dsimp only
  split <;> split
  · exact hpush
  · exact happend (by assumption)
  · exact hpush
  · exact happend (by assumption)

theorem foreground_onAccountStarted {d : Nat} {n : Int}
    (hd : (onAccountStarted s displayId id).foregroundAccountMap[d]? = some n) :
    d = displayId ∧ displayId ≠ invalidDisplayId ∧ n = id ∨ s.foregroundAccountMap[d]? = some n := by
  have hlists : (if displayId = defaultDisplayId then pushIdIntoActiveList s id
      else { s with activeAccountId := s.activeAccountId ++ [id] }).foregroundAccountMap = s.foregroundAccountMap := by
    split
    · rfl
    · rfl
  unfold onAccountStarted at hd
  dsimp only at hd
  split at hd
  · rw [hlists] at hd
    exact .inr hd
  · rename_i hvalid
    dsimp only at hd
    rw [hlists, OrderedMap.getElem?_insert_eq] at hd
    split at hd
    · rename_i he
      cases hd
      exact .inl ⟨he.symm, hvalid, rfl⟩
    · exact .inr hd

theorem loggedIn_onAccountStarted (s : State) (displayId : Nat) (id : Int) :
    (onAccountStarted s displayId id).loggedInAccounts = s.loggedInAccounts ∧
      (onAccountStarted s displayId id).verifiedAccounts = s.verifiedAccounts := by
  unfold onAccountStarted
  dsimp only
  split <;> split <;> exact ⟨rfl, rfl⟩

theorem Starting.onAccountStarted (h : Starting starting s) (hstarting : ∀ n, starting = some n → n = id)
    (hhere : displayId ≠ invalidDisplayId → ∀ d : Nat, s.foregroundAccountMap[d]? = some id → d = displayId)
    (hnew : displayId = defaultDisplayId ∨ id ∉ s.activeAccountId) :
    Starting none (onAccountStarted s displayId id) := by
  obtain ⟨hloggedIn, hverified⟩ := loggedIn_onAccountStarted s displayId id
  have hactive := activeAccountId_onAccountStarted s displayId id
  refine ⟨nodup_onAccountStarted h.nodup hnew, ?_, ?_, ?_, ?_, ?_⟩
  · intro d n hd
    rw [hactive]
    obtain ⟨-, -, rfl⟩ | hd := foreground_onAccountStarted hd
    · exact .inl rfl
    · exact .inr (h.foreground_active d n hd)
  · intro d d' n hd hd'
    obtain ⟨rfl, hvalid, rfl⟩ | hold := foreground_onAccountStarted hd
    · obtain ⟨he, -, -⟩ | hold' := foreground_onAccountStarted hd'
      · exact he.symm
      · exact (hhere hvalid d' hold').symm
    · obtain ⟨rfl, hvalid, rfl⟩ | hold' := foreground_onAccountStarted hd'
      · exact hhere hvalid d hold
      · exact h.foreground_once d d' n hold hold'
  · intro n hn
    rw [hloggedIn] at hn
    rw [hactive]
    obtain hn | he := h.loggedIn_active n hn
    · exact .inl (.inr hn)
    · exact .inl (.inl (hstarting n he))
  · intro n hn
    rw [hverified] at hn
    rw [hactive]
    obtain hn | he := h.verified_active n hn
    · exact .inl (.inr hn)
    · exact .inl (.inl (hstarting n he))
  · intro hmem
    obtain ⟨n, hn⟩ := Option.isSome_iff_exists.1 (ExtTreeMap.mem_iff_isSome_getElem?.1 hmem)
    obtain ⟨he, hvalid, -⟩ | hn := foreground_onAccountStarted hn
    · exact hvalid he.symm
    · exact h.invalid (ExtTreeMap.mem_iff_isSome_getElem?.2 (by rw [hn]; rfl))

theorem Starting.of_active (h : Starting (some id) s) (hactive : id ∈ s.activeAccountId) : Starting none s := by
  have hresolve : ∀ {n}, n ∈ s.activeAccountId ∨ some id = some n → n ∈ s.activeAccountId ∨
      none = some n := by
    rintro n (hn | he)
    · exact .inl hn
    · cases he
      exact .inl hactive
  exact ⟨h.nodup, h.foreground_active, h.foreground_once, fun n hn => hresolve (h.loggedIn_active n hn),
    fun n hn => hresolve (h.verified_active n hn), h.invalid⟩

theorem Starting.start (h : Starting none s) {startStorage : Bool} (hflags : Flags s id info)
    (hhere : displayId ≠ invalidDisplayId → ∀ d : Nat, s.foregroundAccountMap[d]? = some id → d = displayId)
    (hsound : startsSoundly s a id startStorage displayId) :
    Starting none (sendToAMSAndSamgrAccountStart
      (if startStorage then (Activation.sendToStorageAccountStart s a.unlockUser info).2 else s) a.startUser
        displayId info.localId).2 := by
  obtain ⟨hlist, hmap⟩ := sendToStorageAccountStart_lists s a.unlockUser info
  have hstorage := h.sendToStorageAccountStart a.unlockUser info
  rw [hflags.localId] at hstorage ⊢
  unfold startsSoundly at hsound
  unfold sendToAMSAndSamgrAccountStart
  split
  · rename_i e hstart
    simp only [hstart, reduceCtorEq, if_false, Bool.or_eq_true, decide_eq_true_eq,
      Bool.not_eq_true'] at hsound
    split
    · rename_i hstartStorage
      obtain (hactive | hfalse) | hne := hsound
      · rw [← hlist] at hactive
        exact hstorage.of_active hactive
      · rw [hfalse] at hstartStorage
        cases hstartStorage
      · exact h.sendToStorageAccountStart_locked hflags hne
    · exact h
  · rename_i hstart
    simp only [hstart, if_true, Bool.or_eq_true, decide_eq_true_eq] at hsound
    split
    · refine hstorage.onAccountStarted (fun n hn => ?_) ?_ ?_
      · cases hn
        rfl
      · rwa [hmap]
      · rwa [hlist]
    · exact h.onAccountStarted (fun n hn => by cases hn) hhere hsound

theorem sendToStorageAndAMSAccountStart_state (s : State) (a : ActivateAnswer) (info : OsAccountInfo)
    (startStorage : Bool) (displayId : Nat) (isAppRecovery : Bool) :
    (sendToStorageAndAMSAccountStart s a info startStorage displayId isAppRecovery).2 =
      if startsUser a startStorage isAppRecovery then
        (sendToAMSAndSamgrAccountStart
          (if startStorage then (Activation.sendToStorageAccountStart s a.unlockUser info).2 else s) a.startUser
            displayId info.localId).2
      else s := by
  unfold sendToStorageAndAMSAccountStart startsUser
  cases startStorage with
  | false => rfl
  | true =>
      by_cases hunlock : a.unlockUser = .error .getSystemAbilityManager
      · cases isAppRecovery with
        | false => simp [Activation.sendToStorageAccountStart, hunlock]
        | true => simp [Activation.sendToStorageAccountStart, hunlock]
      · simp [Activation.sendToStorageAccountStart, hunlock]

theorem Starting.updateAccountToBackground (h : Starting none s) (config : Config) (a : ActivateAnswer) (oldId : Int) :
    Starting none (updateAccountToBackground s config a oldId) := by
  unfold Activation.updateAccountToBackground
  split
  · exact h
  split
  · exact h
  split
  · exact h.deactivateOsAccount a.background oldId false
  · exact h

theorem Starting.activateOsAccount (h : Starting none s) {startStorage isAppRecovery : Bool}
    (hsound : sound config s (.activateOsAccount a id startStorage displayId isAppRecovery)) :
    Starting none (activateOsAccount s config a id startStorage displayId isAppRecovery).2 := by
  unfold Activation.activateOsAccount
  unfold sound at hsound
  split
  · exact h
  rename_i info hprepare
  obtain ⟨hflags, hhere⟩ := prepareActivateOsAccount_ok hprepare
  simp only [hprepare, Bool.or_eq_true, Bool.not_eq_true'] at hsound
  have hstart : Starting none (sendToStorageAndAMSAccountStart s a info startStorage displayId isAppRecovery).2 := by
    rw [sendToStorageAndAMSAccountStart_state]
    split
    · rename_i hstarts
      refine h.start hflags (fun _ => hhere) ?_
      refine hsound.resolve_left fun hfalse => ?_
      rw [hstarts] at hfalse
      cases hfalse
    · exact h
  unfold sendMsgForAccountActivate
  dsimp only
  split <;> rename_i hr <;> rw [hr] at hstart
  · exact hstart
  split
  · exact hstart
  split
  · exact hstart
  · exact hstart.updateAccountToBackground config a _

theorem Starting.activateOsAccountInBackground (h : Starting none s)
    (hsound : sound config s (.activateOsAccountInBackground a id)) :
    Starting none (activateOsAccountInBackground s a id).2 := by
  unfold Activation.activateOsAccountInBackground
  unfold sound at hsound
  split
  · exact h
  rename_i info hinfo
  simp only [hinfo] at hsound
  split
  · exact h
  rename_i hvalid
  simp only [hvalid, ne_eq, not_true_eq_false, decide_false, Bool.false_or] at hsound
  exact h.start (flags_of_getRealOsAccountInfoById hinfo) (fun hne => absurd rfl hne) hsound

theorem Starting.setOsAccountIsVerified (h : Starting none s) {file : Reading} {isVerified : Bool}
    (hactive : isVerified = true → id ∈ s.activeAccountId) :
    Starting none (setOsAccountIsVerified s file id isVerified).2 := by
  unfold Activation.setOsAccountIsVerified
  split
  · exact h
  split
  · exact h
  split
  · rename_i hset
    refine ⟨h.nodup, h.foreground_active, h.foreground_once, h.loggedIn_active, fun n hn => ?_, h.invalid⟩
    obtain rfl | hn := Finset.mem_insert.1 hn
    · exact .inl (hactive hset)
    · exact h.verified_active n hn
  · exact ⟨h.nodup, h.foreground_active, h.foreground_once, h.loggedIn_active,
      fun n hn => h.verified_active n (Finset.mem_of_mem_erase hn), h.invalid⟩

theorem Starting.setOsAccountIsLoggedIn (h : Starting none s) {file : Reading} {isLoggedIn : Bool}
    (hactive : isLoggedIn = true → id ∈ s.activeAccountId) (updateOsAccount : Ret) :
    Starting none (setOsAccountIsLoggedIn s file updateOsAccount id isLoggedIn).2 := by
  have hset : Starting none { s with
      loggedInAccounts := if isLoggedIn then insert id s.loggedInAccounts else s.loggedInAccounts.erase id } := by
    refine ⟨h.nodup, h.foreground_active, h.foreground_once, fun n hn => ?_, h.verified_active, h.invalid⟩
    dsimp only at hn
    split at hn
    · rename_i hset
      obtain rfl | hn := Finset.mem_insert.1 hn
      · exact .inl (hactive hset)
      · exact h.loggedIn_active n hn
    · exact h.loggedIn_active n (Finset.mem_of_mem_erase hn)
  unfold Activation.setOsAccountIsLoggedIn
  split
  · exact h
  split
  · exact h
  dsimp only
  split
  · exact hset
  · exact hset

end activation

theorem starting_step (config : Config) (e : Event) (h : Starting none s) (he : sound config s e) :
    Starting none (step config s e) := by
  unfold step perform
  cases e with
  | activateOsAccount a id startStorage displayId isAppRecovery => exact h.activateOsAccount he
  | activateOsAccountInBackground a id => exact h.activateOsAccountInBackground he
  | deactivateOsAccount a id isStopStorage => exact h.deactivateOsAccount a id isStopStorage
  | removeOsAccount a id => exact h.removeOsAccount a id
  | setOsAccountIsVerified file id isVerified =>
      refine h.setOsAccountIsVerified fun hset => ?_
      simpa [sound, hset] using he
  | setOsAccountIsLoggedIn file updateOsAccount id isLoggedIn =>
      refine h.setOsAccountIsLoggedIn (fun hset => ?_) updateOsAccount
      simpa [sound, hset] using he

/-- If every account is started soundly, the lists and maps belong together in
every state, and the background accounts are found exactly. -/
theorem activation_coherent (config : Config) (es : List Event)
    (hes : Machine.Meets (step config) (fun s e => sound config s e) initial es) :
    Coherent (Machine.run (step config) initial es) ∧ BackgroundExact (Machine.run (step config) initial es) := by
  have h := Machine.run_invariant_of_meets (fun _ e h he => starting_step config e h he) starting_initial hes
  exact ⟨h.coherent, h.coherent.backgroundExact⟩

section runs

def completed : Reading := .ok { isCreateCompleted := true, type := .normal }

def everythingStarts : ActivateAnswer :=
  ⟨completed, .ok (), .ok (), .ok (), completed, ⟨completed, .ok (), .ok (), .ok ()⟩⟩

def activation (id : Int) (displayId : Nat) : Event := .activateOsAccount everythingStarts id true displayId false

def defaultDisplay : List Event :=
  [activation 101 0, activation 102 0, activation 101 0, activation 103 1,
    .deactivateOsAccount ⟨completed, .ok (), .error .storageStopUserFailed, .ok ()⟩ 102 true,
    .removeOsAccount ⟨completed, .ok (), .ok (), .ok (), .ok (), .ok (), .ok (), .ok ()⟩ 103]

def secondDisplay : List Event := [activation 101 1, activation 102 1, activation 101 1, activation 102 1]

def failedStart : List Event :=
  [.activateOsAccount { everythingStarts with startUser := .error .toAmAccountStartError } 101 true 0 false]

def config : Config := ⟨10, false, false⟩

end runs

theorem activation_coherent_defaultDisplay :
    Machine.Meets (step config) (fun s e => sound config s e) initial defaultDisplay ∧
      (Machine.run (step config) initial defaultDisplay).activeAccountId = [101] ∧
      Coherent (Machine.run (step config) initial defaultDisplay) := by
  have hsound : Machine.Meets (step config) (fun s e => sound config s e) initial defaultDisplay :=
    by decide +kernel
  exact ⟨hsound, by decide +kernel, (activation_coherent config defaultDisplay hsound).1⟩

theorem activation_incoherent :
    ¬ Coherent (Machine.run (step config) initial secondDisplay) ∧
      getBackgroundOsAccountLocalIds (Machine.run (step config) initial secondDisplay) = [101, 101] ∧
      ¬ BackgroundExact (Machine.run (step config) initial secondDisplay) ∧
      ¬ Coherent (Machine.run (step config) initial failedStart) := by
  refine ⟨fun h => absurd h.nodup (by decide +kernel), by decide +kernel,
    fun h => absurd h.1 (by decide +kernel), ?_⟩
  intro h
  exact absurd (h.verified_active 101 (by decide +kernel)) (by decide +kernel)

end OsAccount.ActivationInvariant
