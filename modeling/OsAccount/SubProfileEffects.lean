import OsAccount.SubProfileRecords

namespace OsAccount.SubProfileEffects

open Std CText SubProfiles SubProfileAccounts SubProfileRecords
open DistributedAccount (OhosAccountInfo OhosAccountState AccountInnerEvent AccountInfo Request ohosAccountEventLogin
  ohosAccountEventLogout ohosAccountEventTokenInvalid ohosAccountEventLogoff ohosAccountUdidLength defaultOhosAccountUid
  generateOhosUdidWithSha256 checkSameDistributedAccount updateOhosAccountInfo saveOhosAccountInfo
    buildJsonFileFromScratch)

abbrev Trace : Type := Int → Int → List SubscribeType

def trace (published : List Notification) : Trace := fun a i =>
  published.filterMap fun n =>
    if n.localId = a ∧ n.subspaceId = i ∧ (n.type = .bound ∨ n.type = .unbound) then some n.type else none

def quiet : Trace := fun _ _ => []

def single (a i : Int) (type : SubscribeType) : Trace := fun b j => if b = a ∧ j = i then [type] else []

section traces

variable {a i : Int}

theorem trace_append (ns ms : List Notification) (b j : Int) : trace (ns ++ ms) b j = trace ns b j ++ trace ms b j :=
  List.filterMap_append ..

theorem trace_nil : trace [] = quiet := rfl

theorem trace_publishLoginSpaceEvents (a i : Int) (status : OhosAccountState) :
    trace (publishLoginSpaceEvents a i status) = if status = .unbound then single a i .bound else quiet := by
  funext b j
  by_cases hs : status = .unbound
  · subst hs
    by_cases he : a = b ∧ i = j
    · simp [trace, publishLoginSpaceEvents, single, he.1, he.2]
    · have he' : ¬(b = a ∧ j = i) := fun h => he ⟨h.1.symm, h.2.symm⟩
      simp [trace, publishLoginSpaceEvents, single, he, he']
  · by_cases hl : status = .login
    · simp [trace, publishLoginSpaceEvents, quiet, hl]
    · simp [trace, publishLoginSpaceEvents, quiet, hs, hl]

theorem trace_publishLogoutSpaceEvents (a i : Int) (isUnbound : Bool) :
    trace (publishLogoutSpaceEvents a i isUnbound) = if isUnbound then single a i .unbound else quiet := by
  funext b j
  cases isUnbound with
  | false => simp [trace, publishLogoutSpaceEvents, quiet]
  | true =>
      by_cases he : a = b ∧ i = j
      · simp [trace, publishLogoutSpaceEvents, single, he.1, he.2]
      · have he' : ¬(b = a ∧ j = i) := fun h => he ⟨h.1.symm, h.2.symm⟩
        simp [trace, publishLogoutSpaceEvents, single, he, he']

theorem trace_unbound (a i : Int) : trace [⟨.unbound, a, i⟩] = single a i .unbound := by
  funext b j
  by_cases he : a = b ∧ i = j
  · simp [trace, single, he.1, he.2]
  · have he' : ¬(b = a ∧ j = i) := fun h => he ⟨h.1.symm, h.2.symm⟩
    simp [trace, single, he, he']

theorem trace_other (a i : Int) {type : SubscribeType} (hb : type ≠ .bound) (hu : type ≠ .unbound) :
    trace [⟨type, a, i⟩] = quiet := by
  funext b j
  simp [trace, quiet, hb, hu]

end traces

/-- A record is bound to an account exactly when it carries the hash of a uid. It comes
from a file, so that its name and its uid are C strings. -/
structure Regular (x : AccountInfo) : Prop where
  unbound : x.ohosAccountInfo.status = .unbound → x.ohosAccountInfo.uid = defaultOhosAccountUid
  bound : x.ohosAccountInfo.status ≠ .unbound → x.ohosAccountInfo.uid.length = ohosAccountUdidLength
  name : NoNul x.ohosAccountInfo.name
  uid : NoNul x.ohosAccountInfo.uid

def AllRegular (R : Records) : Prop := ∀ a i x, R a i = some x → Regular x

section statuses

variable {sha256 : Sha256} {x : AccountInfo} {accountInfo : OhosAccountInfo}

theorem regular_clear (x : AccountInfo) : Regular x.clear :=
  ⟨fun _ => rfl, fun h => (h rfl).elim, DistributedAccount.noNul_defaultOhosAccountName,
    DistributedAccount.noNul_defaultOhosAccountUid⟩

theorem regular_newAccount : Regular newAccount :=
  ⟨fun _ => rfl, fun h => (h rfl).elim, DistributedAccount.noNul_defaultOhosAccountName,
    DistributedAccount.noNul_defaultOhosAccountUid⟩

theorem regular_scratch : Regular buildJsonFileFromScratch :=
  ⟨fun _ => rfl, fun h => (h rfl).elim, DistributedAccount.noNul_defaultOhosAccountName,
    DistributedAccount.noNul_defaultOhosAccountUid⟩

theorem checkSame_iff {curr : OhosAccountInfo} :
    checkSameDistributedAccount sha256 curr accountInfo = true ↔
      accountInfo.name = curr.name ∧ generateOhosUdidWithSha256 sha256 accountInfo.name accountInfo.uid = curr.uid := by
  simp [checkSameDistributedAccount]

theorem generate_ne_default :
    generateOhosUdidWithSha256 sha256 accountInfo.name accountInfo.uid ≠ defaultOhosAccountUid := by
  unfold generateOhosUdidWithSha256
  split
  · decide
  split
  · decide
  · intro h
    have hlength := congrArg String.length h
    rw [DistributedAccount.length_returnOhosUdidWithSha256] at hlength
    exact absurd hlength (by decide)

theorem bound_of_checkSame (hx : Regular x)
    (h : checkSameDistributedAccount sha256 x.ohosAccountInfo accountInfo = true) :
    x.ohosAccountInfo.status ≠ .unbound := fun hs =>
  generate_ne_default ((checkSame_iff.mp h).2.trans (hx.unbound hs))

variable {eventStr : String} {event : AccountInnerEvent}

theorem checkEventValid_cases (h : checkEventValid eventStr = some event) :
    event = .bindSuccess ∨ event = .manualLogout ∨ event = .tokenExpired ∨ event = .manualLogoff := by
  unfold checkEventValid at h
  split at h
  · exact .inl (Option.some.inj h).symm
  split at h
  · exact .inr (.inl (Option.some.inj h).symm)
  split at h
  · exact .inr (.inr (.inl (Option.some.inj h).symm))
  split at h
  · exact .inr (.inr (.inr (Option.some.inj h).symm))
  · cases h

theorem stateChangeProcess_bound {status next : OhosAccountState}
    (hstatus : status ≠ .unbound) (hevent : checkEventValid eventStr = some event)
    (h : stateChangeProcess status event = some next) : next ≠ .unbound := by
  cases status with
  | unbound => exact (hstatus rfl).elim
  | _ => rcases checkEventValid_cases hevent with rfl | rfl | rfl | rfl <;> cases h <;> decide

theorem stateChangeProcess_unbound
    (hevent : checkEventValid eventStr = some event) : (stateChangeProcess .unbound event).isSome = true := by
  rcases checkEventValid_cases hevent with rfl | rfl | rfl | rfl <;> rfl

theorem handleSpaceStateChange_eq_ok {info changed : SpaceInfo}
    (h : handleSpaceStateChange info eventStr = .ok changed) :
    ∃ event next, checkEventValid eventStr = some event ∧
      stateChangeProcess info.account.ohosAccountInfo.status event = some next ∧
      changed = { info with account := info.account.setStatus next } := by
  unfold handleSpaceStateChange at h
  split at h
  · cases h
  rename_i event hevent
  split at h
  · cases h
  · rename_i next hnext
    exact ⟨event, next, hevent, hnext, (Except.ok.inj h).symm⟩

theorem handleSpaceStateChange_unbound (info : SpaceInfo)
    (hstatus : info.account.ohosAccountInfo.status = .unbound) (hevent : (checkEventValid eventStr).isSome = true) :
    ∃ changed, handleSpaceStateChange info eventStr = .ok changed ∧ changed.userId = info.userId ∧
      changed.subspaceId = info.subspaceId := by
  obtain ⟨event, hevent⟩ := Option.isSome_iff_exists.1 hevent
  obtain ⟨next, hnext⟩ := Option.isSome_iff_exists.1 (stateChangeProcess_unbound hevent)
  unfold handleSpaceStateChange
  rw [hevent, hstatus]
  dsimp only
  rw [hnext]
  exact ⟨_, rfl, rfl, rfl⟩

end statuses

/-- The clean-up after an uninstall, record by record. A save that fails leaves the
record bound, and its subscribers are told otherwise. -/
inductive CleanUp (saves : Int → Int → Ret) (callingUid : Int) (localIds : List Int) (R : Records) :
    Records → Trace → Prop
  | refl : CleanUp saves callingUid localIds R R quiet
  | clear {R' t a i x} (h : CleanUp saves callingUid localIds R R' t) (hx : R' a i = some x)
      (hstatus : x.ohosAccountInfo.status ≠ .unbound) {y : AccountInfo}
      (hy : y.ohosAccountInfo = x.clear.ohosAccountInfo) :
      CleanUp saves callingUid localIds R (R'.set a i (some y)) fun b j => t b j ++ single a i .unbound b j
  | falseAlarm {R' t a i x e} (h : CleanUp saves callingUid localIds R R' t) (ha : a ∈ localIds) (hx : R' a i = some x)
      (hcallingUid : x.ohosAccountInfo.callingUid = callingUid) (hstatus : x.ohosAccountInfo.status ≠ .unbound)
      (hsave : saves a i = .error e) :
      CleanUp saves callingUid localIds R R' fun b j => t b j ++ single a i .unbound b j

inductive Effect (sha256 : Sha256) (R : Records) : Operation → Records → Trace → Prop
  | keep {op} : Effect sha256 R op R quiet
  | bind {save a i r x y} (hx : R a i = some x) (hstatus : x.ohosAccountInfo.status = .unbound)
      (hfree : ∀ j z, j ≠ base a → j ≠ i → R a j = some z →
        checkSameDistributedAccount sha256 z.ohosAccountInfo r.ohosAccountInfo = false)
      (hlength : (generateOhosUdidWithSha256 sha256 r.ohosAccountInfo.name r.ohosAccountInfo.uid).length =
        ohosAccountUdidLength) (hevent : (checkEventValid r.eventStr).isSome = true) (hsave : save = .ok ())
      (hy : y.ohosAccountInfo = (saveOhosAccountInfo (updateOhosAccountInfo r
        (generateOhosUdidWithSha256 sha256 r.ohosAccountInfo.name r.ohosAccountInfo.uid))).ohosAccountInfo) :
      Effect sha256 R (.login save a i r) (R.set a i (some y)) (single a i .bound)
  | rebind {op a i x y} (hx : R a i = some x) (hstatus : x.ohosAccountInfo.status ≠ .unbound)
      (hstatus' : y.ohosAccountInfo.status ≠ .unbound) (hname : y.ohosAccountInfo.name = x.ohosAccountInfo.name)
      (huid : y.ohosAccountInfo.uid = x.ohosAccountInfo.uid) : Effect sha256 R op (R.set a i (some y)) quiet
  | create {op a i} (hx : R a i = none) : Effect sha256 R op (R.set a i (some newAccount)) quiet
  | delete {op a i x} (hi : i ≠ base a) (hx : R a i = some x) :
      Effect sha256 R op (R.set a i none)
        (if x.ohosAccountInfo.status ≠ .unbound then single a i .unbound else quiet)
  | removeOsAccount {a t} (ht : ∀ j, t a j = if j ≠ base a ∧ (R a j).any (·.ohosAccountInfo.status ≠ .unbound) then
        [.unbound] else []) (hother : ∀ b j, b ≠ a → t b j = []) :
      Effect sha256 R (.removeOsAccount a)
        (fun b j => if b = a then (if j = base a then some buildJsonFileFromScratch else none) else R b j) t
  | packageRemoved {saves callingUid localIds R' t} (h : CleanUp saves callingUid localIds R R' t) :
      Effect sha256 R (.packageRemoved saves callingUid localIds) R' t

section regular

variable {R R' : Records} {a i : Int} {t : Trace}

theorem Regular.congr {x y : AccountInfo} (h : Regular x) (hy : y.ohosAccountInfo = x.ohosAccountInfo) : Regular y := by
  refine ⟨fun hs => ?_, fun hs => ?_, ?_, ?_⟩
  · rw [hy] at hs ⊢
    exact h.unbound hs
  · rw [hy] at hs ⊢
    exact h.bound hs
  · rw [hy]
    exact h.name
  · rw [hy]
    exact h.uid

theorem AllRegular.set (h : AllRegular R) (x : Option AccountInfo) (hx : ∀ y, x = some y → Regular y) :
    AllRegular (R.set a i x) := by
  intro b j z hz
  rw [records_set_apply] at hz
  split at hz
  · exact hx z hz
  · exact h b j z hz

theorem allRegular_cleanUp {saves : Int → Int → Ret} {callingUid : Int} {localIds : List Int}
    (hc : CleanUp saves callingUid localIds R R' t) (h : AllRegular R) : AllRegular R' := by
  induction hc with
  | refl => exact h
  | clear hc hx hstatus hy ih =>
      refine ih.set _ ?_
      rintro z ⟨⟩
      exact (regular_clear _).congr hy
  | falseAlarm hc ha hx hcallingUid hstatus hsave ih => exact ih

theorem allRegular_effect {sha256 : Sha256} {op : Operation} (he : Effect sha256 R op R' t)
    (h : AllRegular R) : AllRegular R' := by
  cases he with
  | keep => exact h
  | bind hx hstatus hfree hlength hevent hsave hy =>
      refine h.set _ ?_
      rintro z ⟨⟩
      refine ⟨fun hs => ?_, fun _ => ?_, ?_, ?_⟩
      · rw [hy] at hs
        cases hs
      · rw [hy, (DistributedAccount.bound_login hlength).2]
        exact hlength
      · rw [hy]
        exact noNul_cStr _
      · rw [hy]
        exact noNul_cStr _
  | rebind hx hstatus hstatus' hname huid =>
      refine h.set _ ?_
      rintro z ⟨⟩
      refine ⟨fun hs => (hstatus' hs).elim, fun _ => ?_, ?_, ?_⟩
      · rw [huid]
        exact (h _ _ _ hx).bound hstatus
      · rw [hname]
        exact (h _ _ _ hx).name
      · rw [huid]
        exact (h _ _ _ hx).uid
  | create hx =>
      refine h.set _ ?_
      rintro z ⟨⟩
      exact regular_newAccount
  | delete hi hx =>
      refine h.set _ ?_
      rintro z ⟨⟩
  | removeOsAccount ht hother =>
      intro b j z hz
      dsimp only at hz
      split at hz
      · split at hz
        · cases hz
          exact regular_scratch
        · cases hz
      · exact h b j z hz
  | packageRemoved hc => exact allRegular_cleanUp hc h

end regular

section effects

variable {max : MaxCount} {sha256 : Sha256} {s : State}

theorem setDistributedAccountSpaceInfo_effect {a i : Int} {x : AccountInfo} (h : records s a i = some x) (save : Ret)
    (y : AccountInfo) :
    (∃ e, setDistributedAccountSpaceInfo save ⟨a, i, y⟩ s = (.error e, s) ∧ save = .error e) ∨
      ∃ z, z.ohosAccountInfo = (saveOhosAccountInfo y).ohosAccountInfo ∧ save = .ok () ∧
        setDistributedAccountSpaceInfo save ⟨a, i, y⟩ s = (.ok (), s.setAccount a i z) ∧
        records (s.setAccount a i z) = (records s).set a i (some z) := by
  cases save with
  | error e => exact .inl ⟨e, rfl, rfl⟩
  | ok u =>
      refine .inr ⟨_, ?_, rfl, rfl, records_setAccount h _⟩
      dsimp only
      split
      · rfl
      · rfl

structure Acts (max : MaxCount) (sha256 : Sha256) (s : State) (op : Operation) (s' : State)
    (published : List Notification) : Prop where
  effect : Effect sha256 (records s) op (records s') (trace published)
  sound : Sound max s'.disk

theorem acts_keep (h : Sound max s.disk) (op : Operation) : Acts max sha256 s op s [] := ⟨.keep, h⟩

theorem acts_login (h : Sound max s.disk) (hregular : AllRegular (records s)) (save : Ret) (a i : Int) (r : Request) :
    Acts max sha256 s (.login save a i r) (loginOhosAccountSpace sha256 save a i r s).state
      (loginOhosAccountSpace sha256 save a i r s).published := by
  unfold loginOhosAccountSpace
  rw [getDistributedAccountSpaceInfo_eq h]
  cases hx : records s a i with
  | none => exact acts_keep h _
  | some x =>
      dsimp only
      split
      · exact acts_keep h _
      rename_i hlength
      rw [not_not] at hlength
      split
      · exact acts_keep h _
      rename_i hverify
      split
      · exact acts_keep h _
      rename_i changed hchanged
      obtain ⟨event, next, hevent, hnext, rfl⟩ := handleSpaceStateChange_eq_ok hchanged
      dsimp only
      rcases setDistributedAccountSpaceInfo_effect hx save (updateOhosAccountInfo r
        (generateOhosUdidWithSha256 sha256 r.ohosAccountInfo.name r.ohosAccountInfo.uid)) with
        ⟨e, hset, -⟩ | ⟨z, hz, hsave, hset, hrecords⟩
      · rw [hset]
        exact acts_keep h _
      rw [hset]
      refine ⟨?_, h⟩
      dsimp only
      rw [hrecords, trace_publishLoginSpaceEvents]
      unfold verifySpaceAccountBinding at hverify
      dsimp only at hverify
      by_cases hstatus : x.ohosAccountInfo.status = .unbound
      · rw [if_neg (not_not.2 hstatus),
          verifyOthers_eq_ok_iff h _ fun j hj => ((mem_scan_iff h).1 hj).2] at hverify
        rw [if_pos hstatus]
        refine .bind hx hstatus (fun j z hj hji hz => ?_) hlength (by rw [hevent]; rfl) hsave hz
        exact hverify j ((mem_scan_iff h).2 ⟨hj, by rw [hz]; rfl⟩) hji z hz
      · rw [if_pos hstatus] at hverify
        split at hverify
        · rename_i hsame
          obtain ⟨hname, huid⟩ := checkSame_iff.mp hsame
          rw [if_neg hstatus]
          refine .rebind hx hstatus ?_ ?_ ?_
          · rw [hz]
            intro he
            cases he
          · rw [hz, ← (hregular a i x hx).name.cStr, ← hname]
            rfl
          · rw [hz, (DistributedAccount.bound_login hlength).2]
            exact huid
        · cases hverify

theorem acts_changeSpaceState (h : Sound max s.disk) (hregular : AllRegular (records s))
    {published : List Notification} (hquiet : trace published = quiet) (op : Operation) (save : Ret) (a i : Int)
    (r : Request) :
    Acts max sha256 s op (changeSpaceState sha256 published save a i r s).state
      (changeSpaceState sha256 published save a i r s).published := by
  unfold changeSpaceState
  rw [getDistributedAccountSpaceInfo_eq h]
  cases hx : records s a i with
  | none => exact acts_keep h _
  | some x =>
      dsimp only
      split
      · exact acts_keep h _
      rename_i hsame
      rw [Bool.not_eq_true', Bool.not_eq_false] at hsame
      split
      · exact acts_keep h _
      rename_i changed hchanged
      obtain ⟨event, next, hevent, hnext, rfl⟩ := handleSpaceStateChange_eq_ok hchanged
      have hstatus := bound_of_checkSame (hregular a i x hx) hsame
      rcases setDistributedAccountSpaceInfo_effect hx save (x.setStatus next) with
        ⟨e, hset, -⟩ | ⟨z, hz, -, hset, hrecords⟩
      · rw [hset]
        exact acts_keep h _
      · rw [hset]
        refine ⟨?_, h⟩
        dsimp only
        rw [hrecords, hquiet]
        refine .rebind hx hstatus ?_ ?_ ?_
        · rw [hz]
          exact stateChangeProcess_bound hstatus hevent hnext
        · rw [hz]
          exact (hregular a i x hx).name.cStr
        · rw [hz]
          exact (hregular a i x hx).uid.cStr

theorem acts_create (h : Sound max s.disk) (a : CreateSaves) (osAccountId : Int) :
    Acts max sha256 s (.create a osAccountId) (createOsAccountSubspace max a osAccountId s).state
      (createOsAccountSubspace max a osAccountId s).published := by
  have heffect := createEffect h a osAccountId
  have hsound := sound_create h a osAccountId
  unfold createOsAccountSubspace
  cases hcreate : createSubProfile max a.answer osAccountId s.disk with
  | mk r disk =>
  rw [hcreate] at heffect hsound
  cases r with
  | error stop =>
      have hrecords : records { s with disk } = records s := by
        funext b j
        unfold records
        dsimp only
        rw [heffect]
      refine ⟨?_, hsound⟩
      dsimp only
      rw [hrecords]
      exact .keep
  | ok info =>
      obtain ⟨⟨hrange, -⟩, hfree, hloads⟩ := heffect
      have hne := SubProfileContexts.base_ne_of_range hrange.1
      have hnone : records s osAccountId info.subspaceId = none := by
        rw [records_of_ne hne, hfree]
        rfl
      have hrecords : records (State.setAccount { s with disk } osAccountId info.subspaceId newAccount) =
          (records s).set osAccountId info.subspaceId (some newAccount) := by
        funext b j
        rw [records_set_apply]
        unfold records
        rw [disk_setAccount, accounts_setAccount, hloads]
        by_cases he : b = osAccountId ∧ j = info.subspaceId
        · simp [he]
        · simp [he]
      refine ⟨?_, hsound⟩
      dsimp only
      rw [hrecords]
      exact .create hnone

theorem acts_delete (h : Sound max s.disk) (a : RemoveSaves) (osAccountId id : Int) :
    Acts max sha256 s (.delete a osAccountId id) (deleteOsAccountSubspace a osAccountId id s).state
      (deleteOsAccountSubspace a osAccountId id s).published := by
  unfold deleteOsAccountSubspace
  split
  · exact acts_keep h _
  rename_i hne
  rw [getDistributedAccountSpaceInfo_eq h]
  cases hx : records s osAccountId id with
  | none => exact acts_keep h _
  | some x =>
  have heffect := removeEffect h.inv a osAccountId id
  have hsound := sound_remove h a osAccountId id
  dsimp only
  cases hremove : removeSubProfile a.answer osAccountId id s.disk with
  | mk r disk =>
  rw [hremove] at heffect hsound
  cases r with
  | error stop =>
      have hrecords : records { s with disk } = records s := by
        funext b j
        unfold records
        dsimp only
        rw [heffect]
      refine ⟨?_, hsound⟩
      dsimp only
      rw [hrecords]
      exact .keep
  | ok u =>
      have hrecords : records { s with disk } = (records s).set osAccountId id none := by
        funext b j
        rw [records_set_apply]
        unfold records
        dsimp only
        rw [heffect]
        by_cases he : b = osAccountId ∧ j = id
        · simp [he, hne]
        · simp [he]
      have htrace : trace (if x.ohosAccountInfo.status ≠ .unbound then [⟨.unbound,
        osAccountId, id⟩] else []) =
          if x.ohosAccountInfo.status ≠ .unbound then single osAccountId id .unbound else quiet := by
        split
        · exact trace_unbound osAccountId id
        · rfl
      refine ⟨?_, hsound⟩
      dsimp only
      rw [hrecords, htrace]
      exact .delete hne hx

def removalEvents (s : State) (a id : Int) : List Notification :=
  match getDistributedAccountSpaceInfo s a id with
  | .error _ => []
  | .ok spaceInfo =>
      if spaceInfo.account.ohosAccountInfo.status = .unbound then []
      else
        (if spaceInfo.account.ohosAccountInfo.status = .login then publishLogoutSpaceEvents a id false else []) ++
          [⟨.unbound, a, id⟩]

theorem trace_removalEvents (h : Sound max s.disk) (a id : Int) :
    trace (removalEvents s a id) =
      if (records s a id).any (·.ohosAccountInfo.status ≠ .unbound) then single a id .unbound else quiet := by
  unfold removalEvents
  rw [getDistributedAccountSpaceInfo_eq h]
  cases records s a id with
  | none => rfl
  | some x =>
      dsimp only
      by_cases hstatus : x.ohosAccountInfo.status = .unbound
      · simp [hstatus, trace_nil]
      · have hlogout : trace (if x.ohosAccountInfo.status = .login then publishLogoutSpaceEvents a id false else []) =
            quiet := by
          split
          · exact trace_publishLogoutSpaceEvents a id false
          · rfl
        funext b j
        rw [if_neg hstatus, trace_append, hlogout, trace_unbound]
        simp [hstatus, quiet]

theorem trace_flatMap (f : Int → List Notification) (ids : List Int) (b j : Int) :
    trace (ids.flatMap f) b j = ids.flatMap fun id => trace (f id) b j := by
  induction ids with
  | nil => rfl
  | cons id ids ih => rw [List.flatMap_cons, List.flatMap_cons, trace_append, ih]

theorem flatMap_single {α : Type} {ids : List Int} (hids : ids.Nodup) (j : Int) (l : List α) :
    (ids.flatMap fun id => if id = j then l else []) = if j ∈ ids then l else [] := by
  induction ids with
  | nil => rfl
  | cons id ids ih =>
      obtain ⟨hid, hrest⟩ := List.nodup_cons.mp hids
      rw [List.flatMap_cons, ih hrest]
      by_cases he : id = j
      · subst he
        simp [hid]
      · simp [he, Ne.symm he]

theorem trace_sendMultiSpaceLogoutOnDelOsAccount (h : Sound max s.disk) (a j : Int) :
    trace (sendMultiSpaceLogoutOnDelOsAccount s a) a j =
      if j ≠ base a ∧ (records s a j).any (·.ohosAccountInfo.status ≠ .unbound) then [.unbound] else [] := by
  have hids : (scanOsAccountSubProfileIds s.disk a []).Nodup := by
    unfold scanOsAccountSubProfileIds scanSubProfileIds
    exact ExtTreeMap.nodup_keys.filter _
  have hsingle : ∀ id, trace (removalEvents s a id) a j =
      if id = j then (if (records s a j).any
          (·.ohosAccountInfo.status ≠ .unbound) then [.unbound] else []) else [] := by
    intro id
    rw [trace_removalEvents h]
    by_cases he : id = j
    · subst he
      split <;> simp [single, quiet]
    · split <;> simp [single, quiet, Ne.symm he]
  change trace ((scanOsAccountSubProfileIds s.disk a []).flatMap (removalEvents s a)) a j = _
  rw [trace_flatMap]
  simp only [hsingle]
  rw [flatMap_single hids]
  simp only [mem_scan_iff h]
  cases hx : records s a j with
  | none => simp
  | some x => by_cases hj : j = base a <;> simp [hj]

theorem trace_sendMultiSpaceLogoutOnDelOsAccount_of_ne (h : Sound max s.disk) {a b : Int} (hb : b ≠ a) (j : Int) :
    trace (sendMultiSpaceLogoutOnDelOsAccount s a) b j = [] := by
  change trace ((scanOsAccountSubProfileIds s.disk a []).flatMap (removalEvents s a)) b j = _
  rw [trace_flatMap, List.flatMap_eq_nil_iff]
  intro id _
  rw [trace_removalEvents h]
  split <;> simp [single, quiet, hb]

theorem acts_removeOsAccount (h : Sound max s.disk) (a : Int) :
    Acts max sha256 s (.removeOsAccount a) (removeOsAccount a s).1 (removeOsAccount a s).2 := by
  refine ⟨?_, sound_removed h a⟩
  have hrecords : records (removeOsAccount a s).1 =
      fun b j => if b = a then (if j = base a then some buildJsonFileFromScratch else none) else records s b j := by
    funext b j
    unfold records removeOsAccount
    rw [disk_setAccount, accounts_setAccount, load_removed]
    by_cases hb : b = a
    · by_cases hj : j = base a
      · simp [hb, hj]
      · simp [hb, hj]
    · simp [hb]
  rw [hrecords]
  refine .removeOsAccount (fun j => ?_) fun b j hb => ?_
  · exact trace_sendMultiSpaceLogoutOnDelOsAccount h a j
  · exact trace_sendMultiSpaceLogoutOnDelOsAccount_of_ne h hb j

section cleanUp

variable {saves : Int → Int → Ret} {callingUid : Int} {localIds : List Int} {R : Records} {t : Trace}

theorem CleanUp.clearMainAccountIfMatch (hc : CleanUp saves callingUid localIds R (records s) t) {a : Int}
    (ha : a ∈ localIds) :
    let r := clearMainAccountIfMatch (saves a (base a)) a callingUid s
    CleanUp saves callingUid localIds R (records r.1) (fun b j => t b j ++ trace r.2 b j) ∧ r.1.disk = s.disk := by
  have hx := records_base s a
  dsimp only
  unfold SubProfileAccounts.clearMainAccountIfMatch
  dsimp only
  split
  · exact ⟨by simpa [trace] using hc, rfl⟩
  · rename_i hmatch
    rw [not_or, not_not] at hmatch
    simp only [trace_publishLogoutSpaceEvents, if_true]
    cases hsave : saves a (base a) with
    | error e => exact ⟨hc.falseAlarm ha hx hmatch.1 hmatch.2 hsave, rfl⟩
    | ok u =>
        dsimp only
        rw [records_setAccount hx, DistributedAccount.saveOhosAccountInfo_clear]
        exact ⟨hc.clear hx hmatch.2 rfl, rfl⟩

theorem CleanUp.clearDistributedAccountSpaceIfMatch (h : Sound max s.disk)
    (hc : CleanUp saves callingUid localIds R (records s) t) {a : Int} (ha : a ∈ localIds) (i : Int) :
    let r := clearDistributedAccountSpaceIfMatch (saves a i) a i callingUid s
    CleanUp saves callingUid localIds R (records r.1) (fun b j => t b j ++ trace r.2 b j) ∧ r.1.disk = s.disk := by
  dsimp only
  unfold SubProfileAccounts.clearDistributedAccountSpaceIfMatch
  rw [getDistributedAccountSpaceInfo_eq h]
  cases hx : records s a i with
  | none => exact ⟨by simpa [trace] using hc, rfl⟩
  | some x =>
      dsimp only
      split
      · exact ⟨by simpa [trace] using hc, rfl⟩
      · rename_i hmatch
        rw [not_or, not_not] at hmatch
        simp only [trace_publishLogoutSpaceEvents, if_true]
        rcases setDistributedAccountSpaceInfo_effect hx (saves a i) x.clear with
          ⟨e, hset, hsave⟩ | ⟨z, hz, hsave, hset, hrecords⟩
        · rw [hset]
          exact ⟨hc.falseAlarm ha hx hmatch.1 hmatch.2 hsave, rfl⟩
        · rw [hset]
          dsimp only
          rw [hrecords]
          rw [DistributedAccount.saveOhosAccountInfo_clear] at hz
          exact ⟨hc.clear hx hmatch.2 hz, rfl⟩

theorem CleanUp.clearDistributedAccountSpaces (h : Sound max s.disk)
    (hc : CleanUp saves callingUid localIds R (records s) t) {a : Int} (ha : a ∈ localIds) (ids : List Int) :
    let r := clearDistributedAccountSpaces (saves a) a callingUid ids s
    CleanUp saves callingUid localIds R (records r.1) (fun b j => t b j ++ trace r.2 b j) ∧ r.1.disk = s.disk := by
  induction ids generalizing s t with
  | nil => exact ⟨by simpa [SubProfileAccounts.clearDistributedAccountSpaces, trace] using hc, rfl⟩
  | cons i ids ih =>
      obtain ⟨hone, hdisk⟩ := hc.clearDistributedAccountSpaceIfMatch h ha i
      obtain ⟨hrest, hdisk'⟩ := ih (by rwa [hdisk]) hone
      refine ⟨?_, hdisk'.trans hdisk⟩
      simpa [SubProfileAccounts.clearDistributedAccountSpaces, trace_append] using hrest

theorem CleanUp.onPackageRemoved (h : Sound max s.disk) (hc : CleanUp saves callingUid localIds R (records s) t)
    {ids : List Int} (hids : ∀ a ∈ ids, a ∈ localIds) :
    let r := onPackageRemoved saves callingUid ids s
    CleanUp saves callingUid localIds R (records r.1) (fun b j => t b j ++ trace r.2 b j) ∧ r.1.disk = s.disk := by
  induction ids generalizing s t with
  | nil => exact ⟨by simpa [SubProfileAccounts.onPackageRemoved, trace] using hc, rfl⟩
  | cons a ids ih =>
      rw [List.forall_mem_cons] at hids
      obtain ⟨hmain, hdisk⟩ := hc.clearMainAccountIfMatch hids.1
      have hsound := (congrArg (Sound max) hdisk).mpr h
      obtain ⟨hspaces, hdisk'⟩ := hmain.clearDistributedAccountSpaces hsound hids.1
        (scanOsAccountSubProfileIds
          (SubProfileAccounts.clearMainAccountIfMatch (saves a (base a)) a callingUid s).1.disk
          a [])
      obtain ⟨hrest, hdisk''⟩ := ih ((congrArg (Sound max) hdisk').mpr hsound) hspaces hids.2
      refine ⟨?_, hdisk''.trans (hdisk'.trans hdisk)⟩
      simpa [SubProfileAccounts.onPackageRemoved, clearDistributedAccountSpacesIfMatch,
        trace_append] using hrest

end cleanUp

theorem acts_perform (sha256 : Sha256) (h : Sound max s.disk) (hregular : AllRegular (records s))
    (op : Operation) :
    Acts max sha256 s op (perform max sha256 s op).1 (perform max sha256 s op).2 := by
  cases op with
  | login save a i r => exact acts_login h hregular save a i r
  | logout save a i r =>
      exact acts_changeSpaceState h hregular (trace_publishLogoutSpaceEvents a i false) _ save a i r
  | logoff save a i r =>
      exact acts_changeSpaceState h hregular (trace_other a i (by decide) (by decide)) _ save a i r
  | tokenInvalid save a i r =>
      exact acts_changeSpaceState h hregular (trace_other a i (by decide) (by decide)) _ save a i r
  | create a osAccountId => exact acts_create h a osAccountId
  | delete a osAccountId id => exact acts_delete h a osAccountId id
  | removeOsAccount a => exact acts_removeOsAccount h a
  | packageRemoved saves callingUid localIds =>
      have hnothing : CleanUp saves callingUid localIds (records s) (records s) quiet := .refl
      obtain ⟨hclean, hdisk⟩ := hnothing.onPackageRemoved h fun _ ha => ha
      refine ⟨.packageRemoved ?_, ?_⟩
      · simp only [quiet, List.nil_append] at hclean
        exact hclean
      · exact (congrArg (Sound max) hdisk).mpr h

end effects

end OsAccount.SubProfileEffects
