import OsAccount.SubProfileGarbage
import OsAccount.SubProfileSwitch

namespace OsAccount.SubProfileForeground

open Std SubProfileContexts SubProfileGarbage SubProfileSwitch
open SubProfiles hiding Event step

def OnlyEnabled (enabled : Finset Int) (i : Int) : Prop :=
  ∀ j, j ∈ enabled ∧ j ≠ headlessSubProfileIndex ↔ j = i

theorem OnlyEnabled.batchSetApplicationEnabled {enabled : Finset Int} {i j : Int} (h : OnlyEnabled enabled i)
    (hj : j ≠ headlessSubProfileIndex) : OnlyEnabled (batchSetApplicationEnabled j i enabled) j := by
  intro k
  unfold SubProfileSwitch.batchSetApplicationEnabled
  rw [Finset.mem_insert, Finset.mem_erase]
  constructor
  · rintro ⟨hk | ⟨hne, hk⟩, hk'⟩
    · exact hk
    · exact (hne ((h k).1 ⟨hk, hk'⟩)).elim
  · rintro rfl
    exact ⟨.inl rfl, hj⟩

section lookup

variable {max : MaxCount} {osAccountId : Int} {d d₁ d₂ : Disk}

theorem indexOf_eq_some_iff (h : Inv max d) {id i : Int} : indexOf osAccountId d id = some i ↔
    ∃ ctx, (d osAccountId).context = some ctx ∧ ctx.subProfileIndexMap[i]? = some id := by
  unfold indexOf
  rw [Option.bind_eq_some_iff]
  refine exists_congr fun ctx => and_congr_right fun hctx => ?_
  have hfound : ∀ p, ctx.subProfileIndexMap.toList.find? (fun p => p.2 = id) = some p →
      ctx.subProfileIndexMap[p.1]? = some id := by
    intro p hp
    have hmem := ExtTreeMap.mem_toList_iff_getElem?_eq_some.1 (List.mem_of_find?_eq_some hp)
    have hvalue := List.find?_some hp
    rwa [of_decide_eq_true hvalue] at hmem
  rw [Option.map_eq_some_iff]
  constructor
  · rintro ⟨p, hp, rfl⟩
    exact hfound p hp
  · intro hi
    cases hfind : ctx.subProfileIndexMap.toList.find? (fun p => p.2 = id) with
    | none =>
        have hno := List.find?_eq_none.1 hfind (i, id) (ExtTreeMap.mem_toList_iff_getElem?_eq_some.2 hi)
        simp at hno
    | some p => exact ⟨p, rfl, (h.contexts osAccountId ctx hctx).injective p.1 i id (hfound p hfind) hi⟩

theorem indexOf_congr (h : (d₁ osAccountId).context = (d osAccountId).context) (id : Int) :
    indexOf osAccountId d₁ id = indexOf osAccountId d id := by
  unfold indexOf
  rw [h]

variable {id : Int}

theorem isValidSubProfileExists_congr (h : (d₁ osAccountId).dirs[id]? = (d osAccountId).dirs[id]?) :
    isValidSubProfileExists d₁ osAccountId id = isValidSubProfileExists d osAccountId id := by
  unfold isValidSubProfileExists loadSubProfileInfo
  rw [h]

theorem ne_base_of_isValidSubProfileExists (h : Inv max d)
    (hid : isValidSubProfileExists d osAccountId id = true) : id ≠ base osAccountId := by
  unfold isValidSubProfileExists loadSubProfileInfo at hid
  obtain ⟨info, hinfo, _⟩ := (Option.any_eq_true _ _).1 hid
  exact (h.dirs osAccountId id _ (Option.join_eq_some_iff.1 hinfo)).1

theorem index_ne_headless (h : Inv max d) {id i : Int} (hid : isValidSubProfileExists d osAccountId id = true)
    (hi : indexOf osAccountId d id = some i) : i ≠ headlessSubProfileIndex := by
  rintro rfl
  obtain ⟨ctx, hctx, hvalue⟩ := (indexOf_eq_some_iff h).1 hi
  rw [(h.contexts osAccountId ctx hctx).headless] at hvalue
  exact ne_base_of_isValidSubProfileExists h hid (Option.some_inj.1 hvalue).symm

theorem isValidSubProfileExists_removeSubProfileDir {a : DirAnswer} {r : Done Unit}
    (hr : removeSubProfileDir a osAccountId id d = (r, d₁)) (h : isValidSubProfileExists d osAccountId id = false) :
    isValidSubProfileExists d₁ osAccountId id = false := by
  have hdirs : ((removeSubProfileDir a osAccountId id d).2 osAccountId).dirs[id]? = _ :=
    dirs_removeSubProfileDir a osAccountId id id
  rw [hr, if_pos ⟨rfl, rfl⟩] at hdirs
  refine Bool.eq_false_iff.2 fun hvalid => ?_
  unfold isValidSubProfileExists loadSubProfileInfo at h hvalid
  obtain ⟨info, hinfo, hinfo'⟩ := (Option.any_eq_true _ _).1 hvalid
  rw [Option.join_eq_some_iff, hdirs] at hinfo
  rw [eq_of_afterRemoval_eq hinfo] at h
  exact Bool.eq_false_iff.1 h hinfo'

structure Elsewhere (max : MaxCount) (osAccountId id : Int) (d d' : Disk) : Prop where
  inv : Inv max d'
  valid : ∀ v, v ≠ id → isValidSubProfileExists d' osAccountId v = isValidSubProfileExists d osAccountId v
  index : ∀ v, v ≠ id → indexOf osAccountId d' v = indexOf osAccountId d v

theorem elsewhere_setDir (h : Inv max d) {info : Option OsAccountSubspaceInfo} (hid : id ≠ base osAccountId)
    (hinfo : ∀ i, info = some i → i.userId = osAccountId ∧ i.subspaceId = id) :
    Elsewhere max osAccountId id d (d.setDir osAccountId id info) := by
  have hkeeps : Keeps max osAccountId d (d.setDir osAccountId id info) := keeps_setDir h hid hinfo
  refine ⟨hkeeps.inv, fun v hv => ?_, fun v _ => ?_⟩
  · apply isValidSubProfileExists_congr
    rw [dirs_setDir, if_neg fun he => hv he.2]
  · exact indexOf_congr (context_setDir d osAccountId osAccountId id info) v

theorem elsewhere_removeSubProfileDir (h : Inv max d) (a : DirAnswer) (id : Int) (hid : id ≠ base osAccountId) :
    Elsewhere max osAccountId id d (removeSubProfileDir a osAccountId id d).2 := by
  have hempty : Elsewhere max osAccountId id d (d.setDir osAccountId id none) :=
    elsewhere_setDir h hid fun i hi => by cases hi
  have hsame : Elsewhere max osAccountId id d d := ⟨h, fun _ _ => rfl, fun _ _ => rfl⟩
  unfold removeSubProfileDir
  split
  · exact hsame
  cases a with
  | success =>
      have hkeeps : Keeps max osAccountId d (d.eraseDir osAccountId id) := keeps_eraseDir h osAccountId id
      refine ⟨hkeeps.inv, fun v hv => ?_, fun v _ => ?_⟩
      · apply isValidSubProfileExists_congr
        rw [dirs_eraseDir, if_neg fun he => hv he.2]
      · exact indexOf_congr (context_eraseDir d osAccountId osAccountId id) v
  | failure e emptied =>
      cases emptied with
      | true => exact hempty
      | false => exact hsame
  | crash emptied =>
      cases emptied with
      | true => exact hempty
      | false => exact hsame

theorem elsewhere_updateContextAfterRemove (h : Inv max d) (a : WriteAnswer) (hid : id ≠ base osAccountId) :
    Elsewhere max osAccountId id d (updateContextAfterRemove a osAccountId id d).2 := by
  have hsame : Elsewhere max osAccountId id d d := ⟨h, fun _ _ => rfl, fun _ _ => rfl⟩
  unfold updateContextAfterRemove
  split
  · exact hsame
  rename_i ctx hctx
  split
  · exact hsame
  rw [ignoreError_snd]
  cases a with
  | failure e => exact hsame
  | crash => exact hsame
  | success =>
      have hwf := h.contexts osAccountId ctx hctx
      have hinv : Inv max (d.setContext osAccountId (purgeGarbageIdFromAccountInfo ctx id)) :=
        (keeps_setContext h (hwf.purge hid)).inv
      refine ⟨hinv, fun v _ => ?_, fun v hv => Option.ext fun i => ?_⟩
      · apply isValidSubProfileExists_congr
        exact congrArg (fun m => m[v]?) (dirs_setContext d osAccountId osAccountId _)
      · dsimp only [updateOsAccountSubspaceInfo]
        rw [indexOf_eq_some_iff hinv, indexOf_eq_some_iff h, context_setContext, if_pos rfl, hctx]
        simp only [Option.some_inj, exists_eq_left', purgeGarbageIdFromAccountInfo,
          getElem?_eraseIndexOf hwf.injective]
        split
        · rename_i hi
          rw [hi]
          exact iff_of_false (by simp) fun he => hv (Option.some_inj.1 he).symm
        · exact Iff.rfl

end lookup

def holds : Switch → Bool
  | .resolveEnable _ _ | .resolveDisable _ _ _ | .sync _ _ _ _ _ | .rollback _ _ | .setForeground _ | .persist _
  | .release _ => true
  | _ => false

def target : Switch → Option Int
  | .resolveDisable subspaceId _ _ | .sync subspaceId _ _ _ _ | .setForeground subspaceId => some subspaceId
  | _ => none

def isSetForeground : Switch → Bool
  | .setForeground _ => true
  | _ => false

section invariant

variable (max : MaxCount) (osAccountId : Int)

structure Target (d : Disk) (subspaceId i : Int) : Prop where
  valid : isValidSubProfileExists d osAccountId subspaceId = true
  index : indexOf osAccountId d subspaceId = some i

def CallInv (s : State) : Switch → Prop
  | .resolveEnable _ fromSubspaceId => fromSubspaceId = s.runtimeForeground
  | .resolveDisable subspaceId fromSubspaceId enableAppIndex =>
      fromSubspaceId = s.runtimeForeground ∧ Target osAccountId s.disk subspaceId enableAppIndex
  | .sync subspaceId fromSubspaceId enableAppIndex disableAppIndex _ =>
      fromSubspaceId = s.runtimeForeground ∧ Target osAccountId s.disk subspaceId enableAppIndex ∧
        indexOf osAccountId s.disk s.runtimeForeground = some disableAppIndex
  | .rollback fromSubspaceId _ => fromSubspaceId = s.runtimeForeground
  | .setForeground subspaceId => ∃ i, Target osAccountId s.disk subspaceId i ∧ OnlyEnabled s.enabled i
  | .persist subspaceId => s.runtime = some subspaceId
  | _ => True

def RemovalInv (d : Disk) : Removal → Prop
  | .isValid _ => True
  | .checkForeground info | .deleteCred info | .save info =>
      (d osAccountId).dirs[info.subspaceId]? = some (some info)
  | .removeDir subspaceId | .updateContext subspaceId =>
      isValidSubProfileExists d osAccountId subspaceId = false ∧ subspaceId ≠ base osAccountId

def ForegroundEnabled (s : State) : Prop :=
  ∃ i, indexOf osAccountId s.disk s.runtimeForeground = some i ∧ OnlyEnabled s.enabled i

structure SwitchInv (s : State) : Prop where
  disk : Inv max s.disk
  valid : isValidSubProfileExists s.disk osAccountId s.runtimeForeground = true
  slot : ∀ (n : Nat) (c : Switch), s.calls[n]? = some c → holds c = true → s.switching = true
  unique : ∀ (n m : Nat) (c c' : Switch), s.calls[n]? = some c → s.calls[m]? = some c' → holds c = true →
    holds c' = true → n = m
  enabled : (∀ (n : Nat) (c : Switch), s.calls[n]? = some c → isSetForeground c = false) →
    ForegroundEnabled osAccountId s
  calls : ∀ (n : Nat) (c : Switch), s.calls[n]? = some c → CallInv osAccountId s c
  removal : ∀ r, s.removal = some r → RemovalInv osAccountId s.disk r

variable {max osAccountId} {s s' : State} {n : Nat} {c c' : Switch}

theorem callInv_of_not_holds (h : holds c = false) : CallInv osAccountId s c := by
  cases c <;> trivial

theorem isSetForeground_of_not_holds (h : holds c = false) : isSetForeground c = false := by
  cases c <;> trivial

theorem getElem?_set_cases {calls : List Switch} {m : Nat} {c'' : Switch} (h : (calls.set n c')[m]? = some c'') :
    m = n ∧ c'' = c' ∨ m ≠ n ∧ calls[m]? = some c'' := by
  rw [List.getElem?_set] at h
  split at h
  · rename_i he
    split at h
    · exact .inl ⟨he.symm, (Option.some_inj.1 h).symm⟩
    · cases h
  · rename_i he
    exact .inr ⟨Ne.symm he, h⟩

theorem SwitchInv.not_holds (h : SwitchInv max osAccountId s) (hc : s.calls[n]? = some c) (hholds : holds c = true)
    {m : Nat} {c'' : Switch} (hm : m ≠ n) (hc'' : s.calls[m]? = some c'') : holds c'' = false := by
  cases hother : holds c'' with
  | false => rfl
  | true => exact (hm (h.unique m n c'' c hc'' hc hother hholds)).elim

theorem SwitchInv.own (h : SwitchInv max osAccountId s) (hc : s.calls[n]? = some c) (hholds : holds c' = holds c)
    (hset : isSetForeground c = false) (hset' : isSetForeground c' = false) (hinv : CallInv osAccountId s c') :
    SwitchInv max osAccountId { s with calls := s.calls.set n c' } := by
  refine ⟨h.disk, h.valid, ?_, ?_, ?_, ?_, h.removal⟩
  · intro m c'' hm hh
    rcases getElem?_set_cases hm with ⟨_, rfl⟩ | ⟨_, hm⟩
    · exact h.slot n c hc (hholds ▸ hh)
    · exact h.slot m c'' hm hh
  · intro m k c₁ c₂ hm hk hh₁ hh₂
    rcases getElem?_set_cases hm with ⟨hmn, hm'⟩ | ⟨_, hm'⟩ <;>
      rcases getElem?_set_cases hk with ⟨hkn, hk'⟩ | ⟨_, hk'⟩
    · exact hmn.trans hkn.symm
    · exact (h.unique n k c c₂ hc hk' (by rw [← hholds, ← hm', hh₁]) hh₂).symm ▸ hmn
    · exact (h.unique m n c₁ c hm' hc hh₁ (by rw [← hholds, ← hk', hh₂])).trans hkn.symm
    · exact h.unique m k c₁ c₂ hm' hk' hh₁ hh₂
  · intro hall
    refine h.enabled fun m c'' hm => ?_
    by_cases he : m = n
    · subst he
      rw [hc] at hm
      cases hm
      exact hset
    · exact hall m c'' (by rw [List.getElem?_set, if_neg (Ne.symm he)]; exact hm)
  · intro m c'' hm
    rcases getElem?_set_cases hm with ⟨_, rfl⟩ | ⟨_, hm⟩
    · exact hinv
    · exact h.calls m c'' hm

theorem SwitchInv.alone (h : SwitchInv max osAccountId s) (hc : s.calls[n]? = some c)
    (hothers : ∀ (m : Nat) (c'' : Switch), m ≠ n → s.calls[m]? = some c'' → holds c'' = false)
    (hcalls : s'.calls = s.calls) (hdisk : s'.disk = s.disk) (hremoval : s'.removal = s.removal)
    (hvalid : isValidSubProfileExists s.disk osAccountId s'.runtimeForeground = true)
    (hslot : holds c' = true → s'.switching = true)
    (henabled : isSetForeground c' = false → ForegroundEnabled osAccountId s') (hinv : CallInv osAccountId s' c') :
    SwitchInv max osAccountId { s' with calls := s'.calls.set n c' } := by
  rw [hcalls]
  refine ⟨hdisk ▸ h.disk, ?_, ?_, ?_, ?_, ?_, ?_⟩
  · dsimp only
    rwa [hdisk]
  · intro m c'' hm hh
    rcases getElem?_set_cases hm with ⟨_, rfl⟩ | ⟨hne, hm⟩
    · exact hslot hh
    · rw [hothers m c'' hne hm] at hh
      cases hh
  · intro m k c₁ c₂ hm hk hh₁ hh₂
    rcases getElem?_set_cases hm with ⟨hmn, _⟩ | ⟨hne, hm'⟩
    · rcases getElem?_set_cases hk with ⟨hkn, _⟩ | ⟨hne, hk'⟩
      · exact hmn.trans hkn.symm
      · rw [hothers k c₂ hne hk'] at hh₂
        cases hh₂
    · rw [hothers m c₁ hne hm'] at hh₁
      cases hh₁
  · intro hall
    refine henabled (hall n c' ?_)
    dsimp only
    rw [List.getElem?_set_self (List.getElem?_eq_some_iff.1 hc).1]
  · intro m c'' hm
    rcases getElem?_set_cases hm with ⟨_, rfl⟩ | ⟨hne, hm⟩
    · exact hinv
    · exact callInv_of_not_holds (hothers m c'' hne hm)
  · intro r hr
    dsimp only at hr ⊢
    rw [hdisk]
    exact h.removal r (hremoval ▸ hr)

theorem SwitchInv.holder (h : SwitchInv max osAccountId s) (hc : s.calls[n]? = some c) (hholds : holds c = true)
    (hcalls : s'.calls = s.calls) (hdisk : s'.disk = s.disk) (hremoval : s'.removal = s.removal)
    (hvalid : isValidSubProfileExists s.disk osAccountId s'.runtimeForeground = true)
    (hslot : holds c' = true → s'.switching = true)
    (henabled : isSetForeground c' = false → ForegroundEnabled osAccountId s') (hinv : CallInv osAccountId s' c') :
    SwitchInv max osAccountId { s' with calls := s'.calls.set n c' } :=
  h.alone hc (fun _ _ hm hc'' => h.not_holds hc hholds hm hc'') hcalls hdisk hremoval hvalid hslot henabled hinv

/-- While a call holds the slot and is not about to record the new foreground, the
current one is enabled. -/
theorem SwitchInv.foregroundEnabled (h : SwitchInv max osAccountId s) (hc : s.calls[n]? = some c)
    (hholds : holds c = true) (hset : isSetForeground c = false) : ForegroundEnabled osAccountId s := by
  refine h.enabled fun m c'' hm => ?_
  by_cases he : m = n
  · subst he
    rw [hc] at hm
    cases hm
    exact hset
  · exact isSetForeground_of_not_holds (h.not_holds hc hholds he hm)

end invariant

section steps

variable (osAccountId : Int) (s : State)

/-- A value that was read before the slot was taken is still current when it is used,
what is brought to the foreground is valid, and only the first attempt succeeds. -/
def SafeSwitch (a : SwitchAnswer) : Switch → Prop
  | .setRuntime _ fgId => fgId = s.runtimeForeground
  | .acquire _ fromSubspaceId => s.switching = false → fromSubspaceId = s.runtimeForeground
  | .resolveEnable subspaceId _ => (indexOf osAccountId s.disk subspaceId).isSome = true →
      isValidSubProfileExists s.disk osAccountId subspaceId = true
  | .resolveDisable _ _ _ => a.readSubProfileContext = .ok ()
  | .sync _ _ _ _ i => a.batchSetApplicationEnabled = .ok () → i = 0
  | _ => True

def SafeRemoval (a : RemovalAnswer) : Removal → Prop
  | .save info => a.save = none → info.subspaceId ≠ s.runtimeForeground ∧
      ∀ c ∈ s.calls, target c ≠ some info.subspaceId
  | _ => True

def Safe : Event → Prop
  | .switch n a => ∀ c ∈ s.calls[n]?, SafeSwitch osAccountId s a c
  | .removal a => ∀ r ∈ s.removal, SafeRemoval s a r
  | _ => True

instance (a : SwitchAnswer) : (c : Switch) → Decidable (SafeSwitch osAccountId s a c)
  | .setRuntime _ fgId => inferInstanceAs (Decidable (fgId = s.runtimeForeground))
  | .acquire _ fromSubspaceId =>
      inferInstanceAs (Decidable (s.switching = false → fromSubspaceId = s.runtimeForeground))
  | .resolveEnable subspaceId _ => inferInstanceAs (Decidable ((indexOf osAccountId s.disk subspaceId).isSome = true →
      isValidSubProfileExists s.disk osAccountId subspaceId = true))
  | .resolveDisable _ _ _ => inferInstanceAs (Decidable (a.readSubProfileContext = .ok ()))
  | .sync _ _ _ _ i => inferInstanceAs (Decidable (a.batchSetApplicationEnabled = .ok () → i = 0))
  | .isValid _ | .readAccount _ | .readForeground _ | .findRuntime _ _ | .checkSession _ _ | .rollback _ _
  | .setForeground _ | .persist _ | .release _ | .done _ => .isTrue trivial

instance (a : RemovalAnswer) : (r : Removal) → Decidable (SafeRemoval s a r)
  | .save info => inferInstanceAs (Decidable (a.save = none → info.subspaceId ≠ s.runtimeForeground ∧
      ∀ c ∈ s.calls, target c ≠ some info.subspaceId))
  | .isValid _ | .checkForeground _ | .deleteCred _ | .removeDir _ | .updateContext _ => .isTrue trivial

instance : (e : Event) → Decidable (Safe osAccountId s e)
  | .switch n a => inferInstanceAs (Decidable (∀ c ∈ s.calls[n]?, SafeSwitch osAccountId s a c))
  | .removal a => inferInstanceAs (Decidable (∀ r ∈ s.removal, SafeRemoval s a r))
  | .switchSubProfile _ | .removeSubProfile _ => .isTrue trivial

variable {max : MaxCount} {osAccountId s} {s' : State} {n : Nat} {c c' : Switch}

variable {a : SwitchAnswer}

theorem resolveSubProfileIndexFromContext_eq_ok {d : Disk} {id i : Int}
    (h : resolveSubProfileIndexFromContext osAccountId a d id = .ok i) : indexOf osAccountId d id = some i := by
  unfold resolveSubProfileIndexFromContext at h
  split at h
  · cases h
  split at h
  · cases h
  · rename_i hi
    cases h
    exact hi

theorem resolveSubProfileIndexFromContext_of_some {d : Disk} {id i : Int}
    (ha : a.readSubProfileContext = .ok ()) (h : indexOf osAccountId d id = some i) :
    resolveSubProfileIndexFromContext osAccountId a d id = .ok i := by
  unfold resolveSubProfileIndexFromContext
  rw [ha]
  dsimp only
  rw [h]

theorem SwitchInv.setRuntime (h : SwitchInv max osAccountId s) :
    SwitchInv max osAccountId { s with runtime := some s.runtimeForeground } := by
  refine ⟨h.disk, h.valid, h.slot, h.unique, h.enabled, fun n c hc => ?_, h.removal⟩
  have hcall := h.calls n c hc
  cases c with
  | persist subspaceId =>
      have hruntime : s.runtime = some subspaceId := hcall
      have hfg : s.runtimeForeground = subspaceId := by
        unfold State.runtimeForeground
        rw [hruntime]
        rfl
      exact congrArg some hfg
  | _ => exact hcall

theorem switchInv_advance (h : SwitchInv max osAccountId s) (hc : s.calls[n]? = some c)
    (hsafe : SafeSwitch osAccountId s a c) (hstep : advance osAccountId a s c = (s', c')) :
    SwitchInv max osAccountId { s' with calls := s'.calls.set n c' } := by
  cases c with
  | isValid subspaceId =>
      dsimp only [advance] at hstep
      split at hstep
      · cases hstep
        exact h.own hc rfl rfl rfl trivial
      split at hstep <;> cases hstep <;> exact h.own hc rfl rfl rfl trivial
  | readAccount subspaceId =>
      dsimp only [advance] at hstep
      split at hstep <;> cases hstep <;> exact h.own hc rfl rfl rfl trivial
  | readForeground subspaceId =>
      dsimp only [advance] at hstep
      split at hstep <;> cases hstep <;> exact h.own hc rfl rfl rfl trivial
  | findRuntime subspaceId fgId =>
      dsimp only [advance] at hstep
      split at hstep <;> cases hstep <;> exact h.own hc rfl rfl rfl trivial
  | setRuntime subspaceId fgId =>
      have hfg : fgId = s.runtimeForeground := hsafe
      cases hstep
      rw [hfg]
      exact h.setRuntime.own hc rfl rfl rfl trivial
  | checkSession subspaceId fromSubspaceId =>
      dsimp only [advance] at hstep
      split at hstep
      · cases hstep
        exact h.own hc rfl rfl rfl trivial
      split at hstep <;> cases hstep <;> exact h.own hc rfl rfl rfl trivial
  | acquire subspaceId fromSubspaceId =>
      dsimp only [advance] at hstep
      split at hstep
      · cases hstep
        exact h.own hc rfl rfl rfl trivial
      rename_i hfree
      cases hstep
      have hothers : ∀ (m : Nat) (c'' : Switch), m ≠ n → s.calls[m]? = some c'' → holds c'' = false := by
        intro m c'' _ hm
        exact Bool.eq_false_iff.2 fun hholds => hfree (h.slot m c'' hm hholds)
      refine h.alone hc hothers rfl rfl rfl h.valid (fun _ => rfl) (fun _ => h.enabled fun m c'' hm => ?_)
        (hsafe (Bool.eq_false_iff.2 hfree))
      exact isSetForeground_of_not_holds (Bool.eq_false_iff.2 fun hholds => hfree (h.slot m c'' hm hholds))
  | resolveEnable subspaceId fromSubspaceId =>
      have hfrom := h.calls n _ hc
      dsimp only [advance] at hstep
      split at hstep <;> cases hstep
      · exact h.own hc rfl rfl rfl hfrom
      · rename_i hindex
        have hi := resolveSubProfileIndexFromContext_eq_ok hindex
        exact h.own hc rfl rfl rfl ⟨hfrom, hsafe (by rw [hi]; rfl), hi⟩
  | resolveDisable subspaceId fromSubspaceId enableAppIndex =>
      obtain ⟨hfrom, htarget⟩ := h.calls n _ hc
      obtain ⟨i, hi, _⟩ := h.foregroundEnabled hc rfl rfl
      rw [← hfrom] at hi
      dsimp only [advance] at hstep
      rw [resolveSubProfileIndexFromContext_of_some hsafe hi] at hstep
      cases hstep
      exact h.own hc rfl rfl rfl ⟨hfrom, htarget, hfrom ▸ hi⟩
  | sync subspaceId fromSubspaceId enableAppIndex disableAppIndex i =>
      obtain ⟨hfrom, htarget, hdisable⟩ := h.calls n _ hc
      dsimp only [advance] at hstep
      split at hstep
      · rename_i hok
        cases hstep
        obtain ⟨j, hj, honly⟩ := h.foregroundEnabled hc rfl rfl
        rw [hdisable, Option.some_inj] at hj
        subst hj
        rw [hsafe hok, if_pos rfl]
        refine h.holder hc rfl rfl rfl rfl h.valid (fun _ => h.slot n _ hc rfl) (fun hset => nomatch hset) ?_
        exact ⟨enableAppIndex, htarget,
          honly.batchSetApplicationEnabled (index_ne_headless h.disk htarget.valid htarget.index)⟩
      split at hstep <;> cases hstep
      · exact h.own hc rfl rfl rfl ⟨hfrom, htarget, hdisable⟩
      · exact h.own hc rfl rfl rfl hfrom
  | rollback fromSubspaceId e =>
      have hfrom : fromSubspaceId = s.runtimeForeground := h.calls n _ hc
      cases hstep
      rw [hfrom]
      exact h.holder hc rfl rfl rfl rfl h.valid (fun _ => h.slot n _ hc rfl)
        (fun _ => h.foregroundEnabled hc rfl rfl) trivial
  | setForeground subspaceId =>
      obtain ⟨i, htarget, honly⟩ := h.calls n _ hc
      cases hstep
      exact h.holder hc rfl rfl rfl rfl htarget.valid (fun _ => h.slot n _ hc rfl)
        (fun _ => ⟨i, htarget.index, honly⟩) rfl
  | persist subspaceId =>
      have hruntime : s.runtime = some subspaceId := h.calls n _ hc
      have henabled := h.foregroundEnabled hc rfl rfl
      dsimp only [advance] at hstep
      split at hstep <;> cases hstep
      · have hfg : State.runtimeForeground { s with foregroundSubProfileId := subspaceId } =
            s.runtimeForeground := by
          unfold State.runtimeForeground
          rw [hruntime]
          rfl
        refine h.holder hc rfl rfl rfl rfl (by rw [hfg]; exact h.valid) (fun _ => h.slot n _ hc rfl)
          (fun _ => ?_) trivial
        unfold ForegroundEnabled
        rw [hfg]
        exact henabled
      · exact h.own hc rfl rfl rfl trivial
  | release ret =>
      cases hstep
      exact h.holder hc rfl rfl rfl rfl h.valid (fun hholds => nomatch hholds)
        (fun _ => h.foregroundEnabled hc rfl rfl) trivial
  | done ret =>
      cases hstep
      exact h.own hc rfl rfl rfl trivial

theorem SwitchInv.setDisk (h : SwitchInv max osAccountId s) {id : Int} {d : Disk} {r : Option Removal}
    (hd : Elsewhere max osAccountId id s.disk d) (hfg : s.runtimeForeground ≠ id)
    (htargets : ∀ c ∈ s.calls, target c ≠ some id) (hr : ∀ r', r = some r' → RemovalInv osAccountId d r') :
    SwitchInv max osAccountId { s with disk := d, removal := r } := by
  have htarget : ∀ {v i : Int}, v ≠ id → Target osAccountId s.disk v i → Target osAccountId d v i :=
    fun hv ht => ⟨(hd.valid _ hv).trans ht.valid, (hd.index _ hv).trans ht.index⟩
  refine ⟨hd.inv, (hd.valid _ hfg).trans h.valid, h.slot, h.unique, fun hall => ?_, fun n c hc => ?_, hr⟩
  · obtain ⟨i, hi, honly⟩ := h.enabled hall
    exact ⟨i, (hd.index _ hfg).trans hi, honly⟩
  · have hne : ∀ v, target c = some v → v ≠ id := by
      rintro v hv rfl
      exact htargets c (List.mem_of_getElem? hc) hv
    have hcall := h.calls n c hc
    cases c with
    | resolveDisable v _ _ => exact ⟨hcall.1, htarget (hne v rfl) hcall.2⟩
    | sync v _ _ _ _ => exact ⟨hcall.1, htarget (hne v rfl) hcall.2.1, (hd.index _ hfg).trans hcall.2.2⟩
    | setForeground v =>
        obtain ⟨i, ht, honly⟩ := hcall
        exact ⟨i, htarget (hne v rfl) ht, honly⟩
    | _ => exact hcall

theorem SwitchInv.ne_of_invalid (h : SwitchInv max osAccountId s) {id : Int}
    (hid : isValidSubProfileExists s.disk osAccountId id = false) :
    s.runtimeForeground ≠ id ∧ ∀ c ∈ s.calls, target c ≠ some id := by
  have hne : ∀ v, isValidSubProfileExists s.disk osAccountId v = true → v ≠ id := by
    rintro v hv rfl
    rw [hid] at hv
    cases hv
  refine ⟨hne _ h.valid, fun c hc => ?_⟩
  obtain ⟨n, hn⟩ := List.mem_iff_getElem?.1 hc
  have hcall := h.calls n c hn
  cases c with
  | resolveDisable v _ _ => exact fun he => hne v hcall.2.valid (Option.some_inj.1 he)
  | sync v _ _ _ _ => exact fun he => hne v hcall.2.1.valid (Option.some_inj.1 he)
  | setForeground v =>
      obtain ⟨i, ht, _⟩ := hcall
      exact fun he => hne v ht.valid (Option.some_inj.1 he)
  | _ => nofun

theorem SwitchInv.setRemoval (h : SwitchInv max osAccountId s) {r : Option Removal}
    (hr : ∀ r', r = some r' → RemovalInv osAccountId s.disk r') : SwitchInv max osAccountId { s with removal := r } :=
  ⟨h.disk, h.valid, h.slot, h.unique, h.enabled, h.calls, hr⟩

theorem SwitchInv.endRemoval (h : SwitchInv max osAccountId s) : SwitchInv max osAccountId { s with removal := none } :=
  h.setRemoval fun _ hr => nomatch hr

theorem switchInv_advanceRemoval (h : SwitchInv max osAccountId s) {r : Removal} (hr : s.removal = some r)
    {a : RemovalAnswer} (hsafe : SafeRemoval s a r) : SwitchInv max osAccountId (advanceRemoval osAccountId a s r) := by
  have hrinv := h.removal r hr
  cases r with
  | isValid subspaceId =>
      dsimp only [advanceRemoval]
      split
      · exact h.endRemoval
      split
      · exact h.endRemoval
      rename_i info hload
      have hinfo := Option.join_eq_some_iff.1 hload
      have hid := ((h.disk.dirs osAccountId subspaceId _ hinfo).2 info rfl).2
      split
      · refine h.setRemoval fun r' hr' => ?_
        cases hr'
        show (s.disk osAccountId).dirs[info.subspaceId]? = some (some info)
        rw [hid]
        exact hinfo
      · exact h.endRemoval
  | checkForeground info =>
      dsimp only [advanceRemoval]
      split
      · exact h.endRemoval
      · refine h.setRemoval fun r' hr' => ?_
        cases hr'
        exact hrinv
  | deleteCred info =>
      dsimp only [advanceRemoval]
      split
      · exact h.endRemoval
      · refine h.setRemoval fun r' hr' => ?_
        cases hr'
        exact hrinv
  | save info =>
      have hinfo : (s.disk osAccountId).dirs[info.subspaceId]? = some (some info) := hrinv
      obtain ⟨hbase, hrecord⟩ := h.disk.dirs osAccountId info.subspaceId _ hinfo
      have huser := (hrecord info rfl).1
      have hmake : ∀ made, makeDir made { info with toBeRemoved := true } s.disk = s.disk :=
        fun made => makeDir_of_getElem? made (by rwa [huser])
      dsimp only [advanceRemoval]
      cases hsave : a.save with
      | some failure =>
          dsimp only [saveAnswer, saveSubProfileInfo]
          rw [hmake]
          exact h.endRemoval
      | none =>
          obtain ⟨hfg, htargets⟩ := hsafe hsave
          dsimp only [saveAnswer, saveSubProfileInfo]
          rw [huser]
          refine h.setDisk (elsewhere_setDir h.disk hbase ?_) hfg.symm htargets fun r' hr' => ?_
          · intro i hi
            cases hi
            exact ⟨rfl, rfl⟩
          · cases hr'
            refine ⟨?_, hbase⟩
            unfold isValidSubProfileExists loadSubProfileInfo
            rw [dirs_setDir, if_pos ⟨rfl, rfl⟩]
            exact Bool.and_false _
  | removeDir subspaceId =>
      obtain ⟨hinvalid, hbase⟩ := hrinv
      obtain ⟨hfg, htargets⟩ := h.ne_of_invalid hinvalid
      have helse := elsewhere_removeSubProfileDir h.disk (dirAnswer a.removeDir) subspaceId hbase
      dsimp only [advanceRemoval]
      split <;> rename_i hremove <;> rw [hremove] at helse
      · exact h.setDisk helse hfg htargets fun r' hr' => nomatch hr'
      · refine h.setDisk helse hfg htargets fun r' hr' => ?_
        cases hr'
        exact ⟨isValidSubProfileExists_removeSubProfileDir hremove hinvalid, hbase⟩
  | updateContext subspaceId =>
      obtain ⟨hinvalid, hbase⟩ := hrinv
      obtain ⟨hfg, htargets⟩ := h.ne_of_invalid hinvalid
      exact h.setDisk (elsewhere_updateContextAfterRemove h.disk (writeAnswer a.update) hbase) hfg htargets
        fun r' hr' => nomatch hr'

theorem SwitchInv.call (h : SwitchInv max osAccountId s) (subspaceId : Int) :
    SwitchInv max osAccountId { s with calls := s.calls ++ [.isValid subspaceId] } := by
  have hcases : ∀ {m : Nat} {c : Switch}, (s.calls ++ [.isValid subspaceId])[m]? = some c →
      s.calls[m]? = some c ∨ c = .isValid subspaceId := by
    intro m c hm
    rw [List.getElem?_append] at hm
    split at hm
    · exact .inl hm
    · exact .inr (List.mem_singleton.1 (List.mem_of_getElem? hm))
  have hold : ∀ {m : Nat} {c : Switch}, (s.calls ++ [.isValid subspaceId])[m]? = some c → holds c = true →
      s.calls[m]? = some c := by
    intro m c hm hh
    rcases hcases hm with hm | rfl
    · exact hm
    · cases hh
  refine ⟨h.disk, h.valid, fun m c hm hh => h.slot m c (hold hm hh) hh, ?_, fun hall => ?_,
    fun m c hm => ?_, h.removal⟩
  · exact fun m k c₁ c₂ hm hk hh₁ hh₂ => h.unique m k c₁ c₂ (hold hm hh₁) (hold hk hh₂) hh₁ hh₂
  · refine h.enabled fun m c hm => hall m c ?_
    dsimp only
    rw [List.getElem?_append_left (List.getElem?_eq_some_iff.1 hm).1]
    exact hm
  · rcases hcases hm with hm | rfl
    · exact h.calls m c hm
    · trivial

theorem switchInv_step (h : SwitchInv max osAccountId s) (e : Event) (hsafe : Safe osAccountId s e) :
    SwitchInv max osAccountId (step osAccountId s e) := by
  cases e with
  | switchSubProfile subspaceId => exact h.call subspaceId
  | switch n a =>
      dsimp only [step]
      split
      · exact h
      · rename_i c hc
        exact switchInv_advance h hc (hsafe c hc) rfl
  | removeSubProfile subspaceId =>
      dsimp only [step]
      split
      · refine h.setRemoval fun r hr => ?_
        cases hr
        trivial
      · exact h
  | removal a =>
      dsimp only [step]
      split
      · exact h
      · rename_i r hr
        exact switchInv_advanceRemoval h hr (hsafe r hr)

end steps

section runs

variable (max : MaxCount) (osAccountId : Int)

/-- The index of the foreground sub-profile is the only one that is enabled, and this
sub-profile is valid. -/
structure OneForeground (s : State) : Prop where
  enabled : ForegroundEnabled osAccountId s
  valid : isValidSubProfileExists s.disk osAccountId s.runtimeForeground = true

structure Initial (s : State) : Prop where
  disk : Inv max s.disk
  foreground : OneForeground osAccountId s
  switching : s.switching = false
  calls : s.calls = []
  removal : s.removal = none

variable {max osAccountId} {s : State}

theorem switchInv_initial (h : Initial max osAccountId s) : SwitchInv max osAccountId s := by
  have hcalls : ∀ {n : Nat} {c : Switch}, s.calls[n]? ≠ some c := by
    intro n c hc
    rw [h.calls] at hc
    cases hc
  refine ⟨h.disk, h.foreground.valid, fun _ _ hc => (hcalls hc).elim, fun _ _ _ _ hc => (hcalls hc).elim,
    fun _ => h.foreground.enabled, fun _ _ hc => (hcalls hc).elim, fun r hr => ?_⟩
  rw [h.removal] at hr
  cases hr

theorem SwitchInv.oneForeground (h : SwitchInv max osAccountId s) (hfree : s.switching = false) :
    OneForeground osAccountId s := by
  refine ⟨h.enabled fun n c hc => ?_, h.valid⟩
  refine isSetForeground_of_not_holds (Bool.eq_false_iff.2 fun hholds => ?_)
  rw [h.slot n c hc hholds] at hfree
  cases hfree

/-- Whenever no switch holds the slot, exactly the foreground sub-profile is enabled, if
no step uses what has become stale. -/
theorem one_foreground (hs : Initial max osAccountId s) {es : List Event}
    (hes : Machine.Meets (step osAccountId) (Safe osAccountId) s es)
    (hfree : (Machine.run (step osAccountId) s es).switching = false) :
    OneForeground osAccountId (Machine.run (step osAccountId) s es) := by
  have hstep : ∀ s e, SwitchInv max osAccountId s → Safe osAccountId s e →
      SwitchInv max osAccountId (step osAccountId s e) := fun _ e h he => switchInv_step h e he
  exact (Machine.run_invariant_of_meets hstep (switchInv_initial hs) hes).oneForeground hfree

end runs

section examples

def three : MaxCount := ⟨3, by decide, by decide⟩

def threeProfiles : State where
  disk := reached three [.createSubProfile succeeding 100, .createSubProfile succeeding 100,
    .createSubProfile succeeding 100]
  foregroundSubProfileId := 100001
  runtime := none
  enabled := {0, 1}
  switching := false
  calls := []
  removal := none

theorem initial_threeProfiles : Initial three 100 threeProfiles := by
  refine ⟨inv_reached three _, ⟨⟨1, by decide +kernel, fun j => ?_⟩, by decide +kernel⟩, rfl, rfl, rfl⟩
  show (j ∈ ({0, 1} : Finset Int) ∧ j ≠ 0) ↔ j = 1
  rw [Finset.mem_insert, Finset.mem_singleton]
  omega

def upToSync (n : Nat) : List Event := List.replicate 9 (.switch n {})

def quietly (n : Nat) (subspaceId : Int) : List Event :=
  .switchSubProfile subspaceId :: upToSync n ++ List.replicate 4 (.switch n {})

theorem one_foreground_second :
    OneForeground 100 (Machine.run (step 100) threeProfiles (quietly 0 100002)) :=
  one_foreground initial_threeProfiles (by decide +kernel) (by decide +kernel)

def retried : List Event :=
  .switchSubProfile 100002 :: upToSync 0 ++ [.switch 0 { batchSetApplicationEnabled := .error .ipcError },
    .switch 0 {}, .switch 0 {}, .switch 0 {}, .switch 0 {}]

def overlapping : List Event :=
  [.switchSubProfile 100002, .switchSubProfile 100003] ++ List.replicate 6 (.switch 0 {}) ++
    List.replicate 5 (.switch 1 {}) ++ List.replicate 7 (.switch 0 {}) ++ List.replicate 7 (.switch 1 {})

def removed : List Event :=
  .switchSubProfile 100002 :: upToSync 0 ++ [.switch 0 {}, .switch 0 {},
    .switch 0 { setOsAccountForegroundSubspaceId := .error .updateAccountError }, .switch 0 {},
    .removeSubProfile 100002] ++ List.replicate 6 (.removal {})

def isDone : Switch → Bool
  | .done _ => true
  | _ => false

def Idle (s : State) : Prop :=
  s.switching = false ∧ s.removal.isNone = true ∧ s.calls.all isDone = true

instance (s : State) : Decidable (Idle s) :=
  inferInstanceAs (Decidable (s.switching = false ∧ s.removal.isNone = true ∧ s.calls.all isDone = true))

theorem not_oneForeground_of_enabled {osAccountId i j : Int} {s : State}
    (hi : indexOf osAccountId s.disk s.runtimeForeground = some i) (hj : j ∈ s.enabled)
    (hne : j ≠ headlessSubProfileIndex ∧ j ≠ i) : ¬OneForeground osAccountId s := by
  rintro ⟨⟨k, hk, honly⟩, _⟩
  rw [hi, Option.some_inj] at hk
  subst hk
  exact hne.2 ((honly j).1 ⟨hj, hne.1⟩)

/-- A retry leaves the old index enabled, a stale value disables the wrong one, and the
runtime foreground can be removed. -/
theorem foreground_lost : ∃ s, Initial three 100 s ∧
    (Idle (Machine.run (step 100) s retried) ∧ ¬OneForeground 100 (Machine.run (step 100) s retried)) ∧
    (Idle (Machine.run (step 100) s overlapping) ∧ ¬OneForeground 100 (Machine.run (step 100) s overlapping)) ∧
    (Idle (Machine.run (step 100) s removed) ∧ ¬OneForeground 100 (Machine.run (step 100) s removed)) := by
  refine ⟨threeProfiles, initial_threeProfiles, ⟨by decide +kernel, ?_⟩, ⟨by decide +kernel, ?_⟩,
    ⟨by decide +kernel, fun h => ?_⟩⟩
  · exact not_oneForeground_of_enabled (i := 2) (j := 1) (by decide +kernel) (by decide +kernel) (by decide)
  · exact not_oneForeground_of_enabled (i := 3) (j := 2) (by decide +kernel) (by decide +kernel) (by decide)
  · have hvalid := h.valid
    revert hvalid
    decide +kernel

end examples

end OsAccount.SubProfileForeground
