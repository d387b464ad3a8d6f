import OsAccount.PrivilegeCacheRestart

namespace OsAccount.PrivilegeCacheInvariant

open Std OrderedMap PrivilegeTable PrivilegeRecords PrivilegeCache PrivilegeCacheParts PrivilegeCacheRemoval
  PrivilegeCacheRestart

structure Holder where
  pid : Int
  uid : Int
  processStartTime : Int
deriving DecidableEq, Repr

variable {γ : Type}

def holder (p : ProcessPrivilegeRecord γ) : Holder := ⟨p.pid, p.uid, p.processStartTime⟩

/-- A well-formed map whose records all stand in a given relation to the
process of their entry. -/
structure Valid (Q : Holder → PrivilegeRecord γ → Prop) (m : ProcessMap γ) : Prop where
  wellFormed : WellFormed m
  records {pid : Int} {p : ProcessPrivilegeRecord γ} {idx : Nat} {r : PrivilegeRecord γ} :
    m[pid]? = some p → p.privilegeRecordMap[idx]? = some r → Q (holder p) r

structure StoreValid (Q F : Holder → PrivilegeRecord γ → Prop) (s : CacheStore γ) : Prop where
  weaken (p : Holder) (r : PrivilegeRecord γ) : Q p r → F p r
  map : Valid Q s.processPrivilegeMap
  file {f : Snapshot γ} : s.file = some f → Valid F f.processRecords

variable {Q F : Holder → PrivilegeRecord γ → Prop} {m m' : ProcessMap γ} {s s' : CacheStore γ}

theorem WellFormed.valid (h : WellFormed m) : Valid (fun _ _ => True) m := ⟨h, fun _ _ => trivial⟩

theorem valid_empty : Valid Q (∅ : ProcessMap γ) := by
  refine ⟨⟨fun hp => ?_, fun hp => ?_, fun hp => ?_⟩, fun hp => ?_⟩ <;> simp at hp

theorem holder_of_isPart {p' p : ProcessPrivilegeRecord γ} (h : IsPart p' p) : holder p' = holder p := by
  simp only [holder, h.pid, h.uid, h.processStartTime]

theorem Valid.of_partOf (h : Valid Q m) (k : PartOf m' m) : Valid Q m' where
  wellFormed := h.wellFormed.of_partOf k
  records hp hr := by
    obtain ⟨q, hq, hpq⟩ := k hp
    rw [holder_of_isPart hpq]
    exact h.records hq (hpq.records hr)

theorem Valid.persisted (h : Valid Q m) : Valid Q (persisted m) := by
  refine ⟨⟨fun hp => ?_, fun hp hr => ?_, fun hp => ?_⟩, fun hp hr => ?_⟩ <;>
    obtain ⟨q, hq, rfl, hn⟩ := getElem?_persisted.mp hp
  · exact (h.wellFormed.pid hq : q.pid = _)
  · exact h.wellFormed.privilegeIdx hq hr
  · exact hn
  · exact (h.records hq hr : Q (holder q) _)

theorem Valid.mono {Q' : Holder → PrivilegeRecord γ → Prop} (h : Valid Q m) (hQ : ∀ p r, Q p r → Q' p r) :
    Valid Q' m := ⟨h.wellFormed, fun hp hr => hQ _ _ (h.records hp hr)⟩

theorem StoreValid.of_shrinks (h : StoreValid Q F s) (k : Shrinks s s') : StoreValid Q F s' where
  weaken := h.weaken
  map := h.map.of_partOf k.map
  file hf := by
    rcases k.file hf with hf | ⟨m, hm, hf⟩
    · exact h.file hf
    · rw [hf]
      exact ((h.map.of_partOf hm).mono h.weaken).persisted

theorem storeValid_clean (h : StoreValid Q F s) (u : Uptime) (o : PersistAnswer) :
    StoreValid Q F (cleanExpiredPrivilegesAndSaveToFile u o s).2 := h.of_shrinks (clean_shrinks u o s)

theorem storeValid_removeSingle (h : StoreValid Q F s) (u : Uptime) (o : PersistAnswer) (pid : Int) (idx : Nat) :
    StoreValid Q F (removeSingle u o pid idx s).2 :=
  h.of_shrinks (removeSingle_shrinks u o pid idx h.map.wellFormed)

theorem removeUser_shrinks (u : Uptime) (o : PersistAnswer) (localId : Int) (s : CacheStore γ) :
    Shrinks s (removeUser u o localId s) := by
  refine (Shrinks.of_map (partOf_sweep ?_ _)).trans (clean_shrinks u o _)
  intro pid p p' hp'
  rw [Option.ite_none_left_eq_some, Option.some.injEq] at hp'
  rw [hp'.2]
  exact .refl p'

theorem removeProcess_shrinks (u : Uptime) (o : PersistAnswer) (pid : Int) (s : CacheStore γ) :
    Shrinks s (removeProcess u o pid s) := by
  unfold removeProcess
  split
  · exact .refl s
  · exact (Shrinks.of_map (partOf_erase _ pid)).trans (clean_shrinks u o _)

theorem valid_restart (h : StoreValid Q F s) (e : LoadAnswer) : Valid F (restart e s).processPrivilegeMap := by
  cases hf : s.file with
  | none =>
      have hempty : (restart e s).processPrivilegeMap = ∅ := by
        apply ExtTreeMap.ext_getElem?
        intro pid
        rw [ExtTreeMap.getElem?_empty]
        refine Option.eq_none_iff_forall_ne_some.mpr fun p hp => ?_
        obtain ⟨-, f, -, hf', -⟩ := getElem?_restart.mp hp
        rw [hf] at hf'
        cases hf'
      rw [hempty]
      exact valid_empty
  | some f => exact (h.file hf).of_partOf (partOf_restart hf)

theorem storeValid_restart (h : StoreValid Q Q s) (e : LoadAnswer) : StoreValid Q Q (restart e s) :=
  ⟨h.weaken, valid_restart h e, fun hf => h.file (restart_file hf)⟩

section insertion

variable {e : ProcessPrivilegeRecord.CreateAnswer} {callerInfo : AuthenCallerInfo} {p : ProcessPrivilegeRecord γ}

/-- The entry a call works on is the stored one, or a new one made from the
caller's data and the start time the system answers. -/
theorem findOrCreate_ok (h : findOrCreate e callerInfo m = .ok p) :
    m[callerInfo.pid]? = some p ∨
    (m[callerInfo.pid]? = none ∧ p.pid = callerInfo.pid ∧ p.uid = callerInfo.uid ∧
      e.startTime = .ok p.processStartTime ∧ callerInfo.remoteObject = some p.remoteObject ∧
      p.remoteObject ≠ none ∧ p.privilegeRecordMap = ∅) := by
  unfold findOrCreate at h
  split at h
  · rename_i hnone
    refine .inr ⟨hnone, ?_⟩
    unfold ProcessPrivilegeRecord.createEmpty at h
    split at h
    · cases h
    · cases h
    · rename_i remoteObject hro
      split at h
      · cases h
      · cases h
      · rename_i startTime hst hfd
        split at h
        · cases h
          exact ⟨rfl, rfl, hst, hro, by simp, rfl⟩
        · cases h
  · rename_i p' hp
    cases h
    exact .inl hp

theorem findOrCreate_pid (hwf : WellFormed m) (h : findOrCreate e callerInfo m = .ok p) :
    p.pid = callerInfo.pid := by
  rcases findOrCreate_ok h with hp | ⟨-, hpid, -⟩
  · exact hwf.pid hp
  · exact hpid

theorem valid_insert_setPrivilegeRecord (hv : Valid Q m) {pid : Int} (hpid : p.pid = pid)
    (hold : ∀ {idx : Nat} {r : PrivilegeRecord γ}, p.privilegeRecordMap[idx]? = some r →
      r.privilegeIdx = idx ∧ Q (holder p) r)
    {r : PrivilegeRecord γ} (hq : Q (holder p) r) :
    Valid Q (m.insert pid (p.setPrivilegeRecord r.privilegeIdx r)) := by
  have hnew : ∀ {idx : Nat} {r' : PrivilegeRecord γ},
      (p.setPrivilegeRecord r.privilegeIdx r).privilegeRecordMap[idx]? = some r' →
      r'.privilegeIdx = idx ∧ Q (holder p) r' := by
    intro idx r' hr'
    rw [setPrivilegeRecord_getElem?] at hr'
    split at hr'
    · rename_i hidx
      cases hr'
      exact ⟨hidx, hq⟩
    · exact hold hr'
  have hself : (p.setPrivilegeRecord r.privilegeIdx r).privilegeRecordMap[r.privilegeIdx]? = some r := by
    rw [setPrivilegeRecord_getElem?, if_pos rfl]
  refine ⟨⟨fun hp => ?_, fun hp hr => ?_, fun hp => ?_⟩, fun hp hr => ?_⟩ <;>
    rw [ExtTreeMap.getElem?_insert] at hp <;> split at hp
  · rename_i hk
    cases hp
    rw [LawfulEqCmp.compare_eq_iff_eq] at hk
    exact hpid.trans hk
  · exact hv.wellFormed.pid hp
  · cases hp
    exact (hnew hr).1
  · exact hv.wellFormed.privilegeIdx hp hr
  · cases hp
    exact getPrivilegeNum_ne_zero hself
  · exact hv.wellFormed.nonempty hp
  · cases hp
    exact (hnew hr).2
  · exact hv.records hp hr

theorem valid_insert_findOrCreate (hv : Valid Q m) (h : findOrCreate e callerInfo m = .ok p)
    {r : PrivilegeRecord γ} (hq : Q (holder p) r) :
    Valid Q (m.insert callerInfo.pid (p.setPrivilegeRecord r.privilegeIdx r)) := by
  refine valid_insert_setPrivilegeRecord hv (findOrCreate_pid hv.wellFormed h) (fun hr => ?_) hq
  rcases findOrCreate_ok h with hp | ⟨-, -, -, -, -, -, hempty⟩
  · exact ⟨hv.wellFormed.privilegeIdx hp hr, hv.records hp hr⟩
  · simp [hempty] at hr

end insertion

theorem StoreValid.setMap (h : StoreValid Q F s) (hm : Valid Q m) :
    StoreValid Q F { s with processPrivilegeMap := m } := ⟨h.weaken, hm, h.file⟩

variable {origin : γ}

theorem storeValid_addCache (h : StoreValid Q F s) {e : AddAnswer} {callerInfo : AuthenCallerInfo}
    (safeStartTime : Nat)
    (hq : ∀ p t, findOrCreate e.create callerInfo s.processPrivilegeMap = .ok p →
      Q (holder p) (ProcessPrivilegeRecord.timedRecord callerInfo.privilegeIdx t safeStartTime origin)) :
    StoreValid Q F (addCache e callerInfo safeStartTime origin s).2 := by
  unfold addCache
  split
  · exact h
  · rename_i p hp
    cases hu : e.uptime with
    | error ret => exact h
    | ok t =>
        exact storeValid_clean (h.setMap (valid_insert_findOrCreate h.map hp (hq p t hp))) _ _

theorem storeValid_prepareKernelAuthCache (h : StoreValid Q F s) {e : KernelAnswer}
    {callerInfo : AuthenCallerInfo}
    (hq : ∀ p, findOrCreate e.create callerInfo s.processPrivilegeMap = .ok p →
      Q (holder p) (unconfirmedRecord callerInfo.privilegeIdx origin)) :
    StoreValid Q F (prepareKernelAuthCache e callerInfo origin s).2 := by
  unfold prepareKernelAuthCache
  split
  · exact h
  · rename_i p hp
    have hsave := (h.setMap (valid_insert_findOrCreate h.map hp (hq p hp))).of_shrinks
      (toPersistFile_shrinks e.prepareSave (currTimeOrZero e.uptime) _)
    simp only
    split
    · rename_i s₁ hs₁
      rw [show s₁ = _ from (congrArg Prod.snd hs₁).symm]
      exact hsave
    · rename_i ret s₁ hs₁
      rw [show s₁ = _ from (congrArg Prod.snd hs₁).symm]
      exact storeValid_removeSingle hsave _ _ _ _

variable {pid : Int} {idx : Nat}

theorem valid_setAuthStatusForRecord (h : Valid Q m) {status : PrivilegeAuthStatus}
    (hq : ∀ p r, p.pid = pid → r.privilegeIdx = idx → Q p r → Q p { r with authStatus := status })
    (hm : setAuthStatusForRecord pid idx status m = .ok m') : Valid Q m' := by
  unfold setAuthStatusForRecord at hm
  split at hm
  · cases hm
  · rename_i p hp
    split at hm
    · cases hm
    · rename_i r hr
      cases hm
      obtain rfl : r.privilegeIdx = idx := h.wellFormed.privilegeIdx hp hr
      exact valid_insert_setPrivilegeRecord (r := { r with authStatus := status }) h (h.wellFormed.pid hp)
        (fun hr' => ⟨h.wellFormed.privilegeIdx hp hr', h.records hp hr'⟩)
        (hq _ _ (h.wellFormed.pid hp) rfl (h.records hp hr))

theorem storeValid_confirmKernelAuthCache (h : StoreValid Q F s) {o : PersistAnswer} {t : Int}
    (hq : ∀ p r status, p.pid = pid → r.privilegeIdx = idx → Q p r → status ≠ .notRequired →
      Q p { r with authStatus := status }) :
    StoreValid Q F (confirmKernelAuthCache o t pid idx s) := by
  unfold confirmKernelAuthCache
  split
  · exact h
  · rename_i m hm
    have hauth : Valid Q m :=
      valid_setAuthStatusForRecord h.map (fun p r hp hr hpr => hq p r _ hp hr hpr (by simp)) hm
    have hsave := (h.setMap hauth).of_shrinks (toPersistFile_shrinks o t _)
    split
    · rename_i s₁ hs₁
      rw [show s₁ = _ from (congrArg Prod.snd hs₁).symm]
      exact hsave
    · rename_i ret s₁ hs₁
      obtain rfl : _ = s₁ := congrArg Prod.snd hs₁
      split
      · exact hsave
      · rename_i m' hm'
        exact hsave.setMap
          (valid_setAuthStatusForRecord hsave.map (fun p r hp hr hpr => hq p r _ hp hr hpr (by simp)) hm')

theorem storeValid_addCacheAndNotifyKernel {Q' F' : Holder → PrivilegeRecord γ → Prop} (h : StoreValid Q F s)
    {e : KernelAnswer} {callerInfo : AuthenCallerInfo}
    (hprepare : ∀ p, findOrCreate e.create callerInfo s.processPrivilegeMap = .ok p →
      Q (holder p) (unconfirmedRecord callerInfo.privilegeIdx origin))
    (hwiden : ∀ s, StoreValid Q F s → StoreValid Q' F' s)
    (hconfirm : (prepareKernelAuthCache e callerInfo origin s).1 = .ok () → e.setKernelAuthorization = .ok () →
      ∀ p r status, p.pid = callerInfo.pid → r.privilegeIdx = callerInfo.privilegeIdx → Q' p r →
      status ≠ .notRequired → Q' p { r with authStatus := status }) :
    StoreValid Q' F' (addCacheAndNotifyKernel e callerInfo origin s).2 := by
  have hp := storeValid_prepareKernelAuthCache h hprepare
  unfold addCacheAndNotifyKernel
  split
  · rename_i ret s₁ hs₁
    obtain rfl : _ = s₁ := congrArg Prod.snd hs₁
    exact hwiden _ hp
  · rename_i s₁ hs₁
    obtain rfl : _ = s₁ := congrArg Prod.snd hs₁
    split
    · rename_i hset
      exact storeValid_confirmKernelAuthCache (hwiden _ hp) (hconfirm (congrArg Prod.fst hs₁) hset)
    · exact hwiden _ (storeValid_removeSingle hp _ _ _ _)

theorem storeValid_hasKernelAuthorization {Q' F' : Holder → PrivilegeRecord γ → Prop} (h : StoreValid Q F s)
    {e : QueryAnswer} (hwiden : ∀ s, StoreValid Q F s → StoreValid Q' F' s)
    (hconfirm : ∀ r₀, recordOf s.processPrivilegeMap pid idx = some r₀ → r₀.authStatus = .unconfirmed →
      e.queryKernelAuthorization = .ok true → ∀ p r status, p.pid = pid → r.privilegeIdx = idx →
      Q' p r → status ≠ .notRequired → Q' p { r with authStatus := status }) :
    StoreValid Q' F' (hasKernelAuthorization e pid idx s).2 := by
  unfold hasKernelAuthorization
  split
  · exact hwiden s h
  · rename_i p hp
    split
    · exact hwiden s h
    · rename_i r hr
      split
      · exact hwiden s h
      · exact hwiden s h
      · exact hwiden s h
      · rename_i hstatus hquery
        unfold updateToAuthorized
        split
        · exact hwiden s h
        · exact storeValid_confirmKernelAuthCache (hwiden s h)
            (hconfirm r (recordOf_eq_some.mpr ⟨p, hp, hr⟩) hstatus hquery)
      · exact hwiden _ (storeValid_removeSingle h _ _ _ _)

end OsAccount.PrivilegeCacheInvariant
