import OsAccount.Machine
import OsAccount.PrivilegeCacheInvariant

namespace OsAccount.KernelGrants

open Std OrderedMap PrivilegeTable PrivilegeRecords PrivilegeCache PrivilegeCacheParts PrivilegeCacheRemoval
  PrivilegeCacheRestart PrivilegeCacheInvariant Machine

structure KernelPrivilege where
  idx : Nat
  permission : String
  backed : kernelPermissionOf idx = some permission
deriving DecidableEq

/-- The cache with its file, and the confirmations the kernel has given so far:
a grant that was set, or a query that was answered with yes. -/
structure State where
  store : CacheStore Unit
  confirmed : List (Int × String)

inductive Op
  | addCacheAndNotifyKernel (e : KernelAnswer) (pid uid : Int) (remoteObject : Option (Option RemoteObject))
      (k : KernelPrivilege)
  | hasKernelAuthorization (e : QueryAnswer) (pid : Int) (k : KernelPrivilege)
  | checkPrivilege (e : CheckAnswer) (pid : Int) (k : KernelPrivilege)
  | removeSingle (u : Uptime) (o : PersistAnswer) (pid : Int) (idx : Nat)
  | removeUser (u : Uptime) (o : PersistAnswer) (localId : Int)
  | removeProcess (u : Uptime) (o : PersistAnswer) (pid : Int)
  | cleanExpired (u : Uptime) (o : PersistAnswer)
  | restart (e : LoadAnswer)

def confirmedBySet (e : KernelAnswer) (callerInfo : AuthenCallerInfo) (k : KernelPrivilege) (s : State) :
    List (Int × String) :=
  match (prepareKernelAuthCache e callerInfo () s.store).1, e.setKernelAuthorization with
  | .ok (), .ok () => (callerInfo.pid, k.permission) :: s.confirmed
  | _, _ => s.confirmed

def confirmedByQuery (e : QueryAnswer) (pid : Int) (k : KernelPrivilege) (s : State) : List (Int × String) :=
  match recordOf s.store.processPrivilegeMap pid k.idx, e.queryKernelAuthorization with
  | some r, .ok true => if r.authStatus = .unconfirmed then (pid, k.permission) :: s.confirmed else s.confirmed
  | _, _ => s.confirmed

def step (s : State) : Op → State
  | .addCacheAndNotifyKernel e pid uid remoteObject k =>
      let callerInfo := ⟨pid, uid, k.idx, remoteObject⟩
      ⟨(addCacheAndNotifyKernel e callerInfo () s.store).2, confirmedBySet e callerInfo k s⟩
  | .hasKernelAuthorization e pid k =>
      ⟨(hasKernelAuthorization e pid k.idx s.store).2, confirmedByQuery e pid k s⟩
  | .checkPrivilege _ _ _ => s
  | .removeSingle u o pid idx => { s with store := (removeSingle u o pid idx s.store).2 }
  | .removeUser u o localId => { s with store := removeUser u o localId s.store }
  | .removeProcess u o pid => { s with store := removeProcess u o pid s.store }
  | .cleanExpired u o => { s with store := (cleanExpiredPrivilegesAndSaveToFile u o s.store).2 }
  | .restart e => { s with store := restart e s.store }

def initial : State := ⟨⟨∅, none⟩, []⟩

def Confirmed (log : List (Int × String)) (pid : Int) (idx : Nat) : Prop :=
  ∃ permission, kernelPermissionOf idx = some permission ∧ (pid, permission) ∈ log

def Backed (log : List (Int × String)) (p : Holder) (r : PrivilegeRecord Unit) : Prop :=
  r.authStatus ≠ .notRequired ∧ (r.authStatus = .authorized → Confirmed log p.pid r.privilegeIdx)

def Inv (s : State) : Prop := StoreValid (Backed s.confirmed) (Backed s.confirmed) s.store

variable {r : PrivilegeRecord Unit}

theorem Backed.mono {log log' : List (Int × String)} (h : ∀ c ∈ log, c ∈ log') {p : Holder}
    (hr : Backed log p r) : Backed log' p r := by
  refine ⟨hr.1, fun ha => ?_⟩
  obtain ⟨permission, hk, hmem⟩ := hr.2 ha
  exact ⟨permission, hk, h _ hmem⟩

theorem storeValid_widen {log log' : List (Int × String)} (h : ∀ c ∈ log, c ∈ log') (s : CacheStore Unit)
    (hs : StoreValid (Backed log) (Backed log) s) : StoreValid (Backed log') (Backed log') s :=
  ⟨fun _ _ => id, hs.map.mono fun _ _ => Backed.mono h, fun hf => (hs.file hf).mono fun _ _ => Backed.mono h⟩

variable {pid : Int}

theorem Backed.setStatus {log : List (Int × String)} {p : Holder}
    {status : PrivilegeAuthStatus} {k : KernelPrivilege} (hp : p.pid = pid)
    (hr : r.privilegeIdx = k.idx) (hs : status ≠ .notRequired) :
    Backed ((pid, k.permission) :: log) p { r with authStatus := status } := by
  refine ⟨hs, fun _ => ⟨k.permission, ?_, ?_⟩⟩
  · rw [hr]
    exact k.backed
  · rw [hp]
    exact List.mem_cons_self

theorem backed_unconfirmedRecord (log : List (Int × String)) (p : Holder) (idx : Nat) :
    Backed log p (unconfirmedRecord idx ()) :=
  ⟨by simp [unconfirmedRecord], by simp [unconfirmedRecord]⟩

theorem confirmedBySet_sub (e : KernelAnswer) (callerInfo : AuthenCallerInfo) (k : KernelPrivilege) (s : State) :
    ∀ c ∈ s.confirmed, c ∈ confirmedBySet e callerInfo k s := by
  intro c hc
  unfold confirmedBySet
  split
  · exact List.mem_cons_of_mem _ hc
  · exact hc

theorem confirmedByQuery_sub (e : QueryAnswer) (pid : Int) (k : KernelPrivilege) (s : State) :
    ∀ c ∈ s.confirmed, c ∈ confirmedByQuery e pid k s := by
  intro c hc
  unfold confirmedByQuery
  split
  · split
    · exact List.mem_cons_of_mem _ hc
    · exact hc
  · exact hc

theorem step_inv (s : State) (op : Op) (h : Inv s) : Inv (step s op) := by
  cases op with
  | addCacheAndNotifyKernel e pid uid remoteObject k =>
      refine storeValid_addCacheAndNotifyKernel h (fun p _ => backed_unconfirmedRecord _ _ _)
        (storeValid_widen (confirmedBySet_sub _ _ _ _)) ?_
      intro hprepare hset p r status hp hr hpr hs
      have hlog : (step s (.addCacheAndNotifyKernel e pid uid remoteObject k)).confirmed =
          (pid, k.permission) :: s.confirmed := by
        simp [step, confirmedBySet, hprepare, hset]
      rw [hlog]
      exact Backed.setStatus hp hr hs
  | hasKernelAuthorization e pid k =>
      refine storeValid_hasKernelAuthorization h (storeValid_widen (confirmedByQuery_sub _ _ _ _)) ?_
      intro r₀ hr₀ hstatus hquery p r status hp hr hpr hs
      have hlog : (step s (.hasKernelAuthorization e pid k)).confirmed =
          (pid, k.permission) :: s.confirmed := by
        simp [step, confirmedByQuery, hr₀, hquery, hstatus]
      rw [hlog]
      exact Backed.setStatus hp hr hs
  | checkPrivilege e pid k => exact h
  | removeSingle u o pid idx => exact storeValid_removeSingle h u o pid idx
  | removeUser u o localId => exact h.of_shrinks (removeUser_shrinks u o localId _)
  | removeProcess u o pid => exact h.of_shrinks (removeProcess_shrinks u o pid _)
  | cleanExpired u o => exact storeValid_clean h u o
  | restart e => exact storeValid_restart h e

theorem initial_inv : Inv initial := ⟨fun _ _ => id, valid_empty, fun hf => by cases hf⟩

theorem inv_run (ops : List Op) : Inv (run step initial ops) := run_invariant step_inv initial_inv ops

theorem confirmed_of_authorized {log : List (Int × String)} {m : ProcessMap Unit} (h : Valid (Backed log) m)
    {idx : Nat} (hr : recordOf m pid idx = some r)
    (ha : r.authStatus = .authorized) : Confirmed log pid idx := by
  obtain ⟨p, hp, hrp⟩ := recordOf_eq_some.mp hr
  have hc := (h.records hp hrp).2 ha
  rw [h.wellFormed.privilegeIdx hp hrp] at hc
  rw [← h.wellFormed.pid hp]
  exact hc

theorem confirmed_of_hasKernelAuthorization {s : State} (h : Inv s) {e : QueryAnswer}
    {k : KernelPrivilege} (hgrant : (hasKernelAuthorization e pid k.idx s.store).1 = .ok true) :
    Confirmed (confirmedByQuery e pid k s) pid k.idx := by
  unfold hasKernelAuthorization at hgrant
  split at hgrant
  · cases hgrant
  · rename_i p hp
    split at hgrant
    · cases hgrant
    · rename_i r hrp
      have hr : recordOf s.store.processPrivilegeMap pid k.idx = some r := recordOf_eq_some.mpr ⟨p, hp, hrp⟩
      split at hgrant
      · rename_i ha
        obtain ⟨permission, hk, hmem⟩ := confirmed_of_authorized h.map hr ha
        exact ⟨permission, hk, confirmedByQuery_sub e pid k s _ hmem⟩
      · cases hgrant
      · cases hgrant
      · rename_i hstatus hquery
        refine ⟨k.permission, k.backed, ?_⟩
        simp [confirmedByQuery, hr, hstatus, hquery]
      · cases hgrant

/-- A grant check that does not rest on a confirmation rests on the access
control list, which is read only when no record is stored. -/
theorem confirmed_or_acl_of_checkPrivilege {s : State} (h : Inv s) {e : CheckAnswer} {idx : Nat}
    {remain : Int} (hgrant : checkPrivilege e pid idx s.store.processPrivilegeMap = .ok remain) :
    Confirmed s.confirmed pid idx ∨
      recordOf s.store.processPrivilegeMap pid idx = none ∧ ∃ aclLevel, e.getAcl pid = .ok aclLevel ∧ 1 ≤ aclLevel := by
  have hacl : checkAcl e pid = .ok remain → ∃ aclLevel, e.getAcl pid = .ok aclLevel ∧ 1 ≤ aclLevel := by
    intro hok
    unfold checkAcl at hok
    split at hok
    · cases hok
    · rename_i aclLevel hget
      split at hok
      · rename_i hlevel
        exact ⟨aclLevel, hget, hlevel⟩
      · cases hok
  unfold checkPrivilege at hgrant
  split at hgrant
  · rename_i hp
    exact .inr ⟨by simp [recordOf, hp], hacl hgrant⟩
  · rename_i p hp
    split at hgrant
    · rename_i remain' hok
      obtain ⟨r, hr, hstatus⟩ := ProcessPrivilegeRecord.checkPrivilege_ok hok
      have hreq := (h.map.records hp hr).1
      refine .inl (confirmed_of_authorized h.map (recordOf_eq_some.mpr ⟨p, hp, hr⟩) ?_)
      cases hs : r.authStatus <;> simp_all
    · split at hgrant
      · cases hgrant
      · split at hgrant
        · rename_i hr
          exact .inr ⟨by rw [recordOf_of_getElem? hp]; exact hr, hacl hgrant⟩
        · rename_i r hr
          rw [if_pos (h.map.records hp hr).1] at hgrant
          cases hgrant

/-- Along every run an authorized record, in memory or in the file, is one the
kernel confirmed; a query reports a grant only after a confirmation, and so
does a check, unless nothing is stored and the access control list grants. -/
theorem kernel_grants_confirmed (ops : List Op) :
    let s := run step initial ops
    (∀ pid idx r, recordOf s.store.processPrivilegeMap pid idx = some r → r.authStatus = .authorized →
      Confirmed s.confirmed pid idx) ∧
    (∀ f pid idx r, s.store.file = some f → recordOf f.processRecords pid idx = some r →
      r.authStatus = .authorized → Confirmed s.confirmed pid idx) ∧
    (∀ e pid k, (hasKernelAuthorization e pid k.idx s.store).1 = .ok true →
      Confirmed (step s (.hasKernelAuthorization e pid k)).confirmed pid k.idx) ∧
    (∀ e pid (k : KernelPrivilege) remain,
      checkPrivilege e pid k.idx s.store.processPrivilegeMap = .ok remain →
      Confirmed s.confirmed pid k.idx ∨ recordOf s.store.processPrivilegeMap pid k.idx = none ∧
        ∃ aclLevel, e.getAcl pid = .ok aclLevel ∧ 1 ≤ aclLevel) := by
  have h := inv_run ops
  refine ⟨fun pid idx r hr ha => confirmed_of_authorized h.map hr ha,
    fun f pid idx r hf hr ha => confirmed_of_authorized (h.file hf) hr ha,
    fun e pid k hgrant => confirmed_of_hasKernelAuthorization h hgrant,
    fun e pid k remain hgrant => confirmed_or_acl_of_checkPrivilege h hgrant⟩

def aclAnswer : CheckAnswer := ⟨.ok 5000, fun _ _ => ⟨.ok (), 0, false⟩, fun _ => .ok 1⟩

def captureUsb : KernelPrivilege := ⟨10, "ohos.permission.kernel.USB_CAPTURE", by decide⟩

/-- Before anything happened, the check of a kernel-backed privilege grants it
to a process with access control level 1. -/
theorem checkPrivilege_grants_unconfirmed :
    checkPrivilege aclAnswer 7 captureUsb.idx (run step initial []).store.processPrivilegeMap = .ok (-1) ∧
      ¬Confirmed (run step initial []).confirmed 7 captureUsb.idx := by
  refine ⟨by decide, ?_⟩
  rintro ⟨permission, -, hmem⟩
  cases hmem

end OsAccount.KernelGrants
