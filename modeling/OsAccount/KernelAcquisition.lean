import OsAccount.PrivilegeCacheInvariant

namespace OsAccount.KernelAcquisition

open Std OrderedMap PrivilegeTable PrivilegeRecords PrivilegeCache PrivilegeCacheParts PrivilegeCacheRemoval
  PrivilegeCacheInvariant

/-- A failed acquisition leaves the map as it was, up to records that were due
for cleaning at the clock the clean-up read. -/
def Atomic (e : KernelAnswer) (callerInfo : AuthenCallerInfo) (s : CacheStore Unit) : Prop :=
  ∀ ret s', addCacheAndNotifyKernel e callerInfo () s = (.error ret, s') →
    UpTo (Expired e.removeUptime) s.processPrivilegeMap s'.processPrivilegeMap

/-- The removal that undoes the prepared record gets through at clock `t`: its
save works, or it has nothing left to save. -/
def Undone (u : Uptime) (o : PersistAnswer) (pid : Int) (idx : Nat) (m : ProcessMap Unit) (t : Int) : Prop :=
  u = .ok t ∧ (o.result = .ok () ∨ OthersExpired t pid idx m)

/-- The removal has nothing to lose, or it does not get through and the
prepared record is the one that was there. -/
def UndoRestores (u : Uptime) (o : PersistAnswer) (pid : Int) (idx : Nat) (m : ProcessMap Unit) : Prop :=
  (∃ t, Undone u o pid idx m t ∧ ∀ r, recordOf m pid idx = some r → r.needClean t = true) ∨
  ((∀ t, ¬Undone u o pid idx m t) ∧ recordOf m pid idx = some (unconfirmedRecord idx ()))

/-- The call stops before it stores anything, succeeds, or restores what it
overwrote. -/
def AtomicWhen (e : KernelAnswer) (callerInfo : AuthenCallerInfo) (s : CacheStore Unit) : Prop :=
  (∃ ret, findOrCreate e.create callerInfo s.processPrivilegeMap = .error ret) ∨
  (e.prepareSave.result = .ok () ∧ e.setKernelAuthorization = .ok ()) ∨
  UndoRestores e.removeUptime e.removeSave callerInfo.pid callerInfo.privilegeIdx s.processPrivilegeMap

section prepared

variable {e : ProcessPrivilegeRecord.CreateAnswer} {callerInfo : AuthenCallerInfo} {m : ProcessMap Unit}
  {p : ProcessPrivilegeRecord Unit}

def prepared (callerInfo : AuthenCallerInfo) (p : ProcessPrivilegeRecord Unit) (m : ProcessMap Unit) :
    ProcessMap Unit :=
  m.insert callerInfo.pid
    (p.setPrivilegeRecord callerInfo.privilegeIdx (unconfirmedRecord callerInfo.privilegeIdx ()))

theorem wellFormed_prepared (hwf : WellFormed m) (h : findOrCreate e callerInfo m = .ok p) :
    WellFormed (prepared callerInfo p m) :=
  (valid_insert_findOrCreate (WellFormed.valid hwf) h
    (r := unconfirmedRecord callerInfo.privilegeIdx ()) trivial).wellFormed

theorem recordOf_prepared (h : findOrCreate e callerInfo m = .ok p) (pid : Int) (idx : Nat) :
    recordOf (prepared callerInfo p m) pid idx =
      if callerInfo.pid = pid ∧ callerInfo.privilegeIdx = idx then
        some (unconfirmedRecord callerInfo.privilegeIdx ())
      else recordOf m pid idx := by
  have hold : p.privilegeRecordMap[idx]? = recordOf m callerInfo.pid idx := by
    rcases findOrCreate_ok h with hp | ⟨hp, -, -, -, -, -, hempty⟩
    · rw [recordOf_of_getElem? hp]
    · simp [recordOf, hp, hempty]
  rw [prepared, recordOf_insert]
  by_cases hpid : callerInfo.pid = pid
  · subst hpid
    simp only [if_true, true_and, setPrivilegeRecord_getElem?, hold]
  · simp [hpid]

theorem othersExpired_prepared (h : findOrCreate e callerInfo m = .ok p) (t : Int) :
    OthersExpired t callerInfo.pid callerInfo.privilegeIdx (prepared callerInfo p m) ↔
      OthersExpired t callerInfo.pid callerInfo.privilegeIdx m := by
  constructor <;> intro hall pid' idx' r hr hne <;> refine hall pid' idx' r ?_ hne
  · rw [recordOf_prepared h, if_neg hne, hr]
  · rw [recordOf_prepared h, if_neg hne] at hr
    exact hr

theorem prepared_getElem? :
    (prepared callerInfo p m)[callerInfo.pid]? =
      some (p.setPrivilegeRecord callerInfo.privilegeIdx (unconfirmedRecord callerInfo.privilegeIdx ())) := by
  simp [prepared]

theorem prepared_eq (h : findOrCreate e callerInfo m = .ok p)
    (hr : recordOf m callerInfo.pid callerInfo.privilegeIdx =
      some (unconfirmedRecord callerInfo.privilegeIdx ())) : prepared callerInfo p m = m := by
  rcases findOrCreate_ok h with hp | ⟨hp, -⟩
  · rw [recordOf_of_getElem? hp] at hr
    have hset : p.setPrivilegeRecord callerInfo.privilegeIdx
        (unconfirmedRecord callerInfo.privilegeIdx ()) = p := by
      rw [ProcessPrivilegeRecord.setPrivilegeRecord, insert_self _ _ _ hr]
    rw [prepared, hset, insert_self _ _ _ hp]
  · simp [recordOf, hp] at hr

def undone (callerInfo : AuthenCallerInfo) (p : ProcessPrivilegeRecord Unit) (m : ProcessMap Unit) :
    ProcessMap Unit :=
  withoutRecord (p.setPrivilegeRecord callerInfo.privilegeIdx (unconfirmedRecord callerInfo.privilegeIdx ()))
    callerInfo.pid callerInfo.privilegeIdx (prepared callerInfo p m)

theorem partOf_undone (h : findOrCreate e callerInfo m = .ok p) : PartOf (undone callerInfo p m) m := by
  have hremoved : ∀ (idx : Nat) r, ((p.setPrivilegeRecord callerInfo.privilegeIdx (unconfirmedRecord
      callerInfo.privilegeIdx ())).removePrivilege callerInfo.privilegeIdx).privilegeRecordMap[idx]? = some r →
      p.privilegeRecordMap[idx]? = some r := by
    intro idx r hr
    simp only [ProcessPrivilegeRecord.removePrivilege, ProcessPrivilegeRecord.setPrivilegeRecord,
      ExtTreeMap.getElem?_erase, ExtTreeMap.getElem?_insert] at hr
    split at hr
    · cases hr
    · exact hr
  intro pid q hq
  unfold undone withoutRecord prepared at hq
  by_cases hpid : callerInfo.pid = pid
  · subst hpid
    split at hq
    · simp at hq
    · rename_i hn
      simp only [ExtTreeMap.getElem?_insert_self, Option.some.injEq] at hq
      subst hq
      rcases findOrCreate_ok h with hp | ⟨-, -, -, -, -, -, hempty⟩
      · exact ⟨p, hp, rfl, rfl, rfl, rfl, hremoved _ _, fun _ => hn⟩
      · -- a new entry holds nothing but the prepared record
        refine absurd ?_ hn
        rw [ProcessPrivilegeRecord.getPrivilegeNum_eq_zero]
        refine fun idx => Option.eq_none_iff_forall_ne_some.mpr fun r hr => ?_
        have := hremoved idx r hr
        simp [hempty] at this
  · refine ⟨q, ?_, .refl q⟩
    split at hq <;>
      simpa [ExtTreeMap.getElem?_erase, ExtTreeMap.getElem?_insert, hpid] using hq

theorem recordOf_cleanExpired_undone (h : findOrCreate e callerInfo m = .ok p) {t pid : Int} {idx : Nat}
    {r : PrivilegeRecord Unit} :
    recordOf (cleanExpired t (undone callerInfo p m)) pid idx = some r ↔
      ¬(callerInfo.pid = pid ∧ callerInfo.privilegeIdx = idx) ∧ recordOf m pid idx = some r ∧
        r.needClean t = false := by
  rw [undone, recordOf_cleanExpired, recordOf_withoutRecord prepared_getElem?, recordOf_prepared h]
  by_cases hk : callerInfo.pid = pid ∧ callerInfo.privilegeIdx = idx
  · simp [hk]
  · simp [hk]

theorem upTo_iff_of_not_undone (h : findOrCreate e callerInfo m = .ok p) {u : Uptime} {o : PersistAnswer}
    (hnot : ∀ t, ¬Undone u o callerInfo.pid callerInfo.privilegeIdx m t) {m' : ProcessMap Unit}
    (hup : UpTo (Expired u) (prepared callerInfo p m) m')
    (hr : recordOf m' callerInfo.pid callerInfo.privilegeIdx = some (unconfirmedRecord callerInfo.privilegeIdx ())) :
    UpTo (Expired u) m m' ↔ UndoRestores u o callerInfo.pid callerInfo.privilegeIdx m := by
  constructor
  · exact fun hm => .inr ⟨hnot, recordOf_of_partOf hm.part hr⟩
  · rintro (⟨t, hundone, -⟩ | ⟨-, hprior⟩)
    · exact absurd hundone (hnot t)
    · rw [prepared_eq h hprior] at hup
      exact hup

theorem upTo_iff_of_undone (h : findOrCreate e callerInfo m = .ok p) {t : Int} {o : PersistAnswer}
    (hundone : Undone (.ok t) o callerInfo.pid callerInfo.privilegeIdx m t) :
    UpTo (Expired (.ok t)) m (cleanExpired t (undone callerInfo p m)) ↔
      UndoRestores (.ok t) o callerInfo.pid callerInfo.privilegeIdx m := by
  constructor
  · refine fun hm => .inl ⟨t, hundone, fun r hr => ?_⟩
    by_contra hn
    have hkept := hm.kept hr (by rintro ⟨t', ht', hc⟩; cases ht'; exact hn hc)
    exact ((recordOf_cleanExpired_undone h).mp hkept).1 ⟨rfl, rfl⟩
  · rintro (⟨t', ⟨ht', -⟩, hprior⟩ | ⟨hnot, -⟩)
    · cases ht'
      refine ⟨(partOf_cleanExpired t _).trans (partOf_undone h), (upTo_cleanExpired t _).nonempty, ?_⟩
      intro pid idx r hr hn
      have hn' : r.needClean t = false := by
        by_contra hc
        exact hn ⟨t, rfl, by simpa using hc⟩
      refine (recordOf_cleanExpired_undone h).mpr ⟨?_, hr, hn'⟩
      rintro ⟨rfl, rfl⟩
      rw [hprior r hr] at hn'
      cases hn'
    · exact absurd hundone (hnot t)

theorem removeSingle_prepared_iff (hwf : WellFormed m) (h : findOrCreate e callerInfo m = .ok p) (u : Uptime)
    (o : PersistAnswer) (file : Option (Snapshot Unit)) {ret : Ret} {s' : CacheStore Unit}
    (hcall : removeSingle u o callerInfo.pid callerInfo.privilegeIdx ⟨prepared callerInfo p m, file⟩ =
      (ret, s')) :
    UpTo (Expired u) m s'.processPrivilegeMap ↔ UndoRestores u o callerInfo.pid callerInfo.privilegeIdx m := by
  have hself : recordOf (prepared callerInfo p m) callerInfo.pid callerInfo.privilegeIdx =
      some (unconfirmedRecord callerInfo.privilegeIdx ()) := by
    rw [recordOf_prepared h, if_pos ⟨rfl, rfl⟩]
  obtain ⟨hp, -⟩ | ⟨q, hq, hcases⟩ := removeSingle_cases (wellFormed_prepared hwf h) hcall
  · rw [prepared_getElem?] at hp
    cases hp
  · rw [prepared_getElem?, Option.some.injEq] at hq
    subst hq
    obtain ⟨ret', hu, -, rfl⟩ | ⟨t, rfl, -, hsave⟩ | ⟨t, ret', rfl, ho, -, -, hne, hup, hr⟩ := hcases
    · -- the clock cannot be read
      refine upTo_iff_of_not_undone h ?_ (.of_wellFormed _ (wellFormed_prepared hwf h)) hself
      rintro t ⟨hu', -⟩
      rw [hu] at hu'
      cases hu'
    · -- the removal is saved
      obtain ⟨hmap, hfile⟩ := toPersistFile_ok hsave
      rw [hmap]
      refine upTo_iff_of_undone h ⟨rfl, ?_⟩
      rcases hfile with ⟨hempty, -⟩ | ⟨-, ho, -⟩
      · rw [isEmpty_clean_withoutRecord prepared_getElem?, othersExpired_prepared h] at hempty
        exact .inr hempty
      · exact .inl ho
    · -- the save fails and the record is put back
      refine upTo_iff_of_not_undone h ?_ ?_ (hr.trans hself)
      · rintro t' ⟨ht', ho' | hothers⟩
        · rw [ho] at ho'
          cases ho'
        · cases ht'
          rw [← othersExpired_prepared h, ← isEmpty_clean_withoutRecord prepared_getElem?, hne] at hothers
          cases hothers
      · exact ⟨hup.part, hup.nonempty, fun hr' hn => hup.kept hr' fun hc => hn ⟨t, rfl, hc⟩⟩

end prepared

/-- A failed acquisition is undone exactly when the removal it ends with
restores the record it has overwritten. -/
theorem addCacheAndNotifyKernel_atomic_iff (e : KernelAnswer) (callerInfo : AuthenCallerInfo)
    (s : CacheStore Unit) (hwf : WellFormed s.processPrivilegeMap) :
    Atomic e callerInfo s ↔ AtomicWhen e callerInfo s := by
  unfold Atomic AtomicWhen addCacheAndNotifyKernel prepareKernelAuthCache
  cases hp : findOrCreate e.create callerInfo s.processPrivilegeMap with
  | error ret =>
      simp only [Prod.mk.injEq, Except.error.injEq, exists_eq', true_or, iff_true]
      rintro ret' s' ⟨-, rfl⟩
      exact .of_wellFormed _ hwf
  | ok p =>
      have hne : (prepared callerInfo p s.processPrivilegeMap).isEmpty = false := by
        simp [prepared]
      have hundo := fun file => removeSingle_prepared_iff hwf hp e.removeUptime e.removeSave file rfl
      unfold prepared at hne hundo
      simp only [toPersistFile, hne, Bool.false_eq_true, if_false, reduceCtorEq, exists_false, false_or]
      cases ho : e.prepareSave.result with
      | error ret =>
          simp only [Prod.mk.injEq, reduceCtorEq, false_and, false_or, Except.error.injEq]
          rw [← hundo s.file]
          exact ⟨fun h => h ret _ ⟨rfl, rfl⟩, fun h ret' s' hs' => hs'.2 ▸ h⟩
      | ok _ =>
          simp only [true_and]
          cases hset : e.setKernelAuthorization with
          | error ret =>
              simp only [Prod.mk.injEq, reduceCtorEq, false_or, Except.error.injEq]
              rw [← hundo (some ⟨currTimeOrZero e.uptime, _⟩)]
              exact ⟨fun h => h _ _ ⟨rfl, rfl⟩, fun h ret' s' hs' => hs'.2 ▸ h⟩
          | ok _ => simp

def authorizedStore : CacheStore Unit :=
  let m := oneRecord 7 20000000 500 (some ⟨7, 500⟩) ⟨10, int64Max, 0, .authorized, ()⟩
  ⟨m, some ⟨1000, persisted m⟩⟩

def kernelAnswer (ret : Ret) : KernelAnswer :=
  ⟨⟨.ok 500, .ok (), true⟩, .ok 2000, .allOk, ret, .allOk, .ok 2000, .allOk⟩

def acquireAgain : AuthenCallerInfo := ⟨7, 20000000, 10, some (some ⟨7, 500⟩)⟩

def acquireAnother : AuthenCallerInfo := { acquireAgain with privilegeIdx := 11 }

theorem addCacheAndNotifyKernel_atomic_refused :
    (addCacheAndNotifyKernel (kernelAnswer (.error (.sys 5))) acquireAnother () authorizedStore).1 =
        .error .kernelNotifyFailed ∧
      Atomic (kernelAnswer (.error (.sys 5))) acquireAnother authorizedStore := by
  have hnone : recordOf authorizedStore.processPrivilegeMap 7 11 = none := by decide
  refine ⟨by decide, (addCacheAndNotifyKernel_atomic_iff _ _ _ (wellFormed_oneRecord _ _ _ _ _)).mpr
    (.inr (.inr (.inl ⟨2000, ⟨rfl, .inl rfl⟩, fun r hr => ?_⟩)))⟩
  cases hr.symm.trans hnone

/-- A second acquisition that the kernel refuses loses the first one. -/
theorem addCacheAndNotifyKernel_loses_grant :
    WellFormed authorizedStore.processPrivilegeMap ∧
      ¬Atomic (kernelAnswer (.error (.sys 5))) acquireAgain authorizedStore := by
  refine ⟨wellFormed_oneRecord _ _ _ _ _, fun h => ?_⟩
  have hup := h .kernelNotifyFailed ⟨∅, none⟩ (by decide)
  have hprior : recordOf authorizedStore.processPrivilegeMap 7 10 =
      some ⟨10, int64Max, 0, .authorized, ()⟩ := by decide
  have hkept := hup.kept hprior (by rintro ⟨t, -, hc⟩; cases hc)
  revert hkept
  decide

end OsAccount.KernelAcquisition
