import OsAccount.PrivilegeCacheInvariant
import OsAccount.Machine

namespace OsAccount.PrivilegeCleanUp

open Std OrderedMap PrivilegeTable PrivilegeRecords PrivilegeCache PrivilegeCacheParts PrivilegeCacheRemoval
  PrivilegeCacheInvariant

variable {γ : Type}

/-- The calls with the readings of the clock that they take: the first one, and the one of
the clean-up and the save inside the call. -/
inductive Event (γ : Type)
  | addCache (create : ProcessPrivilegeRecord.CreateAnswer) (callerInfo : AuthenCallerInfo) (safeStartTime : Nat)
      (origin : γ) (time saveTime : Int)
  | checkPrivilege (pid : Int) (privilegeIdx : Nat) (time : Int)
  | hasKernelAuthorization (pid : Int) (privilegeIdx : Nat) (kernelPermission : String) (time saveTime : Int)
  | cleanExpired (time : Int)

namespace Event

def start : Event γ → Int
  | .addCache _ _ _ _ time _ => time
  | .checkPrivilege _ _ time => time
  | .hasKernelAuthorization _ _ _ time _ => time
  | .cleanExpired time => time

def finish : Event γ → Int
  | .addCache _ _ _ _ _ saveTime => saveTime
  | .checkPrivilege _ _ time => time
  | .hasKernelAuthorization _ _ _ _ saveTime => saveTime
  | .cleanExpired time => time

def isCleanUp : Event γ → Bool
  | .cleanExpired _ => true
  | _ => false

end Event

structure Environment where
  checkTimestampExpired : Int → Nat → Nat → PrivilegeRecord.TimestampAnswer
  getAcl : Int → Int → Except ErrCode Int
  queryKernelAuthorization : Int → Int → String → Except ErrCode Bool

def Environment.checkAnswer (env : Environment) (time : Int) : CheckAnswer :=
  ⟨.ok time, env.checkTimestampExpired time, env.getAcl time⟩

inductive Answer
  | added (ret : Ret)
  | checked (remainTime : Except ErrCode Int)
  | kernelAuthorized (isAuthorized : Except ErrCode Bool)
deriving DecidableEq

structure State (γ : Type) where
  now : Int
  store : CacheStore γ

section events

variable (env : Environment)

def serve (s : CacheStore γ) : Event γ → Option Answer × CacheStore γ
  | .addCache create callerInfo safeStartTime origin time saveTime =>
      let added := PrivilegeCache.addCache ⟨create, .ok time, .ok saveTime, .allOk⟩ callerInfo safeStartTime origin s
      (some (.added added.1), added.2)
  | .checkPrivilege pid privilegeIdx time =>
      (some (.checked (PrivilegeCache.checkPrivilege (env.checkAnswer time) pid privilegeIdx s.processPrivilegeMap)), s)
  | .hasKernelAuthorization pid privilegeIdx kernelPermission time saveTime =>
      let query := env.queryKernelAuthorization time pid kernelPermission
      let asked := PrivilegeCache.hasKernelAuthorization ⟨query, .ok saveTime, .allOk, .ok saveTime, .allOk⟩ pid
        privilegeIdx s
      (some (.kernelAuthorized asked.1), asked.2)
  | .cleanExpired time => (none, (cleanExpiredPrivilegesAndSaveToFile (.ok time) .allOk s).2)

def step (s : State γ) (e : Event γ) : State γ := ⟨e.finish, (serve env s.store e).2⟩

def out (s : State γ) (e : Event γ) : Option Answer := (serve env s.store e).1

def InOrder (s : State γ) (e : Event γ) : Prop := s.now ≤ e.start ∧ e.start ≤ e.finish

/-- An entry can be made for the process of a new privilege, unless there is none before the
call, or one with a record that is not due for cleaning. -/
def Creates (s : State γ) : Event γ → Prop
  | .addCache create callerInfo _ _ time _ =>
      (∃ p : ProcessPrivilegeRecord γ, ProcessPrivilegeRecord.createEmpty create callerInfo = .ok p) ∨
      s.store.processPrivilegeMap[callerInfo.pid]? = none ∨
      ∃ idx r, recordOf s.store.processPrivilegeMap callerInfo.pid idx = some r ∧ r.needClean time = false
  | _ => True

def LeavesTime (s : State γ) : Event γ → Prop
  | .checkPrivilege pid privilegeIdx time => ∀ p r remainTime,
      s.store.processPrivilegeMap[pid]? = some p → p.getPrivilegeRecord privilegeIdx = some r →
      r.authStatus = .notRequired →
      p.checkPrivilege (.ok time) (env.checkTimestampExpired time) privilegeIdx = .ok remainTime →
      out env s (.checkPrivilege pid privilegeIdx time) = some (.checked (.ok remainTime)) ∧ 0 < remainTime
  | _ => True

end events

section covers

structure CoversRecords (t : Int) (m m' : ProcessMap γ) : Prop where
  back {pid : Int} {idx : Nat} {r : PrivilegeRecord γ} : recordOf m' pid idx = some r → recordOf m pid idx = some r
  kept {pid : Int} {idx : Nat} {r : PrivilegeRecord γ} :
    recordOf m pid idx = some r → r.needClean t = false → recordOf m' pid idx = some r

structure Covers (t : Int) (m m' : ProcessMap γ) : Prop extends CoversRecords t m m' where
  absent {pid : Int} : m[pid]? = none → m'[pid]? = none

variable {m m' : ProcessMap γ} {t u : Int} {pid : Int} {idx : Nat} {r : PrivilegeRecord γ}

theorem needClean_of_le (h : r.needClean u = false) (htu : t ≤ u) : r.needClean t = false := by
  rw [← Bool.not_eq_true] at h ⊢
  exact fun ht => h (PrivilegeRecord.needClean_mono ht htu)

theorem Covers.refl (t : Int) (m : ProcessMap γ) : Covers t m m where
  back := id
  kept h _ := h
  absent := id

theorem CoversRecords.mono (h : CoversRecords t m m') (htu : t ≤ u) : CoversRecords u m m' where
  back := h.back
  kept hr hclean := h.kept hr (needClean_of_le hclean htu)

theorem Covers.mono (h : Covers t m m') (htu : t ≤ u) : Covers u m m' where
  toCoversRecords := h.toCoversRecords.mono htu
  absent := h.absent

theorem exists_recordOf_cleanExpired {p : ProcessPrivilegeRecord γ} (h : (cleanExpired t m)[pid]? = some p) :
    ∃ idx r, recordOf (cleanExpired t m) pid idx = some r := by
  obtain ⟨q, hq, hp, hnum⟩ := getElem?_cleanExpired.mp h
  rw [ne_eq, ProcessPrivilegeRecord.getPrivilegeNum_eq_zero, not_forall] at hnum
  obtain ⟨idx, hidx⟩ := hnum
  obtain ⟨r, hr⟩ := Option.ne_none_iff_exists'.mp hidx
  exact ⟨idx, r, recordOf_eq_some.mpr ⟨p, h, hr⟩⟩

theorem absent_of_back {m' : ProcessMap γ}
    (hback : ∀ idx r, recordOf m' pid idx = some r → ∃ r', recordOf m pid idx = some r')
    (hrecord : ∀ p, m'[pid]? = some p → ∃ idx r, recordOf m' pid idx = some r) (h : m[pid]? = none) :
    m'[pid]? = none := by
  by_contra hne
  obtain ⟨p, hp⟩ := Option.ne_none_iff_exists'.mp hne
  obtain ⟨idx, r, hr⟩ := hrecord p hp
  obtain ⟨r', hr'⟩ := hback idx r hr
  obtain ⟨q, hq, -⟩ := recordOf_eq_some.mp hr'
  rw [h] at hq
  cases hq

theorem CoversRecords.cleanExpired (h : CoversRecords t m m') (htu : t ≤ u) :
    Covers u (cleanExpired u m) (PrivilegeCache.cleanExpired u m') := by
  have hback : ∀ {pid : Int} {idx : Nat} {r : PrivilegeRecord γ},
      recordOf (PrivilegeCache.cleanExpired u m') pid idx = some r →
      recordOf (PrivilegeCache.cleanExpired u m) pid idx = some r := by
    intro pid idx r hr
    obtain ⟨hr, hclean⟩ := recordOf_cleanExpired.mp hr
    exact recordOf_cleanExpired.mpr ⟨h.back hr, hclean⟩
  refine ⟨⟨hback, fun hr _ => ?_⟩, fun hnone => ?_⟩
  · obtain ⟨hr, hclean⟩ := recordOf_cleanExpired.mp hr
    exact recordOf_cleanExpired.mpr ⟨h.kept hr (needClean_of_le hclean htu), hclean⟩
  · exact absent_of_back (fun _ r hr => ⟨r, hback hr⟩) (fun _ => exists_recordOf_cleanExpired) hnone

theorem Covers.cleanExpired_right (h : Covers t m m') (htu : t ≤ u) :
    Covers u m (PrivilegeCache.cleanExpired u m') where
  back hr := h.back (recordOf_cleanExpired.mp hr).1
  kept hr hclean := recordOf_cleanExpired.mpr ⟨h.kept hr (needClean_of_le hclean htu), hclean⟩
  absent hnone := absent_of_back (fun _ r hr => ⟨r, h.back (recordOf_cleanExpired.mp hr).1⟩)
    (fun _ => exists_recordOf_cleanExpired) hnone

theorem CoversRecords.changeAt (h : CoversRecords t m m') {n n' : ProcessMap γ} {x : Option (PrivilegeRecord γ)}
    (hn : ∀ pid' idx', recordOf n pid' idx' = if pid = pid' ∧ idx = idx' then x else recordOf m pid' idx')
    (hn' : ∀ pid' idx', recordOf n' pid' idx' = if pid = pid' ∧ idx = idx' then x else recordOf m' pid' idx') :
    CoversRecords t n n' := by
  constructor
  · intro pid' idx' r hr
    rw [hn'] at hr
    rw [hn]
    split at hr
    · rename_i hsame
      rwa [if_pos hsame]
    · rename_i hother
      rw [if_neg hother]
      exact h.back hr
  · intro pid' idx' r hr hclean
    rw [hn] at hr
    rw [hn']
    split at hr
    · rename_i hsame
      rwa [if_pos hsame]
    · rename_i hother
      rw [if_neg hother]
      exact h.kept hr hclean

theorem recordOf_setRecord {p : ProcessPrivilegeRecord γ}
    (hp : ∀ idx : Nat, p.privilegeRecordMap[idx]? = recordOf m pid idx) (idx : Nat) (r : PrivilegeRecord γ)
    (pid' : Int) (idx' : Nat) :
    recordOf (m.insert pid (p.setPrivilegeRecord idx r)) pid' idx' =
      if pid = pid' ∧ idx = idx' then some r else recordOf m pid' idx' := by
  rw [recordOf_insert, setPrivilegeRecord_getElem?, hp]
  by_cases hpid : pid = pid'
  · subst hpid
    simp
  · simp [hpid]

variable {p p' : ProcessPrivilegeRecord γ}

theorem CoversRecords.setRecord (h : CoversRecords t m m')
    (hp : ∀ idx : Nat, p.privilegeRecordMap[idx]? = recordOf m pid idx)
    (hp' : ∀ idx : Nat, p'.privilegeRecordMap[idx]? = recordOf m' pid idx) (idx : Nat) (r : PrivilegeRecord γ) :
    CoversRecords t (m.insert pid (p.setPrivilegeRecord idx r)) (m'.insert pid (p'.setPrivilegeRecord idx r)) :=
  h.changeAt (recordOf_setRecord hp idx r) (recordOf_setRecord hp' idx r)

theorem CoversRecords.withoutRecord (h : CoversRecords t m m')
    (hp : m[pid]? = some p) (hp' : m'[pid]? = some p') (idx : Nat) :
    CoversRecords t (withoutRecord p pid idx m) (PrivilegeCache.withoutRecord p' pid idx m') :=
  h.changeAt (recordOf_withoutRecord hp idx) (recordOf_withoutRecord hp' idx)

theorem CoversRecords.none (h : CoversRecords t m m') (hr : recordOf m pid idx = none) : recordOf m' pid idx = none := by
  rw [Option.eq_none_iff_forall_ne_some] at hr ⊢
  exact fun r hr' => hr r (h.back hr')

theorem absent_insert (h : ∀ {pid : Int}, m[pid]? = none → m'[pid]? = none)
    {pid' : Int} (hnone : (m.insert pid p)[pid']? = none) : (m'.insert pid p')[pid']? = none := by
  rw [getElem?_insert_eq] at hnone ⊢
  split at hnone
  · cases hnone
  · rename_i hpid
    rw [if_neg hpid]
    exact h hnone

end covers

section calls

variable {m m' : ProcessMap γ} {s s' : CacheStore γ} {t u : Int} {pid : Int} {idx : Nat}

@[simp]
theorem cleanAndSave_map (u : Int) (o : PersistAnswer) (s : CacheStore γ) :
    (cleanExpiredPrivilegesAndSaveToFile (.ok u) o s).2.processPrivilegeMap = cleanExpired u s.processPrivilegeMap :=
  toPersistFile_map ..

theorem toPersistFile_allOk (t : Int) (s : CacheStore γ) :
    ∃ s₁, toPersistFile .allOk t s = (.ok (), s₁) ∧ s₁.processPrivilegeMap = s.processPrivilegeMap := by
  unfold toPersistFile
  split
  · exact ⟨_, rfl, rfl⟩
  · exact ⟨_, rfl, rfl⟩

def answerOf (e : CheckAnswer) (t : Int) (pid : Int) (r : PrivilegeRecord γ) : Except ErrCode Int :=
  match r.authStatus with
  | .authorized => .ok int32Max
  | .unconfirmed => .error .privilegeDenied
  | .notRequired =>
      match r.getRemainTimeSec e.checkTimestampExpired t with
      | .error ret => if ret ≠ .privilegeDenied then .error ret else checkAcl e pid
      | .ok remainTime => if remainTime = 0 then checkAcl e pid else .ok remainTime

theorem checkPrivilege_eq (env : Environment) (t : Int) (pid : Int) (idx : Nat) (m : ProcessMap γ) :
    checkPrivilege (env.checkAnswer t) pid idx m =
      match recordOf m pid idx with
      | none => checkAcl (env.checkAnswer t) pid
      | some r => answerOf (env.checkAnswer t) t pid r := by
  unfold checkPrivilege
  cases hp : m[pid]? with
  | none =>
      have hnone : recordOf m pid idx = none := by rw [recordOf, hp, Option.bind_none]
      rw [hnone]
  | some p =>
      have hrecord : recordOf m pid idx = p.getPrivilegeRecord idx := by rw [recordOf, hp, Option.bind_some]
      rw [hrecord]
      simp only [ProcessPrivilegeRecord.checkPrivilege, Environment.checkAnswer]
      cases hr : p.getPrivilegeRecord idx with
      | none => rfl
      | some r =>
          unfold answerOf
          dsimp only
          cases hstatus : r.authStatus with
          | authorized => rfl
          | unconfirmed => rfl
          | notRequired =>
              cases hremain : r.getRemainTimeSec (env.checkTimestampExpired t) t with
              | error ret => simp
              | ok remainTime =>
                  by_cases hzero : remainTime = 0
                  · simp [hzero]
                  · simp [hzero]

theorem answerOf_of_needClean {e : CheckAnswer} {r : PrivilegeRecord γ} (h : r.needClean t = true) :
    answerOf e t pid r = checkAcl e pid := by
  unfold PrivilegeRecord.needClean at h
  split at h
  · cases h
  · rename_i hstatus
    rw [not_not] at hstatus
    have hlate : ¬t ≤ addTimePeriod r.expiredTime expiredTimeOffset := by simpa using h
    have hearly : ¬t < decTimePeriod r.expiredTime expiredTimeOffset := by
      unfold addTimePeriod at hlate
      unfold decTimePeriod
      omega
    unfold answerOf
    rw [hstatus]
    dsimp only
    rw [PrivilegeRecord.getRemainTimeSec, if_neg hearly, if_neg hlate]
    rfl

theorem Covers.checkPrivilege_eq (h : Covers t m m') (env : Environment) (pid : Int) (idx : Nat) :
    checkPrivilege (env.checkAnswer t) pid idx m = checkPrivilege (env.checkAnswer t) pid idx m' := by
  rw [PrivilegeCleanUp.checkPrivilege_eq, PrivilegeCleanUp.checkPrivilege_eq]
  cases hr : recordOf m pid idx with
  | none => rw [h.none hr]
  | some r =>
      cases hclean : r.needClean t with
      | false => rw [h.kept hr hclean]
      | true =>
          dsimp only
          rw [answerOf_of_needClean hclean]
          cases hr' : recordOf m' pid idx with
          | none => rfl
          | some r' =>
              cases hr.symm.trans (h.back hr')
              exact (answerOf_of_needClean hclean).symm

variable {create : ProcessPrivilegeRecord.CreateAnswer} {callerInfo : AuthenCallerInfo} {p : ProcessPrivilegeRecord γ}

theorem findOrCreate_records
    (h : findOrCreate create callerInfo m = .ok p) (idx : Nat) :
    p.privilegeRecordMap[idx]? = recordOf m callerInfo.pid idx := by
  rcases findOrCreate_ok h with hp | ⟨hnone, -, -, -, -, -, hempty⟩
  · rw [recordOf_of_getElem? hp]
  · rw [recordOf, hnone, hempty, Option.bind_none, ExtTreeMap.getElem?_empty]

theorem Covers.findOrCreate (h : Covers t m m')
    (hcreate : (∃ p : ProcessPrivilegeRecord γ, ProcessPrivilegeRecord.createEmpty create callerInfo = .ok p) ∨
      m[callerInfo.pid]? = none ∨ ∃ idx r, recordOf m callerInfo.pid idx = some r ∧ r.needClean t = false) :
    (∃ ret, findOrCreate create callerInfo m = .error ret ∧
      PrivilegeCache.findOrCreate create callerInfo m' = .error ret) ∨
    ∃ p p', findOrCreate create callerInfo m = .ok p ∧ PrivilegeCache.findOrCreate create callerInfo m' = .ok p' := by
  unfold PrivilegeCache.findOrCreate
  cases hp : m[callerInfo.pid]? with
  | none =>
      rw [h.absent hp]
      cases (ProcessPrivilegeRecord.createEmpty create callerInfo : Except ErrCode
        (ProcessPrivilegeRecord γ)) with
      | error ret => exact .inl ⟨ret, rfl, rfl⟩
      | ok p => exact .inr ⟨p, p, rfl, rfl⟩
  | some p =>
      cases hp' : m'[callerInfo.pid]? with
      | some p' => exact .inr ⟨p, p', rfl, rfl⟩
      | none =>
          obtain ⟨q, hq⟩ | hnone | ⟨idx, r, hr, hclean⟩ := hcreate
          · exact .inr ⟨p, q, rfl, hq⟩
          · rw [hp] at hnone
            cases hnone
          · obtain ⟨p', hsome, -⟩ := recordOf_eq_some.mp (h.kept hr hclean)
            rw [hp'] at hsome
            cases hsome

theorem Covers.addCache (h : Covers t s.processPrivilegeMap s'.processPrivilegeMap) (htu : t ≤ u)
    (hcreate : (∃ p : ProcessPrivilegeRecord γ, ProcessPrivilegeRecord.createEmpty create callerInfo = .ok p) ∨
      s.processPrivilegeMap[callerInfo.pid]? = none ∨
      ∃ idx r, recordOf s.processPrivilegeMap callerInfo.pid idx = some r ∧ r.needClean t = false)
    (safeStartTime : Nat) (origin : γ) :
    let added := PrivilegeCache.addCache ⟨create, .ok t, .ok u, .allOk⟩ callerInfo safeStartTime origin
    (added s).1 = (added s').1 ∧ Covers u (added s).2.processPrivilegeMap (added s').2.processPrivilegeMap := by
  dsimp only
  unfold PrivilegeCache.addCache
  obtain ⟨ret, hp, hp'⟩ | ⟨p, p', hp, hp'⟩ := h.findOrCreate hcreate
  · rw [hp, hp']
    exact ⟨rfl, h.mono htu⟩
  · rw [hp, hp']
    simp only [ProcessPrivilegeRecord.addOrUpdatePrivilege, cleanAndSave_map, true_and]
    exact (h.setRecord (findOrCreate_records hp) (findOrCreate_records hp') _ _).cleanExpired htu

theorem confirmKernelAuthCache_map {r : PrivilegeRecord γ}
    (hp : s.processPrivilegeMap[pid]? = some p) (hr : p.getPrivilegeRecord idx = some r) :
    (confirmKernelAuthCache .allOk u pid idx s).processPrivilegeMap =
      s.processPrivilegeMap.insert pid (p.setPrivilegeRecord idx { r with authStatus := .authorized }) := by
  have hset : setAuthStatusForRecord pid idx .authorized s.processPrivilegeMap =
      .ok (s.processPrivilegeMap.insert pid
          (p.setPrivilegeRecord idx { r with authStatus := .authorized })) := by
    rw [setAuthStatusForRecord, hp]
    dsimp only
    rw [hr]
  unfold confirmKernelAuthCache
  rw [hset]
  dsimp only
  obtain ⟨s₁, hsave, hmap⟩ := toPersistFile_allOk u
    { s with processPrivilegeMap :=
        s.processPrivilegeMap.insert pid (p.setPrivilegeRecord idx { r with authStatus := .authorized }) }
  rw [hsave]
  exact hmap

theorem removeSingle_map (hp : s.processPrivilegeMap[pid]? = some p) (idx : Nat) :
    (removeSingle (.ok u) .allOk pid idx s).2.processPrivilegeMap =
      cleanExpired u (withoutRecord p pid idx s.processPrivilegeMap) := by
  unfold removeSingle
  rw [hp]
  dsimp only [cleanExpiredPrivilegesAndSaveToFile]
  obtain ⟨s₁, hsave, hmap⟩ := toPersistFile_allOk u
    { s with processPrivilegeMap := cleanExpired u (withoutRecord p pid idx s.processPrivilegeMap) }
  rw [hsave]
  exact hmap

theorem needClean_of_ne {r : PrivilegeRecord γ} (h : r.authStatus ≠ .notRequired) (t : Int) : r.needClean t = false :=
  if_pos h

theorem hasKernelAuthorization_of_none (e : QueryAnswer) (h : recordOf s.processPrivilegeMap pid idx = none) :
    hasKernelAuthorization e pid idx s = (.ok false, s) := by
  unfold hasKernelAuthorization
  cases hp : s.processPrivilegeMap[pid]? with
  | none => rfl
  | some p =>
      rw [recordOf, hp, Option.bind_some] at h
      dsimp only
      rw [h]

theorem hasKernelAuthorization_of_some (e : QueryAnswer) {r : PrivilegeRecord γ}
    (hp : s.processPrivilegeMap[pid]? = some p) (hr : p.getPrivilegeRecord idx = some r) :
    hasKernelAuthorization e pid idx s =
      match r.authStatus, e.queryKernelAuthorization with
      | .authorized, _ => (.ok true, s)
      | .notRequired, _ => (.ok false, s)
      | .unconfirmed, .error ret => (.error (if ret = .kernelDeviceNotFound then ret else .systemServiceException), s)
      | .unconfirmed, .ok true => (.ok true, updateToAuthorized e.uptime e.save pid idx s)
      | .unconfirmed, .ok false => (.ok false, (removeSingle e.removeUptime e.removeSave pid idx s).2) := by
  rw [hasKernelAuthorization, hp]
  dsimp only
  generalize p.getPrivilegeRecord idx = found at hr ⊢
  subst hr
  rfl

theorem hasKernelAuthorization_of_notRequired (e : QueryAnswer) {r : PrivilegeRecord γ}
    (h : recordOf s.processPrivilegeMap pid idx = some r) (hstatus : r.authStatus = .notRequired) :
    hasKernelAuthorization e pid idx s = (.ok false, s) := by
  obtain ⟨p, hp, hr⟩ := recordOf_eq_some.mp h
  rw [hasKernelAuthorization_of_some e hp hr, hstatus]

theorem Covers.hasKernelAuthorization (h : Covers t s.processPrivilegeMap s'.processPrivilegeMap) (htu : t ≤ u)
    (query : Except ErrCode Bool) (pid : Int) (idx : Nat) :
    let e : QueryAnswer := ⟨query, .ok u, .allOk, .ok u, .allOk⟩
    (hasKernelAuthorization e pid idx s).1 = (PrivilegeCache.hasKernelAuthorization e pid idx s').1 ∧
      Covers u (hasKernelAuthorization e pid idx s).2.processPrivilegeMap
        (PrivilegeCache.hasKernelAuthorization e pid idx s').2.processPrivilegeMap := by
  intro e
  cases hr : recordOf s.processPrivilegeMap pid idx with
  | none =>
      rw [hasKernelAuthorization_of_none e hr, hasKernelAuthorization_of_none e (h.none hr)]
      exact ⟨rfl, h.mono htu⟩
  | some r =>
      by_cases hstatus : r.authStatus = .notRequired
      · have hrefused : PrivilegeCache.hasKernelAuthorization e pid idx s' = (.ok false, s') := by
          cases hr' : recordOf s'.processPrivilegeMap pid idx with
          | none => exact hasKernelAuthorization_of_none e hr'
          | some r' =>
              cases hr.symm.trans (h.back hr')
              exact hasKernelAuthorization_of_notRequired e hr' hstatus
        rw [hasKernelAuthorization_of_notRequired e hr hstatus, hrefused]
        exact ⟨rfl, h.mono htu⟩
      · obtain ⟨p, hp, hrecord⟩ := recordOf_eq_some.mp hr
        obtain ⟨p', hp', hrecord'⟩ := recordOf_eq_some.mp (h.kept hr (needClean_of_ne hstatus t))
        have hget : p.getPrivilegeRecord idx = some r := hrecord
        have hget' : p'.getPrivilegeRecord idx = some r := hrecord'
        rw [hasKernelAuthorization_of_some e hp hget, hasKernelAuthorization_of_some e hp' hget']
        cases hcase : r.authStatus with
        | notRequired => exact (hstatus hcase).elim
        | authorized => exact ⟨rfl, h.mono htu⟩
        | unconfirmed =>
            cases query with
            | error ret => exact ⟨rfl, h.mono htu⟩
            | ok granted =>
                cases granted with
                | true =>
                    refine ⟨rfl, ?_⟩
                    dsimp only [e, updateToAuthorized]
                    rw [confirmKernelAuthCache_map hp hget, confirmKernelAuthCache_map hp' hget']
                    have hrecords := h.setRecord (fun idx => (recordOf_of_getElem? hp idx).symm)
                      (fun idx => (recordOf_of_getElem? hp' idx).symm) idx { r with authStatus := .authorized }
                    exact ⟨hrecords.mono htu, absent_insert fun hnone => h.absent hnone⟩
                | false =>
                    refine ⟨rfl, ?_⟩
                    dsimp only [e]
                    rw [removeSingle_map hp, removeSingle_map hp']
                    exact (h.withoutRecord hp hp' idx).cleanExpired htu

end calls

section invisible

variable (env : Environment) {s s' : State γ} {e : Event γ}

/-- The run with more clean-ups is never behind, and lacks at most records that are due. -/
structure Follows (s s' : State γ) : Prop where
  now : s.now ≤ s'.now
  covers : Covers s'.now s.store.processPrivilegeMap s'.store.processPrivilegeMap

theorem follows_cleanUp (h : Follows s s') (horder : InOrder s' e) (he : e.isCleanUp = true) :
    Follows s (step env s' e) := by
  cases e with
  | cleanExpired time =>
      refine ⟨Int.le_trans h.now horder.1, ?_⟩
      simp only [step, serve, Event.finish, cleanAndSave_map]
      exact h.covers.cleanExpired_right horder.1
  | _ => cases he

theorem follows_call (h : Follows s s') (hcreate : Creates s e) (horder : InOrder s' e) (he : e.isCleanUp = false) :
    out env s e = out env s' e ∧ Follows (step env s e) (step env s' e) := by
  cases e with
  | addCache create callerInfo safeStartTime origin time saveTime =>
      obtain ⟨hret, hcovers⟩ := (h.covers.mono horder.1).addCache horder.2 hcreate safeStartTime origin
      exact ⟨congrArg (fun ret => some (Answer.added ret)) hret, Int.le_refl _, hcovers⟩
  | checkPrivilege pid privilegeIdx time =>
      have hcovers := h.covers.mono horder.1
      have hsame := hcovers.checkPrivilege_eq env pid privilegeIdx
      exact ⟨congrArg (fun remainTime => some (Answer.checked remainTime)) hsame, Int.le_refl _, hcovers⟩
  | hasKernelAuthorization pid privilegeIdx kernelPermission time saveTime =>
      obtain ⟨hret, hcovers⟩ := (h.covers.mono horder.1).hasKernelAuthorization horder.2
        (env.queryKernelAuthorization time pid kernelPermission) pid privilegeIdx
      exact ⟨congrArg (fun isAuthorized => some (Answer.kernelAuthorized isAuthorized)) hret,
        Int.le_refl _, hcovers⟩
  | cleanExpired time => cases he

end invisible

section time

variable {m : ProcessMap γ} {s : CacheStore γ} {t u : Int} {pid : Int} {idx : Nat}

def validity : Int := (timeoutSeconds * milliSecondsPerSecond : Nat)

/-- No record without kernel grant is valid for longer, as none is that a call has made. -/
def Timely (t : Int) (m : ProcessMap γ) : Prop :=
  ∀ pid idx r, recordOf m pid idx = some r → r.authStatus = .notRequired → r.expiredTime ≤ t + validity

theorem timely_empty (t : Int) : Timely t (∅ : ProcessMap γ) := by
  intro pid idx r hr
  rw [recordOf, ExtTreeMap.getElem?_empty] at hr
  cases hr

theorem Timely.mono (h : Timely t m) (htu : t ≤ u) : Timely u m := by
  intro pid idx r hr hstatus
  have hexpired := h pid idx r hr hstatus
  omega

theorem Timely.cleanExpired (h : Timely t m) (u : Int) : Timely t (cleanExpired u m) :=
  fun pid idx r hr => h pid idx r (recordOf_cleanExpired.mp hr).1

theorem Timely.withoutRecord (h : Timely t m) {p : ProcessPrivilegeRecord γ} (hp : m[pid]? = some p) (idx : Nat) :
    Timely t (withoutRecord p pid idx m) := by
  intro pid' idx' r hr
  rw [recordOf_withoutRecord hp] at hr
  split at hr
  · cases hr
  · exact h pid' idx' r hr

theorem Timely.setRecord (h : Timely t m) {p : ProcessPrivilegeRecord γ} {r : PrivilegeRecord γ}
    (hp : ∀ idx : Nat, p.privilegeRecordMap[idx]? = recordOf m pid idx)
    (hr : r.authStatus = .notRequired → r.expiredTime ≤ t + validity) (idx : Nat) :
    Timely t (m.insert pid (p.setPrivilegeRecord idx r)) := by
  intro pid' idx' r' hr'
  rw [recordOf_setRecord hp] at hr'
  split at hr'
  · cases hr'
    exact hr
  · exact h pid' idx' r' hr'

theorem timeout_le (idx : Nat) :
    ((getPrivilegeBriefDef idx).map PrivilegeBriefDef.timeout).getD 0 ≤ timeoutSeconds := by
  have hall : ∀ d ∈ privilegeList, d.timeout = timeoutSeconds := by decide
  cases hd : getPrivilegeBriefDef idx with
  | none => exact Nat.zero_le _
  | some d => exact Nat.le_of_eq (hall d (List.mem_of_getElem? hd))

theorem timedRecord_expiredTime (idx : Nat) (t : Int) (safeStartTime : Nat) (origin : γ) :
    (ProcessPrivilegeRecord.timedRecord idx t safeStartTime origin).expiredTime ≤ t + validity := by
  have hle := timeout_le idx
  unfold ProcessPrivilegeRecord.timedRecord addTimePeriod validity
  dsimp only
  generalize ((getPrivilegeBriefDef idx).map PrivilegeBriefDef.timeout).getD 0 = timeout at hle
  have hproduct : timeout * milliSecondsPerSecond % 2 ^ 32 ≤ timeoutSeconds * milliSecondsPerSecond :=
    Nat.le_trans (Nat.mod_le _ _) (Nat.mul_le_mul_right _ hle)
  omega

theorem timely_serve (env : Environment) {e : Event γ} (h : Timely t s.processPrivilegeMap) (hstart : t ≤ e.start)
    (hfinish : e.start ≤ e.finish) : Timely e.finish (serve env s e).2.processPrivilegeMap := by
  have hnow : Timely e.finish s.processPrivilegeMap := h.mono (Int.le_trans hstart hfinish)
  cases e with
  | addCache create callerInfo safeStartTime origin time saveTime =>
      simp only [serve, PrivilegeCache.addCache]
      cases hp : findOrCreate create callerInfo s.processPrivilegeMap with
      | error ret => exact hnow
      | ok p =>
          simp only [ProcessPrivilegeRecord.addOrUpdatePrivilege, cleanAndSave_map]
          have hset := (h.mono hstart).setRecord (findOrCreate_records hp)
            (fun _ => timedRecord_expiredTime callerInfo.privilegeIdx time safeStartTime origin) callerInfo.privilegeIdx
          exact (hset.cleanExpired saveTime).mono hfinish
  | checkPrivilege pid privilegeIdx time => exact hnow
  | hasKernelAuthorization pid privilegeIdx kernelPermission time saveTime =>
      simp only [serve]
      cases hr : recordOf s.processPrivilegeMap pid privilegeIdx with
      | none =>
          rw [hasKernelAuthorization_of_none _ hr]
          exact hnow
      | some r =>
          obtain ⟨p, hp, hrecord⟩ := recordOf_eq_some.mp hr
          have hget : p.getPrivilegeRecord privilegeIdx = some r := hrecord
          rw [hasKernelAuthorization_of_some _ hp hget]
          cases hcase : r.authStatus with
          | notRequired => exact hnow
          | authorized => exact hnow
          | unconfirmed =>
              cases env.queryKernelAuthorization time pid kernelPermission with
              | error ret => exact hnow
              | ok granted =>
                  cases granted with
                  | true =>
                      dsimp only [updateToAuthorized]
                      rw [confirmKernelAuthCache_map hp hget]
                      exact hnow.setRecord (fun idx => (recordOf_of_getElem? hp idx).symm)
                        (fun hne => by cases hne) _
                  | false =>
                      dsimp only
                      rw [removeSingle_map hp]
                      exact (hnow.withoutRecord hp privilegeIdx).cleanExpired saveTime
  | cleanExpired time =>
      simp only [serve, cleanAndSave_map]
      exact hnow.cleanExpired time

def Environment.Positive (env : Environment) : Prop :=
  ∀ time safeStartTime timeout, (env.checkTimestampExpired time safeStartTime timeout).ret = .ok () →
    (env.checkTimestampExpired time safeStartTime timeout).isValid = true →
    0 < (env.checkTimestampExpired time safeStartTime timeout).remainTimeSec

theorem getRemainTimeSec_pos {env : Environment} (htee : env.Positive) {r : PrivilegeRecord γ}
    (hexpired : r.expiredTime ≤ t + validity) {remainTime : Int}
    (h : r.getRemainTimeSec (env.checkTimestampExpired t) t = .ok remainTime) (hne : remainTime ≠ 0) :
    0 < remainTime := by
  unfold PrivilegeRecord.getRemainTimeSec at h
  split at h
  · rename_i hearly
    cases h
    have hquotient : (r.expiredTime - t).tdiv milliSecondsPerSecond = (r.expiredTime - t) / 1000 := by
      refine Int.tdiv_eq_ediv_of_nonneg ?_
      unfold decTimePeriod at hearly
      omega
    unfold decTimePeriod at hearly
    rw [show ((expiredTimeOffset * milliSecondsPerSecond % 2 ^ 32 : Nat) : Int) = 2000 from rfl] at hearly
    rw [show validity = 300000 from rfl] at hexpired
    rw [hquotient, toInt32, Int.bmod_def]
    omega
  split at h
  · dsimp only at h
    split at h
    · cases h
    · rename_i hret
      cases h
      split at hne
      · rename_i hvalid
        rw [if_pos hvalid]
        exact htee _ _ _ hret hvalid
      · exact (hne rfl).elim
  · cases h
    exact (hne rfl).elim

theorem leavesTime {env : Environment} (htee : env.Positive) {s : State γ}
    (h : Timely s.now s.store.processPrivilegeMap) {e : Event γ} (horder : InOrder s e) : LeavesTime env s e := by
  cases e with
  | checkPrivilege pid privilegeIdx time =>
      intro p r remainTime hp hr hstatus hcheck
      have hexpired := (h.mono horder.1) pid privilegeIdx r (recordOf_eq_some.mpr ⟨p, hp, hr⟩) hstatus
      constructor
      · unfold out serve PrivilegeCache.checkPrivilege
        dsimp only
        rw [hp]
        dsimp only [Environment.checkAnswer]
        rw [hcheck]
      · unfold ProcessPrivilegeRecord.checkPrivilege at hcheck
        rw [hr] at hcheck
        dsimp only at hcheck
        rw [hstatus] at hcheck
        dsimp only at hcheck
        split at hcheck
        · cases hcheck
        · rename_i remain hremain
          split at hcheck
          · cases hcheck
          · rename_i hne
            cases hcheck
            exact getRemainTimeSec_pos htee hexpired hremain hne
  | _ => trivial

end time

/-- Clean-ups at any points of a run change no answer, if an entry can be made for a process whose records are all due
when a privilege is added; and what a record without kernel grant allows is allowed for some time. -/
theorem cleanUp_invisible (env : Environment) (s : State γ) (events : List (Event γ))
    (horder : Machine.Meets (step env) InOrder s events) :
    (Machine.Meets (step env) Creates s (events.filter fun e => !e.isCleanUp) →
      Machine.trace (step env) (out env) s (events.filter fun e => !e.isCleanUp) =
        Machine.trace (step env) (out env) s events) ∧
    (env.Positive → Timely s.now s.store.processPrivilegeMap → Machine.Meets (step env) (LeavesTime env) s events) := by
  constructor
  · intro hcreate
    refine Machine.trace_filter (R := Follows) ?_ ?_ ?_ ⟨Int.le_refl _, .refl _ _⟩ hcreate horder
    · intro s e he
      cases e with
      | cleanExpired time => rfl
      | _ => cases he
    · exact fun s s' e h horder he => follows_cleanUp env h horder he
    · exact fun s s' e h hcreate horder he => follows_call env h hcreate horder he
  · intro htee htimely
    have hstep : ∀ (s : State γ) (e : Event γ), Timely s.now s.store.processPrivilegeMap → InOrder s e →
        Timely (step env s e).now (step env s e).store.processPrivilegeMap :=
      fun s e h horder => timely_serve env h horder.1 horder.2
    exact horder.imp_of_meets hstep (fun s e h horder => leavesTime htee h horder) htimely

section examples

def strict : Environment := ⟨fun _ _ _ => ⟨.ok (), 1, true⟩, fun _ _ => .ok 0, fun _ _ _ => .ok false⟩

def begun : State Unit := ⟨0, ⟨∅, none⟩⟩

def alive : ProcessPrivilegeRecord.CreateAnswer := ⟨.ok 500, .ok (), true⟩

def caller (remoteObject : Option RemoteObject) : AuthenCallerInfo := ⟨7, 20000000, 0, some remoteObject⟩

def addedTwice (remoteObject : Option RemoteObject) : List (Event Unit) :=
  [.addCache alive (caller (some ⟨7, 500⟩)) 12 () 1000 1000, .checkPrivilege 7 0 300000, .cleanExpired 400000,
    .checkPrivilege 7 0 400000, .addCache alive (caller remoteObject) 12 () 400001 400001]

theorem inOrder_addedTwice (remoteObject : Option RemoteObject) :
    Machine.Meets (step strict) InOrder begun (addedTwice remoteObject) := by
  simp [addedTwice, Machine.Meets, InOrder, step, begun, Event.start, Event.finish]

theorem cleanUp_invisible_addedTwice :
    Machine.trace (step strict) (out strict) begun (addedTwice (some ⟨7, 500⟩)) =
      [.added (.ok ()), .checked (.ok 1), .checked (.error .privilegeDenied), .added (.ok ())] ∧
    Machine.Meets (step strict) (LeavesTime strict) begun (addedTwice (some ⟨7, 500⟩)) := by
  have h := cleanUp_invisible strict begun (addedTwice (some ⟨7, 500⟩)) (inOrder_addedTwice _)
  refine ⟨?_, h.2 (fun _ _ _ _ _ => Int.one_pos) (timely_empty 0)⟩
  rw [← h.1 ⟨.inl ⟨_, rfl⟩, trivial, trivial, .inl ⟨_, rfl⟩, trivial⟩]
  decide

/-- Without an object of the caller the privilege can only be added to an entry that is there. -/
theorem not_cleanUp_invisible_noObject :
    ¬∀ events, Machine.Meets (step strict) InOrder begun events →
      Machine.trace (step strict) (out strict) begun (events.filter fun e => !e.isCleanUp) =
        Machine.trace (step strict) (out strict) begun events := by
  intro h
  exact absurd (h (addedTwice none) (inOrder_addedTwice none)) (by decide)

end examples

end OsAccount.PrivilegeCleanUp
