import OsAccount.PrivilegeCacheText
import OsAccount.PrivilegeCacheInvariant

namespace OsAccount.PrivilegeCacheRoundTrip

open Std OrderedMap Decimal JsonUtils PrivilegeTable PrivilegeRecords PrivilegeCache PrivilegeCacheParts
  PrivilegeCacheRestart PrivilegeCacheInvariant PrivilegeCacheText

structure Representable (h : Holder) (r : PrivilegeRecord Unit) : Prop where
  pid : Fits 32 h.pid
  uid : Fits 32 h.uid
  processStartTime : Fits 64 h.processStartTime
  privilegeIdx : r.privilegeIdx < maxPrivilegeSize
  expiredTime : Fits 64 r.expiredTime
  safeStartTime : r.safeStartTime < 2 ^ 32

theorem stringToPrivilegeAuthStatus_toString (status : PrivilegeAuthStatus) :
    stringToPrivilegeAuthStatus (privilegeAuthStatusToString status) = status := by
  cases status <;> rfl

theorem noNul_privilegeAuthStatusToString (status : PrivilegeAuthStatus) :
    CText.NoNul (privilegeAuthStatusToString status) := by
  cases status <;> decide

theorem getString_of_find {l : List (String × Json)} {key s : String} (hkey : key ≠ "") (hnul : CText.NoNul key)
    (h : Fields.find key l = some (.str s)) : getStringFromJson (.obj l) key = some s := by
  simp [getStringFromJson_eq hnul, getItemFromJson, fields, hkey, h, stringValue?]

theorem getInt64_of_find {l : List (String × Json)} {key : String} {n : Int} (hkey : key ≠ "")
    (h : Fields.find key l = some (.str (CText.cStr (toString n)))) (hn : Fits 64 n) :
    getInt64FromJson (.obj l) key = some n := by
  rw [getInt64FromJson, getItemFromJson, if_neg hkey, fields, h, (CText.noNul_toString n).cStr]
  exact parseSigned_toString hn

theorem record_fromJson_toJson {h : Holder} {r : PrivilegeRecord Unit} (hr : Representable h r) :
    PrivilegeRecord.fromJson r.toJson = some r := by
  have hname : getStringFromJson r.toJson "privilegeName" = some (transferCodeToPrivilege r.privilegeIdx) := by
    rw [← (noNul_transferCodeToPrivilege r.privilegeIdx).cStr]
    exact getString_of_find (by decide) (by decide) rfl
  have hexpired : getInt64FromJson r.toJson "expiredTimeStamp" = some r.expiredTime :=
    getInt64_of_find (by decide) rfl hr.expiredTime
  have hsafe : getInt64FromJson r.toJson "safeStartTime" = some (r.safeStartTime : Int) := by
    refine getInt64_of_find (by decide) rfl ?_
    have := hr.safeStartTime
    constructor <;> omega
  have hstatus : getStringFromJson r.toJson "authStatus" = some (privilegeAuthStatusToString r.authStatus) := by
    rw [← (noNul_privilegeAuthStatusToString r.authStatus).cStr]
    exact getString_of_find (by decide) (by decide) rfl
  have hnarrow : ((r.safeStartTime : Int) % 4294967296).toNat = r.safeStartTime := by
    have := hr.safeStartTime
    omega
  have hobject : isObject r.toJson = true := rfl
  simp [PrivilegeRecord.fromJson, hobject, hname, hexpired, hsafe, hstatus, hnarrow,
    transferPrivilegeToCode_transferCodeToPrivilege r.privilegeIdx hr.privilegeIdx,
    stringToPrivilegeAuthStatus_toString]

section map

variable {m : ProcessMap Unit} {pid : Int} {p : ProcessPrivilegeRecord Unit} {e : LoadAnswer} {t : Int}

theorem parse_recordList {h : Holder} {l : List (Nat × PrivilegeRecord Unit)}
    (hl : ∀ q ∈ l, Representable h q.2) (t : Int) (acc : RecordMap Unit) :
    (l.map fun q => q.2.toJson).foldlM (fun m item => do
        let record ← PrivilegeRecord.fromJson item
        pure (if record.needClean t then m else m.insert record.privilegeIdx record)) acc =
      some (l.foldl (fun m q => if q.2.needClean t then m else m.insert q.2.privilegeIdx q.2) acc) := by
  induction l generalizing acc with
  | nil => rfl
  | cons q l ih =>
      simp only [List.map_cons, List.foldlM_cons, List.foldl_cons,
        record_fromJson_toJson (hl q List.mem_cons_self)]
      exact ih (fun q' hq' => hl q' (List.mem_cons_of_mem q hq')) _

theorem parse_records (hm : Valid Representable m) (hp : m[pid]? = some p) (t : Int) :
    ProcessPrivilegeRecord.parsePrivilegeRecordJsonArray t (p.privilegeRecordMap.toList.map fun q => q.2.toJson) =
      some (p.cleanCurrentExpiredPrivileges t).privilegeRecordMap := by
  have hfits (q : Nat × PrivilegeRecord Unit) (hq : q ∈ p.privilegeRecordMap.toList) :
      Representable (holder p) q.2 := hm.records hp (ExtTreeMap.mem_toList_iff_getElem?_eq_some.mp hq)
  have hidx (q : Nat × PrivilegeRecord Unit)
      (hq : q ∈ p.privilegeRecordMap.toList) : q.2.privilegeIdx = q.1 :=
    hm.wellFormed.privilegeIdx hp (ExtTreeMap.mem_toList_iff_getElem?_eq_some.mp hq)
  rw [ProcessPrivilegeRecord.parsePrivilegeRecordJsonArray, parse_recordList hfits, Option.some_inj]
  refine foldl_eq_sweepInto (m := p.privilegeRecordMap)
      (f := fun _ r => if r.needClean t then none else some r)
    (g := fun m q => if q.2.needClean t then m else m.insert q.2.privilegeIdx q.2)
    (fun acc q hq b hb => ?_) (fun acc q hq hb => ?_) ∅
  · rw [Option.ite_none_left_eq_some] at hb
    obtain ⟨hclean, hb⟩ := hb
    rw [if_neg hclean, hidx q hq, Option.some.inj hb]
  · by_cases hclean : q.2.needClean t
    · rw [if_pos hclean]
    · simp [hclean] at hb

theorem exists_record (hm : Valid Representable m) (hp : m[pid]? = some p) :
    ∃ (idx : Nat) (r : PrivilegeRecord Unit), p.privilegeRecordMap[idx]? = some r := by
  by_contra h
  push Not at h
  refine hm.wellFormed.nonempty hp ((p.getPrivilegeNum_eq_zero).mpr fun idx => ?_)
  exact Option.eq_none_iff_forall_ne_some.mpr (h idx)

def withoutRemote (p : ProcessPrivilegeRecord Unit) : ProcessPrivilegeRecord Unit := { p with remoteObject := none }

theorem checkProcessAlive_iff {getProcessStartTime : Int → Except ErrCode Int} {p : ProcessPrivilegeRecord Unit} :
    p.checkProcessAlive getProcessStartTime ↔
      0 < p.pid ∧ getProcessStartTime p.pid = .ok p.processStartTime := by
  simp [ProcessPrivilegeRecord.checkProcessAlive]

theorem fromJson_of_fields {p : ProcessPrivilegeRecord Unit} {j : Json} {items : List Json}
    (hpid : getIntFromJson j "pid" = some p.pid) (huid : getIntFromJson j "uid" = some p.uid)
    (hstart : getInt64FromJson j "processStartTime" = some p.processStartTime)
    (hitems : getJsonArrayFromJson j "privilegeRecords" = some items)
    (hrecords : ProcessPrivilegeRecord.parsePrivilegeRecordJsonArray t items =
      some (p.cleanCurrentExpiredPrivileges t).privilegeRecordMap) (hremote : p.remoteObject = none) :
    (ProcessPrivilegeRecord.fromJson e t j).toOption.join = loadProcess e t p := by
  have hclean : (⟨p.pid, p.uid, p.processStartTime, none,
    (p.cleanCurrentExpiredPrivileges t).privilegeRecordMap⟩ :
      ProcessPrivilegeRecord Unit) = p.cleanCurrentExpiredPrivileges t := by
    rw [← hremote]
    rfl
  apply Option.ext
  intro p'
  rw [loadProcess_eq_some]
  simp only [ProcessPrivilegeRecord.fromJson, ProcessPrivilegeRecord.checkProcessAlive, hpid,
    huid, hstart, hitems,
    hrecords, hclean]
  by_cases halive : 0 < p.pid ∧ e.getProcessStartTime p.pid = .ok p.processStartTime
  · cases hfd : e.openPidFd p.pid with
    | error ret => simp [halive, bind, Except.bind, Except.toOption]
    | ok _ =>
        simp only [halive, bind, Except.bind, pure, Except.pure, Except.toOption, decide_true, Bool.and_self,
          Bool.not_true, Bool.false_eq_true, if_false, Option.join_some, Option.ite_none_left_eq_some,
          Option.some.injEq, true_and]
        constructor
        · rintro ⟨hn, rfl⟩
          exact ⟨rfl, hn⟩
        · rintro ⟨rfl, hn⟩
          exact ⟨hn, rfl⟩
  · have hdead : (decide (0 < p.pid) && decide
        (e.getProcessStartTime p.pid = .ok p.processStartTime)) = false := by
      simpa using halive
    rw [hdead]
    constructor
    · rintro ⟨⟩
    · exact fun h => absurd ⟨h.1, h.2.1⟩ halive

theorem process_fromJson_toJson (hm : Valid Representable m) (hp : m[pid]? = some p) {j : Json}
    (hj : p.toJson = some j) (e : LoadAnswer) (t : Int) :
    (ProcessPrivilegeRecord.fromJson e t j).toOption.join = loadProcess e t (withoutRemote p) := by
  obtain ⟨idx, r, hr⟩ := exists_record hm hp
  have hfit := hm.records hp hr
  rw [ProcessPrivilegeRecord.toJson, if_neg (hm.wellFormed.nonempty hp)] at hj
  have hpid : getIntFromJson j "pid" = some (withoutRemote p).pid := by
    rw [← Option.some.inj hj]
    rfl
  have huid : getIntFromJson j "uid" = some (withoutRemote p).uid := by
    rw [← Option.some.inj hj]
    rfl
  have hstart : getInt64FromJson j "processStartTime" = some (withoutRemote p).processStartTime := by
    rw [← Option.some.inj hj]
    exact getInt64_of_find (by decide) rfl hfit.processStartTime
  have hitems : getJsonArrayFromJson j "privilegeRecords" =
      some (p.privilegeRecordMap.toList.map fun q => q.2.toJson) := by
    rw [← Option.some.inj hj]
    rfl
  exact fromJson_of_fields hpid huid hstart hitems (parse_records hm hp t) rfl

theorem toOption_join_eq_some {ε α : Type} {x : Except ε (Option α)} {a : α} :
    x.toOption.join = some a ↔ x = .ok (some a) := by
  rcases x with e | (_ | b) <;> simp [Except.toOption]

theorem pid_of_loadProcess {p p' : ProcessPrivilegeRecord Unit} (h : loadProcess e t p = some p') : p'.pid = p.pid := by
  obtain ⟨-, -, -, rfl, -⟩ := loadProcess_eq_some.mp h
  rfl

theorem loadProcessRecords_mapToJson (hm : Valid Representable m) (e : LoadAnswer) (t : Int) :
    loadProcessRecords e t (m.toList.filterMap fun q => q.2.toJson) ∅ =
      sweepInto (fun _ p => loadProcess e t p) (persisted m) ∅ := by
  have hitem (q : Int × ProcessPrivilegeRecord Unit) (hq : q ∈ m.toList) :
      ∃ item, q.2.toJson = some item ∧ q.2.pid = q.1 ∧
        (ProcessPrivilegeRecord.fromJson e t item).toOption.join = loadProcess e t (withoutRemote q.2) := by
    have hp := ExtTreeMap.mem_toList_iff_getElem?_eq_some.mp hq
    have hn := hm.wellFormed.nonempty hp
    refine ⟨_, by rw [ProcessPrivilegeRecord.toJson, if_neg hn], hm.wellFormed.pid hp, ?_⟩
    exact process_fromJson_toJson hm hp (by rw [ProcessPrivilegeRecord.toJson, if_neg hn]) e t
  have hsweep : loadProcessRecords e t (m.toList.filterMap fun q => q.2.toJson) ∅ =
      sweepInto (fun _ p => loadProcess e t (withoutRemote p)) m ∅ := by
    rw [loadProcessRecords, List.foldl_filterMap]
    refine foldl_eq_sweepInto (m := m) (f := fun _ p => loadProcess e t (withoutRemote p))
      (fun acc q hq p' hp' => ?_) (fun acc q hq hnone => ?_) ∅
    · obtain ⟨item, hj, hpid, hload⟩ := hitem q hq
      have hfrom : ProcessPrivilegeRecord.fromJson e t item = .ok (some p') :=
        toOption_join_eq_some.mp (hload.trans hp')
      simp [hj, hfrom, pid_of_loadProcess hp', withoutRemote, hpid]
    · obtain ⟨item, hj, -, hload⟩ := hitem q hq
      rw [hj]
      dsimp only
      split
      · rename_i p' hfrom
        rw [hfrom, hnone] at hload
        cases hload
      · rfl
  rw [hsweep]
  apply ExtTreeMap.ext_getElem?
  intro pid
  apply Option.ext
  intro p'
  simp only [getElem?_sweepInto, ExtTreeMap.getElem?_empty, Option.or_none, Option.bind_eq_some_iff,
    getElem?_persisted]
  constructor
  · rintro ⟨p, hp, hload⟩
    exact ⟨withoutRemote p, ⟨p, hp, rfl, hm.wellFormed.nonempty hp⟩, hload⟩
  · rintro ⟨_, ⟨p, hp, rfl, -⟩, hload⟩
    exact ⟨p, hp, hload⟩

end map

end OsAccount.PrivilegeCacheRoundTrip
