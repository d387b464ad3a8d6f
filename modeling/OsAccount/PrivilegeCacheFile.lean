import OsAccount.PrivilegeCacheRoundTrip

namespace OsAccount.PrivilegeCacheFile

open Std OrderedMap Decimal JsonUtils PrivilegeRecords PrivilegeCache PrivilegeCacheParts PrivilegeCacheRestart
  PrivilegeCacheInvariant PrivilegeCacheText PrivilegeCacheRoundTrip

structure FileFields where
  updateTime : Int
  digest : List UInt8
  processRecords : String
deriving DecidableEq

def readFields (j : Json) : Option FileFields :=
  if isObject j then
    match getInt64FromJson j "updateTime", getStringFromJson j "processRecords" with
    | some updateTime, some processRecords =>
        some ⟨updateTime, getVectorUint8FromJson j "digest", processRecords⟩
    | _, _ => none
  else none

variable (c : CJson) (generateAccountInfoDigest : String → List UInt8)

def contentOf (content : String) : Option FileFields := (c.createJsonFromString content).bind readFields

def Sealed (f : FileFields) : Prop :=
  f.digest = generateDigestFromHuks generateAccountInfoDigest f.updateTime f.processRecords

instance (f : FileFields) : Decidable (Sealed generateAccountInfoDigest f) := inferInstanceAs (Decidable (_ = _))

def Faithful (j : Json) : Prop := c.createJsonFromString (c.packJsonToString j) = some j

def items : Option Json → List Json
  | some (.arr l) => l
  | _ => []

structure Accepted (e : LoadAnswer) (t : Int) (f : FileFields) : Prop where
  readFile : e.readFile = true
  updateTime : f.updateTime < t
  generateDigest : e.generateDigest = true
  digest : Sealed generateAccountInfoDigest f

variable {c generateAccountInfoDigest} {e : LoadAnswer} {t : Int} {content : String}

theorem readAndCheck_eq_some {recordStr : String} :
    (readAndCheckPersistRecordValid c generateAccountInfoDigest e t content).1 = some recordStr ↔
      ∃ f, contentOf c content = some f ∧ Accepted generateAccountInfoDigest e t f ∧ f.processRecords = recordStr := by
  unfold readAndCheckPersistRecordValid contentOf readFields
  constructor
  · intro h
    -- every check that fails ends without records
    split at h
    · cases h
    rename_i hread
    split at h
    · cases h
    rename_i j hj
    split at h
    · cases h
    rename_i hobj
    split at h
    · cases h
    rename_i updateTime htime
    split at h
    · cases h
    rename_i hold
    split at h
    · cases h
    rename_i processRecords hrecords
    split at h
    · cases h
    rename_i hgen
    split at h
    · cases h
    rename_i hdigest
    refine ⟨⟨updateTime, getVectorUint8FromJson j "digest", processRecords⟩, ?_, ?_, Option.some.inj h⟩
    · simp [hj, htime, hrecords, show isObject j = true by simpa using hobj]
    · exact ⟨by simpa using hread, by simpa using hold, by simpa using hgen, not_not.mp hdigest⟩
  · rintro ⟨f, hf, ⟨hread, htime, hgen, hdigest⟩, rfl⟩
    rw [Option.bind_eq_some_iff] at hf
    obtain ⟨j, hj, hf⟩ := hf
    rw [Option.ite_none_right_eq_some] at hf
    obtain ⟨hobj, hf⟩ := hf
    split at hf
    · rename_i updateTime processRecords hupdate hrecords
      obtain rfl := Option.some.inj hf
      simp only [Sealed] at hdigest
      simp [hread, hj, hobj, hupdate, hrecords, hgen, hdigest, Int.not_le.mpr htime]
    · cases hf

theorem loaded_of_accepted {f : FileFields}
    (ht : e.uptime = .ok t) (hf : contentOf c content = some f) (h : Accepted generateAccountInfoDigest e t f) :
    loaded c generateAccountInfoDigest e (some content) =
      loadProcessRecords e t (items (c.createJsonFromString f.processRecords)) ∅ := by
  have hread := readAndCheck_eq_some.mpr ⟨f, hf, h, rfl⟩
  unfold loaded PrivilegeCacheText.fromPersistFile
  rw [ht]
  dsimp only
  split
  · rename_i hnone
    rw [hnone] at hread
    cases hread
  · rename_i recordStr _ hsome
    rw [hsome] at hread
    obtain rfl : recordStr = f.processRecords := Option.some.inj hread
    split
    · rename_i l hl
      rw [hl]
      rfl
    · rename_i hne
      cases hj : c.createJsonFromString f.processRecords with
      | none => rfl
      | some j => cases j with
        | arr l => exact absurd hj (hne l)
        | _ => rfl

theorem loaded_of_not_accepted (ht : e.uptime = .ok t)
    (h : ∀ f, contentOf c content = some f → ¬Accepted generateAccountInfoDigest e t f) :
    loaded c generateAccountInfoDigest e (some content) = ∅ := by
  have hread (recordStr : String) :
      (readAndCheckPersistRecordValid c generateAccountInfoDigest e t content).1 ≠ some recordStr := by
    intro hsome
    obtain ⟨f, hf, hacc, -⟩ := readAndCheck_eq_some.mp hsome
    exact h f hf hacc
  unfold loaded PrivilegeCacheText.fromPersistFile
  rw [ht]
  dsimp only
  split
  · rfl
  · rename_i recordStr _ hsome
    exact absurd (by rw [hsome]) (hread recordStr)

section written

variable {t₀ : Int} {m : ProcessMap Unit}

def writtenFields (c : CJson) (generateAccountInfoDigest : String → List UInt8) (t₀ : Int) (m : ProcessMap Unit) :
    FileFields :=
  let jsonStr := c.packJsonToString (mapToJson m)
  ⟨t₀, generateDigestFromHuks generateAccountInfoDigest t₀ jsonStr, jsonStr⟩

def writtenJson (c : CJson) (generateAccountInfoDigest : String → List UInt8) (t₀ : Int) (m : ProcessMap Unit) : Json :=
  let f := writtenFields c generateAccountInfoDigest t₀ m
  toJson f.updateTime f.processRecords f.digest

theorem filterMap_byteValue (digest : List UInt8) :
    (digest.map fun b => Json.num b.toNat).filterMap byteValue? = digest := by
  have hbyte (b : UInt8) : byteValue? (.num b.toNat) = some b := by
    have hb : ((b.toNat : Int) % 256).toNat = b.toNat := by
      have := b.toNat_lt
      omega
    rw [byteValue?, hb, UInt8.ofNat_toNat]
  rw [List.filterMap_map, show byteValue? ∘ (fun b : UInt8 => Json.num b.toNat) = some from funext hbyte,
    List.filterMap_some]

theorem readFields_toJson (ht₀ : Fits 64 t₀) {recordStr : String} (hrecord : CText.NoNul recordStr)
    (digest : List UInt8) :
    readFields (toJson t₀ recordStr digest) = some ⟨t₀, digest, recordStr⟩ := by
  have hjson : toJson t₀ recordStr digest = .obj [("updateTime", .str (toString t₀)),
      ("digest", .arr (digest.map fun b => .num b.toNat)), ("processRecords", .str recordStr)] := by
    rw [toJson, addInt64ToJson_eq (by decide), addStringToJson_eq (by decide), hrecord.cStr]
    rfl
  have htime : getInt64FromJson (toJson t₀ recordStr digest) "updateTime" = some t₀ := by
    rw [hjson]
    exact parseSigned_toString ht₀
  have hrecords : getStringFromJson (toJson t₀ recordStr digest) "processRecords" = some recordStr := by
    rw [hjson]
    exact getString_of_find (by decide) (by decide) rfl
  have hdigest : getVectorUint8FromJson (toJson t₀ recordStr digest) "digest" = digest := by
    rw [hjson]
    exact filterMap_byteValue digest
  rw [readFields, htime, hrecords, hdigest]
  rfl

theorem contentOf_persistStr (ht₀ : Fits 64 t₀) (hdoc : Faithful c (writtenJson c generateAccountInfoDigest t₀ m)) :
    contentOf c (persistStr c generateAccountInfoDigest t₀ m) =
      some (writtenFields c generateAccountInfoDigest t₀ m) := by
  have hdoc' : c.createJsonFromString (persistStr c generateAccountInfoDigest t₀ m) =
      some (writtenJson c generateAccountInfoDigest t₀ m) := hdoc
  rw [contentOf, hdoc', Option.bind_some]
  exact readFields_toJson ht₀ (CText.noNul_cStr _) _

theorem sealed_writtenFields : Sealed generateAccountInfoDigest (writtenFields c generateAccountInfoDigest t₀ m) := rfl

theorem loaded_persistStr (hm : Valid Representable m) (ht₀ : Fits 64 t₀) (hlist : Faithful c (mapToJson m))
    (hdoc : Faithful c (writtenJson c generateAccountInfoDigest t₀ m)) (ht : e.uptime = .ok t) :
    loaded c generateAccountInfoDigest e (some (persistStr c generateAccountInfoDigest t₀ m)) =
      (restart e ⟨∅, some ⟨t₀, persisted m⟩⟩).processPrivilegeMap := by
  have hcontent := contentOf_persistStr ht₀ hdoc
  by_cases hacc : e.readFile = true ∧ t₀ < t ∧ e.generateDigest = true
  · obtain ⟨hread, htime, hgen⟩ := hacc
    rw [loaded_of_accepted ht hcontent ⟨hread, htime, hgen, sealed_writtenFields⟩]
    have hitems : items (c.createJsonFromString
      (writtenFields c generateAccountInfoDigest t₀ m).processRecords) =
        m.toList.filterMap fun q => q.2.toJson := by
      rw [show c.createJsonFromString (writtenFields c generateAccountInfoDigest t₀ m).processRecords =
        some (mapToJson m) from hlist]
      rfl
    rw [hitems, loadProcessRecords_mapToJson hm]
    simp [restart, PrivilegeCache.fromPersistFile, ht, hread, hgen, Int.not_le.mpr htime]
  · rw [loaded_of_not_accepted ht]
    · refine ExtTreeMap.ext_getElem? fun pid => ?_
      rw [ExtTreeMap.getElem?_empty, eq_comm, Option.eq_none_iff_forall_ne_some]
      intro p' hp'
      obtain ⟨t', f, p, hf, hread, -⟩ := getElem?_restart.mp hp'
      obtain rfl : t = t' := by simpa [ht] using hread.uptime
      obtain rfl := Option.some.inj hf
      exact hacc ⟨hread.readFile, hread.updateTime, hread.generateDigest⟩
    · intro f hf hacc'
      obtain rfl := Option.some.inj (hcontent.symm.trans hf)
      exact hacc ⟨hacc'.readFile, hacc'.updateTime, hacc'.generateDigest⟩

end written

section loadable

def Loadable (c : CJson) (generateAccountInfoDigest : String → List UInt8) (e : LoadAnswer) (t : Int)
    (content : String) : Prop :=
  ∃ f, contentOf c content = some f ∧ Accepted generateAccountInfoDigest e t f ∧
    ∃ item ∈ items (c.createJsonFromString f.processRecords), ∃ p,
      ProcessPrivilegeRecord.fromJson e t item = .ok (some p)

theorem isEmpty_loadProcessRecords {l : List Json} {m : ProcessMap Unit} :
    (loadProcessRecords e t l m).isEmpty = true ↔
      m.isEmpty = true ∧ ∀ item ∈ l, ∀ p, ProcessPrivilegeRecord.fromJson e t item ≠ .ok (some p) := by
  induction l generalizing m with
  | nil => simp [loadProcessRecords]
  | cons item l ih =>
      rw [loadProcessRecords, List.foldl_cons, ← loadProcessRecords, ih]
      split
      · rename_i p hp
        simp [hp]
      · rename_i hnone
        simpa using fun _ _ => hnone

theorem loaded_eq_empty_iff (ht : e.uptime = .ok t) :
    loaded c generateAccountInfoDigest e (some content) = ∅ ↔ ¬Loadable c generateAccountInfoDigest e t content := by
  by_cases hacc : ∃ f, contentOf c content = some f ∧ Accepted generateAccountInfoDigest e t f
  · obtain ⟨f, hf, hacc⟩ := hacc
    rw [loaded_of_accepted ht hf hacc, ← ExtTreeMap.isEmpty_iff, isEmpty_loadProcessRecords]
    simp [Loadable, hf, hacc]
  · push Not at hacc
    rw [loaded_of_not_accepted ht hacc]
    simp only [Loadable, true_iff]
    rintro ⟨f, hf, hacc', -⟩
    exact hacc f hf hacc'

end loadable

section roundTrip

variable {o : PersistAnswer} {t₀ : Int} {s : TextStore} {m : ProcessMap Unit}

/-- What a save and a load leave of a map: of the processes that are alive with
the recorded start time, the records that are not due for cleaning. -/
def restricted (e : LoadAnswer) (t : Int) (m : ProcessMap Unit) : ProcessMap Unit :=
  sweep (fun _ p =>
    let p' := (withoutRemote p).cleanCurrentExpiredPrivileges t
    if p.checkProcessAlive e.getProcessStartTime ∧ p'.getPrivilegeNum ≠ 0 then some p' else none) m

def CollisionFree (generateAccountInfoDigest : String → List UInt8) (f : FileFields) : Prop :=
  ∀ updateTime processRecords, generateDigestFromHuks generateAccountInfoDigest updateTime processRecords = f.digest →
    toString updateTime ++ ":" ++ processRecords = toString f.updateTime ++ ":" ++ f.processRecords

/-- The file no longer has the fields that were saved, and nobody replaced the
digest by the one of the new fields. -/
def Altered (c : CJson) (generateAccountInfoDigest : String → List UInt8) (f : FileFields) (content : String) : Prop :=
  contentOf c content ≠ some f ∧
    ∀ f', contentOf c content = some f' → f'.digest ≠ f.digest → ¬Sealed generateAccountInfoDigest f'

/-- What is promised of a map that was saved at `t₀` and is loaded at `t`. -/
structure RoundTrips (c : CJson) (generateAccountInfoDigest : String → List UInt8) (e : LoadAnswer) (t₀ t : Int)
    (m : ProcessMap Unit) (file : Option String) : Prop where
  restored : t₀ < t → loaded c generateAccountInfoDigest e file = restricted e t m
  outdated : t ≤ t₀ → loaded c generateAccountInfoDigest e file = ∅
  altered : m.isEmpty = false → ∀ content, Altered c generateAccountInfoDigest
    (writtenFields c generateAccountInfoDigest t₀ m) content → loaded c generateAccountInfoDigest e (some content) = ∅

/-- An empty map leaves no file behind from which a record could be loaded, and
the file of another map can be read and its processes opened. -/
structure Restorable (c : CJson) (generateAccountInfoDigest : String → List UInt8) (o : PersistAnswer) (e : LoadAnswer)
    (t₀ t : Int) (s : TextStore) : Prop where
  deleted : s.processPrivilegeMap.isEmpty = true → o.deleteFile = true ∨
    ∀ content, s.file = some content → ¬Loadable c generateAccountInfoDigest e t content
  opened {pid : Int} {p : ProcessPrivilegeRecord Unit} : t₀ < t → s.processPrivilegeMap[pid]? = some p →
    p.checkProcessAlive e.getProcessStartTime = true → (p.cleanCurrentExpiredPrivileges t).getPrivilegeNum ≠ 0 →
    e.readFile = true ∧ e.generateDigest = true ∧ e.openPidFd p.pid = .ok ()

theorem getElem?_restricted {pid : Int} {p' : ProcessPrivilegeRecord Unit} :
    (restricted e t m)[pid]? = some p' ↔ ∃ p, m[pid]? = some p ∧
      p.checkProcessAlive e.getProcessStartTime = true ∧
      p' = (withoutRemote p).cleanCurrentExpiredPrivileges t ∧ p'.getPrivilegeNum ≠ 0 := by
  simp only [restricted, getElem?_sweep, Option.bind_eq_some_iff, Option.ite_none_right_eq_some,
    Option.some.injEq]
  constructor
  · rintro ⟨p, hp, ⟨halive, hn⟩, rfl⟩
    exact ⟨p, hp, halive, rfl, hn⟩
  · rintro ⟨p, hp, halive, rfl, hn⟩
    exact ⟨p, hp, ⟨halive, hn⟩, rfl⟩

theorem restricted_empty : restricted e t ∅ = ∅ := by
  refine ExtTreeMap.ext_getElem? fun pid => ?_
  simp [restricted]

theorem loaded_altered
    (hfree : CollisionFree generateAccountInfoDigest (writtenFields c generateAccountInfoDigest t₀ m))
    (ht : e.uptime = .ok t)
    (h : Altered c generateAccountInfoDigest (writtenFields c generateAccountInfoDigest t₀ m) content) :
    loaded c generateAccountInfoDigest e (some content) = ∅ := by
  refine loaded_of_not_accepted ht fun f hf hacc => ?_
  have hsealed : Sealed generateAccountInfoDigest f := hacc.digest
  by_cases hdigest : f.digest = (writtenFields c generateAccountInfoDigest t₀ m).digest
  · refine h.1 (hf.trans (congrArg some ?_))
    have hinput := hfree f.updateTime f.processRecords (hsealed.symm.trans hdigest)
    obtain ⟨htime, hrecords⟩ := toString_append_injective (c := ':') (by decide) (by decide) hinput
    cases f
    simp only [writtenFields] at *
    simp [htime, hrecords, hdigest]
  · exact h.2 f hf hdigest hsealed

theorem loaded_none (e : LoadAnswer) : loaded c generateAccountInfoDigest e none = ∅ := by
  unfold loaded PrivilegeCacheText.fromPersistFile
  cases e.uptime <;> rfl

theorem restart_eq_restricted_iff (ht : e.uptime = .ok t) (htime : t₀ < t) (hm : WellFormed m) :
    (restart e ⟨∅, some ⟨t₀, persisted m⟩⟩).processPrivilegeMap = restricted e t m ↔
      ∀ (pid : Int) (p : ProcessPrivilegeRecord Unit), m[pid]? = some p →
        p.checkProcessAlive e.getProcessStartTime = true →
        (p.cleanCurrentExpiredPrivileges t).getPrivilegeNum ≠ 0 →
        e.readFile = true ∧ e.generateDigest = true ∧ e.openPidFd p.pid = .ok () := by
  constructor
  · intro heq pid p hp halive hn
    have hp' : (restricted e t m)[pid]? = some ((withoutRemote p).cleanCurrentExpiredPrivileges t) :=
      getElem?_restricted.mpr ⟨p, hp, halive, rfl, hn⟩
    rw [← heq] at hp'
    obtain ⟨t', f, q, hf, hread, hq, hload⟩ := getElem?_restart.mp hp'
    obtain rfl := Option.some.inj hf
    obtain ⟨p₀, hp₀, rfl, -⟩ := getElem?_persisted.mp hq
    obtain rfl : p = p₀ := Option.some.inj (hp.symm.trans hp₀)
    exact ⟨hread.readFile, hread.generateDigest, (loadProcess_eq_some.mp hload).2.2.1⟩
  · intro hopen
    refine ExtTreeMap.ext_getElem? fun pid => Option.ext fun p' => ?_
    rw [getElem?_restart, getElem?_restricted]
    constructor
    · rintro ⟨t', f, q, hf, hread, hq, hload⟩
      obtain rfl : t = t' := by simpa [ht] using hread.uptime
      obtain rfl := Option.some.inj hf
      obtain ⟨p, hp, rfl, -⟩ := getElem?_persisted.mp hq
      obtain ⟨hpid, hstart, -, rfl, hn⟩ := loadProcess_eq_some.mp hload
      exact ⟨p, hp, checkProcessAlive_iff.mpr ⟨hpid, hstart⟩, rfl, hn⟩
    · rintro ⟨p, hp, halive, rfl, hn⟩
      obtain ⟨hread, hgen, hfd⟩ := hopen pid p hp halive hn
      obtain ⟨hpid, hstart⟩ := checkProcessAlive_iff.mp halive
      refine ⟨t, _, withoutRemote p, rfl, ⟨ht, hread, htime, hgen⟩, ?_, ?_⟩
      · exact getElem?_persisted.mpr ⟨p, hp, rfl, hm.nonempty hp⟩
      · exact loadProcess_eq_some.mpr ⟨hpid, hstart, hfd, rfl, hn⟩

theorem restart_outdated (ht : e.uptime = .ok t) (htime : t ≤ t₀) :
    (restart e ⟨∅, some ⟨t₀, persisted m⟩⟩).processPrivilegeMap = ∅ := by
  refine ExtTreeMap.ext_getElem? fun pid => ?_
  rw [ExtTreeMap.getElem?_empty, Option.eq_none_iff_forall_ne_some]
  intro p' hp'
  obtain ⟨t', f, p, hf, hread, -⟩ := getElem?_restart.mp hp'
  obtain rfl : t = t' := by simpa [ht] using hread.uptime
  obtain rfl := Option.some.inj hf
  exact absurd hread.updateTime (Int.not_lt.mpr htime)

theorem roundTrips_empty_iff (ht : e.uptime = .ok t) {file : Option String} :
    RoundTrips c generateAccountInfoDigest e t₀ t ∅ file ↔
      ∀ content, file = some content → ¬Loadable c generateAccountInfoDigest e t content := by
  have hloaded : loaded c generateAccountInfoDigest e file = ∅ ↔
      ∀ content, file = some content → ¬Loadable c generateAccountInfoDigest e t content := by
    cases file with
    | none => simp [loaded_none]
    | some content => simp [loaded_eq_empty_iff ht]
  rw [← hloaded]
  constructor
  · intro h
    by_cases htime : t₀ < t
    · rw [h.restored htime, restricted_empty]
    · exact h.outdated (by omega)
  · intro h
    exact ⟨fun _ => by rw [h, restricted_empty], fun _ => h, fun hne => by simp at hne⟩

/-- A save that succeeds is undone by a later load exactly when an empty map
removed its file and the environment lets the file and the processes be opened. -/
theorem toPersistFile_roundTrips_iff (hm : Valid Representable s.processPrivilegeMap) (ht₀ : Fits 64 t₀)
    (hfree : CollisionFree generateAccountInfoDigest
      (writtenFields c generateAccountInfoDigest t₀ s.processPrivilegeMap))
    (hlist : Faithful c (mapToJson s.processPrivilegeMap))
    (hdoc : Faithful c (writtenJson c generateAccountInfoDigest t₀ s.processPrivilegeMap))
    (hsave : (toPersistFile c generateAccountInfoDigest o t₀ s).1 = .ok ()) (ht : e.uptime = .ok t) :
    RoundTrips c generateAccountInfoDigest e t₀ t s.processPrivilegeMap
        (toPersistFile c generateAccountInfoDigest o t₀ s).2.file ↔
      Restorable c generateAccountInfoDigest o e t₀ t s := by
  by_cases hempty : s.processPrivilegeMap.isEmpty = true
  · have hmap : s.processPrivilegeMap = ∅ := ExtTreeMap.isEmpty_iff.mp hempty
    have hfile : (toPersistFile c generateAccountInfoDigest o t₀ s).2.file =
        if o.deleteFile then none else s.file := by
      simp [PrivilegeCacheText.toPersistFile, hempty]
    rw [hmap, hfile, roundTrips_empty_iff ht]
    cases hdelete : o.deleteFile with
    | true =>
        refine ⟨fun _ => ⟨fun _ => .inl hdelete, fun _ hp => ?_⟩, by simp⟩
        simp [hmap] at hp
    | false =>
        constructor
        · intro h
          refine ⟨fun _ => .inr (by simpa using h), fun _ hp => ?_⟩
          simp [hmap] at hp
        · intro h
          simpa using (h.deleted hempty).resolve_left (by simp [hdelete])
  · have hfile : (toPersistFile c generateAccountInfoDigest o t₀ s).2.file =
        some (persistStr c generateAccountInfoDigest t₀ s.processPrivilegeMap) := by
      cases hresult : o.result with
      | error ret => simp [PrivilegeCacheText.toPersistFile, hempty, hresult] at hsave
      | ok _ => simp [PrivilegeCacheText.toPersistFile, hempty, hresult]
    have hloaded := loaded_persistStr hm ht₀ hlist hdoc ht
    rw [hfile]
    constructor
    · intro h
      refine ⟨fun hne => absurd hne hempty, fun htime => ?_⟩
      have hrestored := h.restored htime
      rw [hloaded, restart_eq_restricted_iff ht htime hm.wellFormed] at hrestored
      exact hrestored _ _
    · intro h
      refine ⟨fun htime => ?_, fun htime => ?_, fun _ content haltered => loaded_altered hfree ht haltered⟩
      · rw [hloaded, restart_eq_restricted_iff ht htime hm.wellFormed]
        exact fun pid p => h.opened htime
      · rw [hloaded, restart_outdated ht htime]

end roundTrip

section examples

def savedMap : ProcessMap Unit := oneRecord 1000 20000123 42 none ⟨0, 900000, 7, .notRequired, ()⟩

def savedRecords : String :=
  "[\x7b\"pid\":1000,\"uid\":20000123,\"processStartTime\":\"42\",\"privilegeRecords\":[\x7b\"privilegeName\":" ++
  "\"ohos.privilege.manage_local_accounts\",\"expiredTimeStamp\":\"900000\",\"safeStartTime\":\"7\"," ++
  "\"authStatus\":\"NOT_REQUIRED\"\x7d]\x7d]"

def savedDigest (input : String) : List UInt8 :=
  if input = toString (600000 : Int) ++ ":" ++ savedRecords then List.replicate 32 171 else List.replicate 32 0

def savedJson : Json := toJson 600000 savedRecords (List.replicate 32 171)

def savedFile : String :=
  "\x7b\"updateTime\":\"600000\",\"digest\":[171,171,171,171,171,171,171,171,171,171,171,171," ++
  "171,171,171,171,171,171,171,171,171,171,171,171,171,171,171,171,171,171,171,171]," ++
  "\"processRecords\":\"[\x7b\\\"pid\\\":1000,\\\"uid\\\":20000123,\\\"processStartTime\\\":\\\"42\\\"," ++
  "\\\"privilegeRecords\\\":[\x7b\\\"privilegeName\\\":\\\"ohos.privilege.manage_local_accounts\\\"," ++
  "\\\"expiredTimeStamp\\\":\\\"900000\\\",\\\"safeStartTime\\\":\\\"7\\\",\\\"authStatus\\\":\\\"NOT_REQUIRED\\\"\x7d]\x7d]\"\x7d"

def savedCJson : CJson where
  printUnformatted
    | .arr _ => savedRecords
    | _ => savedFile
  parse s := if s = savedRecords then some (mapToJson savedMap) else if s = savedFile then some savedJson else none

def savedAnswer : LoadAnswer where
  uptime := .ok 800000
  readFile := true
  generateDigest := true
  deleteFile := true
  getProcessStartTime _ := .ok 42
  openPidFd _ := .ok ()

theorem valid_savedMap : Valid Representable savedMap := by
  refine ⟨wellFormed_oneRecord _ _ _ _ _, fun hp hr => ?_⟩
  simp only [savedMap, oneRecord, ExtTreeMap.getElem?_insert, LawfulEqCmp.compare_eq_iff_eq,
    ExtTreeMap.getElem?_empty, Option.ite_none_right_eq_some, Option.some.injEq] at hp
  obtain ⟨-, rfl⟩ := hp
  simp only [ExtTreeMap.getElem?_insert, LawfulEqCmp.compare_eq_iff_eq, ExtTreeMap.getElem?_empty,
    Option.ite_none_right_eq_some, Option.some.injEq] at hr
  obtain ⟨-, rfl⟩ := hr
  exact ⟨by decide, by decide, by decide, by decide, by decide, by decide⟩

theorem packJsonToString_savedMap : savedCJson.packJsonToString (mapToJson savedMap) = savedRecords := by
  have hnul : CText.NoNul savedRecords := by
    unfold savedRecords
    refine .append (.append ?_ ?_) ?_ <;> decide +kernel
  exact hnul.cStr

theorem faithful_savedRecords : Faithful savedCJson (mapToJson savedMap) := by
  have hne : savedRecords ≠ "" := by decide
  rw [Faithful, packJsonToString_savedMap]
  simp [CJson.createJsonFromString, savedCJson, hne]

theorem generateDigestFromHuks_savedRecords :
    generateDigestFromHuks savedDigest 600000 savedRecords = List.replicate 32 171 := by
  rw [generateDigestFromHuks, savedDigest, if_pos rfl]

theorem writtenFields_savedMap :
    writtenFields savedCJson savedDigest 600000 savedMap = ⟨600000, List.replicate 32 171, savedRecords⟩ := by
  rw [writtenFields, packJsonToString_savedMap, generateDigestFromHuks_savedRecords]

theorem writtenJson_savedMap : writtenJson savedCJson savedDigest 600000 savedMap = savedJson := by
  rw [writtenJson, writtenFields_savedMap, savedJson]

theorem packJsonToString_savedJson : savedCJson.packJsonToString savedJson = savedFile := by
  have hnul : CText.NoNul savedFile := by
    unfold savedFile
    refine .append (.append (.append (.append ?_ ?_) ?_) ?_) ?_ <;> decide +kernel
  exact hnul.cStr

theorem faithful_savedFile : Faithful savedCJson (writtenJson savedCJson savedDigest 600000 savedMap) := by
  have hne : savedFile ≠ "" := by decide
  have hne' : savedFile ≠ savedRecords := by decide
  rw [writtenJson_savedMap, Faithful, packJsonToString_savedJson]
  simp [CJson.createJsonFromString, savedCJson, hne, hne']

theorem collisionFree_savedMap : CollisionFree savedDigest (writtenFields savedCJson savedDigest 600000 savedMap) := by
  intro updateTime processRecords h
  rw [writtenFields_savedMap] at h ⊢
  by_contra hne
  rw [generateDigestFromHuks, savedDigest, if_neg hne] at h
  exact absurd h (by decide)

theorem toPersistFile_roundTrips_savedMap :
    (toPersistFile savedCJson savedDigest .allOk 600000 ⟨savedMap, none⟩).1 = .ok () ∧
      RoundTrips savedCJson savedDigest savedAnswer 600000 800000 savedMap
        (toPersistFile savedCJson savedDigest .allOk 600000 ⟨savedMap, none⟩).2.file := by
  have hne : savedMap.isEmpty = false := by simp [savedMap, oneRecord]
  have hsave : (toPersistFile savedCJson savedDigest .allOk 600000 ⟨savedMap, none⟩).1 = .ok () := by
    rw [PrivilegeCacheText.toPersistFile, hne]
    rfl
  refine ⟨hsave, (toPersistFile_roundTrips_iff (s := ⟨savedMap, none⟩) valid_savedMap (by decide)
    collisionFree_savedMap faithful_savedRecords faithful_savedFile hsave rfl).mpr ⟨?_, ?_⟩⟩
  · exact fun hempty => absurd hempty (by simp [hne])
  · exact fun _ _ _ _ => ⟨rfl, rfl, rfl⟩

/-- The file of an earlier map survives when it cannot be deleted, and its
record comes back although the map that was saved last is empty. -/
theorem toPersistFile_revives :
    (toPersistFile savedCJson savedDigest { PersistAnswer.allOk with deleteFile := false } 700000
        ⟨∅, some savedFile⟩).1 = .ok () ∧
      ¬RoundTrips savedCJson savedDigest savedAnswer 700000 800000 ∅
        (toPersistFile savedCJson savedDigest { PersistAnswer.allOk with deleteFile := false } 700000
          ⟨∅, some savedFile⟩).2.file := by
  have hloaded : loaded savedCJson savedDigest savedAnswer (some savedFile) =
      restricted savedAnswer 800000 savedMap := by
    have hfile : savedFile = persistStr savedCJson savedDigest 600000 savedMap := by
      rw [← packJsonToString_savedJson, ← writtenJson_savedMap, persistStr, writtenJson, writtenFields]
    rw [hfile, loaded_persistStr valid_savedMap (by decide) faithful_savedRecords faithful_savedFile rfl]
    exact (restart_eq_restricted_iff rfl
      (by decide) valid_savedMap.wellFormed).mpr fun _ _ _ _ _ => ⟨rfl, rfl, rfl⟩
  have hsave : toPersistFile savedCJson savedDigest { PersistAnswer.allOk with deleteFile := false } 700000
      ⟨∅, some savedFile⟩ = (.ok (), ⟨∅, some savedFile⟩) := by
    simp [PrivilegeCacheText.toPersistFile]
  rw [hsave]
  refine ⟨rfl, fun h => ?_⟩
  have hempty := h.restored (by decide)
  rw [restricted_empty, hloaded] at hempty
  have hentry : ∃ p', (restricted savedAnswer 800000 savedMap)[(1000 : Int)]? = some p' := by
    refine ⟨_, getElem?_restricted.mpr ⟨_, by simp [savedMap, oneRecord]; rfl, rfl, rfl, fun hzero => ?_⟩⟩
    rw [ProcessPrivilegeRecord.getPrivilegeNum_eq_zero] at hzero
    have hkept := (ProcessPrivilegeRecord.getElem?_cleanCurrentExpiredPrivileges (withoutRemote
      ⟨1000, 20000123, 42, none, (∅ : RecordMap Unit).insert 0 ⟨0, 900000, 7, .notRequired, ()⟩⟩) 800000 0
      ⟨0, 900000, 7, .notRequired, ()⟩).mpr ⟨by simp [withoutRemote], by decide⟩
    exact absurd ((hzero 0).symm.trans hkept) (by simp)
  obtain ⟨p', hp'⟩ := hentry
  rw [hempty] at hp'
  simp at hp'

end examples

end OsAccount.PrivilegeCacheFile
