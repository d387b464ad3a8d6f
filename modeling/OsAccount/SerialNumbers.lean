import OsAccount.AccountFiles
import Mathlib.Algebra.Group.Nat.Defs
import Mathlib.Algebra.Ring.Int.Defs

namespace OsAccount.SerialNumbers

open Decimal Std JsonUtils AccountList AccountFiles

def base : Int := serialNumberNumStartForAdmin * carryNum

abbrev LocalId := {id : Int // Fits 32 id}

/-- `serialNumber` is what the variable holds that the creator passes to
`GetSerialNumber`. -/
inductive Event
  | create (id : LocalId) (serialNumber : Int)
  | delete (id : LocalId)

def initial (ids : List LocalId) : Files := ⟨buildAccountListJson ((ids.map Subtype.val).map toString), ∅⟩

section numbers

variable {n : Int} {full : Bool} {ids infos : List Int} {j : Json}

def firstTried (n : Int) : Int := if n = carryNum then serialNumberNumStart else n

/-- The number that `getSerialNumber` takes, from the counter and the flag in the
list. -/
def taken (infos : List Int) (n : Int) (full : Bool) : Int :=
  if full = true ∨ n = carryNum then skipSerialNumbers infos infos.length (firstTried n) else firstTried n

theorem getSerialNumber_view (h : View n full ids j) (infos : List Int) (serialNumber : Int)
    (hfits : Fits 64 (taken infos n full + 1)) :
    ∃ j', getSerialNumber (.ok infos) serialNumber j = .ok (taken infos n full + base, j') ∧
      View (taken infos n full + 1) (full || decide (n = carryNum)) ids j' := by
  by_cases hn : n = carryNum
  · have h' := h.setFull
    refine ⟨_, ?_, by simpa [hn] using h'.setSerialNumber hfits⟩
    simp only [getSerialNumber, h.serialNumber, Option.getD_some, taken, firstTried, hn, if_true,
      h'.full, or_true]
    rfl
  · refine ⟨_, ?_, by simpa [hn] using h.setSerialNumber hfits⟩
    cases full with
    | true =>
        simp only [getSerialNumber, h.serialNumber, Option.getD_some, taken, firstTried, hn, if_true,
          if_false, h.full, true_or]
        rfl
    | false =>
        simp only [getSerialNumber, h.serialNumber, Option.getD_some, taken, firstTried, hn, if_false,
          h.full, Bool.false_eq_true, or_false]
        rfl

theorem nextSerialNumber_range (hlo : 1 ≤ n) (hhi : n < carryNum) :
    1 ≤ nextSerialNumber n ∧ nextSerialNumber n < carryNum := by
  simp only [nextSerialNumber, carryNum, serialNumberNumStart] at *
  omega

theorem skipSerialNumbers_range (rounds : Nat) (hlo : 1 ≤ n) (hhi : n < carryNum) :
    1 ≤ skipSerialNumbers infos rounds n ∧ skipSerialNumbers infos rounds n < carryNum := by
  induction rounds generalizing n with
  | zero => exact ⟨hlo, hhi⟩
  | succ rounds ih =>
      rw [skipSerialNumbers]
      split_ifs with hused
      · exact ih (nextSerialNumber_range hlo hhi).1 (nextSerialNumber_range hlo hhi).2
      · exact ⟨hlo, hhi⟩

theorem firstTried_range (hlo : 1 ≤ n) (hhi : n ≤ carryNum) : 1 ≤ firstTried n ∧ firstTried n < carryNum := by
  simp only [firstTried, carryNum, serialNumberNumStart] at *
  omega

theorem taken_range (hlo : 1 ≤ n) (hhi : n ≤ carryNum) : 1 ≤ taken infos n full ∧ taken infos n full < carryNum := by
  have hfirst := firstTried_range hlo hhi
  rw [taken]
  split_ifs with hfull
  · exact skipSerialNumbers_range infos.length hfirst.1 hfirst.2
  · exact hfirst

theorem accountExistsWithSerialNumber_iff (hlo : 1 ≤ n) (hhi : n < carryNum) :
    accountExistsWithSerialNumber infos n ↔ n + base ∈ infos := by
  have hnarrow : n.bmod (2 ^ 32) = n := by
    simp only [carryNum, Int.bmod] at *
    omega
  rw [accountExistsWithSerialNumber, decide_eq_true_iff, hnarrow, ← base, Int.add_comm]

end numbers

/-- The serial numbers of the accounts are below the counter as long as it has
not wrapped, and the accounts of users are in the list. -/
structure Serialized (n : Int) (full : Bool) (ids : List Int) (s : Files) : Prop where
  view : View n full ids s.list
  lo : 1 ≤ n
  hi : n ≤ carryNum
  nodup : ids.Nodup
  fits : ∀ id ∈ ids, Fits 32 id
  listed : ∀ id v, s.serialNumber? id = some v → startUserId ≤ id → id ∈ ids
  below : full = false → ∀ id v, s.serialNumber? id = some v → base + 1 ≤ v ∧ v < base + n

section serialized

variable {n : Int} {full : Bool} {ids : List Int} {s : Files}

theorem serialized_initial {ids : List LocalId} (hids : ids.Nodup) :
    Serialized 1 false (ids.map Subtype.val) (initial ids) where
  view := view_buildAccountListJson _
  lo := by decide
  hi := by decide
  nodup := hids.map Subtype.val_injective
  fits := by simp only [List.mem_map]; rintro _ ⟨id, -, rfl⟩; exact id.2
  listed := fun id v hv => by simp [initial, Files.serialNumber?] at hv
  below := fun _ id v hv => by simp [initial, Files.serialNumber?] at hv

theorem Serialized.insertOsAccount (h : Serialized n full ids s) (a : WriteAnswer) {id : Int}
    (hid : Fits 32 id) {v : Int} (hv : full = false → base + 1 ≤ v ∧ v < base + n) :
    ∃ ids', Serialized n full ids' (insertOsAccount a id v s).2 := by
  obtain hs | ⟨-, -, list, hview, hs⟩ := insertOsAccount_cases h.view a id v
  · exact ⟨ids, by rw [hs]; exact h⟩
  have hfits (id' : Int) (h' : id' ∈ enlisted ids id) : Fits 32 id' := by
    obtain hold | ⟨rfl, -⟩ := mem_enlisted.1 h'
    · exact h.fits id' hold
    · exact hid
  have hfound (id' v' : Int) (h' : (AccountFiles.insertOsAccount a id v s).2.serialNumber? id' = some v') :
      s.serialNumber? id' = some v' ∨ id' = id ∧ v' = v := by
    obtain hs | ⟨d, hd, hs⟩ := hs
    · rw [hs] at h'
      exact .inl h'
    · rw [hs, serialNumber?_insert] at h'
      split_ifs at h' with he
      · obtain rfl | rfl := hd
        · cases h'
        · exact .inr ⟨he.symm, (Option.some.inj h').symm⟩
      · exact .inl h'
  have hlist : (AccountFiles.insertOsAccount a id v s).2.list = list := by
    obtain hs | ⟨d, -, hs⟩ := hs
    · rw [hs]
    · rw [hs]
  refine ⟨_, ⟨hlist ▸ hview, h.lo, h.hi, nodup_enlisted h.nodup, hfits,
    fun id' v' h' hlow => mem_enlisted.2 ?_, fun hfull id' v' h' => ?_⟩⟩
  · obtain hold | ⟨rfl, -⟩ := hfound id' v' h'
    · exact .inl (h.listed id' v' hold hlow)
    · exact .inr ⟨rfl, hlow⟩
  · obtain hold | ⟨-, rfl⟩ := hfound id' v' h'
    · exact h.below hfull id' v' hold
    · exact hv hfull

theorem Serialized.delOsAccount (h : Serialized n full ids s) (a : WriteAnswer) (id : Int) :
    ∃ ids', Serialized n full ids' (delOsAccount a id s).2 := by
  obtain hs | ⟨-, ⟨-, hs⟩ | ⟨ids', list, hids, hview, hs⟩⟩ := delOsAccount_cases h.view a id
  · exact ⟨ids, by rw [hs]; exact h⟩
  · have hfound (id' v' : Int) (h' : (AccountFiles.delOsAccount a id s).2.serialNumber? id' = some v') :
        s.serialNumber? id' = some v' := by
      rw [hs, serialNumber?_insert] at h'
      split_ifs at h'
      exact h'
    refine ⟨ids, ⟨hs ▸ h.view, h.lo, h.hi, h.nodup, h.fits,
      fun id' v' h' => h.listed id' v' (hfound id' v' h'),
      fun hfull id' v' h' => h.below hfull id' v' (hfound id' v' h')⟩⟩
  · have hfound (id' v' : Int) (h' : (AccountFiles.delOsAccount a id s).2.serialNumber? id' = some v') :
        id' ≠ id ∧ s.serialNumber? id' = some v' := by
      rw [hs, serialNumber?_erase] at h'
      split_ifs at h' with he
      exact ⟨Ne.symm he, h'⟩
    refine ⟨ids', ⟨hs ▸ hview, h.lo, h.hi, ?_, fun id' hid' => h.fits id' ?_, fun id' v' h' hlow => ?_,
      fun hfull id' v' h' => h.below hfull id' v' (hfound id' v' h').2⟩⟩
    · obtain rfl | rfl := hids
      · exact h.nodup
      · exact nodup_listed h.nodup
    · obtain rfl | rfl := hids
      · exact hid'
      · simpa [mem_listed] using (mem_listed.1 hid').1
    · have hold := h.listed id' v' (hfound id' v' h').2 hlow
      obtain rfl | rfl := hids
      · exact hold
      · exact mem_listed.2 ⟨hold, (hfound id' v' h').1⟩

end serialized

variable (strToInt : String → Option Int)

def step (s : Files) : Event → Files
  | .create id serialNumber =>
      match getSerialNumber (.ok (getOsAccountList strToInt s)) serialNumber s.list with
      | .error _ => s
      | .ok (v, list) => (insertOsAccount .allOk id v { s with list }).2
  | .delete id => (delOsAccount .allOk id s).2

/-- What the next call of `GetSerialNumber` gives: a number in range that no
account carries, and at which the condition of its loop is false. -/
def Unused (s : Files) : Prop :=
  ∀ serialNumber, ∃ v list,
    getSerialNumber (.ok (getOsAccountList strToInt s)) serialNumber s.list = .ok (v, list) ∧
      base + 1 ≤ v ∧ v ≤ base + carryNum - 1 ∧
      ¬accountExistsWithSerialNumber (getOsAccountList strToInt s) (v - base) ∧
      ∀ id n, s.serialNumber? id = some n → v ≠ n

def Roomy (s : Files) : Prop := s.directories.size + 1 < carryNum

def WrapsListed (s : Files) : Prop :=
  getInt64FromJson s.list serialNumberNum = some carryNum ∨ getBoolFromJson s.list isSerialNumberFull = some true →
    ∀ id, (s.serialNumber? id).isSome → startUserId ≤ id

section runs

variable {strToInt} {n : Int} {full : Bool} {ids : List Int} {s : Files}

theorem Serialized.strToInt_listed (h : Serialized n full ids s)
    (hstr : ∀ id, Fits 32 id → strToInt (toString id) = some id) (id : Int) (hid : id ∈ ids) :
    strToInt (toString id) = some id :=
  hstr id (h.fits id hid)

theorem Serialized.taken_range (h : Serialized n full ids s) (infos : List Int) :
    1 ≤ taken infos n full ∧ taken infos n full < carryNum :=
  SerialNumbers.taken_range h.lo h.hi

theorem Serialized.taken_ne (h : Serialized n full ids s)
    (hstr : ∀ id, Fits 32 id → strToInt (toString id) = some id) (hroom : Roomy s) (hlisted : WrapsListed s)
    (id v : Int) (hv : s.serialNumber? id = some v) : taken (getOsAccountList strToInt s) n full + base ≠ v := by
  have hrange := h.taken_range (getOsAccountList strToInt s)
  by_cases hfull : full = true ∨ n = carryNum
  · have hid : id ∈ ids := by
      refine h.listed id v hv (hlisted ?_ id (by rw [hv]; rfl))
      obtain rfl | rfl := hfull
      · exact .inr h.view.full
      · exact .inl h.view.serialNumber
    have hmem : v ∈ getOsAccountList strToInt s := by
      rw [getOsAccountList_eq h.view (h.strToInt_listed hstr)]
      exact List.mem_filterMap.2 ⟨id, hid, hv⟩
    have hcount : (getOsAccountList strToInt s).length + 1 < carryNum := by
      have := length_getOsAccountList_le h.view (h.strToInt_listed hstr) h.nodup
      rw [Roomy] at hroom
      omega
    have hends := skipSerialNumbers_ends (firstTried_range h.lo h.hi).1 hcount
    rintro rfl
    have htaken : taken (getOsAccountList strToInt s) n full = skipSerialNumbers (getOsAccountList strToInt s)
        (getOsAccountList strToInt s).length (firstTried n) := if_pos hfull
    rw [← htaken] at hends
    exact hends ⟨hrange.2, (accountExistsWithSerialNumber_iff hrange.1 hrange.2).2 hmem⟩
  · rw [not_or, Bool.not_eq_true] at hfull
    have hbelow := h.below hfull.1 id v hv
    rw [taken, if_neg (by simpa using hfull), firstTried, if_neg hfull.2]
    omega

theorem Serialized.unused (h : Serialized n full ids s)
    (hstr : ∀ id, Fits 32 id → strToInt (toString id) = some id) (hroom : Roomy s) (hlisted : WrapsListed s) :
    Unused strToInt s := by
  intro serialNumber
  have hrange := h.taken_range (getOsAccountList strToInt s)
  obtain ⟨j', hget, -⟩ := getSerialNumber_view h.view (getOsAccountList strToInt s) serialNumber
    (fits_of_le_carryNum (by omega) (by omega))
  have hne := h.taken_ne hstr hroom hlisted
  refine ⟨_, j', hget, by omega, by omega, ?_, hne⟩
  rw [Int.add_sub_cancel, accountExistsWithSerialNumber_iff hrange.1 hrange.2,
    getOsAccountList_eq h.view (h.strToInt_listed hstr), List.mem_filterMap]
  rintro ⟨id, -, hv⟩
  exact hne id _ hv (by rw [getOsAccountList_eq h.view (h.strToInt_listed hstr)])

theorem Serialized.create (h : Serialized n full ids s) (id : LocalId) (serialNumber : Int) :
    ∃ n' full' ids', Serialized n' full' ids' (step strToInt s (.create id serialNumber)) := by
  have hrange := h.taken_range (getOsAccountList strToInt s)
  obtain ⟨j', hget, hview⟩ := getSerialNumber_view h.view (getOsAccountList strToInt s) serialNumber
    (fits_of_le_carryNum (by omega) (by omega))
  have hbelow (hfull : (full || decide (n = carryNum)) = false) :
      full = false ∧ taken (getOsAccountList strToInt s) n full = n := by
    rw [Bool.or_eq_false_iff, decide_eq_false_iff_not] at hfull
    rw [taken, firstTried, if_neg (by simp [hfull]), if_neg hfull.2]
    exact ⟨hfull.1, rfl⟩
  have hserialized : Serialized (taken (getOsAccountList strToInt s) n full + 1)
    (full || decide (n = carryNum)) ids
      { s with list := j' } := by
    refine ⟨hview, by omega, by omega, h.nodup, h.fits, h.listed, fun hfull id v hv => ?_⟩
    have := h.below (hbelow hfull).1 id v hv
    have := (hbelow hfull).2
    omega
  obtain ⟨ids', hs⟩ := hserialized.insertOsAccount .allOk id.2
    (v := taken (getOsAccountList strToInt s) n full + base) (fun _ => by omega)
  have hstep : step strToInt s (.create id serialNumber) =
      (AccountFiles.insertOsAccount .allOk id (taken (getOsAccountList strToInt s) n full + base)
        { s with list := j' }).2 := by
    simp only [step, hget]
  rw [hstep]
  exact ⟨_, _, ids', hs⟩

theorem run_serialized {ids : List LocalId} (hids : ids.Nodup) (es : List Event) :
    ∃ n full ids', Serialized n full ids' (Machine.run (step strToInt) (initial ids) es) := by
  refine @Machine.run_invariant _ _ (step strToInt) (fun s => ∃ n full ids', Serialized n full ids' s) ?_ _
    ⟨_, _, _, serialized_initial hids⟩ es
  rintro s e ⟨n, full, ids', h⟩
  cases e with
  | create id serialNumber => exact h.create id serialNumber
  | delete id =>
      obtain ⟨ids'', hs⟩ := h.delOsAccount .allOk id
      exact ⟨n, full, ids'', hs⟩

end runs

/-- In every run, a call of `GetSerialNumber` ends and gives a number that no
account carries, if every account is in the list once the counter wraps. -/
theorem serial_numbers_unique (hstr : ∀ id, Fits 32 id → strToInt (toString id) = some id)
    {ids : List LocalId} (hids : ids.Nodup) (es : List Event)
    (hroom : Roomy (Machine.run (step strToInt) (initial ids) es))
    (hlisted : WrapsListed (Machine.run (step strToInt) (initial ids) es)) :
    Unused strToInt (Machine.run (step strToInt) (initial ids) es) := by
  obtain ⟨n, full, ids', h⟩ := @run_serialized strToInt ids hids es
  exact h.unused hstr hroom hlisted

section examples

def u1Id : LocalId := ⟨1, by decide⟩

def startId : LocalId := ⟨100, by decide⟩

def userId : LocalId := ⟨101, by decide⟩

def cycles : Nat → List Event
  | 0 => []
  | k + 1 => .create userId 0 :: .delete userId :: cycles k

variable {n : Int} {s : Files}

theorem create_view {ids : List Int} (h : View n false ids s.list) (hlo : 1 ≤ n) (hhi : n < carryNum) (id : LocalId)
    (hid : adminLocalId ≤ id.1) (hnew : s.serialNumber? id = none) (serialNumber : Int) :
    ∃ list, View (n + 1) false (enlisted ids id) list ∧
      step strToInt s (.create id serialNumber) = ⟨list, s.directories.insert id (some (n + base))⟩ := by
  have htaken : taken (getOsAccountList strToInt s) n false = n := by
    rw [taken, firstTried, if_neg (by simp; omega), if_neg (by omega)]
  obtain ⟨j', hget, hview⟩ := getSerialNumber_view h (getOsAccountList strToInt s) serialNumber
    (by rw [htaken]; exact fits_of_le_carryNum (by omega) (by omega))
  rw [htaken, decide_eq_false (by omega)] at hview
  rw [htaken] at hget
  obtain ⟨list, hlist, hs⟩ := insertOsAccount_allOk (s := { s with list := j' }) hview hid hnew (n + base)
  exact ⟨list, hlist, by simp only [step, hget, hs]⟩

theorem create_delete_view (h : View n false [100] s.list) (hlo : 1 ≤ n) (hhi : n < carryNum)
    (hnew : 101 ∉ s.directories) :
    (step strToInt s (.create userId 0)).directories.size ≤ s.directories.size + 1 ∧
      ∃ list, View (n + 1) false [100] list ∧
        step strToInt (step strToInt s (.create userId 0)) (.delete userId) =
          ⟨list, s.directories⟩ := by
  have hnone : s.serialNumber? 101 = none := by
    rw [Files.serialNumber?, ExtTreeMap.getElem?_eq_none hnew]
    rfl
  obtain ⟨list, hlist, hcreate⟩ := create_view strToInt h hlo hhi userId (by decide) hnone 0
  obtain ⟨list', hlist', hdelete⟩ :=
    delOsAccount_allOk (s := ⟨list, s.directories.insert 101 (some (n + base))⟩)
    hlist (by decide : startUserId < 101) (by decide)
  have herase : (s.directories.insert 101 (some (n + base))).erase 101 = s.directories := by
    apply ExtTreeMap.ext_getElem?
    intro id
    by_cases he : 101 = id
    · subst he
      simp [ExtTreeMap.getElem?_eq_none hnew]
    · simp [ExtTreeMap.getElem?_erase, ExtTreeMap.getElem?_insert, he]
  rw [hcreate]
  refine ⟨ExtTreeMap.size_insert_le, list', hlist', ?_⟩
  simp only [step, userId, hdelete, herase]

theorem run_cycles (k : Nat) (h : View n false [100] s.list) (hlo : 1 ≤ n) (hhi : n + k ≤ carryNum)
    (hnew : 101 ∉ s.directories) (hsize : s.directories.size + 2 < carryNum) :
    Machine.Meets (step strToInt) (fun s _ => Roomy s) s (cycles k) ∧
      View (n + k) false [100] (Machine.run (step strToInt) s (cycles k)).list ∧
      (Machine.run (step strToInt) s (cycles k)).directories = s.directories := by
  induction k generalizing n s with
  | zero => exact ⟨trivial, by rw [Int.natCast_zero, Int.add_zero]; exact h, rfl⟩
  | succ k ih =>
      obtain ⟨hcreated, list, hlist, hstep⟩ := create_delete_view strToInt h hlo (by omega) hnew
      obtain ⟨hmeets, hview, hdirectories⟩ :=
        ih (n := n + 1) (s := ⟨list, s.directories⟩) hlist (by omega) (by omega) hnew hsize
      have hk : n + ((k + 1 : Nat) : Int) = n + 1 + k := by omega
      rw [cycles, Machine.run_cons, Machine.run_cons, hstep, hk, Machine.Meets, Machine.Meets, hstep]
      refine ⟨⟨?_, ?_, hmeets⟩, hview, hdirectories⟩
      · rw [Roomy]
        omega
      · rw [Roomy]
        omega

theorem run_create_cycles (id : LocalId) (hid : adminLocalId ≤ id.1) (hids : enlisted [100] id.1 = [100])
    (hne : id.1 ≠ 101) :
    Machine.Meets (step strToInt) (fun s _ => Roomy s) (initial [startId])
        (.create id 0 :: cycles 99999998) ∧
      View carryNum false [100]
        (Machine.run (step strToInt) (initial [startId]) (.create id 0 :: cycles 99999998)).list ∧
      (Machine.run (step strToInt) (initial [startId]) (.create id 0 :: cycles 99999998)).directories =
        (∅ : ExtTreeMap Int (Option Int) compare).insert id.1 (some (1 + base)) := by
  have hempty : (initial [startId]).serialNumber? id = none := by simp [initial, Files.serialNumber?]
  obtain ⟨list, hlist, hcreate⟩ := create_view strToInt (s := (initial [startId]))
    (view_buildAccountListJson [100]) (by decide) (by decide) id hid hempty 0
  rw [hids] at hlist
  have hsize : ((∅ : ExtTreeMap Int (Option Int) compare).insert id.1 (some (1 + base))).size ≤ 1 :=
    ExtTreeMap.size_insert_le
  obtain ⟨hmeets, hview, hdirectories⟩ := run_cycles strToInt 99999998 (n := 2)
    (s := ⟨list, (∅ : ExtTreeMap Int (Option Int) compare).insert id.1 (some (1 + base))⟩) hlist (by decide)
    (by decide) (by simp [hne]) (by simp only [carryNum]; omega)
  rw [Machine.run_cons, Machine.Meets, hcreate]
  exact ⟨⟨by simp [Roomy, initial, carryNum], hmeets⟩, hview, hdirectories⟩

theorem serial_numbers_unique_wrapped :
    Unused parse (Machine.run (step parse) (initial [startId])
      (.create startId 0 :: cycles 99999998)) := by
  obtain ⟨-, -, hdirectories⟩ := run_create_cycles parse startId (by decide) (by decide) (by decide)
  refine serial_numbers_unique parse (fun id _ => parse_toString id)
    (by simp) _ ?_ fun _ id hid => ?_
  · have hsize : ((∅ : ExtTreeMap Int (Option Int) compare).insert startId.1 (some (1 + base))).size ≤ 1 :=
      ExtTreeMap.size_insert_le
    rw [Roomy, hdirectories]
    simp only [carryNum]
    omega
  · rw [Files.serialNumber?, hdirectories] at hid
    by_cases he : startId.1 = id
    · exact he ▸ by decide
    · simp [he] at hid

/-- Account 1 is not in the list: once the counter has wrapped, its number is
given out again. -/
theorem wrapped_number_in_use :
    ¬∀ es : List Event, Machine.Meets (step parse) (fun s _ => Roomy s) (initial [startId]) es →
      Roomy (Machine.run (step parse) (initial [startId]) es) →
      Unused parse (Machine.run (step parse) (initial [startId]) es) := by
  intro hunused
  obtain ⟨hmeets, hview, hdirectories⟩ :=
    run_create_cycles parse u1Id (by decide) (by decide) (by decide)
  specialize hunused (.create u1Id 0 :: cycles 99999998) hmeets
  generalize Machine.run (step parse) (initial [startId])
    (.create u1Id 0 :: cycles 99999998) = s at hunused hview hdirectories
  obtain ⟨list, directories⟩ := s
  obtain rfl : directories = _ := hdirectories
  have hsize : ((∅ : ExtTreeMap Int (Option Int) compare).insert u1Id.1 (some (1 + base))).size ≤ 1 :=
    ExtTreeMap.size_insert_le
  obtain ⟨v, j, hget, -, -, -, hne⟩ := hunused (by simp only [Roomy, carryNum]; omega) 0
  have hlist : getOsAccountList parse
      ⟨list, (∅ : ExtTreeMap Int (Option Int) compare).insert u1Id.1 (some (1 + base))⟩ = [] := by
    rw [getOsAccountList_eq hview fun id _ => parse_toString id]
    simp [serialNumber?_singleton, u1Id]
  obtain ⟨j', hget', -⟩ := getSerialNumber_view hview [] 0 (by decide)
  rw [hlist, hget'] at hget
  cases hget
  exact hne u1Id (1 + base) (by rw [serialNumber?_singleton, if_pos rfl]) rfl

end examples

end OsAccount.SerialNumbers
