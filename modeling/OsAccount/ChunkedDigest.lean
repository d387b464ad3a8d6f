import OsAccount.Segments
import Mathlib.Algebra.Order.Ring.Nat

namespace OsAccount.ChunkedDigest

open Segments

def maxUpdateSize : Nat := 256 * 100

theorem maxUpdateSize_pos : 0 < maxUpdateSize := by decide

def times : Nat := 4

structure HksBlob where
  size : UInt32
  data : Nat
deriving DecidableEq

def HksBlob.segment (blob : HksBlob) : Segment := ⟨blob.data, blob.size.toNat⟩

/-- What one turn of the loop gets from outside: memory for the output or none, and the result of the update. -/
structure Answer where
  allocated : Bool := true
  ret : Int32 := 0

def Answer.succeeds (a : Answer) : Bool := a.allocated && decide (a.ret = 0)

inductive Call
  | malloc (blobSize : UInt32) (allocated : Bool)
  | hksUpdate (inDataSeg : HksBlob) (ret : Int32)
deriving DecidableEq

namespace Call

def updateSucceeds : Call → Bool
  | malloc _ _ => true
  | hksUpdate _ ret => ret = 0

def segment? : Call → Option HksBlob
  | malloc _ _ => none
  | hksUpdate inDataSeg _ => some inDataSeg

end Call

/-- From its turn `n` on a run gets the answers of these turns: in each of them first memory is asked for, and then,
unless there was none, the digest is updated. -/
def Carries (answer : Nat → Answer) : Nat → List Call → Prop
  | _, [] => True
  | n, [.malloc _ allocated] => allocated = (answer n).allocated
  | n, .malloc _ allocated :: .hksUpdate _ ret :: calls =>
      allocated = (answer n).allocated ∧ ret = (answer n).ret ∧ Carries answer (n + 1) calls
  | _, _ => False

def passed (calls : List Call) : List HksBlob := calls.filterMap Call.segment?

def mallocAndCheckBlobData (blobSize : UInt32) (allocated : Bool) : Int32 :=
  if blobSize = 0 then -1 else if allocated then 0 else -1

section loop

variable (limit : Nat) (answer : Nat → Answer) (lastPtr : Nat)

def prepare (inDataSeg : HksBlob) : HksBlob × UInt32 :=
  if inDataSeg.data + limit ≤ lastPtr then (inDataSeg, UInt32.ofNat (limit * times))
  else
    let size := UInt32.ofNat (lastPtr - inDataSeg.data + 1)
    ({ inDataSeg with size }, size + UInt32.ofNat limit)

def turn (a : Answer) (inDataSeg : HksBlob) (outDataSize : UInt32) (rest : Int32 × List Call) : Int32 × List Call :=
  let malloc := Call.malloc outDataSize a.allocated
  let update := Call.hksUpdate inDataSeg a.ret
  if mallocAndCheckBlobData outDataSize a.allocated ≠ 0 then (-1, [malloc])
  else if a.ret ≠ 0 then (-1, [malloc, update])
  else (rest.1, malloc :: update :: rest.2)

/-- The loop of `HksUpdateOpt` from its turn `n` on, with segments of at most `limit` bytes. -/
def updateLoop (hpos : 0 < limit) (n : Nat) (inDataSeg : HksBlob) (isFinished : Bool) : Int32 × List Call :=
  if _h : inDataSeg.data ≤ lastPtr then
    let prepared := prepare limit lastPtr inDataSeg
    let isFinished := isFinished || !decide (inDataSeg.data + limit ≤ lastPtr)
    turn (answer n) prepared.1 prepared.2
      (if isFinished = false ∧ inDataSeg.data + limit > lastPtr then (0, [])
      else updateLoop hpos (n + 1) ⟨prepared.1.size, inDataSeg.data + limit⟩ isFinished)
  else (0, [])
termination_by lastPtr + 1 - inDataSeg.data
decreasing_by omega

end loop

def hksUpdateOpt (answer : Nat → Answer) (inData : HksBlob) : Int32 × List Call :=
  updateLoop maxUpdateSize answer (inData.data + inData.size.toNat - 1) maxUpdateSize_pos 0
    { inData with size := UInt32.ofNat maxUpdateSize } false

def turns (limit size : Nat) : Nat := (size - 1) / limit + 1

/-- Each segment is there, fits, and lies in the buffer, and together they are its bytes in order. -/
structure Complete (memory : Nat → UInt8) (inData : HksBlob) (segments : List HksBlob) : Prop where
  content : segments.flatMap (fun blob => blob.segment.content memory) = inData.segment.content memory
  size : ∀ blob ∈ segments, 0 < blob.size.toNat ∧ blob.size.toNat ≤ maxUpdateSize
  inside : ∀ blob ∈ segments, inData.data ≤ blob.data ∧ blob.data + blob.size.toNat ≤ inData.data + inData.size.toNat

section spec

variable {limit : Nat} {answer : Nat → Answer} {lastPtr n data : Nat}

theorem mallocAndCheckBlobData_eq_zero {blobSize : UInt32} {allocated : Bool} :
    mallocAndCheckBlobData blobSize allocated = 0 ↔ blobSize ≠ 0 ∧ allocated = true := by
  unfold mallocAndCheckBlobData
  by_cases hsize : blobSize = 0
  · simp [hsize]
  · cases allocated <;> simp [hsize]

theorem answer_succeeds {a : Answer} : a.succeeds = true ↔ a.allocated = true ∧ a.ret = 0 := by
  rw [Answer.succeeds, Bool.and_eq_true, decide_eq_true_iff]

/-- What a run does from an address on: it returns 0 if and only if the answers of its turns are all good, and then
its segments reach from there to the end. -/
structure Spec (limit : Nat) (answer : Nat → Answer) (n data lastPtr : Nat) (r : Int32 × List Call) : Prop where
  ret : r.1 = 0 ↔ ∀ i < turns limit (lastPtr + 1 - data), (answer (n + i)).succeeds = true
  carries : Carries answer n r.2
  tiles : r.1 = 0 → Tiles limit data (lastPtr + 1) ((passed r.2).map HksBlob.segment)

theorem turn_spec (segment : HksBlob) {outDataSize : UInt32} {rest : Int32 × List Call} (hout : outDataSize ≠ 0)
    (hrest : Carries answer (n + 1) rest.2) :
    ((turn (answer n) segment outDataSize rest).1 = 0 ↔ (answer n).succeeds = true ∧ rest.1 = 0) ∧
      Carries answer n (turn (answer n) segment outDataSize rest).2 ∧
      ((turn (answer n) segment outDataSize rest).1 = 0 →
        passed (turn (answer n) segment outDataSize rest).2 = segment :: passed rest.2) := by
  have herror : (-1 : Int32) ≠ 0 := by decide
  rw [answer_succeeds]
  unfold turn
  dsimp only
  split
  · rename_i hmalloc
    rw [Ne, mallocAndCheckBlobData_eq_zero, not_and] at hmalloc
    exact ⟨iff_of_false herror fun h => hmalloc hout h.1.1, rfl, fun h0 => absurd h0 herror⟩
  · rename_i hmalloc
    rw [not_ne_iff, mallocAndCheckBlobData_eq_zero] at hmalloc
    split
    · rename_i hret
      exact ⟨iff_of_false herror fun h => hret h.1.2, ⟨rfl, rfl, trivial⟩, fun h0 => absurd h0 herror⟩
    · rename_i hret
      rw [not_ne_iff] at hret
      exact ⟨⟨fun h0 => ⟨⟨hmalloc.2, hret⟩, h0⟩, fun h => h.2⟩, ⟨rfl, rfl, hrest⟩, fun _ => rfl⟩

theorem toNat_ofNat_of_lt {m : Nat} (h : m < 2 ^ 32) : (UInt32.ofNat m).toNat = m := by
  rw [UInt32.toNat_ofNat', Nat.mod_eq_of_lt h]

theorem ne_zero_of_toNat_pos {x : UInt32} (h : 0 < x.toNat) : x ≠ 0 := by
  rintro rfl
  exact Nat.lt_irrefl 0 h

theorem prepare_spec {inDataSeg : HksBlob} (hlimit : limit * times < 2 ^ 32) (hpos : 0 < limit)
    (hsize : inDataSeg.size = UInt32.ofNat limit) (h : inDataSeg.data ≤ lastPtr) :
    (prepare limit lastPtr inDataSeg).1.data = inDataSeg.data ∧ (prepare limit lastPtr inDataSeg).2 ≠ 0 ∧
      (prepare limit lastPtr inDataSeg).1.size.toNat = min limit (lastPtr - inDataSeg.data + 1) := by
  unfold prepare times at *
  split
  · refine ⟨rfl, ne_zero_of_toNat_pos ?_, ?_⟩
    · rw [toNat_ofNat_of_lt hlimit]
      omega
    · rw [hsize, toNat_ofNat_of_lt (by omega)]
      omega
  · have hrest : (UInt32.ofNat (lastPtr - inDataSeg.data + 1)).toNat = lastPtr - inDataSeg.data + 1 :=
      toNat_ofNat_of_lt (by omega)
    refine ⟨rfl, ne_zero_of_toNat_pos ?_, ?_⟩
    · rw [UInt32.toNat_add, hrest, toNat_ofNat_of_lt (by omega), Nat.mod_eq_of_lt (by omega)]
      omega
    · rw [hrest]
      omega

theorem turns_of_le {size : Nat} (hpos : 0 < size) (h : size ≤ limit) : turns limit size = 1 := by
  rw [turns, Nat.div_eq_of_lt (by omega)]

theorem turns_of_lt {size : Nat} (hpos : 0 < limit) (h : limit < size) :
    turns limit size = turns limit (size - limit) + 1 := by
  have hsize : size - 1 = (size - limit - 1) + limit := by omega
  rw [turns, turns, hsize, Nat.add_div_right _ hpos]

theorem forall_lt_succ {k : Nat} {p : Nat → Prop} : (∀ i < k + 1, p i) ↔ p 0 ∧ ∀ i < k, p (i + 1) := by
  constructor
  · exact fun h => ⟨h 0 (Nat.succ_pos k), fun i hi => h (i + 1) (Nat.succ_lt_succ hi)⟩
  · rintro ⟨hzero, hsucc⟩ i hi
    cases i with
    | zero => exact hzero
    | succ i => exact hsucc i (Nat.lt_of_succ_lt_succ hi)

theorem spec_updateLoop (hpos : 0 < limit) (hlimit : limit * times < 2 ^ 32) {inDataSeg : HksBlob}
    (hsize : inDataSeg.size = UInt32.ofNat limit) (h : inDataSeg.data ≤ lastPtr) :
    Spec limit answer n inDataSeg.data lastPtr (updateLoop limit answer lastPtr hpos n inDataSeg false) := by
  induction hleft : lastPtr - inDataSeg.data using Nat.strongRecOn generalizing inDataSeg n with
  | ind left ih =>
      obtain ⟨hdata, hout, hsegment⟩ := prepare_spec hlimit hpos hsize h
      rw [updateLoop, dif_pos h]
      dsimp only
      by_cases hmore : inDataSeg.data + limit ≤ lastPtr
      · have hprepared : (prepare limit lastPtr inDataSeg).1 = inDataSeg := by rw [prepare, if_pos hmore]
        rw [if_neg (by omega), decide_eq_true hmore, Bool.not_true, Bool.or_false, hprepared]
        rw [hprepared, Nat.min_eq_left (by omega)] at hsegment
        have hleft' : lastPtr - (inDataSeg.data + limit) < left := by omega
        have hrest := @ih _ hleft' (n + 1) ⟨inDataSeg.size, inDataSeg.data + limit⟩ hsize hmore rfl
        obtain ⟨hret, hcarries, hpassed⟩ := turn_spec inDataSeg hout hrest.carries
        refine ⟨?_, hcarries, fun h0 => ?_⟩
        · have hturns : turns limit (lastPtr + 1 - inDataSeg.data) =
              turns limit (lastPtr + 1 - inDataSeg.data - limit) + 1 := turns_of_lt hpos (by omega)
          have hshift : lastPtr + 1 - inDataSeg.data - limit = lastPtr + 1 - (inDataSeg.data + limit) := by omega
          rw [hret, hrest.ret, hturns, forall_lt_succ, hshift]
          simp only [Nat.add_zero, Nat.add_assoc, Nat.add_comm 1]
        · rw [hpassed h0, List.map_cons]
          refine ⟨rfl, ⟨Nat.lt_of_lt_of_eq hpos hsegment.symm, hsegment.le⟩, ?_⟩
          rw [HksBlob.segment, hsegment]
          exact hrest.tiles (hret.mp h0).2
      · -- the last turn has set `isFinished`, and the next test of the loop fails
        rw [decide_eq_false hmore, if_neg (by simp), updateLoop, dif_neg hmore]
        rw [Nat.min_eq_right (by omega)] at hsegment
        have hnone : Carries answer (n + 1) (((0 : Int32), ([] : List Call))).2 := trivial
        obtain ⟨hret, hcarries, hpassed⟩ := turn_spec (prepare limit lastPtr inDataSeg).1 hout hnone
        refine ⟨?_, hcarries, fun h0 => ?_⟩
        · rw [hret, turns_of_le (by omega) (by omega), forall_lt_succ, Nat.add_zero]
          exact and_congr_right fun _ => iff_of_true rfl fun i hi => absurd hi (Nat.not_lt_zero i)
        · rw [hpassed h0, List.map_cons]
          refine ⟨hdata, ⟨Nat.lt_of_lt_of_eq (Nat.succ_pos _) hsegment.symm, hsegment.le.trans (by omega)⟩, ?_⟩
          · change inDataSeg.data + (prepare limit lastPtr inDataSeg).1.size.toNat = lastPtr + 1
            omega

end spec

theorem spec_hksUpdateOpt (answer : Nat → Answer) {inData : HksBlob} (hsize : inData.size ≠ 0) :
    Spec maxUpdateSize answer 0 inData.data (inData.data + inData.size.toNat - 1) (hksUpdateOpt answer inData) := by
  have hpos : inData.size.toNat ≠ 0 := fun h => hsize (UInt32.toNat_inj.mp h)
  unfold hksUpdateOpt
  exact @spec_updateLoop _ _ _ _ maxUpdateSize_pos (by decide) ⟨_, inData.data⟩ rfl (by dsimp only; omega)

/-- The digest of a buffer that is not empty is updated with all of its bytes in order, for every length. The
result is 0 if and only if memory is there and the update succeeds in each of the turns that the buffer takes. -/
theorem hksUpdateOpt_complete (memory : Nat → UInt8) (answer : Nat → Answer) (inData : HksBlob)
    (hsize : inData.size ≠ 0) :
    ((hksUpdateOpt answer inData).1 = 0 ↔
        ∀ n < turns maxUpdateSize inData.size.toNat, (answer n).succeeds = true) ∧
      Carries answer 0 (hksUpdateOpt answer inData).2 ∧
      ((hksUpdateOpt answer inData).1 = 0 → Complete memory inData (passed (hksUpdateOpt answer inData).2)) := by
  have hspec := spec_hksUpdateOpt answer hsize
  have hpos : inData.size.toNat ≠ 0 := fun h => hsize (UInt32.toNat_inj.mp h)
  have hlength : inData.data + inData.size.toNat - 1 + 1 - inData.data = inData.size.toNat := by omega
  refine ⟨?_, hspec.carries, fun h0 => ?_⟩
  · rw [hspec.ret, hlength]
    simp only [Nat.zero_add]
  have htiles := hspec.tiles h0
  rw [Nat.sub_add_cancel (by omega)] at htiles
  refine ⟨?_, fun blob hblob => ?_, fun blob hblob => ?_⟩
  · have hcontent := htiles.content memory
    rwa [List.flatMap_map, Nat.add_sub_cancel_left] at hcontent
  · exact (htiles.mem (List.mem_map_of_mem hblob)).1
  · exact (htiles.mem (List.mem_map_of_mem hblob)).2

/-- A buffer one byte longer than a segment: two turns, both answered well. -/
theorem hksUpdateOpt_complete_twoSegments : (hksUpdateOpt (fun _ => {}) ⟨25601, 4096⟩).1 = 0 ∧
    Complete (fun _ => 7) ⟨25601, 4096⟩ (passed (hksUpdateOpt (fun _ => {}) ⟨25601, 4096⟩).2) := by
  obtain ⟨hret, -, hcomplete⟩ := hksUpdateOpt_complete (fun _ => 7) (fun _ => {}) ⟨25601, 4096⟩ (by decide)
  have h0 := hret.mpr fun _ _ => by decide
  exact ⟨h0, hcomplete h0⟩

/-- Without memory for the output no update is called, so that none fails, and nothing has been passed. -/
theorem not_complete_of_noMemory :
    ¬∀ (answer : Nat → Answer) (inData : HksBlob), inData.size ≠ 0 →
      (∀ c ∈ (hksUpdateOpt answer inData).2, c.updateSucceeds = true) → (hksUpdateOpt answer inData).1 = 0 := by
  intro h
  have hrun : hksUpdateOpt (fun _ => { allocated := false }) ⟨1, 4096⟩ = (-1, [.malloc 25601 false]) := by
    rw [hksUpdateOpt, updateLoop, dif_pos (by decide)]
    decide
  have hret := h (fun _ => { allocated := false }) ⟨1, 4096⟩ (by decide)
  rw [hrun] at hret
  exact absurd (hret (by decide)) (by decide)

end OsAccount.ChunkedDigest
