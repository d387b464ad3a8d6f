import Mathlib.Data.Finset.Card
import Mathlib.Data.Finset.Union
import OsAccount.ErrCode
import OsAccount.Machine

namespace OsAccount.ConstraintListeners

open Function

def uidTransformDivisor : Int := 200000

variable {L : Type} [DecidableEq L]

structure OsAccountConstraintSubscribeRecord (L : Type) where
  constraintSet : Finset String
  eventListener : L
  callingUid : Int

/-- The records that were ever made have numbers below `next`. A pointer to a record is its number. -/
structure SubscribeManager (L : Type) where
  heap : Nat → Option (OsAccountConstraintSubscribeRecord L) := fun _ => none
  next : Nat := 0
  constraintRecords : List Nat := []
  userListenerMap : L → Option Int := fun _ => none
  constraint2RecordMap : String → Finset Nat := fun _ => ∅

section manager

variable (s : SubscribeManager L)

def findRecord (eventListener : L) : Option (Nat × OsAccountConstraintSubscribeRecord L) :=
  s.constraintRecords.findSome? fun recordPtr =>
    (s.heap recordPtr).bind fun record => if record.eventListener = eventListener then some (recordPtr, record) else none

def removeConstraintFromSubscribeRecord (recordPtr : Nat) (record : OsAccountConstraintSubscribeRecord L)
    (constraints : Finset String) : SubscribeManager L :=
  let constraintSet := record.constraintSet \ constraints
  { s with
    constraint2RecordMap := fun constraint =>
      if constraint ∈ constraints then (s.constraint2RecordMap constraint).erase recordPtr
      else s.constraint2RecordMap constraint
    heap := update s.heap recordPtr (some { record with constraintSet })
    constraintRecords :=
      if constraintSet = ∅ then s.constraintRecords.filter (· ≠ recordPtr) else s.constraintRecords }

def insertSubscribeRecord (recordPtr : Nat) (record : OsAccountConstraintSubscribeRecord L) : SubscribeManager L :=
  { s with
    heap := update s.heap recordPtr (some record)
    constraintRecords := s.constraintRecords.insert recordPtr
    constraint2RecordMap := fun constraint =>
      if constraint ∈ record.constraintSet then insert recordPtr (s.constraint2RecordMap constraint)
      else s.constraint2RecordMap constraint }

def subscribeWith (localId : Option Int) (constraints : Finset String) (eventListener : L) (callingUid : Int) :
    SubscribeManager L :=
  match findRecord s eventListener with
  | some (recordPtr, record) => insertSubscribeRecord s recordPtr { record with constraintSet := constraints }
  | none =>
      let userListenerMap :=
        match localId with
        | none => s.userListenerMap
        | some localId => update s.userListenerMap eventListener (some localId)
      insertSubscribeRecord { s with userListenerMap, next := s.next + 1 } s.next
        ⟨constraints, eventListener, callingUid⟩

def unsubscribeAll (eventListener : L) : Ret × SubscribeManager L :=
  let s := { s with userListenerMap := update s.userListenerMap eventListener none }
  match findRecord s eventListener with
  | none => (.error .accountSubscribeNotFoundError, s)
  | some (recordPtr, record) => (.ok (), removeConstraintFromSubscribeRecord s recordPtr record record.constraintSet)

def unsubscribeFrom (constraints : Finset String) (eventListener : L) : Ret × SubscribeManager L :=
  match findRecord s eventListener with
  | none => (.error .accountSubscribeNotFoundError, s)
  | some (recordPtr, record) =>
      if constraints ⊆ record.constraintSet then
        (.ok (), removeConstraintFromSubscribeRecord s recordPtr record constraints)
      else (.error .accountSubscribeNotFoundError, s)

def unsubscribeWith (localId : Option Int) (constraints : Finset String) (eventListener : L) :
    Ret × SubscribeManager L :=
  match localId with
  | none => unsubscribeFrom s constraints eventListener
  | some _ =>
      unsubscribeFrom { s with userListenerMap := update s.userListenerMap eventListener none }
        constraints eventListener

def localIdOf (needAcross : Bool) (callingUid : Int) : Option Int :=
  if needAcross then none else some (callingUid / uidTransformDivisor)

variable (checkConstraints : String → Bool)

/-- `SubscribeOsAccountConstraints` of `OsAccountConstraintManager`. -/
def subscribeOsAccountConstraints (constraints : Finset String) (needAcross : Bool) (eventListener : L)
    (callingUid : Int) : Ret × SubscribeManager L :=
  if constraints = ∅ then (.error .invalidParameter, s)
  else if ¬∀ c ∈ constraints, checkConstraints c then (.error .invalidParameter, s)
  else (.ok (), subscribeWith s (localIdOf needAcross callingUid) constraints eventListener callingUid)

def unsubscribeOsAccountConstraints (constraints : Finset String) (needAcross : Bool) (eventListener : L)
    (callingUid : Int) : Ret × SubscribeManager L :=
  if constraints = ∅ then (.error .invalidParameter, s)
  else if ¬∀ c ∈ constraints, checkConstraints c then (.error .invalidParameter, s)
  else unsubscribeWith s (localIdOf needAcross callingUid) constraints eventListener

def publish (localId : Int) (constraints : Finset String) : Finset Nat :=
  (constraints.biUnion s.constraint2RecordMap).filter fun recordPtr =>
    (s.heap recordPtr).all fun record => (s.userListenerMap record.eventListener).all (· = localId)

def notified (localId : Int) (constraints : Finset String) (eventListener : L) : Nat :=
  ((publish s localId constraints).filter fun recordPtr =>
    (s.heap recordPtr).any fun record => record.eventListener = eventListener).card

end manager

abbrev Subscriptions (L : Type) := L → Option (Finset String × Option Int)

def Admits (current : Subscriptions L) (localId : Int) (constraints : Finset String) (eventListener : L) : Prop :=
  ∃ constraintSet id?, current eventListener = some (constraintSet, id?) ∧ (∃ c ∈ constraints, c ∈ constraintSet) ∧
    ∀ id ∈ id?, id = localId

def Exact (s : SubscribeManager L) (current : Subscriptions L) : Prop :=
  ∀ localId constraints eventListener,
    (Admits current localId constraints eventListener → notified s localId constraints eventListener = 1) ∧
      (¬Admits current localId constraints eventListener → notified s localId constraints eventListener = 0)

inductive Operation (L : Type)
  | subscribe (constraints : Finset String) (needAcross : Bool) (eventListener : L) (callingUid : Int)
  | unsubscribe (constraints : Finset String) (needAcross : Bool) (eventListener : L) (callingUid : Int)
  | remoteDied (eventListener : L)

def Operation.eventListener : Operation L → L
  | .subscribe _ _ eventListener _ => eventListener
  | .unsubscribe _ _ eventListener _ => eventListener
  | .remoteDied eventListener => eventListener

def perform (checkConstraints : String → Bool) (s : SubscribeManager L) : Operation L → Ret × SubscribeManager L
  | .subscribe constraints needAcross eventListener callingUid =>
      subscribeOsAccountConstraints s checkConstraints constraints needAcross eventListener callingUid
  | .unsubscribe constraints needAcross eventListener callingUid =>
      unsubscribeOsAccountConstraints s checkConstraints constraints needAcross eventListener callingUid
  | .remoteDied eventListener => unsubscribeAll s eventListener

def without (constraints : Finset String) : Finset String × Option Int → Option (Finset String × Option Int)
  | (constraintSet, id?) =>
      if constraintSet \ constraints = ∅ then none else some (constraintSet \ constraints, id?)

def track (current : Subscriptions L) : Operation L → Subscriptions L
  | .subscribe constraints needAcross eventListener callingUid =>
      update current eventListener (some (constraints, localIdOf needAcross callingUid))
  | .unsubscribe constraints _ eventListener _ =>
      update current eventListener ((current eventListener).bind (without constraints))
  | .remoteDied eventListener => update current eventListener none

abbrev Tracked (L : Type) := SubscribeManager L × Subscriptions L

def step (checkConstraints : String → Bool) (t : Tracked L) (op : Operation L) : Tracked L :=
  match perform checkConstraints t.1 op with
  | (.ok (), s) => (s, track t.2 op)
  | (.error _, s) => (s, t.2)

def initial : Tracked L := ({}, fun _ => none)

/-- A listener that is subscribed asks for no less than before, and for the same local id; one that is not has left no
local id behind, if it asks for none. An overload with a local id takes the whole subscription, if that has one. -/
def Allowed (checkConstraints : String → Bool) (t : Tracked L) : Operation L → Prop
  | .subscribe constraints needAcross eventListener callingUid =>
      constraints ≠ ∅ → (∀ c ∈ constraints, checkConstraints c) →
        match t.2 eventListener with
        | none => needAcross → t.1.userListenerMap eventListener = none
        | some (constraintSet, id?) => constraintSet ⊆ constraints ∧ id? = localIdOf needAcross callingUid
  | .unsubscribe constraints needAcross eventListener _ =>
      constraints ≠ ∅ → (∀ c ∈ constraints, checkConstraints c) → needAcross = false →
        ∀ constraintSet id, t.2 eventListener = some (constraintSet, some id) → constraints = constraintSet
  | .remoteDied _ => True

section records

def IsRecord (s : SubscribeManager L) (recordPtr : Nat) (eventListener : L) (constraintSet : Finset String) : Prop :=
  recordPtr ∈ s.constraintRecords ∧ ∃ callingUid, s.heap recordPtr = some ⟨constraintSet, eventListener, callingUid⟩

/-- The manager knows the subscriptions: a listener has one record with its constraints, and the constraints lead to
the records. -/
structure Inv (t : Tracked L) : Prop where
  idle : ∀ l, t.2 l = none → ∀ p S, ¬IsRecord t.1 p l S
  active : ∀ l S id?, t.2 l = some (S, id?) →
    S ≠ ∅ ∧ t.1.userListenerMap l = id? ∧ ∃ p, ∀ q T, IsRecord t.1 q l T ↔ q = p ∧ T = S
  map : ∀ c p, p ∈ t.1.constraint2RecordMap c ↔ ∃ l S, IsRecord t.1 p l S ∧ c ∈ S
  fresh : ∀ p ∈ t.1.constraintRecords, p < t.1.next

variable {s : SubscribeManager L} {current : Subscriptions L} {l : L} {S T : Finset String} {p : Nat}

theorem findRecord_some {record : OsAccountConstraintSubscribeRecord L} (h : findRecord s l = some (p, record)) :
    IsRecord s p l record.constraintSet ∧ s.heap p = some record ∧ record.eventListener = l := by
  obtain ⟨q, hq, hrecord⟩ := List.exists_of_findSome?_eq_some h
  obtain ⟨r, hheap, hsome⟩ := Option.bind_eq_some_iff.mp hrecord
  split at hsome
  · rename_i hl
    cases hsome
    subst hl
    exact ⟨⟨hq, record.callingUid, hheap⟩, hheap, rfl⟩
  · cases hsome

theorem findRecord_of_isRecord (h : IsRecord s p l S) : ∃ q record, findRecord s l = some (q, record) := by
  obtain ⟨hp, uid, hheap⟩ := h
  rw [← Option.isSome_iff_exists.trans Prod.exists, findRecord, List.findSome?_isSome_iff]
  exact ⟨p, hp, by simp [hheap]⟩

theorem findRecord_none (h : ∀ p S, ¬IsRecord s p l S) : findRecord s l = none := by
  cases hfind : findRecord s l with
  | none => rfl
  | some found => exact (h found.1 _ (findRecord_some hfind).1).elim

omit [DecidableEq L] in
theorem IsRecord.unique {l' : L} (h : IsRecord s p l S) (h' : IsRecord s p l' T) : l' = l ∧ T = S := by
  obtain ⟨-, uid, hheap⟩ := h
  obtain ⟨-, uid', hheap'⟩ := h'
  cases hheap.symm.trans hheap'
  exact ⟨rfl, rfl⟩

omit [DecidableEq L] in
theorem isRecord_insert (s : SubscribeManager L) (p : Nat) (record : OsAccountConstraintSubscribeRecord L) (q : Nat)
    (l' : L) (T : Finset String) :
    IsRecord (insertSubscribeRecord s p record) q l' T ↔
      if q = p then T = record.constraintSet ∧ l' = record.eventListener else IsRecord s q l' T := by
  have hmem : q ∈ (insertSubscribeRecord s p record).constraintRecords ↔ q = p ∨ q ∈ s.constraintRecords :=
    List.mem_insert_iff
  rw [IsRecord, hmem]
  by_cases hq : q = p
  · subst hq
    simp only [insertSubscribeRecord, update_self, true_or, true_and, if_true, Option.some.injEq]
    constructor
    · rintro ⟨uid, rfl⟩
      exact ⟨rfl, rfl⟩
    · rintro ⟨rfl, rfl⟩
      exact ⟨record.callingUid, rfl⟩
  · simp only [insertSubscribeRecord, update_of_ne hq, hq, false_or, if_false, IsRecord]

omit [DecidableEq L] in
theorem isRecord_remove (hp : p ∈ s.constraintRecords) (record : OsAccountConstraintSubscribeRecord L)
    (constraints : Finset String) (q : Nat) (l' : L) (T : Finset String) :
    IsRecord (removeConstraintFromSubscribeRecord s p record constraints) q l' T ↔
      if q = p then record.constraintSet \ constraints ≠ ∅ ∧ T = record.constraintSet \ constraints ∧
        l' = record.eventListener
      else IsRecord s q l' T := by
  by_cases hq : q = p
  · subst hq
    simp only [IsRecord, removeConstraintFromSubscribeRecord, update_self, if_true,
      Option.some.injEq]
    by_cases hempty : record.constraintSet \ constraints = ∅
    · simp [hempty]
    · simp only [hempty, if_false, hp, true_and, ne_eq, not_false_eq_true]
      constructor
      · rintro ⟨uid, heq⟩
        cases heq
        exact ⟨rfl, rfl⟩
      · rintro ⟨rfl, rfl⟩
        exact ⟨record.callingUid, rfl⟩
  · simp only [IsRecord, removeConstraintFromSubscribeRecord, update_of_ne hq, if_neg hq]
    split
    · simp [hq]
    · rfl

end records

section invariant

variable {s s' : SubscribeManager L} {current : Subscriptions L} {l : L} {C S : Finset String}
    {id? : Option Int} {p : Nat}

theorem Inv.put (h : Inv (s, current)) (hC : C ≠ ∅)
    (hrecord : ∀ q l' T, IsRecord s' q l' T ↔ if l' = l then q = p ∧ T = C else IsRecord s q l' T)
    (hmap : ∀ c, s'.constraint2RecordMap c =
      if c ∈ C then insert p (s.constraint2RecordMap c) else s.constraint2RecordMap c)
    (hold : ∀ q T, IsRecord s q l T → q = p ∧ T ⊆ C) (hid : s'.userListenerMap l = id?)
    (hids : ∀ l', l' ≠ l → s'.userListenerMap l' = s.userListenerMap l')
    (hfresh : ∀ q ∈ s'.constraintRecords, q < s'.next) : Inv (s', update current l (some (C, id?))) where
  idle l' hnone q T := by
    dsimp only at hnone
    by_cases hl : l' = l
    · subst hl
      rw [update_self] at hnone
      cases hnone
    · rw [update_of_ne hl] at hnone
      rw [hrecord, if_neg hl]
      exact h.idle l' hnone q T
  active l' S id?' hsome := by
    dsimp only at hsome
    by_cases hl : l' = l
    · subst hl
      rw [update_self] at hsome
      cases hsome
      exact ⟨hC, hid, p, fun q T => by rw [hrecord, if_pos rfl]⟩
    · rw [update_of_ne hl] at hsome
      obtain ⟨hne, hid', p', hp'⟩ := h.active l' S id?' hsome
      exact ⟨hne, (hids l' hl).trans hid', p', fun q T => by rw [hrecord, if_neg hl, hp']⟩
  map c q := by
    dsimp only
    rw [hmap]
    have hold' := h.map c q
    constructor
    · intro hq
      have hq' : (c ∈ C ∧ q = p) ∨ q ∈ s.constraint2RecordMap c := by
        split at hq
        · rename_i hc
          rcases Finset.mem_insert.mp hq with hqp | hq
          · exact .inl ⟨hc, hqp⟩
          · exact .inr hq
        · exact .inr hq
      rcases hq' with ⟨hc, rfl⟩ | hq'
      · exact ⟨l, C, by rw [hrecord, if_pos rfl]; exact ⟨rfl, rfl⟩, hc⟩
      · obtain ⟨l', T, hT, hc⟩ := hold'.mp hq'
        by_cases hl : l' = l
        · subst hl
          obtain ⟨rfl, hTC⟩ := hold q T hT
          exact ⟨l', C, by rw [hrecord, if_pos rfl]; exact ⟨rfl, rfl⟩, hTC hc⟩
        · exact ⟨l', T, by rw [hrecord, if_neg hl]; exact hT, hc⟩
    · rintro ⟨l', T, hT, hc⟩
      rw [hrecord] at hT
      by_cases hl : l' = l
      · rw [if_pos hl] at hT
        obtain ⟨rfl, rfl⟩ := hT
        rw [if_pos hc]
        exact Finset.mem_insert_self ..
      · rw [if_neg hl] at hT
        have hq := hold'.mpr ⟨l', T, hT, hc⟩
        split
        · exact Finset.mem_insert_of_mem hq
        · exact hq
  fresh := hfresh

theorem Inv.drop (h : Inv (s, current)) (hsome : current l = some (S, id?))
    (hp : ∀ q T, IsRecord s q l T ↔ q = p ∧ T = S)
    (hrecord : ∀ q l' T, IsRecord s' q l' T ↔
      if l' = l then S \ C ≠ ∅ ∧ q = p ∧ T = S \ C else IsRecord s q l' T)
    (hmap : ∀ c, s'.constraint2RecordMap c =
      if c ∈ C then (s.constraint2RecordMap c).erase p else s.constraint2RecordMap c)
    (hid : S \ C ≠ ∅ → s'.userListenerMap l = id?)
    (hids : ∀ l', l' ≠ l → s'.userListenerMap l' = s.userListenerMap l')
    (hfresh : ∀ q ∈ s'.constraintRecords, q < s'.next) :
    Inv (s', update current l (without C (S, id?))) where
  idle l' hnone q T := by
    dsimp only at hnone
    rw [hrecord]
    by_cases hl : l' = l
    · subst hl
      rw [update_self, without] at hnone
      rw [if_pos rfl]
      rintro ⟨hne, -⟩
      rw [if_neg hne] at hnone
      cases hnone
    · rw [update_of_ne hl] at hnone
      rw [if_neg hl]
      exact h.idle l' hnone q T
  active l' T id?' hsome' := by
    dsimp only at hsome'
    by_cases hl : l' = l
    · subst hl
      rw [update_self, without] at hsome'
      split at hsome'
      · cases hsome'
      · rename_i hne
        cases hsome'
        exact ⟨hne, hid hne, p, fun q T => by rw [hrecord, if_pos rfl, and_iff_right hne]⟩
    · rw [update_of_ne hl] at hsome'
      obtain ⟨hne, hid', p', hp'⟩ := h.active l' T id?' hsome'
      exact ⟨hne, (hids l' hl).trans hid', p', fun q T => by rw [hrecord, if_neg hl, hp']⟩
  map c q := by
    have hself : IsRecord s p l S := (hp p S).mpr ⟨rfl, rfl⟩
    have hold := h.map c q
    dsimp only at hold ⊢
    rw [hmap]
    constructor
    · intro hq
      have hq' : q ∈ s.constraint2RecordMap c ∧ (c ∈ C → q ≠ p) := by
        split at hq
        · exact ⟨Finset.mem_of_mem_erase hq, fun _ => Finset.ne_of_mem_erase hq⟩
        · rename_i hc
          exact ⟨hq, fun hc' => (hc hc').elim⟩
      obtain ⟨l', T, hT, hc⟩ := hold.mp hq'.1
      by_cases hl : l' = l
      · subst hl
        obtain ⟨rfl, rfl⟩ := (hp q T).mp hT
        have hleft : c ∈ T \ C := Finset.mem_sdiff.mpr ⟨hc, fun hcC => hq'.2 hcC rfl⟩
        exact ⟨l', T \ C, by rw [hrecord, if_pos rfl]; exact ⟨Finset.ne_empty_of_mem hleft, rfl, rfl⟩, hleft⟩
      · exact ⟨l', T, by rw [hrecord, if_neg hl]; exact hT, hc⟩
    · rintro ⟨l', T, hT, hc⟩
      rw [hrecord] at hT
      by_cases hl : l' = l
      · rw [if_pos hl] at hT
        obtain ⟨-, rfl, rfl⟩ := hT
        obtain ⟨hcS, hcC⟩ := Finset.mem_sdiff.mp hc
        rw [if_neg hcC]
        exact hold.mpr ⟨l, S, hself, hcS⟩
      · rw [if_neg hl] at hT
        have hq := hold.mpr ⟨l', T, hT, hc⟩
        split
        · refine Finset.mem_erase.mpr ⟨?_, hq⟩
          rintro rfl
          exact hl (hself.unique hT).1
        · exact hq
  fresh := hfresh

theorem Inv.find (h : Inv (s, current)) (hsome : current l = some (S, id?)) :
    ∃ p record, findRecord s l = some (p, record) ∧ record.constraintSet = S ∧ record.eventListener = l ∧
      s.heap p = some record ∧ p ∈ s.constraintRecords ∧ ∀ q T, IsRecord s q l T ↔ q = p ∧ T = S := by
  obtain ⟨-, -, p, hp⟩ := h.active l S id? hsome
  obtain ⟨q, record, hfind⟩ := findRecord_of_isRecord ((hp p S).mpr ⟨rfl, rfl⟩)
  obtain ⟨hrecord, hheap, hl⟩ := findRecord_some hfind
  obtain ⟨rfl, hset⟩ := (hp q _).mp hrecord
  exact ⟨q, record, hfind, hset, hl, hheap, hrecord.1, hp⟩

omit [DecidableEq L] in
theorem Inv.ne_next (h : Inv (s, current)) {q : Nat} {l' : L} {T : Finset String} (hq : IsRecord s q l' T) :
    q ≠ s.next := by
  have hlt : q < s.next := h.fresh q hq.1
  omega

theorem inv_subscribe (h : Inv (s, current)) (hC : C ≠ ∅) {localId : Option Int} (callingUid : Int)
    (hop : match current l with
      | none => localId = none → s.userListenerMap l = none
      | some (S, id?) => S ⊆ C ∧ id? = localId) :
    Inv (subscribeWith s localId C l callingUid, update current l (some (C, localId))) := by
  cases hcurrent : current l with
  | none =>
      rw [hcurrent] at hop
      have hidle := h.idle l hcurrent
      rw [subscribeWith.eq_def, findRecord_none hidle]
      refine h.put (p := s.next) hC ?_ (fun c => rfl) (fun q T hq => (hidle q T hq).elim) ?_ ?_ ?_
      · intro q l' T
        rw [isRecord_insert]
        by_cases hq : q = s.next
        · rw [if_pos hq]
          by_cases hl : l' = l
          · rw [if_pos hl]
            exact ⟨fun hT => ⟨hq, hT.1⟩, fun hT => ⟨hT.2, hl⟩⟩
          · rw [if_neg hl]
            exact iff_of_false (fun hT => hl hT.2) fun hT => h.ne_next hT hq
        · rw [if_neg hq]
          by_cases hl : l' = l
          · rw [if_pos hl, hl]
            exact iff_of_false (hidle q T) fun hT => hq hT.1
          · rw [if_neg hl]
            rfl
      · cases localId with
        | none => exact hop rfl
        | some id => exact update_self ..
      · intro l' hl
        cases localId with
        | none => rfl
        | some id => exact update_of_ne hl ..
      · intro q hq
        have hq' : q = s.next ∨ q ∈ s.constraintRecords := List.mem_insert_iff.mp hq
        rcases hq' with rfl | hq'
        · exact Nat.lt_succ_self _
        · exact Nat.lt_succ_of_lt (h.fresh q hq')
  | some subscription =>
      obtain ⟨S, id?⟩ := subscription
      rw [hcurrent] at hop
      obtain ⟨hsubset, rfl⟩ := hop
      obtain ⟨p, record, hfind, hset, hl, hheap, hmem, hp⟩ := h.find hcurrent
      rw [subscribeWith.eq_def, hfind]
      refine h.put (p := p) hC ?_ (fun c => rfl) (fun q T hq => ?_) (h.active l S id? hcurrent).2.1
        (fun _ _ => rfl) ?_
      · intro q l' T
        rw [isRecord_insert]
        by_cases hq : q = p
        · rw [if_pos hq]
          by_cases hl' : l' = l
          · rw [if_pos hl']
            exact ⟨fun hT => ⟨hq, hT.1⟩, fun hT => ⟨hT.2, hl'.trans hl.symm⟩⟩
          · rw [if_neg hl']
            refine iff_of_false (fun hT => hl' (hT.2.trans hl)) fun hT => hl' ?_
            subst hq
            exact (((hp q S).mpr ⟨rfl, rfl⟩).unique hT).1
        · rw [if_neg hq]
          by_cases hl' : l' = l
          · rw [if_pos hl', hl']
            exact iff_of_false (fun hT => hq ((hp q T).mp hT).1) fun hT => hq hT.1
          · rw [if_neg hl']
      · obtain ⟨rfl, rfl⟩ := (hp q T).mp hq
        exact ⟨rfl, hsubset⟩
      · intro q hq
        have hq' : q = p ∨ q ∈ s.constraintRecords := List.mem_insert_iff.mp hq
        rcases hq' with rfl | hq'
        · exact h.fresh q hmem
        · exact h.fresh q hq'

theorem inv_remove (h : Inv (s, current)) (hsome : current l = some (S, id?))
    {record : OsAccountConstraintSubscribeRecord L} (hfind : findRecord s l = some (p, record))
    {userListenerMap : L → Option Int} (hid : S \ C ≠ ∅ → userListenerMap l = id?)
    (hids : ∀ l', l' ≠ l → userListenerMap l' = s.userListenerMap l') :
    Inv (removeConstraintFromSubscribeRecord { s with userListenerMap } p record C,
      update current l (without C (S, id?))) := by
  obtain ⟨p', record', hfind', hset, hl, hheap, hmem, hp⟩ := h.find hsome
  cases hfind.symm.trans hfind'
  refine h.drop hsome hp ?_ (fun c => rfl) hid hids ?_
  · intro q l' T
    have hmem' : p ∈ ({ s with userListenerMap } : SubscribeManager L).constraintRecords := hmem
    rw [isRecord_remove hmem', hset]
    by_cases hq : q = p
    · rw [if_pos hq]
      by_cases hl' : l' = l
      · rw [if_pos hl', hl, hl']
        simp [hq]
      · rw [if_neg hl', hl]
        refine iff_of_false (fun hT => hl' hT.2.2) fun hT => hl' ?_
        subst hq
        exact (((hp q S).mpr ⟨rfl, rfl⟩).unique hT).1
    · rw [if_neg hq]
      by_cases hl' : l' = l
      · rw [if_pos hl', hl']
        exact iff_of_false (fun hT => hq ((hp q T).mp hT).1) fun hT => hq hT.2.1
      · rw [if_neg hl']
        rfl
  · intro q hq
    refine h.fresh q ?_
    simp only [removeConstraintFromSubscribeRecord] at hq
    split at hq
    · exact List.mem_of_mem_filter hq
    · exact hq

theorem inv_dropLocalId (h : Inv (s, current)) (hl : ∀ S id, current l ≠ some (S, some id)) :
    Inv ({ s with userListenerMap := update s.userListenerMap l none }, current) where
  idle := h.idle
  active l' S id? hsome := by
    obtain ⟨hne, hid, hp⟩ := h.active l' S id? hsome
    refine ⟨hne, ?_, hp⟩
    by_cases hl' : l' = l
    · subst hl'
      cases id? with
      | none => exact update_self ..
      | some id => exact (hl S id hsome).elim
    · exact (update_of_ne hl' ..).trans hid
  map := h.map
  fresh := h.fresh

end invariant

section exactness

variable {s : SubscribeManager L} {current : Subscriptions L} {l : L} {C S : Finset String} {id? : Option Int} {p : Nat}
  {localId : Int}

theorem mem_tasks_iff {q : Nat} :
    (q ∈ (publish s localId C).filter fun q => (s.heap q).any fun record => record.eventListener = l) ↔
      (∃ c ∈ C, q ∈ s.constraint2RecordMap c) ∧ (∃ record, s.heap q = some record ∧ record.eventListener = l) ∧
        ∀ id ∈ s.userListenerMap l, id = localId := by
  rw [Finset.mem_filter, publish, Finset.mem_filter, Finset.mem_biUnion]
  constructor
  · rintro ⟨⟨hmap, hid⟩, hlistener⟩
    obtain ⟨record, hheap, hl⟩ := (Option.any_eq_true ..).mp hlistener
    rw [decide_eq_true_iff] at hl
    refine ⟨hmap, ⟨record, hheap, hl⟩, ?_⟩
    rw [hheap, Option.all_some, hl, Option.all_eq_true] at hid
    exact fun id hsome => by simpa using hid id hsome
  · rintro ⟨hmap, ⟨record, hheap, hl⟩, hid⟩
    refine ⟨⟨hmap, ?_⟩, ?_⟩
    · rw [hheap, Option.all_some, hl, Option.all_eq_true]
      exact fun id hsome => by simpa using hid id hsome
    · rw [hheap, Option.any_some, hl]
      simp

theorem exact_of_inv (h : Inv (s, current)) : Exact s current := by
  intro localId C l
  constructor
  · rintro ⟨S, id?, hsome, ⟨c, hc, hcS⟩, hid⟩
    obtain ⟨-, hids, -⟩ := h.active l S id? hsome
    obtain ⟨p, record, -, -, hl, hheap, -, hp⟩ := h.find hsome
    rw [notified, Finset.card_eq_one]
    refine ⟨p, Finset.ext fun q => ?_⟩
    rw [mem_tasks_iff, Finset.mem_singleton]
    constructor
    · rintro ⟨⟨c', -, hq⟩, ⟨record', hheap', hl'⟩, -⟩
      obtain ⟨l'', T, hT, -⟩ := (h.map c' q).mp hq
      obtain ⟨uid, hheap''⟩ := hT.2
      cases hheap'.symm.trans hheap''
      exact ((hp q T).mp (hl' ▸ hT)).1
    · rintro rfl
      refine ⟨⟨c, hc, (h.map c q).mpr ⟨l, S, (hp q S).mpr ⟨rfl, rfl⟩, hcS⟩⟩, ⟨record, hheap, hl⟩, ?_⟩
      rw [show s.userListenerMap l = id? from hids]
      exact hid
  · intro hnot
    rw [notified, Finset.card_eq_zero]
    refine Finset.eq_empty_of_forall_notMem fun q hq => hnot ?_
    obtain ⟨⟨c, hc, hq⟩, ⟨record, hheap, hl⟩, hid⟩ := mem_tasks_iff.mp hq
    obtain ⟨l', T, hT, hcT⟩ := (h.map c q).mp hq
    obtain ⟨uid, hheap'⟩ := hT.2
    cases hheap.symm.trans hheap'
    dsimp only at hl
    subst hl
    cases hcurrent : current l' with
    | none => exact (h.idle l' hcurrent q T hT).elim
    | some subscription =>
        obtain ⟨S, id?⟩ := subscription
        obtain ⟨-, hids, p, hp⟩ := h.active l' S id? hcurrent
        obtain ⟨-, rfl⟩ := (hp q T).mp hT
        refine ⟨T, id?, hcurrent, ⟨c, hc, hcT⟩, ?_⟩
        rw [← show s.userListenerMap l' = id? from hids]
        exact hid

end exactness

section runs

variable {checkConstraints : String → Bool} {s : SubscribeManager L} {current : Subscriptions L} {l : L}
  {C S : Finset String} {id? : Option Int} {p : Nat}

theorem localIdOf_none_iff {needAcross : Bool} {callingUid : Int} :
    localIdOf needAcross callingUid = none ↔ needAcross = true := by
  cases needAcross <;> simp [localIdOf]

theorem step_subscribe (t : Tracked L) (needAcross : Bool) (callingUid : Int) :
    step checkConstraints t (.subscribe C needAcross l callingUid) =
      if C ≠ ∅ ∧ ∀ c ∈ C, checkConstraints c then
        (subscribeWith t.1 (localIdOf needAcross callingUid) C l callingUid,
          update t.2 l (some (C, localIdOf needAcross callingUid)))
      else t := by
  rw [step, perform, subscribeOsAccountConstraints]
  by_cases hC : C = ∅
  · simp [hC]
  · by_cases hcheck : ∀ c ∈ C, checkConstraints c
    · rw [if_neg hC, if_neg (not_not_intro hcheck), if_pos ⟨hC, hcheck⟩]
      rfl
    · rw [if_neg hC, if_pos hcheck, if_neg fun h => hcheck h.2]

theorem step_unsubscribe (t : Tracked L) (needAcross : Bool) (callingUid : Int) :
    step checkConstraints t (.unsubscribe C needAcross l callingUid) =
      if C ≠ ∅ ∧ ∀ c ∈ C, checkConstraints c then
        match unsubscribeWith t.1 (localIdOf needAcross callingUid) C l with
        | (.ok (), s) => (s, update t.2 l ((t.2 l).bind (without C)))
        | (.error _, s) => (s, t.2)
      else t := by
  rw [step, perform, unsubscribeOsAccountConstraints]
  by_cases hC : C = ∅
  · simp [hC]
  · by_cases hcheck : ∀ c ∈ C, checkConstraints c
    · rw [if_neg hC, if_neg (not_not_intro hcheck), if_pos ⟨hC, hcheck⟩]
      rfl
    · rw [if_neg hC, if_pos hcheck, if_neg fun h => hcheck h.2]

def tracked (current current' : Subscriptions L) : Ret × SubscribeManager L → Tracked L
  | (.ok (), s) => (s, current')
  | (.error _, s) => (s, current)

theorem inv_unsubscribeFrom (h : Inv (s, current)) :
    Inv (tracked current (update current l ((current l).bind (without C))) (unsubscribeFrom s C l)) := by
  cases hcurrent : current l with
  | none =>
      rw [unsubscribeFrom, findRecord_none (h.idle l hcurrent)]
      exact h
  | some subscription =>
      obtain ⟨S, id?⟩ := subscription
      obtain ⟨p, record, hfind, rfl, -⟩ := h.find hcurrent
      rw [unsubscribeFrom, hfind]
      dsimp only
      split
      · exact inv_remove h hcurrent hfind (fun _ => (h.active l _ id? hcurrent).2.1) fun _ _ => rfl
      · exact h

theorem inv_unsubscribe (h : Inv (s, current)) {localId : Option Int}
    (hop : localId ≠ none → ∀ S id, current l = some (S, some id) → C = S) :
    Inv (tracked current (update current l ((current l).bind (without C))) (unsubscribeWith s localId C l)) := by
  cases localId with
  | none => exact inv_unsubscribeFrom h
  | some id =>
      by_cases hrestricted : ∃ S id, current l = some (S, some id)
      · -- The whole subscription goes, and with it the local id.
        obtain ⟨S, id', hcurrent⟩ := hrestricted
        obtain rfl := hop nofun S id' hcurrent
        obtain ⟨p, record, hfind, hset, -⟩ := h.find hcurrent
        have hfind' : findRecord { s with userListenerMap := update s.userListenerMap l none } l =
            some (p, record) := hfind
        rw [unsubscribeWith, unsubscribeFrom, hfind']
        dsimp only
        rw [if_pos hset.superset, hcurrent]
        refine inv_remove h hcurrent hfind (fun hne => ?_) fun l' hl => update_of_ne hl ..
        rw [Finset.sdiff_self] at hne
        exact (hne rfl).elim
      · exact inv_unsubscribeFrom (inv_dropLocalId h fun S id' hsome => hrestricted ⟨S, id', hsome⟩)

theorem inv_unsubscribeAll (h : Inv (s, current)) :
    Inv (tracked current (update current l none) (unsubscribeAll s l)) := by
  cases hcurrent : current l with
  | none =>
      have hfind : findRecord { s with userListenerMap := update s.userListenerMap l none } l = none :=
        findRecord_none (h.idle l hcurrent)
      rw [unsubscribeAll, hfind]
      refine inv_dropLocalId h fun S id hsome => ?_
      rw [hcurrent] at hsome
      cases hsome
  | some subscription =>
      obtain ⟨S, id?⟩ := subscription
      obtain ⟨p, record, hfind, rfl, -⟩ := h.find hcurrent
      have hfind' : findRecord { s with userListenerMap := update s.userListenerMap l none } l =
          some (p, record) := hfind
      have hwithout : without record.constraintSet (record.constraintSet, id?) = none := by
        rw [without, if_pos (Finset.sdiff_self _)]
      rw [unsubscribeAll, hfind', ← hwithout]
      exact inv_remove h hcurrent hfind (fun hne => (hne (Finset.sdiff_self _)).elim) fun l' hl =>
        update_of_ne hl ..

/-- What `unsubscribeWith` does for constraints that the listener is subscribed to. -/
theorem unsubscribeWith_ok (h : Inv (s, current)) (hcurrent : current l = some (S, id?)) (hC : C ⊆ S)
    (localId : Option Int) : (unsubscribeWith s localId C l).1 = .ok () ∧
      (unsubscribeWith s localId C l).2.userListenerMap l = if localId = none then s.userListenerMap l else none := by
  obtain ⟨p, record, hfind, rfl, -⟩ := h.find hcurrent
  cases localId with
  | none =>
      rw [unsubscribeWith, unsubscribeFrom, hfind]
      dsimp only
      rw [if_pos hC]
      exact ⟨rfl, rfl⟩
  | some id =>
      have hfind' : findRecord { s with userListenerMap := update s.userListenerMap l none } l =
          some (p, record) := hfind
      rw [unsubscribeWith, unsubscribeFrom, hfind']
      dsimp only
      rw [if_pos hC]
      exact ⟨rfl, update_self ..⟩

theorem step_unsubscribe_ok {t : Tracked L} (h : Inv t) (hcurrent : t.2 l = some (S, id?)) (hC : C ⊆ S) (hne : C ≠ ∅)
    (hcheck : ∀ c ∈ C, checkConstraints c) (needAcross : Bool) (callingUid : Int) :
    (perform checkConstraints t.1 (.unsubscribe C needAcross l callingUid)).1 = .ok () ∧
      (step checkConstraints t (.unsubscribe C needAcross l callingUid)).2 l = without C (S, id?) ∧
      (step checkConstraints t (.unsubscribe C needAcross l callingUid)).1.userListenerMap l =
        if localIdOf needAcross callingUid = none then t.1.userListenerMap l else none := by
  obtain ⟨hok, hid⟩ := unsubscribeWith_ok h hcurrent hC (localIdOf needAcross callingUid)
  have hperform : perform checkConstraints t.1 (.unsubscribe C needAcross l callingUid) =
      unsubscribeWith t.1 (localIdOf needAcross callingUid) C l := by
    rw [perform, unsubscribeOsAccountConstraints, if_neg hne, if_neg (not_not_intro hcheck)]
  rw [step_unsubscribe, if_pos ⟨hne, hcheck⟩, hperform]
  cases hcall : unsubscribeWith t.1 (localIdOf needAcross callingUid) C l with
  | mk r s =>
      rw [hcall] at hok hid
      cases r with
      | error e => cases hok
      | ok u =>
          refine ⟨rfl, ?_, hid⟩
          dsimp only
          rw [update_self, hcurrent]
          rfl

theorem subscribeWith_userListenerMap {l' : L} (hl : l' ≠ l) (localId : Option Int) (callingUid : Int) :
    (subscribeWith s localId C l callingUid).userListenerMap l' = s.userListenerMap l' := by
  rw [subscribeWith.eq_def]
  split
  · rfl
  · cases localId with
    | none => rfl
    | some id => exact update_of_ne hl ..

theorem unsubscribeFrom_userListenerMap : (unsubscribeFrom s C l).2.userListenerMap = s.userListenerMap := by
  rw [unsubscribeFrom]
  split
  · rfl
  · split <;> rfl

theorem unsubscribeAll_userListenerMap :
    (unsubscribeAll s l).2.userListenerMap = update s.userListenerMap l none := by
  rw [unsubscribeAll]
  split <;> rfl

variable (checkConstraints) in
theorem step_of_ne (t : Tracked L) (op : Operation L) (hl : op.eventListener ≠ l) :
    (step checkConstraints t op).2 l = t.2 l ∧
      (step checkConstraints t op).1.userListenerMap l = t.1.userListenerMap l := by
  have hcurrent : ∀ r : Ret × SubscribeManager L, (tracked t.2 (track t.2 op) r).2 l = t.2 l ∧
      (tracked t.2 (track t.2 op) r).1 = r.2 := by
    rintro ⟨r, s⟩
    cases r with
    | error e => exact ⟨rfl, rfl⟩
    | ok u =>
        cases op with
        | _ => exact ⟨update_of_ne hl.symm .., rfl⟩
  obtain ⟨hsame, hmanager⟩ := hcurrent (perform checkConstraints t.1 op)
  have hstep : step checkConstraints t op = tracked t.2 (track t.2 op) (perform checkConstraints t.1 op) := rfl
  rw [hstep]
  refine ⟨hsame, ?_⟩
  rw [hmanager]
  cases op with
  | subscribe C needAcross l' callingUid =>
      rw [perform, subscribeOsAccountConstraints]
      split
      · rfl
      · split
        · rfl
        · exact subscribeWith_userListenerMap hl.symm ..
  | unsubscribe C needAcross l' callingUid =>
      rw [perform, unsubscribeOsAccountConstraints]
      split
      · rfl
      · split
        · rfl
        · cases localIdOf needAcross callingUid with
          | none => exact congrFun unsubscribeFrom_userListenerMap l
          | some id => exact (congrFun unsubscribeFrom_userListenerMap l).trans (update_of_ne hl.symm ..)
  | remoteDied l' => exact (congrFun unsubscribeAll_userListenerMap l).trans (update_of_ne hl.symm ..)

theorem inv_step (t : Tracked L) (op : Operation L) (h : Inv t) (hop : Allowed checkConstraints t op) :
    Inv (step checkConstraints t op) := by
  cases op with
  | subscribe C needAcross l callingUid =>
      rw [step_subscribe]
      split
      · rename_i hcall
        refine inv_subscribe h hcall.1 callingUid ?_
        have hop := hop hcall.1 hcall.2
        split at hop
        · exact fun hlocal => hop (localIdOf_none_iff.mp hlocal)
        · exact hop
      · exact h
  | unsubscribe C needAcross l callingUid =>
      rw [step_unsubscribe]
      split
      · rename_i hcall
        refine inv_unsubscribe h fun hlocal S id hsome => hop hcall.1 hcall.2 ?_ S id hsome
        rw [← Bool.not_eq_true]
        exact fun hacross => hlocal (localIdOf_none_iff.mpr hacross)
      · exact h
  | remoteDied l => exact inv_unsubscribeAll h

omit [DecidableEq L] in
theorem inv_initial : Inv (initial : Tracked L) where
  idle _ _ _ _ h := nomatch h.1
  active _ _ _ h := nomatch h
  map _ p := iff_of_false (Finset.notMem_empty p) fun ⟨_, _, h, _⟩ => nomatch h.1
  fresh _ hp := nomatch hp

/-- The listeners are notified of what they are subscribed to all along a run that shrinks no subscription by another
and mixes no subscription for a local id with one across the accounts. -/
theorem exact_run {ops : List (Operation L)}
    (hops : Machine.Meets (step checkConstraints) (Allowed checkConstraints) initial ops) :
    Exact (Machine.run (step checkConstraints) initial ops).1 (Machine.run (step checkConstraints) initial ops).2 := by
  have h : Inv (Machine.run (step checkConstraints) initial ops) :=
    Machine.run_invariant_of_meets inv_step inv_initial hops
  exact exact_of_inv h

end runs

end OsAccount.ConstraintListeners
