import OsAccount.ConstraintListeners

namespace OsAccount.ConstraintSubscribers

open ConstraintListeners

def constraintMaxSize : Nat := 128

variable {L σ : Type} [DecidableEq L] [DecidableEq σ]

/-- What does not change while the process of a client runs: its subscribers with their constraints, and the listener
that they share. -/
structure Process (L σ : Type) where
  constraintSet : σ → Finset String
  needAcross : σ → Bool
  eventListener : L
  callingUid : Int

structure OsAccountConstraintSubscriberManager (σ : Type) where
  needAcross : Bool := true
  subscriberSet : Finset σ := ∅
  constraintSet : Finset String := ∅
  constraint2SubscriberMap : String → Finset σ := fun _ => ∅

inductive Proxy
  | none
  | failing (errCode : ErrCode)
  | answering
  deriving DecidableEq

section manager

variable (process : Process L σ) (checkConstraints : String → Bool)
  (m : OsAccountConstraintSubscriberManager σ) (service : Tracked L) (subscriber : σ)

def insertSubscriberRecord : OsAccountConstraintSubscriberManager σ :=
  { m with
    subscriberSet := insert subscriber m.subscriberSet
    constraint2SubscriberMap := fun constraint =>
      if constraint ∈ process.constraintSet subscriber then insert subscriber (m.constraint2SubscriberMap constraint)
      else m.constraint2SubscriberMap constraint
    constraintSet := m.constraintSet ∪ process.constraintSet subscriber }

def removeSubscriberRecord : OsAccountConstraintSubscriberManager σ :=
  { m with
    subscriberSet := m.subscriberSet.erase subscriber
    constraint2SubscriberMap := fun constraint =>
      if constraint ∈ process.constraintSet subscriber then (m.constraint2SubscriberMap constraint).erase subscriber
      else m.constraint2SubscriberMap constraint
    constraintSet := m.constraintSet.filter fun constraint =>
      ¬(constraint ∈ process.constraintSet subscriber ∧ (m.constraint2SubscriberMap constraint).erase subscriber = ∅) }

def send (proxy : Proxy) (op : Operation L) : Ret × Tracked L :=
  match proxy with
  | .none => (.error .commonGetProxy, service)
  | .failing errCode => (.error errCode, service)
  | .answering => ((perform checkConstraints service.1 op).1, step checkConstraints service op)

def subscribeOsAccountConstraints (proxy : Proxy) :
    Ret × OsAccountConstraintSubscriberManager σ × Tracked L :=
  let constraintSet := process.constraintSet subscriber
  if constraintSet = ∅ then (.error .invalidParameter, m, service)
  else if constraintMaxSize < constraintSet.card then (.error .invalidParameter, m, service)
  else if proxy = .none then (.error .commonGetProxy, m, service)
  else if process.needAcross subscriber ∧ subscriber ∈ m.subscriberSet then
    (.error .accountAreadySubscribeError, m, service)
  else
    let m := { m with needAcross := process.needAcross subscriber }
    if (constraintSet ∪ m.constraintSet).card = m.constraintSet.card then
      (.ok (), insertSubscriberRecord process m subscriber, service)
    else
      match send checkConstraints service proxy
        (.subscribe (constraintSet ∪ m.constraintSet) (process.needAcross subscriber) process.eventListener
          process.callingUid) with
      | (.error errCode, service) => (.error errCode, m, service)
      | (.ok (), service) => (.ok (), insertSubscriberRecord process m subscriber, service)

def syncData : Finset String :=
  (process.constraintSet subscriber).filter fun constraint => (m.constraint2SubscriberMap constraint).card = 1

def unsubscribeOsAccountConstraints (proxy : Proxy) :
    Ret × OsAccountConstraintSubscriberManager σ × Tracked L :=
  if proxy = .none then (.error .commonGetProxy, m, service)
  else if subscriber ∉ m.subscriberSet then (.error .accountSubscribeNotFoundError, m, service)
  else if syncData process m subscriber = ∅ then (.ok (), removeSubscriberRecord process m subscriber, service)
  else
    match send checkConstraints service proxy
      (.unsubscribe (syncData process m subscriber) (process.needAcross subscriber) process.eventListener
        process.callingUid) with
    | (.error errCode, service) => (.error errCode, m, service)
    | (.ok (), service) => (.ok (), removeSubscriberRecord process m subscriber, service)

def restoreConstraintSubscriberRecords (proxy : Proxy) : Tracked L :=
  if m.constraintSet = ∅ then service
  else
    (send checkConstraints service proxy
      (.subscribe m.constraintSet m.needAcross process.eventListener process.callingUid)).2

def told (localId : Int) (constraints : Finset String) (constraint : String) : Nat :=
  if constraint ∈ constraints ∧ subscriber ∈ m.constraint2SubscriberMap constraint then
    notified service.1 localId constraints process.eventListener
  else 0

def registered : Finset String :=
  match findRecord service.1 process.eventListener with
  | none => ∅
  | some (_, record) => record.constraintSet

end manager

structure System (L σ : Type) where
  manager : OsAccountConstraintSubscriberManager σ := {}
  service : Tracked L := initial

/-- What the client does, and what the service does for the listener of another one. The restart of the service ends
with the restoration of the client. -/
inductive Event (L σ : Type)
  | subscribe (subscriber : σ) (proxy : Proxy)
  | unsubscribe (subscriber : σ) (proxy : Proxy)
  | restart (proxy : Proxy)
  | other (op : Operation L)

def next (process : Process L σ) (checkConstraints : String → Bool) (s : System L σ) : Event L σ → System L σ
  | .subscribe subscriber proxy =>
      let r := subscribeOsAccountConstraints process checkConstraints s.manager s.service subscriber proxy
      { manager := r.2.1, service := r.2.2 }
  | .unsubscribe subscriber proxy =>
      let r := unsubscribeOsAccountConstraints process checkConstraints s.manager s.service subscriber proxy
      { manager := r.2.1, service := r.2.2 }
  | .restart proxy =>
      { s with service := restoreConstraintSubscriberRecords process checkConstraints s.manager initial proxy }
  | .other op => { s with service := step checkConstraints s.service op }

/-- The service has the constraints of the subscribers, and each subscriber is told once of its own ones, if it is to
be told of the account. -/
structure Informed (process : Process L σ) (s : System L σ) : Prop where
  registered : registered process s.service = s.manager.subscriberSet.biUnion process.constraintSet
  told : ∀ subscriber localId constraints constraint,
    told process s.manager s.service subscriber localId constraints constraint =
      if constraint ∈ constraints ∧ subscriber ∈ s.manager.subscriberSet ∧
        constraint ∈ process.constraintSet subscriber ∧
        (process.needAcross subscriber = true ∨ localId = process.callingUid / uidTransformDivisor) then 1 else 0

structure Accepted (process : Process L σ) (checkConstraints : String → Bool) (s : System L σ) (subscriber : σ)
    (proxy : Proxy) : Prop where
  constraints : process.constraintSet subscriber ≠ ∅
  size : (process.constraintSet subscriber).card ≤ constraintMaxSize
  reached : proxy ≠ .none
  new : ¬(process.needAcross subscriber = true ∧ subscriber ∈ s.manager.subscriberSet)
  service : process.constraintSet subscriber ⊆ s.manager.constraintSet ∨
    proxy = .answering ∧ ∀ constraint ∈ process.constraintSet subscriber, checkConstraints constraint

/-- The subscribers are all for the account of the client, or all across the accounts. One for the account leaves alone,
or all its constraints to others. The service is restored with what the subscribers have. -/
def Allowed (process : Process L σ) (checkConstraints : String → Bool) (s : System L σ) : Event L σ → Prop
  | .subscribe subscriber proxy =>
      Accepted process checkConstraints s subscriber proxy →
        ∀ other ∈ s.manager.subscriberSet, process.needAcross other = process.needAcross subscriber
  | .unsubscribe subscriber proxy =>
      subscriber ∈ s.manager.subscriberSet → process.needAcross subscriber = false → proxy = .answering →
        (∀ other ∈ s.manager.subscriberSet, other = subscriber) ∨
          ∀ constraint ∈ process.constraintSet subscriber, ∃ other ∈ s.manager.subscriberSet, other ≠ subscriber ∧
            constraint ∈ process.constraintSet other
  | .restart proxy =>
      ∀ subscriber ∈ s.manager.subscriberSet, proxy = .answering ∧
        process.needAcross subscriber = s.manager.needAcross
  | .other op => op.eventListener ≠ process.eventListener ∧ ConstraintListeners.Allowed checkConstraints s.service op

structure Inv (process : Process L σ) (checkConstraints : String → Bool) (s : System L σ) : Prop where
  service : ConstraintListeners.Inv s.service
  map : ∀ c u, u ∈ s.manager.constraint2SubscriberMap c ↔ u ∈ s.manager.subscriberSet ∧ c ∈ process.constraintSet u
  constraintSet : s.manager.constraintSet = s.manager.subscriberSet.biUnion process.constraintSet
  nonempty : ∀ u ∈ s.manager.subscriberSet, process.constraintSet u ≠ ∅
  checked : ∀ c ∈ s.manager.constraintSet, checkConstraints c
  idle : s.manager.subscriberSet = ∅ →
    s.service.2 process.eventListener = none ∧ s.service.1.userListenerMap process.eventListener = none
  active : ∀ u ∈ s.manager.subscriberSet, s.service.2 process.eventListener =
    some (s.manager.constraintSet, localIdOf (process.needAcross u) process.callingUid)

section invariant

variable {process : Process L σ} {checkConstraints : String → Bool} {s : System L σ} {u : σ} {proxy : Proxy}

omit [DecidableEq L] [DecidableEq σ] in
theorem Inv.subset (h : Inv process checkConstraints s) (hu : u ∈ s.manager.subscriberSet) :
    process.constraintSet u ⊆ s.manager.constraintSet := by
  rw [h.constraintSet]
  exact Finset.subset_biUnion_of_mem _ hu

omit [DecidableEq L] [DecidableEq σ] in
theorem Inv.empty_iff (h : Inv process checkConstraints s) :
    s.manager.constraintSet = ∅ ↔ s.manager.subscriberSet = ∅ := by
  constructor
  · intro hempty
    refine Finset.eq_empty_of_forall_notMem fun u hu => h.nonempty u hu ?_
    exact Finset.subset_empty.mp (hempty ▸ h.subset hu)
  · intro hempty
    rw [h.constraintSet, hempty, Finset.biUnion_empty]

omit [DecidableEq L] [DecidableEq σ] in
theorem Inv.agree (h : Inv process checkConstraints s) {v : σ} (hu : u ∈ s.manager.subscriberSet)
    (hv : v ∈ s.manager.subscriberSet) : process.needAcross v = process.needAcross u := by
  have hsame := Option.some.inj ((h.active u hu).symm.trans (h.active v hv))
  have hid := congrArg Prod.snd hsame
  rw [Bool.eq_iff_iff, ← localIdOf_none_iff, ← localIdOf_none_iff]
  dsimp only at hid
  rw [hid]

omit [DecidableEq L] [DecidableEq σ] in
theorem inv_needAcross (h : Inv process checkConstraints s) (needAcross : Bool) :
    Inv process checkConstraints { s with manager := { s.manager with needAcross } } :=
  ⟨h.service, h.map, h.constraintSet, h.nonempty, h.checked, h.idle, h.active⟩

omit [DecidableEq L] in
theorem inv_insertSubscriberRecord (h : Inv process checkConstraints s) (needAcross : Bool)
    (hu : process.constraintSet u ≠ ∅) (hcheck : ∀ c ∈ process.constraintSet u, checkConstraints c)
    (hagree : ∀ v ∈ s.manager.subscriberSet, process.needAcross v = process.needAcross u) {service : Tracked L}
    (hservice : ConstraintListeners.Inv service)
    (hcurrent : service.2 process.eventListener = some (s.manager.constraintSet ∪ process.constraintSet u,
      localIdOf (process.needAcross u) process.callingUid)) :
    Inv process checkConstraints
      ⟨insertSubscriberRecord process { s.manager with needAcross } u, service⟩ where
  service := hservice
  map c v := by
    simp only [insertSubscriberRecord, Finset.mem_insert]
    have hold := h.map c v
    split
    · rename_i hc
      rw [Finset.mem_insert, hold]
      constructor
      · rintro (rfl | hv)
        · exact ⟨.inl rfl, hc⟩
        · exact ⟨.inr hv.1, hv.2⟩
      · rintro ⟨rfl | hv, hcv⟩
        · exact .inl rfl
        · exact .inr ⟨hv, hcv⟩
    · rename_i hc
      rw [hold]
      refine and_congr_left fun hcv => ⟨.inr, fun hv => hv.resolve_left ?_⟩
      rintro rfl
      exact hc hcv
  constraintSet := by
    simp only [insertSubscriberRecord]
    rw [Finset.biUnion_insert, h.constraintSet, Finset.union_comm]
  nonempty v hv := by
    rcases Finset.mem_insert.mp hv with rfl | hv
    · exact hu
    · exact h.nonempty v hv
  checked c hc := by
    rcases Finset.mem_union.mp hc with hc | hc
    · exact h.checked c hc
    · exact hcheck c hc
  idle hempty := (Finset.insert_ne_empty _ _ hempty).elim
  active v hv := by
    have hsame : process.needAcross v = process.needAcross u := by
      rcases Finset.mem_insert.mp hv with rfl | hv
      · rfl
      · exact hagree v hv
    rw [hsame]
    exact hcurrent

theorem union_card_eq_iff {S T : Finset String} : (S ∪ T).card = T.card ↔ S ⊆ T := by
  constructor
  · intro hcard
    rw [Finset.eq_of_subset_of_card_le Finset.subset_union_right hcard.le]
    exact Finset.subset_union_left
  · intro hsub
    rw [Finset.union_eq_right.mpr hsub]

theorem next_subscribe_accepted (h : Inv process checkConstraints s) (hu : Accepted process checkConstraints s u proxy) :
    next process checkConstraints s (.subscribe u proxy) =
      ⟨insertSubscriberRecord process { s.manager with needAcross := process.needAcross u } u,
        if process.constraintSet u ⊆ s.manager.constraintSet then s.service
        else step checkConstraints s.service (.subscribe (process.constraintSet u ∪ s.manager.constraintSet)
          (process.needAcross u) process.eventListener process.callingUid)⟩ := by
  rw [next, subscribeOsAccountConstraints, if_neg hu.constraints, if_neg (not_lt.mpr hu.size),
    if_neg hu.reached,
    if_neg hu.new]
  dsimp only
  by_cases hsub : process.constraintSet u ⊆ s.manager.constraintSet
  · rw [if_pos (union_card_eq_iff.mpr hsub), if_pos hsub]
  · obtain ⟨rfl, hcheck⟩ := hu.service.resolve_left hsub
    have hall : ∀ c ∈ process.constraintSet u ∪ s.manager.constraintSet, checkConstraints c := by
      intro c hc
      rcases Finset.mem_union.mp hc with hc | hc
      · exact hcheck c hc
      · exact h.checked c hc
    have hne : process.constraintSet u ∪ s.manager.constraintSet ≠ ∅ := fun hempty =>
      hu.constraints (Finset.union_eq_empty.mp hempty).1
    have hok : (perform checkConstraints s.service.1
      (.subscribe (process.constraintSet u ∪ s.manager.constraintSet)
        (process.needAcross u) process.eventListener process.callingUid)).1 = .ok () := by
      rw [perform, ConstraintListeners.subscribeOsAccountConstraints, if_neg hne, if_neg (not_not_intro hall)]
    rw [if_neg (fun hcard => hsub (union_card_eq_iff.mp hcard)), if_neg hsub, send, hok]

theorem subscribeOsAccountConstraints_refused (hu : ¬Accepted process checkConstraints s u proxy) :
    ∃ r needAcross, subscribeOsAccountConstraints process checkConstraints s.manager s.service u proxy =
      (r, { s.manager with needAcross }, s.service) := by
  have hsame : ∀ r : Ret, ∃ r' needAcross, (r, s.manager, s.service) =
      (r', { s.manager with needAcross }, s.service) := fun r => ⟨r, s.manager.needAcross, rfl⟩
  rw [subscribeOsAccountConstraints]
  dsimp only
  split
  · exact hsame _
  · rename_i hne
    split
    · exact hsame _
    · rename_i hsize
      split
      · exact hsame _
      · rename_i hproxy
        split
        · exact hsame _
        · rename_i hnew
          have hservice : ¬(process.constraintSet u ⊆ s.manager.constraintSet ∨
              proxy = .answering ∧ ∀ constraint ∈ process.constraintSet u, checkConstraints constraint) :=
            fun hservice => hu ⟨hne, not_lt.mp hsize, hproxy, hnew, hservice⟩
          rw [not_or] at hservice
          rw [if_neg (fun hcard => hservice.1 (union_card_eq_iff.mp hcard))]
          cases proxy with
          | none => exact (hproxy rfl).elim
          | failing errCode => exact ⟨_, _, rfl⟩
          | answering =>
              have hcheck : ¬∀ c ∈ process.constraintSet u ∪ s.manager.constraintSet, checkConstraints c := fun hall =>
                hservice.2 ⟨rfl, fun c hc => hall c (Finset.mem_union_left _ hc)⟩
              have hunion : process.constraintSet u ∪ s.manager.constraintSet ≠ ∅ := fun hempty =>
                hne (Finset.union_eq_empty.mp hempty).1
              have herror : (perform checkConstraints s.service.1
                  (.subscribe (process.constraintSet u ∪ s.manager.constraintSet) (process.needAcross u)
                    process.eventListener process.callingUid)).1 = .error .invalidParameter := by
                rw [perform, ConstraintListeners.subscribeOsAccountConstraints, if_neg hunion, if_pos hcheck]
              rw [send, herror, step_subscribe, if_neg fun hcall => hcheck hcall.2]
              exact ⟨_, _, rfl⟩

theorem inv_subscribe (h : Inv process checkConstraints s)
    (hop : Allowed process checkConstraints s (.subscribe u proxy)) :
    Inv process checkConstraints (next process checkConstraints s (.subscribe u proxy)) := by
  by_cases hu : Accepted process checkConstraints s u proxy
  · rw [next_subscribe_accepted h hu]
    have hcheck : ∀ c ∈ process.constraintSet u, checkConstraints c := by
      rcases hu.service with hsub | hcall
      · exact fun c hc => h.checked c (hsub hc)
      · exact hcall.2
    refine inv_insertSubscriberRecord h _ hu.constraints hcheck (hop hu) ?_ ?_
    · split
      · exact h.service
      · refine inv_step _ _ h.service fun _ _ => ?_
        by_cases hempty : s.manager.subscriberSet = ∅
        · obtain ⟨hnone, hid⟩ := h.idle hempty
          rw [hnone]
          exact fun _ => hid
        · obtain ⟨v, hv⟩ := Finset.nonempty_iff_ne_empty.mpr hempty
          rw [h.active v hv, hop hu v hv]
          exact ⟨Finset.subset_union_right, rfl⟩
    · split
      · rename_i hsub
        obtain ⟨c, hc⟩ := Finset.nonempty_iff_ne_empty.mpr hu.constraints
        have hcs := hsub hc
        rw [h.constraintSet, Finset.mem_biUnion] at hcs
        obtain ⟨v, hv, -⟩ := hcs
        rw [h.active v hv, hop hu v hv, Finset.union_eq_left.mpr hsub]
      · rename_i hsub
        have hcall : process.constraintSet u ∪ s.manager.constraintSet ≠ ∅ ∧
            ∀ c ∈ process.constraintSet u ∪ s.manager.constraintSet, checkConstraints c := by
          refine ⟨fun hempty => hu.constraints (Finset.union_eq_empty.mp hempty).1, fun c hc => ?_⟩
          rcases Finset.mem_union.mp hc with hc | hc
          · exact hcheck c hc
          · exact h.checked c hc
        rw [step_subscribe, if_pos hcall, Finset.union_comm]
        exact Function.update_self ..
  · obtain ⟨r, needAcross, hcall⟩ := subscribeOsAccountConstraints_refused hu
    rw [next, hcall]
    exact inv_needAcross h needAcross

omit [DecidableEq L] [DecidableEq σ] in
theorem mem_syncData_iff (h : Inv process checkConstraints s) (hu : u ∈ s.manager.subscriberSet) {c : String} :
    c ∈ syncData process s.manager u ↔
      c ∈ process.constraintSet u ∧ ∀ v ∈ s.manager.subscriberSet, c ∈ process.constraintSet v → v = u := by
  rw [syncData, Finset.mem_filter]
  refine and_congr_right fun hc => ?_
  have hmem : u ∈ s.manager.constraint2SubscriberMap c := (h.map c u).mpr ⟨hu, hc⟩
  rw [Finset.card_eq_one]
  constructor
  · rintro ⟨w, hw⟩ v hv hcv
    have hvw : v = w := Finset.mem_singleton.mp (hw ▸ (h.map c v).mpr ⟨hv, hcv⟩)
    have huw : u = w := Finset.mem_singleton.mp (hw ▸ hmem)
    exact hvw.trans huw.symm
  · intro honly
    refine ⟨u, Finset.eq_singleton_iff_unique_mem.mpr ⟨hmem, fun v hv => ?_⟩⟩
    obtain ⟨hv, hcv⟩ := (h.map c v).mp hv
    exact honly v hv hcv

omit [DecidableEq L] in
theorem removeSubscriberRecord_constraintSet (h : Inv process checkConstraints s) (hu : u ∈ s.manager.subscriberSet) :
    (removeSubscriberRecord process s.manager u).constraintSet =
        (s.manager.subscriberSet.erase u).biUnion process.constraintSet ∧
      (removeSubscriberRecord process s.manager u).constraintSet =
        s.manager.constraintSet \ syncData process s.manager u := by
  have hleft : ∀ c, (c ∈ process.constraintSet u ∧ (s.manager.constraint2SubscriberMap c).erase u = ∅) ↔
      c ∈ syncData process s.manager u := by
    intro c
    rw [mem_syncData_iff h hu]
    refine and_congr_right fun hc => ?_
    rw [Finset.eq_empty_iff_forall_notMem]
    constructor
    · intro hempty v hv hcv
      by_contra hne
      exact hempty v (Finset.mem_erase.mpr ⟨hne, (h.map c v).mpr ⟨hv, hcv⟩⟩)
    · intro honly v hv
      obtain ⟨hne, hv⟩ := Finset.mem_erase.mp hv
      obtain ⟨hv, hcv⟩ := (h.map c v).mp hv
      exact hne (honly v hv hcv)
  have hdiff : (removeSubscriberRecord process s.manager u).constraintSet =
      s.manager.constraintSet \ syncData process s.manager u := by
    ext c
    simp only [removeSubscriberRecord, Finset.mem_filter, Finset.mem_sdiff, hleft]
  refine ⟨?_, hdiff⟩
  rw [hdiff]
  ext c
  rw [Finset.mem_sdiff, mem_syncData_iff h hu, h.constraintSet, Finset.mem_biUnion, Finset.mem_biUnion]
  constructor
  · rintro ⟨⟨v, hv, hcv⟩, hnot⟩
    by_cases hvu : v = u
    · subst hvu
      rw [not_and] at hnot
      have hother := hnot hcv
      push Not at hother
      obtain ⟨w, hw, hcw, hne⟩ := hother
      exact ⟨w, Finset.mem_erase.mpr ⟨hne, hw⟩, hcw⟩
    · exact ⟨v, Finset.mem_erase.mpr ⟨hvu, hv⟩, hcv⟩
  · rintro ⟨v, hv, hcv⟩
    obtain ⟨hne, hv⟩ := Finset.mem_erase.mp hv
    exact ⟨⟨v, hv, hcv⟩, fun honly => hne (honly.2 v hv hcv)⟩

omit [DecidableEq L] in
theorem inv_removeSubscriberRecord (h : Inv process checkConstraints s) (hu : u ∈ s.manager.subscriberSet)
    {service : Tracked L} (hservice : ConstraintListeners.Inv service)
    (hidle : s.manager.subscriberSet.erase u = ∅ →
      service.2 process.eventListener = none ∧ service.1.userListenerMap process.eventListener = none)
    (hactive : s.manager.subscriberSet.erase u ≠ ∅ → service.2 process.eventListener =
      some ((removeSubscriberRecord process s.manager u).constraintSet,
        localIdOf (process.needAcross u) process.callingUid)) :
    Inv process checkConstraints ⟨removeSubscriberRecord process s.manager u, service⟩ where
  service := hservice
  map c v := by
    have hold := h.map c v
    simp only [removeSubscriberRecord]
    split
    · rw [Finset.mem_erase, Finset.mem_erase, hold]
      exact and_assoc.symm
    · rename_i hc
      rw [hold, Finset.mem_erase]
      refine and_congr_left fun hcv => ⟨fun hv => ⟨?_, hv⟩, And.right⟩
      rintro rfl
      exact hc hcv
  constraintSet := (removeSubscriberRecord_constraintSet h hu).1
  nonempty v hv := h.nonempty v (Finset.mem_of_mem_erase hv)
  checked c hc := h.checked c (Finset.mem_of_mem_filter c hc)
  idle := hidle
  active v hv := by
    rw [hactive (Finset.ne_empty_of_mem hv), h.agree hu (Finset.mem_of_mem_erase hv)]

theorem inv_unsubscribe (h : Inv process checkConstraints s)
    (hop : Allowed process checkConstraints s (.unsubscribe u proxy)) :
    Inv process checkConstraints (next process checkConstraints s (.unsubscribe u proxy)) := by
  rw [next, unsubscribeOsAccountConstraints]
  by_cases hproxy : proxy = .none
  · rw [if_pos hproxy]
    exact h
  rw [if_neg hproxy]
  by_cases hu : u ∈ s.manager.subscriberSet
  case neg =>
    rw [if_pos hu]
    exact h
  rw [if_neg (not_not_intro hu)]
  obtain ⟨hleft, hdiff⟩ := removeSubscriberRecord_constraintSet h hu
  by_cases hsync : syncData process s.manager u = ∅
  · -- All the constraints stay, as other subscribers have them.
    rw [if_pos hsync]
    have hcurrent := h.active u hu
    rw [hsync, Finset.sdiff_empty] at hdiff
    refine inv_removeSubscriberRecord h hu h.service (fun hempty => ?_) fun _ => by rw [hdiff]; exact hcurrent
    rw [hempty, Finset.biUnion_empty] at hleft
    exact (h.nonempty u hu (Finset.subset_empty.mp (hleft.symm.trans hdiff ▸ h.subset hu))).elim
  rw [if_neg hsync]
  cases proxy with
  | none => exact (hproxy rfl).elim
  | failing errCode => exact h
  | answering =>
      have hsub : syncData process s.manager u ⊆ s.manager.constraintSet := fun c hc =>
        h.subset hu (Finset.mem_of_mem_filter c hc)
      obtain ⟨hok, hcurrent, hid⟩ := step_unsubscribe_ok h.service (h.active u hu) hsub hsync
        (fun c hc => h.checked c (hsub hc)) (process.needAcross u) process.callingUid
      rw [send, hok]
      refine inv_removeSubscriberRecord h hu (inv_step _ _ h.service fun _ _ hacross S id hsome => ?_) ?_ ?_
      · -- The local id goes with all the constraints.
        rw [h.active u hu] at hsome
        obtain ⟨rfl, -⟩ := Prod.mk.inj (Option.some.inj hsome)
        refine hsub.antisymm fun c hc => (mem_syncData_iff h hu).mpr ?_
        rcases hop hu hacross rfl with honly | hothers
        · rw [h.constraintSet, Finset.mem_biUnion] at hc
          obtain ⟨v, hv, hcv⟩ := hc
          obtain rfl := honly v hv
          exact ⟨hcv, fun w hw _ => honly w hw⟩
        · refine (hsync (Finset.eq_empty_of_forall_notMem fun c' hc' => ?_)).elim
          obtain ⟨hcu, honly⟩ := (mem_syncData_iff h hu).mp hc'
          obtain ⟨v, hv, hne, hcv⟩ := hothers c' hcu
          exact hne (honly v hv hcv)
      · intro hempty
        rw [hempty, Finset.biUnion_empty, hdiff] at hleft
        refine ⟨hcurrent.trans (if_pos hleft), hid.trans ?_⟩
        split
        · rename_i hlocal
          rw [(h.service.active _ _ _ (h.active u hu)).2.1, hlocal]
        · rfl
      · intro hne
        refine hcurrent.trans ?_
        obtain ⟨v, hv⟩ := Finset.nonempty_iff_ne_empty.mpr hne
        have hrest : s.manager.constraintSet \ syncData process s.manager u ≠ ∅ := by
          rw [← hdiff, hleft]
          intro hempty
          exact h.nonempty v (Finset.mem_of_mem_erase hv)
            (Finset.subset_empty.mp (hempty ▸ Finset.subset_biUnion_of_mem process.constraintSet hv))
        rw [without, if_neg hrest, hdiff]

theorem inv_restart (h : Inv process checkConstraints s) (hop : Allowed process checkConstraints s (.restart proxy)) :
    Inv process checkConstraints (next process checkConstraints s (.restart proxy)) := by
  rw [next, restoreConstraintSubscriberRecords]
  by_cases hempty : s.manager.constraintSet = ∅
  · rw [if_pos hempty]
    have hnone := h.empty_iff.mp hempty
    refine ⟨inv_initial, h.map, h.constraintSet, h.nonempty, h.checked, fun _ => ⟨rfl, rfl⟩, fun u hu => ?_⟩
    rw [hnone] at hu
    cases hu
  · rw [if_neg hempty]
    obtain ⟨u, hu⟩ := Finset.nonempty_iff_ne_empty.mpr fun hnone => hempty (h.empty_iff.mpr hnone)
    obtain ⟨rfl, -⟩ := hop u hu
    refine ⟨inv_step _ _ inv_initial fun _ _ _ => rfl, h.map, h.constraintSet, h.nonempty, h.checked, ?_, ?_⟩
    · exact fun hnone => (hempty (h.empty_iff.mpr hnone)).elim
    · intro v hv
      rw [(hop v hv).2, send, step_subscribe, if_pos ⟨hempty, h.checked⟩]
      exact Function.update_self ..

theorem inv_next (s : System L σ) (event : Event L σ) (h : Inv process checkConstraints s)
    (hop : Allowed process checkConstraints s event) :
      Inv process checkConstraints (next process checkConstraints s event) := by
  cases event with
  | subscribe u proxy => exact inv_subscribe h hop
  | unsubscribe u proxy => exact inv_unsubscribe h hop
  | restart proxy => exact inv_restart h hop
  | other op =>
      obtain ⟨hcurrent, hid⟩ := step_of_ne checkConstraints s.service op hop.1
      refine ⟨inv_step _ _ h.service hop.2, h.map, h.constraintSet, h.nonempty, h.checked,
        fun hempty => ?_, fun u hu => ?_⟩
      · exact ⟨hcurrent.trans (h.idle hempty).1, hid.trans (h.idle hempty).2⟩
      · exact hcurrent.trans (h.active u hu)

omit [DecidableEq L] [DecidableEq σ] in
theorem inv_start : Inv process checkConstraints ({} : System L σ) where
  service := inv_initial
  map _ _ := by simp
  constraintSet := rfl
  nonempty _ hu := nomatch hu
  checked _ hc := nomatch hc
  idle _ := ⟨rfl, rfl⟩
  active _ hu := nomatch hu

theorem localIdOf_admits {needAcross : Bool} {callingUid localId : Int} :
    (∀ id ∈ localIdOf needAcross callingUid, id = localId) ↔
      needAcross = true ∨ localId = callingUid / uidTransformDivisor := by
  cases needAcross with
  | true => simp [localIdOf]
  | false => simp [localIdOf, eq_comm]

theorem informed_of_inv (h : Inv process checkConstraints s) : Informed process s where
  registered := by
    rw [← h.constraintSet, registered]
    by_cases hempty : s.manager.subscriberSet = ∅
    · rw [findRecord_none (h.service.idle _ (h.idle hempty).1), h.empty_iff.mpr hempty]
    · obtain ⟨u, hu⟩ := Finset.nonempty_iff_ne_empty.mpr hempty
      obtain ⟨p, record, hfind, hset, -⟩ := h.service.find (h.active u hu)
      rw [hfind]
      exact hset
  told u localId C c := by
    rw [told]
    by_cases hc : c ∈ C ∧ u ∈ s.manager.subscriberSet ∧ c ∈ process.constraintSet u
    · obtain ⟨hcC, hu, hcu⟩ := hc
      rw [if_pos ⟨hcC, (h.map c u).mpr ⟨hu, hcu⟩⟩]
      have hexact := exact_of_inv h.service localId C process.eventListener
      have hadmits : Admits s.service.2 localId C process.eventListener ↔
          process.needAcross u = true ∨ localId = process.callingUid / uidTransformDivisor := by
        rw [← localIdOf_admits]
        constructor
        · rintro ⟨S, id?, hsome, -, hid⟩
          cases (h.active u hu).symm.trans hsome
          exact hid
        · exact fun hid => ⟨_, _, h.active u hu, ⟨c, hcC, h.subset hu hcu⟩, hid⟩
      by_cases hid : process.needAcross u = true ∨ localId = process.callingUid / uidTransformDivisor
      · rw [if_pos ⟨hcC, hu, hcu, hid⟩]
        exact hexact.1 (hadmits.mpr hid)
      · rw [if_neg fun hall => hid hall.2.2.2]
        exact hexact.2 fun h => hid (hadmits.mp h)
    · rw [if_neg fun hall => hc ⟨hall.1, (h.map c u).mp hall.2⟩,
        if_neg fun hall => hc ⟨hall.1, hall.2.1, hall.2.2.1⟩]

end invariant

/-- The notifications are exact in the service and in a client, all along the runs whose steps keep to one kind of
subscription. -/
theorem notifications_exact (process : Process L σ) (checkConstraints : String → Bool) :
    (∀ ops, Machine.Meets (step checkConstraints) (ConstraintListeners.Allowed checkConstraints) initial ops →
      Exact (Machine.run (step checkConstraints) (initial : Tracked L) ops).1
        (Machine.run (step checkConstraints) initial ops).2) ∧
    ∀ events, Machine.Meets (next process checkConstraints) (Allowed process checkConstraints) {} events →
      Informed process (Machine.run (next process checkConstraints) {} events) := by
  refine ⟨fun ops hops => exact_run hops, fun events hevents => ?_⟩
  have h : Inv process checkConstraints (Machine.run (next process checkConstraints) {} events) :=
    Machine.run_invariant_of_meets inv_next inv_start hevents
  exact informed_of_inv h

/-- A listener that is subscribed again to less is still notified of the rest. -/
theorem not_exact_resubscribed : ¬∀ ops : List (Operation Nat),
    Exact (Machine.run (step fun _ => true) initial ops).1 (Machine.run (step fun _ => true) initial ops).2 := by
  intro h
  have hzero := (h [.subscribe {"a", "b"} true 1 7, .subscribe {"b"} true 1 7] 0 {"a"} 1).2 (by
    rintro ⟨S, id?, hsome, ⟨c, hc, hcS⟩, -⟩
    cases hsome
    rw [Finset.mem_singleton] at hc hcS
    exact absurd (hc.symm.trans hcS) (by decide))
  exact absurd hzero (by decide)

theorem notifications_exact_restarted : Informed ⟨fun _ => {"a"}, fun _ => true, 1, 7⟩
    (Machine.run (next ⟨fun _ => {"a"}, fun _ => true, 1, 7⟩ fun _ => true) ({} : System Nat Nat)
      [.subscribe 1 .answering, .subscribe 2 .answering, .unsubscribe 1 .answering, .restart .answering]) :=
  (notifications_exact ⟨fun _ => {"a"}, fun _ => true, 1, 7⟩ fun _ => true).2 _
    ⟨fun _ _ hu => (nomatch hu), fun _ _ _ => rfl, fun _ hacross => (nomatch hacross),
      fun _ _ => ⟨rfl, rfl⟩, trivial⟩

end OsAccount.ConstraintSubscribers
