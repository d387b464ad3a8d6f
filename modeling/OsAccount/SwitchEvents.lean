import Mathlib.Algebra.Order.Ring.Nat
import Mathlib.Data.Finset.Insert
import OsAccount.Machine

namespace OsAccount.SwitchEvents

open Function

inductive OsAccountState
  | invalidType
  | activated
  | activating
  | unlocked
  | created
  | removed
  | stopping
  | stopped
  | switching
  | switched
  | creating
  | locking
  | locked
  deriving DecidableEq

structure OsAccountSubscribeInfo where
  osAccountSubscribeType : OsAccountState
  states : Finset OsAccountState
  withHandshake : Bool

/-- `PublishToAllSubscribers` also looks at the type, which is that of old clients. -/
def OsAccountSubscribeInfo.Subscribes (info : OsAccountSubscribeInfo) (state : OsAccountState) : Prop :=
  info.osAccountSubscribeType = state ∨ state ∈ info.states

instance (info : OsAccountSubscribeInfo) (state : OsAccountState) : Decidable (info.Subscribes state) :=
  inferInstanceAs (Decidable (_ ∨ _))

def OsAccountSubscribeInfo.Switches (info : OsAccountSubscribeInfo) : Prop :=
  info.Subscribes .switching ∨ info.Subscribes .switched

/-- What `SubscribeOsAccount` and `RemoveSubscribeRecord` look at. -/
def OsAccountSubscribeInfo.HasSwitch (info : OsAccountSubscribeInfo) : Prop :=
  .switching ∈ info.states ∨ .switched ∈ info.states

instance (info : OsAccountSubscribeInfo) : Decidable info.HasSwitch := inferInstanceAs (Decidable (_ ∨ _))

variable {L : Type} [DecidableEq L]

/-- `subscription` is not in the source: it tells the subscriptions to the switches apart that a listener has had. -/
structure OsSubscribeRecord (L : Type) where
  subscribeInfo : OsAccountSubscribeInfo
  eventListener : L
  callingUid : Int
  subscription : Nat

structure OsAccountStateParcel where
  fromId : Int
  toId : Int
  state : OsAccountState
  displayId : Option Nat

structure SwitchSubscribeWork (L : Type) where
  eventProxy : L
  stateParcel : OsAccountStateParcel
  subscription : Nat

def OsSubscribeRecord.work (record : OsSubscribeRecord L) (stateParcel : OsAccountStateParcel) :
    SwitchSubscribeWork L :=
  ⟨record.eventListener, stateParcel, record.subscription⟩

structure SwitchSubscribeInfo (L : Type) where
  count : Nat := 0
  workDeque : List (SwitchSubscribeWork L) := []
  workThread : Bool := false

/-- Where a worker stands: at the head of its loop, with a pointer to its queue, or in the call of the listener. -/
inductive ConsumerTask (L : Type)
  | ended
  | looping
  | locked
  | delivering (work : SwitchSubscribeWork L)

def ConsumerTask.Working : ConsumerTask L → Prop
  | .ended | .looping => False
  | .locked | .delivering _ => True

def ConsumerTask.inHand : ConsumerTask L → List (SwitchSubscribeWork L)
  | .delivering work => [work]
  | _ => []

/-- What there is for one uid: the number of its entry, the entries that were ever made, their workers, what the
listeners were called with, and what they should be called with. -/
structure Switch (L : Type) where
  entry : Option Nat := none
  made : Nat := 0
  info : Nat → SwitchSubscribeInfo L := fun _ => {}
  worker : Nat → ConsumerTask L := fun _ => .ended
  delivered : List (SwitchSubscribeWork L) := []
  published : List (SwitchSubscribeWork L) := []

section switch

variable (u : Switch L)

def addSubscribeInfo : Switch L :=
  match u.entry with
  | some entry =>
      { u with
        info := update u.info entry { u.info entry with count := ((u.info entry).count + 1) % 2 ^ 8 } }
  | none => { u with entry := some u.made, made := u.made + 1, info := update u.info u.made {} }

def subSubscribeInfo : Switch L :=
  match u.entry with
  | none => u
  | some entry =>
      { u with
        info := update u.info entry { u.info entry with count := (u.info entry).count - 1 }
        entry := if (u.info entry).count - 1 = 0 then none else some entry }

def productTask (work : SwitchSubscribeWork L) : Switch L :=
  match u.entry with
  | none => u
  | some entry =>
      { u with
        info := update u.info entry
          { u.info entry with workDeque := (u.info entry).workDeque ++ [work], workThread := true }
        worker :=
          if (u.info entry).workThread then u.worker else update u.worker entry .looping }

def consumerTask (entry : Nat) : Switch L :=
  match u.worker entry with
  | .ended => u
  | .looping =>
      { u with worker := update u.worker entry (if u.entry = some entry then .locked else .ended) }
  | .locked =>
      match (u.info entry).workDeque with
      | [] =>
          { u with
            info := update u.info entry { u.info entry with workThread := false }
            worker := update u.worker entry .ended }
      | work :: workDeque =>
          { u with
            info := update u.info entry { u.info entry with workDeque }
            worker := update u.worker entry (.delivering work) }
  | .delivering work =>
      { u with
        delivered := u.delivered ++ [work]
        worker := update u.worker entry .looping }

end switch

structure SubscribeManager (L : Type) where
  subscribeRecords : List (OsSubscribeRecord L) := []
  switchRecordMap : Int → Switch L := fun _ => {}
  publishing : Option (OsAccountStateParcel × List (OsSubscribeRecord L)) := none
  next : Nat := 0

/-- What a listener has asked for again. A subscription without switches ends that to the switches. -/
def resubscribed (info : OsAccountSubscribeInfo) (subscription : Nat) (record : OsSubscribeRecord L) :
    OsSubscribeRecord L :=
  if record.subscribeInfo.states = info.states then record
  else
    { record with
      subscribeInfo := info
      subscription := if info.HasSwitch then record.subscription else subscription }

def again (info : OsAccountSubscribeInfo) (l : L) (n : Nat) (record : OsSubscribeRecord L) : OsSubscribeRecord L :=
  if record.eventListener = l then resubscribed info n record else record

def works (stateParcel : OsAccountStateParcel) (records : List (OsSubscribeRecord L)) (uid : Int) :
    List (SwitchSubscribeWork L) :=
  (records.filter fun record => record.callingUid = uid ∧ record.subscribeInfo.Subscribes stateParcel.state).map
    (·.work stateParcel)

section manager

variable (s : SubscribeManager L)

def subscribeOsAccount (info : OsAccountSubscribeInfo) (eventListener : L) (callingUid : Int) : SubscribeManager L :=
  let subscribeRecords :=
    if s.subscribeRecords.any (·.eventListener = eventListener) then
      s.subscribeRecords.map (again info eventListener s.next)
    else s.subscribeRecords ++ [⟨info, eventListener, callingUid, s.next⟩]
  { s with
    subscribeRecords
    next := s.next + 1
    switchRecordMap :=
      if info.HasSwitch then
        update s.switchRecordMap callingUid (addSubscribeInfo (s.switchRecordMap callingUid))
      else s.switchRecordMap }

/-- `UnsubscribeOsAccount` with `RemoveSubscribeRecord`, for a call as for the death of a listener. -/
def unsubscribeOsAccount (eventListener : L) : SubscribeManager L :=
  match s.subscribeRecords.find? (·.eventListener = eventListener) with
  | none => s
  | some record =>
      { s with
        subscribeRecords := s.subscribeRecords.filter (·.eventListener ≠ eventListener)
        switchRecordMap :=
          if record.subscribeInfo.HasSwitch then
            update s.switchRecordMap record.callingUid
              (subSubscribeInfo (s.switchRecordMap record.callingUid))
          else s.switchRecordMap }

/-- `Publish` for a switch begins: the listeners should be called. -/
def publish (stateParcel : OsAccountStateParcel) : SubscribeManager L :=
  if stateParcel.state = .switching ∨ stateParcel.state = .switched then
    { s with
      publishing := some (stateParcel, s.subscribeRecords)
      switchRecordMap := fun uid =>
        { s.switchRecordMap uid with
          published := (s.switchRecordMap uid).published ++ works stateParcel s.subscribeRecords uid } }
  else s

def publishNext : SubscribeManager L :=
  match s.publishing with
  | none => s
  | some (_, []) => { s with publishing := none }
  | some (stateParcel, record :: records) =>
      { s with
        publishing := some (stateParcel, records)
        switchRecordMap :=
          if record.subscribeInfo.Subscribes stateParcel.state then
            update s.switchRecordMap record.callingUid
              (productTask (s.switchRecordMap record.callingUid) (record.work stateParcel))
          else s.switchRecordMap }

def consume (uid : Int) (entry : Nat) : SubscribeManager L :=
  { s with
    switchRecordMap := update s.switchRecordMap uid (consumerTask (s.switchRecordMap uid) entry) }

def toProduce (uid : Int) : List (SwitchSubscribeWork L) :=
  match s.publishing with
  | none => []
  | some (stateParcel, records) => works stateParcel records uid

end manager

inductive Operation (L : Type)
  | subscribe (info : OsAccountSubscribeInfo) (eventListener : L) (callingUid : Int)
  | unsubscribe (eventListener : L)
  | publish (stateParcel : OsAccountStateParcel)
  | publishNext
  | consume (uid : Int) (entry : Nat)

def step (s : SubscribeManager L) : Operation L → SubscribeManager L
  | .subscribe info eventListener callingUid =>
      if s.publishing.isSome then s else subscribeOsAccount s info eventListener callingUid
  | .unsubscribe eventListener => if s.publishing.isSome then s else unsubscribeOsAccount s eventListener
  | .publish stateParcel => if s.publishing.isSome then s else publish s stateParcel
  | .publishNext => publishNext s
  | .consume uid entry => consume s uid entry

def worksOf (record : OsSubscribeRecord L) (works : List (SwitchSubscribeWork L)) : List (SwitchSubscribeWork L) :=
  works.filter fun work => work.eventProxy = record.eventListener ∧ work.subscription = record.subscription

def RecordOf (s : SubscribeManager L) (uid : Int) (record : OsSubscribeRecord L) : Prop :=
  record ∈ s.subscribeRecords ∧ record.callingUid = uid

/-- There are entries for the uids that have subscribed to switches. A listener gets what it should in order, and all
of it when nothing is left to do; what is left has a worker, of which a uid has one. -/
structure Right (s : SubscribeManager L) : Prop where
  entry : ∀ uid, (s.switchRecordMap uid).entry ≠ none ↔ ∃ record, RecordOf s uid record ∧ record.subscribeInfo.Switches
  inOrder : ∀ uid, (s.switchRecordMap uid).delivered.Sublist (s.switchRecordMap uid).published
  received : ∀ uid record, RecordOf s uid record →
    worksOf record (s.switchRecordMap uid).delivered <+: worksOf record (s.switchRecordMap uid).published
  complete : ∀ uid record, RecordOf s uid record → s.publishing = none →
    (∀ entry, (s.switchRecordMap uid).worker entry = .ended) →
      worksOf record (s.switchRecordMap uid).delivered = worksOf record (s.switchRecordMap uid).published
  goesOn : ∀ uid entry, (s.switchRecordMap uid).entry = some entry →
    ((s.switchRecordMap uid).info entry).workDeque ≠ [] → (s.switchRecordMap uid).worker entry ≠ .ended
  oneWorker : ∀ uid entry entry', ((s.switchRecordMap uid).worker entry).Working →
    ((s.switchRecordMap uid).worker entry').Working → entry = entry'

def Another (s : SubscribeManager L) (eventListener : L) (uid : Int) : Prop :=
  ∃ record, RecordOf s uid record ∧ record.eventListener ≠ eventListener ∧ record.subscribeInfo.Switches

/-- An old client does not subscribe to a switch, a listener subscribes from its uid, and one that gives up the
switches leaves another one of the uid. The count of an entry is at its end just when no other listener is left. A
worker goes on when that of an older entry is done. -/
def Allowed (s : SubscribeManager L) : Operation L → Prop
  | .subscribe info eventListener callingUid =>
      s.publishing = none →
        ((∀ record ∈ s.subscribeRecords, record.eventListener = eventListener →
            record.subscribeInfo.states ≠ info.states) → info.Switches → info.HasSwitch) ∧
        ∀ record ∈ s.subscribeRecords, record.eventListener = eventListener →
          (info.HasSwitch → callingUid = record.callingUid ∨
            (s.switchRecordMap callingUid).entry ≠ none ∧ (s.switchRecordMap record.callingUid).entry ≠ none) ∧
          (¬info.HasSwitch → record.subscribeInfo.HasSwitch → Another s eventListener record.callingUid)
  | .unsubscribe eventListener =>
      s.publishing = none → ∀ record ∈ s.subscribeRecords, record.eventListener = eventListener →
        record.subscribeInfo.HasSwitch → ∀ entry, (s.switchRecordMap record.callingUid).entry = some entry →
          (((s.switchRecordMap record.callingUid).info entry).count ≤ 1 ↔ ¬Another s eventListener record.callingUid)
  | .consume uid entry =>
      (s.switchRecordMap uid).worker entry = .looping → (s.switchRecordMap uid).entry = some entry →
        ∀ other, other ≠ entry → ¬((s.switchRecordMap uid).worker other).Working
  | .publish _ | .publishNext => True

instance (task : ConsumerTask L) : Decidable task.Working :=
  match task with
  | .ended | .looping => .isFalse id
  | .locked | .delivering _ => .isTrue trivial

namespace Switch

def outdated (u : Switch L) (entry : Nat) : List (SwitchSubscribeWork L) :=
  if (u.worker entry).Working ∧ u.entry ≠ some entry then (u.info entry).workDeque else []

def waiting (u : Switch L) : List (SwitchSubscribeWork L) :=
  match u.entry with
  | none => []
  | some entry => (u.info entry).workDeque

def line (u : Switch L) (entry : Nat) (produce : List (SwitchSubscribeWork L)) : List (SwitchSubscribeWork L) :=
  u.delivered ++ ((u.worker entry).inHand ++ u.outdated entry ++ u.waiting ++ produce)

end Switch

/-- What is known of a uid where at most the worker of `entry` works: the works for the records of the uid are all in
the line. -/
structure Line (Record : OsSubscribeRecord L → Prop) (produce : List (SwitchSubscribeWork L)) (next : Nat)
    (u : Switch L) (entry : Nat) : Prop where
  made : ∀ n, u.entry = some n → n < u.made
  unmade : ∀ n, u.made ≤ n → u.worker n = .ended
  thread : ∀ n, u.entry = some n → ((u.info n).workThread = true ↔ u.worker n ≠ .ended)
  busy : ∀ n, u.entry = some n → (u.info n).workDeque ≠ [] → u.worker n ≠ .ended
  one : ∀ n, (u.worker n).Working → n = entry
  fresh : ∀ work ∈ u.published, work.subscription < next
  idle : ∀ record, Record record → ¬record.subscribeInfo.Switches → worksOf record u.published = []
  inOrder : (u.line entry produce).Sublist u.published
  whole : ∀ record, Record record → worksOf record (u.line entry produce) = worksOf record u.published
  outdated : ∀ record, Record record → worksOf record (u.outdated entry) = []

section lines

variable {Record Record' : OsSubscribeRecord L → Prop} {produce : List (SwitchSubscribeWork L)} {next next' : Nat}
  {u : Switch L} {entry : Nat} {record : OsSubscribeRecord L} {work : SwitchSubscribeWork L}

theorem worksOf_append (record : OsSubscribeRecord L) (as bs : List (SwitchSubscribeWork L)) :
    worksOf record (as ++ bs) = worksOf record as ++ worksOf record bs :=
  List.filter_append ..

theorem worksOf_eq_nil_of_sublist {as bs : List (SwitchSubscribeWork L)} (h : as.Sublist bs)
    (hnil : worksOf record bs = []) : worksOf record as = [] := by
  have hsub : (worksOf record as).Sublist (worksOf record bs) := h.filter _
  rw [hnil] at hsub
  exact List.sublist_nil.mp hsub

omit [DecidableEq L] in
theorem outdated_sublist_line : (u.outdated entry).Sublist (u.line entry produce) :=
  (((List.sublist_append_right _ _).trans (List.sublist_append_left _ _)).trans
    (List.sublist_append_left _ _)).trans (List.sublist_append_right _ _)

theorem worksOf_congr {record record' : OsSubscribeRecord L} (hl : record.eventListener = record'.eventListener)
    (hn : record.subscription = record'.subscription) (as : List (SwitchSubscribeWork L)) :
    worksOf record as = worksOf record' as := by
  rw [worksOf, worksOf, hl, hn]

theorem worksOf_fresh {as : List (SwitchSubscribeWork L)} (h : ∀ work ∈ as, work.subscription < next)
    (hn : next ≤ record.subscription) : worksOf record as = [] := by
  refine List.filter_eq_nil_iff.mpr fun work hwork heq => ?_
  have hlt := h work hwork
  have heq' := (of_decide_eq_true heq).2
  omega

theorem Line.records (h : Line Record produce next u entry) (hnext : next ≤ next')
    (hrecords : ∀ record', Record' record' → next ≤ record'.subscription ∨
      ∃ record, Record record ∧ record.eventListener = record'.eventListener ∧
        record.subscription = record'.subscription ∧
        (¬record'.subscribeInfo.Switches → ¬record.subscribeInfo.Switches)) :
    Line Record' produce next' u entry where
  made := h.made
  unmade := h.unmade
  thread := h.thread
  busy := h.busy
  one := h.one
  fresh work hwork := lt_of_lt_of_le (h.fresh work hwork) hnext
  idle record' hrecord' hidle := by
    rcases hrecords record' hrecord' with hnew | ⟨record, hrecord, hl, hn, hswitch⟩
    · exact worksOf_fresh h.fresh hnew
    · rw [← worksOf_congr hl hn]
      exact h.idle record hrecord (hswitch hidle)
  inOrder := h.inOrder
  whole record' hrecord' := by
    rcases hrecords record' hrecord' with hnew | ⟨record, hrecord, hl, hn, -⟩
    · have hnil := worksOf_fresh h.fresh hnew
      rw [hnil, worksOf_eq_nil_of_sublist h.inOrder hnil]
    · rw [← worksOf_congr hl hn, ← worksOf_congr hl hn]
      exact h.whole record hrecord
  outdated record' hrecord' := by
    rcases hrecords record' hrecord' with hnew | ⟨record, hrecord, hl, hn, -⟩
    · exact worksOf_eq_nil_of_sublist (outdated_sublist_line.trans h.inOrder) (worksOf_fresh h.fresh hnew)
    · rw [← worksOf_congr hl hn]
      exact h.outdated record hrecord

theorem Line.publish {works : List (SwitchSubscribeWork L)} (h : Line Record [] next u entry)
    (hfresh : ∀ work ∈ works, work.subscription < next)
    (hidle : ∀ record, Record record → ¬record.subscribeInfo.Switches → worksOf record works = []) :
    Line Record works next { u with published := u.published ++ works } entry := by
  have hline : ({ u with published := u.published ++ works } : Switch L).line entry works =
      u.line entry [] ++ works := by
    simp only [Switch.line, Switch.outdated, Switch.waiting, List.append_nil, List.append_assoc]
  refine ⟨h.made, h.unmade, h.thread, h.busy, h.one, ?_, ?_, ?_, ?_, h.outdated⟩
  · intro work hwork
    rcases List.mem_append.mp hwork with hwork | hwork
    · exact h.fresh work hwork
    · exact hfresh work hwork
  · intro record hrecord hnot
    rw [worksOf_append, h.idle record hrecord hnot, hidle record hrecord hnot]
    rfl
  · rw [hline]
    exact h.inOrder.append_right works
  · intro record hrecord
    rw [hline, worksOf_append, worksOf_append, h.whole record hrecord]

/-- The rule for a step after which the line is the same, or has lost works that are for none of the records. -/
theorem Line.change (h : Line Record produce next u entry) {u' : Switch L} {entry' : Nat}
    {produce' : List (SwitchSubscribeWork L)} (hpublished : u'.published = u.published)
    (hmade : ∀ n, u'.entry = some n → n < u'.made) (hunmade : ∀ n, u'.made ≤ n → u'.worker n = .ended)
    (hthread : ∀ n, u'.entry = some n → ((u'.info n).workThread = true ↔ u'.worker n ≠ .ended))
    (hbusy : ∀ n, u'.entry = some n → (u'.info n).workDeque ≠ [] → u'.worker n ≠ .ended)
    (hone : ∀ n, (u'.worker n).Working → n = entry')
    (hline : (u'.line entry' produce').Sublist (u.line entry produce))
    (hwhole : ∀ record, Record record →
      worksOf record (u'.line entry' produce') = worksOf record (u.line entry produce))
    (houtdated : ∀ record, Record record → worksOf record (u'.outdated entry') = []) :
    Line Record produce' next u' entry' where
  made := hmade
  unmade := hunmade
  thread := hthread
  busy := hbusy
  one := hone
  fresh := hpublished ▸ h.fresh
  idle := hpublished ▸ h.idle
  inOrder := hpublished ▸ hline.trans h.inOrder
  whole record hrecord := by rw [hwhole record hrecord, h.whole record hrecord, hpublished]
  outdated := houtdated

theorem Line.rewrite (h : Line Record produce next u entry) {u' : Switch L} {entry' : Nat}
    {produce' : List (SwitchSubscribeWork L)} (hpublished : u'.published = u.published)
    (hmade : ∀ n, u'.entry = some n → n < u'.made) (hunmade : ∀ n, u'.made ≤ n → u'.worker n = .ended)
    (hthread : ∀ n, u'.entry = some n → ((u'.info n).workThread = true ↔ u'.worker n ≠ .ended))
    (hbusy : ∀ n, u'.entry = some n → (u'.info n).workDeque ≠ [] → u'.worker n ≠ .ended)
    (hone : ∀ n, (u'.worker n).Working → n = entry') (hline : u'.line entry' produce' = u.line entry produce)
    (houtdated : ∀ record, Record record → worksOf record (u'.outdated entry') = []) :
    Line Record produce' next u' entry' :=
  h.change hpublished hmade hunmade hthread hbusy hone (hline ▸ List.Sublist.refl _)
    (fun _ _ => by rw [hline]) houtdated

theorem Line.count (h : Line Record produce next u entry) (current count : Nat) :
    Line Record produce next { u with info := update u.info current { u.info current with count } } entry := by
  have hsame : ∀ n, (update u.info current { u.info current with count } n).workDeque =
    (u.info n).workDeque ∧
      (update u.info current { u.info current with count } n).workThread =
          (u.info n).workThread := by
    intro n
    by_cases hn : n = current
    · subst hn
      rw [update_self]
      exact ⟨rfl, rfl⟩
    · rw [update_of_ne hn]
      exact ⟨rfl, rfl⟩
  have houtdated : ({ u with info := update u.info current { u.info current with count } } : Switch L).outdated
      entry = u.outdated entry := by
    simp only [Switch.outdated, (hsame _).1]
  have hwaiting : ({ u with info := update u.info current { u.info current with count } } : Switch L).waiting =
      u.waiting := by
    simp only [Switch.waiting, (hsame _).1]
  refine h.rewrite rfl h.made h.unmade (fun n hn => ?_) (fun n hn => ?_) h.one ?_ fun record hrecord => ?_
  · rw [(hsame n).2]
    exact h.thread n hn
  · rw [(hsame n).1]
    exact h.busy n hn
  · rw [Switch.line, houtdated, hwaiting]
    rfl
  · rw [houtdated]
    exact h.outdated record hrecord

theorem Line.addSubscribeInfo (h : Line Record produce next u entry) :
    Line Record produce next (addSubscribeInfo u) entry := by
  rw [SwitchEvents.addSubscribeInfo]
  cases hentry : u.entry with
  | some current =>
      have hcount := h.count current (((u.info current).count + 1) % 2 ^ 8)
      rw [hentry] at hcount
      exact hcount
  | none =>
      have hmade : u.worker u.made = .ended := h.unmade _ le_rfl
      have houtdated : ({ u with entry := some u.made, made := u.made + 1, info := update u.info u.made {} } :
          Switch L).outdated entry = u.outdated entry := by
        by_cases hworking : (u.worker entry).Working
        · have hne : entry ≠ u.made := by
            rintro rfl
            rw [hmade] at hworking
            exact hworking
          simp [Switch.outdated, hworking, hentry, hne, hne.symm]
        · simp [Switch.outdated, hworking]
      have hwaiting : ({ u with entry := some u.made, made := u.made + 1, info := update u.info u.made {} } :
          Switch L).waiting = u.waiting := by
        simp [Switch.waiting, hentry]
      refine h.rewrite rfl (fun n hn => ?_) (fun n hn => h.unmade n ?_) (fun n hn => ?_) (fun n hn => ?_) h.one ?_
        fun record hrecord => ?_
      · cases hn
        exact Nat.lt_succ_self _
      · exact Nat.le_of_succ_le hn
      · cases hn
        simp [hmade]
      · cases hn
        simp
      · rw [Switch.line, houtdated, hwaiting]
        rfl
      · rw [houtdated]
        exact h.outdated record hrecord

theorem Line.erase (h : Line Record produce next u entry)
    (hidle : ∀ record, Record record → ¬record.subscribeInfo.Switches) :
    Line Record produce next { u with entry := none } entry := by
  have hkept : (({ u with entry := none } : Switch L).outdated entry).Sublist
      (u.outdated entry ++ u.waiting) := by
    by_cases hworking : (u.worker entry).Working
    · by_cases hcurrent : u.entry = some entry
      · simp [Switch.outdated, Switch.waiting, hworking, hcurrent]
      · simp [Switch.outdated, hworking, hcurrent]
    · simp [Switch.outdated, hworking]
  have hline : (({ u with entry := none } : Switch L).line entry produce).Sublist (u.line entry produce) := by
    rw [Switch.line, Switch.line]
    refine List.Sublist.append_left (List.Sublist.append_right ?_ _) _
    rw [List.append_assoc, List.append_assoc]
    refine List.Sublist.append_left ?_ _
    have hnone : ({ u with entry := none } : Switch L).waiting = [] := rfl
    rw [hnone, List.append_nil]
    exact hkept
  have hnone : ∀ record, Record record → worksOf record u.published = [] := fun record hrecord =>
    h.idle record hrecord (hidle record hrecord)
  refine h.change rfl nofun h.unmade nofun nofun h.one hline
    (fun record hrecord => ?_) fun record hrecord => ?_
  · rw [worksOf_eq_nil_of_sublist (hline.trans h.inOrder) (hnone record hrecord),
      worksOf_eq_nil_of_sublist h.inOrder (hnone record hrecord)]
  · exact worksOf_eq_nil_of_sublist (outdated_sublist_line.trans (hline.trans h.inOrder))
      (hnone record hrecord)

theorem Line.subSubscribeInfo (h : Line Record produce next u entry)
    (hidle : ∀ current, u.entry = some current → (u.info current).count ≤ 1 →
      ∀ record, Record record → ¬record.subscribeInfo.Switches) :
    Line Record produce next (subSubscribeInfo u) entry := by
  rw [SwitchEvents.subSubscribeInfo]
  cases hentry : u.entry with
  | none => exact h
  | some current =>
      have hcount := h.count current ((u.info current).count - 1)
      dsimp only
      split
      · rename_i hzero
        exact hcount.erase (hidle current hentry (by omega))
      · rw [hentry] at hcount
        exact hcount

theorem Line.productTask (h : Line Record (work :: produce) next u entry) (hentry : u.entry ≠ none) :
    Line Record produce next (productTask u work) entry := by
  rw [SwitchEvents.productTask]
  cases hcurrent : u.entry with
  | none => exact (hentry hcurrent).elim
  | some current =>
      have hthread := h.thread current hcurrent
      dsimp only
      generalize hnew : (if (u.info current).workThread then u.worker else update u.worker current .looping) =
        worker
      rw [← hcurrent]
      have hworker : ∀ n, worker n = u.worker n ∨ n = current ∧ u.worker n = .ended ∧
          worker n = .looping := by
        intro n
        rw [← hnew]
        by_cases hstarted : (u.info current).workThread
        · rw [if_pos hstarted]
          exact .inl rfl
        · rw [if_neg hstarted]
          by_cases hn : n = current
          · subst hn
            rw [update_self]
            exact .inr ⟨rfl, not_not.mp fun hne => hstarted (hthread.mpr hne), rfl⟩
          · rw [update_of_ne hn]
            exact .inl rfl
      have hrunning : worker current ≠ .ended := by
        rw [← hnew]
        by_cases hstarted : (u.info current).workThread
        · rw [if_pos hstarted]
          exact hthread.mp hstarted
        · rw [if_neg hstarted, update_self]
          exact nofun
      have hhand : (worker entry).inHand = (u.worker entry).inHand := by
        rcases hworker entry with hsame | ⟨-, hended, hlooping⟩
        · rw [hsame]
        · rw [hended, hlooping]
          rfl
      have houtdated : ({ u with
          info := update u.info current
            { u.info current with workDeque := (u.info current).workDeque ++ [work], workThread := true }
          worker } : Switch L).outdated entry = u.outdated entry := by
        simp only [Switch.outdated]
        rcases hworker entry with hsame | ⟨-, hended, hlooping⟩
        · by_cases hn : entry = current
          · simp [hcurrent, hn]
          · simp only [hsame, update_of_ne hn]
        · simp [hended, hlooping, ConsumerTask.Working]
      refine h.rewrite rfl h.made (fun n hn => ?_) (fun n hn => ?_) (fun n hn _ => ?_) (fun n hn => ?_) ?_
        fun record hrecord => ?_
      · rcases hworker n with hsame | ⟨rfl, -, -⟩
        · exact hsame.trans (h.unmade n hn)
        · exact (Nat.lt_irrefl _ (lt_of_lt_of_le (h.made n hcurrent) hn)).elim
      · obtain rfl := Option.some.inj (hcurrent.symm.trans hn)
        dsimp only
        rw [update_self]
        exact iff_of_true rfl hrunning
      · obtain rfl := Option.some.inj (hcurrent.symm.trans hn)
        exact hrunning
      · dsimp only at hn
        rcases hworker n with hsame | ⟨-, -, hlooping⟩
        · rw [hsame] at hn
          exact h.one n hn
        · rw [hlooping] at hn
          exact hn.elim
      · rw [Switch.line, Switch.line, houtdated]
        simp only [Switch.waiting, hcurrent, update_self, hhand, List.append_assoc,
          List.singleton_append]
      · rw [houtdated]
        exact h.outdated record hrecord

theorem Line.release (h : Line Record produce next u entry) (n : Nat) (task : ConsumerTask L)
    (htask : ¬task.Working) (hhand : (u.worker n).inHand = []) (hended : n < u.made)
    (hrunning : u.entry = some n → task ≠ .ended ∧ u.worker n ≠ .ended) :
    Line Record produce next { u with worker := update u.worker n task } entry := by
  have hidle : task.inHand = [] := by
    cases task with
    | delivering work => exact (htask trivial).elim
    | _ => rfl
  have houtdated : (({ u with worker := update u.worker n task } : Switch L).outdated entry).Sublist
      (u.outdated entry) := by
    by_cases hn : entry = n
    · subst hn
      simp [Switch.outdated, htask]
    · simp only [Switch.outdated, update_of_ne hn]
      exact List.Sublist.refl _
  have hinHand : (update u.worker n task entry).inHand = (u.worker entry).inHand := by
    by_cases hn : entry = n
    · subst hn
      rw [update_self, hidle, hhand]
    · rw [update_of_ne hn]
  have hother : ∀ record, Record record →
      worksOf record (({ u with worker := update u.worker n task } : Switch L).outdated entry) = [] :=
    fun record hrecord => worksOf_eq_nil_of_sublist houtdated (h.outdated record hrecord)
  have hwaiting : ({ u with worker := update u.worker n task } : Switch L).waiting = u.waiting := rfl
  refine h.change rfl h.made (fun m hm => ?_) (fun m hm => ?_) (fun m hm hne => ?_) (fun m hm => ?_) ?_
    (fun record hrecord => ?_) hother
  · have hne : m ≠ n := by
      rintro rfl
      exact absurd hended (not_lt.mpr hm)
    exact (update_of_ne hne ..).trans (h.unmade m hm)
  · by_cases hmn : m = n
    · subst hmn
      dsimp only
      rw [update_self, h.thread m hm]
      exact iff_of_true (hrunning hm).2 (hrunning hm).1
    · dsimp only
      rw [update_of_ne hmn]
      exact h.thread m hm
  · by_cases hmn : m = n
    · subst hmn
      dsimp only
      rw [update_self]
      exact (hrunning hm).1
    · dsimp only
      rw [update_of_ne hmn]
      exact h.busy m hm hne
  · dsimp only at hm
    by_cases hmn : m = n
    · subst hmn
      rw [update_self] at hm
      exact (htask hm).elim
    · rw [update_of_ne hmn] at hm
      exact h.one m hm
  · rw [Switch.line, Switch.line, hwaiting]
    dsimp only
    rw [hinHand]
    exact List.Sublist.append_left (List.Sublist.append_right
      (List.Sublist.append_right (List.Sublist.append_left houtdated _) _) _) _
  · rw [Switch.line, Switch.line, hwaiting]
    dsimp only
    simp only [worksOf_append, hinHand, hother record hrecord, h.outdated record hrecord]

omit [DecidableEq L] in
theorem made_of_running {n : Nat} (h : ∀ n, u.made ≤ n → u.worker n = .ended) (hn : u.worker n ≠ .ended) :
    n < u.made := by
  by_contra hle
  exact hn (h n (not_lt.mp hle))

theorem Line.advance (h : Line Record produce next u entry) (hworking : (u.worker entry).Working)
    (task : ConsumerTask L) (workDeque delivered : List (SwitchSubscribeWork L)) (htask : task ≠ .ended)
    (hsuffix : workDeque <:+ (u.info entry).workDeque)
    (hline : delivered ++ task.inHand ++ workDeque =
      u.delivered ++ (u.worker entry).inHand ++ (u.info entry).workDeque) (hstill : task.Working) :
    Line Record produce next
      { u with
        delivered
        worker := update u.worker entry task
        info := update u.info entry { u.info entry with workDeque } } entry := by
  have hrunning : u.worker entry ≠ .ended := by
    intro hended
    rw [hended] at hworking
    exact hworking
  have houtdated : (({ u with
      delivered
      worker := update u.worker entry task
      info := update u.info entry { u.info entry with workDeque } } : Switch L).outdated entry).Sublist
      (u.outdated entry) := by
    by_cases hcurrent : u.entry = some entry
    · simp [Switch.outdated, hcurrent]
    · simpa [Switch.outdated, hcurrent, hworking, hstill] using hsuffix.sublist
  refine h.rewrite rfl h.made (fun n hn => ?_) (fun n hn => ?_) (fun n hn hne => ?_) (fun n hn => ?_) ?_
    fun record hrecord => worksOf_eq_nil_of_sublist houtdated (h.outdated record hrecord)
  · have hne : n ≠ entry := by
      rintro rfl
      exact absurd (made_of_running h.unmade hrunning) (not_lt.mpr hn)
    exact (update_of_ne hne ..).trans (h.unmade n hn)
  · by_cases hne : n = entry
    · subst hne
      dsimp only
      rw [update_self, update_self]
      exact (h.thread n hn).trans (iff_of_true hrunning htask)
    · dsimp only
      rw [update_of_ne hne, update_of_ne hne]
      exact h.thread n hn
  · by_cases hn' : n = entry
    · subst hn'
      dsimp only
      rw [update_self]
      exact htask
    · dsimp only at hne ⊢
      rw [update_of_ne hn'] at hne ⊢
      exact h.busy n hn hne
  · by_contra hne
    dsimp only at hn
    rw [update_of_ne hne] at hn
    exact hne (h.one n hn)
  · by_cases hcurrent : u.entry = some entry
    · simp only [Switch.line, Switch.outdated, Switch.waiting, hcurrent,
        update_self, ne_eq, not_true,
        and_false, if_false, List.append_nil, ← List.append_assoc]
      rw [hline]
    · have hwaiting : ({ u with
          delivered
          worker := update u.worker entry task
          info := update u.info entry { u.info entry with workDeque } } : Switch L).waiting = u.waiting := by
        simp only [Switch.waiting]
        cases hother : u.entry with
        | none => rfl
        | some other =>
            have hne : other ≠ entry := fun heq => hcurrent (hother.trans (congrArg some heq))
            dsimp only
            rw [update_of_ne hne]
      rw [Switch.line, Switch.line, hwaiting]
      simp only [Switch.outdated, hcurrent, update_self, ne_eq, not_false_iff, and_true,
        hstill, hworking,
        if_true, ← List.append_assoc]
      rw [hline]

theorem Line.consumerTask (h : Line Record produce next u entry) {n : Nat}
    (hop : u.worker n = .looping → u.entry = some n → ∀ other, other ≠ n → ¬(u.worker other).Working) :
    ∃ entry', Line Record produce next (consumerTask u n) entry' := by
  rw [SwitchEvents.consumerTask]
  cases hworker : u.worker n with
  | ended => exact ⟨entry, h⟩
  | looping =>
      have hhand : (u.worker n).inHand = [] := by
        rw [hworker]
        rfl
      have hrunning : u.worker n ≠ .ended := by
        rw [hworker]
        exact nofun
      dsimp only
      split
      · rename_i hcurrent
        have hnone : ∀ other, ¬(u.worker other).Working := by
          intro other
          by_cases hother : other = n
          · subst hother
            rw [hworker]
            exact id
          · exact hop hworker hcurrent other hother
        have hinHand : (u.worker entry).inHand = [] := by
          cases hentry : u.worker entry with
          | delivering work =>
              refine (hnone entry ?_).elim
              rw [hentry]
              trivial
          | _ => rfl
        refine ⟨n, h.rewrite rfl h.made (fun m hm => ?_) (fun m hm => ?_) (fun m hm _ => ?_)
          (fun m hm => ?_) ?_ ?_⟩
        · have hne : m ≠ n := by
            rintro rfl
            exact absurd (made_of_running h.unmade hrunning) (not_lt.mpr hm)
          exact (update_of_ne hne ..).trans (h.unmade m hm)
        · obtain rfl := Option.some.inj (hcurrent.symm.trans hm)
          dsimp only
          rw [update_self]
          exact (h.thread n hcurrent).trans (iff_of_true hrunning nofun)
        · obtain rfl := Option.some.inj (hcurrent.symm.trans hm)
          dsimp only
          rw [update_self]
          exact nofun
        · by_contra hne
          dsimp only at hm
          rw [update_of_ne hne] at hm
          exact hnone m hm
        · have hlocked : (.locked : ConsumerTask L).inHand = [] := rfl
          simp only [Switch.line, Switch.outdated, Switch.waiting, hcurrent, update_self,
            hinHand, hlocked,
            hnone, ne_eq, not_true, and_false, false_and, if_false]
        · intro record hrecord
          simp [Switch.outdated, hcurrent, worksOf]
      · rename_i hcurrent
        exact ⟨entry, h.release n .ended id hhand
          (made_of_running h.unmade hrunning) fun hentry => (hcurrent hentry).elim⟩
  | locked =>
      have hworking : (u.worker n).Working := by
        rw [hworker]
        trivial
      obtain rfl := h.one n hworking
      have hrunning : u.worker n ≠ .ended := by
        rw [hworker]
        exact nofun
      cases hdeque : (u.info n).workDeque with
      | nil =>
          have hwaiting : ({ u with
              info := update u.info n { u.info n with workThread := false }
              worker := update u.worker n .ended } : Switch L).waiting = u.waiting := by
            simp only [Switch.waiting]
            cases u.entry with
            | none => rfl
            | some other =>
                dsimp only
                by_cases hne : other = n
                · subst hne
                  rw [update_self]
                · rw [update_of_ne hne]
          refine ⟨n, h.rewrite rfl h.made (fun m hm => ?_) (fun m hm => ?_) (fun m hm hne => ?_)
            (fun m hm => ?_) ?_ ?_⟩
          · by_cases hne : m = n
            · subst hne
              exact update_self ..
            · exact (update_of_ne hne ..).trans (h.unmade m hm)
          · by_cases hne : m = n
            · subst hne
              simp
            · dsimp only
              rw [update_of_ne hne, update_of_ne hne]
              exact h.thread m hm
          · by_cases hmn : m = n
            · subst hmn
              dsimp only at hne
              rw [update_self] at hne
              exact (hne hdeque).elim
            · dsimp only at hne ⊢
              rw [update_of_ne hmn] at hne ⊢
              exact h.busy m hm hne
          · by_contra hne
            dsimp only at hm
            rw [update_of_ne hne] at hm
            exact hne (h.one m hm)
          · rw [Switch.line, Switch.line, hwaiting]
            simp [Switch.outdated, hworker, hdeque, ConsumerTask.inHand, ConsumerTask.Working]
          · intro record hrecord
            simp [Switch.outdated, ConsumerTask.Working, worksOf]
      | cons work workDeque =>
          refine ⟨n, h.advance hworking (.delivering work) workDeque u.delivered nofun ?_ ?_ trivial⟩
          · rw [hdeque]
            exact List.suffix_cons ..
          · rw [hworker, hdeque]
            simp [ConsumerTask.inHand]
  | delivering work =>
      have hworking : (u.worker n).Working := by
        rw [hworker]
        trivial
      obtain rfl := h.one n hworking
      have hdone := h.advance hworking .locked (u.info n).workDeque (u.delivered ++ [work]) nofun
        List.suffix_rfl (by rw [hworker]; simp [ConsumerTask.inHand]) trivial
      have hrunning : u.worker n ≠ .ended := by
        rw [hworker]
        exact nofun
      have hmade : n < u.made := made_of_running h.unmade hrunning
      have hreleased := hdone.release n .looping id
        (by simp [ConsumerTask.inHand]) hmade fun _ => ⟨nofun, by simp⟩
      refine ⟨n, ?_⟩
      simpa [update_eq_self] using hreleased

end lines

structure Inv (s : SubscribeManager L) : Prop where
  entry : ∀ uid, (s.switchRecordMap uid).entry ≠ none ↔ ∃ record, RecordOf s uid record ∧ record.subscribeInfo.Switches
  typed : ∀ record ∈ s.subscribeRecords, record.subscribeInfo.Switches → record.subscribeInfo.HasSwitch
  distinct : ∀ record ∈ s.subscribeRecords, ∀ record' ∈ s.subscribeRecords,
    record.eventListener = record'.eventListener → record = record'
  numbered : ∀ record ∈ s.subscribeRecords, record.subscription < s.next
  publishing : ∀ stateParcel records, s.publishing = some (stateParcel, records) →
    (stateParcel.state = .switching ∨ stateParcel.state = .switched) ∧ ∀ record ∈ records, record ∈ s.subscribeRecords
  line : ∀ uid, ∃ entry, Line (RecordOf s uid) (toProduce s uid) s.next (s.switchRecordMap uid) entry

section runs

variable {s : SubscribeManager L} {l : L} {uid : Int} {info : OsAccountSubscribeInfo}
  {stateParcel : OsAccountStateParcel} {record : OsSubscribeRecord L}

theorem HasSwitch.switches (h : info.HasSwitch) : info.Switches := by
  rcases h with h | h
  · exact .inl (.inr h)
  · exact .inr (.inr h)

theorem Subscribes.switches {state : OsAccountState} (hstate : state = .switching ∨ state = .switched)
    (h : info.Subscribes state) : info.Switches := by
  rcases hstate with rfl | rfl
  · exact .inl h
  · exact .inr h

omit [DecidableEq L] in
theorem toProduce_of_not_publishing (h : s.publishing = none) (uid : Int) : toProduce s uid = [] := by
  rw [toProduce, h]

omit [DecidableEq L] in
theorem mem_works {work : SwitchSubscribeWork L} {records : List (OsSubscribeRecord L)} :
    work ∈ works stateParcel records uid ↔ ∃ record ∈ records, record.callingUid = uid ∧
      record.subscribeInfo.Subscribes stateParcel.state ∧ record.work stateParcel = work := by
  simp [works, and_assoc]

omit [DecidableEq L] in
theorem works_cons (record : OsSubscribeRecord L) (records : List (OsSubscribeRecord L)) :
    works stateParcel (record :: records) uid =
      if record.callingUid = uid ∧ record.subscribeInfo.Subscribes stateParcel.state then
        record.work stateParcel :: works stateParcel records uid
      else works stateParcel records uid := by
  simp only [works, List.filter_cons]
  split
  · rename_i h
    rw [if_pos (of_decide_eq_true h), List.map_cons]
  · rename_i h
    rw [if_neg fun h' => h (decide_eq_true h')]

theorem right_of_inv (h : Inv s) : Right s where
  entry := h.entry
  inOrder uid := by
    obtain ⟨entry, hline⟩ := h.line uid
    exact (List.sublist_append_left _ _).trans hline.inOrder
  received uid record hrecord := by
    obtain ⟨entry, hline⟩ := h.line uid
    rw [← hline.whole record hrecord, Switch.line, worksOf_append]
    exact List.prefix_append ..
  complete uid record hrecord hpublishing hended := by
    obtain ⟨entry, hline⟩ := h.line uid
    have hwaiting : (s.switchRecordMap uid).waiting = [] := by
      rw [Switch.waiting]
      cases hentry : (s.switchRecordMap uid).entry with
      | none => rfl
      | some n => exact not_not.mp fun hne => hline.busy n hentry hne (hended n)
    have hall : (s.switchRecordMap uid).line entry (toProduce s uid) = (s.switchRecordMap uid).delivered := by
      rw [toProduce_of_not_publishing hpublishing, Switch.line, hwaiting, Switch.outdated, hended entry]
      simp [ConsumerTask.inHand, ConsumerTask.Working]
    rw [← hline.whole record hrecord, hall]
  goesOn uid entry hentry hne := by
    obtain ⟨_, hline⟩ := h.line uid
    exact hline.busy entry hentry hne
  oneWorker uid entry entry' hentry hentry' := by
    obtain ⟨_, hline⟩ := h.line uid
    exact (hline.one entry hentry).trans (hline.one entry' hentry').symm

theorem inv_publish (h : Inv s) (hpublishing : s.publishing = none) (stateParcel : OsAccountStateParcel) :
    Inv (publish s stateParcel) := by
  rw [publish]
  split
  · rename_i hstate
    refine ⟨h.entry, h.typed, h.distinct, h.numbered, ?_, fun uid => ?_⟩
    · rintro _ _ hsome
      cases hsome
      exact ⟨hstate, fun record hrecord => hrecord⟩
    · obtain ⟨entry, hline⟩ := h.line uid
      rw [toProduce_of_not_publishing hpublishing] at hline
      refine ⟨entry, hline.publish (fun work hwork => ?_) fun record hrecord hnot => ?_⟩
      · obtain ⟨record, hrecord, -, -, rfl⟩ := mem_works.mp hwork
        exact h.numbered record hrecord
      · refine List.filter_eq_nil_iff.mpr fun work hwork heq => hnot ?_
        obtain ⟨record', hrecord', -, hsubscribes, rfl⟩ := mem_works.mp hwork
        have hsame := h.distinct record' hrecord' record hrecord.1 (of_decide_eq_true heq).1
        exact hsame ▸ Subscribes.switches hstate hsubscribes
  · exact h

omit [DecidableEq L] in
theorem productTask_entry (u : Switch L) (work : SwitchSubscribeWork L) : (productTask u work).entry = u.entry := by
  rw [productTask]
  split
  · rfl
  · rfl

omit [DecidableEq L] in
theorem consumerTask_entry (u : Switch L) (n : Nat) : (consumerTask u n).entry = u.entry := by
  rw [consumerTask]
  split
  · rfl
  · rfl
  · split <;> rfl
  · rfl

omit [DecidableEq L] in
theorem entry_update {u : Switch L} (h : u.entry = (s.switchRecordMap uid).entry) {uid' : Int} :
    (update s.switchRecordMap uid u uid').entry = (s.switchRecordMap uid').entry := by
  by_cases huid : uid' = uid
  · subst huid
    rw [update_self, h]
  · rw [update_of_ne huid]

theorem inv_publishNext (h : Inv s) : Inv (publishNext s) := by
  rw [publishNext]
  split
  · exact h
  · rename_i stateParcel hpublishing
    refine ⟨h.entry, h.typed, h.distinct, h.numbered, nofun, fun uid => ?_⟩
    have hline := h.line uid
    rw [toProduce, hpublishing] at hline
    exact hline
  · rename_i stateParcel record records hpublishing
    obtain ⟨hstate, hmem⟩ := h.publishing _ _ hpublishing
    have hleft : ∀ stateParcel' records', some (stateParcel, records) = some (stateParcel', records') →
        (stateParcel'.state = .switching ∨ stateParcel'.state = .switched) ∧
          ∀ record ∈ records', record ∈ s.subscribeRecords := by
      intro stateParcel' records' heq
      cases heq
      exact ⟨hstate, fun record' hrecord' => hmem record' (List.mem_cons_of_mem _ hrecord')⟩
    by_cases hsubscribes : record.subscribeInfo.Subscribes stateParcel.state
    · rw [if_pos hsubscribes]
      refine ⟨fun uid => ?_, h.typed, h.distinct, h.numbered, hleft, fun uid => ?_⟩
      · dsimp only
        rw [entry_update (productTask_entry ..)]
        exact h.entry uid
      · obtain ⟨entry, hline⟩ := h.line uid
        rw [toProduce, hpublishing] at hline
        dsimp only at hline ⊢
        rw [works_cons] at hline
        by_cases huid : uid = record.callingUid
        · subst huid
          rw [if_pos ⟨rfl, hsubscribes⟩] at hline
          rw [update_self]
          refine ⟨entry, hline.productTask
            ((h.entry _).mpr ⟨record, ⟨hmem record List.mem_cons_self, rfl⟩, ?_⟩)⟩
          exact Subscribes.switches hstate hsubscribes
        · rw [if_neg fun hrecord => huid hrecord.1.symm] at hline
          rw [update_of_ne huid]
          exact ⟨entry, hline⟩
    · rw [if_neg hsubscribes]
      refine ⟨h.entry, h.typed, h.distinct, h.numbered, hleft, fun uid => ?_⟩
      have hline := h.line uid
      rw [toProduce, hpublishing] at hline
      dsimp only at hline
      rw [works_cons, if_neg fun hrecord => hsubscribes hrecord.2] at hline
      exact hline

theorem inv_consume (h : Inv s) {n : Nat} (hop : Allowed s (.consume uid n)) : Inv (consume s uid n) := by
  refine ⟨fun uid' => ?_, h.typed, h.distinct, h.numbered, h.publishing, fun uid' => ?_⟩
  · rw [consume]
    dsimp only
    rw [entry_update (consumerTask_entry ..)]
    exact h.entry uid'
  · obtain ⟨entry, hline⟩ := h.line uid'
    rw [consume]
    by_cases huid : uid' = uid
    · subst huid
      dsimp only
      rw [update_self]
      exact hline.consumerTask hop
    · dsimp only
      rw [update_of_ne huid]
      exact ⟨entry, hline⟩

omit [DecidableEq L] in
theorem addSubscribeInfo_entry (u : Switch L) : (addSubscribeInfo u).entry ≠ none := by
  rw [addSubscribeInfo]
  split
  · rename_i hentry
    rw [hentry]
    exact nofun
  · exact nofun

def addCounted (s : SubscribeManager L) : Option Int → Int → Switch L
  | some uid => update s.switchRecordMap uid (addSubscribeInfo (s.switchRecordMap uid))
  | none => s.switchRecordMap

theorem inv_records (h : Inv s) (hpublishing : s.publishing = none) {subscribeRecords : List (OsSubscribeRecord L)}
    {counted : Option Int}
    (htyped : ∀ record ∈ subscribeRecords, record.subscribeInfo.Switches → record.subscribeInfo.HasSwitch)
    (hdistinct : ∀ record ∈ subscribeRecords, ∀ record' ∈ subscribeRecords,
      record.eventListener = record'.eventListener → record = record')
    (hnumbered : ∀ record ∈ subscribeRecords, record.subscription < s.next + 1)
    (hrecords : ∀ record' ∈ subscribeRecords, s.next ≤ record'.subscription ∨
      ∃ record ∈ s.subscribeRecords, record.callingUid = record'.callingUid ∧
        record.eventListener = record'.eventListener ∧ record.subscription = record'.subscription ∧
        (¬record'.subscribeInfo.Switches → ¬record.subscribeInfo.Switches))
    (hentry : ∀ uid, (counted = some uid ∨ ∃ record, RecordOf s uid record ∧ record.subscribeInfo.Switches) ↔
      ∃ record ∈ subscribeRecords, record.callingUid = uid ∧ record.subscribeInfo.Switches) :
    Inv { s with
      subscribeRecords
      next := s.next + 1
      switchRecordMap := addCounted s counted } := by
  refine ⟨fun uid => ?_, htyped, hdistinct, hnumbered, fun _ _ hsome => ?_, fun uid => ?_⟩
  · have hiff := hentry uid
    rw [← h.entry uid] at hiff
    simp only [RecordOf, and_assoc]
    rw [← hiff]
    cases counted with
    | none => simp [addCounted]
    | some uid' =>
        rw [addCounted]
        by_cases huid : uid = uid'
        · subst huid
          rw [update_self]
          exact iff_of_true (addSubscribeInfo_entry _) (.inl rfl)
        · rw [update_of_ne huid]
          simp [Ne.symm huid]
  · exact nomatch hpublishing.symm.trans hsome
  · obtain ⟨entry, hline⟩ := h.line uid
    have hline' : Line (fun record => record ∈ subscribeRecords ∧ record.callingUid = uid)
      (toProduce s uid) (s.next + 1)
        (s.switchRecordMap uid) entry := by
      refine hline.records (Nat.le_succ _) fun record' hrecord' => ?_
      rcases hrecords record' hrecord'.1 with hnew | ⟨record, hrecord, huid, hrest⟩
      · exact .inl hnew
      · exact .inr ⟨record, ⟨hrecord, huid.trans hrecord'.2⟩, hrest⟩
    refine ⟨entry, ?_⟩
    cases counted with
    | none => exact hline'
    | some uid' =>
        dsimp only
        rw [addCounted]
        by_cases huid : uid = uid'
        · subst huid
          rw [update_self]
          exact hline'.addSubscribeInfo
        · rw [update_of_ne huid]
          exact hline'

omit [DecidableEq L] in
theorem resubscribed_eventListener (info : OsAccountSubscribeInfo) (n : Nat) (record : OsSubscribeRecord L) :
    (resubscribed info n record).eventListener = record.eventListener ∧
      (resubscribed info n record).callingUid = record.callingUid := by
  rw [resubscribed]
  split <;> exact ⟨rfl, rfl⟩

theorem again_fields (info : OsAccountSubscribeInfo) (l : L) (n : Nat) (record : OsSubscribeRecord L) :
    (again info l n record).eventListener = record.eventListener ∧
      (again info l n record).callingUid = record.callingUid := by
  rw [again]
  split
  · exact resubscribed_eventListener info n record
  · exact ⟨rfl, rfl⟩

theorem again_typed (h : Inv s)
    (hop : (∀ record ∈ s.subscribeRecords, record.eventListener = l → record.subscribeInfo.states ≠ info.states) →
      info.Switches → info.HasSwitch) (hrecord : record ∈ s.subscribeRecords) (n : Nat)
    (hswitches : (again info l n record).subscribeInfo.Switches) :
    (again info l n record).subscribeInfo.HasSwitch := by
  rw [again] at hswitches ⊢
  split at hswitches
  · rename_i hl
    rw [if_pos hl]
    rw [resubscribed] at hswitches ⊢
    split at hswitches
    · rename_i hstates
      rw [if_pos hstates]
      exact h.typed record hrecord hswitches
    · rename_i hstates
      rw [if_neg hstates]
      refine hop (fun record' hrecord' hl' => ?_) hswitches
      obtain rfl := h.distinct record' hrecord' record hrecord (hl'.trans hl.symm)
      exact hstates
  · rename_i hl
    rw [if_neg hl]
    exact h.typed record hrecord hswitches

theorem again_subscription (info : OsAccountSubscribeInfo) (l : L) (n : Nat) (record : OsSubscribeRecord L) :
    n ≤ (again info l n record).subscription ∧ (again info l n record).subscription = n ∨
      (again info l n record).subscription = record.subscription ∧
        (¬(again info l n record).subscribeInfo.Switches → ¬record.subscribeInfo.Switches) := by
  rw [again]
  split
  · rw [resubscribed]
    split
    · exact .inr ⟨rfl, id⟩
    · by_cases hswitch : info.HasSwitch
      · rw [if_pos hswitch]
        exact .inr ⟨rfl, fun hnot => (hnot (HasSwitch.switches hswitch)).elim⟩
      · rw [if_neg hswitch]
        exact .inl ⟨le_rfl, rfl⟩
  · exact .inr ⟨rfl, id⟩

theorem again_switches_of_hasSwitch (hinfo : info.HasSwitch) (n : Nat) (record : OsSubscribeRecord L) :
    (again info l n record).subscribeInfo.Switches ↔ record.eventListener = l ∨ record.subscribeInfo.Switches := by
  rw [again]
  split
  · rename_i hl
    refine iff_of_true ?_ (.inl hl)
    rw [resubscribed]
    split
    · rename_i hstates
      rw [OsAccountSubscribeInfo.HasSwitch, ← hstates] at hinfo
      exact HasSwitch.switches hinfo
    · exact HasSwitch.switches hinfo
  · rename_i hl
    exact (or_iff_right hl).symm

theorem again_switches_of_not (hinfo : ¬info.HasSwitch) {n : Nat}
    (htyped : (again info l n record).subscribeInfo.Switches →
      (again info l n record).subscribeInfo.HasSwitch) :
    (again info l n record).subscribeInfo.Switches ↔ record.eventListener ≠ l ∧ record.subscribeInfo.Switches := by
  by_cases hl : record.eventListener = l
  · refine iff_of_false (fun hswitches => ?_) fun h => h.1 hl
    have hhas := htyped hswitches
    rw [again, if_pos hl, resubscribed] at hhas
    split at hhas
    · rename_i hstates
      rw [OsAccountSubscribeInfo.HasSwitch, hstates] at hhas
      exact hinfo hhas
    · exact hinfo hhas
  · rw [again, if_neg hl]
    exact (and_iff_right hl).symm

theorem inv_resubscribe (h : Inv s) (hpublishing : s.publishing = none) {callingUid : Int}
    (hany : ∃ record ∈ s.subscribeRecords, record.eventListener = l)
    (hop : Allowed s (.subscribe info l callingUid)) :
    Inv { s with
      subscribeRecords := s.subscribeRecords.map (again info l s.next)
      next := s.next + 1
      switchRecordMap := addCounted s (if info.HasSwitch then some callingUid else none) } := by
  obtain ⟨hinfo, hrecord⟩ := hop hpublishing
  have htyped : ∀ record ∈ s.subscribeRecords, (again info l s.next record).subscribeInfo.Switches →
      (again info l s.next record).subscribeInfo.HasSwitch :=
        fun record hmem => again_typed h hinfo hmem s.next
  refine inv_records h hpublishing ?_ ?_ ?_ ?_ fun uid => ?_
  · intro record' hrecord' hswitches
    obtain ⟨record, hmem, rfl⟩ := List.mem_map.mp hrecord'
    exact htyped record hmem hswitches
  · intro record₁ hrecord₁ record₂ hrecord₂ hl
    obtain ⟨record₁, hmem₁, rfl⟩ := List.mem_map.mp hrecord₁
    obtain ⟨record₂, hmem₂, rfl⟩ := List.mem_map.mp hrecord₂
    rw [(again_fields ..).1, (again_fields ..).1] at hl
    rw [h.distinct record₁ hmem₁ record₂ hmem₂ hl]
  · intro record' hrecord'
    obtain ⟨record, hmem, rfl⟩ := List.mem_map.mp hrecord'
    rcases again_subscription info l s.next record with ⟨-, hnew⟩ | ⟨hsame, -⟩
    · omega
    · have := h.numbered record hmem
      omega
  · intro record' hrecord'
    obtain ⟨record, hmem, rfl⟩ := List.mem_map.mp hrecord'
    obtain ⟨hl, huid⟩ := again_fields info l s.next record
    rcases again_subscription info l s.next record with ⟨hnew, -⟩ | ⟨hsame, hswitches⟩
    · exact .inl hnew
    · exact .inr ⟨record, hmem, huid.symm, hl.symm, hsame.symm, hswitches⟩
  · have hafter : (∃ record' ∈ s.subscribeRecords.map (again info l s.next), record'.callingUid = uid ∧
        record'.subscribeInfo.Switches) ↔ ∃ record ∈ s.subscribeRecords, record.callingUid = uid ∧
          (again info l s.next record).subscribeInfo.Switches := by
      simp only [List.mem_map, exists_exists_and_eq_and, (again_fields ..).2]
    rw [hafter]
    by_cases hswitch : info.HasSwitch
    · simp only [if_pos hswitch, again_switches_of_hasSwitch hswitch, RecordOf]
      constructor
      · rintro (hcounted | ⟨record, ⟨hmem, huid⟩, hswitches⟩)
        · cases hcounted
          obtain ⟨record, hmem, hl⟩ := hany
          rcases (hrecord record hmem hl).1 hswitch with huid | ⟨hentry, -⟩
          · exact ⟨record, hmem, huid.symm, .inl hl⟩
          · obtain ⟨other, ⟨hother, huid⟩, hswitches⟩ := (h.entry _).mp hentry
            exact ⟨other, hother, huid, .inr hswitches⟩
        · exact ⟨record, hmem, huid, .inr hswitches⟩
      · rintro ⟨record, hmem, huid, hl | hswitches⟩
        · rcases (hrecord record hmem hl).1 hswitch with hsame | ⟨-, hentry⟩
          · exact .inl (congrArg some (hsame.trans huid))
          · exact .inr ((h.entry uid).mp (huid ▸ hentry))
        · exact .inr ⟨record, ⟨hmem, huid⟩, hswitches⟩
    · simp only [if_neg hswitch, reduceCtorEq, false_or, RecordOf]
      constructor
      · rintro ⟨record, ⟨hmem, huid⟩, hswitches⟩
        by_cases hl : record.eventListener = l
        · obtain ⟨other, ⟨hother, huid'⟩, hne, hswitches'⟩ :=
            (hrecord record hmem hl).2 hswitch (h.typed record hmem hswitches)
          refine ⟨other, hother, huid'.trans huid, ?_⟩
          exact (again_switches_of_not hswitch (htyped other hother)).mpr ⟨hne, hswitches'⟩
        · refine ⟨record, hmem, huid, ?_⟩
          exact (again_switches_of_not hswitch (htyped record hmem)).mpr ⟨hl, hswitches⟩
      · rintro ⟨record, hmem, huid, hswitches⟩
        rw [again_switches_of_not hswitch (htyped record hmem)] at hswitches
        exact ⟨record, ⟨hmem, huid⟩, hswitches.2⟩

theorem inv_newRecord (h : Inv s) (hpublishing : s.publishing = none) {callingUid : Int}
    (hany : ¬∃ record ∈ s.subscribeRecords, record.eventListener = l)
    (hop : Allowed s (.subscribe info l callingUid)) :
    Inv { s with
      subscribeRecords := s.subscribeRecords ++ [⟨info, l, callingUid, s.next⟩]
      next := s.next + 1
      switchRecordMap := addCounted s (if info.HasSwitch then some callingUid else none) } := by
  have hinfo : info.Switches ↔ info.HasSwitch :=
    ⟨(hop hpublishing).1 fun record hmem hl => (hany ⟨record, hmem, hl⟩).elim, HasSwitch.switches⟩
  have hmem : ∀ record, record ∈ s.subscribeRecords ++ [⟨info, l, callingUid, s.next⟩] ↔
      record ∈ s.subscribeRecords ∨ record = ⟨info, l, callingUid, s.next⟩ := by
    intro record
    rw [List.mem_append, List.mem_singleton]
  refine inv_records h hpublishing ?_ ?_ ?_ ?_ fun uid => ?_
  · intro record hrecord hswitches
    rcases (hmem record).mp hrecord with hrecord | rfl
    · exact h.typed record hrecord hswitches
    · exact hinfo.mp hswitches
  · intro record₁ hrecord₁ record₂ hrecord₂ hl
    rcases (hmem record₁).mp hrecord₁ with hrecord₁ | rfl
    · rcases (hmem record₂).mp hrecord₂ with hrecord₂ | rfl
      · exact h.distinct record₁ hrecord₁ record₂ hrecord₂ hl
      · exact (hany ⟨record₁, hrecord₁, hl⟩).elim
    · rcases (hmem record₂).mp hrecord₂ with hrecord₂ | rfl
      · exact (hany ⟨record₂, hrecord₂, hl.symm⟩).elim
      · rfl
  · intro record hrecord
    rcases (hmem record).mp hrecord with hrecord | rfl
    · exact Nat.lt_succ_of_lt (h.numbered record hrecord)
    · exact Nat.lt_succ_self _
  · intro record hrecord
    rcases (hmem record).mp hrecord with hrecord | rfl
    · exact .inr ⟨record, hrecord, rfl, rfl, rfl, id⟩
    · exact .inl le_rfl
  · constructor
    · rintro (hcounted | ⟨record, ⟨hrecord, huid⟩, hswitches⟩)
      · split at hcounted
        · rename_i hswitch
          cases hcounted
          exact ⟨_, (hmem _).mpr (.inr rfl), rfl, HasSwitch.switches hswitch⟩
        · cases hcounted
      · exact ⟨record, (hmem record).mpr (.inl hrecord), huid, hswitches⟩
    · rintro ⟨record, hrecord, huid, hswitches⟩
      rcases (hmem record).mp hrecord with hrecord | rfl
      · exact .inr ⟨record, ⟨hrecord, huid⟩, hswitches⟩
      · rw [if_pos (hinfo.mp hswitches)]
        exact .inl (congrArg some huid)

theorem inv_subscribe (h : Inv s) (hpublishing : s.publishing = none) {callingUid : Int}
    (hop : Allowed s (.subscribe info l callingUid)) : Inv (subscribeOsAccount s info l callingUid) := by
  have hmap : (if info.HasSwitch then
        update s.switchRecordMap callingUid (addSubscribeInfo (s.switchRecordMap callingUid))
      else s.switchRecordMap) = addCounted s (if info.HasSwitch then some callingUid else none) := by
    split <;> rfl
  rw [subscribeOsAccount, hmap]
  by_cases hany : ∃ record ∈ s.subscribeRecords, record.eventListener = l
  · have hfound : s.subscribeRecords.any (·.eventListener = l) = true := by simpa using hany
    rw [if_pos hfound]
    exact inv_resubscribe h hpublishing hany hop
  · have hnone : ¬s.subscribeRecords.any (·.eventListener = l) = true := by simpa using hany
    rw [if_neg hnone]
    exact inv_newRecord h hpublishing hany hop

theorem inv_unsubscribe (h : Inv s) (hpublishing : s.publishing = none) (hop : Allowed s (.unsubscribe l)) :
    Inv (unsubscribeOsAccount s l) := by
  rw [unsubscribeOsAccount]
  split
  · exact h
  · rename_i record hfind
    have hmem := List.mem_of_find?_eq_some hfind
    have hl : record.eventListener = l := by simpa using List.find?_some hfind
    have hleft : ∀ record', record' ∈ s.subscribeRecords.filter (·.eventListener ≠ l) ↔
        record' ∈ s.subscribeRecords ∧ record'.eventListener ≠ l := by
      intro record'
      rw [List.mem_filter, decide_eq_true_iff]
    have hgone : ∀ record' ∈ s.subscribeRecords, record'.eventListener = l → record' = record :=
      fun record' hrecord' hl' => h.distinct record' hrecord' record hmem (hl'.trans hl.symm)
    have hline : ∀ uid, ∃ entry, Line
      (fun record' => record' ∈ s.subscribeRecords.filter (·.eventListener ≠ l) ∧
        record'.callingUid = uid) (toProduce s uid) s.next (s.switchRecordMap uid) entry := by
      intro uid
      obtain ⟨entry, hline⟩ := h.line uid
      refine ⟨entry, hline.records le_rfl fun record' hrecord' => .inr ⟨record', ?_, rfl, rfl, id⟩⟩
      exact ⟨((hleft record').mp hrecord'.1).1, hrecord'.2⟩
    have hother : ∀ uid, (∃ record', RecordOf s uid record' ∧ record'.eventListener ≠ l ∧
        record'.subscribeInfo.Switches) ↔ ∃ record', (record' ∈ s.subscribeRecords.filter (·.eventListener ≠ l) ∧
          record'.callingUid = uid) ∧ record'.subscribeInfo.Switches := by
      intro uid
      refine exists_congr fun record' => ?_
      rw [hleft, RecordOf]
      tauto
    have hkept : ∀ uid, (record.callingUid ≠ uid ∨ ¬record.subscribeInfo.Switches) →
        ((s.switchRecordMap uid).entry ≠ none ↔ ∃ record',
          (record' ∈ s.subscribeRecords.filter (·.eventListener ≠ l) ∧
          record'.callingUid = uid) ∧ record'.subscribeInfo.Switches) := by
      intro uid huid
      rw [h.entry uid, ← hother uid]
      constructor
      · rintro ⟨record', hrecord', hswitches⟩
        refine ⟨record', hrecord', fun hl' => ?_, hswitches⟩
        obtain rfl := hgone record' hrecord'.1 hl'
        rcases huid with hne | hnot
        · exact hne hrecord'.2
        · exact hnot hswitches
      · rintro ⟨record', hrecord', -, hswitches⟩
        exact ⟨record', hrecord', hswitches⟩
    refine ⟨fun uid => ?_, fun record' hrecord' => h.typed record' ((hleft record').mp hrecord').1,
      fun record₁ hrecord₁ record₂ hrecord₂ => h.distinct record₁ ((hleft record₁).mp hrecord₁).1 record₂
        ((hleft record₂).mp hrecord₂).1,
      fun record' hrecord' => h.numbered record' ((hleft record').mp hrecord').1,
      fun _ _ hsome => (nomatch hpublishing.symm.trans hsome), fun uid => ?_⟩
    · dsimp only
      by_cases hswitch : record.subscribeInfo.HasSwitch
      · rw [if_pos hswitch]
        by_cases huid : uid = record.callingUid
        · subst huid
          rw [update_self]
          cases hentry : (s.switchRecordMap record.callingUid).entry with
          | none => exact ((h.entry _).mpr ⟨record, ⟨hmem, rfl⟩, HasSwitch.switches hswitch⟩ hentry).elim
          | some entry =>
              have hcount := hop hpublishing record hmem hl hswitch entry hentry
              rw [Another, hother] at hcount
              rw [subSubscribeInfo, hentry]
              refine Iff.trans ?_ (not_iff_comm.mp hcount.symm)
              dsimp only
              split
              · rename_i hzero
                exact iff_of_false (not_not_intro rfl) (not_not_intro (by omega))
              · rename_i hzero
                exact iff_of_true nofun (by omega)
        · rw [update_of_ne huid]
          exact hkept uid (.inl (Ne.symm huid))
      · rw [if_neg hswitch]
        exact hkept uid (.inr fun hswitches => hswitch (h.typed record hmem hswitches))
    · obtain ⟨entry, hline⟩ := hline uid
      dsimp only
      refine ⟨entry, ?_⟩
      by_cases hswitch : record.subscribeInfo.HasSwitch
      · rw [if_pos hswitch]
        by_cases huid : uid = record.callingUid
        · subst huid
          rw [update_self]
          refine hline.subSubscribeInfo fun current hcurrent hcount record' hrecord' hswitches => ?_
          refine (hop hpublishing record hmem hl hswitch current hcurrent).mp hcount ?_
          exact (hother _).mpr ⟨record', hrecord', hswitches⟩
        · rw [update_of_ne huid]
          exact hline
      · rw [if_neg hswitch]
        exact hline

theorem inv_step (s : SubscribeManager L) (op : Operation L) (h : Inv s) (hop : Allowed s op) : Inv (step s op) := by
  have hlock : ∀ s' : SubscribeManager L, (s.publishing = none → Inv s') →
      Inv (if s.publishing.isSome then s else s') := by
    intro s' hs'
    split
    · exact h
    · rename_i hnone
      exact hs' (Option.not_isSome_iff_eq_none.mp hnone)
  cases op with
  | subscribe info l callingUid => exact hlock _ fun hnone => inv_subscribe h hnone hop
  | unsubscribe l => exact hlock _ fun hnone => inv_unsubscribe h hnone hop
  | publish stateParcel => exact hlock _ fun hnone => inv_publish h hnone stateParcel
  | publishNext => exact inv_publishNext h
  | consume uid n => exact inv_consume h hop

theorem line_initial {Record : OsSubscribeRecord L → Prop} : Line Record [] 0 ({} : Switch L) 0 where
  made _ h := nomatch h
  unmade _ _ := rfl
  thread _ h := nomatch h
  busy _ h := nomatch h
  one _ h := h.elim
  fresh _ h := nomatch h
  idle _ _ _ := rfl
  inOrder := List.Sublist.refl _
  whole _ _ := rfl
  outdated _ _ := rfl

theorem inv_initial : Inv ({} : SubscribeManager L) where
  entry _ := iff_of_false (not_not_intro rfl) fun ⟨_, h, _⟩ => nomatch h.1
  typed _ h := nomatch h
  distinct _ h := nomatch h
  numbered _ h := nomatch h
  publishing _ _ h := nomatch h
  line _ := ⟨0, line_initial⟩

end runs

/-- The switches reach the listeners in order, all along a run in which the entries are counted right. -/
theorem switches_reach_listeners {ops : List (Operation L)} (hops : Machine.Meets step Allowed {} ops) :
    Right (Machine.run step {} ops) := by
  have h : Inv (Machine.run step ({} : SubscribeManager L) ops) :=
    Machine.run_invariant_of_meets inv_step inv_initial hops
  exact right_of_inv h

def switched : OsAccountSubscribeInfo := ⟨.invalidType, {.switched}, false⟩

/-- Three listeners of uid 7, one of which goes before the switch to account 100. -/
def oneOfThreeLeaves : List (Operation Nat) :=
  [.subscribe switched 1 7, .subscribe switched 2 7, .subscribe switched 3 7, .unsubscribe 1]

def switchDelivered : List (Operation Nat) :=
  [.publish ⟨0, 100, .switched, none⟩, .publishNext, .publishNext, .publishNext, .consume 7 0, .consume 7 0,
    .consume 7 0]

omit [DecidableEq L] in
theorem allowed_newListener {s : SubscribeManager L} {l : L} {callingUid : Int}
    (h : ∀ record ∈ s.subscribeRecords, record.eventListener ≠ l) : Allowed s (.subscribe switched l callingUid) :=
  fun _ => ⟨fun _ _ => .inr (Finset.mem_singleton_self _), fun record hr hl => absurd hl (h record hr)⟩

theorem switches_reach_listeners_two :
    Right (Machine.run step ({} : SubscribeManager Nat) (oneOfThreeLeaves ++ switchDelivered)) := by
  refine switches_reach_listeners ⟨allowed_newListener (by decide), allowed_newListener (by decide),
    allowed_newListener (by decide), ?_, trivial, trivial, trivial, trivial, ?_, ?_, ?_, trivial⟩
  · intro _ record hr _ _ entry hentry
    have hrecords : ∀ record ∈ (Machine.run step ({} : SubscribeManager Nat)
        (oneOfThreeLeaves.take 3)).subscribeRecords, record.callingUid = 7 := by decide
    rw [hrecords record hr] at hentry ⊢
    obtain rfl : 0 = entry := Option.some.inj hentry
    refine iff_of_false (by decide) (not_not_intro ?_)
    exact ⟨⟨switched, 2, 7, 1⟩, ⟨.tail _ (.head _), rfl⟩, by decide, .inr (.inr (Finset.mem_singleton_self _))⟩
  · intro _ _ other hne h
    have hended : ((Machine.run step ({} : SubscribeManager Nat)
        (oneOfThreeLeaves ++ switchDelivered.take 4)).switchRecordMap 7).worker other = .ended :=
      update_of_ne hne ..
    exact (hended ▸ h : ConsumerTask.Working (.ended : ConsumerTask Nat))
  · exact nofun
  · exact nofun

/-- Of two listeners of a uid, the one that stays loses the entry with the one that goes. -/
theorem not_right_unsubscribed : ¬∀ ops : List (Operation Nat), Right (Machine.run step {} ops) := by
  intro h
  have hentry := (h [.subscribe ⟨.invalidType, {.switched}, false⟩ 1 7,
    .subscribe ⟨.invalidType, {.switched}, false⟩ 2 7,
    .unsubscribe 1]).entry 7
  refine hentry.mpr ⟨⟨⟨.invalidType, {.switched}, false⟩, 2, 7, 1⟩, ⟨?_, rfl⟩,
    .inr (.inr (Finset.mem_singleton_self _))⟩ ?_
  · exact List.mem_singleton_self _
  · decide

end OsAccount.SwitchEvents
