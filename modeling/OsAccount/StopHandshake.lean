import Mathlib.Algebra.BigOperators.Ring.Finset
import Mathlib.Algebra.Order.BigOperators.Group.Finset
import OsAccount.SwitchEvents

namespace OsAccount.StopHandshake

open Function

open SwitchEvents (OsAccountState OsAccountSubscribeInfo)

variable {P σ : Type} [DecidableEq P] [DecidableEq σ]

structure Client (σ : Type) where
  callingUid : Int
  subscribeInfo : OsAccountSubscribeInfo
  subscribers : Finset σ
  info : σ → OsAccountSubscribeInfo

def statesOf (info : OsAccountSubscribeInfo) : Finset OsAccountState :=
  if info.states = ∅ then {info.osAccountSubscribeType} else info.states

def isStateNeedHandShake (state : OsAccountState) : Bool := state = .stopping ∨ state = .locking

inductive Completion
  | called (callerUid : Int)
  | forced

structure OsAccountStateReplyCallbackService where
  isCompleted : Bool := false
  removals : List Completion := []

inductive Stage
  | unpublished
  | sending
  | failed
  | delivered
  deriving DecidableEq

inductive WaitTask
  | none
  | waiting
  | passed
  | replied
  deriving DecidableEq

/-- The event at one client: `scheduled` are the subscribers whose `NotifySubscriber` task has still to run, `given`
those that were given a reply callback. -/
structure Delivery (σ : Type) where
  stage : Stage := .unpublished
  callback : Option OsAccountStateReplyCallbackService := none
  pendingCounter : Int := 0
  scheduled : Finset σ := ∅
  given : Finset σ := ∅
  completions : σ → Nat := fun _ => 0
  waitTask : WaitTask := .none

/-- The records are those that `PublishToAllSubscribers` has left. -/
structure Publication (P σ : Type) where
  records : Finset P
  safeQueue : Nat := 0
  delivery : P → Delivery σ := fun _ => {}
  returned : Bool := false

def setDelivery (s : Publication P σ) (p : P) (delivery : Delivery σ) : Publication P σ :=
  { s with delivery := update s.delivery p delivery }

def completeInner (s : Publication P σ) (p : P) (callback : OsAccountStateReplyCallbackService)
    (completion : Completion) : Publication P σ :=
  { setDelivery s p { s.delivery p with callback := some ⟨true, callback.removals ++ [completion]⟩ } with
    safeQueue := s.safeQueue - 1 }

section publication

variable (client : P → Client σ) (state : OsAccountState) (s : Publication P σ) (p : P)

def onComplete (callerUid : Int) : Publication P σ :=
  match (s.delivery p).callback with
  | none => s
  | some callback =>
      if callback.isCompleted then s
      else if callerUid ≠ (client p).callingUid then s
      else completeInner s p callback (.called callerUid)

def forceComplete : Publication P σ :=
  match (s.delivery p).callback with
  | none => s
  | some callback => if callback.isCompleted then s else completeInner s p callback .forced

/-- A turn of `PublishToAllSubscribers`. An old client is told by `OnAccountsChanged`, without a callback. -/
def publishTo : Publication P σ :=
  if p ∈ s.records then
    let s := { s with records := s.records.erase p }
    let info := (client p).subscribeInfo
    if info.osAccountSubscribeType = state then s
    else if state ∈ info.states then
      if isStateNeedHandShake state ∧ info.withHandshake then
        { setDelivery s p { s.delivery p with stage := .sending, callback := some {} } with
          safeQueue := s.safeQueue + 1 }
      else setDelivery s p { s.delivery p with stage := .sending }
    else s
  else s

/-- The task of the service for a client, with what the client does in it: `OnStateChanged` of the service and of the
listener. -/
def onStateChanged (succeeds : Bool) : Publication P σ :=
  let delivery := s.delivery p
  if delivery.stage = .sending then
    if succeeds then
      setDelivery s p
        { delivery with
          stage := .delivered
          scheduled := (client p).subscribers.filter fun subscriber => state ∈ statesOf ((client p).info subscriber)
          waitTask := if delivery.callback.isSome then .waiting else .none }
    else forceComplete (setDelivery s p { delivery with stage := .failed }) p
  else s

def notifySubscriber (subscriber : σ) : Publication P σ :=
  let delivery := s.delivery p
  let info := (client p).info subscriber
  if subscriber ∈ delivery.scheduled then
    if info.states ≠ ∅ ∧ info.withHandshake ∧ isStateNeedHandShake state then
      setDelivery s p
        { delivery with
          scheduled := delivery.scheduled.erase subscriber
          pendingCounter := delivery.pendingCounter + 1
          given := insert subscriber delivery.given }
    else setDelivery s p { delivery with scheduled := delivery.scheduled.erase subscriber }
  else s

def complete (subscriber : σ) : Publication P σ :=
  let delivery := s.delivery p
  if subscriber ∈ delivery.given then
    setDelivery s p
      { delivery with
        pendingCounter := delivery.pendingCounter - 1
        completions := update delivery.completions subscriber (delivery.completions subscriber + 1) }
  else s

def wake : Publication P σ :=
  let delivery := s.delivery p
  if delivery.waitTask = .waiting ∧ delivery.pendingCounter = 0 then
    setDelivery s p { delivery with waitTask := .passed }
  else s

def reply : Publication P σ :=
  let delivery := s.delivery p
  if delivery.waitTask = .passed then
    onComplete client (setDelivery s p { delivery with waitTask := .replied }) p (client p).callingUid
  else s

/-- `WaitForAllReplies` finds the queue empty, and `Publish` returns `ERR_OK`. -/
def waitForAllReplies : Publication P σ :=
  if s.records = ∅ ∧ s.safeQueue = 0 then { s with returned := true } else s

end publication

inductive Operation (P σ : Type)
  | publishTo (p : P)
  | onStateChanged (p : P) (succeeds : Bool)
  | notifySubscriber (p : P) (subscriber : σ)
  | complete (p : P) (subscriber : σ)
  | wake (p : P)
  | reply (p : P)
  | onComplete (p : P) (callerUid : Int)
  | waitForAllReplies

def step (client : P → Client σ) (state : OsAccountState) (s : Publication P σ) : Operation P σ → Publication P σ
  | .publishTo p => publishTo client state s p
  | .onStateChanged p succeeds => onStateChanged client state s p succeeds
  | .notifySubscriber p subscriber => notifySubscriber client state s p subscriber
  | .complete p subscriber => complete s p subscriber
  | .wake p => wake s p
  | .reply p => reply client s p
  | .onComplete p callerUid => onComplete client s p callerUid
  | .waitForAllReplies => waitForAllReplies s

def Registered (client : Client σ) (state : OsAccountState) (subscriber : σ) : Prop :=
  subscriber ∈ client.subscribers ∧ state ∈ (client.info subscriber).states ∧
    (client.info subscriber).withHandshake = true

def Waits (client : P → Client σ) (state : OsAccountState) (s : Publication P σ) : Prop :=
  s.returned = true → ∀ p, (s.delivery p).stage = .delivered → ∀ subscriber,
    Registered (client p) state subscriber → 1 ≤ (s.delivery p).completions subscriber

def IsOpen (delivery : Delivery σ) : Prop := ∃ callback, delivery.callback = some callback ∧ callback.isCompleted = false

/-- The queue has an entry for each callback that is not completed, and a callback is completed once, by its own uid or
by force. -/
structure Removes (client : P → Client σ) (s : Publication P σ) : Prop where
  queue : ∃ opened : Finset P, (∀ p, p ∈ opened ↔ IsOpen (s.delivery p)) ∧ s.safeQueue = opened.card
  once : ∀ p callback, (s.delivery p).callback = some callback →
    callback.removals.length = if callback.isCompleted then 1 else 0
  own : ∀ p callback, (s.delivery p).callback = some callback → ∀ completion ∈ callback.removals,
    completion = .called (client p).callingUid ∨ completion = .forced

/-- The service knows of a handshake, a waiter finds nothing pending when the subscribers have all been notified and
none has completed twice, and only the waiter calls the service from its uid. -/
def Allowed (client : P → Client σ) (state : OsAccountState) (s : Publication P σ) : Operation P σ → Prop
  | .publishTo p =>
      p ∈ s.records → (client p).subscribeInfo.osAccountSubscribeType ≠ state → state ∈ (client p).subscribeInfo.states →
        (∃ subscriber, Registered (client p) state subscriber) → (client p).subscribeInfo.withHandshake = true
  | .wake p =>
      (s.delivery p).waitTask = .waiting → (s.delivery p).pendingCounter = 0 →
        (∀ subscriber, Registered (client p) state subscriber → subscriber ∉ (s.delivery p).scheduled) ∧
          ∀ subscriber, (s.delivery p).completions subscriber ≤ 1
  | .onComplete p callerUid => callerUid ≠ (client p).callingUid
  | _ => True

section removals

variable {client : P → Client σ} {state : OsAccountState} {s : Publication P σ} {p : P} {delivery : Delivery σ}
  {callback : OsAccountStateReplyCallbackService}

omit [DecidableEq P] [DecidableEq σ] in
theorem isOpen_congr {delivery' : Delivery σ} (h : delivery'.callback = delivery.callback) :
    IsOpen delivery' ↔ IsOpen delivery := by
  rw [IsOpen, IsOpen, h]

omit [DecidableEq σ] in
@[simp] theorem setDelivery_self : (setDelivery s p delivery).delivery p = delivery := update_self ..

omit [DecidableEq σ] in
theorem setDelivery_of_ne {q : P} (hq : q ≠ p) : (setDelivery s p delivery).delivery q = s.delivery q :=
  update_of_ne hq ..

omit [DecidableEq P] [DecidableEq σ] in
theorem Removes.congr {s' : Publication P σ} (h : Removes client s)
    (hcallback : ∀ q, (s'.delivery q).callback = (s.delivery q).callback) (hqueue : s'.safeQueue = s.safeQueue) :
    Removes client s' := by
  refine ⟨?_, fun q callback hq => h.once q callback ((hcallback q).symm.trans hq),
    fun q callback hq => h.own q callback ((hcallback q).symm.trans hq)⟩
  obtain ⟨opened, hopened, hcard⟩ := h.queue
  exact ⟨opened, fun q => (hopened q).trans (isOpen_congr (hcallback q)).symm, hqueue.trans hcard⟩

omit [DecidableEq σ] in
theorem Removes.setDelivery (h : Removes client s) (hcallback : delivery.callback = (s.delivery p).callback) :
    Removes client (setDelivery s p delivery) := by
  refine h.congr (fun q => ?_) rfl
  by_cases hq : q = p
  · subst hq
    rw [setDelivery_self, hcallback]
  · rw [setDelivery_of_ne hq]

omit [DecidableEq σ] in
theorem Removes.completeInner (h : Removes client s) (hcallback : (s.delivery p).callback = some callback)
    (hopen : callback.isCompleted = false) {completion : Completion}
    (hcompletion : completion = .called (client p).callingUid ∨ completion = .forced) :
    Removes client (completeInner s p callback completion) := by
  have hself : ((StopHandshake.completeInner s p callback completion).delivery p).callback =
      some ⟨true, callback.removals ++ [completion]⟩ := by
    simp [StopHandshake.completeInner]
  have hother : ∀ q, q ≠ p → (StopHandshake.completeInner s p callback completion).delivery q = s.delivery q :=
    fun q hq => setDelivery_of_ne hq
  have hnone : callback.removals = [] := by
    have hlength := h.once p callback hcallback
    rw [hopen] at hlength
    exact List.eq_nil_of_length_eq_zero hlength
  refine ⟨?_, fun q callback' hq => ?_, fun q callback' hq completion' hmem => ?_⟩
  · obtain ⟨opened, hopened, hcard⟩ := h.queue
    have hp : p ∈ opened := (hopened p).mpr ⟨callback, hcallback, hopen⟩
    refine ⟨opened.erase p, fun q => ?_, ?_⟩
    · rw [Finset.mem_erase, hopened]
      by_cases hq : q = p
      · subst hq
        refine iff_of_false (fun hq => hq.1 rfl) ?_
        rintro ⟨callback', hsome, hopen'⟩
        cases hself.symm.trans hsome
        cases hopen'
      · rw [hother q hq]
        exact and_iff_right hq
    · rw [Finset.card_erase_of_mem hp, ← hcard]
      rfl
  · by_cases hqp : q = p
    · subst hqp
      cases hself.symm.trans hq
      simp [hnone]
    · rw [hother q hqp] at hq
      exact h.once q callback' hq
  · by_cases hqp : q = p
    · subst hqp
      cases hself.symm.trans hq
      rw [hnone] at hmem
      obtain rfl := List.mem_singleton.mp hmem
      exact hcompletion
    · rw [hother q hqp] at hq
      exact h.own q callback' hq completion' hmem

omit [DecidableEq σ] in
theorem Removes.push (h : Removes client s) (hnone : (s.delivery p).callback = none)
    (hcallback : delivery.callback = some {}) :
    Removes client { StopHandshake.setDelivery s p delivery with safeQueue := s.safeQueue + 1 } := by
  have hother : ∀ q, q ≠ p → (StopHandshake.setDelivery s p delivery).delivery q = s.delivery q :=
    fun q hq => setDelivery_of_ne hq
  refine ⟨?_, fun q callback' hq => ?_, fun q callback' hq completion' hmem => ?_⟩
  · obtain ⟨opened, hopened, hcard⟩ := h.queue
    have hp : p ∉ opened := by
      rw [hopened]
      rintro ⟨callback', hsome, -⟩
      cases hnone.symm.trans hsome
    refine ⟨insert p opened, fun q => ?_, ?_⟩
    · rw [Finset.mem_insert, hopened]
      by_cases hq : q = p
      · subst hq
        refine iff_of_true (.inl rfl) ⟨{}, ?_, rfl⟩
        dsimp only
        rw [setDelivery_self, hcallback]
      · dsimp only
        rw [hother q hq]
        exact or_iff_right hq
    · rw [Finset.card_insert_of_notMem hp, ← hcard]
  · dsimp only at hq
    by_cases hqp : q = p
    · subst hqp
      rw [setDelivery_self, hcallback] at hq
      cases hq
      rfl
    · rw [hother q hqp] at hq
      exact h.once q callback' hq
  · dsimp only at hq
    by_cases hqp : q = p
    · subst hqp
      rw [setDelivery_self, hcallback] at hq
      cases hq
      cases hmem
    · rw [hother q hqp] at hq
      exact h.own q callback' hq completion' hmem

omit [DecidableEq σ] in
theorem removes_onComplete (h : Removes client s) (callerUid : Int) :
    Removes client (onComplete client s p callerUid) := by
  rw [onComplete]
  split
  · exact h
  · rename_i callback hcallback
    split
    · exact h
    · rename_i hopen
      split
      · exact h
      · rename_i huid
        rw [not_not.mp huid]
        exact h.completeInner hcallback (Bool.eq_false_of_not_eq_true hopen) (.inl rfl)

omit [DecidableEq σ] in
theorem removes_forceComplete (h : Removes client s) : Removes client (forceComplete s p) := by
  rw [forceComplete]
  split
  · exact h
  · rename_i callback hcallback
    split
    · exact h
    · rename_i hopen
      exact h.completeInner hcallback (Bool.eq_false_of_not_eq_true hopen) (.inr rfl)

def Unpublished (s : Publication P σ) : Prop := ∀ p ∈ s.records, s.delivery p = {}

theorem removes_step (h : Removes client s) (hleft : Unpublished s) (op : Operation P σ) :
    Removes client (step client state s op) := by
  cases op with
  | publishTo p =>
      rw [step, publishTo]
      split
      · rename_i hp
        have herased : Removes client { s with records := s.records.erase p } := h.congr (fun _ => rfl) rfl
        have hnone : (s.delivery p).callback = none := by rw [hleft p hp]
        dsimp only
        split
        · exact herased
        · split
          · split
            · exact herased.push hnone rfl
            · exact herased.setDelivery rfl
          · exact herased
      · exact h
  | onStateChanged p succeeds =>
      rw [step, onStateChanged]
      split
      · split
        · exact h.setDelivery rfl
        · exact removes_forceComplete (h.setDelivery rfl)
      · exact h
  | notifySubscriber p subscriber =>
      rw [step, notifySubscriber]
      split
      · split
        · exact h.setDelivery rfl
        · exact h.setDelivery rfl
      · exact h
  | complete p subscriber =>
      rw [step, complete]
      split
      · exact h.setDelivery rfl
      · exact h
  | wake p =>
      rw [step, wake]
      split
      · exact h.setDelivery rfl
      · exact h
  | reply p =>
      rw [step, reply]
      split
      · have hkept : ({ s.delivery p with waitTask := .replied } : Delivery σ).callback =
            (s.delivery p).callback := rfl
        exact removes_onComplete (h.setDelivery hkept) _
      · exact h
  | onComplete p callerUid => exact removes_onComplete h callerUid
  | waitForAllReplies =>
      rw [step, waitForAllReplies]
      split
      · exact h.congr (fun _ => rfl) rfl
      · exact h

omit [DecidableEq σ] in
theorem Unpublished.set {records : Finset P} (h : Unpublished s) (hsub : records ⊆ s.records) (hp : p ∉ records)
    (safeQueue : Nat) :
    Unpublished { setDelivery s p delivery with records, safeQueue } := by
  intro q hq
  have hqp : q ≠ p := by
    rintro rfl
    exact hp hq
  exact (setDelivery_of_ne hqp).trans (h q (hsub hq))

omit [DecidableEq σ] in
theorem unpublished_onComplete (h : Unpublished s) (hp : p ∉ s.records) (callerUid : Int) :
    Unpublished (onComplete client s p callerUid) := by
  rw [onComplete]
  split
  · exact h
  · split
    · exact h
    · split
      · exact h
      · exact h.set subset_rfl hp _

omit [DecidableEq σ] in
theorem unpublished_forceComplete (h : Unpublished s) (hp : p ∉ s.records) : Unpublished (forceComplete s p) := by
  rw [forceComplete]
  split
  · exact h
  · split
    · exact h
    · exact h.set subset_rfl hp _

theorem unpublished_step (h : Unpublished s) (op : Operation P σ) : Unpublished (step client state s op) := by
  cases op with
  | publishTo p =>
      rw [step, publishTo]
      split
      · have herased : Unpublished { s with records := s.records.erase p } :=
          fun q hq => h q (Finset.mem_of_mem_erase hq)
        have hp : p ∉ s.records.erase p := Finset.notMem_erase p s.records
        dsimp only
        split
        · exact herased
        · split
          · split
            · exact herased.set subset_rfl hp _
            · exact herased.set subset_rfl hp _
          · exact herased
      · exact h
  | onStateChanged p succeeds =>
      rw [step, onStateChanged]
      split
      · rename_i hstage
        have hp : p ∉ s.records := fun hp => by
          rw [h p hp] at hstage
          cases hstage
        split
        · exact h.set subset_rfl hp _
        · exact unpublished_forceComplete (h.set subset_rfl hp _) hp
      · exact h
  | notifySubscriber p subscriber =>
      rw [step, notifySubscriber]
      split
      · rename_i hscheduled
        have hp : p ∉ s.records := fun hp => by
          rw [h p hp] at hscheduled
          exact Finset.notMem_empty _ hscheduled
        split
        · exact h.set subset_rfl hp _
        · exact h.set subset_rfl hp _
      · exact h
  | complete p subscriber =>
      rw [step, complete]
      split
      · rename_i hgiven
        have hp : p ∉ s.records := fun hp => by
          rw [h p hp] at hgiven
          exact Finset.notMem_empty _ hgiven
        exact h.set subset_rfl hp _
      · exact h
  | wake p =>
      rw [step, wake]
      split
      · rename_i hwaiting
        have hp : p ∉ s.records := fun hp => by
          rw [h p hp] at hwaiting
          cases hwaiting.1
        exact h.set subset_rfl hp _
      · exact h
  | reply p =>
      rw [step, reply]
      split
      · rename_i hpassed
        have hp : p ∉ s.records := fun hp => by
          rw [h p hp] at hpassed
          cases hpassed
        exact unpublished_onComplete (h.set subset_rfl hp _) hp _
      · exact h
  | onComplete p callerUid =>
      by_cases hp : p ∈ s.records
      · have hnone : (s.delivery p).callback = none := by rw [h p hp]
        rw [step, onComplete, hnone]
        exact h
      · exact unpublished_onComplete h hp callerUid
  | waitForAllReplies =>
      rw [step, waitForAllReplies]
      split
      · exact h
      · exact h

end removals

structure Told (client : Client σ) (state : OsAccountState) (delivery : Delivery σ) : Prop where
  asked : delivery.stage = .sending ∨ delivery.stage = .delivered →
    (∃ subscriber, Registered client state subscriber) → delivery.callback ≠ none
  completed : ∀ callback, delivery.callback = some callback → callback.isCompleted = true →
    delivery.stage = .failed ∨ delivery.waitTask = .replied
  waited : delivery.waitTask = .passed ∨ delivery.waitTask = .replied → ∀ subscriber,
    Registered client state subscriber → 1 ≤ delivery.completions subscriber
  counter : delivery.pendingCounter + ∑ subscriber ∈ delivery.given, (delivery.completions subscriber : Int) =
    delivery.given.card
  told : delivery.stage = .delivered → ∀ subscriber, Registered client state subscriber →
    subscriber ∈ delivery.scheduled ∨ subscriber ∈ delivery.given
  apart : ∀ subscriber ∈ delivery.scheduled, subscriber ∉ delivery.given
  idle : ∀ subscriber ∉ delivery.given, delivery.completions subscriber = 0
  early : delivery.stage ≠ .delivered →
    delivery.given = ∅ ∧ delivery.scheduled = ∅ ∧ delivery.waitTask = .none ∧ delivery.pendingCounter = 0

section told

variable {client : Client σ} {state : OsAccountState} {delivery : Delivery σ} {subscriber : σ}

theorem statesOf_of_mem {info : OsAccountSubscribeInfo} (h : state ∈ info.states) : state ∈ statesOf info := by
  rw [statesOf, if_neg (Finset.ne_empty_of_mem h)]
  exact h

omit [DecidableEq σ] in
theorem told_initial : Told client state ({} : Delivery σ) where
  asked h := by
    rcases h with h | h
    · cases h
    · cases h
  completed _ h := nomatch h
  waited h := by
    rcases h with h | h
    · cases h
    · cases h
  counter := rfl
  told h := nomatch h
  apart _ h := nomatch h
  idle _ _ := rfl
  early _ := ⟨rfl, rfl, rfl, rfl⟩

omit [DecidableEq σ] in
theorem told_sending {callback : Option OsAccountStateReplyCallbackService}
    (hasked : (∃ subscriber, Registered client state subscriber) → callback ≠ none)
    (hopen : ∀ c, callback = some c → c.isCompleted = false) :
    Told client state ({ stage := .sending, callback } : Delivery σ) where
  asked _ := hasked
  completed c hc hcompleted := by
    rw [hopen c hc] at hcompleted
    cases hcompleted
  waited h := by
    rcases h with h | h
    · cases h
    · cases h
  counter := rfl
  told h := nomatch h
  apart _ h := nomatch h
  idle _ _ := rfl
  early _ := ⟨rfl, rfl, rfl, rfl⟩

omit [DecidableEq σ] in
theorem Told.delivered (h : Told client state delivery) (hstage : delivery.stage = .sending) :
    Told client state
      { delivery with
        stage := .delivered
        scheduled := client.subscribers.filter fun subscriber => state ∈ statesOf (client.info subscriber)
        waitTask := if delivery.callback.isSome then .waiting else .none } := by
  obtain ⟨hgiven, -, hwait, hcounter⟩ := h.early (by rw [hstage]; exact nofun)
  refine ⟨fun _ => h.asked (.inl hstage), fun callback hcallback hcompleted => ?_,
    fun hwaited => ?_, h.counter,
    fun _ subscriber hsubscriber => .inl ?_, fun subscriber _ hmem => ?_, h.idle, fun hne => (hne rfl).elim⟩
  · rcases h.completed callback hcallback hcompleted with hfailed | hreplied
    · cases hstage.symm.trans hfailed
    · cases hwait.symm.trans hreplied
  · dsimp only at hwaited
    split at hwaited
    · rcases hwaited with hwaited | hwaited
      · cases hwaited
      · cases hwaited
    · rcases hwaited with hwaited | hwaited
      · cases hwaited
      · cases hwaited
  · exact Finset.mem_filter.mpr ⟨hsubscriber.1, statesOf_of_mem hsubscriber.2.1⟩
  · dsimp only at hmem
    rw [hgiven] at hmem
    exact Finset.notMem_empty _ hmem

omit [DecidableEq σ] in
theorem Told.failed (h : Told client state delivery) (hstage : delivery.stage = .sending) :
    Told client state { delivery with stage := .failed } := by
  obtain ⟨hgiven, hscheduled, hwait, hcounter⟩ := h.early (by rw [hstage]; exact nofun)
  refine ⟨fun hfailed => ?_, fun _ _ _ => .inl rfl, h.waited, h.counter, nofun, h.apart, h.idle,
    fun _ => ⟨hgiven, hscheduled, hwait, hcounter⟩⟩
  rcases hfailed with hfailed | hfailed
  · cases hfailed
  · cases hfailed

omit [DecidableEq σ] in
theorem Told.complete_callback (h : Told client state delivery)
    (hdone : delivery.stage = .failed ∨ delivery.waitTask = .replied)
    (callback : OsAccountStateReplyCallbackService) :
    Told client state { delivery with callback := some callback } :=
  ⟨fun _ _ => nofun, fun _ _ _ => hdone, h.waited, h.counter, h.told, h.apart, h.idle, h.early⟩

theorem Told.given (h : Told client state delivery) (hmem : subscriber ∈ delivery.scheduled) :
    Told client state
      { delivery with
        scheduled := delivery.scheduled.erase subscriber
        pendingCounter := delivery.pendingCounter + 1
        given := insert subscriber delivery.given } := by
  have hnew := h.apart subscriber hmem
  have hstage : delivery.stage = .delivered := by
    by_contra hne
    rw [(h.early hne).2.1] at hmem
    exact Finset.notMem_empty _ hmem
  refine ⟨h.asked, h.completed, h.waited, ?_, fun _ other hother => ?_, fun other hother => ?_,
    fun other hother => ?_,
    fun hne => (hne hstage).elim⟩
  · dsimp only
    rw [Finset.sum_insert hnew, Finset.card_insert_of_notMem hnew, h.idle subscriber hnew]
    have hcounter := h.counter
    push_cast
    omega
  · by_cases hsame : other = subscriber
    · exact .inr (Finset.mem_insert.mpr (.inl hsame))
    · rcases h.told hstage other hother with hscheduled | hgiven
      · exact .inl (Finset.mem_erase.mpr ⟨hsame, hscheduled⟩)
      · exact .inr (Finset.mem_insert_of_mem hgiven)
  · obtain ⟨hne, hscheduled⟩ := Finset.mem_erase.mp hother
    rw [Finset.mem_insert, not_or]
    exact ⟨hne, h.apart other hscheduled⟩
  · exact h.idle other fun hgiven => hother (Finset.mem_insert_of_mem hgiven)

theorem Told.called (h : Told client state delivery) (hmem : subscriber ∈ delivery.scheduled)
    (hnot : ¬Registered client state subscriber) :
    Told client state { delivery with scheduled := delivery.scheduled.erase subscriber } := by
  have hstage : delivery.stage = .delivered := by
    by_contra hne
    rw [(h.early hne).2.1] at hmem
    exact Finset.notMem_empty _ hmem
  refine ⟨h.asked, h.completed, h.waited, h.counter, fun _ other hother => ?_, fun other hother => ?_, h.idle,
    fun hne => (hne hstage).elim⟩
  · rcases h.told hstage other hother with hscheduled | hgiven
    · refine .inl (Finset.mem_erase.mpr ⟨?_, hscheduled⟩)
      rintro rfl
      exact hnot hother
    · exact .inr hgiven
  · exact h.apart other (Finset.mem_of_mem_erase hother)

theorem Told.complete (h : Told client state delivery) (hmem : subscriber ∈ delivery.given) :
    Told client state
      { delivery with
        pendingCounter := delivery.pendingCounter - 1
        completions := update delivery.completions subscriber (delivery.completions subscriber + 1) } := by
  have hstage : delivery.stage = .delivered := by
    by_contra hne
    rw [(h.early hne).1] at hmem
    exact Finset.notMem_empty _ hmem
  have hle : ∀ other, delivery.completions other ≤
      update delivery.completions subscriber (delivery.completions subscriber + 1) other := by
    intro other
    by_cases hsame : other = subscriber
    · subst hsame
      rw [update_self]
      exact Nat.le_succ _
    · rw [update_of_ne hsame]
  refine ⟨h.asked, h.completed, fun hwaited other hother => (h.waited hwaited other hother).trans
    (hle other), ?_, h.told,
    h.apart, fun other hother => ?_, fun hne => (hne hstage).elim⟩
  · have hsum : ∑ other ∈ delivery.given, (update delivery.completions subscriber
        (delivery.completions subscriber + 1) other : Int) =
        ∑ other ∈ delivery.given, (delivery.completions other : Int) + 1 := by
      rw [← Finset.add_sum_erase _ _ hmem, ← Finset.add_sum_erase _ _ hmem, update_self]
      have hrest : ∀ other ∈ delivery.given.erase subscriber, (update delivery.completions subscriber
          (delivery.completions subscriber + 1) other : Int) = delivery.completions other := by
        intro other hother
        rw [update_of_ne (Finset.ne_of_mem_erase hother)]
      rw [Finset.sum_congr rfl hrest]
      push_cast
      omega
    have hcounter := h.counter
    dsimp only
    rw [hsum]
    omega
  · have hne : other ≠ subscriber := by
      rintro rfl
      exact hother hmem
    dsimp only
    rw [update_of_ne hne]
    exact h.idle other hother

omit [DecidableEq σ] in
theorem Told.wake (h : Told client state delivery) (hwaiting : delivery.waitTask = .waiting)
    (hzero : delivery.pendingCounter = 0)
    (hall : ∀ subscriber, Registered client state subscriber → subscriber ∉ delivery.scheduled)
    (honce : ∀ subscriber, delivery.completions subscriber ≤ 1) :
    Told client state { delivery with waitTask := .passed } := by
  have hstage : delivery.stage = .delivered := by
    by_contra hne
    cases (h.early hne).2.2.1.symm.trans hwaiting
  refine ⟨h.asked, fun callback hcallback hcompleted => ?_, fun _ subscriber hsubscriber => ?_,
    h.counter, h.told,
    h.apart, h.idle, fun hne => (hne hstage).elim⟩
  · rcases h.completed callback hcallback hcompleted with hfailed | hreplied
    · exact .inl hfailed
    · cases hwaiting.symm.trans hreplied
  · have hsum : ∑ other ∈ delivery.given, delivery.completions other = ∑ _other ∈ delivery.given, 1 := by
      have hcounter := h.counter
      rw [hzero, zero_add] at hcounter
      rw [← Finset.card_eq_sum_ones]
      exact_mod_cast hcounter
    have heach := (Finset.sum_eq_sum_iff_of_le fun other _ => honce other).mp hsum
    have hgiven := (h.told hstage subscriber hsubscriber).resolve_left (hall subscriber hsubscriber)
    exact (heach subscriber hgiven).symm.le

omit [DecidableEq σ] in
theorem Told.reply (h : Told client state delivery) (hpassed : delivery.waitTask = .passed) :
    Told client state { delivery with waitTask := .replied } := by
  have hstage : delivery.stage = .delivered := by
    by_contra hne
    cases (h.early hne).2.2.1.symm.trans hpassed
  exact ⟨h.asked, fun _ _ _ => .inr rfl, fun _ => h.waited (.inl hpassed), h.counter, h.told, h.apart, h.idle,
    fun hne => (hne hstage).elim⟩

end told

structure Inv (client : P → Client σ) (state : OsAccountState) (s : Publication P σ) : Prop where
  removes : Removes client s
  unpublished : Unpublished s
  told : ∀ p, Told (client p) state (s.delivery p)
  returned : s.returned = true → s.records = ∅ ∧ s.safeQueue = 0

section runs

variable {client : P → Client σ} {state : OsAccountState} {s : Publication P σ} {p : P} {delivery : Delivery σ}

omit [DecidableEq σ] in
theorem told_set (h : ∀ q, Told (client q) state (s.delivery q)) (hdelivery : Told (client p) state delivery) (q : P) :
    Told (client q) state ((setDelivery s p delivery).delivery q) := by
  by_cases hq : q = p
  · subst hq
    rw [setDelivery_self]
    exact hdelivery
  · rw [setDelivery_of_ne hq]
    exact h q

omit [DecidableEq σ] in
theorem told_onComplete (h : ∀ q, Told (client q) state (s.delivery q)) {callerUid : Int}
    (hcaller : callerUid = (client p).callingUid → (s.delivery p).waitTask = .replied) (q : P) :
    Told (client q) state ((onComplete client s p callerUid).delivery q) := by
  rw [onComplete]
  split
  · exact h q
  · split
    · exact h q
    · split
      · exact h q
      · rename_i huid
        exact told_set h ((h p).complete_callback (.inr (hcaller (not_not.mp huid))) _) q

omit [DecidableEq σ] in
theorem told_forceComplete (h : ∀ q, Told (client q) state (s.delivery q)) (hfailed : (s.delivery p).stage = .failed)
    (q : P) : Told (client q) state ((forceComplete s p).delivery q) := by
  rw [forceComplete]
  split
  · exact h q
  · split
    · exact h q
    · exact told_set h ((h p).complete_callback (.inl hfailed) _) q

theorem told_step (hstate : isStateNeedHandShake state = true) (h : Inv client state s) (op : Operation P σ)
    (hop : Allowed client state s op) (q : P) : Told (client q) state ((step client state s op).delivery q) := by
  cases op with
  | publishTo p =>
      rw [step, publishTo]
      split
      · rename_i hp
        have hnew := h.unpublished p hp
        dsimp only
        split
        · exact h.told q
        · rename_i htype
          split
          · rename_i hmem
            have hasked := hop hp htype hmem
            split
            · refine told_set h.told ?_ q
              rw [hnew]
              exact told_sending (fun _ => nofun) fun c hc => by cases hc; rfl
            · rename_i hnot
              refine told_set h.told ?_ q
              rw [hnew]
              exact told_sending (fun hsome => (hnot ⟨hstate, hasked hsome⟩).elim) nofun
          · exact h.told q
      · exact h.told q
  | onStateChanged p succeeds =>
      rw [step, onStateChanged]
      split
      · rename_i hstage
        split
        · exact told_set h.told ((h.told p).delivered hstage) q
        · refine told_forceComplete (told_set h.told ((h.told p).failed hstage)) ?_ q
          rw [setDelivery_self]
      · exact h.told q
  | notifySubscriber p subscriber =>
      rw [step, notifySubscriber]
      split
      · rename_i hmem
        split
        · exact told_set h.told ((h.told p).given hmem) q
        · rename_i hnot
          refine told_set h.told ((h.told p).called hmem fun hregistered => hnot ?_) q
          exact ⟨Finset.ne_empty_of_mem hregistered.2.1, hregistered.2.2, hstate⟩
      · exact h.told q
  | complete p subscriber =>
      rw [step, complete]
      split
      · rename_i hmem
        exact told_set h.told ((h.told p).complete hmem) q
      · exact h.told q
  | wake p =>
      rw [step, wake]
      split
      · rename_i hready
        obtain ⟨hall, honce⟩ := hop hready.1 hready.2
        exact told_set h.told ((h.told p).wake hready.1 hready.2 hall honce) q
      · exact h.told q
  | reply p =>
      rw [step, reply]
      split
      · rename_i hpassed
        refine told_onComplete (told_set h.told ((h.told p).reply hpassed)) (fun _ => ?_) q
        rw [setDelivery_self]
      · exact h.told q
  | onComplete p callerUid => exact told_onComplete h.told (fun hown => (hop hown).elim) q
  | waitForAllReplies =>
      rw [step, waitForAllReplies]
      split
      · exact h.told q
      · exact h.told q

omit [DecidableEq σ] in
/-- What comes after the return of `Publish` adds nothing to the queue. -/
theorem returned_onComplete (h : s.returned = true → s.records = ∅ ∧ s.safeQueue = 0) (callerUid : Int) :
    (onComplete client s p callerUid).returned = true →
      (onComplete client s p callerUid).records = ∅ ∧ (onComplete client s p callerUid).safeQueue = 0 := by
  rw [onComplete]
  split
  · exact h
  · split
    · exact h
    · split
      · exact h
      · intro hreturned
        obtain ⟨hrecords, hqueue⟩ := h hreturned
        exact ⟨hrecords, (congrArg Nat.pred hqueue : s.safeQueue - 1 = 0 - 1)⟩

omit [DecidableEq σ] in
theorem returned_forceComplete (h : s.returned = true → s.records = ∅ ∧ s.safeQueue = 0) :
    (forceComplete s p).returned = true → (forceComplete s p).records = ∅ ∧ (forceComplete s p).safeQueue = 0 := by
  rw [forceComplete]
  split
  · exact h
  · split
    · exact h
    · intro hreturned
      obtain ⟨hrecords, hqueue⟩ := h hreturned
      exact ⟨hrecords, (congrArg Nat.pred hqueue : s.safeQueue - 1 = 0 - 1)⟩

theorem returned_step (h : s.returned = true → s.records = ∅ ∧ s.safeQueue = 0) (op : Operation P σ) :
    (step client state s op).returned = true →
      (step client state s op).records = ∅ ∧ (step client state s op).safeQueue = 0 := by
  cases op with
  | publishTo p =>
      rw [step, publishTo]
      split
      · rename_i hp
        have hnot : s.returned ≠ true := fun hreturned => by
          rw [(h hreturned).1] at hp
          exact Finset.notMem_empty _ hp
        dsimp only
        split
        · exact fun hreturned => (hnot hreturned).elim
        · split
          · split
            · exact fun hreturned => (hnot hreturned).elim
            · exact fun hreturned => (hnot hreturned).elim
          · exact fun hreturned => (hnot hreturned).elim
      · exact h
  | onStateChanged p succeeds =>
      rw [step, onStateChanged]
      split
      · split
        · exact h
        · exact returned_forceComplete h
      · exact h
  | notifySubscriber p subscriber =>
      rw [step, notifySubscriber]
      split
      · split
        · exact h
        · exact h
      · exact h
  | complete p subscriber =>
      rw [step, complete]
      split
      · exact h
      · exact h
  | wake p =>
      rw [step, wake]
      split
      · exact h
      · exact h
  | reply p =>
      rw [step, reply]
      split
      · refine returned_onComplete ?_ _
        exact h
      · exact h
  | onComplete p callerUid => exact returned_onComplete h callerUid
  | waitForAllReplies =>
      rw [step, waitForAllReplies]
      split
      · rename_i hdone
        exact fun _ => hdone
      · exact h

theorem inv_step (hstate : isStateNeedHandShake state = true) (s : Publication P σ) (op : Operation P σ)
    (h : Inv client state s) (hop : Allowed client state s op) : Inv client state (step client state s op) where
  removes := removes_step h.removes h.unpublished op
  unpublished := unpublished_step h.unpublished op
  told := told_step hstate h op hop
  returned := returned_step h.returned op

omit [DecidableEq P] [DecidableEq σ] in
theorem removes_initial (records : Finset P) : Removes client ({ records } : Publication P σ) where
  queue := ⟨∅, fun _ => iff_of_false (Finset.notMem_empty _) fun ⟨_, h, _⟩ => (nomatch h), rfl⟩
  once _ _ h := nomatch h
  own _ _ h := nomatch h

omit [DecidableEq P] [DecidableEq σ] in
theorem inv_initial (records : Finset P) : Inv client state ({ records } : Publication P σ) where
  removes := removes_initial records
  unpublished _ _ := rfl
  told _ := told_initial
  returned h := nomatch h

omit [DecidableEq P] [DecidableEq σ] in
theorem waits_of_inv (h : Inv client state s) : Waits client state s := by
  intro hreturned p hdelivered subscriber hsubscriber
  obtain ⟨-, hqueue⟩ := h.returned hreturned
  obtain ⟨opened, hopened, hcard⟩ := h.removes.queue
  have hnone : opened = ∅ := Finset.card_eq_zero.mp (hcard.symm.trans hqueue)
  cases hcallback : (s.delivery p).callback with
  | none => exact ((h.told p).asked (.inr hdelivered) ⟨subscriber, hsubscriber⟩ hcallback).elim
  | some callback =>
      have hcompleted : callback.isCompleted = true := by
        by_contra hopen
        have hp := (hopened p).mpr ⟨callback, hcallback, Bool.eq_false_of_not_eq_true hopen⟩
        rw [hnone] at hp
        exact Finset.notMem_empty _ hp
      rcases (h.told p).completed callback hcallback hcompleted with hfailed | hreplied
      · cases hdelivered.symm.trans hfailed
      · exact (h.told p).waited (.inr hreplied) subscriber hsubscriber

theorem removes_run (records : Finset P) (ops : List (Operation P σ)) :
    Removes client (Machine.run (step client state) { records } ops) := by
  have hstep : ∀ (s : Publication P σ) (op : Operation P σ), Removes client s ∧ Unpublished s →
      Removes client (step client state s op) ∧ Unpublished (step client state s op) :=
    fun s op h => ⟨removes_step h.1 h.2 op, unpublished_step h.2 op⟩
  have hinitial : Removes client ({ records } : Publication P σ) ∧
      Unpublished ({ records } : Publication P σ) :=
    ⟨removes_initial records, fun _ _ => rfl⟩
  exact (Machine.run_invariant hstep hinitial ops).1

end runs

/-- A callback of the service takes at most its own entry from the queue, and `Publish` waits for the subscribers all
along a run in which no waiter comes before those that it waits for. -/
theorem publish_waits (client : P → Client σ) {state : OsAccountState} (hstate : state = .stopping ∨ state = .locking)
    (records : Finset P) (ops : List (Operation P σ)) :
    Removes client (Machine.run (step client state) { records } ops) ∧
      (Machine.Meets (step client state) (Allowed client state) { records } ops →
        Waits client state (Machine.run (step client state) { records } ops)) := by
  refine ⟨removes_run records ops, fun hops => ?_⟩
  have hneed : isStateNeedHandShake state = true := decide_eq_true hstate
  have h : Inv client state (Machine.run (step client state) { records } ops) :=
    Machine.run_invariant_of_meets (inv_step hneed) (inv_initial records) hops
  exact waits_of_inv h

def oneSubscriber : Client Nat :=
  ⟨7, ⟨.invalidType, {.stopping}, true⟩, {1}, fun _ => ⟨.invalidType, {.stopping}, true⟩⟩

theorem publish_waits_oneSubscriber : Waits (fun _ => oneSubscriber) .stopping
    (Machine.run (step (fun _ => oneSubscriber) .stopping) ({ records := {1} } : Publication Nat Nat)
      [.publishTo 1, .onStateChanged 1 true, .notifySubscriber 1 1, .complete 1 1, .wake 1, .reply 1,
        .waitForAllReplies]) := by
  have hscheduled : ((Machine.run (step (fun _ => oneSubscriber) .stopping)
      ({ records := {1} } : Publication Nat Nat)
      [.publishTo 1, .onStateChanged 1 true, .notifySubscriber 1 1, .complete 1 1]).delivery 1).scheduled = ∅ := by
    decide
  have honce : ∀ subscriber, ((Machine.run (step (fun _ => oneSubscriber) .stopping)
      ({ records := {1} } : Publication Nat Nat) [.publishTo 1, .onStateChanged 1 true, .notifySubscriber 1 1,
        .complete 1 1]).delivery 1).completions subscriber ≤ 1 := by
    intro subscriber
    by_cases hone : subscriber = 1
    · subst hone
      decide
    · exact (update_of_ne hone ..).le.trans (Nat.zero_le 1)
  refine (publish_waits (fun _ => oneSubscriber) (.inl rfl) {1} _).2
    ⟨fun _ _ _ _ => rfl, trivial, trivial, trivial, fun _ _ => ⟨fun subscriber _ hmem => ?_, honce⟩,
      trivial, trivial,
      trivial⟩
  exact Finset.notMem_empty subscriber (hscheduled ▸ hmem)

/-- The waiter runs before the task of the subscriber, and finds nothing pending. -/
theorem not_waits_early : ¬∀ ops : List (Operation Nat Nat), Waits (fun _ => oneSubscriber) .stopping
    (Machine.run (step (fun _ => oneSubscriber) .stopping) { records := {1} } ops) := by
  intro h
  have hone := h [.publishTo 1, .onStateChanged 1 true, .wake 1, .reply 1, .waitForAllReplies]
    (by decide) 1 (by decide) 1
    ⟨by decide, by decide, rfl⟩
  exact absurd hone (by decide)

end OsAccount.StopHandshake
