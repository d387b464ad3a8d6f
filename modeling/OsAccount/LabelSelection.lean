import OsAccount.Machine
import Mathlib.Data.List.Basic

namespace OsAccount.LabelSelection

open Machine

def ERR_JS_SUCCESS : Int := 0

def ERR_JS_ACCOUNT_NOT_FOUND : Int := 12300003

def ERR_JS_ACCOUNT_AUTHENTICATOR_SERVICE_EXCEPTION : Int := 12300114

structure AppAccountInfo where
  owner : String
  name : String
  deriving DecidableEq

/-- The result of an authenticator: the parameter `KEY_BOOLEAN_RESULT` of the old callback, if it is there, and the
account of the new one. -/
structure Answer where
  resultCode : Int
  booleanResult : Option Bool := none
  account : Option AppAccountInfo := none

/-- What comes to the session of a candidate: from its authenticator, which may redirect to itself or elsewhere,
or that the authenticator has died. -/
inductive Reply
  | result (answer : Answer)
  | requestRedirected (toOwner : Bool)
  | requestContinued
  | serverDied

def Reply.answer? : Reply → Option Answer
  | .result answer => some answer
  | .requestRedirected false | .serverDied => some { resultCode := ERR_JS_ACCOUNT_AUTHENTICATOR_SERVICE_EXCEPTION }
  | .requestRedirected true | .requestContinued => none

structure Handler where
  sub : Nat
  reply : Reply
  handled : Bool := false

structure Outcome where
  resultCode : Int
  accounts : List AppAccountInfo

/-- The callback object of the request with the sessions that are open, its own one and those of the candidates,
what the client has been called with, and what has been asked of whom and taken from whom. -/
structure State where
  started : Bool := false
  crashed : Bool := false
  clientDied : Bool := false
  session : Bool := false
  subs : List Nat := []
  index : Nat := 0
  isRequesting : Bool := false
  accountsWithLabels : List AppAccountInfo := []
  handlers : List Handler := []
  results : List Outcome := []
  tried : List Nat := []
  taken : List (Nat × Answer) := []

inductive Event
  | selectAccountsByOptions (opened : Bool)
  | arrive (sub : Nat) (reply : Reply)
  | handle (handler : Nat)
  | close (handler : Nat)
  | clientDied

section steps

variable (accounts : List AppAccountInfo) (opens : Nat → Bool)

namespace State

variable (s : State)

def sendResult (resultCode : Int) : State :=
  if s.session = true then
    { s with
      session := false
      results := s.results ++ [⟨resultCode, if resultCode = ERR_JS_SUCCESS then s.accountsWithLabels else []⟩] }
  else s

def checkLabels : Nat → State → State
  | 0, s => s.sendResult ERR_JS_SUCCESS
  | n + 1, s =>
      if opens s.index = true then
        { s with isRequesting := true, subs := s.index :: s.subs, tried := s.tried ++ [s.index] }
      else checkLabels n { s with index := s.index + 1, tried := s.tried ++ [s.index] }

/-- `OnResultAPI8` and `OnResultAPI9`, which fails if the authenticator has. -/
def onAnswer (answer : Answer) : Option (List AppAccountInfo) :=
  match answer.booleanResult with
  | some result =>
      some (if result = true then s.accountsWithLabels ++ accounts[s.index]?.toList else s.accountsWithLabels)
  | none =>
      if answer.resultCode = ERR_JS_ACCOUNT_NOT_FOUND ∨ accounts.length ≤ s.index then some s.accountsWithLabels
      else if answer.resultCode ≠ ERR_JS_SUCCESS then none
      else
        some (if answer.account = accounts[s.index]? then s.accountsWithLabels ++ accounts[s.index]?.toList
          else s.accountsWithLabels)

def proceed : State :=
  checkLabels opens (accounts.length - (s.index + 1)) { s with isRequesting := false, index := s.index + 1 }

def onResult (sub : Nat) (answer : Answer) : State :=
  if s.isRequesting = false then s
  else
    match s.onAnswer accounts answer with
    | none =>
        sendResult { s with isRequesting := false, taken := s.taken ++ [(sub, answer)] }
          ERR_JS_ACCOUNT_AUTHENTICATOR_SERVICE_EXCEPTION
    | some accountsWithLabels =>
        proceed accounts opens { s with accountsWithLabels, taken := s.taken ++ [(sub, answer)] }

def onRequest : State := if s.isRequesting = false then s else s.proceed accounts opens

end State

def step (s : State) (e : Event) : State :=
  if s.crashed = true then s
  else
    match e with
    | .selectAccountsByOptions opened =>
        if s.started = true then s
        else if opened = true then State.checkLabels opens accounts.length { s with started := true, session := true }
        else { s with crashed := true }
    | .arrive sub reply => if sub ∈ s.subs then { s with handlers := s.handlers ++ [{ sub, reply }] } else s
    | .handle i =>
        match s.handlers[i]? with
        | none => s
        | some h =>
            if h.handled = true then s
            else
              match h.reply.answer? with
              | some answer =>
                  { s.onResult accounts opens h.sub answer with handlers := s.handlers.set i { h with handled := true } }
              | none => { s.onRequest accounts opens with handlers := s.handlers.eraseIdx i }
    | .close i =>
        match s.handlers[i]? with
        | none => s
        | some h =>
            if h.handled = true then
              { s with subs := s.subs.filter (· ≠ h.sub), handlers := s.handlers.eraseIdx i }
            else s
    | .clientDied => { s with session := false, clientDied := s.started || s.clientDied }

def Answer.Matches (answer : Answer) (account : AppAccountInfo) : Prop :=
  match answer.booleanResult with
  | some result => result = true
  | none => answer.resultCode = ERR_JS_SUCCESS ∧ answer.account = some account

instance (answer : Answer) (account : AppAccountInfo) : Decidable (answer.Matches account) :=
  match h : answer.booleanResult with
  | some result => decidable_of_iff (result = true) (by rw [Answer.Matches, h])
  | none =>
      decidable_of_iff (answer.resultCode = ERR_JS_SUCCESS ∧ answer.account = some account)
        (by rw [Answer.Matches, h])

/-- The candidates up to some number whose own authenticator has said that they have the labels. -/
def labelled (taken : List (Nat × Answer)) (n : Nat) : List AppAccountInfo :=
  (List.range n).filterMap fun i =>
    accounts[i]?.filter fun account => taken.any fun p => decide (p.1 = i ∧ p.2.Matches account)

/-- The client is called at most once and with a sublist of the candidates, and the candidates are asked one after
the other, each at most once. -/
structure Selects (s : State) : Prop where
  once : s.results.length ≤ 1
  sublist : ∀ o ∈ s.results, o.accounts.Sublist accounts
  tried : ∃ n, n ≤ accounts.length ∧ s.tried = List.range n

def Exact (s : State) : Prop :=
  ∀ o ∈ s.results, o.resultCode = ERR_JS_SUCCESS → o.accounts = labelled accounts s.taken accounts.length

def Done (s : State) : Prop := s.started = true → s.subs = [] → s.results ≠ []

/-- An answer that is taken comes from the session of the candidate that is being asked. -/
def OwnAnswer (s : State) : Event → Prop
  | .handle i =>
      ∀ h ∈ s.handlers[i]?, h.handled = false → (∃ answer, h.reply = .result answer) → s.isRequesting = true →
        h.sub = s.index
  | _ => True

end steps

section invariants

variable {accounts : List AppAccountInfo} {opens : Nat → Bool} {s : State}

structure Ready (accounts : List AppAccountInfo) (s : State) : Prop where
  started : s.started = true
  isRequesting : s.isRequesting = false
  index : s.index ≤ accounts.length
  tried : s.tried = List.range s.index
  results : s.results = []
  session : s.session = true ∨ s.clientDied = true
  subs : ∀ i ∈ s.subs, i < s.index
  handlers : ∀ h ∈ s.handlers, h.sub < s.index
  sublist : s.accountsWithLabels.Sublist (accounts.take s.index)

structure Asking (accounts : List AppAccountInfo) (s : State) : Prop where
  started : s.started = true
  index : s.index < accounts.length
  tried : s.tried = List.range (s.index + 1)
  results : s.results = []
  session : s.session = true ∨ s.clientDied = true
  mem : s.index ∈ s.subs
  subs : ∀ i ∈ s.subs, i ≤ s.index
  handlers : ∀ h ∈ s.handlers, h.sub ≤ s.index ∧ (h.handled = true → h.sub < s.index)
  sublist : s.accountsWithLabels.Sublist (accounts.take s.index)

structure Inv (accounts : List AppAccountInfo) (s : State) : Prop extends Selects accounts s where
  asking : s.isRequesting = true → Asking accounts s
  ended : s.started = true → s.isRequesting = false → s.session = false ∧ (s.results ≠ [] ∨ s.clientDied = true)
  fresh : s.started = false → ∃ crashed, s = { crashed }

theorem Inv.done (h : Inv accounts s) (hstarted : s.started = true) (hsubs : s.subs = []) :
    s.results ≠ [] ∨ s.clientDied = true := by
  cases hr : s.isRequesting with
  | false => exact (h.ended hstarted hr).2
  | true =>
      have hmem := (h.asking hr).mem
      rw [hsubs] at hmem
      exact (List.not_mem_nil hmem).elim

theorem sendResult_cases (s : State) (resultCode : Int) :
    s.session = true ∧ s.sendResult resultCode = { s with
      session := false
      results := s.results ++ [⟨resultCode, if resultCode = ERR_JS_SUCCESS then s.accountsWithLabels else []⟩] } ∨
      s.session = false ∧ s.sendResult resultCode = s := by
  rw [State.sendResult]
  cases hs : s.session with
  | true => exact .inl ⟨rfl, rfl⟩
  | false => exact .inr ⟨rfl, rfl⟩

theorem inv_sendResult {n : Nat} (hstarted : s.started = true) (hrequesting : s.isRequesting = false)
    (hn : n ≤ accounts.length) (htried : s.tried = List.range n) (hresults : s.results = [])
    (hsession : s.session = true ∨ s.clientDied = true) (hsublist : s.accountsWithLabels.Sublist accounts)
    (resultCode : Int) : Inv accounts (s.sendResult resultCode) := by
  rcases sendResult_cases s resultCode with ⟨-, heq⟩ | ⟨hclosed, heq⟩
  · rw [heq]
    refine ⟨⟨?_, fun o ho => ?_, n, hn, htried⟩, fun hr => ?_, fun _ _ => ⟨rfl, .inl ?_⟩, fun hs => ?_⟩
    · rw [hresults]
      exact Nat.le_refl 1
    · rw [hresults] at ho
      obtain rfl := List.mem_singleton.mp ho
      dsimp only
      split_ifs
      · exact hsublist
      · exact List.nil_sublist accounts
    · exact (Bool.false_ne_true (hrequesting.symm.trans hr)).elim
    · exact List.append_ne_nil_of_right_ne_nil _ (List.cons_ne_nil _ _)
    · exact (Bool.false_ne_true (hs.symm.trans hstarted)).elim
  · rw [heq]
    refine ⟨⟨?_, fun o ho => ?_, n, hn, htried⟩, fun hr => ?_, fun _ _ => ⟨hclosed, .inr ?_⟩, fun hs => ?_⟩
    · rw [hresults]
      exact Nat.zero_le 1
    · rw [hresults] at ho
      exact (List.not_mem_nil ho).elim
    · exact (Bool.false_ne_true (hrequesting.symm.trans hr)).elim
    · exact hsession.resolve_left fun hopen => Bool.false_ne_true (hclosed.symm.trans hopen)
    · exact (Bool.false_ne_true (hs.symm.trans hstarted)).elim

theorem Ready.next (h : Ready accounts s) (hlt : s.index < accounts.length) :
    Ready accounts { s with index := s.index + 1, tried := s.tried ++ [s.index] } where
  started := h.started
  isRequesting := h.isRequesting
  index := hlt
  tried := by
    dsimp only
    rw [h.tried, List.range_succ]
  results := h.results
  session := h.session
  subs i hi := Nat.lt_succ_of_lt (h.subs i hi)
  handlers h' hh := Nat.lt_succ_of_lt (h.handlers h' hh)
  sublist := h.sublist.trans (List.take_sublist_take_left (Nat.le_succ s.index))

theorem Ready.asking (h : Ready accounts s) (hlt : s.index < accounts.length) :
    Asking accounts
      { s with isRequesting := true, subs := s.index :: s.subs, tried := s.tried ++ [s.index] } where
  started := h.started
  index := hlt
  tried := by
    dsimp only
    rw [h.tried, List.range_succ]
  results := h.results
  session := h.session
  mem := List.mem_cons_self
  subs := List.forall_mem_cons.mpr ⟨Nat.le_refl _, fun i hi => Nat.le_of_lt (h.subs i hi)⟩
  handlers h' hh := ⟨Nat.le_of_lt (h.handlers h' hh), fun _ => h.handlers h' hh⟩
  sublist := h.sublist

/-- The loop asks the next candidate whose session opens, or the request is at its end; the induction is on the
number of candidates that are left. -/
theorem Ready.inv_checkLabels (h : Ready accounts s) {n : Nat} (hn : s.index + n = accounts.length) :
    Inv accounts (State.checkLabels opens n s) := by
  induction n generalizing s with
  | zero =>
      exact inv_sendResult h.started h.isRequesting h.index h.tried h.results h.session
        (h.sublist.trans (List.take_sublist _ _)) ERR_JS_SUCCESS
  | succ n ih =>
      have hlt : s.index < accounts.length := by omega
      rw [State.checkLabels]
      split_ifs
      · have hasking := h.asking hlt
        refine ⟨⟨?_, fun o ho => ?_, s.index + 1, hlt, hasking.tried⟩, fun _ => hasking,
          fun _ hr => ?_, fun hs => ?_⟩
        · exact h.results.symm ▸ Nat.zero_le 1
        · exact (List.not_mem_nil (h.results ▸ ho)).elim
        · exact (Bool.false_ne_true hr.symm).elim
        · exact (Bool.false_ne_true (hs.symm.trans h.started)).elim
      · exact ih (h.next hlt) (by dsimp only; omega)

theorem checkLabels_frame (opens : Nat → Bool) (n : Nat) (s : State) :
    (State.checkLabels opens n s).started = s.started ∧ s.index ≤ (State.checkLabels opens n s).index := by
  induction n generalizing s with
  | zero =>
      rw [State.checkLabels]
      rcases sendResult_cases s ERR_JS_SUCCESS with ⟨-, heq⟩ | ⟨-, heq⟩ <;> rw [heq] <;> exact
        ⟨rfl, Nat.le_refl _⟩
  | succ n ih =>
      rw [State.checkLabels]
      split_ifs
      · exact ⟨rfl, Nat.le_refl _⟩
      · obtain ⟨hstarted, hindex⟩ := ih { s with index := s.index + 1, tried := s.tried ++ [s.index] }
        exact ⟨hstarted, Nat.le_of_succ_le hindex⟩

variable {accountsWithLabels : List AppAccountInfo}

theorem onAnswer_eq (hlt : s.index < accounts.length) {answer : Answer}
    (ha : s.onAnswer accounts answer = some accountsWithLabels) :
    accountsWithLabels =
      s.accountsWithLabels ++ if answer.Matches accounts[s.index] then [accounts[s.index]] else [] := by
  have hget : accounts[s.index]? = some accounts[s.index] := List.getElem?_eq_getElem hlt
  rw [State.onAnswer, hget] at ha
  cases hb : answer.booleanResult with
  | some result =>
      rw [hb] at ha
      cases ha
      have hiff : answer.Matches accounts[s.index] ↔ result = true := by rw [Answer.Matches, hb]
      rw [if_congr hiff rfl rfl]
      cases result <;> simp
  | none =>
      rw [hb] at ha
      dsimp only at ha
      have hiff : answer.Matches accounts[s.index] ↔
          answer.resultCode = ERR_JS_SUCCESS ∧ answer.account = some accounts[s.index] := by
            rw [Answer.Matches, hb]
      rw [if_congr hiff rfl rfl]
      by_cases hnot : answer.resultCode = ERR_JS_ACCOUNT_NOT_FOUND
      · rw [if_pos (.inl hnot)] at ha
        cases ha
        simp [hnot, ERR_JS_ACCOUNT_NOT_FOUND, ERR_JS_SUCCESS]
      · rw [if_neg (not_or.mpr ⟨hnot, Nat.not_le.mpr hlt⟩)] at ha
        by_cases hcode : answer.resultCode = ERR_JS_SUCCESS
        · rw [if_neg (not_not.mpr hcode)] at ha
          cases ha
          simp only [hcode, true_and, Option.toList_some]
          split_ifs <;> simp
        · rw [if_pos hcode] at ha
          cases ha

theorem onAnswer_sublist (h : Asking accounts s) {answer : Answer}
    (ha : s.onAnswer accounts answer = some accountsWithLabels) :
    accountsWithLabels.Sublist (accounts.take (s.index + 1)) := by
  rw [onAnswer_eq h.index ha, List.take_succ_eq_append_getElem h.index]
  refine h.sublist.append ?_
  split_ifs
  · exact List.Sublist.refl _
  · exact List.nil_sublist _

theorem Asking.ready (h : Asking accounts s)
    (hsublist : accountsWithLabels.Sublist (accounts.take (s.index + 1))) (taken : List (Nat × Answer)) :
    Ready accounts
      { s with accountsWithLabels, taken, isRequesting := false, index := s.index + 1 } where
  started := h.started
  isRequesting := rfl
  index := h.index
  tried := h.tried
  results := h.results
  session := h.session
  subs i hi := Nat.lt_succ_of_le (h.subs i hi)
  handlers h' hh := Nat.lt_succ_of_le (h.handlers h' hh).1
  sublist := hsublist

theorem Inv.setHandlers (h : Inv accounts s) (hstarted : s.started = true) {handlers : List Handler}
    (hhandlers : s.isRequesting = true →
      ∀ h' ∈ handlers, h'.sub ≤ s.index ∧ (h'.handled = true → h'.sub < s.index)) :
    Inv accounts { s with handlers } where
  once := h.once
  sublist := h.sublist
  tried := h.tried
  asking hr := ⟨hstarted, (h.asking hr).index, (h.asking hr).tried, (h.asking hr).results, (h.asking hr).session,
    (h.asking hr).mem, (h.asking hr).subs, hhandlers hr, (h.asking hr).sublist⟩
  ended := h.ended
  fresh hs := (Bool.false_ne_true (hs.symm.trans hstarted)).elim

structure Handles (accounts : List AppAccountInfo) (s s' : State) : Prop where
  inv : Inv accounts s'
  started : s'.started = true
  handlers : s'.isRequesting = true → ∀ h ∈ s.handlers, h.sub < s'.index

theorem Ready.handles (h : Ready accounts s) {n : Nat} (hn : s.index + n = accounts.length) :
    Handles accounts s (State.checkLabels opens n s) := by
  obtain ⟨hstarted, hindex⟩ := checkLabels_frame opens n s
  exact ⟨h.inv_checkLabels hn, hstarted.trans h.started,
    fun _ h' hh => Nat.lt_of_lt_of_le (h.handlers h' hh) hindex⟩

theorem Asking.handles_proceed (h : Asking accounts s)
    (hsublist : accountsWithLabels.Sublist (accounts.take (s.index + 1))) (taken : List (Nat × Answer)) :
    Handles accounts s (State.proceed accounts opens { s with accountsWithLabels, taken }) := by
  have hlt := h.index
  have hready := h.ready hsublist taken
  have hhandles : Handles accounts _ (State.proceed accounts opens { s with accountsWithLabels, taken }) :=
    hready.handles (Nat.add_sub_of_le hlt)
  exact ⟨hhandles.inv, hhandles.started, hhandles.handlers⟩

theorem Inv.handles_self (h : Inv accounts s) (hstarted : s.started = true) (hr : s.isRequesting = false) :
    Handles accounts s s :=
  ⟨h, hstarted, fun hr' => (Bool.false_ne_true (hr.symm.trans hr')).elim⟩

theorem Inv.handles_onRequest (h : Inv accounts s) (hstarted : s.started = true) :
    Handles accounts s (s.onRequest accounts opens) := by
  rw [State.onRequest]
  split_ifs with hr
  · exact h.handles_self hstarted hr
  · have hasking := h.asking (Bool.of_not_eq_false hr)
    exact hasking.handles_proceed (hasking.sublist.trans
      (List.take_sublist_take_left (Nat.le_succ s.index))) s.taken

theorem Inv.handles_onResult (h : Inv accounts s) (hstarted : s.started = true) (sub : Nat) (answer : Answer) :
    Handles accounts s (s.onResult accounts opens sub answer) := by
  rw [State.onResult]
  split_ifs with hr
  · exact h.handles_self hstarted hr
  · have hasking := h.asking (Bool.of_not_eq_false hr)
    split
    · have hinv := inv_sendResult (s := { s with isRequesting := false, taken := s.taken ++ [(sub, answer)] })
        hstarted rfl hasking.index hasking.tried hasking.results hasking.session
        (hasking.sublist.trans (List.take_sublist _ _)) ERR_JS_ACCOUNT_AUTHENTICATOR_SERVICE_EXCEPTION
      rcases sendResult_cases { s with isRequesting := false, taken := s.taken ++ [(sub, answer)] }
        ERR_JS_ACCOUNT_AUTHENTICATOR_SERVICE_EXCEPTION with ⟨-, heq⟩ | ⟨-, heq⟩ <;>
      · rw [heq] at hinv ⊢
        exact ⟨hinv, hstarted, fun hr' => (Bool.false_ne_true hr').elim⟩
    · next accountsWithLabels ha => exact hasking.handles_proceed (onAnswer_sublist hasking ha) _

theorem Inv.started_of_handler (h : Inv accounts s) {i : Nat} {h' : Handler} (hi : s.handlers[i]? = some h') :
    s.started = true := by
  cases hs : s.started with
  | true => rfl
  | false =>
      obtain ⟨crashed, rfl⟩ := h.fresh hs
      cases hi

theorem Inv.step (h : Inv accounts s) (e : Event) : Inv accounts (step accounts opens s e) := by
  unfold LabelSelection.step
  by_cases hcrashed : s.crashed = true
  · rw [if_pos hcrashed]
    exact h
  rw [if_neg hcrashed]
  cases e with
  | selectAccountsByOptions opened =>
      dsimp only
      split_ifs with hstarted
      · exact h
      · obtain ⟨crashed, rfl⟩ := h.fresh (Bool.eq_false_iff.mpr hstarted)
        have hready : Ready accounts { crashed, started := true, session := true } :=
          ⟨rfl, rfl, Nat.zero_le _, rfl, rfl, .inl rfl, fun _ hi => (List.not_mem_nil hi).elim,
            fun _ hi => (List.not_mem_nil hi).elim, List.nil_sublist _⟩
        exact hready.inv_checkLabels (Nat.zero_add _)
      · obtain ⟨crashed, rfl⟩ := h.fresh (Bool.eq_false_iff.mpr hstarted)
        exact ⟨⟨h.once, h.sublist, h.tried⟩, fun hr => (Bool.false_ne_true hr).elim,
          fun hs => (Bool.false_ne_true hs).elim, fun _ => ⟨true, rfl⟩⟩
  | arrive sub reply =>
      dsimp only
      split_ifs with hmem
      · have hstarted : s.started = true := by
          cases hs : s.started with
          | true => rfl
          | false =>
              obtain ⟨crashed, rfl⟩ := h.fresh hs
              exact (List.not_mem_nil hmem).elim
        refine h.setHandlers hstarted fun hr h' hh => ?_
        rcases List.mem_append.mp hh with hh | hh
        · exact (h.asking hr).handlers h' hh
        · obtain rfl := List.mem_singleton.mp hh
          exact ⟨(h.asking hr).subs sub hmem, fun hf => (Bool.false_ne_true hf).elim⟩
      · exact h
  | handle i =>
      dsimp only
      split
      · exact h
      · next h' hi =>
          have hstarted := h.started_of_handler hi
          split_ifs
          · exact h
          · split
            · next answer _ =>
                have hhandles : Handles accounts s (s.onResult accounts opens h'.sub answer) :=
                  h.handles_onResult hstarted h'.sub answer
                refine hhandles.inv.setHandlers hhandles.started fun hr h'' hh => ?_
                have hlt : h''.sub < (s.onResult accounts opens h'.sub answer).index := by
                  rcases List.mem_or_eq_of_mem_set hh with hh | rfl
                  · exact hhandles.handlers hr h'' hh
                  · exact hhandles.handlers hr h' (List.mem_of_getElem? hi)
                exact ⟨Nat.le_of_lt hlt, fun _ => hlt⟩
            · have hhandles : Handles accounts s (s.onRequest accounts opens) := h.handles_onRequest hstarted
              refine hhandles.inv.setHandlers hhandles.started fun hr h'' hh => ?_
              have hlt := hhandles.handlers hr h'' (List.mem_of_mem_eraseIdx hh)
              exact ⟨Nat.le_of_lt hlt, fun _ => hlt⟩
  | close i =>
      dsimp only
      split
      · exact h
      · next h' hi =>
          have hstarted := h.started_of_handler hi
          split_ifs with hhandled
          · refine ⟨⟨h.once, h.sublist, h.tried⟩, fun hr => ?_, h.ended, fun hs => ?_⟩
            · have hasking := h.asking hr
              have hlt := (hasking.handlers h' (List.mem_of_getElem? hi)).2 hhandled
              refine ⟨hstarted, hasking.index, hasking.tried, hasking.results, hasking.session, ?_, ?_, ?_,
                hasking.sublist⟩
              · exact List.mem_filter.mpr ⟨hasking.mem, decide_eq_true (Nat.ne_of_gt hlt)⟩
              · exact fun j hj => hasking.subs j (List.mem_of_mem_filter hj)
              · exact fun h'' hh => hasking.handlers h'' (List.mem_of_mem_eraseIdx hh)
            · exact (Bool.false_ne_true (hs.symm.trans hstarted)).elim
          · exact h
  | clientDied =>
      by_cases hs : s.started = true
      · have hdied : (s.started || s.clientDied) = true := by rw [hs, Bool.true_or]
        refine ⟨⟨h.once, h.sublist, h.tried⟩, fun hr => ?_, fun _ _ => ⟨rfl, .inr hdied⟩, fun hf => ?_⟩
        · have hasking := h.asking hr
          exact ⟨hs, hasking.index, hasking.tried, hasking.results, .inr hdied, hasking.mem, hasking.subs,
            hasking.handlers, hasking.sublist⟩
        · exact (Bool.false_ne_true (hf.symm.trans hs)).elim
      · obtain ⟨crashed, rfl⟩ := h.fresh (Bool.eq_false_iff.mpr hs)
        exact h

theorem inv_initial : Inv accounts {} where
  once := Nat.zero_le 1
  sublist _ ho := (List.not_mem_nil ho).elim
  tried := ⟨0, Nat.zero_le _, rfl⟩
  asking hr := (Bool.false_ne_true hr).elim
  ended hs := (Bool.false_ne_true hs).elim
  fresh _ := ⟨false, rfl⟩

end invariants

section exactness

variable {accounts : List AppAccountInfo} {opens : Nat → Bool} {s : State} {taken : List (Nat × Answer)} {n : Nat}

theorem labelled_succ (accounts : List AppAccountInfo) (taken : List (Nat × Answer)) (hlt : n < accounts.length) :
    labelled accounts taken (n + 1) = labelled accounts taken n ++
      if taken.any fun p => decide (p.1 = n ∧ p.2.Matches accounts[n]) then [accounts[n]] else [] := by
  rw [labelled, List.range_succ, List.filterMap_append, List.filterMap_cons, List.filterMap_nil,
    List.getElem?_eq_getElem hlt, Option.filter_some]
  split_ifs <;> rfl

theorem labelled_succ_of_lt (hlt : n < accounts.length) (htaken : ∀ p ∈ taken, p.1 < n) :
    labelled accounts taken (n + 1) = labelled accounts taken n := by
  rw [labelled_succ accounts taken hlt, if_neg, List.append_nil]
  rw [List.any_eq_true]
  rintro ⟨p, hp, hmatch⟩
  exact Nat.ne_of_lt (htaken p hp) (of_decide_eq_true hmatch).1

theorem labelled_append {i : Nat} (hi : n ≤ i) (answer : Answer) :
    labelled accounts (taken ++ [(i, answer)]) n = labelled accounts taken n := by
  refine List.filterMap_congr fun j hj => ?_
  have hne : i ≠ j := Nat.ne_of_gt (Nat.lt_of_lt_of_le (List.mem_range.mp hj) hi)
  refine congrFun (congrArg Option.filter (funext fun account => ?_)) _
  rw [List.any_append]
  simp [hne]

theorem labelled_append_self (hlt : n < accounts.length) (htaken : ∀ p ∈ taken, p.1 < n) (answer : Answer) :
    labelled accounts (taken ++ [(n, answer)]) (n + 1) =
      labelled accounts taken n ++ if answer.Matches accounts[n] then [accounts[n]] else [] := by
  rw [labelled_succ accounts _ hlt, labelled_append (Nat.le_refl n)]
  refine congrArg _ (if_congr ?_ rfl rfl)
  rw [List.any_append, List.any_eq_false.mpr fun p hp hm => ?_, Bool.false_or]
  · simp
  · exact Nat.ne_of_lt (htaken p hp) (of_decide_eq_true hm).1

structure Counted (accounts : List AppAccountInfo) (s : State) : Prop where
  accountsWithLabels : s.accountsWithLabels = labelled accounts s.taken s.index
  taken : ∀ p ∈ s.taken, p.1 < s.index

structure ExactInv (accounts : List AppAccountInfo) (s : State) : Prop where
  counted : s.isRequesting = true → Counted accounts s
  exact : Exact accounts s

theorem Counted.next (h : Counted accounts s) (hlt : s.index < accounts.length) (tried : List Nat) :
    Counted accounts { s with isRequesting := false, index := s.index + 1, tried } :=
  ⟨h.accountsWithLabels.trans (labelled_succ_of_lt hlt h.taken).symm,
    fun p hp => Nat.lt_succ_of_lt (h.taken p hp)⟩

theorem exactInv_sendResult (hr : s.isRequesting = false) (hresults : s.results = []) {resultCode : Int}
    (hcounted : resultCode = ERR_JS_SUCCESS → s.accountsWithLabels = labelled accounts s.taken accounts.length) :
    ExactInv accounts (s.sendResult resultCode) := by
  rcases sendResult_cases s resultCode with ⟨-, heq⟩ | ⟨-, heq⟩
  · rw [heq]
    refine ⟨fun hr' => (Bool.false_ne_true (hr.symm.trans hr')).elim, fun o ho hcode => ?_⟩
    rw [hresults] at ho
    obtain rfl := List.mem_singleton.mp ho
    exact (if_pos hcode).trans (hcounted hcode)
  · rw [heq]
    refine ⟨fun hr' => (Bool.false_ne_true (hr.symm.trans hr')).elim, fun o ho => ?_⟩
    rw [hresults] at ho
    exact (List.not_mem_nil ho).elim

theorem Counted.exactInv_checkLabels (h : Counted accounts s) (hr : s.isRequesting = false) (hresults : s.results = [])
    (hn : s.index + n = accounts.length) : ExactInv accounts (State.checkLabels opens n s) := by
  induction n generalizing s with
  | zero =>
      have hend : s.index = accounts.length := hn
      exact exactInv_sendResult hr hresults fun _ => hend ▸ h.accountsWithLabels
  | succ n ih =>
      rw [State.checkLabels]
      split_ifs
      · exact ⟨fun _ => ⟨h.accountsWithLabels, h.taken⟩, fun o ho => (List.not_mem_nil (hresults ▸ ho)).elim⟩
      · have hlt : s.index < accounts.length := by omega
        exact ih ⟨(h.next hlt s.tried).accountsWithLabels, (h.next hlt s.tried).taken⟩ hr hresults
          (by dsimp only; omega)

theorem ExactInv.onRequest (h : ExactInv accounts s) (hinv : Inv accounts s) :
    ExactInv accounts (s.onRequest accounts opens) := by
  rw [State.onRequest]
  split_ifs with hr
  · exact h
  · have hr' := Bool.of_not_eq_false hr
    have hasking := hinv.asking hr'
    exact ((h.counted hr').next hasking.index s.tried).exactInv_checkLabels rfl hasking.results
      (Nat.add_sub_of_le hasking.index)

theorem ExactInv.onResult (h : ExactInv accounts s) (hinv : Inv accounts s) {sub : Nat} (answer : Answer)
    (hown : s.isRequesting = true → sub = s.index ∨ s.onAnswer accounts answer = none) :
    ExactInv accounts (s.onResult accounts opens sub answer) := by
  rw [State.onResult]
  split_ifs with hr
  · exact h
  · have hr' := Bool.of_not_eq_false hr
    have hasking := hinv.asking hr'
    have hcounted := h.counted hr'
    split
    · exact exactInv_sendResult (s := { s with isRequesting := false, taken := s.taken ++ [(sub, answer)] }) rfl
        hasking.results fun hcode => absurd hcode (by decide)
    · next accountsWithLabels ha =>
        obtain rfl := (hown hr').resolve_right fun hnone => Option.some_ne_none _ (ha.symm.trans hnone)
        have hnext : Counted accounts { s with
            accountsWithLabels, taken := s.taken ++ [(s.index, answer)], isRequesting := false
            index := s.index + 1 } := by
          refine ⟨?_, fun p hp => ?_⟩
          · dsimp only
            rw [onAnswer_eq hasking.index ha, labelled_append_self hasking.index hcounted.taken,
              hcounted.accountsWithLabels]
          · rcases List.mem_append.mp hp with hp | hp
            · exact Nat.lt_succ_of_lt (hcounted.taken p hp)
            · rw [List.mem_singleton.mp hp]
              exact Nat.lt_succ_self s.index
        exact hnext.exactInv_checkLabels rfl hasking.results (Nat.add_sub_of_le hasking.index)

theorem ExactInv.frame (h : ExactInv accounts s) {s' : State} (hr : s'.isRequesting = s.isRequesting)
    (haccounts : s'.accountsWithLabels = s.accountsWithLabels) (hindex : s'.index = s.index)
    (htaken : s'.taken = s.taken) (hresults : s'.results = s.results) : ExactInv accounts s' := by
  refine ⟨fun hr' => ⟨?_, ?_⟩, ?_⟩
  · rw [haccounts, htaken, hindex]
    exact (h.counted (hr ▸ hr')).accountsWithLabels
  · rw [htaken, hindex]
    exact (h.counted (hr ▸ hr')).taken
  · intro o ho
    rw [htaken]
    exact h.exact o (hresults ▸ ho)

theorem OwnAnswer.own {i : Nat} (hown : OwnAnswer s (.handle i)) {h : Handler} (hi : s.handlers[i]? = some h)
    (hhandled : h.handled = false) {answer : Answer} (ha : h.reply.answer? = some answer)
    (hlt : s.isRequesting = true → s.index < accounts.length) (hr : s.isRequesting = true) :
    h.sub = s.index ∨ s.onAnswer accounts answer = none := by
  have hfailed : s.onAnswer accounts { resultCode := ERR_JS_ACCOUNT_AUTHENTICATOR_SERVICE_EXCEPTION } = none := by
    rw [State.onAnswer]
    dsimp only
    rw [if_neg, if_pos (by decide)]
    rintro (hcode | hle)
    · exact absurd hcode (by decide)
    · exact absurd (hlt hr) (Nat.not_lt_of_le hle)
  cases hreply : h.reply with
  | result answer' => exact .inl (hown h hi hhandled ⟨answer', hreply⟩ hr)
  | requestRedirected toOwner =>
      rw [hreply] at ha
      cases toOwner with
      | false =>
          obtain rfl := Option.some.inj ha
          exact .inr hfailed
      | true => cases ha
  | requestContinued =>
      rw [hreply] at ha
      cases ha
  | serverDied =>
      rw [hreply] at ha
      obtain rfl := Option.some.inj ha
      exact .inr hfailed

theorem ExactInv.step (h : ExactInv accounts s) (hinv : Inv accounts s) {e : Event} (hown : OwnAnswer s e) :
    ExactInv accounts (step accounts opens s e) := by
  unfold LabelSelection.step
  by_cases hcrashed : s.crashed = true
  · rw [if_pos hcrashed]
    exact h
  rw [if_neg hcrashed]
  cases e with
  | selectAccountsByOptions opened =>
      dsimp only
      split_ifs with hstarted
      · exact h
      · obtain ⟨crashed, rfl⟩ := hinv.fresh (Bool.eq_false_iff.mpr hstarted)
        have hcounted : Counted accounts { crashed, started := true, session := true } :=
          ⟨rfl, fun _ hp => (List.not_mem_nil hp).elim⟩
        exact hcounted.exactInv_checkLabels rfl rfl (Nat.zero_add _)
      · exact h.frame rfl rfl rfl rfl rfl
  | arrive sub reply =>
      dsimp only
      split_ifs
      · exact h.frame rfl rfl rfl rfl rfl
      · exact h
  | handle i =>
      dsimp only
      split
      · exact h
      · next h' hi =>
          split_ifs with hhandled
          · exact h
          · split
            · next answer ha =>
                have hresult : ExactInv accounts (s.onResult accounts opens h'.sub answer) :=
                  h.onResult hinv answer
                    (hown.own hi (Bool.eq_false_iff.mpr hhandled) ha fun hr => (hinv.asking hr).index)
                exact hresult.frame rfl rfl rfl rfl rfl
            · have hrequest : ExactInv accounts (s.onRequest accounts opens) := h.onRequest hinv
              exact hrequest.frame rfl rfl rfl rfl rfl
  | close i =>
      dsimp only
      split
      · exact h
      · split_ifs
        · exact h.frame rfl rfl rfl rfl rfl
        · exact h
  | clientDied => exact h.frame rfl rfl rfl rfl rfl

theorem exactInv_initial : ExactInv accounts {} :=
  ⟨fun hr => (Bool.false_ne_true hr).elim, fun _ ho => (List.not_mem_nil ho).elim⟩

end exactness

section runs

variable (accounts : List AppAccountInfo) (opens : Nat → Bool)

theorem inv_run (events : List Event) : Inv accounts (run (step accounts opens) {} events) :=
  run_invariant (fun _ e h => h.step e) inv_initial events

/-- Every run of a request asks the candidates in order, calls the client at most once, and with exactly those
whose own authenticators have said so if the answers are taken from the sessions of the candidates being asked; where
no session of a candidate is open, the client has been called or has died. -/
theorem selects_run (events : List Event) :
    Selects accounts (run (step accounts opens) {} events) ∧
      (Meets (step accounts opens) OwnAnswer {} events → Exact accounts (run (step accounts opens) {} events)) ∧
        ((run (step accounts opens) {} events).clientDied = false → Done (run (step accounts opens) {} events)) := by
  have hinv := inv_run accounts opens events
  refine ⟨hinv.toSelects, fun hmeets => ?_, fun hlives hstarted hsubs => ?_⟩
  · have hstep (s : State) (e : Event) (h : Inv accounts s ∧ ExactInv accounts s) (hown : OwnAnswer s e) :
        Inv accounts (step accounts opens s e) ∧ ExactInv accounts (step accounts opens s e) :=
      ⟨h.1.step e, h.2.step h.1 hown⟩
    exact (run_invariant_of_meets hstep ⟨inv_initial, exactInv_initial⟩ hmeets).2.exact
  · exact (hinv.done hstarted hsubs).resolve_right fun hdied => Bool.false_ne_true (hlives.symm.trans hdied)

/-- A candidate has the labels and says so, but the client has died. -/
theorem not_done_clientDied :
    ¬∀ (accounts : List AppAccountInfo) (opens : Nat → Bool) (events : List Event),
      Selects accounts (run (step accounts opens) {} events) ∧ Exact accounts (run (step accounts opens) {} events) ∧
        Done (run (step accounts opens) {} events) := by
  intro h
  have hdone := (h [⟨"com.example", "alice"⟩] (fun _ => true)
    [.selectAccountsByOptions true, .clientDied,
        .arrive 0 (.result { resultCode := 0, booleanResult := some true }),
      .handle 0, .close 0]).2.2
  exact hdone (by decide) (by decide) (by decide)

/-- The first candidate says that it has the labels and the second that it has not. -/
theorem exact_two :
    Exact [⟨"com.a", "alice"⟩, ⟨"com.b", "bob"⟩] (run (step [⟨"com.a", "alice"⟩, ⟨"com.b", "bob"⟩] fun _ => true) {}
      [.selectAccountsByOptions true, .arrive 0 (.result { resultCode := 0, booleanResult := some true }), .handle 0,
        .arrive 1 (.result { resultCode := 12300003 }), .handle 1]) := by
  refine (selects_run _ _ _).2.1 ⟨trivial, trivial, ?_, trivial, ?_, trivial⟩
  · rintro h hh - - -
    obtain rfl := Option.some.inj hh
    rfl
  · rintro h hh - - -
    obtain rfl := Option.some.inj hh
    rfl

end runs

end OsAccount.LabelSelection
