import OsAccount.Machine
import OsAccount.OrderedMap
import Mathlib.Data.List.Perm.Basic
import Mathlib.Logic.Function.Basic

namespace OsAccount.DomainAuthentication

open Std Machine OrderedMap

inductive DomainAccountStatus
  | loginBackground
  | login
  deriving DecidableEq

/-- How a plugin replies: the registered one to the callback object that it was given, the native one with the
id that it has chosen, and not at all if it has refused. -/
inductive Origin
  | registered
  | native (contextId : UInt64)
  | refused

/-- An `InnerDomainAuthCallback` with the client's callback object. -/
structure Authentication (Client : Type) where
  userId : Int
  callback : Client
  origin : Origin

/-- A result for a client: a reply, with whether the account is active where it is dealt with, the refusal of the
native plugin, or a cancellation. -/
inductive Result (Token : Type)
  | replied (ok : Bool) (token : Token) (isActivated : Bool)
  | refused
  | cancelled

/-- A result on its way to the client of an authentication, with the authentication that it comes from. -/
structure Delivery (Token : Type) where
  auth : Nat
  source : Nat
  result : Result Token

/-- What an authentication has come to: its client has been called back, or it has stored a token and changed the
status of its account. -/
inductive Record
  | called (auth source : Nat) (cancelled : Bool)
  | stored (auth : Nat)
  deriving DecidableEq

/-- The authentications by their number, the map of the contexts, the results on their way and what has become
of them, the latest first. -/
structure State (Client Token : Type) where
  hasPlugin : Bool
  contextIdCount : UInt64 := 0
  authContextIdMap : ExtTreeMap UInt64 Nat compare := ∅
  auths : List (Authentication Client) := []
  deliveries : List (Delivery Token) := []
  userTokenMap : Int → Option Token := fun _ => none
  status : Int → Option DomainAccountStatus := fun _ => none
  log : List Record := []

/-- `InnerAuth` has what the native plugin answers, should it be asked. -/
inductive Event (Client Token : Type)
  | setPlugin (hasPlugin : Bool)
  | innerAuth (userId : Int) (callback : Client) (answer : Option UInt64)
  | reply (auth : Nat) (ok : Bool) (token : Token) (isActivated : Bool)
  | deliver (index : Nat)
  | cancelAuth (callback : Client)
  | cancelAuthById (contextId : UInt64)

variable {Client Token : Type}

def searchContextId (contexts : ExtTreeMap UInt64 Nat compare) : Nat → UInt64 → Option UInt64
  | 0, _ => none
  | fuel + 1, id => if id ∈ contexts then searchContextId contexts fuel (id + 1) else some id

namespace State

variable (s : State Client Token)

def generateContextId : UInt64 × Option UInt64 :=
  if s.contextIdCount + 1 ∉ s.authContextIdMap then (s.contextIdCount + 1, some (s.contextIdCount + 1))
  else
    match searchContextId s.authContextIdMap (UInt64.size - 2) 1 with
    | none => (s.contextIdCount + 1, none)
    | some contextId => (contextId, some contextId)

def call (d : Delivery Token) : State Client Token :=
  { s with log := .called d.auth d.source (d.result matches .cancelled) :: s.log }

def store (auth : Nat) (userId : Int) (token : Token) (isActivated : Bool) : State Client Token :=
  { s with
    userTokenMap := Function.update s.userTokenMap userId (some token)
    status := Function.update s.status userId (some (if isActivated then .login else .loginBackground))
    log := .stored auth :: s.log }

def finish (d : Delivery Token) : State Client Token :=
  match s.auths[d.auth]?, d.result with
  | some a, .replied true token isActivated =>
      if 0 < a.userId then (s.store d.auth a.userId token isActivated).call d else s.call d
  | _, _ => s.call d

def begin (a : Authentication Client) (contextId : UInt64) : State Client Token :=
  { s with auths := s.auths ++ [a], authContextIdMap := s.authContextIdMap.insert contextId s.auths.length }

def refuse (a : Authentication Client) : State Client Token :=
  finish { s with auths := s.auths ++ [a] } { auth := s.auths.length, source := s.auths.length, result := .refused }

def innerAuth (userId : Int) (callback : Client) (answer : Option UInt64) : State Client Token :=
  if s.hasPlugin = true then
    match s.generateContextId with
    | (contextIdCount, none) => { s with contextIdCount }
    | (contextIdCount, some contextId) =>
        { s with contextIdCount }.begin { userId, callback, origin := .registered } contextId
  else
    match answer with
    | none =>
        s.refuse { userId, callback, origin := .refused }
    | some contextId =>
        if contextId ∈ s.authContextIdMap then s
        else s.begin { userId, callback, origin := .native contextId } contextId

variable [DecidableEq Client]

def findCallbackInContextMap (callback : Client) : Option UInt64 :=
  (s.authContextIdMap.toList.find? fun p =>
    decide ((s.auths[p.2]?.map fun a => a.callback) = some callback)).map fun p => p.1

def eraseContext (d : Delivery Token) : Option (State Client Token) :=
  match s.auths[d.auth]? with
  | none => none
  | some a =>
      (s.findCallbackInContextMap a.callback).map fun contextId =>
        { s with authContextIdMap := s.authContextIdMap.erase contextId }

def onResult (d : Delivery Token) : State Client Token :=
  match s.eraseContext d with
  | none => s
  | some s => s.finish d

/-- `OnResult` of the registered plugin, which calls the client after it has given up the lock. -/
def onResultFromPlugin (d : Delivery Token) : State Client Token :=
  match s.eraseContext d with
  | none => s
  | some s => { s with deliveries := d :: s.deliveries }

def cancelAuthWork (contextId : UInt64) : State Client Token :=
  if s.hasPlugin = true then
    match s.authContextIdMap[contextId]? with
    | none => s
    | some auth => s.onResult { auth, source := auth, result := .cancelled }
  else s

end State

section steps

variable [DecidableEq Client]

def step (s : State Client Token) : Event Client Token → State Client Token
  | .setPlugin hasPlugin => { s with hasPlugin }
  | .innerAuth userId callback answer => s.innerAuth userId callback answer
  | .reply source ok token isActivated =>
      match s.auths[source]?.map Authentication.origin with
      | some .registered => 
          s.onResultFromPlugin { auth := source, source, result := .replied ok token isActivated }
      | some (.native contextId) =>
          match s.authContextIdMap[contextId]? with
          | none => s
          | some auth => s.onResult { auth, source, result := .replied ok token isActivated }
      | _ => s
  | .deliver index =>
      match s.deliveries[index]? with
      | none => s
      | some d => { s with deliveries := s.deliveries.eraseIdx index }.finish d
  | .cancelAuth callback =>
      match s.findCallbackInContextMap callback with
      | none => s
      | some contextId => s.cancelAuthWork contextId
  | .cancelAuthById contextId => s.cancelAuthWork contextId

def initial (hasPlugin : Bool) : State Client Token := { hasPlugin }

def Called (s : State Client Token) (auth : Nat) : Prop :=
  ∃ source cancelled, Record.called auth source cancelled ∈ s.log

def Finished (s : State Client Token) (auth : Nat) : Prop := Called s auth ∨ ∃ d ∈ s.deliveries, d.auth = auth

def isCall (auth : Nat) : Record → Bool
  | .called auth' _ _ => auth' = auth
  | .stored _ => false

/-- Every client is called back at most once for an authentication, with its own result, the map holds the
authentications that are not finished, each under one id, and what is cancelled stores nothing any more. -/
structure Sound (s : State Client Token) : Prop where
  once : ∀ auth, s.log.countP (isCall auth) ≤ 1
  own : ∀ auth source cancelled, Record.called auth source cancelled ∈ s.log → source = auth
  contexts : ∀ auth, (∃ contextId : UInt64, s.authContextIdMap[contextId]? = some auth) ↔
    auth < s.auths.length ∧ ¬Finished s auth
  injective : ∀ (contextId contextId' : UInt64) auth, s.authContextIdMap[contextId]? = some auth →
    s.authContextIdMap[contextId']? = some auth → contextId = contextId'
  silent : s.log.Pairwise fun later earlier => ∀ auth source, earlier = .called auth source true → later ≠ .stored auth

/-- The first context with the callback object of the client is that of the authentication. -/
def First (s : State Client Token) (auth : Nat) : Prop :=
  ∀ a, s.auths[auth]? = some a → ∀ contextId, s.findCallbackInContextMap a.callback = some contextId →
    s.authContextIdMap[contextId]? = some auth

def FindsItsOwn (s : State Client Token) : Event Client Token → Prop
  | .reply source _ _ _ =>
      match s.auths[source]?.map Authentication.origin with
      | some .registered => First s source
      | some (.native contextId) => ∀ auth, s.authContextIdMap[contextId]? = some auth → auth = source ∧ First s auth
      | _ => True
  | .cancelAuthById contextId => s.hasPlugin = true → ∀ auth, s.authContextIdMap[contextId]? = some auth → First s auth
  | _ => True

end steps

section results

variable {s t : State Client Token} {auth : Nat} {d : Delivery Token}

structure Logged (s : State Client Token) : Prop where
  once : ∀ auth, s.log.countP (isCall auth) ≤ 1
  own : ∀ auth source cancelled, Record.called auth source cancelled ∈ s.log → source = auth
  silent : s.log.Pairwise fun later earlier => ∀ auth source, earlier = .called auth source true → later ≠ .stored auth
  results : (s.deliveries.map Delivery.auth).Nodup
  fresh : ∀ d ∈ s.deliveries, ¬Called s d.auth
  source : ∀ d ∈ s.deliveries, d.source = d.auth
  begun : ∀ auth, Finished s auth → auth < s.auths.length

structure Mapped (s : State Client Token) : Prop where
  contexts : ∀ auth, (∃ contextId : UInt64, s.authContextIdMap[contextId]? = some auth) ↔
    auth < s.auths.length ∧ ¬Finished s auth
  injective : ∀ (contextId contextId' : UInt64) auth, s.authContextIdMap[contextId]? = some auth →
    s.authContextIdMap[contextId']? = some auth → contextId = contextId'

theorem countP_eq_zero_of_not_called (h : ¬Called s auth) : s.log.countP (isCall auth) = 0 := by
  rw [List.countP_eq_zero]
  intro r hr hcall
  cases r with
  | called auth' source cancelled =>
      obtain rfl : auth' = auth := of_decide_eq_true hcall
      exact h ⟨source, cancelled, hr⟩
  | stored auth' => exact Bool.false_ne_true hcall

theorem called_store (userId : Int) (token : Token) (isActivated : Bool) {auth' : Nat} :
    Called (s.store auth userId token isActivated) auth' ↔ Called s auth' := by
  constructor
  · rintro ⟨source, cancelled, h⟩
    exact ⟨source, cancelled, (List.mem_cons.mp h).resolve_left (fun he => by cases he)⟩
  · rintro ⟨source, cancelled, h⟩
    exact ⟨source, cancelled, List.mem_cons_of_mem _ h⟩

theorem called_call {auth' : Nat} : Called (s.call d) auth' ↔ Called s auth' ∨ auth' = d.auth := by
  constructor
  · rintro ⟨source, cancelled, h⟩
    rcases List.mem_cons.mp h with he | h
    · cases he
      exact .inr rfl
    · exact .inl ⟨source, cancelled, h⟩
  · rintro (⟨source, cancelled, h⟩ | rfl)
    · exact ⟨source, cancelled, List.mem_cons_of_mem _ h⟩
    · exact ⟨d.source, _, List.mem_cons_self⟩

theorem finished_call {auth' : Nat} : Finished (s.call d) auth' ↔ Finished s auth' ∨ auth' = d.auth := by
  rw [Finished, called_call, Finished, or_right_comm]
  exact Iff.rfl

theorem Logged.store (h : Logged s) (hnot : ¬Called s auth) (userId : Int) (token : Token) (isActivated : Bool) :
    Logged (s.store auth userId token isActivated) where
  once auth' := by
    have hsame : (s.store auth userId token isActivated).log.countP (isCall auth') =
        s.log.countP (isCall auth') :=
      List.countP_cons_of_neg Bool.false_ne_true
    rw [hsame]
    exact h.once auth'
  own auth' source cancelled hr :=
    h.own auth' source cancelled ((List.mem_cons.mp hr).resolve_left fun he => by cases he)
  silent := by
    refine List.pairwise_cons.mpr ⟨fun r hr auth' source hcall hstored => ?_, h.silent⟩
    cases hstored
    exact hnot ⟨source, true, hcall ▸ hr⟩
  results := h.results
  fresh d hd := fun hcalled => h.fresh d hd ((called_store userId token isActivated).mp hcalled)
  source := h.source
  begun auth' hfinished := h.begun auth' (hfinished.imp_left (called_store userId token isActivated).mp)

theorem Logged.call (h : Logged s) (hnot : ¬Finished s d.auth) (hbegun : d.auth < s.auths.length)
    (hsource : d.source = d.auth) : Logged (s.call d) where
  once auth := by
    have hcons : (s.call d).log.countP (isCall auth) =
        s.log.countP (isCall auth) +
          if isCall auth (.called d.auth d.source (d.result matches .cancelled)) then 1 else 0 :=
      List.countP_cons
    rw [hcons]
    cases hcall : isCall auth (.called d.auth d.source (d.result matches .cancelled)) with
    | true =>
        obtain rfl : d.auth = auth := of_decide_eq_true hcall
        rw [countP_eq_zero_of_not_called fun hc => hnot (.inl hc)]
        exact Nat.le_refl 1
    | false => exact h.once auth
  own auth source cancelled hr := by
    rcases List.mem_cons.mp hr with he | hr
    · cases he
      exact hsource
    · exact h.own auth source cancelled hr
  silent := List.pairwise_cons.mpr ⟨fun _ _ _ _ _ hstored => (by cases hstored), h.silent⟩
  results := h.results
  fresh d' hd' hcalled := by
    rcases called_call.mp hcalled with hc | he
    · exact h.fresh d' hd' hc
    · exact hnot (.inr ⟨d', hd', he⟩)
  source := h.source
  begun auth hfinished := by
    rcases finished_call.mp hfinished with hf | rfl
    · exact h.begun auth hf
    · exact hbegun

theorem finish_cases (s : State Client Token) (d : Delivery Token) :
    s.finish d = s.call d ∨
      ∃ userId token isActivated, s.finish d = (s.store d.auth userId token isActivated).call d := by
  rw [State.finish]
  split
  · split_ifs
    · exact .inr ⟨_, _, _, rfl⟩
    · exact .inl rfl
  · exact .inl rfl

theorem finished_finish {auth' : Nat} : Finished (s.finish d) auth' ↔ Finished s auth' ∨ auth' = d.auth := by
  rcases finish_cases s d with h | ⟨userId, token, isActivated, h⟩
  · rw [h]
    exact finished_call
  · rw [h, finished_call, Finished, called_store]
    exact Iff.rfl

theorem Logged.finish (h : Logged s) (hnot : ¬Finished s d.auth) (hbegun : d.auth < s.auths.length)
    (hsource : d.source = d.auth) : Logged (s.finish d) := by
  rcases finish_cases s d with heq | ⟨userId, token, isActivated, heq⟩
  · rw [heq]
    exact h.call hnot hbegun hsource
  · rw [heq]
    refine (h.store (fun hc => hnot (.inl hc)) userId token isActivated).call
      (fun hf => hnot ?_) hbegun hsource
    exact hf.imp_left (called_store userId token isActivated).mp

theorem Logged.queue (h : Logged s) (hnot : ¬Finished s d.auth) (hbegun : d.auth < s.auths.length)
    (hsource : d.source = d.auth) : Logged { s with deliveries := d :: s.deliveries } where
  once := h.once
  own := h.own
  silent := h.silent
  results := List.nodup_cons.mpr ⟨fun hmem => hnot (.inr (List.mem_map.mp hmem)), h.results⟩
  fresh := List.forall_mem_cons.mpr ⟨fun hc => hnot (.inl hc), h.fresh⟩
  source := List.forall_mem_cons.mpr ⟨hsource, h.source⟩
  begun auth hfinished := by
    rcases hfinished with hc | ⟨d', hd', rfl⟩
    · exact h.begun auth (.inl hc)
    · rcases List.mem_cons.mp hd' with rfl | hd'
      · exact hbegun
      · exact h.begun d'.auth (.inr ⟨d', hd', rfl⟩)

theorem finished_queue {auth' : Nat} :
    Finished { s with deliveries := d :: s.deliveries } auth' ↔ Finished s auth' ∨ auth' = d.auth := by
  rw [Finished, Finished, or_assoc]
  refine or_congr Iff.rfl ?_
  rw [List.exists_mem_cons_iff, or_comm]
  exact or_congr_right eq_comm

theorem Logged.dequeue (h : Logged s) {index : Nat} (hd : s.deliveries[index]? = some d) :
    Logged { s with deliveries := s.deliveries.eraseIdx index } ∧
      ¬Finished { s with deliveries := s.deliveries.eraseIdx index } d.auth := by
  obtain ⟨hindex, hget⟩ := List.getElem?_eq_some_iff.mp hd
  have hsub : (s.deliveries.eraseIdx index).Sublist s.deliveries := List.eraseIdx_sublist ..
  have hperm : (s.deliveries[index] :: s.deliveries.eraseIdx index).Perm s.deliveries :=
    List.getElem_cons_eraseIdx_perm hindex
  rw [hget] at hperm
  have hnodup : (d.auth :: (s.deliveries.eraseIdx index).map Delivery.auth).Nodup :=
    (hperm.map Delivery.auth).nodup_iff.mpr h.results
  constructor
  · exact ⟨h.once, h.own, h.silent, h.results.sublist (hsub.map Delivery.auth),
      fun d' hd' => h.fresh d' (hsub.mem hd'),
      fun d' hd' => h.source d' (hsub.mem hd'), fun auth hf =>
        h.begun auth (hf.imp_right fun ⟨d', hd', he⟩ => ⟨d', hsub.mem hd', he⟩)⟩
  · rintro (hc | ⟨d', hd', he⟩)
    · exact h.fresh d (List.mem_of_getElem? hd) hc
    · exact (List.nodup_cons.mp hnodup).1 (List.mem_map.mpr ⟨d', hd', he⟩)

theorem finished_dequeue {index auth' : Nat} (hd : s.deliveries[index]? = some d) :
    Finished { s with deliveries := s.deliveries.eraseIdx index } auth' ∨ auth' = d.auth ↔ Finished s auth' := by
  obtain ⟨hindex, hget⟩ := List.getElem?_eq_some_iff.mp hd
  have hperm : (s.deliveries[index] :: s.deliveries.eraseIdx index).Perm s.deliveries :=
    List.getElem_cons_eraseIdx_perm hindex
  rw [hget] at hperm
  rw [Finished, Finished, or_assoc]
  refine or_congr Iff.rfl ?_
  constructor
  · rintro (⟨d', hd', he⟩ | rfl)
    · exact ⟨d', List.mem_of_mem_eraseIdx hd', he⟩
    · exact ⟨d, List.mem_of_getElem? hd, rfl⟩
  · rintro ⟨d', hd', rfl⟩
    rcases List.mem_cons.mp (hperm.mem_iff.mpr hd') with rfl | hd'
    · exact .inr rfl
    · exact .inl ⟨d', hd', rfl⟩

theorem Mapped.congr (h : Mapped s) (hmap : t.authContextIdMap = s.authContextIdMap)
    (hauths : t.auths.length = s.auths.length) (hfinished : ∀ auth, Finished t auth ↔ Finished s auth) : Mapped t := by
  constructor
  · intro auth
    rw [hmap, hauths, hfinished]
    exact h.contexts auth
  · rw [hmap]
    exact h.injective

theorem Mapped.erase (h : Mapped s) {contextId : UInt64} (hget : s.authContextIdMap[contextId]? = some auth)
    (hmap : t.authContextIdMap = s.authContextIdMap.erase contextId) (hauths : t.auths.length = s.auths.length)
    (hfinished : ∀ auth', Finished t auth' ↔ Finished s auth' ∨ auth' = auth) : Mapped t := by
  constructor
  · intro auth'
    rw [hmap, hauths, hfinished, not_or, ← and_assoc, ← h.contexts auth']
    constructor
    · rintro ⟨contextId', hget'⟩
      rw [getElem?_erase_eq] at hget'
      split_ifs at hget' with hne
      refine ⟨⟨contextId', hget'⟩, ?_⟩
      rintro rfl
      exact hne (h.injective contextId contextId' auth' hget hget')
    · rintro ⟨⟨contextId', hget'⟩, hne⟩
      refine ⟨contextId', ?_⟩
      rw [getElem?_erase_eq, if_neg ?_]
      · exact hget'
      · rintro rfl
        exact hne (Option.some.inj (hget'.symm.trans hget))
  · intro contextId₁ contextId₂ auth' h₁ h₂
    rw [hmap, getElem?_erase_eq] at h₁ h₂
    split_ifs at h₁ h₂
    exact h.injective contextId₁ contextId₂ auth' h₁ h₂

theorem Mapped.not_erase (h : Mapped s) {contextId : UInt64} {other : Nat}
    (hget : s.authContextIdMap[contextId]? = some other) (hne : other ≠ auth)
    (hmap : t.authContextIdMap = s.authContextIdMap.erase contextId) (hauths : t.auths.length = s.auths.length)
    (hfinished : ∀ auth', Finished t auth' ↔ Finished s auth' ∨ auth' = auth) : ¬Sound t := by
  intro ht
  obtain ⟨hbegun, hnot⟩ := (h.contexts other).mp ⟨contextId, hget⟩
  obtain ⟨contextId', hget'⟩ := (ht.contexts other).mpr
    ⟨hauths ▸ hbegun, fun hf => ((hfinished other).mp hf).elim hnot hne⟩
  rw [hmap, getElem?_erase_eq] at hget'
  split_ifs at hget' with hsame
  exact hsame (h.injective contextId contextId' other hget hget')

structure Inv (s : State Client Token) : Prop extends Logged s, Mapped s

theorem Inv.sound (h : Inv s) : Sound s := ⟨h.once, h.own, h.contexts, h.injective, h.silent⟩

theorem Inv.lt_length (h : Inv s) {contextId : UInt64} (hget : s.authContextIdMap[contextId]? = some auth) :
    auth < s.auths.length := ((h.contexts auth).mp ⟨contextId, hget⟩).1

theorem Inv.not_finished (h : Inv s) {contextId : UInt64} (hget : s.authContextIdMap[contextId]? = some auth) :
    ¬Finished s auth := ((h.contexts auth).mp ⟨contextId, hget⟩).2

theorem finish_frame (s : State Client Token) (d : Delivery Token) :
    (s.finish d).auths = s.auths ∧ (s.finish d).authContextIdMap = s.authContextIdMap := by
  rcases finish_cases s d with h | ⟨userId, token, isActivated, h⟩ <;> rw [h] <;> exact ⟨rfl, rfl⟩

theorem Inv.deliver (h : Inv s) {index : Nat} (hd : s.deliveries[index]? = some d) :
    Inv (State.finish { s with deliveries := s.deliveries.eraseIdx index } d) := by
  obtain ⟨hlogged, hnot⟩ := h.toLogged.dequeue hd
  have hmem := List.mem_of_getElem? hd
  obtain ⟨hauths, hmap⟩ := finish_frame { s with deliveries := s.deliveries.eraseIdx index } d
  refine ⟨hlogged.finish hnot (h.begun d.auth (.inr ⟨d, hmem, rfl⟩)) (h.source d hmem),
    h.toMapped.congr hmap ?_ ?_⟩
  · rw [hauths]
  · exact fun auth' => finished_finish.trans (finished_dequeue hd)

theorem Inv.begin (h : Inv s) (a : Authentication Client) {contextId : UInt64} (hfree : contextId ∉ s.authContextIdMap)
    (contextIdCount : UInt64) : Inv (State.begin { s with contextIdCount } a contextId) := by
  have hlength : (s.auths ++ [a]).length = s.auths.length + 1 := List.length_append
  have hnew : ¬Finished s s.auths.length := fun hf => Nat.lt_irrefl _ (h.begun _ hf)
  have hget : ∀ contextId' auth', (s.authContextIdMap.insert contextId s.auths.length)[contextId']? = some auth' ↔
      contextId' = contextId ∧ auth' = s.auths.length ∨ s.authContextIdMap[contextId']? = some auth' := by
    intro contextId' auth'
    rw [getElem?_insert_eq]
    split_ifs with hsame
    · subst hsame
      rw [Option.some_inj, eq_comm, ExtTreeMap.getElem?_eq_none hfree]
      simp
    · simp [Ne.symm hsame]
  refine ⟨⟨h.once, h.own, h.silent, h.results, h.fresh, h.source, fun auth' hf => ?_⟩, fun auth' => ?_, ?_⟩
  · exact Nat.lt_of_lt_of_le (h.begun auth' hf) (hlength ▸ Nat.le_succ _)
  · change (∃ contextId', (s.authContextIdMap.insert contextId s.auths.length)[contextId']? = some auth') ↔
      auth' < (s.auths ++ [a]).length ∧ ¬Finished s auth'
    rw [hlength, Nat.lt_succ_iff_lt_or_eq, or_and_right, ← h.contexts auth']
    constructor
    · rintro ⟨contextId', hc⟩
      rcases (hget contextId' auth').mp hc with ⟨-, rfl⟩ | hc
      · exact .inr ⟨rfl, hnew⟩
      · exact .inl ⟨contextId', hc⟩
    · rintro (⟨contextId', hc⟩ | ⟨rfl, -⟩)
      · exact ⟨contextId', (hget contextId' auth').mpr (.inr hc)⟩
      · exact ⟨contextId, (hget contextId _).mpr (.inl ⟨rfl, rfl⟩)⟩
  · intro contextId₁ contextId₂ auth' h₁ h₂
    rcases (hget contextId₁ auth').mp h₁ with ⟨rfl, rfl⟩ | hold₁
    · rcases (hget contextId₂ _).mp h₂ with ⟨rfl, -⟩ | hold₂
      · rfl
      · exact (Nat.lt_irrefl _ (h.lt_length hold₂)).elim
    · rcases (hget contextId₂ auth').mp h₂ with ⟨-, rfl⟩ | hold₂
      · exact (Nat.lt_irrefl _ (h.lt_length hold₁)).elim
      · exact h.injective contextId₁ contextId₂ auth' hold₁ hold₂

theorem Inv.refuse (h : Inv s) (a : Authentication Client) : Inv (s.refuse a) := by
  have hlength : (s.auths ++ [a]).length = s.auths.length + 1 := List.length_append
  have hnew : ¬Finished s s.auths.length := fun hf => Nat.lt_irrefl _ (h.begun _ hf)
  have hlogged : Logged { s with auths := s.auths ++ [a] } :=
    ⟨h.once, h.own, h.silent, h.results, h.fresh, h.source,
    fun auth' hf => Nat.lt_of_lt_of_le (h.begun auth' hf) (hlength ▸ Nat.le_succ _)⟩
  obtain ⟨hauths, hmap⟩ := finish_frame { s with auths := s.auths ++ [a] }
    { auth := s.auths.length, source := s.auths.length, result := .refused }
  refine ⟨hlogged.finish hnew (hlength ▸ Nat.lt_succ_self _) rfl, fun auth' => ?_, ?_⟩
  · rw [State.refuse, hmap, hauths, hlength, finished_finish, not_or, h.contexts auth']
    change auth' < s.auths.length ∧ ¬Finished s auth' ↔
      auth' < s.auths.length + 1 ∧ ¬Finished s auth' ∧ ¬auth' = s.auths.length
    constructor
    · exact fun ⟨hlt, hnot⟩ => ⟨Nat.lt_succ_of_lt hlt, hnot, Nat.ne_of_lt hlt⟩
    · exact fun ⟨hle, hnot, hne⟩ => ⟨Nat.lt_of_le_of_ne (Nat.lt_succ_iff.mp hle) hne, hnot⟩
  · rw [State.refuse, hmap]
    exact h.injective

theorem searchContextId_not_mem {contexts : ExtTreeMap UInt64 Nat compare} {fuel : Nat} {start id : UInt64}
    (h : searchContextId contexts fuel start = some id) : id ∉ contexts := by
  induction fuel generalizing start with
  | zero => cases h
  | succ fuel ih =>
      rw [searchContextId] at h
      split_ifs at h with hmem
      · exact ih h
      · cases h
        exact hmem

theorem generateContextId_not_mem {id : UInt64} (h : s.generateContextId.2 = some id) : id ∉ s.authContextIdMap := by
  by_cases hfree : s.contextIdCount + 1 ∉ s.authContextIdMap
  · rw [State.generateContextId, if_pos hfree] at h
    cases h
    exact hfree
  · rw [State.generateContextId, if_neg hfree] at h
    cases hsearch : searchContextId s.authContextIdMap (UInt64.size - 2) 1 with
    | none =>
        rw [hsearch] at h
        cases h
    | some contextId =>
        rw [hsearch] at h
        cases h
        exact searchContextId_not_mem hsearch

theorem Inv.innerAuth (h : Inv s) (userId : Int) (callback : Client) (answer : Option UInt64) :
    Inv (s.innerAuth userId callback answer) := by
  unfold State.innerAuth
  split_ifs
  · split
    · exact ⟨⟨h.once, h.own, h.silent, h.results, h.fresh, h.source, h.begun⟩, h.contexts, h.injective⟩
    · next hgenerate => exact h.begin _ (generateContextId_not_mem (congrArg Prod.snd hgenerate)) _
  · split
    · exact h.refuse _
    · split_ifs with hused
      · exact h
      · exact h.begin _ hused s.contextIdCount

theorem inv_initial (hasPlugin : Bool) : Inv (initial hasPlugin : State Client Token) where
  once _ := Nat.zero_le 1
  own _ _ _ hr := (List.not_mem_nil hr).elim
  silent := List.Pairwise.nil
  results := List.nodup_nil
  fresh _ hd := (List.not_mem_nil hd).elim
  source _ hd := (List.not_mem_nil hd).elim
  begun _ hf := hf.elim (fun ⟨_, _, hr⟩ => (List.not_mem_nil hr).elim) fun ⟨_, hd, _⟩ => (List.not_mem_nil hd).elim
  contexts auth := iff_of_false (fun ⟨_, hget⟩ => by simp [initial] at hget) fun hlt => Nat.not_lt_zero auth hlt.1
  injective _ _ _ hget := by simp [initial] at hget

end results

section searches

variable [DecidableEq Client] {s : State Client Token} {auth : Nat} {d : Delivery Token} {contextId : UInt64}

theorem exists_of_findCallbackInContextMap {callback : Client}
    (h : s.findCallbackInContextMap callback = some contextId) :
    ∃ auth a, s.authContextIdMap[contextId]? = some auth ∧ s.auths[auth]? = some a ∧ a.callback = callback := by
  obtain ⟨⟨contextId', auth⟩, hfind, rfl⟩ := Option.map_eq_some_iff.mp h
  have hget := ExtTreeMap.mem_toList_iff_getElem?_eq_some.mp (List.mem_of_find?_eq_some hfind)
  have hmap := List.find?_some hfind
  rw [decide_eq_true_eq] at hmap
  obtain ⟨a, ha, hcallback⟩ := Option.map_eq_some_iff.mp hmap
  exact ⟨auth, a, hget, ha, hcallback⟩

theorem exists_findCallbackInContextMap {a : Authentication Client} (hget : s.authContextIdMap[contextId]? = some auth)
    (ha : s.auths[auth]? = some a) : ∃ contextId', s.findCallbackInContextMap a.callback = some contextId' := by
  rw [← Option.isSome_iff_exists, State.findCallbackInContextMap, Option.isSome_map, List.find?_isSome]
  exact ⟨(contextId, auth), ExtTreeMap.mem_toList_iff_getElem?_eq_some.mpr hget,
    decide_eq_true (by rw [ha]; rfl)⟩

theorem eraseContext_of_find {a : Authentication Client} (ha : s.auths[d.auth]? = some a)
    (hfind : s.findCallbackInContextMap a.callback = some contextId) :
    s.eraseContext d = some { s with authContextIdMap := s.authContextIdMap.erase contextId } := by
  rw [State.eraseContext, ha]
  dsimp only
  rw [hfind]
  rfl

/-- The client of a result has no context any more, or the first one is taken out of the map. -/
theorem eraseContext_cases (s : State Client Token) (d : Delivery Token) :
    s.eraseContext d = none ∨ ∃ a contextId, s.auths[d.auth]? = some a ∧
      s.findCallbackInContextMap a.callback = some contextId ∧
      s.eraseContext d = some { s with authContextIdMap := s.authContextIdMap.erase contextId } := by
  rw [State.eraseContext]
  split
  · exact .inl rfl
  · next a ha =>
      cases hfind : s.findCallbackInContextMap a.callback with
      | none => exact .inl rfl
      | some contextId => exact .inr ⟨a, contextId, ha, hfind, rfl⟩

theorem Inv.onResult (h : Inv s) (hfirst : First s d.auth) (hsource : d.source = d.auth) : Inv (s.onResult d) := by
  rw [State.onResult]
  rcases eraseContext_cases s d with hnone | ⟨a, contextId, ha, hfind, hsome⟩
  · rw [hnone]
    exact h
  · rw [hsome]
    have hget := hfirst a ha contextId hfind
    have hlogged : Logged { s with authContextIdMap := s.authContextIdMap.erase contextId } :=
      ⟨h.once, h.own, h.silent, h.results, h.fresh, h.source, h.begun⟩
    obtain ⟨hauths, hmap⟩ := finish_frame { s with authContextIdMap := s.authContextIdMap.erase contextId } d
    refine ⟨hlogged.finish (h.not_finished hget) (h.lt_length hget) hsource, h.toMapped.erase hget hmap ?_ ?_⟩
    · rw [hauths]
    · exact fun auth' => finished_finish

theorem Inv.onResultFromPlugin (h : Inv s) (hfirst : First s d.auth) (hsource : d.source = d.auth) :
    Inv (s.onResultFromPlugin d) := by
  rw [State.onResultFromPlugin]
  rcases eraseContext_cases s d with hnone | ⟨a, contextId, ha, hfind, hsome⟩
  · rw [hnone]
    exact h
  · rw [hsome]
    have hget := hfirst a ha contextId hfind
    have hlogged : Logged { s with authContextIdMap := s.authContextIdMap.erase contextId } :=
      ⟨h.once, h.own, h.silent, h.results, h.fresh, h.source, h.begun⟩
    exact ⟨hlogged.queue (h.not_finished hget) (h.lt_length hget) hsource,
      h.toMapped.erase hget rfl rfl fun auth' => finished_queue⟩

theorem Inv.first_of_onResult (h : Inv s) (hsound : Sound (s.onResult d)) : First s d.auth := by
  intro a ha contextId hfind
  obtain ⟨other, b, hget, -, -⟩ := exists_of_findCallbackInContextMap hfind
  by_cases hne : other = d.auth
  · exact hne ▸ hget
  · unfold State.onResult at hsound
    rw [eraseContext_of_find ha hfind] at hsound
    obtain ⟨hauths, hmap⟩ := finish_frame { s with authContextIdMap := s.authContextIdMap.erase contextId } d
    exact (h.toMapped.not_erase hget hne hmap (by rw [hauths]) (fun auth' => finished_finish) hsound).elim

theorem Inv.first_of_onResultFromPlugin (h : Inv s) (hsound : Sound (s.onResultFromPlugin d)) : First s d.auth := by
  intro a ha contextId hfind
  obtain ⟨other, b, hget, -, -⟩ := exists_of_findCallbackInContextMap hfind
  by_cases hne : other = d.auth
  · exact hne ▸ hget
  · unfold State.onResultFromPlugin at hsound
    rw [eraseContext_of_find ha hfind] at hsound
    refine (h.toMapped.not_erase (t := { s with
      authContextIdMap := s.authContextIdMap.erase contextId, deliveries := d :: s.deliveries }) hget hne rfl rfl ?_
      hsound).elim
    exact fun auth' => finished_queue

theorem first_of_callback {callback : Client} (hfind : s.findCallbackInContextMap callback = some contextId)
    (hget : s.authContextIdMap[contextId]? = some auth) : First s auth := by
  obtain ⟨auth', a, hget', ha, hcallback⟩ := exists_of_findCallbackInContextMap hfind
  cases hget.symm.trans hget'
  intro a' ha' contextId' hfind'
  cases ha.symm.trans ha'
  rw [hcallback, hfind] at hfind'
  cases hfind'
  exact hget

theorem Inv.cancelAuthWork (h : Inv s)
    (hfirst : s.hasPlugin = true → ∀ auth, s.authContextIdMap[contextId]? = some auth → First s auth) :
    Inv (s.cancelAuthWork contextId) := by
  unfold State.cancelAuthWork
  split_ifs with hplugin
  · split
    · exact h
    · next auth hget => exact h.onResult (hfirst hplugin auth hget) rfl
  · exact h

theorem Inv.step (h : Inv s) {e : Event Client Token} (he : FindsItsOwn s e) : Inv (step s e) := by
  cases e with
  | setPlugin hasPlugin =>
      exact ⟨⟨h.once, h.own, h.silent, h.results, h.fresh, h.source, h.begun⟩, h.contexts, h.injective⟩
  | innerAuth userId callback answer => exact h.innerAuth userId callback answer
  | reply source ok token isActivated =>
      unfold FindsItsOwn at he
      unfold DomainAuthentication.step
      dsimp only at he ⊢
      split
      · next horigin =>
          rw [horigin] at he
          exact h.onResultFromPlugin he rfl
      · next contextId horigin =>
          rw [horigin] at he
          split
          · exact h
          · next auth hget =>
              obtain ⟨rfl, hfirst⟩ := he auth hget
              exact h.onResult hfirst rfl
      · exact h
  | deliver index =>
      unfold DomainAuthentication.step
      dsimp only
      split
      · exact h
      · next d hd => exact h.deliver hd
  | cancelAuth callback =>
      unfold DomainAuthentication.step
      dsimp only
      split
      · exact h
      · next contextId hfind => exact h.cancelAuthWork fun _ auth hget => first_of_callback hfind hget
  | cancelAuthById contextId => exact h.cancelAuthWork he

theorem own_of_onResult {source : Nat} {ok : Bool} {token : Token} {isActivated : Bool} (h : Inv s)
    (hget : s.authContextIdMap[contextId]? = some auth)
    (hsound : Sound (s.onResult { auth, source, result := .replied ok token isActivated })) : auth = source := by
  obtain ⟨a, ha⟩ : ∃ a, s.auths[auth]? = some a := ⟨_, List.getElem?_eq_getElem (h.lt_length hget)⟩
  obtain ⟨contextId', hfind⟩ := exists_findCallbackInContextMap hget ha
  unfold State.onResult at hsound
  rw [eraseContext_of_find ha hfind] at hsound
  refine (hsound.own auth source false ?_).symm
  rcases finish_cases { s with authContextIdMap := s.authContextIdMap.erase contextId' }
    { auth, source, result := .replied ok token isActivated } with heq |
      ⟨userId, token', isActivated', heq⟩ <;>
  · dsimp only
    rw [heq]
    exact List.mem_cons_self

theorem Inv.findsItsOwn (h : Inv s) {e : Event Client Token} (hsound : Sound (DomainAuthentication.step s e)) :
    FindsItsOwn s e := by
  cases e with
  | reply source ok token isActivated =>
      unfold FindsItsOwn
      unfold DomainAuthentication.step at hsound
      dsimp only at hsound ⊢
      split
      · next horigin =>
          rw [horigin] at hsound
          exact h.first_of_onResultFromPlugin hsound
      · next contextId horigin =>
          intro auth hget
          rw [horigin] at hsound
          dsimp only at hsound
          rw [hget] at hsound
          exact ⟨own_of_onResult h hget hsound, h.first_of_onResult hsound⟩
      · trivial
  | cancelAuthById contextId =>
      intro hplugin auth hget
      unfold DomainAuthentication.step State.cancelAuthWork at hsound
      dsimp only at hsound
      rw [if_pos hplugin, hget] at hsound
      exact h.first_of_onResult hsound
  | _ => trivial

/-- The contexts are kept apart in a run if and only if each reply and each cancellation finds the context of
its own authentication first. -/
theorem sound_run_iff (hasPlugin : Bool) {events : List (Event Client Token)} :
    Meets step FindsItsOwn (initial hasPlugin) events ↔
      ∀ events', events' <+: events → Sound (run step (initial hasPlugin) events') :=
  meets_iff_forall_prefix (fun _ _ h he => h.step he) (fun _ h => h.sound)
    (fun _ _ h hsound => h.findsItsOwn hsound)
    (inv_initial hasPlugin)

end searches

/-- Two authentications share a callback object, and the second one has its result first. -/
def sharedCallback : List (Event Nat Nat) :=
  [.innerAuth 100 7 none, .innerAuth 101 7 none, .reply 1 true 42 false, .deliver 0]

theorem not_sound_sharedCallback : ¬∀ events : List (Event Nat Nat), Sound (run step (initial true) events) := by
  intro h
  have hget : (run step (initial true) sharedCallback).authContextIdMap[(2 : UInt64)]? = some 1 :=
    by decide +kernel
  have hlog : Record.called 1 1 false ∈ (run step (initial true) sharedCallback).log := by decide +kernel
  exact (((h sharedCallback).contexts 1).mp ⟨2, hget⟩).2 (.inl ⟨1, false, hlog⟩)

end OsAccount.DomainAuthentication
