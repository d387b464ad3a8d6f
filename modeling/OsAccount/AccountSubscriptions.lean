import OsAccount.Machine
import Mathlib.Data.List.Sort
import Mathlib.Data.List.Induction
import Mathlib.Data.List.Nodup
import Mathlib.Data.List.TakeWhile
import Mathlib.Logic.Function.Basic

namespace OsAccount.AccountSubscriptions

open Function

structure AppAccountSubscribeRecord (L : Type) where
  owners : List String
  eventListener : Option L

/-- The records by their addresses, the list and the multisets that hold the addresses, and, to keep
account, the owners that each listener is subscribed to. -/
structure State (L : Type) where
  records : Nat → AppAccountSubscribeRecord L := fun _ => ⟨[], none⟩
  allocated : List Nat := []
  subscribeRecords : List Nat := []
  ownerSubscribeRecords : String → List Nat := fun _ => []
  subscriptions : L → List String := fun _ => []

inductive Operation (L : Type)
  /-- `accessible` is what the check of the owners says, `address` where the record is put. -/
  | subscribeAppAccount (owners : List String) (eventListener : L) (accessible : Bool) (address : Nat)
  /-- For all owners, if the list is empty. -/
  | unsubscribeAppAccount (eventListener : L) (owners : List String)
  | onRemoteDied (eventListener : L)

variable {L : Type}

namespace State

def setEventListener (s : State L) (address : Nat) (eventListener : Option L) : State L :=
  { s with records := update s.records address { s.records address with eventListener } }

def setOwners (s : State L) (address : Nat) (owners : List String) : State L :=
  { s with records := update s.records address { s.records address with owners } }

def setRecordsOf (s : State L) (owner : String) (addresses : List Nat) : State L :=
  { s with ownerSubscribeRecords := update s.ownerSubscribeRecords owner addresses }

variable [DecidableEq L]

def first (s : State L) (eventListener : L) (addresses : List Nat) : Option Nat :=
  addresses.find? fun a => (s.records a).eventListener = some eventListener ∨ (s.records a).eventListener = none

def clearOldData (s : State L) (eventListener : L) (owner : String) : State L :=
  match s.first eventListener (s.ownerSubscribeRecords owner) with
  | none => s
  | some a => (s.setEventListener a none).setRecordsOf owner ((s.ownerSubscribeRecords owner).erase a)

def insertRecord (s : State L) (owner : String) (address : Nat) : State L :=
  s.setRecordsOf owner ((s.ownerSubscribeRecords owner).orderedInsert (· ≤ ·) address)

def replaceRecord (s : State L) (eventListener : L) (address : Nat) : State L :=
  match s.first eventListener s.subscribeRecords with
  | none => { s with subscribeRecords := s.subscribeRecords ++ [address] }
  | some a =>
      { s.setEventListener a none with subscribeRecords := s.subscribeRecords.erase a ++ [address] }

def insertSubscribeRecord (s : State L) (owners : List String) (eventListener : L) (address : Nat) : State L :=
  (owners.foldl (fun s owner => (s.clearOldData eventListener owner).insertRecord owner address) s).replaceRecord
    eventListener address

def refreshOldData (s : State L) (eventListener : L) (ownerList newOwners : List String) (owner : String) :
    State L :=
  match s.first eventListener (s.ownerSubscribeRecords owner) with
  | none => s
  | some a =>
      if ownerList ≠ [] ∧ owner ∉ ownerList then s.setOwners a newOwners
      else (s.setEventListener a none).setRecordsOf owner ((s.ownerSubscribeRecords owner).erase a)

def removeSubscribeRecord (s : State L) (eventListener : L) (ownerList : List String) : State L :=
  match s.subscribeRecords.find? fun a => (s.records a).eventListener = some eventListener with
  | none => s
  | some a =>
      if ownerList ≠ [] then
        let owners := (s.records a).owners.insertionSort (· ≤ ·)
        let newOwners := owners.diff (ownerList.insertionSort (· ≤ ·))
        owners.foldl (fun s owner => s.refreshOldData eventListener ownerList newOwners owner) (s.setOwners a newOwners)
      else
        (s.records a).owners.foldl (fun s owner => s.refreshOldData eventListener ownerList [] owner)
          { s with subscribeRecords := s.subscribeRecords.erase a }

def subscribeAppAccount (s : State L) (owners : List String) (eventListener : L) (address : Nat) : State L :=
  { s with
    records := update s.records address ⟨owners, some eventListener⟩
    allocated := address :: s.allocated }.insertSubscribeRecord owners eventListener address

def getSubscribeRecords (s : State L) (owner : String) : List Nat :=
  (s.ownerSubscribeRecords owner).takeWhile fun a => owner ∈ (s.records a).owners

end State

section account

variable [DecidableEq L]

def subscribed (s : State L) (eventListener : L) (owners : List String) : State L :=
  { s with subscriptions := update s.subscriptions eventListener owners }

def unsubscribed (s : State L) (eventListener : L) (owners : List String) : State L :=
  subscribed s eventListener (if owners = [] then [] else (s.subscriptions eventListener).filter (· ∉ owners))

def step (s : State L) : Operation L → State L
  | .subscribeAppAccount owners eventListener accessible address =>
      if owners = [] ∨ accessible = false ∨ address ∈ s.allocated then s
      else subscribed (s.subscribeAppAccount owners eventListener address) eventListener owners
  | .unsubscribeAppAccount eventListener owners =>
      unsubscribed (s.removeSubscribeRecord eventListener owners) eventListener owners
  | .onRemoteDied eventListener => unsubscribed (s.removeSubscribeRecord eventListener []) eventListener []

end account

def Operation.eventListener : Operation L → L
  | subscribeAppAccount _ eventListener _ _ => eventListener
  | unsubscribeAppAccount eventListener _ => eventListener
  | onRemoteDied eventListener => eventListener

/-- For every owner there is one record of each listener that is subscribed to it, and no other. -/
def Delivers (s : State L) : Prop :=
  ∀ owner, ((s.getSubscribeRecords owner).map fun a => (s.records a).eventListener).Nodup ∧
    ∀ l, l ∈ (s.getSubscribeRecords owner).map (fun a => (s.records a).eventListener) ↔
      ∃ listener, l = some listener ∧ owner ∈ s.subscriptions listener

def Separate (s s' : State L) (eventListener : L) : Prop :=
  ∀ other, other ≠ eventListener → ∀ owner a,
    (a ∈ s'.getSubscribeRecords owner ∧ (s'.records a).eventListener = some other ↔
      a ∈ s.getSubscribeRecords owner ∧ (s.records a).eventListener = some other) ∧
    (a ∈ s.getSubscribeRecords owner → (s.records a).eventListener = some other → s'.records a = s.records a)

/-- Every subscription is delivered once, and the listener's call does not touch the others. -/
def Correct [DecidableEq L] (s : State L) (op : Operation L) : Prop :=
  Delivers (step s op) ∧ Separate s (step s op) op.eventListener

/-- A subscription names no owner twice and every owner that the listener is subscribed to, and an
unsubscription is for all of these or for none. -/
def Whole (s : State L) : Operation L → Prop
  | .subscribeAppAccount owners eventListener accessible address =>
      owners = [] ∨ accessible = false ∨ address ∈ s.allocated ∨
        owners.Nodup ∧ ∀ owner ∈ s.subscriptions eventListener, owner ∈ owners
  | .unsubscribeAppAccount eventListener owners =>
      owners = [] ∨ (∀ owner ∈ s.subscriptions eventListener, owner ∈ owners) ∨
        ∀ owner ∈ s.subscriptions eventListener, owner ∉ owners
  | .onRemoteDied _ => True

abbrev Covers (ownerList : List String) (owner : String) : Prop := ownerList = [] ∨ owner ∈ ownerList

section loops

variable {s s' : State L} {listener : L} {old : Nat} {names : List String}

/-- In the multiset of the owner no record but the old one is the listener's or nobody's. -/
structure Apart (s : State L) (listener : L) (old : Nat) (names : List String) (owner : String) : Prop where
  mine : (s.records old).eventListener = some listener ∨ (s.records old).eventListener = none
  names : (s.records old).owners = names
  others : ∀ a ∈ s.ownerSubscribeRecords owner, a ≠ old →
    ∃ other, other ≠ listener ∧ (s.records a).eventListener = some other

/-- What a loop over owners does: each multiset changes by itself, and the old record loses its listener
at one that drops it. -/
structure Touched (old : Nat) (drops : String → Prop) (change : String → List Nat → List Nat) (owners : List String)
    (s s' : State L) : Prop where
  released : (∃ owner ∈ owners, drops owner ∧ old ∈ s.ownerSubscribeRecords owner) →
    s'.records old = { s.records old with eventListener := none }
  kept : (¬∃ owner ∈ owners, drops owner ∧ old ∈ s.ownerSubscribeRecords owner) → s'.records old = s.records old
  others : ∀ a, a ≠ old → s'.records a = s.records a
  changed : ∀ owner ∈ owners, s'.ownerSubscribeRecords owner = change owner (s.ownerSubscribeRecords owner)
  unchanged : ∀ owner, owner ∉ owners → s'.ownerSubscribeRecords owner = s.ownerSubscribeRecords owner
  subscribeRecords : s'.subscribeRecords = s.subscribeRecords
  allocated : s'.allocated = s.allocated
  subscriptions : s'.subscriptions = s.subscriptions

variable {drops : String → Prop} {change : String → List Nat → List Nat}

theorem Touched.apart {owner owner' : String}
    (h : Touched old drops change [owner] s s') (hne : owner' ≠ owner) (hs : Apart s listener old names owner') :
    Apart s' listener old names owner' := by
  have hsame : s'.ownerSubscribeRecords owner' = s.ownerSubscribeRecords owner' :=
    h.unchanged owner' (List.mem_singleton.not.mpr hne)
  refine ⟨?_, ?_, fun a ha hold => ?_⟩
  · by_cases hdrop : ∃ o ∈ [owner], drops o ∧ old ∈ s.ownerSubscribeRecords o
    · exact .inr (by rw [h.released hdrop])
    · rw [h.kept hdrop]
      exact hs.mine
  · by_cases hdrop : ∃ o ∈ [owner], drops o ∧ old ∈ s.ownerSubscribeRecords o
    · rw [h.released hdrop]
      exact hs.names
    · rw [h.kept hdrop]
      exact hs.names
  · rw [hsame] at ha
    rw [h.others a hold]
    exact hs.others a ha hold

variable {owner : String}

theorem Touched.cons
    {owners : List String} {s₁ : State L} (hfirst : Touched old drops change [owner] s s₁)
    (hrest : Touched old drops change owners s₁ s') (howner : owner ∉ owners) :
    Touched old drops change (owner :: owners) s s' := by
  have hsame : ∀ o ∈ owners, s₁.ownerSubscribeRecords o = s.ownerSubscribeRecords o := fun o ho =>
    hfirst.unchanged o (List.mem_singleton.not.mpr fun h => howner (h ▸ ho))
  have hlater : (∃ o ∈ owners, drops o ∧ old ∈ s₁.ownerSubscribeRecords o) ↔
      ∃ o ∈ owners, drops o ∧ old ∈ s.ownerSubscribeRecords o :=
    exists_congr fun o => and_congr_right fun ho => by rw [hsame o ho]
  have hsplit : (∃ o ∈ owner :: owners, drops o ∧ old ∈ s.ownerSubscribeRecords o) ↔
      (∃ o ∈ [owner], drops o ∧ old ∈ s.ownerSubscribeRecords o) ∨
        ∃ o ∈ owners, drops o ∧ old ∈ s.ownerSubscribeRecords o := by
    simp only [List.exists_mem_cons_iff, List.not_mem_nil, false_and, exists_false, or_false]
  constructor
  · intro h
    have h := hsplit.mp h
    by_cases hnow : ∃ o ∈ [owner], drops o ∧ old ∈ s.ownerSubscribeRecords o <;>
      by_cases hthen : ∃ o ∈ owners, drops o ∧ old ∈ s.ownerSubscribeRecords o
    · rw [hrest.released (hlater.mpr hthen), hfirst.released hnow]
    · rw [hrest.kept (hlater.not.mpr hthen), hfirst.released hnow]
    · rw [hrest.released (hlater.mpr hthen), hfirst.kept hnow]
    · exact (h.elim hnow hthen).elim
  · intro h
    obtain ⟨hnow, hthen⟩ := not_or.mp (hsplit.not.mp h)
    rw [hrest.kept (hlater.not.mpr hthen), hfirst.kept hnow]
  · exact fun a ha => (hrest.others a ha).trans (hfirst.others a ha)
  · intro o ho
    rcases List.mem_cons.mp ho with rfl | ho
    · rw [hrest.unchanged o howner, hfirst.changed o List.mem_cons_self]
    · rw [hrest.changed o ho, hsame o ho]
  · intro o ho
    obtain ⟨hne, ho⟩ := not_or.mp (List.mem_cons.not.mp ho)
    rw [hrest.unchanged o ho, hfirst.unchanged o (List.mem_singleton.not.mpr hne)]
  · exact hrest.subscribeRecords.trans hfirst.subscribeRecords
  · exact hrest.allocated.trans hfirst.allocated
  · exact hrest.subscriptions.trans hfirst.subscriptions

theorem touched_foldl
    {body : State L → String → State L}
    (hbody : ∀ s owner, Apart s listener old names owner → Touched old drops change [owner] s (body s owner))
    {owners : List String} (hnodup : owners.Nodup) {s : State L}
    (hs : ∀ owner ∈ owners, Apart s listener old names owner) :
    Touched old drops change owners s (owners.foldl body s) := by
  induction owners generalizing s with
  | nil =>
      constructor
      · rintro ⟨_, ho, -⟩
        exact (List.not_mem_nil ho).elim
      · exact fun _ => rfl
      · exact fun _ _ => rfl
      · exact fun _ ho => (List.not_mem_nil ho).elim
      · exact fun _ _ => rfl
      all_goals rfl
  | cons owner owners ih =>
      obtain ⟨howner, hnodup⟩ := List.nodup_cons.mp hnodup
      have hfirst := hbody s owner (hs owner List.mem_cons_self)
      refine hfirst.cons (ih hnodup fun o ho => ?_) howner
      exact hfirst.apart (fun h => howner (h ▸ ho)) (hs o (List.mem_cons_of_mem owner ho))

theorem Touched.refl
    (hdrops : ¬(drops owner ∧ old ∈ s.ownerSubscribeRecords owner))
    (hchange : change owner (s.ownerSubscribeRecords owner) = s.ownerSubscribeRecords owner) :
    Touched old drops change [owner] s s := by
  constructor
  · rintro ⟨o, ho, hdrop⟩
    rw [List.mem_singleton.mp ho] at hdrop
    exact (hdrops hdrop).elim
  · exact fun _ => rfl
  · exact fun _ _ => rfl
  · intro o ho
    rw [List.mem_singleton.mp ho, hchange]
  · exact fun _ _ => rfl
  all_goals rfl

theorem touched_setRecordsOf (drops : String → Prop) (change : String → List Nat → List Nat) (owner : String)
    (hs : s' = s.setEventListener old none ∧ drops owner ∧ old ∈ s.ownerSubscribeRecords owner ∨
      s' = s ∧ ¬(drops owner ∧ old ∈ s.ownerSubscribeRecords owner)) :
    Touched old drops change [owner] s (s'.setRecordsOf owner (change owner (s.ownerSubscribeRecords owner))) := by
  have hmem : (∃ o ∈ [owner], drops o ∧ old ∈ s.ownerSubscribeRecords o) ↔
      drops owner ∧ old ∈ s.ownerSubscribeRecords owner := by simp
  constructor
  · intro h
    obtain ⟨rfl, -⟩ | ⟨-, hs⟩ := hs
    · exact update_self ..
    · exact (hs (hmem.mp h)).elim
  · intro h
    obtain ⟨-, hs⟩ | ⟨rfl, -⟩ := hs
    · exact (h (hmem.mpr hs)).elim
    · rfl
  · intro a ha
    obtain ⟨rfl, -⟩ | ⟨rfl, -⟩ := hs
    · exact update_of_ne ha ..
    · rfl
  · intro o ho
    rw [List.mem_singleton.mp ho]
    exact update_self ..
  · intro o ho
    obtain ⟨rfl, -⟩ | ⟨rfl, -⟩ := hs <;> exact update_of_ne (List.mem_singleton.not.mp ho) ..
  all_goals obtain ⟨rfl, -⟩ | ⟨rfl, -⟩ := hs <;> rfl

variable [DecidableEq L]

theorem first_eq {as : List Nat}
    (hold : (s.records old).eventListener = some listener ∨ (s.records old).eventListener = none)
    (hothers : ∀ a ∈ as, a ≠ old → ∃ other, other ≠ listener ∧ (s.records a).eventListener = some other) :
    s.first listener as = if old ∈ as then some old else none := by
  rw [State.first]
  induction as with
  | nil => rfl
  | cons a as ih =>
      by_cases ha : a = old
      · subst ha
        rw [List.find?_cons_of_pos (by simpa using hold), if_pos List.mem_cons_self]
      · obtain ⟨other, hother, hlistener⟩ := hothers a List.mem_cons_self ha
        rw [List.find?_cons_of_neg (by simp [hlistener, hother]),
          ih fun b hb => hothers b (List.mem_cons_of_mem a hb)]
        simp only [List.mem_cons, Ne.symm ha, false_or]

theorem Apart.first_eq (h : Apart s listener old names owner) :
    s.first listener (s.ownerSubscribeRecords owner) =
      if old ∈ s.ownerSubscribeRecords owner then some old else none :=
  AccountSubscriptions.first_eq h.mine h.others

theorem insert_touched (s : State L) (owner : String) (new : Nat) (h : Apart s listener old names owner) :
    Touched old (fun _ => True) (fun _ as => (as.erase old).orderedInsert (· ≤ ·) new) [owner] s
      ((s.clearOldData listener owner).insertRecord owner new) := by
  rw [State.clearOldData, h.first_eq]
  by_cases hold : old ∈ s.ownerSubscribeRecords owner
  · rw [if_pos hold]
    have ht := touched_setRecordsOf (fun _ => True)
      (fun _ as => (as.erase old).orderedInsert (· ≤ ·) new) owner
      (.inl ⟨rfl, trivial, hold⟩)
    simpa only [State.insertRecord, State.setRecordsOf, update_self, update_idem] using ht
  · rw [if_neg hold]
    have ht := touched_setRecordsOf (fun _ => True)
      (fun _ as => (as.erase old).orderedInsert (· ≤ ·) new) owner
      (.inr ⟨rfl, fun h => hold h.2⟩)
    simpa only [State.insertRecord, List.erase_of_not_mem hold] using ht

theorem refresh_touched (ownerList newOwners : List String) (hnames : ownerList ≠ [] → names = newOwners)
    (s : State L) (owner : String) (h : Apart s listener old names owner) :
    Touched old (Covers ownerList) (fun o as => if Covers ownerList o then as.erase old else as) [owner] s
      (s.refreshOldData listener ownerList newOwners owner) := by
  rw [State.refreshOldData, h.first_eq]
  by_cases hold : old ∈ s.ownerSubscribeRecords owner
  · rw [if_pos hold]
    dsimp only
    by_cases hdrop : Covers ownerList owner
    · rw [if_neg (by tauto)]
      have ht := touched_setRecordsOf (Covers ownerList)
        (fun o as => if Covers ownerList o then as.erase old else as) owner (.inl ⟨rfl, hdrop, hold⟩)
      simpa only [if_pos hdrop] using ht
    · obtain ⟨hne, hkeep⟩ := not_or.mp hdrop
      have hsame : s.setOwners old newOwners = s := by
        rw [State.setOwners, ← hnames hne, ← h.names, update_eq_self]
      rw [if_pos ⟨hne, hkeep⟩, hsame]
      exact Touched.refl (fun hd => hdrop hd.1) (if_neg hdrop)
  · rw [if_neg hold]
    refine Touched.refl (fun hd => hold hd.2) ?_
    rw [List.erase_of_not_mem hold, ite_self]

end loops

section invariants

/-- The multisets are those of the records that are in the list and have a listener, and a listener has one
such record, with the owners that it is subscribed to. -/
structure Clean (s : State L) : Prop where
  listed : ∀ owner a, a ∈ s.ownerSubscribeRecords owner ↔
    a ∈ s.subscribeRecords ∧ (s.records a).eventListener ≠ none ∧ owner ∈ (s.records a).owners
  distinct : ∀ owner, (s.ownerSubscribeRecords owner).Nodup
  owners : ∀ a ∈ s.subscribeRecords, ∀ l, (s.records a).eventListener = some l →
    (s.records a).owners.Nodup ∧ (s.records a).owners ≠ [] ∧ ∀ o, o ∈ (s.records a).owners ↔ o ∈ s.subscriptions l
  one : ∀ a ∈ s.subscribeRecords, ∀ b ∈ s.subscribeRecords, ∀ l,
    (s.records a).eventListener = some l → (s.records b).eventListener = some l → a = b
  recorded : ∀ l, ∀ o ∈ s.subscriptions l, ∃ a ∈ s.subscribeRecords, (s.records a).eventListener = some l
  records : s.subscribeRecords.Nodup
  allocated : ∀ a ∈ s.subscribeRecords, a ∈ s.allocated

variable {s s' : State L} {listener : L}

theorem Clean.getSubscribeRecords (h : Clean s) (owner : String) :
    s.getSubscribeRecords owner = s.ownerSubscribeRecords owner := by
  rw [State.getSubscribeRecords]
  refine List.takeWhile_eq_self_iff.mpr fun a ha => ?_
  exact decide_eq_true ((h.listed owner a).mp ha).2.2

theorem Clean.delivers (h : Clean s) : Delivers s := by
  intro owner
  rw [h.getSubscribeRecords]
  constructor
  · refine (h.distinct owner).map_on fun a ha b hb hab => ?_
    obtain ⟨ha, hlistener, -⟩ := (h.listed owner a).mp ha
    obtain ⟨l, hl⟩ := Option.ne_none_iff_exists'.mp hlistener
    exact h.one a ha b ((h.listed owner b).mp hb).1 l hl (hab ▸ hl)
  · intro l
    rw [List.mem_map]
    constructor
    · rintro ⟨a, ha, rfl⟩
      obtain ⟨ha, hlistener, howner⟩ := (h.listed owner a).mp ha
      obtain ⟨l, hl⟩ := Option.ne_none_iff_exists'.mp hlistener
      exact ⟨l, hl, ((h.owners a ha l hl).2.2 owner).mp howner⟩
    · rintro ⟨l, rfl, howner⟩
      obtain ⟨a, ha, hl⟩ := h.recorded l owner howner
      refine ⟨a, (h.listed owner a).mpr ⟨ha, ?_, ((h.owners a ha l hl).2.2 owner).mpr howner⟩, hl⟩
      rw [hl]
      exact Option.some_ne_none l

structure Frame (s s' : State L) (listener : L) : Prop where
  listed : ∀ a l, l ≠ listener → (a ∈ s'.subscribeRecords ∧ (s'.records a).eventListener = some l ↔
    a ∈ s.subscribeRecords ∧ (s.records a).eventListener = some l)
  records : ∀ a ∈ s.subscribeRecords, ∀ l, l ≠ listener → (s.records a).eventListener = some l →
    s'.records a = s.records a
  subscriptions : ∀ l, l ≠ listener → s'.subscriptions l = s.subscriptions l

theorem Frame.separate (hframe : Frame s s' listener) (h : Clean s) (h' : Clean s') : Separate s s' listener := by
  intro other hother owner a
  rw [h.getSubscribeRecords, h'.getSubscribeRecords, h.listed, h'.listed]
  constructor
  · constructor
    · rintro ⟨⟨ha, hlistener, howner⟩, hl⟩
      obtain ⟨ha, hl⟩ := (hframe.listed a other hother).mp ⟨ha, hl⟩
      rw [hframe.records a ha other hother hl] at hlistener howner
      exact ⟨⟨ha, hlistener, howner⟩, hl⟩
    · rintro ⟨⟨ha, hlistener, howner⟩, hl⟩
      have hsame := hframe.records a ha other hother hl
      obtain ⟨ha, hl⟩ := (hframe.listed a other hother).mpr ⟨ha, hl⟩
      rw [← hsame] at hlistener howner
      exact ⟨⟨ha, hlistener, howner⟩, hl⟩
  · exact fun ha hl => hframe.records a ha.1 other hother hl

theorem Clean.apart (h : Clean s) {old : Nat} (hold : (s.records old).eventListener = some listener)
    (hmine : ∀ a ∈ s.subscribeRecords, (s.records a).eventListener = some listener → a = old) (owner : String) :
    Apart s listener old (s.records old).owners owner := by
  refine ⟨.inl hold, rfl, fun a ha hne => ?_⟩
  obtain ⟨ha, hlistener, -⟩ := (h.listed owner a).mp ha
  obtain ⟨l, hl⟩ := Option.ne_none_iff_exists'.mp hlistener
  exact ⟨l, fun hll => hne (hmine a ha (hll ▸ hl)), hl⟩

theorem not_delivers {owner : String} (howner : owner ∈ s.subscriptions listener)
    (h : ∀ a ∈ s.ownerSubscribeRecords owner, (s.records a).eventListener ≠ some listener) : ¬Delivers s := by
  intro hs
  obtain ⟨a, ha, hl⟩ := List.mem_map.mp (((hs owner).2 (some listener)).mpr ⟨listener, rfl, howner⟩)
  exact h a (List.takeWhile_subset _ ha) hl

end invariants

section subscriptions

variable [DecidableEq L] {s s₁ : State L} {listener : L} {owners : List String} {new old : Nat}

def allocate (s : State L) (owners : List String) (listener : L) (new : Nat) : State L :=
  { s with
    records := update s.records new ⟨owners, some listener⟩
    allocated := new :: s.allocated }

omit [DecidableEq L] in
theorem allocate_new : (allocate s owners listener new).records new = ⟨owners, some listener⟩ :=
  update_self ..

variable {a : Nat}

omit [DecidableEq L] in
theorem allocate_other (ha : a ≠ new) : (allocate s owners listener new).records a = s.records a :=
  update_of_ne ha ..

structure Old (s : State L) (listener : L) (new old : Nat) : Prop where
  mine : old = new ∨ old ∈ s.subscribeRecords ∧ (s.records old).eventListener = some listener
  only : ∀ a ∈ s.subscribeRecords, (s.records a).eventListener = some listener → a = old

omit [DecidableEq L] in
theorem Clean.exists_old (h : Clean s) (listener : L) (new : Nat) : ∃ old, Old s listener new old := by
  by_cases hmine : ∃ a ∈ s.subscribeRecords, (s.records a).eventListener = some listener
  · obtain ⟨old, hold, hl⟩ := hmine
    exact ⟨old, .inr ⟨hold, hl⟩, fun a ha hal => h.one a ha old hold listener hal hl⟩
  · exact ⟨new, .inl rfl, fun a ha hal => (hmine ⟨a, ha, hal⟩).elim⟩

omit [DecidableEq L] in
theorem Clean.new_not_mem (h : Clean s) (hnew : new ∉ s.allocated) (owner : String) :
    new ∉ s.subscribeRecords ∧ new ∉ s.ownerSubscribeRecords owner := by
  have hlist : new ∉ s.subscribeRecords := fun hn => hnew (h.allocated new hn)
  exact ⟨hlist, fun hn => hlist ((h.listed owner new).mp hn).1⟩

omit [DecidableEq L] in
theorem Clean.allocate_apart (h : Clean s) (hnew : new ∉ s.allocated) (hold : Old s listener new old)
    (owner : String) :
    Apart (allocate s owners listener new) listener old ((allocate s owners listener new).records old).owners owner := by
  refine ⟨.inl ?_, rfl, fun a ha hne => ?_⟩
  · rcases hold.mine with rfl | ⟨hlist, hl⟩
    · rw [allocate_new]
    · rw [allocate_other (ne_of_mem_of_not_mem hlist (h.new_not_mem hnew owner).1)]
      exact hl
  · have hanew : a ≠ new := fun he => (h.new_not_mem hnew owner).2 (he ▸ ha)
    obtain ⟨hlist, hlistener, -⟩ := (h.listed owner a).mp ha
    obtain ⟨l, hl⟩ := Option.ne_none_iff_exists'.mp hlistener
    refine ⟨l, fun hll => hne (hold.only a hlist (hll ▸ hl)), ?_⟩
    rw [allocate_other hanew]
    exact hl

def insertAt (listener : L) (new : Nat) (s : State L) (owner : String) : State L :=
  (s.clearOldData listener owner).insertRecord owner new

abbrev Inserted (s : State L) (owners : List String) (listener : L) (new old : Nat) (os : List String)
    (s₁ : State L) : Prop :=
  Touched old (fun _ => True) (fun _ as => (as.erase old).orderedInsert (· ≤ ·) new) os
    (allocate s owners listener new) s₁

theorem Clean.inserted (h : Clean s) (hnew : new ∉ s.allocated) (hold : Old s listener new old) {os : List String}
    (hos : os.Nodup) :
    Inserted s owners listener new old os (os.foldl (insertAt listener new) (allocate s owners listener new)) :=
  touched_foldl (fun s owner hs => insert_touched s owner new hs) hos fun owner _ =>
    h.allocate_apart hnew hold owner

omit [DecidableEq L] in
theorem Touched.record_new {os : List String} (hs : Inserted s owners listener new old os s₁) (h : Clean s)
    (hnew : new ∉ s.allocated) : s₁.records new = ⟨owners, some listener⟩ := by
  by_cases hne : new = old
  · subst hne
    rw [hs.kept, allocate_new]
    rintro ⟨o, -, -, ho⟩
    exact (h.new_not_mem hnew o).2 ho
  · rw [hs.others new hne, allocate_new]

omit [DecidableEq L] in
theorem Touched.record_other {os : List String} (hs : Inserted s owners listener new old os s₁)
    (hanew : a ≠ new) (hne : a ≠ old) : s₁.records a = s.records a := by
  rw [hs.others a hne, allocate_other hanew]

omit [DecidableEq L] in
theorem Touched.record_old {os : List String} (hs : Inserted s owners listener new old os s₁) (h : Clean s)
    (hold : old ∈ s.subscribeRecords) (hl : (s.records old).eventListener = some listener) {o : String} (ho : o ∈ os)
    (hsub : o ∈ s.subscriptions listener) : (s₁.records old).eventListener = none := by
  have hmem : old ∈ s.ownerSubscribeRecords o :=
    (h.listed o old).mpr ⟨hold, by rw [hl]; exact Option.some_ne_none _,
      ((h.owners old hold listener hl).2.2 o).mpr hsub⟩
  rw [hs.released ⟨o, ho, trivial, hmem⟩]

theorem replaceRecord_ownerSubscribeRecords (s : State L) (listener : L) (new : Nat) :
    (s.replaceRecord listener new).ownerSubscribeRecords = s.ownerSubscribeRecords := by
  rw [State.replaceRecord]
  split <;> rfl

theorem replaceRecord_owners (s : State L) (listener : L) (new a : Nat) :
    ((s.replaceRecord listener new).records a).owners = (s.records a).owners := by
  rw [State.replaceRecord]
  split
  · rfl
  · next b _ =>
      change (update s.records b _ a).owners = _
      rw [update_apply]
      split_ifs with hab
      · rw [hab]
      · rfl

theorem replaceRecord_eventListener {s : State L} {new a : Nat} {l : L}
    (h : ((s.replaceRecord listener new).records a).eventListener = some l) :
    (s.records a).eventListener = some l := by
  rw [State.replaceRecord] at h
  split at h
  · exact h
  · next b _ =>
      change (update s.records b _ a).eventListener = _ at h
      rw [update_apply] at h
      split_ifs at h
      exact h

/-- Where the listener has no other record in the list, only a record of nobody leaves it. -/
theorem replaceRecord_eq (h : ∀ a ∈ s.subscribeRecords, (s.records a).eventListener ≠ some listener) (new : Nat) :
    ∃ kept : List Nat, s.replaceRecord listener new = { s with subscribeRecords := kept ++ [new] } ∧
      kept.Sublist s.subscribeRecords ∧
        ∀ a ∈ s.subscribeRecords, (s.records a).eventListener ≠ none → a ∈ kept := by
  rw [State.replaceRecord]
  cases hfirst : s.first listener s.subscribeRecords with
  | none => exact ⟨s.subscribeRecords, rfl, List.Sublist.refl _, fun a ha _ => ha⟩
  | some b =>
      have hb := List.mem_of_find?_eq_some hfirst
      have hnone : (s.records b).eventListener = none := by
        have hp := List.find?_some hfirst
        exact (of_decide_eq_true hp).resolve_left (h b hb)
      have hsame : s.setEventListener b none = s := by
        rw [State.setEventListener, ← hnone, update_eq_self]
      refine ⟨s.subscribeRecords.erase b, by dsimp only; rw [hsame], List.erase_sublist, fun a ha hl => ?_⟩
      exact (List.mem_erase_of_ne (ne_of_apply_ne (fun x => (s.records x).eventListener) (hnone ▸ hl))).mpr ha

omit [DecidableEq L] in
theorem Clean.ne_old_iff (h : Clean s) (hnew : new ∉ s.allocated) (hold : Old s listener new old)
    (ha : a ∈ s.subscribeRecords) : a ≠ old ↔ (s.records a).eventListener ≠ some listener := by
  refine not_congr ⟨?_, hold.only a ha⟩
  rintro rfl
  rcases hold.mine with rfl | ⟨-, hl⟩
  · exact (hnew (h.allocated a ha)).elim
  · exact hl

omit [DecidableEq L] in
theorem Touched.record_of_ne {os : List String} (hs : Inserted s owners listener new old os s₁) (h : Clean s)
    (hnew : new ∉ s.allocated) (hold : Old s listener new old) (ha : a ∈ s.subscribeRecords)
    (hl : (s.records a).eventListener ≠ some listener) : s₁.records a = s.records a :=
  hs.record_other (fun he => hnew (he ▸ h.allocated a ha)) ((h.ne_old_iff hnew hold ha).mpr hl)

/-- The records with a listener after a subscription: the new one and those of the others. -/
theorem Clean.live_iff (h : Clean s) (hnew : new ∉ s.allocated) (hold : Old s listener new old)
    (hs : Inserted s owners listener new old owners s₁)
    (hall : ∀ o ∈ s.subscriptions listener, o ∈ owners) :
    ∃ kept : List Nat, s₁.replaceRecord listener new = { s₁ with subscribeRecords := kept ++ [new] } ∧
      kept.Sublist s.subscribeRecords ∧
        ∀ a, a ∈ kept ++ [new] ∧ (s₁.records a).eventListener ≠ none ↔
          a = new ∨ a ∈ s.subscribeRecords ∧ (s.records a).eventListener ≠ none ∧
            (s.records a).eventListener ≠ some listener := by
  have hmine : ∀ a ∈ s.subscribeRecords, (s.records a).eventListener = some listener →
      (s₁.records a).eventListener = none := by
    intro a ha hl
    obtain ⟨o, ho⟩ := List.exists_mem_of_ne_nil _ (h.owners a ha listener hl).2.1
    have hsub := ((h.owners a ha listener hl).2.2 o).mp ho
    have haold := hold.only a ha hl
    subst haold
    exact hs.record_old h ha hl (hall o hsub) hsub
  have hother : ∀ a ∈ s.subscribeRecords, (s.records a).eventListener ≠ some listener →
      s₁.records a = s.records a := fun a ha hl => hs.record_of_ne h hnew hold ha hl
  have hnone : ∀ a ∈ s₁.subscribeRecords, (s₁.records a).eventListener ≠ some listener := by
    intro a ha
    rw [hs.subscribeRecords] at ha
    by_cases hl : (s.records a).eventListener = some listener
    · rw [hmine a ha hl]
      exact (Option.some_ne_none _).symm
    · rwa [hother a ha hl]
  obtain ⟨kept, heq, hsub, hkept⟩ := replaceRecord_eq hnone new
  rw [hs.subscribeRecords] at hsub hkept
  refine ⟨kept, heq, hsub, fun a => ?_⟩
  rw [List.mem_append, List.mem_singleton]
  constructor
  · rintro ⟨ha | rfl, hl⟩
    · have hlisted := hsub.subset ha
      by_cases hmy : (s.records a).eventListener = some listener
      · exact (hl (hmine a hlisted hmy)).elim
      · rw [hother a hlisted hmy] at hl
        exact .inr ⟨hlisted, hl, hmy⟩
    · exact .inl rfl
  · rintro (rfl | ⟨ha, hl, hmy⟩)
    · rw [hs.record_new h hnew]
      exact ⟨.inr rfl, Option.some_ne_none _⟩
    · rw [← hother a ha hmy] at hl
      exact ⟨.inl (hkept a ha hl), hl⟩

omit [DecidableEq L] in
theorem Touched.mem_iff {os : List String} (hs : Inserted s owners listener new old os s₁) (h : Clean s)
    (hold : Old s listener new old) (hnew : new ∉ s.allocated) {o : String}
    (ho : o ∈ s.subscriptions listener → o ∈ os) (a : Nat) :
    a ∈ s₁.ownerSubscribeRecords o ↔
      a = new ∧ o ∈ os ∨ a ∈ s.ownerSubscribeRecords o ∧ (s.records a).eventListener ≠ some listener := by
  have hmine : ∀ a ∈ s.ownerSubscribeRecords o, a ≠ old ↔ (s.records a).eventListener ≠ some listener :=
    fun a ha => h.ne_old_iff hnew hold ((h.listed o a).mp ha).1
  by_cases hos : o ∈ os
  · have hset : s₁.ownerSubscribeRecords o =
        ((s.ownerSubscribeRecords o).erase old).orderedInsert (· ≤ ·) new :=
      hs.changed o hos
    rw [hset, List.mem_orderedInsert, (h.distinct o).mem_erase_iff]
    refine or_congr (and_iff_left hos).symm ?_
    rw [and_comm]
    exact and_congr_right fun ha => hmine a ha
  · have hset : s₁.ownerSubscribeRecords o = s.ownerSubscribeRecords o := hs.unchanged o hos
    rw [hset]
    refine (or_iff_right fun hn => hos hn.2).trans (and_iff_left_of_imp fun ha hl => ?_) |>.symm
    obtain ⟨hlist, -, hname⟩ := (h.listed o a).mp ha
    exact hos (ho (((h.owners a hlist listener hl).2.2 o).mp hname))

omit [DecidableEq L] in
theorem Touched.distinct {os : List String} (hs : Inserted s owners listener new old os s₁) (h : Clean s)
    (hnew : new ∉ s.allocated) (o : String) : (s₁.ownerSubscribeRecords o).Nodup := by
  by_cases ho : o ∈ os
  · rw [hs.changed o ho, (List.perm_orderedInsert _ _ _).nodup_iff]
    exact List.nodup_cons.mpr
      ⟨fun hn => (h.new_not_mem hnew o).2 (List.mem_of_mem_erase hn), (h.distinct o).erase old⟩
  · rw [hs.unchanged o ho]
    exact h.distinct o

structure Renewed (s s' : State L) (listener : L) (entry : Option Nat) (owners : List String) : Prop where
  record : ∀ a, entry = some a → s'.records a = ⟨owners, some listener⟩
  live : ∀ a l, a ∈ s'.subscribeRecords ∧ (s'.records a).eventListener = some l ↔
    entry = some a ∧ l = listener ∨ a ∈ s.subscribeRecords ∧ (s.records a).eventListener = some l ∧ l ≠ listener
  same : ∀ a ∈ s.subscribeRecords, ∀ l, l ≠ listener → (s.records a).eventListener = some l →
    s'.records a = s.records a
  multisets : ∀ o a, a ∈ s'.ownerSubscribeRecords o ↔
    entry = some a ∧ o ∈ owners ∨ a ∈ s.ownerSubscribeRecords o ∧ (s.records a).eventListener ≠ some listener
  distinct : ∀ o, (s'.ownerSubscribeRecords o).Nodup
  nodup : s'.subscribeRecords.Nodup
  allocated : ∀ a ∈ s'.subscribeRecords, a ∈ s'.allocated
  mine : ∀ o, o ∈ s'.subscriptions listener ↔ entry ≠ none ∧ o ∈ owners
  others : ∀ l, l ≠ listener → s'.subscriptions l = s.subscriptions l

theorem Clean.renewed (h : Clean s) (hnew : new ∉ s.allocated) (hnodup : owners.Nodup)
    (hall : ∀ o ∈ s.subscriptions listener, o ∈ owners) :
    Renewed s (subscribed (s.subscribeAppAccount owners listener new) listener owners) listener (some new) owners := by
  obtain ⟨old, hold⟩ := h.exists_old listener new
  have hs : Inserted s owners listener new old owners _ := h.inserted hnew hold hnodup
  obtain ⟨kept, heq, hsub, hlive⟩ := h.live_iff hnew hold hs hall
  have hother := fun a ha hl => hs.record_of_ne (a := a) h hnew hold ha hl
  have hrecord := hs.record_new h hnew
  rw [State.subscribeAppAccount, State.insertSubscribeRecord, ← allocate]
  change Renewed s (subscribed ((owners.foldl (insertAt listener new)
    (allocate s owners listener new)).replaceRecord
    listener new) listener owners) listener (some new) owners
  rw [heq]
  generalize owners.foldl (insertAt listener new) (allocate s owners listener new) = s₁ at *
  constructor
  · rintro a ⟨⟩
    exact hrecord
  · intro a l
    change a ∈ kept ++ [new] ∧ (s₁.records a).eventListener = some l ↔ _
    rw [Option.some_inj]
    constructor
    · rintro ⟨ha, hl⟩
      rcases (hlive a).mp ⟨ha, by rw [hl]; exact Option.some_ne_none l⟩ with rfl | ⟨ha, -, hmy⟩
      · rw [hrecord] at hl
        exact .inl ⟨rfl, (Option.some.inj hl).symm⟩
      · rw [hother a ha hmy] at hl
        exact .inr ⟨ha, hl, fun hll => hmy (hll ▸ hl)⟩
    · rintro (⟨rfl, rfl⟩ | ⟨ha, hl, hll⟩)
      · exact ⟨List.mem_append_right _ (List.mem_singleton_self new), by rw [hrecord]⟩
      · have hmy : (s.records a).eventListener ≠ some listener :=
          fun hmy => hll (Option.some.inj (hl.symm.trans hmy))
        refine ⟨((hlive a).mpr (.inr ⟨ha, by rw [hl]; exact Option.some_ne_none l, hmy⟩)).1, ?_⟩
        rw [hother a ha hmy]
        exact hl
  · intro a ha l hll hl
    exact hother a ha fun hmy => hll (Option.some.inj (hl.symm.trans hmy))
  · intro o a
    rw [Option.some_inj, eq_comm]
    exact hs.mem_iff h hold hnew (hall o) a
  · exact hs.distinct h hnew
  · exact (hsub.nodup h.records).append (List.nodup_singleton new)
      (List.disjoint_singleton.mpr fun hn => hnew (h.allocated new (hsub.subset hn)))
  · intro a ha
    change a ∈ s₁.allocated
    rw [hs.allocated]
    rcases List.mem_append.mp ha with ha | ha
    · exact List.mem_cons_of_mem _ (h.allocated a (hsub.subset ha))
    · exact List.mem_cons.mpr (.inl (List.mem_singleton.mp ha))
  · intro o
    change o ∈ update s₁.subscriptions listener owners listener ↔ _
    rw [update_self]
    exact (and_iff_right (Option.some_ne_none new)).symm
  · intro l hll
    change update s₁.subscriptions listener owners l = _
    rw [update_of_ne hll, hs.subscriptions]
    rfl

omit [DecidableEq L] in
theorem Renewed.frame {s' : State L} {entry : Option Nat} (hs : Renewed s s' listener entry owners) :
    Frame s s' listener := by
  refine ⟨fun a l hll => (hs.live a l).trans ?_, hs.same, hs.others⟩
  constructor
  · rintro (⟨-, hl⟩ | ⟨ha, hl, -⟩)
    · exact (hll hl).elim
    · exact ⟨ha, hl⟩
  · exact fun ha => .inr ⟨ha.1, ha.2, hll⟩

omit [DecidableEq L] in
theorem Renewed.clean {s' : State L} {entry : Option Nat} (hs : Renewed s s' listener entry owners) (h : Clean s)
    (howners : entry ≠ none → owners ≠ [] ∧ owners.Nodup) : Clean s' := by
  constructor
  · intro o a
    rw [hs.multisets, h.listed]
    constructor
    · rintro (⟨he, ho⟩ | ⟨⟨ha, hl, ho⟩, hmy⟩)
      · rw [hs.record a he]
        exact ⟨((hs.live a listener).mpr (.inl ⟨he, rfl⟩)).1, Option.some_ne_none _, ho⟩
      · obtain ⟨l, hl⟩ := Option.ne_none_iff_exists'.mp hl
        have hll : l ≠ listener := fun hll => hmy (hll ▸ hl)
        rw [hs.same a ha l hll hl]
        exact ⟨((hs.live a l).mpr (.inr ⟨ha, hl, hll⟩)).1, by rw [hl]; exact Option.some_ne_none l, ho⟩
    · rintro ⟨ha, hl, ho⟩
      obtain ⟨l, hl⟩ := Option.ne_none_iff_exists'.mp hl
      rcases (hs.live a l).mp ⟨ha, hl⟩ with ⟨he, -⟩ | ⟨ha, hl, hll⟩
      · rw [hs.record a he] at ho
        exact .inl ⟨he, ho⟩
      · rw [hs.same a ha l hll hl] at ho
        refine .inr ⟨⟨ha, by rw [hl]; exact Option.some_ne_none l, ho⟩, fun hmy => ?_⟩
        exact hll (Option.some.inj (hl.symm.trans hmy))
  · exact hs.distinct
  · intro a ha l hl
    rcases (hs.live a l).mp ⟨ha, hl⟩ with ⟨he, rfl⟩ | ⟨ha, hl, hll⟩
    · have hsome : entry ≠ none := by
        rw [he]
        exact Option.some_ne_none a
      rw [hs.record a he]
      exact ⟨(howners hsome).2, (howners hsome).1, fun o => ((hs.mine o).trans (and_iff_right hsome)).symm⟩
    · rw [hs.same a ha l hll hl, hs.others l hll]
      exact h.owners a ha l hl
  · intro a ha b hb l hal hbl
    rcases (hs.live a l).mp ⟨ha, hal⟩ with ⟨he, hal⟩ | ⟨ha, hal, hll⟩ <;>
      rcases (hs.live b l).mp ⟨hb, hbl⟩ with ⟨he', hbl⟩ | ⟨hb, hbl, hll'⟩
    · exact Option.some.inj (he.symm.trans he')
    · exact (hll' hal).elim
    · exact (hll hbl).elim
    · exact h.one a ha b hb l hal hbl
  · intro l o ho
    by_cases hll : l = listener
    · rw [hll, hs.mine] at ho
      obtain ⟨a, he⟩ := Option.ne_none_iff_exists'.mp ho.1
      exact ⟨a, (hs.live a l).mpr (.inl ⟨he, hll⟩)⟩
    · rw [hs.others l hll] at ho
      obtain ⟨a, ha, hl⟩ := h.recorded l o ho
      exact ⟨a, (hs.live a l).mpr (.inr ⟨ha, hl, hll⟩)⟩
  · exact hs.nodup
  · exact hs.allocated

end subscriptions

section unsubscriptions

variable {s s₀ s' : State L} {listener : L} {ownerList os : List String} {old : Nat}

structure Removed (s s' : State L) (listener : L) (ownerList : List String) (old : Nat) : Prop where
  released : (∃ o ∈ s.subscriptions listener, Covers ownerList o) → (s'.records old).eventListener = none
  kept : (¬∃ o ∈ s.subscriptions listener, Covers ownerList o) →
    (s'.records old).eventListener = some listener ∧ (s'.records old).owners.Nodup ∧
      ∀ o, o ∈ (s'.records old).owners ↔ o ∈ s.subscriptions listener
  others : ∀ a, a ≠ old → s'.records a = s.records a
  multisets : ∀ o a, a ∈ s'.ownerSubscribeRecords o ↔ a ∈ s.ownerSubscribeRecords o ∧ ¬(a = old ∧ Covers ownerList o)
  distinct : ∀ o, (s'.ownerSubscribeRecords o).Nodup
  subscribeRecords : s'.subscribeRecords = if ownerList = [] then s.subscribeRecords.erase old else s.subscribeRecords
  allocated : s'.allocated = s.allocated
  subscriptions : s'.subscriptions = s.subscriptions

theorem Clean.mem_old_iff (h : Clean s) (hold : old ∈ s.subscribeRecords)
    (hl : (s.records old).eventListener = some listener) (o : String) :
    old ∈ s.ownerSubscribeRecords o ↔ o ∈ s.subscriptions listener := by
  rw [h.listed, ← (h.owners old hold listener hl).2.2 o, and_iff_right hold, hl]
  exact and_iff_right (Option.some_ne_none listener)

theorem Touched.removed
    (ht : Touched old (Covers ownerList) (fun o as => if Covers ownerList o then as.erase old else as) os s₀ s')
    (h : Clean s) (hold : old ∈ s.subscribeRecords) (hl : (s.records old).eventListener = some listener)
    (hos : ∀ o, o ∈ os ↔ o ∈ s.subscriptions listener)
    (hsets : s₀.ownerSubscribeRecords = s.ownerSubscribeRecords) (hothers : ∀ a, a ≠ old → s₀.records a = s.records a)
    (hkept : (¬∃ o ∈ s.subscriptions listener, Covers ownerList o) →
      (s₀.records old).eventListener = some listener ∧ (s₀.records old).owners.Nodup ∧
        ∀ o, o ∈ (s₀.records old).owners ↔ o ∈ s.subscriptions listener)
    (hlist : s₀.subscribeRecords = if ownerList = [] then s.subscribeRecords.erase old else s.subscribeRecords)
    (hallocated : s₀.allocated = s.allocated) (hsubs : s₀.subscriptions = s.subscriptions) :
    Removed s s' listener ownerList old := by
  have hmem := h.mem_old_iff hold hl
  have hdrop : (∃ o ∈ os, Covers ownerList o ∧ old ∈ s₀.ownerSubscribeRecords o) ↔
      ∃ o ∈ s.subscriptions listener, Covers ownerList o := by
    rw [hsets]
    refine exists_congr fun o => ?_
    rw [hos, hmem]
    tauto
  constructor
  · intro hd
    rw [ht.released (hdrop.mpr hd)]
  · intro hd
    rw [ht.kept (hdrop.not.mpr hd)]
    exact hkept hd
  · exact fun a ha => (ht.others a ha).trans (hothers a ha)
  · intro o a
    by_cases ho : o ∈ os
    · rw [ht.changed o ho, hsets]
      split_ifs with hc
      · rw [(h.distinct o).mem_erase_iff]
        tauto
      · tauto
    · rw [ht.unchanged o ho, hsets]
      refine (and_iff_left_of_imp ?_).symm
      rintro ha ⟨rfl, -⟩
      exact ho ((hos o).mpr ((hmem o).mp ha))
  · intro o
    by_cases ho : o ∈ os
    · rw [ht.changed o ho, hsets]
      split_ifs
      · exact (h.distinct o).erase old
      · exact h.distinct o
    · rw [ht.unchanged o ho, hsets]
      exact h.distinct o
  · rw [ht.subscribeRecords, hlist]
  · rw [ht.allocated, hallocated]
  · rw [ht.subscriptions, hsubs]

theorem Removed.mem_iff (hs : Removed s s' listener ownerList old) {a : Nat} (ha : a ≠ old) :
    a ∈ s'.subscribeRecords ↔ a ∈ s.subscribeRecords := by
  rw [hs.subscribeRecords]
  split_ifs
  · exact List.mem_erase_of_ne ha
  · rfl

theorem Removed.sublist (hs : Removed s s' listener ownerList old) :
    s'.subscribeRecords.Sublist s.subscribeRecords := by
  rw [hs.subscribeRecords]
  split_ifs
  · exact List.erase_sublist
  · exact List.Sublist.refl _

variable [DecidableEq L]

theorem Clean.removed (h : Clean s) (hold : old ∈ s.subscribeRecords)
    (hl : (s.records old).eventListener = some listener) (ownerList : List String) :
    Removed s (s.removeSubscribeRecord listener ownerList) listener ownerList old := by
  have hfind : s.subscribeRecords.find?
      (fun a => (s.records a).eventListener = some listener) = some old := by
    cases hf : s.subscribeRecords.find? fun a => (s.records a).eventListener = some listener with
    | none => exact (List.find?_eq_none.mp hf old hold (decide_eq_true hl)).elim
    | some a =>
        have ha : (s.records a).eventListener = some listener := by simpa using List.find?_some hf
        rw [h.one a (List.mem_of_find?_eq_some hf) old hold listener ha hl]
  obtain ⟨hnodup, hne, hnames⟩ := h.owners old hold listener hl
  have hapart := h.apart hl fun a ha hal => h.one a ha old hold listener hal hl
  rw [State.removeSubscribeRecord, hfind]
  dsimp only
  by_cases hall : ownerList = []
  · rw [if_neg (not_not.mpr hall)]
    have hap : ∀ owner, Apart { s with subscribeRecords := s.subscribeRecords.erase old } listener old
        (s.records old).owners owner := fun owner =>
      ⟨(hapart owner).mine, (hapart owner).names, (hapart owner).others⟩
    have ht := touched_foldl (refresh_touched ownerList [] fun hn =>
      (hn hall).elim) hnodup fun owner _ => hap owner
    refine ht.removed h hold hl hnames rfl (fun _ _ => rfl) (fun hn => ?_) (if_pos hall).symm rfl rfl
    obtain ⟨o, ho⟩ := List.exists_mem_of_ne_nil _ hne
    exact (hn ⟨o, (hnames o).mp ho, .inl hall⟩).elim
  · rw [if_pos hall]
    have hsorted := List.perm_insertionSort (· ≤ ·) (s.records old).owners
    have hsortedNodup := hsorted.nodup_iff.mpr hnodup
    set owners := (s.records old).owners.insertionSort (· ≤ ·)
    set newOwners := owners.diff (ownerList.insertionSort (· ≤ ·)) with hnew
    have hrecord : (s.setOwners old newOwners).records old = { s.records old with owners := newOwners } :=
      update_self ..
    have hother : ∀ a, a ≠ old → (s.setOwners old newOwners).records a = s.records a := fun a ha =>
      update_of_ne ha ..
    have hmem : ∀ o, o ∈ owners ↔ o ∈ s.subscriptions listener := fun o => hsorted.mem_iff.trans (hnames o)
    have hap : ∀ owner, Apart (s.setOwners old newOwners) listener old newOwners owner := by
      refine fun owner => ⟨.inl ?_, ?_, fun a ha hao => ?_⟩
      · rw [hrecord]
        exact hl
      · rw [hrecord]
      · rw [hother a hao]
        exact (hapart owner).others a ha hao
    have ht := touched_foldl (refresh_touched ownerList newOwners fun _ =>
      rfl) hsortedNodup fun owner _ => hap owner
    refine ht.removed h hold hl hmem rfl hother (fun hn => ?_) (if_neg hall).symm rfl rfl
    rw [hrecord]
    refine ⟨hl, hsortedNodup.sublist (List.diff_sublist _ _), fun o => ?_⟩
    dsimp only
    rw [hnew, hsortedNodup.mem_sdiff_iff, hmem]
    refine and_iff_left_of_imp fun ho hc => hn ⟨o, ho, .inr ?_⟩
    exact (List.perm_insertionSort (· ≤ ·) ownerList).mem_iff.mp hc

theorem subscribed_self (s : State L) (listener : L) (owners : List String) :
    (subscribed s listener owners).subscriptions listener = owners := update_self ..

theorem mem_unsubscribed (s : State L) (listener : L) (ownerList : List String) (o : String) :
    o ∈ (unsubscribed s listener ownerList).subscriptions listener ↔
      o ∈ s.subscriptions listener ∧ ¬Covers ownerList o := by
  change o ∈ update s.subscriptions listener _ listener ↔ _
  rw [update_self]
  split_ifs with hall
  · exact iff_of_false List.not_mem_nil fun ho => ho.2 (.inl hall)
  · rw [List.mem_filter, decide_eq_true_eq, Covers, or_iff_right hall]

theorem unsubscribed_of_ne {s : State L} {listener l : L} (hll : l ≠ listener) (ownerList : List String) :
    (unsubscribed s listener ownerList).subscriptions l = s.subscriptions l := update_of_ne hll ..

theorem Removed.renewed_none (hs : Removed s s' listener ownerList old) (h : Clean s)
    (hold : old ∈ s.subscribeRecords) (hl : (s.records old).eventListener = some listener)
    (hall : ∀ o ∈ s.subscriptions listener, Covers ownerList o) :
    Renewed s (unsubscribed s' listener ownerList) listener none [] := by
  have hsubs : ∀ o, old ∈ s.ownerSubscribeRecords o → Covers ownerList o := fun o ho =>
    hall o ((h.mem_old_iff hold hl o).mp ho)
  have hnone : (s'.records old).eventListener = none := by
    obtain ⟨-, hne, hnames⟩ := h.owners old hold listener hl
    obtain ⟨o, ho⟩ := List.exists_mem_of_ne_nil _ hne
    exact hs.released ⟨o, (hnames o).mp ho, hall o ((hnames o).mp ho)⟩
  have hmine : ∀ a ∈ s.subscribeRecords, (s.records a).eventListener = some listener →
      a = old := fun a ha hal =>
    h.one a ha old hold listener hal hl
  constructor
  · exact fun a ha => (Option.some_ne_none a ha.symm).elim
  · intro a l
    change a ∈ s'.subscribeRecords ∧ (s'.records a).eventListener = some l ↔ _
    rw [or_iff_right (fun he => Option.some_ne_none a he.1.symm)]
    by_cases hao : a = old
    · subst hao
      rw [hnone, hl]
      exact iff_of_false (fun he => Option.some_ne_none l he.2.symm) fun he => he.2.2
        (Option.some.inj he.2.1).symm
    · rw [hs.mem_iff hao, hs.others a hao]
      exact and_congr_right fun ha => (and_iff_left_of_imp fun hal (hll : l = listener) =>
        hao (hmine a ha (hll ▸ hal))).symm
  · exact fun a _ l hll hal => hs.others a fun hao => hll (Option.some.inj (hal.symm.trans (hao ▸ hl)))
  · intro o a
    change a ∈ s'.ownerSubscribeRecords o ↔ _
    rw [hs.multisets, or_iff_right (fun he => Option.some_ne_none a he.1.symm)]
    refine and_congr_right fun ha => not_congr ⟨?_, fun hal => ?_⟩
    · rintro ⟨rfl, -⟩
      exact hl
    · obtain rfl := hmine a ((h.listed o a).mp ha).1 hal
      exact ⟨rfl, hsubs o ha⟩
  · exact hs.distinct
  · exact hs.sublist.nodup h.records
  · intro a ha
    change a ∈ s'.allocated
    rw [hs.allocated]
    exact h.allocated a (hs.sublist.subset ha)
  · intro o
    rw [mem_unsubscribed, hs.subscriptions]
    exact iff_of_false (fun ho => ho.2 (hall o ho.1)) fun ho => ho.1 rfl
  · intro l hll
    rw [unsubscribed_of_ne hll, hs.subscriptions]

theorem Removed.renewed_some (hs : Removed s s' listener ownerList old) (h : Clean s)
    (hold : old ∈ s.subscribeRecords) (hl : (s.records old).eventListener = some listener)
    (hnone : ∀ o ∈ s.subscriptions listener, ¬Covers ownerList o) :
    Renewed s (unsubscribed s' listener ownerList) listener (some old) (s'.records old).owners := by
  have hlist : s'.subscribeRecords = s.subscribeRecords := by
    obtain ⟨-, hne, hnames⟩ := h.owners old hold listener hl
    obtain ⟨o, ho⟩ := List.exists_mem_of_ne_nil _ hne
    rw [hs.subscribeRecords, if_neg fun hall => hnone o ((hnames o).mp ho) (.inl hall)]
  obtain ⟨hlistener, -, hnames⟩ := hs.kept fun ⟨o, ho, hc⟩ => hnone o ho hc
  have hmine : ∀ a ∈ s.subscribeRecords, (s.records a).eventListener = some listener →
      a = old := fun a ha hal =>
    h.one a ha old hold listener hal hl
  constructor
  · rintro a ⟨⟩
    rw [← hlistener]
    rfl
  · intro a l
    change a ∈ s'.subscribeRecords ∧ (s'.records a).eventListener = some l ↔ _
    rw [hlist, Option.some_inj]
    by_cases hao : a = old
    · subst hao
      rw [hlistener, Option.some_inj]
      constructor
      · exact fun he => .inl ⟨rfl, he.2.symm⟩
      · rintro (⟨-, rfl⟩ | ⟨-, hal, hll⟩)
        · exact ⟨hold, rfl⟩
        · exact (hll (Option.some.inj (hal.symm.trans hl))).elim
    · rw [hs.others a hao, or_iff_right fun he => hao he.1.symm]
      exact and_congr_right fun ha => (and_iff_left_of_imp fun hal (hll : l = listener) =>
        hao (hmine a ha (hll ▸ hal))).symm
  · exact fun a _ l hll hal => hs.others a fun hao => hll (Option.some.inj (hal.symm.trans (hao ▸ hl)))
  · intro o a
    change a ∈ s'.ownerSubscribeRecords o ↔ _
    rw [hs.multisets, Option.some_inj, hnames]
    by_cases hao : a = old
    · subst hao
      rw [h.mem_old_iff hold hl]
      constructor
      · exact fun ho => .inl ⟨rfl, ho.1⟩
      · rintro (⟨-, ho⟩ | ⟨-, hal⟩)
        · exact ⟨ho, fun hc => hnone o ho hc.2⟩
        · exact (hal hl).elim
    · rw [or_iff_right fun he => hao he.1.symm]
      refine and_congr_right fun ha => iff_of_true (fun he => hao he.1) fun hal => ?_
      exact hao (hmine a ((h.listed o a).mp ha).1 hal)
  · exact hs.distinct
  · exact hs.sublist.nodup h.records
  · intro a ha
    change a ∈ s'.allocated
    rw [hs.allocated]
    exact h.allocated a (hs.sublist.subset ha)
  · intro o
    rw [mem_unsubscribed, hs.subscriptions, and_iff_right (Option.some_ne_none old), hnames]
    exact and_iff_left_of_imp (hnone o)
  · intro l hll
    rw [unsubscribed_of_ne hll, hs.subscriptions]

/-- What is left of the record of a listener that unsubscribes from some of its owners is nobody's. -/
theorem Removed.not_delivers (hs : Removed s s' listener ownerList old) (h : Clean s)
    (hold : old ∈ s.subscribeRecords) (hl : (s.records old).eventListener = some listener) {o o' : String}
    (ho : o ∈ s.subscriptions listener) (hc : Covers ownerList o) (ho' : o' ∈ s.subscriptions listener)
    (hc' : ¬Covers ownerList o') : ¬Delivers (unsubscribed s' listener ownerList) := by
  refine AccountSubscriptions.not_delivers ((mem_unsubscribed s' listener ownerList o').mpr
    ⟨by rw [hs.subscriptions]; exact ho', hc'⟩) fun a ha => ?_
  change (s'.records a).eventListener ≠ some listener
  by_cases hao : a = old
  · rw [hao, hs.released ⟨o, ho, hc⟩]
    exact (Option.some_ne_none listener).symm
  · have hlist := ((h.listed o' a).mp ((hs.multisets o' a).mp ha).1).1
    rw [hs.others a hao]
    exact fun hal => hao (h.one a hlist old hold listener hal hl)

theorem Clean.unsubscribe_none (h : Clean s)
    (hnone : ∀ a ∈ s.subscribeRecords, (s.records a).eventListener ≠ some listener) (ownerList : List String) :
    s.subscriptions listener = [] ∧
      unsubscribed (s.removeSubscribeRecord listener ownerList) listener ownerList = s := by
  have hsubs : s.subscriptions listener = [] := List.eq_nil_iff_forall_not_mem.mpr fun o ho => by
    obtain ⟨a, ha, hl⟩ := h.recorded listener o ho
    exact hnone a ha hl
  have hfind : s.subscribeRecords.find? (fun a => (s.records a).eventListener = some listener) = none :=
    List.find?_eq_none.mpr fun a ha => by simpa using hnone a ha
  refine ⟨hsubs, ?_⟩
  rw [State.removeSubscribeRecord, hfind]
  dsimp only
  rw [unsubscribed, subscribed, hsubs, List.filter_nil, ite_self, ← hsubs, update_eq_self]

end unsubscriptions

section failures

variable {s s' : State L} {listener : L} {owners : List String} {new old : Nat}

theorem Touched.record_owners {drops : String → Prop} {change : String → List Nat → List Nat} {os : List String}
    (hs : Touched old drops change os s s') (a : Nat) : (s'.records a).owners = (s.records a).owners := by
  by_cases ha : a = old
  · subst ha
    by_cases hd : ∃ owner ∈ os, drops owner ∧ a ∈ s.ownerSubscribeRecords owner
    · rw [hs.released hd]
    · rw [hs.kept hd]
  · rw [hs.others a ha]

theorem Touched.record_eventListener {drops : String → Prop} {change : String → List Nat → List Nat} {os : List String}
    (hs : Touched old drops change os s s') {a : Nat} {l : L} (hl : (s'.records a).eventListener = some l) :
    (s.records a).eventListener = some l := by
  by_cases ha : a = old
  · subst ha
    by_cases hd : ∃ owner ∈ os, drops owner ∧ a ∈ s.ownerSubscribeRecords owner
    · rw [hs.released hd] at hl
      cases hl
    · rwa [hs.kept hd] at hl
  · rwa [hs.others a ha] at hl

structure Silent (s : State L) (listener : L) (new : Nat) (owner : String) : Prop where
  new : ∀ l, (s.records new).eventListener ≠ some l
  records : ∀ a ∈ s.ownerSubscribeRecords owner, (s.records a).eventListener ≠ some listener

theorem setEventListener_none {a b : Nat} {l : L}
    (hl : ((s.setEventListener a none).records b).eventListener = some l) : (s.records b).eventListener = some l := by
  change (update s.records a _ b).eventListener = some l at hl
  rw [update_apply] at hl
  split_ifs at hl
  exact hl

theorem Silent.setRecordsOf {owner owner' : String} {as : List Nat} (h : Silent s listener new owner)
    (has : owner' = owner → ∀ a ∈ as, a = new ∨ a ∈ s.ownerSubscribeRecords owner) :
    Silent (s.setRecordsOf owner' as) listener new owner := by
  refine ⟨h.new, fun a ha => ?_⟩
  change a ∈ update s.ownerSubscribeRecords owner' as owner at ha
  rw [update_apply] at ha
  split_ifs at ha with ho
  · rcases has ho.symm a ha with rfl | ha
    · exact h.new listener
    · exact h.records a ha
  · exact h.records a ha

theorem exists_named_again (h : ¬owners.Nodup) :
    ∃ before owner after, owners = before ++ owner :: after ∧ before.Nodup ∧ owner ∈ before := by
  induction owners using List.reverseRecOn with
  | nil => exact (h List.nodup_nil).elim
  | append_singleton os o ih =>
      by_cases hos : os.Nodup
      · refine ⟨os, o, [], rfl, hos, ?_⟩
        by_contra ho
        exact h (hos.append (List.nodup_singleton o) (List.disjoint_singleton.mpr ho))
      · obtain ⟨before, owner, after, rfl, hnodup, hmem⟩ := ih hos
        exact ⟨before, owner, after ++ [o], by simp, hnodup, hmem⟩

variable [DecidableEq L]

variable {owner : String}

theorem Silent.insertAt (h : Silent s listener new owner) (owner' : String) :
    Silent (insertAt listener new s owner') listener new owner := by
  have hclear : Silent (s.clearOldData listener owner') listener new owner := by
    rw [State.clearOldData]
    split
    · exact h
    · next a _ =>
        have hreleased : Silent (s.setEventListener a none) listener new owner :=
          ⟨fun l hl => h.new l (setEventListener_none hl),
            fun b hb hl => h.records b hb (setEventListener_none hl)⟩
        exact hreleased.setRecordsOf fun ho b hb => .inr (ho ▸ List.mem_of_mem_erase hb)
  refine hclear.setRecordsOf fun ho a ha => ?_
  subst ho
  exact (List.mem_orderedInsert _).mp ha

theorem Silent.foldl (h : Silent s listener new owner) (os : List String) :
    Silent (os.foldl (AccountSubscriptions.insertAt listener new) s) listener new owner := by
  induction os generalizing s with
  | nil => exact h
  | cons o os ih => exact ih (h.insertAt o)

theorem Silent.replaceRecord (h : Silent s listener new owner) :
    Silent (s.replaceRecord listener new) listener new owner := by
  refine ⟨fun l hl => h.new l (replaceRecord_eventListener hl), fun a ha hl => ?_⟩
  rw [replaceRecord_ownerSubscribeRecords] at ha
  exact h.records a ha (replaceRecord_eventListener hl)

theorem Clean.silent (h : Clean s) (hnew : new ∉ s.allocated) {before after : List String}
    (howners : owners = before ++ owner :: after) (hnodup : before.Nodup) (hmem : owner ∈ before) :
    Silent (s.subscribeAppAccount owners listener new) listener new owner := by
  obtain ⟨old, hold⟩ := h.exists_old listener new
  have hs : Inserted s owners listener new old before _ := h.inserted hnew hold hnodup
  have hshape : s.subscribeAppAccount owners listener new =
      ((owners.foldl (insertAt listener new)
          (allocate s owners listener new)).replaceRecord listener new) := rfl
  have hsplit := congrArg (List.foldl (insertAt listener new) (allocate s owners listener new)) howners
  rw [List.foldl_append, List.foldl_cons] at hsplit
  rw [hshape, hsplit]
  refine (Silent.foldl ?_ after).replaceRecord
  generalize before.foldl (insertAt listener new) (allocate s owners listener new) = s₁ at hs
  have hset : s₁.ownerSubscribeRecords owner =
      ((s.ownerSubscribeRecords owner).erase old).orderedInsert (· ≤ ·) new :=
    hs.changed owner hmem
  have hnewmem : new ∈ s₁.ownerSubscribeRecords owner := by
    rw [hset, List.mem_orderedInsert]
    exact .inl rfl
  have hothers : ∀ a ∈ s₁.ownerSubscribeRecords owner, a ≠ new →
      ∃ l, l ≠ listener ∧ (s₁.records a).eventListener = some l := by
    intro a ha han
    rw [hset, List.mem_orderedInsert, or_iff_right han, (h.distinct owner).mem_erase_iff] at ha
    obtain ⟨hlist, hl, -⟩ := (h.listed owner a).mp ha.2
    obtain ⟨l, hl⟩ := Option.ne_none_iff_exists'.mp hl
    refine ⟨l, fun hll => ha.1 (hold.only a hlist (hll ▸ hl)), ?_⟩
    rw [hs.record_other han ha.1]
    exact hl
  have hrecord := hs.record_new h hnew
  have hap : Apart s₁ listener new owners owner := ⟨.inl (by rw [hrecord]), by rw [hrecord], hothers⟩
  have ht := insert_touched s₁ owner new hap
  have hnone : ((insertAt listener new s₁ owner).records new).eventListener = none := by
    rw [insertAt, ht.released ⟨owner, List.mem_singleton_self owner, trivial, hnewmem⟩]
  refine ⟨fun l hl => Option.some_ne_none l (hl.symm.trans hnone), fun a ha => ?_⟩
  by_cases han : a = new
  · rw [han, hnone]
    exact (Option.some_ne_none listener).symm
  · rw [insertAt, ht.changed owner (List.mem_singleton_self owner), List.mem_orderedInsert,
      or_iff_right han] at ha
    obtain ⟨l, hll, hl⟩ := hothers a (List.mem_of_mem_erase ha) han
    rw [insertAt, ht.others a han, hl]
    exact fun he => hll (Option.some.inj he)

theorem Clean.not_delivers_twice (h : Clean s) (hnew : new ∉ s.allocated) (hnodup : ¬owners.Nodup) :
    ¬Delivers (subscribed (s.subscribeAppAccount owners listener new) listener owners) := by
  obtain ⟨before, owner, after, howners, hbefore, hmem⟩ := exists_named_again hnodup
  have hsilent : Silent (s.subscribeAppAccount owners listener new) listener new owner :=
    h.silent hnew howners hbefore hmem
  have hsub : owner ∈
      (subscribed (s.subscribeAppAccount owners listener new) listener owners).subscriptions listener := by
    rw [subscribed_self, howners]
    exact List.mem_append_left _ hmem
  exact not_delivers hsub hsilent.records

theorem Clean.not_delivers_dropped (h : Clean s) (hnew : new ∉ s.allocated) (hnodup : owners.Nodup)
    (hsub : owner ∈ s.subscriptions listener) (howner : owner ∉ owners) :
    ¬Delivers (subscribed (s.subscribeAppAccount owners listener new) listener owners) := by
  obtain ⟨old, hlist, hl⟩ := h.recorded listener owner hsub
  have hold : Old s listener new old :=
    ⟨.inr ⟨hlist, hl⟩, fun a ha hal => h.one a ha old hlist listener hal hl⟩
  have hs : Inserted s owners listener new old owners _ := h.inserted hnew hold hnodup
  have hshape : s.subscribeAppAccount owners listener new =
      ((owners.foldl (insertAt listener new)
          (allocate s owners listener new)).replaceRecord listener new) := rfl
  rw [hshape]
  generalize owners.foldl (insertAt listener new) (allocate s owners listener new) = s₁ at hs
  have hset : (s₁.replaceRecord listener new).ownerSubscribeRecords owner =
      s.ownerSubscribeRecords owner := by
    rw [replaceRecord_ownerSubscribeRecords]
    exact hs.unchanged owner howner
  have hne : ∀ a ∈ s.ownerSubscribeRecords owner, a ≠ new := fun a ha he =>
    (h.new_not_mem hnew owner).2 (he ▸ ha)
  have hmem : old ∈ s.ownerSubscribeRecords owner := (h.mem_old_iff hlist hl owner).mpr hsub
  intro hdelivers
  have hfound : old ∈ (s₁.replaceRecord listener new).getSubscribeRecords owner := by
    rw [State.getSubscribeRecords, hset, List.takeWhile_eq_self_iff.mpr]
    · exact hmem
    · intro a ha
      rw [replaceRecord_owners, hs.record_owners, allocate_other (hne a ha)]
      exact decide_eq_true ((h.listed owner a).mp ha).2.2
  obtain ⟨l, hlistener, hnamed⟩ := ((hdelivers owner).2 _).mp (List.mem_map_of_mem hfound)
  have hmine := hs.record_eventListener (replaceRecord_eventListener hlistener)
  rw [allocate_other (hne old hmem), hl] at hmine
  obtain rfl := Option.some.inj hmine
  rw [subscribed_self] at hnamed
  exact howner hnamed

end failures

section runs

variable [DecidableEq L] {s : State L} {listener : L} {ownerList : List String}

omit [DecidableEq L] in
theorem Frame.refl (s : State L) (listener : L) : Frame s s listener :=
  ⟨fun _ _ _ => Iff.rfl, fun _ _ _ _ _ => rfl, fun _ _ => rfl⟩

theorem Clean.unsubscribe (h : Clean s)
    (hwhole : (∀ o ∈ s.subscriptions listener, Covers ownerList o) ∨
      ∀ o ∈ s.subscriptions listener, ¬Covers ownerList o) :
    Clean (unsubscribed (s.removeSubscribeRecord listener ownerList) listener ownerList) ∧
      Frame s (unsubscribed (s.removeSubscribeRecord listener ownerList) listener ownerList) listener := by
  by_cases hrecord : ∃ a ∈ s.subscribeRecords, (s.records a).eventListener = some listener
  · obtain ⟨old, hold, hl⟩ := hrecord
    have hremoved := h.removed hold hl ownerList
    rcases hwhole with hall | hnone
    · have hrenewed := hremoved.renewed_none h hold hl hall
      exact ⟨hrenewed.clean h fun he => (he rfl).elim, hrenewed.frame⟩
    · have hrenewed := hremoved.renewed_some h hold hl hnone
      obtain ⟨-, hnodup, hnames⟩ := hremoved.kept fun ⟨o, ho, hc⟩ => hnone o ho hc
      refine ⟨hrenewed.clean h fun _ => ⟨?_, hnodup⟩, hrenewed.frame⟩
      obtain ⟨-, hne, hnames'⟩ := h.owners old hold listener hl
      obtain ⟨o, ho⟩ := List.exists_mem_of_ne_nil _ hne
      exact List.ne_nil_of_mem ((hnames o).mpr ((hnames' o).mp ho))
  · rw [(h.unsubscribe_none (fun a ha hl => hrecord ⟨a, ha, hl⟩) ownerList).2]
    exact ⟨h, Frame.refl s listener⟩

theorem Clean.unsubscribe_iff (h : Clean s) :
    (∀ o ∈ s.subscriptions listener, Covers ownerList o) ∨ (∀ o ∈ s.subscriptions listener, ¬Covers ownerList o) ↔
      Delivers (unsubscribed (s.removeSubscribeRecord listener ownerList) listener ownerList) := by
  refine ⟨fun hwhole => (h.unsubscribe hwhole).1.delivers, fun hdelivers => ?_⟩
  by_contra hpart
  obtain ⟨hall, hnone⟩ := not_or.mp hpart
  push Not at hall hnone
  obtain ⟨o', ho', hc'⟩ := hall
  obtain ⟨o, ho, hc⟩ := hnone
  obtain ⟨old, hold, hl⟩ := h.recorded listener o ho
  exact (h.removed hold hl ownerList).not_delivers h hold hl ho hc ho' (not_or.mpr hc') hdelivers

theorem Clean.step (h : Clean s) {op : Operation L} (hop : Whole s op) :
    Clean (step s op) ∧ Frame s (step s op) op.eventListener := by
  cases op with
  | subscribeAppAccount owners eventListener accessible address =>
      rw [AccountSubscriptions.step]
      split_ifs with hrejected
      · exact ⟨h, Frame.refl s _⟩
      · obtain ⟨hne, haccessible, hnew⟩ : owners ≠ [] ∧ accessible ≠ false ∧ address ∉ s.allocated := by
          simpa only [not_or] using hrejected
        obtain ⟨hnodup, hall⟩ := ((hop.resolve_left hne).resolve_left haccessible).resolve_left hnew
        have hrenewed := h.renewed hnew hnodup hall
        exact ⟨hrenewed.clean h fun _ => ⟨hne, hnodup⟩, hrenewed.frame⟩
  | unsubscribeAppAccount eventListener owners =>
      refine h.unsubscribe ?_
      rcases hop with hall | hall | hnone
      · exact .inl fun _ _ => .inl hall
      · exact .inl fun o ho => .inr (hall o ho)
      · by_cases hne : owners = []
        · exact .inl fun _ _ => .inl hne
        · exact .inr fun o ho => not_or.mpr ⟨hne, hnone o ho⟩
  | onRemoteDied eventListener => exact h.unsubscribe (.inl fun _ _ => .inl rfl)

theorem Clean.whole_iff (h : Clean s) (op : Operation L) : Whole s op ↔ Correct s op := by
  refine ⟨fun hop => ?_, fun hcorrect => ?_⟩
  · obtain ⟨hclean, hframe⟩ := h.step hop
    exact ⟨hclean.delivers, hframe.separate h hclean⟩
  · obtain ⟨hdelivers, -⟩ := hcorrect
    cases op with
    | subscribeAppAccount owners eventListener accessible address =>
        rw [AccountSubscriptions.step] at hdelivers
        split_ifs at hdelivers with hrejected
        · rw [Whole]
          tauto
        · have hnew : address ∉ s.allocated := fun hn => hrejected (.inr (.inr hn))
          by_contra hpart
          have hnodup : owners.Nodup := not_not.mp fun hn => h.not_delivers_twice hnew hn hdelivers
          obtain ⟨owner, hsub, howner⟩ : ∃ o ∈ s.subscriptions eventListener, o ∉ owners := by
            rw [Whole] at hpart
            by_contra hall
            push Not at hall
            exact hpart (.inr (.inr (.inr ⟨hnodup, hall⟩)))
          exact h.not_delivers_dropped hnew hnodup hsub howner hdelivers
    | unsubscribeAppAccount eventListener owners =>
        rcases h.unsubscribe_iff.mpr hdelivers with hall | hnone
        · by_cases hne : owners = []
          · exact .inl hne
          · exact .inr (.inl fun o ho => (hall o ho).resolve_left hne)
        · exact .inr (.inr fun o ho => (not_or.mp (hnone o ho)).2)
    | onRemoteDied eventListener => trivial

omit [DecidableEq L] in
theorem clean_initial : Clean ({} : State L) := by
  constructor
  case distinct => exact fun _ => List.nodup_nil
  case records => exact List.nodup_nil
  case listed => exact fun _ a => iff_of_false List.not_mem_nil fun ha => List.not_mem_nil ha.1
  case recorded => exact fun _ _ ha => (List.not_mem_nil ha).elim
  all_goals exact fun _ ha => (List.not_mem_nil ha).elim

end runs

/-- Over a whole run the subscriptions are delivered once each and separately, if and only if every call is
a whole one. -/
theorem correct_run_iff [DecidableEq L] (ops : List (Operation L)) :
    Machine.Meets step Correct {} ops ↔ Machine.Meets step Whole {} ops :=
  (Machine.meets_congr (fun _ _ h hop => (h.step hop).1) (fun _ op h => h.whole_iff op) clean_initial).symm

def givesUpOne : List (Operation Nat) :=
  [.subscribeAppAccount ["com.a", "com.b"] 0 true 1, .unsubscribeAppAccount 0 ["com.a"]]

theorem not_correct_givesUpOne : ¬Machine.Meets step Correct {} givesUpOne := by
  intro h
  have hrecords := ((h.2.1.1 "com.b").2 (some 0)).mpr ⟨0, rfl, by decide +kernel⟩
  revert hrecords
  decide +kernel

end OsAccount.AccountSubscriptions
