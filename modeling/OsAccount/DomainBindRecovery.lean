import OsAccount.Machine
import OsAccount.OsAccountInfo
import Mathlib.Logic.Function.Basic

namespace OsAccount.DomainBindRecovery

open Function DomainAccountInfo

def isEmpty (info : DomainAccountInfo) : Bool :=
  info.domain == "" && info.accountName == "" && info.accountId == "" && info.serverConfigId == ""

/-- How an access turns out, with the plugin's reason for not unbinding, its full info of the account, and the
next account of the list that is looked through. -/
structure Outcome where
  ok : Bool
  notFound : Bool := false
  fullInfo : DomainAccountInfo := {}
  next : Option Int := none

inductive Recovery
  | reading
  | getFlag (record : DomainAccountInfo)
  | deleteFlag
  | unbind
  | deleteUnbound

inductive Progress
  | more (r : Recovery)
  | skipped
  | done
  | failed

inductive Stage
  | reading
  | operating
  | recovering (r : Recovery)
  | checkBound
  | scanning (id : Int) (r : Recovery)
  | getFullInfo
  | setFlag (fullInfo : DomainAccountInfo)
  | dropFlag
  | bindPlugin (fullInfo : DomainAccountInfo)
  | update (fullInfo : DomainAccountInfo)
  | rollback (r : Recovery)
  | finish (fullInfo : DomainAccountInfo)

structure Bind where
  localId : Int
  record : DomainAccountInfo := {}
  stage : Stage := .reading

def Bind.operates (b : Bind) : Prop :=
  match b.stage with
  | .reading | .operating => False
  | _ => True

instance (b : Bind) : Decidable b.operates :=
  match h : b.stage with
  | .reading | .operating => .isFalse (by rw [Bind.operates, h]; exact not_false)
  | .recovering _ | .checkBound | .scanning _ _ | .getFullInfo | .setFlag _ | .dropFlag | .bindPlugin _ | .update _
  | .rollback _ | .finish _ => .isTrue (by rw [Bind.operates, h]; trivial)

/-- The bindings of the plugin, the domain infos of the local records and the contents of the flag files, and
the calls: the bind that holds the mutex, and the recoveries of a clean by their accounts. -/
structure State where
  plugin : Int → DomainAccountInfo
  records : Int → DomainAccountInfo
  flags : Int → Option DomainAccountInfo := fun _ => none
  bind : Option Bind := none
  cleaning : Int → Option Recovery := fun _ => none

inductive Event
  | bindDomainAccount (localId : Int)
  | bindStep (o : Outcome)
  | clean (id : Int)
  | cleanStep (id : Int) (o : Outcome)
  | stop

namespace State

variable (s : State)

def setBinding (id : Int) (info : DomainAccountInfo) : State := { s with plugin := update s.plugin id info }

def setRecord (id : Int) (info : DomainAccountInfo) : State := { s with records := update s.records id info }

def setFlag (id : Int) (flag : Option DomainAccountInfo) : State := { s with flags := update s.flags id flag }

def setCleaning (id : Int) (r : Option Recovery) : State := { s with cleaning := update s.cleaning id r }

def deleteFlag (id : Int) (ok : Bool) : State × Bool :=
  if ok = true ∧ s.flags id ≠ none then (s.setFlag id none, true) else (s, false)

end State

def recoverBindDomainForUncomplete (record : DomainAccountInfo) : Recovery :=
  if isEmpty record then .unbind else .deleteFlag

/-- The next step of a recovery. That the plugin has no binding is as good as an unbinding. -/
def recoverStep (s : State) (id : Int) (o : Outcome) : Recovery → State × Progress
  | .reading => (s, if o.ok then .more (.getFlag (s.records id)) else .skipped)
  | .getFlag record =>
      if o.ok = false then (s, .failed)
      else
        match s.flags id with
        | none => (s, .done)
        | some _ => (s, .more (recoverBindDomainForUncomplete record))
  | .deleteFlag =>
      match s.deleteFlag id o.ok with
      | (s, true) => (s, .done)
      | (s, false) => (s, .failed)
  | .unbind =>
      if o.ok then (s.setBinding id {}, .more .deleteUnbound)
      else if o.notFound = true ∧ isEmpty (s.plugin id) = true then (s, .more .deleteUnbound)
      else (s, .failed)
  | .deleteUnbound => ((s.deleteFlag id o.ok).1, .done)

section steps

variable (localNameMaxSize : Nat)

/-- What a record has after `SetDomainInfo` and `UpdateOsAccount`. -/
def recorded (record info : DomainAccountInfo) : DomainAccountInfo := (setDomainInfo localNameMaxSize record info).stored

/-- The next step of a bind. What `SetDomainInfo` answers is not looked at. -/
def bindStep (s : State) (b : Bind) (o : Outcome) : State :=
  let go (s : State) (stage : Stage) : State := { s with bind := some { b with stage } }
  let ended (s : State) : State := { s with bind := none }
  match b.stage with
  | .reading =>
      if o.ok then { s with bind := some { b with record := s.records b.localId, stage := .operating } } else ended s
  | .operating =>
      if o.ok = true ∧ (s.cleaning b.localId).isNone = true then go s (.recovering (.getFlag b.record)) else ended s
  | .recovering r =>
      match recoverStep s b.localId o r with
      | (s, .more r) => go s (.recovering r)
      | (s, .done) => if isEmpty b.record then go s .checkBound else ended s
      | (s, _) => ended s
  | .checkBound =>
      match o.next with
      | some id => go s (.scanning id .reading)
      | none => if o.ok then go s .getFullInfo else ended s
  | .scanning id r =>
      match recoverStep s id o r with
      | (s, .more r) => go s (.scanning id r)
      | (s, .failed) => ended s
      | (s, _) => go s .checkBound
  | .getFullInfo => if o.ok then go s (.setFlag o.fullInfo) else ended s
  | .setFlag fullInfo =>
      if o.ok then go (s.setFlag b.localId (some fullInfo.stored)) (.bindPlugin fullInfo) else go s .dropFlag
  | .dropFlag => ended (s.deleteFlag b.localId o.ok).1
  | .bindPlugin fullInfo => if o.ok then go (s.setBinding b.localId fullInfo) (.update fullInfo) else go s .dropFlag
  | .update fullInfo =>
      if o.ok then
        go (s.setRecord b.localId (recorded localNameMaxSize b.record fullInfo)) (.finish fullInfo)
      else go s (.rollback (recoverBindDomainForUncomplete b.record))
  | .rollback r =>
      match recoverStep s b.localId o r with
      | (s, .more r) => go s (.rollback r)
      | (s, _) => ended s
  | .finish _ => ended (s.deleteFlag b.localId o.ok).1

def step (s : State) : Event → State
  | .bindDomainAccount localId => if s.bind.isSome then s else { s with bind := some { localId } }
  | .bindStep o =>
      match s.bind with
      | none => s
      | some b => bindStep localNameMaxSize s b o
  | .clean id =>
      if (s.cleaning id).isSome = true ∨ ∃ b ∈ s.bind, b.localId = id ∧ b.operates then s
      else s.setCleaning id (some .reading)
  | .cleanStep id o =>
      match s.cleaning id with
      | none => s
      | some r =>
          match recoverStep s id o r with
          | (s, .more r) => s.setCleaning id (some r)
          | (s, _) => s.setCleaning id none
  | .stop => { s with bind := none, cleaning := fun _ => none }

def initial (bound : Int → DomainAccountInfo) : State := { plugin := bound, records := bound }

/-- Without a flag file the plugin and the record agree, unless a bind of the account is in progress. -/
def Settled (s : State) : Prop :=
  ∀ id, (∀ b ∈ s.bind, b.localId ≠ id) → s.flags id = none → s.plugin id = s.records id

def recoveryOf (s : State) : Event → Option (Int × Recovery × Outcome)
  | .bindStep o =>
      match s.bind with
      | some ⟨id, _, .recovering r⟩ | some ⟨_, _, .scanning id r⟩ => some (id, r, o)
      | _ => none
  | .cleanStep id o => (s.cleaning id).map fun r => (id, r, o)
  | _ => none

/-- A recovery whose steps have all succeeded has removed the flag file, and the plugin and the
record agree. -/
def Recovers (s : State) (e : Event) : Prop :=
  ∀ id r o, recoveryOf s e = some (id, r, o) → o.ok = true → (recoverStep s id o r).2 = .done →
    (step localNameMaxSize s e).flags id = none ∧
      (step localNameMaxSize s e).plugin id = (step localNameMaxSize s e).records id

/-- A bind writes the full info or nothing of it into the record, and a bind that has the flag file deleted in the
end has a full info that the record takes. -/
def Harmless (s : State) : Event → Prop
  | .bindStep o =>
      ∀ b ∈ s.bind, o.ok = true → ∀ fullInfo,
        (b.stage = .update fullInfo → ¬Fits localNameMaxSize fullInfo ∨ isEmpty fullInfo.stored = true ∨
          fullInfo.stored = fullInfo) ∧
        (b.stage = .finish fullInfo →
          (Fits localNameMaxSize fullInfo ∧ fullInfo.stored = fullInfo) ∨ isEmpty fullInfo = true)
  | _ => True

end steps

section recoveries

variable {s s' : State} {id : Int} {o : Outcome}

theorem isEmpty_iff (info : DomainAccountInfo) : isEmpty info = true ↔ info = {} := by
  cases info
  simp [isEmpty, and_assoc]

def Knows (s : State) (id : Int) : Recovery → Prop
  | .reading => True
  | .getFlag record => record = s.records id
  | .deleteFlag => s.records id ≠ {}
  | .unbind => s.records id = {}
  | .deleteUnbound => s.records id = {} ∧ s.plugin id = {}

/-- Without a flag file the plugin and the record agree, and a record that is bound is bound in the plugin. -/
structure Bound (s : State) : Prop where
  settled : ∀ id, s.flags id = none → s.plugin id = s.records id
  bound : ∀ id, s.records id ≠ {} → s.plugin id = s.records id

/-- What a step of a recovery can do: an unbound record loses its binding in the plugin, and an account that
agrees with it its flag. -/
structure Recovered (s s' : State) (id : Int) : Prop where
  records : s'.records = s.records
  bind : s'.bind = s.bind
  cleaning : s'.cleaning = s.cleaning
  plugin : ∀ i, s'.plugin i = s.plugin i ∨ i = id ∧ s.records i = {} ∧ s'.plugin i = {}
  flags : ∀ i, s'.flags i = s.flags i ∨ i = id ∧ s'.flags i = none ∧ s'.plugin i = s.records i

theorem Recovered.refl (s : State) (id : Int) : Recovered s s id :=
  ⟨rfl, rfl, rfl, fun _ => .inl rfl, fun _ => .inl rfl⟩

theorem recovered_deleteFlag (hagree : s.plugin id = s.records id) (ok : Bool) :
    Recovered s (s.deleteFlag id ok).1 id := by
  rw [State.deleteFlag]
  split_ifs
  · refine ⟨rfl, rfl, rfl, fun _ => .inl rfl, fun i => ?_⟩
    by_cases hi : i = id
    · subst hi
      exact .inr ⟨rfl, update_self .., hagree⟩
    · exact .inl (update_of_ne hi ..)
  · exact Recovered.refl s id

theorem recovered_unbind (hempty : s.records id = {}) : Recovered s (s.setBinding id {}) id := by
  refine ⟨rfl, rfl, rfl, fun i => ?_, fun _ => .inl rfl⟩
  by_cases hi : i = id
  · subst hi
    exact .inr ⟨rfl, hempty, update_self ..⟩
  · exact .inl (update_of_ne hi ..)

variable {r : Recovery}

theorem Recovered.knows (hs : Recovered s s' id) {i : Int} (h : Knows s i r) : Knows s' i r := by
  cases r with
  | reading => trivial
  | getFlag record => rwa [Knows, hs.records]
  | deleteFlag => rwa [Knows, hs.records]
  | unbind => rwa [Knows, hs.records]
  | deleteUnbound =>
      rw [Knows, hs.records]
      rcases hs.plugin i with hp | ⟨-, -, hp⟩
      · rw [hp]
        exact h
      · exact ⟨h.1, hp⟩

theorem Recovered.bound (hs : Recovered s s' id) (h : Bound s) : Bound s' := by
  constructor
  · intro i hflag
    rw [hs.records]
    rcases hs.flags i with hf | ⟨-, -, hp⟩
    · rcases hs.plugin i with hp | ⟨-, hr, hp⟩
      · rw [hp]
        exact h.settled i (hf ▸ hflag)
      · rw [hp, hr]
    · exact hp
  · intro i hne
    rw [hs.records] at hne ⊢
    rcases hs.plugin i with hp | ⟨-, hr, -⟩
    · rw [hp]
      exact h.bound i hne
    · exact (hne hr).elim

theorem knows_recoverBindDomainForUncomplete {record : DomainAccountInfo} (h : record = s.records id) :
    Knows s id (recoverBindDomainForUncomplete record) := by
  rw [recoverBindDomainForUncomplete]
  split_ifs with hempty
  · exact h.symm.trans ((isEmpty_iff record).mp hempty)
  · exact fun hr => hempty ((isEmpty_iff record).mpr (h.trans hr))

theorem recovered_recoverStep (h : Bound s) (hr : Knows s id r) :
    Recovered s (recoverStep s id o r).1 id := by
  cases r with
  | reading => exact Recovered.refl s id
  | getFlag record =>
      rw [recoverStep]
      split_ifs
      · exact Recovered.refl s id
      · split <;> exact Recovered.refl s id
  | deleteFlag =>
      have hdelete := recovered_deleteFlag (h.bound id hr) o.ok
      rw [recoverStep]
      split <;> next heq => rwa [heq] at hdelete
  | unbind =>
      rw [recoverStep]
      split_ifs
      · exact recovered_unbind hr
      · exact Recovered.refl s id
      · exact Recovered.refl s id
  | deleteUnbound => exact recovered_deleteFlag (hr.2.trans hr.1.symm) o.ok

theorem knows_recoverStep {r r' : Recovery} (hr : Knows s id r) (hmore : (recoverStep s id o r).2 = .more r') :
    Knows (recoverStep s id o r).1 id r' := by
  cases r with
  | reading =>
      simp only [recoverStep] at hmore ⊢
      split_ifs at hmore
      cases hmore
      rfl
  | getFlag record =>
      rw [recoverStep] at hmore ⊢
      split_ifs at hmore ⊢
      split at hmore
      · cases hmore
      · cases hmore
        exact knows_recoverBindDomainForUncomplete hr
  | deleteFlag =>
      rw [recoverStep] at hmore
      split at hmore <;> cases hmore
  | unbind =>
      rw [recoverStep] at hmore ⊢
      split_ifs at hmore ⊢ with hok hnot
      · cases hmore
        exact ⟨hr, update_self ..⟩
      · cases hmore
        exact ⟨hr, (isEmpty_iff _).mp hnot.2⟩
  | deleteUnbound => cases hmore

theorem deleteFlag_flags (s : State) (id : Int) : (s.deleteFlag id true).1.flags id = none := by
  rw [State.deleteFlag]
  split_ifs with hflag
  · exact update_self ..
  · exact not_not.mp fun hn => hflag ⟨rfl, hn⟩

/-- Where a recovery is done, the plugin has the binding of the record, and if the last step has succeeded there
is no flag. -/
theorem done_recoverStep (h : Bound s) (hr : Knows s id r) (hdone : (recoverStep s id o r).2 = .done) :
    (recoverStep s id o r).1.plugin id = s.records id ∧
      (o.ok = true → (recoverStep s id o r).1.flags id = none) := by
  cases r with
  | reading =>
      rw [recoverStep] at hdone
      split_ifs at hdone
  | getFlag record =>
      rw [recoverStep] at hdone ⊢
      split_ifs at hdone ⊢
      split at hdone
      · next hflag =>
          rw [hflag]
          exact ⟨h.settled id hflag, fun _ => rfl⟩
      · cases hdone
  | deleteFlag =>
      have hflags : o.ok = true → (s.deleteFlag id o.ok).1.flags id = none := fun hok => by
        rw [hok]
        exact deleteFlag_flags s id
      have hplugin : (s.deleteFlag id o.ok).1.plugin id = s.records id := by
        rw [State.deleteFlag]
        split_ifs <;> exact h.bound id hr
      rw [recoverStep] at hdone ⊢
      split at hdone
      · next heq =>
          rw [heq] at hflags hplugin
          exact ⟨hplugin, hflags⟩
      · cases hdone
  | unbind =>
      rw [recoverStep] at hdone
      split_ifs at hdone
  | deleteUnbound =>
      rw [recoverStep]
      refine ⟨?_, fun hok => ?_⟩
      · rw [State.deleteFlag]
        split_ifs <;> exact hr.2.trans hr.1.symm
      · rw [hok]
        exact deleteFlag_flags s id

end recoveries

section calls

variable {localNameMaxSize : Nat} {s s' : State} {id : Int}

/-- A full info that is recorded as a whole or not at all is recorded as a whole, if anything is. -/
theorem recorded_eq_self {fullInfo : DomainAccountInfo}
    (h : ¬Fits localNameMaxSize fullInfo ∨ isEmpty fullInfo.stored = true ∨ fullInfo.stored = fullInfo)
    (hne : recorded localNameMaxSize {} fullInfo ≠ {}) : recorded localNameMaxSize {} fullInfo = fullInfo := by
  rw [recorded, setDomainInfo] at hne ⊢
  split_ifs at hne ⊢ with hfits
  · exact (h.resolve_left (not_not.mpr hfits)).resolve_left fun hempty => hne ((isEmpty_iff _).mp hempty)
  · exact (hne rfl).elim

theorem recorded_eq_iff (localNameMaxSize : Nat) (fullInfo : DomainAccountInfo) :
    recorded localNameMaxSize {} fullInfo = fullInfo ↔
      (Fits localNameMaxSize fullInfo ∧ fullInfo.stored = fullInfo) ∨ isEmpty fullInfo = true := by
  have hnone : ({} : DomainAccountInfo).stored = {} := rfl
  rw [recorded, setDomainInfo, isEmpty_iff]
  split_ifs with hfits
  · refine ⟨fun h => .inl ⟨hfits, h⟩, fun h => ?_⟩
    rcases h with ⟨-, h⟩ | rfl
    · exact h
    · exact hnone
  · rw [hnone]
    exact ⟨fun h => .inr h.symm, fun h => (h.resolve_left fun h => hfits h.1).symm⟩

def Blank (s : State) (b : Bind) : Prop :=
  b.record = {} ∧ s.records b.localId = {} ∧ s.plugin b.localId = {}

def StageInv (localNameMaxSize : Nat) (s : State) (b : Bind) : Prop :=
  match b.stage with
  | .reading => True
  | .operating => b.record = s.records b.localId
  | .recovering r => b.record = s.records b.localId ∧ Knows s b.localId r
  | .checkBound | .getFullInfo | .setFlag _ | .dropFlag => Blank s b
  | .scanning id r => Blank s b ∧ Knows s id r
  | .bindPlugin _ => Blank s b ∧ s.flags b.localId ≠ none
  | .update fullInfo =>
      b.record = {} ∧ s.records b.localId = {} ∧ s.plugin b.localId = fullInfo ∧ s.flags b.localId ≠ none
  | .rollback r => s.records b.localId = {} ∧ Knows s b.localId r
  | .finish fullInfo =>
      s.records b.localId = recorded localNameMaxSize {} fullInfo ∧ s.plugin b.localId = fullInfo ∧
        s.flags b.localId ≠ none

structure Sound (localNameMaxSize : Nat) (s : State) : Prop extends Bound s where
  cleaning : ∀ id r, s.cleaning id = some r → Knows s id r
  bind : ∀ b ∈ s.bind, StageInv localNameMaxSize s b
  exclusive : ∀ b ∈ s.bind, b.operates → s.cleaning b.localId = none

variable {b : Bind}

theorem Recovered.blank (hs : Recovered s s' id) (h : Blank s b) : Blank s' b := by
  obtain ⟨hrecord, hr, hp⟩ := h
  refine ⟨hrecord, by rw [hs.records]; exact hr, ?_⟩
  rcases hs.plugin b.localId with hsame | ⟨-, -, hempty⟩
  · rw [hsame, hp]
  · exact hempty

/-- A step of a recovery leaves what a bind of another account knows, or of the same account where it does not
operate yet. -/
theorem Recovered.stageInv (hs : Recovered s s' id) (hne : b.operates → b.localId ≠ id)
    (h : StageInv localNameMaxSize s b) : StageInv localNameMaxSize s' b := by
  obtain ⟨localId, record, stage⟩ := b
  cases stage with
  | reading => trivial
  | operating => exact h.trans (congrFun hs.records localId).symm
  | recovering r => exact ⟨h.1.trans (congrFun hs.records localId).symm, hs.knows h.2⟩
  | checkBound => exact hs.blank h
  | getFullInfo => exact hs.blank h
  | setFlag fullInfo => exact hs.blank h
  | dropFlag => exact hs.blank h
  | scanning i r => exact ⟨hs.blank h.1, hs.knows h.2⟩
  | rollback r => exact ⟨(congrFun hs.records localId).trans h.1, hs.knows h.2⟩
  | bindPlugin fullInfo =>
      have hflag := (hs.flags localId).resolve_right fun hi => hne trivial hi.1
      exact ⟨hs.blank h.1, fun hn => h.2 (hflag.symm.trans hn)⟩
  | update fullInfo =>
      have hflag := (hs.flags localId).resolve_right fun hi => hne trivial hi.1
      have hplugin := (hs.plugin localId).resolve_right fun hi => hne trivial hi.1
      obtain ⟨hrecord, hr, hp, hf⟩ := h
      exact ⟨hrecord, (congrFun hs.records localId).trans hr, hplugin.trans hp,
        fun hn => hf (hflag.symm.trans hn)⟩
  | finish fullInfo =>
      have hflag := (hs.flags localId).resolve_right fun hi => hne trivial hi.1
      have hplugin := (hs.plugin localId).resolve_right fun hi => hne trivial hi.1
      obtain ⟨hr, hp, hf⟩ := h
      exact ⟨(congrFun hs.records localId).trans hr, hplugin.trans hp, fun hn => hf (hflag.symm.trans hn)⟩

variable {r : Recovery}

theorem Recovered.cleaning_knows (hs : Recovered s s' id) (h : Sound localNameMaxSize s) {i : Int}
    (hr : s'.cleaning i = some r) : Knows s' i r := hs.knows (h.cleaning i r (hs.cleaning ▸ hr))

theorem Sound.ended (h : Sound localNameMaxSize s) : Sound localNameMaxSize { s with bind := none } :=
  ⟨⟨h.settled, h.bound⟩, h.cleaning, fun _ hb => (Option.some_ne_none _ hb.symm).elim,
    fun _ hb => (Option.some_ne_none _ hb.symm).elim⟩

theorem Sound.go (hs : Bound s) (hcleaning : ∀ id r, s.cleaning id = some r → Knows s id r)
    (hstage : StageInv localNameMaxSize s b) (hexclusive : b.operates → s.cleaning b.localId = none) :
    Sound localNameMaxSize { s with bind := some b } := by
  refine ⟨⟨hs.settled, hs.bound⟩, hcleaning, fun b' hb => ?_, fun b' hb => ?_⟩
  · obtain rfl := Option.mem_some_iff.mp hb
    exact hstage
  · obtain rfl := Option.mem_some_iff.mp hb
    exact hexclusive

theorem Sound.recovered (h : Sound localNameMaxSize s) (hs : Recovered s s' id)
    (hstage : StageInv localNameMaxSize s' b) (hexclusive : b.operates → s.cleaning b.localId = none) :
    Sound localNameMaxSize { s' with bind := some b } :=
  Sound.go (hs.bound h.toBound) (fun _ _ hr =>
    hs.cleaning_knows h hr) hstage fun ho => hs.cleaning ▸ hexclusive ho

theorem Sound.recovered_ended (h : Sound localNameMaxSize s) (hs : Recovered s s' id) :
    Sound localNameMaxSize { s' with bind := none } :=
  ⟨⟨(hs.bound h.toBound).settled, (hs.bound h.toBound).bound⟩, fun _ _ hr => hs.cleaning_knows h hr,
    fun _ hb => (Option.some_ne_none _ hb.symm).elim, fun _ hb => (Option.some_ne_none _ hb.symm).elim⟩

theorem Sound.written {b b' : Bind} (h : Sound localNameMaxSize s) (hid : b'.localId = b.localId)
    (hplugin : ∀ i, i ≠ b.localId → s'.plugin i = s.plugin i)
    (hrecords : ∀ i, i ≠ b.localId → s'.records i = s.records i)
    (hflags : ∀ i, i ≠ b.localId → s'.flags i = s.flags i) (hcleaning : s'.cleaning = s.cleaning)
    (hnone : s.cleaning b.localId = none) (hflag : s'.flags b.localId ≠ none)
    (hbound : s'.records b.localId ≠ {} → s'.plugin b.localId = s'.records b.localId)
    (hstage : StageInv localNameMaxSize s' b') : Sound localNameMaxSize { s' with bind := some b' } := by
  refine Sound.go ⟨fun i hi => ?_, fun i hi => ?_⟩ (fun i r hr => ?_) hstage fun _ => ?_
  · by_cases hib : i = b.localId
    · exact (hflag (hib ▸ hi)).elim
    · rw [hplugin i hib, hrecords i hib]
      exact h.settled i (hflags i hib ▸ hi)
  · by_cases hib : i = b.localId
    · subst hib
      exact hbound hi
    · rw [hplugin i hib, hrecords i hib]
      exact h.bound i (hrecords i hib ▸ hi)
  · rw [hcleaning] at hr
    have hib : i ≠ b.localId := by
      rintro rfl
      exact Option.some_ne_none r (hr.symm.trans hnone)
    have hknows := h.cleaning i r hr
    cases r with
    | reading => trivial
    | getFlag record => exact hknows.trans (hrecords i hib).symm
    | deleteFlag => exact fun hn => hknows ((hrecords i hib).symm.trans hn)
    | unbind => exact (hrecords i hib).trans hknows
    | deleteUnbound => exact ⟨(hrecords i hib).trans hknows.1, (hplugin i hib).trans hknows.2⟩
  · rw [hcleaning, hid]
    exact hnone

theorem Sound.bindStep {o : Outcome} (h : Sound localNameMaxSize s) (hb : s.bind = some b)
    (hharmless : Harmless localNameMaxSize s (.bindStep o)) :
    Sound localNameMaxSize (bindStep localNameMaxSize s b o) := by
  have hstage := h.bind b hb
  have hexclusive := h.exclusive b hb
  have hgo : ∀ b', StageInv localNameMaxSize s b' → (b'.operates → s.cleaning b'.localId = none) →
      Sound localNameMaxSize { s with bind := some b' } := fun b' => Sound.go h.toBound h.cleaning
  obtain ⟨localId, record, stage⟩ := b
  rw [DomainBindRecovery.bindStep]
  dsimp only
  cases stage with
  | reading =>
      dsimp only
      split_ifs
      · exact hgo _ rfl fun ho => ho.elim
      · exact h.ended
  | operating =>
      dsimp only
      split_ifs with hok
      · exact hgo _ ⟨hstage, hstage⟩ fun _ => Option.isNone_iff_eq_none.mp hok.2
      · exact h.ended
  | recovering r =>
      have hrec : Recovered s (recoverStep s localId o r).1 localId :=
        recovered_recoverStep h.toBound hstage.2
      have hrecord : record = (recoverStep s localId o r).1.records localId :=
        hstage.1.trans (congrFun hrec.records localId).symm
      dsimp only
      split
      · next s' r' heq =>
          have hknows := knows_recoverStep hstage.2 (congrArg Prod.snd heq)
          rw [heq] at hrec hknows hrecord
          exact h.recovered hrec ⟨hrecord, hknows⟩ hexclusive
      · next s' heq =>
          have hdone := (done_recoverStep h.toBound hstage.2 (congrArg Prod.snd heq)).1
          rw [heq] at hrec hdone hrecord
          split_ifs with hempty
          · have hnone := (isEmpty_iff record).mp hempty
            have hr : s'.records localId = {} := hrecord.symm.trans hnone
            exact h.recovered hrec ⟨hnone, hr,
              hdone.trans ((congrFun hrec.records localId).symm.trans hr)⟩ hexclusive
          · exact h.recovered_ended hrec
      · next s' _ _ _ heq =>
          rw [heq] at hrec
          exact h.recovered_ended hrec
  | checkBound =>
      dsimp only
      split
      · exact hgo _ ⟨hstage, trivial⟩ hexclusive
      · split_ifs
        · exact hgo _ hstage hexclusive
        · exact h.ended
  | scanning i r =>
      have hrec : Recovered s (recoverStep s i o r).1 i := recovered_recoverStep h.toBound hstage.2
      dsimp only
      split
      · next s' r' heq =>
          have hknows := knows_recoverStep hstage.2 (congrArg Prod.snd heq)
          rw [heq] at hrec hknows
          exact h.recovered hrec ⟨hrec.blank hstage.1, hknows⟩ hexclusive
      · next s' heq =>
          rw [heq] at hrec
          exact h.recovered_ended hrec
      · next s' _ _ _ heq =>
          rw [heq] at hrec
          exact h.recovered hrec (hrec.blank hstage.1) hexclusive
  | getFullInfo =>
      dsimp only
      split_ifs
      · exact hgo _ hstage hexclusive
      · exact h.ended
  | setFlag fullInfo =>
      obtain ⟨hrecord, hr, hp⟩ := hstage
      have hflag : (s.setFlag localId (some fullInfo.stored)).flags localId = some fullInfo.stored :=
        update_self ..
      dsimp only
      split_ifs
      · refine h.written (b := ⟨localId, record, .setFlag fullInfo⟩) rfl (fun _ _ => rfl) (fun _ _ => rfl)
          (fun i hi => update_of_ne hi ..) rfl (hexclusive trivial) ?_ (fun hne => (hne hr).elim) ?_
        · rw [hflag]
          exact Option.some_ne_none fullInfo.stored
        · exact ⟨⟨hrecord, hr, hp⟩, by rw [hflag]; exact Option.some_ne_none fullInfo.stored⟩
      · exact hgo _ ⟨hrecord, hr, hp⟩ hexclusive
  | dropFlag =>
      obtain ⟨-, hr, hp⟩ := hstage
      exact h.recovered_ended (recovered_deleteFlag (hp.trans hr.symm) o.ok)
  | bindPlugin fullInfo =>
      obtain ⟨⟨hrecord, hr, hp⟩, hflag⟩ := hstage
      dsimp only
      split_ifs
      · exact h.written (b := ⟨localId, record, .bindPlugin fullInfo⟩) rfl
          (fun i hi => update_of_ne hi ..)
          (fun _ _ => rfl) (fun _ _ => rfl) rfl (hexclusive trivial) hflag (fun hne => (hne hr).elim)
          ⟨hrecord, hr, update_self .., hflag⟩
      · exact hgo _ ⟨hrecord, hr, hp⟩ hexclusive
  | update fullInfo =>
      obtain ⟨hrecord, hr, hp, hflag⟩ := hstage
      dsimp only at hrecord hr hp hflag ⊢
      subst hrecord
      split_ifs with hok
      · have hset : (s.setRecord localId (recorded localNameMaxSize {} fullInfo)).records localId =
            recorded localNameMaxSize {} fullInfo := update_self ..
        refine h.written (b := ⟨localId, {}, .update fullInfo⟩) rfl (fun _ _ => rfl)
          (fun i hi => update_of_ne hi ..) (fun _ _ => rfl) rfl
            (hexclusive trivial) hflag (fun hne => ?_)
          ⟨hset, hp, hflag⟩
        rw [hset] at hne ⊢
        have hwhole := recorded_eq_self ((hharmless _ hb hok fullInfo).1 rfl) hne
        exact hp.trans hwhole.symm
      · exact hgo _ ⟨hr, knows_recoverBindDomainForUncomplete hr.symm⟩ hexclusive
  | rollback r =>
      have hrec : Recovered s (recoverStep s localId o r).1 localId :=
        recovered_recoverStep h.toBound hstage.2
      dsimp only
      split
      · next s' r' heq =>
          have hknows := knows_recoverStep hstage.2 (congrArg Prod.snd heq)
          rw [heq] at hrec hknows
          exact h.recovered hrec ⟨(congrFun hrec.records localId).trans hstage.1, hknows⟩ hexclusive
      · next s' _ _ heq =>
          rw [heq] at hrec
          exact h.recovered_ended hrec
  | finish fullInfo =>
      obtain ⟨hr, hp, -⟩ := hstage
      dsimp only at hr hp ⊢
      cases hok : o.ok with
      | false => exact h.ended
      | true =>
          refine h.recovered_ended (recovered_deleteFlag ?_ true)
          rw [hr, hp]
          exact ((recorded_eq_iff localNameMaxSize fullInfo).mpr ((hharmless _ hb hok fullInfo).2 rfl)).symm

theorem Sound.setCleaning (h : Sound localNameMaxSize s) {next : Option Recovery}
    (hknows : ∀ r, next = some r → Knows s id r) (hfree : ∀ b ∈ s.bind, b.operates → b.localId ≠ id) :
    Sound localNameMaxSize (s.setCleaning id next) := by
  refine ⟨⟨h.settled, h.bound⟩, fun i r hr => ?_, h.bind, fun b hb ho => ?_⟩
  · change update s.cleaning id next i = some r at hr
    rw [update_apply] at hr
    split_ifs at hr with hi
    · exact hi ▸ hknows r hr
    · exact h.cleaning i r hr
  · exact (update_of_ne (hfree b hb ho) ..).trans (h.exclusive b hb ho)

theorem Sound.not_operates (h : Sound localNameMaxSize s) (hr : s.cleaning id = some r) :
    ∀ b ∈ s.bind, b.operates → b.localId ≠ id := by
  rintro b hb ho rfl
  exact Option.some_ne_none r (hr.symm.trans (h.exclusive b hb ho))

theorem Sound.cleanStep {o : Outcome} (h : Sound localNameMaxSize s) (hr : s.cleaning id = some r)
    (next : Option Recovery) (hnext : ∀ r', next = some r' → (recoverStep s id o r).2 = .more r') :
    Sound localNameMaxSize ((recoverStep s id o r).1.setCleaning id next) := by
  have hknows := h.cleaning id r hr
  have hrec : Recovered s (recoverStep s id o r).1 id := recovered_recoverStep h.toBound hknows
  have hfree := h.not_operates hr
  have hsound : Sound localNameMaxSize (recoverStep s id o r).1 := by
    refine ⟨hrec.bound h.toBound, fun _ _ hr => hrec.cleaning_knows h hr, fun b hb => ?_, fun b hb ho => ?_⟩
    · rw [hrec.bind] at hb
      exact hrec.stageInv (hfree b hb) (h.bind b hb)
    · rw [hrec.bind] at hb
      rw [hrec.cleaning]
      exact h.exclusive b hb ho
  exact hsound.setCleaning (fun r' hr' => knows_recoverStep hknows
    (hnext r' hr')) fun b hb => hfree b (hrec.bind ▸ hb)

theorem Sound.step (h : Sound localNameMaxSize s) {e : Event} (he : Harmless localNameMaxSize s e) :
    Sound localNameMaxSize (step localNameMaxSize s e) := by
  cases e with
  | bindDomainAccount localId =>
      rw [DomainBindRecovery.step]
      split_ifs
      · exact h
      · exact Sound.go h.toBound h.cleaning trivial fun ho => ho.elim
  | bindStep o =>
      rw [DomainBindRecovery.step]
      split
      · exact h
      · next b hb => exact h.bindStep hb he
  | clean id =>
      rw [DomainBindRecovery.step]
      split_ifs with hbusy
      · exact h
      · refine h.setCleaning (fun r hr => ?_) fun b hb ho hid => (not_or.mp hbusy).2 ⟨b, hb, hid, ho⟩
        cases hr
        trivial
  | cleanStep id o =>
      rw [DomainBindRecovery.step]
      split
      · exact h
      · next r hr =>
          split
          · next s' r' heq =>
              have hsound := h.cleanStep (o := o) hr (some r') fun r'' hr'' => by
                rw [heq, Option.some.inj hr'']
              rwa [heq] at hsound
          · next s' _ _ heq =>
              have hsound := h.cleanStep (o := o) hr none fun r'' hr'' =>
                (Option.some_ne_none r'' hr''.symm).elim
              rwa [heq] at hsound
  | stop =>
      exact ⟨⟨h.settled, h.bound⟩, fun _ _ hr => (Option.some_ne_none _ hr.symm).elim,
        fun _ hb => (Option.some_ne_none _ hb.symm).elim, fun _ hb => (Option.some_ne_none _ hb.symm).elim⟩

theorem Sound.recovers (h : Sound localNameMaxSize s) (e : Event) : Recovers localNameMaxSize s e := by
  intro id r o hrecovery hok hdone
  have hfound : ∀ s', recoverStep s id o r = (s', .done) → Knows s id r →
      s'.flags id = none ∧ s'.plugin id = s'.records id := by
    intro s' heq hr
    have hrec : Recovered s (recoverStep s id o r).1 id := recovered_recoverStep h.toBound hr
    obtain ⟨hplugin, hflag⟩ := done_recoverStep h.toBound hr (congrArg Prod.snd heq)
    rw [heq] at hrec hplugin hflag
    exact ⟨hflag hok, hplugin.trans (congrFun hrec.records id).symm⟩
  obtain ⟨s', heq⟩ : ∃ s', recoverStep s id o r = (s', .done) := ⟨_, Prod.ext rfl hdone⟩
  cases e with
  | bindStep o' =>
      rw [recoveryOf] at hrecovery
      split at hrecovery
      · next hb =>
          cases hrecovery
          have hagree := hfound s' heq (h.bind _ hb).2
          rw [DomainBindRecovery.step, hb]
          dsimp only
          rw [DomainBindRecovery.bindStep]
          dsimp only
          rw [heq]
          dsimp only
          split_ifs <;> exact hagree
      · next hb =>
          cases hrecovery
          have hagree := hfound s' heq (h.bind _ hb).2
          rw [DomainBindRecovery.step, hb]
          dsimp only
          rw [DomainBindRecovery.bindStep]
          dsimp only
          rw [heq]
          exact hagree
      · cases hrecovery
  | cleanStep id' o' =>
      rw [recoveryOf, Option.map_eq_some_iff] at hrecovery
      obtain ⟨r', hr', hsame⟩ := hrecovery
      cases hsame
      have hagree := hfound s' heq (h.cleaning _ _ hr')
      rw [DomainBindRecovery.step, hr']
      dsimp only
      rw [heq]
      exact hagree
  | bindDomainAccount localId => cases hrecovery
  | clean id' => cases hrecovery
  | stop => cases hrecovery

theorem sound_initial (bound : Int → DomainAccountInfo) : Sound localNameMaxSize (initial bound) :=
  ⟨⟨fun _ _ => rfl, fun _ _ => rfl⟩, fun _ _ hr => (Option.some_ne_none _ hr.symm).elim,
    fun _ hb => (Option.some_ne_none _ hb.symm).elim, fun _ hb => (Option.some_ne_none _ hb.symm).elim⟩

end calls

section runs

variable {localNameMaxSize : Nat} {s : State} {id : Int}

def Free (s : State) (id : Int) : Prop := s.cleaning id = none ∧ ¬∃ b ∈ s.bind, b.localId = id ∧ b.operates

def recovery (id : Int) : List Event :=
  [.clean id, .cleanStep id { ok := true }, .cleanStep id { ok := true }, .cleanStep id { ok := true },
    .cleanStep id { ok := true }]

theorem step_cleanStep {r : Recovery} (hr : s.cleaning id = some r) (o : Outcome) :
    step localNameMaxSize s (.cleanStep id o) =
      match recoverStep s id o r with
      | (s, .more r) => s.setCleaning id (some r)
      | (s, _) => s.setCleaning id none := by
  rw [step, hr]

theorem step_cleanStep_none (hr : s.cleaning id = none) (o : Outcome) :
    step localNameMaxSize s (.cleanStep id o) = s := by
  rw [step, hr]

theorem setCleaning_cleaning (s : State) (id : Int) (r : Option Recovery) : (s.setCleaning id r).cleaning id = r :=
  update_self ..

theorem run_flagged {record : DomainAccountInfo} (hs : s.cleaning id = some (recoverBindDomainForUncomplete record))
    (hflag : s.flags id ≠ none) :
    (Machine.run (step localNameMaxSize) s [.cleanStep id { ok := true }, .cleanStep id { ok := true }]).flags id =
      none := by
  rw [Machine.run_cons, step_cleanStep hs, recoverBindDomainForUncomplete]
  split_ifs
  · have hunbind : recoverStep s id { ok := true } .unbind = (s.setBinding id {}, .more .deleteUnbound) := rfl
    rw [hunbind]
    dsimp only
    rw [Machine.run_cons, step_cleanStep (setCleaning_cleaning ..)]
    exact deleteFlag_flags _ id
  · have hdelete : s.deleteFlag id true = (s.setFlag id none, true) := if_pos ⟨rfl, hflag⟩
    have hdone : recoverStep s id { ok := true } .deleteFlag = (s.setFlag id none, .done) := by
      rw [recoverStep]
      dsimp only
      rw [hdelete]
    rw [hdone]
    dsimp only
    rw [Machine.run_cons, step_cleanStep_none (setCleaning_cleaning ..)]
    exact update_self ..

theorem recovery_flags (localNameMaxSize : Nat) (hfree : Free s id) :
    (Machine.run (step localNameMaxSize) s (recovery id)).flags id = none := by
  obtain ⟨hnone, hbusy⟩ := hfree
  have hclean : step localNameMaxSize s (.clean id) = s.setCleaning id (some .reading) := by
    rw [step, if_neg]
    rw [hnone]
    exact not_or.mpr ⟨Bool.false_ne_true, hbusy⟩
  have hread : ∀ t : State, recoverStep t id { ok := true } .reading = (t, .more (.getFlag (t.records id))) :=
    fun _ => rfl
  have hget : ∀ (t : State) (record : DomainAccountInfo), recoverStep t id { ok := true } (.getFlag record) =
      match t.flags id with
      | none => (t, .done)
      | some _ => (t, .more (recoverBindDomainForUncomplete record)) := fun _ _ => rfl
  rw [recovery, Machine.run_cons, hclean, Machine.run_cons, step_cleanStep (setCleaning_cleaning ..), hread]
  dsimp only
  rw [Machine.run_cons, step_cleanStep (setCleaning_cleaning ..), hget]
  have hflags : ∀ r r' : Option Recovery, ((s.setCleaning id r).setCleaning id r').flags id = s.flags id :=
    fun _ _ => rfl
  rw [hflags]
  cases hflag : s.flags id with
  | none =>
      dsimp only
      rw [Machine.run_cons, step_cleanStep_none (setCleaning_cleaning ..), Machine.run_cons,
        step_cleanStep_none (setCleaning_cleaning ..)]
      exact hflag
  | some flag =>
      refine run_flagged (setCleaning_cleaning ..) ?_
      exact fun hn => Option.some_ne_none flag (hflag.symm.trans hn)

/-- A recovery of a free account whose steps all succeed removes the flag file, and then the plugin and the record
agree. -/
theorem Sound.recovery (h : Sound localNameMaxSize s) (hfree : Free s id) :
    (Machine.run (DomainBindRecovery.step localNameMaxSize) s (recovery id)).flags id = none ∧
      (Machine.run (DomainBindRecovery.step localNameMaxSize) s (recovery id)).plugin id =
        (Machine.run (DomainBindRecovery.step localNameMaxSize) s (recovery id)).records id := by
  have hflags := recovery_flags localNameMaxSize hfree
  have hsound : Sound localNameMaxSize
      (Machine.run (DomainBindRecovery.step localNameMaxSize) s (DomainBindRecovery.recovery id)) :=
    Machine.run_invariant_of_meets (fun _ _ hs he => hs.step he) h
      ⟨trivial, trivial, trivial, trivial, trivial, trivial⟩
  exact ⟨hflags, hsound.settled id hflags⟩

structure Keeps (s t : State) (id : Int) : Prop where
  records : t.records id = s.records id
  plugin : t.plugin id = s.plugin id
  cleaning : ∀ r, t.cleaning id = some r → Knows t id r

theorem keeps_recoverStep {t : State} (hne : s.records id ≠ {}) (hrecords : t.records id = s.records id)
    (hplugin : t.plugin id = s.plugin id) {r : Recovery} (hr : Knows t id r) (o : Outcome) :
    (recoverStep t id o r).1.records id = s.records id ∧ (recoverStep t id o r).1.plugin id = s.plugin id ∧
      ∀ r', (recoverStep t id o r).2 = .more r' → Knows (recoverStep t id o r).1 id r' := by
  refine ⟨?_, ?_, fun r' hmore => knows_recoverStep hr hmore⟩ <;> cases r with
  | reading => first | exact hrecords | exact hplugin
  | getFlag record =>
      rw [recoverStep]
      split_ifs
      · first | exact hrecords | exact hplugin
      · split <;> first | exact hrecords | exact hplugin
  | deleteFlag =>
      rw [recoverStep, State.deleteFlag]
      split_ifs <;> first | exact hrecords | exact hplugin
  | unbind => exact (hne (hrecords ▸ hr)).elim
  | deleteUnbound => exact (hne (hrecords ▸ hr.1)).elim

theorem Keeps.step {t : State} (hne : s.records id ≠ {}) (h : Keeps s t id) {e : Event}
    (he : e = .clean id ∨ ∃ o, e = .cleanStep id o) : Keeps s (step localNameMaxSize t e) id := by
  obtain ⟨hrecords, hplugin, hcleaning⟩ := h
  rcases he with rfl | ⟨o, rfl⟩
  · rw [DomainBindRecovery.step]
    split_ifs
    · exact ⟨hrecords, hplugin, hcleaning⟩
    · refine ⟨hrecords, hplugin, fun r hr => ?_⟩
      rw [setCleaning_cleaning] at hr
      cases hr
      trivial
  · cases hr : t.cleaning id with
    | none =>
        rw [step_cleanStep_none hr]
        exact ⟨hrecords, hplugin, hcleaning⟩
    | some r =>
        obtain ⟨hrecords', hplugin', hmore⟩ := keeps_recoverStep hne hrecords hplugin (hcleaning r hr) o
        rw [step_cleanStep hr]
        split <;> rename_i heq <;> rw [heq] at hrecords' hplugin' hmore
        · refine ⟨hrecords', hplugin', fun r' hr' => ?_⟩
          rw [setCleaning_cleaning] at hr'
          cases hr'
          exact hmore _ rfl
        · refine ⟨hrecords', hplugin', fun r' hr' => ?_⟩
          rw [setCleaning_cleaning] at hr'
          cases hr'

/-- When the process has stopped, a recovery of any account removes the flag file and brings about that the plugin
and the record agree. -/
def Recoverable (localNameMaxSize : Nat) (s : State) : Prop :=
  ∀ id, let t := Machine.run (step localNameMaxSize) s (.stop :: recovery id)
    t.flags id = none ∧ t.plugin id = t.records id

theorem Sound.recoverable (h : Sound localNameMaxSize s) : Recoverable localNameMaxSize s :=
  fun _ => Sound.recovery (h.step (e := .stop) trivial) ⟨rfl, fun ⟨_, hb, _⟩ => Option.some_ne_none _ hb.symm⟩

theorem Recoverable.agree (h : Recoverable localNameMaxSize s) (hne : s.records id ≠ {}) :
    s.plugin id = s.records id := by
  have hkeeps : Keeps s (Machine.run (DomainBindRecovery.step localNameMaxSize) s (.stop :: recovery id)) id := by
    have hown : Machine.Meets (DomainBindRecovery.step localNameMaxSize)
        (fun _ e => e = .clean id ∨ ∃ o, e = .cleanStep id o)
        (DomainBindRecovery.step localNameMaxSize s .stop) (recovery id) :=
      ⟨.inl rfl, .inr ⟨_, rfl⟩, .inr ⟨_, rfl⟩, .inr ⟨_, rfl⟩, .inr ⟨_, rfl⟩, trivial⟩
    have hstopped : Keeps s (DomainBindRecovery.step localNameMaxSize s .stop) id :=
      ⟨rfl, rfl, fun r hr => (Option.some_ne_none r hr.symm).elim⟩
    have hstep : ∀ t e, Keeps s t id → (e = .clean id ∨ ∃ o, e = .cleanStep id o) →
        Keeps s (DomainBindRecovery.step localNameMaxSize t e) id := fun _ _ ht he => ht.step hne he
    exact Machine.run_invariant_of_meets hstep hstopped hown
  rw [← hkeeps.plugin, ← hkeeps.records]
  exact (h id).2

theorem Sound.harmless (h : Sound localNameMaxSize s) {e : Event}
    (hsettled : Settled (DomainBindRecovery.step localNameMaxSize s e))
    (hrecoverable : Recoverable localNameMaxSize (DomainBindRecovery.step localNameMaxSize s e)) :
    Harmless localNameMaxSize s e := by
  cases e with
  | bindStep o =>
      intro b hb hok fullInfo
      obtain ⟨localId, record, stage⟩ := b
      refine ⟨fun hstage => ?_, fun hstage => ?_⟩
      · obtain rfl : stage = .update fullInfo := hstage
        obtain ⟨hrecord, -, hp, -⟩ := h.bind _ hb
        obtain rfl : record = {} := hrecord
        have hstep : DomainBindRecovery.step localNameMaxSize s (.bindStep o) =
            { s.setRecord localId (recorded localNameMaxSize {} fullInfo) with
              bind := some ⟨localId, {}, .finish fullInfo⟩ } := by
          rw [DomainBindRecovery.step, hb]
          exact if_pos hok
        rw [hstep] at hrecoverable
        have hset : (s.setRecord localId (recorded localNameMaxSize {} fullInfo)).records localId =
            recorded localNameMaxSize {} fullInfo := update_self ..
        by_cases hfits : Fits localNameMaxSize fullInfo
        · by_cases hempty : isEmpty fullInfo.stored = true
          · exact .inr (.inl hempty)
          · have hwritten : recorded localNameMaxSize {} fullInfo = fullInfo.stored := by
              rw [recorded, setDomainInfo, if_pos hfits]
            rw [hwritten] at hset hrecoverable
            have hbound : (s.setRecord localId fullInfo.stored).records localId ≠ {} :=
              fun hnone => hempty ((isEmpty_iff _).mpr (hset.symm.trans hnone))
            have hagree := hrecoverable.agree hbound
            exact .inr (.inr (hset.symm.trans (hagree.symm.trans hp)))
        · exact .inl hfits
      · obtain rfl : stage = .finish fullInfo := hstage
        obtain ⟨hr, hp, hflag⟩ := h.bind _ hb
        have hstep : DomainBindRecovery.step localNameMaxSize s (.bindStep o) =
            { s.setFlag localId none with bind := none } := by
          have hdelete : s.deleteFlag localId true = (s.setFlag localId none, true) := if_pos ⟨rfl, hflag⟩
          rw [DomainBindRecovery.step, hb]
          change { (s.deleteFlag localId o.ok).1 with bind := none } = _
          rw [hok, hdelete]
        rw [hstep] at hsettled
        have hagree := hsettled localId (fun _ hn => (Option.some_ne_none _ hn.symm).elim)
          (update_self ..)
        exact (recorded_eq_iff localNameMaxSize fullInfo).mp (hr.symm.trans (hagree.symm.trans hp))
  | _ => trivial

end runs

/-- Over a whole run, with failures and stops anywhere, the plugin and the records agree where there is no flag
file and the recoveries bring this about, if and only if no bind writes a part of its full info and none ends well
with a full info that the record does not take. -/
theorem settled_run_iff (localNameMaxSize : Nat) (bound : Int → DomainAccountInfo) (es : List Event) :
    Machine.Meets (step localNameMaxSize) (Harmless localNameMaxSize) (initial bound) es ↔
      (∀ es', es' <+: es → Settled (Machine.run (step localNameMaxSize) (initial bound) es') ∧
        Recoverable localNameMaxSize (Machine.run (step localNameMaxSize) (initial bound) es')) ∧
        Machine.Meets (step localNameMaxSize) (Recovers localNameMaxSize) (initial bound) es ∧
          ∀ es', es' <+: es → ∀ id, Free (Machine.run (step localNameMaxSize) (initial bound) es') id →
            let s := Machine.run (step localNameMaxSize) (initial bound) (es' ++ recovery id)
            s.flags id = none ∧ s.plugin id = s.records id := by
  have hstep : ∀ s e, Sound localNameMaxSize s → Harmless localNameMaxSize s e →
      Sound localNameMaxSize (step localNameMaxSize s e) := fun _ _ hs he => hs.step he
  have hsettled : Machine.Meets (step localNameMaxSize) (Harmless localNameMaxSize) (initial bound) es ↔
      ∀ es', es' <+: es → Settled (Machine.run (step localNameMaxSize) (initial bound) es') ∧
        Recoverable localNameMaxSize (Machine.run (step localNameMaxSize) (initial bound) es') :=
    Machine.meets_iff_forall_prefix (P := fun s => Settled s ∧ Recoverable localNameMaxSize s) hstep
      (fun _ hs => ⟨fun id _ => hs.settled id, hs.recoverable⟩) (fun _ _ hs h => hs.harmless h.1 h.2)
      (sound_initial bound)
  refine ⟨fun h => ⟨hsettled.mp h, ?_, fun es' hprefix id hfree => ?_⟩, fun h => hsettled.mpr h.1⟩
  · exact h.imp_of_meets hstep (fun _ e hs _ => hs.recovers e) (sound_initial bound)
  · obtain ⟨rest, rfl⟩ := hprefix
    have hsound := Machine.run_invariant_of_meets hstep (sound_initial bound) (Machine.meets_append.mp h).1
    rw [Machine.run_append]
    exact hsound.recovery hfree

def longDomain : DomainAccountInfo := { accountName := "alice", domain := String.ofList (List.replicate 129 'd') }

def bindLongDomain : List Event :=
  [.bindDomainAccount 100, .bindStep { ok := true }, .bindStep { ok := true }, .bindStep { ok := true },
    .bindStep { ok := true }, .bindStep { ok := true, fullInfo := longDomain }, .bindStep { ok := true },
    .bindStep { ok := true }, .bindStep { ok := true }, .bindStep { ok := true }]

theorem not_settled_bindLongDomain :
    ¬∀ es', es' <+: bindLongDomain → Settled (Machine.run (step 256) (initial fun _ => {}) es') := by
  intro h
  have hended : (Machine.run (step 256) (initial fun _ => {}) bindLongDomain).bind = none := by rfl
  have hflag : (Machine.run (step 256) (initial fun _ => {}) bindLongDomain).flags 100 = none :=
    by decide +kernel
  have hagree := h bindLongDomain List.prefix_rfl 100
    (fun b hb => (Option.some_ne_none b (hb.symm.trans hended)).elim) hflag
  revert hagree
  decide +kernel

end OsAccount.DomainBindRecovery
