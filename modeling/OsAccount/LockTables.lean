import OsAccount.Fields
import OsAccount.KeyedLocks

namespace OsAccount.LockTables

open Fields KeyedLocks Function

namespace AppAccountLock

/-- Where an object is: waiting for the mutex in its constructor, with the mutex, and in its
destructor after each of its statements. -/
inductive Stage
  | waiting
  | locked
  | unlocked
  | leaving
  | destroyed
deriving DecidableEq

structure Object where
  uid : Int32
  mutexPtr : Nat
  stage : Stage

/-- The table, whose pointers are weak, the objects in the order of their constructions, and how
many mutexes have been made: their number is the next one's name. -/
structure State where
  uidMutexMap : Int32 → Option Nat := fun _ => none
  objects : List Object := []
  made : Nat := 0

variable (s : State)

def useCount (mutexPtr : Nat) : Nat :=
  s.objects.countP fun o => o.stage ≠ .destroyed ∧ o.mutexPtr = mutexPtr

def isLocked (mutexPtr : Nat) : Bool := s.objects.any fun o => o.stage = .locked ∧ o.mutexPtr = mutexPtr

/-- `lock` of the weak pointer in the table, which gives a mutex that still has an owner. -/
def lockWeak (uid : Int32) : Option Nat :=
  (s.uidMutexMap uid).filter fun mutexPtr => useCount s mutexPtr ≠ 0

def construct (uid : Int32) : State :=
  match lockWeak s uid with
  | some mutexPtr => { s with objects := s.objects ++ [⟨uid, mutexPtr, .waiting⟩] }
  | none =>
      { uidMutexMap := update s.uidMutexMap uid (some s.made)
        objects := s.objects ++ [⟨uid, s.made, .waiting⟩]
        made := s.made + 1 }

def eraseUnused (o : Object) : Int32 → Option Nat :=
  if useCount s o.mutexPtr = 1 then update s.uidMutexMap o.uid none else s.uidMutexMap

def State.setStage (i : Nat) (o : Object) (stage : Stage) : State :=
  { s with objects := s.objects.set i { o with stage } }

def proceed (i : Nat) : State :=
  match s.objects[i]? with
  | none => s
  | some o =>
      match o.stage with
      | .waiting => if isLocked s o.mutexPtr then s else s.setStage i o .locked
      | .locked => s.setStage i o .unlocked
      | .unlocked => { s.setStage i o .leaving with uidMutexMap := eraseUnused s o }
      | .leaving => s.setStage i o .destroyed
      | .destroyed => s

inductive Event
  | construct (uid : Int32)
  | proceed (i : Nat)

def step (s : State) : Event → State
  | .construct uid => construct s uid
  | .proceed i => proceed s i

/-- Who has a mutex from the table: an object until it has looked whether its entry may go. -/
def holder? (o : Object) : Option (Holder Int32 Nat) :=
  match o.stage with
  | .waiting | .unlocked => some ⟨o.uid, o.mutexPtr, false⟩
  | .locked => some ⟨o.uid, o.mutexPtr, true⟩
  | .leaving | .destroyed => none

def view : Table Int32 Nat Nat := ⟨s.uidMutexMap, holders holder? s.objects⟩

variable {s}

variable {o : Object}

theorem owns_of_holder? {h : Holder Int32 Nat} (ho : holder? o = some h) :
    o.stage ≠ .destroyed ∧ h = ⟨o.uid, o.mutexPtr, o.stage = .locked⟩ := by
  obtain ⟨uid, mutexPtr, stage⟩ := o
  cases stage with
  | leaving | destroyed => cases ho
  | waiting | locked | unlocked => exact ⟨Stage.noConfusion, (Option.some.inj ho).symm⟩

theorem counts_of_holder? {mutexPtr : Nat} (o : Object) (h : Holder Int32 Nat) (ho : holder? o = some h)
    (hlock : h.lock = mutexPtr) : decide (o.stage ≠ .destroyed ∧ o.mutexPtr = mutexPtr) = true := by
  obtain ⟨hstage, rfl⟩ := owns_of_holder? ho
  exact decide_eq_true ⟨hstage, hlock⟩

theorem locked_of_holder? {mutexPtr : Nat} (o : Object) (h : Holder Int32 Nat) (ho : holder? o = some h)
    (hlock : h.lock = mutexPtr) (hlocked : h.locked = true) :
    decide (o.stage = .locked ∧ o.mutexPtr = mutexPtr) = true := by
  obtain ⟨-, rfl⟩ := owns_of_holder? ho
  exact decide_eq_true ⟨of_decide_eq_true hlocked, hlock⟩

theorem holder_eq {i : Nat} (hi : s.objects[i]? = some o) : (view s).holder i = holder? o :=
  holders_of_getElem? hi

theorem view_setStage {i : Nat} (hi : s.objects[i]? = some o) (stage : Stage)
    (uidMutexMap : Int32 → Option Nat) :
    view { s.setStage i o stage with uidMutexMap } =
      ⟨uidMutexMap, update (view s).holder i (holder? { o with stage })⟩ := by
  rw [view, State.setStage, holders_set hi]
  rfl

theorem view_construct (uid : Int32) (mutexPtr : Nat) (uidMutexMap : Int32 → Option Nat) (made : Nat) :
    view ⟨uidMutexMap, s.objects ++ [⟨uid, mutexPtr, .waiting⟩], made⟩ =
      ⟨uidMutexMap, update (view s).holder s.objects.length (some ⟨uid, mutexPtr, false⟩)⟩ := by
  rw [view, holders_append]
  rfl

theorem move_construct (uid : Int32) : Move (view s) (view (construct s uid)) := by
  rw [construct, lockWeak]
  cases hentry : s.uidMutexMap uid with
  | none =>
      rw [Option.filter_none]
      dsimp only
      rw [view_construct]
      exact .join _ uid s.made fun mutexPtr hm => by cases hentry.symm.trans hm
  | some mutexPtr =>
      by_cases hcount : useCount s mutexPtr = 0
      · rw [Option.filter_some_neg (by simpa using hcount)]
        dsimp only
        rw [view_construct]
        refine .join _ uid s.made fun mutexPtr' hm => .inr ?_
        obtain rfl := Option.some.inj (hentry.symm.trans hm)
        exact not_lock_of_countP_eq_zero counts_of_holder? hcount
      · rw [Option.filter_some_pos (by simpa using hcount)]
        dsimp only
        rw [view_construct, ← update_eq_self uid s.uidMutexMap, hentry]
        exact .join _ uid mutexPtr fun mutexPtr' hm => .inl (Option.some.inj (hm.symm.trans hentry))

theorem move_proceed (i : Nat) : Move (view s) (view (proceed s i)) := by
  rw [proceed]
  cases hi : s.objects[i]? with
  | none => exact .stay
  | some o =>
      have hholder := holder_eq hi
      have hset : ∀ stage, view (s.setStage i o stage) =
          ⟨s.uidMutexMap, update (view s).holder i (holder? { o with stage })⟩ :=
        fun stage => view_setStage hi stage s.uidMutexMap
      dsimp only
      cases hstage : o.stage with
      | waiting =>
          have hwaits : (view s).holder i = some ⟨o.uid, o.mutexPtr, false⟩ := by rw [hholder, holder?, hstage]
          dsimp only
          split
          · exact .stay
          · rename_i hfree
            rw [hset]
            exact .acquire i _ hwaits (not_locked_of_any_eq_false locked_of_holder? (Bool.eq_false_iff.mpr hfree))
      | locked =>
          have hlocked : (view s).holder i = some ⟨o.uid, o.mutexPtr, true⟩ := by rw [hholder, holder?, hstage]
          dsimp only
          rw [hset]
          exact .release i _ hlocked
      | unlocked =>
          have hunlocked : (view s).holder i = some ⟨o.uid, o.mutexPtr, false⟩ := by rw [hholder, holder?, hstage]
          dsimp only
          rw [view_setStage hi, eraseUnused]
          split
          · rename_i hone
            have howns : decide (o.stage ≠ .destroyed ∧ o.mutexPtr = o.mutexPtr) = true :=
              decide_eq_true ⟨by rw [hstage]; exact Stage.noConfusion, rfl⟩
            exact .erase i _ hunlocked (eq_of_lock_of_countP_le_one counts_of_holder? (Nat.le_of_eq hone) hi howns)
          · exact .leave i
      | leaving =>
          dsimp only
          rw [hset]
          exact .leave i
      | destroyed => exact .stay

theorem exclusive_run (events : List Event) : Exclusive (view (Machine.run step {} events)) := by
  refine KeyedLocks.exclusive_run view (fun _ _ (_ : True) => trivial) (fun s e _ _ => ?_) trivial
    (sound_of_nobody fun _ => rfl) events
  cases e with
  | construct uid => exact move_construct uid
  | proceed i => exact move_proceed i

/-- An object that is made after the entry has gone gets a mutex of its own, while the old one is still there. -/
example : (view (Machine.run step {} [.construct 7, .proceed 0, .proceed 0, .proceed 0, .construct 7])).holder 1 =
    some ⟨7, 1, false⟩ := rfl

end AppAccountLock

namespace FileTransaction

/-- What holds a lock of the table: a pointer that `GetRWLock` has returned, or a transaction, which
may be open, and whose destructor rolls it back, looks at the table and drops its pointer. -/
inductive Stage
  | pointer
  | closed
  | opened
  | rolledBack
  | erased
  | destroyed
deriving DecidableEq

structure Object where
  path : String
  rwlock : Nat
  stage : Stage

/-- The table, whose pointers own their locks, the objects in the order of their constructions, and how
many locks have been made. -/
structure State where
  rwLockMap : List (String × Nat) := []
  objects : List Object := []
  made : Nat := 0

def releaseCount : Nat := 2

variable (s : State)

def useCount (rwlock : Nat) : Nat :=
  s.rwLockMap.countP (fun entry => entry.2 = rwlock) +
    s.objects.countP fun o => o.stage ≠ .destroyed ∧ o.rwlock = rwlock

def isLocked (rwlock : Nat) : Bool := s.objects.any fun o => o.stage = .opened ∧ o.rwlock = rwlock

def State.push (o : Object) : State := { s with objects := s.objects ++ [o] }

def State.setStage (i : Nat) (o : Object) (stage : Stage) : State :=
  { s with objects := s.objects.set i { o with stage } }

def getRWLock (path : String) : State :=
  match find path s.rwLockMap with
  | some rwlock => s.push ⟨path, rwlock, .pointer⟩
  | none => { s.push ⟨path, s.made, .pointer⟩ with rwLockMap := set path s.made s.rwLockMap, made := s.made + 1 }

def tryEraseTransaction (path : String) : List (String × Nat) :=
  match find path s.rwLockMap with
  | none => s.rwLockMap
  | some rwlock => if useCount s rwlock = releaseCount then delete path s.rwLockMap else s.rwLockMap

def construct (i : Nat) : State :=
  match s.objects[i]? with
  | none => s
  | some o => if o.stage = .pointer then s.push { o with stage := .closed } else s

/-- `LockWrite` of `BeginWriteTransaction`. It waits while another transaction is open. -/
def lockWrite (i : Nat) : State :=
  match s.objects[i]? with
  | none => s
  | some o => if o.stage = .closed ∧ isLocked s o.rwlock = false then s.setStage i o .opened else s

/-- A `BeginWriteTransaction` that fails, `EndTransaction` and `Rollback` unlock. -/
def unlockWrite (i : Nat) : State :=
  match s.objects[i]? with
  | none => s
  | some o => if o.stage = .opened then s.setStage i o .closed else s

/-- The next step of an object that goes: `ReleaseAction` of a transaction rolls back first. -/
def releaseAction (i : Nat) : State :=
  match s.objects[i]? with
  | none => s
  | some o =>
      match o.stage with
      | .opened => s.setStage i o .rolledBack
      | .closed | .rolledBack => { s.setStage i o .erased with rwLockMap := tryEraseTransaction s o.path }
      | .pointer | .erased => s.setStage i o .destroyed
      | .destroyed => s

inductive Event
  | getRWLock (path : String)
  | construct (i : Nat)
  | lockWrite (i : Nat)
  | unlockWrite (i : Nat)
  | releaseAction (i : Nat)

def step (s : State) : Event → State
  | .getRWLock path => getRWLock s path
  | .construct i => construct s i
  | .lockWrite i => lockWrite s i
  | .unlockWrite i => unlockWrite s i
  | .releaseAction i => releaseAction s i

def Distinct : Prop := (keys s.rwLockMap).Nodup

/-- Who has a lock from the table: a pointer, and a transaction until it has looked whether its entry
may go. -/
def holder? (o : Object) : Option (Holder String Nat) :=
  match o.stage with
  | .pointer | .closed | .rolledBack => some ⟨o.path, o.rwlock, false⟩
  | .opened => some ⟨o.path, o.rwlock, true⟩
  | .erased | .destroyed => none

def view : Table String Nat Nat := ⟨fun path => find path s.rwLockMap, holders holder? s.objects⟩

variable {s}

variable {o : Object}

theorem owns_of_holder? {h : Holder String Nat} (ho : holder? o = some h) :
    o.stage ≠ .destroyed ∧ h = ⟨o.path, o.rwlock, o.stage = .opened⟩ := by
  obtain ⟨path, rwlock, stage⟩ := o
  cases stage with
  | erased | destroyed => cases ho
  | pointer | closed | opened | rolledBack => exact ⟨Stage.noConfusion, (Option.some.inj ho).symm⟩

variable {rwlock : Nat}

theorem counts_of_holder? (o : Object) (h : Holder String Nat) (ho : holder? o = some h)
    (hlock : h.lock = rwlock) : decide (o.stage ≠ .destroyed ∧ o.rwlock = rwlock) = true := by
  obtain ⟨hstage, rfl⟩ := owns_of_holder? ho
  exact decide_eq_true ⟨hstage, hlock⟩

theorem locked_of_holder? (o : Object) (h : Holder String Nat) (ho : holder? o = some h)
    (hlock : h.lock = rwlock) (hlocked : h.locked = true) :
    decide (o.stage = .opened ∧ o.rwlock = rwlock) = true := by
  obtain ⟨-, rfl⟩ := owns_of_holder? ho
  exact decide_eq_true ⟨of_decide_eq_true hlocked, hlock⟩

variable {i : Nat}

theorem holder_eq (hi : s.objects[i]? = some o) : (view s).holder i = holder? o :=
  holders_of_getElem? hi

theorem countP_le_one_of_useCount {path : String} (hentry : find path s.rwLockMap = some rwlock)
    (h : useCount s rwlock = releaseCount) :
    s.objects.countP (fun o => o.stage ≠ .destroyed ∧ o.rwlock = rwlock) ≤ 1 := by
  have htable : 0 < s.rwLockMap.countP fun entry => entry.2 = rwlock :=
    List.countP_pos_iff.mpr ⟨(path, rwlock), mem_of_find hentry, decide_eq_true rfl⟩
  rw [useCount, releaseCount] at h
  omega

theorem view_push (o : Object) (rwLockMap : List (String × Nat)) (made : Nat) :
    view { s.push o with rwLockMap, made } =
      ⟨fun path => find path rwLockMap, update (view s).holder s.objects.length (holder? o)⟩ := by
  rw [view, State.push, holders_append]
  rfl

theorem view_setStage (hi : s.objects[i]? = some o) (stage : Stage)
    (rwLockMap : List (String × Nat)) :
    view { s.setStage i o stage with rwLockMap } =
      ⟨fun path => find path rwLockMap, update (view s).holder i (holder? { o with stage })⟩ := by
  rw [view, State.setStage, holders_set hi]
  rfl

theorem move_push (hholder : holder? o = some ⟨o.path, o.rwlock, false⟩)
    (hentry : find o.path s.rwLockMap = some o.rwlock) : Move (view s) (view (s.push o)) := by
  have hview : view (s.push o) =
      ⟨(view s).entry, update (view s).holder s.objects.length (holder? o)⟩ := view_push o s.rwLockMap s.made
  have hself : (view s).entry o.path = some o.rwlock := hentry
  rw [hview, hholder, ← update_eq_self o.path (view s).entry, hself]
  exact .join _ o.path o.rwlock fun rwlock hm => .inl (Option.some.inj (hm.symm.trans hself))

theorem move_getRWLock (path : String) : Move (view s) (view (getRWLock s path)) := by
  rw [getRWLock]
  cases hentry : find path s.rwLockMap with
  | some rwlock => exact move_push rfl hentry
  | none =>
      have hset : (fun path' => find path' (set path s.made s.rwLockMap)) =
          update (view s).entry path (some s.made) := by
        funext path'
        rw [find_set, update_apply]
        exact if_congr eq_comm rfl rfl
      dsimp only
      rw [view_push, hset]
      exact .join _ path s.made fun rwlock hm => by cases hentry.symm.trans hm

theorem move_construct (hs : Sound (view s)) (i : Nat) : Move (view s) (view (construct s i)) := by
  rw [construct]
  cases hi : s.objects[i]? with
  | none => exact .stay
  | some o =>
      dsimp only
      split
      · rename_i hstage
        have hpointer : (view s).holder i = some ⟨o.path, o.rwlock, false⟩ := by rw [holder_eq hi, holder?, hstage]
        exact move_push rfl (hs.found i _ hpointer)
      · exact .stay

theorem move_lockWrite (i : Nat) : Move (view s) (view (lockWrite s i)) := by
  rw [lockWrite]
  cases hi : s.objects[i]? with
  | none => exact .stay
  | some o =>
      dsimp only
      split
      · rename_i h
        have hclosed : (view s).holder i = some ⟨o.path, o.rwlock, false⟩ := by rw [holder_eq hi, holder?, h.1]
        have hview : view (s.setStage i o .opened) = _ := view_setStage hi .opened s.rwLockMap
        rw [hview]
        exact .acquire i _ hclosed (not_locked_of_any_eq_false locked_of_holder? h.2)
      · exact .stay

theorem move_unlock (hi : s.objects[i]? = some o) (hopened : o.stage = .opened)
    {stage : Stage} (hstage : holder? { o with stage } = some ⟨o.path, o.rwlock, false⟩) :
    Move (view s) (view (s.setStage i o stage)) := by
  have hholder : (view s).holder i = some ⟨o.path, o.rwlock, true⟩ := by rw [holder_eq hi, holder?, hopened]
  have hview : view (s.setStage i o stage) = _ := view_setStage hi stage s.rwLockMap
  rw [hview, hstage]
  exact .release i _ hholder

theorem move_unlockWrite (i : Nat) : Move (view s) (view (unlockWrite s i)) := by
  rw [unlockWrite]
  cases hi : s.objects[i]? with
  | none => exact .stay
  | some o =>
      dsimp only
      split
      · rename_i hopened
        exact move_unlock hi hopened rfl
      · exact .stay

/-- A transaction looks at the entry of its own lock, and the entry goes with the last one who has it. -/
theorem move_erase (hkeys : Distinct s) (hs : Sound (view s))
    (hi : s.objects[i]? = some o) (hholder : (view s).holder i = some ⟨o.path, o.rwlock, false⟩) :
    Move (view s) (view { s.setStage i o .erased with rwLockMap := tryEraseTransaction s o.path }) := by
  have hentry : find o.path s.rwLockMap = some o.rwlock := hs.found i _ hholder
  rw [view_setStage hi, tryEraseTransaction, hentry]
  dsimp only
  split
  · rename_i hcount
    have hdelete : (fun path => find path (delete o.path s.rwLockMap)) =
        update (view s).entry o.path none := by
      funext path
      rw [find_delete hkeys, update_apply]
      exact if_congr eq_comm rfl rfl
    have hstage : o.stage ≠ .destroyed := by
      rw [holder_eq hi] at hholder
      exact (owns_of_holder? hholder).1
    rw [hdelete]
    exact .erase i _ hholder (eq_of_lock_of_countP_le_one counts_of_holder? (countP_le_one_of_useCount hentry hcount) hi
      (decide_eq_true ⟨hstage, rfl⟩))
  · exact .leave i

theorem move_releaseAction (hkeys : Distinct s) (hs : Sound (view s)) (i : Nat) :
    Move (view s) (view (releaseAction s i)) := by
  rw [releaseAction]
  cases hi : s.objects[i]? with
  | none => exact .stay
  | some o =>
      have hdestroy : view (s.setStage i o .destroyed) = _ := view_setStage hi .destroyed s.rwLockMap
      dsimp only
      cases hstage : o.stage with
      | opened => exact move_unlock hi hstage rfl
      | closed | rolledBack => exact move_erase hkeys hs hi (by rw [holder_eq hi, holder?, hstage])
      | pointer | erased =>
          dsimp only
          rw [hdestroy]
          exact .leave i
      | destroyed => exact .stay

theorem distinct_step (s : State) (e : Event) (hkeys : Distinct s) : Distinct (step s e) := by
  cases e with
  | getRWLock path =>
      change Distinct (getRWLock s path)
      rw [getRWLock]
      split
      · exact hkeys
      · exact nodup_set hkeys
  | construct i =>
      change Distinct (construct s i)
      rw [construct]
      split
      · exact hkeys
      · split <;> exact hkeys
  | lockWrite i =>
      change Distinct (lockWrite s i)
      rw [lockWrite]
      split
      · exact hkeys
      · split <;> exact hkeys
  | unlockWrite i =>
      change Distinct (unlockWrite s i)
      rw [unlockWrite]
      split
      · exact hkeys
      · split <;> exact hkeys
  | releaseAction i =>
      change Distinct (releaseAction s i)
      rw [releaseAction]
      have herase : ∀ path, (keys (tryEraseTransaction s path)).Nodup := by
        intro path
        rw [tryEraseTransaction]
        split
        · exact hkeys
        · split
          · exact nodup_delete hkeys
          · exact hkeys
      split
      · exact hkeys
      · rename_i o hi
        cases o.stage with
        | closed | rolledBack => exact herase o.path
        | pointer | opened | erased | destroyed => exact hkeys

/-- Pointers and transactions of one path have one lock, in every interleaving of their steps. -/
theorem exclusive_run (events : List Event) : Exclusive (view (Machine.run step {} events)) := by
  refine KeyedLocks.exclusive_run view distinct_step (fun s e hkeys hs => ?_) (show Distinct {} from List.nodup_nil)
    (sound_of_nobody fun _ => rfl) events
  cases e with
  | getRWLock path => exact move_getRWLock path
  | construct i => exact move_construct hs i
  | lockWrite i => exact move_lockWrite i
  | unlockWrite i => exact move_unlockWrite i
  | releaseAction i => exact move_releaseAction hkeys hs i

end FileTransaction

/-- The locks of a key exclude each other in both tables: those of the uids and those of the paths. -/
theorem lockTables_exclusive :
    (∀ events, Exclusive (AppAccountLock.view (Machine.run AppAccountLock.step {} events))) ∧
      ∀ events, Exclusive (FileTransaction.view (Machine.run FileTransaction.step {} events)) :=
  ⟨AppAccountLock.exclusive_run, FileTransaction.exclusive_run⟩

end OsAccount.LockTables
