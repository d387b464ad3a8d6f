import OsAccount.AccountList

namespace OsAccount.AccountListSharing

open AccountList JsonUtils SharedRecord

inductive Mutex
  | operatingIdMutex
  | accountInfoFileLock
deriving DecidableEq

/-- What `InsertOsAccount` learns outside the account list: whether the file of
the account exists, whether its text came out empty, and how writing it ends. -/
structure InsertAnswer where
  infoFileExists : Bool
  infoEmpty : Bool
  write : Ret

inductive Call
  | getAllowCreateId
  | setNextLocalId (id : Int)
  | insertOsAccount (a : InsertAnswer) (localId : Int)
  | delOsAccount (deleteDirOrFile : Ret) (id : Int)
  | getSerialNumber (osAccountInfos : Except ErrCode (List Int)) (serialNumber : Int)
  | setDefaultActivatedOsAccount (displayId : Nat) (id : Int)

def saved {α : Type} : Except ErrCode (α × Json) → Effect Json ErrCode
  | .error e => .fail e
  | .ok (_, j) => .write j

def simpleOperation (lock : Mutex) (body : Json → Effect Json ErrCode) : Operation Json ErrCode Mutex :=
  ⟨.ok (), lock, .ok true, body, .ok ()⟩

def insertAdmitted (a : InsertAnswer) (localId : Int) : Ret :=
  if localId < adminLocalId then .error .idCannotCreateError
  else if a.infoFileExists then .error .insertFileExistsError
  else if a.infoEmpty then .error .accountInfoEmptyError
  else .ok ()

def deleteAdmitted (id : Int) : Ret :=
  if id ≤ startUserId ∨ id > maxUserId then .error .cannotDeleteIdError else .ok ()

variable (strToInt : String → Option Int)

def operation : Call → Operation Json ErrCode Mutex
  | .getAllowCreateId => simpleOperation .operatingIdMutex fun j => saved (getAllowCreateId strToInt j)
  | .setNextLocalId id => simpleOperation .operatingIdMutex fun j => .write (setNextLocalId id j)
  | .insertOsAccount a localId =>
      { accept := insertAdmitted a localId
        lock := .accountInfoFileLock
        prepare := .ok (startUserId ≤ localId)
        body := updateAccountList (toString localId) true
        conclude := a.write }
  | .delOsAccount deleteDirOrFile id =>
      { accept := deleteAdmitted id
        lock := .accountInfoFileLock
        prepare := deleteDirOrFile.map fun _ => true
        body := updateAccountList (toString id) false
        conclude := .ok () }
  | .getSerialNumber osAccountInfos serialNumber =>
      simpleOperation .accountInfoFileLock fun j => saved (getSerialNumber osAccountInfos serialNumber j)
  | .setDefaultActivatedOsAccount displayId id =>
      simpleOperation .accountInfoFileLock fun j =>
        saved ((setDefaultActivatedOsAccount displayId id j).map fun j => ((), j))

def operations (calls : Nat → Call) (t : Nat) : Operation Json ErrCode Mutex := operation strToInt (calls t)

/-- In every interleaving in which no call writes a list that the other mutex
has changed since its read, and no account file fails to be written after its
list, the list is the one of the successful calls, one after the other. -/
theorem account_list_serializable (calls : Nat → Call) (list : Json) {es : List (Event ErrCode Nat)}
    (hes : Machine.Meets (step (operations strToInt calls)) (Undisturbed (operations strToInt calls))
      (initial list) es) :
    Serializable (operations strToInt calls) list
      (Machine.run (step (operations strToInt calls)) (initial list) es) :=
  run_serializable (operations strToInt calls) list hes

section examples

def createWhileInserting : Nat → Call
  | 0 => .getAllowCreateId
  | _ => .insertOsAccount ⟨false, false, .ok ()⟩ 101

def listBefore : Json := addIntToJson (buildAccountListJson ["100"]) nextLocalId 102

def oneAfterTheOther : List (Event ErrCode Nat) :=
  [.enter 0, .enter 1, .read 0 (.ok ()), .store 0 (.ok ()), .read 1 (.ok ()), .store 1 (.ok ()), .release 0, .release 1]

def overlapping : List (Event ErrCode Nat) :=
  [.enter 0, .enter 1, .read 0 (.ok ()), .read 1 (.ok ()), .store 1 (.ok ()), .store 0 (.ok ()), .release 0, .release 1]

theorem account_list_serializable_interleaved :
    Serializable (operations Decimal.parse createWhileInserting) listBefore
      (Machine.run (step (operations Decimal.parse createWhileInserting)) (initial listBefore) oneAfterTheOther) :=
  account_list_serializable Decimal.parse createWhileInserting listBefore
    ⟨trivial, trivial, trivial, fun _ _ _ => ⟨rfl, rfl⟩, trivial, fun _ _ _ => ⟨rfl, rfl⟩, trivial,
      trivial, trivial⟩

/-- The call under the other mutex writes back the list that it read before the
account was inserted. -/
theorem overlapping_loses_account :
    ¬Serializable (operations Decimal.parse createWhileInserting) listBefore
      (Machine.run (step (operations Decimal.parse createWhileInserting)) (initial listBefore) overlapping) := by
  rintro ⟨order, hnodup, hmem, hserial⟩
  have hcalls (t : Nat) : t ∈ order ↔ t ∈ [0, 1] := by
    rw [hmem t]
    by_cases h0 : t = 0
    · subst h0
      exact ⟨fun _ => by decide, fun _ => .inr rfl⟩
    · by_cases h1 : t = 1
      · subst h1
        exact ⟨fun _ => by decide, fun _ => .inr rfl⟩
      · rw [run_phase_of_not_mem _ _ (by simp [overlapping, Event.call, h0, h1])]
        simp [initial, h0, h1]
  have hlost : getVectorStringFromJson (Machine.run (step (operations Decimal.parse createWhileInserting))
      (initial listBefore) overlapping).record accountList = ["100"] := rfl
  have hkept (l : List Nat) (hl : l ∈ [[0, 1], [1, 0]]) :
      (serial (operations Decimal.parse createWhileInserting) listBefore l).map
        (getVectorStringFromJson · accountList) = some ["100", "101"] := by
    simp only [List.mem_cons, List.not_mem_nil, or_false] at hl
    rcases hl with rfl | rfl <;> rfl
  have hlength : order.length = 2 := ((List.perm_ext_iff_of_nodup hnodup (by decide)).2 hcalls).length_eq
  obtain ⟨a, b, rfl⟩ := List.length_eq_two.1 hlength
  have ha := (hcalls a).1 (by simp)
  have hb := (hcalls b).1 (by simp)
  specialize hkept [a, b] (by simp at ha hb hnodup ⊢; omega)
  rw [hserial, Option.map_some, hlost] at hkept
  exact absurd hkept (by decide)

end examples

end OsAccount.AccountListSharing
