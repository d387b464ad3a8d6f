import OsAccount.AccountList
import OsAccount.CyclicSearch

namespace OsAccount.LocalIdAllocation

open AccountList JsonUtils

/-- One round of the loop of `GetNextLocalId`, with its variables `startId` and `searchCount`: it
returns, or the loop goes on with new values. -/
def nextRound (accountIdList : List String) : Int × Int → Int ⊕ (Int × Int)
  | (startId, searchCount) =>
      if toString startId ∉ accountIdList then .inl startId
      else
        let nextId := if startId + 1 > maxCreatableUserId then startUserId + 1 else startId + 1
        if searchCount + 1 ≥ maxCreatableUserId - startUserId then .inl (maxCreatableUserId + 1)
        else .inr (nextId, searchCount + 1)

inductive Returns (accountIdList : List String) : Int × Int → Int → Prop
  | done {vars id} (h : nextRound accountIdList vars = .inl id) : Returns accountIdList vars id
  | again {vars vars' id} (h : nextRound accountIdList vars = .inr vars') (hrest : Returns accountIdList vars' id) :
      Returns accountIdList vars id

abbrev ListFile := Except ErrCode Json

def saveAllocated (save : Except (ErrCode × ListFile) Unit) (id : Int) (accountListJson : Json) :
    Except ErrCode Int × ListFile :=
  match save with
  | .error (e, left) => (.error e, left)
  | .ok () => (.ok id, .ok accountListJson)

def getAllowCreateIdFromFile (strToInt : String → Option Int) (save : Except (ErrCode × ListFile) Unit)
    (file : ListFile) : Except ErrCode Int × ListFile :=
  match file with
  | .error e => (.error e, file)
  | .ok accountListJson =>
      match getAllowCreateId strToInt accountListJson with
      | .error e => (.error e, file)
      | .ok (id, accountListJson') => saveAllocated save id accountListJson'

def nextId (strToInt : String → Option Int) (accountListJson : Json) (accountIdList : List String) : Int :=
  (getIntFromJson accountListJson nextLocalId).getD <|
    match accountIdList.getLast?.bind strToInt with
    | some lastLocalId => lastLocalId + 1
    | none => startUserId + 1

/-- The id that the search starts at: the first of the range instead of one that is not in it. -/
def startId (strToInt : String → Option Int) (accountListJson : Json) (accountIdList : List String) : Int :=
  CyclicSearch.start (startUserId + 1) maxCreatableUserId (nextId strToInt accountListJson accountIdList)

abbrev idsFrom (s : Int) : List Int := CyclicSearch.cycle (startUserId + 1) maxCreatableUserId s

abbrev InList (accountIdList : List String) (id : Int) : Bool := toString id ∈ accountIdList

section search

variable {accountIdList : List String} {n : Nat} {c s : Int}

theorem searchLocalId_eq : searchLocalId accountIdList n c =
    (CyclicSearch.search (InList accountIdList) (startUserId + 1) maxCreatableUserId n c).getD
      (maxCreatableUserId + 1) := by
  induction n generalizing c with
  | zero => rfl
  | succ n ih =>
      rw [searchLocalId, CyclicSearch.search]
      by_cases hused : toString c ∈ accountIdList
      · rw [if_neg (not_not_intro hused), if_pos (decide_eq_true hused), ih, CyclicSearch.next]
      · rw [if_pos hused, if_neg (by simpa using hused)]
        rfl

theorem returns_searchLocalId (hn : 0 < n) (hcount : c + n = maxCreatableUserId - startUserId) :
    Returns accountIdList (s, c) (searchLocalId accountIdList n s) := by
  induction n generalizing s c with
  | zero => exact absurd hn (lt_irrefl 0)
  | succ n ih =>
      rw [searchLocalId]
      by_cases hused : toString s ∈ accountIdList
      · rw [if_neg (not_not_intro hused)]
        cases n with
        | zero =>
            refine .done ?_
            rw [nextRound, if_neg (not_not_intro hused)]
            exact if_pos (by omega)
        | succ n =>
            refine .again ?_ (ih n.succ_pos (c := c + 1) (by omega))
            rw [nextRound, if_neg (not_not_intro hused)]
            exact if_neg (by omega)
      · rw [if_pos hused]
        exact .done (if_pos hused)

theorem getNextLocalId_loop (hint : Int) : getNextLocalId accountIdList hint =
    searchLocalId accountIdList (maxCreatableUserId - startUserId).toNat
      (CyclicSearch.start (startUserId + 1) maxCreatableUserId hint) := by
  simp only [getNextLocalId, CyclicSearch.start, Int.lt_add_one_iff]

theorem getNextLocalId_eq (hint : Int) : getNextLocalId accountIdList hint =
    ((idsFrom (CyclicSearch.start (startUserId + 1) maxCreatableUserId hint)).find?
      fun id => !InList accountIdList id).getD (maxCreatableUserId + 1) := by
  have hmem : startUserId + 1 ≤ CyclicSearch.start (startUserId + 1) maxCreatableUserId hint ∧
      CyclicSearch.start (startUserId + 1) maxCreatableUserId hint ≤ maxCreatableUserId :=
    CyclicSearch.start_mem (by decide) hint
  rw [getNextLocalId_loop, searchLocalId_eq, ← CyclicSearch.search_eq_find hmem]
  rfl

theorem find_eq_none_iff (hs : startUserId + 1 ≤ s ∧ s ≤ maxCreatableUserId) :
    ((idsFrom s).find? fun id => !InList accountIdList id) = none ↔
      ∀ id, startUserId + 1 ≤ id → id ≤ maxCreatableUserId → toString id ∈ accountIdList := by
  rw [← CyclicSearch.search_eq_find hs, CyclicSearch.search_eq_none_iff hs (Int.toNat_of_nonneg (by decide))]
  simp only [InList, decide_eq_true_eq]

end search

section allocation

variable {strToInt : String → Option Int} {accountListJson : Json} {accountIdList : List String}

def Full (accountIdList : List String) : Prop :=
  ∀ id, startUserId + 1 ≤ id → id ≤ maxCreatableUserId → toString id ∈ accountIdList

structure Allocated (s : Int) (accountIdList : List String) (accountListJson : Json) (id : Int) (saved : Json) :
    Prop where
  first : ((idsFrom s).find? fun id => !InList accountIdList id) = some id
  next : getIntFromJson saved nextLocalId = some (id + 1)
  others : ∀ key, key ≠ nextLocalId → getItemFromJson saved key = getItemFromJson accountListJson key

/-- What a call makes of a file with a list: the loop ends, a full list is an error that leaves the file alone, and
from any other list the call returns an id and saves its successor, unless the save fails. -/
structure Allocates (strToInt : String → Option Int) (accountListJson : Json) (accountIdList : List String)
    (save : Except (ErrCode × ListFile) Unit) : Prop where
  ends : Returns accountIdList (startId strToInt accountListJson accountIdList, 0)
    (getNextLocalId accountIdList (nextId strToInt accountListJson accountIdList))
  full : Full accountIdList →
    getAllowCreateIdFromFile strToInt save (.ok accountListJson) = (.error .maxCanCreateError, .ok accountListJson)
  free : ¬Full accountIdList → ∃ id saved,
    Allocated (startId strToInt accountListJson accountIdList) accountIdList accountListJson id saved ∧
    (save = .ok () → getAllowCreateIdFromFile strToInt save (.ok accountListJson) = (.ok id, .ok saved)) ∧
    ∀ e left, save = .error (e, left) →
      getAllowCreateIdFromFile strToInt save (.ok accountListJson) = (.error e, left)

theorem startId_mem (strToInt : String → Option Int) (accountListJson : Json) (accountIdList : List String) :
    startUserId + 1 ≤ startId strToInt accountListJson accountIdList ∧
      startId strToInt accountListJson accountIdList ≤ maxCreatableUserId :=
  CyclicSearch.start_mem (by decide) _

theorem getAllowCreateId_eq (hlist : getVectorStringFromJson? accountListJson accountList = some accountIdList) :
    getAllowCreateId strToInt accountListJson =
      let id := getNextLocalId accountIdList (nextId strToInt accountListJson accountIdList)
      if id > maxCreatableUserId then .error .maxCanCreateError
      else .ok (id, addIntToJson accountListJson nextLocalId (id + 1)) := by
  rw [getAllowCreateId, hlist]
  rfl

theorem getAllowCreateId_full (hlist : getVectorStringFromJson? accountListJson accountList = some accountIdList)
    (hfull : Full accountIdList) : getAllowCreateId strToInt accountListJson = .error .maxCanCreateError := by
  have hnone := (find_eq_none_iff (startId_mem strToInt accountListJson accountIdList)).2 hfull
  rw [getAllowCreateId_eq hlist, getNextLocalId_eq]
  rw [startId] at hnone
  rw [hnone]
  rfl

theorem isObject_of_list (hlist : getVectorStringFromJson? accountListJson accountList = some accountIdList) :
    isObject accountListJson = true := by
  cases accountListJson with
  | obj l => rfl
  | _ => cases hlist

theorem allocated_save (hlist : getVectorStringFromJson? accountListJson accountList = some accountIdList)
    {s id : Int} (hfirst : ((idsFrom s).find? fun id => !InList accountIdList id) = some id) :
    Allocated s accountIdList accountListJson id (addIntToJson accountListJson nextLocalId (id + 1)) := by
  have hitem : ∀ key, getItemFromJson (setItem accountListJson nextLocalId (.num (id + 1))) key =
      if nextLocalId = key then some (.num (id + 1)) else getItemFromJson accountListJson key :=
    getItem_setItem_of_isObject (isObject_of_list hlist) (by decide) (.num (id + 1))
  refine ⟨hfirst, ?_, fun key hkey => ?_⟩
  · rw [getIntFromJson, addIntToJson, hitem, if_pos rfl]
    rfl
  · rw [addIntToJson, hitem, if_neg hkey.symm]

variable (strToInt) in
theorem getAllowCreateId_free (hlist : getVectorStringFromJson? accountListJson accountList = some accountIdList)
    (hfree : ¬Full accountIdList) : ∃ id saved,
      Allocated (startId strToInt accountListJson accountIdList) accountIdList accountListJson id saved ∧
      getAllowCreateId strToInt accountListJson = .ok (id, saved) := by
  have hs := startId_mem strToInt accountListJson accountIdList
  obtain ⟨id, hid⟩ := Option.ne_none_iff_exists'.mp fun hnone => hfree ((find_eq_none_iff hs).1 hnone)
  have hmax : id ≤ maxCreatableUserId := by
    rw [← CyclicSearch.search_eq_find hs] at hid
    exact (CyclicSearch.search_eq_some hs hid).1.2
  refine ⟨id, _, allocated_save hlist hid, ?_⟩
  rw [startId] at hid
  rw [getAllowCreateId_eq hlist, getNextLocalId_eq, hid]
  exact if_neg (not_lt.mpr hmax)

theorem allocates (save : Except (ErrCode × ListFile) Unit)
    (hlist : getVectorStringFromJson? accountListJson accountList = some accountIdList) :
    Allocates strToInt accountListJson accountIdList save := by
  refine ⟨?_, ?_, ?_⟩
  · rw [getNextLocalId_loop]
    exact returns_searchLocalId (by decide) (by decide)
  · intro hfull
    rw [getAllowCreateIdFromFile, getAllowCreateId_full hlist hfull]
  · intro hfree
    obtain ⟨id, saved, hallocated, hcall⟩ := getAllowCreateId_free strToInt hlist hfree
    refine ⟨id, saved, hallocated, ?_, fun e left => ?_⟩
    all_goals
      rintro rfl
      rw [getAllowCreateIdFromFile, hcall]
      rfl

theorem file_of_error {file : ListFile} {e : ErrCode}
    (h : (getAllowCreateIdFromFile strToInt (.ok ()) file).1 = .error e) :
    (getAllowCreateIdFromFile strToInt (.ok ()) file).2 = file := by
  cases file with
  | error e => rfl
  | ok accountListJson =>
      rw [getAllowCreateIdFromFile] at h ⊢
      cases hcall : getAllowCreateId strToInt accountListJson with
      | error e => rfl
      | ok result =>
          rw [hcall] at h
          cases h

/-- From every file with a list the call allocates the first free id of the cycle, and an error before the save
leaves every file as it was. -/
theorem allocates_first_free (strToInt : String → Option Int) (file : ListFile) :
    (∀ accountListJson accountIdList save, file = .ok accountListJson →
      getVectorStringFromJson? accountListJson accountList = some accountIdList →
      Allocates strToInt accountListJson accountIdList save) ∧
    ∀ e, (getAllowCreateIdFromFile strToInt (.ok ()) file).1 = .error e →
      (getAllowCreateIdFromFile strToInt (.ok ()) file).2 = file :=
  ⟨fun _ _ save _ hlist => allocates save hlist, fun _ h => file_of_error h⟩

def lastInUse : Json :=
  .obj [(accountList, .arr [.str "100", .str "999"]), (countAccountNum, .num 2), (nextLocalId, .num 999)]

theorem allocates_lastInUse : Allocates (fun _ => none) lastInUse ["100", "999"] (.ok ()) :=
  (allocates_first_free (fun _ => none) (.ok lastInUse)).1 lastInUse ["100", "999"] (.ok ()) rfl rfl

example : (getAllowCreateIdFromFile (fun _ => none) (.ok ()) (.ok lastInUse)).1 = .ok 101 := by rfl

end allocation

end OsAccount.LocalIdAllocation
