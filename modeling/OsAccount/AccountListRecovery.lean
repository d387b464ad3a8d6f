import OsAccount.SerialNumbers

namespace OsAccount.AccountListRecovery

open OrderedMap Std JsonUtils AccountList AccountFiles SerialNumbers

def maxUserIdLength : Nat := 4

def getValidAccountID (dirName : String) : Option Int :=
  if dirName = "" ∨ dirName.length > maxUserIdLength then none
  else if dirName.toList.any (!·.isDigit) then none
  else (Decimal.parse dirName).filter fun accountID => adminLocalId ≤ accountID ∧ accountID ≤ maxUserId

structure DirEntry where
  name : String
  isDir : Bool

def recoverAccount (accounts : List String) (curDir : DirEntry) : List String :=
  if curDir.name = "." ∨ curDir.name = ".." ∨ ¬curDir.isDir then accounts
  else
    match getValidAccountID curDir.name with
    | none => accounts
    | some accountID =>
        if toString accountID ∉ accounts ∧ accountID ≥ startUserId then accounts ++ [toString accountID] else accounts

/-- `rootDir` is what can be read of the directory that holds those of the
accounts. -/
def recoverAccountListJsonFile (rootDir : Option (List DirEntry)) : Json :=
  match rootDir with
  | none => buildAccountListJson [toString startUserId]
  | some entries => buildAccountListJson (entries.foldl recoverAccount [])

section names

theorem isDigit_of_mem_toString {id : Int} (hid : 0 ≤ id) {c : Char} (hc : c ∈ (toString id).toList) : c.isDigit := by
  obtain ⟨n, rfl⟩ := Int.eq_ofNat_of_zero_le hid
  change c ∈ n.repr.toList at hc
  rw [Nat.toList_repr] at hc
  exact Nat.isDigit_of_mem_toDigits (by omega) (by omega) hc

theorem length_toString_le_iff {id : Int} (hid : 0 ≤ id) : (toString id).length ≤ maxUserIdLength ↔ id < 10000 := by
  obtain ⟨n, rfl⟩ := Int.eq_ofNat_of_zero_le hid
  change n.repr.length ≤ 4 ↔ _
  rw [← String.length_toList, Nat.toList_repr, Nat.length_toDigits_le_iff (by omega) (by omega)]
  omega

theorem getValidAccountID_toString {id : Int} (hid : 0 ≤ id) :
    getValidAccountID (toString id) = if id < 10000 then some id else none := by
  have hdigits : ((toString id).toList.any (!·.isDigit)) = false := by
    rw [List.any_eq_false]
    intro c hc
    simp [isDigit_of_mem_toString hid hc]
  have hempty := Decimal.toString_ne_empty id
  by_cases hlt : id < 10000
  · have hlength := (length_toString_le_iff hid).2 hlt
    have hrange : adminLocalId ≤ id ∧ id ≤ maxUserId := by
      simp only [adminLocalId, maxUserId]
      omega
    rw [getValidAccountID, if_neg (not_or.2 ⟨hempty, Nat.not_lt.2 hlength⟩), hdigits, Decimal.parse_toString,
      if_pos hlt]
    simp [hrange]
  · have hlength := mt (length_toString_le_iff hid).1 hlt
    rw [getValidAccountID, if_pos (.inr (Nat.lt_of_not_le hlength)), if_neg hlt]

theorem getValidAccountID_eq_none {dirName : String} {c : Char} (hc : c ∈ dirName.toList) (hdigit : ¬c.isDigit) :
    getValidAccountID dirName = none := by
  have hany : dirName.toList.any (!·.isDigit) := List.any_eq_true.2 ⟨c, hc, by simpa using hdigit⟩
  simp only [getValidAccountID, hany, if_true, ite_self]

end names

section entries

variable {ids : List Int} {directories : ExtTreeMap Int (Option Int) compare} {entries : List DirEntry}

def Recovers (curDir : DirEntry) (id : Int) : Prop :=
  curDir.isDir ∧ getValidAccountID curDir.name = some id ∧ startUserId ≤ id

theorem recoverAccount_eq (ids : List Int) (curDir : DirEntry) :
    ∃ ids' : List Int, recoverAccount (ids.map toString) curDir = ids'.map toString ∧ (ids.Nodup → ids'.Nodup) ∧
      ∀ id, id ∈ ids' ↔ id ∈ ids ∨ Recovers curDir id := by
  rw [recoverAccount]
  split_ifs with hskip
  · refine ⟨ids, rfl, fun h => h, fun id => ⟨.inl, fun h => h.resolve_right ?_⟩⟩
    rintro ⟨hdir, hvalid, -⟩
    obtain hdot | hdot | hfile := hskip
    · rw [hdot, getValidAccountID_eq_none (c := '.') (by decide) (by decide)] at hvalid
      cases hvalid
    · rw [hdot, getValidAccountID_eq_none (c := '.') (by decide) (by decide)] at hvalid
      cases hvalid
    · exact hfile hdir
  · have hdir : curDir.isDir := by
      simp only [not_or, Classical.not_not] at hskip
      exact hskip.2.2
    cases hvalid : getValidAccountID curDir.name with
    | none => exact ⟨ids, rfl, fun h => h, fun id => by simp [Recovers, hvalid]⟩
    | some accountID =>
        have hrecovers (id : Int) : Recovers curDir id ↔ accountID = id ∧ startUserId ≤ id := by
          simp [Recovers, hvalid, hdir]
        simp only [hrecovers, mem_map_toString]
        split_ifs with hnew
        · refine ⟨ids ++ [accountID], by simp, fun h => ?_, fun id => ?_⟩
          · rw [List.nodup_append]
            exact ⟨h, List.nodup_singleton _, fun a ha b hb he => hnew.1 (List.mem_singleton.1 hb ▸ he ▸ ha)⟩
          · rw [List.mem_append, List.mem_singleton]
            refine or_congr_right ⟨fun he => ⟨he.symm, he ▸ hnew.2⟩, fun h => h.1.symm⟩
        · refine ⟨ids, rfl, fun h => h, fun id => ⟨.inl, fun h => h.elim (fun h => h) ?_⟩⟩
          rintro ⟨rfl, hid⟩
          exact Classical.byContradiction fun hmem => hnew ⟨hmem, hid⟩

theorem foldl_recoverAccount (ids : List Int) (entries : List DirEntry) :
    ∃ ids' : List Int, entries.foldl recoverAccount (ids.map toString) = ids'.map toString ∧ (ids.Nodup → ids'.Nodup) ∧
      ∀ id, id ∈ ids' ↔ id ∈ ids ∨ ∃ e ∈ entries, Recovers e id := by
  induction entries generalizing ids with
  | nil => exact ⟨ids, rfl, fun h => h, fun id => by simp⟩
  | cons e entries ih =>
      obtain ⟨ids₁, h₁, hnodup₁, hmem₁⟩ := recoverAccount_eq ids e
      obtain ⟨ids₂, h₂, hnodup₂, hmem₂⟩ := ih ids₁
      refine ⟨ids₂, by rw [List.foldl_cons, h₁, h₂], fun h => hnodup₂ (hnodup₁ h), fun id => ?_⟩
      simp only [hmem₂, hmem₁, List.mem_cons, exists_eq_or_imp, or_assoc]

/-- The entries show the directories of the accounts, in any order and among
files and directories with other names. -/
structure Lists (entries : List DirEntry) (directories : ExtTreeMap Int (Option Int) compare) : Prop where
  all : ∀ id ∈ directories, ⟨toString id, true⟩ ∈ entries
  only : ∀ e ∈ entries, e.isDir → (∃ id ∈ directories, e.name = toString id) ∨ ∃ c ∈ e.name.toList, ¬c.isDigit

theorem Lists.recovers_iff (h : Lists entries directories) (hid : ∀ id ∈ directories, 0 ≤ id) (id : Int) :
    (∃ e ∈ entries, Recovers e id) ↔ id ∈ directories ∧ id < 10000 ∧ startUserId ≤ id := by
  constructor
  · rintro ⟨e, he, hdir, hvalid, hlow⟩
    obtain ⟨id', hid', hname⟩ | ⟨c, hc, hdigit⟩ := h.only e he hdir
    · rw [hname, getValidAccountID_toString (hid id' hid')] at hvalid
      split_ifs at hvalid with hlt
      cases hvalid
      exact ⟨hid', hlt, hlow⟩
    · rw [getValidAccountID_eq_none hc hdigit] at hvalid
      cases hvalid
  · rintro ⟨hmem, hlt, hlow⟩
    refine ⟨⟨toString id, true⟩, h.all id hmem, rfl, ?_, hlow⟩
    rw [getValidAccountID_toString (hid id hmem), if_pos hlt]

end entries

inductive Event
  | insert (a : WriteAnswer) (id serialNumber : Int)
  | delete (a : WriteAnswer) (id : Int)

def step (s : Files) : Event → Files
  | .insert a id serialNumber => (insertOsAccount a id serialNumber s).2
  | .delete a id => (delOsAccount a id s).2

def start (ids : List Int) : Files := ⟨buildAccountListJson (ids.map toString), ∅⟩

/-- After the list is lost and rebuilt from the entries: it has the ids of users
that it had, each once and counted, and the next serial number is one that no
account carries. -/
structure Safe (strToInt : String → Option Int) (entries : List DirEntry) (s : Files) : Prop where
  users : ∀ idStr ∈ getVectorStringFromJson (recoverAccountListJsonFile (some entries)) accountList,
    ∃ id, startUserId ≤ id ∧ idStr = toString id
  same : ∀ id, startUserId ≤ id →
    (toString id ∈ getVectorStringFromJson (recoverAccountListJsonFile (some entries)) accountList ↔
      toString id ∈ getVectorStringFromJson s.list accountList)
  nodup : (getVectorStringFromJson (recoverAccountListJsonFile (some entries)) accountList).Nodup
  count : getIntFromJson (recoverAccountListJsonFile (some entries)) countAccountNum =
    some (getVectorStringFromJson (recoverAccountListJsonFile (some entries)) accountList).length
  next : ∀ serialNumber, ∃ v list,
    getSerialNumber (.ok (getOsAccountList strToInt { s with list := recoverAccountListJsonFile (some entries) }))
      serialNumber (recoverAccountListJsonFile (some entries)) = .ok (v, list) ∧
      ∀ id n, s.serialNumber? id = some n → v ≠ n

/-- Every listed account of a user has a directory whose name is short enough,
and no account carries the first of the serial numbers. -/
def Covered (s : Files) : Prop :=
  (∀ id, startUserId ≤ id → toString id ∈ getVectorStringFromJson s.list accountList →
    id ∈ s.directories ∧ id < 10000) ∧
    ∀ id, s.serialNumber? id ≠ some (base + 1)

structure Recorded (ids : List Int) (s : Files) : Prop where
  view : View 1 false ids s.list
  admin : ∀ id ∈ s.directories, 0 ≤ id
  listed : ∀ id ∈ s.directories, startUserId ≤ id → id ∈ ids

section runs

variable {ids : List Int} {s : Files}

theorem recorded_start (ids : List Int) : Recorded ids (start ids) where
  view := view_buildAccountListJson ids
  admin := fun _ hid => absurd hid ExtTreeMap.not_mem_empty
  listed := fun _ hid => absurd hid ExtTreeMap.not_mem_empty

theorem Recorded.insertOsAccount (h : Recorded ids s) (a : WriteAnswer) (id serialNumber : Int) :
    ∃ ids', Recorded ids' (insertOsAccount a id serialNumber s).2 := by
  obtain hs | ⟨hadmin, -, list, hview, hs⟩ := insertOsAccount_cases h.view a id serialNumber
  · exact ⟨ids, by rw [hs]; exact h⟩
  obtain hs | ⟨d, -, hs⟩ := hs
  · rw [hs]
    exact ⟨_, hview, h.admin, fun id' hid' hlow => mem_enlisted.2 (.inl (h.listed id' hid' hlow))⟩
  · rw [hs]
    refine ⟨_, hview, fun id' hid' => ?_, fun id' hid' hlow => mem_enlisted.2 ?_⟩
    · obtain rfl | hold := mem_insert_iff.1 hid'
      · exact hadmin
      · exact h.admin id' hold
    · obtain rfl | hold := mem_insert_iff.1 hid'
      · exact .inr ⟨rfl, hlow⟩
      · exact .inl (h.listed id' hold hlow)

theorem Recorded.delOsAccount (h : Recorded ids s) (a : WriteAnswer) (id : Int) :
    ∃ ids', Recorded ids' (delOsAccount a id s).2 := by
  obtain hs | ⟨-, ⟨hmem, hs⟩ | ⟨ids', list, hids, hview, hs⟩⟩ := delOsAccount_cases h.view a id
  · exact ⟨ids, by rw [hs]; exact h⟩
  · rw [hs]
    have hdirectories (id' : Int) (hid' : id' ∈ s.directories.insert id none) : id' ∈ s.directories := by
      obtain he | hold := mem_insert_iff.1 hid'
      · exact he ▸ hmem
      · exact hold
    exact ⟨ids, h.view, fun id' hid' => h.admin id' (hdirectories id' hid'),
      fun id' hid' => h.listed id' (hdirectories id' hid')⟩
  · rw [hs]
    refine ⟨ids', hview, fun id' hid' => h.admin id' (mem_erase_iff.1 hid').2,
      fun id' hid' hlow => ?_⟩
    obtain ⟨hne, hold⟩ := mem_erase_iff.1 hid'
    have hlisted := h.listed id' hold hlow
    obtain rfl | rfl := hids
    · exact hlisted
    · exact mem_listed.2 ⟨hlisted, hne⟩

theorem run_recorded (ids : List Int) (es : List Event) : ∃ ids', Recorded ids' (Machine.run step (start ids) es) := by
  refine @Machine.run_invariant _ _ step (fun s => ∃ ids', Recorded ids' s) ?_ _ ⟨ids, recorded_start ids⟩ es
  rintro s e ⟨ids', h⟩
  cases e with
  | insert a id serialNumber => exact h.insertOsAccount a id serialNumber
  | delete a id => exact h.delOsAccount a id

variable {strToInt : String → Option Int} {entries : List DirEntry}

theorem Recorded.safe_iff (h : Recorded ids s) (hentries : Lists entries s.directories) :
    Safe strToInt entries s ↔ Covered s := by
  obtain ⟨ids', hfold, hnodup, hmem⟩ := foldl_recoverAccount [] entries
  have hrecover : recoverAccountListJsonFile (some entries) = buildAccountListJson (ids'.map toString) := by
    rw [recoverAccountListJsonFile]
    exact congrArg buildAccountListJson hfold
  have hview := view_buildAccountListJson ids'
  have hmem' (id : Int) : id ∈ ids' ↔ id ∈ s.directories ∧ id < 10000 ∧ startUserId ≤ id := by
    rw [hmem, hentries.recovers_iff h.admin]
    simp
  have htaken (infos : List Int) : taken infos 1 false = 1 := by
    rw [taken, if_neg (by decide)]
    rfl
  have hnext (infos : List Int) (serialNumber : Int) :=
    getSerialNumber_view hview infos serialNumber (by rw [htaken]; decide)
  constructor
  · intro hsafe
    refine ⟨fun id hlow hid => ?_, fun id hid => ?_⟩
    · rw [← hsafe.same id hlow, hrecover, hview.ids, mem_map_toString, hmem'] at hid
      exact ⟨hid.1, hid.2.1⟩
    · obtain ⟨v, list, hget, hne⟩ := hsafe.next 0
      obtain ⟨list', hget', -⟩ := hnext (getOsAccountList strToInt
        { s with list := recoverAccountListJsonFile (some entries) }) 0
      rw [hrecover] at hget
      rw [htaken, hrecover] at hget'
      rw [hget'] at hget
      cases hget
      exact hne id _ hid (Int.add_comm _ _)
  · rintro ⟨hcovered, hfirst⟩
    refine ⟨?_, ?_, ?_, ?_, ?_⟩
    · rw [hrecover, hview.ids]
      intro idStr hid
      obtain ⟨id, hmemId, rfl⟩ := List.mem_map.1 hid
      exact ⟨id, ((hmem' id).1 hmemId).2.2, rfl⟩
    · intro id hlow
      rw [hrecover, hview.ids, mem_map_toString, hmem']
      refine ⟨fun hid => ?_, fun hid => ?_⟩
      · rw [h.view.ids, mem_map_toString]
        exact h.listed id hid.1 hlow
      · exact ⟨(hcovered id hlow hid).1, (hcovered id hlow hid).2, hlow⟩
    · rw [hrecover, hview.ids]
      exact (hnodup List.nodup_nil).map fun _ _ => Decimal.toString_injective
    · rw [hrecover, hview.ids]
      rfl
    · intro serialNumber
      obtain ⟨list, hget, -⟩ := hnext (getOsAccountList strToInt
        { s with list := recoverAccountListJsonFile (some entries) }) serialNumber
      rw [htaken] at hget
      refine ⟨1 + base, list, by rw [hrecover] at hget ⊢; exact hget, fun id n hid he => hfirst id ?_⟩
      rw [hid, ← he, Int.add_comm]

end runs

/-- After any run of insertions and deletions, the recovery is safe if and only
if the accounts are covered. -/
theorem recovery_safe_iff (strToInt : String → Option Int) (ids : List Int) (es : List Event)
    (entries : List DirEntry) (hentries : Lists entries (Machine.run step (start ids) es).directories) :
    Safe strToInt entries (Machine.run step (start ids) es) ↔ Covered (Machine.run step (start ids) es) := by
  obtain ⟨ids', h⟩ := run_recorded ids es
  exact h.safe_iff hentries

section examples

def dataDirectory : List DirEntry :=
  [⟨".", true⟩, ⟨"..", true⟩, ⟨"base_os_account_constraints.json", false⟩, ⟨"100", true⟩]

theorem lists_dataDirectory (v : Int) :
    Lists dataDirectory ((∅ : ExtTreeMap Int (Option Int) compare).insert 100 (some v)) where
  all := by
    intro id hid
    rw [mem_insert_iff] at hid
    obtain rfl | hid := hid
    · exact .tail _ (.tail _ (.tail _ (.head _)))
    · exact absurd hid ExtTreeMap.not_mem_empty
  only := by
    intro e he hdir
    simp only [dataDirectory, List.mem_cons, List.not_mem_nil, or_false] at he
    obtain rfl | rfl | rfl | rfl := he
    · exact .inr ⟨'.', by decide, by decide⟩
    · exact .inr ⟨'.', by decide, by decide⟩
    · cases hdir
    · exact .inl ⟨100, by simp, rfl⟩

theorem run_insert (v : Int) :
    ∃ list, View 1 false [100] list ∧
      Machine.run step (start [100]) [.insert .allOk 100 v] =
        ⟨list, (∅ : ExtTreeMap Int (Option Int) compare).insert 100 (some v)⟩ := by
  have hnone : (start [100]).serialNumber? 100 = none := by simp [start, Files.serialNumber?]
  obtain ⟨list, hview, hinsert⟩ := insertOsAccount_allOk (s := start [100]) (view_buildAccountListJson [100])
    (by decide) hnone v
  exact ⟨list, hview, congrArg Prod.snd hinsert⟩

theorem recovery_safe_oneAccount :
    Safe Decimal.parse dataDirectory (Machine.run step (start [100]) [.insert .allOk 100 (base + 2)]) := by
  obtain ⟨list, hview, hrun⟩ := run_insert (base + 2)
  have hlists : Lists dataDirectory
      (Machine.run step (start [100]) [.insert .allOk 100 (base + 2)]).directories := by
    rw [hrun]
    exact lists_dataDirectory (base + 2)
  refine (recovery_safe_iff Decimal.parse [100] [.insert .allOk 100 (base + 2)] dataDirectory hlists).2 ?_
  rw [hrun]
  refine ⟨fun id _ hid => ?_, fun id hid => ?_⟩
  · rw [hview.ids, mem_map_toString, List.mem_singleton] at hid
    subst hid
    exact ⟨mem_insert_iff.2 (.inl rfl), by decide⟩
  · rw [serialNumber?_singleton] at hid
    split_ifs at hid
    rw [Option.some.injEq] at hid
    omega

/-- The first account keeps its serial number, and the counter of the rebuilt
list starts with the same one. -/
theorem recovery_repeats_serial_number :
    ¬∀ (ids : List Int) (es : List Event) (entries : List DirEntry),
      Lists entries (Machine.run step (start ids) es).directories →
        Safe Decimal.parse entries (Machine.run step (start ids) es) := by
  intro hsafe
  obtain ⟨list, hview, hrun⟩ := run_insert (base + 1)
  have hlists := lists_dataDirectory (base + 1)
  have hrecorded := run_recorded [100] [.insert .allOk 100 (base + 1)]
  specialize hsafe [100] [.insert .allOk 100 (base + 1)] dataDirectory
  rw [hrun] at hsafe hrecorded
  obtain ⟨ids, hrecorded⟩ := hrecorded
  have hcovered := (hrecorded.safe_iff hlists).1 (hsafe hlists)
  refine hcovered.2 100 ?_
  rw [serialNumber?_singleton, if_pos rfl]

end examples

end OsAccount.AccountListRecovery
