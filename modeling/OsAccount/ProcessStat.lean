import Mathlib.Data.List.TakeWhile
import OsAccount.Decimal
import OsAccount.ErrCode

namespace OsAccount.ProcessStat

/-- The items between delimiters that `getline` reads, without the empty ones. -/
def splitString (str : List Char) (delimiter : Char) : List (List Char) :=
  (str.splitOn delimiter).filter (! ·.isEmpty)

structure Files where
  checkFileExistence : String → Ret
  read : String → Option (List Char)

variable (files : Files)

def getStatInfo (path : String) : Except ErrCode (List (List Char)) :=
  match files.read path with
  | none => .error .fileOpenFailed
  | some statInfo =>
      match statInfo.dropWhile (· ≠ ')') with
      | [] => .ok (splitString statInfo ' ')
      | _ :: statInfo => .ok (splitString statInfo ' ')

def startTimeIndex : Nat := 19

def statPath (pid : Int) : String := "/proc/" ++ toString pid ++ "/stat"

def toInt64 (n : Nat) : Int := Int.bmod n (2 ^ 64)

def getProcessStartTime (pid : Int) : Except ErrCode Int := do
  files.checkFileExistence (statPath pid)
  let statInfo ← getStatInfo files (statPath pid)
  match statInfo[startTimeIndex]? with
  | none => .error .fileReadFailed
  | some startTimeStr =>
      match Decimal.fromCharsUnsigned 64 startTimeStr with
      | .error ec => .error (.sys ec)
      | .ok (timeStamp, _) => .ok (toInt64 timeStamp)

/-- A line of `/proc/<pid>/stat`: the name is any text of at most 15 characters, and the fields from the fourth on are
numbers, of which the 22nd is the start time. -/
structure Stat where
  pid : Int
  comm : List Char
  comm_length : comm.length ≤ 15
  state : Char
  state_ne : state ≠ ' '
  fields : List Int
  startTime : Nat
  startTime_lt : startTime < 2 ^ 64
  fields_startTime : fields[18]? = some (startTime : Int)

def fieldsText (fields : List Int) : List Char := fields.flatMap fun f => ' ' :: (toString f).toList

def Stat.text (s : Stat) : List Char :=
  (toString s.pid).toList ++ ' ' :: '(' :: s.comm ++ ')' :: ' ' :: s.state :: fieldsText s.fields ++ ['\n']

/-- How many items the text after the first parenthesis of a name adds before the state. -/
def shift (comm : List Char) : Nat :=
  match comm.dropWhile (· ≠ ')') with
  | [] => 0
  | _ :: rest => (splitString (rest ++ [')']) ' ').length

def Stat.shown (s : Stat) : Option Int := s.fields[18 - shift s.comm]?

theorem splitString_append (before : List Char) (c : Char) (after : List Char) :
    splitString (before ++ c :: after) c = splitString before c ++ splitString after c := by
  rw [splitString, List.splitOn_append_cons_of_beq before after (beq_self_eq_true c), List.filter_append]
  rfl

theorem splitString_nil (c : Char) : splitString [] c = [] := rfl

theorem splitString_cons (c : Char) (l : List Char) : splitString (c :: l) c = splitString l c :=
  splitString_append [] c l

theorem splitString_word {c : Char} {l : List Char} (hl : c ∉ l) (hne : l ≠ []) : splitString l c = [l] := by
  rw [splitString, List.splitOn_eq_singleton hl, List.filter_cons, if_pos (by simpa using hne)]
  rfl

theorem splitString_length (c : Char) (l : List Char) : 2 * (splitString l c).length ≤ l.length + 1 := by
  induction hn : l.length using Nat.strongRecOn generalizing l with
  | ind n ih =>
      by_cases hc : c ∈ l
      · obtain ⟨before, after, rfl, hbefore⟩ := List.eq_append_cons_of_mem hc
        rw [List.length_append, List.length_cons] at hn
        have hafter := ih after.length (by omega) after rfl
        rw [splitString_append, List.length_append]
        cases before with
        | nil => simp only [splitString_nil, List.length_nil] at hn ⊢; omega
        | cons x before =>
            rw [splitString_word hbefore (by simp), List.length_singleton]
            simp only [List.length_cons] at hn
            omega
      · by_cases hne : l = []
        · subst hne
          exact Nat.zero_le _
        · rw [splitString_word hc hne, List.length_singleton]
          have hpos := List.length_pos_of_ne_nil hne
          omega

theorem fieldsText_cons (n : Int) (fields : List Int) :
    fieldsText (n :: fields) = ' ' :: ((toString n).toList ++ fieldsText fields) := rfl

theorem splitString_number (n : Int) {after : List Char} (hafter : ' ' ∉ after) :
    splitString ((toString n).toList ++ after) ' ' = [(toString n).toList ++ after] := by
  refine splitString_word ?_ fun h => Decimal.toString_ne_empty n ?_
  · rw [List.mem_append, not_or]
    exact ⟨Decimal.notMem_toString rfl (by decide) n, hafter⟩
  · exact String.toList_eq_nil_iff.mp (List.append_eq_nil_iff.mp h).1

/-- The items of the fields are the texts of their numbers, the last one with the line feed. -/
theorem getElem?_splitString_fieldsText {fields : List Int} {i : Nat} {n : Int} (h : fields[i]? = some n) :
    ∃ after : List Char, (after.head?.all (! ·.isDigit)) = true ∧
      (splitString (fieldsText fields ++ ['\n']) ' ')[i]? = some ((toString n).toList ++ after) := by
  induction fields generalizing i with
  | nil => cases h
  | cons m fields ih =>
      rw [fieldsText_cons, List.cons_append, List.append_assoc, splitString_cons]
      cases fields with
      | nil =>
          have htext : fieldsText [] ++ ['\n'] = ['\n'] := rfl
          rw [htext, splitString_number m (by decide)]
          cases i with
          | zero =>
              cases h
              exact ⟨['\n'], rfl, rfl⟩
          | succ i => cases h
      | cons k fields =>
          have hsplit := splitString_append (toString m).toList ' '
            ((toString k).toList ++ fieldsText fields ++ ['\n'])
          have hnumber := splitString_number m (List.not_mem_nil (a := ' '))
          rw [List.append_nil] at hnumber
          rw [fieldsText_cons, List.cons_append, hsplit, hnumber, List.singleton_append]
          cases i with
          | zero =>
              cases h
              exact ⟨[], rfl, by rw [List.append_nil]; rfl⟩
          | succ i =>
              rw [fieldsText_cons, List.cons_append, splitString_cons] at ih
              exact ih h

variable {files}

theorem fields_ne (s : Stat) : s.fields ≠ [] := by
  intro h
  have hstart := s.fields_startTime
  rw [h] at hstart
  cases hstart

theorem splitString_state (s : Stat) :
    splitString (s.state :: fieldsText s.fields ++ ['\n']) ' ' =
      [s.state] :: splitString (fieldsText s.fields ++ ['\n']) ' ' := by
  cases hfields : s.fields with
  | nil => exact absurd hfields (fields_ne s)
  | cons n fields =>
      have hsplit := splitString_append [s.state] ' ' ((toString n).toList ++ fieldsText fields ++ ['\n'])
      have hstate : splitString [s.state] ' ' = [[s.state]] :=
        splitString_word (by simpa using s.state_ne.symm) (List.cons_ne_nil _ _)
      rw [fieldsText_cons, List.cons_append, List.cons_append, splitString_cons]
      rw [hstate] at hsplit
      exact hsplit

theorem getStatInfo_text (s : Stat) {path : String} (hread : files.read path = some s.text) :
    ∃ before : List (List Char), before.length = shift s.comm ∧
      getStatInfo files path =
        .ok (before ++ [s.state] :: splitString (fieldsText s.fields ++ ['\n']) ' ') := by
  have hpid : ∀ c ∈ (toString s.pid).toList ++ [' ', '('], (decide (c ≠ ')')) = true := by
    intro c hc
    refine decide_eq_true fun h => ?_
    subst h
    rcases List.mem_append.mp hc with hc | hc
    · exact Decimal.notMem_toString rfl (by decide) s.pid hc
    · exact absurd hc (by decide)
  have htext : s.text = ((toString s.pid).toList ++ [' ', '(']) ++
      (s.comm ++ ')' :: ' ' :: (s.state :: fieldsText s.fields ++ ['\n'])) := by
    rw [Stat.text]
    simp only [List.append_assoc, List.cons_append, List.nil_append]
  have hdrop : s.text.dropWhile (· ≠ ')') =
      (s.comm ++ ')' :: ' ' :: (s.state :: fieldsText s.fields ++ ['\n'])).dropWhile (· ≠ ')') := by
    rw [htext, List.dropWhile_append_of_pos hpid]
  rw [getStatInfo, hread]
  dsimp only
  rw [hdrop]
  by_cases hcomm : ')' ∈ s.comm
  · obtain ⟨name, rest, hsplit, hname⟩ := List.eq_append_cons_of_mem hcomm
    have hpos : ∀ c ∈ name, (decide (c ≠ ')')) = true := fun c hc => decide_eq_true (ne_of_mem_of_not_mem hc hname)
    have hshift : shift s.comm = (splitString (rest ++ [')']) ' ').length := by
      rw [shift, hsplit, List.dropWhile_append_of_pos hpos, List.dropWhile_cons_of_neg (by decide)]
    refine ⟨splitString (rest ++ [')']) ' ', hshift.symm, ?_⟩
    have hitems := splitString_append (rest ++ [')']) ' ' (s.state :: fieldsText s.fields ++ ['\n'])
    rw [splitString_state, List.append_assoc, List.singleton_append] at hitems
    rw [hsplit, List.append_assoc, List.dropWhile_append_of_pos hpos, List.cons_append,
      List.dropWhile_cons_of_neg (by decide)]
    exact congrArg Except.ok hitems
  · have hpos : ∀ c ∈ s.comm, (decide (c ≠ ')')) = true := fun c hc => decide_eq_true (ne_of_mem_of_not_mem hc hcomm)
    have hshift : shift s.comm = 0 := by
      rw [shift, List.dropWhile_eq_nil_iff.mpr hpos]
    refine ⟨[], hshift.symm, ?_⟩
    rw [List.dropWhile_append_of_pos hpos, List.dropWhile_cons_of_neg (by decide)]
    dsimp only
    rw [splitString_cons, splitString_state, List.nil_append]

theorem shift_le (s : Stat) : shift s.comm ≤ 8 := by
  rw [shift]
  split
  · exact Nat.zero_le 8
  · rename_i rest hdrop
    have hsuffix := (List.dropWhile_suffix (l := s.comm) (· ≠ ')')).length_le
    have hitems := splitString_length ' ' (rest ++ [')'])
    have hcomm := s.comm_length
    rw [hdrop, List.length_cons] at hsuffix
    rw [List.length_append, List.length_singleton] at hitems
    omega

theorem exists_shown (s : Stat) : ∃ n, s.shown = some n := by
  have hlength := (List.getElem?_eq_some_iff.mp s.fields_startTime).1
  have hlt : 18 - shift s.comm < s.fields.length := by omega
  exact ⟨s.fields[18 - shift s.comm], List.getElem?_eq_getElem hlt⟩

/-- What is read as the start time is the field that stands as many places before the 22nd as the name adds items. -/
theorem getProcessStartTime_iff {s : Stat} (hexists : files.checkFileExistence (statPath s.pid) = .ok ())
    (hread : files.read (statPath s.pid) = some s.text) (t : Int) :
    getProcessStartTime files s.pid = .ok t ↔ ∃ n : Nat, s.shown = some (n : Int) ∧ n < 2 ^ 64 ∧ toInt64 n = t := by
  obtain ⟨before, hbefore, hinfo⟩ := getStatInfo_text s hread
  obtain ⟨n, hshown⟩ := exists_shown s
  obtain ⟨after, hafter, hitem⟩ := getElem?_splitString_fieldsText hshown
  have hindex : (before ++ [s.state] :: splitString (fieldsText s.fields ++ ['\n']) ' ')[startTimeIndex]? =
      some ((toString n).toList ++ after) := by
    have hshift := shift_le s
    have hplace : startTimeIndex - before.length = 18 - shift s.comm + 1 := by
      rw [hbefore, startTimeIndex]
      omega
    rw [List.getElem?_append_right (by rw [hbefore, startTimeIndex]; omega), hplace]
    exact hitem
  have hresult : getProcessStartTime files s.pid =
      match Decimal.fromCharsUnsigned 64 ((toString n).toList ++ after) with
      | .error ec => .error (.sys ec)
      | .ok (timeStamp, _) => .ok (toInt64 timeStamp) := by
    rw [getProcessStartTime, hexists, hinfo]
    dsimp only [bind, Except.bind]
    rw [hindex]
  have hvalue (value : Nat) (rest : List Char) :=
    @Decimal.fromCharsUnsigned_toString_append 64 n after hafter value rest
  rw [hresult, hshown]
  constructor
  · intro h
    cases hchars : Decimal.fromCharsUnsigned 64 ((toString n).toList ++ after) with
    | error ec =>
        rw [hchars] at h
        cases h
    | ok read =>
        obtain ⟨value, rest⟩ := read
        rw [hchars] at h
        obtain ⟨rfl, hfits, -⟩ := (hvalue value rest).mp hchars
        exact ⟨value, rfl, hfits, Except.ok.inj h⟩
  · rintro ⟨value, heq, hfits, rfl⟩
    rw [(hvalue value after).mpr ⟨Option.some.inj heq, hfits, rfl⟩]

theorem toInt64_injective {a b : Nat} (ha : a < 2 ^ 64) (hb : b < 2 ^ 64) (h : toInt64 a = toInt64 b) : a = b := by
  have hmod : ((a : Int) % (2 ^ 64 : Nat)) = (b : Int) % (2 ^ 64 : Nat) := by
    rw [← Int.bmod_emod, ← Int.bmod_emod (x := (b : Int))]
    exact congrArg (· % ((2 ^ 64 : Nat) : Int)) h
  omega

/-- The start time is read if and only if the field that is found has its value, and two processes are given one start
time if and only if the fields found in their lines agree. -/
theorem startTime_exact_iff {s : Stat} (hexists : files.checkFileExistence (statPath s.pid) = .ok ())
    (hread : files.read (statPath s.pid) = some s.text) :
    (getProcessStartTime files s.pid = .ok (toInt64 s.startTime) ↔ s.shown = some (s.startTime : Int)) ∧
      ∀ (files' : Files) (s' : Stat), files'.checkFileExistence (statPath s'.pid) = .ok () →
        files'.read (statPath s'.pid) = some s'.text →
        ((∃ t, getProcessStartTime files s.pid = .ok t ∧ getProcessStartTime files' s'.pid = .ok t) ↔
          ∃ n : Nat, n < 2 ^ 64 ∧ s.shown = some (n : Int) ∧ s'.shown = some (n : Int)) := by
  refine ⟨?_, fun files' s' hexists' hread' => ?_⟩
  · rw [getProcessStartTime_iff hexists hread]
    constructor
    · rintro ⟨n, hshown, hfits, ht⟩
      rw [hshown, toInt64_injective hfits s.startTime_lt ht]
    · exact fun h => ⟨s.startTime, h, s.startTime_lt, rfl⟩
  · constructor
    · rintro ⟨t, ht, ht'⟩
      obtain ⟨n, hshown, hfits, rfl⟩ := (getProcessStartTime_iff hexists hread t).mp ht
      obtain ⟨n', hshown', hfits', heq⟩ := (getProcessStartTime_iff hexists' hread' _).mp ht'
      obtain rfl := toInt64_injective hfits' hfits heq
      exact ⟨n', hfits, hshown, hshown'⟩
    · rintro ⟨n, hfits, hshown, hshown'⟩
      exact ⟨toInt64 n, (getProcessStartTime_iff hexists hread _).mpr ⟨n, hshown, hfits, rfl⟩,
        (getProcessStartTime_iff hexists' hread' _).mpr ⟨n, hshown', hfits, rfl⟩⟩

def process (pid : Int) (comm : List Char) (hcomm : comm.length ≤ 15) (startTime : Nat) (hstart : startTime < 2 ^ 64) :
    Stat :=
  { pid, comm, startTime,
    comm_length := hcomm
    state := 'S'
    state_ne := by decide
    fields := List.replicate 18 0 ++ [(startTime : Int)]
    startTime_lt := hstart
    fields_startTime := rfl }

def Stat.procFiles (s : Stat) : Files := { checkFileExistence := fun _ => .ok (), read := fun _ => some s.text }

def shell : Stat := process 700 "my (shell".toList (by decide) 5000 (by decide)

theorem startTime_exact_iff_shell : getProcessStartTime shell.procFiles 700 = .ok (toInt64 5000) :=
  (@startTime_exact_iff shell.procFiles shell rfl rfl).1.mpr (by decide)

def parenthesis (pid : Int) (startTime : Nat) (hstart : startTime < 2 ^ 64) : Stat :=
  process pid [')'] (by decide) startTime hstart

/-- Processes that have been started at different times are both given the value of the field before. -/
theorem not_startTime_parenthesis :
    getProcessStartTime (parenthesis 700 5000 (by decide)).procFiles 700 = .ok 0 ∧
      getProcessStartTime (parenthesis 700 9000 (by decide)).procFiles 700 = .ok 0 ∧ toInt64 5000 ≠ 0 ∧
        toInt64 9000 ≠ 0 ∧
      toInt64 5000 ≠ toInt64 9000 := by
  refine ⟨?_, ?_, by decide, by decide, by decide⟩
  · exact (@getProcessStartTime_iff (parenthesis 700 5000 (by decide)).procFiles
      (parenthesis 700 5000 (by decide)) rfl rfl
      0).mpr ⟨0, by decide, by decide, rfl⟩
  · exact (@getProcessStartTime_iff (parenthesis 700 9000 (by decide)).procFiles
      (parenthesis 700 9000 (by decide)) rfl rfl
      0).mpr ⟨0, by decide, by decide, rfl⟩

end OsAccount.ProcessStat
