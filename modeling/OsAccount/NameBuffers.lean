import OsAccount.Machine
import OsAccount.PosixGroups
import Mathlib.Data.List.Induction
import Mathlib.Data.List.TakeWhile
import Mathlib.Logic.Function.Basic

namespace OsAccount.NameBuffers

open Function PosixGroups

section buffers

variable {α : Type} {nul : α}

/-- The copy of the secure library: a text that the buffer has room for is copied to its start, of one that it has
not the buffer is cleared. -/
structure SecureLibrary (nul : α) where
  memcpyS : List α → List α → Bool × List α
  memcpyS_fits : ∀ dest src : List α, src ≠ [] → src.length ≤ dest.length →
    memcpyS dest src = (true, src ++ dest.drop src.length)
  memcpyS_tooLong : ∀ dest src : List α, dest ≠ [] → dest.length < src.length →
    memcpyS dest src = (false, List.replicate dest.length nul)

/-- The text that a buffer starts with, if there is a `nul` in it. -/
def readCString [DecidableEq α] (nul : α) (buf : List α) : Option (List α) :=
  if nul ∈ buf then some (buf.takeWhile (· ≠ nul)) else none

variable (lib : SecureLibrary nul) {src dest : List α}

/-- The text itself is found if and only if the buffer goes on with a `nul`. -/
theorem readCString_append [DecidableEq α] (hsrc : nul ∉ src) (rest : List α) :
    readCString nul (src ++ rest) = some src ↔ rest.head? = some nul := by
  have hall : ∀ c ∈ src, decide (c ≠ nul) = true := fun c hc => decide_eq_true fun h => hsrc (h ▸ hc)
  rw [readCString, List.takeWhile_append_of_pos hall]
  cases rest with
  | nil => simp [hsrc]
  | cons c rest =>
      by_cases hc : c = nul
      · simp [hc]
      · simp [hc]

theorem readCString_memcpyS [DecidableEq α] (hsrc : nul ∉ src) (hne : src ≠ []) (hfits : src.length ≤ dest.length) :
    readCString nul (lib.memcpyS dest src).2 = some src ↔ dest[src.length]? = some nul := by
  rw [lib.memcpyS_fits dest src hne hfits, readCString_append hsrc, List.head?_drop]

structure FilledTo (nul : α) (size : Nat) (buf : List α) (filled : Nat) : Prop where
  length : buf.length = size
  nul_iff : ∀ i < size, buf[i]? = some nul ↔ filled ≤ i

theorem filledTo_replicate (size : Nat) : FilledTo nul size (List.replicate size nul) 0 :=
  ⟨List.length_replicate, fun i hi => by simp [hi]⟩

theorem FilledTo.memcpyS {size filled : Nat} (h : FilledTo nul size dest filled) (hsrc : nul ∉ src) (hne : src ≠ [])
    (hsize : 0 < size) :
    FilledTo nul size (lib.memcpyS dest src).2 (if src.length ≤ size then max filled src.length else 0) := by
  obtain ⟨rfl, hnul⟩ := h
  by_cases hfits : src.length ≤ dest.length
  · rw [if_pos hfits, lib.memcpyS_fits dest src hne hfits]
    refine ⟨by simp [hfits], fun i hi => ?_⟩
    by_cases hcopied : i < src.length
    · rw [List.getElem?_append_left hcopied, List.getElem?_eq_getElem hcopied, Option.some_inj]
      exact iff_of_false (fun hc => hsrc (hc ▸ List.getElem_mem hcopied)) (by omega)
    · rw [List.getElem?_append_right (by omega), List.getElem?_drop, Nat.add_sub_cancel' (by omega), hnul i hi]
      omega
  · rw [if_neg hfits, lib.memcpyS_tooLong dest src (List.ne_nil_of_length_pos hsize) (not_le.mp hfits)]
    exact filledTo_replicate dest.length

end buffers

def bufSize : Nat := 1024

def erangeAndReset : Errno := .sys 162

def nulChar : Char := '\x00'

variable (lib : SecureLibrary nulChar)

/-- The body that `oh_getusername` and `oh_getgroupname` have in common, with the buffer of the function. The result
is what the returned pointer leads to, and the buffer is what remains for the next call. -/
def getName (file : Except ErrCode String) (id : UInt32) (buf : List Char) :
    Except Errno (Option (List Char)) × List Char :=
  match getRealAccountName file ((id.toNat : Int).bmod (2 ^ 32)) with
  | .error e => (.error e, buf)
  | .ok accountName =>
      if accountName = "" then (.ok none, buf)
      else
        match lib.memcpyS buf accountName.toList with
        | (true, buf) => (.ok (some buf), buf)
        | (false, buf) => (.error erangeAndReset, buf)

inductive Function
  | getusername
  | getgroupname
deriving DecidableEq

abbrev Buffers := Function → List Char

structure Call where
  function : Function
  file : Except ErrCode String
  id : UInt32

def ohGetusername (file : Except ErrCode String) (uid : UInt32) (s : Buffers) :
    Except Errno (Option (List Char)) × Buffers :=
  let (result, buf) := getName lib file uid (s .getusername)
  (result, update s .getusername buf)

def ohGetgroupname (file : Except ErrCode String) (gid : UInt32) (s : Buffers) :
    Except Errno (Option (List Char)) × Buffers :=
  let (result, buf) := getName lib file gid (s .getgroupname)
  (result, update s .getgroupname buf)

def perform (call : Call) (s : Buffers) : Except Errno (Option (List Char)) × Buffers :=
  match call.function with
  | .getusername => ohGetusername lib call.file call.id s
  | .getgroupname => ohGetgroupname lib call.file call.id s

def step (s : Buffers) (call : Call) : Buffers := (perform lib call s).2

def initial : Buffers := fun _ => List.replicate bufSize nulChar

def reached (calls : List Call) : Buffers := Machine.run (step lib) initial calls

def Call.realAccountName (call : Call) : Except Errno String :=
  getRealAccountName call.file ((call.id.toNat : Int).bmod (2 ^ 32))

def Found (s : Buffers) (call : Call) : Prop :=
  ∀ buf, (perform lib call s).1 = .ok (some buf) →
    ∃ accountName, call.realAccountName = .ok accountName ∧ readCString nulChar buf = some accountName.toList

/-- The length of the longest name that a function has copied since its buffer was last cleared. -/
def longer (longest : Function → Nat) (call : Call) : Function → Nat :=
  match call.realAccountName with
  | .error _ => longest
  | .ok accountName =>
      if accountName = "" then longest
      else
        update longest call.function
          (if accountName.length ≤ bufSize then max (longest call.function) accountName.length else 0)

def longest (calls : List Call) : Function → Nat := calls.foldl longer fun _ => 0

/-- A name that the buffer takes is shorter than the buffer, and no shorter than the names before. -/
def Fits (longest : Function → Nat) (call : Call) : Prop :=
  ∀ accountName, call.realAccountName = .ok accountName → accountName = "" ∨ bufSize < accountName.length ∨
    longest call.function ≤ accountName.length ∧ accountName.length < bufSize

section names

variable {lib} {s : Buffers} {l : Function → Nat} {call : Call}

theorem perform_eq (call : Call) (s : Buffers) :
    perform lib call s =
      ((getName lib call.file call.id (s call.function)).1,
        update s call.function (getName lib call.file call.id (s call.function)).2) := by
  unfold perform
  cases call.function <;> rfl

theorem nulChar_not_mem {accountName : String} (h : call.realAccountName = .ok accountName) :
    nulChar ∉ accountName.toList := by
  intro hnul
  simp only [Call.realAccountName, getRealAccountName, bind, Except.bind] at h
  split at h
  · cases h
  · split at h
    · cases h
      exact List.not_mem_nil hnul
    · split at h
      · rename_i hvalid
        cases h
        rw [checkAccountNameValid, Bool.and_eq_true, List.all_eq_true] at hvalid
        exact absurd (hvalid.2 nulChar hnul) (by decide)
      · cases h
        exact List.not_mem_nil hnul

theorem toList_ne_nil {accountName : String} (hne : accountName ≠ "") : accountName.toList ≠ [] := by
  simpa using hne

theorem getName_of_name {accountName : String} (h : call.realAccountName = .ok accountName) (hne : accountName ≠ "")
    {buf : List Char} (hbuf : buf.length = bufSize) :
    getName lib call.file call.id buf =
      if accountName.length ≤ bufSize then
        (.ok (some (lib.memcpyS buf accountName.toList).2), (lib.memcpyS buf accountName.toList).2)
      else (.error erangeAndReset, (lib.memcpyS buf accountName.toList).2) := by
  rw [Call.realAccountName] at h
  rw [getName, h, ← hbuf, ← String.length_toList]
  by_cases hfits : accountName.toList.length ≤ buf.length
  · simp only [if_neg hne, lib.memcpyS_fits buf _ (toList_ne_nil hne) hfits, if_pos hfits]
  · have hpos : buf ≠ [] := List.ne_nil_of_length_pos (hbuf ▸ by decide)
    simp only [if_neg hne, lib.memcpyS_tooLong buf _ hpos (not_le.mp hfits), if_neg hfits]

theorem getName_of_no_name (h : ∀ accountName, call.realAccountName = .ok accountName → accountName = "")
    (buf : List Char) :
    (getName lib call.file call.id buf).2 = buf ∧ ∀ text, (getName lib call.file call.id buf).1 ≠ .ok (some text) := by
  unfold Call.realAccountName at h
  unfold getName
  cases hname : getRealAccountName call.file ((call.id.toNat : Int).bmod (2 ^ 32)) with
  | error e => exact ⟨rfl, fun _ => by simp⟩
  | ok accountName => simp [h accountName hname]

def Inv (s : Buffers) (l : Function → Nat) : Prop := ∀ f, FilledTo nulChar bufSize (s f) (l f)

theorem inv_step (h : Inv s l) (call : Call) : Inv (step lib s call) (longer l call) := by
  intro f
  rw [step, perform_eq]
  by_cases hname : ∃ accountName, call.realAccountName = .ok accountName ∧ accountName ≠ ""
  · obtain ⟨accountName, hname, hne⟩ := hname
    have hbuf : (getName lib call.file call.id (s call.function)).2 =
        (lib.memcpyS (s call.function) accountName.toList).2 := by
      rw [getName_of_name hname hne (h call.function).length]
      split <;> rfl
    rw [longer, hname]
    simp only [if_neg hne, hbuf]
    by_cases hf : f = call.function
    · subst hf
      rw [update_self, update_self, ← String.length_toList]
      exact (h call.function).memcpyS lib (nulChar_not_mem hname) (toList_ne_nil hne) (by decide)
    · rw [update_of_ne hf, update_of_ne hf]
      exact h f
  · have hnone : ∀ accountName, call.realAccountName = .ok accountName → accountName = "" := by
      intro accountName heq
      by_contra hne
      exact hname ⟨accountName, heq, hne⟩
    have hlonger : longer l call = l := by
      unfold longer
      split
      · rfl
      · rename_i accountName heq
        exact if_pos (hnone accountName heq)
    rw [(getName_of_no_name hnone _).1, update_eq_self, hlonger]
    exact h f

theorem inv_reached (calls : List Call) : Inv (reached lib calls) (longest calls) := by
  induction calls using List.reverseRecOn with
  | nil => exact fun _ => filledTo_replicate bufSize
  | append_singleton calls call ih =>
      rw [reached, longest, Machine.run_append, List.foldl_append]
      exact inv_step ih call

theorem found_iff_of_inv (h : Inv s l) : Found lib s call ↔ Fits l call := by
  have hlength := (h call.function).length
  constructor
  · intro hfound accountName hname
    by_cases hne : accountName = ""
    · exact .inl hne
    by_cases hfits : accountName.length ≤ bufSize
    · refine .inr (.inr ?_)
      have hcall : getName lib call.file call.id (s call.function) = _ := getName_of_name hname hne hlength
      rw [if_pos hfits] at hcall
      obtain ⟨accountName', hname', hread⟩ := hfound _ (by rw [perform_eq, hcall])
      obtain rfl : accountName = accountName' := by simpa [hname] using hname'
      rw [readCString_memcpyS lib (nulChar_not_mem hname) (toList_ne_nil hne)
        (by rwa [hlength, String.length_toList])] at hread
      have hlt := (List.getElem?_eq_some_iff.mp hread).1
      rw [hlength] at hlt
      rw [(h call.function).nul_iff _ hlt, String.length_toList] at hread
      exact ⟨hread, by rwa [String.length_toList] at hlt⟩
    · exact .inr (.inl (not_le.mp hfits))
  · intro hfits buf hbuf
    rw [perform_eq] at hbuf
    by_cases hname : ∃ accountName, call.realAccountName = .ok accountName ∧ accountName ≠ ""
    · obtain ⟨accountName, hname, hne⟩ := hname
      refine ⟨accountName, hname, ?_⟩
      rw [getName_of_name hname hne hlength] at hbuf
      split at hbuf
      · rename_i hle
        obtain ⟨hlongest, hlt⟩ := ((hfits accountName hname).resolve_left hne).resolve_left (not_lt.mpr hle)
        cases hbuf
        rw [readCString_memcpyS lib (nulChar_not_mem hname) (toList_ne_nil hne)
          (by rwa [hlength, String.length_toList]), String.length_toList]
        exact ((h call.function).nul_iff _ hlt).mpr hlongest
      · cases hbuf
    · have hnone : ∀ accountName, call.realAccountName = .ok accountName → accountName = "" := by
        intro accountName heq
        by_contra hne
        exact hname ⟨accountName, heq, hne⟩
      exact ((getName_of_no_name hnone _).2 buf hbuf).elim

end names

/-- In a sequence of calls every pointer that is returned leads to the name of its call if and only if no name is
shorter than one that the same function has copied before and none fills the buffer. -/
theorem names_found_iff (calls : List Call) :
    (∀ before call, before ++ [call] <+: calls → Found lib (reached lib before) call) ↔
      ∀ before call, before ++ [call] <+: calls → Fits (longest before) call :=
  forall₃_congr fun before _ _ => found_iff_of_inv (inv_reached before)

def twoUsers : List Call :=
  [⟨.getusername, .ok "100:alice\n101:bob\n", 20000001⟩, ⟨.getusername, .ok "100:alice\n101:bob\n", 20200001⟩]

def boundsChecking : SecureLibrary nulChar where
  memcpyS dest src :=
    if dest = [] then (false, [])
    else if dest.length < src.length then (false, List.replicate dest.length nulChar)
    else (true, src ++ dest.drop src.length)
  memcpyS_fits dest src hne hfits := by
    have hpos : dest ≠ [] := List.ne_nil_of_length_pos ((List.length_pos_of_ne_nil hne).trans_le hfits)
    rw [if_neg hpos, if_neg (not_lt.mpr hfits)]
  memcpyS_tooLong dest src hne hlong := by
    rw [if_neg hne, if_pos hlong]

theorem not_found_twoUsers :
    ¬∀ before call, before ++ [call] <+: twoUsers → Found boundsChecking (reached boundsChecking before) call := by
  intro h
  have hbob := h [twoUsers[0]] twoUsers[1] (List.prefix_refl _)
  rw [found_iff_of_inv (inv_reached _)] at hbob
  have hfits := hbob "bob" (by decide)
  revert hfits
  decide

end OsAccount.NameBuffers
