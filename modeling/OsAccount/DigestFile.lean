import OsAccount.Machine
import Mathlib.Data.List.Nodup
import Mathlib.Logic.Function.Basic

namespace OsAccount.DigestFile

open Function

abbrev Digest : Type := Vector UInt8 32

abbrev Digests : Type := String → Option Digest

inductive Request
  | addAccountInfoDigest (accountInfo userInfoPath : String)
  | deleteAccountInfoDigest (userInfoPath : String)

namespace Request

variable (generateAccountInfoDigest : String → Digest)

def path : Request → String
  | addAccountInfoDigest _ userInfoPath => userInfoPath
  | deleteAccountInfoDigest userInfoPath => userInfoPath

def entry : Request → Option Digest
  | addAccountInfoDigest accountInfo _ => some (generateAccountInfoDigest accountInfo)
  | deleteAccountInfoDigest _ => none

def change (r : Request) (digests : Digests) : Digests :=
  update digests r.path (r.entry generateAccountInfoDigest)

end Request

/-- Where a call is. It holds the lock while it reads, unlocks, writes and leaves; the digest of
an addition is generated under one lock and written under another. -/
inductive Progress
  | called
  | reading
  | unlocking (digests : Digests)
  | generated (digests : Digests)
  | writing (digests : Digests)
  | leaving
  | finished

def Progress.holds : Progress → Bool
  | reading | unlocking _ | writing _ | leaving => true
  | _ => false

variable {ι : Type} [DecidableEq ι]

/-- The file, the call that holds the lock, the calls, and those that are through with the
file in their order. -/
structure State (ι : Type) where
  file : Digests
  owner : Option ι := none
  progress : ι → Progress := fun _ => .called
  settled : List ι := []

section steps

variable (generateAccountInfoDigest : String → Digest) (requests : ι → Request)

def State.move (s : State ι) (i : ι) (p : Progress) : State ι := { s with progress := update s.progress i p }

def step (s : State ι) (i : ι) : State ι :=
  match s.progress i with
  | .called =>
      match s.owner with
      | none => { s.move i .reading with owner := some i }
      | some _ => s
  | .reading =>
      let digests := (requests i).change generateAccountInfoDigest s.file
      match requests i with
      | .addAccountInfoDigest _ _ => s.move i (.unlocking digests)
      | .deleteAccountInfoDigest userInfoPath =>
          match s.file userInfoPath with
          | none => { s.move i .leaving with settled := s.settled ++ [i] }
          | some _ => s.move i (.writing digests)
  | .unlocking digests => { s.move i (.generated digests) with owner := none }
  | .generated digests =>
      match s.owner with
      | none => { s.move i (.writing digests) with owner := some i }
      | some _ => s
  | .writing digests => { s.move i .leaving with file := digests, settled := s.settled ++ [i] }
  | .leaving => { s.move i .finished with owner := none }
  | .finished => s

def entryAfter (digests : Digests) (rs : List Request) : Digests :=
  rs.foldl (fun digests r => r.change generateAccountInfoDigest digests) digests

/-- A file that is found to have been changed from outside; without an entry its digest counts as
zeros. -/
def tampered (digests : Digests) (fileName fileInfoStr : String) : Prop :=
  (digests fileName).getD (Vector.replicate 32 0) ≠ generateAccountInfoDigest fileInfoStr

/-- No entry is lost: the file is what the calls make of it one after the other, so that what
the last of them has added for a path does not count as tampered. -/
structure Kept (digests : Digests) (s : State ι) : Prop where
  entries : s.file = entryAfter generateAccountInfoDigest digests (s.settled.map requests)
  settled : s.settled.Nodup
  finished : ∀ i, s.progress i = .finished → i ∈ s.settled
  unnamed : ∀ path, (∀ i ∈ s.settled, (requests i).path ≠ path) → s.file path = digests path
  named : ∀ before i after, s.settled = before ++ i :: after →
    (∀ j ∈ after, (requests j).path ≠ (requests i).path) →
      s.file (requests i).path = (requests i).entry generateAccountInfoDigest
  honest : ∀ before i after accountInfo path, s.settled = before ++ i :: after →
    (∀ j ∈ after, (requests j).path ≠ path) → requests i = .addAccountInfoDigest accountInfo path →
      ¬tampered generateAccountInfoDigest s.file path accountInfo

/-- No call writes a change of the entry of another path while an addition is between its
read and its write. -/
def Harmless (s : State ι) (i : ι) : Prop :=
  ∀ digests, s.progress i = .writing digests → ∀ j read, s.progress j = .generated read →
    ∀ path, path ≠ (requests j).path → digests path = s.file path

end steps

section invariants

variable {generateAccountInfoDigest : String → Digest} {requests : ι → Request} {digests : Digests} {s : State ι}

/-- The lock is held by the calls in their critical sections, what they have read is still
there, and the file is what those that are through with it have made. -/
structure Consistent (generateAccountInfoDigest : String → Digest) (requests : ι → Request) (digests : Digests)
    (s : State ι) : Prop where
  owner : ∀ i, (s.progress i).holds = true ↔ s.owner = some i
  fresh : ∀ i read, s.progress i = .unlocking read ∨ s.progress i = .generated read ∨ s.progress i = .writing read →
    read = (requests i).change generateAccountInfoDigest s.file
  entries : s.file = entryAfter generateAccountInfoDigest digests (s.settled.map requests)
  settled : s.settled.Nodup
  left : ∀ i, i ∈ s.settled ↔ s.progress i = .leaving ∨ s.progress i = .finished

theorem move_progress (s : State ι) (i j : ι) (p : Progress) :
    (s.move i p).progress j = if j = i then p else s.progress j := by
  unfold State.move
  exact update_apply ..

theorem entryAfter_append (digests : Digests) (rs rs' : List Request) :
    entryAfter generateAccountInfoDigest digests (rs ++ rs') =
      entryAfter generateAccountInfoDigest (entryAfter generateAccountInfoDigest digests rs) rs' := List.foldl_append

theorem entryAfter_unnamed {rs : List Request} {path : String} (h : ∀ r ∈ rs, r.path ≠ path) (digests : Digests) :
    entryAfter generateAccountInfoDigest digests rs path = digests path := by
  induction rs generalizing digests with
  | nil => rfl
  | cons r rs ih =>
      have hrest := ih (fun r' hr' => h r' (List.mem_cons_of_mem r hr'))
        (r.change generateAccountInfoDigest digests)
      refine hrest.trans ?_
      unfold Request.change
      exact update_of_ne (h r List.mem_cons_self).symm ..

theorem entryAfter_named {before after : List Request} {r : Request} (h : ∀ r' ∈ after, r'.path ≠ r.path)
    (digests : Digests) :
    entryAfter generateAccountInfoDigest digests (before ++ r :: after) r.path = r.entry generateAccountInfoDigest := by
  rw [entryAfter_append]
  refine (entryAfter_unnamed h (r.change generateAccountInfoDigest _)).trans ?_
  unfold Request.change
  exact update_self ..

theorem owner_move {i : ι} {p : Progress} {o : Option ι} (h : ∀ j, (s.progress j).holds = true ↔ s.owner = some j)
    (hp : p.holds = true ↔ o = some i) (hother : ∀ j, j ≠ i → (s.owner = some j ↔ o = some j)) (j : ι) :
    ((s.move i p).progress j).holds = true ↔ o = some j := by
  rw [move_progress]
  by_cases hj : j = i
  · subst hj
    rw [if_pos rfl]
    exact hp
  · rw [if_neg hj, h j]
    exact hother j hj

theorem consistent_move {i : ι} {p : Progress} {o : Option ι}
    (h : Consistent generateAccountInfoDigest requests digests s)
    (hp : p.holds = true ↔ o = some i) (hother : ∀ j, j ≠ i → (s.owner = some j ↔ o = some j))
    (hfresh : ∀ read, p = .unlocking read ∨ p = .generated read ∨ p = .writing read →
      read = (requests i).change generateAccountInfoDigest s.file)
    (hleft : (p = .leaving ∨ p = .finished) ↔ (s.progress i = .leaving ∨ s.progress i = .finished)) :
    Consistent generateAccountInfoDigest requests digests { s.move i p with owner := o } := by
  refine ⟨owner_move h.owner hp hother, fun j read hread => ?_, h.entries, h.settled, fun j => ?_⟩
  · dsimp only at hread
    rw [move_progress] at hread
    split at hread
    · next hj =>
        subst hj
        exact hfresh read hread
    · exact h.fresh j read hread
  · dsimp only
    rw [move_progress, show (s.move i p).settled = s.settled from rfl, h.left]
    split
    · next hj =>
        subst hj
        exact hleft.symm
    · exact Iff.rfl

theorem consistent_leave {i : ι} (h : Consistent generateAccountInfoDigest requests digests s)
    (hholds : (s.progress i).holds = true) (hnew : i ∉ s.settled) {file : Digests}
    (hfile : file = (requests i).change generateAccountInfoDigest s.file)
    (hothers : ∀ j read, s.progress j = .generated read → j ≠ i →
      (requests j).change generateAccountInfoDigest file = (requests j).change generateAccountInfoDigest s.file) :
    Consistent generateAccountInfoDigest requests digests
      { s.move i .leaving with file, settled := s.settled ++ [i] } := by
  have howner := (h.owner i).mp hholds
  refine ⟨owner_move h.owner (iff_of_true rfl howner) fun j _ => Iff.rfl, fun j read hread => ?_,
    ?_, ?_, fun j => ?_⟩
  · dsimp only at hread ⊢
    rw [move_progress] at hread
    split at hread
    · rcases hread with hread | hread | hread
      · cases hread
      · cases hread
      · cases hread
    · next hj =>
      have hlocked : ∀ p, s.progress j = p → p.holds = true →
          read = (requests j).change generateAccountInfoDigest file := by
        rintro p rfl hp
        exact absurd (Option.some.inj (((h.owner j).mp hp).symm.trans howner)) hj
      rcases hread with hread | hread | hread
      · exact hlocked _ hread rfl
      · rw [hothers j read hread hj]
        exact h.fresh j read (.inr (.inl hread))
      · exact hlocked _ hread rfl
  · dsimp only
    rw [List.map_append, entryAfter_append, ← h.entries]
    exact hfile
  · exact List.nodup_append.mpr ⟨h.settled, List.nodup_singleton i, fun j hj k hk he =>
      hnew (List.mem_singleton.mp hk ▸ he ▸ hj)⟩
  · dsimp only
    rw [move_progress, List.mem_append, List.mem_singleton]
    by_cases hj : j = i
    · rw [if_pos hj]
      exact iff_of_true (.inr hj) (.inl rfl)
    · rw [if_neg hj, or_iff_left hj]
      exact h.left j

theorem consistent_step (i : ι) (h : Consistent generateAccountInfoDigest requests digests s)
    (hi : Harmless requests s i) :
    Consistent generateAccountInfoDigest requests digests (step generateAccountInfoDigest requests s i) := by
  have howner := h.owner i
  have hnew : s.progress i ≠ .leaving → s.progress i ≠ .finished → i ∉ s.settled :=
    fun hleaving hfinished hmem => ((h.left i).mp hmem).elim hleaving hfinished
  have hsame : ∀ j, j ≠ i → (s.owner = some j ↔ s.owner = some j) := fun _ _ => Iff.rfl
  have hrelease : s.owner = some i → ∀ j, j ≠ i → (s.owner = some j ↔ none = some j) := by
    intro ho j hj
    rw [ho]
    exact iff_of_false (fun he => hj (Option.some.inj he).symm) nofun
  have hacquire : s.owner = none → ∀ j, j ≠ i → (s.owner = some j ↔ some i = some j) := by
    intro ho j hj
    rw [ho]
    exact iff_of_false nofun fun he => hj (Option.some.inj he).symm
  unfold step
  cases hp : s.progress i with
  | called =>
      dsimp only
      cases ho : s.owner with
      | some j => exact h
      | none =>
          exact consistent_move h (iff_of_true rfl rfl) (hacquire ho) nofun (by rw [hp]; exact ⟨nofun, nofun⟩)
  | reading =>
      rw [hp] at howner
      have ho : s.owner = some i := howner.mp rfl
      cases hr : requests i with
      | addAccountInfoDigest accountInfo userInfoPath =>
          dsimp only
          refine consistent_move (o := s.owner) h (iff_of_true rfl ho) hsame ?_
            (by rw [hp]; exact ⟨nofun, nofun⟩)
          rintro read (hread | hread | hread)
          · rw [hr]
            exact (Progress.unlocking.inj hread).symm
          · cases hread
          · cases hread
      | deleteAccountInfoDigest userInfoPath =>
          dsimp only
          cases hentry : s.file userInfoPath with
          | none =>
              have hsame : s.file = (requests i).change generateAccountInfoDigest s.file := by
                rw [hr]
                unfold Request.change
                exact (update_eq_self_iff.mpr hentry.symm).symm
              exact consistent_leave h (by rw [hp]; rfl)
                (hnew (by rw [hp]; exact nofun) (by rw [hp]; exact nofun))
                hsame fun _ _ _ _ => rfl
          | some digest =>
              refine consistent_move (o := s.owner) h (iff_of_true rfl ho) hsame ?_
                (by rw [hp]; exact ⟨nofun, nofun⟩)
              rintro read (hread | hread | hread)
              · cases hread
              · cases hread
              · rw [hr]
                exact (Progress.writing.inj hread).symm
  | unlocking read =>
      rw [hp] at howner
      refine consistent_move h (iff_of_false nofun nofun) (hrelease (howner.mp rfl)) ?_
        (by rw [hp]; exact ⟨nofun, nofun⟩)
      rintro read' (hread | hread | hread)
      · cases hread
      · rw [← Progress.generated.inj hread]
        exact h.fresh i read (.inl hp)
      · cases hread
  | generated read =>
      dsimp only
      cases ho : s.owner with
      | some j => exact h
      | none =>
          refine consistent_move h (iff_of_true rfl rfl) (hacquire ho) ?_ (by rw [hp]; exact ⟨nofun, nofun⟩)
          rintro read' (hread | hread | hread)
          · cases hread
          · cases hread
          · rw [← Progress.writing.inj hread]
            exact h.fresh i read (.inr (.inl hp))
  | writing read =>
      refine consistent_leave h (by rw [hp]; rfl) (hnew (by rw [hp]; exact nofun) (by rw [hp]; exact nofun))
        (h.fresh i read (.inr (.inr hp))) fun j read' hread _ => ?_
      unfold Request.change
      funext path
      by_cases hpath : path = (requests j).path
      · rw [hpath, update_self, update_self]
      · rw [update_of_ne hpath, update_of_ne hpath]
        exact hi read hp j read' hread path hpath
  | leaving =>
      rw [hp] at howner
      refine consistent_move h (iff_of_false nofun nofun) (hrelease (howner.mp rfl)) ?_
        (by rw [hp]; exact ⟨fun _ => .inl rfl, fun _ => .inr rfl⟩)
      rintro read' (hread | hread | hread)
      · cases hread
      · cases hread
      · cases hread
  | finished => exact h

omit [DecidableEq ι] in
theorem Consistent.kept (h : Consistent generateAccountInfoDigest requests digests s) :
    Kept generateAccountInfoDigest requests digests s := by
  have hnamed : ∀ before i after, s.settled = before ++ i :: after →
      (∀ j ∈ after, (requests j).path ≠ (requests i).path) →
        s.file (requests i).path = (requests i).entry generateAccountInfoDigest := by
    intro before i after hsplit hafter
    rw [h.entries, hsplit, List.map_append, List.map_cons]
    refine entryAfter_named (fun r hr => ?_) digests
    obtain ⟨j, hj, rfl⟩ := List.mem_map.mp hr
    exact hafter j hj
  refine ⟨h.entries, h.settled, fun i hi => (h.left i).mpr (.inr hi), fun path hpath => ?_, hnamed,
    fun before i after accountInfo path hsplit hafter hi htampered => ?_⟩
  · rw [h.entries]
    refine entryAfter_unnamed (fun r hr => ?_) digests
    obtain ⟨j, hj, rfl⟩ := List.mem_map.mp hr
    exact hpath j hj
  · have hentry := hnamed before i after hsplit (by rw [hi]; exact hafter)
    rw [hi] at hentry
    refine htampered ?_
    rw [show s.file path = some (generateAccountInfoDigest accountInfo) from hentry]
    rfl

end invariants

/-- Along every run in which no call writes between the read and the write of an addition,
unless it changes nothing else, no entry is lost. -/
theorem digests_run (generateAccountInfoDigest : String → Digest) (requests : ι → Request) (digests : Digests)
    (turns : List ι) (hturns : Machine.Meets (step generateAccountInfoDigest requests) (Harmless requests)
      { file := digests } turns) :
    Kept generateAccountInfoDigest requests digests
      (Machine.run (step generateAccountInfoDigest requests) { file := digests } turns) := by
  have hstart : Consistent generateAccountInfoDigest requests digests { file := digests } := by
    refine ⟨fun i => iff_of_false nofun nofun, fun i read hread => ?_, rfl, List.nodup_nil,
      fun i => iff_of_false nofun nofun⟩
    rcases hread with hread | hread | hread
    · cases hread
    · cases hread
    · cases hread
  exact (Machine.run_invariant_of_meets (fun s i h hi => consistent_step i h hi) hstart hturns).kept

def sizeOf (accountInfo : String) : Digest := Vector.replicate 32 (UInt8.ofNat accountInfo.length)

/-- Of two calls the one does not write while the other is between its read and its write. -/
theorem harmless_of_two {requests : Bool → Request} {s : State Bool} {i : Bool}
    (h : ∀ digests read, s.progress i = .writing digests → s.progress (!i) ≠ .generated read) :
      Harmless requests s i := by
  intro digests hwriting j read hgenerated
  by_cases hj : j = i
  · rw [hj, hwriting] at hgenerated
    cases hgenerated
  · rw [Bool.eq_not_of_ne hj] at hgenerated
    exact absurd hgenerated (h digests read hwriting)

def addAndDelete : Bool → Request
  | false => .addAccountInfoDigest "mail" "100/account_info.json"
  | true => .deleteAccountInfoDigest "101/account_info.json"

/-- The deletion waits for the lock, then finds no entry and leaves between the read and the write
of the addition. -/
theorem digests_run_deletionMeanwhile : Kept sizeOf addAndDelete (fun _ => none)
    (Machine.run (step sizeOf addAndDelete) { file := fun _ => none }
      [false, true, false, false, true, true, true, false, false, false]) := by
  refine digests_run sizeOf addAndDelete _ _ ⟨?_, ?_, ?_, ?_, ?_, ?_, ?_, ?_, ?_, ?_, trivial⟩
  case refine_5 | refine_6 | refine_7 => exact harmless_of_two fun digests read => nofun
  all_goals exact harmless_of_two fun digests read _ => nofun

def twoFiles : Bool → Request
  | false => .addAccountInfoDigest "mail" "100/account_info.json"
  | true => .addAccountInfoDigest "news" "101/account_info.json"

/-- The second call reads and writes between the read and the write of the first. -/
theorem not_kept_interleaved : ¬Kept sizeOf twoFiles (fun _ => none)
    (Machine.run (step sizeOf twoFiles) { file := fun _ => none }
      (List.replicate 3 false ++ List.replicate 6 true ++ List.replicate 3 false)) := by
  intro h
  have hentry := h.named [] true [false] rfl (by decide)
  cases hentry

end OsAccount.DigestFile
