import OsAccount.SubProfileContexts
import Mathlib.Data.List.Count

namespace OsAccount.SubProfileGarbage

open Std SubProfiles SubProfileContexts

section removal

def afterRemoval : DirAnswer → Option (Option OsAccountSubspaceInfo) → Option (Option OsAccountSubspaceInfo)
  | _, none => none
  | .success, some _ => none
  | .failure _ emptied, some info => if emptied then some none else some info
  | .crash emptied, some info => if emptied then some none else some info

def isSuccess : DirAnswer → Bool
  | .success => true
  | _ => false

def isCrash : DirAnswer → Bool
  | .crash _ => true
  | _ => false

variable {a : Int → DirAnswer} {osAccountId : Int} {ids : List Int} {d d₁ d₂ : Disk}

theorem afterRemoval_idem (a : DirAnswer) (info : Option (Option OsAccountSubspaceInfo)) :
    afterRemoval a (afterRemoval a info) = afterRemoval a info := by
  cases info with
  | none => rfl
  | some info =>
      cases a with
      | success => rfl
      | failure e emptied => cases emptied <;> rfl
      | crash emptied => cases emptied <;> rfl

theorem eq_of_afterRemoval_eq {a : DirAnswer} {info : Option (Option OsAccountSubspaceInfo)} {i : OsAccountSubspaceInfo}
    (h : afterRemoval a info = some (some i)) : info = some (some i) := by
  cases info with
  | none => cases h
  | some info =>
      cases a with
      | success => cases h
      | failure e emptied =>
          cases emptied with
          | true => cases h
          | false => exact h
      | crash emptied =>
          cases emptied with
          | true => cases h
          | false => exact h

theorem afterRemoval_eq_none_iff {a : DirAnswer} {info : Option OsAccountSubspaceInfo} :
    afterRemoval a (some info) = none ↔ isSuccess a = true := by
  cases a with
  | success => exact iff_of_true rfl rfl
  | failure e emptied => cases emptied <;> exact iff_of_false nofun nofun
  | crash emptied => cases emptied <;> exact iff_of_false nofun nofun

theorem context_removeSubProfileDir (a : DirAnswer) (b id : Int) :
    ((removeSubProfileDir a osAccountId id d).2 b).context = (d b).context := by
  unfold removeSubProfileDir
  split
  · rfl
  cases a with
  | success => exact context_eraseDir d osAccountId b id
  | failure e emptied =>
      cases emptied with
      | true => exact context_setDir d osAccountId b id none
      | false => rfl
  | crash emptied =>
      cases emptied with
      | true => exact context_setDir d osAccountId b id none
      | false => rfl

theorem dirs_removeSubProfileDir (a : DirAnswer) (b id t : Int) :
    ((removeSubProfileDir a osAccountId id d).2 b).dirs[t]? =
      if b = osAccountId ∧ t = id then afterRemoval a (d b).dirs[t]? else (d b).dirs[t]? := by
  unfold removeSubProfileDir
  split
  · rename_i hmem
    split
    · rename_i he
      rw [he.1, he.2, ExtTreeMap.getElem?_eq_none hmem]
      cases a <;> rfl
    · rfl
  rename_i hmem
  by_cases he : b = osAccountId ∧ t = id
  · obtain ⟨rfl, rfl⟩ := he
    obtain ⟨info, hinfo⟩ := Option.isSome_iff_exists.1 (ExtTreeMap.mem_iff_isSome_getElem?.1 (not_not.1 hmem))
    rw [if_pos ⟨rfl, rfl⟩, hinfo]
    cases a with
    | success => rw [dirs_eraseDir, if_pos ⟨rfl, rfl⟩, afterRemoval]
    | failure e emptied =>
        cases emptied with
        | true =>
            dsimp only
            rw [if_pos rfl, dirs_setDir, if_pos ⟨rfl, rfl⟩]
            rfl
        | false => exact hinfo
    | crash emptied =>
        cases emptied with
        | true =>
            dsimp only
            rw [if_pos rfl, dirs_setDir, if_pos ⟨rfl, rfl⟩]
            rfl
        | false => exact hinfo
  · rw [if_neg he]
    cases a with
    | success => rw [dirs_eraseDir, if_neg he]
    | failure e emptied =>
        cases emptied with
        | true =>
            dsimp only
            rw [if_pos rfl, dirs_setDir, if_neg he]
        | false => rfl
    | crash emptied =>
        cases emptied with
        | true =>
            dsimp only
            rw [if_pos rfl, dirs_setDir, if_neg he]
        | false => rfl

variable {id : Int}

theorem removeSubProfileDir_of_mem (a : DirAnswer) (hid : id ∈ (d osAccountId).dirs) :
    removeSubProfileDir a osAccountId id d = match a with
      | .success => (.ok (), d.eraseDir osAccountId id)
      | .failure e emptied => (.error (.error e), if emptied then d.setDir osAccountId id none else d)
      | .crash emptied => (.error .crash, if emptied then d.setDir osAccountId id none else d) := by
  unfold removeSubProfileDir
  exact if_neg (not_not.2 hid)

structure Shrunk (a : Int → DirAnswer) (osAccountId : Int) (ids : List Int) (d d' : Disk) : Prop where
  context : ∀ b, (d' b).context = (d b).context
  dirs : ∀ b t : Int, (d' b).dirs[t]? = (d b).dirs[t]? ∨
    b = osAccountId ∧ t ∈ ids ∧ (d' b).dirs[t]? = afterRemoval (a t) (d b).dirs[t]?

theorem shrunk_removeSubProfileDir (a : Int → DirAnswer) (osAccountId id : Int) (d : Disk) :
    Shrunk a osAccountId [id] d (removeSubProfileDir (a id) osAccountId id d).2 := by
  refine ⟨fun b => context_removeSubProfileDir (a id) b id, fun b t => ?_⟩
  rw [dirs_removeSubProfileDir]
  split
  · rename_i he
    exact .inr ⟨he.1, List.mem_singleton.2 he.2, by rw [he.2]⟩
  · exact .inl rfl

theorem Shrunk.cons (h : Shrunk a osAccountId [id] d d₁) (h' : Shrunk a osAccountId ids d₁ d₂) :
    Shrunk a osAccountId (id :: ids) d d₂ := by
  refine ⟨fun b => (h'.context b).trans (h.context b), fun b t => ?_⟩
  rcases h.dirs b t with ht | ⟨hb, hid, ht⟩ <;> rcases h'.dirs b t with ht' | ⟨hb', hid', ht'⟩
  · exact .inl (ht'.trans ht)
  · exact .inr ⟨hb', List.mem_cons_of_mem id hid', by rw [ht', ht]⟩
  · exact .inr ⟨hb, List.mem_cons.2 (.inl (List.mem_singleton.1 hid)), by rw [ht', ht]⟩
  · exact .inr ⟨hb, List.mem_cons_of_mem id hid', by rw [ht', ht, afterRemoval_idem]⟩

theorem Shrunk.weaken (h : Shrunk a osAccountId [id] d d₁) (ids : List Int) :
    Shrunk a osAccountId (id :: ids) d d₁ :=
  h.cons ⟨fun _ => rfl, fun _ _ => .inl rfl⟩

theorem shrunk_removeSubProfileDirs (a : Int → DirAnswer) (osAccountId : Int) (ids : List Int) (d : Disk) :
    Shrunk a osAccountId ids d (removeSubProfileDirs a osAccountId ids d).2 := by
  induction ids generalizing d with
  | nil => exact ⟨fun _ => rfl, fun _ _ => .inl rfl⟩
  | cons id ids ih =>
      have hremove := shrunk_removeSubProfileDir a osAccountId id d
      unfold removeSubProfileDirs
      split <;> rename_i hr <;> rw [hr] at hremove
      · exact hremove.weaken ids
      · exact hremove.cons (ih _)
      · have hrest := hremove.cons (ih _)
        dsimp only at hrest ⊢
        split <;> rename_i hr' <;> rw [hr'] at hrest <;> exact hrest

structure Removed (a : Int → DirAnswer) (osAccountId : Int) (ids : List Int) (d d' : Disk) : Prop where
  context : ∀ b, (d' b).context = (d b).context
  dirs : ∀ b t : Int, (d' b).dirs[t]? =
    if b = osAccountId ∧ t ∈ ids then afterRemoval (a t) (d b).dirs[t]? else (d b).dirs[t]?

theorem Removed.cons (hid : id ∉ ids)
    (h : Removed a osAccountId ids (removeSubProfileDir (a id) osAccountId id d).2 d₂) :
    Removed a osAccountId (id :: ids) d d₂ := by
  refine ⟨fun b => (h.context b).trans (context_removeSubProfileDir (a id) b id), fun b t => ?_⟩
  rw [h.dirs, dirs_removeSubProfileDir]
  by_cases hb : b = osAccountId
  · by_cases ht : t = id
    · subst ht
      rw [if_neg fun he => hid he.2, if_pos ⟨hb, rfl⟩, if_pos ⟨hb, List.mem_cons_self⟩]
    · simp only [hb, ht, true_and, if_false, List.mem_cons, false_or]
  · simp only [hb, false_and, if_false]

theorem mem_dirs_removeSubProfileDir (a : DirAnswer) {id t : Int} (hne : t ≠ id) (ht : t ∈ (d osAccountId).dirs) :
    t ∈ ((removeSubProfileDir a osAccountId id d).2 osAccountId).dirs := by
  rw [ExtTreeMap.mem_iff_isSome_getElem?, dirs_removeSubProfileDir, if_neg fun he => hne he.2]
  exact ExtTreeMap.mem_iff_isSome_getElem?.1 ht

theorem isCrash_of_removeSubProfileDirs_ok {n : Nat} {d' : Disk} (hids : ids.Nodup)
    (hmem : ∀ id ∈ ids, id ∈ (d osAccountId).dirs) (h : removeSubProfileDirs a osAccountId ids d = (.ok n, d')) :
    ∀ id ∈ ids, isCrash (a id) = false := by
  induction ids generalizing d n with
  | nil => exact fun id hid => (List.not_mem_nil hid).elim
  | cons id ids ih =>
      obtain ⟨hid, hids⟩ := List.nodup_cons.1 hids
      have hfirst := removeSubProfileDir_of_mem (a id) (hmem id List.mem_cons_self)
      have hrest : ∀ t ∈ ids, t ∈ ((removeSubProfileDir
          (a id) osAccountId id d).2 osAccountId).dirs := fun t ht =>
        mem_dirs_removeSubProfileDir (a id) (fun he => hid (he ▸ ht)) (hmem t (List.mem_cons_of_mem id ht))
      unfold removeSubProfileDirs at h
      intro t ht
      cases hanswer : a id with
      | success =>
          rw [hanswer] at hfirst hrest
          rw [hanswer, hfirst] at h
          rw [hfirst] at hrest
          dsimp only at h hrest
          split at h
          · cases h
          · rename_i hr
            cases h
            rcases List.mem_cons.1 ht with rfl | ht
            · rw [hanswer]
              rfl
            · exact ih hids hrest hr t ht
      | failure e emptied =>
          rw [hanswer] at hfirst hrest
          rw [hanswer, hfirst] at h
          rw [hfirst] at hrest
          rcases List.mem_cons.1 ht with rfl | ht
          · rw [hanswer]
            rfl
          · exact ih hids hrest h t ht
      | crash emptied =>
          rw [hanswer] at hfirst
          rw [hanswer, hfirst] at h
          cases h

theorem removeSubProfileDirs_removes (hids : ids.Nodup) (hmem : ∀ id ∈ ids, id ∈ (d osAccountId).dirs)
    (ha : ∀ id ∈ ids, isCrash (a id) = false) :
    ∃ d', removeSubProfileDirs a osAccountId ids d = (.ok (ids.countP fun id => isSuccess (a id)), d') ∧
      Removed a osAccountId ids d d' := by
  induction ids generalizing d with
  | nil => exact ⟨d, rfl, fun _ => rfl, fun b t => by rw [if_neg fun h => List.not_mem_nil h.2]⟩
  | cons id ids ih =>
      obtain ⟨hid, hids⟩ := List.nodup_cons.1 hids
      have hrest : ∀ t ∈ ids, t ∈ ((removeSubProfileDir
          (a id) osAccountId id d).2 osAccountId).dirs := fun t ht =>
        mem_dirs_removeSubProfileDir (a id) (fun he => hid (he ▸ ht)) (hmem t (List.mem_cons_of_mem id ht))
      obtain ⟨d', hd', hremoved⟩ := ih hids hrest fun t ht => ha t (List.mem_cons_of_mem id ht)
      refine ⟨d', ?_, hremoved.cons hid⟩
      have hcrash := ha id List.mem_cons_self
      have hfirst := removeSubProfileDir_of_mem (a id) (hmem id List.mem_cons_self)
      unfold removeSubProfileDirs
      rw [List.countP_cons]
      cases hanswer : a id with
      | success =>
          rw [hanswer] at hfirst hd'
          rw [hfirst] at hd' ⊢
          dsimp only at hd' ⊢
          rw [hd']
          rfl
      | failure e emptied =>
          rw [hanswer] at hfirst hd'
          rw [hfirst] at hd' ⊢
          exact hd'
      | crash emptied =>
          rw [hanswer] at hcrash
          cases hcrash

end removal

section collection

variable {osAccountId : Int} {d : Disk}

variable {id : Int}

theorem mem_garbageIds : id ∈ garbageIds d osAccountId ↔ isSubProfileId osAccountId id = true ∧
    ∃ info, (d osAccountId).dirs[id]? = some (some info) ∧ info.toBeRemoved = true := by
  unfold garbageIds scanPendingRemovalSubProfileIds
  exact mem_scanSubProfileIds

theorem mem_dirs_of_mem_garbageIds (h : id ∈ garbageIds d osAccountId) : id ∈ (d osAccountId).dirs := by
  obtain ⟨_, info, hinfo, _⟩ := mem_garbageIds.1 h
  rw [ExtTreeMap.mem_iff_isSome_getElem?, hinfo]
  rfl

theorem not_mem_dirs_iff : id ∉ (d osAccountId).dirs ↔ (d osAccountId).dirs[id]? = none := by
  rw [ExtTreeMap.mem_iff_isSome_getElem?, Bool.not_eq_true, Option.isSome_eq_false_iff,
    Option.isNone_iff_eq_none]

theorem nodup_garbageIds (d : Disk) (osAccountId : Int) : (garbageIds d osAccountId).Nodup := by
  unfold garbageIds scanPendingRemovalSubProfileIds scanSubProfileIds
  exact ExtTreeMap.nodup_keys.filter _

theorem subProfileIdList_purge_all (ctx : SubProfileContext) (ids : List Int) :
    (ids.foldl purgeGarbageIdFromAccountInfo ctx).subProfileIdList = ctx.subProfileIdList.diff ids := by
  induction ids generalizing ctx with
  | nil => exact (List.diff_nil _).symm
  | cons id ids ih =>
      rw [List.foldl_cons, ih, List.diff_cons]
      rfl

theorem not_mem_diff_iff {ids l : List Int} (hids : ids.Nodup) (hid : id ∈ l) :
    id ∉ l.diff ids ↔ id ∈ ids ∧ l.count id = 1 := by
  have hpos : 0 < l.count id := List.count_pos_iff.2 hid
  rw [← List.count_eq_zero, List.count_diff, hids.count]
  split
  · rename_i hmem
    simp only [hmem, true_and]
    omega
  · rename_i hmem
    simp only [hmem, false_and, iff_false]
    omega

def failing (fails : Int → Option (ErrCode × Bool)) (id : Int) : DirAnswer :=
  match fails id with
  | none => .success
  | some (e, emptied) => .failure e emptied

variable {fails : Int → Option (ErrCode × Bool)} {purge : WriteAnswer}

theorem isSuccess_failing : isSuccess (failing fails id) = true ↔ fails id = none := by
  unfold failing
  cases fails id with
  | none => exact iff_of_true rfl rfl
  | some e => exact iff_of_false nofun nofun

theorem isCrash_failing (id : Int) : isCrash (failing fails id) = false := by
  unfold failing
  cases fails id <;> rfl

theorem context_purgeGarbageIdsFromContext (a : WriteAnswer) (ids : List Int) (b : Int) :
    ((purgeGarbageIdsFromContext a osAccountId ids d).2 b).context =
      if b = osAccountId ∧ a = .success then
        (d b).context.map fun ctx => ids.foldl purgeGarbageIdFromAccountInfo ctx
      else (d b).context := by
  unfold purgeGarbageIdsFromContext
  by_cases hb : b = osAccountId
  · subst hb
    cases hctx : (d b).context with
    | none =>
        dsimp only
        rw [hctx, Option.map_none, ite_self]
    | some ctx =>
        dsimp only
        rw [ignoreError_snd]
        cases a with
        | success =>
            rw [if_pos ⟨rfl, rfl⟩]
            exact (context_setContext d b b _).trans (if_pos rfl)
        | failure e => exact hctx.trans (if_neg fun h => nomatch h.2).symm
        | crash => exact hctx.trans (if_neg fun h => nomatch h.2).symm
  · rw [if_neg fun h => hb h.1]
    split
    · rfl
    rw [ignoreError_snd]
    cases a with
    | success => exact (context_setContext d osAccountId b _).trans (if_neg hb)
    | failure e => rfl
    | crash => rfl

theorem dirs_purgeGarbageIdsFromContext (a : WriteAnswer) (ids : List Int) (b : Int) :
    ((purgeGarbageIdsFromContext a osAccountId ids d).2 b).dirs = (d b).dirs := by
  unfold purgeGarbageIdsFromContext
  split
  · rfl
  rw [ignoreError_snd]
  cases a with
  | success => exact dirs_setContext d osAccountId b _
  | failure e => rfl
  | crash => rfl

theorem removeGarbageSubProfiles_of_nil (h : garbageIds d osAccountId = []) (a : Int → DirAnswer) :
    removeGarbageSubProfiles a purge osAccountId d = (.ok 0, d) := by
  unfold removeGarbageSubProfiles
  rw [if_pos h]

variable (purge) in
theorem removeGarbageSubProfiles_removes {a : Int → DirAnswer}
    (ha : ∀ id ∈ garbageIds d osAccountId, isCrash (a id) = false) :
    ∃ d₁, Removed a osAccountId (garbageIds d osAccountId) d d₁ ∧
      (removeGarbageSubProfiles a purge osAccountId d).2 =
        if ∃ id ∈ garbageIds d osAccountId, isSuccess (a id) = true then
          (purgeGarbageIdsFromContext purge osAccountId (garbageIds d osAccountId) d₁).2
        else d₁ := by
  obtain ⟨d₁, hd₁, hremoved⟩ :=
    removeSubProfileDirs_removes (nodup_garbageIds d osAccountId) (fun _ => mem_dirs_of_mem_garbageIds) ha
  refine ⟨d₁, hremoved, ?_⟩
  unfold removeGarbageSubProfiles
  split
  · rename_i hnil
    rw [hnil] at hd₁ ⊢
    rw [if_neg fun ⟨id, hid, _⟩ => List.not_mem_nil hid]
    exact congrArg Prod.snd hd₁
  · rw [hd₁]
    dsimp only
    have hcount : (garbageIds d osAccountId).countP (fun id => isSuccess (a id)) = 0 ↔
        ¬∃ id ∈ garbageIds d osAccountId, isSuccess (a id) = true := by
      rw [List.countP_eq_zero]
      exact ⟨fun h ⟨id, hid, hs⟩ => h id hid hs, fun h id hid hs => h ⟨id, hid, hs⟩⟩
    split
    · rename_i hzero
      rw [if_neg (hcount.1 hzero)]
    · rename_i hzero
      rw [if_pos (not_not.1 fun h => hzero (hcount.2 h))]
      split <;> rename_i hr <;> rw [hr]

theorem dirs_removeGarbageSubProfiles (b t : Int) :
    ((removeGarbageSubProfiles (failing fails) purge osAccountId d).2 b).dirs[t]? =
      if b = osAccountId ∧ t ∈ garbageIds d osAccountId then afterRemoval (failing fails t) (d b).dirs[t]?
      else (d b).dirs[t]? := by
  obtain ⟨d₁, hremoved, heq⟩ :=
    removeGarbageSubProfiles_removes purge (d := d) fun id _ => isCrash_failing id
  rw [heq, ← hremoved.dirs]
  split
  · rw [dirs_purgeGarbageIdsFromContext]
  · rfl

theorem context_removeGarbageSubProfiles :
    ((removeGarbageSubProfiles (failing fails) purge osAccountId d).2 osAccountId).context =
      if (∃ id ∈ garbageIds d osAccountId, fails id = none) ∧ purge = .success then
        (d osAccountId).context.map fun ctx => (garbageIds d osAccountId).foldl purgeGarbageIdFromAccountInfo ctx
      else (d osAccountId).context := by
  obtain ⟨d₁, hremoved, heq⟩ :=
    removeGarbageSubProfiles_removes purge (d := d) fun id _ => isCrash_failing id
  rw [heq]
  simp only [isSuccess_failing]
  by_cases hex : ∃ id ∈ garbageIds d osAccountId, fails id = none
  · rw [if_pos hex, context_purgeGarbageIdsFromContext, hremoved.context]
    simp only [hex, true_and]
  · rw [if_neg hex, if_neg fun h => hex h.1, hremoved.context]

end collection

section claims

variable (osAccountId : Int) (d : Disk)

def isGarbage (info : OsAccountSubspaceInfo) : Bool := !info.isCreateCompleted || info.toBeRemoved

/-- Whichever removals fail, the directories are left as if just the garbage had been
attempted. -/
def AttemptsGarbage : Prop :=
  ∀ fails purge id info, isSubProfileId osAccountId id = true → (d osAccountId).dirs[id]? = some info →
    ((removeGarbageSubProfiles (failing fails) purge osAccountId d).2 osAccountId).dirs[id]? =
      if info.any isGarbage = true then afterRemoval (failing fails id) (some info) else some info

def NoneIncomplete : Prop :=
  ∀ id info, isSubProfileId osAccountId id = true → (d osAccountId).dirs[id]? = some (some info) →
    info.isCreateCompleted = false → info.toBeRemoved = true

def ReleasesGone (d' : Disk) : Prop :=
  ∀ ctx ctx', (d osAccountId).context = some ctx → (d' osAccountId).context = some ctx' →
    ∀ id ∈ ctx.subProfileIdList, id ∉ ctx'.subProfileIdList → id ∉ (d' osAccountId).dirs

def Pending (id : Int) : Prop :=
  isSubProfileId osAccountId id = true ∧ ∃ info, (d osAccountId).dirs[id]? = some (some info) ∧ info.toBeRemoved = true

/-- Once a removal succeeds and the context can be written, the removal of every
pending id of the context succeeds. -/
def AllOrNone (a : Int → DirAnswer) (purge : WriteAnswer) : Prop :=
  purge = .success → (∃ id, Pending osAccountId d id ∧ isSuccess (a id) = true) →
    ∀ ctx, (d osAccountId).context = some ctx → ∀ id, Pending osAccountId d id → ctx.subProfileIdList.count id = 1 →
      isSuccess (a id) = true

variable {osAccountId d} {fails : Int → Option (ErrCode × Bool)} {purge : WriteAnswer}

theorem attemptsGarbage_iff : AttemptsGarbage osAccountId d ↔ NoneIncomplete osAccountId d := by
  constructor
  · intro h id info hid hinfo hincomplete
    by_contra hremoved
    have hgone := h (fun _ => none) .crash id (some info) hid hinfo
    have hnot : id ∉ garbageIds d osAccountId := by
      rintro hmem
      obtain ⟨_, info', hinfo', hremoved'⟩ := mem_garbageIds.1 hmem
      rw [hinfo] at hinfo'
      cases hinfo'
      exact hremoved hremoved'
    rw [dirs_removeGarbageSubProfiles, if_neg fun he => hnot he.2, hinfo, Option.any_some,
      isGarbage, hincomplete,
      Bool.not_false, Bool.true_or, if_pos rfl] at hgone
    cases hgone
  · intro h fails purge id info hid hinfo
    rw [dirs_removeGarbageSubProfiles, hinfo]
    have hiff : id ∈ garbageIds d osAccountId ↔ info.any isGarbage = true := by
      rw [mem_garbageIds, Option.any_eq_true, hinfo]
      constructor
      · rintro ⟨_, i, hi, hremoved⟩
        exact ⟨i, Option.some_inj.1 hi, by rw [isGarbage, hremoved, Bool.or_true]⟩
      · rintro ⟨i, rfl, hgarbage⟩
        refine ⟨hid, i, rfl, ?_⟩
        cases hcompleted : i.isCreateCompleted with
        | false => exact h id i hid hinfo hcompleted
        | true => rwa [isGarbage, hcompleted, Bool.not_true, Bool.false_or] at hgarbage
    simp only [true_and, hiff]

theorem mem_garbageIds_iff_pending {id : Int} : id ∈ garbageIds d osAccountId ↔ Pending osAccountId d id :=
  mem_garbageIds

theorem releasesGone_iff :
    ReleasesGone osAccountId d (removeGarbageSubProfiles (failing fails) purge osAccountId d).2 ↔
      AllOrNone osAccountId d (failing fails) purge := by
  have hcontext : ((removeGarbageSubProfiles
      (failing fails) purge osAccountId d).2 osAccountId).context = _ :=
    context_removeGarbageSubProfiles
  have hgone : ∀ {id}, id ∈ garbageIds d osAccountId →
      (id ∉ ((removeGarbageSubProfiles (failing fails) purge osAccountId d).2 osAccountId).dirs ↔
        isSuccess (failing fails id) = true) := by
    intro id hid
    obtain ⟨_, info, hinfo, _⟩ := mem_garbageIds.1 hid
    rw [not_mem_dirs_iff, dirs_removeGarbageSubProfiles, if_pos ⟨rfl, hid⟩, hinfo,
      afterRemoval_eq_none_iff]
  constructor
  · intro h hpurge hsome ctx hctx id hpending hcount
    simp only [← mem_garbageIds_iff_pending, isSuccess_failing] at hsome
    rw [if_pos ⟨hsome, hpurge⟩, hctx, Option.map_some] at hcontext
    rw [← mem_garbageIds_iff_pending] at hpending
    have hid : id ∈ ctx.subProfileIdList := List.count_pos_iff.1 (by omega)
    refine (hgone hpending).1 (h ctx _ hctx hcontext id hid ?_)
    rw [subProfileIdList_purge_all, not_mem_diff_iff (nodup_garbageIds d osAccountId) hid]
    exact ⟨hpending, hcount⟩
  · intro h ctx ctx' hctx hctx' id hid hleft
    rw [hcontext] at hctx'
    split at hctx'
    · rename_i hpurged
      rw [hctx, Option.map_some, Option.some_inj] at hctx'
      rw [← hctx', subProfileIdList_purge_all, not_mem_diff_iff (nodup_garbageIds d osAccountId) hid] at hleft
      obtain ⟨⟨g, hg, hsuccess⟩, hpurge⟩ := hpurged
      refine (hgone hleft.1).2 (h hpurge
        ⟨g, mem_garbageIds_iff_pending.1 hg, isSuccess_failing.2 hsuccess⟩ ctx hctx id
        (mem_garbageIds_iff_pending.1 hleft.1) hleft.2)
    · rw [hctx, Option.some_inj] at hctx'
      rw [← hctx'] at hleft
      exact (hleft hid).elim

end claims

section runs

variable {max : MaxCount} {osAccountId : Int} {d d₁ d₂ : Disk}

def Listed (d : Disk) : Prop :=
  ∀ a id, isSubProfileId a id = true → id ∈ (d a).dirs → id ∈ (readSubProfileContext d a).subProfileIdList

structure Shrinks (d d' : Disk) : Prop where
  context : ∀ b, (d' b).context = (d b).context
  dirs : ∀ b id, id ∈ (d' b).dirs → id ∈ (d b).dirs

theorem Shrinks.refl (d : Disk) : Shrinks d d := ⟨fun _ => rfl, fun _ _ h => h⟩

theorem Shrinks.trans (h : Shrinks d d₁) (h' : Shrinks d₁ d₂) : Shrinks d d₂ :=
  ⟨fun b => (h'.context b).trans (h.context b), fun b id hid => h.dirs b id (h'.dirs b id hid)⟩

theorem Shrunk.shrinks {a : Int → DirAnswer} {ids : List Int} (h : Shrunk a osAccountId ids d d₁) : Shrinks d d₁ := by
  refine ⟨h.context, fun b id hid => ?_⟩
  by_contra hnot
  rw [not_mem_dirs_iff] at hnot
  refine not_mem_dirs_iff.2 ?_ hid
  rcases h.dirs b id with he | ⟨_, _, he⟩
  · rw [he, hnot]
  · rw [he, hnot]
    cases a id <;> rfl

theorem shrinks_removeSubProfileDir (a : DirAnswer) (osAccountId id : Int) (d : Disk) :
    Shrinks d (removeSubProfileDir a osAccountId id d).2 :=
  (shrunk_removeSubProfileDir (fun _ => a) osAccountId id d).shrinks

theorem shrinks_saveSubProfileInfo (a : SaveAnswer) {info : OsAccountSubspaceInfo}
    (hmem : info.subspaceId ∈ (d info.userId).dirs) : Shrinks d (saveSubProfileInfo a info d).2 := by
  have hmake : ∀ made, Shrinks d (makeDir made info d) := by
    intro made
    unfold makeDir
    rw [if_neg fun h => h.2 hmem]
    exact .refl d
  cases a with
  | success =>
      refine ⟨fun b => context_setDir d info.userId b info.subspaceId (some info), fun b id hid => ?_⟩
      dsimp only [saveSubProfileInfo] at hid
      rw [ExtTreeMap.mem_iff_isSome_getElem?, dirs_setDir] at hid
      split at hid
      · rename_i he
        rwa [he.1, he.2]
      · exact ExtTreeMap.mem_iff_isSome_getElem?.2 hid
  | failure e made => exact hmake made
  | crash made => exact hmake made

theorem readSubProfileContext_congr (h : (d₁ osAccountId).context = (d osAccountId).context) :
    readSubProfileContext d₁ osAccountId = readSubProfileContext d osAccountId := by
  unfold readSubProfileContext
  rw [h]

theorem Listed.shrinks (h : Listed d) (hs : Shrinks d d₁) : Listed d₁ := by
  intro b id hid hmem
  rw [readSubProfileContext_congr (hs.context b)]
  exact h b id hid (hs.dirs b id hmem)

variable {ctx : SubProfileContext}

theorem Listed.setContext (h : Listed d)
    (hctx : ∀ id ∈ (readSubProfileContext d osAccountId).subProfileIdList, id ∉ ctx.subProfileIdList →
      id ∉ (d osAccountId).dirs) : Listed (d.setContext osAccountId ctx) := by
  intro b id hid hmem
  rw [dirs_setContext] at hmem
  unfold readSubProfileContext
  rw [context_setContext]
  split
  · rename_i hb
    subst hb
    by_contra hnot
    exact hctx id (h b id hid hmem) hnot hmem
  · exact h b id hid hmem

theorem listed_updateOsAccountSubspaceInfo (h : Listed d) (a : WriteAnswer)
    (hctx : a = .success → ∀ id ∈ (readSubProfileContext d osAccountId).subProfileIdList, id ∉ ctx.subProfileIdList →
      id ∉ (d osAccountId).dirs) : Listed (updateOsAccountSubspaceInfo a osAccountId ctx d).2 := by
  cases a with
  | success => exact h.setContext (hctx rfl)
  | failure e => exact h
  | crash => exact h

theorem readSubProfileContext_of_some (h : (d osAccountId).context = some ctx) :
    readSubProfileContext d osAccountId = ctx := by
  unfold readSubProfileContext
  rw [h]
  rfl

theorem listed_removeGarbageSubProfiles (h : Listed d) {a : Int → DirAnswer} {purge : WriteAnswer}
    (hrelease : AllOrNone osAccountId d a purge) : Listed (removeGarbageSubProfiles a purge osAccountId d).2 := by
  have hshrunk := shrunk_removeSubProfileDirs a osAccountId (garbageIds d osAccountId) d
  unfold removeGarbageSubProfiles
  split
  · exact h
  split <;> rename_i hr <;> rw [hr] at hshrunk
  · exact h.shrinks hshrunk.shrinks
  split
  · exact h.shrinks hshrunk.shrinks
  rename_i removeNum d₁ hnum
  have hnodup := nodup_garbageIds d osAccountId
  have hmem : ∀ id ∈ garbageIds d osAccountId, id ∈ (d osAccountId).dirs :=
    fun _ => mem_dirs_of_mem_garbageIds
  obtain ⟨d', hd', hremoved⟩ :=
    removeSubProfileDirs_removes hnodup hmem (isCrash_of_removeSubProfileDirs_ok hnodup hmem hr)
  rw [hr, Prod.mk.injEq] at hd'
  obtain ⟨hcount, rfl⟩ := hd'
  have hpurge : Listed (purgeGarbageIdsFromContext purge osAccountId (garbageIds d osAccountId) d₁).2 := by
    unfold purgeGarbageIdsFromContext
    split
    · exact h.shrinks hshrunk.shrinks
    rename_i ctx hctx
    rw [ignoreError_snd]
    refine listed_updateOsAccountSubspaceInfo (h.shrinks hshrunk.shrinks) purge fun hp id hid hleft => ?_
    rw [readSubProfileContext_of_some hctx] at hid
    rw [subProfileIdList_purge_all, not_mem_diff_iff hnodup hid] at hleft
    have hsome : ∃ g, Pending osAccountId d g ∧ isSuccess (a g) = true := by
      obtain ⟨g, hg, hs⟩ := List.countP_pos_iff.1
        (show 0 < (garbageIds d osAccountId).countP fun id => isSuccess (a id) by
        cases hcount
        omega)
      exact ⟨g, mem_garbageIds_iff_pending.1 hg, hs⟩
    rw [hshrunk.context] at hctx
    have hgone := hrelease hp hsome ctx hctx id (mem_garbageIds_iff_pending.1 hleft.1) hleft.2
    obtain ⟨_, info, hinfo, _⟩ := mem_garbageIds.1 hleft.1
    rw [not_mem_dirs_iff, hremoved.dirs, if_pos ⟨rfl, hleft.1⟩, hinfo, afterRemoval_eq_none_iff]
    exact hgone
  split <;> rename_i hr' <;> rw [hr'] at hpurge <;> exact hpurge

variable {id : Int}

theorem isSubProfileId_of_range (h : base osAccountId + osAccountSubProfileIdMin ≤ id ∧
    id ≤ base osAccountId + osAccountSubProfileIdMax) : isSubProfileId osAccountId id = true := by
  unfold osAccountSubProfileIdMin at h
  unfold isSubProfileId
  rw [decide_eq_true_iff]
  omega

theorem Listed.setDir (h : Listed d) (info : Option OsAccountSubspaceInfo)
    (hid : id ∈ (readSubProfileContext d osAccountId).subProfileIdList) : Listed (d.setDir osAccountId id info) := by
  intro b t ht hmem
  rw [readSubProfileContext_congr (context_setDir d osAccountId b id info)]
  rw [ExtTreeMap.mem_iff_isSome_getElem?, dirs_setDir] at hmem
  split at hmem
  · rename_i he
    rwa [he.1, he.2]
  · exact h b t ht (ExtTreeMap.mem_iff_isSome_getElem?.2 hmem)

theorem listed_makeDir (h : Listed d) (made : Bool) {info : OsAccountSubspaceInfo}
    (hid : info.subspaceId ∈ (readSubProfileContext d info.userId).subProfileIdList) : Listed (makeDir made info d) := by
  unfold makeDir
  split
  · exact h.setDir none hid
  · exact h

theorem readSubProfileContext_setContext (ctx : SubProfileContext) :
    readSubProfileContext (d.setContext osAccountId ctx) osAccountId = ctx :=
  readSubProfileContext_of_some ((context_setContext d osAccountId osAccountId ctx).trans (if_pos rfl))

def RollbackGone (a : CreateAnswer) : Prop :=
  a.persist = .success → (∃ e, a.save = .failure e true) → (∃ e emptied, a.rollbackDir = .failure e emptied) →
    a.rollback ≠ .success

theorem listed_rollbackSubProfileCreation (h : Listed d) {a : CreateAnswer} {id index : Int}
    (hctx : readSubProfileContext d osAccountId = ctx.extend id index)
    (hgone : id ∈ (d osAccountId).dirs → (∃ e emptied, a.rollbackDir = .failure e emptied) → a.rollback ≠ .success) :
    Listed (rollbackSubProfileCreation a osAccountId id index ctx d).2 := by
  have hshrinks := shrinks_removeSubProfileDir a.rollbackDir osAccountId id d
  unfold rollbackSubProfileCreation
  cases hr : removeSubProfileDir a.rollbackDir osAccountId id d with
  | mk r d₁ =>
  rw [hr] at hshrinks
  have hkeep : ∀ ctx', (∀ v, v ∈ ctx.subProfileIdList → v ∈ ctx'.subProfileIdList) →
      (a.rollback = .success → id ∉ (d₁ osAccountId).dirs) →
      Listed (updateOsAccountSubspaceInfo a.rollback osAccountId ctx' d₁).2 := by
    intro ctx' hsub hnot
    refine listed_updateOsAccountSubspaceInfo (h.shrinks hshrinks) a.rollback fun hs v hv hleft => ?_
    rw [readSubProfileContext_congr (hshrinks.context osAccountId), hctx] at hv
    rcases List.mem_append.1 hv with hv | hv
    · exact (hleft (hsub v hv)).elim
    · rw [List.mem_singleton.1 hv]
      exact hnot hs
  have hdrop : ∀ v, v ∈ ctx.subProfileIdList → v ∈ (ctx.subProfileIdList ++ [id]).dropLast := by
    intro v hv
    rwa [List.dropLast_concat]
  by_cases hmem : id ∈ (d osAccountId).dirs
  · have hremove := removeSubProfileDir_of_mem a.rollbackDir hmem
    rw [hr] at hremove
    cases hdir : a.rollbackDir with
    | success =>
        rw [hdir] at hremove
        cases hremove
        rw [ignoreError, ignoreError_snd]
        refine hkeep _ hdrop fun _ => ?_
        rw [not_mem_dirs_iff, dirs_eraseDir, if_pos ⟨rfl, rfl⟩]
        nofun
    | failure e emptied =>
        rw [hdir] at hremove
        cases hremove
        rw [ignoreError, ignoreError_snd]
        exact hkeep _ hdrop fun hs => (hgone hmem ⟨e, emptied, hdir⟩ hs).elim
        all_goals nofun
    | crash emptied =>
        rw [hdir] at hremove
        cases hremove
        exact h.shrinks hshrinks
  · unfold removeSubProfileDir at hr
    rw [if_pos hmem] at hr
    cases hr
    rw [ignoreError, ignoreError_snd]
    exact hkeep _ hdrop fun _ => hmem
    nofun

theorem readSubProfileContext_makeDir (made : Bool) (info : OsAccountSubspaceInfo) :
    readSubProfileContext (makeDir made info d) osAccountId = readSubProfileContext d osAccountId := by
  unfold makeDir
  split
  · exact readSubProfileContext_congr (context_setDir d _ osAccountId _ none)
  · rfl

theorem listed_allocateAndPersistSubProfile (h : Listed d) {a : CreateAnswer} (hgone : RollbackGone a)
    (hid : isSubProfileId osAccountId id = true)
    (hnew : id ∉ (readSubProfileContext d osAccountId).subProfileIdList) :
    Listed (allocateAndPersistSubProfile max a osAccountId (readSubProfileContext d osAccountId) id d).2 := by
  have hnot : id ∉ (d osAccountId).dirs := fun hmem => hnew (h osAccountId id hid hmem)
  unfold allocateAndPersistSubProfile
  split
  · exact h
  rename_i index hindex
  unfold updateOsAccountSubspaceInfo
  cases hpersist : a.persist with
  | failure e => exact h
  | crash => exact h
  | success =>
  have hextend : Listed (d.setContext osAccountId ((readSubProfileContext d osAccountId).extend id index)) :=
    h.setContext fun v hv hleft => (hleft (List.mem_append_left _ hv)).elim
  have hmem : id ∈ (readSubProfileContext (d.setContext osAccountId
      ((readSubProfileContext d osAccountId).extend id index)) osAccountId).subProfileIdList := by
    rw [readSubProfileContext_setContext]
    exact List.mem_append_right _ (List.mem_singleton_self id)
  have hmade : ∀ made, Listed (makeDir made (createdInfo osAccountId id index a.createTime)
      (d.setContext osAccountId ((readSubProfileContext d osAccountId).extend id index))) :=
    fun made => listed_makeDir hextend made hmem
  unfold saveSubProfileInfo
  cases hsave : a.save with
  | success => exact hextend.setDir _ hmem
  | crash made => exact hmade made
  | failure e made =>
  have hrollback : Listed (rollbackSubProfileCreation a osAccountId id index
    (readSubProfileContext d osAccountId)
      (makeDir made (createdInfo osAccountId id index a.createTime)
        (d.setContext osAccountId ((readSubProfileContext d osAccountId).extend id index)))).2 := by
    refine listed_rollbackSubProfileCreation (hmade made) ?_ fun hdir => ?_
    · rw [readSubProfileContext_makeDir, readSubProfileContext_setContext]
    · cases made with
      | true => exact hgone hpersist ⟨e, hsave⟩
      | false =>
          simp only [makeDir, Bool.false_eq_true, false_and, if_false, dirs_setContext] at hdir
          exact (hnot hdir).elim
  dsimp only
  split <;> rename_i hr <;> rw [hr] at hrollback <;> exact hrollback

theorem contextToExtend_snd (a : CreateAnswer) : (contextToExtend max a osAccountId d).2 =
    if isAtLimit max (readSubProfileContext d osAccountId) then
      (removeGarbageSubProfiles a.removeGarbageDir a.purge osAccountId d).2
    else d := by
  unfold contextToExtend
  split
  · unfold tryReclaimSubProfileSlots
    split <;> rename_i hr <;> rw [hr]
    split
    · rfl
    · split <;> rfl
  · rfl

theorem listed_contextToExtend (h : Listed d) {a : CreateAnswer}
    (hrelease : isAtLimit max (readSubProfileContext d osAccountId) →
      AllOrNone osAccountId d a.removeGarbageDir a.purge) : Listed (contextToExtend max a osAccountId d).2 := by
  rw [contextToExtend_snd]
  split
  · rename_i hlimit
    exact listed_removeGarbageSubProfiles h (hrelease hlimit)
  · exact h

theorem listed_createSubProfile (hinv : Inv max d) (h : Listed d) {a : CreateAnswer}
    (hrelease : isAtLimit max (readSubProfileContext d osAccountId) →
      AllOrNone osAccountId d a.removeGarbageDir a.purge)
    (hgone : RollbackGone a) : Listed (createSubProfile max a osAccountId d).2 := by
  refine createSubProfile_rule hinv (listed_contextToExtend h hrelease) fun d' id hlisted hrange hnew => ?_
  exact listed_allocateAndPersistSubProfile hlisted hgone (isSubProfileId_of_range hrange) hnew

theorem listed_removeSubProfile (hinv : Inv max d) (h : Listed d) (a : RemoveAnswer) (id : Int) :
    Listed (removeSubProfile a osAccountId id d).2 := by
  obtain ⟨e, hrefused⟩ | ⟨info, -, hinfo, hu, hs, -, hfound⟩ := removeSubProfile_cases hinv a id
  · rw [hrefused]
    exact h
  rw [hfound, removeRecord]
  have hmem : id ∈ (d osAccountId).dirs := by
    rw [ExtTreeMap.mem_iff_isSome_getElem?, hinfo]
    rfl
  have hsave : Shrinks d (saveSubProfileInfo a.save { info with toBeRemoved := true } d).2 := by
    apply shrinks_saveSubProfileInfo
    dsimp only
    rwa [hu, hs]
  split <;> rename_i hr <;> rw [hr] at hsave
  · exact h.shrinks hsave
  rename_i d₁
  have hremove := hsave.trans (shrinks_removeSubProfileDir a.removeDir osAccountId id d₁)
  split <;> rename_i hr' <;> rw [hr'] at hremove
  · exact h.shrinks hremove
  rename_i d₂
  have hnot : id ∉ (d₂ osAccountId).dirs := by
    unfold removeSubProfileDir at hr'
    split at hr'
    · rename_i hnot
      cases hr'
      exact hnot
    · cases hdir : a.removeDir with
      | success =>
          rw [hdir] at hr'
          cases hr'
          rw [not_mem_dirs_iff, dirs_eraseDir, if_pos ⟨rfl, rfl⟩]
      | failure e emptied =>
          rw [hdir] at hr'
          cases hr'
      | crash emptied =>
          rw [hdir] at hr'
          cases hr'
  unfold updateContextAfterRemove
  split
  · exact h.shrinks hremove
  split
  · exact h.shrinks hremove
  rename_i ctx hctx _
  rw [ignoreError_snd]
  refine listed_updateOsAccountSubspaceInfo (h.shrinks hremove) a.update fun _ v hv hleft => ?_
  rw [readSubProfileContext_of_some hctx] at hv
  by_cases he : v = id
  · rwa [he]
  · exact (hleft ((List.mem_erase_of_ne he).2 hv)).elim

theorem shrinks_cleanupOrphanedSubProfiles (a : CleanupAnswer) (osAccountIds : List Int) (d : Disk) :
    Shrinks d (cleanupOrphanedSubProfiles a osAccountIds d).2 := by
  induction osAccountIds generalizing d with
  | nil => exact .refl d
  | cons id osAccountIds ih =>
      have horphan := (shrunk_removeSubProfileDirs (a.orphan id) id
        (scanOrphanedSubProfileIds d id []) d).shrinks
      unfold cleanupOrphanedSubProfiles
      split <;> rename_i hr <;> rw [hr] at horphan
      · exact horphan
      rename_i d₁
      have hpending := horphan.trans
        (shrunk_removeSubProfileDirs (a.pending id) id (scanPendingRemovalSubProfileIds d₁ id []) d₁).shrinks
      split <;> rename_i hr' <;> rw [hr'] at hpending
      · exact hpending
      · exact hpending.trans (ih _)

variable (max) in
def ReleasesOnlyGone (d : Disk) : Event → Prop
  | .createSubProfile a osAccountId => (isAtLimit max (readSubProfileContext d osAccountId) →
      AllOrNone osAccountId d a.removeGarbageDir a.purge) ∧ RollbackGone a
  | .removeGarbageSubProfiles a purge osAccountId => AllOrNone osAccountId d a purge
  | .removeSubProfile _ _ _ => True
  | .cleanupOrphanedSubProfiles _ _ => True

theorem listed_step (hinv : Inv max d) (h : Listed d) (e : Event) (he : ReleasesOnlyGone max d e) :
    Listed (step max d e) := by
  cases e with
  | createSubProfile a osAccountId => exact listed_createSubProfile hinv h he.1 he.2
  | removeSubProfile a osAccountId subspaceId => exact listed_removeSubProfile hinv h a subspaceId
  | removeGarbageSubProfiles a purge osAccountId => exact listed_removeGarbageSubProfiles h he
  | cleanupOrphanedSubProfiles a osAccountIds => exact h.shrinks (shrinks_cleanupOrphanedSubProfiles a osAccountIds d)

theorem listed_run (hinv : Inv max d) (h : Listed d) {es : List Event}
    (hes : Machine.Meets (step max) (ReleasesOnlyGone max) d es) :
    Inv max (Machine.run (step max) d es) ∧ Listed (Machine.run (step max) d es) := by
  have hstep : ∀ d e, (Inv max d ∧ Listed d) → ReleasesOnlyGone max d e →
      Inv max (step max d e) ∧ Listed (step max d e) :=
    fun d e h he => ⟨(keeps_step h.1 e).1, listed_step h.1 h.2 e he⟩
  exact Machine.run_invariant_of_meets hstep ⟨hinv, h⟩ hes

/-- Which directories the collection attempts, when it releases an id before its
directory, and what a creation then hands out. -/
theorem garbage_collection (max : MaxCount) :
    (∀ osAccountId d, AttemptsGarbage osAccountId d ↔ NoneIncomplete osAccountId d) ∧
    (∀ osAccountId d fails purge,
      ReleasesGone osAccountId d (removeGarbageSubProfiles (failing fails) purge osAccountId d).2 ↔
        AllOrNone osAccountId d (failing fails) purge) ∧
    (∀ d es, Inv max d → Listed d → Machine.Meets (step max) (ReleasesOnlyGone max) d es →
      ∀ a osAccountId info d', ReleasesOnlyGone max (Machine.run (step max) d es) (.createSubProfile a osAccountId) →
        createSubProfile max a osAccountId (Machine.run (step max) d es) = (.ok info, d') →
        ∃ ctx d₁, contextToExtend max a osAccountId (Machine.run (step max) d es) = (.ok ctx, d₁) ∧
          info.subspaceId ∉ (d₁ osAccountId).dirs) := by
  refine ⟨fun _ _ => attemptsGarbage_iff, fun _ _ _ _ => releasesGone_iff, ?_⟩
  intro d es hinv hlisted hes a osAccountId info d' hrelease hcreate
  obtain ⟨hinv, hlisted⟩ := listed_run hinv hlisted hes
  obtain ⟨ctx, d₁, hextend, hcreated⟩ := created_of_createSubProfile hcreate
  refine ⟨ctx, d₁, hextend, fun hmem => hcreated.id_free ?_⟩
  have hlisted₁ := listed_contextToExtend hlisted hrelease.1
  have hread := (keeps_contextToExtend osAccountId hinv a).2
  rw [hextend] at hlisted₁ hread
  rw [hread ctx rfl]
  exact hlisted₁ osAccountId info.subspaceId (isSubProfileId_of_range hcreated.id) hmem

end runs

section reuse

def two : MaxCount := ⟨2, by decide, by decide⟩

def twoPending : Disk := Function.update nothing 100
  { context := some {
      nextSubProfileId := 100002
      subProfileIdList := [100000, 100001, 100002]
      nextSubProfileIndex := 3
      subProfileIndexMap := ((∅ : ExtTreeMap Int Int compare).insert 0 100000).insert 1 100001 |>.insert 2 100002 }
    dirs := ((∅ : ExtTreeMap Int (Option OsAccountSubspaceInfo) compare).insert 100001
      (some { createdInfo 100 100001 1 0 with toBeRemoved := true })).insert 100002
      (some { createdInfo 100 100002 2 0 with toBeRemoved := true }) }

def secondFails (id : Int) : Option (ErrCode × Bool) := if id = 100002 then some (.fileWriteFailed, false) else none

def oneIncomplete : Disk := Function.update nothing 100
  { dirs := (∅ : ExtTreeMap Int (Option OsAccountSubspaceInfo) compare).insert 100001
      (some { createdInfo 100 100001 1 0 with isCreateCompleted := false }) }

def succeeding : CreateAnswer where
  removeGarbageDir := fun _ => .success
  purge := .success
  persist := .success
  save := .success
  rollbackDir := .success
  rollback := .success
  createTime := 0

/-- A directory whose creation is not complete is not attempted, and the id of a
directory that could not be removed is handed out again. -/
theorem released_with_directory :
    ¬AttemptsGarbage 100 oneIncomplete ∧
    ¬ReleasesGone 100 twoPending (removeGarbageSubProfiles (failing secondFails) .success 100 twoPending).2 ∧
    100002 ∈ ((removeGarbageSubProfiles (failing secondFails) .success 100 twoPending).2 100).dirs ∧
    (createSubProfile two succeeding 100
      (removeGarbageSubProfiles (failing secondFails) .success 100 twoPending).2).1.toOption.map
        (fun info => info.subspaceId) =
        some 100002 := by
  refine ⟨fun h => ?_, fun h => ?_, by decide +kernel, by decide +kernel⟩
  · have hremoved := attemptsGarbage_iff.1 h 100001 { createdInfo 100 100001 1 0 with isCreateCompleted := false }
      (by decide) (by decide +kernel) rfl
    cases hremoved
  · have hfirst : Pending 100 twoPending 100001 :=
      ⟨by decide, { createdInfo 100 100001 1 0 with toBeRemoved := true }, by decide +kernel, rfl⟩
    have hsecond : Pending 100 twoPending 100002 :=
      ⟨by decide, { createdInfo 100 100002 2 0 with toBeRemoved := true }, by decide +kernel, rfl⟩
    have hsuccess := releasesGone_iff.1 h rfl ⟨100001, hfirst, by decide⟩ _ rfl 100002 hsecond (by decide)
    revert hsuccess
    decide

end reuse

end OsAccount.SubProfileGarbage
