import OsAccount.PosixMap

namespace OsAccount.PosixGroups

open Decimal Std PosixMap

inductive Errno
  | eio
  | einval
  | erange
  | sys (code : Nat)
deriving DecidableEq

def uidTransformDivisor : Int := 200000

def maxUserId : Int := 10736

def groupNameDelimiter : String := "_a"

def getLocalIdFromUid (uid : Int) : Int := uid.tdiv uidTransformDivisor

def getAppIdFromUid (uid : Int) : Int := uid.tmod uidTransformDivisor

def generateGroupName (accountName : String) (appIdx : Int) : String :=
  accountName ++ groupNameDelimiter ++ toString appIdx

def splitAtLast : List Char → Option (List Char × List Char)
  | [] => none
  | c :: l =>
      match splitAtLast l with
      | some (before, after) => some (c :: before, after)
      | none => if c = '_' ∧ l.head? = some 'a' then some ([], l.tail) else none

def splitGroupName (groupName : String) : Except Errno (String × Int) :=
  match splitAtLast groupName.toList with
  | none => .error .einval
  | some (accountName, appIdxStr) =>
      match fromChars 32 appIdxStr with
      | none => .error .einval
      | some appIdx => .ok (String.ofList accountName, appIdx)

def generateUid (localId appIdx : Int) : Int := (localId * uidTransformDivisor + appIdx).bmod (2 ^ 32)

def isNameChar (c : Char) : Bool := c.isAlphanum || c = '.' || c = '_' || c = '-'

def checkAccountNameValid (accountName : String) : Bool :=
  accountName ≠ "" && accountName.toList.all isNameChar

section lookups

def readMap (file : Except ErrCode String) : Except Errno PosixDataMap :=
  match file with
  | .error _ => .error .eio
  | .ok content =>
      match fromString content with
      | .error _ => .error .eio
      | .ok posixDataMap => .ok posixDataMap

def getRealAccountName (file : Except ErrCode String) (uid : Int) : Except Errno String := do
  let posixDataMap ← readMap file
  match getAccountNameByLocalId posixDataMap (getLocalIdFromUid uid) with
  | none => pure ""
  | some accountName => pure (if checkAccountNameValid accountName then accountName else "")

def getAccountLocalId (file : Except ErrCode String) (accountName : String) : Except Errno (Option Int) :=
  if !checkAccountNameValid accountName then .ok none
  else do
    let posixDataMap ← readMap file
    pure (getLocalIdByAccountName posixDataMap accountName)

structure Group where
  name : String
  passwd : String
  gid : Int
deriving DecidableEq

def Group.getBufSize (gr : Group) : Nat := (gr.name.utf8ByteSize + 1) + (gr.passwd.utf8ByteSize + 1)

/-- The copying functions of the secure library, which get the group and the size
of the buffer. -/
def copyToOutput (copy : Group → Nat → Except Errno Unit) (gr : Group) (size : Nat) : Except Errno Group := do
  if gr.getBufSize > size then throw .erange
  copy gr size
  pure gr

def castGid (uid : Int) : Int := uid % 2 ^ 32

variable (copy : Group → Nat → Except Errno Unit)

def ohGetgrgidR (file : Except ErrCode String) (gid : Int) (size : Nat) : Except Errno (Option Group) := do
  let i32Uid := gid.bmod (2 ^ 32)
  let accountName ← getRealAccountName file i32Uid
  if accountName = "" then return none
  let gr ← copyToOutput copy ⟨generateGroupName accountName (getAppIdFromUid i32Uid), "", gid⟩ size
  pure (some gr)

def ohGetgrnamR (file : Except ErrCode String) (groupName : String) (size : Nat) : Except Errno (Option Group) := do
  let (accountName, appIdx) ← splitGroupName groupName
  match ← getAccountLocalId file accountName with
  | none => return none
  | some localId =>
      let gr ← copyToOutput copy ⟨groupName, "", castGid (generateUid localId appIdx)⟩ size
      pure (some gr)

end lookups

section names

theorem splitAtLast_eq_none {l : List Char} (h : '_' ∉ l) : splitAtLast l = none := by
  induction l with
  | nil => rfl
  | cons c l ih =>
      rw [List.mem_cons, not_or] at h
      rw [splitAtLast, ih h.2]
      exact if_neg fun hc => h.1 hc.1.symm

theorem splitAtLast_append (before : List Char) {after : List Char} (h : splitAtLast after = none) :
    splitAtLast (before ++ '_' :: 'a' :: after) = some (before, after) := by
  induction before with
  | nil => simp [splitAtLast, h]
  | cons c before ih => rw [List.cons_append, splitAtLast, ih]

theorem toList_generateGroupName (accountName : String) (appIdx : Int) :
    (generateGroupName accountName appIdx).toList = accountName.toList ++ '_' :: 'a' :: (toString appIdx).toList := by
  rw [generateGroupName, String.toList_append, String.toList_append, List.append_assoc]
  rfl

theorem splitGroupName_generateGroupName (accountName : String) {appIdx : Int} (h : Fits 32 appIdx) :
    splitGroupName (generateGroupName accountName appIdx) = .ok (accountName, appIdx) := by
  have hafter := splitAtLast_eq_none
    (notMem_toString (by decide : '_'.isDigit = false) (by decide) appIdx)
  have hread := fromChars_toString_append h (l := []) rfl
  rw [List.append_nil] at hread
  simp only [splitGroupName, toList_generateGroupName, splitAtLast_append _ hafter, hread,
    String.ofList_toList]

end names

structure ValidMap (m : PosixDataMap) : Prop where
  range : ∀ (localId : Int) (name : String), m[localId]? = some name → 0 ≤ localId ∧ localId ≤ maxUserId
  valid : ∀ (localId : Int) (name : String), m[localId]? = some name → checkAccountNameValid name
  distinct : ∀ (localId localId' : Int) (name : String), m[localId]? = some name → m[localId']? = some name →
    localId = localId'

section inverse

variable {m : PosixDataMap}

variable {name : String}

theorem ValidMap.getLocalIdByAccountName_eq_some (h : ValidMap m) {localId : Int} :
    getLocalIdByAccountName m name = some localId ↔ m[localId]? = some name := by
  have hsound {id : Int} (hid : getLocalIdByAccountName m name = some id) : m[id]? = some name := by
    rw [getLocalIdByAccountName, Option.map_eq_some_iff] at hid
    obtain ⟨each, hfind, rfl⟩ := hid
    have hmem := List.mem_of_find?_eq_some hfind
    have hname := List.find?_some hfind
    rw [decide_eq_true_iff] at hname
    exact hname ▸ ExtTreeMap.mem_toList_iff_getElem?_eq_some.1 hmem
  refine ⟨hsound, fun hid => ?_⟩
  cases hfind : getLocalIdByAccountName m name with
  | some id => rw [h.distinct id localId name (hsound hfind) hid]
  | none =>
      rw [getLocalIdByAccountName, Option.map_eq_none_iff, List.find?_eq_none] at hfind
      exact absurd (decide_eq_true rfl)
        (hfind (localId, name) (ExtTreeMap.mem_toList_iff_getElem?_eq_some.2 hid))

theorem castGid_bmod (uid : Int) : castGid (uid.bmod (2 ^ 32)) = uid % 2 ^ 32 := Int.bmod_emod

variable {localId appIdx : Int}

/-- The gids of an account and their division: the index of the app has to be
below the divisor. -/
theorem castGid_generateUid_div_iff (hid : 0 ≤ localId ∧ localId ≤ maxUserId)
    (happ : Fits 32 appIdx) :
    castGid (generateUid localId appIdx) / uidTransformDivisor = localId ↔
      0 ≤ appIdx ∧ appIdx < uidTransformDivisor := by
  rw [generateUid, castGid_bmod]
  simp only [uidTransformDivisor, maxUserId, Fits] at *
  have hmod : (localId * 200000 + appIdx) % 2 ^ 32 =
      if 0 ≤ localId * 200000 + appIdx then localId * 200000 + appIdx else localId * 200000 + appIdx + 2 ^ 32 := by
    split_ifs
    · omega
    · omega
  rw [hmod]
  split_ifs
  · omega
  · omega

theorem castGid_generateUid (hid : 0 ≤ localId ∧ localId ≤ maxUserId)
    (happ : 0 ≤ appIdx ∧ appIdx < uidTransformDivisor) :
    castGid (generateUid localId appIdx) = localId * uidTransformDivisor + appIdx := by
  rw [generateUid, castGid_bmod]
  simp only [uidTransformDivisor, maxUserId] at *
  omega

theorem uid_parts (hid : 0 ≤ localId ∧ localId ≤ maxUserId)
    (happ : 0 ≤ appIdx ∧ appIdx < uidTransformDivisor) :
    getLocalIdFromUid ((localId * uidTransformDivisor + appIdx).bmod (2 ^ 32)) = localId ∧
      getAppIdFromUid ((localId * uidTransformDivisor + appIdx).bmod (2 ^ 32)) = appIdx := by
  have hbmod : (localId * uidTransformDivisor + appIdx).bmod (2 ^ 32) =
      localId * uidTransformDivisor + appIdx := by
    simp only [uidTransformDivisor, maxUserId, Int.bmod] at *
    omega
  have hnonneg : 0 ≤ localId * uidTransformDivisor + appIdx := by
    simp only [uidTransformDivisor] at *
    omega
  rw [hbmod, getLocalIdFromUid, getAppIdFromUid, Int.tdiv_eq_ediv_of_nonneg hnonneg,
    Int.tmod_eq_emod_of_nonneg hnonneg]
  simp only [uidTransformDivisor] at *
  omega

variable {copy : Group → Nat → Except Errno Unit} {content : String}

theorem readMap_eq (hfile : fromString content = .ok m) : readMap (.ok content) = .ok m := by
  rw [readMap, hfile]

theorem copyToOutput_eq_ok {gr gr' : Group} {size : Nat} (h : copyToOutput copy gr size = .ok gr') : gr' = gr := by
  rw [copyToOutput] at h
  split_ifs at h
  · cases h
  · cases hcopy : copy gr size with
    | error e =>
        rw [hcopy] at h
        cases h
    | ok _ =>
        rw [hcopy] at h
        cases h
        rfl

theorem ohGetgrnamR_eq_some (hfile : fromString content = .ok m) (hm : ValidMap m) {groupName : String} {size : Nat}
    {gr : Group} (h : ohGetgrnamR copy (.ok content) groupName size = .ok (some gr)) :
    ∃ accountName appIdx localId, splitGroupName groupName = .ok (accountName, appIdx) ∧
      m[localId]? = some accountName ∧ gr = ⟨groupName, "", castGid (generateUid localId appIdx)⟩ ∧
      copyToOutput copy gr size = .ok gr := by
  rw [ohGetgrnamR] at h
  cases hsplit : splitGroupName groupName with
  | error e =>
      rw [hsplit] at h
      cases h
  | ok p =>
      obtain ⟨accountName, appIdx⟩ := p
      rw [hsplit] at h
      change (getAccountLocalId (.ok content) accountName >>= _) = _ at h
      rw [getAccountLocalId, readMap_eq hfile] at h
      split_ifs at h with hvalid
      · cases h
      · cases hid : getLocalIdByAccountName m accountName with
        | none =>
            change (Except.ok (getLocalIdByAccountName m accountName) >>= _) = _ at h
            rw [hid] at h
            cases h
        | some localId =>
            change (Except.ok (getLocalIdByAccountName m accountName) >>= _) = _ at h
            rw [hid] at h
            change (copyToOutput copy _ size >>= _) = _ at h
            cases hcopy : copyToOutput copy ⟨groupName, "", castGid (generateUid localId appIdx)⟩ size with
            | error e =>
                rw [hcopy] at h
                cases h
            | ok gr' =>
                rw [hcopy] at h
                cases h
                have hgr := copyToOutput_eq_ok hcopy
                refine ⟨accountName, appIdx, localId, rfl, hm.getLocalIdByAccountName_eq_some.1 hid, hgr, ?_⟩
                rw [hgr] at hcopy ⊢
                exact hcopy

theorem ValidMap.name_ne_empty (h : ValidMap m) {localId : Int} (hname : m[localId]? = some name) :
    name ≠ "" := by
  have hvalid := h.valid localId name hname
  rw [checkAccountNameValid, Bool.and_eq_true, decide_eq_true_iff] at hvalid
  exact hvalid.1

theorem ohGetgrgidR_eq (hfile : fromString content = .ok m) (hm : ValidMap m)
    (hname : m[localId]? = some name) (happ : 0 ≤ appIdx ∧ appIdx < uidTransformDivisor) (size : Nat) :
    ohGetgrgidR copy (.ok content) (localId * uidTransformDivisor + appIdx) size =
      (copyToOutput copy ⟨generateGroupName name appIdx, "", localId * uidTransformDivisor + appIdx⟩ size).map some := by
  obtain ⟨hlocal, happId⟩ := uid_parts (hm.range localId name hname) happ
  have hreal : getRealAccountName (.ok content) ((localId * uidTransformDivisor + appIdx).bmod (2 ^ 32)) =
      .ok name := by
    rw [getRealAccountName, readMap_eq hfile, hlocal]
    change (match m[localId]? with
      | none => _
      | some accountName => _) = _
    rw [hname]
    dsimp only
    rw [if_pos (hm.valid localId name hname)]
    rfl
  rw [ohGetgrgidR, hreal, happId]
  change (if name = "" then _ else _) = _
  rw [if_neg (hm.name_ne_empty hname)]
  cases copyToOutput copy ⟨generateGroupName name appIdx, "",
    localId * uidTransformDivisor + appIdx⟩ size with
  | error e => rfl
  | ok gr => rfl

end inverse

def Canonical (groupName : String) : Prop :=
  ∃ accountName appIdx, 0 ≤ appIdx ∧ appIdx < uidTransformDivisor ∧ groupName = generateGroupName accountName appIdx

/-- The gid belongs to the account that the name starts with, and leads back to
the name. -/
def LeadsBack (copy : Group → Nat → Except Errno Unit) (content : String) (m : PosixDataMap) (groupName : String)
    (gid : Int) (size : Nat) : Prop :=
  (∃ accountName appIdx, splitGroupName groupName = .ok (accountName, appIdx) ∧
    getLocalIdByAccountName m accountName = some (gid / uidTransformDivisor)) ∧
    ∃ gr, ohGetgrgidR copy (.ok content) gid size = .ok (some gr) ∧ gr.name = groupName

section results

variable {copy : Group → Nat → Except Errno Unit} {content : String} {m : PosixDataMap} {groupName : String}
  {size : Nat} {gr : Group}

theorem fits_of_lt_divisor {appIdx : Int} (h : 0 ≤ appIdx ∧ appIdx < uidTransformDivisor) :
    Fits 32 appIdx := by
  simp only [Fits, uidTransformDivisor] at *
  omega

theorem fits_of_splitGroupName {accountName : String} {appIdx : Int}
    (h : splitGroupName groupName = .ok (accountName, appIdx)) : Fits 32 appIdx := by
  rw [splitGroupName] at h
  cases hsplit : splitAtLast groupName.toList with
  | none =>
      rw [hsplit] at h
      cases h
  | some p =>
      rw [hsplit] at h
      dsimp only at h
      cases hread : fromChars 32 p.2 with
      | none =>
          rw [hread] at h
          cases h
      | some n =>
          rw [hread] at h
          cases h
          exact fits_of_fromChars hread

theorem Canonical.found (hfile : fromString content = .ok m) (hm : ValidMap m) (hg : Canonical groupName)
    (h : ohGetgrnamR copy (.ok content) groupName size = .ok (some gr)) :
    ∃ accountName appIdx localId, groupName = generateGroupName accountName appIdx ∧
      splitGroupName groupName = .ok (accountName, appIdx) ∧ m[localId]? = some accountName ∧
      (0 ≤ appIdx ∧ appIdx < uidTransformDivisor) ∧
      gr = ⟨groupName, "", localId * uidTransformDivisor + appIdx⟩ ∧ copyToOutput copy gr size = .ok gr := by
  obtain ⟨accountName, appIdx, hlo, hhi, rfl⟩ := hg
  obtain ⟨accountName', appIdx', localId, hsplit, hname, hgr, hcopy⟩ := ohGetgrnamR_eq_some hfile hm h
  have hsplit' := splitGroupName_generateGroupName accountName (fits_of_lt_divisor ⟨hlo, hhi⟩)
  rw [hsplit'] at hsplit
  cases hsplit
  refine ⟨accountName, appIdx, localId, rfl, hsplit', hname, ⟨hlo, hhi⟩, ?_, hcopy⟩
  rw [hgr, castGid_generateUid (hm.range localId accountName hname) ⟨hlo, hhi⟩]

theorem leadsBack_of_canonical (hfile : fromString content = .ok m) (hm : ValidMap m) (hg : Canonical groupName)
    (h : ohGetgrnamR copy (.ok content) groupName size = .ok (some gr)) :
    LeadsBack copy content m groupName gr.gid size := by
  obtain ⟨accountName, appIdx, localId, hname, hsplit, hid, happ, hgr, hcopy⟩ := hg.found hfile hm h
  subst hgr
  refine ⟨⟨accountName, appIdx, hsplit, ?_⟩, ⟨groupName, "", localId * uidTransformDivisor + appIdx⟩, ?_, rfl⟩
  · have hdiv : (localId * uidTransformDivisor + appIdx) / uidTransformDivisor = localId := by
      simp only [uidTransformDivisor] at *
      omega
    rw [hdiv, hm.getLocalIdByAccountName_eq_some]
    exact hid
  · rw [ohGetgrgidR_eq hfile hm hid happ, ← hname, hcopy]
    rfl

theorem canonical_of_leadsBack (hfile : fromString content = .ok m) (hm : ValidMap m)
    (h : ohGetgrnamR copy (.ok content) groupName size = .ok (some gr))
    (hback : LeadsBack copy content m groupName gr.gid size) : Canonical groupName := by
  obtain ⟨accountName, appIdx, localId, hsplit, hid, hgr, -⟩ := ohGetgrnamR_eq_some hfile hm h
  obtain ⟨⟨accountName', appIdx', hsplit', hid'⟩, gr', hget, hname⟩ := hback
  rw [hsplit] at hsplit'
  cases hsplit'
  have hrange := hm.range localId accountName hid
  have hdiv : gr.gid / uidTransformDivisor = localId :=
    hm.distinct _ _ accountName (hm.getLocalIdByAccountName_eq_some.1 hid') hid
  subst hgr
  have happ := (castGid_generateUid_div_iff hrange (fits_of_splitGroupName hsplit)).1 hdiv
  rw [castGid_generateUid hrange happ, ohGetgrgidR_eq hfile hm hid happ] at hget
  refine ⟨accountName, appIdx, happ.1, happ.2, ?_⟩
  cases hcopy : copyToOutput copy
      ⟨generateGroupName accountName appIdx, "", localId * uidTransformDivisor + appIdx⟩ size with
  | error e =>
      rw [hcopy] at hget
      cases hget
  | ok gr'' =>
      rw [hcopy] at hget
      cases hget
      rw [copyToOutput_eq_ok hcopy] at hname
      exact hname.symm

theorem eq_of_gid_eq (hfile : fromString content = .ok m) (hm : ValidMap m) {groupName' : String} {size' : Nat}
    {gr' : Group} (hg : Canonical groupName) (hg' : Canonical groupName')
    (h : ohGetgrnamR copy (.ok content) groupName size = .ok (some gr))
    (h' : ohGetgrnamR copy (.ok content) groupName' size' = .ok (some gr')) (hgid : gr.gid = gr'.gid) :
    groupName = groupName' := by
  obtain ⟨accountName, appIdx, localId, hname, -, hid, happ, hgr, -⟩ := hg.found hfile hm h
  obtain ⟨accountName', appIdx', localId', hname', -, hid', happ', hgr', -⟩ := hg'.found hfile hm h'
  subst hgr hgr'
  have hparts : localId = localId' ∧ appIdx = appIdx' := by
    simp only [uidTransformDivisor] at *
    omega
  obtain ⟨rfl, rfl⟩ := hparts
  rw [hid] at hid'
  cases hid'
  rw [hname, hname']

end results

/-- A group that is found by its name is found by its gid with the same name, and
its gid belongs to the account of the name, if and only if the name is canonical;
and different canonical names have different gids. -/
theorem group_lookups_inverse (copy : Group → Nat → Except Errno Unit) {content : String} {m : PosixDataMap}
    (hfile : fromString content = .ok m) (hm : ValidMap m) :
    (∀ (groupName : String) (size : Nat) (gr : Group),
      ohGetgrnamR copy (.ok content) groupName size = .ok (some gr) →
        (LeadsBack copy content m groupName gr.gid size ↔ Canonical groupName)) ∧
      ∀ (groupName groupName' : String) (size size' : Nat) (gr gr' : Group), Canonical groupName →
        Canonical groupName' → ohGetgrnamR copy (.ok content) groupName size = .ok (some gr) →
        ohGetgrnamR copy (.ok content) groupName' size' = .ok (some gr') → gr.gid = gr'.gid →
        groupName = groupName' :=
  ⟨fun _ _ _ h => ⟨canonical_of_leadsBack hfile hm h, fun hg => leadsBack_of_canonical hfile hm hg h⟩,
    fun _ _ _ _ _ _ hg hg' h h' => eq_of_gid_eq hfile hm hg hg' h h'⟩

section examples

def aliceMap : PosixDataMap := (∅ : PosixDataMap).insert 100 "alice"

def aliceFile : String := "100:alice\n"

theorem validMap_aliceMap : ValidMap aliceMap := by
  have hmap (localId : Int) (name : String) (h : aliceMap[localId]? = some name) : localId = 100 ∧
      name = "alice" := by
    rw [aliceMap, OrderedMap.getElem?_insert_eq, ExtTreeMap.getElem?_empty] at h
    split_ifs at h with hid
    exact ⟨hid.symm, (Option.some.inj h).symm⟩
  refine ⟨fun id name h => ?_, fun id name h => ?_, fun id id' name h h' => ?_⟩
  · exact (hmap id name h).1 ▸ by decide
  · exact (hmap id name h).2 ▸ by decide
  · rw [(hmap id name h).1, (hmap id' name h').1]

theorem group_lookups_inverse_alice :
    LeadsBack (fun _ _ => .ok ()) aliceFile aliceMap "alice_a5" 20000005 64 :=
  ((group_lookups_inverse (fun _ _ => .ok ())
    (rfl : fromString aliceFile = .ok aliceMap) validMap_aliceMap).1 "alice_a5" 64
    ⟨"alice_a5", "", 20000005⟩ (by decide +kernel)).2 ⟨"alice", 5, by decide, by decide, rfl⟩

theorem padded_name_not_inverse :
    ¬∀ (content : String) (m : PosixDataMap), fromString content = .ok m → ValidMap m →
      ∀ (groupName : String) (size : Nat) (gr : Group),
        ohGetgrnamR (fun _ _ => .ok ()) (.ok content) groupName size = .ok (some gr) →
          LeadsBack (fun _ _ => .ok ()) content m groupName gr.gid size := by
  intro hback
  obtain ⟨-, gr, hget, hname⟩ :=
    hback aliceFile aliceMap rfl validMap_aliceMap "alice_a007" 64 ⟨"alice_a007", "", 20000007⟩
      (by decide +kernel)
  have hcanonical : ohGetgrgidR (fun _ _ => .ok ()) (.ok aliceFile) 20000007 64 =
      .ok (some ⟨"alice_a7", "", 20000007⟩) := by decide +kernel
  rw [hcanonical] at hget
  cases hget
  exact absurd hname (by decide)

end examples

end OsAccount.PosixGroups
