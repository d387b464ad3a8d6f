import OsAccount.DirectoryRules

namespace OsAccount.LocalNames

open Std AccountList AccountDirectory DirectoryRules CText

def Visible (info : OsAccountInfo) : Prop := info.type ≠ .privateType ∧ info.toBeRemoved = false

def DistinctNames (i j : OsAccountInfo) : Prop :=
  i.localName ≠ j.localName ∧ (i.shortName ≠ "" → j.shortName ≠ "" → i.shortName ≠ j.shortName)

def UniqueNames (d : Directory) : Prop :=
  ∀ m ∈ d.accountIdList, ∀ n ∈ d.accountIdList, m ≠ n → ∀ i j, d.accounts[m]? = some i → d.accounts[n]? = some j →
    Visible i → Visible j → DistinctNames i j

/-- The record can be stored under its id: no other account has the names that are
left of it in the file. -/
def Fits (info : OsAccountInfo) (d : Directory) : Prop :=
  ∀ n ∈ d.accountIdList, n ≠ info.localId → ∀ j, d.accounts[n]? = some j → Visible info → Visible j →
    DistinctNames info.stored j

structure Consistent (d : Directory) : Prop extends Tidy d where
  unique : UniqueNames d

section conditions

variable (d : Directory)

/-- The record may be stored: it is hidden, or what the file has of it passes the check. -/
def admits (info : OsAccountInfo) : Bool := info.toBeRemoved || validateOsAccount d info.stored = .ok ()

def namesKept (localName shortName : String) (type : OsAccountType) : Bool :=
  type = .privateType ∨ (NoNul localName ∧ NoNul shortName)

/-- If `BindDomainAccount` renames the first account, nobody else has the new names. -/
def admitsBound (a : CreateAnswer) (isEnabled : Bool) (c : Creation) : Bool :=
  match checkDomainAccountBound d a.cleaning c.domainInfo with
  | (true, _) => true
  | (false, d) =>
      match firstAccount d isEnabled with
      | some info => admits d (bound a.localNameMaxSize c info)
      | none => namesKept c.domainInfo.accountName c.shortName c.type

/-- The operations that do not call `ValidateOsAccount` store a record that passes
it, and the others check the names that they store. -/
def validated : Event → Bool
  | .createOsAccount _ c => namesKept c.localName c.shortName c.type
  | .createOsAccountWithFullInfo _ info => isLive d info.localId || admits d info
  | .bindDomainAccount a isEnabled c => admitsBound d a isEnabled c
  | .createOsAccountForDomain a p answers isEnabled _ c =>
      match checkDomainAccountBound d answers c.domainInfo, p.getDomainAccountInfo with
      | (true, _), _ => true
      | (false, _), .error _ => true
      | (false, d), .ok domainInfo => admitsBound d a isEnabled { c with domainInfo }
  | .updateOsAccountWithFullInfo _ newInfo => d.accounts[newInfo.localId]?.all fun info =>
      admits d { info with localName := newInfo.localName, type := newInfo.type }
  | .setOsAccountName _ id name => d.accounts[id]?.all fun info => namesKept name info.shortName info.type
  | .setOsAccountToBeRemoved _ _ localId toBeRemoved => d.accounts[localId]?.all fun info =>
      admits d { info with toBeRemoved }
  | _ => true

end conditions

variable {d d' : Directory} {info : OsAccountInfo}

theorem DistinctNames.symm {i j : OsAccountInfo} (h : DistinctNames i j) : DistinctNames j i :=
  ⟨h.1.symm, fun hj hi => (h.2 hi hj).symm⟩

theorem validateAgainst_ok {infos : List OsAccountInfo} (h : validateAgainst info infos = .ok ()) :
    ∀ j ∈ infos, j.localId ≠ info.localId → Visible j → DistinctNames info j := by
  induction infos with
  | nil =>
      intro j hj
      cases hj
  | cons i infos ih =>
      rw [validateAgainst] at h
      intro j hj hne hvisible
      split at h
      · obtain rfl | hj := List.mem_cons.1 hj
        · rename_i hskip
          simp [hvisible.1, hvisible.2, hne] at hskip
        · exact ih h j hj hne hvisible
      split at h
      · cases h
      split at h
      · cases h
      obtain rfl | hj := List.mem_cons.1 hj
      · rename_i hname hshort
        exact ⟨hname, fun hi _ he => hshort ⟨hi, he⟩⟩
      · exact ih h j hj hne hvisible

theorem fits_of_validateOsAccount (hd : Consistent d) (h : validateOsAccount d info.stored = .ok ()) :
    Fits info d := by
  intro n hn hne j hj hvisible
  rw [validateOsAccount, OsAccountInfo.stored_type, if_neg hvisible.1] at h
  refine validateAgainst_ok h j ?_ ?_
  · exact List.mem_filterMap.2 ⟨n, hn, hj⟩
  · rwa [hd.keyed n j hj]

theorem validateAgainst_stored (hlocal : NoNul info.localName) (hshort : NoNul info.shortName)
    (infos : List OsAccountInfo) : validateAgainst info.stored infos = validateAgainst info infos := by
  induction infos with
  | nil => rfl
  | cons i infos ih => simp only [validateAgainst, ih, OsAccountInfo.stored_localId, OsAccountInfo.stored_localName,
      OsAccountInfo.stored_shortName, hlocal.cStr, hshort.cStr]

theorem validateOsAccount_stored (hnames : namesKept info.localName info.shortName info.type)
    (h : validateOsAccount d info = .ok ()) : validateOsAccount d info.stored = .ok () := by
  unfold validateOsAccount at h ⊢
  rcases of_decide_eq_true hnames with hprivate | ⟨hlocal, hshort⟩
  · exact if_pos hprivate
  · rw [validateAgainst_stored hlocal hshort]
    exact h

theorem fits_of_toBeRemoved (h : info.toBeRemoved = true) : Fits info d := by
  intro n _ _ j _ hvisible
  have hkept := hvisible.2
  rw [h] at hkept
  cases hkept

theorem fits_of_admits (hd : Consistent d) (h : admits d info) : Fits info d := by
  rw [admits, Bool.or_eq_true, decide_eq_true_iff] at h
  obtain h | h := h
  · exact fits_of_toBeRemoved h
  · exact fits_of_validateOsAccount hd h

theorem Fits.of_shrinks (h : Fits info d) (hs : Shrinks d d') : Fits info d' :=
  fun n hn hne j hj => h n (hs.sublist.subset hn) hne j (hs.accounts n j hj)

theorem Consistent.of_shrinks (h : Consistent d) (hs : Shrinks d d') : Consistent d' where
  toTidy := h.toTidy.of_shrinks hs
  unique m hm n hn hne i j hi hj :=
    h.unique m (hs.sublist.subset hm) n (hs.sublist.subset hn) hne i j (hs.accounts m i hi)
      (hs.accounts n j hj)

theorem Consistent.put (h : Consistent d) (hfits : Fits info d)
    (hlisted : startUserId ≤ info.localId → info.localId ∈ d.accountIdList) :
    Consistent { d with accounts := d.accounts.insert info.localId info.stored } := by
  refine ⟨h.toTidy.put hlisted, ?_⟩
  intro m hm n hn hne i j hi hj hvi hvj
  dsimp only at hm hn hi hj
  rw [OrderedMap.getElem?_insert_eq] at hi hj
  split at hi
  · rename_i hem
    cases hi
    rw [if_neg (fun hen => hne (hem.symm.trans hen))] at hj
    exact hfits n hn (fun he => hne (hem.symm.trans he.symm)) j hj hvi hvj
  · split at hj
    · rename_i hnm hen
      cases hj
      exact (hfits m hm (fun he => hnm he.symm) i hi hvj hvi).symm
    · exact h.unique m hm n hn hne i j hi hj hvi hvj

theorem Fits.put {i : OsAccountInfo} (h : Fits i d) (hid : i.localId = info.localId) :
    Fits i { d with accounts := d.accounts.insert info.localId info.stored } := by
  intro n hn hne j hj
  dsimp only at hj
  rw [OrderedMap.getElem?_insert_eq, if_neg (fun he => hne (he.symm.trans hid.symm))] at hj
  exact h n hn hne j hj

theorem Consistent.list (h : Consistent d) {id : Int} (hid : id ∉ d.accounts) (hlisted : id ∉ d.accountIdList) :
    Consistent { d with accountIdList := d.accountIdList ++ [id] } := by
  have hnone : d.accounts[id]? = none := by simpa using hid
  have hmem : ∀ {n : Int} {i : OsAccountInfo}, n ∈ d.accountIdList ++ [id] → d.accounts[n]? = some i →
      n ∈ d.accountIdList := by
    intro n i hn hi
    obtain hn | hn := List.mem_append.1 hn
    · exact hn
    · rw [List.mem_singleton.1 hn, hnone] at hi
      cases hi
  refine ⟨h.toTidy.list hlisted, ?_⟩
  intro m hm n hn hne i j hi hj
  exact h.unique m (hmem hm hi) n (hmem hn hj) hne i j hi hj

theorem Fits.list (h : Fits info d) {id : Int} (hid : id ∉ d.accounts) :
    Fits info { d with accountIdList := d.accountIdList ++ [id] } := by
  intro n hn hne j hj
  obtain hn | hn := List.mem_append.1 hn
  · exact h n hn hne j hj
  · have hnone : d.accounts[id]? = none := by simpa using hid
    rw [List.mem_singleton.1 hn, hnone] at hj
    cases hj

theorem consistent_initial (localName : String) : Consistent (initial localName) := by
  refine ⟨Tidy.initial localName, ?_⟩
  intro m hm n hn hne
  exact absurd ((List.mem_singleton.1 hm).trans (List.mem_singleton.1 hn).symm) hne

theorem consistent_rule : Rule Consistent (fun localName shortName type => namesKept localName shortName type) Fits where
  tidy h := h.toTidy
  shrinks h hs := h.of_shrinks hs
  list h hid hlisted := h.list hid hlisted
  put h hfits hlisted := h.put hfits hlisted
  validate h hnames hvalid := fits_of_validateOsAccount h (validateOsAccount_stored hnames hvalid)
  hidden h := fits_of_toBeRemoved h
  complete _ _ h := h
  fits_shrinks h hs := h.of_shrinks hs
  fits_list h hid := h.list hid
  fits_put h hid := h.put hid

theorem uncheckedBind_of_admits {a : CreateAnswer} {isEnabled : Bool} {c : Creation} (h : Consistent d)
    (hbound : admitsBound d a isEnabled c) :
    UncheckedBind d (fun localName shortName type => namesKept localName shortName type) Fits a isEnabled c := by
  have hclean := h.of_shrinks (shrinks_checkDomainAccountBound a.cleaning c.domainInfo)
  unfold admitsBound at hbound
  unfold UncheckedBind
  split <;> rename_i hr <;> rw [hr] at hclean
  · trivial
  simp only [hr] at hbound
  split <;> rename_i hinfo <;> simp only [hinfo] at hbound
  · exact fits_of_admits hclean hbound
  · exact hbound

theorem unchecked_of_validated {e : Event} (h : Consistent d) (he : validated d e) :
    Unchecked d (fun localName shortName type => namesKept localName shortName type) Fits e := by
  cases e with
  | createOsAccountWithFullInfo a osAccountInfo =>
      intro hlive
      refine fits_of_admits h ?_
      simpa [validated, hlive] using he
  | bindDomainAccount a isEnabled c => exact uncheckedBind_of_admits h he
  | createOsAccountForDomain a p answers isEnabled isSaCallback c =>
      have hclean := h.of_shrinks (shrinks_checkDomainAccountBound answers c.domainInfo)
      simp only [validated] at he
      unfold Unchecked
      dsimp only
      split
      · trivial
      · trivial
      · rename_i hr hplugin
        rw [hr] at hclean
        simp only [hr, hplugin] at he
        exact uncheckedBind_of_admits hclean he
  | updateOsAccountWithFullInfo inputFile newInfo =>
      intro info hinfo
      refine fits_of_admits h ?_
      simpa [validated, hinfo] using he
  | setOsAccountName inputFile id name =>
      intro info hinfo
      simpa [validated, hinfo] using he
  | setOsAccountToBeRemoved reset inputFile localId toBeRemoved =>
      intro info hinfo
      refine fits_of_admits h ?_
      simpa [validated, hinfo] using he
  | createOsAccount a c => exact he
  | removeOsAccount storage inputFile a id => trivial
  | cleanGarbageOsAccounts a => trivial

theorem consistent_step (maxOsAccountNum : Nat) (e : Event) (h : Consistent d) (he : validated d e) :
    Consistent (step maxOsAccountNum d e) :=
  consistent_rule.step maxOsAccountNum e h (unchecked_of_validated h he)

/-- If every record that is stored without a check would have passed it, and the
names that are checked are stored as they are, no two accounts ever share a name. -/
theorem local_names_unique (maxOsAccountNum : Nat) (localName : String) (es : List Event)
    (hes : Machine.Meets (step maxOsAccountNum) (fun d e => validated d e) (initial localName) es) :
    UniqueNames (Machine.run (step maxOsAccountNum) (initial localName) es) :=
  (Machine.run_invariant_of_meets (fun _ e h he => consistent_step maxOsAccountNum e h he)
    (consistent_initial localName) hes).unique

def renamedSecond (localName : String) : List Event :=
  [.createOsAccount everythingSucceeds (creation "alice"), .createOsAccount everythingSucceeds (creation "bob"),
    .updateOsAccountWithFullInfo (.ok ()) { localId := 102, localName, type := .normal }]

theorem local_names_unique_renaming :
    UniqueNames (Machine.run (step 1000) (initial "owner") (renamedSecond "carol")) :=
  local_names_unique 1000 "owner" (renamedSecond "carol") (by decide +kernel)

theorem updateOsAccountWithFullInfo_shares_name :
    ¬ UniqueNames (Machine.run (step 1000) (initial "owner") (renamedSecond "alice")) := by
  intro h
  have hstored : ∀ n ∈ [(101 : Int), 102],
      n ∈ (Machine.run (step 1000) (initial "owner") (renamedSecond "alice")).accountIdList ∧
      (Machine.run (step 1000) (initial "owner") (renamedSecond "alice")).accounts[n]? =
        some { localId := n, localName := "alice", type := .normal, isCreateCompleted := true } := by
    decide +kernel
  obtain ⟨hm, hi⟩ := hstored 101 (by decide)
  obtain ⟨hn, hj⟩ := hstored 102 (by decide)
  exact (h 101 hm 102 hn (by decide) _ _ hi hj ⟨nofun, rfl⟩ ⟨nofun, rfl⟩).1 rfl

end OsAccount.LocalNames
