import OsAccount.Machine
import OsAccount.AccountDirectory

namespace OsAccount.DirectoryRules

open Std AccountList AccountDirectory

structure Tidy (d : Directory) : Prop where
  keyed : ∀ (n : Int) (info : OsAccountInfo), d.accounts[n]? = some info → info.localId = n
  listed : ∀ (n : Int) (info : OsAccountInfo), d.accounts[n]? = some info → startUserId ≤ n → n ∈ d.accountIdList
  nodup : d.accountIdList.Nodup

structure Written (d : Directory) : Prop extends Tidy d where
  stored : ∀ (n : Int) (info : OsAccountInfo), d.accounts[n]? = some info → info.stored = info

section unchecked

variable (d : Directory)

def isLive (id : Int) : Bool := d.accounts[id]?.any fun info => info.isCreateCompleted && !info.toBeRemoved

def bound (localNameMaxSize : Nat) (c : Creation) (info : OsAccountInfo) : OsAccountInfo :=
  { info with
    localName := c.domainInfo.accountName
    shortName := c.shortName
    domainInfo := info.domainInfo.setDomainInfo localNameMaxSize c.domainInfo }

variable (C : String → String → OsAccountType → Prop) (F : OsAccountInfo → Directory → Prop)

def UncheckedBind (a : CreateAnswer) (isEnabled : Bool) (c : Creation) : Prop :=
  match checkDomainAccountBound d a.cleaning c.domainInfo with
  | (true, _) => True
  | (false, d) =>
      match firstAccount d isEnabled with
      | some info => F (bound a.localNameMaxSize c info) d
      | none => C c.domainInfo.accountName c.shortName c.type

/-- The records that the operations store without a check fit the directory, and of
the names that they check the check means what is stored. -/
def Unchecked : Event → Prop
  | .createOsAccount _ c => C c.localName c.shortName c.type
  | .createOsAccountWithFullInfo _ info => isLive d info.localId = false → F info d
  | .bindDomainAccount a isEnabled c => UncheckedBind d C F a isEnabled c
  | .createOsAccountForDomain a p answers isEnabled _ c =>
      match checkDomainAccountBound d answers c.domainInfo, p.getDomainAccountInfo with
      | (true, _), _ => True
      | (false, _), .error _ => True
      | (false, d), .ok domainInfo => UncheckedBind d C F a isEnabled { c with domainInfo }
  | .updateOsAccountWithFullInfo _ newInfo => ∀ info, d.accounts[newInfo.localId]? = some info →
      F { info with localName := newInfo.localName, type := newInfo.type } d
  | .setOsAccountName _ id name => ∀ info, d.accounts[id]? = some info → C name info.shortName info.type
  | .setOsAccountToBeRemoved _ _ localId toBeRemoved => ∀ info, d.accounts[localId]? = some info →
      F { info with toBeRemoved } d
  | _ => True

end unchecked

/-- What makes `I` an invariant of the operations. `F info d` says that the record
may be stored in the directory, now or when other accounts have been deleted, and
`C` says of which names that follows from their check. -/
structure Rule (I : Directory → Prop) (C : String → String → OsAccountType → Prop)
    (F : OsAccountInfo → Directory → Prop) : Prop where
  tidy : ∀ {d}, I d → Tidy d
  shrinks : ∀ {d d'}, I d → Shrinks d d' → I d'
  list : ∀ {d} {id : Int}, I d → id ∉ d.accounts → id ∉ d.accountIdList →
    I { d with accountIdList := d.accountIdList ++ [id] }
  put : ∀ {d} {info : OsAccountInfo}, I d → F info d → (startUserId ≤ info.localId → info.localId ∈ d.accountIdList) →
    I { d with accounts := d.accounts.insert info.localId info.stored }
  validate : ∀ {d} {info : OsAccountInfo}, I d → C info.localName info.shortName info.type →
    validateOsAccount d info = .ok () → F info d
  hidden : ∀ {d info}, info.toBeRemoved = true → F info d
  complete : ∀ {d info} (isCreateCompleted isDataRemovable : Bool), F info d →
    F { info with isCreateCompleted, isDataRemovable } d
  fits_shrinks : ∀ {d d' info}, F info d → Shrinks d d' → F info d'
  fits_list : ∀ {d info} {id : Int}, F info d → id ∉ d.accounts →
    F info { d with accountIdList := d.accountIdList ++ [id] }
  fits_put : ∀ {d} {info i : OsAccountInfo}, F i d → i.localId = info.localId →
    F i { d with accounts := d.accounts.insert info.localId info.stored }

theorem fillOsAccountInfo_ok {d d' : Directory} {a : CreateAnswer} {c : Creation} {info : OsAccountInfo}
    (h : fillOsAccountInfo d a c = (.ok info, d')) :
    d' = (newLocalId d a c).2 ∧ ∃ localId, info =
      { localId
        localName := c.localName
        shortName := c.shortName
        type := c.type
        domainInfo := c.domainInfo
        creatorIsNative := c.isSaCall } := by
  unfold fillOsAccountInfo at h
  split at h
  · cases h
  split at h
  · cases h
  rename_i hid
  split at h
  · cases h
  split at h
  · cases h
  · cases h
    rw [hid]
    exact ⟨rfl, _, rfl⟩

theorem firstAccount_file {d : Directory} (ht : Tidy d) {info : OsAccountInfo} {isEnabled : Bool}
    (h : firstAccount d isEnabled = some info) :
    info.localId = startUserId ∧ d.accounts[info.localId]? = some info ∧ info.toBeRemoved = false := by
  unfold firstAccount at h
  split at h
  · rename_i i hquery
    split at h
    · rename_i hfirst
      cases h
      have hmem : info ∈ queryAllCreatedOsAccounts d := hquery ▸ List.mem_cons_self
      obtain ⟨hmem, hlive⟩ := List.mem_filter.1 hmem
      obtain ⟨n, hn, hinfo⟩ := List.mem_map.1 hmem
      cases hfile : d.accounts[n]? with
      | none =>
          rw [hfile, Option.getD_none] at hinfo
          rw [← hinfo] at hlive
          cases hlive
      | some i =>
          rw [hfile, Option.getD_some] at hinfo
          subst hinfo
          refine ⟨hfirst.2.1, by rw [ht.keyed n i hfile, hfile], ?_⟩
          simpa using (Bool.and_eq_true_iff.mp hlive).2
    · cases h
  · cases h

namespace Rule

variable {I : Directory → Prop} {C : String → String → OsAccountType → Prop} {F : OsAccountInfo → Directory → Prop}
  (R : Rule I C F) {d : Directory} {info i : OsAccountInfo} {a : CreateAnswer} {c : Creation}

include R

theorem updateOsAccount (h : I d) (hfits : F info d) (inputFile : Ret) :
    I (updateOsAccount d inputFile info).2 := by
  unfold AccountDirectory.updateOsAccount
  split
  · exact h
  rename_i hmem
  split
  · exact h
  · refine R.put h hfits fun hlow => ?_
    obtain ⟨old, hold⟩ := Option.isSome_iff_exists.1 (ExtTreeMap.mem_iff_isSome_getElem?.1 (not_not.1 hmem))
    exact (R.tidy h).listed info.localId old hold hlow

theorem fits_updateOsAccount (h : F i d) (hid : i.localId = info.localId) (inputFile : Ret) :
    F i (AccountDirectory.updateOsAccount d inputFile info).2 := by
  unfold AccountDirectory.updateOsAccount
  split
  · exact h
  split
  · exact h
  · exact R.fits_put h hid

theorem insertOsAccount (h : I d) (hfits : F info d) (updateAccountList inputFile : Ret) :
    I (insertOsAccount d updateAccountList inputFile info).2 ∧
      (F i d → i.localId = info.localId → F i (insertOsAccount d updateAccountList inputFile info).2) := by
  unfold AccountDirectory.insertOsAccount
  dsimp only
  split
  · exact ⟨h, fun hi _ => hi⟩
  split
  · exact ⟨h, fun hi _ => hi⟩
  rename_i hnew
  generalize hlist : (if info.localId ≥ startUserId ∧ info.localId ∉ d.accountIdList then
    { d with accountIdList := d.accountIdList ++ [info.localId] } else d) = d₁
  have h₁ : I d₁ ∧ (∀ i, F i d → F i d₁) ∧
      (startUserId ≤ info.localId → info.localId ∈ d₁.accountIdList) := by
    subst hlist
    split
    · rename_i hlisted
      exact ⟨R.list h hnew hlisted.2, fun i hi => R.fits_list hi hnew,
        fun _ => List.mem_append_right _ List.mem_cons_self⟩
    · rename_i hlisted
      refine ⟨h, fun i hi => hi, fun hlow => ?_⟩
      by_contra hn
      exact hlisted ⟨hlow, hn⟩
  obtain ⟨hI, hF, hlisted⟩ := h₁
  split
  · exact ⟨h, fun hi _ => hi⟩
  split
  · exact ⟨hI, fun hi _ => hF i hi⟩
  · exact ⟨R.put hI (hF info hfits) hlisted, fun hi hid => R.fits_put (hF i hi) hid⟩

theorem prepareOsAccountInfo (h : I d) (hnames : C c.localName c.shortName c.type) :
    I (prepareOsAccountInfo d a c).2 ∧
      ∀ info, (prepareOsAccountInfo d a c).1 = .ok info → F info (prepareOsAccountInfo d a c).2 := by
  have hfill := R.shrinks h (shrinks_fillOsAccountInfo a c)
  unfold AccountDirectory.prepareOsAccountInfo
  split
  · rename_i hr
    rw [hr] at hfill
    exact ⟨hfill, fun _ hok => by cases hok⟩
  rename_i info d₁ hr
  rw [hr] at hfill
  split
  · exact ⟨hfill, fun _ hok => by cases hok⟩
  · exact ⟨hfill, fun _ hok => by cases hok⟩
  rename_i hvalid _
  obtain ⟨-, localId, hinfo⟩ := fillOsAccountInfo_ok hr
  have hfits : F info d₁ := R.validate hfill (by rw [hinfo]; exact hnames) hvalid
  obtain ⟨hinsert, hkeep⟩ := R.insertOsAccount (i := info) hfill hfits a.updateAccountList a.inputFile
  have hkept := hkeep hfits rfl
  split
  · rename_i hr
    rw [hr] at hinsert
    exact ⟨hinsert, fun _ hok => by cases hok⟩
  · rename_i hr
    rw [hr] at hinsert hkept
    split
    · exact ⟨hinsert, fun _ hok => by cases hok⟩
    · refine ⟨hinsert, fun info' hok => ?_⟩
      cases hok
      exact hkept

theorem sendMsgForAccountCreate (h : I d) (hfits : F info d) : I (sendMsgForAccountCreate d a info).2 := by
  unfold AccountDirectory.sendMsgForAccountCreate
  split
  · exact R.shrinks h (shrinks_rollbackOsAccount a info)
  · dsimp only
    have hupdate := R.updateOsAccount h (R.complete true info.isDataRemovable hfits) a.updateOsAccount
    split <;> rename_i hr <;> rw [hr] at hupdate
    · exact R.shrinks hupdate (shrinks_rollbackOsAccount a _)
    · exact hupdate

theorem laterCleanings (h : I d) (hfits : F info d) (a : CreateAnswer) (localId : Int) :
    I (laterCleanings d a localId) ∧ F info (laterCleanings d a localId) :=
  ⟨R.shrinks h (shrinks_laterCleanings a localId), R.fits_shrinks hfits (shrinks_laterCleanings a localId)⟩

theorem createOsAccount (h : I d) (hnames : C c.localName c.shortName c.type) (maxOsAccountNum : Nat) :
    I (createOsAccount d maxOsAccountNum a c).2 := by
  unfold AccountDirectory.createOsAccount
  split
  · exact h
  have hclean : I (if c.isSaCall then
      (true, d) else checkAndCleanOsAccounts d maxOsAccountNum a.cleaning).2 := by
    split
    · exact h
    · exact R.shrinks h (shrinks_checkAndCleanOsAccounts maxOsAccountNum a.cleaning)
  split <;> rename_i hr <;> rw [hr] at hclean
  · exact hclean
  obtain ⟨hprepare, hfits⟩ := R.prepareOsAccountInfo (a := a) (c := c) hclean hnames
  split <;> rename_i hr <;> rw [hr] at hprepare hfits
  · exact hprepare
  · obtain ⟨hlater, hfits⟩ := R.laterCleanings hprepare (hfits _ rfl) a _
    dsimp only
    split
    · exact hlater
    · exact R.sendMsgForAccountCreate hlater hfits

theorem createWithFullInfo (h : I d) (hfits : F info d) : I (createOsAccountWithFullInfo.create a info d).2 := by
  unfold createOsAccountWithFullInfo.create
  dsimp only
  split
  · exact h
  · exact h
  have hnext := shrinks_nextLocalId d (max (info.localId + 1) d.nextLocalId)
  have hstarted := R.complete false false hfits
  obtain ⟨hinsert, hkeep⟩ := R.insertOsAccount (R.shrinks h hnext) (R.fits_shrinks hstarted hnext)
    a.updateAccountList a.inputFile
  have hkept := hkeep (R.fits_shrinks hstarted hnext) rfl
  split
  · exact hinsert
  split
  · exact hinsert
  · exact hinsert
  · obtain ⟨hlater, hkept⟩ := R.laterCleanings hinsert hkept a info.localId
    split
    · exact hlater
    · exact R.sendMsgForAccountCreate hlater hkept

theorem createOsAccountWithFullInfo (h : I d) (hfits : isLive d info.localId = false → F info d) :
    I (createOsAccountWithFullInfo d a info).2 := by
  unfold AccountDirectory.createOsAccountWithFullInfo
  split
  · exact h
  split
  · rename_i old hold
    split
    · split
      · rename_i hcompleted hremoved
        have hfits := hfits (by simp [isLive, hold, hremoved])
        have hremove := shrinks_removeOsAccountOperate (d := d) a.removal info false
        split <;> rename_i hr <;> rw [hr] at hremove
        · exact R.shrinks h hremove
        · exact R.createWithFullInfo (R.shrinks h hremove) (R.fits_shrinks hfits hremove)
      · exact h
    · rename_i hcompleted
      exact R.createWithFullInfo h (hfits (by simp [isLive, hold, hcompleted]))
  · rename_i hold
    exact R.createWithFullInfo h (hfits (by simp [isLive, hold]))

theorem updateBound (h : I d) (hfits : F info d) :
    I (bindDomainAccount.update a d info).2 ∧
      ∀ i, (bindDomainAccount.update a d info).1 = .ok i → F i (bindDomainAccount.update a d info).2 := by
  have hupdate := R.updateOsAccount h hfits a.updateOsAccount
  have hkept := R.fits_updateOsAccount hfits rfl a.updateOsAccount
  unfold bindDomainAccount.update
  split <;> rename_i hr <;> rw [hr] at hupdate hkept
  · exact ⟨hupdate, fun _ hok => by cases hok⟩
  · refine ⟨hupdate, fun i hok => ?_⟩
    cases hok
    exact hkept

theorem bindDomainAccount (h : I d) {isEnabled : Bool} (hfirst : UncheckedBind d C F a isEnabled c) :
    I (bindDomainAccount d a isEnabled c).2 ∧
      ∀ info, (bindDomainAccount d a isEnabled c).1 = .ok info → F info (bindDomainAccount d a isEnabled c).2 := by
  have hclean := R.shrinks h (shrinks_checkDomainAccountBound a.cleaning c.domainInfo)
  unfold UncheckedBind at hfirst
  unfold AccountDirectory.bindDomainAccount
  split <;> rename_i hr <;> rw [hr] at hclean
  · exact ⟨hclean, fun _ hok => by cases hok⟩
  simp only [hr] at hfirst
  split <;> rename_i hinfo <;> rw [hinfo] at hfirst
  · exact R.updateBound hclean hfirst
  · obtain ⟨hprepare, hfits⟩ := R.prepareOsAccountInfo (a := a)
      (c := { c with localName := c.domainInfo.accountName }) hclean hfirst
    split <;> rename_i hr <;> rw [hr] at hprepare hfits
    · exact ⟨hprepare, fun _ hok => by cases hok⟩
    · exact R.updateBound hprepare (hfits _ rfl)

theorem unbind (h : I d) : I (completeDomainAccount.unbind a info d) := by
  unfold completeDomainAccount.unbind
  split
  · exact h
  · exact R.shrinks h (shrinks_delOsAccount a.removal.del info.localId)

theorem completeDomainAccount (h : I d) (hfits : F info d) (bound : Ret) :
    I (completeDomainAccount d a bound info).2 := by
  unfold AccountDirectory.completeDomainAccount
  split
  · exact h
  split
  · exact R.shrinks h (shrinks_delOsAccount a.removal.del info.localId)
  · exact R.unbind h
  · obtain ⟨hlater, hfits⟩ := R.laterCleanings h hfits a info.localId
    have hsend := R.sendMsgForAccountCreate (a := a) hlater hfits
    split <;> rename_i hr <;> rw [hr] at hsend
    · exact R.unbind hsend
    · exact hsend

theorem onDomainAccountInfo (h : I d) {p : PluginAnswer} {isEnabled isSaCallback : Bool}
    (hfirst : ∀ domainInfo, p.getDomainAccountInfo = .ok domainInfo →
      UncheckedBind d C F a isEnabled { c with domainInfo }) :
    I (onDomainAccountInfo d a p isEnabled isSaCallback c).2 := by
  unfold AccountDirectory.onDomainAccountInfo
  split
  · exact h
  rename_i domainInfo hplugin
  split
  · exact h
  obtain ⟨hbind, hfits⟩ := R.bindDomainAccount (c := { c with domainInfo, isSaCall := isSaCallback }) h
    (hfirst domainInfo hplugin)
  split <;> rename_i hr <;> rw [hr] at hbind hfits
  · exact hbind
  split
  · exact hbind
  · exact R.completeDomainAccount hbind (hfits _ rfl) p.bound

theorem createOsAccountForDomain (h : I d) {p : PluginAnswer} {answers : Int → RemovalAnswer}
    {isEnabled isSaCallback : Bool}
    (hfirst : Unchecked d C F (.createOsAccountForDomain a p answers isEnabled isSaCallback c))
    (maxOsAccountNum : Nat) :
    I (createOsAccountForDomain d maxOsAccountNum a p answers isEnabled isSaCallback c).2 := by
  unfold AccountDirectory.createOsAccountForDomain
  split
  · exact h
  have hclean := R.shrinks h (shrinks_checkDomainAccountBound answers c.domainInfo)
  unfold Unchecked at hfirst
  split <;> rename_i hr <;> rw [hr] at hclean
  · exact hclean
  simp only [hr] at hfirst
  split
  · exact hclean
  split
  · exact hclean
  refine R.onDomainAccountInfo hclean fun domainInfo hplugin => ?_
  simpa only [hplugin] using hfirst

theorem updateOsAccountWithFullInfo (h : I d) (inputFile : Ret)
    (hfits : ∀ old, d.accounts[info.localId]? = some old →
      F { old with localName := info.localName, type := info.type } d) :
    I (updateOsAccountWithFullInfo d inputFile info).2 := by
  unfold AccountDirectory.updateOsAccountWithFullInfo
  split
  · exact h
  · rename_i old hold
    exact R.updateOsAccount h (hfits old hold) inputFile

theorem setOsAccountName (h : I d) (inputFile : Ret) {id : Int} {name : String}
    (hnames : ∀ info, d.accounts[id]? = some info → C name info.shortName info.type) :
    I (setOsAccountName d inputFile id name).2 := by
  unfold AccountDirectory.setOsAccountName
  split
  · exact h
  rename_i osAccountInfo hfile
  split
  · exact h
  split
  · exact h
  dsimp only
  split
  · exact h
  · rename_i hvalid
    have hupdate := R.updateOsAccount h (R.validate h (hnames osAccountInfo hfile) hvalid) inputFile
    split <;> rename_i hr <;> rw [hr] at hupdate <;> exact hupdate

theorem setOsAccountToBeRemoved (h : I d) (reset inputFile : Ret) {id : Int} {toBeRemoved : Bool}
    (hfits : ∀ old, d.accounts[id]? = some old → F { old with toBeRemoved } d) :
    I (setOsAccountToBeRemoved d reset inputFile id toBeRemoved).2 := by
  unfold AccountDirectory.setOsAccountToBeRemoved
  split
  · exact h
  split
  · exact h
  · rename_i old hold _ _
    exact R.updateOsAccount h (hfits old hold) inputFile

theorem removeOsAccount (h : I d) (storage inputFile : Ret) (a : RemovalAnswer) (id : Int) :
    I (removeOsAccount d storage inputFile a id).2 := by
  unfold AccountDirectory.removeOsAccount
  split
  · exact h
  split
  · exact h
  rename_i old _ _
  have hfits : F { old with toBeRemoved := true } d := R.hidden rfl
  have hupdate := R.updateOsAccount h hfits inputFile
  dsimp only
  split <;> rename_i hr <;> rw [hr] at hupdate
  · exact hupdate
  · exact R.shrinks hupdate (shrinks_removeOsAccountOperate a _ false)

theorem step (maxOsAccountNum : Nat) (e : Event) (h : I d) (he : Unchecked d C F e) : I (step maxOsAccountNum d e) := by
  unfold AccountDirectory.step perform
  cases e with
  | createOsAccount a c => exact R.createOsAccount h he maxOsAccountNum
  | createOsAccountWithFullInfo a osAccountInfo => exact R.createOsAccountWithFullInfo h he
  | bindDomainAccount a isEnabled c =>
      obtain ⟨hbind, _⟩ := R.bindDomainAccount h he
      dsimp only
      split <;> rename_i hr <;> rw [hr] at hbind <;> exact hbind
  | createOsAccountForDomain a p bound isEnabled isSaCallback c =>
      exact R.createOsAccountForDomain h he maxOsAccountNum
  | updateOsAccountWithFullInfo inputFile newInfo => exact R.updateOsAccountWithFullInfo h inputFile he
  | setOsAccountName inputFile id name => exact R.setOsAccountName h inputFile he
  | setOsAccountToBeRemoved reset inputFile localId toBeRemoved => exact R.setOsAccountToBeRemoved h reset inputFile he
  | removeOsAccount storage inputFile a id => exact R.removeOsAccount h storage inputFile a id
  | cleanGarbageOsAccounts a => exact R.shrinks h (shrinks_cleanGarbageOsAccounts a (-1))

end Rule

theorem uncheckedBind_true (d : Directory) (a : CreateAnswer) (isEnabled : Bool) (c : Creation) :
    UncheckedBind d (fun _ _ _ => True) (fun _ _ => True) a isEnabled c := by
  unfold UncheckedBind
  split
  · trivial
  · split <;> trivial

theorem unchecked_true (d : Directory) (e : Event) : Unchecked d (fun _ _ _ => True) (fun _ _ => True) e := by
  cases e with
  | createOsAccountForDomain a p answers isEnabled isSaCallback c =>
      unfold Unchecked
      dsimp only
      split
      · trivial
      · trivial
      · exact uncheckedBind_true _ a isEnabled _
  | bindDomainAccount a isEnabled c => exact uncheckedBind_true d a isEnabled c
  | createOsAccountWithFullInfo a osAccountInfo => exact fun _ => trivial
  | updateOsAccountWithFullInfo inputFile newInfo => exact fun _ _ => trivial
  | setOsAccountToBeRemoved reset inputFile localId toBeRemoved => exact fun _ _ => trivial
  | setOsAccountName inputFile id name => exact fun _ _ => trivial
  | createOsAccount a c => trivial
  | removeOsAccount storage inputFile a id => trivial
  | cleanGarbageOsAccounts a => trivial

theorem accounts_initial {localName : String} {n : Int} {info : OsAccountInfo}
    (hn : (AccountDirectory.initial localName).accounts[n]? = some info) :
    n = startUserId ∧ info =
      { localId := startUserId
        localName := CText.cStr localName
        isCreateCompleted := true
        isDataRemovable := false } := by
  simp only [AccountDirectory.initial, OrderedMap.getElem?_insert_eq] at hn
  split at hn
  · rename_i he
    cases hn
    exact ⟨he.symm, rfl⟩
  · simp at hn

namespace Tidy

variable {d d' : Directory} {info : OsAccountInfo}

theorem of_shrinks (h : Tidy d) (hs : Shrinks d d') : Tidy d' where
  keyed n info hn := h.keyed n info (hs.accounts n info hn)
  listed n info hn hlow := hs.files n info hn (h.listed n info (hs.accounts n info hn) hlow)
  nodup := hs.sublist.nodup h.nodup

theorem list (h : Tidy d) {id : Int} (hid : id ∉ d.accountIdList) :
    Tidy { d with accountIdList := d.accountIdList ++ [id] } where
  keyed := h.keyed
  listed n info hn hlow := List.mem_append_left _ (h.listed n info hn hlow)
  nodup := by
    rw [List.nodup_append]
    refine ⟨h.nodup, List.nodup_singleton id, fun m hm n hn he => hid ?_⟩
    rwa [← List.mem_singleton.1 hn, ← he]

theorem put (h : Tidy d) (hlisted : startUserId ≤ info.localId → info.localId ∈ d.accountIdList) :
    Tidy { d with accounts := d.accounts.insert info.localId info.stored } := by
  refine ⟨?_, ?_, h.nodup⟩
  · intro n i hn
    dsimp only at hn
    rw [OrderedMap.getElem?_insert_eq] at hn
    split at hn
    · cases hn
      assumption
    · exact h.keyed n i hn
  · intro n i hn hlow
    dsimp only at hn
    rw [OrderedMap.getElem?_insert_eq] at hn
    split at hn
    · rename_i he
      subst he
      exact hlisted hlow
    · exact h.listed n i hn hlow

theorem initial (localName : String) : Tidy (initial localName) := by
  refine ⟨fun n info hn => ?_, fun n info hn _ => ?_, List.nodup_singleton _⟩
  · rw [(accounts_initial hn).1, (accounts_initial hn).2]
  · rw [(accounts_initial hn).1]
    exact List.mem_cons_self

theorem rule : Rule Tidy (fun _ _ _ => True) (fun _ _ => True) where
  tidy h := h
  shrinks := of_shrinks
  list h _ hid := h.list hid
  put h _ hlisted := h.put hlisted
  validate _ _ _ := trivial
  hidden _ := trivial
  complete _ _ _ := trivial
  fits_shrinks _ _ := trivial
  fits_list _ _ := trivial
  fits_put _ _ := trivial

theorem step (h : Tidy d) (maxOsAccountNum : Nat) (e : Event) : Tidy (step maxOsAccountNum d e) :=
  rule.step maxOsAccountNum e h (unchecked_true d e)

end Tidy

namespace Written

variable {d d' : Directory} {info : OsAccountInfo}

theorem of_shrinks (h : Written d) (hs : Shrinks d d') : Written d' :=
  ⟨h.toTidy.of_shrinks hs, fun n info hn => h.stored n info (hs.accounts n info hn)⟩

theorem put (h : Written d) (hlisted : startUserId ≤ info.localId → info.localId ∈ d.accountIdList) :
    Written { d with accounts := d.accounts.insert info.localId info.stored } := by
  refine ⟨h.toTidy.put hlisted, ?_⟩
  intro n i hn
  dsimp only at hn
  rw [OrderedMap.getElem?_insert_eq] at hn
  split at hn
  · cases hn
    exact info.stored_stored
  · exact h.stored n i hn

theorem initial (localName : String) : Written (initial localName) := by
  refine ⟨Tidy.initial localName, fun n info hn => ?_⟩
  rw [(accounts_initial hn).2]
  simp [OsAccountInfo.stored, DomainAccountInfo.stored]

theorem rule : Rule Written (fun _ _ _ => True) (fun _ _ => True) where
  tidy h := h.toTidy
  shrinks := of_shrinks
  list h _ hid := ⟨h.toTidy.list hid, h.stored⟩
  put h _ hlisted := h.put hlisted
  validate _ _ _ := trivial
  hidden _ := trivial
  complete _ _ _ := trivial
  fits_shrinks _ _ := trivial
  fits_list _ _ := trivial
  fits_put _ _ := trivial

theorem step (h : Written d) (maxOsAccountNum : Nat) (e : Event) : Written (step maxOsAccountNum d e) :=
  rule.step maxOsAccountNum e h (unchecked_true d e)

end Written

end OsAccount.DirectoryRules
