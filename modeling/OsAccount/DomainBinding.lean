import OsAccount.DirectoryRules

namespace OsAccount.DomainBinding

open Std AccountList AccountDirectory DirectoryRules

structure DomainServerConfig where
  id : String
  domain : String

def isSameAccount (domainInfoSrc domainInfoTar : DomainAccountInfo) : Bool :=
  (domainInfoSrc.accountId ≠ "" ∧ domainInfoSrc.accountId = domainInfoTar.accountId) ∨
    (domainInfoSrc.accountName ≠ "" ∧ domainInfoSrc.accountName = domainInfoTar.accountName ∧
      domainInfoSrc.domain ≠ "" ∧ domainInfoSrc.domain = domainInfoTar.domain)

variable (d : Directory)

def updateAccountInfoByDomainAccountInfo (localNameMaxSize : Nat) (inputFile : Ret) (userId : Int)
    (newDomainAccountInfo : DomainAccountInfo) : Ret × Directory :=
  match d.accounts[userId]? with
  | none => (.error .accountNotExistError, d)
  | some accountInfo =>
      let oldDomainAccountInfo := accountInfo.domainInfo.updated newDomainAccountInfo
      updateOsAccount d inputFile { accountInfo with
        domainInfo := accountInfo.domainInfo.setDomainInfo localNameMaxSize oldDomainAccountInfo }

def configured (config : DomainServerConfig) (info : DomainAccountInfo) : DomainAccountInfo :=
  { info with serverConfigId := config.id, domain := config.domain }

def withConfig (localNameMaxSize : Nat) (config : DomainServerConfig) (info : OsAccountInfo) : OsAccountInfo :=
  { info with domainInfo := info.domainInfo.setDomainInfo localNameMaxSize (configured config info.domainInfo) }

/-- The loop of `UpdateServerConfig`, which returns the last error. -/
def updateServerConfigIn (localNameMaxSize : Nat) (inputFile : Int → Ret) (configId : String)
    (config : DomainServerConfig) :
    Ret → List OsAccountInfo → Directory → Ret × Directory
  | errCode, [], d => (errCode, d)
  | errCode, info :: osAccountInfos, d =>
      if info.domainInfo.serverConfigId = configId then
        match updateOsAccount d (inputFile info.localId) (withConfig localNameMaxSize config info) with
        | (.error e, d) => updateServerConfigIn localNameMaxSize inputFile configId config (.error e) osAccountInfos d
        | (.ok (), d) => updateServerConfigIn localNameMaxSize inputFile configId config errCode osAccountInfos d
      else updateServerConfigIn localNameMaxSize inputFile configId config errCode osAccountInfos d

def updateServerConfig (localNameMaxSize : Nat) (inputFile : Int → Ret) (configId : String)
    (config : DomainServerConfig) : Ret × Directory :=
  updateServerConfigIn localNameMaxSize inputFile configId config (.ok ()) (getOsAccountList d) d

/-- The operations that set domain infos or show hidden accounts, and the removal.
The system says how long a name may be. -/
inductive Event
  | bindDomainAccount (a : CreateAnswer) (isEnabled : Bool) (c : Creation)
  | updateAccountInfoByDomainAccountInfo (localNameMaxSize : Nat) (inputFile : Ret) (userId : Int)
      (newDomainAccountInfo : DomainAccountInfo)
  | updateServerConfig (localNameMaxSize : Nat) (inputFile : Int → Ret) (configId : String)
      (config : DomainServerConfig)
  | setOsAccountToBeRemoved (reset inputFile : Ret) (localId : Int) (toBeRemoved : Bool)
  | removeOsAccount (storage inputFile : Ret) (a : RemovalAnswer) (id : Int)

def step : Event → Directory
  | .bindDomainAccount a isEnabled c => (bindDomainAccount d a isEnabled c).2
  | .updateAccountInfoByDomainAccountInfo localNameMaxSize inputFile userId newDomainAccountInfo =>
      (updateAccountInfoByDomainAccountInfo d localNameMaxSize inputFile userId newDomainAccountInfo).2
  | .updateServerConfig localNameMaxSize inputFile configId config =>
      (updateServerConfig d localNameMaxSize inputFile configId config).2
  | .setOsAccountToBeRemoved reset inputFile localId toBeRemoved =>
      (setOsAccountToBeRemoved d reset inputFile localId toBeRemoved).2
  | .removeOsAccount storage inputFile a id => (removeOsAccount d storage inputFile a id).2

def FreeFor (id : Int) (domainInfo : DomainAccountInfo) : Prop :=
  ∀ (n : Int) (info : OsAccountInfo), d.accounts[n]? = some info → n ≠ id → info.toBeRemoved = false →
    isSameAccount domainInfo info.domainInfo = false

def UniqueBinding : Prop :=
  ∀ (id : Int) (info : OsAccountInfo), d.accounts[id]? = some info → info.toBeRemoved = false →
    FreeFor d id info.domainInfo

/-- The accounts that `UpdateServerConfig` rewrites: `SetDomainInfo` takes the domain
account with the new domain. -/
def Reconfigured (localNameMaxSize : Nat) (inputFile : Int → Ret) (configId : String) (config : DomainServerConfig)
    (id : Int) (info : OsAccountInfo) : Prop :=
  id ∈ d.accountIdList ∧ info.domainInfo.serverConfigId = configId ∧ inputFile id = .ok () ∧
    (configured config info.domainInfo).Fits localNameMaxSize

/-- What the operations rely on. The check before a binding passes over the accounts
that are not listed, those that it can neither keep nor remove, and those that have
what the file will have of the domain account but not the domain account itself; the
other operations check nothing. -/
def Respects : Event → Prop
  | .bindDomainAccount _ _ c => ∀ (n : Int) (info : OsAccountInfo), d.accounts[n]? = some info →
      info.toBeRemoved = false → isSameAccount c.domainInfo.stored info.domainInfo = true →
        isSameDomainAccount c.domainInfo info.domainInfo = true ∧
          n ∈ d.accountIdList ∧ (info.isCreateCompleted = true ∨ info.isDataRemovable = true)
  | .updateAccountInfoByDomainAccountInfo localNameMaxSize inputFile userId newDomainAccountInfo => ∀ info,
      d.accounts[userId]? = some info → info.toBeRemoved = false → inputFile = .ok () →
        (info.domainInfo.updated newDomainAccountInfo).Fits localNameMaxSize →
          FreeFor d userId (info.domainInfo.updated newDomainAccountInfo).stored
  | .updateServerConfig localNameMaxSize inputFile configId config => ∀ (id : Int) (info : OsAccountInfo),
      d.accounts[id]? = some info → info.toBeRemoved = false →
        Reconfigured d localNameMaxSize inputFile configId config id info →
        info.domainInfo.accountName ≠ "" → CText.cStr config.domain ≠ "" →
          ∀ (n : Int) (other : OsAccountInfo), d.accounts[n]? = some other → n ≠ id → other.toBeRemoved = false →
            other.domainInfo.accountName = info.domainInfo.accountName →
              ¬Reconfigured d localNameMaxSize inputFile configId config n other ∧
                other.domainInfo.domain ≠ CText.cStr config.domain
  | .setOsAccountToBeRemoved _ inputFile localId toBeRemoved => ∀ info, d.accounts[localId]? = some info →
      toBeRemoved = false → inputFile = .ok () → FreeFor d localId info.domainInfo
  | .removeOsAccount .. => True

section decidable

variable {d}

instance instDecidableForallAccounts (P : Int → OsAccountInfo → Prop) [∀ n info, Decidable (P n info)] :
    Decidable (∀ (n : Int) (info : OsAccountInfo), d.accounts[n]? = some info → P n info) :=
  decidable_of_iff (∀ p ∈ d.accounts.toList, P p.1 p.2) <| by
    constructor
    · exact fun h n info hn => h (n, info) (ExtTreeMap.mem_toList_iff_getElem?_eq_some.mpr hn)
    · exact fun h p hp => h p.1 p.2 (ExtTreeMap.mem_toList_iff_getElem?_eq_some.mp hp)

instance instDecidableForallFile (id : Int) (P : OsAccountInfo → Prop) [∀ info, Decidable (P info)] :
    Decidable (∀ info, d.accounts[id]? = some info → P info) :=
  decidable_of_iff (∀ info ∈ d.accounts[id]?.toList, P info) <| by
    simp only [Option.mem_toList]

instance (id : Int) (domainInfo : DomainAccountInfo) : Decidable (FreeFor d id domainInfo) :=
  inferInstanceAs (Decidable (∀ _ _, _ → _))

instance (localNameMaxSize : Nat) (inputFile : Int → Ret) (configId : String) (config : DomainServerConfig) (id : Int)
    (info : OsAccountInfo) : Decidable (Reconfigured d localNameMaxSize inputFile configId config id info) :=
  inferInstanceAs (Decidable (_ ∧ _))

instance instDecidableRespects : (e : Event) → Decidable (Respects d e)
  | .bindDomainAccount .. => inferInstanceAs (Decidable (∀ _ _, _ → _))
  | .updateAccountInfoByDomainAccountInfo .. => inferInstanceAs (Decidable (∀ _, _ → _))
  | .updateServerConfig .. => inferInstanceAs (Decidable (∀ _ _, _ → _))
  | .setOsAccountToBeRemoved .. => inferInstanceAs (Decidable (∀ _, _ → _))
  | .removeOsAccount .. => inferInstanceAs (Decidable True)

end decidable

section sameness

variable {x y : DomainAccountInfo}

theorem isSameAccount_comm (x y : DomainAccountInfo) : isSameAccount x y = isSameAccount y x := by
  unfold isSameAccount
  rw [decide_eq_decide]
  constructor <;> rintro (⟨hid, he⟩ | ⟨hname, he, hdomain, he'⟩)
  · exact .inl ⟨he ▸ hid, he.symm⟩
  · exact .inr ⟨he ▸ hname, he.symm, he' ▸ hdomain, he'.symm⟩
  · exact .inl ⟨he ▸ hid, he.symm⟩
  · exact .inr ⟨he ▸ hname, he.symm, he' ▸ hdomain, he'.symm⟩

end sameness

variable {d} {d₁ : Directory} {info : OsAccountInfo}

theorem FreeFor.of_shrinks {id : Int} {domainInfo : DomainAccountInfo} (h : FreeFor d id domainInfo)
    (hs : Shrinks d d₁) : FreeFor d₁ id domainInfo :=
  fun n info hn => h n info (hs.accounts n info hn)

theorem FreeFor.put {id : Int} {domainInfo : DomainAccountInfo} (h : FreeFor d id domainInfo)
    (hid : info.localId = id) :
    FreeFor { d with accounts := d.accounts.insert info.localId info.stored } id domainInfo := by
  intro n other hn hne
  dsimp only at hn
  rw [OrderedMap.getElem?_insert_eq] at hn
  split at hn
  · rename_i he
    exact (hne (he.symm.trans hid)).elim
  · exact h n other hn hne

theorem UniqueBinding.of_shrinks (h : UniqueBinding d) (hs : Shrinks d d₁) : UniqueBinding d₁ :=
  fun id info hid hshown => (h id info (hs.accounts id info hid) hshown).of_shrinks hs

theorem UniqueBinding.put (h : UniqueBinding d)
    (hfree : info.toBeRemoved = false → FreeFor d info.localId info.domainInfo.stored) :
    UniqueBinding { d with accounts := d.accounts.insert info.localId info.stored } := by
  intro id i hi hshown n j hj hne hother
  dsimp only at hi hj
  rw [OrderedMap.getElem?_insert_eq] at hi hj
  split at hi <;> split at hj
  · rename_i hid hn
    exact (hne (hn.symm.trans hid)).elim
  · rename_i hid hn
    cases hi
    exact hfree hshown n j hj (fun he => hn he.symm) hother
  · rename_i hid hn
    cases hj
    rw [isSameAccount_comm]
    exact hfree hother id i hi (fun he => hid he.symm) hshown
  · exact h id i hi hshown n j hj hne hother

theorem UniqueBinding.updateOsAccount (h : UniqueBinding d) {inputFile : Ret}
    (hfree : inputFile = .ok () → info.toBeRemoved = false → FreeFor d info.localId info.domainInfo.stored) :
    UniqueBinding (updateOsAccount d inputFile info).2 := by
  unfold AccountDirectory.updateOsAccount
  split
  · exact h
  split
  · exact h
  · exact h.put (hfree rfl)

/-- If `SetDomainInfo` refuses the domain account, the account keeps the one that no
other account has. -/
theorem freeFor_setDomainInfo (h : UniqueBinding d) (hwritten : Written d) {localNameMaxSize : Nat}
    {new : DomainAccountInfo} (hfile : d.accounts[info.localId]? = some info) (hshown : info.toBeRemoved = false)
    (hfree : new.Fits localNameMaxSize → FreeFor d info.localId new.stored) :
    FreeFor d info.localId (info.domainInfo.setDomainInfo localNameMaxSize new).stored := by
  unfold DomainAccountInfo.setDomainInfo
  split
  · rename_i hfits
    exact hfree hfits
  · have hstored := congrArg OsAccountInfo.domainInfo (hwritten.stored _ info hfile)
    rw [show info.domainInfo.stored = info.domainInfo from hstored]
    exact h _ info hfile hshown

section binding

variable {a : CreateAnswer} {c : Creation}

theorem absent_of_delOsAccount {answer : DelAnswer} {id : Int} (h : delOsAccount d answer id = (.ok (), d₁)) :
    d₁.accounts[id]? = none := by
  unfold delOsAccount at h
  split at h
  · cases h
  split at h
  · cases h
  dsimp only at h
  split at h
  · cases h
  · cases h
    dsimp only
    rw [OrderedMap.getElem?_erase_eq, if_pos rfl]

theorem absent_of_staysBound {answer : RemovalAnswer} (h : staysBound d answer info = (false, d₁))
    (hkept : info.toBeRemoved = false) (hgone : info.isCreateCompleted = true ∨ info.isDataRemovable = true) :
    d₁.accounts[info.localId]? = none := by
  unfold staysBound at h
  split at h
  · cases h
  rename_i hcompleted
  have hremovable : info.isDataRemovable = true := by
    refine hgone.resolve_left fun hc => hcompleted ?_
    rw [hc, hkept]
    rfl
  unfold removeOsAccountOperate at h
  rw [hremovable, Bool.not_true, Bool.and_false, if_neg Bool.false_ne_true] at h
  cases hbefore : answer.before with
  | error e =>
      rw [hbefore] at h
      cases h
  | ok u =>
      rw [hbefore] at h
      dsimp only at h
      cases hdel : delOsAccount d answer.del info.localId with
      | mk result d₂ =>
          rw [hdel] at h
          cases result with
          | error e => cases h
          | ok u =>
              dsimp only at h
              cases hafter : answer.after with
              | error e =>
                  rw [hafter] at h
                  cases h
              | ok u =>
                  rw [hafter] at h
                  cases h
                  exact absent_of_delOsAccount hdel

theorem shrinks_staysBound (answer : RemovalAnswer) (info : OsAccountInfo) :
    Shrinks d (staysBound d answer info).2 := by
  have hremove := shrinks_removeOsAccountOperate (d := d) answer info true
  unfold staysBound
  split
  · exact Shrinks.refl d
  · split <;> rename_i hr <;> rwa [hr] at hremove

theorem shrinks_anyStaysBound (answers : Int → RemovalAnswer) (osAccountInfos : List OsAccountInfo) :
    Shrinks d (anyStaysBound answers osAccountInfos d).2 := by
  induction osAccountInfos generalizing d with
  | nil => exact Shrinks.refl d
  | cons i osAccountInfos ih => exact (shrinks_staysBound (answers i.localId) i).trans ih

theorem absent_of_anyStaysBound {answers : Int → RemovalAnswer} {osAccountInfos : List OsAccountInfo}
    (h : (anyStaysBound answers osAccountInfos d).1 = false) (hinfo : info ∈ osAccountInfos)
    (hkept : info.toBeRemoved = false) (hgone : info.isCreateCompleted = true ∨ info.isDataRemovable = true) :
    (anyStaysBound answers osAccountInfos d).2.accounts[info.localId]? = none := by
  induction osAccountInfos generalizing d with
  | nil => cases hinfo
  | cons i osAccountInfos ih =>
      unfold anyStaysBound at h ⊢
      cases hstays : staysBound d (answers i.localId) i with
      | mk bound d₂ =>
          rw [hstays] at h
          dsimp only at h ⊢
          rw [Bool.or_eq_false_iff] at h
          obtain ⟨rfl, hrest⟩ := h
          rcases List.mem_cons.1 hinfo with rfl | hinfo
          · have hgone := absent_of_staysBound hstays hkept hgone
            by_contra hne
            obtain ⟨j, hj⟩ := Option.ne_none_iff_exists'.1 hne
            have hj' := (shrinks_anyStaysBound answers osAccountInfos).accounts _ j hj
            rw [hgone] at hj'
            cases hj'
          · exact ih hrest hinfo

theorem freeFor_of_checkDomainAccountBound (hwritten : Written d) {isEnabled : Bool}
    (hpre : Respects d (.bindDomainAccount a isEnabled c))
    (hbound : checkDomainAccountBound d a.cleaning c.domainInfo = (false, d₁)) (id : Int) :
    FreeFor d₁ id c.domainInfo.stored := by
  have hs := shrinks_checkDomainAccountBound (d := d) a.cleaning c.domainInfo
  rw [hbound] at hs
  intro n info hn _ hkept
  by_contra hsame
  rw [Bool.not_eq_false] at hsame
  have hold := hs.accounts n info hn
  obtain ⟨hfound, hlisted, hgone⟩ := hpre n info hold hkept hsame
  have hinfo : info ∈ getOsAccountsByDomainInfo d c.domainInfo := by
    refine List.mem_filter.2 ⟨List.mem_map.2 ⟨n, hlisted, ?_⟩, hfound⟩
    rw [hold]
    rfl
  unfold checkDomainAccountBound at hbound
  have habsent := absent_of_anyStaysBound (congrArg Prod.fst hbound) hinfo hkept hgone
  rw [hbound, hwritten.keyed n info hold] at habsent
  dsimp only at habsent
  rw [hn] at habsent
  cases habsent

theorem accounts_insertOsAccount (d : Directory) (updateAccountList inputFile : Ret) (info : OsAccountInfo) :
    (insertOsAccount d updateAccountList inputFile info).2.accounts = d.accounts ∨
      (insertOsAccount d updateAccountList inputFile info).2.accounts =
        d.accounts.insert info.localId info.stored := by
  unfold insertOsAccount
  dsimp only
  split
  · exact .inl rfl
  split
  · exact .inl rfl
  split
  · exact .inl rfl
  split
  · split <;> exact .inl rfl
  · split <;> exact .inr rfl

theorem UniqueBinding.prepareOsAccountInfo (h : UniqueBinding d) (hfree : ∀ id, FreeFor d id c.domainInfo.stored) :
    UniqueBinding (prepareOsAccountInfo d a c).2 ∧ ∀ info, (prepareOsAccountInfo d a c).1 = .ok info →
      FreeFor (prepareOsAccountInfo d a c).2 info.localId info.domainInfo.stored := by
  have hs := shrinks_fillOsAccountInfo (d := d) a c
  unfold AccountDirectory.prepareOsAccountInfo
  cases hfill : fillOsAccountInfo d a c with
  | mk result d₁ =>
  rw [hfill] at hs
  have h₁ := h.of_shrinks hs
  cases result with
  | error e => exact ⟨h₁, fun _ hok => by cases hok⟩
  | ok info =>
  obtain ⟨-, localId, hinfo⟩ := fillOsAccountInfo_ok hfill
  have hfree₁ : FreeFor d₁ info.localId info.domainInfo.stored := by
    rw [show info.domainInfo = c.domainInfo by rw [hinfo]]
    exact (hfree info.localId).of_shrinks hs
  have hinsert : UniqueBinding (insertOsAccount d₁ a.updateAccountList a.inputFile info).2 ∧
      FreeFor (insertOsAccount d₁ a.updateAccountList a.inputFile info).2 info.localId info.domainInfo.stored := by
    unfold UniqueBinding FreeFor
    rcases accounts_insertOsAccount d₁ a.updateAccountList a.inputFile info with heq | heq <;> rw [heq]
    · exact ⟨h₁, hfree₁⟩
    · exact ⟨h₁.put fun _ => hfree₁, hfree₁.put rfl⟩
  dsimp only
  split
  · exact ⟨h₁, fun _ hok => by cases hok⟩
  · exact ⟨h₁, fun _ hok => by cases hok⟩
  split <;> rename_i hr <;> rw [hr] at hinsert
  · exact ⟨hinsert.1, fun _ hok => by cases hok⟩
  split
  · exact ⟨hinsert.1, fun _ hok => by cases hok⟩
  · refine ⟨hinsert.1, fun i hok => ?_⟩
    cases hok
    exact hinsert.2

theorem UniqueBinding.updateBound (h : UniqueBinding d) (hfree : FreeFor d info.localId info.domainInfo.stored) :
    UniqueBinding (bindDomainAccount.update a d info).2 := by
  have hupdate : UniqueBinding (AccountDirectory.updateOsAccount d a.updateOsAccount info).2 :=
    h.updateOsAccount fun _ _ => hfree
  unfold bindDomainAccount.update
  split <;> rename_i hr <;> rw [hr] at hupdate <;> exact hupdate

theorem UniqueBinding.bindDomainAccount (hwritten : Written d) (h : UniqueBinding d) {isEnabled : Bool}
    (hpre : Respects d (.bindDomainAccount a isEnabled c)) : UniqueBinding (bindDomainAccount d a isEnabled c).2 := by
  have hs := shrinks_checkDomainAccountBound (d := d) a.cleaning c.domainInfo
  unfold AccountDirectory.bindDomainAccount
  cases hbound : checkDomainAccountBound d a.cleaning c.domainInfo with
  | mk bound d₁ =>
  rw [hbound] at hs
  have h₁ := h.of_shrinks hs
  cases bound with
  | true => exact h₁
  | false =>
  have hfree := freeFor_of_checkDomainAccountBound hwritten hpre hbound
  have hwritten₁ := hwritten.of_shrinks hs
  dsimp only
  split
  · rename_i info hinfo
    obtain ⟨-, hfile, hshown⟩ := firstAccount_file hwritten₁.toTidy hinfo
    have hkept : FreeFor d₁ info.localId (info.domainInfo.setDomainInfo a.localNameMaxSize c.domainInfo).stored :=
      freeFor_setDomainInfo h₁ hwritten₁ hfile hshown fun _ => hfree info.localId
    exact h₁.updateBound hkept
  · obtain ⟨hprepare, hfree₂⟩ := h₁.prepareOsAccountInfo (a := a)
      (c := { c with localName := c.domainInfo.accountName }) hfree
    split <;> rename_i hr <;> rw [hr] at hprepare hfree₂
    · exact hprepare
    · exact hprepare.updateBound (hfree₂ _ rfl)

end binding

section config

variable {localNameMaxSize : Nat} {inputFile : Int → Ret} {configId : String} {config : DomainServerConfig}

theorem accounts_updateOsAccount (d : Directory) (answer : Ret) {info old : OsAccountInfo}
    (hold : d.accounts[info.localId]? = some old) (n : Int) :
    (updateOsAccount d answer info).2.accounts[n]? =
      if n = info.localId ∧ answer = .ok () then some info.stored else d.accounts[n]? := by
  have hmem : info.localId ∈ d.accounts := by
    rw [ExtTreeMap.mem_iff_isSome_getElem?, hold]
    rfl
  unfold updateOsAccount
  rw [if_neg (not_not.2 hmem)]
  cases answer with
  | error e => simp
  | ok u => simp [OrderedMap.getElem?_insert_eq, eq_comm]

def reconfigured (localNameMaxSize : Nat) (inputFile : Int → Ret) (configId : String) (config : DomainServerConfig)
    (info : OsAccountInfo) : OsAccountInfo :=
  if info.domainInfo.serverConfigId = configId ∧ inputFile info.localId = .ok () then
    (withConfig localNameMaxSize config info).stored
  else info

theorem accounts_updateServerConfigIn {osAccountInfos : List OsAccountInfo} (errCode : Ret)
    (hstored : ∀ info ∈ osAccountInfos, d.accounts[info.localId]? = some info)
    (hnodup : (osAccountInfos.map (·.localId)).Nodup) (n : Int) :
    (updateServerConfigIn localNameMaxSize inputFile configId config errCode osAccountInfos d).2.accounts[n]? =
      if n ∈ osAccountInfos.map (·.localId) then
        (d.accounts[n]?).map (reconfigured localNameMaxSize inputFile configId config)
      else d.accounts[n]? := by
  induction osAccountInfos generalizing d errCode with
  | nil => rfl
  | cons i osAccountInfos ih =>
      rw [List.map_cons, List.nodup_cons] at hnodup
      have hi := hstored i List.mem_cons_self
      have hrest : ∀ errCode, ∀ d₁ : Directory,
          (∀ n, d₁.accounts[n]? = if n = i.localId then some (reconfigured localNameMaxSize inputFile configId config i)
            else d.accounts[n]?) →
          (updateServerConfigIn localNameMaxSize inputFile configId config errCode osAccountInfos d₁).2.accounts[n]? =
            if n ∈ (i :: osAccountInfos).map (·.localId) then
              (d.accounts[n]?).map (reconfigured localNameMaxSize inputFile configId config)
            else d.accounts[n]? := by
        intro errCode d₁ hd₁
        rw [ih errCode ?_ hnodup.2, hd₁]
        · by_cases hn : n = i.localId
          · rw [if_neg (hn ▸ hnodup.1), if_pos hn, if_pos (by rw [hn]; exact List.mem_cons_self), hn, hi]
            rfl
          · simp [hn]
        · intro info hinfo
          rw [hd₁, if_neg, hstored info (List.mem_cons_of_mem i hinfo)]
          exact fun he => hnodup.1 (he ▸ List.mem_map_of_mem hinfo)
      unfold updateServerConfigIn
      split
      · rename_i hconfig
        have hd₁ : ∀ n, (updateOsAccount d (inputFile i.localId) (withConfig localNameMaxSize config i)).2.accounts[n]? =
            if n = i.localId then some (reconfigured localNameMaxSize inputFile configId config i)
              else d.accounts[n]? := by
          intro n
          have hold : d.accounts[(withConfig localNameMaxSize config i).localId]? = some i := hi
          have hlocalId : (withConfig localNameMaxSize config i).localId = i.localId := rfl
          rw [accounts_updateOsAccount d (inputFile i.localId) hold n, hlocalId, reconfigured]
          by_cases hn : n = i.localId
          · by_cases hwrite : inputFile i.localId = .ok ()
            · rw [if_pos ⟨hn, hwrite⟩, if_pos hn, if_pos ⟨hconfig, hwrite⟩]
            · rw [if_neg fun h => hwrite h.2, if_pos hn, if_neg fun h => hwrite h.2, hn, hi]
          · rw [if_neg fun h => hn h.1, if_neg hn]
        split <;> rename_i hr <;> rw [hr] at hd₁ <;> exact hrest _ _ hd₁
      · rename_i hconfig
        refine hrest errCode d fun n => ?_
        split
        · rename_i hn
          rw [hn, hi, reconfigured, if_neg fun h => hconfig h.1]
        · rfl

theorem accounts_updateServerConfig (h : Written d) (n : Int) :
    (updateServerConfig d localNameMaxSize inputFile configId config).2.accounts[n]? =
      if n ∈ d.accountIdList then (d.accounts[n]?).map (reconfigured localNameMaxSize inputFile configId config)
      else d.accounts[n]? := by
  have hmem : ∀ {info}, info ∈ getOsAccountList d ↔ ∃ n ∈ d.accountIdList, d.accounts[n]? = some info :=
    List.mem_filterMap
  have hids : (getOsAccountList d).map (·.localId) =
      d.accountIdList.filter (fun id => (d.accounts[id]?).isSome) := by
    unfold getOsAccountList
    generalize d.accountIdList = ids
    induction ids with
    | nil => rfl
    | cons id ids ih =>
        cases hid : d.accounts[id]? with
        | none => rw [List.filterMap_cons_none hid, ih, List.filter_cons_of_neg (by simp [hid])]
        | some info =>
            rw [List.filterMap_cons_some hid, List.map_cons, ih, h.keyed id info hid,
              List.filter_cons_of_pos (by simp [hid])]
  unfold updateServerConfig
  rw [accounts_updateServerConfigIn (.ok ()) ?_ ?_]
  · simp only [hids, List.mem_filter]
    cases hn : d.accounts[n]? with
    | none => simp
    | some info => simp
  · intro info hinfo
    obtain ⟨n, _, hn⟩ := hmem.1 hinfo
    rwa [h.keyed n info hn]
  · rw [hids]
    exact h.nodup.filter _

def newDomainInfo (config : DomainServerConfig) (info : OsAccountInfo) : OsAccountInfo :=
  { info with domainInfo := (configured config info.domainInfo).stored }

def ComesFrom (d : Directory) (localNameMaxSize : Nat) (inputFile : Int → Ret) (configId : String)
    (config : DomainServerConfig) (n : Int) (i j : OsAccountInfo) : Prop :=
  (Reconfigured d localNameMaxSize inputFile configId config n i ∧ j = newDomainInfo config i) ∨
    (¬Reconfigured d localNameMaxSize inputFile configId config n i ∧ j = i)

theorem stored_withConfig {i : OsAccountInfo} (hstored : i.stored = i) :
    (withConfig localNameMaxSize config i).stored =
      if (configured config i.domainInfo).Fits localNameMaxSize then newDomainInfo config i else i := by
  have hlocal : CText.cStr i.localName = i.localName := congrArg OsAccountInfo.localName hstored
  have hshort : CText.cStr i.shortName = i.shortName := congrArg OsAccountInfo.shortName hstored
  have hdomain : i.domainInfo.stored = i.domainInfo := congrArg OsAccountInfo.domainInfo hstored
  unfold withConfig DomainAccountInfo.setDomainInfo
  split <;> simp only [OsAccountInfo.stored, newDomainInfo, hlocal, hshort, hdomain]

theorem comesFrom_of_updateServerConfig (hwritten : Written d) {n : Int} {j : OsAccountInfo}
    (hj : (updateServerConfig d localNameMaxSize inputFile configId config).2.accounts[n]? = some j) :
    ∃ i, d.accounts[n]? = some i ∧ j.toBeRemoved = i.toBeRemoved ∧
      ComesFrom d localNameMaxSize inputFile configId config n i j := by
  rw [accounts_updateServerConfig hwritten] at hj
  split at hj
  · rename_i hlisted
    rw [Option.map_eq_some_iff] at hj
    obtain ⟨i, hi, rfl⟩ := hj
    have hid := hwritten.keyed n i hi
    unfold reconfigured
    split
    · rename_i hconfig
      rw [stored_withConfig (hwritten.stored n i hi)]
      split
      · rename_i hfits
        exact ⟨i, hi, rfl, .inl ⟨⟨hlisted, hconfig.1, hid ▸ hconfig.2, hfits⟩, rfl⟩⟩
      · rename_i hfits
        exact ⟨i, hi, rfl, .inr ⟨fun h => hfits h.2.2.2, rfl⟩⟩
    · rename_i hconfig
      exact ⟨i, hi, rfl, .inr ⟨fun h => hconfig ⟨h.2.1, hid ▸ h.2.2.1⟩, rfl⟩⟩
  · rename_i hlisted
    exact ⟨j, hj, rfl, .inr ⟨fun h => hlisted h.1, rfl⟩⟩

theorem isSameAccount_newDomainInfo {i : OsAccountInfo} (hstored : i.stored = i) {x y : DomainAccountInfo}
    (h : isSameAccount (newDomainInfo config i).domainInfo x = true) (hold : isSameAccount i.domainInfo y = false)
    (hid : x.accountId = y.accountId) :
    i.domainInfo.accountName ≠ "" ∧ x.accountName = i.domainInfo.accountName ∧ CText.cStr config.domain ≠ "" ∧
      x.domain = CText.cStr config.domain := by
  have hdomain : i.domainInfo.stored = i.domainInfo := congrArg OsAccountInfo.domainInfo hstored
  have hid' : CText.cStr i.domainInfo.accountId = i.domainInfo.accountId :=
    congrArg DomainAccountInfo.accountId hdomain
  have hname' : CText.cStr i.domainInfo.accountName = i.domainInfo.accountName :=
    congrArg DomainAccountInfo.accountName hdomain
  unfold isSameAccount newDomainInfo configured DomainAccountInfo.stored at h
  dsimp only at h
  rw [hid', hname'] at h
  unfold isSameAccount at hold
  rcases of_decide_eq_true h with ⟨hgiven, he⟩ | ⟨hname, he, hdomain, he'⟩
  · exact (of_decide_eq_false hold (.inl ⟨hgiven, he.trans hid⟩)).elim
  · exact ⟨hname, he.symm, hdomain, he'.symm⟩

theorem not_isSameAccount_of_reconfigured (hwritten : Written d) (h : UniqueBinding d)
    (hpre : Respects d (.updateServerConfig localNameMaxSize inputFile configId config)) {id n : Int}
    {info i j : OsAccountInfo} (hinfo : d.accounts[id]? = some info) (hshown : info.toBeRemoved = false)
    (hconfig : Reconfigured d localNameMaxSize inputFile configId config id info) (hi : d.accounts[n]? = some i)
    (hne : n ≠ id) (hother : i.toBeRemoved = false)
    (hj : ComesFrom d localNameMaxSize inputFile configId config n i j) :
    isSameAccount (newDomainInfo config info).domainInfo j.domainInfo = false := by
  have hold : isSameAccount info.domainInfo i.domainInfo = false := h id info hinfo hshown n i hi hne hother
  have hstored := hwritten.stored id info hinfo
  have hdomain' : i.domainInfo.stored = i.domainInfo := congrArg OsAccountInfo.domainInfo (hwritten.stored n i hi)
  by_contra hsame
  rw [Bool.not_eq_false] at hsame
  rcases hj with ⟨hreconfigured, rfl⟩ | ⟨_, rfl⟩
  · have hid' : CText.cStr i.domainInfo.accountId = i.domainInfo.accountId :=
      congrArg DomainAccountInfo.accountId hdomain'
    obtain ⟨hname, he, hdomain, _⟩ := isSameAccount_newDomainInfo hstored hsame hold hid'
    have hname' : CText.cStr i.domainInfo.accountName = i.domainInfo.accountName :=
      congrArg DomainAccountInfo.accountName hdomain'
    exact (hpre id info hinfo hshown hconfig hname hdomain n i hi hne hother (hname' ▸ he)).1 hreconfigured
  · obtain ⟨hname, he, hdomain, he'⟩ := isSameAccount_newDomainInfo hstored hsame hold rfl
    exact (hpre id info hinfo hshown hconfig hname hdomain n j hi hne hother he).2 he'

theorem UniqueBinding.updateServerConfig (hwritten : Written d) (h : UniqueBinding d)
    (hpre : Respects d (.updateServerConfig localNameMaxSize inputFile configId config)) :
    UniqueBinding (updateServerConfig d localNameMaxSize inputFile configId config).2 := by
  intro id info hinfo hshown n other hother hne hshown'
  obtain ⟨i, hi, hkept, hfrom⟩ := comesFrom_of_updateServerConfig hwritten hinfo
  obtain ⟨j, hj, hkept', hfrom'⟩ := comesFrom_of_updateServerConfig hwritten hother
  rw [hkept] at hshown
  rw [hkept'] at hshown'
  rcases hfrom with ⟨hconfig, rfl⟩ | ⟨hconfig, rfl⟩
  · exact not_isSameAccount_of_reconfigured hwritten h hpre hi hshown hconfig hj hne hshown' hfrom'
  · rcases hfrom' with ⟨hconfig', rfl⟩ | ⟨_, rfl⟩
    · rw [isSameAccount_comm]
      exact not_isSameAccount_of_reconfigured hwritten h hpre hj hshown' hconfig' hi hne.symm hshown
        (.inr ⟨hconfig, rfl⟩)
    · exact h id info hi hshown n other hj hne hshown'

end config

section steps

theorem written_step (h : Written d) (e : Event) : Written (step d e) := by
  cases e with
  | bindDomainAccount a isEnabled c =>
      have hbind := h.step 0 (.bindDomainAccount a isEnabled c)
      unfold AccountDirectory.step perform at hbind
      dsimp only at hbind
      split at hbind <;> rename_i hr
      · rwa [step, hr]
      · rwa [step, hr]
  | updateAccountInfoByDomainAccountInfo localNameMaxSize inputFile userId newDomainAccountInfo =>
      unfold step updateAccountInfoByDomainAccountInfo
      dsimp only
      split
      · exact h
      · exact Written.rule.updateOsAccount h trivial inputFile
  | updateServerConfig localNameMaxSize inputFile configId config =>
      unfold step updateServerConfig
      dsimp only
      generalize getOsAccountList d = osAccountInfos
      generalize Except.ok () = errCode
      induction osAccountInfos generalizing d errCode with
      | nil => exact h
      | cons info osAccountInfos ih =>
          unfold updateServerConfigIn
          split
          · have hupdate :
              Written (updateOsAccount d (inputFile info.localId) (withConfig localNameMaxSize config info)).2 :=
              Written.rule.updateOsAccount h trivial (inputFile info.localId)
            split <;> rename_i hr <;> rw [hr] at hupdate <;> exact ih hupdate _
          · exact ih h _
  | setOsAccountToBeRemoved reset inputFile localId toBeRemoved =>
      exact h.step 0 (.setOsAccountToBeRemoved reset inputFile localId toBeRemoved)
  | removeOsAccount storage inputFile a id => exact h.step 0 (.removeOsAccount storage inputFile a id)

theorem uniqueBinding_step (hwritten : Written d) (h : UniqueBinding d) (e : Event) (hpre : Respects d e) :
    UniqueBinding (step d e) := by
  cases e with
  | bindDomainAccount a isEnabled c => exact h.bindDomainAccount hwritten hpre
  | updateAccountInfoByDomainAccountInfo localNameMaxSize inputFile userId newDomainAccountInfo =>
      unfold step updateAccountInfoByDomainAccountInfo
      dsimp only
      split
      · exact h
      · rename_i accountInfo hfile
        refine h.updateOsAccount fun hwrite hshown => ?_
        obtain rfl := hwritten.keyed userId accountInfo hfile
        have hkept := freeFor_setDomainInfo h hwritten hfile hshown (hpre accountInfo hfile hshown hwrite)
        exact hkept
  | updateServerConfig localNameMaxSize inputFile configId config => exact h.updateServerConfig hwritten hpre
  | setOsAccountToBeRemoved reset inputFile localId toBeRemoved =>
      unfold step setOsAccountToBeRemoved
      dsimp only
      split
      · exact h
      split
      · exact h
      · rename_i osAccountInfo hfile _ _
        refine h.updateOsAccount fun hwrite hshown => ?_
        have hstored := congrArg OsAccountInfo.domainInfo (hwritten.stored localId osAccountInfo hfile)
        dsimp only [OsAccountInfo.stored_domainInfo] at hshown hstored ⊢
        rw [hwritten.keyed localId osAccountInfo hfile, hstored]
        exact hpre osAccountInfo hfile hshown hwrite
  | removeOsAccount storage inputFile a id =>
      unfold step removeOsAccount
      dsimp only
      split
      · exact h
      split
      · exact h
      rename_i osAccountInfo _ _
      have hhidden : UniqueBinding (updateOsAccount d inputFile { osAccountInfo with toBeRemoved := true }).2 :=
        h.updateOsAccount fun _ hshown => by cases hshown
      split <;> rename_i hr <;> rw [hr] at hhidden
      · exact hhidden
      · exact hhidden.of_shrinks (shrinks_removeOsAccountOperate a _ false)

structure Inv (d : Directory) : Prop where
  written : Written d
  unique : UniqueBinding d

theorem inv_step (d : Directory) (e : Event) (h : Inv d) (hpre : Respects d e) : Inv (step d e) :=
  ⟨written_step h.written e, uniqueBinding_step h.written h.unique e hpre⟩

/-- In a run that respects what the operations rely on, no domain account is bound twice. -/
theorem uniqueBinding_run (hwritten : Written d)
    (hstart : ∀ (n : Int) (info : OsAccountInfo), d.accounts[n]? = some info → info.domainInfo = {})
    {es : List Event} (hes : Machine.Meets step Respects d es) : UniqueBinding (Machine.run step d es) := by
  have hinv : Inv d := by
    refine ⟨hwritten, fun id info hinfo _ n other _ _ _ => ?_⟩
    rw [hstart id info hinfo]
    simp [isSameAccount]
  exact (Machine.run_invariant_of_meets inv_step hinv hes).unique

end steps

theorem unbound_initial (localName : String) (n : Int) (info : OsAccountInfo)
    (hn : (initial localName).accounts[n]? = some info) : info.domainInfo = {} := by
  rw [(accounts_initial hn).2]

def bindTo (accountName domain serverConfigId : String) : Event :=
  .bindDomainAccount everythingSucceeds false
    ⟨"", "", .normal, none, { domain, accountName, serverConfigId }, false⟩

/-- Two accounts are bound, one gets the id of its domain account and a new domain,
and the other one makes place for a third. -/
def rebinding : List Event :=
  [bindTo "alice" "east.example" "1", bindTo "bob" "west.example" "2",
    .updateAccountInfoByDomainAccountInfo 256 (.ok ()) 102 { accountId := "b7" },
    .updateServerConfig 256 (fun _ => .ok ()) "2" ⟨"2", "east.example"⟩,
    .setOsAccountToBeRemoved (.ok ()) (.ok ()) 101 true,
    .removeOsAccount (.ok ()) (.ok ()) everythingRemoved 101, bindTo "alice" "east.example" "1"]

theorem uniqueBinding_run_alice : UniqueBinding (Machine.run step (initial "owner") rebinding) :=
  uniqueBinding_run (Written.initial "owner") (unbound_initial "owner") (by decide +kernel)

def reconfiguration : List Event :=
  [bindTo "alice" "east.example" "1",
    bindTo "bob" "west.example" "2",
    .updateAccountInfoByDomainAccountInfo 256 (.ok ()) 102 { accountName := "alice" },
    .updateServerConfig 256 (fun _ => .ok ()) "2" ⟨"2", "east.example"⟩]

theorem bound_twice : Written (initial "owner") ∧
    (∀ (n : Int) (info : OsAccountInfo), (initial "owner").accounts[n]? = some info → info.domainInfo = {}) ∧
    ¬UniqueBinding (Machine.run step (initial "owner") reconfiguration) := by
  refine ⟨Written.initial "owner", unbound_initial "owner", fun h => ?_⟩
  have halice : (Machine.run step (initial "owner") reconfiguration).accounts[(101 : Int)]? = some {
      localId := 101, localName := "alice", type := .normal,
      domainInfo := { domain := "east.example", accountName := "alice", serverConfigId := "1" } } := by
    decide +kernel
  have hbob : (Machine.run step (initial "owner") reconfiguration).accounts[(102 : Int)]? = some {
      localId := 102, localName := "bob", type := .normal,
      domainInfo := { domain := "east.example", accountName := "alice", serverConfigId := "2" } } := by
    decide +kernel
  have hfree := h 101 _ halice rfl 102 _ hbob (by decide) rfl
  revert hfree
  decide

end OsAccount.DomainBinding
