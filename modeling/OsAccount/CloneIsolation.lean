import OsAccount.AppAccountStore

namespace OsAccount.CloneIsolation

open Std AppAccountInfo AuthorizedAccounts AppAccountStore

def Owns (owner : String) (appIndex : Nat) (a : AppAccountInfo) : Prop := a.owner = owner ∧ a.appIndex = appIndex

instance (owner : String) (appIndex : Nat) (a : AppAccountInfo) : Decidable (Owns owner appIndex a) :=
  inferInstanceAs (Decidable (_ ∧ _))

structure Keyed (s : Store) : Prop where
  key : ∀ (k : String) (a : AppAccountInfo), s.accounts[k]? = some a → k = a.getPrimeKey
  owner : ∀ (k : String) (a : AppAccountInfo), s.accounts[k]? = some a → '#' ∉ a.owner.toList
  table : WellFormed s.authorizedAccounts

def ownAccounts (s : Store) (owner : String) (appIndex : Nat) : List (String × AppAccountInfo) :=
  s.accounts.toList.filter fun e => Owns owner appIndex e.2

def removed (s : Store) (owner : String) (appIndex uid : Nat) : Store :=
  (perform (onPackageRemoved false uid owner appIndex) s).2

structure Isolated (s : Store) (owner : String) (appIndex : Nat) : Prop where
  query : ∀ subspace hasPermission visible,
    (perform (getAllAccounts subspace hasPermission visible owner appIndex owner appIndex) s).1 =
      .ok ((ownAccounts s owner appIndex).map Prod.snd)
  accounts : ∀ (uid : Nat) (k : String), (removed s owner appIndex uid).accounts[k]? =
    s.accounts[k]?.filter fun a => !decide (Owns owner appIndex a)
  forgotten : ∀ (uid : Nat) (k : String) (a : AppAccountInfo), s.accounts[k]? = some a → Owns owner appIndex a →
    ∀ app ∈ a.authorizedApps, k ∉ accessibleAccounts (removed s owner appIndex uid).authorizedAccounts app
  kept : ∀ (uid : Nat) (k : String), (∀ name, k ≠ (newAccount owner appIndex name).getPrimeKey) → ∀ app,
    k ∈ accessibleAccounts (removed s owner appIndex uid).authorizedAccounts app ↔
      k ∈ accessibleAccounts s.authorizedAccounts app
  addQuota : ∀ name extraInfo, s.accounts[(newAccount owner appIndex name).getPrimeKey]? = none →
    ((perform (addAccount (newAccount owner appIndex name) extraInfo) s).1 = .error .accountMaxSize ↔
      accountMaxSize ≤ (ownAccounts s owner appIndex).length)
  createQuota : ∀ name customData, s.accounts[(newAccount owner appIndex name).getPrimeKey]? = none →
    ((perform (createAccount (newAccount owner appIndex name) customData) s).1 = .error .accountMaxSize ↔
      accountMaxSize ≤ (ownAccounts s owner appIndex).length)

def Terminated (s : Store) (owner : String) (appIndex : Nat) : Prop :=
  ∀ (k : String) (a : AppAccountInfo), s.accounts[k]? = some a → a.owner = owner → Continues appIndex a.appIndex →
    a.appIndex = appIndex

variable {s : Store} {owner : String} {appIndex : Nat}

variable {k : String} {a : AppAccountInfo}

theorem mem_getEntries_ownerKey (h : Keyed s) (howner : '#' ∉ owner.toList) :
    (k, a) ∈ s.getEntries (ownerKey owner appIndex) ↔
      s.accounts[k]? = some a ∧ a.owner = owner ∧ Continues appIndex a.appIndex := by
  rw [mem_getEntries]
  refine and_congr_right fun hk => ?_
  rw [h.key k a hk]
  exact ownerKey_prefix_iff a howner (h.owner k a hk)

theorem getEntries_eq_ownAccounts_iff (h : Keyed s) (howner : '#' ∉ owner.toList) :
    s.getEntries (ownerKey owner appIndex) = ownAccounts s owner appIndex ↔ Terminated s owner appIndex := by
  constructor
  · intro he k a hk ho hc
    have hmem : (k, a) ∈ s.getEntries (ownerKey owner appIndex) :=
      (mem_getEntries_ownerKey h howner).2 ⟨hk, ho, hc⟩
    rw [he, ownAccounts, List.mem_filter] at hmem
    exact (of_decide_eq_true hmem.2).2
  · intro hterm
    refine List.filter_congr fun e he => ?_
    rw [Bool.eq_iff_iff, List.isPrefixOf_iff_prefix, decide_eq_true_iff]
    have hk := ExtTreeMap.mem_toList_iff_getElem?_eq_some.1 he
    rw [h.key _ _ hk, ownerKey_prefix_iff e.2 howner (h.owner _ _ hk)]
    refine and_congr_right fun ho => ⟨hterm _ _ hk ho, fun hi => ?_⟩
    rw [hi]
    exact continues_refl appIndex

section removal

def removedKey (appIndex : Nat) (a : AppAccountInfo) : String := (a.setAppIndex appIndex).getPrimeKey

def removeAll (appIndex : Nat) (accounts : List (String × AppAccountInfo)) (s : Store) : Store :=
  accounts.foldl (fun s account => s.removeAccount (account.2.setAppIndex appIndex)) s

variable {accounts : List (String × AppAccountInfo)}

theorem getElem?_removeAll (s : Store) (k : String) : (removeAll appIndex accounts s).accounts[k]? =
    if ∃ e ∈ accounts, k = removedKey appIndex e.2 then none else s.accounts[k]? := by
  induction accounts generalizing s with
  | nil => simp [removeAll]
  | cons e accounts ih =>
      refine (ih (s.removeAccount (e.2.setAppIndex appIndex))).trans ?_
      change (if _ then none else (s.accounts.erase (removedKey appIndex e.2))[k]?) = _
      rw [OrderedMap.getElem?_erase_eq]
      simp only [List.mem_cons, exists_eq_or_imp]
      by_cases hk : k = removedKey appIndex e.2
      · simp [hk]
      · rw [if_neg (Ne.symm hk)]
        simp only [hk, false_or]

theorem table_removeAll (h : WellFormed s.authorizedAccounts) :
    WellFormed (removeAll appIndex accounts s).authorizedAccounts ∧ ∀ k app,
      k ∈ accessibleAccounts (removeAll appIndex accounts s).authorizedAccounts app ↔
        k ∈ accessibleAccounts s.authorizedAccounts app ∧
          ¬∃ e ∈ accounts, k = removedKey appIndex e.2 ∧ ∃ app' ∈ e.2.authorizedApps.toList,
            JsonUtils.SameKey app' app := by
  induction accounts generalizing s with
  | nil => exact ⟨h, fun k app => by simp [removeAll]⟩
  | cons e accounts ih =>
      obtain ⟨hwell, hmem⟩ := removedFrom_spec h (removedKey appIndex e.2) e.2.authorizedApps.toList
      obtain ⟨hwell, hrest⟩ := ih (s := s.removeAccount (e.2.setAppIndex appIndex)) hwell
      refine ⟨hwell, fun k app => (hrest k app).trans ?_⟩
      change (k ∈ accessibleAccounts (removedFrom (removedKey appIndex e.2) s.authorizedAccounts
        e.2.authorizedApps.toList) app ∧ _) ↔ _
      rw [hmem, List.exists_mem_cons_iff, not_or, and_assoc]

end removal

theorem removedKey_self (h : a.appIndex = appIndex) : removedKey appIndex a = a.getPrimeKey := by
  rw [← h]
  rfl

theorem removed_eq (s : Store) (owner : String) (appIndex uid : Nat) :
    removed s owner appIndex uid = removeAll appIndex (s.getEntries (ownerKey owner appIndex)) s := by
  rw [removed, perform_onPackageRemoved]
  rfl

theorem removedKey_eq (ho : a.owner = owner) :
    removedKey appIndex a = (newAccount owner appIndex a.name).getPrimeKey := by
  rw [← ho]
  rfl

theorem owns_of_removedKey (h : Keyed s) (howner : '#' ∉ owner.toList) {k name : String}
    (hk : s.accounts[k]? = some a) (he : k = (newAccount owner appIndex name).getPrimeKey) :
    Owns owner appIndex a := by
  rw [h.key k a hk, getPrimeKey_inj (h.owner k a hk) howner] at he
  exact ⟨he.1, he.2.1⟩

theorem accounts_removed (h : Keyed s) (howner : '#' ∉ owner.toList) (uid : Nat) (k : String) :
    (removed s owner appIndex uid).accounts[k]? =
      s.accounts[k]?.filter fun a => !decide (Owns owner appIndex a) := by
  rw [removed_eq, getElem?_removeAll]
  cases hk : s.accounts[k]? with
  | none => simp
  | some a =>
      by_cases ha : Owns owner appIndex a
      · have hmem : (k, a) ∈ s.getEntries (ownerKey owner appIndex) :=
          (mem_getEntries_ownerKey h howner).2 ⟨hk, ha.1, ha.2 ▸ continues_refl appIndex⟩
        have hkey : k = removedKey appIndex a := (h.key k a hk).trans (removedKey_self ha.2).symm
        rw [if_pos ⟨(k, a), hmem, hkey⟩]
        simp [Option.filter, ha]
      · rw [if_neg]
        · simp [Option.filter, ha]
        · rintro ⟨e, he, hke⟩
          obtain ⟨-, ho, -⟩ := (mem_getEntries_ownerKey h howner).1 he
          rw [removedKey_eq ho] at hke
          exact ha (owns_of_removedKey h howner hk hke)

theorem forgotten_removed (h : Keyed s) (howner : '#' ∉ owner.toList) (uid : Nat)
    (hk : s.accounts[k]? = some a) (ha : Owns owner appIndex a) {app : String} (happ : app ∈ a.authorizedApps) :
    k ∉ accessibleAccounts (removed s owner appIndex uid).authorizedAccounts app := by
  rw [removed_eq, (table_removeAll h.table).2]
  rintro ⟨hmem, hno⟩
  have hne : app ≠ "" := by
    rintro rfl
    rw [accessibleAccounts_empty_key] at hmem
    cases hmem
  exact hno ⟨(k, a), (mem_getEntries_ownerKey h howner).2 ⟨hk, ha.1, ha.2 ▸ continues_refl appIndex⟩,
    (h.key k a hk).trans (removedKey_self ha.2).symm, app, ExtTreeSet.mem_toList.2 happ, JsonUtils.sameKey_self hne⟩

theorem kept_removed (h : Keyed s) (howner : '#' ∉ owner.toList) (uid : Nat)
    (hk : ∀ name, k ≠ (newAccount owner appIndex name).getPrimeKey) (app : String) :
    k ∈ accessibleAccounts (removed s owner appIndex uid).authorizedAccounts app ↔
      k ∈ accessibleAccounts s.authorizedAccounts app := by
  rw [removed_eq, (table_removeAll h.table).2]
  refine and_iff_left ?_
  rintro ⟨e, he, hke, -⟩
  obtain ⟨-, ho, -⟩ := (mem_getEntries_ownerKey h howner).1 he
  rw [removedKey_eq ho] at hke
  exact hk e.2.name hke

/-- A new account of a bundle and an index is refused when their accounts are as many as there may be. -/
theorem quota_iff (hentries : s.getEntries (ownerKey owner appIndex) = ownAccounts s owner appIndex)
    (howner : a.owner = owner) (hindex : a.appIndex = appIndex)
    (hnew : s.accounts[a.getPrimeKey]? = none) :
    (Program.exec succeed (addAccountInfoIntoDataStorage a) { store := s }).1 = .error .accountMaxSize ↔
      accountMaxSize ≤ (ownAccounts s owner appIndex).length := by
  rw [exec_addAccountInfoIntoDataStorage hnew, howner, hindex, hentries]
  split
  · rename_i hfull
    exact iff_of_true rfl hfull
  · rename_i hfree
    exact iff_of_false (fun he => by cases he) hfree

theorem addQuota_iff (hentries : s.getEntries (ownerKey owner appIndex) = ownAccounts s owner appIndex)
    {name : String} (extraInfo : String) (hnew : s.accounts[(newAccount owner appIndex name).getPrimeKey]? = none) :
    (perform (addAccount (newAccount owner appIndex name) extraInfo) s).1 = .error .accountMaxSize ↔
      accountMaxSize ≤ (ownAccounts s owner appIndex).length := by
  unfold perform addAccount
  rw [Program.exec_bind, exec_getAccountInfo_of_none hnew]
  exact quota_iff hentries rfl rfl hnew

theorem createQuota_iff (hentries : s.getEntries (ownerKey owner appIndex) = ownAccounts s owner appIndex)
    {name : String} (customData : ExtTreeMap String String)
    (hnew : s.accounts[(newAccount owner appIndex name).getPrimeKey]? = none) :
    (perform (createAccount (newAccount owner appIndex name) customData) s).1 = .error .accountMaxSize ↔
      accountMaxSize ≤ (ownAccounts s owner appIndex).length := by
  unfold perform createAccount
  rw [Program.exec_bind, exec_getAccountInfo_of_none hnew]
  exact quota_iff hentries rfl rfl hnew

theorem terminated_of_query (h : Keyed s) (howner : '#' ∉ owner.toList)
    (hquery : (perform (getAllAccounts false false (fun _ => true) owner appIndex owner appIndex) s).1 =
      .ok ((ownAccounts s owner appIndex).map Prod.snd)) : Terminated s owner appIndex := by
  intro k a hk ho hc
  rw [perform_getAllAccounts] at hquery
  have hmem : a ∈ (s.getEntries (ownerKey owner appIndex)).map Prod.snd :=
    List.mem_map.2 ⟨(k, a), (mem_getEntries_ownerKey h howner).2 ⟨hk, ho, hc⟩, rfl⟩
  rw [Except.ok.inj hquery, List.mem_map] at hmem
  obtain ⟨e, he, rfl⟩ := hmem
  exact (of_decide_eq_true (List.mem_filter.1 he).2).2

/-- The text of a query ends with a number that has no end. -/
theorem isolated_iff (h : Keyed s) (howner : '#' ∉ owner.toList) :
    Isolated s owner appIndex ↔ Terminated s owner appIndex := by
  constructor
  · intro hisolated
    exact terminated_of_query h howner (hisolated.query false false fun _ => true)
  · intro hterm
    have hentries := (getEntries_eq_ownAccounts_iff h howner).2 hterm
    exact
      { query := fun subspace hasPermission visible => by rw [perform_getAllAccounts, hentries]
        accounts := accounts_removed h howner
        forgotten := fun uid k a hk ha app happ => forgotten_removed h howner uid hk ha happ
        kept := fun uid k hk app => kept_removed h howner uid hk app
        addQuota := fun name extraInfo hnew => addQuota_iff hentries extraInfo hnew
        createQuota := fun name customData hnew => createQuota_iff hentries customData hnew }

def tenthClone : Store := Store.put {} (newAccount "com.example.mail" 10 "alice").getPrimeKey
  (newAccount "com.example.mail" 10 "alice")

theorem eq_of_tenthClone (hk : tenthClone.accounts[k]? = some a) :
    k = (newAccount "com.example.mail" 10 "alice").getPrimeKey ∧ a = newAccount "com.example.mail" 10 "alice" := by
  unfold tenthClone at hk
  rw [Store.getElem?_put] at hk
  split at hk
  · rename_i hkey
    exact ⟨hkey.symm, (Option.some.inj hk).symm⟩
  · simp at hk

theorem keyed_tenthClone : Keyed tenthClone where
  key := by
    intro k a hk
    obtain ⟨rfl, rfl⟩ := eq_of_tenthClone hk
    rfl
  owner := by
    intro k a hk
    obtain ⟨rfl, rfl⟩ := eq_of_tenthClone hk
    decide
  table := wellFormed_none

def clones : Store := tenthClone.put (newAccount "com.example.mail" 2 "bob").getPrimeKey
  (newAccount "com.example.mail" 2 "bob")

theorem mem_clones (hk : clones.accounts[k]? = some a) :
    k = a.getPrimeKey ∧ (a = newAccount "com.example.mail" 10 "alice" ∨ a = newAccount "com.example.mail" 2 "bob") := by
  unfold clones at hk
  rw [Store.getElem?_put] at hk
  split at hk
  · rename_i hkey
    obtain rfl := Option.some.inj hk
    exact ⟨hkey.symm, .inr rfl⟩
  · obtain ⟨rfl, rfl⟩ := eq_of_tenthClone hk
    exact ⟨rfl, .inl rfl⟩

theorem keyed_clones : Keyed clones where
  key := fun k a hk => (mem_clones hk).1
  owner := by
    intro k a hk
    rcases (mem_clones hk).2 with rfl | rfl <;> decide
  table := wellFormed_none

theorem isolated_iff_clones :
    Terminated clones "com.example.mail" 10 ∧ Isolated clones "com.example.mail" 10 := by
  have hterm : Terminated clones "com.example.mail" 10 := by
    intro k a hk _ hcontinues
    rcases (mem_clones hk).2 with rfl | rfl
    · rfl
    · exact absurd hcontinues (by decide)
  exact ⟨hterm, (isolated_iff keyed_clones (by decide)).2 hterm⟩

/-- The first clone, which has none, is shown the account of the tenth. -/
theorem not_isolated_tenthClone : Keyed tenthClone ∧ '#' ∉ "com.example.mail".toList ∧
    ¬Isolated tenthClone "com.example.mail" 1 := by
  refine ⟨keyed_tenthClone, by decide, fun hisolated => ?_⟩
  have hterm := terminated_of_query keyed_tenthClone (by decide) (hisolated.query false false fun _ => true)
  have hsame : (10 : Nat) = 1 := by
    refine hterm (newAccount "com.example.mail" 10 "alice").getPrimeKey
      (newAccount "com.example.mail" 10 "alice")
      ?_ rfl (by decide)
    unfold tenthClone
    rw [Store.getElem?_put, if_pos rfl]
  cases hsame

end OsAccount.CloneIsolation
