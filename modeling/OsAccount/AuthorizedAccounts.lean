import OsAccount.JsonUtils

namespace OsAccount.AuthorizedAccounts

open JsonUtils CText

/-- The table of the authorizations: under the key of an application the prime
keys of the accounts that it may use. A prime key is made of what the document of
an account says, and so it has no NUL; the key of an application may have one. -/
def getAccessibleAccountsFromAuthorizedAccounts (authorizedAccounts : Option Json) (authorizedApp : String) :
    Json × List String :=
  match authorizedAccounts with
  | none => (createJson, [])
  | some table =>
      if isKeyExistByText table authorizedApp then (table, getVectorStringByText table authorizedApp)
      else (setItemByText table authorizedApp (.arr []), [])

def addMissing (accountId : String) (accessibleAccounts : List String) : List String :=
  if accountId ∈ accessibleAccounts then accessibleAccounts else accessibleAccounts ++ [accountId]

def savedTable (authorizedAccounts : Option Json) (authorizedApp accountId : String) : Json :=
  let (jsonObject, accessibleAccounts) :=
    getAccessibleAccountsFromAuthorizedAccounts authorizedAccounts authorizedApp
  addVectorStringByText jsonObject authorizedApp (addMissing accountId accessibleAccounts)

/-- The table that `RemoveAuthorizedAccountFromDataStorage` writes. -/
def removedTable (authorizedAccounts : Option Json) (authorizedApp accountId : String) : Json :=
  let (jsonObject, accessibleAccounts) :=
    getAccessibleAccountsFromAuthorizedAccounts authorizedAccounts authorizedApp
  addVectorStringByText jsonObject authorizedApp (accessibleAccounts.erase accountId)

def accessibleAccounts (authorizedAccounts : Option Json) (authorizedApp : String) : List String :=
  (getAccessibleAccountsFromAuthorizedAccounts authorizedAccounts authorizedApp).2

structure WellFormed (authorizedAccounts : Option Json) : Prop where
  record : ∀ table, authorizedAccounts = some table → IsRecord table
  nodup : ∀ authorizedApp, (accessibleAccounts authorizedAccounts authorizedApp).Nodup

variable {t : Option Json} {app app' id id' : String}

theorem accessibleAccounts_some (table : Json) (app : String) :
    accessibleAccounts (some table) app = getVectorStringByText table app := by
  unfold accessibleAccounts getAccessibleAccountsFromAuthorizedAccounts
  cases h : getItemByText table app with
  | none => simp [isKeyExistByText, getVectorStringByText, h, strings]
  | some item => simp [isKeyExistByText, h]

theorem wellFormed_none : WellFormed none where
  record := fun table h => by cases h
  nodup := fun authorizedApp => List.nodup_nil

theorem accessibleAccounts_empty_key (t : Option Json) : accessibleAccounts t "" = [] := by
  cases t with
  | none => rfl
  | some table =>
      rw [accessibleAccounts_some]
      simp [getVectorStringByText, getItemByText, strings]

theorem accessibleAccounts_sameKey (t : Option Json) (h : SameKey app app') :
    accessibleAccounts t app = accessibleAccounts t app' := by
  cases t with
  | none => rfl
  | some table =>
      obtain ⟨hsame, hne, hne'⟩ := h
      rw [accessibleAccounts_some, accessibleAccounts_some, getVectorStringByText,
        getVectorStringByText, getItemByText, getItemByText, hsame, if_neg hne, if_neg hne']

theorem document_spec (h : ∀ table, t = some table → IsRecord table) (app : String) :
    IsRecord (getAccessibleAccountsFromAuthorizedAccounts t app).1 ∧
      ∀ app', ¬SameKey app app' →
        getVectorStringByText (getAccessibleAccountsFromAuthorizedAccounts t app).1 app' =
          accessibleAccounts t app' := by
  cases t with
  | none =>
      refine ⟨List.nodup_nil, fun app' _ => ?_⟩
      simp [getAccessibleAccountsFromAuthorizedAccounts, accessibleAccounts, createJson,
        getVectorStringByText, getItemByText, fields, Fields.find, strings]
  | some table =>
      have htable := h table rfl
      unfold getAccessibleAccountsFromAuthorizedAccounts
      dsimp only
      split
      · exact ⟨htable, fun app' _ => (accessibleAccounts_some table app').symm⟩
      · refine ⟨isRecord_setItemByText htable app _, fun app' hother => ?_⟩
        rw [accessibleAccounts_some, getVectorStringByText_set htable, if_neg hother]

theorem accessibleAccounts_add (h : ∀ table, t = some table → IsRecord table) (app : String)
    (vec : List String) (app' : String) :
    accessibleAccounts (some (addVectorStringByText (getAccessibleAccountsFromAuthorizedAccounts t app).1
      app vec)) app' = if SameKey app app' then vec else accessibleAccounts t app' := by
  obtain ⟨hrecord, hother⟩ := document_spec h app
  rw [accessibleAccounts_some, addVectorStringByText, getVectorStringByText_set hrecord,
    strings_arr]
  split
  · rfl
  · next hsame => exact hother app' hsame

theorem isRecord_add (h : ∀ table, t = some table → IsRecord table) (app : String) (vec : List String) :
    IsRecord (addVectorStringByText (getAccessibleAccountsFromAuthorizedAccounts t app).1 app vec) :=
  isRecord_setItemByText (document_spec h app).1 app _

theorem wellFormed_add (h : WellFormed t) (app : String) {vec : List String} (hvec : vec.Nodup) :
    WellFormed (some (addVectorStringByText (getAccessibleAccountsFromAuthorizedAccounts t app).1
      app vec)) where
  record := by
    intro table htable
    rw [← Option.some.inj htable]
    exact isRecord_add h.record app vec
  nodup := by
    intro app'
    rw [accessibleAccounts_add h.record]
    split
    · exact hvec
    · exact h.nodup app'

theorem mem_addMissing {l : List String} : id' ∈ addMissing id l ↔ id' ∈ l ∨ id' = id := by
  unfold addMissing
  split
  · rename_i hid
    exact (or_iff_left_of_imp fun he => he ▸ hid).symm
  · simp

theorem nodup_addMissing {l : List String} (h : l.Nodup) : (addMissing id l).Nodup := by
  unfold addMissing
  split
  · exact h
  · rename_i hid
    exact h.append (List.nodup_singleton id) (List.disjoint_singleton.2 hid)

theorem wellFormed_savedTable (h : WellFormed t) (app id : String) : WellFormed (some (savedTable t app id)) :=
  wellFormed_add h app (nodup_addMissing (h.nodup app))

theorem mem_savedTable (h : WellFormed t) :
    id' ∈ accessibleAccounts (some (savedTable t app id)) app' ↔
      id' ∈ accessibleAccounts t app' ∨ id' = id ∧ SameKey app app' := by
  have hadd := accessibleAccounts_add h.record app (addMissing id (accessibleAccounts t app)) app'
  change accessibleAccounts (some (savedTable t app id)) app' = _ at hadd
  rw [hadd]
  by_cases hsame : SameKey app app'
  · rw [if_pos hsame, mem_addMissing, accessibleAccounts_sameKey t hsame, and_iff_left hsame]
  · rw [if_neg hsame, or_iff_left fun hand => hsame hand.2]

theorem wellFormed_removedTable (h : WellFormed t) (app id : String) : WellFormed (some (removedTable t app id)) :=
  wellFormed_add h app ((h.nodup app).erase id)

theorem mem_removedTable (h : WellFormed t) :
    id' ∈ accessibleAccounts (some (removedTable t app id)) app' ↔
      id' ∈ accessibleAccounts t app' ∧ ¬(id' = id ∧ SameKey app app') := by
  unfold removedTable
  rw [accessibleAccounts_add h.record]
  by_cases hsame : SameKey app app'
  · rw [if_pos hsame]
    change _ ∈ (accessibleAccounts t app).erase id ↔ _
    rw [(h.nodup app).mem_erase_iff, accessibleAccounts_sameKey t hsame, and_comm, and_iff_left hsame]
  · rw [if_neg hsame, and_iff_left fun hand => hsame hand.2]

def removedFrom (id : String) (t : Option Json) (apps : List String) : Option Json :=
  apps.foldl (fun t app => some (removedTable t app id)) t

theorem removedFrom_spec (h : WellFormed t) (id : String) (apps : List String) :
    WellFormed (removedFrom id t apps) ∧ ∀ id' app', id' ∈ accessibleAccounts (removedFrom id t apps) app' ↔
      id' ∈ accessibleAccounts t app' ∧ ¬(id' = id ∧ ∃ app ∈ apps, SameKey app app') := by
  induction apps generalizing t with
  | nil => exact ⟨h, fun id' app' => by simp [removedFrom]⟩
  | cons app apps ih =>
      obtain ⟨hwell, hmem⟩ := ih (wellFormed_removedTable h app id)
      refine ⟨hwell, fun id' app' => (hmem id' app').trans ?_⟩
      rw [mem_removedTable h, List.exists_mem_cons_iff, and_assoc, ← not_or, ← and_or_left]

section names

def listedAccounts (authorizedAccounts : Option Json) (authorizedApp : String) : List String :=
  (authorizedAccounts.map (getVectorStringFromJson · authorizedApp)).getD []

def Named (authorizedAccounts : Option Json) : Prop :=
  ∀ table, authorizedAccounts = some table → ∀ key ∈ Fields.keys (fields table), NoNul key ∧ key ≠ ""

theorem listedAccounts_eq (happ : NoNul app) : listedAccounts t app = accessibleAccounts t app := by
  cases t with
  | none => rfl
  | some table =>
      rw [accessibleAccounts_some, getVectorStringByText, getItemByText_eq happ]
      rfl

theorem Named.find (h : Named t) {table : Json} (ht : t = some table) (hkey : ¬(NoNul app ∧ app ≠ "")) :
    Fields.find app (fields table) = none :=
  Fields.find_eq_none.mpr fun hmem => hkey (h table ht app hmem)

theorem Named.listedAccounts_of_nul (h : Named t) (happ : ¬NoNul app) : listedAccounts t app = [] := by
  cases t with
  | none => rfl
  | some table =>
      have hfind := h.find rfl fun hand => happ hand.1
      simp [listedAccounts, getVectorStringFromJson, getItemFromJson, hfind, strings]

theorem Named.accessibleAccounts_cStr (h : Named t) (app : String) :
    accessibleAccounts t app = accessibleAccounts t (cStr app) := by
  by_cases hempty : cStr app = ""
  · rw [hempty, accessibleAccounts_empty_key]
    cases t with
    | none => rfl
    | some table =>
        have hfind := h.find rfl fun hand : NoNul "" ∧ "" ≠ "" => hand.2 rfl
        rw [accessibleAccounts_some, getVectorStringByText, getItemByText, hempty, hfind, ite_self]
        rfl
  · have hne : app ≠ "" := by
      rintro rfl
      exact hempty cStr_empty
    exact accessibleAccounts_sameKey t ⟨(cStr_cStr app).symm, hne, hempty⟩

theorem named_set {table : Json} (h : Named (some table)) (happ : NoNul app) (value : Json) :
    Named (some (setItemByText table app value)) := by
  rintro _ ⟨⟩ key hkey
  cases table with
  | obj l =>
      by_cases hne : app = ""
      · rw [setItemByText, if_pos hne] at hkey
        exact h _ rfl key hkey
      · rw [setItemByText, if_neg hne, happ.cStr] at hkey
        rcases Fields.mem_keys_set.mp hkey with rfl | hold
        · exact ⟨happ, hne⟩
        · exact h _ rfl key hold
  | _ => cases hkey

theorem named_add (h : Named t) (happ : NoNul app) (vec : List String) :
    Named (some (addVectorStringByText (getAccessibleAccountsFromAuthorizedAccounts t app).1 app vec)) := by
  refine named_set ?_ happ _
  cases t with
  | none =>
      rintro _ ⟨⟩ key hkey
      cases hkey
  | some table =>
      unfold getAccessibleAccountsFromAuthorizedAccounts
      dsimp only
      split
      · exact h
      · exact named_set h happ _

theorem named_removedFrom (h : Named t) (id : String) {apps : List String} (happs : ∀ app ∈ apps, NoNul app) :
    Named (removedFrom id t apps) := by
  induction apps generalizing t with
  | nil => exact h
  | cons app apps ih =>
      exact ih (named_add h (happs app List.mem_cons_self) _) fun app' happ' =>
        happs app' (List.mem_cons_of_mem app happ')

end names

end OsAccount.AuthorizedAccounts
