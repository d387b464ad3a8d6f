import OsAccount.AppAccountInfo

namespace OsAccount.SubscriptionAccess

open AppAccountInfo

def findsAtStart (account owner : String) : Bool := owner.toList.isPrefixOf account.toList

def checkOwnersAccessible (owners : List String) (bundleKey : String) (accessibleAccounts : List String) : Ret :=
  match owners with
  | [] => .ok ()
  | owner :: owners =>
      if owner = bundleKey then checkOwnersAccessible owners bundleKey accessibleAccounts
      else
        match accessibleAccounts.find? fun account => findsAtStart account owner with
        | none => .error .permissionDenied
        | some _ => checkOwnersAccessible owners bundleKey accessibleAccounts

variable {subspace : Bool} {bundleKey : String} {accounts : List AppAccountInfo} {owners : List String}

def StartsKey (accounts : List AppAccountInfo) (owner : String) : Prop :=
  ∃ a ∈ accounts, owner.toList <+: a.getPrimeKey.toList

def EncodesOwner (subspace : Bool) (accounts : List AppAccountInfo) (owner : String) : Prop :=
  ∃ a ∈ accounts, owner = encodeAuthorizedApp subspace a.owner a.appIndex

theorem checkOwnersAccessible_eq_ok :
    checkOwnersAccessible owners bundleKey (accounts.map getPrimeKey) = .ok () ↔
      ∀ owner ∈ owners, owner = bundleKey ∨ StartsKey accounts owner := by
  induction owners with
  | nil => exact iff_of_true rfl nofun
  | cons owner owners ih =>
      rw [checkOwnersAccessible, List.forall_mem_cons]
      by_cases hself : owner = bundleKey
      · rw [if_pos hself, ih]
        exact ⟨fun h => ⟨.inl hself, h⟩, fun h => h.2⟩
      · rw [if_neg hself]
        cases hfind : (accounts.map getPrimeKey).find? fun account => findsAtStart account owner with
        | none =>
            refine iff_of_false nofun fun h => ?_
            obtain ⟨a, ha, hprefix⟩ := h.1.resolve_left hself
            rw [List.find?_eq_none] at hfind
            exact hfind a.getPrimeKey (List.mem_map_of_mem ha) (List.isPrefixOf_iff_prefix.mpr hprefix)
        | some account =>
            obtain ⟨a, ha, rfl⟩ := List.mem_map.mp (List.mem_of_find?_eq_some hfind)
            have hfound := List.find?_some hfind
            have hprefix := List.isPrefixOf_iff_prefix.mp hfound
            dsimp only
            rw [ih]
            exact ⟨fun h => ⟨.inr ⟨a, ha, hprefix⟩, h⟩, fun h => h.2⟩

theorem encode_prefix (subspace : Bool) (a : AppAccountInfo) :
    (encodeAuthorizedApp subspace a.owner a.appIndex).toList <+: a.getPrimeKey.toList := by
  have hindex : (a.owner ++ hyphen ++ toString a.appIndex).toList <+: a.getPrimeKey.toList := by
    rw [getPrimeKey]
    exact ⟨(hyphen ++ a.name ++ hyphen).toList, by simp only [String.toList_append, List.append_assoc]⟩
  have howner : a.owner.toList <+: a.getPrimeKey.toList := by
    rw [getPrimeKey]
    exact ⟨(hyphen ++ toString a.appIndex ++ hyphen ++ a.name ++ hyphen).toList,
      by simp only [String.toList_append, List.append_assoc]⟩
  rw [encodeAuthorizedApp]
  split_ifs
  · exact hindex
  · exact howner
  · exact hindex

theorem EncodesOwner.startsKey {owner : String} (h : EncodesOwner subspace accounts owner) :
    StartsKey accounts owner := by
  obtain ⟨a, ha, rfl⟩ := h
  exact ⟨a, ha, encode_prefix subspace a⟩

/-- Owners are accepted as they should be if and only if one of them is refused, or none but the caller's own key
starts the key of an account without being its encoded owner. -/
theorem owners_exact_iff (subspace : Bool) (bundleKey : String) (accounts : List AppAccountInfo)
    (owners : List String) :
    (checkOwnersAccessible owners bundleKey (accounts.map getPrimeKey) = .ok () ↔
      ∀ owner ∈ owners, owner = bundleKey ∨ EncodesOwner subspace accounts owner) ↔
      (∃ owner ∈ owners, owner ≠ bundleKey ∧ ¬ StartsKey accounts owner) ∨
        ∀ owner ∈ owners, owner ≠ bundleKey → StartsKey accounts owner → EncodesOwner subspace accounts owner := by
  rw [checkOwnersAccessible_eq_ok]
  constructor
  · intro hexact
    by_cases haccepted : ∀ owner ∈ owners, owner = bundleKey ∨ StartsKey accounts owner
    · exact .inr fun owner howner hother _ => (hexact.mp haccepted owner howner).resolve_left hother
    · push Not at haccepted
      exact .inl haccepted
  · rintro (⟨owner, howner, hother, hrefused⟩ | hencoded)
    · refine iff_of_false (fun h => hrefused ((h owner howner).resolve_left hother)) fun h => ?_
      exact hrefused ((h owner howner).resolve_left hother).startsKey
    · refine forall₂_congr fun owner howner => ?_
      by_cases hself : owner = bundleKey
      · exact iff_of_true (.inl hself) (.inl hself)
      · constructor
        · exact fun h => .inr (hencoded owner howner hself (h.resolve_left hself))
        · exact fun h => .inr (h.resolve_left hself).startsKey

/-- An account of another bundle, or of another clone, opens the one whose name it continues. -/
theorem not_owners_exact :
    (checkOwnersAccessible ["com.a"] "com.x" ([newAccount "com.a.b" 0 "alice"].map getPrimeKey) = .ok () ∧
        ¬ EncodesOwner false [newAccount "com.a.b" 0 "alice"] "com.a") ∧
      checkOwnersAccessible ["com.a#1"] "com.x#0" ([newAccount "com.a" 10 "alice"].map getPrimeKey) = .ok () ∧
        ¬ EncodesOwner true [newAccount "com.a" 10 "alice"] "com.a#1" := by
  refine ⟨⟨?_, ?_⟩, ?_, ?_⟩
  · refine checkOwnersAccessible_eq_ok.mpr fun owner howner => .inr ⟨_, List.mem_cons_self, ?_⟩
    rw [List.mem_singleton.mp howner]
    decide
  · rintro ⟨a, ha, heq⟩
    rw [List.mem_singleton.mp ha] at heq
    revert heq
    decide
  · refine checkOwnersAccessible_eq_ok.mpr fun owner howner => .inr ⟨_, List.mem_cons_self, ?_⟩
    rw [List.mem_singleton.mp howner]
    decide
  · rintro ⟨a, ha, heq⟩
    rw [List.mem_singleton.mp ha] at heq
    revert heq
    decide

end OsAccount.SubscriptionAccess
