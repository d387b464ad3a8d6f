import OsAccount.AppAccountInfo

namespace OsAccount.AccountSelection

open AppAccountInfo

structure SelectAccountsOptions where
  hasAccounts : Bool := false
  hasOwners : Bool := false
  hasLabels : Bool := false
  allowedAccounts : List (String × String) := []
  allowedOwners : List String := []
  requiredLabels : List String := []

/-- What the request comes to: an error, a result with the names and the owners, if it has any, or a session with the
authenticators of the candidates. -/
inductive Outcome
  | error (errCode : ErrCode)
  | onResult (names owners : Option (List String))
  | session (candidateAccounts : List AppAccountInfo) (labels : List String)

namespace SelectAccountsOptions

variable (options : SelectAccountsOptions)

def allowedKeys : List String := options.allowedAccounts.map fun account => account.1 ++ "_" ++ account.2

def isCandidate (account : AppAccountInfo) : Bool :=
  !(options.hasOwners && !options.allowedOwners.contains account.owner) &&
    !(options.hasAccounts && !options.allowedKeys.contains (account.owner ++ "_" ++ account.name))

def Allows (account : AppAccountInfo) : Prop :=
  (options.hasOwners = true → account.owner ∈ options.allowedOwners) ∧
    (options.hasAccounts = true → (account.owner, account.name) ∈ options.allowedAccounts)

instance : DecidablePred options.Allows := fun _ => inferInstanceAs (Decidable (_ ∧ _))

def Separates (account : AppAccountInfo) : Prop :=
  options.hasAccounts = true → account.owner ++ "_" ++ account.name ∈ options.allowedKeys →
    (account.owner, account.name) ∈ options.allowedAccounts

end SelectAccountsOptions

def selectAccountsByOptions (options : SelectAccountsOptions)
    (getAllAccessibleAccounts : Except ErrCode (List AppAccountInfo)) : Outcome :=
  if !options.hasAccounts && !options.hasOwners && !options.hasLabels then .onResult none none
  else
    match getAllAccessibleAccounts with
    | .error errCode => .error errCode
    | .ok accessibleAccounts =>
        let candidateAccounts := accessibleAccounts.filter options.isCandidate
        if options.requiredLabels = [] then
          .onResult (some (candidateAccounts.map name)) (some (candidateAccounts.map owner))
        else .session candidateAccounts options.requiredLabels

variable {options : SelectAccountsOptions} {account : AppAccountInfo}

theorem isCandidate_iff (h : options.Separates account) :
    options.isCandidate account = true ↔ options.Allows account := by
  have hcandidate : options.isCandidate account = true ↔
      (options.hasOwners = true → account.owner ∈ options.allowedOwners) ∧
        (options.hasAccounts = true → account.owner ++ "_" ++ account.name ∈ options.allowedKeys) := by
    simp [SelectAccountsOptions.isCandidate, imp_iff_not_or]
  rw [hcandidate]
  refine and_congr_right fun _ => ⟨fun hkey haccounts => h haccounts (hkey haccounts),
    fun hpair haccounts => ?_⟩
  exact List.mem_map_of_mem (hpair haccounts)

/-- Without labels exactly the allowed accounts are reported, in their order, if no other account has the text of an
allowed pair; without any option nothing is. -/
theorem selectAccountsByOptions_allowed (hlabels : options.requiredLabels = [])
    (accessibleAccounts : List AppAccountInfo) :
    (options.hasAccounts = false ∧ options.hasOwners = false ∧ options.hasLabels = false →
      selectAccountsByOptions options (.ok accessibleAccounts) = .onResult none none) ∧
    (options.hasAccounts = true ∨ options.hasOwners = true ∨ options.hasLabels = true →
      (∀ account ∈ accessibleAccounts, options.Separates account) →
      selectAccountsByOptions options (.ok accessibleAccounts) =
        .onResult (some ((accessibleAccounts.filter fun account => options.Allows account).map name))
          (some ((accessibleAccounts.filter fun account => options.Allows account).map owner))) := by
  constructor
  · rintro ⟨haccounts, howners, hlabels⟩
    rw [selectAccountsByOptions, haccounts, howners, hlabels]
    rfl
  · intro hsome hseparates
    have hfilter : accessibleAccounts.filter options.isCandidate =
        accessibleAccounts.filter fun account => options.Allows account := by
      refine List.filter_congr fun account haccount => ?_
      rw [Bool.eq_iff_iff, decide_eq_true_iff]
      exact isCandidate_iff (hseparates account haccount)
    have hnone : (!options.hasAccounts && !options.hasOwners && !options.hasLabels) = false := by
      rcases hsome with h | h | h <;> simp [h]
    rw [selectAccountsByOptions, hnone, if_neg Bool.false_ne_true]
    dsimp only
    rw [if_pos hlabels, hfilter]

def alice : AppAccountInfo := { owner := "com.a", name := "b_alice" }

def onlyAlice : SelectAccountsOptions := { hasAccounts := true, allowedAccounts := [("com.a", "b_alice")] }

theorem selectAccountsByOptions_allowed_alice :
    selectAccountsByOptions onlyAlice (.ok [alice, { owner := "com.c", name := "b_alice" }]) =
      .onResult (some ["b_alice"]) (some ["com.a"]) := by
  refine ((selectAccountsByOptions_allowed rfl _).2 (.inl rfl) fun account haccount => ?_).trans ?_
  · intro _ hkey
    simp only [List.mem_cons, List.not_mem_nil, or_false] at haccount
    rcases haccount with rfl | rfl
    · decide
    · exact absurd hkey (by decide)
  · rfl

/-- Without any option an account is not reported, though nothing is asked of it. -/
theorem not_selectAccountsByOptions_noOption :
    ¬ ∀ (options : SelectAccountsOptions) (accessibleAccounts : List AppAccountInfo), options.requiredLabels = [] →
      selectAccountsByOptions options (.ok accessibleAccounts) =
        .onResult (some ((accessibleAccounts.filter fun account => options.Allows account).map name))
          (some ((accessibleAccounts.filter fun account => options.Allows account).map owner)) := by
  intro h
  have hreported := h {} [alice] rfl
  injection hreported with hnames _
  cases hnames

end OsAccount.AccountSelection
