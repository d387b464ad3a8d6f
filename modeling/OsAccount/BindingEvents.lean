import OsAccount.SubProfileBindings

namespace OsAccount.BindingEvents

open SubProfiles SubProfileAccounts SubProfileRecords SubProfileEffects
open SubProfileBindings (Bound)
open DistributedAccount
  (OhosAccountInfo OhosAccountState AccountInfo Request ohosAccountEventLogin ohosAccountEventLogout
  ohosAccountEventTokenInvalid ohosAccountEventLogoff checkSameDistributedAccount buildJsonFileFromScratch)

/-- The notifications on a binding alternate, and the last one says whether it is there. -/
structure Truthful (t : List SubscribeType) (bound : Prop) : Prop where
  first : ∀ e, t.head? = some e → e = .bound
  alternates : t.IsChain (· ≠ ·)
  last : t.getLast? = some .bound ↔ bound

section truthful

variable {t : List SubscribeType} {p q : Prop}

theorem truthful_nil (hp : ¬p) : Truthful [] p := by
  refine ⟨fun e he => ?_, .nil, fun h => ?_, fun h => (hp h).elim⟩
  · cases he
  · cases h

theorem Truthful.congr (h : Truthful t p) (hpq : p ↔ q) : Truthful t q := ⟨h.first, h.alternates, h.last.trans hpq⟩

theorem Truthful.quiet (h : Truthful t p) (hpq : p ↔ q) : Truthful (t ++ []) q := by
  rw [List.append_nil]
  exact h.congr hpq

theorem Truthful.bound (h : Truthful t p) (hp : ¬p) (hq : q) : Truthful (t ++ [.bound]) q := by
  refine ⟨fun e he => ?_, ?_, by simp [hq]⟩
  · cases t with
    | nil => exact (Option.some.inj he).symm
    | cons e' t => exact h.first e he
  · refine h.alternates.append (.singleton _) fun e he e' he' => ?_
    obtain rfl : .bound = e' := Option.some.inj he'
    rintro rfl
    exact hp (h.last.mp he)

theorem Truthful.unbound (h : Truthful t p) (hp : p) (hq : ¬q) : Truthful (t ++ [.unbound]) q := by
  have hlast := h.last.mpr hp
  refine ⟨fun e he => ?_, ?_, by simp [hq]⟩
  · cases t with
    | nil => cases hlast
    | cons e' t => exact h.first e he
  · refine h.alternates.append (.singleton _) fun e he e' he' => ?_
    obtain rfl : .unbound = e' := Option.some.inj he'
    rw [hlast] at he
    cases he
    decide

end truthful

section records

variable {R R' : Records} {T t : Trace} {a i : Int}

def IsBound (R : Records) (a i : Int) : Prop := ∃ x, R a i = some x ∧ Bound x

theorem isBound_of_eq {x : AccountInfo} (hx : R a i = some x) : IsBound R a i ↔ Bound x := by
  constructor
  · rintro ⟨y, hy, hbound⟩
    obtain rfl : x = y := Option.some.inj (hx.symm.trans hy)
    exact hbound
  · exact fun h => ⟨x, hx, h⟩

theorem not_isBound_of_none (hx : R a i = none) : ¬IsBound R a i := by
  rintro ⟨x, hx', -⟩
  rw [hx] at hx'
  cases hx'

theorem truthful_set (hT : ∀ b j, Truthful (T b j) (IsBound R b j)) (x : Option AccountInfo) {es : List SubscribeType}
    (h : Truthful (T a i ++ es) (∃ y, x = some y ∧ Bound y)) (b j : Int) :
    Truthful (T b j ++ if b = a ∧ j = i then es else []) (IsBound (R.set a i x) b j) := by
  unfold IsBound
  rw [records_set_apply]
  split
  · rename_i he
    obtain ⟨rfl, rfl⟩ := he
    exact h
  · exact (hT b j).quiet Iff.rfl

theorem cleanUp_bound {saves : Int → Int → Ret} {callingUid : Int} {localIds : List Int}
    (hc : CleanUp saves callingUid localIds R R' t) {x : AccountInfo} (hx : R' a i = some x) (hbound : Bound x) :
    R a i = some x := by
  induction hc with
  | refl => exact hx
  | clear hc hy hstatus hclear ih =>
      rw [records_set_apply] at hx
      split at hx
      · cases hx
        exact (hbound (congrArg OhosAccountInfo.status hclear)).elim
      · exact ih hx
  | falseAlarm hc ha hy hcallingUid hstatus hsave ih => exact ih hx

theorem truthful_cleanUp {saves : Int → Int → Ret} {callingUid : Int} {localIds : List Int}
    (hc : CleanUp saves callingUid localIds R R' t)
    (hsaved : ∀ a ∈ localIds, ∀ i x, R a i = some x → Bound x → x.ohosAccountInfo.callingUid = callingUid →
      saves a i = .ok ()) (hT : ∀ b j, Truthful (T b j) (IsBound R b j)) (b j : Int) :
    Truthful (T b j ++ t b j) (IsBound R' b j) := by
  induction hc generalizing b j with
  | refl => exact (hT b j).quiet Iff.rfl
  | @clear R' t a i x hc hx hstatus y hy ih =>
      have hclear : ¬∃ z, some y = some z ∧ Bound z := by
        rintro ⟨z, ⟨⟩, hz⟩
        exact hz (congrArg OhosAccountInfo.status hy)
      rw [← List.append_assoc]
      exact truthful_set (T := fun b j => T b j ++ t b j) ih (some y)
        ((ih a i).unbound ⟨x, hx, hstatus⟩ hclear) b j
  | @falseAlarm R' t a i x e hc ha hx hcallingUid hstatus hsave ih =>
      rw [hsaved a ha i x (cleanUp_bound hc hx hstatus) hstatus hcallingUid] at hsave
      cases hsave

/-- The save of every clean-up succeeds, and an OS account goes only when its headless
sub-profile is not bound. -/
def Told (R : Records) : Operation → Prop
  | .packageRemoved saves callingUid localIds => ∀ a ∈ localIds, ∀ i x, R a i = some x → Bound x →
      x.ohosAccountInfo.callingUid = callingUid → saves a i = .ok ()
  | .removeOsAccount a => ¬IsBound R a (base a)
  | _ => True

theorem truthful_effect {sha256 : Sha256} {op : Operation} (he : Effect sha256 R op R' t)
    (htold : Told R op) (hT : ∀ b j, Truthful (T b j) (IsBound R b j)) (b j : Int) :
    Truthful (T b j ++ t b j) (IsBound R' b j) := by
  have hnone : ¬∃ z : AccountInfo, none = some z ∧ Bound z := by
    rintro ⟨z, ⟨⟩, -⟩
  cases he with
  | keep => exact (hT b j).quiet Iff.rfl
  | @bind save a i r x y hx hstatus hfree hlength hevent hsave hy =>
      refine truthful_set hT (some y) ((hT a i).bound ?_ ⟨y, rfl, fun hs => ?_⟩) b j
      · rw [isBound_of_eq hx]
        exact fun h => h hstatus
      · rw [hy] at hs
        cases hs
  | @rebind op a i x y hx hstatus hstatus' hname huid =>
      have h := truthful_set hT (some y)
        ((hT a i).quiet (iff_of_true ⟨x, hx, hstatus⟩ ⟨y, rfl, hstatus'⟩)) b j
      rwa [ite_self] at h
  | @create op a i hx =>
      have hnew : ¬∃ z, some newAccount = some z ∧ Bound z := by
        rintro ⟨z, ⟨⟩, hz⟩
        exact hz rfl
      have h := truthful_set hT (some newAccount)
        ((hT a i).quiet (iff_of_false (not_isBound_of_none hx) hnew)) b j
      rwa [ite_self] at h
  | @delete op a i x hi hx =>
      by_cases hstatus : x.ohosAccountInfo.status = .unbound
      · have hunbound : ¬IsBound R a i := by
          rw [isBound_of_eq hx]
          exact fun h => h hstatus
        have h := truthful_set hT none ((hT a i).quiet (iff_of_false hunbound hnone)) b j
        rw [ite_self] at h
        rwa [if_neg (not_not.2 hstatus)]
      · rw [if_pos hstatus]
        exact truthful_set hT none ((hT a i).unbound ⟨x, hx, hstatus⟩ hnone) b j
  | @removeOsAccount a t ht hother =>
      by_cases hb : b = a
      · subst hb
        have hgone : ¬IsBound (fun b' j => if b' = b then
          (if j = base b then some buildJsonFileFromScratch else none)
            else R b' j) b j := by
          rintro ⟨z, hz, hbound⟩
          dsimp only at hz
          rw [if_pos rfl] at hz
          split at hz
          · cases hz
            exact hbound rfl
          · cases hz
        rw [ht]
        by_cases hbound : IsBound R b j
        · have hj : j ≠ base b := by
            rintro rfl
            exact htold hbound
          obtain ⟨x, hx, hstatus⟩ := hbound
          rw [if_pos ⟨hj, by rw [hx]; simpa [Bound] using hstatus⟩]
          exact (hT b j).unbound ⟨x, hx, hstatus⟩ hgone
        · rw [if_neg]
          · exact (hT b j).quiet (iff_of_false hbound hgone)
          · rintro ⟨-, h⟩
            rw [Option.any_eq_true] at h
            obtain ⟨x, hx, hstatus⟩ := h
            exact hbound ⟨x, hx, by simpa [Bound] using hstatus⟩
      · rw [hother b j hb]
        refine (hT b j).quiet ?_
        unfold IsBound
        dsimp only
        rw [if_neg hb]
  | packageRemoved hc => exact truthful_cleanUp hc htold hT b j

end records

section subProfiles

open SubProfileGarbage (two)

variable (max : MaxCount) (sha256 : Sha256)

def observe (h : State × Trace) (op : Operation) : State × Trace :=
  let r := perform max sha256 h.1 op
  (r.1, fun a i => h.2 a i ++ trace r.2 a i)

structure Inv (h : State × Trace) : Prop where
  sound : Sound max h.1.disk
  regular : AllRegular (records h.1)
  truthful : ∀ a i, Truthful (h.2 a i) (IsBound (records h.1) a i)

variable {max sha256}

theorem inv_initial : Inv max (initial, quiet) := by
  refine ⟨sound_nothing max, fun a i x hx => ?_, fun a i => truthful_nil ?_⟩
  · obtain rfl := eq_accounts_of_records hx
    exact regular_scratch
  · rintro ⟨x, hx, hbound⟩
    obtain rfl := eq_accounts_of_records hx
    exact hbound rfl

theorem inv_observe (h : State × Trace) (op : Operation) (hinv : Inv max h) (hop : Told (records h.1) op) :
    Inv max (observe max sha256 h op) := by
  obtain ⟨heffect, hsound⟩ := acts_perform sha256 hinv.sound hinv.regular op
  exact ⟨hsound, allRegular_effect heffect hinv.regular, truthful_effect heffect hop hinv.truthful⟩

end subProfiles

section plain

/-- What a call without sub-profiles answers, the record after it, and what is
published for the OS account. -/
structure Answer where
  ret : Ret
  account : AccountInfo
  published : List SubscribeType

def publishLoginEvents (originalStatus : OhosAccountState) : List SubscribeType :=
  (if originalStatus = .unbound then [.bound] else []) ++ [.login]

def saveAndPublish (save : Ret) (curr : AccountInfo) (published : List SubscribeType) : Ret × AccountInfo → Answer
  | (.error e, _) => ⟨.error e, curr, []⟩
  | (.ok (), account) =>
      match save with
      | .error _ => ⟨.error .zidlAccountServiceError, curr, []⟩
      | .ok () => ⟨.ok (), account, published⟩

section handlers

variable (sha256 : Sha256) (save : Ret) (curr : AccountInfo) (r : Request)

def loginOhosAccount : Answer :=
  saveAndPublish save curr (publishLoginEvents curr.ohosAccountInfo.status)
    (DistributedAccount.loginOhosAccount sha256 curr r)

def logoutOhosAccount : Answer :=
  saveAndPublish save curr [.logout, .unbound] (DistributedAccount.logoutOhosAccount sha256 curr r)

def logoffOhosAccount : Answer :=
  saveAndPublish save curr [.logoff, .unbound] (DistributedAccount.logoffOhosAccount sha256 curr r)

def handleOhosAccountTokenInvalidEvent : Answer :=
  match DistributedAccount.handleOhosAccountTokenInvalidEvent sha256 curr r with
  | (.error e, _) => ⟨.error e, curr, []⟩
  | (.ok (), account) =>
      ⟨.ok (), match save with
        | .ok () => account
        | .error _ => curr, [.tokenInvalid]⟩

def procDistributedAccountStateChange : Answer :=
  if r.eventStr = ohosAccountEventLogin then loginOhosAccount sha256 save curr r
  else if r.eventStr = ohosAccountEventLogout then logoutOhosAccount sha256 save curr r
  else if r.eventStr = ohosAccountEventLogoff then logoffOhosAccount sha256 save curr r
  else if r.eventStr = ohosAccountEventTokenInvalid then handleOhosAccountTokenInvalidEvent sha256 save curr r
  else ⟨.error .invalidParameter, curr, []⟩

def clearMainAccountIfMatch (bundleUid : Int) : AccountInfo × List SubscribeType :=
  if curr.ohosAccountInfo.callingUid ≠ bundleUid ∨ curr.ohosAccountInfo.status = .unbound then (curr, [])
  else
    (match save with
      | .ok () => curr.clear
      | .error _ => curr, [.logout, .unbound])

def sendLogoutEventOnDelOsAccount : List SubscribeType :=
  if curr.ohosAccountInfo.status = .unbound then []
  else (if curr.ohosAccountInfo.status = .login then [.logout] else []) ++ [.unbound]

end handlers

/-- The records of the OS accounts, and what the subscribers have been told about the
bindings. -/
structure History where
  accounts : Int → AccountInfo
  told : Int → List SubscribeType

def isBinding (type : SubscribeType) : Bool := type = .bound ∨ type = .unbound

def History.record (h : History) (localId : Int) (account : AccountInfo) (published : List SubscribeType) : History where
  accounts := Function.update h.accounts localId account
  told := Function.update h.told localId (h.told localId ++ published.filter isBinding)

inductive PlainOperation
  | stateChange (save : Ret) (userId : Int) (r : Request)
  | packageRemoved (saves : Int → Ret) (callingUid : Int) (localIds : List Int)
  | removeOsAccount (localId : Int)

def clearIfMatch (saves : Int → Ret) (callingUid : Int) (h : History) (localId : Int) : History :=
  let r := clearMainAccountIfMatch (saves localId) (h.accounts localId) callingUid
  h.record localId r.1 r.2

def onPackageRemoved (saves : Int → Ret) (callingUid : Int) (localIds : List Int) (h : History) : History :=
  localIds.foldl (clearIfMatch saves callingUid) h

def plainStep (sha256 : Sha256) (h : History) : PlainOperation → History
  | .stateChange save userId r =>
      let answer := procDistributedAccountStateChange sha256 save (h.accounts userId) r
      h.record userId answer.account answer.published
  | .packageRemoved saves callingUid localIds => onPackageRemoved saves callingUid localIds h
  | .removeOsAccount localId =>
      h.record localId buildJsonFileFromScratch (sendLogoutEventOnDelOsAccount (h.accounts localId))

def plainInitial : History := ⟨fun _ => buildJsonFileFromScratch, fun _ => []⟩

def PlainTold (h : History) : PlainOperation → Prop
  | .packageRemoved saves callingUid localIds => ∀ a ∈ localIds, Bound (h.accounts a) →
      (h.accounts a).ohosAccountInfo.callingUid = callingUid → saves a = .ok ()
  | _ => True

structure PlainInv (sha256 : Sha256) (curr : AccountInfo) (told : List SubscribeType) : Prop where
  inv : DistributedAccount.Inv sha256 curr
  truthful : Truthful told (Bound curr)

variable {sha256 : Sha256} {save : Ret} {curr account : AccountInfo} {r : Request}
  {published told : List SubscribeType}

theorem PlainInv.quiet (h : PlainInv sha256 curr told) (hinv : DistributedAccount.Inv sha256 account)
    (hbound : Bound curr ↔ Bound account) : PlainInv sha256 account (told ++ []) := ⟨hinv, h.truthful.quiet hbound⟩

theorem PlainInv.unbound (h : PlainInv sha256 curr told) (hbound : Bound curr)
    (hunbound : DistributedAccount.Unbound account) : PlainInv sha256 account (told ++ [.unbound]) :=
  ⟨.inl hunbound, h.truthful.unbound hbound fun h => h hunbound.status⟩

theorem PlainInv.bound (h : PlainInv sha256 curr told) {info : OhosAccountInfo}
    (hsame : checkSameDistributedAccount sha256 curr.ohosAccountInfo info = true) :
    DistributedAccount.Bound sha256 curr := by
  refine h.inv.resolve_left fun hunbound => ?_
  rw [DistributedAccount.not_checkSame_of_unbound hunbound] at hsame
  cases hsame

theorem plainInv_saveAndPublish (h : PlainInv sha256 curr told) (save : Ret) {result : Ret × AccountInfo}
    (hresult : ∀ account, result = (.ok (), account) →
      PlainInv sha256 account (told ++ published.filter isBinding)) :
    let answer := saveAndPublish save curr published result
    PlainInv sha256 answer.account (told ++ answer.published.filter isBinding) := by
  have hkeep : PlainInv sha256 curr (told ++ []) := h.quiet h.inv Iff.rfl
  obtain ⟨ret, account⟩ := result
  cases ret with
  | error e => exact hkeep
  | ok u =>
      cases save with
      | error e => exact hkeep
      | ok u => exact hresult account rfl

theorem plainInv_login (h : PlainInv sha256 curr told) (hevent : r.eventStr = ohosAccountEventLogin)
    (hlogin : DistributedAccount.loginOhosAccount sha256 curr r = (.ok (), account)) :
    PlainInv sha256 account (told ++ (publishLoginEvents curr.ohosAccountInfo.status).filter isBinding) := by
  have hinv := DistributedAccount.inv_step sha256 curr r h.inv
  rw [DistributedAccount.step, DistributedAccount.procDistributedAccountStateChange,
    if_pos hevent, hlogin] at hinv
  have hbound : Bound account := by
    unfold DistributedAccount.loginOhosAccount at hlogin
    dsimp only at hlogin
    split at hlogin
    · cases hlogin
    split at hlogin
    · cases hlogin
    · cases hlogin
      intro hstatus
      cases hstatus
  by_cases hstatus : curr.ohosAccountInfo.status = .unbound
  · have hpublished : (publishLoginEvents curr.ohosAccountInfo.status).filter isBinding = [.bound] := by
      rw [hstatus]
      rfl
    rw [hpublished]
    exact ⟨hinv, h.truthful.bound (fun hcurr => hcurr hstatus) hbound⟩
  · have hpublished : (publishLoginEvents curr.ohosAccountInfo.status).filter isBinding = [] := by
      rw [publishLoginEvents, if_neg hstatus]
      rfl
    rw [hpublished]
    exact h.quiet hinv (iff_of_true hstatus hbound)

theorem plainInv_release (h : PlainInv sha256 curr told)
    (hevent : r.eventStr = ohosAccountEventLogout ∨ r.eventStr = ohosAccountEventLogoff)
    (hrelease : DistributedAccount.releaseOhosAccount sha256 curr r = (.ok (), account)) :
    PlainInv sha256 account (told ++ [.unbound]) := by
  have hclear : account = curr.clear := by
    have hout : DistributedAccount.Outcome sha256 curr r
        (DistributedAccount.releaseOhosAccount sha256 curr r) :=
      DistributedAccount.outcome_release sha256 hevent
    rw [hrelease] at hout
    cases hout with
    | login hevent' hcan =>
        rw [hevent'] at hevent
        exact absurd hevent (by decide)
    | released hevent => rfl
    | tokenInvalid hevent' hsame next hnext =>
        rw [hevent'] at hevent
        exact absurd hevent (by decide)
  subst hclear
  unfold DistributedAccount.releaseOhosAccount at hrelease
  split at hrelease
  · cases hrelease
  · rename_i hsame
    rw [Bool.not_eq_true', Bool.not_eq_false] at hsame
    exact h.unbound (h.bound hsame).status_ne_unbound (DistributedAccount.unbound_clear curr)

theorem plainInv_tokenInvalid (h : PlainInv sha256 curr told) (save : Ret)
    (hevent : r.eventStr = ohosAccountEventTokenInvalid) :
    let answer := handleOhosAccountTokenInvalidEvent sha256 save curr r
    PlainInv sha256 answer.account (told ++ answer.published.filter isBinding) := by
  have hkeep : PlainInv sha256 curr (told ++ []) := h.quiet h.inv Iff.rfl
  have hinv := DistributedAccount.inv_step sha256 curr r h.inv
  have hproc : DistributedAccount.procDistributedAccountStateChange sha256 curr r =
      DistributedAccount.handleOhosAccountTokenInvalidEvent sha256 curr r := by
    unfold DistributedAccount.procDistributedAccountStateChange
    rw [hevent, if_neg (by decide), if_neg (by decide), if_neg (by decide), if_pos rfl]
  have hout := DistributedAccount.outcome sha256 curr r
  rw [DistributedAccount.step, hproc] at hinv
  rw [hproc] at hout
  unfold handleOhosAccountTokenInvalidEvent
  generalize DistributedAccount.handleOhosAccountTokenInvalidEvent sha256 curr r = result at hinv hout
  cases hout with
  | refused e => exact hkeep
  | login hevent' hcan =>
      rw [hevent] at hevent'
      exact absurd hevent' (by decide)
  | released hevent' =>
      rw [hevent] at hevent'
      exact absurd hevent' (by decide)
  | tokenInvalid hevent' hsame next hnext =>
      have hbound := h.bound hsame
      have hnext' : next ≠ .unbound := by
        rcases hbound.status with hs | hs <;> rw [hs] at hnext <;> cases hnext <;> decide
      cases save with
      | ok u => exact h.quiet hinv (iff_of_true hbound.status_ne_unbound hnext')
      | error e => exact hkeep

theorem plainInv_stateChange (h : PlainInv sha256 curr told) (save : Ret) (r : Request) :
    let answer := procDistributedAccountStateChange sha256 save curr r
    PlainInv sha256 answer.account (told ++ answer.published.filter isBinding) := by
  dsimp only
  unfold procDistributedAccountStateChange
  split
  · rename_i hevent
    exact plainInv_saveAndPublish h save fun account hlogin => plainInv_login h hevent hlogin
  split
  · rename_i hevent
    exact plainInv_saveAndPublish h save fun account hrelease => plainInv_release h (.inl hevent) hrelease
  split
  · rename_i hevent
    exact plainInv_saveAndPublish h save fun account hrelease => plainInv_release h (.inr hevent) hrelease
  split
  · rename_i hevent
    exact plainInv_tokenInvalid h save hevent
  · exact h.quiet h.inv Iff.rfl

theorem plainInv_clear (h : PlainInv sha256 curr told) {bundleUid : Int}
    (hsave : Bound curr → curr.ohosAccountInfo.callingUid = bundleUid → save = .ok ()) :
    let r := clearMainAccountIfMatch save curr bundleUid
    PlainInv sha256 r.1 (told ++ r.2.filter isBinding) := by
  dsimp only
  unfold clearMainAccountIfMatch
  split
  · exact h.quiet h.inv Iff.rfl
  · rename_i hmatch
    rw [not_or, not_not] at hmatch
    rw [hsave hmatch.2 hmatch.1]
    exact h.unbound hmatch.2 (DistributedAccount.unbound_clear curr)

theorem plainInv_remove (h : PlainInv sha256 curr told) :
    PlainInv sha256 buildJsonFileFromScratch (told ++ (sendLogoutEventOnDelOsAccount curr).filter isBinding) := by
  have hinv := DistributedAccount.inv_initial sha256
  unfold sendLogoutEventOnDelOsAccount
  split
  · rename_i hstatus
    exact h.quiet hinv (iff_of_false (fun hcurr => hcurr hstatus) fun hscratch => hscratch rfl)
  · rename_i hstatus
    have hpublished : ((if curr.ohosAccountInfo.status = .login then [SubscribeType.logout] else []) ++
        [SubscribeType.unbound]).filter isBinding = [.unbound] := by
      split
      · rfl
      · rfl
    rw [hpublished]
    exact ⟨hinv, h.truthful.unbound hstatus fun hscratch => hscratch rfl⟩

def History.Inv (sha256 : Sha256) (h : History) : Prop :=
  ∀ a, PlainInv sha256 (h.accounts a) (h.told a)

theorem History.Inv.record {h : History} (hinv : h.Inv sha256) {a : Int}
    (ha : PlainInv sha256 account (h.told a ++ published.filter isBinding)) :
    (h.record a account published).Inv sha256 := by
  intro b
  unfold History.record
  by_cases hb : b = a
  · subst hb
    simpa using ha
  · simpa [hb] using hinv b

theorem inv_clearIfMatch {h : History} (hinv : h.Inv sha256) {saves : Int → Ret} {callingUid a : Int}
    (hsave : Bound (h.accounts a) → (h.accounts a).ohosAccountInfo.callingUid = callingUid → saves a = .ok ()) :
    (clearIfMatch saves callingUid h a).Inv sha256 :=
  hinv.record (plainInv_clear (hinv a) hsave)

theorem accounts_clearIfMatch (saves : Int → Ret) (callingUid : Int) (h : History) (a b : Int)
    (hbound : Bound ((clearIfMatch saves callingUid h a).accounts b)) :
    (clearIfMatch saves callingUid h a).accounts b = h.accounts b := by
  unfold clearIfMatch History.record at hbound ⊢
  dsimp only at hbound ⊢
  by_cases hb : b = a
  · subst hb
    rw [Function.update_self] at hbound ⊢
    unfold clearMainAccountIfMatch at hbound ⊢
    split
    · rfl
    · rename_i hmatch
      rw [if_neg hmatch] at hbound
      cases hsave : saves b with
      | ok u =>
          rw [hsave] at hbound
          exact (hbound rfl).elim
      | error e => rfl
  · exact Function.update_of_ne hb _ _

theorem inv_onPackageRemoved {saves : Int → Ret} {callingUid : Int} {localIds : List Int} {h : History}
    (hinv : h.Inv sha256) (hsave : ∀ a ∈ localIds, Bound (h.accounts a) →
      (h.accounts a).ohosAccountInfo.callingUid = callingUid → saves a = .ok ()) :
    (onPackageRemoved saves callingUid localIds h).Inv sha256 := by
  induction localIds generalizing h with
  | nil => exact hinv
  | cons a localIds ih =>
      have ha := hsave a List.mem_cons_self
      refine ih (inv_clearIfMatch hinv ha) fun b hb hbound => ?_
      have hsame := accounts_clearIfMatch saves callingUid h a b hbound
      rw [hsame] at hbound ⊢
      exact hsave b (List.mem_cons_of_mem a hb) hbound

theorem inv_plainStep (h : History) (op : PlainOperation) (hinv : h.Inv sha256) (hop : PlainTold h op) :
    (plainStep sha256 h op).Inv sha256 := by
  cases op with
  | stateChange save userId r => exact hinv.record (plainInv_stateChange (hinv userId) save r)
  | packageRemoved saves callingUid localIds => exact inv_onPackageRemoved hinv hop
  | removeOsAccount localId => exact hinv.record (plainInv_remove (hinv localId))

theorem inv_plainInitial : plainInitial.Inv sha256 := by
  intro a
  exact ⟨DistributedAccount.inv_initial sha256, truthful_nil fun h => h rfl⟩

end plain

section runs

open SubProfileGarbage (two)

/-- Whatever other saves fail, the binding events tell the truth if those of the clean-ups
succeed, and no OS account goes with a headless sub-profile that is bound. -/
theorem truthful_run (max : MaxCount) (sha256 : Sha256) :
    (∀ ops, Machine.Meets (observe max sha256) (fun h op => Told (records h.1) op) (initial, quiet) ops →
      ∀ a i, Truthful ((Machine.run (observe max sha256) (initial, quiet) ops).2 a i)
        (IsBound (records (Machine.run (observe max sha256) (initial, quiet) ops).1) a i)) ∧
    (∀ ops, Machine.Meets (plainStep sha256) PlainTold plainInitial ops →
      ∀ a, Truthful ((Machine.run (plainStep sha256) plainInitial ops).told a)
        (Bound ((Machine.run (plainStep sha256) plainInitial ops).accounts a))) := by
  constructor
  · intro ops hops
    exact (Machine.run_invariant_of_meets inv_observe inv_initial hops).truthful
  · intro ops hops a
    exact (Machine.run_invariant_of_meets inv_plainStep inv_plainInitial hops a).truthful

def mailLogin : Request := ⟨{ name := "mail", uid := "5A" }, ohosAccountEventLogin, 0, 3301⟩

def zeros (_ : String) : Vector UInt8 32 := Vector.replicate 32 0

def uninstalled (save : Ret) : List Operation :=
  [.login (.ok ()) 100 100000 mailLogin, .packageRemoved (fun _ _ => save) 3301 [100]]

def plainUninstalled (save : Ret) : List PlainOperation :=
  [.stateChange (.ok ()) 100 mailLogin, .packageRemoved (fun _ => save) 3301 [100]]

theorem truthful_run_uninstalled :
    Truthful ((Machine.run (observe two zeros) (initial, quiet) (uninstalled (.ok ()))).2 100 100000)
      (IsBound (records (Machine.run (observe two zeros) (initial, quiet) (uninstalled (.ok ()))).1) 100 100000) ∧
    Truthful ((Machine.run (plainStep zeros) plainInitial (plainUninstalled (.ok ()))).told 100)
      (Bound ((Machine.run (plainStep zeros) plainInitial (plainUninstalled (.ok ()))).accounts 100)) :=
  ⟨(truthful_run two zeros).1 (uninstalled (.ok ())) ⟨trivial, fun _ _ _ _ _ _ _ => rfl, trivial⟩ 100 100000,
    (truthful_run two zeros).2 (plainUninstalled (.ok ())) ⟨trivial, fun _ _ _ _ => rfl, trivial⟩ 100⟩

/-- An uninstall whose save fails, and the removal of an OS account with a headless
sub-profile that is bound. -/
theorem not_truthful_uninstalled :
    ¬Truthful ((Machine.run (observe two zeros) (initial, quiet) (uninstalled (.error .fileWriteFailed))).2 100 100000)
      (IsBound (records (Machine.run (observe two zeros) (initial, quiet) (uninstalled (.error .fileWriteFailed))).1)
        100 100000) ∧
    ¬Truthful ((Machine.run (plainStep zeros) plainInitial (plainUninstalled (.error .fileWriteFailed))).told 100)
      (Bound ((Machine.run (plainStep zeros) plainInitial (plainUninstalled (.error .fileWriteFailed))).accounts 100)) ∧
    ¬Truthful ((Machine.run (observe two zeros) (initial, quiet)
        [.login (.ok ()) 100 100000 mailLogin, .removeOsAccount 100]).2 100 100000)
      (IsBound (records (Machine.run (observe two zeros) (initial, quiet)
        [.login (.ok ()) 100 100000 mailLogin, .removeOsAccount 100]).1) 100 100000) := by
  refine ⟨fun h => ?_, fun h => ?_, fun h => ?_⟩
  · have hlast := h.last.mpr ⟨_, rfl, by unfold Bound; decide +kernel⟩
    revert hlast
    decide +kernel
  · have hlast := h.last.mpr (by unfold Bound; decide +kernel)
    revert hlast
    decide +kernel
  · obtain ⟨x, hx, hbound⟩ := h.last.mp (by decide +kernel)
    obtain rfl := eq_accounts_of_records hx
    revert hbound
    unfold Bound
    decide +kernel

end runs

end OsAccount.BindingEvents
