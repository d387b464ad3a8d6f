import OsAccount.Machine
import OsAccount.SubProfileEffects

namespace OsAccount.SubProfileBindings

open CText SubProfiles SubProfileAccounts SubProfileRecords SubProfileEffects
open DistributedAccount (OhosAccountInfo OhosAccountState AccountInfo Request ohosAccountEventLogin ohosAccountUdidLength
  generateOhosUdidWithSha256 checkSameDistributedAccount updateOhosAccountInfo saveOhosAccountInfo
    buildJsonFileFromScratch)

def Bound (x : AccountInfo) : Prop := x.ohosAccountInfo.status ≠ .unbound

def SameAccount (x y : AccountInfo) : Prop :=
  x.ohosAccountInfo.name = y.ohosAccountInfo.name ∧ x.ohosAccountInfo.uid = y.ohosAccountInfo.uid

/-- The record is that of the account that a request names, with the name that a login
leaves in it. -/
def Has (sha256 : Sha256) (x : AccountInfo) (r : Request) : Prop :=
  x.ohosAccountInfo.name = cStr r.ohosAccountInfo.name ∧
    x.ohosAccountInfo.uid = generateOhosUdidWithSha256 sha256 r.ohosAccountInfo.name r.ohosAccountInfo.uid

def Unique (R : Records) : Prop :=
  ∀ a i j x y, i ≠ j → R a i = some x → R a j = some y → Bound x → Bound y → ¬SameAccount x y

section records

variable {R R' : Records} {a i : Int} {y : AccountInfo}

theorem SameAccount.symm {x y : AccountInfo} (h : SameAccount x y) : SameAccount y x := ⟨h.1.symm, h.2.symm⟩

theorem Unique.set (h : Unique R) (x : Option AccountInfo)
    (hfree : ∀ y, x = some y → Bound y → ∀ j z, j ≠ i → R a j = some z → Bound z → ¬SameAccount y z) :
    Unique (R.set a i x) := by
  intro b j k u v hjk hu hv hbu hbv hsame
  rw [records_set_apply] at hu hv
  split at hu
  · rename_i hj
    obtain ⟨rfl, rfl⟩ := hj
    split at hv
    · rename_i hk
      exact hjk hk.2.symm
    · exact hfree u hu hbu k v (Ne.symm hjk) hv hbv hsame
  · split at hv
    · rename_i hk
      obtain ⟨rfl, rfl⟩ := hk
      exact hfree v hv hbv j u hjk hu hbu hsame.symm
    · exact h b j k u v hjk hu hv hbu hbv hsame

theorem unique_cleanUp {saves : Int → Int → Ret} {callingUid : Int} {localIds : List Int} {t : Trace}
    (hc : CleanUp saves callingUid localIds R R' t) (h : Unique R) : Unique R' := by
  induction hc with
  | refl => exact h
  | clear hc hx hstatus hy ih =>
      refine ih.set _ ?_
      rintro z ⟨⟩ hz
      exact (hz (congrArg OhosAccountInfo.status hy)).elim
  | falseAlarm hc ha hx hcallingUid hstatus hsave ih => exact ih

/-- Only a login can bind an account a second time: to that of the headless sub-profile,
or to one that it names with more than the record can hold. -/
theorem unique_effect {sha256 : Sha256} {op : Operation} {t : Trace}
    (he : Effect sha256 R op R' t) (h : Unique R)
    (hlogin : ∀ save a i r, op = .login save a i r → save = .ok () →
      (∃ x, R a i = some x ∧ x.ohosAccountInfo.status = .unbound) → (checkEventValid r.eventStr).isSome = true →
      ∀ j z, j ≠ i → R a j = some z → Bound z → Has sha256 z r → j ≠ base a ∧ NoNul r.ohosAccountInfo.name) :
    Unique R' := by
  cases he with
  | keep => exact h
  | @bind save a i r x y hx hstatus hfree hlength hevent hsave hy =>
      refine h.set _ ?_
      rintro z ⟨⟩ - j w hji hw hbound ⟨hname, huid⟩
      rw [hy] at hname huid
      have hhas : Has sha256 w r := ⟨hname.symm, huid.symm.trans (DistributedAccount.bound_login hlength).2⟩
      obtain ⟨hj, hnul⟩ := hlogin save a i r rfl hsave ⟨x, hx, hstatus⟩ hevent j w hji hw hbound hhas
      have hsame : checkSameDistributedAccount sha256 w.ohosAccountInfo r.ohosAccountInfo = true :=
        checkSame_iff.mpr ⟨hnul.cStr.symm.trans hhas.1.symm, hhas.2.symm⟩
      exact Bool.false_ne_true ((hfree j w hj hji hw).symm.trans hsame)
  | rebind hx hstatus hstatus' hname huid =>
      refine h.set _ ?_
      rintro z ⟨⟩ - j w hji hw hbound ⟨hname', huid'⟩
      exact h _ _ j _ w (Ne.symm hji) hx hw hstatus hbound ⟨hname.symm.trans hname', huid.symm.trans huid'⟩
  | create hx =>
      refine h.set _ ?_
      rintro z ⟨⟩ hbound
      exact (hbound rfl).elim
  | delete hi hx =>
      refine h.set _ ?_
      rintro z ⟨⟩
  | removeOsAccount ht hother =>
      intro b j k u v hjk hu hv hbu hbv hsame
      dsimp only at hu hv
      split at hu
      · split at hu
        · cases hu
          exact hbu rfl
        · cases hu
      · rename_i hb
        rw [if_neg hb] at hv
        exact h b j k u v hjk hu hv hbu hbv hsame
  | packageRemoved hc => exact unique_cleanUp hc h

end records

section runs

open SubProfileGarbage (two)

variable (max : MaxCount) (sha256 : Sha256)

def step (s : State) (op : Operation) : State := (perform max sha256 s op).1

def Valid (s : State) (a i : Int) : Prop := i = base a ∨ isValidSubProfileExists s.disk a i = true

/-- No two valid sub-profiles of an OS account are in a status other than unbound with
the same name and uid. -/
def OneBinding (s : State) : Prop :=
  ∀ a i j, i ≠ j → Valid s a i → Valid s a j → Bound (s.accounts a i) → Bound (s.accounts a j) →
    ¬SameAccount (s.accounts a i) (s.accounts a j)

/-- The login of a sub-profile that is not bound, into the account that another one has
and that the check does not find: the other one is the headless sub-profile, or the name
goes on after a NUL. -/
def ReachesBound (s : State) : Operation → Prop
  | .login save a i r =>
      save = .ok () ∧ Valid s a i ∧ (s.accounts a i).ohosAccountInfo.status = .unbound ∧
        (checkEventValid r.eventStr).isSome = true ∧
        ∃ j, j ≠ i ∧ Valid s a j ∧ Bound (s.accounts a j) ∧ Has sha256 (s.accounts a j) r ∧
          (j = base a ∨ ¬NoNul r.ohosAccountInfo.name)
  | _ => False

structure Inv (s : State) : Prop where
  sound : Sound max s.disk
  regular : AllRegular (records s)
  unique : Unique (records s)

variable {max sha256} {s : State}

theorem valid_iff (h : Sound max s.disk) (a i : Int) : Valid s a i ↔ records s a i = some (s.accounts a i) := by
  unfold Valid records
  by_cases hi : i = base a
  · simp [hi]
  · rw [if_neg hi, or_iff_right hi, isValidSubProfileExists]
    cases hload : loadSubProfileInfo s.disk a i with
    | none => simp
    | some info =>
        obtain ⟨-, hcomplete, hremoved⟩ := h.valid a i info hload
        simp [hcomplete, hremoved]

theorem oneBinding_iff_unique (h : Sound max s.disk) : OneBinding s ↔ Unique (records s) := by
  constructor
  · intro hone a i j x y hij hx hy hbx hby hsame
    obtain rfl := eq_accounts_of_records hx
    obtain rfl := eq_accounts_of_records hy
    exact hone a i j hij ((valid_iff h a i).2 hx) ((valid_iff h a j).2 hy) hbx hby hsame
  · intro hunique a i j hij hi hj
    exact hunique a i j _ _ hij ((valid_iff h a i).1 hi) ((valid_iff h a j).1 hj)

theorem inv_initial (max : MaxCount) : Inv max initial := by
  refine ⟨sound_nothing max, fun a i x hx => ?_, fun a i j x y _ hx _ hbx => ?_⟩
  · obtain rfl := eq_accounts_of_records hx
    exact regular_scratch
  · obtain rfl := eq_accounts_of_records hx
    exact (hbx rfl).elim

theorem inv_step (h : Inv max s) {op : Operation} (hop : ¬ReachesBound sha256 s op) :
    Inv max (step max sha256 s op) := by
  obtain ⟨heffect, hsound⟩ := acts_perform sha256 h.sound h.regular op
  refine ⟨hsound, allRegular_effect heffect h.regular, unique_effect heffect h.unique ?_⟩
  rintro save a i r rfl hsave ⟨x, hx, hstatus⟩ hevent j z hji hz hbound hhas
  obtain rfl := eq_accounts_of_records hx
  obtain rfl := eq_accounts_of_records hz
  rw [← not_not (a := NoNul r.ohosAccountInfo.name), ← not_or]
  exact fun hor => hop ⟨hsave, (valid_iff h.sound a i).2 hx, hstatus, hevent, j, hji, (valid_iff h.sound a j).2 hz,
    hbound, hhas, hor⟩

theorem verify_reaches (h : Inv max s) {a i j : Int} {r : Request}
    (hstatus : (s.accounts a i).ohosAccountInfo.status = .unbound)
    (hj : Valid s a j) (hbound : Bound (s.accounts a j)) (hhas : Has sha256 (s.accounts a j) r)
    (hor : j = base a ∨ ¬NoNul r.ohosAccountInfo.name) :
    verifySpaceAccountBinding sha256 s a i r.ohosAccountInfo ⟨a, i, s.accounts a i⟩ = .ok () := by
  unfold verifySpaceAccountBinding
  dsimp only
  rw [if_neg (not_not.2 hstatus),
    verifyOthers_eq_ok_iff h.sound _ fun k hk => ((mem_scan_iff h.sound).1 hk).2]
  intro k hk _ z hz
  rw [← Bool.not_eq_true]
  intro hsame
  obtain ⟨hname, huid⟩ := checkSame_iff.mp hsame
  have hregular := h.regular a k z hz
  have hnul : NoNul r.ohosAccountInfo.name := hname ▸ hregular.name
  obtain rfl := hor.resolve_right (not_not.2 hnul)
  refine h.unique a k (base a) z _ ((mem_scan_iff h.sound).1 hk).1 hz ((valid_iff h.sound a (base a)).1 hj)
    (bound_of_checkSame hregular hsame) hbound ⟨?_, huid.symm.trans hhas.2.symm⟩
  rw [hhas.1, hnul.cStr, hname]

theorem login_reaches (h : Inv max s) {save : Ret} {a i : Int} {r : Request}
    (hop : ReachesBound sha256 s (.login save a i r)) : ∃ y, y.ohosAccountInfo.status = .login ∧ Has sha256 y r ∧
    step max sha256 s (.login save a i r) = s.setAccount a i y := by
  obtain ⟨hsave, hvalid, hstatus, hevent, j, -, hj, hbound, hhas, hor⟩ := hop
  have hx := (valid_iff h.sound a i).1 hvalid
  have hlength := (h.regular a j _ ((valid_iff h.sound a j).1 hj)).bound hbound
  rw [hhas.2] at hlength
  have hverify := verify_reaches h hstatus hj hbound hhas hor
  obtain ⟨changed, hchanged, hu, hs⟩ := handleSpaceStateChange_unbound ⟨a, i, s.accounts a i⟩ hstatus hevent
  subst hsave
  change ∃ y, _ ∧ _ ∧ (loginOhosAccountSpace sha256 (.ok ()) a i r s).state = _
  unfold loginOhosAccountSpace
  rw [getDistributedAccountSpaceInfo_eq h.sound, hx]
  dsimp only
  rw [if_neg (not_not.2 hlength), hverify]
  dsimp only
  rw [hchanged]
  dsimp only
  rw [hu, hs]
  rcases setDistributedAccountSpaceInfo_effect hx (.ok ()) (updateOhosAccountInfo r
    (generateOhosUdidWithSha256 sha256 r.ohosAccountInfo.name r.ohosAccountInfo.uid)) with
    ⟨e, -, herror⟩ | ⟨y, hy, -, hset, -⟩
  · cases herror
  · rw [hset]
    refine ⟨y, ?_, ⟨?_, ?_⟩, rfl⟩
    · rw [hy]
      rfl
    · rw [hy]
      rfl
    · rw [hy]
      exact (DistributedAccount.bound_login hlength).2

theorem not_reachesBound (h : Inv max s) {op : Operation} (hone : OneBinding (step max sha256 s op)) :
    ¬ReachesBound sha256 s op := by
  intro hop
  cases op with
  | login save a i r =>
      obtain ⟨y, hlogin, hy, hstep⟩ := login_reaches h hop
      obtain ⟨-, hvalid, -, -, j, hji, hj, hbound, hhas, -⟩ := hop
      rw [hstep] at hone
      have hself : (s.setAccount a i y).accounts a i = y := by simp
      have hother : (s.setAccount a i y).accounts a j = s.accounts a j := by simp [hji]
      refine hone a i j (Ne.symm hji) hvalid hj ?_ ?_ ?_
      · rw [hself, Bound, hlogin]
        exact fun he => by cases he
      · rwa [hother]
      · rw [hself, hother]
        exact ⟨hy.1.trans hhas.1.symm, hy.2.trans hhas.2.symm⟩
  | _ => exact hop

/-- Two sub-profiles of an OS account are bound to one account at some point of a run
exactly if a login reaches the account of one that it is not compared with. -/
theorem oneBinding_iff (max : MaxCount) (sha256 : Sha256) (ops : List Operation) :
    Machine.Meets (step max sha256) (fun s op => ¬ReachesBound sha256 s op) initial ops ↔
      ∀ ops', ops' <+: ops → OneBinding (Machine.run (step max sha256) initial ops') := by
  have hstep : ∀ s op, Inv max s → ¬ReachesBound sha256 s op → Inv max (step max sha256 s op) :=
    fun s op h hop => inv_step h hop
  have hprop : ∀ s, Inv max s → OneBinding s := fun s h => (oneBinding_iff_unique h.sound).2 h.unique
  have hback : ∀ s op, Inv max s → OneBinding (step max sha256 s op) → ¬ReachesBound sha256 s op :=
    fun s op h hone => not_reachesBound h hone
  exact Machine.meets_iff_forall_prefix hstep hprop hback (inv_initial max)

def mail (name : String) : Request := ⟨{ name, uid := "5A" }, ohosAccountEventLogin, 0, 3301⟩

def created : Operation := .create ⟨.ok (), .ok (), .ok (), true, .ok (), 0⟩ 100

def secondLogin : List Operation :=
  [.login (.ok ()) 100 100000 (mail "mail"), created, .login (.ok ()) 100 100001 (mail "mail")]

def cutNames : List Operation :=
  [created, created, .login (.ok ()) 100 100001 (mail "mail\x00x"), .login (.ok ()) 100 100002 (mail "mail\x00y")]

theorem not_oneBinding_secondLogin :
    (¬∀ ops', ops' <+: secondLogin →
      OneBinding (Machine.run (step two (fun _ => Vector.replicate 32 0)) initial ops')) ∧
    ¬∀ ops', ops' <+: cutNames →
      OneBinding (Machine.run (step two (fun _ => Vector.replicate 32 0)) initial ops') := by
  constructor
  · intro h
    have hstate : let s := Machine.run (step two fun _ => Vector.replicate 32 0) initial secondLogin
        isValidSubProfileExists s.disk 100 100001 = true ∧ (s.accounts 100 100000).ohosAccountInfo.status ≠ .unbound ∧
          (s.accounts 100 100001).ohosAccountInfo.status ≠ .unbound ∧
          (s.accounts 100 100000).ohosAccountInfo.name = (s.accounts 100 100001).ohosAccountInfo.name ∧
          (s.accounts 100 100000).ohosAccountInfo.uid = (s.accounts 100 100001).ohosAccountInfo.uid := by
      decide +kernel
    obtain ⟨hvalid, hbound, hbound', hsame⟩ := hstate
    exact h secondLogin (List.prefix_refl _) 100 100000 100001 (by decide) (.inl rfl) (.inr hvalid) hbound hbound' hsame
  · intro h
    have hstate : let s := Machine.run (step two fun _ => Vector.replicate 32 0) initial cutNames
        isValidSubProfileExists s.disk 100 100001 = true ∧ isValidSubProfileExists s.disk 100 100002 = true ∧
          (s.accounts 100 100001).ohosAccountInfo.status ≠ .unbound ∧
          (s.accounts 100 100002).ohosAccountInfo.status ≠ .unbound ∧
          (s.accounts 100 100001).ohosAccountInfo.name = (s.accounts 100 100002).ohosAccountInfo.name ∧
          (s.accounts 100 100001).ohosAccountInfo.uid = (s.accounts 100 100002).ohosAccountInfo.uid := by
      decide +kernel
    obtain ⟨hvalid, hvalid', hbound, hbound', hsame⟩ := hstate
    exact h cutNames (List.prefix_refl _) 100 100001 100002 (by decide) (.inr hvalid) (.inr hvalid') hbound hbound' hsame

end runs

end OsAccount.SubProfileBindings
