import OsAccount.AppAccountTexts

namespace OsAccount.RecordFrames

open Program Std AppAccountInfo AppAccountStore

/-- A record as the operations leave it under its key. `D` is what they keep to in the
document of its data. -/
structure Kept (D : Json → Prop) (k : String) (a : AppAccountInfo) : Prop where
  key : a.getPrimeKey = k
  owner : '#' ∉ a.owner.toList
  document : ∀ j, a.associatedData = some j → D j
  plain : a.Plain

def WellKept (D : Json → Prop) (s : Store) : Prop := ∀ k a, s.accounts[k]? = some a → Kept D k a

def allowed (D : Json → Prop) (K : String → Prop) : Access → Prop
  | .put key info => K key ∧ Kept D key info
  | .delete key => K key
  | _ => True

def possible (D : Json → Prop) : (e : Access) → Answer e → Prop
  | .get key, x => ∀ info, x = some info → Kept D key info
  | .getEntries subId, x => ∀ l, x = some l → ∀ e ∈ l, Kept D e.1 e.2 ∧ subId.toList <+: e.1.toList
  | _, _ => True

structure Frame (D : Json → Prop) (K : String → Prop) (s s' : Store) : Prop where
  kept : WellKept D s'
  same : ∀ k, ¬K k → s'.accounts[k]? = s.accounts[k]?

structure Framed (D : Json → Prop) (K : String → Prop) (s : Store) (d : Database) : Prop where
  store : Frame D K s d.store
  saved : ∀ saved, d.saved = some saved → Frame D K s saved

abbrev Keeps {α : Type} (D : Json → Prop) (K : String → Prop) (post : α → Prop) (p : StoreProgram α) : Prop :=
  p.Ensures (allowed D K) (possible D) post

abbrev KeepsRet (D : Json → Prop) (K : String → Prop) (p : StoreProgram Ret) : Prop := Keeps D K (fun _ => True) p

variable {D : Json → Prop} {K : String → Prop} {s : Store} {a info : AppAccountInfo} {key : String} {α : Type}

theorem ne_of_notMem {j : String} (hk : K key) (hj : ¬K j) : key ≠ j := by
  rintro rfl
  exact hj hk

theorem Frame.put {s' : Store} (h : Frame D K s s') (hk : K key) (hinfo : Kept D key info) :
    Frame D K s (s'.put key info) := by
  refine ⟨fun j b hj => ?_, fun j hj => ?_⟩
  · rw [Store.getElem?_put] at hj
    split at hj
    · next he =>
        obtain rfl := he
        obtain rfl := Option.some.inj hj
        exact hinfo
    · exact h.kept j b hj
  · rw [Store.getElem?_put, if_neg (ne_of_notMem hk hj)]
    exact h.same j hj

theorem Frame.delete {s' : Store} (h : Frame D K s s') (hk : K key) : Frame D K s (s'.delete key) := by
  have hlookup : ∀ j, (s'.delete key).accounts[j]? = if key = j then none else s'.accounts[j]? :=
    fun j => OrderedMap.getElem?_erase_eq s'.accounts key j
  refine ⟨fun j b hj => ?_, fun j hj => ?_⟩
  · rw [hlookup] at hj
    split at hj
    · cases hj
    · exact h.kept j b hj
  · rw [hlookup, if_neg (ne_of_notMem hk hj)]
    exact h.same j hj

theorem succeed_keeps (e : Access) (d : Database) (he : allowed D K e) (hd : Framed D K s d) :
    possible D e (succeed e d).1 ∧ Framed D K s (succeed e d).2 := by
  cases e with
  | get key => exact ⟨fun info hinfo => hd.store.kept key info hinfo, hd⟩
  | getEntries subId =>
      refine ⟨?_, hd⟩
      rintro _ ⟨⟩ e he
      obtain ⟨hlookup, hprefix⟩ := mem_getEntries.mp he
      exact ⟨hd.store.kept _ _ hlookup, hprefix⟩
  | put key info => exact ⟨trivial, hd.store.put he.1 he.2, hd.saved⟩
  | putAuthorizedAccounts table => exact ⟨trivial, ⟨hd.store.kept, hd.store.same⟩, hd.saved⟩
  | delete key => exact ⟨trivial, hd.store.delete he, hd.saved⟩
  | startTransaction =>
      refine ⟨trivial, hd.store, ?_⟩
      rintro saved ⟨⟩
      exact hd.store
  | commit => exact ⟨trivial, hd.store, nofun⟩
  | getAuthorizedAccounts => exact ⟨trivial, hd⟩
  | removeAssociatedDataCacheByAccount uid name => exact ⟨trivial, hd⟩
  | removeAssociatedDataCacheByUid uid => exact ⟨trivial, hd⟩

theorem Framed.close {d : Database} (h : Framed D K s d) : Frame D K s d.close := by
  unfold Database.close
  cases hsaved : d.saved with
  | none => exact h.store
  | some saved => exact h.saved saved hsaved

def Read (D : Json → Prop) (key : String) (r : Except ErrCode AppAccountInfo) : Prop :=
  ∀ info, r = .ok info → Kept D key info

theorem keeps_get (key : String) : Keeps D K (fun x => ∀ info, x = some info → Kept D key info) (get key) :=
  ensures_call trivial

def Reads (a : AppAccountInfo) : Prop := ∀ stored : AppAccountInfo, stored.Plain → (a.fromJson stored).Plain

theorem reads_newAccount (owner : String) (appIndex : Nat) (name : String) : Reads (newAccount owner appIndex name) := by
  intro stored hstored
  rw [fromJson_newAccount]
  exact hstored

theorem keeps_getAccountInfo (ha : Reads a) : Keeps D K (Read D a.getPrimeKey) (getAccountInfoFromDataStorage a) := by
  refine ensures_bind (keeps_get a.getPrimeKey) fun x hx => ?_
  cases x with
  | none => exact nofun
  | some stored =>
      obtain ⟨hkey, howner, hdocument, hplain⟩ := hx stored rfl
      rintro info ⟨⟩
      exact ⟨hkey, howner, hdocument, ha stored hplain⟩

theorem keeps_bool {p : StoreProgram Bool} (hp : Keeps D K (fun _ => True) p) (e : ErrCode) :
    KeepsRet D K (do if ← p then return .ok () else return .error e) := by
  refine ensures_bind hp fun x _ => ?_
  cases x with
  | false => trivial
  | true => trivial

theorem keeps_put (hk : K key) (hinfo : Kept D key info) : KeepsRet D K (putValueToKvStore key info) :=
  keeps_bool (ensures_call ⟨hk, hinfo⟩) .queryDistributeDataError

theorem Kept.toJson (h : Kept D key a) : Kept D key a.toJson := ⟨h.key, h.owner, h.document, h.plain.toJson⟩

theorem keeps_isKeyExists (key : String) : Keeps D K (fun _ => True) (isKeyExists key) :=
  ensures_bind (keeps_get key) fun _ _ => trivial

theorem keeps_addAccountInfo (hk : K a.getPrimeKey) (ha : Kept D a.getPrimeKey a) : KeepsRet D K (addAccountInfo a) := by
  refine ensures_bind (keeps_isKeyExists a.getPrimeKey) fun x _ => ?_
  cases x with
  | true => trivial
  | false => exact keeps_put hk ha.toJson

theorem keeps_saveAccountInfo (hk : K a.getPrimeKey) (ha : Kept D a.getPrimeKey a) :
    KeepsRet D K (saveAccountInfo a) := by
  refine ensures_bind (keeps_isKeyExists a.getPrimeKey) fun x _ => ?_
  cases x with
  | false => trivial
  | true => exact keeps_put hk ha.toJson

theorem keeps_removeValue (hk : K key) : KeepsRet D K (removeValueFromKvStore key) := by
  refine ensures_bind (keeps_get key) fun x _ => ?_
  cases x with
  | none => trivial
  | some _ => exact keeps_bool (p := delete key) (ensures_call hk) .deleteKeyFromKvstore

theorem keeps_loadData (subId : String) :
    Keeps D K (fun r => ∀ l, r = .ok l → ∀ e ∈ l, Kept D e.1 e.2 ∧ subId.toList <+: e.1.toList)
      (loadDataByLocalFuzzyQuery subId) := by
  refine ensures_bind (ensures_call trivial) fun x hx => ?_
  cases x with
  | none => exact nofun
  | some entries =>
      rintro l ⟨⟩
      exact hx entries rfl

theorem keeps_removeAuthorizedAccount (info : AppAccountInfo) (app : String) :
    KeepsRet D K (removeAuthorizedAccountFromDataStorage info app) :=
  ensures_bind (ensures_call trivial) fun _ _ =>
    keeps_bool (ensures_call trivial) .queryDistributeDataError

theorem keeps_startDbTransaction : KeepsRet D K startDbTransaction :=
  keeps_bool (ensures_call trivial) .queryDistributeDataError

theorem keeps_commitDbTransaction : KeepsRet D K commitDbTransaction :=
  keeps_bool (ensures_call trivial) .queryDistributeDataError

theorem keeps_next {p q : StoreProgram Ret} (hp : KeepsRet D K p) (hq : KeepsRet D K q) : KeepsRet D K (do
    match ← p with
    | .error e => return .error e
    | .ok () => q) := by
  refine ensures_bind hp fun x _ => ?_
  cases x with
  | error e => trivial
  | ok _ => exact hq

theorem keeps_add {b : AppAccountInfo} (ha : Reads a) (hk : K b.getPrimeKey) (hb : Kept D b.getPrimeKey b)
    (p : StoreProgram Ret)
    (hp : p = do
      match ← getAccountInfoFromDataStorage a with
      | .ok _ => return .error .addExistingAccount
      | .error _ => addAccountInfoIntoDataStorage b) : KeepsRet D K p := by
  subst hp
  refine ensures_bind (keeps_getAccountInfo ha) fun x _ => ?_
  cases x with
  | ok _ => trivial
  | error _ =>
      refine ensures_bind (keeps_loadData (ownerKey b.owner b.appIndex)) fun r _ => ?_
      cases r with
      | error _ => trivial
      | ok accounts =>
          dsimp only
          split
          · trivial
          · exact keeps_addAccountInfo hk hb

theorem keeps_removeAuthorizedAccounts (info : AppAccountInfo) (apps : List String) :
    KeepsRet D K (removeAuthorizedAccounts info apps) := by
  induction apps with
  | nil => trivial
  | cons app apps ih => exact keeps_next (keeps_removeAuthorizedAccount info app) ih

theorem keeps_removeAuthorizations (info : AppAccountInfo) (apps : List String) :
    Keeps D K (fun _ => True) (removeAuthorizations info apps) := by
  induction apps with
  | nil => trivial
  | cons app apps ih => exact ensures_bind (keeps_removeAuthorizedAccount info app) fun _ _ => ih

theorem keeps_removeAccounts (appIndex : Nat) (accounts : List (String × AppAccountInfo))
    (hk : ∀ e ∈ accounts, K (e.2.setAppIndex appIndex).getPrimeKey) :
    Keeps D K (fun _ => True) (removeAccounts appIndex accounts) := by
  induction accounts with
  | nil => trivial
  | cons account accounts ih =>
      have hrest := ih fun e he => hk e (List.mem_cons_of_mem account he)
      exact ensures_bind (keeps_removeAuthorizations _ _) fun _ _ =>
        ensures_bind (keeps_removeValue (hk account List.mem_cons_self)) fun _ _ => hrest

/-- The removal of a package writes under the keys of its own accounts, whatever it has found. -/
theorem keeps_onPackageRemoved (isOsAccountRemoved : Bool) (uid : Nat) {bundleName : String}
    (hbundle : '#' ∉ bundleName.toList) (appIndex : Nat) :
    KeepsRet D (fun k => ∃ name, k = (newAccount bundleName appIndex name).getPrimeKey)
      (onPackageRemoved isOsAccountRemoved uid bundleName appIndex) := by
  refine ensures_bind (ensures_call trivial) fun _ _ => ?_
  cases isOsAccountRemoved with
  | true => trivial
  | false =>
      refine keeps_next keeps_startDbTransaction ?_
      refine ensures_bind (keeps_loadData _) fun r hr => ?_
      cases r with
      | error _ => trivial
      | ok accounts =>
          refine ensures_bind (keeps_removeAccounts appIndex accounts fun e he => ?_) fun _ _ =>
            keeps_commitDbTransaction
          obtain ⟨hkept, hprefix⟩ := hr accounts rfl e he
          rw [← hkept.key] at hprefix
          obtain ⟨howner, -⟩ := (ownerKey_prefix_iff e.2 hbundle hkept.owner).mp hprefix
          refine ⟨e.2.name, ?_⟩
          unfold getPrimeKey setAppIndex newAccount
          rw [howner]

theorem keeps_deleteAccountInfo {key : String} (hk : K key) (hinfo : Kept D key info) :
    Keeps D K (fun _ => True) (deleteAccountInfoFromDataStorage info) := by
  refine ensures_bind (keeps_getAccountInfo fun _ => hinfo.plain.fromJson) fun x hx => ?_
  cases x with
  | error _ => trivial
  | ok stored =>
      have hstored : K stored.getPrimeKey := (hx stored rfl).key.trans hinfo.key ▸ hk
      refine ensures_bind (keeps_removeValue hstored) fun y _ => ?_
      cases y with
      | error _ => trivial
      | ok _ => trivial

theorem keeps_deleteAccount (ha : Reads a) (hk : K a.getPrimeKey) (uid : Nat) (name : String) :
    KeepsRet D K (deleteAccount a uid name) := by
  refine ensures_bind (keeps_getAccountInfo ha) fun x hx => ?_
  cases x with
  | error _ => trivial
  | ok info =>
      refine keeps_next keeps_startDbTransaction ?_
      refine ensures_bind (keeps_deleteAccountInfo hk (hx info rfl)) fun y _ => ?_
      cases y with
      | error _ => trivial
      | ok stored =>
          exact ensures_bind (ensures_call trivial) fun _ _ =>
            keeps_next (keeps_removeAuthorizedAccounts stored _) keeps_commitDbTransaction

theorem keeps_modify (modify : AppAccountInfo → Except ErrCode AppAccountInfo) (e : ErrCode → ErrCode) (ha : Reads a)
    (hmodify : ∀ info b, Kept D a.getPrimeKey info → modify info = .ok b → Kept D a.getPrimeKey b)
    {save : AppAccountInfo → StoreProgram Ret}
    (hsave : ∀ b, Kept D a.getPrimeKey b → KeepsRet D K (save b)) (p : StoreProgram Ret)
    (hp : p = do
      match ← getAccountInfoFromDataStorage a with
      | .error e => return .error e
      | .ok info =>
      match modify info with
      | .error err => return .error (e err)
      | .ok info => save info) : KeepsRet D K p := by
  subst hp
  refine ensures_bind (keeps_getAccountInfo ha) fun x hx => ?_
  cases x with
  | error _ => trivial
  | ok info =>
      dsimp only
      cases hb : modify info with
      | error _ => trivial
      | ok b => exact hsave b (hmodify info b (hx info rfl) hb)

theorem keeps_saveKept {key : String} (hk : K key) (ha : Kept D key a) : KeepsRet D K (saveAccountInfo a) := by
  have hkey : a.getPrimeKey = key := ha.key
  refine keeps_saveAccountInfo (hkey ▸ hk) ?_
  rw [hkey]
  exact ha

theorem keeps_saveAccess {saveTable : AppAccountInfo → StoreProgram Ret} (hk : K key) (ha : Kept D key a)
    (htable : KeepsRet D K (saveTable a)) : KeepsRet D K (saveAccess a saveTable) :=
  keeps_next keeps_startDbTransaction
    (keeps_next (keeps_saveKept hk ha) (keeps_next htable keeps_commitDbTransaction))

theorem keeps_saveAuthorizedAccount (info : AppAccountInfo) (app : String) :
    KeepsRet D K (saveAuthorizedAccountIntoDataStorage info app) :=
  ensures_bind (ensures_call trivial) fun _ _ =>
    keeps_bool (ensures_call trivial) .queryDistributeDataError

theorem keeps_enableAppAccess (ha : Reads a) (hk : K a.getPrimeKey) {app : String} (happ : CText.NoNul app)
    (apiVersion : Nat) : KeepsRet D K (AppAccountStore.enableAppAccess a app apiVersion) := by
  refine keeps_modify (fun info => info.enableAppAccess app apiVersion) _ ha (fun info b hinfo hb => ?_)
    (fun b hb => keeps_saveAccess hk hb (keeps_saveAuthorizedAccount b app)) _ rfl
  have hplain := hinfo.plain.enableAppAccess happ hb
  obtain rfl := enableAppAccess_eq hb
  exact ⟨hinfo.key, hinfo.owner, hinfo.document, hplain⟩

theorem keeps_disableAppAccess (ha : Reads a) (hk : K a.getPrimeKey) (app : String) (apiVersion : Nat) :
    KeepsRet D K (AppAccountStore.disableAppAccess a app apiVersion) := by
  refine keeps_modify (fun info => info.disableAppAccess app apiVersion) _ ha (fun info b hinfo hb => ?_)
    (fun b hb => keeps_saveAccess hk hb (keeps_removeAuthorizedAccount b app)) _ rfl
  have hplain := hinfo.plain.disableAppAccess hb
  obtain rfl := disableAppAccess_eq hb
  exact ⟨hinfo.key, hinfo.owner, hinfo.document, hplain⟩

section handlers

variable {handle : (e : Access) → Database → Answer e × Database} {post : α → Prop} {p : StoreProgram α}

theorem writing_eq {σ : Type} (handle : (e : Access) → σ → Answer e × σ) (e : Access) (d : σ) (he : allowed D K e) :
    writing handle e d = handle e d := by
  cases e with
  | put key info => rw [writing, he.2.plain.written]
  | _ => rfl

theorem framed_start (hs : WellKept D s) : Framed D K s { store := s } := ⟨⟨hs, fun _ _ => rfl⟩, nofun⟩

theorem performWritten_eq (hp : Keeps D K post p) (hs : WellKept D s) :
    performWritten p s = perform p s ∧ WellKept D (perform p s).2 := by
  have hexec := exec_congr (writing_eq succeed) (fun e d he => succeed_keeps e d he) hp (framed_start hs)
  obtain ⟨-, hend⟩ := exec_ensures (fun e d he => succeed_keeps e d he) hp (framed_start hs)
  exact ⟨by rw [performWritten, perform, hexec], hend.close.kept⟩

end handlers

end OsAccount.RecordFrames
