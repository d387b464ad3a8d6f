import OsAccount.ByteRecords
import OsAccount.PrivilegeRecords
import OsAccount.PrivilegeTable

namespace OsAccount.SoftwareTokens

open ByteRecords PrivilegeRecords PrivilegeTable

def tokenMagic : UInt32 := 0x544F534F

def tokenVersion : UInt32 := 1

def millisPerSecond : Int := 1000

def challengeLen : Nat := 32

def authTokenLen : Nat := 1024

def admin : Int := 0

structure UserTokenDataPlain where
  pid : UInt32 := 0
  privilege : UInt32 := 0
  grantTime : UInt32 := 0
  grantValidityPeriod : Int32 := 0
  challenge : Vector UInt8 challengeLen := Vector.replicate challengeLen 0
  authToken : Vector UInt8 authTokenLen := Vector.replicate authTokenLen 0
  authTokenSize : UInt64 := 0

structure UserTokenPlain where
  userTokenDataPlain : UserTokenDataPlain := {}
  grantUserId : Int32 := 0

/-- The widths of the fields of a `UserTokenPlain` on a 64-bit machine; there are no gaps between them. -/
def userTokenPlainWidths : List Nat := [4, 4, 4, 4, challengeLen, authTokenLen, 8, 4]

def UserTokenPlain.fields (tokenPlain : UserTokenPlain) : List (List UInt8) :=
  let data := tokenPlain.userTokenDataPlain
  [encode 4 data.pid.toNat, encode 4 data.privilege.toNat, encode 4 data.grantTime.toNat,
    encode 4 data.grantValidityPeriod.toUInt32.toNat, data.challenge.toList, data.authToken.toList,
    encode 8 data.authTokenSize.toNat, encode 4 tokenPlain.grantUserId.toUInt32.toNat]

def UserTokenPlain.bytes (tokenPlain : UserTokenPlain) : List UInt8 := tokenPlain.fields.flatten

def sizeofUserTokenPlain : Nat := userTokenPlainWidths.sum

def userTokenSoftwareWidths : List Nat := [4, 4, sizeofUserTokenPlain, 4]

def sizeofUserTokenSoftware : Nat := userTokenSoftwareWidths.sum

def uint32At (widths : List Nat) (i : Nat) (bytes : List UInt8) : UInt32 :=
  UInt32.ofNat (decode (field widths i bytes))

/-- `grantUserId`'s account must be an administrator. The text of `permission` has `permissionSize` bytes. -/
structure ApplyUserTokenParam where
  pid : UInt32
  permission : String
  grantValidityPeriod : Int32
  grantUserId : Int32
  challenge : Vector UInt8 challengeLen

/-- The token is the part of the buffer that `userTokenSize` counts. -/
structure ApplyUserTokenResult where
  userToken : List UInt8
  remainValidityTime : Int32
  grantTime : UInt32

structure VerifyUserTokenResult where
  userTokenPlain : UserTokenPlain := {}
  remainValidityTime : Int32 := 0

def computeChecksum (tokenData : List UInt8) : UInt32 :=
  tokenData.foldl (fun checksum b => checksum + b.toUInt32) 0

def softwareTokenFields (tokenData : List UInt8) : List (List UInt8) :=
  [encode 4 tokenMagic.toNat, encode 4 tokenVersion.toNat, tokenData, encode 4 (computeChecksum tokenData).toNat]

def seconds (currentTimeMs : Int) : UInt32 := UInt32.ofInt (currentTimeMs.tdiv millisPerSecond)

def permissionCode (permission : String) : Except ErrCode UInt32 :=
  if permission = "" then .ok 0
  else
    match transferPrivilegeToCode permission with
    | none => .error .invalidParameter
    | some privilegeCode => .ok (UInt32.ofNat privilegeCode)

def prepareTokenPlainData (u : Uptime) (param : ApplyUserTokenParam) : Except ErrCode UserTokenPlain := do
  let privilege ← permissionCode param.permission
  let currentTimeMs ← u
  if param.grantValidityPeriod ≤ 0 then throw .invalidParameter
  pure
    { userTokenDataPlain :=
        { pid := param.pid
          privilege := privilege
          grantTime := seconds currentTimeMs
          grantValidityPeriod := param.grantValidityPeriod
          challenge := param.challenge }
      grantUserId := param.grantUserId }

def generateSoftwareToken (u : Uptime) (param : ApplyUserTokenParam) : Except ErrCode ApplyUserTokenResult := do
  let tokenPlain ← prepareTokenPlainData u param
  pure ⟨(softwareTokenFields tokenPlain.bytes).flatten, param.grantValidityPeriod,
    tokenPlain.userTokenDataPlain.grantTime⟩

def taAcquireAuthorization (accountType : Except ErrCode Int) (u : Uptime) (param : ApplyUserTokenParam) :
    Except ErrCode ApplyUserTokenResult := do
  let accountType ← accountType
  if accountType ≠ admin then throw .invalidParameter
  match generateSoftwareToken u param with
  | .error _ => throw .authorizationTaError
  | .ok result => pure result

/-- The result keeps the zeros that it came with, except for the pid and the remaining time. -/
def checkTokenValidity (u : Uptime) (tokenData : List UInt8) : Except ErrCode VerifyUserTokenResult := do
  let currentTime := seconds (← u)
  let grantTime := uint32At userTokenPlainWidths 2 tokenData
  let period := (uint32At userTokenPlainWidths 3 tokenData).toInt32
  let userTokenPlain : UserTokenPlain := { userTokenDataPlain := { pid := uint32At userTokenPlainWidths 0 tokenData } }
  if period ≤ 0 then throw .invalidParameter
  if currentTime < grantTime then throw .jsAuthorizationDenied
  let elapsedTime := currentTime - grantTime
  if elapsedTime ≤ period.toUInt32 then pure ⟨userTokenPlain, period - elapsedTime.toInt32⟩
  else throw .jsAuthorizationDenied

def verifySoftwareToken (u : Uptime) (token : List UInt8) : Except ErrCode VerifyUserTokenResult := do
  if token.length ≠ sizeofUserTokenSoftware then throw .invalidParameter
  if uint32At userTokenSoftwareWidths 0 token ≠ tokenMagic then throw .invalidParameter
  if uint32At userTokenSoftwareWidths 1 token ≠ tokenVersion then throw .invalidParameter
  let tokenData := field userTokenSoftwareWidths 2 token
  if uint32At userTokenSoftwareWidths 3 token ≠ computeChecksum tokenData then throw .invalidParameter
  checkTokenValidity u tokenData

def adapterVerifyToken (u : Uptime) (token : List UInt8) (_privilege : String) : Except ErrCode VerifyUserTokenResult :=
  if token = [] then .error .invalidParameter else verifySoftwareToken u token

/-- `VerifyToken` of the authorization manager: the challenge and the IAM token. -/
def verifyToken (u : Uptime) (token : List UInt8) (privilege : String) (pid : UInt32) :
    Except ErrCode (List UInt8 × List UInt8) := do
  let tokenRet ← adapterVerifyToken u token privilege
  let data := tokenRet.userTokenPlain.userTokenDataPlain
  if pid ≠ data.pid then throw .privilegeDenied
  pure (data.challenge.toList, data.authToken.toList.take data.authTokenSize.toNat)

def IssuedForm (token : List UInt8) : Prop :=
  token.length = sizeofUserTokenSoftware ∧ uint32At userTokenSoftwareWidths 0 token = tokenMagic ∧
    uint32At userTokenSoftwareWidths 1 token = tokenVersion ∧
    uint32At userTokenSoftwareWidths 3 token = computeChecksum (field userTokenSoftwareWidths 2 token)

/-- A token answers for exactly what it was issued for, and gives back the challenge of its request. -/
def Means (t₀ t : Int) (param : ApplyUserTokenParam) (token : List UInt8) (privilege : String) (pid : UInt32) : Prop :=
  ((∃ answer, verifyToken (.ok t) token privilege pid = .ok answer) ↔
      privilege = param.permission ∧ pid = param.pid ∧ t / 1000 - t₀ / 1000 ≤ param.grantValidityPeriod.toInt) ∧
    ∀ answer, verifyToken (.ok t) token privilege pid = .ok answer → answer.1 = param.challenge.toList

section bytes

variable {tokenPlain : UserTokenPlain} {tokenData : List UInt8}

theorem decode_uint32 (n : UInt32) : UInt32.ofNat (decode (encode 4 n.toNat)) = n := by
  rw [decode_encode_of_lt n.toNat_lt, UInt32.ofNat_toNat]

theorem userTokenPlain_widths (tokenPlain : UserTokenPlain) :
    tokenPlain.fields.map List.length = userTokenPlainWidths := by
  simp [UserTokenPlain.fields, userTokenPlainWidths]

theorem length_bytes (tokenPlain : UserTokenPlain) : tokenPlain.bytes.length = sizeofUserTokenPlain := by
  rw [UserTokenPlain.bytes, List.length_flatten, userTokenPlain_widths, sizeofUserTokenPlain]

theorem pid_bytes : uint32At userTokenPlainWidths 0 tokenPlain.bytes = tokenPlain.userTokenDataPlain.pid := by
  rw [uint32At, ← userTokenPlain_widths tokenPlain, UserTokenPlain.bytes,
    field_flatten tokenPlain.fields (i := 0) (Nat.lt_of_sub_eq_succ rfl)]
  exact decode_uint32 _

theorem grantTime_bytes :
    uint32At userTokenPlainWidths 2 tokenPlain.bytes = tokenPlain.userTokenDataPlain.grantTime := by
  rw [uint32At, ← userTokenPlain_widths tokenPlain, UserTokenPlain.bytes,
    field_flatten tokenPlain.fields (i := 2) (Nat.lt_of_sub_eq_succ rfl)]
  exact decode_uint32 _

theorem period_bytes : (uint32At userTokenPlainWidths 3 tokenPlain.bytes).toInt32 =
    tokenPlain.userTokenDataPlain.grantValidityPeriod := by
  rw [uint32At, ← userTokenPlain_widths tokenPlain, UserTokenPlain.bytes,
    field_flatten tokenPlain.fields (i := 3) (Nat.lt_of_sub_eq_succ rfl)]
  have hperiod := decode_uint32 tokenPlain.userTokenDataPlain.grantValidityPeriod.toUInt32
  exact (congrArg UInt32.toInt32 hperiod).trans (Int32.toInt32_toUInt32 _)

theorem softwareToken_widths (h : tokenData.length = sizeofUserTokenPlain) :
    (softwareTokenFields tokenData).map List.length = userTokenSoftwareWidths := by
  simp [softwareTokenFields, userTokenSoftwareWidths, h]

theorem field_softwareToken (h : tokenData.length = sizeofUserTokenPlain) {i : Nat} (hi : i < 4) :
    field userTokenSoftwareWidths i (softwareTokenFields tokenData).flatten = (softwareTokenFields tokenData)[i] := by
  rw [← softwareToken_widths h]
  exact field_flatten (softwareTokenFields tokenData) hi

theorem issuedForm_softwareToken (h : tokenData.length = sizeofUserTokenPlain) :
    IssuedForm (softwareTokenFields tokenData).flatten := by
  refine ⟨?_, ?_, ?_, ?_⟩
  · rw [List.length_flatten, softwareToken_widths h, sizeofUserTokenSoftware]
  · rw [uint32At, field_softwareToken h (by decide)]
    exact decode_uint32 tokenMagic
  · rw [uint32At, field_softwareToken h (by decide)]
    exact decode_uint32 tokenVersion
  · rw [uint32At, field_softwareToken h (by decide), field_softwareToken h (by decide)]
    exact decode_uint32 (computeChecksum tokenData)

theorem verifySoftwareToken_of_form {token : List UInt8} (h : IssuedForm token) (u : Uptime) :
    verifySoftwareToken u token = checkTokenValidity u (field userTokenSoftwareWidths 2 token) := by
  obtain ⟨hsize, hmagic, hversion, hchecksum⟩ := h
  rw [verifySoftwareToken, if_neg (not_not_intro hsize), if_neg (not_not_intro hmagic),
    if_neg (not_not_intro hversion), if_neg (not_not_intro hchecksum)]

theorem verifyToken_of_not_form {token : List UInt8} (h : ¬IssuedForm token) (u : Uptime) (privilege : String)
    (pid : UInt32) : verifyToken u token privilege pid = .error .invalidParameter := by
  have hverify : adapterVerifyToken u token privilege = .error .invalidParameter := by
    rw [adapterVerifyToken, verifySoftwareToken]
    by_cases hsize : token.length = sizeofUserTokenSoftware
    · by_cases hmagic : uint32At userTokenSoftwareWidths 0 token = tokenMagic
      · by_cases hversion : uint32At userTokenSoftwareWidths 1 token = tokenVersion
        · have hchecksum := fun hc => h ⟨hsize, hmagic, hversion, hc⟩
          rw [if_neg (not_not_intro hsize), if_neg (not_not_intro hmagic), if_neg (not_not_intro hversion),
            if_pos hchecksum]
          exact ite_self _
        · rw [if_neg (not_not_intro hsize), if_neg (not_not_intro hmagic), if_pos hversion]
          exact ite_self _
      · rw [if_neg (not_not_intro hsize), if_pos hmagic]
        exact ite_self _
    · rw [if_pos hsize]
      exact ite_self _
  rw [verifyToken, hverify]
  rfl

end bytes

section time

variable {t₀ t : Int} {period : Int32}

theorem toNat_seconds (ht : 0 ≤ t) (hlt : t / 1000 < 2 ^ 32) : ((seconds t).toNat : Int) = t / 1000 := by
  have hdiv : t.tdiv millisPerSecond = t / 1000 := Int.tdiv_eq_ediv_of_nonneg ht
  have hpos : 0 ≤ t / 1000 := Int.ediv_nonneg ht (by decide)
  rw [seconds, hdiv]
  simp only [UInt32.ofInt, UInt32.toNat_ofNat']
  omega

theorem toNat_toUInt32 (hpos : 0 < period.toInt) : (period.toUInt32.toNat : Int) = period.toInt := by
  have hdef : period.toInt = BitVec.toInt period.toBitVec := rfl
  have hnat : period.toUInt32.toNat = period.toBitVec.toNat := rfl
  have hlt := period.toBitVec.isLt
  rw [hdef, BitVec.toInt_eq_toNat_cond] at hpos ⊢
  rw [hnat]
  split at hpos
  · rw [if_pos ‹_›]
  · omega

theorem elapsed_le_iff (h₀ : 0 ≤ t₀) (hle : t₀ ≤ t) (hlt : t / 1000 < 2 ^ 32) (hperiod : ¬period ≤ 0) :
    ¬seconds t < seconds t₀ ∧
      (seconds t - seconds t₀ ≤ period.toUInt32 ↔ t / 1000 - t₀ / 1000 ≤ period.toInt) := by
  have hmono : t₀ / 1000 ≤ t / 1000 := Int.ediv_le_ediv (by decide) hle
  have ht := toNat_seconds (h₀.trans hle) hlt
  have ht₀ := toNat_seconds h₀ (hmono.trans_lt hlt)
  have hseconds : seconds t₀ ≤ seconds t := by
    rw [UInt32.le_iff_toNat_le]
    omega
  have hpos : 0 < period.toInt := by
    rw [Int32.le_iff_toInt_le] at hperiod
    simpa using hperiod
  have hvalue := toNat_toUInt32 hpos
  refine ⟨UInt32.not_lt.mpr hseconds, ?_⟩
  rw [UInt32.le_iff_toNat_le, UInt32.toNat_sub_of_le _ _ hseconds]
  omega

end time

section meaning

theorem of_bind_ok {ε α β : Type} {x : Except ε α} {f : α → Except ε β} {b : β} (h : x >>= f = .ok b) :
    ∃ a, x = .ok a ∧ f a = .ok b := by
  cases x with
  | error e => cases h
  | ok a => exact ⟨a, rfl, h⟩

variable {accountType : Except ErrCode Int} {t₀ t : Int} {param : ApplyUserTokenParam} {result : ApplyUserTokenResult}

theorem prepareTokenPlainData_ok {tokenPlain : UserTokenPlain}
    (h : prepareTokenPlainData (.ok t₀) param = .ok tokenPlain) :
    ¬param.grantValidityPeriod ≤ 0 ∧ tokenPlain.userTokenDataPlain.pid = param.pid ∧
      tokenPlain.userTokenDataPlain.grantTime = seconds t₀ ∧
      tokenPlain.userTokenDataPlain.grantValidityPeriod = param.grantValidityPeriod := by
  rw [prepareTokenPlainData] at h
  obtain ⟨privilege, -, h⟩ := of_bind_ok h
  by_cases hperiod : param.grantValidityPeriod ≤ 0
  · cases (if_pos hperiod).symm.trans h
  · cases (if_neg hperiod).symm.trans h
    exact ⟨hperiod, rfl, rfl, rfl⟩

theorem taAcquireAuthorization_ok (h : taAcquireAuthorization accountType (.ok t₀) param = .ok result) :
    ∃ tokenPlain, prepareTokenPlainData (.ok t₀) param = .ok tokenPlain ∧
      result.userToken = (softwareTokenFields tokenPlain.bytes).flatten := by
  obtain ⟨type, -, h⟩ := of_bind_ok h
  by_cases htype : type ≠ admin
  · cases (if_pos htype).symm.trans h
  · have hmatch := (if_neg htype).symm.trans h
    cases hgenerate : generateSoftwareToken (.ok t₀) param with
    | error e =>
      rw [hgenerate] at hmatch
      cases hmatch
    | ok issued =>
      rw [hgenerate] at hmatch
      cases hmatch
      obtain ⟨tokenPlain, hprepare, hissued⟩ := of_bind_ok hgenerate
      cases hissued
      exact ⟨tokenPlain, hprepare, rfl⟩

theorem checkTokenValidity_issued {tokenPlain : UserTokenPlain}
    (hprepare : prepareTokenPlainData (.ok t₀) param = .ok tokenPlain) (h₀ : 0 ≤ t₀) (hle : t₀ ≤ t)
    (hlt : t / 1000 < 2 ^ 32) :
    checkTokenValidity (.ok t) tokenPlain.bytes =
      if t / 1000 - t₀ / 1000 ≤ param.grantValidityPeriod.toInt then
        .ok ⟨{ userTokenDataPlain := { pid := param.pid } },
          param.grantValidityPeriod - (seconds t - seconds t₀).toInt32⟩
      else .error .jsAuthorizationDenied := by
  obtain ⟨hperiod, hpid, hgrant, hvalue⟩ := prepareTokenPlainData_ok hprepare
  obtain ⟨hnot, helapsed⟩ := elapsed_le_iff h₀ hle hlt hperiod
  rw [checkTokenValidity, pid_bytes, grantTime_bytes, period_bytes, hpid, hgrant, hvalue]
  refine (if_neg hperiod).trans ((if_neg hnot).trans ?_)
  exact if_congr helapsed rfl rfl

/-- A token answers to its own pid within its own period, whatever the privilege, and with a zero challenge. -/
theorem verifyToken_issued (h : taAcquireAuthorization accountType (.ok t₀) param = .ok result) (h₀ : 0 ≤ t₀)
    (hle : t₀ ≤ t) (hlt : t / 1000 < 2 ^ 32) (privilege : String) (pid : UInt32) :
    verifyToken (.ok t) result.userToken privilege pid =
      if t / 1000 - t₀ / 1000 ≤ param.grantValidityPeriod.toInt then
        if pid ≠ param.pid then .error .privilegeDenied else .ok (List.replicate challengeLen 0, [])
      else .error .jsAuthorizationDenied := by
  obtain ⟨tokenPlain, hprepare, htoken⟩ := taAcquireAuthorization_ok h
  have hform : IssuedForm result.userToken := by
    rw [htoken]
    exact issuedForm_softwareToken (length_bytes tokenPlain)
  have hdata : field userTokenSoftwareWidths 2 result.userToken = tokenPlain.bytes := by
    rw [htoken]
    exact field_softwareToken (length_bytes tokenPlain) (by decide)
  have hne : result.userToken ≠ [] := by
    intro hnil
    have hsize := hform.1
    rw [hnil] at hsize
    cases hsize
  rw [verifyToken, adapterVerifyToken, if_neg hne, verifySoftwareToken_of_form hform, hdata,
    checkTokenValidity_issued hprepare h₀ hle hlt]
  by_cases helapsed : t / 1000 - t₀ / 1000 ≤ param.grantValidityPeriod.toInt
  · rw [if_pos helapsed, if_pos helapsed]
    exact if_congr Iff.rfl rfl (congrArg Except.ok (Prod.ext (Vector.toList_replicate ..) rfl))
  · rw [if_neg helapsed, if_neg helapsed]
    rfl

/-- A token means what it was issued for when no other privilege is asked of a token that still answers, and the
challenge was zeros; no other bytes are taken for a token. -/
theorem token_means_iff (h : taAcquireAuthorization accountType (.ok t₀) param = .ok result) (h₀ : 0 ≤ t₀)
    (hle : t₀ ≤ t) (hlt : t / 1000 < 2 ^ 32) (privilege : String) (pid : UInt32) :
    (Means t₀ t param result.userToken privilege pid ↔
      (pid = param.pid → t / 1000 - t₀ / 1000 ≤ param.grantValidityPeriod.toInt →
        privilege = param.permission ∧ param.challenge.toList = List.replicate challengeLen 0)) ∧
    ∀ token, ¬IssuedForm token → ∀ u, ∃ e, verifyToken u token privilege pid = .error e := by
  refine ⟨?_, fun token hform u => ⟨_, verifyToken_of_not_form hform u privilege pid⟩⟩
  have hverify := verifyToken_issued h h₀ hle hlt privilege pid
  by_cases hanswers : pid = param.pid ∧ t / 1000 - t₀ / 1000 ≤ param.grantValidityPeriod.toInt
  · obtain ⟨hpid, helapsed⟩ := hanswers
    rw [if_pos helapsed, if_neg (not_not_intro hpid)] at hverify
    constructor
    · rintro ⟨hiff, hchallenge⟩ - -
      exact ⟨(hiff.mp ⟨_, hverify⟩).1, (hchallenge _ hverify).symm⟩
    · intro hmeans
      obtain ⟨hprivilege, hzero⟩ := hmeans hpid helapsed
      refine ⟨⟨fun _ => ⟨hprivilege, hpid, helapsed⟩, fun _ => ⟨_, hverify⟩⟩, ?_⟩
      intro answer hanswer
      cases hverify.symm.trans hanswer
      exact hzero.symm
  · have hdenied : ∀ answer, verifyToken (.ok t) result.userToken privilege pid ≠ .ok answer := by
      intro answer hanswer
      rw [hverify] at hanswer
      by_cases helapsed : t / 1000 - t₀ / 1000 ≤ param.grantValidityPeriod.toInt
      · have hpid : pid ≠ param.pid := fun hpid => hanswers ⟨hpid, helapsed⟩
        rw [if_pos helapsed, if_pos hpid] at hanswer
        cases hanswer
      · rw [if_neg helapsed] at hanswer
        cases hanswer
    constructor
    · intro _ hpid helapsed
      exact absurd ⟨hpid, helapsed⟩ hanswers
    · intro _
      refine ⟨⟨?_, fun hmeant => absurd hmeant.2 hanswers⟩, ?_⟩
      · rintro ⟨answer, hanswer⟩
        exact absurd hanswer (hdenied answer)
      · intro answer hanswer
        exact absurd hanswer (hdenied answer)

def manageAccounts : ApplyUserTokenParam :=
  { pid := 7
    permission := "ohos.privilege.manage_local_accounts"
    grantValidityPeriod := 300
    grantUserId := 100
    challenge := Vector.replicate challengeLen 1 }

def manageAccountsToken : ApplyUserTokenResult :=
  ⟨(softwareTokenFields (UserTokenPlain.bytes
    { userTokenDataPlain :=
        { pid := 7
          privilege := 0
          grantTime := 0
          grantValidityPeriod := 300
          challenge := Vector.replicate challengeLen 1 }
      grantUserId := 100 })).flatten, 300, 0⟩

theorem acquire_manageAccounts :
    taAcquireAuthorization (.ok admin) (.ok 0) manageAccounts = .ok manageAccountsToken := by
  have hcode : permissionCode manageAccounts.permission = .ok 0 := by decide
  have hprepare : prepareTokenPlainData (.ok 0) manageAccounts = .ok
      { userTokenDataPlain :=
          { pid := 7
            privilege := 0
            grantTime := 0
            grantValidityPeriod := 300
            challenge := Vector.replicate challengeLen 1 }
        grantUserId := 100 } := by
    rw [prepareTokenPlainData, hcode]
    rfl
  have hgenerate : generateSoftwareToken (.ok 0) manageAccounts = .ok manageAccountsToken := by
    rw [generateSoftwareToken, hprepare]
    rfl
  rw [taAcquireAuthorization, hgenerate]
  rfl

/-- Asked for another process, the token means what it was issued for. -/
theorem token_means_otherProcess :
    taAcquireAuthorization (.ok admin) (.ok 0) manageAccounts = .ok manageAccountsToken ∧
      Means 0 1000 manageAccounts manageAccountsToken.userToken "ohos.privilege.manage_local_accounts" 8 :=
  ⟨acquire_manageAccounts,
    (token_means_iff acquire_manageAccounts (t := 1000) (by decide) (by decide) (by decide)
      "ohos.privilege.manage_local_accounts" 8).1.mpr (fun hpid => absurd hpid (by decide))⟩

/-- The token for managing local accounts answers for killing processes, with a challenge of zeros. -/
theorem not_means_killProcess :
    ¬∀ t₀ t param result, taAcquireAuthorization (.ok admin) (.ok t₀) param = .ok result → param.permission ≠ "" →
      0 ≤ t₀ → t₀ ≤ t → t / 1000 < 2 ^ 32 → ∀ privilege pid, Means t₀ t param result.userToken privilege pid := by
  intro hall
  have hmeans := hall 0 1000 manageAccounts manageAccountsToken acquire_manageAccounts (by decide) (by decide)
    (by decide) (by decide) "ohos.privilege.kill_process" 7
  have hverify := verifyToken_issued acquire_manageAccounts (t := 1000) (by decide) (by decide) (by decide)
    "ohos.privilege.kill_process" 7
  rw [if_pos (by decide), if_neg (by decide)] at hverify
  exact absurd (hmeans.1.mp ⟨_, hverify⟩).1 (by decide)

end meaning

end OsAccount.SoftwareTokens
