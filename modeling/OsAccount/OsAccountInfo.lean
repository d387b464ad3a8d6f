import OsAccount.AccountList
import OsAccount.CText

namespace OsAccount

open CText

def u1Id : Int := 1

def maintenanceModeId : Int := 10736

def defaultDisplayId : Nat := 0

def invalidDisplayId : Nat := 2 ^ 64 - 1

inductive OsAccountType
  | admin
  | normal
  | guest
  | maintenance
  | privateType
deriving DecidableEq, Repr

structure DomainAccountInfo where
  domain : String := ""
  accountName : String := ""
  accountId : String := ""
  serverConfigId : String := ""
deriving DecidableEq, Repr

namespace DomainAccountInfo

def updated (old newInfo : DomainAccountInfo) : DomainAccountInfo where
  accountName := if newInfo.accountName ≠ "" then newInfo.accountName else old.accountName
  accountId := if newInfo.accountId ≠ "" then newInfo.accountId else old.accountId
  serverConfigId := if newInfo.serverConfigId ≠ "" then newInfo.serverConfigId else old.serverConfigId
  domain := if newInfo.domain ≠ "" then newInfo.domain else old.domain

def stored (info : DomainAccountInfo) : DomainAccountInfo where
  domain := cStr info.domain
  accountName := cStr info.accountName
  accountId := cStr info.accountId
  serverConfigId := cStr info.serverConfigId

def domainNameMaxSize : Nat := 128

variable (localNameMaxSize : Nat)

def Fits (info : DomainAccountInfo) : Prop :=
  info.accountName.utf8ByteSize < localNameMaxSize ∧ info.domain.utf8ByteSize ≤ domainNameMaxSize

instance (info : DomainAccountInfo) : Decidable (Fits localNameMaxSize info) := inferInstanceAs (Decidable (_ ∧ _))

/-- `SetDomainInfo` refuses a name or a domain that is too long, and the account
keeps the domain account that it had. Who calls it does not look at the answer,
but for the creation of an account. -/
def setDomainInfo (old info : DomainAccountInfo) : DomainAccountInfo := if Fits localNameMaxSize info then info else old

end DomainAccountInfo

/-- An account, with the parts that creation, removal and activation read.
`creatorIsNative` says that the creator type is `TOKEN_NATIVE`. -/
structure OsAccountInfo where
  localId : Int := -1
  localName : String := ""
  shortName : String := ""
  type : OsAccountType := .admin
  isVerified : Bool := false
  isActived : Bool := false
  isCreateCompleted : Bool := false
  toBeRemoved : Bool := false
  domainInfo : DomainAccountInfo := {}
  displayId : Nat := invalidDisplayId
  isForeground : Bool := false
  isLoggedIn : Bool := false
  isDataRemovable : Bool := true
  creatorIsNative : Bool := false
  credentialId : Nat := 0
deriving DecidableEq, Repr

def OsAccountInfo.stored (info : OsAccountInfo) : OsAccountInfo :=
  { info with
    localName := cStr info.localName
    shortName := cStr info.shortName
    domainInfo := info.domainInfo.stored }

@[simp]
theorem DomainAccountInfo.stored_stored (info : DomainAccountInfo) : info.stored.stored = info.stored := by
  simp [DomainAccountInfo.stored]

namespace OsAccountInfo

variable (info : OsAccountInfo)

@[simp]
theorem stored_stored : info.stored.stored = info.stored := by
  simp [stored]

@[simp]
theorem stored_localId : info.stored.localId = info.localId := rfl

@[simp]
theorem stored_localName : info.stored.localName = cStr info.localName := rfl

@[simp]
theorem stored_shortName : info.stored.shortName = cStr info.shortName := rfl

@[simp]
theorem stored_type : info.stored.type = info.type := rfl

@[simp]
theorem stored_domainInfo : info.stored.domainInfo = info.domainInfo.stored := rfl

@[simp]
theorem stored_toBeRemoved : info.stored.toBeRemoved = info.toBeRemoved := rfl

@[simp]
theorem stored_isCreateCompleted : info.stored.isCreateCompleted = info.isCreateCompleted := rfl

@[simp]
theorem stored_creatorIsNative : info.stored.creatorIsNative = info.creatorIsNative := rfl

theorem noNul_localName (h : info.stored = info) : NoNul info.localName :=
  cStr_eq_self_iff.mp (congrArg localName h)

theorem noNul_shortName (h : info.stored = info) : NoNul info.shortName :=
  cStr_eq_self_iff.mp (congrArg shortName h)

end OsAccountInfo

structure AccountFile extends OsAccountInfo where
  constraints : List String := []
  photo : String := ""
  lastLoginTime : Int := 0
deriving DecidableEq, Repr

end OsAccount
