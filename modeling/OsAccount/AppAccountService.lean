import OsAccount.CloneIsolation

namespace OsAccount.AppAccountService

open Std AppAccountInfo AuthorizedAccounts AppAccountStore CloneIsolation

def nameMaxSize : Nat := 512

def extraInfoMaxSize : Nat := 1024

def bundleNameMaxSize : Nat := 512

def associatedKeyMaxSize : Nat := 1024

def associatedValueMaxSize : Nat := 1024

def maxCustomDataSize : Nat := 1024

abbrev BundleName : Type := { s : String // '#' ∉ s.toList }

structure AppAccountCallingInfo where
  callingUid : Nat
  bundleName : BundleName
  appIndex : Nat

def isOversize (str : String) (maxSize : Nat) : Bool := str.utf8ByteSize > maxSize

def isEmptyOrOversize (str : String) (maxSize : Nat) : Bool := str = "" || isOversize str maxSize

def containsSpecialChar (str : String) : Bool := [' ', '\x00'].any fun specialCharacter => specialCharacter ∈ str.toList

def AppAccountCallingInfo.account (caller : AppAccountCallingInfo) (name : String) : AppAccountInfo :=
  newAccount caller.bundleName.1 caller.appIndex name

/-- The calls that write accounts. `authorizedAppIndex` is the index that the bundle
manager has for the authorized application. -/
inductive Request
  | addAccount (caller : AppAccountCallingInfo) (name extraInfo : String)
  | createAccount (caller : AppAccountCallingInfo) (name : String) (customData : ExtTreeMap String String)
  | deleteAccount (caller : AppAccountCallingInfo) (name : String)
  | setAccountExtraInfo (caller : AppAccountCallingInfo) (name extraInfo : String)
  | enableAppAccess (caller : AppAccountCallingInfo) (name authorizedApp : String) (authorizedAppIndex : Nat)
  | disableAppAccess (caller : AppAccountCallingInfo) (name authorizedApp : String) (authorizedAppIndex : Nat)
  | setAppAccess (caller : AppAccountCallingInfo) (name authorizedApp : String) (authorizedAppIndex : Nat)
      (isAccessible : Bool)
  | onPackageRemoved (isOsAccountRemoved : Bool) (uid : Nat) (bundleName : BundleName) (appIndex : Nat)

section requests

variable (subspace : Bool) (caller : AppAccountCallingInfo) (name : String)

def refuse : StoreProgram Ret := return .error .invalidParameter

def customDataOversize (customData : ExtTreeMap String String) : Bool :=
  decide (customData.size > maxCustomDataSize) ||
    customData.toList.any fun p => isOversize p.1 associatedKeyMaxSize || isOversize p.2 associatedValueMaxSize

def serveAddAccount (extraInfo : String) : StoreProgram Ret :=
  if isEmptyOrOversize name nameMaxSize || containsSpecialChar name || isOversize extraInfo extraInfoMaxSize then refuse
  else addAccount (caller.account name) extraInfo

def serveCreateAccount (customData : ExtTreeMap String String) : StoreProgram Ret :=
  if isEmptyOrOversize name nameMaxSize || customDataOversize customData then refuse
  else createAccount (caller.account name) customData

def serveDeleteAccount : StoreProgram Ret :=
  if isEmptyOrOversize name nameMaxSize then refuse
  else deleteAccount (caller.account name) caller.callingUid name

def serveSetAccountExtraInfo (extraInfo : String) : StoreProgram Ret :=
  if isEmptyOrOversize name nameMaxSize || containsSpecialChar name || isOversize extraInfo extraInfoMaxSize then refuse
  else setAccountExtraInfo (caller.account name) extraInfo

def serveEnableAppAccess (authorizedApp : String) (authorizedAppIndex : Nat) : StoreProgram Ret :=
  if isEmptyOrOversize name nameMaxSize || containsSpecialChar name ||
      isEmptyOrOversize authorizedApp bundleNameMaxSize then refuse
  else if authorizedApp = caller.bundleName.1 then refuse
  else enableAppAccess (caller.account name) (encodeAuthorizedApp subspace authorizedApp authorizedAppIndex) apiVersion7

def serveDisableAppAccess (authorizedApp : String) (authorizedAppIndex : Nat) : StoreProgram Ret :=
  if isEmptyOrOversize name nameMaxSize || containsSpecialChar name ||
      isEmptyOrOversize authorizedApp bundleNameMaxSize then refuse
  else if authorizedApp = caller.bundleName.1 then refuse
  else disableAppAccess (caller.account name) (encodeAuthorizedApp subspace authorizedApp authorizedAppIndex) apiVersion7

def serveSetAppAccess (authorizedApp : String) (authorizedAppIndex : Nat) (isAccessible : Bool) : StoreProgram Ret :=
  if isEmptyOrOversize name nameMaxSize || isEmptyOrOversize authorizedApp bundleNameMaxSize then refuse
  else if authorizedApp = caller.bundleName.1 then
    if isAccessible then return .ok () else refuse
  else if isAccessible then
    enableAppAccess (caller.account name) (encodeAuthorizedApp subspace authorizedApp authorizedAppIndex) apiVersion9
  else
    disableAppAccess (caller.account name) (encodeAuthorizedApp subspace authorizedApp authorizedAppIndex) apiVersion9

def serve : Request → StoreProgram Ret
  | .addAccount caller name extraInfo => serveAddAccount caller name extraInfo
  | .createAccount caller name customData => serveCreateAccount caller name customData
  | .deleteAccount caller name => serveDeleteAccount caller name
  | .setAccountExtraInfo caller name extraInfo => serveSetAccountExtraInfo caller name extraInfo
  | .enableAppAccess caller name authorizedApp authorizedAppIndex =>
      serveEnableAppAccess subspace caller name authorizedApp authorizedAppIndex
  | .disableAppAccess caller name authorizedApp authorizedAppIndex =>
      serveDisableAppAccess subspace caller name authorizedApp authorizedAppIndex
  | .setAppAccess caller name authorizedApp authorizedAppIndex isAccessible =>
      serveSetAppAccess subspace caller name authorizedApp authorizedAppIndex isAccessible
  | .onPackageRemoved isOsAccountRemoved uid bundleName appIndex =>
      onPackageRemoved isOsAccountRemoved uid bundleName.1 appIndex

end requests

theorem encodeAuthorizedApp_ne_empty {subspace : Bool} {bundleName : String} (h : bundleName ≠ "") (appIndex : Nat) :
    encodeAuthorizedApp subspace bundleName appIndex ≠ "" := by
  have hjoin : bundleName ++ hyphen ++ toString appIndex ≠ "" := by
    intro he
    have hlist := congrArg String.toList he
    simp [String.toList_append, hyphen] at hlist
  unfold encodeAuthorizedApp
  split
  · exact hjoin
  · split
    · exact h
    · exact hjoin

end OsAccount.AppAccountService
