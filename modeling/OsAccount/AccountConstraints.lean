import OsAccount.ConstraintRemoval
import OsAccount.OrderedMap
import OsAccount.OsAccountInfo

namespace OsAccount.AccountConstraints

open Std JsonUtils ConstraintStore ConstraintUpdate AccountList
open ConstraintRemoval (ConstraintFiles saved)

def constraintAdminAuthorize : String := "constraint.os.account.admin.authorize"

structure Build where
  supportAuthorization : Bool
  isEmulator : Bool

/-- The account files, the constraint files and the device owner. `typeCache` has
the types of accounts that were asked for, with the mark that the trusted
environment does not know the account, and `tee` the types that it knows. -/
structure State where
  accounts : ExtTreeMap Int AccountFile compare
  files : ConstraintFiles
  deviceOwnerId : Int
  typeCache : ExtTreeMap Int (OsAccountType × Bool) compare
  tee : ExtTreeMap Int OsAccountType compare

structure Definition where
  constraintSet : List String
  names : ∀ c ∈ constraintSet, c ∉ globalReserved ∧ c ∉ specificReserved ∧ c ≠ ""

def checkConstraints (definition : Option Definition) (constraints : List String) : Bool :=
  match definition with
  | none => false
  | some definition => constraints.all (· ∈ definition.constraintSet)

def changeConstraints (enable : Bool) (constraints oldConstraints : List String) : List String :=
  constraints.foldl (fun old c =>
    if enable then if c ∈ old then old else old ++ [c]
    else old.filter (· ≠ c)) oldConstraints

def updateBaseOAConstraints (a : FileAnswer) (idStr : String) (constraints : List String) (isAdd : Bool)
    (file : Json) : Ret × Json :=
  match a.read with
  | .error ret => (.error ret, file)
  | .ok () =>
      if !isKeyExist file idStr then
        if !isAdd then (.ok (), file) else saved a.write file (addVectorStringToJson file idStr constraints)
      else
        let baseOAConstraints := changeConstraints isAdd constraints (getVectorStringFromJson file idStr)
        saved a.write file (addVectorStringToJson file idStr baseOAConstraints)

def getGlobalOAConstraintsList (file : Json) : Except ErrCode (List String) :=
  if fields file = [] then .error .getContentError else .ok (getVectorStringFromJson file allGlobalConstraints)

def targetOf (file : Json) (id : Int) : Json := (getItemFromJson file (toString id)).getD .null

def getSpecificOAConstraintsList (file : Json) (id : Int) : Except ErrCode (List String) :=
  if fields file = [] then .error .getContentError
  else .ok (getVectorStringFromJson (targetOf file id) allSpecificConstraints)

variable (s : State)

def getOsAccountInfoById (read : Ret) (id : Int) : Except ErrCode AccountFile :=
  match s.accounts[id]? with
  | none => .error .accountNotExistError
  | some info => read.map fun _ => info

def updateOsAccount (write : Ret) (id : Int) (info : AccountFile) : Ret × State :=
  if id ∉ s.accounts then (.error .updateFileNotExistsError, s)
  else
    match write with
    | .error e => (.error e, s)
    | .ok () => (.ok (), { s with accounts := s.accounts.insert id info })

def refreshAccountTypeInCache (ask : Ret) (id : Int) (localType : OsAccountType) : (OsAccountType × Bool) × State :=
  match s.typeCache[id]? with
  | some cachedType => (cachedType, s)
  | none =>
      match ask with
      | .error _ => ((localType, false), s)
      | .ok () =>
          let outType :=
            match s.tee[id]? with
            | some realType => (realType, false)
            | none => (localType, true)
          (outType, { s with typeCache := s.typeCache.insert id outType })

def adminConstraints (constraints : List String) : List String :=
  if constraintAdminAuthorize ∈ constraints then constraints else constraints ++ [constraintAdminAuthorize]

/-- An administrator that the trusted environment does not know gets one more constraint. -/
def getRealOsAccountInfoById (b : Build) (read ask : Ret) (id : Int) : Except ErrCode AccountFile × State :=
  match getOsAccountInfoById s read id with
  | .error e => (.error e, s)
  | .ok info =>
      if b.supportAuthorization && !b.isEmulator then
        let (cachedType, s) := refreshAccountTypeInCache s ask id info.type
        let constraints :=
          if id ≥ startUserId ∧ cachedType.1 = .admin ∧ cachedType.2 then adminConstraints info.constraints
          else info.constraints
        (.ok { info with constraints, type := cachedType.1 }, s)
      else (.ok info, s)

def isOsAccountConstraintEnable (b : Build) (ask : Ret) (id : Int) (constraint : String) : Except ErrCode Bool :=
  match (getRealOsAccountInfoById s b (.ok ()) ask id).1 with
  | .error _ => .error .accountNotExistError
  | .ok info => .ok (
      constraint ∈ info.constraints ∨
      constraint ∈ ((getGlobalOAConstraintsList s.files.global).toOption.getD []) ∨
      constraint ∈ ((getSpecificOAConstraintsList s.files.specific id).toOption.getD []))

structure SetAnswer where
  recover : Ret
  enforcer : Ret
  account : Ret
  definition : Option Definition
  updateOsAccount : Ret
  constraints : FileAnswer
  owner : FileAnswer

def setOsAccountConstraints (a : SetAnswer) (id : Int) (constraints : List String) (enable : Bool) : Ret × State :=
  match getOsAccountInfoById s a.account id with
  | .error _ => (.error .accountNotExistError, s)
  | .ok info =>
      if info.toBeRemoved then (.error .toBeRemovedError, s)
      else if !checkConstraints a.definition constraints then (.error .invalidParameter, s)
      else
        match updateOsAccount s a.updateOsAccount id
            { info with constraints := changeConstraints enable constraints info.constraints } with
        | (.error _, s) => (.error .updateAccountError, s)
        | (.ok (), s) => (.ok (), s)

def setBaseOsAccountConstraints (a : SetAnswer) (id : Int) (constraints : List String) (enable : Bool) : Ret × State :=
  match a.recover with
  | .error _ => (.error .fileWriteFailed, s)
  | .ok () =>
      match setOsAccountConstraints s a id constraints enable with
      | (.error e, s) => (.error e, s)
      | (.ok (), s) =>
          let (ret, base) := updateBaseOAConstraints a.constraints (toString id) constraints enable s.files.base
          (ret, { s with files := { s.files with base } })

def updateDeviceOwnerId (a : FileAnswer) (deviceOwner : Int) (file : Json) : Ret × Json :=
  match a.read with
  | .error ret => (.error ret, file)
  | .ok () => saved a.write file (addIntToJson file deviceOwnerId deviceOwner)

def setDeviceOwnerId (a : FileAnswer) (deviceOwner : Int) : Ret × State :=
  match updateDeviceOwnerId a deviceOwner s.files.global with
  | (.error e, global) => (.error e, { s with files := { s.files with global } })
  | (.ok (), global) => (.ok (), { s with files := { s.files with global }, deviceOwnerId := deviceOwner })

def dealWithDeviceOwnerId (a : FileAnswer) (isDeviceOwner : Bool) (localId : Int) : Ret × State :=
  if isDeviceOwner ∧ localId ≠ s.deviceOwnerId then setDeviceOwnerId s a localId
  else if isDeviceOwner = false ∧ localId = s.deviceOwnerId then setDeviceOwnerId s a (-1)
  else (.ok (), s)

def setGlobalOsAccountConstraints (a : SetAnswer) (constraints : List String) (enable : Bool) (enforcerId : Int)
    (isDeviceOwner : Bool) : Ret × State :=
  match getOsAccountInfoById s a.enforcer enforcerId with
  | .error _ => (.error .accountNotExistError, s)
  | .ok osAccountInfo =>
      if osAccountInfo.toBeRemoved then (.error .toBeRemovedError, s)
      else if !checkConstraints a.definition constraints then (.error .invalidParameter, s)
      else
        let (_, global) :=
          updateGlobalOAConstraints a.constraints (toString enforcerId) constraints enable s.files.global
        dealWithDeviceOwnerId { s with files := { s.files with global } } a.owner isDeviceOwner enforcerId

def setSpecificOsAccountConstraints (a : SetAnswer) (constraints : List String) (enable : Bool)
    (targetId enforcerId : Int) (isDeviceOwner : Bool) : Ret × State :=
  match getOsAccountInfoById s a.enforcer enforcerId, getOsAccountInfoById s a.account targetId with
  | .error _, _ => (.error .accountNotExistError, s)
  | .ok _, .error _ => (.error .accountNotExistError, s)
  | .ok enforcerOsAccountInfo, .ok targetOsAccountInfo =>
      if targetOsAccountInfo.toBeRemoved || enforcerOsAccountInfo.toBeRemoved then (.error .toBeRemovedError, s)
      else if !checkConstraints a.definition constraints then (.error .invalidParameter, s)
      else
        let (_, specific) := updateSpecificOAConstraints a.constraints (toString enforcerId) (toString targetId)
          constraints enable s.files.specific
        dealWithDeviceOwnerId { s with files := { s.files with specific } } a.owner isDeviceOwner enforcerId

end OsAccount.AccountConstraints
