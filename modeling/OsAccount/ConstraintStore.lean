import OsAccount.ErrCode
import OsAccount.JsonUtils

namespace OsAccount.ConstraintStore

open JsonUtils

def allGlobalConstraints : String := "allGlobalConstraints"

def deviceOwnerId : String := "deviceOwnerId"

def allSpecificConstraints : String := "allSpecificConstraints"

/-- The variables of the loop over the given constraints: the document, the
keys to be deleted after the loop, and the list of all constraints. -/
structure Loop where
  json : Json
  waitForErase : List String
  constraintsList : List String

def removeConstraintsFromJsonOperate (constraintType constraint idStr : String) (l : Loop) : Loop :=
  let constraintSourceList := (getVectorStringFromJson l.json constraint).filter (· ≠ idStr)
  if constraintSourceList = [] then
    let constraintsList := l.constraintsList.filter (· ≠ constraint)
    ⟨addVectorStringToJson l.json constraintType constraintsList, l.waitForErase ++ [constraint], constraintsList⟩
  else { l with json := addVectorStringToJson l.json constraint constraintSourceList }

def addConstraint (constraintType constraint idStr : String) (l : Loop) : Loop :=
  if constraint ∈ l.constraintsList then
    let constraintSourceList := getVectorStringFromJson l.json constraint
    if idStr ∈ constraintSourceList then l
    else { l with json := addVectorStringToJson l.json constraint (constraintSourceList ++ [idStr]) }
  else
    let constraintsList := l.constraintsList ++ [constraint]
    let json := addVectorStringToJson l.json constraint [idStr]
    { l with
      json := addVectorStringToJson json constraintType constraintsList
      constraintsList := constraintsList }

def dataOperate (constraintType : String) (body : Loop → String → Loop) (constraints : List String) (j : Json) :
    Json :=
  let l := constraints.foldl body ⟨j, [], getVectorStringFromJson j constraintType⟩
  l.waitForErase.foldl deleteItemFromJson l.json

def globalConstraintsDataOperate (idStr : String) (constraints : List String) (isAdd : Bool) (j : Json) : Json :=
  dataOperate allGlobalConstraints (fun l c =>
    if isAdd then addConstraint allGlobalConstraints c idStr l
    else if c ∈ l.constraintsList then removeConstraintsFromJsonOperate allGlobalConstraints c idStr l
    else l) constraints j

def specificConstraintsDataOperate (idStr : String) (constraints : List String) (isAdd : Bool) (j : Json) : Json :=
  dataOperate allSpecificConstraints (fun l c =>
    if isAdd then addConstraint allSpecificConstraints c idStr l
    else if isKeyExist l.json c then removeConstraintsFromJsonOperate allSpecificConstraints c idStr l
    else l) constraints j

structure FileAnswer where
  read : Ret
  write : Ret

def updateGlobalOAConstraints (a : FileAnswer) (idStr : String) (constraints : List String) (isAdd : Bool)
    (file : Json) : Ret × Json :=
  match a.read, a.write with
  | .error ret, _ => (.error ret, file)
  | .ok (), .error ret => (.error ret, file)
  | .ok (), .ok () => (.ok (), globalConstraintsDataOperate idStr constraints isAdd file)

def emptyTarget : Json := .obj [(allSpecificConstraints, .null)]

def specificTargetOperate (idStr targetIdStr : String) (constraints : List String) (isAdd : Bool) (j : Json) :
    Json :=
  match getItemFromJson j targetIdStr with
  | none => j
  | some d => addObjToJson j targetIdStr (specificConstraintsDataOperate idStr constraints isAdd d)

def updateSpecificOAConstraints (a : FileAnswer) (idStr targetIdStr : String) (constraints : List String)
    (isAdd : Bool) (file : Json) : Ret × Json :=
  match a.read with
  | .error ret => (.error ret, file)
  | .ok () =>
      if !isKeyExist file targetIdStr && !isAdd then (.ok (), file)
      else
        let j := if isKeyExist file targetIdStr then file else addObjToJson file targetIdStr emptyTarget
        match a.write with
        | .error ret => (.error ret, file)
        | .ok () => (.ok (), specificTargetOperate idStr targetIdStr constraints isAdd j)

def Imposed (constraintType : String) (j : Json) (c source : String) : Prop :=
  c ∈ getVectorStringFromJson j constraintType ∧ source ∈ getVectorStringFromJson j c

/-- The list names each constraint once, a constraint is listed if and only if
its key has a source, and no source is there twice. -/
structure WellFormed (constraintType : String) (reserved : List String) (j : Json) : Prop where
  record : IsRecord j
  nodup : (getVectorStringFromJson j constraintType).Nodup
  notReserved {c : String} : c ∈ getVectorStringFromJson j constraintType → c ∉ reserved
  listed {c : String} : c ∉ reserved →
    (c ∈ getVectorStringFromJson j constraintType ↔ getVectorStringFromJson j c ≠ [])
  sources {c : String} : c ∉ reserved → (getVectorStringFromJson j c).Nodup

end OsAccount.ConstraintStore
