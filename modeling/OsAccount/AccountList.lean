import OsAccount.ErrCode
import OsAccount.JsonUtils
import OsAccount.SharedRecord
import Mathlib.Logic.Function.Iterate
import Mathlib.Data.List.Nodup
import Mathlib.Data.List.Perm.Subperm

namespace OsAccount.AccountList

open JsonUtils SharedRecord

def accountList : String := "AccountList"

def countAccountNum : String := "CountAccountNum"

def defaultActivatedAccountId : String := "DefaultActivatedAccountID"

def maxAllowCreateAccountId : String := "MaxAllowCreateAccountID"

def serialNumberNum : String := "SerialNumber"

def isSerialNumberFull : String := "isSerialNumberFull"

def nextLocalId : String := "NextLocalId"

def adminLocalId : Int := 0

def startUserId : Int := 100

def maxUserId : Int := 10736

def maxCreatableUserId : Int := 999

def defaultDisplayId : Nat := 0

def serialNumberNumStartForAdmin : Int := 20210231

def serialNumberNumStart : Int := 1

def carryNum : Int := 100000000

def buildAccountListJson (accounts : List String) : Json :=
  let defaultActivatedIds := addIntToJson createJson (toString defaultDisplayId) startUserId
  let j := addVectorStringToJson createJson accountList accounts
  let j := addIntToJson j countAccountNum accounts.length
  let j := addObjToJson j defaultActivatedAccountId defaultActivatedIds
  let j := addIntToJson j maxAllowCreateAccountId maxUserId
  let j := addInt64ToJson j serialNumberNum serialNumberNumStart
  let j := addBoolToJson j isSerialNumberFull false
  addIntToJson j nextLocalId (startUserId + 1)

def updateAccountList (idStr : String) (isAdd : Bool) (j : Json) : Effect Json ErrCode :=
  let accountIdList := getVectorStringFromJson j accountList
  let save (ids : List String) : Effect Json ErrCode :=
    .write (addIntToJson (addVectorStringToJson j accountList ids) countAccountNum ids.length)
  if isAdd then if idStr ∈ accountIdList then .keep else save (accountIdList ++ [idStr])
  else save (accountIdList.filter (· ≠ idStr))

def setNextLocalId (id : Int) (j : Json) : Json :=
  let nextLocalIdJson := (getIntFromJson j nextLocalId).getD (startUserId + 1)
  addIntToJson j nextLocalId (max id nextLocalIdJson)

/-- The search that `getNextLocalId` makes, with the number of ids left to try. -/
def searchLocalId (accountIdList : List String) : Nat → Int → Int
  | 0, _ => maxCreatableUserId + 1
  | n + 1, startId =>
      if toString startId ∉ accountIdList then startId
      else searchLocalId accountIdList n (if startId + 1 > maxCreatableUserId then startUserId + 1 else startId + 1)

def getNextLocalId (accountIdList : List String) (startId : Int) : Int :=
  searchLocalId accountIdList (maxCreatableUserId - startUserId).toNat
    (if startId ≤ startUserId ∨ startId > maxCreatableUserId then startUserId + 1 else startId)

def getAllowCreateId (strToInt : String → Option Int) (j : Json) : Except ErrCode (Int × Json) :=
  match getVectorStringFromJson? j accountList with
  | none => .error .badJsonFormatError
  | some accountIdList =>
      let next := (getIntFromJson j nextLocalId).getD <|
        match accountIdList.getLast?.bind strToInt with
        | some lastLocalId => lastLocalId + 1
        | none => startUserId + 1
      let id := getNextLocalId accountIdList next
      if id > maxCreatableUserId then .error .maxCanCreateError
      else .ok (id, addIntToJson j nextLocalId (id + 1))

def accountExistsWithSerialNumber (osAccountInfos : List Int) (serialNumber : Int) : Bool :=
  serialNumberNumStartForAdmin * carryNum + serialNumber.bmod (2 ^ 32) ∈ osAccountInfos

def nextSerialNumber (serialNumber : Int) : Int :=
  if serialNumber + 1 = carryNum then serialNumberNumStart else serialNumber + 1

def skipSerialNumbers (osAccountInfos : List Int) : Nat → Int → Int
  | 0, serialNumber => serialNumber
  | n + 1, serialNumber =>
      if serialNumber < carryNum ∧ accountExistsWithSerialNumber osAccountInfos serialNumber then
        skipSerialNumbers osAccountInfos n (nextSerialNumber serialNumber)
      else serialNumber

/-- `serialNumber` is what the caller's variable holds, and `osAccountInfos` the
answer of `GetOsAccountList`: the serial numbers of the accounts. -/
def getSerialNumber (osAccountInfos : Except ErrCode (List Int)) (serialNumber : Int) (j : Json) :
    Except ErrCode (Int × Json) := do
  let serialNumber := (getInt64FromJson j serialNumberNum).getD serialNumber
  let (serialNumber, j) :=
    if serialNumber = carryNum then (serialNumberNumStart, addBoolToJson j isSerialNumberFull true)
    else (serialNumber, j)
  let serialNumber ←
    if (getBoolFromJson j isSerialNumberFull).getD false then do
      let infos ← osAccountInfos
      pure (skipSerialNumbers infos infos.length serialNumber)
    else pure serialNumber
  pure (serialNumber + serialNumberNumStartForAdmin * carryNum, addInt64ToJson j serialNumberNum (serialNumber + 1))

section rounds

variable {osAccountInfos : List Int} {serialNumber : Int}

theorem iterate_nextSerialNumber (hlo : 1 ≤ serialNumber) (hhi : serialNumber < carryNum) (k : Nat) :
    nextSerialNumber^[k] serialNumber = (serialNumber - 1 + k) % (carryNum - 1) + 1 := by
  induction k with
  | zero => simp only [carryNum, Function.iterate_zero, id_eq] at *; omega
  | succ k ih =>
      rw [Function.iterate_succ_apply', ih]
      simp only [nextSerialNumber, carryNum, serialNumberNumStart]
      omega

theorem skipSerialNumbers_free_or (n : Nat) (serialNumber : Int) :
    ¬(skipSerialNumbers osAccountInfos n serialNumber < carryNum ∧
        accountExistsWithSerialNumber osAccountInfos (skipSerialNumbers osAccountInfos n serialNumber)) ∨
      ∀ k ≤ n, accountExistsWithSerialNumber osAccountInfos (nextSerialNumber^[k] serialNumber) := by
  induction n generalizing serialNumber with
  | zero =>
      by_cases hused : accountExistsWithSerialNumber osAccountInfos serialNumber
      · exact .inr fun k hk => by simpa [Nat.le_zero.1 hk] using hused
      · exact .inl fun h => hused h.2
  | succ n ih =>
      by_cases hused : serialNumber < carryNum ∧ accountExistsWithSerialNumber osAccountInfos serialNumber
      · rw [skipSerialNumbers, if_pos hused]
        refine (ih (nextSerialNumber serialNumber)).imp id fun hall k hk => ?_
        cases k with
        | zero => exact hused.2
        | succ k => exact hall k (by omega)
      · rw [skipSerialNumbers, if_neg hused]
        exact .inl hused

/-- The loop of the source ends: after as many rounds as there are accounts its
condition is false, since the numbers that it visits are distinct. -/
theorem skipSerialNumbers_ends (hlo : 1 ≤ serialNumber) (hcount : osAccountInfos.length + 1 < carryNum) :
    ¬(skipSerialNumbers osAccountInfos osAccountInfos.length serialNumber < carryNum ∧
      accountExistsWithSerialNumber osAccountInfos
        (skipSerialNumbers osAccountInfos osAccountInfos.length serialNumber)) := by
  by_cases hhi : serialNumber < carryNum
  · refine (skipSerialNumbers_free_or osAccountInfos.length serialNumber).resolve_right fun hall => ?_
    let used (k : Nat) : Int :=
      serialNumberNumStartForAdmin * carryNum + (nextSerialNumber^[k] serialNumber).bmod (2 ^ 32)
    have hinj {k k' : Nat} (hk : k < osAccountInfos.length + 1) (hk' : k' < osAccountInfos.length + 1)
        (h : used k = used k') : k = k' := by
      simp only [used, iterate_nextSerialNumber hlo hhi, carryNum, Int.bmod] at *
      omega
    have hnodup : ((List.range (osAccountInfos.length + 1)).map used).Nodup :=
      List.Nodup.map_on (fun k hk k' hk' => hinj (List.mem_range.1 hk)
        (List.mem_range.1 hk')) List.nodup_range
    have hsub : (List.range (osAccountInfos.length + 1)).map used ⊆ osAccountInfos := by
      intro n hn
      obtain ⟨k, hk, rfl⟩ := List.mem_map.1 hn
      exact of_decide_eq_true (hall k (Nat.lt_succ_iff.1 (List.mem_range.1 hk)))
    have hlength := (hnodup.subperm hsub).length_le
    simp only [List.length_map, List.length_range] at hlength
    omega
  · have hstay (n : Nat) : skipSerialNumbers osAccountInfos n serialNumber = serialNumber := by
      cases n with
      | zero => rfl
      | succ n => rw [skipSerialNumbers, if_neg fun h => hhi h.1]
    rw [hstay]
    exact fun h => hhi h.1

end rounds

def setDefaultActivatedOsAccount (displayId : Nat) (id : Int) (j : Json) : Except ErrCode Json :=
  match getObjFromJson j defaultActivatedAccountId, getIntFromJson j defaultActivatedAccountId with
  | some ids, _ => .ok (addObjToJson j defaultActivatedAccountId (addIntToJson ids (toString displayId) id))
  | none, some tmpId =>
      let tmpJson :=
        if displayId ≠ defaultDisplayId then addIntToJson createJson (toString defaultDisplayId) tmpId
        else createJson
      .ok (addObjToJson j defaultActivatedAccountId (addIntToJson tmpJson (toString displayId) id))
  | none, none => .error .badJsonFormatError

end OsAccount.AccountList
