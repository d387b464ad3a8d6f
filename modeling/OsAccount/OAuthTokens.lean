import OsAccount.AppAccountStore

namespace OsAccount

namespace AppAccountInfo

open Std

variable (a : AppAccountInfo)

def parseAuthorizedApp (entry : String) : Option (String × Nat) :=
  match entry.toList.reverse.dropWhile (· != '#') with
  | [] => some (entry, 0)
  | _ :: bundleName =>
      match Decimal.parseDigits (entry.toList.reverse.takeWhile (· != '#')).reverse with
      | none => none
      | some parsed => if parsed > 0xFFFFFFFF then none else some (String.ofList bundleName.reverse, parsed)

def isSelfBundle (bundleName : String) : Bool :=
  match parseAuthorizedApp bundleName with
  | some (rawBundle, appIdx) => rawBundle = a.owner && appIdx = a.appIndex
  | none => bundleName = a.owner

def getOAuthToken (authType : String) (apiVersion : Nat) : Except ErrCode String :=
  match a.oauthTokens[authType]? with
  | none => .error .oauthTokenNotExist
  | some tokenInfo =>
      if apiVersion ≥ apiVersion9 then
        if !tokenInfo.status then .error .oauthTokenNotExist else .ok tokenInfo.token
      else if tokenInfo.token = "" then .error .oauthTokenNotExist
      else .ok tokenInfo.token

def setOAuthToken (authType token : String) : Except ErrCode AppAccountInfo :=
  match a.oauthTokens[authType]? with
  | some tokenInfo =>
      .ok { a with oauthTokens := a.oauthTokens.insert authType { tokenInfo with token, status := true } }
  | none =>
      if a.oauthTokens.size ≥ maxTokenNumber then .error .oauthTokenMaxSize
      else .ok { a with oauthTokens := a.oauthTokens.insert authType { token, status := token != "" } }

def deleteOAuthToken (authType token : String) : Except ErrCode AppAccountInfo :=
  match a.oauthTokens[authType]? with
  | some tokenInfo =>
      if tokenInfo.token = token then
        .ok { a with oauthTokens := a.oauthTokens.insert authType { tokenInfo with token := "", status := false } }
      else .error .oauthTokenNotExist
  | none => .error .oauthTokenNotExist

def deleteAuthToken (authType token : String) (isOwnerSelf : Bool) : Except ErrCode AppAccountInfo :=
  match a.oauthTokens[authType]? with
  | none => .error .oauthTokenNotExist
  | some tokenInfo =>
      if tokenInfo.token ≠ token then .ok a
      else if isOwnerSelf then .ok { a with oauthTokens := a.oauthTokens.erase authType }
      else .ok { a with oauthTokens := a.oauthTokens.insert authType { tokenInfo with status := false } }

def setOAuthTokenVisibility (authType bundleName : String) (isVisible : Bool) (apiVersion : Nat) :
    Except ErrCode AppAccountInfo :=
  if bundleName = a.owner || a.isSelfBundle bundleName then .ok a
  else
    match a.oauthTokens[authType]? with
    | none =>
        if apiVersion ≥ apiVersion9 then .error .oauthTypeNotExist
        else if !isVisible then .ok a
        else if a.oauthTokens.size ≥ maxTokenNumber then .error .oauthTokenMaxSize
        else .ok { a with oauthTokens := a.oauthTokens.insert authType { authList := {bundleName} } }
    | some tokenInfo =>
        if !isVisible then
          .ok { a with oauthTokens :=
            a.oauthTokens.insert authType { tokenInfo with authList := tokenInfo.authList.erase bundleName } }
        else
          let authList := tokenInfo.authList.insert bundleName
          if authList.size > maxOauthListSize then .error .oauthListMaxSize
          else .ok { a with oauthTokens := a.oauthTokens.insert authType { tokenInfo with authList } }

def checkOAuthTokenVisibility (authType bundleName : String) (apiVersion : Nat) : Except ErrCode Bool :=
  if bundleName = a.owner || a.isSelfBundle bundleName then .ok true
  else
    match a.oauthTokens[authType]? with
    | none => if apiVersion ≥ apiVersion9 then .error .oauthTypeNotExist else .ok false
    | some tokenInfo => .ok (tokenInfo.authList.contains bundleName)

def getOAuthList (authType : String) (apiVersion : Nat) : Except ErrCode (ExtTreeSet String) :=
  match a.oauthTokens[authType]? with
  | none => if apiVersion ≥ apiVersion9 then .error .oauthTypeNotExist else .ok ∅
  | some tokenInfo => .ok tokenInfo.authList

def getAllOAuthTokens : List OAuthTokenInfo := a.oauthTokens.toList.map Prod.snd

end AppAccountInfo

namespace OAuthTokens

open Std AppAccountInfo AppAccountStore

/-- A request of a session. `bundleName` is the application that a call on the
visibility is about. -/
structure AuthenticatorSessionRequest where
  name : String
  owner : String := ""
  authType : String := ""
  token : String := ""
  bundleName : String := ""
  callerBundleName : String
  callerUid : Nat := 0
  appIndex : Nat
  isTokenVisible : Bool := false

variable (subspace : Bool) (request : AuthenticatorSessionRequest) (resolvedAppIndex targetAppIndex apiVersion : Nat)

def callerKey : String := encodeAuthorizedApp subspace request.callerBundleName request.appIndex

/-- `resolvedAppIndex` is the index that the bundle manager has for the owner. -/
def getOAuthToken : StoreProgram (Except ErrCode String) := do
  match ← getAccountInfoFromDataStorage (newAccount request.owner resolvedAppIndex request.name) with
  | .error _ => return .error .appAccountNotExist
  | .ok info =>
  match info.checkOAuthTokenVisibility request.authType (callerKey subspace request) apiVersion with
  | .ok true => return info.getOAuthToken request.authType apiVersion
  | _ => return .error .permissionDenied

def setOAuthToken : StoreProgram Ret := do
  match ← getAccountInfoFromDataStorage (newAccount request.callerBundleName resolvedAppIndex request.name) with
  | .error _ => return .error .appAccountNotExist
  | .ok info =>
  match info.setOAuthToken request.authType request.token with
  | .error e => return .error e
  | .ok info => saveAccountInfo info

def deletedToken (info : AppAccountInfo) : Except ErrCode AppAccountInfo :=
  if apiVersion ≥ apiVersion9 then
    info.deleteAuthToken request.authType request.token (request.owner = request.callerBundleName)
  else info.deleteOAuthToken request.authType request.token

def deleteOAuthToken : StoreProgram Ret := do
  match ← getAccountInfoFromDataStorage (newAccount request.owner resolvedAppIndex request.name) with
  | .error _ => return .error .appAccountNotExist
  | .ok info =>
  match info.checkOAuthTokenVisibility request.authType (callerKey subspace request) apiVersion with
  | .ok true =>
      match deletedToken request apiVersion info with
      | .error e => return if apiVersion ≥ apiVersion9 then .error e else .ok ()
      | .ok info => saveAccountInfo info
  | _ => return .error .permissionDenied

/-- `targetAppIndex` is the index that the bundle manager has for the application
that shall see the token. -/
def setOAuthTokenVisibility : StoreProgram Ret := do
  match ← getAccountInfoFromDataStorage (newAccount request.callerBundleName request.appIndex request.name) with
  | .error _ => return .error .appAccountNotExist
  | .ok info =>
  match info.setOAuthTokenVisibility request.authType
      (encodeAuthorizedApp subspace request.bundleName targetAppIndex) request.isTokenVisible apiVersion with
  | .error e => return .error e
  | .ok info => saveAccountInfo info

def checkOAuthTokenVisibility : StoreProgram (Except ErrCode Bool) := do
  match ← getAccountInfoFromDataStorage (newAccount request.owner request.appIndex request.name) with
  | .error _ => return .error .appAccountNotExist
  | .ok info =>
      let bundleKey := encodeAuthorizedApp subspace request.bundleName targetAppIndex
      return info.checkOAuthTokenVisibility request.authType bundleKey apiVersion

/-- The loop over the tokens. An empty token without readers is one of API 8 that
was deleted. -/
def visibleTokens (isSelf : Bool) (bundleKey : String) : List OAuthTokenInfo → List OAuthTokenInfo
  | [] => []
  | tokenInfo :: rest =>
      if !isSelf && !tokenInfo.authList.contains bundleKey then visibleTokens isSelf bundleKey rest
      else if tokenInfo.token = "" && tokenInfo.authList.isEmpty then visibleTokens isSelf bundleKey rest
      else { tokenInfo with authList := ∅ } :: visibleTokens isSelf bundleKey rest

def getAllOAuthTokens : StoreProgram (Except ErrCode (List OAuthTokenInfo)) := do
  match ← getAccountInfoFromDataStorage (newAccount request.owner resolvedAppIndex request.name) with
  | .error _ => return .error .appAccountNotExist
  | .ok info =>
      let isSelf := request.callerBundleName = request.owner && request.appIndex = resolvedAppIndex
      return .ok (visibleTokens isSelf (callerKey subspace request) info.getAllOAuthTokens)

end OAuthTokens

end OsAccount
