import Mathlib.Control.Monad.Basic

namespace OsAccount

/-- The failure codes of the service. `sys` stands for a code passed through
from outside: errno values, IPC, time service, key store, trusted environment. -/
inductive ErrCode
  | nullPtrError
  | addDeathRecipient
  | dumpJsonError
  | badJsonFormatError
  | privilegeDenied
  | noCache
  | cacheError
  | getContentError
  | getProxyError
  | busy
  | extensionIllegal
  | invalidParameter
  | kernelDeviceNotFound
  | kernelNotifyFailed
  | systemServiceException
  | checkTimeFailed
  | idCannotCreateError
  | insertFileExistsError
  | accountInfoEmptyError
  | cannotDeleteIdError
  | maxCanCreateError
  | fileFindFileError
  | getStubError
  | notSupport
  | createSysExtensionError
  | accountNotExistError
  | accountOperatingError
  | accountAlreadyExistError
  | accountAlreadyActiveError
  | notAllowedCreationError
  | maxTypeCanCreateError
  | localIdAlreadyExistsError
  | domainAlreadyBindError
  | createOsAccountForDomainError
  | pluginNotExist
  | isOsAccountConstraintEnableError
  | notEnableMultiError
  | removeAccountActivedError
  | getSystemAbilityManager
  | ipcError
  | ipcSaDied
  | teeReachLimit
  | nameHadExisted
  | shortNameHadExisted
  | toBeRemovedError
  | updateAccountError
  | updateFileNotExistsError
  | fileAccessDenied
  | fileReadFailed
  | dataNoSpace
  | crossDisplayActiveError
  | uncompletedError
  | loggedInAccountsOversize
  | toAmAccountStartError
  | storageStopUserFailed
  | displayIdNotExistError
  | managerIdError
  | fileWriteFailed
  | fileOpenFailed
  | fileNotExist
  | fileSwapFailed
  | fileTransactionFailed
  | fileDeleError
  | fileChangeDirModeError
  | insufficientMemoryError
  | zidlAccountServiceError
  | subProfileLimit
  | subProfileRestricted
  | subProfileNotFound
  | subProfileIsForeground
  | subProfileHasActiveSession
  | subProfileDistributeAccAlreadyBound
  | addExistingAccount
  | accountMaxSize
  | getAccountInfoById
  | setAssociatedData
  | associatedDataOverSize
  | associatedDataKeyNotExist
  | getAppIndex
  | getBundleName
  | enableAppAccessAlreadyExists
  | disableAppAccessNotExisted
  | oauthListMaxSize
  | dataStorageKeyExisted
  | dataStorageKeyNotExists
  | queryDistributeDataError
  | deleteKeyFromKvstore
  | permissionDenied
  | appAccountNotExist
  | accountCredentialNotExist
  | oauthTokenNotExist
  | oauthTypeNotExist
  | oauthTokenMaxSize
  | datadealInputFileError
  | datadealJsonFileCorruption
  | jsAuthorizationDenied
  | authorizationTaError
  | operationTimeout
  | accountSubscribeNotFoundError
  | accountAreadySubscribeError
  | commonGetProxy
  | jsAccountNotFound
  | jsInvalidParameter
  | jsAccountAlreadyExist
  | jsAccountShortNameAlreadyExist
  | jsOsAccountAlreadyBound
  | jsDomainAccountAlreadyBound
  | jsAccountServiceBusy
  | sys (code : Nat)
deriving DecidableEq, Repr

abbrev Ret := Except ErrCode Unit

end OsAccount
