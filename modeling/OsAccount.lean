import OsAccount.OrderedMap
import OsAccount.Machine
import OsAccount.ErrCode
import OsAccount.PrivilegeTable
import OsAccount.PrivilegeRecords
import OsAccount.PrivilegeCache
import OsAccount.PrivilegeCacheParts
import OsAccount.PrivilegeCacheRemoval
import OsAccount.PrivilegeCacheRestart
import OsAccount.PrivilegeRelease
import OsAccount.PrivilegeCacheInvariant
import OsAccount.KernelGrants
import OsAccount.KernelAcquisition
import OsAccount.PrivilegeUpdate
import OsAccount.AccountRemoval
import OsAccount.AuthorizationReuse
import OsAccount.PidReuse
import OsAccount.Fields
import OsAccount.CText
import OsAccount.JsonUtils
import OsAccount.ConstraintStore
import OsAccount.ConstraintUpdate
import OsAccount.ConstraintRemoval
import OsAccount.Decimal
import OsAccount.SharedRecord
import OsAccount.AccountList
import OsAccount.AccountListSharing
import OsAccount.PrivilegeCacheText
import OsAccount.PrivilegeCacheRoundTrip
import OsAccount.PrivilegeCacheFile
import OsAccount.AuthorizationSessions
import OsAccount.AuthorizationSessionMaps
import OsAccount.SessionSeparation
import OsAccount.AccountFiles
import OsAccount.SerialNumbers
import OsAccount.AccountListRecovery
import OsAccount.PosixMap
import OsAccount.PosixMapFile
import OsAccount.PosixGroups
import OsAccount.ModalSession
import OsAccount.OsAccountInfo
import OsAccount.MarkedProcesses
import OsAccount.OperatingMarker
import OsAccount.AccountDirectory
import OsAccount.DirectoryRules
import OsAccount.LocalNames
import OsAccount.AccountQuota
import OsAccount.Activation
import OsAccount.ActivationInvariant
import OsAccount.DefaultActivation
import OsAccount.AccountConstraints
import OsAccount.ConstraintSetters
import OsAccount.RecordFields
import OsAccount.AccountRecord
import OsAccount.DomainBinding
import OsAccount.DistributedAccount
import OsAccount.CyclicSearch
import OsAccount.SubProfiles
import OsAccount.SubProfileContexts
import OsAccount.SubProfileGarbage
import OsAccount.SubProfileSlots
import OsAccount.SubProfileSwitch
import OsAccount.SubProfileForeground
import OsAccount.ConstraintDocuments
import OsAccount.ConstraintQueries
import OsAccount.AccountWriters
import OsAccount.AccountViews
import OsAccount.AccountCreations
import OsAccount.ConstraintAgreement
import OsAccount.Program
import OsAccount.AppAccountInfo
import OsAccount.AuthorizedAccounts
import OsAccount.AppAccountStore
import OsAccount.CloneIsolation
import OsAccount.AppAccountService
import OsAccount.RecordFrames
import OsAccount.AppAccountAuthorization
import OsAccount.OAuthTokens
import OsAccount.TokenPolicy
import OsAccount.DistributedStorage
import OsAccount.SubProfileAccounts
import OsAccount.SubProfileRecords
import OsAccount.SubProfileEffects
import OsAccount.SubProfileBindings
import OsAccount.BindingEvents
import OsAccount.AppAccountFailures
import OsAccount.AssociatedDataCache
import OsAccount.AppAccountTexts
import OsAccount.AssetStore
import OsAccount.TokenDeletion
import OsAccount.AccountSecrets
import OsAccount.FileTransaction
import OsAccount.DigestFile
import OsAccount.TamperDetection
import OsAccount.AccountSubscriptions
import OsAccount.CredentialKeys
import OsAccount.DomainAuthentication
import OsAccount.LabelSelection
import OsAccount.SourcedCache
import OsAccount.AccountTypeCache
import OsAccount.VerifiedAccounts
import OsAccount.DomainBindRecovery
import OsAccount.LocalIdAllocation
import OsAccount.DefaultActivatedIds
import OsAccount.NameBuffers
import OsAccount.ByteRecords
import OsAccount.SoftwareTokens
import OsAccount.HeadlessProfile
import OsAccount.AccountBackups
import OsAccount.ConstraintListeners
import OsAccount.ConstraintSubscribers
import OsAccount.SwitchEvents
import OsAccount.StopHandshake
import OsAccount.RestoreFiles
import OsAccount.RestoreRollback
import OsAccount.PosixMapText
import OsAccount.CacheEviction
import OsAccount.ProcessStat
import OsAccount.Base64
import OsAccount.PhotoCodec
import OsAccount.CStrings
import OsAccount.PosixBuffers
import OsAccount.SubscriptionAccess
import OsAccount.AccountSelection
import OsAccount.DisplayConfig
import OsAccount.DisplayUserZones
import OsAccount.ForegroundQueries
import OsAccount.AppAccountLimits
import OsAccount.TypedQueue
import OsAccount.AppAccountCodecs
import OsAccount.PrivilegeCleanUp
import OsAccount.KeyedLocks
import OsAccount.Segments
import OsAccount.LockTables
import OsAccount.ChunkedDigest
import OsAccount.Strtoull
import OsAccount.Uint64Json
import OsAccount.LikePatterns
import OsAccount.DatabaseAdapters
import OsAccount.DatabaseInterchange
import OsAccount.TransactionPrograms
import OsAccount.Interleavings
import OsAccount.AppAccountCalls
import OsAccount.LostUpdates
import OsAccount.MarkedResources
import OsAccount.AccountResources
import OsAccount.BackedAccounts
import OsAccount.SettledAccounts
