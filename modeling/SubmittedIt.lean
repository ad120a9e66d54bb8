import SubmittedIt.AnchorAttachment
import SubmittedIt.AnchorDiscovery
import SubmittedIt.AnchorEvidence
import SubmittedIt.AnchorExecutions
import SubmittedIt.AnchorLookback
import SubmittedIt.AnchorRecovery
import SubmittedIt.AnchorResumption
import SubmittedIt.AnchorService
import SubmittedIt.AnchorState
import SubmittedIt.AnchorTotality
import SubmittedIt.AnchorVerification
import SubmittedIt.AnchorWakes
import SubmittedIt.AnchorWorkflow
import SubmittedIt.AttemptReceipts
import SubmittedIt.BundleLaws
import SubmittedIt.BundleRuns
import SubmittedIt.BundleSigning
import SubmittedIt.BundleUpdates
import SubmittedIt.Calendar
import SubmittedIt.CanonicalForms
import SubmittedIt.CanonicalSizes
import SubmittedIt.Canonicalize
import SubmittedIt.CapturePolicy
import SubmittedIt.CaptureRequests
import SubmittedIt.ChainVerifier
import SubmittedIt.ConfirmationReviews
import SubmittedIt.ContractClient
import SubmittedIt.DeletionRetries
import SubmittedIt.DemoAcknowledgment
import SubmittedIt.DemoDatabase
import SubmittedIt.DemoEffects
import SubmittedIt.DemoRuns
import SubmittedIt.DemoService
import SubmittedIt.DemoStatus
import SubmittedIt.Encoding
import SubmittedIt.EncryptedReceipts
import SubmittedIt.EnvelopeSchema
import SubmittedIt.EventChains
import SubmittedIt.EventCores
import SubmittedIt.Executions
import SubmittedIt.ExportPackages
import SubmittedIt.FieldOrder
import SubmittedIt.FormSerialization
import SubmittedIt.IsoTime
import SubmittedIt.JsValue
import SubmittedIt.Json
import SubmittedIt.JsonTexts
import SubmittedIt.JsonValues
import SubmittedIt.Lifecycle
import SubmittedIt.LifecycleSimulation
import SubmittedIt.Linked
import SubmittedIt.NavigationObservations
import SubmittedIt.Normalize
import SubmittedIt.PrivateReceipt
import SubmittedIt.Prog
import SubmittedIt.ProgLogic
import SubmittedIt.ReceiptBundles
import SubmittedIt.ReceiptDeletion
import SubmittedIt.ReceiptImports
import SubmittedIt.ReceiptOperations
import SubmittedIt.ReceiptSchema
import SubmittedIt.ReceiptSoundness
import SubmittedIt.ReceiptTypes
import SubmittedIt.Records
import SubmittedIt.Registry
import SubmittedIt.RegistryChain
import SubmittedIt.RegistryInvariant
import SubmittedIt.RelayAbandonment
import SubmittedIt.RelayBlobIdempotency
import SubmittedIt.RelayBlobs
import SubmittedIt.RelayBroadcasts
import SubmittedIt.RelayBudgets
import SubmittedIt.RelayClient
import SubmittedIt.RelayConfirmation
import SubmittedIt.RelayDatabase
import SubmittedIt.RelayEffects
import SubmittedIt.RelayFinalization
import SubmittedIt.RelayGuards
import SubmittedIt.RelayHistory
import SubmittedIt.RelayIdempotency
import SubmittedIt.RelayInvariant
import SubmittedIt.RelayNonces
import SubmittedIt.RelayPrechecks
import SubmittedIt.RelayRateLimits
import SubmittedIt.RelayRequests
import SubmittedIt.RelayRuns
import SubmittedIt.RelayService
import SubmittedIt.RelayTypes
import SubmittedIt.RelayUploads
import SubmittedIt.RelayValidation
import SubmittedIt.Restoring
import SubmittedIt.ReviewRuns
import SubmittedIt.ReviewSafety
import SubmittedIt.SaveAtomicity
import SubmittedIt.SecureStorage
import SubmittedIt.SignedEvents
import SubmittedIt.SiteConfirmation
import SubmittedIt.SitePermissions
import SubmittedIt.StorageLoad
import SubmittedIt.StorageMigration
import SubmittedIt.StorageOpening
import SubmittedIt.StorageRuns
import SubmittedIt.StorageSchema
import SubmittedIt.StorageSettling
import SubmittedIt.StorageStaging
import SubmittedIt.StorageTidiness
import SubmittedIt.StorageTypes
import SubmittedIt.StoredReceipts
import SubmittedIt.TextSearch
import SubmittedIt.Threads
import SubmittedIt.Timestamps
import SubmittedIt.Transaction
import SubmittedIt.TypedReceipts
import SubmittedIt.Utf8
import SubmittedIt.WebTexts
