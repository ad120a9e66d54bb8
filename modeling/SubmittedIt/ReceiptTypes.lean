/-
SubmittedIt/ReceiptTypes.lean

The data of packages/receipt-core (types.ts).

A value of these types is what the package's parsers return: their leaves
are in normal form, so that equality of values is equality of the canonical
texts the source compares.

* hashes and addresses are words, since the parsers lower-case the digits;
* a timestamp is its instant in milliseconds since 1970, since the parsers
  rewrite it as the UTC text of that instant;
* a text is the list of its UTF-16 code units;
* a URL is given by its origin, path and query, since the parsers drop the
  fragment and refuse credentials.

What a parser checks between the parts of a value is a field of the
structure (field identifiers are unique, a page belongs to its origin, an
authority signature sits on an authority event, …), so no value of these
types needs to be checked for it again.  The stage of an event core and the
outcome of an acknowledgment are given by the constructor of its body, and
the signer of a signature by the slot it sits in.
-/
import SubmittedIt.Registry

namespace SubmittedIt

/-! ### Leaves -/

/-- A string as its UTF-16 code units. -/
abbrev Text := List UInt16

instance : LawfulBEq Text := inferInstance

/-- The text of an ASCII literal. -/
def ascii (s : String) : Text := s.toList.map fun c => UInt16.ofNat c.toNat

/-- The `length` of a string: it counts UTF-16 code units. -/
def utf16Length (s : String) : Nat :=
  (s.toList.map fun c => if c.toNat < 0x10000 then 1 else 2).sum

/-- `HashHex`: a 32-byte hash. -/
abbrev HashHex := Bytes32

/-- `ReceiptId`. -/
abbrev ReceiptId := HashHex

/-- `AddressHex`: a 20-byte address. -/
abbrev AddressHex := Address

/-- `ZERO_HASH`. -/
def ZERO_HASH : HashHex := 0

/-- A timestamp as its instant, in milliseconds since 1970 (UTC). -/
abbrev Timestamp := Int

/-- `SUPPORTED_SCHEMA_MAJOR`. -/
def SUPPORTED_SCHEMA_MAJOR : Nat := 1

/-- A schema version `major.minor` of the supported major version. -/
structure SchemaVersion where
  major : Nat
  minor : Nat
  supported : major = SUPPORTED_SCHEMA_MAJOR
  deriving DecidableEq

/-- `CURRENT_SCHEMA_VERSION`. -/
def CURRENT_SCHEMA_VERSION : SchemaVersion := ⟨1, 0, rfl⟩

/-- A web origin: scheme `http` or `https`, host and port when not the
scheme's own. -/
structure Origin where
  secure : Bool
  hostname : Text
  port : Option Nat
  deriving DecidableEq

/-- An absolute HTTP or HTTPS URL without credentials or fragment; `query` is
`none` where the text has no `?`. -/
structure Url where
  origin : Origin
  pathname : Text
  query : Option Text
  deriving DecidableEq

/-! ### Stages -/

/-- `EventStage`. -/
inductive EventStage
  | attempted
  | siteConfirmed
  | authorityAccepted
  | authorityRejected
  deriving DecidableEq, Repr

/-- `LifecycleStage`: `NONE` or the stage of an event. -/
inductive LifecycleStage
  | none
  | entered (stage : EventStage)
  deriving DecidableEq, Repr

/-- `AUTHORITY_ACCEPTED` or `AUTHORITY_REJECTED`. -/
def EventStage.isAuthority : EventStage → Bool
  | .authorityAccepted | .authorityRejected => true
  | .attempted | .siteConfirmed => false

/-! ### Event cores -/

inductive FormEncoding
  | applicationXWwwFormUrlencoded
  | multipartFormData
  | textPlain
  | applicationJson
  | other
  deriving DecidableEq

inductive ValueControlType
  | text | textarea | hidden | checkbox | radio | selectOne | selectMultiple
  deriving DecidableEq

/-- `FieldControlType`. -/
inductive FieldControlType
  | value (type : ValueControlType)
  | password
  | file
  deriving DecidableEq

structure CapturedFileMetadata where
  lastModified : Option Timestamp
  mediaType : Option Text
  name : Text
  size : Nat
  deriving DecidableEq

/-- `CapturedField`: a password is never captured, so it has no constructor. -/
inductive CapturedField
  | value (controlType : ValueControlType) (fieldId name : Text) (values : List Text)
  | file (fieldId name : Text) (files : List CapturedFileMetadata)
  deriving DecidableEq

def CapturedField.fieldId : CapturedField → Text
  | .value _ fieldId _ _ => fieldId
  | .file fieldId _ _ => fieldId

def CapturedField.isFile : CapturedField → Bool
  | .value .. => false
  | .file .. => true

inductive ExclusionReason
  | password
  | sensitiveHiddenToken
  | autofillSecret
  | fileMetadataNotOptedIn
  | explicitlyExcluded
  deriving DecidableEq

structure ExcludedFieldDescriptor where
  controlType : FieldControlType
  fieldId : Text
  name : Option Text
  reason : ExclusionReason
  deriving DecidableEq

structure FormDescriptor where
  actionUrl : Url
  encoding : FormEncoding
  formId : Option Text
  formName : Option Text
  method : Text
  deriving DecidableEq

/-- `OriginDescriptor`: the page belongs to the declared origin. -/
structure OriginDescriptor where
  origin : Origin
  pageUrl : Url
  belongs : pageUrl.origin = origin
  deriving DecidableEq

inductive AttemptTrigger
  | formSubmit
  | requestObserved
  deriving DecidableEq

structure SubmissionAttempt where
  encoding : FormEncoding
  method : Text
  targetUrl : Url
  trigger : AttemptTrigger
  deriving DecidableEq

/-- The fields of an `AttemptedEventCore` beyond the common ones.  Of the
privacy flags only `fileMetadataIncluded` varies. -/
structure AttemptedBody where
  capturedFields : List CapturedField
  excludedFields : List ExcludedFieldDescriptor
  formDescriptor : FormDescriptor
  origin : OriginDescriptor
  fileMetadataIncluded : Bool
  submissionAttempt : SubmissionAttempt
  captured_nodup : (capturedFields.map (·.fieldId)).Nodup
  excluded_nodup : (excludedFields.map (·.fieldId)).Nodup
  consent : (∃ f ∈ capturedFields, f.isFile = true) → fileMetadataIncluded = true
  disjoint : ∀ f ∈ capturedFields, ∀ g ∈ excludedFields, f.fieldId ≠ g.fieldId
  deriving DecidableEq

inductive ConfirmationEvidenceType
  | confirmationPage
  | inlineMessage
  | redirect
  | download
  deriving DecidableEq

structure SiteConfirmation where
  evidenceType : ConfirmationEvidenceType
  message : Option Text
  pageUrl : Url
  reference : Option Text
  deriving DecidableEq

/-- `AuthorityAcknowledgment`, its outcome apart. -/
structure AuthorityAcknowledgment where
  acknowledgedAt : Timestamp
  authorityId : Text
  reason : Option Text
  reference : Option Text
  deriving DecidableEq

/-- The part of an event core that depends on its stage. -/
inductive EventBody
  | attempted (body : AttemptedBody)
  | siteConfirmed (siteConfirmation : SiteConfirmation)
  | authorityAccepted (authorityAcknowledgment : AuthorityAcknowledgment)
  | authorityRejected (authorityAcknowledgment : AuthorityAcknowledgment)
  deriving DecidableEq

def EventBody.stage : EventBody → EventStage
  | .attempted _ => .attempted
  | .siteConfirmed _ => .siteConfirmed
  | .authorityAccepted _ => .authorityAccepted
  | .authorityRejected _ => .authorityRejected

/-- `LifecycleEventCore`. -/
structure LifecycleEventCore where
  occurredAt : Timestamp
  previousEventHash : HashHex
  receiptId : ReceiptId
  schemaVersion : SchemaVersion
  body : EventBody
  deriving DecidableEq

def LifecycleEventCore.stage (core : LifecycleEventCore) : EventStage := core.body.stage

/-! ### Envelopes -/

/-- `PublicKeyDescriptor`; its algorithm and encoding are fixed. -/
structure PublicKeyDescriptor where
  keyId : Text
  value : Text
  deriving DecidableEq

/-- `SignatureEnvelope`; its algorithm and encoding are fixed. -/
structure SignatureEnvelope where
  keyId : Text
  payloadHash : HashHex
  signature : Text
  deriving DecidableEq

structure ChainAnchorMetadata where
  anchoredAt : Timestamp
  blockNumber : Nat
  chainId : Nat
  contractAddress : AddressHex
  transactionHash : HashHex
  deriving DecidableEq

/-- `LifecycleEventEnvelope`. -/
structure LifecycleEventEnvelope where
  authoritySignature : Option SignatureEnvelope
  chainAnchor : Option ChainAnchorMetadata
  core : LifecycleEventCore
  eventHash : HashHex
  extensionSignature : Option SignatureEnvelope
  authority_stage : authoritySignature.isSome = true → core.stage.isAuthority = true
  deriving DecidableEq

/-- `ExtensionSignaturePayload`. -/
structure ExtensionSignaturePayload where
  eventHash : HashHex
  receiptId : ReceiptId
  schemaVersion : SchemaVersion
  stage : EventStage
  deriving DecidableEq

/-- `AuthoritySignaturePayload`; the outcome is the one the stage names. -/
structure AuthoritySignaturePayload where
  authorityId : Text
  eventHash : HashHex
  receiptId : ReceiptId
  schemaVersion : SchemaVersion
  stage : EventStage
  deriving DecidableEq

/-- `ChainAnchorPayload`. -/
structure ChainAnchorPayload where
  chainId : Nat
  contractAddress : AddressHex
  eventHash : HashHex
  previousEventHash : HashHex
  receiptId : ReceiptId
  schemaVersion : SchemaVersion
  stage : EventStage
  deriving DecidableEq

/-! ### Hashing -/

/-- What the receipt package hashes, by hash domain. -/
inductive HashPreimage
  | event (core : LifecycleEventCore)
  | extensionSignature (payload : ExtensionSignaturePayload)
  | authoritySignature (payload : AuthoritySignaturePayload)
  deriving DecidableEq

/-- Keccak-256 of the domain-separated canonical text of a value.  Nothing is
assumed of it unless a statement says so. -/
abbrev Keccak := HashPreimage → HashHex

/-- `ReceiptProtocolError`. -/
structure ProtocolError where
  code : String
  message : String
  path : String
  deriving DecidableEq, Repr

end SubmittedIt
