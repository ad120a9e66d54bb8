/-
SubmittedIt/ReceiptSchema.lean

The parsers of event cores (packages/receipt-core, schema.ts and sensitive.ts).

A parsed value has texts at its leaves, and `value` writes it as the object
that the parser returns.

Of every record the fields are parsed in the order of the source, and the
checks between them stand where they do there.
-/
import SubmittedIt.Records
import SubmittedIt.StorageTypes

namespace SubmittedIt.Protocol

open JsValue (member hasOwn)

/-! ### Sensitive names -/

/-- Two words with `_`, `-` or nothing between them. -/
def joinedWords (first second : String) : List Text :=
  [ascii first ++ ascii second, ascii first ++ ascii "_" ++ ascii second,
    ascii first ++ ascii "-" ++ ascii second]

/-- The words of `SENSITIVE_HIDDEN_NAME_PATTERN`. -/
def sensitiveWords : List Text :=
  ["csrf", "xsrf", "auth", "authentication", "authorization", "session"].map ascii ++
    joinedWords "api" "key" ++ joinedWords "client" "secret" ++ joinedWords "access" "token" ++
    joinedWords "refresh" "token" ++ joinedWords "id" "token" ++ joinedWords "bearer" "token" ++
    ["token", "nonce", "secret"].map ascii

/-- The words of `SENSITIVE_COMPACT_NAME_PATTERN`. -/
def sensitiveCompactWords : List Text :=
  ["csrf", "xsrf", "authtoken", "authenticationtoken", "authorization", "authenticitytoken",
    "requestverificationtoken", "apikey", "apisecret", "clientsecret", "secretkey", "accesstoken",
    "refreshtoken", "idtoken", "bearertoken", "session", "nonce"].map ascii

/-- What separates words: `[_:.-]`. -/
def isWordSeparator (u : UInt16) : Bool := (ascii "_:.-").contains u

/-- `SENSITIVE_HIDDEN_NAME_PATTERN.test`: a word between separators or ends, in
any case. -/
def matchesSensitiveName (text : Text) : Bool :=
  (List.range (text.length + 1)).any fun start =>
    (start = 0 || text[start - 1]?.any isWordSeparator) &&
      sensitiveWords.any fun word =>
        word.isPrefixOf ((text.drop start).map lowerUnit) &&
          text[start + word.length]?.all isWordSeparator

/-- `SENSITIVE_COMPACT_NAME_PATTERN.test`: a word anywhere. -/
def matchesSensitiveCompact (text : Text) : Bool :=
  text.tails.any fun rest => sensitiveCompactWords.any fun word => word.isPrefixOf rest

section schema

variable (Q : ReceiptPlatform)

/-- `isSensitiveHiddenFieldName`. -/
def isSensitiveHiddenFieldName (name : Text) : Bool :=
  let normalized := normalizeText Q.toTextPlatform name
  matchesSensitiveName normalized ||
    matchesSensitiveCompact ((Q.toLowerCase normalized).filter fun u =>
      Json.isDigit u || (97 ≤ u && u ≤ 122))

/-- `isAutofillSecret`; empty tokens are no secrets. -/
def isAutofillSecret (autocomplete : Option Text) : Bool :=
  match autocomplete with
  | none => false
  | some text =>
    ((Q.toLowerCase (normalizeText Q.toTextPlatform text)).splitOnP isWhiteSpace).any fun token =>
      (["current-password", "new-password", "one-time-code"].map ascii).contains token ||
        (ascii "cc-").isPrefixOf token

/-! ### Enumerations -/

def formEncodingText : FormEncoding → Text
  | .applicationXWwwFormUrlencoded => ascii "APPLICATION_X_WWW_FORM_URLENCODED"
  | .multipartFormData => ascii "MULTIPART_FORM_DATA"
  | .textPlain => ascii "TEXT_PLAIN"
  | .applicationJson => ascii "APPLICATION_JSON"
  | .other => ascii "OTHER"

/-- `FORM_ENCODINGS`. -/
def FORM_ENCODINGS : List FormEncoding :=
  [.applicationXWwwFormUrlencoded, .multipartFormData, .textPlain, .applicationJson, .other]

def valueControlTypeText : ValueControlType → Text
  | .text => ascii "TEXT"
  | .textarea => ascii "TEXTAREA"
  | .hidden => ascii "HIDDEN"
  | .checkbox => ascii "CHECKBOX"
  | .radio => ascii "RADIO"
  | .selectOne => ascii "SELECT_ONE"
  | .selectMultiple => ascii "SELECT_MULTIPLE"

def fieldControlTypeText : FieldControlType → Text
  | .value type => valueControlTypeText type
  | .password => ascii "PASSWORD"
  | .file => ascii "FILE"

/-- `FIELD_CONTROL_TYPES`. -/
def FIELD_CONTROL_TYPES : List FieldControlType :=
  [.value .text, .value .textarea, .value .hidden, .value .checkbox, .value .radio,
    .value .selectOne, .value .selectMultiple, .password, .file]

def exclusionReasonText : ExclusionReason → Text
  | .password => ascii "PASSWORD"
  | .sensitiveHiddenToken => ascii "SENSITIVE_HIDDEN_TOKEN"
  | .autofillSecret => ascii "AUTOFILL_SECRET"
  | .fileMetadataNotOptedIn => ascii "FILE_METADATA_NOT_OPTED_IN"
  | .explicitlyExcluded => ascii "EXPLICITLY_EXCLUDED"

/-- `EXCLUSION_REASONS`. -/
def EXCLUSION_REASONS : List ExclusionReason :=
  [.password, .sensitiveHiddenToken, .autofillSecret, .fileMetadataNotOptedIn, .explicitlyExcluded]

def attemptTriggerText : AttemptTrigger → Text
  | .formSubmit => ascii "FORM_SUBMIT"
  | .requestObserved => ascii "REQUEST_OBSERVED"

def evidenceTypeText : ConfirmationEvidenceType → Text
  | .confirmationPage => ascii "CONFIRMATION_PAGE"
  | .inlineMessage => ascii "INLINE_MESSAGE"
  | .redirect => ascii "REDIRECT"
  | .download => ascii "DOWNLOAD"

inductive AuthorityOutcome
  | accepted
  | rejected
  deriving DecidableEq

def authorityOutcomeText : AuthorityOutcome → Text
  | .accepted => ascii "ACCEPTED"
  | .rejected => ascii "REJECTED"

def eventStageText : EventStage → Text
  | .attempted => ascii "ATTEMPTED"
  | .siteConfirmed => ascii "SITE_CONFIRMED"
  | .authorityAccepted => ascii "AUTHORITY_ACCEPTED"
  | .authorityRejected => ascii "AUTHORITY_REJECTED"

/-- `EVENT_STAGES`. -/
def EVENT_STAGES : List EventStage :=
  [.attempted, .siteConfirmed, .authorityAccepted, .authorityRejected]

inductive SignatureSigner
  | extension
  | authority
  deriving DecidableEq

def signatureSignerText : SignatureSigner → Text
  | .extension => ascii "EXTENSION"
  | .authority => ascii "AUTHORITY"

/-! ### Fields -/

/-- `CapturedFileMetadata`. -/
@[ext] structure CapturedFileMetadata where
  lastModified : Option Text
  mediaType : Option Text
  name : Text
  size : Nat
  deriving DecidableEq

def CapturedFileMetadata.value (file : CapturedFileMetadata) : JsValue :=
  record [(ascii "lastModified", writeOption .string file.lastModified),
    (ascii "mediaType", writeOption .string file.mediaType), (ascii "name", .string file.name),
    (ascii "size", writeNat file.size)]

/-- `CapturedField`: a password is never captured, so it has no constructor. -/
inductive CapturedField
  | value (controlType : ValueControlType) (fieldId name : Text) (values : List Text)
  | file (fieldId name : Text) (files : List CapturedFileMetadata)
  deriving DecidableEq

namespace CapturedField

def fieldId : CapturedField → Text
  | value _ fieldId _ _ | file fieldId _ _ => fieldId

def name : CapturedField → Text
  | value _ _ name _ | file _ name _ => name

def controlType : CapturedField → FieldControlType
  | value controlType .. => .value controlType
  | file .. => .file

def members : CapturedField → List (Text × JsValue)
  | value controlType fieldId name values => [(ascii "fieldId", .string fieldId),
      (ascii "name", .string name),
      (ascii "controlType", writeEnum fieldControlTypeText (.value controlType)),
      (ascii "values", writeList .string values)]
  | file fieldId name files => [(ascii "fieldId", .string fieldId), (ascii "name", .string name),
      (ascii "controlType", writeEnum fieldControlTypeText .file),
      (ascii "files", writeList CapturedFileMetadata.value files)]

def write (field : CapturedField) : JsValue := record field.members

end CapturedField

/-- `ExcludedFieldDescriptor`. -/
@[ext] structure ExcludedFieldDescriptor where
  controlType : FieldControlType
  fieldId : Text
  name : Option Text
  reason : ExclusionReason
  deriving DecidableEq

def ExcludedFieldDescriptor.value (field : ExcludedFieldDescriptor) : JsValue :=
  record [(ascii "controlType", writeEnum fieldControlTypeText field.controlType),
    (ascii "fieldId", .string field.fieldId), (ascii "name", writeOption .string field.name),
    (ascii "reason", writeEnum exclusionReasonText field.reason)]

/-- What fields are ordered by. -/
structure FieldKey where
  name : Text
  fieldId : Text
  controlType : Text
  deriving DecidableEq

def CapturedField.key (field : CapturedField) : FieldKey :=
  ⟨field.name, field.fieldId, fieldControlTypeText field.controlType⟩

def ExcludedFieldDescriptor.key (field : ExcludedFieldDescriptor) : FieldKey :=
  ⟨field.name.getD [], field.fieldId, fieldControlTypeText field.controlType⟩

/-- `compareFields`. -/
def compareFields (first second : FieldKey) : Ordering :=
  ((compareCanonicalText first.name second.name).then
    (compareCanonicalText first.fieldId second.fieldId)).then
    (compareCanonicalText first.controlType second.controlType)

/-- The first text that is there a second time. -/
def firstRepeated : List Text → List Text → Option Text
  | _, [] => none
  | seen, text :: rest => if text ∈ seen then some text else firstRepeated (text :: seen) rest

/-- `assertUniqueFieldIds`. -/
def assertUniqueFieldIds (fieldIds : List Text) (path : Text) :
    Except ReceiptProtocolError Unit :=
  match firstRepeated [] fieldIds with
  | some fieldId => protocolError "DUPLICATE_FIELD_ID"
      (ascii "contains duplicate fieldId " ++ Json.quote fieldId ++ ascii ".") path
  | none => .ok ()

/-- A list of fields, in their order. -/
def parseFields {α : Type} (parse : JsValue → Text → Except ReceiptProtocolError α)
    (key : α → FieldKey) (input : JsValue) (path : Text) :
    Except ReceiptProtocolError (List α) := do
  let parsed ← parseList parse input path
  let fields := JsValue.sortBy (fun first second => compareFields (key first) (key second)) parsed
  assertUniqueFieldIds (fields.map fun field => (key field).fieldId) path
  return fields

/-- `parseFileMetadata`. -/
def parseFileMetadata (input : JsValue) (path : Text) :
    Except ReceiptProtocolError CapturedFileMetadata := do
  let value ← asRecord input path
  assertKeys value ["name", "size"] ["lastModified", "mediaType"] path
  let lastModified ← optionalField normalizeTimestamp "lastModified" value path
  let mediaType ← optionalField (normalizeOptionalText Q) "mediaType" value path
  let name ← field (normalizeNonEmptyText Q) "name" value path
  let size ← field normalizeNonNegativeSafeInteger "size" value path
  return { lastModified, mediaType, name, size }

/-- `parseStringValues`. -/
def parseStringValues : JsValue → Text → Except ReceiptProtocolError (List Text) :=
  parseList (normalizeOptionalText Q)

/-- `parseCapturedField`. -/
def parseCapturedField (input : JsValue) (path : Text) :
    Except ReceiptProtocolError CapturedField := do
  let value ← asRecord input path
  let controlType ← field (parseEnum FIELD_CONTROL_TYPES fieldControlTypeText) "controlType" value
    path
  refuseIf (controlType = .password) "SENSITIVE_FIELD_CAPTURED"
    (ascii "password fields must never be captured.") path
  let fieldId ← field (normalizeNonEmptyText Q) "fieldId" value path
  let name ← field (normalizeNonEmptyText Q) "name" value path
  match controlType with
  | .value controlType =>
    assertKeys value ["controlType", "fieldId", "name", "values"] [] path
    let values ← field (parseStringValues Q) "values" value path
    refuseIf (controlType = .hidden ∧ isSensitiveHiddenFieldName Q name = true)
      "SENSITIVE_FIELD_CAPTURED"
      (ascii "sensitive hidden token fields must be excluded rather than captured.") path
    return .value controlType fieldId name values
  | _ =>
    assertKeys value ["controlType", "fieldId", "files", "name"] [] path
    let files ← field (parseList (parseFileMetadata Q)) "files" value path
    return .file fieldId name files

/-- `parseCapturedFields`. -/
def parseCapturedFields :
    JsValue → Text → Except ReceiptProtocolError (List CapturedField) :=
  parseFields (parseCapturedField Q) CapturedField.key

/-- `parseExcludedField`. -/
def parseExcludedField (input : JsValue) (path : Text) :
    Except ReceiptProtocolError ExcludedFieldDescriptor := do
  let value ← asRecord input path
  assertKeys value ["controlType", "fieldId", "reason"] ["name"] path
  let controlType ← field (parseEnum FIELD_CONTROL_TYPES fieldControlTypeText) "controlType" value
    path
  let fieldId ← field (normalizeNonEmptyText Q) "fieldId" value path
  let name ← optionalField (normalizeNonEmptyText Q) "name" value path
  let reason ← field (parseEnum EXCLUSION_REASONS exclusionReasonText) "reason" value path
  return { controlType, fieldId, name, reason }

/-- `parseExcludedFields`. -/
def parseExcludedFields :
    JsValue → Text → Except ReceiptProtocolError (List ExcludedFieldDescriptor) :=
  parseFields (parseExcludedField Q) ExcludedFieldDescriptor.key

/-! ### Parts of event cores -/

/-- `OriginDescriptor`. -/
@[ext] structure OriginDescriptor where
  origin : Text
  pageUrl : Text
  deriving DecidableEq

def OriginDescriptor.value (descriptor : OriginDescriptor) : JsValue :=
  record [(ascii "origin", .string descriptor.origin),
    (ascii "pageUrl", .string descriptor.pageUrl)]

/-- `parseOriginDescriptor`. -/
def parseOriginDescriptor (input : JsValue) (path : Text) :
    Except ReceiptProtocolError OriginDescriptor := do
  let value ← asRecord input path
  assertKeys value ["origin", "pageUrl"] [] path
  let origin ← field (normalizeOrigin Q) "origin" value path
  let pageUrl ← field (normalizeUrl Q) "pageUrl" value path
  refuseIf ((Q.url pageUrl).map (·.origin) ≠ some origin) "ORIGIN_MISMATCH"
    (ascii "pageUrl must belong to the declared origin.") path
  return { origin, pageUrl }

/-- `FormDescriptor`. -/
@[ext] structure FormDescriptor where
  actionUrl : Text
  encoding : FormEncoding
  formId : Option Text
  formName : Option Text
  method : Text
  deriving DecidableEq

def FormDescriptor.value (descriptor : FormDescriptor) : JsValue :=
  record [(ascii "actionUrl", .string descriptor.actionUrl),
    (ascii "encoding", writeEnum formEncodingText descriptor.encoding),
    (ascii "formId", writeOption .string descriptor.formId),
    (ascii "formName", writeOption .string descriptor.formName),
    (ascii "method", .string descriptor.method)]

/-- `parseFormDescriptor`. -/
def parseFormDescriptor (input : JsValue) (path : Text) :
    Except ReceiptProtocolError FormDescriptor := do
  let value ← asRecord input path
  assertKeys value ["actionUrl", "encoding", "method"] ["formId", "formName"] path
  let actionUrl ← field (normalizeUrl Q) "actionUrl" value path
  let encoding ← field (parseEnum FORM_ENCODINGS formEncodingText) "encoding" value path
  let formId ← optionalField (normalizeNonEmptyText Q) "formId" value path
  let formName ← optionalField (normalizeNonEmptyText Q) "formName" value path
  let method ← field (normalizeHttpMethod Q) "method" value path
  return { actionUrl, encoding, formId, formName, method }

/-- `PrivacyFlags`; only one of them varies. -/
@[ext] structure PrivacyFlags where
  fileMetadataIncluded : Bool
  deriving DecidableEq

def PrivacyFlags.value (flags : PrivacyFlags) : JsValue :=
  record [(ascii "fileMetadataIncluded", .boolean flags.fileMetadataIncluded),
    (ascii "rawValuesOffchain", .boolean true), (ascii "sensitiveFieldsExcluded", .boolean true)]

/-- `parsePrivacyFlags`. -/
def parsePrivacyFlags (input : JsValue) (path : Text) :
    Except ReceiptProtocolError PrivacyFlags := do
  let value ← asRecord input path
  assertKeys value ["fileMetadataIncluded", "rawValuesOffchain", "sensitiveFieldsExcluded"] [] path
  let fileMetadataIncluded ← field parseBoolean "fileMetadataIncluded" value path
  let _ ← field parseLiteralTrue "rawValuesOffchain" value path
  let _ ← field parseLiteralTrue "sensitiveFieldsExcluded" value path
  return { fileMetadataIncluded }

/-- `SubmissionAttempt`. -/
@[ext] structure SubmissionAttempt where
  encoding : FormEncoding
  method : Text
  targetUrl : Text
  trigger : AttemptTrigger
  deriving DecidableEq

def SubmissionAttempt.value (attempt : SubmissionAttempt) : JsValue :=
  record [(ascii "encoding", writeEnum formEncodingText attempt.encoding),
    (ascii "method", .string attempt.method), (ascii "targetUrl", .string attempt.targetUrl),
    (ascii "trigger", writeEnum attemptTriggerText attempt.trigger)]

/-- `parseSubmissionAttempt`. -/
def parseSubmissionAttempt (input : JsValue) (path : Text) :
    Except ReceiptProtocolError SubmissionAttempt := do
  let value ← asRecord input path
  assertKeys value ["encoding", "method", "targetUrl", "trigger"] [] path
  let encoding ← field (parseEnum FORM_ENCODINGS formEncodingText) "encoding" value path
  let method ← field (normalizeHttpMethod Q) "method" value path
  let targetUrl ← field (normalizeUrl Q) "targetUrl" value path
  let trigger ← field (parseEnum [.formSubmit, .requestObserved] attemptTriggerText) "trigger" value
    path
  return { encoding, method, targetUrl, trigger }

/-- `SiteConfirmation`. -/
@[ext] structure SiteConfirmation where
  evidenceType : ConfirmationEvidenceType
  message : Option Text
  pageUrl : Text
  reference : Option Text
  deriving DecidableEq

def SiteConfirmation.value (confirmation : SiteConfirmation) : JsValue :=
  record [(ascii "evidenceType", writeEnum evidenceTypeText confirmation.evidenceType),
    (ascii "message", writeOption .string confirmation.message),
    (ascii "pageUrl", .string confirmation.pageUrl),
    (ascii "reference", writeOption .string confirmation.reference)]

/-- `parseSiteConfirmation`. -/
def parseSiteConfirmation (input : JsValue) (path : Text) :
    Except ReceiptProtocolError SiteConfirmation := do
  let value ← asRecord input path
  assertKeys value ["evidenceType", "pageUrl"] ["message", "reference"] path
  let evidenceType ← field (parseEnum [.confirmationPage, .inlineMessage, .redirect, .download]
    evidenceTypeText) "evidenceType" value path
  let message ← optionalField (normalizeOptionalText Q) "message" value path
  let pageUrl ← field (normalizeUrl Q) "pageUrl" value path
  let reference ← optionalField (normalizeOptionalText Q) "reference" value path
  return { evidenceType, message, pageUrl, reference }

/-- `AuthorityAcknowledgment`. -/
@[ext] structure AuthorityAcknowledgment where
  acknowledgedAt : Text
  authorityId : Text
  outcome : AuthorityOutcome
  reason : Option Text
  reference : Option Text
  deriving DecidableEq

def AuthorityAcknowledgment.value (acknowledgment : AuthorityAcknowledgment) : JsValue :=
  record [(ascii "acknowledgedAt", .string acknowledgment.acknowledgedAt),
    (ascii "authorityId", .string acknowledgment.authorityId),
    (ascii "outcome", writeEnum authorityOutcomeText acknowledgment.outcome),
    (ascii "reason", writeOption .string acknowledgment.reason),
    (ascii "reference", writeOption .string acknowledgment.reference)]

/-- `parseAuthorityAcknowledgment`. -/
def parseAuthorityAcknowledgment (input : JsValue) (path : Text) :
    Except ReceiptProtocolError AuthorityAcknowledgment := do
  let value ← asRecord input path
  assertKeys value ["acknowledgedAt", "authorityId", "outcome"] ["reason", "reference"] path
  let acknowledgedAt ← field normalizeTimestamp "acknowledgedAt" value path
  let authorityId ← field (normalizeNonEmptyText Q) "authorityId" value path
  let outcome ← field (parseEnum [.accepted, .rejected] authorityOutcomeText) "outcome" value path
  let reason ← optionalField (normalizeOptionalText Q) "reason" value path
  let reference ← optionalField (normalizeOptionalText Q) "reference" value path
  return { acknowledgedAt, authorityId, outcome, reason, reference }

/-! ### Event cores -/

/-- What a core of the stage `ATTEMPTED` has of its own. -/
@[ext] structure AttemptedBody where
  capturedFields : List CapturedField
  excludedFields : List ExcludedFieldDescriptor
  formDescriptor : FormDescriptor
  origin : OriginDescriptor
  privacyFlags : PrivacyFlags
  submissionAttempt : SubmissionAttempt
  deriving DecidableEq

/-- The part of a core that depends on its stage; the outcome of an
acknowledgment is that of the stage. -/
inductive EventBody
  | attempted (body : AttemptedBody)
  | siteConfirmed (siteConfirmation : SiteConfirmation)
  | authority (authorityAcknowledgment : AuthorityAcknowledgment)
  deriving DecidableEq

/-- The stage of an outcome. -/
def AuthorityOutcome.stage : AuthorityOutcome → EventStage
  | accepted => .authorityAccepted
  | rejected => .authorityRejected

def EventBody.stage : EventBody → EventStage
  | attempted _ => .attempted
  | siteConfirmed _ => .siteConfirmed
  | authority acknowledgment => acknowledgment.outcome.stage

/-- `LifecycleEventCore`. -/
@[ext] structure LifecycleEventCore where
  occurredAt : Text
  previousEventHash : Text
  receiptId : Text
  schemaVersion : Text
  body : EventBody
  deriving DecidableEq

def LifecycleEventCore.stage (core : LifecycleEventCore) : EventStage := core.body.stage

/-- The properties of the body, the stage among them. -/
def EventBody.members (body : EventBody) : List (Text × JsValue) :=
  match body with
  | attempted b => [(ascii "capturedFields", writeList CapturedField.write b.capturedFields),
      (ascii "excludedFields", writeList ExcludedFieldDescriptor.value b.excludedFields),
      (ascii "formDescriptor", b.formDescriptor.value), (ascii "origin", b.origin.value),
      (ascii "privacyFlags", b.privacyFlags.value),
      (ascii "stage", writeEnum eventStageText body.stage),
      (ascii "submissionAttempt", b.submissionAttempt.value)]
  | siteConfirmed confirmation => [(ascii "siteConfirmation", confirmation.value),
      (ascii "stage", writeEnum eventStageText body.stage)]
  | authority acknowledgment => [(ascii "authorityAcknowledgment", acknowledgment.value),
      (ascii "stage", writeEnum eventStageText body.stage)]

def LifecycleEventCore.members (core : LifecycleEventCore) : List (Text × JsValue) :=
  [(ascii "occurredAt", .string core.occurredAt),
    (ascii "previousEventHash", .string core.previousEventHash),
    (ascii "receiptId", .string core.receiptId),
    (ascii "schemaVersion", .string core.schemaVersion)] ++ core.body.members

def LifecycleEventCore.value (core : LifecycleEventCore) : JsValue := record core.members

/-- The keys that every core has. -/
def baseKeys : List String :=
  ["occurredAt", "previousEventHash", "receiptId", "schemaVersion", "stage"]

/-- No field is both captured and excluded. -/
def assertNoOverlap (captured excluded : List Text) (path : Text) :
    Except ReceiptProtocolError Unit :=
  match excluded.find? fun fieldId => captured.contains fieldId with
  | some fieldId => protocolError "CAPTURE_EXCLUSION_OVERLAP"
      (ascii "fieldId " ++ Json.quote fieldId ++ ascii " cannot be both captured and excluded.")
      path
  | none => .ok ()

/-- The part of `parseEventCore` for the stage `ATTEMPTED`. -/
def parseAttemptedBody (value : List (Text × JsValue)) (path : Text) :
    Except ReceiptProtocolError AttemptedBody := do
  assertKeys value (baseKeys ++ ["capturedFields", "excludedFields", "formDescriptor", "origin",
    "privacyFlags", "submissionAttempt"]) [] path
  let capturedFields ← field (parseCapturedFields Q) "capturedFields" value path
  let excludedFields ← field (parseExcludedFields Q) "excludedFields" value path
  let privacyFlags ← field parsePrivacyFlags "privacyFlags" value path
  refuseIf ((∃ field ∈ capturedFields, field.controlType = .file) ∧
    privacyFlags.fileMetadataIncluded = false) "FILE_METADATA_WITHOUT_CONSENT"
    (ascii "contains file metadata without fileMetadataIncluded consent.") path
  assertNoOverlap (capturedFields.map (·.fieldId)) (excludedFields.map (·.fieldId)) path
  let formDescriptor ← field (parseFormDescriptor Q) "formDescriptor" value path
  let origin ← field (parseOriginDescriptor Q) "origin" value path
  let submissionAttempt ← field (parseSubmissionAttempt Q) "submissionAttempt" value path
  return { capturedFields, excludedFields, formDescriptor, origin, privacyFlags, submissionAttempt }

/-- The part of `parseEventCore` for the stage of an authority's outcome. -/
def parseAuthorityBody (expectedOutcome : AuthorityOutcome) (value : List (Text × JsValue))
    (path : Text) : Except ReceiptProtocolError EventBody := do
  assertKeys value (baseKeys ++ ["authorityAcknowledgment"]) [] path
  let acknowledgment ← field (parseAuthorityAcknowledgment Q) "authorityAcknowledgment" value path
  refuseIf (acknowledgment.outcome ≠ expectedOutcome) "AUTHORITY_OUTCOME_MISMATCH"
    (ascii "stage " ++ eventStageText expectedOutcome.stage ++ ascii " requires outcome " ++
      authorityOutcomeText expectedOutcome ++ ascii ".")
    (path ++ ascii ".authorityAcknowledgment.outcome")
  return .authority acknowledgment

/-- The part of `parseEventCore` that depends on the stage. -/
def parseEventBody (stage : EventStage) (value : List (Text × JsValue)) (path : Text) :
    Except ReceiptProtocolError EventBody :=
  match stage with
  | .attempted => (parseAttemptedBody Q value path).map .attempted
  | .siteConfirmed => do
    assertKeys value (baseKeys ++ ["siteConfirmation"]) [] path
    let siteConfirmation ← field (parseSiteConfirmation Q) "siteConfirmation" value path
    return .siteConfirmed siteConfirmation
  | .authorityAccepted => parseAuthorityBody Q .accepted value path
  | .authorityRejected => parseAuthorityBody Q .rejected value path

/-- `parseEventCore`. -/
def parseEventCore (input : JsValue) (path : Text) :
    Except ReceiptProtocolError LifecycleEventCore := do
  let value ← asRecord input path
  let stage ← field (parseEnum EVENT_STAGES eventStageText) "stage" value path
  let occurredAt ← field normalizeTimestamp "occurredAt" value path
  let previousEventHash ← field normalizeHash "previousEventHash" value path
  let receiptId ← field normalizeHash "receiptId" value path
  let schemaVersion ← field normalizeSchemaVersion "schemaVersion" value path
  let body ← parseEventBody Q stage value path
  return { occurredAt, previousEventHash, receiptId, schemaVersion, body }

end schema

end SubmittedIt.Protocol
