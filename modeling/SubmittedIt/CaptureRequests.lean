/-
SubmittedIt/CaptureRequests.lean

The message that carries a captured form (apps/extension/lib, capture.ts).

`canonicalCaptureInput` is the part that the page and the background worker
share: what it returns is `Canonical`, and what is canonical is returned as it
is, since every field of it is in its normal form.

Main result: `captureAttemptRequests_unchanged`.
-/
import SubmittedIt.AnchorAttachment
import SubmittedIt.CapturePolicy
import SubmittedIt.SiteConfirmation

namespace SubmittedIt.Protocol

open JsValue (member)

open Transaction

/-- `MAX_CAPTURE_FIELDS`. -/
def MAX_CAPTURE_FIELDS : Nat := 256

/-- `MAX_CAPTURE_VALUES_PER_FIELD`. -/
def MAX_CAPTURE_VALUES_PER_FIELD : Nat := 256

/-- `MAX_CAPTURE_VALUE_LENGTH`. -/
def MAX_CAPTURE_VALUE_LENGTH : Nat := 16 * 1024

/-- `CAPTURE_FINGERPRINT_DOMAIN`. -/
def CAPTURE_FINGERPRINT_DOMAIN : Text := ascii "SUBMITTEDIT/LOCAL-ATTEMPT-DEDUPE/1"

/-- The properties of a candidate. -/
def RawFieldCandidate.members (candidate : RawFieldCandidate) : List (Text × JsValue) :=
  [(ascii "autocomplete", writeOption .string candidate.autocomplete),
    (ascii "controlType", writeEnum fieldControlTypeText candidate.controlType),
    (ascii "explicitlyExcluded", writeOption .boolean candidate.explicitlyExcluded),
    (ascii "fieldId", .string candidate.fieldId),
    (ascii "files", writeOption (writeList CapturedFileMetadata.value) candidate.files),
    (ascii "name", writeOption .string candidate.name),
    (ascii "values", writeOption (writeList .string) candidate.values)]

def RawFieldCandidate.value (candidate : RawFieldCandidate) : JsValue := record candidate.members

/-- `CaptureFormDescriptor`, which has the properties of a `FormDescriptor`. -/
abbrev CaptureFormDescriptor := FormDescriptor

/-- `CaptureAttemptInput`. -/
@[ext] structure CaptureAttemptInput where
  actionOrigin : Text
  attemptId : Text
  capturedAt : Text
  documentInstanceId : Text
  fields : List RawFieldCandidate
  form : CaptureFormDescriptor
  origin : Text
  pagePathHash : Text
  pageUrl : Text
  receiptId : Text
  receiptNonce : Text
  deriving DecidableEq

def CaptureAttemptInput.members (input : CaptureAttemptInput) : List (Text × JsValue) :=
  [(ascii "actionOrigin", .string input.actionOrigin),
    (ascii "attemptId", .string input.attemptId),
    (ascii "capturedAt", .string input.capturedAt),
    (ascii "documentInstanceId", .string input.documentInstanceId),
    (ascii "fields", writeList RawFieldCandidate.value input.fields),
    (ascii "form", input.form.value), (ascii "origin", .string input.origin),
    (ascii "pagePathHash", .string input.pagePathHash),
    (ascii "pageUrl", .string input.pageUrl), (ascii "receiptId", .string input.receiptId),
    (ascii "receiptNonce", .string input.receiptNonce)]

/-- `CaptureAttemptRequest`. -/
@[ext] structure CaptureAttemptRequest extends CaptureAttemptInput where
  attemptFingerprint : Text
  deriving DecidableEq

def CaptureAttemptRequest.value (request : CaptureAttemptRequest) : JsValue :=
  .object ((ascii "type", .string (ascii "CAPTURE_ATTEMPT")) ::
    (request.toCaptureAttemptInput.members ++
      [(ascii "attemptFingerprint", .string request.attemptFingerprint)]))

/-! ### capture.ts -/

namespace Capture

section capture

variable (W : WebPlatform) (keccak256 : List UInt8 → HashHex)

/-- `boundedNonEmptyText`. -/
def boundedNonEmptyText (value : JsValue) (path : String) (maximum : Nat) :
    Except ExtensionError Text := do
  let normalized ← rethrow (normalizeNonEmptyText W.toReceiptPlatform value (ascii path))
  throwIf (normalized.length > maximum) (path ++ " exceeds the local capture limit.")
  return normalized

/-- `boundedOptionalText`. -/
def boundedOptionalText (value : JsValue) (path : String) (maximum : Nat) :
    Except ExtensionError Text := do
  let normalized ← rethrow (normalizeOptionalText W.toReceiptPlatform value (ascii path))
  throwIf (normalized.length > maximum) (path ++ " exceeds the local capture limit.")
  return normalized

/-- `parseOpaqueId`. -/
def parseOpaqueId (value : JsValue) (path : String) : Except ExtensionError Text := do
  let normalized ← rethrow (normalizeBase64Url value (ascii path))
  throwIf (isOpaqueId normalized = false) (path ++ " must encode exactly 32 random bytes.")
  return normalized

/-- `parseFormEncoding`. -/
def parseFormEncoding (value : JsValue) : Except ExtensionError FormEncoding :=
  orThrow (.message "Unsupported form encoding.")
    (accept (parseEnum FORM_ENCODINGS formEncodingText) value)

/-- `parseControlType`. -/
def parseControlType (value : JsValue) : Except ExtensionError FieldControlType :=
  orThrow (.message "Unsupported form control type.")
    (accept (parseEnum FIELD_CONTROL_TYPES fieldControlTypeText) value)

/-- What is parsed where there is a value. -/
def unlessUndefined {α : Type} (parse : JsValue → Except ExtensionError α) :
    JsValue → Except ExtensionError (Option α)
  | .undefined => .ok none
  | value => (parse value).map some

/-- The items of an array, from an index on. -/
def parseEach {α : Type} (parse : JsValue → String → Except ExtensionError α) (path : String) :
    Nat → List JsValue → Except ExtensionError (List α)
  | _, [] => .ok []
  | index, item :: rest => do
    let first ← parse item (path ++ "[" ++ toString index ++ "]")
    let others ← parseEach parse path (index + 1) rest
    return first :: others

/-- `explicitlyExcluded`, where there is a value. -/
def parseExplicitlyExcluded (path : String) : JsValue → Except ExtensionError Bool
  | .boolean excluded => .ok excluded
  | _ => .error (.message (path ++ ".explicitlyExcluded must be boolean."))

/-- The values, where there are some. -/
def parseRawValues (path : String) : JsValue → Except ExtensionError (List Text)
  | .array items => do
    let values ← parseEach (fun item path => boundedOptionalText W item path
      MAX_CAPTURE_VALUE_LENGTH) (path ++ ".values") 0 items
    throwIf (values.length > MAX_CAPTURE_VALUES_PER_FIELD)
      (path ++ ".values exceeds the local capture limit.")
    return values
  | _ => .error (.message (path ++ ".values must be an array."))

/-- The value of a candidate may not be transported. -/
def protectedField (candidate : RawFieldCandidate) : Bool :=
  candidate.controlType = .password || candidate.controlType = .file ||
    isAutofillSecret W.toReceiptPlatform candidate.autocomplete ||
    candidate.name.any (isSensitiveHiddenFieldName W.toReceiptPlatform) ||
    candidate.explicitlyExcluded = some true

/-- The properties of a candidate in a message. -/
def RAW_FIELD_KEYS : List String :=
  ["autocomplete", "controlType", "explicitlyExcluded", "fieldId", "name", "values"]

/-- `parseRawFieldCandidate`. -/
def parseRawFieldCandidate (value : JsValue) (path : String) :
    Except ExtensionError RawFieldCandidate :=
  match value with
  | .object value => do
    throwIf (hasOnlyKeys value RAW_FIELD_KEYS = false) (path ++ " is not a valid capture field.")
    let controlType ← parseControlType (member (ascii "controlType") value)
    let fieldId ← boundedNonEmptyText W (member (ascii "fieldId") value) (path ++ ".fieldId") 160
    let name ← unlessUndefined (boundedNonEmptyText W · (path ++ ".name") 512)
      (member (ascii "name") value)
    let autocomplete ← unlessUndefined (boundedOptionalText W · (path ++ ".autocomplete") 256)
      (member (ascii "autocomplete") value)
    let explicitlyExcluded ← unlessUndefined (parseExplicitlyExcluded path)
      (member (ascii "explicitlyExcluded") value)
    let values ← unlessUndefined (parseRawValues W path) (member (ascii "values") value)
    let candidate : RawFieldCandidate := {
      autocomplete := autocomplete, controlType, explicitlyExcluded, fieldId, files := none, name,
      values }
    throwIf (protectedField W candidate = true ∧ values.isSome = true)
      (path ++ " attempted to transport an excluded value.")
    throwIf (protectedField W candidate = false ∧ name.isNone = true)
      (path ++ " is missing a submitted field name.")
    return candidate
  | _ => .error (.message (path ++ " is not a valid capture field."))

/-- `parseCaptureForm`. -/
def parseCaptureForm (value : JsValue) : Except ExtensionError CaptureFormDescriptor :=
  match value with
  | .object value => do
    throwIf (hasOnlyKeys value ["actionUrl", "encoding", "formId", "formName", "method"] = false)
      "Invalid form descriptor."
    let actionUrl ← rethrow (normalizeUrl W.toReceiptPlatform (member (ascii "actionUrl") value)
      (ascii "$.form.actionUrl"))
    let encoding ← parseFormEncoding (member (ascii "encoding") value)
    let formId ← unlessUndefined (boundedNonEmptyText W · "$.form.formId" 256)
      (member (ascii "formId") value)
    let formName ← unlessUndefined (boundedNonEmptyText W · "$.form.formName" 256)
      (member (ascii "formName") value)
    let method ← rethrow (normalizeHttpMethod W.toReceiptPlatform (member (ascii "method") value)
      (ascii "$.form.method"))
    return { actionUrl := actionUrl, encoding, formId, formName, method }
  | _ => .error (.message "Invalid form descriptor.")

/-- `value.fields`, of at most `MAX_CAPTURE_FIELDS` items. -/
def captureFields : JsValue → Except ExtensionError (List JsValue)
  | .array items =>
    if items.length > MAX_CAPTURE_FIELDS then
      .error (.message "Capture fields exceed the local limit.")
    else .ok items
  | _ => .error (.message "Capture fields exceed the local limit.")

/-- `canonicalCaptureInput`. -/
def canonicalCaptureInput (value : List (Text × JsValue)) :
    Except ExtensionError CaptureAttemptInput := do
  let rawFields ← captureFields (member (ascii "fields") value)
  let origin ← rethrow (normalizeOrigin W.toReceiptPlatform (member (ascii "origin") value)
    (ascii "$.origin"))
  let pageUrl ← rethrow (normalizeUrl W.toReceiptPlatform (member (ascii "pageUrl") value)
    (ascii "$.pageUrl"))
  let page ← orThrow (.message "Invalid URL") (W.url pageUrl)
  throwIf (page.origin ≠ origin) "Capture page origin mismatch."
  throwIf (privacySafePageUrl W pageUrl ≠ some pageUrl)
    "Capture page URL must omit query strings and fragments."
  let pagePathHash ← rethrow (normalizeHash (member (ascii "pagePathHash") value)
    (ascii "$.pagePathHash"))
  let expected ← rethrow (hashPagePath W keccak256 origin page.pathname)
  throwIf (pagePathHash ≠ expected) "Capture page path hash mismatch."
  let actionOrigin ← rethrow (normalizeOrigin W.toReceiptPlatform
    (member (ascii "actionOrigin") value) (ascii "$.actionOrigin"))
  let form ← parseCaptureForm W (member (ascii "form") value)
  let action ← orThrow (.message "Invalid URL") (W.url form.actionUrl)
  throwIf (action.origin ≠ actionOrigin) "Capture action origin mismatch."
  throwIf (privacySafePageUrl W form.actionUrl ≠ some form.actionUrl)
    "Capture action URL must omit query strings and fragments."
  let attemptId ← parseOpaqueId (member (ascii "attemptId") value) "$.attemptId"
  let capturedAt ← rethrow (normalizeTimestamp (member (ascii "capturedAt") value)
    (ascii "$.capturedAt"))
  let documentInstanceId ← parseOpaqueId (member (ascii "documentInstanceId") value)
    "$.documentInstanceId"
  let fields ← parseEach (parseRawFieldCandidate W) "$.fields" 0 rawFields
  let receiptId ← rethrow (normalizeHash (member (ascii "receiptId") value) (ascii "$.receiptId"))
  let receiptNonce ← parseOpaqueId (member (ascii "receiptNonce") value) "$.receiptNonce"
  return {
    actionOrigin := actionOrigin, attemptId, capturedAt, documentInstanceId, fields, form, origin,
    pagePathHash, pageUrl, receiptId, receiptNonce }

/-- `fingerprintInput`. -/
def fingerprintInput (request : CaptureAttemptInput) : JsValue :=
  record [(ascii "actionOrigin", .string request.actionOrigin),
    (ascii "fields", writeList RawFieldCandidate.value request.fields),
    (ascii "form", request.form.value), (ascii "origin", .string request.origin),
    (ascii "pagePathHash", .string request.pagePathHash),
    (ascii "pageUrl", .string request.pageUrl)]

/-- `computeCaptureFingerprint`. -/
def computeCaptureFingerprint (request : CaptureAttemptInput) :
    Except ReceiptProtocolError Text :=
  hashCanonical W.toTextPlatform keccak256 CAPTURE_FINGERPRINT_DOMAIN (fingerprintInput request)

/-- `createCaptureAttemptRequest`. -/
def createCaptureAttemptRequest (input : List (Text × JsValue)) :
    Except ExtensionError CaptureAttemptRequest := do
  let canonical ← canonicalCaptureInput W keccak256 input
  let attemptFingerprint ← rethrow (computeCaptureFingerprint W keccak256 canonical)
  return { canonical with attemptFingerprint }

/-- The properties of a request. -/
def CAPTURE_ATTEMPT_KEYS : List String :=
  ["type", "actionOrigin", "attemptFingerprint", "attemptId", "capturedAt", "documentInstanceId",
    "fields", "form", "origin", "pagePathHash", "pageUrl", "receiptId", "receiptNonce"]

/-- The fingerprint that a request carries, where it is that of its input. -/
def parseFingerprint (value : JsValue) (canonical : CaptureAttemptInput) : Option Text := do
  let attemptFingerprint ← accept normalizeHash value
  let expected ← (computeCaptureFingerprint W keccak256 canonical).toOption
  ensure (attemptFingerprint = expected)
  return attemptFingerprint

/-- `parseCaptureAttemptRequest`. -/
def parseCaptureAttemptRequest (value : JsValue) : Option CaptureAttemptRequest := do
  let value ← accept asRecord value
  ensure (hasOnlyKeys value CAPTURE_ATTEMPT_KEYS = true)
  readLiteral (ascii "CAPTURE_ATTEMPT") (member (ascii "type") value)
  let canonical ← (canonicalCaptureInput W keccak256 value).toOption
  let attemptFingerprint ← parseFingerprint W keccak256
    (member (ascii "attemptFingerprint") value) canonical
  return { canonical with attemptFingerprint }

end capture

section laws

variable {W : WebPlatform} {keccak256 : List UInt8 → HashHex}

/-! ### Texts -/

theorem boundedNonEmptyText_eq_ok {v : JsValue} {path : String} {maximum : Nat} {text : Text} :
    boundedNonEmptyText W v path maximum = .ok text ↔
      (∀ q, normalizeNonEmptyText W.toReceiptPlatform v q = .ok text) ∧
        text.length ≤ maximum := by
  simp only [boundedNonEmptyText, bind_eq_ok, rethrow_eq_ok, throwIf_eq_ok, not_lt, gt_iff_lt]
  constructor
  · rintro ⟨normalized, hnormalized, _, hlength, h⟩
    obtain rfl := Except.ok.inj h
    exact ⟨normalizeNonEmptyText_parses.anywhere hnormalized, hlength⟩
  · rintro ⟨hnormalized, hlength⟩
    exact ⟨text, hnormalized _, (), hlength, rfl⟩

theorem boundedOptionalText_eq_ok {v : JsValue} {path : String} {maximum : Nat} {text : Text} :
    boundedOptionalText W v path maximum = .ok text ↔
      (∀ q, normalizeOptionalText W.toReceiptPlatform v q = .ok text) ∧
        text.length ≤ maximum := by
  simp only [boundedOptionalText, bind_eq_ok, rethrow_eq_ok, throwIf_eq_ok, not_lt, gt_iff_lt]
  constructor
  · rintro ⟨normalized, hnormalized, _, hlength, h⟩
    obtain rfl := Except.ok.inj h
    exact ⟨normalizeOptionalText_parses.anywhere hnormalized, hlength⟩
  · rintro ⟨hnormalized, hlength⟩
    exact ⟨text, hnormalized _, (), hlength, rfl⟩

theorem parseOpaqueId_eq_ok {v : JsValue} {path : String} {text : Text} :
    parseOpaqueId v path = .ok text ↔ v = .string text ∧ isOpaqueId text = true := by
  simp only [parseOpaqueId, bind_eq_ok, rethrow_eq_ok, throwIf_eq_ok, Bool.not_eq_false,
    normalizeBase64Url_eq_ok]
  constructor
  · rintro ⟨normalized, ⟨hv, -⟩, _, hopaque, h⟩
    obtain rfl := Except.ok.inj h
    exact ⟨hv, hopaque⟩
  · rintro ⟨hv, hopaque⟩
    have hunits := hopaque
    rw [isOpaqueId, Bool.and_eq_true, decide_eq_true_eq] at hunits
    refine ⟨text, ⟨hv, ?_, hunits.2⟩, (), hopaque, rfl⟩
    rintro rfl
    cases hunits.1

theorem parseFormEncoding_eq_ok {v : JsValue} {encoding : FormEncoding} :
    parseFormEncoding v = .ok encoding ↔
      ∀ q, parseEnum FORM_ENCODINGS formEncodingText v q = .ok encoding := by
  rw [parseFormEncoding, orThrow_eq_ok, accept_eq_some]
  exact ⟨fun h => (formEncoding_parses (Q := sampleReceiptPlatform)).anywhere h, fun h => h _⟩

theorem parseControlType_eq_ok {v : JsValue} {type : FieldControlType} :
    parseControlType v = .ok type ↔
      ∀ q, parseEnum FIELD_CONTROL_TYPES fieldControlTypeText v q = .ok type := by
  rw [parseControlType, orThrow_eq_ok, accept_eq_some]
  exact ⟨fun h => (fieldControlType_parses (Q := sampleReceiptPlatform)).anywhere h, fun h => h _⟩

/-! ### Optional values and arrays -/

theorem unlessUndefined_eq_ok {α : Type} {parse : JsValue → Except ExtensionError α} {v : JsValue}
    {x : Option α} : unlessUndefined parse v = .ok x ↔
      (v = .undefined ∧ x = none) ∨ (v ≠ .undefined ∧ ∃ a, parse v = .ok a ∧ x = some a) := by
  unfold unlessUndefined
  split
  · exact ⟨fun h => .inl ⟨rfl, (Except.ok.inj h).symm⟩, fun h => by
      rcases h with ⟨-, rfl⟩ | ⟨hv, -⟩
      · rfl
      · exact absurd rfl hv⟩
  · next hv =>
    rw [map_eq_ok]
    constructor
    · rintro ⟨a, ha, rfl⟩
      exact .inr ⟨hv, a, ha, rfl⟩
    · rintro (⟨rfl, -⟩ | ⟨-, a, ha, rfl⟩)
      · exact absurd rfl hv
      · exact ⟨a, ha, rfl⟩

/-- What is parsed where there is a value does not depend on the path. -/
theorem unlessUndefined_congr {α : Type} {parse parse' : JsValue → Except ExtensionError α}
    (hparse : ∀ {v a}, parse v = .ok a → parse' v = .ok a) {v : JsValue} {x : Option α}
    (h : unlessUndefined parse v = .ok x) : unlessUndefined parse' v = .ok x := by
  rw [unlessUndefined_eq_ok] at h ⊢
  rcases h with h | ⟨hv, a, ha, hx⟩
  · exact .inl h
  · exact .inr ⟨hv, a, hparse ha, hx⟩

/-- What there is was parsed. -/
theorem unlessUndefined_some {α : Type} {parse : JsValue → Except ExtensionError α} {v : JsValue}
    {x : Option α} (h : unlessUndefined parse v = .ok x) : ∀ a ∈ x, parse v = .ok a := by
  rintro a rfl
  rcases unlessUndefined_eq_ok.mp h with ⟨-, h⟩ | ⟨-, _, ha, h⟩
  · cases h
  · rw [Option.some.inj h, ha]

/-- What is written where there is something is parsed to it. -/
theorem unlessUndefined_written {α : Type} {parse : JsValue → Except ExtensionError α}
    {write : α → JsValue} {x : Option α} (hwrite : ∀ a, isUndefined (write a) = false)
    (h : ∀ a ∈ x, parse (write a) = .ok a) :
    unlessUndefined parse (writeOption write x) = .ok x := by
  rw [unlessUndefined_eq_ok]
  cases x with
  | none => exact .inl ⟨rfl, rfl⟩
  | some a =>
    refine .inr ⟨fun hv => ?_, a, h a rfl, rfl⟩
    have hdefined := hwrite a
    rw [isUndefined_iff.mpr (show write a = .undefined from hv)] at hdefined
    cases hdefined

/-- What is parsed does not depend on the path. -/
def Anywhere {α : Type} (parse : JsValue → String → Except ExtensionError α) : Prop :=
  ∀ item path x, parse item path = .ok x → ∀ path', parse item path' = .ok x

/-- **The items of an array are parsed each for itself.** -/
theorem parseEach_eq_ok {α : Type} {parse : JsValue → String → Except ExtensionError α}
    (hparse : Anywhere parse)
    {path : String} {index : Nat} {items : List JsValue} {xs : List α} :
    parseEach parse path index items = .ok xs ↔
      List.Forall₂ (fun item x => ∀ path, parse item path = .ok x) items xs := by
  induction items generalizing index xs with
  | nil =>
    constructor
    · intro h
      obtain rfl := Except.ok.inj h
      exact .nil
    · intro h
      cases h
      rfl
  | cons item rest ih =>
    simp only [parseEach, bind_eq_ok, ih]
    constructor
    · rintro ⟨first, hfirst, others, hothers, h⟩
      obtain rfl := Except.ok.inj h
      exact .cons (hparse _ _ _ hfirst) hothers
    · intro h
      cases h with
      | cons hfirst hothers => exact ⟨_, hfirst _, _, hothers, rfl⟩

/-- Items that were written are parsed to what they were written of. -/
theorem parseEach_written {α : Type} {parse : JsValue → String → Except ExtensionError α}
    (hparse : Anywhere parse)
    {write : α → JsValue} {xs : List α} (h : ∀ x ∈ xs, ∀ path, parse (write x) path = .ok x)
    (path : String) (index : Nat) :
    parseEach parse path index (xs.map write) = .ok xs := by
  rw [parseEach_eq_ok hparse, List.forall₂_map_left_iff, List.forall₂_same]
  exact h

/-! ### Fields -/

theorem boundedOptionalText_anywhere {v : JsValue} {path : String} {maximum : Nat} {text : Text}
    (h : boundedOptionalText W v path maximum = .ok text) (path' : String) :
    boundedOptionalText W v path' maximum = .ok text :=
  boundedOptionalText_eq_ok.mpr (boundedOptionalText_eq_ok.mp h)

theorem boundedNonEmptyText_anywhere {v : JsValue} {path : String} {maximum : Nat} {text : Text}
    (h : boundedNonEmptyText W v path maximum = .ok text) (path' : String) :
    boundedNonEmptyText W v path' maximum = .ok text :=
  boundedNonEmptyText_eq_ok.mpr (boundedNonEmptyText_eq_ok.mp h)

/-- Texts that were bounded are bounded again. -/
theorem boundedOptionalText_again {v : JsValue} {path : String} {maximum : Nat} {text : Text}
    (h : boundedOptionalText W v path maximum = .ok text) (path' : String) :
    boundedOptionalText W (.string text) path' maximum = .ok text := by
  obtain ⟨hnormal, hlength⟩ := boundedOptionalText_eq_ok.mp h
  exact boundedOptionalText_eq_ok.mpr
    ⟨normalizeOptionalText_parses.again (hnormal []), hlength⟩

theorem boundedNonEmptyText_again {v : JsValue} {path : String} {maximum : Nat} {text : Text}
    (h : boundedNonEmptyText W v path maximum = .ok text) (path' : String) :
    boundedNonEmptyText W (.string text) path' maximum = .ok text := by
  obtain ⟨hnormal, hlength⟩ := boundedNonEmptyText_eq_ok.mp h
  exact boundedNonEmptyText_eq_ok.mpr
    ⟨normalizeNonEmptyText_parses.again (hnormal []), hlength⟩

theorem parseRawValues_eq_ok {v : JsValue} {path : String} {texts : List Text} :
    parseRawValues W path v = .ok texts ↔ ∃ items, v = .array items ∧
      List.Forall₂ (fun item text => ∀ path,
        boundedOptionalText W item path MAX_CAPTURE_VALUE_LENGTH = .ok text) items texts ∧
      texts.length ≤ MAX_CAPTURE_VALUES_PER_FIELD := by
  have hanywhere : Anywhere fun item path =>
      boundedOptionalText W item path MAX_CAPTURE_VALUE_LENGTH :=
    fun _ _ _ h => boundedOptionalText_anywhere h
  unfold parseRawValues
  split
  · next items =>
    simp only [bind_eq_ok, throwIf_eq_ok, not_lt, gt_iff_lt, parseEach_eq_ok hanywhere]
    constructor
    · rintro ⟨values, hvalues, _, hlength, h⟩
      obtain rfl := Except.ok.inj h
      exact ⟨items, rfl, hvalues, hlength⟩
    · rintro ⟨_, hv, hvalues, hlength⟩
      cases hv
      exact ⟨texts, hvalues, (), hlength, rfl⟩
  · next hv =>
    constructor
    · intro h
      cases h
    · rintro ⟨items, rfl, -⟩
      exact absurd rfl (hv items)

theorem parseRawValues_anywhere {v : JsValue} {path : String} {texts : List Text}
    (h : parseRawValues W path v = .ok texts) (path' : String) :
    parseRawValues W path' v = .ok texts :=
  parseRawValues_eq_ok.mpr (parseRawValues_eq_ok.mp h)

theorem parseRawValues_again {v : JsValue} {path : String} {texts : List Text}
    (h : parseRawValues W path v = .ok texts) (path' : String) :
    parseRawValues W path' (writeList .string texts) = .ok texts := by
  obtain ⟨items, -, hitems, hlength⟩ := parseRawValues_eq_ok.mp h
  refine parseRawValues_eq_ok.mpr ⟨_, rfl, ?_, hlength⟩
  rw [List.forall₂_map_left_iff, List.forall₂_same]
  intro text htext
  obtain ⟨_, -, htext⟩ := exists_of_forall₂ hitems htext
  exact boundedOptionalText_again (htext "")

theorem parseExplicitlyExcluded_anywhere {v : JsValue} {path : String} {excluded : Bool}
    (h : parseExplicitlyExcluded path v = .ok excluded) (path' : String) :
    parseExplicitlyExcluded path' v = .ok excluded := by
  cases v with
  | boolean value => exact h
  | _ => cases h

/-- What is checked of the parts of a candidate. -/
structure RawFieldFits (W : WebPlatform) (value : List (Text × JsValue))
    (candidate : RawFieldCandidate) (path : String) : Prop where
  controlType : parseControlType (member (ascii "controlType") value) = .ok candidate.controlType
  fieldId : boundedNonEmptyText W (member (ascii "fieldId") value) path 160 =
    .ok candidate.fieldId
  name : unlessUndefined (boundedNonEmptyText W · path 512) (member (ascii "name") value) =
    .ok candidate.name
  autocomplete : unlessUndefined (boundedOptionalText W · path 256)
    (member (ascii "autocomplete") value) = .ok candidate.autocomplete
  explicitlyExcluded : unlessUndefined (parseExplicitlyExcluded path)
    (member (ascii "explicitlyExcluded") value) = .ok candidate.explicitlyExcluded
  values : unlessUndefined (parseRawValues W path) (member (ascii "values") value) =
    .ok candidate.values

/-- What is checked between the parts of a candidate. -/
structure RawFieldConsistent (W : WebPlatform) (candidate : RawFieldCandidate) : Prop where
  files : candidate.files = none
  excluded : protectedField W candidate = true → candidate.values = none
  named : protectedField W candidate = false → candidate.name.isSome = true

/-- **What a field of a message is.** -/
theorem parseRawFieldCandidate_eq_ok {v : JsValue} {path : String}
    {candidate : RawFieldCandidate} : parseRawFieldCandidate W v path = .ok candidate ↔
      RawFieldConsistent W candidate ∧ ∃ value, v = .object value ∧
        hasOnlyKeys value RAW_FIELD_KEYS = true ∧
        ∀ path, RawFieldFits W value candidate path := by
  unfold parseRawFieldCandidate
  split
  · next value =>
    simp only [bind_eq_ok, throwIf_eq_ok, Bool.not_eq_false]
    constructor
    · rintro ⟨_, hkeys, type, h1, fieldId, h2, name, h3, autocomplete, h4, excluded, h5, values, h6,
        _, hexcluded, _, hnamed, h⟩
      obtain rfl := Except.ok.inj h
      refine ⟨⟨rfl, fun hprotected => ?_, fun hprotected => ?_⟩, value, rfl, hkeys,
        fun path' => ⟨h1, boundedNonEmptyText_anywhere h2 path', ?_, ?_, ?_, ?_⟩⟩
      · rw [← Option.not_isSome_iff_eq_none]
        exact fun hvalues => hexcluded ⟨hprotected, hvalues⟩
      · rw [← Option.not_isNone, Bool.not_eq_true', ← Bool.not_eq_true]
        exact fun hname => hnamed ⟨hprotected, hname⟩
      · exact unlessUndefined_congr (fun h => boundedNonEmptyText_anywhere h _) h3
      · exact unlessUndefined_congr (fun h => boundedOptionalText_anywhere h _) h4
      · exact unlessUndefined_congr (fun h => parseExplicitlyExcluded_anywhere h _) h5
      · exact unlessUndefined_congr (fun h => parseRawValues_anywhere h _) h6
    · rintro ⟨hconsistent, _, hv, hkeys, h⟩
      cases hv
      refine ⟨(), hkeys, _, (h path).controlType, _, (h _).fieldId, _, (h _).name, _,
        (h _).autocomplete, _, (h path).explicitlyExcluded, _, (h path).values, (), ?_, (), ?_, ?_⟩
      · rcases candidate with ⟨_, _, _, _, _, _, _⟩
        obtain ⟨rfl, hexcluded, -⟩ := hconsistent
        rintro ⟨hprotected, hvalues⟩
        rw [hexcluded hprotected] at hvalues
        cases hvalues
      · rcases candidate with ⟨_, _, _, _, _, _, _⟩
        obtain ⟨rfl, -, hnamed⟩ := hconsistent
        rintro ⟨hprotected, hname⟩
        have hsome := hnamed hprotected
        rw [Option.isSome_eq_false_iff.mpr hname] at hsome
        cases hsome
      · rcases candidate with ⟨_, _, _, _, _, _, _⟩
        obtain ⟨rfl, -, -⟩ := hconsistent
        rfl
  · next hv =>
    constructor
    · intro h
      cases h
    · rintro ⟨-, value, rfl, -⟩
      exact absurd rfl (hv value)

theorem parseRawFieldCandidate_anywhere : Anywhere (parseRawFieldCandidate W) :=
  fun _ _ _ h _ => parseRawFieldCandidate_eq_ok.mpr (parseRawFieldCandidate_eq_ok.mp h)

/-- The keys that are written are those of the properties with a value. -/
theorem hasOnlyKeys_definedMembers {members : List (Text × JsValue)} {keys : List String}
    (h : ∀ m ∈ members, m.2 ≠ .undefined → m.1 ∈ keys.map ascii) :
    hasOnlyKeys (definedMembers members) keys = true := by
  rw [hasOnlyKeys, List.all_eq_true]
  intro m hm
  obtain ⟨hm, hdefined⟩ := mem_definedMembers.mp hm
  exact List.contains_iff_mem.mpr (h m hm hdefined)

/-- **The fields of messages are parsed to themselves.** -/
theorem parseRawFieldCandidate_again {v : JsValue} {path : String}
    {candidate : RawFieldCandidate} (h : parseRawFieldCandidate W v path = .ok candidate)
    (path' : String) : parseRawFieldCandidate W candidate.value path' = .ok candidate := by
  obtain ⟨hconsistent, value, -, -, h⟩ := parseRawFieldCandidate_eq_ok.mp h
  refine parseRawFieldCandidate_eq_ok.mpr ⟨hconsistent, _, rfl, ?_, fun path' => ?_⟩
  · apply hasOnlyKeys_definedMembers
    rw [RawFieldCandidate.members, hconsistent.files]
    intro m hm hdefined
    simp only [List.mem_cons, List.not_mem_nil, or_false] at hm
    rcases hm with rfl | rfl | rfl | rfl | rfl | rfl | rfl
    all_goals first | exact absurd rfl hdefined | exact List.contains_iff_mem.mp rfl
  · have hkeys := member_definedMembers (show distinctKeys candidate.members = true from rfl)
    refine ⟨?_, ?_, ?_, ?_, ?_, ?_⟩
    · rw [hkeys]
      exact parseControlType_eq_ok.mpr (fieldControlType_again candidate.controlType)
    · rw [hkeys]
      exact boundedNonEmptyText_again (h path').fieldId path'
    · rw [hkeys]
      refine unlessUndefined_written (fun _ => rfl) fun name hname => ?_
      exact boundedNonEmptyText_again (unlessUndefined_some (h path').name name hname) path'
    · rw [hkeys]
      refine unlessUndefined_written (fun _ => rfl) fun text htext => ?_
      exact boundedOptionalText_again (unlessUndefined_some (h path').autocomplete text htext) path'
    · rw [hkeys]
      exact unlessUndefined_written (fun _ => rfl) fun _ _ => rfl
    · rw [hkeys]
      refine unlessUndefined_written (fun _ => rfl) fun values hvalues => ?_
      exact parseRawValues_again (unlessUndefined_some (h path').values values hvalues) path'

/-! ### Forms -/

/-- What is checked of the parts of a form. -/
structure FormFits (W : WebPlatform) (value : List (Text × JsValue))
    (form : CaptureFormDescriptor) : Prop where
  actionUrl : ∀ q, normalizeUrl W.toReceiptPlatform (member (ascii "actionUrl") value) q =
    .ok form.actionUrl
  encoding : parseFormEncoding (member (ascii "encoding") value) = .ok form.encoding
  formId : unlessUndefined (boundedNonEmptyText W · "$.form.formId" 256)
    (member (ascii "formId") value) = .ok form.formId
  formName : unlessUndefined (boundedNonEmptyText W · "$.form.formName" 256)
    (member (ascii "formName") value) = .ok form.formName
  method : ∀ q, normalizeHttpMethod W.toReceiptPlatform (member (ascii "method") value) q =
    .ok form.method

theorem parseCaptureForm_eq_ok {v : JsValue} {form : CaptureFormDescriptor} :
    parseCaptureForm W v = .ok form ↔ ∃ value, v = .object value ∧
      hasOnlyKeys value ["actionUrl", "encoding", "formId", "formName", "method"] = true ∧
      FormFits W value form := by
  unfold parseCaptureForm
  split
  · next value =>
    simp only [bind_eq_ok, throwIf_eq_ok, Bool.not_eq_false, rethrow_eq_ok]
    constructor
    · rintro ⟨_, hkeys, actionUrl, h1, encoding, h2, formId, h3, formName, h4, method, h5, h⟩
      obtain rfl := Except.ok.inj h
      exact ⟨value, rfl, hkeys, normalizeUrl_parses.anywhere h1, h2, h3, h4,
        normalizeHttpMethod_parses.anywhere h5⟩
    · rintro ⟨_, hv, hkeys, h⟩
      cases hv
      exact ⟨(), hkeys, _, h.actionUrl _, _, h.encoding, _, h.formId, _, h.formName, _,
        h.method _, rfl⟩
  · next hv =>
    constructor
    · intro h
      cases h
    · rintro ⟨value, rfl, -⟩
      exact absurd rfl (hv value)

/-- **Forms are parsed to themselves.** -/
theorem parseCaptureForm_again {v : JsValue} {form : CaptureFormDescriptor}
    (h : parseCaptureForm W v = .ok form) : parseCaptureForm W form.value = .ok form := by
  obtain ⟨value, -, -, h⟩ := parseCaptureForm_eq_ok.mp h
  refine parseCaptureForm_eq_ok.mpr ⟨_, rfl, ?_, ?_⟩
  · apply hasOnlyKeys_definedMembers
    intro m hm _
    simp only [List.mem_cons, List.not_mem_nil, or_false] at hm
    rcases hm with rfl | rfl | rfl | rfl | rfl
    all_goals exact List.contains_iff_mem.mp rfl
  · have hkeys := member_definedMembers (show distinctKeys [
        (ascii "actionUrl", JsValue.string form.actionUrl),
        (ascii "encoding", writeEnum formEncodingText form.encoding),
        (ascii "formId", writeOption .string form.formId),
        (ascii "formName", writeOption .string form.formName),
        (ascii "method", .string form.method)] = true from rfl)
    refine ⟨?_, ?_, ?_, ?_, ?_⟩
    · rw [hkeys]
      exact normalizeUrl_parses.again (h.actionUrl [])
    · rw [hkeys, parseFormEncoding_eq_ok]
      exact (formEncoding_parses (Q := W.toReceiptPlatform)).again
        (parseFormEncoding_eq_ok.mp h.encoding [])
    · rw [hkeys]
      refine unlessUndefined_written (fun _ => rfl) fun text htext => ?_
      exact boundedNonEmptyText_again (unlessUndefined_some h.formId text htext) _
    · rw [hkeys]
      refine unlessUndefined_written (fun _ => rfl) fun text htext => ?_
      exact boundedNonEmptyText_again (unlessUndefined_some h.formName text htext) _
    · rw [hkeys]
      exact normalizeHttpMethod_parses.again (h.method [])

/-! ### Requests -/

/-- What a captured form is: its parts are in their normal forms, the page is
that of its origin and of the hash of its path, and the action is that of the
origin of the action. -/
structure Canonical (W : WebPlatform) (keccak256 : List UInt8 → HashHex)
    (input : CaptureAttemptInput) : Prop where
  fields_le : input.fields.length ≤ MAX_CAPTURE_FIELDS
  fields : ∀ candidate ∈ input.fields, ∀ path,
    parseRawFieldCandidate W candidate.value path = .ok candidate
  origin : ∀ q, normalizeOrigin W.toReceiptPlatform (.string input.origin) q = .ok input.origin
  pageUrl : ∀ q, normalizeUrl W.toReceiptPlatform (.string input.pageUrl) q = .ok input.pageUrl
  page : hasOrigin W input.pageUrl input.origin
  pageSafe : privacySafePageUrl W input.pageUrl = some input.pageUrl
  path : (W.url input.pageUrl).map (fun page => hashPagePath W keccak256 input.origin page.pathname)
    = some (.ok input.pagePathHash)
  pagePathHash : ∀ q, normalizeHash (.string input.pagePathHash) q = .ok input.pagePathHash
  actionOrigin : ∀ q, normalizeOrigin W.toReceiptPlatform (.string input.actionOrigin) q =
    .ok input.actionOrigin
  form : parseCaptureForm W input.form.value = .ok input.form
  action : hasOrigin W input.form.actionUrl input.actionOrigin
  actionSafe : privacySafePageUrl W input.form.actionUrl = some input.form.actionUrl
  attemptId : isOpaqueId input.attemptId = true
  capturedAt : ∀ q, normalizeTimestamp (.string input.capturedAt) q = .ok input.capturedAt
  documentInstanceId : isOpaqueId input.documentInstanceId = true
  receiptId : ∀ q, normalizeHash (.string input.receiptId) q = .ok input.receiptId
  receiptNonce : isOpaqueId input.receiptNonce = true

theorem captureFields_eq_ok {v : JsValue} {items : List JsValue} :
    captureFields v = .ok items ↔ v = .array items ∧ items.length ≤ MAX_CAPTURE_FIELDS := by
  unfold captureFields
  split
  · next found =>
    split
    · next hlong =>
      constructor
      · intro h
        cases h
      · rintro ⟨hv, hlength⟩
        cases hv
        exact absurd hlong (not_lt.mpr hlength)
    · next hshort =>
      constructor
      · intro h
        obtain rfl := Except.ok.inj h
        exact ⟨rfl, not_lt.mp hshort⟩
      · rintro ⟨hv, -⟩
        rw [JsValue.array.inj hv]
  · next hv =>
    constructor
    · intro h
      cases h
    · rintro ⟨rfl, -⟩
      exact absurd rfl (hv items)

/-- The page of a URL has the origin and the path. -/
theorem url_origin_eq {url origin : Text} {page : WebUrl} (hpage : W.url url = some page) :
    page.origin = origin ↔ hasOrigin W url origin := by
  rw [hasOrigin, hpage]
  exact ⟨congrArg some, Option.some.inj⟩

/-- **What is accepted is canonical.** -/
theorem canonicalCaptureInput_canonical {value : List (Text × JsValue)}
    {input : CaptureAttemptInput} (h : canonicalCaptureInput W keccak256 value = .ok input) :
    Canonical W keccak256 input := by
  simp only [canonicalCaptureInput, bind_eq_ok, rethrow_eq_ok, orThrow_eq_ok, throwIf_eq_ok,
    not_not] at h
  obtain ⟨rawFields, hraw, origin, h1, pageUrl, h2, page, hpage, _, hpageOrigin, _, hpageSafe,
    pagePathHash, h3, expected, hexpected, _, hpath, actionOrigin, h4, form, h5, action, haction, _,
    hactionOrigin, _, hactionSafe, attemptId, h6, capturedAt, h7, documentInstanceId, h8, fields,
    h9, receiptId, h10, receiptNonce, h11, h⟩ := h
  obtain rfl := Except.ok.inj h
  have hfields := (parseEach_eq_ok parseRawFieldCandidate_anywhere).mp h9
  refine ⟨?_, fun candidate hmem path => ?_, normalizeOrigin_parses.again h1,
    normalizeUrl_parses.again h2, (url_origin_eq hpage).mp hpageOrigin, hpageSafe, ?_,
    (normalizeHash_parses (Q := W.toReceiptPlatform)).again h3, normalizeOrigin_parses.again h4,
    parseCaptureForm_again h5, (url_origin_eq haction).mp hactionOrigin, hactionSafe,
    (parseOpaqueId_eq_ok.mp h6).2, (normalizeTimestamp_parses (Q := W.toReceiptPlatform)).again h7,
    (parseOpaqueId_eq_ok.mp h8).2, (normalizeHash_parses (Q := W.toReceiptPlatform)).again h10,
    (parseOpaqueId_eq_ok.mp h11).2⟩
  · rw [← hfields.length_eq]
    exact (captureFields_eq_ok.mp hraw).2
  · obtain ⟨_, -, hcandidate⟩ := exists_of_forall₂ hfields hmem
    exact parseRawFieldCandidate_again (hcandidate "") path
  · rw [hpage, hpath]
    exact congrArg some hexpected

/-- **What is canonical is accepted**, wherever it is written. -/
theorem Canonical.accepted {input : CaptureAttemptInput} (h : Canonical W keccak256 input)
    {value : List (Text × JsValue)} (hvalue : ∀ m ∈ input.members, member m.1 value = m.2) :
    canonicalCaptureInput W keccak256 value = .ok input := by
  have hmember : ∀ (key : String) (v : JsValue), (ascii key, v) ∈ input.members →
      member (ascii key) value = v := fun key v hmem => hvalue (ascii key, v) hmem
  obtain ⟨page, hpage, hpath⟩ := Option.map_eq_some_iff.mp h.path
  obtain ⟨action, haction, -⟩ := Option.map_eq_some_iff.mp h.action
  simp only [canonicalCaptureInput, bind_eq_ok, rethrow_eq_ok, orThrow_eq_ok, throwIf_eq_ok,
    not_not]
  refine ⟨input.fields.map RawFieldCandidate.value, ?_, input.origin, ?_, input.pageUrl, ?_, page,
    hpage, (), (url_origin_eq hpage).mpr h.page, (), h.pageSafe, input.pagePathHash, ?_,
    input.pagePathHash, hpath, (), rfl, input.actionOrigin, ?_, input.form, ?_, action, haction, (),
    (url_origin_eq haction).mpr h.action, (), h.actionSafe, input.attemptId, ?_, input.capturedAt,
    ?_, input.documentInstanceId, ?_, input.fields, ?_, input.receiptId, ?_, input.receiptNonce, ?_,
    rfl⟩
  · rw [hmember "fields" (writeList RawFieldCandidate.value input.fields)
      (by simp [CaptureAttemptInput.members])]
    refine captureFields_eq_ok.mpr ⟨rfl, ?_⟩
    rw [List.length_map]
    exact h.fields_le
  · rw [hmember "origin" (.string input.origin) (by simp [CaptureAttemptInput.members])]
    exact h.origin _
  · rw [hmember "pageUrl" (.string input.pageUrl) (by simp [CaptureAttemptInput.members])]
    exact h.pageUrl _
  · rw [hmember "pagePathHash" (.string input.pagePathHash)
      (by simp [CaptureAttemptInput.members])]
    exact h.pagePathHash _
  · rw [hmember "actionOrigin" (.string input.actionOrigin)
      (by simp [CaptureAttemptInput.members])]
    exact h.actionOrigin _
  · rw [hmember "form" input.form.value (by simp [CaptureAttemptInput.members])]
    exact h.form
  · rw [hmember "attemptId" (.string input.attemptId) (by simp [CaptureAttemptInput.members])]
    exact parseOpaqueId_eq_ok.mpr ⟨rfl, h.attemptId⟩
  · rw [hmember "capturedAt" (.string input.capturedAt) (by simp [CaptureAttemptInput.members])]
    exact h.capturedAt _
  · rw [hmember "documentInstanceId" (.string input.documentInstanceId)
      (by simp [CaptureAttemptInput.members])]
    exact parseOpaqueId_eq_ok.mpr ⟨rfl, h.documentInstanceId⟩
  · exact parseEach_written parseRawFieldCandidate_anywhere h.fields _ _
  · rw [hmember "receiptId" (.string input.receiptId) (by simp [CaptureAttemptInput.members])]
    exact h.receiptId _
  · rw [hmember "receiptNonce" (.string input.receiptNonce)
      (by simp [CaptureAttemptInput.members])]
    exact parseOpaqueId_eq_ok.mpr ⟨rfl, h.receiptNonce⟩

theorem normalizeHash_hashText (word : HashHex) (q : Text) :
    normalizeHash (.string (hashText word)) q = .ok (hashText word) := by
  have hdigit : ∀ d < 16, lowerUnit (Json.hexDigit d) = Json.hexDigit d := by decide
  have hlower : (hashText word).map lowerUnit = hashText word := by
    rw [hashText, List.map_append, List.map_map]
    refine congrArg₂ (· ++ ·) rfl (List.map_congr_left fun i _ => ?_)
    exact hdigit _ (Nat.mod_lt _ (by decide))
  rw [normalizeHash, if_pos (matchesHex_hashText word), hlower]

/-- A canonical hash is in its normal form. -/
theorem hashCanonical_normal {Q : TextPlatform} {domain hash : Text} {v : JsValue}
    (h : hashCanonical Q keccak256 domain v = .ok hash) (q : Text) :
    normalizeHash (.string hash) q = .ok hash := by
  obtain ⟨preimage, -, h⟩ := bind_eq_ok.mp h
  obtain rfl := Except.ok.inj h
  exact normalizeHash_hashText _ q

theorem parseFingerprint_eq_some {v : JsValue} {canonical : CaptureAttemptInput}
    {fingerprint : Text} : parseFingerprint W keccak256 v canonical = some fingerprint ↔
      normalizeHash v (ascii "$") = .ok fingerprint ∧
        computeCaptureFingerprint W keccak256 canonical = .ok fingerprint := by
  simp only [parseFingerprint, Option.bind_eq_bind, Option.bind_eq_some_iff, accept_eq_some,
    toOption_eq_some, ensure_eq_some, Option.pure_def, Option.some.injEq]
  constructor
  · rintro ⟨found, hfound, expected, hexpected, _, rfl, rfl⟩
    exact ⟨hfound, hexpected⟩
  · rintro ⟨hfound, hexpected⟩
    exact ⟨fingerprint, hfound, fingerprint, hexpected, (), rfl, rfl⟩

/-- **What a request is**: a captured form with its fingerprint. -/
theorem parseCaptureAttemptRequest_canonical {v : JsValue} {request : CaptureAttemptRequest}
    (h : parseCaptureAttemptRequest W keccak256 v = some request) :
    Canonical W keccak256 request.toCaptureAttemptInput ∧
      computeCaptureFingerprint W keccak256 request.toCaptureAttemptInput =
        .ok request.attemptFingerprint := by
  simp only [parseCaptureAttemptRequest, Option.bind_eq_bind, Option.bind_eq_some_iff,
    toOption_eq_some, Option.pure_def, Option.some.injEq] at h
  obtain ⟨value, -, _, -, _, -, canonical, hcanonical, fingerprint, hfingerprint, rfl⟩ := h
  exact ⟨canonicalCaptureInput_canonical hcanonical, (parseFingerprint_eq_some.mp hfingerprint).2⟩

/-- A captured form with its fingerprint is accepted, and returned unchanged. -/
theorem parseCaptureAttemptRequest_value {request : CaptureAttemptRequest}
    (h : Canonical W keccak256 request.toCaptureAttemptInput)
    (hfingerprint : computeCaptureFingerprint W keccak256 request.toCaptureAttemptInput =
      .ok request.attemptFingerprint) :
    parseCaptureAttemptRequest W keccak256 request.value = some request := by
  simp only [parseCaptureAttemptRequest, Option.bind_eq_bind, Option.bind_eq_some_iff,
    accept_asRecord, ensure_eq_some, toOption_eq_some, Option.pure_def, Option.some.injEq]
  refine ⟨_, rfl, (), rfl, (), readLiteral_eq_some.mpr rfl, request.toCaptureAttemptInput, ?_,
    request.attemptFingerprint, ?_, rfl⟩
  · apply h.accepted
    intro m hm
    refine member_eq_of_mem (m := m) (nodup_of_distinctKeys rfl) ?_
    exact List.mem_cons_of_mem _ (List.mem_append_left _ hm)
  · refine parseFingerprint_eq_some.mpr ⟨?_, hfingerprint⟩
    exact hashCanonical_normal hfingerprint _

/-- **Accepted requests are returned unchanged**: what is returned of a message
is accepted again, and so is every request that the page creates. -/
theorem captureAttemptRequests_unchanged :
    (∀ v request, parseCaptureAttemptRequest W keccak256 v = some request →
      parseCaptureAttemptRequest W keccak256 request.value = some request) ∧
    ∀ input request, createCaptureAttemptRequest W keccak256 input = .ok request →
      parseCaptureAttemptRequest W keccak256 request.value = some request := by
  refine ⟨fun v request h => ?_, fun input request h => ?_⟩
  · obtain ⟨hcanonical, hfingerprint⟩ := parseCaptureAttemptRequest_canonical h
    exact parseCaptureAttemptRequest_value hcanonical hfingerprint
  · obtain ⟨canonical, hcanonical, h⟩ := bind_eq_ok.mp h
    obtain ⟨fingerprint, hfingerprint, h⟩ := bind_eq_ok.mp h
    obtain rfl := Except.ok.inj h
    exact parseCaptureAttemptRequest_value (canonicalCaptureInput_canonical hcanonical)
      (rethrow_eq_ok.mp hfingerprint)

end laws

end Capture

end SubmittedIt.Protocol
