/-
SubmittedIt/AttemptReceipts.lean

From a captured form to a stored attempt (apps/extension/lib,
attempt-receipt.ts).

Three validators look at the same fields: that of the message, that of the
event core and that of the store.  The candidates of a message are normal for
the capture policy (`normalizeCandidate_value`), its parts are those of an
event core (`attemptCore_parsed`), and its times and texts those of a stored
attempt.  What the store adds is that origins are enabled ones, and that tab
identifiers are safe integers.

Main result: `createStoredAttemptReceipt_accepted`.
-/
import SubmittedIt.CaptureRequests

namespace SubmittedIt.Protocol

open JsValue (member hasOwn)

open Transaction

/-! ### attempt-receipt.ts -/

/-- `SITE_CONFIRMATION_CAPTURE_WINDOW_MS`. -/
def SITE_CONFIRMATION_CAPTURE_WINDOW_MS : Nat := 30 * 60 * 1000

section attempt

variable (W : WebPlatform) (keccak256 : List UInt8 → HashHex)

/-- `createEventEnvelope`. -/
def createEventEnvelope (input : JsValue) :
    Except ReceiptProtocolError LifecycleEventEnvelope := do
  let core ← parseEventCore W.toReceiptPlatform input (ascii "$.core")
  let eventHash ← hashEventCore W.toReceiptPlatform keccak256 core.value
  return {
    authoritySignature := none, chainAnchor := none, core, eventHash, extensionSignature := none }

/-- `new Date(Date.parse(capturedAt) + SITE_CONFIRMATION_CAPTURE_WINDOW_MS).toISOString()`. -/
def captureWindowEnd (capturedAt : Text) : Option Text := do
  let captured ← isoTime capturedAt
  let expires := captured + SITE_CONFIRMATION_CAPTURE_WINDOW_MS
  ensure (expires.natAbs ≤ MAX_TIME)
  return isoText expires

/-- The core of the event of an attempt. -/
def attemptCore (request : CaptureAttemptRequest) (policy : CapturePolicyResult) :
    LifecycleEventCore where
  occurredAt := request.capturedAt
  previousEventHash := zeroHashText
  receiptId := request.receiptId
  schemaVersion := ascii "1.0"
  body := .attempted {
    capturedFields := policy.capturedFields
    excludedFields := policy.excludedFields
    formDescriptor := request.form
    origin := ⟨request.origin, request.pageUrl⟩
    privacyFlags := policy.privacyFlags
    submissionAttempt := ⟨request.form.encoding, request.form.method, request.form.actionUrl,
      .formSubmit⟩ }

/-- The context of an attempt in a tab. -/
def attemptContext (request : CaptureAttemptRequest) (tabId : Nat) (eventHash expiresAt : Text) :
    StoredConfirmationContext where
  status := ⟨.active, 0⟩
  tabId := tabId
  attemptEventHash := eventHash
  documentInstanceId := request.documentInstanceId
  startedAt := request.capturedAt
  expiresAt := expiresAt
  originalOrigin := request.origin
  originalPageUrl := request.pageUrl
  currentOrigin := request.origin
  currentPageUrl := request.pageUrl
  sequence := 0
  observations := []

/-- The receipt of an attempt. -/
def attemptReceipt (request : CaptureAttemptRequest) (tabId : Nat) (event : AttemptedEvent)
    (expiresAt : Text) : StoredAttemptReceipt where
  actionOrigin := request.actionOrigin
  attemptFingerprint := request.attemptFingerprint
  attemptId := request.attemptId
  capturedAt := request.capturedAt
  event := event
  origin := request.origin
  pagePathHash := request.pagePathHash
  receiptId := request.receiptId
  receiptNonce := request.receiptNonce
  confirmationContext :=
    some (attemptContext request tabId event.envelope.eventHash expiresAt)
  siteConfirmation := none

/-- `createStoredAttemptReceipt`.  The source casts the envelope to that of an
attempt, which its core is. -/
def createStoredAttemptReceipt (request : CaptureAttemptRequest) (tabId : Nat) :
    Except ExtensionError StoredAttemptReceipt := do
  let policy ← rethrow (applyCapturePolicy W.toReceiptPlatform
    (request.fields.map RawFieldCandidate.value) false)
  let envelope ← rethrow (createEventEnvelope W keccak256 (attemptCore request policy).value)
  let event ← orThrow (.message "The event is not an attempt.") (asAttempted envelope)
  let _ ← rethrow (validateEventChain W.toReceiptPlatform keccak256 [envelope.value])
  let expiresAt ← orThrow (.message "Invalid time value") (captureWindowEnd request.capturedAt)
  return attemptReceipt request tabId event expiresAt

end attempt

section laws

variable {W : WebPlatform} {keccak256 : List UInt8 → HashHex}

/-! ### The capture policy -/

/-- **The fields of a message are candidates of the capture policy.** -/
theorem normalizeCandidate_value {candidate : RawFieldCandidate} {v : JsValue} {path : String}
    (h : Capture.parseRawFieldCandidate W v path = .ok candidate) (p : Text) :
    normalizeCandidate W.toReceiptPlatform candidate.value p = .ok candidate := by
  obtain ⟨hconsistent, value, -, -, h⟩ := Capture.parseRawFieldCandidate_eq_ok.mp h
  have h := h ""
  have hfieldId : ∀ q, normalizeNonEmptyText W.toReceiptPlatform (.string candidate.fieldId) q =
      .ok candidate.fieldId :=
    normalizeNonEmptyText_parses.again ((Capture.boundedNonEmptyText_eq_ok.mp h.fieldId).1 [])
  have hname : ∀ name ∈ candidate.name, ∀ q,
      normalizeNonEmptyText W.toReceiptPlatform (.string name) q = .ok name := by
    intro name hname
    have hbounded := Capture.unlessUndefined_some h.name name hname
    exact normalizeNonEmptyText_parses.again ((Capture.boundedNonEmptyText_eq_ok.mp hbounded).1 [])
  have hautocomplete : ∀ text ∈ candidate.autocomplete, ∀ q,
      normalizeOptionalText W.toReceiptPlatform (.string text) q = .ok text := by
    intro text htext
    have hbounded := Capture.unlessUndefined_some h.autocomplete text htext
    exact normalizeOptionalText_parses.again ((Capture.boundedOptionalText_eq_ok.mp hbounded).1 [])
  have hvalues : ∀ values ∈ candidate.values, ∀ q,
      parseValues W.toReceiptPlatform (writeList .string values) q = .ok values := by
    intro values hvalues q
    obtain ⟨items, -, hitems, -⟩ := Capture.parseRawValues_eq_ok.mp
      (Capture.unlessUndefined_some h.values values hvalues)
    refine parseArrayOf_eq_ok.mpr ((parseList_eq_ok normalizeOptionalText_parses.anywhere).mpr
      ⟨_, rfl, ?_⟩)
    rw [List.forall₂_map_left_iff, List.forall₂_same]
    intro text htext
    obtain ⟨_, -, htext⟩ := exists_of_forall₂ hitems htext
    exact normalizeOptionalText_parses.again
      ((Capture.boundedOptionalText_eq_ok.mp (htext "")).1 [])
  have hfile : candidate.controlType = .file → candidate.values = none := by
    intro hfile
    apply hconsistent.excluded
    simp [Capture.protectedField, hfile]
  rcases candidate with ⟨autocomplete, controlType, excluded, fieldId, files, name, values⟩
  obtain ⟨rfl, -, -⟩ := hconsistent
  simp only [normalizeCandidate, bind_eq_ok, refuseIf_eq_ok, assertAllowedKeys_eq_ok,
    asRecord_eq_ok]
  refine ⟨_, rfl, (), fun m hm => ?_, (), ?_, controlType, ?_, fieldId, ?_, name, ?_, autocomplete,
    ?_, excluded, ?_, values, ?_, none, ?_, (), ?_, (), ?_, rfl⟩
  · have hm := (mem_definedMembers.mp hm).1
    simp only [RawFieldCandidate.members, List.mem_cons, List.not_mem_nil, or_false] at hm
    rcases hm with rfl | rfl | rfl | rfl | rfl | rfl | rfl
    all_goals exact List.contains_iff_mem.mp rfl
  · rw [hasOwn_definedMembers rfl, hasOwn_definedMembers rfl]
    exact not_or.mpr ⟨Bool.noConfusion, Bool.noConfusion⟩
  · have htype : ∀ q, parseControlType (writeEnum fieldControlTypeText controlType) q =
        .ok controlType :=
      fun q => parseControlType_eq_ok.mpr (fieldControlType_again controlType q)
    exact field_written rfl rfl htype p
  · exact field_written rfl rfl hfieldId p
  · exact optionalField_written rfl rfl (fun _ => rfl) hname p
  · exact optionalField_written rfl rfl (fun _ => rfl) hautocomplete p
  · exact optionalField_written rfl rfl (fun _ => rfl) (fun _ _ _ => rfl) p
  · exact optionalField_written rfl rfl (fun _ => rfl) hvalues p
  · rw [optionalField, hasOwn_definedMembers rfl]
    rfl
  · rintro ⟨htype, hsome⟩
    rw [show values = none from hfile htype] at hsome
    cases hsome
  · rintro ⟨-, hsome⟩
    cases hsome

/-- A field of a message that the policy does not exclude can be captured: a
field without a name may not be transported, so that it is excluded. -/
theorem captureCandidate_value {candidate : RawFieldCandidate} {v : JsValue} {path : String}
    (h : Capture.parseRawFieldCandidate W v path = .ok candidate)
    (hreason : exclusionReason W.toReceiptPlatform false candidate = none) :
    ∃ field, ∀ p, captureCandidate candidate p = .ok field := by
  obtain ⟨hconsistent, -⟩ := Capture.parseRawFieldCandidate_eq_ok.mp h
  have hcapturable := exclusionReason_eq_none.mp hreason
  have hname : candidate.name.isSome = true := by
    by_contra hnone
    rw [Option.not_isSome_iff_eq_none] at hnone
    have hfree : Capture.protectedField W candidate = false := by
      have hfile : candidate.controlType ≠ .file := fun htype =>
        Bool.noConfusion (hcapturable.file htype)
      simp [Capture.protectedField, hcapturable.password, hfile, hcapturable.autofill, hnone,
        hcapturable.explicitly]
    have hsome := hconsistent.named hfree
    rw [hnone] at hsome
    cases hsome
  obtain ⟨name, hname⟩ := Option.isSome_iff_exists.mp hname
  rcases htype : candidate.controlType with type | - | -
  · refine ⟨.value type candidate.fieldId name (candidate.values.getD []), fun p => ?_⟩
    rw [captureCandidate, hname, htype]
  · exact absurd htype hcapturable.password
  · exact Bool.noConfusion (hcapturable.file htype)

/-- **The loop takes candidates whose identifiers are new.** -/
theorem policy_accepts {Q : ReceiptPlatform} {includeFileMetadata : Bool}
    {candidates : List RawFieldCandidate} {state : PolicyState}
    (hnormal : ∀ candidate ∈ candidates, ∀ p,
      normalizeCandidate Q candidate.value p = .ok candidate)
    (hcapture : ∀ candidate ∈ candidates,
      exclusionReason Q includeFileMetadata candidate = none →
        ∃ field, ∀ p, captureCandidate candidate p = .ok field)
    (hnodup : (candidates.map (·.fieldId)).Nodup)
    (hnew : ∀ candidate ∈ candidates, candidate.fieldId ∉ state.ids) :
    ∃ last, replay (policyStep Q includeFileMetadata) state
      (candidates.map RawFieldCandidate.value) = .ok last := by
  induction candidates generalizing state with
  | nil => exact ⟨state, rfl⟩
  | cons candidate rest ih =>
    rw [List.map_cons, List.nodup_cons] at hnodup
    obtain ⟨next, hstep, hids⟩ : ∃ next,
        policyStep Q includeFileMetadata state candidate.value = .ok next ∧
          next.ids = candidate.fieldId :: state.ids := by
      have hfirst := hnormal candidate List.mem_cons_self
      have hfresh := hnew candidate List.mem_cons_self
      rcases hreason : exclusionReason Q includeFileMetadata candidate with - | reason
      · obtain ⟨field, hfield⟩ := hcapture candidate List.mem_cons_self hreason
        refine ⟨state.capture field, policyStep_eq_ok.mpr ⟨candidate, hfirst, hfresh,
          .inr ⟨hreason, field, hfield, rfl⟩⟩, ?_⟩
        rw [← captureCandidate_fieldId (hfield [])]
        rfl
      · exact ⟨state.exclude (exclusion candidate reason), policyStep_eq_ok.mpr ⟨candidate, hfirst,
          hfresh, .inl ⟨reason, hreason, rfl⟩⟩, rfl⟩
    have hrest : ∀ other ∈ rest, other.fieldId ∉ next.ids := by
      intro other hmem
      rw [hids, List.mem_cons, not_or]
      refine ⟨fun hsame => hnodup.1 ?_, hnew other (List.mem_cons_of_mem _ hmem)⟩
      rw [← hsame]
      exact List.mem_map_of_mem hmem
    obtain ⟨last, hlast⟩ := ih (fun other hmem => hnormal other (List.mem_cons_of_mem _ hmem))
      (fun other hmem => hcapture other (List.mem_cons_of_mem _ hmem)) hnodup.2 hrest
    exact ⟨last, replay_cons_ok.mpr ⟨next, hstep, hlast⟩⟩

/-- Fields with different identifiers that are parsed to themselves are
accepted. -/
theorem parseFields_accepts {α : Type} {parse : JsValue → Text → Except ReceiptProtocolError α}
    {write : α → JsValue} {key : α → FieldKey} (hparse : Pathless parse) {xs : List α}
    (hwritten : ∀ x ∈ xs, ∀ q, parse (write x) q = .ok x)
    (hnodup : (xs.map fun x => (key x).fieldId).Nodup) (p : Text) :
    ∃ ys, parseFields parse key (writeList write xs) p = .ok ys := by
  have hperm := JsValue.perm_sortBy (compareBy key) xs
  refine ⟨JsValue.sortBy (compareBy key) xs, (parseFields_eq_ok hparse).mpr ⟨_, xs, rfl, ?_, hperm,
    JsValue.sortBy_pairwise (compareBy key) xs, (hperm.map _).nodup_iff.mpr hnodup⟩⟩
  rw [List.forall₂_map_left_iff, List.forall₂_same]
  exact hwritten

/-- The loop starts with no candidate. -/
theorem policy_initial {Q : ReceiptPlatform} {includeFileMetadata : Bool} :
    PolicyState.initial.Partition Q includeFileMetadata [] :=
  ⟨rfl, List.nodup_nil, List.Perm.refl _, fun _ h => absurd h List.not_mem_nil,
    fun _ h => absurd h List.not_mem_nil⟩

/-- What the policy returns is what its loop made of the candidates, in order, and
is parsed to itself. -/
theorem applyCapturePolicy_run {Q : ReceiptPlatform} {input : List JsValue}
    {includeFileMetadata : Bool} {result : CapturePolicyResult}
    (h : applyCapturePolicy Q input includeFileMetadata = .ok result) :
    ∃ (candidates : List RawFieldCandidate) (last : PolicyState),
      List.Forall₂ (fun raw candidate => ∀ p, normalizeCandidate Q raw p = .ok candidate) input
        candidates ∧
      last.Partition Q includeFileMetadata candidates ∧
      result.capturedFields.Perm last.captured ∧ result.excludedFields.Perm last.excluded ∧
      (∀ q, parseCapturedFields Q (writeList CapturedField.write result.capturedFields) q =
        .ok result.capturedFields) ∧
      ∀ q, parseExcludedFields Q (writeList ExcludedFieldDescriptor.value result.excludedFields)
        q = .ok result.excludedFields := by
  rw [applyCapturePolicy] at h
  simp only [bind_eq_ok] at h
  obtain ⟨last, hlast, captured, hcaptured, excluded, hexcluded, h⟩ := h
  obtain rfl := Except.ok.inj h
  obtain ⟨candidates, hcandidates, hrun⟩ := policy_run policy_initial hlast
  rw [List.nil_append] at hrun
  have hnormal : ∀ candidate ∈ candidates, candidate.Normal Q := by
    intro candidate hmem
    obtain ⟨_, -, hcandidate⟩ := exists_of_forall₂ hcandidates hmem
    exact normalizeCandidate_normal (hcandidate [])
  refine ⟨candidates, last, hcandidates, hrun, ?_, ?_, parseCapturedFields_parses.again hcaptured,
    parseExcludedFields_parses.again hexcluded⟩
  · apply parseFields_written parseCapturedField_parses.anywhere _ hcaptured
    intro field hfield
    obtain ⟨candidate, hmem, hreason, hfield⟩ := hrun.captured field hfield
    exact captureCandidate_parses (hnormal candidate hmem) hreason (hfield [])
  · apply parseFields_written parseExcludedField_parses.anywhere _ hexcluded
    intro field hfield
    obtain ⟨candidate, hmem, reason, -, rfl⟩ := hrun.excluded field hfield
    exact exclusion_parses (hnormal candidate hmem) reason

/-- A captured field is of the type of its candidate. -/
theorem captureCandidate_controlType {candidate : RawFieldCandidate} {field : CapturedField}
    {p : Text} (h : captureCandidate candidate p = .ok field) :
    candidate.controlType = field.controlType := by
  rw [captureCandidate] at h
  split at h
  · cases h
  · split at h
    · next htype =>
      obtain rfl := Except.ok.inj h
      exact htype
    · cases h
    · next htype =>
      obtain rfl := Except.ok.inj h
      exact htype

/-- **The policy accepts the fields of a message exactly where their identifiers
are different.** -/
theorem applyCapturePolicy_accepts_iff {candidates : List RawFieldCandidate}
    (hfields : ∀ candidate ∈ candidates, ∀ path,
      Capture.parseRawFieldCandidate W candidate.value path = .ok candidate) :
    (∃ policy, applyCapturePolicy W.toReceiptPlatform
      (candidates.map RawFieldCandidate.value) false = .ok policy) ↔
      (candidates.map (·.fieldId)).Nodup := by
  have hnormal : ∀ candidate ∈ candidates, ∀ p,
      normalizeCandidate W.toReceiptPlatform candidate.value p = .ok candidate :=
    fun candidate hmem => normalizeCandidate_value (hfields candidate hmem "")
  constructor
  · rintro ⟨policy, hpolicy⟩
    obtain ⟨found, last, hfound, hrun, -⟩ := applyCapturePolicy_run hpolicy
    have hnodup := hrun.nodup
    rw [hrun.ids, List.nodup_reverse] at hnodup
    have hsame : List.Forall₂ (fun raw candidate => ∀ p,
        normalizeCandidate W.toReceiptPlatform raw p = .ok candidate)
        (candidates.map RawFieldCandidate.value) candidates := by
      rw [List.forall₂_map_left_iff, List.forall₂_same]
      exact hnormal
    rwa [eq_of_forall₂_parse hfound hsame] at hnodup
  · intro hnodup
    have hfirst : ∀ candidate ∈ candidates, candidate.fieldId ∉ PolicyState.initial.ids :=
      fun _ _ => List.not_mem_nil
    obtain ⟨last, hlast⟩ := policy_accepts hnormal
      (fun candidate hmem hreason => captureCandidate_value (hfields candidate hmem "") hreason)
      hnodup hfirst
    obtain ⟨found, hfound, hrun⟩ := policy_run policy_initial hlast
    have hfoundNormal : ∀ candidate ∈ [] ++ found, candidate.Normal W.toReceiptPlatform := by
      intro candidate hmem
      obtain ⟨_, -, hcandidate⟩ := exists_of_forall₂ hfound hmem
      exact normalizeCandidate_normal (hcandidate [])
    have hids := hrun.partition.nodup_iff.mpr hrun.nodup
    have hcaptured : ∃ captured, parseCapturedFields W.toReceiptPlatform
        (writeList CapturedField.write last.captured) (ascii "$.capturedFields") =
          .ok captured := by
      apply parseFields_accepts parseCapturedField_parses.anywhere _ hids.of_append_left
      intro field hfield
      obtain ⟨candidate, hmem, hreason, hfield⟩ := hrun.captured field hfield
      exact captureCandidate_parses (hfoundNormal candidate hmem) hreason (hfield [])
    have hexcluded : ∃ excluded, parseExcludedFields W.toReceiptPlatform
        (writeList ExcludedFieldDescriptor.value last.excluded) (ascii "$.excludedFields") =
          .ok excluded := by
      apply parseFields_accepts parseExcludedField_parses.anywhere _ hids.of_append_right
      intro field hfield
      obtain ⟨candidate, hmem, reason, -, rfl⟩ := hrun.excluded field hfield
      exact exclusion_parses (hfoundNormal candidate hmem) reason
    obtain ⟨captured, hcaptured⟩ := hcaptured
    obtain ⟨excluded, hexcluded⟩ := hexcluded
    exact ⟨_, bind_eq_ok.mpr ⟨last, hlast, bind_eq_ok.mpr ⟨captured, hcaptured,
      bind_eq_ok.mpr ⟨excluded, hexcluded, rfl⟩⟩⟩⟩

/-! ### The event -/

/-- The parts of a captured form are those of a form descriptor. -/
theorem parseFormDescriptor_captured {form : CaptureFormDescriptor}
    (h : Capture.parseCaptureForm W form.value = .ok form) (p : Text) :
    parseFormDescriptor W.toReceiptPlatform form.value p = .ok form := by
  obtain ⟨value, -, -, h⟩ := Capture.parseCaptureForm_eq_ok.mp h
  refine parseFormDescriptor_eq_ok.mpr
    ⟨_, rfl, fun q => ⟨assertKeys_fits rfl q, ?_, ?_, ?_, ?_, ?_⟩⟩
  · exact field_written rfl rfl (normalizeUrl_parses.again (h.actionUrl [])) q
  · exact field_written rfl rfl ((formEncoding_parses (Q := W.toReceiptPlatform)).again
      (Capture.parseFormEncoding_eq_ok.mp h.encoding [])) q
  · refine optionalField_written rfl rfl (fun _ => rfl) (fun text htext => ?_) q
    have hbounded := Capture.unlessUndefined_some h.formId text htext
    exact normalizeNonEmptyText_parses.again ((Capture.boundedNonEmptyText_eq_ok.mp hbounded).1 [])
  · refine optionalField_written rfl rfl (fun _ => rfl) (fun text htext => ?_) q
    have hbounded := Capture.unlessUndefined_some h.formName text htext
    exact normalizeNonEmptyText_parses.again ((Capture.boundedNonEmptyText_eq_ok.mp hbounded).1 [])
  · exact field_written rfl rfl (normalizeHttpMethod_parses.again (h.method [])) q

/-- **The core of an attempt is parsed to itself.** -/
theorem attemptCore_parsed {request : CaptureAttemptRequest} {policy : CapturePolicyResult}
    (hrequest : Capture.Canonical W keccak256 request.toCaptureAttemptInput)
    (hpolicy : applyCapturePolicy W.toReceiptPlatform
      (request.fields.map RawFieldCandidate.value) false = .ok policy) (p : Text) :
    parseEventCore W.toReceiptPlatform (attemptCore request policy).value p =
      .ok (attemptCore request policy) := by
  obtain ⟨candidates, last, -, hrun, hcaptured, hexcluded, hcapturedParsed, hexcludedParsed⟩ :=
    applyCapturePolicy_run hpolicy
  have hids := ((hcaptured.map (·.fieldId)).append (hexcluded.map (·.fieldId))).trans hrun.partition
  have hdisjoint := List.disjoint_of_nodup_append (hids.nodup_iff.mpr hrun.nodup)
  have hform := parseFormDescriptor_captured hrequest.form
  obtain ⟨_, _, hfits⟩ := parseFormDescriptor_eq_ok.mp (hform [])
  have hconsistent : ∀ body : AttemptedBody, body.capturedFields = policy.capturedFields →
      body.excludedFields = policy.excludedFields → body.Consistent := by
    rintro ⟨_, _, _, _, _, _⟩ rfl rfl
    refine ⟨?_, fun fieldId hout hin => hdisjoint hin hout⟩
    rintro ⟨⟨field, hfield, htype⟩, -⟩
    obtain ⟨candidate, -, hreason, hfield⟩ := hrun.captured field (hcaptured.subset hfield)
    have hsame := captureCandidate_controlType (hfield [])
    exact Bool.noConfusion ((exclusionReason_eq_none.mp hreason).file (hsame.trans htype))
  refine parseEventCore_eq_ok.mpr ⟨_, rfl, fun q => ⟨?_, ?_, ?_, ?_, ?_, ?_⟩⟩
  · exact field_written rfl rfl (fun _ => rfl) q
  · exact field_written rfl rfl hrequest.capturedAt q
  · exact field_written rfl rfl (fun _ => rfl) q
  · exact field_written rfl rfl hrequest.receiptId q
  · exact field_written rfl rfl (fun _ => rfl) q
  · refine parseAttemptedBody_eq_ok.mpr ⟨hconsistent _ rfl rfl,
      fun q => ⟨assertKeys_fits rfl q, ?_, ?_, ?_, ?_, ?_, ?_⟩⟩
    · exact field_written rfl rfl hcapturedParsed q
    · exact field_written rfl rfl hexcludedParsed q
    · refine field_written rfl rfl (fun q => ?_) q
      exact parsePrivacyFlags_eq_ok.mpr ⟨_, rfl, fun q => ⟨assertKeys_fits rfl q,
        field_written rfl rfl (fun _ => rfl) q, field_written rfl rfl (fun _ => rfl) q,
        field_written rfl rfl (fun _ => rfl) q⟩⟩
    · exact field_written rfl rfl hform q
    · refine field_written rfl rfl (fun q => ?_) q
      exact parseOriginDescriptor_eq_ok.mpr ⟨_, rfl, fun q => ⟨assertKeys_fits rfl q,
        field_written rfl rfl hrequest.origin q, field_written rfl rfl hrequest.pageUrl q,
        hrequest.page⟩⟩
    · refine field_written rfl rfl (fun q => ?_) q
      obtain ⟨-, hactionUrl, hencoding, -, -, hmethod⟩ := hfits []
      exact parseSubmissionAttempt_eq_ok.mpr ⟨_, rfl, fun q => ⟨assertKeys_fits rfl q,
        field_written rfl rfl (formEncoding_parses (Q := W.toReceiptPlatform) |>.again hencoding) q,
        field_written rfl rfl (normalizeHttpMethod_parses.again hmethod) q,
        field_written rfl rfl (normalizeUrl_parses.again hactionUrl) q,
        field_written rfl rfl (fun _ => rfl) q⟩⟩

/-- Cores are hashed. -/
theorem hashEventCore_exists {core : LifecycleEventCore} {v : JsValue} {p : Text}
    (h : parseEventCore W.toReceiptPlatform v p = .ok core) :
    ∃ hash, hashEventCore W.toReceiptPlatform keccak256 core.value = .ok hash := by
  have hagain := parseEventCore_parses.again h []
  obtain ⟨j, hj⟩ := parseEventCore_parses.canonical hagain
  rw [hashEventCore_eq hagain]
  exact ⟨_, bind_eq_ok.mpr ⟨_, createDomainSeparatedPreimage_eq_ok.mpr
    ⟨_, canonicalize_eq_ok.mpr ⟨j, hj, rfl⟩, rfl⟩, rfl⟩⟩

/-- The envelope of a core, without signatures. -/
def bareEnvelope (core : LifecycleEventCore) (eventHash : Text) : LifecycleEventEnvelope where
  authoritySignature := none
  chainAnchor := none
  core := core
  eventHash := eventHash
  extensionSignature := none

theorem createEventEnvelope_eq_ok {v : JsValue} {core : LifecycleEventCore}
    {envelope : LifecycleEventEnvelope}
    (hcore : ∀ p, parseEventCore W.toReceiptPlatform v p = .ok core) :
    createEventEnvelope W keccak256 v = .ok envelope ↔ ∃ eventHash,
      hashEventCore W.toReceiptPlatform keccak256 core.value = .ok eventHash ∧
        envelope = bareEnvelope core eventHash := by
  simp only [createEventEnvelope, hcore, bind_eq_ok]
  constructor
  · rintro ⟨_, hsame, eventHash, hhash, h⟩
    obtain rfl := Except.ok.inj hsame
    exact ⟨eventHash, hhash, (Except.ok.inj h).symm⟩
  · rintro ⟨eventHash, hhash, rfl⟩
    exact ⟨core, rfl, eventHash, hhash, rfl⟩

/-- **The envelope of a core is parsed to itself.** -/
theorem bareEnvelope_parsed {core : LifecycleEventCore} {eventHash : Text}
    (hcore : ∀ p, parseEventCore W.toReceiptPlatform core.value p = .ok core)
    (hhash : hashEventCore W.toReceiptPlatform keccak256 core.value = .ok eventHash) (p : Text) :
    parseEventEnvelope W.toReceiptPlatform (bareEnvelope core eventHash).value p =
      .ok (bareEnvelope core eventHash) := by
  rw [hashEventCore_eq (hcore [])] at hhash
  have hnormal := Capture.hashCanonical_normal hhash
  refine parseEventEnvelope_eq_ok.mpr ⟨⟨?_, ?_, ?_⟩, _, rfl,
    fun q => ⟨assertKeys_fits rfl q, ?_, ?_, ?_, ?_, ?_⟩⟩
  · rintro ⟨_, hmem, -⟩
    cases hmem
  · rintro ⟨_, hmem, -⟩
    cases hmem
  · rintro ⟨hsome, -⟩
    cases hsome
  · exact field_written rfl rfl hcore q
  · rfl
  · rfl
  · rfl
  · exact field_written rfl rfl hnormal q

/-- **The event of an attempt is a chain of one event.** -/
theorem bareEnvelope_chain {core : LifecycleEventCore} {eventHash : Text}
    (hcore : ∀ p, parseEventCore W.toReceiptPlatform core.value p = .ok core)
    (hhash : hashEventCore W.toReceiptPlatform keccak256 core.value = .ok eventHash)
    (hfirst : core.previousEventHash = zeroHashText) (hstage : core.stage = .attempted) :
    ∃ result, validateEventChain W.toReceiptPlatform keccak256
      [(bareEnvelope core eventHash).value] = .ok result := by
  have haccepts : ChainAccepts W.toReceiptPlatform keccak256 ChainState.initial
      (bareEnvelope core eventHash) := by
    refine ⟨hhash, List.not_mem_nil, fun _ => hfirst, fun hne => absurd rfl hne, ?_⟩
    show ReceiptCore.isValidTransition .none core.stage = true
    rw [hstage]
    decide
  have hstep := chainStep_eq_ok.mpr ⟨_, bareEnvelope_parsed hcore hhash, haccepts, rfl⟩
  exact ⟨_, validateEventChain_eq_ok.mpr ⟨_, replay_cons_ok.mpr ⟨_, hstep, rfl⟩, rfl⟩⟩

/-! ### The window -/

/-- **A normalized time is one that the store accepts**, and so is the end of
its window: 30 minutes are not enough to leave the times that there are. -/
theorem captureWindowEnd_exists {capturedAt : Text}
    (h : ∀ q, normalizeTimestamp (.string capturedAt) q = .ok capturedAt) :
    ∃ expiresAt, captureWindowEnd capturedAt = some expiresAt ∧
      (isoTime capturedAt).isSome = true ∧ (isoTime expiresAt).isSome = true ∧
      isoAtMost expiresAt capturedAt = false := by
  obtain ⟨_, instant, -, -, hyears, htext⟩ := normalizeTimestamp_eq_ok.mp (h [])
  have hbounds : instant.natAbs + SITE_CONFIRMATION_CAPTURE_WINDOW_MS ≤ MAX_TIME := by
    have hlow : Calendar.dayFromDate 1 1 1 = -719162 := by decide
    have hhigh : Calendar.dayFromDate 10000 1 1 = 2932897 := by decide
    rw [InFourDigitYears, hlow, hhigh] at hyears
    show instant.natAbs + 1800000 ≤ 8640000000000000
    omega
  have hcaptured : isoTime capturedAt = some instant := by
    obtain ⟨hfirst, hlast⟩ := inFourDigitYears_iff.mp hyears
    refine isoTime_eq_some.mpr ⟨?_, by omega⟩
    rw [htext, isoText, if_pos ⟨by omega, hlast⟩]
  have hends : (instant + SITE_CONFIRMATION_CAPTURE_WINDOW_MS).natAbs ≤ MAX_TIME := by omega
  have hexpires : isoTime (isoText (instant + SITE_CONFIRMATION_CAPTURE_WINDOW_MS)) =
      some (instant + SITE_CONFIRMATION_CAPTURE_WINDOW_MS) := isoTime_eq_some.mpr ⟨rfl, hends⟩
  refine ⟨isoText (instant + SITE_CONFIRMATION_CAPTURE_WINDOW_MS), ?_, ?_, ?_, ?_⟩
  · rw [captureWindowEnd, hcaptured]
    exact Option.bind_eq_some_iff.mpr ⟨instant, rfl,
      Option.bind_eq_some_iff.mpr ⟨(), ensure_eq_some.mpr hends, rfl⟩⟩
  · rw [hcaptured]
    rfl
  · rw [hexpires]
    rfl
  · rw [isoAtMost, hcaptured, hexpires]
    refine decide_eq_false ?_
    show ¬instant + ((1800000 : Nat) : Int) ≤ instant
    omega

/-! ### The receipt -/

/-- What `createStoredAttemptReceipt` returns. -/
theorem createStoredAttemptReceipt_eq_ok {request : CaptureAttemptRequest}
    (hrequest : Capture.Canonical W keccak256 request.toCaptureAttemptInput) {tabId : Nat}
    {receipt : StoredAttemptReceipt} :
    createStoredAttemptReceipt W keccak256 request tabId = .ok receipt ↔
      ∃ policy event expiresAt, applyCapturePolicy W.toReceiptPlatform
          (request.fields.map RawFieldCandidate.value) false = .ok policy ∧
        hashEventCore W.toReceiptPlatform keccak256 (attemptCore request policy).value =
          .ok event.envelope.eventHash ∧
        event.envelope = bareEnvelope (attemptCore request policy) event.envelope.eventHash ∧
        captureWindowEnd request.capturedAt = some expiresAt ∧
        receipt = attemptReceipt request tabId event expiresAt := by
  simp only [createStoredAttemptReceipt, bind_eq_ok, rethrow_eq_ok, orThrow_eq_ok,
    asAttempted_eq_some]
  constructor
  · rintro ⟨policy, hpolicy, envelope, henvelope, event, rfl, _, -, expiresAt, hexpires, h⟩
    obtain ⟨eventHash, hhash, hbare⟩ :=
      (createEventEnvelope_eq_ok (attemptCore_parsed hrequest hpolicy)).mp henvelope
    have hsame : event.envelope.eventHash = eventHash := congrArg _ hbare
    rw [← hsame] at hhash hbare
    exact ⟨policy, event, expiresAt, hpolicy, hhash, hbare, hexpires, (Except.ok.inj h).symm⟩
  · rintro ⟨policy, event, expiresAt, hpolicy, hhash, hbare, hexpires, rfl⟩
    have hcore := attemptCore_parsed hrequest hpolicy
    obtain ⟨result, hresult⟩ := bareEnvelope_chain hcore hhash rfl rfl
    rw [← hbare] at hresult
    exact ⟨policy, hpolicy, event.envelope, (createEventEnvelope_eq_ok hcore).mpr
      ⟨_, hhash, hbare⟩, event, rfl, result, hresult, expiresAt, hexpires, rfl⟩

/-- The origins of a request are enabled ones, and the tab is a safe integer. -/
def Storable (W : WebPlatform) (request : CaptureAttemptRequest) (tabId : Nat) : Prop :=
  inspectNormalizedOrigin W (.string request.origin) = .ok request.origin ∧
    inspectNormalizedOrigin W (.string request.actionOrigin) = .ok request.actionOrigin ∧
    isSafeInteger (.integer tabId) = true

/-- What the store accepts of an attempt is storable. -/
theorem storable_of_accepted {request : CaptureAttemptRequest} {tabId : Nat}
    {event : AttemptedEvent} {expiresAt : Text} {x : StoredAttemptReceipt}
    (h : validateStoredAttemptReceipt W keccak256
      (attemptReceipt request tabId event expiresAt).value = some x) :
    Storable W request tabId := by
  obtain ⟨_, hvalue, -, -, -, hbase, hcontext, -⟩ := validateStoredAttemptReceipt_eq_some.mp h
  obtain rfl := JsValue.object.inj hvalue
  obtain ⟨-, -, -, -, -, -, -, -, horigin, haction, -⟩ := parseAttemptBase_eq_some.mp hbase
  have horigin := readOrigin_eq_some.mp horigin
  have haction := readOrigin_eq_some.mp haction
  have hsame := JsValue.string.inj (inspectNormalizedOrigin_eq_ok.mp horigin).1
  have hsame' := JsValue.string.inj (inspectNormalizedOrigin_eq_ok.mp haction).1
  rw [← hsame] at horigin
  rw [← hsame'] at haction
  refine ⟨horigin, haction, ?_⟩
  obtain ⟨context, hcontext, -⟩ := Option.map_eq_some_iff.mp (show (parseConfirmationContext W
    (attemptContext request tabId event.envelope.eventHash expiresAt).value
      x.toParsedAttemptBase).map some = some x.confirmationContext from hcontext)
  obtain ⟨-, _, _, hvalue, -, -, htab, -⟩ := parseConfirmationContext_eq_some.mp hcontext
  obtain rfl := JsValue.object.inj hvalue
  obtain ⟨_, hnumber, hsafe, -⟩ := normalizeNonNegativeSafeInteger_eq_ok.mp (accept_eq_some.mp htab)
  rw [← JsValue.number.inj hnumber] at hsafe
  exact hsafe

/-- The event of an attempt agrees with the request. -/
theorem attemptReceipt_agrees {request : CaptureAttemptRequest} {policy : CapturePolicyResult}
    {tabId : Nat} {event : AttemptedEvent} {expiresAt : Text}
    (hrequest : Capture.Canonical W keccak256 request.toCaptureAttemptInput)
    (hcore : ∀ p, parseEventCore W.toReceiptPlatform (attemptCore request policy).value p =
      .ok (attemptCore request policy))
    (hhash : hashEventCore W.toReceiptPlatform keccak256 (attemptCore request policy).value =
      .ok event.envelope.eventHash)
    (hbare : event.envelope = bareEnvelope (attemptCore request policy) event.envelope.eventHash) :
    (attemptReceipt request tabId event expiresAt).toParsedAttemptBase.Agrees W keccak256 := by
  have hbody : event.body.origin = ⟨request.origin, request.pageUrl⟩ ∧
      event.body.formDescriptor = request.form := by
    have hstage := event.stage
    rw [hbare] at hstage
    rw [← EventBody.attempted.inj hstage]
    exact ⟨rfl, rfl⟩
  have hreceipt : event.envelope.core = attemptCore request policy := by
    rw [hbare]
    rfl
  obtain ⟨horigin, hform⟩ := hbody
  refine ⟨?_, ?_, ?_, ?_, ?_, ?_, ?_, ?_, ?_⟩
  · show event.envelope.core.receiptId = request.receiptId
    rw [hreceipt]
    rfl
  · show event.envelope.core.occurredAt = request.capturedAt
    rw [hreceipt]
    rfl
  · show event.body.origin.origin = request.origin
    rw [horigin]
  · show privacySafePageUrl W event.body.origin.pageUrl = some event.body.origin.pageUrl
    rw [horigin]
    exact hrequest.pageSafe
  · show (W.url event.body.origin.pageUrl).map (fun page =>
      hashPagePath W keccak256 request.origin page.pathname) = some (.ok request.pagePathHash)
    rw [horigin]
    exact hrequest.path
  · show hasOrigin W event.body.formDescriptor.actionUrl request.actionOrigin
    rw [hform]
    exact hrequest.action
  · show privacySafePageUrl W event.body.formDescriptor.actionUrl =
      some event.body.formDescriptor.actionUrl
    rw [hform]
    exact hrequest.actionSafe
  · show event.envelope.bare = true
    rw [hbare]
    rfl
  · obtain ⟨result, hresult⟩ := bareEnvelope_chain hcore hhash rfl rfl
    rw [← hbare] at hresult
    show (validateEventChain W.toReceiptPlatform keccak256 [event.envelope.value]).isOk = true
    rw [hresult]
    rfl

/-- The context of an attempt is read again. -/
theorem attemptContext_parsed {request : CaptureAttemptRequest} {tabId : Nat}
    {event : AttemptedEvent} {expiresAt : Text}
    (hrequest : Capture.Canonical W keccak256 request.toCaptureAttemptInput)
    (hpage : event.body.origin.pageUrl = request.pageUrl)
    (hstorable : Storable W request tabId) (hexpires : (isoTime expiresAt).isSome = true)
    (hlater : isoAtMost expiresAt request.capturedAt = false) :
    parseConfirmationContext W
      (attemptContext request tabId event.envelope.eventHash expiresAt).value
      (attemptReceipt request tabId event expiresAt).toParsedAttemptBase =
        some (attemptContext request tabId event.envelope.eventHash expiresAt) := by
  obtain ⟨horigin, -, hsafe⟩ := hstorable
  have horigin := readOrigin_eq_some.mpr horigin
  refine parseConfirmationContext_eq_some.mpr ⟨⟨rfl, rfl, rfl, hpage.symm, hlater, hrequest.page,
    rfl⟩, _, _, rfl, rfl, ?_, ?_, readLiteral_eq_some.mpr rfl, ?_, readLiteral_eq_some.mpr rfl, ?_,
    rfl, rfl, ?_, horigin, horigin, ?_, ?_, rfl⟩
  · exact readStatus_wrap .active 0
  · exact accept_eq_some.mpr (normalizeNonNegativeSafeInteger_eq_ok.mpr ⟨_, rfl, hsafe, rfl⟩)
  · exact readOpaqueId_eq_some.mpr ⟨rfl, hrequest.documentInstanceId⟩
  · exact readTimestamp_eq_some.mpr ⟨rfl, hexpires⟩
  · exact Nat.zero_le _
  · exact readLiteral_eq_some.mpr (congrArg JsValue.string hpage.symm)
  · exact readPageUrl_eq_some.mpr ⟨rfl, hrequest.pageSafe⟩

/-- **What is created of a message is accepted by the store exactly where it is
storable**, and is then read as it is. -/
theorem attemptReceipt_accepted_iff {request : CaptureAttemptRequest} {tabId : Nat}
    (hrequest : Capture.Canonical W keccak256 request.toCaptureAttemptInput)
    (hfingerprint : ∀ q, normalizeHash (.string request.attemptFingerprint) q =
      .ok request.attemptFingerprint) {receipt x : StoredAttemptReceipt}
    (h : createStoredAttemptReceipt W keccak256 request tabId = .ok receipt) :
    validateStoredAttemptReceipt W keccak256 receipt.value = some x ↔
      x = receipt ∧ Storable W request tabId := by
  obtain ⟨policy, event, expiresAt, hpolicy, hhash, hbare, hexpires, rfl⟩ :=
    (createStoredAttemptReceipt_eq_ok hrequest).mp h
  have hcore := attemptCore_parsed hrequest hpolicy
  obtain ⟨_, hwindow, hcaptured, hends, hlater⟩ := captureWindowEnd_exists hrequest.capturedAt
  obtain rfl := Option.some.inj (hexpires.symm.trans hwindow)
  have hpage : event.body.origin.pageUrl = request.pageUrl := by
    have hstage := event.stage
    rw [hbare] at hstage
    rw [← EventBody.attempted.inj hstage]
  have hevent : parseEventEnvelope W.toReceiptPlatform event.envelope.value (ascii "$") =
      .ok event.envelope := by
    rw [hbare]
    exact bareEnvelope_parsed hcore hhash _
  have haccepted : Storable W request tabId → validateStoredAttemptReceipt W keccak256
      (attemptReceipt request tabId event expiresAt).value =
        some (attemptReceipt request tabId event expiresAt) := by
    intro hstorable
    refine validateStoredAttemptReceipt_eq_some.mpr
      ⟨_, rfl, rfl, ?_, ?_, parseAttemptBase_eq_some.mpr
        ⟨attemptReceipt_agrees hrequest hcore hhash hbare, ?_, ?_, ?_, readLiteral_eq_some.mpr rfl,
          rfl, rfl, rfl, ?_, ?_, ?_, ?_, ?_, ?_⟩, ?_, rfl, rfl, rfl⟩
    · exact accept_eq_some.mpr (normalizeNonNegativeSafeInteger_eq_ok.mpr ⟨_, rfl, rfl, rfl⟩)
    · exact accept_eq_some.mpr rfl
    · exact readOpaqueId_eq_some.mpr ⟨rfl, hrequest.attemptId⟩
    · exact readOpaqueId_eq_some.mpr ⟨rfl, hrequest.receiptNonce⟩
    · exact readTimestamp_eq_some.mpr ⟨rfl, hcaptured⟩
    · exact readOrigin_eq_some.mpr hstorable.1
    · exact readOrigin_eq_some.mpr hstorable.2.1
    · exact normalizedHash_eq_some.mpr ⟨rfl, hrequest.receiptId _⟩
    · exact normalizedHash_eq_some.mpr ⟨rfl, hrequest.pagePathHash _⟩
    · exact normalizedHash_eq_some.mpr ⟨rfl, hfingerprint _⟩
    · exact accept_eq_some.mpr hevent
    · show (parseConfirmationContext W
        (attemptContext request tabId event.envelope.eventHash expiresAt).value _).map some = _
      rw [attemptContext_parsed hrequest hpage hstorable hends hlater]
      rfl
  constructor
  · intro hx
    have hstorable := storable_of_accepted hx
    exact ⟨Option.some.inj (hx.symm.trans (haccepted hstorable)), hstorable⟩
  · rintro ⟨rfl, hstorable⟩
    exact haccepted hstorable

/-- **Messages and the store fit together.**  Of every message that is accepted,
a receipt is created exactly where the identifiers of its fields are different;
and what is created is accepted by the store exactly where the origins of page
and action are enabled ones and the tab has a safe identifier, and is then read
as it was created. -/
theorem createStoredAttemptReceipt_accepted {v : JsValue} {request : CaptureAttemptRequest}
    (h : Capture.parseCaptureAttemptRequest W keccak256 v = some request) (tabId : Nat) :
    ((∃ receipt, createStoredAttemptReceipt W keccak256 request tabId = .ok receipt) ↔
      (request.fields.map (·.fieldId)).Nodup) ∧
    ∀ receipt, createStoredAttemptReceipt W keccak256 request tabId = .ok receipt →
      ∀ x, validateStoredAttemptReceipt W keccak256 receipt.value = some x ↔
        x = receipt ∧
        inspectNormalizedOrigin W (.string request.origin) = .ok request.origin ∧
        inspectNormalizedOrigin W (.string request.actionOrigin) = .ok request.actionOrigin ∧
        isSafeInteger (.integer tabId) = true := by
  obtain ⟨hrequest, hfingerprint⟩ := Capture.parseCaptureAttemptRequest_canonical h
  refine ⟨?_, fun receipt hreceipt x => ?_⟩
  · rw [← applyCapturePolicy_accepts_iff hrequest.fields]
    constructor
    · rintro ⟨receipt, hreceipt⟩
      obtain ⟨policy, -, -, hpolicy, -⟩ := (createStoredAttemptReceipt_eq_ok hrequest).mp hreceipt
      exact ⟨policy, hpolicy⟩
    · rintro ⟨policy, hpolicy⟩
      have hcore := attemptCore_parsed hrequest hpolicy []
      obtain ⟨eventHash, hhash⟩ : ∃ eventHash, hashEventCore W.toReceiptPlatform keccak256
          (attemptCore request policy).value = .ok eventHash := hashEventCore_exists hcore
      obtain ⟨expiresAt, hexpires, -⟩ := captureWindowEnd_exists hrequest.capturedAt
      exact ⟨_, (createStoredAttemptReceipt_eq_ok hrequest).mpr ⟨policy,
        ⟨bareEnvelope (attemptCore request policy) eventHash, _, rfl⟩, expiresAt, hpolicy, hhash,
        rfl, hexpires, rfl⟩⟩
  · exact attemptReceipt_accepted_iff hrequest (Capture.hashCanonical_normal hfingerprint) hreceipt

/-- A form with a text field and a password. -/
def sampleCaptureRequest : CaptureAttemptRequest where
  actionOrigin := ascii "https://a.example"
  attemptId := List.replicate 43 65
  capturedAt := ascii "2026-01-01T00:00:00.000Z"
  documentInstanceId := List.replicate 43 66
  fields := [
    ⟨none, .value .text, none, ascii "a", none, some (ascii "n"), some [ascii "x", ascii "y"]⟩,
    ⟨none, .password, none, ascii "p", none, none, none⟩]
  form := ⟨ascii "https://a.example/", .textPlain, none, none, ascii "POST"⟩
  origin := ascii "https://a.example"
  pagePathHash := hashText 0xd3bc9ccb626417c314449115b0fed96de027fcc880c50469e0c7b57b8eb7cf11
  pageUrl := ascii "https://a.example/"
  receiptId := ascii "0x" ++ List.replicate 64 49
  receiptNonce := List.replicate 43 65
  attemptFingerprint := hashText sampleHash

theorem sampleCaptureRequest_parsed : Capture.parseCaptureAttemptRequest sampleWebPlatform
    sampleKeccak sampleCaptureRequest.value = some sampleCaptureRequest := by
  decide +kernel

theorem createStoredAttemptReceipt_accepted_sample : ∃ receipt,
    createStoredAttemptReceipt sampleWebPlatform sampleKeccak sampleCaptureRequest 7 =
      .ok receipt ∧
    validateStoredAttemptReceipt sampleWebPlatform sampleKeccak receipt.value = some receipt := by
  obtain ⟨hexists, haccepted⟩ := createStoredAttemptReceipt_accepted sampleCaptureRequest_parsed 7
  obtain ⟨receipt, hreceipt⟩ := hexists.mpr (by decide)
  have horigin : inspectNormalizedOrigin sampleWebPlatform (.string (ascii "https://a.example")) =
      .ok (ascii "https://a.example") := by decide +kernel
  exact ⟨receipt, hreceipt,
    (haccepted receipt hreceipt receipt).mpr ⟨rfl, horigin, horigin, rfl⟩⟩

/-- The sample as a page may write it: a time without milliseconds, and a method in
small letters. -/
def sampleCaptureMessage : JsValue :=
  { sampleCaptureRequest with
    capturedAt := ascii "2026-01-01T00:00:00Z"
    form := { sampleCaptureRequest.form with method := ascii "post" } }.value

/-- The message is normalized, and what it was read as is returned unchanged. -/
theorem captureAttemptRequests_unchanged_sample :
    Capture.parseCaptureAttemptRequest sampleWebPlatform sampleKeccak sampleCaptureMessage =
        some sampleCaptureRequest ∧
      Capture.parseCaptureAttemptRequest sampleWebPlatform sampleKeccak
        sampleCaptureRequest.value = some sampleCaptureRequest := by
  have hparsed : Capture.parseCaptureAttemptRequest sampleWebPlatform sampleKeccak
      sampleCaptureMessage = some sampleCaptureRequest := by
    decide +kernel
  exact ⟨hparsed, Capture.captureAttemptRequests_unchanged.1 _ _ hparsed⟩

end laws

end SubmittedIt.Protocol
