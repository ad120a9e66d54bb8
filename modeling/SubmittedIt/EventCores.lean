/-
SubmittedIt/EventCores.lean

What the parsers of event cores have in common.

Every part of an event core is parsed to a value that is parsed to itself, and
different values have different canonical forms (`Parses`).  For each record
`…_eq_ok` says what a parsed value is; lists of fields have one order, since
their identifiers are different.

Main result: `parseEventCore_parses`.
-/
import SubmittedIt.ReceiptSchema

namespace SubmittedIt.Protocol

open JsValue (member hasOwn)

/-! ### Enumerations -/

/-- The texts of enumerations are told apart. -/
theorem injective_of_nodup {α : Type} {text : α → Text} (values : List α) (hall : ∀ x, x ∈ values)
    (h : (values.map text).Nodup) : Function.Injective text :=
  fun _ _ hxy => List.inj_on_of_nodup_map h (hall _) (hall _) hxy

section schema

variable {Q : ReceiptPlatform}

theorem formEncoding_parses :
    Parses Q (parseEnum FORM_ENCODINGS formEncodingText) (writeEnum formEncodingText) :=
  parseEnum_parses _ (injective_of_nodup FORM_ENCODINGS (by rintro (_ | _) <;> decide) (by decide))
    (by rintro (_ | _) <;> rfl)

theorem valueControlTypeText_visible (type : ValueControlType) :
    isVisible (valueControlTypeText type) = true := by
  rcases type with _ | _ <;> rfl

theorem fieldControlTypeText_injective : Function.Injective fieldControlTypeText :=
  injective_of_nodup FIELD_CONTROL_TYPES (by rintro ((_ | _) | _ | _) <;> decide) (by decide)

theorem fieldControlType_parses :
    Parses Q (parseEnum FIELD_CONTROL_TYPES fieldControlTypeText)
      (writeEnum fieldControlTypeText) :=
  parseEnum_parses _ fieldControlTypeText_injective
    (by rintro (_ | _ | _); exacts [valueControlTypeText_visible _, rfl, rfl])

theorem exclusionReason_parses :
    Parses Q (parseEnum EXCLUSION_REASONS exclusionReasonText) (writeEnum exclusionReasonText) :=
  parseEnum_parses _
    (injective_of_nodup EXCLUSION_REASONS (by rintro (_ | _) <;> decide) (by decide))
    (by rintro (_ | _) <;> rfl)

theorem attemptTrigger_parses :
    Parses Q (parseEnum [.formSubmit, .requestObserved] attemptTriggerText)
      (writeEnum attemptTriggerText) :=
  parseEnum_parses _ (injective_of_nodup [.formSubmit, .requestObserved]
    (by rintro (_ | _) <;> decide) (by decide)) (by rintro (_ | _) <;> rfl)

theorem evidenceType_parses :
    Parses Q (parseEnum [.confirmationPage, .inlineMessage, .redirect, .download] evidenceTypeText)
      (writeEnum evidenceTypeText) :=
  parseEnum_parses _ (injective_of_nodup [.confirmationPage, .inlineMessage, .redirect, .download]
    (by rintro (_ | _) <;> decide) (by decide)) (by rintro (_ | _) <;> rfl)

theorem authorityOutcome_parses :
    Parses Q (parseEnum [.accepted, .rejected] authorityOutcomeText)
      (writeEnum authorityOutcomeText) :=
  parseEnum_parses _ (injective_of_nodup [.accepted, .rejected]
    (by rintro (_ | _) <;> decide) (by decide)) (by rintro (_ | _) <;> rfl)

theorem eventStageText_injective : Function.Injective eventStageText :=
  injective_of_nodup EVENT_STAGES (by rintro (_ | _) <;> decide) (by decide)

theorem eventStage_parses :
    Parses Q (parseEnum EVENT_STAGES eventStageText) (writeEnum eventStageText) :=
  parseEnum_parses _ eventStageText_injective (by rintro (_ | _) <;> rfl)

/-! ### Records -/

theorem parseFileMetadata_eq_ok {v : JsValue} {p : Text} {x : CapturedFileMetadata} :
    parseFileMetadata Q v p = .ok x ↔ ∃ value, v = .object value ∧ ∀ q,
      assertKeys value ["name", "size"] ["lastModified", "mediaType"] q = .ok () ∧
      optionalField normalizeTimestamp "lastModified" value q = .ok x.lastModified ∧
      optionalField (normalizeOptionalText Q) "mediaType" value q = .ok x.mediaType ∧
      field (normalizeNonEmptyText Q) "name" value q = .ok x.name ∧
      field normalizeNonNegativeSafeInteger "size" value q = .ok x.size := by
  simp only [parseFileMetadata, Transaction.bind_eq_ok, asRecord_eq_ok]
  constructor
  · rintro ⟨value, hvalue, _, hkeys, lastModified, h1, mediaType, h2, name, h3, size, h4, h⟩
    obtain rfl := Except.ok.inj h
    refine ⟨value, hvalue, fun q => ⟨assertKeys_anywhere hkeys q, ?_, ?_, ?_, ?_⟩⟩
    · exact optionalField_anywhere normalizeTimestamp_pathless h1 q
    · exact optionalField_anywhere normalizeOptionalText_parses.anywhere h2 q
    · exact field_anywhere normalizeNonEmptyText_parses.anywhere h3 q
    · exact field_anywhere normalizeNonNegativeSafeInteger_pathless h4 q
  · rintro ⟨value, hvalue, h⟩
    obtain ⟨hkeys, h1, h2, h3, h4⟩ := h p
    exact ⟨value, hvalue, (), hkeys, _, h1, _, h2, _, h3, _, h4, rfl⟩

theorem parseFileMetadata_parses : Parses Q (parseFileMetadata Q) CapturedFileMetadata.value where
  anywhere _ _ _ h _ := parseFileMetadata_eq_ok.mpr (parseFileMetadata_eq_ok.mp h)
  again {v p x} h q := by
    obtain ⟨value, -, h⟩ := parseFileMetadata_eq_ok.mp h
    obtain ⟨-, h1, h2, h3, h4⟩ := h p
    refine parseFileMetadata_eq_ok.mpr ⟨_, rfl, fun q => ⟨assertKeys_fits rfl q, ?_, ?_, ?_, ?_⟩⟩
    · exact optionalField_again (normalizeTimestamp_parses (Q := Q)) h1 rfl rfl (fun _ => rfl) q
    · exact optionalField_again normalizeOptionalText_parses h2 rfl rfl (fun _ => rfl) q
    · exact field_again normalizeNonEmptyText_parses h3 rfl rfl q
    · exact field_again (normalizeNonNegativeSafeInteger_parses (Q := Q)) h4 rfl rfl q
  canonical {v p x} h := by
    obtain ⟨value, -, h⟩ := parseFileMetadata_eq_ok.mp h
    obtain ⟨-, h1, h2, h3, h4⟩ := h p
    refine canonical_record rfl ⟨?_, ?_, ?_, ?_, trivial⟩
    · exact optionalField_canonical (normalizeTimestamp_parses (Q := Q)) h1
    · exact optionalField_canonical normalizeOptionalText_parses h2
    · exact field_canonical normalizeNonEmptyText_parses h3
    · exact field_canonical (normalizeNonNegativeSafeInteger_parses (Q := Q)) h4
  distinct {v p w q x y} hx hy hsame := by
    obtain ⟨value, -, hx⟩ := parseFileMetadata_eq_ok.mp hx
    obtain ⟨value', -, hy⟩ := parseFileMetadata_eq_ok.mp hy
    obtain ⟨-, hx1, hx2, hx3, hx4⟩ := hx []
    obtain ⟨-, hy1, hy2, hy3, hy4⟩ := hy []
    have hkey := same_member (Q := Q) rfl rfl hsame
    have h1 := optionalField_distinct (normalizeTimestamp_parses (Q := Q)) hx1 hy1 (fun _ => rfl)
      (hkey (ascii "lastModified"))
    have h2 := optionalField_distinct normalizeOptionalText_parses hx2 hy2 (fun _ => rfl)
      (hkey (ascii "mediaType"))
    have h3 := normalizeNonEmptyText_parses.distinct hx3 hy3 (hkey (ascii "name"))
    have h4 := (normalizeNonNegativeSafeInteger_parses (Q := Q)).distinct hx4 hy4
      (hkey (ascii "size"))
    exact CapturedFileMetadata.ext h1 h2 h3 h4

theorem parseExcludedField_eq_ok {v : JsValue} {p : Text} {x : ExcludedFieldDescriptor} :
    parseExcludedField Q v p = .ok x ↔ ∃ value, v = .object value ∧ ∀ q,
      assertKeys value ["controlType", "fieldId", "reason"] ["name"] q = .ok () ∧
      field (parseEnum FIELD_CONTROL_TYPES fieldControlTypeText) "controlType" value q =
        .ok x.controlType ∧
      field (normalizeNonEmptyText Q) "fieldId" value q = .ok x.fieldId ∧
      optionalField (normalizeNonEmptyText Q) "name" value q = .ok x.name ∧
      field (parseEnum EXCLUSION_REASONS exclusionReasonText) "reason" value q = .ok x.reason := by
  simp only [parseExcludedField, Transaction.bind_eq_ok, asRecord_eq_ok]
  constructor
  · rintro ⟨value, hvalue, _, hkeys, controlType, h1, fieldId, h2, name, h3, reason, h4, h⟩
    obtain rfl := Except.ok.inj h
    refine ⟨value, hvalue, fun q => ⟨assertKeys_anywhere hkeys q, ?_, ?_, ?_, ?_⟩⟩
    · exact field_anywhere (fieldControlType_parses (Q := Q)).anywhere h1 q
    · exact field_anywhere normalizeNonEmptyText_parses.anywhere h2 q
    · exact optionalField_anywhere normalizeNonEmptyText_parses.anywhere h3 q
    · exact field_anywhere (exclusionReason_parses (Q := Q)).anywhere h4 q
  · rintro ⟨value, hvalue, h⟩
    obtain ⟨hkeys, h1, h2, h3, h4⟩ := h p
    exact ⟨value, hvalue, (), hkeys, _, h1, _, h2, _, h3, _, h4, rfl⟩

theorem parseExcludedField_parses :
    Parses Q (parseExcludedField Q) ExcludedFieldDescriptor.value where
  anywhere _ _ _ h _ := parseExcludedField_eq_ok.mpr (parseExcludedField_eq_ok.mp h)
  again {v p x} h q := by
    obtain ⟨value, -, h⟩ := parseExcludedField_eq_ok.mp h
    obtain ⟨-, h1, h2, h3, h4⟩ := h p
    refine parseExcludedField_eq_ok.mpr ⟨_, rfl, fun q => ⟨assertKeys_fits rfl q, ?_, ?_, ?_, ?_⟩⟩
    · exact field_again (fieldControlType_parses (Q := Q)) h1 rfl rfl q
    · exact field_again normalizeNonEmptyText_parses h2 rfl rfl q
    · exact optionalField_again normalizeNonEmptyText_parses h3 rfl rfl (fun _ => rfl) q
    · exact field_again (exclusionReason_parses (Q := Q)) h4 rfl rfl q
  canonical {v p x} h := by
    obtain ⟨value, -, h⟩ := parseExcludedField_eq_ok.mp h
    obtain ⟨-, h1, h2, h3, h4⟩ := h p
    refine canonical_record rfl ⟨?_, ?_, ?_, ?_, trivial⟩
    · exact field_canonical (fieldControlType_parses (Q := Q)) h1
    · exact field_canonical normalizeNonEmptyText_parses h2
    · exact optionalField_canonical normalizeNonEmptyText_parses h3
    · exact field_canonical (exclusionReason_parses (Q := Q)) h4
  distinct {v p w q x y} hx hy hsame := by
    obtain ⟨value, -, hx⟩ := parseExcludedField_eq_ok.mp hx
    obtain ⟨value', -, hy⟩ := parseExcludedField_eq_ok.mp hy
    obtain ⟨-, hx1, hx2, hx3, hx4⟩ := hx []
    obtain ⟨-, hy1, hy2, hy3, hy4⟩ := hy []
    have hkey := same_member (Q := Q) rfl rfl hsame
    have h1 := (fieldControlType_parses (Q := Q)).distinct hx1 hy1 (hkey (ascii "controlType"))
    have h2 := normalizeNonEmptyText_parses.distinct hx2 hy2 (hkey (ascii "fieldId"))
    have h3 := optionalField_distinct normalizeNonEmptyText_parses hx3 hy3 (fun _ => rfl)
      (hkey (ascii "name"))
    have h4 := (exclusionReason_parses (Q := Q)).distinct hx4 hy4 (hkey (ascii "reason"))
    exact ExcludedFieldDescriptor.ext h1 h2 h3 h4

theorem parseFormDescriptor_eq_ok {v : JsValue} {p : Text} {x : FormDescriptor} :
    parseFormDescriptor Q v p = .ok x ↔ ∃ value, v = .object value ∧ ∀ q,
      assertKeys value ["actionUrl", "encoding", "method"] ["formId", "formName"] q = .ok () ∧
      field (normalizeUrl Q) "actionUrl" value q = .ok x.actionUrl ∧
      field (parseEnum FORM_ENCODINGS formEncodingText) "encoding" value q = .ok x.encoding ∧
      optionalField (normalizeNonEmptyText Q) "formId" value q = .ok x.formId ∧
      optionalField (normalizeNonEmptyText Q) "formName" value q = .ok x.formName ∧
      field (normalizeHttpMethod Q) "method" value q = .ok x.method := by
  simp only [parseFormDescriptor, Transaction.bind_eq_ok, asRecord_eq_ok]
  constructor
  · rintro ⟨value, hvalue, _, hkeys, actionUrl, h1, encoding, h2, formId, h3, formName, h4,
      method, h5, h⟩
    obtain rfl := Except.ok.inj h
    refine ⟨value, hvalue, fun q => ⟨assertKeys_anywhere hkeys q, ?_, ?_, ?_, ?_, ?_⟩⟩
    · exact field_anywhere normalizeUrl_parses.anywhere h1 q
    · exact field_anywhere (formEncoding_parses (Q := Q)).anywhere h2 q
    · exact optionalField_anywhere normalizeNonEmptyText_parses.anywhere h3 q
    · exact optionalField_anywhere normalizeNonEmptyText_parses.anywhere h4 q
    · exact field_anywhere normalizeHttpMethod_parses.anywhere h5 q
  · rintro ⟨value, hvalue, h⟩
    obtain ⟨hkeys, h1, h2, h3, h4, h5⟩ := h p
    exact ⟨value, hvalue, (), hkeys, _, h1, _, h2, _, h3, _, h4, _, h5, rfl⟩

theorem parseFormDescriptor_parses : Parses Q (parseFormDescriptor Q) FormDescriptor.value where
  anywhere _ _ _ h _ := parseFormDescriptor_eq_ok.mpr (parseFormDescriptor_eq_ok.mp h)
  again {v p x} h q := by
    obtain ⟨value, -, h⟩ := parseFormDescriptor_eq_ok.mp h
    obtain ⟨-, h1, h2, h3, h4, h5⟩ := h p
    refine parseFormDescriptor_eq_ok.mpr
      ⟨_, rfl, fun q => ⟨assertKeys_fits rfl q, ?_, ?_, ?_, ?_, ?_⟩⟩
    · exact field_again normalizeUrl_parses h1 rfl rfl q
    · exact field_again (formEncoding_parses (Q := Q)) h2 rfl rfl q
    · exact optionalField_again normalizeNonEmptyText_parses h3 rfl rfl (fun _ => rfl) q
    · exact optionalField_again normalizeNonEmptyText_parses h4 rfl rfl (fun _ => rfl) q
    · exact field_again normalizeHttpMethod_parses h5 rfl rfl q
  canonical {v p x} h := by
    obtain ⟨value, -, h⟩ := parseFormDescriptor_eq_ok.mp h
    obtain ⟨-, h1, h2, h3, h4, h5⟩ := h p
    refine canonical_record rfl ⟨?_, ?_, ?_, ?_, ?_, trivial⟩
    · exact field_canonical normalizeUrl_parses h1
    · exact field_canonical (formEncoding_parses (Q := Q)) h2
    · exact optionalField_canonical normalizeNonEmptyText_parses h3
    · exact optionalField_canonical normalizeNonEmptyText_parses h4
    · exact field_canonical normalizeHttpMethod_parses h5
  distinct {v p w q x y} hx hy hsame := by
    obtain ⟨value, -, hx⟩ := parseFormDescriptor_eq_ok.mp hx
    obtain ⟨value', -, hy⟩ := parseFormDescriptor_eq_ok.mp hy
    obtain ⟨-, hx1, hx2, hx3, hx4, hx5⟩ := hx []
    obtain ⟨-, hy1, hy2, hy3, hy4, hy5⟩ := hy []
    have hkey := same_member (Q := Q) rfl rfl hsame
    have h1 := normalizeUrl_parses.distinct hx1 hy1 (hkey (ascii "actionUrl"))
    have h2 := (formEncoding_parses (Q := Q)).distinct hx2 hy2 (hkey (ascii "encoding"))
    have h3 := optionalField_distinct normalizeNonEmptyText_parses hx3 hy3 (fun _ => rfl)
      (hkey (ascii "formId"))
    have h4 := optionalField_distinct normalizeNonEmptyText_parses hx4 hy4 (fun _ => rfl)
      (hkey (ascii "formName"))
    have h5 := normalizeHttpMethod_parses.distinct hx5 hy5 (hkey (ascii "method"))
    exact FormDescriptor.ext h1 h2 h3 h4 h5

theorem parsePrivacyFlags_eq_ok {v : JsValue} {p : Text} {x : PrivacyFlags} :
    parsePrivacyFlags v p = .ok x ↔ ∃ value, v = .object value ∧ ∀ q,
      assertKeys value
        ["fileMetadataIncluded", "rawValuesOffchain", "sensitiveFieldsExcluded"] [] q = .ok () ∧
      field parseBoolean "fileMetadataIncluded" value q = .ok x.fileMetadataIncluded ∧
      field parseLiteralTrue "rawValuesOffchain" value q = .ok () ∧
      field parseLiteralTrue "sensitiveFieldsExcluded" value q = .ok () := by
  simp only [parsePrivacyFlags, Transaction.bind_eq_ok, asRecord_eq_ok]
  constructor
  · rintro ⟨value, hvalue, _, hkeys, fileMetadataIncluded, h1, _, h2, _, h3, h⟩
    obtain rfl := Except.ok.inj h
    refine ⟨value, hvalue, fun q => ⟨assertKeys_anywhere hkeys q, ?_, ?_, ?_⟩⟩
    · exact field_anywhere parseBoolean_pathless h1 q
    · exact field_anywhere parseLiteralTrue_pathless h2 q
    · exact field_anywhere parseLiteralTrue_pathless h3 q
  · rintro ⟨value, hvalue, h⟩
    obtain ⟨hkeys, h1, h2, h3⟩ := h p
    exact ⟨value, hvalue, (), hkeys, _, h1, _, h2, _, h3, rfl⟩

theorem parsePrivacyFlags_parses : Parses Q parsePrivacyFlags PrivacyFlags.value where
  anywhere _ _ _ h _ := parsePrivacyFlags_eq_ok.mpr (parsePrivacyFlags_eq_ok.mp h)
  again {v p x} h q := by
    obtain ⟨value, -, h⟩ := parsePrivacyFlags_eq_ok.mp h
    obtain ⟨-, h1, h2, h3⟩ := h p
    refine parsePrivacyFlags_eq_ok.mpr ⟨_, rfl, fun q => ⟨assertKeys_fits rfl q, ?_, ?_, ?_⟩⟩
    · exact field_again (parseBoolean_parses (Q := Q)) h1 rfl rfl q
    · exact field_again (parseLiteralTrue_parses (Q := Q)) h2 rfl rfl q
    · exact field_again (parseLiteralTrue_parses (Q := Q)) h3 rfl rfl q
  canonical {v p x} h := by
    obtain ⟨value, -, h⟩ := parsePrivacyFlags_eq_ok.mp h
    obtain ⟨-, h1, h2, h3⟩ := h p
    refine canonical_record rfl ⟨?_, ?_, ?_, trivial⟩
    · exact field_canonical (parseBoolean_parses (Q := Q)) h1
    · exact field_canonical (parseLiteralTrue_parses (Q := Q)) h2
    · exact field_canonical (parseLiteralTrue_parses (Q := Q)) h3
  distinct {v p w q x y} hx hy hsame := by
    obtain ⟨value, -, hx⟩ := parsePrivacyFlags_eq_ok.mp hx
    obtain ⟨value', -, hy⟩ := parsePrivacyFlags_eq_ok.mp hy
    obtain ⟨-, hx1, hx2, hx3⟩ := hx []
    obtain ⟨-, hy1, hy2, hy3⟩ := hy []
    have hkey := same_member (Q := Q) rfl rfl hsame
    have h1 := (parseBoolean_parses (Q := Q)).distinct hx1 hy1 (hkey (ascii "fileMetadataIncluded"))
    exact PrivacyFlags.ext h1

theorem parseSubmissionAttempt_eq_ok {v : JsValue} {p : Text} {x : SubmissionAttempt} :
    parseSubmissionAttempt Q v p = .ok x ↔ ∃ value, v = .object value ∧ ∀ q,
      assertKeys value ["encoding", "method", "targetUrl", "trigger"] [] q = .ok () ∧
      field (parseEnum FORM_ENCODINGS formEncodingText) "encoding" value q = .ok x.encoding ∧
      field (normalizeHttpMethod Q) "method" value q = .ok x.method ∧
      field (normalizeUrl Q) "targetUrl" value q = .ok x.targetUrl ∧
      field (parseEnum [.formSubmit, .requestObserved] attemptTriggerText) "trigger" value q =
        .ok x.trigger := by
  simp only [parseSubmissionAttempt, Transaction.bind_eq_ok, asRecord_eq_ok]
  constructor
  · rintro ⟨value, hvalue, _, hkeys, encoding, h1, method, h2, targetUrl, h3, trigger, h4, h⟩
    obtain rfl := Except.ok.inj h
    refine ⟨value, hvalue, fun q => ⟨assertKeys_anywhere hkeys q, ?_, ?_, ?_, ?_⟩⟩
    · exact field_anywhere (formEncoding_parses (Q := Q)).anywhere h1 q
    · exact field_anywhere normalizeHttpMethod_parses.anywhere h2 q
    · exact field_anywhere normalizeUrl_parses.anywhere h3 q
    · exact field_anywhere (attemptTrigger_parses (Q := Q)).anywhere h4 q
  · rintro ⟨value, hvalue, h⟩
    obtain ⟨hkeys, h1, h2, h3, h4⟩ := h p
    exact ⟨value, hvalue, (), hkeys, _, h1, _, h2, _, h3, _, h4, rfl⟩

theorem parseSubmissionAttempt_parses :
    Parses Q (parseSubmissionAttempt Q) SubmissionAttempt.value where
  anywhere _ _ _ h _ := parseSubmissionAttempt_eq_ok.mpr (parseSubmissionAttempt_eq_ok.mp h)
  again {v p x} h q := by
    obtain ⟨value, -, h⟩ := parseSubmissionAttempt_eq_ok.mp h
    obtain ⟨-, h1, h2, h3, h4⟩ := h p
    refine parseSubmissionAttempt_eq_ok.mpr
      ⟨_, rfl, fun q => ⟨assertKeys_fits rfl q, ?_, ?_, ?_, ?_⟩⟩
    · exact field_again (formEncoding_parses (Q := Q)) h1 rfl rfl q
    · exact field_again normalizeHttpMethod_parses h2 rfl rfl q
    · exact field_again normalizeUrl_parses h3 rfl rfl q
    · exact field_again (attemptTrigger_parses (Q := Q)) h4 rfl rfl q
  canonical {v p x} h := by
    obtain ⟨value, -, h⟩ := parseSubmissionAttempt_eq_ok.mp h
    obtain ⟨-, h1, h2, h3, h4⟩ := h p
    refine canonical_record rfl ⟨?_, ?_, ?_, ?_, trivial⟩
    · exact field_canonical (formEncoding_parses (Q := Q)) h1
    · exact field_canonical normalizeHttpMethod_parses h2
    · exact field_canonical normalizeUrl_parses h3
    · exact field_canonical (attemptTrigger_parses (Q := Q)) h4
  distinct {v p w q x y} hx hy hsame := by
    obtain ⟨value, -, hx⟩ := parseSubmissionAttempt_eq_ok.mp hx
    obtain ⟨value', -, hy⟩ := parseSubmissionAttempt_eq_ok.mp hy
    obtain ⟨-, hx1, hx2, hx3, hx4⟩ := hx []
    obtain ⟨-, hy1, hy2, hy3, hy4⟩ := hy []
    have hkey := same_member (Q := Q) rfl rfl hsame
    have h1 := (formEncoding_parses (Q := Q)).distinct hx1 hy1 (hkey (ascii "encoding"))
    have h2 := normalizeHttpMethod_parses.distinct hx2 hy2 (hkey (ascii "method"))
    have h3 := normalizeUrl_parses.distinct hx3 hy3 (hkey (ascii "targetUrl"))
    have h4 := (attemptTrigger_parses (Q := Q)).distinct hx4 hy4 (hkey (ascii "trigger"))
    exact SubmissionAttempt.ext h1 h2 h3 h4

theorem parseSiteConfirmation_eq_ok {v : JsValue} {p : Text} {x : SiteConfirmation} :
    parseSiteConfirmation Q v p = .ok x ↔ ∃ value, v = .object value ∧ ∀ q,
      assertKeys value ["evidenceType", "pageUrl"] ["message", "reference"] q = .ok () ∧
      field (parseEnum [.confirmationPage, .inlineMessage, .redirect, .download] evidenceTypeText)
        "evidenceType" value q = .ok x.evidenceType ∧
      optionalField (normalizeOptionalText Q) "message" value q = .ok x.message ∧
      field (normalizeUrl Q) "pageUrl" value q = .ok x.pageUrl ∧
      optionalField (normalizeOptionalText Q) "reference" value q = .ok x.reference := by
  simp only [parseSiteConfirmation, Transaction.bind_eq_ok, asRecord_eq_ok]
  constructor
  · rintro ⟨value, hvalue, _, hkeys, evidenceType, h1, message, h2, pageUrl, h3, reference, h4, h⟩
    obtain rfl := Except.ok.inj h
    refine ⟨value, hvalue, fun q => ⟨assertKeys_anywhere hkeys q, ?_, ?_, ?_, ?_⟩⟩
    · exact field_anywhere (evidenceType_parses (Q := Q)).anywhere h1 q
    · exact optionalField_anywhere normalizeOptionalText_parses.anywhere h2 q
    · exact field_anywhere normalizeUrl_parses.anywhere h3 q
    · exact optionalField_anywhere normalizeOptionalText_parses.anywhere h4 q
  · rintro ⟨value, hvalue, h⟩
    obtain ⟨hkeys, h1, h2, h3, h4⟩ := h p
    exact ⟨value, hvalue, (), hkeys, _, h1, _, h2, _, h3, _, h4, rfl⟩

theorem parseSiteConfirmation_parses :
    Parses Q (parseSiteConfirmation Q) SiteConfirmation.value where
  anywhere _ _ _ h _ := parseSiteConfirmation_eq_ok.mpr (parseSiteConfirmation_eq_ok.mp h)
  again {v p x} h q := by
    obtain ⟨value, -, h⟩ := parseSiteConfirmation_eq_ok.mp h
    obtain ⟨-, h1, h2, h3, h4⟩ := h p
    refine parseSiteConfirmation_eq_ok.mpr
      ⟨_, rfl, fun q => ⟨assertKeys_fits rfl q, ?_, ?_, ?_, ?_⟩⟩
    · exact field_again (evidenceType_parses (Q := Q)) h1 rfl rfl q
    · exact optionalField_again normalizeOptionalText_parses h2 rfl rfl (fun _ => rfl) q
    · exact field_again normalizeUrl_parses h3 rfl rfl q
    · exact optionalField_again normalizeOptionalText_parses h4 rfl rfl (fun _ => rfl) q
  canonical {v p x} h := by
    obtain ⟨value, -, h⟩ := parseSiteConfirmation_eq_ok.mp h
    obtain ⟨-, h1, h2, h3, h4⟩ := h p
    refine canonical_record rfl ⟨?_, ?_, ?_, ?_, trivial⟩
    · exact field_canonical (evidenceType_parses (Q := Q)) h1
    · exact optionalField_canonical normalizeOptionalText_parses h2
    · exact field_canonical normalizeUrl_parses h3
    · exact optionalField_canonical normalizeOptionalText_parses h4
  distinct {v p w q x y} hx hy hsame := by
    obtain ⟨value, -, hx⟩ := parseSiteConfirmation_eq_ok.mp hx
    obtain ⟨value', -, hy⟩ := parseSiteConfirmation_eq_ok.mp hy
    obtain ⟨-, hx1, hx2, hx3, hx4⟩ := hx []
    obtain ⟨-, hy1, hy2, hy3, hy4⟩ := hy []
    have hkey := same_member (Q := Q) rfl rfl hsame
    have h1 := (evidenceType_parses (Q := Q)).distinct hx1 hy1 (hkey (ascii "evidenceType"))
    have h2 := optionalField_distinct normalizeOptionalText_parses hx2 hy2 (fun _ => rfl)
      (hkey (ascii "message"))
    have h3 := normalizeUrl_parses.distinct hx3 hy3 (hkey (ascii "pageUrl"))
    have h4 := optionalField_distinct normalizeOptionalText_parses hx4 hy4 (fun _ => rfl)
      (hkey (ascii "reference"))
    exact SiteConfirmation.ext h1 h2 h3 h4

theorem parseAuthorityAcknowledgment_eq_ok {v : JsValue} {p : Text} {x : AuthorityAcknowledgment} :
    parseAuthorityAcknowledgment Q v p = .ok x ↔ ∃ value, v = .object value ∧ ∀ q,
      assertKeys value ["acknowledgedAt", "authorityId", "outcome"] ["reason", "reference"] q =
        .ok () ∧
      field normalizeTimestamp "acknowledgedAt" value q = .ok x.acknowledgedAt ∧
      field (normalizeNonEmptyText Q) "authorityId" value q = .ok x.authorityId ∧
      field (parseEnum [.accepted, .rejected] authorityOutcomeText) "outcome" value q =
        .ok x.outcome ∧
      optionalField (normalizeOptionalText Q) "reason" value q = .ok x.reason ∧
      optionalField (normalizeOptionalText Q) "reference" value q = .ok x.reference := by
  simp only [parseAuthorityAcknowledgment, Transaction.bind_eq_ok, asRecord_eq_ok]
  constructor
  · rintro ⟨value, hvalue, _, hkeys, acknowledgedAt, h1, authorityId, h2, outcome, h3, reason, h4,
      reference, h5, h⟩
    obtain rfl := Except.ok.inj h
    refine ⟨value, hvalue, fun q => ⟨assertKeys_anywhere hkeys q, ?_, ?_, ?_, ?_, ?_⟩⟩
    · exact field_anywhere normalizeTimestamp_pathless h1 q
    · exact field_anywhere normalizeNonEmptyText_parses.anywhere h2 q
    · exact field_anywhere (authorityOutcome_parses (Q := Q)).anywhere h3 q
    · exact optionalField_anywhere normalizeOptionalText_parses.anywhere h4 q
    · exact optionalField_anywhere normalizeOptionalText_parses.anywhere h5 q
  · rintro ⟨value, hvalue, h⟩
    obtain ⟨hkeys, h1, h2, h3, h4, h5⟩ := h p
    exact ⟨value, hvalue, (), hkeys, _, h1, _, h2, _, h3, _, h4, _, h5, rfl⟩

theorem parseAuthorityAcknowledgment_parses :
    Parses Q (parseAuthorityAcknowledgment Q) AuthorityAcknowledgment.value where
  anywhere _ _ _ h _ :=
    parseAuthorityAcknowledgment_eq_ok.mpr (parseAuthorityAcknowledgment_eq_ok.mp h)
  again {v p x} h q := by
    obtain ⟨value, -, h⟩ := parseAuthorityAcknowledgment_eq_ok.mp h
    obtain ⟨-, h1, h2, h3, h4, h5⟩ := h p
    refine parseAuthorityAcknowledgment_eq_ok.mpr
      ⟨_, rfl, fun q => ⟨assertKeys_fits rfl q, ?_, ?_, ?_, ?_, ?_⟩⟩
    · exact field_again (normalizeTimestamp_parses (Q := Q)) h1 rfl rfl q
    · exact field_again normalizeNonEmptyText_parses h2 rfl rfl q
    · exact field_again (authorityOutcome_parses (Q := Q)) h3 rfl rfl q
    · exact optionalField_again normalizeOptionalText_parses h4 rfl rfl (fun _ => rfl) q
    · exact optionalField_again normalizeOptionalText_parses h5 rfl rfl (fun _ => rfl) q
  canonical {v p x} h := by
    obtain ⟨value, -, h⟩ := parseAuthorityAcknowledgment_eq_ok.mp h
    obtain ⟨-, h1, h2, h3, h4, h5⟩ := h p
    refine canonical_record rfl ⟨?_, ?_, ?_, ?_, ?_, trivial⟩
    · exact field_canonical (normalizeTimestamp_parses (Q := Q)) h1
    · exact field_canonical normalizeNonEmptyText_parses h2
    · exact field_canonical (authorityOutcome_parses (Q := Q)) h3
    · exact optionalField_canonical normalizeOptionalText_parses h4
    · exact optionalField_canonical normalizeOptionalText_parses h5
  distinct {v p w q x y} hx hy hsame := by
    obtain ⟨value, -, hx⟩ := parseAuthorityAcknowledgment_eq_ok.mp hx
    obtain ⟨value', -, hy⟩ := parseAuthorityAcknowledgment_eq_ok.mp hy
    obtain ⟨-, hx1, hx2, hx3, hx4, hx5⟩ := hx []
    obtain ⟨-, hy1, hy2, hy3, hy4, hy5⟩ := hy []
    have hkey := same_member (Q := Q) rfl rfl hsame
    have h1 := (normalizeTimestamp_parses (Q := Q)).distinct hx1 hy1 (hkey (ascii "acknowledgedAt"))
    have h2 := normalizeNonEmptyText_parses.distinct hx2 hy2 (hkey (ascii "authorityId"))
    have h3 := (authorityOutcome_parses (Q := Q)).distinct hx3 hy3 (hkey (ascii "outcome"))
    have h4 := optionalField_distinct normalizeOptionalText_parses hx4 hy4 (fun _ => rfl)
      (hkey (ascii "reason"))
    have h5 := optionalField_distinct normalizeOptionalText_parses hx5 hy5 (fun _ => rfl)
      (hkey (ascii "reference"))
    exact AuthorityAcknowledgment.ext h1 h2 h3 h4 h5

/-- The page of an origin belongs to it. -/
theorem parseOriginDescriptor_eq_ok {v : JsValue} {p : Text} {x : OriginDescriptor} :
    parseOriginDescriptor Q v p = .ok x ↔ ∃ value, v = .object value ∧ ∀ q,
      assertKeys value ["origin", "pageUrl"] [] q = .ok () ∧
      field (normalizeOrigin Q) "origin" value q = .ok x.origin ∧
      field (normalizeUrl Q) "pageUrl" value q = .ok x.pageUrl ∧
      (Q.url x.pageUrl).map (·.origin) = some x.origin := by
  simp only [parseOriginDescriptor, Transaction.bind_eq_ok, asRecord_eq_ok, refuseIf_eq_ok]
  constructor
  · rintro ⟨value, hvalue, _, hkeys, origin, h1, pageUrl, h2, _, horigin, h⟩
    obtain rfl := Except.ok.inj h
    refine ⟨value, hvalue, fun q => ⟨assertKeys_anywhere hkeys q, ?_, ?_, not_not.mp horigin⟩⟩
    · exact field_anywhere normalizeOrigin_parses.anywhere h1 q
    · exact field_anywhere normalizeUrl_parses.anywhere h2 q
  · rintro ⟨value, hvalue, h⟩
    obtain ⟨hkeys, h1, h2, horigin⟩ := h p
    exact ⟨value, hvalue, (), hkeys, _, h1, _, h2, (), not_not.mpr horigin, rfl⟩

theorem parseOriginDescriptor_parses :
    Parses Q (parseOriginDescriptor Q) OriginDescriptor.value where
  anywhere _ _ _ h _ := parseOriginDescriptor_eq_ok.mpr (parseOriginDescriptor_eq_ok.mp h)
  again {v p x} h q := by
    obtain ⟨value, -, h⟩ := parseOriginDescriptor_eq_ok.mp h
    obtain ⟨-, h1, h2, horigin⟩ := h p
    refine parseOriginDescriptor_eq_ok.mpr
      ⟨_, rfl, fun q => ⟨assertKeys_fits rfl q, ?_, ?_, horigin⟩⟩
    · exact field_again normalizeOrigin_parses h1 rfl rfl q
    · exact field_again normalizeUrl_parses h2 rfl rfl q
  canonical {v p x} h := canonical_record rfl ⟨.inr ⟨_, rfl⟩, .inr ⟨_, rfl⟩, trivial⟩
  distinct {v p w q x y} hx hy hsame := by
    obtain ⟨value, -, hx⟩ := parseOriginDescriptor_eq_ok.mp hx
    obtain ⟨value', -, hy⟩ := parseOriginDescriptor_eq_ok.mp hy
    obtain ⟨-, hx1, hx2, -⟩ := hx []
    obtain ⟨-, hy1, hy2, -⟩ := hy []
    have hkey := same_member (Q := Q) rfl rfl hsame
    have h1 := normalizeOrigin_parses.distinct hx1 hy1 (hkey (ascii "origin"))
    have h2 := normalizeUrl_parses.distinct hx2 hy2 (hkey (ascii "pageUrl"))
    exact OriginDescriptor.ext h1 h2

/-! ### Captured fields -/

/-- What the parser of captured fields checks of their kind. -/
def CapturedField.Fits (Q : ReceiptPlatform) (value : List (Text × JsValue)) (q : Text) :
    CapturedField → Prop
  | .value controlType _ name values =>
    assertKeys value ["controlType", "fieldId", "name", "values"] [] q = .ok () ∧
      field (parseStringValues Q) "values" value q = .ok values ∧
      ¬(controlType = .hidden ∧ isSensitiveHiddenFieldName Q name = true)
  | .file _ _ files =>
    assertKeys value ["controlType", "fieldId", "files", "name"] [] q = .ok () ∧
      field (parseList (parseFileMetadata Q)) "files" value q = .ok files

theorem parseStringValues_parses : Parses Q (parseStringValues Q) (writeList .string) :=
  parseList_parses normalizeOptionalText_parses

theorem parseFiles_parses :
    Parses Q (parseList (parseFileMetadata Q)) (writeList CapturedFileMetadata.value) :=
  parseList_parses parseFileMetadata_parses

theorem parseCapturedField_eq_ok {v : JsValue} {p : Text} {x : CapturedField} :
    parseCapturedField Q v p = .ok x ↔ ∃ value, v = .object value ∧ ∀ q,
      field (parseEnum FIELD_CONTROL_TYPES fieldControlTypeText) "controlType" value q =
        .ok x.controlType ∧
      field (normalizeNonEmptyText Q) "fieldId" value q = .ok x.fieldId ∧
      field (normalizeNonEmptyText Q) "name" value q = .ok x.name ∧ x.Fits Q value q := by
  simp only [parseCapturedField, Transaction.bind_eq_ok, asRecord_eq_ok, refuseIf_eq_ok]
  constructor
  · rintro ⟨value, hvalue, controlType, h1, _, hpassword, fieldId, h2, name, h3, h⟩
    refine ⟨value, hvalue, fun q => ?_⟩
    have h1 := field_anywhere (fieldControlType_parses (Q := Q)).anywhere h1 q
    have h2 := field_anywhere normalizeNonEmptyText_parses.anywhere h2 q
    have h3 := field_anywhere normalizeNonEmptyText_parses.anywhere h3 q
    rcases controlType with type | - | -
    · simp only [Transaction.bind_eq_ok, refuseIf_eq_ok] at h
      obtain ⟨_, hkeys, values, h4, _, hsensitive, h⟩ := h
      obtain rfl := Except.ok.inj h
      exact ⟨h1, h2, h3, assertKeys_anywhere hkeys q,
        field_anywhere parseStringValues_parses.anywhere h4 q, hsensitive⟩
    · exact absurd rfl hpassword
    · simp only [Transaction.bind_eq_ok] at h
      obtain ⟨_, hkeys, files, h4, h⟩ := h
      obtain rfl := Except.ok.inj h
      exact ⟨h1, h2, h3, assertKeys_anywhere hkeys q,
        field_anywhere parseFiles_parses.anywhere h4 q⟩
  · rintro ⟨value, hvalue, h⟩
    obtain ⟨h1, h2, h3, hfits⟩ := h p
    refine ⟨value, hvalue, x.controlType, h1, (), ?_, x.fieldId, h2, x.name, h3, ?_⟩
    · rcases x with - | - <;> exact FieldControlType.noConfusion
    · rcases x with ⟨controlType, fieldId, name, values⟩ | ⟨fieldId, name, files⟩
      · obtain ⟨hkeys, h4, hsensitive⟩ := hfits
        exact Transaction.bind_eq_ok.mpr ⟨(), hkeys, Transaction.bind_eq_ok.mpr ⟨values, h4,
          Transaction.bind_eq_ok.mpr ⟨(), refuseIf_eq_ok.mpr hsensitive, rfl⟩⟩⟩
      · obtain ⟨hkeys, h4⟩ := hfits
        exact Transaction.bind_eq_ok.mpr ⟨(), hkeys, Transaction.bind_eq_ok.mpr ⟨files, h4, rfl⟩⟩

theorem parseCapturedField_parses : Parses Q (parseCapturedField Q) CapturedField.write where
  anywhere _ _ _ h _ := parseCapturedField_eq_ok.mpr (parseCapturedField_eq_ok.mp h)
  again {v p x} h q := by
    obtain ⟨value, -, h⟩ := parseCapturedField_eq_ok.mp h
    obtain ⟨h1, h2, h3, h4⟩ := h p
    rcases x with ⟨controlType, fieldId, name, values⟩ | ⟨fieldId, name, files⟩
    · obtain ⟨-, h4, hsensitive⟩ := h4
      refine parseCapturedField_eq_ok.mpr ⟨_, rfl, fun q => ⟨?_, ?_, ?_, ?_, ?_, hsensitive⟩⟩
      · exact field_again (fieldControlType_parses (Q := Q)) h1 rfl rfl q
      · exact field_again normalizeNonEmptyText_parses h2 rfl rfl q
      · exact field_again normalizeNonEmptyText_parses h3 rfl rfl q
      · exact assertKeys_fits rfl q
      · exact field_again parseStringValues_parses h4 rfl rfl q
    · obtain ⟨-, h4⟩ := h4
      refine parseCapturedField_eq_ok.mpr ⟨_, rfl, fun q => ⟨?_, ?_, ?_, ?_, ?_⟩⟩
      · exact field_again (fieldControlType_parses (Q := Q)) h1 rfl rfl q
      · exact field_again normalizeNonEmptyText_parses h2 rfl rfl q
      · exact field_again normalizeNonEmptyText_parses h3 rfl rfl q
      · exact assertKeys_fits rfl q
      · exact field_again parseFiles_parses h4 rfl rfl q
  canonical {v p x} h := by
    obtain ⟨value, -, h⟩ := parseCapturedField_eq_ok.mp h
    obtain ⟨-, -, -, h4⟩ := h p
    rcases x with ⟨controlType, fieldId, name, values⟩ | ⟨fieldId, name, files⟩
    · exact canonical_record rfl ⟨.inr ⟨_, rfl⟩, .inr ⟨_, rfl⟩, .inr ⟨_, rfl⟩,
        field_canonical parseStringValues_parses h4.2.1, trivial⟩
    · exact canonical_record rfl ⟨.inr ⟨_, rfl⟩, .inr ⟨_, rfl⟩, .inr ⟨_, rfl⟩,
        field_canonical parseFiles_parses h4.2, trivial⟩
  distinct {v p w q x y} hx hy hsame := by
    obtain ⟨value, -, hx⟩ := parseCapturedField_eq_ok.mp hx
    obtain ⟨value', -, hy⟩ := parseCapturedField_eq_ok.mp hy
    obtain ⟨hx1, hx2, hx3, hx4⟩ := hx []
    obtain ⟨hy1, hy2, hy3, hy4⟩ := hy []
    have hkey : ∀ key, Same Q.toTextPlatform (member key x.members) (member key y.members) := by
      cases x <;> cases y <;> exact same_member (Q := Q) rfl rfl hsame
    have htype : ∀ x : CapturedField, member (ascii "controlType") x.members =
        writeEnum fieldControlTypeText x.controlType := by
      rintro (_ | _) <;> rfl
    have h1 : x.controlType = y.controlType := by
      apply (fieldControlType_parses (Q := Q)).distinct hx1 hy1
      rw [← htype x, ← htype y]
      exact hkey _
    rcases x with ⟨type, fieldId, name, values⟩ | ⟨fieldId, name, files⟩ <;>
      rcases y with ⟨type', fieldId', name', values'⟩ | ⟨fieldId', name', files'⟩
    · obtain rfl : type = type' := FieldControlType.value.inj h1
      have h2 := normalizeNonEmptyText_parses.distinct hx2 hy2 (hkey (ascii "fieldId"))
      have h3 := normalizeNonEmptyText_parses.distinct hx3 hy3 (hkey (ascii "name"))
      have h4 := parseStringValues_parses.distinct hx4.2.1 hy4.2.1 (hkey (ascii "values"))
      exact congr (congr (congrArg (CapturedField.value type) h2) h3) h4
    · cases h1
    · cases h1
    · have h2 := normalizeNonEmptyText_parses.distinct hx2 hy2 (hkey (ascii "fieldId"))
      have h3 := normalizeNonEmptyText_parses.distinct hx3 hy3 (hkey (ascii "name"))
      have h4 := parseFiles_parses.distinct hx4.2 hy4.2 (hkey (ascii "files"))
      exact congr (congr (congrArg CapturedField.file h2) h3) h4

/-! ### Lists of fields -/

instance : Ord FieldKey := ⟨compareFields⟩

instance : Std.TransCmp compareFields :=
  inferInstanceAs (Std.TransCmp (compareLex (compareLex (compareOn FieldKey.name)
    (compareOn FieldKey.fieldId)) (compareOn FieldKey.controlType)))

instance : Std.TransOrd FieldKey := inferInstanceAs (Std.TransCmp compareFields)

/-- The comparison of fields by their keys. -/
def compareBy {α : Type} (key : α → FieldKey) (first second : α) : Ordering :=
  compareFields (key first) (key second)

instance {α : Type} (key : α → FieldKey) : Std.TransCmp (compareBy key) :=
  inferInstanceAs (Std.TransCmp (compareOn key))

theorem compareFields_eq {first second : FieldKey} (h : compareFields first second = .eq) :
    first.fieldId = second.fieldId := by
  unfold compareFields at h
  rw [Ordering.then_eq_eq, Ordering.then_eq_eq] at h
  exact eq_of_compareCanonicalText h.1.2

theorem firstRepeated_eq_none {seen texts : List Text} : firstRepeated seen texts = none ↔
    texts.Nodup ∧ ∀ text ∈ texts, text ∉ seen := by
  induction texts generalizing seen with
  | nil => simp [firstRepeated]
  | cons text rest ih =>
    unfold firstRepeated
    split
    · next hseen => exact ⟨nofun, fun h => absurd hseen (h.2 text List.mem_cons_self)⟩
    · next hseen =>
      rw [ih, List.nodup_cons, List.forall_mem_cons]
      constructor
      · rintro ⟨hnodup, hrest⟩
        exact ⟨⟨fun htext => hrest text htext List.mem_cons_self, hnodup⟩, hseen,
          fun t ht hts => hrest t ht (List.mem_cons_of_mem _ hts)⟩
      · rintro ⟨⟨htext, hnodup⟩, -, hrest⟩
        refine ⟨hnodup, fun t ht hts => ?_⟩
        rcases List.mem_cons.mp hts with rfl | hts
        · exact htext ht
        · exact hrest t ht hts

theorem assertUniqueFieldIds_eq_ok {fieldIds : List Text} {p : Text} {u : Unit} :
    assertUniqueFieldIds fieldIds p = .ok u ↔ fieldIds.Nodup := by
  unfold assertUniqueFieldIds
  rcases hrepeated : firstRepeated [] fieldIds with - | fieldId
  · exact ⟨fun _ => (firstRepeated_eq_none.mp hrepeated).1, fun _ => rfl⟩
  · refine ⟨nofun, fun hnodup => ?_⟩
    rw [firstRepeated_eq_none.mpr ⟨hnodup, fun _ _ => List.not_mem_nil⟩] at hrepeated
    cases hrepeated

section fields

variable {α : Type} {parse : JsValue → Text → Except ReceiptProtocolError α} {write : α → JsValue}
variable {key : α → FieldKey}

/-- **What a list of fields is parsed to**: its fields in their order, with
different identifiers. -/
theorem parseFields_eq_ok (hparse : Pathless parse) {v : JsValue} {p : Text} {xs : List α} :
    parseFields parse key v p = .ok xs ↔ ∃ items parsed, v = .array items ∧
      List.Forall₂ (fun item x => ∀ q, parse item q = .ok x) items parsed ∧ xs.Perm parsed ∧
      xs.Pairwise (fun a b => (compareBy key a b).isLE = true) ∧
      (xs.map fun x => (key x).fieldId).Nodup := by
  simp only [parseFields, Transaction.bind_eq_ok, parseList_eq_ok hparse,
    assertUniqueFieldIds_eq_ok]
  constructor
  · rintro ⟨parsed, ⟨items, hv, hparsed⟩, _, hnodup, h⟩
    obtain rfl := Except.ok.inj h
    exact ⟨items, parsed, hv, hparsed, JsValue.perm_sortBy _ _,
      JsValue.sortBy_pairwise (compareBy key) parsed, hnodup⟩
  · rintro ⟨items, parsed, hv, hparsed, hperm, hsorted, hnodup⟩
    have hsort : JsValue.sortBy (compareBy key) parsed = xs := by
      refine (JsValue.eq_of_perm_of_sorted (compareBy key) hsorted
        (JsValue.sortBy_pairwise (compareBy key) parsed)
        (hperm.trans (JsValue.perm_sortBy _ _).symm) fun a ha b hb hab => ?_).symm
      exact List.inj_on_of_nodup_map hnodup ha hb (compareFields_eq hab)
    refine ⟨parsed, ⟨items, hv, hparsed⟩, (), ?_, congrArg Except.ok hsort⟩
    show ((JsValue.sortBy (compareBy key) parsed).map fun x => (key x).fieldId).Nodup
    rw [hsort]
    exact hnodup

/-- **The order of the fields does not matter.** -/
theorem parseFields_perm (hparse : Pathless parse) {items items' : List JsValue} {p : Text}
    {xs : List α} (h : parseFields parse key (.array items) p = .ok xs)
    (hperm : items'.Perm items) (q : Text) : parseFields parse key (.array items') q = .ok xs := by
  obtain ⟨_, parsed, hv, hparsed, hsame, hsorted, hnodup⟩ := (parseFields_eq_ok hparse).mp h
  cases hv
  obtain ⟨parsed', hparsed', hperm'⟩ := List.perm_comp_forall₂ hperm hparsed
  exact (parseFields_eq_ok hparse).mpr
    ⟨items', parsed', rfl, hparsed', hsame.trans hperm'.symm, hsorted, hnodup⟩

theorem parseFields_parses (hparse : Parses Q parse write) :
    Parses Q (parseFields parse key) (writeList write) where
  anywhere _ _ _ h _ :=
    (parseFields_eq_ok hparse.anywhere).mpr ((parseFields_eq_ok hparse.anywhere).mp h)
  again {v p xs} h q := by
    obtain ⟨items, parsed, -, hparsed, hperm, hsorted, hnodup⟩ :=
      (parseFields_eq_ok hparse.anywhere).mp h
    obtain ⟨items', hitems', hxs⟩ := (parseList_eq_ok hparse.anywhere).mp
      (parseList_again hparse hparsed hperm.subset q)
    exact (parseFields_eq_ok hparse.anywhere).mpr
      ⟨items', xs, hitems', hxs, List.Perm.refl _, hsorted, hnodup⟩
  canonical {v p xs} h := by
    obtain ⟨items, parsed, -, hparsed, hperm, -⟩ := (parseFields_eq_ok hparse.anywhere).mp h
    refine canonical_list fun x hx => ?_
    obtain ⟨_, -, hx⟩ := exists_of_forall₂ hparsed (hperm.subset hx)
    exact hparse.canonical (hx [])
  distinct {v p w q xs ys} hx hy hsame := by
    obtain ⟨items, parsed, -, hparsed, hperm, -⟩ := (parseFields_eq_ok hparse.anywhere).mp hx
    obtain ⟨items', parsed', -, hparsed', hperm', -⟩ := (parseFields_eq_ok hparse.anywhere).mp hy
    obtain ⟨_, harray, hsame⟩ := hsame
    cases harray
    refine distinct_list (fun x hx y hy => ?_) hsame
    obtain ⟨_, -, hx⟩ := exists_of_forall₂ hparsed (hperm.subset hx)
    obtain ⟨_, -, hy⟩ := exists_of_forall₂ hparsed' (hperm'.subset hy)
    exact hparse.distinct (hx []) (hy [])

end fields

theorem parseCapturedFields_parses :
    Parses Q (parseCapturedFields Q) (writeList CapturedField.write) :=
  parseFields_parses parseCapturedField_parses

theorem parseExcludedFields_parses :
    Parses Q (parseExcludedFields Q) (writeList ExcludedFieldDescriptor.value) :=
  parseFields_parses parseExcludedField_parses

/-! ### Event cores -/

theorem assertNoOverlap_eq_ok {captured excluded : List Text} {p : Text} {u : Unit} :
    assertNoOverlap captured excluded p = .ok u ↔ ∀ fieldId ∈ excluded, fieldId ∉ captured := by
  unfold assertNoOverlap
  split
  · next fieldId hfind =>
    refine ⟨nofun, fun h => absurd ?_ (h fieldId (List.mem_of_find?_eq_some hfind))⟩
    exact List.contains_iff_mem.mp (List.find?_some hfind)
  · next hfind =>
    refine ⟨fun _ fieldId hmem hcaptured => ?_, fun _ => rfl⟩
    exact List.find?_eq_none.mp hfind fieldId hmem (List.contains_iff_mem.mpr hcaptured)

/-- What the parser checks between the parts of an attempt. -/
structure AttemptedBody.Consistent (body : AttemptedBody) : Prop where
  consent : ¬((∃ field ∈ body.capturedFields, field.controlType = .file) ∧
    body.privacyFlags.fileMetadataIncluded = false)
  disjoint : ∀ fieldId ∈ body.excludedFields.map (·.fieldId),
    fieldId ∉ body.capturedFields.map (·.fieldId)

theorem parseAttemptedBody_eq_ok {value : List (Text × JsValue)} {p : Text} {x : AttemptedBody} :
    parseAttemptedBody Q value p = .ok x ↔ x.Consistent ∧ ∀ q,
      assertKeys value (baseKeys ++ ["capturedFields", "excludedFields", "formDescriptor", "origin",
        "privacyFlags", "submissionAttempt"]) [] q = .ok () ∧
      field (parseCapturedFields Q) "capturedFields" value q = .ok x.capturedFields ∧
      field (parseExcludedFields Q) "excludedFields" value q = .ok x.excludedFields ∧
      field parsePrivacyFlags "privacyFlags" value q = .ok x.privacyFlags ∧
      field (parseFormDescriptor Q) "formDescriptor" value q = .ok x.formDescriptor ∧
      field (parseOriginDescriptor Q) "origin" value q = .ok x.origin ∧
      field (parseSubmissionAttempt Q) "submissionAttempt" value q = .ok x.submissionAttempt := by
  simp only [parseAttemptedBody, Transaction.bind_eq_ok, refuseIf_eq_ok, assertNoOverlap_eq_ok]
  constructor
  · rintro ⟨_, hkeys, captured, h1, excluded, h2, flags, h3, _, hconsent, _, hdisjoint, form, h4,
      origin, h5, attempt, h6, h⟩
    obtain rfl := Except.ok.inj h
    refine ⟨⟨hconsent, hdisjoint⟩, fun q => ⟨assertKeys_anywhere hkeys q, ?_, ?_, ?_, ?_, ?_, ?_⟩⟩
    · exact field_anywhere parseCapturedFields_parses.anywhere h1 q
    · exact field_anywhere parseExcludedFields_parses.anywhere h2 q
    · exact field_anywhere (parsePrivacyFlags_parses (Q := Q)).anywhere h3 q
    · exact field_anywhere parseFormDescriptor_parses.anywhere h4 q
    · exact field_anywhere parseOriginDescriptor_parses.anywhere h5 q
    · exact field_anywhere parseSubmissionAttempt_parses.anywhere h6 q
  · rintro ⟨hconsistent, h⟩
    obtain ⟨hkeys, h1, h2, h3, h4, h5, h6⟩ := h p
    exact ⟨(), hkeys, _, h1, _, h2, _, h3, (), hconsistent.consent, (), hconsistent.disjoint, _, h4,
      _, h5, _, h6, rfl⟩

/-- What the parser checks of a body. -/
def EventBody.Fits (Q : ReceiptPlatform) (value : List (Text × JsValue)) (q : Text) :
    EventBody → Prop
  | .attempted body => parseAttemptedBody Q value q = .ok body
  | .siteConfirmed confirmation =>
    assertKeys value (baseKeys ++ ["siteConfirmation"]) [] q = .ok () ∧
      field (parseSiteConfirmation Q) "siteConfirmation" value q = .ok confirmation
  | .authority acknowledgment =>
    assertKeys value (baseKeys ++ ["authorityAcknowledgment"]) [] q = .ok () ∧
      field (parseAuthorityAcknowledgment Q) "authorityAcknowledgment" value q = .ok acknowledgment

theorem parseAuthorityBody_eq_ok {outcome : AuthorityOutcome} {value : List (Text × JsValue)}
    {p : Text} {x : EventBody} : parseAuthorityBody Q outcome value p = .ok x ↔
      x.stage = outcome.stage ∧ ∀ q, x.Fits Q value q := by
  have hstage : ∀ {first second : AuthorityOutcome}, first.stage = second.stage ↔
      first = second := by
    rintro (_ | _) (_ | _) <;> decide
  simp only [parseAuthorityBody, Transaction.bind_eq_ok, refuseIf_eq_ok]
  constructor
  · rintro ⟨_, hkeys, acknowledgment, h1, _, houtcome, h⟩
    obtain rfl := Except.ok.inj h
    exact ⟨hstage.mpr (not_not.mp houtcome), fun q => ⟨assertKeys_anywhere hkeys q,
      field_anywhere parseAuthorityAcknowledgment_parses.anywhere h1 q⟩⟩
  · rintro ⟨hx, h⟩
    rcases x with body | confirmation | acknowledgment
    · rcases outcome with _ | _ <;> cases hx
    · rcases outcome with _ | _ <;> cases hx
    · obtain ⟨hkeys, h1⟩ := h p
      exact ⟨(), hkeys, _, h1, (), not_not.mpr (hstage.mp hx), rfl⟩

/-- **What the part of a core for its stage is.** -/
theorem parseEventBody_eq_ok {stage : EventStage} {value : List (Text × JsValue)} {p : Text}
    {x : EventBody} :
    parseEventBody Q stage value p = .ok x ↔ x.stage = stage ∧ ∀ q, x.Fits Q value q := by
  have hauthority : ∀ acknowledgment : AuthorityAcknowledgment,
      (EventBody.authority acknowledgment).stage ≠ .attempted ∧
        (EventBody.authority acknowledgment).stage ≠ .siteConfirmed := by
    rintro ⟨_, _, _ | _, _, _⟩ <;> exact ⟨nofun, nofun⟩
  cases stage with
  | attempted =>
    rw [parseEventBody, map_eq_ok]
    constructor
    · rintro ⟨body, hbody, rfl⟩
      exact ⟨rfl, fun q => parseAttemptedBody_eq_ok.mpr (parseAttemptedBody_eq_ok.mp hbody)⟩
    · rintro ⟨hstage, h⟩
      rcases x with body | confirmation | acknowledgment
      · exact ⟨body, h p, rfl⟩
      · cases hstage
      · exact absurd hstage (hauthority acknowledgment).1
  | siteConfirmed =>
    simp only [parseEventBody, Transaction.bind_eq_ok]
    constructor
    · rintro ⟨_, hkeys, confirmation, h1, h⟩
      obtain rfl := Except.ok.inj h
      exact ⟨rfl, fun q => ⟨assertKeys_anywhere hkeys q,
        field_anywhere parseSiteConfirmation_parses.anywhere h1 q⟩⟩
    · rintro ⟨hstage, h⟩
      rcases x with body | confirmation | acknowledgment
      · cases hstage
      · obtain ⟨hkeys, h1⟩ := h p
        exact ⟨(), hkeys, _, h1, rfl⟩
      · exact absurd hstage (hauthority acknowledgment).2
  | authorityAccepted => exact parseAuthorityBody_eq_ok
  | authorityRejected => exact parseAuthorityBody_eq_ok

theorem parseEventCore_eq_ok {v : JsValue} {p : Text} {x : LifecycleEventCore} :
    parseEventCore Q v p = .ok x ↔ ∃ value, v = .object value ∧ ∀ q,
      field (parseEnum EVENT_STAGES eventStageText) "stage" value q = .ok x.stage ∧
      field normalizeTimestamp "occurredAt" value q = .ok x.occurredAt ∧
      field normalizeHash "previousEventHash" value q = .ok x.previousEventHash ∧
      field normalizeHash "receiptId" value q = .ok x.receiptId ∧
      field normalizeSchemaVersion "schemaVersion" value q = .ok x.schemaVersion ∧
      x.body.Fits Q value q := by
  simp only [parseEventCore, Transaction.bind_eq_ok, asRecord_eq_ok, parseEventBody_eq_ok]
  constructor
  · rintro ⟨value, hvalue, stage, h1, occurredAt, h2, previousEventHash, h3, receiptId, h4,
      schemaVersion, h5, body, ⟨rfl, h6⟩, h⟩
    obtain rfl := Except.ok.inj h
    refine ⟨value, hvalue, fun q => ⟨?_, ?_, ?_, ?_, ?_, h6 q⟩⟩
    · exact field_anywhere (eventStage_parses (Q := Q)).anywhere h1 q
    · exact field_anywhere (normalizeTimestamp_parses (Q := Q)).anywhere h2 q
    · exact field_anywhere (normalizeHash_parses (Q := Q)).anywhere h3 q
    · exact field_anywhere (normalizeHash_parses (Q := Q)).anywhere h4 q
    · exact field_anywhere (normalizeSchemaVersion_parses (Q := Q)).anywhere h5 q
  · rintro ⟨value, hvalue, h⟩
    obtain ⟨h1, h2, h3, h4, h5, -⟩ := h p
    exact ⟨value, hvalue, _, h1, _, h2, _, h3, _, h4, _, h5, _,
      ⟨rfl, fun q => (h q).2.2.2.2.2⟩, rfl⟩

/-- The keys of what is written of a core are different. -/
theorem distinctKeys_core (x : LifecycleEventCore) : distinctKeys x.members = true := by
  rcases x with ⟨_, _, _, _, _ | _ | _⟩ <;> rfl

theorem EventBody.Fits.again {x : LifecycleEventCore} {value : List (Text × JsValue)}
    (h : ∀ q, x.body.Fits Q value q) (q : Text) :
    x.body.Fits Q (definedMembers x.members) q := by
  rcases x with ⟨occurredAt, previousEventHash, receiptId, schemaVersion, body⟩
  rcases body with body | confirmation | acknowledgment
  · obtain ⟨hconsistent, hfields⟩ := parseAttemptedBody_eq_ok.mp (h q)
    obtain ⟨-, h1, h2, h3, h4, h5, h6⟩ := hfields q
    refine parseAttemptedBody_eq_ok.mpr ⟨hconsistent, fun q => ⟨assertKeys_fits rfl q, ?_⟩⟩
    refine ⟨?_, ?_, ?_, ?_, ?_, ?_⟩
    · exact field_again parseCapturedFields_parses h1 rfl rfl q
    · exact field_again parseExcludedFields_parses h2 rfl rfl q
    · exact field_again (parsePrivacyFlags_parses (Q := Q)) h3 rfl rfl q
    · exact field_again parseFormDescriptor_parses h4 rfl rfl q
    · exact field_again parseOriginDescriptor_parses h5 rfl rfl q
    · exact field_again parseSubmissionAttempt_parses h6 rfl rfl q
  · exact ⟨assertKeys_fits rfl q, field_again parseSiteConfirmation_parses (h q).2 rfl rfl q⟩
  · exact ⟨assertKeys_fits rfl q, field_again parseAuthorityAcknowledgment_parses (h q).2 rfl rfl q⟩

theorem EventBody.Fits.canonical {x : EventBody} {value : List (Text × JsValue)} {q : Text}
    (h : x.Fits Q value q) : CanonicalAll Q x.members := by
  rcases x with body | confirmation | acknowledgment
  · obtain ⟨-, hfields⟩ := parseAttemptedBody_eq_ok.mp h
    obtain ⟨-, h1, h2, h3, h4, h5, h6⟩ := hfields q
    refine ⟨?_, ?_, ?_, ?_, ?_, .inr ⟨_, rfl⟩, ?_, trivial⟩
    · exact field_canonical parseCapturedFields_parses h1
    · exact field_canonical parseExcludedFields_parses h2
    · exact field_canonical parseFormDescriptor_parses h4
    · exact field_canonical parseOriginDescriptor_parses h5
    · exact field_canonical parsePrivacyFlags_parses h3
    · exact field_canonical parseSubmissionAttempt_parses h6
  · exact ⟨field_canonical parseSiteConfirmation_parses h.2, .inr ⟨_, rfl⟩, trivial⟩
  · exact ⟨field_canonical parseAuthorityAcknowledgment_parses h.2, .inr ⟨_, rfl⟩, trivial⟩

theorem EventBody.Fits.distinct {x y : LifecycleEventCore} {value value' : List (Text × JsValue)}
    (hx : ∀ q, x.body.Fits Q value q) (hy : ∀ q, y.body.Fits Q value' q)
    (hstage : x.stage = y.stage)
    (hsame : ∀ key, Same Q.toTextPlatform (member key x.members) (member key y.members)) :
    x.body = y.body := by
  rcases x with ⟨occurredAt, previousEventHash, receiptId, schemaVersion, body⟩
  rcases y with ⟨occurredAt', previousEventHash', receiptId', schemaVersion', body'⟩
  rcases body with body | confirmation | acknowledgment <;>
    rcases body' with body' | confirmation' | acknowledgment'
  · obtain ⟨-, hx⟩ := parseAttemptedBody_eq_ok.mp (hx [])
    obtain ⟨-, hy⟩ := parseAttemptedBody_eq_ok.mp (hy [])
    obtain ⟨-, hx1, hx2, hx3, hx4, hx5, hx6⟩ := hx []
    obtain ⟨-, hy1, hy2, hy3, hy4, hy5, hy6⟩ := hy []
    have h1 := parseCapturedFields_parses.distinct hx1 hy1 (hsame (ascii "capturedFields"))
    have h2 := parseExcludedFields_parses.distinct hx2 hy2 (hsame (ascii "excludedFields"))
    have h3 := (parsePrivacyFlags_parses (Q := Q)).distinct hx3 hy3 (hsame (ascii "privacyFlags"))
    have h4 := parseFormDescriptor_parses.distinct hx4 hy4 (hsame (ascii "formDescriptor"))
    have h5 := parseOriginDescriptor_parses.distinct hx5 hy5 (hsame (ascii "origin"))
    have h6 := parseSubmissionAttempt_parses.distinct hx6 hy6 (hsame (ascii "submissionAttempt"))
    exact congrArg EventBody.attempted (AttemptedBody.ext h1 h2 h4 h5 h3 h6)
  · cases hstage
  · rcases acknowledgment' with ⟨_, _, _ | _, _, _⟩ <;> cases hstage
  · cases hstage
  · exact congrArg EventBody.siteConfirmed (parseSiteConfirmation_parses.distinct (hx []).2
      (hy []).2 (hsame (ascii "siteConfirmation")))
  · rcases acknowledgment' with ⟨_, _, _ | _, _, _⟩ <;> cases hstage
  · rcases acknowledgment with ⟨_, _, _ | _, _, _⟩ <;> cases hstage
  · rcases acknowledgment with ⟨_, _, _ | _, _, _⟩ <;> cases hstage
  · exact congrArg EventBody.authority (parseAuthorityAcknowledgment_parses.distinct (hx []).2
      (hy []).2 (hsame (ascii "authorityAcknowledgment")))

/-- **Event cores are parsed to themselves, and different ones have different
canonical forms.** -/
theorem parseEventCore_parses : Parses Q (parseEventCore Q) LifecycleEventCore.value where
  anywhere _ _ _ h _ := parseEventCore_eq_ok.mpr (parseEventCore_eq_ok.mp h)
  again {v p x} h q := by
    obtain ⟨value, -, h⟩ := parseEventCore_eq_ok.mp h
    obtain ⟨h1, h2, h3, h4, h5, -⟩ := h p
    have hkeys := distinctKeys_core x
    have hstage : member (ascii "stage") x.members = writeEnum eventStageText x.stage := by
      rcases x with ⟨_, _, _, _, _ | _ | _⟩ <;> rfl
    refine parseEventCore_eq_ok.mpr ⟨_, rfl, fun q => ⟨?_, ?_, ?_, ?_, ?_, ?_⟩⟩
    · exact field_again (eventStage_parses (Q := Q)) h1 hkeys hstage q
    · exact field_again (normalizeTimestamp_parses (Q := Q)) h2 hkeys rfl q
    · exact field_again (normalizeHash_parses (Q := Q)) h3 hkeys rfl q
    · exact field_again (normalizeHash_parses (Q := Q)) h4 hkeys rfl q
    · exact field_again (normalizeSchemaVersion_parses (Q := Q)) h5 hkeys rfl q
    · exact EventBody.Fits.again (fun q => (h q).2.2.2.2.2) q
  canonical {v p x} h := by
    obtain ⟨value, -, h⟩ := parseEventCore_eq_ok.mp h
    have hbody := EventBody.Fits.canonical (h p).2.2.2.2.2
    exact canonical_record (distinctKeys_core x)
      ⟨.inr ⟨_, rfl⟩, .inr ⟨_, rfl⟩, .inr ⟨_, rfl⟩, .inr ⟨_, rfl⟩, hbody⟩
  distinct {v p w q x y} hx hy hsame := by
    obtain ⟨value, -, hx⟩ := parseEventCore_eq_ok.mp hx
    obtain ⟨value', -, hy⟩ := parseEventCore_eq_ok.mp hy
    obtain ⟨hx1, hx2, hx3, hx4, hx5, -⟩ := hx []
    obtain ⟨hy1, hy2, hy3, hy4, hy5, -⟩ := hy []
    have hkey := same_member (Q := Q) (distinctKeys_core x) (distinctKeys_core y) hsame
    have hstage : ∀ x : LifecycleEventCore,
        member (ascii "stage") x.members = writeEnum eventStageText x.stage := by
      rintro ⟨_, _, _, _, _ | _ | _⟩ <;> rfl
    have h1 : x.stage = y.stage := by
      apply (eventStage_parses (Q := Q)).distinct hx1 hy1
      rw [← hstage x, ← hstage y]
      exact hkey _
    have h2 := (normalizeTimestamp_parses (Q := Q)).distinct hx2 hy2 (hkey (ascii "occurredAt"))
    have h3 := (normalizeHash_parses (Q := Q)).distinct hx3 hy3 (hkey (ascii "previousEventHash"))
    have h4 := (normalizeHash_parses (Q := Q)).distinct hx4 hy4 (hkey (ascii "receiptId"))
    have h5 := (normalizeSchemaVersion_parses (Q := Q)).distinct hx5 hy5
      (hkey (ascii "schemaVersion"))
    have h6 := EventBody.Fits.distinct (fun q => (hx q).2.2.2.2.2) (fun q => (hy q).2.2.2.2.2) h1
      hkey
    exact LifecycleEventCore.ext h2 h3 h4 h5 h6

end schema

end SubmittedIt.Protocol
