/-
SubmittedIt/SiteConfirmation.lean

What a site confirmation keeps of a selection (apps/extension/lib,
site-confirmation.ts).

The text that is saved may only leave characters of the visible selection out.
`isDeletionOnlyRedaction` looks for its characters in the selection one after
another, by code units.

Main result: `isDeletionOnlyRedaction_correct`.  That NFC keeps texts well formed
is what is used of it.
-/
import SubmittedIt.StoredReceipts
import SubmittedIt.Encoding
import SubmittedIt.TextSearch

namespace SubmittedIt.Protocol

open Utf8

/-! ### site-confirmation.ts -/

/-- `MAX_SITE_CONFIRMATION_MESSAGE_LENGTH`. -/
def MAX_SITE_CONFIRMATION_MESSAGE_LENGTH : Nat := 4096

/-- `MAX_SITE_CONFIRMATION_REFERENCE_LENGTH`. -/
def MAX_SITE_CONFIRMATION_REFERENCE_LENGTH : Nat := 256

/-- `SITE_CONFIRMATION_EVIDENCE_TYPES`. -/
def SITE_CONFIRMATION_EVIDENCE_TYPES : List ConfirmationEvidenceType :=
  [.confirmationPage, .inlineMessage, .redirect]

/-- `SaveSiteConfirmationInput`. -/
structure SaveSiteConfirmationInput where
  confirmOriginChange : Bool
  evidenceType : Text
  message : Text
  receiptId : Text
  reference : Option Text
  reviewId : Text
  saveId : Text
  deriving DecidableEq

section redaction

variable (Q : ReceiptPlatform)

/-- `boundedOptionalText`. -/
def boundedOptionalText (value : JsValue) (path : String) (maximum : Nat) :
    Except ExtensionError Text := do
  let parsed ← rethrow (normalizeOptionalText Q value (ascii path))
  throwIf (parsed.length > maximum) (path ++ " exceeds the confirmation-evidence limit.")
  return parsed

/-- The reference, where there is one. -/
def boundedReference : Option Text → Except ExtensionError (Option Text)
  | none => .ok none
  | some reference => (boundedOptionalText Q (.string reference) "$.reference"
      MAX_SITE_CONFIRMATION_REFERENCE_LENGTH).map some

/-- `parseOpaqueId`, of a confirmation. -/
def parseConfirmationId (value : JsValue) (path : String) : Except ExtensionError Text := do
  let parsed ← rethrow (normalizeBase64Url value (ascii path))
  throwIf (isOpaqueId parsed = false) (path ++ " must encode exactly 32 random bytes.")
  return parsed

/-- `parseSiteConfirmationEvidenceType`. -/
def parseSiteConfirmationEvidenceType (value : Text) : Except ExtensionError Text := do
  throwIf (value ∉ SITE_CONFIRMATION_EVIDENCE_TYPES.map evidenceTypeText)
    "Unsupported site-confirmation evidence type."
  return value

/-- `isDeletionOnlyRedaction`. -/
def isDeletionOnlyRedaction (source candidate : Text) : Bool :=
  let normalizedSource := normalizeText Q.toTextPlatform source
  let normalizedCandidate := normalizeText Q.toTextPlatform candidate
  if trim normalizedCandidate = [] ∨
      normalizedCandidate.length > MAX_SITE_CONFIRMATION_MESSAGE_LENGTH then false
  else locate normalizedSource (characters normalizedCandidate) 0

/-- `canonicalSaveSiteConfirmationInput`. -/
def canonicalSaveSiteConfirmationInput (value : SaveSiteConfirmationInput) (selectedText : Text) :
    Except ExtensionError SaveSiteConfirmationInput := do
  let message ← boundedOptionalText Q (.string value.message) "$.message"
    MAX_SITE_CONFIRMATION_MESSAGE_LENGTH
  throwIf (isDeletionOnlyRedaction Q selectedText message = false)
    "Confirmation text may only remove content from the visible selection."
  let reference ← boundedReference Q value.reference
  throwIf (reference.any fun text => text ≠ [] && (indexOf text selectedText).isNone)
    "The optional reference must appear in the selected visible evidence."
  let evidenceType ← parseSiteConfirmationEvidenceType value.evidenceType
  let receiptId ← rethrow (normalizeHash (.string value.receiptId) (ascii "$.receiptId"))
  let reviewId ← parseConfirmationId (.string value.reviewId) "$.reviewId"
  let saveId ← parseConfirmationId (.string value.saveId) "$.saveId"
  return { value with
    evidenceType, message, receiptId, reviewId, saveId,
    reference := reference.filter (· ≠ []) }

variable {Q}

/-! ### Normal texts -/

/-- Line ends are no part of a surrogate pair. -/
theorem wellFormed_unixLines {text : Text} (h : WellFormed text) : WellFormed (unixLines text) := by
  have hfeed : ∀ rest, WellFormed rest → WellFormed (10 :: rest) := fun rest hrest =>
    (codePoints_unit rfl rfl rest).2.mpr hrest
  induction hn : text.length using Nat.strong_induction_on generalizing text with
  | _ n ih =>
    induction text, h using wellFormed_induction with
    | nil => exact trivial
    | unit u rest hrest _ hhigh hlow _ =>
      rw [List.length_cons] at hn
      by_cases hu : u = 13
      · subst hu
        rcases rest with - | ⟨v, rest⟩
        · exact hfeed [] trivial
        · by_cases hv : v = 10
          · subst hv
            have hbehind : WellFormed rest := (codePoints_unit rfl rfl rest).2.mp hrest
            rw [List.length_cons] at hn
            exact hfeed _ (ih rest.length (by omega) hbehind rfl)
          · have hlines : unixLines (13 :: v :: rest) = 10 :: unixLines (v :: rest) := by
              rw [unixLines, if_pos rfl]
              exact fun _ _ h' => hv (List.cons.inj h').1
            rw [hlines]
            exact hfeed _ (ih _ (by omega) hrest rfl)
      · have hlines : unixLines (u :: rest) = u :: unixLines rest := by
          rw [unixLines, if_neg hu]
          exact fun _ h' => absurd h' hu
        rw [hlines]
        exact (codePoints_unit hhigh hlow _).2.mpr (ih _ (by omega) hrest rfl)
    | pair u v rest hrest _ hhigh hlow _ =>
      have hu : u ≠ 13 := fun h' => by
        rw [h'] at hhigh
        cases hhigh
      have hv : v ≠ 13 := fun h' => by
        rw [h'] at hlow
        cases hlow
      have hlines : unixLines (u :: v :: rest) = u :: v :: unixLines rest := by
        rw [unixLines, if_neg hu, unixLines, if_neg hv]
        · exact fun _ h' => absurd h' hv
        · exact fun _ h' => absurd h' hu
      rw [List.length_cons, List.length_cons] at hn
      rw [hlines]
      exact (codePoints_pair hhigh hlow _).2.mpr (ih _ (by omega) hrest rfl)

theorem trim_eq_nil {text : Text} : trim text = [] ↔ ∀ u ∈ text, isWhiteSpace u = true := by
  rw [trim, trimEnd, List.rdropWhile_eq_nil_iff]
  constructor
  · intro h u hu
    rw [← List.takeWhile_append_dropWhile (p := isWhiteSpace) (l := text)] at hu
    rcases List.mem_append.mp hu with hu | hu
    · exact List.mem_takeWhile_imp hu
    · exact h u hu
  · exact fun h u hu => h u ((List.dropWhile_suffix isWhiteSpace).subset hu)

theorem boundedOptionalText_eq_ok {value : JsValue} {path : String} {maximum : Nat} {text : Text} :
    boundedOptionalText Q value path maximum = .ok text ↔
      normalizeOptionalText Q value (ascii path) = .ok text ∧ text.length ≤ maximum := by
  simp only [boundedOptionalText, Transaction.bind_eq_ok, rethrow_eq_ok, throwIf_eq_ok, not_lt]
  constructor
  · rintro ⟨_, htext, _, hlength, h⟩
    obtain rfl := Except.ok.inj h
    exact ⟨htext, hlength⟩
  · rintro ⟨htext, hlength⟩
    exact ⟨text, htext, (), hlength, rfl⟩

/-! ### Redactions -/

/-- The message that is saved is the normal one, and passed as a redaction. -/
theorem canonicalSaveSiteConfirmationInput_message {value saved : SaveSiteConfirmationInput}
    {selectedText : Text}
    (h : canonicalSaveSiteConfirmationInput Q value selectedText = .ok saved) :
    saved.message = normalizeText Q.toTextPlatform value.message ∧
      isDeletionOnlyRedaction Q selectedText saved.message = true := by
  simp only [canonicalSaveSiteConfirmationInput, Transaction.bind_eq_ok, throwIf_eq_ok,
    boundedOptionalText_eq_ok] at h
  obtain ⟨message, ⟨hmessage, -⟩, _, hredaction, _, _, _, _, _, _, _, _, _, _, _, _, h⟩ := h
  obtain rfl := Except.ok.inj h
  exact ⟨(Except.ok.inj hmessage).symm, Bool.not_eq_false _ ▸ hredaction⟩

/-- **A redaction is a text that leaves out code points of the selection**; the
message of every input that is accepted is one. -/
theorem isDeletionOnlyRedaction_correct
    (hnfc : ∀ text, WellFormed text → WellFormed (Q.nfc text)) :
    (∀ source candidate, WellFormed source → WellFormed candidate →
      (isDeletionOnlyRedaction Q source candidate = true ↔
        (∃ u ∈ normalizeText Q.toTextPlatform candidate, isWhiteSpace u = false) ∧
          (normalizeText Q.toTextPlatform candidate).length ≤
            MAX_SITE_CONFIRMATION_MESSAGE_LENGTH ∧
          (codePoints (normalizeText Q.toTextPlatform candidate)).Sublist
            (codePoints (normalizeText Q.toTextPlatform source)))) ∧
      ∀ value selectedText saved, WellFormed value.message → WellFormed selectedText →
        canonicalSaveSiteConfirmationInput Q value selectedText = .ok saved →
        (codePoints saved.message).Sublist
          (codePoints (normalizeText Q.toTextPlatform selectedText)) := by
  have hnormal : ∀ {text}, WellFormed text → WellFormed (normalizeText Q.toTextPlatform text) :=
    fun h => hnfc _ (wellFormed_unixLines h)
  have hredaction : ∀ source candidate, WellFormed source → WellFormed candidate →
      (isDeletionOnlyRedaction Q source candidate = true ↔
        (∃ u ∈ normalizeText Q.toTextPlatform candidate, isWhiteSpace u = false) ∧
          (normalizeText Q.toTextPlatform candidate).length ≤
            MAX_SITE_CONFIRMATION_MESSAGE_LENGTH ∧
          (codePoints (normalizeText Q.toTextPlatform candidate)).Sublist
            (codePoints (normalizeText Q.toTextPlatform source))) := by
    intro source candidate hsource hcandidate
    have hblank : trim (normalizeText Q.toTextPlatform candidate) = [] ↔
        ¬∃ u ∈ normalizeText Q.toTextPlatform candidate, isWhiteSpace u = false := by
      rw [trim_eq_nil]
      simp only [not_exists, not_and, Bool.not_eq_false]
    have hlocate := locate_eq_true (hnormal hsource) (hnormal hcandidate)
    unfold isDeletionOnlyRedaction
    dsimp only
    split_ifs with hrefused
    · rw [hblank] at hrefused
      refine ⟨nofun, fun ⟨hvisible, hlength, _⟩ => ?_⟩
      rcases hrefused with hblank | hlong
      · exact absurd hvisible hblank
      · omega
    · rw [not_or, hblank, not_not, not_lt] at hrefused
      rw [hlocate]
      exact ⟨fun h => ⟨hrefused.1, hrefused.2, h⟩, fun h => h.2.2⟩
  refine ⟨hredaction, fun value selectedText saved hmessage hselected h => ?_⟩
  obtain ⟨hsaved, hpassed⟩ := canonicalSaveSiteConfirmationInput_message h
  have hwell : WellFormed saved.message := by
    rw [hsaved]
    exact hnormal hmessage
  have hsublist := ((hredaction selectedText saved.message hselected hwell).mp hpassed).2.2
  rw [hsaved, normalizeText_normalizeText] at hsublist
  rw [hsaved]
  exact hsublist

end redaction

/-- A pair is kept of a selection. -/
theorem isDeletionOnlyRedaction_pair :
    isDeletionOnlyRedaction sampleReceiptPlatform [97, 0xD83D, 0xDE00, 98] [0xD83D, 0xDE00] = true ∧
      (codePoints [0xD83D, 0xDE00]).Sublist (codePoints [97, 0xD83D, 0xDE00, 98]) := by
  have hredaction : isDeletionOnlyRedaction sampleReceiptPlatform [97, 0xD83D, 0xDE00, 98]
      [0xD83D, 0xDE00] = true := by decide +kernel
  have hcorrect := isDeletionOnlyRedaction_correct (Q := sampleReceiptPlatform) fun _ h => h
  exact ⟨hredaction, ((hcorrect.1 [97, 0xD83D, 0xDE00, 98] [0xD83D, 0xDE00]
    (by simp [WellFormed, Json.isHighSurrogate, Json.isLowSurrogate])
    (by simp [WellFormed, Json.isHighSurrogate, Json.isLowSurrogate])).mp hredaction).2.2⟩

end SubmittedIt.Protocol
