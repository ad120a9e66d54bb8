/-
SubmittedIt/RelayUploads.lean

What the extension sends of a private bundle, and what the relay takes of it.

The envelope of a bundle is posted as it is; then each of its events is, for the
blob under which the relay stored the envelope (apps/extension/lib:
relay-client.ts and anchor-state.ts; apps/web: the routes of blobs and events).

Main result: `bundle_relayed`.
-/
import SubmittedIt.RelayRequests

namespace SubmittedIt.Protocol

open JsValue (IsJson)

open Relay (MAX_ENCRYPTED_BLOB_REQUEST_BYTES)

open Transaction

/-! ### The data -/

/-- The idempotency key of `createAnchorOperation`. -/
def anchorIdempotencyKey (eventHash : Text) : Text := ascii "submittedit-" ++ eventHash.drop 2

/-- The columns of the row of an envelope that `#validateRequest` reads. -/
def EncryptedReceiptEnvelope.binding (envelope : EncryptedReceiptEnvelope) : BlobBinding :=
  ⟨envelope.authenticatedMetadata.receiptId, envelope.authenticatedMetadata.extensionKeyId⟩

/-- The `POST` of the blobs route, up to the envelope that is stored. -/
def admitRelayBlob (request : HttpRequest) :
    Except (RelayFault ⊕ Relay.BlobError) EncryptedReceiptEnvelope := do
  let body ← (readRelayJson request MAX_ENCRYPTED_BLOB_REQUEST_BYTES).mapError .inl
  (Validation.parseEncryptedReceiptEnvelope body).mapError .inr

section laws

variable {W : WebPlatform} {keccak256 : List UInt8 → HashHex} {N : NodeCrypto} {C : CryptoProvider}

theorem mapError_eq_ok {ε ε' α : Type} {f : ε → ε'} {x : Except ε α} {a : α} :
    x.mapError f = .ok a ↔ x = .ok a := by
  cases x with
  | error e => simp [Except.mapError]
  | ok b => simp [Except.mapError]

/-! ### Envelopes -/

theorem EncryptedReceiptMetadata.tidy (metadata : EncryptedReceiptMetadata) :
    Tidy metadata.value :=
  tidy_object rfl ⟨tidy_string _, tidy_string _, tidy_string _, tidy_string _,
    tidy_writeNat 1, tidy_string _, tidy_string _, tidy_string _, trivial⟩

/-- **An envelope is written as it is.** -/
theorem EncryptedReceiptEnvelope.tidy (envelope : EncryptedReceiptEnvelope) :
    Tidy envelope.value :=
  tidy_object rfl ⟨envelope.authenticatedMetadata.tidy, tidy_string _,
    tidy_string _, trivial⟩

/-- The text of an envelope is read back. -/
theorem uploadBody_exists {envelope : EncryptedReceiptEnvelope} {message : SealedMessage}
    (h : envelope.Carries W message) : ∃ text, jsonText envelope.value = some text ∧
      utf8Text (utf8Bytes text) = some text ∧ JsValue.parse text = some envelope.value := by
  obtain ⟨metadata, hmetadata, -⟩ := encodeCanonicalUtf8_eq_ok.mp h.additionalData
  have hcanonical : ∃ j, Canonical W.toTextPlatform (record [
      (ascii "authenticatedMetadata", envelope.authenticatedMetadata.value),
      (ascii "ciphertext", .string envelope.ciphertext), (ascii "iv", .string envelope.iv)]) j :=
    canonical_record (Q := W.toReceiptPlatform) rfl
      ⟨.inr ⟨metadata, hmetadata⟩, .inr ⟨_, rfl⟩, .inr ⟨_, rfl⟩, trivial⟩
  obtain ⟨j, hj⟩ := hcanonical
  exact jsonText_tidy envelope.tidy hj

/-! ### Events of a bundle -/

/-- After an authority's event there is none. -/
theorem stages_of_replay {items : List JsValue} {events : List LifecycleEventEnvelope}
    (hitems : List.Forall₂ (fun item event => ∀ q,
      parseEventEnvelope W.toReceiptPlatform item q = .ok event) items events)
    {first last : ChainState}
    (h : replay (chainStep W.toReceiptPlatform keccak256) first items = .ok last) :
    (∀ event ∈ events, event.core.stage.isAuthority = false) ∨
      ∃ stage, last.currentStage = .entered stage ∧ stage.isAuthority = true := by
  induction hitems generalizing first with
  | nil => exact .inl fun event hevent => absurd hevent List.not_mem_nil
  | @cons item event items events hitem hrest ih =>
    obtain ⟨next, hstep, hreplay⟩ := replay_cons_ok.mp h
    obtain ⟨found, hfound, -, rfl⟩ := chainStep_eq_ok.mp hstep
    obtain rfl := Except.ok.inj ((hitem []).symm.trans (hfound []))
    by_cases hauthority : event.core.stage.isAuthority = true
    · -- no transition leaves the stage, so this is the last event
      refine .inr ?_
      cases hrest with
      | nil =>
        obtain rfl := Except.ok.inj hreplay
        exact ⟨_, rfl, hauthority⟩
      | @cons later _ _ _ hlater _ =>
        obtain ⟨_, hstep', -⟩ := replay_cons_ok.mp hreplay
        obtain ⟨found', -, haccepts, -⟩ := chainStep_eq_ok.mp hstep'
        have hstuck : ∀ stage requested : EventStage, stage.isAuthority = true →
            ReceiptCore.isValidTransition (.entered stage) requested = false := by
          intro stage requested hstage
          cases stage with
          | attempted | siteConfirmed => cases hstage
          | authorityAccepted | authorityRejected => cases requested <;> rfl
        have hstep := haccepts.step
        rw [show (first.push event).currentStage = .entered event.core.stage from rfl,
          hstuck _ _ hauthority] at hstep
        cases hstep
    · rw [Bool.not_eq_true] at hauthority
      rcases ih hreplay with hothers | hlast
      · exact .inl (List.forall_mem_cons.mpr ⟨hauthority, hothers⟩)
      · exact .inr hlast

theorem receiptId_of_validated {receipt : Receipt} {events : List LifecycleEventEnvelope}
    {index : Nat} {u : Unit}
    (h : validateReceiptEvents W.toReceiptPlatform keccak256 receipt events index = .ok u) :
    ∀ event ∈ events, event.core.receiptId = receipt.receiptId := by
  induction events generalizing index with
  | nil => exact fun event hevent => absurd hevent List.not_mem_nil
  | cons event rest ih =>
    simp only [validateReceiptEvents, bind_eq_ok, refuseIf_eq_ok, not_not] at h
    obtain ⟨-, hreceipt, -, -, -, -, hrest⟩ := h
    exact List.forall_mem_cons.mpr ⟨hreceipt, ih hrest⟩

/-- **What is known of the events of a verified bundle.** -/
structure Relayable (W : WebPlatform) (keccak256 : List UInt8 → HashHex) (C : CryptoProvider)
    (receipt : Receipt) (event : LifecycleEventEnvelope) : Prop where
  normal : ∀ q, parseEventEnvelope W.toReceiptPlatform event.value q = .ok event
  stage : event.core.stage = .attempted ∨ event.core.stage = .siteConfirmed
  receiptId : event.core.receiptId = receipt.receiptId
  verified : verifyExtensionEventSignature W keccak256 C event.value
    receipt.extensionPublicKey.write = true

theorem relayable_of_verified {v : JsValue} {bundle : PrivateReceiptBundle}
    (h : verifyPrivateReceiptBundle W keccak256 C v = .ok bundle) :
    (∀ q, parsePublicKeyDescriptor W.toReceiptPlatform bundle.receipt.extensionPublicKey.write q =
      .ok bundle.receipt.extensionPublicKey) ∧
    ∀ event ∈ bundle.receipt.events, Relayable W keccak256 C bundle.receipt event := by
  obtain ⟨hparsed, -, hverified⟩ := verifyPrivateReceiptBundle_eq_ok.mp h
  obtain ⟨hcheck, value, -, -, -, -, -, -, hreceipt⟩ := parsePrivateReceiptBundle_eq_ok.mp hparsed
  obtain ⟨hstructure, hchecked⟩ := validateReceipt_eq_ok.mp hreceipt
  have hnormal := normal_of_parsed hstructure
  have hlocal := LocalReceipt.of_check hcheck
  simp only [checkReceipt, bind_eq_ok, refuseIf_eq_ok, not_not] at hchecked
  obtain ⟨chain, hchain, _, -, _, hevents, _, hstage, -⟩ := hchecked
  obtain ⟨last, hreplay, rfl⟩ := validateEventChain_eq_ok.mp hchain
  have hitems : List.Forall₂ (fun item event => ∀ q,
      parseEventEnvelope W.toReceiptPlatform item q = .ok event)
      (bundle.receipt.events.map (·.value)) bundle.receipt.events := by
    rw [List.forall₂_map_left_iff]
    exact List.forall₂_same.mpr hnormal
  have hkey : ∀ q, parsePublicKeyDescriptor W.toReceiptPlatform
      bundle.receipt.extensionPublicKey.write q = .ok bundle.receipt.extensionPublicKey := by
    obtain ⟨_, -, hfields⟩ := parseReceiptStructure_eq_ok.mp hstructure
    obtain ⟨-, -, -, -, -, h5, -⟩ := hfields []
    exact (parsePublicKeyDescriptor_parses (Q := W.toReceiptPlatform)).again h5
  refine ⟨hkey, fun event hevent => ⟨hnormal event hevent, ?_, receiptId_of_validated hevents event
    hevent, List.all_eq_true.mp hverified event hevent⟩⟩
  rcases stages_of_replay hitems hreplay with hnone | ⟨stage, hlast, hauthority⟩
  · have hevent := hnone event hevent
    cases hfound : event.core.stage with
    | attempted => exact .inl rfl
    | siteConfirmed => exact .inr rfl
    | authorityAccepted | authorityRejected =>
      rw [hfound] at hevent
      cases hevent
  · -- the last event of a bundle is not an authority's
    have hentered : LifecycleStage.entered stage = .entered bundle.operational.currentStage :=
      hlast.symm.trans (hstage.symm.trans hlocal.currentStage)
    obtain rfl := LifecycleStage.entered.inj hentered
    exact absurd (hauthority.symm.trans hlocal.extension_stage) Bool.noConfusion

theorem isIdempotencyKey_append {first second : Text}
    (hfirst : first.all (fun u => isAlphanumeric u || (ascii "._~-").contains u) = true)
    (hsecond : second.all (fun u => isAlphanumeric u || (ascii "._~-").contains u) = true)
    (hlength : 16 ≤ first.length + second.length ∧ first.length + second.length ≤ 128) :
    Validation.isIdempotencyKey (first ++ second) = true := by
  rw [Validation.isIdempotencyKey, List.length_append, List.all_append, hfirst, hsecond,
    decide_eq_true hlength.1, decide_eq_true hlength.2]
  rfl

theorem isIdempotencyKey_anchor {event : LifecycleEventEnvelope} {v : JsValue} {p : Text}
    (h : parseEventEnvelope W.toReceiptPlatform v p = .ok event) :
    Validation.isIdempotencyKey (anchorIdempotencyKey event.eventHash) = true := by
  obtain ⟨-, value, -, hfields⟩ := parseEventEnvelope_eq_ok.mp h
  obtain ⟨-, -, -, -, -, hhash⟩ := hfields p
  obtain ⟨hmatch, -, -⟩ := normalizeHash_eq_ok hhash
  rw [matchesHex, Bool.and_eq_true, Bool.and_eq_true, decide_eq_true_eq, decide_eq_true_eq,
    List.all_eq_true] at hmatch
  obtain ⟨⟨-, hlength⟩, hdigits⟩ := hmatch
  have hstart : (ascii "submittedit-").length = 12 ∧ (ascii "submittedit-").all
      (fun u => isAlphanumeric u || (ascii "._~-").contains u) = true := by
    decide
  have hrest : (event.eventHash.drop 2).all
      (fun u => isAlphanumeric u || (ascii "._~-").contains u) = true := by
    refine List.all_eq_true.mpr fun u hu => ?_
    have hdigit := hdigits u hu
    rw [Bool.or_eq_true]
    apply Or.inl
    simp only [isHexDigit, isAlphanumeric, Json.isDigit, Bool.or_eq_true, Bool.and_eq_true,
      decide_eq_true_eq, UInt16.le_iff_toNat_le, UInt16.reduceToNat] at hdigit ⊢
    omega
  apply isIdempotencyKey_append hstart.2 hrest
  rw [hstart.1, hlength]
  decide

/-! ### Bundles -/

/-- **The relay takes what the extension sends of a verified bundle**: the
envelope if its text is short enough and the identifier of the key too, and each
event that has no anchor if its request is short enough. -/
theorem bundle_relayed (hagree : N.Agrees C) {input : JsValue} {key : C.CryptoKey}
    {blobId : Text} {iv : List UInt8} {envelope : EncryptedReceiptEnvelope}
    (h : encryptPrivateReceiptBundle W keccak256 C input key blobId iv = .ok envelope) :
    ∃ bundle text, verifyPrivateReceiptBundle W keccak256 C input = .ok bundle ∧
      jsonText envelope.value = some text ∧
      (∀ request : HttpRequest, request.Carries text → ∀ stored,
        (admitRelayBlob request = .ok stored ↔
          (utf8Bytes text).length ≤ MAX_ENCRYPTED_BLOB_REQUEST_BYTES ∧
            bundle.receipt.extensionPublicKey.keyId.length ≤ 256 ∧ stored = envelope)) ∧
      ∀ event ∈ bundle.receipt.events, ∀ (blobs : Text → Option BlobBinding) (publicId : Text),
        isOpaqueId publicId = true → blobs publicId = some envelope.binding →
        ∃ body, relayAnchorBody W publicId event.value bundle.receipt.extensionPublicKey.write
            (anchorIdempotencyKey event.eventHash) = .ok (some body) ∧
          ∀ request : HttpRequest, request.Carries body →
            ((∃ validated, admitRelayRequest W keccak256 N blobs request = .ok validated) ↔
              event.chainAnchor = none ∧ (utf8Bytes body).length ≤ MAX_RELAY_REQUEST_BYTES) := by
  obtain ⟨hself, bundle, text, message, hbundle, -, hcarries, -, hof⟩ :=
    encryptPrivateReceiptBundle_spec h
  obtain ⟨text, htext, hback, hparse⟩ := uploadBody_exists hcarries
  obtain ⟨hkey, hevents⟩ := relayable_of_verified hbundle
  refine ⟨bundle, text, hbundle, htext, fun request hcarried stored => ?_,
    fun event hevent blobs publicId hopaqueId hblob => ?_⟩
  · simp only [admitRelayBlob, bind_eq_ok, mapError_eq_ok, readRelayJson_carried hcarried hback,
      hparse, hof.keyId]
    constructor
    · rintro ⟨v, ⟨hsize, hv⟩, hstored⟩
      obtain rfl := Option.some.inj hv
      obtain ⟨hfound, hlength⟩ := (validate_eq_ok (JsValue.isJson_of_parse hparse)).mp hstored
      obtain rfl := Except.ok.inj (hself.symm.trans hfound)
      exact ⟨hsize, hlength, rfl⟩
    · rintro ⟨hsize, hlength, rfl⟩
      exact ⟨_, ⟨hsize, rfl⟩, (validate_eq_ok (JsValue.isJson_of_parse hparse)).mpr
        ⟨hself, hlength⟩⟩
  · have hrelayable := hevents event hevent
    obtain ⟨body, hbody, hback, hparse⟩ := relayAnchorBody_exists (hrelayable.normal _) (hkey _)
      publicId (anchorIdempotencyKey event.eventHash)
    refine ⟨body, hbody, fun request hcarried => (admitRelayRequest_iff hagree
      (hrelayable.normal []) (hkey []) hcarried hback hparse).trans ?_⟩
    constructor
    · rintro ⟨hsize, hadmissible⟩
      exact ⟨hadmissible.unanchored, hsize⟩
    · rintro ⟨hanchor, hsize⟩
      refine ⟨hsize, hopaqueId, ?_, hrelayable.stage, hanchor, ?_, hrelayable.verified⟩
      · rintro _ ⟨⟩
        exact isIdempotencyKey_anchor (hrelayable.normal [])
      · show blobs publicId = _
        rw [hblob, hrelayable.receiptId, hof.receiptId, hof.keyId]
        rfl

end laws

/-- The sample bundle is encrypted. -/
theorem sampleBundle_encrypted : ∃ envelope, encryptPrivateReceiptBundle sampleWebPlatform
    sampleKeccak sampleCrypto sampleBundle.value () sampleMetadata.blobId (List.replicate 12 0) =
      .ok envelope := by
  obtain ⟨text, htext, hsize⟩ := sampleBundle_text
  have hdata : (encodeCanonicalUtf8 sampleWebPlatform sampleMetadata.value).toOption.isSome =
      true := by
    decide +kernel
  obtain ⟨additionalData, hdata⟩ := Option.isSome_iff_exists.mp hdata
  have hlength : ∀ tag : UInt8, (List.replicate 16 tag ++ utf8Bytes text).length =
      16 + (utf8Bytes text).length := by
    intro tag
    rw [List.length_append, List.length_replicate]
  refine ⟨_, encryptPrivateReceiptBundle_ok sampleBundle_verified htext ⟨rfl, rfl, rfl⟩
    (by decide) (by decide) (by decide) (by decide) List.length_replicate
    (toOption_eq_some.mp hdata) rfl ?_⟩
  rw [hlength, Extension.MAX_EXPORT_PACKAGE_BYTES]
  omega

/-- The sample: its envelope is stored, and its event is relayed for the row of
the envelope, if their texts are short enough. -/
theorem bundle_relayed_sample : ∃ envelope text, jsonText envelope.value = some text ∧
    (admitRelayBlob (sampleRequest text) = .ok envelope ↔
      (utf8Bytes text).length ≤ MAX_ENCRYPTED_BLOB_REQUEST_BYTES) ∧
    ∃ body, relayAnchorBody sampleWebPlatform (List.replicate 43 65) sampleSignedEvent.value
        sampleSignedReceipt.extensionPublicKey.write
        (anchorIdempotencyKey sampleSignedEvent.eventHash) = .ok (some body) ∧
      ((∃ validated, admitRelayRequest sampleWebPlatform sampleKeccak sampleNode
          (fun _ => some envelope.binding) (sampleRequest body) = .ok validated) ↔
        (utf8Bytes body).length ≤ MAX_RELAY_REQUEST_BYTES) := by
  obtain ⟨envelope, henvelope⟩ := sampleBundle_encrypted
  obtain ⟨bundle, text, hbundle, htext, hstored, hevents⟩ :=
    bundle_relayed sampleNode_agrees henvelope
  obtain rfl := Except.ok.inj (sampleBundle_verified.symm.trans hbundle)
  obtain ⟨body, hbody, hadmitted⟩ := hevents sampleSignedEvent List.mem_cons_self
    (fun _ => some envelope.binding) (List.replicate 43 65) (by decide) rfl
  refine ⟨envelope, text, htext, ?_, body, hbody, ?_⟩
  · rw [hstored _ (sampleRequest_carries text) envelope]
    exact ⟨fun h => h.1, fun h => ⟨h, by decide, rfl⟩⟩
  · rw [hadmitted _ (sampleRequest_carries body)]
    exact ⟨fun h => h.2, fun h => ⟨rfl, h⟩⟩

end SubmittedIt.Protocol
