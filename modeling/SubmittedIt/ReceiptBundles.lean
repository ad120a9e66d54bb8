/-
SubmittedIt/ReceiptBundles.lean

Private bundles as values (apps/extension/lib: private-receipt.ts and the
verification of crypto.ts).

A bundle holds a stored receipt and the signed receipt of its events.  It is
verified where its signatures are those of its events; importing a key and
verifying with it are Web Crypto's.

Main result: `verifyPrivateReceiptBundle_restored`, a verified bundle is verified
again of what is written of it and of what its canonical text is parsed to.
-/
import SubmittedIt.StoredReceipts
import SubmittedIt.Encoding
import SubmittedIt.StorageTypes

namespace SubmittedIt.Protocol

open JsValue (member hasOwn)

open Extension (ReceiptOwnership VerificationCheckName VerificationCheckResult)

/-! ### Keys of objects -/

/-- `texts.join("\\u0000")`. -/
def joinNul : List Text → Text
  | [] => []
  | [text] => text
  | text :: rest => text ++ 0 :: joinNul rest

/-- `hasExactKeys`. -/
def hasExactKeys (value : List (Text × JsValue)) (keys : List String) : Bool :=
  joinNul (JsValue.sortBy compareCanonicalText (value.map (·.1))) =
    joinNul (JsValue.sortBy compareCanonicalText (keys.map ascii))

/-! ### Web Crypto -/

/-- Web Crypto: ECDSA over P-256, AES-256-GCM with tags of 16 bytes, and PBKDF2
with SHA-256; `none` where a promise is rejected. -/
structure CryptoProvider where
  CryptoKey : Type
  VerificationKey : Type
  importKey : List UInt8 → Option VerificationKey
  verify : VerificationKey → (signature data : List UInt8) → Option Bool
  deriveKey : (passphrase salt : List UInt8) → (iterations : Nat) → Option CryptoKey
  encrypt : CryptoKey → (iv additionalData plaintext : List UInt8) → Option (List UInt8)
  decrypt : CryptoKey → (iv additionalData ciphertext : List UInt8) → Option (List UInt8)

section bundles

variable (W : WebPlatform) (keccak256 : List UInt8 → HashHex) (C : CryptoProvider)

/-- `extensionSigningPreimage`. -/
def extensionSigningPreimage (event : LifecycleEventEnvelope) : Option (List UInt8) := do
  let parsed ← accept (parseEventEnvelope W.toReceiptPlatform) event.value
  let expected ← (hashEventCore W.toReceiptPlatform keccak256 parsed.core.value).toOption
  ensure (parsed.eventHash = expected)
  let payload ←
    (createExtensionSignaturePayload W.toReceiptPlatform keccak256 parsed.value).toOption
  let preimage ← (createDomainSeparatedPreimage W.toTextPlatform
    HashDomain.extensionSignature.text payload).toOption
  return utf8Bytes preimage

/-- `importVerificationKey`. -/
def importVerificationKey (descriptorInput : JsValue) :
    Option (PublicKeyDescriptor × C.VerificationKey) := do
  let descriptor ← accept (parsePublicKeyDescriptor W.toReceiptPlatform) descriptorInput
  let bytes ← (base64UrlToBytes descriptor.value "$.extensionPublicKey.value").toOption
  let key ← C.importKey bytes
  return (descriptor, key)

/-- `verifyExtensionEventSignature`: `false` also where something throws. -/
def verifyExtensionEventSignature (eventInput publicKeyInput : JsValue) : Bool :=
  let verified := do
    let event ← accept (parseEventEnvelope W.toReceiptPlatform) eventInput
    let (descriptor, key) ← importVerificationKey W C publicKeyInput
    let signature ← event.extensionSignature
    ensure (signature.signer = .extension ∧ signature.keyId = descriptor.keyId)
    let payloadHash ←
      (hashExtensionSignaturePayload W.toReceiptPlatform keccak256 event.value).toOption
    ensure (signature.payloadHash = payloadHash)
    let signatureBytes ←
      (base64UrlToBytes signature.signature "$.extensionSignature.signature").toOption
    ensure (signatureBytes.length = 64)
    let preimage ← extensionSigningPreimage W keccak256 event
    C.verify key signatureBytes preimage
  verified = some true

/-! ### private-receipt.ts -/

/-- `PrivateReceiptBundle`; its format and version are fixed. -/
structure PrivateReceiptBundle where
  operational : StoredAttemptReceipt
  ownership : ReceiptOwnership
  receipt : Receipt
  deriving DecidableEq

def ownershipText : ReceiptOwnership → Text
  | .imported => ascii "IMPORTED"
  | .local => ascii "LOCAL"

def PrivateReceiptBundle.value (bundle : PrivateReceiptBundle) : JsValue :=
  .object [(ascii "format", .string (ascii "SUBMITTEDIT_PRIVATE_RECEIPT")),
    (ascii "version", .string (ascii "1.0")), (ascii "operational", bundle.operational.value),
    (ascii "ownership", writeEnum ownershipText bundle.ownership),
    (ascii "receipt", bundle.receipt.value)]

/-- `operationalEvents`. -/
def operationalEvents (receipt : StoredAttemptReceipt) : List LifecycleEventEnvelope :=
  receipt.event.envelope :: receipt.siteConfirmationEvent.toList

/-- `withoutExtensionSignature`. -/
def withoutExtensionSignature (event : LifecycleEventEnvelope) : LifecycleEventEnvelope :=
  { event with extensionSignature := none, chainAnchor := none }

/-- `expectedVerificationChecks`. -/
def expectedVerificationChecks (events : List LifecycleEventEnvelope) :
    List VerificationCheckName :=
  (if events.any (·.chainAnchor.isSome) then [.chainAnchor] else []) ++
    [.eventHash, .eventLink, .extensionSignature, .schema]

/-- The canonical texts of two values are the same. -/
def sameCanonical (first second : JsValue) : Except ReceiptProtocolError Bool := do
  let firstText ← canonicalize W.toTextPlatform first
  let secondText ← canonicalize W.toTextPlatform second
  return firstText = secondText

/-- The events of a receipt are those expected, up to what the receipt adds. -/
def eventsMatch : List LifecycleEventEnvelope → List LifecycleEventEnvelope →
    Except ReceiptProtocolError Bool
  | [], _ => .ok true
  | _ :: _, [] => .ok false
  | event :: events, expected :: rest =>
    if event.eventHash = expected.eventHash then do
      let same ← sameCanonical W (withoutExtensionSignature event).value expected.value
      if same then eventsMatch events rest else return false
    else .ok false

/-- `receiptMatchesOperational`. -/
def receiptMatchesOperational (receipt : Receipt) (operational : StoredAttemptReceipt) :
    Except ReceiptProtocolError Bool :=
  let expectedEvents := operationalEvents operational
  if receipt.receiptId = operational.receiptId ∧ receipt.createdAt = operational.capturedAt ∧
      receipt.currentStage = .entered operational.currentStage ∧
      receipt.derivedStatus = .pendingAcceptance ∧
      receipt.events.length = expectedEvents.length then
    eventsMatch W receipt.events expectedEvents
  else .ok false

/-- A check and its result. -/
def checkValue (check : VerificationCheckName) (result : VerificationCheckResult) : JsValue :=
  record [(ascii "check", writeEnum verificationCheckNameText check),
    (ascii "result", writeEnum verificationCheckResultText result)]

/-- The checks of `parsePrivateReceiptBundle` between its parts. -/
def checkBundle (operational : StoredAttemptReceipt) (receipt : Receipt) :
    Except ExtensionError Unit := do
  let same ← rethrow (receiptMatchesOperational W receipt operational)
  throwIf (same = false)
    "The signed receipt does not match its preserved operational evidence."
  let incomplete := "The private receipt bundle lacks complete local signature verification."
  throwIf (receipt.events.any fun event =>
    event.extensionSignature.isNone || event.authoritySignature.isSome) incomplete
  throwIf (receipt.verification.result ≠ .verified) incomplete
  let expected ← rethrow (sameCanonical W
    (.array (receipt.verification.checks.map fun check => checkValue check.check check.result))
    (.array ((expectedVerificationChecks receipt.events).map fun check =>
      checkValue check .passed)))
  throwIf (expected = false) incomplete

/-- `parsePrivateReceiptBundle`. -/
def parsePrivateReceiptBundle (input : JsValue) : Except ExtensionError PrivateReceiptBundle := do
  let value ← orThrow (.message "Encrypted receipt plaintext must be a private receipt bundle.")
    (accept asRecord input)
  throwIf (hasExactKeys value ["format", "version", "operational", "ownership", "receipt"] = false)
    "The private receipt bundle contains unsupported fields."
  let unsupported : ExtensionError :=
    .message "The private receipt bundle version or ownership is unsupported."
  orThrow unsupported
    (readLiteral (ascii "SUBMITTEDIT_PRIVATE_RECEIPT") (member (ascii "format") value))
  orThrow unsupported (readLiteral (ascii "1.0") (member (ascii "version") value))
  let ownership ← orThrow unsupported
    (accept (parseEnum [ReceiptOwnership.local, .imported] ownershipText)
      (member (ascii "ownership") value))
  let operational ← orThrow
    (.message "The private receipt bundle contains invalid operational evidence.")
    (validateStoredAttemptReceipt W keccak256 (member (ascii "operational") value))
  let receipt ← rethrow
    (validateReceipt W.toReceiptPlatform keccak256 (member (ascii "receipt") value))
  checkBundle W operational receipt
  return { operational, ownership, receipt }

/-- `verifyPrivateReceiptBundle`. -/
def verifyPrivateReceiptBundle (input : JsValue) : Except ExtensionError PrivateReceiptBundle := do
  let bundle ← parsePrivateReceiptBundle W keccak256 input
  let _ ← rethrow
    (validateEventChain W.toReceiptPlatform keccak256 (bundle.receipt.events.map (·.value)))
  throwIf (¬bundle.receipt.events.all (fun event =>
      verifyExtensionEventSignature W keccak256 C event.value
        bundle.receipt.extensionPublicKey.write) = true)
    "An extension event signature did not verify."
  return bundle

end bundles

section laws

variable {W : WebPlatform} {keccak256 : List UInt8 → HashHex} {C : CryptoProvider}

/-! ### Exact keys -/

/-- Sorted texts do not depend on the order in which they were. -/
theorem sortBy_eq_of_perm {first second : List Text} (h : first.Perm second) :
    JsValue.sortBy compareCanonicalText first = JsValue.sortBy compareCanonicalText second := by
  have hsorted := JsValue.sortBy_pairwise compareCanonicalText
  refine JsValue.eq_of_perm_of_sorted compareCanonicalText (hsorted first) (hsorted second) ?_
    fun a _ b _ hab => eq_of_compareCanonicalText hab
  exact (JsValue.perm_sortBy _ first).trans (h.trans (JsValue.perm_sortBy _ second).symm)

theorem length_joinNul {texts : List Text} (h : texts ≠ []) :
    (joinNul texts).length + 1 = (texts.map (·.length + 1)).sum := by
  induction texts with
  | nil => exact absurd rfl h
  | cons text rest ih =>
    rcases rest with - | ⟨next, rest⟩
    · simp [joinNul]
    · have hnext := ih (List.cons_ne_nil next rest)
      rw [joinNul, List.map_cons, List.sum_cons, ← hnext, List.length_append, List.length_cons]
      · omega
      · exact nofun

/-- **An object with exactly the keys has no others** if it has all of them: the
lengths of the joined texts leave no room. -/
theorem keys_perm_of_hasExactKeys {value : List (Text × JsValue)} {keys : List String}
    (hne : keys ≠ []) (hnodup : (keys.map ascii).Nodup)
    (hthere : ∀ key ∈ keys, hasOwn (ascii key) value = true)
    (h : hasExactKeys value keys = true) : (value.map (·.1)).Perm (keys.map ascii) := by
  have hsubset : keys.map ascii ⊆ value.map (·.1) := by
    intro text htext
    obtain ⟨key, hkey, rfl⟩ := List.mem_map.mp htext
    obtain ⟨m, hm, hname⟩ := hasOwn_iff.mp (hthere key hkey)
    exact List.mem_map.mpr ⟨m, hm, hname⟩
  obtain ⟨found, hfound, hsublist⟩ := hnodup.subperm hsubset
  obtain ⟨others, hothers⟩ := hsublist.exists_perm_append
  -- what is joined is as long as its texts and the marks between them
  have hlength : ∀ {texts : List Text}, texts ≠ [] →
      (joinNul (JsValue.sortBy compareCanonicalText texts)).length + 1 =
        (texts.map (·.length + 1)).sum := by
    intro texts htexts
    have hperm := JsValue.perm_sortBy compareCanonicalText texts
    rw [length_joinNul fun hnil => htexts (hnil ▸ hperm).symm.eq_nil]
    exact (hperm.map _).sum_eq
  have hkeys : keys.map ascii ≠ [] := fun hnil => hne (List.map_eq_nil_iff.mp hnil)
  have hvalue : value.map (·.1) ≠ [] := by
    intro hnil
    rw [hnil] at hsubset
    exact hkeys (List.subset_nil.mp hsubset)
  have hsum : ((value.map (·.1)).map (·.length + 1)).sum =
      ((keys.map ascii).map (·.length + 1)).sum := by
    rw [← hlength hvalue, ← hlength hkeys, of_decide_eq_true h]
  rw [(hothers.map _).sum_eq, List.map_append, List.sum_append, (hfound.map _).sum_eq] at hsum
  have hnone : others = [] := by
    rcases others with - | ⟨other, rest⟩
    · rfl
    · rw [List.map_cons, List.sum_cons] at hsum
      omega
  rw [hnone, List.append_nil] at hothers
  exact hothers.trans hfound

/-- An object has exactly its keys again. -/
theorem RestoredMembers.exactKeys {value props : List (Text × JsValue)}
    (h : RestoredMembers W.toReceiptPlatform value props) {keys : List String}
    (hne : keys ≠ []) (hnodup : (keys.map ascii).Nodup)
    (hvisible : (keys.map ascii).all isVisible = true)
    (hthere : ∀ key ∈ keys, member (ascii key) value ≠ .undefined)
    (hkeys : hasExactKeys value keys = true) : hasExactKeys props keys = true := by
  have hperm := keys_perm_of_hasExactKeys hne hnodup
    (fun key hkey => hasOwn_iff.mpr ⟨_, mem_of_member (hthere key hkey), rfl⟩) hkeys
  have hprops : (props.map (·.1)).Perm (keys.map ascii) := by
    refine (List.perm_ext_iff_of_nodup h.nodup hnodup).mpr fun text =>
      ⟨fun htext => ?_, fun htext => ?_⟩
    · obtain ⟨n, hn, rfl⟩ := List.mem_map.mp htext
      obtain ⟨m, hm, hname, -⟩ := h.given hn
      have hmem := hperm.mem_iff.mp (List.mem_map_of_mem hm)
      rw [normalizeText_visible (List.all_eq_true.mp hvisible _ hmem)] at hname
      exact hname ▸ hmem
    · obtain ⟨key, hkey, rfl⟩ := List.mem_map.mp htext
      have hfound := h.found (List.all_eq_true.mp hvisible _ htext) (hthere key hkey)
      exact List.mem_map.mpr ⟨_, mem_of_member (restored_ne_undefined hfound).2, rfl⟩
  rw [hasExactKeys, decide_eq_true_eq, sortBy_eq_of_perm hprops]

/-! ### Bundles -/

theorem parsePrivateReceiptBundle_eq_ok {v : JsValue} {x : PrivateReceiptBundle} :
    parsePrivateReceiptBundle W keccak256 v = .ok x ↔
      checkBundle W x.operational x.receipt = .ok () ∧ ∃ value, v = .object value ∧
      hasExactKeys value ["format", "version", "operational", "ownership", "receipt"] = true ∧
      readLiteral (ascii "SUBMITTEDIT_PRIVATE_RECEIPT") (member (ascii "format") value) =
        some () ∧
      readLiteral (ascii "1.0") (member (ascii "version") value) = some () ∧
      accept (parseEnum [ReceiptOwnership.local, .imported] ownershipText)
        (member (ascii "ownership") value) = some x.ownership ∧
      validateStoredAttemptReceipt W keccak256 (member (ascii "operational") value) =
        some x.operational ∧
      validateReceipt W.toReceiptPlatform keccak256 (member (ascii "receipt") value) =
        .ok x.receipt := by
  simp only [parsePrivateReceiptBundle, Transaction.bind_eq_ok, orThrow_eq_ok, rethrow_eq_ok,
    throwIf_eq_ok, accept_asRecord, Bool.not_eq_false]
  constructor
  · rintro ⟨value, hvalue, _, hkeys, _, h1, _, h2, ownership, h3, operational, h4, receipt, h5, _,
      hcheck, h⟩
    obtain rfl := Except.ok.inj h
    exact ⟨hcheck, value, hvalue, hkeys, h1, h2, h3, h4, h5⟩
  · rintro ⟨hcheck, value, hvalue, hkeys, h1, h2, h3, h4, h5⟩
    exact ⟨value, hvalue, (), hkeys, (), h1, (), h2, _, h3, _, h4, _, h5, (), hcheck, rfl⟩

theorem storedAs_ownership :
    StoredAs W (accept (parseEnum [ReceiptOwnership.local, .imported] ownershipText))
      (writeEnum ownershipText) :=
  storedAs_enum _ (injective_of_nodup [ReceiptOwnership.local, .imported]
    (by rintro (_ | _) <;> decide) (by decide)) (by rintro (_ | _) <;> rfl)

/-- **A bundle is parsed again** of what is written of it. -/
theorem parsePrivateReceiptBundle_again {v : JsValue} {x : PrivateReceiptBundle}
    (h : parsePrivateReceiptBundle W keccak256 v = .ok x) :
    parsePrivateReceiptBundle W keccak256 x.value = .ok x := by
  obtain ⟨hcheck, value, -, -, -, -, h3, h4, h5⟩ := parsePrivateReceiptBundle_eq_ok.mp h
  refine parsePrivateReceiptBundle_eq_ok.mpr ⟨hcheck, _, rfl, rfl, rfl, rfl, ?_, ?_, ?_⟩
  · exact storedAs_ownership.again (W := W) h3
  · exact validateStoredAttemptReceipt_stored.again h4
  · exact validateReceipt_again h5

/-- **A bundle is parsed again** of what its canonical text is parsed to. -/
theorem parsePrivateReceiptBundle_restored {v w : JsValue} {x : PrivateReceiptBundle}
    (hw : Restored W.toReceiptPlatform v w)
    (h : parsePrivateReceiptBundle W keccak256 v = .ok x) :
    parsePrivateReceiptBundle W keccak256 w = .ok x := by
  obtain ⟨hcheck, value, rfl, hkeys, h1, h2, h3, h4, h5⟩ := parsePrivateReceiptBundle_eq_ok.mp h
  obtain ⟨props, rfl, hprops⟩ := restored_object hw
  have hformat := storedAs_literal (W := W) (normalizeText_visible
    (show isVisible (ascii "SUBMITTEDIT_PRIVATE_RECEIPT") = true from rfl))
  have hversion := storedAs_literal (W := W) (normalizeText_visible
    (show isVisible (ascii "1.0") = true from rfl))
  have hreceipt : member (ascii "receipt") value ≠ .undefined := by
    intro hundefined
    rw [hundefined] at h5
    cases h5
  refine parsePrivateReceiptBundle_eq_ok.mpr ⟨hcheck, props, rfl, ?_, ?_, ?_, ?_, ?_, ?_⟩
  · refine hprops.exactKeys (by decide) (by decide) rfl ?_ hkeys
    simp only [List.forall_mem_cons]
    exact ⟨hformat.defined h1, hversion.defined h2, validateStoredAttemptReceipt_stored.defined h4,
      storedAs_ownership.defined (W := W) h3, hreceipt,
      fun key hkey => absurd hkey List.not_mem_nil⟩
  · exact hformat.member hprops rfl h1
  · exact hversion.member hprops rfl h2
  · exact storedAs_ownership.member hprops rfl h3
  · exact validateStoredAttemptReceipt_stored.member hprops rfl h4
  · exact validateReceipt_stable (hprops.found rfl hreceipt) h5

theorem verifyPrivateReceiptBundle_eq_ok {v : JsValue} {x : PrivateReceiptBundle} :
    verifyPrivateReceiptBundle W keccak256 C v = .ok x ↔
      parsePrivateReceiptBundle W keccak256 v = .ok x ∧
      (∃ chain, validateEventChain W.toReceiptPlatform keccak256
        (x.receipt.events.map (·.value)) = .ok chain) ∧
      x.receipt.events.all (fun event => verifyExtensionEventSignature W keccak256 C event.value
        x.receipt.extensionPublicKey.write) = true := by
  simp only [verifyPrivateReceiptBundle, Transaction.bind_eq_ok, rethrow_eq_ok, throwIf_eq_ok,
    not_not]
  constructor
  · rintro ⟨bundle, hbundle, chain, hchain, _, hverified, h⟩
    obtain rfl := Except.ok.inj h
    exact ⟨hbundle, ⟨chain, hchain⟩, hverified⟩
  · rintro ⟨hbundle, ⟨chain, hchain⟩, hverified⟩
    exact ⟨x, hbundle, chain, hchain, (), hverified, rfl⟩

/-- **A verified bundle is verified again** of what is written of it, and of what
its canonical text is parsed to. -/
theorem verifyPrivateReceiptBundle_restored {v w : JsValue} {x : PrivateReceiptBundle}
    (h : verifyPrivateReceiptBundle W keccak256 C v = .ok x)
    (hw : Restored W.toReceiptPlatform x.value w) :
    verifyPrivateReceiptBundle W keccak256 C x.value = .ok x ∧
      verifyPrivateReceiptBundle W keccak256 C w = .ok x := by
  obtain ⟨hparsed, hchain, hverified⟩ := verifyPrivateReceiptBundle_eq_ok.mp h
  have hagain := parsePrivateReceiptBundle_again hparsed
  exact ⟨verifyPrivateReceiptBundle_eq_ok.mpr ⟨hagain, hchain, hverified⟩,
    verifyPrivateReceiptBundle_eq_ok.mpr
      ⟨parsePrivateReceiptBundle_restored hw hagain, hchain, hverified⟩⟩

/-! ### Details of checks -/

/-- The check with another detail. -/
def VerificationCheck.withDetail (detail : Text) (check : VerificationCheck) : VerificationCheck :=
  { check with detail := some detail }

/-- The receipt with another detail of every check. -/
def Receipt.withDetails (receipt : Receipt) (detail : Text) : Receipt :=
  { receipt with
    verification := { receipt.verification with
      checks := receipt.verification.checks.map (·.withDetail detail) } }

/-- The bundle with another detail of every check. -/
def PrivateReceiptBundle.withDetails (bundle : PrivateReceiptBundle) (detail : Text) :
    PrivateReceiptBundle :=
  { bundle with receipt := bundle.receipt.withDetails detail }

theorem parseVerificationCheck_withDetail {detail : Text}
    (hdetail : normalizeText W.toTextPlatform detail = detail) {v : JsValue} {p : Text}
    {x : VerificationCheck}
    (h : parseVerificationCheck W.toReceiptPlatform v p = .ok x) (q : Text) :
    parseVerificationCheck W.toReceiptPlatform (x.withDetail detail).value q =
      .ok (x.withDetail detail) := by
  obtain ⟨value, -, hfields⟩ := parseVerificationCheck_eq_ok.mp h
  obtain ⟨-, h1, -, h3⟩ := hfields p
  have hread : optionalField (normalizeOptionalText W.toReceiptPlatform) "detail"
      [(ascii "detail", .string detail)] [] = .ok (some detail) := by
    show Except.ok (some (normalizeText W.toTextPlatform detail)) = _
    rw [hdetail]
  refine parseVerificationCheck_eq_ok.mpr ⟨_, rfl, fun q => ⟨assertKeys_fits rfl q, ?_, ?_, ?_⟩⟩
  · exact field_again (verificationCheckName_parses (Q := W.toReceiptPlatform)) h1 rfl rfl q
  · exact optionalField_again normalizeOptionalText_parses hread rfl rfl (fun _ => rfl) q
  · exact field_again (verificationCheckResult_parses (Q := W.toReceiptPlatform)) h3 rfl rfl q

theorem parseVerificationState_withDetails {detail : Text}
    (hdetail : normalizeText W.toTextPlatform detail = detail) {v : JsValue} {p : Text}
    {x : VerificationState}
    (h : parseVerificationState W.toReceiptPlatform v p = .ok x) (q : Text) :
    parseVerificationState W.toReceiptPlatform
      { x with checks := x.checks.map (·.withDetail detail) : VerificationState }.value q =
      .ok { x with checks := x.checks.map (·.withDetail detail) } := by
  obtain ⟨⟨hsorted, hdistinct, hfailed, hverified, hopen, htime⟩, value, parsed, -, hperm,
    hfields⟩ := parseVerificationState_eq_ok.mp h
  obtain ⟨-, h1, h2, h3⟩ := hfields p
  obtain ⟨items, -, hitems⟩ :=
    (parseList_eq_ok parseVerificationCheck_parses.anywhere).mp h1
  refine parseVerificationState_eq_ok.mpr ⟨⟨?_, ?_, ?_, ?_, ?_, htime⟩, _,
    x.checks.map (·.withDetail detail), rfl, List.Perm.refl _,
    fun q => ⟨assertKeys_fits rfl q, ?_, ?_, ?_⟩⟩
  · exact List.pairwise_map.mpr hsorted
  · rwa [List.map_map]
  · rwa [List.any_map]
  · rwa [List.length_map, List.all_map]
  · rwa [List.any_map]
  · refine (parseList_eq_ok parseVerificationCheck_parses.anywhere).mpr ⟨_, rfl, ?_⟩
    rw [List.map_map, List.forall₂_map_left_iff, List.forall₂_map_right_iff, List.forall₂_same]
    intro check hcheck q
    obtain ⟨item, -, hitem⟩ := exists_of_forall₂ hitems (hperm.mem_iff.mp hcheck)
    exact parseVerificationCheck_withDetail hdetail (hitem []) q
  · exact field_again (verificationResult_parses (Q := W.toReceiptPlatform)) h2 rfl rfl q
  · exact optionalField_again (normalizeTimestamp_parses (Q := W.toReceiptPlatform)) h3 rfl rfl
      (fun _ => rfl) q

theorem parseReceiptStructure_withDetails {detail : Text}
    (hdetail : normalizeText W.toTextPlatform detail = detail) {v : JsValue} {p : Text}
    {x : Receipt}
    (h : parseReceiptStructure W.toReceiptPlatform v p = .ok x) (q : Text) :
    parseReceiptStructure W.toReceiptPlatform (x.withDetails detail).value q =
      .ok (x.withDetails detail) := by
  obtain ⟨value, hvalue, hfields⟩ :=
    parseReceiptStructure_eq_ok.mp (parseReceiptStructure_parses.again h q)
  obtain rfl := JsValue.object.inj hvalue
  refine parseReceiptStructure_eq_ok.mpr ⟨_, rfl, fun q => ?_⟩
  obtain ⟨hkeys, h1, h2, h3, h4, h5, h6, h7, h8⟩ := hfields q
  exact ⟨assertKeys_fits rfl q, h1, h2, h3, h4, h5, h6, h7,
    parseVerificationState_withDetails hdetail h8 _⟩

theorem checkPassed_withDetails (receipt : Receipt) (detail : Text) (name : VerificationCheckName) :
    checkPassed (receipt.withDetails detail).verification name =
      checkPassed receipt.verification name := by
  show (List.any (List.map _ _) _) = _
  rw [List.any_map]
  rfl

theorem checkReceipt_withDetails {Q : ReceiptPlatform} (receipt : Receipt) (detail : Text) :
    checkReceipt Q keccak256 (receipt.withDetails detail) = checkReceipt Q keccak256 receipt := by
  have hevents : ∀ (events : List LifecycleEventEnvelope) (index : Nat),
      validateReceiptEvents Q keccak256 (receipt.withDetails detail) events index =
        validateReceiptEvents Q keccak256 receipt events index := by
    intro events
    induction events with
    | nil => exact fun index => rfl
    | cons event rest ih =>
      intro index
      rw [validateReceiptEvents, validateReceiptEvents, ih (index + 1)]
      rfl
  have hstatus : ∀ stage, deriveReceiptStatus stage (receipt.withDetails detail).verification =
      deriveReceiptStatus stage receipt.verification := by
    intro stage
    simp only [deriveReceiptStatus, checkPassed_withDetails]
    rfl
  have hrequired : ∀ stage, requireChecks (receipt.withDetails detail) stage =
      requireChecks receipt stage := by
    intro stage
    simp only [requireChecks, requirePassedCheck, checkPassed_withDetails]
    rfl
  have hsame : (receipt.withDetails detail).events = receipt.events := rfl
  simp only [checkReceipt, hstatus, hrequired, hevents, hsame]
  rfl

/-- **Nothing of a bundle covers the details of its checks**: with any text in
their place it is verified as well. -/
theorem verifyPrivateReceiptBundle_withDetails {v : JsValue} {x : PrivateReceiptBundle}
    {detail : Text} (hdetail : normalizeText W.toTextPlatform detail = detail)
    (h : verifyPrivateReceiptBundle W keccak256 C v = .ok x) :
    verifyPrivateReceiptBundle W keccak256 C (x.withDetails detail).value =
      .ok (x.withDetails detail) := by
  obtain ⟨hparsed, hchain, hverified⟩ := verifyPrivateReceiptBundle_eq_ok.mp h
  obtain ⟨hcheck, value, hvalue, hkeys, h1, h2, h3, h4, h5⟩ :=
    parsePrivateReceiptBundle_eq_ok.mp (parsePrivateReceiptBundle_again hparsed)
  obtain rfl := JsValue.object.inj hvalue
  obtain ⟨hstructure, hreceipt⟩ := validateReceipt_eq_ok.mp h5
  have hbundle : checkBundle W x.operational (x.receipt.withDetails detail) = .ok () := by
    rw [← hcheck]
    unfold checkBundle
    simp only [Receipt.withDetails, List.map_map]
    rfl
  refine verifyPrivateReceiptBundle_eq_ok.mpr ⟨?_, hchain, hverified⟩
  refine parsePrivateReceiptBundle_eq_ok.mpr ⟨hbundle, _, rfl, rfl, h1, h2, h3, h4, ?_⟩
  exact validateReceipt_eq_ok.mpr ⟨parseReceiptStructure_withDetails hdetail hstructure _,
    (checkReceipt_withDetails x.receipt detail).trans hreceipt⟩

end laws

/-! ### A bundle of one event -/

/-- A browser that knows one site and ASCII texts. -/
def sampleWebPlatform : WebPlatform where
  toReceiptPlatform := sampleReceiptPlatform
  hostname _ := ascii "a.example"
  url_ascii := by
    intro text parsed h
    have hsite : sampleReceiptPlatform.url text = some parsed → parsed = sampleSite := by
      intro h
      change (if _ then some sampleSite else none) = some parsed at h
      split at h
      · exact (Option.some.inj h).symm
      · cases h
    rw [hsite h]
    decide
  nfc_take _ _ _ := rfl
  nfc_drop _ _ _ := rfl
  nfc_space _ _ _ _ := rfl
  nfc_ellipsis _ _ := rfl

/-- The hashes of the page path, the signature payload and the event. -/
def sampleKeccak (bytes : List UInt8) : HashHex :=
  if bytes.length = 75 then
    0xd3bc9ccb626417c314449115b0fed96de027fcc880c50469e0c7b57b8eb7cf11
  else if bytes.length = 239 then
    0x06d2a7371dac7d495de275858e5c1be5f036f4dedbe9693e8301d144c1c6ed03
  else sampleHash

/-- The stored receipt of the event. -/
def sampleStored : StoredAttemptReceipt where
  actionOrigin := ascii "https://a.example"
  attemptFingerprint := hashText sampleHash
  attemptId := List.replicate 43 65
  capturedAt := ascii "2026-01-01T00:00:00.000Z"
  event := ⟨sampleEvent, _, rfl⟩
  origin := ascii "https://a.example"
  pagePathHash := hashText 0xd3bc9ccb626417c314449115b0fed96de027fcc880c50469e0c7b57b8eb7cf11
  receiptId := ascii "0x" ++ List.replicate 64 49
  receiptNonce := List.replicate 43 65
  confirmationContext := none
  siteConfirmation := none

/-- The event, signed. -/
def sampleSignedEvent : LifecycleEventEnvelope :=
  { sampleEvent with
    extensionSignature := some {
      keyId := List.replicate 16 107
      payloadHash := hashText 0x06d2a7371dac7d495de275858e5c1be5f036f4dedbe9693e8301d144c1c6ed03
      signature := List.replicate 86 65
      signer := .extension } }

def sampleSignedReceipt : Receipt where
  createdAt := ascii "2026-01-01T00:00:00.000Z"
  currentStage := .entered .attempted
  derivedStatus := .pendingAcceptance
  events := [sampleSignedEvent]
  extensionPublicKey := ⟨List.replicate 16 107, List.replicate 122 65⟩
  receiptId := ascii "0x" ++ List.replicate 64 49
  schemaVersion := ascii "1.0"
  verification := ⟨[⟨.eventHash, none, .passed⟩, ⟨.eventLink, none, .passed⟩,
    ⟨.extensionSignature, none, .passed⟩, ⟨.schema, none, .passed⟩], .verified,
    some (ascii "2026-01-01T00:00:00.000Z")⟩

/-- The bundle of the event. -/
def sampleBundle : PrivateReceiptBundle := ⟨sampleStored, .local, sampleSignedReceipt⟩

/-- A provider whose ciphertexts are a tag of the lengths and the plaintext, and
that accepts the signature of zero bytes. -/
def sampleCrypto : CryptoProvider where
  CryptoKey := Unit
  VerificationKey := Unit
  importKey _ := some ()
  verify _ signature _ := some (signature == List.replicate 64 0)
  deriveKey _ _ _ := some ()
  encrypt _ iv additionalData plaintext :=
    some (List.replicate 16 (UInt8.ofNat (iv.length + additionalData.length)) ++ plaintext)
  decrypt _ iv additionalData ciphertext :=
    if ciphertext.take 16 =
        List.replicate 16 (UInt8.ofNat (iv.length + additionalData.length)) then
      some (ciphertext.drop 16)
    else none

theorem sampleCrypto_decrypt {key : sampleCrypto.CryptoKey}
    {iv additionalData plaintext ciphertext : List UInt8} :
    sampleCrypto.decrypt key iv additionalData ciphertext = some plaintext ↔
      sampleCrypto.encrypt key iv additionalData plaintext = some ciphertext := by
  simp only [sampleCrypto, Option.some.injEq, Option.ite_none_right_eq_some]
  constructor
  · rintro ⟨htag, rfl⟩
    rw [← htag, List.take_append_drop]
  · rintro rfl
    exact ⟨List.take_left' List.length_replicate, List.drop_left' List.length_replicate⟩

theorem toOption_eq_some {ε α : Type} {x : Except ε α} {a : α} :
    x.toOption = some a ↔ x = .ok a := by
  rcases x with e | b <;> simp [Except.toOption]

theorem sampleBundle_verified : verifyPrivateReceiptBundle sampleWebPlatform sampleKeccak
    sampleCrypto sampleBundle.value = .ok sampleBundle := by
  have h : (verifyPrivateReceiptBundle sampleWebPlatform sampleKeccak sampleCrypto
      sampleBundle.value).toOption = some sampleBundle := by
    decide +kernel
  exact toOption_eq_some.mp h

/-- The bundle has a short text. -/
theorem sampleBundle_text : ∃ text,
    canonicalize sampleWebPlatform.toTextPlatform sampleBundle.value = .ok text ∧
      (utf8Bytes text).length ≤ 4096 := by
  have h : ((canonicalize sampleWebPlatform.toTextPlatform sampleBundle.value).toOption.any
      fun text => (utf8Bytes text).length ≤ 4096) = true := by
    decide +kernel
  obtain ⟨text, htext, hsize⟩ := (Option.any_eq_true _ _).mp h
  exact ⟨text, toOption_eq_some.mp htext, of_decide_eq_true hsize⟩

end SubmittedIt.Protocol
