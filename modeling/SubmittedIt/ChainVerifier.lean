/-
SubmittedIt/ChainVerifier.lean

The extension's own look at the chain (apps/extension/lib/chain-verifier.ts).

An event is looked up by its hash, and the transaction that is found is verified
for the event and the extension's key.  A client is what becomes of a program of
requests; SHA-256 gives a word.

Main result: `bundle_anchored_from_chain`, what a chain alone makes of an event of
a verified bundle.
-/
import SubmittedIt.AnchorDiscovery
import SubmittedIt.RelayUploads

namespace SubmittedIt.Protocol

open ContractClient (BlockTag Bytes32Text Chain MinedTransaction VerifyProg DiscoveryProg
  AnchorVerificationError AnchorVerificationExpectation AnchorDiscoveryExpectation
  VerifiedSubmissionReceiptAnchor)

open ReceiptCore (AddressText)

open Transaction

/-! ### Words -/

/-- The digits of a word, in their order. -/
def wordDigits : Text := ascii "0123456789abcdef"

/-- `BYTES32_PATTERN`. -/
def isBytes32 (text : Text) : Bool :=
  text.take 2 = ascii "0x" && (text.drop 2).length = 64 && (text.drop 2).all wordDigits.contains

/-- The word of a text. -/
def wordOf (text : Text) : Bytes32 :=
  BitVec.ofNat 256 (Nat.ofDigits 16 ((text.drop 2).map wordDigits.idxOf).reverse)

/-- A text that should be a canonical 32-byte word. -/
def bytes32Text (text : Text) : Bytes32Text :=
  if isBytes32 text = true then .canonical (wordOf text)
  else .other (String.ofList (text.map fun u => Char.ofNat u.toNat))

/-! ### Data -/

/-- `ExtensionRelayConfiguration`, as far as the chain is concerned. -/
structure ChainConfiguration where
  blockTag : BlockTag
  chainId : Int
  contractAddress : AddressText
  deploymentBlock : Nat
  expectedRuntimeBytecodeHash : Bytes32Text

/-- `PublicClient`. -/
structure PublicClient where
  verify : {α : Type} → VerifyProg α → Except AnchorVerificationError α
  discover : {α : Type} → DiscoveryProg α → Except AnchorVerificationError α

/-- What is thrown. -/
inductive ChainVerifierError
  | protocol (error : ReceiptProtocolError)
  /-- What decoding the key or importing it throws. -/
  | key
  | plain (message : String)
  | anchor (error : AnchorVerificationError)

section verifier

variable (W : WebPlatform) (C : CryptoProvider) (sha256 : List UInt8 → HashHex)
  (checksum : Address → BitVec 40) (keccak256 : List UInt8 → HashHex)

/-- `deriveExtensionKeyHash`; a key that is imported is one of P-256. -/
def deriveExtensionKeyHash (descriptorInput : JsValue) : Except ChainVerifierError Text := do
  let descriptor ← (parsePublicKeyDescriptor W.toReceiptPlatform descriptorInput
    (ascii "$.extensionPublicKey")).mapError .protocol
  let spki ← (base64UrlToBytes descriptor.value "$.extensionPublicKey.value").mapError fun _ => .key
  match C.importKey spki with
  | none => .error .key
  | some _ => .ok (hashText (sha256 spki))

/-- What `verifyExtensionEventAnchor` expects of the transaction. -/
def anchorExpectation (configuration : ChainConfiguration) (event : LifecycleEventEnvelope)
    (extensionKeyHash : Text) (transactionHash : Bytes32) : AnchorVerificationExpectation where
  authorityKeyHash := .canonical 0
  blockTag := configuration.blockTag
  chainId := configuration.chainId
  contractAddress := configuration.contractAddress
  eventCount := if event.core.stage = .attempted then 1 else 2
  eventHash := bytes32Text event.eventHash
  expectedRuntimeBytecodeHash := some configuration.expectedRuntimeBytecodeHash
  extensionKeyHash := bytes32Text extensionKeyHash
  previousEventHash := bytes32Text event.core.previousEventHash
  protocolVersion := none
  receiptId := bytes32Text event.core.receiptId
  stage := event.core.stage
  transactionHash := transactionHash

/-- `verifyExtensionEventAnchor`. -/
def verifyExtensionEventAnchor (client : PublicClient) (configuration : ChainConfiguration)
    (eventInput keyInput : JsValue) (transactionHash : Bytes32) :
    Except ChainVerifierError VerifiedSubmissionReceiptAnchor := do
  let event ←
    (parseEventEnvelope W.toReceiptPlatform eventInput (ascii "$.event")).mapError .protocol
  let publicKey ← (parsePublicKeyDescriptor W.toReceiptPlatform keyInput
    (ascii "$.extensionPublicKey")).mapError .protocol
  revertIf ((event.core.stage ≠ .attempted ∧ event.core.stage ≠ .siteConfirmed) ∨
      event.extensionSignature = none ∨ event.authoritySignature ≠ none ∨ event.chainAnchor ≠ none)
    (.plain "Only an unanchored signed local lifecycle event can be verified here.")
  let extensionKeyHash ← deriveExtensionKeyHash W C sha256 publicKey.write
  (client.verify (ContractClient.verifySubmissionReceiptAnchor checksum keccak256
    (anchorExpectation configuration event extensionKeyHash transactionHash))).mapError .anchor

/-- What `discoverExtensionEventAnchor` looks for. -/
def discoveryExpectation (configuration : ChainConfiguration) (event : LifecycleEventEnvelope) :
    AnchorDiscoveryExpectation where
  chainId := configuration.chainId
  contractAddress := configuration.contractAddress
  eventHash := bytes32Text event.eventHash
  fromBlock := configuration.deploymentBlock
  receiptId := bytes32Text event.core.receiptId
  toBlock := .tag configuration.blockTag

/-- `discoverExtensionEventAnchor`. -/
def discoverExtensionEventAnchor (client : PublicClient) (configuration : ChainConfiguration)
    (eventInput : JsValue) : Except ChainVerifierError (Option Bytes32) := do
  let event ←
    (parseEventEnvelope W.toReceiptPlatform eventInput (ascii "$.event")).mapError .protocol
  revertIf (event.core.stage ≠ .attempted ∧ event.core.stage ≠ .siteConfirmed)
    (.plain "Only local lifecycle events can be discovered by this checkpoint.")
  (client.discover (ContractClient.findSubmissionReceiptAnchorTransaction checksum
    (discoveryExpectation configuration event))).mapError .anchor

end verifier

/-! ### Texts of words -/

theorem hexDigit_idxOf {u : UInt16} (h : u ∈ wordDigits) :
    wordDigits.idxOf u < 16 ∧ Json.hexDigit (wordDigits.idxOf u) = u := by
  have hall : (wordDigits.all fun u => wordDigits.idxOf u < 16 &&
      Json.hexDigit (wordDigits.idxOf u) = u) = true := by
    decide +kernel
  have hdigit := List.all_eq_true.mp hall u h
  rwa [Bool.and_eq_true, decide_eq_true_eq, decide_eq_true_eq] at hdigit

/-- One digit of a number that is given by its digits. -/
theorem ofDigits_digit {digits : List Nat} (h : ∀ d ∈ digits, d < 16) {i : Nat}
    (hi : i < digits.length) : Nat.ofDigits 16 digits / 16 ^ i % 16 = digits[i] := by
  rw [Nat.ofDigits_div_pow_eq_ofDigits_drop i (by decide) digits h, List.drop_eq_getElem_cons hi,
    Nat.ofDigits_cons, Nat.add_mul_mod_self_left]
  exact Nat.mod_eq_of_lt (h _ (List.getElem_mem hi))

/-- **The word of a text has that text.** -/
theorem hashText_wordOf {text : Text} (h : isBytes32 text = true) :
    hashText (wordOf text) = text := by
  rw [isBytes32, Bool.and_eq_true, Bool.and_eq_true, decide_eq_true_eq, decide_eq_true_eq,
    List.all_eq_true] at h
  obtain ⟨⟨hstart, hlength⟩, hdigits⟩ := h
  have hknown : ∀ u ∈ text.drop 2, u ∈ wordDigits :=
    fun u hu => List.contains_iff_mem.mp (hdigits u hu)
  have hsmall : ∀ d ∈ ((text.drop 2).map wordDigits.idxOf).reverse, d < 16 := by
    intro d hd
    obtain ⟨u, hu, rfl⟩ := List.mem_map.mp (List.mem_reverse.mp hd)
    exact (hexDigit_idxOf (hknown u hu)).1
  have hbound : Nat.ofDigits 16 ((text.drop 2).map wordDigits.idxOf).reverse < 2 ^ 256 := by
    have hpower := Nat.ofDigits_lt_base_pow_length (by decide : 1 < 16) hsmall
    rw [List.length_reverse, List.length_map, hlength] at hpower
    exact hpower
  suffices hrest : ((List.range 64).map fun i =>
      Json.hexDigit ((wordOf text >>> (4 * (63 - i))).toNat % 16)) = text.drop 2 by
    rw [hashText, hrest, ← hstart, List.take_append_drop]
  apply List.ext_getElem
  · rw [List.length_map, List.length_range, hlength]
  · intro i hi hi'
    rw [List.length_map, List.length_range] at hi
    rw [List.getElem_map, List.getElem_range, wordOf, BitVec.toNat_ushiftRight, BitVec.toNat_ofNat,
      Nat.mod_eq_of_lt hbound, Nat.shiftRight_eq_div_pow, Nat.pow_mul]
    have hplace : 63 - i < ((text.drop 2).map wordDigits.idxOf).reverse.length := by
      rw [List.length_reverse, List.length_map, hlength]
      omega
    rw [show (2 : Nat) ^ 4 = 16 from rfl, ofDigits_digit hsmall hplace, List.getElem_reverse,
      List.getElem_map]
    have hindex : ((text.drop 2).map wordDigits.idxOf).length - 1 - (63 - i) = i := by
      rw [List.length_map, hlength]
      omega
    simp only [hindex]
    exact (hexDigit_idxOf (hknown _ (List.getElem_mem hi'))).2

theorem isBytes32_hashText (word : HashHex) : isBytes32 (hashText word) = true := by
  have hdigit : ∀ d < 16, wordDigits.contains (Json.hexDigit d) = true := by decide
  rw [isBytes32, Bool.and_eq_true, Bool.and_eq_true, decide_eq_true_eq, decide_eq_true_eq,
    List.all_eq_true]
  refine ⟨⟨rfl, ?_⟩, ?_⟩
  · show ((List.range 64).map _).length = 64
    rw [List.length_map, List.length_range]
  · intro u hu
    obtain ⟨i, -, rfl⟩ := List.mem_map.mp (show u ∈ (List.range 64).map fun i =>
      Json.hexDigit ((word >>> (4 * (63 - i))).toNat % 16) from hu)
    exact hdigit _ (Nat.mod_lt _ (by decide))

/-- A text is canonical as the word that it is the text of. -/
theorem bytes32Text_eq {text : Text} {word : Bytes32} :
    bytes32Text text = .canonical word ↔ hashText word = text := by
  rw [bytes32Text]
  constructor
  · intro h
    split at h
    · next hbytes =>
      obtain rfl := Bytes32Text.canonical.inj h
      exact hashText_wordOf hbytes
    · cases h
  · rintro rfl
    rw [if_pos (isBytes32_hashText word),
      hashText_injective (hashText_wordOf (isBytes32_hashText word))]

/-- A parsed hash is the text of a word. -/
theorem word_of_normalized {v : JsValue} {p text : Text} (h : normalizeHash v p = .ok text) :
    ∃ word, hashText word = text := by
  obtain ⟨hmatch, -, hlower⟩ := normalizeHash_eq_ok h
  rw [matchesHex, Bool.and_eq_true, Bool.and_eq_true, decide_eq_true_eq, decide_eq_true_eq,
    List.all_eq_true] at hmatch
  obtain ⟨⟨hstart, hlength⟩, hdigits⟩ := hmatch
  refine ⟨wordOf text, hashText_wordOf ?_⟩
  rw [isBytes32, Bool.and_eq_true, Bool.and_eq_true, decide_eq_true_eq, decide_eq_true_eq,
    List.all_eq_true]
  refine ⟨⟨hstart, hlength⟩, fun u hu => ?_⟩
  have hdigit := hdigits u hu
  have hsame : lowerUnit u = u := by
    have hall : ∀ u ∈ text, lowerUnit u = u := by
      rw [← List.map_inj_left, hlower, List.map_id']
    exact hall u (List.mem_of_mem_drop hu)
  have hrange : (48 ≤ u.toNat ∧ u.toNat ≤ 57) ∨ (97 ≤ u.toNat ∧ u.toNat ≤ 102) := by
    simp only [isHexDigit, Json.isDigit, Bool.or_eq_true, Bool.and_eq_true, decide_eq_true_eq,
      UInt16.le_iff_toNat_le, UInt16.reduceToNat] at hdigit
    rw [lowerUnit] at hsame
    split at hsame
    · have hnat := congrArg UInt16.toNat hsame
      rw [UInt16.toNat_add] at hnat
      have hlt := u.toNat_lt
      simp only [UInt16.reduceToNat] at hnat
      omega
    · next hupper =>
      simp only [UInt16.le_iff_toNat_le, UInt16.reduceToNat] at hupper
      omega
  have hall : ∀ n < 103, (48 ≤ n ∧ n ≤ 57) ∨ (97 ≤ n ∧ n ≤ 102) →
      wordDigits.contains (UInt16.ofNat n) = true := by
    decide +kernel
  have hknown := hall u.toNat (by omega) hrange
  rwa [UInt16.ofNat_toNat] at hknown

/-! ### Events and the chain -/

/-- The hashes of a parsed event are texts of words. -/
theorem words_of_event {W : WebPlatform} {v : JsValue} {p : Text} {event : LifecycleEventEnvelope}
    (h : parseEventEnvelope W.toReceiptPlatform v p = .ok event) :
    (∃ word, hashText word = event.core.receiptId) ∧ (∃ word, hashText word = event.eventHash) ∧
      ∃ word, hashText word = event.core.previousEventHash := by
  obtain ⟨-, value, -, hfields⟩ := parseEventEnvelope_eq_ok.mp h
  obtain ⟨-, hcore, -, -, -, hhash⟩ := hfields p
  obtain ⟨members, -, hcoreFields⟩ := parseEventCore_eq_ok.mp hcore
  obtain ⟨-, -, hprevious, hreceipt, -⟩ := hcoreFields p
  exact ⟨word_of_normalized hreceipt, word_of_normalized hhash, word_of_normalized hprevious⟩

/-- The configuration is that of the registry of the chain. -/
structure ChainConfiguration.Of (configuration : ChainConfiguration)
    (checksum : Address → BitVec 40) (keccak256 : List UInt8 → HashHex) (c : Chain) : Prop where
  chainId : configuration.chainId = c.chainId
  contractAddress : ∃ upper, configuration.contractAddress = .hex c.registry upper
  address : ContractClient.isAddress checksum configuration.contractAddress = true
  bytecodeHash : configuration.expectedRuntimeBytecodeHash = .canonical (keccak256 c.bytecode)

/-- A client of nodes that answer from the chain. -/
def honestClient (c : Chain) (env : Nat → (o : ContractClient.RpcRequest) → Option Nat)
    (events : Nat → (o : ContractClient.DiscoveryRequest) → Option Nat) : PublicClient where
  verify := ContractClient.runFrom c env 0
  discover := ContractClient.eventsFrom c events 0

/-- The registry's event is of the event's receipt and hash. -/
def IsOf (event : LifecycleEventEnvelope) (e : ReceiptEventAnchored) : Prop :=
  hashText e.receiptId = event.core.receiptId ∧ hashText e.eventHash = event.eventHash

/-- A transaction that was sent to the registry anchored the event as it is, under
the key. -/
structure Faithful {registry : Address} (event : LifecycleEventEnvelope) (keyHash : HashHex)
    (m : MinedTransaction registry) (e : ReceiptEventAnchored) : Prop where
  direct : m.transaction.destination = some registry
  previousEventHash : hashText e.previousEventHash = event.core.previousEventHash
  extensionKeyHash : e.extensionKeyHash = keyHash
  stage : ContractClient.toContractReceiptStage event.core.stage =
    stageNumber e.stage

section laws

variable {W : WebPlatform} {C : CryptoProvider} {sha256 : List UInt8 → HashHex}
  {checksum : Address → BitVec 40} {keccak256 : List UInt8 → HashHex} {c : Chain}
  {configuration : ChainConfiguration} {event : LifecycleEventEnvelope}
  {m : MinedTransaction c.registry} {e : ReceiptEventAnchored}
  {env : Nat → (o : ContractClient.RpcRequest) → Option Nat}
  {events : Nat → (o : ContractClient.DiscoveryRequest) → Option Nat}

/-- A local event is the first or the second of its receipt. -/
theorem count_of_stage {stage : EventStage} {s : ReceiptStage} {n : Nat}
    (hlocal : stage = .attempted ∨ stage = .siteConfirmed)
    (hstage : ContractClient.toContractReceiptStage stage = stageNumber s)
    (hn : n ∈ stageCounts s) : (if stage = .attempted then (1 : Int) else 2) = n := by
  rcases hlocal with rfl | rfl
  · cases s with
    | attempted =>
      obtain rfl := List.mem_singleton.mp hn
      rfl
    | none | siteConfirmed | authorityAccepted | authorityRejected =>
      exact absurd hstage (by decide)
  · cases s with
    | siteConfirmed =>
      obtain rfl := List.mem_singleton.mp hn
      rfl
    | none | attempted | authorityAccepted | authorityRejected =>
      exact absurd hstage (by decide)

/-- What is expected of the transaction is true of it exactly if it anchored the
event as it is. -/
theorem claims_iff (hconfiguration : configuration.Of checksum keccak256 c) (hm : m ∈ c.mined)
    (he : .anchored e ∈ m.receipt.logs) (hof : IsOf event e) (keyHash : HashHex)
    (hlocal : event.core.stage = .attempted ∨ event.core.stage = .siteConfirmed) :
    (m.transaction.destination = some c.registry ∧
      ContractClient.Claims checksum keccak256 c m e
        (anchorExpectation configuration event (hashText keyHash) m.transaction.hash)) ↔
      Faithful event keyHash m e := by
  constructor
  · rintro ⟨hdirect, hclaims⟩
    refine ⟨hdirect, bytes32Text_eq.mp hclaims.previousEventHash, ?_, hclaims.stage⟩
    exact hashText_injective (bytes32Text_eq.mp hclaims.extensionKeyHash)
  · intro hfaithful
    have hlogged := Chain.logged_upTo (Chain.mem_upTo hm le_rfl) he
    have hcovers := ContractClient.covers_of_logged (c.upTo_invariant _) hlogged
    have hcount := ContractClient.eventCount_mem (c.upTo_invariant _) hlogged
    obtain ⟨-, -, -, -, -, hversion, -⟩ := ContractClient.receipt_direct hm hfaithful.direct he
    have hstage := hfaithful.stage
    have hlocalStage : isTerminal e.stage = false := by
      rw [← ContractClient.isAuthority_of_stage hstage]
      rcases hlocal with h | h
      · rw [h]
        rfl
      · rw [h]
        rfl
    refine ⟨hfaithful.direct, hconfiguration.chainId, hconfiguration.contractAddress,
      hconfiguration.address, bytes32Text_eq.mpr hof.1, bytes32Text_eq.mpr hof.2,
      bytes32Text_eq.mpr hfaithful.previousEventHash,
      bytes32Text_eq.mpr (congrArg hashText hfaithful.extensionKeyHash), ?_, hstage, ?_, ?_, ?_,
      rfl⟩
    · have hzero : e.authorityKeyHash = 0 := by
        by_contra hne
        rw [hcovers.authority.mp hne] at hlocalStage
        cases hlocalStage
      rw [hzero]
      rfl
    · exact count_of_stage hlocal hstage hcount
    · rw [hversion]
      rfl
    · rintro hash ⟨⟩
      exact hconfiguration.bytecodeHash

/-- What is discovered of an event. -/
theorem discover_honest {v : JsValue} (hconfiguration : configuration.Of checksum keccak256 c)
    (hevent : parseEventEnvelope W.toReceiptPlatform v (ascii "$.event") = .ok event)
    (hlocal : event.core.stage = .attempted ∨ event.core.stage = .siteConfirmed) {head : Nat}
    (hanswers : ContractClient.AnswersAt events head) :
    ∃ found, discoverExtensionEventAnchor W checksum (honestClient c env events) configuration v =
        .ok found ∧
      ∀ hash, found = some hash ↔ ∃ m e, c.Logged m e configuration.deploymentBlock head ∧
        IsOf event e ∧ m.transaction.hash = hash := by
  obtain ⟨⟨receiptId, hreceiptId⟩, ⟨eventHash, heventHash⟩, -⟩ := words_of_event hevent
  have hnames : ContractClient.Names checksum c (discoveryExpectation configuration event) receiptId
      eventHash := by
    refine ⟨hconfiguration.chainId, hconfiguration.contractAddress, hconfiguration.address, ?_, ?_⟩
    · exact bytes32Text_eq.mpr hreceiptId
    · exact bytes32Text_eq.mpr heventHash
  obtain ⟨found, hfound, hexact⟩ := ContractClient.find_honest hnames hanswers
  refine ⟨found, ?_, fun hash => (hexact hash).trans ?_⟩
  · have hlocal' : ¬(event.core.stage ≠ .attempted ∧ event.core.stage ≠ .siteConfirmed) := by
      rintro ⟨hfirst, hsecond⟩
      exact hlocal.elim hfirst hsecond
    simp only [discoverExtensionEventAnchor, bind_eq_ok, mapError_eq_ok, revertIf_eq_ok]
    exact ⟨event, hevent, (), hlocal', hfound⟩
  · constructor
    · rintro ⟨m, e, hlogged, rfl, rfl, hhash⟩
      exact ⟨m, e, hlogged, ⟨hreceiptId, heventHash⟩, hhash⟩
    · rintro ⟨m, e, hlogged, ⟨hreceipt, hhash⟩, htransaction⟩
      exact ⟨m, e, hlogged, hashText_injective (hreceipt.trans hreceiptId.symm),
        hashText_injective (hhash.trans heventHash.symm), htransaction⟩

/-- The key of a signature that verifies has a hash. -/
theorem deriveExtensionKeyHash_of_verified {v w : JsValue}
    (h : verifyExtensionEventSignature W keccak256 C v w = true) :
    ∃ keyHash, deriveExtensionKeyHash W C sha256 w = .ok (hashText keyHash) := by
  have hpathless := (parsePublicKeyDescriptor_parses (Q := W.toReceiptPlatform)).anywhere
  simp only [verifyExtensionEventSignature, decide_eq_true_eq, Option.bind_eq_bind,
    Option.bind_eq_some_iff] at h
  obtain ⟨_, -, ⟨descriptor, imported⟩, hkey, -⟩ := h
  simp only [importVerificationKey, Option.bind_eq_bind, Option.bind_eq_some_iff, accept_eq_some,
    toOption_eq_some] at hkey
  obtain ⟨found, hdescriptor, spki, hspki, key, himported, -⟩ := hkey
  refine ⟨sha256 spki, ?_⟩
  simp only [deriveExtensionKeyHash, bind_eq_ok, mapError_eq_ok]
  refine ⟨found, hpathless hdescriptor _, spki, hspki, ?_⟩
  rw [himported]

/-- A signature that verifies is there. -/
theorem signature_of_verified {v w : JsValue}
    (hevent : ∀ q, parseEventEnvelope W.toReceiptPlatform v q = .ok event)
    (h : verifyExtensionEventSignature W keccak256 C v w = true) :
    event.extensionSignature ≠ none := by
  simp only [verifyExtensionEventSignature, decide_eq_true_eq, Option.bind_eq_bind,
    Option.bind_eq_some_iff, accept_eq_some] at h
  obtain ⟨found, hfound, _, -, signature, hsignature, -⟩ := h
  obtain rfl := Except.ok.inj ((hevent _).symm.trans hfound)
  rw [hsignature]
  exact Option.some_ne_none signature

/-- What is verified of an event of a bundle, with the client's answer. -/
theorem verifyExtensionEventAnchor_eq_ok {client : PublicClient} {receipt : Receipt}
    (hrelayable : Relayable W keccak256 C receipt event) (hanchor : event.chainAnchor = none)
    (hkey : ∀ q, parsePublicKeyDescriptor W.toReceiptPlatform receipt.extensionPublicKey.write q =
      .ok receipt.extensionPublicKey) {keyHash : HashHex}
    (hkeyHash : deriveExtensionKeyHash W C sha256 receipt.extensionPublicKey.write =
      .ok (hashText keyHash)) {hash : Bytes32} {verified : VerifiedSubmissionReceiptAnchor} :
    verifyExtensionEventAnchor W C sha256 checksum keccak256 client configuration event.value
        receipt.extensionPublicKey.write hash = .ok verified ↔
      client.verify (ContractClient.verifySubmissionReceiptAnchor checksum keccak256
        (anchorExpectation configuration event (hashText keyHash) hash)) = .ok verified := by
  have hlocal : ¬((event.core.stage ≠ .attempted ∧ event.core.stage ≠ .siteConfirmed) ∨
      event.extensionSignature = none ∨ event.authoritySignature ≠ none ∨
        event.chainAnchor ≠ none) := by
    rintro (⟨hfirst, hsecond⟩ | hunsigned | hauthority | hanchored)
    · exact hrelayable.stage.elim hfirst hsecond
    · exact signature_of_verified hrelayable.normal hrelayable.verified hunsigned
    · exact hauthority (unsigned_of_relayStage (hrelayable.normal []) hrelayable.stage)
    · exact hanchored hanchor
  simp only [verifyExtensionEventAnchor, bind_eq_ok, mapError_eq_ok, revertIf_eq_ok,
    hrelayable.normal, hkey, Except.ok.injEq]
  constructor
  · rintro ⟨_, rfl, _, rfl, -, -, text, htext, hverified⟩
    obtain rfl := Except.ok.inj (hkeyHash.symm.trans htext)
    exact hverified
  · intro hverified
    exact ⟨event, rfl, receipt.extensionPublicKey, rfl, (), hlocal, _, hkeyHash, hverified⟩

/-- **Verification is exact** for an event that a transaction logged: it succeeds
exactly if the transaction anchored the event as it is. -/
theorem verify_iff_faithful (hconfiguration : configuration.Of checksum keccak256 c)
    (hdates : ∀ block ∈ c.blocks, block.timestamp.toNat * 1000 ≤ 8640000000000000)
    (hm : m ∈ c.mined) (he : .anchored e ∈ m.receipt.logs) (hof : IsOf event e)
    (keyHash : HashHex) (hlocal : event.core.stage = .attempted ∨ event.core.stage = .siteConfirmed)
    (henv : ∀ n o, ∃ head, env n o = some head ∧ m.receipt.blockNumber ≤ head)
    {verified : VerifiedSubmissionReceiptAnchor} :
    ContractClient.runFrom c env 0 (ContractClient.verifySubmissionReceiptAnchor checksum keccak256
        (anchorExpectation configuration event (hashText keyHash) m.transaction.hash)) =
          .ok verified ↔
      Faithful event keyHash m e ∧ verified = ContractClient.verifiedAs m e event.core.stage := by
  constructor
  · intro h
    obtain ⟨m', hm', e', hdirect, he', hclaims, -, rfl⟩ := ContractClient.verification_sound h
    have hhash : m'.transaction.hash = m.transaction.hash := hclaims.transactionHash.symm
    obtain rfl := List.inj_on_of_nodup_map c.hashes hm' hm hhash
    have hsame : e'.eventHash = e.eventHash :=
      hashText_injective ((bytes32Text_eq.mp hclaims.eventHash).trans hof.2.symm)
    obtain ⟨-, rfl⟩ := Chain.anchored_unique hm hm he' he hsame
    exact ⟨(claims_iff hconfiguration hm he hof keyHash hlocal).mp ⟨hdirect, hclaims⟩, rfl⟩
  · rintro ⟨hfaithful, rfl⟩
    obtain ⟨hdirect, hclaims⟩ := (claims_iff hconfiguration hm he hof keyHash hlocal).mpr hfaithful
    exact ContractClient.verification_complete hdates hm hdirect he hclaims henv

/-- The evidence that is saved of an event that was verified. -/
def chainEvidence (checksum : Address → BitVec 40) {c : Chain} (m : MinedTransaction c.registry)
    (e : ReceiptEventAnchored) (stage : EventStage) : ChainAnchorMetadata :=
  verifiedEvidence checksum (ContractClient.verifiedAs m e stage)

/-- **What a chain alone makes of an event of a verified bundle.**  The transaction
that logged the event is found, if it is in a block from the deployment on that the
node has; it is verified exactly if it anchored the event as it is, under the
bundle's key; and what is verified is attached to the bundle, exactly if its date
has a year of four digits. -/
theorem bundle_anchored_from_chain {input : JsValue} {bundle : PrivateReceiptBundle}
    (hbundle : verifyPrivateReceiptBundle W keccak256 C input = .ok bundle) {index : Nat}
    (hindex : FoundAt bundle event index) (hanchor : event.chainAnchor = none)
    (hconfiguration : configuration.Of checksum keccak256 c)
    (hdates : ∀ block ∈ c.blocks, block.timestamp.toNat * 1000 ≤ 8640000000000000) {head : Nat}
    (hanswers : ContractClient.AnswersAt events head) :
    ∃ keyHash found,
      deriveExtensionKeyHash W C sha256 bundle.receipt.extensionPublicKey.write =
        .ok (hashText keyHash) ∧
      discoverExtensionEventAnchor W checksum (honestClient c env events) configuration
        event.value = .ok found ∧
      (∀ hash, found = some hash ↔ ∃ m e, c.Logged m e configuration.deploymentBlock head ∧
        IsOf event e ∧ m.transaction.hash = hash) ∧
      ∀ m e, c.Logged m e configuration.deploymentBlock head → IsOf event e →
        (∀ n o, ∃ head, env n o = some head ∧ m.receipt.blockNumber ≤ head) →
          (∀ verified, verifyExtensionEventAnchor W C sha256 checksum keccak256
              (honestClient c env events) configuration event.value
              bundle.receipt.extensionPublicKey.write m.transaction.hash = .ok verified ↔
            Faithful event keyHash m e ∧
              verified = ContractClient.verifiedAs m e event.core.stage) ∧
          (Faithful event keyHash m e → ∀ time normalized result,
            (∀ q, normalizeTimestamp (.string time) q = .ok normalized) →
            (attachVerifiedChainAnchor W keccak256 C input event.eventHash
                (chainEvidence checksum m e event.core.stage) time = .ok result ↔
              InFourDigitYears (e.anchoredAt.toNat * 1000 : Nat) ∧ result =
                bundle.anchored index (chainEvidence checksum m e event.core.stage).lower
                  normalized)) := by
  obtain ⟨hkey, hevents⟩ := relayable_of_verified hbundle
  have hrelayable := hevents event (List.mem_of_getElem? hindex.there)
  obtain ⟨keyHash, hkeyHash⟩ : ∃ keyHash, deriveExtensionKeyHash W C sha256
      bundle.receipt.extensionPublicKey.write = .ok (hashText keyHash) :=
    deriveExtensionKeyHash_of_verified hrelayable.verified
  obtain ⟨found, hfound, hexact⟩ := discover_honest hconfiguration (hrelayable.normal _)
    hrelayable.stage hanswers
  refine ⟨keyHash, found, hkeyHash, hfound, hexact, fun m e hlogged hof henv =>
    ⟨fun verified => ?_, fun hfaithful time normalized result htime => ?_⟩⟩
  · rw [verifyExtensionEventAnchor_eq_ok hrelayable hanchor hkey hkeyHash]
    exact verify_iff_faithful hconfiguration hdates hlogged.1 hlogged.2.1 hof keyHash
      hrelayable.stage henv
  · have hrun := (verify_iff_faithful hconfiguration hdates hlogged.1 hlogged.2.1 hof keyHash
      hrelayable.stage henv).mpr ⟨hfaithful, rfl⟩
    have hevidence := chainEvidence_verified (Prod.ext hrun rfl)
    refine (attach_evidence_eq_ok hbundle hindex hevidence htime).trans ?_
    rw [hanchor]
    constructor
    · rintro ⟨hyears, -, hresult⟩
      exact ⟨hyears, hresult⟩
    · rintro ⟨hyears, hresult⟩
      refine ⟨hyears, fun stored hstored => ?_, hresult⟩
      cases hstored

end laws

/-! ### A chain with the event of the sample -/

/-- What anchors the event of the sample, under a key of the hash. -/
def sampleArguments (keyHash : HashHex) : ContractClient.CallArguments where
  receiptId := wordOf sampleSignedEvent.core.receiptId
  eventHash := wordOf sampleSignedEvent.eventHash
  previousEventHash := wordOf sampleSignedEvent.core.previousEventHash
  extensionKeyHash := keyHash
  authorityKeyHash := 0
  stage := .attempted

/-- A chain whose second block anchors the event. -/
def sampleEventChain : Chain := { ContractClient.sampleChain with
  blocks := [⟨1767225600, 3, []⟩, ⟨1767225601, 4, [⟨9, 2, .anchor (sampleArguments 13)⟩]⟩]
  hashes_nodup := List.nodup_singleton _ }

def sampleConfigured : ChainConfiguration where
  blockTag := .finalized
  chainId := 10143
  contractAddress := .hex 1 0
  deploymentBlock := 5
  expectedRuntimeBytecodeHash := .canonical (sampleKeccak [1])

theorem sampleConfigured_of : sampleConfigured.Of (fun _ => 0) sampleKeccak sampleEventChain where
  chainId := rfl
  contractAddress := ⟨0, rfl⟩
  address := rfl
  bytecodeHash := rfl

/-- The event as the registry logs it. -/
def sampleLogged : ReceiptEventAnchored :=
  ⟨wordOf sampleSignedEvent.core.receiptId, wordOf sampleSignedEvent.eventHash, 2,
    wordOf sampleSignedEvent.core.previousEventHash, 13, 0, .attempted, 1767225601, 1, 1⟩

def sampleTransaction : MinedTransaction sampleEventChain.registry :=
  ⟨⟨9, 2, .anchor (sampleArguments 13)⟩, ⟨true, some 1, 9, 6, 4, [.anchored sampleLogged]⟩⟩

theorem sampleLogged_isOf : IsOf sampleSignedEvent sampleLogged :=
  ⟨hashText_wordOf (by decide +kernel), hashText_wordOf (by decide +kernel)⟩

/-- The event of the sample is found on the chain, verified and attached. -/
theorem bundle_anchored_from_chain_sample : ∃ verified result,
    discoverExtensionEventAnchor sampleWebPlatform (fun _ => 0)
        (honestClient sampleEventChain (fun _ _ => some 6) (fun _ _ => some 6)) sampleConfigured
        sampleSignedEvent.value = .ok (some 9) ∧
      verifyExtensionEventAnchor sampleWebPlatform sampleCrypto (fun _ => 13) (fun _ => 0)
        sampleKeccak (honestClient sampleEventChain (fun _ _ => some 6) (fun _ _ => some 6))
        sampleConfigured sampleSignedEvent.value sampleSignedReceipt.extensionPublicKey.write 9 =
          .ok verified ∧
      attachVerifiedChainAnchor sampleWebPlatform sampleKeccak sampleCrypto sampleBundle.value
        sampleSignedEvent.eventHash (verifiedEvidence (fun _ => 0) verified)
        (ascii "2026-01-01T00:00:20.000Z") = .ok result := by
  have hindex : FoundAt sampleBundle sampleSignedEvent 0 := ⟨rfl, by decide +kernel⟩
  have hanswers : ContractClient.AnswersAt (fun _ _ => some 6) 6 := ⟨⟨6, rfl⟩, fun _ => rfl⟩
  obtain ⟨keyHash, found, hkeyHash, hfound, hexact, hverifies⟩ :=
    @bundle_anchored_from_chain sampleWebPlatform sampleCrypto (fun _ => 13) (fun _ => 0)
      sampleKeccak sampleEventChain sampleConfigured sampleSignedEvent (fun _ _ => some 6) _ _ _
      sampleBundle_verified _ hindex rfl sampleConfigured_of (by decide) _ hanswers
  have hlogged : sampleEventChain.Logged sampleTransaction sampleLogged 5 6 :=
    ⟨by decide +kernel, List.mem_singleton_self _, by decide, by decide⟩
  obtain rfl : found = some 9 :=
    (hexact 9).mpr ⟨sampleTransaction, sampleLogged, hlogged, sampleLogged_isOf, rfl⟩
  have hkey : keyHash = 13 := by
    simp only [deriveExtensionKeyHash, bind_eq_ok, mapError_eq_ok] at hkeyHash
    obtain ⟨_, -, _, -, hsome⟩ := hkeyHash
    exact (hashText_injective (Except.ok.inj hsome)).symm
  have hfaithful : Faithful sampleSignedEvent keyHash sampleTransaction sampleLogged :=
    ⟨rfl, hashText_wordOf (by decide +kernel), hkey.symm, rfl⟩
  obtain ⟨hverified, hattached⟩ := hverifies _ _ hlogged sampleLogged_isOf
    fun _ _ => ⟨6, rfl, by decide⟩
  refine ⟨_, _, hfound, (hverified _).mpr ⟨hfaithful, rfl⟩, (hattached hfaithful _ _ _
    sampleTime_normal).mpr ⟨⟨by decide, by decide⟩, rfl⟩⟩

end SubmittedIt.Protocol
