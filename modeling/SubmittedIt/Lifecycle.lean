/-
SubmittedIt/Lifecycle.lean

Event chains of packages/receipt-core (protocol.ts and lifecycle.ts).

`validateEventChain` reads a list of unknown values.  Decoding one of them
into an envelope is the parameter `decode`, which nothing here assumes
anything about: the parser gives the same value at every path and mentions
the path in its error only, so a failed decoding is a function from the path
to the error.  Hashing is the parameter `keccak`.

The source keeps the chain in mutable variables; here they are the fields of
`ChainState`, one iteration of its loop is `chainStep`, and the loop is the
library's `replay`.  `ChainAccepts` lists the checks of an iteration and
`chainStep_eq_ok` is the inversion lemma later proofs go through.
-/
import SubmittedIt.ReceiptTypes

namespace SubmittedIt.ReceiptCore

open Transaction

/-! ### protocol.ts -/

/-- What decoding an unknown value into an event envelope gives; an error is
told the path at which the value was found. -/
abbrev Decoder (Raw : Type) := Raw → Except (String → ProtocolError) LifecycleEventEnvelope

/-- An address as it is configured: hexadecimal digits, the letters among
them in upper case where `upper` has its bit set, or any other string. -/
inductive AddressText
  | hex (value : Address) (upper : BitVec 40)
  | other (text : String)
  deriving DecidableEq

/-- `normalizeAddress`: the digits in lower case. -/
def normalizeAddress (address : AddressText) (path : String) : Except ProtocolError AddressHex :=
  match address with
  | .hex value _ => .ok value
  | .other _ =>
    .error ⟨"INVALID_ADDRESS", "must be a 20-byte 0x-prefixed hexadecimal value.", path⟩

/-- `normalizePositiveSafeInteger`, on integers. -/
def normalizePositiveSafeInteger (value : Int) (path : String) : Except ProtocolError Nat :=
  if value < 0 ∨ value > 2 ^ 53 - 1 then
    .error ⟨"INVALID_INTEGER", "must be a non-negative safe integer.", path⟩
  else if value = 0 then .error ⟨"INVALID_INTEGER", "must be greater than zero.", path⟩
  else .ok value.toNat

section protocol

variable {Raw : Type} (decode : Decoder Raw) (keccak : Keccak)

/-- `parseEventEnvelope`. -/
def parseEventEnvelope (item : Raw) (path : String) : Except ProtocolError LifecycleEventEnvelope :=
  match decode item with
  | .ok event => .ok event
  | .error e => .error (e path)

/-- `hashEventCore`. -/
def hashEventCore (core : LifecycleEventCore) : HashHex := keccak (.event core)

/-- `parseHashedEventEnvelope`. -/
def parseHashedEventEnvelope (item : Raw) : Except ProtocolError LifecycleEventEnvelope := do
  let event ← parseEventEnvelope decode item "$.event"
  revertIf (event.eventHash ≠ hashEventCore keccak event.core)
    ⟨"EVENT_HASH_MISMATCH", "eventHash does not match the canonical event core.", "$.eventHash"⟩
  return event

/-- `createChainAnchorPayload`. -/
def createChainAnchorPayload (item : Raw) (chainId : Int) (contractAddress : AddressText) :
    Except ProtocolError ChainAnchorPayload := do
  let event ← parseHashedEventEnvelope decode keccak item
  let chainId ← normalizePositiveSafeInteger chainId "$.chainId"
  let contractAddress ← normalizeAddress contractAddress "$.contractAddress"
  return {
    chainId, contractAddress
    eventHash := event.eventHash
    previousEventHash := event.core.previousEventHash
    receiptId := event.core.receiptId
    schemaVersion := event.core.schemaVersion
    stage := event.core.stage }

end protocol

/-! ### lifecycle.ts -/

/-- `ALLOWED_TRANSITIONS`. -/
def ALLOWED_TRANSITIONS : LifecycleStage → List EventStage
  | .none => [.attempted]
  | .entered .attempted => [.siteConfirmed, .authorityAccepted, .authorityRejected]
  | .entered .siteConfirmed => [.authorityAccepted, .authorityRejected]
  | .entered .authorityAccepted => []
  | .entered .authorityRejected => []

/-- `isValidTransition`. -/
def isValidTransition (current : LifecycleStage) (requested : EventStage) : Bool :=
  requested ∈ ALLOWED_TRANSITIONS current

/-- The stage as the source spells it. -/
def eventStageText : EventStage → String
  | .attempted => "ATTEMPTED"
  | .siteConfirmed => "SITE_CONFIRMED"
  | .authorityAccepted => "AUTHORITY_ACCEPTED"
  | .authorityRejected => "AUTHORITY_REJECTED"

def lifecycleStageText : LifecycleStage → String
  | .none => "NONE"
  | .entered stage => eventStageText stage

/-- `assertValidTransition`. -/
def assertValidTransition (current : LifecycleStage) (requested : EventStage) :
    Except ProtocolError Unit :=
  revertIf (isValidTransition current requested = false)
    ⟨"INVALID_LIFECYCLE_TRANSITION",
      "cannot transition from " ++ lifecycleStageText current ++ " to " ++
        eventStageText requested ++ ".", "$.stage"⟩

/-- The variables of `validateEventChain` and the number of items read. -/
structure ChainState where
  index : Nat
  currentStage : LifecycleStage
  latestEventHash : HashHex
  receiptId : Option ReceiptId
  schemaVersion : Option SchemaVersion
  seenHashes : List HashHex

def ChainState.initial : ChainState where
  index := 0
  currentStage := .none
  latestEventHash := ZERO_HASH
  receiptId := none
  schemaVersion := none
  seenHashes := []

/-- `EventChainResult`. -/
structure EventChainResult where
  currentStage : LifecycleStage
  latestEventHash : HashHex
  receiptId : Option ReceiptId
  deriving DecidableEq

/-- The checks of an event against the events before it. -/
def checkLink (chain : ChainState) (path : String) (event : LifecycleEventEnvelope) :
    Except ProtocolError Unit :=
  if chain.index = 0 then
    revertIf (event.core.previousEventHash ≠ ZERO_HASH)
      ⟨"FIRST_EVENT_PREVIOUS_HASH", "the first event must use the zero previousEventHash.",
        path ++ ".core.previousEventHash"⟩
  else do
    revertIf (event.core.previousEventHash = ZERO_HASH)
      ⟨"LATER_EVENT_ZERO_HASH", "later events must not use the zero previousEventHash.",
        path ++ ".core.previousEventHash"⟩
    revertIf (event.core.previousEventHash ≠ chain.latestEventHash)
      ⟨"PREVIOUS_EVENT_HASH_MISMATCH",
        "previousEventHash does not link to the immediately preceding event.",
        path ++ ".core.previousEventHash"⟩
    revertIf (some event.core.receiptId ≠ chain.receiptId)
      ⟨"RECEIPT_ID_MISMATCH", "all events must share one receiptId.", path⟩
    revertIf (some event.core.schemaVersion ≠ chain.schemaVersion)
      ⟨"SCHEMA_VERSION_MISMATCH", "all events must share one schemaVersion.", path⟩

/-- The variables after an event. -/
def ChainState.push (chain : ChainState) (event : LifecycleEventEnvelope) : ChainState where
  index := chain.index + 1
  currentStage := .entered event.core.stage
  latestEventHash := event.eventHash
  receiptId := if chain.index = 0 then some event.core.receiptId else chain.receiptId
  schemaVersion := if chain.index = 0 then some event.core.schemaVersion else chain.schemaVersion
  seenHashes := event.eventHash :: chain.seenHashes

section lifecycle

variable {Raw : Type} (decode : Decoder Raw) (keccak : Keccak)

/-- One iteration of the loop of `validateEventChain`. -/
def chainStep (chain : ChainState) (item : Raw) : Except ProtocolError ChainState := do
  let path := "$.events[" ++ toString chain.index ++ "]"
  let event ← parseEventEnvelope decode item path
  revertIf (event.eventHash ≠ hashEventCore keccak event.core)
    ⟨"EVENT_HASH_MISMATCH", "eventHash does not match the canonical event core.", path⟩
  revertIf (event.eventHash ∈ chain.seenHashes)
    ⟨"DUPLICATE_EVENT_HASH", "contains a duplicate event hash.", path⟩
  checkLink chain path event
  assertValidTransition chain.currentStage event.core.stage
  return chain.push event

/-- `validateEventChain`. -/
def validateEventChain (input : List Raw) : Except ProtocolError EventChainResult := do
  let chain ← replay (chainStep decode keccak) ChainState.initial input
  return {
    currentStage := chain.currentStage
    latestEventHash := chain.latestEventHash
    receiptId := chain.receiptId }

end lifecycle

/-! ### Inversion -/

/-- The checks of one iteration. -/
structure ChainAccepts (keccak : Keccak) (chain : ChainState) (event : LifecycleEventEnvelope) :
    Prop where
  hashed : event.eventHash = hashEventCore keccak event.core
  unseen : event.eventHash ∉ chain.seenHashes
  first : chain.index = 0 → event.core.previousEventHash = ZERO_HASH
  later : chain.index ≠ 0 → event.core.previousEventHash ≠ ZERO_HASH ∧
    event.core.previousEventHash = chain.latestEventHash ∧
    some event.core.receiptId = chain.receiptId ∧
    some event.core.schemaVersion = chain.schemaVersion
  step : isValidTransition chain.currentStage event.core.stage = true

theorem parseEventEnvelope_eq_ok {Raw : Type} {decode : Decoder Raw} {item : Raw} {path : String}
    {event : LifecycleEventEnvelope} :
    parseEventEnvelope decode item path = .ok event ↔ decode item = .ok event := by
  unfold parseEventEnvelope
  rcases decode item with e | event' <;> simp

theorem checkLink_eq_ok {chain : ChainState} {path : String} {event : LifecycleEventEnvelope}
    {u : Unit} :
    checkLink chain path event = .ok u ↔
      (chain.index = 0 → event.core.previousEventHash = ZERO_HASH) ∧
      (chain.index ≠ 0 → event.core.previousEventHash ≠ ZERO_HASH ∧
        event.core.previousEventHash = chain.latestEventHash ∧
        some event.core.receiptId = chain.receiptId ∧
        some event.core.schemaVersion = chain.schemaVersion) := by
  unfold checkLink
  split
  case isTrue hzero => simp [hzero]
  case isFalse hne =>
    simp only [bind_eq_ok, exists_const, revertIf_eq_ok, not_not, hne, not_false_eq_true,
      forall_true_left, false_imp_iff, true_and, Ne]

variable {Raw : Type} {decode : Decoder Raw} {keccak : Keccak}

theorem parseHashedEventEnvelope_eq_ok {item : Raw} {event : LifecycleEventEnvelope} :
    parseHashedEventEnvelope decode keccak item = .ok event ↔
      decode item = .ok event ∧ event.eventHash = hashEventCore keccak event.core := by
  unfold parseHashedEventEnvelope
  simp only [bind_eq_ok, parseEventEnvelope_eq_ok, revertIf_eq_ok, exists_const, not_not]
  constructor
  · rintro ⟨event', hdecode, hhash, hpure⟩
    cases hpure
    exact ⟨hdecode, hhash⟩
  · rintro ⟨hdecode, hhash⟩
    exact ⟨event, hdecode, hhash, rfl⟩

theorem normalizeAddress_eq_ok {address : AddressText} {path : String} {a : AddressHex} :
    normalizeAddress address path = .ok a ↔ ∃ upper, address = .hex a upper := by
  unfold normalizeAddress
  rcases address with ⟨value, upper⟩ | text <;> simp

theorem normalizePositiveSafeInteger_eq_ok {value : Int} {path : String} {n : Nat} :
    normalizePositiveSafeInteger value path = .ok n ↔
      value = n ∧ 0 < n ∧ n ≤ 2 ^ 53 - 1 := by
  unfold normalizePositiveSafeInteger
  split_ifs <;> simp <;> omega

/-- An iteration succeeds exactly when the item decodes to an event that
passes every check. -/
theorem chainStep_eq_ok {chain chain' : ChainState} {item : Raw} :
    chainStep decode keccak chain item = .ok chain' ↔
      ∃ event, decode item = .ok event ∧ ChainAccepts keccak chain event ∧
        chain' = chain.push event := by
  unfold chainStep
  simp only [bind_eq_ok, parseEventEnvelope_eq_ok, revertIf_eq_ok, exists_const, not_not,
    checkLink_eq_ok, assertValidTransition, Bool.not_eq_false]
  constructor
  · rintro ⟨event, hdecode, hhash, hseen, hlink, hstep, hpure⟩
    cases hpure
    exact ⟨event, hdecode, ⟨hhash, hseen, hlink.1, hlink.2, hstep⟩, rfl⟩
  · rintro ⟨event, hdecode, h, rfl⟩
    exact ⟨event, hdecode, h.hashed, h.unseen, ⟨h.first, h.later⟩, h.step, rfl⟩

/-- The chain is accepted exactly when its loop runs to the end. -/
theorem validateEventChain_eq_ok {input : List Raw} {result : EventChainResult} :
    validateEventChain decode keccak input = .ok result ↔
      ∃ chain, replay (chainStep decode keccak) ChainState.initial input = .ok chain ∧
        result = ⟨chain.currentStage, chain.latestEventHash, chain.receiptId⟩ := by
  unfold validateEventChain
  rw [bind_eq_ok]
  constructor
  · rintro ⟨chain, hchain, hpure⟩
    exact ⟨chain, hchain, (Except.ok.inj hpure).symm⟩
  · rintro ⟨chain, hchain, rfl⟩
    exact ⟨chain, hchain, rfl⟩

end SubmittedIt.ReceiptCore
