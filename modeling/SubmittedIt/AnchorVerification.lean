/-
SubmittedIt/AnchorVerification.lean

Verifying an anchor against the chain
(packages/contract-client/src/verify.ts).

`verifySubmissionReceiptAnchor` asks a node and compares its answers.  A text
that has to be a 32-byte word is given by the word when it is the canonical
text of one; the empty runtime bytecode hash, which is not checked, is
`none`.  The five requests that are made at once, and the two after them, are
made one after the other here: the node answers each of them for a block of
its own choice, so their order does not matter.  viem's decoders give back
what the registry emitted and stored.

`honest` is a node that answers from a chain, each time at some block, or
does not answer.  `Claims` says that an expectation is true of an event.

Main results: `covers_of_logged` (what the registry keeps of an event, however
many follow it) and `verification_exact`.
-/
import SubmittedIt.Prog
import SubmittedIt.ContractClient
import SubmittedIt.RegistryChain

namespace SubmittedIt.ContractClient

open Transaction Linked ReceiptCore

/-! ### Requests -/

/-- `AnchorVerificationBlockTag`. -/
inductive BlockTag
  | finalized
  | latest
  deriving DecidableEq

/-- What is asked of a node. -/
inductive RpcRequest
  | getChainId
  | getBytecode (address : AddressText) (blockTag : BlockTag)
  | protocolVersion (address : AddressText) (blockTag : BlockTag)
  | getTransaction (hash : Bytes32)
  | getTransactionReceipt (hash : Bytes32)
  | getBlock (blockTag : BlockTag)
  | getReceipt (address : AddressText) (receiptId : Bytes32) (blockTag : BlockTag)
  | isAnchored (address : AddressText) (eventHash : Bytes32) (blockTag : BlockTag)

/-- A transaction as a node reports it. -/
structure RpcTransaction where
  sender : Address
  destination : Option Address
  deriving DecidableEq

/-- The arguments of a decoded event of the registry. -/
structure DecodedAnchorArgs where
  anchoredAt : Nat
  anchoredBy : Address
  authorityKeyHash : Bytes32
  eventCount : Nat
  eventHash : Bytes32
  extensionKeyHash : Bytes32
  previousEventHash : Bytes32
  protocolVersion : Nat
  receiptId : Bytes32
  stage : Nat
  deriving DecidableEq

/-- A log as a node reports it; `decoded` is `null` where it is no event of
the registry. -/
structure RpcLog where
  address : Address
  decoded : Option DecodedAnchorArgs
  deriving DecidableEq

structure RpcTransactionReceipt where
  success : Bool
  destination : Option Address
  transactionHash : Bytes32
  blockNumber : Nat
  blockHash : Bytes32
  logs : List RpcLog
  deriving DecidableEq

/-- What `getReceipt` returns. -/
structure StoredReceipt where
  stage : Nat
  latestEventHash : Bytes32
  extensionKeyHash : Bytes32
  updatedAt : Nat
  eventCount : Nat
  deriving DecidableEq

@[reducible] def RpcRequest.Result : RpcRequest → Type
  | getChainId => Nat
  | getBytecode .. => Option (List UInt8)
  | protocolVersion .. => Nat
  | getTransaction _ => RpcTransaction
  | getTransactionReceipt _ => RpcTransactionReceipt
  | getBlock _ => Nat
  | getReceipt .. => StoredReceipt
  | isAnchored .. => Bool

/-! ### Verification -/

inductive AnchorVerificationErrorCode
  | contractMismatch
  | eventLogMismatch
  | malformedChainResponse
  | notFinal
  | storedContractMismatch
  | transactionFailed
  | wrongNetwork
  deriving DecidableEq

inductive AnchorVerificationError
  /-- An `AnchorVerificationError`. -/
  | verification (code : AnchorVerificationErrorCode) (message : String) (recoverable : Bool)
  /-- The node did not answer, or does not know what it was asked for. -/
  | rpc
  deriving DecidableEq

/-- `fail`. -/
def failure (code : AnchorVerificationErrorCode) (message : String)
    (recoverable : Bool := false) : AnchorVerificationError :=
  .verification code message recoverable

/-- A text that should be a canonical 32-byte word. -/
inductive Bytes32Text
  | canonical (value : Bytes32)
  | other (text : String)
  deriving DecidableEq

/-- `AnchorVerificationExpectation`. -/
structure AnchorVerificationExpectation where
  authorityKeyHash : Bytes32Text
  blockTag : BlockTag
  chainId : Int
  contractAddress : AddressText
  eventCount : Int
  eventHash : Bytes32Text
  expectedRuntimeBytecodeHash : Option Bytes32Text
  extensionKeyHash : Bytes32Text
  previousEventHash : Bytes32Text
  protocolVersion : Option Nat
  receiptId : Bytes32Text
  stage : EventStage
  transactionHash : Bytes32
  deriving DecidableEq

/-- `VerifiedSubmissionReceiptAnchor`. -/
structure VerifiedSubmissionReceiptAnchor where
  anchoredAt : Timestamp
  anchoredBy : Address
  blockHash : Bytes32
  blockNumber : Nat
  chainId : Nat
  contractAddress : AddressHex
  eventCount : Nat
  eventHash : Bytes32
  protocolVersion : Nat
  receiptId : Bytes32
  stage : EventStage
  transactionHash : Bytes32
  deriving DecidableEq

/-- `SUBMISSION_RECEIPT_REGISTRY_PROTOCOL_VERSION`. -/
def SUBMISSION_RECEIPT_REGISTRY_PROTOCOL_VERSION : Nat := 1

/-- `assertBytes32`. -/
def assertBytes32 (value : Bytes32Text) (label : String) : Except AnchorVerificationError Bytes32 :=
  match value with
  | .canonical value => .ok value
  | .other _ => .error
      (failure .malformedChainResponse (label ++ " is not canonical lowercase bytes32."))

/-- viem's `getAddress`, of an address whose spelling was checked before. -/
def getAddress (address : AddressText) : Except AnchorVerificationError Address :=
  match address with
  | .hex value _ => .ok value
  | .other _ => .error
      (failure .contractMismatch "The expected registry address is invalid.")

/-- The words of an expectation. -/
structure ExpectedWords where
  receiptId : Bytes32
  eventHash : Bytes32
  previousEventHash : Bytes32
  extensionKeyHash : Bytes32
  authorityKeyHash : Bytes32
  deriving DecidableEq

section verify

variable (checksum : Address → BitVec 40) (keccak256 : List UInt8 → Bytes32)

/-- `assertExpectation`. -/
def assertExpectation (expected : AnchorVerificationExpectation) :
    Except AnchorVerificationError ExpectedWords := do
  revertIf (expected.chainId > 2 ^ 53 - 1 ∨ expected.chainId ≤ 0)
    (failure .wrongNetwork "The expected chain ID is invalid.")
  revertIf (isAddress checksum expected.contractAddress = false)
    (failure .contractMismatch "The expected registry address is invalid.")
  revertIf (expected.eventCount > 2 ^ 53 - 1 ∨ expected.eventCount ≤ 0)
    (failure .malformedChainResponse "The expected registry event count is invalid.")
  let receiptId ← assertBytes32 expected.receiptId "receiptId"
  let eventHash ← assertBytes32 expected.eventHash "eventHash"
  let previousEventHash ← assertBytes32 expected.previousEventHash "previousEventHash"
  let extensionKeyHash ← assertBytes32 expected.extensionKeyHash "extensionKeyHash"
  let authorityKeyHash ← assertBytes32 expected.authorityKeyHash "authorityKeyHash"
  revertIf (extensionKeyHash = 0)
    (failure .eventLogMismatch "The expected extension-key hash must not be zero.")
  revertIf ((expected.stage = .attempted ∨ expected.stage = .siteConfirmed) ∧ authorityKeyHash ≠ 0)
    (failure .eventLogMismatch "A local lifecycle event cannot claim an authority-key hash.")
  match expected.expectedRuntimeBytecodeHash with
  | none => return ⟨receiptId, eventHash, previousEventHash, extensionKeyHash, authorityKeyHash⟩
  | some hash =>
    let _ ← assertBytes32 hash "expectedRuntimeBytecodeHash"
    return ⟨receiptId, eventHash, previousEventHash, extensionKeyHash, authorityKeyHash⟩

/-- `matchingAnchorLog`. -/
def matchingAnchorLog (logs : List RpcLog) (registry : Address) (words : ExpectedWords) :
    Except AnchorVerificationError DecodedAnchorArgs :=
  let registryLogs := logs.filter fun log => log.address = registry
  let found := (registryLogs.filterMap (·.decoded)).filter fun args =>
    args.receiptId = words.receiptId && args.eventHash = words.eventHash
  match found with
  | [args] => .ok args
  | _ => .error (failure .eventLogMismatch
      "The transaction does not contain exactly one matching registry anchor event.")

/-- `assertExpectedEvent`. -/
def assertExpectedEvent (args : DecodedAnchorArgs) (expected : AnchorVerificationExpectation)
    (words : ExpectedWords) (sender : Address) : Except AnchorVerificationError Unit :=
  let protocolVersion :=
    expected.protocolVersion.getD SUBMISSION_RECEIPT_REGISTRY_PROTOCOL_VERSION
  revertIf (¬ (args.receiptId = words.receiptId ∧ args.eventHash = words.eventHash ∧
      args.anchoredBy = sender ∧ args.previousEventHash = words.previousEventHash ∧
      args.extensionKeyHash = words.extensionKeyHash ∧
      args.authorityKeyHash = words.authorityKeyHash ∧
      args.stage = toContractReceiptStage expected.stage ∧
      (args.eventCount : Int) = expected.eventCount ∧ args.protocolVersion = protocolVersion))
    (failure .eventLogMismatch
      "The registry event does not match the expected receipt evidence.")

/-- `timestampToIso`. -/
def timestampToIso (timestamp : Nat) : Except AnchorVerificationError Timestamp :=
  let milliseconds := timestamp * 1000
  if milliseconds > 8640000000000000 then
    .error (failure .malformedChainResponse "The registry anchoring timestamp is out of range.")
  else .ok milliseconds

/-- The checks of the bytecode and the protocol version. -/
def checkContract (expected : AnchorVerificationExpectation) (bytecode : Option (List UInt8))
    (protocol : Nat) : Except AnchorVerificationError Unit := do
  let code := bytecode.getD []
  revertIf (code = [])
    (failure .contractMismatch "The configured registry has no runtime bytecode." true)
  revertIf (∃ hash ∈ expected.expectedRuntimeBytecodeHash, hash ≠ .canonical (keccak256 code))
    (failure .contractMismatch "The configured registry runtime fingerprint differs.")
  revertIf (protocol ≠ expected.protocolVersion.getD SUBMISSION_RECEIPT_REGISTRY_PROTOCOL_VERSION)
    (failure .contractMismatch "The configured registry protocol version differs.")

/-- The checks of the transaction and its receipt. -/
def checkTransaction (expected : AnchorVerificationExpectation) (registry : Address)
    (transaction : RpcTransaction) (receipt : RpcTransactionReceipt) (confirmedBlock : Nat) :
    Except AnchorVerificationError Unit := do
  revertIf (receipt.success = false)
    (failure .transactionFailed "The anchor transaction reverted or did not succeed.")
  revertIf (transaction.destination ≠ some registry ∨ receipt.destination ≠ some registry)
    (failure .contractMismatch "The transaction destination is not the configured registry.")
  revertIf (receipt.transactionHash ≠ expected.transactionHash)
    (failure .malformedChainResponse "The receipt transaction hash does not match.")
  revertIf (confirmedBlock < receipt.blockNumber)
    (failure .notFinal ("The transaction block is not yet " ++
      (match expected.blockTag with
        | .finalized => "finalized"
        | .latest => "latest") ++ " on the configured chain.") true)

/-- The checks of what the registry stores. -/
def checkStored (expected : AnchorVerificationExpectation) (words : ExpectedWords)
    (stored : StoredReceipt) (anchored : Bool) : Except AnchorVerificationError Unit :=
  revertIf (anchored = false ∨ stored.extensionKeyHash ≠ words.extensionKeyHash ∨
      stored.stage < toContractReceiptStage expected.stage ∨
      (stored.eventCount : Int) < expected.eventCount ∨
      ((stored.eventCount : Int) = expected.eventCount ∧
        (stored.stage ≠ toContractReceiptStage expected.stage ∨
          stored.latestEventHash ≠ words.eventHash)))
    (failure .storedContractMismatch ("The registry stored state does not match the " ++
      "independently decoded transaction event."))

abbrev VerifyProg := Prog RpcRequest RpcRequest.Result AnchorVerificationError

/-- One request to the node. -/
def ask (request : RpcRequest) : VerifyProg request.Result := .perform request

/-- `verifySubmissionReceiptAnchor`. -/
def verifySubmissionReceiptAnchor (expected : AnchorVerificationExpectation) :
    VerifyProg VerifiedSubmissionReceiptAnchor := do
  let words ← .ofExcept (assertExpectation checksum expected)
  let registry ← .ofExcept (getAddress expected.contractAddress)
  let chainId : Nat ← ask .getChainId
  if (chainId : Int) ≠ expected.chainId then
    .throw (failure .wrongNetwork ("Expected chain " ++ toString expected.chainId ++
      ", received " ++ toString chainId ++ ".") true)
  else
    let bytecode : Option (List UInt8) ←
      ask (.getBytecode expected.contractAddress expected.blockTag)
    let protocol : Nat ← ask (.protocolVersion expected.contractAddress expected.blockTag)
    let transaction : RpcTransaction ← ask (.getTransaction expected.transactionHash)
    let receipt : RpcTransactionReceipt ← ask (.getTransactionReceipt expected.transactionHash)
    let confirmedBlock : Nat ← ask (.getBlock expected.blockTag)
    .ofExcept (checkContract keccak256 expected bytecode protocol)
    .ofExcept (checkTransaction expected registry transaction receipt confirmedBlock)
    let sender := transaction.sender
    let event ← .ofExcept (matchingAnchorLog receipt.logs registry words)
    .ofExcept (assertExpectedEvent event expected words sender)
    let stored : StoredReceipt ←
      ask (.getReceipt expected.contractAddress words.receiptId expected.blockTag)
    let anchored : Bool ←
      ask (.isAnchored expected.contractAddress words.eventHash expected.blockTag)
    .ofExcept (checkStored expected words stored anchored)
    let anchoredAt ← .ofExcept (timestampToIso event.anchoredAt)
    return {
      anchoredAt
      anchoredBy := sender
      blockHash := receipt.blockHash
      blockNumber := receipt.blockNumber
      chainId
      contractAddress := registry
      eventCount := event.eventCount
      eventHash := words.eventHash
      protocolVersion := event.protocolVersion
      receiptId := words.receiptId
      stage := expected.stage
      transactionHash := expected.transactionHash }

end verify

/-! ### An honest node -/

/-- An event of the registry, decoded. -/
def decodedArgs (e : ReceiptEventAnchored) : DecodedAnchorArgs where
  anchoredAt := e.anchoredAt.toNat
  anchoredBy := e.anchoredBy
  authorityKeyHash := e.authorityKeyHash
  eventCount := e.eventCount.toNat
  eventHash := e.eventHash
  extensionKeyHash := e.extensionKeyHash
  previousEventHash := e.previousEventHash
  protocolVersion := e.protocolVersion.toNat
  receiptId := e.receiptId
  stage := stageNumber e.stage

def ChainLog.report {registry : Address} : ChainLog registry → RpcLog
  | anchored event => ⟨registry, some (decodedArgs event)⟩
  | foreign address looksLike _ => ⟨address, looksLike.map decodedArgs⟩

def TransactionReceipt.report {registry : Address} (receipt : TransactionReceipt registry) :
    RpcTransactionReceipt where
  success := receipt.success
  destination := receipt.destination
  transactionHash := receipt.transactionHash
  blockNumber := receipt.blockNumber
  blockHash := receipt.blockHash
  logs := receipt.logs.map (·.report)

def storedReceipt (receipt : ReceiptState) : StoredReceipt where
  stage := stageNumber receipt.currentStage
  latestEventHash := receipt.latestEventHash
  extensionKeyHash := receipt.extensionKeyHash
  updatedAt := receipt.updatedAt.toNat
  eventCount := receipt.eventCount.toNat

/-- Whether a text is the registry's address. -/
def Chain.named (c : Chain) : AddressText → Bool
  | .hex value _ => value = c.registry
  | .other _ => false

/-- What a call of the registry returns at a block. -/
def Chain.read {α : Type} (c : Chain) (address : AddressText) (head : Nat) (value : α) :
    Except AnchorVerificationError α :=
  if c.named address = true ∧ c.deployedAt ≤ head then .ok value else .error .rpc

/-- A node that answers from a chain as it is at the block `head`, if at
all. -/
def honest (c : Chain) : (o : RpcRequest) → Option Nat → Unit →
    Except AnchorVerificationError o.Result × Unit
  | _, none, u => (.error .rpc, u)
  | .getChainId, some _, u => (.ok c.chainId, u)
  | .getBytecode address _, some head, u =>
    (.ok (if c.named address = true ∧ c.deployedAt ≤ head then some c.bytecode else none), u)
  | .protocolVersion address _, some head, u => (c.read address head PROTOCOL_VERSION.toNat, u)
  | .getTransaction hash, some head, u =>
    match c.find head hash with
    | none => (.error .rpc, u)
    | some m => (.ok ⟨m.transaction.sender, m.transaction.destination⟩, u)
  | .getTransactionReceipt hash, some head, u =>
    match c.find head hash with
    | none => (.error .rpc, u)
    | some m => (.ok m.receipt.report, u)
  | .getBlock _, some head, u => (.ok head, u)
  | .getReceipt address receiptId _, some head, u =>
    (c.read address head (storedReceipt (getReceipt (c.upTo head).1 receiptId)), u)
  | .isAnchored address eventHash _, some head, u =>
    (c.read address head (isAnchored (c.upTo head).1 eventHash), u)

/-! ### What the registry keeps of an event -/

theorem stageNumber_lt {a b : ReceiptStage} (h : StageStep a b) : stageNumber a < stageNumber b := by
  revert h
  cases a <;> cases b <;> decide

/-- A lifecycle walk does not go back. -/
theorem stageNumber_le_tip {a : ReceiptStage} {es : List ReceiptEventAnchored}
    (h : Follows EntersStage (·.stage) a es) : stageNumber a ≤ stageNumber (tip (·.stage) a es) := by
  induction es generalizing a with
  | nil => exact le_rfl
  | cons e es ih => exact (stageNumber_lt h.1).le.trans (ih h.2)

/-- What a registry says of an event it logged. -/
structure Covers (s : Registry) (e : ReceiptEventAnchored) : Prop where
  anchored : s.anchoredEvents e.eventHash = true
  extensionKey : (s.receipts e.receiptId).extensionKeyHash = e.extensionKeyHash
  extensionKey_ne_zero : e.extensionKeyHash ≠ 0
  authority : e.authorityKeyHash ≠ 0 ↔ isTerminal e.stage = true
  entered : e.stage ≠ .none
  count_pos : 0 < e.eventCount.toNat
  stage_le : stageNumber e.stage ≤ stageNumber (s.receipts e.receiptId).currentStage
  count_le : e.eventCount.toNat ≤ (s.receipts e.receiptId).eventCount.toNat
  latest : (s.receipts e.receiptId).eventCount.toNat = e.eventCount.toNat →
    (s.receipts e.receiptId).currentStage = e.stage ∧
      (s.receipts e.receiptId).latestEventHash = e.eventHash

/-- **The registry covers every event it logged**, however many came after
it. -/
theorem covers_of_logged {s : Registry} (h : s.Invariant) {e : ReceiptEventAnchored}
    (he : e ∈ s.logs) : Covers s e := by
  have hlog := h.receipts e.receiptId
  have hmem : e ∈ s.eventsOf e.receiptId := List.mem_filter.mpr ⟨he, by simp⟩
  obtain ⟨before, after, hsplit⟩ := List.append_of_mem hmem
  have hstaged := hlog.staged
  have hcounts := hlog.counts
  have hlength : (s.receipts e.receiptId).eventCount.toNat = before.length + 1 + after.length := by
    rw [hlog.count, hsplit, List.length_append, List.length_cons]
    omega
  have hcount : e.eventCount.toNat = before.length + 1 := by
    have hget := congrArg (·[before.length]?) hcounts
    rw [hsplit] at hget
    simpa [Nat.add_comm] using hget
  rw [hsplit, follows_append] at hstaged
  have hentered : StageStep (tip (·.stage) .none before) e.stage := hstaged.2.1
  refine ⟨?_, (hlog.extensionKey e hmem).symm, ?_, hlog.authority e hmem, hentered.ne_none, ?_, ?_,
    ?_, ?_⟩
  · exact (h.anchored e.eventHash).mpr (List.mem_map_of_mem he)
  · rw [hlog.extensionKey e hmem, Ne, hlog.extensionKey_zero_iff]
    exact List.ne_nil_of_mem hmem
  · omega
  · rw [hlog.stage, hsplit, tip_append]
    exact stageNumber_le_tip hstaged.2.2
  · omega
  · intro hsame
    -- no event came after it
    have hafter : after = [] := List.eq_nil_of_length_eq_zero (by omega)
    rw [hlog.stage, hlog.latest, hsplit, hafter, tip_concat, tip_concat]
    exact ⟨rfl, rfl⟩

/-! ### Running against the node -/

section run

variable {checksum : Address → BitVec 40} {keccak256 : List UInt8 → Bytes32} {c : Chain}
  {env : Nat → (o : RpcRequest) → Option Nat} {α β : Type} {n : Nat}

/-- A program from its `n`-th request on. -/
abbrev runFrom (c : Chain) (env : Nat → (o : RpcRequest) → Option Nat) (n : Nat)
    (p : VerifyProg α) : Except AnchorVerificationError α :=
  (p.run (Prog.execEnv (honest c) env) ((), n)).1

theorem runFrom_ofExcept (r : Except AnchorVerificationError α) (f : α → VerifyProg β) :
    runFrom c env n (.ofExcept r >>= f) = r >>= fun a => runFrom c env n (f a) := by
  rcases r with e | a
  · rfl
  · rfl

theorem runFrom_ask (request : RpcRequest) (f : request.Result → VerifyProg β) :
    runFrom c env n (ask request >>= f) =
      (honest c request (env n request) ()).1 >>= fun a => runFrom c env (n + 1) (f a) := by
  show ((Prog.perform request >>= f).run _ _).1 = _
  rw [Prog.run_bind, Prog.run_perform]
  simp only [Prog.execEnv]
  rcases (honest c request (env n request) ()).1 with e | a
  · rfl
  · rfl

theorem runFrom_pure (a : α) : runFrom c env n (pure a : VerifyProg α) = .ok a := rfl

theorem runFrom_ofExcept_ok {r : Except AnchorVerificationError α} {a : α} (h : r = .ok a)
    (f : α → VerifyProg β) :
    runFrom c env n (.ofExcept r >>= f) = runFrom c env n (f a) := by
  rw [runFrom_ofExcept, h]
  rfl

theorem runFrom_ask_ok (request : RpcRequest) {a : request.Result}
    (h : (honest c request (env n request) ()).1 = .ok a) (f : request.Result → VerifyProg β) :
    runFrom c env n (ask request >>= f) = runFrom c env (n + 1) (f a) := by
  rw [runFrom_ask, h]
  rfl

end run

/-! ### The checks -/

theorem assertBytes32_eq_ok {value : Bytes32Text} {label : String} {word : Bytes32} :
    assertBytes32 value label = .ok word ↔ value = .canonical word := by
  rcases value with value | text <;> simp [assertBytes32]

/-- What `assertExpectation` accepts, and the words it is about. -/
structure Expects (checksum : Address → BitVec 40) (expected : AnchorVerificationExpectation)
    (words : ExpectedWords) : Prop where
  chainId : 0 < expected.chainId ∧ expected.chainId ≤ 2 ^ 53 - 1
  address : isAddress checksum expected.contractAddress = true
  eventCount : 0 < expected.eventCount ∧ expected.eventCount ≤ 2 ^ 53 - 1
  receiptId : expected.receiptId = .canonical words.receiptId
  eventHash : expected.eventHash = .canonical words.eventHash
  previousEventHash : expected.previousEventHash = .canonical words.previousEventHash
  extensionKeyHash : expected.extensionKeyHash = .canonical words.extensionKeyHash
  authorityKeyHash : expected.authorityKeyHash = .canonical words.authorityKeyHash
  extensionKeyHash_ne_zero : words.extensionKeyHash ≠ 0
  authority : expected.stage.isAuthority = false → words.authorityKeyHash = 0
  bytecodeHash : ∀ hash ∈ expected.expectedRuntimeBytecodeHash, ∃ word, hash = .canonical word

theorem assertExpectation_eq_ok {checksum : Address → BitVec 40}
    {expected : AnchorVerificationExpectation} {words : ExpectedWords} :
    assertExpectation checksum expected = .ok words ↔ Expects checksum expected words := by
  have hlocal : (expected.stage = .attempted ∨ expected.stage = .siteConfirmed) ↔
      expected.stage.isAuthority = false := by
    cases expected.stage <;> simp [EventStage.isAuthority]
  unfold assertExpectation
  simp only [bind_eq_ok, exists_const, revertIf_eq_ok, assertBytes32_eq_ok, hlocal]
  constructor
  · rintro ⟨hchain, haddress, hcount, receiptId, hreceiptId, eventHash, heventHash, previous,
      hprevious, extensionKey, hextensionKey, authorityKey, hauthorityKey, hzero, hauthority, h⟩
    have hwords : words = ⟨receiptId, eventHash, previous, extensionKey, authorityKey⟩ ∧
        ∀ hash ∈ expected.expectedRuntimeBytecodeHash, ∃ word, hash = .canonical word := by
      rcases hhash : expected.expectedRuntimeBytecodeHash with - | hash
      · rw [hhash] at h
        exact ⟨(Except.ok.inj h).symm, fun hash hmem => absurd hmem (by simp)⟩
      · rw [hhash] at h
        obtain ⟨word, hword, h⟩ := bind_eq_ok.mp h
        refine ⟨(Except.ok.inj h).symm, fun hash' hmem => ⟨word, ?_⟩⟩
        rw [← Option.some.inj hmem]
        exact assertBytes32_eq_ok.mp hword
    obtain ⟨rfl, hbytecode⟩ := hwords
    refine ⟨by omega, by simpa using haddress, by omega, hreceiptId, heventHash, hprevious,
      hextensionKey, hauthorityKey, hzero, ?_, hbytecode⟩
    intro hstage
    by_contra hne
    exact hauthority ⟨hstage, hne⟩
  · intro h
    refine ⟨by have := h.chainId; omega, by simp [h.address], by have := h.eventCount; omega, _,
      h.receiptId, _, h.eventHash, _, h.previousEventHash, _, h.extensionKeyHash, _,
      h.authorityKeyHash, h.extensionKeyHash_ne_zero, fun hne => hne.2 (h.authority hne.1), ?_⟩
    rcases hhash : expected.expectedRuntimeBytecodeHash with - | hash
    · rfl
    · obtain ⟨word, hword⟩ := h.bytecodeHash hash (by rw [hhash]; rfl)
      exact bind_eq_ok.mpr ⟨word, assertBytes32_eq_ok.mpr hword, rfl⟩

theorem getAddress_eq_ok {address : AddressText} {value : Address} :
    getAddress address = .ok value ↔ ∃ upper, address = .hex value upper := by
  rcases address with ⟨value', upper⟩ | text
  · constructor
    · rintro ⟨⟩
      exact ⟨upper, rfl⟩
    · rintro ⟨upper', ⟨⟩⟩
      rfl
  · simp [getAddress]

theorem matchingAnchorLog_eq_ok {logs : List RpcLog} {registry : Address} {words : ExpectedWords}
    {args : DecodedAnchorArgs} (h : matchingAnchorLog logs registry words = .ok args) :
    (⟨registry, some args⟩ : RpcLog) ∈ logs ∧ args.receiptId = words.receiptId ∧
      args.eventHash = words.eventHash := by
  unfold matchingAnchorLog at h
  dsimp only at h
  split at h
  · next args' hfound =>
    obtain rfl := Except.ok.inj h
    have hmem : args' ∈ [args'] := List.mem_singleton_self args'
    rw [← hfound, List.mem_filter, List.mem_filterMap] at hmem
    obtain ⟨⟨⟨address, decoded⟩, hlog, hdecoded⟩, hsame⟩ := hmem
    obtain ⟨hlisted, haddress⟩ := List.mem_filter.mp hlog
    dsimp only at hdecoded
    obtain rfl : address = registry := by simpa using haddress
    subst hdecoded
    exact ⟨hlisted, by simpa using hsame⟩
  · cases h

/-! ### Soundness and completeness -/

/-- An expectation is true of an event of a transaction of the chain. -/
structure Claims (checksum : Address → BitVec 40) (keccak256 : List UInt8 → Bytes32) (c : Chain)
    (m : MinedTransaction c.registry) (e : ReceiptEventAnchored)
    (expected : AnchorVerificationExpectation) : Prop where
  chainId : expected.chainId = c.chainId
  contractAddress : ∃ upper, expected.contractAddress = .hex c.registry upper
  address : isAddress checksum expected.contractAddress = true
  receiptId : expected.receiptId = .canonical e.receiptId
  eventHash : expected.eventHash = .canonical e.eventHash
  previousEventHash : expected.previousEventHash = .canonical e.previousEventHash
  extensionKeyHash : expected.extensionKeyHash = .canonical e.extensionKeyHash
  authorityKeyHash : expected.authorityKeyHash = .canonical e.authorityKeyHash
  stage : toContractReceiptStage expected.stage = stageNumber e.stage
  eventCount : expected.eventCount = e.eventCount.toNat
  protocolVersion : expected.protocolVersion.getD SUBMISSION_RECEIPT_REGISTRY_PROTOCOL_VERSION =
    e.protocolVersion.toNat
  bytecodeHash : ∀ hash ∈ expected.expectedRuntimeBytecodeHash,
    hash = .canonical (keccak256 c.bytecode)
  transactionHash : expected.transactionHash = m.transaction.hash

/-- What verification returns of an event. -/
def verifiedAs {c : Chain} (m : MinedTransaction c.registry) (e : ReceiptEventAnchored)
    (stage : EventStage) : VerifiedSubmissionReceiptAnchor where
  anchoredAt := (e.anchoredAt.toNat * 1000 : Nat)
  anchoredBy := e.anchoredBy
  blockHash := m.receipt.blockHash
  blockNumber := m.receipt.blockNumber
  chainId := c.chainId
  contractAddress := c.registry
  eventCount := e.eventCount.toNat
  eventHash := e.eventHash
  protocolVersion := e.protocolVersion.toNat
  receiptId := e.receiptId
  stage := stage
  transactionHash := m.transaction.hash

section exact

variable {checksum : Address → BitVec 40} {keccak256 : List UInt8 → Bytes32} {c : Chain}
  {m : MinedTransaction c.registry} {e : ReceiptEventAnchored}
  {expected : AnchorVerificationExpectation} {env : Nat → (o : RpcRequest) → Option Nat}

theorem isAuthority_of_stage {stage : EventStage} {s : ReceiptStage}
    (h : toContractReceiptStage stage = stageNumber s) : stage.isAuthority = isTerminal s := by
  revert h
  cases stage <;> cases s <;> decide

/-- An expectation that is true of an event is accepted. -/
theorem Claims.expects (h : Claims checksum keccak256 c m e expected) {s : Registry}
    (hcovers : Covers s e) :
    Expects checksum expected ⟨e.receiptId, e.eventHash, e.previousEventHash, e.extensionKeyHash,
      e.authorityKeyHash⟩ := by
  have hsafe := c.chainId_safe
  have hcount := e.eventCount.toNat_lt
  have hpos := hcovers.count_pos
  refine ⟨?_, h.address, ?_, h.receiptId, h.eventHash, h.previousEventHash, h.extensionKeyHash,
    h.authorityKeyHash, hcovers.extensionKey_ne_zero, ?_, ?_⟩
  · rw [h.chainId]
    omega
  · rw [h.eventCount]
    omega
  · intro hstage
    rw [isAuthority_of_stage h.stage] at hstage
    by_contra hne
    rw [hcovers.authority.mp hne] at hstage
    cases hstage
  · intro hash hmem
    exact ⟨_, h.bytecodeHash hash hmem⟩

/-- The receipt of a transaction that was sent to the registry. -/
theorem receipt_direct (hm : m ∈ c.mined) (hdirect : m.transaction.destination = some c.registry)
    (he : .anchored e ∈ m.receipt.logs) :
    m.receipt.success = true ∧ m.receipt.logs = [.anchored e] ∧
      m.receipt.destination = some c.registry ∧ m.receipt.transactionHash = m.transaction.hash ∧
      e.anchoredBy = m.transaction.sender ∧ e.protocolVersion = PROTOCOL_VERSION ∧
      ∃ block ∈ c.blocks, e.anchoredAt.toNat = block.timestamp.toNat := by
  obtain ⟨-, block, hblock, -, t, -, hreceipt, -⟩ := (executeBlocks_spec _ _ _).2.2 m hm
  rw [hreceipt] at he ⊢
  obtain ⟨hresult, hsender, htime, hversion⟩ := executeTransaction_direct hdirect he
  unfold receiptOf
  rw [hresult]
  exact ⟨rfl, rfl, hdirect, rfl, hsender, hversion, block, hblock, htime⟩

theorem named_of_claims (h : Claims checksum keccak256 c m e expected) :
    c.named expected.contractAddress = true := by
  obtain ⟨upper, haddress⟩ := h.contractAddress
  rw [haddress]
  exact decide_eq_true rfl

/-- What is stored of an event passes its checks. -/
theorem checkStored_of_covers {s s' : Registry} (hcovers : Covers s e) (hcovers' : Covers s' e)
    (hstage : toContractReceiptStage expected.stage = stageNumber e.stage)
    (hcount : expected.eventCount = e.eventCount.toNat) :
    checkStored expected ⟨e.receiptId, e.eventHash, e.previousEventHash, e.extensionKeyHash,
      e.authorityKeyHash⟩ (storedReceipt (getReceipt s e.receiptId)) (isAnchored s' e.eventHash) =
        .ok () := by
  unfold checkStored
  rw [revertIf_eq_ok, hstage, hcount]
  have hle := hcovers.stage_le
  have hcountLe := hcovers.count_le
  simp only [storedReceipt, getReceipt, isAnchored, hcovers'.anchored, hcovers.extensionKey]
  rintro (h | h | h | h | ⟨hsame, h⟩)
  · cases h
  · exact h rfl
  · omega
  · omega
  · obtain ⟨hst, hlatest⟩ := hcovers.latest (by omega)
    rcases h with h | h
    · exact h (by rw [hst])
    · exact h hlatest

/-- The one log of a transaction that was sent to the registry is found. -/
theorem matchingAnchorLog_direct :
    matchingAnchorLog [(ChainLog.anchored e : ChainLog c.registry).report] c.registry
      ⟨e.receiptId, e.eventHash, e.previousEventHash, e.extensionKeyHash, e.authorityKeyHash⟩ =
        .ok (decodedArgs e) := by
  simp [matchingAnchorLog, ChainLog.report, decodedArgs]

theorem assertExpectedEvent_of_claims (h : Claims checksum keccak256 c m e expected)
    {sender : Address} (hsender : e.anchoredBy = sender) :
    assertExpectedEvent (decodedArgs e) expected ⟨e.receiptId, e.eventHash, e.previousEventHash,
      e.extensionKeyHash, e.authorityKeyHash⟩ sender = .ok () := by
  unfold assertExpectedEvent
  dsimp only
  rw [revertIf_eq_ok, not_not]
  exact ⟨rfl, rfl, hsender, rfl, rfl, rfl, h.stage.symm, h.eventCount.symm,
    h.protocolVersion.symm⟩

theorem checkContract_of_claims (h : Claims checksum keccak256 c m e expected)
    (hversion : e.protocolVersion = PROTOCOL_VERSION) :
    checkContract keccak256 expected (some c.bytecode) PROTOCOL_VERSION.toNat = .ok () := by
  unfold checkContract
  refine bind_eq_ok.mpr ⟨(), (revertIf_eq_ok _ _ _).mpr c.bytecode_ne_nil, ?_⟩
  refine bind_eq_ok.mpr ⟨(), (revertIf_eq_ok _ _ _).mpr ?_, (revertIf_eq_ok _ _ _).mpr ?_⟩
  · rintro ⟨hash, hmem, hne⟩
    exact hne (h.bytecodeHash hash hmem)
  · rw [h.protocolVersion, hversion]
    exact fun hne => hne rfl

/-- A node's answer at a block. -/
theorem honest_at {n : Nat} (request : RpcRequest) {a : request.Result} {bound : Nat}
    (henv : ∃ head, env n request = some head ∧ bound ≤ head)
    (h : ∀ head, bound ≤ head → (honest c request (some head) ()).1 = .ok a) :
    (honest c request (env n request) ()).1 = .ok a := by
  obtain ⟨head, hhead, hle⟩ := henv
  rw [hhead]
  exact h head hle

/-- What a node says of a transaction that it knows. -/
theorem honest_transaction {head : Nat} (h : m ∈ (c.upTo head).2) :
    (honest c (.getTransaction m.transaction.hash) (some head) ()).1 =
        .ok ⟨m.transaction.sender, m.transaction.destination⟩ ∧
      (honest c (.getTransactionReceipt m.transaction.hash) (some head) ()).1 =
        .ok m.receipt.report := by
  simp only [honest, Chain.find_of_mem h, and_self]

/-- **Completeness.**  An event that was logged in a transaction sent to the
registry verifies from its block on. -/
theorem verification_complete
    (hdates : ∀ block ∈ c.blocks, block.timestamp.toNat * 1000 ≤ 8640000000000000)
    (hm : m ∈ c.mined) (hdirect : m.transaction.destination = some c.registry)
    (he : .anchored e ∈ m.receipt.logs) (hclaims : Claims checksum keccak256 c m e expected)
    (henv : ∀ n o, ∃ head, env n o = some head ∧ m.receipt.blockNumber ≤ head) :
    runFrom c env 0 (verifySubmissionReceiptAnchor checksum keccak256 expected) =
      .ok (verifiedAs m e expected.stage) := by
  obtain ⟨hsuccess, hlogs, hto, htxHash, hsender, hversion, block, hblock, htime⟩ :=
    receipt_direct hm hdirect he
  have hdeployed : c.deployedAt ≤ m.receipt.blockNumber :=
    ((executeBlocks_spec c.blocks c.deployedAt Registry.empty).2.2 m hm).1.1
  have hcovers : ∀ head, m.receipt.blockNumber ≤ head → Covers (c.upTo head).1 e :=
    fun head hhead => covers_of_logged (c.upTo_invariant head)
      (Chain.logged_upTo (Chain.mem_upTo hm hhead) he)
  have hnamed := named_of_claims hclaims
  obtain ⟨upper, haddress⟩ := hclaims.contractAddress
  have hexpects := hclaims.expects (hcovers _ le_rfl)
  have hread : ∀ {α : Type} (head : Nat) (a : α), m.receipt.blockNumber ≤ head →
      c.read expected.contractAddress head a = .ok a :=
    fun head a hhead => if_pos ⟨hnamed, hdeployed.trans hhead⟩
  unfold verifySubmissionReceiptAnchor
  refine (runFrom_ofExcept_ok (assertExpectation_eq_ok.mpr hexpects) _).trans ?_
  refine (runFrom_ofExcept_ok (getAddress_eq_ok.mpr ⟨upper, haddress⟩) _).trans ?_
  refine (runFrom_ask_ok .getChainId (a := c.chainId)
    (honest_at .getChainId (henv _ _) fun _ _ => rfl) _).trans ?_
  rw [if_neg (not_not.mpr hclaims.chainId.symm)]
  have hbytecode := honest_at (.getBytecode expected.contractAddress expected.blockTag)
    (a := some c.bytecode) (henv 1 _)
    fun head hhead => congrArg Except.ok (if_pos ⟨hnamed, hdeployed.trans hhead⟩)
  refine (runFrom_ask_ok _ hbytecode _).trans ?_
  have hprotocol := honest_at (.protocolVersion expected.contractAddress expected.blockTag)
    (a := PROTOCOL_VERSION.toNat) (henv 2 _) fun head hhead => hread head _ hhead
  refine (runFrom_ask_ok _ hprotocol _).trans ?_
  have htransaction := honest_at (c := c) (.getTransaction expected.transactionHash)
    (a := ⟨m.transaction.sender, m.transaction.destination⟩) (henv 3 _) fun head hhead => by
      rw [hclaims.transactionHash]
      exact (honest_transaction (Chain.mem_upTo hm hhead)).1
  refine (runFrom_ask_ok _ htransaction _).trans ?_
  have hreceipt := honest_at (c := c) (.getTransactionReceipt expected.transactionHash)
    (a := m.receipt.report) (henv 4 _) fun head hhead => by
      rw [hclaims.transactionHash]
      exact (honest_transaction (Chain.mem_upTo hm hhead)).2
  refine (runFrom_ask_ok _ hreceipt _).trans ?_
  -- the last three requests are answered for blocks of the node's choice
  obtain ⟨confirmed, hconfirmed, hconfirmedLe⟩ := henv 5 (.getBlock expected.blockTag)
  refine (runFrom_ask_ok _ (a := confirmed) (by rw [hconfirmed]; rfl) _).trans ?_
  refine (runFrom_ofExcept_ok (checkContract_of_claims hclaims hversion) _).trans ?_
  refine (runFrom_ofExcept_ok (a := ()) ?_ _).trans ?_
  · unfold checkTransaction
    refine bind_eq_ok.mpr ⟨(), (revertIf_eq_ok _ _ _).mpr ?_, ?_⟩
    · rw [show m.receipt.report.success = true from hsuccess]
      exact Bool.noConfusion
    refine bind_eq_ok.mpr ⟨(), (revertIf_eq_ok _ _ _).mpr ?_, ?_⟩
    · rintro (h | h)
      · exact h hdirect
      · exact h hto
    refine bind_eq_ok.mpr ⟨(), (revertIf_eq_ok _ _ _).mpr ?_, (revertIf_eq_ok _ _ _).mpr ?_⟩
    · exact fun h => h (htxHash.trans hclaims.transactionHash.symm)
    · exact not_lt.mpr hconfirmedLe
  have hreport : m.receipt.report.logs = [(ChainLog.anchored e : ChainLog c.registry).report] :=
    congrArg (List.map _) hlogs
  refine (runFrom_ofExcept_ok (a := decodedArgs e) ?_ _).trans ?_
  · rw [hreport]
    exact matchingAnchorLog_direct
  refine (runFrom_ofExcept_ok (assertExpectedEvent_of_claims hclaims hsender) _).trans ?_
  obtain ⟨head, hhead, hle⟩ := henv 6 (.getReceipt expected.contractAddress e.receiptId
    expected.blockTag)
  refine (runFrom_ask_ok _ (a := storedReceipt (getReceipt (c.upTo head).1 e.receiptId))
    (by rw [hhead]; exact hread head _ hle) _).trans ?_
  obtain ⟨head', hhead', hle'⟩ := henv 7 (.isAnchored expected.contractAddress e.eventHash
    expected.blockTag)
  refine (runFrom_ask_ok _ (a := isAnchored (c.upTo head').1 e.eventHash)
    (by rw [hhead']; exact hread head' _ hle') _).trans ?_
  refine (runFrom_ofExcept_ok (checkStored_of_covers (hcovers head hle) (hcovers head' hle')
    hclaims.stage hclaims.eventCount) _).trans ?_
  refine (runFrom_ofExcept_ok (a := ((e.anchoredAt.toNat * 1000 : Nat) : Timestamp)) ?_ _).trans ?_
  · unfold timestampToIso
    refine if_neg (not_lt.mpr ?_)
    show e.anchoredAt.toNat * 1000 ≤ _
    rw [htime]
    exact hdates block hblock
  rw [runFrom_pure, verifiedAs, hclaims.transactionHash, hsender]
  rfl

/-- What a node that answered says of a transaction. -/
theorem honest_found {block : Option Nat} {hash : Bytes32} {transaction : RpcTransaction}
    (h : (honest c (.getTransaction hash) block ()).1 = .ok transaction) :
    ∃ m ∈ c.mined, m.transaction.hash = hash ∧
      transaction = ⟨m.transaction.sender, m.transaction.destination⟩ := by
  rcases block with - | head
  · cases h
  · rcases hfind : c.find head hash with - | m
    · simp only [honest, hfind, reduceCtorEq] at h
    · obtain ⟨hmem, hhash⟩ := Chain.find_eq_some hfind
      refine ⟨m, Chain.mined_of_upTo hmem, hhash, ?_⟩
      simp only [honest, hfind] at h
      exact (Except.ok.inj h).symm

theorem honest_found_receipt {block : Option Nat} {hash : Bytes32}
    {receipt : RpcTransactionReceipt}
    (h : (honest c (.getTransactionReceipt hash) block ()).1 = .ok receipt) :
    ∃ m ∈ c.mined, m.transaction.hash = hash ∧ receipt = m.receipt.report := by
  rcases block with - | head
  · cases h
  · rcases hfind : c.find head hash with - | m
    · simp only [honest, hfind, reduceCtorEq] at h
    · obtain ⟨hmem, hhash⟩ := Chain.find_eq_some hfind
      refine ⟨m, Chain.mined_of_upTo hmem, hhash, ?_⟩
      simp only [honest, hfind] at h
      exact (Except.ok.inj h).symm

theorem honest_chainId {block : Option Nat} {chainId : Nat}
    (h : (honest c .getChainId block ()).1 = .ok chainId) : chainId = c.chainId := by
  rcases block with - | head
  · cases h
  · exact (Except.ok.inj h).symm

/-- A contract that answers for its protocol version is the registry. -/
theorem honest_protocol {block : Option Nat} {address : AddressText} {blockTag : BlockTag}
    {protocol : Nat} (h : (honest c (.protocolVersion address blockTag) block ()).1 = .ok protocol) :
    ∃ upper, address = .hex c.registry upper := by
  rcases block with - | head
  · cases h
  · have hnamed : c.named address = true := by
      by_contra hnot
      have hread : c.read address head PROTOCOL_VERSION.toNat = .error .rpc :=
        if_neg fun hboth => hnot hboth.1
      rw [show (honest c (.protocolVersion address blockTag) (some head) ()).1 =
        c.read address head PROTOCOL_VERSION.toNat from rfl, hread] at h
      cases h
    rcases address with ⟨value, upper⟩ | text
    · obtain rfl : value = c.registry := of_decide_eq_true hnamed
      exact ⟨upper, rfl⟩
    · cases hnamed

/-- Code that a node reports is that of the registry. -/
theorem honest_bytecode {block : Option Nat} {address : AddressText} {blockTag : BlockTag}
    {bytecode : Option (List UInt8)}
    (h : (honest c (.getBytecode address blockTag) block ()).1 = .ok bytecode) :
    bytecode.getD [] = [] ∨ bytecode = some c.bytecode := by
  rcases block with - | head
  · cases h
  · obtain rfl := Except.ok.inj h
    split_ifs
    · exact .inr rfl
    · exact .inl rfl

/-- The answers that passed the checks of the contract. -/
theorem checkContract_eq_ok {bytecode : Option (List UInt8)} {protocol : Nat}
    (h : checkContract keccak256 expected bytecode protocol = .ok ()) :
    bytecode.getD [] ≠ [] ∧ ∀ hash ∈ expected.expectedRuntimeBytecodeHash,
      hash = .canonical (keccak256 (bytecode.getD [])) := by
  unfold checkContract at h
  obtain ⟨_, hcode, h⟩ := bind_eq_ok.mp h
  obtain ⟨_, hhash, -⟩ := bind_eq_ok.mp h
  rw [revertIf_eq_ok] at hcode hhash
  refine ⟨hcode, fun hash hmem => ?_⟩
  by_contra hne
  exact hhash ⟨hash, hmem, hne⟩

theorem checkTransaction_eq_ok {registry : Address} {transaction : RpcTransaction}
    {receipt : RpcTransactionReceipt} {confirmedBlock : Nat}
    (h : checkTransaction expected registry transaction receipt confirmedBlock = .ok ()) :
    transaction.destination = some registry ∧ receipt.blockNumber ≤ confirmedBlock := by
  unfold checkTransaction at h
  obtain ⟨_, -, h⟩ := bind_eq_ok.mp h
  obtain ⟨_, hdestination, h⟩ := bind_eq_ok.mp h
  obtain ⟨_, -, hfinal⟩ := bind_eq_ok.mp h
  rw [revertIf_eq_ok] at hdestination hfinal
  refine ⟨?_, not_lt.mp hfinal⟩
  by_contra hne
  exact hdestination (.inl hne)

theorem assertExpectedEvent_eq_ok {args : DecodedAnchorArgs} {words : ExpectedWords}
    {sender : Address} (h : assertExpectedEvent args expected words sender = .ok ()) :
    args.receiptId = words.receiptId ∧ args.eventHash = words.eventHash ∧
      args.anchoredBy = sender ∧ args.previousEventHash = words.previousEventHash ∧
      args.extensionKeyHash = words.extensionKeyHash ∧
      args.authorityKeyHash = words.authorityKeyHash ∧
      args.stage = toContractReceiptStage expected.stage ∧
      (args.eventCount : Int) = expected.eventCount ∧
      args.protocolVersion =
        expected.protocolVersion.getD SUBMISSION_RECEIPT_REGISTRY_PROTOCOL_VERSION := by
  unfold assertExpectedEvent at h
  dsimp only at h
  rwa [revertIf_eq_ok, not_not] at h

/-- A log that a node reports under the registry's address is an event of the
registry. -/
theorem anchored_of_report {logs : List (ChainLog c.registry)} {args : DecodedAnchorArgs}
    (h : (⟨c.registry, some args⟩ : RpcLog) ∈ logs.map (·.report)) :
    ∃ e, .anchored e ∈ logs ∧ args = decodedArgs e := by
  obtain ⟨log, hmem, hreport⟩ := List.mem_map.mp h
  rcases log with e | ⟨address, looksLike, other⟩
  · refine ⟨e, hmem, ?_⟩
    exact (Option.some.inj (congrArg RpcLog.decoded hreport)).symm
  · exact absurd (congrArg RpcLog.address hreport) other

/-- **Soundness.**  Whatever the node answers for, what verifies was logged in
the named transaction, sent to the registry, by its sender. -/
theorem verification_sound {v : VerifiedSubmissionReceiptAnchor}
    (h : runFrom c env 0 (verifySubmissionReceiptAnchor checksum keccak256 expected) = .ok v) :
    ∃ m ∈ c.mined, ∃ e, m.transaction.destination = some c.registry ∧
      .anchored e ∈ m.receipt.logs ∧ Claims checksum keccak256 c m e expected ∧
      e.anchoredBy = m.transaction.sender ∧ v = verifiedAs m e expected.stage := by
  unfold verifySubmissionReceiptAnchor at h
  rw [runFrom_ofExcept] at h
  obtain ⟨words, hwords, h⟩ := bind_eq_ok.mp h
  rw [runFrom_ofExcept] at h
  obtain ⟨registry, hregistry, h⟩ := bind_eq_ok.mp h
  rw [runFrom_ask] at h
  obtain ⟨chainId, hchainId, h⟩ := bind_eq_ok.mp h
  split_ifs at h with hnetwork
  · cases h
  rw [runFrom_ask] at h
  obtain ⟨bytecode, hbytecode, h⟩ := bind_eq_ok.mp h
  rw [runFrom_ask] at h
  obtain ⟨protocol, hprotocol, h⟩ := bind_eq_ok.mp h
  rw [runFrom_ask] at h
  obtain ⟨transaction, htransaction, h⟩ := bind_eq_ok.mp h
  rw [runFrom_ask] at h
  obtain ⟨receipt, hreceipt, h⟩ := bind_eq_ok.mp h
  rw [runFrom_ask] at h
  obtain ⟨confirmedBlock, -, h⟩ := bind_eq_ok.mp h
  rw [runFrom_ofExcept] at h
  obtain ⟨_, hcontract, h⟩ := bind_eq_ok.mp h
  rw [runFrom_ofExcept] at h
  obtain ⟨_, hcheck, h⟩ := bind_eq_ok.mp h
  rw [runFrom_ofExcept] at h
  obtain ⟨args, hlog, h⟩ := bind_eq_ok.mp h
  rw [runFrom_ofExcept] at h
  obtain ⟨_, hevent, h⟩ := bind_eq_ok.mp h
  rw [runFrom_ask] at h
  obtain ⟨stored, -, h⟩ := bind_eq_ok.mp h
  rw [runFrom_ask] at h
  obtain ⟨anchored, -, h⟩ := bind_eq_ok.mp h
  rw [runFrom_ofExcept] at h
  obtain ⟨_, -, h⟩ := bind_eq_ok.mp h
  rw [runFrom_ofExcept] at h
  obtain ⟨anchoredAt, hdate, hresult⟩ := bind_eq_ok.mp h
  -- what the answers are
  obtain ⟨upper, haddress⟩ := honest_protocol hprotocol
  obtain ⟨upper', haddress'⟩ := getAddress_eq_ok.mp hregistry
  obtain ⟨rfl, -⟩ : c.registry = registry ∧ upper = upper' := by
    simpa using haddress.symm.trans haddress'
  obtain ⟨m, hm, hhash, rfl⟩ := honest_found htransaction
  obtain ⟨m', hm', hhash', rfl⟩ := honest_found_receipt hreceipt
  obtain rfl := List.inj_on_of_nodup_map c.hashes hm hm' (hhash.trans hhash'.symm)
  obtain ⟨hlisted, -, -⟩ := matchingAnchorLog_eq_ok hlog
  obtain ⟨e, he, rfl⟩ := anchored_of_report hlisted
  obtain ⟨hdirect, -⟩ := checkTransaction_eq_ok hcheck
  obtain ⟨hreceiptId, heventHash, hsender, hprevious, hextensionKey, hauthorityKey, hstage, hcount,
    hversion⟩ := assertExpectedEvent_eq_ok hevent
  have hexpects := assertExpectation_eq_ok.mp hwords
  obtain ⟨hcode, hfingerprint⟩ := checkContract_eq_ok hcontract
  obtain rfl := (honest_bytecode hbytecode).resolve_left hcode
  have hchain := honest_chainId hchainId
  have hclaims : Claims checksum keccak256 c m e expected := by
    refine ⟨?_, ⟨upper, haddress⟩, hexpects.address, ?_, ?_, ?_, ?_, ?_, hstage.symm, hcount.symm,
      hversion.symm, hfingerprint, hhash.symm⟩
    · rw [← hchain]
      exact (not_not.mp hnetwork).symm
    · rw [hexpects.receiptId, ← hreceiptId]
      rfl
    · rw [hexpects.eventHash, ← heventHash]
      rfl
    · rw [hexpects.previousEventHash, ← hprevious]
      rfl
    · rw [hexpects.extensionKeyHash, ← hextensionKey]
      rfl
    · rw [hexpects.authorityKeyHash, ← hauthorityKey]
      rfl
  refine ⟨m, hm, e, hdirect, he, hclaims, hsender, ?_⟩
  obtain rfl := Except.ok.inj hresult
  unfold timestampToIso at hdate
  dsimp only at hdate
  split_ifs at hdate with hrange
  obtain rfl := Except.ok.inj hdate
  rw [verifiedAs, hclaims.transactionHash, ← heventHash, ← hreceiptId, hchain,
    show e.anchoredBy = m.transaction.sender from hsender]
  rfl

/-- There is an expectation that is true of an event, at every block tag. -/
theorem expectation_exists (checksum : Address → BitVec 40) (keccak256 : List UInt8 → Bytes32)
    (hentered : e.stage ≠ .none) (blockTag : BlockTag) :
    ∃ expected, expected.blockTag = blockTag ∧ Claims checksum keccak256 c m e expected := by
  have hstage : ∃ stage, toContractReceiptStage stage = stageNumber e.stage := by
    rcases hs : e.stage
    · exact absurd hs hentered
    · exact ⟨.attempted, rfl⟩
    · exact ⟨.siteConfirmed, rfl⟩
    · exact ⟨.authorityAccepted, rfl⟩
    · exact ⟨.authorityRejected, rfl⟩
  obtain ⟨stage, hstage⟩ := hstage
  refine ⟨⟨.canonical e.authorityKeyHash, blockTag, c.chainId, .hex c.registry 0, e.eventCount.toNat,
    .canonical e.eventHash, some (.canonical (keccak256 c.bytecode)), .canonical e.extensionKeyHash,
    .canonical e.previousEventHash, some e.protocolVersion.toNat, .canonical e.receiptId, stage,
    m.transaction.hash⟩, rfl, ?_⟩
  refine ⟨rfl, ⟨0, rfl⟩, rfl, rfl, rfl, rfl, rfl, rfl, hstage, rfl, rfl, ?_, rfl⟩
  rintro hash ⟨⟩
  rfl

/-- **Verification is exact**: an event that was logged in a transaction sent
to the registry verifies from its block on, whatever came after it, and what
verifies is such an event. -/
theorem verification_exact (checksum : Address → BitVec 40) (keccak256 : List UInt8 → Bytes32)
    (c : Chain) (hdates : ∀ block ∈ c.blocks, block.timestamp.toNat * 1000 ≤ 8640000000000000) :
    (∀ m ∈ c.mined, ∀ e, m.transaction.destination = some c.registry →
      .anchored e ∈ m.receipt.logs →
        (∀ blockTag, ∃ expected, expected.blockTag = blockTag ∧
          Claims checksum keccak256 c m e expected) ∧
        ∀ expected, Claims checksum keccak256 c m e expected →
          ∀ env : Nat → (o : RpcRequest) → Option Nat,
            (∀ n o, ∃ head, env n o = some head ∧ m.receipt.blockNumber ≤ head) →
              runFrom c env 0 (verifySubmissionReceiptAnchor checksum keccak256 expected) =
                .ok (verifiedAs m e expected.stage)) ∧
    ∀ (expected : AnchorVerificationExpectation) (env : Nat → (o : RpcRequest) → Option Nat)
      (v : VerifiedSubmissionReceiptAnchor),
      runFrom c env 0 (verifySubmissionReceiptAnchor checksum keccak256 expected) = .ok v →
        ∃ m ∈ c.mined, ∃ e ∈ c.final.logs, m.transaction.destination = some c.registry ∧
          .anchored e ∈ m.receipt.logs ∧ Claims checksum keccak256 c m e expected ∧
          e.anchoredBy = m.transaction.sender ∧ v = verifiedAs m e expected.stage := by
  constructor
  · intro m hm e hdirect he
    have hlogged := Chain.logged_upTo (Chain.mem_upTo hm le_rfl) he
    have hcovers := covers_of_logged (c.upTo_invariant _) hlogged
    refine ⟨expectation_exists checksum keccak256 hcovers.entered, ?_⟩
    intro expected hclaims env henv
    exact verification_complete hdates hm hdirect he hclaims henv
  · intro expected env v h
    obtain ⟨m, hm, e, hdirect, he, hclaims, hsender, hv⟩ := verification_sound h
    exact ⟨m, hm, e, Chain.logged_final hm he, hdirect, he, hclaims, hsender, hv⟩

/-- A chain of one block, which anchors the first event of a receipt. -/
def sampleChain : Chain where
  chainId := 10143
  registry := 1
  bytecode := [1]
  deployedAt := 5
  blocks := [⟨1700000000, 3, [⟨9, 2, .anchor ⟨11, 12, 0, 13, 0, .attempted⟩⟩]⟩]
  chainId_safe := by decide
  bytecode_ne_nil := by decide
  hashes_nodup := by decide

def sampleAnchored : ReceiptEventAnchored := ⟨11, 12, 2, 0, 13, 0, .attempted, 1700000000, 1, 1⟩

def sampleMined : MinedTransaction sampleChain.registry :=
  ⟨⟨9, 2, .anchor ⟨11, 12, 0, 13, 0, .attempted⟩⟩,
    ⟨true, some 1, 9, 5, 3, [.anchored sampleAnchored]⟩⟩

theorem verification_exact_sampleChain : ∃ expected,
    runFrom sampleChain (fun _ _ => some 5) 0
      (verifySubmissionReceiptAnchor (fun _ => 0) (fun code => code.length) expected) =
        .ok (verifiedAs sampleMined sampleAnchored .attempted) := by
  obtain ⟨hcomplete, -⟩ := verification_exact (fun _ => 0) (fun code => code.length) sampleChain
    (by decide)
  obtain ⟨hexists, hverifies⟩ := hcomplete sampleMined (by decide) sampleAnchored rfl (by decide)
  obtain ⟨expected, -, hclaims⟩ := hexists .finalized
  have hstage : expected.stage = .attempted := by
    have hstage := hclaims.stage
    revert hstage
    cases expected.stage <;> decide
  exact ⟨expected, hstage ▸ hverifies expected hclaims (fun _ _ => some 5)
    fun _ _ => ⟨5, rfl, by decide⟩⟩

end exact

end SubmittedIt.ContractClient
