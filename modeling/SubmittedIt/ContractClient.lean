/-
SubmittedIt/ContractClient.lean

Projection of an event to a registry call (packages/contract-client).

`createSubmissionReceiptRegistryAnchorRequestForTarget` checks a chain-anchor
payload against a configured deployment and builds the arguments of
`anchorEvent`.  The checks of the digits of hashes and of the payload's keys
hold of every typed payload and have no counterpart here.  The only part of
viem in play is `isAddress`: its strict form accepts the digits in lower case
and the checksummed spelling, whose letter cases are the parameter
`checksum`.

The stage travels as the number the contract's ABI gives it; `decodeStage`
is the ABI decoder's side of it, which rejects numbers outside the
enumeration.
-/
import SubmittedIt.Lifecycle

namespace SubmittedIt.ContractClient

open Transaction ReceiptCore

/-! ### Stages as numbers -/

/-- `CONTRACT_RECEIPT_STAGES`, and `toContractReceiptStage`. -/
def toContractReceiptStage : EventStage → Nat
  | .attempted => 1
  | .siteConfirmed => 2
  | .authorityAccepted => 3
  | .authorityRejected => 4

/-- The stage the contract reads for a number. -/
def decodeStage : Nat → Option ReceiptStage
  | 0 => some .none
  | 1 => some .attempted
  | 2 => some .siteConfirmed
  | 3 => some .authorityAccepted
  | 4 => some .authorityRejected
  | _ => none

/-- The contract's name for a lifecycle stage. -/
def registryStage : LifecycleStage → ReceiptStage
  | .none => .none
  | .entered .attempted => .attempted
  | .entered .siteConfirmed => .siteConfirmed
  | .entered .authorityAccepted => .authorityAccepted
  | .entered .authorityRejected => .authorityRejected

theorem decodeStage_toContractReceiptStage (stage : EventStage) :
    decodeStage (toContractReceiptStage stage) = some (registryStage (.entered stage)) := by
  cases stage <;> rfl

theorem isTerminal_registryStage (stage : EventStage) :
    isTerminal (registryStage (.entered stage)) = stage.isAuthority := by
  cases stage <;> rfl

/-- The two lifecycle tables agree. -/
theorem stageStep_registryStage (current : LifecycleStage) (requested : EventStage) :
    StageStep (registryStage current) (registryStage (.entered requested)) ↔
      ReceiptCore.isValidTransition current requested = true := by
  rcases current with - | current
  · cases requested <;> decide
  · cases current <;> cases requested <;> decide

/-! ### Addresses -/

/-- `toLowerCase`. -/
def toLowerCase : AddressText → AddressText
  | .hex value _ => .hex value 0
  | .other text => .other text.toLower

/-- viem's `isAddress` with `strict`: the letters are all in lower case, or
cased as the checksum wants them. -/
def isAddress (checksum : Address → BitVec 40) : AddressText → Bool
  | .hex value upper => upper = 0 || upper = checksum value
  | .other _ => false

/-- One hexadecimal digit of an address, the most significant one at 0. -/
def addressDigit (value : Address) (upper : BitVec 40) (i : Nat) : Char :=
  let digit := Nat.digitChar ((value.toNat / 16 ^ (39 - i)) % 16)
  if upper.getLsbD (39 - i) then digit.toUpper else digit

/-- The address as text. -/
def addressText : AddressText → String
  | .hex value upper => "0x" ++ String.ofList ((List.range 40).map (addressDigit value upper))
  | .other text => text

/-! ### The anchor request -/

/-- `ContractProjectionError`. -/
structure ContractProjectionError where
  message : String
  deriving DecidableEq

/-- `SubmissionReceiptRegistryDeploymentTarget`. -/
structure DeploymentTarget where
  address : AddressText
  chainId : Int
  deriving DecidableEq

/-- `AnchorEventArguments`. -/
structure AnchorEventArguments where
  receiptId : Bytes32
  eventHash : Bytes32
  previousEventHash : Bytes32
  extensionKeyHash : Bytes32
  authorityKeyHash : Bytes32
  stage : Nat
  deriving DecidableEq

/-- `SubmissionReceiptRegistryAnchorRequest`, its ABI apart. -/
structure AnchorRequest where
  address : AddressHex
  args : AnchorEventArguments
  chainId : Nat
  functionName : String
  schemaVersion : SchemaVersion
  deriving DecidableEq

/-- `createSubmissionReceiptRegistryAnchorRequestForTarget`. -/
def createAnchorRequestForTarget (checksum : Address → BitVec 40)
    (projection : ChainAnchorPayload) (extensionKeyHash authorityKeyHash : Bytes32)
    (target : DeploymentTarget) : Except ContractProjectionError AnchorRequest := do
  revertIf (projection.schemaVersion.major ≠ 1)
    ⟨"Unsupported receipt schema version: " ++ toString projection.schemaVersion.major ++ "." ++
      toString projection.schemaVersion.minor⟩
  revertIf (target.chainId > 2 ^ 53 - 1 ∨ target.chainId ≤ 0)
    ⟨"Configured registry chainId must be a positive integer"⟩
  revertIf (isAddress checksum target.address = false)
    ⟨"Configured registry contractAddress must be valid"⟩
  revertIf ((projection.chainId : Int) ≠ target.chainId)
    ⟨"Expected configured chain ID " ++ toString target.chainId ++ ", received " ++
      toString projection.chainId⟩
  let contractAddress := AddressText.hex projection.contractAddress 0
  revertIf (isAddress checksum contractAddress = false)
    ⟨"contractAddress must be a checksummed or lowercase address"⟩
  revertIf (toLowerCase contractAddress ≠ toLowerCase target.address)
    ⟨"Expected configured registry address " ++ addressText target.address ++ ", received " ++
      addressText contractAddress⟩
  revertIf (extensionKeyHash = 0) ⟨"extensionKeyHash must not be zero"⟩
  let stage := toContractReceiptStage projection.stage
  let isAuthorityStage :=
    projection.stage = .authorityAccepted || projection.stage = .authorityRejected
  revertIf (isAuthorityStage = true ∧ authorityKeyHash = 0)
    ⟨eventStageText projection.stage ++ " requires an authorityKeyHash"⟩
  revertIf (isAuthorityStage = false ∧ authorityKeyHash ≠ 0)
    ⟨eventStageText projection.stage ++ " forbids an authorityKeyHash"⟩
  return {
    address := projection.contractAddress
    args := {
      receiptId := projection.receiptId
      eventHash := projection.eventHash
      previousEventHash := projection.previousEventHash
      extensionKeyHash, authorityKeyHash, stage }
    chainId := projection.chainId
    functionName := "anchorEvent"
    schemaVersion := projection.schemaVersion }

/-! ### Submitting an event -/

/-- An event to be anchored: the value that holds it, the key hashes its
caller supplies, and the sender and block of the transaction. -/
structure AnchorInput (Raw : Type) where
  item : Raw
  extensionKeyHash : Bytes32
  authorityKeyHash : Bytes32
  sender : Address
  timestamp : BitVec 256

/-- Where submitting an event can stop. -/
inductive SubmitError
  | protocol (e : ProtocolError)
  | projection (e : ContractProjectionError)
  | stage (stage : Nat)
  | registry (e : RegistryError)
  deriving DecidableEq

/-- A result whose error is reported as a `SubmitError`. -/
def reported {ε α : Type} (report : ε → SubmitError) : Except ε α → Except SubmitError α
  | .ok a => .ok a
  | .error e => .error (report e)

section submit

variable {Raw : Type} (decode : Decoder Raw) (keccak : Keccak) (checksum : Address → BitVec 40)
  (target : DeploymentTarget)

/-- Project the event, encode the call and execute it on the registry. -/
def submit (s : Registry) (input : AnchorInput Raw) : Except SubmitError Registry := do
  let projection ← reported .protocol
    (createChainAnchorPayload decode keccak input.item target.chainId target.address)
  let request ← reported .projection
    (createAnchorRequestForTarget checksum projection input.extensionKeyHash
      input.authorityKeyHash target)
  let args := request.args
  match decodeStage args.stage with
  | none => .error (.stage args.stage)
  | some stage =>
    reported .registry (anchorEvent s {
      receiptId := args.receiptId
      eventHash := args.eventHash
      previousEventHash := args.previousEventHash
      extensionKeyHash := args.extensionKeyHash
      authorityKeyHash := args.authorityKeyHash
      stage
      sender := input.sender
      timestamp := input.timestamp })

end submit

/-! ### Inversion -/

/-- The call an event is projected to. -/
def anchorCall {Raw : Type} (input : AnchorInput Raw) (event : LifecycleEventEnvelope) :
    AnchorEventCall where
  receiptId := event.core.receiptId
  eventHash := event.eventHash
  previousEventHash := event.core.previousEventHash
  extensionKeyHash := input.extensionKeyHash
  authorityKeyHash := input.authorityKeyHash
  stage := registryStage (.entered event.core.stage)
  sender := input.sender
  timestamp := input.timestamp

/-- A configured deployment: a positive chain id and a valid address. -/
structure DeploymentTarget.Valid (checksum : Address → BitVec 40) (target : DeploymentTarget) :
    Prop where
  chainId_pos : 0 < target.chainId
  chainId_le : target.chainId ≤ 2 ^ 53 - 1
  address : isAddress checksum target.address = true

@[simp] theorem reported_eq_ok {ε α : Type} {report : ε → SubmitError} {x : Except ε α} {a : α} :
    reported report x = .ok a ↔ x = .ok a := by
  rcases x with e | b <;> simp [reported]

theorem createChainAnchorPayload_eq_ok {Raw : Type} {decode : Decoder Raw} {keccak : Keccak}
    {item : Raw} {chainId : Int} {address : AddressText} {payload : ChainAnchorPayload} :
    createChainAnchorPayload decode keccak item chainId address = .ok payload ↔
      ∃ event n a, (decode item = .ok event ∧ event.eventHash = hashEventCore keccak event.core) ∧
        (chainId = (n : Nat) ∧ 0 < n ∧ n ≤ 2 ^ 53 - 1) ∧
        (∃ upper, address = .hex a upper) ∧
        payload = ⟨n, a, event.eventHash, event.core.previousEventHash, event.core.receiptId,
          event.core.schemaVersion, event.core.stage⟩ := by
  unfold createChainAnchorPayload
  simp only [bind_eq_ok, parseHashedEventEnvelope_eq_ok, normalizePositiveSafeInteger_eq_ok,
    normalizeAddress_eq_ok]
  constructor
  · rintro ⟨event, hevent, n, hn, a, ha, hpure⟩
    cases hpure
    exact ⟨event, n, a, hevent, hn, ha, rfl⟩
  · rintro ⟨event, n, a, hevent, hn, ha, rfl⟩
    exact ⟨event, hevent, n, hn, a, ha, rfl⟩

theorem createAnchorRequestForTarget_eq_ok {checksum : Address → BitVec 40}
    {projection : ChainAnchorPayload} {extensionKeyHash authorityKeyHash : Bytes32}
    {target : DeploymentTarget} {request : AnchorRequest} :
    createAnchorRequestForTarget checksum projection extensionKeyHash authorityKeyHash target
        = .ok request ↔
      target.Valid checksum ∧ (projection.chainId : Int) = target.chainId ∧
        AddressText.hex projection.contractAddress 0 = toLowerCase target.address ∧
        extensionKeyHash ≠ 0 ∧
        (authorityKeyHash ≠ 0 ↔ projection.stage.isAuthority = true) ∧
        request = ⟨projection.contractAddress, ⟨projection.receiptId, projection.eventHash,
          projection.previousEventHash, extensionKeyHash, authorityKeyHash,
          toContractReceiptStage projection.stage⟩, projection.chainId, "anchorEvent",
          projection.schemaVersion⟩ := by
  have hmajor : projection.schemaVersion.major = 1 := projection.schemaVersion.supported
  have hstage : (projection.stage = .authorityAccepted || projection.stage = .authorityRejected)
      = projection.stage.isAuthority := by
    cases projection.stage <;> rfl
  have hlower : isAddress checksum (.hex projection.contractAddress 0) = true := by
    simp [isAddress]
  have hself : toLowerCase (.hex projection.contractAddress 0) =
      .hex projection.contractAddress 0 := rfl
  unfold createAnchorRequestForTarget
  simp only [bind_eq_ok, revertIf_eq_ok, exists_const, hmajor, hstage, hlower, hself]
  constructor
  · rintro ⟨-, hchain, haddr, hid, -, hsame, hkey, hauth, hother, hpure⟩
    cases hpure
    refine ⟨⟨by omega, by omega, by simpa using haddr⟩, by simpa using hid, by simpa using hsame,
      hkey, ?_, rfl⟩
    rcases hcase : projection.stage.isAuthority with - | - <;> simp_all
  · rintro ⟨hvalid, hid, hsame, hkey, hauth, rfl⟩
    have hpos := hvalid.chainId_pos
    have hle := hvalid.chainId_le
    refine ⟨by simp, by omega, by simp [hvalid.address], by simpa using hid, by simp,
      by simpa using hsame, hkey, ?_, ?_, rfl⟩
    · rintro ⟨hcase, hzero⟩
      exact hauth.mpr hcase hzero
    · rintro ⟨hcase, hne⟩
      simp [hauth.mp hne] at hcase

/-- **An event is submitted successfully exactly when it decodes to a
correctly hashed event, the deployment is configured, the key hashes suit its
stage and the registry accepts the call.** -/
theorem submit_eq_ok {Raw : Type} {decode : Decoder Raw} {keccak : Keccak}
    {checksum : Address → BitVec 40} {target : DeploymentTarget} {s s' : Registry}
    {input : AnchorInput Raw} :
    submit decode keccak checksum target s input = .ok s' ↔
      ∃ event, decode input.item = .ok event ∧
        event.eventHash = hashEventCore keccak event.core ∧ target.Valid checksum ∧
        Accepted s (anchorCall input event) ∧ s' = s.append (anchorCall input event) := by
  unfold submit
  simp only [bind_eq_ok, reported_eq_ok, createChainAnchorPayload_eq_ok,
    createAnchorRequestForTarget_eq_ok]
  constructor
  · rintro ⟨payload, ⟨event, n, a, ⟨hdecode, hhash⟩, -, -, rfl⟩, request,
      ⟨hvalid, -, -, -, -, rfl⟩, hcall⟩
    simp only [decodeStage_toContractReceiptStage, reported_eq_ok] at hcall
    obtain ⟨hacc, rfl⟩ := anchorEvent_eq_ok.mp hcall
    exact ⟨event, hdecode, hhash, hvalid, hacc, rfl⟩
  · rintro ⟨event, hdecode, hhash, hvalid, hacc, rfl⟩
    have haddr := hvalid.address
    rcases haddress : target.address with ⟨a, upper⟩ | text
    · obtain ⟨n, hn⟩ := Int.eq_ofNat_of_zero_le (Int.le_of_lt hvalid.chainId_pos)
      have hpos := hvalid.chainId_pos
      have hle := hvalid.chainId_le
      refine ⟨_, ⟨event, n, a, ⟨hdecode, hhash⟩, ⟨hn, by omega, by omega⟩, ⟨upper, rfl⟩,
        rfl⟩, _, ⟨hvalid, hn.symm, by simp [toLowerCase], hacc.extensionKeyHash_ne_zero,
        ?_, rfl⟩, ?_⟩
      · rw [← isTerminal_registryStage]
        exact hacc.authority
      · simp only [decodeStage_toContractReceiptStage, reported_eq_ok]
        exact anchorEvent_eq_ok.mpr ⟨hacc, rfl⟩
    · simp [haddress, isAddress] at haddr

end SubmittedIt.ContractClient
