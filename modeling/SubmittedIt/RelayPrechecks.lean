/-
SubmittedIt/RelayPrechecks.lean

The relay's prechecks against the registry.

The relay restates the rules of `anchorEvent` before it sends anything: it
builds the call's arguments, checks the previous hash of the event's stage, and
compares the event with the state it reads from the registry.  `NextEvent` is
the part of the rules that both know.

`passesPrechecks_iff` reads the relay's checks as `NextEvent`, by the history
of the receipt that the registry keeps; `executeAnchor_iff` says what the
contract checks beyond them: the two zero arguments and the timestamp.

Main results: `prechecks_agree_iff`, and `zero_receipt_passes`, where they
disagree.
-/
import SubmittedIt.RegistryInvariant
import SubmittedIt.RelayRuns

namespace SubmittedIt.Relay

open Transaction ReceiptCore ContractClient

/-! ### The checks -/

/-- `getReceiptState` of the gateway, on a registry. -/
def getReceiptState (s : Registry) (receiptId eventHash : HashHex) : RelayContractState where
  currentStage := stageNumber (getReceipt s receiptId).currentStage
  eventCount := (getReceipt s receiptId).eventCount.toNat
  extensionKeyHash := (getReceipt s receiptId).extensionKeyHash
  isEventAnchored := isAnchored s eventHash
  latestEventHash := (getReceipt s receiptId).latestEventHash

/-- The event of a parsed request, as `#validateRequest` returns it. -/
def validatedEvent (P : RelayPlatform) (request : RelayEventRequest) (stage : RelayEventStage)
    (extensionKeyHash : Bytes32) : ValidatedRelayEvent where
  request := request
  stage := stage
  eventHash := request.event.eventHash
  extensionKeyHash := extensionKeyHash
  requestFingerprint := P.fingerprintRequest request.blobId request.event request.extensionPublicKey

/-- The checks that `relay` makes of an event before it estimates the fee. -/
structure PassesPrechecks (P : RelayPlatform) (config : RelayConfiguration)
    (event : ValidatedRelayEvent) (state : RelayContractState) : Prop where
  anchorRequest : ∃ request, buildAnchorRequest P config event = .ok request
  static : validateStaticTransition event = .ok ()
  notAnchored : state.isEventAnchored = false
  runtime : validateTransition event state = .ok ()

/-- The arguments of an event's anchor request. -/
def anchorArguments (event : ValidatedRelayEvent) : AnchorEventArguments where
  receiptId := event.request.event.core.receiptId
  eventHash := event.request.event.eventHash
  previousEventHash := event.request.event.core.previousEventHash
  extensionKeyHash := event.extensionKeyHash
  authorityKeyHash := 0
  stage := toContractReceiptStage event.request.event.core.stage

/-- `anchorEvent` called with the arguments. -/
def executeAnchor (s : Registry) (args : AnchorEventArguments) (sender : Address)
    (timestamp : BitVec 256) : Except SubmitError Registry :=
  match decodeStage args.stage with
  | none => .error (.stage args.stage)
  | some stage =>
    reported .registry (anchorEvent s {
      receiptId := args.receiptId
      eventHash := args.eventHash
      previousEventHash := args.previousEventHash
      extensionKeyHash := args.extensionKeyHash
      authorityKeyHash := args.authorityKeyHash
      stage, sender, timestamp })

/-- The relay's checks pass exactly when the contract takes the call. -/
def PrechecksAgree (P : RelayPlatform) (config : RelayConfiguration) (s : Registry)
    (event : ValidatedRelayEvent) (sender : Address) (timestamp : BitVec 256) : Prop :=
  PassesPrechecks P config event
      (getReceiptState s event.request.event.core.receiptId event.eventHash) ↔
    ∃ s', executeAnchor s (anchorArguments event) sender timestamp = .ok s'

/-- The event is one that its receipt's record can be continued with: its key
hash is nonzero, it is not anchored yet, and it is the first event of an empty
record, or links to the tip of a record at stage Attempted under the record's
key. -/
structure NextEvent (s : Registry) (event : ValidatedRelayEvent) : Prop where
  key : event.extensionKeyHash ≠ 0
  fresh : s.anchoredEvents event.request.event.eventHash = false
  follows :
    event.stage = .attempted ∧ event.request.event.core.previousEventHash = 0 ∧
      (s.receipts event.request.event.core.receiptId).currentStage = .none ∨
    event.stage = .siteConfirmed ∧ event.request.event.core.previousEventHash ≠ 0 ∧
      (s.receipts event.request.event.core.receiptId).currentStage = .attempted ∧
      (s.receipts event.request.event.core.receiptId).latestEventHash =
        event.request.event.core.previousEventHash ∧
      (s.receipts event.request.event.core.receiptId).extensionKeyHash = event.extensionKeyHash

section prechecks

variable {P : RelayPlatform} {config : RelayConfiguration} {s : Registry}
  {request : RelayEventRequest} {stage : RelayEventStage} {event : ValidatedRelayEvent}

/-! ### What the relay checks -/

/-- What the parser has checked of an accepted request. -/
theorem parse_checked (h : parseRelayEventRequest P (some request) = .ok (request, stage)) :
    request.event.core.stage = stage.toEventStage ∧
      request.event.eventHash = hashEventCore P.keccak request.event.core := by
  unfold parseRelayEventRequest at h
  dsimp only at h
  split at h
  · cases h
  rename_i stage' hstage
  split at h
  · cases h
  split at h
  · cases h
  rename_i hhash
  cases h
  refine ⟨?_, (not_not.mp hhash).symm⟩
  revert hstage
  rcases request.event.core.stage with - | - | - | - <;> intro hstage <;> cases hstage <;> rfl

/-- **An anchor request is built for an event of a nonzero key hash**, with the
event's arguments. -/
theorem buildAnchorRequest_eq_ok {anchorRequest : AnchorRequest}
    (hvalid : DeploymentTarget.Valid P.checksum ⟨config.contractAddress, config.chainId⟩)
    (hstage : event.request.event.core.stage = event.stage.toEventStage)
    (hhash : event.request.event.eventHash = hashEventCore P.keccak event.request.event.core) :
    buildAnchorRequest P config event = .ok anchorRequest ↔ event.extensionKeyHash ≠ 0 ∧
      ∃ address, toLowerCase config.contractAddress = .hex address 0 ∧
        anchorRequest = ⟨address, anchorArguments event, config.chainId, "anchorEvent",
          event.request.event.core.schemaVersion⟩ := by
  have hpos : 0 < (config.chainId : Int) := hvalid.chainId_pos
  have hle : (config.chainId : Int) ≤ 2 ^ 53 - 1 := hvalid.chainId_le
  have haddress := hvalid.address
  rcases haddr : config.contractAddress with ⟨a, upper⟩ | text
  swap
  · rw [haddr] at haddress
    cases haddress
  rw [haddr] at hvalid
  have hpayload : createChainAnchorPayload (Except.ok : Decoder LifecycleEventEnvelope) P.keccak
      event.request.event config.chainId (.hex a upper) =
        .ok ⟨config.chainId, a, event.request.event.eventHash,
          event.request.event.core.previousEventHash, event.request.event.core.receiptId,
          event.request.event.core.schemaVersion, event.request.event.core.stage⟩ :=
    createChainAnchorPayload_eq_ok.mpr ⟨event.request.event, config.chainId, a, ⟨rfl, hhash⟩,
      ⟨rfl, by omega, by omega⟩, ⟨upper, rfl⟩, rfl⟩
  have hauthority : ((0 : Bytes32) ≠ 0 ↔ event.request.event.core.stage.isAuthority = true) := by
    rw [hstage]
    rcases event.stage with - | - <;> simp [RelayEventStage.toEventStage, EventStage.isAuthority]
  unfold buildAnchorRequest
  rw [haddr, hpayload]
  dsimp only
  constructor
  · intro h
    split at h
    · cases h
    rename_i built hbuilt
    cases h
    obtain ⟨-, -, -, hkey, -, rfl⟩ := createAnchorRequestForTarget_eq_ok.mp hbuilt
    exact ⟨hkey, a, rfl, rfl⟩
  · rintro ⟨hkey, address, hlower, rfl⟩
    cases hlower
    rw [createAnchorRequestForTarget_eq_ok.mpr ⟨hvalid, rfl, rfl, hkey, hauthority, rfl⟩]
    rfl

theorem stageNumber_eq_zero {stage : ReceiptStage} : stageNumber stage = 0 ↔ stage = .none := by
  cases stage <;> simp [stageNumber]

theorem stageNumber_eq_one {stage : ReceiptStage} :
    stageNumber stage = 1 ↔ stage = .attempted := by
  cases stage <;> simp [stageNumber]

/-- **The relay's checks pass exactly for a next event** of a receipt with the
registry's history. -/
theorem passesPrechecks_iff
    (hvalid : DeploymentTarget.Valid P.checksum ⟨config.contractAddress, config.chainId⟩)
    (hstage : event.request.event.core.stage = event.stage.toEventStage)
    (hhash : event.request.event.eventHash = hashEventCore P.keccak event.request.event.core)
    (hevent : event.eventHash = event.request.event.eventHash) {es : List ReceiptEventAnchored}
    (hhistory : ReceiptHistory (s.receipts event.request.event.core.receiptId) es) :
    PassesPrechecks P config event
        (getReceiptState s event.request.event.core.receiptId event.eventHash) ↔
      NextEvent s event := by
  have hcount : (s.receipts event.request.event.core.receiptId).currentStage = .none →
      (s.receipts event.request.event.core.receiptId).eventCount = 0 ∧
        (s.receipts event.request.event.core.receiptId).latestEventHash = 0 :=
    fun hnone => ⟨hhistory.none_iff_count.mp hnone, hhistory.none_iff_latest.mp hnone⟩
  constructor
  · rintro ⟨⟨anchorRequest, hbuilt⟩, hstatic, hfresh, hruntime⟩
    have hkey := ((buildAnchorRequest_eq_ok hvalid hstage hhash).mp hbuilt).1
    rw [hevent] at hfresh hruntime
    refine ⟨hkey, hfresh, ?_⟩
    simp only [validateStaticTransition, bind_eq_ok, exists_const, revertIf_eq_ok, not_and,
      not_not] at hstatic
    rcases hcase : event.stage with - | -
    · simp only [validateTransition, hcase, revertIf_eq_ok, not_or, not_not] at hruntime
      exact .inl ⟨rfl, hstatic.1 hcase, stageNumber_eq_zero.mp hruntime.1⟩
    · simp only [validateTransition, hcase, bind_eq_ok, exists_const, revertIf_eq_ok, not_or,
        not_not] at hruntime
      exact .inr ⟨rfl, hstatic.2 hcase, stageNumber_eq_one.mp hruntime.2.1.1, hruntime.1,
        hruntime.2.2⟩
  · rintro ⟨hkey, hfresh, hfollows⟩
    have haddress := hvalid.address
    rcases haddr : config.contractAddress with ⟨a, upper⟩ | text
    swap
    · rw [haddr] at haddress
      cases haddress
    have hlower : toLowerCase config.contractAddress = .hex a 0 := by
      rw [haddr]
      rfl
    have hbuilt := (buildAnchorRequest_eq_ok hvalid hstage hhash).mpr ⟨hkey, a, hlower, rfl⟩
    refine ⟨⟨_, hbuilt⟩, ?_, by rw [hevent]; exact hfresh, ?_⟩
    · simp only [validateStaticTransition, bind_eq_ok, exists_const, revertIf_eq_ok, not_and,
        not_not]
      rcases hfollows with ⟨hcase, hprevious, -⟩ | ⟨hcase, hprevious, -⟩
      · exact ⟨fun _ => hprevious, fun hno => absurd (hcase.symm.trans hno) (by decide)⟩
      · exact ⟨fun hno => absurd (hcase.symm.trans hno) (by decide), fun _ => hprevious⟩
    · rcases hfollows with ⟨hcase, -, hnone⟩ | ⟨hcase, -, hattempted, hlatest, hsame⟩
      · obtain ⟨hzero, hlatest⟩ := hcount hnone
        simp only [validateTransition, hcase, revertIf_eq_ok, not_or, not_not]
        refine ⟨stageNumber_eq_zero.mpr hnone, ?_, hlatest⟩
        show (s.receipts event.request.event.core.receiptId).eventCount.toNat = 0
        rw [hzero]
        rfl
      · simp only [validateTransition, hcase, bind_eq_ok, exists_const, revertIf_eq_ok, not_or,
          not_not]
        refine ⟨hlatest, ⟨stageNumber_eq_one.mpr hattempted, ?_⟩, hsame⟩
        show (s.receipts event.request.event.core.receiptId).eventCount.toNat = 1
        rw [hhistory.attempted hattempted]
        rfl

/-! ### What the contract checks -/

/-- **The contract takes the call exactly for a next event** whose receipt
identifier and hash are nonzero, at a timestamp that fits. -/
theorem executeAnchor_iff (hstage : event.request.event.core.stage = event.stage.toEventStage)
    {es : List ReceiptEventAnchored}
    (hhistory : ReceiptHistory (s.receipts event.request.event.core.receiptId) es)
    (sender : Address) (timestamp : BitVec 256) :
    (∃ s', executeAnchor s (anchorArguments event) sender timestamp = .ok s') ↔
      (event.request.event.core.receiptId ≠ 0 ∧ event.request.event.eventHash ≠ 0 ∧
        timestamp.toNat < 2 ^ 64) ∧ NextEvent s event := by
  unfold executeAnchor anchorArguments
  dsimp only
  rw [decodeStage_toContractReceiptStage]
  simp only [reported_eq_ok, anchorEvent_eq_ok, exists_and_left, exists_eq,
    and_true]
  have hnonterminal : isTerminal (registryStage (.entered event.request.event.core.stage)) = false := by
    rw [isTerminal_registryStage, hstage]
    rcases event.stage with - | - <;> rfl
  constructor
  · intro hacc
    refine ⟨⟨hacc.receiptId_ne_zero, hacc.eventHash_ne_zero, hacc.timestamp_lt⟩,
      hacc.extensionKeyHash_ne_zero, hacc.fresh, ?_⟩
    have hprogresses := hacc.progresses
    have hstep := hprogresses.step
    dsimp only at hstep
    rw [hstage] at hstep
    rcases hcase : event.stage with - | -
    · left
      rw [hcase] at hstep
      have hnone : (s.receipts event.request.event.core.receiptId).currentStage = .none := by
        revert hstep
        rcases (s.receipts event.request.event.core.receiptId).currentStage with
          - | - | - | - | - <;> decide
      exact ⟨rfl, hprogresses.first hnone, hnone⟩
    · right
      rw [hcase] at hstep
      have hattempted :
          (s.receipts event.request.event.core.receiptId).currentStage = .attempted := by
        revert hstep
        rcases (s.receipts event.request.event.core.receiptId).currentStage with
          - | - | - | - | - <;> decide
      obtain ⟨hne, hlatest, hkey⟩ := hprogresses.later (by rw [hattempted]; decide)
      exact ⟨rfl, hne, hattempted, hlatest.symm, hkey.symm⟩
  · rintro ⟨⟨hid, hhash, htime⟩, hkey, hfresh, hfollows⟩
    refine ⟨hid, hhash, hkey, hfresh, ?_, ?_, htime, ?_⟩
    · rcases hfollows with ⟨hcase, hprevious, hnone⟩ |
        ⟨hcase, hprevious, hattempted, hlatest, hsame⟩
      · refine ⟨.inl ⟨hnone, ?_⟩, fun _ => hprevious, fun hno => absurd hnone hno⟩
        dsimp only
        rw [hstage, hcase]
        rfl
      · refine ⟨.inr ?_, fun hno => absurd (hattempted.symm.trans hno) (by decide),
          fun _ => ⟨hprevious, hlatest.symm, hsame.symm⟩⟩
        dsimp only
        rw [hstage, hcase, hattempted]
        rfl
    · dsimp only
      rw [hnonterminal]
      simp
    · -- a record that takes one of the relay's events has at most one event
      dsimp only
      rcases hfollows with ⟨-, -, hnone⟩ | ⟨-, -, hattempted, -⟩
      · rw [hhistory.none_iff_count.mp hnone]
        decide
      · rw [hhistory.attempted hattempted]
        decide

/-! ### Agreement -/

/-- **The relay's prechecks and the contract agree on an event exactly when**
its receipt identifier and hash are nonzero and the block's timestamp fits, or
it is not a next event. -/
theorem prechecks_agree_iff (calls : List AnchorEventCall)
    (hparsed : parseRelayEventRequest P (some request) = .ok (request, stage))
    (hloaded : Loaded config) (haddress : isAddress P.checksum config.contractAddress = true)
    (extensionKeyHash : Bytes32) (sender : Address) (timestamp : BitVec 256) :
    PrechecksAgree P config (Registry.run calls) (validatedEvent P request stage extensionKeyHash)
        sender timestamp ↔
      (request.event.core.receiptId ≠ 0 ∧ request.event.eventHash ≠ 0 ∧
        timestamp.toNat < 2 ^ 64) ∨
      ¬ NextEvent (Registry.run calls) (validatedEvent P request stage extensionKeyHash) := by
  obtain ⟨hstage, hhash⟩ := parse_checked hparsed
  have hvalid : DeploymentTarget.Valid P.checksum ⟨config.contractAddress, config.chainId⟩ := by
    obtain ⟨hpos, hle⟩ := hloaded.chainId
    refine ⟨?_, ?_, haddress⟩
    · show 0 < (config.chainId : Int)
      omega
    · show (config.chainId : Int) ≤ 2 ^ 53 - 1
      omega
  have hhistory := ((invariant_run calls).receipts request.event.core.receiptId).history
  have hpasses : PassesPrechecks P config (validatedEvent P request stage extensionKeyHash)
      (getReceiptState (Registry.run calls) request.event.core.receiptId request.event.eventHash) ↔
        NextEvent (Registry.run calls) (validatedEvent P request stage extensionKeyHash) :=
    passesPrechecks_iff hvalid hstage hhash rfl hhistory
  unfold PrechecksAgree
  refine (iff_congr hpasses (executeAnchor_iff hstage hhistory sender timestamp)).trans ?_
  constructor
  · intro hagree
    by_cases hnext : NextEvent (Registry.run calls) (validatedEvent P request stage extensionKeyHash)
    · exact .inl (hagree.mp hnext).1
    · exact .inr hnext
  · rintro (hnonzero | hnot)
    · exact ⟨fun hnext => ⟨hnonzero, hnext⟩, fun h => h.2⟩
    · exact ⟨fun hnext => absurd hnext hnot, fun h => absurd h.2 hnot⟩

end prechecks

theorem sampleRequest_parsed :
    parseRelayEventRequest samplePlatform (some sampleRequest) = .ok (sampleRequest, .attempted) :=
  rfl

theorem prechecks_agree_iff_sampleRequest :
    PrechecksAgree samplePlatform sampleConfiguration (Registry.run [])
      (validatedEvent samplePlatform sampleRequest .attempted 5) 2 0 :=
  (prechecks_agree_iff [] sampleRequest_parsed sampleConfiguration_loaded rfl 5 2 0).mpr
    (.inl (by decide))

/-- A request for the receipt zero. -/
def zeroRequest : RelayEventRequest where
  blobId := 4
  event := {
    authoritySignature := none
    chainAnchor := none
    core := { sampleCore with receiptId := 0 }
    eventHash := 7
    extensionSignature := some ⟨ascii "key", 8, ascii "sig"⟩
    authority_stage := nofun }
  extensionPublicKey := ⟨ascii "key", ascii "value"⟩
  idempotencyKey := none

/-- **The relay's checks pass for the receipt zero**, and the contract
reverts. -/
theorem zero_receipt_passes :
    parseRelayEventRequest samplePlatform (some zeroRequest) = .ok (zeroRequest, .attempted) ∧
      PassesPrechecks samplePlatform sampleConfiguration
        (validatedEvent samplePlatform zeroRequest .attempted 5)
        (getReceiptState (Registry.run []) 0 7) ∧
      executeAnchor (Registry.run [])
          (anchorArguments (validatedEvent samplePlatform zeroRequest .attempted 5)) 2 0
        = .error (.registry .zeroReceiptId) ∧
      ¬ PrechecksAgree samplePlatform sampleConfiguration (Registry.run [])
        (validatedEvent samplePlatform zeroRequest .attempted 5) 2 0 := by
  have hpasses : PassesPrechecks samplePlatform sampleConfiguration
      (validatedEvent samplePlatform zeroRequest .attempted 5)
      (getReceiptState (Registry.run []) 0 7) := ⟨⟨_, rfl⟩, rfl, rfl, rfl⟩
  have hreverts : executeAnchor (Registry.run [])
      (anchorArguments (validatedEvent samplePlatform zeroRequest .attempted 5)) 2 0
        = .error (.registry .zeroReceiptId) := rfl
  refine ⟨rfl, hpasses, hreverts, fun hagree => ?_⟩
  obtain ⟨s', hs'⟩ := hagree.mp hpasses
  cases hreverts.symm.trans hs'

end SubmittedIt.Relay
