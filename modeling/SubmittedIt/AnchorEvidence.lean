/-
SubmittedIt/AnchorEvidence.lean

Chain evidence in the index and in the bundles.

`Consistent` relates the anchor operations of the index to the anchors on the
events of the bundles: an event has an anchor exactly if its operation is
confirmed, and then they say the same.  `Evolves` relates an operation to what
it becomes while its receipt is kept.

The storage functions keep both when they are called as the anchor workflow
calls them (`WorkflowCall`): a save does not itself claim the evidence, and a
confirmation is of the transaction that was recorded.  They do not check
either; `anchor_claimed_by_save` and `transaction_replaced_by_confirmation`
are calls that succeed without.

Main result: `anchor_evidence`.
-/
import SubmittedIt.StorageRuns
import SubmittedIt.SignedEvents

namespace SubmittedIt.Extension

open Transaction ReceiptCore

variable {P : StoragePlatform}

/-! ### Evidence -/

/-- The anchor on the event that a hash names in the bundle of a receipt. -/
def chainAnchorOf (bundles : Bundles) (receiptId : ReceiptId) (eventHash : HashHex) :
    Option ChainAnchorMetadata :=
  ((bundles.get receiptId).bind (·.signed eventHash)).bind (·.chainAnchor)

/-- The operation says what the anchor says. -/
structure Evidence (operation : AnchorOperation) (anchor : ChainAnchorMetadata) : Prop where
  state : operation.state = .chainEvidenceConfirmed
  transactionHash : operation.transactionHash = some anchor.transactionHash
  blockNumber : operation.blockNumber = some anchor.blockNumber
  anchoredAt : operation.anchoredAt = some anchor.anchoredAt
  chainId : operation.chainId = anchor.chainId

/-- Operations are confirmed exactly where events are anchored. -/
structure Consistent (bundles : Bundles) (operations : List AnchorOperation) : Prop where
  anchored : ∀ receiptId eventHash anchor, chainAnchorOf bundles receiptId eventHash = some anchor →
    ∃ operation ∈ operations, operation.receiptId = receiptId ∧ operation.eventHash = eventHash ∧
      Evidence operation anchor
  confirmed : ∀ operation ∈ operations, operation.state = .chainEvidenceConfirmed →
    (chainAnchorOf bundles operation.receiptId operation.eventHash).isSome = true

theorem chainAnchorOf_eq_some {bundles : Bundles} {receiptId : ReceiptId} {eventHash : HashHex}
    {anchor : ChainAnchorMetadata} (h : chainAnchorOf bundles receiptId eventHash = some anchor) :
    ∃ bundle event, bundles.get receiptId = some bundle ∧ bundle.signed eventHash = some event ∧
      event.chainAnchor = some anchor := by
  obtain ⟨event, hevent, hanchor⟩ := Option.bind_eq_some_iff.mp h
  obtain ⟨bundle, hbundle, hevent⟩ := Option.bind_eq_some_iff.mp hevent
  exact ⟨bundle, event, hbundle, hevent, hanchor⟩

theorem chainAnchorOf_of_get {bundles : Bundles} {receiptId : ReceiptId}
    {bundle : PrivateReceiptBundle} (h : bundles.get receiptId = some bundle)
    (eventHash : HashHex) :
    chainAnchorOf bundles receiptId eventHash = (bundle.signed eventHash).bind (·.chainAnchor) := by
  rw [chainAnchorOf, h, Option.bind_some]

theorem Consistent.nil : Consistent [] [] :=
  ⟨fun _ _ _ h => (Option.some_ne_none _ h.symm).elim, fun _ h => absurd h List.not_mem_nil⟩

/-- What the operation of an event says of it, where the operation matches. -/
theorem Consistent.iff {bundles : Bundles} {operations : List AnchorOperation}
    (h : Consistent bundles operations) (hnodup : (operations.map (·.eventHash)).Nodup)
    {operation : AnchorOperation} (hoperation : operation ∈ operations)
    (hmatches : operationMatches (bundles.get operation.receiptId) operation = true) :
    ∃ bundle event, bundles.get operation.receiptId = some bundle ∧
      bundle.signed operation.eventHash = some event ∧
      (operation.state = .chainEvidenceConfirmed ↔ event.chainAnchor ≠ none) ∧
      ∀ anchor, event.chainAnchor = some anchor → Evidence operation anchor := by
  obtain ⟨event, hevent, -⟩ := (Option.any_eq_true _ _).mp hmatches
  obtain ⟨bundle, hbundle, hfound⟩ := Option.bind_eq_some_iff.mp hevent
  have hanchor : chainAnchorOf bundles operation.receiptId operation.eventHash =
      event.chainAnchor := by
    have hsigned : bundle.signed operation.eventHash = some event := hfound
    rw [chainAnchorOf_of_get hbundle, hsigned, Option.bind_some]
  have hevidence : ∀ anchor, event.chainAnchor = some anchor → Evidence operation anchor := by
    intro anchor hsome
    obtain ⟨other, hother, -, hhash, hevidence⟩ :=
      h.anchored operation.receiptId operation.eventHash anchor (hanchor.trans hsome)
    rw [← List.inj_on_of_nodup_map hnodup hother hoperation hhash]
    exact hevidence
  refine ⟨bundle, event, hbundle, hfound, ⟨fun hconfirmed => ?_, fun hsome => ?_⟩, hevidence⟩
  · have hsome := h.confirmed operation hoperation hconfirmed
    rw [hanchor] at hsome
    exact Option.isSome_iff_ne_none.mp hsome
  · obtain ⟨anchor, hanchored⟩ := Option.ne_none_iff_exists'.mp hsome
    exact (hevidence anchor hanchored).state

/-! ### Operations over time -/

/-- What an operation becomes: it is for the same event, what was set stays as
it was, the counters do not decrease and what was confirmed stays so. -/
structure Evolves (previous next : AnchorOperation) : Prop where
  chainId : next.chainId = previous.chainId
  contractAddress : next.contractAddress = previous.contractAddress
  createdAt : next.createdAt = previous.createdAt
  eventCount : next.eventCount = previous.eventCount
  eventHash : next.eventHash = previous.eventHash
  idempotencyKey : next.idempotencyKey = previous.idempotencyKey
  relayBaseUrl : next.relayBaseUrl = previous.relayBaseUrl
  receiptId : next.receiptId = previous.receiptId
  stage : next.stage = previous.stage
  relayBlobId : ∀ id, previous.relayBlobId = some id → next.relayBlobId = some id
  statusToken : ∀ token, previous.statusToken = some token → next.statusToken = some token
  transactionHash : ∀ hash, previous.transactionHash = some hash → next.transactionHash = some hash
  polls : previous.counters.polls ≤ next.counters.polls
  relayRequests : previous.counters.relayRequests ≤ next.counters.relayRequests
  uploads : previous.counters.uploads ≤ next.counters.uploads
  verifications : previous.counters.verifications ≤ next.counters.verifications
  confirmed : previous.state = .chainEvidenceConfirmed → next.state = .chainEvidenceConfirmed

theorem Evolves.refl (operation : AnchorOperation) : Evolves operation operation :=
  ⟨rfl, rfl, rfl, rfl, rfl, rfl, rfl, rfl, rfl, fun _ h => h, fun _ h => h, fun _ h => h, le_rfl,
    le_rfl, le_rfl, le_rfl, fun h => h⟩

theorem Evolves.trans {first second third : AnchorOperation} (h : Evolves first second)
    (h' : Evolves second third) : Evolves first third where
  chainId := h'.chainId.trans h.chainId
  contractAddress := h'.contractAddress.trans h.contractAddress
  createdAt := h'.createdAt.trans h.createdAt
  eventCount := h'.eventCount.trans h.eventCount
  eventHash := h'.eventHash.trans h.eventHash
  idempotencyKey := h'.idempotencyKey.trans h.idempotencyKey
  relayBaseUrl := h'.relayBaseUrl.trans h.relayBaseUrl
  receiptId := h'.receiptId.trans h.receiptId
  stage := h'.stage.trans h.stage
  relayBlobId := fun id hid => h'.relayBlobId id (h.relayBlobId id hid)
  statusToken := fun token ht => h'.statusToken token (h.statusToken token ht)
  transactionHash := fun hash hh => h'.transactionHash hash (h.transactionHash hash hh)
  polls := h.polls.trans h'.polls
  relayRequests := h.relayRequests.trans h'.relayRequests
  uploads := h.uploads.trans h'.uploads
  verifications := h.verifications.trans h'.verifications
  confirmed := fun hs => h'.confirmed (h.confirmed hs)

/-- **What a save keeps.** -/
theorem evolves_of_keepsEvidence {previous next : AnchorOperation}
    (h : keepsEvidence previous next = true) :
    Evolves previous next ∧ previous.state ≠ .chainEvidenceConfirmed := by
  unfold keepsEvidence at h
  simp only [Bool.and_eq_true, Bool.or_eq_true, decide_eq_true_eq] at h
  obtain ⟨⟨⟨⟨⟨⟨⟨⟨⟨⟨⟨⟨⟨⟨⟨⟨hchain, hcontract⟩, hcreated⟩, hcount⟩, hevent⟩, hkey⟩, hurl⟩, hreceipt⟩,
    hstage⟩, hblob⟩, htoken⟩, hhash⟩, hpolls⟩, hrequests⟩, huploads⟩, hverifications⟩, hstate⟩ := h
  refine ⟨⟨hchain.symm, hcontract.symm, hcreated.symm, hcount.symm, hevent.symm, hkey.symm,
    hurl.symm, hreceipt.symm, hstage.symm, fun id hid => ?_, fun token ht => ?_, fun hash hh => ?_,
    hpolls, hrequests, huploads, hverifications, fun h => absurd h hstate⟩, hstate⟩
  · rw [hid] at hblob
    exact (hblob.resolve_left (Option.some_ne_none _)).symm
  · rw [ht] at htoken
    exact (htoken.resolve_left (Option.some_ne_none _)).symm
  · rw [hh] at hhash
    exact (hhash.resolve_left (Option.some_ne_none _)).symm

/-- What a confirmation keeps, of the transaction that was recorded. -/
theorem evolves_confirm {operation : AnchorOperation} {input : VerifiedChainAnchor}
    (now : Timestamp)
    (hrecorded : ∀ hash, operation.transactionHash = some hash → hash = input.transactionHash) :
    Evolves operation (operation.confirm input now) := by
  refine ⟨rfl, rfl, rfl, rfl, rfl, rfl, rfl, rfl, rfl, fun _ h => h, fun _ h => h,
    fun hash h => ?_, le_rfl, le_rfl, le_rfl, le_rfl, fun _ => rfl⟩
  rw [hrecorded hash h]
  rfl

/-! ### What the storage functions do to the evidence -/

/-- The events of stored bundles, as they were before they were signed. -/
def Bundles.events (bundles : Bundles) : List LifecycleEventEnvelope :=
  bundles.receipts.flatMap operationalEvents

/-- The bundle of a receipt is verified and says that receipt. -/
def Bundles.Sound (P : StoragePlatform) (bundles : Bundles) : Prop :=
  ∀ receiptId bundle, bundles.get receiptId = some bundle →
    Verified P bundle ∧ bundle.operational.receiptId = receiptId

theorem Settled.sound {s : World P} {loaded : LoadedSecureExtensionState} (h : Settled s loaded) :
    Bundles.Sound P loaded.bundles := by
  intro receiptId bundle hbundle
  obtain ⟨hid, hverified⟩ :=
    h.readable.opened.bundles.receiptIds _ (Bundles.get_mem hbundle)
  exact ⟨hverified, hid⟩

theorem Bundles.events_of_get {bundles : Bundles} {receiptId : ReceiptId}
    {bundle : PrivateReceiptBundle} (h : bundles.get receiptId = some bundle) :
    operationalEvents bundle.operational ⊆ bundles.events := fun _ hevent =>
  List.mem_flatMap.mpr ⟨_, List.mem_map_of_mem (Bundles.get_mem h), hevent⟩

/-- **A bundle made anew keeps the anchors** of the events that it still has. -/
theorem Secured.anchor {bundles : Bundles} (hsound : bundles.Sound P)
    {operational : StoredAttemptReceipt} {bundle : PrivateReceiptBundle}
    (h : Secured P bundles operational bundle)
    (hapart : HashesApart P.keccak (bundles.events ++ operationalEvents operational))
    {eventHash : HashHex} {event : LifecycleEventEnvelope}
    (hevent : bundle.signed eventHash = some event) :
    event.chainAnchor = chainAnchorOf bundles operational.receiptId eventHash := by
  rcases h with ⟨hsame, -⟩ | ⟨identity, draw, verifiedAt, hmade⟩
  · rw [chainAnchorOf_of_get hsame, hevent, Option.bind_some]
  · rcases hexisting : bundles.get operational.receiptId with - | existing
    · rw [hexisting] at hmade
      rw [createOrUpdate_signed_new hmade rfl hevent, chainAnchorOf, hexisting]
      rfl
    · rw [hexisting] at hmade
      rw [chainAnchorOf_of_get hexisting]
      rcases hprior : existing.signed eventHash with - | prior
      · exact createOrUpdate_signed_new hmade hprior hevent
      · have hsubset : operationalEvents existing.operational ++ operationalEvents operational ⊆
            bundles.events ++ operationalEvents operational :=
          List.append_subset.mpr ⟨fun e he =>
            List.mem_append_left _ (Bundles.events_of_get hexisting he),
            fun e he => List.mem_append_right _ he⟩
        rw [createOrUpdate_signed hmade (hsound _ _ hexisting).1 (hapart.mono hsubset) hprior hevent]
        rfl

theorem SavedAs.of_get {bundles bundles' : Bundles} {receipts : List StoredAttemptReceipt}
    (h : SavedAs P bundles receipts bundles') {receiptId : ReceiptId}
    {bundle : PrivateReceiptBundle} (hget : bundles'.get receiptId = some bundle) :
    ∃ operational ∈ receipts, operational.receiptId = receiptId ∧
      Secured P bundles operational bundle := by
  induction h with
  | nil => cases hget
  | @cons operational named _ _ hfirst _ ih =>
    rw [Bundles.get_cons] at hget
    split at hget
    · next hid =>
      cases hget
      exact ⟨operational, List.mem_cons_self, hfirst.1.symm.trans hid, hfirst.2⟩
    · obtain ⟨operational, hmem, hsecured⟩ := ih hget
      exact ⟨operational, List.mem_cons_of_mem _ hmem, hsecured⟩

/-- An operation that matches names an event of its bundle. -/
theorem signed_of_operationMatches {bundles : Bundles} {operation : AnchorOperation}
    (h : operationMatches (bundles.get operation.receiptId) operation = true) :
    ∃ bundle event, bundles.get operation.receiptId = some bundle ∧
      bundle.signed operation.eventHash = some event := by
  obtain ⟨event, hevent, -⟩ := (Option.any_eq_true _ _).mp h
  obtain ⟨bundle, hbundle, hfound⟩ := Option.bind_eq_some_iff.mp hevent
  exact ⟨bundle, event, hbundle, hfound⟩

/-- **A save keeps the evidence** of the receipts that it keeps. -/
theorem Consistent.save {bundles bundles' : Bundles} {operations : List AnchorOperation}
    (h : Consistent bundles operations) (hsound : bundles.Sound P)
    {receipts : List StoredAttemptReceipt} (hsaved : SavedAs P bundles receipts bundles')
    (hapart : HashesApart P.keccak (bundles.events ++ receipts.flatMap operationalEvents))
    (hmatches : ∀ operation ∈ operations.filter fun operation =>
        operation.receiptId ∈ receipts.map (·.receiptId),
      operationMatches (bundles'.get operation.receiptId) operation = true) :
    Consistent bundles' (operations.filter fun operation =>
      operation.receiptId ∈ receipts.map (·.receiptId)) := by
  have hanchor : ∀ receiptId bundle eventHash event, bundles'.get receiptId = some bundle →
      bundle.signed eventHash = some event →
      event.chainAnchor = chainAnchorOf bundles receiptId eventHash ∧
        receiptId ∈ receipts.map (·.receiptId) := by
    intro receiptId bundle eventHash event hbundle hevent
    obtain ⟨operational, hmem, rfl, hsecured⟩ := hsaved.of_get hbundle
    refine ⟨hsecured.anchor hsound (hapart.mono ?_) hevent, List.mem_map_of_mem hmem⟩
    exact List.append_subset.mpr ⟨fun e he => List.mem_append_left _ he,
      fun e he => List.mem_append_right _ (List.mem_flatMap.mpr ⟨operational, hmem, he⟩)⟩
  constructor
  · intro receiptId eventHash anchor hsome
    obtain ⟨bundle, event, hbundle, hevent, hanchored⟩ := chainAnchorOf_eq_some hsome
    obtain ⟨hold, hmem⟩ := hanchor receiptId bundle eventHash event hbundle hevent
    obtain ⟨operation, hoperation, rfl, hhash, hevidence⟩ :=
      h.anchored receiptId eventHash anchor (hold.symm.trans hanchored)
    exact ⟨operation, List.mem_filter.mpr ⟨hoperation, decide_eq_true hmem⟩, rfl, hhash, hevidence⟩
  · intro operation hoperation hconfirmed
    obtain ⟨bundle, event, hbundle, hevent⟩ :=
      signed_of_operationMatches (hmatches operation hoperation)
    obtain ⟨hold, -⟩ := hanchor _ bundle _ event hbundle hevent
    rw [chainAnchorOf_of_get hbundle, hevent, Option.bind_some, hold]
    exact h.confirmed operation (List.mem_of_mem_filter hoperation) hconfirmed

/-- **An import has no evidence** of its own, and keeps that of the other
receipts. -/
theorem Consistent.import {bundles : Bundles} {operations : List AnchorOperation}
    (h : Consistent bundles operations) (receiptId : ReceiptId) {bundle : PrivateReceiptBundle}
    (hbundle : (bundle.receipt.events.any fun event => event.chainAnchor.isSome) = false) :
    Consistent ((receiptId, bundle) :: bundles.filter fun named => named.1 ≠ receiptId)
      (operations.filter fun operation => operation.receiptId ≠ receiptId) := by
  have hother : ∀ other eventHash, other ≠ receiptId →
      chainAnchorOf ((receiptId, bundle) :: bundles.filter fun named => named.1 ≠ receiptId) other
        eventHash = chainAnchorOf bundles other eventHash := by
    intro other eventHash hne
    rw [chainAnchorOf, Bundles.get_cons, if_neg hne.symm, Bundles.get_filter hne]
    rfl
  constructor
  · intro other eventHash anchor hsome
    rcases eq_or_ne other receiptId with rfl | hne
    · obtain ⟨found, event, hfound, hevent, hanchored⟩ := chainAnchorOf_eq_some hsome
      rw [Bundles.get_cons, if_pos rfl] at hfound
      cases hfound
      have hnone := List.any_eq_false.mp hbundle event
        (PrivateReceiptBundle.signed_eq_some hevent).1
      rw [hanchored] at hnone
      exact absurd rfl hnone
    · rw [hother other eventHash hne] at hsome
      obtain ⟨operation, hoperation, rfl, hhash, hevidence⟩ := h.anchored other eventHash anchor hsome
      exact ⟨operation, List.mem_filter.mpr ⟨hoperation, decide_eq_true hne⟩, rfl, hhash, hevidence⟩
  · intro operation hoperation hconfirmed
    obtain ⟨hmem, hne⟩ := List.mem_filter.mp hoperation
    rw [hother _ _ (of_decide_eq_true hne)]
    exact h.confirmed operation hmem hconfirmed

/-- **A save of an operation claims no evidence** and loses none. -/
theorem Consistent.saveAnchor {bundles : Bundles} {operations : List AnchorOperation}
    (h : Consistent bundles operations) (hnodup : (operations.map (·.eventHash)).Nodup)
    {operation : AnchorOperation} (hsaves : SavesAnchor bundles operations operation)
    (hstate : operation.state ≠ .chainEvidenceConfirmed) :
    Consistent bundles (operation :: operations.filter fun candidate =>
      candidate.eventHash ≠ operation.eventHash) := by
  constructor
  · intro receiptId eventHash anchor hsome
    obtain ⟨stored, hstored, hid, hhash, hevidence⟩ := h.anchored receiptId eventHash anchor hsome
    refine ⟨stored, List.mem_cons_of_mem _ (List.mem_filter.mpr ⟨hstored, decide_eq_true ?_⟩), hid,
      hhash, hevidence⟩
    -- a confirmed operation is not rewritten
    intro hsame
    rcases hfound : operations.find? fun candidate =>
        candidate.eventHash = operation.eventHash with - | previous
    · exact List.find?_eq_none.mp hfound stored hstored (decide_eq_true hsame)
    · have hprevious := List.find?_some hfound
      have heq : previous = stored := List.inj_on_of_nodup_map hnodup
        (List.mem_of_find?_eq_some hfound) hstored ((of_decide_eq_true hprevious).trans hsame.symm)
      exact (evolves_of_keepsEvidence (hsaves.keeps previous hfound)).2 (heq ▸ hevidence.state)
  · intro candidate hcandidate hconfirmed
    rcases List.mem_cons.mp hcandidate with rfl | hmem
    · exact absurd hconfirmed hstate
    · exact h.confirmed candidate (List.mem_of_mem_filter hmem) hconfirmed

/-- **A confirmation is consistent**: the operation and the event say the
same. -/
theorem Consistent.storeAnchor {bundles : Bundles} {operations : List AnchorOperation}
    (h : Consistent bundles operations) (hnodup : (operations.map (·.eventHash)).Nodup)
    {input : VerifiedChainAnchor} {now : Timestamp} {operation : AnchorOperation}
    {bundle anchored : PrivateReceiptBundle}
    (hconfirms : ConfirmsAnchor P bundles operations input now operation bundle anchored) :
    Consistent (bundles.set operation.receiptId anchored) (operations.map fun candidate =>
      if candidate.eventHash = input.eventHash then operation.confirm input now
      else candidate) := by
  obtain ⟨hmem, hhash⟩ := hconfirms.eventHash
  obtain ⟨event, -, hattached⟩ := attach_signed hconfirms.attached
  -- the anchor that was attached, and the others
  have hnew : chainAnchorOf (bundles.set operation.receiptId anchored) operation.receiptId
      input.eventHash = some ⟨input.anchoredAt, input.blockNumber, input.chainId,
        input.contractAddress, input.transactionHash⟩ := by
    rw [chainAnchorOf_of_get (Bundles.get_set hconfirms.stored anchored), hattached]
    rfl
  have hold : ∀ receiptId eventHash,
      ¬ (receiptId = operation.receiptId ∧ eventHash = input.eventHash) →
      chainAnchorOf (bundles.set operation.receiptId anchored) receiptId eventHash =
        chainAnchorOf bundles receiptId eventHash := by
    intro receiptId eventHash hne
    by_cases hid : receiptId = operation.receiptId
    · subst hid
      rw [chainAnchorOf_of_get (Bundles.get_set hconfirms.stored anchored),
        chainAnchorOf_of_get hconfirms.stored,
        attach_signed_of_ne hconfirms.attached fun heq => hne ⟨rfl, heq⟩]
    · rw [chainAnchorOf, Bundles.get_set_ne hid]
      rfl
  constructor
  · intro receiptId eventHash anchor hsome
    by_cases hsame : receiptId = operation.receiptId ∧ eventHash = input.eventHash
    · obtain ⟨rfl, rfl⟩ := hsame
      rw [hnew] at hsome
      cases hsome
      exact ⟨operation.confirm input now, List.mem_map.mpr ⟨operation, hmem, if_pos hhash⟩, rfl,
        hhash, rfl, rfl, rfl, rfl, hconfirms.chainId⟩
    · rw [hold _ _ hsame] at hsome
      obtain ⟨stored, hstored, rfl, rfl, hevidence⟩ := h.anchored _ _ _ hsome
      refine ⟨stored, List.mem_map.mpr ⟨stored, hstored, if_neg fun heq => ?_⟩, rfl, rfl, hevidence⟩
      have hoperation : stored = operation :=
        List.inj_on_of_nodup_map hnodup hstored hmem (heq.trans hhash.symm)
      exact hsame ⟨congrArg _ hoperation, heq⟩
  · intro candidate hcandidate hconfirmed
    obtain ⟨stored, hstored, rfl⟩ := List.mem_map.mp hcandidate
    split at hconfirmed
    · next hsame =>
      rw [if_pos hsame]
      show (chainAnchorOf _ operation.receiptId operation.eventHash).isSome = true
      rw [hhash, hnew]
      rfl
    · next hne =>
      rw [if_neg hne, hold _ _ fun hsame => hne hsame.2]
      exact h.confirmed stored hstored hconfirmed

/-! ### Calls of the workflow -/

/-- The anchor operations of a stored index. -/
def StoredValue.operations : StoredValue → List AnchorOperation
  | .current state => state.anchorOperations
  | .absent | .legacyEncrypted _ | .malformed _ | .plaintext _ => []

namespace StorageCommand

/-- The events that a call brings into the store. -/
def events : StorageCommand → List LifecycleEventEnvelope
  | save working _ => working.receiptIndex.flatMap operationalEvents
  | importBundle (some given) _ _ => operationalEvents given.operational
  | _ => []

/-- The call neither drops nor replaces the receipt. -/
def keeps (receiptId : ReceiptId) : StorageCommand → Bool
  | save working _ => receiptId ∈ working.receiptIndex.map (·.receiptId)
  | importBundle (some given) _ _ => receiptId ≠ given.operational.receiptId
  | delete other _ => receiptId ≠ other
  | deleteAll _ => false
  | importBundle none _ _ | load _ _ | ensureAnchor _ | saveAnchor _ | storeAnchor _ _ => true

end StorageCommand

/-- How the anchor workflow calls the storage functions: an operation that it
saves does not claim the evidence, and the transaction that it confirms is the
one that the stored operation records, where it records one. -/
def WorkflowCall (command : StorageCommand) (w : World P) : Prop :=
  match command with
  | .saveAnchor operation => operation.state ≠ .chainEvidenceConfirmed
  | .storeAnchor input _ => ∀ operation ∈ w.area.operations,
      operation.eventHash = input.eventHash →
        ∀ hash, operation.transactionHash = some hash → hash = input.transactionHash
  | _ => True

/-- A run of successful calls, made as the workflow makes them. -/
inductive WorkflowRun : List StorageCommand → World P → World P → Prop
  | nil (w : World P) : WorkflowRun [] w w
  | cons {command : StorageCommand} {commands : List StorageCommand} {w s t : World P}
      (call : WorkflowCall command w) (succeeds : command.prog.run (exec P) w = (.ok (), s))
      (rest : WorkflowRun commands s t) : WorkflowRun (command :: commands) w t

/-- The stored operations are those of the area. -/
theorem Settled.operations {s : World P} {loaded : LoadedSecureExtensionState}
    (h : Settled s loaded) : s.area.operations = loaded.persistent.anchorOperations := by
  rw [h.area]
  rfl

/-- What holds between the calls of a run. -/
structure Attested (events : List LifecycleEventEnvelope) (w : World P) (bundles : Bundles)
    (operations : List AnchorOperation) : Prop where
  stocked : Stocked w bundles operations
  stored : w.area.operations = operations
  consistent : Consistent bundles operations
  known : bundles.events ⊆ events

/-- What a call does to the operations of the receipts it keeps. -/
def EvolvesAll (command : StorageCommand) (operations operations' : List AnchorOperation) : Prop :=
  ∀ operation ∈ operations, command.keeps operation.receiptId = true →
    ∃ operation' ∈ operations', Evolves operation operation'

theorem EvolvesAll.refl (command : StorageCommand) (operations : List AnchorOperation) :
    EvolvesAll command operations operations :=
  fun operation hoperation _ => ⟨operation, hoperation, .refl operation⟩

/-- The operations of the receipts that are kept are left as they are. -/
theorem EvolvesAll.filter {command : StorageCommand} {operations : List AnchorOperation}
    {p : AnchorOperation → Bool}
    (h : ∀ operation ∈ operations, command.keeps operation.receiptId = true →
      p operation = true) : EvolvesAll command operations (operations.filter p) :=
  fun operation hoperation hkeeps =>
    ⟨operation, List.mem_filter.mpr ⟨hoperation, h operation hoperation hkeeps⟩, .refl operation⟩

/-- A saved operation is what the stored one becomes. -/
theorem EvolvesAll.saveAnchor {command : StorageCommand} {bundles : Bundles}
    {operations : List AnchorOperation} (hnodup : (operations.map (·.eventHash)).Nodup)
    {operation : AnchorOperation} (h : SavesAnchor bundles operations operation) :
    EvolvesAll command operations (operation :: operations.filter fun candidate =>
      candidate.eventHash ≠ operation.eventHash) := by
  intro stored hstored _
  by_cases hsame : stored.eventHash = operation.eventHash
  · refine ⟨operation, List.mem_cons_self, ?_⟩
    rcases hfound : operations.find? fun candidate =>
        candidate.eventHash = operation.eventHash with - | previous
    · exact absurd (decide_eq_true hsame) (List.find?_eq_none.mp hfound stored hstored)
    · have hprevious := List.find?_some hfound
      have heq : previous = stored := List.inj_on_of_nodup_map hnodup
        (List.mem_of_find?_eq_some hfound) hstored ((of_decide_eq_true hprevious).trans hsame.symm)
      exact heq ▸ (evolves_of_keepsEvidence (h.keeps previous hfound)).1
  · exact ⟨stored, List.mem_cons_of_mem _ (List.mem_filter.mpr ⟨hstored, decide_eq_true hsame⟩),
      .refl stored⟩

theorem createAnchorOperation_state {input : CreateAnchorOperation} {operation : AnchorOperation}
    (h : createAnchorOperation input = .ok operation) :
    operation.state ≠ .chainEvidenceConfirmed := by
  unfold createAnchorOperation at h
  dsimp only at h
  split at h
  · cases h
    exact AnchorOperationState.noConfusion
  · cases h

theorem Bundles.events_filter (bundles : Bundles) (receiptId : ReceiptId) :
    Bundles.events (bundles.filter fun named => named.1 ≠ receiptId) ⊆ bundles.events := by
  intro event hevent
  obtain ⟨receipt, hreceipt, hevent⟩ := List.mem_flatMap.mp hevent
  obtain ⟨named, hnamed, rfl⟩ := List.mem_map.mp hreceipt
  exact List.mem_flatMap.mpr ⟨_, List.mem_map_of_mem (List.mem_of_mem_filter hnamed), hevent⟩

/-- **One call** keeps the evidence, and the operations of the receipts it
keeps evolve. -/
theorem Attested.step {events : List LifecycleEventEnvelope}
    (hapart : HashesApart P.keccak events) {command : StorageCommand}
    (hevents : command.events ⊆ events) {w t : World P} {bundles : Bundles}
    {operations : List AnchorOperation} (hw : Attested events w bundles operations)
    (hcall : WorkflowCall command w) (h : command.prog.run (exec P) w = (.ok (), t)) :
    ∃ bundles' operations', Attested events t bundles' operations' ∧
      EvolvesAll command operations operations' := by
  obtain ⟨before, s₀, hbefore, rfl, rfl⟩ := hw.stocked.settled
  have hnodup := hbefore.readable.valid.eventHashes
  have hconsistent := hw.consistent
  cases command with
  | load ensure now =>
    obtain ⟨loaded, s, hrun, h⟩ := Prog.run_bind_eq_ok h
    cases h
    obtain ⟨hs, hbundles, hoperations⟩ := load_settled hw.stocked hrun
    rw [← hbundles, ← hoperations] at hconsistent
    refine ⟨_, _, ⟨hs.stocked, hs.operations, hconsistent, hbundles ▸ hw.known⟩, ?_⟩
    rw [hoperations]
    exact .refl _ _
  | save working now =>
    obtain ⟨loaded, s, hrun, h⟩ := Prog.run_bind_eq_ok h
    cases h
    obtain ⟨hs, hsaved, hoperations⟩ := save_settled hw.stocked hrun
    have hmatches := hs.readable.opened.operations
    rw [hoperations] at hmatches
    have hnext := hconsistent.save hbefore.sound hsaved
      (hapart.mono (List.append_subset.mpr ⟨hw.known, hevents⟩)) hmatches
    rw [← hoperations] at hnext
    refine ⟨_, _, ⟨hs.stocked, hs.operations, hnext, ?_⟩, ?_⟩
    · rw [Bundles.events, hsaved.receipts]
      exact hevents
    · rw [hoperations]
      exact .filter fun operation _ hkeeps => hkeeps
  | importBundle bundleInput replaceDuplicate now =>
    obtain ⟨⟨bundle, loaded⟩, s, hrun, h⟩ := Prog.run_bind_eq_ok h
    cases h
    obtain ⟨⟨publicKey, himported⟩, hs, hbundles, hoperations⟩ := import_settled hw.stocked hrun
    obtain ⟨given, rfl, -, hoperational, hreceipt, hanchors⟩ := imported_ok himported
    rw [← hreceipt] at hanchors
    have hnext := hconsistent.import bundle.operational.receiptId hanchors
    rw [← hbundles, ← hoperations] at hnext
    refine ⟨_, _, ⟨hs.stocked, hs.operations, hnext, ?_⟩, ?_⟩
    · rw [hbundles]
      show operationalEvents bundle.operational ++ Bundles.events _ ⊆ _
      rw [hoperational]
      exact List.append_subset.mpr ⟨hevents, fun e he =>
        hw.known (Bundles.events_filter _ _ he)⟩
    · rw [hoperations]
      refine .filter fun operation _ hkeeps => ?_
      rw [hoperational]
      exact hkeeps
  | delete receiptId now =>
    obtain ⟨loaded, s, hrun, h⟩ := Prog.run_bind_eq_ok h
    cases h
    obtain ⟨hs, hsaved, hoperations⟩ := delete_settled hw.stocked hrun
    have hkept : (before.bundles.receipts.filter fun receipt =>
        receipt.receiptId ≠ receiptId).flatMap operationalEvents ⊆ before.bundles.events := by
      intro event hevent
      obtain ⟨receipt, hreceipt, hevent⟩ := List.mem_flatMap.mp hevent
      exact List.mem_flatMap.mpr ⟨receipt, List.mem_of_mem_filter hreceipt, hevent⟩
    have hmatches := hs.readable.opened.operations
    rw [hoperations] at hmatches
    have hnext := hconsistent.save hbefore.sound hsaved
      (hapart.mono (List.append_subset.mpr ⟨hw.known, fun e he => hw.known (hkept he)⟩)) hmatches
    rw [← hoperations] at hnext
    refine ⟨_, _, ⟨hs.stocked, hs.operations, hnext, ?_⟩, ?_⟩
    · rw [Bundles.events, hsaved.receipts]
      exact fun e he => hw.known (hkept he)
    · rw [hoperations]
      refine .filter fun operation hoperation hkeeps => decide_eq_true ?_
      -- its receipt is stored, and another
      obtain ⟨bundle, -, hbundle, -⟩ :=
        signed_of_operationMatches (hbefore.readable.opened.operations operation hoperation)
      have hid := (hbefore.sound _ _ hbundle).2
      refine List.mem_map.mpr ⟨bundle.operational, List.mem_filter.mpr ⟨?_, ?_⟩, hid⟩
      · exact List.mem_map_of_mem (Bundles.get_mem hbundle)
      · rw [hid]
        exact hkeeps
  | deleteAll now =>
    obtain ⟨loaded, s, hrun, h⟩ := Prog.run_bind_eq_ok h
    cases h
    obtain ⟨hs, hbundles, hoperations⟩ := deleteAll_settled hrun
    have hnext := Consistent.nil
    rw [← hbundles, ← hoperations] at hnext
    refine ⟨_, _, ⟨hs.stocked, hs.operations, hnext, ?_⟩, ?_⟩
    · rw [hbundles]
      exact List.nil_subset _
    · intro operation _ hkeeps
      cases hkeeps
  | ensureAnchor input =>
    obtain ⟨operation, s, hrun, h⟩ := Prog.run_bind_eq_ok h
    cases h
    obtain ⟨loaded, hs, hbundles, hresult⟩ := ensureAnchor_settled hw.stocked hrun
    rcases hresult with ⟨-, hoperations⟩ | ⟨-, hoperations, hsaves, created, hcreated⟩
    · rw [← hbundles, ← hoperations] at hconsistent
      refine ⟨_, _, ⟨hs.stocked, hs.operations, hconsistent, hbundles ▸ hw.known⟩, ?_⟩
      rw [hoperations]
      exact .refl _ _
    · have hnext := hconsistent.saveAnchor hnodup hsaves (createAnchorOperation_state hcreated)
      rw [← hbundles, ← hoperations] at hnext
      refine ⟨_, _, ⟨hs.stocked, hs.operations, hnext, hbundles ▸ hw.known⟩, ?_⟩
      rw [hoperations]
      exact .saveAnchor hnodup hsaves
  | saveAnchor operation =>
    obtain ⟨result, s, hrun, h⟩ := Prog.run_bind_eq_ok h
    cases h
    obtain ⟨loaded, hs, hbundles, hoperations, hsaves⟩ := saveAnchor_settled hw.stocked hrun
    have hnext := hconsistent.saveAnchor hnodup hsaves hcall
    rw [← hbundles, ← hoperations] at hnext
    refine ⟨_, _, ⟨hs.stocked, hs.operations, hnext, hbundles ▸ hw.known⟩, ?_⟩
    rw [hoperations]
    exact .saveAnchor hnodup hsaves
  | storeAnchor input now =>
    obtain ⟨loaded, s, hrun, h⟩ := Prog.run_bind_eq_ok h
    cases h
    obtain ⟨operation, bundle, anchored, hconfirms, hs, hbundles, hoperations⟩ :=
      storeAnchor_settled hw.stocked hrun
    have hnext := hconsistent.storeAnchor hnodup hconfirms
    rw [← hbundles, ← hoperations] at hnext
    refine ⟨_, _, ⟨hs.stocked, hs.operations, hnext, ?_⟩, ?_⟩
    · have hreceipts : loaded.bundles.receipts = before.bundles.receipts := by
        rw [hbundles]
        refine Bundles.set_receipts fun named hnamed hid => ?_
        have hsame : named = (operation.receiptId, bundle) := List.inj_on_of_nodup_map
          (hbefore.readable.opened.bundles.nodup hbefore.readable.valid.receiptIds) hnamed
          (Bundles.get_mem hconfirms.stored) hid
        rw [hsame]
        exact (attach_ok hconfirms.attached).2.1.symm
      rw [Bundles.events, hreceipts]
      exact hw.known
    · rw [hoperations]
      intro stored hstored _
      obtain ⟨hmem, hhash⟩ := hconfirms.eventHash
      by_cases hsame : stored.eventHash = input.eventHash
      · refine ⟨operation.confirm input now, List.mem_map.mpr ⟨stored, hstored, if_pos hsame⟩, ?_⟩
        rw [List.inj_on_of_nodup_map hnodup hstored hmem (hsame.trans hhash.symm)]
        refine evolves_confirm now (hcall operation ?_ hhash)
        rw [hw.stored]
        exact hmem
      · exact ⟨stored, List.mem_map.mpr ⟨stored, hstored, if_neg hsame⟩, .refl stored⟩

/-! ### Runs -/

/-- **A run** keeps the evidence, and the operations of the receipts that all
its calls keep evolve. -/
theorem Attested.run {events : List LifecycleEventEnvelope} (hapart : HashesApart P.keccak events)
    {commands : List StorageCommand} {w t : World P} (h : WorkflowRun commands w t) :
    (∀ command ∈ commands, command.events ⊆ events) → ∀ {bundles operations},
      Attested events w bundles operations → ∃ bundles' operations',
        Attested events t bundles' operations' ∧ ∀ operation ∈ operations,
          (∀ command ∈ commands, command.keeps operation.receiptId = true) →
            ∃ operation' ∈ operations', Evolves operation operation' := by
  induction h with
  | nil w =>
    intro _ bundles operations hw
    exact ⟨bundles, operations, hw, fun operation hoperation _ =>
      ⟨operation, hoperation, .refl operation⟩⟩
  | @cons command commands w s t hcall hsucceeds _ ih =>
    intro hevents bundles operations hw
    obtain ⟨_, _, hs, hfirst⟩ := hw.step hapart (hevents command List.mem_cons_self) hcall hsucceeds
    obtain ⟨bundles', operations', ht, hrest⟩ :=
      ih (fun other hother => hevents other (List.mem_cons_of_mem command hother)) hs
    refine ⟨bundles', operations', ht, fun operation hoperation hkeeps => ?_⟩
    obtain ⟨middle, hmiddle, hstep⟩ :=
      hfirst operation hoperation (hkeeps command List.mem_cons_self)
    -- the receipt is the same, so the other calls keep it as well
    obtain ⟨operation', hoperation', hrun⟩ := hrest middle hmiddle fun other hother => by
      rw [hstep.receiptId]
      exact hkeeps other (List.mem_cons_of_mem command hother)
    exact ⟨operation', hoperation', hstep.trans hrun⟩

/-- **Anchor evidence.**  In every state of a run from an empty store, an
operation is confirmed exactly if its event has an anchor, and then they say
the same; while a receipt is kept, its operations evolve. -/
theorem anchor_evidence {before after : List StorageCommand} {w u t : World P}
    (harea : w.area = .absent) (hvault : w.vault = .empty)
    (hapart : HashesApart P.keccak ((before ++ after).flatMap (·.events)))
    (hbefore : WorkflowRun before w u) (hafter : WorkflowRun after u t) :
    (∀ ensure now, ∃ loaded s,
      (loadSecureExtensionState ensure now).run (exec P) t = (.ok loaded, s) ∧
      t.area.operations = loaded.persistent.anchorOperations ∧
      ∀ operation ∈ loaded.persistent.anchorOperations, ∃ bundle event,
        loaded.bundles.get operation.receiptId = some bundle ∧
        bundle.signed operation.eventHash = some event ∧
        (operation.state = .chainEvidenceConfirmed ↔ event.chainAnchor ≠ none) ∧
        ∀ anchor, event.chainAnchor = some anchor → Evidence operation anchor) ∧
    ∀ operation ∈ u.area.operations,
      (∀ command ∈ after, command.keeps operation.receiptId = true) →
        ∃ operation' ∈ t.area.operations, Evolves operation operation' := by
  have hevents : ∀ command ∈ before ++ after,
      command.events ⊆ (before ++ after).flatMap (·.events) :=
    fun command hcommand event hevent => List.mem_flatMap.mpr ⟨command, hcommand, hevent⟩
  have hw : Attested ((before ++ after).flatMap (·.events)) w [] [] := by
    refine ⟨⟨fun id _ => ?_, .inr ⟨harea, hvault, rfl, rfl⟩⟩, ?_, .nil, List.nil_subset _⟩
    · rw [hvault]
      exact ⟨rfl, rfl⟩
    · rw [harea]
      rfl
  obtain ⟨_, _, hu, -⟩ := hw.run hapart hbefore fun command hcommand =>
    hevents command (List.mem_append_left _ hcommand)
  obtain ⟨bundles, operations, ht, hevolves⟩ := hu.run hapart hafter fun command hcommand =>
    hevents command (List.mem_append_right _ hcommand)
  constructor
  · intro ensure now
    obtain ⟨loaded, s, hload, hs, rfl, rfl⟩ := ht.stocked.load ensure now
    refine ⟨loaded, s, hload, ht.stored, fun operation hoperation => ?_⟩
    exact ht.consistent.iff hs.readable.valid.eventHashes hoperation
      (hs.readable.opened.operations operation hoperation)
  · rw [hu.stored, ht.stored]
    exact hevolves

/-! ### Sample runs -/

/-- The anchor operation of the receipt 7 is asked for. -/
def sampleEnsure : EnsureAnchorOperation :=
  ⟨31337, .hex 5 0, sampleEventHash 7, 11, 7, .canonical (ascii "https://relay.example")⟩

/-- The evidence of its anchor. -/
def sampleVerified : VerifiedChainAnchor := ⟨12, 3, 4, 31337, 5, sampleEventHash 7, 9⟩

/-- Two receipts are captured, and one is to be anchored. -/
def sampleBefore : List StorageCommand :=
  [.save (sampleWorking [7, 8]) 10, .ensureAnchor sampleEnsure]

/-- It is anchored, and the other receipt deleted. -/
def sampleAfter : List StorageCommand := [.storeAnchor sampleVerified 13, .delete 8 14]

/-- The world after calls. -/
def worldAfter (commands : List StorageCommand) : World samplePlatform :=
  commands.foldl (fun w command => (command.prog.run (exec samplePlatform) w).2) emptyWorld

theorem WorkflowRun.of_ok {command : StorageCommand} {commands : List StorageCommand}
    {w t : World P} (call : WorkflowCall command w)
    (hok : (command.prog.run (exec P) w).1.toBool = true)
    (rest : WorkflowRun commands (command.prog.run (exec P) w).2 t) :
    WorkflowRun (command :: commands) w t := by
  obtain ⟨_, hvalue⟩ := exists_ok hok
  exact .cons call (Prod.ext hvalue rfl) rest

/-- The receipt is anchored, its operation and its event agree, and the
operation is what the one of before became. -/
theorem anchor_evidence_sample : ∃ loaded s,
    (loadSecureExtensionState none 15).run (exec samplePlatform)
      (worldAfter (sampleBefore ++ sampleAfter)) = (.ok loaded, s) ∧
    ∃ previous ∈ (worldAfter sampleBefore).area.operations,
    ∃ operation ∈ loaded.persistent.anchorOperations, Evolves previous operation ∧
    ∃ bundle event anchor, loaded.bundles.get operation.receiptId = some bundle ∧
      bundle.signed operation.eventHash = some event ∧ event.chainAnchor = some anchor ∧
      Evidence operation anchor := by
  have hbefore : WorkflowRun sampleBefore emptyWorld (worldAfter sampleBefore) := by
    refine .of_ok ?_ ?_ (.of_ok ?_ ?_ (.nil _))
    · trivial
    · decide +kernel
    · trivial
    · decide +kernel
  have hafter : WorkflowRun sampleAfter (worldAfter sampleBefore)
      (worldAfter (sampleBefore ++ sampleAfter)) := by
    have hnone : ∀ operation ∈ (worldAfter sampleBefore).area.operations,
        operation.transactionHash = none := by decide +kernel
    refine .of_ok ?_ ?_ (.of_ok ?_ ?_ (.nil _))
    · intro operation hoperation _ hash hhash
      rw [hnone operation hoperation] at hhash
      cases hhash
    · decide +kernel
    · trivial
    · decide +kernel
  obtain ⟨hloads, hevolves⟩ := anchor_evidence rfl rfl (by decide +kernel) hbefore hafter
  obtain ⟨loaded, s, hload, hstored, hevidence⟩ := hloads none 15
  obtain ⟨previous, hprevious⟩ := List.exists_mem_of_ne_nil (worldAfter sampleBefore).area.operations
    (by decide +kernel)
  have hkept : ∀ operation ∈ (worldAfter sampleBefore).area.operations, ∀ command ∈ sampleAfter,
      command.keeps operation.receiptId = true := by decide +kernel
  obtain ⟨operation, hoperation, hbecomes⟩ := hevolves previous hprevious (hkept previous hprevious)
  have hconfirmed : ∀ operation ∈ (worldAfter (sampleBefore ++ sampleAfter)).area.operations,
      operation.state = .chainEvidenceConfirmed := by decide +kernel
  have hstate := hconfirmed operation hoperation
  rw [hstored] at hoperation
  obtain ⟨bundle, event, hbundle, hevent, hiff, hsame⟩ := hevidence operation hoperation
  obtain ⟨anchor, hanchor⟩ := Option.ne_none_iff_exists'.mp (hiff.mp hstate)
  exact ⟨loaded, s, hload, previous, hprevious, operation, hoperation, hbecomes, bundle, event,
    anchor, hbundle, hevent, hanchor, hsame anchor hanchor⟩

/-- The operation, with evidence that was never stored in a bundle. -/
def claimedOperation : AnchorOperation where
  anchoredAt := some 12
  anchoredBy := some 3
  blockNumber := some 4
  chainId := 31337
  contractAddress := .hex 5 0
  counters := ⟨0, 0, 0, 0⟩
  createdAt := 11
  eventCount := 1
  eventHash := sampleEventHash 7
  idempotencyKey := sampleEventHash 7
  lastError := none
  localBlobId := 0
  receiptId := 7
  relayBaseUrl := .canonical (ascii "https://relay.example")
  relayBlobId := none
  stage := .attempted
  state := .chainEvidenceConfirmed
  statusToken := none
  transactionHash := some 9
  updatedAt := 12

/-- A save may claim the evidence: the operation is confirmed, and its event
has no anchor. -/
theorem anchor_claimed_by_save : ∃ t loaded s,
    (runCommands (sampleBefore ++ [.saveAnchor claimedOperation])).run (exec samplePlatform)
      emptyWorld = (.ok (), t) ∧
    (loadSecureExtensionState none 15).run (exec samplePlatform) t = (.ok loaded, s) ∧
    claimedOperation ∈ loaded.persistent.anchorOperations ∧
    ∃ bundle event, loaded.bundles.get claimedOperation.receiptId = some bundle ∧
      bundle.signed claimedOperation.eventHash = some event ∧ event.chainAnchor = none := by
  obtain ⟨_, hrun⟩ := exists_ok (x := ((runCommands (sampleBefore ++
    [.saveAnchor claimedOperation])).run (exec samplePlatform) emptyWorld).1) (by decide +kernel)
  have hloaded : (((loadSecureExtensionState none 15).run (exec samplePlatform)
      ((runCommands (sampleBefore ++ [.saveAnchor claimedOperation])).run (exec samplePlatform)
        emptyWorld).2).1.toOption.any fun loaded =>
      decide (claimedOperation ∈ loaded.persistent.anchorOperations) &&
        ((loaded.bundles.get claimedOperation.receiptId).bind
          (·.signed claimedOperation.eventHash)).any fun event => event.chainAnchor.isNone)
      = true := by decide +kernel
  obtain ⟨loaded, hload, hfacts⟩ := (Option.any_eq_true _ _).mp hloaded
  obtain ⟨hmem, hevent⟩ := Bool.and_eq_true_iff.mp hfacts
  obtain ⟨event, hsome, hnone⟩ := (Option.any_eq_true _ _).mp hevent
  obtain ⟨bundle, hbundle, hsigned⟩ := Option.bind_eq_some_iff.mp hsome
  obtain ⟨_, hok⟩ := exists_ok (x := ((loadSecureExtensionState none 15).run (exec samplePlatform)
      ((runCommands (sampleBefore ++ [.saveAnchor claimedOperation])).run (exec samplePlatform)
        emptyWorld).2).1) (by decide +kernel)
  rw [hok] at hload
  cases hload
  exact ⟨_, loaded, _, Prod.ext hrun rfl, Prod.ext hok rfl, of_decide_eq_true hmem, bundle, event,
    hbundle, hsigned, Option.isNone_iff_eq_none.mp hnone⟩

/-- The operation as it waits for another transaction. -/
def waitingOperation : AnchorOperation :=
  { claimedOperation with
    anchoredAt := none
    anchoredBy := none
    blockNumber := none
    state := .waitingForConfirmations
    transactionHash := some 8 }

/-- A confirmation may be of another transaction than the one recorded, which
is lost. -/
theorem transaction_replaced_by_confirmation : ∃ u t,
    (runCommands (sampleBefore ++ [.saveAnchor waitingOperation])).run (exec samplePlatform)
      emptyWorld = (.ok (), u) ∧
    (runCommands [.storeAnchor sampleVerified 13]).run (exec samplePlatform) u = (.ok (), t) ∧
    waitingOperation ∈ u.area.operations ∧ ∀ operation ∈ t.area.operations,
      operation.transactionHash ≠ waitingOperation.transactionHash := by
  obtain ⟨_, hfirst⟩ := exists_ok (x := ((runCommands (sampleBefore ++
    [.saveAnchor waitingOperation])).run (exec samplePlatform) emptyWorld).1) (by decide +kernel)
  obtain ⟨_, hsecond⟩ := exists_ok (x := ((runCommands [.storeAnchor sampleVerified 13]).run
    (exec samplePlatform) ((runCommands (sampleBefore ++ [.saveAnchor waitingOperation])).run
      (exec samplePlatform) emptyWorld).2).1) (by decide +kernel)
  exact ⟨_, _, Prod.ext hfirst rfl, Prod.ext hsecond rfl, by decide +kernel, by decide +kernel⟩

/-- Of calls as the workflow does not make them, neither holds. -/
theorem evidence_of_other_calls :
    (∃ commands t loaded s,
      (runCommands commands).run (exec samplePlatform) emptyWorld = (.ok (), t) ∧
      (loadSecureExtensionState none 15).run (exec samplePlatform) t = (.ok loaded, s) ∧
      ∃ operation ∈ loaded.persistent.anchorOperations,
        operation.state = .chainEvidenceConfirmed ∧
        ∃ bundle event, loaded.bundles.get operation.receiptId = some bundle ∧
          bundle.signed operation.eventHash = some event ∧ event.chainAnchor = none) ∧
    ∃ before after u t,
      (runCommands before).run (exec samplePlatform) emptyWorld = (.ok (), u) ∧
      (runCommands after).run (exec samplePlatform) u = (.ok (), t) ∧
      ∃ operation ∈ u.area.operations, operation.transactionHash ≠ none ∧
        ∀ operation' ∈ t.area.operations,
          operation'.transactionHash ≠ operation.transactionHash := by
  constructor
  · obtain ⟨t, loaded, s, hrun, hload, hmem, hevent⟩ := anchor_claimed_by_save
    exact ⟨_, t, loaded, s, hrun, hload, claimedOperation, hmem, rfl, hevent⟩
  · obtain ⟨u, t, hfirst, hsecond, hmem, hreplaced⟩ := transaction_replaced_by_confirmation
    exact ⟨_, _, u, t, hfirst, hsecond, waitingOperation, hmem, nofun, hreplaced⟩

end SubmittedIt.Extension
