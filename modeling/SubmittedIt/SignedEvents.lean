/-
SubmittedIt/SignedEvents.lean

The signed events of a bundle, and what rewriting the bundle keeps of them.

`bundle.signed eventHash` is the event that a hash names in a bundle.  A bundle
that is made anew for a changed receipt takes over the signed events it can
(`signedEventsForOperational`), with their anchors and signatures, so what a
hash names stays what it was; only what is new is signed.

Main results: `createOrUpdate_signed` and `createOrUpdate_signed_new`,
`attach_signed` and `attach_signed_of_ne`.
-/
import SubmittedIt.ReceiptOperations

namespace SubmittedIt.Extension

open Transaction ReceiptCore

variable {P : StoragePlatform}

/-! ### Events by hash -/

/-- The event that a hash names in a bundle. -/
def PrivateReceiptBundle.signed (bundle : PrivateReceiptBundle) (eventHash : HashHex) :
    Option LifecycleEventEnvelope :=
  bundle.receipt.events.find? fun event => event.eventHash = eventHash

theorem PrivateReceiptBundle.signed_eq_some {bundle : PrivateReceiptBundle} {eventHash : HashHex}
    {event : LifecycleEventEnvelope} (h : bundle.signed eventHash = some event) :
    event ∈ bundle.receipt.events ∧ event.eventHash = eventHash := by
  have hfound := List.find?_some h
  exact ⟨List.mem_of_find?_eq_some h, of_decide_eq_true hfound⟩

/-- A hash names an event of a verified bundle as it names one of its
operational receipt. -/
theorem Verified.signed {bundle : PrivateReceiptBundle} (h : Verified P bundle)
    (eventHash : HashHex) :
    ((operationalEvents bundle.operational).find? fun event => event.eventHash = eventHash) =
      (bundle.signed eventHash).map withoutExtensionSignature := by
  have hevents := (receiptMatches_eq_true.mp h.matching).2.2.2.2
  rw [← hevents, List.find?_map]
  rfl

/-- The events of a verified bundle are hashed as they say. -/
theorem Verified.hashed {bundle : PrivateReceiptBundle} (h : Verified P bundle) :
    ∀ event ∈ bundle.receipt.events, event.eventHash = hashEventCore P.keccak event.core := by
  intro event hevent
  have hverified := h.receipt.signatures event hevent
  unfold verifyExtensionEventSignature at hverified
  split at hverified
  · cases hverified
  · simp only [Bool.and_eq_true, decide_eq_true_eq] at hverified
    exact hverified.1.1.2

/-! ### Signing the events of a receipt -/

/-- How an event comes to be signed: a stored one is taken over, or it is
signed now. -/
def SignedFrom (P : StoragePlatform) (existing : Option PrivateReceiptBundle)
    (identity : InstallationIdentityRecord) (draw : Nat) (event signed : LifecycleEventEnvelope) :
    Prop :=
  let prior := existing.bind fun bundle => (bundle.signed event.eventHash).filter fun prior =>
    withoutExtensionSignature prior = event
      && verifyExtensionEventSignature P prior bundle.receipt.extensionPublicKey
  prior = some signed ∨ prior = none ∧ signExtensionEvent P event identity draw = .ok signed

theorem signEvents_ok {existing : Option PrivateReceiptBundle}
    {identity : InstallationIdentityRecord} {draw : Nat} {events signed : List LifecycleEventEnvelope}
    (h : signEvents P existing identity draw events = .ok signed) :
    List.Forall₂ (SignedFrom P existing identity draw) events signed := by
  induction events generalizing signed with
  | nil =>
    cases h
    exact .nil
  | cons event events ih =>
    unfold signEvents at h
    dsimp only at h
    split at h
    · next prior hprior =>
      simp only [bind_eq_ok] at h
      obtain ⟨first, hfirst, rest, hrest, hpure⟩ := h
      cases hfirst
      cases hpure
      exact .cons (.inl hprior) (ih hrest)
    · next hprior =>
      simp only [bind_eq_ok] at h
      obtain ⟨first, hfirst, rest, hrest, hpure⟩ := h
      cases hpure
      exact .cons (.inr ⟨hprior, hfirst⟩) (ih hrest)

/-- What is signed now has no anchor, and is the event it was made of. -/
theorem signExtensionEvent_ok {event signed : LifecycleEventEnvelope}
    {identity : InstallationIdentityRecord} {draw : Nat}
    (h : signExtensionEvent P event identity draw = .ok signed) :
    signed.eventHash = event.eventHash ∧ signed.core = event.core ∧ signed.chainAnchor = none ∧
      event.authoritySignature = none ∧ event.chainAnchor = none ∧
        event.eventHash = hashEventCore P.keccak event.core := by
  unfold signExtensionEvent at h
  dsimp only at h
  split at h
  · cases h
  split at h
  · cases h
  next hevidence =>
  rw [not_or, not_not, not_not] at hevidence
  split at h
  · cases h
  next hhash =>
  split at h
  · -- it was signed already
    split at h
    · cases h
      exact ⟨rfl, rfl, hevidence.2, hevidence.1, hevidence.2, not_not.mp hhash⟩
    · cases h
  · split at h
    · cases h
      exact ⟨rfl, rfl, hevidence.2, hevidence.1, hevidence.2, not_not.mp hhash⟩
    · cases h

theorem SignedFrom.eventHash {existing : Option PrivateReceiptBundle}
    {identity : InstallationIdentityRecord} {draw : Nat} {event signed : LifecycleEventEnvelope}
    (h : SignedFrom P existing identity draw event signed) : signed.eventHash = event.eventHash := by
  rcases h with hprior | ⟨-, hsigned⟩
  · obtain ⟨bundle, -, hfound⟩ := Option.bind_eq_some_iff.mp hprior
    exact (PrivateReceiptBundle.signed_eq_some (Option.filter_eq_some_iff.mp hfound).1).2
  · exact (signExtensionEvent_ok hsigned).1

theorem exists_of_signed {existing : Option PrivateReceiptBundle}
    {identity : InstallationIdentityRecord} {draw : Nat} {events signed : List LifecycleEventEnvelope}
    (h : List.Forall₂ (SignedFrom P existing identity draw) events signed)
    {found : LifecycleEventEnvelope} (hfound : found ∈ signed) :
    ∃ event ∈ events, SignedFrom P existing identity draw event found := by
  induction h with
  | nil => cases hfound
  | @cons event _ _ _ hfirst _ ih =>
    rcases List.mem_cons.mp hfound with rfl | hfound
    · exact ⟨event, List.mem_cons_self, hfirst⟩
    · obtain ⟨event, hevent, hsigned⟩ := ih hfound
      exact ⟨event, List.mem_cons_of_mem _ hevent, hsigned⟩

/-- Distinct envelopes of one core differ in what is attached to them. -/
theorem envelope_ext {first second : LifecycleEventEnvelope} (hcore : first.core = second.core)
    (hhash : first.eventHash = second.eventHash)
    (hauthority : first.authoritySignature = second.authoritySignature)
    (hanchor : first.chainAnchor = second.chainAnchor)
    (hsignature : first.extensionSignature = second.extensionSignature) : first = second := by
  cases first
  cases second
  cases hcore
  cases hhash
  cases hauthority
  cases hanchor
  cases hsignature
  rfl

/-! ### Making a bundle anew -/

/-- Where the events of a secured bundle come from. -/
theorem createOrUpdate_events {operational : StoredAttemptReceipt}
    {identity : InstallationIdentityRecord} {existing : Option PrivateReceiptBundle} {draw : Nat}
    {verifiedAt : Timestamp} {bundle : PrivateReceiptBundle}
    (h : createOrUpdatePrivateReceiptBundle P operational identity existing draw verifiedAt =
      .ok bundle) :
    existing = some bundle ∨ List.Forall₂ (SignedFrom P existing identity draw)
      (operationalEvents operational) bundle.receipt.events := by
  unfold createOrUpdatePrivateReceiptBundle at h
  simp only [bind_eq_ok, revertIf_eq_ok, exists_const] at h
  obtain ⟨-, h⟩ := h
  -- the branch that signs the events
  have hfresh : ∀ b, (∃ events,
      signEvents P existing identity draw (operationalEvents operational) = .ok events ∧
      ∃ receipt, liftProtocol (createReceipt P operational.capturedAt events identity.publicKey
        operational.receiptId operational.event.core.schemaVersion
        (verificationState verifiedAt events)) = .ok receipt ∧
      verifyPrivateReceiptBundle P { operational, receipt, ownership := .local } = .ok b) →
      List.Forall₂ (SignedFrom P existing identity draw) (operationalEvents operational)
        b.receipt.events := by
    rintro b ⟨events, hevents, receipt, hreceipt, hverify⟩
    obtain ⟨rfl, -⟩ := verify_eq_ok.mp hverify
    have hcreated := liftProtocol_eq_ok.mp hreceipt
    unfold createReceipt at hcreated
    obtain ⟨chain, -, hvalidated⟩ := bind_eq_ok.mp hcreated
    rw [validateReceipt_eq_self hvalidated]
    exact signEvents_ok hevents
  rcases existing with - | existing
  · simp only [bind_eq_ok] at h
    exact .inr (hfresh bundle h)
  · simp only [bind_eq_ok] at h
    obtain ⟨existing', hexisting, -, -, h⟩ := h
    obtain ⟨rfl, -⟩ := verify_eq_ok.mp hexisting
    split at h
    · cases h
      exact .inl rfl
    · simp only [bind_eq_ok] at h
      obtain ⟨-, -, -, -, h⟩ := h
      exact .inr (hfresh bundle h)

/-- **A signed event is taken over**: what a hash names in a stored bundle, it
names in the bundle made anew for a receipt that still has the event. -/
theorem createOrUpdate_signed {operational : StoredAttemptReceipt}
    {identity : InstallationIdentityRecord} {existing bundle : PrivateReceiptBundle} {draw : Nat}
    {verifiedAt : Timestamp}
    (h : createOrUpdatePrivateReceiptBundle P operational identity (some existing) draw verifiedAt =
      .ok bundle) (hexisting : Verified P existing)
    (hapart : HashesApart P.keccak
      (operationalEvents existing.operational ++ operationalEvents operational))
    {eventHash : HashHex} {prior found : LifecycleEventEnvelope}
    (hprior : existing.signed eventHash = some prior) (hfound : bundle.signed eventHash = some found) :
    found = prior := by
  obtain ⟨hverified, hoperational⟩ := createOrUpdate_ok h
  rcases createOrUpdate_events h with hsame | hevents
  · cases hsame
    exact Option.some.inj (hfound.symm.trans hprior)
  obtain ⟨hmem, hhash⟩ := PrivateReceiptBundle.signed_eq_some hfound
  obtain ⟨hmemPrior, hhashPrior⟩ := PrivateReceiptBundle.signed_eq_some hprior
  obtain ⟨event, hevent, hsigned⟩ := exists_of_signed hevents hmem
  have heventHash : event.eventHash = eventHash := hsigned.eventHash.symm.trans hhash
  rcases hsigned with htaken | ⟨hnone, hsigned⟩
  · rw [Option.bind_some, heventHash, hprior] at htaken
    exact (Option.some.inj (Option.filter_eq_some_iff.mp htaken).1).symm
  · -- it would not be signed anew: it is the stored event
    obtain ⟨-, -, -, hauthority, hanchor, hhashed⟩ := signExtensionEvent_ok hsigned
    have hcore : prior.core = event.core := by
      have hstored : withoutExtensionSignature prior ∈ operationalEvents existing.operational := by
        rw [← (receiptMatches_eq_true.mp hexisting.matching).2.2.2.2]
        exact List.mem_map_of_mem hmemPrior
      refine hapart (withoutExtensionSignature prior) (List.mem_append_left _ hstored) event
        (List.mem_append_right _ hevent) ?_
      show hashEventCore P.keccak prior.core = _
      rw [← hexisting.hashed prior hmemPrior, ← hhashed, hhashPrior, heventHash]
    have hsignature : event.extensionSignature = none := by
      rw [← hoperational, ← (receiptMatches_eq_true.mp hverified.matching).2.2.2.2] at hevent
      obtain ⟨_, -, rfl⟩ := List.mem_map.mp hevent
      rfl
    have hsame : withoutExtensionSignature prior = event :=
      envelope_ext hcore (hhashPrior.trans heventHash.symm)
        ((hexisting.receipt.signed prior hmemPrior).2.trans hauthority.symm) hanchor.symm
        hsignature.symm
    rw [Option.bind_some, heventHash, hprior, Option.filter_some, if_pos] at hnone
    · cases hnone
    · rw [hexisting.receipt.signatures prior hmemPrior, Bool.and_true]
      exact decide_eq_true hsame

/-- **What is signed now has no anchor.** -/
theorem createOrUpdate_signed_new {operational : StoredAttemptReceipt}
    {identity : InstallationIdentityRecord} {existing : Option PrivateReceiptBundle}
    {bundle : PrivateReceiptBundle} {draw : Nat} {verifiedAt : Timestamp}
    (h : createOrUpdatePrivateReceiptBundle P operational identity existing draw verifiedAt =
      .ok bundle) {eventHash : HashHex}
    (hnew : existing.bind (fun bundle => bundle.signed eventHash) = none)
    {found : LifecycleEventEnvelope} (hfound : bundle.signed eventHash = some found) :
    found.chainAnchor = none := by
  rcases createOrUpdate_events h with rfl | hevents
  · rw [Option.bind_some, hfound] at hnew
    cases hnew
  obtain ⟨hmem, hhash⟩ := PrivateReceiptBundle.signed_eq_some hfound
  obtain ⟨event, -, hsigned⟩ := exists_of_signed hevents hmem
  have heventHash : event.eventHash = eventHash := hsigned.eventHash.symm.trans hhash
  rcases hsigned with htaken | ⟨-, hsigned⟩
  · obtain ⟨stored, rfl, hkept⟩ := Option.bind_eq_some_iff.mp htaken
    rw [Option.bind_some] at hnew
    rw [heventHash, hnew] at hkept
    cases hkept
  · exact (signExtensionEvent_ok hsigned).2.2.1

/-! ### Attaching an anchor -/

theorem attach_events {bundle anchored : PrivateReceiptBundle} {eventHash : HashHex}
    {chainAnchor : ChainAnchorMetadata} {verifiedAt : Timestamp}
    (h : attachVerifiedChainAnchor P bundle eventHash chainAnchor verifiedAt = .ok anchored) :
    ∃ event, bundle.signed eventHash = some event ∧
      (event.chainAnchor = none ∨ event.chainAnchor = some chainAnchor) ∧
      anchored.receipt.events = attachAnchor eventHash chainAnchor bundle.receipt.events := by
  unfold attachVerifiedChainAnchor at h
  simp only [bind_eq_ok, verify_eq_ok] at h
  obtain ⟨b, ⟨rfl, -⟩, h⟩ := h
  split at h
  · cases h
  · next event hevent =>
    simp only [bind_eq_ok, verify_eq_ok, revertIf_eq_ok, liftProtocol_eq_ok, exists_const] at h
    obtain ⟨himmutable, receipt, hcreated, rfl, -⟩ := h
    unfold createReceipt at hcreated
    obtain ⟨chain, -, hvalidated⟩ := bind_eq_ok.mp hcreated
    rw [validateReceipt_eq_self hvalidated]
    refine ⟨event, hevent, ?_, rfl⟩
    by_contra hother
    exact himmutable (not_or.mp hother)

theorem find?_hash_cons (event : LifecycleEventEnvelope) (events : List LifecycleEventEnvelope)
    (eventHash : HashHex) :
    ((event :: events).find? fun event => event.eventHash = eventHash) =
      if event.eventHash = eventHash then some event
      else events.find? fun event => event.eventHash = eventHash := by
  rw [List.find?_cons]
  by_cases hhash : event.eventHash = eventHash
  · simp [hhash]
  · simp [hhash]

theorem attachAnchor_find? (eventHash : HashHex) (chainAnchor : ChainAnchorMetadata)
    (events : List LifecycleEventEnvelope) :
    ((attachAnchor eventHash chainAnchor events).find? fun event => event.eventHash = eventHash) =
      (events.find? fun event => event.eventHash = eventHash).map fun event =>
        { event with chainAnchor := some chainAnchor } := by
  induction events with
  | nil => rfl
  | cons event events ih =>
    unfold attachAnchor
    by_cases hhash : event.eventHash = eventHash
    · rw [if_pos hhash, find?_hash_cons, find?_hash_cons, if_pos hhash, if_pos hhash]
      rfl
    · rw [if_neg hhash, find?_hash_cons, find?_hash_cons, if_neg hhash, if_neg hhash, ih]

theorem attachAnchor_find?_of_ne {eventHash other : HashHex} (hne : other ≠ eventHash)
    (chainAnchor : ChainAnchorMetadata) (events : List LifecycleEventEnvelope) :
    ((attachAnchor eventHash chainAnchor events).find? fun event => event.eventHash = other) =
      events.find? fun event => event.eventHash = other := by
  induction events with
  | nil => rfl
  | cons event events ih =>
    unfold attachAnchor
    split
    · next hhash =>
      have hother : event.eventHash ≠ other := by
        rw [hhash]
        exact hne.symm
      rw [find?_hash_cons, find?_hash_cons, if_neg hother, if_neg hother]
    · rw [find?_hash_cons, find?_hash_cons, ih]

/-- **The anchor is on the event that its hash names.** -/
theorem attach_signed {bundle anchored : PrivateReceiptBundle} {eventHash : HashHex}
    {chainAnchor : ChainAnchorMetadata} {verifiedAt : Timestamp}
    (h : attachVerifiedChainAnchor P bundle eventHash chainAnchor verifiedAt = .ok anchored) :
    ∃ event, bundle.signed eventHash = some event ∧
      anchored.signed eventHash = some { event with chainAnchor := some chainAnchor } := by
  obtain ⟨event, hevent, -, hevents⟩ := attach_events h
  refine ⟨event, hevent, ?_⟩
  unfold PrivateReceiptBundle.signed at hevent ⊢
  rw [hevents, attachAnchor_find?, hevent]
  rfl

/-- Other events are as they were. -/
theorem attach_signed_of_ne {bundle anchored : PrivateReceiptBundle} {eventHash other : HashHex}
    {chainAnchor : ChainAnchorMetadata} {verifiedAt : Timestamp}
    (h : attachVerifiedChainAnchor P bundle eventHash chainAnchor verifiedAt = .ok anchored)
    (hne : other ≠ eventHash) : anchored.signed other = bundle.signed other := by
  obtain ⟨event, -, -, hevents⟩ := attach_events h
  unfold PrivateReceiptBundle.signed
  rw [hevents, attachAnchor_find?_of_ne hne]

end SubmittedIt.Extension
