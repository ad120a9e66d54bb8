/-
SubmittedIt/BundleUpdates.lean

Updating the bundle of a receipt (apps/extension/lib/private-receipt.ts).

A bundle is updated with a stored receipt of the same identifier.  Values are compared
by their canonical texts, which every stored receipt has; what the bundle has signed
is kept as it is, with its anchors, and what is new is signed by the installation.

`SignedAs` is what becomes of an event, and `Secures` what is made of a receipt.

Main result: `createOrUpdatePrivateReceiptBundle_iff`.
-/
import SubmittedIt.BundleSigning

namespace SubmittedIt.Protocol

open JsValue (member hasOwn)

open Transaction

section laws

variable {W : WebPlatform} {keccak256 : List UInt8 → HashHex} {S : SigningProvider}
  {C : CryptoProvider} {Q : ReceiptPlatform}

/-! ### Canonical texts of stored receipts -/

theorem canonical_ne_undefined {v : JsValue} (h : ∃ j, Canonical Q.toTextPlatform v j) :
    v ≠ .undefined := by
  obtain ⟨j, hj⟩ := h
  rintro rfl
  exact hj

/-- **Objects have canonical forms where their values do.** -/
theorem canonical_object {members : List (Text × JsValue)} (hkeys : distinctKeys members = true)
    (h : ∀ m ∈ members, ∃ j, Canonical Q.toTextPlatform m.2 j) :
    ∃ j, Canonical Q.toTextPlatform (.object members) j := by
  have hall : CanonicalAll Q members := by
    clear hkeys
    induction members with
    | nil => trivial
    | cons m rest ih =>
      obtain ⟨hfirst, hrest⟩ := List.forall_mem_cons.mp h
      exact ⟨.inr hfirst, ih hrest⟩
  have hdefined : definedMembers members = members := by
    refine List.filter_eq_self.mpr fun m hm => ?_
    rw [Bool.not_eq_true', ← Bool.not_eq_true, isUndefined_iff]
    exact canonical_ne_undefined (h m hm)
  have hrecord := canonical_record hkeys hall
  rwa [record, hdefined] at hrecord

theorem canonical_nullable {α : Type} {write : α → JsValue} {x : Option α}
    (h : ∀ a ∈ x, ∃ j, Canonical Q.toTextPlatform (write a) j) :
    ∃ j, Canonical Q.toTextPlatform (writeNullable write x) j := by
  rcases x with - | a
  · exact ⟨.null, rfl⟩
  · exact h a rfl

theorem readNullable_some {α : Type} {read : JsValue → Option α} {v : JsValue} {x : α}
    (h : readNullable read v = some (some x)) : read v = some x := by
  unfold readNullable at h
  split at h
  · cases Option.some.inj h
  · obtain ⟨found, hfound, hsame⟩ := Option.map_eq_some_iff.mp h
    rw [hfound, Option.some.inj hsame]

theorem observation_canonical {v : JsValue} {x : StoredNavigationObservation}
    (h : parseNavigationObservation W v = some x) :
    ∃ j, Canonical W.toTextPlatform x.value j := by
  obtain ⟨value, -, -, hsequence, -⟩ := parseNavigationObservation_eq_some.mp h
  apply canonical_object (Q := W.toReceiptPlatform) rfl
  simp only [List.forall_mem_cons]
  exact ⟨normalizePositiveSafeInteger_parses.canonical (accept_eq_some.mp hsequence), ⟨_, rfl⟩,
    ⟨_, rfl⟩, ⟨_, rfl⟩, ⟨_, rfl⟩, ⟨_, rfl⟩, ⟨_, rfl⟩, fun m hm => absurd hm List.not_mem_nil⟩

theorem observations_canonical {sequence : Nat} {seen : ObservationsSeen} {items : List JsValue}
    {xs : List StoredNavigationObservation}
    (h : parseObservations W sequence seen items = some xs) :
    ∀ x ∈ xs, ∃ j, Canonical W.toTextPlatform x.value j := by
  induction items generalizing seen xs with
  | nil =>
    obtain rfl := Option.some.inj h
    exact fun x hx => absurd hx List.not_mem_nil
  | cons item rest ih =>
    obtain ⟨x, xs', hx, -, hxs, rfl⟩ := parseObservations_cons.mp h
    exact List.forall_mem_cons.mpr ⟨observation_canonical hx, ih hxs⟩

theorem status_canonical (status : Extension.ConfirmationContextStatus) (n : Nat) :
    ∃ j, Canonical Q.toTextPlatform (StoredStatus.wrap status n) j := by
  induction n with
  | zero => exact ⟨_, rfl⟩
  | succ n ih =>
    show ∃ j, Canonical Q.toTextPlatform (writeList id [StoredStatus.wrap status n]) j
    apply canonical_list
    intro v hv
    rw [List.mem_singleton.mp hv]
    exact ih

theorem context_canonical {v : JsValue} {base : ParsedAttemptBase} {x : StoredConfirmationContext}
    (h : parseConfirmationContext W v base = some x) :
    ∃ j, Canonical W.toTextPlatform x.value j := by
  obtain ⟨-, value, items, -, -, -, htab, -, -, -, -, hsequence, -, -, -, -, -, -, hobservations⟩ :=
    parseConfirmationContext_eq_some.mp h
  apply canonical_object (Q := W.toReceiptPlatform) rfl
  simp only [List.forall_mem_cons]
  exact ⟨status_canonical _ _,
    normalizeNonNegativeSafeInteger_parses.canonical (accept_eq_some.mp htab), ⟨_, rfl⟩, ⟨_, rfl⟩,
    ⟨_, rfl⟩, ⟨_, rfl⟩, ⟨_, rfl⟩, ⟨_, rfl⟩, ⟨_, rfl⟩, ⟨_, rfl⟩,
    normalizeNonNegativeSafeInteger_parses.canonical (accept_eq_some.mp hsequence),
    canonical_list (observations_canonical hobservations), fun m hm => absurd hm List.not_mem_nil⟩

theorem evidence_canonical {v : JsValue} {base : ParsedAttemptBase} {event : ConfirmedEvent}
    {context : Option StoredConfirmationContext} {x : StoredSiteConfirmationEvidence}
    (h : parseSiteConfirmationEvidence W v base event context = some x) :
    ∃ j, Canonical W.toTextPlatform x.value j := by
  obtain ⟨-, value, -, -, hsequence, -⟩ := parseSiteConfirmationEvidence_eq_some.mp h
  apply canonical_object (Q := W.toReceiptPlatform) rfl
  simp only [List.forall_mem_cons]
  exact ⟨⟨_, rfl⟩, normalizePositiveSafeInteger_parses.canonical (accept_eq_some.mp hsequence),
    ⟨_, rfl⟩, ⟨_, rfl⟩, ⟨_, rfl⟩, ⟨_, rfl⟩, ⟨_, rfl⟩, ⟨_, rfl⟩,
    fun m hm => absurd hm List.not_mem_nil⟩

/-- **Every stored receipt has a canonical text.** -/
theorem storedReceipt_canonical {v : JsValue} {x : StoredAttemptReceipt}
    (h : validateStoredAttemptReceipt W keccak256 v = some x) :
    ∃ j, Canonical W.toTextPlatform x.value j := by
  have hparsed := operationalEvents_parsed h
  obtain ⟨value, -, -, -, -, -, hcontext, hconfirms⟩ := validateStoredAttemptReceipt_eq_some.mp h
  have hevent : ∀ event ∈ operationalEvents x,
      ∃ j, Canonical W.toTextPlatform event.value j :=
    fun event hevent => parseEventEnvelope_parses.canonical ((hparsed event hevent).1 [])
  have hobserved : ∀ context ∈ x.confirmationContext,
      ∃ j, Canonical W.toTextPlatform context.value j := by
    intro context hmem
    rw [Option.mem_def.mp hmem] at hcontext
    exact context_canonical (readNullable_some hcontext)
  have hevidence : ∀ evidence ∈ x.siteConfirmationEvidence,
      ∃ j, Canonical W.toTextPlatform evidence.value j := by
    intro evidence hmem
    rcases x with ⟨base, context, - | ⟨confirmed, found⟩⟩
    · cases hmem
    · obtain rfl := Option.some.inj hmem
      obtain ⟨-, -, hfound⟩ := parseSiteConfirmed_eq_some.mp hconfirms
      exact evidence_canonical hfound
  apply canonical_object (Q := W.toReceiptPlatform) rfl
  simp only [List.forall_mem_cons]
  refine ⟨⟨_, rfl, rfl⟩, ⟨_, rfl⟩, ⟨_, rfl⟩, ⟨_, rfl⟩, ⟨_, rfl⟩, ⟨_, rfl⟩, ⟨_, rfl⟩, ⟨_, rfl⟩,
    ⟨_, rfl⟩, ⟨_, rfl⟩, ⟨_, rfl⟩, ?_, ?_, canonical_nullable hevidence,
    canonical_nullable hobserved, ⟨_, rfl⟩, ⟨_, rfl⟩, ⟨_, rfl⟩,
    fun m hm => absurd hm List.not_mem_nil⟩
  · exact hevent _ List.mem_cons_self
  · refine canonical_nullable fun event hmem => hevent event ?_
    exact List.mem_cons_of_mem _ (Option.mem_toList.mpr hmem)

/-! ### Comparing by canonical texts -/

/-- **Canonical texts are the same where the values are.** -/
theorem sameCanonical_eq {v w : JsValue} {same : Prop} [Decidable same]
    (hv : ∃ j, Canonical W.toTextPlatform v j) (hw : ∃ j, Canonical W.toTextPlatform w j)
    (h : Same W.toTextPlatform v w ↔ same) : sameCanonical W v w = .ok (decide same) := by
  obtain ⟨j, hj⟩ := hv
  obtain ⟨j', hj'⟩ := hw
  have htext := canonicalize_eq_ok.mpr ⟨j, hj, rfl⟩
  have htext' := canonicalize_eq_ok.mpr ⟨j', hj', rfl⟩
  have hiff : Json.stringify j = Json.stringify j' ↔ same := by
    rw [← h, ← canonical_eq_iff hj hj']
    exact ⟨fun hsame => Json.stringify_injective hsame, fun hsame => congrArg _ hsame⟩
  simp only [sameCanonical, htext, htext']
  exact congrArg Except.ok (decide_eq_decide.mpr hiff)

theorem sameCanonical_parsed {α : Type} [DecidableEq α]
    {parse : JsValue → Text → Except ReceiptProtocolError α} {write : α → JsValue}
    (hparse : Parses W.toReceiptPlatform parse write) {v w : JsValue} {p q : Text} {x y : α}
    (hx : parse v p = .ok x) (hy : parse w q = .ok y) :
    sameCanonical W (write x) (write y) = .ok (decide (x = y)) := by
  obtain ⟨j, hj⟩ := hparse.canonical hx
  obtain ⟨j', hj'⟩ := hparse.canonical hy
  refine sameCanonical_eq ⟨j, hj⟩ ⟨j', hj'⟩ ⟨hparse.distinct hx hy, ?_⟩
  rintro rfl
  exact (canonical_eq_iff hj hj).mp rfl

theorem sameCanonical_stored {v w : JsValue} {x y : StoredAttemptReceipt}
    (hx : validateStoredAttemptReceipt W keccak256 v = some x)
    (hy : validateStoredAttemptReceipt W keccak256 w = some y) :
    sameCanonical W x.value y.value = .ok (decide (x = y)) := by
  obtain ⟨j, hj⟩ := storedReceipt_canonical hx
  obtain ⟨j', hj'⟩ := storedReceipt_canonical hy
  refine sameCanonical_eq ⟨j, hj⟩ ⟨j', hj'⟩ ⟨fun hsame => ?_, ?_⟩
  · -- both are read of the value that their text is parsed to
    obtain rfl := (canonical_eq_iff hj hj').mpr hsame
    have hreadx := validateStoredAttemptReceipt_stored.restored ⟨j, hj, rfl⟩
      (validateStoredAttemptReceipt_stored.again hx)
    have hready := validateStoredAttemptReceipt_stored.restored ⟨j, hj', rfl⟩
      (validateStoredAttemptReceipt_stored.again hy)
    exact Option.some.inj (hreadx.symm.trans hready)
  · rintro rfl
    exact (canonical_eq_iff hj hj).mp rfl

/-! ### What a bundle has signed -/

/-- The events of a verified bundle. -/
structure SignedEvents (W : WebPlatform) (keccak256 : List UInt8 → HashHex) (C : CryptoProvider)
    (key : PublicKeyDescriptor) (events : List LifecycleEventEnvelope) : Prop where
  normal : ∀ event ∈ events, Normal W.toReceiptPlatform event
  hashes : (events.map (·.eventHash)).Nodup
  verified : ∀ event ∈ events,
    verifyExtensionEventSignature W keccak256 C event.value key.write = true

theorem signedEvents_of_verified {v : JsValue} {bundle : PrivateReceiptBundle}
    (h : verifyPrivateReceiptBundle W keccak256 C v = .ok bundle) :
    SignedEvents W keccak256 C bundle.receipt.extensionPublicKey bundle.receipt.events := by
  obtain ⟨hparsed, ⟨chain, hchain⟩, hverified⟩ := verifyPrivateReceiptBundle_eq_ok.mp h
  obtain ⟨-, value, -, -, -, -, -, -, h5⟩ := parsePrivateReceiptBundle_eq_ok.mp hparsed
  have hnormal := normal_of_parsed (validateReceipt_eq_ok.mp h5).1
  obtain ⟨last, hreplay, -⟩ := validateEventChain_eq_ok.mp hchain
  have hitems : List.Forall₂ (fun item event => ∀ q,
      parseEventEnvelope W.toReceiptPlatform item q = .ok event)
      (bundle.receipt.events.map (·.value)) bundle.receipt.events := by
    rw [List.forall₂_map_left_iff, List.forall₂_same]
    exact hnormal
  exact ⟨hnormal, (replay_hashes hitems hreplay).1, List.all_eq_true.mp hverified⟩

/-- The hash of a signed event finds it, and no other. -/
theorem byHash_eq_some {bundle : PrivateReceiptBundle}
    (h : (bundle.receipt.events.map (·.eventHash)).Nodup) {eventHash : Text}
    {prior : LifecycleEventEnvelope} : bundle.byHash eventHash = some prior ↔
      prior ∈ bundle.receipt.events ∧ prior.eventHash = eventHash := by
  have hfinds : ∀ {found : LifecycleEventEnvelope}, bundle.byHash eventHash = some found →
      found ∈ bundle.receipt.events ∧ found.eventHash = eventHash := by
    intro found hfound
    have hhash := List.find?_some (p := fun event : LifecycleEventEnvelope =>
      decide (event.eventHash = eventHash)) hfound
    exact ⟨List.mem_reverse.mp (List.mem_of_find?_eq_some hfound), of_decide_eq_true hhash⟩
  refine ⟨hfinds, ?_⟩
  rintro ⟨hmem, hhash⟩
  have hsome : (bundle.byHash eventHash).isSome = true := by
    rw [PrivateReceiptBundle.byHash, List.find?_isSome]
    exact ⟨prior, List.mem_reverse.mpr hmem, decide_eq_true hhash⟩
  obtain ⟨found, hfound⟩ := Option.isSome_iff_exists.mp hsome
  obtain ⟨hother, hsame⟩ := hfinds hfound
  rw [hfound, List.inj_on_of_nodup_map h hother hmem (hsame.trans hhash.symm)]

theorem optionalField_unset {α : Type} {parse : JsValue → Text → Except ReceiptProtocolError α}
    {members : List (Text × JsValue)} (hkeys : distinctKeys members = true) {key : String}
    (hunset : member (ascii key) members = .undefined) (q : Text) :
    optionalField parse key (definedMembers members) q = .ok none := by
  unfold optionalField
  rw [hasOwn_definedMembers hkeys, hunset]
  rfl

/-- An event is parsed to itself without its signature and its anchor. -/
theorem Normal.withoutExtensionSignature {event : LifecycleEventEnvelope} (h : Normal Q event) :
    Normal Q (withoutExtensionSignature event) := by
  intro q
  obtain ⟨hconsistent, value, -, hfields⟩ := parseEventEnvelope_eq_ok.mp (h q)
  obtain ⟨-, h1, -, h3, -, h5⟩ := hfields q
  have hconsistent' : (Protocol.withoutExtensionSignature event).Consistent := by
    refine ⟨?_, hconsistent.authority_signer, hconsistent.authority_stage⟩
    rintro ⟨signature, hnone, -⟩
    cases hnone
  refine parseEventEnvelope_eq_ok.mpr
    ⟨hconsistent', _, rfl, fun q => ⟨assertKeys_fits rfl q, ?_, ?_, ?_, ?_, ?_⟩⟩
  · exact field_again parseEventCore_parses h1 rfl rfl q
  · exact optionalField_unset rfl rfl q
  · exact optionalField_again parseSignatureEnvelope_parses h3 rfl rfl (fun _ => rfl) q
  · exact optionalField_unset rfl rfl q
  · exact field_again (normalizeHash_parses (Q := Q)) h5 rfl rfl q

/-- **What is kept in place of an event**: the signed event of the bundle that is the
event without its signature and its anchor. -/
theorem priorEvent_eq {v : JsValue} {bundle : PrivateReceiptBundle}
    (h : verifyPrivateReceiptBundle W keccak256 S.toCryptoProvider v = .ok bundle)
    {event : LifecycleEventEnvelope} (hevent : Normal W.toReceiptPlatform event) : ∃ prior,
      priorEvent W keccak256 S (some bundle) event = .ok prior ∧
      ∀ found, prior = some found ↔
        found ∈ bundle.receipt.events ∧ withoutExtensionSignature found = event := by
  have hsigned := signedEvents_of_verified h
  rcases hfind : bundle.byHash event.eventHash with - | candidate
  · refine ⟨none, ?_, fun found => ⟨?_, ?_⟩⟩
    · simp only [priorEvent, hfind]
    · intro hnone
      cases hnone
    · rintro ⟨hmem, rfl⟩
      have hfound := (byHash_eq_some hsigned.hashes).mpr
        ⟨hmem, show found.eventHash = (withoutExtensionSignature found).eventHash from rfl⟩
      rw [hfind] at hfound
      cases hfound
  · obtain ⟨hmem, hhash⟩ := (byHash_eq_some hsigned.hashes).mp hfind
    have hsame := sameCanonical_parsed (W := W) parseEventEnvelope_parses
      ((hsigned.normal candidate hmem).withoutExtensionSignature []) (hevent [])
    refine ⟨if withoutExtensionSignature candidate = event then some candidate else none, ?_,
      fun found => ⟨?_, ?_⟩⟩
    · simp only [priorEvent, hfind, bind_eq_ok, rethrow_eq_ok]
      refine ⟨_, hsame, ?_⟩
      simp only [hsigned.verified candidate hmem, Bool.and_true, decide_eq_true_eq]
      rfl
    · intro hkept
      split at hkept
      · next hevent =>
        obtain rfl := Option.some.inj hkept
        exact ⟨hmem, hevent⟩
      · cases hkept
    · rintro ⟨hfound, rfl⟩
      have hsameHash : candidate.eventHash = found.eventHash := hhash
      obtain rfl := List.inj_on_of_nodup_map hsigned.hashes hmem hfound hsameHash
      exact if_pos rfl

/-- What an event becomes in a bundle that is made of another one, or of none. -/
structure SignedAs (W : WebPlatform) (keccak256 : List UInt8 → HashHex) (C : CryptoProvider)
    (key : PublicKeyDescriptor) (existing : Option PrivateReceiptBundle)
    (event signed : LifecycleEventEnvelope) : Prop extends
    SignedBy W keccak256 C key event signed where
  kept : ∀ bundle ∈ existing, ∀ prior ∈ bundle.receipt.events,
    withoutExtensionSignature prior = event → signed = prior
  fresh : (∀ bundle ∈ existing, ∀ prior ∈ bundle.receipt.events,
    withoutExtensionSignature prior ≠ event) → signed.chainAnchor = none

/-- A bundle that the installation can update, where there is one. -/
def Updatable (W : WebPlatform) (keccak256 : List UInt8 → HashHex) (C : CryptoProvider)
    (key : PublicKeyDescriptor) (existing : Option PrivateReceiptBundle) : Prop :=
  ∀ bundle ∈ existing, bundle.receipt.extensionPublicKey = key ∧
    ∃ v, verifyPrivateReceiptBundle W keccak256 C v = .ok bundle

/-- One event is kept or signed. -/
theorem signedEvent_exists {identity : InstallationIdentityRecord S.Key}
    (hidentity : SigningIdentity W S identity) {existing : Option PrivateReceiptBundle}
    (hexisting : Updatable W keccak256 S.toCryptoProvider identity.publicKey existing)
    {event : LifecycleEventEnvelope} (hevent : Signable W keccak256 event) (draw : Nat) :
    ∃ signed, signedEvent W keccak256 S identity existing draw event = .ok signed ∧
      SignedAs W keccak256 S.toCryptoProvider identity.publicKey existing event signed := by
  obtain ⟨signed, hsign, hsigned, hanchor⟩ := signExtensionEvent_signable hidentity hevent draw
  rcases existing with - | bundle
  · refine ⟨signed, hsign, hsigned, ?_, fun _ => hanchor⟩
    intro bundle hnone
    cases hnone
  obtain ⟨hkey, v, hverified⟩ := hexisting bundle rfl
  have hevents := signedEvents_of_verified hverified
  obtain ⟨prior, hprior, hfound⟩ := priorEvent_eq hverified hevent.normal
  rcases prior with - | prior
  · have hnone : ∀ prior ∈ bundle.receipt.events, withoutExtensionSignature prior ≠ event := by
      intro prior hmem hsame
      cases (hfound prior).mpr ⟨hmem, hsame⟩
    refine ⟨signed, ?_, hsigned, ?_, fun _ => hanchor⟩
    · rw [signedEvent, hprior]
      exact hsign
    · rintro _ ⟨⟩ prior hmem hsame
      exact absurd hsame (hnone prior hmem)
  · obtain ⟨hmem, hsame⟩ := (hfound prior).mp rfl
    have hverifies := hevents.verified prior hmem
    rw [hkey] at hverifies
    refine ⟨prior, ?_, ⟨hevents.normal prior hmem, hsame, hverifies⟩, ?_, ?_⟩
    · rw [signedEvent, hprior]
      rfl
    · rintro _ ⟨⟩ other hother hsameOther
      exact Option.some.inj ((hfound other).mpr ⟨hother, hsameOther⟩)
    · intro hnone
      exact absurd hsame (hnone bundle rfl prior hmem)

/-- **The events of a receipt are kept or signed**, each of them. -/
theorem signedEventsForOperational_exists {identity : InstallationIdentityRecord S.Key}
    (hidentity : SigningIdentity W S identity) {existing : Option PrivateReceiptBundle}
    (hexisting : Updatable W keccak256 S.toCryptoProvider identity.publicKey existing)
    {events : List LifecycleEventEnvelope} (hevents : ∀ event ∈ events, Signable W keccak256 event)
    (draw : Nat) : ∃ signed,
      signedEventsForOperational W keccak256 S identity existing draw events = .ok signed ∧
      List.Forall₂
        (SignedAs W keccak256 S.toCryptoProvider identity.publicKey existing) events signed := by
  induction events generalizing draw with
  | nil => exact ⟨[], rfl, .nil⟩
  | cons event rest ih =>
    obtain ⟨hfirst, hrest⟩ := List.forall_mem_cons.mp hevents
    obtain ⟨signed, hsign, hsigned⟩ := signedEvent_exists hidentity hexisting hfirst draw
    obtain ⟨later, hlater, hall⟩ := ih hrest (draw + 1)
    refine ⟨signed :: later, ?_, .cons hsigned hall⟩
    simp only [signedEventsForOperational, bind_eq_ok]
    exact ⟨signed, hsign, later, hlater, rfl⟩

/-! ### Securing a receipt -/

theorem SignedAs.all {key : PublicKeyDescriptor} {existing : Option PrivateReceiptBundle}
    {events signed : List LifecycleEventEnvelope}
    (h : List.Forall₂ (SignedAs W keccak256 C key existing) events signed)
    (hevents : ∀ event ∈ events, Signable W keccak256 event) :
    AllSigned W keccak256 C key events signed := by
  unfold AllSigned
  induction h with
  | nil => exact .nil
  | cons hfirst hrest ih =>
    obtain ⟨hsignable, hevents⟩ := List.forall_mem_cons.mp hevents
    exact .cons ⟨hsignable.toHashed, (bare_eq_true hsignable.bare).2.1, hfirst.toSignedBy⟩
      (ih hevents)

/-- What making a bundle of a stored receipt gives, of an existing bundle or of none. -/
structure Secures (W : WebPlatform) (keccak256 : List UInt8 → HashHex) (C : CryptoProvider)
    (key : PublicKeyDescriptor) (existing : Option PrivateReceiptBundle)
    (operational : StoredAttemptReceipt) (bundle : PrivateReceiptBundle) : Prop where
  verified : verifyPrivateReceiptBundle W keccak256 C bundle.value = .ok bundle
  holds : bundle.operational = operational
  unchanged : ∀ prior ∈ existing, prior.operational = operational → bundle = prior
  signed : (∀ prior ∈ existing, prior.operational ≠ operational) →
    bundle.ownership = .local ∧ bundle.receipt.extensionPublicKey = key
  events : List.Forall₂
    (SignedAs W keccak256 C bundle.receipt.extensionPublicKey existing)
    (operationalEvents operational) bundle.receipt.events

/-- **A stored receipt is secured**, with what an existing bundle has signed. -/
theorem securedBundle_exists {identity : InstallationIdentityRecord S.Key}
    (hidentity : SigningIdentity W S identity) {existing : Option PrivateReceiptBundle}
    (hexisting : Updatable W keccak256 S.toCryptoProvider identity.publicKey existing)
    {v : JsValue} {operational : StoredAttemptReceipt}
    (hstored : validateStoredAttemptReceipt W keccak256 v = some operational) {now : Text}
    (hnow : ∀ q, normalizeTimestamp (.string now) q = .ok now) (draw : Nat)
    (hchanged : ∀ prior ∈ existing, prior.operational ≠ operational) : ∃ bundle,
      securedBundle W keccak256 S operational identity existing now draw = .ok bundle ∧
      Secures W keccak256 S.toCryptoProvider identity.publicKey existing operational bundle := by
  obtain ⟨result, hoperational⟩ := operational_chain hstored
  obtain ⟨signed, hsigns, hsigned⟩ :=
    signedEventsForOperational_exists hidentity hexisting hoperational.signable draw
  have hall := SignedAs.all hsigned hoperational.signable
  obtain ⟨key, hkey, -⟩ := hidentity.signs
  have hsecurable : Securable W keccak256 S.toCryptoProvider v operational identity.publicKey now :=
    ⟨hstored, hidentity.normal, ⟨key, hkey⟩, hnow⟩
  have hverified := verifyPrivateReceiptBundle_secured hsecurable hall
  refine ⟨_, ?_, hverified, rfl, ?_, fun _ => ⟨rfl, rfl⟩, hsigned⟩
  · simp only [securedBundle, bind_eq_ok, rethrow_eq_ok]
    exact ⟨signed, hsigns, identity.publicKey, hidentity.normal _, _,
      createReceipt_signed hsecurable hall, hverified⟩
  · exact fun prior hprior hsame => absurd hsame (hchanged prior hprior)

/-- Events that match are those expected, but for what they add. -/
theorem forall₂_of_eventsMatch {events expected : List LifecycleEventEnvelope}
    (hnormal : ∀ event ∈ events, Normal W.toReceiptPlatform event)
    (hexpected : ∀ event ∈ expected, Normal W.toReceiptPlatform event)
    (hlength : events.length = expected.length) (h : eventsMatch W events expected = .ok true) :
    List.Forall₂ (fun event signed => withoutExtensionSignature signed = event) expected
      events := by
  induction events generalizing expected with
  | nil =>
    rw [List.eq_nil_of_length_eq_zero hlength.symm]
    exact .nil
  | cons event events ih =>
    rcases expected with - | ⟨first, rest⟩
    · cases hlength
    obtain ⟨hfirst, hrest⟩ := List.forall_mem_cons.mp hnormal
    obtain ⟨hfirstExpected, hrestExpected⟩ := List.forall_mem_cons.mp hexpected
    have hsame := sameCanonical_parsed (W := W) parseEventEnvelope_parses
      (hfirst.withoutExtensionSignature []) (hfirstExpected [])
    rw [eventsMatch] at h
    split at h
    · rw [hsame] at h
      by_cases heq : withoutExtensionSignature event = first
      · refine .cons heq (ih hrest hrestExpected (Nat.succ.inj hlength) ?_)
        rwa [decide_eq_true heq] at h
      · rw [decide_eq_false heq] at h
        cases h
    · cases h

theorem forall₂_mem {α β : Type} {R : α → β → Prop} {xs : List α} {ys : List β}
    (h : List.Forall₂ R xs ys) : List.Forall₂ (fun x y => R x y ∧ y ∈ ys) xs ys := by
  induction h with
  | nil => exact .nil
  | cons hfirst hrest ih =>
    exact .cons ⟨hfirst, List.mem_cons_self⟩
      (ih.imp fun _ _ hlater => ⟨hlater.1, List.mem_cons_of_mem _ hlater.2⟩)

/-- A verified bundle holds its own events. -/
theorem secures_self {v : JsValue} {bundle : PrivateReceiptBundle}
    (h : verifyPrivateReceiptBundle W keccak256 C v = .ok bundle) (key : PublicKeyDescriptor) :
    Secures W keccak256 C key (some bundle) bundle.operational bundle := by
  obtain ⟨hparsed, hchain, hall⟩ := verifyPrivateReceiptBundle_eq_ok.mp h
  obtain ⟨hcheck, value, -, -, -, -, -, hstored, -⟩ := parsePrivateReceiptBundle_eq_ok.mp hparsed
  obtain ⟨hmatches, -⟩ := checkBundle_eq_ok.mp hcheck
  obtain ⟨⟨-, -, -, -, hlength⟩, hsame⟩ := receiptMatchesOperational_eq_ok.mp hmatches
  have hevents := signedEvents_of_verified h
  have hforall := forall₂_of_eventsMatch hevents.normal
    (fun event hevent => (operationalEvents_parsed hstored event hevent).1) hlength hsame
  refine ⟨?_, rfl, ?_, ?_, ?_⟩
  · exact verifyPrivateReceiptBundle_eq_ok.mpr
      ⟨parsePrivateReceiptBundle_again hparsed, hchain, hall⟩
  · rintro _ ⟨⟩ -
    rfl
  · intro hchanged
    exact absurd rfl (hchanged bundle rfl)
  · refine (forall₂_mem hforall).imp fun event signed hfound => ?_
    obtain ⟨hsame, hmem⟩ := hfound
    refine ⟨⟨hevents.normal signed hmem, hsame, hevents.verified signed hmem⟩, ?_, ?_⟩
    · rintro _ ⟨⟩ prior hprior hpriorSame
      have hhash := congrArg LifecycleEventEnvelope.eventHash (hsame.trans hpriorSame.symm)
      exact List.inj_on_of_nodup_map hevents.hashes hmem hprior hhash
    · intro hnone
      exact absurd hsame (hnone bundle rfl signed hmem)

/-- What an installation with the key makes of a stored receipt, where there is a bundle
of it or none. -/
def Admits (key : PublicKeyDescriptor) (existing : Option PrivateReceiptBundle)
    (operational : StoredAttemptReceipt) : Prop :=
  ∀ prior ∈ existing, prior.operational.receiptId = operational.receiptId ∧
    (prior.operational = operational ∨
      prior.ownership = .local ∧ prior.receipt.extensionPublicKey = key)

theorem readExisting_eq_ok {v : JsValue} {existing : Option PrivateReceiptBundle}
    (h : readExisting W keccak256 S v = .ok existing) :
    ∀ prior ∈ existing,
      verifyPrivateReceiptBundle W keccak256 S.toCryptoProvider v = .ok prior := by
  unfold readExisting at h
  split at h
  · obtain rfl := Except.ok.inj h
    intro prior hnone
    cases hnone
  · obtain ⟨found, hfound, rfl⟩ := map_eq_ok.mp h
    rintro _ ⟨⟩
    exact hfound

theorem key_of_verified {v : JsValue} {bundle : PrivateReceiptBundle}
    (h : verifyPrivateReceiptBundle W keccak256 C v = .ok bundle) (q : Text) :
    parsePublicKeyDescriptor W.toReceiptPlatform bundle.receipt.extensionPublicKey.write q =
      .ok bundle.receipt.extensionPublicKey := by
  obtain ⟨hparsed, -, -⟩ := verifyPrivateReceiptBundle_eq_ok.mp h
  obtain ⟨-, value, -, -, -, -, -, -, h5⟩ := parsePrivateReceiptBundle_eq_ok.mp hparsed
  obtain ⟨value, -, hfields⟩ := parseReceiptStructure_eq_ok.mp (validateReceipt_eq_ok.mp h5).1
  obtain ⟨-, -, -, -, -, hkey, -⟩ := hfields []
  exact parsePublicKeyDescriptor_parses.again hkey q

theorem stored_of_verified {v : JsValue} {bundle : PrivateReceiptBundle}
    (h : verifyPrivateReceiptBundle W keccak256 C v = .ok bundle) :
    validateStoredAttemptReceipt W keccak256 bundle.operational.value =
      some bundle.operational := by
  obtain ⟨hparsed, -, -⟩ := verifyPrivateReceiptBundle_eq_ok.mp h
  obtain ⟨-, value, -, -, -, -, -, hstored, -⟩ := parsePrivateReceiptBundle_eq_ok.mp hparsed
  exact validateStoredAttemptReceipt_stored.again hstored

/-- **What an update of a bundle is.** -/
theorem updateBundle_some {identity : InstallationIdentityRecord S.Key}
    (hidentity : SigningIdentity W S identity) {v w : JsValue} {prior : PrivateReceiptBundle}
    (hprior : verifyPrivateReceiptBundle W keccak256 S.toCryptoProvider w = .ok prior)
    {operational : StoredAttemptReceipt}
    (hstored : validateStoredAttemptReceipt W keccak256 v = some operational) {now : Text}
    {draw : Nat} {bundle : PrivateReceiptBundle} :
    updateBundle W keccak256 S operational identity (some prior) now draw = .ok bundle ↔
      prior.operational.receiptId = operational.receiptId ∧
        (prior.operational = operational ∧ prior = bundle ∨
          prior.operational ≠ operational ∧
            (prior.ownership = .local ∧
              prior.receipt.extensionPublicKey = identity.publicKey) ∧
            securedBundle W keccak256 S operational identity (some prior) now draw =
              .ok bundle) := by
  have hsame := sameCanonical_stored (stored_of_verified hprior) hstored
  have hkey := sameCanonical_parsed (W := W) parsePublicKeyDescriptor_parses
    (key_of_verified hprior []) (hidentity.normal [])
  have hlocal : prior.ownership ≠ .imported ↔ prior.ownership = .local := by
    cases prior.ownership
    · exact ⟨fun h => absurd rfl h, fun h => Extension.ReceiptOwnership.noConfusion h⟩
    · exact ⟨fun _ => rfl, fun _ h => Extension.ReceiptOwnership.noConfusion h⟩
  simp only [updateBundle, bind_eq_ok, throwIf_eq_ok, rethrow_eq_ok, not_not]
  constructor
  · rintro ⟨_, hid, unchanged, hunchanged, h⟩
    obtain rfl := Except.ok.inj (hsame.symm.trans hunchanged)
    refine ⟨hid, ?_⟩
    by_cases heq : prior.operational = operational
    · rw [if_pos (decide_eq_true heq)] at h
      exact .inl ⟨heq, Except.ok.inj h⟩
    · rw [if_neg (fun hdecided => heq (of_decide_eq_true hdecided))] at h
      simp only [bind_eq_ok, throwIf_eq_ok, rethrow_eq_ok, Bool.not_eq_false] at h
      obtain ⟨_, hownership, sameKey, hsameKey, _, htrue, h⟩ := h
      obtain rfl := Except.ok.inj (hkey.symm.trans hsameKey)
      exact .inr ⟨heq, ⟨hlocal.mp hownership, of_decide_eq_true htrue⟩, h⟩
  · rintro ⟨hid, ⟨heq, rfl⟩ | ⟨heq, ⟨hownership, hidentityKey⟩, h⟩⟩
    · refine ⟨(), hid, _, hsame, ?_⟩
      rw [if_pos (decide_eq_true heq)]
      rfl
    · refine ⟨(), hid, _, hsame, ?_⟩
      rw [if_neg (fun hdecided => heq (of_decide_eq_true hdecided))]
      simp only [bind_eq_ok, throwIf_eq_ok, rethrow_eq_ok, Bool.not_eq_false]
      exact ⟨(), hlocal.mpr hownership, _, hkey, (), decide_eq_true hidentityKey, h⟩

/-- An update that is made holds the stored receipt, and is made where it is admitted. -/
theorem updateBundle_iff {identity : InstallationIdentityRecord S.Key}
    (hidentity : SigningIdentity W S identity) {v w : JsValue}
    {existing : Option PrivateReceiptBundle}
    (hexisting : readExisting W keccak256 S w = .ok existing) {operational : StoredAttemptReceipt}
    (hstored : validateStoredAttemptReceipt W keccak256 v = some operational) {now : Text}
    (hnow : ∀ q, normalizeTimestamp (.string now) q = .ok now) (draw : Nat) :
    ((∃ bundle, updateBundle W keccak256 S operational identity existing now draw = .ok bundle) ↔
        Admits identity.publicKey existing operational) ∧
      ∀ bundle, updateBundle W keccak256 S operational identity existing now draw = .ok bundle →
        Secures W keccak256 S.toCryptoProvider identity.publicKey existing operational bundle := by
  rcases existing with - | prior
  · have hnone : ∀ {P : PrivateReceiptBundle → Prop}, ∀ prior ∈ (none : Option _), P prior := by
      intro P prior hmem
      cases hmem
    obtain ⟨bundle, hmade, hsecures⟩ :=
      securedBundle_exists hidentity hnone hstored hnow draw hnone
    refine ⟨⟨fun _ => hnone, fun _ => ⟨bundle, hmade⟩⟩, fun other hother => ?_⟩
    obtain rfl := Except.ok.inj (hmade.symm.trans hother)
    exact hsecures
  have hprior := readExisting_eq_ok hexisting prior rfl
  -- what is signed anew, where the bundle is the installation's own
  have hsigned : prior.operational ≠ operational →
      prior.receipt.extensionPublicKey = identity.publicKey → ∃ bundle,
        securedBundle W keccak256 S operational identity (some prior) now draw = .ok bundle ∧
        Secures W keccak256 S.toCryptoProvider identity.publicKey (some prior) operational
          bundle := by
    intro hchanged hkey
    refine securedBundle_exists hidentity ?_ hstored hnow draw ?_
    · rintro _ ⟨⟩
      exact ⟨hkey, w, hprior⟩
    · rintro _ ⟨⟩
      exact hchanged
  refine ⟨⟨?_, ?_⟩, ?_⟩
  · rintro ⟨bundle, hupdate⟩ _ ⟨⟩
    obtain ⟨hid, hcases⟩ := (updateBundle_some hidentity hprior hstored).mp hupdate
    exact ⟨hid, hcases.imp And.left fun hown => hown.2.1⟩
  · intro hadmitted
    obtain ⟨hid, hcases⟩ := hadmitted prior rfl
    by_cases hsame : prior.operational = operational
    · exact ⟨prior, (updateBundle_some hidentity hprior hstored).mpr ⟨hid, .inl ⟨hsame, rfl⟩⟩⟩
    · have hown := hcases.resolve_left hsame
      obtain ⟨bundle, hmade, -⟩ := hsigned hsame hown.2
      exact ⟨bundle, (updateBundle_some hidentity hprior hstored).mpr
        ⟨hid, .inr ⟨hsame, hown, hmade⟩⟩⟩
  · intro bundle hupdate
    obtain ⟨-, ⟨rfl, rfl⟩ | ⟨hsame, hown, hmade⟩⟩ :=
      (updateBundle_some hidentity hprior hstored).mp hupdate
    · exact secures_self hprior identity.publicKey
    · obtain ⟨other, hother, hsecures⟩ := hsigned hsame hown.2
      obtain rfl := Except.ok.inj (hmade.symm.trans hother)
      exact hsecures

/-- **When a stored receipt is made a bundle, and of what**: where there is no bundle of
it yet, or where the bundle is of the same receipt and is unchanged or the
installation's own. -/
theorem createOrUpdatePrivateReceiptBundle_iff (hS : S.Lawful) {createdAt : Text} {seed : Nat}
    {identity : InstallationIdentityRecord S.Key} (hcreated : (isoTime createdAt).isSome = true)
    (hidentity : generateInstallationIdentity W S createdAt seed = .ok identity) {clock : Int}
    (hclock : 0 ≤ clock ∧ InFourDigitYears clock) (input existingInput : JsValue) (draw : Nat) :
    ((∃ bundle, createOrUpdatePrivateReceiptBundle W keccak256 S input identity existingInput
        (isoText clock) draw = .ok bundle) ↔ ∃ operational existing,
      validateStoredAttemptReceipt W keccak256 input = some operational ∧
      readExisting W keccak256 S existingInput = .ok existing ∧
      Admits identity.publicKey existing operational) ∧
    ∀ bundle, createOrUpdatePrivateReceiptBundle W keccak256 S input identity existingInput
        (isoText clock) draw = .ok bundle → ∃ operational existing,
      validateStoredAttemptReceipt W keccak256 input = some operational ∧
      readExisting W keccak256 S existingInput = .ok existing ∧
      Secures W keccak256 S.toCryptoProvider identity.publicKey existing operational bundle := by
  have hsigns := generateInstallationIdentity_signs hS hcreated hidentity
  have hnow : ∀ q, normalizeTimestamp (.string (isoText clock)) q = .ok (isoText clock) :=
    fun q => (normalizeTimestamp_isoText hclock.1).mpr ⟨hclock.2, rfl⟩
  simp only [createOrUpdatePrivateReceiptBundle, bind_eq_ok, orThrow_eq_ok]
  refine ⟨⟨?_, ?_⟩, ?_⟩
  · rintro ⟨bundle, operational, hstored, existing, hexisting, hupdate⟩
    have hiff := (updateBundle_iff hsigns hexisting hstored hnow draw).1
    exact ⟨operational, existing, hstored, hexisting, hiff.mp ⟨bundle, hupdate⟩⟩
  · rintro ⟨operational, existing, hstored, hexisting, hadmitted⟩
    have hiff := (updateBundle_iff hsigns hexisting hstored hnow draw).1
    obtain ⟨bundle, hupdate⟩ := hiff.mpr hadmitted
    exact ⟨bundle, operational, hstored, existing, hexisting, hupdate⟩
  · rintro bundle ⟨operational, hstored, existing, hexisting, hupdate⟩
    exact ⟨operational, existing, hstored, hexisting,
      (updateBundle_iff hsigns hexisting hstored hnow draw).2 bundle hupdate⟩

end laws

/-! ### An installation with one pair of keys -/

/-- A provider with one pair of keys, whose signatures are zero bytes. -/
def sampleSigning : SigningProvider where
  toCryptoProvider := sampleCrypto
  Key := Bool
  properties key :=
    if key then ⟨.privateKey, false, some "ECDSA", some "P-256", [.sign]⟩
    else ⟨.publicKey, true, some "ECDSA", some "P-256", [.verify]⟩
  generateKey _ := some (true, false)
  exportKey _ := some (List.replicate 91 0)
  digest _ := some (List.replicate 32 0)
  sign _ _ _ := some (List.replicate 64 0)

theorem sampleSigning_lawful : sampleSigning.Lawful where
  properties h := by
    obtain rfl := Option.some.inj h
    exact ⟨rfl, rfl, rfl, rfl, rfl⟩
  pairs _ hspki := by
    obtain rfl := Option.some.inj hspki
    exact ⟨List.cons_ne_nil 0 _, (), rfl, fun _ _ => ⟨_, rfl, List.length_replicate, rfl⟩⟩

theorem sampleIdentity_generated : ∃ identity,
    generateInstallationIdentity sampleWebPlatform sampleSigning
      (ascii "2026-01-01T00:00:00.000Z") 0 = .ok identity := by
  have h : (generateInstallationIdentity sampleWebPlatform sampleSigning
      (ascii "2026-01-01T00:00:00.000Z") 0).toOption.isSome = true := by
    decide +kernel
  obtain ⟨identity, hidentity⟩ := Option.isSome_iff_exists.mp h
  exact ⟨identity, toOption_eq_some.mp hidentity⟩

theorem sampleCreated_isoTime : (isoTime (ascii "2026-01-01T00:00:00.000Z")).isSome = true := by
  decide +kernel

theorem sampleClock_years : 0 ≤ (1767225620000 : Int) ∧ InFourDigitYears 1767225620000 :=
  ⟨by decide, by decide, by decide⟩

/-- The sample receipt is signed by the installation. -/
theorem createOrUpdatePrivateReceiptBundle_sample : ∃ identity bundle,
    createOrUpdatePrivateReceiptBundle sampleWebPlatform sampleKeccak sampleSigning
        sampleStored.value identity .null (isoText 1767225620000) 0 = .ok bundle ∧
      bundle.operational = sampleStored ∧ bundle.receipt.events.length = 1 := by
  obtain ⟨identity, hidentity⟩ := sampleIdentity_generated
  have hstored := stored_of_verified sampleBundle_verified
  have hadmitted : Admits identity.publicKey none sampleStored := by
    intro prior hnone
    cases hnone
  obtain ⟨bundle, hbundle⟩ := (createOrUpdatePrivateReceiptBundle_iff sampleSigning_lawful
    sampleCreated_isoTime hidentity sampleClock_years sampleStored.value .null 0).1.mpr
    ⟨sampleStored, none, hstored, rfl, hadmitted⟩
  obtain ⟨operational, existing, hvalid, -, hmade⟩ :=
    (createOrUpdatePrivateReceiptBundle_iff sampleSigning_lawful sampleCreated_isoTime hidentity
      sampleClock_years sampleStored.value .null 0).2 bundle hbundle
  obtain rfl := Option.some.inj (hstored.symm.trans hvalid)
  exact ⟨identity, bundle, hbundle, hmade.holds, (List.Forall₂.length_eq hmade.events).symm⟩

end SubmittedIt.Protocol
