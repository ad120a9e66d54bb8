/-
SubmittedIt/BundleRuns.lean

The bundle of a receipt over time (apps/extension/lib: private-receipt.ts, as
secure-storage.ts calls it).

A bundle is loaded, updated with a stored receipt or given the evidence of a chain,
and stored again.  Any installation may update it, with any stored receipt.

Main result: `evidence_kept`.
-/
import SubmittedIt.BundleUpdates

namespace SubmittedIt.Protocol

open Transaction

/-- One step of a bundle that is stored.  What is loaded is a value that verifies as the
bundle; the identity is one that was generated. -/
inductive BundleStep (W : WebPlatform) (keccak256 : List UInt8 → HashHex) (S : SigningProvider)
    (bundle next : PrivateReceiptBundle) : Prop
  | update {loaded input : JsValue} {createdAt : Text} {seed draw : Nat} {clock : Int}
      {identity : InstallationIdentityRecord S.Key}
      (hloaded : verifyPrivateReceiptBundle W keccak256 S.toCryptoProvider loaded = .ok bundle)
      (hcreated : (isoTime createdAt).isSome = true)
      (hidentity : generateInstallationIdentity W S createdAt seed = .ok identity)
      (hclock : 0 ≤ clock ∧ InFourDigitYears clock)
      (hupdate : createOrUpdatePrivateReceiptBundle W keccak256 S input identity loaded
        (isoText clock) draw = .ok next)
  | attach {loaded : JsValue} {eventHash : Text} {chainAnchor : ChainAnchorMetadata} {clock : Int}
      (hloaded : verifyPrivateReceiptBundle W keccak256 S.toCryptoProvider loaded = .ok bundle)
      (hclock : 0 ≤ clock ∧ InFourDigitYears clock)
      (hattach : attachVerifiedChainAnchor W keccak256 S.toCryptoProvider loaded eventHash
        chainAnchor (isoText clock) = .ok next)

/-- A signed event, later: it may have got an anchor, where it had none. -/
structure KeptAs (signed later : LifecycleEventEnvelope) : Prop where
  core : later.core = signed.core
  eventHash : later.eventHash = signed.eventHash
  extensionSignature : later.extensionSignature = signed.extensionSignature
  authoritySignature : later.authoritySignature = signed.authoritySignature
  chainAnchor : ∀ stored ∈ signed.chainAnchor, later.chainAnchor = some stored

/-- What a bundle is of does not change; of a bundle that is imported, nor does what it
is about. -/
structure Follows (first last : PrivateReceiptBundle) : Prop where
  receiptId : last.operational.receiptId = first.operational.receiptId
  ownership : last.ownership = first.ownership
  extensionPublicKey : last.receipt.extensionPublicKey = first.receipt.extensionPublicKey
  readOnly : first.ownership = .imported → last.operational = first.operational

theorem KeptAs.refl (signed : LifecycleEventEnvelope) : KeptAs signed signed :=
  ⟨rfl, rfl, rfl, rfl, fun _ hstored => hstored⟩

theorem KeptAs.trans {signed later last : LifecycleEventEnvelope} (h : KeptAs signed later)
    (h' : KeptAs later last) : KeptAs signed last :=
  ⟨h'.core.trans h.core, h'.eventHash.trans h.eventHash,
    h'.extensionSignature.trans h.extensionSignature,
    h'.authoritySignature.trans h.authoritySignature,
    fun stored hstored => h'.chainAnchor stored (h.chainAnchor stored hstored)⟩

/-- An event that is kept is the same without what the extension adds. -/
theorem KeptAs.withoutExtensionSignature {signed later : LifecycleEventEnvelope}
    (h : KeptAs signed later) :
    withoutExtensionSignature later = withoutExtensionSignature signed :=
  LifecycleEventEnvelope.ext h.authoritySignature rfl h.core h.eventHash rfl

theorem Follows.refl (bundle : PrivateReceiptBundle) : Follows bundle bundle :=
  ⟨rfl, rfl, rfl, fun _ => rfl⟩

theorem Follows.trans {first next last : PrivateReceiptBundle} (h : Follows first next)
    (h' : Follows next last) : Follows first last :=
  ⟨h'.receiptId.trans h.receiptId, h'.ownership.trans h.ownership,
    h'.extensionPublicKey.trans h.extensionPublicKey, fun himported =>
      (h'.readOnly (h.ownership.trans himported)).trans (h.readOnly himported)⟩

section laws

variable {W : WebPlatform} {keccak256 : List UInt8 → HashHex} {S : SigningProvider}
  {C : CryptoProvider}

/-! ### Updates -/

theorem readExisting_verified {loaded : JsValue} {bundle : PrivateReceiptBundle}
    (h : verifyPrivateReceiptBundle W keccak256 S.toCryptoProvider loaded = .ok bundle) :
    readExisting W keccak256 S loaded = .ok (some bundle) := by
  unfold readExisting
  split
  · -- null is no bundle
    obtain ⟨hparsed, -, -⟩ := verifyPrivateReceiptBundle_eq_ok.mp h
    obtain ⟨-, value, hvalue, -⟩ := parsePrivateReceiptBundle_eq_ok.mp hparsed
    cases hvalue
  · rw [h]
    rfl

/-- **An update keeps what is signed of the events that stay.** -/
theorem update_keeps (hS : S.Lawful) {loaded input : JsValue} {bundle next : PrivateReceiptBundle}
    (hloaded : verifyPrivateReceiptBundle W keccak256 S.toCryptoProvider loaded = .ok bundle)
    {createdAt : Text} {seed draw : Nat} {identity : InstallationIdentityRecord S.Key}
    (hcreated : (isoTime createdAt).isSome = true)
    (hidentity : generateInstallationIdentity W S createdAt seed = .ok identity) {clock : Int}
    (hclock : 0 ≤ clock ∧ InFourDigitYears clock)
    (hupdate : createOrUpdatePrivateReceiptBundle W keccak256 S input identity loaded
      (isoText clock) draw = .ok next) :
    verifyPrivateReceiptBundle W keccak256 S.toCryptoProvider next.value = .ok next ∧
      Follows bundle next ∧ ∀ signed ∈ bundle.receipt.events,
        withoutExtensionSignature signed ∈ operationalEvents next.operational →
        signed ∈ next.receipt.events := by
  have hsigns := generateInstallationIdentity_signs hS hcreated hidentity
  have hnow : ∀ q, normalizeTimestamp (.string (isoText clock)) q = .ok (isoText clock) :=
    fun q => (normalizeTimestamp_isoText hclock.1).mpr ⟨hclock.2, rfl⟩
  simp only [createOrUpdatePrivateReceiptBundle, bind_eq_ok, orThrow_eq_ok,
    readExisting_verified hloaded, Except.ok.injEq, exists_eq_left'] at hupdate
  obtain ⟨operational, hstored, hupdate⟩ := hupdate
  obtain ⟨hadmits, hsecures⟩ :=
    updateBundle_iff hsigns (readExisting_verified hloaded) hstored hnow draw
  have hsecures := hsecures next hupdate
  obtain ⟨hid, hcases⟩ := hadmits.mp ⟨next, hupdate⟩ bundle rfl
  have hfollows : Follows bundle next := by
    by_cases hsame : bundle.operational = operational
    · rw [hsecures.unchanged bundle rfl hsame]
      exact .refl bundle
    · obtain ⟨hownership, hkey⟩ := hcases.resolve_left hsame
      have hchanged : ∀ prior ∈ some bundle, prior.operational ≠ operational := by
        rintro _ ⟨⟩
        exact hsame
      obtain ⟨hlocal, hnext⟩ := hsecures.signed hchanged
      refine ⟨?_, hlocal.trans hownership.symm, hnext.trans hkey.symm, fun himported => ?_⟩
      · rw [hsecures.holds]
        exact hid.symm
      · cases hownership.symm.trans himported
  refine ⟨hsecures.verified, hfollows, fun signed hsigned hstays => ?_⟩
  rw [hsecures.holds] at hstays
  -- what the next bundle has of the event is what the bundle has of it
  obtain ⟨later, hlater, hfound⟩ := exists_of_forall₂ hsecures.events.flip hstays
  rw [← hfound.kept bundle rfl signed hsigned rfl]
  exact hlater

/-! ### Attachments -/

theorem normalizeHash_source {v : JsValue} {p text : Text} (h : normalizeHash v p = .ok text) :
    ∃ source, v = .string source ∧ isVisible source = true := by
  unfold normalizeHash at h
  split at h
  · split at h
    · next hmatch => exact ⟨_, rfl, matchesHex_visible hmatch⟩
    · cases h
  · cases h

theorem normalizeAddress_source {v : JsValue} {p text : Text}
    (h : normalizeAddress v p = .ok text) : ∃ source, v = .string source ∧
      isVisible source = true := by
  unfold normalizeAddress at h
  split at h
  · split at h
    · next hmatch => exact ⟨_, rfl, matchesHex_visible hmatch⟩
    · cases h
  · cases h

/-- Evidence that is parsed has visible texts. -/
theorem visible_of_source {chainAnchor parsed : ChainAnchorMetadata} {q : Text}
    (h : parseChainAnchorMetadata chainAnchor.value q = .ok parsed) : chainAnchor.Visible := by
  obtain ⟨value, hvalue, hfields⟩ := parseChainAnchorMetadata_eq_ok.mp h
  obtain rfl := JsValue.object.inj hvalue
  obtain ⟨-, h1, h2, -, h4, h5⟩ := hfields q
  rw [field_definedMembers rfl] at h1 h2 h4 h5
  obtain ⟨_, htime, hvisible⟩ := normalizeTimestamp_source h1
  obtain ⟨_, haddress, hvisible'⟩ := normalizeAddress_source h4
  obtain ⟨_, hhash, hvisible''⟩ := normalizeHash_source h5
  obtain ⟨hnumber, hdecimal⟩ := normalizeDecimalString_eq_ok.mp h2
  obtain rfl := JsValue.string.inj htime
  obtain rfl := JsValue.string.inj haddress
  obtain rfl := JsValue.string.inj hhash
  refine ⟨hvisible, ?_, hvisible', hvisible''⟩
  have hsame := JsValue.string.inj hnumber
  rw [← hsame] at hdecimal
  exact isDecimal_visible hdecimal

/-- The event that evidence is attached to is one of the bundle. -/
theorem attach_found {loaded : JsValue} {bundle next : PrivateReceiptBundle}
    (hloaded : verifyPrivateReceiptBundle W keccak256 C loaded = .ok bundle) {eventHash : Text}
    {chainAnchor : ChainAnchorMetadata} {time : Text}
    (h : attachVerifiedChainAnchor W keccak256 C loaded eventHash chainAnchor time = .ok next) :
    ∃ event ∈ bundle.receipt.events, event.eventHash = eventHash := by
  simp only [attachVerifiedChainAnchor, bind_eq_ok, orThrow_eq_ok, hloaded, Except.ok.injEq,
    exists_eq_left'] at h
  obtain ⟨index, hindex, -⟩ := h
  obtain ⟨hlt, hhash, -⟩ := List.findIdx?_eq_some_iff_getElem.mp hindex
  exact ⟨_, List.getElem_mem hlt, of_decide_eq_true hhash⟩

/-- **Evidence is attached to one event**, and replaces no other evidence. -/
theorem attach_keeps {loaded : JsValue} {bundle next : PrivateReceiptBundle}
    (hloaded : verifyPrivateReceiptBundle W keccak256 C loaded = .ok bundle) {eventHash : Text}
    {chainAnchor : ChainAnchorMetadata} {clock : Int} (hclock : 0 ≤ clock ∧ InFourDigitYears clock)
    (hattach : attachVerifiedChainAnchor W keccak256 C loaded eventHash chainAnchor
      (isoText clock) = .ok next) :
    verifyPrivateReceiptBundle W keccak256 C next.value = .ok next ∧ Follows bundle next ∧
      ∀ signed ∈ bundle.receipt.events, ∃ later ∈ next.receipt.events, KeptAs signed later := by
  have htime : ∀ q, normalizeTimestamp (.string (isoText clock)) q = .ok (isoText clock) :=
    fun q => (normalizeTimestamp_isoText hclock.1).mpr ⟨hclock.2, rfl⟩
  obtain ⟨event, hevent, rfl⟩ := attach_found hloaded hattach
  obtain ⟨index, hindex⟩ := findIdx?_eventHash hloaded hevent
  have hverified := attached_verified hloaded hindex htime hattach
  obtain ⟨parsed, hparsed, hassert, rfl⟩ :=
    (attachVerifiedChainAnchor_eq_ok hloaded hindex htime).mp hattach
  have hstored := anchor_of_verified hloaded hindex
  have hsame := (assertSameAnchor_eq_ok hstored (visible_of_source (hparsed []))).mp hassert
  refine ⟨hverified, ⟨rfl, rfl, rfl, fun _ => rfl⟩, fun signed hsigned => ?_⟩
  obtain ⟨place, hplace⟩ := List.mem_iff_getElem?.mp hsigned
  by_cases hother : index = place
  · -- the event itself: evidence that it has is the evidence that it gets
    obtain rfl := hother
    obtain rfl := Option.some.inj (hindex.there.symm.trans hplace)
    refine ⟨_, mem_modify hindex.there (·.withAnchor parsed), rfl, rfl, rfl, rfl, ?_⟩
    intro stored hanchor
    obtain rfl := hsame stored hanchor
    exact congrArg some (Except.ok.inj ((hparsed []).symm.trans (hstored _ hanchor [])))
  · refine ⟨signed, ?_, .refl signed⟩
    apply List.mem_of_getElem? (i := place)
    show (bundle.receipt.events.modify index (·.withAnchor parsed))[place]? = some signed
    rw [List.getElem?_modify_ne _ _ hother]
    exact hplace

/-! ### Runs -/

/-- One step keeps what is signed of an event that stays. -/
theorem BundleStep.keeps (hS : S.Lawful) {bundle next : PrivateReceiptBundle}
    (h : BundleStep W keccak256 S bundle next) :
    verifyPrivateReceiptBundle W keccak256 S.toCryptoProvider next.value = .ok next ∧
      Follows bundle next ∧ ∀ signed ∈ bundle.receipt.events,
        withoutExtensionSignature signed ∈ operationalEvents next.operational →
        ∃ later ∈ next.receipt.events, KeptAs signed later := by
  cases h with
  | update hloaded hcreated hidentity hclock hupdate =>
    obtain ⟨hverified, hfollows, hkept⟩ :=
      update_keeps hS hloaded hcreated hidentity hclock hupdate
    exact ⟨hverified, hfollows, fun signed hsigned hstays =>
      ⟨signed, hkept signed hsigned hstays, .refl signed⟩⟩
  | attach hloaded hclock hattach =>
    obtain ⟨hverified, hfollows, hkept⟩ := attach_keeps hloaded hclock hattach
    exact ⟨hverified, hfollows, fun signed hsigned _ => hkept signed hsigned⟩

/-- A run keeps what the bundle is of. -/
theorem run_follows (hS : S.Lawful) {loaded : JsValue} {first last : PrivateReceiptBundle}
    (hfirst : verifyPrivateReceiptBundle W keccak256 S.toCryptoProvider loaded = .ok first)
    (hrun : Relation.ReflTransGen (BundleStep W keccak256 S) first last) :
    verifyPrivateReceiptBundle W keccak256 S.toCryptoProvider last.value = .ok last ∧
      Follows first last := by
  induction hrun with
  | refl => exact ⟨(secures_self hfirst first.receipt.extensionPublicKey).verified, .refl first⟩
  | tail _ hstep ih =>
    obtain ⟨hverified, hnext, -⟩ := hstep.keeps hS
    exact ⟨hverified, ih.2.trans hnext⟩

/-- An event that stays through a run keeps what is signed of it. -/
theorem run_keeps (hS : S.Lawful) {first last : PrivateReceiptBundle}
    {signed : LifecycleEventEnvelope} (hsigned : signed ∈ first.receipt.events)
    (hrun : Relation.ReflTransGen (fun bundle next => BundleStep W keccak256 S bundle next ∧
      withoutExtensionSignature signed ∈ operationalEvents next.operational) first last) :
    ∃ later ∈ last.receipt.events, KeptAs signed later := by
  induction hrun with
  | refl => exact ⟨signed, hsigned, .refl signed⟩
  | tail _ hstep ih =>
    obtain ⟨later, hlater, hfound⟩ := ih
    obtain ⟨hstep, hstays⟩ := hstep
    obtain ⟨-, -, hkeeps⟩ := hstep.keeps hS
    rw [← hfound.withoutExtensionSignature] at hstays
    obtain ⟨found, hmem, hlast⟩ := hkeeps later hlater hstays
    exact ⟨found, hmem, hfound.trans hlast⟩

/-- **What is signed is kept.**  Over any run of updates and attachments, by whatever
installations, the bundle stays one that verifies, of the same receipt, owner and key,
with the same stored receipt where it was imported; and an event that stays among those
of the stored receipt keeps its signature, and its anchor from when it has one. -/
theorem evidence_kept (hS : S.Lawful) {loaded : JsValue} {first last : PrivateReceiptBundle}
    (hfirst : verifyPrivateReceiptBundle W keccak256 S.toCryptoProvider loaded = .ok first)
    (hrun : Relation.ReflTransGen (BundleStep W keccak256 S) first last) :
    verifyPrivateReceiptBundle W keccak256 S.toCryptoProvider last.value = .ok last ∧
      Follows first last ∧ ∀ signed ∈ first.receipt.events,
        Relation.ReflTransGen (fun bundle next => BundleStep W keccak256 S bundle next ∧
          withoutExtensionSignature signed ∈ operationalEvents next.operational) first last →
        ∃ later ∈ last.receipt.events, KeptAs signed later := by
  obtain ⟨hverified, hfollows⟩ := run_follows hS hfirst hrun
  exact ⟨hverified, hfollows, fun _ hsigned hstays => run_keeps hS hsigned hstays⟩

end laws

/-- The sample event is kept when it gets evidence and the receipt is saved again. -/
theorem evidence_kept_sample : ∃ last, ∃ later ∈ last.receipt.events,
    KeptAs sampleSignedEvent later ∧ later.chainAnchor.isSome = true ∧
      Follows sampleBundle last := by
  obtain ⟨identity, hidentity⟩ := sampleIdentity_generated
  have htime : ∀ q, normalizeTimestamp (.string (isoText 1767225620000)) q =
      .ok (isoText 1767225620000) :=
    fun q => (normalizeTimestamp_isoText sampleClock_years.1).mpr ⟨sampleClock_years.2, rfl⟩
  have hindex : FoundAt sampleBundle sampleSignedEvent 0 := ⟨rfl, by decide⟩
  have hevidence := sampleEvidence_chainEvidence
    (show matchesHex 40 (ascii "0x5aaeb6053f3e94c9b9a09f33669435e7ef1beaed") = true by decide)
  have hnone : ∀ stored ∈ sampleSignedEvent.chainAnchor,
      stored = sampleEvidence "0x5aaeb6053f3e94c9b9a09f33669435e7ef1beaed" := by
    intro stored hstored
    cases hstored
  have hattach := (attach_evidence_eq_ok sampleBundle_verified hindex hevidence htime).mpr
    ⟨⟨by decide, by decide⟩, hnone, rfl⟩
  have hanchored := attached_verified sampleBundle_verified hindex htime hattach
  -- the receipt that is saved again has not changed
  have hstored := stored_of_verified sampleBundle_verified
  have hsigns := generateInstallationIdentity_signs sampleSigning_lawful sampleCreated_isoTime
    hidentity
  have hupdate : updateBundle sampleWebPlatform sampleKeccak sampleSigning sampleStored identity
      (some _) (isoText 1767225620000) 0 = .ok _ :=
    (updateBundle_some hsigns hanchored hstored).mpr ⟨rfl, .inl ⟨rfl, rfl⟩⟩
  have hsaved : createOrUpdatePrivateReceiptBundle sampleWebPlatform sampleKeccak sampleSigning
      sampleStored.value identity _ (isoText 1767225620000) 0 = .ok _ :=
    bind_eq_ok.mpr ⟨sampleStored, orThrow_eq_ok.mpr hstored,
      bind_eq_ok.mpr ⟨_, readExisting_verified hanchored, hupdate⟩⟩
  have hrun := (Relation.ReflTransGen.single (a := sampleBundle) (r := fun bundle next =>
      BundleStep sampleWebPlatform sampleKeccak sampleSigning bundle next ∧
        withoutExtensionSignature sampleSignedEvent ∈ operationalEvents next.operational)
    ⟨BundleStep.attach sampleBundle_verified sampleClock_years hattach,
      List.mem_cons_self⟩).tail
    ⟨BundleStep.update hanchored sampleCreated_isoTime hidentity sampleClock_years hsaved,
      List.mem_cons_self⟩
  obtain ⟨-, hfollows, hkept⟩ := evidence_kept sampleSigning_lawful sampleBundle_verified
    (Relation.ReflTransGen.mono (fun _ _ hstep => hstep.1) _ _ hrun)
  obtain ⟨later, hlater, hkeptAs⟩ := hkept sampleSignedEvent List.mem_cons_self hrun
  refine ⟨_, later, hlater, hkeptAs, ?_, hfollows⟩
  obtain rfl := List.mem_singleton.mp hlater
  rfl

end SubmittedIt.Protocol
