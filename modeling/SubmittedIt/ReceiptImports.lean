/-
SubmittedIt/ReceiptImports.lean

Importing a private receipt bundle.

An import rewrites the bundle (`importOf`), verifies it again, writes its
artifacts, commits an index that names them and opens that index.  Up to the
commit everything it wrote is taken back (`admitBundle_run`).  The commit
checks identifiers of the index only; that no other receipt has the attempt or
an event of the bundle is checked when the committed index is opened
(`finishImport_opens`, `finishImport_clashes`).

Main results: `storeImportedReceiptBundle_atomic_iff` and
`storeImportedReceiptBundle_complete_iff`.
-/
import SubmittedIt.StorageRuns
import SubmittedIt.StorageMigration
import SubmittedIt.ReceiptOperations

namespace SubmittedIt.Extension

open Transaction ReceiptCore

variable {P : StoragePlatform}

/-! ### The imported bundle -/

/-- What an import makes of a bundle. -/
def importOf (given : PrivateReceiptBundle) (currentPublicKey : Option PublicKeyDescriptor) :
    PrivateReceiptBundle where
  operational := supersedeContext given.operational
  ownership :=
    if currentPublicKey = some given.receipt.extensionPublicKey then .local else .imported
  receipt := given.receipt

/-- A receipt that is only attempted has no site confirmation. -/
theorem ValidReceipt.attempted {receipt : StoredAttemptReceipt} (h : ValidReceipt P receipt)
    (hattempted : receipt.currentStage = .attempted) : receipt.siteConfirmationEvent = none := by
  rcases hsite : receipt.siteConfirmationEvent with - | event
  · rfl
  · have hconfirmed := (h.confirmed event hsite).2.1
    rw [hattempted] at hconfirmed
    cases hconfirmed

/-- **A superseded context fits an attempt only**: site evidence asks for a
completed one. -/
theorem parse_supersedeContext {receipt : StoredAttemptReceipt}
    (h : parseStoredAttemptReceipt P receipt = true) :
    parseStoredAttemptReceipt P (supersedeContext receipt) = true ↔
      receipt.currentStage = .attempted := by
  have hvalid := validReceipt_of_parse h
  constructor
  · intro hparse
    rcases hsite : receipt.siteConfirmationEvent with - | event
    · exact (hvalid.unconfirmed hsite).1
    · have hcompleted := ((validReceipt_of_parse hparse).confirmed event hsite).2.2.2
      rcases hcontext : receipt.confirmationContext with - | context
      · simp [StoredAttemptReceipt.contextStatus, supersedeContext, hcontext] at hcompleted
      · simp [StoredAttemptReceipt.contextStatus, supersedeContext, hcontext] at hcompleted
  · intro hattempted
    have hnone := hvalid.attempted hattempted
    have hevidence := (hvalid.unconfirmed hnone).2.1
    unfold parseStoredAttemptReceipt supersedeContext
    rcases hcontext : receipt.confirmationContext with - | context
    · simp [hnone, hattempted, hevidence, hvalid.base]
    · have hparse := hvalid.context context hcontext
      simp only [hnone, hattempted, hevidence, Option.map_some, Option.all_some]
      rw [show parseConfirmationContext { context with status := .superseded }
        receipt.toParsedAttemptBase = true from hparse, hvalid.base]
      simp

/-- **What an import makes of a verified bundle is verified** where the receipt
is only attempted. -/
theorem verified_importOf {given : PrivateReceiptBundle} (h : Verified P given)
    (currentPublicKey : Option PublicKeyDescriptor) :
    Verified P (importOf given currentPublicKey) ↔
      given.operational.currentStage = .attempted := by
  constructor
  · intro himported
    exact (parse_supersedeContext h.operational).mp himported.operational
  · intro hattempted
    exact ⟨(parse_supersedeContext h.operational).mpr hattempted, h.receipt, h.matching⟩

/-- **What an import accepts**: verified bundles of attempts, without anchors. -/
theorem imported_eq_ok {input : Option PrivateReceiptBundle}
    {currentPublicKey : Option PublicKeyDescriptor} {bundle : PrivateReceiptBundle} :
    importedPrivateReceiptBundle P input currentPublicKey = .ok bundle ↔
      ∃ given, input = some given ∧ Verified P given ∧
        (∀ event ∈ given.receipt.events, event.chainAnchor = none) ∧
        given.operational.currentStage = .attempted ∧ bundle = importOf given currentPublicKey := by
  unfold importedPrivateReceiptBundle
  rcases input with - | given
  · simp
  simp only [bind_eq_ok, verify_eq_ok, revertIf_eq_ok, exists_const, Option.some.injEq,
    exists_eq_left', List.any_eq_true, not_exists, not_and, Option.isSome_iff_ne_none, not_not]
  constructor
  · rintro ⟨verified, ⟨rfl, hgiven⟩, hanchors, rfl, hverified⟩
    exact ⟨hgiven, hanchors, (verified_importOf hgiven _).mp hverified, rfl⟩
  · rintro ⟨hgiven, hanchors, hattempted, rfl⟩
    exact ⟨given, ⟨rfl, hgiven⟩, hanchors, rfl, (verified_importOf hgiven _).mpr hattempted⟩

theorem imported_attempted {input : Option PrivateReceiptBundle}
    {currentPublicKey : Option PublicKeyDescriptor} {bundle : PrivateReceiptBundle}
    (h : importedPrivateReceiptBundle P input currentPublicKey = .ok bundle) :
    Verified P bundle ∧ bundle.operational.currentStage = .attempted := by
  obtain ⟨given, -, hgiven, -, hattempted, rfl⟩ := imported_eq_ok.mp h
  exact ⟨(verified_importOf hgiven _).mpr hattempted, hattempted⟩

/-! ### Loading -/

theorem hasLoaded_of_writeInitial {w s : World P} (hfresh : w.Fresh)
    {identity : Option SecureIdentityMetadata} {now : Timestamp}
    {loaded : LoadedSecureExtensionState}
    (hidentity : ∀ metadata, identity = some metadata →
      w.vault.identity.any (identityMetadataMatches metadata) = true)
    (h : (do
      let persistent ← writePersistentState { initialSecureState now with identity }
      loadedFrom persistent [] : StorageProg P LoadedSecureExtensionState).run (exec P) w =
        (.ok loaded, s)) : HasLoaded s loaded := by
  obtain ⟨state, s₁, hwrite, h⟩ := Prog.run_bind_eq_ok h
  obtain ⟨hvalid, rfl, rfl⟩ := writePersistentState_ok hwrite
  obtain ⟨working, s₂, hworking, h⟩ := Prog.run_bind_eq_ok h
  obtain ⟨hworking, rfl⟩ := Prod.ext_iff.mp hworking
  cases h
  refine ⟨rfl, ⟨hvalid, hidentity, rfl, .nil, ?_, hworking⟩, hfresh⟩
  exact fun operation hoperation => absurd hoperation List.not_mem_nil

/-- **What any load leaves** where the identity is known. -/
theorem hasLoaded_of_load {w s : World P} (hfresh : w.Fresh)
    (hjournal : w.area.encrypted = false → JournalSound w.vault) (hknown : IdentityKnown w)
    {ensure : Option Bool} {now : Timestamp}
    {loaded : LoadedSecureExtensionState}
    (h : (loadSecureExtensionState ensure now).run (exec P) w = (.ok loaded, s)) :
    HasLoaded s loaded := by
  by_cases hencrypted : w.area.encrypted = true
  · have hholds := holds_of_load h hencrypted hknown
    have hloads := (hholds.load hfresh ensure now).result
    rw [h] at hloads
    obtain ⟨loaded', hsame, hloads⟩ := hloads
    cases hsame
    exact hloads.hasLoaded
  obtain ⟨stored, w', hstored, h⟩ := Prog.run_bind_eq_ok h
  cases hstored
  rcases harea : w.area with - | secure | legacy | bad | value
  · rw [harea] at h
    dsimp only at h
    split at h
    · exact hasLoaded_of_writeInitial hfresh (fun metadata hmetadata => by cases hmetadata) h
    · obtain ⟨identity, s₁, hidentity, h⟩ := Prog.run_bind_eq_ok h
      obtain ⟨⟨hkept, -⟩, hok, -⟩ :=
        ((ensureIdentity_meets (Kept.refl hfresh) none now).and_inv ⟨.refl hfresh, rfl⟩).result
      rw [show (ensureIdentity none now).run (exec P) w = (.ok identity, s₁) from hidentity]
        at hkept hok
      refine hasLoaded_of_writeInitial hkept.fresh ?_ h
      rintro metadata ⟨⟩
      rw [(hok identity rfl).1, Option.any_some]
      exact decide_eq_true rfl
  · rw [harea] at hencrypted
    exact absurd rfl hencrypted
  · rw [harea] at hencrypted
    exact absurd rfl hencrypted
  · rw [harea] at h
    dsimp only at h
    split at h
    · cases h
    · cases h
  · rw [harea] at h
    have hmigrated := (migrateLegacyState_meets hfresh (hjournal (by rw [harea]; rfl)) harea
      (validate_resolveStored P value now) value.sourceVersion now).result
    rw [show (migrateLegacyState _ _ now).run (exec P) w = (.ok loaded, s) from h] at hmigrated
    exact (hmigrated loaded rfl).1

/-- The identity metadata of an index, where it has any, is that of the vault's
identity. -/
def IdentityFits (vault : Vault P) (state : SecureExtensionLocalState) : Prop :=
  ∀ metadata, state.identity = some metadata →
    vault.identity.any (identityMetadataMatches metadata) = true

/-- The stored index is the one that was loaded.  Whether it loads again is up
to the vault's identity. -/
structure HasOpened (s : World P) (loaded : LoadedSecureExtensionState) : Prop where
  area : s.area = .current loaded.persistent
  valid : ValidIndex loaded.persistent
  opened : Opened s.vault loaded.persistent loaded
  fresh : s.Fresh

theorem HasLoaded.hasOpened {s : World P} {loaded : LoadedSecureExtensionState}
    (h : HasLoaded s loaded) : HasOpened s loaded :=
  ⟨h.area, h.readable.valid, h.readable.opened, h.fresh⟩

theorem HasOpened.hasLoaded {s : World P} {loaded : LoadedSecureExtensionState}
    (h : HasOpened s loaded) (hidentity : IdentityFits s.vault loaded.persistent) :
    HasLoaded s loaded :=
  ⟨h.area, ⟨h.valid, hidentity, h.opened⟩, h.fresh⟩

theorem HasOpened.receipts {s : World P} {loaded : LoadedSecureExtensionState}
    (h : HasOpened s loaded) : loaded.working.receiptIndex = loaded.bundles.receipts :=
  h.opened.receipts h.valid.receiptIds

/-- **What any load leaves**: a load of a version 4 index does not look at the
vault's identity, and so leaves an index without one. -/
theorem hasOpened_of_load {w s : World P} (hfresh : w.Fresh)
    (hjournal : w.area.encrypted = false → JournalSound w.vault) {ensure : Option Bool}
    {now : Timestamp} {loaded : LoadedSecureExtensionState}
    (h : (loadSecureExtensionState ensure now).run (exec P) w = (.ok loaded, s)) :
    HasOpened s loaded ∧ (IdentityKnown w ↔ IdentityFits s.vault loaded.persistent) := by
  by_cases hknown : IdentityKnown w
  · have hs := hasLoaded_of_load hfresh hjournal hknown h
    exact ⟨hs.hasOpened, iff_of_true hknown hs.readable.identity⟩
  have hunknown := hknown
  unfold IdentityKnown at hunknown
  push Not at hunknown
  obtain ⟨legacy, metadata, harea, hmetadata, hmismatch⟩ := hunknown
  obtain ⟨stored, w', hstored, h⟩ := Prog.run_bind_eq_ok h
  cases hstored
  rw [harea] at h
  dsimp only at h
  split at h
  · cases h
  obtain ⟨state, w₁, hwrite, h⟩ := Prog.run_bind_eq_ok h
  obtain ⟨hvalid, rfl, rfl⟩ := writePersistentState_ok hwrite
  obtain ⟨hopened, rfl⟩ := openIndex_ok h
  have hindex := hopened.index
  refine ⟨⟨congrArg _ hindex.symm, hindex ▸ hvalid, hindex ▸ hopened, hfresh⟩, ?_⟩
  refine iff_of_false hknown fun hfits => hmismatch (hfits metadata ?_)
  rw [hindex]
  exact hmetadata

/-- **A store without the identity of its index does not load.** -/
theorem load_fails_identity {w : World P} {state : SecureExtensionLocalState}
    (harea : w.area = .current state) (hidentity : ¬ IdentityFits w.vault state)
    (ensure : Option Bool) (now : Timestamp) (loaded : LoadedSecureExtensionState) (s : World P) :
    (loadSecureExtensionState ensure now).run (exec P) w ≠ (.ok loaded, s) := by
  intro h
  have hknown : IdentityKnown w := by
    intro legacy metadata hlegacy
    rw [harea] at hlegacy
    cases hlegacy
  obtain ⟨state', loaded', hstate, hreadable, -⟩ := holds_of_load h (by rw [harea]; rfl) hknown now
  rw [harea] at hstate
  cases hstate
  exact hidentity hreadable.identity

/-- Every load succeeds, and returns this content. -/
def LoadsContent (content : StoredContent) (w : World P) : Prop :=
  ∀ ensure now, ∃ loaded s, (loadSecureExtensionState ensure now).run (exec P) w =
    (.ok loaded, s) ∧ loaded.content = content

theorem HasLoaded.loads {s : World P} {loaded : LoadedSecureExtensionState}
    (h : HasLoaded s loaded) :
    LoadsContent loaded.content s := by
  intro ensure now
  obtain ⟨reloaded, hok, hloads⟩ := (h.holds.load h.fresh ensure now).result
  exact ⟨reloaded, _, Prod.ext hok rfl, hloads.content⟩

/-! ### Up to the commit -/

/-- The part of an import that follows the checks on its bundle. -/
def admitBundle (loaded : LoadedSecureExtensionState) (bundle : PrivateReceiptBundle)
    (replaceDuplicate : Bool) (now : Timestamp) :
    StorageProg P (PrivateReceiptBundle × LoadedSecureExtensionState) :=
  let existing := loaded.persistent.entry bundle.receipt.receiptId
  if existing.isSome ∧ replaceDuplicate = false then
    Prog.throw (.duplicateReceipt bundle.receipt.receiptId)
  else do
    let key ← generateReceiptKey P bundle.receipt.receiptId now
    let envelope ← encryptBundle bundle key
    perform (.putReceiptArtifacts key envelope)
    let newEntry := indexFromArtifacts bundle envelope.authenticatedMetadata.blobId key.keyId
    let receiptIndex := newEntry :: loaded.persistent.receiptIndex.filter fun entry =>
      entry.receiptId ≠ newEntry.receiptId
    if receiptIndex.length > MAX_LOCAL_RECEIPTS then do
      perform (.deleteBlob newEntry.blobId)
      perform (.deleteKey newEntry.keyId)
      fail "SubmittedIt local encrypted receipt storage is full."
    else do
      let written ← (writePersistentState { loaded.persistent with
        anchorOperations := loaded.persistent.anchorOperations.filter fun operation =>
          operation.receiptId ≠ newEntry.receiptId
        receiptIndex
        updatedAt := now } : StorageProg P SecureExtensionLocalState).attempt
      match written with
      | .error e => do
        rollback [⟨newEntry.blobId, newEntry.keyId, true⟩]
        Prog.throw e
      | .ok persistent => finishImport existing persistent bundle

theorem storeImported_eq (bundleInput : Option PrivateReceiptBundle) (replaceDuplicate : Bool)
    (now : Timestamp) :
    storeImportedReceiptBundle bundleInput replaceDuplicate now = (do
      let loaded ← loadSecureExtensionState (some true) now
      let identity ← (perform .getIdentity : StorageProg P (Option InstallationIdentityRecord))
      let bundle ← Prog.ofExcept
        (importedPrivateReceiptBundle P bundleInput (identity.map (·.publicKey)))
      admitBundle loaded bundle replaceDuplicate now) := by
  unfold storeImportedReceiptBundle admitBundle finishImport openIndex deleteExisting
  simp only [Prog.bind_assoc']
  congr 1
  funext loaded
  congr 1
  funext identity
  congr 1
  funext bundle
  split
  · rfl
  · congr 1
    funext key
    congr 1
    funext envelope
    congr 1
    funext u
    split
    · rfl
    · congr 1
      funext written
      cases written with
      | error e => rfl
      | ok persistent =>
        cases loaded.persistent.entry bundle.receipt.receiptId with
        | none => rfl
        | some existing => simp only [Prog.bind_assoc']

/-- The index of an import has room for its receipt, and the bundle fits its
envelope. -/
structure Admitted (s : World P) (loaded : LoadedSecureExtensionState) (replaceDuplicate : Bool)
    (bundle : PrivateReceiptBundle) : Prop where
  wanted : loaded.persistent.entry bundle.operational.receiptId = none ∨ replaceDuplicate = true
  fits : FitsEnvelope P bundle s.draws (s.draws + 1)
  room : (loaded.persistent.receiptIndex.filter fun entry =>
    entry.receiptId ≠ bundle.operational.receiptId).length < MAX_LOCAL_RECEIPTS
  identity : loaded.persistent.identity.isSome

/-- Nothing that persists has changed. -/
structure SameStore (s t : World P) : Prop where
  area : t.area = s.area
  vault : t.vault = s.vault
  draws : s.draws ≤ t.draws

theorem HasLoaded.sameStore {s t : World P} {loaded : LoadedSecureExtensionState}
    (h : HasLoaded s loaded) (hsame : SameStore s t) : HasLoaded t loaded := by
  refine ⟨hsame.area.trans h.area, ?_, fun id hid => ?_⟩
  · rw [hsame.vault]
    exact h.readable
  · rw [hsame.vault]
    exact h.fresh id (hsame.draws.trans hid)

/-- The entry of an imported bundle. -/
def importedEntry (s : World P) (bundle : PrivateReceiptBundle) : EncryptedReceiptIndexEntry :=
  indexFromArtifacts bundle (s.draws + 1) s.draws

theorem importedEntry_valid (s : World P) {bundle : PrivateReceiptBundle}
    (hverified : Verified P bundle) (hattempted : bundle.operational.currentStage = .attempted)
    (hkeyId : 16 ≤ bundle.receipt.extensionPublicKey.keyId.length) :
    parseIndexEntry (importedEntry s bundle) = true := by
  have hvalid := validReceipt_of_parse hverified.operational
  have hnone := hvalid.attempted hattempted
  have hevidence := (hvalid.unconfirmed hnone).2.1
  have horigin : inspectNormalizedOrigin bundle.operational.origin = true := by
    have hbase := hvalid.base
    unfold parseAttemptBase at hbase
    simp only [Bool.and_eq_true] at hbase
    exact hbase.1.1
  unfold parseIndexEntry importedEntry indexFromArtifacts
  simp [hnone, hevidence, hattempted, horigin, hkeyId]

/-- The index that an import commits is valid. -/
theorem importedIndex_valid {s : World P} {loaded : LoadedSecureExtensionState}
    (hs : HasOpened s loaded) {bundle : PrivateReceiptBundle} (hverified : Verified P bundle)
    (hattempted : bundle.operational.currentStage = .attempted) {replaceDuplicate : Bool}
    (hadmitted : Admitted s loaded replaceDuplicate bundle) (now : Timestamp) :
    ValidIndex (importedIndex loaded.persistent (importedEntry s bundle) now) := by
  have hvalid := hs.valid
  have hsub := List.filter_sublist (l := loaded.persistent.receiptIndex)
    (p := fun entry => entry.receiptId ≠ bundle.operational.receiptId)
  have hlt : ∀ entry ∈ loaded.persistent.receiptIndex, entry.keyId < s.draws ∧
      entry.blobId < s.draws := by
    intro entry hentry
    obtain ⟨_, -, hopens⟩ := hs.opened.bundles.exists_bundle hentry
    exact hopens.lt_draws hs.fresh
  refine ⟨?_, hadmitted.room, hvalid.settings, hvalid.enabledOrigins, hvalid.migration, ?_, ?_, ?_,
    ?_, .inr hadmitted.identity, ?_, ?_⟩
  · exact (List.length_filter_le ..).trans hvalid.operationsRoom
  · intro entry hentry
    rcases List.mem_cons.mp hentry with rfl | hentry
    · exact importedEntry_valid s hverified hattempted hadmitted.fits.keyId
    · exact hvalid.entries entry (hsub.subset hentry)
  · refine List.nodup_cons.mpr ⟨?_, hvalid.receiptIds.sublist (hsub.map _)⟩
    intro hmem
    obtain ⟨entry, hentry, hid⟩ := List.mem_map.mp hmem
    exact of_decide_eq_true (List.mem_filter.mp hentry).2 hid
  · refine List.nodup_cons.mpr ⟨?_, hvalid.blobIds.sublist (hsub.map _)⟩
    intro hmem
    obtain ⟨entry, hentry, hid⟩ := List.mem_map.mp hmem
    have hdrawn := (hlt entry (hsub.subset hentry)).2
    rw [show entry.blobId = s.draws + 1 from hid] at hdrawn
    exact absurd hdrawn (Nat.not_lt.mpr (Nat.le_succ _))
  · refine List.nodup_cons.mpr ⟨?_, hvalid.keyIds.sublist (hsub.map _)⟩
    intro hmem
    obtain ⟨entry, hentry, hid⟩ := List.mem_map.mp hmem
    have hdrawn := (hlt entry (hsub.subset hentry)).1
    rw [show entry.keyId = s.draws from hid] at hdrawn
    exact absurd hdrawn (Nat.lt_irrefl _)
  · intro operation hoperation
    obtain ⟨hmem, hother⟩ := List.mem_filter.mp hoperation
    obtain ⟨hparse, hreceipt⟩ := hvalid.operations operation hmem
    refine ⟨hparse, List.mem_cons_of_mem _ ?_⟩
    obtain ⟨entry, hentry, hid⟩ := List.mem_map.mp hreceipt
    refine List.mem_map.mpr ⟨entry, List.mem_filter.mpr ⟨hentry, ?_⟩, hid⟩
    rw [hid]
    exact hother
  · exact hvalid.eventHashes.sublist (List.filter_sublist.map _)

/-- The store when an import has committed its index, before it deletes what
that replaces. -/
def importCommit (s : World P) (loaded : LoadedSecureExtensionState)
    (bundle : PrivateReceiptBundle) (now : Timestamp) : World P where
  area := .current (importedIndex loaded.persistent (importedEntry s bundle) now)
  vault := s.vault.put ⟨now, s.draws, s.draws, bundle.operational.receiptId⟩
    (sealBundle P bundle s.draws (s.draws + 1))
  draws := s.draws + 2

/-- New artifacts that are deleted again leave the vault as it was. -/
theorem withdrawn_vault {s : World P} (hfresh : s.Fresh) (bundle : PrivateReceiptBundle)
    (key : ReceiptKeyRecord) (hkey : key.keyId = s.draws) :
    ({ s.vault.put key (sealBundle P bundle key.key (s.draws + 1)) with
      keys := Function.update (s.vault.put key (sealBundle P bundle key.key (s.draws + 1))).keys
        s.draws none
      blobs := Function.update (s.vault.put key (sealBundle P bundle key.key (s.draws + 1))).blobs
        (s.draws + 1) none } : Vault P) = s.vault := by
  obtain ⟨hkeys, -⟩ := hfresh s.draws le_rfl
  obtain ⟨-, hblobs⟩ := hfresh (s.draws + 1) (Nat.le_succ _)
  have hkeysSame : Function.update (s.vault.put key
      (sealBundle P bundle key.key (s.draws + 1))).keys s.draws none = s.vault.keys := by
    show Function.update (Function.update s.vault.keys key.keyId _) s.draws none = _
    rw [hkey, Function.update_idem, ← hkeys, Function.update_eq_self]
  have hblobsSame : Function.update (s.vault.put key
      (sealBundle P bundle key.key (s.draws + 1))).blobs (s.draws + 1) none = s.vault.blobs := by
    show Function.update (Function.update s.vault.blobs (s.draws + 1) _) (s.draws + 1) none = _
    rw [Function.update_idem, ← hblobs, Function.update_eq_self]
  rw [hkeysSame, hblobsSame]
  rfl

/-- **Up to the commit**: an import that is not admitted leaves what persists,
one that is admitted commits its index. -/
theorem admitBundle_run {s : World P} {loaded : LoadedSecureExtensionState}
    (hs : HasOpened s loaded) {bundle : PrivateReceiptBundle} (hverified : Verified P bundle)
    (hattempted : bundle.operational.currentStage = .attempted) (replaceDuplicate : Bool)
    (now : Timestamp) :
    (Admitted s loaded replaceDuplicate bundle ∧
        (admitBundle loaded bundle replaceDuplicate now).run (exec P) s =
          (finishImport (loaded.persistent.entry bundle.operational.receiptId)
            (importedIndex loaded.persistent (importedEntry s bundle) now) bundle).run (exec P)
              (importCommit s loaded bundle now)) ∨
      ¬ Admitted s loaded replaceDuplicate bundle ∧ ∃ e t,
        (admitBundle loaded bundle replaceDuplicate now).run (exec P) s = (.error e, t) ∧
          SameStore s t := by
  have hid := hverified.receiptId
  unfold admitBundle
  rw [hid]
  dsimp only
  split
  · next hduplicate =>
    refine .inr ⟨fun hadmitted => ?_, _, s, rfl, rfl, rfl, le_rfl⟩
    rcases hadmitted.wanted with hnone | hreplace
    · rw [hnone] at hduplicate
      cases hduplicate.1
    · rw [hreplace] at hduplicate
      cases hduplicate.2
  next hwanted =>
  have hwanted : loaded.persistent.entry bundle.operational.receiptId = none ∨
      replaceDuplicate = true := by
    rcases hfound : loaded.persistent.entry bundle.operational.receiptId with - | entry
    · exact .inl rfl
    · rw [hfound] at hwanted
      exact .inr (by simpa using hwanted)
  rw [Prog.run_bind_ok (show (generateReceiptKey P bundle.operational.receiptId now).run (exec P)
    s = (.ok ⟨now, s.draws, s.draws, bundle.operational.receiptId⟩,
      { s with draws := s.draws + 1 }) from rfl)]
  rcases hencrypt : encryptPrivateReceiptBundle P bundle s.draws (s.draws + 1) with e | envelope
  · -- the bundle does not fit an envelope
    rw [Prog.run_bind_error (show (encryptBundle bundle
      ⟨now, s.draws, s.draws, bundle.operational.receiptId⟩).run (exec P)
        { s with draws := s.draws + 1 } = (.error e, { s with draws := s.draws + 2 })
      from Prod.ext hencrypt rfl)]
    refine .inr ⟨fun hadmitted => ?_, e, _, rfl, rfl, rfl, Nat.le_add_right _ _⟩
    rw [encrypt_eq_ok.mpr ⟨hverified, hadmitted.fits, rfl⟩] at hencrypt
    cases hencrypt
  obtain ⟨-, hfits, rfl⟩ := encrypt_eq_ok.mp hencrypt
  rw [Prog.run_bind_ok (show (encryptBundle bundle
    ⟨now, s.draws, s.draws, bundle.operational.receiptId⟩).run (exec P)
      { s with draws := s.draws + 1 } = (.ok _, { s with draws := s.draws + 2 })
    from Prod.ext hencrypt rfl),
    Prog.run_bind_ok (show (perform (.putReceiptArtifacts
      ⟨now, s.draws, s.draws, bundle.operational.receiptId⟩
      (sealBundle P bundle s.draws (s.draws + 1))) : StorageProg P Unit).run (exec P)
        { s with draws := s.draws + 2 } = _ from exec_put hfits hid.symm)]
  have hwithdrawn := withdrawn_vault hs.fresh bundle
    ⟨now, s.draws, s.draws, bundle.operational.receiptId⟩ rfl
  split
  · -- no room
    next hfull =>
    refine .inr ⟨fun hadmitted => ?_, _, _, rfl, rfl, hwithdrawn, Nat.le_add_right _ _⟩
    exact absurd hadmitted.room (Nat.not_lt.mpr (Nat.lt_succ_iff.mp hfull))
  next hroom =>
  by_cases hidentity : loaded.persistent.identity.isSome = true
  · have hadmitted : Admitted s loaded replaceDuplicate bundle :=
      ⟨hwanted, hfits, Nat.lt_of_succ_le (Nat.not_lt.mp hroom), hidentity⟩
    have hvalid := importedIndex_valid hs hverified hattempted hadmitted now
    have hcommit : (writePersistentState (importedIndex loaded.persistent (importedEntry s bundle)
        now)).attempt.run (exec P) { importCommit s loaded bundle now with area := s.area } =
          (.ok (.ok (importedIndex loaded.persistent (importedEntry s bundle) now)),
            importCommit s loaded bundle now) := by
      rw [Prog.run_attempt, writePersistentState_run hvalid]
      rfl
    exact .inl ⟨hadmitted, Prog.run_bind_ok hcommit⟩
  · -- an index without an identity has no receipts
    have hinvalid : validateSecureExtensionState (importedIndex loaded.persistent
        (importedEntry s bundle) now) = false := by
      rw [← Bool.not_eq_true, validateSecure_eq_true]
      intro hvalid
      exact hvalid.identity.elim (List.cons_ne_nil _ _) hidentity
    have hcommit : (writePersistentState (importedIndex loaded.persistent (importedEntry s bundle)
        now)).attempt.run (exec P) { importCommit s loaded bundle now with area := s.area } =
          (.ok (.error (.failure "SubmittedIt refused to store an invalid encrypted local index.")),
            { importCommit s loaded bundle now with area := s.area }) := by
      rw [Prog.run_attempt, writePersistentState, if_pos hinvalid]
      rfl
    refine .inr ⟨fun hadmitted => hidentity hadmitted.identity, _, _, Prog.run_bind_ok hcommit, ?_⟩
    exact ⟨rfl, hwithdrawn, Nat.le_add_right _ _⟩

/-! ### After the commit -/

/-- The receipts of the store that an import of the bundle does not replace. -/
def otherReceipts (loaded : LoadedSecureExtensionState) (bundle : PrivateReceiptBundle) :
    List StoredAttemptReceipt :=
  loaded.working.receiptIndex.filter fun receipt =>
    receipt.receiptId ≠ bundle.operational.receiptId

/-- The bundles that an import leaves. -/
def importedBundles (loaded : LoadedSecureExtensionState) (bundle : PrivateReceiptBundle) :
    Bundles :=
  (bundle.operational.receiptId, bundle) ::
    loaded.bundles.filter fun named => named.1 ≠ bundle.operational.receiptId

section commit

variable {s : World P} {loaded : LoadedSecureExtensionState} {bundle : PrivateReceiptBundle}
  {replaceDuplicate : Bool}

/-- No stored receipt that stays has the attempt or an event of the bundle. -/
def Apart (loaded : LoadedSecureExtensionState) (bundle : PrivateReceiptBundle) : Prop :=
  ∀ receipt ∈ otherReceipts loaded bundle, Unrelated bundle.operational receipt

/-- What was loaded is valid. -/
theorem Opened.index_valid {vault : Vault P} {state : SecureExtensionLocalState}
    (h : Opened vault state loaded) :
    (∀ receipt ∈ loaded.working.receiptIndex, parseStoredAttemptReceipt P receipt = true) ∧
      loaded.working.receiptIndex.Pairwise Unrelated := by
  have hworking := h.working
  unfold workingFromPersistent at hworking
  simp only [bind_eq_ok, revertIf_eq_ok, exists_const, Bool.not_eq_false] at hworking
  obtain ⟨receipts, -, hvalid, hsame⟩ := hworking
  obtain ⟨-, -, hindex, -⟩ := validateExtensionState_eq_true.mp hvalid
  rw [← Except.ok.inj hsame]
  exact (parseReceiptIndex_eq_true.mp hindex).2

/-- **What the committed index decrypts to** is a valid state where the bundle
is apart from the receipts that stay, and only there. -/
theorem workingFromPersistent_imported (hs : HasOpened s loaded) (hverified : Verified P bundle)
    {now : Timestamp} {vault : Vault P}
    (hopens : OpensAll vault (importedIndex loaded.persistent (importedEntry s bundle)
      now).receiptIndex (importedBundles loaded bundle))
    (hvalid : ValidIndex (importedIndex loaded.persistent (importedEntry s bundle) now)) :
    (∃ working, workingFromPersistent P (importedIndex loaded.persistent (importedEntry s bundle)
      now) (importedBundles loaded bundle) = .ok working) ↔ Apart loaded bundle := by
  have hreceipts : (importedBundles loaded bundle).receipts =
      bundle.operational :: otherReceipts loaded bundle := by
    show bundle.operational :: Bundles.receipts _ = _
    rw [Bundles.receipts_filter hs.opened.bundles, otherReceipts, hs.receipts]
  have hoperational : operationalReceipts (importedBundles loaded bundle)
      (importedIndex loaded.persistent (importedEntry s bundle) now).receiptIndex =
        .ok (bundle.operational :: otherReceipts loaded bundle) := by
    rw [← hreceipts]
    exact hopens.operationalReceipts fun entry hentry => hopens.get hvalid.receiptIds hentry
  unfold workingFromPersistent
  simp only [bind_eq_ok, revertIf_eq_ok, exists_const, Bool.not_eq_false, hoperational,
    Except.ok.injEq, exists_eq_left']
  constructor
  · rintro ⟨working, hvalidated, -⟩
    obtain ⟨-, -, hindex, -⟩ := validateExtensionState_eq_true.mp hvalidated
    exact (List.pairwise_cons.mp (parseReceiptIndex_eq_true.mp hindex).2.2).1
  · intro hapart
    obtain ⟨hparsed, hpairwise⟩ := hs.opened.index_valid
    have hsub : (otherReceipts loaded bundle).Sublist loaded.working.receiptIndex :=
      List.filter_sublist
    refine ⟨_, validateExtensionState_eq_true.mpr ⟨hvalid.settings, hvalid.enabledOrigins,
      parseReceiptIndex_eq_true.mpr ⟨?_, ?_, ?_⟩, hvalid.migration⟩, rfl⟩
    · rw [← hreceipts, Bundles.receipts, List.length_map, ← hopens.length_eq]
      exact hvalid.room
    · intro receipt hreceipt
      rcases List.mem_cons.mp hreceipt with rfl | hreceipt
      · exact hverified.operational
      · exact hparsed receipt (hsub.subset hreceipt)
    · exact List.pairwise_cons.mpr ⟨hapart, hpairwise.sublist hsub⟩

/-- The index that is committed, once what it replaces is deleted. -/
structure Committing (s : World P) (loaded : LoadedSecureExtensionState)
    (bundle : PrivateReceiptBundle) (now : Timestamp) (t : World P) : Prop where
  area : t.area = .current (importedIndex loaded.persistent (importedEntry s bundle) now)
  valid : ValidIndex (importedIndex loaded.persistent (importedEntry s bundle) now)
  opens : OpensAll t.vault (importedIndex loaded.persistent (importedEntry s bundle)
    now).receiptIndex (importedBundles loaded bundle)
  identity : t.vault.identity = s.vault.identity
  fresh : t.Fresh

theorem deleteExisting_committing (hs : HasOpened s loaded) (hverified : Verified P bundle)
    (hattempted : bundle.operational.currentStage = .attempted)
    (hadmitted : Admitted s loaded replaceDuplicate bundle) (now : Timestamp) :
    ∃ t, (deleteExisting (loaded.persistent.entry bundle.operational.receiptId) :
        StorageProg P Unit).run (exec P) (importCommit s loaded bundle now) = (.ok (), t) ∧
      Committing s loaded bundle now t := by
  obtain ⟨vault, hrun, hreplaces⟩ := deleteExisting_run
    (loaded.persistent.entry bundle.operational.receiptId) (importCommit s loaded bundle now)
  have hcommitted : Replaces (loaded.persistent.entry bundle.operational.receiptId)
      (s.vault.put ⟨now, s.draws, s.draws, bundle.operational.receiptId⟩
        (sealBundle P bundle s.draws (s.draws + 1))) vault := hreplaces
  obtain ⟨hopens, hfresh⟩ := hs.opened.import hs.valid hs.fresh hverified rfl rfl hadmitted.fits
    hcommitted
  exact ⟨_, hrun, rfl, importedIndex_valid hs hverified hattempted hadmitted now, hopens,
    hreplaces.identity, hfresh _⟩

theorem HasOpened.importedOperations (hs : HasOpened s loaded) (now : Timestamp) :
    ∀ operation ∈ (importedIndex loaded.persistent (importedEntry s bundle) now).anchorOperations,
      operationMatches ((importedBundles loaded bundle).get operation.receiptId) operation =
        true := by
  intro operation hoperation
  obtain ⟨hmem, hother⟩ := List.mem_filter.mp hoperation
  have hne : operation.receiptId ≠ bundle.operational.receiptId := of_decide_eq_true hother
  rw [importedBundles, Bundles.get_cons, if_neg hne.symm, Bundles.get_filter hne]
  exact hs.opened.operations operation hmem

/-- **The committed index opens** where the bundle is apart. -/
theorem finishImport_opens (hs : HasOpened s loaded) (hverified : Verified P bundle)
    (hattempted : bundle.operational.currentStage = .attempted)
    (hadmitted : Admitted s loaded replaceDuplicate bundle) (hapart : Apart loaded bundle)
    (now : Timestamp) :
    ∃ state t, (finishImport (loaded.persistent.entry bundle.operational.receiptId)
        (importedIndex loaded.persistent (importedEntry s bundle) now) bundle).run (exec P)
          (importCommit s loaded bundle now) = (.ok (bundle, state), t) ∧
      HasOpened t state ∧ state.bundles = importedBundles loaded bundle ∧
      state.persistent = importedIndex loaded.persistent (importedEntry s bundle) now ∧
      t.vault.identity = s.vault.identity := by
  obtain ⟨t, hdelete, ht⟩ := deleteExisting_committing hs hverified hattempted hadmitted now
  obtain ⟨working, hworking⟩ :=
    (workingFromPersistent_imported hs hverified ht.opens ht.valid).mpr hapart
  have hopened : Opened t.vault (importedIndex loaded.persistent (importedEntry s bundle) now)
      ⟨importedBundles loaded bundle, _, working⟩ :=
    ⟨rfl, ht.opens, hs.importedOperations now, hworking⟩
  refine ⟨⟨importedBundles loaded bundle, _, working⟩, t, ?_, ⟨ht.area, ht.valid, hopened,
    ht.fresh⟩, rfl, rfl, ht.identity⟩
  unfold finishImport
  rw [Prog.run_bind_ok hdelete, Prog.run_bind_ok (openIndex_run_eq hopened), hverified.verify]
  rfl

/-- **The committed index does not open** where it is not, then or later. -/
theorem finishImport_clashes (hs : HasOpened s loaded) (hverified : Verified P bundle)
    (hattempted : bundle.operational.currentStage = .attempted)
    (hadmitted : Admitted s loaded replaceDuplicate bundle) (hclash : ¬ Apart loaded bundle)
    (now : Timestamp) :
    ∃ e t, (finishImport (loaded.persistent.entry bundle.operational.receiptId)
        (importedIndex loaded.persistent (importedEntry s bundle) now) bundle).run (exec P)
          (importCommit s loaded bundle now) = (.error e, t) ∧ t.area ≠ s.area ∧
      t.area = .current (importedIndex loaded.persistent (importedEntry s bundle) now) ∧
      t.vault.identity = s.vault.identity ∧
      ∀ ensure later reloaded u,
        (loadSecureExtensionState ensure later).run (exec P) t ≠ (.ok reloaded, u) := by
  obtain ⟨t, hdelete, ht⟩ := deleteExisting_committing hs hverified hattempted hadmitted now
  have hclosed : ∀ state, ¬ Opened t.vault
      (importedIndex loaded.persistent (importedEntry s bundle) now) state := by
    intro state hopened
    have hworking := hopened.working
    rw [ht.opens.unique hopened.bundles] at hworking
    exact hclash ((workingFromPersistent_imported hs hverified ht.opens ht.valid).mp ⟨_, hworking⟩)
  obtain ⟨e, hopen⟩ : ∃ e, (openIndex (importedIndex loaded.persistent (importedEntry s bundle)
      now)).run (exec P) t = (.error e, t) := by
    have hstays := (openIndex_readsOnly (P := P) (importedIndex loaded.persistent
      (importedEntry s bundle) now)).run t
    rcases hrun : (openIndex (importedIndex loaded.persistent (importedEntry s bundle) now)).run
      (exec P) t with ⟨e | state, u⟩
    · rw [hrun] at hstays
      exact ⟨e, by rw [show u = t from hstays]⟩
    · exact absurd (openIndex_run.mp (by rw [hrun])) (hclosed state)
  refine ⟨e, t, ?_, ?_, ht.area, ht.identity, ?_⟩
  · unfold finishImport
    rw [Prog.run_bind_ok hdelete, Prog.run_bind_error hopen]
  · -- the new entry was not there before
    rw [ht.area, hs.area]
    intro hsame
    have hmem : importedEntry s bundle ∈ loaded.persistent.receiptIndex := by
      rw [← StoredValue.current.inj hsame]
      exact List.mem_cons_self
    obtain ⟨_, -, hopens⟩ := hs.opened.bundles.exists_bundle hmem
    exact Nat.lt_irrefl _ (hopens.lt_draws hs.fresh).1
  · intro ensure later reloaded u hload
    have hknown : IdentityKnown t := by
      intro legacy metadata hlegacy
      rw [ht.area] at hlegacy
      cases hlegacy
    obtain ⟨state, found, hstate, hreadable, -⟩ :=
      holds_of_load hload (by rw [ht.area]; rfl) hknown later
    rw [ht.area] at hstate
    cases hstate
    exact hclosed found hreadable.opened

end commit

/-! ### Imports -/

/-- An import of a store that was loaded as `loaded` is atomic: refused, it
leaves the index, the keys and the blobs, and accepted, an index that loads. -/
structure ImportAtomic (s : World P) (loaded : LoadedSecureExtensionState)
    (result : Except StorageError (PrivateReceiptBundle × LoadedSecureExtensionState) × World P) :
    Prop where
  refused : ∀ e, result.1 = .error e →
    result.2.area = s.area ∧ result.2.vault = s.vault ∧ LoadsContent loaded.content result.2
  accepted : ∀ bundle state, result.1 = .ok (bundle, state) → LoadsContent state.content result.2

/-- The bundle would be imported, and has the attempt or an event of a receipt
that stays. -/
def Clashes (s : World P) (loaded : LoadedSecureExtensionState)
    (bundleInput : Option PrivateReceiptBundle) (replaceDuplicate : Bool) : Prop :=
  ∃ given, bundleInput = some given ∧ Verified P given ∧
    (∀ event ∈ given.receipt.events, event.chainAnchor = none) ∧
    given.operational.currentStage = .attempted ∧
    Admitted s loaded replaceDuplicate
      (importOf given (s.vault.identity.map (·.publicKey))) ∧ ¬ Apart loaded given

/-- An import rewrites no identifier and no event. -/
theorem apart_importOf (loaded : LoadedSecureExtensionState) (given : PrivateReceiptBundle)
    (currentPublicKey : Option PublicKeyDescriptor) :
    Apart loaded (importOf given currentPublicKey) ↔ Apart loaded given :=
  forall₂_congr fun _ _ => ⟨fun h => ⟨h.1, h.2, h.3⟩, fun h => ⟨h.1, h.2, h.3⟩⟩

theorem clashes_of_imported {s : World P} {loaded : LoadedSecureExtensionState}
    {bundleInput : Option PrivateReceiptBundle} {bundle : PrivateReceiptBundle}
    (h : importedPrivateReceiptBundle P bundleInput (s.vault.identity.map (·.publicKey)) =
      .ok bundle) (replaceDuplicate : Bool) :
    Clashes s loaded bundleInput replaceDuplicate ↔
      Admitted s loaded replaceDuplicate bundle ∧ ¬ Apart loaded bundle := by
  obtain ⟨given, rfl, hgiven, hanchors, hattempted, rfl⟩ := imported_eq_ok.mp h
  rw [apart_importOf]
  constructor
  · rintro ⟨_, ⟨⟩, -, -, -, hclash⟩
    exact hclash
  · intro hclash
    exact ⟨given, rfl, hgiven, hanchors, hattempted, hclash⟩

theorem SameStore.refused {s t : World P} {loaded : LoadedSecureExtensionState}
    (hs : HasLoaded s loaded) (hsame : SameStore s t) {e : StorageError} :
    ImportAtomic s loaded (.error e, t) where
  refused _ _ := ⟨hsame.area, hsame.vault, (hs.sameStore hsame).loads⟩
  accepted bundle state h := by cases h

/-- An import after its load. -/
theorem storeImported_run {w s : World P} {now : Timestamp} {loaded : LoadedSecureExtensionState}
    (hload : (loadSecureExtensionState (some true) now).run (exec P) w = (.ok loaded, s))
    (bundleInput : Option PrivateReceiptBundle) (replaceDuplicate : Bool) :
    (∀ e, importedPrivateReceiptBundle P bundleInput (s.vault.identity.map (·.publicKey)) =
      .error e → (storeImportedReceiptBundle bundleInput replaceDuplicate now).run (exec P) w =
        (.error e, s)) ∧
    ∀ bundle, importedPrivateReceiptBundle P bundleInput (s.vault.identity.map (·.publicKey)) =
      .ok bundle → (storeImportedReceiptBundle bundleInput replaceDuplicate now).run (exec P) w =
        (admitBundle loaded bundle replaceDuplicate now).run (exec P) s := by
  have hidentity : (perform .getIdentity : StorageProg P (Option InstallationIdentityRecord)).run
      (exec P) s = (.ok s.vault.identity, s) := rfl
  constructor
  · intro e himport
    rw [storeImported_eq, Prog.run_bind_ok hload, Prog.run_bind_ok hidentity, himport]
    rfl
  · intro bundle himport
    rw [storeImported_eq, Prog.run_bind_ok hload, Prog.run_bind_ok hidentity, himport]
    rfl

/-- **An import leaves the identity of the index and of the vault.** -/
theorem import_identity {w s : World P} {now : Timestamp} {loaded : LoadedSecureExtensionState}
    (hload : (loadSecureExtensionState (some true) now).run (exec P) w = (.ok loaded, s))
    (hs : HasOpened s loaded) (bundleInput : Option PrivateReceiptBundle)
    (replaceDuplicate : Bool) :
    ∃ r t state, (storeImportedReceiptBundle bundleInput replaceDuplicate now).run (exec P) w =
        (r, t) ∧ t.area = .current state ∧ state.identity = loaded.persistent.identity ∧
      t.vault.identity = s.vault.identity := by
  obtain ⟨herror, hok⟩ := storeImported_run hload bundleInput replaceDuplicate
  rcases himport : importedPrivateReceiptBundle P bundleInput
    (s.vault.identity.map (·.publicKey)) with e | bundle
  · exact ⟨_, s, _, herror e himport, hs.area, rfl, rfl⟩
  obtain ⟨hverified, hattempted⟩ := imported_attempted himport
  rcases admitBundle_run hs hverified hattempted replaceDuplicate now with
    ⟨hadmitted, hrun⟩ | ⟨-, e, t, hrun, hsame⟩
  · by_cases hapart : Apart loaded bundle
    · obtain ⟨state, t, hfinish, ht, -, hindex, hidentity⟩ :=
        finishImport_opens hs hverified hattempted hadmitted hapart now
      exact ⟨_, t, _, (hok bundle himport).trans (hrun.trans hfinish), ht.area,
        congrArg (·.identity) hindex, hidentity⟩
    · obtain ⟨e, t, hfinish, -, harea, hidentity, -⟩ :=
        finishImport_clashes hs hverified hattempted hadmitted hapart now
      exact ⟨_, t, _, (hok bundle himport).trans (hrun.trans hfinish), harea, rfl, hidentity⟩
  · refine ⟨_, t, _, (hok bundle himport).trans hrun, hsame.area.trans hs.area, rfl, ?_⟩
    rw [hsame.vault]

/-- **When an import is atomic**: unless the vault has lost the identity of a
version 4 index, or the import commits a bundle that clashes with a receipt of
the store. -/
theorem storeImportedReceiptBundle_atomic_iff {w s : World P} (hfresh : w.Fresh)
    (hjournal : w.area.encrypted = false → JournalSound w.vault) {now : Timestamp}
    {loaded : LoadedSecureExtensionState}
    (hload : (loadSecureExtensionState (some true) now).run (exec P) w = (.ok loaded, s))
    (bundleInput : Option PrivateReceiptBundle) (replaceDuplicate : Bool) :
    ImportAtomic s loaded
        ((storeImportedReceiptBundle bundleInput replaceDuplicate now).run (exec P) w) ↔
      IdentityKnown w ∧ ¬ Clashes s loaded bundleInput replaceDuplicate := by
  obtain ⟨hs, hfits⟩ := hasOpened_of_load hfresh hjournal hload
  by_cases hknown : IdentityKnown w
  swap
  · -- whatever the import does, its store does not load
    refine iff_of_false ?_ fun h => hknown h.1
    obtain ⟨r, t, state, hrun, harea, hindex, hidentity⟩ :=
      import_identity hload hs bundleInput replaceDuplicate
    rw [hrun]
    have hlost : ¬ IdentityFits t.vault state := by
      unfold IdentityFits
      rw [hindex, hidentity]
      exact fun h => hknown (hfits.mpr h)
    have hcloses : ∀ content, ¬ LoadsContent content t := by
      intro content hloads
      obtain ⟨reloaded, u, hreload, -⟩ := hloads none now
      exact load_fails_identity harea hlost none now reloaded u hreload
    rintro ⟨hrefused, haccepted⟩
    rcases r with e | ⟨bundle, imported⟩
    · exact hcloses _ (hrefused e rfl).2.2
    · exact hcloses _ (haccepted bundle imported rfl)
  have hl := hs.hasLoaded (hfits.mp hknown)
  rw [and_iff_right hknown]
  obtain ⟨herror, hok⟩ := storeImported_run hload bundleInput replaceDuplicate
  rcases himport : importedPrivateReceiptBundle P bundleInput
    (s.vault.identity.map (·.publicKey)) with e | bundle
  · rw [herror e himport]
    refine iff_of_true (SameStore.refused hl ⟨rfl, rfl, le_rfl⟩) ?_
    rintro ⟨given, hinput, hgiven, hanchors, hattempted, -⟩
    rw [imported_eq_ok.mpr ⟨given, hinput, hgiven, hanchors, hattempted, rfl⟩] at himport
    cases himport
  rw [hok bundle himport, clashes_of_imported himport]
  obtain ⟨hverified, hattempted⟩ := imported_attempted himport
  rcases admitBundle_run hs hverified hattempted replaceDuplicate now with
    ⟨hadmitted, hrun⟩ | ⟨hrefused, e, t, hrun, hsame⟩
  · rw [hrun]
    by_cases hapart : Apart loaded bundle
    · obtain ⟨state, t, hfinish, ht, -, hindex, hidentity⟩ :=
        finishImport_opens hs hverified hattempted hadmitted hapart now
      have hstate : IdentityFits t.vault state.persistent := by
        unfold IdentityFits
        rw [hindex, hidentity]
        exact hfits.mp hknown
      rw [hfinish]
      refine iff_of_true ⟨(fun e h => by cases h), ?_⟩ fun hclash => hclash.2 hapart
      rintro _ _ ⟨⟩
      exact (ht.hasLoaded hstate).loads
    · obtain ⟨e, t, hfinish, hchanged, -⟩ :=
        finishImport_clashes hs hverified hattempted hadmitted hapart now
      rw [hfinish]
      exact iff_of_false (fun hatomic => hchanged (hatomic.refused e rfl).1)
        (not_not.mpr ⟨hadmitted, hapart⟩)
  · rw [hrun]
    exact iff_of_true (SameStore.refused hl hsame) fun hclash => hrefused hclash.1

/-- A receipt that is not among those loaded has no entry. -/
theorem HasOpened.entry_none {s : World P} {loaded : LoadedSecureExtensionState}
    (hs : HasOpened s loaded) {receiptId : ReceiptId}
    (hunknown : ∀ receipt ∈ loaded.working.receiptIndex, receipt.receiptId ≠ receiptId) :
    loaded.persistent.entry receiptId = none := by
  rcases hfound : loaded.persistent.entry receiptId with - | entry
  · rfl
  · obtain ⟨hmem, hid⟩ := entry_eq_some hfound
    obtain ⟨bundle, hbundle, hopens⟩ := hs.opened.bundles.exists_bundle hmem
    refine absurd (hopens.receiptId.trans hid) (hunknown bundle.operational ?_)
    rw [hs.receipts]
    exact List.mem_map.mpr ⟨_, hbundle, rfl⟩

/-- **Which exported bundles can be imported**: those of receipts that are only
attempted, where they fit an envelope and no stored receipt has an event hash of
theirs. -/
theorem storeImportedReceiptBundle_complete_iff {w s : World P} (hfresh : w.Fresh)
    (hjournal : w.area.encrypted = false → JournalSound w.vault) {now : Timestamp}
    {loaded : LoadedSecureExtensionState}
    (hload : (loadSecureExtensionState (some true) now).run (exec P) w = (.ok loaded, s))
    {given : PrivateReceiptBundle} (hgiven : Verified P given)
    (hanchors : ∀ event ∈ given.receipt.events, event.chainAnchor = none)
    (hroom : loaded.working.receiptIndex.length < MAX_LOCAL_RECEIPTS)
    (hunknown : ∀ receipt ∈ loaded.working.receiptIndex,
      receipt.receiptId ≠ given.operational.receiptId ∧
        receipt.attemptId ≠ given.operational.attemptId)
    (replaceDuplicate : Bool) :
    (∃ bundle state t, (storeImportedReceiptBundle (some given) replaceDuplicate now).run (exec P)
        w = (.ok (bundle, state), t) ∧ bundle.receipt = given.receipt ∧
        state.bundles.get given.operational.receiptId = some bundle) ↔
      given.operational.currentStage = .attempted ∧
        (∀ receipt ∈ loaded.working.receiptIndex, ∀ hash ∈ receipt.eventHashes,
          hash ∉ given.operational.eventHashes) ∧
        FitsEnvelope P (importOf given (s.vault.identity.map (·.publicKey))) s.draws
          (s.draws + 1) ∧ loaded.persistent.identity.isSome := by
  obtain ⟨hs, -⟩ := hasOpened_of_load hfresh hjournal hload
  have hothers : otherReceipts loaded given = loaded.working.receiptIndex :=
    List.filter_eq_self.mpr fun receipt hreceipt => decide_eq_true (hunknown receipt hreceipt).1
  obtain ⟨herror, hok⟩ := storeImported_run hload (some given) replaceDuplicate
  constructor
  · rintro ⟨bundle, state, t, hrun, -, -⟩
    rcases himport : importedPrivateReceiptBundle P (some given)
      (s.vault.identity.map (·.publicKey)) with e | imported
    · rw [herror e himport] at hrun
      cases hrun
    obtain ⟨hverified, hattempted⟩ := imported_attempted himport
    obtain ⟨_, ⟨⟩, -, -, -, rfl⟩ := imported_eq_ok.mp himport
    rw [hok _ himport] at hrun
    rcases admitBundle_run hs hverified hattempted replaceDuplicate now with
      ⟨hadmitted, hcommit⟩ | ⟨-, e, u, hrefused, -⟩
    · refine ⟨hattempted, ?_, hadmitted.fits, hadmitted.identity⟩
      by_contra hcommon
      have hclash : ¬ Apart loaded (importOf given (s.vault.identity.map (·.publicKey))) := by
        rw [apart_importOf]
        intro hapart
        apply hcommon
        intro receipt hreceipt
        exact (hapart receipt (by rw [hothers]; exact hreceipt)).events
      obtain ⟨e, u, hrefused, -⟩ :=
        finishImport_clashes hs hverified hattempted hadmitted hclash now
      rw [hcommit, hrefused] at hrun
      cases hrun
    · rw [hrefused] at hrun
      cases hrun
  · rintro ⟨hattempted, hevents, hfits, hidentity⟩
    have hverified := (verified_importOf hgiven (s.vault.identity.map (·.publicKey))).mpr hattempted
    have himport : importedPrivateReceiptBundle P (some given)
        (s.vault.identity.map (·.publicKey)) =
          .ok (importOf given (s.vault.identity.map (·.publicKey))) :=
      imported_eq_ok.mpr ⟨given, rfl, hgiven, hanchors, hattempted, rfl⟩
    have hadmitted : Admitted s loaded replaceDuplicate
        (importOf given (s.vault.identity.map (·.publicKey))) := by
      refine ⟨.inl (hs.entry_none fun receipt hreceipt => (hunknown receipt hreceipt).1), hfits, ?_,
        hidentity⟩
      refine (List.length_filter_le ..).trans_lt ?_
      rw [hs.opened.bundles.length_eq]
      rw [hs.receipts, Bundles.receipts, List.length_map] at hroom
      exact hroom
    have hapart : Apart loaded (importOf given (s.vault.identity.map (·.publicKey))) := by
      rw [apart_importOf]
      intro receipt hreceipt
      rw [hothers] at hreceipt
      obtain ⟨hreceiptId, hattemptId⟩ := hunknown receipt hreceipt
      exact ⟨hattemptId.symm, hreceiptId.symm, hevents receipt hreceipt⟩
    obtain ⟨state, t, hfinish, -, hbundles, -⟩ :=
      finishImport_opens hs hverified hattempted hadmitted hapart now
    rcases admitBundle_run hs hverified hattempted replaceDuplicate now with
      ⟨-, hrun⟩ | ⟨hrefused, -⟩
    · refine ⟨_, state, t, (hok _ himport).trans (hrun.trans hfinish), rfl, ?_⟩
      rw [hbundles, importedBundles, Bundles.get_cons]
      exact if_pos rfl
    · exact absurd hadmitted hrefused

/-! ### Bundles of other installations -/

/-- The bundle of a receipt, as another installation exports it. -/
def exportedBundle (receipt : StoredAttemptReceipt) : Except StorageError PrivateReceiptBundle :=
  createOrUpdatePrivateReceiptBundle samplePlatform receipt (samplePlatform.generateIdentity 0 3)
    none 0 9

theorem sampleWorld_known {receiptIds : List ReceiptId}
    (h : ((saveSecureExtensionState (sampleWorking receiptIds) 10).run (exec samplePlatform)
      installedWorld).1.toBool = true) : IdentityKnown (sampleWorld receiptIds) := by
  obtain ⟨content, hholds⟩ := installedWorld_holds
  obtain ⟨target, htarget⟩ := exists_ok h
  obtain ⟨_, _, _, _, _, _, _, hc⟩ := save_ok hholds installedWorld_fresh
    (t := sampleWorld receiptIds) (Prod.ext htarget rfl)
  intro legacy metadata harea
  rw [hc.pruned.area] at harea
  cases harea

theorem sampleWorld_journal : JournalSound (sampleWorld [7]).vault := by
  intro journal hjournal
  have hnone : (sampleWorld [7]).vault.journal.isNone = true := by decide +kernel
  rw [hjournal] at hnone
  cases hnone

/-- A receipt that the store does not hold is imported. -/
theorem storeImportedReceiptBundle_complete_sample : ∃ given loaded s bundle state t,
    exportedBundle (sampleReceipt 8) = .ok given ∧
      (loadSecureExtensionState (some true) 20).run (exec samplePlatform) (sampleWorld [7]) =
        (.ok loaded, s) ∧
      (storeImportedReceiptBundle (some given) false 20).run (exec samplePlatform)
        (sampleWorld [7]) = (.ok (bundle, state), t) ∧ bundle.receipt = given.receipt ∧
      state.bundles.get given.operational.receiptId = some bundle := by
  obtain ⟨given, hgiven⟩ := exists_ok (x := exportedBundle (sampleReceipt 8)) (by decide +kernel)
  obtain ⟨loaded, hloaded⟩ := exists_ok (x := ((loadSecureExtensionState (some true) 20).run
    (exec samplePlatform) (sampleWorld [7])).1) (by decide +kernel)
  obtain ⟨hverified, hoperational⟩ := createOrUpdate_ok hgiven
  have hevents : ((exportedBundle (sampleReceipt 8)).toOption.any fun given =>
      given.receipt.events.all (·.chainAnchor = none) &&
        16 ≤ given.receipt.extensionPublicKey.keyId.length) = true := by decide +kernel
  have hstore : (((loadSecureExtensionState (some true) 20).run (exec samplePlatform)
      (sampleWorld [7])).1.toOption.any fun loaded =>
        loaded.working.receiptIndex = [sampleReceipt 7] &&
          loaded.persistent.identity.isSome) = true := by decide +kernel
  rw [hgiven] at hevents
  rw [hloaded] at hstore
  simp only [Except.toOption, Option.any_some, Bool.and_eq_true, List.all_eq_true,
    decide_eq_true_eq] at hevents hstore
  have hsaved : ((saveSecureExtensionState (sampleWorking [7]) 10).run (exec samplePlatform)
      installedWorld).1.toBool = true := by decide +kernel
  have hdisjoint : ∀ receipt ∈ loaded.working.receiptIndex, ∀ hash ∈ receipt.eventHashes,
      hash ∉ given.operational.eventHashes := by
    rw [hstore.1, hoperational]
    intro receipt hreceipt
    obtain rfl := List.mem_singleton.mp hreceipt
    exact (show Unrelated (sampleReceipt 8) (sampleReceipt 7) by decide +kernel).events
  obtain ⟨bundle, state, t, hrun⟩ := (storeImportedReceiptBundle_complete_iff
    (sampleWorld_fresh hsaved) (fun _ => sampleWorld_journal) (Prod.ext hloaded rfl) hverified
    hevents.1 (by rw [hstore.1]; decide)
    (by rw [hstore.1, hoperational]; decide) false).mpr
    ⟨by rw [hoperational]; rfl, hdisjoint, ⟨hevents.2, show 16 ≤ 1024 by decide,
      show 1024 ≤ MAX_EXPORT_PACKAGE_BYTES by decide⟩, hstore.2⟩
  exact ⟨given, loaded, _, bundle, state, t, hgiven, Prod.ext hloaded rfl, hrun⟩

def confirmedCore (receiptId : ReceiptId) : LifecycleEventCore where
  occurredAt := 7
  previousEventHash := samplePlatform.keccak (.event (sampleCore receiptId))
  receiptId
  schemaVersion := CURRENT_SCHEMA_VERSION
  body := .siteConfirmed ⟨.inlineMessage, some (ascii "Thank you"), samplePage, none⟩

/-- The receipt of an attempt that the site has confirmed. -/
def confirmedReceipt (receiptId : ReceiptId) : StoredAttemptReceipt :=
  { sampleReceipt receiptId with
    currentStage := .siteConfirmed
    siteConfirmationEvent := some {
      authoritySignature := none
      chainAnchor := none
      core := confirmedCore receiptId
      eventHash := samplePlatform.keccak (.event (confirmedCore receiptId))
      extensionSignature := none
      authority_stage := Bool.noConfusion }
    siteConfirmationEvidence := some
      ⟨ascii "Thank you", 1, false, samplePage.origin, .normalized (ascii "Done"), samplePage, 0, 7⟩
    confirmationContext := some {
      status := .completed
      tabId := 1
      attemptEventHash := (sampleReceipt receiptId).event.eventHash
      documentInstanceId := 0
      startedAt := 5
      expiresAt := 9
      originalOrigin := samplePage.origin
      originalPageUrl := samplePage
      currentOrigin := samplePage.origin
      currentPageUrl := samplePage
      sequence := 1
      observations := [⟨1, 0, 0, .history, 6, samplePage.origin, samplePage⟩] } }

/-- **A confirmed receipt is not imported**, also not into an empty store. -/
theorem confirmed_import_refused : ∃ given loaded s,
    exportedBundle (confirmedReceipt 8) = .ok given ∧ Verified samplePlatform given ∧
      (∀ event ∈ given.receipt.events, event.chainAnchor = none) ∧
      (loadSecureExtensionState (some true) 20).run (exec samplePlatform) installedWorld =
        (.ok loaded, s) ∧ loaded.working.receiptIndex = [] ∧
      ∀ replaceDuplicate, ∃ e, (storeImportedReceiptBundle (some given) replaceDuplicate 20).run
        (exec samplePlatform) installedWorld = (.error e, s) := by
  obtain ⟨given, hgiven⟩ := exists_ok (x := exportedBundle (confirmedReceipt 8))
    (by decide +kernel)
  obtain ⟨loaded, hloaded⟩ := exists_ok (x := ((loadSecureExtensionState (some true) 20).run
    (exec samplePlatform) installedWorld).1) (by decide +kernel)
  obtain ⟨hverified, hoperational⟩ := createOrUpdate_ok hgiven
  have hevents : ((exportedBundle (confirmedReceipt 8)).toOption.any fun given =>
      given.receipt.events.all (·.chainAnchor = none)) = true := by decide +kernel
  have hstore : (((loadSecureExtensionState (some true) 20).run (exec samplePlatform)
      installedWorld).1.toOption.any fun loaded => loaded.working.receiptIndex = []) = true := by
    decide +kernel
  rw [hgiven] at hevents
  rw [hloaded] at hstore
  simp only [Except.toOption, Option.any_some, List.all_eq_true, decide_eq_true_eq]
    at hevents hstore
  refine ⟨given, loaded, _, hgiven, hverified, hevents, Prod.ext hloaded rfl, hstore, ?_⟩
  intro replaceDuplicate
  -- what the import makes of the bundle is not verified
  rcases himport : importedPrivateReceiptBundle samplePlatform (some given)
    (((loadSecureExtensionState (some true) 20).run (exec samplePlatform)
      installedWorld).2.vault.identity.map (·.publicKey)) with e | bundle
  · exact ⟨e, (storeImported_run (Prod.ext hloaded rfl) (some given) replaceDuplicate).1 e himport⟩
  · obtain ⟨_, ⟨⟩, -, -, hattempted, -⟩ := imported_eq_ok.mp himport
    rw [hoperational] at hattempted
    cases hattempted

/-- A receipt of another form with the attempt of a stored one. -/
def collidingReceipt : StoredAttemptReceipt :=
  { sampleReceipt 8 with attemptId := (sampleReceipt 7).attemptId }

/-- An import into the store with one receipt. -/
def sampleImport (receipt : StoredAttemptReceipt) :
    Except StorageError (PrivateReceiptBundle × LoadedSecureExtensionState) ×
      World samplePlatform :=
  (storeImportedReceiptBundle (exportedBundle receipt).toOption false 20).run (exec samplePlatform)
    (sampleWorld [7])

/-- A receipt that the store does not hold is imported, and the store loads. -/
theorem storeImportedReceiptBundle_atomic_sample : ∃ loaded s,
    (loadSecureExtensionState (some true) 20).run (exec samplePlatform) (sampleWorld [7]) =
        (.ok loaded, s) ∧
      (sampleImport (sampleReceipt 8)).1.toBool = true ∧
      ImportAtomic s loaded (sampleImport (sampleReceipt 8)) := by
  have hsaved : ((saveSecureExtensionState (sampleWorking [7]) 10).run (exec samplePlatform)
      installedWorld).1.toBool = true := by decide +kernel
  obtain ⟨loaded, hloaded⟩ := exists_ok (x := ((loadSecureExtensionState (some true) 20).run
    (exec samplePlatform) (sampleWorld [7])).1) (by decide +kernel)
  have hstore : (((loadSecureExtensionState (some true) 20).run (exec samplePlatform)
      (sampleWorld [7])).1.toOption.any fun loaded =>
        loaded.working.receiptIndex = [sampleReceipt 7]) = true := by decide +kernel
  rw [hloaded] at hstore
  simp only [Except.toOption, Option.any_some, decide_eq_true_eq] at hstore
  refine ⟨loaded, _, Prod.ext hloaded rfl, by decide +kernel,
    (storeImportedReceiptBundle_atomic_iff (sampleWorld_fresh hsaved)
      (fun _ => sampleWorld_journal) (Prod.ext hloaded rfl) _ false).mpr
        ⟨sampleWorld_known hsaved, ?_⟩⟩
  -- the two receipts have neither an attempt nor an event in common
  rintro ⟨given, hinput, -, -, -, -, hclash⟩
  obtain ⟨given, hgiven⟩ := exists_ok (x := exportedBundle (sampleReceipt 8)) (by decide +kernel)
  rw [hgiven] at hinput
  cases hinput
  apply hclash
  intro receipt hreceipt
  have hmem := (List.mem_filter.mp hreceipt).1
  rw [hstore] at hmem
  obtain rfl := List.mem_singleton.mp hmem
  rw [(createOrUpdate_ok hgiven).2]
  exact show Unrelated (sampleReceipt 8) (sampleReceipt 7) by decide +kernel

/-- **A refused import closes the store**: the index that names the colliding
receipt is committed, and no later load succeeds. -/
theorem colliding_import_closes_store : ∃ given loaded s e t,
    exportedBundle collidingReceipt = .ok given ∧ Verified samplePlatform given ∧
      (loadSecureExtensionState (some true) 20).run (exec samplePlatform) (sampleWorld [7]) =
        (.ok loaded, s) ∧
      (storeImportedReceiptBundle (some given) false 20).run (exec samplePlatform)
        (sampleWorld [7]) = (.error e, t) ∧ t.area ≠ s.area ∧
      ∀ ensure later reloaded u, (loadSecureExtensionState ensure later).run
        (exec samplePlatform) t ≠ (.ok reloaded, u) := by
  have hsaved : ((saveSecureExtensionState (sampleWorking [7]) 10).run (exec samplePlatform)
      installedWorld).1.toBool = true := by decide +kernel
  obtain ⟨given, hgiven⟩ := exists_ok (x := exportedBundle collidingReceipt) (by decide +kernel)
  obtain ⟨loaded, hloaded⟩ := exists_ok (x := ((loadSecureExtensionState (some true) 20).run
    (exec samplePlatform) (sampleWorld [7])).1) (by decide +kernel)
  obtain ⟨s, hload⟩ : ∃ s, (loadSecureExtensionState (some true) 20).run (exec samplePlatform)
      (sampleWorld [7]) = (.ok loaded, s) := ⟨_, Prod.ext hloaded rfl⟩
  obtain ⟨hs, -⟩ := hasOpened_of_load (sampleWorld_fresh hsaved) (fun _ => sampleWorld_journal)
    hload
  have hrefused : (sampleImport collidingReceipt).1.toBool = false := by decide +kernel
  have hnamed : (sampleImport collidingReceipt).2.area.entries.map (·.receiptId) = [8, 7] := by
    decide +kernel
  have hbefore : (((loadSecureExtensionState (some true) 20).run (exec samplePlatform)
      (sampleWorld [7])).2.area.entries.map (·.receiptId)) = [7] := by decide +kernel
  unfold sampleImport at hrefused hnamed
  rw [hgiven] at hrefused hnamed
  rw [hload] at hbefore
  obtain ⟨herror, hok⟩ := storeImported_run hload (some given) false
  -- the import got past its checks, or the index would be as before
  rcases himport : importedPrivateReceiptBundle samplePlatform (some given)
    (s.vault.identity.map (·.publicKey)) with e | bundle
  · rw [Except.toOption, herror e himport, hbefore] at hnamed
    cases hnamed
  rw [Except.toOption, hok bundle himport] at hnamed hrefused
  obtain ⟨hverified, hattempted⟩ := imported_attempted himport
  rcases admitBundle_run hs hverified hattempted false 20 with
    ⟨hadmitted, hrun⟩ | ⟨-, e, t, hrun, hsame⟩
  · by_cases hapart : Apart loaded bundle
    · obtain ⟨state, t, hfinish, -⟩ :=
        finishImport_opens hs hverified hattempted hadmitted hapart 20
      rw [hrun, hfinish] at hrefused
      cases hrefused
    · obtain ⟨e, t, hfinish, hchanged, -, -, hcloses⟩ :=
        finishImport_clashes hs hverified hattempted hadmitted hapart 20
      exact ⟨given, loaded, s, e, t, hgiven, (createOrUpdate_ok hgiven).1, hload,
        (hok bundle himport).trans (hrun.trans hfinish), hchanged, hcloses⟩
  · rw [hrun, hsame.area, hbefore] at hnamed
    cases hnamed

end SubmittedIt.Extension
