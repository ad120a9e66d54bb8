/-
SubmittedIt/StorageLoad.lean

Loading a stored index.

`Holds w content` says that the index stored in `w` can be loaded, and what it
says then; `Kept w s` that nothing `w` had in its vault is lost in `s`, and
that what was added has identifiers drawn since.  A load may upgrade the index
or add the installation's identity to it, and keeps the content throughout.

Main results: `Holds.load` (a load succeeds with the content and keeps it, at
each of its operations), `Holds.of_kept`, `holds_of_load` and `load_fails`.
-/
import SubmittedIt.StorageOpening

namespace SubmittedIt.Extension

open Transaction ReceiptCore

variable {P : StoragePlatform}

/-! ### Worlds -/

/-- No identifier still to be drawn is in use. -/
def World.Fresh (w : World P) : Prop :=
  ∀ id, w.draws ≤ id → w.vault.keys id = none ∧ w.vault.blobs id = none

/-- Nothing is lost, and what was added is fresh. -/
structure Kept (w s : World P) : Prop where
  identity : ∀ identity, w.vault.identity = some identity → s.vault.identity = some identity
  draws : w.draws ≤ s.draws
  keys : ∀ id < w.draws, s.vault.keys id = w.vault.keys id
  blobs : ∀ id < w.draws, s.vault.blobs id = w.vault.blobs id
  fresh : s.Fresh

theorem Kept.refl {w : World P} (h : w.Fresh) : Kept w w :=
  ⟨fun _ hi => hi, le_rfl, fun _ _ => rfl, fun _ _ => rfl, h⟩

theorem Kept.trans {w s t : World P} (h : Kept w s) (h' : Kept s t) : Kept w t :=
  ⟨fun i hi => h'.identity i (h.identity i hi), h.draws.trans h'.draws,
    fun id hid => (h'.keys id (hid.trans_le h.draws)).trans (h.keys id hid),
    fun id hid => (h'.blobs id (hid.trans_le h.draws)).trans (h.blobs id hid), h'.fresh⟩

theorem Kept.setArea {w s : World P} (h : Kept w s) (area : StoredValue) :
    Kept w { s with area } := ⟨h.identity, h.draws, h.keys, h.blobs, h.fresh⟩

theorem Kept.draw {w s : World P} (h : Kept w s) : Kept w { s with draws := s.draws + 1 } :=
  ⟨h.identity, h.draws.trans (Nat.le_succ _), h.keys, h.blobs,
    fun id hid => h.fresh id ((Nat.le_succ _).trans hid)⟩

theorem Kept.putIdentity {w s : World P} (h : Kept w s) (identity : InstallationIdentityRecord) :
    Kept w (exec P (.putIdentityIfAbsent identity) s).2 := by
  refine ⟨fun i hi => ?_, h.draws, h.keys, h.blobs, h.fresh⟩
  show some (s.vault.identity.getD identity) = some i
  rw [h.identity i hi, Option.getD_some]

/-- A key that is there was drawn before. -/
theorem World.Fresh.key_lt {w : World P} (h : w.Fresh) {id : OpaqueId} {key : ReceiptKeyRecord}
    (hkey : w.vault.keys id = some key) : id < w.draws := by
  by_contra hid
  rw [(h id (not_lt.mp hid)).1] at hkey
  cases hkey

theorem World.Fresh.blob_lt {w : World P} (h : w.Fresh) {id : OpaqueId} {blob : StoredBlob P}
    (hblob : w.vault.blobs id = some blob) : id < w.draws := by
  by_contra hid
  rw [(h id (not_lt.mp hid)).2] at hblob
  cases hblob

/-- The key and the blob of an entry that opens were drawn before. -/
theorem Opens.lt_draws {w : World P} (hfresh : w.Fresh) {entry : EncryptedReceiptIndexEntry}
    {bundle : PrivateReceiptBundle} (h : Opens w.vault entry bundle) :
    entry.keyId < w.draws ∧ entry.blobId < w.draws := by
  obtain ⟨⟨key, hkey, -⟩, blob, hblob, -⟩ := h.stored
  exact ⟨hfresh.key_lt hkey, hfresh.blob_lt hblob⟩

theorem Opens.kept {w s : World P} (hfresh : w.Fresh) (hkept : Kept w s)
    {entry : EncryptedReceiptIndexEntry} {bundle : PrivateReceiptBundle}
    (h : Opens w.vault entry bundle) : Opens s.vault entry bundle :=
  h.congr (hkept.keys _ (h.lt_draws hfresh).1) (hkept.blobs _ (h.lt_draws hfresh).2)

theorem Opened.kept {w s : World P} (hfresh : w.Fresh) (hkept : Kept w s)
    {persistent : SecureExtensionLocalState} {loaded : LoadedSecureExtensionState}
    (h : Opened w.vault persistent loaded) : Opened s.vault persistent loaded := by
  refine h.congr (fun entry hentry => ?_) fun entry hentry => ?_
  · obtain ⟨bundle, -, hopens⟩ := h.bundles.exists_bundle hentry
    exact hkept.keys _ (hopens.lt_draws hfresh).1
  · obtain ⟨bundle, -, hopens⟩ := h.bundles.exists_bundle hentry
    exact hkept.blobs _ (hopens.lt_draws hfresh).2

/-! ### Validation -/

/-- What validation checks of an index. -/
structure ValidIndex (value : SecureExtensionLocalState) : Prop where
  operationsRoom : value.anchorOperations.length ≤ MAX_ANCHOR_OPERATIONS
  room : value.receiptIndex.length ≤ MAX_LOCAL_RECEIPTS
  settings : parseSettings value.settings = true
  enabledOrigins : parseEnabledOrigins value.enabledOrigins = true
  migration : parseMigration value.migration = true
  entries : ∀ entry ∈ value.receiptIndex, parseIndexEntry entry = true
  receiptIds : (value.receiptIndex.map (·.receiptId)).Nodup
  blobIds : (value.receiptIndex.map (·.blobId)).Nodup
  keyIds : (value.receiptIndex.map (·.keyId)).Nodup
  identity : value.receiptIndex = [] ∨ value.identity.isSome
  operations : ∀ operation ∈ value.anchorOperations, parseAnchorOperation operation = true ∧
    operation.receiptId ∈ value.receiptIndex.map (·.receiptId)
  eventHashes : (value.anchorOperations.map (·.eventHash)).Nodup

theorem validateSecure_eq_true {value : SecureExtensionLocalState} :
    validateSecureExtensionState value = true ↔ ValidIndex value := by
  unfold validateSecureExtensionState
  simp only [Bool.and_eq_true, Bool.or_eq_true, decide_eq_true_eq, List.all_eq_true]
  constructor
  · rintro ⟨⟨⟨⟨⟨⟨⟨⟨⟨⟨⟨h1, h2⟩, h3⟩, h4⟩, h5⟩, h6⟩, h7⟩, h8⟩, h9⟩, h10⟩, h11⟩, h12⟩
    exact ⟨h1, h2, h3, h4, h5, h6, h7, h8, h9, h10, h11, h12⟩
  · rintro ⟨h1, h2, h3, h4, h5, h6, h7, h8, h9, h10, h11, h12⟩
    exact ⟨⟨⟨⟨⟨⟨⟨⟨⟨⟨⟨h1, h2⟩, h3⟩, h4⟩, h5⟩, h6⟩, h7⟩, h8⟩, h9⟩, h10⟩, h11⟩, h12⟩

/-- An index is as valid with an identity, whenever it was last written. -/
theorem ValidIndex.provide {state : SecureExtensionLocalState} (h : ValidIndex state)
    (identity : SecureIdentityMetadata) (now : Timestamp) :
    ValidIndex { state with identity := some identity, updatedAt := now } :=
  ⟨h.operationsRoom, h.room, h.settings, h.enabledOrigins, h.migration, h.entries, h.receiptIds,
    h.blobIds, h.keyIds, .inr rfl, h.operations, h.eventHashes⟩

/-- An index without an identity has no receipts. -/
theorem ValidIndex.no_receipts {state : SecureExtensionLocalState} (h : ValidIndex state)
    (hidentity : state.identity = none) : state.receiptIndex = [] :=
  h.identity.resolve_right (by rw [hidentity]; exact Bool.noConfusion)

/-! ### What an index says -/

/-- What an index says once decrypted, apart from its identity metadata and
the time of its last write, which a load may add and renew. -/
structure StoredContent where
  anchorOperations : List AnchorOperation
  bundles : Bundles
  enabledOrigins : List EnabledOriginMetadata
  hasSeenWelcome : Bool
  initializedAt : Timestamp
  migration : ExtensionMigrationMetadata
  receiptIndex : List EncryptedReceiptIndexEntry
  settings : ExtensionSettings
  deriving DecidableEq

def LoadedSecureExtensionState.content (loaded : LoadedSecureExtensionState) : StoredContent where
  anchorOperations := loaded.persistent.anchorOperations
  bundles := loaded.bundles
  enabledOrigins := loaded.persistent.enabledOrigins
  hasSeenWelcome := loaded.persistent.hasSeenWelcome
  initializedAt := loaded.persistent.initializedAt
  migration := loaded.persistent.migration
  receiptIndex := loaded.persistent.receiptIndex
  settings := loaded.persistent.settings

/-- The index that a stored value is read as. -/
def StoredValue.index (now : Timestamp) : StoredValue → Option SecureExtensionLocalState
  | .current state => some state
  | .legacyEncrypted legacy => some (legacy.upgrade now)
  | .absent | .malformed _ | .plaintext _ => none

/-- A load accepts the index and returns `loaded`. -/
structure Readable (vault : Vault P) (state : SecureExtensionLocalState)
    (loaded : LoadedSecureExtensionState) : Prop where
  valid : ValidIndex state
  identity : ∀ metadata, state.identity = some metadata →
    vault.identity.any (identityMetadataMatches metadata) = true
  opened : Opened vault state loaded

theorem Readable.kept {w s : World P} (hfresh : w.Fresh) (hkept : Kept w s)
    {state : SecureExtensionLocalState} {loaded : LoadedSecureExtensionState}
    (h : Readable w.vault state loaded) : Readable s.vault state loaded := by
  refine ⟨h.valid, fun metadata hmetadata => ?_, h.opened.kept hfresh hkept⟩
  have hmatches := h.identity metadata hmetadata
  rcases hw : w.vault.identity with - | identity
  · rw [hw] at hmatches
    cases hmatches
  · rw [hkept.identity identity hw, ← hw]
    exact hmatches

/-- The stored index can be loaded, and says `content`. -/
def Holds (w : World P) (content : StoredContent) : Prop :=
  ∀ now, ∃ state loaded, w.area.index now = some state ∧ Readable w.vault state loaded ∧
    loaded.content = content

theorem Holds.of_kept {w s : World P} {content : StoredContent} (h : Holds w content)
    (hfresh : w.Fresh) (hkept : Kept w s) (harea : s.area = w.area) : Holds s content := by
  intro now
  obtain ⟨state, loaded, hstate, hreadable, hcontent⟩ := h now
  exact ⟨state, loaded, by rw [harea, hstate], hreadable.kept hfresh hkept, hcontent⟩

theorem Readable.holds {w : World P} {state : SecureExtensionLocalState}
    {loaded : LoadedSecureExtensionState} (h : Readable w.vault state loaded)
    (harea : w.area = .current state) : Holds w loaded.content :=
  fun _ => ⟨state, loaded, by rw [harea]; rfl, h, rfl⟩

/-! ### Writing an index -/

theorem writePersistentState_run {state : SecureExtensionLocalState} (h : ValidIndex state)
    (w : World P) :
    (writePersistentState state).run (exec P) w =
      (.ok state, { w with area := .current state }) := by
  rw [writePersistentState, if_neg (by rw [validateSecure_eq_true.mpr h]; exact Bool.noConfusion)]
  rfl

theorem writePersistentState_meets {β : Type} {state : SecureExtensionLocalState}
    (h : ValidIndex state) {w : World P} {I : World P → Prop}
    {f : SecureExtensionLocalState → StorageProg P β} {Q : Except StorageError β → World P → Prop}
    (hI : I { w with area := .current state })
    (hf : (f state).Meets (Prog.Runs (exec P)) I Q { w with area := .current state }) :
    (writePersistentState state >>= f).Meets (Prog.Runs (exec P)) I Q w := by
  rw [writePersistentState, if_neg (by rw [validateSecure_eq_true.mpr h]; exact Bool.noConfusion)]
  refine Prog.meets_bind.mpr (Prog.meets_perform_ok rfl hI ?_)
  exact hf

theorem writePersistentState_strict (state : SecureExtensionLocalState) :
    (writePersistentState state : StorageProg P SecureExtensionLocalState).Strict := by
  unfold writePersistentState
  split
  · exact Prog.strict_throw _
  · exact (Prog.strict_perform _).bind fun _ => Prog.strict_pure _

/-! ### The installation identity -/

theorem ensureIdentity_strict (metadata : Option SecureIdentityMetadata) (now : Timestamp) :
    (ensureIdentity metadata now : StorageProg P InstallationIdentityRecord).Strict := by
  refine (Prog.strict_perform _).bind fun existing => ?_
  rcases metadata with - | metadata
  · rcases existing with - | existing
    · exact (Prog.strict_perform _).bind fun _ => Prog.strict_perform _
    · exact Prog.strict_pure _
  · rcases existing with - | existing
    · exact Prog.strict_throw _
    · dsimp only
      split
      · exact Prog.strict_throw _
      · exact Prog.strict_pure _

/-- The identity of the installation: the one that matches the metadata, and
where there is no metadata the stored one or a new one. -/
theorem ensureIdentity_meets {w₀ w : World P} (hkept : Kept w₀ w)
    (metadata : Option SecureIdentityMetadata) (now : Timestamp) :
    (ensureIdentity metadata now : StorageProg P InstallationIdentityRecord).Meets
      (Prog.Runs (exec P)) (fun s => Kept w₀ s ∧ s.area = w.area)
      (fun r s =>
        (∀ identity, r = .ok identity → s.vault.identity = some identity ∧
          metadata.all (fun metadata => identityMetadataMatches metadata identity) = true) ∧
        (metadata.all (fun metadata => w.vault.identity.any (identityMetadataMatches metadata))
          = true → ∃ identity, r = .ok identity)) w := by
  refine Prog.meets_bind.mpr (Prog.meets_runs_perform.mpr ⟨⟨hkept, rfl⟩, ?_⟩)
  show Prog.Meets _ _ _ _ w
  rcases hidentity : w.vault.identity with - | identity
  · rcases metadata with - | metadata
    · refine Prog.meets_bind.mpr (Prog.meets_runs_perform.mpr ⟨⟨hkept.draw, rfl⟩, ?_⟩)
      refine Prog.meets_runs_perform.mpr ⟨⟨hkept.draw.putIdentity _, rfl⟩, ?_, fun _ => ⟨_, rfl⟩⟩
      rintro identity ⟨⟩
      exact ⟨rfl, rfl⟩
    · refine ⟨?_, ?_⟩
      · rintro identity ⟨⟩
      · rintro ⟨⟩
  · rcases metadata with - | metadata
    · refine ⟨?_, fun _ => ⟨identity, rfl⟩⟩
      rintro identity' ⟨⟩
      exact ⟨hidentity, rfl⟩
    · dsimp only
      split
      · rename_i hmismatch
        refine ⟨?_, fun h => ?_⟩
        · rintro identity' ⟨⟩
        · rw [Option.all_some, Option.any_some, hmismatch] at h
          cases h
      · rename_i hmatches
        refine ⟨?_, fun _ => ⟨identity, rfl⟩⟩
        rintro identity' ⟨⟩
        exact ⟨hidentity, by rw [Option.all_some]; exact Bool.not_eq_false _ ▸ hmatches⟩

/-! ### Loading -/

/-- Neither the identity metadata nor the time of the last write matters for
what the vault holds. -/
theorem Opened.provide {vault : Vault P} {state : SecureExtensionLocalState}
    {loaded : LoadedSecureExtensionState} (h : Opened vault state loaded)
    (identity : Option SecureIdentityMetadata) (now : Timestamp) :
    ∃ loaded', Opened vault { state with identity, updatedAt := now } loaded' ∧
      loaded'.content = loaded.content := by
  obtain ⟨rfl, hbundles, hoperations, hworking⟩ := h
  refine ⟨⟨loaded.bundles, { loaded.persistent with identity, updatedAt := now },
    { loaded.working with updatedAt := now }⟩, ⟨rfl, hbundles, hoperations, ?_⟩, rfl⟩
  unfold workingFromPersistent at hworking ⊢
  simp only [bind_eq_ok, revertIf_eq_ok, exists_const, Bool.not_eq_false] at hworking ⊢
  obtain ⟨receiptIndex, hreceipts, hvalid, hworking⟩ := hworking
  refine ⟨receiptIndex, hreceipts, ?_, ?_⟩
  · rw [validateExtensionState_eq_true] at hvalid ⊢
    exact hvalid
  · rw [← Except.ok.inj hworking]
    rfl

theorem openIndex_meets {w : World P} {I : World P → Prop} {state : SecureExtensionLocalState}
    {loaded : LoadedSecureExtensionState} (h : Opened w.vault state loaded) (hw : I w)
    {Q : Except StorageError LoadedSecureExtensionState → World P → Prop} (hQ : Q (.ok loaded) w) :
    (openIndex state : StorageProg P LoadedSecureExtensionState).Meets (Prog.Runs (exec P)) I Q
      w := by
  apply ((openIndex_readsOnly state).throughout hw).meets
  rw [openIndex_run_eq h]
  exact hQ

/-- What a load that succeeds leaves. -/
structure Loads (w : World P) (content : StoredContent) (loaded : LoadedSecureExtensionState)
    (s : World P) : Prop where
  area : s.area = .current loaded.persistent
  readable : Readable s.vault loaded.persistent loaded
  content : loaded.content = content
  kept : Kept w s

theorem Loads.holds {w s : World P} {content : StoredContent} {loaded : LoadedSecureExtensionState}
    (h : Loads w content loaded s) : Holds s content := h.content ▸ h.readable.holds h.area

/-- **Loading a stored index** succeeds and keeps its content at every
operation. -/
theorem Holds.load {w : World P} {content : StoredContent} (h : Holds w content)
    (hfresh : w.Fresh) (ensure : Option Bool) (now : Timestamp) :
    (loadSecureExtensionState ensure now).Meets (Prog.Runs (exec P))
      (fun s => Holds s content ∧ Kept w s)
      (fun r s => ∃ loaded, r = .ok loaded ∧ Loads w content loaded s) w := by
  have hrefl := Kept.refl hfresh
  refine Prog.meets_perform_ok rfl ⟨h, hrefl⟩ ?_
  obtain ⟨state, loaded, hstate, hreadable, hcontent⟩ := h now
  rcases harea : w.area with - | secure | legacy | bad | value
  · rw [harea] at hstate
    cases hstate
  · rw [harea] at hstate
    cases hstate
    dsimp only
    rw [if_neg (by rw [validateSecure_eq_true.mpr hreadable.valid]; exact Bool.noConfusion)]
    refine Prog.meets_perform_ok rfl ⟨h, hrefl⟩ ?_
    rcases hidentity : state.identity with - | metadata
    · have hempty := hreadable.valid.no_receipts hidentity
      dsimp only
      rw [if_neg (not_not.mpr hempty)]
      split
      · -- the identity is made and its metadata written
        refine Prog.meets_bind.mpr ?_
        refine ((ensureIdentity_meets hrefl none now).and_inv ⟨hrefl, rfl⟩).mono
          (fun _ _ _ _ hs => hs) (fun s hs => ⟨h.of_kept hfresh hs.1 hs.2, hs.1⟩) ?_
        rintro r s ⟨⟨hkept, hsame⟩, hok, hexists⟩
        obtain ⟨identity, rfl⟩ := hexists rfl
        obtain ⟨hstored, -⟩ := hok identity rfl
        obtain ⟨loaded', hopened, hcontent'⟩ := (hreadable.opened.kept hfresh hkept).provide
          (some (identityMetadata identity)) now
        have hvalid := hreadable.valid.provide (identityMetadata identity) now
        have hreadable' : Readable s.vault { state with
            identity := some (identityMetadata identity), updatedAt := now } loaded' := by
          refine ⟨hvalid, fun metadata hmetadata => ?_, hopened⟩
          cases hmetadata
          rw [hstored, Option.any_some]
          exact decide_eq_true rfl
        have hwritten : Holds { s with area := .current { state with
            identity := some (identityMetadata identity), updatedAt := now } } content :=
          fun _ => ⟨_, loaded', rfl, hreadable', hcontent'.trans hcontent⟩
        apply writePersistentState_meets hvalid ⟨hwritten, hkept.setArea _⟩
        apply openIndex_meets (w := { s with area := .current { state with
          identity := some (identityMetadata identity), updatedAt := now } }) hopened
          ⟨hwritten, hkept.setArea _⟩
        exact ⟨loaded', rfl, congrArg _ hopened.index.symm, hopened.index ▸ hreadable',
          hcontent'.trans hcontent, hkept.setArea _⟩
      · apply openIndex_meets hreadable.opened ⟨h, hrefl⟩
        refine ⟨loaded, rfl, ?_, hreadable.opened.index ▸ hreadable, hcontent, hrefl⟩
        rw [harea, hreadable.opened.index]
    · have hmatches := hreadable.identity metadata hidentity
      dsimp only
      rw [if_neg (by rw [hmatches]; exact Bool.noConfusion)]
      apply openIndex_meets hreadable.opened ⟨h, hrefl⟩
      refine ⟨loaded, rfl, ?_, hreadable.opened.index ▸ hreadable, hcontent, hrefl⟩
      rw [harea, hreadable.opened.index]
  · rw [harea] at hstate
    cases hstate
    have hwritten : Holds { w with area := .current (legacy.upgrade now) } content :=
      fun _ => ⟨_, loaded, rfl, hreadable, hcontent⟩
    dsimp only
    rw [if_neg (by rw [validateSecure_eq_true.mpr hreadable.valid]; exact Bool.noConfusion)]
    apply writePersistentState_meets hreadable.valid ⟨hwritten, hrefl.setArea _⟩
    apply openIndex_meets (w := { w with area := .current (legacy.upgrade now) }) hreadable.opened
      ⟨hwritten, hrefl.setArea _⟩
    exact ⟨loaded, rfl, congrArg _ hreadable.opened.index.symm,
      hreadable.opened.index ▸ hreadable, hcontent, hrefl.setArea _⟩
  · rw [harea] at hstate
    cases hstate
  · rw [harea] at hstate
    cases hstate

/-! ### A load that succeeds -/

theorem reuseArtifacts_strict (operational : StoredAttemptReceipt)
    (reusable : Option MigrationJournalEntry) :
    (reuseArtifacts operational reusable :
      StorageProg P (Option (PrivateReceiptBundle × OpaqueId × OpaqueId))).Strict := by
  unfold reuseArtifacts
  split
  · exact Prog.strict_pure _
  · refine (Prog.strict_perform _).bind fun key => (Prog.strict_perform _).bind fun envelope => ?_
    split
    · split
      · exact Prog.strict_pure _
      · split
        · exact Prog.strict_pure _
        · exact Prog.strict_pure _
    · exact Prog.strict_pure _

theorem encryptBundle_strict (bundle : PrivateReceiptBundle) (key : ReceiptKeyRecord) :
    (encryptBundle bundle key : StorageProg P (EncryptedReceiptEnvelope P)).Strict :=
  (Prog.strict_perform _).bind fun _ => Prog.strict_ofExcept _

theorem secureBundle_strict (operational : StoredAttemptReceipt)
    (identity : InstallationIdentityRecord) (existing : Option PrivateReceiptBundle) :
    (secureBundle operational identity existing : StorageProg P PrivateReceiptBundle).Strict :=
  (Prog.strict_perform _).bind fun _ => (Prog.strict_perform _).bind fun _ =>
    Prog.strict_ofExcept _

theorem generateReceiptKey_strict (receiptId : ReceiptId) (createdAt : Timestamp) :
    (generateReceiptKey P receiptId createdAt).Strict :=
  (Prog.strict_perform _).bind fun _ => Prog.strict_pure _

theorem migrateReceipt_strict (identity : InstallationIdentityRecord) (now : Timestamp)
    (operational : StoredAttemptReceipt) (reusable : Option MigrationJournalEntry) :
    (migrateReceipt identity now operational reusable :
      StorageProg P (PrivateReceiptBundle × OpaqueId × OpaqueId)).Strict := by
  refine (reuseArtifacts_strict _ _).bind fun reused => ?_
  rcases reused with - | reused
  · exact (secureBundle_strict _ _ _).bind fun _ => (generateReceiptKey_strict _ _).bind fun _ =>
      (encryptBundle_strict _ _).bind fun _ => (Prog.strict_perform _).bind fun _ =>
        Prog.strict_pure _
  · exact Prog.strict_pure _

theorem migrateReceipts_strict (identity : InstallationIdentityRecord) (sourceVersion : Nat)
    (now : Timestamp) (reusable entries : List MigrationJournalEntry)
    (receipts : List StoredAttemptReceipt) :
    (migrateReceipts identity sourceVersion now reusable entries receipts :
      StorageProg P (List EncryptedReceiptIndexEntry × Bundles)).Strict := by
  induction receipts generalizing entries with
  | nil => exact Prog.strict_pure _
  | cons receipt receipts ih =>
    exact (migrateReceipt_strict _ _ _ _).bind fun _ => (Prog.strict_perform _).bind fun _ =>
      (ih _).bind fun _ => Prog.strict_pure _

theorem loadCurrent_strict (secure : SecureExtensionLocalState) (ensure : Option Bool)
    (now : Timestamp) :
    (loadCurrent secure ensure now : StorageProg P LoadedSecureExtensionState).Strict := by
  refine (Prog.strict_perform _).bind fun identity => ?_
  split
  · split
    · exact Prog.strict_throw _
    · exact openIndex_strict _
  · split
    · exact Prog.strict_throw _
    · split
      · exact (ensureIdentity_strict _ _).bind fun _ =>
          (writePersistentState_strict _).bind fun _ => openIndex_strict _
      · exact openIndex_strict _

/-- **A load hands every failure on.** -/
theorem load_strict (ensure : Option Bool) (now : Timestamp) :
    (loadSecureExtensionState ensure now :
      StorageProg P LoadedSecureExtensionState).Strict := by
  have hfrom : ∀ persistent bundles,
      (loadedFrom persistent bundles : StorageProg P LoadedSecureExtensionState).Strict :=
    fun _ _ => (Prog.strict_ofExcept _).bind fun _ => Prog.strict_pure _
  refine (Prog.strict_perform _).bind fun stored => ?_
  rcases stored with - | secure | legacy | bad | value
  · dsimp only
    split
    · exact (writePersistentState_strict _).bind fun _ => hfrom _ _
    · exact (ensureIdentity_strict _ _).bind fun _ => (writePersistentState_strict _).bind
        fun _ => hfrom _ _
  · dsimp only
    split
    · exact Prog.strict_throw _
    · exact loadCurrent_strict secure ensure now
  · dsimp only
    split
    · exact Prog.strict_throw _
    · exact (writePersistentState_strict _).bind fun _ => openIndex_strict _
  · dsimp only
    split
    · exact Prog.strict_throw _
    · exact Prog.strict_throw _
  · refine (ensureIdentity_strict _ _).bind fun _ => (Prog.strict_perform _).bind fun _ =>
      (Prog.strict_perform _).bind fun _ => (migrateReceipts_strict _ _ _ _ _ _).bind fun _ =>
        (writePersistentState_strict _).bind fun _ => (Prog.strict_perform _).bind fun _ =>
          hfrom _ _

/-- The stored value is an encrypted index. -/
def StoredValue.encrypted : StoredValue → Bool
  | .current _ | .legacyEncrypted _ => true
  | .absent | .malformed _ | .plaintext _ => false

/-- The identity metadata of a version 4 index is that of the vault's
identity.  A load of such an index does not check it, the next load does. -/
def IdentityKnown (w : World P) : Prop :=
  ∀ legacy metadata, w.area = .legacyEncrypted legacy → legacy.identity = some metadata →
    w.vault.identity.any (identityMetadataMatches metadata) = true

theorem writePersistentState_ok {state state' : SecureExtensionLocalState} {w s : World P}
    (h : (writePersistentState state).run (exec P) w = (.ok state', s)) :
    ValidIndex state ∧ state' = state ∧ s = { w with area := .current state } := by
  unfold writePersistentState at h
  split at h
  · cases h
  · rename_i hvalid
    cases h
    exact ⟨validateSecure_eq_true.mp (Bool.not_eq_false _ ▸ hvalid), rfl, rfl⟩

theorem openIndex_ok {persistent : SecureExtensionLocalState} {w s : World P}
    {loaded : LoadedSecureExtensionState}
    (h : (openIndex persistent).run (exec P) w = (.ok loaded, s)) :
    Opened w.vault persistent loaded ∧ s = w :=
  ⟨openIndex_run.mp (by rw [h]), by rw [← (openIndex_readsOnly persistent).run w, h]⟩

theorem holds_of_loadCurrent {w s : World P} {state : SecureExtensionLocalState}
    {ensure : Option Bool} {now : Timestamp} {loaded : LoadedSecureExtensionState}
    (harea : w.area = .current state) (hvalid : ValidIndex state)
    (h : (loadCurrent state ensure now).run (exec P) w = (.ok loaded, s)) :
    Holds w loaded.content := by
  obtain ⟨stored, w', hstored, h⟩ := Prog.run_bind_eq_ok h
  cases hstored
  split at h
  · rename_i metadata hmetadata
    split at h
    · cases h
    · rename_i hmatches
      obtain ⟨hopened, -⟩ := openIndex_ok h
      refine (Readable.mk hvalid (fun metadata' hmetadata' => ?_) hopened).holds harea
      rw [hmetadata] at hmetadata'
      cases hmetadata'
      exact Bool.not_eq_false _ ▸ hmatches
  · rename_i hidentity
    split at h
    · cases h
    · split at h
      · obtain ⟨identity, w₁, hidentityRun, h⟩ := Prog.run_bind_eq_ok h
        obtain ⟨state', w₂, hwrite, h⟩ := Prog.run_bind_eq_ok h
        obtain ⟨-, rfl, rfl⟩ := writePersistentState_ok hwrite
        obtain ⟨hopened, -⟩ := openIndex_ok h
        -- without receipts nothing of the vault is read
        have hempty := hvalid.no_receipts hidentity
        have hopens : Opened w.vault { state with
            identity := some (identityMetadata identity), updatedAt := now } loaded :=
          hopened.congr (fun entry hentry => by rw [hempty] at hentry; cases hentry)
            fun entry hentry => by rw [hempty] at hentry; cases hentry
        obtain ⟨loaded', hopened', hcontent⟩ := hopens.provide none state.updatedAt
        have hstate : { state with identity := none, updatedAt := state.updatedAt } = state := by
          rw [← hidentity]
        rw [← hcontent]
        refine (Readable.mk hvalid (fun metadata hmetadata => ?_) (hstate ▸ hopened')).holds harea
        rw [hidentity] at hmetadata
        cases hmetadata
      · obtain ⟨hopened, -⟩ := openIndex_ok h
        refine (Readable.mk hvalid (fun metadata hmetadata => ?_) hopened).holds harea
        rw [hidentity] at hmetadata
        cases hmetadata

/-- **What can be loaded is stored**: the content of a load is the content of
the stored index. -/
theorem holds_of_load {w s : World P} {ensure : Option Bool} {now : Timestamp}
    {loaded : LoadedSecureExtensionState}
    (h : (loadSecureExtensionState ensure now).run (exec P) w = (.ok loaded, s))
    (hencrypted : w.area.encrypted = true) (hknown : IdentityKnown w) :
    Holds w loaded.content := by
  obtain ⟨stored, w', hstored, h⟩ := Prog.run_bind_eq_ok h
  cases hstored
  rcases harea : w.area with - | state | legacy | bad | value
  · rw [harea] at hencrypted
    cases hencrypted
  · rw [harea] at h
    dsimp only at h
    split at h
    · cases h
    · rename_i hvalid
      exact holds_of_loadCurrent harea (validateSecure_eq_true.mp (Bool.not_eq_false _ ▸ hvalid)) h
  · rw [harea] at h
    dsimp only at h
    split at h
    · cases h
    · obtain ⟨state, w₁, hwrite, h⟩ := Prog.run_bind_eq_ok h
      obtain ⟨hvalid, rfl, rfl⟩ := writePersistentState_ok hwrite
      obtain ⟨hopened, -⟩ := openIndex_ok h
      intro now'
      obtain ⟨loaded', hopened', hcontent⟩ := hopened.provide legacy.identity now'
      refine ⟨legacy.upgrade now', loaded', by rw [harea]; rfl, ⟨?_, ?_, hopened'⟩, hcontent⟩
      · exact ⟨hvalid.operationsRoom, hvalid.room, hvalid.settings, hvalid.enabledOrigins,
          hvalid.migration, hvalid.entries, hvalid.receiptIds, hvalid.blobIds, hvalid.keyIds,
          hvalid.identity, hvalid.operations, hvalid.eventHashes⟩
      · exact fun metadata hmetadata => hknown legacy metadata harea hmetadata
  · rw [harea] at hencrypted
    cases hencrypted
  · rw [harea] at hencrypted
    cases hencrypted

/-- A load fails where the index names a blob that is not there. -/
theorem load_fails {w : World P} {state : SecureExtensionLocalState}
    (harea : w.area = .current state) {entry : EncryptedReceiptIndexEntry}
    (hentry : entry ∈ state.receiptIndex) (hblob : w.vault.blobs entry.blobId = none)
    (ensure : Option Bool) (now : Timestamp) (loaded : LoadedSecureExtensionState) (s : World P) :
    (loadSecureExtensionState ensure now).run (exec P) w ≠ (.ok loaded, s) := by
  intro h
  have hknown : IdentityKnown w := by
    intro legacy metadata hlegacy
    rw [harea] at hlegacy
    cases hlegacy
  obtain ⟨state', loaded', hstate, hreadable, -⟩ := holds_of_load h (by rw [harea]; rfl) hknown now
  rw [harea] at hstate
  cases hstate
  obtain ⟨bundle, -, hopens⟩ := hreadable.opened.bundles.exists_bundle hentry
  obtain ⟨-, blob, hstored, -⟩ := hopens.stored
  rw [hblob] at hstored
  cases hstored

end SubmittedIt.Extension
