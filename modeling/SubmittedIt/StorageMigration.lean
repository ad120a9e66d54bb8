/-
SubmittedIt/StorageMigration.lean

The migration of a plaintext state, interrupted any number of times.

A migration writes keys, blobs and a journal that names them, then the index,
then deletes the journal.  Until the index is written the plaintext value
stays, and what the journal names stays too (`Migrating`), so an attempt that
finds a journal may take its artifacts over: the key is that of the receipt
(`JournalSound`), and the decrypted bundle is compared with it.  The index is
written once every receipt has its artifacts, so what is stored is always the
plaintext value or an index that loads with its receipts (`Migratable`).

Main results: `migrateReceipts_meets` (the loop), `migrateLegacyState_meets`
and `migration_crash_safe`.
-/
import SubmittedIt.StorageTidiness

namespace SubmittedIt.Extension

open Transaction ReceiptCore

variable {P : StoragePlatform}

/-! ### Stopping a program -/

/-- What holds throughout an execution holds wherever it stops. -/
theorem throughout_runFor {α : Type} {p : StorageProg P α} {I : World P → Prop} {w : World P}
    (h : p.Throughout (exec P) I w) (hw : I w) (k : Nat) : I (p.runFor (exec P) k w).2 := by
  induction k generalizing p w with
  | zero => exact hw
  | succ k ih =>
    cases p with
    | ret r => exact hw
    | op o f =>
      obtain ⟨hI, hf⟩ := Prog.throughout_op.mp h
      exact ih hf hI

/-- Two invariants of one program. -/
theorem meets_and {α : Type} {p : StorageProg P α} {I I' : World P → Prop}
    {Q : Except StorageError α → World P → Prop} {w : World P}
    (h : p.Meets (Prog.Runs (exec P)) I Q w) (h' : p.Throughout (exec P) I' w) :
    p.Meets (Prog.Runs (exec P)) (fun s => I s ∧ I' s) Q w := by
  induction p generalizing w with
  | ret r => exact h
  | op o f ih =>
    intro r s hs
    obtain ⟨hI, hf⟩ := h r s hs
    obtain ⟨hI', hf'⟩ := h' r s hs
    exact ⟨⟨hI, hI'⟩, ih r hf hf'⟩

/-! ### The journal -/

/-- The key that a journal entry names is that of its receipt. -/
def Named (vault : Vault P) (entry : MigrationJournalEntry) : Prop :=
  ∃ key, vault.keys entry.keyId = some key ∧ key.keyId = entry.keyId ∧
    key.receiptId = entry.receiptId

/-- A journal names keys of its receipts. -/
def JournalSound (vault : Vault P) : Prop :=
  ∀ journal, vault.journal = some journal → ∀ entry ∈ journal.entries, Named vault entry

theorem Named.kept {w s : World P} (hfresh : w.Fresh) (hkept : Kept w s)
    {entry : MigrationJournalEntry} (h : Named w.vault entry) : Named s.vault entry := by
  obtain ⟨key, hkey, hnamed⟩ := h
  exact ⟨key, (hkept.keys _ (hfresh.key_lt hkey)).trans hkey, hnamed⟩

theorem Opens.named {vault : Vault P} {entry : EncryptedReceiptIndexEntry}
    {bundle : PrivateReceiptBundle} (h : Opens vault entry bundle) :
    Named vault ⟨entry.blobId, entry.keyId, entry.receiptId⟩ := by
  obtain ⟨key, envelope, h⟩ := h
  exact ⟨key, h.getKey, (congrArg (·.keyId) h.entry).symm, h.receiptId⟩

theorem JournalSound.kept {w s : World P} (hfresh : w.Fresh) (hkept : Kept w s)
    (hjournal : s.vault.journal = w.vault.journal) (h : JournalSound w.vault) :
    JournalSound s.vault := by
  intro journal hstored entry hentry
  exact (h journal (hjournal ▸ hstored) entry hentry).kept hfresh hkept

/-- The program leaves the journal as it is. -/
def KeepsJournal {α : Type} (p : StorageProg P α) : Prop :=
  ∀ w, p.Throughout (exec P) (fun s => s.vault.journal = w.vault.journal) w

namespace KeepsJournal

variable {α β : Type}

theorem perform {o : StorageOp P}
    (h : ∀ w, (exec P o w).2.vault.journal = w.vault.journal) :
    KeepsJournal (Extension.perform o) :=
  fun w => Prog.meets_runs_perform.mpr ⟨h w, trivial⟩

theorem bind {p : StorageProg P α} {f : α → StorageProg P β} (hp : KeepsJournal p)
    (hf : ∀ a, KeepsJournal (f a)) : KeepsJournal (p >>= f) := by
  intro w
  refine Prog.throughout_bind.mpr ⟨hp w, fun a s hrun => ?_⟩
  have hs := (hp w).run rfl
  rw [hrun] at hs
  exact (hf a s).mono fun t ht => ht.trans hs

end KeepsJournal

theorem ReadsOnly.keepsJournal {α : Type} {p : StorageProg P α} (h : ReadsOnly p) :
    KeepsJournal p := by
  intro w
  refine (h w).mono ?_
  rintro s rfl
  rfl

theorem ensureIdentity_keepsJournal (now : Timestamp) :
    KeepsJournal (ensureIdentity none now : StorageProg P InstallationIdentityRecord) := by
  refine .bind (.perform fun _ => rfl) fun existing => ?_
  rcases existing with - | existing
  · exact .bind (.perform fun _ => rfl) fun _ => .perform fun _ => rfl
  · exact (ReadsOnly.pure existing).keepsJournal

theorem put_journal (vault : Vault P) (key : ReceiptKeyRecord)
    (envelope : EncryptedReceiptEnvelope P) :
    (vault.putReceiptArtifacts key envelope).2.journal = vault.journal := by
  unfold Vault.putReceiptArtifacts
  split
  · rfl
  · dsimp only
    split
    · rfl
    · rfl

theorem reuseArtifacts_readsOnly (operational : StoredAttemptReceipt)
    (reusable : Option MigrationJournalEntry) :
    ReadsOnly (reuseArtifacts operational reusable :
      StorageProg P (Option (PrivateReceiptBundle × OpaqueId × OpaqueId))) := by
  unfold reuseArtifacts
  split
  · exact .pure _
  · refine .bind (.perform fun _ => rfl) fun key => .bind (.perform fun _ => rfl) fun envelope => ?_
    split
    · split
      · exact .pure _
      · split
        · exact .pure _
        · exact .pure _
    · exact .pure _

theorem migrateReceipt_keepsJournal (identity : InstallationIdentityRecord) (now : Timestamp)
    (operational : StoredAttemptReceipt) (reusable : Option MigrationJournalEntry) :
    KeepsJournal (migrateReceipt identity now operational reusable :
      StorageProg P (PrivateReceiptBundle × OpaqueId × OpaqueId)) := by
  refine .bind (reuseArtifacts_readsOnly _ _).keepsJournal fun reused => ?_
  rcases reused with - | reused
  · have hsecure : KeepsJournal (secureBundle operational identity none :
        StorageProg P PrivateReceiptBundle) :=
      .bind (.perform fun _ => rfl) fun _ => .bind (.perform fun _ => rfl) fun _ =>
        (ReadsOnly.ofExcept _).keepsJournal
    have hkey : KeepsJournal (generateReceiptKey P operational.receiptId now) :=
      .bind (.perform fun _ => rfl) fun _ => (ReadsOnly.pure _).keepsJournal
    refine .bind hsecure fun bundle => .bind hkey fun key => ?_
    refine .bind (.bind (.perform fun _ => rfl) fun _ => (ReadsOnly.ofExcept _).keepsJournal)
      fun _ => ?_
    exact .bind (.perform fun w => put_journal w.vault _ _) fun _ => (ReadsOnly.pure _).keepsJournal
  · exact (ReadsOnly.pure reused).keepsJournal

/-! ### Migrating one receipt -/

/-- The artifacts that are taken over open as the receipt. -/
theorem reuseArtifacts_ok {operational : StoredAttemptReceipt}
    {reusable : Option MigrationJournalEntry} {w : World P} {bundle : PrivateReceiptBundle}
    {blobId keyId : OpaqueId}
    (hnamed : ∀ entry, reusable = some entry →
      Named w.vault entry ∧ entry.receiptId = operational.receiptId)
    (h : ((reuseArtifacts operational reusable).run (exec P) w).1 =
      .ok (some (bundle, blobId, keyId))) :
    Opens w.vault (indexFromArtifacts bundle blobId keyId) bundle ∧
      bundle.operational = operational := by
  unfold reuseArtifacts at h
  split at h
  · cases h
  next entry =>
  obtain ⟨⟨named, hkey, hkeyId, hreceipt⟩, hentry⟩ := hnamed entry rfl
  rw [(ReadsOnly.perform fun _ => rfl).bind_run] at h
  obtain ⟨key, hfound, h⟩ := h
  rw [(ReadsOnly.perform fun _ => rfl).bind_run] at h
  obtain ⟨envelope, henvelope, h⟩ := h
  split at h
  · next key envelope =>
    split at h
    · cases h
    next candidate hdecrypt =>
    split at h
    · next hsame =>
      cases h
      have hkeys : w.vault.keys entry.keyId = some key := Except.ok.inj hfound
      obtain rfl : named = key := Option.some.inj (hkey.symm.trans hkeys)
      obtain ⟨-, -, -, hblob, -⟩ := getEnvelope_eq_ok.mp henvelope
      refine ⟨⟨named, envelope, ?_, ?_, ?_, hdecrypt, rfl⟩, hsame⟩
      · show w.vault.keys named.keyId = some named
        rw [hkeyId]
        exact hkey
      · show w.vault.getEnvelope envelope.authenticatedMetadata.blobId = _
        rw [← hblob]
        exact henvelope
      · show named.receiptId = bundle.operational.receiptId
        rw [hreceipt, hentry, hsame]
    · cases h
  · cases h

/-- What stays while a migration goes on. -/
structure Migrating (w s : World P) : Prop where
  kept : Kept w s
  area : s.area = w.area
  journal : JournalSound s.vault

theorem Migrating.trans {w s t : World P} (h : Migrating w s) (h' : Migrating s t) :
    Migrating w t :=
  ⟨h.kept.trans h'.kept, h'.area.trans h.area, h'.journal⟩

/-- **The artifacts of one receipt**, taken over or new. -/
theorem migrateReceipt_meets {w : World P} (hfresh : w.Fresh) (hjournal : JournalSound w.vault)
    (identity : InstallationIdentityRecord) (now : Timestamp)
    (operational : StoredAttemptReceipt) {reusable : Option MigrationJournalEntry}
    (hnamed : ∀ entry, reusable = some entry →
      Named w.vault entry ∧ entry.receiptId = operational.receiptId) :
    (migrateReceipt identity now operational reusable).Meets (Prog.Runs (exec P)) (Migrating w)
      (fun r s => ∀ bundle blobId keyId, r = .ok (bundle, blobId, keyId) →
        Opens s.vault (indexFromArtifacts bundle blobId keyId) bundle ∧
          bundle.operational = operational) w := by
  have hkeeps : (migrateReceipt identity now operational reusable).Meets (Prog.Runs (exec P))
      (fun s => Kept w s ∧ s.area = w.area)
      (fun r s => ∀ bundle blobId keyId, r = .ok (bundle, blobId, keyId) →
        Opens s.vault (indexFromArtifacts bundle blobId keyId) bundle ∧
          bundle.operational = operational) w := by
    have hreads := reuseArtifacts_readsOnly (P := P) operational reusable
    refine Prog.meets_bind.mpr ((hreads.throughout ⟨.refl hfresh, rfl⟩).meets ?_)
    rcases hreuse : (reuseArtifacts operational reusable).run (exec P) w with ⟨e | reused, s⟩
    · rintro bundle blobId keyId ⟨⟩
    · have hsame := hreads.run w
      rw [hreuse] at hsame
      obtain rfl : s = w := hsame
      rcases reused with - | ⟨candidate, candidateBlob, candidateKey⟩
      · -- new artifacts
        apply secureBundle_meets (.refl hfresh) fun b hb harea => ⟨hb, harea⟩
        · rintro e b - - bundle blobId keyId ⟨⟩
        · intro bundle b draw verifiedAt hb harea hcreate
          obtain ⟨hverified, hoperational⟩ := createOrUpdate_ok hcreate
          refine Prog.meets_bind.mpr ?_
          refine Prog.meets_perform_ok rfl ⟨hb.draw, harea⟩ ?_
          rw [Prog.meets_pure]
          apply sealed_meets hb.draw hverified
          · rw [hverified.receiptId, hoperational]
          · exact .inr ⟨(hb.fresh _ le_rfl).1, hb.draws, Nat.lt_succ_self _⟩
          · exact fun c hc hc' => ⟨hc, hc'.trans harea⟩
          · rintro e c - - bundle blobId keyId ⟨⟩
          · rintro c - - - - hopens
            rw [Prog.meets_pure]
            rintro _ _ _ ⟨⟩
            exact ⟨hopens, hoperational⟩
      · rintro bundle blobId keyId ⟨⟩
        exact reuseArtifacts_ok hnamed (by rw [hreuse])
  refine (meets_and hkeeps (migrateReceipt_keepsJournal identity now operational reusable w)).mono
    (fun _ _ _ _ hs => hs) ?_ fun _ _ hQ => hQ
  rintro s ⟨⟨hkept, harea⟩, hsame⟩
  exact ⟨hkept, harea, hjournal.kept hfresh hkept hsame⟩

/-! ### The loop -/

/-- A journal entry is written once its key is stored. -/
theorem Migrating.putJournal {w s : World P} (h : Migrating w s) (journal : MigrationJournal)
    (hnamed : ∀ entry ∈ journal.entries, Named s.vault entry) :
    Migrating w { s with vault := { s.vault with journal := some journal } } := by
  refine ⟨⟨h.kept.identity, h.kept.draws, h.kept.keys, h.kept.blobs, h.kept.fresh⟩, h.area, ?_⟩
  rintro _ ⟨⟩
  exact hnamed

/-- **The loop of a migration**: the index it makes opens as the receipts. -/
theorem migrateReceipts_meets (identity : InstallationIdentityRecord) (sourceVersion : Nat)
    (now : Timestamp) {reusable : List MigrationJournalEntry} (receipts : List StoredAttemptReceipt)
    {entries : List MigrationJournalEntry} {w : World P} (hfresh : w.Fresh)
    (hjournal : JournalSound w.vault) (hreusable : ∀ entry ∈ reusable, Named w.vault entry)
    (hentries : ∀ entry ∈ entries, Named w.vault entry) :
    (migrateReceipts identity sourceVersion now reusable entries receipts).Meets
      (Prog.Runs (exec P)) (Migrating w)
      (fun r s => ∀ index bundles, r = .ok (index, bundles) →
        OpensAll s.vault index bundles ∧ bundles.receipts = receipts) w := by
  induction receipts generalizing entries w with
  | nil =>
    rintro index bundles ⟨⟩
    exact ⟨.nil, rfl⟩
  | cons operational receipts ih =>
    have hrefl : Migrating w w := ⟨.refl hfresh, rfl, hjournal⟩
    refine Prog.meets_bind.mpr (((migrateReceipt_meets hfresh hjournal identity now operational
      fun entry hentry => ?_).and_inv hrefl).imp ?_)
    · have hfound := List.find?_some hentry
      exact ⟨hreusable entry (List.mem_of_find?_eq_some hentry), of_decide_eq_true hfound⟩
    · rintro (e | ⟨bundle, blobId, keyId⟩) s ⟨hs, hok⟩
      · rintro index bundles ⟨⟩
      obtain ⟨hopens, hoperational⟩ := hok bundle blobId keyId rfl
      have hall : ∀ entry ∈ entries ++ [⟨blobId, keyId, bundle.operational.receiptId⟩],
          Named s.vault entry := by
        intro entry hentry
        rcases List.mem_append.mp hentry with hentry | hentry
        · exact (hentries entry hentry).kept hfresh hs.kept
        · rw [List.mem_singleton.mp hentry]
          exact hopens.named
      have hput := hs.putJournal
        ⟨sourceVersion, now, entries ++ [⟨blobId, keyId, bundle.operational.receiptId⟩]⟩ hall
      refine Prog.meets_perform_ok rfl hput (Prog.meets_bind.mpr ?_)
      refine (ih hput.kept.fresh hput.journal
        (fun entry hentry => (hreusable entry hentry).kept hfresh hs.kept) hall).and_inv
          ⟨.refl hput.kept.fresh, rfl, hput.journal⟩ |>.mono (fun _ _ _ _ h => h)
          (fun t ht => hput.trans ht) ?_
      rintro (e | ⟨index, bundles⟩) t ⟨ht, hrest⟩
      · rintro index bundles ⟨⟩
      · obtain ⟨hopensAll, hreceipts⟩ := hrest index bundles rfl
        rintro _ _ ⟨⟩
        refine ⟨.cons ⟨rfl, ?_⟩ hopensAll, congrArg₂ List.cons hoperational hreceipts⟩
        exact Opens.kept hput.kept.fresh ht.kept (hopens.congr rfl rfl)

/-! ### The whole migration -/

/-- The stored index is the one that was loaded, and loads again. -/
structure HasLoaded (s : World P) (loaded : LoadedSecureExtensionState) : Prop where
  area : s.area = .current loaded.persistent
  readable : Readable s.vault loaded.persistent loaded
  fresh : s.Fresh

theorem HasLoaded.holds {s : World P} {loaded : LoadedSecureExtensionState}
    (h : HasLoaded s loaded) :
    Holds s loaded.content := h.readable.holds h.area

theorem Loads.hasLoaded {w s : World P} {content : StoredContent}
    {loaded : LoadedSecureExtensionState} (h : Loads w content loaded s) : HasLoaded s loaded :=
  ⟨h.area, h.readable, h.kept.fresh⟩

theorem Readable.receipts {vault : Vault P} {state : SecureExtensionLocalState}
    {loaded : LoadedSecureExtensionState} (h : Readable vault state loaded) :
    loaded.working.receiptIndex = loaded.bundles.receipts := h.opened.receipts h.valid.receiptIds

/-- What is stored while a plaintext value is migrated: the value, or an index
with its receipts. -/
def Migratable (value : LegacyValue) (receipts : List StoredAttemptReceipt) (s : World P) : Prop :=
  s.Fresh ∧ (s.area = .plaintext value ∧ JournalSound s.vault ∨
    ∃ content, Holds s content ∧ content.bundles.receipts = receipts)

theorem Migrating.migratable {w s : World P} (h : Migrating w s) {value : LegacyValue}
    (harea : w.area = .plaintext value) (receipts : List StoredAttemptReceipt) :
    Migratable value receipts s :=
  ⟨h.kept.fresh, .inl ⟨h.area.trans harea, h.journal⟩⟩

/-- The index that a migration writes. -/
def migratedIndex (legacy : ExtensionLocalState) (identity : InstallationIdentityRecord)
    (sourceVersion : Nat) (now : Timestamp) (receiptIndex : List EncryptedReceiptIndexEntry) :
    SecureExtensionLocalState where
  anchorOperations := []
  enabledOrigins := legacy.enabledOrigins
  hasSeenWelcome := legacy.hasSeenWelcome
  identity := some (identityMetadata identity)
  initializedAt := legacy.initializedAt
  migration := ⟨some sourceVersion, some now⟩
  receiptIndex := receiptIndex
  settings := legacy.settings
  updatedAt := now

/-- The index that a migration writes can be loaded. -/
theorem migratedIndex_readable {vault : Vault P} {legacy : ExtensionLocalState}
    (hlegacy : validateExtensionState P legacy = true) {identity : InstallationIdentityRecord}
    (hidentity : vault.identity = some identity) {sourceVersion : Nat} {now : Timestamp}
    {index : List EncryptedReceiptIndexEntry} {bundles : Bundles}
    (hopens : OpensAll vault index bundles) (hreceipts : bundles.receipts = legacy.receiptIndex)
    (hvalid : ValidIndex (migratedIndex legacy identity sourceVersion now index)) :
    ∃ working, workingFromPersistent P (migratedIndex legacy identity sourceVersion now index)
        bundles = .ok working ∧
      Readable vault (migratedIndex legacy identity sourceVersion now index)
        ⟨bundles, migratedIndex legacy identity sourceVersion now index, working⟩ := by
  obtain ⟨hsettings, horigins, hindex, -⟩ := validateExtensionState_eq_true.mp hlegacy
  have hoperational : operationalReceipts bundles index = .ok legacy.receiptIndex := by
    rw [← hreceipts]
    exact hopens.operationalReceipts fun entry hentry => hopens.get hvalid.receiptIds hentry
  obtain ⟨working, hworking⟩ : ∃ working, workingFromPersistent P
      (migratedIndex legacy identity sourceVersion now index) bundles = .ok working := by
    unfold workingFromPersistent
    simp only [bind_eq_ok, revertIf_eq_ok, exists_const, Bool.not_eq_false]
    exact ⟨_, _, hoperational,
      validateExtensionState_eq_true.mpr ⟨hsettings, horigins, hindex, rfl⟩, rfl⟩
  refine ⟨working, hworking, hvalid, ?_, rfl, hopens, ?_, hworking⟩
  · rintro metadata ⟨⟩
    rw [hidentity, Option.any_some]
    exact decide_eq_true rfl
  · exact fun operation hoperation => absurd hoperation List.not_mem_nil

/-- **A migration**: what is stored is the plaintext value until the index
with all its receipts is. -/
theorem migrateLegacyState_meets {w : World P} (hfresh : w.Fresh)
    (hjournal : JournalSound w.vault) {value : LegacyValue} (harea : w.area = .plaintext value)
    {legacy : ExtensionLocalState} (hlegacy : validateExtensionState P legacy = true)
    (sourceVersion : Nat) (now : Timestamp) :
    (migrateLegacyState legacy sourceVersion now).Meets (Prog.Runs (exec P))
      (Migratable value legacy.receiptIndex)
      (fun r s => ∀ loaded, r = .ok loaded →
        HasLoaded s loaded ∧ loaded.working.receiptIndex = legacy.receiptIndex) w := by
  have hrefl : Migrating w w := ⟨.refl hfresh, rfl, hjournal⟩
  refine Prog.meets_bind.mpr (((meets_and (ensureIdentity_meets (.refl hfresh) none now)
    (ensureIdentity_keepsJournal now w)).and_inv ⟨⟨.refl hfresh, rfl⟩, rfl⟩).mono
      (fun _ _ _ _ h => h) (fun s hs => ?_) ?_)
  · exact Migrating.migratable ⟨hs.1.1, hs.1.2, hjournal.kept hfresh hs.1.1 hs.2⟩ harea _
  rintro (e | identity) s ⟨⟨⟨hkept, hsame⟩, hsameJournal⟩, hidentity, -⟩
  · rintro loaded ⟨⟩
  obtain ⟨hstored, -⟩ := hidentity identity rfl
  have hs : Migrating w s := ⟨hkept, hsame, hjournal.kept hfresh hkept hsameJournal⟩
  refine Prog.meets_perform_ok rfl (hs.migratable harea _) ?_
  have hput := hs.putJournal ⟨sourceVersion, now, []⟩
    fun entry hentry => absurd hentry List.not_mem_nil
  refine Prog.meets_perform_ok rfl (hput.migratable harea _) ?_
  refine Prog.meets_bind.mpr ?_
  refine ((migrateReceipts_meets identity sourceVersion now legacy.receiptIndex hput.kept.fresh
    hput.journal ?_ fun entry hentry => absurd hentry List.not_mem_nil).and_inv
      ⟨.refl hput.kept.fresh, rfl, hput.journal⟩).mono (fun _ _ _ _ h => h)
      (fun t ht => (hput.trans ht).migratable harea legacy.receiptIndex) ?_
  · -- what an interrupted migration has left
    intro entry hentry
    split at hentry
    · next journal hfound =>
      split at hentry
      · exact hs.journal journal hfound entry hentry
      · exact absurd hentry List.not_mem_nil
    · exact absurd hentry List.not_mem_nil
  rintro (e | ⟨index, bundles⟩) t ⟨ht, hloop⟩
  · rintro loaded ⟨⟩
  obtain ⟨hopens, hreceipts⟩ := hloop index bundles rfl
  -- the index is written
  have hdone := hput.trans ht
  show (writePersistentState (migratedIndex legacy identity sourceVersion now index) >>= _).Meets
    _ _ _ t
  by_cases hwritten : validateSecureExtensionState
      (migratedIndex legacy identity sourceVersion now index) = true
  · have hvalid := validateSecure_eq_true.mp hwritten
    obtain ⟨working, hworking, hreadable⟩ := migratedIndex_readable hlegacy
      (ht.kept.identity identity hstored) hopens hreceipts hvalid
    have hready : HasLoaded ⟨.current (migratedIndex legacy identity sourceVersion now index),
        t.vault, t.draws⟩ ⟨bundles, migratedIndex legacy identity sourceVersion now index, working⟩ :=
      ⟨rfl, hreadable, hdone.kept.fresh⟩
    have hdeleted : HasLoaded ⟨.current (migratedIndex legacy identity sourceVersion now index),
        { t.vault with journal := none }, t.draws⟩
        ⟨bundles, migratedIndex legacy identity sourceVersion now index, working⟩ :=
      ⟨rfl, hreadable.agrees ⟨rfl, fun _ _ => rfl, fun _ _ => rfl⟩, hdone.kept.fresh⟩
    apply writePersistentState_meets hvalid ⟨hready.fresh, .inr ⟨_, hready.holds, hreceipts⟩⟩
    refine Prog.meets_perform_ok rfl ⟨hdeleted.fresh, .inr ⟨_, hdeleted.holds, hreceipts⟩⟩ ?_
    rw [loadedFrom, Prog.meets_bind, Prog.meets_ofExcept, hworking]
    rintro loaded ⟨⟩
    exact ⟨hdeleted, hdeleted.readable.receipts.trans hreceipts⟩
  · unfold writePersistentState
    rw [if_pos (Bool.not_eq_true _ ▸ hwritten)]
    rintro loaded ⟨⟩

/-! ### Attempts -/

/-- The time of reading does not matter for the receipts. -/
theorem resolveStored_receiptIndex (value : LegacyValue) (now later : Timestamp) :
    (resolveStoredExtensionState P value now).receiptIndex =
      (resolveStoredExtensionState P value later).receiptIndex := by
  cases value with
  | versionThree state =>
    unfold resolveStoredExtensionState
    dsimp only
    split
    · rfl
    · rfl
  | versionTwo fields receiptIndex =>
    unfold resolveStoredExtensionState migrateVersionTwo
    dsimp only
    -- neither time is validated
    split
    · split
      · rfl
      · next haccepted hrefused => exact absurd haccepted hrefused
    · split
      · next hrefused haccepted => exact absurd haccepted hrefused
      · rfl
  | versionOne fields =>
    unfold resolveStoredExtensionState
    dsimp only
    split
    · rfl
    · rfl
  | versionZero _ _ _ _ => rfl
  | other _ => rfl

/-- One attempt to load: it stops after any number of its operations (the
worker is ended, or it has returned), or an operation fails. -/
inductive Attempt : World P → World P → Prop
  | stops {w : World P} (ensure : Option Bool) (now : Timestamp) (k : Nat) :
    Attempt w ((loadSecureExtensionState ensure now).runFor (exec P) k w).2
  | fails {w b t : World P} (ensure : Option Bool) (now : Timestamp) {e : StorageError}
    {r : Except StorageError LoadedSecureExtensionState} :
    Prog.Fails (exec P) StorageOp.isStorage e (loadSecureExtensionState ensure now) w b r t →
    Attempt w t

/-- A load of what an interrupted migration has left. -/
theorem Migratable.load {value : LegacyValue} {receipts : List StoredAttemptReceipt} {w : World P}
    (h : Migratable value receipts w)
    (hreceipts : ∀ now, (resolveStoredExtensionState P value now).receiptIndex = receipts)
    (ensure : Option Bool) (now : Timestamp) :
    (loadSecureExtensionState ensure now).Meets (Prog.Runs (exec P)) (Migratable value receipts)
      (fun r s => ∀ loaded, r = .ok loaded →
        HasLoaded s loaded ∧ loaded.working.receiptIndex = receipts) w := by
  obtain ⟨hfresh, ⟨harea, hjournal⟩ | ⟨content, hholds, rfl⟩⟩ := h
  · refine Prog.meets_perform_ok rfl ⟨hfresh, .inl ⟨harea, hjournal⟩⟩ ?_
    rw [harea]
    have hlegacy := migrateLegacyState_meets hfresh hjournal harea
      (validate_resolveStored P value now) value.sourceVersion now
    rw [hreceipts now] at hlegacy
    exact hlegacy
  · refine (hholds.load hfresh ensure now).mono (fun _ _ _ _ h => h)
      (fun s hs => ⟨hs.2.fresh, .inr ⟨content, hs.1, rfl⟩⟩) ?_
    rintro r s ⟨loaded, rfl, hloads⟩ _ ⟨⟩
    refine ⟨hloads.hasLoaded, hloads.readable.receipts.trans ?_⟩
    rw [← hloads.content]
    rfl

theorem Migratable.attempt {value : LegacyValue} {receipts : List StoredAttemptReceipt}
    {w t : World P} (h : Migratable value receipts w)
    (hreceipts : ∀ now, (resolveStoredExtensionState P value now).receiptIndex = receipts)
    (hattempt : Attempt w t) : Migratable value receipts t := by
  cases hattempt with
  | stops ensure now k => exact throughout_runFor (h.load hreceipts ensure now).throughout h k
  | fails ensure now hfails =>
    -- a load hands the failure on, so nothing follows it
    obtain ⟨-, rfl⟩ := (load_strict ensure now).fails hfails
    exact hfails.inv (h.load hreceipts ensure now).throughout h

/-- Every load succeeds, with these receipts. -/
def LoadsReceipts (receipts : List StoredAttemptReceipt) (w : World P) : Prop :=
  ∀ ensure now, ∃ loaded s, (loadSecureExtensionState ensure now).run (exec P) w =
    (.ok loaded, s) ∧ loaded.working.receiptIndex = receipts

theorem Holds.encrypted {w : World P} {content : StoredContent} (h : Holds w content) :
    w.area.encrypted = true := by
  obtain ⟨state, loaded, hstate, -⟩ := h 0
  rcases harea : w.area with - | secure | legacy | bad | value
  all_goals rw [harea] at hstate; cases hstate
  · rfl
  · rfl

theorem Holds.loadsReceipts {w : World P} {content : StoredContent} (h : Holds w content)
    (hfresh : w.Fresh) : LoadsReceipts content.bundles.receipts w := by
  intro ensure now
  obtain ⟨loaded, hok, hloaded⟩ := (h.load hfresh ensure now).result
  refine ⟨loaded, _, Prod.ext hok rfl, hloaded.readable.receipts.trans ?_⟩
  rw [← hloaded.content]
  rfl

/-- **Interrupted migrations.**  Whatever attempts were interrupted, the
storage area holds the plaintext value or an index that loads with exactly its
receipts; after a load that succeeds it holds the index. -/
theorem migration_crash_safe {w t : World P} {value : LegacyValue}
    (harea : w.area = .plaintext value) (hfresh : w.Fresh) (hjournal : JournalSound w.vault)
    (resolvedAt : Timestamp) (h : Relation.ReflTransGen Attempt w t) :
    let receipts := (resolveStoredExtensionState P value resolvedAt).receiptIndex
    (t.area = .plaintext value ∨ t.area.encrypted = true ∧ LoadsReceipts receipts t) ∧
      ∀ ensure now loaded s, (loadSecureExtensionState ensure now).run (exec P) t =
        (.ok loaded, s) → s.area = .current loaded.persistent ∧
          loaded.working.receiptIndex = receipts ∧ LoadsReceipts receipts s := by
  intro receipts
  have hresolved : ∀ now, (resolveStoredExtensionState P value now).receiptIndex = receipts :=
    fun now => resolveStored_receiptIndex value now resolvedAt
  have hinvariant : Migratable value receipts t := by
    induction h with
    | refl => exact ⟨hfresh, .inl ⟨harea, hjournal⟩⟩
    | tail _ hattempt ih => exact ih.attempt hresolved hattempt
  constructor
  · refine hinvariant.2.imp And.left ?_
    rintro ⟨content, hholds, hcontent⟩
    exact ⟨hholds.encrypted, hcontent ▸ hholds.loadsReceipts hinvariant.1⟩
  · intro ensure now loaded s hrun
    have hresult := (hinvariant.load hresolved ensure now).result
    rw [hrun] at hresult
    obtain ⟨hready, hsame⟩ := hresult loaded rfl
    have hcontent : loaded.content.bundles.receipts = receipts :=
      hready.readable.receipts.symm.trans hsame
    exact ⟨hready.area, hsame, hcontent ▸ hready.holds.loadsReceipts hready.fresh⟩

/-- Two receipts as an earlier version stored them. -/
def plaintextWorld : World samplePlatform :=
  ⟨.plaintext (.versionThree (sampleWorking [7, 8])), .empty, 0⟩

/-- The first attempt ends after its first receipt. -/
def interruptedWorld : World samplePlatform :=
  ((loadSecureExtensionState none 10).runFor (exec samplePlatform) 13 plaintextWorld).2

/-- The second attempt takes the first receipt's artifacts over. -/
theorem migration_crash_safe_sample :
    (interruptedWorld.vault.journal.map fun journal => journal.entries.map (·.blobId)) =
        some [4] ∧
      ∃ loaded s, (loadSecureExtensionState none 20).run (exec samplePlatform) interruptedWorld =
        (.ok loaded, s) ∧ s.area.entries.map (·.blobId) = [4, 9] ∧
        loaded.working.receiptIndex = [sampleReceipt 7, sampleReceipt 8] ∧
        LoadsReceipts [sampleReceipt 7, sampleReceipt 8] s := by
  obtain ⟨loaded, hloaded⟩ := exists_ok (x := ((loadSecureExtensionState none 20).run
    (exec samplePlatform) interruptedWorld).1) (by decide +kernel)
  have hsafe := (migration_crash_safe (w := plaintextWorld) rfl (fun _ _ => ⟨rfl, rfl⟩)
    (by rintro journal ⟨⟩) 0
    (.single (.stops none 10 13))).2 none 20 loaded _ (Prod.ext hloaded rfl)
  have hresolved : (resolveStoredExtensionState samplePlatform
      (.versionThree (sampleWorking [7, 8])) 0).receiptIndex =
        [sampleReceipt 7, sampleReceipt 8] := by decide +kernel
  rw [hresolved] at hsafe
  exact ⟨by decide +kernel, loaded, _, Prod.ext hloaded rfl, by decide +kernel, hsafe.2⟩

end SubmittedIt.Extension
