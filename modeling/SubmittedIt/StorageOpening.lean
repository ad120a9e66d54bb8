/-
SubmittedIt/StorageOpening.lean

What a load finds in the vault.

`Opens vault entry bundle` says that the key and the blob an index entry names
decrypt to a bundle which the entry describes, and `Opened vault persistent
loaded` says it of a whole index, with what else a load checks.  Both depend
on the named keys and blobs only.

Main results: `decryptEntry_run`, `openIndex_run` (the programs compute these
relations and change nothing), `Opens.congr` and `Opened.congr`.
-/
import SubmittedIt.SecureStorage

namespace SubmittedIt.Extension

open Transaction ReceiptCore

variable {P : StoragePlatform} {α β : Type}

/-! ### Programs that only read -/

/-- The program leaves every world as it is. -/
def ReadsOnly (p : StorageProg P α) : Prop := ∀ w, p.Throughout (exec P) (fun s => s = w) w

namespace ReadsOnly

theorem pure (a : α) : ReadsOnly (Pure.pure a : StorageProg P α) := fun _ => trivial

theorem ofExcept (r : Except StorageError α) : ReadsOnly (Prog.ofExcept r : StorageProg P α) :=
  fun _ => trivial

theorem fail (message : String) : ReadsOnly (Extension.fail message : StorageProg P α) :=
  fun _ => trivial

theorem perform {o : StorageOp P} (h : ∀ w, (exec P o w).2 = w) :
    ReadsOnly (Extension.perform o) := fun w => Prog.throughout_perform.mpr (h w)

theorem run {p : StorageProg P α} (h : ReadsOnly p) (w : World P) : (p.run (exec P) w).2 = w :=
  (h w).run rfl

theorem bind {p : StorageProg P α} {f : α → StorageProg P β} (hp : ReadsOnly p)
    (hf : ∀ a, ReadsOnly (f a)) : ReadsOnly (p >>= f) := by
  intro w
  refine Prog.throughout_bind.mpr ⟨hp w, fun a s' hrun => ?_⟩
  have hs' : s' = w := by
    have h := hp.run w
    rw [hrun] at h
    exact h
  subst hs'
  exact hf a s'

/-- What holds of the world holds throughout. -/
theorem throughout {p : StorageProg P α} (h : ReadsOnly p) {I : World P → Prop} {w : World P}
    (hw : I w) : p.Throughout (exec P) I w :=
  (h w).mono fun s hs => by rw [hs]; exact hw

end ReadsOnly

/-- What a sequence of reading programs returns. -/
theorem ReadsOnly.bind_run {p : StorageProg P α} {f : α → StorageProg P β} (hp : ReadsOnly p)
    {w : World P} {b : β} :
    ((p >>= f).run (exec P) w).1 = .ok b ↔
      ∃ a, (p.run (exec P) w).1 = .ok a ∧ ((f a).run (exec P) w).1 = .ok b := by
  have hw := hp.run w
  rw [Prog.run_bind]
  rcases h : p.run (exec P) w with ⟨e | a, s⟩
  · simp
  · rw [h] at hw
    cases (hw : s = w)
    simp

/-! ### Blobs -/

theorem getEnvelope_eq_ok {vault : Vault P} {blobId : OpaqueId}
    {envelope : EncryptedReceiptEnvelope P} :
    vault.getEnvelope blobId = .ok (some envelope) ↔
      ∃ stored, vault.blobs blobId = some stored ∧
        parseEncryptedReceiptEnvelope P stored.envelope = .ok envelope ∧
        blobId = envelope.authenticatedMetadata.blobId ∧
        stored.receiptId = envelope.authenticatedMetadata.receiptId := by
  unfold Vault.getEnvelope
  cases hblob : vault.blobs blobId with
  | none => simp
  | some stored =>
    simp only [Option.some.injEq, exists_eq_left']
    cases hparse : parseEncryptedReceiptEnvelope P stored.envelope with
    | error e => simp
    | ok envelope' =>
      dsimp only
      split
      · rename_i hmismatch
        simp only [reduceCtorEq, Except.ok.injEq, false_iff, not_and]
        rintro rfl hid hreceipt
        exact hmismatch.elim (fun h => h hid) fun h => h hreceipt
      · rename_i hmatch
        simp only [ne_eq, not_or, not_not] at hmatch
        simp only [Except.ok.injEq, Option.some.injEq]
        constructor
        · rintro rfl
          exact ⟨rfl, hmatch⟩
        · rintro ⟨rfl, -⟩
          rfl

theorem getEnvelope_congr {vault vault' : Vault P} {blobId : OpaqueId}
    (h : vault'.blobs blobId = vault.blobs blobId) :
    vault'.getEnvelope blobId = vault.getEnvelope blobId := by
  unfold Vault.getEnvelope
  rw [h]

/-! ### Index entries -/

/-- The key and the envelope of an entry decrypt to a bundle that the entry
describes. -/
structure OpensWith (vault : Vault P) (entry : EncryptedReceiptIndexEntry)
    (key : ReceiptKeyRecord) (envelope : EncryptedReceiptEnvelope P)
    (bundle : PrivateReceiptBundle) : Prop where
  getKey : vault.keys entry.keyId = some key
  getEnvelope : vault.getEnvelope entry.blobId = .ok (some envelope)
  receiptId : key.receiptId = entry.receiptId
  decrypted : decryptPrivateReceiptEnvelope P envelope key.key = .ok bundle
  entry : entry = indexFromArtifacts bundle envelope.authenticatedMetadata.blobId key.keyId

/-- The entry's bundle is in the vault. -/
def Opens (vault : Vault P) (entry : EncryptedReceiptIndexEntry) (bundle : PrivateReceiptBundle) :
    Prop := ∃ key envelope, OpensWith vault entry key envelope bundle

theorem Opens.unique {vault : Vault P} {entry : EncryptedReceiptIndexEntry}
    {bundle bundle' : PrivateReceiptBundle} (h : Opens vault entry bundle)
    (h' : Opens vault entry bundle') : bundle' = bundle := by
  obtain ⟨key, envelope, h⟩ := h
  obtain ⟨key', envelope', h'⟩ := h'
  have hkey : key' = key := Option.some.inj (h'.getKey.symm.trans h.getKey)
  have henvelope : envelope' = envelope :=
    Option.some.inj (Except.ok.inj (h'.getEnvelope.symm.trans h.getEnvelope))
  subst hkey henvelope
  exact Except.ok.inj (h'.decrypted.symm.trans h.decrypted)

/-- Only the named key and blob matter. -/
theorem Opens.congr {vault vault' : Vault P} {entry : EncryptedReceiptIndexEntry}
    {bundle : PrivateReceiptBundle} (h : Opens vault entry bundle)
    (hkey : vault'.keys entry.keyId = vault.keys entry.keyId)
    (hblob : vault'.blobs entry.blobId = vault.blobs entry.blobId) :
    Opens vault' entry bundle := by
  obtain ⟨key, envelope, h⟩ := h
  exact ⟨key, envelope, hkey.trans h.getKey, (getEnvelope_congr hblob).trans h.getEnvelope, h.receiptId,
    h.decrypted, h.entry⟩

theorem Opens.verified {vault : Vault P} {entry : EncryptedReceiptIndexEntry}
    {bundle : PrivateReceiptBundle} (h : Opens vault entry bundle) : Verified P bundle := by
  obtain ⟨key, envelope, h⟩ := h
  exact (decrypt_verified h.decrypted).1

theorem Opens.receiptId {vault : Vault P} {entry : EncryptedReceiptIndexEntry}
    {bundle : PrivateReceiptBundle} (h : Opens vault entry bundle) :
    bundle.operational.receiptId = entry.receiptId := by
  obtain ⟨key, envelope, h⟩ := h
  exact (congrArg (·.receiptId) h.entry).symm

/-- The named key and blob are there, and are those of the entry's receipt. -/
theorem Opens.stored {vault : Vault P} {entry : EncryptedReceiptIndexEntry}
    {bundle : PrivateReceiptBundle} (h : Opens vault entry bundle) :
    (∃ key, vault.keys entry.keyId = some key ∧ key.receiptId = entry.receiptId) ∧
      ∃ blob, vault.blobs entry.blobId = some blob ∧ blob.receiptId = entry.receiptId := by
  have hreceipt := h.receiptId
  have hverified := h.verified
  obtain ⟨key, envelope, h⟩ := h
  obtain ⟨stored, hstored, hparse, -, hid⟩ := getEnvelope_eq_ok.mp h.getEnvelope
  refine ⟨⟨key, h.getKey, h.receiptId⟩, stored, hstored, ?_⟩
  rw [hid, ← hreceipt, ← hverified.receiptId]
  exact (decrypt_verified h.decrypted).2.1.symm

/-! ### Decrypting an entry -/

theorem decryptEntry_readsOnly (entry : EncryptedReceiptIndexEntry) :
    ReadsOnly (decryptEntry entry : StorageProg P PrivateReceiptBundle) := by
  refine .bind (.perform fun _ => rfl) fun key => .bind (.perform fun _ => rfl) fun envelope => ?_
  rcases key with - | key
  · exact .fail _
  · rcases envelope with - | envelope
    · exact .fail _
    · dsimp only
      split
      · exact .fail _
      · refine .bind (.ofExcept _) fun bundle => ?_
        split
        · exact .fail _
        · exact .pure _

theorem decryptEntry_strict (entry : EncryptedReceiptIndexEntry) :
    (decryptEntry entry : StorageProg P PrivateReceiptBundle).Strict := by
  refine (Prog.strict_perform _).bind fun key => (Prog.strict_perform _).bind fun envelope => ?_
  rcases key with - | key
  · exact Prog.strict_throw _
  · rcases envelope with - | envelope
    · exact Prog.strict_throw _
    · dsimp only
      split
      · exact Prog.strict_throw _
      · refine (Prog.strict_ofExcept _).bind fun bundle => ?_
        split
        · exact Prog.strict_throw _
        · exact Prog.strict_pure _

/-- **The bundle an entry is decrypted to** is the one the entry opens as. -/
theorem decryptEntry_run {entry : EncryptedReceiptIndexEntry} {w : World P}
    {bundle : PrivateReceiptBundle} :
    ((decryptEntry entry).run (exec P) w).1 = .ok bundle ↔ Opens w.vault entry bundle := by
  unfold decryptEntry
  rw [(ReadsOnly.perform fun _ => rfl).bind_run]
  constructor
  · rintro ⟨key, hkey, h⟩
    cases hkey
    rw [(ReadsOnly.perform fun _ => rfl).bind_run] at h
    obtain ⟨envelope, henvelope, h⟩ := h
    split at h
    · rename_i key envelope hkey
      split at h
      · cases h
      · rename_i hreceipt
        rw [(ReadsOnly.ofExcept _).bind_run] at h
        obtain ⟨b, hdecrypt, h⟩ := h
        split at h
        · cases h
        · rename_i hentry
          cases h
          exact ⟨key, envelope, hkey, henvelope, not_not.mp hreceipt, hdecrypt,
            not_not.mp hentry⟩
    · cases h
  · rintro ⟨key, envelope, h⟩
    refine ⟨some key, congrArg Except.ok h.getKey, ?_⟩
    rw [(ReadsOnly.perform fun _ => rfl).bind_run]
    refine ⟨some envelope, h.getEnvelope, ?_⟩
    dsimp only
    rw [if_neg (not_not.mpr h.receiptId), (ReadsOnly.ofExcept _).bind_run]
    refine ⟨bundle, h.decrypted, ?_⟩
    rw [if_neg (not_not.mpr h.entry)]
    rfl

/-! ### Decrypting an index -/

/-- Every entry opens as the bundle beside its receipt. -/
def OpensAll (vault : Vault P) (entries : List EncryptedReceiptIndexEntry) (bundles : Bundles) :
    Prop :=
  List.Forall₂ (fun entry named => named.1 = entry.receiptId ∧ Opens vault entry named.2) entries
    bundles

theorem OpensAll.congr {vault vault' : Vault P} {entries : List EncryptedReceiptIndexEntry}
    {bundles : Bundles} (h : OpensAll vault entries bundles)
    (hkeys : ∀ entry ∈ entries, vault'.keys entry.keyId = vault.keys entry.keyId)
    (hblobs : ∀ entry ∈ entries, vault'.blobs entry.blobId = vault.blobs entry.blobId) :
    OpensAll vault' entries bundles := by
  induction h with
  | nil => exact .nil
  | cons hentry _ ih =>
    refine .cons ⟨hentry.1, hentry.2.congr (hkeys _ List.mem_cons_self)
      (hblobs _ List.mem_cons_self)⟩ (ih ?_ ?_)
    · exact fun entry h => hkeys entry (List.mem_cons_of_mem _ h)
    · exact fun entry h => hblobs entry (List.mem_cons_of_mem _ h)

theorem OpensAll.exists_bundle {vault : Vault P} {entries : List EncryptedReceiptIndexEntry}
    {bundles : Bundles} (h : OpensAll vault entries bundles) {entry : EncryptedReceiptIndexEntry}
    (hentry : entry ∈ entries) :
    ∃ bundle, (entry.receiptId, bundle) ∈ bundles ∧ Opens vault entry bundle := by
  induction h with
  | nil => cases hentry
  | @cons e named es bs hopens _ ih =>
    rcases List.mem_cons.mp hentry with rfl | hentry
    · exact ⟨named.2, by rw [← hopens.1]; exact List.mem_cons_self, hopens.2⟩
    · obtain ⟨bundle, hmem, hopen⟩ := ih hentry
      exact ⟨bundle, List.mem_cons_of_mem _ hmem, hopen⟩

/-- The bundle of a receipt is that of its entry. -/
theorem OpensAll.get {vault : Vault P} {entries : List EncryptedReceiptIndexEntry}
    {bundles : Bundles} (h : OpensAll vault entries bundles)
    (hnodup : (entries.map (·.receiptId)).Nodup) {entry : EncryptedReceiptIndexEntry}
    (hentry : entry ∈ entries) :
    ∃ bundle, bundles.get entry.receiptId = some bundle ∧ Opens vault entry bundle := by
  induction h with
  | nil => cases hentry
  | @cons e named es bs hopens _ ih =>
    rw [List.map_cons, List.nodup_cons] at hnodup
    rcases List.mem_cons.mp hentry with rfl | hentry
    · refine ⟨named.2, ?_, hopens.2⟩
      unfold Bundles.get
      rw [List.find?_cons_of_pos (by rw [hopens.1]; exact decide_eq_true rfl)]
      rfl
    · obtain ⟨bundle, hget, hopen⟩ := ih hnodup.2 hentry
      refine ⟨bundle, ?_, hopen⟩
      have hne : named.1 ≠ entry.receiptId := by
        rw [hopens.1]
        rintro heq
        exact hnodup.1 (heq ▸ List.mem_map_of_mem hentry)
      unfold Bundles.get at hget ⊢
      rw [List.find?_cons_of_neg (by rw [decide_eq_true_eq]; exact hne)]
      exact hget

theorem OpensAll.of_get {vault : Vault P} {entries : List EncryptedReceiptIndexEntry}
    {bundles : Bundles} (h : OpensAll vault entries bundles) {receiptId : ReceiptId}
    {bundle : PrivateReceiptBundle} (hget : bundles.get receiptId = some bundle) :
    ∃ entry ∈ entries, entry.receiptId = receiptId ∧ Opens vault entry bundle := by
  induction h with
  | nil => cases hget
  | @cons e named es bs hopens _ ih =>
    unfold Bundles.get at hget
    rcases eq_or_ne named.1 receiptId with heq | hne
    · rw [List.find?_cons_of_pos (by rw [heq]; exact decide_eq_true rfl)] at hget
      cases hget
      exact ⟨e, List.mem_cons_self, hopens.1.symm.trans heq, hopens.2⟩
    · rw [List.find?_cons_of_neg (by rw [decide_eq_true_eq]; exact hne)] at hget
      obtain ⟨entry, hentry, hid, hopen⟩ := ih hget
      exact ⟨entry, List.mem_cons_of_mem _ hentry, hid, hopen⟩

theorem decryptEntries_readsOnly (entries : List EncryptedReceiptIndexEntry) :
    ReadsOnly (decryptEntries entries : StorageProg P Bundles) := by
  induction entries with
  | nil => exact .pure _
  | cons entry entries ih =>
    exact .bind (decryptEntry_readsOnly entry) fun _ => .bind ih fun _ => .pure _

theorem decryptEntries_strict (entries : List EncryptedReceiptIndexEntry) :
    (decryptEntries entries : StorageProg P Bundles).Strict := by
  induction entries with
  | nil => exact Prog.strict_pure _
  | cons entry entries ih =>
    exact (decryptEntry_strict entry).bind fun _ => ih.bind fun _ => Prog.strict_pure _

theorem decryptEntries_run {entries : List EncryptedReceiptIndexEntry} {w : World P}
    {bundles : Bundles} :
    ((decryptEntries entries).run (exec P) w).1 = .ok bundles ↔
      OpensAll w.vault entries bundles := by
  induction entries generalizing bundles with
  | nil =>
    constructor
    · intro h
      cases h
      exact .nil
    · intro h
      cases h
      rfl
  | cons entry entries ih =>
    show ((decryptEntry entry >>= fun bundle => decryptEntries entries >>= fun bundles =>
      pure ((entry.receiptId, bundle) :: bundles)).run (exec P) w).1 = _ ↔ _
    rw [(decryptEntry_readsOnly entry).bind_run]
    simp only [(decryptEntries_readsOnly entries).bind_run, decryptEntry_run, ih, Prog.run_pure,
      Except.ok.injEq]
    constructor
    · rintro ⟨bundle, hopens, rest, hrest, rfl⟩
      exact .cons ⟨rfl, hopens⟩ hrest
    · intro h
      cases h with
      | @cons _ named _ rest hopens hrest =>
        exact ⟨named.2, hopens.2, rest, hrest, by rw [← hopens.1]⟩

/-! ### Opening a stored index -/

/-- What a load finds for an index: its bundles, which its anchor operations
match, and the valid working state. -/
structure Opened (vault : Vault P) (persistent : SecureExtensionLocalState)
    (loaded : LoadedSecureExtensionState) : Prop where
  index : loaded.persistent = persistent
  bundles : OpensAll vault persistent.receiptIndex loaded.bundles
  operations : ∀ operation ∈ persistent.anchorOperations,
    operationMatches (loaded.bundles.get operation.receiptId) operation = true
  working : workingFromPersistent P persistent loaded.bundles = .ok loaded.working

/-- The last part of a load. -/
def openIndex (persistent : SecureExtensionLocalState) :
    StorageProg P LoadedSecureExtensionState := do
  let bundles ← decryptIndexedBundles persistent
  loadedFrom persistent bundles

theorem decryptIndexedBundles_readsOnly (persistent : SecureExtensionLocalState) :
    ReadsOnly (decryptIndexedBundles persistent : StorageProg P Bundles) := by
  refine .bind (decryptEntries_readsOnly _) fun bundles => ?_
  split
  · exact .fail _
  · exact .pure _

theorem openIndex_readsOnly (persistent : SecureExtensionLocalState) :
    ReadsOnly (openIndex persistent : StorageProg P LoadedSecureExtensionState) :=
  .bind (decryptIndexedBundles_readsOnly persistent) fun _ =>
    .bind (.ofExcept _) fun _ => .pure _

theorem openIndex_strict (persistent : SecureExtensionLocalState) :
    (openIndex persistent : StorageProg P LoadedSecureExtensionState).Strict := by
  refine ((decryptEntries_strict _).bind fun bundles => ?_).bind fun _ =>
    (Prog.strict_ofExcept _).bind fun _ => Prog.strict_pure _
  split
  · exact Prog.strict_throw _
  · exact Prog.strict_pure _

/-- **What a load makes of an index.** -/
theorem openIndex_run {persistent : SecureExtensionLocalState} {w : World P}
    {loaded : LoadedSecureExtensionState} :
    ((openIndex persistent).run (exec P) w).1 = .ok loaded ↔
      Opened w.vault persistent loaded := by
  rw [openIndex, (decryptIndexedBundles_readsOnly persistent).bind_run]
  simp only [decryptIndexedBundles, loadedFrom, (decryptEntries_readsOnly _).bind_run,
    decryptEntries_run, (ReadsOnly.ofExcept _).bind_run, Prog.run_ofExcept, Prog.run_pure,
    Except.ok.injEq]
  constructor
  · rintro ⟨bundles, ⟨bundles', hopens, hchecked⟩, working, hworking, rfl⟩
    split at hchecked
    · cases hchecked
    · rename_i hmatches
      cases hchecked
      exact ⟨rfl, hopens, List.all_eq_true.mp (Bool.not_eq_false _ ▸ hmatches), hworking⟩
  · rintro ⟨rfl, hbundles, hoperations, hworking⟩
    refine ⟨loaded.bundles, ⟨loaded.bundles, hbundles, ?_⟩, loaded.working, hworking, rfl⟩
    rw [if_neg]
    · rfl
    · rw [List.all_eq_true.mpr hoperations]
      exact Bool.noConfusion

theorem openIndex_run_eq {persistent : SecureExtensionLocalState} {w : World P}
    {loaded : LoadedSecureExtensionState} (h : Opened w.vault persistent loaded) :
    (openIndex persistent).run (exec P) w = (.ok loaded, w) :=
  Prod.ext (openIndex_run.mpr h) ((openIndex_readsOnly persistent).run w)

/-- Only the keys and blobs that the index names matter. -/
theorem Opened.congr {vault vault' : Vault P} {persistent : SecureExtensionLocalState}
    {loaded : LoadedSecureExtensionState} (h : Opened vault persistent loaded)
    (hkeys : ∀ entry ∈ persistent.receiptIndex, vault'.keys entry.keyId = vault.keys entry.keyId)
    (hblobs : ∀ entry ∈ persistent.receiptIndex,
      vault'.blobs entry.blobId = vault.blobs entry.blobId) :
    Opened vault' persistent loaded :=
  ⟨h.index, h.bundles.congr hkeys hblobs, h.operations, h.working⟩

end SubmittedIt.Extension
