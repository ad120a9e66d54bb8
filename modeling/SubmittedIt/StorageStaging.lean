/-
SubmittedIt/StorageStaging.lean

Writing, committing and withdrawing artifacts.

A save first writes new blobs and keys under fresh identifiers (staging), then
writes the index that names them, then deletes what that index no longer
names.  Until the index is written everything that was there stays
(`Kept`), and so it does when the staged artifacts are withdrawn; after it,
what the new index names stays (`Agrees`).

Main results: `sealed_meets`, `stageReceipts_meets`, `stageReceipts_fails`,
`rollback_run` and `deleteReplaced_meets`.
-/
import SubmittedIt.StorageLoad

namespace SubmittedIt.Extension

open Transaction ReceiptCore

variable {P : StoragePlatform}

/-! ### Writing artifacts -/

/-- The vault with a key and a blob. -/
def Vault.put (vault : Vault P) (key : ReceiptKeyRecord) (envelope : EncryptedReceiptEnvelope P) :
    Vault P :=
  { vault with
    keys := Function.update vault.keys key.keyId (some ((vault.keys key.keyId).getD key))
    blobs := Function.update vault.blobs envelope.authenticatedMetadata.blobId
      (some ⟨envelope, envelope.authenticatedMetadata.receiptId⟩) }

theorem exec_put {s : World P} {key : ReceiptKeyRecord} {bundle : PrivateReceiptBundle}
    {draw : Nat} (hfits : FitsEnvelope P bundle key.key draw)
    (hreceipt : key.receiptId = bundle.receipt.receiptId) :
    exec P (.putReceiptArtifacts key (sealBundle P bundle key.key draw)) s =
      (.ok (), { s with vault := s.vault.put key (sealBundle P bundle key.key draw) }) := by
  have hput : s.vault.putReceiptArtifacts key (sealBundle P bundle key.key draw) =
      (.ok (), s.vault.put key (sealBundle P bundle key.key draw)) := by
    unfold Vault.putReceiptArtifacts
    rw [parseEnvelope_seal.mpr ⟨rfl, hfits⟩]
    exact if_neg (not_not.mpr hreceipt)
  show ((s.vault.putReceiptArtifacts key _).1, { s with vault := _ }) = _
  rw [hput]

/-- Where a key may be written: it is there already, or new. -/
def KeyReady (w s : World P) (key : ReceiptKeyRecord) : Prop :=
  s.vault.keys key.keyId = some key ∨
    s.vault.keys key.keyId = none ∧ w.draws ≤ key.keyId ∧ key.keyId < s.draws

theorem Kept.put {w s : World P} (h : Kept w s) {key : ReceiptKeyRecord}
    (hkey : KeyReady w s key) {envelope : EncryptedReceiptEnvelope P}
    (hlower : w.draws ≤ envelope.authenticatedMetadata.blobId)
    (hupper : envelope.authenticatedMetadata.blobId < s.draws) :
    Kept w { s with vault := s.vault.put key envelope } := by
  refine ⟨h.identity, h.draws, fun id hid => ?_, fun id hid => ?_, fun id hid => ⟨?_, ?_⟩⟩
  · show Function.update s.vault.keys _ _ id = _
    rcases eq_or_ne id key.keyId with rfl | hne
    · rcases hkey with hkey | ⟨-, hnew, -⟩
      · rw [Function.update_self, hkey, Option.getD_some, ← hkey, h.keys _ hid]
      · exact absurd hid (not_lt.mpr hnew)
    · rw [Function.update_of_ne hne, h.keys id hid]
  · show Function.update s.vault.blobs _ _ id = _
    rw [Function.update_of_ne (hid.trans_le hlower).ne, h.blobs id hid]
  · show Function.update s.vault.keys _ _ id = none
    have hne : id ≠ key.keyId := by
      rintro rfl
      rcases hkey with hkey | ⟨-, -, hdrawn⟩
      · exact absurd (h.fresh.key_lt hkey) (not_lt.mpr hid)
      · exact absurd hdrawn (not_lt.mpr hid)
    rw [Function.update_of_ne hne]
    exact (h.fresh id hid).1
  · show Function.update s.vault.blobs _ _ id = none
    have hid' : s.draws ≤ id := hid
    rw [Function.update_of_ne (hupper.trans_le hid').ne']
    exact (h.fresh id hid).2

/-- **What was sealed opens**, under the key it was sealed with. -/
theorem opens_put {w s : World P} {key : ReceiptKeyRecord} {bundle : PrivateReceiptBundle}
    {draw : Nat} (hverified : Verified P bundle) (hfits : FitsEnvelope P bundle key.key draw)
    (hreceipt : key.receiptId = bundle.receipt.receiptId) (hkey : KeyReady w s key) :
    Opens (s.vault.put key (sealBundle P bundle key.key draw))
      (indexFromArtifacts bundle draw key.keyId) bundle := by
  refine ⟨key, sealBundle P bundle key.key draw, ?_, ?_, ?_, decrypt_sealBundle hverified hfits,
    rfl⟩
  · show Function.update s.vault.keys key.keyId _ key.keyId = _
    rw [Function.update_self]
    rcases hkey with hkey | ⟨hkey, -⟩
    · rw [hkey]
      rfl
    · rw [hkey]
      rfl
  · refine getEnvelope_eq_ok.mpr ⟨_, Function.update_self .., ?_, rfl, rfl⟩
    exact parseEnvelope_seal.mpr ⟨rfl, hfits⟩
  · rw [hreceipt, hverified.receiptId]
    rfl

/-- **Sealing a bundle**: it is refused, or its artifacts are there under a
fresh blob identifier. -/
theorem sealed_meets {β : Type} {w s : World P} (hkept : Kept w s) {bundle : PrivateReceiptBundle}
    (hverified : Verified P bundle) {key : ReceiptKeyRecord}
    (hreceipt : key.receiptId = bundle.receipt.receiptId) (hkey : KeyReady w s key)
    {k : EncryptedReceiptEnvelope P → StorageProg P β} {I : World P → Prop}
    {Q : Except StorageError β → World P → Prop}
    (hI : ∀ b, Kept w b → b.area = s.area → I b)
    (herror : ∀ e b, Kept w b → b.area = s.area → Q (.error e) b)
    (hok : ∀ b, Kept w b → b.area = s.area → b.draws = s.draws + 1 →
      FitsEnvelope P bundle key.key s.draws →
      Opens b.vault (indexFromArtifacts bundle s.draws key.keyId) bundle →
      (k (sealBundle P bundle key.key s.draws)).Meets (Prog.Runs (exec P)) I Q b) :
    (do
      let envelope ← encryptBundle bundle key
      perform (.putReceiptArtifacts key envelope)
      k envelope : StorageProg P β).Meets (Prog.Runs (exec P)) I Q s := by
  have hdrawn : Kept w { s with draws := s.draws + 1 } := hkept.draw
  refine Prog.meets_bind.mpr (Prog.meets_perform_ok rfl (hI _ hdrawn rfl) ?_)
  rw [Prog.meets_ofExcept]
  rcases hencrypt : encryptPrivateReceiptBundle P bundle key.key s.draws with e | envelope
  · exact herror e _ hdrawn rfl
  · obtain ⟨-, hfits, rfl⟩ := encrypt_eq_ok.mp hencrypt
    have hready : KeyReady w { s with draws := s.draws + 1 } key :=
      hkey.imp_right fun ⟨hnone, hlower, hupper⟩ => ⟨hnone, hlower, hupper.trans (Nat.lt_succ_self _)⟩
    have hput : Kept w { s with
        draws := s.draws + 1, vault := s.vault.put key (sealBundle P bundle key.key s.draws) } :=
      hdrawn.put hready hkept.draws (Nat.lt_succ_self _)
    refine Prog.meets_perform_ok (exec_put hfits hreceipt) (hI _ hput rfl) ?_
    exact hok _ hput rfl rfl hfits (opens_put hverified hfits hreceipt hready)

/-! ### Staging a receipt -/

theorem entry_eq_some {state : SecureExtensionLocalState} {receiptId : ReceiptId}
    {entry : EncryptedReceiptIndexEntry} (h : state.entry receiptId = some entry) :
    entry ∈ state.receiptIndex ∧ entry.receiptId = receiptId := by
  unfold SecureExtensionLocalState.entry at h
  have hfound := List.find?_some h
  exact ⟨List.mem_of_find?_eq_some h, of_decide_eq_true hfound⟩

/-- The bundle that a save makes of a receipt: the stored one where the
receipt is unchanged, else one made from it. -/
def Secured (P : StoragePlatform) (bundles : Bundles) (operational : StoredAttemptReceipt)
    (bundle : PrivateReceiptBundle) : Prop :=
  bundles.get operational.receiptId = some bundle ∧ bundle.operational = operational ∨
    ∃ identity draw verifiedAt, createOrUpdatePrivateReceiptBundle P operational identity
      (bundles.get operational.receiptId) draw verifiedAt = .ok bundle

theorem Secured.operational {bundles : Bundles} {operational : StoredAttemptReceipt}
    {bundle : PrivateReceiptBundle} (h : Secured P bundles operational bundle) :
    bundle.operational = operational := by
  rcases h with ⟨-, hsame⟩ | ⟨_, _, _, hmade⟩
  · exact hsame
  · exact (createOrUpdate_ok hmade).2

/-- The entry that a save gives a receipt: the stored one where the receipt is
unchanged, else one of a fresh blob, under the receipt's key or a fresh one. -/
structure Staged (w : World P) (current : LoadedSecureExtensionState) (s : World P)
    (operational : StoredAttemptReceipt) (entry : EncryptedReceiptIndexEntry)
    (artifact : Option StagedArtifact) : Prop where
  opens : ∃ bundle, Opens s.vault entry bundle ∧ Secured P current.bundles operational bundle
  origin : artifact = none ∧ entry ∈ current.persistent.receiptIndex ∨
    artifact = some ⟨entry.blobId, entry.keyId,
      (current.persistent.entry operational.receiptId).isNone⟩ ∧
      w.draws ≤ entry.blobId ∧
      match current.persistent.entry operational.receiptId with
      | some previous => entry.keyId = previous.keyId
      | none => w.draws ≤ entry.keyId

theorem Staged.receiptId {w s : World P} {current : LoadedSecureExtensionState}
    {operational : StoredAttemptReceipt} {entry : EncryptedReceiptIndexEntry}
    {artifact : Option StagedArtifact} (h : Staged w current s operational entry artifact) :
    entry.receiptId = operational.receiptId := by
  obtain ⟨bundle, hopens, hsecured⟩ := h.opens
  rw [← hopens.receiptId, hsecured.operational]

theorem Staged.kept {w s s' : World P} {current : LoadedSecureExtensionState}
    {operational : StoredAttemptReceipt} {entry : EncryptedReceiptIndexEntry}
    {artifact : Option StagedArtifact} (h : Staged w current s operational entry artifact)
    (hfresh : s.Fresh) (hkept : Kept s s') : Staged w current s' operational entry artifact := by
  obtain ⟨bundle, hopens, hsecured⟩ := h.opens
  exact ⟨⟨bundle, hopens.kept hfresh hkept, hsecured⟩, h.origin⟩

theorem secureBundle_meets {β : Type} {w s : World P} (hkept : Kept w s)
    {operational : StoredAttemptReceipt} {identity : InstallationIdentityRecord}
    {existing : Option PrivateReceiptBundle} {k : PrivateReceiptBundle → StorageProg P β}
    {I : World P → Prop} {Q : Except StorageError β → World P → Prop}
    (hI : ∀ b, Kept w b → b.area = s.area → I b)
    (herror : ∀ e b, Kept w b → b.area = s.area → Q (.error e) b)
    (hok : ∀ bundle b draw verifiedAt, Kept w b → b.area = s.area →
      createOrUpdatePrivateReceiptBundle P operational identity existing draw verifiedAt =
        .ok bundle → (k bundle).Meets (Prog.Runs (exec P)) I Q b) :
    (secureBundle operational identity existing >>= k).Meets (Prog.Runs (exec P)) I Q s := by
  refine Prog.meets_bind.mpr (Prog.meets_perform_ok rfl (hI _ hkept.draw rfl) ?_)
  refine Prog.meets_perform_ok rfl (hI _ hkept.draw.draw rfl) ?_
  rw [Prog.meets_ofExcept]
  rcases hcreate : createOrUpdatePrivateReceiptBundle P operational identity existing s.draws
    (P.clock (s.draws + 1)) with e | bundle
  · exact herror e _ hkept.draw.draw rfl
  · exact hok bundle _ _ _ hkept.draw.draw rfl hcreate

theorem stageReceipt_meets {w : World P} (hfresh : w.Fresh)
    {current : LoadedSecureExtensionState}
    (hcurrent : Readable w.vault current.persistent current)
    (identity : InstallationIdentityRecord) (now : Timestamp)
    (operational : StoredAttemptReceipt) :
    (stageReceipt current identity now operational).Meets (Prog.Runs (exec P))
      (fun b => Kept w b ∧ b.area = w.area)
      (fun r b => ∀ entry artifact, r = .ok (entry, artifact) →
        Staged w current b operational entry artifact) w := by
  unfold stageReceipt
  dsimp only
  split
  · -- the receipt is unchanged
    rename_i unchanged hunchanged
    rw [Prog.meets_pure]
    rintro entry artifact ⟨⟩
    obtain ⟨hentry, hsame⟩ := Option.filter_eq_some_iff.mp hunchanged
    obtain ⟨hmem, hreceipt⟩ := entry_eq_some hentry
    obtain ⟨bundle, hget, hopens⟩ := hcurrent.opened.bundles.get hcurrent.valid.receiptIds hmem
    rw [hreceipt] at hget
    rw [hget, Option.any_some] at hsame
    exact ⟨⟨bundle, hopens, .inl ⟨hget, of_decide_eq_true hsame⟩⟩, .inl ⟨rfl, hmem⟩⟩
  · apply secureBundle_meets (Kept.refl hfresh) (fun b hb harea => ⟨hb, harea⟩)
    · rintro e b - - entry artifact ⟨⟩
    · intro bundle b draw verifiedAt hb harea hcreate
      obtain ⟨hverified, hoperational⟩ := createOrUpdate_ok hcreate
      have hbundle : bundle.receipt.receiptId = operational.receiptId := by
        rw [hverified.receiptId, hoperational]
      have hseal : ∀ key b', Kept w b' → b'.area = w.area → KeyReady w b' key →
          key.receiptId = operational.receiptId →
          (match current.persistent.entry operational.receiptId with
            | some previous => key.keyId = previous.keyId
            | none => w.draws ≤ key.keyId) →
          (do
            let envelope ← encryptBundle bundle key
            perform (.putReceiptArtifacts key envelope)
            let entry := indexFromArtifacts bundle envelope.authenticatedMetadata.blobId key.keyId
            pure (entry, some ⟨entry.blobId, entry.keyId,
              (current.persistent.entry operational.receiptId).isNone⟩) :
            StorageProg P (EncryptedReceiptIndexEntry × Option StagedArtifact)).Meets
            (Prog.Runs (exec P)) (fun b => Kept w b ∧ b.area = w.area)
            (fun r b => ∀ entry artifact, r = .ok (entry, artifact) →
              Staged w current b operational entry artifact) b' := by
        intro key b' hb' harea' hready hreceipt horigin
        apply sealed_meets hb' hverified (hreceipt.trans hbundle.symm) hready
        · exact fun c hc hc' => ⟨hc, hc'.trans harea'⟩
        · rintro e c - - entry artifact ⟨⟩
        · rintro c hc hc' - - hopens
          rw [Prog.meets_pure]
          rintro entry artifact ⟨⟩
          exact ⟨⟨bundle, hopens, .inr ⟨identity, draw, verifiedAt, hcreate⟩⟩,
            .inr ⟨rfl, hb'.draws, horigin⟩⟩
      rcases hprevious : current.persistent.entry operational.receiptId with - | previous
      · dsimp only
        refine Prog.meets_bind.mpr ?_
        refine Prog.meets_perform_ok rfl ⟨hb.draw, harea⟩ ?_
        rw [Prog.meets_pure]
        dsimp only
        rw [Prog.pure_bind', Option.filter_some, if_pos (decide_eq_true rfl)]
        rw [hprevious] at hseal
        exact hseal _ _ hb.draw harea
          (.inr ⟨(hb.fresh _ le_rfl).1, hb.draws, Nat.lt_succ_self _⟩) rfl hb.draws
      · obtain ⟨hmem, hreceipt⟩ := entry_eq_some hprevious
        obtain ⟨previousBundle, -, hopens⟩ :=
          hcurrent.opened.bundles.get hcurrent.valid.receiptIds hmem
        obtain ⟨key, envelope, hopens⟩ := hopens.kept hfresh hb
        refine Prog.meets_perform_ok rfl ⟨hb, harea⟩ ?_
        rw [hopens.getKey, Option.filter_some,
          if_pos (decide_eq_true (hopens.receiptId.trans hreceipt))]
        have hkeyId : key.keyId = previous.keyId := (congrArg (·.keyId) hopens.entry).symm
        rw [hprevious] at hseal
        exact hseal key b hb harea (.inl (hkeyId ▸ hopens.getKey))
          (hopens.receiptId.trans hreceipt) hkeyId

theorem stageReceipt_strict (current : LoadedSecureExtensionState)
    (identity : InstallationIdentityRecord) (now : Timestamp)
    (operational : StoredAttemptReceipt) :
    (stageReceipt current identity now operational :
      StorageProg P (EncryptedReceiptIndexEntry × Option StagedArtifact)).Strict := by
  have hseal : ∀ bundle key newReceipt, (do
      let envelope ← encryptBundle bundle key
      perform (.putReceiptArtifacts key envelope)
      let entry := indexFromArtifacts bundle envelope.authenticatedMetadata.blobId key.keyId
      pure (entry, some ⟨entry.blobId, entry.keyId, newReceipt⟩) :
      StorageProg P (EncryptedReceiptIndexEntry × Option StagedArtifact)).Strict :=
    fun _ _ _ => (encryptBundle_strict _ _).bind fun _ => (Prog.strict_perform _).bind fun _ =>
      Prog.strict_pure _
  unfold stageReceipt
  dsimp only
  split
  · exact Prog.strict_pure _
  · refine (secureBundle_strict _ _ _).bind fun bundle => ?_
    split
    · refine (Prog.strict_perform _).bind fun key => ?_
      split
      · exact Prog.strict_throw _
      · exact hseal _ _ _
    · refine (generateReceiptKey_strict _ _).bind fun key => ?_
      dsimp only [Prog.pure_bind']
      split
      · exact Prog.strict_throw _
      · exact hseal _ _ _

/-! ### Staging the receipts of a state -/

/-- What withdrawing the artifact deletes is fresh. -/
structure StagedArtifact.Own (w : World P) (artifact : StagedArtifact) : Prop where
  blob : w.draws ≤ artifact.blobId
  key : artifact.newReceipt = true → w.draws ≤ artifact.keyId

theorem StagedArtifact.Own.mono {w s : World P} (hdraws : w.draws ≤ s.draws)
    {artifact : StagedArtifact} (h : artifact.Own s) : artifact.Own w :=
  ⟨hdraws.trans h.blob, fun hnew => hdraws.trans (h.key hnew)⟩

theorem Staged.mono {w s b : World P} (hdraws : w.draws ≤ s.draws)
    {current : LoadedSecureExtensionState} {operational : StoredAttemptReceipt}
    {entry : EncryptedReceiptIndexEntry} {artifact : Option StagedArtifact}
    (h : Staged s current b operational entry artifact) :
    Staged w current b operational entry artifact := by
  refine ⟨h.opens, h.origin.imp_right fun ⟨hartifact, hblob, hkey⟩ =>
    ⟨hartifact, hdraws.trans hblob, ?_⟩⟩
  split at hkey
  · exact hkey
  · exact hdraws.trans hkey

theorem Staged.own {w s : World P} {current : LoadedSecureExtensionState}
    {operational : StoredAttemptReceipt} {entry : EncryptedReceiptIndexEntry}
    {artifact : StagedArtifact} (h : Staged w current s operational entry (some artifact)) :
    artifact.Own w := by
  rcases h.origin with ⟨hnone, -⟩ | ⟨hsome, hblob, hkey⟩
  · cases hnone
  · cases hsome
    refine ⟨hblob, fun hnew => ?_⟩
    rw [Option.isNone_iff_eq_none.mp hnew] at hkey
    exact hkey

/-- The entries of a list of staged receipts. -/
def stagedEntries (pairs : List (EncryptedReceiptIndexEntry × Option StagedArtifact)) :
    List EncryptedReceiptIndexEntry := pairs.map (·.1)

/-- The artifacts of a list of staged receipts. -/
def stagedArtifacts (pairs : List (EncryptedReceiptIndexEntry × Option StagedArtifact)) :
    List StagedArtifact := pairs.flatMap (·.2.toList)

/-- Every receipt has its entry. -/
def StagedAll (w : World P) (current : LoadedSecureExtensionState) (s : World P)
    (receipts : List StoredAttemptReceipt)
    (pairs : List (EncryptedReceiptIndexEntry × Option StagedArtifact)) : Prop :=
  List.Forall₂ (fun operational pair => Staged w current s operational pair.1 pair.2) receipts pairs

/-- What the loop of a save has done when it ends: all it wrote is its own,
and without an error every receipt has its entry. -/
structure StageLoop (w : World P) (current : LoadedSecureExtensionState)
    (nextIndex : List EncryptedReceiptIndexEntry) (staged : List StagedArtifact)
    (receipts : List StoredAttemptReceipt) (s : World P) (staged' : List StagedArtifact)
    (result : Except StorageError (List EncryptedReceiptIndexEntry)) : Prop where
  own : ∀ artifact ∈ staged', artifact ∈ staged ∨ artifact.Own w
  done : ∀ index, result = .ok index → ∃ pairs, index = nextIndex ++ stagedEntries pairs ∧
    staged' = staged ++ stagedArtifacts pairs ∧ StagedAll w current s receipts pairs

theorem StageLoop.stop (w : World P) (current : LoadedSecureExtensionState)
    (nextIndex : List EncryptedReceiptIndexEntry) (staged : List StagedArtifact)
    (receipts : List StoredAttemptReceipt) (s : World P) (e : StorageError) :
    StageLoop w current nextIndex staged receipts s staged (.error e) := by
  refine ⟨fun _ h => .inl h, ?_⟩
  rintro index ⟨⟩

/-- What is staged after one more receipt is still the loop's own. -/
theorem Staged.own_append {w b c : World P} (hdraws : w.draws ≤ b.draws)
    {current : LoadedSecureExtensionState} {operational : StoredAttemptReceipt}
    {entry : EncryptedReceiptIndexEntry} {artifact : Option StagedArtifact}
    (hentry : Staged w current c operational entry artifact) {staged staged' : List StagedArtifact}
    (h : ∀ a ∈ staged', a ∈ staged ++ artifact.toList ∨ a.Own b) :
    ∀ a ∈ staged', a ∈ staged ∨ a.Own w := by
  intro a ha
  rcases h a ha with hmem | hown
  · rcases List.mem_append.mp hmem with hmem | hmem
    · exact .inl hmem
    · rw [Option.mem_toList] at hmem
      cases hmem
      exact .inr hentry.own
  · exact .inr (hown.mono hdraws)

/-- One more receipt before the loop. -/
theorem StageLoop.cons {w b c : World P} (hfresh : b.Fresh) (hkept : Kept w b) (hkept' : Kept b c)
    {current : LoadedSecureExtensionState} {nextIndex : List EncryptedReceiptIndexEntry}
    {staged : List StagedArtifact} {operational : StoredAttemptReceipt}
    {entry : EncryptedReceiptIndexEntry} {artifact : Option StagedArtifact}
    (hentry : Staged w current b operational entry artifact)
    {receipts : List StoredAttemptReceipt} {staged' : List StagedArtifact}
    {result : Except StorageError (List EncryptedReceiptIndexEntry)}
    (h : StageLoop b current (nextIndex ++ [entry]) (staged ++ artifact.toList) receipts c staged'
      result) :
    StageLoop w current nextIndex staged (operational :: receipts) c staged' result := by
  refine ⟨hentry.own_append hkept.draws h.own, fun index hindex => ?_⟩
  obtain ⟨pairs, rfl, rfl, hall⟩ := h.done index hindex
  refine ⟨(entry, artifact) :: pairs, ?_, ?_, .cons (hentry.kept hfresh hkept') ?_⟩
  · rw [List.append_assoc]
    rfl
  · rw [List.append_assoc]
    rfl
  · exact hall.imp fun _ _ h => h.mono hkept.draws

/-- **Staging a list of receipts** loses nothing. -/
theorem stageReceipts_meets {w : World P} (hfresh : w.Fresh)
    {current : LoadedSecureExtensionState}
    (hcurrent : Readable w.vault current.persistent current)
    (identity : InstallationIdentityRecord) (now : Timestamp)
    (nextIndex : List EncryptedReceiptIndexEntry) (staged : List StagedArtifact)
    (receipts : List StoredAttemptReceipt) :
    (stageReceipts current identity now nextIndex staged receipts).Meets (Prog.Runs (exec P))
      (fun b => Kept w b ∧ b.area = w.area)
      (fun r b => ∃ staged' result, r = .ok (staged', result) ∧
        StageLoop w current nextIndex staged receipts b staged' result) w := by
  induction receipts generalizing nextIndex staged w with
  | nil =>
    refine ⟨staged, .ok nextIndex, rfl, fun _ h => .inl h, ?_⟩
    rintro index ⟨⟩
    exact ⟨[], (List.append_nil _).symm, (List.append_nil _).symm, .nil⟩
  | cons operational receipts ih =>
    refine Prog.meets_bind.mpr (Prog.meets_attempt.mpr ?_)
    refine ((stageReceipt_meets hfresh hcurrent identity now operational).and_inv
      ⟨Kept.refl hfresh, rfl⟩).imp ?_
    rintro r b ⟨⟨hb, harea⟩, hstaged⟩
    rcases r with e | ⟨entry, artifact⟩
    · exact ⟨staged, .error e, rfl, .stop ..⟩
    · have hentry := hstaged entry artifact rfl
      refine ((ih hb.fresh (hcurrent.kept hfresh hb) (nextIndex ++ [entry])
        (staged ++ artifact.toList)).and_inv ⟨Kept.refl hb.fresh, rfl⟩).mono
        (fun _ _ _ _ h => h) (fun c hc => ⟨hb.trans hc.1, hc.2.trans harea⟩) ?_
      rintro r c ⟨⟨hc, -⟩, staged', result, rfl, hloop⟩
      exact ⟨staged', result, rfl, hloop.cons hb.fresh hb hc hentry⟩

/-- A failure while staging ends the loop with what was staged before it. -/
theorem stageReceipts_fails {failable : StorageOp P → Bool} {e : StorageError} {w b s' : World P}
    (hfresh : w.Fresh) {current : LoadedSecureExtensionState}
    (hcurrent : Readable w.vault current.persistent current)
    {identity : InstallationIdentityRecord} {now : Timestamp}
    {nextIndex : List EncryptedReceiptIndexEntry} {staged : List StagedArtifact}
    {receipts : List StoredAttemptReceipt} {r}
    (h : Prog.Fails (exec P) failable e (stageReceipts current identity now nextIndex staged receipts)
      w b r s') :
    ∃ staged', r = .ok (staged', .error e) ∧ s' = b ∧
      ∀ artifact ∈ staged', artifact ∈ staged ∨ artifact.Own w := by
  induction receipts generalizing nextIndex staged w with
  | nil => exact absurd h Prog.not_fails_ret
  | cons operational receipts ih =>
    have hmeets := (stageReceipt_meets hfresh hcurrent identity now operational).and_inv
      ⟨Kept.refl hfresh, rfl⟩
    rcases Prog.fails_bind.mp h with ⟨a, s₁, hfails, hrun⟩ | ⟨e', hfails, -⟩ | ⟨a, s₁, hrun, hfails⟩
    · obtain ⟨r₀, hr₀, hfails⟩ := Prog.fails_attempt.mp hfails
      obtain ⟨rfl, rfl⟩ := (stageReceipt_strict current identity now operational).fails hfails
      cases hr₀
      cases hrun
      exact ⟨staged, rfl, rfl, fun _ h => .inl h⟩
    · obtain ⟨r₀, hr₀, -⟩ := Prog.fails_attempt.mp hfails
      cases hr₀
    · rw [Prog.run_attempt] at hrun
      have hresult := hmeets.result
      rcases hstage : (stageReceipt current identity now operational).run (exec P) w
        with ⟨e' | ⟨entry, artifact⟩, s₂⟩
      · rw [hstage] at hrun
        cases hrun
        exact absurd hfails Prog.not_fails_ret
      · rw [hstage] at hrun hresult
        cases hrun
        obtain ⟨⟨hb, -⟩, hstaged⟩ := hresult
        have hentry := hstaged entry artifact rfl
        obtain ⟨staged', rfl, rfl, hown⟩ := ih hb.fresh (hcurrent.kept hfresh hb) hfails
        exact ⟨staged', rfl, rfl, hentry.own_append hb.draws hown⟩

/-! ### Withdrawing what was staged -/

theorem Kept.deleteBlob {w s : World P} (h : Kept w s) {id : OpaqueId} (hid : w.draws ≤ id) :
    Kept w { s with vault := { s.vault with blobs := Function.update s.vault.blobs id none } } := by
  refine ⟨h.identity, h.draws, h.keys, fun i hi => ?_, fun i hi => ⟨(h.fresh i hi).1, ?_⟩⟩
  · show Function.update s.vault.blobs id none i = _
    rw [Function.update_of_ne (hi.trans_le hid).ne, h.blobs i hi]
  · show Function.update s.vault.blobs id none i = none
    rcases eq_or_ne i id with rfl | hne
    · exact Function.update_self ..
    · rw [Function.update_of_ne hne]
      exact (h.fresh i hi).2

theorem Kept.deleteKey {w s : World P} (h : Kept w s) {id : OpaqueId} (hid : w.draws ≤ id) :
    Kept w { s with vault := { s.vault with keys := Function.update s.vault.keys id none } } := by
  refine ⟨h.identity, h.draws, fun i hi => ?_, h.blobs, fun i hi => ⟨?_, (h.fresh i hi).2⟩⟩
  · show Function.update s.vault.keys id none i = _
    rw [Function.update_of_ne (hi.trans_le hid).ne, h.keys i hi]
  · show Function.update s.vault.keys id none i = none
    rcases eq_or_ne i id with rfl | hne
    · exact Function.update_self ..
    · rw [Function.update_of_ne hne]
      exact (h.fresh i hi).1

/-- What withdrawing artifacts leaves: all of them are gone, and what there was
before them is kept. -/
structure Withdrawn (staged : List StagedArtifact) (b s : World P) : Prop where
  area : s.area = b.area
  identity : s.vault.identity = b.vault.identity
  gone : ∀ artifact ∈ staged, s.vault.blobs artifact.blobId = none
  blobs : ∀ id, b.vault.blobs id = none → s.vault.blobs id = none
  kept : ∀ w, Kept w b → (∀ artifact ∈ staged, artifact.Own w) → Kept w s

/-- The world without an artifact. -/
def withdraw (artifact : StagedArtifact) (b : World P) : World P :=
  { b with vault := { b.vault with
    blobs := Function.update b.vault.blobs artifact.blobId none
    keys := if artifact.newReceipt then Function.update b.vault.keys artifact.keyId none
      else b.vault.keys } }

theorem rollback_cons_run (artifact : StagedArtifact) (staged : List StagedArtifact) (b : World P) :
    (rollback (artifact :: staged)).run (exec P) b =
      (rollback staged).run (exec P) (withdraw artifact b) := by
  rw [rollback, Prog.run_bind_ok (Prog.run_attempt _ _), withdraw]
  cases artifact.newReceipt with
  | false => rfl
  | true => rfl

theorem withdraw_withdrawn (artifact : StagedArtifact) (b : World P) :
    Withdrawn [artifact] b (withdraw artifact b) := by
  refine ⟨rfl, rfl, fun a ha => ?_, fun id hid => ?_, fun w hw hown => ?_⟩
  · rw [List.mem_singleton.mp ha]
    exact Function.update_self ..
  · show Function.update b.vault.blobs artifact.blobId none id = none
    rcases eq_or_ne id artifact.blobId with rfl | hne
    · exact Function.update_self ..
    · rw [Function.update_of_ne hne, hid]
  · have h := hown artifact (List.mem_singleton.mpr rfl)
    unfold withdraw
    rcases hnew : artifact.newReceipt with - | -
    · exact hw.deleteBlob h.blob
    · exact (hw.deleteBlob h.blob).deleteKey (h.key hnew)

/-- **Withdrawing** succeeds, and what was there before is kept. -/
theorem rollback_run (staged : List StagedArtifact) (b : World P) :
    ∃ s, (rollback staged).run (exec P) b = (.ok (), s) ∧ Withdrawn staged b s := by
  induction staged generalizing b with
  | nil =>
    refine ⟨b, rfl, rfl, rfl, ?_, fun _ h => h, fun _ h _ => h⟩
    rintro artifact ⟨⟩
  | cons artifact staged ih =>
    have hfirst := withdraw_withdrawn artifact b
    obtain ⟨s, hrest, hs⟩ := ih (withdraw artifact b)
    refine ⟨s, (rollback_cons_run artifact staged b).trans hrest, hs.area, hs.identity,
      fun a ha => ?_,
      fun id hid => hs.blobs id (hfirst.blobs id hid), fun w hw hown => ?_⟩
    · rcases List.mem_cons.mp ha with rfl | ha
      · exact hs.blobs _ (hfirst.gone _ (List.mem_singleton.mpr rfl))
      · exact hs.gone a ha
    · refine hs.kept w (hfirst.kept w hw fun a ha => ?_) fun a ha =>
        hown a (List.mem_cons_of_mem _ ha)
      rw [List.mem_singleton.mp ha]
      exact hown artifact List.mem_cons_self

/-! ### Deleting what the new index does not name -/

/-- The vaults agree on the identity and on what the entries name. -/
structure Agrees (entries : List EncryptedReceiptIndexEntry) (vault vault' : Vault P) : Prop where
  identity : vault'.identity = vault.identity
  keys : ∀ entry ∈ entries, vault'.keys entry.keyId = vault.keys entry.keyId
  blobs : ∀ entry ∈ entries, vault'.blobs entry.blobId = vault.blobs entry.blobId

theorem Agrees.refl (entries : List EncryptedReceiptIndexEntry) (vault : Vault P) :
    Agrees entries vault vault := ⟨rfl, fun _ _ => rfl, fun _ _ => rfl⟩

theorem Agrees.trans {entries : List EncryptedReceiptIndexEntry} {v v' v'' : Vault P}
    (h : Agrees entries v v') (h' : Agrees entries v' v'') : Agrees entries v v'' :=
  ⟨h'.identity.trans h.identity, fun e he => (h'.keys e he).trans (h.keys e he),
    fun e he => (h'.blobs e he).trans (h.blobs e he)⟩

theorem Agrees.symm {entries : List EncryptedReceiptIndexEntry} {v v' : Vault P}
    (h : Agrees entries v v') : Agrees entries v' v :=
  ⟨h.identity.symm, fun e he => (h.keys e he).symm, fun e he => (h.blobs e he).symm⟩

theorem Readable.agrees {vault vault' : Vault P} {state : SecureExtensionLocalState}
    {loaded : LoadedSecureExtensionState} (h : Readable vault state loaded)
    (hagrees : Agrees state.receiptIndex vault vault') : Readable vault' state loaded :=
  ⟨h.valid, fun m hm => by rw [hagrees.identity]; exact h.identity m hm,
    h.opened.congr hagrees.keys hagrees.blobs⟩

/-- Replaced blobs are not named by the new index. -/
def ReplacesOnly (nextIndex entries : List EncryptedReceiptIndexEntry) : Prop :=
  ∀ previous ∈ entries, ∀ replacement,
    (nextIndex.find? fun entry => entry.receiptId = previous.receiptId) = some replacement →
      replacement.blobId ≠ previous.blobId → ∀ entry ∈ nextIndex, entry.blobId ≠ previous.blobId

/-- Only what the entries do not name was deleted. -/
structure Pruned (entries : List EncryptedReceiptIndexEntry) (w s : World P) : Prop where
  area : s.area = w.area
  draws : s.draws = w.draws
  agrees : Agrees entries w.vault s.vault
  keys : ∀ id, w.vault.keys id = none → s.vault.keys id = none
  blobs : ∀ id, w.vault.blobs id = none → s.vault.blobs id = none

theorem Pruned.refl (entries : List EncryptedReceiptIndexEntry) (w : World P) :
    Pruned entries w w := ⟨rfl, rfl, .refl _ _, fun _ h => h, fun _ h => h⟩

theorem Pruned.trans {entries : List EncryptedReceiptIndexEntry} {w s t : World P}
    (h : Pruned entries w s) (h' : Pruned entries s t) : Pruned entries w t :=
  ⟨h'.area.trans h.area, h'.draws.trans h.draws, h.agrees.trans h'.agrees,
    fun id hid => h'.keys id (h.keys id hid), fun id hid => h'.blobs id (h.blobs id hid)⟩

theorem Pruned.fresh {entries : List EncryptedReceiptIndexEntry} {w s : World P}
    (h : Pruned entries w s) (hfresh : w.Fresh) : s.Fresh := by
  intro id hid
  rw [h.draws] at hid
  exact ⟨h.keys id (hfresh id hid).1, h.blobs id (hfresh id hid).2⟩

theorem deleteReceipt_pruned {entries : List EncryptedReceiptIndexEntry} {w : World P}
    (hopens : ∀ entry ∈ entries, ∃ bundle, Opens w.vault entry bundle) {receiptId : ReceiptId}
    (hnot : ∀ entry ∈ entries, entry.receiptId ≠ receiptId) :
    Pruned entries w { w with vault := w.vault.deleteReceipt receiptId } := by
  refine ⟨rfl, rfl, ⟨rfl, fun entry hentry => ?_, fun entry hentry => ?_⟩, fun id hid => ?_,
    fun id hid => ?_⟩
  · obtain ⟨bundle, hopen⟩ := hopens entry hentry
    obtain ⟨⟨key, hkey, hreceipt⟩, -⟩ := hopen.stored
    show (w.vault.keys entry.keyId).filter _ = w.vault.keys entry.keyId
    rw [hkey, Option.filter_some, if_pos]
    rw [hreceipt]
    exact decide_eq_true (hnot entry hentry)
  · obtain ⟨bundle, hopen⟩ := hopens entry hentry
    obtain ⟨-, blob, hblob, hreceipt⟩ := hopen.stored
    show (w.vault.blobs entry.blobId).filter _ = w.vault.blobs entry.blobId
    rw [hblob, Option.filter_some, if_pos]
    rw [hreceipt]
    exact decide_eq_true (hnot entry hentry)
  · show (w.vault.keys id).filter _ = none
    rw [hid]
    rfl
  · show (w.vault.blobs id).filter _ = none
    rw [hid]
    rfl

theorem deleteBlob_pruned {entries : List EncryptedReceiptIndexEntry} {w : World P}
    {blobId : OpaqueId} (hnot : ∀ entry ∈ entries, entry.blobId ≠ blobId) :
    Pruned entries w { w with vault := { w.vault with
      blobs := Function.update w.vault.blobs blobId none } } := by
  refine ⟨rfl, rfl, ⟨rfl, fun _ _ => rfl, fun entry hentry =>
    Function.update_of_ne (hnot entry hentry) _ _⟩, fun _ h => h, fun id hid => ?_⟩
  show Function.update w.vault.blobs blobId none id = none
  rcases eq_or_ne id blobId with rfl | hne
  · exact Function.update_self ..
  · rw [Function.update_of_ne hne, hid]

/-- **Deleting what was replaced** keeps what the new index names. -/
theorem deleteReplaced_meets {nextIndex entries : List EncryptedReceiptIndexEntry} {w : World P}
    (hopens : ∀ entry ∈ nextIndex, ∃ bundle, Opens w.vault entry bundle)
    (hreplaces : ReplacesOnly nextIndex entries) :
    (deleteReplaced nextIndex entries).Meets (Prog.Runs (exec P)) (Pruned nextIndex w)
      (fun r _ => r = .ok ()) w := by
  induction entries generalizing w with
  | nil => rfl
  | cons previous entries ih =>
    have hrest : ReplacesOnly nextIndex entries :=
      fun p hp => hreplaces p (List.mem_cons_of_mem _ hp)
    -- after the first deletion
    have hnext : ∀ s, Pruned nextIndex w s →
        (deleteReplaced nextIndex entries).Meets (Prog.Runs (exec P)) (Pruned nextIndex w)
          (fun r _ => r = .ok ()) s := by
      intro s hs
      refine (ih (fun entry hentry => ?_) hrest).mono (fun _ _ _ _ h => h)
        (fun c hc => hs.trans hc) fun _ _ h => h
      obtain ⟨bundle, hopen⟩ := hopens entry hentry
      exact ⟨bundle, hopen.congr (hs.agrees.keys entry hentry) (hs.agrees.blobs entry hentry)⟩
    unfold deleteReplaced
    split
    · rename_i hnone
      have hpruned := deleteReceipt_pruned hopens
        fun entry hentry => by
          have hmiss := List.find?_eq_none.mp hnone entry hentry
          rw [decide_eq_true_eq] at hmiss
          exact hmiss
      exact Prog.meets_perform_ok rfl hpruned (hnext _ hpruned)
    · rename_i replacement hsome
      split
      · rename_i hne
        have hpruned := deleteBlob_pruned (w := w)
          (hreplaces previous List.mem_cons_self replacement hsome hne)
        exact Prog.meets_perform_ok rfl hpruned (hnext _ hpruned)
      · exact hnext w (.refl _ _)

theorem deleteReplaced_strict (nextIndex entries : List EncryptedReceiptIndexEntry) :
    (deleteReplaced nextIndex entries : StorageProg P Unit).Strict := by
  induction entries with
  | nil => exact Prog.strict_pure _
  | cons previous entries ih =>
    unfold deleteReplaced
    split
    · exact (Prog.strict_perform _).bind fun _ => ih
    · split
      · exact (Prog.strict_perform _).bind fun _ => ih
      · exact ih

/-! ### The index that was staged -/

theorem StagedAll.mem {w s : World P} {current : LoadedSecureExtensionState}
    {receipts : List StoredAttemptReceipt}
    {pairs : List (EncryptedReceiptIndexEntry × Option StagedArtifact)}
    (h : StagedAll w current s receipts pairs) {pair} (hpair : pair ∈ pairs) :
    ∃ operational ∈ receipts, Staged w current s operational pair.1 pair.2 := by
  induction h with
  | nil => cases hpair
  | @cons operational _ receipts _ hfirst _ ih =>
    rcases List.mem_cons.mp hpair with rfl | hpair
    · exact ⟨operational, List.mem_cons_self, hfirst⟩
    · obtain ⟨operational, hmem, hstaged⟩ := ih hpair
      exact ⟨operational, List.mem_cons_of_mem _ hmem, hstaged⟩

theorem StagedAll.opens {w s : World P} {current : LoadedSecureExtensionState}
    {receipts : List StoredAttemptReceipt}
    {pairs : List (EncryptedReceiptIndexEntry × Option StagedArtifact)}
    (h : StagedAll w current s receipts pairs) :
    ∀ entry ∈ stagedEntries pairs, ∃ bundle, Opens s.vault entry bundle := by
  intro entry hentry
  obtain ⟨pair, hpair, rfl⟩ := List.mem_map.mp hentry
  obtain ⟨operational, -, hstaged⟩ := h.mem hpair
  obtain ⟨bundle, hopens, -⟩ := hstaged.opens
  exact ⟨bundle, hopens⟩

/-- An entry is a stored one or that of a staged artifact. -/
theorem StagedAll.old_or_new {w s : World P} {current : LoadedSecureExtensionState}
    {receipts : List StoredAttemptReceipt}
    {pairs : List (EncryptedReceiptIndexEntry × Option StagedArtifact)}
    (h : StagedAll w current s receipts pairs) :
    ∀ entry ∈ stagedEntries pairs, entry ∈ current.persistent.receiptIndex ∨
      ∃ artifact ∈ stagedArtifacts pairs, artifact.blobId = entry.blobId := by
  intro entry hentry
  obtain ⟨pair, hpair, rfl⟩ := List.mem_map.mp hentry
  obtain ⟨operational, -, hstaged⟩ := h.mem hpair
  rcases hstaged.origin with ⟨-, hmem⟩ | ⟨hartifact, -, -⟩
  · exact .inl hmem
  · exact .inr ⟨_, List.mem_flatMap.mpr ⟨pair, hpair, by rw [hartifact]; exact List.mem_cons_self⟩,
      rfl⟩

theorem StagedAll.named {w s : World P} {current : LoadedSecureExtensionState}
    {receipts : List StoredAttemptReceipt}
    {pairs : List (EncryptedReceiptIndexEntry × Option StagedArtifact)}
    (h : StagedAll w current s receipts pairs) :
    ∀ artifact ∈ stagedArtifacts pairs, ∃ entry ∈ stagedEntries pairs,
      entry.blobId = artifact.blobId := by
  intro artifact hartifact
  obtain ⟨pair, hpair, hmem⟩ := List.mem_flatMap.mp hartifact
  obtain ⟨operational, -, hstaged⟩ := h.mem hpair
  rw [Option.mem_toList] at hmem
  rcases hstaged.origin with ⟨hnone, -⟩ | ⟨hsome, -, -⟩
  · rw [hnone] at hmem
    cases hmem
  · rw [hsome] at hmem
    cases hmem
    exact ⟨pair.1, List.mem_map_of_mem hpair, rfl⟩

/-- **A save replaces blobs that its index does not name.** -/
theorem StagedAll.replacesOnly {w s : World P} (hfresh : w.Fresh)
    {current : LoadedSecureExtensionState}
    (hcurrent : Readable w.vault current.persistent current) {receipts : List StoredAttemptReceipt}
    {pairs : List (EncryptedReceiptIndexEntry × Option StagedArtifact)}
    (h : StagedAll w current s receipts pairs)
    (hnodup : ((stagedEntries pairs).map (·.receiptId)).Nodup) :
    ReplacesOnly (stagedEntries pairs) current.persistent.receiptIndex := by
  intro previous hprevious replacement hfound hne entry hentry heq
  have hprevious' : previous.blobId < w.draws := by
    obtain ⟨bundle, -, hopens⟩ := hcurrent.opened.bundles.exists_bundle hprevious
    exact (hopens.lt_draws hfresh).2
  obtain ⟨pair, hpair, rfl⟩ := List.mem_map.mp hentry
  obtain ⟨operational, -, hstaged⟩ := h.mem hpair
  rcases hstaged.origin with ⟨-, hold⟩ | ⟨-, hnew, -⟩
  · -- a stored entry of the blob is the replaced one, and so the replacement
    have hsame : pair.1 = previous := List.inj_on_of_nodup_map hcurrent.valid.blobIds hold hprevious heq
    have hfound' := List.find?_some hfound
    have hreceipt : replacement.receiptId = previous.receiptId := of_decide_eq_true hfound'
    have hreplacement : replacement = pair.1 :=
      List.inj_on_of_nodup_map hnodup (List.mem_of_find?_eq_some hfound) hentry (by rw [hsame]; exact hreceipt)
    rw [hreplacement] at hne
    exact hne heq
  · rw [heq] at hnew
    exact absurd hprevious' (not_lt.mpr hnew)

end SubmittedIt.Extension
