/-
SubmittedIt/RegistryChain.lean

Chains that carry the registry.

A block executes its transactions in order.  One that is sent to the registry
calls `anchorEvent` once, as its sender, or does nothing to it; one that is
sent elsewhere may call the registry any number of times on behalf of other
accounts, go on after such a call reverted, and log what it likes under other
addresses.  A transaction that reverts leaves nothing behind.

Main results: `executeBlocks_spec` (the registry of a chain is that of a run of
calls, and every transaction was executed in one of its states),
`executeTransaction_direct` (what a transaction sent to the registry logs) and
`Chain.logged_final` (what is logged stays).
-/
import SubmittedIt.RegistryInvariant

namespace SubmittedIt.ContractClient

open Transaction

/-! ### Transactions -/

/-- The arguments of a call of `anchorEvent`. -/
structure CallArguments where
  receiptId : Bytes32
  eventHash : Bytes32
  previousEventHash : Bytes32
  extensionKeyHash : Bytes32
  authorityKeyHash : Bytes32
  stage : ReceiptStage
  deriving DecidableEq

def CallArguments.call (args : CallArguments) (sender : Address) (timestamp : BitVec 256) :
    AnchorEventCall where
  receiptId := args.receiptId
  eventHash := args.eventHash
  previousEventHash := args.previousEventHash
  extensionKeyHash := args.extensionKeyHash
  authorityKeyHash := args.authorityKeyHash
  stage := args.stage
  sender := sender
  timestamp := timestamp

/-- A log of a transaction: an event of the registry, or a log of another
contract, which may look like one. -/
inductive ChainLog (registry : Address)
  | anchored (event : ReceiptEventAnchored)
  | foreign (address : Address) (looksLike : Option ReceiptEventAnchored)
      (other : address ≠ registry)
  deriving DecidableEq

/-- What a transaction to another contract does in turn. -/
inductive TransactionStep (registry : Address)
  | call (sender : Address) (args : CallArguments)
  | log (address : Address) (looksLike : Option ReceiptEventAnchored) (other : address ≠ registry)
  deriving DecidableEq

inductive TransactionBody (registry : Address)
  /-- Sent to the registry: a call of `anchorEvent`. -/
  | anchor (args : CallArguments)
  /-- Sent to the registry: any other call. -/
  | other (reverts : Bool)
  /-- Sent to another account, or creating one. -/
  | elsewhere (destination : Option Address) (outside : destination ≠ some registry)
      (reverts : Bool) (steps : List (TransactionStep registry))
  deriving DecidableEq

structure ChainTransaction (registry : Address) where
  hash : Bytes32
  sender : Address
  body : TransactionBody registry
  deriving DecidableEq

variable {registry : Address}

/-- `to`. -/
def ChainTransaction.destination (transaction : ChainTransaction registry) : Option Address :=
  match transaction.body with
  | .anchor _ => some registry
  | .other _ => some registry
  | .elsewhere destination .. => destination

/-- A transaction receipt. -/
structure TransactionReceipt (registry : Address) where
  success : Bool
  destination : Option Address
  transactionHash : Bytes32
  blockNumber : Nat
  blockHash : Bytes32
  logs : List (ChainLog registry)
  deriving DecidableEq

/-- A transaction of a chain, with its receipt. -/
structure MinedTransaction (registry : Address) where
  transaction : ChainTransaction registry
  receipt : TransactionReceipt registry
  deriving DecidableEq

structure ChainBlock (registry : Address) where
  timestamp : BitVec 256
  hash : Bytes32
  transactions : List (ChainTransaction registry)
  deriving DecidableEq

/-! ### Execution -/

/-- The steps of a transaction to another contract. -/
def executeSteps (timestamp : BitVec 256) :
    Registry → List (TransactionStep registry) → Registry × List (ChainLog registry)
  | s, [] => (s, [])
  | s, .call sender args :: rest =>
    match anchorEvent s (args.call sender timestamp) with
    | .ok s' =>
      let r := executeSteps timestamp s' rest
      (r.1, (s'.logs.drop s.logs.length).map .anchored ++ r.2)
    | .error _ => executeSteps timestamp s rest
  | s, .log address looksLike other :: rest =>
    let r := executeSteps timestamp s rest
    (r.1, .foreign address looksLike other :: r.2)

/-- A transaction: the registry after it, whether it succeeded, and its
logs. -/
def executeTransaction (timestamp : BitVec 256) (s : Registry)
    (transaction : ChainTransaction registry) : Registry × Bool × List (ChainLog registry) :=
  match transaction.body with
  | .anchor args =>
    match anchorEvent s (args.call transaction.sender timestamp) with
    | .ok s' => (s', true, (s'.logs.drop s.logs.length).map .anchored)
    | .error _ => (s, false, [])
  | .other reverts => (s, !reverts, [])
  | .elsewhere _ _ reverts steps =>
    if reverts then (s, false, [])
    else
      let r := executeSteps timestamp s steps
      (r.1, true, r.2)

/-- The receipt of a transaction, for its result. -/
def receiptOf (number : Nat) (block : ChainBlock registry)
    (transaction : ChainTransaction registry) (result : Bool × List (ChainLog registry)) :
    TransactionReceipt registry where
  success := result.1
  destination := transaction.destination
  transactionHash := transaction.hash
  blockNumber := number
  blockHash := block.hash
  logs := result.2

/-- The transactions of a block. -/
def executeTransactions (number : Nat) (block : ChainBlock registry) :
    Registry → List (ChainTransaction registry) → Registry × List (MinedTransaction registry)
  | s, [] => (s, [])
  | s, transaction :: rest =>
    let r := executeTransaction block.timestamp s transaction
    let r' := executeTransactions number block r.1 rest
    (r'.1, ⟨transaction, receiptOf number block transaction r.2⟩ :: r'.2)

/-- Blocks, the first of which has the number `number`. -/
def executeBlocks : Nat → Registry → List (ChainBlock registry) →
    Registry × List (MinedTransaction registry)
  | _, s, [] => (s, [])
  | number, s, block :: rest =>
    let r := executeTransactions number block s block.transactions
    let r' := executeBlocks (number + 1) r.1 rest
    (r'.1, r.2 ++ r'.2)

/-- A chain from the block that deployed the registry on. -/
structure Chain where
  chainId : Nat
  registry : Address
  bytecode : List UInt8
  deployedAt : Nat
  blocks : List (ChainBlock registry)
  chainId_safe : 0 < chainId ∧ chainId ≤ 2 ^ 53 - 1
  bytecode_ne_nil : bytecode ≠ []
  hashes_nodup : (blocks.flatMap fun block => block.transactions.map (·.hash)).Nodup

/-- The registry as it is at a block, with the transactions up to it. -/
def Chain.upTo (c : Chain) (head : Nat) : Registry × List (MinedTransaction c.registry) :=
  executeBlocks c.deployedAt Registry.empty (c.blocks.take (head + 1 - c.deployedAt))

/-- All transactions of a chain. -/
def Chain.mined (c : Chain) : List (MinedTransaction c.registry) :=
  (executeBlocks c.deployedAt Registry.empty c.blocks).2

/-- The registry at the end of a chain. -/
def Chain.final (c : Chain) : Registry := (executeBlocks c.deployedAt Registry.empty c.blocks).1

/-! ### Executions are runs -/

/-- The registry after some calls in a row. -/
def After (s s' : Registry) : Prop := ∃ calls, s' = runAll anchorEvent s calls

theorem After.refl (s : Registry) : After s s := ⟨[], rfl⟩

theorem After.trans {s s' s'' : Registry} (h : After s s') (h' : After s' s'') : After s s'' := by
  obtain ⟨calls, rfl⟩ := h
  obtain ⟨calls', rfl⟩ := h'
  exact ⟨calls ++ calls', (runAll_append s calls calls').symm⟩

theorem After.call {s s' : Registry} {call : AnchorEventCall} (h : anchorEvent s call = .ok s') :
    After s s' :=
  ⟨[call], (execute_ok h).symm⟩

theorem After.invariant {s s' : Registry} (h : After s s') (hs : s.Invariant) : s'.Invariant := by
  obtain ⟨calls, rfl⟩ := h
  exact runAll_preserves (fun _ _ _ hinv hok => hinv.step hok) hs calls

/-- What is logged stays logged. -/
theorem After.logs {s s' : Registry} (h : After s s') : s.logs <+: s'.logs := by
  obtain ⟨calls, rfl⟩ := h
  refine runAll_preserves (I := fun s' : Registry => s.logs <+: s'.logs) ?_ List.prefix_rfl calls
  intro t call t' ht hok
  obtain ⟨-, rfl⟩ := anchorEvent_eq_ok.mp hok
  exact ht.trans (List.prefix_append _ _)

/-- The logs of an accepted call. -/
theorem anchorEvent_logs {s s' : Registry} {call : AnchorEventCall}
    (h : anchorEvent s call = .ok s') :
    s'.logs.drop s.logs.length = [anchoredLog call call.anchoredAt (s.nextCount call)] := by
  obtain ⟨-, rfl⟩ := anchorEvent_eq_ok.mp h
  rw [append_logs, List.drop_left]

theorem executeSteps_spec (timestamp : BitVec 256) (steps : List (TransactionStep registry))
    (s : Registry) :
    After s (executeSteps timestamp s steps).1 ∧
      ∀ e, .anchored e ∈ (executeSteps timestamp s steps).2 →
        e ∈ (executeSteps timestamp s steps).1.logs := by
  induction steps generalizing s with
  | nil => exact ⟨.refl s, fun e he => absurd he List.not_mem_nil⟩
  | cons step rest ih =>
    cases step with
    | call sender args =>
      unfold executeSteps
      rcases hcall : anchorEvent s (args.call sender timestamp) with error | s'
      · exact ih s
      · obtain ⟨hafter, hlogs⟩ := ih s'
        refine ⟨(After.call hcall).trans hafter, ?_⟩
        intro e he
        rcases List.mem_append.mp he with he | he
        · obtain ⟨e', he', heq⟩ := List.mem_map.mp he
          cases heq
          exact hafter.logs.subset (List.mem_of_mem_drop he')
        · exact hlogs e he
    | log address looksLike other =>
      obtain ⟨hafter, hlogs⟩ := ih s
      refine ⟨hafter, ?_⟩
      intro e he
      rcases List.mem_cons.mp he with heq | he
      · cases heq
      · exact hlogs e he

theorem executeTransaction_spec (timestamp : BitVec 256) (s : Registry)
    (transaction : ChainTransaction registry) :
    After s (executeTransaction timestamp s transaction).1 ∧
      ∀ e, .anchored e ∈ (executeTransaction timestamp s transaction).2.2 →
        e ∈ (executeTransaction timestamp s transaction).1.logs := by
  unfold executeTransaction
  rcases transaction.body with args | reverts | ⟨destination, outside, reverts, steps⟩
  · dsimp only
    rcases hcall : anchorEvent s (args.call transaction.sender timestamp) with error | s'
    · exact ⟨.refl s, fun e he => absurd he List.not_mem_nil⟩
    · refine ⟨.call hcall, ?_⟩
      intro e he
      obtain ⟨e', he', heq⟩ := List.mem_map.mp he
      cases heq
      exact List.mem_of_mem_drop he'
  · exact ⟨.refl s, fun e he => absurd he List.not_mem_nil⟩
  · dsimp only
    split_ifs
    · exact ⟨.refl s, fun e he => absurd he List.not_mem_nil⟩
    · exact executeSteps_spec timestamp steps s

/-- **A transaction sent to the registry** that logs an event of the registry
logs nothing else, and its sender anchored the event at the block's time. -/
theorem executeTransaction_direct {timestamp : BitVec 256} {s : Registry}
    {transaction : ChainTransaction registry} (hdirect : transaction.destination = some registry)
    {e : ReceiptEventAnchored}
    (he : .anchored e ∈ (executeTransaction timestamp s transaction).2.2) :
    (executeTransaction timestamp s transaction).2 = (true, [.anchored e]) ∧
      e.anchoredBy = transaction.sender ∧ e.anchoredAt.toNat = timestamp.toNat ∧
      e.protocolVersion = PROTOCOL_VERSION := by
  obtain ⟨hash, sender, args | reverts | ⟨destination, outside, reverts, steps⟩⟩ := transaction
  · unfold executeTransaction at he ⊢
    dsimp only at he ⊢
    rcases hcall : anchorEvent s (args.call sender timestamp) with error | s'
    · rw [hcall] at he
      exact absurd he List.not_mem_nil
    · rw [hcall] at he
      dsimp only at he ⊢
      rw [anchorEvent_logs hcall] at he ⊢
      have htime := (anchorEvent_eq_ok.mp hcall).1.timestamp_lt
      simp only [List.map_cons, List.map_nil, List.mem_singleton, ChainLog.anchored.injEq] at he
      subst he
      exact ⟨rfl, rfl, UInt64.toNat_ofNat_of_lt' htime, rfl⟩
  · exact absurd he List.not_mem_nil
  · exact absurd hdirect outside

/-! ### The transactions of a chain -/

/-- Where the receipt of a transaction comes from. -/
structure MinedIn (s s' : Registry) (block : ChainBlock registry)
    (m : MinedTransaction registry) : Prop where
  listed : m.transaction ∈ block.transactions
  executed : ∃ t, After s t ∧
    m.receipt = receiptOf m.receipt.blockNumber block m.transaction
      (executeTransaction block.timestamp t m.transaction).2 ∧
    After (executeTransaction block.timestamp t m.transaction).1 s'

theorem executeTransactions_spec (number : Nat) (block : ChainBlock registry)
    (txs : List (ChainTransaction registry)) (s : Registry)
    (hblock : ∀ t ∈ txs, t ∈ block.transactions) :
    After s (executeTransactions number block s txs).1 ∧
      (executeTransactions number block s txs).2.map (·.transaction) = txs ∧
      ∀ m ∈ (executeTransactions number block s txs).2, m.receipt.blockNumber = number ∧
        MinedIn s (executeTransactions number block s txs).1 block m := by
  induction txs generalizing s with
  | nil => exact ⟨.refl s, rfl, fun m hm => absurd hm List.not_mem_nil⟩
  | cons transaction rest ih =>
    obtain ⟨hafter, -⟩ := executeTransaction_spec block.timestamp s transaction
    obtain ⟨hrest, hmap, hmined⟩ := ih (executeTransaction block.timestamp s transaction).1
      fun t ht => hblock t (List.mem_cons_of_mem _ ht)
    refine ⟨hafter.trans hrest, congrArg (transaction :: ·) hmap, ?_⟩
    intro m hm
    rcases List.mem_cons.mp hm with rfl | hm
    · exact ⟨rfl, hblock transaction List.mem_cons_self, s, .refl s, rfl, hrest⟩
    · obtain ⟨hnumber, hlisted, t, ht, hreceipt, hlast⟩ := hmined m hm
      exact ⟨hnumber, hlisted, t, hafter.trans ht, hreceipt, hlast⟩

/-- **The registry of a chain is that of a run**, and every transaction was
executed in one of its states. -/
theorem executeBlocks_spec (blocks : List (ChainBlock registry)) (number : Nat) (s : Registry) :
    After s (executeBlocks number s blocks).1 ∧
      (executeBlocks number s blocks).2.map (·.transaction) =
        blocks.flatMap (·.transactions) ∧
      ∀ m ∈ (executeBlocks number s blocks).2,
        (number ≤ m.receipt.blockNumber ∧ m.receipt.blockNumber < number + blocks.length) ∧
        ∃ block ∈ blocks, MinedIn s (executeBlocks number s blocks).1 block m := by
  induction blocks generalizing number s with
  | nil => exact ⟨.refl s, rfl, fun m hm => absurd hm List.not_mem_nil⟩
  | cons block rest ih =>
    obtain ⟨hfirst, hmap, hmined⟩ := executeTransactions_spec number block block.transactions s
      fun t ht => ht
    obtain ⟨hrest, hmap', hmined'⟩ := ih (number + 1)
      (executeTransactions number block s block.transactions).1
    refine ⟨hfirst.trans hrest, ?_, ?_⟩
    · show List.map _ (_ ++ _) = block.transactions ++ rest.flatMap (·.transactions)
      rw [List.map_append, hmap, hmap']
    · intro m hm
      rcases List.mem_append.mp hm with hm | hm
      · obtain ⟨hnumber, hlisted, t, ht, hreceipt, hlast⟩ := hmined m hm
        refine ⟨⟨hnumber.ge, ?_⟩, block, List.mem_cons_self, hlisted, t, ht, hreceipt,
          hlast.trans hrest⟩
        rw [hnumber, List.length_cons]
        omega
      · obtain ⟨⟨hlow, hhigh⟩, b, hb, hlisted, t, ht, hreceipt, hlast⟩ := hmined' m hm
        refine ⟨⟨by omega, ?_⟩, b, List.mem_cons_of_mem _ hb, hlisted, t, hfirst.trans ht,
          hreceipt, hlast⟩
        rw [List.length_cons]
        omega

/-- Blocks that follow others. -/
theorem executeBlocks_append (blocks blocks' : List (ChainBlock registry)) (number : Nat)
    (s : Registry) :
    executeBlocks number s (blocks ++ blocks') =
      ((executeBlocks (number + blocks.length) (executeBlocks number s blocks).1 blocks').1,
        (executeBlocks number s blocks).2 ++
          (executeBlocks (number + blocks.length) (executeBlocks number s blocks).1 blocks').2) := by
  induction blocks generalizing number s with
  | nil => rfl
  | cons block rest ih =>
    show executeBlocks number s (block :: (rest ++ blocks')) = _
    simp only [executeBlocks, ih, List.length_cons, List.append_assoc]
    rw [show number + 1 + rest.length = number + (rest.length + 1) by omega]

namespace Chain

variable {c : Chain} {m : MinedTransaction c.registry} {head : Nat}

theorem executeBlocks_upTo (c : Chain) (head : Nat) : ∃ blocks',
    c.mined = (c.upTo head).2 ++ (executeBlocks (c.deployedAt +
      (c.blocks.take (head + 1 - c.deployedAt)).length) (c.upTo head).1 blocks').2 ∧
    After (c.upTo head).1 c.final := by
  have hsplit := List.take_append_drop (head + 1 - c.deployedAt) c.blocks
  have happend := executeBlocks_append (c.blocks.take (head + 1 - c.deployedAt))
    (c.blocks.drop (head + 1 - c.deployedAt)) c.deployedAt Registry.empty
  rw [hsplit] at happend
  refine ⟨c.blocks.drop (head + 1 - c.deployedAt), ?_, ?_⟩
  · exact congrArg Prod.snd happend
  · rw [show c.final = _ from congrArg Prod.fst happend]
    exact (executeBlocks_spec _ _ _).1

/-- A transaction that is known at a block is one of the chain. -/
theorem mined_of_upTo (h : m ∈ (c.upTo head).2) : m ∈ c.mined := by
  obtain ⟨blocks', hmined, -⟩ := executeBlocks_upTo c head
  rw [hmined]
  exact List.mem_append_left _ h

/-- A transaction is known from its block on. -/
theorem mem_upTo (h : m ∈ c.mined) (hhead : m.receipt.blockNumber ≤ head) :
    m ∈ (c.upTo head).2 := by
  have hrange := ((executeBlocks_spec c.blocks c.deployedAt Registry.empty).2.2 m h).1
  obtain ⟨blocks', hmined, -⟩ := executeBlocks_upTo c head
  rw [hmined] at h
  rcases List.mem_append.mp h with h | h
  · exact h
  · have hlater := ((executeBlocks_spec blocks' _ (c.upTo head).1).2.2 m h).1.1
    rw [List.length_take] at hlater
    omega

theorem upTo_invariant (c : Chain) (head : Nat) : (c.upTo head).1.Invariant :=
  (executeBlocks_spec _ _ _).1.invariant invariant_empty

/-- **What a transaction logged is in the registry** from its block on. -/
theorem logged_upTo (h : m ∈ (c.upTo head).2) {e : ReceiptEventAnchored}
    (he : .anchored e ∈ m.receipt.logs) : e ∈ (c.upTo head).1.logs := by
  obtain ⟨-, block, -, -, t, -, hreceipt, hlast⟩ := (executeBlocks_spec _ _ _).2.2 m h
  rw [hreceipt] at he
  exact hlast.logs.subset ((executeTransaction_spec _ _ _).2 e he)

theorem logged_final (h : m ∈ c.mined) {e : ReceiptEventAnchored}
    (he : .anchored e ∈ m.receipt.logs) : e ∈ c.final.logs := by
  obtain ⟨-, block, -, -, t, -, hreceipt, hlast⟩ := (executeBlocks_spec _ _ _).2.2 m h
  rw [hreceipt] at he
  exact hlast.logs.subset ((executeTransaction_spec _ _ _).2 e he)

/-- A transaction's hash is its own. -/
theorem hashes (c : Chain) : (c.mined.map (·.transaction.hash)).Nodup := by
  have hmap := (executeBlocks_spec c.blocks c.deployedAt Registry.empty).2.1
  have hhashes : c.mined.map (·.transaction.hash) =
      c.blocks.flatMap fun block => block.transactions.map (·.hash) := by
    rw [← List.map_flatMap, ← hmap, List.map_map]
    rfl
  rw [hhashes]
  exact c.hashes_nodup

/-- The transaction of a hash, as it is known at a block. -/
def find (c : Chain) (head : Nat) (hash : Bytes32) : Option (MinedTransaction c.registry) :=
  (c.upTo head).2.find? fun m => m.transaction.hash = hash

theorem find_eq_some {hash : Bytes32} (h : c.find head hash = some m) :
    m ∈ (c.upTo head).2 ∧ m.transaction.hash = hash :=
  ⟨List.mem_of_find?_eq_some h, by simpa using List.find?_some h⟩

theorem find_of_mem (h : m ∈ (c.upTo head).2) : c.find head m.transaction.hash = some m := by
  have hsome : (c.find head m.transaction.hash).isSome = true := by
    rw [find, List.find?_isSome]
    exact ⟨m, h, by simp⟩
  obtain ⟨m', hfind⟩ := Option.isSome_iff_exists.mp hsome
  obtain ⟨hm', hhash⟩ := find_eq_some hfind
  rw [hfind, List.inj_on_of_nodup_map c.hashes (mined_of_upTo hm') (mined_of_upTo h) hhash]

end Chain

end SubmittedIt.ContractClient
