/-
SubmittedIt/AnchorDiscovery.lean

Finding an anchor on the chain (packages/contract-client/src/verify.ts).

`findSubmissionReceiptAnchorTransaction` asks a node for the logs of one event of
one receipt.  `honestEvents` is a node that answers from a chain, as it is at some
block, or does not answer.

Main results: `meets_find` (what its errors never say), `executeBlocks_logs` (the
registry's logs are those of the transactions, in order), `Chain.anchored_unique`
(one transaction logs an event) and `find_honest`.
-/
import SubmittedIt.AnchorVerification
import SubmittedIt.ProgLogic

namespace SubmittedIt.ContractClient

open Transaction Linked ReceiptCore

/-! ### Requests -/

/-- `toBlock`. -/
inductive ToBlock
  | tag (blockTag : BlockTag)
  | number (block : Nat)
  deriving DecidableEq

/-- A log that `getContractEvents` returns, as far as it is read. -/
structure DiscoveredLog where
  transactionHash : Option Bytes32
  deriving DecidableEq

/-- What is asked of a node. -/
inductive DiscoveryRequest
  | getChainId
  | getContractEvents (address : AddressText) (receiptId eventHash : Bytes32) (fromBlock : Nat)
      (toBlock : ToBlock)

@[reducible] def DiscoveryRequest.Result : DiscoveryRequest → Type
  | getChainId => Nat
  | getContractEvents .. => List DiscoveredLog

/-- `AnchorDiscoveryExpectation`. -/
structure AnchorDiscoveryExpectation where
  chainId : Int
  contractAddress : AddressText
  eventHash : Bytes32Text
  fromBlock : Nat
  receiptId : Bytes32Text
  toBlock : ToBlock
  deriving DecidableEq

abbrev DiscoveryProg := Prog DiscoveryRequest DiscoveryRequest.Result AnchorVerificationError

/-- One request to the node. -/
def askEvents (request : DiscoveryRequest) : DiscoveryProg request.Result := .perform request

/-- The one transaction of the logs. -/
def transactionOf (logs : List DiscoveredLog) :
    Except AnchorVerificationError (Option Bytes32) :=
  let ambiguous :=
    failure .eventLogMismatch "Anchor discovery returned ambiguous transaction evidence."
  if logs = [] then .ok none
  else if logs.any fun log => log.transactionHash = none then .error ambiguous
  else
    match (logs.filterMap (·.transactionHash)).dedup with
    | [hash] => .ok (some hash)
    | _ => .error ambiguous

/-- `findSubmissionReceiptAnchorTransaction`. -/
def findSubmissionReceiptAnchorTransaction (checksum : Address → BitVec 40)
    (expected : AnchorDiscoveryExpectation) : DiscoveryProg (Option Bytes32) := do
  let chainId : Nat ← askEvents .getChainId
  if (chainId : Int) ≠ expected.chainId then
    .throw (failure .wrongNetwork ("Expected chain " ++ toString expected.chainId ++
      ", received " ++ toString chainId ++ ".") true)
  else
    .ofExcept (revertIf (isAddress checksum expected.contractAddress = false)
      (failure .contractMismatch "The configured registry address is invalid."))
    let receiptId ← .ofExcept (assertBytes32 expected.receiptId "receiptId")
    let eventHash ← .ofExcept (assertBytes32 expected.eventHash "eventHash")
    let logs : List DiscoveredLog ← askEvents
      (.getContractEvents expected.contractAddress receiptId eventHash expected.fromBlock
        expected.toBlock)
    .ofExcept (transactionOf logs)

/-! ### Errors -/

/-- The error says that a transaction did not succeed. -/
def AnchorVerificationError.failed : AnchorVerificationError → Bool
  | .verification .transactionFailed .. => true
  | _ => false

/-- What is not such an error. -/
def Unfailed {α : Type} (r : Except AnchorVerificationError α) : Prop :=
  ∀ e, r = .error e → e.failed = false

theorem unfailed_error {α : Type} {e : AnchorVerificationError} (h : e.failed = false) :
    Unfailed (.error e : Except AnchorVerificationError α) := by
  rintro _ ⟨⟩
  exact h

theorem unfailed_ok {α : Type} (a : α) : Unfailed (.ok a : Except AnchorVerificationError α) := by
  rintro _ ⟨⟩

theorem unfailed_assertBytes32 (value : Bytes32Text) (label : String) :
    Unfailed (assertBytes32 value label) := by
  cases value with
  | canonical value => exact unfailed_ok value
  | other text => exact unfailed_error rfl

theorem unfailed_transactionOf (logs : List DiscoveredLog) : Unfailed (transactionOf logs) := by
  unfold transactionOf
  dsimp only
  split_ifs
  · exact unfailed_ok none
  · exact unfailed_error rfl
  · split
    · exact unfailed_ok _
    · exact unfailed_error rfl

/-- **A discovery does not say that a transaction did not succeed**, as long as
the node does not. -/
theorem meets_find {checksum : Address → BitVec 40} {σ : Type} (s : σ)
    (expected : AnchorDiscoveryExpectation) :
    (findSubmissionReceiptAnchorTransaction checksum expected).Meets
      (fun _ _ r _ => Unfailed r) (fun _ => True) (fun r _ => Unfailed r) s := by
  have hnode (o : DiscoveryRequest) {Q : Except AnchorVerificationError o.Result → σ → Prop}
      (hQ : ∀ r s, Unfailed r → Q r s) : (askEvents o).Meets
        (fun _ _ r _ => Unfailed r) (fun _ => True) Q s :=
    fun r s' hr => ⟨trivial, hQ r s' hr⟩
  have hcheck {α β : Type} {r : Except AnchorVerificationError α} {f : α → DiscoveryProg β} {s : σ}
      (hr : Unfailed r)
      (hf : ∀ a, (f a).Meets (fun _ _ r _ => Unfailed r) (fun _ => True) (fun r _ => Unfailed r) s) :
      ((.ofExcept r : DiscoveryProg α) >>= f).Meets (fun _ _ r _ => Unfailed r) (fun _ => True)
        (fun r _ => Unfailed r) s := by
    rcases r with e | a
    · exact unfailed_error (hr e rfl)
    · exact hf a
  rw [findSubmissionReceiptAnchorTransaction, Prog.meets_bind]
  refine hnode .getChainId fun r s hr => ?_
  rcases r with e | chainId
  · exact unfailed_error (hr e rfl)
  dsimp only
  split_ifs
  · exact unfailed_error rfl
  refine hcheck ?_ fun _ => hcheck (unfailed_assertBytes32 _ _) fun receiptId =>
    hcheck (unfailed_assertBytes32 _ _) fun eventHash => ?_
  · by_cases haddress : isAddress checksum expected.contractAddress = false
    · rw [revertIf, if_pos haddress]
      exact unfailed_error rfl
    · rw [revertIf, if_neg haddress]
      exact unfailed_ok ()
  · rw [Prog.meets_bind]
    refine hnode _ fun r s hr => ?_
    rcases r with e | logs
    · exact unfailed_error (hr e rfl)
    · exact unfailed_transactionOf logs

/-! ### An honest node -/

/-- Whether a log is of the event, under the address. -/
def RpcLog.isOf (log : RpcLog) (address : Address) (receiptId eventHash : Bytes32) : Bool :=
  log.address = address &&
    log.decoded.any fun args => args.receiptId = receiptId && args.eventHash = eventHash

/-- The last block of a range, for a node at a block. -/
def ToBlock.last (head : Nat) : ToBlock → Nat
  | tag _ => head
  | number block => min head block

/-- A transaction is in a range of blocks. -/
def MinedTransaction.inRange {registry : Address} (m : MinedTransaction registry)
    (fromBlock last : Nat) : Bool :=
  fromBlock ≤ m.receipt.blockNumber && m.receipt.blockNumber ≤ last

/-- The logs of an event that a node at the block `head` reports. -/
def Chain.eventLogs (c : Chain) (head : Nat) (address : Address) (receiptId eventHash : Bytes32)
    (fromBlock : Nat) (toBlock : ToBlock) : List DiscoveredLog :=
  ((c.upTo head).2.filter (·.inRange fromBlock (toBlock.last head))).flatMap fun m =>
    (m.receipt.report.logs.filter (·.isOf address receiptId eventHash)).map fun _ =>
      ⟨some m.transaction.hash⟩

/-- A node that reports logs from a chain as it is at the block `head`, if at all. -/
def honestEvents (c : Chain) : (o : DiscoveryRequest) → Option Nat → Unit →
    Except AnchorVerificationError o.Result × Unit
  | _, none, u => (.error .rpc, u)
  | .getChainId, some _, u => (.ok c.chainId, u)
  | .getContractEvents (.hex address _) receiptId eventHash fromBlock toBlock, some head, u =>
    (.ok (c.eventLogs head address receiptId eventHash fromBlock toBlock), u)
  | .getContractEvents (.other _) .., some _, u => (.error .rpc, u)

/-! ### The logs of the registry -/

section logs

variable {registry : Address}

/-- The events of the registry among the logs of a transaction. -/
def registryEvents (logs : List (ChainLog registry)) : List ReceiptEventAnchored :=
  logs.filterMap fun
    | .anchored event => some event
    | .foreign .. => none

theorem registryEvents_append (logs logs' : List (ChainLog registry)) :
    registryEvents (logs ++ logs') = registryEvents logs ++ registryEvents logs' :=
  List.filterMap_append

theorem registryEvents_anchored (events : List ReceiptEventAnchored) :
    registryEvents (events.map .anchored : List (ChainLog registry)) = events := by
  rw [registryEvents, List.filterMap_map]
  exact List.filterMap_some

theorem mem_registryEvents {logs : List (ChainLog registry)} {e : ReceiptEventAnchored} :
    e ∈ registryEvents logs ↔ .anchored e ∈ logs := by
  rw [registryEvents, List.mem_filterMap]
  constructor
  · rintro ⟨log, hlog, hevent⟩
    cases log with
    | anchored event =>
      obtain rfl := Option.some.inj hevent
      exact hlog
    | «foreign» => cases hevent
  · intro h
    exact ⟨_, h, rfl⟩

/-- What a call of the registry logs comes after what it logged before. -/
theorem logs_drop {s s' : Registry} (h : After s s') :
    s'.logs = s.logs ++ s'.logs.drop s.logs.length :=
  (List.prefix_iff_eq_append.mp h.logs).symm

theorem executeSteps_logs (timestamp : BitVec 256) (steps : List (TransactionStep registry))
    (s : Registry) :
    (executeSteps timestamp s steps).1.logs =
      s.logs ++ registryEvents (executeSteps timestamp s steps).2 := by
  induction steps generalizing s with
  | nil => exact (List.append_nil _).symm
  | cons step rest ih =>
    cases step with
    | call sender args =>
      rw [executeSteps]
      rcases hcall : anchorEvent s (args.call sender timestamp) with error | s'
      · exact ih s
      · show (executeSteps timestamp s' rest).1.logs = s.logs ++ registryEvents (_ ++ _)
        rw [ih s', registryEvents_append, registryEvents_anchored, ← List.append_assoc,
          ← logs_drop (.call hcall)]
    | log address looksLike other => exact ih s

theorem executeTransaction_logs (timestamp : BitVec 256) (s : Registry)
    (transaction : ChainTransaction registry) :
    (executeTransaction timestamp s transaction).1.logs =
      s.logs ++ registryEvents (executeTransaction timestamp s transaction).2.2 := by
  rw [executeTransaction]
  cases transaction.body with
  | anchor args =>
    dsimp only
    rcases hcall : anchorEvent s (args.call transaction.sender timestamp) with error | s'
    · exact (List.append_nil _).symm
    · show s'.logs = s.logs ++ registryEvents (_ : List (ChainLog registry))
      rw [registryEvents_anchored]
      exact logs_drop (.call hcall)
  | other reverts => exact (List.append_nil _).symm
  | elsewhere destination outside reverts steps =>
    cases reverts with
    | true => exact (List.append_nil _).symm
    | false => exact executeSteps_logs timestamp steps s

theorem executeTransactions_logs (number : Nat) (block : ChainBlock registry)
    (txs : List (ChainTransaction registry)) (s : Registry) :
    (executeTransactions number block s txs).1.logs = s.logs ++
      (executeTransactions number block s txs).2.flatMap
        fun m => registryEvents m.receipt.logs := by
  induction txs generalizing s with
  | nil => exact (List.append_nil _).symm
  | cons transaction rest ih =>
    rw [executeTransactions, List.flatMap_cons, ← List.append_assoc]
    show (executeTransactions number block _ rest).1.logs = _
    rw [ih, executeTransaction_logs]
    rfl

/-- **The registry's logs are those of the transactions**, in order. -/
theorem executeBlocks_logs (blocks : List (ChainBlock registry)) (number : Nat) (s : Registry) :
    (executeBlocks number s blocks).1.logs = s.logs ++
      (executeBlocks number s blocks).2.flatMap fun m => registryEvents m.receipt.logs := by
  induction blocks generalizing number s with
  | nil => exact (List.append_nil _).symm
  | cons block rest ih =>
    rw [executeBlocks, List.flatMap_append, ← List.append_assoc]
    show (executeBlocks (number + 1) _ rest).1.logs = _
    rw [ih, executeTransactions_logs]

end logs

namespace Chain

variable {c : Chain} {m m' : MinedTransaction c.registry} {e e' : ReceiptEventAnchored}

/-- **One transaction logs an event**, and logs it once. -/
theorem anchored_unique (hm : m ∈ c.mined) (hm' : m' ∈ c.mined)
    (he : .anchored e ∈ m.receipt.logs) (he' : .anchored e' ∈ m'.receipt.logs)
    (hsame : e.eventHash = e'.eventHash) : m = m' ∧ e = e' := by
  have hlogs : c.final.logs = c.mined.flatMap fun m => registryEvents m.receipt.logs :=
    executeBlocks_logs c.blocks c.deployedAt Registry.empty
  have hinvariant : c.final.Invariant := (executeBlocks_spec _ _ _).1.invariant invariant_empty
  have hnodup := hinvariant.nodup
  have hevent : e = e' := by
    apply List.inj_on_of_nodup_map hnodup _ _ hsame
    · exact logged_final hm he
    · exact logged_final hm' he'
  refine ⟨?_, hevent⟩
  have hapart := (List.nodup_flatMap.mp (hlogs ▸ hnodup.of_map)).2
  by_contra hne
  have hsymm : Std.Symm (Function.onFun List.Disjoint fun m : MinedTransaction c.registry =>
      registryEvents m.receipt.logs) := ⟨fun _ _ h => h.symm⟩
  have hdisjoint := hapart.forall hm hm' hne
  exact hdisjoint (mem_registryEvents.mpr he) (mem_registryEvents.mpr (hevent ▸ he'))

end Chain

/-- The count of an event is one that leads to its stage. -/
theorem eventCount_mem {s : Registry} (h : s.Invariant) {e : ReceiptEventAnchored}
    (he : e ∈ s.logs) : e.eventCount.toNat ∈ stageCounts e.stage := by
  have hlog := h.receipts e.receiptId
  have hmem : e ∈ s.eventsOf e.receiptId := List.mem_filter.mpr ⟨he, decide_eq_true rfl⟩
  obtain ⟨before, after, hsplit⟩ := List.append_of_mem hmem
  have hcount : e.eventCount.toNat = before.length + 1 := by
    have hget := congrArg (·[before.length]?) hlog.counts
    rw [hsplit] at hget
    simpa [Nat.add_comm] using hget
  have hstaged : Follows EntersStage (·.stage) .none (before ++ [e]) := by
    have hall := hlog.staged
    rw [hsplit, List.append_cons, follows_append] at hall
    exact hall.1
  have hlength := length_mem_stageCounts hstaged (n := 0) List.mem_cons_self
  rwa [tip_concat, Nat.zero_add, List.length_append, List.length_singleton, ← hcount] at hlength

/-! ### Discovery -/

section discovery

variable {checksum : Address → BitVec 40} {c : Chain}
  {env : Nat → (o : DiscoveryRequest) → Option Nat}

/-- Logs of one transaction. -/
theorem transactionOf_eq {logs : List DiscoveredLog} {hash : Bytes32} (hne : logs ≠ [])
    (h : ∀ log ∈ logs, log.transactionHash = some hash) : transactionOf logs = .ok (some hash) := by
  have hall : logs.filterMap (·.transactionHash) = List.replicate logs.length hash := by
    induction logs with
    | nil => exact absurd rfl hne
    | cons log rest ih =>
      rw [List.filterMap_cons_some (h log List.mem_cons_self), List.length_cons,
        List.replicate_succ]
      rcases rest with - | ⟨next, rest⟩
      · rfl
      · rw [ih (List.cons_ne_nil _ _) fun other hmem => h other (List.mem_cons_of_mem _ hmem)]
  have hknown : (logs.any fun log => log.transactionHash = none) = false := by
    rw [List.any_eq_false]
    intro log hmem
    rw [h log hmem]
    exact Bool.false_ne_true
  rw [transactionOf, if_neg hne, hknown, if_neg Bool.false_ne_true, hall,
    List.replicate_dedup (List.length_pos_iff.mpr hne).ne']

/-- A transaction of the range logged the event. -/
def Chain.Logged (c : Chain) (m : MinedTransaction c.registry) (e : ReceiptEventAnchored)
    (fromBlock last : Nat) : Prop :=
  m ∈ c.mined ∧ .anchored e ∈ m.receipt.logs ∧ fromBlock ≤ m.receipt.blockNumber ∧
    m.receipt.blockNumber ≤ last

/-- What an honest node reports of an event of the registry. -/
theorem mem_eventLogs {head fromBlock : Nat} {toBlock : ToBlock} {receiptId eventHash : Bytes32}
    {log : DiscoveredLog} :
    log ∈ c.eventLogs head c.registry receiptId eventHash fromBlock toBlock ↔
      ∃ m e, c.Logged m e fromBlock (toBlock.last head) ∧ e.receiptId = receiptId ∧
        e.eventHash = eventHash ∧ log = ⟨some m.transaction.hash⟩ := by
  have hlast : toBlock.last head ≤ head := by
    cases toBlock with
    | tag => exact le_rfl
    | number block => exact min_le_left head block
  rw [Chain.eventLogs, List.mem_flatMap]
  constructor
  · rintro ⟨m, hm, hlog⟩
    obtain ⟨hm, hrange⟩ := List.mem_filter.mp hm
    obtain ⟨report, hreport, rfl⟩ := List.mem_map.mp hlog
    obtain ⟨hreport, hof⟩ := List.mem_filter.mp hreport
    obtain ⟨chainLog, hchainLog, rfl⟩ := List.mem_map.mp hreport
    rw [RpcLog.isOf, Bool.and_eq_true, decide_eq_true_eq] at hof
    cases chainLog with
    | anchored e =>
      have hsame := hof.2
      simp only [ChainLog.report, Option.any_some, Bool.and_eq_true, decide_eq_true_eq] at hsame
      rw [MinedTransaction.inRange, Bool.and_eq_true, decide_eq_true_eq, decide_eq_true_eq]
        at hrange
      exact ⟨m, e, ⟨Chain.mined_of_upTo hm, hchainLog, hrange.1, hrange.2⟩, hsame.1, hsame.2, rfl⟩
    | «foreign» address looksLike other => exact absurd hof.1 other
  · rintro ⟨m, e, ⟨hm, he, hfrom, hto⟩, rfl, rfl, rfl⟩
    refine ⟨m, List.mem_filter.mpr ⟨Chain.mem_upTo hm (hto.trans hlast), ?_⟩,
      List.mem_map.mpr ⟨(ChainLog.anchored e).report, List.mem_filter.mpr
        ⟨List.mem_map_of_mem he, ?_⟩, rfl⟩⟩
    · rw [MinedTransaction.inRange, decide_eq_true hfrom, decide_eq_true hto, Bool.and_self]
    · simp only [RpcLog.isOf, ChainLog.report, decodedArgs, Option.any_some, decide_true,
        Bool.and_self]

/-- The expectation is of the registry of the chain. -/
structure Names (checksum : Address → BitVec 40) (c : Chain)
    (expected : AnchorDiscoveryExpectation) (receiptId eventHash : Bytes32) : Prop where
  chainId : expected.chainId = c.chainId
  contractAddress : ∃ upper, expected.contractAddress = .hex c.registry upper
  address : isAddress checksum expected.contractAddress = true
  receiptId : expected.receiptId = .canonical receiptId
  eventHash : expected.eventHash = .canonical eventHash

/-- A program from its `n`-th request on. -/
abbrev eventsFrom {α : Type} (c : Chain) (env : Nat → (o : DiscoveryRequest) → Option Nat)
    (n : Nat) (p : DiscoveryProg α) : Except AnchorVerificationError α :=
  (p.run (Prog.execEnv (honestEvents c) env) ((), n)).1

theorem eventsFrom_ofExcept {α β : Type} {n : Nat} (r : Except AnchorVerificationError α)
    (f : α → DiscoveryProg β) :
    eventsFrom c env n (.ofExcept r >>= f) = r >>= fun a => eventsFrom c env n (f a) := by
  rcases r with e | a
  · rfl
  · rfl

theorem eventsFrom_ask {β : Type} {n : Nat} (request : DiscoveryRequest)
    (f : request.Result → DiscoveryProg β) :
    eventsFrom c env n (askEvents request >>= f) =
      (honestEvents c request (env n request) ()).1 >>= fun a =>
        eventsFrom c env (n + 1) (f a) := by
  show ((Prog.perform request >>= f).run _ _).1 = _
  rw [Prog.run_bind, Prog.run_perform]
  simp only [Prog.execEnv]
  rcases (honestEvents c request (env n request) ()).1 with e | a
  · rfl
  · rfl

/-- The node answers the two requests of a discovery, the second one as it is at
the block. -/
structure AnswersAt (env : Nat → (o : DiscoveryRequest) → Option Nat) (head : Nat) : Prop where
  chainId : ∃ first, env 0 .getChainId = some first
  events : ∀ request, env 1 request = some head

/-- What discovery makes of the reported logs. -/
theorem find_eventLogs {expected : AnchorDiscoveryExpectation} {receiptId eventHash : Bytes32}
    {head : Nat} (hnames : Names checksum c expected receiptId eventHash)
    (hanswers : AnswersAt env head) :
    eventsFrom c env 0 (findSubmissionReceiptAnchorTransaction checksum expected) =
      transactionOf (c.eventLogs head c.registry receiptId eventHash expected.fromBlock
        expected.toBlock) := by
  obtain ⟨first, hfirst⟩ := hanswers.chainId
  obtain ⟨upper, haddress⟩ := hnames.contractAddress
  have hchecked : revertIf (isAddress checksum expected.contractAddress = false)
      (failure .contractMismatch "The configured registry address is invalid.") = .ok () := by
    rw [revertIf_eq_ok, hnames.address]
    exact Bool.noConfusion
  rw [findSubmissionReceiptAnchorTransaction, eventsFrom_ask, hfirst]
  show eventsFrom c env 1 (if _ then _ else _) = _
  rw [if_neg (not_not.mpr hnames.chainId.symm), eventsFrom_ofExcept, hchecked]
  show eventsFrom c env 1 _ = _
  rw [eventsFrom_ofExcept, assertBytes32_eq_ok.mpr hnames.receiptId]
  show eventsFrom c env 1 _ = _
  rw [eventsFrom_ofExcept, assertBytes32_eq_ok.mpr hnames.eventHash]
  show eventsFrom c env 1 _ = _
  rw [eventsFrom_ask, hanswers.events, haddress]
  show eventsFrom c env 2 (.ofExcept _) = _
  rfl

/-- **Discovery is exact.**  The transaction of the range that logged the event is
found, if there is one, and nothing else is ever found. -/
theorem find_honest {expected : AnchorDiscoveryExpectation} {receiptId eventHash : Bytes32}
    {head : Nat} (hnames : Names checksum c expected receiptId eventHash)
    (hanswers : AnswersAt env head) :
    ∃ found, eventsFrom c env 0 (findSubmissionReceiptAnchorTransaction checksum expected) =
        .ok found ∧
      ∀ hash, found = some hash ↔ ∃ m e, c.Logged m e expected.fromBlock
        (expected.toBlock.last head) ∧ e.receiptId = receiptId ∧ e.eventHash = eventHash ∧
          m.transaction.hash = hash := by
  rw [find_eventLogs hnames hanswers]
  by_cases hlogged : ∃ m e, c.Logged m e expected.fromBlock (expected.toBlock.last head) ∧
      e.receiptId = receiptId ∧ e.eventHash = eventHash
  · obtain ⟨m, e, hlogged, hreceiptId, heventHash⟩ := hlogged
    have hone : ∀ m' e', c.Logged m' e' expected.fromBlock (expected.toBlock.last head) →
        e'.eventHash = eventHash → m' = m := by
      intro m' e' hlogged' hsame
      exact (Chain.anchored_unique hlogged'.1 hlogged.1 hlogged'.2.1 hlogged.2.1
        (hsame.trans heventHash.symm)).1
    refine ⟨some m.transaction.hash, transactionOf_eq ?_ ?_, fun hash => ?_⟩
    · exact List.ne_nil_of_mem (mem_eventLogs.mpr ⟨m, e, hlogged, hreceiptId, heventHash, rfl⟩)
    · intro log hlog
      obtain ⟨m', e', hlogged', -, hsame, rfl⟩ := mem_eventLogs.mp hlog
      rw [hone m' e' hlogged' hsame]
    · constructor
      · intro hhash
        exact ⟨m, e, hlogged, hreceiptId, heventHash, Option.some.inj hhash⟩
      · rintro ⟨m', e', hlogged', -, hsame, rfl⟩
        rw [hone m' e' hlogged' hsame]
  · have hempty : c.eventLogs head c.registry receiptId eventHash expected.fromBlock
        expected.toBlock = [] := by
      apply List.eq_nil_iff_forall_not_mem.mpr
      intro log hlog
      obtain ⟨m, e, hfound, hreceiptId, heventHash, -⟩ := mem_eventLogs.mp hlog
      exact hlogged ⟨m, e, hfound, hreceiptId, heventHash⟩
    rw [hempty]
    refine ⟨none, rfl, fun hash => ?_⟩
    constructor
    · intro hhash
      cases hhash
    · rintro ⟨m, e, hfound, hreceiptId, heventHash, -⟩
      exact absurd ⟨m, e, hfound, hreceiptId, heventHash⟩ hlogged

end discovery

end SubmittedIt.ContractClient
