/-
SubmittedIt/RelayBudgets.lean

The accounts of the daily budgets.

A budget's reserved and spent amounts are the sums over the rows charged to
it, and stay within the daily limit.  Since a row's reservation is part of its
budget's, releasing it never meets the `GREATEST(0, …)` of the source; and
since a row gives its reservation up once, no reservation is moved twice.

`total_replace` is what an edit does to a sum over the rows; the accounts of
each kind of edit follow from it.

Main result: `budgets_balance`.
-/
import SubmittedIt.RelayConfirmation

namespace SubmittedIt.Relay

open Transaction ReceiptCore ContractClient

/-! ### Sums over the rows of a budget -/

/-- The sum of an amount over the rows charged to a budget. -/
def total (amount : RelayOperationRow → Nat) (rows : List RelayOperationRow) (key : BudgetKey) :
    Nat :=
  ((rows.filter fun r => RelayDb.budgetKey r = key).map amount).sum

section total

variable {amount : RelayOperationRow → Nat} {rows : List RelayOperationRow}
  {old stored row : RelayOperationRow} {key : BudgetKey}

theorem total_cons :
    total amount (row :: rows) key
      = (if RelayDb.budgetKey row = key then amount row else 0) + total amount rows key := by
  unfold total
  by_cases hkey : RelayDb.budgetKey row = key
  · rw [if_pos hkey, List.filter_cons_of_pos (by simpa using hkey), List.map_cons, List.sum_cons]
  · rw [if_neg hkey, List.filter_cons_of_neg (by simpa using hkey), Nat.zero_add]

theorem total_append_singleton :
    total amount (rows ++ [row]) key
      = total amount rows key + (if RelayDb.budgetKey row = key then amount row else 0) := by
  induction rows with
  | nil =>
    show total amount [row] key = _
    rw [total_cons]
    exact Nat.add_comm _ _
  | cons r rows ih =>
    rw [List.cons_append, total_cons, total_cons, ih, Nat.add_assoc]

theorem le_total (hrow : row ∈ rows) (hkey : RelayDb.budgetKey row = key) :
    amount row ≤ total amount rows key := by
  refine List.single_le_sum (fun _ _ => Nat.zero_le _) _ ?_
  exact List.mem_map_of_mem (List.mem_filter.mpr ⟨hrow, by simpa using hkey⟩)

theorem replace_of_not_mem (hold : old.id ∉ rows.map (·.id)) :
    (rows.map fun r => if r.id = old.id then stored else r) = rows := by
  refine (List.map_congr_left fun r hr => ?_).trans (List.map_id rows)
  refine if_neg fun hid => hold ?_
  rw [← hid]
  exact List.mem_map_of_mem hr

/-- **What an edit does to a sum**: the old row's amount leaves it, the new
one's enters. -/
theorem total_replace (amount : RelayOperationRow → Nat) (key : BudgetKey)
    (hids : (rows.map (·.id)).Nodup) (hold : old ∈ rows)
    (hkey : RelayDb.budgetKey stored = RelayDb.budgetKey old) :
    total amount (rows.map fun r => if r.id = old.id then stored else r) key
        + (if RelayDb.budgetKey old = key then amount old else 0)
      = total amount rows key + (if RelayDb.budgetKey old = key then amount stored else 0) := by
  induction rows with
  | nil => exact absurd hold List.not_mem_nil
  | cons r rows ih =>
    obtain ⟨hr, hids'⟩ := List.nodup_cons.mp hids
    rcases List.mem_cons.mp hold with rfl | hold'
    · rw [List.map_cons, if_pos rfl, replace_of_not_mem hr, total_cons, total_cons, hkey]
      omega
    · have hother : r.id ≠ old.id := by
        intro hid
        apply hr
        show r.id ∈ _
        rw [hid]
        exact List.mem_map_of_mem hold'
      have h := ih hids' hold'
      rw [List.map_cons, if_neg hother, total_cons, total_cons]
      omega

end total

/-! ### Balanced accounts -/

/-- The reserved and spent amounts of every budget are those of its rows, and
within the daily limit; every row's budget exists. -/
structure Balanced (config : RelayConfiguration) (db : RelayDb) : Prop where
  reserved : ∀ key,
    (db.budget key).reservedFeeWei = total (·.reservedFeeWei) db.operations key
  spent : ∀ key, (db.budget key).spentFeeWei = total (·.chargedFeeWei) db.operations key
  limit : ∀ key, (db.budget key).reservedFeeWei + (db.budget key).spentFeeWei
    ≤ config.dailyBudgetWei
  opened : ∀ row ∈ db.operations, ∃ budget, db.budgets (RelayDb.budgetKey row) = some budget

section balanced

variable {P : RelayPlatform} {config : RelayConfiguration}
  {Allowed : (o : RelayOp) → o.Answer → Prop} {db db' base : RelayDb}
  {old new stored row : RelayOperationRow} {o : RelayOp} {answer : o.Answer}
  {log : List RelayEvent} {key : BudgetKey}

/-- A row's reservation is part of its budget's, so releasing it subtracts
without a clamp. -/
theorem Balanced.covered (h : Balanced config db) (hrow : row ∈ db.operations) :
    row.reservedFeeWei ≤ (db.budget (RelayDb.budgetKey row)).reservedFeeWei := by
  rw [h.reserved]
  exact le_total hrow rfl

theorem budget_update {f : RelayBudget → RelayBudget} {budget : RelayBudget}
    (hbudget : db.budgets (RelayDb.budgetKey old) = some budget) :
    (db.updateBudget (RelayDb.budgetKey old) f).budget key
      = if RelayDb.budgetKey old = key then f (db.budget key) else db.budget key := by
  show (Function.update db.budgets _ _ key).getD _ = _
  by_cases hkey : RelayDb.budgetKey old = key
  · subst hkey
    rw [Function.update_self, if_pos rfl, RelayDb.budget, hbudget]
    rfl
  · rw [Function.update_of_ne (Ne.symm hkey), if_neg hkey]
    rfl

theorem budget_exists_update (f : RelayBudget → RelayBudget) :
    ((db.updateBudget (RelayDb.budgetKey old) f).budgets key).isSome = (db.budgets key).isSome := by
  show (Function.update db.budgets _ _ key).isSome = _
  by_cases hkey : key = RelayDb.budgetKey old
  · subst hkey
    rw [Function.update_self, Option.isSome_map]
  · rw [Function.update_of_ne hkey]

/-- A change that gives a reservation up: `spend` of it is charged. -/
structure Frees (db base : RelayDb) (old new : RelayOperationRow) (spend : Nat) : Prop where
  reserved : new.reservedFeeWei = 0
  charged : new.chargedFeeWei = old.chargedFeeWei + spend
  spend_le : spend ≤ old.reservedFeeWei
  opened : ∀ key, (base.budgets key).isSome = (db.budgets key).isSome
  budgetReserved : ∀ key, (base.budget key).reservedFeeWei = (db.budget key).reservedFeeWei -
    (if RelayDb.budgetKey old = key then old.reservedFeeWei else 0)
  budgetSpent : ∀ key, (base.budget key).spentFeeWei = (db.budget key).spentFeeWei +
    (if RelayDb.budgetKey old = key then spend else 0)

theorem frees_release (hopened : ∃ budget, db.budgets (RelayDb.budgetKey old) = some budget)
    (failure : RelayFailure) :
    Frees db (db.updateBudget (RelayDb.budgetKey old) (RelayDb.release old.reservedFeeWei)) old
      (failedRow old failure) 0 := by
  obtain ⟨budget, hbudget⟩ := hopened
  refine ⟨rfl, rfl, Nat.zero_le _, fun key => budget_exists_update _, ?_, ?_⟩
  · intro key
    rw [budget_update hbudget]
    by_cases hkey : RelayDb.budgetKey old = key
    · rw [if_pos hkey, if_pos hkey]
      rfl
    · rw [if_neg hkey, if_neg hkey]
      rfl
  · intro key
    rw [budget_update hbudget, ite_self]
    by_cases hkey : RelayDb.budgetKey old = key
    · rw [if_pos hkey]
      rfl
    · rw [if_neg hkey]
      rfl

theorem frees_charge (hopened : ∃ budget, db.budgets (RelayDb.budgetKey old) = some budget)
    (huncharged : old.chargedFeeWei = 0) (blockNumber : Nat) :
    Frees db (db.updateBudget (RelayDb.budgetKey old) (RelayDb.charge old.reservedFeeWei)) old
      (minedRow old blockNumber) old.reservedFeeWei := by
  obtain ⟨budget, hbudget⟩ := hopened
  refine ⟨rfl, ?_, le_rfl, fun key => budget_exists_update _, ?_, ?_⟩
  · rw [huncharged, Nat.zero_add]
    rfl
  · intro key
    rw [budget_update hbudget]
    by_cases hkey : RelayDb.budgetKey old = key
    · rw [if_pos hkey, if_pos hkey]
      rfl
    · rw [if_neg hkey, if_neg hkey]
      rfl
  · intro key
    rw [budget_update hbudget]
    by_cases hkey : RelayDb.budgetKey old = key
    · rw [if_pos hkey, if_pos hkey]
      rfl
    · rw [if_neg hkey, if_neg hkey]
      rfl

/-- **What a change does to the amounts**: nothing, or it gives the row's
reservation up. -/
theorem Change.amounts (hchange : Change P.checksum db old o answer new base)
    (hopened : ∃ budget, db.budgets (RelayDb.budgetKey old) = some budget) :
    (new.reservedFeeWei = old.reservedFeeWei ∧ new.chargedFeeWei = old.chargedFeeWei ∧
        base.budgets = db.budgets) ∨
      ∃ spend, Frees db base old new spend := by
  cases hchange with
  | statement stmt _ _ => exact .inl (by cases stmt <;> exact ⟨rfl, rfl, rfl⟩)
  | mined blockNumber _ huncharged => exact .inr ⟨_, frees_charge hopened huncharged blockNumber⟩
  | exhausted failure _ _ => exact .inr ⟨0, frees_release hopened failure⟩
  | anchored failure _ _ _ => exact .inr ⟨0, frees_release hopened failure⟩
  | prepared p _ _ _ _ prepared _ _ _ _ _ _ _ => exact .inl ⟨rfl, rfl, rfl⟩

theorem budgetKey_of_binding (hbinding : stored.binding = old.binding) :
    RelayDb.budgetKey stored = RelayDb.budgetKey old := by
  unfold RelayDb.budgetKey
  rw [hbinding]

/-- An edit that gives a reservation up keeps the accounts. -/
theorem Balanced.free {spend : Nat} (h : Balanced config db) (hold : old ∈ db.operations)
    (hids : (db.operations.map (·.id)).Nodup) (hoperations : base.operations = db.operations)
    (hkey : RelayDb.budgetKey stored = RelayDb.budgetKey old)
    (hfrees : Frees db base old stored spend) : Balanced config (base.replace old stored) := by
  have hrows : (base.replace old stored).operations =
      db.operations.map fun r => if r.id = old.id then stored else r := by
    show base.operations.map _ = _
    rw [hoperations]
  have hcovered := h.covered hold
  constructor
  · intro key
    rw [hrows]
    have htotal := total_replace (·.reservedFeeWei) key hids hold hkey
    have hbudget := hfrees.budgetReserved key
    have hreserved := h.reserved key
    show (base.budget key).reservedFeeWei = _
    rw [hfrees.reserved] at htotal
    by_cases hsame : RelayDb.budgetKey old = key
    · subst hsame
      rw [if_pos rfl] at htotal hbudget
      simp only [if_true] at htotal
      omega
    · rw [if_neg hsame] at htotal hbudget
      simp only [if_neg hsame] at htotal
      omega
  · intro key
    rw [hrows]
    have htotal := total_replace (·.chargedFeeWei) key hids hold hkey
    have hbudget := hfrees.budgetSpent key
    have hspent := h.spent key
    show (base.budget key).spentFeeWei = _
    rw [hfrees.charged] at htotal
    by_cases hsame : RelayDb.budgetKey old = key
    · rw [if_pos hsame] at htotal hbudget
      simp only [if_pos hsame] at htotal
      omega
    · rw [if_neg hsame] at htotal hbudget
      simp only [if_neg hsame] at htotal
      omega
  · intro key
    show (base.budget key).reservedFeeWei + (base.budget key).spentFeeWei ≤ _
    have hlimit := h.limit key
    have hle := hfrees.spend_le
    rw [hfrees.budgetReserved, hfrees.budgetSpent]
    by_cases hsame : RelayDb.budgetKey old = key
    · subst hsame
      rw [if_pos rfl, if_pos rfl]
      omega
    · rw [if_neg hsame, if_neg hsame]
      exact hlimit
  · intro row hrow
    rw [hrows] at hrow
    apply Option.isSome_iff_exists.mp
    show (base.budgets (RelayDb.budgetKey row)).isSome
    rw [hfrees.opened]
    rcases mem_replace hrow with rfl | ⟨hmem, -⟩
    · rw [hkey]
      exact Option.isSome_iff_exists.mpr (h.opened old hold)
    · exact Option.isSome_iff_exists.mpr (h.opened row hmem)

/-- An edit that leaves the amounts keeps the accounts. -/
theorem Balanced.leave (h : Balanced config db) (hold : old ∈ db.operations)
    (hids : (db.operations.map (·.id)).Nodup) (hoperations : base.operations = db.operations)
    (hkey : RelayDb.budgetKey stored = RelayDb.budgetKey old)
    (hreserved : stored.reservedFeeWei = old.reservedFeeWei)
    (hcharged : stored.chargedFeeWei = old.chargedFeeWei) (hbudgets : base.budgets = db.budgets) :
    Balanced config (base.replace old stored) := by
  have hrows : (base.replace old stored).operations =
      db.operations.map fun r => if r.id = old.id then stored else r := by
    show base.operations.map _ = _
    rw [hoperations]
  have hbudget : ∀ key, (base.replace old stored).budget key = db.budget key := by
    intro key
    show (base.budgets key).getD _ = _
    rw [hbudgets]
    rfl
  constructor
  · intro key
    rw [hrows, hbudget, h.reserved]
    have htotal := total_replace (·.reservedFeeWei) key hids hold hkey
    rw [hreserved] at htotal
    omega
  · intro key
    rw [hrows, hbudget, h.spent]
    have htotal := total_replace (·.chargedFeeWei) key hids hold hkey
    rw [hcharged] at htotal
    omega
  · intro key
    rw [hbudget]
    exact h.limit key
  · intro row hrow
    rw [hrows] at hrow
    show ∃ budget, base.budgets (RelayDb.budgetKey row) = some budget
    rw [hbudgets]
    rcases mem_replace hrow with rfl | ⟨hmem, -⟩
    · rw [hkey]
      exact h.opened old hold
    · exact h.opened row hmem

/-- An acquisition keeps the accounts: its reservation fits the day's budget. -/
theorem Balanced.insert {a : Acquisition} {blobRow : Nat} {t : Timestamp}
    (h : Balanced config db) (hinsertable : Insertable db a)
    (hbudget : a.dailyBudgetWei = config.dailyBudgetWei) :
    Balanced config (db.insertOperation a blobRow t) := by
  have hkey : RelayDb.budgetKey (a.ready db.nextId blobRow t) = a.budgetKey := rfl
  have hupdate : ∀ key, (db.insertOperation a blobRow t).budget key =
      if a.budgetKey = key then { db.budget a.budgetKey with
        reservedFeeWei := (db.budget a.budgetKey).reservedFeeWei + a.reservation }
      else db.budget key := by
    intro key
    show (Function.update db.budgets _ _ key).getD _ = _
    by_cases hsame : a.budgetKey = key
    · subst hsame
      rw [Function.update_self, if_pos rfl]
      rfl
    · rw [Function.update_of_ne (Ne.symm hsame), if_neg hsame]
      rfl
  have hfits := hinsertable.budget
  rw [hbudget] at hfits
  constructor
  · intro key
    show _ = total _ (db.operations ++ [_]) key
    rw [total_append_singleton, hupdate, hkey, ← h.reserved]
    by_cases hsame : a.budgetKey = key
    · subst hsame
      rw [if_pos rfl, if_pos rfl]
      rfl
    · rw [if_neg hsame, if_neg hsame]
      rfl
  · intro key
    show _ = total _ (db.operations ++ [_]) key
    rw [total_append_singleton, hupdate, hkey, ← h.spent]
    by_cases hsame : a.budgetKey = key
    · subst hsame
      rw [if_pos rfl, if_pos rfl]
      rfl
    · rw [if_neg hsame, if_neg hsame]
      rfl
  · intro key
    rw [hupdate]
    by_cases hsame : a.budgetKey = key
    · rw [if_pos hsame]
      show (db.budget a.budgetKey).reservedFeeWei + a.reservation
        + (db.budget a.budgetKey).spentFeeWei ≤ _
      omega
    · rw [if_neg hsame]
      exact h.limit key
  · intro row hrow
    apply Option.isSome_iff_exists.mp
    show (Function.update db.budgets _ _ (RelayDb.budgetKey row)).isSome
    by_cases hsame : RelayDb.budgetKey row = a.budgetKey
    · rw [hsame, Function.update_self]
      rfl
    · rw [Function.update_of_ne hsame]
      rcases List.mem_append.mp hrow with hmem | hnew
      · exact Option.isSome_iff_exists.mpr (h.opened row hmem)
      · rw [List.mem_singleton.mp hnew] at hsame
        exact absurd hkey hsame

/-- **Permitted operations keep the accounts.** -/
theorem Effect.balanced (heffect : Effect P.checksum db o answer db')
    (hpermits : Permits P config Allowed log o answer db)
    (hids : (db.operations.map (·.id)).Nodup) (h : Balanced config db) : Balanced config db' := by
  cases heffect with
  | same counters => exact ⟨h.reserved, h.spent, h.limit, h.opened⟩
  | edit old new stored base hrow hchange hpermitted hstored =>
    have hold := row_mem hrow
    have hkey : RelayDb.budgetKey stored = RelayDb.budgetKey old :=
      budgetKey_of_binding (hstored.binding.trans hpermitted.binding)
    have hreserved : stored.reservedFeeWei = new.reservedFeeWei := by rw [hstored.row]
    have hcharged : stored.chargedFeeWei = new.chargedFeeWei := by rw [hstored.row]
    rcases hchange.amounts (h.opened old hold) with ⟨hres, hchg, hbudgets⟩ | ⟨spend, hfrees⟩
    · exact h.leave hold hids hchange.operations hkey (hreserved.trans hres) (hcharged.trans hchg)
        hbudgets
    · have hstoredFrees : Frees db base old stored spend :=
        ⟨hreserved.trans hfrees.reserved, hcharged.trans hfrees.charged, hfrees.spend_le,
          hfrees.opened, hfrees.budgetReserved, hfrees.budgetSpent⟩
      exact h.free hold hids hchange.operations hkey hstoredFrees
  | insert a answer blobRow t hinsertable => exact h.insert hinsertable hpermits.1

theorem initial_balanced (blobs : List BlobBindingRow) :
    Balanced config (RelayDb.initial blobs) := by
  constructor <;> simp [RelayDb.initial, RelayDb.budget, total]

/-! ### Reservations move once -/

/-- What an operation leaves of a row's reservation: all of it or nothing. -/
theorem Effect.reservation (heffect : Effect P.checksum db o answer db') {id : Nat}
    (hrow : db.row id = some row) : ∃ row', db'.row id = some row' ∧
      (row'.reservedFeeWei = row.reservedFeeWei ∨ row'.reservedFeeWei = 0) := by
  rcases heffect.row_cases hrow with hsame | ⟨new, stored, base, hchange, -, hstored, -, hrow'⟩
  · exact ⟨row, hsame, .inl rfl⟩
  refine ⟨stored, hrow', ?_⟩
  have hreserved : stored.reservedFeeWei = new.reservedFeeWei := by rw [hstored.row]
  rw [hreserved]
  cases hchange with
  | statement stmt _ _ => exact .inl (by cases stmt <;> rfl)
  | mined _ _ _ => exact .inr rfl
  | exhausted _ _ _ => exact .inr rfl
  | anchored _ _ _ _ => exact .inr rfl
  | prepared _ _ _ _ _ _ _ _ _ _ _ _ _ => exact .inl rfl

end balanced

/-- The operation changed the reserved amount of the stored row. -/
def moves (P : RelayPlatform) (id : Nat) (e : RelayEvent) : Bool :=
  match e.before.row id, (execute P e.op e.answer e.before).2.row id with
  | some before, some after => before.reservedFeeWei != after.reservedFeeWei
  | _, _ => false

/-- A row's reservation has not moved, or it has moved once and is gone. -/
def MovedOnce (P : RelayPlatform) (id : Nat) (trace : List RelayEvent) (db : RelayDb) : Prop :=
  trace.countP (moves P id) = 0 ∨
    trace.countP (moves P id) = 1 ∧ ∃ row, db.row id = some row ∧ row.reservedFeeWei = 0

theorem MovedOnce.perform {P : RelayPlatform} {id : Nat} {trace : List RelayEvent} {db : RelayDb}
    (h : MovedOnce P id trace db) (o : RelayOp) (answer : o.Answer) :
    MovedOnce P id (trace ++ [⟨o, answer, db⟩]) (execute P o answer db).2 := by
  have heffect := execute_effect P o answer db
  unfold MovedOnce
  rw [List.countP_append, List.countP_singleton]
  rcases hrow : db.row id with - | row
  · -- a row that is not stored has moved nothing, and moves nothing now
    have hno : moves P id ⟨o, answer, db⟩ = false := by simp [moves, hrow]
    rw [hno]
    rcases h with hzero | ⟨-, row, hrow', -⟩
    · exact .inl (by simpa using hzero)
    · rw [hrow] at hrow'
      cases hrow'
  obtain ⟨row', hrow', hleft⟩ := heffect.reservation hrow
  have hmoves : moves P id ⟨o, answer, db⟩ = (row.reservedFeeWei != row'.reservedFeeWei) := by
    simp [moves, hrow, hrow']
  rw [hmoves]
  by_cases hsame : row'.reservedFeeWei = row.reservedFeeWei
  · rw [hsame, bne_self_eq_false]
    rcases h with hzero | ⟨hone, found, hfound, hgone⟩
    · exact .inl (by simpa using hzero)
    · rw [hrow] at hfound
      cases hfound
      exact .inr ⟨by simpa using hone, row', hrow', hsame.trans hgone⟩
  · have hgone := hleft.resolve_left hsame
    rcases h with hzero | ⟨-, found, hfound, hgone'⟩
    · have hmoved : (row.reservedFeeWei != row'.reservedFeeWei) = true := by
        simpa [bne_iff_ne] using Ne.symm hsame
      rw [hzero, hmoved]
      exact .inr ⟨rfl, row', hrow', hgone⟩
    · rw [hrow] at hfound
      cases hfound
      exact absurd (hgone.trans hgone'.symm) hsame

/-! ### Every run -/

/-- The accounts balance, every stored reservation is covered by its budget's
reserved amount, and no row's reservation has moved twice. -/
structure Accounted (P : RelayPlatform) (config : RelayConfiguration) (c : RelayRun) : Prop where
  balanced : Balanced config c.state
  covered : ∀ row ∈ c.state.operations,
    row.reservedFeeWei ≤ (c.state.budget (RelayDb.budgetKey row)).reservedFeeWei
  moved : ∀ id, c.trace.countP (moves P id) ≤ 1

/-- **The budgets balance** in every run of the relay, whatever the gateway
answers. -/
theorem budgets_balance {P : RelayPlatform} {config : RelayConfiguration}
    {blobs : List BlobBindingRow} {c : RelayRun}
    (h : RelayReaches P config anyAnswer blobs c) : Accounted P config c := by
  have hinv : Balanced config c.state ∧ ∀ id, MovedOnce P id c.trace c.state := by
    refine System.Reaches.induction
      (M := fun c => Balanced config c.state ∧ ∀ id, MovedOnce P id c.trace c.state)
      (relay_safe P config anyAnswer) (initial_consistent config blobs) ?_ ?_ ?_ h
    · exact ⟨initial_balanced blobs, fun id => .inl rfl⟩
    · exact fun s trace ts call ih => ih
    · rintro s trace before after call log o k answer hInv - hpermits ⟨hbalanced, hmoved⟩
      exact ⟨(execute_effect P o answer s).balanced hpermits hInv.ids hbalanced,
        fun id => (hmoved id).perform o answer⟩
  refine ⟨hinv.1, fun row hrow => hinv.1.covered hrow, fun id => ?_⟩
  rcases hinv.2 id with hzero | ⟨hone, -⟩
  · exact hzero.trans_le (Nat.zero_le 1)
  · exact hone.le

theorem budgets_balance_confirmedRun :
    Accounted samplePlatform sampleConfiguration confirmedRun ∧
      confirmedRun.trace.countP (moves samplePlatform 1) = 1 :=
  ⟨budgets_balance confirmedRun_reaches, by decide +kernel⟩

end SubmittedIt.Relay
