/-
SubmittedIt/Threads.lean

Calls that run concurrently on a shared state: library, independent of the
model.

A `System` says what an operation does for an answer of the environment,
which answers the environment may give, and which program a call runs.  A
configuration holds the shared state, every operation performed so far, and
the calls: what each of them has performed and what is left of it.  Calls
take turns at their operations; one that is never scheduled again has
crashed.

Reasoning is by rely and guarantee.  `Pre` says what a call may do, given its
own log and the state it finds; `Later` is what others can do to the state
meanwhile; `Guards` says of one program that it keeps to `Pre` under that
interference, and what holds when it returns.

Main results: `guards_bind`, `guards_attempt` and `guards_perform` (the rules
of `Guards`), `System.Reaches.guarded` (guarded programs keep the invariant
and to `Pre` in every run), `System.Reaches.induction` (induction over runs
with both at hand), `System.Reaches.ordered` (the states of a run are ordered
by what the operations respect), `reaches_of_reachable` (every state that an
interleaving reaches, crashes included, is the state of such a run).
-/
import SubmittedIt.Prog

variable {O : Type} {R : O → Type} {E α β ρ σ C : Type} {A : O → Type}

/-! ### Runs of concurrent calls -/

/-- One performed operation: what the environment answered, and the state it
was performed in. -/
structure Event (O : Type) (A : O → Type) (σ : Type) where
  op : O
  answer : A op
  before : σ

/-- A call under way: what it has performed, and what is left of it. -/
structure Thread (O : Type) (R : O → Type) (E ρ σ C : Type) (A : O → Type) where
  call : C
  log : List (Event O A σ)
  rest : Prog O R E ρ

/-- What a system's operations do, and what its calls run. -/
structure System (O : Type) (R : O → Type) (E ρ σ C : Type) (A : O → Type) where
  execute : (o : O) → A o → σ → Except E (R o) × σ
  /-- The answers the environment may give. -/
  Allowed : (o : O) → A o → Prop
  program : C → Prog O R E ρ

/-- The shared state, the operations performed so far, and the calls. -/
structure Configuration (O : Type) (R : O → Type) (E ρ σ C : Type) (A : O → Type) where
  state : σ
  trace : List (Event O A σ)
  threads : List (Thread O R E ρ σ C A)

namespace System

variable (S : System O R E ρ σ C A)

/-- The state an event leaves. -/
def after (e : Event O A σ) : σ := (S.execute e.op e.answer e.before).2

/-- What an event's operation returned. -/
def result (e : Event O A σ) : Except E (R e.op) := (S.execute e.op e.answer e.before).1

/-- One step: a call is made, or one of the calls performs its next
operation. -/
inductive Step : Configuration O R E ρ σ C A → Configuration O R E ρ σ C A → Prop
  | start {s trace ts} (call : C) :
      Step ⟨s, trace, ts⟩ ⟨s, trace, ⟨call, [], S.program call⟩ :: ts⟩
  | perform {s trace} (before after : List (Thread O R E ρ σ C A)) (call : C)
      (log : List (Event O A σ)) (o : O) (k : Except E (R o) → Prog O R E ρ) (answer : A o) :
      S.Allowed o answer →
      Step ⟨s, trace, before ++ ⟨call, log, .op o k⟩ :: after⟩
        ⟨(S.execute o answer s).2, trace ++ [⟨o, answer, s⟩],
          before ++ ⟨call, log ++ [⟨o, answer, s⟩], k (S.execute o answer s).1⟩ :: after⟩

/-- The configurations that runs from `s₀` reach. -/
def Reaches (s₀ : σ) : Configuration O R E ρ σ C A → Prop :=
  Relation.ReflTransGen S.Step ⟨s₀, [], []⟩

end System

/-! ### Rely and guarantee -/

section guards

variable (S : System O R E ρ σ C A) (Inv : σ → Prop)
  (Pre : List (Event O A σ) → (o : O) → A o → σ → Prop)

/-- What some call may do to the state with one operation. -/
inductive Interferes : σ → σ → Prop
  | perform (log : List (Event O A σ)) (o : O) (answer : A o) (s : σ) :
      Inv s → S.Allowed o answer → Pre log o answer s → Interferes s (S.execute o answer s).2

/-- What the calls may do to the state. -/
def Later : σ → σ → Prop := Relation.ReflTransGen (Interferes S Inv Pre)

/-- Under the interference of other calls, a program with the log `log`
performs only operations that `Pre` permits, and returns as `Q` says. -/
def Prog.Guards : Prog O R E α → (Except E α → List (Event O A σ) → σ → Prop) →
    List (Event O A σ) → σ → Prop
  | .ret r, Q, log, s => ∀ s', Later S Inv Pre s s' → Inv s' → Q r log s'
  | .op o k, Q, log, s => ∀ s', Later S Inv Pre s s' → Inv s' → ∀ answer, S.Allowed o answer →
      Pre log o answer s' ∧
        (k (S.execute o answer s').1).Guards Q (log ++ [⟨o, answer, s'⟩])
          (S.execute o answer s').2

variable {S Inv Pre} {Q Q' : Except E α → List (Event O A σ) → σ → Prop}
  {log : List (Event O A σ)} {s s' : σ}

/-- What every permitted operation preserves is stable. -/
theorem Later.stable {F : σ → Prop}
    (hF : ∀ log o answer s, Inv s → S.Allowed o answer → Pre log o answer s → F s →
      F (S.execute o answer s).2)
    (h : Later S Inv Pre s s') (hs : F s) : F s' := by
  induction h with
  | refl => exact hs
  | tail _ hstep ih =>
    cases hstep with
    | perform log o answer s hInv hallowed hpre =>
      exact hF log o answer _ hInv hallowed hpre ih

theorem Prog.Guards.later {p : Prog O R E α} (h : p.Guards S Inv Pre Q log s)
    (hlater : Later S Inv Pre s s') : p.Guards S Inv Pre Q log s' := by
  cases p with
  | ret r => exact fun s'' hs'' => h s'' (hlater.trans hs'')
  | op o k => exact fun s'' hs'' => h s'' (hlater.trans hs'')

/-- It is enough to look at the states that the program finds. -/
theorem guards_of_later {p : Prog O R E α}
    (h : ∀ s', Later S Inv Pre s s' → Inv s' → p.Guards S Inv Pre Q log s') :
    p.Guards S Inv Pre Q log s := by
  cases p with
  | ret r => exact fun s' hs' hInv => h s' hs' hInv s' .refl hInv
  | op o k => exact fun s' hs' hInv => h s' hs' hInv s' .refl hInv

theorem Prog.Guards.imp {p : Prog O R E α} (h : p.Guards S Inv Pre Q log s)
    (hQ : ∀ r log s, Inv s → Q r log s → Q' r log s) : p.Guards S Inv Pre Q' log s := by
  induction p generalizing log s with
  | ret r => exact fun s' hs' hInv => hQ r log s' hInv (h s' hs' hInv)
  | op o k ih =>
    intro s' hs' hInv answer hallowed
    obtain ⟨hpre, hk⟩ := h s' hs' hInv answer hallowed
    exact ⟨hpre, ih _ hk⟩

theorem guards_pure {a : α} :
    (pure a : Prog O R E α).Guards S Inv Pre Q log s ↔
      ∀ s', Later S Inv Pre s s' → Inv s' → Q (.ok a) log s' := Iff.rfl

theorem guards_throw {e : E} :
    (Prog.throw e : Prog O R E α).Guards S Inv Pre Q log s ↔
      ∀ s', Later S Inv Pre s s' → Inv s' → Q (.error e) log s' := Iff.rfl

theorem guards_ofExcept {r : Except E α} :
    (Prog.ofExcept r : Prog O R E α).Guards S Inv Pre Q log s ↔
      ∀ s', Later S Inv Pre s s' → Inv s' → Q r log s' := Iff.rfl

/-- **One operation**, and what follows it. -/
theorem guards_perform {o : O} {Q : Except E (R o) → List (Event O A σ) → σ → Prop} :
    (Prog.perform o : Prog O R E (R o)).Guards S Inv Pre Q log s ↔
      ∀ s', Later S Inv Pre s s' → Inv s' → ∀ answer, S.Allowed o answer →
        Pre log o answer s' ∧
          ∀ s'', Later S Inv Pre (S.execute o answer s').2 s'' → Inv s'' →
            Q (S.execute o answer s').1 (log ++ [⟨o, answer, s'⟩]) s'' := Iff.rfl

/-- **Sequencing.** -/
theorem guards_bind {p : Prog O R E α} {f : α → Prog O R E β}
    {Q : Except E β → List (Event O A σ) → σ → Prop}
    (h : p.Guards S Inv Pre (fun r log s => match r with
      | .ok a => (f a).Guards S Inv Pre Q log s
      | .error e => Q (.error e) log s) log s) :
    (p >>= f).Guards S Inv Pre Q log s := by
  induction p generalizing log s with
  | ret r =>
    rcases r with e | a
    · exact h
    · exact guards_of_later fun s' hs' hInv => h s' hs' hInv
  | op o k ih =>
    intro s' hs' hInv answer hallowed
    obtain ⟨hpre, hk⟩ := h s' hs' hInv answer hallowed
    exact ⟨hpre, ih _ hk⟩

/-- **Catching an error.** -/
theorem guards_attempt {p : Prog O R E α} {Q : Except E (Except E α) → List (Event O A σ) → σ → Prop}
    (h : p.Guards S Inv Pre (fun r log s => Q (.ok r) log s) log s) :
    p.attempt.Guards S Inv Pre Q log s := by
  induction p generalizing log s with
  | ret r => exact h
  | op o k ih =>
    intro s' hs' hInv answer hallowed
    obtain ⟨hpre, hk⟩ := h s' hs' hInv answer hallowed
    exact ⟨hpre, ih _ hk⟩

/-- What a program has performed is kept in its log, and its own operations
are what others see as interference. -/
theorem Prog.Guards.framed {p : Prog O R E α} (h : p.Guards S Inv Pre Q log s) :
    p.Guards S Inv Pre (fun r log' s' => log <+: log' ∧ Later S Inv Pre s s' ∧ Q r log' s')
      log s := by
  induction p generalizing log s with
  | ret r => exact fun s' hs' hInv => ⟨List.prefix_rfl, hs', h s' hs' hInv⟩
  | op o k ih =>
    intro s' hs' hInv answer hallowed
    obtain ⟨hpre, hk⟩ := h s' hs' hInv answer hallowed
    have hlater : Later S Inv Pre s (S.execute o answer s').2 :=
      hs'.tail (.perform log o answer s' hInv hallowed hpre)
    refine ⟨hpre, (ih _ hk).imp ?_⟩
    rintro r log' s'' - ⟨hextends, hlater', hQ⟩
    exact ⟨(List.prefix_append _ _).trans hextends, hlater.trans hlater', hQ⟩

/-! ### Programs of harmless operations -/

/-- Every operation of the program is one of `H`. -/
def Prog.Only (H : O → Prop) : Prog O R E α → Prop
  | .ret _ => True
  | .op o k => H o ∧ ∀ r, (k r).Only H

variable {H : O → Prop}

theorem only_ret (r : Except E α) : (Prog.ret r : Prog O R E α).Only H := trivial

theorem only_pure (a : α) : (pure a : Prog O R E α).Only H := trivial

theorem only_throw (e : E) : (Prog.throw e : Prog O R E α).Only H := trivial

theorem only_perform {o : O} (h : H o) : (Prog.perform o : Prog O R E (R o)).Only H :=
  ⟨h, fun _ => trivial⟩

theorem Prog.Only.bind {p : Prog O R E α} {f : α → Prog O R E β} (hp : p.Only H)
    (hf : ∀ a, (f a).Only H) : (p >>= f).Only H := by
  induction p with
  | ret r =>
    rcases r with e | a
    · trivial
    · exact hf a
  | op o k ih => exact ⟨hp.1, fun r => ih r (hp.2 r)⟩

theorem Prog.Only.attempt {p : Prog O R E α} (hp : p.Only H) : p.attempt.Only H := by
  induction p with
  | ret r => trivial
  | op o k ih => exact ⟨hp.1, fun r => ih r (hp.2 r)⟩

theorem Prog.Only.tryCatch {p : Prog O R E α} {handler : E → Prog O R E α} (hp : p.Only H)
    (hhandler : ∀ e, (handler e).Only H) : (p.tryCatch handler).Only H := by
  refine hp.attempt.bind ?_
  rintro (e | a)
  · exact hhandler e
  · trivial

theorem Prog.Only.mono {H' : O → Prop} {p : Prog O R E α} (hp : p.Only H)
    (hH : ∀ o, H o → H' o) : p.Only H' := by
  induction p with
  | ret r => trivial
  | op o k ih => exact ⟨hH o hp.1, fun r => ih r (hp.2 r)⟩

/-- **Programs of operations that are always permitted.** -/
theorem Prog.Only.guards {p : Prog O R E α} (hp : p.Only H)
    (hH : ∀ o, H o → ∀ log answer s, Inv s → Pre log o answer s) :
    p.Guards S Inv Pre (fun _ _ _ => True) log s := by
  induction p generalizing log s with
  | ret r => exact fun _ _ _ => trivial
  | op o k ih =>
    intro s' hs' hInv answer hallowed
    exact ⟨hH o hp.1 log answer s' hInv, ih _ (hp.2 _)⟩

end guards

/-! ### Runs of guarded programs -/

section runs

variable {S : System O R E ρ σ C A} {Inv : σ → Prop}
  {Pre : List (Event O A σ) → (o : O) → A o → σ → Prop}
  {Q : C → Except E ρ → List (Event O A σ) → σ → Prop} {s₀ : σ}
  {c : Configuration O R E ρ σ C A}

namespace System

/-- Every operation a call may perform keeps the invariant, and every call is
guarded. -/
structure Safe (S : System O R E ρ σ C A) (Inv : σ → Prop)
    (Pre : List (Event O A σ) → (o : O) → A o → σ → Prop)
    (Q : C → Except E ρ → List (Event O A σ) → σ → Prop) : Prop where
  preserves : ∀ log o answer s, Inv s → S.Allowed o answer → Pre log o answer s →
    Inv (S.execute o answer s).2
  guards : ∀ call s, Inv s → (S.program call).Guards S Inv Pre (Q call) [] s

/-- The invariant holds, and every call keeps to what is permitted from here
on. -/
structure Guarded (S : System O R E ρ σ C A) (Inv : σ → Prop)
    (Pre : List (Event O A σ) → (o : O) → A o → σ → Prop)
    (Q : C → Except E ρ → List (Event O A σ) → σ → Prop)
    (c : Configuration O R E ρ σ C A) : Prop where
  inv : Inv c.state
  threads : ∀ t ∈ c.threads, t.rest.Guards S Inv Pre (Q t.call) t.log c.state

/-- What a call that performs an operation next is permitted. -/
theorem Guarded.pre {s : σ} {trace : List (Event O A σ)}
    {before after : List (Thread O R E ρ σ C A)} {call : C} {log : List (Event O A σ)} {o : O}
    {k : Except E (R o) → Prog O R E ρ}
    (h : S.Guarded Inv Pre Q ⟨s, trace, before ++ ⟨call, log, .op o k⟩ :: after⟩) {answer : A o}
    (hallowed : S.Allowed o answer) :
    Pre log o answer s ∧
      (k (S.execute o answer s).1).Guards S Inv Pre (Q call) (log ++ [⟨o, answer, s⟩])
        (S.execute o answer s).2 :=
  h.threads ⟨call, log, .op o k⟩ (by simp) s .refl h.inv answer hallowed

theorem Guarded.step {c' : Configuration O R E ρ σ C A} (hsafe : S.Safe Inv Pre Q)
    (h : S.Guarded Inv Pre Q c) (hstep : S.Step c c') : S.Guarded Inv Pre Q c' := by
  cases hstep with
  | start call =>
    refine ⟨h.inv, ?_⟩
    intro t ht
    rcases List.mem_cons.mp ht with rfl | ht
    · exact hsafe.guards call _ h.inv
    · exact h.threads t ht
  | @perform s trace before after call log o k answer hallowed =>
    obtain ⟨hpre, hk⟩ := h.pre hallowed
    have hlater : Later S Inv Pre s (S.execute o answer s).2 :=
      .single (.perform log o answer s h.inv hallowed hpre)
    refine ⟨hsafe.preserves log o answer s h.inv hallowed hpre, ?_⟩
    intro t ht
    rcases List.mem_append.mp ht with ht | ht
    · exact (h.threads t (by simp [ht])).later hlater
    · rcases List.mem_cons.mp ht with rfl | ht
      · exact hk
      · exact (h.threads t (by simp [ht])).later hlater

/-- **Guarded programs keep the invariant and to what is permitted**, in every
run. -/
theorem Reaches.guarded (hsafe : S.Safe Inv Pre Q) (hs₀ : Inv s₀) (h : S.Reaches s₀ c) :
    S.Guarded Inv Pre Q c := by
  induction h with
  | refl => exact ⟨hs₀, fun t ht => absurd ht List.not_mem_nil⟩
  | tail _ hstep ih => exact ih.step hsafe hstep

/-- **Induction over the runs of guarded programs.** -/
theorem Reaches.induction {M : Configuration O R E ρ σ C A → Prop} (hsafe : S.Safe Inv Pre Q)
    (hs₀ : Inv s₀) (hinitial : M ⟨s₀, [], []⟩)
    (hstart : ∀ s trace ts call, M ⟨s, trace, ts⟩ →
      M ⟨s, trace, ⟨call, [], S.program call⟩ :: ts⟩)
    (hperform : ∀ s trace before after call log o k (answer : A o), Inv s →
      S.Allowed o answer → Pre log o answer s →
      M ⟨s, trace, before ++ ⟨call, log, .op o k⟩ :: after⟩ →
      M ⟨(S.execute o answer s).2, trace ++ [⟨o, answer, s⟩],
        before ++ ⟨call, log ++ [⟨o, answer, s⟩], k (S.execute o answer s).1⟩ :: after⟩)
    (h : S.Reaches s₀ c) : M c := by
  induction h with
  | refl => exact hinitial
  | tail hrun hstep ih =>
    have hguarded := Reaches.guarded hsafe hs₀ hrun
    cases hstep with
    | start call => exact hstart _ _ _ call ih
    | @perform s trace before after call log o k answer hallowed =>
      exact hperform s trace before after call log o k answer hguarded.inv hallowed
        (hguarded.pre hallowed).1 ih

/-- **What was performed was permitted**: every event of a call's log, after
the part of the log before it. -/
theorem Reaches.logged (hsafe : S.Safe Inv Pre Q) (hs₀ : Inv s₀) (h : S.Reaches s₀ c)
    {t : Thread O R E ρ σ C A} (ht : t ∈ c.threads) {l l' : List (Event O A σ)}
    {e : Event O A σ} (hlog : t.log = l ++ e :: l') :
    Inv e.before ∧ S.Allowed e.op e.answer ∧ Pre l e.op e.answer e.before := by
  refine Reaches.induction (M := fun c => ∀ t ∈ c.threads, ∀ l l' e, t.log = l ++ e :: l' →
    Inv e.before ∧ S.Allowed e.op e.answer ∧ Pre l e.op e.answer e.before) hsafe hs₀
    ?_ ?_ ?_ h t ht l l' e hlog
  · intro t ht
    exact absurd ht List.not_mem_nil
  · intro s trace ts call ih t ht l l' e hlog
    rcases List.mem_cons.mp ht with rfl | ht
    · simp at hlog
    · exact ih t ht l l' e hlog
  · intro s trace before after call log o k answer hInv hallowed hpre ih t ht l l' e hlog
    rcases List.mem_append.mp ht with ht | ht
    · exact ih t (by simp [ht]) l l' e hlog
    rcases List.mem_cons.mp ht with rfl | ht
    · -- the event is the last one, or one of the log before
      rcases List.eq_nil_or_concat l' with rfl | ⟨l'', e', rfl⟩
      · obtain ⟨rfl, he⟩ := List.append_inj' hlog rfl
        cases he
        exact ⟨hInv, hallowed, hpre⟩
      · have hlog' : log ++ [⟨o, answer, s⟩] = (l ++ e :: l'') ++ [e'] := by
          simpa using hlog
        obtain ⟨hlog'', -⟩ := List.append_inj' hlog' rfl
        exact ih ⟨call, log, .op o k⟩ (by simp) l l'' e hlog''
    · exact ih t (by simp [ht]) l l' e hlog

/-- A call's log is part of the trace, in its order. -/
theorem Reaches.log_sublist (h : S.Reaches s₀ c) : ∀ t ∈ c.threads, t.log.Sublist c.trace := by
  induction h with
  | refl => exact fun t ht => absurd ht List.not_mem_nil
  | tail _ hstep ih =>
    cases hstep with
    | start call =>
      intro t ht
      rcases List.mem_cons.mp ht with rfl | ht
      · exact List.nil_sublist _
      · exact ih t ht
    | perform before after call log o k answer hallowed =>
      intro t ht
      rcases List.mem_append.mp ht with ht | ht
      · exact (ih t (by simp [ht])).trans (List.sublist_append_left _ _)
      rcases List.mem_cons.mp ht with rfl | ht
      · exact (ih ⟨call, log, .op o k⟩ (by simp)).append (.refl _)
      · exact (ih t (by simp [ht])).trans (List.sublist_append_left _ _)

/-- Every event of the trace is one of some call's log; what the log has before
it was performed earlier. -/
theorem Reaches.performed (h : S.Reaches s₀ c) {l l' : List (Event O A σ)} {e : Event O A σ}
    (htrace : c.trace = l ++ e :: l') :
    ∃ t ∈ c.threads, ∃ m m', t.log = m ++ e :: m' ∧ m.Sublist l := by
  induction h generalizing l l' e with
  | refl => simp at htrace
  | tail hrun hstep ih =>
    cases hstep with
    | start call =>
      obtain ⟨t, ht, hlog⟩ := ih htrace
      exact ⟨t, List.mem_cons_of_mem _ ht, hlog⟩
    | @perform s trace before after call log o k answer hallowed =>
      rcases List.eq_nil_or_concat l' with rfl | ⟨l'', e', rfl⟩
      · -- the event is the one that this step performs
        obtain ⟨rfl, he⟩ := List.append_inj' htrace rfl
        cases he
        exact ⟨⟨call, log ++ [⟨o, answer, s⟩], k (S.execute o answer s).1⟩, by simp, log, [], rfl,
          Reaches.log_sublist hrun ⟨call, log, .op o k⟩ (by simp)⟩
      · have htrace' : trace ++ [⟨o, answer, s⟩] = (l ++ e :: l'') ++ [e'] := by
          simpa using htrace
        obtain ⟨htrace'', -⟩ := List.append_inj' htrace' rfl
        obtain ⟨t, ht, m, m', hlog, hm⟩ := ih htrace''
        rcases List.mem_append.mp ht with ht | ht
        · exact ⟨t, by simp [ht], m, m', hlog, hm⟩
        rcases List.mem_cons.mp ht with rfl | ht
        · refine ⟨⟨call, log ++ [⟨o, answer, s⟩], k (S.execute o answer s).1⟩, by simp, m,
            m' ++ [⟨o, answer, s⟩], ?_, hm⟩
          dsimp only at hlog
          simp [hlog]
        · exact ⟨t, by simp [ht], m, m', hlog, hm⟩

/-- **What holds of every call**, of its log and of what is left of it: it holds of a call that is
made, and a call's own operations keep it. -/
theorem Reaches.each {I : C → List (Event O A σ) → Prog O R E ρ → Prop}
    (hstart : ∀ call, I call [] (S.program call))
    (hperform : ∀ call log o k (answer : A o) s, S.Allowed o answer → I call log (.op o k) →
      I call (log ++ [⟨o, answer, s⟩]) (k (S.execute o answer s).1))
    (h : S.Reaches s₀ c) : ∀ t ∈ c.threads, I t.call t.log t.rest := by
  induction h with
  | refl => exact fun t ht => absurd ht List.not_mem_nil
  | tail _ hstep ih =>
    cases hstep with
    | start call =>
      intro t ht
      rcases List.mem_cons.mp ht with rfl | ht
      · exact hstart call
      · exact ih t ht
    | @perform s trace before after call log o k answer hallowed =>
      intro t ht
      rcases List.mem_append.mp ht with ht | ht
      · exact ih t (by simp [ht])
      rcases List.mem_cons.mp ht with rfl | ht
      · exact hperform call log o k answer s hallowed (ih ⟨call, log, .op o k⟩ (by simp))
      · exact ih t (by simp [ht])

/-- **A call performs only operations of its program.** -/
theorem Reaches.only {H : C → O → Prop} (hprogram : ∀ call, (S.program call).Only (H call))
    (h : S.Reaches s₀ c) :
    ∀ t ∈ c.threads, (∀ e ∈ t.log, H t.call e.op) ∧ t.rest.Only (H t.call) := by
  refine Reaches.each
    (I := fun call log rest => (∀ e ∈ log, H call e.op) ∧ rest.Only (H call)) ?_ ?_ h
  · exact fun call => ⟨fun e he => absurd he List.not_mem_nil, hprogram call⟩
  · rintro call log o k answer s - ⟨hlog, ho, hk⟩
    refine ⟨fun e he => ?_, hk _⟩
    rcases List.mem_append.mp he with he | he
    · exact hlog e he
    · obtain rfl := List.mem_singleton.mp he
      exact ho

/-- **The states of a run are ordered** by every preorder that the operations
respect. -/
theorem Reaches.ordered {F : σ → σ → Prop} (hsafe : S.Safe Inv Pre Q) (hs₀ : Inv s₀)
    (hrefl : ∀ s, F s s) (htrans : ∀ s s' s'', F s s' → F s' s'' → F s s'')
    (hF : ∀ log o answer s, Inv s → S.Allowed o answer → Pre log o answer s →
      F s (S.execute o answer s).2)
    (h : S.Reaches s₀ c) :
    (∀ e ∈ c.trace, Inv e.before ∧ F e.before (S.after e) ∧ F (S.after e) c.state) ∧
      c.trace.Pairwise fun e e' => F (S.after e) e'.before := by
  refine Reaches.induction (M := fun c =>
    (∀ e ∈ c.trace, Inv e.before ∧ F e.before (S.after e) ∧ F (S.after e) c.state) ∧
      c.trace.Pairwise fun e e' => F (S.after e) e'.before) hsafe hs₀ ?_ ?_ ?_ h
  · exact ⟨fun e he => absurd he List.not_mem_nil, .nil⟩
  · exact fun s trace ts call ih => ih
  · rintro s trace before after call log o k answer hInv hallowed hpre ⟨hstates, hpairs⟩
    have hstep := hF log o answer s hInv hallowed hpre
    refine ⟨?_, ?_⟩
    · intro e he
      rcases List.mem_append.mp he with he | he
      · obtain ⟨he₁, he₂, he₃⟩ := hstates e he
        exact ⟨he₁, he₂, htrans _ _ _ he₃ hstep⟩
      · obtain rfl := List.mem_singleton.mp he
        exact ⟨hInv, hstep, hrefl _⟩
    · refine List.pairwise_append.mpr ⟨hpairs, List.pairwise_singleton _ _, ?_⟩
      intro e he e' he'
      obtain rfl := List.mem_singleton.mp he'
      exact (hstates e he).2.2

end System

/-! ### One call at a time -/

namespace System

/-- The call made last performs its next `k` operations, the environment
answering the `n`-th operation of the run from `env n`. -/
def solo (S : System O R E ρ σ C A) (env : Nat → (o : O) → A o) :
    Nat → Configuration O R E ρ σ C A → Configuration O R E ρ σ C A
  | k + 1, ⟨s, trace, ⟨call, log, .op o f⟩ :: ts⟩ =>
    let answer := env trace.length o
    solo S env k ⟨(S.execute o answer s).2, trace ++ [⟨o, answer, s⟩],
      ⟨call, log ++ [⟨o, answer, s⟩], f (S.execute o answer s).1⟩ :: ts⟩
  | _, c => c

/-- A call is made, and performs its next `k` operations. -/
def serve (S : System O R E ρ σ C A) (env : Nat → (o : O) → A o) (call : C) (k : Nat)
    (c : Configuration O R E ρ σ C A) : Configuration O R E ρ σ C A :=
  S.solo env k ⟨c.state, c.trace, ⟨call, [], S.program call⟩ :: c.threads⟩

theorem solo_steps {env : Nat → (o : O) → A o} (hallowed : ∀ n o, S.Allowed o (env n o)) (k : Nat)
    (c : Configuration O R E ρ σ C A) : Relation.ReflTransGen S.Step c (S.solo env k c) := by
  induction k generalizing c with
  | zero => exact .refl
  | succ k ih =>
    rcases c with ⟨s, trace, - | ⟨⟨call, log, r | ⟨o, f⟩⟩, ts⟩⟩
    · exact .refl
    · exact .refl
    · exact .head (.perform [] ts call log o f _ (hallowed _ o)) (ih _)

theorem serve_steps {env : Nat → (o : O) → A o} (hallowed : ∀ n o, S.Allowed o (env n o))
    (call : C) (k : Nat) (c : Configuration O R E ρ σ C A) :
    Relation.ReflTransGen S.Step c (S.serve env call k c) :=
  .head (.start call) (solo_steps hallowed k _)

theorem Reaches.serve {env : Nat → (o : O) → A o} (hallowed : ∀ n o, S.Allowed o (env n o))
    (call : C) (k : Nat) (h : S.Reaches s₀ c) : S.Reaches s₀ (S.serve env call k c) :=
  h.trans (serve_steps hallowed call k c)

end System

/-! ### Interleavings with crashes -/

/-- **Every state an interleaving reaches is the state of a run**: a call that
crashes is one that is not scheduled again. -/
theorem reaches_of_reachable {Starts : Prog O R E Unit → Prop}
    (hstarts : ∀ p, Starts p → ∃ call, p = S.program call >>= fun _ => pure ())
    (hallowed : ∀ o answer, S.Allowed o answer) {s : σ}
    (h : Interleave.Reachable S.execute Starts s₀ s) : ∃ c, S.Reaches s₀ c ∧ c.state = s := by
  obtain ⟨ps, hrun⟩ := h
  have key : ∀ c : Interleave.Config O R E Unit σ,
      Relation.ReflTransGen (Interleave.Step S.execute Starts) ⟨s₀, []⟩ c →
      ∃ c' : Configuration O R E ρ σ C A, S.Reaches s₀ c' ∧ c'.state = c.state ∧
        c.running.Sublist (c'.threads.map fun t => t.rest >>= fun _ => pure ()) := by
    intro c hc
    induction hc with
    | refl => exact ⟨⟨s₀, [], []⟩, .refl, rfl, .slnil⟩
    | tail _ hstep ih =>
      obtain ⟨⟨s', trace, ts⟩, hreach, hstate, hsub⟩ := ih
      dsimp only at hstate hsub
      cases hstep with
      | start p hp =>
        obtain ⟨call, rfl⟩ := hstarts p hp
        exact ⟨_, hreach.tail (.start call), hstate, hsub.cons_cons _⟩
      | perform before after o k answer =>
        -- the program that moves is what is left of one of the calls
        obtain ⟨r₁, r₂, hsplit, hbefore, hrest⟩ := List.append_sublist_iff.mp hsub
        obtain ⟨r₃, r₄, rfl, hmem, hafter⟩ := List.cons_sublist_iff.mp hrest
        obtain ⟨r₅, r₆, rfl⟩ := List.append_of_mem hmem
        obtain ⟨t₁, ts', rfl, rfl, htail⟩ := List.map_eq_append_iff.mp hsplit
        obtain ⟨t₃, t₄, rfl, hfront, rfl⟩ := List.map_eq_append_iff.mp htail
        obtain ⟨t₅, t₆', rfl, rfl, hcons⟩ := List.map_eq_append_iff.mp hfront
        obtain ⟨⟨call, log, rest⟩, t₆, rfl, hop, rfl⟩ := List.map_eq_cons_iff.mp hcons
        cases rest with
        | ret r => rcases r with e | a <;> cases hop
        | op o' k' =>
          cases hop
          subst hstate
          have hstep : S.Step ⟨s', trace, _⟩ _ :=
            .perform (t₁ ++ t₅) (t₆ ++ t₄) call log _ k' answer (hallowed _ answer)
          refine ⟨_, hreach.tail (by simpa using hstep), rfl, ?_⟩
          simp only [List.map_append, List.map_cons]
          refine hbefore.append ?_
          refine List.Sublist.trans ?_ (List.sublist_append_right _ _)
          refine List.Sublist.cons_cons _ ?_
          exact hafter.trans (List.sublist_append_right _ _)
      | crash before after p =>
        refine ⟨⟨s', trace, ts⟩, hreach, hstate, List.Sublist.trans ?_ hsub⟩
        exact (List.Sublist.refl before).append (List.sublist_cons_self p after)
  obtain ⟨c, hc, hstate, -⟩ := key _ hrun
  exact ⟨c, hc, hstate⟩

end runs
