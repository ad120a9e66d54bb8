/-
SubmittedIt/ProgLogic.lean

Rules for programs over atomic operations: library, independent of the model.

`p.Meets step I Q s` says that every execution of `p` from `s`, each of its
operations answering as `step` allows, keeps `I` after every operation and
ends as `Q` says.  What `step` allows is free: the graph of one executor, an
executor among interfering programs, or one whose operations may fail.

`p.Throughout exec I s` is the case of one executor where only `I` matters.

`p.failAt exec failable e k s` is the execution of `p` in which its `k`-th
failable operation fails with `e` and has no effect.  A `Strict` program hands
every error of an operation on, so a failure is its last event.

Main results: `meets_bind`, `meets_attempt` and `Meets.run` (the rules of
`Meets`), `throughout_bind`, `fails_bind`, `fails_attempt`, `Fails.inv` and
`Strict.fails` (where a failure can strike, and what is left after it).
-/
import SubmittedIt.Prog

namespace Prog

variable {O : Type} {R : O → Type} {E α β σ : Type}

/-! ### Executions that keep an invariant -/

/-- Every execution of the program keeps `I` and ends as `Q` says. -/
def Meets (step : (o : O) → σ → Except E (R o) → σ → Prop) (I : σ → Prop) :
    Prog O R E α → (Except E α → σ → Prop) → σ → Prop
  | ret r, Q, s => Q r s
  | op o k, Q, s => ∀ r s', step o s r s' → I s' ∧ (k r).Meets step I Q s'

section meets

variable {step step' : (o : O) → σ → Except E (R o) → σ → Prop} {I I' : σ → Prop}
  {Q Q' : Except E α → σ → Prop} {s : σ}

@[simp] theorem meets_ret (r : Except E α) : (ret r : Prog O R E α).Meets step I Q s ↔ Q r s :=
  Iff.rfl

@[simp] theorem meets_pure (a : α) : (pure a : Prog O R E α).Meets step I Q s ↔ Q (.ok a) s :=
  Iff.rfl

@[simp] theorem meets_throw (e : E) : (throw e : Prog O R E α).Meets step I Q s ↔ Q (.error e) s :=
  Iff.rfl

@[simp] theorem meets_ofExcept (r : Except E α) :
    (ofExcept r : Prog O R E α).Meets step I Q s ↔ Q r s := Iff.rfl

theorem meets_perform {o : O} {Q : Except E (R o) → σ → Prop} :
    (perform o : Prog O R E (R o)).Meets step I Q s ↔ ∀ r s', step o s r s' → I s' ∧ Q r s' :=
  Iff.rfl

/-- Weaker obligations follow: fewer answers, a weaker invariant, a weaker
end. -/
theorem Meets.mono {p : Prog O R E α} (h : p.Meets step I Q s)
    (hstep : ∀ o s r s', step' o s r s' → step o s r s') (hI : ∀ s, I s → I' s)
    (hQ : ∀ r s, Q r s → Q' r s) : p.Meets step' I' Q' s := by
  induction p generalizing s with
  | ret r => exact hQ r s h
  | op o k ih =>
    intro r s' hs
    obtain ⟨hI', hk⟩ := h r s' (hstep o s r s' hs)
    exact ⟨hI s' hI', ih r hk⟩

theorem Meets.imp {p : Prog O R E α} (h : p.Meets step I Q s) (hQ : ∀ r s, Q r s → Q' r s) :
    p.Meets step I Q' s :=
  h.mono (fun _ _ _ _ hs => hs) (fun _ hI => hI) hQ

/-- The invariant holds at the end of an execution that started with it. -/
theorem Meets.and_inv {p : Prog O R E α} (h : p.Meets step I Q s) (hs : I s) :
    p.Meets step I (fun r s' => I s' ∧ Q r s') s := by
  induction p generalizing s with
  | ret r => exact ⟨hs, h⟩
  | op o k ih =>
    intro r s' hstep
    obtain ⟨hI', hk⟩ := h r s' hstep
    exact ⟨hI', ih r hk hI'⟩

/-- **Sequencing.** -/
theorem meets_bind {p : Prog O R E α} {f : α → Prog O R E β} {Q : Except E β → σ → Prop} :
    (p >>= f).Meets step I Q s ↔
      p.Meets step I (fun r s' => match r with
        | .ok a => (f a).Meets step I Q s'
        | .error e => Q (.error e) s') s := by
  induction p generalizing s with
  | ret r =>
    rcases r with e | a
    · exact Iff.rfl
    · exact Iff.rfl
  | op o k ih =>
    constructor
    · intro h r s' hs
      exact ⟨(h r s' hs).1, (ih r).mp (h r s' hs).2⟩
    · intro h r s' hs
      exact ⟨(h r s' hs).1, (ih r).mpr (h r s' hs).2⟩

/-- **Catching an error.** -/
theorem meets_attempt {p : Prog O R E α} {Q : Except E (Except E α) → σ → Prop} :
    p.attempt.Meets step I Q s ↔ p.Meets step I (fun r s' => Q (.ok r) s') s := by
  induction p generalizing s with
  | ret r => exact Iff.rfl
  | op o k ih =>
    constructor
    · intro h r s' hs
      exact ⟨(h r s' hs).1, (ih r).mp (h r s' hs).2⟩
    · intro h r s' hs
      exact ⟨(h r s' hs).1, (ih r).mpr (h r s' hs).2⟩

/-- **What holds of every execution holds of the one without failures.** -/
theorem Meets.run {exec : (o : O) → σ → Except E (R o) × σ} {p : Prog O R E α}
    (h : p.Meets step I Q s) (hstep : ∀ o s, step o s (exec o s).1 (exec o s).2) :
    Q (p.run exec s).1 (p.run exec s).2 := by
  induction p generalizing s with
  | ret r => exact h
  | op o k ih => exact ih _ (h _ _ (hstep o s)).2

end meets

/-! ### The states of one execution -/

section throughout

/-- The steps of an executor. -/
def Runs {σ : Type} (exec : (o : O) → σ → Except E (R o) × σ) (o : O) (s : σ)
    (r : Except E (R o)) (s' : σ) : Prop := exec o s = (r, s')

/-- `I` holds after every operation of the execution from `s`. -/
def Throughout {σ : Type} (exec : (o : O) → σ → Except E (R o) × σ) (I : σ → Prop)
    (p : Prog O R E α) (s : σ) : Prop := p.Meets (Runs exec) I (fun _ _ => True) s

variable {exec : (o : O) → σ → Except E (R o) × σ} {I I' : σ → Prop} {s : σ}

@[simp] theorem throughout_ret (r : Except E α) :
    (ret r : Prog O R E α).Throughout exec I s := trivial

@[simp] theorem throughout_pure (a : α) : (pure a : Prog O R E α).Throughout exec I s := trivial

@[simp] theorem throughout_throw (e : E) : (throw e : Prog O R E α).Throughout exec I s := trivial

@[simp] theorem throughout_ofExcept (r : Except E α) :
    (ofExcept r : Prog O R E α).Throughout exec I s := trivial

theorem throughout_op {o : O} {k : Except E (R o) → Prog O R E α} :
    (op o k).Throughout exec I s ↔
      I (exec o s).2 ∧ (k (exec o s).1).Throughout exec I (exec o s).2 := by
  constructor
  · intro h
    exact h _ _ rfl
  · rintro ⟨hI, hk⟩ r s' hs
    have hr : exec o s = (r, s') := hs
    rw [hr] at hI hk
    exact ⟨hI, hk⟩

@[simp] theorem throughout_perform {o : O} :
    (perform o : Prog O R E (R o)).Throughout exec I s ↔ I (exec o s).2 := by
  rw [perform, throughout_op]
  exact and_iff_left trivial

theorem throughout_bind {p : Prog O R E α} {f : α → Prog O R E β} :
    (p >>= f).Throughout exec I s ↔
      p.Throughout exec I s ∧
        ∀ a s', p.run exec s = (.ok a, s') → (f a).Throughout exec I s' := by
  induction p generalizing s with
  | ret r =>
    rcases r with e | a
    · constructor
      · intro _
        exact ⟨trivial, fun a s' h => by cases h⟩
      · intro _
        trivial
    · constructor
      · intro h
        exact ⟨trivial, fun a' s' h' => by cases h'; exact h⟩
      · intro h
        exact h.2 a s rfl
  | op o k ih => rw [op_bind, throughout_op, throughout_op, ih, and_assoc]; rfl

theorem Throughout.mono {p : Prog O R E α} (h : p.Throughout exec I s) (hI : ∀ s, I s → I' s) :
    p.Throughout exec I' s :=
  Meets.mono h (fun _ _ _ _ hs => hs) hI fun _ _ _ => trivial

/-- One operation of one executor. -/
theorem meets_runs_perform {o : O} {Q : Except E (R o) → σ → Prop} :
    (perform o : Prog O R E (R o)).Meets (Runs exec) I Q s ↔
      I (exec o s).2 ∧ Q (exec o s).1 (exec o s).2 := by
  rw [meets_perform]
  constructor
  · intro h
    exact h _ _ rfl
  · rintro ⟨hI, hQ⟩ r s' hs
    have hr : exec o s = (r, s') := hs
    rw [hr] at hI hQ
    exact ⟨hI, hQ⟩

/-- One operation that succeeds, and what follows it. -/
theorem meets_perform_ok {o : O} {f : R o → Prog O R E α} {a : R o} {s' : σ}
    {Q : Except E α → σ → Prop} (h : exec o s = (.ok a, s')) (hI : I s')
    (hf : (f a).Meets (Runs exec) I Q s') : (perform o >>= f).Meets (Runs exec) I Q s := by
  rw [meets_bind, meets_runs_perform, h]
  exact ⟨hI, hf⟩

theorem Meets.throughout {p : Prog O R E α} {Q : Except E α → σ → Prop}
    (h : p.Meets (Runs exec) I Q s) : p.Throughout exec I s := h.imp fun _ _ _ => trivial

theorem Meets.result {p : Prog O R E α} {Q : Except E α → σ → Prop}
    (h : p.Meets (Runs exec) I Q s) : Q (p.run exec s).1 (p.run exec s).2 := h.run fun _ _ => rfl

/-- What holds throughout, and of the result. -/
theorem Throughout.meets {p : Prog O R E α} {Q : Except E α → σ → Prop}
    (h : p.Throughout exec I s) (hQ : Q (p.run exec s).1 (p.run exec s).2) :
    p.Meets (Runs exec) I Q s := by
  induction p generalizing s with
  | ret r => exact hQ
  | op o k ih =>
    intro r s' hs
    have hr : exec o s = (r, s') := hs
    obtain ⟨hI, hk⟩ := throughout_op.mp h
    have hrun : (op o k).run exec s = (k (exec o s).1).run exec (exec o s).2 := rfl
    rw [hr] at hI hk hrun
    rw [hrun] at hQ
    exact ⟨hI, ih r hk hQ⟩

/-- The invariant holds in the state the execution ends in. -/
theorem Throughout.run {p : Prog O R E α} (h : p.Throughout exec I s) (hs : I s) :
    I (p.run exec s).2 :=
  (Meets.and_inv h hs).result.1

end throughout

/-! ### One failing operation -/

section failAt

variable (exec : (o : O) → σ → Except E (R o) × σ) (failable : O → Bool) (e : E)

/-- The execution in which the `k`-th failable operation fails without an
effect: the state it found, and how the execution ends.  There is none where
the program performs fewer such operations. -/
def failAt : Nat → Prog O R E α → σ → Option (σ × Except E α × σ)
  | _, ret _, _ => none
  | k, op o f, s =>
    match failable o, k with
    | true, 0 => some (s, (f (.error e)).run exec s)
    | true, k + 1 => failAt k (f (exec o s).1) (exec o s).2
    | false, k => failAt k (f (exec o s).1) (exec o s).2

/-- A failure strikes: the state it finds is `before`, and the execution ends
with `r` in `s'`. -/
def Fails (p : Prog O R E α) (s before : σ) (r : Except E α) (s' : σ) : Prop :=
  ∃ k, failAt exec failable e k p s = some (before, r, s')

variable {exec failable e}

theorem not_fails_ret {r₀ : Except E α} {s b s' : σ} {r : Except E α} :
    ¬ Fails exec failable e (ret r₀ : Prog O R E α) s b r s' := by
  rintro ⟨k, hk⟩
  cases hk

theorem fails_op {o : O} {f : Except E (R o) → Prog O R E α} {s b s' : σ} {r : Except E α} :
    Fails exec failable e (op o f) s b r s' ↔
      (failable o = true ∧ b = s ∧ (r, s') = (f (.error e)).run exec s) ∨
        Fails exec failable e (f (exec o s).1) (exec o s).2 b r s' := by
  constructor
  · rintro ⟨k, hk⟩
    unfold failAt at hk
    split at hk
    · rename_i hfailable
      simp only [Option.some.injEq, Prod.mk.injEq] at hk
      exact .inl ⟨hfailable, hk.1.symm, by rw [hk.2]⟩
    · exact .inr ⟨_, hk⟩
    · exact .inr ⟨_, hk⟩
  · rintro (⟨hfailable, rfl, hrun⟩ | ⟨k, hk⟩)
    · exact ⟨0, by simp [failAt, hfailable, hrun]⟩
    · cases hfailable : failable o with
      | true => exact ⟨k + 1, by simp [failAt, hfailable, hk]⟩
      | false => exact ⟨k, by simp [failAt, hfailable, hk]⟩

theorem fails_perform {o : O} {s b s' : σ} {r : Except E (R o)} :
    Fails exec failable e (perform o : Prog O R E (R o)) s b r s' ↔
      failable o = true ∧ b = s ∧ r = .error e ∧ s' = s := by
  rw [perform, fails_op]
  constructor
  · rintro (⟨hfailable, hb, hrun⟩ | h)
    · cases hrun
      exact ⟨hfailable, hb, rfl, rfl⟩
    · exact absurd h not_fails_ret
  · rintro ⟨hfailable, hb, rfl, rfl⟩
    exact .inl ⟨hfailable, hb, rfl⟩

/-- **Where a failure strikes in a sequence**: in the first program, which may
catch it, or in the second. -/
theorem fails_bind {p : Prog O R E α} {f : α → Prog O R E β} {s b s' : σ} {r : Except E β} :
    Fails exec failable e (p >>= f) s b r s' ↔
      (∃ a s₁, Fails exec failable e p s b (.ok a) s₁ ∧ (r, s') = (f a).run exec s₁) ∨
      (∃ e', Fails exec failable e p s b (.error e') s' ∧ r = .error e') ∨
      (∃ a s₁, p.run exec s = (.ok a, s₁) ∧ Fails exec failable e (f a) s₁ b r s') := by
  induction p generalizing s with
  | ret r₀ =>
    have hno : ∀ r₁ s₁, ¬ Fails exec failable e (ret r₀ : Prog O R E α) s b r₁ s₁ :=
      fun _ _ => not_fails_ret
    simp only [hno, false_and, exists_false, false_or]
    rcases r₀ with e₀ | a
    · simp only [run_ret, Prod.mk.injEq, reduceCtorEq, false_and, exists_false, iff_false]
      exact not_fails_ret
    · simp only [run_ret, Prod.mk.injEq, Except.ok.injEq]
      constructor
      · intro h
        exact ⟨a, s, ⟨rfl, rfl⟩, h⟩
      · rintro ⟨a', s₁, ⟨rfl, rfl⟩, h⟩
        exact h
  | op o k ih =>
    rw [op_bind, fails_op, ih (exec o s).1]
    simp only [fails_op]
    constructor
    · rintro (⟨hfailable, hb, hrun⟩ | ⟨a, s₁, h, hrun⟩ | ⟨e', h, hr⟩ | ⟨a, s₁, hrun, h⟩)
      · rw [run_bind] at hrun
        rcases hk : (k (.error e)).run exec s with ⟨e' | a, s₁⟩
        · rw [hk] at hrun
          cases hrun
          exact .inr (.inl ⟨e', .inl ⟨hfailable, hb, rfl⟩, rfl⟩)
        · rw [hk] at hrun
          exact .inl ⟨a, s₁, .inl ⟨hfailable, hb, rfl⟩, hrun⟩
      · exact .inl ⟨a, s₁, .inr h, hrun⟩
      · exact .inr (.inl ⟨e', .inr h, hr⟩)
      · exact .inr (.inr ⟨a, s₁, hrun, h⟩)
    · rintro (⟨a, s₁, ⟨hfailable, hb, hrun⟩ | h, hrun'⟩ | ⟨e', ⟨hfailable, hb, hrun⟩ | h, hr⟩ |
        ⟨a, s₁, hrun, h⟩)
      · refine .inl ⟨hfailable, hb, ?_⟩
        rw [run_bind, ← hrun]
        exact hrun'
      · exact .inr (.inl ⟨a, s₁, h, hrun'⟩)
      · refine .inl ⟨hfailable, hb, ?_⟩
        rw [run_bind, ← hrun, hr]
      · exact .inr (.inr (.inl ⟨e', h, hr⟩))
      · exact .inr (.inr (.inr ⟨a, s₁, hrun, h⟩))

/-- A guarded program ends as the program does. -/
theorem fails_attempt {p : Prog O R E α} {s b s' : σ} {r : Except E (Except E α)} :
    Fails exec failable e p.attempt s b r s' ↔
      ∃ r₀, r = .ok r₀ ∧ Fails exec failable e p s b r₀ s' := by
  induction p generalizing s with
  | ret r₀ =>
    constructor
    · intro h
      exact absurd h not_fails_ret
    · rintro ⟨r₁, -, h⟩
      exact absurd h not_fails_ret
  | op o k ih =>
    show Fails exec failable e (op o fun r => (k r).attempt) s b r s' ↔ _
    rw [fails_op, ih (exec o s).1]
    simp only [fails_op]
    constructor
    · rintro (⟨hfailable, hb, hrun⟩ | ⟨r₀, hr, h⟩)
      · rw [run_attempt] at hrun
        cases hrun
        exact ⟨_, rfl, .inl ⟨hfailable, hb, rfl⟩⟩
      · exact ⟨r₀, hr, .inr h⟩
    · rintro ⟨r₀, rfl, ⟨hfailable, hb, hrun⟩ | h⟩
      · refine .inl ⟨hfailable, hb, ?_⟩
        rw [run_attempt, ← hrun]
      · exact .inr ⟨r₀, rfl, h⟩

/-- A failure finds a state of the execution without failures. -/
theorem Fails.inv {I : σ → Prop} {p : Prog O R E α} {s b s' : σ} {r : Except E α}
    (h : Fails exec failable e p s b r s') (hp : p.Throughout exec I s) (hs : I s) : I b := by
  induction p generalizing s with
  | ret r₀ => exact absurd h not_fails_ret
  | op o k ih =>
    rcases fails_op.mp h with ⟨-, rfl, -⟩ | h
    · exact hs
    · obtain ⟨hI, hk⟩ := throughout_op.mp hp
      exact ih _ h hk hI

end failAt

/-! ### Programs that hand errors on -/

/-- Every error of an operation ends the program. -/
def Strict : Prog O R E α → Prop
  | ret _ => True
  | op _ k => (∀ e, k (.error e) = ret (.error e)) ∧ ∀ a, (k (.ok a)).Strict

theorem strict_pure (a : α) : (pure a : Prog O R E α).Strict := trivial

theorem strict_throw (e : E) : (throw e : Prog O R E α).Strict := trivial

theorem strict_ofExcept (r : Except E α) : (ofExcept r : Prog O R E α).Strict := trivial

theorem strict_perform (o : O) : (perform o : Prog O R E (R o)).Strict :=
  ⟨fun _ => rfl, fun _ => trivial⟩

theorem Strict.bind {p : Prog O R E α} {f : α → Prog O R E β} (hp : p.Strict)
    (hf : ∀ a, (f a).Strict) : (p >>= f).Strict := by
  induction p with
  | ret r =>
    rcases r with e | a
    · trivial
    · exact hf a
  | op o k ih =>
    refine ⟨fun e => ?_, fun a => ih _ (hp.2 a)⟩
    show k (.error e) >>= f = _
    rw [hp.1 e]
    rfl

/-- More operations can fail. -/
theorem Fails.mono {exec : (o : O) → σ → Except E (R o) × σ} {failable failable' : O → Bool} {e : E}
    {p : Prog O R E α} {s b s' : σ} {r : Except E α} (h : Fails exec failable e p s b r s')
    (hfailable : ∀ o, failable o = true → failable' o = true) :
    Fails exec failable' e p s b r s' := by
  induction p generalizing s with
  | ret r₀ => exact absurd h not_fails_ret
  | op o f ih =>
    rcases fails_op.mp h with ⟨ho, hb, hrun⟩ | h
    · exact fails_op.mpr (.inl ⟨hfailable o ho, hb, hrun⟩)
    · exact fails_op.mpr (.inr (ih _ h))

/-- A failing operation is of some kind. -/
theorem Fails.kind {exec : (o : O) → σ → Except E (R o) × σ} {failable : O → Bool} {e : E}
    {p : Prog O R E α} {s b s' : σ} {r : Except E α} (kind : O → Bool)
    (h : Fails exec failable e p s b r s') :
    ∃ k, Fails exec (fun o => failable o && (kind o == k)) e p s b r s' := by
  induction p generalizing s with
  | ret r₀ => exact absurd h not_fails_ret
  | op o f ih =>
    rcases fails_op.mp h with ⟨hfailable, hb, hrun⟩ | h
    · exact ⟨kind o, fails_op.mpr (.inl ⟨by rw [hfailable, beq_self_eq_true]; rfl, hb, hrun⟩)⟩
    · obtain ⟨k, hk⟩ := ih _ h
      exact ⟨k, fails_op.mpr (.inr hk)⟩

/-- **A failure is the last event of a strict program.** -/
theorem Strict.fails {exec : (o : O) → σ → Except E (R o) × σ} {failable : O → Bool} {e : E}
    {p : Prog O R E α} (hp : p.Strict) {s b s' : σ} {r : Except E α}
    (h : Fails exec failable e p s b r s') : r = .error e ∧ s' = b := by
  induction p generalizing s with
  | ret r₀ => exact absurd h not_fails_ret
  | op o k ih =>
    rcases fails_op.mp h with ⟨-, rfl, hrun⟩ | h
    · rw [hp.1 e] at hrun
      cases hrun
      exact ⟨rfl, rfl⟩
    · rcases ho : (exec o s).1 with e₀ | a
      · rw [ho, hp.1 e₀] at h
        exact absurd h not_fails_ret
      · rw [ho] at h
        exact ih _ (hp.2 a) h

/-- **Where a failure strikes in a sequence with a strict first part**: there,
and then it is the last event, or after it. -/
theorem Strict.fails_sequence {exec : (o : O) → σ → Except E (R o) × σ} {failable : O → Bool}
    {e : E} {p : Prog O R E α} {f : α → Prog O R E β} (hp : p.Strict) {s b s' : σ}
    {r : Except E β} (h : Fails exec failable e (p >>= f) s b r s') :
    (r = .error e ∧ Fails exec failable e p s b (.error e) s') ∨
      ∃ a s₁, p.run exec s = (.ok a, s₁) ∧ Fails exec failable e (f a) s₁ b r s' := by
  rcases Prog.fails_bind.mp h with ⟨a, s₁, hfails, -⟩ | ⟨e', hfails, rfl⟩ | ⟨a, s₁, hrun, hfails⟩
  · obtain ⟨hr, -⟩ := hp.fails hfails
    cases hr
  · obtain ⟨hr, -⟩ := hp.fails hfails
    cases hr
    exact .inl ⟨rfl, hfails⟩
  · exact .inr ⟨a, s₁, hrun, hfails⟩

/-- **Where a failure strikes in an execution that would end well**: in its
strict first part, and then it is the last event, or after it. -/
theorem Strict.fails_bind {exec : (o : O) → σ → Except E (R o) × σ} {failable : O → Bool} {e : E}
    {p : Prog O R E α} {f : α → Prog O R E β} (hp : p.Strict) {s t b s' : σ} {v : β}
    {r : Except E β} (hrun : (p >>= f).run exec s = (.ok v, t))
    (h : Fails exec failable e (p >>= f) s b r s') :
    ∃ a s₁, p.run exec s = (.ok a, s₁) ∧ (f a).run exec s₁ = (.ok v, t) ∧
      (r = .error e ∧ s' = b ∧ Fails exec failable e p s b (.error e) b ∨
        Fails exec failable e (f a) s₁ b r s') := by
  rw [run_bind] at hrun
  rcases ha : p.run exec s with ⟨e₀ | a, s₁⟩
  · rw [ha] at hrun
    cases hrun
  · rw [ha] at hrun
    refine ⟨a, s₁, rfl, hrun, ?_⟩
    rcases Prog.fails_bind.mp h with ⟨a', s₂, hfails, -⟩ | ⟨e', hfails, rfl⟩ | ⟨a', s₂, hp', hfails⟩
    · obtain ⟨hr, -⟩ := hp.fails hfails
      cases hr
    · obtain ⟨hr, rfl⟩ := hp.fails hfails
      cases hr
      exact .inl ⟨rfl, rfl, hfails⟩
    · rw [ha] at hp'
      cases hp'
      exact .inr hfails

end Prog
