/-
SubmittedIt/Executions.lean

Executions with their logs: library, independent of the model.

`p.Executes execute s log r s'` is one execution of a program: performing the
operations of `log`, with the answers that the environment gave to them, `p`
leads from `s` to `s'` and ends with `r`.  What an execution did at one point
can be read off what it did later, since both are parts of one log.

Main results: `executes_bind`, `executes_bind_ok` and `executes_attempt` (the
parts of an execution), `Meets.executes` (what holds of every execution),
`executes_run` (an executor's run is an execution).
-/
import SubmittedIt.ProgLogic
import SubmittedIt.Threads

namespace Prog

variable {O : Type} {R : O → Type} {E α β σ : Type} {A : O → Type}

/-- The program performs the operations of the log, and ends with `r`. -/
def Executes (execute : (o : O) → A o → σ → Except E (R o) × σ) :
    Prog O R E α → σ → List (Event O A σ) → Except E α → σ → Prop
  | ret r₀, s, log, r, s' => log = [] ∧ r = r₀ ∧ s' = s
  | op o k, s, log, r, s' => ∃ answer rest, log = ⟨o, answer, s⟩ :: rest ∧
      (k (execute o answer s).1).Executes execute (execute o answer s).2 rest r s'

variable {execute : (o : O) → A o → σ → Except E (R o) × σ} {s s' : σ}
  {log : List (Event O A σ)}

theorem executes_pure {a : α} {r : Except E α} :
    (pure a : Prog O R E α).Executes execute s log r s' ↔ log = [] ∧ r = .ok a ∧ s' = s := Iff.rfl

theorem executes_throw {e : E} {r : Except E α} :
    (throw e : Prog O R E α).Executes execute s log r s' ↔ log = [] ∧ r = .error e ∧ s' = s :=
  Iff.rfl

theorem executes_ofExcept {r₀ r : Except E α} :
    (ofExcept r₀ : Prog O R E α).Executes execute s log r s' ↔ log = [] ∧ r = r₀ ∧ s' = s :=
  Iff.rfl

theorem executes_perform {o : O} {r : Except E (R o)} :
    (perform o : Prog O R E (R o)).Executes execute s log r s' ↔
      ∃ answer, log = [⟨o, answer, s⟩] ∧ execute o answer s = (r, s') := by
  constructor
  · rintro ⟨answer, rest, rfl, rfl, rfl, rfl⟩
    exact ⟨answer, rfl, rfl⟩
  · rintro ⟨answer, rfl, h⟩
    exact ⟨answer, [], rfl, rfl, by rw [h], by rw [h]⟩

/-- **The parts of an execution of a sequence.** -/
theorem executes_bind {p : Prog O R E α} {f : α → Prog O R E β} {r : Except E β} :
    (p >>= f).Executes execute s log r s' ↔
      (∃ log₁ log₂ a s₁, p.Executes execute s log₁ (.ok a) s₁ ∧
        (f a).Executes execute s₁ log₂ r s' ∧ log = log₁ ++ log₂) ∨
      ∃ e, p.Executes execute s log (.error e) s' ∧ r = .error e := by
  induction p generalizing s log with
  | ret r₀ =>
    rcases r₀ with e | a
    · constructor
      · rintro ⟨rfl, rfl, rfl⟩
        exact .inr ⟨e, ⟨rfl, rfl, rfl⟩, rfl⟩
      · rintro (⟨log₁, log₂, a, s₁, ⟨-, h, -⟩, -, -⟩ | ⟨e', ⟨rfl, h, rfl⟩, rfl⟩)
        · cases h
        · cases h
          exact ⟨rfl, rfl, rfl⟩
    · constructor
      · intro h
        exact .inl ⟨[], log, a, s, ⟨rfl, rfl, rfl⟩, h, rfl⟩
      · rintro (⟨log₁, log₂, a', s₁, ⟨rfl, h, rfl⟩, hf, rfl⟩ | ⟨e, ⟨-, h, -⟩, -⟩)
        · cases h
          exact hf
        · cases h
  | op o k ih =>
    constructor
    · rintro ⟨answer, rest, rfl, hrest⟩
      obtain ⟨log₁, log₂, a, s₁, hp, hf, rfl⟩ | ⟨e, hp, rfl⟩ := (ih _).mp hrest
      · exact .inl ⟨⟨o, answer, s⟩ :: log₁, log₂, a, s₁, ⟨answer, log₁, rfl, hp⟩, hf, rfl⟩
      · exact .inr ⟨e, ⟨answer, rest, rfl, hp⟩, rfl⟩
    · rintro (⟨log₁, log₂, a, s₁, ⟨answer, rest, rfl, hp⟩, hf, rfl⟩ |
        ⟨e, ⟨answer, rest, rfl, hp⟩, rfl⟩)
      · exact ⟨answer, rest ++ log₂, rfl, (ih _).mpr (.inl ⟨rest, log₂, a, s₁, hp, hf, rfl⟩)⟩
      · exact ⟨answer, rest, rfl, (ih _).mpr (.inr ⟨e, hp, rfl⟩)⟩

/-- A sequence that returns a value. -/
theorem executes_bind_ok {p : Prog O R E α} {f : α → Prog O R E β} {b : β} :
    (p >>= f).Executes execute s log (.ok b) s' ↔
      ∃ log₁ log₂ a s₁, p.Executes execute s log₁ (.ok a) s₁ ∧
        (f a).Executes execute s₁ log₂ (.ok b) s' ∧ log = log₁ ++ log₂ := by
  rw [executes_bind]
  constructor
  · rintro (h | ⟨e, -, h⟩)
    · exact h
    · cases h
  · exact .inl

/-- One operation, and what follows it, with a value for a result. -/
theorem executes_perform_bind {o : O} {f : R o → Prog O R E β} {b : β} :
    (perform o >>= f : Prog O R E β).Executes execute s log (.ok b) s' ↔
      ∃ answer rest a s₁, execute o answer s = (.ok a, s₁) ∧
        (f a).Executes execute s₁ rest (.ok b) s' ∧ log = ⟨o, answer, s⟩ :: rest := by
  rw [executes_bind_ok]
  constructor
  · rintro ⟨log₁, log₂, a, s₁, hp, hf, rfl⟩
    obtain ⟨answer, rfl, he⟩ := executes_perform.mp hp
    exact ⟨answer, log₂, a, s₁, he, hf, rfl⟩
  · rintro ⟨answer, rest, a, s₁, he, hf, rfl⟩
    exact ⟨[_], rest, a, s₁, executes_perform.mpr ⟨answer, rfl, he⟩, hf, rfl⟩

/-- A computation that awaits nothing, and what follows it. -/
theorem executes_ofExcept_bind {r₀ : Except E α} {f : α → Prog O R E β} {b : β} :
    (ofExcept r₀ >>= f : Prog O R E β).Executes execute s log (.ok b) s' ↔
      ∃ a, r₀ = .ok a ∧ (f a).Executes execute s log (.ok b) s' := by
  rcases r₀ with e | a
  · constructor
    · rintro ⟨-, h, -⟩
      cases h
    · rintro ⟨a, h, -⟩
      cases h
  · exact ⟨fun h => ⟨a, rfl, h⟩, fun ⟨a', h, hf⟩ => by cases h; exact hf⟩

/-- **An execution of a guarded program**: it ends as the program does, with
the error made a value. -/
theorem executes_attempt {p : Prog O R E α} {r : Except E (Except E α)} :
    p.attempt.Executes execute s log r s' ↔ ∃ r₀, r = .ok r₀ ∧ p.Executes execute s log r₀ s' := by
  induction p generalizing s log with
  | ret r₀ =>
    constructor
    · rintro ⟨rfl, rfl, rfl⟩
      exact ⟨r₀, rfl, rfl, rfl, rfl⟩
    · rintro ⟨r₁, rfl, rfl, rfl, rfl⟩
      exact ⟨rfl, rfl, rfl⟩
  | op o k ih =>
    constructor
    · rintro ⟨answer, rest, rfl, hrest⟩
      obtain ⟨r₀, rfl, hp⟩ := (ih _).mp hrest
      exact ⟨r₀, rfl, answer, rest, rfl, hp⟩
    · rintro ⟨r₀, rfl, answer, rest, rfl, hp⟩
      exact ⟨answer, rest, rfl, (ih _).mpr ⟨r₀, rfl, hp⟩⟩

/-- A guarded program, and what follows it. -/
theorem executes_attempt_bind {p : Prog O R E α} {f : Except E α → Prog O R E β} {b : β} :
    (p.attempt >>= f).Executes execute s log (.ok b) s' ↔
      ∃ log₁ log₂ r₀ s₁, p.Executes execute s log₁ r₀ s₁ ∧
        (f r₀).Executes execute s₁ log₂ (.ok b) s' ∧ log = log₁ ++ log₂ := by
  rw [executes_bind_ok]
  constructor
  · rintro ⟨log₁, log₂, a, s₁, hp, hf, rfl⟩
    obtain ⟨r₀, h, hp⟩ := executes_attempt.mp hp
    cases h
    exact ⟨log₁, log₂, a, s₁, hp, hf, rfl⟩
  · rintro ⟨log₁, log₂, r₀, s₁, hp, hf, rfl⟩
    exact ⟨log₁, log₂, r₀, s₁, executes_attempt.mpr ⟨r₀, rfl, hp⟩, hf, rfl⟩

/-- **What every execution keeps**, an execution with allowed answers keeps,
event by event. -/
theorem Meets.executes {step : (o : O) → σ → Except E (R o) → σ → Prop} {I : σ → Prop}
    {Q : Except E α → σ → Prop} {p : Prog O R E α} {r : Except E α}
    (h : p.Meets step I Q s) (hp : p.Executes execute s log r s')
    (hstep : ∀ e ∈ log, step e.op e.before (execute e.op e.answer e.before).1
      (execute e.op e.answer e.before).2) :
    Q r s' ∧ ∀ e ∈ log, I (execute e.op e.answer e.before).2 := by
  induction p generalizing s log with
  | ret r₀ =>
    obtain ⟨rfl, rfl, rfl⟩ := hp
    exact ⟨h, fun e he => absurd he List.not_mem_nil⟩
  | op o k ih =>
    obtain ⟨answer, rest, rfl, hrest⟩ := hp
    obtain ⟨hI, hk⟩ := h _ _ (hstep _ List.mem_cons_self)
    obtain ⟨hQ, hlog⟩ := ih _ hk hrest fun e he => hstep e (List.mem_cons_of_mem _ he)
    exact ⟨hQ, List.forall_mem_cons.mpr ⟨hI, hlog⟩⟩

/-- An execution ends in the state that its last event left. -/
theorem executes_last {p : Prog O R E α} {r : Except E α} (h : p.Executes execute s log r s') :
    (log = [] ∧ s' = s) ∨ ∃ e ∈ log, (execute e.op e.answer e.before).2 = s' := by
  induction p generalizing s log with
  | ret r₀ => exact .inl ⟨h.1, h.2.2⟩
  | op o k ih =>
    obtain ⟨answer, rest, rfl, hrest⟩ := h
    right
    rcases ih _ hrest with ⟨-, rfl⟩ | ⟨e, he, hlast⟩
    · exact ⟨_, List.mem_cons_self, rfl⟩
    · exact ⟨e, List.mem_cons_of_mem _ he, hlast⟩

/-- The log of a run that an environment answers. -/
def logOf (execute : (o : O) → A o → σ → Except E (R o) × σ) (env : (o : O) → σ → A o) :
    Prog O R E α → σ → List (Event O A σ)
  | ret _, _ => []
  | op o k, s => ⟨o, env o s, s⟩ ::
      logOf execute env (k (execute o (env o s) s).1) (execute o (env o s) s).2

/-- The log's answers are the environment's. -/
theorem logOf_answer {env : (o : O) → σ → A o} {p : Prog O R E α} {e : Event O A σ}
    (h : e ∈ p.logOf execute env s) : e.answer = env e.op e.before := by
  induction p generalizing s with
  | ret r => cases h
  | op o k ih =>
    rcases List.mem_cons.mp h with rfl | h
    · rfl
    · exact ih _ h

/-- **The run of an executor is an execution.** -/
theorem executes_run (env : (o : O) → σ → A o) (p : Prog O R E α) (s : σ) :
    p.Executes execute s (p.logOf execute env s) (p.run (fun o s => execute o (env o s) s) s).1
      (p.run (fun o s => execute o (env o s) s) s).2 := by
  induction p generalizing s with
  | ret r => exact ⟨rfl, rfl, rfl⟩
  | op o k ih => exact ⟨env o s, _, rfl, ih _ _⟩

end Prog
