/-
SubmittedIt/Prog.lean

Programs over atomic operations: library, independent of the model.

`Prog O R E α` is the syntax tree of an asynchronous function: it either has
a result, or performs one operation `o : O`, waits for its outcome (an answer
in `R o` or an error in `E`), and goes on.  Awaiting is the only place where
anything else can happen, so one tree serves every question about a function:

* `run exec` executes it alone on a state, an operation being `exec o`;
* `runEnv` does the same where the environment answers, from an oracle that
  is asked once for each operation;
* `Interleave.Step` lets any number of programs take turns at their
  operations, start and vanish (a crash), with arbitrary answers.

Main results: `run_bind` and `run_attempt` (execution is compositional),
`Interleave.reachable_preserves` (what every operation preserves holds in
every state that any interleaving reaches), `Interleave.reachable_runFor`
(so are the states that a crash of one program leaves).
-/
import Mathlib

/-- An asynchronous function with result `α`: operations `O` with answers
`R`, errors `E`. -/
inductive Prog (O : Type) (R : O → Type) (E : Type) (α : Type) : Type
  | ret (result : Except E α)
  | op (o : O) (k : Except E (R o) → Prog O R E α)

namespace Prog

variable {O : Type} {R : O → Type} {E α β γ : Type}

/-! ### Sequencing and exceptions -/

/-- Run `p`, then `f` on its result; an error of `p` is the result. -/
def bind : Prog O R E α → (α → Prog O R E β) → Prog O R E β
  | ret (.ok a), f => f a
  | ret (.error e), _ => ret (.error e)
  | op o k, f => op o fun r => (k r).bind f

instance : Monad (Prog O R E) where
  pure a := ret (.ok a)
  bind := bind

/-- One operation. -/
def perform (o : O) : Prog O R E (R o) := op o ret

/-- Stop with an error. -/
def throw (e : E) : Prog O R E α := ret (.error e)

/-- A computation that awaits nothing. -/
def ofExcept (r : Except E α) : Prog O R E α := ret r

/-- Run `p` and report how it ended, as a value. -/
def attempt : Prog O R E α → Prog O R E (Except E α)
  | ret r => ret (.ok r)
  | op o k => op o fun r => (k r).attempt

/-- `try { p } catch (e) { handler e }`. -/
def tryCatch (p : Prog O R E α) (handler : E → Prog O R E α) : Prog O R E α :=
  p.attempt >>= fun
    | .ok a => pure a
    | .error e => handler e

@[simp] theorem pure_bind' (a : α) (f : α → Prog O R E β) : (pure a >>= f) = f a := rfl

@[simp] theorem throw_bind (e : E) (f : α → Prog O R E β) :
    ((throw e : Prog O R E α) >>= f) = throw e := rfl

@[simp] theorem op_bind (o : O) (k : Except E (R o) → Prog O R E α) (f : α → Prog O R E β) :
    (op o k >>= f) = op o fun r => k r >>= f := rfl

theorem bind_assoc' (p : Prog O R E α) (f : α → Prog O R E β) (g : β → Prog O R E γ) :
    (p >>= f) >>= g = p >>= fun a => f a >>= g := by
  induction p with
  | ret r =>
    rcases r with e | a
    · rfl
    · rfl
  | op o k ih =>
    show op o (fun r => (k r >>= f) >>= g) = op o fun r => k r >>= fun a => f a >>= g
    exact congrArg (op o) (funext ih)

/-! ### Execution -/

section run

variable {σ : Type} (exec : (o : O) → σ → Except E (R o) × σ)

/-- Execute a program alone. -/
def run : Prog O R E α → σ → Except E α × σ
  | ret r, s => (r, s)
  | op o k, s => (k (exec o s).1).run (exec o s).2

/-- The first `k` operations of a program: what is left of it, and the
state. -/
def runFor : Nat → Prog O R E α → σ → Prog O R E α × σ
  | 0, p, s => (p, s)
  | _ + 1, ret r, s => (ret r, s)
  | k + 1, op o f, s => runFor k (f (exec o s).1) (exec o s).2

variable {exec}

@[simp] theorem run_ret (r : Except E α) (s : σ) :
    (ret r : Prog O R E α).run exec s = (r, s) := rfl

@[simp] theorem run_pure (a : α) (s : σ) :
    (pure a : Prog O R E α).run exec s = (.ok a, s) := rfl

@[simp] theorem run_throw (e : E) (s : σ) :
    (throw e : Prog O R E α).run exec s = (.error e, s) := rfl

@[simp] theorem run_ofExcept (r : Except E α) (s : σ) :
    (ofExcept r : Prog O R E α).run exec s = (r, s) := rfl

@[simp] theorem run_perform (o : O) (s : σ) :
    (perform o : Prog O R E (R o)).run exec s = exec o s := rfl

/-- **Execution of a sequence.** -/
theorem run_bind (p : Prog O R E α) (f : α → Prog O R E β) (s : σ) :
    (p >>= f).run exec s =
      match p.run exec s with
      | (.ok a, s') => (f a).run exec s'
      | (.error e, s') => (.error e, s') := by
  induction p generalizing s with
  | ret r =>
    rcases r with e | a
    · rfl
    · rfl
  | op o k ih => exact ih (exec o s).1 (exec o s).2

theorem run_bind_ok {p : Prog O R E α} {f : α → Prog O R E β} {s s' : σ} {a : α}
    (h : p.run exec s = (.ok a, s')) : (p >>= f).run exec s = (f a).run exec s' := by
  rw [run_bind, h]

theorem run_bind_error {p : Prog O R E α} {f : α → Prog O R E β} {s s' : σ} {e : E}
    (h : p.run exec s = (.error e, s')) : (p >>= f).run exec s = (.error e, s') := by
  rw [run_bind, h]

/-- What the first program of a sequence that ends well returned. -/
theorem run_bind_eq_ok {p : Prog O R E α} {f : α → Prog O R E β} {s s' : σ} {b : β}
    (h : (p >>= f).run exec s = (.ok b, s')) :
    ∃ a t, p.run exec s = (.ok a, t) ∧ (f a).run exec t = (.ok b, s') := by
  rw [run_bind] at h
  rcases hp : p.run exec s with ⟨e | a, t⟩
  · rw [hp] at h
    cases h
  · rw [hp] at h
    exact ⟨a, t, rfl, h⟩

/-- **Execution of a guarded program**: it ends as the program does, with the
error made a value. -/
theorem run_attempt (p : Prog O R E α) (s : σ) :
    p.attempt.run exec s = (.ok (p.run exec s).1, (p.run exec s).2) := by
  induction p generalizing s with
  | ret r => rfl
  | op o k ih => exact ih (exec o s).1 (exec o s).2

end run

/-! ### Execution in an environment -/

section env

variable {σ : Type} {A : O → Type} (execute : (o : O) → A o → σ → Except E (R o) × σ)

/-- One operation answered by the oracle `env`, which is told how many
operations were performed before it. -/
def execEnv (env : Nat → (o : O) → A o) (o : O) (s : σ × Nat) : Except E (R o) × σ × Nat :=
  let r := execute o (env s.2 o) s.1
  (r.1, r.2, s.2 + 1)

end env

end Prog

/-! ### Interleavings -/

namespace Interleave

variable {O : Type} {R : O → Type} {E α σ : Type} {A : O → Type}

/-- The shared state and the programs under way. -/
structure Config (O : Type) (R : O → Type) (E α σ : Type) where
  state : σ
  running : List (Prog O R E α)

/-- One step: a program starts, performs its next operation with some answer,
or vanishes. -/
inductive Step (execute : (o : O) → A o → σ → Except E (R o) × σ)
    (Starts : Prog O R E α → Prop) : Config O R E α σ → Config O R E α σ → Prop
  | start {s ps} (p : Prog O R E α) : Starts p → Step execute Starts ⟨s, ps⟩ ⟨s, p :: ps⟩
  | perform {s} (before after : List (Prog O R E α)) (o : O)
      (k : Except E (R o) → Prog O R E α) (answer : A o) :
      Step execute Starts ⟨s, before ++ .op o k :: after⟩
        ⟨(execute o answer s).2, before ++ k (execute o answer s).1 :: after⟩
  | crash {s} (before after : List (Prog O R E α)) (p : Prog O R E α) :
      Step execute Starts ⟨s, before ++ p :: after⟩ ⟨s, before ++ after⟩

/-- The states that interleavings reach from `s₀`. -/
def Reachable (execute : (o : O) → A o → σ → Except E (R o) × σ)
    (Starts : Prog O R E α → Prop) (s₀ s : σ) : Prop :=
  ∃ ps, Relation.ReflTransGen (Step execute Starts) ⟨s₀, []⟩ ⟨s, ps⟩

variable {execute : (o : O) → A o → σ → Except E (R o) × σ} {Starts : Prog O R E α → Prop}

theorem Step.preserves {I : σ → Prop} (hexec : ∀ o a s, I s → I (execute o a s).2)
    {c c' : Config O R E α σ} (h : Step execute Starts c c') (hc : I c.state) : I c'.state := by
  cases h with
  | start p hp => exact hc
  | perform before after o k answer => exact hexec o answer _ hc
  | crash before after p => exact hc

/-- **What every operation preserves holds in every state an interleaving
reaches**, whatever the programs are. -/
theorem reachable_preserves {I : σ → Prop} (hexec : ∀ o a s, I s → I (execute o a s).2)
    {s₀ s : σ} (hs₀ : I s₀) (h : Reachable execute Starts s₀ s) : I s := by
  obtain ⟨ps, hrun⟩ := h
  have key : ∀ c : Config O R E α σ,
      Relation.ReflTransGen (Step execute Starts) ⟨s₀, []⟩ c → I c.state := by
    intro c hc
    induction hc with
    | refl => exact hs₀
    | tail _ hstep ih => exact hstep.preserves hexec ih
  exact key _ hrun

/-- **A program that stops after any number of its operations** leaves a
reachable state. -/
theorem reachable_runFor {s₀ s : σ} (h : Reachable execute Starts s₀ s) {p : Prog O R E α}
    (hp : Starts p) (env : Nat → (o : O) → A o) (k n : Nat) :
    Reachable execute Starts s₀ (p.runFor (Prog.execEnv execute env) k (s, n)).2.1 := by
  obtain ⟨ps, hs⟩ := h
  have key : ∀ (k n : Nat) (p : Prog O R E α) (s : σ),
      Relation.ReflTransGen (Step execute Starts) ⟨s₀, []⟩ ⟨s, p :: ps⟩ →
      Reachable execute Starts s₀ (p.runFor (Prog.execEnv execute env) k (s, n)).2.1 := by
    intro k
    induction k with
    | zero => exact fun n p s hrun => ⟨p :: ps, hrun⟩
    | succ k ih =>
      intro n p s hrun
      cases p with
      | ret r => exact ⟨.ret r :: ps, hrun⟩
      | op o f => exact ih (n + 1) _ _ (hrun.tail (.perform [] ps o f (env n o)))
  exact key k n p s (hs.tail (.start p hp))

end Interleave
