/-
SubmittedIt/Transaction.lean

Transactional machines: library, independent of the model.

A machine is given by `step : σ → ι → Except ε σ`: a call either commits a
new state or reverts with an error.  Two ways of running a list of calls are
distinguished:

* `runAll` — every call is tried; a reverted call leaves the state as it was
  (the semantics of a ledger that takes calls from anyone);
* `replay` — the calls must all be accepted, and the first revert is the
  result (a client that replays a prepared list).

Main results: `runAll_preserves` (what every accepted call preserves holds
after every run) and `replay_simulation` (two machines in lockstep).
-/
import Mathlib

namespace Transaction

variable {σ ι : Type*} {ε : Type}

/-! ### Guards -/

/-- A guard clause: stop with `e` where the condition `c` holds. -/
def revertIf (c : Prop) [Decidable c] (e : ε) : Except ε Unit :=
  if c then .error e else .ok ()

@[simp] theorem revertIf_eq_ok (c : Prop) [Decidable c] (e : ε) (u : Unit) :
    revertIf c e = .ok u ↔ ¬ c := by
  by_cases h : c <;> simp [revertIf, h]

/-- A sequence of steps succeeds when its first step does and the rest does
from there. -/
theorem bind_eq_ok {α β : Type} {x : Except ε α} {f : α → Except ε β} {b : β} :
    (x >>= f) = .ok b ↔ ∃ a, x = .ok a ∧ f a = .ok b := by
  rcases x with e | a
  · simp [bind, Except.bind]
  · simp [bind, Except.bind]

/-! ### Runs in which calls may revert -/

variable (step : σ → ι → Except ε σ)

/-- One call as the ledger sees it: a revert changes nothing. -/
def execute (s : σ) (c : ι) : σ :=
  match step s c with
  | .ok s' => s'
  | .error _ => s

/-- A run: the calls in order, reverted ones included. -/
def runAll (s : σ) (cs : List ι) : σ := cs.foldl (execute step) s

variable {step}

theorem execute_ok {s s' : σ} {c : ι} (h : step s c = .ok s') : execute step s c = s' := by
  simp [execute, h]

theorem execute_error {s : σ} {c : ι} {e : ε} (h : step s c = .error e) :
    execute step s c = s := by
  simp [execute, h]

@[simp] theorem runAll_nil (s : σ) : runAll step s [] = s := rfl

@[simp] theorem runAll_cons (s : σ) (c : ι) (cs : List ι) :
    runAll step s (c :: cs) = runAll step (execute step s c) cs := rfl

@[simp] theorem runAll_append (s : σ) (cs ds : List ι) :
    runAll step s (cs ++ ds) = runAll step (runAll step s cs) ds := by
  simp [runAll]

/-- What every accepted call preserves, every call preserves. -/
theorem execute_preserves {I : σ → Prop} (hstep : ∀ s c s', I s → step s c = .ok s' → I s')
    {s : σ} (hs : I s) (c : ι) : I (execute step s c) := by
  rcases h : step s c with e | s'
  · rwa [execute_error h]
  · rw [execute_ok h]
    exact hstep s c s' hs h

/-- **What every accepted call preserves holds after every run.** -/
theorem runAll_preserves {I : σ → Prop} (hstep : ∀ s c s', I s → step s c = .ok s' → I s')
    {s : σ} (hs : I s) (cs : List ι) : I (runAll step s cs) := by
  induction cs generalizing s with
  | nil => exact hs
  | cons c cs ih => exact ih (execute_preserves hstep hs c)

/-! ### Replays in which no call may revert -/

variable (step)

/-- A replay: the calls in order, all of which must be accepted. -/
def replay : σ → List ι → Except ε σ
  | s, [] => .ok s
  | s, c :: cs =>
    match step s c with
    | .ok s' => replay s' cs
    | .error e => .error e

variable {step}

@[simp] theorem replay_nil (s : σ) : replay step s [] = .ok s := rfl

theorem replay_cons_ok {s t : σ} {c : ι} {cs : List ι} :
    replay step s (c :: cs) = .ok t ↔ ∃ s', step s c = .ok s' ∧ replay step s' cs = .ok t := by
  rcases h : step s c with e | s' <;> simp [replay, h]

/-! ### Simulation -/

section simulation

variable {τ κ : Type*} {ε' : Type} {stepA : σ → ι → Except ε σ} {stepB : τ → ι → Except ε' τ}

/-- Replaying the image of a list of calls. -/
theorem replay_map (f : κ → ι) (s : σ) (ks : List κ) :
    replay stepA s (ks.map f) = replay (fun s k => stepA s (f k)) s ks := by
  induction ks generalizing s with
  | nil => rfl
  | cons k ks ih =>
    rw [List.map_cons, replay, replay]
    rcases h : stepA s (f k) with e | s'
    · rfl
    · exact ih s'

/-- **Lockstep simulation.**  Where related states accept a call alike and
stay related, an accepted replay of the first machine is matched by one of
the second. -/
theorem replay_simulation {Sim : σ → τ → Prop} {P : ι → Prop}
    (hstep : ∀ s t i s', Sim s t → P i → stepA s i = .ok s' →
      ∃ t', stepB t i = .ok t' ∧ Sim s' t')
    {s s' : σ} {t : τ} {is : List ι} (hsim : Sim s t) (hP : ∀ i ∈ is, P i)
    (hrun : replay stepA s is = .ok s') :
    ∃ t', replay stepB t is = .ok t' ∧ Sim s' t' := by
  induction is generalizing s t with
  | nil =>
    obtain rfl : s = s' := by simpa using hrun
    exact ⟨t, rfl, hsim⟩
  | cons i is ih =>
    obtain ⟨s₁, hs₁, hrest⟩ := replay_cons_ok.mp hrun
    obtain ⟨t₁, ht₁, hsim₁⟩ := hstep s t i s₁ hsim (hP i (by simp)) hs₁
    obtain ⟨t', ht', hsim'⟩ := ih hsim₁ (fun j hj => hP j (by simp [hj])) hrest
    exact ⟨t', replay_cons_ok.mpr ⟨t₁, ht₁, ht'⟩, hsim'⟩

end simulation

end Transaction
