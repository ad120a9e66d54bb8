/-
SubmittedIt/Linked.lean

Lists whose entries follow one another: library, independent of the model.

A list of entries `α` is read from left to right against a running value in
`β`.  Each entry must stand in a relation `R` to the running value, and
replaces it by its own `next` value:

    Follows R next b [a₁, a₂, …]  :  R b a₁,  R (next a₁) a₂,  …

A hash-linked log is the case `R z a := prev a = z` with `next := hash`; a
walk in a transition relation is the case where `next` is the state entered.
`tip next b l` is the running value after the whole list.

Main results: `follows_append` and `follows_concat` (a followed list grows
at its end exactly by an entry related to its tip), `Follows.eq_nil_of_stuck`
(nothing follows an entry whose value has no successor), and
`Follows.map_eq_of_tip` (where values determine what is seen of an entry, and
that its predecessor's value, the tip determines what is seen of the list).
-/
import Mathlib

namespace Linked

variable {α β : Type*}

/-! ### Followed lists and their tips -/

/-- `Follows R next b l`: read from the running value `b`, every entry of `l`
is related to the value its predecessor left. -/
def Follows (R : β → α → Prop) (next : α → β) : β → List α → Prop
  | _, [] => True
  | b, a :: l => R b a ∧ Follows R next (next a) l

/-- The running value after the whole list. -/
def tip (next : α → β) : β → List α → β
  | b, [] => b
  | _, a :: l => tip next (next a) l

variable {R : β → α → Prop} {next : α → β}

@[simp] theorem follows_nil (b : β) : Follows R next b [] := trivial

@[simp] theorem follows_cons (b : β) (a : α) (l : List α) :
    Follows R next b (a :: l) ↔ R b a ∧ Follows R next (next a) l := Iff.rfl

@[simp] theorem tip_nil (b : β) : tip next b [] = b := rfl

@[simp] theorem tip_cons (b : β) (a : α) (l : List α) :
    tip next b (a :: l) = tip next (next a) l := rfl

/-! ### Growing at the end -/

@[simp] theorem tip_append (b : β) (l₁ l₂ : List α) :
    tip next b (l₁ ++ l₂) = tip next (tip next b l₁) l₂ := by
  induction l₁ generalizing b with
  | nil => rfl
  | cons a l₁ ih => simp [ih]

theorem tip_concat (b : β) (l : List α) (a : α) :
    tip next b (l ++ [a]) = next a := by simp

theorem follows_append (b : β) (l₁ l₂ : List α) :
    Follows R next b (l₁ ++ l₂) ↔
      Follows R next b l₁ ∧ Follows R next (tip next b l₁) l₂ := by
  induction l₁ generalizing b with
  | nil => simp
  | cons a l₁ ih => simp [ih, and_assoc]

/-- A followed list grows at its end exactly by an entry related to its tip. -/
theorem follows_concat (b : β) (l : List α) (a : α) :
    Follows R next b (l ++ [a]) ↔ Follows R next b l ∧ R (tip next b l) a := by
  simp [follows_append]

/-- The tip of a nonempty list is the value of its last entry. -/
theorem tip_eq_of_getLast? {b : β} {l : List α} {a : α} (h : l.getLast? = some a) :
    tip next b l = next a := by
  obtain ⟨l', rfl⟩ := List.getLast?_eq_some_iff.mp h
  exact tip_concat b l' a

/-! ### Ends of a followed list -/

/-- Nothing follows an entry whose value has no successor. -/
theorem Follows.eq_nil_of_stuck {b : β} {l₁ l₂ : List α} {a : α}
    (h : Follows R next b (l₁ ++ a :: l₂)) (hstuck : ∀ a', ¬ R (next a) a') : l₂ = [] := by
  rcases l₂ with - | ⟨a', l₂⟩
  · rfl
  · rw [follows_append] at h
    exact absurd h.2.2.1 (hstuck a')

/-! ### Lists with one tip -/

/-- **The tip determines the list.** -/
theorem Follows.map_eq_of_tip {γ : Type*} {obs : α → γ} {b : β} {l l' : List α}
    (h : Follows R next b l) (h' : Follows R next b l')
    (hnext : ∀ a ∈ l, ∀ a' ∈ l', next a = next a' → obs a = obs a')
    (hprev : ∀ z z' a a', R z a → R z' a' → obs a = obs a' → z = z')
    (hstart : ∀ a, next a ≠ b) (htip : tip next b l = tip next b l') : l.map obs = l'.map obs := by
  induction l using List.reverseRecOn generalizing l' with
  | nil =>
    rcases List.eq_nil_or_concat l' with rfl | ⟨l', a', rfl⟩
    · rfl
    · rw [List.concat_eq_append, tip_concat] at htip
      exact absurd htip.symm (hstart a')
  | append_singleton l a ih =>
    rcases List.eq_nil_or_concat l' with rfl | ⟨l', a', rfl⟩
    · rw [tip_concat] at htip
      exact absurd htip (hstart a)
    · rw [List.concat_eq_append] at h' hnext htip ⊢
      rw [tip_concat, tip_concat] at htip
      have hlast : obs a = obs a' := hnext a (by simp) a' (by simp) htip
      rw [follows_concat] at h h'
      have hrest := ih h.1 h'.1
        (fun e he e' he' => hnext e (List.mem_append_left _ he) e' (List.mem_append_left _ he'))
        (hprev _ _ a a' h.2 h'.2 hlast)
      rw [List.map_append, List.map_append, hrest, List.map_singleton, List.map_singleton, hlast]

end Linked
