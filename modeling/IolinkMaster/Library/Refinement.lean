import Mathlib.Data.List.Basic

/-!
# Implementations of a service

A specification answers operations in a state; an implementation does the same in a state of its
own, and may have no answer.  If every operation leads related states to related states with the
same answer, every list of operations does.
-/

namespace Refinement

variable {σ τ α β : Type*}

/-- The answers of a specification to a list of operations, and the state after them. -/
def answers (spec : τ → α → τ × β) (t : τ) : List α → τ × List β
  | [] => (t, [])
  | a :: as =>
    let (t, b) := spec t a
    let (t, bs) := answers spec t as
    (t, b :: bs)

/-- The answers of an implementation, if it answers every operation. -/
def attempts (impl : σ → α → Option (σ × β)) (s : σ) : List α → Option (σ × List β)
  | [] => some (s, [])
  | a :: as =>
    match impl s a with
    | none => none
    | some (s, b) => (attempts impl s as).map fun r => (r.1, b :: r.2)

/-- Operations that the specification knows by what `f` makes of them. -/
theorem answers_map {γ : Type*} (spec : τ → α → τ × β) (f : γ → α) (t : τ) (cs : List γ) :
  answers (fun t c => spec t (f c)) t cs = answers spec t (cs.map f)
  := by
  induction cs generalizing t with
  | nil => rfl
  | cons c cs ih => simp only [answers, List.map_cons, ih]

/-- Each operation is answered as the specification answers it, and keeps the states related. -/
def Simulates (R : σ → τ → Prop) (impl : σ → α → Option (σ × β)) (spec : τ → α → τ × β) : Prop :=
  ∀ s t a, R s t → ∃ s', impl s a = some (s', (spec t a).2) ∧ R s' (spec t a).1

variable {R : σ → τ → Prop} {impl : σ → α → Option (σ × β)} {spec : τ → α → τ × β}

/-- An implementation that simulates its specification answers every list of operations as the
specification does. -/
theorem Simulates.attempts_eq (h : Simulates R impl spec) (as : List α) {s : σ} {t : τ}
    (hs : R s t) :
  ∃ s', attempts impl s as = some (s', (answers spec t as).2) ∧ R s' (answers spec t as).1
  := by
  induction as generalizing s t with
  | nil => exact ⟨s, rfl, hs⟩
  | cons a as ih =>
      obtain ⟨s₁, hfirst, hs₁⟩ := h s t a hs
      obtain ⟨s₂, hrest, hs₂⟩ := ih hs₁
      refine ⟨s₂, ?_, hs₂⟩
      rw [attempts, hfirst]
      dsimp only
      rw [hrest]
      rfl

end Refinement
