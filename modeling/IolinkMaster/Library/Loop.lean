import Mathlib.Logic.Relation

/-!
# Loops with fuel

`run body fuel s` repeats `body` from the state `s` for at most `fuel` rounds.  A round goes on
in a new state, leaves the loop with a result, or has no result itself.  A loop whose rounds
make a size smaller and do not change the result that is due returns it, given more fuel than
the size; and what every round keeps holds whenever a round starts.
-/

namespace Loop

variable {σ β : Type*}

/-- Repeat `body` for at most `fuel` rounds. -/
def run (body : σ → Option (σ ⊕ β)) : Nat → σ → Option β
  | 0, _ => none
  | fuel + 1, s =>
    match body s with
    | none => none
    | some (.inl s') => run body fuel s'
    | some (.inr b) => some b

/-- A round that starts in `s` goes on in `s'`. -/
def Continues (body : σ → Option (σ ⊕ β)) (s s' : σ) : Prop := body s = some (.inl s')

/-- A round of the loop from `s` starts in `s'`. -/
abbrev Visits (body : σ → Option (σ ⊕ β)) : σ → σ → Prop :=
  Relation.ReflTransGen (Continues body)

/-- What every round keeps holds whenever a round starts. -/
theorem Visits.invariant {body : σ → Option (σ ⊕ β)} {I : σ → Prop}
    (hround : ∀ s s', I s → body s = some (.inl s') → I s') {s s' : σ}
    (h : Visits body s s') (hs : I s) :
  I s'
  := by
  induction h with
  | refl => apply hs
  | tail _ hstep ih => apply hround _ _ ih hstep

/-- The round that starts in `s` leaves the loop with `result s`, or goes on in a smaller state
with the same result due. -/
def Round (I : σ → Prop) (size : σ → Nat) (result : σ → β) (body : σ → Option (σ ⊕ β))
    (s : σ) : Prop :=
  body s = some (.inr (result s)) ∨
    ∃ s', body s = some (.inl s') ∧ I s' ∧ size s' < size s ∧ result s' = result s

/-- A loop all of whose rounds make progress returns the result that is due. -/
theorem run_eq {I : σ → Prop} {size : σ → Nat} {result : σ → β} {body : σ → Option (σ ⊕ β)}
    (hround : ∀ s, I s → Round I size result body s) {fuel : Nat} {s : σ} (hs : I s)
    (hfuel : size s < fuel) :
  run body fuel s = some (result s)
  := by
  induction fuel generalizing s with
  | zero => omega
  | succ fuel ih =>
      obtain hleave | ⟨s', hcontinue, hs', hsize, hresult⟩ := hround s hs
      · rw [run, hleave]
      · rw [run, hcontinue, ← hresult]
        apply ih hs'
        omega

end Loop
