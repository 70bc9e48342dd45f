import Mathlib.Data.List.Basic

/-!
# Rounds

A process that goes through the same list of actions in each of its rounds has, after `i` whole
rounds and `j` actions of the next one, made the actions `Rounds.upTo round i j`.  What has been
made grows action by action, and tells how far the process has come.
-/

namespace Rounds

variable {α : Type*}

/-- The actions of `i` rounds and of the first `j` actions of the next one. -/
def upTo (round : List α) (i j : Nat) : List α :=
  (List.replicate i round).flatten ++ round.take j

/-- The actions of `n` rounds. -/
def all (round : List α) (n : Nat) : List α := upTo round n 0

variable {round : List α} {i j n : Nat}

@[simp]
theorem upTo_zero_zero :
  upTo round 0 0 = []
  := by
  simp [upTo]

/-- The next action of a round. -/
theorem upTo_succ (h : j < round.length) :
  upTo round i (j + 1) = upTo round i j ++ [round[j]]
  := by
  rw [upTo, upTo, List.append_assoc, List.take_succ_eq_append_getElem h]

/-- A round is over when all of its actions have been made. -/
theorem upTo_length :
  upTo round i round.length = upTo round (i + 1) 0
  := by
  simp [upTo, List.replicate_succ']

theorem length_upTo (h : j ≤ round.length) :
  (upTo round i j).length = i * round.length + j
  := by
  simp [upTo, h]

/-- What has been made in an earlier round is the beginning of all rounds. -/
theorem upTo_prefix_all (h : i < n) :
  upTo round i j <+: all round n
  := by
  obtain ⟨k, rfl⟩ : ∃ k, n = i + (k + 1) := ⟨n - i - 1, by omega⟩
  rw [upTo, all, upTo, List.replicate_add, List.flatten_append, List.append_assoc,
    List.prefix_append_right_inj, List.replicate_succ, List.flatten_cons, List.append_assoc]
  apply (List.take_prefix j round).trans
  apply List.prefix_append

/-- All rounds have been made exactly when the last action of the last one has. -/
theorem upTo_eq_all (hround : round ≠ []) (hi : i < n) (hj : j ≤ round.length) :
  upTo round i j = all round n ↔ i + 1 = n ∧ j = round.length
  := by
  have hpos : 0 < round.length := List.length_pos_of_ne_nil hround
  constructor
  · intro h
    have hlength := congrArg List.length h
    rw [length_upTo hj, all, length_upTo (Nat.zero_le _), Nat.add_zero] at hlength
    -- Fewer whole rounds leave more than the actions of one round to make.
    have hlast : i + 1 = n := by
      by_contra hne
      have hmore : (i + 2) * round.length ≤ n * round.length :=
        Nat.mul_le_mul_right _ (by omega)
      have htwo : (i + 2) * round.length = i * round.length + 2 * round.length := by
        rw [Nat.add_mul]
      omega
    refine ⟨hlast, ?_⟩
    rw [← hlast, Nat.add_mul, Nat.one_mul] at hlength
    omega
  · rintro ⟨rfl, rfl⟩
    apply upTo_length

end Rounds
