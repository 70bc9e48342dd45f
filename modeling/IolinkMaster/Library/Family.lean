import Mathlib.Data.List.Basic

/-!
# Families of components

A sweep lets the components of a family make a step each, in their order, and collects the
results in an accumulator.  It is the same as letting all of them step at once: no component sees
what another one does, and after any number of sweeps each component is where its own steps alone
would have taken it.
-/

namespace Family

variable {σ ρ β α : Type*}

/-- Let each component make a step, given its position, and collect the results. -/
def sweep (step : Nat → σ → σ × ρ) (collect : β → ρ → β) : Nat → β → List σ → List σ × β
  | _, b, [] => ([], b)
  | i, b, x :: xs =>
    let (y, r) := step i x
    let (ys, b) := sweep step collect (i + 1) (collect b r) xs
    (y :: ys, b)

/-- A sweep takes each component where its own step takes it. -/
theorem sweep_fst (step : Nat → σ → σ × ρ) (collect : β → ρ → β) (i : Nat) (b : β)
    (xs : List σ) :
  (sweep step collect i b xs).1 = xs.mapIdx fun j x => (step (i + j) x).1
  := by
  induction xs generalizing i b with
  | nil => rfl
  | cons x xs ih =>
      rw [sweep, List.mapIdx_cons]
      simp only [ih, Nat.add_zero, Nat.add_assoc, Nat.add_comm 1]

/-- A sweep collects the results of the steps in the order of the components. -/
theorem sweep_snd (step : Nat → σ → σ × ρ) (collect : β → ρ → β) (i : Nat) (b : β)
    (xs : List σ) :
  (sweep step collect i b xs).2 = (xs.mapIdx fun j x => (step (i + j) x).2).foldl collect b
  := by
  induction xs generalizing i b with
  | nil => rfl
  | cons x xs ih =>
      rw [sweep, List.mapIdx_cons, List.foldl_cons]
      simp only [ih, Nat.add_zero, Nat.add_assoc, Nat.add_comm 1]

/-! ### Results -/

/-- Keep the first result that is bad; `good` says that there has been none. -/
def keepFirst [DecidableEq ρ] (bad : ρ → Bool) (good : ρ) (kept r : ρ) : ρ :=
  if bad r ∧ kept = good then r else kept

/-- Once a bad result is kept, it stays. -/
theorem foldl_keepFirst_bad [DecidableEq ρ] {bad : ρ → Bool} {good kept : ρ}
    (hkept : kept ≠ good) (rs : List ρ) :
  rs.foldl (keepFirst bad good) kept = kept
  := by
  induction rs with
  | nil => rfl
  | cons r rs ih =>
      have hstays : keepFirst bad good kept r = kept := by
        rw [keepFirst, if_neg (by simp [hkept])]
      rw [List.foldl_cons, hstays, ih]

/-- What is kept of a list of results is its first bad one. -/
theorem foldl_keepFirst [DecidableEq ρ] {bad : ρ → Bool} {good : ρ} (hgood : bad good = false)
    (rs : List ρ) :
  rs.foldl (keepFirst bad good) good = (rs.find? bad).getD good
  := by
  induction rs with
  | nil => rfl
  | cons r rs ih =>
      rw [List.foldl_cons, List.find?_cons]
      cases hbad : bad r with
      | true =>
          have hne : r ≠ good := by
            rintro rfl
            rw [hgood] at hbad
            contradiction
          have hkeeps : keepFirst bad good good r = r := by
            rw [keepFirst, if_pos ⟨hbad, rfl⟩]
          rw [hkeeps, foldl_keepFirst_bad hne, Option.getD_some]
      | false =>
          have hpasses : keepFirst bad good good r = good := by
            rw [keepFirst, if_neg (by simp [hbad])]
          rw [hpasses, ih]

/-! ### Runs -/

/-- Let the first `n` components step, and leave the others as they are. -/
def advance (f : Nat → σ → σ) (n : Nat) (xs : List σ) : List σ :=
  (xs.take n).mapIdx f ++ xs.drop n

theorem getElem?_advance (f : Nat → σ → σ) (n : Nat) (xs : List σ) (i : Nat) :
  (advance f n xs)[i]? = if i < n then xs[i]?.map (f i) else xs[i]?
  := by
  rw [advance]
  by_cases hdriven : i < n
  · rw [if_pos hdriven]
    by_cases hinside : i < xs.length
    · rw [List.getElem?_append_left (by rw [List.length_mapIdx, List.length_take]; omega),
        List.getElem?_mapIdx, List.getElem?_take_of_lt hdriven]
    · rw [List.drop_eq_nil_of_le (by omega), List.append_nil, List.getElem?_mapIdx,
        List.getElem?_take_of_lt hdriven]
  · rw [if_neg hdriven]
    by_cases hinside : n ≤ xs.length
    · rw [List.getElem?_append_right (by rw [List.length_mapIdx, List.length_take]; omega),
        List.length_mapIdx, List.length_take, List.getElem?_drop]
      congr 1
      omega
    · have hnone : xs[i]? = none := List.getElem?_eq_none (by omega)
      rw [hnone, List.getElem?_eq_none]
      rw [List.length_append, List.length_mapIdx, List.length_take, List.length_drop]
      omega

/-- After any run of a family each component that takes part is where its own steps alone take
it, and every other one is where it was. -/
theorem getElem?_foldl_advance (act : α → Nat → σ → σ) (n : Nat) (as : List α) (xs : List σ)
    (i : Nat) :
  (as.foldl (fun xs a => advance (act a) n xs) xs)[i]?
    = if i < n then xs[i]?.map fun x => as.foldl (fun x a => act a i x) x else xs[i]?
  := by
  induction as generalizing xs with
  | nil => simp
  | cons a as ih =>
      rw [List.foldl_cons, ih, getElem?_advance]
      by_cases hdriven : i < n
      · simp only [hdriven, if_true, Option.map_map]
        rfl
      · simp only [hdriven, if_false]

end Family
