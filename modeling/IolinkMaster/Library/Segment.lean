import Mathlib.Data.List.Basic

/-!
# Cutting a list into pieces of equal width

`piece fill k xs i` is the `i`-th piece of width `k` of the list `xs`, the last one
filled up; `count n k` pieces carry `n` elements.  The pieces of a list carry the list
and nothing but the filling after it.
-/

namespace Segment

variable {α : Type*} (fill : α)

/-- Fill a list up to width `k`. -/
def pad (k : Nat) (xs : List α) : List α := xs ++ List.replicate (k - xs.length) fill

/-- The `i`-th piece of width `k`. -/
def piece (k : Nat) (xs : List α) (i : Nat) : List α := pad fill k ((xs.drop (i * k)).take k)

/-- The number of pieces of width `k` that carry `n` elements. -/
def count (n k : Nat) : Nat := (n + k - 1) / k

/-- A piece is needed exactly when it starts inside the list. -/
theorem lt_count_iff {n k : Nat} (hk : 1 ≤ k) (i : Nat) :
  i < count n k ↔ i * k < n
  := by
  have hmul : (i + 1) * k = i * k + k := Nat.succ_mul i k
  rw [count, Nat.lt_iff_add_one_le, Nat.le_div_iff_mul_le hk, hmul]
  omega

/-- The pieces cover the list. -/
theorem le_count_mul {n k : Nat} (hk : 1 ≤ k) :
  n ≤ count n k * k
  := by
  by_contra h
  rw [Nat.not_le, ← lt_count_iff hk] at h
  apply Nat.lt_irrefl _ h

/-- A list at least as wide as asked for is not filled up. -/
theorem pad_of_le {k : Nat} {xs : List α} (h : k ≤ xs.length) :
  pad fill k xs = xs
  := by
  rw [pad, Nat.sub_eq_zero_of_le h]
  simp

/-- The first `m` pieces carry the first `m * k` elements. -/
theorem flatMap_piece (k : Nat) (xs : List α) (m : Nat) :
  (List.range m).flatMap (piece fill k xs) = pad fill (m * k) (xs.take (m * k))
  := by
  induction m with
  | zero => simp [pad]
  | succ m ih =>
      have hmul : (m + 1) * k = m * k + k := Nat.succ_mul m k
      rw [List.range_succ, List.flatMap_append, ih, List.flatMap_singleton, hmul]
      by_cases hlong : m * k ≤ xs.length
      · rw [pad_of_le fill (by rw [List.length_take]; omega), List.take_add, piece, pad, pad,
          ← List.append_assoc]
        congr 2
        simp only [List.length_append, List.length_take, List.length_drop]
        omega
      · have hdrop : xs.drop (m * k) = [] := List.drop_eq_nil_of_le (by omega)
        have hshort : xs.length ≤ m * k := by omega
        have hshort' : xs.length ≤ m * k + k := by omega
        rw [piece, hdrop, List.take_nil, List.take_of_length_le hshort,
          List.take_of_length_le hshort']
        simp only [pad, List.nil_append, List.length_nil, List.append_assoc,
          List.replicate_append_replicate]
        congr 2
        omega

/-- The pieces of a list carry the list, followed by the filling. -/
theorem flatMap_pieces {k : Nat} (hk : 1 ≤ k) (xs : List α) :
  (List.range (count xs.length k)).flatMap (piece fill k xs)
    = xs ++ List.replicate (count xs.length k * k - xs.length) fill
  := by
  rw [flatMap_piece, List.take_of_length_le (le_count_mul hk), pad]

end Segment
