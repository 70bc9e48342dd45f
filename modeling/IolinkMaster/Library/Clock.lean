import Mathlib.Data.Nat.Basic

/-!
# Clocks that wrap around

Times are counted modulo a range. Shifting two times by the same amount keeps their order
exactly when the shift takes both beyond the range or neither.
-/

namespace Clock

variable {range shift s t : Nat}

/-- Shifting the time `t` takes it beyond the range of the clock. -/
def Carries (range shift t : Nat) : Prop := range ≤ t + shift

instance (range shift t : Nat) : Decidable (Carries range shift t) :=
  inferInstanceAs (Decidable (_ ≤ _))

/-- A time that is taken beyond the range starts again from zero. -/
theorem shifted_of_carries (ht : t < range) (hshift : shift < range)
    (h : Carries range shift t) :
  (t + shift) % range = t + shift - range
  := by
  rw [Nat.mod_eq_sub_mod h]
  apply Nat.mod_eq_of_lt
  omega

theorem shifted_of_not_carries (h : ¬ Carries range shift t) :
  (t + shift) % range = t + shift
  := by
  apply Nat.mod_eq_of_lt
  apply Nat.lt_of_not_le h

/-- Two times that are shifted by the same amount keep their order exactly when both or neither
are taken beyond the range. -/
theorem shift_lt_iff (hs : s < range) (ht : t < range) (hshift : shift < range) :
  ((s + shift) % range < (t + shift) % range ↔ s < t)
    ↔ (Carries range shift s ↔ Carries range shift t)
  := by
  by_cases hcs : Carries range shift s
  · by_cases hct : Carries range shift t
    · rw [shifted_of_carries hs hshift hcs, shifted_of_carries ht hshift hct]
      simp only [Carries] at *
      omega
    · rw [shifted_of_carries hs hshift hcs, shifted_of_not_carries hct]
      simp only [Carries] at *
      omega
  · by_cases hct : Carries range shift t
    · rw [shifted_of_not_carries hcs, shifted_of_carries ht hshift hct]
      simp only [Carries] at *
      omega
    · rw [shifted_of_not_carries hcs, shifted_of_not_carries hct]
      simp only [Carries] at *
      omega

end Clock
