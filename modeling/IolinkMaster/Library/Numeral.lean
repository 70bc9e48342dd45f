import Mathlib.Data.List.Basic
import Mathlib.Tactic.Ring

/-!
# Positional numerals

Numerals over an alphabet of digits, most significant digit first: of a fixed width, and without
leading zeros as `Nat.toDigits` writes them.  Reading inverts both ways of writing, and a character
that is no digit occurs in no numeral.
-/

namespace Numeral

section Alphabet

variable {α : Type*} (digit : Nat → α) (b : Nat)

/-- The `w` lowest digits of `n` in base `b`. -/
def fixed : Nat → Nat → List α
  | 0, _ => []
  | w + 1, n => digit (n / b ^ w % b) :: fixed w n

@[simp]
theorem length_fixed (w n : Nat) :
  (fixed digit b w n).length = w
  := by
  induction w with
  | zero => rfl
  | succ w ih => rw [fixed, List.length_cons, ih]

/-- The digits of the numbers below the base differ. -/
def Distinct : Prop := ∀ d < b, ∀ e < b, digit d = digit e → d = e

variable [DecidableEq α]

/-- The number a character stands for in base `b`. -/
def digitValue (c : α) : Option Nat := (List.range b).find? fun d => digit d = c

/-- Read digits after others with the value `acc`. -/
def readFrom (acc : Nat) : List α → Option Nat
  | [] => some acc
  | c :: cs => (digitValue digit b c).bind fun d => readFrom (acc * b + d) cs

/-- Read a numeral; it has at least one digit. -/
def read (cs : List α) : Option Nat := if cs = [] then none else readFrom digit b 0 cs

variable {digit b}

theorem digitValue_digit (h : Distinct digit b) {d : Nat} (hd : d < b) :
  digitValue digit b (digit d) = some d
  := by
  rw [digitValue, List.find?_range_eq_some]
  refine ⟨by simp, List.mem_range.mpr hd, ?_⟩
  intro e he
  have hne : digit e ≠ digit d := by
    intro heq
    have := h e (by omega) d hd heq
    omega
  simp [hne]

/-- Reading a numeral of fixed width after digits with the value `acc`. -/
theorem readFrom_fixed (h : Distinct digit b) (hb : 0 < b) (acc w n : Nat) :
  readFrom digit b acc (fixed digit b w n) = some (acc * b ^ w + n % b ^ w)
  := by
  induction w generalizing acc with
  | zero => simp [fixed, readFrom, Nat.mod_one]
  | succ w ih =>
      have hdigit := digitValue_digit h (Nat.mod_lt (n / b ^ w) hb)
      rw [fixed, readFrom, hdigit, Option.bind_some, ih]
      congr 1
      calc (acc * b + n / b ^ w % b) * b ^ w + n % b ^ w
          = acc * (b ^ w * b) + (n % b ^ w + b ^ w * (n / b ^ w % b)) := by ring
        _ = acc * b ^ (w + 1) + n % b ^ (w + 1) := by rw [← Nat.mod_mul, ← Nat.pow_succ]

/-- Reading inverts writing with a fixed width. -/
theorem read_fixed (h : Distinct digit b) (hb : 0 < b) {w n : Nat} (hw : 0 < w)
    (hn : n < b ^ w) :
  read digit b (fixed digit b w n) = some n
  := by
  have hne : fixed digit b w n ≠ [] := by
    rw [← List.length_pos_iff, length_fixed]
    apply hw
  rw [read, if_neg hne, readFrom_fixed h hb, Nat.zero_mul, Nat.zero_add, Nat.mod_eq_of_lt hn]

theorem readFrom_append (acc : Nat) (cs ds : List α) :
  readFrom digit b acc (cs ++ ds)
    = (readFrom digit b acc cs).bind fun n => readFrom digit b n ds
  := by
  induction cs generalizing acc with
  | nil => rfl
  | cons c cs ih =>
      rw [List.cons_append, readFrom, readFrom]
      cases digitValue digit b c with
      | none => rfl
      | some d => apply ih

/-- A character that is no digit occurs in no numeral. -/
theorem not_mem_of_readFrom {c : α} {acc n : Nat} {cs : List α}
    (h : readFrom digit b acc cs = some n) (hc : digitValue digit b c = none) :
  c ∉ cs
  := by
  induction cs generalizing acc with
  | nil => simp
  | cons d cs ih =>
      rw [readFrom, Option.bind_eq_some_iff] at h
      obtain ⟨v, hv, hrest⟩ := h
      rw [List.mem_cons, not_or]
      constructor
      · rintro rfl
        rw [hc] at hv
        contradiction
      · apply ih hrest

theorem not_mem_of_read {c : α} {n : Nat} {cs : List α} (h : read digit b cs = some n)
    (hc : digitValue digit b c = none) :
  c ∉ cs
  := by
  rw [read] at h
  split at h
  · contradiction
  · apply not_mem_of_readFrom h hc

end Alphabet

/-! ### Numerals without leading zeros -/

/-- The digits up to `f` are distinct. -/
theorem distinct_digitChar {b : Nat} (hb : b ≤ 16) :
  Distinct Nat.digitChar b
  := by
  have hall : ∀ d < 16, ∀ e < 16, Nat.digitChar d = Nat.digitChar e → d = e := by decide
  intro d hd e he
  apply hall d (by omega) e (by omega)

theorem readFrom_toDigits {b : Nat} (h1 : 1 < b) (hb : b ≤ 16) (n : Nat) :
  readFrom Nat.digitChar b 0 (Nat.toDigits b n) = some n
  := by
  induction n using Nat.strongRecOn with
  | ind n ih =>
      rw [Nat.toDigits_eq_if h1]
      split
      · next hn => simp [readFrom, digitValue_digit (distinct_digitChar hb) hn]
      · next hn =>
        have hlast := digitValue_digit (distinct_digitChar hb) (Nat.mod_lt n (by omega : b > 0))
        rw [readFrom_append, ih _ (Nat.div_lt_self (by omega) h1), Option.bind_some, readFrom,
          hlast, Option.bind_some, readFrom, Nat.div_add_mod']

/-- Reading inverts writing without leading zeros. -/
theorem read_toDigits {b : Nat} (h1 : 1 < b) (hb : b ≤ 16) (n : Nat) :
  read Nat.digitChar b (Nat.toDigits b n) = some n
  := by
  rw [read, if_neg Nat.toDigits_ne_nil, readFrom_toDigits h1 hb]

end Numeral
