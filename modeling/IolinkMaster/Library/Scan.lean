import Mathlib.Data.List.Basic

/-!
# Scanning a list with early exit

`scan step s xs` feeds the elements of `xs` to a state one after the other until
`step` asks to stop; the elements after that are dropped.  A receiver that stops only
in states in which it takes no further input does not see how its input is cut.  A step
that takes notes of what it does is scanned the same way, and the notes are collected.
-/

namespace Scan

variable {σ α : Type*} (step : σ → α → σ × Bool)

/-- Feed the elements of a list to a state until `step` asks to stop. -/
def scan (s : σ) : List α → σ
  | [] => s
  | a :: xs =>
    match step s a with
    | (s', true) => s'
    | (s', false) => scan s' xs

@[simp]
theorem scan_nil (s : σ) :
  scan step s [] = s
  := rfl

theorem scan_cons_stop {s s' : σ} {a : α} (xs : List α) (h : step s a = (s', true)) :
  scan step s (a :: xs) = s'
  := by
  simp only [scan, h]

theorem scan_cons_next {s s' : σ} {a : α} (xs : List α) (h : step s a = (s', false)) :
  scan step s (a :: xs) = scan step s' xs
  := by
  simp only [scan, h]

/-- Feed a list to a state that takes input only while `active` holds. -/
def guarded (active : σ → Bool) (s : σ) (xs : List α) : σ :=
  if active s then scan step s xs else s

variable {step} {active : σ → Bool}

/-- The contract of a receiver: it stops exactly by becoming inactive. -/
def Stops (step : σ → α → σ × Bool) (active : σ → Bool) : Prop :=
  ∀ s a, active s = true → active (step s a).1 = !(step s a).2

@[simp]
theorem guarded_nil (s : σ) :
  guarded step active s [] = s
  := by
  simp [guarded]

theorem guarded_inactive {s : σ} (xs : List α) (h : active s = false) :
  guarded step active s xs = s
  := by
  simp [guarded, h]

theorem guarded_active {s : σ} (xs : List α) (h : active s = true) :
  guarded step active s xs = scan step s xs
  := by
  simp [guarded, h]

/-- One element of a guarded scan. -/
theorem guarded_cons (hstop : Stops step active) {s : σ} (a : α) (xs : List α)
    (h : active s = true) :
  guarded step active s (a :: xs) = guarded step active (step s a).1 xs
  := by
  have hs := hstop s a h
  rw [guarded_active _ h]
  rcases hstep : step s a with ⟨s', stop⟩
  rw [hstep] at hs
  cases stop with
  | true =>
      rw [scan_cons_stop step xs hstep, guarded_inactive _ hs]
  | false =>
      rw [scan_cons_next step xs hstep, guarded_active _ hs]

/-- A guarded scan of a concatenation is a scan of the first part followed by a scan
of the second. -/
theorem guarded_append (hstop : Stops step active) (s : σ) (xs ys : List α) :
  guarded step active s (xs ++ ys)
    = guarded step active (guarded step active s xs) ys
  := by
  induction xs generalizing s with
  | nil => simp
  | cons a xs ih =>
      cases h : active s with
      | false => simp [guarded_inactive, h]
      | true => rw [List.cons_append, guarded_cons hstop a _ h, guarded_cons hstop a _ h, ih]

/-- How a stream is cut into chunks does not matter to a guarded scan. -/
theorem foldl_guarded (hstop : Stops step active) (s : σ) (chunks : List (List α)) :
  chunks.foldl (guarded step active) s = guarded step active s chunks.flatten
  := by
  induction chunks generalizing s with
  | nil => simp
  | cons c chunks ih => rw [List.foldl_cons, ih, List.flatten_cons, guarded_append hstop]

/-- What every step preserves, a guarded scan preserves. -/
theorem guarded_preserves {P : σ → Prop} (hstep : ∀ s a, P s → P (step s a).1) {s : σ}
    (hs : P s) (xs : List α) :
  P (guarded step active s xs)
  := by
  have hscan : P (scan step s xs) := by
    induction xs generalizing s with
    | nil => apply hs
    | cons a xs ih =>
        have ha := hstep s a hs
        rcases hstop : step s a with ⟨s', stop⟩
        rw [hstop] at ha
        cases stop with
        | true => rwa [scan_cons_stop step xs hstop]
        | false =>
            rw [scan_cons_next step xs hstop]
            apply ih ha
  simp only [guarded]
  split
  · apply hscan
  · apply hs

/-- What every step from an active state preserves, a guarded scan of a receiver preserves. -/
theorem guarded_preserves_active (hstop : Stops step active) {P : σ → Prop}
    (hstep : ∀ s a, active s = true → P s → P (step s a).1) {s : σ} (hs : P s) (xs : List α) :
  P (guarded step active s xs)
  := by
  induction xs generalizing s with
  | nil =>
      rw [guarded_nil]
      apply hs
  | cons a xs ih =>
      cases h : active s with
      | false =>
          rw [guarded_inactive _ h]
          apply hs
      | true =>
          rw [guarded_cons hstop a _ h]
          apply ih
          apply hstep s a h hs

/-! ### Notes -/

section Notes

variable {ν : Type*}

/-- `scan` for a step that may take a note, with the notes taken. -/
def scanNoting (step : σ → α → (σ × Bool) × Option ν) (s : σ) : List α → σ × List ν
  | [] => (s, [])
  | a :: xs =>
    match step s a with
    | ((s', true), note) => (s', note.toList)
    | ((s', false), note) =>
      ((scanNoting step s' xs).1, note.toList ++ (scanNoting step s' xs).2)

/-- `guarded` for a step that may take a note, with the notes taken. -/
def noting (step : σ → α → (σ × Bool) × Option ν) (active : σ → Bool) (s : σ) (xs : List α) :
    σ × List ν :=
  if active s then scanNoting step s xs else (s, [])

/-- Feed the chunks of a list to a receiver one after the other, with the notes taken. -/
def chunksNoting (step : σ → α → (σ × Bool) × Option ν) (active : σ → Bool) (s : σ) :
    List (List α) → σ × List ν
  | [] => (s, [])
  | c :: chunks =>
    ((chunksNoting step active (noting step active s c).1 chunks).1,
      (noting step active s c).2 ++ (chunksNoting step active (noting step active s c).1 chunks).2)

variable {noted : σ → α → (σ × Bool) × Option ν}

/-- Taking notes does not change the scan. -/
theorem scanNoting_fst (s : σ) (xs : List α) :
  (scanNoting noted s xs).1 = scan (fun s a => (noted s a).1) s xs
  := by
  induction xs generalizing s with
  | nil => rfl
  | cons a xs ih =>
      rw [scanNoting]
      rcases hstep : noted s a with ⟨⟨s', _ | _⟩, note⟩
      · rw [scan_cons_next _ xs (by rw [hstep])]
        apply ih
      · rw [scan_cons_stop _ xs (by rw [hstep])]

theorem noting_fst (s : σ) (xs : List α) :
  (noting noted active s xs).1 = guarded (fun s a => (noted s a).1) active s xs
  := by
  simp only [noting, guarded]
  split
  · apply scanNoting_fst
  · rfl

theorem noting_nil (s : σ) :
  noting noted active s [] = (s, [])
  := by
  simp [noting, scanNoting]

theorem noting_inactive {s : σ} (xs : List α) (h : active s = false) :
  noting noted active s xs = (s, [])
  := by
  simp [noting, h]

/-- One element of a guarded scan with notes. -/
theorem noting_cons (hstop : Stops (fun s a => (noted s a).1) active) {s : σ} (a : α)
    (xs : List α) (h : active s = true) :
  noting noted active s (a :: xs)
    = ((noting noted active (noted s a).1.1 xs).1,
        (noted s a).2.toList ++ (noting noted active (noted s a).1.1 xs).2)
  := by
  have hs := hstop s a h
  simp only [noting, h, if_true, scanNoting]
  rcases hstep : noted s a with ⟨⟨s', _ | _⟩, note⟩
  · simp only [hstep, Bool.not_false] at hs
    simp [hs]
  · simp only [hstep, Bool.not_true] at hs
    simp [hs]

/-- A guarded scan of a concatenation takes the notes of both parts. -/
theorem noting_append (hstop : Stops (fun s a => (noted s a).1) active) (s : σ)
    (xs ys : List α) :
  noting noted active s (xs ++ ys)
    = ((noting noted active (noting noted active s xs).1 ys).1,
        (noting noted active s xs).2 ++ (noting noted active (noting noted active s xs).1 ys).2)
  := by
  induction xs generalizing s with
  | nil => simp [noting_nil]
  | cons a xs ih =>
      cases h : active s with
      | false => simp [noting_inactive, h]
      | true =>
          rw [List.cons_append, noting_cons hstop a _ h, noting_cons hstop a _ h, ih,
            List.append_assoc]

/-- How a stream is cut into chunks does not change the notes taken. -/
theorem chunksNoting_flatten (hstop : Stops (fun s a => (noted s a).1) active) (s : σ)
    (chunks : List (List α)) :
  chunksNoting noted active s chunks = noting noted active s chunks.flatten
  := by
  induction chunks generalizing s with
  | nil => rw [chunksNoting, List.flatten_nil, noting_nil]
  | cons c chunks ih => rw [chunksNoting, ih, List.flatten_cons, noting_append hstop]

/-- A relation between the state and the input left that every step keeps holds of what every
note is taken from. -/
theorem noting_spec (hstop : Stops (fun s a => (noted s a).1) active) {R : σ → List α → Prop}
    {Q : ν → Prop}
    (hstep : ∀ s a xs, active s = true → R s (a :: xs) →
      R (noted s a).1.1 xs ∧ ∀ note ∈ (noted s a).2, Q note)
    {s : σ} {xs : List α} (hs : R s xs) :
  ∀ note ∈ (noting noted active s xs).2, Q note
  := by
  induction xs generalizing s with
  | nil =>
      rw [noting_nil]
      intro note hnote
      contradiction
  | cons a xs ih =>
      cases h : active s with
      | false =>
          rw [noting_inactive _ h]
          intro note hnote
          contradiction
      | true =>
          have hnext := hstep s a xs h hs
          rw [noting_cons hstop a _ h]
          intro note hnote
          rcases List.mem_append.mp hnote with hhere | hlater
          · apply hnext.2 note (Option.mem_toList.mp hhere)
          · apply ih hnext.1 note hlater

end Notes

end Scan
