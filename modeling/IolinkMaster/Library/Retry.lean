import Mathlib.Data.List.Basic

/-!
# Calls that are repeated until they have a result

A call changes a state and has a result or none yet.  It is repeated until it has one, with `wait`
between two attempts.  A call that goes on with another one once it has a result is repeated as
the one, and then as the other.
-/

namespace Retry

variable {σ α β : Type*}

/-- Call `f` until it has a result, at most `fuel` times. -/
def run (wait : σ → σ) (f : σ → σ × Option α) : Nat → σ → Option (σ × α)
  | 0, _ => none
  | fuel + 1, s =>
    match f s with
    | (s, none) => run wait f fuel (wait s)
    | (s, some a) => some (s, a)

/-- The call `f`, repeated from the state `s`, ends after at most `n` waits; all attempts are made
in states with the property `I`. -/
inductive Ends (wait : σ → σ) (I : σ → Prop) (f : σ → σ × Option α) :
    Nat → σ → σ × α → Prop where
  | now {n : Nat} {s t : σ} {a : α} (hs : I s) (h : f s = (t, some a)) : Ends wait I f n s (t, a)
  | later {n : Nat} {s t : σ} {r : σ × α} (hs : I s) (h : f s = (t, none))
      (hrest : Ends wait I f n (wait t) r) : Ends wait I f (n + 1) s r

variable {wait : σ → σ} {I J : σ → Prop} {f g : σ → σ × Option α} {n m : Nat} {s : σ} {r : σ × α}

/-- A call that ends has its result, given more fuel than waits. -/
theorem Ends.run_eq (h : Ends wait I f n s r) {fuel : Nat} (hfuel : n < fuel) :
  run wait f fuel s = some r
  := by
  induction h generalizing fuel with
  | now hs h =>
      obtain ⟨fuel, rfl⟩ := Nat.exists_eq_add_of_lt hfuel
      rw [run, h]
  | later hs h hrest ih =>
      obtain ⟨fuel, rfl⟩ := Nat.exists_eq_add_of_lt hfuel
      rw [run, h]
      apply ih
      omega

theorem Ends.mono (h : Ends wait I f n s r) (hI : ∀ s, I s → J s) (hn : n ≤ m) :
  Ends wait J f m s r
  := by
  induction h generalizing m with
  | now hs h => exact .now (hI _ hs) h
  | later hs h hrest ih =>
      obtain ⟨m, rfl⟩ : ∃ k, m = k + 1 := ⟨m - 1, by omega⟩
      exact .later (hI _ hs) h (ih (Nat.le_of_succ_le_succ hn))

/-- Where two calls do the same, one ends as the other. -/
theorem Ends.congr (h : Ends wait I f n s r) (hfg : ∀ s, I s → g s = f s) :
  Ends wait I g n s r
  := by
  induction h with
  | now hs h => exact .now hs (by rw [hfg _ hs, h])
  | later hs h hrest ih => exact .later hs (by rw [hfg _ hs, h]) ih

/-- Only the first attempt of a call may be made in another state. -/
theorem Ends.enter (h : Ends wait I f n s r) {s₀ : σ} (hfirst : g s₀ = f s)
    (hfg : ∀ s, I s → g s = f s) :
  Ends wait (fun _ => True) g n s₀ r
  := by
  cases h with
  | now hs h => exact .now trivial (by rw [hfirst, h])
  | later hs h hrest =>
      exact .later trivial (by rw [hfirst, h])
        ((hrest.congr hfg).mono (fun _ _ => trivial) (Nat.le_refl _))

/-- A call whose attempts lead through states of decreasing rank ends. -/
theorem ends_of_rank {P : Nat → σ → Prop} {Q : σ × α → Prop} (hI : ∀ n s, P n s → I s)
    (hstep : ∀ n s, P n s → (∃ t a, f s = (t, some a) ∧ Q (t, a)) ∨
      ∃ m < n, ∃ t, f s = (t, none) ∧ P m (wait t))
    (hs : P n s) :
  ∃ r, Ends wait I f n s r ∧ Q r
  := by
  induction n using Nat.strongRecOn generalizing s with
  | ind n ih =>
      obtain ⟨t, a, hnow, hQ⟩ | ⟨m, hm, t, hlater, ht⟩ := hstep n s hs
      · exact ⟨(t, a), .now (hI n s hs) hnow, hQ⟩
      · obtain ⟨r, hends, hQ⟩ := ih m hm ht
        obtain ⟨k, rfl⟩ := Nat.exists_eq_add_of_lt hm
        refine ⟨r, .later (hI _ s hs) hlater (hends.mono (fun _ h => h) ?_), hQ⟩
        omega

/-- The call `g` makes the call `f` and goes on with `rest` once `f` has a result. -/
def Follows (I : σ → Prop) (g : σ → σ × Option β) (f : σ → σ × Option α)
    (rest : α → σ → σ × Option β) : Prop :=
  ∀ s, I s → g s = match f s with
    | (t, none) => (t, none)
    | (t, some a) => rest a t

/-- A call that follows another and has its result at once. -/
theorem Ends.follow_now {g : σ → σ × Option β} {rest : α → σ → σ × Option β} {t u : σ} {a : α}
    {b : β} (hg : Follows I g f rest) (h : Ends wait I f n s (t, a)) (hrest : rest a t = (u, some b)) :
  Ends wait I g n s (u, b)
  := by
  generalize hr : (t, a) = r at h
  induction h with
  | now hs h =>
      cases hr
      exact .now hs (by rw [hg _ hs, h]; exact hrest)
  | later hs h _ ih => exact .later hs (by rw [hg _ hs, h]) (ih hr)

/-- A call that follows another and is repeated as a third one, which `rest` leads to. -/
theorem Ends.follow_later {g k : σ → σ × Option β} {rest : α → σ → σ × Option β} {t u : σ} {a : α}
    {r : σ × β} (hg : Follows I g f rest) (h : Ends wait I f n s (t, a)) (hrest : rest a t = k u)
    (hgk : ∀ s, J s → g s = k s) (hk : Ends wait J k m u r) :
  Ends wait (fun s => I s ∨ J s) g (n + m) s r
  := by
  generalize hr : (t, a) = q at h
  induction h with
  | @now n _ _ _ hs h =>
      cases hr
      have hfirst := hg _ hs
      rw [h] at hfirst
      dsimp only at hfirst
      rw [hrest] at hfirst
      cases hk with
      | now hu hnow =>
          rw [hnow] at hfirst
          exact .now (.inl hs) hfirst
      | @later m _ _ _ hu hlater hrest' =>
          rw [hlater] at hfirst
          exact .later (.inl hs) hfirst
            ((hrest'.congr hgk).mono (fun _ hs => .inr hs) (Nat.le_add_left m n))
  | @later n _ _ _ hs h _ ih =>
      have hfirst := hg _ hs
      rw [h] at hfirst
      rw [Nat.add_right_comm n 1 m]
      exact .later (.inl hs) hfirst (ih hr)

end Retry
