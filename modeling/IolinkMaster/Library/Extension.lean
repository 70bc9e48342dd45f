import Mathlib.Data.List.Basic

/-!
# What a run adds to its trace

A run adds events to its trace, the latest first.  What its events bring is read off them in order,
as long as all of them are of a given kind.
-/

namespace Trace

variable {α β : Type*}

/-- The trace `l'` extends `l` by events of the kind `ok`, which bring `bs`, the latest first. -/
def Adds (ok : α → Bool) (out : α → Option β) (bs : List β) (l l' : List α) : Prop :=
  ∃ as : List α, (∀ a ∈ as, ok a = true) ∧ as.filterMap out = bs ∧ l' = as ++ l

variable {ok : α → Bool} {out : α → Option β} {bs bs' : List β} {l l' l'' : List α}

theorem Adds.refl (ok : α → Bool) (out : α → Option β) (l : List α) :
  Adds ok out [] l l
  := ⟨[], by simp, rfl, rfl⟩

/-- One run after another. -/
theorem Adds.trans (h : Adds ok out bs l l') (h' : Adds ok out bs' l' l'') :
  Adds ok out (bs' ++ bs) l l''
  := by
  obtain ⟨as, hok, rfl, rfl⟩ := h
  obtain ⟨as', hok', rfl, rfl⟩ := h'
  refine ⟨as' ++ as, ?_, List.filterMap_append, (List.append_assoc _ _ _).symm⟩
  intro a ha
  rcases List.mem_append.mp ha with ha | ha
  · apply hok' a ha
  · apply hok a ha

/-- Events that bring nothing. -/
theorem adds_nothing {as : List α} (has : ∀ a ∈ as, ok a = true ∧ out a = none) (l : List α) :
  Adds ok out [] l (as ++ l)
  := by
  refine ⟨as, fun a ha => (has a ha).1, ?_, rfl⟩
  rw [List.filterMap_eq_nil_iff]
  intro a ha
  exact (has a ha).2

/-- An event that brings nothing. -/
theorem Adds.cons {a : α} (h : Adds ok out bs l l') (hok : ok a = true) (hout : out a = none) :
  Adds ok out bs l (a :: l')
  := by
  have hone : Adds ok out [] l' ([a] ++ l') :=
    adds_nothing (by simpa using ⟨hok, hout⟩) l'
  exact h.trans hone

/-- An event that brings something. -/
theorem Adds.bring {a : α} {b : β} (h : Adds ok out bs l l') (hok : ok a = true)
    (hout : out a = some b) :
  Adds ok out (b :: bs) l (a :: l')
  := by
  have hone : Adds ok out [b] l' ([a] ++ l') :=
    ⟨[a], by simpa using hok, by simp [hout], rfl⟩
  exact h.trans hone

end Trace
