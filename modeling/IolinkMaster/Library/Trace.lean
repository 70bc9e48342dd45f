import Mathlib.Data.List.Infix
import Mathlib.Logic.Relation

/-!
# Properties of traces

A trace is the list of the events of a run, latest first.  A property of a run that
looks at each event together with the events before it passes to the beginnings of the
run, and a system that only extends its trace keeps an invariant along every path whose
trace satisfies such a property.
-/

namespace Trace

variable {α σ : Type*}

/-- Every event of the trace is related by `P` to the trace before it. -/
def Always (P : List α → α → Prop) : List α → Prop
  | [] => True
  | a :: l => Always P l ∧ P l a

/-- Whether every event is as `P` demands can be decided event by event. -/
instance Always.decidable (P : List α → α → Prop) [∀ l a, Decidable (P l a)] :
    DecidablePred (Always P)
  | [] => isTrue trivial
  | a :: l =>
    have := Always.decidable P l
    inferInstanceAs (Decidable (Always P l ∧ P l a))

@[simp]
theorem always_nil (P : List α → α → Prop) :
  Always P []
  := trivial

@[simp]
theorem always_cons {P : List α → α → Prop} {a : α} {l : List α} :
  Always P (a :: l) ↔ Always P l ∧ P l a
  := Iff.rfl

/-- Properties that are equivalent for every event of a run always hold together. -/
theorem always_congr {P Q : List α → α → Prop} {l : List α}
    (h : Always (fun l a => P l a ↔ Q l a) l) :
  Always P l ↔ Always Q l
  := by
  induction l with
  | nil => apply Iff.rfl
  | cons a l ih =>
      rw [always_cons, always_cons]
      apply and_congr (ih h.1) h.2

/-- What two properties imply together always holds where both always hold. -/
theorem always_combine {P Q R : List α → α → Prop} (h : ∀ l a, P l a → Q l a → R l a)
    {l : List α} (hP : Always P l) (hQ : Always Q l) :
  Always R l
  := by
  induction l with
  | nil => trivial
  | cons a l ih =>
      refine ⟨ih hP.1 hQ.1, h l a hP.2 hQ.2⟩

/-- What always holds held of every past. -/
theorem always_past {P : List α → α → Prop} {l : List α} (h : Always P l) :
  Always (fun l _ => Always P l) l
  := by
  induction l with
  | nil => trivial
  | cons a l ih => exact ⟨ih h.1, h.1⟩

/-- What holds of every event of a kind, in any past, holds when events of that kind are
added. -/
theorem always_append {P : List α → α → Prop} {q : α → Prop} (hP : ∀ a l, q a → P l a)
    {as l : List α} (has : ∀ a ∈ as, q a) (hl : Always P l) :
  Always P (as ++ l)
  := by
  induction as with
  | nil => apply hl
  | cons a as ih =>
      refine ⟨?_, hP a _ (has a List.mem_cons_self)⟩
      apply ih
      intro b hb
      apply has b (List.mem_cons_of_mem _ hb)

/-- What no event of a kind affects is not affected when events of that kind are added. -/
theorem unaffected_append {β : Type*} {f : List α → β} {q : α → Prop}
    (hf : ∀ a l, q a → f (a :: l) = f l) {as : List α} (has : ∀ a ∈ as, q a) (l : List α) :
  f (as ++ l) = f l
  := by
  induction as with
  | nil => rfl
  | cons a as ih =>
      rw [List.cons_append, hf a _ (has a List.mem_cons_self)]
      apply ih
      intro b hb
      apply has b (List.mem_cons_of_mem _ hb)

/-- A property passes from a trace to its beginnings. -/
def Closed (C : List α → Prop) : Prop := ∀ ⦃l m : List α⦄, l <:+ m → C m → C l

/-- What always holds in a run always holds in its beginnings. -/
theorem closed_always (P : List α → α → Prop) :
  Closed (Always P)
  := by
  intro l m h
  induction m with
  | nil =>
      rw [List.suffix_nil] at h
      rw [h]
      intro hm
      apply hm
  | cons a m ih =>
      rw [List.suffix_cons_iff] at h
      rcases h with rfl | h
      · intro hm
        apply hm
      · intro hm
        apply ih h hm.1

variable (trace : σ → List α)

/-- A relation whose steps only extend the trace. -/
def Extends (r : σ → σ → Prop) : Prop := ∀ ⦃a b : σ⦄, r a b → trace a <:+ trace b

variable {trace}

/-- Paths only extend the trace. -/
theorem Extends.path {r : σ → σ → Prop} {a b : σ} (h : Extends trace r)
    (hab : Relation.ReflTransGen r a b) :
  trace a <:+ trace b
  := by
  induction hab with
  | refl => apply List.suffix_refl
  | tail _ hstep ih => apply ih.trans (h hstep)

/-- An invariant that every step keeps, as long as the trace satisfies `C`, is kept along
every path whose trace satisfies `C`. -/
theorem invariant_of_path {r : σ → σ → Prop} {I : σ → Prop} {C : List α → Prop} {a b : σ}
    (h : Extends trace r) (hC : Closed C)
    (hstep : ∀ ⦃a b : σ⦄, r a b → I a → C (trace b) → I b)
    (hab : Relation.ReflTransGen r a b) (ha : I a) (hb : C (trace b)) :
  I b
  := by
  induction hab with
  | refl => apply ha
  | tail _ hbc ih => apply hstep hbc (ih (hC (h hbc) hb)) hb

end Trace
