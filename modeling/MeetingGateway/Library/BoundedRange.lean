import Mathlib.Order.Interval.Set.LinearOrder
import Mathlib.Algebra.Order.Group.Defs
import Mathlib.Algebra.Order.Group.Unbundled.Basic

/-!
# Ranges with optional bounds

A range has a lower and an upper bound, either of which may be missing, and says
whether each bound belongs to it. Overlap is decided from the bounds alone. For the
half-open ranges `[lower, upper)` it is the usual notion: the sets meet.
-/

universe u

structure BoundedRange (α : Type u) where
  lower : Option α
  upper : Option α
  lowerInc : Bool
  upperInc : Bool
  deriving DecidableEq

namespace BoundedRange
variable {α : Type u} [LinearOrder α]

/-- The start of the first range does not lie beyond the end of the second. -/
def startsBeforeEnd (r s : BoundedRange α) : Bool :=
  match r.lower, s.upper with
  | some x, some y => decide (x < y) || (decide (x = y) && r.lowerInc && s.upperInc)
  | _, _ => true

/-- The range ends before it starts. -/
def reversed (r : BoundedRange α) : Bool :=
  match r.lower, r.upper with
  | some x, some y => decide (y < x)
  | _, _ => false

def isEmpty (r : BoundedRange α) : Bool := !r.startsBeforeEnd r

def overlaps (r s : BoundedRange α) : Bool :=
  !r.isEmpty && !s.isEmpty && r.startsBeforeEnd s && s.startsBeforeEnd r

/-- The range `[lower, upper)`. -/
def halfOpen (lower upper : α) : BoundedRange α := ⟨some lower, some upper, true, false⟩

theorem reversed_halfOpen {a b : α} : (halfOpen a b).reversed = false ↔ a ≤ b := by
  simp [reversed, halfOpen]

theorem overlaps_comm (r s : BoundedRange α) : r.overlaps s = s.overlaps r := by
  simp only [overlaps]
  cases r.isEmpty <;> cases s.isEmpty <;> cases r.startsBeforeEnd s <;>
    cases s.startsBeforeEnd r <;> rfl

theorem isEmpty_halfOpen {a b : α} : (halfOpen a b).isEmpty = false ↔ a < b := by
  simp [isEmpty, startsBeforeEnd, halfOpen]

theorem overlaps_halfOpen {a b c d : α} (hab : a < b) (hcd : c < d) :
    (halfOpen a b).overlaps (halfOpen c d) = true ↔ a < d ∧ c < b := by
  simp [overlaps, isEmpty, startsBeforeEnd, halfOpen, hab, hcd]

/-- The points from the lower to the upper bound. -/
def points (r : BoundedRange α) : Set α :=
  {x | (∀ a ∈ r.lower, if r.lowerInc then a ≤ x else a < x) ∧
    ∀ b ∈ r.upper, if r.upperInc then x ≤ b else x < b}

@[simp] theorem points_halfOpen (a b : α) : (halfOpen a b).points = Set.Ico a b := by
  ext x
  simp [points, halfOpen]

/-- The bounds decide exactly whether the two sets of points meet. -/
theorem overlaps_halfOpen_iff_meet {a b c d : α} (hab : a < b) (hcd : c < d) :
    (halfOpen a b).overlaps (halfOpen c d) = true ↔
      (Set.Ico a b ∩ Set.Ico c d).Nonempty := by
  rw [overlaps_halfOpen hab hcd, Set.Ico_inter_Ico, Set.nonempty_Ico]
  simp [hab, hcd, and_comm]

theorem not_overlaps_halfOpen {a b c d : α} (hab : a < b) (hcd : c < d) :
    (halfOpen a b).overlaps (halfOpen c d) = false ↔ d ≤ a ∨ b ≤ c := by
  have h := overlaps_halfOpen hab hcd
  constructor
  · intro hf
    by_contra hc
    obtain ⟨h1, h2⟩ := not_or.mp hc
    have ht := h.mpr ⟨lt_of_not_ge h1, lt_of_not_ge h2⟩
    rw [hf] at ht
    cases ht
  · intro hd
    cases ho : (halfOpen a b).overlaps (halfOpen c d) with
    | false => rfl
    | true =>
      obtain ⟨h1, h2⟩ := h.mp ho
      rcases hd with hd | hd
      · exact absurd h1 (not_lt_of_ge hd)
      · exact absurd h2 (not_lt_of_ge hd)

end BoundedRange
