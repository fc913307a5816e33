import Mathlib.Logic.Basic

/-!
# Recursions that stop at a depth

A recursion goes down from a value to the values below it until its levels are used up. What it
collects is what the values it comes to hold themselves.
-/

namespace BoundedDescent

universe u v
variable {V : Type u} {A : Type v} {below : V → V → Prop}

/-- From `start` with `levels` to go, the descent comes to the value with `left` to go. -/
inductive Descends (below : V → V → Prop) : Nat → V → Nat → V → Prop
  | here (levels : Nat) (start : V) : Descends below levels start levels start
  | down {levels left : Nat} {start next value : V} : below start next →
      Descends below levels next left value → Descends below (levels + 1) start left value

theorem Descends.left_le {levels left : Nat} {start value : V}
    (h : Descends below levels start left value) : left ≤ levels := by
  induction h with
  | here => exact Nat.le_refl _
  | down _ _ ih => omega

/-- What one level of a collecting recursion adds to the levels under it. -/
structure Collects (below : V → V → Prop) (holds : V → A → Prop) (collected : Nat → V → A → Prop) :
    Prop where
  stop : ∀ value a, ¬ collected 0 value a
  level : ∀ levels value a, collected (levels + 1) value a ↔
    holds value a ∨ ∃ next, below value next ∧ collected levels next a

/-- By induction on the levels. -/
theorem Collects.iff_descends {holds : V → A → Prop} {collected : Nat → V → A → Prop}
    (h : Collects below holds collected) (levels : Nat) (start : V) (a : A) :
    collected levels start a ↔
      ∃ left value, Descends below levels start (left + 1) value ∧ holds value a := by
  induction levels generalizing start with
  | zero =>
    constructor
    · intro hcollected
      exact absurd hcollected (h.stop start a)
    · rintro ⟨left, value, hdown, _⟩
      have := hdown.left_le
      omega
  | succ levels ih =>
    rw [h.level]
    constructor
    · rintro (hholds | ⟨next, hbelow, hcollected⟩)
      · exact ⟨levels, start, .here _ _, hholds⟩
      · obtain ⟨left, value, hdown, hholds⟩ := (ih next).mp hcollected
        exact ⟨left, value, .down hbelow hdown, hholds⟩
    · rintro ⟨left, value, hdown, hholds⟩
      cases hdown with
      | here => exact Or.inl hholds
      | down hbelow hrest => exact Or.inr ⟨_, hbelow, (ih _).mpr ⟨left, value, hrest, hholds⟩⟩

end BoundedDescent
