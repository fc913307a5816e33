import MeetingGateway.Library.Simulations
import Mathlib.Data.Set.BooleanAlgebra
import Mathlib.Data.Set.Disjoint
import Mathlib.Logic.Function.Basic
import Mathlib.Order.CompletePartialOrder

/-!
# A calendar of grants

What a reservation service is for: each key is granted one resource for one set of times, once
and for good. A grant is in force or not; it can be released and come back into force
unchanged. The grants in force of one resource are disjoint, so nobody finds a
resource taken that was granted to them.
-/

namespace Calendars

open Simulations

universe u v w
variable {Key : Type u} {Resource : Type v} {Time : Type w}

structure Booking (Resource : Type v) (Time : Type w) where
  resource : Resource
  times : Set Time

structure Calendar (Key : Type u) (Resource : Type v) (Time : Type w) where
  granted : Key → Option (Booking Resource Time)
  active : Set Key
  granted_of_active : ∀ k ∈ active, ∃ b, granted k = some b
  apart : ∀ k ∈ active, ∀ k' ∈ active, k ≠ k' → ∀ b b', granted k = some b →
    granted k' = some b' → b.resource = b'.resource → Disjoint b.times b'.times

/-- No other grant in force meets the booking. -/
def Calendar.Free (c : Calendar Key Resource Time) (k : Key) (b : Booking Resource Time) : Prop :=
  ∀ k' ∈ c.active, k' ≠ k → ∀ b', c.granted k' = some b' → b'.resource = b.resource →
    Disjoint b'.times b.times

inductive Action (Key : Type u) (Resource : Type v) (Time : Type w) where
  | grant (k : Key) (b : Booking Resource Time)
  | release (k : Key)
  | restore (k : Key)

/-- A first grant and a restored one find their times free. -/
inductive Step [DecidableEq Key] : Calendar Key Resource Time → Action Key Resource Time →
    Calendar Key Resource Time → Prop
  | grant {c d : Calendar Key Resource Time} {k : Key} {b : Booking Resource Time} :
      c.granted k = none → c.Free k b → d.granted = Function.update c.granted k (some b) →
      d.active = insert k c.active → Step c (.grant k b) d
  | release {c d : Calendar Key Resource Time} {k : Key} : k ∈ c.active →
      d.granted = c.granted → d.active = c.active \ {k} → Step c (.release k) d
  | restore {c d : Calendar Key Resource Time} {k : Key} {b : Booking Resource Time} :
      k ∉ c.active → c.granted k = some b → c.Free k b → d.granted = c.granted →
      d.active = insert k c.active → Step c (.restore k) d

namespace Calendar

def empty : Calendar Key Resource Time where
  granted := fun _ => none
  active := ∅
  granted_of_active := fun _ h => h.elim
  apart := fun _ h => h.elim

section Changes
variable [DecidableEq Key] {c d : Calendar Key Resource Time} {k : Key}
variable {b : Booking Resource Time}

/-- The calendar with one more grant in force. -/
def put (c : Calendar Key Resource Time) (k : Key) (b : Booking Resource Time)
    (free : c.Free k b) : Calendar Key Resource Time where
  granted := Function.update c.granted k (some b)
  active := insert k c.active
  granted_of_active := by
    intro k' hk'
    by_cases he : k' = k
    · subst he
      exact ⟨b, Function.update_self ..⟩
    · rw [Function.update_of_ne he]
      exact c.granted_of_active k' (hk'.resolve_left he)
  apart := by
    intro k₁ h₁ k₂ h₂ hne b₁ b₂ g₁ g₂ same
    by_cases e₁ : k₁ = k
    · subst e₁
      rw [Function.update_self] at g₁
      cases g₁
      have e₂ : k₂ ≠ k₁ := hne.symm
      rw [Function.update_of_ne e₂] at g₂
      exact (free k₂ (h₂.resolve_left e₂) e₂ b₂ g₂ same.symm).symm
    · rw [Function.update_of_ne e₁] at g₁
      by_cases e₂ : k₂ = k
      · subst e₂
        rw [Function.update_self] at g₂
        cases g₂
        exact free k₁ (h₁.resolve_left e₁) e₁ b₁ g₁ same
      · rw [Function.update_of_ne e₂] at g₂
        exact c.apart k₁ (h₁.resolve_left e₁) k₂ (h₂.resolve_left e₂) hne b₁ b₂ g₁ g₂ same

/-- The calendar with one grant out of force. -/
def remove (c : Calendar Key Resource Time) (k : Key) : Calendar Key Resource Time where
  granted := c.granted
  active := c.active \ {k}
  granted_of_active := fun k' h => c.granted_of_active k' h.1
  apart := fun k₁ h₁ k₂ h₂ => c.apart k₁ h₁.1 k₂ h₂.1

theorem step_grant (new : c.granted k = none) (free : c.Free k b) :
    Step c (.grant k b) (c.put k b free) := .grant new free rfl rfl

theorem step_release (held : k ∈ c.active) : Step c (.release k) (c.remove k) :=
  .release held rfl rfl

theorem step_restore (out : k ∉ c.active) (old : c.granted k = some b) (free : c.Free k b) :
    Step c (.restore k) (c.put k b free) := by
  refine .restore out old free ?_ rfl
  show Function.update c.granted k (some b) = c.granted
  rw [← old]
  exact Function.update_eq_self k c.granted

end Changes
end Calendar

end Calendars
