import Mathlib.Order.Lattice
import Mathlib.Algebra.Order.Group.Int

/-!
# Time zones with transitions

The offset of a zone from UTC changes at given instants, listed here from the newest to the
oldest. Where it falls, a stretch of local times comes twice, and `fold` marks the second
reading; where it rises, a stretch is left out. A local time is looked up among the local
readings of the transitions, the later reading of each without `fold` and the earlier one with
it. Between transitions that are far enough apart this finds the offset of the instant again.
-/

structure Transition where
  instant : Int
  offset : Int
  deriving DecidableEq

namespace Transition

/-- From this local time on, the transition counts as past. -/
def edge (t : Transition) (before : Int) (fold : Bool) : Int :=
  t.instant + if fold then min before t.offset else max before t.offset

theorem edge_fold_le (t : Transition) (before : Int) (fold : Bool) :
    t.edge before true ≤ t.edge before fold := by
  cases fold with
  | true => exact le_refl _
  | false =>
    simp only [edge, if_true, Bool.false_eq_true, if_false]
    omega

theorem edge_le (t : Transition) (before : Int) (fold : Bool) :
    t.edge before fold ≤ t.edge before false := by
  cases fold with
  | true =>
    simp only [edge, if_true, Bool.false_eq_true, if_false]
    omega
  | false => exact le_refl _

end Transition

namespace TimeZone

/-- The offset after all of the transitions. -/
def latest (initial : Int) : List Transition → Int
  | [] => initial
  | t :: _ => t.offset

@[simp] theorem latest_nil (initial : Int) : latest initial [] = initial := rfl

@[simp] theorem latest_cons (initial : Int) (t : Transition) (older : List Transition) :
    latest initial (t :: older) = t.offset := rfl

/-- Every local reading of a transition comes before every one of the next. -/
def Spaced (initial : Int) : List Transition → Prop
  | [] => True
  | [_] => True
  | t :: s :: older =>
    s.edge (latest initial older) false ≤ t.edge s.offset true ∧ Spaced initial (s :: older)

instance decidableSpaced (initial : Int) : (l : List Transition) → Decidable (Spaced initial l)
  | [] => isTrue trivial
  | [_] => isTrue trivial
  | t :: s :: older =>
    have := decidableSpaced initial (s :: older)
    inferInstanceAs (Decidable
      (s.edge (latest initial older) false ≤ t.edge s.offset true ∧ Spaced initial (s :: older)))

def offsetFrom (initial : Int) : List Transition → Int → Int
  | [], _ => initial
  | t :: older, instant =>
    if t.instant ≤ instant then t.offset else offsetFrom initial older instant

/-- The local time of the instant comes for the second time. -/
def foldFrom (initial : Int) : List Transition → Int → Bool
  | [], _ => false
  | t :: older, instant =>
    if t.instant ≤ instant then decide (instant + t.offset < t.instant + latest initial older)
    else foldFrom initial older instant

def localFrom (initial : Int) : List Transition → Int → Bool → Int
  | [], _, _ => initial
  | t :: older, wall, fold =>
    if t.edge (latest initial older) fold ≤ wall then t.offset
    else localFrom initial older wall fold

/-- Before a transition the local time has not reached its edge. -/
theorem local_lt_edge {initial : Int} {t : Transition} {older : List Transition} {instant : Int}
    (spaced : Spaced initial (t :: older)) (h : instant < t.instant) :
    instant + offsetFrom initial older instant <
      t.edge (latest initial older) (foldFrom initial older instant) := by
  induction older generalizing t with
  | nil =>
    simp only [offsetFrom, foldFrom, Transition.edge, latest_nil, Bool.false_eq_true, if_false]
    omega
  | cons s rest ih =>
    obtain ⟨apart, spacedRest⟩ := spaced
    by_cases past : s.instant ≤ instant
    · simp only [offsetFrom, foldFrom, if_pos past, latest_cons]
      by_cases again : instant + s.offset < s.instant + latest initial rest
      · -- the second reading of a local time still comes before the next transition
        have early : instant + s.offset < s.edge (latest initial rest) false := by
          simp only [Transition.edge, Bool.false_eq_true, if_false]
          omega
        rw [decide_eq_true again]
        omega
      · rw [decide_eq_false again]
        simp only [Transition.edge, Bool.false_eq_true, if_false]
        omega
    · simp only [offsetFrom, foldFrom, if_neg past, latest_cons]
      have inner := ih spacedRest (not_le.mp past)
      have later := s.edge_le (latest initial rest) (foldFrom initial rest instant)
      have next := t.edge_fold_le s.offset (foldFrom initial rest instant)
      omega

/-- From a transition on, the local time has reached its edge. -/
theorem edge_le_local (initial : Int) {t : Transition} (older : List Transition) {instant : Int}
    (h : t.instant ≤ instant) :
    t.edge (latest initial older) (foldFrom initial (t :: older) instant) ≤ instant + t.offset := by
  simp only [foldFrom, if_pos h]
  by_cases again : instant + t.offset < t.instant + latest initial older
  · rw [decide_eq_true again]
    simp only [Transition.edge, if_true]
    omega
  · rw [decide_eq_false again]
    simp only [Transition.edge, Bool.false_eq_true, if_false]
    omega

/-- The local time of an instant, looked up, has the offset of the instant. -/
theorem localFrom_offsetFrom {initial : Int} {transitions : List Transition}
    (spaced : Spaced initial transitions) (instant : Int) :
    localFrom initial transitions (instant + offsetFrom initial transitions instant)
        (foldFrom initial transitions instant) = offsetFrom initial transitions instant := by
  induction transitions with
  | nil => rfl
  | cons t older ih =>
    have spacedOlder : Spaced initial older := by
      cases older with
      | nil => trivial
      | cons s rest => exact spaced.2
    by_cases past : t.instant ≤ instant
    · have reached := edge_le_local initial older past
      simp only [localFrom, offsetFrom, if_pos past, if_pos reached]
    · have ahead := local_lt_edge spaced (not_le.mp past)
      simp only [localFrom, offsetFrom, foldFrom, if_neg past, if_neg (not_le.mpr ahead)]
      exact ih spacedOlder

end TimeZone

structure TimeZone where
  initial : Int
  transitions : List Transition
  spaced : TimeZone.Spaced initial transitions
  deriving DecidableEq

namespace TimeZone
variable (zone : TimeZone)

/-- The offset in force at an instant. -/
def offsetAt (instant : Int) : Int := offsetFrom zone.initial zone.transitions instant

/-- The local time of an instant comes for the second time. -/
def foldAt (instant : Int) : Bool := foldFrom zone.initial zone.transitions instant

/-- The offset of a local time. -/
def localOffset (wall : Int) (fold : Bool) : Int :=
  localFrom zone.initial zone.transitions wall fold

@[simp] theorem localOffset_offsetAt (instant : Int) :
    zone.localOffset (instant + zone.offsetAt instant) (zone.foldAt instant) =
      zone.offsetAt instant :=
  localFrom_offsetFrom zone.spaced instant

end TimeZone
