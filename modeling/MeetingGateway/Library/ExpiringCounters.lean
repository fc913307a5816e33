import Mathlib.Data.List.Induction
import Mathlib.Logic.Function.Basic

/-!
# Counters that expire

A table of counters, each of which is forgotten a fixed time after it was last counted
up. As long as no two hits on a key are further apart than that, the counter of the key is
the number of its hits, whatever the other keys do and whatever order the clock readings
come in.
-/

namespace ExpiringCounters

universe u
variable {κ : Type u}

structure Counter where
  count : Nat
  expiresAt : Int

abbrev Counters (κ : Type u) := κ → Option Counter

structure Hit (κ : Type u) where
  key : κ
  time : Int

def Counters.none : Counters κ := fun _ => .none

/-- What a counter reads; one that is missing or has expired reads zero. -/
def Counters.read (c : Counters κ) (k : κ) (now : Int) : Nat :=
  match c k with
  | some counter => if now ≤ counter.expiresAt then counter.count else 0
  | .none => 0

/-- No two hits on the key are further apart than the counter lives. -/
def Tight (ttl : Int) (k : κ) (hits : List (Hit κ)) : Prop :=
  ∀ h ∈ hits, ∀ h' ∈ hits, h.key = k → h'.key = k → h'.time ≤ h.time + ttl

theorem Tight.front {ttl : Int} {k : κ} {hits : List (Hit κ)} {h : Hit κ}
    (tight : Tight ttl k (hits ++ [h])) : Tight ttl k hits :=
  fun a ha b hb => tight a (List.mem_append_left _ ha) b (List.mem_append_left _ hb)

variable [DecidableEq κ]

/-- Count up, and let the counter expire `ttl` from now. -/
def Counters.hit (ttl : Int) (c : Counters κ) (h : Hit κ) : Counters κ :=
  Function.update c h.key (some ⟨c.read h.key h.time + 1, h.time + ttl⟩)

def after (ttl : Int) (hits : List (Hit κ)) : Counters κ := hits.foldl (Counters.hit ttl) .none

theorem after_concat (ttl : Int) (hits : List (Hit κ)) (h : Hit κ) :
    after ttl (hits ++ [h]) = (after ttl hits).hit ttl h := by
  simp [after]

/-- By induction on the hits, the last one first. -/
theorem read_after {ttl : Int} {k : κ} {hits : List (Hit κ)} {now : Int}
    (tight : Tight ttl k hits) (soon : ∀ h ∈ hits, h.key = k → now ≤ h.time + ttl) :
    (after ttl hits).read k now = hits.countP fun h => decide (h.key = k) := by
  induction hits using List.reverseRecOn generalizing now with
  | nil => rfl
  | append_singleton hits h ih =>
    rw [after_concat, List.countP_append, List.countP_singleton]
    by_cases hk : h.key = k
    · subst hk
      have recent : ∀ h' ∈ hits, h'.key = h.key → h.time ≤ h'.time + ttl := fun h' hh' hkey =>
        tight h' (List.mem_append_left _ hh') h (by simp) hkey rfl
      have earlier := ih tight.front recent
      have alive : now ≤ h.time + ttl := soon h (by simp) rfl
      simp [Counters.hit, Counters.read, alive]
      exact earlier
    · have earlier := ih tight.front fun h' hh' => soon h' (List.mem_append_left _ hh')
      have other : ((after ttl hits).hit ttl h).read k now = (after ttl hits).read k now := by
        simp [Counters.hit, Counters.read, Function.update_of_ne (Ne.symm hk)]
      simp [other, earlier, hk]

end ExpiringCounters
