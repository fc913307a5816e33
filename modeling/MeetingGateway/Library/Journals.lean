import MeetingGateway.Library.LabelledRuns

/-!
# Machines that keep a journal

A step of a machine may append rows to a journal, and nothing else touches it. The
machine with its journal runs exactly as the machine without it. Reading the journal back
with a partial automaton gives an abstraction of the state, as soon as the rows of each
single step take the automaton from the abstraction before it to the one after it.
-/

namespace Journals

open LabelledRuns

universe u v w x
variable {State : Type u} {Label : Type v} {Row : Type w} {View : Type x}

theorem run_append {step : State → Label → Option State} (s : State) (labels rest : List Label) :
    run step s (labels ++ rest) = (run step s labels).bind fun t => run step t rest := by
  induction labels generalizing s with
  | nil => rfl
  | cons l more ih =>
    cases h : step s l with
    | none => simp [run, h]
    | some t => simp [run, h, ih]

/-- The machine with its journal; `rows` says what a step appends. -/
def journaled (step : State → Label → Option State) (rows : State → Label → State → List Row) :
    State × List Row → Label → Option (State × List Row) :=
  fun p l => (step p.1 l).map fun t => (t, p.2 ++ rows p.1 l t)

section Journaled
variable {step : State → Label → Option State} {rows : State → Label → State → List Row}
variable {a s t : State} {l : Label} {journal : List Row}

theorem journaled_eq_some {q : State × List Row} : journaled step rows (s, journal) l = some q ↔
    ∃ t, step s l = some t ∧ q = (t, journal ++ rows s l t) := by
  constructor
  · intro h
    obtain ⟨t, ht, hq⟩ := Option.map_eq_some_iff.mp h
    exact ⟨t, ht, hq.symm⟩
  · rintro ⟨t, ht, rfl⟩
    exact Option.map_eq_some_iff.mpr ⟨t, ht, rfl⟩

/-- Without its journal the machine takes the same steps. -/
theorem reachable_state {p q : State × List Row} (h : Reachable (journaled step rows) p q) :
    Reachable step p.1 q.1 := by
  induction h with
  | start => exact .start
  | step _ hs ih =>
    obtain ⟨t, ht, rfl⟩ := journaled_eq_some.mp hs
    exact ih.step ht

/-- The rows that `pick` selects, read in order, give the abstraction of the state. -/
theorem journal_replays {next : View → Row → Option View} {pick : Row → Bool}
    (view : State → View)
    (accounted : ∀ s l t, Reachable step a s → step s l = some t →
      run next (view s) ((rows s l t).filter pick) = some (view t))
    (h : Reachable (journaled step rows) (a, []) (s, journal)) :
    run next (view a) (journal.filter pick) = some (view s) := by
  suffices general : ∀ q, Reachable (journaled step rows) (a, []) q →
      run next (view a) (q.2.filter pick) = some (view q.1) from general _ h
  intro q hq
  induction hq with
  | start => rfl
  | @step b c l reached hs ih =>
    obtain ⟨t, ht, rfl⟩ := journaled_eq_some.mp hs
    rw [List.filter_append, run_append, ih, Option.bind_some]
    exact accounted b.1 l t (reachable_state reached) ht

end Journaled
end Journals
