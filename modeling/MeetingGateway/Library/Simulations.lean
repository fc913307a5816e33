import MeetingGateway.Library.LabelledRuns

/-!
# Forward simulations

An abstract machine is a relation between states under an action. A concrete machine
refines it along a relation of states if every concrete step is matched by one abstract
step or by none, and then every concrete run is matched by an abstract path that is no
longer than the run.
-/

namespace Simulations

open LabelledRuns

universe u v w x
variable {State : Type u} {Label : Type v} {Abstract : Type w} {Action : Type x}

inductive Path (Step : Abstract → Action → Abstract → Prop) :
    Abstract → List Action → Abstract → Prop
  | nil {a : Abstract} : Path Step a [] a
  | snoc {a b c : Abstract} {actions : List Action} {action : Action} : Path Step a actions b →
      Step b action c → Path Step a (actions ++ [action]) c

/-- The matched path of a run. -/
theorem path_of_run {step : State → Label → Option State}
    {Step : Abstract → Action → Abstract → Prop} {R : State → Abstract → Prop} {s t : State}
    {a : Abstract} {labels : List Label} (h : run step s labels = some t) (init : R s a)
    (forward : ∀ b l c x, Reachable step s b → R b x → step b l = some c →
      ∃ y, R c y ∧ (y = x ∨ ∃ action, Step x action y)) :
    ∃ actions b, Path Step a actions b ∧ R t b ∧ actions.length ≤ labels.length := by
  let Inv : List Label → State → Prop := fun done u => Reachable step s u ∧
    ∃ actions b, Path Step a actions b ∧ R u b ∧ actions.length ≤ done.length
  have start : Inv [] s := ⟨.start, [], a, .nil, init, Nat.le_refl 0⟩
  have preserved : ∀ done u l v, Inv done u → step u l = some v → Inv (done ++ [l]) v := by
    rintro done u l v ⟨reached, actions, b, path, related, short⟩ hs
    obtain ⟨c, related', hc⟩ := forward u l v b reached related hs
    refine ⟨reached.step hs, ?_⟩
    have longer : (done ++ [l]).length = done.length + 1 := by simp
    rcases hc with rfl | ⟨action, last⟩
    · exact ⟨actions, c, path, related', by omega⟩
    · refine ⟨actions ++ [action], c, path.snoc last, related', ?_⟩
      have : (actions ++ [action]).length = actions.length + 1 := by simp
      omega
  exact (run_invariant h start preserved).2

end Simulations
