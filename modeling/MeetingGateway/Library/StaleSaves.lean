import MeetingGateway.Library.LabelledRuns
import Mathlib.Logic.Function.Basic

/-!
# Saves of rows that were loaded earlier

A request loads a row without a lock, works on what it has loaded, and later writes a row that
it computed from it; other requests and other operations change the row in between. What such
a machine keeps depends on how much of the row a save may find changed, so a run is restricted
by a condition that a save puts to the row under the lock and to what the request holds.
-/

namespace StaleSaves

open LabelledRuns

universe u v w x y z
variable {ρ : Type u} {σ : Type v} {Work : Type w} {Edit : Type x} {Op : Type y} {κ : Type z}

/-- `save row s e` is the row that a request holding `s` puts in the place of `row`. -/
structure Workflow (ρ : Type u) (σ : Type v) (Work : Type w) (Edit : Type x) (Op : Type y) where
  load : ρ → Option σ
  work : ρ → σ → Work → Option σ
  save : ρ → σ → Edit → Option ρ
  update : ρ → Op → Option ρ

structure Desk (ρ : Type u) (σ : Type v) (κ : Type z) where
  row : ρ
  pending : κ → Option σ

def Desk.start (row : ρ) : Desk ρ σ κ := ⟨row, fun _ => none⟩

inductive Action (κ : Type z) (Work : Type w) (Edit : Type x) (Op : Type y) where
  | load (k : κ)
  | work (k : κ) (task : Work)
  | save (k : κ) (e : Edit)
  | apply (o : Op)

def Action.writes : Action κ Work Edit Op → Bool
  | .load _ | .work _ _ => false
  | .save _ _ | .apply _ => true

/-- The condition, asked where a save takes place. -/
def Desk.permits (allowed : ρ → σ → Edit → Bool) (d : Desk ρ σ κ) : Action κ Work Edit Op → Bool
  | .save k e => (d.pending k).all fun s => allowed d.row s e
  | _ => true

namespace Workflow
variable [DecidableEq κ]

def step (flow : Workflow ρ σ Work Edit Op) (d : Desk ρ σ κ) :
    Action κ Work Edit Op → Option (Desk ρ σ κ)
  | .load k =>
    (flow.load d.row).map fun s => { d with pending := Function.update d.pending k (some s) }
  | .work k task =>
    (d.pending k).bind fun s => (flow.work d.row s task).map fun s' =>
      { d with pending := Function.update d.pending k (some s') }
  | .save k e =>
    (d.pending k).bind fun s => (flow.save d.row s e).map fun row =>
      ⟨row, Function.update d.pending k none⟩
  | .apply o => (flow.update d.row o).map fun row => { d with row := row }

/-- The steps whose saves meet the condition. -/
abbrev guardedStep (flow : Workflow ρ σ Work Edit Op) (allowed : ρ → σ → Edit → Bool) :
    Desk ρ σ κ → Action κ Work Edit Op → Option (Desk ρ σ κ) :=
  restrict (fun d l => d.permits allowed l = true) flow.step

section Rules
variable {flow : Workflow ρ σ Work Edit Op} {allowed : ρ → σ → Edit → Bool}
variable {d d' : Desk ρ σ κ} {l : Action κ Work Edit Op}

/-- What a step does to the row. -/
theorem step_cases (h : flow.step d l = some d') :
    (l.writes = false ∧ d'.row = d.row) ∨
      (∃ k e s, l = .save k e ∧ d.pending k = some s ∧ flow.save d.row s e = some d'.row) ∨
      ∃ o, l = .apply o ∧ flow.update d.row o = some d'.row := by
  cases l with
  | load k =>
    obtain ⟨s, _, rfl⟩ := Option.map_eq_some_iff.mp h
    exact Or.inl ⟨rfl, rfl⟩
  | work k task =>
    obtain ⟨s, _, hwork⟩ := Option.bind_eq_some_iff.mp h
    obtain ⟨s', _, rfl⟩ := Option.map_eq_some_iff.mp hwork
    exact Or.inl ⟨rfl, rfl⟩
  | save k e =>
    obtain ⟨s, hs, hsave⟩ := Option.bind_eq_some_iff.mp h
    obtain ⟨row, hrow, rfl⟩ := Option.map_eq_some_iff.mp hsave
    exact Or.inr (Or.inl ⟨k, e, s, rfl, hs, hrow⟩)
  | apply o =>
    obtain ⟨row, hrow, rfl⟩ := Option.map_eq_some_iff.mp h
    exact Or.inr (Or.inr ⟨o, rfl, hrow⟩)

theorem guardedStep_cases (h : flow.guardedStep allowed d l = some d') :
    (l.writes = false ∧ d'.row = d.row) ∨
      (∃ k e s, l = .save k e ∧ d.pending k = some s ∧ allowed d.row s e = true ∧
        flow.save d.row s e = some d'.row) ∨
      ∃ o, l = .apply o ∧ flow.update d.row o = some d'.row := by
  obtain ⟨permitted, hstep⟩ := restrict_eq_some.mp h
  rcases step_cases hstep with same | ⟨k, e, s, rfl, hs, hsave⟩ | updated
  · exact Or.inl same
  · have meets : allowed d.row s e = true := by simpa [Desk.permits, hs] using permitted
    exact Or.inr (Or.inl ⟨k, e, s, rfl, hs, meets, hsave⟩)
  · exact Or.inr (Or.inr updated)

/-- The induction rule for the row: what the saves that meet the condition and the other
operations keep. -/
theorem row_invariant {Inv : ρ → Prop} (init : Inv d.row)
    (saves : ∀ row s e row', allowed row s e = true → flow.save row s e = some row' →
      Inv row → Inv row')
    (updates : ∀ row o row', flow.update row o = some row' → Inv row → Inv row')
    (h : Reachable (flow.guardedStep allowed) d d') : Inv d'.row := by
  apply h.invariant init
  intro a l b _ inv hstep
  rcases guardedStep_cases hstep with ⟨_, same⟩ | ⟨k, e, s, _, _, meets, hsave⟩ | ⟨o, _, hupdate⟩
  · rw [same]
    exact inv
  · exact saves _ s e _ meets hsave inv
  · exact updates _ o _ hupdate inv

/-- The induction rule for what a request holds. -/
theorem pending_invariant {P : σ → Prop} (init : ∀ k s, d.pending k = some s → P s)
    (loads : ∀ row s, flow.load row = some s → P s)
    (works : ∀ row s task s', flow.work row s task = some s' → P s → P s')
    (h : Reachable flow.step d d') : ∀ k s, d'.pending k = some s → P s := by
  have updated : ∀ (pending : κ → Option σ) (k₀ : κ) (s₀ : Option σ),
      (∀ k s, pending k = some s → P s) → (∀ s, s₀ = some s → P s) →
      ∀ k s, Function.update pending k₀ s₀ k = some s → P s := by
    intro pending k₀ s₀ held new k s hs
    by_cases hk : k = k₀
    · subst hk
      rw [Function.update_self] at hs
      exact new s hs
    · rw [Function.update_of_ne hk] at hs
      exact held k s hs
  apply h.invariant init
  intro a l b _ held hstep
  cases l with
  | load k =>
    obtain ⟨s, hload, rfl⟩ := Option.map_eq_some_iff.mp hstep
    apply updated _ _ _ held
    rintro _ ⟨⟩
    exact loads _ s hload
  | work k task =>
    obtain ⟨s, hs, hmap⟩ := Option.bind_eq_some_iff.mp hstep
    obtain ⟨s', hwork, rfl⟩ := Option.map_eq_some_iff.mp hmap
    apply updated _ _ _ held
    rintro _ ⟨⟩
    exact works _ s task s' hwork (held k s hs)
  | save k e =>
    obtain ⟨s, _, hmap⟩ := Option.bind_eq_some_iff.mp hstep
    obtain ⟨row, _, rfl⟩ := Option.map_eq_some_iff.mp hmap
    apply updated _ _ _ held
    rintro _ ⟨⟩
  | apply o =>
    obtain ⟨row, _, rfl⟩ := Option.map_eq_some_iff.mp hstep
    exact held

end Rules
end Workflow
end StaleSaves
