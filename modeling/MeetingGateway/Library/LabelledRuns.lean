import Mathlib.Data.Option.Basic

/-!
# Runs of labelled transition functions

A machine is a partial step function: `none` means that the label is not
enabled. Runs are lists of labels, reachability is the least set closed under
enabled steps, and a side condition on labels restricts the step function itself,
so a restricted run is a run and nothing has to be said about it twice.
-/

namespace LabelledRuns

universe u v
variable {State : Type u} {Label : Type v}

inductive Reachable (step : State → Label → Option State) (start : State) : State → Prop
  | start : Reachable step start start
  | step {s t : State} {l : Label} : Reachable step start s → step s l = some t →
      Reachable step start t

def run (step : State → Label → Option State) : State → List Label → Option State
  | s, [] => some s
  | s, l :: rest => (step s l).bind fun t => run step t rest

theorem run_concat {step : State → Label → Option State} (s : State) (labels : List Label)
    (l : Label) : run step s (labels ++ [l]) = (run step s labels).bind fun t => step t l := by
  induction labels generalizing s with
  | nil => cases h : step s l <;> simp [run, h]
  | cons a rest ih => cases h : step s a <;> simp [run, h, ih]

/-- The steps of `step` that `allowed` lets through, judged where they are taken. -/
def restrict (allowed : State → Label → Prop) [∀ s l, Decidable (allowed s l)]
    (step : State → Label → Option State) : State → Label → Option State :=
  fun s l => if allowed s l then step s l else none

/-- Every label of a run is allowed in the state it is taken in. -/
def Along (allowed : State → Label → Prop) (step : State → Label → Option State) :
    State → List Label → Prop
  | _, [] => True
  | s, l :: rest => allowed s l ∧ ∀ t, step s l = some t → Along allowed step t rest

instance decidableAlong {allowed : State → Label → Prop} [∀ s l, Decidable (allowed s l)]
    {step : State → Label → Option State} :
    (s : State) → (labels : List Label) → Decidable (Along allowed step s labels)
  | _, [] => isTrue trivial
  | s, l :: rest =>
    match hstep : step s l with
    | none => decidable_of_iff (allowed s l) (by simp [Along, hstep])
    | some t =>
      have : Decidable (Along allowed step t rest) := decidableAlong t rest
      decidable_of_iff (allowed s l ∧ Along allowed step t rest) (by simp [Along, hstep])

/-- Some label of a run is taken in a state where it is an event. -/
def Occurs (event : State → Label → Prop) (step : State → Label → Option State) :
    State → List Label → Prop
  | _, [] => False
  | s, l :: rest => event s l ∨ ∃ t, step s l = some t ∧ Occurs event step t rest

section Restriction
variable {allowed : State → Label → Prop} [∀ s l, Decidable (allowed s l)]
variable {step : State → Label → Option State} {s t : State} {l : Label}

theorem restrict_eq_some :
    restrict allowed step s l = some t ↔ allowed s l ∧ step s l = some t := by
  unfold restrict
  by_cases h : allowed s l
  · simp [h]
  · simp [h]

end Restriction

theorem Reachable.trans {step : State → Label → Option State} {a b c : State}
    (hab : Reachable step a b) (hbc : Reachable step b c) : Reachable step a c := by
  induction hbc with
  | start => exact hab
  | step _ hs ih => exact ih.step hs

theorem reachable_of_run {step : State → Label → Option State} {s t : State}
    {labels : List Label} (h : run step s labels = some t) : Reachable step s t := by
  induction labels generalizing s with
  | nil =>
    cases h
    exact .start
  | cons l rest ih =>
    obtain ⟨m, hm, ht⟩ := Option.bind_eq_some_iff.mp h
    exact (Reachable.start.step hm).trans (ih ht)

theorem along_of_forall {allowed : State → Label → Prop} {step : State → Label → Option State}
    {labels : List Label} (h : ∀ l ∈ labels, ∀ s, allowed s l) (s : State) :
    Along allowed step s labels := by
  induction labels generalizing s with
  | nil => trivial
  | cons l rest ih =>
    constructor
    · exact h l List.mem_cons_self s
    · intro t _
      exact ih (fun l' hl' => h l' (List.mem_cons_of_mem l hl')) t

/-- Two conditions that hold along a run hold together along it. -/
theorem Along.and {allowed kept : State → Label → Prop} {step : State → Label → Option State}
    {s : State} {labels : List Label} (h : Along allowed step s labels)
    (h' : Along kept step s labels) : Along (fun s l => allowed s l ∧ kept s l) step s labels := by
  induction labels generalizing s with
  | nil => trivial
  | cons l rest ih =>
    obtain ⟨now, later⟩ := h
    obtain ⟨now', later'⟩ := h'
    exact ⟨⟨now, now'⟩, fun t hstep => ih (later t hstep) (later' t hstep)⟩

section Restriction
variable {allowed : State → Label → Prop} [∀ s l, Decidable (allowed s l)]
variable {step : State → Label → Option State} {s t : State}

theorem Reachable.of_restrict (h : Reachable (restrict allowed step) s t) :
    Reachable step s t := by
  induction h with
  | start => exact .start
  | step _ hs ih => exact ih.step (restrict_eq_some.mp hs).2

/-- A stricter condition allows fewer runs. -/
theorem Reachable.mono {stricter : State → Label → Prop} [∀ s l, Decidable (stricter s l)]
    (h : Reachable (restrict stricter step) s t)
    (sub : ∀ s l, stricter s l → allowed s l) : Reachable (restrict allowed step) s t := by
  induction h with
  | start => exact .start
  | step _ hs ih =>
    obtain ⟨hallowed, hstep⟩ := restrict_eq_some.mp hs
    exact ih.step (restrict_eq_some.mpr ⟨sub _ _ hallowed, hstep⟩)

/-- A run whose labels are all allowed is a run of the restricted machine. -/
theorem restricted_of_run {labels : List Label} (h : run step s labels = some t)
    (along : Along allowed step s labels) : Reachable (restrict allowed step) s t := by
  induction labels generalizing s with
  | nil =>
    cases h
    exact .start
  | cons l rest ih =>
    obtain ⟨m, hm, ht⟩ := Option.bind_eq_some_iff.mp h
    obtain ⟨hallowed, hrest⟩ := along
    exact (Reachable.start.step (restrict_eq_some.mpr ⟨hallowed, hm⟩)).trans
      (ih ht (hrest m hm))

end Restriction

theorem not_occurs_of_forall {event : State → Label → Prop} {step : State → Label → Option State}
    {labels : List Label} (h : ∀ l ∈ labels, ∀ s, ¬ event s l) (s : State) :
    ¬ Occurs event step s labels := by
  induction labels generalizing s with
  | nil => exact id
  | cons l rest ih =>
    rintro (now | ⟨t, _, later⟩)
    · exact h l List.mem_cons_self s now
    · exact ih (fun l' hl' => h l' (List.mem_cons_of_mem l hl')) t later

/-- A property of the labels so far and the state that only an event can end holds at the
end of the run, or the event has occurred. -/
theorem occurs_or_invariant {event : State → Label → Prop} {step : State → Label → Option State}
    {s t : State} {labels : List Label} {Inv : List Label → State → Prop}
    (h : run step s labels = some t) (init : Inv [] s)
    (preserved : ∀ done a l b, Inv done a → ¬ event a l → step a l = some b →
      Inv (done ++ [l]) b) :
    Occurs event step s labels ∨ Inv labels t := by
  suffices general : ∀ done, Inv done s → Occurs event step s labels ∨ Inv (done ++ labels) t by
    simpa using general [] init
  clear init
  induction labels generalizing s with
  | nil =>
    cases h
    intro done kept
    right
    simpa using kept
  | cons l rest ih =>
    intro done kept
    obtain ⟨m, hm, ht⟩ := Option.bind_eq_some_iff.mp h
    by_cases now : event s l
    · exact Or.inl (Or.inl now)
    · rcases ih ht (done ++ [l]) (preserved done s l m kept now hm) with later | kept'
      · exact Or.inl (Or.inr ⟨m, hm, later⟩)
      · right
        simpa using kept'

/-- A property of the labels so far and the state holds at the end of the run. -/
theorem run_invariant {step : State → Label → Option State} {s t : State} {labels : List Label}
    {Inv : List Label → State → Prop} (h : run step s labels = some t) (init : Inv [] s)
    (preserved : ∀ done a l b, Inv done a → step a l = some b → Inv (done ++ [l]) b) :
    Inv labels t := by
  have none : ¬ Occurs (fun _ _ => False) step s labels :=
    not_occurs_of_forall (fun _ _ _ hf => hf) s
  rcases occurs_or_invariant h init fun done a l b kept _ hs => preserved done a l b kept hs with
    now | kept
  · exact absurd now none
  · exact kept

/-- A property that holds at the start and survives each step from a reachable
state holds in every reachable state. -/
theorem Reachable.invariant {step : State → Label → Option State} {start s : State}
    {Inv : State → Prop} (h : Reachable step start s) (init : Inv start)
    (preserved : ∀ a l b, Reachable step start a → Inv a → step a l = some b → Inv b) :
    Inv s := by
  induction h with
  | start => exact init
  | step reached hs ih => exact preserved _ _ _ reached ih hs

end LabelledRuns
