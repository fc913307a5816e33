import MeetingGateway.Library.LabelledRuns

/-!
# Work that runs out

Some labels of a machine are its own work. If work lowers a load, a run of work alone is no
longer than the load it starts from. If moreover some work is enabled in every state that
is not at rest, every such run that cannot be continued has come to rest, and there is one.
-/

namespace Draining

open LabelledRuns

variable {State Label : Type*} {step : State → Label → Option State}

/-- Work keeps `kept`, lowers `load` and is enabled until the state is at `rest`. -/
structure Drains (step : State → Label → Option State) (works : Label → Bool)
    (kept : State → Prop) (load : State → Nat) (rest : State → Prop) : Prop where
  keeps : ∀ s l t, kept s → works l = true → step s l = some t → kept t
  lowers : ∀ s l t, kept s → works l = true → step s l = some t → load t < load s
  goes : ∀ s, kept s → ¬ rest s → ∃ l t, works l = true ∧ step s l = some t

section Runs
variable {works : Label → Bool} {kept : State → Prop} {load : State → Nat} {rest : State → Prop}
variable {s t : State} {labels : List Label}

theorem Drains.bounded (h : Drains step works kept load rest) (hs : kept s)
    (hrun : run step s labels = some t) (all : ∀ l ∈ labels, works l = true) :
    kept t ∧ labels.length + load t ≤ load s := by
  induction labels generalizing s with
  | nil =>
    cases hrun
    exact ⟨hs, by simp⟩
  | cons l later ih =>
    obtain ⟨m, hm, ht⟩ := Option.bind_eq_some_iff.mp hrun
    have work := all l List.mem_cons_self
    have lower := h.lowers s l m hs work hm
    obtain ⟨kept_t, short⟩ := ih (h.keeps s l m hs work hm) ht
      fun l' hl' => all l' (List.mem_cons_of_mem l hl')
    refine ⟨kept_t, ?_⟩
    simp only [List.length_cons]
    omega

/-- A run of work that cannot be continued has come to rest. -/
theorem Drains.rests (h : Drains step works kept load rest) (hs : kept s)
    (hrun : run step s labels = some t) (all : ∀ l ∈ labels, works l = true)
    (stuck : ∀ l, works l = true → step t l = none) : rest t := by
  by_contra busy
  obtain ⟨l, u, work, hu⟩ := h.goes t (h.bounded hs hrun all).1 busy
  rw [stuck l work] at hu
  cases hu

/-- From every state that is kept, work alone leads to rest. -/
theorem Drains.drains (h : Drains step works kept load rest) (hs : kept s) :
    ∃ labels t, run step s labels = some t ∧ (∀ l ∈ labels, works l = true) ∧ rest t := by
  induction hn : load s using Nat.strongRecOn generalizing s with
  | ind n ih =>
    by_cases done : rest s
    · exact ⟨[], s, rfl, List.forall_mem_nil _, done⟩
    · obtain ⟨l, m, work, hm⟩ := h.goes s hs done
      have lower := h.lowers s l m hs work hm
      obtain ⟨labels, t, hrun, all, rests⟩ := ih (load m) (by omega) (h.keeps s l m hs work hm) rfl
      refine ⟨l :: labels, t, ?_, ?_, rests⟩
      · simp only [run, hm, Option.bind_some]
        exact hrun
      · intro l' hl'
        rcases List.mem_cons.mp hl' with rfl | later
        · exact work
        · exact all l' later

end Runs
end Draining
