import Mathlib.Data.List.Basic

/-!
# First fit over a list of candidates

An exception-driven loop: attempt the candidates in order, return the first result,
go on after an error that `skip` accepts, and pass every other error on. When all
attempts fail with skippable errors only, the loop succeeds exactly if some candidate
does, and over a sorted list the candidate it settles on is a least one.
-/

namespace FirstFit

universe u v w
variable {α : Type u} {β : Type v} {ε : Type w}

def tryEach (attempt : α → Except ε β) (skip : ε → Bool) (exhausted : ε) :
    List α → Except ε β
  | [] => .error exhausted
  | a :: rest =>
    match attempt a with
    | .ok b => .ok b
    | .error e => if skip e then tryEach attempt skip exhausted rest else .error e

theorem tryEach_map {γ : Type*} (f : γ → α) (attempt : α → Except ε β) (skip : ε → Bool)
    (exhausted : ε) (l : List γ) :
    tryEach attempt skip exhausted (l.map f) =
      tryEach (fun c => attempt (f c)) skip exhausted l := by
  induction l with
  | nil => rfl
  | cons c rest ih =>
    simp only [List.map_cons, tryEach, ih]

/-- The loop's result was produced by a candidate, and all candidates before it failed. -/
theorem tryEach_ok {attempt : α → Except ε β} {skip : ε → Bool} {exhausted : ε}
    {l : List α} {b : β} (h : tryEach attempt skip exhausted l = .ok b) :
    ∃ front a back, l = front ++ a :: back ∧ attempt a = .ok b ∧
      ∀ c ∈ front, ∃ e, attempt c = .error e := by
  induction l with
  | nil => cases h
  | cons a rest ih =>
    unfold tryEach at h
    split at h
    · rename_i b' ha
      cases h
      exact ⟨[], a, rest, rfl, ha, by simp⟩
    · rename_i e ha
      split at h
      · obtain ⟨front, c, back, hl, hc, hf⟩ := ih h
        refine ⟨a :: front, c, back, by rw [hl]; rfl, hc, ?_⟩
        intro d hd
        rcases List.mem_cons.mp hd with rfl | hd
        · exact ⟨e, ha⟩
        · exact hf d hd
      · cases h

theorem tryEach_succeeds_iff {attempt : α → Except ε β} {skip : ε → Bool} {exhausted : ε}
    {l : List α} (skips : ∀ a ∈ l, ∀ e, attempt a = .error e → skip e = true) :
    (∃ b, tryEach attempt skip exhausted l = .ok b) ↔ ∃ a ∈ l, ∃ b, attempt a = .ok b := by
  constructor
  · rintro ⟨b, h⟩
    obtain ⟨front, a, back, hl, ha, _⟩ := tryEach_ok h
    exact ⟨a, by simp [hl], b, ha⟩
  · rintro ⟨a, hmem, b, ha⟩
    induction l with
    | nil => cases hmem
    | cons c rest ih =>
      cases hc : attempt c with
      | ok b' => exact ⟨b', by simp [tryEach, hc]⟩
      | error e =>
        have hs := skips c List.mem_cons_self e hc
        have hr : a ∈ rest := by
          rcases List.mem_cons.mp hmem with rfl | hr
          · rw [hc] at ha
            cases ha
          · exact hr
        obtain ⟨b', hb⟩ := ih (fun d hd => skips d (List.mem_cons_of_mem c hd)) hr
        exact ⟨b', by simpa [tryEach, hc, hs] using hb⟩

/-- When every error is skipped, the loop fails only by exhausting the candidates. -/
theorem tryEach_error {attempt : α → Except ε β} {skip : ε → Bool} {exhausted : ε} {l : List α}
    (skips : ∀ a ∈ l, ∀ e, attempt a = .error e → skip e = true) {e : ε}
    (h : tryEach attempt skip exhausted l = .error e) : e = exhausted := by
  induction l with
  | nil =>
    cases h
    rfl
  | cons a rest ih =>
    unfold tryEach at h
    split at h
    · cases h
    · rename_i err ha
      rw [if_pos (skips a List.mem_cons_self err ha)] at h
      exact ih (fun b hb => skips b (List.mem_cons_of_mem a hb)) h

/-- The loop fails by exhausting the candidates or with the error of one. -/
theorem tryEach_fails {attempt : α → Except ε β} {skip : ε → Bool} {exhausted : ε} {l : List α}
    {e : ε} (h : tryEach attempt skip exhausted l = .error e) :
    e = exhausted ∨ ∃ a ∈ l, attempt a = .error e := by
  induction l with
  | nil =>
    cases h
    exact Or.inl rfl
  | cons a rest ih =>
    unfold tryEach at h
    split at h
    · cases h
    · rename_i err ha
      split at h
      · rcases ih h with same | ⟨b, hb, raised⟩
        · exact Or.inl same
        · exact Or.inr ⟨b, List.mem_cons_of_mem a hb, raised⟩
      · cases h
        exact Or.inr ⟨a, List.mem_cons_self, ha⟩

/-- An error that is not skipped ends the loop at the first candidate. -/
theorem tryEach_stops {attempt : α → Except ε β} {skip : ε → Bool} {exhausted e : ε} {a : α}
    {rest : List α} (fails : attempt a = .error e) (stops : skip e = false) :
    tryEach attempt skip exhausted (a :: rest) = .error e := by
  simp [tryEach, fails, stops]

/-- When every candidate fails and some error is not skipped, one that is not skipped ends the
loop. -/
theorem tryEach_raises {attempt : α → Except ε β} {skip : ε → Bool} {exhausted : ε} {l : List α}
    (fails : ∀ a ∈ l, ∃ e, attempt a = .error e)
    (stops : ∃ a ∈ l, ∃ e, attempt a = .error e ∧ skip e = false) :
    ∃ a ∈ l, ∃ e, attempt a = .error e ∧ skip e = false ∧
      tryEach attempt skip exhausted l = .error e := by
  induction l with
  | nil =>
    obtain ⟨_, hmem, _⟩ := stops
    cases hmem
  | cons c rest ih =>
    obtain ⟨e, he⟩ := fails c List.mem_cons_self
    cases hskip : skip e with
    | false => exact ⟨c, List.mem_cons_self, e, he, hskip, by simp [tryEach, he, hskip]⟩
    | true =>
      obtain ⟨a, hmem, e', he', hstop⟩ := stops
      have hrest : a ∈ rest := by
        rcases List.mem_cons.mp hmem with rfl | hrest
        · rw [he] at he'
          cases he'
          rw [hskip] at hstop
          cases hstop
        · exact hrest
      obtain ⟨b, hb, e'', hraise, hstop'', hloop⟩ :=
        ih (fun d hd => fails d (List.mem_cons_of_mem c hd)) ⟨a, hrest, e', he', hstop⟩
      exact ⟨b, List.mem_cons_of_mem c hb, e'', hraise, hstop'',
        by simp [tryEach, he, hskip, hloop]⟩

/-- Over a list sorted by `le` the chosen candidate is below every other one that would
have succeeded. -/
theorem tryEach_least {attempt : α → Except ε β} {skip : ε → Bool} {exhausted : ε}
    {le : α → α → Prop} (refl : ∀ a, le a a) {l : List α} (sorted : l.Pairwise le) {b : β}
    (h : tryEach attempt skip exhausted l = .ok b) :
    ∃ a ∈ l, attempt a = .ok b ∧ ∀ c ∈ l, (∃ b', attempt c = .ok b') → le a c := by
  obtain ⟨front, a, back, hl, ha, hf⟩ := tryEach_ok h
  refine ⟨a, by simp [hl], ha, ?_⟩
  rintro c hc ⟨b', hb⟩
  rw [hl, List.mem_append, List.mem_cons] at hc
  rcases hc with hfront | rfl | hback
  · obtain ⟨e, he⟩ := hf c hfront
    rw [hb] at he
    cases he
  · exact refl c
  · rw [hl, List.pairwise_append, List.pairwise_cons] at sorted
    exact sorted.2.1.1 c hback

end FirstFit
