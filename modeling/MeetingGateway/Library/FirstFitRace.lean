import Mathlib.Combinatorics.Enumerative.DoubleCounting
import Mathlib.Algebra.Order.BigOperators.Group.Finset

/-!
# A race of first-fit loops

Finitely many seekers walk the same list of candidates, each at its own pace. A candidate
that is good and held by nobody is taken by the seeker that is at it, any other candidate is
passed. A seeker that passed a good candidate did so because somebody held it, and holdings
last, so when all have ended either every good candidate is held or nobody was turned away:
the number of holders is the lesser of the two numbers.
-/

namespace FirstFitRace

universe u v
variable {ι : Type u} {α : Type v}

inductive Progress (α : Type v) where
  | seeking (untried : List α)
  | holds (a : α)
  | exhausted

def Progress.ended : Progress α → Bool
  | .seeking _ => false
  | _ => true

def Progress.holding : Progress α → Bool
  | .holds _ => true
  | _ => false

/-- The attempts a seeker has left, its exhaustion counted as one. -/
def Progress.left : Progress α → Nat
  | .seeking untried => untried.length + 1
  | _ => 0

theorem Progress.holding_iff {q : Progress α} : q.holding = true ↔ ∃ a, q = .holds a := by
  cases q with
  | seeking untried => simp [holding]
  | holds a => simp [holding]
  | exhausted => simp [holding]

def Taken (p : ι → Progress α) (a : α) : Prop := ∃ i, p i = .holds a

theorem update_cases [DecidableEq ι] {p : ι → Progress α} {i j : ι} {x y : Progress α}
    (h : Function.update p i x j = y) : (j = i ∧ x = y) ∨ (j ≠ i ∧ p j = y) := by
  by_cases hji : j = i
  · subst hji
    rw [Function.update_self] at h
    exact Or.inl ⟨rfl, h⟩
  · rw [Function.update_of_ne hji] at h
    exact Or.inr ⟨hji, h⟩

inductive Step [DecidableEq ι] (seekers : Finset ι) (good : Finset α) (p : ι → Progress α) :
    (ι → Progress α) → Prop
  | take {i : ι} {a : α} {rest : List α} : i ∈ seekers → p i = .seeking (a :: rest) →
      a ∈ good → ¬ Taken p a → Step seekers good p (Function.update p i (.holds a))
  | pass {i : ι} {a : α} {rest : List α} : i ∈ seekers → p i = .seeking (a :: rest) →
      (a ∈ good → Taken p a) → Step seekers good p (Function.update p i (.seeking rest))
  | exhaust {i : ι} : i ∈ seekers → p i = .seeking [] →
      Step seekers good p (Function.update p i .exhausted)

/-- What holds in the middle of the race. -/
structure Invariant (seekers : Finset ι) (good : Finset α) (p : ι → Progress α) : Prop where
  fair : ∀ i a, p i = .holds a → i ∈ seekers ∧ a ∈ good
  distinct : ∀ i j a, p i = .holds a → p j = .holds a → i = j
  passed : ∀ i untried, p i = .seeking untried → ∀ a ∈ good, a ∈ untried ∨ Taken p a
  turnedAway : ∀ i, p i = .exhausted → ∀ a ∈ good, Taken p a

section Race
variable {seekers : Finset ι} {good : Finset α} {p q : ι → Progress α}

theorem initial_invariant {candidates : List α} (listed : ∀ a ∈ good, a ∈ candidates) :
    Invariant seekers good fun _ => .seeking candidates where
  fair := by
    intro i a h
    cases h
  distinct := by
    intro i j a h
    cases h
  passed := by
    intro i untried h a ha
    cases h
    exact Or.inl (listed a ha)
  turnedAway := by
    intro i h
    cases h

variable [DecidableEq ι]

theorem Taken.update {a : α} (taken : Taken p a) {i : ι} {untried : List α} {x : Progress α}
    (seeking : p i = .seeking untried) : Taken (Function.update p i x) a := by
  obtain ⟨j, hj⟩ := taken
  have hne : j ≠ i := by
    rintro rfl
    rw [seeking] at hj
    cases hj
  exact ⟨j, by rw [Function.update_of_ne hne, hj]⟩

theorem taken_take {i : ι} {a b : α} {untried : List α} (seeking : p i = .seeking untried) :
    Taken (Function.update p i (.holds b)) a ↔ a = b ∨ Taken p a := by
  constructor
  · rintro ⟨j, hj⟩
    rcases update_cases hj with ⟨_, hb⟩ | ⟨_, hj⟩
    · cases hb
      exact Or.inl rfl
    · exact Or.inr ⟨j, hj⟩
  · rintro (rfl | taken)
    · exact ⟨i, Function.update_self ..⟩
    · exact taken.update seeking

theorem taken_leave {i : ι} {a : α} {untried : List α} {x : Progress α}
    (seeking : p i = .seeking untried) (holdsNothing : x.holding = false) :
    Taken (Function.update p i x) a ↔ Taken p a := by
  constructor
  · rintro ⟨j, hj⟩
    rcases update_cases hj with ⟨_, rfl⟩ | ⟨_, hj⟩
    · cases holdsNothing
    · exact ⟨j, hj⟩
  · intro taken
    exact taken.update seeking

theorem take_invariant {i : ι} {a : α} {rest : List α} (seeker : i ∈ seekers)
    (seeking : p i = .seeking (a :: rest)) (fits : a ∈ good) (free : ¬ Taken p a)
    (inv : Invariant seekers good p) :
    Invariant seekers good (Function.update p i (.holds a)) := by
  constructor
  · intro j b hj
    rcases update_cases hj with ⟨rfl, hb⟩ | ⟨_, hj⟩
    · cases hb
      exact ⟨seeker, fits⟩
    · exact inv.fair j b hj
  · intro j k b hj hk
    rcases update_cases hj with ⟨rfl, hb⟩ | ⟨_, held⟩
    · cases hb
      rcases update_cases hk with ⟨rfl, _⟩ | ⟨_, held⟩
      · rfl
      · exact absurd ⟨k, held⟩ free
    · rcases update_cases hk with ⟨rfl, hb⟩ | ⟨_, hk⟩
      · cases hb
        exact absurd ⟨j, held⟩ free
      · exact inv.distinct j k b held hk
  · intro j untried hj b hb
    rcases update_cases hj with ⟨_, h⟩ | ⟨_, hj⟩
    · cases h
    · exact (inv.passed j untried hj b hb).imp_right fun taken => taken.update seeking
  · intro j hj b hb
    rcases update_cases hj with ⟨_, h⟩ | ⟨_, hj⟩
    · cases h
    · exact (inv.turnedAway j hj b hb).update seeking

/-- A seeker that moves on without holding anything keeps the invariant, if what it passed
or was turned away from was held. -/
theorem leave_invariant {i : ι} {untried : List α} {x : Progress α}
    (seeking : p i = .seeking untried) (holdsNothing : x.holding = false)
    (passes : ∀ rest, x = .seeking rest → ∀ a ∈ good, a ∈ rest ∨ Taken p a)
    (ends : x = .exhausted → ∀ a ∈ good, Taken p a) (inv : Invariant seekers good p) :
    Invariant seekers good (Function.update p i x) := by
  have held : ∀ j a, Function.update p i x j = .holds a → p j = .holds a := by
    intro j a hj
    rcases update_cases hj with ⟨_, rfl⟩ | ⟨_, hj⟩
    · cases holdsNothing
    · exact hj
  constructor
  · intro j a hj
    exact inv.fair j a (held j a hj)
  · intro j k a hj hk
    exact inv.distinct j k a (held j a hj) (held k a hk)
  · intro j rest hj a ha
    rcases update_cases hj with ⟨_, h⟩ | ⟨_, hj⟩
    · exact (passes rest h a ha).imp_right fun taken => taken.update seeking
    · exact (inv.passed j rest hj a ha).imp_right fun taken => taken.update seeking
  · intro j hj a ha
    rcases update_cases hj with ⟨_, h⟩ | ⟨_, hj⟩
    · exact (ends h a ha).update seeking
    · exact (inv.turnedAway j hj a ha).update seeking

theorem step_invariant (h : Step seekers good p q) (inv : Invariant seekers good p) :
    Invariant seekers good q := by
  cases h with
  | take seeker seeking fits free => exact take_invariant seeker seeking fits free inv
  | @pass i a rest _ seeking held =>
    refine leave_invariant seeking rfl ?_ (by rintro ⟨⟩) inv
    rintro _ ⟨⟩ b hb
    rcases inv.passed i (a :: rest) seeking b hb with hmem | taken
    · rcases List.mem_cons.mp hmem with rfl | hrest
      · exact Or.inr (held hb)
      · exact Or.inl hrest
    · exact Or.inr taken
  | @exhaust i _ seeking =>
    refine leave_invariant seeking rfl (by rintro _ ⟨⟩) ?_ inv
    intro _ b hb
    -- nothing is left to try, so whatever is good was passed while it was held
    rcases inv.passed i [] seeking b hb with hmem | taken
    · cases hmem
    · exact taken

def holders (seekers : Finset ι) (p : ι → Progress α) : Finset ι :=
  seekers.filter fun i => (p i).holding

omit [DecidableEq ι] in
theorem card_holders_le (inv : Invariant seekers good p) :
    (holders seekers p).card ≤ good.card := by
  refine Finset.card_le_card_of_forall_subsingleton (fun i a => p i = .holds a) ?_ ?_
  · intro i hi
    obtain ⟨a, ha⟩ := Progress.holding_iff.mp (Finset.mem_filter.mp hi).2
    exact ⟨a, (inv.fair i a ha).2, ha⟩
  · rintro a _ i ⟨_, hi⟩ j ⟨_, hj⟩
    exact inv.distinct i j a hi hj

omit [DecidableEq ι] in
theorem card_good_le (inv : Invariant seekers good p) (taken : ∀ a ∈ good, Taken p a) :
    good.card ≤ (holders seekers p).card := by
  refine Finset.card_le_card_of_forall_subsingleton (fun a i => p i = .holds a) ?_ ?_
  · intro a ha
    obtain ⟨i, hi⟩ := taken a ha
    refine ⟨i, Finset.mem_filter.mpr ⟨(inv.fair i a hi).1, ?_⟩, hi⟩
    rw [hi]
    rfl
  · rintro i _ a ⟨_, ha⟩ b ⟨_, hb⟩
    rw [ha] at hb
    cases hb
    rfl

omit [DecidableEq ι] in
/-- When the race is over, the holders are as many as the lesser of seekers and good
candidates. -/
theorem card_holders (inv : Invariant seekers good p)
    (finished : ∀ i ∈ seekers, (p i).ended = true) :
    (holders seekers p).card = min seekers.card good.card := by
  have hgood := card_holders_le inv
  have hseekers : (holders seekers p).card ≤ seekers.card := Finset.card_filter_le ..
  by_cases turned : ∃ i ∈ seekers, p i = .exhausted
  · obtain ⟨i, _, hi⟩ := turned
    have hall := card_good_le inv (inv.turnedAway i hi)
    omega
  · have hall : holders seekers p = seekers := by
      refine Finset.filter_true_of_mem ?_
      intro i hi
      cases hp : p i with
      | seeking untried =>
        have hend := finished i hi
        rw [hp] at hend
        cases hend
      | holds a => rfl
      | exhausted => exact absurd ⟨i, hi, hp⟩ turned
    rw [hall] at hgood ⊢
    omega

/-- The attempts all seekers have left. -/
def work (seekers : Finset ι) (p : ι → Progress α) : Nat := ∑ i ∈ seekers, (p i).left

theorem work_update {i : ι} {x : Progress α} (seeker : i ∈ seekers)
    (less : x.left < (p i).left) : work seekers (Function.update p i x) < work seekers p := by
  refine Finset.sum_lt_sum ?_ ⟨i, seeker, by rwa [Function.update_self]⟩
  intro j _
  by_cases hji : j = i
  · subst hji
    rw [Function.update_self]
    omega
  · rw [Function.update_of_ne hji]

theorem step_work (h : Step seekers good p q) : work seekers q < work seekers p := by
  cases h with
  | take seeker seeking _ _ => exact work_update seeker (by simp [seeking, Progress.left])
  | pass seeker seeking _ => exact work_update seeker (by simp [seeking, Progress.left])
  | exhaust seeker seeking => exact work_update seeker (by simp [seeking, Progress.left])

omit [DecidableEq ι] in
theorem work_initial (candidates : List α) :
    work seekers (fun _ => .seeking candidates) = seekers.card * (candidates.length + 1) := by
  simp [work, Progress.left]

end Race
end FirstFitRace
