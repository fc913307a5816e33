import Mathlib.Order.Lattice

/-!
# Sorting with the greatest key first

`list.sort(key=…, reverse=True)`: a stable sort in descending order of a key. Its head has a
greatest key, and an element that came first is behind those of a greater key only.
-/

namespace GreatestFirst

universe u v
variable {α : Type u} {κ : Type v} [LinearOrder κ] (key : α → κ)

def sort (l : List α) : List α := l.mergeSort fun a b => decide (key b ≤ key a)

variable {key} {l : List α} {a b : α}

theorem sort_perm : (sort key l).Perm l := List.mergeSort_perm l _

theorem le_trans_key (key : α → κ) (a b c : α) (hab : decide (key b ≤ key a) = true)
    (hbc : decide (key c ≤ key b) = true) : decide (key c ≤ key a) = true := by
  simp only [decide_eq_true_eq] at hab hbc ⊢
  exact le_trans hbc hab

theorem le_total_key (key : α → κ) (a b : α) :
    (decide (key b ≤ key a) || decide (key a ≤ key b)) = true := by
  simpa using le_total (key b) (key a)

theorem sort_pairwise (key : α → κ) (l : List α) :
    (sort key l).Pairwise fun a b => key b ≤ key a := by
  have hsorted := List.pairwise_mergeSort (le_trans_key key) (le_total_key key) l
  exact hsorted.imp fun h => by simpa using h

theorem head_greatest {head : α} {tail : List α} (h : sort key l = head :: tail) :
    ∀ b ∈ l, key b ≤ key head := by
  have hsorted := sort_pairwise key l
  rw [h, List.pairwise_cons] at hsorted
  intro b hb
  have hmem : b ∈ head :: tail := h ▸ sort_perm.mem_iff.mpr hb
  rcases List.mem_cons.mp hmem with rfl | hb
  · exact le_refl _
  · exact hsorted.1 b hb

/-- Only elements with a greater key pass the first one. -/
theorem sort_cons (key : α → κ) (a : α) (l : List α) :
    ∃ front back, sort key (a :: l) = front ++ a :: back ∧ ∀ b ∈ front, key a < key b := by
  obtain ⟨front, back, h, _, hfront⟩ :=
    List.mergeSort_cons (le_trans_key key) (le_total_key key) a l
  refine ⟨front, back, h, ?_⟩
  intro b hb
  simpa using hfront b hb

/-- What has no greater key than the first element comes into the tail. -/
theorem mem_tail (h : key b ≤ key a) (hb : b ∈ l) : b ∈ (sort key (a :: l)).tail := by
  obtain ⟨front, back, hsort, hfront⟩ := sort_cons key a l
  have hperm : (front ++ a :: back).Perm (a :: l) := hsort ▸ sort_perm
  have hrest : (front ++ back).Perm l := (List.perm_middle.symm.trans hperm).cons_inv
  rcases List.mem_append.mp (hrest.mem_iff.mpr hb) with hb | hb
  · exact absurd h (not_le.mpr (hfront b hb))
  · rw [hsort]
    cases front with
    | nil => exact hb
    | cons c front => simp [hb]

/-- A greatest element that came first stays first. -/
theorem sort_head (h : ∀ b ∈ l, key b ≤ key a) : ∃ tail, sort key (a :: l) = a :: tail := by
  obtain ⟨front, back, hsort, hfront⟩ := sort_cons key a l
  have hperm : (front ++ a :: back).Perm (a :: l) := hsort ▸ sort_perm
  have hrest : (front ++ back).Perm l := (List.perm_middle.symm.trans hperm).cons_inv
  cases front with
  | nil => exact ⟨back, hsort⟩
  | cons c front =>
    have hc := h c (hrest.mem_iff.mp (by simp))
    exact absurd hc (not_le.mpr (hfront c List.mem_cons_self))

end GreatestFirst
