import Mathlib.Data.List.Infix

/-!
# Words replaced by a marker

A scan from left to right puts a marker in place of a word. What it keeps between two markers
has no occurrence of the word. A marker is delimited: a text without its delimiters that occurs in
the result lies in something kept, or in the name between the delimiters. Hence no replacement
brings a plain word back that was not there, whichever words are replaced and in whichever order.
-/

namespace MarkedReplacement

universe u
variable {α : Type u} {word marker gap text result w : List α}

/-- A text without the separator does not reach over it. -/
theorem infix_or_infix {sep : α} {left right : List α} (hw : sep ∉ w)
    (h : w <:+: left ++ sep :: right) : w <:+: left ∨ w <:+: right := by
  rcases List.infix_append_iff.mp h with hleft | hright | ⟨front, back, rfl, hfront, hback⟩
  · exact Or.inl hleft
  · rcases List.infix_cons_iff.mp hright with hprefix | hinfix
    · rcases List.prefix_cons_iff.mp hprefix with rfl | ⟨rest, rfl, _⟩
      · exact Or.inl List.nil_infix
      · exact absurd List.mem_cons_self hw
    · exact Or.inr hinfix
  · rcases List.prefix_cons_iff.mp hback with rfl | ⟨rest, rfl, _⟩
    · rw [List.append_nil]
      exact Or.inl hfront.isInfix
    · exact absurd (List.mem_append_right front List.mem_cons_self) hw

/-- A name between two delimiters. -/
structure Marker (α : Type u) where
  opening : α
  name : List α
  closing : α

def Marker.symbols (m : Marker α) : List α := m.opening :: m.name ++ [m.closing]

/-- The word has no delimiter, and the name of the marker does not show it. -/
structure Plain (m : Marker α) (word : List α) : Prop where
  opening : m.opening ∉ word
  closing : m.closing ∉ word
  name : ¬ word <:+: m.name

/-- A plain word lies on one side of a marker. -/
theorem Plain.infix_marker {m : Marker α} (hw : Plain m w) (h : w <:+: gap ++ m.symbols ++ result) :
    w <:+: gap ∨ w <:+: result := by
  have hsplit : gap ++ m.symbols ++ result =
      gap ++ m.opening :: (m.name ++ m.closing :: result) := by
    simp [Marker.symbols]
  rw [hsplit] at h
  rcases infix_or_infix hw.opening h with hgap | hrest
  · exact Or.inl hgap
  · rcases infix_or_infix hw.closing hrest with hname | hresult
    · exact absurd hname hw.name
    · exact Or.inr hresult

/-- The result of a scan over a text: in what is kept, the word does not occur. -/
inductive Replaced (word marker : List α) : List α → List α → Prop
  | kept {gap : List α} : ¬ word <:+: gap → Replaced word marker gap gap
  | marked {gap text result : List α} : ¬ word <:+: gap → Replaced word marker text result →
      Replaced word marker (gap ++ word ++ text) (gap ++ marker ++ result)

theorem Replaced.nil (hword : word ≠ []) : Replaced word marker [] [] := by
  refine .kept ?_
  rwa [List.infix_nil]

theorem Replaced.mark (hword : word ≠ []) (h : Replaced word marker text result) :
    Replaced word marker (word ++ text) (marker ++ result) := by
  have hnil : ¬ word <:+: [] := by
    rwa [List.infix_nil]
  exact Replaced.marked hnil h

/-- A symbol where the word does not start is kept. -/
theorem Replaced.keep {c : α} (hc : ¬ word <+: c :: text) (h : Replaced word marker text result) :
    Replaced word marker (c :: text) (c :: result) := by
  cases h with
  | kept hgap =>
    refine .kept ?_
    rw [List.infix_cons_iff]
    exact not_or.mpr ⟨hc, hgap⟩
  | @marked gap text result hgap hrest =>
    have hcons : ¬ word <:+: c :: gap := by
      rw [List.infix_cons_iff]
      refine not_or.mpr ⟨fun hprefix => hc ?_, hgap⟩
      have hlonger : c :: gap <+: c :: (gap ++ word ++ text) := by
        simp
      exact hprefix.trans hlonger
    exact Replaced.marked hcons hrest

/-- A plain word that occurs in the result occurs in a part of the text without the replaced
word. -/
theorem Replaced.occurs_in_gap {m : Marker α} (h : Replaced word m.symbols text result)
    (hw : Plain m w) (hresult : w <:+: result) :
    ∃ gap, w <:+: gap ∧ gap <:+: text ∧ ¬ word <:+: gap := by
  induction h with
  | @kept gap hgap => exact ⟨gap, hresult, List.infix_rfl, hgap⟩
  | @marked gap text result hgap _ ih =>
    rcases hw.infix_marker hresult with hleft | hright
    · refine ⟨gap, hleft, ?_, hgap⟩
      rw [List.append_assoc]
      exact List.infix_append_left
    · obtain ⟨later, hlater, hinfix, hfree⟩ := ih hright
      exact ⟨later, hlater, List.infix_append_of_infix_right hinfix, hfree⟩

theorem Replaced.occurred {m : Marker α} (h : Replaced word m.symbols text result) (hw : Plain m w)
    (hresult : w <:+: result) : w <:+: text := by
  obtain ⟨gap, hgap, htext, _⟩ := h.occurs_in_gap hw hresult
  exact hgap.trans htext

theorem Replaced.removed {m : Marker α} (h : Replaced word m.symbols text result)
    (hword : Plain m word) : ¬ word <:+: result := by
  intro hresult
  obtain ⟨gap, hgap, _, hfree⟩ := h.occurs_in_gap hword hresult
  exact hfree hgap

/-- One scan for each word, in the order of the list. -/
inductive ReplacedAll (marker : List α) : List (List α) → List α → List α → Prop
  | nil {text : List α} : ReplacedAll marker [] text text
  | cons {word : List α} {words : List (List α)} {text middle result : List α} :
      Replaced word marker text middle → ReplacedAll marker words middle result →
      ReplacedAll marker (word :: words) text result

variable {words : List (List α)}

/-- No scan brings a plain word back. -/
theorem ReplacedAll.occurred {m : Marker α} (h : ReplacedAll m.symbols words text result)
    (hw : Plain m w) (hresult : w <:+: result) : w <:+: text := by
  induction h with
  | nil => exact hresult
  | cons hfirst _ ih => exact hfirst.occurred hw (ih hresult)

/-- A plain word that has had its scan is gone at the end. -/
theorem ReplacedAll.removed {m : Marker α} (h : ReplacedAll m.symbols words text result)
    (hw : Plain m w) (hmem : w ∈ words) : ¬ w <:+: result := by
  induction h with
  | nil => cases hmem
  | cons hfirst hrest ih =>
    rcases List.mem_cons.mp hmem with rfl | hlater
    · exact fun hresult => hfirst.removed hw (hrest.occurred hw hresult)
    · exact ih hlater

end MarkedReplacement
