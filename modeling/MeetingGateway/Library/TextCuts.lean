import Mathlib.Data.List.DropRight
import Mathlib.Data.List.Forall2

/-!
# Texts that are cut and rewritten

Cutting a list at a separator, as `str.partition` and `str.rpartition` do, and rewriting a
list block by block. When no block ends in a plain symbol unless it is that symbol alone, a
plain end of the result comes symbol by symbol from an end of the original.
-/

namespace TextCuts

universe u v
variable {α : Type u} {β : Type v}

section Cuts
variable [DecidableEq α] {sep : α} {text tail : List α}

/-- `text.partition(sep)[0]`. -/
def beforeFirst (sep : α) (text : List α) : List α := text.takeWhile (· ≠ sep)

/-- `text.partition(sep)[2]`. -/
def afterFirst (sep : α) (text : List α) : List α := (text.dropWhile (· ≠ sep)).drop 1

/-- `text.rpartition(sep)[0]`. -/
def beforeLast (sep : α) (text : List α) : List α := (text.rdropWhile (· ≠ sep)).dropLast

/-- `text.rpartition(sep)[2]`. -/
def afterLast (sep : α) (text : List α) : List α := text.rtakeWhile (· ≠ sep)

theorem beforeFirst_append (h : sep ∉ text) :
    beforeFirst sep (text ++ tail) = text ++ beforeFirst sep tail := by
  apply List.takeWhile_append_of_pos
  intro c hc
  simpa using ne_of_mem_of_not_mem hc h

theorem beforeFirst_of_notMem (h : sep ∉ text) : beforeFirst sep text = text := by
  have := @beforeFirst_append α _ sep text [] h
  simpa [beforeFirst] using this

theorem beforeFirst_append_sep (h : sep ∉ text) :
    beforeFirst sep (text ++ sep :: tail) = text := by
  rw [beforeFirst_append h]
  simp [beforeFirst]

theorem afterFirst_append_sep (h : sep ∉ text) : afterFirst sep (text ++ sep :: tail) = tail := by
  have skipped : ∀ c ∈ text, decide (c ≠ sep) = true := by
    intro c hc
    simpa using ne_of_mem_of_not_mem hc h
  rw [afterFirst, List.dropWhile_append_of_pos skipped]
  simp

theorem afterLast_of_notMem (h : sep ∉ text) : afterLast sep text = text := by
  apply List.rtakeWhile_eq_self_iff.mpr
  intro c hc
  simpa using ne_of_mem_of_not_mem hc h

theorem notMem_beforeFirst : sep ∉ beforeFirst sep text := by
  intro h
  simpa using List.mem_takeWhile_imp h

/-- A text with the separator is what comes before it, the separator and the rest. -/
theorem exists_cut (h : sep ∈ text) : ∃ rest, text = beforeFirst sep text ++ sep :: rest := by
  have hsplit : beforeFirst sep text ++ text.dropWhile (· ≠ sep) = text :=
    List.takeWhile_append_dropWhile
  cases hrest : text.dropWhile (· ≠ sep) with
  | nil =>
    rw [hrest, List.append_nil] at hsplit
    rw [← hsplit] at h
    exact absurd h notMem_beforeFirst
  | cons c rest =>
    have hc : c = sep := by
      have hne : text.dropWhile (· ≠ sep) ≠ [] := by
        rw [hrest]
        exact List.cons_ne_nil c rest
      have hhead := List.head_dropWhile_not (· ≠ sep) hne
      simp only [hrest] at hhead
      by_contra hc
      simp [hc] at hhead
    subst hc
    exact ⟨rest, by rw [← hrest, hsplit]⟩

/-- Behind the last separator the cut is determined. -/
theorem append_sep_inj {text' tail' : List α} (h : sep ∉ tail) (h' : sep ∉ tail')
    (same : text ++ sep :: tail = text' ++ sep :: tail') : text = text' ∧ tail = tail' := by
  have reversed : tail.reverse ++ sep :: text.reverse = tail'.reverse ++ sep :: text'.reverse := by
    simpa using congrArg List.reverse same
  rw [← List.mem_reverse] at h h'
  have last := congrArg (beforeFirst sep) reversed
  have front := congrArg (afterFirst sep) reversed
  rw [beforeFirst_append_sep h, beforeFirst_append_sep h'] at last
  rw [afterFirst_append_sep h, afterFirst_append_sep h'] at front
  exact ⟨List.reverse_inj.mp front, List.reverse_inj.mp last⟩

end Cuts

section Runs
variable {p : α → Bool}

theorem dropWhile_append_tail {tail : List α} (htail : ∀ c ∈ tail, p c = false) (text : List α) :
    (text ++ tail).dropWhile p = text.dropWhile p ++ tail := by
  rw [List.dropWhile_append]
  split
  · rename_i hempty
    rw [List.isEmpty_iff.mp hempty, List.nil_append]
    cases tail with
    | nil => rfl
    | cons c tail => simp [htail c List.mem_cons_self]
  · rfl

/-- Reading on past the end adds a part of the tail, and nothing if the reading stopped before. -/
theorem takeWhile_append_tail (p : α → Bool) (text tail : List α) :
    ∃ part, (text ++ tail).takeWhile p = text.takeWhile p ++ part ∧ (∀ c ∈ part, c ∈ tail) ∧
      ((∃ c ∈ text, p c = false) → part = []) := by
  by_cases hall : ∀ c ∈ text, p c = true
  · refine ⟨tail.takeWhile p, ?_, fun c hc => (List.takeWhile_subset p) hc, ?_⟩
    · rw [List.takeWhile_append_of_pos hall, List.takeWhile_eq_self_iff.mpr hall]
    · rintro ⟨c, hc, hstop⟩
      rw [hall c hc] at hstop
      cases hstop
  · refine ⟨[], ?_, by simp, fun _ => rfl⟩
    rw [List.takeWhile_append, if_neg, List.append_nil]
    intro hlength
    exact hall (List.takeWhile_eq_self_iff.mp
      ((List.takeWhile_prefix p).eq_of_length hlength))

end Runs

/-- What follows from one symbol's counterpart follows along related texts. -/
theorem forall₂_left {R : α → β → Prop} {P : α → Prop} {text : List α} {result : List β}
    (h : List.Forall₂ R text result) (hP : ∀ a, ∀ x ∈ result, R a x → P a) : ∀ a ∈ text, P a := by
  induction h with
  | nil => simp
  | @cons a x text result hax _ ih =>
    intro c hc
    rcases List.mem_cons.mp hc with rfl | hc
    · exact hP c x List.mem_cons_self hax
    · exact ih (fun a y hy => hP a y (List.mem_cons_of_mem x hy)) c hc

inductive Blockwise (R : α → List β → Prop) : List α → List β → Prop
  | nil : Blockwise R [] []
  | cons {a : α} {block : List β} {text : List α} {result : List β} :
      R a block → Blockwise R text result → Blockwise R (a :: text) (block ++ result)

namespace Blockwise
variable {R S : α → List β → Prop} {text text' : List α} {result result' : List β}

theorem mono (hRS : ∀ {a block}, R a block → S a block) (h : Blockwise R text result) :
    Blockwise S text result := by
  induction h with
  | nil => exact .nil
  | cons hblock _ ih => exact .cons (hRS hblock) ih

theorem append (h : Blockwise R text result) (h' : Blockwise R text' result') :
    Blockwise R (text ++ text') (result ++ result') := by
  induction h with
  | nil => exact h'
  | cons hblock _ ih =>
    rw [List.cons_append, List.append_assoc]
    exact .cons hblock ih

theorem of_singletons {R : α → List α → Prop} (h : ∀ a, R a [a]) (text : List α) :
    Blockwise R text text := by
  induction text with
  | nil => exact .nil
  | cons a text ih => exact .cons (h a) ih

/-- Only the empty text has an empty result if blocks are not empty. -/
theorem eq_nil (nonempty : ∀ {a}, ¬ R a []) (h : Blockwise R text []) : text = [] := by
  generalize hresult : ([] : List β) = result at h
  cases h with
  | nil => rfl
  | cons hblock _ =>
    have hempty := List.nil_eq_append_iff.mp hresult
    rw [hempty.1] at hblock
    exact absurd hblock nonempty

/-- A plain end of the result comes symbol by symbol from an end of the text. -/
theorem plain_end (plain : β → Prop) (nonempty : ∀ {a}, ¬ R a [])
    (single : ∀ {a front x}, R a (front ++ [x]) → plain x → front = []) {start tail : List β}
    (h : Blockwise R text (start ++ tail)) (hplain : ∀ x ∈ tail, plain x) :
    ∃ before after, text = before ++ after ∧ Blockwise R before start ∧
      List.Forall₂ (fun a x => R a [x]) after tail := by
  generalize hresult : start ++ tail = result at h
  induction h generalizing start tail with
  | nil =>
    obtain ⟨rfl, rfl⟩ := List.append_eq_nil_iff.mp hresult
    exact ⟨[], [], rfl, .nil, .nil⟩
  | @cons a block text result hblock hrest ih =>
    rcases List.append_eq_append_iff.mp hresult with ⟨part, hpart, htail⟩ | ⟨part, hpart, htail⟩
    · rcases part.eq_nil_or_concat with rfl | ⟨front, x, hlast⟩
      · -- The plain end begins where the block ends.
        rw [List.append_nil] at hpart
        rw [List.nil_append] at htail
        obtain ⟨before, after, rfl, hbefore, hafter⟩ :=
          @ih [] tail hplain htail
        obtain rfl := eq_nil nonempty hbefore
        refine ⟨[a], after, rfl, ?_, hafter⟩
        rw [← hpart]
        have := Blockwise.cons hblock (Blockwise.nil (R := R))
        rwa [List.append_nil] at this
      · -- The plain end reaches into the block, so the block is its first symbol.
        subst hlast
        have hx : plain x := hplain x (by simp [htail])
        have hone : start ++ front = [] := by
          refine single (a := a) ?_ hx
          rw [List.append_assoc]
          rwa [hpart, List.concat_eq_append] at hblock
        obtain ⟨rfl, rfl⟩ := List.append_eq_nil_iff.mp hone
        have hrestPlain : ∀ y ∈ result, plain y := by
          intro y hy
          exact hplain y (by simp [htail, hy])
        obtain ⟨before, after, rfl, hbefore, hafter⟩ := @ih [] result hrestPlain rfl
        obtain rfl := eq_nil nonempty hbefore
        refine ⟨[], a :: after, rfl, .nil, ?_⟩
        rw [htail]
        refine .cons ?_ hafter
        simpa [hpart] using hblock
    · obtain ⟨before, after, rfl, hbefore, hafter⟩ := @ih part tail hplain htail.symm
      refine ⟨a :: before, after, rfl, ?_, hafter⟩
      rw [hpart]
      exact .cons hblock hbefore

end Blockwise
end TextCuts
