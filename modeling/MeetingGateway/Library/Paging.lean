import MeetingGateway.Library.GreatestFirst
import Mathlib.Data.List.Perm.Subperm

/-!
# Pages of an ordered list

A list in strictly descending order of a key is read page by page. The pages of one list
put together are the list. When the list grows between two pages an element only moves
back, so a reader that goes forward meets every element that was there when it began.
-/

namespace Paging

universe u v
variable {α : Type u} {κ : Type v}

/-- The page with this index, counted from zero. -/
def page (size index : Nat) (l : List α) : List α := (l.drop (index * size)).take size

def pages (size count : Nat) (l : List α) : List α :=
  (List.range count).flatMap fun index => page size index l

theorem length_page (size index : Nat) (l : List α) :
    (page size index l).length = min size (l.length - index * size) := by
  simp [page]

theorem pages_eq_take (size count : Nat) (l : List α) :
    pages size count l = l.take (count * size) := by
  induction count with
  | zero => simp [pages]
  | succ count ih =>
    calc pages size (count + 1) l = pages size count l ++ page size count l := by
          simp [pages, List.range_succ]
      _ = l.take (count * size) ++ (l.drop (count * size)).take size := by rw [ih, page]
      _ = l.take ((count + 1) * size) := by rw [← List.take_add, Nat.succ_mul]

theorem pages_complete {size count : Nat} {l : List α} (enough : l.length ≤ count * size) :
    pages size count l = l := by
  rw [pages_eq_take]
  exact List.take_of_length_le enough

section Order
variable [LinearOrder κ] (key : α → κ)

def Descending (l : List α) : Prop := l.Pairwise fun a b => key b < key a

/-- How many elements the key comes after. -/
def rank (k : κ) (l : List α) : Nat := l.countP fun a => decide (k < key a)

/-- Every key of the first list is a key of the second one. -/
def Grows (l l' : List α) : Prop := ∀ a ∈ l, ∃ b ∈ l', key b = key a

variable {key} {l l' : List α} {a : α}

theorem Descending.getElem?_rank (h : Descending key l) (mem : a ∈ l) :
    l[rank key (key a) l]? = some a := by
  induction l with
  | nil => cases mem
  | cons b rest ih =>
    obtain ⟨first, sorted⟩ := List.pairwise_cons.mp h
    rcases List.mem_cons.mp mem with rfl | later
    · have front : rank key (key a) (a :: rest) = 0 := by
        rw [rank, List.countP_eq_zero]
        intro c hc
        rcases List.mem_cons.mp hc with rfl | hc
        · simp
        · simpa using le_of_lt (first c hc)
      rw [front]
      rfl
    · have behind : rank key (key a) (b :: rest) = rank key (key a) rest + 1 := by
        simp [rank, first a later]
      rw [behind, List.getElem?_cons_succ]
      exact ih sorted later

theorem Descending.rank_lt (h : Descending key l) (mem : a ∈ l) :
    rank key (key a) l < l.length := by
  have found := h.getElem?_rank mem
  exact (List.getElem?_eq_some_iff.mp found).1

theorem Descending.nodup_keys (h : Descending key l) : (l.map key).Nodup := by
  rw [List.Nodup, List.pairwise_map]
  exact h.imp fun hlt => ne_of_gt hlt

/-- An element of a list that grows never moves to the front. -/
theorem Descending.rank_le (h : Descending key l) (grows : Grows key l l') (k : κ) :
    rank key k l ≤ rank key k l' := by
  have count : ∀ m : List α,
      rank key k m = ((m.map key).filter fun k' => decide (k < k')).length := by
    intro m
    rw [rank, List.countP_eq_length_filter, List.filter_map, List.length_map]
    rfl
  have inside : (l.map key).filter (fun k' => decide (k < k')) ⊆
      (l'.map key).filter fun k' => decide (k < k') := by
    intro k' hk'
    obtain ⟨hmem, hlt⟩ := List.mem_filter.mp hk'
    obtain ⟨a, ha, rfl⟩ := List.mem_map.mp hmem
    obtain ⟨b, hb, hkey⟩ := grows a ha
    exact List.mem_filter.mpr ⟨List.mem_map.mpr ⟨b, hb, hkey⟩, hlt⟩
  rw [count, count]
  exact (List.subperm_of_subset (h.nodup_keys.filter _) inside).length_le

/-- An element that no page before this one can have shown is on this page, or it is
further back and this page is full. -/
theorem Descending.seen_or_later (h : Descending key l) (mem : a ∈ l) {size index : Nat}
    (unseen : index * size ≤ rank key (key a) l) :
    a ∈ page size index l ∨
      ((index + 1) * size ≤ rank key (key a) l ∧ (page size index l).length = size) := by
  have found := h.getElem?_rank mem
  have inside := h.rank_lt mem
  have next : (index + 1) * size = index * size + size := Nat.succ_mul index size
  rcases Nat.lt_or_ge (rank key (key a) l) ((index + 1) * size) with here | later
  · left
    have position : (page size index l)[rank key (key a) l - index * size]? = some a := by
      rw [page, List.getElem?_take_of_lt (by omega), List.getElem?_drop]
      rw [Nat.add_sub_cancel' unseen]
      exact found
    exact List.mem_of_getElem? position
  · refine Or.inr ⟨later, ?_⟩
    rw [length_page]
    omega

theorem sort_descending (distinct : (l.map key).Nodup) :
    Descending key (GreatestFirst.sort key l) := by
  have sorted := GreatestFirst.sort_pairwise key l
  have different : (GreatestFirst.sort key l).Pairwise fun a b => key a ≠ key b := by
    rw [← List.pairwise_map (f := key) (R := fun a b => a ≠ b)]
    exact (GreatestFirst.sort_perm.map key).nodup_iff.mpr distinct
  exact sorted.imp₂ (fun _ _ hle hne => lt_of_le_of_ne hle hne.symm) different

/-- The order of the rows does not show in what is sorted. -/
theorem sort_eq_of_perm (distinct : (l.map key).Nodup) (same : l.Perm l') :
    GreatestFirst.sort key l = GreatestFirst.sort key l' := by
  have distinct' : (l'.map key).Nodup := (same.map key).nodup_iff.mp distinct
  have perm : (GreatestFirst.sort key l).Perm (GreatestFirst.sort key l') :=
    GreatestFirst.sort_perm.trans (same.trans GreatestFirst.sort_perm.symm)
  refine List.Perm.eq_of_pairwise ?_ (sort_descending distinct) (sort_descending distinct') perm
  intro a b _ _ hab hba
  exact absurd hab (lt_asymm hba)

theorem mem_sort : a ∈ GreatestFirst.sort key l ↔ a ∈ l := GreatestFirst.sort_perm.mem_iff

end Order
end Paging
