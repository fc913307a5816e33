import Mathlib.Data.List.Nodup

/-!
# Keyed tables

A finite table whose rows are identified by a key. The table carries the proof
that no key occurs twice, so looking a row up by its key and finding it among the
rows are the same thing. Saving a row replaces the row with its key.
-/

universe u v

structure KeyedTable (κ : Type u) (ρ : Type v) (key : ρ → κ) where
  rows : List ρ
  nodup : (rows.map key).Nodup

namespace KeyedTable
variable {κ : Type u} {ρ : Type v} {key : ρ → κ}

def empty : KeyedTable κ ρ key := ⟨[], List.nodup_nil⟩

/-- Change every row by a function that keeps the key. -/
def mapRows (t : KeyedTable κ ρ key) (f : ρ → ρ) (keeps : ∀ r, key (f r) = key r) :
    KeyedTable κ ρ key where
  rows := t.rows.map f
  nodup := by
    have same : (t.rows.map f).map key = t.rows.map key := by
      rw [List.map_map]
      exact List.map_congr_left fun r _ => keeps r
    rw [same]
    exact t.nodup

theorem mapRows_congr {t : KeyedTable κ ρ key} {f g : ρ → ρ} {keeps : ∀ r, key (f r) = key r}
    {keeps' : ∀ r, key (g r) = key r} (same : ∀ r ∈ t.rows, f r = g r) :
    t.mapRows f keeps = t.mapRows g keeps' := by
  have rows : t.rows.map f = t.rows.map g := List.map_congr_left same
  simp only [mapRows, rows]

theorem mapRows_id {t : KeyedTable κ ρ key} {f : ρ → ρ} {keeps : ∀ r, key (f r) = key r}
    (same : ∀ r ∈ t.rows, f r = r) : t.mapRows f keeps = t := by
  have rows : t.rows.map f = t.rows := (List.map_congr_left same).trans (List.map_id _)
  cases t
  simp only [mapRows, rows]

theorem mapRows_mapRows {t : KeyedTable κ ρ key} {f g : ρ → ρ} {keeps : ∀ r, key (f r) = key r}
    {keeps' : ∀ r, key (g r) = key r} :
    (t.mapRows f keeps).mapRows g keeps' =
      t.mapRows (fun r => g (f r)) fun r => (keeps' (f r)).trans (keeps r) := by
  simp only [mapRows, List.map_map, Function.comp_def]

section Lookup
variable [DecidableEq κ]

def get? (t : KeyedTable κ ρ key) (k : κ) : Option ρ := t.rows.find? fun r => key r = k

def put (t : KeyedTable κ ρ key) (row : ρ) : KeyedTable κ ρ key :=
  t.mapRows (fun r => if key r = key row then row else r) fun r => by
    by_cases h : key r = key row
    · simp [h]
    · simp [h]

/-- Append a row whose key is new. -/
def insert (t : KeyedTable κ ρ key) (row : ρ) (fresh : t.get? (key row) = none) :
    KeyedTable κ ρ key where
  rows := t.rows ++ [row]
  nodup := by
    rw [List.map_append, List.map_singleton, List.nodup_append]
    refine ⟨t.nodup, List.nodup_singleton _, ?_⟩
    intro a ha b hb
    obtain ⟨r, hr, rfl⟩ := List.mem_map.mp ha
    have hne := List.find?_eq_none.mp fresh r hr
    rw [List.mem_singleton.mp hb]
    simpa using hne

theorem get?_eq_some {t : KeyedTable κ ρ key} {k : κ} {row : ρ} :
    t.get? k = some row ↔ row ∈ t.rows ∧ key row = k := by
  constructor
  · intro h
    exact ⟨List.mem_of_find?_eq_some h, by simpa using List.find?_some h⟩
  · rintro ⟨hmem, rfl⟩
    cases found : t.get? (key row) with
    | none =>
      have hne := List.find?_eq_none.mp found row hmem
      simp at hne
    | some other =>
      have hother := List.mem_of_find?_eq_some found
      have hkey : key other = key row := by simpa using List.find?_some found
      rw [List.inj_on_of_nodup_map t.nodup hother hmem hkey]

theorem get?_eq_none {t : KeyedTable κ ρ key} {k : κ} :
    t.get? k = none ↔ ∀ row ∈ t.rows, key row ≠ k := by
  simp [get?, List.find?_eq_none]

theorem get?_key {t : KeyedTable κ ρ key} {k : κ} {row : ρ} (h : t.get? k = some row) :
    key row = k := (get?_eq_some.mp h).2

theorem mem_put {t : KeyedTable κ ρ key} {row r : ρ} :
    r ∈ (t.put row).rows ↔
      (r ∈ t.rows ∧ key r ≠ key row) ∨ (r = row ∧ ∃ old ∈ t.rows, key old = key row) := by
  simp only [put, mapRows, List.mem_map]
  constructor
  · rintro ⟨old, hold, rfl⟩
    by_cases h : key old = key row
    · exact Or.inr ⟨by simp [h], old, hold, h⟩
    · exact Or.inl (by simpa [h] using hold)
  · rintro (⟨hr, hne⟩ | ⟨rfl, old, hold, hk⟩)
    · exact ⟨r, hr, by simp [hne]⟩
    · exact ⟨old, hold, by simp [hk]⟩

theorem get?_put_self {t : KeyedTable κ ρ key} {row old : ρ}
    (h : t.get? (key row) = some old) : (t.put row).get? (key row) = some row := by
  obtain ⟨hold, hk⟩ := get?_eq_some.mp h
  exact get?_eq_some.mpr ⟨mem_put.mpr (Or.inr ⟨rfl, old, hold, hk⟩), rfl⟩

theorem get?_put_of_ne {t : KeyedTable κ ρ key} {row : ρ} {k : κ} (h : k ≠ key row) :
    (t.put row).get? k = t.get? k := by
  cases found : t.get? k with
  | none =>
    rw [get?_eq_none] at found ⊢
    intro r hr
    rcases mem_put.mp hr with ⟨hr, _⟩ | ⟨rfl, _⟩
    · exact found r hr
    · exact h.symm
  | some r =>
    obtain ⟨hr, rfl⟩ := get?_eq_some.mp found
    exact get?_eq_some.mpr ⟨mem_put.mpr (Or.inl ⟨hr, h⟩), rfl⟩

theorem mem_insert {t : KeyedTable κ ρ key} {row r : ρ} {fresh : t.get? (key row) = none} :
    r ∈ (t.insert row fresh).rows ↔ r ∈ t.rows ∨ r = row := by
  simp [insert]

theorem get?_insert_self {t : KeyedTable κ ρ key} {row : ρ}
    {fresh : t.get? (key row) = none} :
    (t.insert row fresh).get? (key row) = some row :=
  get?_eq_some.mpr ⟨mem_insert.mpr (Or.inr rfl), rfl⟩

theorem get?_insert_of_ne {t : KeyedTable κ ρ key} {row : ρ} {k : κ}
    {fresh : t.get? (key row) = none} (h : k ≠ key row) :
    (t.insert row fresh).get? k = t.get? k := by
  simp [get?, insert, List.find?_append, h.symm]

theorem get?_mapRows {t : KeyedTable κ ρ key} {f : ρ → ρ} {keeps : ∀ r, key (f r) = key r}
    (k : κ) : (t.mapRows f keeps).get? k = (t.get? k).map f := by
  simp only [get?, mapRows, List.find?_map]
  congr 2
  funext r
  simp [keeps r]

omit [DecidableEq κ] in
/-- A filter that lets rows of one key through keeps the row with that key. -/
theorem filter_eq_singleton {t : KeyedTable κ ρ key} {p : ρ → Bool} {row : ρ}
    (mem : row ∈ t.rows) (holds : p row = true)
    (only : ∀ r ∈ t.rows, p r = true → key r = key row) : t.rows.filter p = [row] := by
  have distinct : (t.rows.filter p).Nodup := (List.Nodup.of_map key t.nodup).filter p
  have hmem : row ∈ t.rows.filter p := List.mem_filter.mpr ⟨mem, holds⟩
  have hall : ∀ r ∈ t.rows.filter p, r = row := by
    intro r hr
    obtain ⟨hrows, hp⟩ := List.mem_filter.mp hr
    exact List.inj_on_of_nodup_map t.nodup hrows mem (only r hrows hp)
  cases hl : t.rows.filter p with
  | nil =>
    rw [hl] at hmem
    cases hmem
  | cons a rest =>
    rw [hl] at hall distinct
    have ha : a = row := hall a List.mem_cons_self
    cases rest with
    | nil => rw [ha]
    | cons b rest =>
      have hb : b = row := hall b (List.mem_cons_of_mem a List.mem_cons_self)
      have hne := (List.nodup_cons.mp distinct).1
      rw [ha, hb] at hne
      exact absurd List.mem_cons_self hne

/-- Saving a row moves a count by what the old row and the new row contribute. -/
theorem countP_put (t : KeyedTable κ ρ key) (p : ρ → Bool) {row old : ρ}
    (h : t.get? (key row) = some old) :
    (t.put row).rows.countP p + (if p old then 1 else 0) =
      t.rows.countP p + (if p row then 1 else 0) := by
  obtain ⟨hmem, hkey⟩ := get?_eq_some.mp h
  have others : ∀ r ∈ t.rows, r ≠ old → key r ≠ key row := by
    intro r hr hne hk
    exact hne (List.inj_on_of_nodup_map t.nodup hr hmem (hk.trans hkey.symm))
  have distinct : t.rows.Nodup := List.Nodup.of_map key t.nodup
  obtain ⟨front, back, split⟩ := List.append_of_mem hmem
  rw [split] at distinct others
  have keep : ∀ part : List ρ, (∀ r ∈ part, r ≠ old) → (∀ r ∈ part, r ∈ front ++ old :: back) →
      part.map (fun r => if key r = key row then row else r) = part := by
    intro part hne hin
    conv_rhs => rw [← List.map_id part]
    exact List.map_congr_left fun r hr => by simp [others r (hin r hr) (hne r hr)]
  have hfront := keep front (by
    intro r hr heq
    subst heq
    have := (List.nodup_append.mp distinct).2.2 r hr r List.mem_cons_self
    exact this rfl) (by intro r hr; simp [hr])
  have hback := keep back (by
    intro r hr heq
    subst heq
    exact (List.nodup_cons.mp (List.nodup_append.mp distinct).2.1).1 hr)
    (by intro r hr; simp [hr])
  simp only [put, mapRows, split, List.map_append, List.map_cons, hfront, hback, hkey, if_true,
    List.countP_append, List.countP_cons]
  omega

theorem countP_insert (t : KeyedTable κ ρ key) (p : ρ → Bool) {row : ρ}
    (fresh : t.get? (key row) = none) :
    (t.insert row fresh).rows.countP p = t.rows.countP p + (if p row then 1 else 0) := by
  simp [insert, List.countP_append, List.countP_cons]

end Lookup
end KeyedTable
