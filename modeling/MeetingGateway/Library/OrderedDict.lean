import Mathlib.Data.List.Basic

/-!
# Insertion-ordered dictionaries

Association lists read as dictionaries: the first entry of a key counts, setting a
key overwrites in place or appends, and a dictionary is updated with another one
entry by entry, so later dictionaries win.
-/

universe u v

abbrev OrderedDict (κ : Type u) (ν : Type v) := List (κ × ν)

namespace OrderedDict
variable {κ : Type u} {ν : Type v} [DecidableEq κ]

def get? (d : OrderedDict κ ν) (k : κ) : Option ν := (d.find? fun e => e.1 = k).map Prod.snd

def set : OrderedDict κ ν → κ → ν → OrderedDict κ ν
  | [], k, v => [(k, v)]
  | (k', v') :: rest, k, v => if k' = k then (k, v) :: rest else (k', v') :: set rest k v

def erase (d : OrderedDict κ ν) (k : κ) : OrderedDict κ ν := d.filter fun e => decide (e.1 ≠ k)

def update (d e : OrderedDict κ ν) : OrderedDict κ ν := e.foldl (fun acc kv => acc.set kv.1 kv.2) d

@[simp] theorem get?_nil (k : κ) : get? ([] : OrderedDict κ ν) k = none := rfl

@[simp] theorem get?_cons (d : OrderedDict κ ν) (k k' : κ) (v : ν) :
    get? ((k', v) :: d) k = if k' = k then some v else get? d k := by
  by_cases h : k' = k
  · simp [get?, h]
  · simp [get?, h]

theorem get?_set (d : OrderedDict κ ν) (k k' : κ) (v : ν) :
    (d.set k v).get? k' = if k = k' then some v else d.get? k' := by
  induction d with
  | nil => simp [set]
  | cons e rest ih =>
    obtain ⟨k₀, v₀⟩ := e
    by_cases h : k₀ = k
    · subst h
      by_cases h' : k₀ = k'
      · simp [set, h']
      · simp [set, h']
    · by_cases h' : k₀ = k'
      · subst h'
        simp [set, h, Ne.symm h]
      · simp [set, h, h', ih]

theorem erase_cons (d : OrderedDict κ ν) (k k' : κ) (v : ν) :
    erase ((k', v) :: d) k = if k' = k then erase d k else (k', v) :: erase d k := by
  by_cases h : k' = k
  · simp [erase, h]
  · simp [erase, h]

theorem get?_erase (d : OrderedDict κ ν) (k k' : κ) :
    (d.erase k).get? k' = if k = k' then none else d.get? k' := by
  induction d with
  | nil => simp [erase]
  | cons e rest ih =>
    obtain ⟨k₀, v₀⟩ := e
    rw [erase_cons]
    by_cases h : k₀ = k
    · subst h
      rw [if_pos rfl, ih]
      by_cases h' : k₀ = k'
      · simp [h']
      · simp [h']
    · rw [if_neg h, get?_cons, get?_cons, ih]
      by_cases h' : k₀ = k'
      · subst h'
        simp [Ne.symm h]
      · simp [h']

/-- Dropping a key that does not occur changes nothing. -/
theorem erase_of_absent {d : OrderedDict κ ν} {k : κ} (h : d.get? k = none) : d.erase k = d := by
  have absent : ∀ e ∈ d, e.1 ≠ k := by
    simpa [get?, List.find?_eq_none] using h
  exact List.filter_eq_self.mpr fun e he => by simpa using absent e he

/-- Setting a key to the value it has changes nothing. -/
theorem set_of_present {d : OrderedDict κ ν} {k : κ} {v : ν} (h : d.get? k = some v) :
    d.set k v = d := by
  induction d with
  | nil => cases h
  | cons e rest ih =>
    obtain ⟨k₀, v₀⟩ := e
    by_cases hk : k₀ = k
    · subst hk
      have hv : v₀ = v := by simpa using h
      simp [set, hv]
    · have hr : get? rest k = some v := by simpa [hk] using h
      simp [set, hk, ih hr]

def Distinct (d : OrderedDict κ ν) : Prop := (d.map Prod.fst).Nodup

instance (d : OrderedDict κ ν) : Decidable (Distinct d) :=
  inferInstanceAs (Decidable (d.map Prod.fst).Nodup)

theorem distinct_cons {d : OrderedDict κ ν} {k : κ} {v : ν} :
    Distinct ((k, v) :: d) ↔ d.get? k = none ∧ Distinct d := by
  have absent : k ∉ d.map Prod.fst ↔ d.get? k = none := by
    rw [get?, Option.map_eq_none_iff, List.find?_eq_none, List.mem_map]
    constructor
    · intro h e he hk
      exact h ⟨e, he, by simpa using hk⟩
    · rintro h ⟨e, he, hk⟩
      exact h e he (by simpa using hk)
  rw [Distinct, List.map_cons, List.nodup_cons, absent, Distinct]

theorem mem_of_get? {d : OrderedDict κ ν} {k : κ} {v : ν} (h : d.get? k = some v) :
    (k, v) ∈ d := by
  obtain ⟨e, he, rfl⟩ := Option.map_eq_some_iff.mp h
  have hkey : e.1 = k := by simpa using List.find?_some he
  subst hkey
  exact List.mem_of_find?_eq_some he

theorem mem_set {d : OrderedDict κ ν} {k : κ} {v : ν} {e : κ × ν} (h : e ∈ d.set k v) :
    e = (k, v) ∨ e ∈ d := by
  induction d with
  | nil => exact Or.inl (List.mem_singleton.mp h)
  | cons e₀ rest ih =>
    obtain ⟨k₀, v₀⟩ := e₀
    unfold set at h
    split at h
    · rcases List.mem_cons.mp h with hnew | hold
      · exact Or.inl hnew
      · exact Or.inr (List.mem_cons_of_mem _ hold)
    · rcases List.mem_cons.mp h with hfirst | hrest
      · exact Or.inr (hfirst ▸ List.mem_cons_self)
      · exact (ih hrest).imp_right (List.mem_cons_of_mem _)

/-- Every entry of an updated dictionary is an entry of one of the two. -/
theorem mem_update {d e : OrderedDict κ ν} {x : κ × ν} (h : x ∈ d.update e) : x ∈ e ∨ x ∈ d := by
  induction e generalizing d with
  | nil => exact Or.inr h
  | cons kv rest ih =>
    rcases ih (d := d.set kv.1 kv.2) h with hrest | hset
    · exact Or.inl (List.mem_cons_of_mem _ hrest)
    · rcases mem_set hset with hnew | hold
      · exact Or.inl (hnew ▸ List.mem_cons_self)
      · exact Or.inr hold

/-- A key has its value in the second dictionary, or else the one in the first. -/
theorem get?_update {d e : OrderedDict κ ν} (distinct : Distinct e) (k : κ) :
    (d.update e).get? k = (e.get? k).or (d.get? k) := by
  induction e generalizing d with
  | nil => rfl
  | cons kv rest ih =>
    obtain ⟨k₀, v₀⟩ := kv
    obtain ⟨absent, hrest⟩ := distinct_cons.mp distinct
    have later : get? (update d ((k₀, v₀) :: rest)) k =
        (get? rest k).or ((d.set k₀ v₀).get? k) := ih hrest
    rw [later, get?_set, get?_cons]
    by_cases hk : k₀ = k
    · subst hk
      simp [absent]
    · simp [hk]

theorem set_ne_nil (d : OrderedDict κ ν) (k : κ) (v : ν) : d.set k v ≠ [] := by
  cases d with
  | nil => simp [set]
  | cons e rest =>
    unfold set
    split
    · simp
    · simp

/-- An updated dictionary is empty only if both are. -/
theorem update_eq_nil {d e : OrderedDict κ ν} (h : d.update e = []) : d = [] ∧ e = [] := by
  induction e generalizing d with
  | nil => exact ⟨h, rfl⟩
  | cons kv rest ih => exact absurd (ih h).1 (set_ne_nil d kv.1 kv.2)

/-- The value of the last dictionary that has the key. -/
def lastValue (ds : List (OrderedDict κ ν)) (k : κ) : Option ν := ds.reverse.findSome? (get? · k)

theorem lastValue_concat (ds : List (OrderedDict κ ν)) (d : OrderedDict κ ν) (k : κ) :
    lastValue (ds ++ [d]) k = (d.get? k).or (lastValue ds k) := by
  rw [lastValue, List.reverse_append, List.reverse_singleton, List.singleton_append,
    List.findSome?_cons]
  cases d.get? k with
  | none => rfl
  | some v => rfl

end OrderedDict
