import Mathlib.Data.List.Nodup

/-!
# A unit of work over a table

The part of an object-relational session that a program sees when it shares
rows with other transactions.  Two documented behaviours matter.

* A session keeps one instance per primary key, its *identity map*.  A query
  that meets a row whose instance is already loaded hands back that instance
  with the attributes it already has (`materialize`), however the row looks now.
* A flush writes the attributes that differ from what was loaded and no others
  (`writeBack`), so it merges into whatever the row has become (`flush`).

## Main definitions

* `Instance` — a loaded row with its primary key.
* `materialize` — what a query returns for a row.
* `writeBack` — one column of an UPDATE.
* `flush` — the UPDATEs of a set of dirty instances.
-/

namespace Orm

variable {α ρ : Type}

/-- One column after a flush: the stored value, unless the attribute differs
from what was loaded. -/
def writeBack [DecidableEq α] (loaded current stored : α) : α :=
  if current = loaded then stored else current

/-- A clean attribute is not written. -/
@[simp] theorem writeBack_clean [DecidableEq α] (loaded stored : α) :
    writeBack loaded loaded stored = stored := if_pos rfl

/-- Over a row that has not moved since it was loaded, a flush is an assignment. -/
@[simp] theorem writeBack_fresh [DecidableEq α] (current stored : α) :
    writeBack stored current stored = current := by
  unfold writeBack
  split
  · next h => exact h.symm
  · rfl

theorem writeBack_dirty [DecidableEq α] {loaded current : α} (stored : α)
    (h : current ≠ loaded) : writeBack loaded current stored = current := if_neg h

/-- A row loaded into a session, with its primary key. -/
structure Instance (ρ : Type) where
  id : ℕ
  row : ρ

/-- What a query hands back for the row `stored` at key `k`: the instance the
identity map already has, else a new one. -/
def materialize (identity : List (Instance ρ)) (k : ℕ) (stored : ρ) : Instance ρ :=
  (identity.find? fun i => i.id = k).getD ⟨k, stored⟩

theorem materialize_id (identity : List (Instance ρ)) (k : ℕ) (stored : ρ) :
    (materialize identity k stored).id = k := by
  unfold materialize
  cases h : identity.find? fun i => i.id = k with
  | none => rfl
  | some i => simpa using List.find?_some h

/-- The identity map has one instance per primary key. -/
theorem find?_id {identity : List (Instance ρ)} {i : Instance ρ}
    (hnd : (identity.map Instance.id).Nodup) (hi : i ∈ identity) :
    (identity.find? fun j => j.id = i.id) = some i := by
  induction identity with
  | nil => simp at hi
  | cons j identity ih =>
    rw [List.map_cons, List.nodup_cons] at hnd
    rcases List.mem_cons.mp hi with rfl | hi
    · simp
    · have hne : j.id ≠ i.id := fun h => hnd.1 (h ▸ List.mem_map_of_mem hi)
      simpa [hne] using ih hnd.2 hi

/-- A loaded row is not refreshed. -/
theorem materialize_loaded {identity : List (Instance ρ)} {i : Instance ρ}
    (hnd : (identity.map Instance.id).Nodup) (hi : i ∈ identity) (stored : ρ) :
    materialize identity i.id stored = i := by
  unfold materialize
  rw [find?_id hnd hi, Option.getD_some]

/-- What a query hands back is a loaded instance or the row as it is. -/
theorem materialize_cases (identity : List (Instance ρ)) (k : ℕ) (stored : ρ) :
    materialize identity k stored ∈ identity ∨ materialize identity k stored = ⟨k, stored⟩ := by
  unfold materialize
  cases h : identity.find? fun i => i.id = k with
  | none => exact .inr rfl
  | some i => exact .inl (List.mem_of_find?_eq_some h)

/-- The UPDATEs that flush the dirty instances, each paired with its current
attributes, merging column by column with `merge loaded current stored`. -/
def flush (merge : ρ → ρ → ρ → ρ) (dirty : List (Instance ρ × ρ)) (table : ℕ → ρ) : ℕ → ρ :=
  fun k =>
    match dirty.find? fun d => d.1.id = k with
    | some d => merge d.1.row d.2 (table k)
    | none => table k

theorem flush_of_notMem (merge : ρ → ρ → ρ → ρ) {dirty : List (Instance ρ × ρ)}
    (table : ℕ → ρ) {k : ℕ} (h : k ∉ dirty.map fun d => d.1.id) :
    flush merge dirty table k = table k := by
  have hnone : (dirty.find? fun d => d.1.id = k) = none := by
    rw [List.find?_eq_none]
    intro d hd hk
    exact h (List.mem_map.mpr ⟨d, hd, by simpa using hk⟩)
  simp [flush, hnone]

theorem exists_mem_flush (merge : ρ → ρ → ρ → ρ) {dirty : List (Instance ρ × ρ)}
    (table : ℕ → ρ) {k : ℕ} (h : k ∈ dirty.map fun d => d.1.id) :
    ∃ d ∈ dirty, d.1.id = k ∧ flush merge dirty table k = merge d.1.row d.2 (table k) := by
  cases hf : dirty.find? fun d => d.1.id = k with
  | none =>
    obtain ⟨d, hd, rfl⟩ := List.mem_map.mp h
    have hne := List.find?_eq_none.mp hf d hd
    simp at hne
  | some d =>
    refine ⟨d, List.mem_of_find?_eq_some hf, by simpa using List.find?_some hf, ?_⟩
    simp [flush, hf]

/-- The row a flush leaves of one of its instances. -/
theorem flush_map_of_mem (merge : ρ → ρ → ρ → ρ) {dirty : List (Instance ρ)}
    (f : Instance ρ → ρ) (table : ℕ → ρ) (hnd : (dirty.map Instance.id).Nodup)
    {i : Instance ρ} (hi : i ∈ dirty) :
    flush merge (dirty.map fun i => (i, f i)) table i.id = merge i.row (f i) (table i.id) := by
  induction dirty with
  | nil => simp at hi
  | cons j dirty ih =>
    rw [List.map_cons, List.nodup_cons] at hnd
    rcases List.mem_cons.mp hi with rfl | hi
    · simp [flush]
    · have hne : j.id ≠ i.id := fun h => hnd.1 (h ▸ List.mem_map_of_mem hi)
      simpa [flush, hne] using ih hnd.2 hi

/-- Where the rows have not moved since they were loaded, a flush assigns them. -/
theorem flush_fresh (merge : ρ → ρ → ρ → ρ) (hmerge : ∀ r c, merge r c r = c)
    {dirty : List (Instance ρ)} (f : ρ → ρ) (table : ℕ → ρ)
    (hfresh : ∀ i ∈ dirty, i.row = table i.id) (k : ℕ) :
    flush merge (dirty.map fun i => (i, f i.row)) table k =
      if k ∈ dirty.map Instance.id then f (table k) else table k := by
  split
  · next h =>
    have hmem : k ∈ (dirty.map fun i => (i, f i.row)).map fun d => d.1.id := by simpa using h
    obtain ⟨d, hd, hk, heq⟩ := exists_mem_flush merge table hmem
    obtain ⟨i, hi, rfl⟩ := List.mem_map.mp hd
    obtain rfl : i.id = k := hk
    rw [heq, hfresh i hi, hmerge]
  · next h => exact flush_of_notMem merge table (by simpa using h)

end Orm
