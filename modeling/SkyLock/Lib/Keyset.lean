import Mathlib.Data.List.Sort
import Mathlib.Data.Nat.Notation
import Mathlib.Order.WellFounded

/-!
# Keyset pagination

A table is read page by page, from the greatest key downwards: each request asks for
the rows below the last key of the page before, and for one row more than it returns,
to see whether there are more.  Rows may be added between two requests; as long as none
is taken away, a walk misses no row that was there when it started.

## Main definitions

* `newest` — rows from the greatest key downwards.
* `page` — the first rows, and the key to go on from.
* `Walk` — following the keys until there is none.

## Main results

* `page_last`, `page_next` — what a page leaves out.
* `Walk.exists_walk`, `Walk.unique` — a walk ends, and in one way.
* `Walk.sorted`, `Walk.complete` — **it returns keys in decreasing order, and every row
  that was there**.
-/

namespace Keyset

variable {α κ : Type} [LinearOrder κ] {key : α → κ}

/-! ### Pages -/

/-- The rows, from the greatest key downwards. -/
def newest (key : α → κ) (rows : List α) : List α := rows.insertionSort fun r r' => key r' ≤ key r

/-- The first `n` rows, and the key of the last of them where more follow. -/
def page (key : α → κ) (n : ℕ) (rows : List α) : List α × Option κ :=
  let found := (newest key rows).take (n + 1)
  (found.take n, if n < found.length then (found.take n).getLast?.map key else none)

theorem mem_newest {rows : List α} {r : α} : r ∈ newest key rows ↔ r ∈ rows :=
  List.mem_insertionSort _

theorem newest_sorted {rows : List α} (hnd : (rows.map key).Nodup) :
    (newest key rows).Pairwise fun r r' => key r' < key r := by
  have hsorted : (newest key rows).Pairwise fun r r' => key r' ≤ key r := by
    have : Std.Total fun r r' : α => key r' ≤ key r := ⟨fun r r' => le_total (key r') (key r)⟩
    have : IsTrans α fun r r' => key r' ≤ key r := ⟨fun _ _ _ h h' => h'.trans h⟩
    exact List.pairwise_insertionSort _ rows
  have hdistinct : (newest key rows).Pairwise fun r r' => key r ≠ key r' := by
    have hperm := (List.perm_insertionSort (fun r r' : α => key r' ≤ key r) rows).map key
    exact List.pairwise_map.mp (hperm.nodup_iff.mpr hnd)
  exact (hsorted.and hdistinct).imp fun h => lt_of_le_of_ne h.1 h.2.symm

theorem page_fst (n : ℕ) (rows : List α) : (page key n rows).1 = (newest key rows).take n := by
  simp [page, List.take_take]

theorem page_subset {n : ℕ} {rows : List α} {r : α} (h : r ∈ (page key n rows).1) : r ∈ rows := by
  rw [page_fst] at h
  exact mem_newest.mp (List.mem_of_mem_take h)

theorem page_sorted {n : ℕ} {rows : List α} (hnd : (rows.map key).Nodup) :
    (page key n rows).1.Pairwise fun r r' => key r' < key r := by
  rw [page_fst]
  exact (newest_sorted hnd).sublist (List.take_sublist n _)

theorem page_snd (n : ℕ) (rows : List α) : (page key n rows).2 =
    if n < (newest key rows).length then ((newest key rows).take n).getLast?.map key else none := by
  simp [page, List.take_take]

/-- A page without a key to go on from has all the rows. -/
theorem page_last {n : ℕ} {rows : List α} (hn : 1 ≤ n) (h : (page key n rows).2 = none) {r : α}
    (hr : r ∈ rows) : r ∈ (page key n rows).1 := by
  rw [page_snd] at h
  have hlen : (newest key rows).length ≤ n := by
    by_contra hlt
    rw [if_pos (not_le.mp hlt), Option.map_eq_none_iff, List.getLast?_eq_none_iff] at h
    have hzero := congrArg List.length h
    rw [List.length_take, List.length_nil] at hzero
    omega
  rw [page_fst, List.take_of_length_le hlen]
  exact mem_newest.mpr hr

/-- The key to go on from is that of a row of the page, and the rows the page leaves out
are those below it. -/
theorem page_next {n : ℕ} {rows : List α} (hnd : (rows.map key).Nodup) {c : κ}
    (h : (page key n rows).2 = some c) :
    (∃ r ∈ (page key n rows).1, key r = c) ∧ (∀ r ∈ (page key n rows).1, c ≤ key r) ∧
      ∀ r ∈ rows, r ∉ (page key n rows).1 → key r < c := by
  rw [page_snd] at h
  split at h
  · obtain ⟨last, hlast, rfl⟩ := Option.map_eq_some_iff.mp h
    rw [page_fst]
    obtain ⟨before, hbefore⟩ := List.getLast?_eq_some_iff.mp hlast
    have hmem : last ∈ (newest key rows).take n := List.mem_of_getLast? hlast
    have hsorted := newest_sorted hnd
    have hpage := hsorted.sublist (List.take_sublist n _)
    refine ⟨⟨last, hmem, rfl⟩, fun r hr => ?_, fun r hr hout => ?_⟩
    · rw [hbefore] at hr hpage
      rcases List.mem_append.mp hr with hr | hr
      · exact ((List.pairwise_append.mp hpage).2.2 r hr last (by simp)).le
      · rw [List.mem_singleton.mp hr]
    · have hall : r ∈ newest key rows := mem_newest.mpr hr
      rw [← List.take_append_drop n (newest key rows)] at hall hsorted
      have hdrop := (List.mem_append.mp hall).resolve_left hout
      exact (List.pairwise_append.mp hsorted).2.2 last hmem r hdrop
  · exact absurd h (by simp)

/-! ### Walks -/

/-- The rows below the bound, where there is one. -/
def under (key : α → κ) (bound : Option κ) (rows : List α) : List α :=
  rows.filter fun r => bound.all fun c => decide (key r < c)

theorem mem_under {bound : Option κ} {rows : List α} {r : α} :
    r ∈ under key bound rows ↔ r ∈ rows ∧ ∀ c, bound = some c → key r < c := by
  cases bound <;> simp [under]

/-- Following the keys from the request `i` on: the table is `rows i` when the request
`i` is served, and the request asks for `limit i` rows. -/
inductive Walk (key : α → κ) (rows : ℕ → List α) (limit : ℕ → ℕ) :
    ℕ → Option κ → List α → Prop
  | last {i : ℕ} {bound : Option κ}
      (h : (page key (limit i) (under key bound (rows i))).2 = none) :
      Walk key rows limit i bound (page key (limit i) (under key bound (rows i))).1
  | more {i : ℕ} {bound : Option κ} {c : κ} {rest : List α}
      (h : (page key (limit i) (under key bound (rows i))).2 = some c)
      (hrest : Walk key rows limit (i + 1) (some c) rest) :
      Walk key rows limit i bound ((page key (limit i) (under key bound (rows i))).1 ++ rest)

namespace Walk

variable {rows : ℕ → List α} {limit : ℕ → ℕ} {i : ℕ} {bound : Option κ} {walked : List α}

theorem nodup_under (hnd : ∀ i, ((rows i).map key).Nodup) (i : ℕ) (bound : Option κ) :
    ((under key bound (rows i)).map key).Nodup :=
  (hnd i).sublist (List.filter_sublist.map key)

/-- Every walk ends. -/
theorem exists_walk [WellFoundedLT κ] (hnd : ∀ i, ((rows i).map key).Nodup) (i : ℕ)
    (bound : Option κ) : ∃ walked, Walk key rows limit i bound walked := by
  -- the keys to go on from decrease
  have hbounded : ∀ c i, ∃ walked, Walk key rows limit i (some c) walked := by
    intro c
    induction c using WellFoundedLT.induction with
    | ind c ih =>
      intro i
      cases hnext : (page key (limit i) (under key (some c) (rows i))).2 with
      | none => exact ⟨_, .last hnext⟩
      | some c' =>
        obtain ⟨⟨r, hr, rfl⟩, -⟩ := page_next (nodup_under hnd i (some c)) hnext
        have hlt : key r < c := (mem_under.mp (page_subset hr)).2 c rfl
        obtain ⟨rest, hrest⟩ := ih (key r) hlt (i + 1)
        exact ⟨_, .more hnext hrest⟩
  cases hnext : (page key (limit i) (under key bound (rows i))).2 with
  | none => exact ⟨_, .last hnext⟩
  | some c =>
    obtain ⟨rest, hrest⟩ := hbounded c (i + 1)
    exact ⟨_, .more hnext hrest⟩

/-- There is one way to follow the keys. -/
theorem unique {walked' : List α} (h : Walk key rows limit i bound walked)
    (h' : Walk key rows limit i bound walked') : walked = walked' := by
  induction h generalizing walked' with
  | last h =>
    cases h' with
    | last => rfl
    | more h' => simp [h] at h'
  | more h hrest ih =>
    cases h' with
    | last h' => simp [h] at h'
    | more h' hrest' =>
      rw [h] at h'
      obtain rfl := Option.some.inj h'
      rw [ih hrest']

/-- What a walk returns was there when one of its requests was served, and below its
bound. -/
theorem sound (hnd : ∀ i, ((rows i).map key).Nodup) (h : Walk key rows limit i bound walked) {r : α}
    (hr : r ∈ walked) : (∃ j, i ≤ j ∧ r ∈ rows j) ∧ ∀ c, bound = some c → key r < c := by
  induction h with
  | @last i bound h =>
    obtain ⟨hmem, hlt⟩ := mem_under.mp (page_subset hr)
    exact ⟨⟨i, le_rfl, hmem⟩, hlt⟩
  | @more i bound c rest h hrest ih =>
    rcases List.mem_append.mp hr with hr | hr
    · obtain ⟨hmem, hlt⟩ := mem_under.mp (page_subset hr)
      exact ⟨⟨i, le_rfl, hmem⟩, hlt⟩
    · obtain ⟨⟨j, hj, hmem⟩, hlt⟩ := ih hr
      obtain ⟨⟨last, hlast, rfl⟩, -⟩ := page_next (nodup_under hnd i bound) h
      refine ⟨⟨j, by omega, hmem⟩, fun c hc => ?_⟩
      exact (hlt _ rfl).trans ((mem_under.mp (page_subset hlast)).2 c hc)

/-- **The keys a walk returns decrease.** -/
theorem sorted (hnd : ∀ i, ((rows i).map key).Nodup) (h : Walk key rows limit i bound walked) :
    walked.Pairwise fun r r' => key r' < key r := by
  induction h with
  | @last i bound h => exact page_sorted (nodup_under hnd i bound)
  | @more i bound c rest h hrest ih =>
    refine List.pairwise_append.mpr ⟨page_sorted (nodup_under hnd i bound), ih, ?_⟩
    intro r hr r' hr'
    exact ((hrest.sound hnd hr').2 c rfl).trans_le ((page_next (nodup_under hnd i bound) h).2.1 r hr)

/-- **A walk returns every row that was there**, as long as no row is taken away. -/
theorem complete (hnd : ∀ i, ((rows i).map key).Nodup) (hlimit : ∀ i, 1 ≤ limit i)
    (hgrow : ∀ i, rows i ⊆ rows (i + 1)) (h : Walk key rows limit i bound walked) {r : α}
    (hr : r ∈ rows i) (hbound : ∀ c, bound = some c → key r < c) : r ∈ walked := by
  induction h with
  | @last i bound h => exact page_last (hlimit i) h (mem_under.mpr ⟨hr, hbound⟩)
  | @more i bound c rest h hrest ih =>
    by_cases hpage : r ∈ (page key (limit i) (under key bound (rows i))).1
    · exact List.mem_append_left _ hpage
    · have hlt := (page_next (nodup_under hnd i bound) h).2.2 r (mem_under.mpr ⟨hr, hbound⟩) hpage
      refine List.mem_append_right _ (ih (hgrow i hr) fun c' hc' => ?_)
      obtain rfl := Option.some.inj hc'
      exact hlt

end Walk

end Keyset
