import Mathlib.Data.Finset.Max
import Mathlib.Data.List.Sort
import Mathlib.Logic.Relation
import Mathlib.Order.WithBot
import SkyLock.Lib.Progress

/-!
# Row locks and deadlock

Transactions that lock the rows of a table one after the other, and wait for one
another.  A transaction is a list of requests; each request visits a set of rows,
either in ascending order or in an order that the database chooses.  If every
transaction visits rows in ascending order only, no two can wait for each other, not
even through others.

## Main definitions

* `Table` — who owns which row, and who wants which.
* `Table.WaitsFor`, `Table.Deadlocked` — the wait-for graph, and a cycle in it.
* `Request`, `Locker`, `lockers` — transactions taking their locks step by step.
* `Ascending` — requests without an order happen to visit their rows in ascending order.
* `GoesOn` — the open transactions take the rest of their locks and end.

## Main results

* `Table.Ordered.not_deadlocked` — **ordered acquisition admits no cycle**.
* `not_deadlocked_of_run` — the same for a run of transactions.
* `exists_run_to_idle` — **all open transactions can be run to their ends**.
-/

namespace LockOrder

open Concurrent

/-! ### The wait-for graph -/

/-- Who owns which row, and which row each process is about to lock. -/
structure Table (κ : Type) where
  owner : κ → Option ℕ
  wants : ℕ → Option κ

namespace Table

variable {κ : Type}

/-- Process `p` waits for a row of process `q`. -/
def WaitsFor (t : Table κ) (p q : ℕ) : Prop :=
  p ≠ q ∧ ∃ k, t.wants p = some k ∧ t.owner k = some q

/-- The wait-for graph has a cycle. -/
def Deadlocked (t : Table κ) : Prop := ∃ p, Relation.TransGen t.WaitsFor p p

/-- Who wants a row of another owns none above it. -/
def Ordered [LT κ] (t : Table κ) : Prop :=
  ∀ p k, t.wants p = some k → t.owner k ≠ some p → ∀ j, t.owner j = some p → j < k

/-- Along a path of the graph the rows get no smaller. -/
theorem Ordered.le_of_path [Preorder κ] {t : Table κ} (h : t.Ordered) {p q : ℕ}
    (hpath : Relation.TransGen t.WaitsFor p q) :
    ∃ k j, t.wants p = some k ∧ t.owner k ≠ some p ∧ t.owner j = some q ∧ k ≤ j := by
  induction hpath with
  | single hedge =>
    obtain ⟨hne, k, hk, howner⟩ := hedge
    exact ⟨k, k, hk, by simp [howner, hne.symm], howner, le_refl k⟩
  | tail _ hedge ih =>
    obtain ⟨k, j, hk, hother, hj, hle⟩ := ih
    obtain ⟨hne, k', hk', howner⟩ := hedge
    have hlt := h _ k' hk' (by simp [howner, hne.symm]) j hj
    exact ⟨k, k', hk, hother, howner, hle.trans hlt.le⟩

/-- **Ordered acquisition admits no cycle.** -/
theorem Ordered.not_deadlocked [Preorder κ] {t : Table κ} (h : t.Ordered) : ¬ t.Deadlocked := by
  rintro ⟨p, hcycle⟩
  obtain ⟨k, j, hk, hother, hj, hle⟩ := h.le_of_path hcycle
  exact (h p k hk hother j hj).not_ge hle

end Table

/-! ### Transactions -/

/-- What one statement asks to lock. -/
inductive Request (κ : Type) where
  /-- Rows it visits in ascending order. -/
  | inOrder (rows : List κ)
  /-- Rows it visits in an order the database chooses. -/
  | anyOrder (rows : List κ)
  deriving DecidableEq, Repr

/-- The rows a request visits. -/
def Request.rows {κ : Type} : Request κ → List κ
  | .inOrder rows | .anyOrder rows => rows

/-- A process: no transaction, or the rows its statement has yet to visit and the
requests that follow. -/
inductive Locker (κ : Type) where
  | idle
  | busy (visits : List κ) (requests : List (Request κ))

/-- What moves a process: a transaction starts; its next statement visits rows in an
order; it locks the next row; it ends. -/
inductive LockInput (τ κ : Type) where
  | start (transaction : τ)
  | visit (order : List κ)
  | lock
  | finish

section

variable {τ κ : Type} [LinearOrder κ] (program : τ → List (Request κ))

/-- One step of a process. -/
def stepLocker (owner : κ → Option ℕ) (p : ℕ) :
    Locker κ → LockInput τ κ → Option ((κ → Option ℕ) × Locker κ)
  | .idle, .start t => some (owner, .busy [] (program t))
  | .busy [] (r :: rs), .visit order =>
    match r with
    | .inOrder rows =>
      if order.Perm rows ∧ order.Pairwise (· ≤ ·) then some (owner, .busy order rs) else none
    | .anyOrder rows => if order.Perm rows then some (owner, .busy order rs) else none
  | .busy (k :: ks) rs, .lock =>
    if owner k = none ∨ owner k = some p then
      some (Function.update owner k (some p), .busy ks rs)
    else none
  | .busy _ _, .finish => some (fun k => if owner k = some p then none else owner k, .idle)
  | _, _ => none

/-- The transactions over one table. -/
def lockers : System (κ → Option ℕ) (Locker κ) (LockInput τ κ) := ⟨stepLocker program⟩

/-- The row a process is about to lock. -/
def Locker.wants? {κ : Type} : Locker κ → Option κ
  | .busy (k :: _) _ => some k
  | _ => none

/-- The lock table of a world. -/
def tableOf {κ : Type} (w : World (κ → Option ℕ) (Locker κ)) : Table κ :=
  ⟨w.shared, fun p => (w.proc p).wants?⟩

/-- No process has started. -/
def noLocks (κ : Type) : World (κ → Option ℕ) (Locker κ) := ⟨fun _ => none, fun _ => .idle⟩

/-- A statement without an order visits its rows in ascending order, or has locked them
all before. -/
def Ascending (w : World (κ → Option ℕ) (Locker κ)) (p : ℕ) (a : LockInput τ κ) : Prop :=
  match w.proc p, a with
  | .busy [] (.anyOrder _ :: _), .visit order =>
    order.Pairwise (· ≤ ·) ∨ ∀ k ∈ order, w.shared k = some p
  | _, _ => True

instance (w : World (κ → Option ℕ) (Locker κ)) (p : ℕ) (a : LockInput τ κ) :
    Decidable (Ascending w p a) := by
  unfold Ascending
  split <;> infer_instance

/-- The first request of a transaction covers the others. -/
def Covered {κ : Type} : List (Request κ) → Prop
  | [] => True
  | r :: rs => ∀ r' ∈ rs, r'.rows ⊆ r.rows

/-- Where a process is with its rows: it owns those it has yet to visit, or they come in
ascending order above those it owns. -/
def Climbs (owner : κ → Option ℕ) (p : ℕ) : Locker κ → Prop
  | .idle => ∀ k, owner k ≠ some p
  | .busy visits rs =>
    ((∀ k ∈ visits, owner k = some p) ∨
      visits.Pairwise (· ≤ ·) ∧ ∀ k ∈ visits, ∀ j, owner j = some p → j ≤ k) ∧
    ((visits = [] ∧ (∀ k, owner k ≠ some p) ∧ Covered rs) ∨
      ∀ r ∈ rs, ∀ k ∈ r.rows, k ∈ visits ∨ owner k = some p)

theorem Climbs.congr {owner owner' : κ → Option ℕ} {p : ℕ} {L : Locker κ}
    (h : Climbs owner p L) (heq : ∀ k, owner' k = some p ↔ owner k = some p) :
    Climbs owner' p L := by
  cases L with
  | idle => exact fun k hk => h k ((heq k).mp hk)
  | busy visits rs =>
    simpa only [Climbs, ne_eq, heq] using h

variable {program}

/-- A step leaves the locks of the other processes alone. -/
theorem stepLocker_owner {owner owner' : κ → Option ℕ} {p q : ℕ} {L L' : Locker κ}
    {a : LockInput τ κ} (h : stepLocker program owner p L a = some (owner', L')) (hq : q ≠ p)
    (k : κ) : owner' k = some q ↔ owner k = some q := by
  unfold stepLocker at h
  split at h
  · simp only [Option.some.injEq, Prod.mk.injEq] at h
    rw [← h.1]
  · split at h
    · split at h
      · simp only [Option.some.injEq, Prod.mk.injEq] at h
        rw [← h.1]
      · simp at h
    · split at h
      · simp only [Option.some.injEq, Prod.mk.injEq] at h
        rw [← h.1]
      · simp at h
  · next k' ks rs =>
    split at h
    · next hfree =>
      simp only [Option.some.injEq, Prod.mk.injEq] at h
      rw [← h.1]
      rcases eq_or_ne k k' with rfl | hne
      · rcases hfree with hnone | hmine
        · simp [hnone, hq.symm]
        · simp [hmine, hq.symm]
      · simp [Function.update_of_ne hne]
    · simp at h
  · simp only [Option.some.injEq, Prod.mk.injEq] at h
    rw [← h.1]
    by_cases hmine : owner k = some p
    · simp [hmine, hq.symm]
    · simp [hmine]
  · simp at h

/-- What one step keeps of the process that takes it. -/
theorem Climbs.next (hcovered : ∀ t, Covered (program t)) {w : World (κ → Option ℕ) (Locker κ)}
    {p : ℕ} {a : LockInput τ κ} {owner' : κ → Option ℕ} {L' : Locker κ}
    (h : Climbs w.shared p (w.proc p)) (hC : Ascending w p a)
    (hs : stepLocker program w.shared p (w.proc p) a = some (owner', L')) :
    Climbs owner' p L' := by
  unfold Ascending at hC
  generalize w.proc p = L at h hs hC
  generalize w.shared = owner at h hs hC
  unfold stepLocker at hs
  split at hs
  · next t =>
    simp only [Option.some.injEq, Prod.mk.injEq] at hs
    obtain ⟨rfl, rfl⟩ := hs
    exact ⟨.inl (by simp), .inl ⟨rfl, h, hcovered t⟩⟩
  · next r rs order =>
    obtain ⟨-, hrest⟩ := h
    -- whatever the order, the rows are those of the request
    have hvisit : ∀ rows, r.rows = rows → order.Perm rows →
        (order.Pairwise (· ≤ ·) ∨ ∀ k ∈ order, owner k = some p) →
          Climbs owner p (.busy order rs) := by
      rintro rows rfl hperm hord
      rcases hrest with ⟨-, hnone, hcov⟩ | hlater
      · refine ⟨?_, .inr fun r' hr' k hk => .inl (hperm.mem_iff.mpr (hcov r' hr' hk))⟩
        rcases hord with hsorted | howned
        · exact .inr ⟨hsorted, fun k _ j hj => absurd hj (hnone j)⟩
        · exact .inl howned
      · refine ⟨.inl fun k hk => ?_, .inr fun r' hr' k hk => .inr ?_⟩
        · rcases hlater r (by simp) k (hperm.mem_iff.mp hk) with hnil | howned
          · simp at hnil
          · exact howned
        · rcases hlater r' (by simp [hr']) k hk with hnil | howned
          · simp at hnil
          · exact howned
    split at hs
    · split at hs
      · next hcond =>
        simp only [Option.some.injEq, Prod.mk.injEq] at hs
        obtain ⟨rfl, rfl⟩ := hs
        exact hvisit _ rfl hcond.1 (.inl hcond.2)
      · simp at hs
    · split at hs
      · next hperm =>
        simp only [Option.some.injEq, Prod.mk.injEq] at hs
        obtain ⟨rfl, rfl⟩ := hs
        exact hvisit _ rfl hperm hC
      · simp at hs
  · next k ks rs =>
    split at hs
    · simp only [Option.some.injEq, Prod.mk.injEq] at hs
      obtain ⟨rfl, rfl⟩ := hs
      obtain ⟨hvisits, hrest⟩ := h
      have hgain : ∀ j, owner j = some p → Function.update owner k (some p) j = some p := by
        intro j hj
        rcases eq_or_ne j k with rfl | hne
        · simp
        · simpa [Function.update_of_ne hne] using hj
      constructor
      · rcases hvisits with howned | ⟨hsorted, habove⟩
        · exact .inl fun j hj => hgain j (howned j (List.mem_cons_of_mem _ hj))
        · rw [List.pairwise_cons] at hsorted
          refine .inr ⟨hsorted.2, fun k' hk' j hj => ?_⟩
          rcases eq_or_ne j k with rfl | hne
          · exact hsorted.1 k' hk'
          · rw [Function.update_of_ne hne] at hj
            exact habove k' (List.mem_cons_of_mem _ hk') j hj
      · rcases hrest with ⟨hnil, -⟩ | hlater
        · simp at hnil
        · refine .inr fun r hr k' hk' => ?_
          rcases hlater r hr k' hk' with hmem | howned
          · rcases List.mem_cons.mp hmem with rfl | hmem
            · exact .inr (by simp)
            · exact .inl hmem
          · exact .inr (hgain k' howned)
    · simp at hs
  · simp only [Option.some.injEq, Prod.mk.injEq] at hs
    obtain ⟨rfl, rfl⟩ := hs
    intro k hk
    dsimp only at hk
    split at hk
    · simp at hk
    · next hne => exact hne hk
  · simp at hs

/-- Every process goes on climbing. -/
theorem climbs_next (hcovered : ∀ t, Covered (program t))
    {w w' : World (κ → Option ℕ) (Locker κ)} {p : ℕ} {a : LockInput τ κ}
    (h : ∀ p, Climbs w.shared p (w.proc p)) (hC : Ascending w p a)
    (hn : (lockers program).next w p a = some w') : ∀ q, Climbs w'.shared q (w'.proc q) := by
  obtain ⟨owner', L', hs, rfl⟩ := System.next_eq_some.mp hn
  intro q
  rcases eq_or_ne q p with rfl | hne
  · simpa using (h q).next hcovered hC hs
  · simpa [hne] using (h q).congr fun k => stepLocker_owner hs hne k

/-- Every process climbs in every run. -/
theorem climbs_of_run (hcovered : ∀ t, Covered (program t)) {w : World (κ → Option ℕ) (Locker κ)}
    {as : List (ℕ × LockInput τ κ)} (h : (lockers program).Run Ascending (noLocks κ) as w) :
    ∀ p, Climbs w.shared p (w.proc p) := by
  refine h.induct (I := fun w => ∀ p, Climbs w.shared p (w.proc p)) ?_ ?_
  · intro p k
    simp [noLocks]
  · intro w₁ p a w₂ hw hC hn
    exact climbs_next hcovered hw hC hn

/-- Who climbs wants a row above those it owns. -/
theorem ordered_of_climbs {w : World (κ → Option ℕ) (Locker κ)}
    (h : ∀ p, Climbs w.shared p (w.proc p)) : (tableOf w).Ordered := by
  intro p k hk hother j hj
  have hp := h p
  simp only [tableOf] at hk hother hj
  generalize w.proc p = L at hk hp
  unfold Locker.wants? at hk
  split at hk
  · next k' ks rs =>
    obtain rfl := Option.some.inj hk
    rcases hp.1 with howned | ⟨-, habove⟩
    · exact absurd (howned k' (by simp)) hother
    · refine lt_of_le_of_ne (habove k' (by simp) j hj) ?_
      rintro rfl
      exact hother hj
  · simp at hk

/-- **Transactions that visit rows in ascending order do not deadlock.** -/
theorem not_deadlocked_of_run (hcovered : ∀ t, Covered (program t))
    {w : World (κ → Option ℕ) (Locker κ)} {as : List (ℕ × LockInput τ κ)}
    (h : (lockers program).Run Ascending (noLocks κ) as w) : ¬ (tableOf w).Deadlocked :=
  (ordered_of_climbs (climbs_of_run hcovered h)).not_deadlocked

/-! ### Transactions end -/

/-- The steps a process has left at most: each request is visited and its rows are locked,
and the transaction ends. -/
def Locker.left {κ : Type} : Locker κ → ℕ
  | .idle => 0
  | .busy visits requests => visits.length + (requests.map fun r => 1 + r.rows.length).sum + 1

/-- The open transactions go on in ascending order: none starts, and none ends before it has
its last lock. -/
def GoesOn (w : World (κ → Option ℕ) (Locker κ)) (p : ℕ) (a : LockInput τ κ) : Prop :=
  Ascending w p a ∧
    match a with
    | .start _ => False
    | .finish => w.proc p = .busy [] []
    | _ => True

/-- Every step of a transaction that goes on is one less to take. -/
theorem GoesOn.left_lt {w : World (κ → Option ℕ) (Locker κ)} {p : ℕ} {a : LockInput τ κ}
    {owner' : κ → Option ℕ} {L' : Locker κ} (h : GoesOn w p a)
    (hs : stepLocker program w.shared p (w.proc p) a = some (owner', L')) :
    L'.left < (w.proc p).left := by
  obtain ⟨-, hgoes⟩ := h
  generalize w.proc p = L at hs hgoes
  generalize w.shared = owner at hs
  unfold stepLocker at hs
  split at hs
  · exact hgoes.elim
  · next r rs order =>
    -- the rows of the request are yet to be locked
    have hvisit : order.Perm r.rows →
        (Locker.busy order rs).left < (Locker.busy [] (r :: rs)).left := by
      intro hperm
      simp only [Locker.left, hperm.length_eq, List.map_cons, List.sum_cons, List.length_nil]
      omega
    split at hs
    · split at hs
      · next hcond =>
        simp only [Option.some.injEq, Prod.mk.injEq] at hs
        rw [← hs.2]
        exact hvisit hcond.1
      · simp at hs
    · split at hs
      · next hperm =>
        simp only [Option.some.injEq, Prod.mk.injEq] at hs
        rw [← hs.2]
        exact hvisit hperm
      · simp at hs
  · split at hs
    · simp only [Option.some.injEq, Prod.mk.injEq] at hs
      rw [← hs.2]
      simp only [Locker.left, List.length_cons]
      omega
    · simp at hs
  · simp only [Option.some.injEq, Prod.mk.injEq] at hs
    rw [← hs.2]
    simp [Locker.left]
  · simp at hs

variable (program) in
/-- Who waits for nobody goes on. -/
theorem exists_goesOn {w : World (κ → Option ℕ) (Locker κ)} {p : ℕ} (hbusy : w.proc p ≠ .idle)
    (hfree : ∀ q, ¬ (tableOf w).WaitsFor p q) :
    ∃ a : LockInput τ κ, GoesOn w p a ∧ ((lockers program).next w p a).isSome := by
  have hnext : ∀ a : LockInput τ κ, (stepLocker program w.shared p (w.proc p) a).isSome →
      ((lockers program).next w p a).isSome := by
    intro a h
    simpa [System.next, lockers] using h
  generalize hL : w.proc p = L at hbusy hnext
  match L with
  | .idle => exact absurd rfl hbusy
  | .busy [] [] => exact ⟨.finish, ⟨by simp [Ascending, hL], hL⟩, hnext _ rfl⟩
  | .busy [] (r :: rs) =>
    obtain ⟨order, hperm, hsorted⟩ : ∃ order : List κ, order.Perm r.rows ∧ order.Pairwise (· ≤ ·) :=
      ⟨_, List.mergeSort_perm r.rows fun i j => decide (i ≤ j),
        by simpa using List.pairwise_mergeSort' (· ≤ ·) r.rows⟩
    refine ⟨.visit order, ⟨?_, trivial⟩, hnext _ ?_⟩
    · unfold Ascending
      rw [hL]
      cases r with
      | inOrder rows => trivial
      | anyOrder rows => exact .inl hsorted
    · cases r with
      | inOrder rows =>
        simp only [Request.rows] at hperm
        simp [stepLocker, hperm, hsorted]
      | anyOrder rows =>
        simp only [Request.rows] at hperm
        simp [stepLocker, hperm]
  | .busy (k :: ks) rs =>
    refine ⟨.lock, ⟨by simp [Ascending, hL], trivial⟩, hnext _ ?_⟩
    have hk : w.shared k = none ∨ w.shared k = some p := by
      by_contra hother
      obtain ⟨hsome, hne⟩ := not_or.mp hother
      obtain ⟨q, hq⟩ := Option.ne_none_iff_exists'.mp hsome
      refine hfree q ⟨?_, k, by simp [tableOf, hL, Locker.wants?], hq⟩
      rintro rfl
      exact hne hq
    simp [stepLocker, hk]

/-- Of open transactions that climb, one waits for nobody. -/
theorem exists_waitsForNobody {w : World (κ → Option ℕ) (Locker κ)} {n p : ℕ}
    (h : ∀ p, Climbs w.shared p (w.proc p)) (hidle : ∀ p, n ≤ p → w.proc p = .idle)
    (hp : w.proc p ≠ .idle) :
    ∃ q, w.proc q ≠ .idle ∧ ∀ q', ¬ (tableOf w).WaitsFor q q' := by
  classical
  by_contra hall
  have hwaits : ∀ q, w.proc q ≠ .idle → ∃ q', (tableOf w).WaitsFor q q' := by
    intro q hq
    by_contra hno
    exact hall ⟨q, hq, not_exists.mp hno⟩
  have hlt : ∀ q, w.proc q ≠ .idle → q < n := fun q hq =>
    lt_of_not_ge fun hge => hq (hidle q hge)
  -- whoever wants the highest row waits for one that wants a higher one
  let wanted (q : ℕ) : WithBot κ := (w.proc q).wants?
  obtain ⟨q, hq, hmax⟩ := Finset.exists_max_image
    ((Finset.range n).filter fun q => w.proc q ≠ .idle) wanted ⟨p, by simp [hlt p hp, hp]⟩
  obtain ⟨q', hne, k, hk, howner⟩ := hwaits q (Finset.mem_filter.mp hq).2
  have hq' : w.proc q' ≠ .idle := by
    intro hnot
    have hclimbs := h q'
    rw [hnot] at hclimbs
    exact hclimbs k howner
  obtain ⟨q'', hne', k', hk', howner'⟩ := hwaits q' hq'
  have hlow : k < k' := by
    refine ordered_of_climbs h q' k' hk' ?_ k howner
    rw [howner']
    simpa using hne'.symm
  have hle := hmax q' (Finset.mem_filter.mpr ⟨Finset.mem_range.mpr (hlt q' hq'), hq'⟩)
  simp only [tableOf] at hk hk'
  simp only [wanted, hk, hk'] at hle
  exact absurd (WithBot.coe_le_coe.mp hle) (not_le_of_gt hlow)

/-- **Transactions that visit rows in ascending order can all be run to their ends.** -/
theorem exists_run_to_idle (hcovered : ∀ t, Covered (program t))
    {w : World (κ → Option ℕ) (Locker κ)} {as : List (ℕ × LockInput τ κ)}
    (h : (lockers program).Run Ascending (noLocks κ) as w) :
    ∃ bs w', (lockers program).Run GoesOn w bs w' ∧ ∀ p, w'.proc p = .idle := by
  obtain ⟨n, hn⟩ := (as.map Prod.fst).toFinset.exists_nat_subset_range
  have hidle : ∀ p, n ≤ p → w.proc p = .idle := fun p hp =>
    h.proc_eq fun b hb => ((Finset.mem_range.mp
      (hn (List.mem_toFinset.mpr (List.mem_map_of_mem hb)))).trans_le hp).ne
  have hleft : ∀ L : Locker κ, L.left = 0 ↔ L = .idle := by
    intro L
    cases L <;> simp [Locker.left]
  let I (w : World (κ → Option ℕ) (Locker κ)) : Prop :=
    (∀ p, Climbs w.shared p (w.proc p)) ∧ ∀ p, n ≤ p → w.proc p = .idle
  have hkeep : ∀ w p (a : LockInput τ κ) w', I w → GoesOn w p a →
      (lockers program).next w p a = some w' → I w' := by
    rintro w₁ p a w₂ ⟨hclimbs, hidle₁⟩ hgoes hnext
    refine ⟨climbs_next hcovered hclimbs hgoes.1 hnext, fun q hq => ?_⟩
    obtain ⟨s', L', hs, rfl⟩ := System.next_eq_some.mp hnext
    have hlt := hgoes.left_lt hs
    have hne : q ≠ p := by
      rintro rfl
      rw [hidle₁ q hq] at hlt
      simp [Locker.left] at hlt
    simpa only [Function.update_of_ne hne] using hidle₁ q hq
  have hmove : ∀ w p, I w → (w.proc p).left ≠ 0 →
      ∃ q, ∃ a : LockInput τ κ, GoesOn w q a ∧ ((lockers program).next w q a).isSome := by
    rintro w₁ p ⟨hclimbs, hidle₁⟩ hp
    obtain ⟨q, hq, hfree⟩ := exists_waitsForNobody hclimbs hidle₁ fun hnot =>
      hp ((hleft _).mpr hnot)
    exact ⟨q, exists_goesOn program hq hfree⟩
  obtain ⟨bs, w', hrun, -, hend⟩ := System.exists_run_to_rest Locker.left hkeep
    (fun w p a s' L' hgoes hs => hgoes.left_lt hs) hmove
    ⟨climbs_of_run hcovered h, hidle⟩ (fun p hp => (hleft _).mpr (hidle p hp))
  exact ⟨bs, w', hrun, fun p => (hleft _).mp (hend p)⟩

end

end LockOrder
