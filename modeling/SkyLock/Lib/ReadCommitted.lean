import Mathlib.Data.List.Basic
import Mathlib.Data.Nat.Notation

/-!
# Open transactions over a committed state

Under READ COMMITTED a statement sees what is committed and what its own
transaction has written; what other open transactions have written shows in
nothing but the locks they hold.  A store keeps the committed state apart from
the writes of the open transactions, each under the number of its transaction.

## Main definitions

* `Store` — a committed state and the writes of open transactions, newest first.
* `Store.own` — the writes of one transaction.
* `Store.write`, `Store.rollback`, `Store.commit` — what a transaction does.

## Main results

* `Store.own_write_of_ne`, `Store.own_rollback_of_ne`, `Store.own_commit_of_ne` — a
  transaction leaves the writes of the others alone.
-/

namespace ReadCommitted

/-- A committed state of type `σ`, and writes of type `ω` that are not committed. -/
structure Store (σ ω : Type) where
  committed : σ
  pending : List (ℕ × ω)

namespace Store

variable {σ ω : Type}

/-- The writes of transaction `p`. -/
def own (t : Store σ ω) (p : ℕ) : List ω := (t.pending.filter fun e => e.1 = p).map Prod.snd

/-- One more write of transaction `p`. -/
def write (t : Store σ ω) (p : ℕ) (x : ω) : Store σ ω := { t with pending := (p, x) :: t.pending }

/-- Transaction `p` rolls back. -/
def rollback (t : Store σ ω) (p : ℕ) : Store σ ω :=
  { t with pending := t.pending.filter fun e => e.1 ≠ p }

/-- Transaction `p` commits: its writes are applied, oldest first. -/
def commit (t : Store σ ω) (apply : ω → σ → σ) (p : ℕ) : Store σ ω where
  committed := (t.own p).foldr apply t.committed
  pending := t.pending.filter fun e => e.1 ≠ p

variable {t : Store σ ω} {p q : ℕ} {x : ω}

@[simp] theorem committed_write : (t.write p x).committed = t.committed := rfl

@[simp] theorem committed_rollback : (t.rollback p).committed = t.committed := rfl

theorem mem_own : x ∈ t.own p ↔ (p, x) ∈ t.pending := by
  simp only [own, List.mem_map, List.mem_filter, decide_eq_true_eq]
  constructor
  · rintro ⟨⟨q, y⟩, ⟨hmem, rfl⟩, rfl⟩
    exact hmem
  · intro hmem
    exact ⟨(p, x), ⟨hmem, rfl⟩, rfl⟩

@[simp] theorem own_write_self : (t.write p x).own p = x :: t.own p := by simp [own, write]

theorem own_write_of_ne (h : q ≠ p) : (t.write p x).own q = t.own q := by
  simp [own, write, h.symm]

@[simp] theorem own_rollback_self : (t.rollback p).own p = [] := by simp [own, rollback]

theorem own_rollback_of_ne (h : q ≠ p) : (t.rollback p).own q = t.own q := by
  unfold own rollback
  rw [List.filter_filter]
  congr 1
  refine List.filter_congr fun e _ => ?_
  by_cases he : e.1 = q
  · simp [he, h]
  · simp [he]

variable {apply : ω → σ → σ}

@[simp] theorem own_commit_self : (t.commit apply p).own p = [] := own_rollback_self (t := t)

theorem own_commit_of_ne (h : q ≠ p) : (t.commit apply p).own q = t.own q :=
  own_rollback_of_ne (t := t) h

end Store

end ReadCommitted
