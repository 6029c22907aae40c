import Mathlib.Algebra.BigOperators.Group.Finset.Piecewise
import Mathlib.Algebra.GroupWithZero.Nat
import Mathlib.Algebra.Order.BigOperators.Group.Finset
import SkyLock.Lib.Concurrent

/-!
# Systems that come to rest

Each process has a budget, a function of its local state, and its steps spend some of it.
Where in addition someone can move until every budget is spent, the system can be brought to
rest from wherever it is.

## Main definitions

* `System.total` — the budgets of the processes below a bound.

## Main results

* `System.Run.spent_le` — **a process takes no more steps than its budget pays for**.
* `System.exists_run_to_rest` — **who is not at rest can be brought to rest**.
-/

namespace Concurrent

namespace System

variable {S P A : Type} {sys : System S P A} {C : World S P → ℕ → A → Prop} {left : P → ℕ}
  {n : ℕ} {w w' : World S P}

/-- The budgets of the processes below `n`. -/
def total (left : P → ℕ) (n : ℕ) (w : World S P) : ℕ := ∑ p ∈ Finset.range n, left (w.proc p)

/-- A step changes the budget of its own process. -/
theorem total_update (left : P → ℕ) {p : ℕ} (hp : p < n) (s' : S) (P' : P) :
    total left n ⟨s', Function.update w.proc p P'⟩ + left (w.proc p) =
      total left n w + left P' := by
  have hmem : p ∈ Finset.range n := Finset.mem_range.mpr hp
  have hothers : ∑ q ∈ (Finset.range n).erase p, left (Function.update w.proc p P' q) =
      ∑ q ∈ (Finset.range n).erase p, left (w.proc q) := by
    refine Finset.sum_congr rfl fun q hq => ?_
    rw [Function.update_of_ne (Finset.ne_of_mem_erase hq)]
  have hnew := Finset.add_sum_erase (Finset.range n)
    (fun q => left (Function.update w.proc p P' q)) hmem
  have hold := Finset.add_sum_erase (Finset.range n) (fun q => left (w.proc q)) hmem
  simp only [Function.update_self] at hnew
  simp only [total]
  omega

theorem le_total (left : P → ℕ) {p : ℕ} (hp : p < n) : left (w.proc p) ≤ total left n w :=
  Finset.single_le_sum (f := fun q => left (w.proc q)) (fun _ _ => Nat.zero_le _)
    (Finset.mem_range.mpr hp)

/-- Who takes no step stays where it is. -/
theorem Run.proc_eq {as : List (ℕ × A)} (h : sys.Run C w as w') {p : ℕ}
    (hp : ∀ b ∈ as, b.1 ≠ p) : w'.proc p = w.proc p := by
  induction h with
  | nil => rfl
  | @snoc as w₁ w₂ q a hrun hC hnext ih =>
    obtain ⟨s', P', -, rfl⟩ := next_eq_some.mp hnext
    have hne : p ≠ q := (hp (q, a) (by simp)).symm
    simpa only [Function.update_of_ne hne] using ih fun b hb => hp b (List.mem_append_left _ hb)

/-- **What the steps of a process cost comes out of its budget**: with what is left at the
end of a run, they are no more than it had at the start. -/
theorem Run.spent_le (left : P → ℕ) (cost : A → Bool) {as : List (ℕ × A)}
    (h : sys.Run C w as w')
    (hpay : ∀ s p Q a s' Q', sys.step s p Q a = some (s', Q') →
      (cost a).toNat + left Q' ≤ left Q) (p : ℕ) :
    (as.countP fun b => b.1 = p ∧ cost b.2) + left (w'.proc p) ≤ left (w.proc p) := by
  induction h with
  | nil => simp
  | @snoc as w₁ w₂ q a hrun hC hnext ih =>
    obtain ⟨s', Q', hs, rfl⟩ := next_eq_some.mp hnext
    have hstep := hpay _ _ _ _ _ _ hs
    rw [List.countP_append, List.countP_singleton]
    rcases eq_or_ne q p with rfl | hne
    · have hcost : (if decide (q = q ∧ cost a = true) = true then 1 else 0) = (cost a).toNat := by
        cases cost a <;> simp
      have hmoved : left (Function.update w₁.proc q Q' q) = left Q' := by
        rw [Function.update_self]
      rw [hcost, hmoved]
      omega
    · simpa [Function.update_of_ne hne.symm, hne] using ih

/-- **Who is not at rest can be brought to rest**, where every step of `D` spends some of a
budget and someone can take one until every budget is spent. -/
theorem exists_run_to_rest (left : P → ℕ) {D : World S P → ℕ → A → Prop}
    {I : World S P → Prop}
    (hkeep : ∀ w p a w', I w → D w p a → sys.next w p a = some w' → I w')
    (hspend : ∀ w p a s' Q', D w p a → sys.step w.shared p (w.proc p) a = some (s', Q') →
      left Q' < left (w.proc p))
    (hmove : ∀ w p, I w → left (w.proc p) ≠ 0 → ∃ q a, D w q a ∧ (sys.next w q a).isSome)
    (hw : I w) (hrest : ∀ p, n ≤ p → left (w.proc p) = 0) :
    ∃ as w', sys.Run D w as w' ∧ I w' ∧ ∀ p, left (w'.proc p) = 0 := by
  suffices aux : ∀ m (w : World S P), total left n w ≤ m → I w →
      (∀ p, n ≤ p → left (w.proc p) = 0) →
        ∃ as w', sys.Run D w as w' ∧ I w' ∧ ∀ p, left (w'.proc p) = 0 from
    aux _ w le_rfl hw hrest
  -- the induction is on what all of them have left together
  intro m
  induction m with
  | zero =>
    intro w hm hw hrest
    refine ⟨[], w, .nil, hw, fun p => ?_⟩
    rcases Nat.lt_or_ge p n with hp | hp
    · have hle := le_total (w := w) left hp
      omega
    · exact hrest p hp
  | succ m ih =>
    intro w hm hw hrest
    by_cases hall : ∀ p, left (w.proc p) = 0
    · exact ⟨[], w, .nil, hw, hall⟩
    obtain ⟨p, hp⟩ := not_forall.mp hall
    obtain ⟨q, a, hD, hsome⟩ := hmove w p hw hp
    obtain ⟨w₁, hnext⟩ := Option.isSome_iff_exists.mp hsome
    have hw₁ := hkeep w q a w₁ hw hD hnext
    obtain ⟨s', Q', hs, rfl⟩ := next_eq_some.mp hnext
    have hlt := hspend w q a s' Q' hD hs
    have hq : q < n := by
      by_contra hge
      have hzero := hrest q (Nat.le_of_not_lt hge)
      omega
    have hmoved := total_update (w := w) left hq s' Q'
    obtain ⟨as, w', hrun, hend⟩ := ih ⟨s', Function.update w.proc q Q'⟩ (by omega) hw₁ (by
      intro p hp
      have hne : p ≠ q := by omega
      simpa only [Function.update_of_ne hne] using hrest p hp)
    exact ⟨(q, a) :: as, w', Run.cons hD hnext hrun, hend⟩

end System

end Concurrent
