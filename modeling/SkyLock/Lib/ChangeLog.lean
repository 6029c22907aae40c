import Mathlib.Data.List.Basic
import Mathlib.Logic.Function.Basic

/-!
# Change logs

A change log of a table lists, oldest first, which entry each change was made to,
what it read there and what it left.  Replaying a log over the table it starts
from gives the table it ends in.  A log is faithful when every change read what
the changes before it left.

## Main definitions

* `Change` — one change.
* `replay` — the table after the changes of a log.
* `Faithful` — every change starts from what the ones before it left.

## Main results

* `replay_append`, `faithful_append` — a log and what is written after it.
* `replay_congr`, `faithful_congr` — only the entries a log changes matter.
-/

namespace ChangeLog

/-- One change of a table from `κ` to `ν`. -/
structure Change (κ ν : Type) where
  key : κ
  before : ν
  after : ν
  deriving DecidableEq

variable {κ ν : Type} [DecidableEq κ] {table table' : κ → ν} {c : Change κ ν}
  {log log' : List (Change κ ν)} {k : κ}

/-- The table after the changes of a log. -/
def replay (table : κ → ν) : List (Change κ ν) → κ → ν
  | [] => table
  | c :: log => replay (Function.update table c.key c.after) log

/-- Every change of the log read what the ones before it left. -/
def Faithful (table : κ → ν) : List (Change κ ν) → Prop
  | [] => True
  | c :: log => table c.key = c.before ∧ Faithful (Function.update table c.key c.after) log

instance [DecidableEq ν] : ∀ (table : κ → ν) (log : List (Change κ ν)),
    Decidable (Faithful table log)
  | _, [] => inferInstanceAs (Decidable True)
  | table, c :: log =>
    have := instDecidableFaithfulOfDecidableEq (Function.update table c.key c.after) log
    inferInstanceAs (Decidable (_ ∧ _))

@[simp] theorem replay_nil : replay table [] = table := rfl

theorem replay_cons :
    replay table (c :: log) = replay (Function.update table c.key c.after) log := rfl

@[simp] theorem faithful_nil : Faithful table [] := trivial

theorem faithful_cons : Faithful table (c :: log) ↔
    table c.key = c.before ∧ Faithful (Function.update table c.key c.after) log := Iff.rfl

theorem replay_append : replay table (log ++ log') = replay (replay table log) log' := by
  induction log generalizing table with
  | nil => rfl
  | cons c log ih =>
    rw [List.cons_append, replay_cons, replay_cons]
    exact ih

/-- A log is faithful when its first part is, and the rest is to what that leaves. -/
theorem faithful_append :
    Faithful table (log ++ log') ↔ Faithful table log ∧ Faithful (replay table log) log' := by
  induction log generalizing table with
  | nil => simp
  | cons c log ih =>
    rw [List.cons_append, faithful_cons, faithful_cons, replay_cons, ih, and_assoc]

/-- An entry no change is made to stays. -/
theorem replay_of_notMem (h : ∀ c ∈ log, c.key ≠ k) : replay table log k = table k := by
  induction log generalizing table with
  | nil => rfl
  | cons c log ih =>
    rw [replay_cons, ih fun d hd => h d (List.mem_cons_of_mem c hd)]
    exact Function.update_of_ne (h c List.mem_cons_self).symm _ _

/-- What a log leaves of an entry depends on nothing else. -/
theorem replay_congr (h : table k = table' k) : replay table log k = replay table' log k := by
  induction log generalizing table table' with
  | nil => exact h
  | cons c log ih =>
    rw [replay_cons, replay_cons]
    apply ih
    by_cases hk : k = c.key
    · rw [hk, Function.update_self, Function.update_self]
    · rw [Function.update_of_ne hk, Function.update_of_ne hk, h]

/-- Faithfulness depends on the entries the log changes. -/
theorem faithful_congr (h : ∀ c ∈ log, table c.key = table' c.key) :
    Faithful table log ↔ Faithful table' log := by
  induction log generalizing table table' with
  | nil => exact Iff.rfl
  | cons c log ih =>
    rw [faithful_cons, faithful_cons, h c List.mem_cons_self]
    refine and_congr_right fun _ => ih fun d hd => ?_
    by_cases hk : d.key = c.key
    · rw [hk, Function.update_self, Function.update_self]
    · rw [Function.update_of_ne hk, Function.update_of_ne hk, h d (List.mem_cons_of_mem c hd)]

end ChangeLog
