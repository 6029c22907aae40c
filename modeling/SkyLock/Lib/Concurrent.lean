import Mathlib.Data.List.Induction
import Mathlib.Data.Nat.Notation
import Mathlib.Logic.Function.Basic

/-!
# Processes over a shared state

A system of processes that take turns on one shared state: each has a local
state of its own, and one step of one process rewrites the shared state and that
local state only.  A run lists which process moved and with which input; the
inputs carry everything the outside world decides.

Many statements are about the runs all of whose steps meet some condition, so
`Run` carries the condition.

## Main definitions

* `System`, `World`, `System.next` — a system, its states, and one step of it.
* `System.Run` — the runs all of whose steps meet a condition.
* `System.exec`, `System.checked` — running a script, plainly and with the
  condition checked at each step.
* `System.emitted` — what one process emits in a run.
* `System.reached` — the worlds a run passes, by number.
* `System.Solo` — only one process moves.
* `Outline` — a proof outline: a shared invariant, a local assertion per
  process, and a relation between any two processes.

## Main results

* `System.Run.induct`, `System.Run.related` — what each step preserves, and how it relates
  its ends, hold of a run.
* `System.Run.lockstep` — what relates two systems step by step relates their runs.
* `System.Run.solo`, `System.exists_solo_run` — the runs of one process alone.
* `Outline.Holds.next` — **the interference-freedom rule**: an outline survives a step
  that re-establishes it for the mover and keeps it for each bystander.
* `Outline.strengthen_of_run` — the same over a run, for what a stronger outline adds.
-/

namespace Concurrent

/-- A family of processes over a shared state: what a process in a local state
does with an input, or `none` when it cannot move. -/
structure System (S P A : Type) where
  /-- One step of the process numbered by the second argument. -/
  step : S → ℕ → P → A → Option (S × P)

/-- The shared state and the local state of every process. -/
structure World (S P : Type) where
  shared : S
  proc : ℕ → P

namespace System

variable {S P A : Type} (sys : System S P A)

/-- One step of process `p`. -/
def next (w : World S P) (p : ℕ) (a : A) : Option (World S P) :=
  (sys.step w.shared p (w.proc p) a).map fun r => ⟨r.1, Function.update w.proc p r.2⟩

variable {sys}

theorem next_eq_some {w w' : World S P} {p : ℕ} {a : A} :
    sys.next w p a = some w' ↔ ∃ s' P', sys.step w.shared p (w.proc p) a = some (s', P') ∧
      w' = ⟨s', Function.update w.proc p P'⟩ := by
  unfold next
  rw [Option.map_eq_some_iff]
  constructor
  · rintro ⟨⟨s', P'⟩, h, rfl⟩
    exact ⟨s', P', h, rfl⟩
  · rintro ⟨s', P', h, rfl⟩
    exact ⟨(s', P'), h, rfl⟩

variable (sys)

/-- `sys.Run C w as w'` says the inputs `as` lead from `w` to `w'`, and each of
the steps met the condition `C`. -/
inductive Run (C : World S P → ℕ → A → Prop) (w : World S P) :
    List (ℕ × A) → World S P → Prop
  /-- The empty run. -/
  | nil : Run C w [] w
  /-- One more step at the end. -/
  | snoc {as : List (ℕ × A)} {w₁ w₂ : World S P} {p : ℕ} {a : A} :
      Run C w as w₁ → C w₁ p a → sys.next w₁ p a = some w₂ → Run C w (as ++ [(p, a)]) w₂

/-- Run a script of inputs. -/
def exec : World S P → List (ℕ × A) → Option (World S P)
  | w, [] => some w
  | w, (p, a) :: as => (sys.next w p a).bind fun w' => exec w' as

/-- Run a script of inputs, stopping where a step breaks the condition. -/
def checked (C : World S P → ℕ → A → Prop) [∀ w p a, Decidable (C w p a)] :
    World S P → List (ℕ × A) → Option (World S P)
  | w, [] => some w
  | w, (p, a) :: as =>
      if C w p a then (sys.next w p a).bind fun w' => checked C w' as else none

variable {sys} {C : World S P → ℕ → A → Prop}

/-- **What every step preserves, a run preserves.** -/
theorem Run.induct {I : World S P → Prop} {w w' : World S P} {as : List (ℕ × A)}
    (h : sys.Run C w as w') (h₀ : I w)
    (hstep : ∀ w₁ p a w₂, I w₁ → C w₁ p a → sys.next w₁ p a = some w₂ → I w₂) : I w' := by
  induction h with
  | nil => exact h₀
  | snoc _ hC hn ih => exact hstep _ _ _ _ ih hC hn

/-- **What relates the states around each step relates those around a run**, if it is
reflexive and transitive; the steps may assume an invariant. -/
theorem Run.related {I : World S P → Prop} {R : S → S → Prop} {w w' : World S P}
    {as : List (ℕ × A)} (h : sys.Run C w as w') (h₀ : I w) (hrefl : ∀ s, R s s)
    (htrans : ∀ s₁ s₂ s₃, R s₁ s₂ → R s₂ s₃ → R s₁ s₃)
    (hstep : ∀ w₁ p a w₂, I w₁ → C w₁ p a → sys.next w₁ p a = some w₂ →
      I w₂ ∧ R w₁.shared w₂.shared) : R w.shared w'.shared := by
  have hboth : I w' ∧ R w.shared w'.shared := by
    refine h.induct (I := fun w₁ => I w₁ ∧ R w.shared w₁.shared) ⟨h₀, hrefl _⟩ ?_
    rintro w₁ p a w₂ ⟨hI, hR⟩ hC hn
    obtain ⟨hI', hR'⟩ := hstep w₁ p a w₂ hI hC hn
    exact ⟨hI', htrans _ _ _ hR hR'⟩
  exact hboth.2

/-- **Two systems whose steps keep a relation run in lockstep**: what the one does with the
inputs of a run, the other does with their images. -/
theorem Run.lockstep {S' P' A' : Type} {sys' : System S' P' A'} {f : A → A'}
    {R : World S P → World S' P' → Prop} {w w₁ : World S P} {w' : World S' P'}
    {as : List (ℕ × A)} (h : sys.Run C w as w₁) (h₀ : R w w')
    (hstep : ∀ v p a v₁ v', R v v' → (p, a) ∈ as → sys.next v p a = some v₁ →
      ∃ v₁', sys'.next v' p (f a) = some v₁' ∧ R v₁ v₁') :
    ∃ w₁', sys'.Run (fun _ _ _ => True) w' (as.map (Prod.map id f)) w₁' ∧ R w₁ w₁' := by
  induction h with
  | nil => exact ⟨w', .nil, h₀⟩
  | snoc _ _ hn ih =>
    obtain ⟨w₂', hrun, hR⟩ := ih fun v p a v₁ v' hR hmem =>
      hstep v p a v₁ v' hR (List.mem_append_left _ hmem)
    obtain ⟨w₃', hn', hR'⟩ := hstep _ _ _ _ _ hR (by simp) hn
    refine ⟨w₃', ?_, hR'⟩
    rw [List.map_append]
    exact hrun.snoc trivial hn'

theorem Run.trans {w w₁ w₂ : World S P} {as bs : List (ℕ × A)}
    (h : sys.Run C w as w₁) (h' : sys.Run C w₁ bs w₂) : sys.Run C w (as ++ bs) w₂ := by
  induction h' with
  | nil => simpa using h
  | snoc _ hC hn ih => rw [← List.append_assoc]; exact .snoc ih hC hn

theorem Run.cons {w w₁ w₂ : World S P} {as : List (ℕ × A)} {p : ℕ} {a : A}
    (hC : C w p a) (hn : sys.next w p a = some w₁) (h : sys.Run C w₁ as w₂) :
    sys.Run C w ((p, a) :: as) w₂ :=
  Run.trans (.snoc .nil hC hn) h

/-- A run under a condition is a run under any weaker one. -/
theorem Run.mono {D : World S P → ℕ → A → Prop} (hCD : ∀ w p a, C w p a → D w p a)
    {w w' : World S P} {as : List (ℕ × A)} (h : sys.Run C w as w') : sys.Run D w as w' := by
  induction h with
  | nil => exact .nil
  | snoc _ hC hn ih => exact .snoc ih (hCD _ _ _ hC) hn

/-- A run under a condition is a run under any other that follows from it in the
worlds the run passes. -/
theorem Run.of_invariant {D : World S P → ℕ → A → Prop} {I : World S P → Prop}
    {w w' : World S P} {as : List (ℕ × A)} (h : sys.Run C w as w') (h₀ : I w)
    (hstep : ∀ w₁ p a w₂, I w₁ → C w₁ p a → sys.next w₁ p a = some w₂ → I w₂)
    (hCD : ∀ w₁ p a, I w₁ → C w₁ p a → D w₁ p a) : sys.Run D w as w' := by
  induction h with
  | nil => exact .nil
  | snoc h hC hn ih =>
    have hI := h.induct h₀ hstep
    exact .snoc ih (hCD _ _ _ hI hC) hn

/-- A run under a condition is a run under any other that follows from it in the worlds
reached from the same start. -/
theorem Run.of_reached {D : World S P → ℕ → A → Prop} {w w' : World S P} {as : List (ℕ × A)}
    (h : sys.Run C w as w')
    (hCD : ∀ v bs, sys.Run C w bs v → ∀ p a, C v p a → D v p a) : sys.Run D w as w' := by
  induction h with
  | nil => exact .nil
  | snoc h hC hn ih => exact .snoc ih (hCD _ _ h _ _ hC) hn

/-- A step of a process below `n` leaves the others at rest. -/
theorem rest_of_next {n p : ℕ} {a : A} {w w' : World S P} {rest : P} (hp : p < n)
    (hn : sys.next w p a = some w') (h : ∀ q, n ≤ q → w.proc q = rest) :
    ∀ q, n ≤ q → w'.proc q = rest := by
  intro q hq
  obtain ⟨s', P', -, rfl⟩ := next_eq_some.mp hn
  have hne : q ≠ p := by omega
  simpa [Function.update_of_ne hne] using h q hq

/-- A run of the processes below `n` leaves the others at rest. -/
theorem Run.rest_of_below {n : ℕ} {w w' : World S P} {as : List (ℕ × A)} (rest : P)
    (h : sys.Run (fun w p a => p < n ∧ C w p a) w as w') (h₀ : ∀ q, n ≤ q → w.proc q = rest) :
    ∀ q, n ≤ q → w'.proc q = rest :=
  h.induct (I := fun w => ∀ q, n ≤ q → w.proc q = rest) h₀
    fun _ _ _ _ hI hC hn => rest_of_next hC.1 hn hI

/-- A run of the processes below `n`, the others being at rest, is a run under any
condition that follows from its own while they are. -/
theorem Run.of_below {D : World S P → ℕ → A → Prop} {n : ℕ} {w w' : World S P}
    {as : List (ℕ × A)} (rest : P) (h : sys.Run (fun w p a => p < n ∧ C w p a) w as w')
    (h₀ : ∀ q, n ≤ q → w.proc q = rest)
    (hCD : ∀ w₁ p a, (∀ q, n ≤ q → w₁.proc q = rest) → C w₁ p a → D w₁ p a) :
    sys.Run D w as w' :=
  h.of_invariant (I := fun w => ∀ q, n ≤ q → w.proc q = rest) h₀
    (fun _ _ _ _ hI hC hn => rest_of_next hC.1 hn hI) fun w₁ p a hI hC => hCD w₁ p a hI hC.2

theorem run_of_exec : ∀ {as : List (ℕ × A)} {w w' : World S P},
    (∀ b ∈ as, ∀ w, C w b.1 b.2) → sys.exec w as = some w' → sys.Run C w as w' := by
  intro as
  induction as with
  | nil =>
    intro w w' _ h
    obtain rfl : w = w' := Option.some.inj h
    exact .nil
  | cons b as ih =>
    intro w w' hC h
    obtain ⟨w₁, hn, h⟩ := Option.bind_eq_some_iff.mp h
    exact Run.cons (hC b (by simp) w) hn (ih (fun c hc => hC c (by simp [hc])) h)

theorem run_of_checked [∀ w p a, Decidable (C w p a)] : ∀ (as : List (ℕ × A)) (w w' : World S P),
    sys.checked C w as = some w' → sys.Run C w as w' := by
  intro as
  induction as with
  | nil =>
    intro w w' h
    obtain rfl : w = w' := Option.some.inj h
    exact .nil
  | cons pa as ih =>
    obtain ⟨p, a⟩ := pa
    intro w w' h
    unfold checked at h
    split at h
    · next hC =>
      obtain ⟨w₁, hn, h⟩ := Option.bind_eq_some_iff.mp h
      exact Run.cons hC hn (ih w₁ w' h)
    · exact absurd h (by simp)

/-- A script that meets the condition at every step, and ends in a world the
test accepts, is a run to such a world. -/
theorem exists_run_of_checked [∀ w p a, Decidable (C w p a)] {w : World S P}
    {as : List (ℕ × A)} {test : World S P → Bool}
    (h : (checked sys C w as).any test = true) : ∃ w', sys.Run C w as w' ∧ test w' = true := by
  obtain ⟨w', hw', htest⟩ := (Option.any_eq_true _ _).mp h
  exact ⟨w', run_of_checked as w w' hw', htest⟩

/-! ### Traces -/

theorem exec_append : ∀ {as bs : List (ℕ × A)} {w : World S P},
    sys.exec w (as ++ bs) = (sys.exec w as).bind fun w₁ => sys.exec w₁ bs
  | [], _, _ => rfl
  | (p, a) :: as, bs, w => by
    simp only [List.cons_append, exec, Option.bind_assoc]
    exact congrArg _ (funext fun _ => exec_append)

theorem Run.exec_eq {w w' : World S P} {as : List (ℕ × A)} (h : sys.Run C w as w') :
    sys.exec w as = some w' := by
  induction h with
  | nil => rfl
  | snoc _ _ hn ih => simp [exec_append, ih, exec, hn]

/-- The last step of a run. -/
theorem Run.of_snoc {w w₂ : World S P} {as : List (ℕ × A)} {p : ℕ} {a : A}
    (h : sys.Run C w (as ++ [(p, a)]) w₂) :
    ∃ w₁, sys.Run C w as w₁ ∧ C w₁ p a ∧ sys.next w₁ p a = some w₂ := by
  generalize hbs : as ++ [(p, a)] = bs at h
  cases h with
  | nil => simp at hbs
  | snoc hrun hC hn =>
    obtain ⟨rfl, hpa⟩ := List.append_inj' hbs rfl
    obtain ⟨rfl, rfl⟩ := Prod.mk.inj (List.cons.inj hpa).1
    exact ⟨_, hrun, hC, hn⟩

/-- A run passes a world after each part of its inputs. -/
theorem Run.of_append {w w₂ : World S P} {as bs : List (ℕ × A)} (h : sys.Run C w (as ++ bs) w₂) :
    ∃ w₁, sys.Run C w as w₁ ∧ sys.Run C w₁ bs w₂ := by
  induction bs using List.reverseRecOn generalizing w₂ with
  | nil => exact ⟨w₂, by simpa using h, .nil⟩
  | append_singleton bs b ih =>
    obtain ⟨p, a⟩ := b
    rw [← List.append_assoc] at h
    obtain ⟨w₃, hrun, hC, hn⟩ := h.of_snoc
    obtain ⟨w₁, h₁, h₂⟩ := ih hrun
    exact ⟨w₁, h₁, .snoc h₂ hC hn⟩

variable (sys) in
/-- The world a script has reached after `i` of its inputs. -/
def reached (w : World S P) (as : List (ℕ × A)) (i : ℕ) : World S P :=
  (sys.exec w (as.take i)).getD w

/-- A run passes the worlds its script reaches. -/
theorem Run.at_reached {w w' : World S P} {as : List (ℕ × A)} (h : sys.Run C w as w') (i : ℕ) :
    sys.Run C w (as.take i) (sys.reached w as i) ∧
      sys.Run C (sys.reached w as i) (as.drop i) w' := by
  rw [← List.take_append_drop i as] at h
  obtain ⟨w₁, h₁, h₂⟩ := h.of_append
  obtain rfl : sys.reached w as i = w₁ := by simp [reached, h₁.exec_eq]
  exact ⟨h₁, h₂⟩

theorem Run.reached_append {w w' : World S P} {as : List (ℕ × A)} (h : sys.Run C w as w')
    (bs : List (ℕ × A)) : sys.reached w (as ++ bs) as.length = w' := by
  simp [reached, h.exec_eq]

/-- From one of those worlds to the next is a step. -/
theorem Run.reached_succ {w w' : World S P} {as : List (ℕ × A)} (h : sys.Run C w as w') {i : ℕ}
    (hi : i < as.length) : ∃ p a, as = as.take i ++ (p, a) :: as.drop (i + 1) ∧
      C (sys.reached w as i) p a ∧
      sys.next (sys.reached w as i) p a = some (sys.reached w as (i + 1)) := by
  have hrun := (h.at_reached (i + 1)).1
  rw [List.take_succ_eq_append_getElem hi] at hrun
  obtain ⟨w₁, hrun₁, hC, hn⟩ := Run.of_snoc hrun
  obtain rfl : sys.reached w as i = w₁ := by simp [reached, hrun₁.exec_eq]
  refine ⟨_, _, ?_, hC, hn⟩
  show as = as.take i ++ as[i] :: as.drop (i + 1)
  rw [← List.drop_eq_getElem_cons hi, List.take_append_drop]

/-- A run has one end. -/
theorem Run.unique {D : World S P → ℕ → A → Prop} {w w₁ w₂ : World S P} {as : List (ℕ × A)}
    (h₁ : sys.Run C w as w₁) (h₂ : sys.Run D w as w₂) : w₁ = w₂ :=
  Option.some.inj (h₁.exec_eq.symm.trans h₂.exec_eq)

variable {T : Type} (sys) in
/-- What the steps of process `p` emit in a run. -/
def emitted (emit : S → P → P → List T) (p : ℕ) : World S P → List (ℕ × A) → List T
  | _, [] => []
  | w, (q, a) :: as =>
    match sys.next w q a with
    | some w' =>
      (if q = p then emit w.shared (w.proc p) (w'.proc p) else []) ++ emitted emit p w' as
    | none => []

variable {T : Type} in
theorem emitted_append {emit : S → P → P → List T} {p : ℕ} {bs : List (ℕ × A)} {w₁ : World S P} :
    ∀ {as : List (ℕ × A)} {w : World S P}, sys.exec w as = some w₁ →
      sys.emitted emit p w (as ++ bs) = sys.emitted emit p w as ++ sys.emitted emit p w₁ bs
  | [], w, h => by
    obtain rfl : w = w₁ := Option.some.inj h
    rfl
  | (q, a) :: as, w, h => by
    obtain ⟨w', hn, h⟩ := Option.bind_eq_some_iff.mp h
    simp only [List.cons_append, emitted, hn, List.append_assoc]
    exact congrArg _ (emitted_append h)

variable {T : Type} in
/-- What one more step adds. -/
theorem Run.emitted_snoc {emit : S → P → P → List T} {p q : ℕ} {a : A} {as : List (ℕ × A)}
    {w w₁ w₂ : World S P} (h : sys.Run C w as w₁) (hn : sys.next w₁ q a = some w₂) :
    sys.emitted emit p w (as ++ [(q, a)]) = sys.emitted emit p w as ++
      if q = p then emit w₁.shared (w₁.proc p) (w₂.proc p) else [] := by
  rw [emitted_append h.exec_eq]
  simp [emitted, hn]

/-! ### One process alone -/

/-- Only process `p` moves, with inputs that satisfy `D` at its local state. -/
def Solo (p : ℕ) (D : P → A → Prop) (w : World S P) (q : ℕ) (a : A) : Prop :=
  q = p ∧ D (w.proc p) a

variable {p : ℕ} {D : P → A → Prop}

/-- What each step of a process that runs alone preserves, its run preserves. -/
theorem Run.solo {I : S → P → Prop} {w w' : World S P} {as : List (ℕ × A)}
    (h : sys.Run (Solo p D) w as w') (h₀ : I w.shared (w.proc p))
    (hstep : ∀ s Q a s' Q', I s Q → D Q a → sys.step s p Q a = some (s', Q') → I s' Q') :
    I w'.shared (w'.proc p) := by
  refine h.induct (I := fun w => I w.shared (w.proc p)) h₀ fun w₁ q a w₂ hI hC hn => ?_
  obtain ⟨rfl, hD⟩ := hC
  obtain ⟨s', Q', hs, rfl⟩ := next_eq_some.mp hn
  simpa using hstep _ _ _ _ _ hI hD hs

/-- A process that can always take a step that brings it closer to its end gets
there. -/
theorem exists_solo_run (left : P → ℕ) {I : S → P → Prop}
    (hprog : ∀ s Q, I s Q → left Q ≠ 0 → ∃ a s' Q', D Q a ∧ sys.step s p Q a = some (s', Q') ∧
      I s' Q' ∧ left Q' < left Q) :
    ∀ (w : World S P), I w.shared (w.proc p) →
      ∃ as w', sys.Run (Solo p D) w as w' ∧ left (w'.proc p) = 0 ∧ I w'.shared (w'.proc p) := by
  suffices aux : ∀ n (w : World S P), left (w.proc p) ≤ n → I w.shared (w.proc p) →
      ∃ as w', sys.Run (Solo p D) w as w' ∧ left (w'.proc p) = 0 ∧ I w'.shared (w'.proc p) from
    fun w hI => aux _ w (Nat.le_refl _) hI
  intro n
  induction n with
  | zero =>
    intro w hn hI
    exact ⟨[], w, .nil, Nat.le_zero.mp hn, hI⟩
  | succ n ih =>
    intro w hn hI
    by_cases hdone : left (w.proc p) = 0
    · exact ⟨[], w, .nil, hdone, hI⟩
    obtain ⟨a, s', Q', hD, hs, hI', hlt⟩ := hprog _ _ hI hdone
    have hnext : sys.next w p a = some ⟨s', Function.update w.proc p Q'⟩ :=
      next_eq_some.mpr ⟨s', Q', hs, rfl⟩
    have hmoved : (Function.update w.proc p Q') p = Q' := Function.update_self ..
    obtain ⟨as, w', hrun, hend⟩ := ih ⟨s', Function.update w.proc p Q'⟩
      (by simp only [hmoved]; omega) (by simp only [hmoved]; exact hI')
    exact ⟨(p, a) :: as, w', Run.cons ⟨rfl, hD⟩ hnext hrun, hend⟩

end System

/-! ### Proof outlines -/

/-- A proof outline for a system: what holds of the shared state, what each
process may assume about it, and how any two processes stand to each other. -/
structure Outline (S P : Type) where
  /-- The invariant of the shared state. -/
  shared : S → Prop
  /-- The assertion attached to a local state. -/
  own : S → P → Prop
  /-- How two different processes stand to each other. -/
  pair : P → P → Prop

namespace Outline

variable {S P A : Type} {sys : System S P A} {C : World S P → ℕ → A → Prop}

/-- The outline holds of a world. -/
structure Holds (O : Outline S P) (w : World S P) : Prop where
  shared : O.shared w.shared
  own : ∀ p, O.own w.shared (w.proc p)
  pair : ∀ p q, p ≠ q → O.pair (w.proc p) (w.proc q)

/-- The outline survives a step that re-establishes it for the mover and leaves
every bystander's assertion standing. -/
theorem Holds.next {O : Outline S P} {w w' : World S P} {p : ℕ} {a : A} (h : O.Holds w)
    (hn : sys.next w p a = some w')
    (hown : ∀ s' P', sys.step w.shared p (w.proc p) a = some (s', P') →
      O.shared s' ∧ O.own s' P' ∧
        ∀ Q, O.own w.shared Q → O.pair (w.proc p) Q → O.pair Q (w.proc p) →
          O.own s' Q ∧ O.pair P' Q ∧ O.pair Q P') :
    O.Holds w' := by
  obtain ⟨s', P', hs, rfl⟩ := System.next_eq_some.mp hn
  obtain ⟨h₁, h₂, h₃⟩ := hown s' P' hs
  refine ⟨h₁, fun q => ?_, fun q r hqr => ?_⟩
  · rcases eq_or_ne q p with rfl | hq
    · simpa using h₂
    · simpa [hq] using (h₃ _ (h.own q) (h.pair p q hq.symm) (h.pair q p hq)).1
  · rcases eq_or_ne q p with rfl | hq
    · simpa [hqr.symm] using
        (h₃ _ (h.own r) (h.pair q r hqr) (h.pair r q hqr.symm)).2.1
    · rcases eq_or_ne r p with rfl | hr
      · simpa [hq] using (h₃ _ (h.own q) (h.pair r q hq.symm) (h.pair q r hq)).2.2
      · simpa [hq, hr] using h.pair q r hqr

/-- An outline with more known of the shared state and at each local state. -/
def strengthen (O : Outline S P) (inv : S → Prop) (extra : S → P → Prop) : Outline S P where
  shared s := O.shared s ∧ inv s
  own s Q := O.own s Q ∧ extra s Q
  pair := O.pair

theorem Holds.strengthen {O : Outline S P} {inv : S → Prop} {extra : S → P → Prop}
    {w : World S P} (h : O.Holds w) (hinv : inv w.shared)
    (hextra : ∀ p, extra w.shared (w.proc p)) : (O.strengthen inv extra).Holds w :=
  ⟨⟨h.shared, hinv⟩, fun p => ⟨h.own p, hextra p⟩, h.pair⟩

theorem Holds.base {O : Outline S P} {inv : S → Prop} {extra : S → P → Prop} {w : World S P}
    (h : (O.strengthen inv extra).Holds w) : O.Holds w :=
  ⟨h.shared.1, fun p => (h.own p).1, h.pair⟩

/-- **Strengthening an outline.**  Where every step keeps an outline, a stronger
one asks only for what it adds: the mover re-establishes it, and the bystanders
keep it. -/
theorem strengthen_of_run {O : Outline S P} {inv : S → Prop} {extra : S → P → Prop}
    {w w' : World S P} {as : List (ℕ × A)} (h : sys.Run C w as w')
    (h₀ : (O.strengthen inv extra).Holds w)
    (hbase : ∀ w₁ w₂ p a, O.Holds w₁ → sys.next w₁ p a = some w₂ → O.Holds w₂)
    (hstep : ∀ w₁ p a s' P', (O.strengthen inv extra).Holds w₁ → C w₁ p a →
      sys.step w₁.shared p (w₁.proc p) a = some (s', P') →
      inv s' ∧ extra s' P' ∧ ∀ Q, O.own w₁.shared Q → extra w₁.shared Q →
        O.pair (w₁.proc p) Q → O.pair Q (w₁.proc p) → extra s' Q) :
    (O.strengthen inv extra).Holds w' := by
  refine h.induct h₀ fun w₁ p a w₂ hw hC hn => ?_
  have hnext := hbase w₁ w₂ p a hw.base hn
  obtain ⟨s', P', hs, rfl⟩ := System.next_eq_some.mp hn
  obtain ⟨hinv, hmover, hothers⟩ := hstep w₁ p a s' P' hw hC hs
  refine hnext.strengthen hinv fun q => ?_
  rcases eq_or_ne q p with rfl | hq
  · simpa using hmover
  · simpa [hq] using hothers _ (hw.own q).1 (hw.own q).2 (hw.pair p q hq.symm) (hw.pair q p hq)

end Outline

end Concurrent
