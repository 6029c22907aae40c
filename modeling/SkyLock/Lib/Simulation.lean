import SkyLock.Lib.Concurrent

/-!
# Runs beside each other

One system takes its steps, and another answers each of them with a run of its own, which
may be empty; a relation holds of the two worlds all along.

## Main definitions

* `Matched` — each result of one step is matched by a result of another.
* `System.Beside` — two runs beside each other.

## Main results

* `Matched.mono`, `Matched.map` — how matched results are put together.
* `System.Run.exists_beside` — **where every step is answered, a whole run is**.
-/

namespace Concurrent

/-! ### Steps that match -/

section Matched

variable {α β γ δ : Type} {R : α → β → Prop} {o : Option α} {o' : Option β}

/-- What the first step results in is matched by what the second results in; where the first
cannot be taken nothing is said. -/
def Matched (R : α → β → Prop) (o : Option α) (o' : Option β) : Prop :=
  ∀ x, o = some x → ∃ y, o' = some y ∧ R x y

namespace Matched

theorem of_none : Matched R none o' := by
  intro x h
  simp at h

theorem of_some {x : α} {y : β} (h : R x y) : Matched R (some x) (some y) := by
  rintro x' ⟨⟩
  exact ⟨y, rfl, h⟩

theorem mono {Q : α → β → Prop} (h : Matched R o o') (hRQ : ∀ x y, R x y → Q x y) :
    Matched Q o o' := by
  intro x hx
  obtain ⟨y, hy, hR⟩ := h x hx
  exact ⟨y, hy, hRQ x y hR⟩

theorem map {R : γ → δ → Prop} {f : α → γ} {g : β → δ}
    (h : Matched (fun x y => R (f x) (g y)) o o') : Matched R (o.map f) (o'.map g) := by
  intro z hz
  obtain ⟨x, hx, rfl⟩ := Option.map_eq_some_iff.mp hz
  obtain ⟨y, rfl, hR⟩ := h x hx
  exact ⟨g y, rfl, hR⟩

end Matched

end Matched

/-! ### Two runs -/

namespace System

variable {S P A S' P' A' : Type} (sys : System S P A) (sys' : System S' P' A')

/-- Two runs beside each other: the second answers each step of the first with the steps that
`M` allows, and `R` relates their worlds at the start and after each. -/
inductive Beside (M : World S P → ℕ → A → List (ℕ × A') → Prop)
    (R : World S P → World S' P' → Prop) (w : World S P) (w' : World S' P') :
    List (ℕ × A) → List (ℕ × A') → World S P → World S' P' → Prop
  | nil (h : R w w') : Beside M R w w' [] [] w w'
  | snoc {as : List (ℕ × A)} {bs cs : List (ℕ × A')} {w₁ w₂ : World S P} {w₁' w₂' : World S' P'}
      {p : ℕ} {a : A} (h : Beside M R w w' as bs w₁ w₁') (hn : sys.next w₁ p a = some w₂)
      (hM : M w₁ p a cs) (hrun : sys'.Run (fun _ _ _ => True) w₁' cs w₂') (hR : R w₂ w₂') :
      Beside M R w w' (as ++ [(p, a)]) (bs ++ cs) w₂ w₂'

variable {sys sys'}

/-- **Where every step of a run is answered, the run is.**  What is known of the worlds that
the two runs reach may be used of each. -/
theorem Run.exists_beside {C : World S P → ℕ → A → Prop}
    {M : World S P → ℕ → A → List (ℕ × A') → Prop} {R I : World S P → World S' P' → Prop}
    {w w₁ : World S P} {w' : World S' P'} {as : List (ℕ × A)} (h : sys.Run C w as w₁) (h₀ : I w w')
    (hrel : ∀ v v', I v v' → R v v')
    (hstep : ∀ cs bs v p a v₁ v', sys.Run C w cs v → sys'.Run (fun _ _ _ => True) w' bs v' →
      I v v' → C v p a → sys.next v p a = some v₁ →
      ∃ ds v₁', M v p a ds ∧ sys'.Run (fun _ _ _ => True) v' ds v₁' ∧ I v₁ v₁') :
    ∃ bs w₁', Beside sys sys' M R w w' as bs w₁ w₁' := by
  suffices hboth : ∃ bs w₁', Beside sys sys' M R w w' as bs w₁ w₁' ∧
      sys'.Run (fun _ _ _ => True) w' bs w₁' ∧ I w₁ w₁' by
    obtain ⟨bs, w₁', hbeside, -, -⟩ := hboth
    exact ⟨bs, w₁', hbeside⟩
  induction h with
  | nil => exact ⟨[], w', .nil (hrel _ _ h₀), .nil, h₀⟩
  | snoc hrun hC hn ih =>
    obtain ⟨bs, v', hbeside, hrun', hI⟩ := ih
    obtain ⟨ds, v₁', hM, hds, hI'⟩ := hstep _ _ _ _ _ _ _ hrun hrun' hI hC hn
    exact ⟨bs ++ ds, v₁', hbeside.snoc hn hM hds (hrel _ _ hI'), hrun'.trans hds, hI'⟩

end System

end Concurrent
