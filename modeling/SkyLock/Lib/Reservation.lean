import Mathlib.Data.Set.Basic
import Mathlib.Order.Basic

/-!
# Reservations

Places that users hold for a while before they buy them.  A user takes a free place,
or one whose hold has lapsed, under a hold id that was not given out before; a booking
of the holder lays a claim to it; and what is sold goes to the booking that has the
claim.  A claim outlives the hold it was laid on, so a place can be free and claimed.
What can become of a place is up to who acts: a hold that has not lapsed ends by the hand
of its user or of a booking, and of nobody else.

## Main definitions

* `Place` — what a place is.
* `Actor` — who acts.
* `Board`, `Move`, `Board.Advance` — the places at a moment, what an actor can make of one,
  and of all of them together.
* `Board.Sound` — holds tell the places apart, and claims are their holders'.
* `Play` — a sequence of boards.

## Main results

* `Board.Advance.sound` — an advance keeps a board sound.
* `Play.held_once` — **a hold lives once**: on one place, for one user, in one stretch.
* `Play.claimed_since` — **what is claimed was held live by the claimant**.
* `Play.resold` — **a place is resold to a booking opened after it was given back**.
-/

namespace Reservation

/-- What a place is, with the booking that has a claim to it. -/
inductive Place (U H B T : Type*)
  | free (claim : Option B)
  | held (user : U) (hold : H) (expiry : T) (claim : Option B)
  | sold (buyer : B)

namespace Place

variable {U H B T : Type*}

/-- The booking that has the place, or a claim to it. -/
def claim : Place U H B T → Option B
  | free c | held _ _ _ c => c
  | sold b => some b

/-- The place is held by the user, under the hold and until the expiry. -/
def Held (P : Place U H B T) (u : U) (h : H) (e : T) : Prop := ∃ c, P = held u h e c

/-- The place without the claim. -/
def unclaimed : Place U H B T → Place U H B T
  | free _ | sold _ => free none
  | held u h e _ => held u h e none

/-- The place can be taken. -/
def Open [LT T] (now : T) : Place U H B T → Prop
  | free _ => True
  | held _ _ e _ => e < now
  | sold _ => False

@[simp] theorem claim_unclaimed (P : Place U H B T) : P.unclaimed.claim = none := by
  cases P <;> rfl

theorem held_unclaimed {P : Place U H B T} {u : U} {h : H} {e : T} :
    P.unclaimed.Held u h e ↔ P.Held u h e := by
  cases P <;> simp [unclaimed, Held]

/-- A place has one hold. -/
theorem Held.unique {P : Place U H B T} {u u' : U} {h h' : H} {e e' : T} (hP : P.Held u h e)
    (hP' : P.Held u' h' e') : u = u' ∧ h = h' ∧ e = e' := by
  obtain ⟨c, rfl⟩ := hP
  obtain ⟨c', heq⟩ := hP'
  simp only [held.injEq] at heq
  exact ⟨heq.1, heq.2.1, heq.2.2.1⟩

end Place

/-- Who acts. -/
inductive Actor (U H B : Type*)
  | nobody
  /-- A user who asks for a place. -/
  | taker (user : U)
  /-- A user who gives up a hold. -/
  | releaser (user : U) (hold : H)
  /-- A booking, as it is opened, paid for, or given up. -/
  | buyer (booking : B)
  /-- Whoever cancels a booking. -/
  | canceller (booking : B)
  /-- Whoever clears the holds that have lapsed. -/
  | sweeper

/-- The actor is the booking, or cancels it. -/
def Actor.Settles {U H B : Type*} (a : Actor U H B) (b : B) : Prop :=
  a = .buyer b ∨ a = .canceller b

/-- The places at a moment. -/
structure Board (K U H B T : Type*) where
  now : T
  /-- The hold ids given out so far. -/
  issued : Set H
  /-- The user a booking was opened for, if it was opened. -/
  owner : B → Option U
  place : K → Place U H B T

variable {K U H B T : Type*} [LinearOrder T] {m m' : Board K U H B T} {a : Actor U H B}
  {P P' : Place U H B T}
  {k k' : K} {u u' : U} {h : H} {b b' : B} {e e' : T}

/-- What an actor can make of a place, from one board to the next. -/
inductive Move (m m' : Board K U H B T) : Actor U H B → Place U H B T → Place U H B T → Prop
  | stays {a : Actor U H B} {P : Place U H B T} : Move m m' a P P
  /-- A user takes an open place. -/
  | takes {P : Place U H B T} {u : U} {h : H} {e : T} (hopen : P.Open m.now)
      (hfresh : h ∉ m.issued) (hissued : h ∈ m'.issued) :
      Move m m' (.taker u) P (.held u h e none)
  /-- A booking is opened on a live hold of its user. -/
  | claims {u : U} {h : H} {e : T} {c : Option B} {b : B} (hlive : m.now < e)
      (hnew : m.owner b = none) (howner : m'.owner b = some u) :
      Move m m' (.buyer b) (.held u h e c) (.held u h e (some b))
  /-- A booking that is given up drops the claim, whosoever it is. -/
  | unclaims {P : Place U H B T} {b : B} (hunsold : ∀ b, P ≠ .sold b) :
      Move m m' (.buyer b) P P.unclaimed
  /-- A booking is paid for, and the place is sold to the one that has the claim. -/
  | sells {P : Place U H B T} {b b' : B} (hclaim : P.claim = some b) :
      Move m m' (.buyer b') P (.sold b)
  /-- The booking that has the place, or a claim to it, gives it back. -/
  | returns {a : Actor U H B} {P : Place U H B T} {b : B} (ha : a.Settles b)
      (hclaim : P.claim = some b) : Move m m' a P (.free none)
  /-- The holder gives up the hold. -/
  | releases {u : U} {h : H} {e : T} {c : Option B} :
      Move m m' (.releaser u h) (.held u h e c) (.free c)
  /-- The hold has lapsed, and nobody has a claim. -/
  | lapses {u : U} {h : H} {e : T} (hlapsed : e < m.now) :
      Move m m' .sweeper (.held u h e none) (.free none)

namespace Board

/-- One step of the places: the actor makes a move on each, and a new hold is on one place. -/
structure Advance (m : Board K U H B T) (a : Actor U H B) (m' : Board K U H B T) : Prop where
  now : m.now ≤ m'.now
  issued : m.issued ⊆ m'.issued
  owner : ∀ b u, m.owner b = some u → m'.owner b = some u
  move : ∀ k, Move m m' a (m.place k) (m'.place k)
  apart : ∀ k k' u u' h e e', h ∉ m.issued → (m'.place k).Held u h e →
    (m'.place k').Held u' h e' → k = k'

/-- Nobody has reserved anything. -/
def Blank (m : Board K U H B T) : Prop := ∀ k, m.place k = .free none

/-- Holds were given out, each for one place, and claims are of bookings of the holder. -/
structure Sound (m : Board K U H B T) : Prop where
  issued : ∀ k u h e, (m.place k).Held u h e → h ∈ m.issued
  apart : ∀ k k' u u' h e e', (m.place k).Held u h e → (m.place k').Held u' h e' → k = k'
  claimed : ∀ k u h e b, m.place k = .held u h e (some b) → m.owner b = some u

omit [LinearOrder T] in
theorem Blank.sound (hm : m.Blank) : m.Sound where
  issued k u h e hk := by simp [hm k, Place.Held] at hk
  apart k k' u u' h e e' hk := by simp [hm k, Place.Held] at hk
  claimed k u h e b hk := by simp [hm k] at hk

end Board

/-! ### One move -/

/-- A hold was on the place before, or is a new one. -/
theorem Move.held_cases (hmove : Move m m' a P P') (hheld : P'.Held u h e) :
    P.Held u h e ∨ h ∉ m.issued ∧ h ∈ m'.issued := by
  obtain ⟨c, hc⟩ := hheld
  cases hmove with
  | stays => exact .inl ⟨c, hc⟩
  | takes hopen hfresh hissued =>
    obtain ⟨rfl, rfl, rfl, -⟩ := by simpa using hc
    exact .inr ⟨hfresh, hissued⟩
  | claims hlive hnew howner =>
    obtain ⟨rfl, rfl, rfl, -⟩ := by simpa using hc
    exact .inl ⟨_, rfl⟩
  | unclaims hunsold => exact .inl (Place.held_unclaimed.mp ⟨c, hc⟩)
  | sells | returns | releases | lapses => simp at hc

/-- A booking had its claim before, or is opened now, on a live hold of its user. -/
theorem Move.claim_cases (hmove : Move m m' a P P') (hclaim : P'.claim = some b) :
    P.claim = some b ∨ ∃ u h e, P.Held u h e ∧ P' = .held u h e (some b) ∧ m.now < e ∧
      m.owner b = none ∧ m'.owner b = some u := by
  cases hmove with
  | stays => exact .inl hclaim
  | takes => simp [Place.claim] at hclaim
  | @claims u h e c b₁ hlive hnew howner =>
    obtain rfl : b₁ = b := Option.some.inj hclaim
    exact .inr ⟨u, h, e, ⟨c, rfl⟩, rfl, hlive, hnew, howner⟩
  | unclaims => simp at hclaim
  | sells hb => exact .inl (hb.trans hclaim)
  | returns | lapses => simp [Place.claim] at hclaim
  | releases => exact .inl hclaim

/-- A place that is sold stays so until it is given back. -/
theorem Move.sold_cases (hmove : Move m m' a (.sold b) P') : P' = .sold b ∨ P' = .free none := by
  cases hmove with
  | stays => exact .inl rfl
  | takes hopen => exact hopen.elim
  | unclaims hunsold => exact absurd rfl (hunsold b)
  | sells hclaim =>
    obtain rfl := Option.some.inj hclaim
    exact .inl rfl
  | returns => exact .inr rfl

/-- A claim on a hold is of a booking of the holder. -/
theorem Move.claimed (hmove : Move m m' a P (.held u h e (some b)))
    (howner : ∀ b u, m.owner b = some u → m'.owner b = some u)
    (hP : P = .held u h e (some b) → m.owner b = some u) : m'.owner b = some u := by
  generalize hP' : Place.held u h e (some b) = P' at hmove
  cases hmove with
  | stays => exact howner b u (hP hP'.symm)
  | takes | sells | returns | releases | lapses => simp at hP'
  | @claims u₁ h₁ e₁ c b₁ hlive hnew howner₁ =>
    obtain ⟨rfl, -, -, rfl⟩ := by simpa using hP'
    exact howner₁
  | unclaims =>
    have hclaim : some b = none := (congrArg Place.claim hP').trans P.claim_unclaimed
    simp at hclaim

/-- **An advance keeps a board sound.** -/
theorem Board.Advance.sound (ha : m.Advance a m') (hm : m.Sound) : m'.Sound where
  issued k u h e hk := by
    rcases (ha.move k).held_cases hk with hbefore | ⟨-, hissued⟩
    · exact ha.issued (hm.issued k u h e hbefore)
    · exact hissued
  apart k k' u u' h e e' hk hk' := by
    rcases (ha.move k).held_cases hk with hbefore | ⟨hfresh, -⟩
    · rcases (ha.move k').held_cases hk' with hbefore' | ⟨hfresh, -⟩
      · exact hm.apart k k' u u' h e e' hbefore hbefore'
      · exact absurd (hm.issued k u h e hbefore) hfresh
    · exact ha.apart k k' u u' h e e' hfresh hk hk'
  claimed k u h e b hk := by
    have hmove := ha.move k
    rw [hk] at hmove
    exact hmove.claimed ha.owner (hm.claimed k u h e b)

/-! ### Sequences of boards -/

/-- The first boards of a sequence, up to the one numbered `n`, each advance to the next by
the hand of its actor. -/
def Play (a : ℕ → Actor U H B) (m : ℕ → Board K U H B T) (n : ℕ) : Prop :=
  ∀ i < n, (m i).Advance (a i) (m (i + 1))

namespace Play

variable {a : ℕ → Actor U H B} {m : ℕ → Board K U H B T} {n i j l : ℕ}

theorem sound (hp : Play a m n) (h₀ : (m 0).Sound) (hi : i ≤ n) : (m i).Sound := by
  induction i with
  | zero => exact h₀
  | succ i ih => exact (hp i (by omega)).sound (ih (by omega))

theorem issued_subset (hp : Play a m n) (hij : i ≤ j) (hj : j ≤ n) :
    (m i).issued ⊆ (m j).issued := by
  induction j, hij using Nat.le_induction with
  | base => exact subset_rfl
  | succ j hij ih => exact (ih (by omega)).trans (hp j (by omega)).issued

theorem owner_kept (hp : Play a m n) (hij : i ≤ j) (hj : j ≤ n) (hb : (m i).owner b = some u) :
    (m j).owner b = some u := by
  induction j, hij using Nat.le_induction with
  | base => exact hb
  | succ j hij ih => exact (hp j (by omega)).owner b u (ih (by omega))

/-- A hold that had been given out was where it is. -/
theorem held_before (hp : Play a m n) (hij : i ≤ j) (hj : j ≤ n) (hissued : h ∈ (m i).issued)
    (hheld : ((m j).place k).Held u h e) : ((m i).place k).Held u h e := by
  induction j, hij using Nat.le_induction with
  | base => exact hheld
  | succ j hij ih =>
    rcases ((hp j (by omega)).move k).held_cases hheld with hbefore | ⟨hfresh, -⟩
    · exact ih (by omega) hbefore
    · exact absurd (hp.issued_subset hij (by omega) hissued) hfresh

/-- **A hold lives once.**  Where a hold is at two moments, it is on the same place for the
same user and until the same expiry, and was at every moment between them. -/
theorem held_once (hp : Play a m n) (h₀ : (m 0).Sound) (hij : i ≤ j) (hjl : j ≤ l) (hl : l ≤ n)
    (hi : ((m i).place k).Held u h e) (hheld : ((m l).place k').Held u' h e') :
    k = k' ∧ u = u' ∧ e = e' ∧ ((m j).place k).Held u h e := by
  have hsound := hp.sound h₀ (i := i) (by omega)
  have hissued := hsound.issued k u h e hi
  have hfirst := hp.held_before (by omega) hl hissued hheld
  obtain rfl := hsound.apart k k' u u' h e e' hi hfirst
  obtain ⟨rfl, -, rfl⟩ := hi.unique hfirst
  have hbetween := hp.held_before hjl hl (hp.issued_subset hij (by omega) hissued) hheld
  exact ⟨rfl, rfl, rfl, hbetween⟩

/-- **What is claimed was held live by the claimant.**  The claim was laid by opening the
booking, on a live hold of its user, and has been there since. -/
theorem claimed_since (hp : Play a m n) (h₀ : (m 0).Blank) (hj : j ≤ n)
    (hclaim : ((m j).place k).claim = some b) :
    ∃ i < j, ∃ u h e, ((m i).place k).Held u h e ∧ (m i).now < e ∧ (m i).owner b = none ∧
      (m (i + 1)).owner b = some u ∧ ∀ l, i < l → l ≤ j → ((m l).place k).claim = some b := by
  induction j with
  | zero => simp [h₀ k, Place.claim] at hclaim
  | succ j ih =>
    rcases ((hp j (by omega)).move k).claim_cases hclaim with
      hbefore | ⟨u, h, e, hheld, -, hlive, hnew, howner⟩
    · obtain ⟨i, hi, u, h, e, hheld, hlive, hnew, howner, hsince⟩ := ih (by omega) hbefore
      refine ⟨i, by omega, u, h, e, hheld, hlive, hnew, howner, fun l hil hlj => ?_⟩
      rcases Nat.lt_or_eq_of_le hlj with hlt | rfl
      · exact hsince l hil (by omega)
      · exact hclaim
    · refine ⟨j, by omega, u, h, e, hheld, hlive, hnew, howner, fun l hil hlj => ?_⟩
      obtain rfl : l = j + 1 := by omega
      exact hclaim

/-- What was sold is sold still, or has been given back. -/
theorem sold_since (hp : Play a m n) (hij : i ≤ j) (hj : j ≤ n) (hi : (m i).place k = .sold b) :
    (m j).place k = .sold b ∨ ∃ l, i < l ∧ l ≤ j ∧ (m l).place k = .free none := by
  induction j, hij using Nat.le_induction with
  | base => exact .inl hi
  | succ j hij ih =>
    rcases ih (by omega) with hsold | ⟨l, hil, hlj, hfree⟩
    · have hmove := (hp j (by omega)).move k
      rw [hsold] at hmove
      rcases hmove.sold_cases with hstill | hfree
      · exact .inl hstill
      · exact .inr ⟨j + 1, by omega, le_rfl, hfree⟩
    · exact .inr ⟨l, hil, by omega, hfree⟩

/-- **A place is resold to a booking opened after it was given back.** -/
theorem resold (hp : Play a m n) (h₀ : (m 0).Blank) (hij : i ≤ j) (hj : j ≤ n)
    (hi : (m i).place k = .sold b) (hsold : (m j).place k = .sold b') (hne : b ≠ b') :
    ∃ l, i < l ∧ l < j ∧ (m l).place k = .free none ∧ (m l).owner b' = none := by
  obtain ⟨l', hl', -, -, -, -, -, hnew, -, hsince⟩ :=
    hp.claimed_since h₀ hj (b := b') (by rw [hsold]; rfl)
  rcases hp.sold_since hij hj hi with hstill | ⟨l, hil, hlj, hfree⟩
  · rw [hstill] at hsold
    simp only [Place.sold.injEq] at hsold
    exact absurd hsold hne
  · -- the claim of the second booking was laid after that
    have hll' : l ≤ l' := by
      by_contra hlt
      have hclaimed := hsince l (by omega) hlj
      simp [hfree, Place.claim] at hclaimed
    have hunopened : (m l).owner b' = none := by
      by_contra hopened
      obtain ⟨u, hu⟩ := Option.ne_none_iff_exists'.mp hopened
      have hkept := hp.owner_kept hll' (by omega) hu
      rw [hnew] at hkept
      simp at hkept
    exact ⟨l, hil, by omega, hfree, hunopened⟩

end Play

end Reservation
