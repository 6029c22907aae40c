import SkyLock.Interference
import SkyLock.Scripts

/-!
# The cap on holds

`acquire_hold` counts the user's live holds and then takes the seat, in two
statements that lock nothing in common.  The cap holds in every run in which the hold
requests of one user do not overlap there: what a request has counted is still below the
cap when it takes its seat.

## Main definitions

* `SeatInventory.live` — a live hold of a user.
* `Timely` — a transaction's `now()` is not ahead of the clock.
* `OneRequest` — the condition.
* `Counts` — what the requests have counted is still below the cap.

## Main results

* `hold_cap` — **no user has more live holds than the cap** where its requests do not
  overlap.
* `cap_exceeded` — two requests that overlap can exceed it.
-/

namespace SkyLock

open Concurrent

/-! ### Counting live holds -/

/-- The row is a live hold of the user. -/
def SeatInventory.live (r : SeatInventory) (userId : UserId) (now : Time) : Bool :=
  decide (r.heldByUserId = some userId) &&
    (r.status == .held && r.holdExpiresAt.any fun e => now < e)

theorem countActiveHolds_eq (db : Db) (userId : UserId) (now : Time) :
    countActiveHolds db userId now = db.seatIds.countP fun k => (db.seat k).live userId now :=
  rfl

theorem SeatInventory.live_iff {r : SeatInventory} {userId : UserId} {now : Time} :
    r.live userId now = true ↔ r.heldByUserId = some userId ∧ r.status = .held ∧
      ∃ e, r.holdExpiresAt = some e ∧ now < e := by
  simp [live, Option.any_eq_true]

/-- A hold is live no longer than it was. -/
theorem SeatInventory.live_of_le {r : SeatInventory} {userId : UserId} {now now' : Time}
    (h : r.live userId now' = true) (hle : now ≤ now') : r.live userId now = true := by
  rw [live_iff] at h ⊢
  obtain ⟨hholder, hstatus, e, he, hlt⟩ := h
  exact ⟨hholder, hstatus, e, he, hle.trans_lt hlt⟩

/-- Counting at most one element of a list more. -/
theorem countP_le_succ {f g : ℕ → Bool} {k : ℕ} :
    ∀ {l : List ℕ}, l.Nodup → (∀ x ∈ l, x ≠ k → g x = true → f x = true) →
      l.countP g ≤ l.countP f + 1
  | [], _, _ => Nat.zero_le _
  | x :: l, hnd, h => by
    rw [List.nodup_cons] at hnd
    by_cases hx : x = k
    · have hrest : l.countP g ≤ l.countP f := by
        refine List.countP_mono_left fun y hy hg => h y (by simp [hy]) ?_ hg
        rintro rfl
        exact hnd.1 (hx ▸ hy)
      rw [List.countP_cons, List.countP_cons]
      split <;> omega
    · have ih := countP_le_succ hnd.2 fun y hy => h y (List.mem_cons_of_mem _ hy)
      rw [List.countP_cons, List.countP_cons]
      by_cases hg : g x = true
      · have hf := h x (by simp) hx hg
        simp only [hg, hf, if_true]
        omega
      · simp only [hg, Bool.false_eq_true, if_false]
        split <;> omega

variable {G : Type} [PaymentGateway G] {env : Env} {s s' : Shared G} {p : ℕ}

/-! ### The clock -/

/-- A transaction's `now()` is not ahead of the clock. -/
def Timely (clock : Time) : Proc → Prop
  | .booking _ (.beginDelete now) | .booking _ (.beginInsert now _)
  | .booking _ (.beginCommit now _ _) | .hold _ (.count now) | .hold _ (.update now)
  | .sweep (.update now) => now ≤ clock
  | _ => True

theorem Timely.mono {clock clock' : Time} {P : Proc} (h : Timely clock P)
    (hle : clock ≤ clock') : Timely clock' P := by
  unfold Timely at h ⊢
  split at h <;> first | exact h.trans hle | exact h

theorem Step.clock_le {P P' : Proc} {a : Input} (h : Step env s p P a s' P') :
    s.clock ≤ s'.clock := by
  cases h
  case tick d => exact Nat.le_add_right _ _
  case booking r x pc pc' h =>
    cases h <;> exact Nat.le_refl _
  case hold r x pc pc' h => cases h <;> exact Nat.le_refl _
  case release r x pc pc' h => cases h <;> exact Nat.le_refl _
  case cancel r x pc pc' h => cases h <;> exact Nat.le_refl _
  case sweep x pc pc' h => cases h; exact Nat.le_refl _
  case arrive => exact Nat.le_refl _

theorem Step.timely {P P' : Proc} {a : Input} (h : Step env s p P a s' P')
    (hP : Timely s.clock P) : Timely s'.clock P' := by
  cases h
  case arrive r => cases r <;> first | exact Nat.le_refl _ | trivial
  case booking r x pc pc' h =>
    cases h <;> first | exact hP | trivial | skip
    case authorizes | retries => unfold afterAuthorize; split <;> trivial
    all_goals
      -- an exception leads to a place that keeps no time
      unfold raised
      split <;> trivial
  case hold r x pc pc' h => cases h <;> first | exact hP | trivial
  case release r x pc pc' h => cases h <;> trivial
  case cancel r x pc pc' h => trivial
  case sweep x pc pc' h => cases h; trivial
  case tick => trivial

theorem Timely.next {w w' : World (Shared G) Proc} {a : Input}
    (h : ∀ q, Timely w.shared.clock (w.proc q)) (hn : (service env G).next w p a = some w')
    (q : ℕ) : Timely w'.shared.clock (w'.proc q) := by
  obtain ⟨s', P', hs, rfl⟩ := System.next_eq_some.mp hn
  have hstep := step_of hs
  rcases eq_or_ne q p with rfl | hne
  · simpa using hstep.timely (h q)
  · simpa [hne] using (h q).mono hstep.clock_le

/-! ### The cap -/

omit [PaymentGateway G] in
/-- A row becomes a live hold of a user only when it is taken for the user. -/
theorem SeatWrite.live {k : SeatId} {P P' : Proc} {row : SeatInventory} {u : UserId}
    (h : SeatWrite env s k P P' row) (hlive : row.live u s.clock = true) :
    (s.db.seat k).live u s.clock = true ∨
      ∃ r now, P = .hold r (.update now) ∧ P' = .hold r (.refresh k) ∧ r.userId = u ∧
        (takeableSeat s.db r.flightId r.seatNo now).isSome := by
  rw [SeatInventory.live_iff] at hlive
  obtain ⟨hholder, hstatus, e, he, hlt⟩ := hlive
  cases h with
  | kept => exact .inl (SeatInventory.live_iff.mpr ⟨hholder, hstatus, e, he, hlt⟩)
  | pins => exact .inl (SeatInventory.live_iff.mpr ⟨hholder, hstatus, e, he, hlt⟩)
  | unpins => exact .inl (SeatInventory.live_iff.mpr ⟨hholder, hstatus, e, he, hlt⟩)
  | tickets => exact absurd hstatus (by simp)
  | returns => exact absurd hstatus (by simp [SeatInventory.returned, SeatInventory.freed])
  | releases => exact absurd hstatus (by simp [SeatInventory.freed])
  | sweeps => exact absurd hstatus (by simp [SeatInventory.freed])
  | acquires hk hseat htake =>
    refine .inr ⟨_, _, rfl, rfl, Option.some.inj hholder, ?_⟩
    exact List.find?_isSome.mpr ⟨k, hk, by simp [hseat, htake]⟩

/-- The user for whom a process has counted, and has yet to run the UPDATE. -/
def Proc.counting? : Proc → Option UserId
  | .hold r (.update _) => some r.userId
  | _ => none

/-- A seat is taken for a user only while no other hold request of the user has counted and
has yet to run its UPDATE. -/
def OneRequest (w : World (Shared G) Proc) (p : ℕ) (_ : Input) : Prop :=
  match w.proc p with
  | .hold r (.update now) => (takeableSeat w.shared.db r.flightId r.seatNo now).isSome →
      ∀ q, q ≠ p → (w.proc q).counting? ≠ some r.userId
  | _ => True

/-- What a request has counted is still below the cap. -/
def Counts (env : Env) (w : World (Shared G) Proc) : Prop :=
  ∀ q r now, w.proc q = .hold r (.update now) →
    countActiveHolds w.shared.db r.userId w.shared.clock < env.maxActiveHoldsPerUser

/-- No user has more live holds than the cap. -/
def Capped (env : Env) (s : Shared G) : Prop :=
  ∀ u, countActiveHolds s.db u s.clock ≤ env.maxActiveHoldsPerUser

/-- A step counts no more live holds of a user, unless it takes a seat for the user,
and then at most one more. -/
theorem Step.countActiveHolds_le {P P' : Proc} {a : Input} (h : Step env s p P a s' P')
    (ht : Tables s) (ho : P.Outline s) (u : UserId) :
    countActiveHolds s'.db u s'.clock ≤ countActiveHolds s.db u s.clock ∨
      countActiveHolds s'.db u s'.clock ≤ countActiveHolds s.db u s.clock + 1 ∧
        ∃ r now, P = .hold r (.update now) ∧ r.userId = u ∧
          (takeableSeat s.db r.flightId r.seatNo now).isSome := by
  have hlive : ∀ k, (s'.db.seat k).live u s'.clock = true →
      (s'.db.seat k).live u s.clock = true := fun k hk =>
    SeatInventory.live_of_le hk h.clock_le
  simp only [countActiveHolds_eq, h.seatIds_eq]
  by_cases htakes : ∃ k r now, P = .hold r (.update now) ∧ P' = .hold r (.refresh k) ∧
      r.userId = u ∧ (takeableSeat s.db r.flightId r.seatNo now).isSome
  · obtain ⟨k, r, now, rfl, rfl, hu, hsome⟩ := htakes
    refine .inr ⟨countP_le_succ (k := k) ?_ fun k' _ hne hk' => ?_, r, now, rfl, hu, hsome⟩
    · exact ht.seatIds.imp (fun hlt => hlt.ne)
    · rcases (h.seatWrite ho k').live (hlive k' hk') with hold | ⟨r', now', hP, hP', -⟩
      · exact hold
      · simp only [Proc.hold.injEq, HoldPc.refresh.injEq] at hP'
        exact absurd hP'.2.symm hne
  · refine .inl (List.countP_mono_left fun k _ hk => ?_)
    rcases (h.seatWrite ho k).live (hlive k hk) with hold | ⟨r, now, hP, hP', hu, hsome⟩
    · exact hold
    · exact absurd ⟨k, r, now, hP, hP', hu, hsome⟩ htakes

/-- Who takes a seat has counted. -/
theorem Capped.next {w w' : World (Shared G) Proc} {a : Input} (h : Capped env w.shared)
    (ho : (outline G).Holds w) (hcounts : Counts env w)
    (hn : (service env G).next w p a = some w') : Capped env w'.shared := by
  obtain ⟨s', P', hs, rfl⟩ := System.next_eq_some.mp hn
  intro u
  have hu := h u
  rcases (step_of hs).countActiveHolds_le ho.shared (ho.own p) u with
    hle | ⟨hle, r, now, hP, rfl, -⟩
  · exact hle.trans hu
  · exact hle.trans (hcounts p r now hP)

omit [PaymentGateway G] in
theorem Db.Initial.capped {db : Db} (hdb : db.Initial) (g : G) (clock : Time) :
    Capped env (initialWorld db g clock).shared := by
  intro u
  have hzero : countActiveHolds db u clock = 0 := by
    rw [countActiveHolds_eq]
    refine List.countP_eq_zero.mpr fun k _ hk => ?_
    simp [(hdb.seats k).1, SeatInventory.live] at hk
  exact hzero.trans_le (Nat.zero_le _)

omit [PaymentGateway G] in
theorem countActiveHolds_antitone (db : Db) (u : UserId) {now now' : Time} (h : now ≤ now') :
    countActiveHolds db u now' ≤ countActiveHolds db u now :=
  List.countP_mono_left fun _ _ hk => SeatInventory.live_of_le hk h

theorem Counts.next {w w' : World (Shared G) Proc} {a : Input} (h : Counts env w)
    (ho : (outline G).Holds w) (htime : ∀ q, Timely w.shared.clock (w.proc q))
    (hC : OneRequest w p a) (hn : (service env G).next w p a = some w') : Counts env w' := by
  obtain ⟨s', P', hs, rfl⟩ := System.next_eq_some.mp hn
  have hstep := step_of hs
  intro q r now hq
  rcases eq_or_ne q p with rfl | hne
  · -- the mover has just counted
    simp only [Function.update_self] at hq
    have hmine := htime q
    generalize w.proc q = P at hstep hmine
    cases hstep
    case arrive r' => cases r' <;> simp [Request.start] at hq
    case hold r' x pc pc' hhold =>
      cases hhold <;> simp at hq
      case counts now' hcap =>
        obtain ⟨rfl, rfl⟩ := hq
        simp only [holdCap, ite_eq_right_iff, reduceCtorEq, imp_false, not_le] at hcap
        exact (countActiveHolds_antitone _ _ hmine).trans_lt hcap
    all_goals simp at hq
  · simp only [Function.update_of_ne hne] at hq
    have hold := h q r now hq
    rcases hstep.countActiveHolds_le ho.shared (ho.own p) r.userId with
      hle | ⟨-, r', now', hP, hu, hsome⟩
    · exact hle.trans_lt hold
    · simp only [OneRequest, hP] at hC
      exact absurd (by simp [hq, Proc.counting?, hu]) (hC hsome q hne)

/-- **The hold cap is a real cap** in every run in which the hold requests of one user do not
overlap between their count and their UPDATE. -/
theorem hold_cap {db : Db} {g : G} {clock : Time} {w : World (Shared G) Proc}
    {as : List (ℕ × Input)} (hdb : db.Initial)
    (h : (service env G).Run OneRequest (initialWorld db g clock) as w) (u : UserId) :
    countActiveHolds w.shared.db u w.shared.clock ≤ env.maxActiveHoldsPerUser := by
  refine (h.induct (I := fun w => (outline G).Holds w ∧ (∀ q, Timely w.shared.clock (w.proc q)) ∧
    Counts env w ∧ Capped env w.shared) ?_ ?_).2.2.2 u
  · refine ⟨outline_initial hdb g clock, fun q => trivial, fun q r now hq => ?_,
      hdb.capped g clock⟩
    simp [initialWorld] at hq
  · rintro w₁ p a w₂ ⟨ho, htime, hcounts, hcapped⟩ hC hn
    exact ⟨outline_next ho hn, Timely.next htime hn, hcounts.next ho htime hC hn,
      hcapped.next ho hcounts hn⟩

/-- Requests that do not overlap among the processes below `n`. -/
def OneRequestBelow (n : ℕ) (w : World (Shared G) Proc) (p : ℕ) : Prop :=
  match w.proc p with
  | .hold r (.update now) => (takeableSeat w.shared.db r.flightId r.seatNo now).isSome →
      ∀ q < n, q ≠ p → (w.proc q).counting? ≠ some r.userId
  | _ => True

instance (n : ℕ) (w : World (Shared G) Proc) (p : ℕ) : Decidable (OneRequestBelow n w p) := by
  unfold OneRequestBelow
  generalize w.proc p = q
  induction q using Proc.casesOn with
  | hold r pc => induction pc using HoldPc.casesOn <;> infer_instance
  | _ => infer_instance

/-- Among the processes below `n`, the others never count. -/
theorem oneRequest_of_below {n : ℕ} {db : Db} {g : G} {clock : Time} {w : World (Shared G) Proc}
    {as : List (ℕ × Input)}
    (h : (service env G).Run (fun w p _ => p < n ∧ OneRequestBelow n w p)
      (initialWorld db g clock) as w) :
    (service env G).Run OneRequest (initialWorld db g clock) as w := by
  refine h.of_below .idle (fun _ _ => rfl) fun w₁ p a hidle hC => ?_
  unfold OneRequestBelow at hC
  unfold OneRequest
  split at hC
  · intro hsome q hne
    rcases lt_or_ge q n with hq | hq
    · exact hC hsome q hq hne
    · simp [hidle q hq, Proc.counting?]
  · trivial

/-- A user takes `n` seats one after the other. -/
def holdsInTurn (userId : UserId) (n : ℕ) : List (ℕ × Input) :=
  (List.range n).flatMap fun k =>
    asks k (.createHold ⟨userId, 7, toString (k + 1) ++ "A"⟩) 3 (.calm k)

/-- A user who asks for seven seats in turn has six. -/
theorem hold_cap_in_turn :
    ∃ w, (service demoEnv FakePaymentGateway).Run OneRequest (onSale 8)
        (holdsInTurn 10 6 ++ asks 6 (.createHold ⟨10, 7, "7A"⟩) 1 (.calm 6)) w ∧
      countActiveHolds w.shared.db 10 w.shared.clock = 6 ∧
      ∀ u, countActiveHolds w.shared.db u w.shared.clock ≤ 6 := by
  have hrun : ((service demoEnv FakePaymentGateway).checked
      (fun w p _ => p < 7 ∧ OneRequestBelow 7 w p) (onSale 8)
      (holdsInTurn 10 6 ++ asks 6 (.createHold ⟨10, 7, "7A"⟩) 1 (.calm 6))).any (fun w =>
        decide (countActiveHolds w.shared.db 10 w.shared.clock = 6)) = true := by
    decide +kernel
  obtain ⟨w, hw, htest⟩ := System.exists_run_of_checked hrun
  have hone := oneRequest_of_below hw
  exact ⟨w, hone, of_decide_eq_true htest, hold_cap (Db.seeded_initial _ _ _ _) hone⟩

/-- A user with five live holds sends two more requests, which both count before either
takes its seat. -/
def overlappingHolds : List (ℕ × Input) :=
  holdsInTurn 10 5 ++ asks 5 (.createHold ⟨10, 7, "6A"⟩) 1 (.calm 5) ++
    asks 6 (.createHold ⟨10, 7, "7A"⟩) 1 (.calm 6) ++ moves 5 2 (.calm 5) ++ moves 6 2 (.calm 6)

/-- **Two requests that overlap exceed the cap.** -/
theorem cap_exceeded :
    ∃ w, (service demoEnv FakePaymentGateway).Run (fun _ _ _ => True) (onSale 8)
        overlappingHolds w ∧
      ¬ countActiveHolds w.shared.db 10 w.shared.clock ≤ demoEnv.maxActiveHoldsPerUser := by
  have hrun : ((service demoEnv FakePaymentGateway).checked (fun _ _ _ => True) (onSale 8)
      overlappingHolds).any (fun w => decide (¬ countActiveHolds w.shared.db 10 w.shared.clock ≤
        demoEnv.maxActiveHoldsPerUser)) = true := by
    decide +kernel
  obtain ⟨w, hw, htest⟩ := System.exists_run_of_checked hrun
  exact ⟨w, hw, of_decide_eq_true htest⟩

end SkyLock
