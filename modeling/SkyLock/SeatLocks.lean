import SkyLock.Lib.LockOrder
import SkyLock.Statements

/-!
# Seat-row locks and deadlock

The transactions that lock rows of `seat_inventory`, as the requests they make.  A
SELECT ... ORDER BY id FOR UPDATE and the unit of work visit rows in id order; a
multi-row UPDATE has no order.  Where each of these happens to visit its rows in id
order too, no transactions deadlock.

## Main definitions

* `SeatTransaction` — the transactions, over any seats.
* `SeatTransaction.requests` — what each of them locks.

## Main results

* `seatsOf_subset_of_run` — `cancel` updates only rows it has locked before.
* `requests_of_step` — the steps of the service make these requests.
* `no_seat_deadlock` — **no cycle of waiting transactions**.
* `sweep_deadlocks` — a sweep in another order deadlocks with a booking.
-/

namespace SkyLock

open Concurrent LockOrder

/-- The transactions that lock seat rows, with what decides which. -/
inductive SeatTransaction where
  /-- Step 1 of the saga. -/
  | openBooking (db : Db) (holdIds : List HoldId) (userId : UserId)
  /-- Ticketing. -/
  | issueTickets (σ : Saga)
  /-- `_fail_payment`. -/
  | failPayment (rows : List SeatInstance)
  /-- The end of `_compensate`. -/
  | compensate (db : Db) (b : BookingId)
  /-- `cancel`, which locks the booking's rows and updates those it still has. -/
  | cancel (db db' : Db) (b : BookingId) (hstay : db'.seatsOf b ⊆ db.seatsOf b)
  /-- `acquire_hold`, whose UPDATE matches one row at most. -/
  | acquireHold (k : SeatId)
  | releaseHold (db : Db) (r : ReleaseRequest)
  | sweep (db : Db) (now : Time)

/-- The rows a statement asks to lock. -/
def Statement.request? : Statement → Option (LockOrder.Request SeatId)
  | .lockInOrder seats | .flushSeats seats => some (.inOrder seats)
  | .updateSeats seats => some (.anyOrder seats)
  | _ => none

namespace SeatTransaction

/-- The statements of a transaction on `seat_inventory`. -/
def seatStatements : SeatTransaction → List Statement
  | .openBooking db holdIds userId =>
    [.lockInOrder ((lockSeatsForHolds db holdIds userId).map Orm.Instance.id),
      .flushSeats ((orderedSeats (lockSeatsForHolds db holdIds userId)).map Orm.Instance.id)]
  | .issueTickets σ =>
    [.lockInOrder (σ.seats.map Orm.Instance.id), .flushSeats (σ.seats.map Orm.Instance.id)]
  | .failPayment rows => [.flushSeats (rows.map Orm.Instance.id)]
  | .compensate db b => [.updateSeats (db.seatsOf b)]
  | .cancel db db' b _ => [.lockInOrder (db.seatsOf b), .updateSeats (db'.seatsOf b)]
  | .acquireHold k => [.updateSeats [k]]
  | .releaseHold db r =>
    [.updateSeats (db.seatIds.filter fun k => releasable r.holdId r.userId (db.seat k))]
  | .sweep db now => [.updateSeats (db.seatIds.filter fun k => sweepable now (db.seat k))]

/-- What a transaction locks. -/
def requests (t : SeatTransaction) : List (LockOrder.Request SeatId) :=
  t.seatStatements.filterMap Statement.request?

/-- Every transaction locks the rows it touches with its first statement on them. -/
theorem covered (t : SeatTransaction) : Covered t.requests := by
  cases t with
  | openBooking db holdIds userId =>
    intro r' hr' k hk
    obtain rfl : r' = .inOrder
        ((orderedSeats (lockSeatsForHolds db holdIds userId)).map Orm.Instance.id) := by
      simpa [Statement.request?] using hr'
    obtain ⟨i, hi, rfl⟩ := List.mem_map.mp hk
    exact List.mem_map_of_mem (mem_orderedSeats.mp hi)
  | issueTickets σ =>
    intro r' hr'
    obtain rfl : r' = .inOrder (σ.seats.map Orm.Instance.id) := by
      simpa [Statement.request?] using hr'
    exact List.Subset.refl _
  | cancel db db' b hstay =>
    intro r' hr'
    obtain rfl : r' = .anyOrder (db'.seatsOf b) := by
      simpa [Statement.request?] using hr'
    exact hstay
  | failPayment | compensate | acquireHold | releaseHold | sweep =>
    intro r' hr'
    simp at hr'

end SeatTransaction

/-! ### The transactions of the service -/

section

variable {G : Type} [PaymentGateway G] {env : Env} {s s' : Shared G} {p : ℕ} {P P' : Proc}
  {a : Input}

/-- **What `cancel` updates at its end, it has locked before.** -/
theorem seatsOf_subset_of_run {C : World (Shared G) Proc → ℕ → Input → Prop}
    {w w' : World (Shared G) Proc} {as : List (ℕ × Input)} (h : (service env G).Run C w as w')
    (h₀ : (outline G).Holds w) {b : BookingId} (hb : b < w.shared.uuid) :
    w'.shared.db.seatsOf b ⊆ w.shared.db.seatsOf b := by
  refine (h.induct (I := fun w' => (outline G).Holds w' ∧ b < w'.shared.uuid ∧
    w'.shared.db.seatsOf b ⊆ w.shared.db.seatsOf b) ⟨h₀, hb, List.Subset.refl _⟩ ?_).2.2
  rintro w₁ p a w₂ ⟨ho, hlt, hsub⟩ _ hn
  have hnext := outline_next ho hn
  obtain ⟨s', P', hs, rfl⟩ := System.next_eq_some.mp hn
  have hstep := step_of hs
  exact ⟨hnext, hlt.trans_le hstep.uuid_le,
    List.Subset.trans (hstep.seatsOf_subset (ho.own p) hlt) hsub⟩

theorem BookingStep.requests {r : BookingRequest} {x : Draws} {pc pc' : BookingPc}
    (h : BookingStep env s p r x pc s' pc') : ∃ t : SeatTransaction,
      (bookingStatements s r pc pc').filterMap Statement.request? <+: t.requests := by
  have hnone : ∀ sts : List Statement, sts.filterMap Statement.request? = [] →
      ∃ t : SeatTransaction, sts.filterMap Statement.request? <+: t.requests :=
    fun sts hnil => ⟨.sweep s.db 0, hnil ▸ List.nil_prefix⟩
  cases h
  case opens seats flightId flight ref hseats _ _ _ _ _ _ _ _ =>
    refine ⟨.openBooking s.db r.payload.holdIds r.userId, ?_⟩
    simp only [bookingStatements, recordStatements, SeatTransaction.requests,
      SeatTransaction.seatStatements, openedSaga_ids, hseats]
    exact List.prefix_refl _
  case opensNothing e _ =>
    cases e <;>
      exact ⟨.openBooking s.db r.payload.holdIds r.userId, List.prefix_append [_] [_]⟩
  case fails σ f rows _ _ =>
    exact ⟨.failPayment rows, List.prefix_refl _⟩
  case failRolledBack σ f rows _ _ =>
    exact ⟨.failPayment rows, List.prefix_refl _⟩
  case issues σ pay assigned rows _ _ _ _ _ _ _ _ _ =>
    exact ⟨.issueTickets σ, List.prefix_refl _⟩
  case refuses σ pay rows reason _ _ _ _ =>
    exact ⟨.issueTickets σ, List.prefix_append [_] [_]⟩
  case refuseIllegal σ pay e _ _ =>
    cases e <;> exact ⟨.issueTickets σ, List.prefix_refl _⟩
  case issueRolledBack σ pay e _ _ _ _ =>
    cases e <;> exact ⟨.issueTickets σ, List.prefix_refl _⟩
  case voids σ pay reason _ _ => exact ⟨.compensate s.db σ.bookingId, List.prefix_refl _⟩
  case flags σ pay reason error _ => exact ⟨.compensate s.db σ.bookingId, List.prefix_refl _⟩
  case selectIllegal e _ => cases e <;> exact hnone _ rfl
  case recordIllegal e _ => cases e <;> exact hnone _ rfl
  case voidIllegal e h =>
    rw [raised_of_assertCanTransition h]
    exact hnone _ rfl
  case confirmIllegal e _ => cases e <;> exact hnone _ rfl
  case inserts deleted _ _ => cases deleted <;> exact hnone _ rfl
  case claims deleted => cases deleted <;> exact hnone _ rfl
  case retries => unfold afterAuthorize; split <;> exact hnone _ rfl
  case reverses => exact hnone _ rfl
  all_goals exact hnone _ rfl

/-- **The service locks seat rows in no other way.**  What a step of a request locks is
the beginning of a transaction, `cancel` apart, which locks in two steps. -/
theorem requests_of_step (h : Step env s p P a s' P') :
    (∃ t : SeatTransaction, (statements s P P').filterMap Statement.request? <+: t.requests) ∨
      (∃ r b state pay, P = .cancel r (.lockSeats b state pay) ∧
        (statements s P P').filterMap Statement.request? = [.inOrder (s.db.seatsOf b)]) ∨
      ∃ r b state pay, P = .cancel r (.finish b state pay) ∧
        (statements s P P').filterMap Statement.request? = [.anyOrder (s.db.seatsOf b)] := by
  have hnone : (statements s P P').filterMap Statement.request? = [] →
      ∃ t : SeatTransaction, (statements s P P').filterMap Statement.request? <+: t.requests :=
    fun hnil => ⟨.sweep s.db 0, hnil ▸ List.nil_prefix⟩
  cases h
  case booking r x pc pc' h => exact .inl h.requests
  case hold r x pc pc' h =>
    cases h
    case acquires now k hf h => exact .inl ⟨.acquireHold k, List.prefix_refl _⟩
    all_goals exact .inl (hnone rfl)
  case release r x pc pc' h =>
    cases h
    case releases reply hf => exact .inl ⟨.releaseHold s.db r, List.prefix_refl _⟩
    all_goals exact .inl (hnone rfl)
  case sweep x pc pc' h =>
    cases h
    case sweeps now hf => exact .inl ⟨.sweep s.db now, List.prefix_refl _⟩
  case cancel r x pc pc' h =>
    cases h
    case locks b state pay hf => exact .inr (.inl ⟨r, b, state, pay, rfl, rfl⟩)
    case finishes b state refunded _ _ => exact .inr (.inr ⟨r, b, state, refunded, rfl, rfl⟩)
    all_goals exact .inl (hnone rfl)
  case arrive r => cases r <;> exact .inl (hnone rfl)
  case tick => exact .inl (hnone rfl)

end

/-! ### No deadlock -/

/-- **No seat-row deadlock.**  Where the multi-row UPDATEs visit their rows in ascending
order, no transactions wait for each other in a cycle. -/
theorem no_seat_deadlock {w : World (SeatId → Option ℕ) (Locker SeatId)}
    {as : List (ℕ × LockInput SeatTransaction SeatId)}
    (h : (lockers SeatTransaction.requests).Run Ascending (noLocks SeatId) as w) :
    ¬ (tableOf w).Deadlocked :=
  not_deadlocked_of_run SeatTransaction.covered h

/-- Two seats, on expired holds of user 10. -/
def twoLapsed : Db :=
  { Db.seeded 7 ⟨"CAD"⟩ 25000 2 with
    seat := fun k => ((SeatInventory.vacant 7 (k + 1) 25000).heldBy 10 k 5) }

/-- A booking and a sweep lock the first seat each visits, and go on to the other's. -/
def bookingBesideSweep (order : List SeatId) : List (ℕ × LockInput SeatTransaction SeatId) :=
  [(0, .start (.openBooking twoLapsed [0, 1] 10)), (1, .start (.sweep twoLapsed 9)),
    (0, .visit [0, 1]), (1, .visit order), (0, .lock), (1, .lock)]

/-- A sweep in id order waits for the booking, and not the other way round. -/
theorem no_seat_deadlock_in_order :
    ∃ w, (lockers SeatTransaction.requests).Run Ascending (noLocks SeatId)
        ((bookingBesideSweep [0, 1]).take 5) w ∧
      (tableOf w).WaitsFor 1 0 ∧ ¬ (tableOf w).Deadlocked := by
  have hrun : ((lockers SeatTransaction.requests).checked Ascending (noLocks SeatId)
      ((bookingBesideSweep [0, 1]).take 5)).any (fun w => decide ((w.proc 1).wants? = some 0 ∧
        w.shared 0 = some 0)) = true := by
    decide +kernel
  obtain ⟨w, hw, htest⟩ := System.exists_run_of_checked hrun
  obtain ⟨hwants, howner⟩ := of_decide_eq_true htest
  exact ⟨w, hw, ⟨by decide, 0, hwants, howner⟩, no_seat_deadlock hw⟩

/-- **A sweep in another order deadlocks with a booking.** -/
theorem sweep_deadlocks :
    ∃ w, (lockers SeatTransaction.requests).Run (fun _ _ _ => True) (noLocks SeatId)
        (bookingBesideSweep [1, 0]) w ∧ (tableOf w).Deadlocked := by
  have hrun : ((lockers SeatTransaction.requests).checked (fun _ _ _ => True) (noLocks SeatId)
      (bookingBesideSweep [1, 0])).any (fun w => decide ((w.proc 0).wants? = some 1 ∧
        (w.proc 1).wants? = some 0 ∧ w.shared 0 = some 0 ∧ w.shared 1 = some 1)) = true := by
    decide +kernel
  obtain ⟨w, hw, htest⟩ := System.exists_run_of_checked hrun
  obtain ⟨h₀, h₁, howner₀, howner₁⟩ := of_decide_eq_true htest
  refine ⟨w, hw, 0, .tail (.single (b := 1) ?_) ?_⟩
  · exact ⟨by decide, 1, h₀, howner₁⟩
  · exact ⟨by decide, 0, h₁, howner₀⟩

end SkyLock
