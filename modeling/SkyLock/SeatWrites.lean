import SkyLock.Outline

/-!
# The writers of a seat row

Seven statements write `seat_inventory`, each in its own transaction.  Two of
them flush instances that were loaded before the row was locked, and those write
into whatever the row has become.

## Main definitions

* `SeatWrite` — what one step of one process can make of one row.
* `Proc.returning?` — the booking whose seats a process is about to return.

## Main results

* `Step.seatWrite` — **no step does anything else to a row**.
-/

namespace SkyLock

open Concurrent

variable {G : Type} [PaymentGateway G] {env : Env} {s s' : Shared G} {p : ℕ}

/-- The booking whose seats a process is about to return. -/
def Proc.returning? : Proc → Option BookingId
  | .booking _ (.finishVoided σ _ _) | .booking _ (.finishReview σ _ _ _) => some σ.bookingId
  | .cancel _ (.finish b _ _) => some b
  | _ => none

/-- What a step from the local state `P` to `P'` makes of the row of seat `k`. -/
inductive SeatWrite (env : Env) (s : Shared G) (k : SeatId) : Proc → Proc → SeatInventory → Prop
  | kept {P P' : Proc} : SeatWrite env s k P P' (s.db.seat k)
  /-- Step 1 pins a live hold of the user. -/
  | pins {r : BookingRequest} {σ : Saga} (hk : k ∈ s.db.seatIds)
      (hmem : k ∈ σ.seats.map Orm.Instance.id) (hb : σ.bookingId = s.uuid)
      (hstatus : (s.db.seat k).status = .held) (hholder : (s.db.seat k).heldByUserId = some r.userId)
      (hhold : ∃ h ∈ r.payload.holdIds, (s.db.seat k).holdId = some h)
      (hexpiry : ∃ e, (s.db.seat k).holdExpiresAt = some e ∧ s.clock < e) :
      SeatWrite env s k (.booking r .openBooking) (.booking r (.assess σ))
        ((s.db.seat k).pinned s.uuid)
  /-- `_fail_payment` unpins, whatever the row has become, unless it is booked. -/
  | unpins {r : BookingRequest} {σ : Saga} {f : PaymentFailure} {rows : List SeatInstance}
      {o : Outcome} {v : ℕ} (hmem : k ∈ rows.map Orm.Instance.id)
      (hstatus : (s.db.seat k).status ≠ .booked) :
      SeatWrite env s k (.booking r (.failCommit σ f rows))
        (.booking r (.completeSelect o (some σ.bookingId)))
        { s.db.seat k with bookingId := none, version := v }
  /-- Ticketing books, whatever the row has become, unless it has no booking. -/
  | tickets {r : BookingRequest} {σ σ' : Saga} {pay : Payment} {v : ℕ}
      (hmem : k ∈ σ.seats.map Orm.Instance.id) (hbooking : (s.db.seat k).bookingId.isSome) :
      SeatWrite env s k (.booking r (.issueTickets σ pay)) (.booking r (.capture σ' pay))
        { s.db.seat k with
          status := .booked, holdId := none, holdExpiresAt := none, version := v }
  /-- A compensation or a cancellation returns the rows pinned to its booking. -/
  | returns {P P' : Proc} {b : BookingId} (hP : P.returning? = some b)
      (hbooking : (s.db.seat k).bookingId = some b) :
      SeatWrite env s k P P' (s.db.seat k).returned
  /-- `acquire_hold` takes what is takeable. -/
  | acquires {r : HoldRequest} {now : Time} (hk : k ∈ s.db.seatIds)
      (hseat : (s.db.seat k).isSeat r.flightId r.seatNo = true)
      (htake : takeable (s.db.seat k) now = true) :
      SeatWrite env s k (.hold r (.update now)) (.hold r (.refresh k))
        ((s.db.seat k).heldBy r.userId s.uuid (now + seconds env.holdTtlSeconds))
  /-- `release_hold` frees the hold it names. -/
  | releases {r : ReleaseRequest} {reply : Reply}
      (h : releasable r.holdId r.userId (s.db.seat k) = true) :
      SeatWrite env s k (.release r .update) (.release r (.done reply)) (s.db.seat k).freed
  /-- The sweep frees what has expired and is not pinned. -/
  | sweeps {now : Time} (h : sweepable now (s.db.seat k) = true) :
      SeatWrite env s k (.sweep (.update now)) (.sweep .done) (s.db.seat k).freed

omit [PaymentGateway G] in
theorem seatsChecked_iff {db : Db} {ids : List SeatId} :
    db.seatsChecked ids = true ↔ ∀ k ∈ ids, (db.seat k).checks = true := by
  simp [Db.seatsChecked]

/-- A row a flush could commit as booked has a booking. -/
theorem SeatInventory.bookingId_isSome_of_checks {r : SeatInventory} (h : r.checks = true)
    (hs : r.status = .booked) : r.bookingId.isSome := by
  simp only [checks, hs, bne_self_eq_false, Bool.false_or, Bool.and_eq_true] at h
  exact h.2

/-- A saga's assigned instances are its seat instances, passenger by passenger. -/
theorem Saga.Seated.mem_assigned {σ : Saga} (h : σ.Seated)
    {assigned : List (BookingPassenger × SeatInstance)} (ha : σ.assigned = some assigned) :
    assigned.map Prod.fst = σ.passengers ∧ assigned.map Prod.snd = σ.seats := by
  obtain rfl : σ.passengers.zip σ.seats = assigned := by
    rw [h.assigned_eq] at ha
    exact Option.some.inj ha
  have hlen : σ.passengers.length = σ.seats.length := by
    simpa using congrArg List.length h.seats
  exact ⟨List.map_fst_zip hlen.le, List.map_snd_zip hlen.ge⟩

theorem Saga.Seated.assigned_ids {σ : Saga} (h : σ.Seated)
    {assigned : List (BookingPassenger × SeatInstance)} (ha : σ.assigned = some assigned) :
    assigned.map (fun pi => pi.2.id) = σ.seats.map Orm.Instance.id := by
  rw [← (h.mem_assigned ha).2, List.map_map]
  rfl

/-- What ticketing makes of a saga's rows. -/
theorem Saga.Before.issued_seat {σ : Saga} {u : UserId} {state : BookingState} {V : View}
    (h : σ.Before u state V) {assigned : List (BookingPassenger × SeatInstance)}
    (ha : σ.assigned = some assigned) (db : Db) {k : SeatId}
    (hk : k ∈ σ.seats.map Orm.Instance.id) :
    ∃ v, (db.flushSeats (ticketedSeats σ.bookingId assigned)).seat k =
      { db.seat k with status := .booked, holdId := none, holdExpiresAt := none, version := v } := by
  refine flushTicketed_seat_of_mem (fun pi hpi => ?_) ((h.seated.assigned_ids ha).symm ▸ hk)
  have hi : pi.2 ∈ σ.seats := by
    rw [← (h.seated.mem_assigned ha).2]
    exact List.mem_map_of_mem hpi
  exact ⟨h.pinned.status _ hi, h.pinned.hold _ hi, h.pinned.expiry _ hi, h.pinned.booking _ hi⟩

theorem BookingStep.seatWrite {r : BookingRequest} {x : Draws} {pc pc' : BookingPc}
    (h : BookingStep env s p r x pc s' pc')
    (ho : ∀ b, pc.booking? = some b → pc.Outline r b (s.view b)) (k : SeatId) :
    SeatWrite env s k (.booking r pc) (.booking r pc') (s'.db.seat k) := by
  cases h
  case opens seats flightId flight ref hseats hf hlen hlive hids hflight hpnr htotal href =>
    have hspec : ∀ i ∈ seats, i.id ∈ s.db.seatIds ∧ i.row = s.db.seat i.id ∧
        (∃ hold ∈ r.payload.holdIds, i.row.holdId = some hold) ∧
          i.row.heldByUserId = some r.userId := by
      intro i hi
      rw [← hseats] at hi
      exact mem_lockSeatsForHolds hi
    show SeatWrite env s k _ _ ((openedDb s.db _ r.userId r.key s.clock seats).seat k)
    rw [openedDb_seat fun i hi => (hspec i hi).2.1]
    split
    · next hk =>
      obtain ⟨i, hi, rfl⟩ := List.mem_map.mp hk
      -- step 1 reads the locked row, so what it tests is true of the row it pins
      obtain ⟨hid, hfresh, hhold, hholder⟩ := hspec i hi
      obtain ⟨hstatus, hexpiry⟩ := live_of_expiredSeats_eq_nil hlive hi
      rw [hfresh] at hhold hholder hstatus hexpiry
      refine .pins hid ?_ rfl hstatus hholder hhold hexpiry
      exact List.mem_map.mpr ⟨⟨i.id, i.row.pinned s.uuid⟩,
        mem_openedSaga_seats.mpr ⟨i, hi, rfl⟩, rfl⟩
    · exact .kept
  case fails σ f rows hf h =>
    have hrows : ∀ i ∈ rows, i.row.bookingId.isSome := fun i hi => by
      rw [(ho σ.bookingId rfl).2.2 i hi]
      rfl
    by_cases hk : k ∈ rows.map Orm.Instance.id
    · obtain ⟨v, hv⟩ := failedDb_seat_of_mem s.db σ f hrows hk
      -- `ck_booked_seat_has_booking` lets no booked row be unpinned
      have hchecks := seatsChecked_iff.mp h k hk
      show SeatWrite env s k _ _ ((failedDb s.db σ f rows).seat k)
      rw [hv] at hchecks ⊢
      refine .unpins hk fun hbooked => ?_
      have hsome := SeatInventory.bookingId_isSome_of_checks hchecks hbooked
      exact absurd hsome (by simp)
    · show SeatWrite env s k _ _ ((failedDb s.db σ f rows).seat k)
      rw [failedDb_seat_of_notMem hk]
      exact .kept
  case issues σ pay assigned rows hf hlost htrig hassigned hunique hchecked ht hseq hrows =>
    have hbefore := (ho σ.bookingId rfl).1
    have hids := hbefore.seated.assigned_ids hassigned
    show SeatWrite env s k _ _ ((s.db.flushSeats (ticketedSeats σ.bookingId assigned)).seat k)
    by_cases hk : k ∈ σ.seats.map Orm.Instance.id
    · obtain ⟨v, hv⟩ := hbefore.issued_seat hassigned s.db hk
      -- and no unpinned row be booked
      have hchecks := seatsChecked_iff.mp hchecked k (hids.symm ▸ hk)
      rw [hv] at hchecks ⊢
      have hsome := SeatInventory.bookingId_isSome_of_checks hchecks rfl
      exact .tickets hk hsome
    · rw [flushTicketed_seat_of_notMem (hids ▸ hk)]
      exact .kept
  case voids σ pay reason hf h =>
    show SeatWrite env s k _ _ ((voidedDb s.db σ pay s.clock).seat k)
    rw [voidedDb_seat]
    split
    · next hb => exact .returns rfl hb
    · exact .kept
  case flags σ pay reason error hf =>
    show SeatWrite env s k _ _ ((finishReview s.db σ pay error s.clock).seat k)
    rw [finishReview_seat]
    split
    · next hb => exact .returns rfl hb
    · exact .kept
  all_goals exact .kept

/-- **No step does anything else to a row.** -/
theorem Step.seatWrite {P P' : Proc} {a : Input} (h : Step env s p P a s' P')
    (ho : P.Outline s) (k : SeatId) : SeatWrite env s k P P' (s'.db.seat k) := by
  cases h
  case booking r x pc pc' h => exact h.seatWrite (fun b hb => (ho b hb).2) k
  case hold r x pc pc' h =>
    cases h
    case acquires now k' hf h =>
      show SeatWrite env s k _ _ ((acquiredDb env s.db r.userId now s.uuid k').seat k)
      rw [acquiredDb_seat]
      split
      · next hk =>
        subst hk
        have hcond := List.find?_some h
        rw [Bool.and_eq_true] at hcond
        exact .acquires (List.mem_of_find?_eq_some h) hcond.1 hcond.2
      · exact .kept
    all_goals exact .kept
  case release r x pc pc' h =>
    cases h
    case releases reply hf =>
      show SeatWrite env s k _ _ ((releaseHold s.db r.holdId r.userId).1.seat k)
      rw [releaseHold_seat]
      split
      · next hr => exact .releases hr
      · exact .kept
    all_goals exact .kept
  case cancel r x pc pc' h =>
    cases h
    case finishes b state refunded h hseq =>
      show SeatWrite env s k _ _ ((cancelledDb s.db b state r.userId refunded s.clock).seat k)
      rw [cancelledDb_seat]
      split
      · next hb => exact .returns rfl hb
      · exact .kept
    all_goals exact .kept
  case sweep x pc pc' h =>
    cases h
    case sweeps now hf =>
      show SeatWrite env s k _ _ ((sweepExpiredHolds s.db now x.missed).seat k)
      rw [sweepExpiredHolds_seat]
      split
      · next hs => exact .sweeps hs.2
      · exact .kept
  all_goals exact .kept

end SkyLock
