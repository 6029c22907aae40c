import SkyLock.Transitions

/-!
# What each transaction writes

Table by table, what the committed state looks like after each transaction, and
the part of it that concerns one booking.  The seat rows are the contended part:
a transaction whose instances are stale merges into whatever the row has become.

## Main definitions

* `Db.paymentsOf`, `Db.ticketsOf`, `Shared.callsOf` — what belongs to a booking.
* `View`, `Shared.view` — all of it but the seats.
* `Proc.writes`, `Proc.instance?` — the booking and the payment instance in a
  process's hands.

## Main results

* `Step.view_eq` — **a step changes nothing of a booking it does not work on**.
-/

namespace SkyLock

open Concurrent

/-! ### Seat rows -/

namespace SeatInventory

/-- Ticketing writes the status, the hold and the version.  The booking and the
holder are clean attributes, and stay as the row has them. -/
theorem merge_ticketed {r : SeatInventory} {b : BookingId} (stored : SeatInventory)
    (hs : r.status = .held) (hh : r.holdId.isSome) (he : r.holdExpiresAt.isSome)
    (hb : r.bookingId = some b) :
    merge r (r.ticketed b) stored =
      { stored with
        status := .booked, holdId := none, holdExpiresAt := none, version := r.version + 1 } := by
  obtain ⟨h, hh⟩ := Option.isSome_iff_exists.mp hh
  obtain ⟨e, he⟩ := Option.isSome_iff_exists.mp he
  simp [merge, ticketed, Orm.writeBack, hs, hh, he, hb]

/-- Unpinning writes the booking and the version. -/
theorem merge_unpinned {r : SeatInventory} (stored : SeatInventory)
    (hb : r.bookingId.isSome) :
    merge r r.unpinned stored = { stored with bookingId := none, version := r.version + 1 } := by
  obtain ⟨b, hb⟩ := Option.isSome_iff_exists.mp hb
  simp [merge, unpinned, Orm.writeBack, hb]

end SeatInventory

/-! ### Bookings and payments -/

@[simp] theorem Booking.merge_state (loaded current : BookingState) (r : Booking) :
    (r.merge loaded current).state = Orm.writeBack loaded current r.state := rfl

@[simp] theorem Payment.merge_id (loaded current stored : Payment) :
    (Payment.merge loaded current stored).id = stored.id := rfl

@[simp] theorem Payment.merge_bookingId (loaded current stored : Payment) :
    (Payment.merge loaded current stored).bookingId = stored.bookingId := rfl

/-- Over a payment row that has not moved since it was loaded, a flush assigns
the three columns. -/
theorem Payment.merge_fresh (current stored : Payment) :
    Payment.merge stored current stored =
      { stored with
        state := current.state, providerRef := current.providerRef
        failureCode := current.failureCode } := by
  simp [Payment.merge]

/-- An UPDATE whose rows stay outside a selection does not show in it. -/
theorem filter_map_update {α : Type} {f : α → α} {p : α → Bool} {l : List α}
    (h : ∀ a ∈ l, p (f a) = p a ∧ (p a = true → f a = a)) :
    (l.map f).filter p = l.filter p := by
  have hsel : l.filter (p ∘ f) = l.filter p := List.filter_congr fun a ha => (h a ha).1
  rw [List.filter_map, hsel]
  have hid : ∀ a ∈ l.filter p, f a = a := fun a ha =>
    (h a (List.mem_of_mem_filter ha)).2 (List.of_mem_filter ha)
  rw [List.map_congr_left hid, List.map_id']

namespace Db

/-- The payment rows of a booking. -/
def paymentsOf (db : Db) (b : BookingId) : List Payment :=
  db.payments.filter fun r => r.bookingId = b

/-- The tickets of a booking. -/
def ticketsOf (db : Db) (b : BookingId) : List Ticket :=
  db.tickets.filter fun t => t.bookingId = b

theorem mem_paymentsOf {db : Db} {b : BookingId} {r : Payment} :
    r ∈ db.paymentsOf b ↔ r ∈ db.payments ∧ r.bookingId = b := by simp [paymentsOf]

theorem mem_ticketsOf {db : Db} {b : BookingId} {t : Ticket} :
    t ∈ db.ticketsOf b ↔ t ∈ db.tickets ∧ t.bookingId = b := by simp [ticketsOf]

theorem mem_passengersOf {db : Db} {b : BookingId} {q : BookingPassenger} :
    q ∈ db.passengersOf b ↔ q ∈ db.passengers ∧ q.bookingId = b := by simp [passengersOf]

/-- The flush of a payment touches no other booking's payments. -/
theorem paymentsOf_flushPayment_of_ne {db : Db} {b : BookingId} {loaded current : Payment}
    (h : ∀ r ∈ db.payments, r.id = loaded.id → r.bookingId ≠ b) :
    (db.flushPayment loaded current).paymentsOf b = db.paymentsOf b := by
  refine filter_map_update fun r hr => ?_
  by_cases hid : r.id = loaded.id
  · simp [hid, h r hr hid]
  · simp [hid]

/-- The flush of a booking's payments is the flush of each. -/
theorem paymentsOf_flushPayment (db : Db) (b : BookingId) (loaded current : Payment) :
    (db.flushPayment loaded current).paymentsOf b = (db.paymentsOf b).map fun r =>
      if r.id = loaded.id then Payment.merge loaded current r else r := by
  unfold paymentsOf flushPayment
  rw [List.filter_map]
  congr 1
  refine List.filter_congr fun r _ => ?_
  by_cases hr : r.id = loaded.id <;> simp [hr]

theorem mem_flushPayment {db : Db} {loaded current r : Payment} :
    r ∈ (db.flushPayment loaded current).payments ↔
      ∃ r₀ ∈ db.payments, r = if r₀.id = loaded.id then Payment.merge loaded current r₀ else r₀ := by
  simp [eq_comm]

end Db

/-! ### The databases the transactions leave

Each transaction is a record of audit rows over a few writes; the lemmas read the
writes off, table by table. -/

section Tables

variable {db : Db} {σ : Saga} {pay : Payment} {b : BookingId} {now : Time}

/-- Step 1 reads the rows it writes under their locks. -/
theorem openedDb_seat {seats : List SeatInstance} (hfresh : ∀ i ∈ seats, i.row = db.seat i.id)
    (σ : Saga) (now : Time) (u : UserId) (key : String) (k : SeatId) :
    (openedDb db σ u key now seats).seat k =
      if k ∈ seats.map Orm.Instance.id then (db.seat k).pinned σ.bookingId else db.seat k :=
  Orm.flush_fresh SeatInventory.merge (fun r c => SeatInventory.merge_fresh c r)
    (·.pinned σ.bookingId) db.seat hfresh k

theorem failedDb_seat_of_notMem {f : PaymentFailure} {rows : List SeatInstance} {k : SeatId}
    (h : k ∉ rows.map Orm.Instance.id) : (failedDb db σ f rows).seat k = db.seat k := by
  exact Orm.flush_of_notMem _ _ (by simpa using h)

/-- `_fail_payment` unpins a row, whatever it has become. -/
theorem failedDb_seat_of_mem (db : Db) (σ : Saga) (f : PaymentFailure) {rows : List SeatInstance}
    {k : SeatId} (hrows : ∀ i ∈ rows, i.row.bookingId.isSome) (h : k ∈ rows.map Orm.Instance.id) :
    ∃ v, (failedDb db σ f rows).seat k =
      { db.seat k with bookingId := none, version := v } := by
  have hmem : k ∈ (rows.map fun i => (i, i.row.unpinned)).map fun d => d.1.id := by simpa using h
  obtain ⟨d, hd, hk, hflush⟩ := Orm.exists_mem_flush SeatInventory.merge db.seat hmem
  obtain ⟨i, hi, rfl⟩ := List.mem_map.mp hd
  exact ⟨_, hflush.trans (SeatInventory.merge_unpinned _ (hrows i hi))⟩

theorem flushTicketed_seat_of_notMem {assigned : List (BookingPassenger × SeatInstance)}
    {k : SeatId} (h : k ∉ assigned.map fun pi => pi.2.id) :
    (db.flushSeats (ticketedSeats b assigned)).seat k = db.seat k :=
  Orm.flush_of_notMem _ _ (by simpa [ticketedSeats] using h)

/-- Ticketing books a row, whatever it has become, and leaves its booking alone. -/
theorem flushTicketed_seat_of_mem {assigned : List (BookingPassenger × SeatInstance)}
    {k : SeatId} (hrows : ∀ pi ∈ assigned, pi.2.row.status = .held ∧ pi.2.row.holdId.isSome ∧
      pi.2.row.holdExpiresAt.isSome ∧ pi.2.row.bookingId = some b)
    (h : k ∈ assigned.map fun pi => pi.2.id) :
    ∃ v, (db.flushSeats (ticketedSeats b assigned)).seat k =
      { db.seat k with status := .booked, holdId := none, holdExpiresAt := none, version := v } := by
  have hmem : k ∈ (ticketedSeats b assigned).map fun d => d.1.id := by simpa [ticketedSeats] using h
  obtain ⟨d, hd, hk, hflush⟩ := Orm.exists_mem_flush SeatInventory.merge db.seat hmem
  obtain ⟨pi, hpi, rfl⟩ := List.mem_map.mp hd
  obtain ⟨hs, hh, he, hb⟩ := hrows pi hpi
  exact ⟨_, hflush.trans (SeatInventory.merge_ticketed _ hs hh he hb)⟩

@[simp] theorem releaseSeatsForBooking_seat (k : SeatId) :
    (releaseSeatsForBooking db b now).1.seat k =
      if (db.seat k).bookingId = some b then (db.seat k).returned else db.seat k := by
  simp [releaseSeatsForBooking]

theorem voidedDb_seat (k : SeatId) : (voidedDb db σ pay now).seat k =
    if (db.seat k).bookingId = some σ.bookingId then (db.seat k).returned else db.seat k := by
  simp [voidedDb, Db.note]

theorem finishReview_seat (error : String) (k : SeatId) : (finishReview db σ pay error now).seat k =
    if (db.seat k).bookingId = some σ.bookingId then (db.seat k).returned else db.seat k := by
  simp [finishReview, Db.note]

theorem cancelledDb_seat {state : BookingState} {u : UserId} {refunded : Option Payment}
    (k : SeatId) : (cancelledDb db b state u refunded now).seat k =
    if (db.seat k).bookingId = some b then (db.seat k).returned else db.seat k := by
  simp [cancelledDb]

theorem acquiredDb_seat {env : Env} {u : UserId} {holdId : HoldId} {k : SeatId} (k' : SeatId) :
    (acquiredDb env db u now holdId k).seat k' =
      if k' = k then (db.seat k').heldBy u holdId (now + seconds env.holdTtlSeconds)
      else db.seat k' := by
  simp [acquiredDb]

theorem releaseHold_seat {holdId : HoldId} {u : UserId} (k : SeatId) :
    (releaseHold db holdId u).1.seat k =
      if releasable holdId u (db.seat k) = true then (db.seat k).freed else db.seat k := rfl

theorem sweepExpiredHolds_seat {missed : SeatId → Bool} (k : SeatId) :
    (sweepExpiredHolds db now missed).seat k =
      if missed k = false ∧ sweepable now (db.seat k) = true then (db.seat k).freed
      else db.seat k := by
  simp [sweepExpiredHolds]

end Tables

/-! ### What concerns one booking -/

/-- The booking a gateway call was made for. -/
def GatewayCall.booking : GatewayCall → BookingId
  | .authorize b _ _ => b
  | .capture b _ _ => b
  | .void b _ _ => b
  | .refund b _ _ _ => b

/-- What the tables and the call history say of one booking, its seats apart. -/
structure View where
  row : Option Booking
  passengers : List BookingPassenger
  payments : List Payment
  tickets : List Ticket
  calls : List GatewayCall

section

variable {G : Type}

/-- The gateway calls made for a booking, newest first. -/
def Shared.callsOf (s : Shared G) (b : BookingId) : List GatewayCall :=
  s.calls.filter fun c => c.booking = b

/-- The view of a booking. -/
@[simps -fullyApplied] def Shared.view (s : Shared G) (b : BookingId) : View where
  row := s.db.booking b
  passengers := s.db.passengersOf b
  payments := s.db.paymentsOf b
  tickets := s.db.ticketsOf b
  calls := s.callsOf b

end

/-- The saga of a `create_booking` request, while it runs. -/
def BookingPc.saga? : BookingPc → Option Saga
  | .assess σ | .failSelect σ _ | .failCommit σ _ _ | .createPayment σ | .authorize σ _
  | .journalUnknown σ _ | .retryAuthorize σ _ | .recordAuthorized σ _ _ | .issueTickets σ _
  | .reverse σ _ _ | .finishVoided σ _ _ | .finishReview σ _ _ _ | .capture σ _ | .confirm σ _
  | .refresh σ => some σ
  | _ => none

/-- The payment instance in the session of a saga. -/
def BookingPc.instance? : BookingPc → Option Payment
  | .failSelect _ f | .failCommit _ f _ => f.payment.map Prod.fst
  | .authorize _ pay | .journalUnknown _ pay | .retryAuthorize _ pay | .recordAuthorized _ pay _
  | .issueTickets _ pay | .reverse _ pay _ | .finishVoided _ pay _ | .finishReview _ pay _ _
  | .capture _ pay | .confirm _ pay => some pay
  | _ => none

/-- The booking a cancellation works on. -/
def CancelPc.booking? : CancelPc → Option BookingId
  | .selectPayment b _ | .lockSeats b _ _ | .refund b _ _ | .finish b _ _ | .review b _ _ => some b
  | _ => none

/-- The payment instance in the session of a cancellation. -/
def CancelPc.instance? : CancelPc → Option Payment
  | .lockSeats _ _ pay | .finish _ _ pay => pay
  | .refund _ _ pay => some pay
  | _ => none

/-- The booking a process works on. -/
def Proc.writes : Proc → Option BookingId
  | .booking _ pc => pc.saga?.map Saga.bookingId
  | .cancel _ pc => pc.booking?
  | _ => none

/-- The payment instance in the session of a process. -/
def Proc.instance? : Proc → Option Payment
  | .booking _ pc => pc.instance?
  | .cancel _ pc => pc.instance?
  | _ => none

/-! ### What a step leaves alone -/

section Frame

variable {db : Db} {b b' : BookingId}

theorem ticketsOf_voidTickets_of_ne (h : b ≠ b') (now : Time) :
    (voidTickets db b' now).ticketsOf b = db.ticketsOf b := by
  refine filter_map_update fun t _ => ?_
  by_cases ht : t.bookingId = b' ∧ t.voidedAt = none
  · have hb : t.bookingId ≠ b := fun hb => h (hb.symm.trans ht.1)
    simp [ht.1 ▸ hb, ht]
  · simp [ht]

theorem newTickets_bookingId {uuid : ℕ} {now : Time} {eTicketNo : ℕ → String}
    {assigned : List (BookingPassenger × SeatInstance)} {t : Ticket}
    (h : t ∈ newTickets b uuid now eTicketNo assigned) : t.bookingId = b := by
  obtain ⟨k, hk, rfl⟩ := List.mem_mapIdx.mp h
  rfl

theorem ticketsOf_insertTickets_of_ne {tickets : List Ticket}
    (h : ∀ t ∈ tickets, t.bookingId ≠ b) :
    (insertTickets db tickets).ticketsOf b = db.ticketsOf b := by
  simpa [Db.ticketsOf] using h

theorem passengerRows_bookingId {passengers : List PassengerIn} {seats : List SeatInstance}
    {q : BookingPassenger} (h : q ∈ passengerRows b passengers seats) : q.bookingId = b := by
  obtain ⟨k, hk, rfl⟩ := List.mem_mapIdx.mp h
  rfl

/-- A database in which nothing of a booking differs, its seats apart. -/
structure Db.SameAt (db db' : Db) (b : BookingId) : Prop where
  booking : db'.booking b = db.booking b
  passengers : db'.passengersOf b = db.passengersOf b
  payments : db'.paymentsOf b = db.paymentsOf b
  tickets : db'.ticketsOf b = db.ticketsOf b

namespace Db.SameAt

theorem refl (db : Db) (b : BookingId) : db.SameAt db b := ⟨rfl, rfl, rfl, rfl⟩

theorem trans {db₁ db₂ : Db} (h : db.SameAt db₁ b) (h' : db₁.SameAt db₂ b) : db.SameAt db₂ b :=
  ⟨h'.booking.trans h.booking, h'.passengers.trans h.passengers, h'.payments.trans h.payments,
    h'.tickets.trans h.tickets⟩

/-- Writes to the seats, the audit trail and the claims do not count. -/
theorem of_eq {db' : Db} (hb : db'.booking = db.booking) (hp : db'.passengers = db.passengers)
    (hpay : db'.payments = db.payments) (ht : db'.tickets = db.tickets) : db.SameAt db' b :=
  ⟨by rw [hb], by simp [passengersOf, hp], by simp [paymentsOf, hpay], by simp [ticketsOf, ht]⟩

theorem record (b₁ : BookingId) (e : AuditEventType) (u : Option UserId)
    (fromState toState : Option BookingState) (d : List (String × JsonValue)) :
    db.SameAt (db.record b₁ e u fromState toState d) b := of_eq rfl rfl rfl rfl

theorem flushSeats (dirty : List (SeatInstance × SeatInventory)) :
    db.SameAt (db.flushSeats dirty) b := of_eq rfl rfl rfl rfl

theorem flushBookingState (h : b ≠ b') (loaded current : BookingState) :
    db.SameAt (db.flushBookingState b' loaded current) b :=
  ⟨by simp [h], rfl, rfl, rfl⟩

theorem flushPayment {loaded : Payment} (current : Payment)
    (h : ∀ r ∈ db.payments, r.id = loaded.id → r.bookingId ≠ b) :
    db.SameAt (db.flushPayment loaded current) b :=
  ⟨rfl, rfl, paymentsOf_flushPayment_of_ne h, rfl⟩

theorem flushPayments {dirty : Option (Payment × Payment)}
    (h : ∀ d, dirty = some d → ∀ r ∈ db.payments, r.id = d.1.id → r.bookingId ≠ b) :
    db.SameAt (db.flushPayments dirty) b := by
  cases dirty with
  | none => exact of_eq rfl rfl rfl rfl
  | some d => exact ⟨rfl, rfl, paymentsOf_flushPayment_of_ne (h d rfl), rfl⟩

theorem releaseSeatsForBooking (h : b ≠ b') (now : Time) :
    db.SameAt (releaseSeatsForBooking db b' now).1 b :=
  ⟨rfl, rfl, rfl, ticketsOf_voidTickets_of_ne h now⟩

end Db.SameAt

variable {σ : Saga} {pay : Payment}

theorem sameAt_openedDb (h : b ≠ σ.bookingId) (userId : UserId) (key : String) (now : Time)
    (seats : List SeatInstance) (hq : ∀ q ∈ σ.passengers, q.bookingId = σ.bookingId) :
    db.SameAt (openedDb db σ userId key now seats) b where
  booking := Function.update_of_ne h _ _
  passengers := by
    have hnone : σ.passengers.filter (fun q => q.bookingId = b) = [] := by
      simp only [List.filter_eq_nil_iff, decide_eq_true_eq]
      exact fun q hmem hb => h (hb.symm.trans (hq q hmem))
    exact (List.filter_append _ _).trans (by rw [hnone, List.append_nil]; rfl)
  payments := rfl
  tickets := rfl

theorem sameAt_failedDb (h : b ≠ σ.bookingId) {f : PaymentFailure} (rows : List SeatInstance)
    (hpay : ∀ pay, f.payment.map Prod.fst = some pay →
      ∀ r ∈ db.payments, r.id = pay.id → r.bookingId ≠ b) :
    db.SameAt (failedDb db σ f rows) b := by
  unfold failedDb
  refine .trans (.trans (.trans (.flushPayments fun d hd => ?_) (.record ..))
    (.flushBookingState h ..)) (.flushSeats _)
  exact hpay d.1 (by rw [hd]; rfl)

theorem sameAt_authorizedDb (h : b ≠ σ.bookingId) (result : AuthorizationResult)
    (hpay : ∀ r ∈ db.payments, r.id = pay.id → r.bookingId ≠ b) :
    db.SameAt (authorizedDb db σ pay result) b := by
  unfold authorizedDb
  exact .trans (.trans (.flushPayment _ hpay) (.record ..)) (.flushBookingState h ..)

theorem sameAt_confirmedDb (h : b ≠ σ.bookingId)
    (hpay : ∀ r ∈ db.payments, r.id = pay.id → r.bookingId ≠ b) :
    db.SameAt (confirmedDb db σ pay) b := by
  unfold confirmedDb
  exact .trans (.trans (.flushPayment _ hpay) (.record ..)) (.flushBookingState h ..)

theorem sameAt_compensatingDb (h : b ≠ σ.bookingId) (rows : List BookingAudit) (pay : Payment)
    (reason : String) : db.SameAt (compensatingDb { db with audit := rows } σ pay reason) b := by
  unfold compensatingDb
  refine .trans (.trans ?_ (.record ..)) (.flushBookingState h ..)
  exact .of_eq rfl rfl rfl rfl

theorem sameAt_reviewedDb (h : b ≠ b') (state : BookingState) (error : String) :
    db.SameAt (reviewedDb db b' state error) b := by
  unfold reviewedDb
  exact .trans (.record ..) (.flushBookingState h ..)

theorem sameAt_issuedDb (h : b ≠ σ.bookingId) (rows : List BookingAudit) {tickets : List Ticket}
    (assigned : List (BookingPassenger × SeatInstance))
    (ht : ∀ t ∈ tickets, t.bookingId = σ.bookingId) :
    db.SameAt (issuedDb { db with audit := rows } σ tickets assigned) b where
  booking := by simp [issuedDb, h]
  passengers := rfl
  payments := rfl
  tickets := ticketsOf_insertTickets_of_ne fun t hmem hb => h (hb.symm.trans (ht t hmem))

theorem sameAt_voidedDb (h : b ≠ σ.bookingId) (now : Time)
    (hpay : ∀ r ∈ db.payments, r.id = pay.id → r.bookingId ≠ b) :
    db.SameAt (voidedDb db σ pay now) b := by
  unfold voidedDb Db.note
  refine .trans (.trans ?_ (.record ..)) (.flushBookingState h ..)
  exact .trans (.trans (.flushPayment _ hpay) (.record ..)) (.releaseSeatsForBooking h now)

theorem sameAt_finishReview (h : b ≠ σ.bookingId) (error : String) (now : Time) :
    db.SameAt (finishReview db σ pay error now) b := by
  unfold finishReview Db.note
  refine .trans (.trans ?_ (.releaseSeatsForBooking h now)) (.record ..)
  exact .trans (.record ..) (.flushBookingState h ..)

theorem sameAt_cancelledDb (h : b ≠ b') (state : BookingState) (userId : UserId)
    {refunded : Option Payment} (now : Time)
    (hpay : ∀ pay, refunded = some pay → ∀ r ∈ db.payments, r.id = pay.id → r.bookingId ≠ b) :
    db.SameAt (cancelledDb db b' state userId refunded now) b := by
  unfold cancelledDb
  refine .trans (.trans (.trans (.releaseSeatsForBooking h now) (.flushPayments fun d hd => ?_))
    (.record ..)) (.flushBookingState h ..)
  obtain ⟨pay, rfl, rfl⟩ := Option.map_eq_some_iff.mp hd
  exact hpay pay rfl

end Frame

section

variable {G : Type} [PaymentGateway G] {env : Env} {s s' : Shared G} {p : ℕ}

omit [PaymentGateway G] in
theorem Shared.callsOf_called_of_ne {b : BookingId} {g : G} {c : GatewayCall}
    (h : c.booking ≠ b) : (s.called g c).callsOf b = s.callsOf b := by
  simp [Shared.callsOf, h]

omit [PaymentGateway G] in
theorem Shared.callsOf_called {b : BookingId} {g : G} {c : GatewayCall} (h : c.booking = b) :
    (s.called g c).callsOf b = c :: s.callsOf b := by
  simp [Shared.callsOf, h]

theorem reverseOutcome_booking {r : BookingRequest} {σ : Saga} {pay : Payment} :
    (reverseOutcome s r σ pay).2.booking = σ.bookingId := by
  unfold reverseOutcome reverseCharge
  dsimp only
  split <;> rfl

omit [PaymentGateway G] in
/-- A step that leaves a booking alone in the tables and calls the gateway for
no one does not show in its view. -/
theorem Shared.view_eq_of {b : BookingId} (hdb : s.db.SameAt s'.db b)
    (hc : s'.callsOf b = s.callsOf b) : s'.view b = s.view b := by
  simp [Shared.view, hdb.booking, hdb.passengers, hdb.payments, hdb.tickets, hc]

theorem BookingStep.view_eq {r : BookingRequest} {x : Draws} {pc pc' : BookingPc} {b : BookingId}
    (h : BookingStep env s p r x pc s' pc') (hw : pc.saga?.map Saga.bookingId ≠ some b)
    (hw' : pc'.saga?.map Saga.bookingId ≠ some b)
    (hpay : ∀ pay, pc.instance? = some pay → ∀ r ∈ s.db.payments, r.id = pay.id →
      r.bookingId ≠ b) : s'.view b = s.view b := by
  have hne : ∀ σ : Saga, pc.saga? = some σ → b ≠ σ.bookingId := by
    rintro σ hσ rfl
    simp [hσ] at hw
  cases h
  case opens seats flightId flight ref _ _ _ _ _ _ _ _ _ =>
    have hne' : b ≠ s.uuid := fun hb => hw' (by simp [BookingPc.saga?, openedSaga, hb])
    exact Shared.view_eq_of (sameAt_openedDb hne' _ _ _ _ fun q hq => passengerRows_bookingId hq)
      rfl
  case fails σ f rows _ _ =>
    exact Shared.view_eq_of (sameAt_failedDb (hne σ rfl) rows hpay) rfl
  case createsPayment σ _ =>
    refine Shared.view_eq_of ⟨rfl, rfl, ?_, rfl⟩ rfl
    simp [Db.paymentsOf, Shared.payment, newPayment, (hne σ rfl).symm]
  case authorizes σ pay _ _ | timesOut σ pay _ _ | retries σ pay _ _ | timesOutAgain σ pay _ _ =>
    exact Shared.view_eq_of (.refl s.db b) (Shared.callsOf_called_of_ne (hne σ rfl).symm)
  case journals σ pay =>
    exact Shared.view_eq_of (.trans (.flushPayment _ (hpay pay rfl)) (.record ..)) rfl
  case recordsAuthorized σ pay result _ _ =>
    exact Shared.view_eq_of (sameAt_authorizedDb (hne σ rfl) result (hpay pay rfl)) rfl
  case issues σ pay assigned rows _ _ _ _ _ _ _ _ _ =>
    exact Shared.view_eq_of (sameAt_issuedDb (hne σ rfl) rows assigned
      fun t ht => newTickets_bookingId ht) rfl
  case refuses σ pay rows reason _ _ _ _ =>
    exact Shared.view_eq_of (sameAt_compensatingDb (hne σ rfl) rows pay reason) rfl
  case reverses σ pay reason _ | reverseFails σ pay reason _ _ =>
    exact Shared.view_eq_of (.refl s.db b)
      (Shared.callsOf_called_of_ne (reverseOutcome_booking.trans_ne (hne σ rfl).symm))
  case voids σ pay reason _ _ =>
    exact Shared.view_eq_of (sameAt_voidedDb (hne σ rfl) s.clock (hpay pay rfl)) rfl
  case flags σ pay reason error _ =>
    exact Shared.view_eq_of (sameAt_finishReview (hne σ rfl) error s.clock) rfl
  case captures σ pay _ _ | captureFails σ pay _ _ =>
    exact Shared.view_eq_of (.refl s.db b) (Shared.callsOf_called_of_ne (hne σ rfl).symm)
  case confirms σ pay _ _ =>
    exact Shared.view_eq_of (sameAt_confirmedDb (hne σ rfl) (hpay pay rfl)) rfl
  all_goals rfl

theorem CancelStep.view_eq {r : CancelRequest} {x : Draws} {pc pc' : CancelPc} {b : BookingId}
    (h : CancelStep s p r x pc s' pc') (hw : pc.booking? ≠ some b)
    (hpay : ∀ pay, pc.instance? = some pay → ∀ r ∈ s.db.payments, r.id = pay.id →
      r.bookingId ≠ b) : s'.view b = s.view b := by
  have hne : ∀ b', pc.booking? = some b' → b ≠ b' := by
    rintro b' hb' rfl
    exact hw hb'
  cases h
  case refunds b' state pay _ | refundFails b' state pay _ _ =>
    exact Shared.view_eq_of (.refl s.db b) (Shared.callsOf_called_of_ne (hne b' rfl).symm)
  case finishes b' state refunded _ _ =>
    exact Shared.view_eq_of (sameAt_cancelledDb (hne b' rfl) state _ s.clock hpay) rfl
  case reviews b' state error _ =>
    exact Shared.view_eq_of (sameAt_reviewedDb (hne b' rfl) state error) rfl
  all_goals rfl

/-- **A step changes nothing of a booking it does not work on**, its seats
apart. -/
theorem Step.view_eq {P P' : Proc} {a : Input} {b : BookingId} (h : Step env s p P a s' P')
    (hw : P.writes ≠ some b) (hw' : P'.writes ≠ some b)
    (hpay : ∀ pay, P.instance? = some pay → ∀ r ∈ s.db.payments, r.id = pay.id →
      r.bookingId ≠ b) : s'.view b = s.view b := by
  cases h
  case booking r x pc pc' h => exact h.view_eq hw hw' hpay
  case cancel r x pc pc' h => exact h.view_eq hw hpay
  case hold r x pc pc' h =>
    cases h <;> rfl
  case release r x pc pc' h => cases h <;> exact Shared.view_eq_of (.of_eq rfl rfl rfl rfl) rfl
  case sweep x pc pc' h =>
    cases h
    exact Shared.view_eq_of (.of_eq rfl rfl rfl rfl) rfl
  all_goals rfl

end

end SkyLock
