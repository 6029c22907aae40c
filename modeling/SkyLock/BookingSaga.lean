import Mathlib.Algebra.GroupWithZero.Nat
import SkyLock.Carding
import SkyLock.Holds
import SkyLock.Payments
import SkyLock.Schemas

/-!
# The booking saga

`app/services/booking_saga.py`, cut where the source commits: each definition is
what one database transaction of `run`, `_issue_tickets`, `_fail_payment`,
`_compensate` or `cancel` does to the committed state, given what the session
holds in memory.  `SkyLock.System` puts them in order, with the gateway calls
between them.

A transaction that locks its rows before it reads them is one step: what it
reads stays so until it commits.  `_fail_payment` and `cancel` read without a
lock, and are cut there too.

`seqTaken` says that another transaction committed the audit number this one had
read, so the unique constraint on `(booking_id, seq)` rejects its flush.  It is a
parameter of the transactions that can run beside another writer of the same
booking.  `refTaken` says the same of the booking reference.

## Main definitions

* `Saga` — the locals of `run` and the attributes its session has loaded.
* `openBooking` — step 1.
* `startFailure`, `failPaymentRows`, `failPayment` — `_fail_payment`: its first flush, its
  SELECT and its last flush.
* `createPayment`, `journalUnknown`, `recordAuthorized`, `confirm` — the
  transactions around the gateway calls.
* `issueTickets` — `_issue_tickets`.
* `startCompensation`, `finishVoided`, `finishReview` — `_compensate`.
* `findPayment`, `finishCancel`, `reviewCancel` — `cancel`.
-/

namespace SkyLock

/-- The locals of `run` after step 1: the booking and seat instances with the
attributes the session has loaded or assigned, and the passenger rows.  Between
two transactions every attribute is clean. -/
structure Saga where
  bookingId : BookingId
  ref : String
  flightId : FlightId
  total : Cents
  currency : String
  state : BookingState
  /-- `ordered_seats`. -/
  seats : List SeatInstance
  /-- `passenger_rows`. -/
  passengers : List BookingPassenger
  assessment : Assessment
  deriving Inhabited

/-! ### Step 1: lock the seats and create the booking -/

/-- `_lock_seats_for_holds`; the seat ids are in primary-key order. -/
def lockSeatsForHolds (db : Db) (holdIds : List HoldId) (userId : UserId) : List SeatInstance :=
  (db.seatIds.filter fun s =>
    ((db.seat s).holdId.any fun h => h ∈ holdIds) &&
      decide ((db.seat s).heldByUserId = some userId)).map fun s => ⟨s, db.seat s⟩

/-- `_seconds_left`, in microseconds. -/
def secondsLeft (r : SeatInventory) (now : Time) : ℤ :=
  match r.holdExpiresAt with
  | none => -1000000
  | some e => (e : ℤ) - now

/-- The seats step 1 reports as expired. -/
def expiredSeats (seats : List SeatInstance) (now : Time) : List SeatInstance :=
  seats.filter fun i => decide (secondsLeft i.row now ≤ 0) || i.row.status != .held

/-- `MAX_PNR_ATTEMPTS`. -/
def maxPnrAttempts : ℕ := 6

/-- `_unique_pnr`, drawing its candidates from `pnr`. -/
def uniquePnr (db : Db) (pnr : ℕ → String) : Option String :=
  ((List.range maxPnrAttempts).map pnr).find? fun c => (db.bookingRef c).isNone

/-- `sorted(seats, key=lambda s: (s.row_no, s.seat_letter))`. -/
def orderedSeats (seats : List SeatInstance) : List SeatInstance :=
  seats.insertionSort fun i j =>
    i.row.rowNo < j.row.rowNo ∨ (i.row.rowNo = j.row.rowNo ∧ i.row.seatLetter ≤ j.row.seatLetter)

/-- The row step 1 leaves of a seat. -/
def SeatInventory.pinned (r : SeatInventory) (b : BookingId) : SeatInventory :=
  { r with bookingId := some b, version := r.version + 1 }

/-- The passenger row step 1 inserts. -/
def passengerRow (b : BookingId) (id : PassengerId) (p : PassengerIn) (s : SeatInstance) :
    BookingPassenger where
  id := id
  bookingId := b
  givenName := p.givenName
  familyName := p.familyName
  dobEnc := p.dob
  passportEnc := p.passportNumber
  passportLast4 := p.passportNumber.map last4
  seatInventoryId := some s.id

/-- The passenger rows of step 1: passenger by passenger, seat by ordered seat. -/
def passengerRows (b : BookingId) (passengers : List PassengerIn) (seats : List SeatInstance) :
    List BookingPassenger :=
  (passengers.zip seats).mapIdx fun k ps => passengerRow b (b + 1 + k) ps.1 ps.2

/-- The saga step 1 starts. -/
def openedSaga (payload : BookingCreate) (seats : List SeatInstance) (b : BookingId)
    (ref : String) (flightId : FlightId) (flight : Flight) : Saga where
  bookingId := b
  ref := ref
  flightId := flightId
  total := (seats.map fun i => i.row.price).sum
  currency := flight.currency
  state := .pending
  seats := (orderedSeats seats).map fun i => ⟨i.id, i.row.pinned b⟩
  passengers := passengerRows b payload.passengers (orderedSeats seats)
  assessment := default

/-- The booking row step 1 inserts. -/
def Saga.bookingRow (σ : Saga) (userId : UserId) (key : String) (now : Time) : Booking where
  ref := σ.ref
  userId := userId
  flightId := σ.flightId
  state := σ.state
  totalAmount := σ.total
  currency := σ.currency
  idempotencyKey := some key
  createdAt := now

/-- The INSERTs of the booking and its passengers. -/
@[simps -fullyApplied] def insertBooking (db : Db) (b : BookingId) (row : Booking)
    (passengers : List BookingPassenger) : Db :=
  { db with
    booking := Function.update db.booking b (some row)
    bookingRef := Function.update db.bookingRef row.ref (some b)
    passengers := db.passengers ++ passengers }

/-- The database after step 1. -/
def openedDb (db : Db) (σ : Saga) (userId : UserId) (key : String) (now : Time)
    (seats : List SeatInstance) : Db :=
  (((insertBooking db σ.bookingId (σ.bookingRow userId key now) σ.passengers).flushSeats
    (seats.map fun i => (i, i.row.pinned σ.bookingId))).record σ.bookingId .bookingCreated
      (some userId) none (some .pending)
      [("flight_id", .str (uuidText σ.flightId)),
        ("seats", .arr (σ.seats.map fun i => .str i.row.seatNo)),
        ("total_amount", .str (amountText σ.total)), ("currency", .str σ.currency),
        ("idempotency_key", .str key)]).note σ.bookingId .seatsLocked
    [("seat_ids", .arr (σ.seats.map fun i => .str (uuidText i.id)))]

/-- Step 1 of `run`, in one transaction.  The booking gets the UUID `uuid` and
its passengers the ones after it. -/
def openBooking (db : Db) (now : Time) (uuid : ℕ) (userId : UserId) (key : String)
    (payload : BookingCreate) (pnr : ℕ → String) (refTaken : Bool) : Except Failure (Db × Saga) :=
  let seats := lockSeatsForHolds db payload.holdIds userId
  if seats.length ≠ payload.holdIds.length then
    .error (.app (.notFound "One or more holds do not exist or are not yours"))
  else if expiredSeats seats now ≠ [] then
    .error (.app (.holdExpired ("Seat hold expired before checkout completed: " ++
      ", ".intercalate ((expiredSeats seats now).map fun i => i.row.seatNo) ++
      ". Re-select your seats.")))
  else
    match (seats.map fun i => i.row.flightId).dedup with
    | [flightId] =>
      match db.flight flightId with
      | none => .error (.app (.notFound "No such flight"))
      | some flight =>
        match uniquePnr db pnr with
        | none => .error (.runtimeError "could not allocate a unique PNR")
        | some ref =>
          let σ := openedSaga payload seats uuid ref flightId flight
          -- the INSERT casts its values before it looks at the indexes
          if ¬ Numeric σ.total then .error .dataError
          else if refTaken then .error (.integrityError .bookingRef)
          else .ok (openedDb db σ userId key now seats, σ)
    | _ => .error (.app (.seatUnavailable "All seats in one booking must be on the same flight"))

/-! ### A failure before the charge -/

/-- What `_fail_payment` is called with, the payment instance the same
transaction flushes (as loaded, and as assigned), and the error raised after. -/
structure PaymentFailure where
  failureCode : String
  detail : List (String × JsonValue)
  payment : Option (Payment × Payment)
  error : AppError

/-- The branch of step 2 that blocks the payment. -/
def blockedFailure (a : Assessment) : PaymentFailure where
  failureCode := "blocked_by_fraud_controls"
  detail := [("carding", a.asDict)]
  payment := none
  error := .paymentBlocked ("This payment was blocked by our fraud controls. " ++
      "Contact support if you believe this is an error.")
    [("risk_score", .num a.score), ("rules", .arr (a.hits.map fun h => .str h.rule))]

/-- Python's `code or default` on an optional text. -/
def orDefault (code : Option String) (default : String) : String :=
  match code with
  | some c => if c = "" then default else c
  | none => default

/-- The payment a decline leaves. -/
def Payment.declined (pay : Payment) (result : AuthorizationResult) : Payment :=
  { pay with
    state := .declined, providerRef := some result.providerRef
    failureCode := result.failureCode }

/-- The branch of step 3 that records a decline. -/
def declinedFailure (σ : Saga) (pay : Payment) (result : AuthorizationResult) :
    PaymentFailure where
  failureCode := orDefault result.failureCode "declined"
  detail := [("gateway_message", .ofOption .str result.message),
    ("carding", σ.assessment.asDict)]
  payment := some (pay, pay.declined result)
  error := .paymentDeclined ("Payment was declined (" ++ result.failureCode.getD "None" ++
    "). Your seat hold is still active — you can try another card.")

/-- The texts `_fail_payment` flushes to the payment row fit their columns. -/
def PaymentFailure.Writable (f : PaymentFailure) : Prop :=
  ∀ d ∈ f.payment, VarcharOrNull 64 d.2.providerRef ∧ VarcharOrNull 48 d.2.failureCode

instance (f : PaymentFailure) : Decidable f.Writable :=
  inferInstanceAs (Decidable (∀ d ∈ f.payment, _))

theorem blockedFailure_writable (a : Assessment) : (blockedFailure a).Writable := by
  simp [PaymentFailure.Writable, blockedFailure]

theorem declinedFailure_writable {σ : Saga} {pay : Payment} {result : AuthorizationResult} :
    (declinedFailure σ pay result).Writable ↔
      Varchar 64 result.providerRef ∧ VarcharOrNull 48 result.failureCode := by
  simp [PaymentFailure.Writable, declinedFailure, Payment.declined]

/-- The first statements of `_fail_payment`: the guard of the state machine, and the flush of
the payment that `audit.record` makes. -/
def startFailure (σ : Saga) (f : PaymentFailure) : Option Failure :=
  match assertCanTransition σ.state .paymentFailed with
  | some x => some x
  | none => if f.Writable then none else some .dataError

/-- The row `_fail_payment` means to leave of a seat. -/
def SeatInventory.unpinned (r : SeatInventory) : SeatInventory :=
  { r with bookingId := none, version := r.version + 1 }

/-- The SELECT of `_fail_payment`: the rows are chosen by what the database says
now, the instances are the ones the session already has. -/
def failPaymentRows (db : Db) (σ : Saga) : List SeatInstance :=
  (db.seatIds.filter fun s => (db.seat s).bookingId = some σ.bookingId).map fun s =>
    Orm.materialize σ.seats s (db.seat s)

/-- The database after `_fail_payment`. -/
def failedDb (db : Db) (σ : Saga) (f : PaymentFailure) (rows : List SeatInstance) : Db :=
  (((db.flushPayments f.payment).record σ.bookingId .paymentDeclined none (some σ.state)
    (some .paymentFailed) (("failure_code", .str f.failureCode) :: f.detail)).flushBookingState
      σ.bookingId σ.state .paymentFailed).flushSeats (rows.map fun i => (i, i.row.unpinned))

/-- The rest of `_fail_payment`: its last flush and its commit. -/
def failPayment (db : Db) (σ : Saga) (f : PaymentFailure) (rows : List SeatInstance) :
    Except Failure Db :=
  if (failedDb db σ f rows).seatsChecked (rows.map Orm.Instance.id) then
    .ok (failedDb db σ f rows)
  else .error (.integrityError .seatCheck)

/-! ### Around the charge -/

/-- `gateway_key`. -/
def gatewayKey (idempotencyKey : String) : String := idempotencyKey ++ ":auth"

/-- The payment row of step 3. -/
def newPayment (env : Env) (σ : Saga) (id : PaymentId) (provider cardToken key : String) :
    Payment where
  id := id
  bookingId := σ.bookingId
  provider := provider
  providerRef := none
  cardToken := cardToken
  cardFingerprint := env.cardFingerprint cardToken
  cardLast4 := last4 cardToken
  amount := σ.total
  currency := σ.currency
  state := .pending
  failureCode := none
  idempotencyKey := gatewayKey key

/-- The width of the column `payments.idempotency_key`. -/
def idempotencyKeyWidth : ℕ := 128

/-- The INSERT of the payment row. -/
@[simps -fullyApplied] def insertPayment (db : Db) (pay : Payment) : Db :=
  { db with payments := pay :: db.payments }

/-- The transaction that creates the payment.  An accepted `Idempotency-Key` may
fill its column on its own, which leaves no room for what `gatewayKey` appends. -/
def createPayment (db : Db) (pay : Payment) : Except Failure Db :=
  if idempotencyKeyWidth < pay.idempotencyKey.length then .error .dataError
  else .ok (insertPayment db pay)

/-- The arguments of both `authorize` calls. -/
def authorizeRequest (σ : Saga) (pay : Payment) : AuthorizeRequest :=
  ⟨pay.cardToken, σ.total, σ.currency, pay.idempotencyKey⟩

/-- The payment after a first timeout. -/
def Payment.timedOut (pay : Payment) : Payment := { pay with state := .unknown }

/-- The transaction that journals a first timeout. -/
def journalUnknown (db : Db) (σ : Saga) (pay : Payment) : Db :=
  (db.flushPayment pay pay.timedOut).note σ.bookingId .paymentUnknown
    [("note", .str "gateway timed out; retrying with the same idempotency key")]

/-- The payment an approval leaves. -/
def Payment.authorized (pay : Payment) (result : AuthorizationResult) : Payment :=
  { pay with state := .authorized, providerRef := some result.providerRef }

/-- The saga with its booking in another state. -/
def Saga.inState (σ : Saga) (state : BookingState) : Saga := { σ with state := state }

/-- The database after an approval is recorded. -/
def authorizedDb (db : Db) (σ : Saga) (pay : Payment) (result : AuthorizationResult) : Db :=
  ((db.flushPayment pay (pay.authorized result)).record σ.bookingId .paymentAuthorized none
    (some σ.state) (some .paymentAuthorized)
    [("provider_ref", .str result.providerRef), ("amount", .str (amountText σ.total)),
      ("currency", .str σ.currency)]).flushBookingState σ.bookingId σ.state .paymentAuthorized

/-- The transaction that records an approval.  The provider's reference goes to a column of 64
characters. -/
def recordAuthorized (db : Db) (σ : Saga) (pay : Payment) (result : AuthorizationResult) :
    Except Failure Db :=
  match assertCanTransition σ.state .paymentAuthorized with
  | some x => .error x
  | none =>
    if ¬ Varchar 64 result.providerRef then .error .dataError
    else .ok (authorizedDb db σ pay result)

/-! ### Step 4: issue tickets -/

/-- The instances the re-locking SELECT of `_issue_tickets` hands back, in
primary-key order: the rows it locks are already in the identity map. -/
def Saga.locked (σ : Saga) : List SeatInstance :=
  σ.seats.insertionSort fun i j => i.id ≤ j.id

/-- `still_ours`. -/
def Saga.stillOurs (σ : Saga) (userId : UserId) (r : SeatInventory) : Bool :=
  decide (r.bookingId = some σ.bookingId) && decide (r.heldByUserId = some userId)

/-- `lost`: the instances the re-verification rejects. -/
def Saga.lost (σ : Saga) (userId : UserId) : List SeatInstance :=
  σ.locked.filter fun i => !σ.stillOurs userId i.row ||
    (i.row.status == .booked && decide (i.row.bookingId ≠ some σ.bookingId))

/-- The audit rows of the re-verification: one for each hold that lapsed while
the seat was still ours. -/
def noteLapsed (db : Db) (σ : Saga) (userId : UserId) (now : Time) : Db :=
  (σ.locked.filter fun i => σ.stillOurs userId i.row && decide (secondsLeft i.row now ≤ 0)).foldl
    (fun db i => db.note σ.bookingId .holdLost
      [("seat_no", .str i.row.seatNo),
        ("note", .str "hold expired during payment but seat was still free; reclaimed")]) db

/-- The row `_issue_tickets` means to leave of a seat. -/
def SeatInventory.ticketed (r : SeatInventory) (b : BookingId) : SeatInventory :=
  { r with
    status := .booked, holdId := none, holdExpiresAt := none
    bookingId := some b, version := r.version + 1 }

/-- Each passenger with the instance of the seat it was given in step 1, or
`none` when a passenger has no seat among the locked ones. -/
def Saga.assigned (σ : Saga) : Option (List (BookingPassenger × SeatInstance)) :=
  σ.passengers.mapM fun p =>
    (p.seatInventoryId.bind fun s => σ.locked.find? fun i => i.id = s).map fun i => (p, i)

/-- The ticket of one passenger. -/
def newTicket (b : BookingId) (id : TicketId) (now : Time) (number : String)
    (p : BookingPassenger) (i : SeatInstance) : Ticket :=
  ⟨id, b, p.id, i.id, number, now, none⟩

/-- The tickets `_issue_tickets` inserts, numbered from the stream `eTicketNo`. -/
def newTickets (b : BookingId) (uuid : ℕ) (now : Time) (eTicketNo : ℕ → String)
    (assigned : List (BookingPassenger × SeatInstance)) : List Ticket :=
  assigned.mapIdx fun k pi => newTicket b (uuid + k) now (eTicketNo k) pi.1 pi.2

/-- The seat instances `_issue_tickets` dirties. -/
def ticketedSeats (b : BookingId) (assigned : List (BookingPassenger × SeatInstance)) :
    List (SeatInstance × SeatInventory) :=
  assigned.map fun pi => (pi.2, pi.2.row.ticketed b)

/-- The detail of the `TICKETS_ISSUED` row. -/
def issuedDetail (tickets : List Ticket)
    (assigned : List (BookingPassenger × SeatInstance)) : JsonValue :=
  .arr ((tickets.zip assigned).map fun ta =>
    .obj [("seat_no", .str ta.2.2.row.seatNo), ("e_ticket_no", .str ta.1.eTicketNo)])

/-- The INSERT of tickets. -/
@[simps -fullyApplied] def insertTickets (db : Db) (tickets : List Ticket) : Db :=
  { db with tickets := tickets ++ db.tickets }

/-- The database after `_issue_tickets` has issued. -/
def issuedDb (db : Db) (σ : Saga) (tickets : List Ticket)
    (assigned : List (BookingPassenger × SeatInstance)) : Db :=
  (((insertTickets db tickets).flushSeats (ticketedSeats σ.bookingId assigned)).record
    σ.bookingId .ticketsIssued none (some σ.state) (some .ticketed)
    [("tickets", issuedDetail tickets assigned)]).flushBookingState σ.bookingId σ.state .ticketed

/-- The saga after `_issue_tickets` has issued. -/
def Saga.afterIssue (σ : Saga) (assigned : List (BookingPassenger × SeatInstance)) : Saga :=
  { σ with
    state := .ticketed
    seats := σ.seats.map fun i =>
      if i.id ∈ assigned.map fun pi => pi.2.id then ⟨i.id, i.row.ticketed σ.bookingId⟩ else i }

/-- How `_issue_tickets` ends. -/
inductive Issue where
  /-- It committed. -/
  | issued (db : Db) (σ : Saga)
  /-- It raised `TicketingFailed` or `SeatUnavailable`; the transaction is still
  open and holds the audit rows it wrote. -/
  | refused (db : Db) (reason : String)
  /-- It raised anything else, and the transaction rolled back. -/
  | raised (x : Failure)

/-- `_issue_tickets` after its re-verification found nothing lost. -/
def issueAssigned (db : Db) (now : Time) (uuid : ℕ) (σ : Saga) (eTicketNo : ℕ → String)
    (seqTaken : Bool) (assigned : List (BookingPassenger × SeatInstance)) : Issue :=
  let tickets := newTickets σ.bookingId uuid now eTicketNo assigned
  let db' := issuedDb db σ tickets assigned
  if !db.ticketsUnique tickets then .raised (.integrityError .ticketUnique)
  else if !db'.seatsChecked (assigned.map fun pi => pi.2.id) then
    .raised (.integrityError .seatCheck)
  else
    match assertCanTransition σ.state .ticketed with
    | some x => .raised x
    | none =>
      if seqTaken then .raised (.integrityError .auditSeq)
      else .issued db' (σ.afterIssue assigned)

/-- `_issue_tickets`.  The half of the loop that an unseated passenger would
leave in the session is not kept: step 1 seats every passenger. -/
def issueTickets (db : Db) (now : Time) (uuid : ℕ) (σ : Saga) (userId : UserId)
    (cardToken : String) (eTicketNo : ℕ → String) (seqTaken : Bool) : Issue :=
  let db₁ := noteLapsed db σ userId now
  if σ.lost userId ≠ [] then
    .refused (db₁.note σ.bookingId .holdLost
        [("seats", .arr ((σ.lost userId).map fun i => .str i.row.seatNo)),
          ("note", .str "seats taken by another booking during payment")])
      ("Seat(s) " ++ ", ".intercalate ((σ.lost userId).map fun i => i.row.seatNo) ++
        " were taken while your payment was processing.")
  else if triggerFor cardToken = .ticketingFailure then
    .refused (db₁.note σ.bookingId .ticketingFailed
        [("reason", .str "downstream ticketing system rejected the request")])
      "Ticket issuance failed after payment was authorized."
  else
    match σ.assigned with
    | none => .refused db₁ "passenger has no seat assigned; refusing to issue a ticket"
    | some assigned => issueAssigned db₁ now uuid σ eTicketNo seqTaken assigned

/-! ### Compensation -/

/-- The database after the first transaction of `_compensate`. -/
def compensatingDb (db : Db) (σ : Saga) (pay : Payment) (reason : String) : Db :=
  (db.record σ.bookingId .compensationStarted none (some σ.state) (some .compensating)
    [("reason", .str reason), ("provider_ref", .ofOption .str pay.providerRef)]).flushBookingState
      σ.bookingId σ.state .compensating

/-- The first transaction of `_compensate`, which also commits what
`_issue_tickets` left open. -/
def startCompensation (db : Db) (σ : Saga) (pay : Payment) (reason : String) :
    Except Failure Db :=
  match assertCanTransition σ.state .compensating with
  | some x => .error x
  | none => .ok (compensatingDb db σ pay reason)

/-- The payment a successful reversal leaves, and the event it is journalled as. -/
def Payment.reversed (pay : Payment) : Payment × AuditEventType :=
  if pay.state = .captured then ({ pay with state := .refunded }, .paymentRefunded)
  else ({ pay with state := .voided }, .paymentVoided)

/-- The database after a successful reversal is recorded. -/
def voidedDb (db : Db) (σ : Saga) (pay : Payment) (now : Time) : Db :=
  let journalled := (db.flushPayment pay pay.reversed.1).note σ.bookingId pay.reversed.2
    [("provider_ref", .ofOption .str pay.providerRef)]
  let released := releaseSeatsForBooking journalled σ.bookingId now
  (released.1.note σ.bookingId .seatsReleased
    [("seats_released", .num released.2)]).flushBookingState σ.bookingId σ.state .voided

/-- The last transaction of `_compensate` after the reversal succeeded. -/
def finishVoided (db : Db) (σ : Saga) (pay : Payment) (now : Time) : Except Failure Db :=
  match assertCanTransition σ.state .voided with
  | some x => .error x
  | none => .ok (voidedDb db σ pay now)

/-- The last transaction of `_compensate` after the reversal failed. -/
def finishReview (db : Db) (σ : Saga) (pay : Payment) (error : String) (now : Time) : Db :=
  let journalled := db.record σ.bookingId .compensationFailed none (some σ.state)
    (some .needsManualReview)
    [("error", .str error), ("provider_ref", .ofOption .str pay.providerRef),
      ("amount", .str (amountText pay.amount)),
      ("note", .str "money is still with the provider; requires operator action")]
  let released := releaseSeatsForBooking
    (journalled.flushBookingState σ.bookingId σ.state .needsManualReview) σ.bookingId now
  released.1.note σ.bookingId .seatsReleased
    [("seats_released", .num released.2), ("note", .str "released despite refund failure")]

/-- The error `run` raises once `_compensate` has returned. -/
def compensatedError (reason : String) : AppError :=
  .bookingCompensated (reason ++
    " Your card was not charged — the authorization has been reversed.")

/-! ### Step 5: confirm -/

/-- The payment a capture leaves. -/
def Payment.capturedState (pay : Payment) : Payment := { pay with state := .captured }

/-- The database after the booking is confirmed. -/
def confirmedDb (db : Db) (σ : Saga) (pay : Payment) : Db :=
  ((db.flushPayment pay pay.capturedState).record σ.bookingId .bookingConfirmed none
    (some σ.state) (some .confirmed) [("pnr", .str σ.ref)]).flushBookingState σ.bookingId
      σ.state .confirmed

/-- The transaction that confirms the booking. -/
def confirm (db : Db) (σ : Saga) (pay : Payment) (seqTaken : Bool) : Except Failure Db :=
  match assertCanTransition σ.state .confirmed with
  | some x => .error x
  | none =>
    if seqTaken then .error (.integrityError .auditSeq)
    else .ok (confirmedDb db σ pay)

/-- `seats_by_passenger`. -/
def Saga.seatOf (σ : Saga) (p : PassengerId) : Option String :=
  (σ.passengers.find? fun q => q.id = p).bind fun q =>
    q.seatInventoryId.bind fun s =>
      (σ.seats.find? fun i => i.id = s).map fun i => i.row.seatNo

/-- `_booking_payload`, on the booking as refreshed from the database. -/
def bookingPayload (db : Db) (σ : Saga) (row : Booking) : JsonValue :=
  .obj [("ref", .str row.ref), ("state", .str row.state.value),
    ("flight_id", .str (uuidText row.flightId)),
    ("total_amount", .str (amountText row.totalAmount)), ("currency", .str row.currency),
    ("passengers", .arr ((db.passengersOf σ.bookingId).map fun p =>
      .obj [("id", .str (uuidText p.id)), ("given_name", .str p.givenName),
        ("family_name", .str p.familyName), ("seat_no", .ofOption .str (σ.seatOf p.id)),
        ("passport_last4", .ofOption .str p.passportLast4)])),
    ("tickets", .arr ((db.tickets.filter fun t =>
        decide (t.bookingId = σ.bookingId) && t.live).map fun t =>
      .obj [("e_ticket_no", .str t.eTicketNo),
        ("seat_no", .ofOption .str (σ.seatOf t.passengerId)),
        ("issued_at", .num t.issuedAt)])),
    ("created_at", .num row.createdAt)]

/-! ### Cancellation -/

/-- `owned_booking`: the booking with this reference, if it is the user's. -/
def ownedBooking (db : Db) (ref : String) (userId : UserId) : Option (BookingId × Booking) :=
  (db.bookingRef ref).bind fun b =>
    (db.booking b).bind fun row => if row.userId = userId then some (b, row) else none

/-- The payment `cancel` means to refund: the newest that is authorized or captured. -/
def findPayment (db : Db) (b : BookingId) : Option Payment :=
  db.payments.find? fun p =>
    decide (p.bookingId = b) && (p.state == .authorized || p.state == .captured)

/-- The payment a refund leaves. -/
def Payment.refundedState (pay : Payment) : Payment := { pay with state := .refunded }

/-- The database after a cancellation. -/
def cancelledDb (db : Db) (b : BookingId) (state : BookingState) (userId : UserId)
    (refunded : Option Payment) (now : Time) : Db :=
  let released := releaseSeatsForBooking db b now
  let paid := released.1.flushPayments (refunded.map fun pay => (pay, pay.refundedState))
  (paid.record b .bookingCancelled (some userId) (some state) (some .cancelled)
    [("seats_released", .num released.2), ("refunded", .bool refunded.isSome)]).flushBookingState b
      state .cancelled

/-- The last transaction of `cancel`, on a booking instance loaded in state
`state`, the refunded payment being `refunded`. -/
def finishCancel (db : Db) (b : BookingId) (state : BookingState) (userId : UserId)
    (refunded : Option Payment) (now : Time) (seqTaken : Bool) : Except Failure (Db × ℕ) :=
  match assertCanTransition state .cancelled with
  | some x => .error x
  | none =>
    if seqTaken then .error (.integrityError .auditSeq)
    else .ok (cancelledDb db b state userId refunded now, (releaseSeatsForBooking db b now).2)

/-- The database after a cancellation whose refund failed. -/
def reviewedDb (db : Db) (b : BookingId) (state : BookingState) (error : String) : Db :=
  (db.record b .compensationFailed none (some state) (some .needsManualReview)
    [("error", .str error), ("stage", .str "cancellation_refund")]).flushBookingState b state
      .needsManualReview

/-- The transaction of `cancel` after its refund failed. -/
def reviewCancel (db : Db) (b : BookingId) (state : BookingState) (error : String)
    (seqTaken : Bool) : Except Failure Db :=
  if seqTaken then .error (.integrityError .auditSeq)
  else .ok (reviewedDb db b state error)

/-- The error `cancel` raises after its refund failed. -/
def refundPendingError : AppError :=
  .bookingCompensated ("We could not process the refund automatically. " ++
    "Your booking is flagged for manual review.")

/-- What `cancel` returns. -/
def cancelPayload (ref : String) (refunded : Bool) (released : ℕ) : JsonValue :=
  .obj [("ref", .str ref), ("state", .str BookingState.cancelled.value),
    ("refunded", .bool refunded), ("seats_released", .num released)]

end SkyLock
