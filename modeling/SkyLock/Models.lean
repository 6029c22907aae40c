import Mathlib.Logic.Function.Basic
import SkyLock.Errors
import SkyLock.Lib.Orm

/-!
# The tables

The rows of `app/domain/models.py` that holding, booking, paying and cancelling
read or write, the database they make up, and its constraints.  A UUID is a
natural number; a timestamp counts microseconds; an amount is a `NUMERIC(12,2)`
as its number of cents, on which `money` of `app/domain/money.py` is the
identity.

The inventory is fixed at run time, so `seat_inventory` is a function on the
primary keys listed in `seatIds`; the other tables grow by insertion.

## Main definitions

* `Varchar`, `Numeric` — a value fits a column type.
* `SeatInventory`, `Booking`, `BookingPassenger`, `Payment`, `Ticket`,
  `IdempotencyKey`, `BookingAudit` — the rows.
* `Db` — the committed state of the database.
* `SeatInventory.checks`, `Db.ticketsUnique` — the constraints a flush can break.
* `SeatInventory.merge`, `Payment.merge` — what a flush writes to a row.
* `Db.record` — one audit row.
-/

namespace SkyLock

abbrev UserId := ℕ
abbrev FlightId := ℕ
abbrev SeatId := ℕ
abbrev HoldId := ℕ
abbrev BookingId := ℕ
abbrev PassengerId := ℕ
abbrev PaymentId := ℕ
abbrev TicketId := ℕ

/-- A timestamp, in microseconds. -/
abbrev Time := ℕ

/-- An amount of money, in cents. -/
abbrev Cents := ℕ

/-- `str(amount)` of an amount. -/
def amountText (n : Cents) : String :=
  toString (n / 100) ++ "." ++ (if n % 100 < 10 then "0" else "") ++ toString (n % 100)

/-- `str(uuid)`.  All that matters of it is that distinct UUIDs have distinct texts. -/
def uuidText (n : ℕ) : String := toString n

/-- Distinct UUIDs have distinct texts. -/
theorem uuidText_injective : Function.Injective uuidText := by
  intro m n h
  have hlist : Nat.toDigits 10 m = Nat.toDigits 10 n := by
    simpa [uuidText, Nat.toList_repr] using congrArg String.toList h
  rw [← Nat.ofDigitChars_toDigits (n := m) (b := 10) (by omega) (by omega), hlist,
    Nat.ofDigitChars_toDigits (by omega) (by omega)]

/-- `timedelta(seconds=n)`. -/
def seconds (n : ℕ) : Time := n * 1000000

/-! ### Column types -/

/-- The text fits a `VARCHAR(n)`. -/
def Varchar (n : ℕ) (t : String) : Prop := t.length ≤ n

instance (n : ℕ) (t : String) : Decidable (Varchar n t) := inferInstanceAs (Decidable (_ ≤ _))

/-- The text, where there is one, fits a `VARCHAR(n)`. -/
def VarcharOrNull (n : ℕ) (t : Option String) : Prop := ∀ x ∈ t, Varchar n x

theorem VarcharOrNull.none (n : ℕ) : VarcharOrNull n none := by simp [VarcharOrNull]

@[simp] theorem varcharOrNull_some {n : ℕ} {t : String} :
    VarcharOrNull n (some t) ↔ Varchar n t := by
  simp [VarcharOrNull]

theorem VarcharOrNull.some {n : ℕ} {t : String} (h : Varchar n t) : VarcharOrNull n (some t) :=
  varcharOrNull_some.mpr h

instance (n : ℕ) : DecidablePred (VarcharOrNull n)
  | none => isTrue (.none n)
  | some t => decidable_of_iff (Varchar n t) ⟨.some, fun h => h t rfl⟩

/-- The largest `NUMERIC(12,2)`, in cents. -/
def maxAmount : Cents := 999999999999

/-- The amount fits a `NUMERIC(12,2)`. -/
def Numeric (n : Cents) : Prop := n ≤ maxAmount

instance (n : Cents) : Decidable (Numeric n) := inferInstanceAs (Decidable (_ ≤ _))

/-! ### The rows -/

/-- The columns of `Flight` the booking path reads. -/
structure Flight where
  currency : String
  deriving DecidableEq, Repr, Inhabited

/-- `SeatInventory`: the contended row. -/
structure SeatInventory where
  flightId : FlightId
  seatNo : String
  rowNo : ℕ
  seatLetter : Char
  price : Cents
  status : SeatStatus
  heldByUserId : Option UserId
  holdId : Option HoldId
  holdExpiresAt : Option Time
  bookingId : Option BookingId
  version : ℕ
  deriving DecidableEq, Repr, Inhabited

namespace SeatInventory

/-- `ck_held_seat_has_holder` and `ck_booked_seat_has_booking`. -/
def checks (r : SeatInventory) : Bool :=
  (r.status != .held || (r.heldByUserId.isSome && r.holdExpiresAt.isSome && r.holdId.isSome)) &&
    (r.status != .booked || r.bookingId.isSome)

/-- What a flush of an instance loaded as `loaded` and now reading `current`
leaves of the row `stored`. -/
def merge (loaded current stored : SeatInventory) : SeatInventory where
  flightId := Orm.writeBack loaded.flightId current.flightId stored.flightId
  seatNo := Orm.writeBack loaded.seatNo current.seatNo stored.seatNo
  rowNo := Orm.writeBack loaded.rowNo current.rowNo stored.rowNo
  seatLetter := Orm.writeBack loaded.seatLetter current.seatLetter stored.seatLetter
  price := Orm.writeBack loaded.price current.price stored.price
  status := Orm.writeBack loaded.status current.status stored.status
  heldByUserId := Orm.writeBack loaded.heldByUserId current.heldByUserId stored.heldByUserId
  holdId := Orm.writeBack loaded.holdId current.holdId stored.holdId
  holdExpiresAt := Orm.writeBack loaded.holdExpiresAt current.holdExpiresAt stored.holdExpiresAt
  bookingId := Orm.writeBack loaded.bookingId current.bookingId stored.bookingId
  version := Orm.writeBack loaded.version current.version stored.version

/-- Over a row that has not moved since it was loaded, a flush is an assignment. -/
@[simp] theorem merge_fresh (current stored : SeatInventory) :
    merge stored current stored = current := by
  simp [merge]

end SeatInventory

/-- A seat row loaded into a session. -/
abbrev SeatInstance := Orm.Instance SeatInventory

/-- `Booking`. -/
structure Booking where
  ref : String
  userId : UserId
  flightId : FlightId
  state : BookingState
  totalAmount : Cents
  currency : String
  idempotencyKey : Option String
  createdAt : Time
  deriving DecidableEq, Repr, Inhabited

/-- What a flush of a booking instance leaves of its row.  Once the row exists,
the services assign its state and nothing else. -/
def Booking.merge (loaded current : BookingState) (stored : Booking) : Booking :=
  { stored with state := Orm.writeBack loaded current stored.state }

/-- `BookingPassenger`. -/
structure BookingPassenger where
  id : PassengerId
  bookingId : BookingId
  givenName : String
  familyName : String
  dobEnc : Option String
  passportEnc : Option String
  passportLast4 : Option String
  seatInventoryId : Option SeatId
  deriving DecidableEq, Repr, Inhabited

/-- `Payment`. -/
structure Payment where
  id : PaymentId
  bookingId : BookingId
  provider : String
  providerRef : Option String
  cardToken : String
  cardFingerprint : String
  cardLast4 : String
  amount : Cents
  currency : String
  state : PaymentState
  failureCode : Option String
  idempotencyKey : String
  deriving DecidableEq, Repr, Inhabited

/-- What a flush of a payment instance leaves of its row.  The saga assigns
these three columns and no others. -/
def Payment.merge (loaded current stored : Payment) : Payment :=
  { stored with
    state := Orm.writeBack loaded.state current.state stored.state
    providerRef := Orm.writeBack loaded.providerRef current.providerRef stored.providerRef
    failureCode := Orm.writeBack loaded.failureCode current.failureCode stored.failureCode }

/-- `Ticket`. -/
structure Ticket where
  id : TicketId
  bookingId : BookingId
  passengerId : PassengerId
  seatInventoryId : SeatId
  eTicketNo : String
  issuedAt : Time
  voidedAt : Option Time
  deriving DecidableEq, Repr, Inhabited

/-- A live ticket: `voided_at IS NULL`. -/
def Ticket.live (t : Ticket) : Bool := t.voidedAt.isNone

/-- `IdempotencyKey`, keyed by `(key, user_id)`. -/
structure IdempotencyKey where
  endpoint : String
  requestHash : String
  state : IdempotencyState
  responseStatus : Option ℕ
  responseBody : Option JsonValue
  expiresAt : Time
  deriving Inhabited

/-- `BookingAudit`. -/
structure BookingAudit where
  bookingId : BookingId
  seq : ℕ
  eventType : AuditEventType
  actorType : String
  actorId : Option UserId
  fromState : Option BookingState
  toState : Option BookingState
  detail : JsonValue
  deriving Inhabited

/-- The committed state of the database.  `bookingRef` is the unique index on
`bookings.ref`; payments and audit rows are listed newest first. -/
structure Db where
  seatIds : List SeatId
  seat : SeatId → SeatInventory
  flight : FlightId → Option Flight
  booking : BookingId → Option Booking
  bookingRef : String → Option BookingId
  passengers : List BookingPassenger
  payments : List Payment
  tickets : List Ticket
  audit : List BookingAudit
  claims : String × UserId → Option IdempotencyKey

namespace Db

/-! ### Statements the services share -/

/-- `UPDATE seat_inventory SET ... WHERE ...`. -/
@[simps -fullyApplied] def updateSeats (db : Db) (p : SeatId → SeatInventory → Bool)
    (f : SeatInventory → SeatInventory) : Db :=
  { db with seat := fun s => if p s (db.seat s) then f (db.seat s) else db.seat s }

/-- The flush of dirty seat instances, each paired with its current attributes. -/
@[simps -fullyApplied] def flushSeats (db : Db) (dirty : List (SeatInstance × SeatInventory)) : Db :=
  { db with seat := Orm.flush SeatInventory.merge dirty db.seat }

/-- The flush of a booking instance whose state was assigned. -/
@[simps -fullyApplied] def flushBookingState (db : Db) (b : BookingId)
    (loaded current : BookingState) : Db :=
  { db with booking := fun k =>
      if k = b then (db.booking k).map (Booking.merge loaded current) else db.booking k }

/-- The flush of a payment instance. -/
@[simps -fullyApplied] def flushPayment (db : Db) (loaded current : Payment) : Db :=
  { db with payments := db.payments.map fun r =>
      if r.id = loaded.id then Payment.merge loaded current r else r }

/-- The flush of a session in which at most one payment instance is dirty. -/
@[simps -fullyApplied] def flushPayments (db : Db) (dirty : Option (Payment × Payment)) : Db :=
  { db with payments := match dirty with
      | some (loaded, current) => (db.flushPayment loaded current).payments
      | none => db.payments }

/-- The passenger rows of a booking. -/
def passengersOf (db : Db) (b : BookingId) : List BookingPassenger :=
  db.passengers.filter fun p => p.bookingId = b

/-- The un-voided tickets. -/
def liveTickets (db : Db) : List Ticket := db.tickets.filter Ticket.live

/-! ### Constraints -/

/-- Every seat row in the list satisfies its CHECK constraints. -/
def seatsChecked (db : Db) (ids : List SeatId) : Bool :=
  ids.all fun s => (db.seat s).checks

/-- The tickets can be inserted: the two partial unique indexes on live tickets
and the unique `e_ticket_no` admit them. -/
def ticketsUnique (db : Db) (new : List Ticket) : Bool :=
  decide ((new ++ db.liveTickets).map Ticket.seatInventoryId).Nodup &&
    (decide ((new ++ db.liveTickets).map Ticket.passengerId).Nodup &&
      (decide (new.map Ticket.eTicketNo).Nodup &&
        new.all fun t => decide (t.eTicketNo ∉ db.tickets.map Ticket.eTicketNo)))

/-! ### The audit trail -/

/-- `coalesce(max(seq), 0) + 1` over the booking's audit rows. -/
def nextSeq (db : Db) (b : BookingId) : ℕ :=
  ((db.audit.filter fun a => a.bookingId = b).map BookingAudit.seq).foldr max 0 + 1

/-- `audit.record`, flushed. -/
@[simps -fullyApplied] def record (db : Db) (b : BookingId) (eventType : AuditEventType)
    (actorId : Option UserId) (fromState toState : Option BookingState)
    (detail : List (String × JsonValue)) : Db :=
  { db with audit :=
      { bookingId := b, seq := db.nextSeq b, eventType := eventType
        actorType := if actorId.isSome then "user" else "system"
        actorId := actorId, fromState := fromState, toState := toState
        detail := .obj detail } :: db.audit }

/-- `audit.record` of a system event that changes no state. -/
def note (db : Db) (b : BookingId) (eventType : AuditEventType)
    (detail : List (String × JsonValue)) : Db :=
  db.record b eventType none none none detail

end Db

end SkyLock
