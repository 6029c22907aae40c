import SkyLock.Enums
import SkyLock.Lib.Json

/-!
# Errors

The problem+json errors of `app/errors.py` that the booking and hold endpoints
can answer with, the two exceptions of the payment gateway, and the exceptions
nothing in the request path describes, which surface as a 500.

## Main definitions

* `AppError`, `AppError.toProblem` — an error the API knows how to describe.
* `Failure` — how a request handler's work can end other than by returning.
* `assertCanTransition`, `requireState` — the two guards of the state machine.
-/

namespace SkyLock

/-- `AppError`: the class attributes of the subclass raised, and the instance's
detail and extra members. -/
structure AppError where
  statusCode : ℕ
  code : String
  title : String
  detail : String
  extra : List (String × JsonValue)
  deriving Inhabited

namespace AppError

/-- `AppError.to_problem`. -/
def toProblem (e : AppError) (path : String) : JsonValue :=
  .obj ([("type", .str ("https://skylock.dev/problems/" ++ e.code)),
    ("title", .str e.title),
    ("status", .num e.statusCode),
    ("detail", .str e.detail),
    ("code", .str e.code),
    ("instance", .str path)] ++ e.extra)

/-- A subclass of `AppError` raised with a detail and no extra members. -/
def raised (statusCode : ℕ) (code title detail : String) : AppError :=
  ⟨statusCode, code, title, detail, []⟩

/-- `NotFound`. -/
def notFound (detail : String) : AppError :=
  raised 404 "not_found" "Resource not found" detail

/-- `SeatUnavailable`. -/
def seatUnavailable (detail : String) : AppError :=
  raised 409 "seat_unavailable" "Seat is not available" detail

/-- `HoldExpired`. -/
def holdExpired (detail : String) : AppError :=
  raised 409 "hold_expired" "Seat hold has expired" detail

/-- `TooManyHolds`. -/
def tooManyHolds (detail : String) : AppError :=
  raised 409 "too_many_holds" "Too many active seat holds" detail

/-- `PaymentDeclined`. -/
def paymentDeclined (detail : String) : AppError :=
  raised 402 "payment_declined" "Payment was declined" detail

/-- `BookingCompensated`. -/
def bookingCompensated (detail : String) : AppError :=
  raised 409 "booking_compensated" "Booking could not be completed and was reversed" detail

/-- `RequestInFlight`. -/
def requestInFlight (detail : String) : AppError :=
  raised 409 "request_in_flight" "An identical request is still being processed" detail

/-- `IdempotencyKeyReused`. -/
def idempotencyKeyReused (detail : String) : AppError :=
  raised 422 "idempotency_key_reused" "Idempotency key was reused with a different request body"
    detail

/-- `InvalidStateTransition`. -/
def invalidStateTransition (detail : String) : AppError :=
  raised 409 "invalid_state_transition" "Operation not allowed in the booking's current state"
    detail

/-- `PaymentBlocked`, which the saga raises with two extra members. -/
def paymentBlocked (detail : String) (extra : List (String × JsonValue)) : AppError :=
  ⟨403, "payment_blocked", "Payment blocked by fraud controls", detail, extra⟩

end AppError

/-- The constraint behind an `IntegrityError`. -/
inductive Violation where
  /-- `ck_held_seat_has_holder` or `ck_booked_seat_has_booking`. -/
  | seatCheck
  /-- `uq_ticket_live_per_seat`, `uq_ticket_live_per_passenger` or `e_ticket_no`. -/
  | ticketUnique
  /-- `uq_audit_seq`. -/
  | auditSeq
  /-- The unique index on `bookings.ref`. -/
  | bookingRef
  deriving DecidableEq, Repr

/-- How the work of a request can end other than by returning. -/
inductive Failure where
  /-- An error the API describes. -/
  | app (e : AppError)
  /-- `IllegalTransition`. -/
  | illegalTransition (current target : BookingState)
  /-- SQLAlchemy's `IntegrityError`. -/
  | integrityError (v : Violation)
  /-- SQLAlchemy's `DataError`: a text longer than its column. -/
  | dataError
  /-- `PaymentTimeout`. -/
  | paymentTimeout
  /-- `RuntimeError`. -/
  | runtimeError (message : String)
  deriving Inhabited

/-- `assert_can_transition`: the exception it raises, if it raises one. -/
def assertCanTransition (current target : BookingState) : Option Failure :=
  if target ∈ allowedTransitions current then none else some (.illegalTransition current target)

/-- `require_state`: the error it raises, if it raises one. -/
def requireState (current : BookingState) (expected : List BookingState) : Option AppError :=
  if current ∈ expected then none
  else some (.invalidStateTransition ("Booking is " ++ current.value ++
    "; this operation requires " ++ " or ".intercalate (expected.map BookingState.value)))

end SkyLock
