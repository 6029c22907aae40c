import Mathlib.Data.List.Basic

/-!
# The vocabularies of the service

The string enumerations of `app/domain/enums.py`, with the text each member
stands for where that text reaches a row or a message, and the state machine of
a booking.

## Main definitions

* `BookingState`, `terminalBookingStates`, `allowedTransitions` — the saga's
  state machine.
* `SeatStatus`, `PaymentState`, `IdempotencyState`, `AuditEventType` — the rest.
-/

namespace SkyLock

/-- `SeatStatus`. -/
inductive SeatStatus where
  | available | held | booked
  deriving DecidableEq, Repr, Inhabited

/-- `BookingState`. -/
inductive BookingState where
  | pending
  | paymentAuthorized
  | ticketed
  | confirmed
  | paymentFailed
  | compensating
  | voided
  | cancelled
  | needsManualReview
  deriving DecidableEq, Repr, Inhabited

/-- The text of a booking state. -/
def BookingState.value : BookingState → String
  | .pending => "PENDING"
  | .paymentAuthorized => "PAYMENT_AUTHORIZED"
  | .ticketed => "TICKETED"
  | .confirmed => "CONFIRMED"
  | .paymentFailed => "PAYMENT_FAILED"
  | .compensating => "COMPENSATING"
  | .voided => "VOIDED"
  | .cancelled => "CANCELLED"
  | .needsManualReview => "NEEDS_MANUAL_REVIEW"

/-- `TERMINAL_BOOKING_STATES`. -/
def terminalBookingStates : List BookingState :=
  [.confirmed, .paymentFailed, .voided, .cancelled, .needsManualReview]

/-- `ALLOWED_TRANSITIONS`. -/
def allowedTransitions : BookingState → List BookingState
  | .pending => [.paymentAuthorized, .paymentFailed, .compensating]
  | .paymentAuthorized => [.ticketed, .compensating]
  | .ticketed => [.confirmed, .compensating]
  | .confirmed => [.cancelled]
  | .compensating => [.voided, .needsManualReview]
  | .paymentFailed => []
  | .voided => []
  | .cancelled => []
  | .needsManualReview => [.voided, .cancelled]

/-- `PaymentState`. -/
inductive PaymentState where
  | pending | authorized | captured | declined | voided | refunded | unknown
  deriving DecidableEq, Repr, Inhabited

/-- `IdempotencyState`. -/
inductive IdempotencyState where
  | inProgress | completed
  deriving DecidableEq, Repr, Inhabited

/-- `AuditEventType`. -/
inductive AuditEventType where
  | bookingCreated
  | seatsLocked
  | paymentAuthorized
  | paymentDeclined
  | paymentUnknown
  | ticketsIssued
  | ticketingFailed
  | bookingConfirmed
  | compensationStarted
  | paymentVoided
  | paymentRefunded
  | compensationFailed
  | seatsReleased
  | holdLost
  | bookingCancelled
  | passengerUpdated
  deriving DecidableEq, Repr, Inhabited

/-- `Decision`. -/
inductive Decision where
  | allow | challenge | block
  deriving DecidableEq, Repr, Inhabited

/-- The text of a decision. -/
def Decision.value : Decision → String
  | .allow => "allow"
  | .challenge => "challenge"
  | .block => "block"

end SkyLock
