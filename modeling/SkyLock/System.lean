import SkyLock.BookingSaga
import SkyLock.Idempotency
import SkyLock.Lib.Concurrent

/-!
# The service as a system of requests

Every request is a process whose program counter walks through the statements
and transactions of its handler; the shared state is the committed database, the
payment gateway, and the locks that open transactions hold between two steps.
Anything the outside world decides (arrivals, the passage of time, random draws)
is the input of a step, and a process that has to wait for a lock cannot move.

A handler that raises an `AppError` answers with its problem document; any other
exception is a 500.  A crash is a process that never moves again.

## Main definitions

* `Shared` — the shared state, with the history of gateway calls.
* `Request`, `Draws`, `Input` — what the outside world decides.
* `Proc`, `BookingPc`, `HoldPc`, `ReleasePc`, `CancelPc`, `SweepPc` — the local
  states: `create_booking`, `create_hold`, `release_hold`, `cancel_booking`,
  `sweep_expired_holds`.
* `service` — the system; `initialWorld` — its initial states.
-/

namespace SkyLock

open Concurrent

/-! ### The shared state -/

/-- The state all requests share. -/
structure Shared (G : Type) where
  /-- The one clock of the application and the database. -/
  clock : Time
  /-- The committed state. -/
  db : Db
  gateway : G
  /-- The gateway calls so far, newest first. -/
  calls : List GatewayCall
  /-- The row locks on `seat_inventory` held by transactions that are open
  between two steps. -/
  locks : SeatId → Option ℕ
  /-- The same for the rows of `idempotency_keys`, inserted rows included. -/
  claimLocks : String × UserId → Option ℕ
  /-- The next UUID `uuid4` returns. -/
  uuid : ℕ

namespace Shared

variable {G : Type}

/-- The rows in the list are not locked by another transaction. -/
def seatsFree (s : Shared G) (p : ℕ) (ids : List SeatId) : Bool :=
  ids.all fun k => decide (s.locks k = none ∨ s.locks k = some p)

/-- The row is not locked by another transaction. -/
def claimFree (s : Shared G) (p : ℕ) (k : String × UserId) : Bool :=
  decide (s.claimLocks k = none ∨ s.claimLocks k = some p)

/-- Commit a transaction that leaves the database as `db`. -/
@[simps -fullyApplied] def withDb (s : Shared G) (db : Db) : Shared G := { s with db := db }

/-- Take UUIDs. -/
@[simps -fullyApplied] def drawUuids (s : Shared G) (n : ℕ) : Shared G := { s with uuid := s.uuid + n }

/-- Record a gateway call. -/
@[simps -fullyApplied] def called (s : Shared G) (gateway : G) (call : GatewayCall) : Shared G :=
  { s with gateway := gateway, calls := call :: s.calls }

/-- Take the lock of a claim. -/
@[simps -fullyApplied] def lockClaim (s : Shared G) (p : ℕ) (k : String × UserId) : Shared G :=
  { s with claimLocks := Function.update s.claimLocks k (some p) }

/-- End a transaction on a claim: the row becomes `claim`, its lock is dropped. -/
@[simps -fullyApplied] def setClaim (s : Shared G) (k : String × UserId)
    (claim : Option IdempotencyKey) : Shared G :=
  { s with
    db := { s.db with claims := Function.update s.db.claims k claim }
    claimLocks := Function.update s.claimLocks k none }

/-- Lock the seat rows pinned to a booking. -/
@[simps -fullyApplied] def lockSeatsOf (s : Shared G) (p : ℕ) (b : BookingId) : Shared G :=
  { s with locks := fun k => if (s.db.seat k).bookingId = some b then some p else s.locks k }

/-- Drop every seat lock of a process. -/
@[simps -fullyApplied] def unlockSeats (s : Shared G) (p : ℕ) : Shared G :=
  { s with locks := fun k => if s.locks k = some p then none else s.locks k }

end Shared

/-! ### What the outside world decides -/

/-- A `POST /bookings` request. -/
structure BookingRequest where
  userId : UserId
  key : String
  payload : BookingCreate

/-- The key of the request's claim. -/
def BookingRequest.claimKey (r : BookingRequest) : String × UserId := (r.key, r.userId)

/-- A `POST /holds` request. -/
structure HoldRequest where
  userId : UserId
  flightId : FlightId
  seatNo : String
  deriving DecidableEq

/-- A `DELETE /holds/{hold_id}` request. -/
structure ReleaseRequest where
  userId : UserId
  holdId : HoldId
  deriving DecidableEq

/-- A `POST /bookings/{booking_ref}/cancel` request. -/
structure CancelRequest where
  userId : UserId
  ref : String
  deriving DecidableEq

/-- What can arrive. -/
inductive Request where
  | createBooking (r : BookingRequest)
  | createHold (r : HoldRequest)
  | deleteHold (r : ReleaseRequest)
  | cancelBooking (r : CancelRequest)
  | sweep

/-- What one step draws from outside the database. -/
structure Draws where
  /-- The candidates `generate_pnr` returns. -/
  pnr : ℕ → String
  /-- Another transaction committed the booking reference this one chose. -/
  refTaken : Bool
  /-- The numbers `generate_eticket_number` returns. -/
  eTicketNo : ℕ → String
  /-- What the fraud controls make of the attempt. -/
  assessment : Assessment
  /-- Another transaction committed the audit number this one read. -/
  seqTaken : Bool
  /-- The rows the snapshot of a multi-row UPDATE did not match. -/
  missed : SeatId → Bool

/-- The input of a step. -/
inductive Input where
  /-- Time passes. -/
  | tick (d : ℕ)
  /-- A request arrives. -/
  | arrive (r : Request)
  /-- A request runs its next statement or transaction. -/
  | go (x : Draws)

/-! ### Local states -/

/-- How a handler ends. -/
inductive Reply where
  /-- It returned a response. -/
  | json (status : ℕ) (body : JsonValue) (replayed : Bool)
  /-- It raised an `AppError`. -/
  | problem (e : AppError)
  /-- It raised anything else: a 500. -/
  | serverError (x : Failure)
  deriving Inhabited

/-- The status code the client sees. -/
def Reply.status : Reply → ℕ
  | .json status _ _ => status
  | .problem e => e.statusCode
  | .serverError _ => 500

/-- The JSON body the client sees, as `_app_error` builds it for an `AppError`. -/
def Reply.body (path : String) : Reply → JsonValue
  | .json _ body _ => body
  | .problem e => e.toProblem path
  | .serverError _ => .null

/-- The known outcome of a saga, which `create_booking` records. -/
inductive Outcome where
  | returned (status : ℕ) (body : JsonValue)
  | appError (e : AppError)

/-- The path of `create_booking`. -/
def bookingsPath : String := "/bookings"

/-- The status and body `create_booking` records for an outcome. -/
def Outcome.recorded : Outcome → ℕ × JsonValue
  | .returned status body => (status, body)
  | .appError e => (e.statusCode, e.toProblem bookingsPath)

/-- The reply to the request that ran the saga. -/
def Outcome.reply : Outcome → Reply
  | .returned status body => .json status body false
  | .appError e => .problem e

/-- Where a `create_booking` request is: at the statements of `begin`, at the
transactions and gateway calls of `run`, at `complete` or `release`, or done.
From `completeSelect` on, the booking the request created is kept for the
statements about it. -/
inductive BookingPc where
  | beginDelete (now : Time)
  | beginInsert (now : Time) (deleted : Bool)
  | beginCommit (now : Time) (deleted claimed : Bool)
  | beginSelect
  | openBooking
  | assess (σ : Saga)
  | failSelect (σ : Saga) (f : PaymentFailure)
  | failCommit (σ : Saga) (f : PaymentFailure) (rows : List SeatInstance)
  | createPayment (σ : Saga)
  | authorize (σ : Saga) (pay : Payment)
  | journalUnknown (σ : Saga) (pay : Payment)
  | retryAuthorize (σ : Saga) (pay : Payment)
  | recordAuthorized (σ : Saga) (pay : Payment) (result : AuthorizationResult)
  | issueTickets (σ : Saga) (pay : Payment)
  | reverse (σ : Saga) (pay : Payment) (reason : String)
  | finishVoided (σ : Saga) (pay : Payment) (reason : String)
  | finishReview (σ : Saga) (pay : Payment) (reason error : String)
  | capture (σ : Saga) (pay : Payment)
  | confirm (σ : Saga) (pay : Payment)
  | refresh (σ : Saga)
  | completeSelect (o : Outcome) (booking : Option BookingId)
  | completeCommit (o : Outcome) (booking : Option BookingId)
  | release (x : Failure) (booking : Option BookingId)
  | done (reply : Reply) (booking : Option BookingId)

/-- Where a `create_hold` request is; `now` is the start of its transaction. -/
inductive HoldPc where
  | count (now : Time)
  | update (now : Time)
  | refresh (s : SeatId)
  | granted (s : SeatId) (r : SeatInventory)
  | refused (e : AppError)

/-- Where a `release_hold` request is. -/
inductive ReleasePc where
  | load
  | update
  | done (reply : Reply)

/-- Where a `cancel_booking` request is; `state` is the state its booking
instance was loaded with. -/
inductive CancelPc where
  | load
  | selectPayment (b : BookingId) (state : BookingState)
  | lockSeats (b : BookingId) (state : BookingState) (pay : Option Payment)
  | refund (b : BookingId) (state : BookingState) (pay : Payment)
  | finish (b : BookingId) (state : BookingState) (refunded : Option Payment)
  | review (b : BookingId) (state : BookingState) (error : String)
  | done (reply : Reply)

/-- Where a sweep is; `now` is the start of its transaction. -/
inductive SweepPc where
  | update (now : Time)
  | done

/-- The local state of a process. -/
inductive Proc where
  /-- No request yet. -/
  | idle
  | booking (r : BookingRequest) (pc : BookingPc)
  | hold (r : HoldRequest) (pc : HoldPc)
  | release (r : ReleaseRequest) (pc : ReleasePc)
  | cancel (r : CancelRequest) (pc : CancelPc)
  | sweep (pc : SweepPc)

/-- The first local state of a request; its handler reads the clock here. -/
def Request.start (now : Time) : Request → Proc
  | .createBooking r => .booking r (.beginDelete now)
  | .createHold r => .hold r (.count now)
  | .deleteHold r => .release r .load
  | .cancelBooking r => .cancel r .load
  | .sweep => .sweep (.update now)

/-! ### Steps -/

section Steps

variable {G : Type} [PaymentGateway G] (env : Env)

/-- `idempotency.begin`. -/
def stepBegin (s : Shared G) (p : ℕ) (r : BookingRequest) :
    BookingPc → Option (Shared G × BookingPc)
  | .beginDelete now =>
    match s.db.claims r.claimKey with
    | some c =>
      if expiredClaim now c then
        if s.claimFree p r.claimKey then
          some (s.lockClaim p r.claimKey, .beginInsert now true)
        else none
      else some (s, .beginInsert now false)
    | none => some (s, .beginInsert now false)
  | .beginInsert now deleted =>
    if s.claimFree p r.claimKey then
      if deleted || (s.db.claims r.claimKey).isNone then
        some (s.lockClaim p r.claimKey, .beginCommit now deleted true)
      else some (s, .beginCommit now deleted false)
    else none
  | .beginCommit now deleted claimed =>
    if claimed then
      some (s.setClaim r.claimKey (some (newClaim env r.payload now)), .openBooking)
    else if deleted then some (s.setClaim r.claimKey none, .beginSelect)
    else some (s, .beginSelect)
  | .beginSelect =>
    match resolveClaim (s.db.claims r.claimKey) (requestHash env r.payload) with
    | .ok (status, body) => some (s, .done (.json status body true) none)
    | .error e => some (s, .done (.problem e) none)
  | _ => none

/-- Where an exception of the saga leads in `create_booking`. -/
def raised (x : Failure) (b : Option BookingId) : BookingPc :=
  match x with
  | .app e => .completeSelect (.appError e) b
  | x => .release x b

/-- Steps 1 and 2 of `run`, and `_fail_payment`. -/
def stepOpen (s : Shared G) (p : ℕ) (r : BookingRequest) (x : Draws) :
    BookingPc → Option (Shared G × BookingPc)
  | .openBooking =>
    if s.seatsFree p ((lockSeatsForHolds s.db r.payload.holdIds r.userId).map Orm.Instance.id) then
      match openBooking s.db s.clock s.uuid r.userId r.key r.payload x.pnr
          x.refTaken with
      | .ok (db, σ) =>
        some ((s.withDb db).drawUuids (1 + r.payload.passengers.length), .assess σ)
      | .error e => some (s, raised e none)
    else none
  | .assess σ =>
    if x.assessment.decision = .block then
      some (s, .failSelect { σ with assessment := x.assessment } (blockedFailure x.assessment))
    else some (s, .createPayment { σ with assessment := x.assessment })
  | .failSelect σ f =>
    match startFailure σ f with
    | some e => some (s, raised e (some σ.bookingId))
    | none => some (s, .failCommit σ f (failPaymentRows s.db σ))
  | .failCommit σ f rows =>
    if s.seatsFree p (rows.map Orm.Instance.id) then
      match failPayment s.db σ f rows with
      | .ok db => some (s.withDb db, .completeSelect (.appError f.error) (some σ.bookingId))
      | .error e => some (s, raised e (some σ.bookingId))
    else none
  | _ => none

/-- Where the outcome of `authorize` leads. -/
def afterAuthorize (σ : Saga) (pay : Payment) (result : AuthorizationResult) : BookingPc :=
  if result.approved then .recordAuthorized σ pay result
  else .failSelect σ (declinedFailure σ pay result)

/-- Step 3 of `run`. -/
def stepCharge (s : Shared G) (r : BookingRequest) : BookingPc → Option (Shared G × BookingPc)
  | .createPayment σ =>
    let pay := newPayment env σ s.uuid (PaymentGateway.name G) r.payload.cardToken r.key
    match createPayment s.db pay with
    | .ok db => some ((s.withDb db).drawUuids 1, .authorize σ pay)
    | .error e => some (s, raised e (some σ.bookingId))
  | .authorize σ pay =>
    let o := PaymentGateway.authorize s.gateway (authorizeRequest σ pay)
    let s' := s.called o.2 (.authorize σ.bookingId (authorizeRequest σ pay) o.1)
    match o.1 with
    | .ok result => some (s', afterAuthorize σ pay result)
    | .error _ => some (s', .journalUnknown σ pay)
  | .journalUnknown σ pay =>
    some (s.withDb (journalUnknown s.db σ pay), .retryAuthorize σ pay.timedOut)
  | .retryAuthorize σ pay =>
    let o := PaymentGateway.authorize s.gateway (authorizeRequest σ pay)
    let s' := s.called o.2 (.authorize σ.bookingId (authorizeRequest σ pay) o.1)
    match o.1 with
    | .ok result => some (s', afterAuthorize σ pay result)
    | .error _ => some (s', .release .paymentTimeout (some σ.bookingId))
  | .recordAuthorized σ pay result =>
    match recordAuthorized s.db σ pay result with
    | .ok db =>
      some (s.withDb db, .issueTickets (σ.inState .paymentAuthorized) (pay.authorized result))
    | .error e => some (s, raised e (some σ.bookingId))
  | _ => none

/-- Step 4 of `run`: `_issue_tickets`, and the start of `_compensate`. -/
def stepIssue (s : Shared G) (p : ℕ) (r : BookingRequest) (x : Draws) :
    BookingPc → Option (Shared G × BookingPc)
  | .issueTickets σ pay =>
    if s.seatsFree p (σ.seats.map Orm.Instance.id) then
      match issueTickets s.db s.clock s.uuid σ r.userId r.payload.cardToken x.eTicketNo
          x.seqTaken with
      | .issued db σ' => some ((s.withDb db).drawUuids σ.passengers.length, .capture σ' pay)
      | .refused db reason =>
        match startCompensation db σ pay reason with
        | .ok db' => some (s.withDb db', .reverse (σ.inState .compensating) pay reason)
        | .error e => some (s, raised e (some σ.bookingId))
      | .raised e => some (s, raised e (some σ.bookingId))
    else none
  | _ => none

/-- The gateway after `_compensate` has armed it, where the card asks for that. -/
def armed (g : G) (cardToken : String) (pay : Payment) : G :=
  match (PaymentGateway.armRefundFailure : Option (G → String → G)) with
  | some arm =>
    if triggerFor cardToken = .refundFailure then arm g (pay.providerRef.getD "") else g
  | none => g

/-- The reversal `_compensate` asks the gateway for, and the call it makes. -/
def reverseCharge (g : G) (σ : Saga) (pay : Payment) :
    (Except ReversalError Unit × G) × GatewayCall :=
  let ref := pay.providerRef.getD ""
  if pay.state = .captured then
    let o := PaymentGateway.refund g ref pay.amount (pay.idempotencyKey ++ ":refund")
    (o, .refund σ.bookingId ref pay.amount (succeeded o.1))
  else
    let o := PaymentGateway.void g ref (pay.idempotencyKey ++ ":void")
    (o, .void σ.bookingId ref (succeeded o.1))

/-- The rest of `_compensate`. -/
def stepCompensate (s : Shared G) (p : ℕ) (r : BookingRequest) :
    BookingPc → Option (Shared G × BookingPc)
  | .reverse σ pay reason =>
    let o := reverseCharge (armed s.gateway r.payload.cardToken pay) σ pay
    match o.1.1 with
    | .ok _ => some (s.called o.1.2 o.2, .finishVoided σ pay reason)
    | .error e => some (s.called o.1.2 o.2, .finishReview σ pay reason e.message)
  | .finishVoided σ pay reason =>
    if s.seatsFree p (s.db.seatIds.filter fun k => (s.db.seat k).bookingId = some σ.bookingId) then
      match finishVoided s.db σ pay s.clock with
      | .ok db =>
        some (s.withDb db, .completeSelect (.appError (compensatedError reason)) (some σ.bookingId))
      | .error e => some (s, raised e (some σ.bookingId))
    else none
  | .finishReview σ pay reason error =>
    if s.seatsFree p (s.db.seatIds.filter fun k => (s.db.seat k).bookingId = some σ.bookingId) then
      some (s.withDb (finishReview s.db σ pay error s.clock),
        .completeSelect (.appError (compensatedError reason)) (some σ.bookingId))
    else none
  | _ => none

/-- Step 5 of `run`. -/
def stepConfirm (s : Shared G) (x : Draws) : BookingPc → Option (Shared G × BookingPc)
  | .capture σ pay =>
    let ref := pay.providerRef.getD ""
    let o := PaymentGateway.capture s.gateway ref (pay.idempotencyKey ++ ":cap")
    let s' := s.called o.2 (.capture σ.bookingId ref (succeeded o.1))
    match o.1 with
    | .ok _ => some (s', .confirm σ pay)
    | .error _ => some (s', .release .paymentTimeout (some σ.bookingId))
  | .confirm σ pay =>
    match confirm s.db σ pay x.seqTaken with
    | .ok db => some (s.withDb db, .refresh (σ.inState .confirmed))
    | .error e => some (s, raised e (some σ.bookingId))
  | .refresh σ =>
    match s.db.booking σ.bookingId with
    | some row =>
      some (s, .completeSelect (.returned 201 (bookingPayload s.db σ row)) (some σ.bookingId))
    | none => none
  | _ => none

/-- `idempotency.complete` and `idempotency.release`. -/
def stepComplete (s : Shared G) (p : ℕ) (r : BookingRequest) :
    BookingPc → Option (Shared G × BookingPc)
  | .completeSelect o b =>
    match s.db.claims r.claimKey with
    | some _ => some (s, .completeCommit o b)
    | none => some (s, .done o.reply b)
  | .completeCommit o b =>
    if s.claimFree p r.claimKey then
      match s.db.claims r.claimKey with
      | some c =>
        some (s.setClaim r.claimKey (some (completedClaim c o.recorded.1 o.recorded.2)),
          .done o.reply b)
      | none => some (s, .done (.serverError (.runtimeError "stale claim")) b)
    else none
  | .release x b =>
    if s.claimFree p r.claimKey then
      some (s.setClaim r.claimKey none, .done (.serverError x) b)
    else none
  | _ => none

/-- One step of a `create_booking` request. -/
def stepBooking (s : Shared G) (p : ℕ) (r : BookingRequest) (x : Draws) (pc : BookingPc) :
    Option (Shared G × BookingPc) :=
  match pc with
  | .beginDelete _ | .beginInsert _ _ | .beginCommit _ _ _ | .beginSelect => stepBegin env s p r pc
  | .openBooking | .assess _ | .failSelect _ _ | .failCommit _ _ _ => stepOpen s p r x pc
  | .createPayment _ | .authorize _ _ | .journalUnknown _ _ | .retryAuthorize _ _
  | .recordAuthorized _ _ _ => stepCharge env s r pc
  | .issueTickets _ _ => stepIssue s p r x pc
  | .reverse _ _ _ | .finishVoided _ _ _ | .finishReview _ _ _ _ => stepCompensate s p r pc
  | .capture _ _ | .confirm _ _ | .refresh _ => stepConfirm s x pc
  | .completeSelect _ _ | .completeCommit _ _ | .release _ _ => stepComplete s p r pc
  | .done _ _ => none

/-- One step of a `create_hold` request: `acquire_hold`. -/
def stepHold (s : Shared G) (p : ℕ) (r : HoldRequest) : HoldPc → Option (Shared G × HoldPc)
  | .count now =>
    match holdCap env (countActiveHolds s.db r.userId now) with
    | some e => some (s, .refused e)
    | none => some (s, .update now)
  | .update now =>
    match acquireHold env s.db r.userId r.flightId r.seatNo now s.uuid with
    | .ok (db, k) =>
      if s.seatsFree p [k] then some ((s.withDb db).drawUuids 1, .refresh k) else none
    | .error e => some (s, .refused e)
  | .refresh k => some (s, .granted k (s.db.seat k))
  | .granted _ _ => none
  | .refused _ => none

/-- One step of a `release_hold` request: `owned_hold`, then `release_hold`. -/
def stepRelease (s : Shared G) (p : ℕ) (r : ReleaseRequest) :
    ReleasePc → Option (Shared G × ReleasePc)
  | .load =>
    match ownedHold s.db r.holdId r.userId with
    | none => some (s, .done (.problem (.notFound "No such hold")))
    | some _ => some (s, .update)
  | .update =>
    if s.seatsFree p (s.db.seatIds.filter fun k => releasable r.holdId r.userId (s.db.seat k)) then
      let o := releaseHold s.db r.holdId r.userId
      if 0 < o.2 then some (s.withDb o.1, .done (.json 204 .null false))
      else some (s.withDb o.1, .done (.problem (.notFound "Hold is no longer active")))
    else none
  | .done _ => none

/-- One step of a `cancel_booking` request: `owned_booking`, then `cancel`. -/
def stepCancel (s : Shared G) (p : ℕ) (r : CancelRequest) (x : Draws) :
    CancelPc → Option (Shared G × CancelPc)
  | .load =>
    match ownedBooking s.db r.ref r.userId with
    | none => some (s, .done (.problem (.notFound "No such booking")))
    | some (b, row) =>
      match requireState row.state [.confirmed, .ticketed] with
      | some e => some (s, .done (.problem e))
      | none => some (s, .selectPayment b row.state)
  | .selectPayment b state => some (s, .lockSeats b state (findPayment s.db b))
  | .lockSeats b state pay =>
    if s.seatsFree p (s.db.seatIds.filter fun k => (s.db.seat k).bookingId = some b) then
      match pay with
      | some pay => some (s.lockSeatsOf p b, .refund b state pay)
      | none => some (s.lockSeatsOf p b, .finish b state none)
    else none
  | .refund b state pay =>
    let ref := pay.providerRef.getD ""
    let o := PaymentGateway.refund s.gateway ref pay.amount
      (pay.idempotencyKey ++ ":cancel-refund")
    let s' := s.called o.2 (.refund b ref pay.amount (succeeded o.1))
    match o.1 with
    | .ok _ => some (s', .finish b state (some pay))
    | .error e => some (s', .review b state e.message)
  | .finish b state refunded =>
    match finishCancel s.db b state r.userId refunded s.clock x.seqTaken with
    | .ok (db, released) =>
      some ((s.withDb db).unlockSeats p,
        .done (.json 200 (cancelPayload r.ref refunded.isSome released) false))
    | .error e => some (s.unlockSeats p, .done (.serverError e))
  | .review b state error =>
    match reviewCancel s.db b state error x.seqTaken with
    | .ok db => some ((s.withDb db).unlockSeats p, .done (.problem refundPendingError))
    | .error e => some (s.unlockSeats p, .done (.serverError e))
  | .done _ => none

/-- One step of a sweep. -/
def stepSweep (s : Shared G) (p : ℕ) (x : Draws) : SweepPc → Option (Shared G × SweepPc)
  | .update now =>
    if s.seatsFree p (s.db.seatIds.filter fun k => sweepable now (s.db.seat k)) then
      some (s.withDb (sweepExpiredHolds s.db now x.missed), .done)
    else none
  | .done => none

/-- One step of a process. -/
def step (s : Shared G) (p : ℕ) : Proc → Input → Option (Shared G × Proc)
  | .idle, .tick d => some ({ s with clock := s.clock + d }, .idle)
  | .idle, .arrive r => some (s, r.start s.clock)
  | .booking r pc, .go x => (stepBooking env s p r x pc).map fun o => (o.1, .booking r o.2)
  | .hold r pc, .go _ => (stepHold env s p r pc).map fun o => (o.1, .hold r o.2)
  | .release r pc, .go _ => (stepRelease s p r pc).map fun o => (o.1, .release r o.2)
  | .cancel r pc, .go x => (stepCancel s p r x pc).map fun o => (o.1, .cancel r o.2)
  | .sweep pc, .go x => (stepSweep s p x pc).map fun o => (o.1, .sweep o.2)
  | _, _ => none

/-- The service. -/
def service (G : Type) [PaymentGateway G] : System (Shared G) Proc Input where
  step := step env

end Steps

/-! ### Initial states -/

/-- A database with an inventory and reference data and nothing else: every seat
is available and no request has been served. -/
structure Db.Initial (db : Db) : Prop where
  ids_sorted : db.seatIds.Pairwise (· < ·)
  seats : ∀ k, (db.seat k).status = .available ∧ (db.seat k).heldByUserId = none ∧
    (db.seat k).holdId = none ∧ (db.seat k).holdExpiresAt = none ∧
    (db.seat k).bookingId = none
  booking : ∀ b, db.booking b = none
  bookingRef : ∀ ref, db.bookingRef ref = none
  passengers : db.passengers = []
  payments : db.payments = []
  tickets : db.tickets = []
  audit : db.audit = []
  claims : ∀ k, db.claims k = none

/-- The initial state over a database, a gateway and a clock reading. -/
def initialWorld {G : Type} (db : Db) (gateway : G) (clock : Time) : World (Shared G) Proc where
  shared :=
    { clock := clock, db := db, gateway := gateway, calls := []
      locks := fun _ => none, claimLocks := fun _ => none, uuid := 0 }
  proc := fun _ => .idle

end SkyLock
