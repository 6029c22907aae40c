import SkyLock.Schemas
import SkyLock.Settings

/-!
# Idempotency keys

The statements of `app/services/idempotency.py` on one row of
`idempotency_keys`.  Which transaction may run them when is the business of the
processes in `SkyLock.System`.

## Main definitions

* `requestHash` — the hash of a request body.
* `expiredClaim`, `newClaim` — the DELETE and the INSERT of `begin`.
* `resolveClaim` — what `begin` makes of a row it did not insert.
* `completedClaim` — what `complete` writes.
-/

namespace SkyLock

/-- `request_hash` of a booking body. -/
def requestHash (env : Env) (payload : BookingCreate) : String := env.sha256 payload.dump.dumps

/-- The endpoint a booking's claim names. -/
def bookingsEndpoint : String := "POST /bookings"

/-- The WHERE clause of the DELETE in `begin`. -/
def expiredClaim (now : Time) (c : IdempotencyKey) : Bool := c.expiresAt < now

/-- The row `begin` inserts. -/
def newClaim (env : Env) (payload : BookingCreate) (now : Time) : IdempotencyKey where
  endpoint := bookingsEndpoint
  requestHash := requestHash env payload
  state := .inProgress
  responseStatus := none
  responseBody := none
  expiresAt := now + seconds env.idempotencyTtlSeconds

/-- The stored response of a finished claim, unless its status is null or zero. -/
def IdempotencyKey.response (c : IdempotencyKey) : Option (ℕ × JsonValue) :=
  match c.responseStatus with
  | some status =>
    if c.state = .completed ∧ status ≠ 0 then some (status, c.responseBody.getD (.obj []))
    else none
  | none => none

/-- The end of `begin`, on a key that was taken: the response to replay, or the
error raised. -/
def resolveClaim (existing : Option IdempotencyKey) (digest : String) :
    Except AppError (ℕ × JsonValue) :=
  match existing with
  | none => .error (.requestInFlight "Please retry in a moment")
  | some c =>
    if c.requestHash ≠ digest then
      .error (.idempotencyKeyReused ("This Idempotency-Key was already used for a different " ++
        "request body. Use a fresh key for a new request."))
    else
      match c.response with
      | some r => .ok r
      | none => .error (.requestInFlight
          "An identical request is still being processed; retry shortly.")

/-- What `complete` writes to the claim. -/
def completedClaim (c : IdempotencyKey) (status : ℕ) (body : JsonValue) : IdempotencyKey :=
  { c with state := .completed, responseStatus := some status, responseBody := some body }

end SkyLock
