import SkyLock.Settings

/-!
# Seat holds

The statements of `app/services/holds.py` and of the sweep of
`app/jobs/sweep.py`.  `now` is the database's `now()`: the start of the
transaction the statement runs in, not the moment it gets its locks.

## Main definitions

* `takeable`, `holdIsLive` — a seat can be taken; it is held.
* `countActiveHolds`, `holdCap`, `acquireHold` — taking a hold: the cap, and the
  conditional UPDATE.
* `releaseHold`, `releaseSeatsForBooking`, `sweepExpiredHolds` — giving it back.
-/

namespace SkyLock

/-! ### What each writer leaves of a row -/

/-- The row an acquired hold leaves. -/
def SeatInventory.heldBy (r : SeatInventory) (userId : UserId) (holdId : HoldId)
    (expiresAt : Time) : SeatInventory :=
  { r with
    status := .held, heldByUserId := some userId, holdId := some holdId
    holdExpiresAt := some expiresAt, bookingId := none, version := r.version + 1 }

/-- The row a released or swept hold leaves: the booking it may be pinned to is
not touched. -/
def SeatInventory.freed (r : SeatInventory) : SeatInventory :=
  { r with
    status := .available, heldByUserId := none, holdId := none
    holdExpiresAt := none, version := r.version + 1 }

/-- The row a released booking leaves. -/
def SeatInventory.returned (r : SeatInventory) : SeatInventory :=
  { r.freed with bookingId := none }

/-! ### Taking a hold -/

/-- `takeable`: the one definition of "this seat can be taken right now". -/
def takeable (r : SeatInventory) (now : Time) : Bool :=
  r.status == .available || (r.status == .held && r.holdExpiresAt.any fun e => e < now)

/-- `hold_is_live`. -/
def holdIsLive (r : SeatInventory) (now : Time) : Bool :=
  r.status == .held && r.holdExpiresAt.any fun e => now < e

/-- `count_active_holds`. -/
def countActiveHolds (db : Db) (userId : UserId) (now : Time) : ℕ :=
  db.seatIds.countP fun s =>
    decide ((db.seat s).heldByUserId = some userId) &&
      ((db.seat s).status == .held && (db.seat s).holdExpiresAt.any fun e => now < e)

/-- The row is the named seat of the flight. -/
def SeatInventory.isSeat (r : SeatInventory) (flightId : FlightId) (seatNo : String) : Bool :=
  decide (r.flightId = flightId) && decide (r.seatNo = seatNo.toUpper)

/-- The row the conditional UPDATE of `acquire_hold` matches; `uq_seat_per_flight`
makes it the only one. -/
def takeableSeat (db : Db) (flightId : FlightId) (seatNo : String) (now : Time) :
    Option SeatId :=
  db.seatIds.find? fun s => (db.seat s).isSeat flightId seatNo && takeable (db.seat s) now

/-- The cap check that opens `acquire_hold`. -/
def holdCap (env : Env) (active : ℕ) : Option AppError :=
  if env.maxActiveHoldsPerUser ≤ active then
    some (.tooManyHolds ("You already hold " ++ toString active ++
      " seats; release one or wait for a hold to expire."))
  else none

/-- The database after the hold on a seat is granted. -/
def acquiredDb (env : Env) (db : Db) (userId : UserId) (now : Time) (holdId : HoldId)
    (k : SeatId) : Db :=
  db.updateSeats (fun s _ => s = k) fun r =>
    r.heldBy userId holdId (now + seconds env.holdTtlSeconds)

/-- The conditional UPDATE of `acquire_hold`, and what zero rows mean. -/
def acquireHold (env : Env) (db : Db) (userId : UserId) (flightId : FlightId) (seatNo : String)
    (now : Time) (holdId : HoldId) : Except AppError (Db × SeatId) :=
  match takeableSeat db flightId seatNo now with
  | some s => .ok (acquiredDb env db userId now holdId s, s)
  | none =>
    if db.seatIds.any fun s => (db.seat s).isSeat flightId seatNo then
      .error (.seatUnavailable ("Seat " ++ seatNo.toUpper ++ " is already taken"))
    else .error (.notFound ("Flight has no seat " ++ seatNo.toUpper))

/-! ### Giving it back -/

/-- `owned_hold`; `hold_id` names one seat at most. -/
def ownedHold (db : Db) (holdId : HoldId) (userId : UserId) : Option SeatId :=
  db.seatIds.find? fun k =>
    decide ((db.seat k).holdId = some holdId) && decide ((db.seat k).heldByUserId = some userId)

/-- The WHERE clause of `release_hold`. -/
def releasable (holdId : HoldId) (userId : UserId) (r : SeatInventory) : Bool :=
  decide (r.holdId = some holdId) &&
    (r.status == .held && decide (r.heldByUserId = some userId))

/-- `release_hold`: the database after the UPDATE, and the rows affected. -/
def releaseHold (db : Db) (holdId : HoldId) (userId : UserId) : Db × ℕ :=
  (db.updateSeats (fun _ r => releasable holdId userId r) SeatInventory.freed,
    db.seatIds.countP fun s => releasable holdId userId (db.seat s))

/-- The ticket UPDATE of `release_seats_for_booking`. -/
@[simps -fullyApplied] def voidTickets (db : Db) (b : BookingId) (now : Time) : Db :=
  { db with tickets := db.tickets.map fun t =>
      if t.bookingId = b ∧ t.voidedAt = none then { t with voidedAt := some now } else t }

/-- `release_seats_for_booking`: the database after both UPDATEs, and the seat
rows affected. -/
def releaseSeatsForBooking (db : Db) (b : BookingId) (now : Time) : Db × ℕ :=
  ((voidTickets db b now).updateSeats (fun _ r => r.bookingId = some b) SeatInventory.returned,
    db.seatIds.countP fun s => decide ((db.seat s).bookingId = some b))

/-- The WHERE clause of the sweep. -/
def sweepable (now : Time) (r : SeatInventory) : Bool :=
  r.status == .held && ((r.holdExpiresAt.any fun e => e < now) && r.bookingId.isNone)

/-- `sweep_expired_holds`.  Under READ COMMITTED the UPDATE only visits the rows
its snapshot matched; `missed` are the rows that came to match after that. -/
def sweepExpiredHolds (db : Db) (now : Time) (missed : SeatId → Bool) : Db :=
  db.updateSeats (fun s r => !missed s && sweepable now r) SeatInventory.freed

end SkyLock
