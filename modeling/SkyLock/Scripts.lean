import SkyLock.System

/-!
# Seeded inventories and scripts

A flight put on sale, and what scripts of concrete runs are made of: requests
that arrive and take their steps, the draws those steps make, and the passage of
time.

## Main definitions

* `Db.seeded` — one flight with a number of single-seat rows, nothing sold.
* `FakePaymentGateway.untouched` — the gateway before its first call.
* `Draws.calm` — the draws of a step that nothing disturbs.
* `onSale` — a flight on sale; `asks`, `moves`, `waits` — the parts of a script.

## Main results

* `Db.seeded_initial` — a seeded inventory is an initial database.
-/

namespace SkyLock

open Concurrent

/-- A seat nobody has taken. -/
def SeatInventory.vacant (flightId : FlightId) (rowNo : ℕ) (price : Cents) : SeatInventory where
  flightId := flightId
  seatNo := toString rowNo ++ "A"
  rowNo := rowNo
  seatLetter := 'A'
  price := price
  status := .available
  heldByUserId := none
  holdId := none
  holdExpiresAt := none
  bookingId := none
  version := 0

/-- A database with one flight of `n` seats, all for sale at one price. -/
def Db.seeded (flightId : FlightId) (flight : Flight) (price : Cents) (n : ℕ) : Db where
  seatIds := List.range n
  seat := fun k => .vacant flightId (k + 1) price
  flight := fun f => if f = flightId then some flight else none
  booking := fun _ => none
  bookingRef := fun _ => none
  passengers := []
  payments := []
  tickets := []
  audit := []
  claims := fun _ => none

theorem Db.seeded_initial (flightId : FlightId) (flight : Flight) (price : Cents) (n : ℕ) :
    (Db.seeded flightId flight price n).Initial where
  ids_sorted := List.pairwise_lt_range
  seats _ := ⟨rfl, rfl, rfl, rfl, rfl⟩
  booking _ := rfl
  bookingRef _ := rfl
  passengers := rfl
  payments := rfl
  tickets := rfl
  audit := rfl
  claims _ := rfl

/-- A stream of texts in which none comes twice. -/
def tally (n : ℕ) : String := String.ofList (List.replicate n '0')

theorem tally_injective : Function.Injective tally := by
  intro m n h
  have hlen := congrArg (fun t => t.toList.length) h
  simpa [tally] using hlen

/-- A gateway nobody has called. -/
def FakePaymentGateway.untouched : FakePaymentGateway := .fresh tally tally_injective

/-- The draws of a step that nothing disturbs; `n` tells the generated values of
one step from those of another. -/
def Draws.calm (n : ℕ) : Draws where
  pnr := fun k => "SKYLC" ++ String.singleton ("ACDEFGHJKLMNPQRSTUVWXYZ".toList.getD (n + k) '2')
  refTaken := false
  eTicketNo := fun k => "014000000" ++ toString (1000 + 10 * n + k)
  assessment := ⟨0, []⟩
  seqTaken := false
  missed := fun _ => false

/-- The body of a booking for one passenger. -/
def soloBody (hold : HoldId) (cardToken : String) : BookingCreate where
  holdIds := [hold]
  passengers := [⟨"Ada", "Lovelace", none, none⟩]
  cardToken := cardToken
  contactEmail := none
  holds_nonempty := by simp
  holds_le_six := by simp
  oneSeatPerPassenger := rfl
  holds_nodup := by simp

/-- The default settings, over digests that are their own texts. -/
def demoEnv : Env := Env.defaults id id

/-- A flight of `n` seats on sale, and a gateway nobody has called. -/
def onSale (n : ℕ) : World (Shared FakePaymentGateway) Proc :=
  initialWorld (.seeded 7 ⟨"CAD"⟩ 25000 n) .untouched 0

/-! ### Scripts -/

/-- The process takes `n` steps. -/
def moves (p n : ℕ) (x : Draws) : List (ℕ × Input) := List.replicate n (p, .go x)

/-- A request arrives at the process, which then takes `n` steps. -/
def asks (p : ℕ) (r : Request) (n : ℕ) (x : Draws) : List (ℕ × Input) :=
  (p, .arrive r) :: moves p n x

/-- Time passes at an idle process. -/
def waits (p : ℕ) (d : Time) : List (ℕ × Input) := [(p, .tick d)]

end SkyLock
