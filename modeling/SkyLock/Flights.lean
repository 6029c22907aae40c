import Mathlib.Algebra.GroupWithZero.Nat
import Mathlib.Data.Char
import Mathlib.Data.List.Dedup
import Mathlib.Data.Prod.Lex
import SkyLock.Holds
import SkyLock.Lib.OffsetPages

/-!
# Flights and their seats

The three public queries of `app/api/flights.py`: a page of the flights of a day, one
flight, and its seat map.  What they read besides the seats is never written at run
time.  The search leaves the order of flights that depart at the same time to the
database, so that order is a parameter.

## Main definitions

* `Timetable` — the reference tables and the generated flights.
* `Page`, `PageSize`, `ListingError` — `Page[T]`, and how a request for one can be refused.
* `searchRows`, `searchFlights` — `search_flights`.
* `getFlight`, `seatMap` — `get_flight` and `seat_map`.
* `morningAndNoon` — a timetable of three flights.

## Main results

* `searchRows_flights` — **the joins of the search keep every matching flight once**.
* `searchRow_seatsAvailable` — the count a row shows is that of the takeable seats.
-/

namespace SkyLock

open OffsetPages

/-! ### The reference tables -/

/-- `Airline`. -/
structure Airline where
  iata : String
  name : String
  deriving DecidableEq, Repr

/-- `Flight`, with the columns that only the public queries read. -/
structure FlightRow where
  id : FlightId
  flightNo : String
  airlineIata : String
  srcIata : String
  dstIata : String
  departAt : Time
  arriveAt : Time
  aircraftType : String
  baseFare : Cents
  currency : String
  deriving DecidableEq, Repr

/-- The columns of `SeatInventory` that only the seat map reads. -/
structure SeatFeatures where
  cabin : String
  isExitRow : Bool
  deriving DecidableEq, Repr

/-- What is not written at run time, with its primary keys and the foreign key of a
flight's airline. -/
structure Timetable where
  flights : List FlightRow
  airlines : List Airline
  features : SeatId → SeatFeatures
  flights_nodup : (flights.map FlightRow.id).Nodup
  airlines_nodup : (airlines.map Airline.iata).Nodup
  airline_exists : ∀ f ∈ flights, f.airlineIata ∈ airlines.map Airline.iata

/-- `db.get(Flight, flight_id)`. -/
def Timetable.flight (t : Timetable) (flightId : FlightId) : Option FlightRow :=
  t.flights.find? fun f => f.id = flightId

/-- `flight.airline`. -/
def Timetable.airline (t : Timetable) (f : FlightRow) : Option Airline :=
  t.airlines.find? fun a => a.iata = f.airlineIata

/-! ### Pages -/

/-- The `page_size` of a request. -/
structure PageSize where
  value : ℕ
  pos : 1 ≤ value
  le : value ≤ 100

/-- The largest `page` of a request. -/
def maxPage : ℕ := 1000

/-- How a request for a page can be refused. -/
inductive ListingError where
  /-- FastAPI's `RequestValidationError`. -/
  | requestValidation
  | app (e : AppError)

/-- `OFFSET` and `LIMIT` of an ordered query, as `Page[T]` reports them. -/
def pageOf {ρ τ : Type} (response : ρ → τ) (rows : List ρ) (total page : ℕ) (size : PageSize) :
    Page τ where
  items := (window size.value page rows).map response
  page := page
  pageSize := size.value
  total := total
  hasMore := decide (page * size.value < total)

/-! ### Searching -/

/-- `FlightSummary`. -/
structure FlightSummary where
  id : FlightId
  flightNo : String
  airlineIata : String
  airlineName : Option String
  srcIata : String
  dstIata : String
  departAt : Time
  arriveAt : Time
  aircraftType : String
  baseFare : Cents
  currency : String
  seatsAvailable : Option ℕ
  deriving DecidableEq, Repr

/-- The summary of a flight. -/
def FlightRow.summary (f : FlightRow) (airlineName : Option String) (seatsAvailable : ℕ) :
    FlightSummary where
  id := f.id
  flightNo := f.flightNo
  airlineIata := f.airlineIata
  airlineName := airlineName
  srcIata := f.srcIata
  dstIata := f.dstIata
  departAt := f.departAt
  arriveAt := f.arriveAt
  aircraftType := f.aircraftType
  baseFare := f.baseFare
  currency := f.currency
  seatsAvailable := some seatsAvailable

/-- `IataQuery`: three ASCII letters. -/
def iataQuery (t : String) : Bool :=
  t.length = 3 && t.toList.all fun c => ('A' ≤ c && c ≤ 'Z') || ('a' ≤ c && c ≤ 'z')

/-- The filters of a search; a date is its number of days. -/
structure SearchQuery where
  origin : String
  destination : String
  departureDate : ℕ
  origin_iata : iataQuery origin = true
  destination_iata : iataQuery destination = true

/-- `timedelta(days=1)`. -/
def oneDay : Time := seconds 86400

/-- `MAX_SEARCH_DAYS_AHEAD`. -/
def maxSearchDaysAhead : ℕ := 365

namespace SearchQuery

/-- `day_start`. -/
def dayStart (q : SearchQuery) : Time := q.departureDate * oneDay

/-- `base_filters`. -/
def accepts (q : SearchQuery) (f : FlightRow) : Bool :=
  decide (f.srcIata = q.origin.toUpper) && decide (f.dstIata = q.destination.toUpper) &&
    (decide (q.dayStart ≤ f.departAt) && decide (f.departAt < q.dayStart + oneDay))

/-- The departure date is not too far ahead. -/
def Scheduled (q : SearchQuery) (now : Time) : Prop :=
  q.departureDate ≤ now / oneDay + maxSearchDaysAhead

instance (q : SearchQuery) (now : Time) : Decidable (q.Scheduled now) :=
  inferInstanceAs (Decidable (_ ≤ _))

end SearchQuery

/-- The flights a search matches. -/
def Timetable.matching (t : Timetable) (q : SearchQuery) : List FlightRow :=
  t.flights.filter q.accepts

/-- The seats of a flight. -/
def Db.seatsOfFlight (db : Db) (flightId : FlightId) : List SeatId :=
  db.seatIds.filter fun s => (db.seat s).flightId = flightId

/-- The subquery `availability`: for every flight that has seats, the sum over them of
one for each that can be taken. -/
def availability (db : Db) (now : Time) : List (FlightId × ℕ) :=
  (db.seatIds.map fun s => (db.seat s).flightId).dedup.map fun f =>
    (f, ((db.seatsOfFlight f).map fun s => if takeable (db.seat s) now then 1 else 0).sum)

/-- A row of the search: a flight, the name of its airline, and the count of the outer
join. -/
structure SearchRow where
  flight : FlightRow
  airlineName : String
  seatsAvailable : Option ℕ
  deriving DecidableEq, Repr

/-- The LEFT OUTER JOIN with `availability`. -/
def outerJoin (counts : List (FlightId × ℕ)) (f : FlightRow) (airlineName : String) :
    List SearchRow :=
  match counts.filter fun c => c.1 = f.id with
  | [] => [⟨f, airlineName, none⟩]
  | found => found.map fun c => ⟨f, airlineName, some c.2⟩

/-- The rows of the search, in no order. -/
def searchRows (t : Timetable) (db : Db) (q : SearchQuery) (now : Time) : List SearchRow :=
  (t.matching q).flatMap fun f =>
    (t.airlines.filter fun a => a.iata = f.airlineIata).flatMap fun a =>
      outerJoin (availability db now) f a.name

/-- The sort key of a search. -/
def SearchRow.departAt (r : SearchRow) : Time := r.flight.departAt

/-- An item of a search. -/
def SearchRow.summary (r : SearchRow) : FlightSummary :=
  r.flight.summary (some r.airlineName) (r.seatsAvailable.getD 0)

/-- `search_flights`. -/
def searchFlights (t : Timetable) (db : Db) (q : SearchQuery) (now : Time)
    (order : OrderBy SearchRow.departAt (searchRows t db q now)) (page : ℕ) (size : PageSize) :
    Except ListingError (Page FlightSummary) :=
  if ¬ (1 ≤ page ∧ page ≤ maxPage) then .error .requestValidation
  else if ¬ q.Scheduled now then
    .error (.app (.notFound "No flights scheduled that far ahead"))
  else .ok (pageOf SearchRow.summary order.list (t.matching q).length page size)

/-! ### One flight -/

/-- `get_flight`. -/
def getFlight (t : Timetable) (db : Db) (flightId : FlightId) (now : Time) :
    Except AppError FlightSummary :=
  match t.flight flightId with
  | none => .error (.notFound "No such flight")
  | some f => .ok (f.summary ((t.airline f).map Airline.name)
      (db.seatIds.countP fun s =>
        decide ((db.seat s).flightId = flightId) && takeable (db.seat s) now))

/-- `SeatResponse`. -/
structure SeatResponse where
  seatNo : String
  rowNo : ℕ
  seatLetter : Char
  cabin : String
  price : Cents
  isExitRow : Bool
  available : Bool
  deriving DecidableEq, Repr

/-- `SeatMapResponse`. -/
structure SeatMapResponse where
  flightId : FlightId
  currency : String
  totalSeats : ℕ
  availableSeats : ℕ
  seats : List SeatResponse
  deriving DecidableEq, Repr

/-- The sort key of the seat map. -/
def Db.place (db : Db) (s : SeatId) : ℕ ×ₗ Char := toLex ((db.seat s).rowNo, (db.seat s).seatLetter)

/-- A seat of the seat map. -/
def seatResponse (t : Timetable) (db : Db) (now : Time) (s : SeatId) : SeatResponse where
  seatNo := (db.seat s).seatNo
  rowNo := (db.seat s).rowNo
  seatLetter := (db.seat s).seatLetter
  cabin := (t.features s).cabin
  price := (db.seat s).price
  isExitRow := (t.features s).isExitRow
  available := takeable (db.seat s) now

/-- `seat_map`. -/
def seatMap (t : Timetable) (db : Db) (flightId : FlightId) (now : Time)
    (order : OrderBy db.place (db.seatsOfFlight flightId)) : Except AppError SeatMapResponse :=
  match t.flight flightId with
  | none => .error (.notFound "No such flight")
  | some f =>
    let seats := order.list.map (seatResponse t db now)
    .ok { flightId := flightId
          currency := f.currency
          totalSeats := seats.length
          availableSeats := seats.countP SeatResponse.available
          seats := seats }

/-! ### What the joins keep -/

/-- The row with a primary key. -/
theorem filter_key_eq {ρ κ : Type} [DecidableEq κ] {key : ρ → κ} {rows : List ρ}
    (hnd : (rows.map key).Nodup) {r : ρ} (hr : r ∈ rows) :
    (rows.filter fun r' => key r' = key r) = [r] := by
  induction rows with
  | nil => simp at hr
  | cons r₀ rows ih =>
    rw [List.map_cons, List.nodup_cons] at hnd
    rcases List.mem_cons.mp hr with rfl | hr
    · have hrest : (rows.filter fun r' => key r' = key r) = [] := by
        rw [List.filter_eq_nil_iff]
        intro r' hr' heq
        rw [decide_eq_true_eq] at heq
        exact hnd.1 (heq ▸ List.mem_map_of_mem hr')
      rw [List.filter_cons_of_pos (by simp), hrest]
    · have hne : key r₀ ≠ key r := fun heq => hnd.1 (heq ▸ List.mem_map_of_mem hr)
      rw [List.filter_cons_of_neg (by simpa using hne), ih hnd.2 hr]

/-- The number of seats of a flight that can be taken. -/
def takeableSeats (db : Db) (flightId : FlightId) (now : Time) : ℕ :=
  db.seatIds.countP fun s =>
    decide ((db.seat s).flightId = flightId) && takeable (db.seat s) now

theorem sum_seatsOfFlight (db : Db) (f : FlightId) (now : Time) :
    ((db.seatsOfFlight f).map fun s => if takeable (db.seat s) now then 1 else 0).sum =
      takeableSeats db f now := by
  unfold Db.seatsOfFlight takeableSeats
  induction db.seatIds with
  | nil => rfl
  | cons s ids ih =>
    rw [List.filter_cons, List.countP_cons]
    by_cases hs : (db.seat s).flightId = f
    · rw [if_pos (by simpa using hs), List.map_cons, List.sum_cons, ih, Nat.add_comm]
      simp [hs]
    · rw [if_neg (by simpa using hs), ih]
      simp [hs]

/-- The count of the outer join. -/
def joinedCount (db : Db) (now : Time) (f : FlightId) : Option ℕ :=
  if f ∈ db.seatIds.map fun s => (db.seat s).flightId then some (takeableSeats db f now) else none

theorem joinedCount_getD (db : Db) (now : Time) (f : FlightId) :
    (joinedCount db now f).getD 0 = takeableSeats db f now := by
  unfold joinedCount
  split
  · rfl
  · next h =>
    rw [Option.getD_none, eq_comm, takeableSeats, List.countP_eq_zero]
    intro s hs
    have hne : (db.seat s).flightId ≠ f := fun heq => h (List.mem_map.mpr ⟨s, hs, heq⟩)
    simp [hne]

/-- The outer join finds one row for a flight. -/
theorem outerJoin_availability (db : Db) (now : Time) (f : FlightRow) (airlineName : String) :
    outerJoin (availability db now) f airlineName =
      [⟨f, airlineName, joinedCount db now f.id⟩] := by
  have hkeys : (availability db now).map Prod.fst =
      (db.seatIds.map fun s => (db.seat s).flightId).dedup := by
    rw [availability, List.map_map]
    exact List.map_id _
  have hnd : ((availability db now).map Prod.fst).Nodup := by
    rw [hkeys]
    exact List.nodup_dedup _
  unfold outerJoin joinedCount
  split
  · next hnone =>
    rw [List.filter_eq_nil_iff] at hnone
    have hnot : f.id ∉ db.seatIds.map fun s => (db.seat s).flightId := by
      intro hmem
      rw [← List.mem_dedup, ← hkeys] at hmem
      obtain ⟨c, hc, heq⟩ := List.mem_map.mp hmem
      exact hnone c hc (by simpa using heq)
    rw [if_neg hnot]
  · next hsome =>
    obtain ⟨c, hc⟩ := List.exists_mem_of_ne_nil _ hsome
    obtain ⟨hc, heq⟩ := List.mem_filter.mp hc
    rw [decide_eq_true_eq] at heq
    have hmem : f.id ∈ db.seatIds.map fun s => (db.seat s).flightId := by
      rw [← heq, ← List.mem_dedup, ← hkeys]
      exact List.mem_map_of_mem hc
    have hcount : c.2 = takeableSeats db f.id now := by
      rw [availability] at hc
      obtain ⟨g, -, rfl⟩ := List.mem_map.mp hc
      rw [← heq]
      exact sum_seatsOfFlight db g now
    rw [if_pos hmem, ← heq, filter_key_eq hnd hc, List.map_singleton, hcount, heq]

/-- A matching flight has one airline, and the joins find one row for it. -/
theorem exists_searchRows_eq (t : Timetable) (db : Db) (q : SearchQuery) (now : Time) :
    ∃ airlineName : FlightRow → String, searchRows t db q now =
      (t.matching q).map fun f => ⟨f, airlineName f, joinedCount db now f.id⟩ := by
  refine ⟨fun f => ((t.airline f).map Airline.name).getD "", ?_⟩
  have hone : ∀ f ∈ t.matching q,
      ((t.airlines.filter fun a => a.iata = f.airlineIata).flatMap fun a =>
        outerJoin (availability db now) f a.name) =
        [⟨f, ((t.airline f).map Airline.name).getD "", joinedCount db now f.id⟩] := by
    intro f hf
    obtain ⟨a, ha, heq⟩ := List.mem_map.mp (t.airline_exists f (List.mem_of_mem_filter hf))
    have hfilter : (t.airlines.filter fun a => a.iata = f.airlineIata) = [a] := by
      rw [← heq]
      exact filter_key_eq t.airlines_nodup ha
    have hfind : t.airline f = some a := by
      rw [Timetable.airline, ← List.head?_filter, hfilter, List.head?_cons]
    rw [hfilter, List.flatMap_singleton, outerJoin_availability, hfind, Option.map_some,
      Option.getD_some]
  rw [searchRows, List.flatMap_congr hone, ← List.map_eq_flatMap]

/-- **The joins of the search keep every matching flight once.** -/
theorem searchRows_flights (t : Timetable) (db : Db) (q : SearchQuery) (now : Time) :
    (searchRows t db q now).map SearchRow.flight = t.matching q := by
  obtain ⟨airlineName, heq⟩ := exists_searchRows_eq t db q now
  rw [heq, List.map_map]
  exact List.map_id _

/-- The count a row of the search shows. -/
theorem searchRow_seatsAvailable {t : Timetable} {db : Db} {q : SearchQuery} {now : Time}
    {r : SearchRow} (h : r ∈ searchRows t db q now) :
    r.summary.seatsAvailable = some (takeableSeats db r.flight.id now) := by
  obtain ⟨airlineName, heq⟩ := exists_searchRows_eq t db q now
  rw [heq] at h
  obtain ⟨f, -, rfl⟩ := List.mem_map.mp h
  exact congrArg some (joinedCount_getD db now f.id)

/-! ### A timetable -/

/-- A flight from Ottawa to Toronto. -/
def toToronto (id : FlightId) (airlineIata : String) (departAt : Time) : FlightRow where
  id := id
  flightNo := airlineIata ++ "100"
  airlineIata := airlineIata
  srcIata := "YOW"
  dstIata := "YYZ"
  departAt := departAt
  arriveAt := departAt + seconds 3600
  aircraftType := "A320"
  baseFare := 25000
  currency := "CAD"

/-- Two airlines fly at eight in the morning of the day 1, and one of them again at noon. -/
def morningAndNoon : Timetable where
  flights := [toToronto 7 "AC" (oneDay + seconds 28800), toToronto 8 "WS" (oneDay + seconds 28800),
    toToronto 9 "AC" (oneDay + seconds 43200)]
  airlines := [⟨"AC", "Air Canada"⟩, ⟨"WS", "WestJet"⟩]
  features _ := ⟨"economy", false⟩
  flights_nodup := by decide
  airlines_nodup := by decide
  airline_exists := by decide

end SkyLock
