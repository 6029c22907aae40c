import SkyLock.Flights
import SkyLock.Scripts

/-!
# Reading a listing page by page

`search_flights` of `app/api/flights.py` and `list_bookings` of `app/api/bookings.py`
sort by the departure and by the creation time, which rows may share, and page by
offset.  A client that reads the pages one after the other has every row once, whatever
the database does about such rows, exactly where no page ends between two of them.

## Main definitions

* `BookingResponse`, `listBookings` — `_to_response` and `list_bookings`.
* `SearchMoment`, `ListMoment` — what one request finds: the tables, the clock, and the
  order of its rows.
* `searchPages`, `bookingPages` — the two endpoints.

## Main results

* `pages_partition_iff` — **the condition, for both listings**.
* `page_repeated` — two flights with one departure, on pages of one.
-/

namespace SkyLock

open OffsetPages

/-! ### The bookings of a user -/

/-- `PassengerResponse`. -/
structure PassengerResponse where
  id : PassengerId
  givenName : String
  familyName : String
  seatNo : Option String
  passportLast4 : Option String
  deriving DecidableEq, Repr

/-- `TicketResponse`. -/
structure TicketResponse where
  eTicketNo : String
  seatNo : Option String
  passengerName : String
  issuedAt : Time
  deriving DecidableEq, Repr

/-- `BookingResponse`. -/
structure BookingResponse where
  ref : String
  state : String
  flightId : FlightId
  flightNo : Option String
  srcIata : Option String
  dstIata : Option String
  departAt : Option Time
  totalAmount : Cents
  currency : String
  passengers : List PassengerResponse
  tickets : List TicketResponse
  createdAt : Time
  deriving DecidableEq, Repr

/-- `seat_by_passenger.get(p.seat_inventory_id)`. -/
def Db.seatNoOf (db : Db) (p : BookingPassenger) : Option String :=
  p.seatInventoryId.bind fun s => if s ∈ db.seatIds then some (db.seat s).seatNo else none

/-- The passenger a ticket of the booking is for. -/
def Db.ticketed (db : Db) (b : BookingId) (t : Ticket) : Option BookingPassenger :=
  (db.passengersOf b).find? fun p => p.id = t.passengerId

/-- `_to_response`. -/
def toResponse (t : Timetable) (db : Db) (b : BookingId) (booking : Booking) :
    BookingResponse where
  ref := booking.ref
  state := booking.state.value
  flightId := booking.flightId
  flightNo := (t.flight booking.flightId).map FlightRow.flightNo
  srcIata := (t.flight booking.flightId).map FlightRow.srcIata
  dstIata := (t.flight booking.flightId).map FlightRow.dstIata
  departAt := (t.flight booking.flightId).map FlightRow.departAt
  totalAmount := booking.totalAmount
  currency := booking.currency
  passengers := (db.passengersOf b).map fun p =>
    ⟨p.id, p.givenName, p.familyName, db.seatNoOf p, p.passportLast4⟩
  tickets := (db.liveTickets.filter fun t => t.bookingId = b).map fun t =>
    ⟨t.eTicketNo, (db.ticketed b t).bind db.seatNoOf,
      ((db.ticketed b t).map fun p => p.givenName ++ " " ++ p.familyName).getD "", t.issuedAt⟩
  createdAt := booking.createdAt

/-- A row of `bookings`, with its primary key. -/
abbrev BookingRow := BookingId × Booking

/-- The rows of `bookings` of a user, in no order; `bookings.ref` is unique. -/
structure UserBookings (db : Db) (userId : UserId) where
  rows : List BookingRow
  mem_iff : ∀ b booking, (b, booking) ∈ rows ↔
    db.booking b = some booking ∧ booking.userId = userId
  refs_nodup : (rows.map fun r => r.2.ref).Nodup

/-- The sort key of `list_bookings`: the newest booking first. -/
def BookingRow.newest (r : BookingRow) : Timeᵒᵈ := OrderDual.toDual r.2.createdAt

/-- `list_bookings`. -/
def listBookings (t : Timetable) {db : Db} {userId : UserId} (own : UserBookings db userId)
    (order : OrderBy BookingRow.newest own.rows) (page : ℕ) (size : PageSize) :
    Except ListingError (Page BookingResponse) :=
  if ¬ (1 ≤ page ∧ page ≤ maxPage) then .error .requestValidation
  else .ok (pageOf (fun r => toResponse t db r.1 r.2) order.list own.rows.length page size)

/-! ### What a request finds -/

/-- The moment a request for a page of a search is served, within the days one can
search. -/
structure SearchMoment (q : SearchQuery) where
  timetable : Timetable
  db : Db
  now : Time
  scheduled : q.Scheduled now
  order : OrderBy SearchRow.departAt (searchRows timetable db q now)

/-- The flights it matches, by their ids and departures. -/
def SearchMoment.found {q : SearchQuery} (m : SearchMoment q) : List (FlightId × Time) :=
  (m.timetable.matching q).map fun f => (f.id, f.departAt)

/-- The answer to the search. -/
def SearchMoment.serve {q : SearchQuery} (m : SearchMoment q) (page : ℕ) (size : PageSize) :
    Except ListingError (Page FlightSummary) :=
  searchFlights m.timetable m.db q m.now m.order page size

/-- The moment a request for a page of a user's bookings is served. -/
structure ListMoment (userId : UserId) where
  timetable : Timetable
  db : Db
  own : UserBookings db userId
  order : OrderBy BookingRow.newest own.rows

/-- The user's bookings, by their references and times of creation. -/
def ListMoment.found {userId : UserId} (m : ListMoment userId) : List (String × Timeᵒᵈ) :=
  m.own.rows.map fun r => (r.2.ref, r.newest)

/-- The answer to the listing. -/
def ListMoment.serve {userId : UserId} (m : ListMoment userId) (page : ℕ) (size : PageSize) :
    Except ListingError (Page BookingResponse) :=
  listBookings m.timetable m.own m.order page size

/-! ### The two endpoints -/

/-- What the pages of an ordered query are. -/
theorem serves_pageOf {ρ τ ι ν : Type} {serve : ℕ → Except ListingError (Page τ)} {id : τ → ι}
    {size : PageSize} {total : ℕ} (response : ℕ → ρ → τ) (rows : ℕ → List ρ) (read : ρ → ι × ν)
    (hid : ∀ p, ∀ r ∈ rows p, id (response p r) = (read r).1)
    (hserve : ∀ p, serve p = if ¬ (1 ≤ p ∧ p ≤ maxPage) then .error .requestValidation
      else .ok (pageOf (response p) (rows p) total p size)) :
    Serves serve id size.value maxPage total fun p => (rows p).map read := by
  intro p hp
  rw [hserve]
  constructor
  · intro page hpage
    split at hpage
    · simp at hpage
    · next hle =>
      obtain rfl := Except.ok.inj hpage
      refine ⟨(not_not.mp hle).2, ?_, rfl, rfl⟩
      show ((window size.value p (rows p)).map (response p)).map id =
        (window size.value p ((rows p).map read)).map Prod.fst
      rw [window, window, ← List.map_drop, ← List.map_take, List.map_map, List.map_map]
      exact List.map_congr_left fun r hr => hid p r (List.mem_of_mem_drop (List.mem_of_mem_take hr))
  · intro hle
    rw [if_neg (not_not.mpr ⟨hp, hle⟩)]
    exact ⟨_, rfl⟩

/-- A row of the search by its flight's id and departure. -/
def SearchRow.read (r : SearchRow) : FlightId × Time := (r.flight.id, r.departAt)

theorem SearchMoment.map_read {q : SearchQuery} (m : SearchMoment q) :
    (searchRows m.timetable m.db q m.now).map SearchRow.read = m.found := by
  rw [SearchMoment.found, ← searchRows_flights m.timetable m.db q m.now, List.map_map]
  rfl

/-- `search_flights` serves offset pages. -/
def searchPages (q : SearchQuery) (size : PageSize) :
    Endpoint (SearchMoment q) ListingError FlightSummary FlightId Time where
  serve m page := m.serve page size
  id := FlightSummary.id
  found := SearchMoment.found
  order m := m.order.map SearchRow.read (.of_eq m.map_read)
  size := size.value
  last := maxPage
  size_pos := size.pos
  last_pos := by decide
  serves requests total htotal := by
    refine serves_pageOf (fun _ => SearchRow.summary) (fun p => (requests p).order.list)
      SearchRow.read (fun _ _ _ => rfl) fun p => ?_
    have hlen : ((requests p).timetable.matching q).length = total := by
      rw [← htotal p, SearchMoment.found, List.length_map]
    rw [SearchMoment.serve, searchFlights, hlen]
    split
    · rfl
    · rw [if_neg (not_not.mpr (requests p).scheduled)]
  reorder m o := by
    obtain ⟨order, horder⟩ := o.exists_map SearchRow.read (.of_eq m.map_read)
    exact ⟨{ m with order := order }, rfl, horder⟩

/-- A booking by its reference and time of creation. -/
def BookingRow.read (r : BookingRow) : String × Timeᵒᵈ := (r.2.ref, r.newest)

/-- `list_bookings` serves offset pages. -/
def bookingPages (userId : UserId) (size : PageSize) :
    Endpoint (ListMoment userId) ListingError BookingResponse String Timeᵒᵈ where
  serve m page := m.serve page size
  id := BookingResponse.ref
  found := ListMoment.found
  order m := m.order.map BookingRow.read (.refl _)
  size := size.value
  last := maxPage
  size_pos := size.pos
  last_pos := by decide
  serves requests total htotal := by
    refine serves_pageOf (fun p r => toResponse (requests p).timetable (requests p).db r.1 r.2)
      (fun p => (requests p).order.list) BookingRow.read (fun _ _ _ => rfl) fun p => ?_
    have hlen : (requests p).own.rows.length = total := by
      rw [← htotal p, ListMoment.found, List.length_map]
    rw [ListMoment.serve, listBookings, hlen]
  reorder m o := by
    obtain ⟨order, horder⟩ := o.exists_map BookingRow.read (.refl _)
    exact ⟨{ m with order := order }, rfl, horder⟩

theorem SearchMoment.found_nodup {q : SearchQuery} (m : SearchMoment q) :
    (m.found.map Prod.fst).Nodup := by
  rw [SearchMoment.found, List.map_map]
  exact m.timetable.flights_nodup.sublist (List.filter_sublist.map FlightRow.id)

theorem ListMoment.found_nodup {userId : UserId} (m : ListMoment userId) :
    (m.found.map Prod.fst).Nodup := by
  rw [ListMoment.found, List.map_map]
  exact m.own.refs_nodup

/-- **Offset pages partition a listing exactly where they do not cut through a tie.**  Let
the flights a search matches, or the bookings of a user, be the same whenever a page is
served, and let everything else change.  There is a first page with `has_more = false`
exactly if the last page one may ask for comes to the end.  The pages up to it have every
row once and count them, however every query orders the rows with equal sort keys, exactly
if no page before it ends between two rows with one departure (one time of creation). -/
theorem pages_partition_iff (size : PageSize) :
    (∀ (q : SearchQuery) (first : SearchMoment q),
      (∀ moments : ℕ → SearchMoment q, (∀ p, (moments p).found.Perm first.found) →
        ((∃ pages, PageWalk (fun p => (moments p).serve p size) 1 pages) ↔
          first.found.length ≤ maxPage * size.value)) ∧
      ((∀ moments : ℕ → SearchMoment q, (∀ p, (moments p).found.Perm first.found) →
          ∀ pages, PageWalk (fun p => (moments p).serve p size) 1 pages →
            Partitions FlightSummary.id pages (first.found.map Prod.fst)) ↔
        (first.found.length ≤ maxPage * size.value →
          Separated Prod.snd size.value first.found))) ∧
    ∀ (userId : UserId) (first : ListMoment userId),
      (∀ moments : ℕ → ListMoment userId, (∀ p, (moments p).found.Perm first.found) →
        ((∃ pages, PageWalk (fun p => (moments p).serve p size) 1 pages) ↔
          first.found.length ≤ maxPage * size.value)) ∧
      ((∀ moments : ℕ → ListMoment userId, (∀ p, (moments p).found.Perm first.found) →
          ∀ pages, PageWalk (fun p => (moments p).serve p size) 1 pages →
            Partitions BookingResponse.ref pages (first.found.map Prod.fst)) ↔
        (first.found.length ≤ maxPage * size.value →
          Separated Prod.snd size.value first.found)) := by
  refine ⟨fun q first => ⟨fun moments hsame => ?_, ?_⟩,
    fun userId first => ⟨fun moments hsame => ?_, ?_⟩⟩
  · exact (searchPages q size).exists_walk_iff hsame
  · exact (searchPages q size).partitions_iff first first.found_nodup
  · exact (bookingPages userId size).exists_walk_iff hsame
  · exact (bookingPages userId size).partitions_iff first first.found_nodup

/-! ### Flights with one departure -/

/-- The search for the flights of `morningAndNoon`. -/
def ottawaToToronto : SearchQuery where
  origin := "YOW"
  destination := "yyz"
  departureDate := 1
  origin_iata := by decide
  destination_iata := by decide

/-- The rows of the search, where the flight 7 has two seats. -/
def morningRows : List SearchRow :=
  [⟨toToronto 7 "AC" (oneDay + seconds 28800), "Air Canada", some 2⟩,
    ⟨toToronto 8 "WS" (oneDay + seconds 28800), "WestJet", none⟩,
    ⟨toToronto 9 "AC" (oneDay + seconds 43200), "Air Canada", none⟩]

theorem searchRows_morning :
    searchRows morningAndNoon (.seeded 7 ⟨"CAD"⟩ 25000 2) ottawaToToronto 0 = morningRows := by
  decide +kernel

/-- The request for a page: whichever of the two early flights the database lists first. -/
def morningMoment (list : List SearchRow) (hperm : list.Perm morningRows)
    (hsorted : list.Pairwise fun r r' => r.departAt ≤ r'.departAt) :
    SearchMoment ottawaToToronto where
  timetable := morningAndNoon
  db := .seeded 7 ⟨"CAD"⟩ 25000 2
  now := 0
  scheduled := by decide
  order := ⟨list, hperm.trans (.of_eq searchRows_morning.symm), hsorted⟩

theorem morningMoment_serve {list : List SearchRow} (hperm : list.Perm morningRows)
    (hsorted : list.Pairwise fun r r' => r.departAt ≤ r'.departAt) (page : ℕ)
    (hpage : 1 ≤ page ∧ page ≤ maxPage) (size : PageSize) :
    (morningMoment list hperm hsorted).serve page size =
      .ok (pageOf SearchRow.summary list 3 page size) := by
  have htotal : (morningAndNoon.matching ottawaToToronto).length = 3 := by decide +kernel
  rw [SearchMoment.serve, searchFlights, if_neg (not_not.mpr hpage),
    if_neg (not_not.mpr (morningMoment list hperm hsorted).scheduled)]
  show Except.ok (pageOf SearchRow.summary list (morningAndNoon.matching ottawaToToronto).length
    page size) = _
  rw [htotal]

/-- In the order of their ids. -/
def inOrder : SearchMoment ottawaToToronto := morningMoment morningRows (.refl _) (by decide)

/-- With the flight 8 first. -/
def otherWay : SearchMoment ottawaToToronto :=
  morningMoment ((morningRows.take 2).reverse ++ morningRows.drop 2) (.swap _ _ _) (by decide)

/-- Pages of two rows end between eight and noon. -/
theorem separated_pairs : Separated Prod.snd 2 inOrder.found := by
  intro k hpos hlt
  have hlen : inOrder.found.length = 3 := by decide +kernel
  obtain rfl : k = 1 := by omega
  decide +kernel

/-- On pages of two, the three flights come once each. -/
theorem pages_partition_pairs :
    ∀ moments : ℕ → SearchMoment ottawaToToronto, (∀ p, (moments p).found.Perm inOrder.found) →
      ∀ pages, PageWalk (fun p => (moments p).serve p ⟨2, by decide, by decide⟩) 1 pages →
        Partitions FlightSummary.id pages (inOrder.found.map Prod.fst) :=
  ((pages_partition_iff ⟨2, by decide, by decide⟩).1 ottawaToToronto inOrder).2.mpr
    fun _ => separated_pairs

/-- On pages of one, where the second query lists the two early flights the other way
round, the first two pages are both the flight 7, and no page has the flight 8. -/
theorem page_repeated :
    ∃ (moments : ℕ → SearchMoment ottawaToToronto) (pages : List (Page FlightSummary)),
      (∀ p, (moments p).found.Perm inOrder.found) ∧
        PageWalk (fun p => (moments p).serve p ⟨1, by decide, by decide⟩) 1 pages ∧
        (pages.flatMap Page.items).map FlightSummary.id = [7, 7, 9] ∧
        ¬ Partitions FlightSummary.id pages (inOrder.found.map Prod.fst) := by
  have hfirst := morningMoment_serve (.refl morningRows) (by decide) 1 (by decide)
    ⟨1, by decide, by decide⟩
  have hsecond := morningMoment_serve (.swap _ _ _) (by decide) 2 (by decide)
    ⟨1, by decide, by decide⟩
  have hthird := morningMoment_serve (.refl morningRows) (by decide) 3 (by decide)
    ⟨1, by decide, by decide⟩
  have hsame : otherWay.found.Perm inOrder.found := .refl _
  refine ⟨fun p => if p = 2 then otherWay else inOrder, _, fun p => ?_,
    .more hfirst rfl (.more hsecond rfl (.last hthird rfl)), rfl, fun h => ?_⟩
  · dsimp only
    split
    · exact hsame
    · exact .refl _
  · exact absurd (h.items.nodup_iff.mpr inOrder.found_nodup) (by decide)

end SkyLock
