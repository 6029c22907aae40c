import SkyLock.Availability

/-!
# Generating the inventory

`scripts/seed_flights.py` puts flights on sale on real routes.  What it computes in floating
point from a distance, and what it draws at random, is given; everything else is a fold over
the routes, the days, the departures and the cabins.  What it inserts is an initial database.

## Main definitions

* `CabinBlock`, `Aircraft.blocks` — the seat maps.
* `Seed` — the rows generated so far.
* `Seed.addBlock`, `Seed.addFlight`, `Seed.addRoute` — the loops.
* `seedFlights`, `Seed.db` — the rows, and the database they make up.

## Main results

* `Layout.addBlocks` — what the loop over the cabins keeps.
* `seeded_ready` — **the generated database is initial and satisfies the schema**.
-/

namespace SkyLock

/-! ### The seat maps -/

/-- `CabinBlock`; the multiplier is in tenths. -/
structure CabinBlock where
  cabin : String
  code : String
  multiplier : ℕ
  firstRow : ℕ
  lastRow : ℕ
  letters : List Char
  exitRows : List ℕ
  deriving DecidableEq, Repr

inductive Aircraft where
  | crj9
  | a320
  | b738
  | b77w
  deriving DecidableEq, Repr

/-- The keys of `AIRCRAFT`. -/
def Aircraft.key : Aircraft → String
  | .crj9 => "CRJ9"
  | .a320 => "A320"
  | .b738 => "B738"
  | .b77w => "B77W"

/-- `AIRCRAFT`. -/
def Aircraft.blocks : Aircraft → List CabinBlock
  | .crj9 => [⟨"economy", "Y", 10, 1, 19, "ABCD".toList, [10]⟩]
  | .a320 =>
    [⟨"business", "J", 28, 1, 3, "ACDF".toList, []⟩,
      ⟨"economy", "Y", 10, 10, 32, "ABCDEF".toList, [14, 15]⟩]
  | .b738 =>
    [⟨"business", "J", 28, 1, 4, "ACDF".toList, []⟩,
      ⟨"economy", "Y", 10, 10, 33, "ABCDEF".toList, [16, 17]⟩]
  | .b77w =>
    [⟨"business", "J", 34, 1, 7, "ACDFGJ".toList, []⟩,
      ⟨"premium", "W", 17, 20, 24, "ACDEFGHJ".toList, []⟩,
      ⟨"economy", "Y", 10, 30, 57, "ABCDEFGHJK".toList, [40, 41]⟩]

/-- `EXIT_ROW_SURCHARGE`. -/
def exitRowSurcharge : Cents := 2800

/-- `money` of an amount in tenths of a cent. -/
def moneyOfTenths (n : ℕ) : Cents := (n + 5) / 10

/-! ### The rows -/

/-- `FareClass`. -/
structure FareClass where
  id : ℕ
  flightId : FlightId
  code : String
  cabin : String
  multiplier : ℕ
  seatsTotal : ℕ
  deriving DecidableEq, Repr

/-- A generated row of `seat_inventory`. -/
structure SeatRow where
  id : SeatId
  inventory : SeatInventory
  features : SeatFeatures
  fareClassId : ℕ
  deriving DecidableEq, Repr

/-- `f"{row_no}{letter}"`. -/
def seatLabel (spot : ℕ × Char) : String := toString spot.1 ++ String.singleton spot.2

namespace CabinBlock

/-- `seat_count`. -/
def seatCount (b : CabinBlock) : ℕ := (b.lastRow - b.firstRow + 1) * b.letters.length

/-- The rows `range(first_row, last_row + 1)`, each with its letters. -/
def places (b : CabinBlock) : List (ℕ × Char) :=
  List.range' b.firstRow (b.lastRow + 1 - b.firstRow) ×ˢ b.letters

/-- `cabin_price`. -/
def cabinPrice (b : CabinBlock) (baseFare : Cents) : Cents :=
  moneyOfTenths (baseFare * b.multiplier)

/-- `price`. -/
def price (b : CabinBlock) (baseFare : Cents) (rowNo : ℕ) : Cents :=
  if rowNo ∈ b.exitRows then b.cabinPrice baseFare + exitRowSurcharge else b.cabinPrice baseFare

def fareClass (b : CabinBlock) (f : FlightRow) (id : ℕ) : FareClass :=
  ⟨id, f.id, b.code, b.cabin, b.multiplier, b.seatCount⟩

def seatRow (b : CabinBlock) (f : FlightRow) (fareClassId id : ℕ) (spot : ℕ × Char) : SeatRow where
  id := id
  inventory :=
    { flightId := f.id, seatNo := seatLabel spot, rowNo := spot.1, seatLetter := spot.2
      price := b.price f.baseFare spot.1, status := .available, heldByUserId := none
      holdId := none, holdExpiresAt := none, bookingId := none, version := 0 }
  features := ⟨b.cabin, decide (spot.1 ∈ b.exitRows)⟩
  fareClassId := fareClassId

/-- The seats of the cabin, with the keys drawn for them. -/
def seatRows (b : CabinBlock) (f : FlightRow) (fareClassId uuid : ℕ) : List SeatRow :=
  b.places.mapIdx fun k spot => b.seatRow f fareClassId (uuid + k) spot

end CabinBlock

/-! ### The loops -/

/-- The columns of `Route` the script reads. -/
structure Route where
  airlineIata : String
  srcIata : String
  dstIata : String
  deriving DecidableEq, Repr

/-- `DEPARTURE_SLOTS`. -/
def departureSlots : List (ℕ × ℕ) := [(7, 5), (9, 40), (12, 15), (14, 50), (17, 30), (20, 10)]

/-- What the distance of a route comes to, and what is drawn for it. -/
structure RouteDraw where
  /-- `int(round(distance_km / 850 * 60))`. -/
  cruise : ℕ
  /-- `round(distance_km * 0.085, 2)`. -/
  mileage : Cents
  aircraft : Aircraft
  slots : List (ℕ × ℕ)
  slots_nodup : slots.Nodup
  slots_subset : slots ⊆ departureSlots

/-- `block_minutes`. -/
def RouteDraw.blockMinutes (d : RouteDraw) : ℕ := d.cruise + 35

/-- `base_fare_for`. -/
def RouteDraw.baseFare (d : RouteDraw) : Cents := 6800 + d.mileage

/-- The rows generated so far, and `flight_no_counter`. -/
structure Seed where
  uuid : ℕ
  flightNoCounter : String → ℕ
  flights : List FlightRow
  fareClasses : List FareClass
  seats : List SeatRow

namespace Seed

/-- The body of the loop over the cabins. -/
def addBlock (f : FlightRow) (S : Seed) (b : CabinBlock) : Seed :=
  { S with
    uuid := S.uuid + 1 + b.places.length
    fareClasses := S.fareClasses ++ [b.fareClass f S.uuid]
    seats := S.seats ++ b.seatRows f S.uuid (S.uuid + 1) }

/-- The row of a flight. -/
def flightRow (r : Route) (d : RouteDraw) (flightNo : String) (id : FlightId) (depart : Time) :
    FlightRow where
  id := id
  flightNo := flightNo
  airlineIata := r.airlineIata
  srcIata := r.srcIata
  dstIata := r.dstIata
  departAt := depart
  arriveAt := depart + seconds (60 * d.blockMinutes)
  aircraftType := d.aircraft.key
  baseFare := d.baseFare
  currency := "CAD"

/-- The body of the loop over the departures. -/
def addFlight (r : Route) (d : RouteDraw) (flightNo : String) (S : Seed) (depart : Time) : Seed :=
  let f := flightRow r d flightNo S.uuid depart
  d.aircraft.blocks.foldl (addBlock f) { S with uuid := S.uuid + 1, flights := S.flights ++ [f] }

/-- The departures of a route, day by day. -/
def departures (day0 : Time) (days : ℕ) (slots : List (ℕ × ℕ)) : List Time :=
  (List.range days ×ˢ slots).map fun ds =>
    day0 + ds.1 * oneDay + seconds (3600 * ds.2.1 + 60 * ds.2.2)

/-- The body of the loop over the routes. -/
def addRoute (day0 : Time) (days : ℕ) (S : Seed) (r : Route × RouteDraw) : Seed :=
  let n := S.flightNoCounter r.1.airlineIata
  (departures day0 days r.2.slots).foldl (addFlight r.1 r.2 (r.1.airlineIata ++ toString n))
    { S with flightNoCounter := Function.update S.flightNoCounter r.1.airlineIata (n + 1) }

end Seed

/-- `main`, up to its INSERTs. -/
def seedFlights (day0 : Time) (days : ℕ) (routes : List (Route × RouteDraw)) : Seed :=
  routes.foldl (Seed.addRoute day0 days) ⟨0, fun _ => 100, [], [], []⟩

/-- What the INSERTs make of an empty inventory. -/
def Seed.db (S : Seed) : Db where
  seatIds := S.seats.map SeatRow.id
  seat := fun k => ((S.seats.find? fun t => t.id = k).map SeatRow.inventory).getD (.vacant 0 0 0)
  flight := fun f => (S.flights.find? fun r => r.id = f).map fun r => ⟨r.currency⟩
  booking := fun _ => none
  bookingRef := fun _ => none
  passengers := []
  payments := []
  tickets := []
  audit := []
  claims := fun _ => none

/-! ### Layouts -/

/-- A cabin is a block of rows of upper-case seats, at the base fare or more. -/
structure CabinBlock.Proper (b : CabinBlock) : Prop where
  rows_le : b.firstRow ≤ b.lastRow
  letters_nodup : b.letters.Nodup
  letters_upper : ∀ c ∈ b.letters, c.toUpper = c
  multiplier_ge : 10 ≤ b.multiplier

/-- The cabins lie one behind the other, and no two are of one fare class. -/
structure Layout (blocks : List CabinBlock) : Prop where
  proper : ∀ b ∈ blocks, b.Proper
  ordered : blocks.Pairwise fun b b' => b.lastRow < b'.firstRow ∧ b.code ≠ b'.code

theorem Aircraft.layout (a : Aircraft) : Layout a.blocks where
  proper b hb := by
    have hall : ∀ b ∈ a.blocks, b.firstRow ≤ b.lastRow ∧ b.letters.Nodup ∧
        (∀ c ∈ b.letters, c.toUpper = c) ∧ 10 ≤ b.multiplier := by
      cases a <;> simp [Aircraft.blocks]
    obtain ⟨hrows, hletters, hupper, hmultiplier⟩ := hall b hb
    exact ⟨hrows, hletters, hupper, hmultiplier⟩
  ordered := by cases a <;> simp [Aircraft.blocks]

/-- A label tells its row and its letter. -/
theorem seatLabel_injective : Function.Injective seatLabel := by
  rintro ⟨m, c⟩ ⟨n, d⟩ h
  have hlist : (toString m).toList ++ [c] = (toString n).toList ++ [d] := by
    simpa [seatLabel] using congrArg String.toList h
  obtain ⟨hrow, hletter⟩ := List.append_inj' hlist rfl
  obtain rfl := uuidText_injective (String.toList_inj.mp hrow)
  obtain rfl := List.singleton_inj.mp hletter
  rfl

theorem toUpper_of_isDigit {c : Char} (h : c.isDigit = true) : c.toUpper = c := by
  simp only [Char.isDigit, Bool.and_eq_true, decide_eq_true_eq] at h
  unfold Char.toUpper
  split
  · next hlower =>
    have hdigit : c.val.toNat ≤ 57 := UInt32.le_iff_toNat_le.mp h.2
    have hletter : 97 ≤ c.val.toNat := UInt32.le_iff_toNat_le.mp hlower.1
    omega
  · rfl

theorem seatLabel_toUpper {spot : ℕ × Char} (h : spot.2.toUpper = spot.2) :
    (seatLabel spot).toUpper = seatLabel spot := by
  have hdigits : (Nat.toDigits 10 spot.1).map Char.toUpper = Nat.toDigits 10 spot.1 := by
    refine (List.map_congr_left fun c hc => ?_).trans (List.map_id _)
    exact toUpper_of_isDigit (Nat.isDigit_of_mem_toDigits (by omega) (by omega) hc)
  rw [← String.toList_inj]
  simp [seatLabel, String.toUpper, String.toList_map, Nat.toList_repr, hdigits, h]

namespace CabinBlock

variable {b : CabinBlock} {f : FlightRow} {t : SeatRow}

theorem Proper.places_nodup (h : b.Proper) : b.places.Nodup :=
  List.Nodup.product List.nodup_range' h.letters_nodup

theorem Proper.length_places (h : b.Proper) : b.places.length = b.seatCount := by
  have hrows : b.lastRow + 1 - b.firstRow = b.lastRow - b.firstRow + 1 := by
    have hle := h.rows_le
    omega
  rw [places, List.length_product, List.length_range', hrows, seatCount]

theorem mem_places {spot : ℕ × Char} (h : spot ∈ b.places) :
    b.firstRow ≤ spot.1 ∧ spot.1 ≤ b.lastRow ∧ spot.2 ∈ b.letters := by
  obtain ⟨hrow, hletter⟩ := List.mem_product.mp h
  rw [List.mem_range'_1] at hrow
  exact ⟨hrow.1, by omega, hletter⟩

theorem mem_seatRows {c u : ℕ} (h : t ∈ b.seatRows f c u) :
    ∃ k, ∃ spot ∈ b.places, k < b.places.length ∧ t = b.seatRow f c (u + k) spot := by
  obtain ⟨k, hk, rfl⟩ := List.mem_mapIdx.mp h
  exact ⟨k, b.places[k], List.getElem_mem hk, hk, rfl⟩

@[simp] theorem length_seatRows (c u : ℕ) : (b.seatRows f c u).length = b.places.length :=
  List.length_mapIdx

/-- The keys of a cabin are drawn in a row. -/
theorem seatRows_id (c u : ℕ) :
    (b.seatRows f c u).map SeatRow.id = List.range' u b.places.length := by
  apply List.ext_getElem <;> simp [seatRows, seatRow]

theorem seatRows_label (c u : ℕ) :
    (b.seatRows f c u).map (fun t => (t.inventory.flightId, t.inventory.seatNo)) =
      b.places.map fun spot => (f.id, seatLabel spot) := by
  apply List.ext_getElem <;> simp [seatRows, seatRow]

/-- No seat costs less than the base fare. -/
theorem Proper.le_price (h : b.Proper) (baseFare : Cents) (rowNo : ℕ) :
    baseFare ≤ b.price baseFare rowNo := by
  have hten : baseFare * 10 ≤ baseFare * b.multiplier :=
    Nat.mul_le_mul_left baseFare h.multiplier_ge
  have hcabin : baseFare ≤ b.cabinPrice baseFare :=
    (Nat.le_div_iff_mul_le (by omega)).mpr (hten.trans (Nat.le_add_right _ 5))
  unfold price
  split
  · exact hcabin.trans (Nat.le_add_right _ _)
  · exact hcabin

end CabinBlock

/-! ### What the loop over the cabins keeps -/

namespace Seed

/-- Primary and foreign keys. -/
structure Keyed (S : Seed) : Prop where
  flights : (S.flights.map FlightRow.id).Nodup
  fareClasses : (S.fareClasses.map FareClass.id).Nodup
  seats : (S.seats.map SeatRow.id).Pairwise (· < ·)
  flightLt : ∀ f ∈ S.flights, f.id < S.uuid
  fareClassLt : ∀ c ∈ S.fareClasses, c.id < S.uuid
  seatLt : ∀ t ∈ S.seats, t.id < S.uuid
  fareClassFlight : ∀ c ∈ S.fareClasses, c.flightId ∈ S.flights.map FlightRow.id
  /-- A seat is of a fare class of its flight, in the cabin of that class. -/
  seatFareClass : ∀ t ∈ S.seats, ∃ c ∈ S.fareClasses, c.id = t.fareClassId ∧
    c.flightId = t.inventory.flightId ∧ c.cabin = t.features.cabin

/-- `uq_seat_per_flight` and `uq_fare_class`. -/
structure Labelled (S : Seed) : Prop where
  label : ∀ t ∈ S.seats, t.inventory.seatNo = seatLabel (t.inventory.rowNo, t.inventory.seatLetter)
  upper : ∀ t ∈ S.seats, t.inventory.seatNo.toUpper = t.inventory.seatNo
  seatNos : (S.seats.map fun t => (t.inventory.flightId, t.inventory.seatNo)).Nodup
  codes : (S.fareClasses.map fun c => (c.flightId, c.code)).Nodup

/-- `seats_total`, and what the seats cost. -/
structure Counted (S : Seed) : Prop where
  fareClasses : ∀ c ∈ S.fareClasses,
    (S.seats.countP fun t => t.fareClassId = c.id) = c.seatsTotal
  flights : ∀ k, (S.seats.countP fun t => t.inventory.flightId = k) =
    ((S.fareClasses.filter fun c => c.flightId = k).map FareClass.seatsTotal).sum
  vacant : ∀ t ∈ S.seats, ∃ f ∈ S.flights, f.id = t.inventory.flightId ∧
    f.baseFare ≤ t.inventory.price ∧ t.inventory.status = .available ∧
      t.inventory.heldByUserId = none ∧ t.inventory.holdId = none ∧
        t.inventory.holdExpiresAt = none ∧ t.inventory.bookingId = none

structure Sound (S : Seed) : Prop where
  keyed : S.Keyed
  labelled : S.Labelled
  counted : S.Counted

/-- The cabin lies behind what the flight has so far. -/
structure Ahead (f : FlightRow) (S : Seed) (b : CabinBlock) : Prop where
  codes : ∀ c ∈ S.fareClasses, c.flightId = f.id → c.code ≠ b.code
  rows : ∀ t ∈ S.seats, t.inventory.flightId = f.id → t.inventory.rowNo < b.firstRow

variable {S : Seed} {f : FlightRow} {b : CabinBlock}

theorem uuid_le_addBlock (f : FlightRow) (S : Seed) (b : CabinBlock) :
    S.uuid ≤ (S.addBlock f b).uuid :=
  (Nat.le_succ _).trans (Nat.le_add_right _ _)

theorem mem_addBlock_seats {t : SeatRow} (h : t ∈ (S.addBlock f b).seats) :
    t ∈ S.seats ∨ ∃ k, ∃ spot ∈ b.places, k < b.places.length ∧
      t = b.seatRow f S.uuid (S.uuid + 1 + k) spot :=
  (List.mem_append.mp h).imp_right CabinBlock.mem_seatRows

theorem mem_addBlock_fareClasses {c : FareClass} (h : c ∈ (S.addBlock f b).fareClasses) :
    c ∈ S.fareClasses ∨ c = b.fareClass f S.uuid :=
  (List.mem_append.mp h).imp_right List.mem_singleton.mp

theorem Keyed.addBlock (h : S.Keyed) (hf : f ∈ S.flights) : (S.addBlock f b).Keyed where
  flights := h.flights
  fareClasses := by
    rw [Seed.addBlock, List.map_append]
    refine List.Nodup.append h.fareClasses (List.nodup_singleton _) fun id hid hid' => ?_
    obtain ⟨c, hc, rfl⟩ := List.mem_map.mp hid
    exact absurd (h.fareClassLt c hc) (by rw [List.mem_singleton.mp hid']; exact lt_irrefl _)
  seats := by
    rw [Seed.addBlock, List.map_append, CabinBlock.seatRows_id]
    refine List.pairwise_append.mpr ⟨h.seats, List.pairwise_lt_range', fun id hid id' hid' => ?_⟩
    obtain ⟨t, ht, rfl⟩ := List.mem_map.mp hid
    have hlt := h.seatLt t ht
    have hge := (List.mem_range'_1.mp hid').1
    exact hlt.trans_le ((Nat.le_succ _).trans hge)
  flightLt f' hf' := (h.flightLt f' hf').trans_le (uuid_le_addBlock f S b)
  fareClassLt c hc := by
    rcases mem_addBlock_fareClasses hc with hc | rfl
    · exact (h.fareClassLt c hc).trans_le (uuid_le_addBlock f S b)
    · show S.uuid < S.uuid + 1 + b.places.length
      omega
  seatLt t ht := by
    rcases mem_addBlock_seats ht with ht | ⟨k, spot, -, hk, rfl⟩
    · exact (h.seatLt t ht).trans_le (uuid_le_addBlock f S b)
    · exact Nat.add_lt_add_left hk (S.uuid + 1)
  fareClassFlight c hc := by
    rcases mem_addBlock_fareClasses hc with hc | rfl
    · exact h.fareClassFlight c hc
    · exact List.mem_map_of_mem hf
  seatFareClass t ht := by
    rcases mem_addBlock_seats ht with ht | ⟨k, spot, -, -, rfl⟩
    · obtain ⟨c, hc, hsame⟩ := h.seatFareClass t ht
      exact ⟨c, List.mem_append_left _ hc, hsame⟩
    · exact ⟨b.fareClass f S.uuid, List.mem_append_right _ (List.mem_singleton_self _), rfl, rfl,
        rfl⟩

theorem Labelled.addBlock (h : S.Labelled) (hb : b.Proper) (ha : Ahead f S b) :
    (S.addBlock f b).Labelled where
  label t ht := by
    rcases mem_addBlock_seats ht with ht | ⟨k, spot, -, -, rfl⟩
    · exact h.label t ht
    · rfl
  upper t ht := by
    rcases mem_addBlock_seats ht with ht | ⟨k, spot, hspot, -, rfl⟩
    · exact h.upper t ht
    · exact seatLabel_toUpper (hb.letters_upper _ (CabinBlock.mem_places hspot).2.2)
  seatNos := by
    rw [Seed.addBlock, List.map_append, CabinBlock.seatRows_label]
    refine List.Nodup.append h.seatNos ?_ fun key hkey hkey' => ?_
    · refine hb.places_nodup.map fun spot spot' heq => ?_
      exact seatLabel_injective (congrArg Prod.snd heq)
    · obtain ⟨t, ht, rfl⟩ := List.mem_map.mp hkey
      obtain ⟨spot, hspot, heq⟩ := List.mem_map.mp hkey'
      obtain ⟨hflight, hlabel⟩ := Prod.mk.inj heq
      rw [h.label t ht] at hlabel
      have hrow : spot.1 = t.inventory.rowNo := congrArg Prod.fst (seatLabel_injective hlabel)
      have hlt := ha.rows t ht hflight.symm
      have hge := (CabinBlock.mem_places hspot).1
      omega
  codes := by
    rw [Seed.addBlock, List.map_append]
    refine List.Nodup.append h.codes (List.nodup_singleton _) fun key hkey hkey' => ?_
    obtain ⟨c, hc, rfl⟩ := List.mem_map.mp hkey
    obtain ⟨hflight, hcode⟩ := Prod.mk.inj (List.mem_singleton.mp hkey')
    exact ha.codes c hc hflight hcode

theorem Counted.addBlock (h : S.Counted) (hk : S.Keyed) (hf : f ∈ S.flights) (hb : b.Proper) :
    (S.addBlock f b).Counted where
  fareClasses c hc := by
    rw [Seed.addBlock, List.countP_append]
    rcases mem_addBlock_fareClasses hc with hc | rfl
    -- the new rows are of the new fare class
    · have hnew : (b.seatRows f S.uuid (S.uuid + 1)).countP (fun t => t.fareClassId = c.id) =
          0 := by
        refine List.countP_eq_zero.mpr fun t ht => ?_
        obtain ⟨k, spot, -, -, rfl⟩ := CabinBlock.mem_seatRows ht
        have hlt := hk.fareClassLt c hc
        simp [CabinBlock.seatRow, hlt.ne']
      rw [hnew, Nat.add_zero]
      exact h.fareClasses c hc
    -- and the old ones of older ones
    · have hold : S.seats.countP (fun t => t.fareClassId = S.uuid) = 0 := by
        refine List.countP_eq_zero.mpr fun t ht => ?_
        obtain ⟨c, hc, hid, -⟩ := hk.seatFareClass t ht
        have hlt := hk.fareClassLt c hc
        simpa [← hid] using hlt.ne
      have hnew : (b.seatRows f S.uuid (S.uuid + 1)).countP (fun t => t.fareClassId = S.uuid) =
          b.seatCount := by
        rw [← hb.length_places, ← CabinBlock.length_seatRows (f := f) S.uuid (S.uuid + 1)]
        refine List.countP_eq_length.mpr fun t ht => ?_
        obtain ⟨k, spot, -, -, rfl⟩ := CabinBlock.mem_seatRows ht
        exact decide_eq_true rfl
      show S.seats.countP (fun t => t.fareClassId = S.uuid) + _ = b.seatCount
      rw [hold, Nat.zero_add]
      exact hnew
  flights k := by
    simp only [Seed.addBlock, List.countP_append, List.filter_append, List.map_append,
      List.sum_append]
    rw [h.flights k]
    congr 1
    -- the cabin adds its seats to its own flight
    by_cases hid : f.id = k
    · have hall : (b.seatRows f S.uuid (S.uuid + 1)).countP (fun t => t.inventory.flightId = k) =
          b.seatCount := by
        rw [← hb.length_places, ← CabinBlock.length_seatRows (f := f) S.uuid (S.uuid + 1)]
        refine List.countP_eq_length.mpr fun t ht => ?_
        obtain ⟨k, spot, -, -, rfl⟩ := CabinBlock.mem_seatRows ht
        exact decide_eq_true hid
      rw [hall]
      simp [CabinBlock.fareClass, hid]
    · have hnone : (b.seatRows f S.uuid (S.uuid + 1)).countP (fun t => t.inventory.flightId = k) =
          0 := by
        refine List.countP_eq_zero.mpr fun t ht => ?_
        obtain ⟨k, spot, -, -, rfl⟩ := CabinBlock.mem_seatRows ht
        simp [CabinBlock.seatRow, hid]
      rw [hnone]
      simp [CabinBlock.fareClass, hid]
  vacant t ht := by
    rcases mem_addBlock_seats ht with ht | ⟨k, spot, -, -, rfl⟩
    · exact h.vacant t ht
    · exact ⟨f, hf, rfl, hb.le_price f.baseFare spot.1, rfl, rfl, rfl, rfl, rfl⟩

theorem Sound.addBlock (h : S.Sound) (hf : f ∈ S.flights) (hb : b.Proper) (ha : Ahead f S b) :
    (S.addBlock f b).Sound where
  keyed := h.keyed.addBlock hf
  labelled := h.labelled.addBlock hb ha
  counted := h.counted.addBlock h.keyed hf hb

/-- What lies behind the cabin lies behind it still. -/
theorem Ahead.addBlock {b' : CabinBlock} (h : Ahead f S b')
    (hbehind : b.lastRow < b'.firstRow ∧ b.code ≠ b'.code) : Ahead f (S.addBlock f b) b' where
  codes c hc hflight := by
    rcases mem_addBlock_fareClasses hc with hc | rfl
    · exact h.codes c hc hflight
    · exact hbehind.2
  rows t ht hflight := by
    rcases mem_addBlock_seats ht with ht | ⟨k, spot, hspot, -, rfl⟩
    · exact h.rows t ht hflight
    · exact (CabinBlock.mem_places hspot).2.1.trans_lt hbehind.1

@[simp] theorem addBlocks_flights (f : FlightRow) (S : Seed) (blocks : List CabinBlock) :
    (blocks.foldl (Seed.addBlock f) S).flights = S.flights := by
  induction blocks generalizing S with
  | nil => rfl
  | cons b blocks ih => exact ih (S.addBlock f b)

@[simp] theorem addBlocks_counter (f : FlightRow) (S : Seed) (blocks : List CabinBlock) :
    (blocks.foldl (Seed.addBlock f) S).flightNoCounter = S.flightNoCounter := by
  induction blocks generalizing S with
  | nil => rfl
  | cons b blocks ih => exact ih (S.addBlock f b)

end Seed

/-- **The loop over the cabins keeps the rows sound.** -/
theorem Layout.addBlocks {blocks : List CabinBlock} {S : Seed} {f : FlightRow}
    (hl : Layout blocks) (h : S.Sound) (hf : f ∈ S.flights)
    (ha : ∀ b ∈ blocks, Seed.Ahead f S b) : (blocks.foldl (Seed.addBlock f) S).Sound := by
  induction blocks generalizing S with
  | nil => exact h
  | cons b blocks ih =>
    obtain ⟨hbehind, hordered⟩ := List.pairwise_cons.mp hl.ordered
    obtain ⟨hb, hproper⟩ := List.forall_mem_cons.mp hl.proper
    obtain ⟨hahead, hrest⟩ := List.forall_mem_cons.mp ha
    rw [List.foldl_cons]
    refine ih ⟨hproper, hordered⟩ (h.addBlock hf hb hahead) hf fun b' hb' => ?_
    exact (hrest b' hb').addBlock (hbehind b' hb')

/-! ### The loops over the departures and the routes -/

namespace Seed

variable {S : Seed} {r : Route} {d : RouteDraw} {no : String} {depart : Time}

theorem Sound.addFlight (h : S.Sound) (r : Route) (d : RouteDraw) (no : String) (depart : Time) :
    (S.addFlight r d no depart).Sound := by
  have hnew : ∀ k ∈ S.flights.map FlightRow.id, k ≠ S.uuid := by
    intro k hk
    obtain ⟨f, hf, rfl⟩ := List.mem_map.mp hk
    exact (h.keyed.flightLt f hf).ne
  have hclass : ∀ c ∈ S.fareClasses, c.flightId ≠ S.uuid :=
    fun c hc => hnew _ (h.keyed.fareClassFlight c hc)
  have hseat : ∀ t ∈ S.seats, t.inventory.flightId ≠ S.uuid := by
    intro t ht
    obtain ⟨c, hc, -, hflight, -⟩ := h.keyed.seatFareClass t ht
    exact hflight ▸ hclass c hc
  refine d.aircraft.layout.addBlocks ⟨?_, ?_, ?_⟩
    (List.mem_append_right _ (List.mem_singleton_self _)) fun b _ =>
      ⟨fun c hc heq => absurd heq (hclass c hc), fun t ht heq => absurd heq (hseat t ht)⟩
  · exact {
      flights := by
        rw [List.map_append]
        refine List.Nodup.append h.keyed.flights (List.nodup_singleton _) fun id hid hid' => ?_
        exact hnew id hid (List.mem_singleton.mp hid')
      fareClasses := h.keyed.fareClasses
      seats := h.keyed.seats
      flightLt := by
        intro f hf
        rcases List.mem_append.mp hf with hf | hf
        · exact (h.keyed.flightLt f hf).trans (Nat.lt_succ_self _)
        · rw [List.mem_singleton.mp hf]
          exact Nat.lt_succ_self _
      fareClassLt := fun c hc => (h.keyed.fareClassLt c hc).trans (Nat.lt_succ_self _)
      seatLt := fun t ht => (h.keyed.seatLt t ht).trans (Nat.lt_succ_self _)
      fareClassFlight := by
        intro c hc
        rw [List.map_append]
        exact List.mem_append_left _ (h.keyed.fareClassFlight c hc)
      seatFareClass := h.keyed.seatFareClass }
  · exact ⟨h.labelled.label, h.labelled.upper, h.labelled.seatNos, h.labelled.codes⟩
  · refine ⟨h.counted.fareClasses, h.counted.flights, fun t ht => ?_⟩
    obtain ⟨f, hf, hrest⟩ := h.counted.vacant t ht
    exact ⟨f, List.mem_append_left _ hf, hrest⟩

theorem Sound.addRoute (h : S.Sound) (day0 : Time) (days : ℕ) (r : Route × RouteDraw) :
    (S.addRoute day0 days r).Sound := by
  have hcounter : ∀ counter, ({ S with flightNoCounter := counter } : Seed).Sound :=
    fun _ => ⟨⟨h.keyed.1, h.keyed.2, h.keyed.3, h.keyed.4, h.keyed.5, h.keyed.6, h.keyed.7,
      h.keyed.8⟩, ⟨h.labelled.1, h.labelled.2, h.labelled.3, h.labelled.4⟩,
        ⟨h.counted.1, h.counted.2, h.counted.3⟩⟩
  exact List.foldlRecOn _ _ (hcounter _) fun S' hS depart _ => hS.addFlight ..

/-! ### Flight numbers -/

/-- `uq_flight_instance` and `ck_flight_times`. -/
structure Numbered (S : Seed) : Prop where
  /-- The counter of an airline is ahead of its flight numbers. -/
  behind : ∀ f ∈ S.flights, ∃ m < S.flightNoCounter f.airlineIata,
    f.flightNo = f.airlineIata ++ toString m
  instances : (S.flights.map fun f => (f.airlineIata, f.flightNo, f.departAt)).Nodup
  times : ∀ f ∈ S.flights, f.departAt < f.arriveAt

/-- What the loop over the departures appends to the flights. -/
theorem addFlights_flights (r : Route) (d : RouteDraw) (no : String) (S : Seed)
    (departs : List Time) :
    (departs.foldl (Seed.addFlight r d no) S).flightNoCounter = S.flightNoCounter ∧
      ∃ new, (departs.foldl (Seed.addFlight r d no) S).flights = S.flights ++ new ∧
        new.map FlightRow.departAt = departs ∧
          ∀ f ∈ new, f.airlineIata = r.airlineIata ∧ f.flightNo = no ∧ f.departAt < f.arriveAt := by
  induction departs generalizing S with
  | nil => exact ⟨rfl, [], by simp⟩
  | cons depart departs ih =>
    rw [List.foldl_cons]
    obtain ⟨hcounter, new, hflights, hdeparts, hnew⟩ := ih (S.addFlight r d no depart)
    refine ⟨hcounter.trans (addBlocks_counter ..), flightRow r d no S.uuid depart :: new,
      ?_, ?_, ?_⟩
    · rw [hflights, Seed.addFlight, addBlocks_flights, List.append_assoc]
      rfl
    · rw [List.map_cons, hdeparts]
      rfl
    · refine List.forall_mem_cons.mpr ⟨⟨rfl, rfl, ?_⟩, hnew⟩
      show depart < depart + seconds (60 * (d.cruise + 35))
      exact Nat.lt_add_of_pos_right (by unfold seconds; omega)

/-- The departures of a route are all at different times. -/
theorem departures_nodup (day0 : Time) (days : ℕ) (d : RouteDraw) :
    (departures day0 days d.slots).Nodup := by
  have hslots : ∀ t ∈ departureSlots, 3600 * t.1 + 60 * t.2 < 86400 ∧ ∀ t' ∈ departureSlots,
      3600 * t.1 + 60 * t.2 = 3600 * t'.1 + 60 * t'.2 → t = t' := by decide
  refine List.Nodup.map_on ?_ (List.nodup_range.product d.slots_nodup)
  rintro ⟨i, t⟩ hi ⟨j, t'⟩ hj heq
  obtain ⟨hlt, hinj⟩ := hslots t (d.slots_subset (List.mem_product.mp hi).2)
  obtain ⟨hlt', -⟩ := hslots t' (d.slots_subset (List.mem_product.mp hj).2)
  simp only [oneDay, seconds, Time] at heq
  have hday : i = j := by omega
  subst hday
  rw [hinj t' (d.slots_subset (List.mem_product.mp hj).2) (by omega)]

theorem addRoute_flights (S : Seed) (day0 : Time) (days : ℕ) (r : Route × RouteDraw) :
    (S.addRoute day0 days r).flightNoCounter = Function.update S.flightNoCounter r.1.airlineIata
        (S.flightNoCounter r.1.airlineIata + 1) ∧
      ∃ new, (S.addRoute day0 days r).flights = S.flights ++ new ∧
        new.map FlightRow.departAt = departures day0 days r.2.slots ∧
          ∀ f ∈ new, f.airlineIata = r.1.airlineIata ∧
            f.flightNo = r.1.airlineIata ++ toString (S.flightNoCounter r.1.airlineIata) ∧
              f.departAt < f.arriveAt :=
  addFlights_flights ..

theorem Numbered.addRoute (h : S.Numbered) (day0 : Time) (days : ℕ) (r : Route × RouteDraw) :
    (S.addRoute day0 days r).Numbered := by
  obtain ⟨hcounter, new, hflights, hdeparts, hnew⟩ := S.addRoute_flights day0 days r
  have hmem : ∀ f ∈ (S.addRoute day0 days r).flights, f ∈ S.flights ∨ f ∈ new := by
    intro f hf
    exact List.mem_append.mp (hflights ▸ hf)
  refine ⟨fun f hf => ?_, ?_, fun f hf => ?_⟩
  · rw [hcounter]
    rcases hmem f hf with hf | hf
    · obtain ⟨m, hlt, hno⟩ := h.behind f hf
      refine ⟨m, ?_, hno⟩
      by_cases hairline : f.airlineIata = r.1.airlineIata
      · rw [hairline, Function.update_self]
        exact (hairline ▸ hlt).trans (Nat.lt_succ_self _)
      · rwa [Function.update_of_ne hairline]
    · obtain ⟨hairline, hno, -⟩ := hnew f hf
      refine ⟨S.flightNoCounter r.1.airlineIata, ?_, by rw [hno, hairline]⟩
      rw [hairline, Function.update_self]
      exact Nat.lt_succ_self _
  · rw [hflights, List.map_append]
    refine List.Nodup.append h.instances ?_ fun key hkey hkey' => ?_
    · refine List.Nodup.of_map (fun key => key.2.2) ?_
      rw [List.map_map]
      exact hdeparts ▸ departures_nodup day0 days r.2
    · -- a number the counter has not reached
      obtain ⟨f, hf, rfl⟩ := List.mem_map.mp hkey
      obtain ⟨f', hf', heq⟩ := List.mem_map.mp hkey'
      obtain ⟨hairline, hno, -⟩ := hnew f' hf'
      obtain ⟨m, hlt, hm⟩ := h.behind f hf
      obtain ⟨hsame, hrest⟩ := Prod.mk.inj heq
      have hsameno : f'.flightNo = f.flightNo := congrArg Prod.fst hrest
      rw [hno, hm, ← hsame, hairline] at hsameno
      have hm' : toString (S.flightNoCounter r.1.airlineIata) = toString m :=
        (String.append_right_inj _).mp hsameno
      rw [← hsame, hairline, ← uuidText_injective hm'] at hlt
      exact absurd hlt (lt_irrefl _)
  · rcases hmem f hf with hf | hf
    · exact h.times f hf
    · exact (hnew f hf).2.2

end Seed

/-! ### The database -/

variable {S : Seed}

theorem Seed.Sound.seat_eq (h : S.Sound) {t : SeatRow} (ht : t ∈ S.seats) :
    S.db.seat t.id = t.inventory := by
  have hfind : (S.seats.find? fun t' => t'.id = t.id) = some t := by
    rw [← List.head?_filter, filter_key_eq (h.keyed.seats.imp Nat.ne_of_lt) ht]
    rfl
  show ((S.seats.find? fun t' => t'.id = t.id).map SeatRow.inventory).getD _ = _
  rw [hfind]
  rfl

theorem Seed.Sound.mem_seatIds (h : S.Sound) {k : SeatId} (hk : k ∈ S.db.seatIds) :
    ∃ t ∈ S.seats, t.id = k ∧ S.db.seat k = t.inventory := by
  obtain ⟨t, ht, rfl⟩ := List.mem_map.mp hk
  exact ⟨t, ht, rfl, h.seat_eq ht⟩

/-- Nothing is held or sold. -/
theorem Seed.Sound.initial (h : S.Sound) : S.db.Initial where
  ids_sorted := h.keyed.seats
  seats k := by
    by_cases hk : k ∈ S.db.seatIds
    · obtain ⟨t, ht, -, hseat⟩ := h.mem_seatIds hk
      obtain ⟨-, -, -, -, hvacant⟩ := h.counted.vacant t ht
      rw [hseat]
      exact hvacant
    · have hnone : (S.seats.find? fun t => t.id = k) = none := by
        refine List.find?_eq_none.mpr fun t ht => ?_
        exact fun hid => hk (of_decide_eq_true hid ▸ List.mem_map_of_mem ht)
      have hseat : S.db.seat k = .vacant 0 0 0 := by
        simp only [Seed.db, hnone, Option.map_none, Option.getD_none]
      rw [hseat]
      exact ⟨rfl, rfl, rfl, rfl, rfl⟩
  booking _ := rfl
  bookingRef _ := rfl
  passengers := rfl
  payments := rfl
  tickets := rfl
  audit := rfl
  claims _ := rfl

theorem Seed.Sound.inventory (h : S.Sound) : S.db.Inventory where
  ids_nodup := h.keyed.seats.imp Nat.ne_of_lt
  seat_unique k hk k' hk' hflight hno := by
    obtain ⟨t, ht, rfl, hseat⟩ := h.mem_seatIds hk
    obtain ⟨t', ht', rfl, hseat'⟩ := h.mem_seatIds hk'
    rw [hseat, hseat'] at hflight hno
    exact congrArg SeatRow.id
      (List.inj_on_of_nodup_map h.labelled.seatNos ht ht' (Prod.ext hflight hno))
  seatNo_upper k hk := by
    obtain ⟨t, ht, -, hseat⟩ := h.mem_seatIds hk
    rw [hseat]
    exact h.labelled.upper t ht

theorem Seed.Sound.flight_isSome (h : S.Sound) {k : SeatId} (hk : k ∈ S.db.seatIds) :
    (S.db.flight (S.db.seat k).flightId).isSome := by
  obtain ⟨t, ht, -, hseat⟩ := h.mem_seatIds hk
  obtain ⟨f, hf, hid, -⟩ := h.counted.vacant t ht
  rw [hseat]
  simp only [Seed.db, Option.isSome_map, List.find?_isSome]
  exact ⟨f, hf, decide_eq_true hid⟩

/-- Every seat of a flight is on sale. -/
theorem Seed.Sound.takeableSeats_eq (h : S.Sound) (k : FlightId) (now : Time) :
    takeableSeats S.db k now =
      ((S.fareClasses.filter fun c => c.flightId = k).map FareClass.seatsTotal).sum := by
  rw [← h.counted.flights k, takeableSeats, Seed.db, List.countP_map]
  refine List.countP_congr fun t ht => ?_
  obtain ⟨-, -, -, -, hstatus, -⟩ := h.counted.vacant t ht
  have hseat := h.seat_eq ht
  simp only [Seed.db] at hseat
  simp only [Function.comp_apply, hseat, takeable, hstatus]
  simp

/-- **The generated database is ready for sale.**  Whatever the routes, what their distances
come to and what is drawn for them: nothing is held or sold; the keys, the unique constraints
and the foreign keys between the three generated tables hold (airlines and airports are not
generated here); each fare class has as many seats as it says, none below the base
fare; and every count of free seats is that of the fare classes. -/
theorem seeded_ready (day0 : Time) (days : ℕ) (routes : List (Route × RouteDraw)) :
    (seedFlights day0 days routes).Sound ∧ (seedFlights day0 days routes).Numbered ∧
      (seedFlights day0 days routes).db.Initial ∧ (seedFlights day0 days routes).db.Inventory ∧
        (∀ k ∈ (seedFlights day0 days routes).db.seatIds,
          ((seedFlights day0 days routes).db.flight
            ((seedFlights day0 days routes).db.seat k).flightId).isSome) ∧
          ∀ k now, takeableSeats (seedFlights day0 days routes).db k now =
            (((seedFlights day0 days routes).fareClasses.filter fun c => c.flightId = k).map
              FareClass.seatsTotal).sum := by
  have hempty : (⟨0, fun _ => 100, [], [], []⟩ : Seed).Sound :=
    ⟨⟨.nil, .nil, .nil, by simp, by simp, by simp, by simp, by simp⟩,
      ⟨by simp, by simp, .nil, .nil⟩, ⟨by simp, by simp, by simp⟩⟩
  have hsound : (seedFlights day0 days routes).Sound :=
    List.foldlRecOn routes (Seed.addRoute day0 days) hempty
      fun S hS r _ => hS.addRoute day0 days r
  have hnumbered : (seedFlights day0 days routes).Numbered :=
    List.foldlRecOn routes (Seed.addRoute day0 days) ⟨by simp, .nil, by simp⟩
      fun S hS r _ => hS.addRoute day0 days r
  exact ⟨hsound, hnumbered, hsound.initial, hsound.inventory, fun _ => hsound.flight_isSome,
    hsound.takeableSeats_eq⟩

end SkyLock
