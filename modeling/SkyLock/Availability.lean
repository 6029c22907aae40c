import Mathlib.Data.Set.Card
import SkyLock.BookingSaga
import SkyLock.Flights
import SkyLock.Scripts

/-!
# What "free" means

Six places compare the expiry of a hold with the clock.  Those that ask whether a seat can
be taken all go through `takeable`, so the search, the flight, the seat map and the hold
path agree at every instant.  Those that ask whether a hold is live agree with one another
as well.  But both comparisons are strict: at the very instant at which a hold expires it
is no longer live, and its seat cannot be taken yet.

## Main definitions

* `SeatInventory.classes` — the seat can be taken, it is a live hold, it is booked.
* `SeatInventory.expiresAt` — it is held until that instant.
* `grantable` — the seats `acquire_hold` would grant.

## Main results

* `one_meaning_of_free_iff` — **a seat is in exactly one class unless its hold expires at
  that instant, and all counts are those of the seats `acquire_hold` would grant**.
* `expiring_unclassified` — a hold at the instant of its expiry.
-/

namespace SkyLock

open OffsetPages

/-! ### Classes of seats -/

/-- The seat can be taken; it is a live hold; it is booked. -/
def SeatInventory.classes (r : SeatInventory) (now : Time) : List Bool :=
  [takeable r now, holdIsLive r now, r.status == .booked]

/-- The row is held until exactly that instant. -/
def SeatInventory.expiresAt (r : SeatInventory) (now : Time) : Bool :=
  r.status == .held && decide (r.holdExpiresAt = some now)

/-- A checked row is in exactly one class, unless its hold expires at that instant. -/
theorem classes_count_iff {r : SeatInventory} {now : Time} (h : r.checks = true) :
    (r.classes now).count true = 1 ↔ r.expiresAt now = false := by
  unfold SeatInventory.classes SeatInventory.expiresAt
  cases hstatus : r.status with
  | available => simp [takeable, holdIsLive, hstatus]
  | booked => simp [takeable, holdIsLive, hstatus]
  | held =>
    have hexpires : r.holdExpiresAt.isSome = true := by
      simp only [SeatInventory.checks, hstatus, Bool.and_eq_true, Bool.or_eq_true] at h
      rcases h.1 with hne | hsome
      · simp at hne
      · exact hsome.1.2
    obtain ⟨e, he⟩ := Option.isSome_iff_exists.mp hexpires
    rcases lt_trichotomy e now with hlt | rfl | hgt
    · simp [takeable, holdIsLive, hstatus, he, hlt, hlt.ne, hlt.not_gt]
    · simp [takeable, holdIsLive, hstatus, he]
    · simp [takeable, holdIsLive, hstatus, he, hgt, hgt.ne', hgt.not_gt]

/-- `count_active_holds` counts the live holds of the user. -/
theorem countActiveHolds_live (db : Db) (userId : UserId) (now : Time) :
    countActiveHolds db userId now = db.seatIds.countP fun s =>
      decide ((db.seat s).heldByUserId = some userId) && holdIsLive (db.seat s) now := rfl

/-- Step 1 of a booking reports the seats that are not live holds. -/
theorem expiredSeats_eq (seats : List SeatInstance) (now : Time) :
    expiredSeats seats now = seats.filter fun i => !holdIsLive i.row now := by
  unfold expiredSeats
  refine List.filter_congr fun i _ => ?_
  cases he : i.row.holdExpiresAt with
  | none => simp [secondsLeft, holdIsLive, he]
  | some e =>
    rcases Nat.lt_or_ge now e with hlt | hge
    · have hleft : ¬ ((e : ℤ) - now ≤ 0) := by omega
      simp [secondsLeft, holdIsLive, he, hleft, hlt, bne]
    · have hleft : (e : ℤ) - now ≤ 0 := by omega
      simp [secondsLeft, holdIsLive, he, hleft, not_lt.mpr hge]

/-! ### The seats `acquire_hold` would grant -/

/-- The inventory: primary keys, `uq_seat_per_flight`, and seat numbers in upper case, as
`seed_flights.py` writes them; no statement of the service assigns these columns. -/
structure Db.Inventory (db : Db) : Prop where
  ids_nodup : db.seatIds.Nodup
  seat_unique : ∀ s ∈ db.seatIds, ∀ s' ∈ db.seatIds, (db.seat s).flightId = (db.seat s').flightId →
    (db.seat s).seatNo = (db.seat s').seatNo → s = s'
  seatNo_upper : ∀ s ∈ db.seatIds, (db.seat s).seatNo.toUpper = (db.seat s).seatNo

/-- `acquire_hold`, where nothing comes between its statements. -/
def acquireHoldAtOnce (env : Env) (db : Db) (userId : UserId) (flightId : FlightId)
    (seatNo : String) (now : Time) (holdId : HoldId) : Except AppError (Db × SeatId) :=
  match holdCap env (countActiveHolds db userId now) with
  | some e => .error e
  | none => acquireHold env db userId flightId seatNo now holdId

/-- The seats of a flight `acquire_hold` would grant the user. -/
def grantable (env : Env) (db : Db) (userId : UserId) (flightId : FlightId) (now : Time) :
    Set SeatId :=
  {s | ∃ seatNo holdId db', acquireHoldAtOnce env db userId flightId seatNo now holdId = .ok (db', s)}

section Grants

variable {env : Env} {db : Db} {userId : UserId} {flightId : FlightId} {now : Time}

/-- Below the cap, these are the seats of the flight that can be taken. -/
theorem grantable_eq (h : db.Inventory)
    (hcap : countActiveHolds db userId now < env.maxActiveHoldsPerUser) :
    grantable env db userId flightId now =
      {s | s ∈ db.seatIds.filter fun s =>
        decide ((db.seat s).flightId = flightId) && takeable (db.seat s) now} := by
  have hbelow : holdCap env (countActiveHolds db userId now) = none := by
    rw [holdCap, if_neg (not_le.mpr hcap)]
  ext s
  simp only [grantable, acquireHoldAtOnce, hbelow, Set.mem_ofPred_eq, List.mem_filter,
    Bool.and_eq_true, decide_eq_true_eq]
  constructor
  · rintro ⟨seatNo, holdId, db', hok⟩
    unfold acquireHold at hok
    cases hfound : takeableSeat db flightId seatNo now with
    | none =>
      rw [hfound] at hok
      dsimp only at hok
      split at hok <;> simp at hok
    | some k =>
      rw [hfound] at hok
      obtain ⟨-, rfl⟩ := Prod.mk.inj (Except.ok.inj hok)
      have hseat := List.find?_some hfound
      simp only [SeatInventory.isSeat, Bool.and_eq_true, decide_eq_true_eq] at hseat
      exact ⟨List.mem_of_find?_eq_some hfound, hseat.1.1, hseat.2⟩
  · rintro ⟨hmem, hflight, htakeable⟩
    -- asked for by its own number, no other seat comes before it
    have hfound : takeableSeat db flightId (db.seat s).seatNo now = some s := by
      have hself : ((db.seat s).isSeat flightId (db.seat s).seatNo &&
          takeable (db.seat s) now) = true := by
        simp [SeatInventory.isSeat, hflight, h.seatNo_upper s hmem, htakeable]
      cases hfind : takeableSeat db flightId (db.seat s).seatNo now with
      | none => exact absurd hself (List.find?_eq_none.mp hfind s hmem)
      | some k =>
        have hk := List.find?_some hfind
        simp only [SeatInventory.isSeat, Bool.and_eq_true, decide_eq_true_eq,
          h.seatNo_upper s hmem] at hk
        rw [h.seat_unique k (List.mem_of_find?_eq_some hfind) s hmem (hk.1.1.trans hflight.symm)
          hk.1.2]
    exact ⟨(db.seat s).seatNo, 0, _, by rw [acquireHold, hfound]⟩

/-- Their number. -/
theorem ncard_grantable (h : db.Inventory)
    (hcap : countActiveHolds db userId now < env.maxActiveHoldsPerUser) :
    (grantable env db userId flightId now).ncard = takeableSeats db flightId now := by
  have hset : grantable env db userId flightId now = ((db.seatIds.filter fun s =>
      decide ((db.seat s).flightId = flightId) && takeable (db.seat s) now).toFinset :
        Set SeatId) := by
    rw [grantable_eq h hcap, List.coe_toFinset]
  rw [hset, Set.ncard_coe_finset, List.toFinset_card_of_nodup (h.ids_nodup.filter _),
    takeableSeats, List.countP_eq_length_filter]

end Grants

/-! ### The counts shown -/

/-- The count of an item of a search. -/
theorem searchFlights_seatsAvailable {t : Timetable} {db : Db} {q : SearchQuery} {now : Time}
    {order : OrderBy SearchRow.departAt (searchRows t db q now)} {page : ℕ} {size : PageSize}
    {answer : Page FlightSummary} (h : searchFlights t db q now order page size = .ok answer)
    {item : FlightSummary} (hitem : item ∈ answer.items) :
    item.seatsAvailable = some (takeableSeats db item.id now) := by
  unfold searchFlights at h
  split at h
  · simp at h
  · split at h
    · simp at h
    · obtain rfl := Except.ok.inj h
      obtain ⟨r, hr, rfl⟩ := List.mem_map.mp hitem
      have hlisted := order.perm.subset (List.mem_of_mem_drop (List.mem_of_mem_take hr))
      exact searchRow_seatsAvailable hlisted

/-- The count of a flight. -/
theorem getFlight_seatsAvailable {t : Timetable} {db : Db} {flightId : FlightId} {now : Time}
    {summary : FlightSummary} (h : getFlight t db flightId now = .ok summary) :
    summary.seatsAvailable = some (takeableSeats db flightId now) := by
  unfold getFlight at h
  split at h
  · simp at h
  · obtain rfl := Except.ok.inj h
    rfl

/-- The count of a seat map. -/
theorem seatMap_availableSeats {t : Timetable} {db : Db} {flightId : FlightId} {now : Time}
    {order : OrderBy db.place (db.seatsOfFlight flightId)} {answer : SeatMapResponse}
    (h : seatMap t db flightId now order = .ok answer) :
    answer.availableSeats = takeableSeats db flightId now := by
  unfold seatMap at h
  split at h
  · simp at h
  · obtain rfl := Except.ok.inj h
    have hseats : (order.list.map (seatResponse t db now)).countP SeatResponse.available =
        order.list.countP fun s => takeable (db.seat s) now := List.countP_map
    show (order.list.map (seatResponse t db now)).countP SeatResponse.available = _
    rw [hseats, order.perm.countP_eq, Db.seatsOfFlight, List.countP_filter, takeableSeats]
    exact List.countP_congr fun s _ => by rw [Bool.and_comm]

/-- **What "free" means.**  A seat row that satisfies its CHECK constraints can be taken, is
a live hold or is booked, and only one of these, exactly where it is not held until that
very instant; a live hold is what `count_active_holds` counts and what step 1 of a booking
accepts.  At every instant, the search, the flight and the seat map count the seats
`acquire_hold` would grant to a user below the cap. -/
theorem one_meaning_of_free_iff (now : Time) :
    (∀ r : SeatInventory, r.checks = true →
      ((r.classes now).count true = 1 ↔ r.expiresAt now = false)) ∧
    (∀ (db : Db) (userId : UserId),
      countActiveHolds db userId now = db.seatIds.countP fun s =>
        decide ((db.seat s).heldByUserId = some userId) && holdIsLive (db.seat s) now) ∧
    (∀ seats : List SeatInstance,
      expiredSeats seats now = seats.filter fun i => !holdIsLive i.row now) ∧
    ∀ (env : Env) (t : Timetable) (db : Db) (userId : UserId) (flightId : FlightId),
      db.Inventory → countActiveHolds db userId now < env.maxActiveHoldsPerUser →
        (∀ q order page size answer, searchFlights t db q now order page size = .ok answer →
          ∀ item ∈ answer.items, item.id = flightId →
            item.seatsAvailable = some (grantable env db userId flightId now).ncard) ∧
        (∀ summary, getFlight t db flightId now = .ok summary →
          summary.seatsAvailable = some (grantable env db userId flightId now).ncard) ∧
        ∀ order answer, seatMap t db flightId now order = .ok answer →
          answer.availableSeats = (grantable env db userId flightId now).ncard := by
  refine ⟨fun r h => classes_count_iff h, fun db userId => countActiveHolds_live db userId now,
    fun seats => expiredSeats_eq seats now, ?_⟩
  intro env t db userId flightId hdb hcap
  have hcount : (grantable env db userId flightId now).ncard = takeableSeats db flightId now :=
    ncard_grantable hdb hcap
  rw [hcount]
  refine ⟨?_, ?_, ?_⟩
  · intro q order page size answer hanswer item hitem hid
    rw [searchFlights_seatsAvailable hanswer hitem, hid]
  · intro summary hsummary
    exact getFlight_seatsAvailable hsummary
  · intro order answer hanswer
    exact seatMap_availableSeats hanswer

/-- Two seats on sale, of which the user 10 has held the first since the start. -/
def oneHeld : Db := acquiredDb demoEnv (.seeded 7 ⟨"CAD"⟩ 25000 2) 10 0 3 0

theorem oneHeld_inventory : oneHeld.Inventory where
  ids_nodup := by decide
  seat_unique := by decide +kernel
  seatNo_upper := by decide +kernel

/-- A second after its expiry, the hold is in one class, and the flight counts two seats. -/
theorem one_meaning_of_free_lapsed :
    ((oneHeld.seat 0).classes (seconds 601)).count true = 1 ∧
      ∀ summary, getFlight morningAndNoon oneHeld 7 (seconds 601) = .ok summary →
        summary.seatsAvailable = some (grantable demoEnv oneHeld 20 7 (seconds 601)).ncard :=
  ⟨((one_meaning_of_free_iff (seconds 601)).1 _ (by decide)).mpr (by decide),
    ((one_meaning_of_free_iff (seconds 601)).2.2.2 demoEnv morningAndNoon oneHeld 20 7
      oneHeld_inventory (by decide)).2.1⟩

/-- At the instant of its expiry, the hold is not live, and its seat cannot be taken. -/
theorem expiring_unclassified :
    (oneHeld.seat 0).checks = true ∧
      (oneHeld.seat 0).classes (seconds 600) = [false, false, false] := by
  decide

end SkyLock
