import SkyLock.Interference

/-!
# Updates of passenger names

`update_booking` of `app/api/bookings.py`, in one transaction.  It changes two
columns of the booking's own passengers and writes one audit row for them.

## Main definitions

* `amendPassengers` — the loop over the updates.
* `updateBooking` — the handler.

## Main results

* `Tables.updated` — an update keeps the tables consistent.
-/

namespace SkyLock

/-- The names of a passenger, as the audit row shows them. -/
def BookingPassenger.names (q : BookingPassenger) : JsonValue :=
  .obj [("given_name", .str q.givenName), ("family_name", .str q.familyName)]

/-- The assignments of one update: an empty name counts as none. -/
def PassengerUpdate.applyTo (u : PassengerUpdate) (q : BookingPassenger) : BookingPassenger :=
  { q with
    givenName := orDefault u.givenName q.givenName
    familyName := orDefault u.familyName q.familyName }

/-- The loop over the updates: the passenger rows it leaves and the changes it collects.
An update of a passenger that is not the booking's is skipped. -/
def amendPassengers (b : BookingId) :
    List PassengerUpdate → List BookingPassenger → List BookingPassenger × List JsonValue
  | [], rows => (rows, [])
  | u :: us, rows =>
    match rows.find? fun q => decide (q.bookingId = b) && decide (q.id = u.passengerId) with
    | none => amendPassengers b us rows
    | some q =>
      let rest := amendPassengers b us (rows.map fun r => if r.id = q.id then u.applyTo r else r)
      (rest.1, .obj [("passenger_id", .str (uuidText q.id)), ("before", q.names),
        ("after", (u.applyTo q).names)] :: rest.2)

/-- The database with other passenger rows. -/
@[simps -fullyApplied] def setPassengers (db : Db) (rows : List BookingPassenger) : Db :=
  { db with passengers := rows }

/-- `update_booking`. -/
def updateBooking (db : Db) (userId : UserId) (ref : String) (payload : BookingPatch) :
    Except AppError Db :=
  match ownedBooking db ref userId with
  | none => .error (.notFound "No such booking")
  | some (b, row) =>
    match requireState row.state [.confirmed, .ticketed] with
    | some e => .error e
    | none =>
      let amended := amendPassengers b payload.passengers db.passengers
      if amended.2.isEmpty then .ok (setPassengers db amended.1)
      else .ok ((setPassengers db amended.1).record b .passengerUpdated (some userId)
        (some row.state) (some row.state) [("changes", .arr amended.2)])

/-- An update leaves the rows of the booking it is for with other names, and one audit
row of a move from its state to its state, or none. -/
theorem updateBooking_eq_ok {db db' : Db} {u : UserId} {ref : String} {payload : BookingPatch}
    (h : updateBooking db u ref payload = .ok db') :
    ∃ b row, db.booking b = some row ∧ row.userId = u ∧
      (db' = setPassengers db (amendPassengers b payload.passengers db.passengers).1 ∨
        ∃ d, db' = (setPassengers db
          (amendPassengers b payload.passengers db.passengers).1).record b .passengerUpdated
            (some u) (some row.state) (some row.state) d) := by
  simp only [updateBooking] at h
  split at h
  · exact absurd h (by simp)
  · next b row howned =>
    split at h
    · exact absurd h (by simp)
    · obtain ⟨-, hrow, hu⟩ := ownedBooking_eq_some howned
      refine ⟨b, row, hrow, hu, ?_⟩
      split at h <;> obtain rfl := Except.ok.inj h
      · exact .inl rfl
      · exact .inr ⟨_, rfl⟩

/-! ### The tables -/

/-- The columns of a passenger row that other tables refer to. -/
def BookingPassenger.place (q : BookingPassenger) : PassengerId × BookingId × Option SeatId :=
  (q.id, q.bookingId, q.seatInventoryId)

/-- No update moves a passenger. -/
theorem amendPassengers_place (b : BookingId) :
    ∀ (us : List PassengerUpdate) (rows : List BookingPassenger),
      (amendPassengers b us rows).1.map BookingPassenger.place = rows.map BookingPassenger.place
  | [], _ => rfl
  | u :: us, rows => by
    simp only [amendPassengers]
    split
    · exact amendPassengers_place b us rows
    · next q hq =>
      refine (amendPassengers_place b us _).trans ?_
      rw [List.map_map]
      refine List.map_congr_left fun r _ => ?_
      simp only [Function.comp_apply]
      split <;> rfl

/-- The loop sees the rows of its booking: those of other bookings may be absent. -/
theorem amendPassengers_filter (keep : BookingId → Bool) {b : BookingId} (hb : keep b = true) :
    ∀ (us : List PassengerUpdate) (rows : List BookingPassenger),
      amendPassengers b us (rows.filter fun q => keep q.bookingId) =
        ((amendPassengers b us rows).1.filter fun q => keep q.bookingId,
          (amendPassengers b us rows).2)
  | [], _ => rfl
  | u :: us, rows => by
    have hfind : ((rows.filter fun q => keep q.bookingId).find? fun q =>
        decide (q.bookingId = b) && decide (q.id = u.passengerId)) =
          rows.find? fun q => decide (q.bookingId = b) && decide (q.id = u.passengerId) := by
      rw [List.find?_filter]
      congr 1
      funext q
      by_cases hq : q.bookingId = b
      · simp [hq, hb]
      · simp [hq]
    rw [amendPassengers, amendPassengers, hfind]
    split
    · exact amendPassengers_filter keep hb us rows
    · next q _ =>
      have hmap : (rows.filter fun q => keep q.bookingId).map
          (fun r => if r.id = q.id then u.applyTo r else r) =
            (rows.map fun r => if r.id = q.id then u.applyTo r else r).filter
              fun q => keep q.bookingId := by
        rw [List.filter_map]
        congr 1
        refine List.filter_congr fun r _ => ?_
        simp only [Function.comp_apply]
        split <;> rfl
      dsimp only
      rw [hmap, amendPassengers_filter keep hb us]

theorem exists_of_place {rows rows' : List BookingPassenger}
    (h : rows'.map BookingPassenger.place = rows.map BookingPassenger.place)
    {q : BookingPassenger} (hq : q ∈ rows') :
    ∃ q₀ ∈ rows, q₀.id = q.id ∧ q₀.bookingId = q.bookingId ∧
      q₀.seatInventoryId = q.seatInventoryId := by
  have hmem : q.place ∈ rows.map BookingPassenger.place := h ▸ List.mem_map_of_mem hq
  obtain ⟨q₀, hq₀, heq⟩ := List.mem_map.mp hmem
  simp only [BookingPassenger.place, Prod.mk.injEq] at heq
  exact ⟨q₀, hq₀, heq⟩

variable {G : Type}

/-- Tables whose passengers are where they were stay consistent. -/
theorem Tables.updated {s : Shared G} {db' : Db} {locks : SeatId → Option ℕ}
    {claimLocks : String × UserId → Option ℕ} (ht : Tables s) {u : UserId} {ref : String}
    {payload : BookingPatch} (h : updateBooking s.db u ref payload = .ok db') :
    Tables { s with db := db', locks := locks, claimLocks := claimLocks } := by
  obtain ⟨b, row, hrow, -, h⟩ := updateBooking_eq_ok h
  have hplace := amendPassengers_place b payload.passengers s.db.passengers
  generalize (amendPassengers b payload.passengers s.db.passengers).1 = rows at h hplace
  have hdb : ∃ audit, db' = { s.db with passengers := rows, audit := audit } := by
    rcases h with rfl | ⟨d, rfl⟩
    · exact ⟨s.db.audit, rfl⟩
    · exact ⟨_, rfl⟩
  obtain ⟨audit, rfl⟩ := hdb
  refine ⟨ht.seatIds, ht.checked, fun k hk => ?_, fun q hq => ?_, ?_, ht.payments.mono rfl le_rfl,
    fun t hmem => ?_,
    fun q hq => ?_, ht.pinned, ht.refs⟩
  · have hunborn := ht.unborn k hk
    have hnone : rows.filter (fun q => decide (q.bookingId = k)) = [] := by
      refine List.filter_eq_nil_iff.mpr fun q hq hqk => ?_
      obtain ⟨q₀, hq₀, -, hb, -⟩ := exists_of_place hplace hq
      have hpassengers : s.db.passengersOf k = [] := congrArg View.passengers hunborn
      refine List.filter_eq_nil_iff.mp hpassengers q₀ hq₀ ?_
      rw [hb]
      exact hqk
    rw [← hunborn]
    simp only [Shared.view, View.mk.injEq]
    refine ⟨trivial, ?_, rfl, rfl, rfl⟩
    exact hnone.trans (congrArg View.passengers hunborn).symm
  · obtain ⟨q₀, hq₀, hid, -⟩ := exists_of_place hplace hq
    rw [← hid]
    exact ht.passengerLt q₀ hq₀
  · have hids : rows.map BookingPassenger.id = s.db.passengers.map BookingPassenger.id := by
      have := congrArg (List.map Prod.fst) hplace
      simpa [BookingPassenger.place, Function.comp_def] using this
    show (rows.map BookingPassenger.id).Nodup
    rw [hids]
    exact ht.passengerIds
  · obtain ⟨q, hq, hid, hb, hseat⟩ := ht.seated t hmem
    obtain ⟨q', hq', hid', hb', hseat'⟩ := exists_of_place hplace.symm hq
    exact ⟨q', hq', hid'.trans hid, hb'.trans hb, hseat'.trans hseat⟩
  · obtain ⟨q₀, hq₀, -, hb, hseat⟩ := exists_of_place hplace hq
    obtain ⟨k, hk, hseat₀, row, hrow, hflight⟩ := ht.onFlight q₀ hq₀
    exact ⟨k, hk, hseat ▸ hseat₀, row, hb ▸ hrow, hflight⟩

end SkyLock
