import SkyLock.SoloBookings
import SkyLock.Statements
import SkyLock.SweptRows

/-!
# Bookings over swept rows

A booking does the same over rows of which some were swept as over rows of which none was.
Step 1 sees the difference: a hold that was swept is not found, one that was not has
expired, and the booking is refused either way.  From then on the rows of the booking are
pinned, and a row that is pinned is never swept.

## Main definitions

* `SeatInventory.asked` — the WHERE clause of `_lock_seats_for_holds`.
* `ticketedRows`, `returnedRows` — what ticketing and a compensation leave of other rows.

## Main results

* `stepOpen_over`, `failCommit_over`, `stepIssue_over`, `stepCompensate_over` — the steps
  that write seats.
* `stepBooking_alike` — **every step of a booking over like rows**.
-/

namespace SkyLock

open Concurrent

/-! ### Step 1 -/

section StepOne

variable {L : SeatInventory → Prop} {db : Db} {seat : SeatId → SeatInventory}
  {claims : String × UserId → Option IdempotencyKey} {holdIds : List HoldId} {u : UserId}
  {now : Time}

/-- The WHERE clause of `_lock_seats_for_holds`. -/
def SeatInventory.asked (holdIds : List HoldId) (u : UserId) (r : SeatInventory) : Bool :=
  (r.holdId.any fun h => h ∈ holdIds) && decide (r.heldByUserId = some u)

theorem lockSeatsForHolds_eq (db : Db) (holdIds : List HoldId) (u : UserId) :
    lockSeatsForHolds db holdIds u =
      (db.seatIds.filter fun k => (db.seat k).asked holdIds u).map fun k => ⟨k, db.seat k⟩ := rfl

/-- The sweep leaves nothing to ask for. -/
theorem SeatInventory.Like.asked {r r' : SeatInventory} (h : r.Like L r')
    (hasked : r.asked holdIds u = true) :
    r'.asked holdIds u = true ∧ r = r'.atVersion r.version := by
  have hhold : r.holdId ≠ none := by
    intro hnone
    simp [SeatInventory.asked, hnone] at hasked
  have heq := h.same_of_hold hhold
  refine ⟨?_, heq⟩
  rw [heq] at hasked
  exact hasked

variable (claims) in
/-- Where no hold asked for was swept, step 1 locks the same rows. -/
theorem lockSeatsForHolds_over (hseat : ∀ k, (seat k).Like L (db.seat k))
    (hsame : ∀ k ∈ db.seatIds, (db.seat k).asked holdIds u = true →
      seat k = (db.seat k).atVersion (seat k).version) :
    lockSeatsForHolds (db.over seat claims) holdIds u =
      (lockSeatsForHolds db holdIds u).map (atVersion fun k => (seat k).version) := by
  have hfilter : (db.seatIds.filter fun k => (seat k).asked holdIds u) =
      db.seatIds.filter fun k => (db.seat k).asked holdIds u := by
    refine List.filter_congr fun k hk => Bool.eq_iff_iff.mpr ⟨fun h => ((hseat k).asked h).1, ?_⟩
    intro h
    rw [hsame k hk h]
    exact h
  rw [lockSeatsForHolds_eq, lockSeatsForHolds_eq, List.map_map]
  simp only [Db.over_seatIds, Db.over_seat, hfilter]
  refine List.map_congr_left fun k hk => ?_
  obtain ⟨hk, hasked⟩ := List.mem_filter.mp hk
  exact congrArg (Orm.Instance.mk k) (hsame k hk hasked)

/-- Where one was, it locks fewer. -/
theorem lockSeatsForHolds_lt (hseat : ∀ k, (seat k).Like L (db.seat k)) {k : SeatId}
    (hk : k ∈ db.seatIds) (hasked : (db.seat k).asked holdIds u = true)
    (hne : seat k ≠ (db.seat k).atVersion (seat k).version) :
    (lockSeatsForHolds (db.over seat claims) holdIds u).length <
      (lockSeatsForHolds db holdIds u).length := by
  have hfilter : (db.seatIds.filter fun k => (seat k).asked holdIds u) =
      (db.seatIds.filter fun k => (db.seat k).asked holdIds u).filter fun k =>
        (seat k).asked holdIds u := by
    rw [List.filter_filter]
    refine List.filter_congr fun k _ => ?_
    cases h : (seat k).asked holdIds u with
    | false => rfl
    | true => rw [((hseat k).asked h).1]; rfl
  rw [lockSeatsForHolds_eq, lockSeatsForHolds_eq, List.length_map, List.length_map]
  simp only [Db.over_seatIds, Db.over_seat]
  rw [hfilter, List.length_filter_lt_length_iff_exists]
  refine ⟨k, List.mem_filter.mpr ⟨hk, hasked⟩, fun h => hne ((hseat k).asked h).2⟩

/-- A hold id is on one seat, so step 1 locks no more rows than it is asked for. -/
theorem lockSeatsForHolds_le (hids : db.seatIds.Nodup)
    (hinj : ∀ k k' h, (db.seat k).holdId = some h → (db.seat k').holdId = some h → k = k') :
    (lockSeatsForHolds db holdIds u).length ≤ holdIds.length := by
  have hhold : ∀ k ∈ db.seatIds.filter fun k => (db.seat k).asked holdIds u,
      ∃ h ∈ holdIds, (db.seat k).holdId = some h := by
    intro k hk
    have hasked := List.of_mem_filter hk
    simp only [SeatInventory.asked, Bool.and_eq_true, Option.any_eq_true, decide_eq_true_eq]
      at hasked
    obtain ⟨⟨h, hh, hmem⟩, -⟩ := hasked
    exact ⟨h, hmem, hh⟩
  have hnodup : ((db.seatIds.filter fun k => (db.seat k).asked holdIds u).map fun k =>
      (db.seat k).holdId).Nodup := by
    refine List.Nodup.map_on ?_ (hids.filter _)
    intro k hk k' _ heq
    obtain ⟨h, -, hh⟩ := hhold k hk
    exact hinj k k' h hh (heq ▸ hh)
  have hsubset : ((db.seatIds.filter fun k => (db.seat k).asked holdIds u).map fun k =>
      (db.seat k).holdId) ⊆ holdIds.map some := by
    intro o ho
    obtain ⟨k, hk, rfl⟩ := List.mem_map.mp ho
    obtain ⟨h, hmem, hh⟩ := hhold k hk
    rw [hh]
    exact List.mem_map_of_mem hmem
  have hle := (List.subperm_of_subset hnodup hsubset).length_le
  rw [lockSeatsForHolds_eq]
  simpa using hle

/-- A row that may have been swept is reported as expired. -/
theorem expiredSeats_ne_nil (hL : SeatInventory.Lapsed L now) {k : SeatId} (hl : L (db.seat k))
    (hk : k ∈ db.seatIds) (hasked : (db.seat k).asked holdIds u = true) :
    expiredSeats (lockSeatsForHolds db holdIds u) now ≠ [] := by
  have hmem : (⟨k, db.seat k⟩ : SeatInstance) ∈ lockSeatsForHolds db holdIds u :=
    List.mem_map.mpr ⟨k, List.mem_filter.mpr ⟨hk, hasked⟩, rfl⟩
  obtain ⟨-, ⟨e, he, hlt⟩, -⟩ := SeatInventory.sweepable_iff.mp (hL.sweepable _ hl)
  have hexpired : (⟨k, db.seat k⟩ : SeatInstance) ∈
      expiredSeats (lockSeatsForHolds db holdIds u) now := by
    refine List.mem_filter.mpr ⟨hmem, ?_⟩
    have hleft : (e : ℤ) - now ≤ 0 := Int.sub_nonpos_of_le (Int.ofNat_le.mpr hlt.le)
    simp [secondsLeft, he, hleft]
  exact List.ne_nil_of_mem hexpired

/-- Over rows at other versions, step 1 opens the same booking. -/
theorem openBooking_over
    (hseats : lockSeatsForHolds (db.over seat claims) holdIds u =
      (lockSeatsForHolds db holdIds u).map (atVersion fun k => (seat k).version))
    {payload : BookingCreate} (hids : payload.holdIds = holdIds) (uuid : ℕ) (key : String)
    (pnr : ℕ → String) (refTaken : Bool) :
    openBooking (db.over seat claims) now uuid u key payload pnr refTaken =
      (openBooking db now uuid u key payload pnr refTaken).map fun o =>
        (o.1.over (Orm.flush SeatInventory.merge
            (((lockSeatsForHolds db holdIds u).map (atVersion fun k => (seat k).version)).map
              fun i => (i, i.row.pinned uuid)) seat) claims,
          o.2.atVersions fun k => (seat k).version + 1) := by
  subst hids
  have hpnr : uniquePnr (db.over seat claims) pnr = uniquePnr db pnr := rfl
  simp only [openBooking, hseats, hpnr, Db.over_flight, List.length_map, expiredSeats_atVersion,
    openedSaga_atVersion, List.map_map, ne_eq, List.map_eq_nil_iff]
  generalize lockSeatsForHolds db payload.holdIds u = seats
  have hflights : (fun i : SeatInstance => i.row.flightId) ∘
      (atVersion fun k => (seat k).version) = fun i => i.row.flightId := rfl
  have hnames : (fun i : SeatInstance => i.row.seatNo) ∘
      (atVersion fun k => (seat k).version) = fun i => i.row.seatNo := rfl
  simp only [hflights, hnames, Saga.atVersions_total]
  by_cases hlen : seats.length = payload.holdIds.length
  case neg => simp only [hlen, not_false_eq_true, if_true]; rfl
  by_cases hexpired : expiredSeats seats now = []
  case neg =>
    simp only [hlen, hexpired, not_true_eq_false, if_false, not_false_eq_true, if_true]
    rfl
  simp only [hlen, hexpired, not_true_eq_false, if_false]
  cases (seats.map fun i => i.row.flightId).dedup with
  | nil => rfl
  | cons f fs =>
    cases fs with
    | cons _ _ => rfl
    | nil =>
      dsimp only
      cases db.flight f with
      | none => rfl
      | some flight =>
        cases uniquePnr db pnr with
        | none => rfl
        | some ref =>
          dsimp only
          split_ifs
          · rfl
          · refine congrArg Except.ok (Prod.ext ?_ rfl)
            simp only [openedDb, Saga.atVersions_seats, Saga.atVersions_bookingId, List.map_map]
            rfl
          · rfl

end StepOne

section StepOne

variable {G : Type} {L : SeatInventory → Prop} {s : Shared G} {p : ℕ} {r : BookingRequest}
  {x : Draws} {seat : SeatId → SeatInventory}
  {claims : String × UserId → Option IdempotencyKey}

/-- The rows it pins are alike. -/
theorem pinned_like (key : String) (σ : Saga) (hseat : ∀ k, (seat k).Like L (s.db.seat k))
    {holdIds : List HoldId} {u : UserId} (hsame : ∀ k ∈ s.db.seatIds,
      (s.db.seat k).asked holdIds u = true → seat k = (s.db.seat k).atVersion (seat k).version)
    (k : SeatId) :
    (Orm.flush SeatInventory.merge (((lockSeatsForHolds s.db holdIds u).map
        (atVersion fun k => (seat k).version)).map fun i => (i, i.row.pinned σ.bookingId))
          seat k).Like L
      ((openedDb s.db σ u key s.clock (lockSeatsForHolds s.db holdIds u)).seat k) := by
  have hsame' : ∀ i ∈ lockSeatsForHolds s.db holdIds u,
      seat i.id = i.row.atVersion (seat i.id).version := by
    intro i hi
    obtain ⟨k, hk, rfl⟩ := List.mem_map.mp hi
    obtain ⟨hk, hasked⟩ := List.mem_filter.mp hk
    exact hsame k hk hasked
  have hfresh : ∀ i ∈ (lockSeatsForHolds s.db holdIds u).map
      (atVersion fun k => (seat k).version), i.row = seat i.id := by
    intro i hi
    obtain ⟨j, hj, rfl⟩ := List.mem_map.mp hi
    exact (hsame' j hj).symm
  rw [Orm.flush_fresh SeatInventory.merge (fun r c => SeatInventory.merge_fresh c r)
    (·.pinned σ.bookingId) seat hfresh k, map_atVersion_id,
    openedDb_seat fun i hi => (mem_lockSeatsForHolds hi).2.1]
  split
  · next hk =>
    obtain ⟨i, hi, rfl⟩ := List.mem_map.mp hk
    rw [hsame' i hi, (mem_lockSeatsForHolds hi).2.1]
    exact .pinned _ _
  · exact hseat k

/-- Step 1 of a booking whose holds are as they were in the other run. -/
theorem stepOpen_same (hseat : ∀ k, (seat k).Like L (s.db.seat k))
    (hclaims : ClaimsAlike claims s.db.claims)
    (hsame : ∀ k ∈ s.db.seatIds, (s.db.seat k).asked r.payload.holdIds r.userId = true →
      seat k = (s.db.seat k).atVersion (seat k).version) :
    Matched (Abreast L) (stepOpen (s.over seat claims) p r x .openBooking)
      (stepOpen s p r x .openBooking) := by
  have hseats := lockSeatsForHolds_over claims hseat hsame
  have hgate : (s.over seat claims).seatsFree = s.seatsFree := rfl
  simp only [stepOpen, Shared.over_db, Shared.over_clock, Shared.over_uuid, hgate, hseats,
    map_atVersion_id, openBooking_over hseats rfl]
  split_ifs
  case neg => exact .of_none
  cases hopen : openBooking s.db s.clock s.uuid r.userId r.key r.payload x.pnr x.refTaken with
  | error e => exact .of_some ⟨⟨seat, claims, rfl, hseat, hclaims⟩, raised_alike e none⟩
  | ok o =>
    obtain ⟨db, σ⟩ := o
    obtain ⟨-, -, flightId, flight, ref, -, -, -, -, -, rfl, rfl⟩ := openBooking_eq_ok hopen
    refine .of_some ⟨⟨_, claims, rfl, fun k => ?_, hclaims⟩,
      .atVersions (fun k => (seat k).version + 1) (.assess _)⟩
    exact pinned_like r.key (openedSaga r.payload
      (lockSeatsForHolds s.db r.payload.holdIds r.userId) s.uuid ref flightId flight) hseat hsame k

/-- Step 1 of a booking one of whose holds was swept: it locks fewer rows than it is asked
for, and in the other run one of them has expired. -/
theorem stepOpen_overtaken (hL : SeatInventory.Lapsed L s.clock)
    (hseat : ∀ k, (seat k).Like L (s.db.seat k)) (hclaims : ClaimsAlike claims s.db.claims)
    (ht : Tables s) (ha : HoldsApart s)
    (hfree : ∀ k ∈ s.db.seatIds, (seat k).bookingId = none → s.locks k = none) {k : SeatId}
    (hk : k ∈ s.db.seatIds)
    (hasked : (s.db.seat k).asked r.payload.holdIds r.userId = true)
    (hne : seat k ≠ (s.db.seat k).atVersion (seat k).version) :
    Matched (Abreast L) (stepOpen (s.over seat claims) p r x .openBooking)
      (stepOpen s p r x .openBooking) := by
  have hlapsed : L (s.db.seat k) := by
    rcases hseat k with ⟨v, hv⟩ | ⟨hl, -⟩
    · exact absurd (by rw [hv]; rfl) hne
    · exact hl
  have hlt : (lockSeatsForHolds (s.db.over seat claims) r.payload.holdIds r.userId).length <
      r.payload.holdIds.length :=
    (lockSeatsForHolds_lt hseat hk hasked hne).trans_le
      (lockSeatsForHolds_le (ht.seatIds.imp fun hlt => hlt.ne) ha.inj)
  have hmissing : openBooking (s.db.over seat claims) s.clock s.uuid r.userId r.key r.payload
      x.pnr x.refTaken =
        .error (.app (.notFound "One or more holds do not exist or are not yours")) := by
    rw [openBooking, if_pos hlt.ne]
  -- the rows it locks in the other run only are free
  have hgate : (s.over seat claims).seatsFree p
      ((lockSeatsForHolds (s.db.over seat claims) r.payload.holdIds r.userId).map
        Orm.Instance.id) = true →
      s.seatsFree p ((lockSeatsForHolds s.db r.payload.holdIds r.userId).map
        Orm.Instance.id) = true := by
    intro hgate
    refine List.all_eq_true.mpr fun k hmem => ?_
    obtain ⟨i, hi, rfl⟩ := List.mem_map.mp hmem
    obtain ⟨k, hfound, rfl⟩ := List.mem_map.mp hi
    obtain ⟨hk, hasked⟩ := List.mem_filter.mp hfound
    by_cases hasked' : (seat k).asked r.payload.holdIds r.userId = true
    · refine List.all_eq_true.mp hgate k (List.mem_map.mpr ⟨⟨k, seat k⟩, ?_, rfl⟩)
      exact List.mem_map.mpr ⟨k, List.mem_filter.mpr ⟨hk, hasked'⟩, rfl⟩
    · have hunlocked : s.locks k = none := by
        refine hfree k hk ?_
        rcases hseat k with ⟨v, hv⟩ | ⟨hl, v, hv⟩
        · rw [hv] at hasked'
          exact absurd hasked hasked'
        · rw [hv]
          exact (SeatInventory.sweepable_iff.mp (hL.sweepable _ hl)).2.2
      simp [hunlocked]
  simp only [stepOpen, Shared.over_db, Shared.over_clock, Shared.over_uuid, hmissing]
  split
  case isFalse => exact .of_none
  rw [if_pos (hgate ‹_›)]
  by_cases hlen : (lockSeatsForHolds s.db r.payload.holdIds r.userId).length =
      r.payload.holdIds.length
  · rw [openBooking, if_neg (not_not.mpr hlen),
      if_pos (expiredSeats_ne_nil hL hlapsed hk hasked)]
    exact .of_some ⟨⟨seat, claims, rfl, hseat, hclaims⟩, .selects (.overtaken (.mk _ _)) none⟩
  · rw [openBooking, if_pos hlen]
    exact .of_some ⟨⟨seat, claims, rfl, hseat, hclaims⟩, raised_alike (.app (.notFound _)) none⟩

/-- **Step 1 over like rows.** -/
theorem stepOpen_over (hL : SeatInventory.Lapsed L s.clock)
    (hseat : ∀ k, (seat k).Like L (s.db.seat k)) (hclaims : ClaimsAlike claims s.db.claims)
    (ht : Tables s) (ha : HoldsApart s)
    (hfree : ∀ k ∈ s.db.seatIds, (seat k).bookingId = none → s.locks k = none) :
    Matched (Abreast L) (stepOpen (s.over seat claims) p r x .openBooking)
      (stepOpen s p r x .openBooking) := by
  by_cases hsame : ∀ k ∈ s.db.seatIds, (s.db.seat k).asked r.payload.holdIds r.userId = true →
      seat k = (s.db.seat k).atVersion (seat k).version
  · exact stepOpen_same hseat hclaims hsame
  · push Not at hsame
    obtain ⟨k, hk, hasked, hne⟩ := hsame
    exact stepOpen_overtaken hL hseat hclaims ht ha hfree hk hasked hne

end StepOne

/-! ### `_fail_payment`, `_issue_tickets` and `_compensate` -/

section Seats

variable {G : Type} {L : SeatInventory → Prop} {s : Shared G} {p : ℕ} {r : BookingRequest}
  {x : Draws} {seat : SeatId → SeatInventory} {claims : String × UserId → Option IdempotencyKey}
  {v : SeatId → ℕ} {σ : Saga} {pay : Payment}

variable (claims) in
/-- The rows pinned to a booking are the same. -/
theorem seatsOf_over (hseat : ∀ k, (seat k).Like L (s.db.seat k)) (b : BookingId) :
    (s.db.over seat claims).seatsOf b = s.db.seatsOf b :=
  List.filter_congr fun k _ => by
    show decide ((seat k).bookingId = some b) = decide ((s.db.seat k).bookingId = some b)
    rw [(hseat k).bookingId]

variable (claims) in
/-- The SELECT of `_fail_payment` finds the same instances, some of them at the versions of
their rows. -/
theorem exists_failPaymentRows_over (hL : SeatInventory.Lapsed L s.clock)
    (hseat : ∀ k, (seat k).Like L (s.db.seat k)) (v : SeatId → ℕ) (σ : Saga) :
    ∃ w, σ.atVersions v = σ.atVersions w ∧
      failPaymentRows (s.db.over seat claims) (σ.atVersions v) =
        (failPaymentRows s.db σ).map (atVersion w) := by
  refine ⟨fun k => if k ∈ σ.seats.map Orm.Instance.id then v k else (seat k).version,
    Saga.atVersions_congr fun i hi => (if_pos (List.mem_map_of_mem hi)).symm, ?_⟩
  show (((s.db.over seat claims).seatsOf σ.bookingId).map fun k =>
    Orm.materialize (σ.seats.map (atVersion v)) k (seat k)) = _
  rw [seatsOf_over claims hseat, failPaymentRows, List.map_map]
  refine List.map_congr_left fun k hk => ?_
  have hpinned : (s.db.seat k).bookingId = some σ.bookingId := by
    simpa using List.of_mem_filter hk
  have hsame := (hseat k).same_of_pinned hL ((hseat k).bookingId ▸ hpinned ▸ by simp)
  have hfind : (σ.seats.map (atVersion v)).find? (fun i => decide (i.id = k)) =
      (σ.seats.find? fun i => decide (i.id = k)).map (atVersion v) := List.find?_map ..
  simp only [Function.comp_apply, Orm.materialize, hfind]
  cases hfound : σ.seats.find? fun i => decide (i.id = k) with
  | some i =>
    have hid : i.id = k := by simpa using List.find?_some hfound
    have hmem : i.id ∈ σ.seats.map Orm.Instance.id :=
      List.mem_map_of_mem (List.mem_of_find?_eq_some hfound)
    simp only [Option.map_some, Option.getD_some, atVersion, if_pos hmem]
  | none =>
    have hnot : k ∉ σ.seats.map Orm.Instance.id := by
      intro hmem
      obtain ⟨i, hi, hid⟩ := List.mem_map.mp hmem
      exact absurd (List.find?_eq_none.mp hfound i hi) (by simpa using hid)
    simp only [Option.map_none, Option.getD_none, atVersion, if_neg hnot]
    rw [← hsame]

/-- **The last transaction of `_fail_payment` over like rows.** -/
theorem failCommit_over (hL : SeatInventory.Lapsed L s.clock)
    (hseat : ∀ k, (seat k).Like L (s.db.seat k)) (hclaims : ClaimsAlike claims s.db.claims)
    (ht : Tables s) {f : PaymentFailure} {rows : List SeatInstance}
    (hrows : ∀ i ∈ rows, i.row.bookingId = some σ.bookingId) :
    Matched (Abreast L)
      (stepOpen (s.over seat claims) p r x
        (.failCommit (σ.atVersions v) f (rows.map (atVersion v))))
      (stepOpen s p r x (.failCommit σ f rows)) := by
  have hgate : (s.over seat claims).seatsFree = s.seatsFree := rfl
  have hloaded : ∀ i ∈ rows, i.row.bookingId.isSome := fun i hi => by rw [hrows i hi]; rfl
  have hloaded' : ∀ i ∈ rows.map (atVersion v), i.row.bookingId.isSome := by
    intro i hi
    obtain ⟨j, hj, rfl⟩ := List.mem_map.mp hi
    exact hloaded j hj
  -- what the flushes leave of each row
  have hlike : ∀ k, ((failedDb (s.db.over seat claims) (σ.atVersions v) f
      (rows.map (atVersion v))).seat k).Like L ((failedDb s.db σ f rows).seat k) := by
    intro k
    by_cases hk : k ∈ rows.map Orm.Instance.id
    · obtain ⟨w, hw⟩ := failedDb_seat_of_mem (s.db.over seat claims) (σ.atVersions v) f hloaded'
        (map_atVersion_id (v := v) ▸ hk)
      obtain ⟨w', hw'⟩ := failedDb_seat_of_mem s.db σ f hloaded hk
      rw [hw, hw']
      exact (hseat k).unpinned hL w w'
    · have hk' : k ∉ (rows.map (atVersion v)).map Orm.Instance.id := by rwa [map_atVersion_id]
      rw [failedDb_seat_of_notMem hk', failedDb_seat_of_notMem hk]
      exact hseat k
  have hchecked : (failedDb (s.db.over seat claims) (σ.atVersions v) f
      (rows.map (atVersion v))).seatsChecked (rows.map Orm.Instance.id) =
        (failedDb s.db σ f rows).seatsChecked (rows.map Orm.Instance.id) := by
    refine Bool.eq_iff_iff.mpr ?_
    rw [seatsChecked_iff, seatsChecked_iff]
    refine forall₂_congr fun k hk => ?_
    rcases hlike k with ⟨w, hw⟩ | ⟨hl, w, hw⟩
    · rw [hw]
      rfl
    · -- a row that was swept, and the hold it was
      rw [hw]
      obtain ⟨w', hw'⟩ := failedDb_seat_of_mem s.db σ f hloaded hk
      have hstatus := (SeatInventory.sweepable_iff.mp (hL.sweepable _ hl)).1
      rw [hw'] at hstatus ⊢
      refine iff_of_true rfl (SeatInventory.checks_of_unbooked (ht.checked k) ?_ w')
      simp [show (s.db.seat k).status = .held from hstatus]
  simp only [stepOpen, Shared.over_db, hgate, map_atVersion_id, failPayment, hchecked]
  split_ifs
  · exact .of_some ⟨⟨_, claims, rfl, hlike, hclaims⟩, .refl _ fun _ => rfl⟩
  · exact .of_some ⟨⟨seat, claims, rfl, hseat, hclaims⟩,
      raised_alike (.integrityError .seatCheck) _⟩
  · exact .of_none

theorem noteLapsed_over (db : Db) (u : UserId) (now : Time) :
    noteLapsed (db.over seat claims) (σ.atVersions v) u now =
      (noteLapsed db σ u now).over seat claims := by
  unfold noteLapsed
  rw [locked_atVersions, List.filter_map, List.foldl_map]
  exact List.foldl_hom (Db.over seat claims) fun _ _ => rfl

/-- What the flushes of `_issue_tickets` leave, over other rows. -/
def ticketedRows (seat : SeatId → SeatInventory) (v : SeatId → ℕ) (b : BookingId)
    (assigned : List (BookingPassenger × SeatInstance)) : SeatId → SeatInventory :=
  Orm.flush SeatInventory.merge (ticketedSeats b (assigned.map (Prod.map id (atVersion v)))) seat

theorem issuedDb_over (db : Db) (tickets : List Ticket)
    (assigned : List (BookingPassenger × SeatInstance)) :
    issuedDb (db.over seat claims) (σ.atVersions v) tickets
        (assigned.map (Prod.map id (atVersion v))) =
      (issuedDb db σ tickets assigned).over (ticketedRows seat v σ.bookingId assigned) claims := by
  have hdetail : issuedDetail tickets (assigned.map (Prod.map id (atVersion v))) =
      issuedDetail tickets assigned := by
    unfold issuedDetail
    rw [List.zip_map_right, List.map_map]
    rfl
  simp only [issuedDb, hdetail]
  rfl

theorem newTickets_over (uuid : ℕ) (now : Time) (eTicketNo : ℕ → String)
    (assigned : List (BookingPassenger × SeatInstance)) (b : BookingId) :
    newTickets b uuid now eTicketNo (assigned.map (Prod.map id (atVersion v))) =
      newTickets b uuid now eTicketNo assigned := by
  refine List.ext_getElem (by simp [newTickets]) fun k hk _ => ?_
  simp only [newTickets, List.getElem_mapIdx, List.getElem_map]
  rfl

/-- The instances of a saga after ticketing. -/
theorem afterIssue_over (assigned : List (BookingPassenger × SeatInstance)) :
    (σ.atVersions v).afterIssue (assigned.map (Prod.map id (atVersion v))) =
      (σ.afterIssue assigned).atVersions fun k =>
        if k ∈ assigned.map fun pi => pi.2.id then v k + 1 else v k := by
  have hids : (assigned.map (Prod.map id (atVersion v))).map (fun pi => pi.2.id) =
      assigned.map fun pi => pi.2.id := by
    rw [List.map_map]
    rfl
  simp only [Saga.afterIssue, Saga.atVersions, hids, List.map_map]
  congr 1
  refine List.map_congr_left fun i _ => ?_
  simp only [Function.comp_apply, atVersion_id]
  by_cases hi : i.id ∈ assigned.map fun pi => pi.2.id
  · simp only [atVersion, hi, if_true]
    rfl
  · simp only [atVersion, hi, if_false]

/-- Of each row the flushes leave a like one, and the constraints reject both or neither. -/
theorem ticketedRows_like (hL : SeatInventory.Lapsed L s.clock)
    (hseat : ∀ k, (seat k).Like L (s.db.seat k)) {u : UserId} {state : BookingState} {V : View}
    (hbefore : σ.Before u state V) {assigned : List (BookingPassenger × SeatInstance)}
    (hassigned : σ.assigned = some assigned) :
    (∀ k, k ∈ assigned.map (fun pi => pi.2.id) →
      (ticketedRows seat v σ.bookingId assigned k).checks =
        ((s.db.flushSeats (ticketedSeats σ.bookingId assigned)).seat k).checks) ∧
    ((s.db.flushSeats (ticketedSeats σ.bookingId assigned)).seatsChecked
        (assigned.map fun pi => pi.2.id) = true →
      ∀ k, (ticketedRows seat v σ.bookingId assigned k).Like L
        ((s.db.flushSeats (ticketedSeats σ.bookingId assigned)).seat k)) := by
  have hids := hbefore.seated.assigned_ids hassigned
  have hrows : ∀ pi ∈ assigned.map (Prod.map id (atVersion v)), pi.2.row.status = .held ∧
      pi.2.row.holdId.isSome ∧ pi.2.row.holdExpiresAt.isSome ∧
        pi.2.row.bookingId = some σ.bookingId := by
    intro pi hpi
    obtain ⟨qi, hqi, rfl⟩ := List.mem_map.mp hpi
    have hi : qi.2 ∈ σ.seats := by
      rw [← (hbefore.seated.mem_assigned hassigned).2]
      exact List.mem_map_of_mem hqi
    exact ⟨hbefore.pinned.status qi.2 hi, hbefore.pinned.hold qi.2 hi,
      hbefore.pinned.expiry qi.2 hi, hbefore.pinned.booking qi.2 hi⟩
  have hmapped : (assigned.map (Prod.map id (atVersion v))).map (fun pi => pi.2.id) =
      assigned.map fun pi => pi.2.id := by
    rw [List.map_map]
    rfl
  have hbooked : ∀ k ∈ assigned.map fun pi => pi.2.id, ∃ w w',
      ticketedRows seat v σ.bookingId assigned k =
        { seat k with status := .booked, holdId := none, holdExpiresAt := none, version := w } ∧
      (s.db.flushSeats (ticketedSeats σ.bookingId assigned)).seat k =
        { s.db.seat k with
          status := .booked, holdId := none, holdExpiresAt := none, version := w' } := by
    intro k hk
    obtain ⟨w, hw⟩ : ∃ w, (((s.db.over seat s.db.claims).flushSeats (ticketedSeats σ.bookingId
        (assigned.map (Prod.map id (atVersion v))))).seat k) = _ :=
      flushTicketed_seat_of_mem hrows (hmapped.symm ▸ hk)
    obtain ⟨w', hw'⟩ := hbefore.issued_seat hassigned s.db (hids ▸ hk)
    exact ⟨w, w', hw, hw'⟩
  refine ⟨fun k hk => ?_, fun hchecked k => ?_⟩
  · obtain ⟨w, w', hw, hw'⟩ := hbooked k hk
    rw [hw, hw']
    simp [SeatInventory.checks, (hseat k).bookingId]
  · by_cases hk : k ∈ assigned.map fun pi => pi.2.id
    · obtain ⟨w, w', hw, hw'⟩ := hbooked k hk
      have hchecks := seatsChecked_iff.mp hchecked k hk
      rw [hw'] at hchecks
      have hsome := SeatInventory.bookingId_isSome_of_checks hchecks rfl
      rw [hw, hw']
      refine (hseat k).booked ?_ hL w w'
      rw [(hseat k).bookingId]
      exact Option.isSome_iff_ne_none.mp hsome
    · rw [flushTicketed_seat_of_notMem hk]
      have hkept : ticketedRows seat v σ.bookingId assigned k = seat k :=
        Orm.flush_of_notMem _ _ (by simpa [ticketedSeats, Function.comp_def] using hk)
      rw [hkept]
      exact hseat k

variable (claims) in
/-- The flushes of `_issue_tickets` go through over both rows or over neither. -/
theorem issueAssigned_over (db : Db) (now : Time) (uuid : ℕ) (eTicketNo : ℕ → String)
    (seqTaken : Bool) {assigned : List (BookingPassenger × SeatInstance)}
    (hchecks : ∀ k ∈ assigned.map fun pi => pi.2.id,
      (ticketedRows seat v σ.bookingId assigned k).checks =
        ((db.flushSeats (ticketedSeats σ.bookingId assigned)).seat k).checks) :
    (∃ e, issueAssigned (db.over seat claims) now uuid (σ.atVersions v) eTicketNo seqTaken
        (assigned.map (Prod.map id (atVersion v))) = .raised e ∧
      issueAssigned db now uuid σ eTicketNo seqTaken assigned = .raised e) ∨
    (db.flushSeats (ticketedSeats σ.bookingId assigned)).seatsChecked
        (assigned.map fun pi => pi.2.id) = true ∧
      issueAssigned (db.over seat claims) now uuid (σ.atVersions v) eTicketNo seqTaken
          (assigned.map (Prod.map id (atVersion v))) =
        .issued ((issuedDb db σ (newTickets σ.bookingId uuid now eTicketNo assigned)
            assigned).over (ticketedRows seat v σ.bookingId assigned) claims)
          ((σ.afterIssue assigned).atVersions fun k =>
            if k ∈ assigned.map fun pi => pi.2.id then v k + 1 else v k) ∧
      issueAssigned db now uuid σ eTicketNo seqTaken assigned =
        .issued (issuedDb db σ (newTickets σ.bookingId uuid now eTicketNo assigned) assigned)
          (σ.afterIssue assigned) := by
  have hmapped : (assigned.map (Prod.map id (atVersion v))).map (fun pi => pi.2.id) =
      assigned.map fun pi => pi.2.id := by
    rw [List.map_map]
    rfl
  have hchecked : ∀ tickets, ((issuedDb db σ tickets assigned).over
      (ticketedRows seat v σ.bookingId assigned) claims).seatsChecked
        (assigned.map fun pi => pi.2.id) =
      (db.flushSeats (ticketedSeats σ.bookingId assigned)).seatsChecked
        (assigned.map fun pi => pi.2.id) := by
    intro tickets
    refine Bool.eq_iff_iff.mpr ?_
    rw [seatsChecked_iff, seatsChecked_iff]
    exact forall₂_congr fun k hk => by rw [← hchecks k hk]; rfl
  have hchecked' : ∀ tickets, (issuedDb db σ tickets assigned).seatsChecked =
      (db.flushSeats (ticketedSeats σ.bookingId assigned)).seatsChecked := fun _ => rfl
  have hunique : (db.over seat claims).ticketsUnique = db.ticketsUnique := rfl
  simp only [issueAssigned, newTickets_over, Saga.atVersions_bookingId, Saga.atVersions_state,
    issuedDb_over, hmapped, hchecked, hchecked', hunique, afterIssue_over]
  generalize db.ticketsUnique _ = unique
  generalize (db.flushSeats (ticketedSeats σ.bookingId assigned)).seatsChecked _ = checked
  generalize assertCanTransition σ.state .ticketed = legal
  cases unique with
  | false => exact .inl ⟨_, rfl, rfl⟩
  | true =>
    cases checked with
    | false => exact .inl ⟨_, rfl, rfl⟩
    | true =>
      cases legal with
      | some e => exact .inl ⟨_, rfl, rfl⟩
      | none =>
        cases seqTaken with
        | true => exact .inl ⟨_, rfl, rfl⟩
        | false => exact .inr ⟨rfl, rfl, rfl⟩

/-- **Ticketing over like rows.** -/
theorem stepIssue_over (hL : SeatInventory.Lapsed L s.clock)
    (hseat : ∀ k, (seat k).Like L (s.db.seat k)) (hclaims : ClaimsAlike claims s.db.claims)
    {V : View} (hbefore : σ.Before r.userId .paymentAuthorized V) :
    Matched (Abreast L) (stepIssue (s.over seat claims) p r x (.issueTickets (σ.atVersions v) pay))
      (stepIssue s p r x (.issueTickets σ pay)) := by
  have hgate : (s.over seat claims).seatsFree = s.seatsFree := rfl
  have hlost : σ.lost r.userId = [] := hbefore.pinned.lost_eq_nil
  have hlost' : (σ.atVersions v).lost r.userId = [] := by rw [lost_atVersions, hlost]; rfl
  have hassigned := hbefore.seated.assigned_eq
  have hassigned' : (σ.atVersions v).assigned =
      some ((σ.passengers.zip σ.seats).map (Prod.map id (atVersion v))) := by
    rw [assigned_atVersions, hassigned]
    rfl
  simp only [stepIssue, Shared.over_db, Shared.over_clock, Shared.over_uuid, hgate,
    Saga.atVersions_seats, map_atVersion_id, issueTickets, hlost, hlost', ne_eq,
    not_true_eq_false, if_false, hassigned, hassigned', noteLapsed_over]
  obtain ⟨rows, hnoted, -⟩ := noteLapsed_eq s.db σ r.userId s.clock
  rw [hnoted]
  split_ifs with hfree htrigger
  · -- ticketing is refused, and the compensation starts
    simp only [startCompensation, Saga.atVersions_state]
    cases assertCanTransition σ.state .compensating with
    | none =>
      exact .of_some ⟨⟨seat, claims, rfl, hseat, hclaims⟩,
        .atVersions v (.reverse (σ.inState .compensating) pay _)⟩
    | some e => exact .of_some ⟨⟨seat, claims, rfl, hseat, hclaims⟩, raised_alike _ _⟩
  · obtain ⟨hchecks, hlike⟩ := ticketedRows_like (v := v) hL hseat hbefore hassigned
    rcases issueAssigned_over claims { s.db with audit := rows } s.clock s.uuid x.eTicketNo
      x.seqTaken hchecks with ⟨e, he, he'⟩ | ⟨hchecked, hok, hok'⟩
    · rw [he, he']
      exact .of_some ⟨⟨seat, claims, rfl, hseat, hclaims⟩, raised_alike _ _⟩
    · rw [hok, hok']
      exact .of_some ⟨⟨_, claims, rfl, hlike hchecked, hclaims⟩, .atVersions _ (.capture _ pay)⟩
  · exact .of_none

/-- The rows a release of a booking's seats leaves. -/
def returnedRows (seat : SeatId → SeatInventory) (b : BookingId) (k : SeatId) : SeatInventory :=
  if decide ((seat k).bookingId = some b) then (seat k).returned else seat k

variable (claims) in
theorem releaseSeatsForBooking_over (db : Db) (hseat : ∀ k, (seat k).Like L (db.seat k))
    (b : BookingId) (now : Time) :
    releaseSeatsForBooking (db.over seat claims) b now =
      ((releaseSeatsForBooking db b now).1.over (returnedRows seat b) claims,
        (releaseSeatsForBooking db b now).2) := by
  have hcount : db.seatIds.countP (fun k => decide ((seat k).bookingId = some b)) =
      db.seatIds.countP fun k => decide ((db.seat k).bookingId = some b) :=
    List.countP_congr fun k _ => by rw [(hseat k).bookingId]
  exact Prod.ext rfl hcount

theorem returnedRows_like {db : Db} (hseat : ∀ k, (seat k).Like L (db.seat k)) (b : BookingId)
    (now : Time) (k : SeatId) :
    (returnedRows seat b k).Like L ((releaseSeatsForBooking db b now).1.seat k) := by
  rw [releaseSeatsForBooking_seat, returnedRows, (hseat k).bookingId]
  by_cases hb : (db.seat k).bookingId = some b
  · simpa [hb] using (hseat k).returned
  · simpa [hb] using hseat k

theorem finishVoided_over {db : Db} (hseat : ∀ k, (seat k).Like L (db.seat k)) (now : Time) :
    finishVoided (db.over seat claims) (σ.atVersions v) pay now =
      (finishVoided db σ pay now).map (Db.over (returnedRows seat σ.bookingId) claims) := by
  have hvoided : voidedDb (db.over seat claims) (σ.atVersions v) pay now =
      (voidedDb db σ pay now).over (returnedRows seat σ.bookingId) claims := by
    have hreleased := releaseSeatsForBooking_over claims
      ((db.flushPayment pay pay.reversed.1).note σ.bookingId pay.reversed.2
        [("provider_ref", .ofOption .str pay.providerRef)]) hseat σ.bookingId now
    have hjournalled : ((db.over seat claims).flushPayment pay pay.reversed.1).note σ.bookingId
        pay.reversed.2 [("provider_ref", .ofOption .str pay.providerRef)] =
          ((db.flushPayment pay pay.reversed.1).note σ.bookingId pay.reversed.2
            [("provider_ref", .ofOption .str pay.providerRef)]).over seat claims := rfl
    simp only [voidedDb, Saga.atVersions_bookingId, hjournalled, hreleased]
    rfl
  simp only [finishVoided, Saga.atVersions_state, hvoided]
  cases assertCanTransition σ.state .voided <;> rfl

theorem finishReview_over {db : Db} (hseat : ∀ k, (seat k).Like L (db.seat k)) (error : String)
    (now : Time) :
    finishReview (db.over seat claims) (σ.atVersions v) pay error now =
      (finishReview db σ pay error now).over (returnedRows seat σ.bookingId) claims := by
  have hreleased := releaseSeatsForBooking_over claims
    (Db.flushBookingState
      (db.record σ.bookingId .compensationFailed none (some σ.state) (some .needsManualReview)
        [("error", .str error), ("provider_ref", .ofOption .str pay.providerRef),
          ("amount", .str (amountText pay.amount)),
          ("note", .str "money is still with the provider; requires operator action")])
      σ.bookingId σ.state .needsManualReview) hseat σ.bookingId now
  have hjournalled : ∀ detail, ((db.over seat claims).record σ.bookingId .compensationFailed none
      (some σ.state) (some .needsManualReview) detail).flushBookingState σ.bookingId σ.state
        .needsManualReview =
      ((db.record σ.bookingId .compensationFailed none (some σ.state) (some .needsManualReview)
        detail).flushBookingState σ.bookingId σ.state .needsManualReview).over seat claims :=
    fun _ => rfl
  simp only [finishReview, Saga.atVersions_bookingId, Saga.atVersions_state, hjournalled, hreleased]
  rfl

variable (r) in
/-- **The end of `_compensate` over like rows.** -/
theorem stepCompensate_over [PaymentGateway G] (hseat : ∀ k, (seat k).Like L (s.db.seat k))
    (hclaims : ClaimsAlike claims s.db.claims) {pc : BookingPc}
    (hpc : ∃ σ pay reason, pc = .finishVoided σ pay reason ∨
      ∃ error, pc = .finishReview σ pay reason error) :
    Matched (Abreast L) (stepCompensate (s.over seat claims) p r (pc.atVersions v))
      (stepCompensate s p r pc) := by
  have hgate : ∀ b, (s.over seat claims).seatsFree p
      ((s.db.over seat claims).seatIds.filter fun k =>
        ((s.db.over seat claims).seat k).bookingId = some b) =
      s.seatsFree p (s.db.seatIds.filter fun k => (s.db.seat k).bookingId = some b) :=
    fun b => congrArg (s.seatsFree p) (seatsOf_over claims hseat b)
  obtain ⟨σ, pay, reason, rfl | ⟨error, rfl⟩⟩ := hpc
  · simp only [stepCompensate, BookingPc.atVersions, Shared.over_db, Shared.over_clock,
      Saga.atVersions_bookingId, hgate, finishVoided_over hseat]
    split_ifs
    · cases hlegal : assertCanTransition σ.state .voided with
      | some e =>
        simp only [finishVoided, hlegal, Except.map]
        exact .of_some ⟨⟨seat, claims, rfl, hseat, hclaims⟩, raised_alike _ _⟩
      | none =>
        simp only [finishVoided, hlegal, Except.map]
        exact .of_some ⟨⟨_, claims, rfl, returnedRows_like hseat _ s.clock, hclaims⟩,
          .refl _ fun _ => rfl⟩
    · exact .of_none
  · simp only [stepCompensate, BookingPc.atVersions, Shared.over_db, Shared.over_clock,
      Saga.atVersions_bookingId, hgate, finishReview_over hseat]
    split_ifs
    · exact .of_some ⟨⟨_, claims, rfl, returnedRows_like hseat _ s.clock, hclaims⟩,
        .refl _ fun _ => rfl⟩
    · exact .of_none

end Seats

/-! ### Every step of a booking -/

section Bookings

variable {G : Type} [PaymentGateway G] {L : SeatInventory → Prop} {env : Env} {s s' : Shared G}
  {p : ℕ} {x : Draws}

/-- Away from the seats a request leaves them alone. -/
theorem BookingStep.seat_eq {r : BookingRequest} {pc pc₁ : BookingPc}
    (h : BookingStep env s p r x pc s' pc₁) (hpc : pc.onSeats = false) :
    s'.db.seat = s.db.seat := by
  cases h
  case opens | fails | issues | voids | flags => simp [BookingPc.onSeats] at hpc
  all_goals rfl

/-- **A booking request does the same over like rows.** -/
theorem stepBooking_alike {r : BookingRequest} {pc pc' : BookingPc}
    (hL : SeatInventory.Lapsed L s'.clock) (hs : s.Alike L s') (hpc : pc.Alike pc')
    (ht : Tables s') (ha : HoldsApart s') (ho : (Proc.booking r pc').Outline s')
    (hfree : ∀ k ∈ s.db.seatIds, (s.db.seat k).bookingId = none → s.locks k = none) :
    Matched (Abreast L) (stepBooking env s p r x pc) (stepBooking env s' p r x pc') := by
  obtain ⟨seat, claims, rfl, hseat, hclaims⟩ := hs
  cases hpc with
  | selects houtcome b => exact completeSelect_over (p := p) hseat hclaims houtcome b
  | commits houtcome b => exact completeCommit_over hseat hclaims houtcome b
  | done => exact .of_none
  | atVersions v =>
    cases pc'
    case beginDelete | beginInsert | beginCommit | beginSelect =>
      simp only [stepBooking, BookingPc.atVersions]
      exact stepBegin_over hseat hclaims _
    case completeSelect o b => exact completeSelect_over (p := p) hseat hclaims (.same o) b
    case completeCommit o b => exact completeCommit_over hseat hclaims (.same o) b
    case release e b => exact releaseClaim_over hseat hclaims e b
    case openBooking => exact stepOpen_over hL hseat hclaims ht ha hfree
    case failSelect σ f =>
      obtain ⟨w, hw, hrows⟩ := exists_failPaymentRows_over claims hL hseat v σ
      have hstart : startFailure (σ.atVersions v) f = startFailure σ f := rfl
      simp only [stepBooking, stepOpen, BookingPc.atVersions, Shared.over_db, hrows, hstart]
      cases startFailure σ f with
      | some e => exact .of_some ⟨⟨seat, claims, rfl, hseat, hclaims⟩, raised_alike _ _⟩
      | none =>
        rw [hw]
        exact .of_some ⟨⟨seat, claims, rfl, hseat, hclaims⟩,
          .atVersions w (.failCommit σ f (failPaymentRows s'.db σ))⟩
    case failCommit σ f rows =>
      exact failCommit_over (r := r) (x := x) hL hseat hclaims ht (ho _ rfl).2.2.2
    case issueTickets σ pay => exact stepIssue_over hL hseat hclaims (ho _ rfl).2.1
    case finishVoided σ pay reason =>
      exact stepCompensate_over r hseat hclaims ⟨σ, pay, reason, .inl rfl⟩
    case finishReview σ pay reason error =>
      exact stepCompensate_over r hseat hclaims ⟨σ, pay, reason, .inr ⟨error, rfl⟩⟩
    all_goals
      -- neither the seats nor the claims are touched
      rw [stepBooking_over rfl rfl]
      intro o h
      obtain ⟨⟨s₁, pc₁⟩, h', rfl⟩ := Option.map_eq_some_iff.mp h
      refine ⟨(s₁, pc₁), h', ⟨seat, claims, rfl, ?_, ?_⟩, .atVersions v pc₁⟩
      · rwa [(bookingStep_of h').seat_eq rfl]
      · rwa [(bookingStep_of h').claims_eq rfl]

end Bookings

end SkyLock
