import SkyLock.Amendments
import SkyLock.Columns
import SkyLock.History
import SkyLock.Pagination

/-!
# A user's bookings are nobody else's business

Every route that names a booking takes it from `owned_booking`, and every listing filters by
the caller.  So an answer is computed from the caller's own rows: it is the answer of a
database in which nobody else has a booking or a hold, and somebody else's booking cannot be
told from one that does not exist.  And the requests of others change nothing of a user's
bookings, however they fall between each other.

## Main definitions

* `getBooking`, `getBookingAudit`, `getHold`, `listMyHolds` — the routes that read.
* `Alike` — two databases that are the same as far as a user's bookings go.
* `Db.onlyOf` — the database without the bookings and holds of others.
* `Proc.Entitled` — a request works on a booking of its own user.
* `Unmoved` — nothing of a user's bookings differs in two states of the service.

## Main results

* `answers_own` — **an answer reads the caller's rows only**.
* `Step.unmoved` — a step leaves the bookings of others alone.
* `bookings_isolated` — **while a user's requests stand still, nothing of the user's
  bookings moves**.
-/

namespace SkyLock

open Concurrent OffsetPages

/-! ### The routes that read -/

/-- `get_booking`. -/
def getBooking (t : Timetable) (db : Db) (ref : String) (userId : UserId) :
    Except AppError BookingResponse :=
  match ownedBooking db ref userId with
  | none => .error (.notFound "No such booking")
  | some (b, row) => .ok (toResponse t db b row)

/-- `AuditEntryResponse`, without the instant. -/
structure AuditEntryResponse where
  seq : ℕ
  eventType : String
  actorType : String
  fromState : Option String
  toState : Option String
  detail : JsonValue

/-- An entry of the booking's own history. -/
def BookingAudit.response (a : BookingAudit) : AuditEntryResponse where
  seq := a.seq
  eventType := a.eventType.value
  actorType := a.actorType
  fromState := a.fromState.map BookingState.value
  toState := a.toState.map BookingState.value
  detail := a.detail

/-- The audit rows of a booking. -/
def Db.auditOf (db : Db) (b : BookingId) : List BookingAudit :=
  db.audit.filter fun a => a.bookingId = b

/-- `booking_audit`, in the order of `seq`. -/
def getBookingAudit (db : Db) (ref : String) (userId : UserId) :
    Except AppError (List AuditEntryResponse) :=
  match ownedBooking db ref userId with
  | none => .error (.notFound "No such booking")
  | some (b, _) =>
    .ok (((db.auditOf b).insertionSort fun a a' => a.seq ≤ a'.seq).map BookingAudit.response)

/-- `HoldResponse`. -/
structure HoldResponse where
  holdId : Option HoldId
  flightId : FlightId
  seatNo : String
  cabin : String
  price : Cents
  currency : String
  expiresAt : Option Time
  secondsRemaining : ℕ
  active : Bool
  deriving DecidableEq, Repr

/-- `_currency_for`. -/
def currencyFor (db : Db) (flightId : FlightId) : String :=
  orDefault ((db.flight flightId).map Flight.currency) "CAD"

/-- `_to_response` of a hold; `now` is the clock of the application. -/
def holdResponse (t : Timetable) (db : Db) (now : Time) (k : SeatId) : HoldResponse where
  holdId := (db.seat k).holdId
  flightId := (db.seat k).flightId
  seatNo := (db.seat k).seatNo
  cabin := (t.features k).cabin
  price := (db.seat k).price
  currency := currencyFor db (db.seat k).flightId
  expiresAt := (db.seat k).holdExpiresAt
  secondsRemaining := ((db.seat k).holdExpiresAt.map fun e => (e - now) / 1000000).getD 0
  active := ((db.seat k).holdExpiresAt.any fun e => now < e) && (db.seat k).status == .held

/-- `get_hold`. -/
def getHold (t : Timetable) (db : Db) (now : Time) (holdId : HoldId) (userId : UserId) :
    Except AppError HoldResponse :=
  match ownedHold db holdId userId with
  | none => .error (.notFound "No such hold")
  | some k => .ok (holdResponse t db now k)

/-- The rows `list_my_holds` matches. -/
def myHolds (db : Db) (userId : UserId) (now : Time) : List SeatId :=
  db.seatIds.filter fun k =>
    decide ((db.seat k).heldByUserId = some userId) && holdIsLive (db.seat k) now

/-- The sort key of `list_my_holds`. -/
def Db.expiry (db : Db) (k : SeatId) : Time := (db.seat k).holdExpiresAt.getD 0

/-- `list_my_holds`: the database's `now` selects the rows, the application's `clock` tells
what is left of them. -/
def listMyHolds (t : Timetable) {db : Db} {userId : UserId} {now : Time}
    (order : OrderBy db.expiry (myHolds db userId now)) (clock : Time) : List HoldResponse :=
  order.list.map (holdResponse t db clock)

/-! ### What a user's answers are computed from -/

/-- The booking is the user's. -/
def Db.owns (db : Db) (u : UserId) (b : BookingId) : Bool :=
  (db.booking b).any fun r => decide (r.userId = u)

/-- Two databases that are the same as far as a user's bookings go. -/
structure Alike (u : UserId) (db db' : Db) : Prop where
  booking : ∀ b row, row.userId = u → (db'.booking b = some row ↔ db.booking b = some row)
  bookingRef : ∀ ref b, db.owns u b = true →
    (db'.bookingRef ref = some b ↔ db.bookingRef ref = some b)
  passengers : ∀ b, db.owns u b = true → db'.passengersOf b = db.passengersOf b
  tickets : ∀ b, db.owns u b = true → db'.ticketsOf b = db.ticketsOf b
  audit : ∀ b, db.owns u b = true → db'.auditOf b = db.auditOf b
  seatIds : db'.seatIds = db.seatIds
  seatNo : ∀ k, (db'.seat k).seatNo = (db.seat k).seatNo

/-- Two databases that answer a user's requests about bookings the same. -/
structure SameAnswers (t : Timetable) (u : UserId) (db db' : Db) : Prop where
  owned : ∀ ref, ownedBooking db' ref u = ownedBooking db ref u
  get : ∀ ref, getBooking t db' ref u = getBooking t db ref u
  audit : ∀ ref, getBookingAudit db' ref u = getBookingAudit db ref u
  update : ∀ ref payload e,
    updateBooking db' u ref payload = .error e ↔ updateBooking db u ref payload = .error e
  rows : ∀ (own : UserBookings db u) (own' : UserBookings db' u), own'.rows.Perm own.rows
  list : ∀ (own : UserBookings db u) (own' : UserBookings db' u) (order : OrderBy _ own.rows)
    (order' : OrderBy _ own'.rows) (page : ℕ) (size : PageSize), order'.list = order.list →
      listBookings t own' order' page size = listBookings t own order page size

section Answers

variable {t : Timetable} {u : UserId} {db db' : Db}

theorem Db.owns_iff {b : BookingId} :
    db.owns u b = true ↔ ∃ row, db.booking b = some row ∧ row.userId = u := by
  simp [owns, Option.any_eq_true]

theorem Alike.owns (h : Alike u db db') (b : BookingId) : db'.owns u b = db.owns u b := by
  rw [Bool.eq_iff_iff, Db.owns_iff, Db.owns_iff]
  constructor
  · rintro ⟨row, hrow, hu⟩
    exact ⟨row, (h.booking b row hu).mp hrow, hu⟩
  · rintro ⟨row, hrow, hu⟩
    exact ⟨row, (h.booking b row hu).mpr hrow, hu⟩

theorem ownedBooking_eq_some_iff {ref : String} {b : BookingId} {row : Booking} :
    ownedBooking db ref u = some (b, row) ↔
      db.bookingRef ref = some b ∧ db.booking b = some row ∧ row.userId = u := by
  constructor
  · exact ownedBooking_eq_some
  · rintro ⟨hb, hrow, hu⟩
    simp [ownedBooking, hb, hrow, hu]

theorem Alike.ownedBooking (h : Alike u db db') (ref : String) :
    ownedBooking db' ref u = ownedBooking db ref u := by
  refine Option.ext fun o => ?_
  obtain ⟨b, row⟩ := o
  rw [ownedBooking_eq_some_iff, ownedBooking_eq_some_iff]
  constructor
  · rintro ⟨hb, hrow, hu⟩
    have hrow := (h.booking b row hu).mp hrow
    exact ⟨(h.bookingRef ref b (Db.owns_iff.mpr ⟨row, hrow, hu⟩)).mp hb, hrow, hu⟩
  · rintro ⟨hb, hrow, hu⟩
    exact ⟨(h.bookingRef ref b (Db.owns_iff.mpr ⟨row, hrow, hu⟩)).mpr hb,
      (h.booking b row hu).mpr hrow, hu⟩

theorem Alike.seatNoOf (h : Alike u db db') (q : BookingPassenger) :
    db'.seatNoOf q = db.seatNoOf q := by
  simp only [Db.seatNoOf, h.seatIds, h.seatNo]

theorem Alike.toResponse (h : Alike u db db') {b : BookingId} (hb : db.owns u b = true)
    (row : Booking) : toResponse t db' b row = toResponse t db b row := by
  have hlive : ∀ db : Db, (db.liveTickets.filter fun t => decide (t.bookingId = b)) =
      (db.ticketsOf b).filter Ticket.live := by
    intro db
    rw [Db.liveTickets, Db.ticketsOf, List.filter_comm]
  simp only [SkyLock.toResponse, hlive, Db.ticketed, h.passengers b hb, h.tickets b hb,
    h.seatNoOf]

/-- Databases with the same rows of a user find the same of them. -/
theorem UserBookings.rows_perm
    (h : ∀ b row, row.userId = u → (db'.booking b = some row ↔ db.booking b = some row))
    (own : UserBookings db u) (own' : UserBookings db' u) : own'.rows.Perm own.rows := by
  refine (List.perm_ext_iff_of_nodup (List.Nodup.of_map _ own'.refs_nodup)
    (List.Nodup.of_map _ own.refs_nodup)).mpr ?_
  rintro ⟨b, row⟩
  rw [own.mem_iff, own'.mem_iff]
  constructor
  · rintro ⟨hrow, hu⟩
    exact ⟨(h b row hu).mp hrow, hu⟩
  · rintro ⟨hrow, hu⟩
    exact ⟨(h b row hu).mpr hrow, hu⟩

/-- What a user is answered depends on what is the user's. -/
theorem Alike.sameAnswers (h : Alike u db db') (t : Timetable) : SameAnswers t u db db' where
  owned := h.ownedBooking
  get ref := by
    simp only [getBooking, h.ownedBooking]
    split
    · rfl
    · next b row howned =>
      obtain ⟨-, hrow, hu⟩ := ownedBooking_eq_some howned
      rw [h.toResponse (Db.owns_iff.mpr ⟨row, hrow, hu⟩)]
  audit ref := by
    simp only [getBookingAudit, h.ownedBooking]
    split
    · rfl
    · next b row howned =>
      obtain ⟨-, hrow, hu⟩ := ownedBooking_eq_some howned
      rw [h.audit b (Db.owns_iff.mpr ⟨row, hrow, hu⟩)]
  update ref payload e := by
    simp only [updateBooking, h.ownedBooking]
    split
    · rfl
    · split
      · rfl
      · constructor <;> intro herror <;> split at herror <;> simp at herror
  rows := UserBookings.rows_perm h.booking
  list own own' order order' page size horder := by
    have hlength : own'.rows.length = own.rows.length := (own.rows_perm h.booking own').length_eq
    unfold listBookings
    split
    · rfl
    · simp only [pageOf, horder, hlength]
      congr 2
      refine List.map_congr_left fun r hr => ?_
      have hmem : r ∈ own.rows :=
        order.perm.mem_iff.mp (List.mem_of_mem_drop (List.mem_of_mem_take hr))
      obtain ⟨hrow, hu⟩ := (own.mem_iff r.1 r.2).mp hmem
      exact h.toResponse (Db.owns_iff.mpr ⟨r.2, hrow, hu⟩) r.2

/-! ### Nobody else's rows are read -/

/-- The row, unless somebody else holds the seat. -/
def SeatInventory.onlyOf (r : SeatInventory) (u : UserId) : SeatInventory :=
  if r.heldByUserId = some u then r
  else { r with
    status := .available, heldByUserId := none, holdId := none, holdExpiresAt := none
    bookingId := none }

/-- The database without the bookings, the holds and the claims of others. -/
def Db.onlyOf (db : Db) (u : UserId) : Db where
  seatIds := db.seatIds
  seat k := (db.seat k).onlyOf u
  flight := db.flight
  booking b := if db.owns u b then db.booking b else none
  bookingRef ref := (db.bookingRef ref).filter (db.owns u)
  passengers := db.passengers.filter fun q => db.owns u q.bookingId
  payments := db.payments.filter fun r => db.owns u r.bookingId
  tickets := db.tickets.filter fun t => db.owns u t.bookingId
  audit := db.audit.filter fun a => db.owns u a.bookingId
  claims k := if k.2 = u then db.claims k else none

theorem SeatInventory.onlyOf_seatNo (r : SeatInventory) : (r.onlyOf u).seatNo = r.seatNo := by
  unfold onlyOf
  split <;> rfl

theorem SeatInventory.onlyOf_held {r : SeatInventory} :
    (r.onlyOf u).heldByUserId = some u ↔ r.heldByUserId = some u := by
  unfold onlyOf
  split <;> simp_all

theorem SeatInventory.onlyOf_eq {r : SeatInventory} (h : r.heldByUserId = some u) :
    r.onlyOf u = r :=
  if_pos h

/-- Rows of one of the user's bookings are among the rows of the user's bookings. -/
theorem filter_owned {α : Type} {f : α → BookingId} {b : BookingId} (hb : db.owns u b = true)
    (rows : List α) : ((rows.filter fun r => db.owns u (f r)).filter fun r => f r = b) =
      rows.filter fun r => f r = b := by
  rw [List.filter_filter]
  refine List.filter_congr fun r _ => ?_
  by_cases hr : f r = b
  · simp [hr, hb]
  · simp [hr]

theorem alike_onlyOf (db : Db) (u : UserId) : Alike u db (db.onlyOf u) where
  booking b row hu := by
    by_cases hb : db.owns u b = true
    · simp [Db.onlyOf, hb]
    · simp only [Db.onlyOf, hb, Bool.false_eq_true, if_false, reduceCtorEq, false_iff]
      exact fun hrow => hb (Db.owns_iff.mpr ⟨row, hrow, hu⟩)
  bookingRef ref b hb := by simp [Db.onlyOf, Option.filter_eq_some_iff, hb]
  passengers b hb := filter_owned hb db.passengers
  tickets b hb := filter_owned hb db.tickets
  audit b hb := filter_owned hb db.audit
  seatIds := rfl
  seatNo k := (db.seat k).onlyOf_seatNo

theorem ownedHold_onlyOf (holdId : HoldId) :
    ownedHold (db.onlyOf u) holdId u = ownedHold db holdId u := by
  unfold ownedHold
  congr 1
  funext k
  by_cases hk : (db.seat k).heldByUserId = some u
  · simp [Db.onlyOf, SeatInventory.onlyOf_eq hk]
  · have hk' := (not_congr SeatInventory.onlyOf_held).mpr hk
    simp [Db.onlyOf, hk, hk']

theorem holdResponse_onlyOf {k : SeatId} (hk : (db.seat k).heldByUserId = some u) (clock : Time) :
    holdResponse t (db.onlyOf u) clock k = holdResponse t db clock k := by
  simp only [holdResponse, Db.onlyOf, SeatInventory.onlyOf_eq hk, currencyFor]

theorem getHold_onlyOf (clock : Time) (holdId : HoldId) :
    getHold t (db.onlyOf u) clock holdId u = getHold t db clock holdId u := by
  simp only [getHold, ownedHold_onlyOf]
  split
  · rfl
  · next k hk =>
    have hcond := List.find?_some hk
    rw [Bool.and_eq_true, decide_eq_true_eq, decide_eq_true_eq] at hcond
    rw [holdResponse_onlyOf hcond.2]

theorem myHolds_onlyOf (now : Time) : myHolds (db.onlyOf u) u now = myHolds db u now := by
  unfold myHolds
  refine List.filter_congr fun k _ => ?_
  by_cases hk : (db.seat k).heldByUserId = some u
  · simp [Db.onlyOf, SeatInventory.onlyOf_eq hk]
  · have hk' := (not_congr SeatInventory.onlyOf_held).mpr hk
    simp [Db.onlyOf, hk, hk']

/-- **An answer reads the caller's rows only.**  Every route that reads bookings or holds
answers a user as it would if nobody else had a booking, a hold or a claim; so does
`update_booking` where it refuses.  In particular the booking or the hold of somebody else
is answered like one that does not exist. -/
theorem answers_own (t : Timetable) (u : UserId) (db : Db) :
    SameAnswers t u db (db.onlyOf u) ∧
      (∀ clock holdId, getHold t (db.onlyOf u) clock holdId u = getHold t db clock holdId u) ∧
      ∀ now, myHolds (db.onlyOf u) u now = myHolds db u now ∧
        ∀ (order : OrderBy db.expiry (myHolds db u now))
          (order' : OrderBy (db.onlyOf u).expiry (myHolds (db.onlyOf u) u now)) (clock : Time),
          order'.list = order.list → listMyHolds t order' clock = listMyHolds t order clock := by
  refine ⟨(alike_onlyOf db u).sameAnswers t, fun clock holdId => getHold_onlyOf clock holdId,
    fun now => ⟨myHolds_onlyOf now, fun order order' clock horder => ?_⟩⟩
  unfold listMyHolds
  rw [horder]
  refine List.map_congr_left fun k hk => ?_
  have hmem := (List.mem_filter.mp (order.perm.mem_iff.mp hk)).2
  rw [Bool.and_eq_true, decide_eq_true_eq] at hmem
  exact holdResponse_onlyOf hmem.1 clock

end Answers

/-! ### Nobody else's requests touch them -/

/-- The user whose request a process serves. -/
def Proc.user? : Proc → Option UserId
  | .booking r _ => some r.userId
  | .hold r _ => some r.userId
  | .release r _ => some r.userId
  | .cancel r _ => some r.userId
  | .idle | .sweep _ => none

section Isolation

variable {G : Type} [PaymentGateway G] {env : Env} {s s' : Shared G} {p : ℕ} {u : UserId}
  {P P' : Proc} {a : Input}

/-- The booking a request works on is its own user's. -/
def Proc.Entitled (s : Shared G) (P : Proc) : Prop :=
  ∀ b, P.writes = some b → ∃ row, s.db.booking b = some row ∧ P.user? = some row.userId

/-- A request keeps its user. -/
theorem Step.user?_eq (h : Step env s p P a s' P') (hP : P.writes ≠ none) :
    P'.user? = P.user? := by
  cases h
  case tick | arrive => exact absurd rfl hP
  all_goals rfl

/-- A booking stays its user's. -/
theorem Step.user_kept (h : Step env s p P a s' P') (ht : Tables s) {b : BookingId}
    {row : Booking} (hrow : s.db.booking b = some row) :
    ∃ row', s'.db.booking b = some row' ∧ row'.userId = row.userId := by
  obtain ⟨row', hrow', hsame⟩ := h.booking_kept ht hrow
  rcases hsame with rfl | ⟨loaded, current, rfl⟩
  · exact ⟨_, hrow', rfl⟩
  · exact ⟨_, hrow', rfl⟩

/-- A booking was there, or step 1 has just opened it for its own user. -/
theorem Step.booking_origin (h : Step env s p P a s' P') {b : BookingId} {row : Booking}
    (hrow : s'.db.booking b = some row) :
    (∃ row₀, s.db.booking b = some row₀ ∧ row.userId = row₀.userId) ∨
      P.user? = some row.userId := by
  by_cases hP : P.opening
  · cases h <;> try exact hP.elim
    case booking r x pc pc' h =>
      cases h <;> try exact hP.elim
      case opens seats flightId flight ref hseats hf hlen hlive hids hflight hpnr htotal href =>
        by_cases hb : b = s.uuid
        · subst hb
          have hopened : Function.update s.db.booking s.uuid (some ((openedSaga r.payload seats
              s.uuid ref flightId flight).bookingRow r.userId r.key s.clock)) s.uuid = some row :=
            hrow
          rw [Function.update_self] at hopened
          obtain rfl := Option.some.inj hopened
          exact .inr rfl
        · exact .inl ⟨row, (Function.update_of_ne hb ..).symm.trans hrow, rfl⟩
      case opensNothing => exact .inl ⟨row, hrow, rfl⟩
  · obtain ⟨row₀, hrow₀, -, huser, -⟩ := (h.keepsRows hP).of_booking_some hrow
    exact .inl ⟨row₀, hrow₀, huser⟩

/-- A request that begins to work on a booking is its user's: step 1 opens one, and
`owned_booking` finds no other. -/
theorem Step.entitled (h : Step env s p P a s' P') (ht : Tables s) (hP : P.Entitled s) :
    P'.Entitled s' := by
  intro b hw
  rcases h.writes_cases hw with hold | ⟨hopen, rfl⟩ | ⟨r, row, rfl, hP', rfl, hrow, -⟩
  · obtain ⟨row, hrow, huser⟩ := hP b hold
    obtain ⟨row', hrow', hsame⟩ := h.user_kept ht hrow
    exact ⟨row', hrow', by rw [h.user?_eq (by simp [hold]), huser, hsame]⟩
  · cases h <;> try exact hopen.elim
    case booking r x pc pc' h =>
      cases h <;> try exact hopen.elim
      case opens => exact ⟨_, Function.update_self .., rfl⟩
      case opensNothing e _ => cases e <;> simp [raised, Proc.writes, BookingPc.saga?] at hw
  · cases h
    case cancel x pc' h =>
      injection hP' with _ hpc'
      cases h
      case accepts b' row' h h' =>
        obtain ⟨-, hrow', huser⟩ := ownedBooking_eq_some h
        obtain ⟨rfl, -⟩ := CancelPc.selectPayment.inj hpc'
        exact ⟨row', hrow', congrArg some huser.symm⟩
      all_goals exact absurd hpc' (by simp)

/-! ### Whole runs -/

/-- Nothing of a user's bookings differs in two states of the service, and neither has a
booking of the user that the other has not. -/
structure Unmoved (u : UserId) (s s' : Shared G) : Prop where
  view : ∀ b, s.db.owns u b = true ∨ s'.db.owns u b = true →
    s'.view b = s.view b ∧ s'.db.auditOf b = s.db.auditOf b
  seatIds : s'.db.seatIds = s.db.seatIds
  seatNo : ∀ k, (s'.db.seat k).seatNo = (s.db.seat k).seatNo

namespace Unmoved

omit [PaymentGateway G]

theorem refl (u : UserId) (s : Shared G) : Unmoved u s s where
  view _ _ := ⟨rfl, rfl⟩
  seatIds := rfl
  seatNo _ := rfl

theorem owns (h : Unmoved u s s') (b : BookingId) : s'.db.owns u b = s.db.owns u b := by
  have hrow : s.db.owns u b = true ∨ s'.db.owns u b = true → s'.db.booking b = s.db.booking b :=
    fun hb => congrArg View.row (h.view b hb).1
  rw [Bool.eq_iff_iff]
  constructor <;> intro hb
  · rw [Db.owns, ← hrow (.inr hb)]
    exact hb
  · rw [Db.owns, hrow (.inl hb)]
    exact hb

theorem trans {s₁ s₂ s₃ : Shared G} (h : Unmoved u s₁ s₂) (h' : Unmoved u s₂ s₃) :
    Unmoved u s₁ s₃ where
  view b hb := by
    have hown : s₂.db.owns u b = true := by
      rcases hb with hb | hb
      · rwa [h.owns b]
      · rwa [← h'.owns b]
    obtain ⟨hview, haudit⟩ := h.view b (.inr hown)
    obtain ⟨hview', haudit'⟩ := h'.view b (.inl hown)
    exact ⟨hview'.trans hview, haudit'.trans haudit⟩
  seatIds := h'.seatIds.trans h.seatIds
  seatNo k := (h'.seatNo k).trans (h.seatNo k)

/-- References name the bookings they are written on, so they stay what they are, too. -/
theorem alike (h : Unmoved u s s') (ht : Tables s) (ht' : Tables s') :
    Alike u s.db s'.db where
  booking b row hu := by
    constructor <;> intro hrow
    · have hsame := congrArg View.row (h.view b (.inr (Db.owns_iff.mpr ⟨row, hrow, hu⟩))).1
      exact hsame.symm.trans hrow
    · have hsame := congrArg View.row (h.view b (.inl (Db.owns_iff.mpr ⟨row, hrow, hu⟩))).1
      exact hsame.trans hrow
  bookingRef ref b hb := by
    have hsame : s'.db.booking b = s.db.booking b := congrArg View.row (h.view b (.inl hb)).1
    rw [ht.refs, ht'.refs, hsame]
  passengers b hb := congrArg View.passengers (h.view b (.inl hb)).1
  tickets b hb := congrArg View.tickets (h.view b (.inl hb)).1
  audit b hb := (h.view b (.inl hb)).2
  seatIds := h.seatIds
  seatNo := h.seatNo

end Unmoved

/-- A step of somebody else's request leaves a user's bookings alone. -/
theorem Step.unmoved (h : Step env s p P a s' P') (ht : Tables s) (ho : P.Outline s)
    (hP : P.Entitled s) (hu : P.user? ≠ some u) : Unmoved u s s' where
  view b hb := by
    have howned : ∃ row, s.db.booking b = some row ∧ row.userId = u := by
      rcases hb with hb | hb <;> obtain ⟨row, hrow, huser⟩ := Db.owns_iff.mp hb
      · exact ⟨row, hrow, huser⟩
      · rcases h.booking_origin hrow with ⟨row₀, hrow₀, hsame⟩ | hmover
        · exact ⟨row₀, hrow₀, hsame.symm.trans huser⟩
        · exact absurd (hmover.trans (congrArg some huser)) hu
    obtain ⟨row, hrow, huser⟩ := howned
    have hlt := ht.lt_of_booking hrow
    have hw : P.writes ≠ some b := by
      intro hw
      obtain ⟨row', hrow', hmover⟩ := hP b hw
      obtain rfl := Option.some.inj (hrow.symm.trans hrow')
      exact hu (hmover.trans (congrArg some huser))
    refine ⟨h.view_eq_of_ne ht ho hw hlt, ?_⟩
    rcases h.audit_cases with heq | ⟨b', hb', new, heq, hnew⟩
    · rw [Db.auditOf, heq, Db.auditOf]
    · -- only `owned_booking` turns a request to a booking that is there, and it writes nothing
      by_cases hsame : s' = s
      · rw [hsame]
      · have hne : b' ≠ b := by
          rintro rfl
          rcases hb' with hb' | hb'
          · exact hw hb'
          · rcases h.writes_cases hb' with hb' | ⟨-, rfl⟩ | ⟨_, _, -, -, hs, -⟩
            · exact hw hb'
            · exact absurd hlt (lt_irrefl _)
            · exact hsame hs
        have hnone : new.filter (fun a => a.bookingId = b) = [] := by
          refine List.filter_eq_nil_iff.mpr fun a ha => ?_
          rw [hnew a ha]
          simpa using hne
        rw [Db.auditOf, heq, List.filter_append, hnone, List.nil_append, Db.auditOf]
  seatIds := h.seatIds_eq
  seatNo k := (h.seatWrite ho k).later.seatNo

theorem entitled_next {w w' : World (Shared G) Proc} (hw : (outline G).Holds w)
    (hP : ∀ q, (w.proc q).Entitled w.shared) (hn : (service env G).next w p a = some w') :
    ∀ q, (w'.proc q).Entitled w'.shared := by
  obtain ⟨s', P', hs, rfl⟩ := System.next_eq_some.mp hn
  have hstep := step_of hs
  intro q
  rcases eq_or_ne q p with rfl | hq
  · simpa only [Function.update_self] using hstep.entitled hw.shared (hP q)
  · simp only [Function.update_of_ne hq]
    intro b hb
    obtain ⟨row, hrow, huser⟩ := hP q b hb
    obtain ⟨row', hrow', hsame⟩ := hstep.user_kept hw.shared hrow
    exact ⟨row', hrow', by rw [huser, hsame]⟩

theorem entitled_holds {C : World (Shared G) Proc → ℕ → Input → Prop} {db : Db} {g : G}
    {clock : Time} {w : World (Shared G) Proc} {as : List (ℕ × Input)} (hdb : db.Initial)
    (h : (service env G).Run C (initialWorld db g clock) as w) :
    (outline G).Holds w ∧ ∀ q, (w.proc q).Entitled w.shared := by
  refine h.induct (I := fun w => (outline G).Holds w ∧ ∀ q, (w.proc q).Entitled w.shared)
    ⟨outline_initial hdb g clock, fun q b hb => ?_⟩
    fun w₁ p a w₂ hw _ hn => ⟨outline_next hw.1 hn, entitled_next hw.1 hw.2 hn⟩
  simp [initialWorld, Proc.writes] at hb

/-- **While a user's requests stand still, nothing of the user's bookings moves.**  From any
state a run reaches, however the requests of others and the sweeps fall between each other,
the user's bookings keep their rows, passengers, payments, tickets, gateway calls and audit
entries, none is added, and every route answers the user as before. -/
theorem bookings_isolated {C : World (Shared G) Proc → ℕ → Input → Prop} {db : Db} {g : G}
    {clock : Time} {w w' : World (Shared G) Proc} {as bs : List (ℕ × Input)} (u : UserId)
    (hdb : db.Initial) (h : (service env G).Run C (initialWorld db g clock) as w)
    (hrun : (service env G).Run (fun w q _ => (w.proc q).user? ≠ some u) w bs w') :
    Unmoved u w.shared w'.shared ∧
      ∀ t : Timetable, SameAnswers t u w.shared.db w'.shared.db := by
  have hw := entitled_holds hdb h
  have hsame : Unmoved u w.shared w'.shared := by
    refine hrun.related (I := fun v => (outline G).Holds v ∧ ∀ q, (v.proc q).Entitled v.shared) hw
      (Unmoved.refl u) (fun _ _ _ => Unmoved.trans) ?_
    intro w₁ p a w₂ hw₁ hu hn
    refine ⟨⟨outline_next hw₁.1 hn, entitled_next hw₁.1 hw₁.2 hn⟩, ?_⟩
    obtain ⟨s', P', hs, rfl⟩ := System.next_eq_some.mp hn
    exact (step_of hs).unmoved hw₁.1.shared (hw₁.1.own p) (hw₁.2 p) hu
  have hw' : (outline G).Holds w' :=
    hrun.induct hw.1 fun w₁ p a w₂ hw₁ _ hn => outline_next hw₁ hn
  exact ⟨hsame, (hsame.alike hw.1.shared hw'.shared).sameAnswers⟩

end Isolation

/-- Another user asks to cancel the booking, takes the next seat and buys it. -/
def strangersSale : List (ℕ × Input) :=
  asks 3 (.cancelBooking ⟨20, "SKYLCC"⟩) 1 (.calm 2) ++
    asks 4 (.createHold ⟨20, 7, "2A"⟩) 3 (.calm 3) ++
    asks 5 (.createBooking ⟨20, "key-of-bob-00000001", soloBody 5 "tok_test_bbbb22220000"⟩) 14
      (.calm 4)

/-- A seat is sold, and then somebody else buys the next one. -/
theorem bookings_isolated_sale : ∃ w w',
    (service demoEnv FakePaymentGateway).Run (fun _ _ _ => True) (onSale 2) soldSeat w ∧
      (service demoEnv FakePaymentGateway).Run (fun w q _ => (w.proc q).user? ≠ some 10) w
        strangersSale w' ∧
      w.shared.db.owns 10 1 = true ∧ w'.shared.db.liveTickets.length = 2 ∧
      Unmoved 10 w.shared w'.shared ∧
      ∀ t : Timetable, SameAnswers t 10 w.shared.db w'.shared.db := by
  have hrun : ((service demoEnv FakePaymentGateway).checked (fun _ _ _ => True) (onSale 2)
      soldSeat).any (fun w => w.shared.db.owns 10 1 &&
        ((service demoEnv FakePaymentGateway).checked
          (fun w q _ => (w.proc q).user? ≠ some 10) w strangersSale).any fun w' =>
            decide (w'.shared.db.liveTickets.length = 2)) = true := by
    decide +kernel
  obtain ⟨w, hsold, htest⟩ := System.exists_run_of_checked hrun
  obtain ⟨howns, htest⟩ := Bool.and_eq_true_iff.mp htest
  obtain ⟨w', hother, hlive⟩ := System.exists_run_of_checked htest
  exact ⟨w, w', hsold, hother, howns, of_decide_eq_true hlive,
    bookings_isolated 10 (Db.seeded_initial _ _ _ _) hsold hother⟩

end SkyLock
