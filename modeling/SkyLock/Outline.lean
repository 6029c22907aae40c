import SkyLock.Effects

/-!
# The proof outline of the service

What may be assumed at each point of each handler, whatever runs beside it: the
tables are consistent, a saga's booking is where its program counter says, and
two processes that meet on one booking can only be the tail of its saga and
cancellations of it.  Nothing here restricts the runs or the gateway.

## Main definitions

* `Tables` — the shared invariant.
* `Saga.Seated`, `Saga.Pinned` — what a saga holds in memory.
* `BookingPc.Outline`, `CancelPc.Outline` — the assertion at each point.
* `Unreversed` — a booking has an approved authorization nobody reversed.
* `outline` — the outline as a whole.

## Main results

* `outline_holds` — **the outline holds throughout every run**.
-/

namespace SkyLock

open Concurrent

/-! ### What a saga holds in memory -/

/-- A saga's passengers sit one to one on its seats. -/
structure Saga.Seated (σ : Saga) : Prop where
  nonempty : σ.seats ≠ []
  nodup : (σ.seats.map Orm.Instance.id).Nodup
  passengers : ∀ q ∈ σ.passengers, q.bookingId = σ.bookingId
  seats : σ.passengers.map BookingPassenger.seatInventoryId = σ.seats.map fun i => some i.id
  distinct : (σ.passengers.map BookingPassenger.id).Nodup

/-- A saga's seat instances are as step 1 left them. -/
structure Saga.Pinned (σ : Saga) (u : UserId) : Prop where
  status : ∀ i ∈ σ.seats, i.row.status = .held
  hold : ∀ i ∈ σ.seats, i.row.holdId.isSome
  expiry : ∀ i ∈ σ.seats, i.row.holdExpiresAt.isSome
  booking : ∀ i ∈ σ.seats, i.row.bookingId = some σ.bookingId
  holder : ∀ i ∈ σ.seats, i.row.heldByUserId = some u

section StepOne

variable {db : Db} {payload : BookingCreate} {userId : UserId} {now : Time} {b : BookingId}
  {ref : String} {flightId : FlightId} {flight : Flight} {seats : List SeatInstance}

/-- The rows step 1 locks are the user's rows with those holds, as they are. -/
theorem mem_lockSeatsForHolds {holdIds : List HoldId} {i : SeatInstance}
    (h : i ∈ lockSeatsForHolds db holdIds userId) :
    i.id ∈ db.seatIds ∧ i.row = db.seat i.id ∧ (∃ hold ∈ holdIds, i.row.holdId = some hold) ∧
      i.row.heldByUserId = some userId := by
  obtain ⟨k, hk, rfl⟩ := List.mem_map.mp h
  obtain ⟨hmem, hcond⟩ := List.mem_filter.mp hk
  simp only [Bool.and_eq_true, Option.any_eq_true, decide_eq_true_eq] at hcond
  obtain ⟨⟨hold, hh, hmem'⟩, hu⟩ := hcond
  exact ⟨hmem, rfl, ⟨hold, hmem', hh⟩, hu⟩

theorem lockSeatsForHolds_ids (holdIds : List HoldId) :
    (lockSeatsForHolds db holdIds userId).map Orm.Instance.id =
      db.seatIds.filter fun s => ((db.seat s).holdId.any fun h => h ∈ holdIds) &&
        decide ((db.seat s).heldByUserId = some userId) := by
  simp [lockSeatsForHolds, Function.comp_def]

/-- A seat that step 1 does not report is held, and its hold has time left. -/
theorem live_of_expiredSeats_eq_nil (h : expiredSeats seats now = []) {i : SeatInstance}
    (hi : i ∈ seats) : i.row.status = .held ∧ ∃ e, i.row.holdExpiresAt = some e ∧ now < e := by
  have hcond := List.filter_eq_nil_iff.mp h i hi
  simp only [Bool.or_eq_true, decide_eq_true_eq, bne_iff_ne, not_or, not_not, not_le] at hcond
  obtain ⟨hleft, hstatus⟩ := hcond
  refine ⟨hstatus, ?_⟩
  unfold secondsLeft at hleft
  cases he : i.row.holdExpiresAt with
  | none => simp [he] at hleft
  | some e =>
    simp only [he] at hleft
    exact ⟨e, rfl, Int.ofNat_lt.mp (Int.sub_pos.mp hleft)⟩

theorem mem_orderedSeats {i : SeatInstance} : i ∈ orderedSeats seats ↔ i ∈ seats :=
  (List.perm_insertionSort _ seats).mem_iff

theorem mem_openedSaga_seats {i : SeatInstance} :
    i ∈ (openedSaga payload seats b ref flightId flight).seats ↔
      ∃ j ∈ seats, i = ⟨j.id, j.row.pinned b⟩ := by
  simp only [openedSaga, List.mem_map, mem_orderedSeats]
  constructor
  · rintro ⟨j, hj, h⟩
    exact ⟨j, hj, h.symm⟩
  · rintro ⟨j, hj, h⟩
    exact ⟨j, hj, h.symm⟩

/-- The rows step 1 loads and updates, as its saga keeps them. -/
theorem openedSaga_ids (payload : BookingCreate) (seats : List SeatInstance) (b : BookingId)
    (ref : String) (flightId : FlightId) (flight : Flight) :
    (openedSaga payload seats b ref flightId flight).seats.map Orm.Instance.id =
      (orderedSeats seats).map Orm.Instance.id := by
  simp [openedSaga, Function.comp_def]

/-- Step 1 seats its passengers one to one. -/
theorem openedSaga_seated (hlen : seats.length = payload.holdIds.length)
    (hnd : (seats.map Orm.Instance.id).Nodup) :
    (openedSaga payload seats b ref flightId flight).Seated := by
  have hperm := List.perm_insertionSort (fun i j : SeatInstance =>
    i.row.rowNo < j.row.rowNo ∨ (i.row.rowNo = j.row.rowNo ∧ i.row.seatLetter ≤ j.row.seatLetter))
    seats
  have hlen' : (orderedSeats seats).length = payload.passengers.length := by
    rw [orderedSeats, hperm.length_eq, hlen, payload.oneSeatPerPassenger]
  refine ⟨?_, ?_, fun q hq => passengerRows_bookingId hq, ?_, ?_⟩
  · have hpos : 0 < seats.length := hlen ▸ payload.holds_nonempty
    have hpos' : 0 < (orderedSeats seats).length := by rwa [orderedSeats, hperm.length_eq]
    simpa [openedSaga] using List.ne_nil_of_length_pos hpos'
  · have hids : (openedSaga payload seats b ref flightId flight).seats.map Orm.Instance.id =
        (orderedSeats seats).map Orm.Instance.id := by simp [openedSaga]
    rw [hids, orderedSeats]
    exact (hperm.map Orm.Instance.id).nodup_iff.mpr hnd
  · apply List.ext_getElem
    · simp [openedSaga, passengerRows, hlen']
    · intro n h₁ h₂
      simp [openedSaga, passengerRows, passengerRow]
  · have hids : (openedSaga payload seats b ref flightId flight).passengers.map
        BookingPassenger.id =
          (List.range payload.passengers.length).map fun k => b + 1 + k := by
      apply List.ext_getElem
      · simp [openedSaga, passengerRows, hlen']
      · intro n h₁ h₂
        simp [openedSaga, passengerRows, passengerRow]
    rw [hids]
    exact List.Nodup.map (fun m n hmn => Nat.add_left_cancel hmn) List.nodup_range

theorem openedSaga_pinned (hu : ∀ i ∈ seats, i.row.heldByUserId = some userId)
    (hh : ∀ i ∈ seats, i.row.holdId.isSome) (hlive : expiredSeats seats now = []) :
    (openedSaga payload seats b ref flightId flight).Pinned userId := by
  refine ⟨?_, ?_, ?_, ?_, ?_⟩ <;> intro i hi <;>
    obtain ⟨j, hj, rfl⟩ := mem_openedSaga_seats.mp hi
  · exact (live_of_expiredSeats_eq_nil hlive hj).1
  · exact hh j hj
  · obtain ⟨e, he, -⟩ := (live_of_expiredSeats_eq_nil hlive hj).2
    exact Option.isSome_iff_exists.mpr ⟨e, he⟩
  · rfl
  · exact hu j hj

end StepOne

/-- What step 1 left in memory always passes the re-verification. -/
theorem Saga.Pinned.lost_eq_nil {σ : Saga} {u : UserId} (h : σ.Pinned u) : σ.lost u = [] := by
  refine List.filter_eq_nil_iff.mpr fun i hi => ?_
  have hmem : i ∈ σ.seats := (List.perm_insertionSort _ σ.seats).mem_iff.mp hi
  simp [Saga.stillOurs, h.booking i hmem, h.holder i hmem]

/-- Every passenger of a saga finds its seat among the locked ones. -/
theorem Saga.Seated.assigned_eq {σ : Saga} (h : σ.Seated) :
    σ.assigned = some (σ.passengers.zip σ.seats) := by
  have hperm := List.perm_insertionSort (fun i j : SeatInstance => i.id ≤ j.id) σ.seats
  have hnd : (σ.locked.map Orm.Instance.id).Nodup :=
    (hperm.map Orm.Instance.id).nodup_iff.mpr h.nodup
  have hrec : ∀ (ps : List BookingPassenger) (is : List SeatInstance),
      ps.map BookingPassenger.seatInventoryId = is.map (fun i => some i.id) →
      (∀ i ∈ is, i ∈ σ.locked) →
      (ps.mapM fun p =>
        (p.seatInventoryId.bind fun s => σ.locked.find? fun i => i.id = s).map fun i => (p, i)) =
          some (ps.zip is) := by
    intro ps
    induction ps with
    | nil => intro is _ _; rfl
    | cons p ps ih =>
      intro is hmap hmem
      cases is with
      | nil => simp at hmap
      | cons i is =>
        obtain ⟨hp, hps⟩ := List.cons.inj hmap
        have hfind := Orm.find?_id hnd (hmem i (by simp))
        have ih := ih is hps fun j hj => hmem j (by simp [hj])
        simp only [List.mapM_cons, hp, Option.bind_some, hfind, Option.map_some, ih]
        rfl
  exact hrec σ.passengers σ.seats h.seats fun i hi => hperm.mem_iff.mpr hi

/-! ### What the tables say of a saga's booking -/

/-- The row is the one step 1 inserted for the saga, in whatever state. -/
def Booking.Of (row : Booking) (σ : Saga) (u : UserId) : Prop :=
  row.userId = u ∧ row.ref = σ.ref ∧ row.flightId = σ.flightId ∧ row.totalAmount = σ.total ∧
    row.currency = σ.currency

/-- The booking's row and passengers are the saga's, and its state satisfies `S`. -/
structure Saga.Recorded (σ : Saga) (u : UserId) (S : BookingState → Prop) (V : View) : Prop where
  row : ∃ row, V.row = some row ∧ row.Of σ u ∧ S row.state
  passengers : V.passengers = σ.passengers

/-- Before ticketing: the state in memory is the state of the row, the seat
instances are pinned, and the booking has no ticket. -/
structure Saga.Before (σ : Saga) (u : UserId) (state : BookingState) (V : View) : Prop where
  seated : σ.Seated
  pinned : σ.Pinned u
  recorded : σ.Recorded u (· = state) V
  tickets : V.tickets = []
  state : σ.state = state

/-- Each passenger of the booking has a live ticket. -/
def View.Whole (V : View) : Prop :=
  ∀ q ∈ V.passengers, ∃ t ∈ V.tickets, t.passengerId = q.id ∧ t.voidedAt = none

/-- Between ticketing and the confirmation: a cancellation may have flagged the
booking meanwhile, and done nothing else to it. -/
structure Saga.Ticketed (σ : Saga) (u : UserId) (V : View) : Prop where
  seated : σ.Seated
  state : σ.state = .ticketed
  recorded : σ.Recorded u (fun s => s = .ticketed ∨ s = .needsManualReview) V
  whole : V.Whole

/-- The payment instance is the one `create_booking` inserted for this saga. -/
structure Payment.For (pay : Payment) (σ : Saga) (r : BookingRequest) : Prop where
  booking : pay.bookingId = σ.bookingId
  amount : pay.amount = σ.total
  currency : pay.currency = σ.currency
  cardToken : pay.cardToken = r.payload.cardToken
  key : pay.idempotencyKey = gatewayKey r.key

/-- So far every `authorize` call of the booking has timed out. -/
def Unanswered (b : BookingId) (req : AuthorizeRequest) (calls : List GatewayCall) : Prop :=
  ∀ c ∈ calls, ∃ e, c = .authorize b req (.error e)

/-- The booking's calls end with the `authorize` call that answered. -/
def Answered (b : BookingId) (req : AuthorizeRequest) (result : AuthorizationResult)
    (calls : List GatewayCall) : Prop :=
  ∃ cs, calls = .authorize b req (.ok result) :: cs ∧ Unanswered b req cs

/-- The charge is authorized, and the payment instance says so. -/
structure Payment.Charged (pay : Payment) (σ : Saga) (V : View) (calls : List GatewayCall) :
    Prop where
  row : V.payments = [pay]
  state : pay.state = .authorized
  answered : ∃ result : AuthorizationResult, result.approved = true ∧
    pay.providerRef = some result.providerRef ∧
      Answered σ.bookingId (authorizeRequest σ pay) result calls

/-- What a failure before ticketing knows of the charge: there was none, or it
was declined. -/
def PaymentFailure.Journals (f : PaymentFailure) (σ : Saga) (r : BookingRequest) (V : View) :
    Prop :=
  match f.payment with
  | none => V.payments = [] ∧ V.calls = []
  | some (loaded, current) => loaded.For σ r ∧ V.payments = [loaded] ∧
      ∃ result : AuthorizationResult, result.approved = false ∧ current = loaded.declined result ∧
        Answered σ.bookingId (authorizeRequest σ loaded) result V.calls

/-- The booking has an approved authorization that was neither voided nor
refunded. -/
def Unreversed (b : BookingId) (calls : List GatewayCall) : Prop :=
  ∃ req result, .authorize b req (.ok result) ∈ calls ∧ result.approved = true ∧
    .void b result.providerRef true ∉ calls ∧
      ∀ amount, .refund b result.providerRef amount true ∉ calls

/-- The saga is over without a sale: its booking is settled, and unless it is
flagged for review its charge is reversed. -/
def Settled (b : BookingId) (V : View) : Prop :=
  ∃ row, V.row = some row ∧
    (row.state = .paymentFailed ∨ row.state = .voided ∨ row.state = .needsManualReview) ∧
      (Unreversed b V.calls → row.state = .needsManualReview)

/-! ### The assertion at each point -/

/-- The booking of a `create_booking` request, once it has one. -/
def BookingPc.booking? : BookingPc → Option BookingId
  | .completeSelect _ b | .completeCommit _ b | .release _ b | .done _ b => b
  | pc => pc.saga?.map Saga.bookingId

/-- The booking of a request that has not issued tickets and never will, or has
yet to. -/
def BookingPc.untold? : BookingPc → Option BookingId
  | .capture _ _ | .confirm _ _ | .refresh _ | .release _ _ => none
  | .completeSelect (.returned _ _) _ | .completeCommit (.returned _ _) _ => none
  | .done (.json _ _ _) _ | .done (.serverError _) _ => none
  | pc => pc.booking?

/-- The booking of a request between ticketing and the confirmation. -/
def BookingPc.ticketed? : BookingPc → Option BookingId
  | .capture σ _ | .confirm σ _ => some σ.bookingId
  | _ => none

/-- What may be assumed of the request's booking `b`, of which the tables say `V`. -/
def BookingPc.Outline (r : BookingRequest) (b : BookingId) (V : View) : BookingPc → Prop
  | .assess σ | .createPayment σ =>
    σ.Before r.userId .pending V ∧ V.payments = [] ∧ V.calls = []
  | .failSelect σ f => σ.Before r.userId .pending V ∧ f.Journals σ r V
  | .failCommit σ f rows =>
    σ.Before r.userId .pending V ∧ f.Journals σ r V ∧
      ∀ i ∈ rows, i.row.bookingId = some σ.bookingId
  | .authorize σ pay =>
    σ.Before r.userId .pending V ∧ pay.For σ r ∧ V.payments = [pay] ∧ V.calls = []
  | .journalUnknown σ pay | .retryAuthorize σ pay =>
    σ.Before r.userId .pending V ∧ pay.For σ r ∧ V.payments = [pay] ∧
      Unanswered σ.bookingId (authorizeRequest σ pay) V.calls
  | .recordAuthorized σ pay result =>
    σ.Before r.userId .pending V ∧ pay.For σ r ∧ V.payments = [pay] ∧ result.approved = true ∧
      Answered σ.bookingId (authorizeRequest σ pay) result V.calls
  | .issueTickets σ pay =>
    σ.Before r.userId .paymentAuthorized V ∧ pay.For σ r ∧ pay.Charged σ V V.calls
  | .reverse σ pay _ =>
    σ.Before r.userId .compensating V ∧ pay.For σ r ∧ pay.Charged σ V V.calls
  | .finishVoided σ pay _ =>
    σ.Before r.userId .compensating V ∧ pay.For σ r ∧
      ∃ cs, V.calls = .void σ.bookingId (pay.providerRef.getD "") true :: cs ∧
        pay.Charged σ V cs
  | .finishReview σ pay _ _ =>
    σ.Before r.userId .compensating V ∧ pay.For σ r ∧
      ∃ cs, V.calls = .void σ.bookingId (pay.providerRef.getD "") false :: cs ∧
        pay.Charged σ V cs
  | .capture σ pay | .confirm σ pay =>
    σ.Ticketed r.userId V ∧ pay.For σ r ∧ V.payments = [pay] ∧ pay.state = .authorized ∧
      pay.providerRef.isSome
  | .completeSelect (.appError _) _ | .completeCommit (.appError _) _ | .done (.problem _) _ =>
    Settled b V
  | _ => True

/-- The payment instance of a cancellation stands for a row of the booking. -/
structure Payment.Loaded (pay : Payment) (b : BookingId) (V : View) : Prop where
  booking : pay.bookingId = b
  state : pay.state = .authorized ∨ pay.state = .captured
  providerRef : pay.providerRef.isSome
  row : ∃ r ∈ V.payments, r.id = pay.id ∧ r.providerRef = pay.providerRef

/-- The booking instance of a cancellation. -/
def CancelPc.copy? : CancelPc → Option (BookingId × BookingState)
  | .selectPayment b state | .lockSeats b state _ | .refund b state _ | .finish b state _
  | .review b state _ => some (b, state)
  | _ => none

/-- What may be assumed of the booking a cancellation works on. -/
structure CancelPc.Outline (b : BookingId) (V : View) (pc : CancelPc) : Prop where
  state : ∀ copy, pc.copy? = some copy → copy.2 = .confirmed ∨ copy.2 = .ticketed
  payment : ∀ pay, pc.instance? = some pay → pay.Loaded b V

/-- The booking of a request that is or was a `create_booking`. -/
def Proc.booking? : Proc → Option BookingId
  | .booking _ pc => pc.booking?
  | _ => none

/-- The untold booking of a process. -/
def Proc.untold? : Proc → Option BookingId
  | .booking _ pc => pc.untold?
  | _ => none

/-- The ticketed booking of a process. -/
def Proc.ticketed? : Proc → Option BookingId
  | .booking _ pc => pc.ticketed?
  | _ => none

/-- The booking instance of a process that cancels. -/
def Proc.copy? : Proc → Option (BookingId × BookingState)
  | .cancel _ pc => pc.copy?
  | _ => none

/-! ### The outline -/

variable {G : Type}

/-- The payment table: one payment a booking, and a charge that went through has
the provider's reference. -/
structure PaymentTable (db : Db) (uuid : ℕ) : Prop where
  lt : ∀ r ∈ db.payments, r.id < uuid
  ids : ∀ r ∈ db.payments, ∀ r' ∈ db.payments, r.id = r'.id → r.bookingId = r'.bookingId
  one : ∀ b, (db.paymentsOf b).length ≤ 1
  ref : ∀ r ∈ db.payments, r.state = .authorized ∨ r.state = .captured → r.providerRef.isSome

/-- The shared invariant. -/
structure Tables (s : Shared G) : Prop where
  seatIds : s.db.seatIds.Pairwise (· < ·)
  /-- The CHECK constraints. -/
  checked : ∀ k, (s.db.seat k).checks = true
  /-- UUIDs not drawn yet name nothing. -/
  unborn : ∀ b, s.uuid ≤ b → s.view b = ⟨none, [], [], [], []⟩
  passengerLt : ∀ q ∈ s.db.passengers, q.id < s.uuid
  passengerIds : (s.db.passengers.map BookingPassenger.id).Nodup
  payments : PaymentTable s.db s.uuid
  /-- A ticket is its passenger's, for the passenger's seat. -/
  seated : ∀ t ∈ s.db.tickets, ∃ q ∈ s.db.passengers, q.id = t.passengerId ∧
    q.bookingId = t.bookingId ∧ q.seatInventoryId = some t.seatInventoryId
  /-- A passenger's seat is on the booking's flight. -/
  onFlight : ∀ q ∈ s.db.passengers, ∃ k ∈ s.db.seatIds, q.seatInventoryId = some k ∧
    ∃ row, s.db.booking q.bookingId = some row ∧ (s.db.seat k).flightId = row.flightId
  /-- A row is pinned to a booking there is. -/
  pinned : ∀ k b, (s.db.seat k).bookingId = some b → ∃ row, s.db.booking b = some row
  refs : ∀ ref b, s.db.bookingRef ref = some b ↔ ∃ row, s.db.booking b = some row ∧ row.ref = ref

/-- The assertion attached to a process. -/
def Proc.Outline (s : Shared G) : Proc → Prop
  | .booking r pc => ∀ b, pc.booking? = some b → b < s.uuid ∧ pc.Outline r b (s.view b)
  | .cancel _ pc => ∀ b, pc.booking? = some b → b < s.uuid ∧ pc.Outline b (s.view b)
  | _ => True

/-- How two processes may stand to each other. -/
structure Proc.Apart (P Q : Proc) : Prop where
  /-- Two requests never share a booking. -/
  booking : ∀ b, P.booking? = some b → Q.booking? ≠ some b
  /-- Nobody cancels a booking that has no tickets. -/
  untold : ∀ b, P.untold? = some b → Q.copy?.map Prod.fst ≠ some b
  /-- A cancellation beside the tail of the saga read a ticketed booking. -/
  ticketed : ∀ b, P.ticketed? = some b → ∀ state, Q.copy? = some (b, state) → state = .ticketed

/-- The proof outline. -/
def outline (G : Type) : Outline (Shared G) Proc where
  shared := Tables
  own := Proc.Outline
  pair := Proc.Apart

end SkyLock
