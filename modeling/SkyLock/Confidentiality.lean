import SkyLock.Ownership

/-!
# What a caller tells in confidence

A booking names passports, dates of birth, a contact address and a card.  Two runs whose
bodies differ in these alone, to the same last four characters of the passports and cards,
go the same way: every reply, every answer to a later question, every audit row and every
seat is the same.  The tables differ in the columns that hold what was told, and the claims
in the digests of the bodies.

## Main definitions

* `Disguise` — other values for what a caller tells in confidence.
* `Db.disguised`, `Shared.disguised`, `Proc.disguised`, `Input.disguised` — a state and an
  input in which they stand for the true ones.
* `Indifferent` — a gateway to which the cards are all one.

## Main results

* `step_disguised` — a disguised step does what the true one does, in disguise.
* `replies_confidential` — **no run tells more of them than four characters**.
-/

namespace SkyLock

open Concurrent

/-- Other values for what a caller tells in confidence. -/
structure Disguise where
  passport : String → String
  dob : String → String
  email : String → String
  card : String → String
  passport_last4 : ∀ t, last4 (passport t) = last4 t
  card_last4 : ∀ t, last4 (card t) = last4 t

/-! ### In disguise -/

section Disguises

variable (D : Disguise) (env : Env)

/-- A passenger who gives another date of birth and passport. -/
def PassengerIn.disguised (p : PassengerIn) : PassengerIn :=
  { p with dob := p.dob.map D.dob, passportNumber := p.passportNumber.map D.passport }

/-- The body with these, and with another card and contact. -/
@[simps] def BookingCreate.disguised (b : BookingCreate) : BookingCreate where
  holdIds := b.holdIds
  passengers := b.passengers.map (PassengerIn.disguised D)
  cardToken := D.card b.cardToken
  contactEmail := b.contactEmail.map D.email
  holds_nonempty := b.holds_nonempty
  holds_le_six := b.holds_le_six
  oneSeatPerPassenger := by rw [List.length_map, b.oneSeatPerPassenger]
  holds_nodup := b.holds_nodup

/-- The request that brings it. -/
@[simps] def BookingRequest.disguised (r : BookingRequest) : BookingRequest :=
  { r with payload := r.payload.disguised D }

/-- The passenger row such a passenger leaves. -/
def BookingPassenger.disguised (q : BookingPassenger) : BookingPassenger :=
  { q with dobEnc := q.dobEnc.map D.dob, passportEnc := q.passportEnc.map D.passport }

/-- The payment row of the other card, fingerprint and all. -/
@[simps] def Payment.disguised (r : Payment) : Payment :=
  { r with
    cardToken := D.card r.cardToken, cardFingerprint := env.cardFingerprint (D.card r.cardToken) }

/-- A charge of the other card. -/
def AuthorizeRequest.disguised (req : AuthorizeRequest) : AuthorizeRequest :=
  { req with cardToken := D.card req.cardToken }

/-- The call that asks for it; the others name no card. -/
def GatewayCall.disguised : GatewayCall → GatewayCall
  | .authorize b req out => .authorize b (req.disguised D) out
  | c => c

/-- A saga over the disguised passengers. -/
@[simps] def Saga.disguised (σ : Saga) : Saga :=
  { σ with passengers := σ.passengers.map (BookingPassenger.disguised D) }

/-- A failure of the disguised payment. -/
@[simps] def PaymentFailure.disguised (f : PaymentFailure) : PaymentFailure :=
  { f with payment := f.payment.map (Prod.map (Payment.disguised D env) (Payment.disguised D env)) }

/-- A booking request at the same place, in disguise. -/
def BookingPc.disguised : BookingPc → BookingPc
  | .assess σ => .assess (σ.disguised D)
  | .failSelect σ f => .failSelect (σ.disguised D) (f.disguised D env)
  | .failCommit σ f rows => .failCommit (σ.disguised D) (f.disguised D env) rows
  | .createPayment σ => .createPayment (σ.disguised D)
  | .authorize σ pay => .authorize (σ.disguised D) (pay.disguised D env)
  | .journalUnknown σ pay => .journalUnknown (σ.disguised D) (pay.disguised D env)
  | .retryAuthorize σ pay => .retryAuthorize (σ.disguised D) (pay.disguised D env)
  | .recordAuthorized σ pay result =>
    .recordAuthorized (σ.disguised D) (pay.disguised D env) result
  | .issueTickets σ pay => .issueTickets (σ.disguised D) (pay.disguised D env)
  | .reverse σ pay reason => .reverse (σ.disguised D) (pay.disguised D env) reason
  | .finishVoided σ pay reason => .finishVoided (σ.disguised D) (pay.disguised D env) reason
  | .finishReview σ pay reason error =>
    .finishReview (σ.disguised D) (pay.disguised D env) reason error
  | .capture σ pay => .capture (σ.disguised D) (pay.disguised D env)
  | .confirm σ pay => .confirm (σ.disguised D) (pay.disguised D env)
  | .refresh σ => .refresh (σ.disguised D)
  | pc => pc

/-- A cancellation at the same place, with the disguised payment. -/
def CancelPc.disguised : CancelPc → CancelPc
  | .lockSeats b state pay => .lockSeats b state (pay.map (Payment.disguised D env))
  | .refund b state pay => .refund b state (pay.disguised D env)
  | .finish b state refunded => .finish b state (refunded.map (Payment.disguised D env))
  | pc => pc

/-- A process in disguise. -/
def Proc.disguised : Proc → Proc
  | .booking r pc => .booking (r.disguised D) (pc.disguised D env)
  | .cancel r pc => .cancel r (pc.disguised D env)
  | P => P

/-- An input in disguise: only a booking that arrives brings a secret. -/
def Input.disguised : Input → Input
  | .arrive (.createBooking r) => .arrive (.createBooking (r.disguised D))
  | a => a

/-- The tables in disguise; the claims, which hold digests, are given. -/
@[simps -fullyApplied] def Db.disguised (claims : String × UserId → Option IdempotencyKey)
    (db : Db) : Db :=
  { db with
    passengers := db.passengers.map (BookingPassenger.disguised D)
    payments := db.payments.map (Payment.disguised D env)
    claims := claims }

/-- The shared state: the tables and the calls in disguise, the gateway as it is. -/
@[simps] def Shared.disguised {G : Type} (claims : String × UserId → Option IdempotencyKey)
    (s : Shared G) : Shared G :=
  { s with
    db := s.db.disguised D env claims, calls := s.calls.map (GatewayCall.disguised D) }

/-- What ticketing comes to, in disguise. -/
def Issue.disguised (claims : String × UserId → Option IdempotencyKey) : Issue → Issue
  | .issued db σ => .issued (db.disguised D env claims) (σ.disguised D)
  | .refused db reason => .refused (db.disguised D env claims) reason
  | .raised x => .raised x

end Disguises

/-! ### What the services do to tables in disguise -/

section Tables

variable {D : Disguise} {env : Env} {claims : String × UserId → Option IdempotencyKey} {db : Db}
  {σ : Saga} {pay : Payment}

theorem triggerFor_disguised (t : String) : triggerFor (D.card t) = triggerFor t := by
  rw [triggerFor, triggerFor, D.card_last4]

variable (D env claims db) in
theorem flushPayment_disguised (loaded current : Payment) :
    (db.disguised D env claims).flushPayment (loaded.disguised D env) (current.disguised D env) =
      (db.flushPayment loaded current).disguised D env claims := by
  simp only [Db.flushPayment, Db.disguised, List.map_map]
  congr 1
  refine List.map_congr_left fun r _ => ?_
  simp only [Function.comp_apply]
  by_cases hr : r.id = loaded.id
  · have hr' : (r.disguised D env).id = (loaded.disguised D env).id := hr
    rw [if_pos hr, if_pos hr']
    rfl
  · have hr' : (r.disguised D env).id ≠ (loaded.disguised D env).id := hr
    rw [if_neg hr, if_neg hr']

variable (D env claims db) in
theorem flushPayments_disguised (dirty : Option (Payment × Payment)) :
    (db.disguised D env claims).flushPayments
        (dirty.map (Prod.map (Payment.disguised D env) (Payment.disguised D env))) =
      (db.flushPayments dirty).disguised D env claims := by
  cases dirty with
  | none => rfl
  | some d =>
    obtain ⟨loaded, current⟩ := d
    exact flushPayment_disguised D env claims db loaded current

theorem insertBooking_disguised (b : BookingId) (row : Booking)
    (passengers : List BookingPassenger) :
    insertBooking (db.disguised D env claims) b row
        (passengers.map (BookingPassenger.disguised D)) =
      (insertBooking db b row passengers).disguised D env claims := by
  simp only [insertBooking, Db.disguised, List.map_append]

theorem passengerRow_disguised (b : BookingId) (id : PassengerId) (p : PassengerIn)
    (i : SeatInstance) :
    passengerRow b id (p.disguised D) i = (passengerRow b id p i).disguised D := by
  have hlast4 : (p.passportNumber.map D.passport).map last4 = p.passportNumber.map last4 := by
    cases p.passportNumber with
    | none => rfl
    | some t => exact congrArg some (D.passport_last4 t)
  simp only [passengerRow, PassengerIn.disguised, BookingPassenger.disguised, hlast4]

theorem passengerRows_disguised (b : BookingId) (passengers : List PassengerIn)
    (seats : List SeatInstance) :
    passengerRows b (passengers.map (PassengerIn.disguised D)) seats =
      (passengerRows b passengers seats).map (BookingPassenger.disguised D) := by
  refine List.ext_getElem (by simp [passengerRows]) fun k hk _ => ?_
  simp only [passengerRows, List.getElem_mapIdx, List.getElem_zip, List.getElem_map]
  exact passengerRow_disguised ..

theorem openedSaga_disguised (payload : BookingCreate) (seats : List SeatInstance)
    (b : BookingId) (ref : String) (flightId : FlightId) (flight : Flight) :
    openedSaga (payload.disguised D) seats b ref flightId flight =
      (openedSaga payload seats b ref flightId flight).disguised D := by
  simp only [openedSaga, BookingCreate.disguised, Saga.disguised, passengerRows_disguised]

theorem openedDb_disguised (userId : UserId) (key : String) (now : Time)
    (seats : List SeatInstance) :
    openedDb (db.disguised D env claims) (σ.disguised D) userId key now seats =
      (openedDb db σ userId key now seats).disguised D env claims := by
  have hrow : (σ.disguised D).bookingRow userId key now = σ.bookingRow userId key now := rfl
  simp only [openedDb, Saga.disguised_bookingId, Saga.disguised_passengers, hrow,
    insertBooking_disguised]
  rfl

theorem openBooking_disguised (now : Time) (uuid : ℕ) (userId : UserId) (key : String)
    (payload : BookingCreate) (pnr : ℕ → String) (refTaken : Bool) :
    openBooking (db.disguised D env claims) now uuid userId key (payload.disguised D) pnr refTaken =
      (openBooking db now uuid userId key payload pnr refTaken).map
        (Prod.map (Db.disguised D env claims) (Saga.disguised D)) := by
  have hseats : lockSeatsForHolds (db.disguised D env claims) payload.holdIds userId =
      lockSeatsForHolds db payload.holdIds userId := rfl
  have hpnr : uniquePnr (db.disguised D env claims) pnr = uniquePnr db pnr := rfl
  have htotal : ∀ σ : Saga, (σ.disguised D).total = σ.total := fun _ => rfl
  simp only [openBooking, openedSaga_disguised, openedDb_disguised, BookingCreate.disguised_holdIds,
    Db.disguised_flight, hseats, hpnr]
  generalize lockSeatsForHolds db payload.holdIds userId = seats
  split_ifs with hlen hlive htaken
  · rfl
  · rfl
  all_goals
    cases (seats.map fun i => i.row.flightId).dedup with
    | nil => rfl
    | cons f fs =>
      cases fs with
      | nil =>
        dsimp only
        cases db.flight f with
        | none => cases uniquePnr db pnr <;> rfl
        | some flight =>
          cases uniquePnr db pnr with
          | none => rfl
          | some ref =>
            simp only [htotal]
            split_ifs <;> rfl
      | cons _ _ => rfl

theorem startFailure_disguised (f : PaymentFailure) :
    startFailure (σ.disguised D) (f.disguised D env) = startFailure σ f := by
  have hw : (f.disguised D env).Writable ↔ f.Writable := by
    unfold PaymentFailure.Writable
    cases hpay : f.payment <;> simp [hpay, Payment.disguised]
  unfold startFailure
  simp only [Saga.disguised_state, hw]

theorem failPayment_disguised (f : PaymentFailure) (rows : List SeatInstance) :
    failPayment (db.disguised D env claims) (σ.disguised D) (f.disguised D env) rows =
      (failPayment db σ f rows).map (Db.disguised D env claims) := by
  have hdb : failedDb (db.disguised D env claims) (σ.disguised D) (f.disguised D env) rows =
      (failedDb db σ f rows).disguised D env claims := by
    unfold failedDb
    rw [PaymentFailure.disguised_payment, flushPayments_disguised]
    rfl
  have hchecked : ∀ db' : Db, (db'.disguised D env claims).seatsChecked = db'.seatsChecked :=
    fun _ => rfl
  simp only [failPayment, hdb, hchecked]
  split <;> rfl

theorem newPayment_disguised (id : PaymentId) (provider cardToken key : String) :
    newPayment env (σ.disguised D) id provider (D.card cardToken) key =
      (newPayment env σ id provider cardToken key).disguised D env := by
  simp only [newPayment, Payment.disguised, D.card_last4]
  rfl

theorem createPayment_disguised :
    createPayment (db.disguised D env claims) (pay.disguised D env) =
      (createPayment db pay).map (Db.disguised D env claims) := by
  simp only [createPayment, Payment.disguised_idempotencyKey]
  split <;> rfl

theorem journalUnknown_disguised :
    journalUnknown (db.disguised D env claims) (σ.disguised D) (pay.disguised D env) =
      (journalUnknown db σ pay).disguised D env claims := by
  have hflush : (db.disguised D env claims).flushPayment (pay.disguised D env)
      (pay.disguised D env).timedOut = (db.flushPayment pay pay.timedOut).disguised D env claims :=
    flushPayment_disguised D env claims db pay pay.timedOut
  simp only [journalUnknown, hflush]
  rfl

theorem recordAuthorized_disguised (result : AuthorizationResult) :
    recordAuthorized (db.disguised D env claims) (σ.disguised D) (pay.disguised D env) result =
      (recordAuthorized db σ pay result).map (Db.disguised D env claims) := by
  have hdb : authorizedDb (db.disguised D env claims) (σ.disguised D) (pay.disguised D env) result =
      (authorizedDb db σ pay result).disguised D env claims := by
    have hflush : (db.disguised D env claims).flushPayment (pay.disguised D env)
        ((pay.disguised D env).authorized result) =
          (db.flushPayment pay (pay.authorized result)).disguised D env claims :=
      flushPayment_disguised D env claims db pay (pay.authorized result)
    simp only [authorizedDb, hflush]
    rfl
  simp only [recordAuthorized, hdb, Saga.disguised_state]
  cases assertCanTransition σ.state .paymentAuthorized with
  | some x => rfl
  | none =>
    dsimp only
    split_ifs <;> rfl

theorem noteLapsed_disguised (userId : UserId) (now : Time) :
    noteLapsed (db.disguised D env claims) (σ.disguised D) userId now =
      (noteLapsed db σ userId now).disguised D env claims := by
  unfold noteLapsed
  exact List.foldl_hom (Db.disguised D env claims) fun _ _ => rfl

/-- The passengers with their seats, the passengers in disguise. -/
theorem assigned_disguised :
    (σ.disguised D).assigned =
      σ.assigned.map (List.map (Prod.map (BookingPassenger.disguised D) id)) := by
  unfold Saga.assigned
  rw [Saga.disguised_passengers, show (σ.disguised D).locked = σ.locked from rfl]
  induction σ.passengers with
  | nil => rfl
  | cons p ps ih =>
    rw [List.map_cons, List.mapM_cons, List.mapM_cons, ih,
      show (p.disguised D).seatInventoryId = p.seatInventoryId from rfl]
    cases p.seatInventoryId.bind fun s => σ.locked.find? fun i => i.id = s with
    | none => rfl
    | some i =>
      generalize (ps.mapM fun p => (p.seatInventoryId.bind fun s =>
        σ.locked.find? fun i => i.id = s).map fun i => (p, i)) = rest
      cases rest <;> rfl

theorem newTickets_disguised (b : BookingId) (uuid : ℕ) (now : Time) (eTicketNo : ℕ → String)
    (assigned : List (BookingPassenger × SeatInstance)) :
    newTickets b uuid now eTicketNo
        (assigned.map (Prod.map (BookingPassenger.disguised D) id)) =
      newTickets b uuid now eTicketNo assigned := by
  refine List.ext_getElem (by simp [newTickets]) fun k hk _ => ?_
  simp only [newTickets, List.getElem_mapIdx, List.getElem_map]
  rfl

theorem issueAssigned_disguised (now : Time) (uuid : ℕ) (eTicketNo : ℕ → String)
    (seqTaken : Bool) (assigned : List (BookingPassenger × SeatInstance)) :
    issueAssigned (db.disguised D env claims) now uuid (σ.disguised D) eTicketNo seqTaken
        (assigned.map (Prod.map (BookingPassenger.disguised D) id)) =
      (issueAssigned db now uuid σ eTicketNo seqTaken assigned).disguised D env claims := by
  have hids : (assigned.map (Prod.map (BookingPassenger.disguised D) id)).map
      (fun pi => pi.2.id) = assigned.map fun pi => pi.2.id := by
    rw [List.map_map]
    rfl
  have hseats : ticketedSeats σ.bookingId
      (assigned.map (Prod.map (BookingPassenger.disguised D) id)) =
        ticketedSeats σ.bookingId assigned := by
    simp [ticketedSeats]
  have hdetail : ∀ tickets, issuedDetail tickets
      (assigned.map (Prod.map (BookingPassenger.disguised D) id)) =
        issuedDetail tickets assigned := by
    intro tickets
    simp [issuedDetail, List.zip_map_right]
  have hdb : ∀ tickets, issuedDb (db.disguised D env claims) (σ.disguised D) tickets
      (assigned.map (Prod.map (BookingPassenger.disguised D) id)) =
        (issuedDb db σ tickets assigned).disguised D env claims := by
    intro tickets
    simp only [issuedDb, Saga.disguised_bookingId, Saga.disguised_state, hseats, hdetail]
    rfl
  have hafter : (σ.disguised D).afterIssue
      (assigned.map (Prod.map (BookingPassenger.disguised D) id)) =
        (σ.afterIssue assigned).disguised D := by
    simp only [Saga.afterIssue, Saga.disguised, hids]
  have hunique : ∀ tickets, (db.disguised D env claims).ticketsUnique tickets =
      db.ticketsUnique tickets := fun _ => rfl
  have hchecked : ∀ db' : Db, (db'.disguised D env claims).seatsChecked = db'.seatsChecked :=
    fun _ => rfl
  simp only [issueAssigned, newTickets_disguised, Saga.disguised_bookingId, Saga.disguised_state,
    hdb, hafter, hunique, hchecked, hids]
  generalize newTickets σ.bookingId uuid now eTicketNo assigned = tickets
  cases assertCanTransition σ.state .ticketed <;> split_ifs <;> rfl

theorem issueTickets_disguised (now : Time) (uuid : ℕ) (userId : UserId) (cardToken : String)
    (eTicketNo : ℕ → String) (seqTaken : Bool) :
    issueTickets (db.disguised D env claims) now uuid (σ.disguised D) userId (D.card cardToken)
        eTicketNo seqTaken =
      (issueTickets db now uuid σ userId cardToken eTicketNo seqTaken).disguised D env claims := by
  have hlost : (σ.disguised D).lost userId = σ.lost userId := rfl
  simp only [issueTickets, noteLapsed_disguised, hlost, triggerFor_disguised, assigned_disguised,
    Saga.disguised_bookingId]
  split_ifs
  · rfl
  · rfl
  · cases σ.assigned with
    | none => rfl
    | some assigned => exact issueAssigned_disguised ..

theorem startCompensation_disguised (reason : String) :
    startCompensation (db.disguised D env claims) (σ.disguised D) (pay.disguised D env) reason =
      (startCompensation db σ pay reason).map (Db.disguised D env claims) := by
  unfold startCompensation
  rw [Saga.disguised_state]
  cases assertCanTransition σ.state .compensating <;> rfl

theorem reversed_disguised :
    (pay.disguised D env).reversed = (pay.reversed.1.disguised D env, pay.reversed.2) := by
  unfold Payment.reversed
  rw [Payment.disguised_state]
  split <;> rfl

theorem finishVoided_disguised (now : Time) :
    finishVoided (db.disguised D env claims) (σ.disguised D) (pay.disguised D env) now =
      (finishVoided db σ pay now).map (Db.disguised D env claims) := by
  have hdb : voidedDb (db.disguised D env claims) (σ.disguised D) (pay.disguised D env) now =
      (voidedDb db σ pay now).disguised D env claims := by
    simp only [voidedDb, reversed_disguised, flushPayment_disguised]
    rfl
  unfold finishVoided
  rw [Saga.disguised_state, hdb]
  cases assertCanTransition σ.state .voided <;> rfl

theorem confirm_disguised (seqTaken : Bool) :
    confirm (db.disguised D env claims) (σ.disguised D) (pay.disguised D env) seqTaken =
      (confirm db σ pay seqTaken).map (Db.disguised D env claims) := by
  have hdb : confirmedDb (db.disguised D env claims) (σ.disguised D) (pay.disguised D env) =
      (confirmedDb db σ pay).disguised D env claims := by
    have hflush : (db.disguised D env claims).flushPayment (pay.disguised D env)
        (pay.disguised D env).capturedState =
          (db.flushPayment pay pay.capturedState).disguised D env claims :=
      flushPayment_disguised D env claims db pay pay.capturedState
    simp only [confirmedDb, hflush]
    rfl
  unfold confirm
  rw [Saga.disguised_state, hdb]
  cases assertCanTransition σ.state .confirmed with
  | some x => rfl
  | none => cases seqTaken <;> rfl

theorem seatOf_disguised (p : PassengerId) : (σ.disguised D).seatOf p = σ.seatOf p := by
  unfold Saga.seatOf
  rw [Saga.disguised_passengers, List.find?_map, Option.bind_map]
  rfl

theorem passengersOf_disguised (b : BookingId) :
    (db.disguised D env claims).passengersOf b =
      (db.passengersOf b).map (BookingPassenger.disguised D) := by
  unfold Db.passengersOf
  rw [Db.disguised_passengers, List.filter_map]
  rfl

theorem bookingPayload_disguised (row : Booking) :
    bookingPayload (db.disguised D env claims) (σ.disguised D) row = bookingPayload db σ row := by
  simp only [bookingPayload, passengersOf_disguised, seatOf_disguised, List.map_map,
    Saga.disguised_bookingId, Db.disguised_tickets]
  rfl

theorem findPayment_disguised (b : BookingId) :
    findPayment (db.disguised D env claims) b =
      (findPayment db b).map (Payment.disguised D env) := by
  unfold findPayment
  rw [Db.disguised_payments, List.find?_map]
  rfl

theorem finishCancel_disguised (b : BookingId) (state : BookingState) (userId : UserId)
    (refunded : Option Payment) (now : Time) (seqTaken : Bool) :
    finishCancel (db.disguised D env claims) b state userId
        (refunded.map (Payment.disguised D env)) now seqTaken =
      (finishCancel db b state userId refunded now seqTaken).map
        (Prod.map (Db.disguised D env claims) id) := by
  have hdb : cancelledDb (db.disguised D env claims) b state userId
      (refunded.map (Payment.disguised D env)) now =
        (cancelledDb db b state userId refunded now).disguised D env claims := by
    cases refunded with
    | none => rfl
    | some pay =>
      have hflush : (releaseSeatsForBooking (db.disguised D env claims) b now).1.flushPayments
          (some (pay.disguised D env, (pay.disguised D env).refundedState)) =
            ((releaseSeatsForBooking db b now).1.flushPayments
              (some (pay, pay.refundedState))).disguised D env claims :=
        flushPayments_disguised D env claims (releaseSeatsForBooking db b now).1
          (some (pay, pay.refundedState))
      simp only [cancelledDb, Option.map_some, hflush]
      rfl
  unfold finishCancel
  rw [hdb]
  cases assertCanTransition state .cancelled with
  | some x => rfl
  | none => cases seqTaken <;> rfl

end Tables

/-! ### One step -/

/-- A gateway to which the cards are all one. -/
def Indifferent (D : Disguise) (G : Type) [PaymentGateway G] : Prop :=
  ∀ (g : G) (req : AuthorizeRequest),
    PaymentGateway.authorize g (req.disguised D) = PaymentGateway.authorize g req

section Steps

variable {G : Type} [PaymentGateway G] {D : Disguise} {env : Env}
  {claims : String × UserId → Option IdempotencyKey} {s : Shared G} {p : ℕ} {r : BookingRequest}
  {x : Draws} {pc : BookingPc}

/-- What a step leads to, in disguise. -/
abbrev inDisguise (D : Disguise) (env : Env) (claims : String × UserId → Option IdempotencyKey)
    (o : Shared G × BookingPc) : Shared G × BookingPc :=
  (o.1.disguised D env claims, o.2.disguised D env)

theorem raised_disguised (e : Failure) (b : Option BookingId) :
    (raised e b).disguised D env = raised e b := by
  cases e <;> rfl

omit [PaymentGateway G] in
theorem seatsFree_disguised : (s.disguised D env claims).seatsFree = s.seatsFree := rfl

omit [PaymentGateway G] in
theorem stepOpen_disguised :
    stepOpen (s.disguised D env claims) p (r.disguised D) x (pc.disguised D env) =
      (stepOpen s p r x pc).map (inDisguise D env claims) := by
  cases pc
  case openBooking =>
    have hseats : lockSeatsForHolds (s.db.disguised D env claims) r.payload.holdIds r.userId =
        lockSeatsForHolds s.db r.payload.holdIds r.userId := rfl
    simp only [stepOpen, BookingPc.disguised, Shared.disguised_db, Shared.disguised_clock,
      Shared.disguised_uuid, BookingRequest.disguised_payload, BookingRequest.disguised_userId,
      BookingRequest.disguised_key, BookingCreate.disguised_holdIds, hseats, seatsFree_disguised,
      openBooking_disguised]
    split
    · cases openBooking s.db s.clock s.uuid r.userId r.key r.payload x.pnr x.refTaken with
      | ok o =>
        have hlength : (r.payload.passengers.map (PassengerIn.disguised D)).length =
            r.payload.passengers.length := List.length_map ..
        simp only [Except.map, Option.map_some, Prod.map, BookingCreate.disguised_passengers,
          hlength]
        rfl
      | error e =>
        simp only [Except.map, Option.map_some, inDisguise, raised_disguised]
    · rfl
  case assess σ =>
    simp only [stepOpen, BookingPc.disguised]
    split <;> rfl
  case failSelect σ f =>
    simp only [stepOpen, BookingPc.disguised, startFailure_disguised, Saga.disguised_bookingId]
    cases startFailure σ f with
    | some e => simp only [Option.map_some, inDisguise, raised_disguised]
    | none => rfl
  case failCommit σ f rows =>
    simp only [stepOpen, BookingPc.disguised, Shared.disguised_db, seatsFree_disguised,
      failPayment_disguised, Saga.disguised_bookingId]
    split
    · cases failPayment s.db σ f rows with
      | ok db => rfl
      | error e => simp only [Except.map, Option.map_some, inDisguise, raised_disguised]
    · rfl
  all_goals rfl

theorem afterAuthorize_disguised (σ : Saga) (pay : Payment) (result : AuthorizationResult) :
    afterAuthorize (σ.disguised D) (pay.disguised D env) result =
      (afterAuthorize σ pay result).disguised D env := by
  unfold afterAuthorize
  split <;> rfl

theorem stepCharge_disguised (hG : Indifferent D G) :
    stepCharge env (s.disguised D env claims) (r.disguised D) (pc.disguised D env) =
      (stepCharge env s r pc).map (inDisguise D env claims) := by
  have hasks : ∀ σ pay, authorizeRequest (σ.disguised D) (pay.disguised D env) =
      (authorizeRequest σ pay).disguised D := fun _ _ => rfl
  have hanswer : ∀ req : AuthorizeRequest, PaymentGateway.authorize s.gateway (req.disguised D) =
      PaymentGateway.authorize s.gateway req := fun req => hG s.gateway req
  cases pc
  case createPayment σ =>
    simp only [stepCharge, BookingPc.disguised, Shared.disguised_db, Shared.disguised_uuid,
      BookingRequest.disguised_payload, BookingCreate.disguised_cardToken,
      BookingRequest.disguised_key, newPayment_disguised, createPayment_disguised,
      Saga.disguised_bookingId]
    cases createPayment s.db _ with
    | ok db => rfl
    | error e => simp only [Except.map, Option.map_some, inDisguise, raised_disguised]
  case authorize σ pay =>
    simp only [stepCharge, BookingPc.disguised, Shared.disguised_gateway, hasks, hanswer,
      Saga.disguised_bookingId]
    cases PaymentGateway.authorize s.gateway (authorizeRequest σ pay) with
    | mk out g =>
      cases out with
      | ok result =>
        simp only [Option.map_some, inDisguise, afterAuthorize_disguised]
        rfl
      | error e => rfl
  case journalUnknown σ pay =>
    simp only [stepCharge, BookingPc.disguised, Shared.disguised_db, journalUnknown_disguised]
    rfl
  case retryAuthorize σ pay =>
    simp only [stepCharge, BookingPc.disguised, Shared.disguised_gateway, hasks, hanswer,
      Saga.disguised_bookingId]
    cases PaymentGateway.authorize s.gateway (authorizeRequest σ pay) with
    | mk out g =>
      cases out with
      | ok result =>
        simp only [Option.map_some, inDisguise, afterAuthorize_disguised]
        rfl
      | error e => rfl
  case recordAuthorized σ pay result =>
    simp only [stepCharge, BookingPc.disguised, Shared.disguised_db, recordAuthorized_disguised,
      Saga.disguised_bookingId]
    cases recordAuthorized s.db σ pay result with
    | ok db => rfl
    | error e => simp only [Except.map, Option.map_some, inDisguise, raised_disguised]
  all_goals rfl

omit [PaymentGateway G] in
theorem stepIssue_disguised :
    stepIssue (s.disguised D env claims) p (r.disguised D) x (pc.disguised D env) =
      (stepIssue s p r x pc).map (inDisguise D env claims) := by
  cases pc
  case issueTickets σ pay =>
    simp only [stepIssue, BookingPc.disguised, Shared.disguised_db, Shared.disguised_clock,
      Shared.disguised_uuid, BookingRequest.disguised_payload, BookingRequest.disguised_userId,
      BookingCreate.disguised_cardToken, Saga.disguised_seats, seatsFree_disguised,
      issueTickets_disguised]
    split
    · cases issueTickets s.db s.clock s.uuid σ r.userId r.payload.cardToken x.eTicketNo
        x.seqTaken with
      | issued db σ' =>
        simp only [Issue.disguised, Saga.disguised_passengers, List.length_map]
        rfl
      | refused db reason =>
        simp only [Issue.disguised, startCompensation_disguised]
        cases startCompensation db σ pay reason with
        | ok db' => rfl
        | error e =>
          simp only [Except.map, Option.map_some, inDisguise, raised_disguised]
          rfl
      | raised e =>
        simp only [Issue.disguised, Option.map_some, inDisguise, raised_disguised]
        rfl
    · rfl
  all_goals rfl

theorem stepCompensate_disguised :
    stepCompensate (s.disguised D env claims) p (r.disguised D) (pc.disguised D env) =
      (stepCompensate s p r pc).map (inDisguise D env claims) := by
  have harmed : ∀ pay, armed s.gateway (D.card r.payload.cardToken) (pay.disguised D env) =
      armed s.gateway r.payload.cardToken pay := by
    intro pay
    unfold armed
    rw [triggerFor_disguised]
    rfl
  have hcall : ∀ (g : G) σ pay,
      (reverseCharge g σ pay).2.disguised D = (reverseCharge g σ pay).2 := by
    intro g σ pay
    unfold reverseCharge
    split <;> rfl
  have hreverse : ∀ (g : G) σ pay, reverseCharge g (σ.disguised D) (pay.disguised D env) =
      reverseCharge g σ pay := fun _ _ _ => rfl
  cases pc
  case reverse σ pay reason =>
    simp only [stepCompensate, BookingPc.disguised, Shared.disguised_gateway,
      BookingRequest.disguised_payload, BookingCreate.disguised_cardToken, harmed, hreverse]
    have hkept := hcall (armed s.gateway r.payload.cardToken pay) σ pay
    generalize reverseCharge (armed s.gateway r.payload.cardToken pay) σ pay = o at hkept
    obtain ⟨⟨out, g⟩, call⟩ := o
    have hcalls : (s.disguised D env claims).called g call =
        (s.called g call).disguised D env claims := by
      simp only [Shared.called, Shared.disguised, List.map_cons, hkept]
    cases out with
    | ok u => simp only [hcalls, Option.map_some, inDisguise, BookingPc.disguised]
    | error e => simp only [hcalls, Option.map_some, inDisguise, BookingPc.disguised]
  case finishVoided σ pay reason =>
    simp only [stepCompensate, BookingPc.disguised, Shared.disguised_db, Shared.disguised_clock,
      seatsFree_disguised, finishVoided_disguised, Saga.disguised_bookingId, Db.disguised_seatIds,
      Db.disguised_seat]
    split
    · cases finishVoided s.db σ pay s.clock with
      | ok db => rfl
      | error e => simp only [Except.map, Option.map_some, inDisguise, raised_disguised]
    · rfl
  case finishReview σ pay reason error =>
    simp only [stepCompensate, BookingPc.disguised, Shared.disguised_db, Shared.disguised_clock,
      seatsFree_disguised, Saga.disguised_bookingId, Db.disguised_seatIds, Db.disguised_seat]
    split <;> rfl
  all_goals rfl

theorem stepConfirm_disguised :
    stepConfirm (s.disguised D env claims) x (pc.disguised D env) =
      (stepConfirm s x pc).map (inDisguise D env claims) := by
  cases pc
  case capture σ pay =>
    simp only [stepConfirm, BookingPc.disguised, Shared.disguised_gateway,
      Payment.disguised_providerRef, Payment.disguised_idempotencyKey]
    cases PaymentGateway.capture s.gateway _ _ with
    | mk out g => cases out <;> rfl
  case confirm σ pay =>
    simp only [stepConfirm, BookingPc.disguised, Shared.disguised_db, confirm_disguised,
      Saga.disguised_bookingId]
    cases confirm s.db σ pay x.seqTaken with
    | ok db => rfl
    | error e => simp only [Except.map, Option.map_some, inDisguise, raised_disguised]
  case refresh σ =>
    simp only [stepConfirm, BookingPc.disguised, Shared.disguised_db, Saga.disguised_bookingId,
      Db.disguised_booking, bookingPayload_disguised]
    cases s.db.booking σ.bookingId <;> rfl
  all_goals rfl

omit [PaymentGateway G] in
theorem stepHold_disguised (q : HoldRequest) (pc : HoldPc) :
    stepHold env (s.disguised D env claims) p q pc =
      (stepHold env s p q pc).map (Prod.map (Shared.disguised D env claims) id) := by
  have hcount : countActiveHolds (s.db.disguised D env claims) = countActiveHolds s.db := rfl
  have hacquire : ∀ now, acquireHold env (s.db.disguised D env claims) q.userId q.flightId q.seatNo
      now s.uuid = (acquireHold env s.db q.userId q.flightId q.seatNo now s.uuid).map
        (Prod.map (Db.disguised D env claims) id) := by
    intro now
    have htakeable : takeableSeat (s.db.disguised D env claims) q.flightId q.seatNo now =
        takeableSeat s.db q.flightId q.seatNo now := rfl
    unfold acquireHold
    rw [htakeable]
    cases takeableSeat s.db q.flightId q.seatNo now with
    | some k => rfl
    | none =>
      simp only [Db.disguised_seatIds, Db.disguised_seat]
      split <;> rfl
  cases pc
  case count now =>
    simp only [stepHold, Shared.disguised_db, hcount]
    cases holdCap env (countActiveHolds s.db q.userId now) <;> rfl
  case update now =>
    simp only [stepHold, Shared.disguised_db, Shared.disguised_uuid, hacquire, seatsFree_disguised]
    cases acquireHold env s.db q.userId q.flightId q.seatNo now s.uuid with
    | error e => rfl
    | ok o =>
      obtain ⟨db, k⟩ := o
      show (if s.seatsFree p [k] = true then _ else none) =
        Option.map _ (if s.seatsFree p [k] = true then _ else none)
      split <;> rfl
  all_goals rfl

omit [PaymentGateway G] in
theorem stepRelease_disguised (q : ReleaseRequest) (pc : ReleasePc) :
    stepRelease (s.disguised D env claims) p q pc =
      (stepRelease s p q pc).map (Prod.map (Shared.disguised D env claims) id) := by
  cases pc
  case load =>
    have howned : ownedHold (s.db.disguised D env claims) q.holdId q.userId =
        ownedHold s.db q.holdId q.userId := rfl
    simp only [stepRelease, Shared.disguised_db, howned]
    cases ownedHold s.db q.holdId q.userId <;> rfl
  case update =>
    have hrelease : releaseHold (s.db.disguised D env claims) q.holdId q.userId =
        ((releaseHold s.db q.holdId q.userId).1.disguised D env claims,
          (releaseHold s.db q.holdId q.userId).2) := rfl
    simp only [stepRelease, Shared.disguised_db, seatsFree_disguised, Db.disguised_seatIds,
      Db.disguised_seat, hrelease]
    split_ifs <;> rfl
  case done reply => rfl

theorem stepCancel_disguised (q : CancelRequest) (pc : CancelPc) :
    stepCancel (s.disguised D env claims) p q x (pc.disguised D env) =
      (stepCancel s p q x pc).map
        (Prod.map (Shared.disguised D env claims) (CancelPc.disguised D env)) := by
  cases pc
  case load =>
    have howned : ownedBooking (s.db.disguised D env claims) q.ref q.userId =
        ownedBooking s.db q.ref q.userId := rfl
    simp only [stepCancel, CancelPc.disguised, Shared.disguised_db, howned]
    cases ownedBooking s.db q.ref q.userId with
    | none => rfl
    | some found =>
      obtain ⟨b, row⟩ := found
      dsimp only
      cases requireState row.state [.confirmed, .ticketed] <;> rfl
  case selectPayment b state =>
    simp only [stepCancel, CancelPc.disguised, Shared.disguised_db, findPayment_disguised]
    rfl
  case lockSeats b state pay =>
    simp only [stepCancel, CancelPc.disguised, Shared.disguised_db, seatsFree_disguised,
      Db.disguised_seatIds, Db.disguised_seat]
    split
    · cases pay <;> rfl
    · rfl
  case refund b state pay =>
    simp only [stepCancel, CancelPc.disguised, Shared.disguised_gateway,
      Payment.disguised_providerRef, Payment.disguised_amount, Payment.disguised_idempotencyKey]
    cases PaymentGateway.refund s.gateway _ _ _ with
    | mk out g => cases out <;> rfl
  case finish b state refunded =>
    simp only [stepCancel, CancelPc.disguised, Shared.disguised_db, Shared.disguised_clock,
      finishCancel_disguised]
    cases finishCancel s.db b state q.userId refunded s.clock x.seqTaken with
    | ok o =>
      simp only [Except.map, Option.isSome_map]
      rfl
    | error e => rfl
  case review b state error =>
    simp only [stepCancel, CancelPc.disguised, Shared.disguised_db, reviewCancel]
    cases x.seqTaken <;> rfl
  case done reply => rfl

omit [PaymentGateway G] in
theorem stepSweep_disguised (pc : SweepPc) :
    stepSweep (s.disguised D env claims) p x pc =
      (stepSweep s p x pc).map (Prod.map (Shared.disguised D env claims) id) := by
  cases pc
  case update now =>
    simp only [stepSweep, Shared.disguised_db, seatsFree_disguised, Db.disguised_seatIds,
      Db.disguised_seat]
    split <;> rfl
  case done => rfl

/-! ### The claims -/

/-- The digests tell these bodies apart in disguise where they do without. -/
def Discerning (D : Disguise) (env : Env) (B : BookingCreate → Prop) : Prop :=
  ∀ b b', B b → B b' → (requestHash env (b.disguised D) = requestHash env (b'.disguised D) ↔
    requestHash env b = requestHash env b')

/-- A claim to the digest of one of the bodies, and the claim to that of the body in
disguise. -/
def ClaimLike (D : Disguise) (env : Env) (B : BookingCreate → Prop)
    (c c' : IdempotencyKey) : Prop :=
  ∃ b, B b ∧ c.requestHash = requestHash env b ∧
    c' = { c with requestHash := requestHash env (b.disguised D) }

/-- The claims go together. -/
def ClaimsLike (D : Disguise) (env : Env) (B : BookingCreate → Prop)
    (claims claims' : String × UserId → Option IdempotencyKey) : Prop :=
  ∀ k, Option.Rel (ClaimLike D env B) (claims k) (claims' k)

/-- The bodies a process was sent are among these. -/
def Proc.Within (B : BookingCreate → Prop) : Proc → Prop
  | .booking r _ => B r.payload
  | _ => True

variable {B : BookingCreate → Prop} {s' : Shared G} {pc' : BookingPc}

theorem ClaimsLike.update {claims₁ claims₂ : String × UserId → Option IdempotencyKey}
    (h : ClaimsLike D env B claims₁ claims₂) {k : String × UserId} {c c' : Option IdempotencyKey}
    (hc : Option.Rel (ClaimLike D env B) c c') :
    ClaimsLike D env B (Function.update claims₁ k c) (Function.update claims₂ k c') := by
  intro k'
  by_cases hk : k' = k
  · subst hk
    simpa using hc
  · simpa [Function.update_of_ne hk] using h k'

/-- A key that was taken is resolved alike. -/
theorem resolveClaim_disguised {found found' : Option IdempotencyKey} {b : BookingCreate}
    (hD : Discerning D env B) (hb : B b) (h : Option.Rel (ClaimLike D env B) found found') :
    resolveClaim found' (requestHash env (b.disguised D)) =
      resolveClaim found (requestHash env b) := by
  cases h with
  | none => rfl
  | some hc =>
    obtain ⟨b', hb', hhash, rfl⟩ := hc
    simp only [resolveClaim, hhash, ne_eq, hD b' b hb' hb]
    rfl

theorem ClaimsLike.of_none {claims₁ claims₂ : String × UserId → Option IdempotencyKey}
    (h : ClaimsLike D env B claims₁ claims₂) {k : String × UserId} (hk : claims₁ k = none) :
    claims₂ k = none := by
  have hrel := h k
  rw [hk] at hrel
  generalize claims₂ k = found at hrel
  cases hrel
  rfl

theorem ClaimsLike.of_some {claims₁ claims₂ : String × UserId → Option IdempotencyKey}
    (h : ClaimsLike D env B claims₁ claims₂) {k : String × UserId} {c : IdempotencyKey}
    (hk : claims₁ k = some c) : ∃ c', claims₂ k = some c' ∧ ClaimLike D env B c c' := by
  have hrel := h k
  rw [hk] at hrel
  generalize claims₂ k = found at hrel
  cases hrel with
  | some hc => exact ⟨_, rfl, hc⟩

omit [PaymentGateway G] in
theorem stepBegin_disguised (hD : Discerning D env B)
    (hclaims : ClaimsLike D env B s.db.claims claims) (hr : B r.payload)
    (h : stepBegin env s p r pc = some (s', pc')) :
    ∃ claims', ClaimsLike D env B s'.db.claims claims' ∧
      stepBegin env (s.disguised D env claims) p (r.disguised D) (pc.disguised D env) =
        some (s'.disguised D env claims', pc'.disguised D env) := by
  have hkey : (r.disguised D).claimKey = r.claimKey := rfl
  have hfree : (s.disguised D env claims).claimFree = s.claimFree := rfl
  cases pc
  case beginDelete now =>
    simp only [stepBegin, BookingPc.disguised, hkey, hfree, Shared.disguised_db,
      Db.disguised_claims] at h ⊢
    cases hc : s.db.claims r.claimKey with
    | none =>
      rw [hc] at h
      obtain ⟨rfl, rfl⟩ := by simpa using h
      rw [hclaims.of_none hc]
      exact ⟨claims, hclaims, rfl⟩
    | some c =>
      obtain ⟨c', hc', b, hb, hhash, rfl⟩ := hclaims.of_some hc
      have hexpired : expiredClaim now { c with requestHash := requestHash env (b.disguised D) } =
          expiredClaim now c := rfl
      simp only [hc, hc', hexpired] at h ⊢
      split_ifs at h ⊢
      · obtain ⟨rfl, rfl⟩ := by simpa using h
        exact ⟨claims, hclaims, rfl⟩
      · obtain ⟨rfl, rfl⟩ := by simpa using h
        exact ⟨claims, hclaims, rfl⟩
  case beginInsert now deleted =>
    have hnone : (claims r.claimKey).isNone = (s.db.claims r.claimKey).isNone := by
      cases hc : s.db.claims r.claimKey with
      | none => rw [hclaims.of_none hc]
      | some c =>
        obtain ⟨c', hc', -⟩ := hclaims.of_some hc
        rw [hc']
        rfl
    simp only [stepBegin, BookingPc.disguised, hkey, hfree, Shared.disguised_db,
      Db.disguised_claims, hnone] at h ⊢
    split_ifs at h ⊢
    · obtain ⟨rfl, rfl⟩ := by simpa using h
      exact ⟨claims, hclaims, rfl⟩
    · obtain ⟨rfl, rfl⟩ := by simpa using h
      exact ⟨claims, hclaims, rfl⟩
  case beginCommit now deleted claimed =>
    simp only [stepBegin, BookingPc.disguised, hkey] at h ⊢
    split_ifs at h ⊢
    · obtain ⟨rfl, rfl⟩ := by simpa using h
      exact ⟨_, hclaims.update (.some ⟨r.payload, hr, rfl, rfl⟩), rfl⟩
    · obtain ⟨rfl, rfl⟩ := by simpa using h
      exact ⟨_, hclaims.update .none, rfl⟩
    · obtain ⟨rfl, rfl⟩ := by simpa using h
      exact ⟨claims, hclaims, rfl⟩
  case beginSelect =>
    have hresolve := resolveClaim_disguised hD hr (hclaims r.claimKey)
    simp only [stepBegin, BookingPc.disguised, hkey, Shared.disguised_db, Db.disguised_claims,
      BookingRequest.disguised_payload, hresolve] at h ⊢
    cases hfound : resolveClaim (s.db.claims r.claimKey) (requestHash env r.payload) with
    | ok found =>
      rw [hfound] at h
      obtain ⟨rfl, rfl⟩ := by simpa using h
      exact ⟨claims, hclaims, rfl⟩
    | error e =>
      rw [hfound] at h
      obtain ⟨rfl, rfl⟩ := by simpa using h
      exact ⟨claims, hclaims, rfl⟩
  all_goals simp [stepBegin] at h

omit [PaymentGateway G] in
theorem stepComplete_disguised (hclaims : ClaimsLike D env B s.db.claims claims)
    (h : stepComplete s p r pc = some (s', pc')) :
    ∃ claims', ClaimsLike D env B s'.db.claims claims' ∧
      stepComplete (s.disguised D env claims) p (r.disguised D) (pc.disguised D env) =
        some (s'.disguised D env claims', pc'.disguised D env) := by
  have hkey : (r.disguised D).claimKey = r.claimKey := rfl
  have hfree : (s.disguised D env claims).claimFree = s.claimFree := rfl
  cases pc
  case completeSelect o b =>
    simp only [stepComplete, BookingPc.disguised, hkey, Shared.disguised_db,
      Db.disguised_claims] at h ⊢
    cases hc : s.db.claims r.claimKey with
    | none =>
      rw [hc] at h
      obtain ⟨rfl, rfl⟩ := by simpa using h
      rw [hclaims.of_none hc]
      exact ⟨claims, hclaims, rfl⟩
    | some c =>
      obtain ⟨c', hc', -⟩ := hclaims.of_some hc
      rw [hc] at h
      obtain ⟨rfl, rfl⟩ := by simpa using h
      rw [hc']
      exact ⟨claims, hclaims, rfl⟩
  case completeCommit o b =>
    simp only [stepComplete, BookingPc.disguised, hkey, hfree, Shared.disguised_db,
      Db.disguised_claims] at h ⊢
    split_ifs at h ⊢
    · cases hc : s.db.claims r.claimKey with
      | none =>
        rw [hc] at h
        obtain ⟨rfl, rfl⟩ := by simpa using h
        rw [hclaims.of_none hc]
        exact ⟨claims, hclaims, rfl⟩
      | some c =>
        obtain ⟨c', hc', b', hb', hhash, rfl⟩ := hclaims.of_some hc
        rw [hc] at h
        obtain ⟨rfl, rfl⟩ := by simpa using h
        rw [hc']
        exact ⟨_, hclaims.update (.some ⟨b', hb', hhash, rfl⟩), rfl⟩
  case release e b =>
    simp only [stepComplete, BookingPc.disguised, hkey, hfree] at h ⊢
    split_ifs at h ⊢
    · obtain ⟨rfl, rfl⟩ := by simpa using h
      exact ⟨_, hclaims.update .none, rfl⟩
  all_goals simp [stepComplete] at h

/-- A request is at a statement about its claim. -/
def BookingPc.onClaim : BookingPc → Bool
  | .beginDelete _ | .beginInsert _ _ | .beginCommit _ _ _ | .beginSelect | .completeSelect _ _
  | .completeCommit _ _ | .release _ _ => true
  | _ => false

/-- Away from those statements a request leaves the claims alone. -/
theorem BookingStep.claims_eq (h : BookingStep env s p r x pc s' pc') (hpc : pc.onClaim = false) :
    s'.db.claims = s.db.claims := by
  cases h
  case claims | clears | completes | releases => simp [BookingPc.onClaim] at hpc
  all_goals rfl

theorem stepBooking_disguised (hG : Indifferent D G) (hpc : pc.onClaim = false) :
    stepBooking env (s.disguised D env claims) p (r.disguised D) x (pc.disguised D env) =
      (stepBooking env s p r x pc).map (inDisguise D env claims) := by
  unfold stepBooking
  cases pc
  case openBooking | assess | failSelect | failCommit => exact stepOpen_disguised
  case createPayment | authorize | journalUnknown | retryAuthorize | recordAuthorized =>
    exact stepCharge_disguised hG
  case issueTickets => exact stepIssue_disguised
  case reverse | finishVoided | finishReview => exact stepCompensate_disguised
  case capture | confirm | refresh => exact stepConfirm_disguised
  case done => rfl
  all_goals simp [BookingPc.onClaim] at hpc

/-- A step of a `create_booking` request. -/
theorem exists_stepBooking_disguised (hG : Indifferent D G) (hD : Discerning D env B)
    (hclaims : ClaimsLike D env B s.db.claims claims) (hr : B r.payload)
    (h : stepBooking env s p r x pc = some (s', pc')) :
    ∃ claims', ClaimsLike D env B s'.db.claims claims' ∧
      stepBooking env (s.disguised D env claims) p (r.disguised D) x (pc.disguised D env) =
        some (s'.disguised D env claims', pc'.disguised D env) := by
  cases hpc : pc.onClaim with
  | false =>
    refine ⟨claims, ?_, ?_⟩
    · rwa [(bookingStep_of h).claims_eq hpc]
    · rw [stepBooking_disguised hG hpc, h]
      rfl
  | true =>
    cases pc
    case beginDelete | beginInsert | beginCommit | beginSelect =>
      rw [stepBooking] at h
      exact stepBegin_disguised hD hclaims hr h
    case completeSelect | completeCommit | release =>
      rw [stepBooking] at h
      exact stepComplete_disguised hclaims h
    all_goals simp [BookingPc.onClaim] at hpc

/-- **A step in disguise does what the true one does, in disguise.** -/
theorem step_disguised {P P' : Proc} {a : Input} (hG : Indifferent D G) (hD : Discerning D env B)
    (hclaims : ClaimsLike D env B s.db.claims claims) (hP : P.Within B)
    (h : step env s p P a = some (s', P')) :
    ∃ claims', ClaimsLike D env B s'.db.claims claims' ∧
      step env (s.disguised D env claims) p (P.disguised D env) (a.disguised D) =
        some (s'.disguised D env claims', P'.disguised D env) := by
  have hkept : (∀ k, P.under? k = none) → ClaimsLike D env B s'.db.claims claims := by
    intro hP
    have heq : s'.db.claims = s.db.claims := funext fun k => ((step_of h).elsewhere (hP k)).row
    rwa [heq]
  have hmapped : ∀ {Q : Type} {f : Q → Proc} {g : Q → Q} {o o' : Option (Shared G × Q)},
      (o.map fun o => (o.1, f o.2)) = some (s', P') →
        o' = o.map (Prod.map (Shared.disguised D env claims) g) →
          (∀ q, f (g q) = (f q).disguised D env) →
            (o'.map fun o => (o.1, f o.2)) =
              some (s'.disguised D env claims, P'.disguised D env) := by
    rintro Q f g o o' h rfl hfg
    obtain ⟨⟨s₁, q⟩, rfl, heq⟩ := Option.map_eq_some_iff.mp h
    obtain ⟨rfl, rfl⟩ := Prod.mk.inj heq
    simp [hfg]
  cases P <;> cases a <;> simp only [step, reduceCtorEq] at h
  case booking.go r pc x =>
    obtain ⟨⟨s₁, pc₁⟩, hstep, heq⟩ := Option.map_eq_some_iff.mp h
    obtain ⟨rfl, rfl⟩ := Prod.mk.inj heq
    obtain ⟨claims', hlike, hstep'⟩ := exists_stepBooking_disguised hG hD hclaims hP hstep
    exact ⟨claims', hlike, congrArg (Option.map _) hstep'⟩
  case idle.tick d =>
    obtain ⟨rfl, rfl⟩ := by simpa using h
    exact ⟨claims, hclaims, rfl⟩
  case idle.arrive q =>
    obtain ⟨rfl, rfl⟩ := by simpa using h
    exact ⟨claims, hclaims, by cases q <;> rfl⟩
  case hold.go q pc x =>
    exact ⟨claims, hkept fun _ => rfl, hmapped h (stepHold_disguised q pc) fun _ => rfl⟩
  case release.go q pc x =>
    exact ⟨claims, hkept fun _ => rfl, hmapped h (stepRelease_disguised q pc) fun _ => rfl⟩
  case cancel.go q pc x =>
    exact ⟨claims, hkept fun _ => rfl, hmapped h (stepCancel_disguised q pc) fun _ => rfl⟩
  case sweep.go pc x =>
    exact ⟨claims, hkept fun _ => rfl, hmapped h (stepSweep_disguised pc) fun _ => rfl⟩

/-- A process serves what it was sent. -/
theorem within_next {P P' : Proc} {a : Input} (hP : P.Within B)
    (ha : ∀ r, a = .arrive (.createBooking r) → B r.payload)
    (h : step env s p P a = some (s', P')) : P'.Within B := by
  cases step_of h
  case arrive r =>
    cases r with
    | createBooking r => exact ha r rfl
    | _ => trivial
  case booking => exact hP
  all_goals trivial

end Steps

/-! ### What can be asked later -/

section Answers

variable {D : Disguise} {env : Env} {claims : String × UserId → Option IdempotencyKey} {db : Db}

theorem toResponse_disguised (t : Timetable) (b : BookingId) (row : Booking) :
    toResponse t (db.disguised D env claims) b row = toResponse t db b row := by
  have hseat : ∀ q : BookingPassenger, (db.disguised D env claims).seatNoOf (q.disguised D) =
      db.seatNoOf q := fun _ => rfl
  have hticketed : ∀ t, (db.disguised D env claims).ticketed b t =
      (db.ticketed b t).map (BookingPassenger.disguised D) := by
    intro t
    unfold Db.ticketed
    rw [passengersOf_disguised, List.find?_map]
    rfl
  have hlive : (db.disguised D env claims).liveTickets = db.liveTickets := rfl
  simp only [toResponse, passengersOf_disguised, List.map_map, hticketed, hlive, Option.bind_map,
    Option.map_map]
  rfl

/-- Every later question about a booking is answered alike. -/
theorem sameAnswers_disguised (t : Timetable) (u : UserId) :
    SameAnswers t u db (db.disguised D env claims) where
  owned _ := rfl
  get ref := by
    have howned : ownedBooking (db.disguised D env claims) ref u = ownedBooking db ref u := rfl
    simp only [getBooking, howned, toResponse_disguised]
  audit _ := rfl
  update ref payload e := by
    have howned : ownedBooking (db.disguised D env claims) ref u = ownedBooking db ref u := rfl
    simp only [updateBooking, howned]
    split
    · rfl
    · split
      · rfl
      · constructor <;> intro herror <;> split at herror <;> simp at herror
  rows := UserBookings.rows_perm fun _ _ _ => Iff.rfl
  list own own' order order' page size horder := by
    have hrows : ∀ b row, row.userId = u →
        ((db.disguised D env claims).booking b = some row ↔ db.booking b = some row) :=
      fun _ _ _ => Iff.rfl
    have hlength : own'.rows.length = own.rows.length := (own.rows_perm hrows own').length_eq
    simp only [listBookings, pageOf, horder, hlength, toResponse_disguised]

end Answers

/-! ### Every run -/

/-- The body of a booking that arrives. -/
def Input.body? : Input → Option BookingCreate
  | .arrive (.createBooking r) => some r.payload
  | _ => none

/-- The bodies that arrive in a run. -/
def bodies (as : List (ℕ × Input)) : List BookingCreate := as.filterMap fun a => a.2.body?

/-- What a process was told in the end. -/
inductive Answer where
  | reply (reply : Reply)
  | granted (k : SeatId) (row : SeatInventory)

/-- What a process has been told, once it has ended. -/
def Proc.answer? : Proc → Option Answer
  | .booking _ (.done reply _) | .release _ (.done reply) | .cancel _ (.done reply) =>
    some (.reply reply)
  | .hold _ (.refused e) => some (.reply (.problem e))
  | .hold _ (.granted k row) => some (.granted k row)
  | _ => none

section Runs

variable {G : Type} [PaymentGateway G] {D : Disguise} {env : Env}

/-- The world in disguise, over given claims. -/
def disguisedWorld (D : Disguise) (env : Env) (claims : String × UserId → Option IdempotencyKey)
    (w : World (Shared G) Proc) : World (Shared G) Proc :=
  ⟨w.shared.disguised D env claims, fun p => (w.proc p).disguised D env⟩

/-- Two states of the service that nobody can tell apart: every request was answered alike,
and every later question about bookings, audit rows, seats and holds will be. -/
structure Indistinct (w w' : World (Shared G) Proc) : Prop where
  replies : ∀ p, (w'.proc p).answer? = (w.proc p).answer?
  bookings : ∀ t u, SameAnswers t u w.shared.db w'.shared.db
  seats : w'.shared.db.seat = w.shared.db.seat ∧ w'.shared.db.seatIds = w.shared.db.seatIds
  audit : w'.shared.db.audit = w.shared.db.audit

omit [PaymentGateway G] in
theorem indistinct_disguised (claims : String × UserId → Option IdempotencyKey)
    (w : World (Shared G) Proc) : Indistinct w (disguisedWorld D env claims w) where
  replies p := by
    show ((w.proc p).disguised D env).answer? = (w.proc p).answer?
    cases w.proc p with
    | booking r pc => cases pc <;> rfl
    | cancel r pc => cases pc <;> rfl
    | _ => rfl
  bookings t u := sameAnswers_disguised t u
  seats := ⟨rfl, rfl⟩
  audit := rfl

theorem next_disguised {B : BookingCreate → Prop}
    {claims : String × UserId → Option IdempotencyKey} {v v₁ : World (Shared G) Proc} {p : ℕ}
    {a : Input} (hG : Indifferent D G) (hD : Discerning D env B)
    (hclaims : ClaimsLike D env B v.shared.db.claims claims) (hv : ∀ p, (v.proc p).Within B)
    (h : (service env G).next v p a = some v₁) :
    ∃ claims', ClaimsLike D env B v₁.shared.db.claims claims' ∧
      (service env G).next (disguisedWorld D env claims v) p (a.disguised D) =
        some (disguisedWorld D env claims' v₁) := by
  obtain ⟨s', P', hs, rfl⟩ := System.next_eq_some.mp h
  obtain ⟨claims', hlike, hs'⟩ := step_disguised hG hD hclaims (hv p) hs
  refine ⟨claims', hlike, System.next_eq_some.mpr ⟨_, _, hs', ?_⟩⟩
  unfold disguisedWorld
  congr 1
  funext q
  by_cases hq : q = p
  · subst hq
    simp
  · simp [hq]

/-- **What is told in confidence is not told on.**  A run on other passport numbers, cards,
dates of birth and addresses, the passports and cards ending alike, goes the same way on the
same draws, and nobody can tell where it ends from where the true one does. -/
theorem replies_confidential {C : World (Shared G) Proc → ℕ → Input → Prop} {db : Db} {g : G}
    {clock : Time} {w : World (Shared G) Proc} {as : List (ℕ × Input)} (hdb : db.Initial)
    (hG : Indifferent D G) (hD : Discerning D env fun b => b ∈ bodies as)
    (h : (service env G).Run C (initialWorld db g clock) as w) :
    ∃ w', (service env G).Run (fun _ _ _ => True) (initialWorld db g clock)
        (as.map (Prod.map id (Input.disguised D))) w' ∧ Indistinct w w' := by
  have hwithin : ∀ p r, (p, Input.arrive (.createBooking r)) ∈ as → r.payload ∈ bodies as :=
    fun p r hmem => List.mem_filterMap.mpr ⟨_, hmem, rfl⟩
  have hinitial : initialWorld db g clock =
      disguisedWorld D env (fun _ => none) (initialWorld db g clock) := by
    have hdb' : db.disguised D env (fun _ => none) = db := by
      have hpassengers : db.passengers.map (BookingPassenger.disguised D) = db.passengers := by
        simp [hdb.passengers]
      have hpayments : db.payments.map (Payment.disguised D env) = db.payments := by
        simp [hdb.payments]
      have hclaims : (fun _ => none) = db.claims := (funext hdb.claims).symm
      rw [Db.disguised, hpassengers, hpayments, hclaims]
    simp only [disguisedWorld, initialWorld, Shared.disguised, hdb']
    rfl
  have hlock : ∃ w', (service env G).Run (fun _ _ _ => True) (initialWorld db g clock)
      (as.map (Prod.map id (Input.disguised D))) w' ∧
        ∃ claims, ClaimsLike D env (fun b => b ∈ bodies as) w.shared.db.claims claims ∧
          w' = disguisedWorld D env claims w ∧
            ∀ p, (w.proc p).Within fun b => b ∈ bodies as := by
    refine h.lockstep (R := fun v v' => ∃ claims,
      ClaimsLike D env (fun b => b ∈ bodies as) v.shared.db.claims claims ∧
        v' = disguisedWorld D env claims v ∧ ∀ p, (v.proc p).Within fun b => b ∈ bodies as) ?_ ?_
    · refine ⟨fun _ => none, fun k => ?_, hinitial, fun _ => trivial⟩
      show Option.Rel _ (db.claims k) none
      rw [hdb.claims k]
      exact .none
    · rintro v p a v₁ v' ⟨claims, hclaims, rfl, hv⟩ hmem hn
      obtain ⟨claims', hlike, hn'⟩ := next_disguised hG hD hclaims hv hn
      refine ⟨_, hn', claims', hlike, rfl, fun q => ?_⟩
      obtain ⟨s', P', hs, rfl⟩ := System.next_eq_some.mp hn
      by_cases hq : q = p
      · subst hq
        simpa using within_next (hv q) (fun r hr => hwithin q r (hr ▸ hmem)) hs
      · simpa [hq] using hv q
  obtain ⟨w', hrun, claims, -, rfl, -⟩ := hlock
  exact ⟨_, hrun, indistinct_disguised claims w⟩

end Runs

/-! ### Two runs -/

/-- The demo gateway looks at the last four characters of a card. -/
theorem FakePaymentGateway.indifferent (D : Disguise) : Indifferent D FakePaymentGateway := by
  intro g req
  have htrigger : triggerFor (req.disguised D).cardToken = triggerFor req.cardToken :=
    triggerFor_disguised req.cardToken
  have hresult : g.newResult (req.disguised D) = g.newResult req := by
    rw [newResult, newResult, htrigger]
    rfl
  show g.authorize (req.disguised D) = g.authorize req
  simp only [FakePaymentGateway.authorize, htrigger, hresult]
  rfl

/-- A text with one more character in front, unless it is too short to hide anything. -/
def veil (t : String) : String := if 4 ≤ t.toList.length then "X" ++ t else t

theorem last4_veil (t : String) : last4 (veil t) = last4 t := by
  unfold veil
  split
  · next hlen =>
    have hsucc : t.toList.length + 1 - 4 = t.toList.length - 4 + 1 := by omega
    simp [last4, hsucc]
  · rfl

/-- Passports and cards get a character in front; every birthday and contact is the same. -/
def veiled : Disguise where
  passport := veil
  dob := fun _ => "1970-01-01"
  email := fun _ => "nobody@example.org"
  card := veil
  passport_last4 := last4_veil
  card_last4 := last4_veil

/-- A booking of the one hold on a passport. -/
def passportBody (passport : String) : BookingCreate :=
  { soloBody 0 "tok_test_aaaa11110000" with
    passengers := [⟨"Ada", "Lovelace", some "1815-12-10", some passport⟩]
    oneSeatPerPassenger := rfl }

/-- A user books a seat, and comes back under the same key with a passport that ends the
same way. -/
def retriedPassport : List (ℕ × Input) :=
  asks 1 (.createHold ⟨10, 7, "1A"⟩) 3 (.calm 0) ++
    asks 2 (.createBooking ⟨10, "key-of-ada-00000001", passportBody "AB1234567"⟩) 14 (.calm 1) ++
      asks 3 (.createBooking ⟨10, "key-of-ada-00000001", passportBody "CD9994567"⟩) 4 (.calm 2)

theorem replies_confidential_retried :
    ∃ w, (service demoEnv FakePaymentGateway).Run (fun _ _ _ => True) (onSale 1)
        retriedPassport w ∧
      w.shared.db.passengers.map BookingPassenger.passportEnc = [some "AB1234567"] ∧
      (w.proc 3).answer?.isSome ∧
      ∃ w', (service demoEnv FakePaymentGateway).Run (fun _ _ _ => True) (onSale 1)
          (retriedPassport.map (Prod.map id (Input.disguised veiled))) w' ∧
        Indistinct w w' := by
  have hrun : ((service demoEnv FakePaymentGateway).checked (fun _ _ _ => True) (onSale 1)
      retriedPassport).any (fun w => decide
        (w.shared.db.passengers.map BookingPassenger.passportEnc = [some "AB1234567"] ∧
          (w.proc 3).answer?.isSome)) = true := by
    decide +kernel
  obtain ⟨w, hw, htest⟩ := System.exists_run_of_checked hrun
  obtain ⟨hpassport, hanswer⟩ := of_decide_eq_true htest
  refine ⟨w, hw, hpassport, hanswer, replies_confidential (Db.seeded_initial ..)
    (FakePaymentGateway.indifferent veiled) ?_ hw⟩
  have hbodies : bodies retriedPassport = [passportBody "AB1234567", passportBody "CD9994567"] :=
    rfl
  rw [hbodies]
  intro b b' hb hb'
  simp only [List.mem_cons, List.not_mem_nil, or_false] at hb hb'
  have hdigests : requestHash demoEnv (passportBody "AB1234567") ≠
      requestHash demoEnv (passportBody "CD9994567") := by
    decide +kernel
  have hdisguised : requestHash demoEnv ((passportBody "AB1234567").disguised veiled) ≠
      requestHash demoEnv ((passportBody "CD9994567").disguised veiled) := by
    decide +kernel
  rcases hb with rfl | rfl <;> rcases hb' with rfl | rfl
  · exact iff_of_true rfl rfl
  · exact iff_of_false hdisguised hdigests
  · exact iff_of_false hdisguised.symm hdigests.symm
  · exact iff_of_true rfl rfl

end SkyLock
