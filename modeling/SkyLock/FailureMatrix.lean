import SkyLock.Declines
import SkyLock.Failures

/-!
# The failure matrix

`docs/failure-matrix.md` and `README.md` say for each card token how a booking ends
that no other request disturbs.  The trigger behind the token is consulted in three
places: by the gateway when it authorizes, by `_issue_tickets`, and by `_compensate`.
A card that asks for a refund failure is approved by the first and passed by the
second, so the third never sees it.

## Main definitions

* `Ending`, `failureMatrix`, `blockedEnding` — the rows of the matrix.
* `FollowsMatrix` — a request has ended as its row says.
* `LiveHolds`, `FreshCharge`, `SoloDraws`, `NoOtherRequest` — the runs it is about.
* `Matrixed` — the condition under which it is right.
* `Reached` — what a request has done since step 1, place by place.

## Main results

* `Opened.followsMatrix_failed`, `Opened.followsMatrix_voided`,
  `Sold.followsMatrix_iff` — what the tables say at each end.
* `BookingStep.reached` — **one statement of a request that runs alone**.
-/

namespace SkyLock

open Concurrent

/-! ### The matrix -/

/-- What becomes of the seats of a booking. -/
inductive SeatFate where
  /-- The hold is left intact, and pinned to no booking. -/
  | held
  /-- The seat is the booking's. -/
  | booked
  /-- The seat is for sale again. -/
  | available
  deriving DecidableEq, Repr

/-- The seat whose row was `row₀` and is `row` has met its fate. -/
def SeatFate.Met (b : BookingId) (row₀ row : SeatInventory) : SeatFate → Prop
  | .held => SameHold row₀ row ∧ row.bookingId = none
  | .booked => row.status = .booked ∧ row.bookingId = some b ∧ row.holdId = none ∧
    row.holdExpiresAt = none
  | .available => row.status = .available ∧ row.bookingId = none ∧ row.heldByUserId = none ∧
    row.holdId = none ∧ row.holdExpiresAt = none

/-- A row of the matrix: the response, the states of the booking and its payments, the
seats, whether each passenger has a live ticket or none has, and how many
authorizations the gateway has come to know. -/
structure Ending where
  status : ℕ
  booking : BookingState
  payments : List PaymentState
  seats : SeatFate
  ticketed : Bool
  authorizations : ℕ
  deriving DecidableEq, Repr

/-- Card-testing pattern detected: the gateway is never called. -/
def blockedEnding : Ending := ⟨403, .paymentFailed, [], .held, false, 0⟩

/-- The matrix of a payment that is not blocked. -/
def failureMatrix : Trigger → Ending
  | .approve | .gatewayTimeoutThenOk => ⟨201, .confirmed, [.captured], .booked, true, 1⟩
  | .declineInsufficientFunds | .declineDoNotHonor =>
    ⟨402, .paymentFailed, [.declined], .held, false, 1⟩
  | .ticketingFailure => ⟨409, .voided, [.voided], .available, false, 1⟩
  | .refundFailure => ⟨409, .needsManualReview, [.authorized], .available, false, 1⟩

/-- The row that goes for a request. -/
def expectedEnding (r : BookingRequest) (a : Assessment) : Ending :=
  if a.decision = .block then blockedEnding else failureMatrix (triggerFor r.payload.cardToken)

/-- No row is a server error. -/
theorem expectedEnding_status (r : BookingRequest) (a : Assessment) :
    (expectedEnding r a).status ≠ 500 := by
  unfold expectedEnding
  split
  · decide
  · cases triggerFor r.payload.cardToken <;> decide

/-- The seats behind the holds of a request. -/
def BookingRequest.seatsIn (r : BookingRequest) (db : Db) : List SeatId :=
  (lockSeatsForHolds db r.payload.holdIds r.userId).map Orm.Instance.id

/-- The live tickets of a booking. -/
def Db.liveTicketsOf (db : Db) (b : BookingId) : List Ticket :=
  db.liveTickets.filter fun t => t.bookingId = b

/-- What the audit trail says happened to a booking, newest first. -/
def Db.eventsOf (db : Db) (b : BookingId) : List AuditEventType :=
  (db.audit.filter fun a => a.bookingId = b).map BookingAudit.eventType

/-- The booking's trail has the event `e`, and `e'` after it. -/
def Db.JournalsFirst (db : Db) (b : BookingId) (e e' : AuditEventType) : Prop :=
  ∃ newer older, db.eventsOf b = newer ++ e :: older ∧ e' ∈ newer

/-- The request that opened booking `b` in `s₀` has got its reply in `s`, and all is as
the row `e` says. -/
structure EndsAs (s₀ s : Shared FakePaymentGateway) (r : BookingRequest) (b : BookingId)
    (reply : Reply) (e : Ending) : Prop where
  status : reply.status = e.status
  booking : s.db.StateIs b e.booking
  payments : (s.db.paymentsOf b).map Payment.state = e.payments
  seats : ∀ k ∈ r.seatsIn s₀.db, e.seats.Met b (s₀.db.seat k) (s.db.seat k)
  passengers : (s.db.passengersOf b).length = r.payload.passengers.length
  tickets : (s.db.liveTicketsOf b).map Ticket.passengerId =
    if e.ticketed then (s.db.passengersOf b).map BookingPassenger.id else []
  authorizations :
    s.gateway.authorizationCount = s₀.gateway.authorizationCount + e.authorizations

/-- The request has ended as the matrix says.  Step 1 gives its booking the next UUID. -/
structure FollowsMatrix (s₀ s : Shared FakePaymentGateway) (r : BookingRequest) (a : Assessment)
    (reply : Reply) : Prop where
  ending : EndsAs s₀ s r s₀.uuid reply (expectedEnding r a)
  /-- A blocked payment never reaches the gateway. -/
  uncalled : a.decision = .block → s.calls = s₀.calls
  /-- A timeout is journalled before the retry is. -/
  unknownFirst : a.decision ≠ .block → triggerFor r.payload.cardToken = .gatewayTimeoutThenOk →
    s.db.JournalsFirst s₀.uuid .paymentUnknown .paymentAuthorized
  /-- Where the compensation fails, the charge is not reversed. -/
  unreversed : a.decision ≠ .block → triggerFor r.payload.cardToken = .refundFailure →
    ∀ ref, .void s₀.uuid ref true ∉ s.calls ∧ ∀ amount, .refund s₀.uuid ref amount true ∉ s.calls

/-! ### The runs -/

/-- The holds of the request are live holds of its user on seats of the flight `f`. -/
structure LiveHolds (s : Shared FakePaymentGateway) (r : BookingRequest) (f : FlightId) : Prop where
  held : ∀ h ∈ r.payload.holdIds, ∃ k ∈ s.db.seatIds, (s.db.seat k).holdId = some h ∧
    (s.db.seat k).heldByUserId = some r.userId ∧ holdIsLive (s.db.seat k) s.clock = true ∧
      (s.db.seat k).flightId = f
  flight : (s.db.flight f).isSome

instance (s : Shared FakePaymentGateway) (r : BookingRequest) (f : FlightId) :
    Decidable (LiveHolds s r f) :=
  decidable_of_iff ((∀ h ∈ r.payload.holdIds, ∃ k ∈ s.db.seatIds, (s.db.seat k).holdId = some h ∧
      (s.db.seat k).heldByUserId = some r.userId ∧ holdIsLive (s.db.seat k) s.clock = true ∧
        (s.db.seat k).flightId = f) ∧ (s.db.flight f).isSome)
    ⟨fun h => ⟨h.1, h.2⟩, fun h => ⟨h.held, h.flight⟩⟩

/-- The gateway has not seen the key of the request's charge, and what it draws next is
`uuid.uuid4().hex[:16]`. -/
structure FreshCharge (g : FakePaymentGateway) (r : BookingRequest) : Prop where
  unanswered : gatewayKey r.key ∉ g.authorizations.map Prod.fst
  unasked : gatewayKey r.key ∉ g.timedOutOnce
  digits : (g.hex g.drawn).length = 16

instance (g : FakePaymentGateway) (r : BookingRequest) : Decidable (FreshCharge g r) :=
  decidable_of_iff (gatewayKey r.key ∉ g.authorizations.map Prod.fst ∧
      gatewayKey r.key ∉ g.timedOutOnce ∧ (g.hex g.drawn).length = 16)
    ⟨fun h => ⟨h.1, h.2.1, h.2.2⟩, fun h => ⟨h.unanswered, h.unasked, h.digits⟩⟩

/-- What a request draws that no other runs beside. -/
structure SoloDraws where
  pnr : ℕ → String
  eTicketNo : ℕ → String
  assessment : Assessment

/-- Nothing it wants to insert is taken meanwhile. -/
def SoloDraws.draws (d : SoloDraws) : Draws where
  pnr := d.pnr
  refTaken := false
  eTicketNo := d.eTicketNo
  assessment := d.assessment
  seqTaken := false
  missed := fun _ => false

/-- The next statement, with the draws of the request. -/
def Drawing (d : SoloDraws) (_ : Proc) (a : Input) : Prop := a = .go d.draws

/-- Process `p` takes its next statement, or time passes. -/
def NoOtherRequest (p : ℕ) (d : SoloDraws) (w : World (Shared FakePaymentGateway) Proc) (q : ℕ)
    (a : Input) : Prop :=
  System.Solo p (Drawing d) w q a ∨ ∃ n, a = .tick n

/-! ### The condition -/

/-- No constraint stands in the way of the request's tickets: its seats have no live
ticket, and the numbers it draws are new. -/
structure Ticketable (db : Db) (r : BookingRequest) (d : SoloDraws) : Prop where
  seats : ∀ k ∈ r.seatsIn db, ∀ t ∈ db.liveTickets, t.seatInventoryId ≠ k
  distinct : ((List.range r.payload.passengers.length).map d.eTicketNo).Nodup
  unused : ∀ n < r.payload.passengers.length, d.eTicketNo n ∉ db.tickets.map Ticket.eTicketNo

instance (db : Db) (r : BookingRequest) (d : SoloDraws) : Decidable (Ticketable db r d) :=
  decidable_of_iff ((∀ k ∈ r.seatsIn db, ∀ t ∈ db.liveTickets, t.seatInventoryId ≠ k) ∧
      ((List.range r.payload.passengers.length).map d.eTicketNo).Nodup ∧
        ∀ n < r.payload.passengers.length, d.eTicketNo n ∉ db.tickets.map Ticket.eTicketNo)
    ⟨fun h => ⟨h.1, h.2.1, h.2.2⟩, fun h => ⟨h.seats, h.distinct, h.unused⟩⟩

/-- The card is approved and its tickets are asked for. -/
def Trigger.sells : Trigger → Bool
  | .approve | .gatewayTimeoutThenOk => true
  | _ => false

/-- A booking reference is free, and the total fits its column; and the payment is
blocked, or its key fits the column, the card asks for anything but a refund failure,
and its tickets can be inserted if it asks for any. -/
def Matrixed (s : Shared FakePaymentGateway) (r : BookingRequest) (d : SoloDraws) : Prop :=
  (uniquePnr s.db d.pnr).isSome ∧ Numeric (r.totalIn s.db) ∧
    (d.assessment.decision = .block ∨
      (gatewayKey r.key).length ≤ idempotencyKeyWidth ∧
        triggerFor r.payload.cardToken ≠ .refundFailure ∧
          ((triggerFor r.payload.cardToken).sells = true → Ticketable s.db r d))

instance (s : Shared FakePaymentGateway) (r : BookingRequest) (d : SoloDraws) :
    Decidable (Matrixed s r d) := by
  unfold Matrixed
  infer_instance

variable {env : Env} {s₀ s s' : Shared FakePaymentGateway} {p : ℕ} {r : BookingRequest}
  {d : SoloDraws} {σ σ' : Saga}

/-! ### The gateway -/

namespace FakePaymentGateway

variable {g : FakePaymentGateway} {req : AuthorizeRequest}

/-- A reference is `auth_` and sixteen digits. -/
theorem nextRef_fits (h : (g.hex g.drawn).length = 16) : Varchar 64 g.nextRef := by
  have hprefix : "auth_".length = 5 := by decide
  rw [Varchar, nextRef, String.length_append]
  omega

/-- The saga can record the answer to a new authorization. -/
theorem newResult_recordable (href : Varchar 64 g.nextRef) : (g.newResult req).Recordable := by
  unfold newResult
  split
  · next code hcode =>
    refine ⟨href, fun _ => .some ?_⟩
    cases htrigger : triggerFor req.cardToken <;> rw [htrigger] at hcode <;>
      simp only [declineCodes, Option.some.injEq, reduceCtorEq] at hcode <;> subst hcode <;>
      decide
  · exact ⟨href, fun h => absurd h (by simp)⟩

/-- What an answer under a new key says of the card. -/
theorem authorize_eq_ok {result : AuthorizationResult}
    (hnew : req.idempotencyKey ∉ g.authorizations.map Prod.fst)
    (h : (g.authorize req).1 = .ok result) :
    result = g.newResult req ∧
    (triggerFor req.cardToken = .gatewayTimeoutThenOk → req.idempotencyKey ∈ g.timedOutOnce) ∧
      result.approved = (declineCodes (triggerFor req.cardToken)).isNone ∧
        (g.authorize req).2.authorizationCount = g.authorizationCount + 1 := by
  unfold authorize at h ⊢
  rw [lookup_eq_none hnew] at h ⊢
  dsimp only at h ⊢
  split at h
  · simp at h
  · next htimeout =>
    obtain rfl := Except.ok.inj h
    rw [if_neg htimeout]
    refine ⟨rfl, fun htrigger => by_contra fun hkey => htimeout ⟨htrigger, hkey⟩, ?_, rfl⟩
    unfold newResult
    split <;> simp_all

/-- What a timeout under a new key says of the card. -/
theorem authorize_eq_error {e : PaymentTimeout}
    (hnew : req.idempotencyKey ∉ g.authorizations.map Prod.fst)
    (h : (g.authorize req).1 = .error e) :
    triggerFor req.cardToken = .gatewayTimeoutThenOk ∧ req.idempotencyKey ∉ g.timedOutOnce ∧
      (g.authorize req).2.authorizations = g.authorizations ∧
        (g.authorize req).2.nextRef = g.nextRef ∧
          req.idempotencyKey ∈ (g.authorize req).2.timedOutOnce := by
  unfold authorize at h ⊢
  rw [lookup_eq_none hnew] at h ⊢
  dsimp only at h ⊢
  split at h
  · next htimeout =>
    rw [if_pos htimeout]
    exact ⟨htimeout.1, htimeout.2, rfl, rfl, Finset.mem_insert_self ..⟩
  · simp at h

end FakePaymentGateway

/-- The fake gateway voids whatever it is asked to. -/
theorem reverseOutcome_fake {pay : Payment} (h : pay.state = .authorized) :
    (reverseOutcome s r σ pay).1.1 = .ok () ∧
      (reverseOutcome s r σ pay).1.2.authorizationCount = s.gateway.authorizationCount := by
  have harmed : (armed s.gateway r.payload.cardToken pay).authorizations =
      s.gateway.authorizations := by
    unfold armed
    dsimp only [PaymentGateway.armRefundFailure]
    split <;> rfl
  unfold reverseOutcome reverseCharge
  simp only [h, reduceCtorEq, if_false]
  dsimp only [PaymentGateway.void, FakePaymentGateway.void]
  exact ⟨rfl, congrArg List.length harmed⟩

/-! ### The audit trail -/

theorem Db.eventsOf_record (db : Db) (b : BookingId) (e : AuditEventType) (u : Option UserId)
    (x y : Option BookingState) (detail : List (String × JsonValue)) :
    (db.record b e u x y detail).eventsOf b = e :: db.eventsOf b := by
  simp [Db.eventsOf]

/-- Rows of the booking on top of its trail. -/
theorem Noted.eventsOf {b : BookingId} {audit rows : List BookingAudit}
    (h : Noted b audit rows) :
    ∃ newer, (rows.filter fun a => a.bookingId = b).map BookingAudit.eventType =
      newer ++ (audit.filter fun a => a.bookingId = b).map BookingAudit.eventType := by
  induction h with
  | refl => exact ⟨[], rfl⟩
  | @note db e detail _ _ ih =>
    obtain ⟨newer, hnewer⟩ := ih
    refine ⟨e :: newer, ?_⟩
    rw [List.cons_append, ← hnewer]
    exact db.eventsOf_record b e none none none detail

theorem Db.JournalsFirst.append {db db' : Db} {b : BookingId} {e e' : AuditEventType}
    (h : db.JournalsFirst b e e') (newer : List AuditEventType)
    (hevents : db'.eventsOf b = newer ++ db.eventsOf b) : db'.JournalsFirst b e e' := by
  obtain ⟨newer', older, hdb, hmem⟩ := h
  refine ⟨newer ++ newer', older, ?_, List.mem_append_right _ hmem⟩
  rw [hevents, hdb, List.append_assoc]

/-! ### What a request has done -/

/-- The request has opened its booking: its seats are as they were in `s₀`, pinned to the
booking, and no ticket was issued since. -/
structure Opened (s₀ s : Shared FakePaymentGateway) (r : BookingRequest) (d : SoloDraws)
    (σ : Saga) : Prop where
  booking : σ.bookingId = s₀.uuid
  ref : (uniquePnr s₀.db d.pnr).isSome
  total : Numeric (r.totalIn s₀.db)
  ids : ∀ k, k ∈ σ.seats.map Orm.Instance.id ↔ k ∈ r.seatsIn s₀.db
  passengers : σ.passengers.length = r.payload.passengers.length
  pinned : ∀ k ∈ r.seatsIn s₀.db, k ∈ s.db.seatIds ∧
    s.db.seat k = (s₀.db.seat k).pinned σ.bookingId
  tickets : s.db.tickets = s₀.db.tickets

/-- The gateway has not been called. -/
structure Uncalled (s₀ s : Shared FakePaymentGateway) : Prop where
  gateway : s.gateway = s₀.gateway
  calls : s.calls = s₀.calls

/-- The fraud controls let the payment pass, and its key fits the column. -/
structure Charging (r : BookingRequest) (d : SoloDraws) : Prop where
  passed : d.assessment.decision ≠ .block
  fits : (gatewayKey r.key).length ≤ idempotencyKeyWidth

/-- The first call has timed out, as the card asks for. -/
structure TimedOut (s₀ s : Shared FakePaymentGateway) (r : BookingRequest) : Prop where
  trigger : triggerFor r.payload.cardToken = .gatewayTimeoutThenOk
  authorizations : s.gateway.authorizations = s₀.gateway.authorizations
  nextRef : s.gateway.nextRef = s₀.gateway.nextRef
  asked : gatewayKey r.key ∈ s.gateway.timedOutOnce

/-- The charge is approved. -/
structure Approved (s₀ s : Shared FakePaymentGateway) (r : BookingRequest) (d : SoloDraws) :
    Prop extends Charging r d where
  trigger : declineCodes (triggerFor r.payload.cardToken) = none
  authorizations : s.gateway.authorizationCount = s₀.gateway.authorizationCount + 1

/-- The payment was blocked. -/
structure BlockedBy (s₀ s : Shared FakePaymentGateway) (d : SoloDraws) (f : PaymentFailure) :
    Prop extends Uncalled s₀ s where
  decision : d.assessment.decision = .block
  failure : f = blockedFailure d.assessment

/-- The charge was declined. -/
structure DeclinedBy (s₀ s : Shared FakePaymentGateway) (r : BookingRequest) (d : SoloDraws)
    (f : PaymentFailure) : Prop extends Charging r d where
  trigger : (declineCodes (triggerFor r.payload.cardToken)).isSome
  authorizations : s.gateway.authorizationCount = s₀.gateway.authorizationCount + 1
  status : f.error.statusCode = 402
  payment : f.payment.isSome
  writable : f.Writable

/-- The tickets are issued. -/
structure Sold (s₀ s : Shared FakePaymentGateway) (r : BookingRequest) (d : SoloDraws)
    (σ : Saga) : Prop extends Approved s₀ s r d where
  booking : σ.bookingId = s₀.uuid
  ref : (uniquePnr s₀.db d.pnr).isSome
  total : Numeric (r.totalIn s₀.db)
  issued : triggerFor r.payload.cardToken ≠ .ticketingFailure
  ticketable : Ticketable s₀.db r d
  unknownFirst : triggerFor r.payload.cardToken = .gatewayTimeoutThenOk →
    s.db.JournalsFirst σ.bookingId .paymentUnknown .paymentAuthorized
  seats : ∀ k ∈ r.seatsIn s₀.db, SeatFate.booked.Met σ.bookingId (s₀.db.seat k) (s.db.seat k)
  passengers : (s.db.passengersOf σ.bookingId).length = r.payload.passengers.length
  tickets : (s.db.liveTicketsOf σ.bookingId).map Ticket.passengerId =
    (s.db.passengersOf σ.bookingId).map BookingPassenger.id

/-- What a request that runs alone has done since it began step 1 in `s₀`. -/
def Reached (s₀ s : Shared FakePaymentGateway) (r : BookingRequest) (d : SoloDraws) :
    BookingPc → Prop
  | .assess σ => Opened s₀ s r d σ ∧ Uncalled s₀ s
  | .failSelect σ f | .failCommit σ f _ =>
    Opened s₀ s r d σ ∧ (BlockedBy s₀ s d f ∨ DeclinedBy s₀ s r d f)
  | .createPayment σ => Opened s₀ s r d σ ∧ d.assessment.decision ≠ .block ∧ Uncalled s₀ s
  | .authorize σ _ => Opened s₀ s r d σ ∧ Charging r d ∧ Uncalled s₀ s
  | .journalUnknown σ _ => Opened s₀ s r d σ ∧ Charging r d ∧ TimedOut s₀ s r
  | .retryAuthorize σ _ => Opened s₀ s r d σ ∧ Charging r d ∧ TimedOut s₀ s r ∧
    .paymentUnknown ∈ s.db.eventsOf σ.bookingId
  | .recordAuthorized σ _ result => Opened s₀ s r d σ ∧ Approved s₀ s r d ∧
    Varchar 64 result.providerRef ∧ (triggerFor r.payload.cardToken = .gatewayTimeoutThenOk →
      .paymentUnknown ∈ s.db.eventsOf σ.bookingId)
  | .issueTickets σ _ => Opened s₀ s r d σ ∧ Approved s₀ s r d ∧
    (triggerFor r.payload.cardToken = .gatewayTimeoutThenOk →
      s.db.JournalsFirst σ.bookingId .paymentUnknown .paymentAuthorized)
  | .reverse σ _ _ | .finishVoided σ _ _ => Opened s₀ s r d σ ∧ Approved s₀ s r d ∧
    triggerFor r.payload.cardToken = .ticketingFailure
  | .capture σ _ | .confirm σ _ => Sold s₀ s r d σ
  | .refresh σ => Sold s₀ s r d σ ∧ s.db.StateIs σ.bookingId .confirmed ∧
    (s.db.paymentsOf σ.bookingId).map Payment.state = [.captured]
  | .completeSelect o _ => FollowsMatrix s₀ s r d.assessment o.reply ↔ Matrixed s₀ r d
  | .completeCommit o _ => (FollowsMatrix s₀ s r d.assessment o.reply ↔ Matrixed s₀ r d) ∧
    (s.db.claims r.claimKey).isSome
  | .release _ _ => ¬ Matrixed s₀ r d
  | .done reply _ => FollowsMatrix s₀ s r d.assessment reply ↔ Matrixed s₀ r d
  | _ => False

/-! ### What the tables say at the end -/

theorem Opened.congr (h : Opened s₀ s r d σ) (hseat : s'.db.seat = s.db.seat)
    (hids : s'.db.seatIds = s.db.seatIds) (htickets : s'.db.tickets = s.db.tickets)
    (hb : σ'.bookingId = σ.bookingId) (hseats : σ'.seats = σ.seats)
    (hp : σ'.passengers = σ.passengers) : Opened s₀ s' r d σ' where
  booking := hb.trans h.booking
  ref := h.ref
  total := h.total
  ids := hseats ▸ h.ids
  passengers := hp ▸ h.passengers
  pinned := by
    rw [hseat, hids, hb]
    exact h.pinned
  tickets := htickets.trans h.tickets

/-- The constraints ask the same of the request before step 1 and of its saga after. -/
theorem Opened.ticketable_iff (h : Opened s₀ s r d σ) :
    Ticketable s₀.db r d ↔ Insertable s.db σ d.eTicketNo := by
  have hlive := liveTickets_congr h.tickets
  constructor
  · intro ht
    refine ⟨fun i hi t hmem => ?_, ?_, ?_⟩
    · rw [hlive] at hmem
      exact ht.seats i.id ((h.ids i.id).mp (List.mem_map_of_mem hi)) t hmem
    · rw [h.passengers]
      exact ht.distinct
    · rw [h.passengers, h.tickets]
      exact ht.unused
  · intro hins
    refine ⟨fun k hk t hmem => ?_, ?_, ?_⟩
    · rw [← hlive] at hmem
      obtain ⟨i, hi, rfl⟩ := List.mem_map.mp ((h.ids k).mpr hk)
      exact hins.seats i hi t hmem
    · rw [← h.passengers]
      exact hins.distinct
    · rw [← h.passengers, ← h.tickets]
      exact hins.unused

/-- A booking without tickets has no live one. -/
theorem liveTicketsOf_eq_nil {db : Db} {b : BookingId} (h : db.ticketsOf b = []) :
    db.liveTicketsOf b = [] := by
  refine List.filter_eq_nil_iff.mpr fun t ht hb => ?_
  have hmem := Db.mem_ticketsOf.mpr ⟨(mem_liveTickets.mp ht).1, of_decide_eq_true hb⟩
  rw [h] at hmem
  simp at hmem

theorem Saga.Before.passengers_length {state : BookingState}
    (h : σ.Before r.userId state (s.view σ.bookingId)) (hop : Opened s₀ s r d σ) :
    (s.db.passengersOf σ.bookingId).length = r.payload.passengers.length := by
  rw [← Shared.view_passengers, h.recorded.passengers, hop.passengers]

theorem Saga.Before.stateIs {state : BookingState}
    (h : σ.Before r.userId state (s.view σ.bookingId)) : s.db.StateIs σ.bookingId σ.state := by
  obtain ⟨row, hrow, -, hst⟩ := h.recorded.row
  exact ⟨row, hrow, hst.trans h.state.symm⟩

/-- `_fail_payment` gives the holds back as they were. -/
theorem Opened.held_of_fails (hop : Opened s₀ s r d σ) {state : BookingState}
    (hbefore : σ.Before r.userId state (s.view σ.bookingId)) (f : PaymentFailure) {k : SeatId}
    (hk : k ∈ r.seatsIn s₀.db) :
    SeatFate.held.Met s₀.uuid (s₀.db.seat k)
      ((failedDb s.db σ f (failPaymentRows s.db σ)).seat k) := by
  obtain ⟨hid, hrow⟩ := hop.pinned k hk
  have hfound : k ∈ (failPaymentRows s.db σ).map Orm.Instance.id := by
    rw [failPaymentRows_ids]
    exact List.mem_filter.mpr ⟨hid, by simp [hrow, SeatInventory.pinned]⟩
  obtain ⟨v, hv⟩ := failedDb_seat_of_mem s.db σ f
    (fun i hi => (failPaymentRows_bookingId hbefore.pinned hi).symm ▸ rfl) hfound
  rw [hv, hrow]
  exact ⟨⟨rfl, rfl, rfl, rfl⟩, rfl⟩

/-- How a payment that is blocked or declined ends. -/
theorem Opened.followsMatrix_failed (hop : Opened s₀ s r d σ) {f : PaymentFailure}
    (hbefore : σ.Before r.userId .pending (s.view σ.bookingId))
    (hj : f.Journals σ r (s.view σ.bookingId))
    (hf : BlockedBy s₀ s d f ∨ DeclinedBy s₀ s r d f) :
    FollowsMatrix s₀ (s.withDb (failedDb s.db σ f (failPaymentRows s.db σ))) r d.assessment
      (.problem f.error) := by
  have hbooking : (failedDb s.db σ f (failPaymentRows s.db σ)).StateIs σ.bookingId
      .paymentFailed := hbefore.stateIs.flush Db.flushBookingState_self
  have hseats := fun k hk => hop.held_of_fails hbefore f (k := k) hk
  have hlength := hbefore.passengers_length hop
  have hlive : s.db.liveTicketsOf σ.bookingId = [] := liveTicketsOf_eq_nil hbefore.tickets
  rw [hop.booking] at hbooking hlength hlive
  rcases hf with hblocked | hdeclined
  · have hrow : expectedEnding r d.assessment = blockedEnding := if_pos hblocked.decision
    obtain rfl := hblocked.failure
    refine ⟨?_, fun _ => hblocked.calls, fun h => absurd hblocked.decision h,
      fun h => absurd hblocked.decision h⟩
    rw [hrow]
    refine ⟨rfl, hbooking, ?_, hseats, hlength, ?_, ?_⟩
    · have hnone : s.db.paymentsOf σ.bookingId = [] := hj.1
      rw [hop.booking] at hnone
      exact congrArg (List.map Payment.state) hnone
    · exact congrArg (List.map Ticket.passengerId) hlive
    · exact congrArg FakePaymentGateway.authorizationCount hblocked.gateway
  -- a card that is declined is neither of the two special ones
  · have hnotRefund : triggerFor r.payload.cardToken ≠ .refundFailure := by
      intro hrefund
      have htrigger := hdeclined.trigger
      simp [hrefund, declineCodes] at htrigger
    have hnotTimeout : triggerFor r.payload.cardToken ≠ .gatewayTimeoutThenOk := by
      intro htimeout
      have htrigger := hdeclined.trigger
      simp [htimeout, declineCodes] at htrigger
    have hrow : expectedEnding r d.assessment =
        ⟨402, .paymentFailed, [.declined], .held, false, 1⟩ := by
      have htrigger := hdeclined.trigger
      unfold expectedEnding
      rw [if_neg hdeclined.passed]
      revert htrigger
      cases triggerFor r.payload.cardToken <;> simp [declineCodes, failureMatrix]
    refine ⟨?_, fun h => absurd h hdeclined.passed, fun _ h => absurd h hnotTimeout,
      fun _ h => absurd h hnotRefund⟩
    rw [hrow]
    refine ⟨hdeclined.status, hbooking, ?_, hseats, hlength, ?_, hdeclined.authorizations⟩
    · obtain ⟨⟨loaded, current⟩, hpay⟩ := Option.isSome_iff_exists.mp hdeclined.payment
      simp only [PaymentFailure.Journals, hpay] at hj
      obtain ⟨-, hone, result, -, rfl, -⟩ := hj
      have hflush : (failedDb s.db σ f (failPaymentRows s.db σ)).paymentsOf σ.bookingId =
          (s.db.flushPayment loaded (loaded.declined result)).paymentsOf σ.bookingId := by
        simp [failedDb, hpay, Db.paymentsOf]
      rw [PaymentTable.paymentsOf_flush hone, hop.booking] at hflush
      exact congrArg (List.map Payment.state) hflush
    · exact congrArg (List.map Ticket.passengerId) hlive

/-- How a saga whose tickets were refused ends. -/
theorem Opened.followsMatrix_voided (hop : Opened s₀ s r d σ) {pay : Payment} {reason : String}
    {cs : List GatewayCall} (hbefore : σ.Before r.userId .compensating (s.view σ.bookingId))
    (hcharged : pay.Charged σ (s.view σ.bookingId) cs) (happ : Approved s₀ s r d)
    (htrigger : triggerFor r.payload.cardToken = .ticketingFailure) :
    FollowsMatrix s₀ (s.withDb (voidedDb s.db σ pay s.clock)) r d.assessment
      (.problem (compensatedError reason)) := by
  have hrow : expectedEnding r d.assessment = ⟨409, .voided, [.voided], .available, false, 1⟩ := by
    unfold expectedEnding
    rw [if_neg happ.passed, htrigger]
    rfl
  have hbooking : (voidedDb s.db σ pay s.clock).StateIs σ.bookingId .voided :=
    hbefore.stateIs.flush Db.flushBookingState_self
  have hlength := hbefore.passengers_length hop
  refine ⟨?_, fun h => absurd h happ.passed, fun _ h => absurd (htrigger.symm.trans h) (by decide),
    fun _ h => absurd (htrigger.symm.trans h) (by decide)⟩
  rw [hrow, ← hop.booking]
  refine ⟨rfl, hbooking, ?_, fun k hk => ?_, hlength, ?_, happ.authorizations⟩
  · have hstate : pay.reversed.1.state = .voided := by
      unfold Payment.reversed
      simp [hcharged.state]
    have hpayments : ((s.db.flushPayment pay pay.reversed.1).paymentsOf σ.bookingId).map
        Payment.state = [.voided] := by
      rw [PaymentTable.paymentsOf_flush hcharged.row]
      simp [hstate]
    exact hpayments
  · show SeatFate.available.Met _ _ ((voidedDb s.db σ pay s.clock).seat k)
    obtain ⟨-, hpinned⟩ := hop.pinned k hk
    have hb : ((s₀.db.seat k).pinned σ.bookingId).bookingId = some σ.bookingId := rfl
    rw [voidedDb_seat, hpinned, if_pos hb]
    exact ⟨rfl, rfl, rfl, rfl, rfl⟩
  · have hlive : (voidedDb s.db σ pay s.clock).liveTicketsOf σ.bookingId = [] := by
      show (voidTickets s.db σ.bookingId s.clock).liveTickets.filter _ = []
      rw [liveTickets_voidTickets, List.filter_filter]
      refine List.filter_eq_nil_iff.mpr fun t _ => ?_
      simp
    exact congrArg (List.map Ticket.passengerId) hlive

/-- Where ticketing commits, the request has sold its seats. -/
theorem Opened.sold (hop : Opened s₀ s r d σ) (happ : Approved s₀ s r d)
    (hfirst : triggerFor r.payload.cardToken = .gatewayTimeoutThenOk →
      s.db.JournalsFirst σ.bookingId .paymentUnknown .paymentAuthorized)
    (ht : Tables s) (hl : s.db.LiveUnique)
    (hbefore : σ.Before r.userId .paymentAuthorized (s.view σ.bookingId))
    (htrigger : triggerFor r.payload.cardToken ≠ .ticketingFailure)
    {assigned : List (BookingPassenger × SeatInstance)} {rows : List BookingAudit}
    (hassigned : σ.assigned = some assigned)
    (hunique : s.db.ticketsUnique
      (newTickets σ.bookingId s.uuid s.clock d.eTicketNo assigned) = true)
    (hrows : Noted σ.bookingId s.db.audit rows) :
    Sold s₀ ((s.withDb (issuedDb { s.db with audit := rows } σ
      (newTickets σ.bookingId s.uuid s.clock d.eTicketNo assigned) assigned)).drawUuids
        σ.passengers.length) r d (σ.afterIssue assigned) := by
  have hinsertable := (ticketsUnique_iff hbefore.seated hassigned hl
    (fun q hq t hmem => hbefore.no_tickets ht hq hmem) s.uuid s.clock d.eTicketNo).mp hunique
  refine ⟨⟨happ.toCharging, happ.trigger, happ.authorizations⟩, hop.booking, hop.ref, hop.total,
    htrigger, hop.ticketable_iff.mpr hinsertable, fun htimeout => ?_, fun k hk => ?_,
    hbefore.passengers_length hop, ?_⟩
  · obtain ⟨newer, hnewer⟩ := hrows.eventsOf
    refine (hfirst htimeout).append (.ticketsIssued :: newer) ?_
    have hissued : { s.db with audit := rows }.eventsOf σ.bookingId =
        newer ++ s.db.eventsOf σ.bookingId := hnewer
    rw [List.cons_append, ← hissued]
    exact Db.eventsOf_record ..
  · obtain ⟨-, hpinned⟩ := hop.pinned k hk
    obtain ⟨v, hv⟩ := hbefore.issued_seat hassigned { s.db with audit := rows }
      ((hop.ids k).mpr hk)
    -- the seat is still as step 1 has pinned it, so ticketing books it for this booking
    have hseat : (((s.withDb (issuedDb { s.db with audit := rows } σ
        (newTickets σ.bookingId s.uuid s.clock d.eTicketNo assigned) assigned)).drawUuids
          σ.passengers.length).db.seat k) = _ := hv
    rw [hseat]
    refine ⟨rfl, ?_, rfl, rfl⟩
    show (s.db.seat k).bookingId = some σ.bookingId
    rw [hpinned]
    rfl
  · have hnew : ∀ t ∈ newTickets σ.bookingId s.uuid s.clock d.eTicketNo assigned,
        t.bookingId = σ.bookingId ∧ t.voidedAt = none := by
      intro t hmem
      obtain ⟨_, _, _, _, hb, hvoid⟩ := mem_newTickets hmem
      exact ⟨hb, hvoid⟩
    -- the live tickets of the booking are the new ones, one for each passenger
    have hlive : (insertTickets s.db (newTickets σ.bookingId s.uuid s.clock d.eTicketNo
        assigned)).liveTicketsOf σ.bookingId =
          newTickets σ.bookingId s.uuid s.clock d.eTicketNo assigned := by
      unfold Db.liveTicketsOf
      rw [liveTickets_insertTickets fun t hmem => (hnew t hmem).2, List.filter_append]
      have hown := List.filter_eq_self.mpr fun t hmem => decide_eq_true (hnew t hmem).1
      have hnone : s.db.liveTickets.filter (fun t => t.bookingId = σ.bookingId) = [] :=
        liveTicketsOf_eq_nil hbefore.tickets
      rw [hown, hnone, List.append_nil]
    obtain ⟨-, hcolumn, -⟩ := newTickets_columns hbefore.seated hassigned σ.bookingId s.uuid
      s.clock d.eTicketNo
    have hpassengers : s.db.passengersOf σ.bookingId = σ.passengers := hbefore.recorded.passengers
    have hall := (congrArg (List.map Ticket.passengerId) hlive).trans hcolumn
    rw [← hpassengers] at hall
    exact hall

/-- A sold booking ends as the matrix says unless the card asks for a refund failure. -/
theorem Sold.followsMatrix_iff (h : Sold s₀ s r d σ)
    (hbooking : s.db.StateIs σ.bookingId .confirmed)
    (hpayments : (s.db.paymentsOf σ.bookingId).map Payment.state = [.captured])
    (body : JsonValue) :
    FollowsMatrix s₀ s r d.assessment (.json 201 body false) ↔ Matrixed s₀ r d := by
  have hrow : expectedEnding r d.assessment = failureMatrix (triggerFor r.payload.cardToken) :=
    if_neg h.passed
  by_cases hrefund : triggerFor r.payload.cardToken = .refundFailure
  · refine iff_of_false (fun hfollows => ?_) ?_
    · have hstatus := hfollows.ending.status
      rw [hrow, hrefund] at hstatus
      simp [Reply.status, failureMatrix] at hstatus
    · rintro ⟨-, -, hblock | ⟨-, hnot, -⟩⟩
      · exact h.passed hblock
      · exact hnot hrefund
  · have hsale : failureMatrix (triggerFor r.payload.cardToken) =
        ⟨201, .confirmed, [.captured], .booked, true, 1⟩ := by
      have hissued := h.issued
      have htrigger := h.trigger
      revert hrefund hissued htrigger
      cases triggerFor r.payload.cardToken <;> simp [declineCodes, failureMatrix]
    refine iff_of_true ⟨?_, fun hblock => absurd hblock h.passed,
      fun _ htimeout => h.booking ▸ h.unknownFirst htimeout, fun _ h' => absurd h' hrefund⟩
      ⟨h.ref, h.total, .inr ⟨h.fits, hrefund, fun _ => h.ticketable⟩⟩
    rw [hrow, hsale, ← h.booking]
    exact ⟨rfl, hbooking, hpayments, h.seats, h.passengers, h.tickets, h.authorizations⟩

/-! ### One statement -/

/-- A server error is on no row. -/
theorem not_followsMatrix_serverError {a : Assessment} {x : Failure} :
    ¬ FollowsMatrix s₀ s r a (.serverError x) := fun h =>
  expectedEnding_status r a h.ending.status.symm

/-- The matrix reads neither the clock nor the claims. -/
theorem followsMatrix_congr {a : Assessment} {reply : Reply} {clock : Time}
    {claims : String × UserId → Option IdempotencyKey} {locks : String × UserId → Option ℕ} :
    FollowsMatrix s₀ { s with
      clock := clock, db := { s.db with claims := claims }, claimLocks := locks } r a reply ↔
        FollowsMatrix s₀ s r a reply := by
  constructor <;> rintro ⟨⟨h₁, h₂, h₃, h₄, h₅, h₆, h₇⟩, h₈, h₉, h₁₀⟩ <;>
    exact ⟨⟨h₁, h₂, h₃, h₄, h₅, h₆, h₇⟩, h₈, h₉, h₁₀⟩

/-- An answer leads on as the card asks for. -/
theorem Opened.reached_afterAuthorize (hop : Opened s₀ s r d σ) (hch : Charging r d)
    {pay : Payment} {result : AuthorizationResult}
    (hrecordable : result.Recordable)
    (happroved : result.approved = (declineCodes (triggerFor r.payload.cardToken)).isNone)
    (hcount : s.gateway.authorizationCount = s₀.gateway.authorizationCount + 1)
    (hunknown : triggerFor r.payload.cardToken = .gatewayTimeoutThenOk →
      .paymentUnknown ∈ s.db.eventsOf σ.bookingId) :
    Reached s₀ s r d (afterAuthorize σ pay result) := by
  unfold afterAuthorize
  split
  · next h =>
    rw [happroved, Option.isNone_iff_eq_none] at h
    exact ⟨hop, ⟨hch, h, hcount⟩, hrecordable.1, hunknown⟩
  · next h =>
    have hwritable : (declinedFailure σ pay result).Writable :=
      declinedFailure_writable.mpr ⟨hrecordable.1, hrecordable.2 (Bool.not_eq_true _ ▸ h)⟩
    rw [happroved, Bool.not_eq_true, Option.isNone_eq_false_iff] at h
    exact ⟨hop, .inr ⟨hch, h, hcount, rfl, rfl, hwritable⟩⟩

/-- A request whose tickets cannot be inserted is not `Matrixed`. -/
theorem Approved.not_matrixed (h : Approved s₀ s r d)
    (hissues : triggerFor r.payload.cardToken ≠ .ticketingFailure)
    (hnot : ¬ Ticketable s₀.db r d) : ¬ Matrixed s₀ r d := by
  rintro ⟨-, -, hblock | ⟨-, hrefund, hsells⟩⟩
  · exact h.passed hblock
  · have htrigger := h.trigger
    refine hnot (hsells ?_)
    revert hissues hrefund htrigger
    cases triggerFor r.payload.cardToken <;> simp [declineCodes, Trigger.sells]

/-- **One statement of a request that runs alone.** -/
theorem BookingStep.reached {pc pc' : BookingPc} (h : BookingStep env s p r d.draws pc s' pc')
    (ht : Tables s) (ho : ∀ b, pc.booking? = some b → pc.Outline r b (s.view b))
    (hal : pc.Alone s) (hfresh : FreshCharge s₀.gateway r) (hat : Reached s₀ s r d pc) :
    Reached s₀ s' r d pc' := by
  cases h
  case blocks σ h =>
    obtain ⟨hop, huncalled⟩ := hat
    exact ⟨hop.congr rfl rfl rfl rfl rfl rfl, .inl ⟨huncalled, h, rfl⟩⟩
  case passes σ h =>
    obtain ⟨hop, huncalled⟩ := hat
    exact ⟨hop.congr rfl rfl rfl rfl rfl rfl, h, huncalled⟩
  case selectsFailed σ f h _ => exact hat
  case selectRefused σ f hw =>
    rcases hat.2 with hblocked | hdeclined
    · exact absurd (hblocked.failure ▸ blockedFailure_writable d.assessment) hw
    · exact absurd hdeclined.writable hw
  case selectIllegal σ f e h => exact absurd h ((ho σ.bookingId rfl).1.not_illegal (by decide))
  case fails σ f rows hf h =>
    obtain ⟨hop, hfail⟩ := hat
    obtain ⟨-, rfl⟩ := hal
    obtain ⟨hbefore, hj, -⟩ := ho σ.bookingId rfl
    refine iff_of_true (hop.followsMatrix_failed hbefore hj hfail) ⟨hop.ref, hop.total, ?_⟩
    rcases hfail with hblocked | hdeclined
    · exact .inl hblocked.decision
    · have htrigger := hdeclined.trigger
      refine .inr ⟨hdeclined.fits, ?_, ?_⟩ <;> revert htrigger <;>
        cases triggerFor r.payload.cardToken <;> simp [declineCodes, Trigger.sells]
  case failRolledBack σ f rows hf h =>
    obtain ⟨huntaken, rfl⟩ := hal
    have hchecked := failedDb_seatsChecked (f := f) ht (ho σ.bookingId rfl).2.2
      fun i hi => huntaken.unbooked i.id (failPaymentRows_pinned hi).2
    exact absurd (hchecked.symm.trans h) (by simp)
  case createsPayment σ h =>
    obtain ⟨hop, hpassed, huncalled⟩ := hat
    exact ⟨hop.congr rfl rfl rfl rfl rfl rfl, ⟨hpassed, h⟩, huncalled.gateway, huncalled.calls⟩
  case keyTooLong σ h =>
    obtain ⟨-, hpassed, -⟩ := hat
    rintro ⟨-, -, hblock | ⟨hfits, -⟩⟩
    · exact hpassed hblock
    · exact absurd h (not_lt.mpr hfits)
  case authorizes σ pay result h =>
    obtain ⟨hop, hch, huncalled⟩ := hat
    obtain ⟨-, hfor, -⟩ := ho σ.bookingId rfl
    unfold authorizeOutcome at h
    rw [hfor.authorizeRequest_eq, huncalled.gateway] at h
    have hnew : (chargeRequest r σ).idempotencyKey ∉ s₀.gateway.authorizations.map Prod.fst :=
      hfresh.unanswered
    obtain ⟨hresult, hasked, happroved, hcount⟩ := FakePaymentGateway.authorize_eq_ok hnew h
    have hgateway : (s.authorized σ pay).gateway = (s₀.gateway.authorize (chargeRequest r σ)).2 := by
      rw [← hfor.authorizeRequest_eq, ← huncalled.gateway]
      rfl
    have hcharged : Opened s₀ (s.authorized σ pay) r d σ := hop.congr rfl rfl rfl rfl rfl rfl
    refine hcharged.reached_afterAuthorize hch ?_ happroved ?_ ?_
    · rw [hresult]
      exact FakePaymentGateway.newResult_recordable
        (FakePaymentGateway.nextRef_fits hfresh.digits)
    · rw [hgateway]
      exact hcount
    · intro htimeout
      exact absurd (hasked htimeout) hfresh.unasked
  case timesOut σ pay e h =>
    obtain ⟨hop, hch, huncalled⟩ := hat
    obtain ⟨-, hfor, -⟩ := ho σ.bookingId rfl
    unfold authorizeOutcome at h
    rw [hfor.authorizeRequest_eq, huncalled.gateway] at h
    have hnew : (chargeRequest r σ).idempotencyKey ∉ s₀.gateway.authorizations.map Prod.fst :=
      hfresh.unanswered
    obtain ⟨htrigger, -, hauthorizations, hnext, hasked⟩ :=
      FakePaymentGateway.authorize_eq_error hnew h
    have hgateway : (s.authorized σ pay).gateway = (s₀.gateway.authorize (chargeRequest r σ)).2 := by
      rw [← hfor.authorizeRequest_eq, ← huncalled.gateway]
      rfl
    refine ⟨hop.congr rfl rfl rfl rfl rfl rfl, hch, htrigger, ?_, ?_, ?_⟩
    · rw [hgateway]
      exact hauthorizations
    · rw [hgateway]
      exact hnext
    · rw [hgateway]
      exact hasked
  case journals σ pay =>
    obtain ⟨hop, hch, htimedOut⟩ := hat
    refine ⟨hop.congr rfl rfl rfl rfl rfl rfl, hch, ⟨htimedOut.trigger, htimedOut.authorizations,
      htimedOut.nextRef, htimedOut.asked⟩, ?_⟩
    have hevents : (journalUnknown s.db σ pay).eventsOf σ.bookingId =
        .paymentUnknown :: s.db.eventsOf σ.bookingId := Db.eventsOf_record ..
    show _ ∈ (journalUnknown s.db σ pay).eventsOf σ.bookingId
    rw [hevents]
    exact List.mem_cons_self
  case retries σ pay result h =>
    obtain ⟨hop, hch, htimedOut, hunknown⟩ := hat
    obtain ⟨-, hfor, -⟩ := ho σ.bookingId rfl
    have hnew : (chargeRequest r σ).idempotencyKey ∉ s.gateway.authorizations.map Prod.fst := by
      rw [htimedOut.authorizations]
      exact hfresh.unanswered
    unfold authorizeOutcome at h
    rw [hfor.authorizeRequest_eq] at h
    obtain ⟨hresult, -, happroved, hcount⟩ := FakePaymentGateway.authorize_eq_ok hnew h
    have hcharged : Opened s₀ (s.authorized σ pay) r d σ := hop.congr rfl rfl rfl rfl rfl rfl
    have hrecordable : result.Recordable := by
      rw [hresult]
      refine FakePaymentGateway.newResult_recordable ?_
      rw [htimedOut.nextRef]
      exact FakePaymentGateway.nextRef_fits hfresh.digits
    refine hcharged.reached_afterAuthorize hch hrecordable happroved ?_ fun _ => hunknown
    have hgateway : (s.authorized σ pay).gateway = (s.gateway.authorize (chargeRequest r σ)).2 := by
      rw [← hfor.authorizeRequest_eq]
      rfl
    rw [hgateway, hcount]
    exact congrArg (·.length + 1) htimedOut.authorizations
  case timesOutAgain σ pay e h =>
    -- the retry goes out under the key that has timed out before
    obtain ⟨-, -, htimedOut, -⟩ := hat
    obtain ⟨-, hfor, -⟩ := ho σ.bookingId rfl
    have hnew : (chargeRequest r σ).idempotencyKey ∉ s.gateway.authorizations.map Prod.fst := by
      rw [htimedOut.authorizations]
      exact hfresh.unanswered
    unfold authorizeOutcome at h
    rw [hfor.authorizeRequest_eq] at h
    obtain ⟨-, hunasked, -⟩ := FakePaymentGateway.authorize_eq_error hnew h
    exact absurd htimedOut.asked hunasked
  case recordsAuthorized σ pay result h _ =>
    obtain ⟨hop, happ, -, hunknown⟩ := hat
    refine ⟨hop.congr rfl rfl rfl rfl rfl rfl, ⟨happ.toCharging, happ.trigger,
      happ.authorizations⟩, fun htimeout => ?_⟩
    obtain ⟨newer, older, hevents⟩ := List.append_of_mem (hunknown htimeout)
    have hrecorded : (authorizedDb s.db σ pay result).eventsOf σ.bookingId =
        .paymentAuthorized :: s.db.eventsOf σ.bookingId := Db.eventsOf_record ..
    refine ⟨.paymentAuthorized :: newer, older, ?_, List.mem_cons_self⟩
    show (authorizedDb s.db σ pay result).eventsOf σ.bookingId = _
    rw [hrecorded, hevents, List.cons_append]
  case recordRefused σ pay result hw => exact absurd hat.2.2.1 hw
  case recordIllegal σ pay result e h =>
    exact absurd h ((ho σ.bookingId rfl).1.not_illegal (by decide))
  case issues σ pay assigned rows hf hlost htrig hassigned hunique hchecked hcan hseq hrows =>
    obtain ⟨hop, happ, hfirst⟩ := hat
    exact hop.sold happ hfirst ht hal.live (ho σ.bookingId rfl).1 htrig hassigned hunique hrows
  case refuses σ pay rows reason hf h hcan hrows =>
    obtain ⟨hop, happ, -⟩ := hat
    have hbefore := (ho σ.bookingId rfl).1
    refine ⟨hop.congr rfl rfl rfl rfl rfl rfl, ⟨happ.toCharging, happ.trigger,
      happ.authorizations⟩, ?_⟩
    rcases h with hlost | htrig | hnone
    · exact absurd hbefore.pinned.lost_eq_nil hlost
    · exact htrig
    · rw [hbefore.seated.assigned_eq] at hnone
      simp at hnone
  case refuseIllegal σ pay e h hcan =>
    exact absurd hcan ((ho σ.bookingId rfl).1.not_illegal (by decide))
  case issueRolledBack σ pay e hf hlost htrig hfail =>
    obtain ⟨hop, happ, -⟩ := hat
    have hbefore := (ho σ.bookingId rfl).1
    have hstep : BookingStep env s p r d.draws (.issueTickets σ pay) s
        (raised e (some σ.bookingId)) := .issueRolledBack hf hlost htrig hfail
    rw [raised_of_issueFails hfail]
    rcases hstep.issue_cases ht hbefore hal.live htrig with ⟨-, _, -, hcap, -⟩ | ⟨hnot, -⟩
    · rw [raised_of_issueFails hfail] at hcap
      simp at hcap
    · refine happ.not_matrixed htrig fun hticketable => hnot ⟨hal.pinned, ?_, rfl⟩
      exact hop.ticketable_iff.mp hticketable
  case reverses σ pay reason h =>
    obtain ⟨hop, happ, htrigger⟩ := hat
    obtain ⟨-, -, hcharged⟩ := ho σ.bookingId rfl
    refine ⟨hop.congr rfl rfl rfl rfl rfl rfl, ⟨happ.toCharging, happ.trigger, ?_⟩, htrigger⟩
    exact (reverseOutcome_fake hcharged.state).2.trans happ.authorizations
  case reverseFails σ pay reason e h =>
    obtain ⟨-, -, hcharged⟩ := ho σ.bookingId rfl
    rw [(reverseOutcome_fake hcharged.state).1] at h
    simp at h
  case voids σ pay reason hf h =>
    obtain ⟨hop, happ, htrigger⟩ := hat
    obtain ⟨hbefore, -, cs, -, hcharged⟩ := ho σ.bookingId rfl
    refine iff_of_true (hop.followsMatrix_voided hbefore hcharged happ htrigger)
      ⟨hop.ref, hop.total, .inr ⟨happ.fits, ?_, ?_⟩⟩ <;> simp [htrigger, Trigger.sells]
  case voidIllegal σ pay reason e h =>
    exact absurd h ((ho σ.bookingId rfl).1.not_illegal (by decide))
  case captures σ pay result h =>
    exact ⟨⟨hat.toCharging, hat.trigger, hat.authorizations⟩, hat.booking, hat.ref, hat.total,
      hat.issued, hat.ticketable, hat.unknownFirst, hat.seats, hat.passengers, hat.tickets⟩
  case captureFails σ pay e h => simp [captureOutcome, PaymentGateway.capture,
      FakePaymentGateway.capture] at h
  case confirms σ pay hcan hseq =>
    obtain ⟨hticketed, -, hpay, -⟩ := ho σ.bookingId rfl
    obtain ⟨row, hrow, hst⟩ := hal
    have hstate : s.db.StateIs σ.bookingId σ.state := ⟨row, hrow, hst.trans hticketed.state.symm⟩
    refine ⟨⟨⟨hat.toCharging, hat.trigger, hat.authorizations⟩, hat.booking, hat.ref, hat.total,
      hat.issued, hat.ticketable, fun htimeout => ?_, hat.seats, hat.passengers, hat.tickets⟩,
      hstate.flush Db.flushBookingState_self, ?_⟩
    · refine (hat.unknownFirst htimeout).append [.bookingConfirmed] ?_
      exact Db.eventsOf_record ..
    · exact congrArg (List.map Payment.state) (PaymentTable.paymentsOf_flush hpay)
  case confirmIllegal σ pay e h =>
    rw [(ho σ.bookingId rfl).1.state] at h
    simp [assertCanTransition, allowedTransitions] at h
  case confirmRolledBack σ pay hseq => simp [SoloDraws.draws] at hseq
  case refreshes σ row h =>
    obtain ⟨hsold, hbooking, hpayments⟩ := hat
    exact hsold.followsMatrix_iff hbooking hpayments _
  case finds o b c hc => exact ⟨hat, Option.isSome_iff_exists.mpr ⟨c, hc⟩⟩
  case findsNothing o b hc => exact hat
  case completes o b c hf hc => exact followsMatrix_congr.trans hat.1
  case completesNothing o b hc =>
    have hsome := hat.2
    rw [hc] at hsome
    simp at hsome
  case releases e b hf => exact iff_of_false not_followsMatrix_serverError hat
  all_goals exact hat.elim

end SkyLock
