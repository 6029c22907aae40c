import SkyLock.System

/-!
# The transitions

What a step of a process can do, said once.  Each relation below has one rule
per way its step function can return, with the guards that lead there; the
theorems say that the step functions do nothing else.  The invariants are proved
by cases on these rules and never unfold a step function.

## Main definitions

* `BookingStep`, `HoldStep`, `ReleaseStep`, `CancelStep`, `SweepStep` — the
  transitions of each kind of request.
* `Step` — the transitions of a process.
* `Proc.under?`, `SameClaim` — the requests under one key, and its row.

## Main results

* `bookingStep_of`, `holdStep_of`, `releaseStep_of`, `cancelStep_of`,
  `sweepStep_of` — the step functions take only these transitions.
* `step_of` — **so does the service**.
* `Step.elsewhere` — a claim is a matter of the requests under its key.
-/

namespace SkyLock

open Concurrent

variable {G : Type} [PaymentGateway G]

/-! ### `create_booking` -/

/-- The seat rows pinned to a booking. -/
def Db.seatsOf (db : Db) (b : BookingId) : List SeatId :=
  db.seatIds.filter fun k => (db.seat k).bookingId = some b

/-- No open transaction other than the process's own has locked a seat row. -/
def Shared.UnlockedFor (s : Shared G) (p : ℕ) : Prop :=
  ∀ k ∈ s.db.seatIds, s.locks k = none ∨ s.locks k = some p

instance (s : Shared G) (p : ℕ) : Decidable (s.UnlockedFor p) := by
  unfold Shared.UnlockedFor
  infer_instance

omit [PaymentGateway G] in
theorem Shared.UnlockedFor.seatsFree {s : Shared G} {p : ℕ} (h : s.UnlockedFor p)
    {ids : List SeatId} (hids : ids ⊆ s.db.seatIds) : s.seatsFree p ids = true := by
  simp only [Shared.seatsFree, List.all_eq_true, decide_eq_true_eq]
  exact fun k hk => h k (hids hk)

/-- The outcome of the `authorize` call a saga makes. -/
def authorizeOutcome (s : Shared G) (σ : Saga) (pay : Payment) :
    Except PaymentTimeout AuthorizationResult × G :=
  PaymentGateway.authorize s.gateway (authorizeRequest σ pay)

/-- The shared state after the `authorize` call a saga makes. -/
def Shared.authorized (s : Shared G) (σ : Saga) (pay : Payment) : Shared G :=
  s.called (authorizeOutcome s σ pay).2
    (.authorize σ.bookingId (authorizeRequest σ pay) (authorizeOutcome s σ pay).1)

/-- The outcome of the `capture` call a saga makes. -/
def captureOutcome (s : Shared G) (pay : Payment) :
    Except PaymentTimeout AuthorizationResult × G :=
  PaymentGateway.capture s.gateway (pay.providerRef.getD "") (pay.idempotencyKey ++ ":cap")

/-- The shared state after the `capture` call a saga makes. -/
def Shared.captured (s : Shared G) (σ : Saga) (pay : Payment) : Shared G :=
  s.called (captureOutcome s pay).2
    (.capture σ.bookingId (pay.providerRef.getD "") (succeeded (captureOutcome s pay).1))

/-- The reversal a compensation asks for, and the call it makes. -/
def reverseOutcome (s : Shared G) (r : BookingRequest) (σ : Saga) (pay : Payment) :
    (Except ReversalError Unit × G) × GatewayCall :=
  reverseCharge (armed s.gateway r.payload.cardToken pay) σ pay

/-- The shared state after the reversal a compensation asks for. -/
def Shared.reversed (s : Shared G) (r : BookingRequest) (σ : Saga) (pay : Payment) : Shared G :=
  s.called (reverseOutcome s r σ pay).1.2 (reverseOutcome s r σ pay).2

/-- The payment row `create_booking` inserts. -/
def Shared.payment (env : Env) (s : Shared G) (r : BookingRequest) (σ : Saga) : Payment :=
  newPayment env σ s.uuid (PaymentGateway.name G) r.payload.cardToken r.key

/-- The rows are the audit rows, and on top of them rows of the booking that change no
state and journal no cancellation. -/
inductive Noted (b : BookingId) (audit : List BookingAudit) : List BookingAudit → Prop
  | refl : Noted b audit audit
  | note {db : Db} {e : AuditEventType} {d : List (String × JsonValue)}
      (h : Noted b audit db.audit) (he : e ≠ .bookingCancelled) :
      Noted b audit (db.note b e d).audit

theorem Payment.reversed_ne_cancelled (pay : Payment) : pay.reversed.2 ≠ .bookingCancelled := by
  unfold Payment.reversed
  split <;> simp

/-- Why the ticketing transaction rolls back: a constraint rejects a row, or the
audit number is taken. -/
inductive IssueFails (s : Shared G) (x : Draws) (σ : Saga) : Failure → Prop
  | tickets {assigned : List (BookingPassenger × SeatInstance)}
      (hassigned : σ.assigned = some assigned)
      (h : s.db.ticketsUnique
        (newTickets σ.bookingId s.uuid s.clock x.eTicketNo assigned) = false) :
      IssueFails s x σ (.integrityError .ticketUnique)
  | seats {assigned : List (BookingPassenger × SeatInstance)}
      (hassigned : σ.assigned = some assigned)
      (h : (s.db.flushSeats (ticketedSeats σ.bookingId assigned)).seatsChecked
        (assigned.map fun pi => pi.2.id) = false) :
      IssueFails s x σ (.integrityError .seatCheck)
  | illegal {e : Failure} (h : assertCanTransition σ.state .ticketed = some e) :
      IssueFails s x σ e
  | audit (h : x.seqTaken = true) : IssueFails s x σ (.integrityError .auditSeq)

/-- The transitions of a `create_booking` request of process `p`, drawing `x`,
from the shared state `s`. -/
inductive BookingStep (env : Env) (s : Shared G) (p : ℕ) (r : BookingRequest) (x : Draws) :
    BookingPc → Shared G → BookingPc → Prop
  | deletes {now : Time} {c : IdempotencyKey} (hc : s.db.claims r.claimKey = some c)
      (he : expiredClaim now c = true) (hf : s.claimFree p r.claimKey = true) :
      BookingStep env s p r x (.beginDelete now) (s.lockClaim p r.claimKey)
        (.beginInsert now true)
  | deletesNothing {now : Time}
      (hc : ∀ c, s.db.claims r.claimKey = some c → expiredClaim now c = false) :
      BookingStep env s p r x (.beginDelete now) s (.beginInsert now false)
  | inserts {now : Time} {deleted : Bool} (hf : s.claimFree p r.claimKey = true)
      (hc : deleted = true ∨ s.db.claims r.claimKey = none) :
      BookingStep env s p r x (.beginInsert now deleted) (s.lockClaim p r.claimKey)
        (.beginCommit now deleted true)
  | insertsNothing {now : Time} {c : IdempotencyKey} (hf : s.claimFree p r.claimKey = true)
      (hc : s.db.claims r.claimKey = some c) :
      BookingStep env s p r x (.beginInsert now false) s (.beginCommit now false false)
  | claims {now : Time} {deleted : Bool} :
      BookingStep env s p r x (.beginCommit now deleted true)
        (s.setClaim r.claimKey (some (newClaim env r.payload now))) .openBooking
  | clears {now : Time} :
      BookingStep env s p r x (.beginCommit now true false) (s.setClaim r.claimKey none)
        .beginSelect
  | yields {now : Time} :
      BookingStep env s p r x (.beginCommit now false false) s .beginSelect
  | replays {status : ℕ} {body : JsonValue}
      (h : resolveClaim (s.db.claims r.claimKey) (requestHash env r.payload) =
        .ok (status, body)) :
      BookingStep env s p r x .beginSelect s (.done (.json status body true) none)
  | rejects {e : AppError}
      (h : resolveClaim (s.db.claims r.claimKey) (requestHash env r.payload) = .error e) :
      BookingStep env s p r x .beginSelect s (.done (.problem e) none)
  | opens {seats : List SeatInstance} {flightId : FlightId} {flight : Flight} {ref : String}
      (hseats : lockSeatsForHolds s.db r.payload.holdIds r.userId = seats)
      (hf : s.seatsFree p (seats.map Orm.Instance.id) = true)
      (hlen : seats.length = r.payload.holdIds.length) (hlive : expiredSeats seats s.clock = [])
      (hids : (seats.map fun i => i.row.flightId).dedup = [flightId])
      (hflight : s.db.flight flightId = some flight) (hpnr : uniquePnr s.db x.pnr = some ref)
      (htotal : Numeric (seats.map fun i => i.row.price).sum) (href : x.refTaken = false) :
      BookingStep env s p r x .openBooking
        ((s.withDb (openedDb s.db (openedSaga r.payload seats s.uuid ref flightId flight) r.userId
          r.key s.clock seats)).drawUuids (1 + r.payload.passengers.length))
        (.assess (openedSaga r.payload seats s.uuid ref flightId flight))
  | opensNothing {e : Failure}
      (h : openBooking s.db s.clock s.uuid r.userId r.key r.payload x.pnr x.refTaken =
        .error e) :
      BookingStep env s p r x .openBooking s (raised e none)
  | blocks {σ : Saga} (h : x.assessment.decision = .block) :
      BookingStep env s p r x (.assess σ) s
        (.failSelect { σ with assessment := x.assessment } (blockedFailure x.assessment))
  | passes {σ : Saga} (h : x.assessment.decision ≠ .block) :
      BookingStep env s p r x (.assess σ) s (.createPayment { σ with assessment := x.assessment })
  | selectsFailed {σ : Saga} {f : PaymentFailure}
      (h : assertCanTransition σ.state .paymentFailed = none) (hw : f.Writable) :
      BookingStep env s p r x (.failSelect σ f) s (.failCommit σ f (failPaymentRows s.db σ))
  | selectIllegal {σ : Saga} {f : PaymentFailure} {e : Failure}
      (h : assertCanTransition σ.state .paymentFailed = some e) :
      BookingStep env s p r x (.failSelect σ f) s (raised e (some σ.bookingId))
  | selectRefused {σ : Saga} {f : PaymentFailure} (hw : ¬ f.Writable) :
      BookingStep env s p r x (.failSelect σ f) s (.release .dataError (some σ.bookingId))
  | fails {σ : Saga} {f : PaymentFailure} {rows : List SeatInstance}
      (hf : s.seatsFree p (rows.map Orm.Instance.id) = true)
      (h : (failedDb s.db σ f rows).seatsChecked (rows.map Orm.Instance.id) = true) :
      BookingStep env s p r x (.failCommit σ f rows) (s.withDb (failedDb s.db σ f rows))
        (.completeSelect (.appError f.error) (some σ.bookingId))
  | failRolledBack {σ : Saga} {f : PaymentFailure} {rows : List SeatInstance}
      (hf : s.seatsFree p (rows.map Orm.Instance.id) = true)
      (h : (failedDb s.db σ f rows).seatsChecked (rows.map Orm.Instance.id) = false) :
      BookingStep env s p r x (.failCommit σ f rows) s
        (.release (.integrityError .seatCheck) (some σ.bookingId))
  | createsPayment {σ : Saga} (h : (gatewayKey r.key).length ≤ idempotencyKeyWidth) :
      BookingStep env s p r x (.createPayment σ)
        ((s.withDb (insertPayment s.db (s.payment env r σ))).drawUuids 1)
        (.authorize σ (s.payment env r σ))
  | keyTooLong {σ : Saga} (h : idempotencyKeyWidth < (gatewayKey r.key).length) :
      BookingStep env s p r x (.createPayment σ) s (.release .dataError (some σ.bookingId))
  | authorizes {σ : Saga} {pay : Payment} {result : AuthorizationResult}
      (h : (authorizeOutcome s σ pay).1 = .ok result) :
      BookingStep env s p r x (.authorize σ pay) (s.authorized σ pay)
        (afterAuthorize σ pay result)
  | timesOut {σ : Saga} {pay : Payment} {e : PaymentTimeout}
      (h : (authorizeOutcome s σ pay).1 = .error e) :
      BookingStep env s p r x (.authorize σ pay) (s.authorized σ pay) (.journalUnknown σ pay)
  | journals {σ : Saga} {pay : Payment} :
      BookingStep env s p r x (.journalUnknown σ pay) (s.withDb (journalUnknown s.db σ pay))
        (.retryAuthorize σ pay.timedOut)
  | retries {σ : Saga} {pay : Payment} {result : AuthorizationResult}
      (h : (authorizeOutcome s σ pay).1 = .ok result) :
      BookingStep env s p r x (.retryAuthorize σ pay) (s.authorized σ pay)
        (afterAuthorize σ pay result)
  | timesOutAgain {σ : Saga} {pay : Payment} {e : PaymentTimeout}
      (h : (authorizeOutcome s σ pay).1 = .error e) :
      BookingStep env s p r x (.retryAuthorize σ pay) (s.authorized σ pay)
        (.release .paymentTimeout (some σ.bookingId))
  | recordsAuthorized {σ : Saga} {pay : Payment} {result : AuthorizationResult}
      (h : assertCanTransition σ.state .paymentAuthorized = none)
      (hw : Varchar 64 result.providerRef) :
      BookingStep env s p r x (.recordAuthorized σ pay result)
        (s.withDb (authorizedDb s.db σ pay result))
        (.issueTickets (σ.inState .paymentAuthorized) (pay.authorized result))
  | recordIllegal {σ : Saga} {pay : Payment} {result : AuthorizationResult} {e : Failure}
      (h : assertCanTransition σ.state .paymentAuthorized = some e) :
      BookingStep env s p r x (.recordAuthorized σ pay result) s (raised e (some σ.bookingId))
  | recordRefused {σ : Saga} {pay : Payment} {result : AuthorizationResult}
      (hw : ¬ Varchar 64 result.providerRef) :
      BookingStep env s p r x (.recordAuthorized σ pay result) s
        (.release .dataError (some σ.bookingId))
  | issues {σ : Saga} {pay : Payment} {assigned : List (BookingPassenger × SeatInstance)}
      {rows : List BookingAudit} (hf : s.seatsFree p (σ.seats.map Orm.Instance.id) = true)
      (hlost : σ.lost r.userId = []) (htrig : triggerFor r.payload.cardToken ≠ .ticketingFailure)
      (hassigned : σ.assigned = some assigned)
      (hunique : s.db.ticketsUnique
        (newTickets σ.bookingId s.uuid s.clock x.eTicketNo assigned) = true)
      (hchecked : (s.db.flushSeats (ticketedSeats σ.bookingId assigned)).seatsChecked
        (assigned.map fun pi => pi.2.id) = true)
      (ht : assertCanTransition σ.state .ticketed = none) (hseq : x.seqTaken = false)
      (hrows : Noted σ.bookingId s.db.audit rows) :
      BookingStep env s p r x (.issueTickets σ pay)
        ((s.withDb (issuedDb { s.db with audit := rows } σ
          (newTickets σ.bookingId s.uuid s.clock x.eTicketNo assigned) assigned)).drawUuids
            σ.passengers.length)
        (.capture (σ.afterIssue assigned) pay)
  | refuses {σ : Saga} {pay : Payment} {rows : List BookingAudit} {reason : String}
      (hf : s.seatsFree p (σ.seats.map Orm.Instance.id) = true)
      (h : σ.lost r.userId ≠ [] ∨ triggerFor r.payload.cardToken = .ticketingFailure ∨
        σ.assigned = none)
      (ht : assertCanTransition σ.state .compensating = none)
      (hrows : Noted σ.bookingId s.db.audit rows) :
      BookingStep env s p r x (.issueTickets σ pay)
        (s.withDb (compensatingDb { s.db with audit := rows } σ pay reason))
        (.reverse (σ.inState .compensating) pay reason)
  | refuseIllegal {σ : Saga} {pay : Payment} {e : Failure}
      (h : σ.lost r.userId ≠ [] ∨ triggerFor r.payload.cardToken = .ticketingFailure ∨
        σ.assigned = none)
      (ht : assertCanTransition σ.state .compensating = some e) :
      BookingStep env s p r x (.issueTickets σ pay) s (raised e (some σ.bookingId))
  | issueRolledBack {σ : Saga} {pay : Payment} {e : Failure}
      (hf : s.seatsFree p (σ.seats.map Orm.Instance.id) = true)
      (hlost : σ.lost r.userId = []) (htrig : triggerFor r.payload.cardToken ≠ .ticketingFailure)
      (h : IssueFails s x σ e) :
      BookingStep env s p r x (.issueTickets σ pay) s (raised e (some σ.bookingId))
  | reverses {σ : Saga} {pay : Payment} {reason : String}
      (h : (reverseOutcome s r σ pay).1.1 = .ok ()) :
      BookingStep env s p r x (.reverse σ pay reason) (s.reversed r σ pay)
        (.finishVoided σ pay reason)
  | reverseFails {σ : Saga} {pay : Payment} {reason : String} {e : ReversalError}
      (h : (reverseOutcome s r σ pay).1.1 = .error e) :
      BookingStep env s p r x (.reverse σ pay reason) (s.reversed r σ pay)
        (.finishReview σ pay reason e.message)
  | voids {σ : Saga} {pay : Payment} {reason : String}
      (hf : s.seatsFree p (s.db.seatsOf σ.bookingId) = true)
      (h : assertCanTransition σ.state .voided = none) :
      BookingStep env s p r x (.finishVoided σ pay reason)
        (s.withDb (voidedDb s.db σ pay s.clock))
        (.completeSelect (.appError (compensatedError reason)) (some σ.bookingId))
  | voidIllegal {σ : Saga} {pay : Payment} {reason : String} {e : Failure}
      (h : assertCanTransition σ.state .voided = some e) :
      BookingStep env s p r x (.finishVoided σ pay reason) s (raised e (some σ.bookingId))
  | flags {σ : Saga} {pay : Payment} {reason error : String}
      (hf : s.seatsFree p (s.db.seatsOf σ.bookingId) = true) :
      BookingStep env s p r x (.finishReview σ pay reason error)
        (s.withDb (finishReview s.db σ pay error s.clock))
        (.completeSelect (.appError (compensatedError reason)) (some σ.bookingId))
  | captures {σ : Saga} {pay : Payment} {result : AuthorizationResult}
      (h : (captureOutcome s pay).1 = .ok result) :
      BookingStep env s p r x (.capture σ pay) (s.captured σ pay) (.confirm σ pay)
  | captureFails {σ : Saga} {pay : Payment} {e : PaymentTimeout}
      (h : (captureOutcome s pay).1 = .error e) :
      BookingStep env s p r x (.capture σ pay) (s.captured σ pay)
        (.release .paymentTimeout (some σ.bookingId))
  | confirms {σ : Saga} {pay : Payment} (h : assertCanTransition σ.state .confirmed = none)
      (hseq : x.seqTaken = false) :
      BookingStep env s p r x (.confirm σ pay) (s.withDb (confirmedDb s.db σ pay))
        (.refresh (σ.inState .confirmed))
  | confirmIllegal {σ : Saga} {pay : Payment} {e : Failure}
      (h : assertCanTransition σ.state .confirmed = some e) :
      BookingStep env s p r x (.confirm σ pay) s (raised e (some σ.bookingId))
  | confirmRolledBack {σ : Saga} {pay : Payment} (hseq : x.seqTaken = true) :
      BookingStep env s p r x (.confirm σ pay) s
        (.release (.integrityError .auditSeq) (some σ.bookingId))
  | refreshes {σ : Saga} {row : Booking} (h : s.db.booking σ.bookingId = some row) :
      BookingStep env s p r x (.refresh σ) s
        (.completeSelect (.returned 201 (bookingPayload s.db σ row)) (some σ.bookingId))
  | finds {o : Outcome} {b : Option BookingId} {c : IdempotencyKey}
      (hc : s.db.claims r.claimKey = some c) :
      BookingStep env s p r x (.completeSelect o b) s (.completeCommit o b)
  | findsNothing {o : Outcome} {b : Option BookingId} (hc : s.db.claims r.claimKey = none) :
      BookingStep env s p r x (.completeSelect o b) s (.done o.reply b)
  | completes {o : Outcome} {b : Option BookingId} {c : IdempotencyKey}
      (hf : s.claimFree p r.claimKey = true) (hc : s.db.claims r.claimKey = some c) :
      BookingStep env s p r x (.completeCommit o b)
        (s.setClaim r.claimKey (some (completedClaim c o.recorded.1 o.recorded.2)))
        (.done o.reply b)
  | completesNothing {o : Outcome} {b : Option BookingId} (hc : s.db.claims r.claimKey = none) :
      BookingStep env s p r x (.completeCommit o b) s
        (.done (.serverError (.runtimeError "stale claim")) b)
  | releases {e : Failure} {b : Option BookingId} (hf : s.claimFree p r.claimKey = true) :
      BookingStep env s p r x (.release e b) (s.setClaim r.claimKey none)
        (.done (.serverError e) b)

variable {env : Env} {s s' : Shared G} {p : ℕ}

/-! ### What each transaction asks for -/

/-- Step 1 commits only when every hold is live, on one flight. -/
theorem openBooking_eq_ok {db db' : Db} {now : Time} {uuid : ℕ} {userId : UserId} {key : String}
    {payload : BookingCreate} {pnr : ℕ → String} {refTaken : Bool} {σ : Saga}
    (h : openBooking db now uuid userId key payload pnr refTaken = .ok (db', σ)) :
    (lockSeatsForHolds db payload.holdIds userId).length = payload.holdIds.length ∧
      expiredSeats (lockSeatsForHolds db payload.holdIds userId) now = [] ∧
      ∃ flightId flight ref,
        ((lockSeatsForHolds db payload.holdIds userId).map fun i => i.row.flightId).dedup =
          [flightId] ∧
        db.flight flightId = some flight ∧ uniquePnr db pnr = some ref ∧
        Numeric ((lockSeatsForHolds db payload.holdIds userId).map fun i => i.row.price).sum ∧
        refTaken = false ∧
        db' = openedDb db (openedSaga payload (lockSeatsForHolds db payload.holdIds userId) uuid
          ref flightId flight) userId key now (lockSeatsForHolds db payload.holdIds userId) ∧
        σ = openedSaga payload (lockSeatsForHolds db payload.holdIds userId) uuid ref flightId
          flight := by
  simp only [openBooking] at h
  split at h
  · exact absurd h (by simp)
  · next hlen =>
    split at h
    · exact absurd h (by simp)
    · next hlive =>
      split at h
      · next flightId hids =>
        split at h
        · exact absurd h (by simp)
        · next flight hflight =>
          split at h
          · exact absurd h (by simp)
          · next ref hpnr =>
            split at h
            · exact absurd h (by simp)
            · next htotal =>
              split at h
              · exact absurd h (by simp)
              · next href =>
                simp only [Except.ok.injEq, Prod.mk.injEq] at h
                exact ⟨not_not.mp hlen, not_not.mp hlive, flightId, flight, ref, hids, hflight,
                  hpnr, not_not.mp htotal, by simpa using href, h.1.symm, h.2.symm⟩
      · exact absurd h (by simp)

/-- Why step 1 commits nothing: a check rejects the holds, the candidates are all in use, the
total is out of range, or somebody else has committed the reference. -/
inductive OpenFails (db : Db) (seats : List SeatInstance) (now : Time) (payload : BookingCreate)
    (pnr : ℕ → String) (refTaken : Bool) : Failure → Prop
  | check {e : AppError} (h : e.statusCode = 404 ∨ e.statusCode = 409) :
      OpenFails db seats now payload pnr refTaken (.app e)
  | noReference {message : String} (h : uniquePnr db pnr = none) :
      OpenFails db seats now payload pnr refTaken (.runtimeError message)
  | total {flightId : FlightId} {flight : Flight} {ref : String}
      (hlen : seats.length = payload.holdIds.length) (hlive : expiredSeats seats now = [])
      (hids : (seats.map fun i => i.row.flightId).dedup = [flightId])
      (hflight : db.flight flightId = some flight) (hpnr : uniquePnr db pnr = some ref)
      (h : ¬ Numeric (seats.map fun i => i.row.price).sum) :
      OpenFails db seats now payload pnr refTaken .dataError
  | taken (h : refTaken = true) :
      OpenFails db seats now payload pnr refTaken (.integrityError .bookingRef)

/-- Step 1 fails for one of these reasons. -/
theorem openBooking_eq_error {db : Db} {now : Time} {uuid : ℕ} {userId : UserId} {key : String}
    {payload : BookingCreate} {pnr : ℕ → String} {refTaken : Bool} {e : Failure}
    (h : openBooking db now uuid userId key payload pnr refTaken = .error e) :
    OpenFails db (lockSeatsForHolds db payload.holdIds userId) now payload pnr refTaken e := by
  simp only [openBooking] at h
  split at h
  · obtain rfl := Except.error.inj h
    exact .check (.inl rfl)
  next hlen =>
  split at h
  · obtain rfl := Except.error.inj h
    exact .check (.inr rfl)
  next hlive =>
  split at h
  · next flightId hids =>
    split at h
    · obtain rfl := Except.error.inj h
      exact .check (.inl rfl)
    next flight hflight =>
    split at h
    · next hpnr =>
      obtain rfl := Except.error.inj h
      exact .noReference hpnr
    next ref hpnr =>
    split at h
    · next htotal =>
      obtain rfl := Except.error.inj h
      exact .total (not_not.mp hlen) (not_not.mp hlive) hids hflight hpnr htotal
    split at h
    · next href =>
      obtain rfl := Except.error.inj h
      exact .taken href
    · exact absurd h (by simp)
  · obtain rfl := Except.error.inj h
    exact .check (.inr rfl)

theorem Noted.trans {b : BookingId} {audit rows rows' : List BookingAudit}
    (h : Noted b audit rows) (h' : Noted b rows rows') : Noted b audit rows' := by
  induction h' with
  | refl => exact h
  | note _ he ih => exact .note ih he

/-- The re-verification writes audit rows and nothing else. -/
theorem noteLapsed_eq (db : Db) (σ : Saga) (userId : UserId) (now : Time) :
    ∃ rows, noteLapsed db σ userId now = { db with audit := rows } ∧
      Noted σ.bookingId db.audit rows := by
  unfold noteLapsed
  generalize (σ.locked.filter fun i =>
    σ.stillOurs userId i.row && decide (secondsLeft i.row now ≤ 0)) = lapsed
  induction lapsed generalizing db with
  | nil => exact ⟨db.audit, rfl, .refl⟩
  | cons i lapsed ih =>
    obtain ⟨rows, h, hnoted⟩ := ih (db.note σ.bookingId .holdLost
      [("seat_no", .str i.row.seatNo),
        ("note", .str "hold expired during payment but seat was still free; reclaimed")])
    refine ⟨rows, ?_, Noted.trans (.note .refl (by decide)) hnoted⟩
    rw [List.foldl_cons, h]
    rfl

/-- What decides how ticketing ends, whatever audit rows are pending. -/
theorem issueAssigned_eq (db : Db) (rows : List BookingAudit) (now : Time) (uuid : ℕ) (σ : Saga)
    (eTicketNo : ℕ → String) (seqTaken : Bool)
    (assigned : List (BookingPassenger × SeatInstance)) :
    issueAssigned { db with audit := rows } now uuid σ eTicketNo seqTaken assigned =
      match db.ticketsUnique (newTickets σ.bookingId uuid now eTicketNo assigned),
        (db.flushSeats (ticketedSeats σ.bookingId assigned)).seatsChecked
          (assigned.map fun pi => pi.2.id),
        assertCanTransition σ.state .ticketed, seqTaken with
      | false, _, _, _ => .raised (.integrityError .ticketUnique)
      | true, false, _, _ => .raised (.integrityError .seatCheck)
      | true, true, some x, _ => .raised x
      | true, true, none, true => .raised (.integrityError .auditSeq)
      | true, true, none, false =>
        .issued (issuedDb { db with audit := rows } σ
          (newTickets σ.bookingId uuid now eTicketNo assigned) assigned) (σ.afterIssue assigned) := by
  have hunique : Db.ticketsUnique { db with audit := rows }
      (newTickets σ.bookingId uuid now eTicketNo assigned) =
        db.ticketsUnique (newTickets σ.bookingId uuid now eTicketNo assigned) := rfl
  have hchecked : (issuedDb { db with audit := rows } σ
      (newTickets σ.bookingId uuid now eTicketNo assigned) assigned).seatsChecked
        (assigned.map fun pi => pi.2.id) =
      (db.flushSeats (ticketedSeats σ.bookingId assigned)).seatsChecked
        (assigned.map fun pi => pi.2.id) := rfl
  simp only [issueAssigned, hunique, hchecked]
  generalize db.ticketsUnique (newTickets σ.bookingId uuid now eTicketNo assigned) = unique
  generalize (db.flushSeats (ticketedSeats σ.bookingId assigned)).seatsChecked
    (assigned.map fun pi => pi.2.id) = checked
  generalize assertCanTransition σ.state .ticketed = illegal
  cases unique <;> cases checked <;> cases illegal <;> cases seqTaken <;> rfl

/-- Ticketing commits only past the re-verification and every constraint. -/
theorem issueTickets_eq_issued {db db' : Db} {now : Time} {uuid : ℕ} {σ σ' : Saga}
    {userId : UserId} {cardToken : String} {eTicketNo : ℕ → String} {seqTaken : Bool}
    (h : issueTickets db now uuid σ userId cardToken eTicketNo seqTaken = .issued db' σ') :
    σ.lost userId = [] ∧ triggerFor cardToken ≠ .ticketingFailure ∧
      ∃ assigned rows, σ.assigned = some assigned ∧
        db.ticketsUnique (newTickets σ.bookingId uuid now eTicketNo assigned) = true ∧
        (db.flushSeats (ticketedSeats σ.bookingId assigned)).seatsChecked
          (assigned.map fun pi => pi.2.id) = true ∧
        assertCanTransition σ.state .ticketed = none ∧ seqTaken = false ∧
        db' = issuedDb { db with audit := rows } σ
          (newTickets σ.bookingId uuid now eTicketNo assigned) assigned ∧
        σ' = σ.afterIssue assigned ∧ Noted σ.bookingId db.audit rows := by
  obtain ⟨rows, hrows, hnoted⟩ := noteLapsed_eq db σ userId now
  simp only [issueTickets, hrows] at h
  split at h
  · exact absurd h (by simp)
  · next hlost =>
    split at h
    · exact absurd h (by simp)
    · next htrig =>
      split at h
      · exact absurd h (by simp)
      · next assigned hassigned =>
        rw [issueAssigned_eq] at h
        split at h <;> simp only [Issue.issued.injEq, reduceCtorEq] at h
        next hunique hchecked ht =>
        exact ⟨not_not.mp hlost, htrig, assigned, rows, hassigned, hunique, hchecked, ht, rfl,
          h.1.symm, h.2.symm, hnoted⟩

/-- Ticketing refuses for one of three reasons, with audit rows pending. -/
theorem issueTickets_eq_refused {db db' : Db} {now : Time} {uuid : ℕ} {σ : Saga}
    {userId : UserId} {cardToken reason : String} {eTicketNo : ℕ → String} {seqTaken : Bool}
    (h : issueTickets db now uuid σ userId cardToken eTicketNo seqTaken = .refused db' reason) :
    (σ.lost userId ≠ [] ∨ triggerFor cardToken = .ticketingFailure ∨ σ.assigned = none) ∧
      ∃ rows, db' = { db with audit := rows } ∧ Noted σ.bookingId db.audit rows := by
  obtain ⟨rows, hrows, hnoted⟩ := noteLapsed_eq db σ userId now
  simp only [issueTickets, hrows] at h
  split at h
  · next hlost =>
    simp only [Issue.refused.injEq] at h
    exact ⟨.inl hlost, _, h.1.symm, .note hnoted (by decide)⟩
  · split at h
    · next htrig =>
      simp only [Issue.refused.injEq] at h
      exact ⟨.inr (.inl htrig), _, h.1.symm, .note hnoted (by decide)⟩
    · split at h
      · next hassigned =>
        simp only [Issue.refused.injEq] at h
        exact ⟨.inr (.inr hassigned), _, h.1.symm, hnoted⟩
      · rw [issueAssigned_eq] at h
        split at h <;> exact absurd h (by simp)

omit [PaymentGateway G] in
/-- Ticketing raises anything else only where a constraint or the state machine
stops it. -/
theorem issueTickets_eq_raised {x : Draws} {σ : Saga} {userId : UserId} {cardToken : String}
    {e : Failure}
    (h : issueTickets s.db s.clock s.uuid σ userId cardToken x.eTicketNo x.seqTaken = .raised e) :
    σ.lost userId = [] ∧ triggerFor cardToken ≠ .ticketingFailure ∧ IssueFails s x σ e := by
  obtain ⟨rows, hrows, -⟩ := noteLapsed_eq s.db σ userId s.clock
  simp only [issueTickets, hrows] at h
  split at h
  · exact absurd h (by simp)
  · next hlost =>
    split at h
    · exact absurd h (by simp)
    · next htrig =>
      refine ⟨not_not.mp hlost, htrig, ?_⟩
      split at h
      · exact absurd h (by simp)
      · next assigned hassigned =>
        rw [issueAssigned_eq] at h
        split at h <;> simp only [Issue.raised.injEq, reduceCtorEq] at h <;> subst h
        · next hunique => exact .tickets hassigned hunique
        · next hchecked => exact .seats hassigned hchecked
        · next ht => exact .illegal ht
        · next hseq => exact .audit hseq

/-- A hold is granted on the seat the conditional UPDATE matches. -/
theorem acquireHold_eq_ok {env : Env} {db db' : Db} {userId : UserId} {flightId : FlightId}
    {seatNo : String} {now : Time} {holdId : HoldId} {k : SeatId}
    (h : acquireHold env db userId flightId seatNo now holdId = .ok (db', k)) :
    takeableSeat db flightId seatNo now = some k ∧
      db' = acquiredDb env db userId now holdId k := by
  unfold acquireHold at h
  split at h
  · next hk =>
    simp only [Except.ok.injEq, Prod.mk.injEq] at h
    obtain ⟨rfl, rfl⟩ := h
    exact ⟨hk, rfl⟩
  · split at h <;> exact absurd h (by simp)

/-! ### The step functions -/

theorem bookingStep_of_begin {r : BookingRequest} {x : Draws} {pc pc' : BookingPc}
    (h : stepBegin env s p r pc = some (s', pc')) : BookingStep env s p r x pc s' pc' := by
  cases pc <;> simp only [stepBegin, reduceCtorEq] at h
  case beginDelete now =>
    cases hc : s.db.claims r.claimKey with
    | none =>
      obtain ⟨rfl, rfl⟩ : s = s' ∧ .beginInsert now false = pc' := by simpa [hc] using h
      exact .deletesNothing (by simp [hc])
    | some c =>
      simp only [hc] at h
      split at h
      · next he =>
        split at h
        · next hf =>
          obtain ⟨rfl, rfl⟩ : s.lockClaim p r.claimKey = s' ∧ .beginInsert now true = pc' := by
            simpa using h
          exact .deletes hc he hf
        · exact absurd h (by simp)
      · next he =>
        obtain ⟨rfl, rfl⟩ : s = s' ∧ .beginInsert now false = pc' := by simpa using h
        exact .deletesNothing (by simpa [hc] using he)
  case beginInsert now deleted =>
    split at h
    · next hf =>
      split at h
      · next hc =>
        obtain ⟨rfl, rfl⟩ : s.lockClaim p r.claimKey = s' ∧ .beginCommit now deleted true = pc' := by
          simpa using h
        exact .inserts hf (by simpa using hc)
      · next hc =>
        obtain ⟨rfl, rfl⟩ : s = s' ∧ .beginCommit now deleted false = pc' := by simpa using h
        simp only [Bool.or_eq_true, not_or, Bool.not_eq_true, Option.isNone_eq_false_iff,
          Option.isSome_iff_exists] at hc
        obtain ⟨rfl, c, hc⟩ := hc
        exact .insertsNothing hf hc
    · exact absurd h (by simp)
  case beginCommit now deleted claimed =>
    cases claimed <;> cases deleted <;>
      simp only [if_true, Bool.false_eq_true, if_false, Option.some.injEq, Prod.mk.injEq] at h <;>
      obtain ⟨rfl, rfl⟩ := h
    · exact .yields
    · exact .clears
    · exact .claims
    · exact .claims
  case beginSelect =>
    split at h <;> simp only [Option.some.injEq, Prod.mk.injEq] at h <;> obtain ⟨rfl, rfl⟩ := h
    · next hr => exact .replays hr
    · next hr => exact .rejects hr

theorem bookingStep_of_open {r : BookingRequest} {x : Draws} {pc pc' : BookingPc}
    (h : stepOpen s p r x pc = some (s', pc')) : BookingStep env s p r x pc s' pc' := by
  cases pc <;> simp only [stepOpen, reduceCtorEq] at h
  case openBooking =>
    split at h
    · next hf =>
      split at h <;> simp only [Option.some.injEq, Prod.mk.injEq] at h <;> obtain ⟨rfl, rfl⟩ := h
      · next ho =>
        obtain ⟨hlen, hlive, flightId, flight, ref, hids, hflight, hpnr, htotal, href, rfl, rfl⟩ :=
          openBooking_eq_ok ho
        exact .opens rfl hf hlen hlive hids hflight hpnr htotal href
      · next ho => exact .opensNothing ho
    · exact absurd h (by simp)
  case assess σ =>
    split at h <;> simp only [Option.some.injEq, Prod.mk.injEq] at h <;> obtain ⟨rfl, rfl⟩ := h
    · next hb => exact .blocks hb
    · next hb => exact .passes hb
  case failSelect σ f =>
    cases ht : assertCanTransition σ.state .paymentFailed with
    | some e =>
      simp only [startFailure, ht, Option.some.injEq, Prod.mk.injEq] at h
      obtain ⟨rfl, rfl⟩ := h
      exact .selectIllegal ht
    | none =>
      by_cases hw : f.Writable <;>
        simp only [startFailure, ht, hw, if_true, if_false, raised, Option.some.injEq,
          Prod.mk.injEq] at h <;> obtain ⟨rfl, rfl⟩ := h
      · exact .selectsFailed ht hw
      · exact .selectRefused hw
  case failCommit σ f rows =>
    split at h
    · next hf =>
      cases hc : (failedDb s.db σ f rows).seatsChecked (rows.map Orm.Instance.id) <;>
        simp only [failPayment, hc, if_true, Bool.false_eq_true, if_false, raised,
          Option.some.injEq, Prod.mk.injEq] at h <;> obtain ⟨rfl, rfl⟩ := h
      · exact .failRolledBack hf hc
      · exact .fails hf hc
    · exact absurd h (by simp)

theorem bookingStep_of_charge {r : BookingRequest} {x : Draws} {pc pc' : BookingPc}
    (h : stepCharge env s r pc = some (s', pc')) : BookingStep env s p r x pc s' pc' := by
  cases pc <;> simp only [stepCharge, reduceCtorEq] at h
  case createPayment σ =>
    by_cases hw : idempotencyKeyWidth < (gatewayKey r.key).length
    · obtain ⟨rfl, rfl⟩ : s = s' ∧ .release .dataError (some σ.bookingId) = pc' := by
        simpa [createPayment, newPayment, hw, raised] using h
      exact .keyTooLong hw
    · simp only [createPayment, newPayment, hw, if_false, Option.some.injEq, Prod.mk.injEq] at h
      obtain ⟨rfl, rfl⟩ := h
      exact .createsPayment (not_lt.mp hw)
  case authorize σ pay =>
    split at h <;> simp only [Option.some.injEq, Prod.mk.injEq] at h <;> obtain ⟨rfl, rfl⟩ := h
    · next ha => exact .authorizes ha
    · next ha => exact .timesOut ha
  case journalUnknown σ pay =>
    simp only [Option.some.injEq, Prod.mk.injEq] at h
    obtain ⟨rfl, rfl⟩ := h
    exact .journals
  case retryAuthorize σ pay =>
    split at h <;> simp only [Option.some.injEq, Prod.mk.injEq] at h <;> obtain ⟨rfl, rfl⟩ := h
    · next ha => exact .retries ha
    · next ha => exact .timesOutAgain ha
  case recordAuthorized σ pay result =>
    cases ha : assertCanTransition σ.state .paymentAuthorized with
    | some e =>
      simp only [recordAuthorized, ha, Option.some.injEq, Prod.mk.injEq] at h
      obtain ⟨rfl, rfl⟩ := h
      exact .recordIllegal ha
    | none =>
      by_cases hw : Varchar 64 result.providerRef <;>
        simp only [recordAuthorized, ha, hw, not_true_eq_false, not_false_eq_true, if_true,
          if_false, raised, Option.some.injEq, Prod.mk.injEq] at h <;> obtain ⟨rfl, rfl⟩ := h
      · exact .recordsAuthorized ha hw
      · exact .recordRefused hw

theorem bookingStep_of_issue {r : BookingRequest} {x : Draws} {pc pc' : BookingPc}
    (h : stepIssue s p r x pc = some (s', pc')) : BookingStep env s p r x pc s' pc' := by
  cases pc <;> simp only [stepIssue, reduceCtorEq] at h
  case issueTickets σ pay =>
    split at h
    · next hf =>
      split at h
      · next hi =>
        simp only [Option.some.injEq, Prod.mk.injEq] at h
        obtain ⟨rfl, rfl⟩ := h
        obtain ⟨hlost, htrig, assigned, rows, hassigned, hunique, hchecked, ht, hseq, rfl, rfl,
            hrows⟩ := issueTickets_eq_issued hi
        exact .issues hf hlost htrig hassigned hunique hchecked ht hseq hrows
      · next hi =>
        obtain ⟨hr, rows, rfl, hrows⟩ := issueTickets_eq_refused hi
        cases ht : assertCanTransition σ.state .compensating <;>
          simp only [startCompensation, ht, Option.some.injEq, Prod.mk.injEq] at h <;>
          obtain ⟨rfl, rfl⟩ := h
        · exact .refuses hf hr ht hrows
        · exact .refuseIllegal hr ht
      · next hi =>
        simp only [Option.some.injEq, Prod.mk.injEq] at h
        obtain ⟨rfl, rfl⟩ := h
        obtain ⟨hlost, htrig, hfail⟩ := issueTickets_eq_raised hi
        exact .issueRolledBack hf hlost htrig hfail
    · exact absurd h (by simp)

theorem bookingStep_of_compensate {r : BookingRequest} {x : Draws} {pc pc' : BookingPc}
    (h : stepCompensate s p r pc = some (s', pc')) : BookingStep env s p r x pc s' pc' := by
  cases pc <;> simp only [stepCompensate, reduceCtorEq] at h
  case reverse σ pay reason =>
    split at h <;> simp only [Option.some.injEq, Prod.mk.injEq] at h <;> obtain ⟨rfl, rfl⟩ := h
    · next hr => exact .reverses hr
    · next hr => exact .reverseFails hr
  case finishVoided σ pay reason =>
    split at h
    · next hf =>
      cases hv : assertCanTransition σ.state .voided <;>
        simp only [finishVoided, hv, Option.some.injEq, Prod.mk.injEq] at h <;>
        obtain ⟨rfl, rfl⟩ := h
      · exact .voids hf hv
      · exact .voidIllegal hv
    · exact absurd h (by simp)
  case finishReview σ pay reason error =>
    split at h
    · next hf =>
      simp only [Option.some.injEq, Prod.mk.injEq] at h
      obtain ⟨rfl, rfl⟩ := h
      exact .flags hf
    · exact absurd h (by simp)

theorem bookingStep_of_confirm {r : BookingRequest} {x : Draws} {pc pc' : BookingPc}
    (h : stepConfirm s x pc = some (s', pc')) : BookingStep env s p r x pc s' pc' := by
  cases pc <;> simp only [stepConfirm, reduceCtorEq] at h
  case capture σ pay =>
    split at h <;> simp only [Option.some.injEq, Prod.mk.injEq] at h <;> obtain ⟨rfl, rfl⟩ := h
    · next hc => exact .captures hc
    · next hc => exact .captureFails hc
  case confirm σ pay =>
    cases ht : assertCanTransition σ.state .confirmed <;> cases hseq : x.seqTaken <;>
      simp only [confirm, ht, hseq, Bool.false_eq_true, if_true, if_false, raised,
        Option.some.injEq, Prod.mk.injEq] at h <;> obtain ⟨rfl, rfl⟩ := h
    · exact .confirms ht hseq
    · exact .confirmRolledBack hseq
    · exact .confirmIllegal ht
    · exact .confirmIllegal ht
  case refresh σ =>
    split at h
    · next hb =>
      simp only [Option.some.injEq, Prod.mk.injEq] at h
      obtain ⟨rfl, rfl⟩ := h
      exact .refreshes hb
    · exact absurd h (by simp)

theorem bookingStep_of_complete {r : BookingRequest} {x : Draws} {pc pc' : BookingPc}
    (h : stepComplete s p r pc = some (s', pc')) : BookingStep env s p r x pc s' pc' := by
  cases pc <;> simp only [stepComplete, reduceCtorEq] at h
  case completeSelect o b =>
    split at h <;> simp only [Option.some.injEq, Prod.mk.injEq] at h <;> obtain ⟨rfl, rfl⟩ := h
    · next hc => exact .finds hc
    · next hc => exact .findsNothing hc
  case completeCommit o b =>
    split at h
    · next hf =>
      split at h <;> simp only [Option.some.injEq, Prod.mk.injEq] at h <;> obtain ⟨rfl, rfl⟩ := h
      · next hc => exact .completes hf hc
      · next hc => exact .completesNothing hc
    · exact absurd h (by simp)
  case release e b =>
    split at h
    · next hf =>
      simp only [Option.some.injEq, Prod.mk.injEq] at h
      obtain ⟨rfl, rfl⟩ := h
      exact .releases hf
    · exact absurd h (by simp)

/-- **A `create_booking` request takes only these transitions.** -/
theorem bookingStep_of {r : BookingRequest} {x : Draws} {pc pc' : BookingPc}
    (h : stepBooking env s p r x pc = some (s', pc')) : BookingStep env s p r x pc s' pc' := by
  cases pc
  case beginDelete | beginInsert | beginCommit | beginSelect => exact bookingStep_of_begin h
  case openBooking | assess | failSelect | failCommit => exact bookingStep_of_open h
  case createPayment | authorize | journalUnknown | retryAuthorize | recordAuthorized =>
    exact bookingStep_of_charge h
  case issueTickets => exact bookingStep_of_issue h
  case reverse | finishVoided | finishReview => exact bookingStep_of_compensate h
  case capture | confirm | refresh => exact bookingStep_of_confirm h
  case completeSelect | completeCommit | release => exact bookingStep_of_complete h
  case done => exact absurd h (by simp [stepBooking])

/-! ### The other requests -/

/-- The transitions of a `create_hold` request. -/
inductive HoldStep (env : Env) (s : Shared G) (p : ℕ) (r : HoldRequest) :
    HoldPc → Shared G → HoldPc → Prop
  | capped {now : Time} {e : AppError}
      (h : holdCap env (countActiveHolds s.db r.userId now) = some e) :
      HoldStep env s p r (.count now) s (.refused e)
  | counts {now : Time} (h : holdCap env (countActiveHolds s.db r.userId now) = none) :
      HoldStep env s p r (.count now) s (.update now)
  | acquires {now : Time} {k : SeatId} (hf : s.seatsFree p [k] = true)
      (h : takeableSeat s.db r.flightId r.seatNo now = some k) :
      HoldStep env s p r (.update now)
        ((s.withDb (acquiredDb env s.db r.userId now s.uuid k)).drawUuids 1) (.refresh k)
  | acquiresNothing {now : Time} {e : AppError}
      (h : acquireHold env s.db r.userId r.flightId r.seatNo now s.uuid = .error e) :
      HoldStep env s p r (.update now) s (.refused e)
  | refreshes {k : SeatId} : HoldStep env s p r (.refresh k) s (.granted k (s.db.seat k))

/-- The transitions of a `release_hold` request. -/
inductive ReleaseStep (s : Shared G) (p : ℕ) (r : ReleaseRequest) :
    ReleasePc → Shared G → ReleasePc → Prop
  | loadsNothing {e : AppError} (h : ownedHold s.db r.holdId r.userId = none) :
      ReleaseStep s p r .load s (.done (.problem e))
  | loads {k : SeatId} (h : ownedHold s.db r.holdId r.userId = some k) :
      ReleaseStep s p r .load s .update
  | releases {reply : Reply}
      (hf : s.seatsFree p
        (s.db.seatIds.filter fun k => releasable r.holdId r.userId (s.db.seat k)) = true) :
      ReleaseStep s p r .update (s.withDb (releaseHold s.db r.holdId r.userId).1) (.done reply)

/-- The outcome of the `refund` call a cancellation makes. -/
def refundOutcome (s : Shared G) (pay : Payment) : Except ReversalError Unit × G :=
  PaymentGateway.refund s.gateway (pay.providerRef.getD "") pay.amount
    (pay.idempotencyKey ++ ":cancel-refund")

/-- The shared state after the `refund` call a cancellation makes. -/
def Shared.refunded (s : Shared G) (b : BookingId) (pay : Payment) : Shared G :=
  s.called (refundOutcome s pay).2
    (.refund b (pay.providerRef.getD "") pay.amount (succeeded (refundOutcome s pay).1))

/-- Where a cancellation goes once it holds the seat locks. -/
def afterLock (b : BookingId) (state : BookingState) : Option Payment → CancelPc
  | some pay => .refund b state pay
  | none => .finish b state none

/-- The transitions of a `cancel_booking` request. -/
inductive CancelStep (s : Shared G) (p : ℕ) (r : CancelRequest) (x : Draws) :
    CancelPc → Shared G → CancelPc → Prop
  | findsNothing (h : ownedBooking s.db r.ref r.userId = none) :
      CancelStep s p r x .load s (.done (.problem (.notFound "No such booking")))
  | refuses {b : BookingId} {row : Booking} {e : AppError}
      (h : ownedBooking s.db r.ref r.userId = some (b, row))
      (h' : requireState row.state [.confirmed, .ticketed] = some e) :
      CancelStep s p r x .load s (.done (.problem e))
  | accepts {b : BookingId} {row : Booking}
      (h : ownedBooking s.db r.ref r.userId = some (b, row))
      (h' : requireState row.state [.confirmed, .ticketed] = none) :
      CancelStep s p r x .load s (.selectPayment b row.state)
  | selects {b : BookingId} {state : BookingState} :
      CancelStep s p r x (.selectPayment b state) s (.lockSeats b state (findPayment s.db b))
  | locks {b : BookingId} {state : BookingState} {pay : Option Payment}
      (hf : s.seatsFree p (s.db.seatsOf b) = true) :
      CancelStep s p r x (.lockSeats b state pay) (s.lockSeatsOf p b) (afterLock b state pay)
  | refunds {b : BookingId} {state : BookingState} {pay : Payment}
      (h : (refundOutcome s pay).1 = .ok ()) :
      CancelStep s p r x (.refund b state pay) (s.refunded b pay) (.finish b state (some pay))
  | refundFails {b : BookingId} {state : BookingState} {pay : Payment} {e : ReversalError}
      (h : (refundOutcome s pay).1 = .error e) :
      CancelStep s p r x (.refund b state pay) (s.refunded b pay) (.review b state e.message)
  | finishes {b : BookingId} {state : BookingState} {refunded : Option Payment}
      (h : assertCanTransition state .cancelled = none) (hseq : x.seqTaken = false) :
      CancelStep s p r x (.finish b state refunded)
        ((s.withDb (cancelledDb s.db b state r.userId refunded s.clock)).unlockSeats p)
        (.done (.json 200 (cancelPayload r.ref refunded.isSome
          (releaseSeatsForBooking s.db b s.clock).2) false))
  | finishIllegal {b : BookingId} {state : BookingState} {refunded : Option Payment}
      {e : Failure} (h : assertCanTransition state .cancelled = some e) :
      CancelStep s p r x (.finish b state refunded) (s.unlockSeats p) (.done (.serverError e))
  | finishRolledBack {b : BookingId} {state : BookingState} {refunded : Option Payment}
      (hseq : x.seqTaken = true) :
      CancelStep s p r x (.finish b state refunded) (s.unlockSeats p)
        (.done (.serverError (.integrityError .auditSeq)))
  | reviews {b : BookingId} {state : BookingState} {error : String} (hseq : x.seqTaken = false) :
      CancelStep s p r x (.review b state error)
        ((s.withDb (reviewedDb s.db b state error)).unlockSeats p)
        (.done (.problem refundPendingError))
  | reviewRolledBack {b : BookingId} {state : BookingState} {error : String}
      (hseq : x.seqTaken = true) :
      CancelStep s p r x (.review b state error) (s.unlockSeats p)
        (.done (.serverError (.integrityError .auditSeq)))

/-- The transitions of a sweep. -/
inductive SweepStep (s : Shared G) (p : ℕ) (x : Draws) : SweepPc → Shared G → SweepPc → Prop
  | sweeps {now : Time}
      (hf : s.seatsFree p (s.db.seatIds.filter fun k => sweepable now (s.db.seat k)) = true) :
      SweepStep s p x (.update now) (s.withDb (sweepExpiredHolds s.db now x.missed)) .done

/-- The transitions of a process. -/
inductive Step (env : Env) (s : Shared G) (p : ℕ) : Proc → Input → Shared G → Proc → Prop
  | tick {d : ℕ} : Step env s p .idle (.tick d) { s with clock := s.clock + d } .idle
  | arrive {r : Request} : Step env s p .idle (.arrive r) s (r.start s.clock)
  | booking {r : BookingRequest} {x : Draws} {s' : Shared G} {pc pc' : BookingPc}
      (h : BookingStep env s p r x pc s' pc') :
      Step env s p (.booking r pc) (.go x) s' (.booking r pc')
  | hold {r : HoldRequest} {x : Draws} {s' : Shared G} {pc pc' : HoldPc}
      (h : HoldStep env s p r pc s' pc') :
      Step env s p (.hold r pc) (.go x) s' (.hold r pc')
  | release {r : ReleaseRequest} {x : Draws} {s' : Shared G} {pc pc' : ReleasePc}
      (h : ReleaseStep s p r pc s' pc') :
      Step env s p (.release r pc) (.go x) s' (.release r pc')
  | cancel {r : CancelRequest} {x : Draws} {s' : Shared G} {pc pc' : CancelPc}
      (h : CancelStep s p r x pc s' pc') :
      Step env s p (.cancel r pc) (.go x) s' (.cancel r pc')
  | sweep {x : Draws} {s' : Shared G} {pc pc' : SweepPc} (h : SweepStep s p x pc s' pc') :
      Step env s p (.sweep pc) (.go x) s' (.sweep pc')

omit [PaymentGateway G] in
theorem holdStep_of {r : HoldRequest} {pc pc' : HoldPc}
    (h : stepHold env s p r pc = some (s', pc')) : HoldStep env s p r pc s' pc' := by
  cases pc <;> simp only [stepHold, reduceCtorEq] at h
  case count now =>
    split at h <;> simp only [Option.some.injEq, Prod.mk.injEq] at h <;> obtain ⟨rfl, rfl⟩ := h
    · next hc => exact .capped hc
    · next hc => exact .counts hc
  case update now =>
    split at h
    · next ha =>
      obtain ⟨ht, rfl⟩ := acquireHold_eq_ok ha
      split at h
      · next hf =>
        simp only [Option.some.injEq, Prod.mk.injEq] at h
        obtain ⟨rfl, rfl⟩ := h
        exact .acquires hf ht
      · exact absurd h (by simp)
    · next ha =>
      simp only [Option.some.injEq, Prod.mk.injEq] at h
      obtain ⟨rfl, rfl⟩ := h
      exact .acquiresNothing ha
  case refresh k =>
    simp only [Option.some.injEq, Prod.mk.injEq] at h
    obtain ⟨rfl, rfl⟩ := h
    exact .refreshes

omit [PaymentGateway G] in
theorem releaseStep_of {r : ReleaseRequest} {pc pc' : ReleasePc}
    (h : stepRelease s p r pc = some (s', pc')) : ReleaseStep s p r pc s' pc' := by
  cases pc <;> simp only [stepRelease, reduceCtorEq] at h
  case load =>
    split at h <;> simp only [Option.some.injEq, Prod.mk.injEq] at h <;> obtain ⟨rfl, rfl⟩ := h
    · next hk => exact .loadsNothing hk
    · next k hk => exact .loads hk
  case update =>
    split at h
    · next hf =>
      split at h <;> simp only [Option.some.injEq, Prod.mk.injEq] at h <;> obtain ⟨rfl, rfl⟩ := h
      · exact .releases hf
      · exact .releases hf
    · exact absurd h (by simp)

theorem cancelStep_of {r : CancelRequest} {x : Draws} {pc pc' : CancelPc}
    (h : stepCancel s p r x pc = some (s', pc')) : CancelStep s p r x pc s' pc' := by
  cases pc <;> simp only [stepCancel, reduceCtorEq] at h
  case load =>
    split at h
    · next ho =>
      simp only [Option.some.injEq, Prod.mk.injEq] at h
      obtain ⟨rfl, rfl⟩ := h
      exact .findsNothing ho
    · next ho =>
      split at h <;> simp only [Option.some.injEq, Prod.mk.injEq] at h <;> obtain ⟨rfl, rfl⟩ := h
      · next hr => exact .refuses ho hr
      · next hr => exact .accepts ho hr
  case selectPayment b state =>
    simp only [Option.some.injEq, Prod.mk.injEq] at h
    obtain ⟨rfl, rfl⟩ := h
    exact .selects
  case lockSeats b state pay =>
    split at h
    · next hf =>
      split at h <;> simp only [Option.some.injEq, Prod.mk.injEq] at h <;> obtain ⟨rfl, rfl⟩ := h
      · exact .locks hf
      · exact .locks hf
    · exact absurd h (by simp)
  case refund b state pay =>
    split at h <;> simp only [Option.some.injEq, Prod.mk.injEq] at h <;> obtain ⟨rfl, rfl⟩ := h
    · next hr => exact .refunds hr
    · next hr => exact .refundFails hr
  case finish b state refunded =>
    cases ht : assertCanTransition state .cancelled <;> cases hseq : x.seqTaken <;>
      simp only [finishCancel, ht, hseq, Bool.false_eq_true, if_true, if_false,
        Option.some.injEq, Prod.mk.injEq] at h <;> obtain ⟨rfl, rfl⟩ := h
    · exact .finishes ht hseq
    · exact .finishRolledBack hseq
    · exact .finishIllegal ht
    · exact .finishIllegal ht
  case review b state error =>
    cases hseq : x.seqTaken <;>
      simp only [reviewCancel, hseq, Bool.false_eq_true, if_true, if_false,
        Option.some.injEq, Prod.mk.injEq] at h <;> obtain ⟨rfl, rfl⟩ := h
    · exact .reviews hseq
    · exact .reviewRolledBack hseq

omit [PaymentGateway G] in
theorem sweepStep_of {x : Draws} {pc pc' : SweepPc}
    (h : stepSweep s p x pc = some (s', pc')) : SweepStep s p x pc s' pc' := by
  cases pc <;> simp only [stepSweep, reduceCtorEq] at h
  case update now =>
    split at h
    · next hf =>
      simp only [Option.some.injEq, Prod.mk.injEq] at h
      obtain ⟨rfl, rfl⟩ := h
      exact .sweeps hf
    · exact absurd h (by simp)

/-- **The service takes only these transitions.** -/
theorem step_of {P P' : Proc} {a : Input} (h : (service env G).step s p P a = some (s', P')) :
    Step env s p P a s' P' := by
  cases P <;> cases a <;> simp only [service, step, Option.map_eq_some_iff, Prod.mk.injEq,
    Option.some.injEq, reduceCtorEq] at h
  case idle.tick d =>
    obtain ⟨rfl, rfl⟩ := h
    exact .tick
  case idle.arrive r =>
    obtain ⟨rfl, rfl⟩ := h
    exact .arrive
  case booking.go r pc x =>
    obtain ⟨⟨_, pc'⟩, h, rfl, rfl⟩ := h
    exact .booking (bookingStep_of h)
  case hold.go r pc x =>
    obtain ⟨⟨_, pc'⟩, h, rfl, rfl⟩ := h
    exact .hold (holdStep_of h)
  case release.go r pc x =>
    obtain ⟨⟨_, pc'⟩, h, rfl, rfl⟩ := h
    exact .release (releaseStep_of h)
  case cancel.go r pc x =>
    obtain ⟨⟨_, pc'⟩, h, rfl, rfl⟩ := h
    exact .cancel (cancelStep_of h)
  case sweep.go pc x =>
    obtain ⟨⟨_, pc'⟩, h, rfl, rfl⟩ := h
    exact .sweep (sweepStep_of h)

/-- A step of a `create_booking` request is a step of the service. -/
theorem next_booking {w : World (Shared G) Proc} {r : BookingRequest} {x : Draws}
    {pc pc' : BookingPc} (hp : w.proc p = .booking r pc)
    (h : stepBooking env w.shared p r x pc = some (s', pc')) :
    (service env G).next w p (.go x) =
      some ⟨s', Function.update w.proc p (.booking r pc')⟩ := by
  refine System.next_eq_some.mpr ⟨s', .booking r pc', ?_, rfl⟩
  rw [hp]
  exact congrArg (Option.map _) h

/-! ### The requests under one idempotency key -/

/-- Where the process is, if it serves a request whose claim is the row `k`. -/
def Proc.under? (k : String × UserId) : Proc → Option BookingPc
  | .booking r pc => if r.claimKey = k then some pc else none
  | _ => none

theorem Proc.under?_eq_some {k : String × UserId} {P : Proc} {pc : BookingPc}
    (h : P.under? k = some pc) : ∃ r, P = .booking r pc ∧ r.claimKey = k := by
  unfold Proc.under? at h
  split at h
  · next r pc' =>
    split at h
    · next hkey => exact ⟨r, by rw [Option.some.inj h], hkey⟩
    · simp at h
  · simp at h

theorem Proc.under?_booking {k : String × UserId} {r : BookingRequest} {pc : BookingPc}
    (hkey : r.claimKey = k) : (Proc.booking r pc).under? k = some pc :=
  if_pos hkey

/-- The row and its lock are as they were. -/
structure SameClaim (k : String × UserId) (s s' : Shared G) : Prop where
  row : s'.db.claims k = s.db.claims k
  lock : s'.claimLocks k = s.claimLocks k

/-- A process that serves no request under the key leaves the claim alone. -/
theorem Step.elsewhere {k : String × UserId} {P P' : Proc} {a : Input}
    (h : Step env s p P a s' P') (hP : P.under? k = none) : SameClaim k s s' := by
  cases h
  case booking r x pc pc' h =>
    have hne : k ≠ r.claimKey := by
      rintro rfl
      simp [Proc.under?] at hP
    cases h
    case deletes | inserts => exact ⟨rfl, Function.update_of_ne hne _ _⟩
    case claims | clears | completes | releases =>
      exact ⟨Function.update_of_ne hne _ _, Function.update_of_ne hne _ _⟩
    all_goals exact ⟨rfl, rfl⟩
  case cancel r x pc pc' h => cases h <;> exact ⟨rfl, rfl⟩
  case hold r x pc pc' h => cases h <;> exact ⟨rfl, rfl⟩
  case release r x pc pc' h => cases h <;> exact ⟨rfl, rfl⟩
  case sweep x pc pc' h =>
    cases h
    exact ⟨rfl, rfl⟩
  all_goals exact ⟨rfl, rfl⟩

end SkyLock
