import SkyLock.Columns
import SkyLock.Interference
import SkyLock.Scripts

/-!
# What an accepted request stores

Whether the values of an accepted request fit the columns they are written to.
The bounds of the validators and the widths of the columns agree but in two
places, where a value is derived: the gateway key, which is an `Idempotency-Key`
with a suffix in a column as wide as the key alone may be, and the total, which
is a sum of up to six prices in a column as wide as one price.

The transactions of the model refuse the values that can be too wide: the total,
the gateway key, and what a gateway answers.  Here the rows they leave are held
against all their columns.  Where a total does not fit, the database refuses step 1,
which has committed nothing; where a gateway key does not, step 1 has been committed.

## Main definitions

* `RegularStep` — accepted requests, generated numbers, a gateway whose answers
  fit their columns.
* `StoredStep` — the step leaves rows that fit, and no value was refused.
* `StorableStep` — the total fits at step 1, and the key is at most 123
  characters when the payment is created.

## Main results

* `BookingStep.stored_iff` — the same of one step.
* `stored_iff_storable` — **the runs that store every value are those whose steps
  are storable**.
* `values_too_wide` — an accepted request that fails once its seats are pinned.
-/

namespace SkyLock

open Concurrent

variable {G : Type} [PaymentGateway G] {env : Env} {s s' : Shared G} {p : ℕ}

/-! ### Regular steps -/

/-- Validation accepted the request. -/
structure BookingRequest.Accepted (r : BookingRequest) : Prop where
  payload : r.payload.accepted = true
  key : idempotencyKeyHeader r.key = true

instance (r : BookingRequest) : Decidable r.Accepted :=
  decidable_of_iff (r.payload.accepted = true ∧ idempotencyKeyHeader r.key = true)
    ⟨fun ⟨h₁, h₂⟩ => ⟨h₁, h₂⟩, fun h => ⟨h.payload, h.key⟩⟩

/-- The values the saga copies from a gateway's answer fit their columns. -/
structure AuthorizationResult.Fits (result : AuthorizationResult) : Prop where
  providerRef : Varchar 64 result.providerRef
  failureCode : VarcharOrNull 48 result.failureCode

instance (result : AuthorizationResult) : Decidable result.Fits :=
  decidable_of_iff (Varchar 64 result.providerRef ∧ VarcharOrNull 48 result.failureCode)
    ⟨fun ⟨h₁, h₂⟩ => ⟨h₁, h₂⟩, fun h => ⟨h.providerRef, h.failureCode⟩⟩

/-- What an `authorize` call answers, if it answers, fits. -/
def answerFits : Except PaymentTimeout AuthorizationResult → Prop
  | .ok result => result.Fits
  | .error _ => True

instance : DecidablePred answerFits
  | .ok result => inferInstanceAs (Decidable result.Fits)
  | .error _ => inferInstanceAs (Decidable True)

/-- What the service computes with code outside the repository fits: a digest is
64 characters, a card's fingerprint 32 of them. -/
structure ExternalsFit (G : Type) [PaymentGateway G] (env : Env) : Prop where
  name : Varchar 32 (PaymentGateway.name G)
  sha256 : ∀ t, Varchar 64 (env.sha256 t)
  cardFingerprint : ∀ t, Varchar 64 (env.cardFingerprint t)

/-- What the step draws is generated as the service does, and the gateway's
answer fits. -/
def BookingPc.Regular (s : Shared G) (x : Draws) : BookingPc → Prop
  | .openBooking => ∀ k < maxPnrAttempts, generatedPnr (x.pnr k) = true
  | .authorize σ pay | .retryAuthorize σ pay => answerFits (authorizeOutcome s σ pay).1
  | .issueTickets σ _ => ∀ k < σ.passengers.length, generatedETicketNumber (x.eTicketNo k) = true
  | _ => True

/-- A step of a service whose clients send accepted requests. -/
def RegularStep (w : World (Shared G) Proc) (p : ℕ) (a : Input) : Prop :=
  match w.proc p, a with
  | _, .arrive (.createBooking r) => r.Accepted
  | .booking _ pc, .go x => pc.Regular w.shared x
  | _, _ => True

/-! ### The condition -/

/-- The checks of step 1 let the seats it locked and the references it drew through. -/
structure Admitted (s : Shared G) (r : BookingRequest) (x : Draws)
    (seats : List SeatInstance) : Prop where
  found : seats.length = r.payload.holdIds.length
  live : (expiredSeats seats s.clock).isEmpty
  oneFlight : (seats.map fun i => i.row.flightId).dedup.length = 1
  flight : ∀ i ∈ seats, (s.db.flight i.row.flightId).isSome
  ref : (uniquePnr s.db x.pnr).isSome

instance (s : Shared G) (r : BookingRequest) (x : Draws) (seats : List SeatInstance) :
    Decidable (Admitted s r x seats) :=
  decidable_of_iff (seats.length = r.payload.holdIds.length ∧
      (expiredSeats seats s.clock).isEmpty ∧
        (seats.map fun i => i.row.flightId).dedup.length = 1 ∧
          (∀ i ∈ seats, (s.db.flight i.row.flightId).isSome) ∧
            (uniquePnr s.db x.pnr).isSome)
    ⟨fun ⟨h₁, h₂, h₃, h₄, h₅⟩ => ⟨h₁, h₂, h₃, h₄, h₅⟩,
      fun h => ⟨h.found, h.live, h.oneFlight, h.flight, h.ref⟩⟩

/-- The sum of the prices of the seats step 1 locks. -/
def lockedTotal (s : Shared G) (r : BookingRequest) : Cents :=
  ((lockSeatsForHolds s.db r.payload.holdIds r.userId).map fun i => i.row.price).sum

/-- The total fits its column where step 1 inserts it, and the key leaves room
for what `gatewayKey` appends where the payment is created. -/
def BookingPc.Storable (s : Shared G) (r : BookingRequest) (x : Draws) : BookingPc → Prop
  | .openBooking =>
    Admitted s r x (lockSeatsForHolds s.db r.payload.holdIds r.userId) → Numeric (lockedTotal s r)
  | .createPayment _ => r.key.length ≤ 123
  | _ => True

/-- The step is storable. -/
def StorableStep (w : World (Shared G) Proc) (p : ℕ) (a : Input) : Prop :=
  match w.proc p, a with
  | .booking r pc, .go x => pc.Storable w.shared r x
  | _, _ => True

/-- Every row fits after the step, and no value of it was refused. -/
def StoredStep (env : Env) (w : World (Shared G) Proc) (p : ℕ) (a : Input) : Prop :=
  ∀ w', (service env G).next w p a = some w' →
    w'.shared.db.Fits ∧ ∀ r b, w'.proc p ≠ .booking r (.release .dataError b)

omit [PaymentGateway G] in
/-- What the checks let through, the column of the total can still refuse. -/
theorem Admitted.refused {r : BookingRequest} {x : Draws}
    (h : Admitted s r x (lockSeatsForHolds s.db r.payload.holdIds r.userId))
    (htotal : ¬ Numeric (lockedTotal s r)) :
    openBooking s.db s.clock s.uuid r.userId r.key r.payload x.pnr x.refTaken =
      .error .dataError := by
  have hlive := List.isEmpty_iff.mp h.live
  obtain ⟨f, hids⟩ := List.length_eq_one_iff.mp h.oneFlight
  obtain ⟨flight, hflight⟩ : ∃ flight, s.db.flight f = some flight := by
    have hmem : f ∈ ((lockSeatsForHolds s.db r.payload.holdIds r.userId).map fun i =>
        i.row.flightId).dedup := by simp [hids]
    obtain ⟨i, hi, rfl⟩ := List.mem_map.mp (List.mem_dedup.mp hmem)
    exact Option.isSome_iff_exists.mp (h.flight i hi)
  obtain ⟨ref, href⟩ := Option.isSome_iff_exists.mp h.ref
  have htotal : ¬ Numeric (openedSaga r.payload
      (lockSeatsForHolds s.db r.payload.holdIds r.userId) s.uuid ref f flight).total := htotal
  simp only [openBooking, h.found, ne_eq, not_true_eq_false, if_false, hlive, hids, hflight, href,
    htotal, not_false_eq_true, if_true]

omit [PaymentGateway G] in
/-- What a failed step 1 has checked. -/
theorem admitted_of_checks {r : BookingRequest} {x : Draws} {seats : List SeatInstance}
    {flightId : FlightId} {flight : Flight} {ref : String}
    (hlen : seats.length = r.payload.holdIds.length) (hlive : expiredSeats seats s.clock = [])
    (hids : (seats.map fun i => i.row.flightId).dedup = [flightId])
    (hflight : s.db.flight flightId = some flight) (hpnr : uniquePnr s.db x.pnr = some ref) :
    Admitted s r x seats := by
  refine ⟨hlen, by simp [hlive], by simp [hids], fun i hi => ?_, by simp [hpnr]⟩
  have hmem : i.row.flightId ∈ (seats.map fun i => i.row.flightId).dedup :=
    List.mem_dedup.mpr (List.mem_map_of_mem hi)
  rw [hids, List.mem_singleton] at hmem
  rw [hmem, hflight]
  rfl

/-! ### What a process carries -/

/-- What a saga is about to write of a gateway's answer. -/
def BookingPc.Bounded : BookingPc → Prop
  | .recordAuthorized _ _ result => result.Fits
  | .failSelect _ f | .failCommit _ f _ => f.Writable
  | _ => True

/-- The process serves an accepted request, and what it carries fits. -/
def Proc.Bounded : Proc → Prop
  | .booking r pc => r.Accepted ∧ pc.Bounded
  | _ => True

theorem afterAuthorize_bounded {σ : Saga} {pay : Payment} {result : AuthorizationResult}
    (h : result.Fits) : (afterAuthorize σ pay result).Bounded := by
  unfold afterAuthorize
  split
  · exact h
  · intro d hd
    obtain rfl := Option.some.inj hd
    exact ⟨.some h.providerRef, h.failureCode⟩

theorem raised_bounded (e : Failure) (b : Option BookingId) : (raised e b).Bounded := by
  cases e <;> trivial

theorem BookingStep.bounded {r : BookingRequest} {x : Draws} {pc pc' : BookingPc}
    (h : BookingStep env s p r x pc s' pc') (hb : pc.Bounded) (hreg : pc.Regular s x) :
    pc'.Bounded := by
  cases h
  case blocks =>
    rintro d ⟨⟩
  case selectsFailed => exact hb
  case authorizes result hok | retries result hok =>
    simp only [BookingPc.Regular, hok, answerFits] at hreg
    exact afterAuthorize_bounded hreg
  all_goals first | trivial | exact raised_bounded _ _

/-! ### What one step writes -/

section Step

variable {r : BookingRequest} {x : Draws} {pc pc' : BookingPc}

omit [PaymentGateway G] in
/-- The rows of step 1 fit where its total does. -/
theorem openedDb_fits (hfits : s.db.Fits) (hr : r.Accepted) {flightId : FlightId} {flight : Flight}
    {ref : String} (hflights : Varchar 3 flight.currency) (href : Varchar 6 ref)
    {seats : List SeatInstance} (htotal : Numeric (seats.map fun i => i.row.price).sum) :
    (openedDb s.db (openedSaga r.payload seats s.uuid ref flightId flight) r.userId r.key s.clock
      seats).Fits := by
  have hrow : ((openedSaga r.payload seats s.uuid ref flightId flight).bookingRow r.userId r.key
      s.clock).Fits :=
    ⟨href, BookingState.varchar_value _, htotal, hflights,
      .some (varchar_of_idempotencyKeyHeader hr.key)⟩
  have hpassengers : ∀ q ∈ (openedSaga r.payload seats s.uuid ref flightId flight).passengers,
      q.Fits := by
    intro q hq
    obtain ⟨k, hk, rfl⟩ := List.mem_mapIdx.mp hq
    have hmem := (List.of_mem_zip (List.getElem_mem hk)).1
    have haccepted := hr.payload
    simp only [BookingCreate.accepted, Bool.and_eq_true, List.all_eq_true] at haccepted
    have hp := haccepted.1.1 _ hmem
    simp only [PassengerIn.accepted, Bool.and_eq_true] at hp
    refine ⟨varchar_of_nameField hp.1.1, varchar_of_nameField hp.1.2, ?_⟩
    rintro t ht
    obtain ⟨n, -, rfl⟩ := Option.map_eq_some_iff.mp ht
    exact varchar_last4 n
  unfold openedDb
  exact ((((hfits.insertBooking _ hrow hpassengers).flushSeats _).record ..).note ..)

omit [PaymentGateway G] in
/-- A saga's booking row fits, so its total and currency do. -/
theorem Saga.Before.fits {σ : Saga} {u : UserId} {state : BookingState}
    (h : σ.Before u state (s.view σ.bookingId)) (hfits : s.db.Fits) :
    Numeric σ.total ∧ Varchar 3 σ.currency := by
  obtain ⟨row, hrow, ⟨-, -, -, htotal, hcurrency⟩, -⟩ := h.recorded.row
  have hrow := hfits.booking σ.bookingId row hrow
  exact ⟨htotal ▸ hrow.totalAmount, hcurrency ▸ hrow.currency⟩

/-- The payment row fits where its key does. -/
theorem payment_fits (hext : ExternalsFit G env) (hr : r.Accepted) {σ : Saga}
    (htotal : Numeric σ.total) (hcurrency : Varchar 3 σ.currency)
    (hkey : (gatewayKey r.key).length ≤ idempotencyKeyWidth) : (s.payment env r σ).Fits := by
  have haccepted := hr.payload
  simp only [BookingCreate.accepted, Bool.and_eq_true] at haccepted
  exact ⟨hext.name, .none 64, varchar_of_cardTokenField haccepted.1.2, hext.cardFingerprint _,
    varchar_last4 _, htotal, hcurrency, PaymentState.varchar_value _, .none 48, hkey⟩

theorem newTickets_fits {b : BookingId} {uuid : ℕ} {now : Time} {eTicketNo : ℕ → String}
    {assigned : List (BookingPassenger × SeatInstance)}
    (h : ∀ k < assigned.length, generatedETicketNumber (eTicketNo k) = true) :
    ∀ t ∈ newTickets b uuid now eTicketNo assigned, t.Fits := by
  intro t ht
  obtain ⟨k, hk, rfl⟩ := List.mem_mapIdx.mp ht
  exact ⟨varchar_of_generatedETicketNumber (h k hk)⟩

omit [PaymentGateway G] in
theorem Db.Fits.setClaim (h : s.db.Fits) (k : String × UserId) {claim : Option IdempotencyKey}
    (hclaim : ∀ c ∈ claim, c.Fits k.1) : (s.setClaim k claim).db.Fits :=
  { booking := h.booking, passengers := h.passengers, payments := h.payments
    tickets := h.tickets, audit := h.audit
    claims := by
      intro k' c hc
      dsimp only [Shared.setClaim] at hc
      rw [Function.update_apply] at hc
      split at hc
      · next hk => exact hk ▸ hclaim c hc
      · exact h.claims k' c hc }

omit [PaymentGateway G] in
theorem failedDb_fits {db : Db} (h : db.Fits) (σ : Saga) {f : PaymentFailure}
    (hf : f.Writable) (rows : List SeatInstance) : (failedDb db σ f rows).Fits := by
  have hpaid : (db.flushPayments f.payment).Fits := by
    cases hpay : f.payment with
    | none => exact h.of_eq rfl rfl rfl rfl rfl rfl
    | some d => exact h.flushPayment d.1 d.2 (.inr (hf d hpay).1) (.inr (hf d hpay).2)
  unfold failedDb
  exact ((hpaid.record ..).flushBookingState ..).flushSeats _

omit [PaymentGateway G] in
theorem voidedDb_fits {db : Db} (h : db.Fits) (σ : Saga) (pay : Payment) (now : Time) :
    (voidedDb db σ pay now).Fits := by
  have hrefs : pay.reversed.1.providerRef = pay.providerRef ∧
      pay.reversed.1.failureCode = pay.failureCode := by
    unfold Payment.reversed
    split <;> exact ⟨rfl, rfl⟩
  have hpaid := h.flushPayment pay pay.reversed.1 (.inl hrefs.1) (.inl hrefs.2)
  unfold voidedDb
  exact (((hpaid.note ..).releaseSeatsForBooking ..).note ..).flushBookingState ..

/-- **A step whose values fit leaves rows that fit.** -/
theorem BookingStep.fits (h : BookingStep env s p r x pc s' pc')
    (ho : (Proc.booking r pc).Outline s) (hfits : s.db.Fits) (hr : r.Accepted) (hb : pc.Bounded)
    (hreg : pc.Regular s x) (hext : ExternalsFit G env)
    (hflights : ∀ f row, s.db.flight f = some row → Varchar 3 row.currency) : s'.db.Fits := by
  cases h
  case claims now deleted =>
    refine hfits.setClaim _ fun c hc => ?_
    obtain rfl := Option.some.inj hc
    have hendpoint : Varchar 80 bookingsEndpoint := by decide
    exact ⟨varchar_of_idempotencyKeyHeader hr.key, hendpoint, hext.sha256 _,
      IdempotencyState.varchar_value _⟩
  case clears | releases => exact hfits.setClaim _ (by simp)
  case completes o b c hf hc =>
    refine hfits.setClaim _ fun c' hc' => ?_
    obtain rfl := Option.some.inj hc'
    have hrow := hfits.claims _ _ hc
    exact ⟨hrow.key, hrow.endpoint, hrow.requestHash, IdempotencyState.varchar_value _⟩
  case opens seats flightId flight ref hseats hf hlen hlive hids hflight hpnr htotal href =>
    obtain ⟨k, hk, rfl⟩ := List.mem_map.mp (List.mem_of_find?_eq_some hpnr)
    -- the reference is one of those drawn
    have hpnr := varchar_of_generatedPnr (hreg k (List.mem_range.mp hk))
    exact openedDb_fits hfits hr (hflights flightId flight hflight) hpnr htotal
  case fails σ f rows hf hchecked => exact failedDb_fits hfits σ hb rows
  case createsPayment σ hkey =>
    -- the booking fits, so its total and currency fit the payment, too
    obtain ⟨htotal, hcurrency⟩ := (ho σ.bookingId rfl).2.1.fits hfits
    exact hfits.insertPayment (payment_fits hext hr htotal hcurrency hkey)
  case journals σ pay =>
    exact (hfits.flushPayment pay pay.timedOut (.inl rfl) (.inl rfl)).note ..
  case recordsAuthorized σ pay result _ _ =>
    exact ((hfits.flushPayment pay (pay.authorized result) (.inr (.some hb.providerRef))
      (.inl rfl)).record ..).flushBookingState ..
  case issues σ pay assigned rows _ _ _ hassigned _ _ _ _ hrows =>
    have hseated := (ho σ.bookingId rfl).2.1.seated.assigned_eq
    obtain rfl : σ.passengers.zip σ.seats = assigned :=
      Option.some.inj (hseated.symm.trans hassigned)
    have hlen : (σ.passengers.zip σ.seats).length ≤ σ.passengers.length := by
      rw [List.length_zip]
      exact Nat.min_le_left _ _
    -- one number is drawn for each passenger
    have hnumbers : ∀ t ∈ newTickets σ.bookingId s.uuid s.clock x.eTicketNo
        (σ.passengers.zip σ.seats), t.Fits :=
      newTickets_fits fun k hk => hreg k (hk.trans_le hlen)
    exact ((((hfits.noted hrows).insertTickets hnumbers).flushSeats _).record
      ..).flushBookingState ..
  case refuses σ pay rows reason _ _ _ hrows =>
    exact ((hfits.noted hrows).record ..).flushBookingState ..
  case voids σ pay reason _ _ => exact voidedDb_fits hfits σ pay s.clock
  case flags σ pay reason error _ =>
    exact (((hfits.record ..).flushBookingState ..).releaseSeatsForBooking ..).note ..
  case confirms σ pay _ _ =>
    exact ((hfits.flushPayment pay pay.capturedState (.inl rfl) (.inl rfl)).record
      ..).flushBookingState ..
  all_goals exact hfits

/-! ### What is refused -/

omit [PaymentGateway G] in
theorem eq_dataError_of_raised {e : Failure} {b b' : Option BookingId}
    (h : raised e b = .release .dataError b') : e = .dataError := by
  cases e <;> simp_all [raised]

omit [PaymentGateway G] in
theorem ne_dataError_of_assertCanTransition {current target : BookingState} {e : Failure}
    (h : assertCanTransition current target = some e) : e ≠ .dataError := by
  unfold assertCanTransition at h
  split at h
  · exact absurd h (by simp)
  · obtain rfl := Option.some.inj h
    exact Failure.noConfusion

omit [PaymentGateway G] in
theorem ne_dataError_of_issueFails {σ : Saga} {e : Failure} (h : IssueFails s x σ e) :
    e ≠ .dataError := by
  cases h with
  | tickets | seats | audit => exact Failure.noConfusion
  | illegal h => exact ne_dataError_of_assertCanTransition h

/-- **Only a total and a gateway key are ever refused.** -/
theorem BookingStep.not_refused (h : BookingStep env s p r x pc s' pc') (hb : pc.Bounded)
    (hstorable : pc.Storable s r x) (b : Option BookingId) : pc' ≠ .release .dataError b := by
  intro heq
  cases h
  case opensNothing e h =>
    obtain rfl := eq_dataError_of_raised heq
    cases openBooking_eq_error h with
    | total hlen hlive hids hflight hpnr htotal =>
      exact htotal (hstorable (admitted_of_checks hlen hlive hids hflight hpnr))
  case selectRefused hw => exact hw hb
  case recordRefused hw => exact hw hb.providerRef
  case selectIllegal h | recordIllegal h | voidIllegal h | confirmIllegal h =>
    exact ne_dataError_of_assertCanTransition h (eq_dataError_of_raised heq)
  case refuseIllegal _ h =>
    exact ne_dataError_of_assertCanTransition h (eq_dataError_of_raised heq)
  case issueRolledBack _ _ _ h => exact ne_dataError_of_issueFails h (eq_dataError_of_raised heq)
  case keyTooLong σ h =>
    rw [length_gatewayKey] at h
    have hkey : r.key.length ≤ 123 := hstorable
    unfold idempotencyKeyWidth at h
    omega
  case authorizes | retries =>
    unfold afterAuthorize at heq
    split at heq <;> cases heq
  all_goals cases heq

/-- A step that is refused nothing was storable. -/
theorem BookingStep.storable (h : BookingStep env s p r x pc s' pc')
    (hrefused : ∀ b, pc' ≠ .release .dataError b) : pc.Storable s r x := by
  cases h
  case opens seats flightId flight ref hseats hf hlen hlive hids hflight hpnr htotal href =>
    intro _
    rw [lockedTotal, hseats]
    exact htotal
  case opensNothing e h =>
    intro hadmitted
    by_contra htotal
    obtain rfl := Except.error.inj (h.symm.trans (hadmitted.refused htotal))
    exact hrefused none rfl
  case createsPayment σ hkey =>
    rw [length_gatewayKey] at hkey
    unfold idempotencyKeyWidth at hkey
    change r.key.length ≤ 123
    omega
  case keyTooLong σ _ => exact absurd rfl (hrefused (some σ.bookingId))
  all_goals trivial

end Step

/-- The other requests keep the rows they write within their columns. -/
theorem Step.fits_of_not_booking {P P' : Proc} {a : Input} (h : Step env s p P a s' P')
    (hP : ∀ r pc, P ≠ .booking r pc) (hfits : s.db.Fits) : s'.db.Fits := by
  cases h
  case booking r _ pc _ _ => exact absurd rfl (hP r pc)
  case cancel r x pc pc' h =>
    cases h
    case finishes b state refunded _ _ =>
      have hpaid : (((releaseSeatsForBooking s.db b s.clock).1).flushPayments
          (refunded.map fun pay => (pay, pay.refundedState))).Fits := by
        have hreleased := hfits.releaseSeatsForBooking b s.clock
        cases refunded with
        | none => exact hreleased.of_eq rfl rfl rfl rfl rfl rfl
        | some pay => exact hreleased.flushPayment pay pay.refundedState (.inl rfl) (.inl rfl)
      exact (hpaid.record ..).flushBookingState ..
    case reviews b state error _ => exact (hfits.record ..).flushBookingState ..
    all_goals exact hfits
  case hold r x pc pc' h => cases h <;> exact hfits.of_eq rfl rfl rfl rfl rfl rfl
  case release r x pc pc' h => cases h <;> exact hfits.of_eq rfl rfl rfl rfl rfl rfl
  case sweep x pc pc' h =>
    cases h
    exact hfits.of_eq rfl rfl rfl rfl rfl rfl
  all_goals exact hfits

/-! ### Whole runs -/

/-- What a run of storable steps keeps. -/
structure Storing (w : World (Shared G) Proc) : Prop where
  outline : (outline G).Holds w
  fits : w.shared.db.Fits
  bounded : ∀ q, (w.proc q).Bounded
  flights : ∀ f row, w.shared.db.flight f = some row → Varchar 3 row.currency

section Run

variable {w w' : World (Shared G) Proc} {a : Input}

/-- The mover carries what fits. -/
theorem Storing.bounded_mover (h : Storing w) (hreg : RegularStep w p a) {P' : Proc}
    (hs : Step env w.shared p (w.proc p) a s' P') : P'.Bounded := by
  have hb := h.bounded p
  generalize hP : w.proc p = P at hs hb
  cases hs
  case arrive r =>
    cases r with
    | createBooking r =>
      simp only [RegularStep] at hreg
      exact ⟨hreg, trivial⟩
    | createHold | deleteHold | cancelBooking | sweep => trivial
  case booking r x pc pc' hs =>
    simp only [RegularStep, hP] at hreg
    exact ⟨hb.1, hs.bounded hb.2 hreg⟩
  all_goals trivial

theorem StorableStep.not_refused (h : StorableStep w p a) (hb : (w.proc p).Bounded) {P' : Proc}
    (hs : Step env w.shared p (w.proc p) a s' P') (r : BookingRequest) (b : Option BookingId) :
    P' ≠ .booking r (.release .dataError b) := by
  rintro heq
  generalize hP : w.proc p = P at hs hb
  cases hs
  case booking r' x pc pc' hs =>
    simp only [StorableStep, hP] at h
    obtain ⟨rfl, rfl⟩ := Proc.booking.inj heq
    exact hs.not_refused hb.2 h b rfl
  case arrive r' => cases r' <;> cases heq
  all_goals cases heq

/-- A regular step keeps every row within its columns. -/
theorem Storing.fits_next (hext : ExternalsFit G env) (h : Storing w) (hreg : RegularStep w p a)
    {P' : Proc} (hs : Step env w.shared p (w.proc p) a s' P') :
    s'.db.Fits := by
  by_cases hP : ∃ r pc, w.proc p = .booking r pc
  · obtain ⟨r, pc, hP⟩ := hP
    have ho : (Proc.booking r pc).Outline w.shared := hP ▸ h.outline.own p
    have hb := hP ▸ h.bounded p
    rw [hP] at hs
    cases hs with
    | booking hs =>
      simp only [RegularStep, hP] at hreg
      exact hs.fits ho h.fits hb.1 hb.2 hreg hext h.flights
  · exact hs.fits_of_not_booking (fun r pc heq => hP ⟨r, pc, heq⟩) h.fits

/-- **A step of a run stores its values just when it is storable.** -/
theorem Storing.stored_iff (hext : ExternalsFit G env) (h : Storing w) (hreg : RegularStep w p a)
    (hn : (service env G).next w p a = some w') : StoredStep env w p a ↔ StorableStep w p a := by
  obtain ⟨s', P', hs, rfl⟩ := System.next_eq_some.mp hn
  have hstep := step_of hs
  constructor
  · intro hstored
    obtain ⟨-, hrefused⟩ := hstored _ hn
    unfold StorableStep
    split
    · next r pc x hP =>
      rw [hP] at hstep
      cases hstep with
      | booking hstep =>
        refine hstep.storable fun b heq => hrefused r b ?_
        simp [heq]
    · trivial
  · intro hstorable w'' hn'
    obtain rfl := Option.some.inj (hn.symm.trans hn')
    refine ⟨h.fits_next hext hreg hstep, fun r b heq => ?_⟩
    exact hstorable.not_refused (h.bounded p) hstep r b (by simpa using heq)

theorem Storing.next (hext : ExternalsFit G env) (h : Storing w) (hreg : RegularStep w p a)
    (hn : (service env G).next w p a = some w') : Storing w' := by
  have houtline := outline_next h.outline hn
  obtain ⟨s', P', hs, rfl⟩ := System.next_eq_some.mp hn
  have hstep := step_of hs
  refine ⟨houtline, h.fits_next hext hreg hstep, fun q => ?_, ?_⟩
  · rcases eq_or_ne q p with rfl | hq
    · simpa using h.bounded_mover hreg hstep
    · simpa [hq] using h.bounded q
  · simpa only [hstep.inventory_eq.2] using h.flights

omit [PaymentGateway G] in
theorem storing_initial {db : Db} (hdb : db.Initial)
    (hflights : ∀ f row, db.flight f = some row → Varchar 3 row.currency) (g : G) (clock : Time) :
    Storing (initialWorld db g clock) where
  outline := outline_initial hdb g clock
  fits :=
    { booking := by simp [initialWorld, hdb.booking]
      passengers := by simp [initialWorld, hdb.passengers]
      payments := by simp [initialWorld, hdb.payments]
      tickets := by simp [initialWorld, hdb.tickets]
      audit := by simp [initialWorld, hdb.audit]
      claims := by simp [initialWorld, hdb.claims] }
  bounded _ := trivial
  flights := hflights

/-- **The runs of accepted requests that store every value they write are those
in which the totals fit and the keys are at most 123 characters.** -/
theorem stored_iff_storable (hext : ExternalsFit G env) {db : Db} (hdb : db.Initial)
    (hflights : ∀ f row, db.flight f = some row → Varchar 3 row.currency) (g : G) (clock : Time)
    (as : List (ℕ × Input)) (w : World (Shared G) Proc) :
    (service env G).Run (fun w p a => RegularStep w p a ∧ StoredStep env w p a)
        (initialWorld db g clock) as w ↔
      (service env G).Run (fun w p a => RegularStep w p a ∧ StorableStep w p a)
        (initialWorld db g clock) as w := by
  have hstart := storing_initial (G := G) hdb hflights g clock
  constructor
  · intro h
    -- the invariant of the steps taken so far decides the next one
    suffices hboth : (service env G).Run (fun w p a => RegularStep w p a ∧ StorableStep w p a)
        (initialWorld db g clock) as w ∧ Storing w from hboth.1
    induction h with
    | nil => exact ⟨.nil, hstart⟩
    | snoc _ hC hn ih =>
      have hstorable := (ih.2.stored_iff hext hC.1 hn).mp hC.2
      exact ⟨.snoc ih.1 ⟨hC.1, hstorable⟩ hn, ih.2.next hext hC.1 hn⟩
  · intro h
    suffices hboth : (service env G).Run (fun w p a => RegularStep w p a ∧ StoredStep env w p a)
        (initialWorld db g clock) as w ∧ Storing w from hboth.1
    induction h with
    | nil => exact ⟨.nil, hstart⟩
    | snoc _ hC hn ih =>
      have hstored := (ih.2.stored_iff hext hC.1 hn).mpr hC.2
      exact ⟨.snoc ih.1 ⟨hC.1, hstored⟩ hn, ih.2.next hext hC.1 hn⟩

end Run

/-! ### Decidability, and runs on fixed inputs -/

instance (s : Shared G) (x : Draws) (pc : BookingPc) : Decidable (pc.Regular s x) := by
  unfold BookingPc.Regular
  split <;> infer_instance

instance (w : World (Shared G) Proc) (p : ℕ) (a : Input) : Decidable (RegularStep w p a) := by
  unfold RegularStep
  generalize w.proc p = q
  induction a using Input.casesOn with
  | arrive r =>
    induction r using Request.casesOn <;> induction q using Proc.casesOn <;> infer_instance
  | _ => induction q using Proc.casesOn <;> infer_instance

instance (s : Shared G) (r : BookingRequest) (x : Draws) (pc : BookingPc) :
    Decidable (pc.Storable s r x) := by
  unfold BookingPc.Storable
  split <;> infer_instance

instance (w : World (Shared G) Proc) (p : ℕ) (a : Input) : Decidable (StorableStep w p a) := by
  unfold StorableStep
  generalize w.proc p = q
  induction q using Proc.casesOn <;> induction a using Input.casesOn <;> infer_instance

/-- A digest of `n` characters. -/
def blankDigest (n : ℕ) (_ : String) : String := String.ofList (List.replicate n '0')

theorem length_blankDigest (n : ℕ) (t : String) : (blankDigest n t).length = n := by
  simp [blankDigest]

/-- The default settings, over digests of the right length. -/
def blankEnv : Env := .defaults (blankDigest 64) (blankDigest 32)

theorem blankEnv_fits : ExternalsFit FakePaymentGateway blankEnv where
  name := by decide +kernel
  sha256 t := (length_blankDigest 64 t).le
  cardFingerprint t := by
    have hlen : (blankEnv.cardFingerprint t).length = 32 := length_blankDigest 32 t
    unfold Varchar
    omega

/-- A passenger holds a seat, and sends a booking under a key of `n` characters
that takes `steps` steps. -/
def bookedUnder (n steps : ℕ) : List (ℕ × Input) :=
  asks 0 (.createHold ⟨10, 7, "1A"⟩) 3 (.calm 0) ++
    asks 1 (.createBooking ⟨10, String.ofList (List.replicate n 'k'),
      soloBody 0 "tok_test_aaaa11110000"⟩) steps (.calm 1)

/-- `stored_iff_storable` at a key of 123 characters. -/
theorem stored_iff_storable_longest : ∃ w,
    (service blankEnv FakePaymentGateway).Run
        (fun w p a => RegularStep w p a ∧ StoredStep blankEnv w p a) (onSale 1)
        (bookedUnder 123 14) w ∧
      (w.shared.db.booking 1).map Booking.state = some .confirmed := by
  have hchecked : ((service blankEnv FakePaymentGateway).checked
      (fun w p a => RegularStep w p a ∧ StorableStep w p a) (onSale 1)
      (bookedUnder 123 14)).any (fun w =>
        decide ((w.shared.db.booking 1).map Booking.state = some .confirmed)) = true := by
    decide +kernel
  obtain ⟨w, hrun, htest⟩ := System.exists_run_of_checked hchecked
  have hflights : ∀ f row, (Db.seeded 7 ⟨"CAD"⟩ 25000 1).flight f = some row →
      Varchar 3 row.currency := by
    intro f row hrow
    simp only [Db.seeded] at hrow
    split at hrow
    · obtain rfl := Option.some.inj hrow
      decide
    · simp at hrow
  exact ⟨w, (stored_iff_storable blankEnv_fits (Db.seeded_initial 7 ⟨"CAD"⟩ 25000 1) hflights
    .untouched 0 (bookedUnder 123 14) w).mpr hrun, of_decide_eq_true htest⟩

/-- The body of a booking for two passengers. -/
def pairBody : BookingCreate where
  holdIds := [0, 1]
  passengers := [⟨"Ada", "Lovelace", none, none⟩, ⟨"Grace", "Hopper", none, none⟩]
  cardToken := "tok_test_aaaa11110000"
  contactEmail := none
  holds_nonempty := by simp
  holds_le_six := by simp
  oneSeatPerPassenger := rfl
  holds_nodup := by simp

/-- Two seats at the highest price are held and sent for booking. -/
def bookedDearly : List (ℕ × Input) :=
  asks 0 (.createHold ⟨10, 7, "1A"⟩) 3 (.calm 0) ++
    asks 1 (.createHold ⟨10, 7, "2A"⟩) 3 (.calm 1) ++
      asks 2 (.createBooking ⟨10, "dear-0001", pairBody⟩) 4 (.calm 2)

/-- The booking, if it has committed one, of a saga whose value a column refused. -/
def Proc.refusedData? : Proc → Option (Option BookingId)
  | .booking _ (.release .dataError b) => some b
  | _ => none

theorem Proc.refusedData?_eq_some {P : Proc} {b : Option BookingId} (h : P.refusedData? = some b) :
    ∃ r, P = .booking r (.release .dataError b) := by
  unfold refusedData? at h
  split at h
  · next r b' =>
    obtain rfl := Option.some.inj h
    exact ⟨r, rfl⟩
  · simp at h

/-- **Accepted values that do not fit.**  A key of 124 characters is accepted and
stored with the booking; its seat is pinned when the gateway key is refused.
Two seats at the highest price a column holds add up to more than one holds, and step 1
is refused. -/
theorem values_too_wide :
    (∃ w r, (service blankEnv FakePaymentGateway).Run RegularStep (onSale 1) (bookedUnder 124 6) w ∧
      w.proc 1 = .booking r (.release .dataError (some 1)) ∧
        (w.shared.db.booking 1).isSome ∧ (w.shared.db.seat 0).bookingId = some 1) ∧
    ∃ w r, (service blankEnv FakePaymentGateway).Run RegularStep
        (initialWorld (.seeded 7 ⟨"CAD"⟩ maxAmount 2) .untouched 0) bookedDearly w ∧
      w.proc 2 = .booking r (.release .dataError none) ∧ w.shared.db.booking 2 = none := by
  constructor
  · have hchecked : ((service blankEnv FakePaymentGateway).checked RegularStep (onSale 1)
        (bookedUnder 124 6)).any (fun w =>
          decide ((w.proc 1).refusedData? = some (some 1)) &&
          ((w.shared.db.booking 1).isSome && decide ((w.shared.db.seat 0).bookingId = some 1))) =
            true := by
      decide +kernel
    obtain ⟨w, hrun, htest⟩ := System.exists_run_of_checked hchecked
    obtain ⟨hproc, hbooking, hseat⟩ := by simpa only [Bool.and_eq_true] using htest
    obtain ⟨r, heq⟩ := Proc.refusedData?_eq_some (of_decide_eq_true hproc)
    exact ⟨w, r, hrun, heq, hbooking, of_decide_eq_true hseat⟩
  · have hchecked : ((service blankEnv FakePaymentGateway).checked RegularStep
        (initialWorld (.seeded 7 ⟨"CAD"⟩ maxAmount 2) .untouched 0) bookedDearly).any (fun w =>
          decide ((w.proc 2).refusedData? = some none) &&
            decide (w.shared.db.booking 2 = none)) = true := by
      decide +kernel
    obtain ⟨w, hrun, htest⟩ := System.exists_run_of_checked hchecked
    obtain ⟨hproc, hnone⟩ := Bool.and_eq_true_iff.mp htest
    obtain ⟨r, heq⟩ := Proc.refusedData?_eq_some (of_decide_eq_true hproc)
    exact ⟨w, r, hrun, heq, of_decide_eq_true hnone⟩

end SkyLock
