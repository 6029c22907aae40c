import SkyLock.Effects

/-!
# The columns of a booking

The declared widths of the text columns and the range of the `NUMERIC(12,2)`
columns a booking writes, from `app/domain/models.py`, next to the bounds its
inputs are validated against: `app/schemas/bookings.py` for the body, the
`Idempotency-Key` header of `app/api/bookings.py`, and the generators of
`app/domain/pnr.py`.

A text counts its code points, which is how both sides measure it.

## Main definitions

* `Booking.Fits`, `BookingPassenger.Fits`, `Payment.Fits`, `Ticket.Fits`,
  `BookingAudit.Fits`, `IdempotencyKey.Fits` — the columns of a row.
* `Db.Fits` — every row of the tables a booking writes fits.
* `BookingRequest.Accepted` — what validation guarantees of a request.
* `generatedPnr`, `generatedETicketNumber` — what the two generators return.
-/

namespace SkyLock

/-! ### The texts of the enumerations -/

/-- The text of a payment state. -/
def PaymentState.value : PaymentState → String
  | .pending => "PENDING"
  | .authorized => "AUTHORIZED"
  | .captured => "CAPTURED"
  | .declined => "DECLINED"
  | .voided => "VOIDED"
  | .refunded => "REFUNDED"
  | .unknown => "UNKNOWN"

/-- The text of a claim's state. -/
def IdempotencyState.value : IdempotencyState → String
  | .inProgress => "IN_PROGRESS"
  | .completed => "COMPLETED"

/-- The text of an audit event. -/
def AuditEventType.value : AuditEventType → String
  | .bookingCreated => "BOOKING_CREATED"
  | .seatsLocked => "SEATS_LOCKED"
  | .paymentAuthorized => "PAYMENT_AUTHORIZED"
  | .paymentDeclined => "PAYMENT_DECLINED"
  | .paymentUnknown => "PAYMENT_UNKNOWN"
  | .ticketsIssued => "TICKETS_ISSUED"
  | .ticketingFailed => "TICKETING_FAILED"
  | .bookingConfirmed => "BOOKING_CONFIRMED"
  | .compensationStarted => "COMPENSATION_STARTED"
  | .paymentVoided => "PAYMENT_VOIDED"
  | .paymentRefunded => "PAYMENT_REFUNDED"
  | .compensationFailed => "COMPENSATION_FAILED"
  | .seatsReleased => "SEATS_RELEASED"
  | .holdLost => "HOLD_LOST"
  | .bookingCancelled => "BOOKING_CANCELLED"
  | .passengerUpdated => "PASSENGER_UPDATED"

theorem BookingState.varchar_value (state : BookingState) : Varchar 24 state.value := by
  cases state <;> decide

theorem PaymentState.varchar_value (state : PaymentState) : Varchar 16 state.value := by
  cases state <;> decide

theorem IdempotencyState.varchar_value (state : IdempotencyState) : Varchar 16 state.value := by
  cases state <;> decide

theorem AuditEventType.varchar_value (e : AuditEventType) : Varchar 40 e.value := by
  cases e <;> decide

theorem VarcharOrNull.stateValue (state : Option BookingState) :
    VarcharOrNull 24 (state.map BookingState.value) := by
  cases state with
  | none => exact .none 24
  | some state => exact .some state.varchar_value

/-! ### Rows -/

/-- The columns of a booking. -/
structure Booking.Fits (r : Booking) : Prop where
  ref : Varchar 6 r.ref
  state : Varchar 24 r.state.value
  totalAmount : Numeric r.totalAmount
  currency : Varchar 3 r.currency
  idempotencyKey : VarcharOrNull 128 r.idempotencyKey

/-- The columns of a passenger. -/
structure BookingPassenger.Fits (r : BookingPassenger) : Prop where
  givenName : Varchar 100 r.givenName
  familyName : Varchar 100 r.familyName
  passportLast4 : VarcharOrNull 4 r.passportLast4

/-- The columns of a payment. -/
structure Payment.Fits (r : Payment) : Prop where
  provider : Varchar 32 r.provider
  providerRef : VarcharOrNull 64 r.providerRef
  cardToken : Varchar 64 r.cardToken
  cardFingerprint : Varchar 64 r.cardFingerprint
  cardLast4 : Varchar 4 r.cardLast4
  amount : Numeric r.amount
  currency : Varchar 3 r.currency
  state : Varchar 16 r.state.value
  failureCode : VarcharOrNull 48 r.failureCode
  idempotencyKey : Varchar idempotencyKeyWidth r.idempotencyKey

/-- The columns of a ticket. -/
structure Ticket.Fits (r : Ticket) : Prop where
  eTicketNo : Varchar 16 r.eTicketNo

/-- The columns of an audit row. -/
structure BookingAudit.Fits (r : BookingAudit) : Prop where
  eventType : Varchar 40 r.eventType.value
  actorType : Varchar 16 r.actorType
  fromState : VarcharOrNull 24 (r.fromState.map BookingState.value)
  toState : VarcharOrNull 24 (r.toState.map BookingState.value)

/-- The columns of a claim under the key `key`. -/
structure IdempotencyKey.Fits (key : String) (r : IdempotencyKey) : Prop where
  key : Varchar 128 key
  endpoint : Varchar 80 r.endpoint
  requestHash : Varchar 64 r.requestHash
  state : Varchar 16 r.state.value

/-- Every row of the tables a booking writes fits its columns. -/
structure Db.Fits (db : Db) : Prop where
  booking : ∀ b row, db.booking b = some row → row.Fits
  passengers : ∀ q ∈ db.passengers, q.Fits
  payments : ∀ pay ∈ db.payments, pay.Fits
  tickets : ∀ t ∈ db.tickets, t.Fits
  audit : ∀ a ∈ db.audit, a.Fits
  claims : ∀ k c, db.claims k = some c → c.Fits k.1

/-! ### What is accepted -/

/-- A letter of `NameField`. -/
def nameLetter (c : Char) : Bool :=
  ('A' ≤ c && c ≤ 'Z') || ('a' ≤ c && c ≤ 'z') || ('À' ≤ c && c ≤ 'Ö') || ('Ø' ≤ c && c ≤ 'ö') ||
    ('ø' ≤ c && c ≤ 'ÿ')

/-- The pattern of `NameField`. -/
def namePattern : List Char → Bool
  | [] => false
  | c :: cs => nameLetter c && cs.all fun c => nameLetter c || "-'. ".toList.contains c

/-- `NameField`. -/
def nameField (t : String) : Bool :=
  1 ≤ t.length && t.length ≤ 100 && namePattern t.toList

/-- `[A-Za-z0-9]`. -/
def asciiAlphanumeric (c : Char) : Bool :=
  ('A' ≤ c && c ≤ 'Z') || ('a' ≤ c && c ≤ 'z') || ('0' ≤ c && c ≤ '9')

/-- The rest of a card token after `tok_test_` or `tok_live_`. -/
def cardTokenRest (cs : List Char) : Bool :=
  8 ≤ cs.length && cs.length ≤ 48 && cs.all asciiAlphanumeric

/-- `CardToken`. -/
def cardTokenField (t : String) : Bool :=
  12 ≤ t.length && t.length ≤ 64 &&
    ["tok_test_".toList, "tok_live_".toList].any fun head =>
      head.isPrefixOf t.toList && cardTokenRest (t.toList.drop head.length)

/-- The passport number of `PassengerIn`. -/
def passportField (t : String) : Bool :=
  6 ≤ t.length && t.length ≤ 12 && t.toList.all asciiAlphanumeric

/-- `IdempotencyKeyHeader`. -/
def idempotencyKeyHeader (t : String) : Bool :=
  8 ≤ t.length && t.length ≤ 128 &&
    t.toList.all fun c => asciiAlphanumeric c || "_.:-".toList.contains c

/-- `PassengerIn` accepts the passenger. -/
def PassengerIn.accepted (p : PassengerIn) : Bool :=
  nameField p.givenName && nameField p.familyName && p.passportNumber.all passportField

/-- `BookingCreate` accepts the body; the structure says the rest of it. -/
def BookingCreate.accepted (b : BookingCreate) : Bool :=
  b.passengers.all PassengerIn.accepted && cardTokenField b.cardToken &&
    b.contactEmail.all fun t => t.length ≤ 320

/-- `PNR_ALPHABET`. -/
def pnrAlphabet : List Char := "23456789ACDEFGHJKLMNPQRSTUVWXYZ".toList

/-- What `generate_pnr` returns. -/
def generatedPnr (t : String) : Bool :=
  t.length = 6 && t.toList.all fun c => pnrAlphabet.contains c

/-- What `generate_eticket_number` returns. -/
def generatedETicketNumber (t : String) : Bool :=
  "014".toList.isPrefixOf t.toList && t.length = 13 &&
    (t.toList.drop 3).all fun c => '0' ≤ c && c ≤ '9'

example : idempotencyKeyHeader "tally-0001" = true := by decide +kernel

/-! ### Accepted values against column types -/

theorem varchar_last4 (t : String) : Varchar 4 (last4 t) := by
  have hlen : (last4 t).length = t.toList.length - (t.toList.length - 4) := by
    simp [last4, String.length_ofList]
  unfold Varchar
  omega

theorem varchar_of_nameField {t : String} (h : nameField t = true) : Varchar 100 t := by
  simp only [nameField, Bool.and_eq_true, decide_eq_true_eq] at h
  exact h.1.2

theorem varchar_of_cardTokenField {t : String} (h : cardTokenField t = true) : Varchar 64 t := by
  simp only [cardTokenField, Bool.and_eq_true, decide_eq_true_eq] at h
  exact h.1.2

theorem varchar_of_idempotencyKeyHeader {t : String} (h : idempotencyKeyHeader t = true) :
    Varchar 128 t := by
  simp only [idempotencyKeyHeader, Bool.and_eq_true, decide_eq_true_eq] at h
  exact h.1.2

theorem varchar_of_generatedPnr {t : String} (h : generatedPnr t = true) : Varchar 6 t := by
  simp only [generatedPnr, Bool.and_eq_true, decide_eq_true_eq] at h
  exact h.1.le

theorem varchar_of_generatedETicketNumber {t : String} (h : generatedETicketNumber t = true) :
    Varchar 16 t := by
  simp only [generatedETicketNumber, Bool.and_eq_true, decide_eq_true_eq] at h
  have hlen := h.1.2
  unfold Varchar
  omega

/-- What `gateway_key` appends takes five characters. -/
theorem length_gatewayKey (key : String) : (gatewayKey key).length = key.length + 5 := by
  have hsuffix : ":auth".length = 5 := by decide
  rw [gatewayKey, String.length_append, hsuffix]

/-! ### What the statements keep -/

/-- A flush of a payment instance leaves a row that fits, where the references
it assigns do. -/
theorem Payment.Fits.merge {loaded current stored : Payment} (h : stored.Fits)
    (href : current.providerRef = loaded.providerRef ∨ VarcharOrNull 64 current.providerRef)
    (hcode : current.failureCode = loaded.failureCode ∨ VarcharOrNull 48 current.failureCode) :
    (Payment.merge loaded current stored).Fits where
  provider := h.provider
  providerRef := by
    rcases eq_or_ne current.providerRef loaded.providerRef with hclean | hdirty
    · simpa [Payment.merge, hclean] using h.providerRef
    · simpa [Payment.merge, Orm.writeBack_dirty _ hdirty] using href.resolve_left hdirty
  cardToken := h.cardToken
  cardFingerprint := h.cardFingerprint
  cardLast4 := h.cardLast4
  amount := h.amount
  currency := h.currency
  state := PaymentState.varchar_value _
  failureCode := by
    rcases eq_or_ne current.failureCode loaded.failureCode with hclean | hdirty
    · simpa [Payment.merge, hclean] using h.failureCode
    · simpa [Payment.merge, Orm.writeBack_dirty _ hdirty] using hcode.resolve_left hdirty
  idempotencyKey := h.idempotencyKey

namespace Db.Fits

variable {db : Db}

/-- Writes to the seats do not count. -/
theorem of_eq {db' : Db} (h : db.Fits) (hb : db'.booking = db.booking)
    (hp : db'.passengers = db.passengers) (hpay : db'.payments = db.payments)
    (ht : db'.tickets = db.tickets) (ha : db'.audit = db.audit) (hc : db'.claims = db.claims) :
    db'.Fits where
  booking := by rw [hb]; exact h.booking
  passengers := by rw [hp]; exact h.passengers
  payments := by rw [hpay]; exact h.payments
  tickets := by rw [ht]; exact h.tickets
  audit := by rw [ha]; exact h.audit
  claims := by rw [hc]; exact h.claims

theorem flushSeats (h : db.Fits) (dirty : List (SeatInstance × SeatInventory)) :
    (db.flushSeats dirty).Fits := h.of_eq rfl rfl rfl rfl rfl rfl

theorem updateSeats (h : db.Fits) (p : SeatId → SeatInventory → Bool)
    (f : SeatInventory → SeatInventory) : (db.updateSeats p f).Fits :=
  h.of_eq rfl rfl rfl rfl rfl rfl

/-- An audit row fits whatever it records. -/
theorem record (h : db.Fits) (b : BookingId) (e : AuditEventType) (u : Option UserId)
    (fromState toState : Option BookingState) (d : List (String × JsonValue)) :
    (db.record b e u fromState toState d).Fits :=
  { booking := h.booking, passengers := h.passengers, payments := h.payments
    tickets := h.tickets, claims := h.claims
    audit := by
      rintro a (_ | ⟨_, ha⟩)
      · refine ⟨e.varchar_value, ?_, .stateValue fromState, .stateValue toState⟩
        dsimp only
        split <;> decide
      · exact h.audit a ha }

theorem note (h : db.Fits) (b : BookingId) (e : AuditEventType)
    (d : List (String × JsonValue)) : (db.note b e d).Fits := h.record b e none none none d

/-- Whatever a transaction notes of a booking fits. -/
theorem noted (h : db.Fits) {b : BookingId} {rows : List BookingAudit}
    (hrows : Noted b db.audit rows) : ({ db with audit := rows } : Db).Fits := by
  suffices haudit : ∀ a ∈ rows, a.Fits from
    { booking := h.booking, passengers := h.passengers, payments := h.payments
      tickets := h.tickets, claims := h.claims, audit := haudit }
  induction hrows with
  | refl => exact h.audit
  | @note db₁ e d _ _ ih =>
    -- only the audit trail of the database in between is known
    have hbetween : ({ db with audit := db₁.audit } : Db).Fits :=
      { booking := h.booking, passengers := h.passengers, payments := h.payments
        tickets := h.tickets, claims := h.claims, audit := ih }
    exact (hbetween.note b e d).audit

theorem flushBookingState (h : db.Fits) (b : BookingId) (loaded current : BookingState) :
    (db.flushBookingState b loaded current).Fits :=
  { booking := by
      intro k row hrow
      rw [Db.flushBookingState_booking] at hrow
      dsimp only at hrow
      split at hrow
      · obtain ⟨row₀, hrow₀, rfl⟩ := Option.map_eq_some_iff.mp hrow
        have hfits := h.booking k row₀ hrow₀
        exact ⟨hfits.ref, BookingState.varchar_value _, hfits.totalAmount, hfits.currency,
          hfits.idempotencyKey⟩
      · exact h.booking k row hrow
    passengers := h.passengers, payments := h.payments, tickets := h.tickets, audit := h.audit
    claims := h.claims }

theorem flushPayment (h : db.Fits) (loaded current : Payment)
    (href : current.providerRef = loaded.providerRef ∨ VarcharOrNull 64 current.providerRef)
    (hcode : current.failureCode = loaded.failureCode ∨ VarcharOrNull 48 current.failureCode) :
    (db.flushPayment loaded current).Fits :=
  { booking := h.booking, passengers := h.passengers, tickets := h.tickets, audit := h.audit
    claims := h.claims
    payments := by
      intro r hr
      obtain ⟨r₀, hr₀, rfl⟩ := Db.mem_flushPayment.mp hr
      split
      · exact (h.payments r₀ hr₀).merge href hcode
      · exact h.payments r₀ hr₀ }

theorem voidTickets (h : db.Fits) (b : BookingId) (now : Time) :
    (voidTickets db b now).Fits :=
  { booking := h.booking, passengers := h.passengers, payments := h.payments, audit := h.audit
    claims := h.claims
    tickets := by
      intro t ht
      obtain ⟨t₀, ht₀, rfl⟩ := List.mem_map.mp ht
      split
      · exact ⟨(h.tickets t₀ ht₀).eTicketNo⟩
      · exact h.tickets t₀ ht₀ }

theorem releaseSeatsForBooking (h : db.Fits) (b : BookingId) (now : Time) :
    (releaseSeatsForBooking db b now).1.Fits :=
  Db.Fits.updateSeats (h.voidTickets b now) (fun _ r => r.bookingId = some b)
    SeatInventory.returned

theorem insertTickets (h : db.Fits) {tickets : List Ticket} (ht : ∀ t ∈ tickets, t.Fits) :
    (insertTickets db tickets).Fits :=
  { booking := h.booking, passengers := h.passengers, payments := h.payments, audit := h.audit
    claims := h.claims
    tickets := fun t hmem => (List.mem_append.mp hmem).elim (ht t) (h.tickets t) }

theorem insertPayment (h : db.Fits) {pay : Payment} (hpay : pay.Fits) :
    (insertPayment db pay).Fits :=
  { booking := h.booking, passengers := h.passengers, tickets := h.tickets, audit := h.audit
    claims := h.claims
    payments := fun r hr => (List.mem_cons.mp hr).elim (fun heq => heq ▸ hpay) (h.payments r) }

theorem insertBooking (h : db.Fits) (b : BookingId) {row : Booking} (hrow : row.Fits)
    {passengers : List BookingPassenger} (hq : ∀ q ∈ passengers, q.Fits) :
    (insertBooking db b row passengers).Fits :=
  { payments := h.payments, tickets := h.tickets, audit := h.audit, claims := h.claims
    booking := by
      intro k row' hrow'
      simp only [insertBooking_booking, Function.update_apply] at hrow'
      split at hrow'
      · obtain rfl := Option.some.inj hrow'
        exact hrow
      · exact h.booking k row' hrow'
    passengers := fun q hmem => (List.mem_append.mp hmem).elim (h.passengers q) (hq q) }

end Db.Fits

end SkyLock
