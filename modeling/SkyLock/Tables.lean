import SkyLock.SeatWrites

/-!
# The tables stay consistent

The shared half of the proof outline.  Only step 1 of a saga brings rows into
being that other tables refer to, so it is treated apart from the other steps,
which keep every booking, passenger and seat where it is.

## Main definitions

* `KeepsRows` — what every step but step 1 leaves alone.

## Main results

* `Step.mem_tickets` — where a ticket comes from.
* `Step.payments`, `Step.unborn` — the payment table, and the UUIDs to come.
* `Step.tables` — **every step keeps the tables consistent**.
-/

namespace SkyLock

open Concurrent

variable {G : Type} [PaymentGateway G] {env : Env} {s s' : Shared G} {p : ℕ}

/-! ### The state machine's guard -/

omit [PaymentGateway G] in
/-- The guard raises `IllegalTransition`, which is not an `AppError`. -/
theorem raised_of_assertCanTransition {current target : BookingState} {e : Failure}
    (h : assertCanTransition current target = some e) (b : Option BookingId) :
    raised e b = .release e b := by
  unfold assertCanTransition at h
  split at h
  · exact absurd h (by simp)
  · obtain rfl := Option.some.inj h
    rfl

omit [PaymentGateway G] in
theorem raised_of_issueFails {x : Draws} {σ : Saga} {e : Failure} (h : IssueFails s x σ e)
    (b : Option BookingId) : raised e b = .release e b := by
  cases h with
  | tickets => rfl
  | seats => rfl
  | illegal h => exact raised_of_assertCanTransition h b
  | audit => rfl

/-! ### The payment instance in a process's hands -/

omit [PaymentGateway G] in
/-- A payment instance stands for a row of the booking its holder works on. -/
theorem Proc.Outline.instance_row {P : Proc} (ho : P.Outline s) {pay : Payment}
    (hpay : P.instance? = some pay) :
    ∃ b, P.writes = some b ∧ ∃ r ∈ s.db.paymentsOf b, r.id = pay.id := by
  cases P with
  | booking r pc =>
    have hmem : ∀ b, pc.saga?.map Saga.bookingId = some b → (s.db.paymentsOf b) = [pay] →
        ∃ b, (Proc.booking r pc).writes = some b ∧ ∃ r ∈ s.db.paymentsOf b, r.id = pay.id :=
      fun b hb hrow => ⟨b, hb, pay, by rw [hrow]; simp, rfl⟩
    cases pc <;> simp only [Proc.instance?, BookingPc.instance?, reduceCtorEq] at hpay
    case failSelect σ f =>
      have hj := (ho σ.bookingId rfl).2.2
      obtain ⟨⟨loaded, current⟩, hf, rfl⟩ := Option.map_eq_some_iff.mp hpay
      simp only [PaymentFailure.Journals, hf] at hj
      exact hmem σ.bookingId rfl hj.2.1
    case failCommit σ f rows =>
      have hj := (ho σ.bookingId rfl).2.2.1
      obtain ⟨⟨loaded, current⟩, hf, rfl⟩ := Option.map_eq_some_iff.mp hpay
      simp only [PaymentFailure.Journals, hf] at hj
      exact hmem σ.bookingId rfl hj.2.1
    case authorize σ _ =>
      obtain rfl := Option.some.inj hpay
      exact hmem σ.bookingId rfl (ho σ.bookingId rfl).2.2.2.1
    case journalUnknown σ _ | retryAuthorize σ _ | recordAuthorized σ _ _ | capture σ _
      | confirm σ _ =>
      obtain rfl := Option.some.inj hpay
      exact hmem σ.bookingId rfl (ho σ.bookingId rfl).2.2.2.1
    case issueTickets σ _ | reverse σ _ _ =>
      obtain rfl := Option.some.inj hpay
      exact hmem σ.bookingId rfl (ho σ.bookingId rfl).2.2.2.row
    case finishVoided σ _ _ | finishReview σ _ _ _ =>
      obtain rfl := Option.some.inj hpay
      obtain ⟨cs, -, hcharged⟩ := (ho σ.bookingId rfl).2.2.2
      exact hmem σ.bookingId rfl hcharged.row
  | cancel r pc =>
    have hb : ∃ b, pc.booking? = some b := by
      cases pc <;> simp [Proc.instance?, CancelPc.instance?, CancelPc.booking?] at hpay ⊢
    obtain ⟨b, hb⟩ := hb
    obtain ⟨row, hmem, hid, -⟩ := ((ho b hb).2.payment pay hpay).row
    exact ⟨b, hb, row, hmem, hid⟩
  | idle | hold | release | sweep => exact absurd hpay (by simp [Proc.instance?])

omit [PaymentGateway G] in
/-- No other booking's payment has its key. -/
theorem Proc.Outline.instance_ne {P : Proc} (ho : P.Outline s) (ht : Tables s) {b : BookingId}
    (hw : P.writes ≠ some b) {pay : Payment} (hpay : P.instance? = some pay) :
    ∀ r ∈ s.db.payments, r.id = pay.id → r.bookingId ≠ b := by
  intro r hr hid hb
  obtain ⟨b', hb', row, hmem, hid'⟩ := ho.instance_row hpay
  obtain ⟨hrow, hrowb⟩ := Db.mem_paymentsOf.mp hmem
  have hsame := ht.payments.ids r hr row hrow (hid.trans hid'.symm)
  exact hw (by rw [hb', ← hrowb, ← hsame, hb])

omit [PaymentGateway G] in
/-- A process works on a booking that has been born. -/
theorem Proc.Outline.writes_lt {P : Proc} (ho : P.Outline s) {b : BookingId}
    (hw : P.writes = some b) : b < s.uuid := by
  cases P with
  | booking r pc =>
    have hb : pc.booking? = some b := by
      cases pc <;> simp_all [Proc.writes, BookingPc.saga?, BookingPc.booking?]
    exact (ho b hb).1
  | cancel r pc => exact (ho b hw).1
  | idle | hold | release | sweep => exact absurd hw (by simp [Proc.writes])

/-! ### What every step keeps -/

theorem Step.uuid_le {P P' : Proc} {a : Input} (h : Step env s p P a s' P') : s.uuid ≤ s'.uuid := by
  cases h
  case booking r x pc pc' h => cases h <;> simp [Shared.authorized, Shared.captured, Shared.reversed]
  case hold r x pc pc' h => cases h <;> simp
  case release r x pc pc' h => cases h <;> simp
  case cancel r x pc pc' h => cases h <;> simp [Shared.refunded]
  case sweep x pc pc' h => cases h; simp
  all_goals simp

/-- The process that opens a booking. -/
def Proc.opening : Proc → Prop
  | .booking _ .openBooking => True
  | _ => False

/-- Apart from step 1, no step adds a booking or a passenger, and a booking's row
changes in its state only. -/
structure KeepsRows (s s' : Shared G) : Prop where
  seatIds : s'.db.seatIds = s.db.seatIds
  flight : s'.db.flight = s.db.flight
  passengers : s'.db.passengers = s.db.passengers
  bookingRef : s'.db.bookingRef = s.db.bookingRef
  booking : ∀ b, s'.db.booking b = s.db.booking b ∨
    ∃ loaded current, s'.db.booking b = (s.db.booking b).map (Booking.merge loaded current)

omit [PaymentGateway G] in
theorem KeepsRows.of_flush {b : BookingId} {loaded current : BookingState}
    (hids : s'.db.seatIds = s.db.seatIds) (hf : s'.db.flight = s.db.flight)
    (hq : s'.db.passengers = s.db.passengers)
    (hr : s'.db.bookingRef = s.db.bookingRef)
    (hb : ∀ k, s'.db.booking k =
      if k = b then (s.db.booking k).map (Booking.merge loaded current) else s.db.booking k) :
    KeepsRows s s' := by
  refine ⟨hids, hf, hq, hr, fun k => ?_⟩
  rw [hb k]
  split
  · exact .inr ⟨loaded, current, rfl⟩
  · exact .inl rfl

theorem Step.keepsRows {P P' : Proc} {a : Input} (h : Step env s p P a s' P')
    (hP : ¬ P.opening) : KeepsRows s s' := by
  cases h
  case booking r x pc pc' h =>
    cases h
    case opens => exact absurd trivial hP
    case fails | recordsAuthorized | issues | refuses | voids | flags | confirms =>
      exact .of_flush rfl rfl rfl rfl fun k => rfl
    all_goals exact ⟨rfl, rfl, rfl, rfl, fun b => .inl rfl⟩
  case cancel r x pc pc' h =>
    cases h
    case finishes | reviews => exact .of_flush rfl rfl rfl rfl fun k => rfl
    all_goals exact ⟨rfl, rfl, rfl, rfl, fun b => .inl rfl⟩
  case hold r x pc pc' h => cases h <;> exact ⟨rfl, rfl, rfl, rfl, fun b => .inl rfl⟩
  case release r x pc pc' h => cases h <;> exact ⟨rfl, rfl, rfl, rfl, fun b => .inl rfl⟩
  case sweep x pc pc' h => cases h; exact ⟨rfl, rfl, rfl, rfl, fun b => .inl rfl⟩
  all_goals exact ⟨rfl, rfl, rfl, rfl, fun b => .inl rfl⟩

/-- The inventory and the flights are fixed. -/
theorem Step.inventory_eq {P P' : Proc} {a : Input} (h : Step env s p P a s' P') :
    s'.db.seatIds = s.db.seatIds ∧ s'.db.flight = s.db.flight := by
  by_cases hopening : P.opening
  · cases h <;> try exact hopening.elim
    case booking r x pc pc' h => cases h <;> exact ⟨rfl, rfl⟩
  · exact ⟨(h.keepsRows hopening).seatIds, (h.keepsRows hopening).flight⟩

theorem Step.seatIds_eq {P P' : Proc} {a : Input} (h : Step env s p P a s' P') :
    s'.db.seatIds = s.db.seatIds :=
  h.inventory_eq.1

omit [PaymentGateway G] in
theorem KeepsRows.booking_some (h : KeepsRows s s') {b : BookingId} {row : Booking}
    (hb : s.db.booking b = some row) :
    ∃ row', s'.db.booking b = some row' ∧ row'.ref = row.ref ∧ row'.userId = row.userId ∧
      row'.flightId = row.flightId := by
  rcases h.booking b with h | ⟨loaded, current, h⟩
  · exact ⟨row, h.trans hb, rfl, rfl, rfl⟩
  · exact ⟨row.merge loaded current, by rw [h, hb]; rfl, rfl, rfl, rfl⟩

omit [PaymentGateway G] in
theorem KeepsRows.of_booking_some (h : KeepsRows s s') {b : BookingId} {row' : Booking}
    (hb : s'.db.booking b = some row') :
    ∃ row, s.db.booking b = some row ∧ row'.ref = row.ref ∧ row'.userId = row.userId ∧
      row'.flightId = row.flightId := by
  rcases h.booking b with h | ⟨loaded, current, h⟩
  · exact ⟨row', h.symm.trans hb, rfl, rfl, rfl⟩
  · rw [h] at hb
    obtain ⟨row, hrow, rfl⟩ := Option.map_eq_some_iff.mp hb
    exact ⟨row, hrow, rfl, rfl, rfl⟩

/-! ### The payment table -/

namespace PaymentTable

variable {db : Db} {uuid : ℕ}

theorem mono {db' : Db} {uuid' : ℕ} (h : PaymentTable db uuid) (hdb : db'.payments = db.payments)
    (hu : uuid ≤ uuid') : PaymentTable db' uuid' where
  lt r hr := (h.lt r (hdb ▸ hr)).trans_le hu
  ids r hr r' hr' := h.ids r (hdb ▸ hr) r' (hdb ▸ hr')
  one b := by
    have heq : db'.paymentsOf b = db.paymentsOf b := by simp [Db.paymentsOf, hdb]
    rw [heq]
    exact h.one b
  ref r hr := h.ref r (hdb ▸ hr)

/-- A booking's one payment is the row with its key. -/
theorem eq_of_id {b : BookingId} {pay r : Payment} (h : PaymentTable db uuid)
    (hrow : db.paymentsOf b = [pay]) (hr : r ∈ db.payments) (hid : r.id = pay.id) : r = pay := by
  have hpay := Db.mem_paymentsOf.mp (hrow ▸ List.mem_singleton_self pay)
  have hrb : r.bookingId = b := (h.ids r hr pay hpay.1 hid).trans hpay.2
  have hmem : r ∈ db.paymentsOf b := Db.mem_paymentsOf.mpr ⟨hr, hrb⟩
  rw [hrow] at hmem
  exact List.mem_singleton.mp hmem

/-- The INSERT of a first payment keeps the table. -/
theorem insert {pay : Payment} (h : PaymentTable db uuid) (hid : pay.id = uuid)
    (hnone : db.paymentsOf pay.bookingId = []) (href : pay.state = .pending) :
    PaymentTable (insertPayment db pay) (uuid + 1) where
  lt r hr := by
    rcases List.mem_cons.mp hr with hpay | hold
    · rw [hpay, hid]
      exact Nat.lt_succ_self uuid
    · exact (h.lt r hold).trans (Nat.lt_succ_self uuid)
  ids r hr r' hr' heq := by
    rcases List.mem_cons.mp hr with hpay | hold <;> rcases List.mem_cons.mp hr' with hpay' | hold'
    · rw [hpay, hpay']
    · rw [hpay, hid] at heq
      exact absurd heq (h.lt r' hold').ne'
    · rw [hpay', hid] at heq
      exact absurd heq (h.lt r hold).ne
    · exact h.ids r hold r' hold' heq
  one b := by
    by_cases hb : pay.bookingId = b
    · subst hb
      have hcons : (insertPayment db pay).paymentsOf pay.bookingId =
          pay :: db.paymentsOf pay.bookingId := by simp [Db.paymentsOf]
      rw [hcons, hnone]
      rfl
    · have hsame : (insertPayment db pay).paymentsOf b = db.paymentsOf b := by
        simp [Db.paymentsOf, hb]
      rw [hsame]
      exact h.one b
  ref r hr hstate := by
    rcases List.mem_cons.mp hr with hpay | hold
    · rw [hpay, href] at hstate
      simp at hstate
    · exact h.ref r hold hstate

/-- A flush keeps the table where what it makes of its row does. -/
theorem flush {loaded current : Payment} (h : PaymentTable db uuid)
    (href : ∀ r ∈ db.payments, r.id = loaded.id →
      (Payment.merge loaded current r).state = .authorized ∨
        (Payment.merge loaded current r).state = .captured →
      (Payment.merge loaded current r).providerRef.isSome) :
    PaymentTable (db.flushPayment loaded current) uuid := by
  have hid : ∀ r : Payment, (if r.id = loaded.id then Payment.merge loaded current r else r).id =
      r.id ∧ (if r.id = loaded.id then Payment.merge loaded current r else r).bookingId =
        r.bookingId := by
    intro r
    split <;> exact ⟨rfl, rfl⟩
  refine ⟨?_, ?_, ?_, ?_⟩
  · intro r hr
    obtain ⟨r₀, hr₀, rfl⟩ := Db.mem_flushPayment.mp hr
    rw [(hid r₀).1]
    exact h.lt r₀ hr₀
  · intro r hr r' hr' heq
    obtain ⟨r₀, hr₀, rfl⟩ := Db.mem_flushPayment.mp hr
    obtain ⟨r₁, hr₁, rfl⟩ := Db.mem_flushPayment.mp hr'
    rw [(hid r₀).1, (hid r₁).1] at heq
    rw [(hid r₀).2, (hid r₁).2]
    exact h.ids r₀ hr₀ r₁ hr₁ heq
  · intro b
    rw [Db.paymentsOf_flushPayment, List.length_map]
    exact h.one b
  · intro r hr
    obtain ⟨r₀, hr₀, rfl⟩ := Db.mem_flushPayment.mp hr
    split
    · next hr₀id => exact href r₀ hr₀ hr₀id
    · exact h.ref r₀ hr₀

/-- The saga's flush of a booking's one payment assigns its three columns. -/
theorem flush_own {b : BookingId} {loaded current : Payment} (h : PaymentTable db uuid)
    (hrow : db.paymentsOf b = [loaded])
    (href : current.state = .authorized ∨ current.state = .captured → current.providerRef.isSome) :
    PaymentTable (db.flushPayment loaded current) uuid := by
  refine h.flush fun r hr hid => ?_
  obtain rfl := h.eq_of_id hrow hr hid
  rw [Payment.merge_fresh]
  exact href

theorem paymentsOf_flush {b : BookingId} {loaded current : Payment}
    (hrow : db.paymentsOf b = [loaded]) : (db.flushPayment loaded current).paymentsOf b =
      [{ loaded with
          state := current.state, providerRef := current.providerRef
          failureCode := current.failureCode }] := by
  rw [Db.paymentsOf_flushPayment, hrow]
  simp [Payment.merge_fresh]

end PaymentTable

/-! ### Tickets -/

/-- A ticket `_issue_tickets` inserts is live, and one passenger's for that
passenger's seat. -/
theorem mem_newTickets {b : BookingId} {uuid : ℕ} {now : Time} {eTicketNo : ℕ → String}
    {assigned : List (BookingPassenger × SeatInstance)} {t : Ticket}
    (h : t ∈ newTickets b uuid now eTicketNo assigned) :
    ∃ pi ∈ assigned, t.passengerId = pi.1.id ∧ t.seatInventoryId = pi.2.id ∧ t.bookingId = b ∧
      t.voidedAt = none := by
  obtain ⟨k, hk, rfl⟩ := List.mem_mapIdx.mp h
  exact ⟨assigned[k], List.getElem_mem hk, rfl, rfl, rfl, rfl⟩

/-- Each passenger is assigned the seat its row names. -/
theorem Saga.Seated.seat_of_assigned {σ : Saga} (h : σ.Seated)
    {assigned : List (BookingPassenger × SeatInstance)} (ha : σ.assigned = some assigned)
    {pi : BookingPassenger × SeatInstance} (hpi : pi ∈ assigned) :
    pi.1 ∈ σ.passengers ∧ pi.2 ∈ σ.seats ∧ pi.1.seatInventoryId = some pi.2.id := by
  obtain rfl : σ.passengers.zip σ.seats = assigned := by
    rw [h.assigned_eq] at ha
    exact Option.some.inj ha
  obtain ⟨hq, hi⟩ := List.of_mem_zip hpi
  refine ⟨hq, hi, ?_⟩
  obtain ⟨n, hn, rfl⟩ := List.getElem_of_mem hpi
  have hseats := congrArg (fun l => l[n]?) h.seats
  simp only [List.length_zip, Nat.lt_min] at hn
  simpa [hn.1, hn.2] using hseats

/-- The columns of a saga's tickets, in its passengers' order. -/
theorem newTickets_columns {σ : Saga} (h : σ.Seated)
    {assigned : List (BookingPassenger × SeatInstance)} (ha : σ.assigned = some assigned)
    (b : BookingId) (uuid : ℕ) (now : Time) (eTicketNo : ℕ → String) :
    (newTickets b uuid now eTicketNo assigned).map Ticket.seatInventoryId =
        σ.seats.map Orm.Instance.id ∧
      (newTickets b uuid now eTicketNo assigned).map Ticket.passengerId =
        σ.passengers.map BookingPassenger.id ∧
      (newTickets b uuid now eTicketNo assigned).map Ticket.eTicketNo =
        (List.range σ.passengers.length).map eTicketNo := by
  obtain ⟨hfst, hsnd⟩ := h.mem_assigned ha
  have hlen : assigned.length = σ.passengers.length := by
    rw [← hfst, List.length_map]
  refine ⟨?_, ?_, ?_⟩
  · rw [← hsnd, List.map_map]
    apply List.ext_getElem <;> simp [newTickets, newTicket]
  · rw [← hfst, List.map_map]
    apply List.ext_getElem <;> simp [newTickets, newTicket]
  · apply List.ext_getElem <;> simp [newTickets, newTicket, hlen]

/-- Where the tickets of a step come from: they were there, perhaps unvoided, or
ticketing inserted them. -/
theorem Step.mem_tickets {P P' : Proc} {a : Input} (h : Step env s p P a s' P') {t : Ticket}
    (ht : t ∈ s'.db.tickets) :
    (∃ t₀ ∈ s.db.tickets, t₀.bookingId = t.bookingId ∧ t₀.passengerId = t.passengerId ∧
      t₀.seatInventoryId = t.seatInventoryId) ∨
    ∃ r σ pay assigned eTicketNo, P = .booking r (.issueTickets σ pay) ∧
      σ.assigned = some assigned ∧
        t ∈ newTickets σ.bookingId s.uuid s.clock eTicketNo assigned := by
  have hkept : ∀ db : Db, t ∈ db.tickets → db.tickets = s.db.tickets →
      ∃ t₀ ∈ s.db.tickets, t₀.bookingId = t.bookingId ∧ t₀.passengerId = t.passengerId ∧
        t₀.seatInventoryId = t.seatInventoryId :=
    fun db hmem heq => ⟨t, heq ▸ hmem, rfl, rfl, rfl⟩
  have hvoid : ∀ (db : Db) (b : BookingId) (now : Time), t ∈ (voidTickets db b now).tickets →
      db.tickets = s.db.tickets → ∃ t₀ ∈ s.db.tickets, t₀.bookingId = t.bookingId ∧
        t₀.passengerId = t.passengerId ∧ t₀.seatInventoryId = t.seatInventoryId := by
    intro db b now hmem heq
    obtain ⟨t₀, ht₀, rfl⟩ := List.mem_map.mp hmem
    refine ⟨t₀, heq ▸ ht₀, ?_⟩
    split <;> exact ⟨rfl, rfl, rfl⟩
  cases h
  case booking r x pc pc' h =>
    cases h
    case issues σ pay assigned rows _ _ _ hassigned _ _ _ _ _ =>
      rcases List.mem_append.mp ht with hnew | hold
      · exact .inr ⟨r, σ, pay, assigned, x.eTicketNo, rfl, hassigned, hnew⟩
      · exact .inl ⟨t, hold, rfl, rfl, rfl⟩
    case voids σ pay reason _ _ =>
      exact .inl (hvoid _ _ _ ht rfl)
    case flags σ pay reason error _ => exact .inl (hvoid _ _ _ ht rfl)
    all_goals exact .inl (hkept _ ht rfl)
  case cancel r x pc pc' h =>
    cases h
    case finishes b state refunded _ _ => exact .inl (hvoid _ _ _ ht rfl)
    all_goals exact .inl (hkept _ ht rfl)
  case hold r x pc pc' h => cases h <;> exact .inl (hkept _ ht rfl)
  case release r x pc pc' h => cases h <;> exact .inl (hkept _ ht rfl)
  case sweep x pc pc' h => cases h; exact .inl (hkept _ ht rfl)
  all_goals exact .inl (hkept _ ht rfl)

/-! ### The tables -/

omit [PaymentGateway G] in
/-- No writer moves a seat to another flight. -/
theorem SeatWrite.flightId {k : SeatId} {P P' : Proc} {row : SeatInventory}
    (h : SeatWrite env s k P P' row) : row.flightId = (s.db.seat k).flightId := by
  cases h <;> rfl

omit [PaymentGateway G] in
/-- Every writer leaves a row that satisfies the CHECK constraints. -/
theorem SeatWrite.checks {k : SeatId} {P P' : Proc} {row : SeatInventory}
    (h : SeatWrite env s k P P' row) (hold : (s.db.seat k).checks = true) : row.checks = true := by
  cases h
  case kept => exact hold
  case pins hstatus _ _ _ =>
    simpa [SeatInventory.checks, SeatInventory.pinned, hstatus] using hold
  case unpins hstatus => simpa [SeatInventory.checks, hstatus] using hold
  case tickets hbooking => simpa [SeatInventory.checks] using hbooking
  case returns => rfl
  case acquires => rfl
  case releases => rfl
  case sweeps => rfl

omit [PaymentGateway G] in
/-- A row pinned to a booking was pinned to it, or step 1 has just pinned it. -/
theorem SeatWrite.bookingId {k : SeatId} {P P' : Proc} {row : SeatInventory} {b : BookingId}
    (h : SeatWrite env s k P P' row) (hb : row.bookingId = some b) :
    (s.db.seat k).bookingId = some b ∨ P.opening ∧ b = s.uuid := by
  cases h
  case pins => exact .inr ⟨trivial, (Option.some.inj hb).symm⟩
  case kept | tickets | releases | sweeps => exact .inl hb
  case unpins | returns | acquires => exact absurd hb (by simp [SeatInventory.returned,
    SeatInventory.heldBy])

/-- After step 1 a booking's seats become no more. -/
theorem Step.seatsOf_subset {P P' : Proc} {a : Input} (h : Step env s p P a s' P')
    (ho : P.Outline s) {b : BookingId} (hb : b < s.uuid) : s'.db.seatsOf b ⊆ s.db.seatsOf b := by
  intro k hk
  simp only [Db.seatsOf, List.mem_filter, decide_eq_true_eq, h.seatIds_eq] at hk ⊢
  rcases (h.seatWrite ho k).bookingId hk.2 with hold | ⟨-, rfl⟩
  · exact ⟨hk.1, hold⟩
  · exact absurd hb (lt_irrefl _)

theorem Step.payments {P P' : Proc} {a : Input} (h : Step env s p P a s' P') (ht : Tables s)
    (ho : P.Outline s) : PaymentTable s'.db s'.uuid := by
  have hkept : ∀ t : Shared G, t.db.payments = s.db.payments → s.uuid ≤ t.uuid →
      PaymentTable t.db t.uuid := fun t hdb hu => ht.payments.mono hdb hu
  cases h
  case booking r x pc pc' h =>
    cases h
    case createsPayment σ hw =>
      exact ht.payments.insert rfl (ho σ.bookingId rfl).2.2.1 rfl
    case fails σ f rows hf h =>
      obtain ⟨-, -, hj, -⟩ := ho σ.bookingId rfl
      cases hpay : f.payment with
      | none => exact ht.payments.mono (by simp [failedDb, hpay]) le_rfl
      | some d =>
        simp only [PaymentFailure.Journals, hpay] at hj
        obtain ⟨-, hrow, result, -, hcur, -⟩ := hj
        have hflush : PaymentTable (s.db.flushPayment d.1 d.2) s.uuid :=
          ht.payments.flush_own hrow (by simp [hcur, Payment.declined])
        exact hflush.mono (by simp [failedDb, hpay]) le_rfl
    case journals σ pay =>
      exact (ht.payments.flush_own (ho σ.bookingId rfl).2.2.2.1 (by simp [Payment.timedOut])).mono
        rfl le_rfl
    case recordsAuthorized σ pay result h _ =>
      exact (ht.payments.flush_own (ho σ.bookingId rfl).2.2.2.1
        (by simp [Payment.authorized])).mono rfl le_rfl
    case voids σ pay reason hf h =>
      obtain ⟨-, -, -, cs, -, hcharged⟩ := ho σ.bookingId rfl
      refine (ht.payments.flush_own hcharged.row ?_).mono rfl le_rfl
      simp [Payment.reversed, hcharged.state]
    case confirms σ pay h hseq =>
      obtain ⟨-, -, -, hrow, -, href⟩ := ho σ.bookingId rfl
      have hflush : PaymentTable (s.db.flushPayment pay pay.capturedState) s.uuid :=
        ht.payments.flush_own hrow fun _ => href
      exact hflush.mono rfl le_rfl
    all_goals exact hkept _ rfl (by simp [Shared.authorized, Shared.captured, Shared.reversed])
  case cancel r x pc pc' h =>
    cases h
    case finishes b state refunded h hseq =>
      cases refunded with
      | none => exact hkept _ rfl le_rfl
      | some pay =>
        have hloaded := (ho b rfl).2.payment pay rfl
        refine (ht.payments.flush fun r hr hid hstate => ?_).mono rfl le_rfl
        -- the flush of a refund leaves no pending row
        have hne : PaymentState.refunded ≠ pay.state := by
          rcases hloaded.state with h | h <;> simp [h]
        have hmerge : (Payment.merge pay pay.refundedState r).state = .refunded :=
          Orm.writeBack_dirty r.state hne
        rw [hmerge] at hstate
        simp at hstate
    all_goals exact hkept _ rfl (by simp [Shared.refunded])
  case hold r x pc pc' h => cases h <;> exact hkept _ rfl (by simp)
  case release r x pc pc' h => cases h <;> exact hkept _ rfl le_rfl
  case sweep x pc pc' h => cases h; exact hkept _ rfl le_rfl
  all_goals exact hkept _ rfl le_rfl

theorem ownedBooking_eq_some {db : Db} {ref : String} {u : UserId} {b : BookingId} {row : Booking}
    (h : ownedBooking db ref u = some (b, row)) :
    db.bookingRef ref = some b ∧ db.booking b = some row ∧ row.userId = u := by
  obtain ⟨b', hb', h⟩ := Option.bind_eq_some_iff.mp h
  obtain ⟨row', hrow', h⟩ := Option.bind_eq_some_iff.mp h
  split at h
  · next hu =>
    simp only [Option.some.injEq, Prod.mk.injEq] at h
    obtain ⟨rfl, rfl⟩ := h
    exact ⟨hb', hrow', hu⟩
  · exact absurd h (by simp)

theorem requireState_eq_none {current : BookingState} {expected : List BookingState} :
    requireState current expected = none ↔ current ∈ expected := by
  unfold requireState
  split <;> simp_all

/-- How a process comes to work on a booking: it did before, it has just opened
it, or it has just loaded it to cancel it. -/
theorem Step.writes_cases {P P' : Proc} {a : Input} {b : BookingId} (h : Step env s p P a s' P')
    (hw : P'.writes = some b) :
    P.writes = some b ∨ (P.opening ∧ b = s.uuid) ∨
      ∃ r row, P = .cancel r .load ∧ P' = .cancel r (.selectPayment b row.state) ∧ s' = s ∧
        s.db.booking b = some row ∧ (row.state = .confirmed ∨ row.state = .ticketed) := by
  cases h
  case booking r x pc pc' h =>
    cases h
    case opens => exact .inr (.inl ⟨trivial, (Option.some.inj hw).symm⟩)
    case opensNothing e he => cases e <;> simp [Proc.writes, raised, BookingPc.saga?] at hw
    case selectIllegal h | recordIllegal h | refuseIllegal h _ | voidIllegal h
      | confirmIllegal h =>
      first
        | rw [raised_of_assertCanTransition h] at hw
        | rw [raised_of_assertCanTransition (by assumption)] at hw
      simp [Proc.writes, BookingPc.saga?] at hw
    case issueRolledBack h =>
      rw [raised_of_issueFails h] at hw
      simp [Proc.writes, BookingPc.saga?] at hw
    case authorizes result _ | retries result _ =>
      refine .inl ?_
      cases hr : result.approved <;> simpa [Proc.writes, afterAuthorize, hr, BookingPc.saga?] using hw
    all_goals first
      | exact .inl hw
      | exact absurd hw (by simp [Proc.writes, BookingPc.saga?])
  case cancel r x pc pc' h =>
    cases h
    case accepts b' row h h' =>
      obtain rfl := Option.some.inj hw
      have hstate := requireState_eq_none.mp h'
      exact .inr (.inr ⟨r, row, rfl, rfl, rfl, (ownedBooking_eq_some h).2.1, by simpa using hstate⟩)
    case locks b' state pay hf =>
      refine .inl ?_
      cases pay <;> exact hw
    all_goals first
      | exact .inl hw
      | exact absurd hw (by simp [Proc.writes, CancelPc.booking?])
  case arrive r => cases r <;> exact absurd hw (by simp [Request.start, Proc.writes,
      BookingPc.saga?, CancelPc.booking?])
  all_goals exact absurd hw (by simp [Proc.writes])

/-- UUIDs not drawn yet still name nothing. -/
theorem Step.unborn {P P' : Proc} {a : Input} (h : Step env s p P a s' P') (ht : Tables s)
    (ho : P.Outline s) {b : BookingId} (hb : s'.uuid ≤ b) : s'.view b = ⟨none, [], [], [], []⟩ := by
  have hold := ht.unborn b (h.uuid_le.trans hb)
  have hlt : ∀ b', P.writes = some b' → b' ≠ b := by
    rintro b' hw rfl
    exact absurd (ho.writes_lt hw) (not_lt.mpr (h.uuid_le.trans hb))
  have hw : P.writes ≠ some b := fun hw => hlt b hw rfl
  rw [h.view_eq hw ?_ fun pay hpay => ho.instance_ne ht hw hpay, hold]
  intro hw'
  rcases h.writes_cases hw' with hw' | ⟨hopen, rfl⟩ | ⟨r, row, -, -, -, hrow, -⟩
  · exact hw hw'
  · cases h <;> try exact hopen
    case booking r x pc pc' h =>
      cases h <;> try exact hopen
      case opens =>
        simp only [Shared.drawUuids_uuid, Shared.withDb_uuid] at hb
        omega
      case opensNothing e _ => cases e <;> simp [raised, Proc.writes, BookingPc.saga?] at hw'
  · have hnone : s.db.booking b = none := congrArg View.row hold
    rw [hnone] at hrow
    simp at hrow

/-- Away from step 1 the tables stay consistent. -/
theorem Step.tables_of_not_opening {P P' : Proc} {a : Input} (h : Step env s p P a s' P')
    (ht : Tables s) (ho : P.Outline s) (hP : ¬ P.opening) : Tables s' := by
  have hkeeps := h.keepsRows hP
  have hseat := h.seatWrite ho
  have hu := h.uuid_le
  refine ⟨?_, ?_, ?_, ?_, ?_, ?_, ?_, ?_, ?_, ?_⟩
  · rw [hkeeps.seatIds]
    exact ht.seatIds
  · exact fun k => (hseat k).checks (ht.checked k)
  · exact fun b hb => h.unborn ht ho hb
  · intro q hq
    rw [hkeeps.passengers] at hq
    exact (ht.passengerLt q hq).trans_le hu
  · rw [hkeeps.passengers]
    exact ht.passengerIds
  · exact h.payments ht ho
  · intro t hmem
    rw [hkeeps.passengers]
    rcases h.mem_tickets hmem with ⟨t₀, ht₀, hb, hq, hk⟩ | ⟨r, σ, pay, assigned, _, rfl, ha, hnew⟩
    · rw [← hb, ← hq, ← hk]
      exact ht.seated t₀ ht₀
    · have hbefore := (ho σ.bookingId rfl).2.1
      obtain ⟨pi, hpi, hq, hk, hb, -⟩ := mem_newTickets hnew
      obtain ⟨hmemq, -, hseat⟩ := hbefore.seated.seat_of_assigned ha hpi
      rw [← hbefore.recorded.passengers] at hmemq
      obtain ⟨hmemq, hqb⟩ := Db.mem_passengersOf.mp hmemq
      exact ⟨pi.1, hmemq, hq.symm, hqb.trans hb.symm, by rw [hseat, hk]⟩
  · intro q hq
    rw [hkeeps.passengers] at hq
    obtain ⟨k, hk, hqk, row, hrow, hflight⟩ := ht.onFlight q hq
    obtain ⟨row', hrow', -, -, hflight'⟩ := hkeeps.booking_some hrow
    refine ⟨k, hkeeps.seatIds ▸ hk, hqk, row', hrow', ?_⟩
    rw [(hseat k).flightId, hflight, hflight']
  · intro k b hb
    rcases (hseat k).bookingId hb with hold | ⟨hopen, -⟩
    · obtain ⟨row, hrow⟩ := ht.pinned k b hold
      obtain ⟨row', hrow', -⟩ := hkeeps.booking_some hrow
      exact ⟨row', hrow'⟩
    · exact absurd hopen hP
  · intro ref b
    rw [hkeeps.bookingRef, ht.refs]
    constructor
    · rintro ⟨row, hrow, rfl⟩
      obtain ⟨row', hrow', href, -⟩ := hkeeps.booking_some hrow
      exact ⟨row', hrow', href⟩
    · rintro ⟨row', hrow', rfl⟩
      obtain ⟨row, hrow, href, -⟩ := hkeeps.of_booking_some hrow'
      exact ⟨row, hrow, href.symm⟩

/-! ### Step 1 -/

section StepOne

variable {r : BookingRequest} {seats : List SeatInstance} {flightId : FlightId} {flight : Flight}
  {ref : String}

omit [PaymentGateway G] in
/-- What the tables say of a booking that has just been opened. -/
theorem view_opened (ht : Tables s) (r : BookingRequest) (seats : List SeatInstance)
    (ref : String) (flightId : FlightId) (flight : Flight) (n : ℕ) :
    ((s.withDb (openedDb s.db (openedSaga r.payload seats s.uuid ref flightId flight) r.userId r.key
      s.clock seats)).drawUuids n).view s.uuid =
      ⟨some ((openedSaga r.payload seats s.uuid ref flightId flight).bookingRow r.userId r.key
          s.clock),
        (openedSaga r.payload seats s.uuid ref flightId flight).passengers, [], [], []⟩ := by
  have hnone := ht.unborn s.uuid le_rfl
  have hq : s.db.passengersOf s.uuid = [] := congrArg View.passengers hnone
  have hpay : s.db.paymentsOf s.uuid = [] := congrArg View.payments hnone
  have htick : s.db.ticketsOf s.uuid = [] := congrArg View.tickets hnone
  have hcalls : s.callsOf s.uuid = [] := congrArg View.calls hnone
  have hall : (openedSaga r.payload seats s.uuid ref flightId flight).passengers.filter
      (fun q => q.bookingId = s.uuid) =
        (openedSaga r.payload seats s.uuid ref flightId flight).passengers :=
    List.filter_eq_self.mpr fun q hq => decide_eq_true (passengerRows_bookingId hq)
  have hpassengers : (s.db.passengers ++
      (openedSaga r.payload seats s.uuid ref flightId flight).passengers).filter
        (fun q => q.bookingId = s.uuid) =
          (openedSaga r.payload seats s.uuid ref flightId flight).passengers := by
    rw [List.filter_append, hall]
    exact (congrArg (· ++ _) hq).trans (List.nil_append _)
  have hrow : Function.update s.db.booking s.uuid (some ((openedSaga r.payload seats s.uuid ref
      flightId flight).bookingRow r.userId r.key s.clock)) s.uuid = some ((openedSaga r.payload
        seats s.uuid ref flightId flight).bookingRow r.userId r.key s.clock) :=
    Function.update_self ..
  exact View.mk.injEq .. |>.mpr ⟨hrow, hpassengers, hpay, htick, hcalls⟩

/-- The passengers step 1 inserts are numbered after the booking. -/
theorem openedSaga_passenger_id {payload : BookingCreate} {b : BookingId} {q : BookingPassenger}
    (h : q ∈ (openedSaga payload seats b ref flightId flight).passengers) :
    b < q.id ∧ q.id < b + (1 + payload.passengers.length) := by
  obtain ⟨k, hk, rfl⟩ := List.mem_mapIdx.mp h
  rw [List.length_zip] at hk
  simp only [passengerRow, PassengerId, BookingId]
  omega

omit [PaymentGateway G] in
theorem nodup_locked (ht : Tables s) (holdIds : List HoldId) (u : UserId) :
    ((lockSeatsForHolds s.db holdIds u).map Orm.Instance.id).Nodup := by
  rw [lockSeatsForHolds_ids]
  exact (ht.seatIds.imp Nat.ne_of_lt).filter _

/-- Step 1 keeps the tables consistent. -/
theorem Step.tables_of_opens {x : Draws} {pc' : BookingPc}
    (h : BookingStep env s p r x .openBooking s' pc') (ht : Tables s) : Tables s' := by
  have hstep : Step env s p (.booking r .openBooking) (.go x) s' (.booking r pc') := .booking h
  have ho : (Proc.booking r .openBooking).Outline s := fun b hb => absurd hb (by
    simp [BookingPc.booking?, BookingPc.saga?])
  have hseat := hstep.seatWrite ho
  have hunborn : ∀ b, s'.uuid ≤ b → s'.view b = ⟨none, [], [], [], []⟩ :=
    fun b hb => hstep.unborn ht ho hb
  cases h
  case opensNothing => exact ht
  case opens seats flightId flight ref hseats hf hlen hlive hids hflight hpnr htotal href =>
    have hseated : (openedSaga r.payload seats s.uuid ref flightId flight).Seated :=
      openedSaga_seated hlen (hseats ▸ nodup_locked ht r.payload.holdIds r.userId)
    -- the id of the booking is new, so every row that is there keeps its place
    have hnone : s.db.booking s.uuid = none := congrArg View.row (ht.unborn s.uuid le_rfl)
    have hold : ∀ b row, s.db.booking b = some row → b ≠ s.uuid := by
      rintro b row hrow rfl
      rw [hnone] at hrow
      simp at hrow
    have hkept : ∀ b row, s.db.booking b = some row →
        Function.update s.db.booking s.uuid (some ((openedSaga r.payload seats s.uuid ref flightId
          flight).bookingRow r.userId r.key s.clock)) b = some row :=
      fun b row hrow => (Function.update_of_ne (hold b row hrow) _ _).trans hrow
    refine ⟨ht.seatIds, fun k => (hseat k).checks (ht.checked k), hunborn, ?_, ?_, ?_, ?_, ?_, ?_, ?_⟩
    · intro q hq
      rcases List.mem_append.mp hq with hq | hq
      · exact (ht.passengerLt q hq).trans_le hstep.uuid_le
      · exact (openedSaga_passenger_id hq).2
    · show ((s.db.passengers ++ _).map BookingPassenger.id).Nodup
      rw [List.map_append]
      refine List.Nodup.append ht.passengerIds hseated.distinct fun id hid hid' => ?_
      obtain ⟨q, hq, rfl⟩ := List.mem_map.mp hid
      obtain ⟨q', hq', hid'⟩ := List.mem_map.mp hid'
      -- the ids drawn for the passengers are above all that were drawn before
      have hlt := ht.passengerLt q hq
      have hgt := (openedSaga_passenger_id hq').1
      rw [hid'] at hgt
      exact absurd hlt (not_lt.mpr hgt.le)
    · exact ht.payments.mono rfl hstep.uuid_le
    · intro t hmem
      obtain ⟨q, hq, hrest⟩ := ht.seated t hmem
      exact ⟨q, List.mem_append_left _ hq, hrest⟩
    · intro q hq
      rcases List.mem_append.mp hq with hq | hq
      · obtain ⟨k, hk, hqk, row, hrow, hfl⟩ := ht.onFlight q hq
        exact ⟨k, hk, hqk, row, hkept _ _ hrow, (hseat k).flightId.trans hfl⟩
      · have hmem : q.seatInventoryId ∈ (openedSaga r.payload seats s.uuid ref flightId
            flight).passengers.map BookingPassenger.seatInventoryId := List.mem_map_of_mem hq
        rw [hseated.seats] at hmem
        obtain ⟨i, hi, hqi⟩ := List.mem_map.mp hmem
        -- all the locked rows are on one flight, which the booking is for
        obtain ⟨j, hj, rfl⟩ := mem_openedSaga_seats.mp hi
        have hflightId : j.row.flightId ∈ (seats.map fun i => i.row.flightId).dedup :=
          List.mem_dedup.mpr (List.mem_map_of_mem hj)
        rw [hids, List.mem_singleton] at hflightId
        obtain ⟨hid, hfresh, -⟩ := mem_lockSeatsForHolds (hseats ▸ hj)
        refine ⟨j.id, hid, hqi.symm, (openedSaga r.payload seats s.uuid ref flightId
          flight).bookingRow r.userId r.key s.clock, ?_, ?_⟩
        · rw [hseated.passengers q hq]
          exact Function.update_self ..
        · rw [(hseat j.id).flightId, ← hfresh]
          exact hflightId
    · intro k b hb
      rcases (hseat k).bookingId hb with hold' | ⟨-, rfl⟩
      · obtain ⟨row, hrow⟩ := ht.pinned k b hold'
        exact ⟨row, hkept b row hrow⟩
      · exact ⟨_, Function.update_self ..⟩
    -- `generate_pnr` has found a reference nobody has
    · intro ref' b
      have hfree : s.db.bookingRef ref = none := by
        simpa using List.find?_some hpnr
      show Function.update s.db.bookingRef ref (some s.uuid) ref' = some b ↔ ∃ row,
        Function.update s.db.booking s.uuid _ b = some row ∧ row.ref = ref'
      constructor
      · intro hb
        by_cases hr : ref' = ref
        · subst hr
          rw [Function.update_self] at hb
          obtain rfl := Option.some.inj hb
          exact ⟨_, Function.update_self .., rfl⟩
        · rw [Function.update_of_ne hr] at hb
          obtain ⟨row, hrow, href'⟩ := (ht.refs ref' b).mp hb
          exact ⟨row, hkept b row hrow, href'⟩
      · rintro ⟨row, hrow, rfl⟩
        by_cases hb : b = s.uuid
        · subst hb
          rw [Function.update_self] at hrow
          obtain rfl := Option.some.inj hrow
          exact Function.update_self ..
        · rw [Function.update_of_ne hb] at hrow
          have hb' := (ht.refs row.ref b).mpr ⟨row, hrow, rfl⟩
          have hr : row.ref ≠ ref := by
            intro hr
            rw [hr, hfree] at hb'
            simp at hb'
          rw [Function.update_of_ne hr]
          exact hb'

end StepOne

/-- **Every step keeps the tables consistent.** -/
theorem Step.tables {P P' : Proc} {a : Input} (h : Step env s p P a s' P') (ht : Tables s)
    (ho : P.Outline s) : Tables s' := by
  by_cases hP : P.opening
  · cases h
    case booking r x pc pc' h =>
      cases pc <;> first
        | exact absurd hP id
        | exact Step.tables_of_opens h ht
    all_goals exact absurd hP id
  · exact h.tables_of_not_opening ht ho hP

/-- A booking's row stays, and changes in its state only. -/
theorem Step.booking_kept {P P' : Proc} {a : Input} (h : Step env s p P a s' P') (ht : Tables s)
    {b : BookingId} {row : Booking} (hb : s.db.booking b = some row) :
    ∃ row', s'.db.booking b = some row' ∧
      (row' = row ∨ ∃ loaded current, row' = row.merge loaded current) := by
  by_cases hP : P.opening
  · cases h
    case booking r x pc pc' h =>
      cases h <;> try exact hP.elim
      case opens =>
        have hne : b ≠ s.uuid := by
          rintro rfl
          have hnone := congrArg View.row (ht.unborn s.uuid le_rfl)
          rw [Shared.view_row, hb] at hnone
          exact absurd hnone (by simp)
        exact ⟨row, (Function.update_of_ne hne _ _).trans hb, .inl rfl⟩
      case opensNothing => exact ⟨row, hb, .inl rfl⟩
    all_goals exact hP.elim
  · rcases (h.keepsRows hP).booking b with hrow | ⟨loaded, current, hrow⟩
    · exact ⟨row, hrow.trans hb, .inl rfl⟩
    · exact ⟨row.merge loaded current, by rw [hrow, hb]; rfl, .inr ⟨loaded, current, rfl⟩⟩

omit [PaymentGateway G] in
/-- A booking that has a row was drawn before. -/
theorem Tables.lt_of_booking (ht : Tables s) {b : BookingId} {row : Booking}
    (hrow : s.db.booking b = some row) : b < s.uuid := by
  by_contra hge
  have hnone := congrArg View.row (ht.unborn b (not_lt.mp hge))
  rw [Shared.view_row, hrow] at hnone
  simp at hnone

end SkyLock
