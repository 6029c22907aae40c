import SkyLock.Accounts

/-!
# The amounts agree

A booking costs what its seats cost.  No charge is asked for that the payment table has not
announced, at that price; and what is captured or given back is a charge of the same
booking that was approved, all of it.

## Main definitions

* `Db.fare` — what the seats of a booking cost.
* `Amounts` — the amounts in the tables and in the gateway's calls.

## Main results

* `amounts_agree` — **the amounts agree in every reachable state**.
-/

namespace SkyLock

open Concurrent

/-- What the seats of a booking cost. -/
def Db.fare (db : Db) (b : BookingId) : Cents :=
  ((db.passengersOf b).map fun q =>
    (q.seatInventoryId.map fun k => (db.seat k).price).getD 0).sum

section Steps

variable {G : Type} [PaymentGateway G] {env : Env} {s s' : Shared G} {p : ℕ} {P P' : Proc}
  {a : Input} {b : BookingId}

/-! ### What a booking costs -/

omit [PaymentGateway G] in
/-- Step 1 charges for the seats it gives its passengers. -/
theorem Saga.Seated.fare_eq {σ : Saga} {db : Db} (h : σ.Seated)
    (hq : db.passengersOf σ.bookingId = σ.passengers) :
    db.fare σ.bookingId = (σ.seats.map fun i => (db.seat i.id).price).sum := by
  have hcost : (σ.passengers.map fun q =>
      (q.seatInventoryId.map fun k => (db.seat k).price).getD 0) =
        (σ.passengers.map BookingPassenger.seatInventoryId).map fun k? =>
          (k?.map fun k => (db.seat k).price).getD 0 := by
    rw [List.map_map]
    rfl
  rw [Db.fare, hq, hcost, h.seats, List.map_map]
  rfl

omit [PaymentGateway G] in
/-- Ordering the seats does not change what they cost. -/
theorem openedSaga_price (payload : BookingCreate) (seats : List SeatInstance) (b : BookingId)
    (ref : String) (flightId : FlightId) (flight : Flight) (f : SeatId → Cents) :
    ((openedSaga payload seats b ref flightId flight).seats.map fun i => f i.id).sum =
      (seats.map fun i => f i.id).sum := by
  have hids : ∀ is : List SeatInstance,
      (is.map fun i => f i.id) = (is.map Orm.Instance.id).map f := by
    intro is
    rw [List.map_map]
    rfl
  rw [hids, hids, openedSaga_ids]
  exact (((List.perm_insertionSort _ seats).map _).map f).sum_nat

/-- The fare of a booking is fixed. -/
theorem Step.fare_eq (h : Step env s p P a s' P') (ht : Tables s) (ho : P.Outline s)
    (hlt : b < s.uuid) : s'.db.fare b = s.db.fare b := by
  have hprice : ∀ k, (s'.db.seat k).price = (s.db.seat k).price :=
    fun k => (h.seatWrite ho k).later.price
  have hq : s'.db.passengersOf b = s.db.passengersOf b := by
    by_cases hP : P.opening
    · have hw : P.writes ≠ some b := by
        cases P with
        | booking r pc => cases pc <;> simp [Proc.opening, Proc.writes, BookingPc.saga?] at hP ⊢
        | _ => exact hP.elim
      exact congrArg View.passengers (h.view_eq_of_ne ht ho hw hlt)
    · rw [Db.passengersOf, (h.keepsRows hP).passengers, Db.passengersOf]
  simp only [Db.fare, hq, hprice]

/-- The amounts in the tables and in the gateway's calls. -/
structure Amounts (s : Shared G) : Prop where
  /-- A booking costs what its seats cost, in the currency of its flight. -/
  fare : ∀ b row, s.db.booking b = some row → row.totalAmount = s.db.fare b ∧
    ∃ flight, s.db.flight row.flightId = some flight ∧ row.currency = flight.currency
  /-- A charge is announced in the payment table before it is asked for. -/
  charged : ∀ b req out, .authorize b req out ∈ s.calls →
    ∃ r ∈ s.db.payments, r.bookingId = b ∧ r.request = req
  /-- What is captured is a charge of the booking that was approved. -/
  captured : ∀ b ref ok, .capture b ref ok ∈ s.calls → ∃ req, ApprovedCharge s.calls b req ref
  /-- What is refunded is all of a charge of the booking that was approved. -/
  refunded : ∀ b ref amount ok, .refund b ref amount ok ∈ s.calls →
    ∃ req, ApprovedCharge s.calls b req ref ∧ req.amount = amount

theorem Step.fares (h : Step env s p P a s' P') (ht : Tables s) (ho : P.Outline s)
    (hA : Amounts s) {row : Booking} (hrow : s'.db.booking b = some row) :
    row.totalAmount = s'.db.fare b ∧
      ∃ flight, s'.db.flight row.flightId = some flight ∧ row.currency = flight.currency := by
  have hkept : ∀ row₀, s.db.booking b = some row₀ → row.totalAmount = s'.db.fare b ∧
      ∃ flight, s'.db.flight row.flightId = some flight ∧ row.currency = flight.currency := by
    intro row₀ hrow₀
    obtain ⟨row', hrow', hsame⟩ := h.booking_kept ht hrow₀
    obtain rfl := Option.some.inj (hrow.symm.trans hrow')
    rw [h.fare_eq ht ho (ht.lt_of_booking hrow₀), h.inventory_eq.2]
    rcases hsame with rfl | ⟨loaded, current, rfl⟩
    · exact hA.fare b _ hrow₀
    · exact hA.fare b row₀ hrow₀
  have hprice : ∀ k, (s'.db.seat k).price = (s.db.seat k).price :=
    fun k => (h.seatWrite ho k).later.price
  by_cases hP : P.opening
  · cases h <;> try exact hP.elim
    case booking r x pc pc' h =>
      cases h <;> try exact hP.elim
      case opens seats flightId flight ref hseats hf hlen hlive hids hflight hpnr htotal href =>
        by_cases hb : b = s.uuid
        · subst hb
          have hview := view_opened ht r seats ref flightId flight
            (1 + r.payload.passengers.length)
          obtain rfl := Option.some.inj (hrow.symm.trans (congrArg View.row hview))
          refine ⟨?_, flight, hflight, rfl⟩
          have hseated : (openedSaga r.payload seats s.uuid ref flightId flight).Seated :=
            openedSaga_seated hlen (hseats ▸ nodup_locked ht r.payload.holdIds r.userId)
          refine Eq.trans ?_ (hseated.fare_eq (congrArg View.passengers hview)).symm
          have hfresh : ∀ i ∈ seats, (s.db.seat i.id).price = i.row.price := by
            intro i hi
            rw [(mem_lockSeatsForHolds (hseats ▸ hi)).2.1]
          simp only [hprice]
          refine Eq.trans ?_ (openedSaga_price r.payload seats s.uuid ref flightId flight
            fun k => (s.db.seat k).price).symm
          exact congrArg List.sum (List.map_congr_left hfresh).symm
        · exact hkept row ((Function.update_of_ne hb ..).symm.trans hrow)
      case opensNothing => exact hkept row hrow
  · obtain ⟨row₀, hrow₀, -⟩ := (h.keepsRows hP).of_booking_some hrow
    exact hkept row₀ hrow₀

omit [PaymentGateway G] in
/-- The one payment of a saga that asks for a charge, or captures one. -/
theorem Proc.Outline.charging {r : BookingRequest} {pc : BookingPc} {σ : Saga} {pay : Payment}
    (ho : (Proc.booking r pc).Outline s)
    (hpc : pc = .authorize σ pay ∨ pc = .retryAuthorize σ pay ∨ pc = .capture σ pay) :
    pay ∈ s.db.payments ∧ pay.bookingId = σ.bookingId ∧ authorizeRequest σ pay = pay.request := by
  have hpay : pay.For σ r ∧ (s.view σ.bookingId).payments = [pay] := by
    rcases hpc with rfl | rfl | rfl
    · exact ⟨(ho σ.bookingId rfl).2.2.1, (ho σ.bookingId rfl).2.2.2.1⟩
    · exact ⟨(ho σ.bookingId rfl).2.2.1, (ho σ.bookingId rfl).2.2.2.1⟩
    · exact ⟨(ho σ.bookingId rfl).2.2.1, (ho σ.bookingId rfl).2.2.2.1⟩
  obtain ⟨hfor, hrow⟩ := hpay
  have hmem : pay ∈ s.db.paymentsOf σ.bookingId := by
    rw [← Shared.view_payments, hrow]
    exact List.mem_singleton_self pay
  exact ⟨(Db.mem_paymentsOf.mp hmem).1, hfor.booking, hfor.request_eq⟩

omit [PaymentGateway G] in
/-- The charge of a payment of the booking is in the whole history. -/
theorem Payment.Approved.charge {pay : Payment} (h : pay.Approved (s.view b).calls)
    (hb : pay.bookingId = b) :
    ApprovedCharge s.calls b pay.request (pay.providerRef.getD "") := by
  obtain ⟨ref, href, hcharge⟩ := h
  rw [href, ← hb]
  exact hcharge.mono (fun c hc => (List.mem_filter.mp hc).1)

/-- **One step keeps the amounts in agreement.** -/
theorem Step.amounts (h : Step env s p P a s' P') (ht : Tables s) (ho : P.Outline s)
    (hun : P.Unreferenced) (hv : P.Vouched s) (hV : ∀ b, (s.view b).Vouched b)
    (hA : Amounts s) : Amounts s' := by
  have hsub := h.calls_subset
  have hkept : ∀ b req, (∃ r ∈ s.db.payments, r.bookingId = b ∧ r.request = req) →
      ∃ r ∈ s'.db.payments, r.bookingId = b ∧ r.request = req := by
    rintro b req ⟨r, hr, rfl, rfl⟩
    obtain ⟨r', hr', hlater⟩ := h.payment_later ht ho hun hr
    exact ⟨r', hr', by rw [hlater.columns], by rw [hlater.columns]; rfl⟩
  have hcaptured : ∀ b ref ok, .capture b ref ok ∈ s.calls →
      ∃ req, ApprovedCharge s'.calls b req ref := by
    intro b ref ok hmem
    obtain ⟨req, hcharge⟩ := hA.captured b ref ok hmem
    exact ⟨req, hcharge.mono hsub⟩
  have hrefunded : ∀ b ref amount ok, .refund b ref amount ok ∈ s.calls →
      ∃ req, ApprovedCharge s'.calls b req ref ∧ req.amount = amount := by
    intro b ref amount ok hmem
    obtain ⟨req, hcharge, hamount⟩ := hA.refunded b ref amount ok hmem
    exact ⟨req, hcharge.mono hsub, hamount⟩
  refine ⟨fun b row hrow => h.fares ht ho hA hrow, fun b req out hmem => ?_,
    fun b ref ok hmem => ?_, fun b ref amount ok hmem => ?_⟩
  -- a call that was there is announced by what has become of its payment
  · have hold : .authorize b req out ∈ s.calls →
        ∃ r ∈ s'.db.payments, r.bookingId = b ∧ r.request = req :=
      fun hmem => hkept b req (hA.charged b req out hmem)
    cases h.gatewayUse with
    | quiet hcalls => exact hold (hcalls ▸ hmem)
    | @authorizes r pc σ pay hpc =>
      rcases List.mem_cons.mp hmem with heq | hmem
      · obtain ⟨rfl, rfl, -⟩ := GatewayCall.authorize.inj heq
        -- a new one by the payment row the saga has just committed
        obtain ⟨hpay, hb, hreq⟩ := ho.charging (hpc.imp id .inl)
        exact hkept _ _ ⟨pay, hpay, hb, hreq.symm⟩
      · exact hold hmem
    | @reverses r σ pay reason =>
      rcases List.mem_cons.mp hmem with heq | hmem
      · rw [reverseOutcome_call s r σ (ho σ.bookingId rfl).2.2.2.state] at heq
        simp at heq
      · exact hold hmem
    | captures | refunds =>
      rcases List.mem_cons.mp hmem with heq | hmem
      · simp at heq
      · exact hold hmem
  · cases h.gatewayUse with
    | quiet hcalls => exact hcaptured b ref ok (hcalls ▸ hmem)
    | @captures r σ pay =>
      rcases List.mem_cons.mp hmem with heq | hmem
      · obtain ⟨rfl, rfl, -⟩ := GatewayCall.capture.inj heq
        obtain ⟨-, -, hfor, hrow, hauth, -⟩ := ho σ.bookingId rfl
        -- the payment captured is authorized, under the reference of its approval
        have hvouched := (hV σ.bookingId).payments pay (hrow ▸ List.mem_singleton_self pay)
        have happroved : pay.Approved (s.view σ.bookingId).calls := by
          rwa [Payment.Vouched, hauth] at hvouched
        exact ⟨pay.request, (happroved.charge hfor.booking).mono hsub⟩
      · exact hcaptured b ref ok hmem
    | @reverses r σ pay reason =>
      rcases List.mem_cons.mp hmem with heq | hmem
      · rw [reverseOutcome_call s r σ (ho σ.bookingId rfl).2.2.2.state] at heq
        simp at heq
      · exact hcaptured b ref ok hmem
    | authorizes | refunds =>
      rcases List.mem_cons.mp hmem with heq | hmem
      · simp at heq
      · exact hcaptured b ref ok hmem
  · cases h.gatewayUse with
    | quiet hcalls => exact hrefunded b ref amount ok (hcalls ▸ hmem)
    | @refunds r b' state pay =>
      rcases List.mem_cons.mp hmem with heq | hmem
      · obtain ⟨rfl, rfl, rfl, -⟩ := GatewayCall.refund.inj heq
        obtain ⟨-, happroved⟩ := hv b rfl
        have hb : pay.bookingId = b := ((ho b rfl).2.payment pay rfl).booking
        exact ⟨pay.request, (happroved.charge hb).mono hsub, rfl⟩
      · exact hrefunded b ref amount ok hmem
    | @reverses r σ pay reason =>
      rcases List.mem_cons.mp hmem with heq | hmem
      -- the saga reverses by a void
      · rw [reverseOutcome_call s r σ (ho σ.bookingId rfl).2.2.2.state] at heq
        simp at heq
      · exact hrefunded b ref amount ok hmem
    | authorizes | captures =>
      rcases List.mem_cons.mp hmem with heq | hmem
      · simp at heq
      · exact hrefunded b ref amount ok hmem

theorem amounts_holds {C : World (Shared G) Proc → ℕ → Input → Prop} {db : Db} {g : G}
    {clock : Time} {w : World (Shared G) Proc} {as : List (ℕ × Input)} (hdb : db.Initial)
    (h : (service env G).Run C (initialWorld db g clock) as w) : Amounts w.shared := by
  induction h with
  | nil =>
    refine ⟨fun b row hrow => ?_, by simp [initialWorld], by simp [initialWorld],
      by simp [initialWorld]⟩
    exact absurd ((hdb.booking b).symm.trans hrow) (by simp)
  | @snoc as w₁ w₂ p a hrun hC hn hA =>
    obtain ⟨s', P', hs, rfl⟩ := System.next_eq_some.mp hn
    have hw := vouched_holds hdb hrun
    exact (step_of hs).amounts hw.shared.1 (hw.own p).1 (hw.own p).2.1 (hw.own p).2.2
      (fun b => (hw.shared.2 b).1) hA

/-- **The amounts agree in every reachable state**, whatever the gateway answers and however
the requests fall between each other: a booking costs what its seats cost; whatever is
charged for it was announced in the payment table at that price; and whatever is captured or
refunded is a charge of it that was approved, refunded in full. -/
theorem amounts_agree {C : World (Shared G) Proc → ℕ → Input → Prop} {db : Db} {g : G}
    {clock : Time} {w : World (Shared G) Proc} {as : List (ℕ × Input)} (hdb : db.Initial)
    (h : (service env G).Run C (initialWorld db g clock) as w) :
    Amounts w.shared ∧ ∀ b req out, .authorize b req out ∈ w.shared.calls →
      req.amount = w.shared.db.fare b := by
  have hA := amounts_holds hdb h
  refine ⟨hA, fun b req out hmem => ?_⟩
  obtain ⟨r, hr, rfl, rfl⟩ := hA.charged b req out hmem
  obtain ⟨row, hrow, hamount, -⟩ := (ledger_holds hdb h).priced r hr
  exact hamount.trans (hA.fare _ row hrow).1

end Steps

/-- The price of a seat is charged, and refunded. -/
theorem amounts_agree_refunded :
    ∃ w, (service demoEnv FakePaymentGateway).Run (fun _ _ _ => True) (onSale 1)
        (soldSeat ++ asks 3 (.cancelBooking ⟨10, "SKYLCC"⟩) 5 (.calm 2)) w ∧
      w.shared.db.fare 1 = 25000 ∧ (w.shared.refundCalls 1).length = 1 ∧ Amounts w.shared ∧
      ∀ b req out, .authorize b req out ∈ w.shared.calls → req.amount = w.shared.db.fare b := by
  have hrun : ((service demoEnv FakePaymentGateway).checked (fun _ _ _ => True) (onSale 1)
      (soldSeat ++ asks 3 (.cancelBooking ⟨10, "SKYLCC"⟩) 5 (.calm 2))).any (fun w =>
        decide (w.shared.db.fare 1 = 25000 ∧ (w.shared.refundCalls 1).length = 1)) = true := by
    decide +kernel
  obtain ⟨w, hw, htest⟩ := System.exists_run_of_checked hrun
  obtain ⟨hfare, hrefund⟩ := of_decide_eq_true htest
  exact ⟨w, hw, hfare, hrefund, amounts_agree (Db.seeded_initial ..) hw⟩

end SkyLock
