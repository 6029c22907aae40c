import SkyLock.Tables

/-!
# Interference

The proof of the outline: every step re-establishes the assertion of the process
that takes it and disturbs no bystander.

## Main results

* `BookingStep.outline`, `CancelStep.outline` — the mover's assertion.
* `Step.bystander`, `Step.apart` — the bystanders' assertions, and how they stand
  to the mover.
* `outline_holds` — **the outline holds throughout every run**.
-/

namespace SkyLock

open Concurrent

variable {G : Type} [PaymentGateway G] {env : Env} {s s' : Shared G} {p : ℕ}

/-! ### The mover -/

section Mover

variable {σ : Saga} {u : UserId} {state : BookingState} {V V' : View}

theorem Saga.Before.assessed (h : σ.Before u state V) (a : Assessment) :
    Saga.Before { σ with assessment := a } u state V :=
  ⟨⟨h.seated.nonempty, h.seated.nodup, h.seated.passengers, h.seated.seats, h.seated.distinct⟩,
    ⟨h.pinned.status, h.pinned.hold, h.pinned.expiry, h.pinned.booking, h.pinned.holder⟩,
    ⟨h.recorded.row, h.recorded.passengers⟩, h.tickets, h.state⟩

/-- The saga moves its booking, in memory and in the row alike. -/
theorem Saga.Before.moved (h : σ.Before u state V) (state' : BookingState)
    (hrow : V'.row = V.row.map (Booking.merge σ.state state'))
    (hq : V'.passengers = V.passengers) (ht : V'.tickets = V.tickets) :
    (σ.inState state').Before u state' V' := by
  refine ⟨⟨h.seated.nonempty, h.seated.nodup, h.seated.passengers, h.seated.seats,
    h.seated.distinct⟩, ⟨h.pinned.status, h.pinned.hold, h.pinned.expiry, h.pinned.booking,
    h.pinned.holder⟩, ⟨?_, hq.trans h.recorded.passengers⟩, ht.trans h.tickets, rfl⟩
  obtain ⟨row, hr, hof, hs⟩ := h.recorded.row
  refine ⟨row.merge σ.state state', by rw [hrow, hr]; rfl, hof, ?_⟩
  have hsame : row.state = σ.state := hs.trans h.state.symm
  rw [Booking.merge_state, hsame, Orm.writeBack_fresh]

theorem Saga.Before.of_view (h : σ.Before u state V) (hrow : V'.row = V.row)
    (hq : V'.passengers = V.passengers) (ht : V'.tickets = V.tickets) : σ.Before u state V' :=
  ⟨h.seated, h.pinned, ⟨hrow ▸ h.recorded.row, hq.trans h.recorded.passengers⟩,
    ht.trans h.tickets, h.state⟩

theorem Saga.Before.row_state (h : σ.Before u state V) {row : Booking} (hr : V.row = some row) :
    row.state = state := by
  obtain ⟨row', hr', -, hs⟩ := h.recorded.row
  rw [hr] at hr'
  obtain rfl := Option.some.inj hr'
  exact hs

/-- The only answer a booking got is the one its calls end with. -/
theorem Answered.eq_of_mem {b b' : BookingId} {req req' : AuthorizeRequest}
    {result result' : AuthorizationResult} {calls : List GatewayCall}
    (h : Answered b req result calls) (hmem : .authorize b' req' (.ok result') ∈ calls) :
    req' = req ∧ result' = result := by
  obtain ⟨cs, rfl, hcs⟩ := h
  rcases List.mem_cons.mp hmem with heq | hmem
  · simp only [GatewayCall.authorize.injEq, Except.ok.injEq] at heq
    exact ⟨heq.2.1, heq.2.2⟩
  · obtain ⟨e, he⟩ := hcs _ hmem
    simp at he

theorem not_unreversed_of_declined {b : BookingId} {req : AuthorizeRequest}
    {result : AuthorizationResult} {calls : List GatewayCall} (h : Answered b req result calls)
    (hd : result.approved = false) : ¬ Unreversed b calls := by
  rintro ⟨req', result', hmem, happ, -⟩
  obtain ⟨-, rfl⟩ := h.eq_of_mem hmem
  simp [hd] at happ

theorem not_unreversed_of_voided {b : BookingId} {req : AuthorizeRequest}
    {result : AuthorizationResult} {calls : List GatewayCall} (h : Answered b req result calls) :
    ¬ Unreversed b (.void b result.providerRef true :: calls) := by
  rintro ⟨req', result', hmem, -, hvoid, -⟩
  have hmem' : .authorize b req' (.ok result') ∈ calls := by simpa using hmem
  obtain ⟨-, rfl⟩ := h.eq_of_mem hmem'
  exact hvoid (by simp)

theorem PaymentFailure.Journals.not_unreversed {f : PaymentFailure} {r : BookingRequest}
    (h : f.Journals σ r V) : ¬ Unreversed σ.bookingId V.calls := by
  unfold PaymentFailure.Journals at h
  split at h
  · obtain ⟨-, hcalls⟩ := h
    rw [hcalls]
    rintro ⟨req, result, hmem, -⟩
    simp at hmem
  · obtain ⟨-, -, result, hd, -, hans⟩ := h
    exact not_unreversed_of_declined hans hd

theorem Db.flushBookingState_self {db : Db} {b : BookingId} {loaded current : BookingState} :
    (db.flushBookingState b loaded current).booking b =
      (db.booking b).map (Booking.merge loaded current) := if_pos rfl

/-- The booking's row is in the given state. -/
def Db.StateIs (db : Db) (b : BookingId) (state : BookingState) : Prop :=
  ∃ row, db.booking b = some row ∧ row.state = state

/-- A flush of an instance that has the state of its row. -/
theorem Db.StateIs.flush {db db' : Db} {b : BookingId} {loaded current : BookingState}
    (h : db.StateIs b loaded)
    (hflush : db'.booking b = (db.booking b).map (Booking.merge loaded current)) :
    db'.StateIs b current := by
  obtain ⟨row, hrow, hstate⟩ := h
  refine ⟨row.merge loaded current, ?_, ?_⟩
  · rw [hflush, hrow]
    rfl
  · rw [Booking.merge_state, hstate, Orm.writeBack_fresh]

omit [PaymentGateway G] in
/-- The SELECT of `_fail_payment` hands back rows pinned to the booking. -/
theorem failPaymentRows_bookingId {db : Db} (h : σ.Pinned u) {i : SeatInstance}
    (hi : i ∈ failPaymentRows db σ) : i.row.bookingId = some σ.bookingId := by
  obtain ⟨k, hk, rfl⟩ := List.mem_map.mp hi
  rcases Orm.materialize_cases σ.seats k (db.seat k) with hmem | heq
  · exact h.booking _ hmem
  · rw [heq]
    simpa using (List.mem_filter.mp hk).2

end Mover

/-- The state a settled saga leaves. -/
theorem settled_of_flush {b : BookingId} {V V' : View} {row : Booking} {loaded current : BookingState}
    (hr : V.row = some row) (hs : row.state = loaded)
    (hrow : V'.row = V.row.map (Booking.merge loaded current))
    (hcur : current = .paymentFailed ∨ current = .voided ∨ current = .needsManualReview)
    (hcalls : Unreversed b V'.calls → current = .needsManualReview) : Settled b V' := by
  have hstate : (row.merge loaded current).state = current := by
    rw [Booking.merge_state, hs, Orm.writeBack_fresh]
  exact ⟨row.merge loaded current, by rw [hrow, hr]; rfl, by rw [hstate]; exact hcur,
    by rw [hstate]; exact hcalls⟩

theorem Shared.callsOf_reversed (s : Shared G) (r : BookingRequest) (σ : Saga) (pay : Payment) :
    (s.reversed r σ pay).callsOf σ.bookingId =
      (reverseOutcome s r σ pay).2 :: s.callsOf σ.bookingId :=
  Shared.callsOf_called reverseOutcome_booking

/-- A void is what a compensation asks for: the charge was not captured yet. -/
theorem reverseOutcome_call (s : Shared G) (r : BookingRequest) (σ : Saga) {pay : Payment}
    (h : pay.state = .authorized) : (reverseOutcome s r σ pay).2 =
      .void σ.bookingId (pay.providerRef.getD "") (succeeded (reverseOutcome s r σ pay).1.1) := by
  unfold reverseOutcome reverseCharge
  simp [h]

/-- Ticketing keeps a saga's seats, and only marks them booked. -/
theorem Saga.Seated.afterIssue {σ : Saga} (h : σ.Seated)
    (assigned : List (BookingPassenger × SeatInstance)) : (σ.afterIssue assigned).Seated := by
  have hids : ∀ i : SeatInstance, (if i.id ∈ assigned.map (fun pi => pi.2.id) then
      (⟨i.id, i.row.ticketed σ.bookingId⟩ : SeatInstance) else i).id = i.id := by
    intro i
    split <;> rfl
  have hmap : (σ.afterIssue assigned).seats.map Orm.Instance.id = σ.seats.map Orm.Instance.id := by
    simp [Saga.afterIssue, hids]
  refine ⟨?_, hmap ▸ h.nodup, h.passengers, ?_, h.distinct⟩
  · simpa [Saga.afterIssue] using h.nonempty
  · rw [show (fun i : SeatInstance => some i.id) = some ∘ Orm.Instance.id from rfl,
      ← List.map_map, hmap, List.map_map]
    exact h.seats

/-- An answer leads to the record of the approval or of the decline. -/
theorem afterAuthorize_outline {r : BookingRequest} {σ : Saga} {pay : Payment}
    {result : AuthorizationResult} {cs : List GatewayCall} {b : BookingId}
    (hbefore : σ.Before r.userId .pending (s.view σ.bookingId)) (hfor : pay.For σ r)
    (hpay : (s.view σ.bookingId).payments = [pay]) (hcalls : (s.view σ.bookingId).calls = cs)
    (hcs : Unanswered σ.bookingId (authorizeRequest σ pay) cs)
    (h : (authorizeOutcome s σ pay).1 = .ok result)
    (hb : (afterAuthorize σ pay result).booking? = some b) :
    (afterAuthorize σ pay result).Outline r b ((s.authorized σ pay).view b) := by
  have hbid : σ.bookingId = b := by
    cases hr : result.approved <;>
      simpa [afterAuthorize, hr, BookingPc.booking?, BookingPc.saga?] using hb
  subst hbid
  have hcalls' : (s.authorized σ pay).callsOf σ.bookingId =
      .authorize σ.bookingId (authorizeRequest σ pay) (.ok result) :: cs := by
    rw [← h, ← hcalls]
    exact Shared.callsOf_called rfl
  have hans : Answered σ.bookingId (authorizeRequest σ pay) result
      ((s.authorized σ pay).view σ.bookingId).calls := ⟨cs, hcalls', hcs⟩
  have hbefore' : σ.Before r.userId .pending ((s.authorized σ pay).view σ.bookingId) :=
    hbefore.of_view rfl rfl rfl
  unfold afterAuthorize
  split
  · next happ => exact ⟨hbefore', hfor, hpay, happ, hans⟩
  · next happ =>
    exact ⟨hbefore', hfor, hpay, result, by simpa using happ, rfl, hans⟩

/-- **The mover's assertion holds where it arrives.** -/
theorem BookingStep.outline {r : BookingRequest} {x : Draws} {pc pc' : BookingPc}
    (h : BookingStep env s p r x pc s' pc') (ht : Tables s)
    (ho : ∀ b, pc.booking? = some b → pc.Outline r b (s.view b)) {b : BookingId}
    (hb : pc'.booking? = some b) : pc'.Outline r b (s'.view b) := by
  cases h
  -- the booking is born here: its view is what step 1 has just written
  case opens seats flightId flight ref hseats hf hlen hlive hids hflight hpnr htotal href =>
    obtain rfl : s.uuid = b := Option.some.inj hb
    have hseated : (openedSaga r.payload seats s.uuid ref flightId flight).Seated :=
      openedSaga_seated hlen (hseats ▸ nodup_locked ht r.payload.holdIds r.userId)
    have hpinned : (openedSaga r.payload seats s.uuid ref flightId flight).Pinned r.userId := by
      refine openedSaga_pinned (fun i hi => ?_) (fun i hi => ?_) hlive
      · exact (mem_lockSeatsForHolds (hseats ▸ hi)).2.2.2
      · obtain ⟨hold, -, hh⟩ := (mem_lockSeatsForHolds (hseats ▸ hi)).2.2.1
        exact Option.isSome_iff_exists.mpr ⟨hold, hh⟩
    rw [view_opened ht]
    exact ⟨⟨hseated, hpinned, ⟨⟨_, rfl, ⟨rfl, rfl, rfl, rfl, rfl⟩, rfl⟩, rfl⟩, rfl, rfl⟩, rfl, rfl⟩
  case blocks σ hblock =>
    obtain rfl := Option.some.inj hb
    obtain ⟨hbefore, hpay, hcalls⟩ := ho σ.bookingId rfl
    exact ⟨hbefore.assessed x.assessment, hpay, hcalls⟩
  case passes σ hpass =>
    obtain rfl := Option.some.inj hb
    obtain ⟨hbefore, hpay, hcalls⟩ := ho σ.bookingId rfl
    exact ⟨hbefore.assessed x.assessment, hpay, hcalls⟩
  case selectsFailed σ f h _ =>
    obtain rfl := Option.some.inj hb
    obtain ⟨hbefore, hj⟩ := ho σ.bookingId rfl
    exact ⟨hbefore, hj, fun i hi => failPaymentRows_bookingId hbefore.pinned hi⟩
  -- a failure is journalled only where no charge was approved
  case fails σ f rows hf h =>
    obtain rfl := Option.some.inj hb
    obtain ⟨hbefore, hj, -⟩ := ho σ.bookingId rfl
    obtain ⟨row, hr, -⟩ := hbefore.recorded.row
    refine settled_of_flush hr ((hbefore.row_state hr).trans hbefore.state.symm)
      Db.flushBookingState_self (.inl rfl) fun hun => ?_
    exact absurd hun hj.not_unreversed
  -- from here on the request knows the payment row and every call about the booking
  case createsPayment σ h =>
    obtain rfl := Option.some.inj hb
    obtain ⟨hbefore, hpay, hcalls⟩ := ho σ.bookingId rfl
    refine ⟨hbefore.of_view rfl rfl rfl, ⟨rfl, rfl, rfl, rfl, rfl⟩, ?_, hcalls⟩
    have hcons : (insertPayment s.db (s.payment env r σ)).paymentsOf σ.bookingId =
        s.payment env r σ :: s.db.paymentsOf σ.bookingId := by
      simp [Db.paymentsOf, Shared.payment, newPayment]
    exact hcons.trans (congrArg (_ :: ·) hpay)
  case authorizes σ pay result h =>
    obtain ⟨hbefore, hfor, hpay, hcalls⟩ := ho σ.bookingId rfl
    refine afterAuthorize_outline hbefore hfor hpay hcalls (by simp [Unanswered]) h hb
  case retries σ pay result h =>
    obtain ⟨hbefore, hfor, hpay, hcalls⟩ := ho σ.bookingId rfl
    exact afterAuthorize_outline hbefore hfor hpay rfl hcalls h hb
  case timesOut σ pay e h =>
    obtain rfl := Option.some.inj hb
    obtain ⟨hbefore, hfor, hpay, hcalls⟩ := ho σ.bookingId rfl
    refine ⟨hbefore.of_view rfl rfl rfl, hfor, hpay, fun c hc => ?_⟩
    have hcalls' : (s.authorized σ pay).callsOf σ.bookingId = _ :: s.callsOf σ.bookingId :=
      Shared.callsOf_called rfl
    have hnil : s.callsOf σ.bookingId = [] := hcalls
    rw [Shared.view_calls, hcalls', hnil, List.mem_singleton] at hc
    exact ⟨e, by rw [hc, h]⟩
  case journals σ pay =>
    obtain rfl := Option.some.inj hb
    obtain ⟨hbefore, hfor, hpay, hcalls⟩ := ho σ.bookingId rfl
    exact ⟨hbefore.of_view rfl rfl rfl, ⟨hfor.booking, hfor.amount, hfor.currency, hfor.cardToken,
      hfor.key⟩, PaymentTable.paymentsOf_flush hpay, hcalls⟩
  case recordsAuthorized σ pay result h _ =>
    obtain rfl := Option.some.inj hb
    obtain ⟨hbefore, hfor, hpay, happ, hans⟩ := ho σ.bookingId rfl
    refine ⟨hbefore.moved .paymentAuthorized Db.flushBookingState_self rfl rfl,
      ⟨hfor.booking, hfor.amount, hfor.currency, hfor.cardToken, hfor.key⟩, ?_, rfl, result, happ,
      rfl, hans⟩
    exact PaymentTable.paymentsOf_flush hpay
  -- every passenger has a live ticket: the new ones are for all of them
  case issues σ pay assigned rows hf hlost htrig hassigned hunique hchecked hcan hseq hrows =>
    obtain rfl := Option.some.inj hb
    obtain ⟨hbefore, hfor, hcharged⟩ := ho σ.bookingId rfl
    obtain ⟨row, hr, hof, hs⟩ := hbefore.recorded.row
    have hrow : ((s.withDb (issuedDb { s.db with audit := rows } σ
        (newTickets σ.bookingId s.uuid s.clock x.eTicketNo assigned) assigned)).drawUuids
          σ.passengers.length).db.booking σ.bookingId =
            (s.db.booking σ.bookingId).map (Booking.merge σ.state .ticketed) :=
      Db.flushBookingState_self
    have hstate : (row.merge σ.state .ticketed).state = .ticketed := by
      rw [Booking.merge_state, hs.trans hbefore.state.symm, Orm.writeBack_fresh]
    obtain ⟨result, -, href', -⟩ := hcharged.answered
    refine ⟨⟨hbefore.seated.afterIssue assigned, rfl, ⟨⟨row.merge σ.state .ticketed, ?_, hof,
      .inl hstate⟩, hbefore.recorded.passengers⟩, fun q hq => ?_⟩, ⟨hfor.booking, hfor.amount,
      hfor.currency, hfor.cardToken, hfor.key⟩, hcharged.row, hcharged.state, ?_⟩
    · exact hrow.trans (congrArg (Option.map _) hr)
    · obtain ⟨-, hpassengers, -⟩ := newTickets_columns hbefore.seated hassigned σ.bookingId s.uuid
        s.clock x.eTicketNo
      have hq' : q ∈ σ.passengers := hbefore.recorded.passengers ▸ hq
      have hid : q.id ∈ (newTickets σ.bookingId s.uuid s.clock x.eTicketNo assigned).map
          Ticket.passengerId := by
        rw [hpassengers]
        exact List.mem_map_of_mem hq'
      obtain ⟨t, hmem, ht'⟩ := List.mem_map.mp hid
      obtain ⟨_, _, _, _, _, hlive⟩ := mem_newTickets hmem
      exact ⟨t, Db.mem_ticketsOf.mpr ⟨List.mem_append_left _ hmem, newTickets_bookingId hmem⟩, ht',
        hlive⟩
    · rw [href']
      rfl
  case refuses σ pay rows reason hf h hcan hrows =>
    obtain rfl := Option.some.inj hb
    obtain ⟨hbefore, hfor, hcharged⟩ := ho σ.bookingId rfl
    exact ⟨hbefore.moved .compensating Db.flushBookingState_self rfl rfl,
      ⟨hfor.booking, hfor.amount, hfor.currency, hfor.cardToken, hfor.key⟩,
      ⟨hcharged.row, hcharged.state, hcharged.answered⟩⟩
  -- the reversal is the last call; the charge it reverses stands behind it
  case reverses σ pay reason h =>
    obtain rfl := Option.some.inj hb
    obtain ⟨hbefore, hfor, hcharged⟩ := ho σ.bookingId rfl
    refine ⟨hbefore.of_view rfl rfl rfl, hfor, s.callsOf σ.bookingId, ?_,
      ⟨hcharged.row, hcharged.state, hcharged.answered⟩⟩
    have hcall := reverseOutcome_call s r σ hcharged.state
    rw [h] at hcall
    rw [Shared.view_calls, Shared.callsOf_reversed, hcall]
    rfl
  case reverseFails σ pay reason e h =>
    obtain rfl := Option.some.inj hb
    obtain ⟨hbefore, hfor, hcharged⟩ := ho σ.bookingId rfl
    refine ⟨hbefore.of_view rfl rfl rfl, hfor, s.callsOf σ.bookingId, ?_,
      ⟨hcharged.row, hcharged.state, hcharged.answered⟩⟩
    have hcall := reverseOutcome_call s r σ hcharged.state
    rw [h] at hcall
    rw [Shared.view_calls, Shared.callsOf_reversed, hcall]
    rfl
  -- a charge that was voided is reversed
  case voids σ pay reason hf h =>
    obtain rfl := Option.some.inj hb
    obtain ⟨hbefore, hfor, cs, hcs, hcharged⟩ := ho σ.bookingId rfl
    obtain ⟨row, hr, -⟩ := hbefore.recorded.row
    obtain ⟨result, -, href, hans⟩ := hcharged.answered
    refine settled_of_flush hr ((hbefore.row_state hr).trans hbefore.state.symm)
      Db.flushBookingState_self (.inr (.inl rfl)) fun hun => ?_
    have hcalls : (s.view σ.bookingId).calls = .void σ.bookingId result.providerRef true :: cs := by
      rw [hcs, href]
      rfl
    exact absurd (hcalls ▸ hun : Unreversed σ.bookingId _) (not_unreversed_of_voided hans)
  case flags σ pay reason error hf =>
    obtain rfl := Option.some.inj hb
    obtain ⟨hbefore, hfor, cs, hcs, hcharged⟩ := ho σ.bookingId rfl
    obtain ⟨row, hr, -⟩ := hbefore.recorded.row
    exact settled_of_flush hr ((hbefore.row_state hr).trans hbefore.state.symm)
      Db.flushBookingState_self (.inr (.inr rfl)) fun _ => rfl
  case captures σ pay result h =>
    obtain rfl := Option.some.inj hb
    obtain ⟨hticketed, hfor, hpay, hstate, href⟩ := ho σ.bookingId rfl
    exact ⟨⟨hticketed.seated, hticketed.state, ⟨hticketed.recorded.row,
      hticketed.recorded.passengers⟩, hticketed.whole⟩, hfor, hpay, hstate, href⟩
  case finds o b' c hc => cases o <;> exact ho b hb
  case findsNothing o b' hc => cases o <;> exact ho b hb
  case completes o b' c hf hc => cases o <;> exact ho b hb
  -- an exception leaves the saga without a booking to speak of
  case selectIllegal h | recordIllegal h | voidIllegal h | confirmIllegal h =>
    rw [raised_of_assertCanTransition h]
    trivial
  case refuseIllegal h =>
    rw [raised_of_assertCanTransition h]
    trivial
  case issueRolledBack h =>
    rw [raised_of_issueFails h]
    trivial
  case opensNothing e _ => cases e <;> exact absurd hb (by simp [raised, BookingPc.booking?])
  all_goals trivial

theorem CancelPc.Outline.of_payments {b : BookingId} {V V' : View} {pc : CancelPc}
    (h : pc.Outline b V) (hpay : ∀ r ∈ V.payments, ∃ r' ∈ V'.payments, r'.id = r.id ∧
      r'.providerRef = r.providerRef) : pc.Outline b V' where
  state := h.state
  payment pay hinst := by
    obtain ⟨hb, hstate, href, r, hr, hid, hrr⟩ := h.payment pay hinst
    obtain ⟨r', hr', hid', hrr'⟩ := hpay r hr
    exact ⟨hb, hstate, href, r', hr', hid'.trans hid, hrr'.trans hrr⟩

theorem findPayment_eq_some {db : Db} {b : BookingId} {pay : Payment}
    (h : findPayment db b = some pay) : pay ∈ db.paymentsOf b ∧
      (pay.state = .authorized ∨ pay.state = .captured) := by
  have hmem := List.mem_of_find?_eq_some h
  have hcond := List.find?_some h
  simp only [Bool.and_eq_true, decide_eq_true_eq, Bool.or_eq_true, beq_iff_eq] at hcond
  exact ⟨Db.mem_paymentsOf.mpr ⟨hmem, hcond.1⟩, hcond.2⟩

/-- The assertion of a cancellation holds where it arrives. -/
theorem CancelStep.outline {r : CancelRequest} {x : Draws} {pc pc' : CancelPc}
    (h : CancelStep s p r x pc s' pc') (ht : Tables s)
    (ho : ∀ b, pc.booking? = some b → pc.Outline b (s.view b)) {b : BookingId}
    (hb : pc'.booking? = some b) : pc'.Outline b (s'.view b) := by
  cases h
  case accepts b' row h h' =>
    refine ⟨fun copy hcopy => ?_, fun pay hpay => absurd hpay (by simp [CancelPc.instance?])⟩
    obtain rfl := Option.some.inj hcopy
    simpa using requireState_eq_none.mp h'
  case selects b' state =>
    obtain rfl := Option.some.inj hb
    refine ⟨(ho b' rfl).state, fun pay hpay => ?_⟩
    obtain ⟨hmem, hstate⟩ := findPayment_eq_some hpay
    obtain ⟨hrow, hbid⟩ := Db.mem_paymentsOf.mp hmem
    exact ⟨hbid, hstate, ht.payments.ref pay hrow hstate, pay, hmem, rfl, rfl⟩
  case locks b' state pay hf =>
    cases pay with
    | none =>
      obtain rfl := Option.some.inj hb
      exact ⟨(ho b' rfl).state, (ho b' rfl).payment⟩
    | some pay =>
      obtain rfl := Option.some.inj hb
      exact ⟨(ho b' rfl).state, (ho b' rfl).payment⟩
  case refunds b' state pay h =>
    obtain rfl := Option.some.inj hb
    have hout : (CancelPc.finish b' state (some pay)).Outline b' (s.view b') :=
      ⟨(ho b' rfl).state, (ho b' rfl).payment⟩
    exact hout.of_payments fun r hr => ⟨r, hr, rfl, rfl⟩
  case refundFails b' state pay e h =>
    obtain rfl := Option.some.inj hb
    exact ⟨(ho b' rfl).state, fun pay hpay => absurd hpay (by simp [CancelPc.instance?])⟩
  all_goals exact absurd hb (by simp [CancelPc.booking?])

/-! ### The bystanders -/

/-- A flush that leaves the reference alone leaves each row's key and reference. -/
theorem exists_mem_flushPayment {db : Db} {b : BookingId} {loaded current r : Payment}
    (href : current.providerRef = loaded.providerRef) (hr : r ∈ db.paymentsOf b) :
    ∃ r' ∈ (db.flushPayment loaded current).paymentsOf b, r'.id = r.id ∧
      r'.providerRef = r.providerRef := by
  rw [Db.paymentsOf_flushPayment]
  refine ⟨_, List.mem_map_of_mem hr, ?_⟩
  split
  · exact ⟨rfl, by simp [Payment.merge, href]⟩
  · exact ⟨rfl, rfl⟩

/-- What a cancellation of a ticketed booking does to its tables: at most it
flags it. -/
theorem CancelStep.view_ticketed {r : CancelRequest} {x : Draws} {pc pc' : CancelPc}
    {b : BookingId} (h : CancelStep s p r x pc s' pc') (hcopy : pc.copy? = some (b, .ticketed)) :
    (s'.view b).passengers = (s.view b).passengers ∧
      (s'.view b).payments = (s.view b).payments ∧ (s'.view b).tickets = (s.view b).tickets ∧
        ((s'.view b).row = (s.view b).row ∨ (s'.view b).row =
          (s.view b).row.map (Booking.merge .ticketed .needsManualReview)) := by
  cases h
  case finishes b' state refunded h hseq =>
    simp only [CancelPc.copy?, Option.some.injEq, Prod.mk.injEq] at hcopy
    obtain ⟨rfl, rfl⟩ := hcopy
    exact absurd h (by decide)
  case reviews b' state error hseq =>
    simp only [CancelPc.copy?, Option.some.injEq, Prod.mk.injEq] at hcopy
    obtain ⟨rfl, rfl⟩ := hcopy
    exact ⟨rfl, rfl, rfl, .inr Db.flushBookingState_self⟩
  all_goals exact ⟨rfl, rfl, rfl, .inl rfl⟩

theorem Saga.Ticketed.flagged {σ : Saga} {u : UserId} {V V' : View} (h : σ.Ticketed u V)
    (hq : V'.passengers = V.passengers) (ht : V'.tickets = V.tickets)
    (hrow : V'.row = V.row ∨ V'.row = V.row.map (Booking.merge .ticketed .needsManualReview)) :
    σ.Ticketed u V' := by
  have hwhole : V'.Whole := by
    intro q hmem
    rw [ht]
    exact h.whole q (hq ▸ hmem)
  refine ⟨h.seated, h.state, ⟨?_, hq.trans h.recorded.passengers⟩, hwhole⟩
  obtain ⟨row, hr, hof, hs⟩ := h.recorded.row
  rcases hrow with hrow | hrow
  · exact ⟨row, hrow.trans hr, hof, hs⟩
  · refine ⟨row.merge .ticketed .needsManualReview, by rw [hrow, hr]; rfl, hof, .inr ?_⟩
    have hne : BookingState.needsManualReview ≠ .ticketed := by decide
    exact Orm.writeBack_dirty row.state hne

/-- A step that does not work on a booking does not show in its view. -/
theorem Step.view_eq_of_ne {P P' : Proc} {a : Input} {b : BookingId} (h : Step env s p P a s' P')
    (ht : Tables s) (hP : P.Outline s) (hw : P.writes ≠ some b) (hlt : b < s.uuid) :
    s'.view b = s.view b := by
  by_cases hw' : P'.writes = some b
  · rcases h.writes_cases hw' with hold | ⟨-, rfl⟩ | ⟨r, row, -, -, rfl, -⟩
    · exact absurd hold hw
    · exact absurd hlt (lt_irrefl _)
    · rfl
  · exact h.view_eq hw hw' fun pay hpay => hP.instance_ne ht hw hpay

/-- A booking a step does not work on was there as it is, or step 1 has just
inserted it. -/
theorem Step.view_cases {P P' : Proc} {a : Input} {b : BookingId} (h : Step env s p P a s' P')
    (ht : Tables s) (hP : P.Outline s) (hw : P.writes ≠ some b) {row : Booking}
    (hrow : (s'.view b).row = some row) :
    s'.view b = s.view b ∨ row.state = .pending ∧ (s'.view b).tickets = [] := by
  rcases lt_or_ge b s.uuid with hlt | hge
  · exact .inl (h.view_eq_of_ne ht hP hw hlt)
  have hnone : s.db.booking b = none := congrArg View.row (ht.unborn b hge)
  by_cases hopen : P.opening
  · cases h
    case booking r x pc pc' h =>
      cases h <;> try exact hopen.elim
      case opens seats flightId flight ref hseats hf hlen hlive hids hflight hpnr htotal href =>
        by_cases hb : b = s.uuid
        · subst hb
          rw [view_opened ht] at hrow ⊢
          obtain rfl := Option.some.inj hrow
          exact .inr ⟨rfl, rfl⟩
        · have hsame := (Function.update_of_ne hb _ s.db.booking).symm.trans hrow
          rw [hnone] at hsame
          simp at hsame
      case opensNothing => exact .inl rfl
    all_goals exact hopen.elim
  · rcases (h.keepsRows hopen).booking b with hr | ⟨loaded, current, hr⟩ <;>
      rw [Shared.view_row, hr, hnone] at hrow <;> simp at hrow

theorem BookingPc.booking?_of_saga? {pc : BookingPc} {b : BookingId}
    (h : pc.saga?.map Saga.bookingId = some b) : pc.booking? = some b := by
  cases pc <;> simp_all [BookingPc.saga?, BookingPc.booking?]

theorem CancelPc.copy?_of_booking? {pc : CancelPc} {b : BookingId} (h : pc.booking? = some b) :
    ∃ state, pc.copy? = some (b, state) := by
  cases pc <;> simp_all [CancelPc.booking?, CancelPc.copy?]

/-- A request whose booking is neither untold nor ticketed assumes nothing of it. -/
theorem BookingPc.outline_trivial {pc : BookingPc} {r : BookingRequest} {b : BookingId}
    (hb : pc.booking? = some b) (hun : pc.untold? ≠ some b) (htick : pc.ticketed? ≠ some b)
    (V : View) : pc.Outline r b V := by
  cases pc <;> try trivial
  case completeSelect o b' | completeCommit o b' | done o b' => cases o <;> trivial

/-- **No step disturbs a bystander.** -/
theorem Step.bystander {P P' Q : Proc} {a : Input} (h : Step env s p P a s' P') (ht : Tables s)
    (hP : P.Outline s) (hQ : Q.Outline s) (hPQ : P.Apart Q) (hQP : Q.Apart P) : Q.Outline s' := by
  have hu := h.uuid_le
  cases Q with
  | booking r pc =>
    intro b hb
    obtain ⟨hlt, hout⟩ := hQ b hb
    refine ⟨hlt.trans_le hu, ?_⟩
    by_cases hw : P.writes = some b
    · cases h
      -- two sagas have two bookings
      case booking r' x pcP pcP' h =>
        exact absurd hb (hPQ.booking b (BookingPc.booking?_of_saga? hw))
      -- a cancellation writes to a saga's booking only while the saga captures
      case cancel r' x pcP pcP' h =>
        obtain ⟨state, hcopy⟩ := CancelPc.copy?_of_booking? hw
        have hun : pc.untold? ≠ some b := fun hun => hQP.untold b hun (by simp [Proc.copy?, hcopy])
        by_cases htick : pc.ticketed? = some b
        · obtain rfl := hQP.ticketed b htick state hcopy
          obtain ⟨hq, hpay, htk, hrow⟩ := h.view_ticketed hcopy
          cases pc <;> simp only [BookingPc.ticketed?, reduceCtorEq] at htick
          all_goals
            obtain rfl := Option.some.inj htick
            obtain ⟨hticketed, hfor, hpays, hrest⟩ := hout
            exact ⟨hticketed.flagged hq htk hrow, hfor, hpay.trans hpays, hrest⟩
        · exact BookingPc.outline_trivial hb hun htick _
      all_goals exact absurd hw (by simp [Proc.writes])
    · rw [h.view_eq_of_ne ht hP hw hlt]
      exact hout
  | cancel r pc =>
    intro b hb
    obtain ⟨hlt, hout⟩ := hQ b hb
    refine ⟨hlt.trans_le hu, ?_⟩
    obtain ⟨state, hcopy⟩ := CancelPc.copy?_of_booking? hb
    by_cases hw : P.writes = some b
    · refine hout.of_payments fun r hr => ?_
      cases h
      case booking r' x pcP pcP' h =>
        have hun : pcP.untold? ≠ some b := fun hun => hPQ.untold b hun (by simp [Proc.copy?, hcopy])
        cases h
        -- what a cancellation has found of the payment is there after every flush
        case confirms σ pay _ _ => exact exists_mem_flushPayment rfl hr
        case captures | captureFails | confirmIllegal | confirmRolledBack | refreshes =>
          exact ⟨r, hr, rfl, rfl⟩
        all_goals first
          | exact absurd hw hun
          | exact absurd hw (by simp [Proc.writes, BookingPc.saga?])
      case cancel r' x pcP pcP' h =>
        cases h
        case finishes b' state' refunded _ _ =>
          cases refunded with
          | none => exact ⟨r, hr, rfl, rfl⟩
          | some pay => exact exists_mem_flushPayment rfl hr
        all_goals exact ⟨r, hr, rfl, rfl⟩
      all_goals exact absurd hw (by simp [Proc.writes])
    · rw [h.view_eq_of_ne ht hP hw hlt]
      exact hout
  | idle | hold | release | sweep => trivial

/-! ### How two processes stand to each other -/

/-- A request gets its booking in step 1, and keeps it. -/
theorem BookingStep.booking?_cases {r : BookingRequest} {x : Draws} {pc pc' : BookingPc}
    {b : BookingId} (h : BookingStep env s p r x pc s' pc') (hb : pc'.booking? = some b) :
    pc.booking? = some b ∨ pc = .openBooking ∧ b = s.uuid := by
  cases h
  case opens => exact .inr ⟨rfl, (Option.some.inj hb).symm⟩
  case opensNothing e _ => cases e <;> exact absurd hb (by simp [raised, BookingPc.booking?])
  case selectIllegal h | recordIllegal h | voidIllegal h | confirmIllegal h =>
    rw [raised_of_assertCanTransition h] at hb
    exact .inl hb
  case refuseIllegal h =>
    rw [raised_of_assertCanTransition h] at hb
    exact .inl hb
  case issueRolledBack h =>
    rw [raised_of_issueFails h] at hb
    exact .inl hb
  case authorizes result _ | retries result _ =>
    left
    cases hr : result.approved <;> simp only [afterAuthorize, hr] at hb <;> exact hb
  all_goals exact .inl hb

theorem BookingStep.untold?_cases {r : BookingRequest} {x : Draws} {pc pc' : BookingPc}
    {b : BookingId} (h : BookingStep env s p r x pc s' pc') (hb : pc'.untold? = some b) :
    pc.untold? = some b ∨ pc = .openBooking ∧ b = s.uuid := by
  cases h
  case opens => exact .inr ⟨rfl, (Option.some.inj hb).symm⟩
  case opensNothing e _ => cases e <;> exact absurd hb (by simp [raised, BookingPc.untold?,
      BookingPc.booking?])
  case selectIllegal h | recordIllegal h | voidIllegal h | confirmIllegal h =>
    rw [raised_of_assertCanTransition h] at hb
    simp [BookingPc.untold?] at hb
  case refuseIllegal h =>
    rw [raised_of_assertCanTransition h] at hb
    simp [BookingPc.untold?] at hb
  case issueRolledBack h =>
    rw [raised_of_issueFails h] at hb
    simp [BookingPc.untold?] at hb
  case authorizes result _ | retries result _ =>
    left
    cases hr : result.approved <;> simp only [afterAuthorize, hr] at hb <;> exact hb
  case finds o _ _ _ => cases o <;> exact .inl hb
  case findsNothing o _ _ => cases o <;> exact .inl hb
  case completes o _ _ _ _ => cases o <;> exact .inl hb
  case completesNothing o _ _ => cases o <;> simp [BookingPc.untold?] at hb
  all_goals first
    | exact .inl hb
    | exact absurd hb (by simp [BookingPc.untold?])

theorem BookingStep.ticketed?_cases {r : BookingRequest} {x : Draws} {pc pc' : BookingPc}
    {b : BookingId} (h : BookingStep env s p r x pc s' pc') (hb : pc'.ticketed? = some b) :
    pc.ticketed? = some b ∨ pc.untold? = some b := by
  cases h
  case opensNothing e _ => cases e <;> exact absurd hb (by simp [raised, BookingPc.ticketed?])
  case selectIllegal h | recordIllegal h | voidIllegal h | confirmIllegal h =>
    rw [raised_of_assertCanTransition h] at hb
    simp [BookingPc.ticketed?] at hb
  case refuseIllegal h =>
    rw [raised_of_assertCanTransition h] at hb
    simp [BookingPc.ticketed?] at hb
  case issueRolledBack h =>
    rw [raised_of_issueFails h] at hb
    simp [BookingPc.ticketed?] at hb
  case authorizes result _ | retries result _ =>
    cases hr : result.approved <;> simp [afterAuthorize, hr, BookingPc.ticketed?] at hb
  case issues => exact .inr hb
  case captures => exact .inl hb
  all_goals exact absurd hb (by simp [BookingPc.ticketed?])

/-- A cancellation keeps the copy it loaded. -/
theorem CancelStep.copy?_cases {r : CancelRequest} {x : Draws} {pc pc' : CancelPc} {b : BookingId}
    {state : BookingState} (h : CancelStep s p r x pc s' pc') (hb : pc'.copy? = some (b, state)) :
    pc.copy? = some (b, state) ∨
      ∃ row, s.db.booking b = some row ∧ row.state = state ∧ pc = .load ∧
        (state = .confirmed ∨ state = .ticketed) := by
  cases h
  case accepts b' row h h' =>
    simp only [CancelPc.copy?, Option.some.injEq, Prod.mk.injEq] at hb
    obtain ⟨rfl, rfl⟩ := hb
    exact .inr ⟨row, (ownedBooking_eq_some h).2.1, rfl, rfl,
      by simpa using requireState_eq_none.mp h'⟩
  case locks b' state' pay _ => cases pay <;> exact .inl hb
  all_goals first
    | exact .inl hb
    | exact absurd hb (by simp [CancelPc.copy?])

theorem Step.booking?_cases {P P' : Proc} {a : Input} {b : BookingId} (h : Step env s p P a s' P')
    (hb : P'.booking? = some b) : P.booking? = some b ∨ b = s.uuid := by
  cases h
  case booking r x pc pc' h => exact (h.booking?_cases hb).imp_right And.right
  case arrive r => cases r <;> exact absurd hb (by simp [Request.start, Proc.booking?,
      BookingPc.booking?, BookingPc.saga?])
  all_goals exact absurd hb (by simp [Proc.booking?])

theorem Step.untold?_cases {P P' : Proc} {a : Input} {b : BookingId} (h : Step env s p P a s' P')
    (hb : P'.untold? = some b) : P.untold? = some b ∨ b = s.uuid := by
  cases h
  case booking r x pc pc' h => exact (h.untold?_cases hb).imp_right And.right
  case arrive r => cases r <;> exact absurd hb (by simp [Request.start, Proc.untold?,
      BookingPc.untold?, BookingPc.booking?, BookingPc.saga?])
  all_goals exact absurd hb (by simp [Proc.untold?])

theorem Step.ticketed?_cases {P P' : Proc} {a : Input} {b : BookingId} (h : Step env s p P a s' P')
    (hb : P'.ticketed? = some b) : P.ticketed? = some b ∨ P.untold? = some b := by
  cases h
  case booking r x pc pc' h => exact h.ticketed?_cases hb
  case arrive r => cases r <;> exact absurd hb (by simp [Request.start, Proc.ticketed?,
      BookingPc.ticketed?])
  all_goals exact absurd hb (by simp [Proc.ticketed?])

theorem Step.copy?_cases {P P' : Proc} {a : Input} {b : BookingId} {state : BookingState}
    (h : Step env s p P a s' P') (hb : P'.copy? = some (b, state)) :
    P.copy? = some (b, state) ∨ ∃ row, s.db.booking b = some row ∧ row.state = state ∧
      (state = .confirmed ∨ state = .ticketed) := by
  cases h
  case cancel r x pc pc' h =>
    rcases h.copy?_cases hb with hold | ⟨row, hrow, hs, -, hst⟩
    · exact .inl hold
    · exact .inr ⟨row, hrow, hs, hst⟩
  case arrive r => cases r <;> exact absurd hb (by simp [Request.start, Proc.copy?,
      CancelPc.copy?])
  all_goals exact absurd hb (by simp [Proc.copy?])

/-- The row of an untold booking is in no state a cancellation accepts or leaves. -/
theorem BookingPc.Outline.untold_state {r : BookingRequest} {b : BookingId} {V : View}
    {pc : BookingPc} (ho : pc.Outline r b V) (hb : pc.untold? = some b) {row : Booking}
    (hr : V.row = some row) :
    row.state ≠ .confirmed ∧ row.state ≠ .ticketed ∧ row.state ≠ .cancelled := by
  have hbefore : ∀ {σ : Saga} {state : BookingState}, σ.Before r.userId state V →
      (state = .pending ∨ state = .paymentAuthorized ∨ state = .compensating) →
        row.state ≠ .confirmed ∧ row.state ≠ .ticketed ∧ row.state ≠ .cancelled := by
    intro σ state h hstate
    rw [h.row_state hr]
    rcases hstate with rfl | rfl | rfl <;> decide
  have hsettled : Settled b V →
      row.state ≠ .confirmed ∧ row.state ≠ .ticketed ∧ row.state ≠ .cancelled := by
    rintro ⟨row', hr', hstate, -⟩
    rw [hr] at hr'
    obtain rfl := Option.some.inj hr'
    rcases hstate with h | h | h <;> rw [h] <;> decide
  cases pc
  case completeSelect o b' | completeCommit o b' => cases o <;> first
    | exact hsettled ho
    | exact absurd hb (by simp [BookingPc.untold?])
  case done o b' => cases o <;> first
    | exact hsettled ho
    | exact absurd hb (by simp [BookingPc.untold?])
  case issueTickets | reverse | finishVoided | finishReview =>
    exact hbefore ho.1 (by simp)
  all_goals first
    | exact hbefore ho.1 (by simp)
    | exact absurd hb (by simp [BookingPc.untold?, BookingPc.booking?, BookingPc.saga?])

theorem BookingPc.Outline.ticketed_state {r : BookingRequest} {b : BookingId} {V : View}
    {pc : BookingPc} (ho : pc.Outline r b V) (hb : pc.ticketed? = some b) {row : Booking}
    (hr : V.row = some row) : row.state = .ticketed ∨ row.state = .needsManualReview := by
  have hticketed : ∀ {σ : Saga}, σ.Ticketed r.userId V →
      row.state = .ticketed ∨ row.state = .needsManualReview := by
    intro σ h
    obtain ⟨row', hr', -, hs⟩ := h.recorded.row
    rw [hr] at hr'
    obtain rfl := Option.some.inj hr'
    exact hs
  cases pc <;> simp only [BookingPc.ticketed?, reduceCtorEq] at hb
  all_goals exact hticketed ho.1

omit [PaymentGateway G] in
theorem Proc.Outline.booking_lt {P : Proc} (ho : P.Outline s) {b : BookingId}
    (hb : P.booking? = some b) : b < s.uuid := by
  cases P <;> first
    | exact (ho b hb).1
    | exact absurd hb (by simp [Proc.booking?])

omit [PaymentGateway G] in
theorem Proc.Outline.copy_lt {P : Proc} (ho : P.Outline s) {b : BookingId} {state : BookingState}
    (hb : P.copy? = some (b, state)) : b < s.uuid := by
  cases P with
  | cancel r pc =>
    have hb' : pc.booking? = some b := by
      cases pc <;> simp_all [Proc.copy?, CancelPc.copy?, CancelPc.booking?]
    exact (ho b hb').1
  | _ => exact absurd hb (by simp [Proc.copy?])

theorem BookingPc.booking?_of_untold? {pc : BookingPc} {b : BookingId} (h : pc.untold? = some b) :
    pc.booking? = some b := by
  cases pc <;> try exact h
  case completeSelect o b' | completeCommit o b' => cases o <;> simp_all [BookingPc.untold?]
  case done o b' => cases o <;> simp_all [BookingPc.untold?]
  all_goals exact absurd h (by simp [BookingPc.untold?])

theorem BookingPc.booking?_of_ticketed? {pc : BookingPc} {b : BookingId}
    (h : pc.ticketed? = some b) : pc.booking? = some b := by
  cases pc <;> first
    | exact h
    | exact absurd h (by simp [BookingPc.ticketed?])

omit [PaymentGateway G] in
/-- A booking whose row a cancellation accepts, or has left, is not untold. -/
theorem Proc.Outline.untold_state {P : Proc} (ho : P.Outline s) {b : BookingId}
    (hb : P.untold? = some b) {row : Booking} (hr : s.db.booking b = some row) :
    row.state ≠ .confirmed ∧ row.state ≠ .ticketed ∧ row.state ≠ .cancelled := by
  cases P with
  | booking r pc =>
    exact (ho b (BookingPc.booking?_of_untold? hb)).2.untold_state hb hr
  | _ => exact absurd hb (by simp [Proc.untold?])

omit [PaymentGateway G] in
theorem Proc.Outline.ticketed_state {P : Proc} (ho : P.Outline s) {b : BookingId}
    (hb : P.ticketed? = some b) {row : Booking} (hr : s.db.booking b = some row) :
    row.state = .ticketed ∨ row.state = .needsManualReview := by
  cases P with
  | booking r pc =>
    exact (ho b (BookingPc.booking?_of_ticketed? hb)).2.ticketed_state hb hr
  | _ => exact absurd hb (by simp [Proc.ticketed?])

/-- **A step keeps its process apart from every other.** -/
theorem Step.apart {P P' Q : Proc} {a : Input} (h : Step env s p P a s' P')
    (hQ : Q.Outline s) (hPQ : P.Apart Q) (hQP : Q.Apart P) : P'.Apart Q ∧ Q.Apart P' := by
  refine ⟨⟨fun b hb hb' => ?_, fun b hb hc => ?_, fun b hb state hc => ?_⟩,
    ⟨fun b hb hb' => ?_, fun b hb hc => ?_, fun b hb state hc => ?_⟩⟩
  · rcases h.booking?_cases hb with hold | rfl
    · exact hPQ.booking b hold hb'
    · exact lt_irrefl _ (hQ.booking_lt hb')
  · rcases h.untold?_cases hb with hold | rfl
    · exact hPQ.untold b hold hc
    · obtain ⟨⟨b, state⟩, hcopy, rfl⟩ := Option.map_eq_some_iff.mp hc
      exact lt_irrefl _ (hQ.copy_lt hcopy)
  · rcases h.ticketed?_cases hb with hold | hold
    · exact hPQ.ticketed b hold state hc
    · exact absurd (by rw [hc]; rfl) (hPQ.untold b hold)
  · rcases h.booking?_cases hb' with hold | rfl
    · exact hQP.booking b hb hold
    · exact lt_irrefl _ (hQ.booking_lt hb)
  · obtain ⟨⟨b', state⟩, hcopy, rfl⟩ := Option.map_eq_some_iff.mp hc
    rcases h.copy?_cases hcopy with hold | ⟨row, hrow, rfl, hst⟩
    · exact hQP.untold b' hb (by rw [hold]; rfl)
    · have hne := hQ.untold_state hb hrow
      exact hst.elim hne.1 hne.2.1
  · rcases h.copy?_cases hc with hold | ⟨row, hrow, rfl, hst⟩
    · exact hQP.ticketed b hb state hold
    · rcases hQ.ticketed_state hb hrow with hrs | hrs
      · exact hrs
      · rw [hrs] at hst
        simp at hst

/-- The mover's assertion, whoever it is. -/
theorem Step.mover {P P' : Proc} {a : Input} (h : Step env s p P a s' P') (ht : Tables s)
    (ho : P.Outline s) : P'.Outline s' := by
  have ht' := h.tables ht ho
  have hlt : ∀ b, P'.writes = some b → b < s'.uuid := by
    intro b hw
    rcases h.writes_cases hw with hold | ⟨hopen, rfl⟩ | ⟨r, row, -, -, rfl, hrow, -⟩
    · exact (ho.writes_lt hold).trans_le h.uuid_le
    · cases h <;> try exact hopen.elim
      case booking r x pc pc' h =>
        cases h <;> try exact hopen.elim
        case opens =>
          exact Nat.lt_add_of_pos_right (Nat.add_pos_left one_pos _)
        case opensNothing e _ => cases e <;> simp [raised, Proc.writes, BookingPc.saga?] at hw
    · by_contra hge
      have hnone := congrArg View.row (ht.unborn b (not_lt.mp hge))
      rw [Shared.view_row, hrow] at hnone
      simp at hnone
  cases h
  case booking r x pc pc' h =>
    have hstep : Step env s p (.booking r pc) (.go x) s' (.booking r pc') := .booking h
    intro b hb
    refine ⟨?_, h.outline ht (fun b hb => (ho b hb).2) hb⟩
    rcases h.booking?_cases hb with hold | ⟨hopen, rfl⟩
    · exact (ho b hold).1.trans_le hstep.uuid_le
    · subst hopen
      refine hlt s.uuid ?_
      cases h
      case opens => rfl
      case opensNothing e _ => cases e <;> simp [raised, BookingPc.booking?] at hb
  case cancel r x pc pc' h =>
    intro b hb
    exact ⟨hlt b hb, h.outline ht (fun b hb => (ho b hb).2) hb⟩
  case arrive r => cases r <;> first
    | trivial
    | exact fun b hb => absurd hb (by simp [BookingPc.booking?, BookingPc.saga?,
        CancelPc.booking?])
  all_goals trivial

/-! ### The outline -/

omit [PaymentGateway G] in
theorem Db.Initial.tables {db : Db} (h : db.Initial) (g : G) (clock : Time) :
    Tables (initialWorld db g clock).shared where
  seatIds := h.ids_sorted
  checked k := by simp [initialWorld, SeatInventory.checks, h.seats k]
  unborn b _ := by
    simp [initialWorld, Shared.view, Shared.callsOf, Db.passengersOf, Db.paymentsOf, Db.ticketsOf,
      h.booking, h.passengers, h.payments, h.tickets]
  passengerLt q hq := by simp [initialWorld, h.passengers] at hq
  passengerIds := by simp [initialWorld, h.passengers]
  payments := by
    constructor <;> simp [initialWorld, Db.paymentsOf, h.payments]
  seated t ht := by simp [initialWorld, h.tickets] at ht
  onFlight q hq := by simp [initialWorld, h.passengers] at hq
  pinned k b hb := by simp [initialWorld, h.seats k] at hb
  refs ref b := by simp [initialWorld, h.booking, h.bookingRef]

omit [PaymentGateway G] in
/-- The outline holds at the start. -/
theorem outline_initial {db : Db} (h : db.Initial) (g : G) (clock : Time) :
    (outline G).Holds (initialWorld db g clock) where
  shared := h.tables g clock
  own _ := trivial
  pair _ _ _ := ⟨fun _ hb => by simp [initialWorld, Proc.booking?] at hb,
    fun _ hb => by simp [initialWorld, Proc.untold?] at hb,
    fun _ hb => by simp [initialWorld, Proc.ticketed?] at hb⟩

/-- One step keeps the outline. -/
theorem outline_next {w w' : World (Shared G) Proc} {p : ℕ} {a : Input}
    (h : (outline G).Holds w) (hn : (service env G).next w p a = some w') :
    (outline G).Holds w' := by
  refine h.next hn fun s' P' hs => ?_
  have hstep := step_of hs
  refine ⟨hstep.tables h.shared (h.own p), hstep.mover h.shared (h.own p), fun Q hQ hPQ hQP => ?_⟩
  obtain ⟨hP'Q, hQP'⟩ := hstep.apart hQ hPQ hQP
  exact ⟨hstep.bystander h.shared (h.own p) hQ hPQ hQP, hP'Q, hQP'⟩

/-- **The outline holds throughout every run**, from any world in which it holds. -/
theorem outline_run {C : World (Shared G) Proc → ℕ → Input → Prop} {w w' : World (Shared G) Proc}
    {as : List (ℕ × Input)} (h : (service env G).Run C w as w') (h₀ : (outline G).Holds w) :
    (outline G).Holds w' :=
  h.induct h₀ fun _ _ _ _ hw _ hn => outline_next hw hn

/-- **The outline holds in every reachable world.** -/
theorem outline_holds {C : World (Shared G) Proc → ℕ → Input → Prop} {db : Db} {g : G}
    {clock : Time} {w : World (Shared G) Proc} {as : List (ℕ × Input)} (hdb : db.Initial)
    (h : (service env G).Run C (initialWorld db g clock) as w) : (outline G).Holds w :=
  outline_run h (outline_initial hdb g clock)

end SkyLock
