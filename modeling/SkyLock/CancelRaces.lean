import SkyLock.Cancellation
import SkyLock.StateMachine

/-!
# Concurrent cancellations

`cancel` reads the booking without a lock and never reads it again, so whatever the
endpoint lets through goes all the way: a second cancellation that has read `CONFIRMED`
asks for a refund and journals a cancellation of its own, and one that has read
`TICKETED` refunds a booking that its saga then confirms.  Concurrent cancellations
behave like one in the runs in which at most one is let through, on a confirmed booking.

## Main definitions

* `Db.cancellations`, `Shared.refundCalls` — what a cancellation leaves behind.
* `CancelsInTurn` — the condition.
* `Phase` — how far the cancellation of a booking has got.
* `LikeOneCancel` — what the cancellations of a booking amount to.

## Main results

* `Phase.next` — a step of a run in turn keeps the phases.
* `cancels_like_one` — **cancellations in turn behave like one**.
* `cancelled_twice` — two that overlap both cancel and both ask for a refund.
-/

namespace SkyLock

open Concurrent

variable {G : Type} [PaymentGateway G] {env : Env} {s s' : Shared G} {p : ℕ} {P P' : Proc}
  {a : Input} {b : BookingId}

/-! ### What a cancellation leaves behind -/

/-- The audit rows that journal a cancellation of the booking. -/
def Db.cancellations (db : Db) (b : BookingId) : List BookingAudit :=
  db.audit.filter fun r => decide (r.bookingId = b) && r.eventType == .bookingCancelled

/-- The call asks for a refund. -/
def GatewayCall.isRefund : GatewayCall → Bool
  | .refund _ _ _ _ => true
  | _ => false

/-- The refund calls of the booking. -/
def Shared.refundCalls (s : Shared G) (b : BookingId) : List GatewayCall :=
  (s.callsOf b).filter GatewayCall.isRefund

/-- The booking a process has been let through to cancel. -/
def Proc.cancels? (P : Proc) : Option BookingId := P.copy?.map Prod.fst

omit [PaymentGateway G] in
theorem Db.cancellations_record_of_ne {db : Db} {b' : BookingId} {e : AuditEventType}
    (h : b' ≠ b ∨ e ≠ .bookingCancelled) (u : Option UserId) (x y : Option BookingState)
    (d : List (String × JsonValue)) :
    (db.record b' e u x y d).cancellations b = db.cancellations b := by
  refine List.filter_cons_of_neg ?_
  rcases h with h | h <;> simp [h]

theorem Db.cancellations_noted {audit rows : List BookingAudit} {b' : BookingId} (db : Db)
    (h : Noted b' audit rows) :
    Db.cancellations { db with audit := rows } b = Db.cancellations { db with audit := audit } b := by
  induction h with
  | refl => rfl
  | note _ he ih => exact (Db.cancellations_record_of_ne (.inr he) ..).trans ih

/-- Only the last transaction of a cancellation journals one. -/
theorem Step.cancellations_eq (h : Step env s p P a s' P')
    (hP : ∀ r state refunded, P ≠ .cancel r (.finish b state refunded)) :
    s'.db.cancellations b = s.db.cancellations b := by
  cases h
  case booking r x pc pc' h =>
    cases h
    case opens =>
      exact (Db.cancellations_record_of_ne (.inr (by decide)) ..).trans
        (Db.cancellations_record_of_ne (.inr (by decide)) ..)
    case fails σ f rows hf h =>
      refine (Db.cancellations_record_of_ne (.inr (by decide)) ..).trans ?_
      cases hpay : f.payment <;> rfl
    case journals | recordsAuthorized | confirms =>
      exact Db.cancellations_record_of_ne (.inr (by decide)) ..
    case issues hrows | refuses hrows =>
      exact (Db.cancellations_record_of_ne (.inr (by decide)) ..).trans
        (Db.cancellations_noted s.db hrows)
    case voids σ pay reason hf h =>
      exact (Db.cancellations_record_of_ne (.inr (by decide)) ..).trans
        (Db.cancellations_record_of_ne (.inr pay.reversed_ne_cancelled) ..)
    case flags =>
      exact (Db.cancellations_record_of_ne (.inr (by decide)) ..).trans
        (Db.cancellations_record_of_ne (.inr (by decide)) ..)
    all_goals rfl
  case cancel r x pc pc' h =>
    cases h
    case finishes b' state refunded h hseq =>
      have hne : b' ≠ b := by
        rintro rfl
        exact hP r state refunded rfl
      exact Db.cancellations_record_of_ne (.inl hne) ..
    case reviews => exact Db.cancellations_record_of_ne (.inr (by decide)) ..
    all_goals rfl
  case hold r x pc pc' h => cases h <;> rfl
  case release r x pc pc' h => cases h <;> rfl
  case sweep x pc pc' h => cases h; rfl
  all_goals rfl

/-- Only a cancellation asks for a refund. -/
theorem Step.refundCalls_eq (h : Step env s p P a s' P') (ho : P.Outline s)
    (hP : ∀ r state pay, P ≠ .cancel r (.refund b state pay)) :
    s'.refundCalls b = s.refundCalls b := by
  have hkept : ∀ (g : G) (c : GatewayCall), c.isRefund = false ∨ c.booking ≠ b →
      (s.called g c).refundCalls b = s.refundCalls b := by
    intro g c hc
    by_cases hb : c.booking = b
    · have hnot := hc.resolve_right (not_not_intro hb)
      rw [Shared.refundCalls, Shared.callsOf_called hb, List.filter_cons_of_neg (by simp [hnot])]
      rfl
    · rw [Shared.refundCalls, Shared.callsOf_called_of_ne hb]
      rfl
  cases h
  case booking r x pc pc' h =>
    cases h
    case authorizes | timesOut | retries | timesOutAgain | captures | captureFails =>
      exact hkept _ _ (.inl rfl)
    case reverses σ pay reason h | reverseFails σ pay reason e h =>
      refine hkept _ _ (.inl ?_)
      rw [reverseOutcome_call s r σ (ho σ.bookingId rfl).2.2.2.state]
      rfl
    all_goals rfl
  case cancel r x pc pc' h =>
    cases h
    case refunds b' state pay h | refundFails b' state pay e h =>
      refine hkept _ _ (.inr ?_)
      rintro rfl
      exact hP r state pay rfl
    all_goals rfl
  case hold r x pc pc' h => cases h <;> rfl
  case release r x pc pc' h => cases h <;> rfl
  case sweep x pc pc' h => cases h; rfl
  all_goals rfl

/-- The row of a booking and its payment, the refund calls made for it, and the number of
cancellations journalled. -/
structure Standing (s : Shared G) (b : BookingId) (state : BookingState) (pay : Payment)
    (calls : List GatewayCall) (n : ℕ) : Prop where
  row : s.db.StateIs b state
  payment : s.db.paymentsOf b = [pay]
  calls : s.refundCalls b = calls
  audit : (s.db.cancellations b).length = n

omit [PaymentGateway G] in
theorem Proc.cancels?_of_writes {r : CancelRequest} {pc : CancelPc} (h : pc.booking? = some b) :
    (Proc.cancel r pc).cancels? = some b := by
  obtain ⟨state, hcopy⟩ := CancelPc.copy?_of_booking? h
  exact congrArg (Option.map Prod.fst) hcopy

/-- What a booking that is confirmed or cancelled stands at, only its cancellations change. -/
theorem Standing.kept {state : BookingState} {pay : Payment} {calls : List GatewayCall} {n : ℕ}
    (hL : Standing s b state pay calls n) (hstate : state = .confirmed ∨ state = .cancelled)
    (h : Step env s p P a s' P') (ht : Tables s) (ho : P.Outline s) (hP : P.cancels? ≠ some b) :
    Standing s' b state pay calls n := by
  obtain ⟨row, hrow, hs⟩ := hL.row
  have hview : s'.view b = s.view b := by
    by_cases hw : P.writes = some b
    · cases P with
      | booking r pc =>
        have hun : pc.untold? ≠ some b := by
          intro hun
          have hne := ho.untold_state hun hrow
          rw [hs] at hne
          rcases hstate with rfl | rfl
          · exact hne.1 rfl
          · exact hne.2.2 rfl
        have htick : pc.ticketed? ≠ some b := by
          intro htick
          have hst := ho.ticketed_state htick hrow
          rw [hs] at hst
          rcases hstate with rfl | rfl <;> simp at hst
        cases h with
        | booking h =>
          cases h
          case refreshes => rfl
          all_goals first
            | exact absurd hw hun
            | exact absurd hw htick
      | cancel r pc => exact absurd (Proc.cancels?_of_writes hw) hP
      | _ => simp [Proc.writes] at hw
    · exact h.view_eq_of_ne ht ho hw (ht.lt_of_booking hrow)
  have hcancel : ∀ r pc, P = .cancel r pc → pc.booking? ≠ some b := by
    rintro r pc rfl hb
    exact hP (Proc.cancels?_of_writes hb)
  refine ⟨⟨row, ?_, hs⟩, ?_, ?_, ?_⟩
  · exact (congrArg View.row hview).trans hrow
  · exact (congrArg View.payments hview).trans hL.payment
  · exact (congrArg (fun V => V.calls.filter GatewayCall.isRefund) hview).trans hL.calls
  · rw [h.cancellations_eq fun r state refunded hP => hcancel r _ hP rfl]
    exact hL.audit

/-! ### References -/

/-- A cancellation that works on a booking has found it under its reference, and one that
has answered anything but 404 has found some booking there. -/
def Proc.Named (s : Shared G) : Proc → Prop
  | .cancel r (.done reply) => reply.status ≠ 404 → (s.db.bookingRef r.ref).isSome
  | .cancel r pc => ∀ b, pc.booking? = some b → s.db.bookingRef r.ref = some b
  | _ => True

/-- References are not given up. -/
theorem Step.bookingRef_kept (h : Step env s p P a s' P') (ht : Tables s) (ho : P.Outline s)
    {ref : String} (hb : s.db.bookingRef ref = some b) : s'.db.bookingRef ref = some b := by
  obtain ⟨row, hrow, hrow_ref⟩ := (ht.refs ref b).mp hb
  obtain ⟨row', hrow', hsame⟩ := h.booking_kept ht hrow
  refine ((h.tables ht ho).refs ref b).mpr ⟨row', hrow', ?_⟩
  rcases hsame with rfl | ⟨loaded, current, rfl⟩
  · exact hrow_ref
  · exact hrow_ref

theorem Step.named (h : Step env s p P a s' P') (hP : P.Named s) : P'.Named s' := by
  cases h
  case cancel r x pc pc' h =>
    cases h
    case findsNothing => exact fun hne => absurd rfl hne
    case refuses b row e h h' =>
      intro _
      rw [(ownedBooking_eq_some h).1]
      rfl
    case accepts b row h h' =>
      rintro b' hb'
      obtain rfl := Option.some.inj hb'
      exact (ownedBooking_eq_some h).1
    case selects b state => exact hP
    case locks b state pay hf => cases pay <;> exact hP
    case refunds b state pay h | refundFails b state pay e h => exact hP
    all_goals
      intro _
      exact Option.isSome_iff_exists.mpr ⟨_, hP _ rfl⟩
  case arrive r =>
    cases r <;> first
      | trivial
      | exact fun b hb => absurd hb (by simp [CancelPc.booking?])
  all_goals trivial

theorem Step.named_bystander (h : Step env s p P a s' P') (ht : Tables s) (ho : P.Outline s)
    {Q : Proc} (hQ : Q.Named s) : Q.Named s' := by
  cases Q with
  | cancel r pc =>
    cases pc with
    | done reply =>
      intro hne
      obtain ⟨b, hb⟩ := Option.isSome_iff_exists.mp (hQ hne)
      exact Option.isSome_iff_exists.mpr ⟨b, h.bookingRef_kept ht ho hb⟩
    | _ => exact fun b hb => h.bookingRef_kept ht ho (hQ b hb)
  | _ => trivial

/-! ### Taking turns -/

/-- A cancellation is let through on a booking that is confirmed and only where nobody
else is cancelling it, which is what `free` says; refunds and captures go through, and
audit numbers are free. -/
def TakesTurn (b : BookingId) (free : Prop) (w : World (Shared G) Proc) (p : ℕ) (a : Input) :
    Prop :=
  match w.proc p, a with
  | .cancel r .load, _ => ∀ o ∈ ownedBooking w.shared.db r.ref r.userId, o.1 = b →
      o.2.state ≠ .ticketed ∧ (o.2.state = .confirmed → free)
  | .cancel _ (.refund b' _ pay), _ => b' = b → succeeded (refundOutcome w.shared pay).1 = true
  | .cancel _ (.finish b' _ _), .go x => b' = b → x.seqTaken = false
  | .booking _ (.capture σ pay), _ =>
    σ.bookingId = b → succeeded (captureOutcome w.shared pay).1 = true
  | .booking _ (.confirm σ _), .go x => σ.bookingId = b → x.seqTaken = false
  | _, _ => True

/-- The cancellations of the booking take turns. -/
def CancelsInTurn (b : BookingId) (w : World (Shared G) Proc) : ℕ → Input → Prop :=
  TakesTurn b (∀ q, (w.proc q).cancels? ≠ some b) w

/-! ### The phases of a cancellation -/

/-- The process has cancelled the booking. -/
def Won (w : World (Shared G) Proc) (b : BookingId) (q : ℕ) : Prop :=
  ∃ r reply, w.proc q = .cancel r (.done reply) ∧ reply.status = 200 ∧
    w.shared.db.bookingRef r.ref = some b

/-- The process has been let through to cancel the booking, and has not asked for its
refund yet. -/
def Proc.Asks (b : BookingId) (pay : Payment) : Proc → Prop
  | .cancel _ (.selectPayment b' state) => b' = b ∧ state = .confirmed
  | .cancel _ (.lockSeats b' state pay') => b' = b ∧ state = .confirmed ∧ pay' = some pay
  | .cancel _ (.refund b' state pay') => b' = b ∧ state = .confirmed ∧ pay' = pay
  | _ => False

/-- The refund call of a payment. -/
def Payment.refundCall (pay : Payment) : GatewayCall :=
  .refund pay.bookingId (pay.providerRef.getD "") pay.amount true

/-- How far the cancellation of a booking has got. -/
inductive Phase (w : World (Shared G) Proc) (b : BookingId) : Prop
  /-- The booking is not confirmed yet, or never will be. -/
  | unsold (hrow : ∀ row, w.shared.db.booking b = some row →
        row.state ≠ .confirmed ∧ row.state ≠ .cancelled)
      (hcalls : w.shared.refundCalls b = []) (haudit : w.shared.db.cancellations b = [])
      (hnone : ∀ q, (w.proc q).cancels? ≠ some b) (hwon : ∀ q, ¬ Won w b q)
  /-- It is confirmed, and at most one cancellation has been let through. -/
  | sold {pay : Payment} (hL : Standing w.shared b .confirmed pay [] 0)
      (hpay : pay.state = .captured)
      (hone : ∀ q q', (w.proc q).cancels? = some b → (w.proc q').cancels? = some b → q = q')
      (hasks : ∀ q, (w.proc q).cancels? = some b → (w.proc q).Asks b pay)
      (hwon : ∀ q, ¬ Won w b q)
  /-- That cancellation has refunded the payment, and has yet to commit. -/
  | refunded {pay : Payment} {q : ℕ} {r : CancelRequest}
      (hL : Standing w.shared b .confirmed pay [pay.refundCall] 0)
      (hproc : w.proc q = .cancel r (.finish b .confirmed (some pay)))
      (hone : ∀ q', (w.proc q').cancels? = some b → q' = q) (hwon : ∀ q, ¬ Won w b q)
  /-- It has committed. -/
  | cancelled {pay : Payment} {q : ℕ} (hL : Standing w.shared b .cancelled pay [pay.refundCall] 1)
      (hpay : pay.state = .refunded) (hnone : ∀ q, (w.proc q).cancels? ≠ some b)
      (hwon : Won w b q) (hone : ∀ q', Won w b q' → q' = q)

/-! ### One step -/

/-- A process that has just been let through has read the booking as confirmed, while
nobody else was cancelling it. -/
theorem CancelsInTurn.let_through {w : World (Shared G) Proc} (hC : CancelsInTurn b w p a)
    (h : Step env w.shared p (w.proc p) a s' P') (hP : (w.proc p).cancels? ≠ some b)
    (hP' : P'.cancels? = some b) :
    (∃ r, P' = .cancel r (.selectPayment b .confirmed)) ∧ s' = w.shared ∧
      w.shared.db.StateIs b .confirmed ∧ ∀ q, (w.proc q).cancels? ≠ some b := by
  simp only [CancelsInTurn, TakesTurn] at hC
  generalize hproc : w.proc p = P at h hC hP
  cases h
  case cancel r x pc pc' h =>
    cases h
    case accepts b' row h h' =>
      obtain rfl : b' = b := Option.some.inj hP'
      obtain ⟨hticketed, hfree⟩ := hC (b', row) h rfl
      have hconfirmed : row.state = .confirmed := by
        rcases (by simpa using requireState_eq_none.mp h' : row.state = .confirmed ∨
          row.state = .ticketed) with hs | hs
        · exact hs
        · exact absurd hs hticketed
      rw [hconfirmed]
      exact ⟨⟨r, rfl⟩, rfl, ⟨row, (ownedBooking_eq_some h).2.1, hconfirmed⟩, hfree hconfirmed⟩
    case locks b' state pay hf => cases pay <;> exact absurd hP' hP
    all_goals first
      | exact absurd hP' hP
      | exact absurd hP' (by simp [Proc.cancels?, Proc.copy?, CancelPc.copy?])
  case arrive r =>
    cases r <;> exact absurd hP' (by simp [Request.start, Proc.cancels?, Proc.copy?, CancelPc.copy?])
  all_goals exact absurd hP' (by simp [Proc.cancels?, Proc.copy?])

omit [PaymentGateway G] in
theorem requireState_statusCode {current : BookingState} {expected : List BookingState}
    {e : AppError} (h : requireState current expected = some e) : e.statusCode = 409 := by
  unfold requireState at h
  split at h
  · exact absurd h (by simp)
  · obtain rfl := Option.some.inj h
    rfl

/-- Only the last transaction of a cancellation answers 200. -/
theorem Step.finish_of_succeeds {r : CancelRequest} {reply : Reply} (h : Step env s p P a s' P')
    (hP' : P' = .cancel r (.done reply)) (hreply : reply.status = 200) :
    ∃ b state refunded, P = .cancel r (.finish b state refunded) := by
  cases h
  case cancel r' x pc pc' h =>
    obtain ⟨rfl, hpc⟩ := Proc.cancel.inj hP'
    cases h
    case refuses b row e h h' =>
      obtain rfl := CancelPc.done.inj hpc
      rw [Reply.status, requireState_statusCode h'] at hreply
      exact absurd hreply (by decide)
    case locks b state pay hf => cases pay <;> exact absurd hpc (by simp [afterLock])
    case finishes b state refunded h hseq => exact ⟨b, state, refunded, rfl⟩
    case finishIllegal b state refunded e h => exact ⟨b, state, refunded, rfl⟩
    case finishRolledBack b state refunded h => exact ⟨b, state, refunded, rfl⟩
    case findsNothing | reviews | reviewRolledBack =>
      obtain rfl := CancelPc.done.inj hpc
      exact absurd hreply (by decide)
    all_goals exact absurd hpc (by simp)
  case arrive r' => cases r' <;> exact absurd hP' (by simp [Request.start])
  all_goals exact absurd hP' (by simp)

/-- A step lets a bystander keep its win, and gives it none. -/
theorem won_update_of_ne {w : World (Shared G) Proc} (ho : (outline G).Holds w)
    (hnamed : ∀ q, (w.proc q).Named w.shared) (h : Step env w.shared p (w.proc p) a s' P') {q : ℕ}
    (hne : q ≠ p) : Won ⟨s', Function.update w.proc p P'⟩ b q ↔ Won w b q := by
  constructor
  · rintro ⟨r, reply, hproc, hreply, href⟩
    simp only [Function.update_of_ne hne] at hproc
    have hname := hnamed q
    rw [hproc] at hname
    obtain ⟨b', hb'⟩ := Option.isSome_iff_exists.mp (hname (by rw [hreply]; decide))
    have hkept := h.bookingRef_kept ho.shared (ho.own p) hb'
    obtain rfl : b = b' := Option.some.inj (href.symm.trans hkept)
    exact ⟨r, reply, hproc, hreply, hb'⟩
  · rintro ⟨r, reply, hproc, hreply, href⟩
    refine ⟨r, reply, ?_, hreply, h.bookingRef_kept ho.shared (ho.own p) href⟩
    rw [← hproc]
    exact Function.update_of_ne hne ..

/-- A process that wins was about to commit its cancellation of the booking. -/
theorem won_update_self {w : World (Shared G) Proc} (ho : (outline G).Holds w)
    (hnamed : ∀ q, (w.proc q).Named w.shared) (h : Step env w.shared p (w.proc p) a s' P')
    (hwon : Won ⟨s', Function.update w.proc p P'⟩ b p) : (w.proc p).cancels? = some b := by
  obtain ⟨r, reply, hproc, hreply, href⟩ := hwon
  simp only [Function.update_self] at hproc
  obtain ⟨b', state, refunded, hP⟩ := h.finish_of_succeeds hproc hreply
  have hname := hnamed p
  rw [hP] at hname
  have hkept := h.bookingRef_kept ho.shared (ho.own p) (hname b' rfl)
  obtain rfl : b = b' := Option.some.inj (href.symm.trans hkept)
  rw [hP]
  rfl

/-- What a step of somebody who is not cancelling a booking makes of its row: nothing, or a
row that is not sold, or its saga tickets or confirms it. -/
theorem Step.row_cases (h : Step env s p P a s' P') (ht : Tables s) (ho : P.Outline s)
    (hP : P.cancels? ≠ some b) {row : Booking} (hrow : s'.db.booking b = some row) :
    s.db.booking b = some row ∨
      (row.state ≠ .confirmed ∧ row.state ≠ .cancelled ∧ row.state ≠ .ticketed) ∨
      (row.state = .ticketed ∧ P'.ticketed? = some b) ∨
      (row.state = .confirmed ∧ ∃ pay, s'.db.paymentsOf b = [pay] ∧ pay.state = .captured) := by
  -- a flush that leaves the state `current` in the row
  have hflush : ∀ loaded current : BookingState, loaded ≠ current →
      s'.db.booking b = (s.db.booking b).map (Booking.merge loaded current) →
        row.state = current := by
    intro loaded current hne hmerge
    rw [hmerge] at hrow
    obtain ⟨row₀, -, rfl⟩ := Option.map_eq_some_iff.mp hrow
    rw [Booking.merge_state, Orm.writeBack_dirty _ hne.symm]
  have hunsold : ∀ loaded current : BookingState, loaded ≠ current →
      (current ≠ .confirmed ∧ current ≠ .cancelled ∧ current ≠ .ticketed) →
      s'.db.booking b = (s.db.booking b).map (Booking.merge loaded current) →
        row.state ≠ .confirmed ∧ row.state ≠ .cancelled ∧ row.state ≠ .ticketed := by
    intro loaded current hne hcurrent hmerge
    rw [hflush loaded current hne hmerge]
    exact hcurrent
  by_cases hw : P.writes = some b
  · cases h
    case booking r x pc pc' h =>
      -- before ticketing, the saga has the state of its row
      have hbefore : ∀ {σ : Saga} {state current : BookingState}, σ.bookingId = b →
          σ.Before r.userId state (s.view σ.bookingId) → state ≠ current →
          (current ≠ .confirmed ∧ current ≠ .cancelled ∧ current ≠ .ticketed) →
          s'.db.booking σ.bookingId =
            (s.db.booking σ.bookingId).map (Booking.merge σ.state current) →
            row.state ≠ .confirmed ∧ row.state ≠ .cancelled ∧ row.state ≠ .ticketed := by
        rintro σ state current rfl hb hne hcurrent hmerge
        exact hunsold σ.state current (by rwa [hb.state]) hcurrent hmerge
      cases h
      case opens => exact absurd hw (by simp [Proc.writes, BookingPc.saga?])
      case fails σ f rows hf h =>
        exact .inr (.inl (hbefore (Option.some.inj hw) (ho σ.bookingId rfl).2.1 (by decide)
          (by decide) Db.flushBookingState_self))
      case recordsAuthorized σ pay result h _ =>
        exact .inr (.inl (hbefore (Option.some.inj hw) (ho σ.bookingId rfl).2.1 (by decide)
          (by decide) Db.flushBookingState_self))
      case refuses σ pay rows reason hf h hcan hrows =>
        exact .inr (.inl (hbefore (Option.some.inj hw) (ho σ.bookingId rfl).2.1 (by decide)
          (by decide) Db.flushBookingState_self))
      case voids σ pay reason hf h =>
        exact .inr (.inl (hbefore (Option.some.inj hw) (ho σ.bookingId rfl).2.1 (by decide)
          (by decide) Db.flushBookingState_self))
      case flags σ pay reason error hf =>
        exact .inr (.inl (hbefore (Option.some.inj hw) (ho σ.bookingId rfl).2.1 (by decide)
          (by decide) Db.flushBookingState_self))
      case issues σ pay assigned rows hf hlost htrig hassigned hunique hchecked hcan hseq hrows =>
        obtain rfl := Option.some.inj hw
        have hne : σ.state ≠ .ticketed := by
          rw [(ho σ.bookingId rfl).2.1.state]
          decide
        exact .inr (.inr (.inl ⟨hflush _ _ hne Db.flushBookingState_self, rfl⟩))
      case confirms σ pay h hseq =>
        obtain rfl := Option.some.inj hw
        obtain ⟨hticketed, -, hpays, -, -⟩ := (ho σ.bookingId rfl).2
        have hne : σ.state ≠ .confirmed := by
          rw [hticketed.state]
          decide
        exact .inr (.inr (.inr ⟨hflush _ _ hne Db.flushBookingState_self,
          _, @PaymentTable.paymentsOf_flush s.db σ.bookingId pay pay.capturedState hpays, rfl⟩))
      all_goals exact .inl hrow
    case cancel r x pc pc' h => exact absurd (Proc.cancels?_of_writes hw) hP
    all_goals exact absurd hw (by simp [Proc.writes])
  · rcases h.view_cases ht ho hw hrow with hsame | ⟨hpending, -⟩
    · exact .inl ((congrArg View.row hsame).symm.trans hrow)
    · rw [hpending]
      exact .inr (.inl (by decide))

/-- A booking that is neither confirmed nor cancelled stays so, or its saga confirms it
with the charge captured. -/
theorem Step.confirms_of_unsold (h : Step env s p P a s' P') (ht : Tables s) (ho : P.Outline s)
    (hP : P.cancels? ≠ some b) (hrow : ∀ row, s.db.booking b = some row →
      row.state ≠ .confirmed ∧ row.state ≠ .cancelled) :
    (∀ row, s'.db.booking b = some row → row.state ≠ .confirmed ∧ row.state ≠ .cancelled) ∨
      s'.db.StateIs b .confirmed ∧
        ∃ pay, s'.db.paymentsOf b = [pay] ∧ pay.state = .captured := by
  by_cases hconfirmed : s'.db.StateIs b .confirmed
  · obtain ⟨row, hrow', hs⟩ := hconfirmed
    rcases h.row_cases ht ho hP hrow' with hold | hun | ⟨hticketed, -⟩ | ⟨-, hpay⟩
    · exact absurd hs (hrow row hold).1
    · exact absurd hs hun.1
    · rw [hs] at hticketed
      exact absurd hticketed (by decide)
    · exact .inr ⟨⟨row, hrow', hs⟩, hpay⟩
  · refine .inl fun row hrow' => ⟨fun hs => hconfirmed ⟨row, hrow', hs⟩, ?_⟩
    rcases h.row_cases ht ho hP hrow' with hold | hun | ⟨hs, -⟩ | ⟨hs, -⟩
    · exact (hrow row hold).2
    · exact hun.2.1
    · rw [hs]
      decide
    · rw [hs]
      decide

omit [PaymentGateway G] in
/-- A cancellation finds the captured payment. -/
theorem Standing.findPayment_eq {pay : Payment} {calls : List GatewayCall} {n : ℕ}
    (hL : Standing s b .confirmed pay calls n) (hpay : pay.state = .captured) :
    findPayment s.db b = some pay := by
  have hmem : pay ∈ s.db.paymentsOf b := by simp [hL.payment]
  obtain ⟨hpays, hb⟩ := Db.mem_paymentsOf.mp hmem
  have hfound : (findPayment s.db b).isSome := List.find?_isSome.mpr ⟨pay, hpays, by simp [hb, hpay]⟩
  obtain ⟨pay', hfind⟩ := Option.isSome_iff_exists.mp hfound
  have hmem' := (findPayment_eq_some hfind).1
  rw [hL.payment, List.mem_singleton] at hmem'
  rw [hfind, hmem']

omit [PaymentGateway G] in
/-- A booking is in one state. -/
theorem Db.StateIs.unique {db : Db} {x y : BookingState} (hx : db.StateIs b x)
    (hy : db.StateIs b y) : x = y := by
  obtain ⟨row, hrow, rfl⟩ := hx
  obtain ⟨row', hrow', rfl⟩ := hy
  obtain rfl := Option.some.inj (hrow.symm.trans hrow')
  rfl

/-- A cancellation goes on to its refund, and asks for it once. -/
theorem Step.asks {pay : Payment} (h : Step env s p P a s' P')
    (hL : Standing s b .confirmed pay [] 0) (hpay : pay.state = .captured) (hasks : P.Asks b pay)
    (hok : ∀ r state pay, P = .cancel r (.refund b state pay) →
      succeeded (refundOutcome s pay).1 = true) :
    (P'.Asks b pay ∧ Standing s' b .confirmed pay [] 0) ∨
      (∃ r, P' = .cancel r (.finish b .confirmed (some pay))) ∧
        Standing s' b .confirmed pay [pay.refundCall] 0 := by
  cases h
  case cancel r x pc pc' h =>
    cases h
    case selects b' state =>
      obtain ⟨rfl, rfl⟩ := hasks
      exact .inl ⟨⟨rfl, rfl, hL.findPayment_eq hpay⟩, hL⟩
    case locks b' state pay' hf =>
      obtain ⟨rfl, rfl, rfl⟩ := hasks
      exact .inl ⟨⟨rfl, rfl, rfl⟩, ⟨hL.row, hL.payment, hL.calls, hL.audit⟩⟩
    case refunds b' state pay' h =>
      obtain ⟨rfl, rfl, rfl⟩ := hasks
      refine .inr ⟨⟨r, rfl⟩, ⟨hL.row, hL.payment, ?_, hL.audit⟩⟩
      have hmem : pay' ∈ s.db.paymentsOf b' := by simp [hL.payment]
      have hb := (Db.mem_paymentsOf.mp hmem).2
      have hcalls : (s.refunded b' pay').callsOf b' =
          .refund b' (pay'.providerRef.getD "") pay'.amount (succeeded (refundOutcome s pay').1) ::
            s.callsOf b' := Shared.callsOf_called rfl
      have hnone : (s.callsOf b').filter GatewayCall.isRefund = [] := hL.calls
      rw [Shared.refundCalls, hcalls, List.filter_cons_of_pos rfl, hnone, h, Payment.refundCall, hb]
      rfl
    case refundFails b' state pay' e h =>
      obtain ⟨rfl, rfl, rfl⟩ := hasks
      have hsucc := hok r _ pay' rfl
      rw [h] at hsucc
      exact absurd hsucc (by simp [succeeded])
    all_goals exact hasks.elim
  all_goals exact hasks.elim

/-- A cancellation that has its refund commits. -/
theorem Step.commits {r : CancelRequest} {pay : Payment}
    (h : Step env s p (.cancel r (.finish b .confirmed (some pay))) a s' P')
    (hL : Standing s b .confirmed pay [pay.refundCall] 0) (hseq : ∀ x, a = .go x → x.seqTaken = false) :
    (∃ reply, P' = .cancel r (.done reply) ∧ reply.status = 200) ∧
      ∃ pay', pay'.state = .refunded ∧ Standing s' b .cancelled pay' [pay'.refundCall] 1 := by
  cases h with
  | cancel h =>
    cases h
    case finishes hcan hfree =>
      refine ⟨⟨_, rfl, rfl⟩, _, ?_, ⟨hL.row.flush Db.flushBookingState_self,
        @PaymentTable.paymentsOf_flush s.db b pay pay.refundedState hL.payment, hL.calls, ?_⟩⟩
      · rfl
      · have hrows : (cancelledDb s.db b .confirmed r.userId (some pay) s.clock).cancellations b =
            _ :: s.db.cancellations b := List.filter_cons_of_pos (by simp)
        refine (congrArg List.length hrows).trans ?_
        rw [List.length_cons, hL.audit]
    case finishIllegal hcan =>
      exact absurd hcan (by simp [assertCanTransition, allowedTransitions])
    case finishRolledBack htaken =>
      rw [hseq _ rfl] at htaken
      exact absurd htaken (by decide)

section Next

variable {w : World (Shared G) Proc}

/-- A step of somebody who is not cancelling the booking. -/
theorem Phase.next_of_other (ho : (outline G).Holds w) (hnamed : ∀ q, (w.proc q).Named w.shared)
    (hphase : Phase w b) (hC : CancelsInTurn b w p a)
    (h : Step env w.shared p (w.proc p) a s' P') (hP : (w.proc p).cancels? ≠ some b) :
    Phase ⟨s', Function.update w.proc p P'⟩ b := by
  have hwon_of : ∀ q, Won ⟨s', Function.update w.proc p P'⟩ b q → q ≠ p ∧ Won w b q := by
    intro q hwon
    rcases eq_or_ne q p with rfl | hne
    · exact absurd (won_update_self ho hnamed h hwon) hP
    · exact ⟨hne, (won_update_of_ne ho hnamed h hne).mp hwon⟩
  -- nobody is let through, unless the booking is confirmed and nobody is cancelling it
  have hcancels : ∀ q, (Function.update w.proc p P' q).cancels? = some b →
      (q ≠ p ∧ (w.proc q).cancels? = some b) ∨
        q = p ∧ (∃ r, P' = .cancel r (.selectPayment b .confirmed)) ∧
          w.shared.db.StateIs b .confirmed ∧ ∀ q, (w.proc q).cancels? ≠ some b := by
    intro q hq
    rcases eq_or_ne q p with rfl | hne
    · rw [Function.update_self] at hq
      obtain ⟨hsel, -, hstate, hfree⟩ := hC.let_through h hP hq
      exact .inr ⟨rfl, hsel, hstate, hfree⟩
    · rw [Function.update_of_ne hne] at hq
      exact .inl ⟨hne, hq⟩
  cases hphase with
  | unsold hrow hcalls haudit hnone hwon =>
    have hnone' : ∀ q, (Function.update w.proc p P' q).cancels? ≠ some b := by
      intro q hq
      rcases hcancels q hq with ⟨-, hq⟩ | ⟨-, -, ⟨row, hr, hs⟩, -⟩
      · exact hnone q hq
      · exact (hrow row hr).1 hs
    have hcalls' : s'.refundCalls b = [] := by
      rw [h.refundCalls_eq (ho.own p) fun r state pay hp => hP (by rw [hp]; rfl)]
      exact hcalls
    have haudit' : s'.db.cancellations b = [] := by
      rw [h.cancellations_eq fun r state refunded hp => hP (by rw [hp]; rfl)]
      exact haudit
    have hwon' : ∀ q, ¬ Won ⟨s', Function.update w.proc p P'⟩ b q := fun q hq => hwon q (hwon_of q hq).2
    rcases h.confirms_of_unsold ho.shared (ho.own p) hP hrow with hrow' | ⟨hstate, pay, hpay, hcap⟩
    · exact .unsold hrow' hcalls' haudit' hnone' hwon'
    · exact .sold ⟨hstate, hpay, hcalls', by rw [haudit']; rfl⟩ hcap
        (fun q _ hq => absurd hq (hnone' q)) (fun q hq => absurd hq (hnone' q)) hwon'
  | @sold pay hL hpay hone hasks hwon =>
    refine .sold (hL.kept (.inl rfl) h ho.shared (ho.own p) hP) hpay ?_ ?_
      fun q hq => hwon q (hwon_of q hq).2
    · intro q q' hq hq'
      rcases hcancels q hq with ⟨-, hq⟩ | ⟨rfl, -, -, hfree⟩
      · rcases hcancels q' hq' with ⟨-, hq'⟩ | ⟨-, -, -, hfree⟩
        · exact hone q q' hq hq'
        · exact absurd hq (hfree q)
      · rcases hcancels q' hq' with ⟨-, hq'⟩ | ⟨rfl, -⟩
        · exact absurd hq' (hfree q')
        · rfl
    · intro q hq
      rcases hcancels q hq with ⟨hne, hq⟩ | ⟨rfl, ⟨r, rfl⟩, -⟩
      · simp only [Function.update_of_ne hne]
        exact hasks q hq
      · simp only [Function.update_self]
        exact ⟨rfl, rfl⟩
  | @refunded pay q r hL hproc hone hwon =>
    have hq : (w.proc q).cancels? = some b := by
      rw [hproc]
      rfl
    have hne : q ≠ p := by
      rintro rfl
      exact hP hq
    refine .refunded (hL.kept (.inl rfl) h ho.shared (ho.own p) hP)
      ((Function.update_of_ne hne ..).trans hproc) (fun q' hq' => ?_)
      fun q hq => hwon q (hwon_of q hq).2
    rcases hcancels q' hq' with ⟨-, hq'⟩ | ⟨-, -, -, hfree⟩
    · exact hone q' hq'
    · exact absurd hq (hfree q)
  | @cancelled pay q hL hpay hnone hwon hone =>
    have hne : q ≠ p := by
      rintro rfl
      obtain ⟨r, reply, hproc, -⟩ := hwon
      rw [hproc] at h
      cases h with
      | cancel h => cases h
    refine .cancelled (hL.kept (.inr rfl) h ho.shared (ho.own p) hP) hpay ?_
      ((won_update_of_ne ho hnamed h hne).mpr hwon) fun q' hq' => hone q' (hwon_of q' hq').2
    intro q' hq'
    rcases hcancels q' hq' with ⟨-, hq'⟩ | ⟨-, -, hstate, -⟩
    · exact hnone q' hq'
    · exact absurd (hstate.unique hL.row) (by decide)

/-- A step of the process that is cancelling the booking. -/
theorem Phase.next_of_canceller (ho : (outline G).Holds w)
    (hnamed : ∀ q, (w.proc q).Named w.shared) (hphase : Phase w b) (hC : CancelsInTurn b w p a)
    (h : Step env w.shared p (w.proc p) a s' P') (hP : (w.proc p).cancels? = some b) :
    Phase ⟨s', Function.update w.proc p P'⟩ b := by
  have hbystander : ∀ q, q ≠ p → (Function.update w.proc p P' q).cancels? = some b →
      (w.proc q).cancels? = some b := by
    intro q hne hq
    rwa [Function.update_of_ne hne] at hq
  simp only [CancelsInTurn, TakesTurn] at hC
  cases hphase with
  | unsold hrow hcalls haudit hnone hwon => exact absurd hP (hnone p)
  | @sold pay hL hpay hone hasks hwon =>
    -- nobody else is cancelling the booking, and this does not change
    have hothers : ∀ q, (Function.update w.proc p P' q).cancels? = some b → q = p := by
      intro q hq
      by_contra hne
      exact hne (hone q p (hbystander q hne hq) hP)
    have hsteps := h.asks hL hpay (hasks p hP) fun r state pay hproc => by
      rw [hproc] at hC
      exact hC rfl
    have hwon' : (∀ r reply, P' ≠ .cancel r (.done reply)) →
        ∀ q, ¬ Won ⟨s', Function.update w.proc p P'⟩ b q := by
      intro hnot q hq
      rcases eq_or_ne q p with rfl | hne
      · obtain ⟨r, reply, hproc, -⟩ := hq
        simp only [Function.update_self] at hproc
        exact hnot r reply hproc
      · exact hwon q ((won_update_of_ne ho hnamed h hne).mp hq)
    rcases hsteps with ⟨hasks', hL'⟩ | ⟨⟨r, rfl⟩, hL'⟩
    · refine .sold hL' hpay (fun q q' hq hq' => (hothers q hq).trans (hothers q' hq').symm)
        (fun q hq => ?_) (hwon' fun r reply hdone => ?_)
      · obtain rfl := hothers q hq
        simp only [Function.update_self]
        exact hasks'
      · rw [hdone] at hasks'
        exact hasks'
    · exact .refunded hL' (Function.update_self ..) hothers (hwon' fun r reply => by simp)
  | @refunded pay q r hL hproc hone hwon =>
    obtain rfl := hone p hP
    rw [hproc] at h hC
    -- the refund was made, and the last transaction records it
    obtain ⟨⟨reply, rfl, hreply⟩, pay', hpay', hL'⟩ := h.commits hL fun x hx => by
      rw [hx] at hC
      exact hC rfl
    have hstep : Step env w.shared p (w.proc p) a s' (.cancel r (.done reply)) := by rwa [hproc]
    have hname := hnamed p
    rw [hproc] at hname
    refine .cancelled hL' hpay' (fun q' hq' => ?_)
      ⟨r, reply, Function.update_self .., hreply,
        hstep.bookingRef_kept ho.shared (ho.own p) (hname b rfl)⟩ fun q' hq' => ?_
    · rcases eq_or_ne q' p with rfl | hne
      · simp [Proc.cancels?, Proc.copy?, CancelPc.copy?] at hq'
      · exact hne (hone q' (hbystander q' hne hq'))
    · by_contra hne
      exact hwon q' ((won_update_of_ne ho hnamed hstep hne).mp hq')
  | cancelled hL hpay hnone hwon hone => exact absurd hP (hnone p)

/-- **A step of a run in turn keeps the phases.** -/
theorem Phase.next {w' : World (Shared G) Proc} (ho : (outline G).Holds w)
    (hnamed : ∀ q, (w.proc q).Named w.shared) (hphase : Phase w b) (hC : CancelsInTurn b w p a)
    (hn : (service env G).next w p a = some w') : Phase w' b := by
  obtain ⟨s', P', hs, rfl⟩ := System.next_eq_some.mp hn
  by_cases hP : (w.proc p).cancels? = some b
  · exact hphase.next_of_canceller ho hnamed hC (step_of hs) hP
  · exact hphase.next_of_other ho hnamed hC (step_of hs) hP

end Next

/-! ### Replies, and the tail of the saga -/

/-- The reply of a cancellation that was refused when it looked for its booking. -/
def Reply.Refuses (reply : Reply) : Prop :=
  reply = .problem (.notFound "No such booking") ∨
    ∃ state e, requireState state [.confirmed, .ticketed] = some e ∧ e.statusCode = 409 ∧
      reply = .problem e

/-- Every cancellation that has ended was refused or has found a booking, and where it
is this one, has cancelled it. -/
def Replied (w : World (Shared G) Proc) (b : BookingId) : Prop :=
  ∀ q r reply, w.proc q = .cancel r (.done reply) → reply.Refuses ∨
    ∃ b', w.shared.db.bookingRef r.ref = some b' ∧ (b' = b → reply.status = 200)

/-- A ticketed booking has a saga that goes on. -/
def Tailed (w : World (Shared G) Proc) (b : BookingId) : Prop :=
  w.shared.db.StateIs b .ticketed → ∃ q, (w.proc q).ticketed? = some b

omit [PaymentGateway G] in
/-- A process that is cancelling the booking is on its way to the refund, or has it. -/
theorem Phase.canceller {w : World (Shared G) Proc} (h : Phase w b) {q : ℕ}
    (hq : (w.proc q).cancels? = some b) :
    (∃ pay, Standing w.shared b .confirmed pay [] 0 ∧ pay.state = .captured ∧
        (w.proc q).Asks b pay) ∨
      ∃ r pay, Standing w.shared b .confirmed pay [pay.refundCall] 0 ∧
        w.proc q = .cancel r (.finish b .confirmed (some pay)) := by
  cases h with
  | unsold hrow hcalls haudit hnone hwon => exact absurd hq (hnone q)
  | @sold pay hL hpay hone hasks hwon => exact .inl ⟨pay, hL, hpay, hasks q hq⟩
  | @refunded pay q' r hL hproc hone hwon =>
    obtain rfl := hone q hq
    exact .inr ⟨r, pay, hL, hproc⟩
  | cancelled hL hpay hnone hwon hone => exact absurd hq (hnone q)

/-- What a process that ends its cancellation was about to do. -/
theorem Step.replied {r : CancelRequest} {reply : Reply} (h : Step env s p P a s' P')
    (hP' : P' = .cancel r (.done reply)) : reply.Refuses ∨
      (∃ b state refunded, P = .cancel r (.finish b state refunded)) ∨
        ∃ b state error, P = .cancel r (.review b state error) := by
  cases h
  case cancel r' x pc pc' h =>
    obtain ⟨rfl, hpc⟩ := Proc.cancel.inj hP'
    cases h
    case findsNothing =>
      obtain rfl := CancelPc.done.inj hpc
      exact .inl (.inl rfl)
    case refuses b row e h h' =>
      obtain rfl := CancelPc.done.inj hpc
      exact .inl (.inr ⟨_, e, h', requireState_statusCode h', rfl⟩)
    case locks b state pay hf => cases pay <;> exact absurd hpc (by simp [afterLock])
    case finishes b state refunded h hseq => exact .inr (.inl ⟨b, state, refunded, rfl⟩)
    case finishIllegal b state refunded e h => exact .inr (.inl ⟨b, state, refunded, rfl⟩)
    case finishRolledBack b state refunded h => exact .inr (.inl ⟨b, state, refunded, rfl⟩)
    case reviews b state error h => exact .inr (.inr ⟨b, state, error, rfl⟩)
    case reviewRolledBack b state error h => exact .inr (.inr ⟨b, state, error, rfl⟩)
    all_goals exact absurd hpc (by simp)
  case arrive r' => cases r' <;> exact absurd hP' (by simp [Request.start])
  all_goals exact absurd hP' (by simp)

section NextReply

variable {w w' : World (Shared G) Proc}

theorem Replied.next (h : Replied w b) (ho : (outline G).Holds w)
    (hnamed : ∀ q, (w.proc q).Named w.shared) (hphase : Phase w b)
    (hC : CancelsInTurn b w p a) (hn : (service env G).next w p a = some w') : Replied w' b := by
  obtain ⟨s', P', hs, rfl⟩ := System.next_eq_some.mp hn
  have hstep := step_of hs
  simp only [CancelsInTurn, TakesTurn] at hC
  intro q r reply hproc
  rcases eq_or_ne q p with rfl | hne
  · have hdone : P' = .cancel r (.done reply) := (Function.update_self ..).symm.trans hproc
    have hname := hnamed q
    rcases hstep.replied hdone with hrefuses | ⟨b', state, refunded, hP⟩ | ⟨b', state, error, hP⟩
    · exact .inl hrefuses
    · rw [hP] at hname hstep hC
      refine .inr ⟨b', hstep.bookingRef_kept ho.shared (hP ▸ ho.own q) (hname b' rfl), ?_⟩
      rintro rfl
      rcases hphase.canceller (q := q) (by rw [hP]; rfl) with ⟨pay, -, -, hasks⟩ | ⟨r', pay, hL, hP'⟩
      · rw [hP] at hasks
        exact hasks.elim
      · rw [hP] at hP'
        obtain ⟨rfl, hpc⟩ := Proc.cancel.inj hP'
        obtain ⟨-, rfl, rfl⟩ := CancelPc.finish.inj hpc
        obtain ⟨⟨reply', hdone', h200⟩, -⟩ := hstep.commits hL fun x hx => by
          rw [hx] at hC
          exact hC rfl
        rw [hdone] at hdone'
        obtain ⟨-, hpc⟩ := Proc.cancel.inj hdone'
        obtain rfl := CancelPc.done.inj hpc
        exact h200
    · rw [hP] at hname
      refine .inr ⟨b', hstep.bookingRef_kept ho.shared (ho.own q) (hname b' rfl), ?_⟩
      rintro rfl
      rcases hphase.canceller (q := q) (by rw [hP]; rfl) with ⟨pay, -, -, hasks⟩ | ⟨r', pay, -, hP'⟩
      · rw [hP] at hasks
        exact hasks.elim
      · rw [hP] at hP'
        simp at hP'
  · simp only [Function.update_of_ne hne] at hproc
    rcases h q r reply hproc with hrefuses | ⟨b', hb', h200⟩
    · exact .inl hrefuses
    · exact .inr ⟨b', hstep.bookingRef_kept ho.shared (ho.own p) hb', h200⟩

/-- The saga of a ticketed booking goes on until it has confirmed it. -/
theorem Step.tail (h : Step env w.shared p (w.proc p) a s' P') (ho : (w.proc p).Outline w.shared)
    (hC : CancelsInTurn b w p a) (hP : (w.proc p).ticketed? = some b)
    (hstate : s'.db.StateIs b .ticketed) : P'.ticketed? = some b := by
  simp only [CancelsInTurn, TakesTurn] at hC
  generalize w.proc p = P at h ho hC hP
  cases h
  case booking r x pc pc' h =>
    cases h
    case captures => exact hP
    case captureFails σ pay e h =>
      have hsucc := hC (Option.some.inj hP)
      rw [h] at hsucc
      exact absurd hsucc (by simp [succeeded])
    case confirms σ pay h hseq =>
      obtain rfl := Option.some.inj hP
      obtain ⟨hticketed, -⟩ := (ho σ.bookingId rfl).2
      obtain ⟨row, hrow, -, -⟩ := hticketed.recorded.row
      have hne : BookingState.confirmed ≠ σ.state := by
        rw [hticketed.state]
        decide
      have hconfirmed : (confirmedDb w.shared.db σ pay).StateIs σ.bookingId .confirmed :=
        ⟨row.merge σ.state .confirmed,
          Db.flushBookingState_self.trans (congrArg (Option.map _) hrow),
          by rw [Booking.merge_state, Orm.writeBack_dirty _ hne]⟩
      exact absurd (hstate.unique hconfirmed) (by decide)
    case confirmRolledBack σ pay htaken =>
      have hfree := hC (Option.some.inj hP)
      rw [htaken] at hfree
      exact absurd hfree (by decide)
    case confirmIllegal σ pay e h =>
      rw [(ho σ.bookingId rfl).2.1.state] at h
      simp [assertCanTransition, allowedTransitions] at h
    all_goals exact absurd hP (by simp [Proc.ticketed?, BookingPc.ticketed?])
  all_goals exact absurd hP (by simp [Proc.ticketed?])

theorem Tailed.next (h : Tailed w b) (ho : (outline G).Holds w) (hphase : Phase w b)
    (hC : CancelsInTurn b w p a) (hn : (service env G).next w p a = some w') : Tailed w' b := by
  obtain ⟨s', P', hs, rfl⟩ := System.next_eq_some.mp hn
  have hstep := step_of hs
  intro hticketed
  by_cases hP : (w.proc p).cancels? = some b
  · -- the booking is confirmed or cancelled after such a step
    simp only [CancelsInTurn, TakesTurn] at hC
    rcases hphase.canceller hP with ⟨pay, hL, hpay, hasks⟩ | ⟨r, pay, hL, hproc⟩
    · rcases hstep.asks hL hpay hasks fun r state pay hproc => by
          rw [hproc] at hC
          exact hC rfl with ⟨-, hL'⟩ | ⟨-, hL'⟩ <;>
        exact absurd (hticketed.unique hL'.row) (by decide)
    · rw [hproc] at hstep hC
      obtain ⟨-, pay', -, hL'⟩ := hstep.commits hL fun x hx => by
        rw [hx] at hC
        exact hC rfl
      exact absurd (hticketed.unique hL'.row) (by decide)
  · obtain ⟨row, hrow, hstate⟩ := id hticketed
    rcases hstep.row_cases ho.shared (ho.own p) hP hrow with hold | hun | ⟨-, htick⟩ | ⟨hc, -⟩
    · obtain ⟨q, hq⟩ := h ⟨row, hold, hstate⟩
      refine ⟨q, ?_⟩
      rcases eq_or_ne q p with rfl | hne
      · simp only [Function.update_self]
        exact hstep.tail (ho.own q) hC hq hticketed
      · simp only [Function.update_of_ne hne]
        exact hq
    · exact absurd hstate hun.2.2
    · refine ⟨p, ?_⟩
      simp only [Function.update_self]
      exact htick
    · rw [hstate] at hc
      exact absurd hc (by decide)

end NextReply

/-! ### Cancellations in turn -/

/-- What the cancellations of a booking amount to: at most one is let through at a
time, at most one succeeds, and it does so whole; every other one is refused at once. -/
structure LikeOneCancel (w : World (Shared G) Proc) (b : BookingId) : Prop where
  one : ∀ q q', (w.proc q).cancels? = some b → (w.proc q').cancels? = some b → q = q'
  /-- While one is under way the booking is still confirmed. -/
  underway : ∀ q, (w.proc q).cancels? = some b → w.shared.db.StateIs b .confirmed
  journalled : (w.shared.db.cancellations b).length ≤ 1
  asked : (w.shared.refundCalls b).length ≤ 1
  /-- A cancelled booking was cancelled by one process, and its money is refunded. -/
  cancelled : w.shared.db.StateIs b .cancelled →
    (w.shared.db.cancellations b).length = 1 ∧
      (∃ pay, w.shared.db.paymentsOf b = [pay] ∧ pay.state = .refunded ∧
        w.shared.refundCalls b = [pay.refundCall]) ∧
      ∃ q, Won w b q ∧ ∀ q', Won w b q' → q' = q
  /-- One that nobody cancels or has cancelled was not refunded, and where it is
  confirmed its money is captured. -/
  kept : ¬ w.shared.db.StateIs b .cancelled → (∀ q, (w.proc q).cancels? ≠ some b) →
    w.shared.db.cancellations b = [] ∧ w.shared.refundCalls b = [] ∧ (∀ q, ¬ Won w b q) ∧
      (w.shared.db.StateIs b .confirmed →
        ∃ pay, w.shared.db.paymentsOf b = [pay] ∧ pay.state = .captured)
  replies : ∀ q r reply, w.proc q = .cancel r (.done reply) →
    w.shared.db.bookingRef r.ref = some b → reply.status = 200 ∨ reply.Refuses
  /-- A booking is left ticketed only while its saga goes on. -/
  tail : w.shared.db.StateIs b .ticketed → ∃ q, (w.proc q).ticketed? = some b

omit [PaymentGateway G] in
theorem Phase.likeOneCancel {w : World (Shared G) Proc} (h : Phase w b) (hreplied : Replied w b)
    (htail : Tailed w b) : LikeOneCancel w b := by
  have hreplies : ∀ q r reply, w.proc q = .cancel r (.done reply) →
      w.shared.db.bookingRef r.ref = some b → reply.status = 200 ∨ reply.Refuses := by
    intro q r reply hproc href
    rcases hreplied q r reply hproc with hrefuses | ⟨b', hb', h200⟩
    · exact .inr hrefuses
    · exact .inl (h200 (Option.some.inj (hb'.symm.trans href)))
  cases h with
  | unsold hrow hcalls haudit hnone hwon =>
    exact
      { one := fun q _ hq => absurd hq (hnone q)
        underway := fun q hq => absurd hq (hnone q)
        journalled := by simp [haudit]
        asked := by simp [hcalls]
        cancelled := fun ⟨row, hr, hs⟩ => absurd hs (hrow row hr).2
        kept := fun _ _ => ⟨haudit, hcalls, hwon, fun ⟨row, hr, hs⟩ => absurd hs (hrow row hr).1⟩
        replies := hreplies
        tail := htail }
  | @sold pay hL hpay hone hasks hwon =>
    exact
      { one := hone
        underway := fun _ _ => hL.row
        journalled := hL.audit.trans_le (Nat.zero_le 1)
        asked := by simp [hL.calls]
        cancelled := fun hc => absurd (hc.unique hL.row) (by decide)
        kept := fun _ _ => ⟨List.length_eq_zero_iff.mp hL.audit, hL.calls, hwon,
          fun _ => ⟨pay, hL.payment, hpay⟩⟩
        replies := hreplies
        tail := htail }
  | @refunded pay q r hL hproc hone hwon =>
    have hq : (w.proc q).cancels? = some b := by
      rw [hproc]
      rfl
    exact
      { one := fun q₁ q₂ h₁ h₂ => (hone q₁ h₁).trans (hone q₂ h₂).symm
        underway := fun _ _ => hL.row
        journalled := hL.audit.trans_le (Nat.zero_le 1)
        asked := by simp [hL.calls]
        cancelled := fun hc => absurd (hc.unique hL.row) (by decide)
        kept := fun _ hnone => absurd hq (hnone q)
        replies := hreplies
        tail := htail }
  | @cancelled pay q hL hpay hnone hwon hone =>
    exact
      { one := fun q _ hq => absurd hq (hnone q)
        underway := fun q hq => absurd hq (hnone q)
        journalled := hL.audit.le
        asked := by simp [hL.calls]
        cancelled := fun _ => ⟨hL.audit, ⟨pay, hL.payment, hpay, hL.calls⟩, q, hwon, hone⟩
        kept := fun hnot => absurd hL.row hnot
        replies := hreplies
        tail := htail }

/-- **Cancellations in turn behave like one**, whatever else runs beside them.  A
cancellation that is refused is refused before it has done anything, and none touches a
seat that another booking has. -/
theorem cancels_like_one {db : Db} {g : G} {clock : Time} {w : World (Shared G) Proc}
    {as : List (ℕ × Input)} (hdb : db.Initial)
    (h : (service env G).Run (CancelsInTurn b) (initialWorld db g clock) as w) :
    LikeOneCancel w b ∧
      ∀ p a w' r pc, w.proc p = .cancel r pc → (service env G).next w p a = some w' →
        (pc = .load → w'.shared = w.shared) ∧
          ((w.proc p).cancels? = some b → ∀ k, (w.shared.db.seat k).bookingId ≠ some b →
            w'.shared.db.seat k = w.shared.db.seat k) := by
  have hrun := h.induct (I := fun w => (outline G).Holds w ∧
    (∀ q, (w.proc q).Named w.shared) ∧ Phase w b ∧ Replied w b ∧ Tailed w b) ?_ ?_
  · obtain ⟨ho, -, hphase, hreplied, htail⟩ := hrun
    refine ⟨hphase.likeOneCancel hreplied htail, fun p a w' r pc hproc hn => ?_⟩
    obtain ⟨s', P', hs, rfl⟩ := System.next_eq_some.mp hn
    have hstep := step_of hs
    rw [hproc] at hstep ⊢
    refine ⟨?_, fun hP k hk => ?_⟩
    · rintro rfl
      cases hstep with
      | cancel h => cases h <;> rfl
    · have hw := hstep.seatWrite (hproc ▸ ho.own p) k
      show s'.db.seat k = w.shared.db.seat k
      generalize s'.db.seat k = row at hw
      cases hw with
      | kept => rfl
      | returns hret hb =>
        cases pc <;> simp only [Proc.returning?, reduceCtorEq, Option.some.injEq] at hret
        obtain rfl := hret
        exact absurd (hb.trans hP) hk
  · refine ⟨outline_initial hdb g clock, fun _ => trivial, ?_, ?_, ?_⟩
    · refine .unsold (fun row hrow => ?_) rfl ?_ (fun q => ?_) fun q hwon => ?_
      · simp [initialWorld, hdb.booking] at hrow
      · simp [initialWorld, Db.cancellations, hdb.audit]
      · simp [initialWorld, Proc.cancels?, Proc.copy?]
      · obtain ⟨r, reply, hproc, -⟩ := hwon
        simp [initialWorld] at hproc
    · intro q r reply hproc
      simp [initialWorld] at hproc
    · rintro ⟨row, hrow, -⟩
      simp [initialWorld, hdb.booking] at hrow
  · rintro w₁ p a w₂ ⟨ho, hnamed, hphase, hreplied, htail⟩ hC hn
    refine ⟨outline_next ho hn, fun q => ?_, hphase.next ho hnamed hC hn,
      hreplied.next ho hnamed hphase hC hn, htail.next ho hphase hC hn⟩
    obtain ⟨s', P', hs, rfl⟩ := System.next_eq_some.mp hn
    -- references name their bookings for good
    rcases eq_or_ne q p with rfl | hne
    · simp only [Function.update_self]
      exact (step_of hs).named (hnamed q)
    · simp only [Function.update_of_ne hne]
      exact (step_of hs).named_bystander ho.shared (ho.own p) (hnamed q)

/-! ### Two runs -/

theorem TakesTurn.mono {free free' : Prop} {w : World (Shared G) Proc} (hfree : free → free')
    (h : TakesTurn b free w p a) : TakesTurn b free' w p a := by
  unfold TakesTurn at *
  split
  · next hproc =>
    rw [hproc] at h
    exact fun o ho hb => ⟨(h o ho hb).1, fun hs => hfree ((h o ho hb).2 hs)⟩
  all_goals simp_all

/-- In turn among the processes below `n`. -/
def InTurnBelow (n : ℕ) (b : BookingId) (w : World (Shared G) Proc) : ℕ → Input → Prop :=
  TakesTurn b (∀ q < n, (w.proc q).cancels? ≠ some b) w

instance (n : ℕ) (b : BookingId) (w : World (Shared G) Proc) (p : ℕ) (a : Input) :
    Decidable (InTurnBelow n b w p a) := by
  unfold InTurnBelow TakesTurn
  generalize w.proc p = q
  induction q using Proc.casesOn with
  | booking r pc =>
    induction pc using BookingPc.casesOn <;> induction a using Input.casesOn <;> infer_instance
  | cancel r pc =>
    induction pc using CancelPc.casesOn <;> induction a using Input.casesOn <;> infer_instance
  | _ => infer_instance

theorem cancelsInTurn_of_below {n : ℕ} {w : World (Shared G) Proc}
    (hidle : ∀ q, n ≤ q → w.proc q = .idle) (h : InTurnBelow n b w p a) :
    CancelsInTurn b w p a := by
  refine h.mono fun hbelow q => ?_
  rcases lt_or_ge q n with hq | hq
  · exact hbelow q hq
  · simp [hidle q hq, Proc.cancels?, Proc.copy?]

/-- A user books a seat, cancels the booking, and asks for that again. -/
def cancelledAndAsked : List (ℕ × Input) :=
  cancelAsked 14 ++ moves 3 5 (.calm 2) ++ asks 4 (.cancelBooking ⟨10, "SKYLCC"⟩) 1 (.calm 3)

/-- The second request is refused. -/
theorem cancels_like_one_sequential :
    ∃ w, (service demoEnv FakePaymentGateway).Run (CancelsInTurn 1) (onSale 2) cancelledAndAsked w ∧
      (∃ row, w.shared.db.booking 1 = some row ∧ row.state = .cancelled) ∧ LikeOneCancel w 1 := by
  have hrun : ((service demoEnv FakePaymentGateway).checked
      (fun w p a => p < 5 ∧ InTurnBelow 5 1 w p a) (onSale 2) cancelledAndAsked).any (fun w =>
        (w.shared.db.booking 1).any fun row => decide (row.state = .cancelled)) = true := by
    decide +kernel
  obtain ⟨w, hw, htest⟩ := System.exists_run_of_checked hrun
  obtain ⟨row, hrow, hstate⟩ := (Option.any_eq_true _ _).mp htest
  have hrun := hw.of_below (D := CancelsInTurn 1) .idle (fun _ _ => rfl)
    fun _ _ _ hidle hC => cancelsInTurn_of_below hidle hC
  exact ⟨w, hrun, ⟨row, hrow, of_decide_eq_true hstate⟩,
    (cancels_like_one (Db.seeded_initial _ _ _ _) hrun).1⟩

/-- Two requests for a cancellation both read the booking and its payment before either
has locked its seats. -/
def overlappingCancels : List (ℕ × Input) :=
  cancelAsked 14 ++ moves 3 2 (.calm 2) ++ asks 4 (.cancelBooking ⟨10, "SKYLCC"⟩) 2 (.calm 3) ++
    moves 3 3 (.calm 2) ++ moves 4 3 (.calm 3)

/-- **Cancellations that overlap both cancel**: both answer 200, both ask for the
refund, and the trail has two cancellations. -/
theorem cancelled_twice :
    ∃ w, (service demoEnv FakePaymentGateway).Run (fun _ _ _ => True) (onSale 2)
        overlappingCancels w ∧
      (∃ r reply, w.proc 3 = .cancel r (.done reply) ∧ reply.status = 200) ∧
      (∃ r reply, w.proc 4 = .cancel r (.done reply) ∧ reply.status = 200) ∧
      (w.shared.refundCalls 1).length = 2 ∧ (w.shared.db.cancellations 1).length = 2 ∧
      ¬ LikeOneCancel w 1 := by
  have hrun : ((service demoEnv FakePaymentGateway).checked (fun _ _ _ => True) (onSale 2)
      overlappingCancels).any (fun w =>
        (w.proc 3).cancelDone?.any (fun c => decide (c.2.status = 200)) &&
          (w.proc 4).cancelDone?.any (fun c => decide (c.2.status = 200)) &&
          decide ((w.shared.refundCalls 1).length = 2 ∧
            (w.shared.db.cancellations 1).length = 2)) = true := by
    decide +kernel
  obtain ⟨w, hw, htest⟩ := System.exists_run_of_checked hrun
  simp only [Bool.and_eq_true] at htest
  obtain ⟨⟨hthree, hfour⟩, hcounts⟩ := htest
  obtain ⟨⟨r, reply⟩, hdone, h200⟩ := (Option.any_eq_true _ _).mp hthree
  obtain ⟨⟨r', reply'⟩, hdone', h200'⟩ := (Option.any_eq_true _ _).mp hfour
  obtain ⟨hcalls, hrows⟩ := of_decide_eq_true hcounts
  refine ⟨w, hw, ⟨r, reply, Proc.cancelDone?_eq_some hdone, of_decide_eq_true h200⟩,
    ⟨r', reply', Proc.cancelDone?_eq_some hdone', of_decide_eq_true h200'⟩, hcalls, hrows,
    fun hone => ?_⟩
  have hle := hone.asked
  rw [hcalls] at hle
  exact absurd hle (by decide)

end SkyLock
