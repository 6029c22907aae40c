import SkyLock.Agreement
import SkyLock.CancelRaces
import SkyLock.Charges

/-!
# What is written stays written

The services insert rows and assign a few columns of rows that are there: a booking's
state, what became of a payment, the moment a ticket was voided.  They delete nothing but
claims, and rewrite nothing else.  The audit trail and the gateway calls only grow, so no
step trips the triggers that keep `booking_audit` append-only.

## Main definitions

* `Booking.Later`, `Payment.Later`, `Ticket.Later`, `SeatInventory.Later` — what may
  become of a row.
* `Continues` — one state of the service is later than another.

## Main results

* `Step.continues` — each step leads to a later state.
* `history_kept` — **so does every run**.
-/

namespace SkyLock

open Concurrent

variable {G : Type} [PaymentGateway G] {env : Env} {s s' : Shared G} {p : ℕ}

/-! ### What may become of a row -/

/-- A booking moves from state to state, and nothing else of it changes. -/
def Booking.Later (r r' : Booking) : Prop := r' = { r with state := r'.state }

/-- What becomes of a payment shows in three columns, and the provider's reference is
written once. -/
structure Payment.Later (r r' : Payment) : Prop where
  columns : r' = { r with
    state := r'.state, providerRef := r'.providerRef, failureCode := r'.failureCode }
  providerRef : ∀ ref, r.providerRef = some ref → r'.providerRef = some ref

/-- A ticket is voided, once. -/
structure Ticket.Later (t t' : Ticket) : Prop where
  columns : t' = { t with voidedAt := t'.voidedAt }
  voidedAt : ∀ now, t.voidedAt = some now → t'.voidedAt = some now

/-- A seat stays the seat it is, at its price. -/
structure SeatInventory.Later (r r' : SeatInventory) : Prop where
  flightId : r'.flightId = r.flightId
  seatNo : r'.seatNo = r.seatNo
  rowNo : r'.rowNo = r.rowNo
  seatLetter : r'.seatLetter = r.seatLetter
  price : r'.price = r.price

theorem Payment.Later.refl (r : Payment) : r.Later r := ⟨rfl, fun _ h => h⟩

theorem Payment.Later.trans {r₁ r₂ r₃ : Payment} (h : r₁.Later r₂) (h' : r₂.Later r₃) :
    r₁.Later r₃ where
  columns := by
    rw [h'.columns, h.columns]
  providerRef ref href := h'.providerRef ref (h.providerRef ref href)

theorem Ticket.Later.refl (t : Ticket) : t.Later t := ⟨rfl, fun _ h => h⟩

theorem Ticket.Later.trans {t₁ t₂ t₃ : Ticket} (h : t₁.Later t₂) (h' : t₂.Later t₃) :
    t₁.Later t₃ where
  columns := by
    rw [h'.columns, h.columns]
  voidedAt now hv := h'.voidedAt now (h.voidedAt now hv)

theorem SeatInventory.Later.refl (r : SeatInventory) : r.Later r := ⟨rfl, rfl, rfl, rfl, rfl⟩

theorem SeatInventory.Later.trans {r₁ r₂ r₃ : SeatInventory} (h : r₁.Later r₂)
    (h' : r₂.Later r₃) : r₁.Later r₃ :=
  ⟨h'.flightId.trans h.flightId, h'.seatNo.trans h.seatNo, h'.rowNo.trans h.rowNo,
    h'.seatLetter.trans h.seatLetter, h'.price.trans h.price⟩

/-- One state of the service is later than another. -/
structure Continues (s s' : Shared G) : Prop where
  seatIds : s'.db.seatIds = s.db.seatIds
  seat : ∀ k, (s.db.seat k).Later (s'.db.seat k)
  booking : ∀ b row, s.db.booking b = some row → ∃ row', s'.db.booking b = some row' ∧
    row.Later row'
  bookingRef : ∀ ref b, s.db.bookingRef ref = some b → s'.db.bookingRef ref = some b
  passengers : s.db.passengers <+: s'.db.passengers
  payments : ∀ r ∈ s.db.payments, ∃ r' ∈ s'.db.payments, r.Later r'
  tickets : ∀ t ∈ s.db.tickets, ∃ t' ∈ s'.db.tickets, t.Later t'
  audit : s.db.audit <:+ s'.db.audit
  calls : s.calls <:+ s'.calls

namespace Continues

omit [PaymentGateway G]

theorem refl (s : Shared G) : Continues s s where
  seatIds := rfl
  seat _ := .refl _
  booking _ row h := ⟨row, h, rfl⟩
  bookingRef _ _ h := h
  passengers := List.prefix_rfl
  payments r h := ⟨r, h, .refl r⟩
  tickets t h := ⟨t, h, .refl t⟩
  audit := List.suffix_rfl
  calls := List.suffix_rfl

theorem trans {s₁ s₂ s₃ : Shared G} (h : Continues s₁ s₂) (h' : Continues s₂ s₃) :
    Continues s₁ s₃ where
  seatIds := h'.seatIds.trans h.seatIds
  seat k := (h.seat k).trans (h'.seat k)
  booking b row hrow := by
    obtain ⟨row₂, hrow₂, hlater⟩ := h.booking b row hrow
    obtain ⟨row₃, hrow₃, hlater'⟩ := h'.booking b row₂ hrow₂
    refine ⟨row₃, hrow₃, ?_⟩
    rw [Booking.Later] at hlater hlater' ⊢
    rw [hlater', hlater]
  bookingRef ref b hb := h'.bookingRef ref b (h.bookingRef ref b hb)
  passengers := h.passengers.trans h'.passengers
  payments r hr := by
    obtain ⟨r₂, hr₂, hlater⟩ := h.payments r hr
    obtain ⟨r₃, hr₃, hlater'⟩ := h'.payments r₂ hr₂
    exact ⟨r₃, hr₃, hlater.trans hlater'⟩
  tickets t ht := by
    obtain ⟨t₂, ht₂, hlater⟩ := h.tickets t ht
    obtain ⟨t₃, ht₃, hlater'⟩ := h'.tickets t₂ ht₂
    exact ⟨t₃, ht₃, hlater.trans hlater'⟩
  audit := h.audit.trans h'.audit
  calls := h.calls.trans h'.calls

end Continues

/-! ### The audit trail -/

/-- The rows are the audit rows, and on top of them rows of the booking. -/
def Appended (b : BookingId) (audit rows : List BookingAudit) : Prop :=
  ∃ new, rows = new ++ audit ∧ ∀ a ∈ new, a.bookingId = b

theorem Appended.refl (b : BookingId) (audit : List BookingAudit) : Appended b audit audit :=
  ⟨[], rfl, by simp⟩

theorem Appended.suffix {b : BookingId} {audit rows : List BookingAudit}
    (h : Appended b audit rows) : audit <:+ rows := by
  obtain ⟨new, rfl, -⟩ := h
  exact List.suffix_append new audit

theorem Appended.record {b : BookingId} {audit : List BookingAudit} {db : Db}
    (h : Appended b audit db.audit) (e : AuditEventType) (u : Option UserId)
    (fromState toState : Option BookingState) (d : List (String × JsonValue)) :
    Appended b audit (db.record b e u fromState toState d).audit := by
  obtain ⟨new, hnew, hall⟩ := h
  simp only [Db.record_audit]
  exact ⟨_ :: new, by rw [hnew]; rfl, List.forall_mem_cons.mpr ⟨rfl, hall⟩⟩

theorem Noted.appended {b : BookingId} {audit rows : List BookingAudit}
    (h : Noted b audit rows) : Appended b audit rows := by
  induction h with
  | refl => exact .refl b audit
  | note _ _ ih => exact ih.record ..

/-- A step records what it does to the booking it works on, or has just opened. -/
theorem Step.audit_cases {P P' : Proc} {a : Input} (h : Step env s p P a s' P') :
    s'.db.audit = s.db.audit ∨
      ∃ b, (P.writes = some b ∨ P'.writes = some b) ∧ Appended b s.db.audit s'.db.audit := by
  cases h
  case booking r x pc pc' h =>
    cases h
    case opens =>
      exact .inr ⟨_, .inr rfl, ((Appended.refl _ _).record ..).record ..⟩
    case fails σ f rows hf h =>
      refine .inr ⟨_, .inl rfl, ?_⟩
      cases hpay : f.payment with
      | none => exact (Appended.refl _ _).record ..
      | some d => exact (Appended.refl _ _).record ..
    case journals | recordsAuthorized | confirms =>
      exact .inr ⟨_, .inl rfl, (Appended.refl _ _).record ..⟩
    case issues hrows => exact .inr ⟨_, .inl rfl, hrows.appended.record ..⟩
    case refuses hrows => exact .inr ⟨_, .inl rfl, hrows.appended.record ..⟩
    case voids | flags =>
      exact .inr ⟨_, .inl rfl, ((Appended.refl _ _).record ..).record ..⟩
    all_goals exact .inl rfl
  case cancel r x pc pc' h =>
    cases h
    case finishes | reviews => exact .inr ⟨_, .inl rfl, (Appended.refl _ _).record ..⟩
    all_goals exact .inl rfl
  case hold r x pc pc' h => cases h <;> exact .inl rfl
  case release r x pc pc' h => cases h <;> exact .inl rfl
  case sweep x pc pc' h =>
    cases h
    exact .inl rfl
  all_goals exact .inl rfl

/-! ### Payments -/

/-- The payment a saga has yet to record an answer on. -/
def BookingPc.unreferenced? : BookingPc → Option Payment
  | .authorize _ pay | .journalUnknown _ pay | .retryAuthorize _ pay | .recordAuthorized _ pay _ =>
    some pay
  | .failSelect _ f | .failCommit _ f _ => f.payment.map Prod.fst
  | _ => none

/-- The payment in hand has no reference as long as no answer is recorded on it. -/
def Proc.Unreferenced : Proc → Prop
  | .booking _ pc => ∀ pay, pc.unreferenced? = some pay → pay.providerRef = none
  | _ => True

theorem Step.unreferenced {P P' : Proc} {a : Input} (h : Step env s p P a s' P')
    (hP : P.Unreferenced) : P'.Unreferenced := by
  cases h
  case booking r x pc pc' h =>
    have hafter : ∀ (σ : Saga) (pay : Payment) (result : AuthorizationResult),
        pay.providerRef = none → ∀ pay', (afterAuthorize σ pay result).unreferenced? = some pay' →
          pay'.providerRef = none := by
      intro σ pay result hnone pay' hpay'
      unfold afterAuthorize at hpay'
      split at hpay' <;> obtain rfl : pay = pay' := Option.some.inj hpay' <;> exact hnone
    have hraised : ∀ (e : Failure) (b : Option BookingId), (raised e b).unreferenced? = none := by
      intro e b
      cases e <;> rfl
    intro pay hpay
    cases h
    case authorizes σ pay₀ result _ | retries σ pay₀ result _ =>
      exact hafter σ pay₀ result (hP pay₀ rfl) pay hpay
    case createsPayment =>
      obtain rfl := Option.some.inj hpay
      rfl
    case journals σ pay₀ =>
      obtain rfl := Option.some.inj hpay
      exact hP pay₀ rfl
    case timesOut | selectsFailed => exact hP pay hpay
    case blocks => simp [BookingPc.unreferenced?, blockedFailure] at hpay
    case opensNothing | selectIllegal | recordIllegal | refuseIllegal | issueRolledBack
      | voidIllegal | confirmIllegal =>
      rw [hraised] at hpay
      simp at hpay
    all_goals simp [BookingPc.unreferenced?] at hpay
  case arrive r => cases r <;> simp [Request.start, Proc.Unreferenced, BookingPc.unreferenced?]
  all_goals trivial

/-- A payment row stays, and only what became of it changes. -/
theorem Step.payment_later {P P' : Proc} {a : Input} (h : Step env s p P a s' P') (ht : Tables s)
    (ho : P.Outline s) (hP : P.Unreferenced) {r : Payment} (hr : r ∈ s.db.payments) :
    ∃ r' ∈ s'.db.payments, r.Later r' := by
  have hkept : s'.db.payments = s.db.payments → ∃ r' ∈ s'.db.payments, r.Later r' :=
    fun heq => ⟨r, heq ▸ hr, .refl r⟩
  have hflushed : ∀ loaded current : Payment,
      (r.id = loaded.id → ∀ ref, r.providerRef = some ref →
        (Payment.merge loaded current r).providerRef = some ref) →
      s'.db.payments = (s.db.flushPayment loaded current).payments →
        ∃ r' ∈ s'.db.payments, r.Later r' := by
    intro loaded current href heq
    refine ⟨_, heq ▸ Db.mem_flushPayment.mpr ⟨r, hr, rfl⟩, ?_⟩
    split
    · next hid => exact ⟨rfl, href hid⟩
    · exact .refl r
  -- a flush that leaves the reference alone
  have hclean : ∀ loaded current : Payment, current.providerRef = loaded.providerRef →
      s'.db.payments = (s.db.flushPayment loaded current).payments →
        ∃ r' ∈ s'.db.payments, r.Later r' := by
    intro loaded current hsame
    refine hflushed loaded current fun _ ref href => ?_
    rw [Payment.merge, hsame, Orm.writeBack_clean]
    exact href
  -- a flush of the booking's own payment, which has no reference yet
  have hown : ∀ {b : BookingId} (loaded current : Payment), s.db.paymentsOf b = [loaded] →
      loaded.providerRef = none → s'.db.payments = (s.db.flushPayment loaded current).payments →
        ∃ r' ∈ s'.db.payments, r.Later r' := by
    intro b loaded current hrow hnone
    refine hflushed loaded current fun hid ref href => ?_
    obtain rfl := ht.payments.eq_of_id hrow hr hid
    rw [hnone] at href
    simp at href
  cases h
  case booking r₀ x pc pc' h =>
    cases h
    case createsPayment => exact ⟨r, List.mem_cons_of_mem _ hr, .refl r⟩
    case fails σ f rows hf h =>
      obtain ⟨-, -, hj, -⟩ := ho σ.bookingId rfl
      cases hpay : f.payment with
      | none => exact hkept (by simp [failedDb, hpay])
      | some d =>
        simp only [PaymentFailure.Journals, hpay] at hj
        exact hown d.1 d.2 hj.2.1 (hP d.1 (by simp [BookingPc.unreferenced?, hpay]))
          (by simp [failedDb, hpay])
    case journals σ pay => exact hclean pay pay.timedOut rfl rfl
    case recordsAuthorized σ pay result h _ =>
      obtain ⟨-, -, hfor, hrow, -⟩ := ho σ.bookingId rfl
      exact hown pay (pay.authorized result) hrow (hP pay rfl) rfl
    case voids σ pay reason hf h =>
      refine hclean pay pay.reversed.1 ?_ rfl
      unfold Payment.reversed
      split <;> rfl
    case confirms σ pay h hseq => exact hclean pay pay.capturedState rfl rfl
    all_goals exact hkept rfl
  case cancel r₀ x pc pc' h =>
    cases h
    case finishes b state refunded h hseq =>
      cases refunded with
      | none => exact hkept rfl
      | some pay => exact hclean pay pay.refundedState rfl rfl
    all_goals exact hkept rfl
  case hold r₀ x pc pc' h => cases h <;> exact hkept rfl
  case release r₀ x pc pc' h => cases h <;> exact hkept rfl
  case sweep x pc pc' h =>
    cases h
    exact hkept rfl
  all_goals exact hkept rfl

/-! ### Tickets -/

/-- A ticket row stays, and is voided once at most. -/
theorem Step.ticket_later {P P' : Proc} {a : Input} (h : Step env s p P a s' P') {t : Ticket}
    (ht : t ∈ s.db.tickets) : ∃ t' ∈ s'.db.tickets, t.Later t' := by
  have hvoid : ∀ (db : Db) (b : BookingId) (now : Time), db.tickets = s.db.tickets →
      ∃ t' ∈ (voidTickets db b now).tickets, t.Later t' := by
    intro db b now heq
    refine ⟨_, List.mem_map_of_mem (heq ▸ ht), ?_⟩
    split
    · next hlive =>
      refine ⟨rfl, fun _ hv => ?_⟩
      rw [hlive.2] at hv
      simp at hv
    · exact .refl t
  cases h
  case booking r x pc pc' h =>
    cases h
    case issues => exact ⟨t, List.mem_append_right _ ht, .refl t⟩
    case voids | flags => exact hvoid _ _ _ rfl
    all_goals exact ⟨t, ht, .refl t⟩
  case cancel r x pc pc' h =>
    cases h
    case finishes => exact hvoid _ _ _ rfl
    all_goals exact ⟨t, ht, .refl t⟩
  case hold h | release h | sweep h => cases h <;> exact ⟨t, ht, .refl t⟩
  all_goals exact ⟨t, ht, .refl t⟩

/-! ### Every step, every run -/

omit [PaymentGateway G] in
theorem SeatWrite.later {k : SeatId} {P P' : Proc} {row : SeatInventory}
    (h : SeatWrite env s k P P' row) : (s.db.seat k).Later row := by
  cases h <;> exact ⟨rfl, rfl, rfl, rfl, rfl⟩

/-- No step takes a passenger row away. -/
theorem Step.passengers_prefix {P P' : Proc} {a : Input} (h : Step env s p P a s' P') :
    s.db.passengers <+: s'.db.passengers := by
  by_cases hP : P.opening
  · cases h <;> try exact hP.elim
    case booking r x pc pc' h =>
      cases h <;> try exact hP.elim
      case opens => exact List.prefix_append _ _
      case opensNothing => exact List.prefix_rfl
  · rw [(h.keepsRows hP).passengers]

/-- The calls of the gateway only grow. -/
theorem Step.calls_suffix {P P' : Proc} {a : Input} (h : Step env s p P a s' P') :
    s.calls <:+ s'.calls := by
  cases h.gatewayUse with
  | quiet hcalls => rw [hcalls]
  | authorizes | reverses | captures | refunds => exact List.suffix_cons _ _

/-- **Each step leads to a later state.** -/
theorem Step.continues {P P' : Proc} {a : Input} (h : Step env s p P a s' P') (ht : Tables s)
    (ho : P.Outline s) (hP : P.Unreferenced) : Continues s s' where
  seatIds := h.seatIds_eq
  seat k := (h.seatWrite ho k).later
  booking b row hrow := by
    obtain ⟨row', hrow', hsame⟩ := h.booking_kept ht hrow
    refine ⟨row', hrow', ?_⟩
    rcases hsame with rfl | ⟨loaded, current, rfl⟩ <;> rfl
  bookingRef _ _ hb := h.bookingRef_kept ht ho hb
  passengers := h.passengers_prefix
  payments _ hr := h.payment_later ht ho hP hr
  tickets _ hmem := h.ticket_later hmem
  audit := by
    rcases h.audit_cases with heq | ⟨b, -, happended⟩
    · rw [heq]
    · exact happended.suffix
  calls := h.calls_suffix

/-- **What is written stays written.**  From any state a run reaches, whatever the requests do
next, every row is still there with its columns: a booking changes in its state only, a
payment in what became of it, a ticket is voided once, and the audit trail and the gateway
calls only grow. -/
theorem history_kept {C D : World (Shared G) Proc → ℕ → Input → Prop} {db : Db} {g : G}
    {clock : Time} {w w' : World (Shared G) Proc} {as bs : List (ℕ × Input)} (hdb : db.Initial)
    (h : (service env G).Run C (initialWorld db g clock) as w)
    (hrun : (service env G).Run D w bs w') : Continues w.shared w'.shared := by
  have hnext : ∀ w₁ p a w₂, ((outline G).Holds w₁ ∧ ∀ q, (w₁.proc q).Unreferenced) →
      (service env G).next w₁ p a = some w₂ →
        ((outline G).Holds w₂ ∧ ∀ q, (w₂.proc q).Unreferenced) ∧
          Continues w₁.shared w₂.shared := by
    rintro w₁ p a w₂ ⟨hw, hP⟩ hn
    refine ⟨⟨outline_next hw hn, ?_⟩, ?_⟩ <;>
      obtain ⟨s', P', hs, rfl⟩ := System.next_eq_some.mp hn
    · intro q
      rcases eq_or_ne q p with rfl | hq
      · simpa only [Function.update_self] using (step_of hs).unreferenced (hP q)
      · simpa only [Function.update_of_ne hq] using hP q
    · exact (step_of hs).continues hw.shared (hw.own p) (hP p)
  have hw : (outline G).Holds w ∧ ∀ q, (w.proc q).Unreferenced :=
    h.induct ⟨outline_initial hdb g clock, fun _ => trivial⟩
      fun w₁ p a w₂ hw _ hn => (hnext w₁ p a w₂ hw hn).1
  exact hrun.related hw Continues.refl (fun _ _ _ => Continues.trans)
    fun w₁ p a w₂ hw _ hn => hnext w₁ p a w₂ hw hn

/-- A seat is sold, and the booking is cancelled: the ticket is voided and the payment
refunded, in the rows that were there. -/
theorem history_kept_cancelled : ∃ w w',
    (service demoEnv FakePaymentGateway).Run (fun _ _ _ => True) (onSale 1) soldSeat w ∧
      (service demoEnv FakePaymentGateway).Run (fun _ _ _ => True) w
        (asks 3 (.cancelBooking ⟨10, "SKYLCC"⟩) 5 (.calm 2)) w' ∧
      w.shared.db.liveTickets.length = 1 ∧ w'.shared.db.liveTickets = [] ∧
      Continues w.shared w'.shared := by
  have hrun : ((service demoEnv FakePaymentGateway).checked (fun _ _ _ => True) (onSale 1)
      soldSeat).any (fun w => decide (w.shared.db.liveTickets.length = 1) &&
        ((service demoEnv FakePaymentGateway).checked (fun _ _ _ => True) w
          (asks 3 (.cancelBooking ⟨10, "SKYLCC"⟩) 5 (.calm 2))).any fun w' =>
            w'.shared.db.liveTickets.isEmpty) = true := by
    decide +kernel
  obtain ⟨w, hsold, htest⟩ := System.exists_run_of_checked hrun
  obtain ⟨hlive, htest⟩ := Bool.and_eq_true_iff.mp htest
  obtain ⟨w', hcancelled, hnone⟩ := System.exists_run_of_checked htest
  exact ⟨w, w', hsold, hcancelled, of_decide_eq_true hlive, List.isEmpty_iff.mp hnone,
    history_kept (Db.seeded_initial _ _ _ _) hsold hcancelled⟩

end SkyLock
