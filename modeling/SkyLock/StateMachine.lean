import SkyLock.Interference
import SkyLock.Scripts

/-!
# The state machine of a booking

A saga moves its booking along the allowed transitions, because the state in its
hands is the state of the row.  A cancellation holds a copy of the state it read:
what it writes is lawful, and what it attempts is legal, when that copy was
`CONFIRMED` and the refund goes through.

## Main definitions

* `Db.MovesLawfully` — the bookings move along allowed transitions.
* `Proc.raisedIllegal` — a handler died on `IllegalTransition`.
* `CleanCancel` — cancellations read `CONFIRMED`, and their refunds go through.
* `Proc.Steady` — what clean cancellations add to the outline.

## Main results

* `state_machine` — **where cancellations are clean, a booking moves along the
  state machine and in no other way**.
* `illegal_cancel` — a cancellation of a ticketed booking raises
  `IllegalTransition`.
-/

namespace SkyLock

open Concurrent

variable {G : Type} [PaymentGateway G] {env : Env} {s s' : Shared G} {p : ℕ}

/-- The bookings move from their states in `db` to those in `db'` along allowed
transitions. -/
def Db.MovesLawfully (db db' : Db) : Prop :=
  ∀ b row row', db.booking b = some row → db'.booking b = some row' →
    row'.state ≠ row.state → row'.state ∈ allowedTransitions row.state

/-- The exception is `IllegalTransition`. -/
def Failure.isIllegal : Failure → Bool
  | .illegalTransition _ _ => true
  | _ => false

/-- The handler died on `IllegalTransition`, or is about to. -/
def Proc.raisedIllegal : Proc → Bool
  | .booking _ (.release e _) => e.isIllegal
  | .booking _ (.done (.serverError e) _) => e.isIllegal
  | .cancel _ (.done (.serverError e)) => e.isIllegal
  | _ => false

/-- A cancellation is accepted only on a booking it reads as `CONFIRMED`, and the
refund it asks for goes through. -/
def CleanCancel (w : World (Shared G) Proc) (p : ℕ) (_ : Input) : Prop :=
  match w.proc p with
  | .cancel r .load => (ownedBooking w.shared.db r.ref r.userId).all fun o =>
      o.2.state != .ticketed
  | .cancel _ (.refund _ _ pay) => succeeded (refundOutcome w.shared pay).1 = true
  | _ => True

instance (w : World (Shared G) Proc) (p : ℕ) (a : Input) : Decidable (CleanCancel w p a) := by
  unfold CleanCancel
  generalize w.proc p = q
  induction q using Proc.casesOn with
  | cancel r pc => induction pc using CancelPc.casesOn <;> infer_instance
  | _ => infer_instance

/-! ### What clean cancellations add to the outline -/

/-- Beside clean cancellations a ticketed saga finds its row ticketed, and a
cancellation its booking confirmed or cancelled; nobody raises `IllegalTransition`. -/
structure Proc.Steady (s : Shared G) (P : Proc) : Prop where
  legal : P.raisedIllegal = false
  ticketed : ∀ b, P.ticketed? = some b → ∃ row, s.db.booking b = some row ∧ row.state = .ticketed
  copy : ∀ b state, P.copy? = some (b, state) → state = .confirmed ∧
    ∃ row, s.db.booking b = some row ∧ (row.state = .confirmed ∨ row.state = .cancelled)
  noReview : ∀ r b state error, P ≠ .cancel r (.review b state error)

omit [PaymentGateway G] in
/-- Step 1 fails in other ways. -/
theorem openBooking_error {db : Db} {now : Time} {uuid : ℕ} {userId : UserId} {key : String}
    {payload : BookingCreate} {pnr : ℕ → String} {refTaken : Bool} {e : Failure}
    (h : openBooking db now uuid userId key payload pnr refTaken = .error e) :
    e.isIllegal = false := by
  have hfails := openBooking_eq_error h
  clear h
  cases hfails <;> rfl

omit [PaymentGateway G] in
theorem raisedIllegal_raised {r : BookingRequest} {e : Failure} {b : Option BookingId}
    (h : e.isIllegal = false) : (Proc.booking r (raised e b)).raisedIllegal = false := by
  cases e <;> first
    | rfl
    | exact h

omit [PaymentGateway G] in
theorem assertCanTransition_eq_none {current target : BookingState} :
    assertCanTransition current target = none ↔ target ∈ allowedTransitions current := by
  unfold assertCanTransition
  split <;> simp_all

/-- A saga's own transitions are legal, and it fails in other ways. -/
theorem BookingStep.legal {r : BookingRequest} {x : Draws} {pc pc' : BookingPc}
    (h : BookingStep env s p r x pc s' pc')
    (ho : ∀ b, pc.booking? = some b → pc.Outline r b (s.view b))
    (hold : (Proc.booking r pc).raisedIllegal = false) :
    (Proc.booking r pc').raisedIllegal = false := by
  cases h
  case opensNothing e h => exact raisedIllegal_raised (openBooking_error h)
  case selectIllegal σ f e h =>
    rw [(ho σ.bookingId rfl).1.state] at h
    simp [assertCanTransition, allowedTransitions] at h
  case recordIllegal σ pay result e h =>
    rw [(ho σ.bookingId rfl).1.state] at h
    simp [assertCanTransition, allowedTransitions] at h
  case refuseIllegal σ pay e h hcan =>
    rw [(ho σ.bookingId rfl).1.state] at hcan
    simp [assertCanTransition, allowedTransitions] at hcan
  case issueRolledBack σ pay e hf hlost htrig hfail =>
    cases hfail with
    | illegal hcan =>
      rw [(ho σ.bookingId rfl).1.state] at hcan
      simp [assertCanTransition, allowedTransitions] at hcan
    | tickets | seats | audit => rfl
  case voidIllegal σ pay reason e h =>
    rw [(ho σ.bookingId rfl).1.state] at h
    simp [assertCanTransition, allowedTransitions] at h
  case confirmIllegal σ pay e h =>
    rw [(ho σ.bookingId rfl).1.state] at h
    simp [assertCanTransition, allowedTransitions] at h
  case authorizes result _ | retries result _ =>
    cases hr : result.approved <;> simp [afterAuthorize, hr, Proc.raisedIllegal]
  case releases e b hf => exact hold
  case findsNothing o b hc => cases o <;> rfl
  case completes o b c hf hc => cases o <;> rfl
  all_goals rfl

/-- A step that does not work on a booking leaves its row. -/
theorem Step.booking_eq_of_ne {P P' : Proc} {a : Input} (h : Step env s p P a s' P')
    (ht : Tables s) (ho : P.Outline s) {b : BookingId} (hw : P.writes ≠ some b) (hlt : b < s.uuid) :
    s'.db.booking b = s.db.booking b :=
  congrArg View.row (h.view_eq_of_ne ht ho hw hlt)

/-- **A steady process moves its booking lawfully.** -/
theorem Step.movesLawfully {P P' : Proc} {a : Input} (h : Step env s p P a s' P') (ht : Tables s)
    (ho : P.Outline s) (hst : P.Steady s) : s.db.MovesLawfully s'.db := by
  intro b row row' hrow hrow' hne
  -- a flush over a row that is where the saga has it
  have hmerge : ∀ loaded current : BookingState,
      s'.db.booking b = (s.db.booking b).map (Booking.merge loaded current) →
      row.state = loaded → current ∈ allowedTransitions loaded →
        row'.state ∈ allowedTransitions row.state := by
    intro loaded current hflush hloaded hallowed
    rw [hflush, hrow] at hrow'
    obtain rfl := Option.some.inj hrow'
    rw [Booking.merge_state, hloaded, Orm.writeBack_fresh]
    exact hallowed
  have hsame : s'.db.booking b = s.db.booking b → row'.state ∈ allowedTransitions row.state := by
    intro heq
    rw [heq, hrow] at hrow'
    obtain rfl := Option.some.inj hrow'
    exact absurd rfl hne
  by_cases hw : P.writes = some b
  · cases h
    case booking r x pc pc' h =>
      have hbefore : ∀ {σ : Saga} {state : BookingState},
          σ.Before r.userId state (s.view b) → row.state = σ.state ∧ σ.state = state :=
        fun hb => ⟨(hb.row_state hrow).trans hb.state.symm, hb.state⟩
      cases h
      case opens => exact absurd hw (by simp [Proc.writes, BookingPc.saga?])
      case fails σ f rows hf h =>
        obtain rfl := Option.some.inj hw
        obtain ⟨hr, hs⟩ := hbefore (ho σ.bookingId rfl).2.1
        exact hmerge _ _ Db.flushBookingState_self hr (by rw [hs]; decide)
      case recordsAuthorized σ pay result h _ =>
        obtain rfl := Option.some.inj hw
        exact hmerge _ _ Db.flushBookingState_self (hbefore (ho σ.bookingId rfl).2.1).1
          (assertCanTransition_eq_none.mp h)
      case issues σ pay assigned rows hf hlost htrig hassigned hunique hchecked hcan hseq hrows =>
        obtain rfl := Option.some.inj hw
        exact hmerge _ _ Db.flushBookingState_self (hbefore (ho σ.bookingId rfl).2.1).1
          (assertCanTransition_eq_none.mp hcan)
      case refuses σ pay rows reason hf h hcan hrows =>
        obtain rfl := Option.some.inj hw
        exact hmerge _ _ Db.flushBookingState_self (hbefore (ho σ.bookingId rfl).2.1).1
          (assertCanTransition_eq_none.mp hcan)
      case voids σ pay reason hf h =>
        obtain rfl := Option.some.inj hw
        exact hmerge _ _ Db.flushBookingState_self (hbefore (ho σ.bookingId rfl).2.1).1
          (assertCanTransition_eq_none.mp h)
      case flags σ pay reason error hf =>
        obtain rfl := Option.some.inj hw
        obtain ⟨hr, hs⟩ := hbefore (ho σ.bookingId rfl).2.1
        exact hmerge _ _ Db.flushBookingState_self hr (by rw [hs]; decide)
      case confirms σ pay h hseq =>
        obtain rfl := Option.some.inj hw
        obtain ⟨row₀, hrow₀, hs⟩ := hst.ticketed σ.bookingId rfl
        rw [hrow] at hrow₀
        obtain rfl := Option.some.inj hrow₀
        refine hmerge _ _ Db.flushBookingState_self (hs.trans ?_) (assertCanTransition_eq_none.mp h)
        exact (ho σ.bookingId rfl).2.1.state.symm
      all_goals exact hsame rfl
    case cancel r x pc pc' h =>
      cases h
      case finishes b' state refunded h hseq =>
        obtain rfl := Option.some.inj hw
        obtain ⟨rfl, row₀, hrow₀, hs⟩ := hst.copy b' state rfl
        rw [hrow] at hrow₀
        obtain rfl := Option.some.inj hrow₀
        rcases hs with hs | hs
        · exact hmerge .confirmed .cancelled Db.flushBookingState_self hs (by decide)
        · -- another cancellation came first, and the row stays as that one left it
          refine absurd ?_ hne
          have hflush := hrow'.symm.trans (Db.flushBookingState_self.trans
            (congrArg (Option.map (Booking.merge .confirmed .cancelled)) hrow))
          rw [Option.some.inj hflush, hs]
          rfl
      case reviews b' state error hseq => exact absurd rfl (hst.noReview r b' state error)
      all_goals exact hsame rfl
    all_goals exact absurd hw (by simp [Proc.writes])
  · exact hsame (h.booking_eq_of_ne ht ho hw (ht.lt_of_booking hrow))

/-- The process that takes a clean step is steady after it. -/
theorem Step.steady {P P' : Proc} {a : Input} (h : Step env s p P a s' P') (ht : Tables s)
    (ho : P.Outline s) (hst : P.Steady s)
    (hload : ∀ r, P = .cancel r .load → ∀ b row, ownedBooking s.db r.ref r.userId = some (b, row) →
      row.state ≠ .ticketed)
    (hrefund : ∀ r b state pay, P = .cancel r (.refund b state pay) →
      succeeded (refundOutcome s pay).1 = true) : P'.Steady s' := by
  have hmover := h.mover ht ho
  cases h
  case booking r x pc pc' h =>
    refine ⟨h.legal (fun b hb => (ho b hb).2) hst.legal, fun b hb => ?_, fun b state hc => ?_, ?_⟩
    · cases h
      -- ticketing has just written the row that the capture will find
      case issues σ pay assigned rows hf hlost htrig hassigned hunique hchecked hcan hseq hrows =>
        obtain rfl := Option.some.inj hb
        have hbefore := (ho σ.bookingId rfl).2.1
        obtain ⟨row, hr, -, hs⟩ := hbefore.recorded.row
        refine ⟨row.merge σ.state .ticketed, ?_, ?_⟩
        · exact Db.flushBookingState_self.trans (congrArg (Option.map _) hr)
        · rw [Booking.merge_state, hs.trans hbefore.state.symm, Orm.writeBack_fresh]
      case captures σ pay result h => exact hst.ticketed b hb
      case opensNothing e _ => cases e <;> exact absurd hb (by simp [raised, Proc.ticketed?,
        BookingPc.ticketed?])
      case authorizes result _ | retries result _ =>
        cases hr : result.approved <;> simp [afterAuthorize, hr, Proc.ticketed?,
          BookingPc.ticketed?] at hb
      case selectIllegal h | recordIllegal h | voidIllegal h | confirmIllegal h =>
        simp [raised_of_assertCanTransition h, Proc.ticketed?, BookingPc.ticketed?] at hb
      case refuseIllegal h =>
        simp [raised_of_assertCanTransition h, Proc.ticketed?, BookingPc.ticketed?] at hb
      case issueRolledBack h =>
        simp [raised_of_issueFails h, Proc.ticketed?, BookingPc.ticketed?] at hb
      all_goals exact absurd hb (by simp [Proc.ticketed?, BookingPc.ticketed?])
    · simp [Proc.copy?] at hc
    · simp
  case cancel r x pc pc' h =>
    cases h
    case accepts b row h h' =>
      obtain ⟨-, hrow, -⟩ := ownedBooking_eq_some h
      -- the check admits a ticketed booking too, but the condition rules it out
      have hstate : row.state = .confirmed := by
        rcases (by simpa using requireState_eq_none.mp h' : row.state = .confirmed ∨
          row.state = .ticketed) with hs | hs
        · exact hs
        · exact absurd hs (hload r rfl b row h)
      refine ⟨rfl, by simp [Proc.ticketed?], fun b' state hc => ?_, by simp⟩
      simp only [Proc.copy?, CancelPc.copy?, Option.some.injEq, Prod.mk.injEq] at hc
      obtain ⟨rfl, rfl⟩ := hc
      exact ⟨hstate, row, hrow, .inl hstate⟩
    case selects b state =>
      exact ⟨rfl, by simp [Proc.ticketed?], fun b' state' hc => hst.copy b' state' hc, by simp⟩
    case locks b state pay hf =>
      cases pay <;> exact ⟨rfl, by simp [Proc.ticketed?],
        fun b' state' hc => hst.copy b' state' hc, by simp [afterLock]⟩
    case refunds b state pay h =>
      exact ⟨rfl, by simp [Proc.ticketed?], fun b' state' hc => hst.copy b' state' hc, by simp⟩
    case refundFails b state pay e h =>
      -- no refund fails, so nothing is put under review
      have hok := hrefund r b state pay rfl
      rw [h] at hok
      simp [succeeded] at hok
    case finishIllegal b state refunded e h =>
      obtain ⟨rfl, -⟩ := hst.copy b state rfl
      simp [assertCanTransition, allowedTransitions] at h
    all_goals exact ⟨rfl, by simp [Proc.ticketed?], by simp [Proc.copy?, CancelPc.copy?], by simp⟩
  case arrive r =>
    cases r <;> exact ⟨rfl, by simp [Request.start, Proc.ticketed?, BookingPc.ticketed?],
      by simp [Request.start, Proc.copy?, CancelPc.copy?], by simp [Request.start]⟩
  all_goals exact ⟨rfl, by simp [Proc.ticketed?], by simp [Proc.copy?], by simp⟩

/-- A steady process leaves its bystanders steady. -/
theorem Step.steady_bystander {P P' Q : Proc} {a : Input} (h : Step env s p P a s' P')
    (ht : Tables s) (hP : P.Outline s) (hQ : Q.Outline s) (hPQ : P.Apart Q) (hQP : Q.Apart P)
    (hPst : P.Steady s) (hst : Q.Steady s) : Q.Steady s' := by
  refine ⟨hst.legal, fun b hb => ?_, fun b state hc => ?_, hst.noReview⟩
  · obtain ⟨row, hrow, hs⟩ := hst.ticketed b hb
    have hlt := ht.lt_of_booking hrow
    refine ⟨row, ?_, hs⟩
    rw [← hrow]
    refine h.booking_eq_of_ne ht hP (fun hw => ?_) hlt
    cases P with
    | booking r pc =>
      cases Q with
      | booking r' pc' =>
        exact hPQ.booking b (BookingPc.booking?_of_saga? hw) (BookingPc.booking?_of_ticketed? hb)
      | _ => simp [Proc.ticketed?] at hb
    | cancel r pc =>
      obtain ⟨state, hcopy⟩ := CancelPc.copy?_of_booking? hw
      have hread := hQP.ticketed b hb state hcopy
      have hconf := (hPst.copy b state hcopy).1
      rw [hread] at hconf
      simp at hconf
    | _ => simp [Proc.writes] at hw
  · obtain ⟨rfl, row, hrow, hs⟩ := hst.copy b state hc
    refine ⟨rfl, ?_⟩
    have hlt := ht.lt_of_booking hrow
    by_cases hw : P.writes = some b
    · cases h
      case booking r x pc pc' h =>
        have hun : pc.untold? ≠ some b := fun hun => hPQ.untold b hun (by simp [hc])
        have htick : pc.ticketed? ≠ some b := by
          intro htick
          have hread := hPQ.ticketed b htick _ hc
          simp at hread
        cases h
        case refreshes => exact ⟨row, hrow, hs⟩
        all_goals first
          | exact absurd hw hun
          | exact absurd hw htick
      case cancel r x pc pc' h =>
        cases h
        case finishes b' state refunded h hseq =>
          obtain rfl := Option.some.inj hw
          obtain ⟨rfl, -⟩ := hPst.copy b' state rfl
          have hne : BookingState.cancelled ≠ .confirmed := by decide
          refine ⟨row.merge .confirmed .cancelled, ?_, .inr (Orm.writeBack_dirty row.state hne)⟩
          exact Db.flushBookingState_self.trans (congrArg (Option.map _) hrow)
        case reviews b' state error hseq => exact absurd rfl (hPst.noReview r b' state error)
        all_goals exact ⟨row, hrow, hs⟩
      all_goals exact absurd hw (by simp [Proc.writes])
    · exact ⟨row, (h.booking_eq_of_ne ht hP hw hlt).trans hrow, hs⟩

/-! ### The state machine -/

omit [PaymentGateway G] in
theorem steady_initial (db : Db) (g : G) (clock : Time) (q : ℕ) :
    ((initialWorld db g clock).proc q).Steady (initialWorld db g clock).shared :=
  ⟨rfl, by simp [initialWorld, Proc.ticketed?], by simp [initialWorld, Proc.copy?],
    by simp [initialWorld]⟩

/-- Beside clean cancellations every process is steady, in every world reached. -/
theorem steady_holds {db : Db} {g : G} {clock : Time} {w : World (Shared G) Proc}
    {as : List (ℕ × Input)} (hdb : db.Initial)
    (h : (service env G).Run CleanCancel (initialWorld db g clock) as w) :
    ((outline G).strengthen (fun _ => True) Proc.Steady).Holds w := by
  refine Outline.strengthen_of_run h ?_ (fun _ _ _ _ hw hn => outline_next hw hn) ?_
  · exact (outline_initial hdb g clock).strengthen trivial (steady_initial db g clock)
  · intro w₁ p a s' P' hw hC hs
    have hstep := step_of hs
    refine ⟨trivial, hstep.steady hw.shared.1 (hw.own p).1 (hw.own p).2 ?_ ?_, ?_⟩
    · intro r hP b row howned
      simp only [CleanCancel, hP, howned, Option.all_some, bne_iff_ne] at hC
      exact hC
    · intro r b state pay hP
      simpa only [CleanCancel, hP] using hC
    · intro Q hQ hst hPQ hQP
      exact hstep.steady_bystander hw.shared.1 (hw.own p).1 hQ hPQ hQP (hw.own p).2 hst

/-- **Where cancellations are clean, a booking moves along the state machine and in
no other way**, and no handler dies on `IllegalTransition`. -/
theorem state_machine {db : Db} {g : G} {clock : Time} {w w' : World (Shared G) Proc}
    {as : List (ℕ × Input)} {p : ℕ} {a : Input} (hdb : db.Initial)
    (h : (service env G).Run CleanCancel (initialWorld db g clock) as w)
    (hC : CleanCancel w p a) (hn : (service env G).next w p a = some w') :
    w.shared.db.MovesLawfully w'.shared.db ∧ ∀ q, (w'.proc q).raisedIllegal = false := by
  have hw := steady_holds hdb h
  have hw' := steady_holds hdb (.snoc h hC hn)
  refine ⟨?_, fun q => (hw'.own q).2.legal⟩
  obtain ⟨s', P', hs, rfl⟩ := System.next_eq_some.mp hn
  exact (step_of hs).movesLawfully hw.shared.1 (hw.own p).1 (hw.own p).2

/-- A user books a seat, and its cancellation gets as far as its last transaction
once the saga has taken `n` steps. -/
def cancelledAfter (n : ℕ) : List (ℕ × Input) :=
  asks 1 (.createHold ⟨10, 7, "1A"⟩) 3 (.calm 0) ++
    asks 2 (.createBooking ⟨10, "key-of-ada-00000001", soloBody 0 "tok_test_aaaa11110000"⟩) n
      (.calm 1) ++
    asks 3 (.cancelBooking ⟨10, "SKYLCC"⟩) 4 (.calm 2)

/-- A confirmed booking is cancelled lawfully. -/
theorem state_machine_confirmed :
    ∃ w w', (service demoEnv FakePaymentGateway).Run CleanCancel (onSale 2) (cancelledAfter 14) w ∧
      (service demoEnv FakePaymentGateway).next w 3 (.go (.calm 2)) = some w' ∧
        w.shared.db.MovesLawfully w'.shared.db ∧ ∀ q, (w'.proc q).raisedIllegal = false := by
  have hrun : ((service demoEnv FakePaymentGateway).checked CleanCancel (onSale 2)
      (cancelledAfter 14)).any (fun w => decide (CleanCancel w 3 (.go (.calm 2))) &&
        ((service demoEnv FakePaymentGateway).next w 3 (.go (.calm 2))).isSome) = true := by
    decide +kernel
  obtain ⟨w, hw, htest⟩ := System.exists_run_of_checked hrun
  rw [Bool.and_eq_true] at htest
  obtain ⟨w', hn⟩ := Option.isSome_iff_exists.mp htest.2
  exact ⟨w, w', hw, hn,
    state_machine (Db.seeded_initial ..) hw (of_decide_eq_true htest.1) hn⟩

/-- **A cancellation of a ticketed booking raises `IllegalTransition`**, though the
endpoint accepted it. -/
theorem illegal_cancel :
    ∃ w w', (service demoEnv FakePaymentGateway).Run (fun _ _ _ => True) (onSale 2)
        (cancelledAfter 9) w ∧
      (service demoEnv FakePaymentGateway).next w 3 (.go (.calm 2)) = some w' ∧
        ¬ (w.shared.db.MovesLawfully w'.shared.db ∧ ∀ q, (w'.proc q).raisedIllegal = false) := by
  have hrun : ((service demoEnv FakePaymentGateway).checked (fun _ _ _ => True) (onSale 2)
      (cancelledAfter 9)).any (fun w =>
        ((service demoEnv FakePaymentGateway).next w 3 (.go (.calm 2))).any fun w' =>
          (w'.proc 3).raisedIllegal) = true := by
    decide +kernel
  obtain ⟨w, hw, htest⟩ := System.exists_run_of_checked hrun
  obtain ⟨w', hn, hillegal⟩ := (Option.any_eq_true _ _).mp htest
  refine ⟨w, w', hw, hn, fun ⟨_, hlegal⟩ => ?_⟩
  rw [hlegal 3] at hillegal
  simp at hillegal

end SkyLock
