import SkyLock.Scripts
import SkyLock.Ticketing

/-!
# A cancellation on its own

`cancel` asks the gateway for the refund before it checks that the booking may be
cancelled at all, and the endpoint lets through bookings that may not.  A
cancellation that nothing runs beside is all or nothing unless it is one of those
and the refund goes through.

## Main definitions

* `View.Paid` — a sold booking has a payment to refund.
* `CancelledWhole`, `AllOrNothing` — what a cancellation owes.
* `CancelPc.left` — the steps a cancellation has left.

## Main results

* `paid_holds` — sold bookings have a payment to refund, in every reachable world.
* `all_or_nothing_iff` — **a cancellation is all or nothing exactly where it read
  the booking as confirmed or the gateway refuses the refund**.
* `refund_kept` — a ticketed booking is refunded, and stays ticketed.
-/

namespace SkyLock

open Concurrent

variable {G : Type} [PaymentGateway G] {env : Env} {s s' : Shared G} {p : ℕ}

/-! ### What there is to refund -/

/-- A sold booking has a payment to refund. -/
def View.Paid (V : View) : Prop :=
  ∀ row, V.row = some row → row.state = .ticketed ∨ row.state = .confirmed →
    ∃ pay ∈ V.payments, pay.state = .authorized ∨ pay.state = .captured

theorem Step.paid_own {P P' : Proc} {a : Input} (h : Step env s p P a s' P') (ht : Tables s)
    (ho : P.Outline s) {b : BookingId} (hw : P.writes = some b) (hpaid : (s.view b).Paid) :
    (s'.view b).Paid := by
  have hmover := h.mover ht ho
  -- a move to a state that is not sold
  have hunsold : ∀ loaded current : BookingState, loaded ≠ current →
      current ≠ .ticketed ∧ current ≠ .confirmed →
      (s'.view b).row = (s.view b).row.map (Booking.merge loaded current) → (s'.view b).Paid := by
    intro loaded current hne hun hflush row hrow hs
    rw [hflush] at hrow
    obtain ⟨row₀, -, rfl⟩ := Option.map_eq_some_iff.mp hrow
    rw [Booking.merge_state, Orm.writeBack_dirty _ hne.symm] at hs
    exact absurd hs (not_or.mpr hun)
  -- a saga that has not sold its booking yet, and leaves the row alone
  have hbefore : ∀ {σ : Saga} {u : UserId}, σ.Before u .pending (s.view b) →
      (s'.view b).row = (s.view b).row → (s'.view b).Paid := by
    intro σ u hb hsame row hrow hs
    rw [hsame] at hrow
    rw [hb.row_state hrow] at hs
    simp at hs
  cases h
  case booking r x pc pc' h =>
    cases h
    case opens => exact absurd hw (by simp [Proc.writes, BookingPc.saga?])
    case fails σ f rows hf h =>
      obtain rfl := Option.some.inj hw
      refine hunsold _ _ ?_ (by decide) Db.flushBookingState_self
      rw [(ho σ.bookingId rfl).2.1.state]
      decide
    case createsPayment σ hk =>
      obtain rfl := Option.some.inj hw
      exact hbefore (ho σ.bookingId rfl).2.1 rfl
    case journals σ pay =>
      obtain rfl := Option.some.inj hw
      exact hbefore (ho σ.bookingId rfl).2.1 rfl
    case recordsAuthorized σ pay result h _ =>
      obtain rfl := Option.some.inj hw
      refine hunsold _ _ ?_ (by decide) Db.flushBookingState_self
      rw [(ho σ.bookingId rfl).2.1.state]
      decide
    case issues σ pay assigned rows hf hlost htrig hassigned hunique hchecked hcan hseq hrows =>
      obtain rfl := Option.some.inj hw
      obtain ⟨-, -, hpays, hauth, -⟩ := (hmover σ.bookingId rfl).2
      intro row hrow hs
      refine ⟨pay, ?_, .inl hauth⟩
      rw [hpays]
      exact List.mem_singleton_self pay
    case refuses σ pay rows reason hf h hcan hrows =>
      obtain rfl := Option.some.inj hw
      refine hunsold _ _ ?_ (by decide) Db.flushBookingState_self
      rw [(ho σ.bookingId rfl).2.1.state]
      decide
    case voids σ pay reason hf h =>
      obtain rfl := Option.some.inj hw
      refine hunsold _ _ ?_ (by decide) Db.flushBookingState_self
      rw [(ho σ.bookingId rfl).2.1.state]
      decide
    case flags σ pay reason error hf =>
      obtain rfl := Option.some.inj hw
      refine hunsold _ _ ?_ (by decide) Db.flushBookingState_self
      rw [(ho σ.bookingId rfl).2.1.state]
      decide
    case confirms σ pay h hseq =>
      obtain rfl := Option.some.inj hw
      obtain ⟨-, -, hpays, -, -⟩ := (ho σ.bookingId rfl).2
      intro row hrow hs
      have hflush : ((s.withDb (confirmedDb s.db σ pay)).view σ.bookingId).payments = _ :=
        @PaymentTable.paymentsOf_flush s.db σ.bookingId pay pay.capturedState hpays
      rw [hflush]
      exact ⟨_, List.mem_singleton_self _, .inr rfl⟩
    all_goals exact hpaid
  case cancel r x pc pc' h =>
    have hne : ∀ (b' : BookingId) (state : BookingState), pc.copy? = some (b', state) →
        pc.booking? = some b' → state = .confirmed ∨ state = .ticketed :=
      fun b' state hcopy hb' => (ho b' hb').2.state _ hcopy
    cases h
    case finishes b' state refunded h hseq =>
      obtain rfl := Option.some.inj hw
      refine hunsold state .cancelled ?_ (by decide) Db.flushBookingState_self
      rcases hne b' state rfl rfl with rfl | rfl <;> decide
    case reviews b' state error hseq =>
      obtain rfl := Option.some.inj hw
      refine hunsold state .needsManualReview ?_ (by decide) Db.flushBookingState_self
      rcases hne b' state rfl rfl with rfl | rfl <;> decide
    all_goals exact hpaid
  all_goals exact absurd hw (by simp [Proc.writes])

theorem Step.paid {P P' : Proc} {a : Input} (h : Step env s p P a s' P') (ht : Tables s)
    (ho : P.Outline s) (hpaid : ∀ b, (s.view b).Paid) (b : BookingId) : (s'.view b).Paid := by
  by_cases hw : P.writes = some b
  · exact h.paid_own ht ho hw (hpaid b)
  intro row hrow hs
  rcases h.view_cases ht ho hw hrow with hsame | ⟨hpending, -⟩
  · rw [hsame] at hrow ⊢
    exact hpaid b row hrow hs
  · rw [hpending] at hs
    simp at hs

/-- Sold bookings have a payment to refund, in every reachable world. -/
theorem paid_holds {C : World (Shared G) Proc → ℕ → Input → Prop} {db : Db} {g : G} {clock : Time}
    {w : World (Shared G) Proc} {as : List (ℕ × Input)} (hdb : db.Initial)
    (h : (service env G).Run C (initialWorld db g clock) as w) (b : BookingId) :
    (w.shared.view b).Paid := by
  have hboth : (outline G).Holds w ∧ ∀ b, (w.shared.view b).Paid := by
    refine h.induct (I := fun w => (outline G).Holds w ∧ ∀ b, (w.shared.view b).Paid) ?_ ?_
    · refine ⟨outline_initial hdb g clock, fun b row hrow => ?_⟩
      simp [initialWorld, hdb.booking] at hrow
    · rintro w₁ p a w₂ ⟨hw, hpaid⟩ - hn
      refine ⟨outline_next hw hn, ?_⟩
      obtain ⟨s', P', hs, rfl⟩ := System.next_eq_some.mp hn
      exact (step_of hs).paid hw.shared (hw.own p) hpaid
  exact hboth.2 b

/-! ### What a cancellation owes -/

/-- The booking was cancelled whole: its row, its payment, at the gateway and in the
table, its tickets and its seats. -/
structure CancelledWhole (s s' : Shared G) (b : BookingId) : Prop where
  state : ∃ row, s'.db.booking b = some row ∧ row.state = .cancelled
  payments : ∀ pay ∈ s.db.paymentsOf b, pay.state = .authorized ∨ pay.state = .captured →
    .refund b (pay.providerRef.getD "") pay.amount true ∈ s'.calls ∧
      ∃ pay' ∈ s'.db.paymentsOf b, pay'.id = pay.id ∧ pay'.state = .refunded
  tickets : ∀ t ∈ s'.db.liveTickets, t.bookingId ≠ b
  seats : ∀ k, (s.db.seat k).bookingId = some b → (s'.db.seat k).status = .available

/-- No refund was made for the booking, and no row was changed. -/
def Untouched (s s' : Shared G) (b : BookingId) : Prop :=
  s'.db = s.db ∧ ∃ new, s'.calls = new ++ s.calls ∧
    ∀ ref amount, .refund b ref amount true ∉ new

/-- The call refunded the booking. -/
def GatewayCall.refunds (b : BookingId) : GatewayCall → Bool
  | .refund b' _ _ ok => decide (b' = b) && ok
  | _ => false

theorem GatewayCall.refunds_iff {b : BookingId} {c : GatewayCall} :
    c.refunds b = true ↔ ∃ ref amount, c = .refund b ref amount true := by
  cases c <;> simp [refunds]

/-- The booking is flagged for manual review. -/
def Flagged (s' : Shared G) (b : BookingId) : Prop :=
  ∃ row, s'.db.booking b = some row ∧ row.state = .needsManualReview

/-- A cancellation that leads from `s` to `s'` with the given reply is all or
nothing: it succeeds whole, or it raises and has done nothing or has flagged the
booking; and no booking that is still sold has been refunded. -/
structure AllOrNothing (s s' : Shared G) (b : BookingId) (reply : Reply) : Prop where
  succeeds : ∀ status body replayed, reply = .json status body replayed → CancelledWhole s s' b
  raises : (∀ status body replayed, reply ≠ .json status body replayed) →
    Untouched s s' b ∨ Flagged s' b
  money : ∀ row, s'.db.booking b = some row → row.state = .confirmed ∨ row.state = .ticketed →
    ∀ ref amount, .refund b ref amount true ∉ s'.calls

/-! ### The course of a cancellation -/

/-- The steps a cancellation has left. -/
def CancelPc.left : CancelPc → ℕ
  | .load => 5
  | .selectPayment _ _ => 4
  | .lockSeats _ _ _ => 3
  | .refund _ _ _ => 2
  | .finish _ _ _ | .review _ _ _ => 1
  | .done _ => 0

theorem CancelPc.left_eq_zero {pc : CancelPc} (h : pc.left = 0) : ∃ reply, pc = .done reply := by
  cases pc <;> simp only [left, Nat.succ_ne_zero] at h
  case done reply => exact ⟨reply, rfl⟩

/-- The steps a process that cancels has left. -/
def Proc.cancelLeft : Proc → ℕ
  | .cancel _ pc => pc.left
  | _ => 0

/-- How a cancellation of a sold booking ends, once the gateway has answered the
refund of `pay`. -/
inductive CancelEnds (s₀ : Shared G) (p : ℕ) (r : CancelRequest) (b : BookingId) (pay : Payment) :
    BookingState → Shared G → Reply → Prop
  | cancelled {body : JsonValue} (hok : (refundOutcome s₀ pay).1 = .ok ()) :
      CancelEnds s₀ p r b pay .confirmed
        ((((s₀.lockSeatsOf p b).refunded b pay).withDb
          (cancelledDb s₀.db b .confirmed r.userId (some pay) s₀.clock)).unlockSeats p)
        (.json 200 body false)
  | illegal {e : Failure} (hok : (refundOutcome s₀ pay).1 = .ok ()) :
      CancelEnds s₀ p r b pay .ticketed (((s₀.lockSeatsOf p b).refunded b pay).unlockSeats p)
        (.serverError e)
  | flagged {state : BookingState} {e : ReversalError}
      (hstate : state = .confirmed ∨ state = .ticketed)
      (herr : (refundOutcome s₀ pay).1 = .error e) :
      CancelEnds s₀ p r b pay state
        ((((s₀.lockSeatsOf p b).refunded b pay).withDb
          (reviewedDb s₀.db b state e.message)).unlockSeats p)
        (.problem refundPendingError)

/-- Where an accepted cancellation that nothing runs beside is, having started in
the shared state `s₀` on the booking `b` in the given state, with `pay` to refund. -/
def CancelCourse (s₀ : Shared G) (p : ℕ) (r : CancelRequest) (b : BookingId)
    (state : BookingState) (pay : Payment) (s : Shared G) (P : Proc) : Prop :=
  ∃ pc, P = .cancel r pc ∧
    match pc with
    | .load => s = s₀
    | .selectPayment b' state' => s = s₀ ∧ b' = b ∧ state' = state
    | .lockSeats b' state' pay' => s = s₀ ∧ b' = b ∧ state' = state ∧ pay' = some pay
    | .refund b' state' pay' => s = s₀.lockSeatsOf p b ∧ b' = b ∧ state' = state ∧ pay' = pay
    | .finish b' state' refunded => s = (s₀.lockSeatsOf p b).refunded b pay ∧ b' = b ∧
        state' = state ∧ refunded = some pay ∧ (refundOutcome s₀ pay).1 = .ok ()
    | .review b' state' error => s = (s₀.lockSeatsOf p b).refunded b pay ∧ b' = b ∧
        state' = state ∧ ∃ e, (refundOutcome s₀ pay).1 = .error e ∧ error = e.message
    | .done reply => CancelEnds s₀ p r b pay state s reply

/-- A step of a request that nothing runs beside: no audit number is taken. -/
def Undisturbed (_ : Proc) (a : Input) : Prop := ∃ x, a = .go x ∧ x.seqTaken = false

section Course

variable {s₀ : Shared G} {r : CancelRequest} {b : BookingId} {row : Booking} {pay : Payment}

theorem CancelCourse.step (howned : ownedBooking s₀.db r.ref r.userId = some (b, row))
    (haccept : requireState row.state [.confirmed, .ticketed] = none)
    (hfind : findPayment s₀.db b = some pay) {P P' : Proc} {a : Input}
    (hc : CancelCourse s₀ p r b row.state pay s P) (ha : Undisturbed P a)
    (hs : (service env G).step s p P a = some (s', P')) :
    CancelCourse s₀ p r b row.state pay s' P' ∧ P'.cancelLeft < P.cancelLeft := by
  obtain ⟨pc, rfl, hc⟩ := hc
  obtain ⟨x, rfl, hseq⟩ := ha
  have hstate : row.state = .confirmed ∨ row.state = .ticketed := by
    simpa using requireState_eq_none.mp haccept
  cases step_of hs with
  | @cancel _ _ _ _ pc' h =>
    cases h
    -- the look-up finds the booking, and the check lets it through
    case findsNothing h =>
      rw [show s = s₀ from hc, howned] at h
      simp at h
    case refuses b' row' e h h' =>
      rw [show s = s₀ from hc, howned] at h
      simp only [Option.some.injEq, Prod.mk.injEq] at h
      obtain ⟨rfl, rfl⟩ := h
      rw [haccept] at h'
      simp at h'
    case accepts b' row' h h' =>
      obtain rfl : s = s₀ := hc
      rw [howned] at h
      simp only [Option.some.injEq, Prod.mk.injEq] at h
      obtain ⟨rfl, rfl⟩ := h
      exact ⟨⟨_, rfl, rfl, rfl, rfl⟩, Nat.lt_succ_self _⟩
    case selects b' state' =>
      obtain ⟨rfl, rfl, rfl⟩ := hc
      exact ⟨⟨_, rfl, rfl, rfl, rfl, hfind⟩, Nat.lt_succ_self _⟩
    case locks b' state' pay' hf =>
      obtain ⟨rfl, rfl, rfl, rfl⟩ := hc
      exact ⟨⟨_, rfl, rfl, rfl, rfl, rfl⟩, Nat.lt_succ_self _⟩
    case refunds b' state' pay' h =>
      obtain ⟨rfl, rfl, rfl, rfl⟩ := hc
      exact ⟨⟨_, rfl, rfl, rfl, rfl, rfl, h⟩, Nat.lt_succ_self _⟩
    case refundFails b' state' pay' e h =>
      obtain ⟨rfl, rfl, rfl, rfl⟩ := hc
      exact ⟨⟨_, rfl, rfl, rfl, rfl, e, h, rfl⟩, Nat.lt_succ_self _⟩
    case finishes b' state' refunded h _ =>
      obtain ⟨rfl, rfl, rfl, rfl, hok⟩ := hc
      refine ⟨⟨_, rfl, ?_⟩, Nat.lt_succ_self _⟩
      rcases hstate with hst | hst
      · rw [hst]
        exact .cancelled hok
      -- a ticketed booking cannot be cancelled, but its charge is refunded by now
      · rw [hst] at h
        exact absurd h (by decide)
    case finishIllegal b' state' refunded e h =>
      obtain ⟨rfl, rfl, rfl, rfl, hok⟩ := hc
      refine ⟨⟨_, rfl, ?_⟩, Nat.lt_succ_self _⟩
      rcases hstate with hst | hst
      · rw [hst] at h
        simp [assertCanTransition, allowedTransitions] at h
      · rw [hst]
        exact .illegal hok
    case finishRolledBack h => exact absurd h (by simp [hseq])
    case reviews b' state' error _ =>
      obtain ⟨rfl, rfl, rfl, e, herr, rfl⟩ := hc
      exact ⟨⟨_, rfl, .flagged hstate herr⟩, Nat.lt_succ_self _⟩
    case reviewRolledBack h => exact absurd h (by simp [hseq])

/-- With the seat locks free, a cancellation can move until it is done. -/
theorem stepCancel_isSome {x : Draws} {pc : CancelPc} (hfree : s.UnlockedFor p)
    (hpc : pc.left ≠ 0) : (stepCancel s p r x pc).isSome := by
  cases pc <;> simp only [stepCancel]
  case load =>
    split
    · rfl
    · split <;> rfl
  case selectPayment => rfl
  case lockSeats b state pay =>
    rw [if_pos (hfree.seatsFree (List.filter_subset_self _))]
    cases pay <;> rfl
  case refund => split <;> rfl
  case finish => split <;> rfl
  case review => split <;> rfl
  case done => exact absurd rfl hpc

/-- Until it is done, a cancellation has only its own locks beside it. -/
theorem CancelCourse.unlockedFor (hfree : s₀.UnlockedFor p) {state : BookingState} {P : Proc}
    (hc : CancelCourse s₀ p r b state pay s P) (hleft : P.cancelLeft ≠ 0) : s.UnlockedFor p := by
  have hown : (s₀.lockSeatsOf p b).UnlockedFor p := by
    intro k hk
    simp only [Shared.lockSeatsOf_locks]
    split
    · exact .inr rfl
    · exact hfree k hk
  obtain ⟨pc, rfl, hc⟩ := hc
  cases pc
  case load =>
    obtain rfl : s = s₀ := hc
    exact hfree
  case selectPayment | lockSeats =>
    obtain ⟨rfl, -⟩ := hc
    exact hfree
  case refund | finish | review =>
    obtain ⟨rfl, -⟩ := hc
    exact hown
  case done => exact absurd rfl hleft

/-- Until it is done, a cancellation can take its next step. -/
theorem CancelCourse.progress (howned : ownedBooking s₀.db r.ref r.userId = some (b, row))
    (haccept : requireState row.state [.confirmed, .ticketed] = none)
    (hfind : findPayment s₀.db b = some pay) (hfree : s₀.UnlockedFor p) {P : Proc}
    (hc : CancelCourse s₀ p r b row.state pay s P) (hleft : P.cancelLeft ≠ 0) :
    ∃ a s' P', Undisturbed P a ∧ (service env G).step s p P a = some (s', P') ∧
      CancelCourse s₀ p r b row.state pay s' P' ∧ P'.cancelLeft < P.cancelLeft := by
  have hlocks := hc.unlockedFor hfree hleft
  obtain ⟨pc, rfl, -⟩ := id hc
  obtain ⟨⟨s', pc'⟩, hstep⟩ := Option.isSome_iff_exists.mp
    (stepCancel_isSome (r := r) (x := .calm 0) hlocks hleft)
  have hs : (service env G).step s p (.cancel r pc) (.go (.calm 0)) = some (s', .cancel r pc') :=
    congrArg (Option.map _) hstep
  have hundisturbed : Undisturbed (.cancel r pc) (.go (.calm 0)) := ⟨.calm 0, rfl, rfl⟩
  exact ⟨_, s', _, hundisturbed, hs, hc.step howned haccept hfind hundisturbed hs⟩

/-! ### How it ends -/

omit [PaymentGateway G] in
/-- The only payment of a booking is the one its cancellation finds. -/
theorem paymentsOf_of_findPayment (ht : Tables s₀) (hfind : findPayment s₀.db b = some pay) :
    s₀.db.paymentsOf b = [pay] := by
  obtain ⟨hmem, -⟩ := findPayment_eq_some hfind
  have hlen := ht.payments.one b
  match hlist : s₀.db.paymentsOf b with
  | [] =>
    rw [hlist] at hmem
    simp at hmem
  | [pay'] =>
    rw [hlist, List.mem_singleton] at hmem
    rw [hmem]
  | _ :: _ :: _ =>
    rw [hlist] at hlen
    simp at hlen

omit [PaymentGateway G] in
/-- A sold booking has a payment for its cancellation to find. -/
theorem exists_findPayment (hpaid : (s₀.view b).Paid) (hrow : s₀.db.booking b = some row)
    (hs : row.state = .ticketed ∨ row.state = .confirmed) :
    ∃ pay, findPayment s₀.db b = some pay := by
  obtain ⟨pay, hmem, hst⟩ := hpaid row hrow hs
  obtain ⟨hmem, hb⟩ := Db.mem_paymentsOf.mp hmem
  refine Option.isSome_iff_exists.mp (List.find?_isSome.mpr ⟨pay, hmem, ?_⟩)
  rcases hst with hst | hst <;> simp [hb, hst]

omit [PaymentGateway G] in
/-- The last transaction of a cancellation cancels whole what was refunded. -/
theorem cancelledWhole (hone : s₀.db.paymentsOf b = [pay]) (hrow : s₀.db.booking b = some row)
    {u : UserId}
    (hdb : s.db = cancelledDb s₀.db b .confirmed u (some pay) s₀.clock)
    (hcall : .refund b (pay.providerRef.getD "") pay.amount true ∈ s.calls) :
    CancelledWhole s₀ s b where
  state := by
    have hne : BookingState.cancelled ≠ .confirmed := by decide
    refine ⟨row.merge .confirmed .cancelled, ?_, Orm.writeBack_dirty row.state hne⟩
    rw [hdb]
    exact Db.flushBookingState_self.trans (congrArg (Option.map _) hrow)
  payments pay' hmem _ := by
    rw [hone, List.mem_singleton] at hmem
    subst hmem
    have hflush : s.db.paymentsOf b = [pay'.refundedState] := by
      rw [hdb]
      exact PaymentTable.paymentsOf_flush hone
    rw [hflush]
    exact ⟨hcall, _, List.mem_singleton_self _, rfl, rfl⟩
  tickets t hmem := by
    have hlive : s.db.liveTickets = (voidTickets s₀.db b s₀.clock).liveTickets := by
      rw [hdb]
      exact liveTickets_congr rfl
    rw [hlive, liveTickets_voidTickets] at hmem
    simpa using List.of_mem_filter hmem
  seats k hk := by
    rw [hdb, cancelledDb_seat, if_pos hk]
    rfl

/-- A refund that goes through is in the history. -/
theorem mem_calls_refunded (hok : (refundOutcome s₀ pay).1 = .ok ()) :
    .refund b (pay.providerRef.getD "") pay.amount true ∈
      ((s₀.lockSeatsOf p b).refunded b pay).calls := by
  have hcalls : ((s₀.lockSeatsOf p b).refunded b pay).calls =
      .refund b (pay.providerRef.getD "") pay.amount (succeeded (refundOutcome s₀ pay).1) ::
        s₀.calls := rfl
  rw [hcalls, hok]
  exact List.mem_cons_self

/-- How a cancellation ends decides whether it was all or nothing. -/
theorem CancelEnds.allOrNothing_iff (hone : s₀.db.paymentsOf b = [pay])
    (hrow : s₀.db.booking b = some row) {reply : Reply}
    (h : CancelEnds s₀ p r b pay row.state s reply) :
    AllOrNothing s₀ s b reply ↔
      row.state = .confirmed ∨ succeeded (refundOutcome s₀ pay).1 = false := by
  generalize hstate : row.state = state at h
  cases h
  case cancelled body hok =>
    have hwhole := cancelledWhole (s := (((s₀.lockSeatsOf p b).refunded b pay).withDb
      (cancelledDb s₀.db b .confirmed r.userId (some pay) s₀.clock)).unlockSeats p) hone hrow
      rfl (mem_calls_refunded hok)
    refine iff_of_true ⟨fun _ _ _ _ => hwhole, fun hnot => absurd rfl (hnot 200 body false), ?_⟩
      (.inl rfl)
    obtain ⟨row', hrow', hs'⟩ := hwhole.state
    intro row₁ hrow₁ hs
    obtain rfl := Option.some.inj (hrow'.symm.trans hrow₁)
    rw [hs'] at hs
    simp at hs
  case illegal e hok =>
    have hkept : ((((s₀.lockSeatsOf p b).refunded b pay).unlockSeats p).db.booking b) = some row :=
      hrow
    refine iff_of_false (fun hall => ?_) (by simp [hok, succeeded])
    exact hall.money row hkept (.inr hstate) _ _ (mem_calls_refunded hok)
  case flagged e herr hst =>
    have hflag : Flagged ((((s₀.lockSeatsOf p b).refunded b pay).withDb
        (reviewedDb s₀.db b state e.message)).unlockSeats p) b := by
      refine ⟨row.merge state .needsManualReview, ?_, ?_⟩
      · exact Db.flushBookingState_self.trans (congrArg (Option.map _) hrow)
      · refine Orm.writeBack_dirty row.state ?_
        rcases hst with rfl | rfl <;> decide
    refine iff_of_true ⟨?_, fun _ => .inr hflag, ?_⟩ (.inr (by simp [herr, succeeded]))
    · intro status body replayed hreply
      simp at hreply
    obtain ⟨row', hrow', hs'⟩ := hflag
    intro row₁ hrow₁ hs
    obtain rfl := Option.some.inj (hrow'.symm.trans hrow₁)
    rw [hs'] at hs
    simp at hs

end Course

/-- **A cancellation that nothing runs beside ends, and is all or nothing exactly
where it read the booking as confirmed or the gateway refuses the refund.** -/
theorem all_or_nothing_iff {C : World (Shared G) Proc → ℕ → Input → Prop} {db : Db} {g : G}
    {clock : Time} {w : World (Shared G) Proc} {as : List (ℕ × Input)} {r : CancelRequest}
    {b : BookingId} {row : Booking} (hdb : db.Initial)
    (h : (service env G).Run C (initialWorld db g clock) as w)
    (hp : w.proc p = .cancel r .load) (hfree : w.shared.UnlockedFor p)
    (howned : ownedBooking w.shared.db r.ref r.userId = some (b, row))
    (haccept : requireState row.state [.confirmed, .ticketed] = none) :
    (∃ bs w' reply, (service env G).Run (System.Solo p Undisturbed) w bs w' ∧
        w'.proc p = .cancel r (.done reply)) ∧
      ∀ bs w' reply, (service env G).Run (System.Solo p Undisturbed) w bs w' →
        w'.proc p = .cancel r (.done reply) →
          (AllOrNothing w.shared w'.shared b reply ↔ row.state = .confirmed ∨
            ∀ pay, findPayment w.shared.db b = some pay →
              succeeded (refundOutcome w.shared pay).1 = false) := by
  have ht := (outline_holds hdb h).shared
  obtain ⟨-, hrow, -⟩ := ownedBooking_eq_some howned
  have hsold : row.state = .ticketed ∨ row.state = .confirmed := by
    have hmem := requireState_eq_none.mp haccept
    simpa [or_comm] using hmem
  obtain ⟨pay, hfind⟩ := exists_findPayment (paid_holds hdb h b) hrow hsold
  have hone := paymentsOf_of_findPayment ht hfind
  have hstart : CancelCourse w.shared p r b row.state pay w.shared (w.proc p) := ⟨.load, hp, rfl⟩
  have hcourse : ∀ bs w', (service env G).Run (System.Solo p Undisturbed) w bs w' →
      CancelCourse w.shared p r b row.state pay w'.shared (w'.proc p) := fun bs w' hrun =>
    hrun.solo (I := CancelCourse w.shared p r b row.state pay) hstart
      fun s Q a s' Q' hc ha hs => (hc.step howned haccept hfind ha hs).1
  constructor
  · obtain ⟨bs, w', hrun, hleft, -⟩ := System.exists_solo_run (D := Undisturbed) Proc.cancelLeft
      (fun s P hc hleft => hc.progress howned haccept hfind hfree hleft) w hstart
    obtain ⟨pc, hpc, hend⟩ := hcourse bs w' hrun
    rw [hpc] at hleft
    obtain ⟨reply, rfl⟩ := CancelPc.left_eq_zero hleft
    exact ⟨bs, w', reply, hrun, hpc⟩
  · intro bs w' reply hrun hdone
    obtain ⟨pc, hpc, hend⟩ := hcourse bs w' hrun
    obtain rfl : CancelPc.done reply = pc := by
      rw [hdone] at hpc
      injection hpc
    rw [CancelEnds.allOrNothing_iff hone hrow hend]
    simp [hfind]

/-- A user books a seat, and asks to cancel it once the saga has taken `n` steps. -/
def cancelAsked (n : ℕ) : List (ℕ × Input) :=
  asks 1 (.createHold ⟨10, 7, "1A"⟩) 3 (.calm 0) ++
    asks 2 (.createBooking ⟨10, "key-of-ada-00000001", soloBody 0 "tok_test_aaaa11110000"⟩) n
      (.calm 1) ++
    asks 3 (.cancelBooking ⟨10, "SKYLCC"⟩) 0 (.calm 2)

/-- The request of a process that is about to look for the booking to cancel. -/
def Proc.loading? : Proc → Option CancelRequest
  | .cancel r .load => some r
  | _ => none

theorem Proc.loading?_eq_some {P : Proc} {r : CancelRequest} (h : P.loading? = some r) :
    P = .cancel r .load := by
  unfold loading? at h
  split at h
  · obtain rfl := Option.some.inj h
    rfl
  · simp at h

/-- A confirmed booking is cancelled whole. -/
theorem all_or_nothing_confirmed :
    ∃ w r b row, (service demoEnv FakePaymentGateway).Run (fun _ _ _ => True) (onSale 2)
        (cancelAsked 14) w ∧
      ownedBooking w.shared.db r.ref r.userId = some (b, row) ∧
        ∃ bs w' reply, (service demoEnv FakePaymentGateway).Run (System.Solo 3 Undisturbed) w bs w' ∧
          w'.proc 3 = .cancel r (.done reply) ∧ AllOrNothing w.shared w'.shared b reply := by
  have hrun : ((service demoEnv FakePaymentGateway).checked (fun _ _ _ => True) (onSale 2)
      (cancelAsked 14)).any (fun w => (w.proc 3).loading?.any fun r =>
        decide (w.shared.UnlockedFor 3) &&
          (ownedBooking w.shared.db r.ref r.userId).any fun o =>
            decide (o.2.state = .confirmed)) = true := by
    decide +kernel
  obtain ⟨w, hw, htest⟩ := System.exists_run_of_checked hrun
  obtain ⟨r, hp, htest⟩ := (Option.any_eq_true _ _).mp htest
  rw [Bool.and_eq_true] at htest
  obtain ⟨⟨b, row⟩, howned, hstate⟩ := (Option.any_eq_true _ _).mp htest.2
  have hstate := of_decide_eq_true hstate
  have haccept : requireState row.state [.confirmed, .ticketed] = none := by
    rw [hstate]
    rfl
  obtain ⟨⟨bs, w', reply, hsolo, hdone⟩, hiff⟩ := all_or_nothing_iff (Db.seeded_initial ..) hw
    (Proc.loading?_eq_some hp) (of_decide_eq_true htest.1) howned haccept
  exact ⟨w, r, b, row, hw, howned, bs, w', reply, hsolo, hdone,
    (hiff bs w' reply hsolo hdone).mpr (.inl hstate)⟩

/-- The request and the reply of a cancellation that is done. -/
def Proc.cancelDone? : Proc → Option (CancelRequest × Reply)
  | .cancel r (.done reply) => some (r, reply)
  | _ => none

theorem Proc.cancelDone?_eq_some {P : Proc} {r : CancelRequest} {reply : Reply}
    (h : P.cancelDone? = some (r, reply)) : P = .cancel r (.done reply) := by
  unfold cancelDone? at h
  split at h
  · simp only [Option.some.injEq, Prod.mk.injEq] at h
    obtain ⟨rfl, rfl⟩ := h
    rfl
  · simp at h

/-- **A ticketed booking is refunded, and stays ticketed**: the endpoint accepts
it, the gateway pays, and only then does `assert_can_transition` raise. -/
theorem refund_kept :
    ∃ w w' r b row reply, (service demoEnv FakePaymentGateway).Run (fun _ _ _ => True) (onSale 2)
        (cancelAsked 9) w ∧
      w.proc 3 = .cancel r .load ∧ w.shared.UnlockedFor 3 ∧
        ownedBooking w.shared.db r.ref r.userId = some (b, row) ∧
          requireState row.state [.confirmed, .ticketed] = none ∧
            (service demoEnv FakePaymentGateway).Run (System.Solo 3 Undisturbed) w
              (moves 3 5 (.calm 2)) w' ∧
              w'.proc 3 = .cancel r (.done reply) ∧ ¬ AllOrNothing w.shared w'.shared b reply := by
  have hrun : ((service demoEnv FakePaymentGateway).checked (fun _ _ _ => True) (onSale 2)
      (cancelAsked 9)).any (fun w => (w.proc 3).loading?.any fun r =>
        decide (w.shared.UnlockedFor 3) &&
          (ownedBooking w.shared.db r.ref r.userId).any fun o =>
            decide (requireState o.2.state [.confirmed, .ticketed] = none) &&
              ((service demoEnv FakePaymentGateway).exec w (moves 3 5 (.calm 2))).any fun w' =>
                (w'.proc 3).cancelDone?.any (fun c => decide (c.1 = r)) &&
                  ((w'.shared.db.booking o.1).any (fun row => decide (row.state = .ticketed)) &&
                    w'.shared.calls.any (GatewayCall.refunds o.1))) = true := by
    decide +kernel
  obtain ⟨w, hw, htest⟩ := System.exists_run_of_checked hrun
  obtain ⟨r, hp, htest⟩ := (Option.any_eq_true _ _).mp htest
  rw [Bool.and_eq_true] at htest
  obtain ⟨hfree, htest⟩ := htest
  obtain ⟨⟨b, row⟩, howned, htest⟩ := (Option.any_eq_true _ _).mp htest
  rw [Bool.and_eq_true] at htest
  obtain ⟨haccept, htest⟩ := htest
  obtain ⟨w', hexec, htest⟩ := (Option.any_eq_true _ _).mp htest
  simp only [Bool.and_eq_true] at htest
  obtain ⟨hdone, hrow, hcall⟩ := htest
  obtain ⟨⟨r', reply⟩, hreply, hr⟩ := (Option.any_eq_true _ _).mp hdone
  obtain rfl : r' = r := of_decide_eq_true hr
  obtain ⟨row', hrow', hstate⟩ := (Option.any_eq_true _ _).mp hrow
  obtain ⟨c, hmem, hc⟩ := List.any_eq_true.mp hcall
  obtain ⟨ref, amount, rfl⟩ := GatewayCall.refunds_iff.mp hc
  refine ⟨w, w', r', b, row, reply, hw, Proc.loading?_eq_some hp, of_decide_eq_true hfree, howned,
    of_decide_eq_true haccept, System.run_of_exec (fun a ha _ => ?_) hexec,
    Proc.cancelDone?_eq_some hreply, fun hall => ?_⟩
  · obtain rfl := List.eq_of_mem_replicate ha
    exact ⟨rfl, .calm 2, rfl, rfl⟩
  · exact hall.money row' hrow' (.inr (of_decide_eq_true hstate)) ref amount hmem

end SkyLock
