import SkyLock.Declines
import SkyLock.Failures

/-!
# Recovering from an interrupted saga

A request that dies inside `run` leaves its seats as the last committed transaction has
them.  From step 1 on they are pinned, the pin is taken off by the transactions that end
the saga without a sale, and the sweep lets pinned rows be: the seats of a saga that is
interrupted before one of these commits are never given back.

## Main definitions

* `BookingState.underWay`, `BookingState.failed` — before such a transaction, and after.
* `OnlyFreed` — nobody else takes the seats.
* `Db.Stage` — what the state of the booking says of its seats.

## Main results

* `Step.stage_own`, `Step.stage_other` — what one step makes of a stage.
* `recovered_iff` — **the sweep recovers the seats of the sagas that have failed**, and
  of no others.
* `stranded` — a seat that stays held after its hold has expired.
-/

namespace SkyLock

open Concurrent

variable {G : Type} [PaymentGateway G] {env : Env} {s s' : Shared G} {p q : ℕ} {P P' : Proc}
  {a : Input} {b : BookingId} {seats : List SeatInstance}

/-! ### The rows of an interrupted saga -/

/-- A saga with its booking in this state has not ended. -/
def BookingState.underWay : BookingState → Bool
  | .pending | .paymentAuthorized | .compensating => true
  | _ => false

/-- A saga with its booking in this state has ended without a sale. -/
def BookingState.failed : BookingState → Bool
  | .paymentFailed | .voided | .needsManualReview => true
  | _ => false

/-- The row is available, with no holder, no hold and no booking. -/
structure SeatInventory.Vacant (r : SeatInventory) : Prop where
  status : r.status = .available
  holder : r.heldByUserId = none
  hold : r.holdId = none
  booking : r.bookingId = none

instance (r : SeatInventory) : Decidable r.Vacant :=
  decidable_of_iff (r.status = .available ∧ r.heldByUserId = none ∧ r.holdId = none ∧
      r.bookingId = none)
    ⟨fun ⟨h₁, h₂, h₃, h₄⟩ => ⟨h₁, h₂, h₃, h₄⟩, fun h => ⟨h.status, h.holder, h.hold, h.booking⟩⟩

/-- The row is held until `e`, or has been let go. -/
def SeatInventory.HeldOrFree (r : SeatInventory) (e : Option Time) : Prop :=
  (r.status = .held ∧ r.holdExpiresAt = e) ∨
    (r.status = .available ∧ r.heldByUserId = none ∧ r.holdId = none)

theorem SeatInventory.HeldOrFree.freed (r : SeatInventory) (e : Option Time) :
    r.freed.HeldOrFree e := .inr ⟨rfl, rfl, rfl⟩

/-- Under a failed booking the seats are unpinned, and under one that is under way they
are pinned to it. -/
def Db.Stage (db : Db) (b : BookingId) (seats : List SeatInstance) : Prop :=
  ∃ row, db.booking b = some row ∧
    ((row.state.underWay = true ∧ ∀ i ∈ seats, (db.seat i.id).HeldOrFree i.row.holdExpiresAt ∧
        (db.seat i.id).bookingId = some b) ∨
      (row.state.failed = true ∧ ∀ i ∈ seats, (db.seat i.id).HeldOrFree i.row.holdExpiresAt ∧
        (db.seat i.id).bookingId = none))

/-- Processes other than `p` at most free the seats: they release the hold or sweep it. -/
def OnlyFreed (env : Env) (p : ℕ) (seats : List SeatInstance) (w : World (Shared G) Proc) (q : ℕ)
    (a : Input) : Prop :=
  q ≠ p → ∀ w' ∈ (service env G).next w q a, ∀ i ∈ seats,
    w'.shared.db.seat i.id = w.shared.db.seat i.id ∨
      w'.shared.db.seat i.id = (w.shared.db.seat i.id).freed

instance (p : ℕ) (w : World (Shared G) Proc) (q : ℕ) (a : Input) :
    Decidable (OnlyFreed env p seats w q a) := by
  unfold OnlyFreed
  infer_instance

/-! ### One step of the saga -/

omit [PaymentGateway G] in
/-- A state before ticketing is under way, unless the saga has ended. -/
theorem Db.Stage.pinned {db : Db} (h : db.Stage b seats) {state : BookingState}
    (hstate : ∀ row, db.booking b = some row → row.state = state) (hway : state.underWay = true) :
    ∀ i ∈ seats, (db.seat i.id).HeldOrFree i.row.holdExpiresAt ∧
      (db.seat i.id).bookingId = some b := by
  obtain ⟨row, hrow, ⟨-, hseats⟩ | ⟨hfailed, -⟩⟩ := h
  · exact hseats
  · rw [hstate row hrow] at hfailed
    cases state <;> simp_all [BookingState.underWay, BookingState.failed]

/-- What leaves the seats alone leaves a booking that is under way at its stage. -/
theorem Db.Stage.of_underWay {db db' : Db} (hseat : db'.seat = db.seat)
    (hpinned : ∀ i ∈ seats, (db.seat i.id).HeldOrFree i.row.holdExpiresAt ∧
      (db.seat i.id).bookingId = some b)
    {row : Booking} (hrow : db'.booking b = some row) (hway : row.state.underWay = true) :
    db'.Stage b seats := by
  refine ⟨row, hrow, .inl ⟨hway, fun i hi => ?_⟩⟩
  rw [hseat]
  exact hpinned i hi

omit [PaymentGateway G] in
/-- A settled booking has failed. -/
theorem Settled.failed (h : Settled b (s.view b)) :
    ∃ row, s.db.booking b = some row ∧ row.state.failed = true := by
  obtain ⟨row, hrow, hstate, -⟩ := h
  refine ⟨row, hrow, ?_⟩
  rcases hstate with h | h | h <;> rw [h] <;> rfl

omit [PaymentGateway G] in
/-- Between ticketing and the confirmation a booking has tickets. -/
theorem Saga.Ticketed.tickets_ne_nil {σ : Saga} {u : UserId}
    (h : σ.Ticketed u (s.view σ.bookingId)) : s.db.ticketsOf σ.bookingId ≠ [] := by
  intro hnil
  obtain ⟨i, hi⟩ := List.exists_mem_of_ne_nil _ h.seated.nonempty
  have hmem : some i.id ∈ σ.passengers.map BookingPassenger.seatInventoryId := by
    rw [h.seated.seats]
    exact List.mem_map_of_mem hi
  obtain ⟨c, hc, -⟩ := List.mem_map.mp hmem
  obtain ⟨t, ht, -⟩ := h.whole c (h.recorded.passengers ▸ hc)
  rw [Shared.view_tickets, hnil] at ht
  simp at ht

omit [PaymentGateway G] in
theorem Saga.Before.row_of_view {σ : Saga} {u : UserId} {state : BookingState}
    (h : σ.Before u state (s.view σ.bookingId)) :
    ∃ row, s.db.booking σ.bookingId = some row ∧ row.state = state := by
  obtain ⟨row, hrow, -, hstate⟩ := h.recorded.row
  exact ⟨row, hrow, hstate⟩

/-- **A step of the saga keeps it at its stage**, or takes it to the next one. -/
theorem BookingStep.stage {r : BookingRequest} {x : Draws} {pc pc' : BookingPc}
    (h : BookingStep env s p r x pc s' pc')
    (ho : ∀ b, pc.booking? = some b → pc.Outline r b (s.view b))
    (ho' : ∀ b, pc'.booking? = some b → pc'.Outline r b (s'.view b))
    (hu : Unpinned s (.booking r pc)) (hmem : ∀ i ∈ seats, i.id ∈ s.db.seatIds)
    (hb : pc.booking? = some b) (hst : s.db.Stage b seats) (hnone : s'.db.ticketsOf b = []) :
    s'.db.Stage b seats := by
  cases h
  case fails σ f rows hf h =>
    obtain rfl := Option.some.inj hb
    obtain ⟨hbefore, -, hrows⟩ := ho σ.bookingId rfl
    have hpinned := hst.pinned (fun row hrow => hbefore.row_state hrow) rfl
    obtain ⟨row, hrow, hfailed⟩ := Settled.failed (ho' σ.bookingId rfl)
    refine ⟨row, hrow, .inr ⟨hfailed, fun i hi => ?_⟩⟩
    obtain ⟨hleft, hpin⟩ := hpinned i hi
    -- the SELECT has found every row of the booking
    have hfound : i.id ∈ rows.map Orm.Instance.id :=
      hu (List.mem_filter.mpr ⟨hmem i hi, by simpa using hpin⟩)
    obtain ⟨v, hv⟩ := failedDb_seat_of_mem s.db σ f (fun j hj => by rw [hrows j hj]; rfl) hfound
    show ((failedDb s.db σ f rows).seat i.id).HeldOrFree _ ∧
      ((failedDb s.db σ f rows).seat i.id).bookingId = none
    rw [hv]
    exact ⟨hleft, rfl⟩
  case recordsAuthorized σ pay result h _ =>
    obtain rfl := Option.some.inj hb
    have hpinned := hst.pinned (fun row hrow => (ho σ.bookingId rfl).1.row_state hrow) rfl
    obtain ⟨row, hrow, hstate⟩ := (ho' σ.bookingId rfl).1.row_of_view
    exact .of_underWay rfl hpinned hrow (by rw [hstate]; rfl)
  case refuses σ pay rows reason hf h hcan hrows =>
    obtain rfl := Option.some.inj hb
    have hpinned := hst.pinned (fun row hrow => (ho σ.bookingId rfl).1.row_state hrow) rfl
    obtain ⟨row, hrow, hstate⟩ := (ho' σ.bookingId rfl).1.row_of_view
    exact .of_underWay rfl hpinned hrow (by rw [hstate]; rfl)
  case issues σ pay assigned rows hf hlost htrig hassigned hunique hchecked hcan hseq hrows =>
    obtain rfl := Option.some.inj hb
    exact absurd hnone (ho' σ.bookingId rfl).1.tickets_ne_nil
  case confirms σ pay h hseq =>
    obtain rfl := Option.some.inj hb
    have htickets : s.db.ticketsOf σ.bookingId ≠ [] := (ho σ.bookingId rfl).1.tickets_ne_nil
    exact absurd hnone htickets
  case voids σ pay reason hf h =>
    obtain rfl := Option.some.inj hb
    have hpinned := hst.pinned (fun row hrow => (ho σ.bookingId rfl).1.row_state hrow) rfl
    obtain ⟨row, hrow, hfailed⟩ := Settled.failed (ho' σ.bookingId rfl)
    refine ⟨row, hrow, .inr ⟨hfailed, fun i hi => ?_⟩⟩
    show ((voidedDb s.db σ pay s.clock).seat i.id).HeldOrFree _ ∧
      ((voidedDb s.db σ pay s.clock).seat i.id).bookingId = none
    rw [voidedDb_seat, if_pos (hpinned i hi).2]
    exact ⟨.inr ⟨rfl, rfl, rfl⟩, rfl⟩
  case flags σ pay reason error hf =>
    obtain rfl := Option.some.inj hb
    have hpinned := hst.pinned (fun row hrow => (ho σ.bookingId rfl).1.row_state hrow) rfl
    obtain ⟨row, hrow, hfailed⟩ := Settled.failed (ho' σ.bookingId rfl)
    refine ⟨row, hrow, .inr ⟨hfailed, fun i hi => ?_⟩⟩
    show ((finishReview s.db σ pay error s.clock).seat i.id).HeldOrFree _ ∧
      ((finishReview s.db σ pay error s.clock).seat i.id).bookingId = none
    rw [finishReview_seat, if_pos (hpinned i hi).2]
    exact ⟨.inr ⟨rfl, rfl, rfl⟩, rfl⟩
  case opens | opensNothing => exact absurd hb (by simp [BookingPc.booking?, BookingPc.saga?])
  all_goals exact hst

/-! ### Runs -/

/-- A request keeps its booking to its end. -/
theorem BookingStep.booking?_kept {r : BookingRequest} {x : Draws} {pc pc' : BookingPc}
    (h : BookingStep env s p r x pc s' pc') (hb : pc.booking? = some b) :
    pc'.booking? = some b := by
  by_cases hrun : pc.saga?.isSome
  · rw [h.booking?_eq hrun]
    exact hb
  · cases h
    case finds | findsNothing | completes | completesNothing | releases => exact hb
    all_goals simp [BookingPc.booking?, BookingPc.saga?] at hb hrun

/-- What is known of a request whose booking is `b`, as long as that has no ticket, when
nobody else takes its seats. -/
structure Interruptible (w : World (Shared G) Proc) (p : ℕ) (b : BookingId)
    (seats : List SeatInstance) : Prop where
  holds : (outline G).Holds w
  unpinned : ∀ q, Unpinned w.shared (w.proc q)
  mem : ∀ i ∈ seats, i.id ∈ w.shared.db.seatIds
  mine : (w.proc p).booking? = some b
  /-- No cancellation has read the booking: it never was in a state they accept. -/
  unread : w.shared.db.ticketsOf b = [] → ∀ q state, (w.proc q).copy? ≠ some (b, state)
  stage : w.shared.db.ticketsOf b = [] → w.shared.db.Stage b seats

omit [PaymentGateway G] in
theorem Db.Stage.state_ne {db : Db} (h : db.Stage b seats) {row : Booking}
    (hrow : db.booking b = some row) : row.state ≠ .confirmed ∧ row.state ≠ .ticketed := by
  obtain ⟨row', hrow', hstage⟩ := h
  obtain rfl : row' = row := Option.some.inj (hrow'.symm.trans hrow)
  rcases hstage with ⟨hstate, -⟩ | ⟨hstate, -⟩ <;> constructor <;> intro heq <;>
    rw [heq] at hstate <;> simp [BookingState.underWay, BookingState.failed] at hstate

/-- Tickets are voided, never deleted. -/
theorem Step.ticket_kept (h : Step env s p P a s' P') {t : Ticket} (ht : t ∈ s.db.tickets) :
    ∃ t' ∈ s'.db.tickets, t'.bookingId = t.bookingId := by
  have hvoid : ∀ (db : Db) (b : BookingId) (now : Time), db.tickets = s.db.tickets →
      ∃ t' ∈ (voidTickets db b now).tickets, t'.bookingId = t.bookingId := by
    intro db b now heq
    refine ⟨_, List.mem_map_of_mem (heq ▸ ht), ?_⟩
    split <;> rfl
  cases h
  case booking r x pc pc' h =>
    cases h
    case issues => exact ⟨t, List.mem_append_right _ ht, rfl⟩
    case voids => exact hvoid _ _ _ rfl
    case flags => exact hvoid _ _ _ rfl
    all_goals exact ⟨t, ht, rfl⟩
  case cancel r x pc pc' h =>
    cases h
    case finishes => exact hvoid _ _ _ rfl
    all_goals exact ⟨t, ht, rfl⟩
  case hold h | release h | sweep h => cases h <;> exact ⟨t, ht, rfl⟩
  all_goals exact ⟨t, ht, rfl⟩

theorem Step.ticketsOf_eq_nil (h : Step env s p P a s' P') (hnil : s'.db.ticketsOf b = []) :
    s.db.ticketsOf b = [] := by
  refine List.eq_nil_iff_forall_not_mem.mpr fun t ht => ?_
  obtain ⟨hmem, rfl⟩ := Db.mem_ticketsOf.mp ht
  obtain ⟨t', hmem', hb⟩ := h.ticket_kept hmem
  exact List.eq_nil_iff_forall_not_mem.mp hnil t' (Db.mem_ticketsOf.mpr ⟨hmem', hb⟩)

/-- A step of another process keeps the stage, if it leaves the seats to the saga. -/
theorem Step.stage_other (h : Step env s q P a s' P') (ht : Tables s) (ho : P.Outline s)
    (hw : P.writes ≠ some b) (hlt : b < s.uuid)
    (hfreed : ∀ i ∈ seats, s'.db.seat i.id = s.db.seat i.id ∨
      s'.db.seat i.id = (s.db.seat i.id).freed) (hst : s.db.Stage b seats) :
    s'.db.Stage b seats := by
  obtain ⟨row, hrow, hstage⟩ := hst
  have hview := congrArg View.row (h.view_eq_of_ne ht ho hw hlt)
  have hseat : ∀ i ∈ seats, ∀ c, ((s.db.seat i.id).HeldOrFree i.row.holdExpiresAt ∧
      (s.db.seat i.id).bookingId = c) → ((s'.db.seat i.id).HeldOrFree i.row.holdExpiresAt ∧
        (s'.db.seat i.id).bookingId = c) := by
    rintro i hi c ⟨hleft, hpin⟩
    rcases hfreed i hi with heq | heq <;> rw [heq]
    · exact ⟨hleft, hpin⟩
    · exact ⟨.freed _ _, hpin⟩
  refine ⟨row, hview.trans hrow, ?_⟩
  rcases hstage with ⟨hway, hseats⟩ | ⟨hfailed, hseats⟩
  · exact .inl ⟨hway, fun i hi => hseat i hi _ (hseats i hi)⟩
  · exact .inr ⟨hfailed, fun i hi => hseat i hi _ (hseats i hi)⟩

omit [PaymentGateway G] in
/-- Nobody else works on the booking. -/
theorem Interruptible.writes_ne {w : World (Shared G) Proc} (h : Interruptible w p b seats)
    (hnone : w.shared.db.ticketsOf b = []) (hq : q ≠ p) : (w.proc q).writes ≠ some b := by
  intro hw
  have hapart := h.holds.pair p q (Ne.symm hq)
  have hunread := h.unread hnone q
  generalize w.proc q = Q at hw hapart hunread
  cases Q with
  | booking r pc => exact hapart.booking b h.mine (BookingPc.booking?_of_saga? hw)
  | cancel r pc =>
    obtain ⟨state, hcopy⟩ := CancelPc.copy?_of_booking? hw
    exact hunread state hcopy
  | _ => simp [Proc.writes] at hw

/-- **What is known of an interruptible request stays known.** -/
theorem Interruptible.next {w w' : World (Shared G) Proc} (h : Interruptible w p b seats)
    (hC : OnlyFreed env p seats w q a) (hn : (service env G).next w q a = some w') :
    Interruptible w' p b seats := by
  have hnext := outline_next h.holds hn
  have hunp := Unpinned.next h.holds h.unpinned hn
  have hfreed := fun hq => hC hq w' (by simpa using hn)
  obtain ⟨s', P', hs, rfl⟩ := System.next_eq_some.mp hn
  have hstep := step_of hs
  have hlt := Proc.Outline.booking_lt (h.holds.own p) h.mine
  refine ⟨hnext, hunp, ?_, ?_, ?_, ?_⟩
  · rw [show s'.db.seatIds = w.shared.db.seatIds from hstep.seatIds_eq]
    exact h.mem
  · by_cases hq : q = p
    · subst hq
      have hb := h.mine
      simp only [Function.update_self]
      generalize w.proc q = P at hstep hb
      cases hstep with
      | booking hstep => exact hstep.booking?_kept hb
      | _ => simp [Proc.booking?] at hb
    · simpa [Function.update_of_ne (Ne.symm hq)] using h.mine
  -- nobody cancels a booking that has no ticket
  · intro hnil r state hcopy
    have hnone := hstep.ticketsOf_eq_nil hnil
    by_cases hr : r = q
    · subst hr
      simp only [Function.update_self] at hcopy
      rcases hstep.copy?_cases hcopy with hold | ⟨row, hrow, rfl, hsold⟩
      · exact h.unread hnone r state hold
      · have hne := (h.stage hnone).state_ne hrow
        exact hsold.elim hne.1 hne.2
    · simp only [Function.update_of_ne hr] at hcopy
      exact h.unread hnone r state hcopy
  · intro hnil
    have hnone := hstep.ticketsOf_eq_nil hnil
    -- the request moves on, or somebody frees its rows
    have hst := h.stage hnone
    by_cases hq : q = p
    · subst hq
      have hb := h.mine
      have hown := h.holds.own q
      have hown' := hnext.own q
      have hu := h.unpinned q
      simp only [Function.update_self] at hown'
      generalize w.proc q = P at hstep hb hown hu
      cases hstep with
      | booking hstep =>
        exact hstep.stage (fun b hb => (hown b hb).2) (fun b hb => (hown' b hb).2) hu h.mem hb hst
          hnil
      | _ => simp [Proc.booking?] at hb
    · exact hstep.stage_other h.holds.shared (h.holds.own q) (h.writes_ne hnone hq) hlt (hfreed hq)
        hst

/-- Step 1 leaves a request at the stage under way. -/
theorem Interruptible.opened {w w₁ : World (Shared G) Proc} {r : BookingRequest} {σ : Saga}
    (ho : (outline G).Holds w) (hu : ∀ q, Unpinned w.shared (w.proc q))
    (hp : w.proc p = .booking r .openBooking) (hn : (service env G).next w p a = some w₁)
    (hσ : w₁.proc p = .booking r (.assess σ)) : Interruptible w₁ p σ.bookingId σ.seats := by
  have hnext := outline_next ho hn
  have hunp := Unpinned.next ho hu hn
  obtain ⟨s', P', hs, rfl⟩ := System.next_eq_some.mp hn
  have hstep := step_of hs
  simp only [Function.update_self] at hσ
  subst hσ
  rw [hp] at hstep
  have huuid : σ.bookingId = w.shared.uuid ∧ (∀ i ∈ σ.seats, i.id ∈ w.shared.db.seatIds) ∧
      s'.db.Stage σ.bookingId σ.seats := by
    cases hstep with
    | booking h =>
      generalize hpc : BookingPc.assess σ = pc' at h
      cases h with
      | opensNothing h => rename_i e; cases e <;> simp [raised] at hpc
      | @opens seats flightId flight ref hseats hf hlen hlive hids hflight hpnr htotal href =>
        obtain rfl := BookingPc.assess.inj hpc
        have hspec : ∀ j ∈ seats, j.id ∈ w.shared.db.seatIds ∧ j.row = w.shared.db.seat j.id := by
          intro j hj
          rw [← hseats] at hj
          exact ⟨(mem_lockSeatsForHolds hj).1, (mem_lockSeatsForHolds hj).2.1⟩
        refine ⟨rfl, fun i hi => ?_, _, Function.update_self .., .inl ⟨rfl, fun i hi => ?_⟩⟩
        · obtain ⟨j, hj, rfl⟩ := mem_openedSaga_seats.mp hi
          exact (hspec j hj).1
        · obtain ⟨j, hj, rfl⟩ := mem_openedSaga_seats.mp hi
          have hrow : (openedDb w.shared.db (openedSaga r.payload seats w.shared.uuid ref flightId
              flight) r.userId r.key w.shared.clock seats).seat j.id =
                j.row.pinned w.shared.uuid := by
            rw [openedDb_seat fun i hi => (hspec i hi).2, if_pos (List.mem_map_of_mem hj),
              (hspec j hj).2]
            rfl
          show ((openedDb _ _ _ _ _ _).seat j.id).HeldOrFree _ ∧
            ((openedDb _ _ _ _ _ _).seat j.id).bookingId = _
          rw [hrow]
          exact ⟨.inl ⟨(live_of_expiredSeats_eq_nil hlive hj).1, rfl⟩, rfl⟩
  obtain ⟨hb, hmem, hst⟩ := huuid
  refine ⟨hnext, hunp, ?_, ?_, fun _ q state hcopy => ?_, fun _ => hst⟩
  · rw [show s'.db.seatIds = w.shared.db.seatIds from hstep.seatIds_eq]
    exact hmem
  · simp [Proc.booking?, BookingPc.booking?, BookingPc.saga?]
  · by_cases hq : q = p
    · subst hq
      simp [Proc.copy?] at hcopy
    · simp only [Function.update_of_ne hq] at hcopy
      have hlt := Proc.Outline.copy_lt (ho.own q) hcopy
      rw [hb] at hlt
      exact absurd hlt (lt_irrefl _)

/-- The request `p` moves no more, and nobody else takes its seats. -/
def Interrupted (env : Env) (p : ℕ) (seats : List SeatInstance) (w : World (Shared G) Proc) (q : ℕ)
    (a : Input) : Prop :=
  q ≠ p ∧ OnlyFreed env p seats w q a

instance (p : ℕ) (w : World (Shared G) Proc) (q : ℕ) (a : Input) :
    Decidable (Interrupted env p seats w q a) := inferInstanceAs (Decidable (_ ∧ _))

/-- The booking of an interrupted request stays as it is. -/
theorem Interruptible.run {w w' : World (Shared G) Proc} {as : List (ℕ × Input)}
    (h : Interruptible w p b seats) (hnone : w.shared.db.ticketsOf b = [])
    (hrun : (service env G).Run (Interrupted env p seats) w as w') :
    Interruptible w' p b seats ∧ w'.shared.view b = w.shared.view b := by
  refine hrun.induct (I := fun w' => Interruptible w' p b seats ∧
    w'.shared.view b = w.shared.view b) ⟨h, rfl⟩ ?_
  rintro w₁ q a w₂ ⟨h₁, hview⟩ ⟨hq, hC⟩ hn
  have hnone₁ : w₁.shared.db.ticketsOf b = [] := (congrArg View.tickets hview).trans hnone
  refine ⟨h₁.next hC hn, ?_⟩
  obtain ⟨s', P', hs, rfl⟩ := System.next_eq_some.mp hn
  rw [← hview]
  exact (step_of hs).view_eq_of_ne h₁.holds.shared (h₁.holds.own q) (h₁.writes_ne hnone₁ hq)
    (Proc.Outline.booking_lt (h₁.holds.own p) h₁.mine)

/-- A vacant row stays vacant while it is only freed. -/
theorem vacant_run {w w' : World (Shared G) Proc} {as : List (ℕ × Input)}
    (h : ∀ i ∈ seats, (w.shared.db.seat i.id).Vacant)
    (hrun : (service env G).Run (Interrupted env p seats) w as w') :
    ∀ i ∈ seats, (w'.shared.db.seat i.id).Vacant := by
  refine hrun.induct (I := fun w => ∀ i ∈ seats, (w.shared.db.seat i.id).Vacant) h ?_
  rintro w₁ q a w₂ h₁ ⟨hq, hC⟩ hn i hi
  rcases hC hq w₂ (by simpa using hn) i hi with heq | heq <;> rw [heq]
  · exact h₁ i hi
  · exact ⟨rfl, rfl, rfl, (h₁ i hi).booking⟩

/-- The sweep vacates an unpinned row whose hold has expired. -/
theorem vacant_of_sweep {w w' : World (Shared G) Proc} {x : Draws} {now : Time} {k : SeatId}
    {e : Time} (hq : w.proc q = .sweep (.update now))
    (hn : (service env G).next w q (.go x) = some w') (hvisits : x.missed k = false) (he : e < now)
    (hleft : (w.shared.db.seat k).HeldOrFree (some e))
    (hfree : (w.shared.db.seat k).bookingId = none) : (w'.shared.db.seat k).Vacant := by
  obtain ⟨s', P', hs, rfl⟩ := System.next_eq_some.mp hn
  have hstep := step_of hs
  rw [hq] at hstep
  cases hstep with
  | sweep h =>
    cases h with
    | sweeps hf =>
      show ((sweepExpiredHolds w.shared.db now x.missed).seat k).Vacant
      rw [sweepExpiredHolds_seat]
      rcases hleft with ⟨hheld, hexpiry⟩ | ⟨havailable, hholder, hhold⟩
      · have hsweep : sweepable now (w.shared.db.seat k) = true := by
          simp [sweepable, hheld, hexpiry, hfree, he]
        rw [if_pos ⟨hvisits, hsweep⟩]
        exact ⟨rfl, rfl, rfl, hfree⟩
      · have hsweep : ¬ sweepable now (w.shared.db.seat k) = true := by
          simp [sweepable, havailable]
        rw [if_neg fun h => hsweep h.2]
        exact ⟨havailable, hholder, hhold, hfree⟩

/-- A sweep at most frees the seats. -/
theorem onlyFreed_of_sweep {w : World (Shared G) Proc} {now : Time} (p : ℕ)
    (seats : List SeatInstance) (hq : w.proc q = .sweep (.update now)) (x : Draws) :
    OnlyFreed env p seats w q (.go x) := by
  intro _ w' hn i _
  obtain ⟨s', P', hs, rfl⟩ := System.next_eq_some.mp (Option.mem_def.mp hn)
  have hstep := step_of hs
  rw [hq] at hstep
  cases hstep with
  | sweep h =>
    cases h with
    | sweeps hf =>
      show (sweepExpiredHolds w.shared.db now x.missed).seat i.id = _ ∨
        (sweepExpiredHolds w.shared.db now x.missed).seat i.id = _
      rw [sweepExpiredHolds_seat]
      split
      · exact .inr rfl
      · exact .inl rfl

/-- **The sweep recovers the seats of the sagas that have failed**, and of no others.  A
request commits step 1 and is interrupted before it has issued tickets; nobody else takes
its seats, its holds expire, and after that a sweep visits them.  Then they are available
again exactly if, when the request was interrupted, its booking had failed already. -/
theorem recovered_iff {db : Db} {g : G} {clock now : Time} {r : BookingRequest} {σ : Saga}
    {x : Draws} {w₀ w₁ w₂ w₃ w₄ w₅ : World (Shared G) Proc}
    {as₀ as₁ as₂ as₃ : List (ℕ × Input)} (hdb : db.Initial)
    (h₀ : (service env G).Run (fun _ _ _ => True) (initialWorld db g clock) as₀ w₀)
    (hp : w₀.proc p = .booking r .openBooking) (hopen : (service env G).next w₀ p a = some w₁)
    (hσ : w₁.proc p = .booking r (.assess σ))
    (h₁ : (service env G).Run (OnlyFreed env p σ.seats) w₁ as₁ w₂)
    (hnone : w₂.shared.db.ticketsOf σ.bookingId = [])
    (h₂ : (service env G).Run (Interrupted env p σ.seats) w₂ as₂ w₃)
    (hq : w₃.proc q = .sweep (.update now))
    (hexpired : ∀ i ∈ σ.seats, ∀ e, i.row.holdExpiresAt = some e → e < now)
    (hvisits : ∀ i ∈ σ.seats, x.missed i.id = false)
    (hsweep : (service env G).next w₃ q (.go x) = some w₄)
    (h₃ : (service env G).Run (Interrupted env p σ.seats) w₄ as₃ w₅) :
    (∀ i ∈ σ.seats, (w₅.shared.db.seat i.id).Vacant) ↔
      ∃ row, w₂.shared.db.booking σ.bookingId = some row ∧ row.state.failed = true := by
  have hI₁ := Interruptible.opened (outline_holds hdb h₀) (unpinned_holds hdb h₀) hp hopen hσ
  have hbefore : σ.Before r.userId .pending (w₁.shared.view σ.bookingId) := by
    have hown := hI₁.holds.own p
    rw [hσ] at hown
    exact (hown σ.bookingId rfl).2.1
  have hI₂ := h₁.induct (I := fun w => Interruptible w p σ.bookingId σ.seats) hI₁
    fun w q a w' hI hC hn => hI.next hC hn
  obtain ⟨hI₃, hview₃⟩ := hI₂.run hnone h₂
  have hqp : q ≠ p := by
    rintro rfl
    have hmine := hI₃.mine
    rw [hq] at hmine
    simp [Proc.booking?] at hmine
  obtain ⟨row, hrow, hstage⟩ := hI₂.stage hnone
  rcases hstage with ⟨hway, -⟩ | ⟨hfailed, -⟩
  · -- the saga was under way, and its seats stay pinned
    have hrun := (h₂.snoc ⟨hqp, onlyFreed_of_sweep p σ.seats hq x⟩ hsweep).trans h₃
    obtain ⟨hI₅, hview₅⟩ := hI₂.run hnone hrun
    have hst₅ := hI₅.stage ((congrArg View.tickets hview₅).trans hnone)
    have hrow₅ : w₅.shared.db.booking σ.bookingId = some row :=
      (congrArg View.row hview₅).trans hrow
    have hstate₅ : ∀ row', w₅.shared.db.booking σ.bookingId = some row' →
        row'.state = row.state := by
      intro row' hrow'
      rw [Option.some.inj (hrow'.symm.trans hrow₅)]
    have hpinned := hst₅.pinned hstate₅ hway
    refine iff_of_false (fun hvacant => ?_) ?_
    · obtain ⟨i, hi⟩ := List.exists_mem_of_ne_nil _ hbefore.seated.nonempty
      have hnopin := (hvacant i hi).booking
      rw [(hpinned i hi).2] at hnopin
      simp at hnopin
    · rintro ⟨row', hrow', hfailed⟩
      obtain rfl : row = row' := Option.some.inj (hrow.symm.trans hrow')
      cases hs : row.state <;> simp_all [BookingState.underWay, BookingState.failed]
  · -- the saga had ended, and its seats were plain holds again
    refine iff_of_true (vacant_run (fun i hi => ?_) h₃) ⟨row, hrow, hfailed⟩
    obtain ⟨e, he⟩ := Option.isSome_iff_exists.mp (hbefore.pinned.expiry i hi)
    have hrow₃ : w₃.shared.db.booking σ.bookingId = some row :=
      (congrArg View.row hview₃).trans hrow
    obtain ⟨row', hrow', hstage⟩ := hI₃.stage ((congrArg View.tickets hview₃).trans hnone)
    obtain rfl : row = row' := Option.some.inj (hrow₃.symm.trans hrow')
    rcases hstage with ⟨hway, -⟩ | ⟨-, hseats⟩
    · cases hs : row.state <;> simp_all [BookingState.underWay, BookingState.failed]
    · obtain ⟨hleft, hfree⟩ := hseats i hi
      rw [he] at hleft
      exact vacant_of_sweep hq hsweep (hvisits i hi) (hexpired i hi e he) hleft hfree

/-! ### Two runs -/

/-- A user takes a hold and books it with the card, up to step 1. -/
def openingSaga (cardToken : String) : List (ℕ × Input) :=
  asks 0 (.createHold ⟨10, 7, "1A"⟩) 3 (.calm 0) ++
    asks 1 (.createBooking ⟨10, "key-of-ada-00000001", soloBody 0 cardToken⟩) 3 (.calm 1)

/-- The time at which a process that is about to sweep has started. -/
def Proc.sweeping? : Proc → Option Time
  | .sweep (.update now) => some now
  | _ => none

theorem Proc.sweeping?_eq_some {now : Time} (h : P.sweeping? = some now) :
    P = .sweep (.update now) := by
  unfold sweeping? at h
  split at h
  · obtain rfl := Option.some.inj h
    rfl
  · simp at h

/-- A decline is committed, and the request dies before it has answered. -/
theorem recovered_iff_declined : ∃ w₀ w₁ w₂ w₃ w₄ r σ,
    (service demoEnv FakePaymentGateway).Run (fun _ _ _ => True) (onSale 1)
        (openingSaga "tok_test_aaaa11110002") w₀ ∧
      (service demoEnv FakePaymentGateway).next w₀ 1 (.go (.calm 1)) = some w₁ ∧
      w₁.proc 1 = .booking r (.assess σ) ∧
      (service demoEnv FakePaymentGateway).Run (OnlyFreed demoEnv 1 σ.seats) w₁
        (moves 1 5 (.calm 1)) w₂ ∧
      (w₂.shared.db.booking σ.bookingId).map Booking.state = some .paymentFailed ∧
      (service demoEnv FakePaymentGateway).Run (Interrupted demoEnv 1 σ.seats) w₂
        (waits 2 (seconds 601) ++ [(3, .arrive .sweep)]) w₃ ∧
      (service demoEnv FakePaymentGateway).next w₃ 3 (.go (.calm 1)) = some w₄ ∧
      ∀ i ∈ σ.seats, (w₄.shared.db.seat i.id).Vacant := by
  have hrun : ((service demoEnv FakePaymentGateway).checked (fun _ _ _ => True) (onSale 1)
      (openingSaga "tok_test_aaaa11110002")).any (fun w₀ => (w₀.proc 1).opening?.any fun _ =>
        ((service demoEnv FakePaymentGateway).next w₀ 1 (.go (.calm 1))).any fun w₁ =>
          (w₁.proc 1).opened?.any fun o =>
            decide (∀ i ∈ o.2.seats, i.row.holdExpiresAt = some (seconds 600)) &&
            ((service demoEnv FakePaymentGateway).checked (OnlyFreed demoEnv 1 o.2.seats) w₁
              (moves 1 5 (.calm 1))).any fun w₂ =>
                decide (w₂.shared.db.ticketsOf o.2.bookingId = [] ∧
                  (w₂.shared.db.booking o.2.bookingId).map Booking.state = some .paymentFailed) &&
                ((service demoEnv FakePaymentGateway).checked (Interrupted demoEnv 1 o.2.seats) w₂
                  (waits 2 (seconds 601) ++ [(3, .arrive .sweep)])).any fun w₃ =>
                    decide ((w₃.proc 3).sweeping? = some (seconds 601)) &&
                      ((service demoEnv FakePaymentGateway).next w₃ 3 (.go (.calm 1))).isSome) =
                        true := by
    decide +kernel
  obtain ⟨w₀, h₀, htest⟩ := System.exists_run_of_checked hrun
  obtain ⟨r₀, hp, htest⟩ := (Option.any_eq_true _ _).mp htest
  obtain ⟨w₁, hopen, htest⟩ := (Option.any_eq_true _ _).mp htest
  obtain ⟨⟨r, σ⟩, hσ, htest⟩ := (Option.any_eq_true _ _).mp htest
  obtain ⟨hexpiry, htest⟩ := Bool.and_eq_true_iff.mp htest
  obtain ⟨w₂, h₁, htest⟩ := System.exists_run_of_checked htest
  obtain ⟨hdb, htest⟩ := Bool.and_eq_true_iff.mp htest
  obtain ⟨w₃, h₂, htest⟩ := System.exists_run_of_checked htest
  obtain ⟨hq, hn⟩ := Bool.and_eq_true_iff.mp htest
  obtain ⟨w₄, hsweep⟩ := Option.isSome_iff_exists.mp hn
  obtain ⟨hnone, hstate⟩ := of_decide_eq_true hdb
  have hp := Proc.opening?_eq_some hp
  have hσ := Proc.opened?_eq_some hσ
  have hq := Proc.sweeping?_eq_some (of_decide_eq_true hq)
  obtain ⟨pc, hpc⟩ := exists_booking_of_next hp hopen
  obtain ⟨rfl, -⟩ := Proc.booking.inj (hpc.symm.trans hσ)
  obtain ⟨row, hrow, hfailed⟩ := Option.map_eq_some_iff.mp hstate
  refine ⟨w₀, w₁, w₂, w₃, w₄, r₀, σ, h₀, hopen, hσ, h₁, hstate, h₂, hsweep, ?_⟩
  refine (recovered_iff (Db.seeded_initial _ _ _ _) h₀ hp hopen hσ h₁ hnone h₂ hq ?_
    (fun _ _ => rfl) hsweep .nil).mpr ⟨row, hrow, by rw [hfailed]; rfl⟩
  intro i hi e he
  rw [of_decide_eq_true hexpiry i hi] at he
  obtain rfl := Option.some.inj he
  decide

/-- **A seat that stays held after its hold has expired**: the request dies right after
step 1, and the sweep lets its seat be. -/
theorem stranded : ∃ w₂ w₄ r σ,
    (service demoEnv FakePaymentGateway).Run (fun _ _ _ => True) (onSale 1)
        (openingSaga "tok_test_aaaa11110000" ++ moves 1 1 (.calm 1)) w₂ ∧
      w₂.proc 1 = .booking r (.assess σ) ∧ σ.seats.map Orm.Instance.id = [0] ∧
      (service demoEnv FakePaymentGateway).Run (Interrupted demoEnv 1 σ.seats) w₂
        (waits 2 (seconds 601) ++ asks 3 .sweep 1 (.calm 1)) w₄ ∧
      (w₄.shared.db.seat 0).holdExpiresAt = some (seconds 600) ∧ w₄.shared.clock = seconds 601 ∧
      (w₄.shared.db.seat 0).status = .held ∧ ¬ (w₄.shared.db.seat 0).Vacant := by
  have hrun : ((service demoEnv FakePaymentGateway).checked (fun _ _ _ => True) (onSale 1)
      (openingSaga "tok_test_aaaa11110000" ++ moves 1 1 (.calm 1))).any (fun w₂ =>
        (w₂.proc 1).opened?.any fun o => decide (o.2.seats.map Orm.Instance.id = [0]) &&
          ((service demoEnv FakePaymentGateway).checked (Interrupted demoEnv 1 o.2.seats) w₂
            (waits 2 (seconds 601) ++ asks 3 .sweep 1 (.calm 1))).any fun w₄ =>
              decide ((w₄.shared.db.seat 0).holdExpiresAt = some (seconds 600) ∧
                w₄.shared.clock = seconds 601 ∧ (w₄.shared.db.seat 0).status = .held ∧
                  ¬ (w₄.shared.db.seat 0).Vacant)) = true := by
    decide +kernel
  obtain ⟨w₂, h₂, htest⟩ := System.exists_run_of_checked hrun
  obtain ⟨⟨r, σ⟩, hσ, htest⟩ := (Option.any_eq_true _ _).mp htest
  obtain ⟨hids, htest⟩ := Bool.and_eq_true_iff.mp htest
  obtain ⟨w₄, h₄, htest⟩ := System.exists_run_of_checked htest
  exact ⟨w₂, w₄, r, σ, h₂, Proc.opened?_eq_some hσ, of_decide_eq_true hids, h₄,
    of_decide_eq_true htest⟩

end SkyLock
