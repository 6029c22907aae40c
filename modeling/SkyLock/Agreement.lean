import SkyLock.Scripts
import SkyLock.Ticketing

/-!
# Seats, tickets and bookings agree

A booking has a live ticket for each of its passengers or none at all, and its
state says which.  That is so in every run.  That a seat is booked exactly when a
live ticket names it, and for that ticket's booking, depends on the ticketing
transaction: it marks a row booked and leaves alone the booking the row is pinned
to, so it must find its own there.

## Main definitions

* `SeatingStep` — what a step does to the seats and the tickets together.
* `View.Fits` — the tickets a booking in a given state has.
* `Occupancy` — the booked rows are those of the live tickets.
* `Agree` — the three tables agree.
* `TicketsOwn` — ticketing finds its rows pinned to its own booking, or rolls back.

## Main results

* `fits_holds` — **all or nothing**: a booking's state says what tickets it has.
* `tables_agree` — **the tables agree where ticketing finds its own rows**.
* `agree_repinned` — a second saga of the same user breaks the agreement.
-/

namespace SkyLock

open Concurrent

variable {G : Type} [PaymentGateway G] {env : Env} {s s' : Shared G} {p : ℕ}

/-! ### Seats and tickets together -/

/-- What a step from the local state `P` to `P'` does to the seats and the tickets. -/
inductive SeatingStep (s s' : Shared G) : Proc → Proc → Prop
  | quiet {P P' : Proc} (htickets : s'.db.tickets = s.db.tickets)
      (hseats : ∀ k, s'.db.seat k = s.db.seat k ∨
        (s.db.seat k).status ≠ .booked ∧ (s'.db.seat k).status ≠ .booked) : SeatingStep s s' P P'
  | issues {r : BookingRequest} {σ σ' : Saga} {pay : Payment} {x : Draws}
      (hbefore : σ.Before r.userId .paymentAuthorized (s.view σ.bookingId))
      (hiss : Issuable s.db σ x)
      (hseats : s'.db.seat =
        (s.db.flushSeats (ticketedSeats σ.bookingId (σ.passengers.zip σ.seats))).seat)
      (htickets : s'.db.tickets = newTickets σ.bookingId s.uuid s.clock x.eTicketNo
        (σ.passengers.zip σ.seats) ++ s.db.tickets) :
      SeatingStep s s' (.booking r (.issueTickets σ pay)) (.booking r (.capture σ' pay))
  | returns {P P' : Proc} {b : BookingId} (hP : P.returning? = some b)
      (hseats : ∀ k, s'.db.seat k =
        if (s.db.seat k).bookingId = some b then (s.db.seat k).returned else s.db.seat k)
      (htickets : s'.db.tickets = (voidTickets s.db b s.clock).tickets) : SeatingStep s s' P P'

omit [PaymentGateway G] in
/-- A row a step that keeps the tickets writes is booked neither before nor after. -/
theorem SeatWrite.not_booked {k : SeatId} {P P' : Proc} {row : SeatInventory}
    (h : SeatWrite env s k P P' row) (hP : P.returning? = none)
    (hP' : ∀ r σ pay, P' ≠ .booking r (.capture σ pay)) :
    row = s.db.seat k ∨ (s.db.seat k).status ≠ .booked ∧ row.status ≠ .booked := by
  cases h with
  | kept => exact .inl rfl
  | pins _ _ _ hstatus =>
    exact .inr ⟨by rw [hstatus]; decide, by simp [SeatInventory.pinned, hstatus]⟩
  | unpins _ hstatus => exact .inr ⟨hstatus, hstatus⟩
  | tickets => exact absurd rfl (hP' _ _ _)
  | returns hret => simp [hret] at hP
  | acquires _ _ htake =>
    refine .inr ⟨fun hbooked => ?_, by simp [SeatInventory.heldBy]⟩
    simp [takeable, hbooked] at htake
  | releases hrel =>
    refine .inr ⟨fun hbooked => ?_, by simp [SeatInventory.freed]⟩
    simp [releasable, hbooked] at hrel
  | sweeps hsweep =>
    refine .inr ⟨fun hbooked => ?_, by simp [SeatInventory.freed]⟩
    simp [sweepable, hbooked] at hsweep

theorem Step.seating {P P' : Proc} {a : Input} (h : Step env s p P a s' P') (ht : Tables s)
    (ho : P.Outline s) (hlive : s.db.LiveUnique) : SeatingStep s s' P P' := by
  have hquiet : P.returning? = none → (∀ r σ pay, P' ≠ .booking r (.capture σ pay)) →
      s'.db.tickets = s.db.tickets → SeatingStep s s' P P' := fun hP hP' htickets =>
    .quiet htickets fun k => (h.seatWrite ho k).not_booked hP hP'
  cases h
  case booking r x pc pc' h =>
    have h' := h
    cases h
    case issues σ pay assigned rows hf hlost htrig hassigned hunique hchecked hcan hseq hrows =>
      have hbefore := (ho σ.bookingId rfl).2.1
      rcases h'.issue_cases ht hbefore hlive htrig with
        ⟨hiss, σ', -, hpc, hseats, htickets⟩ | ⟨-, -, e, hpc⟩
      · exact .issues hbefore hiss hseats htickets
      · simp at hpc
    case voids σ pay reason hf h => exact .returns rfl (fun k => voidedDb_seat k) rfl
    case flags σ pay reason error hf => exact .returns rfl (fun k => finishReview_seat error k) rfl
    case voidIllegal => exact .quiet rfl fun k => .inl rfl
    case authorizes result _ | retries result _ =>
      refine hquiet rfl (fun r' σ pay hpc => ?_) rfl
      cases hr : result.approved <;> simp [afterAuthorize, hr] at hpc
    case opensNothing e _ => cases e <;> exact hquiet rfl (by simp [raised]) rfl
    case selectIllegal h | recordIllegal h | confirmIllegal h =>
      exact .quiet rfl fun k => .inl rfl
    case refuseIllegal | issueRolledBack => exact .quiet rfl fun k => .inl rfl
    all_goals exact hquiet rfl (by simp) rfl
  case cancel r x pc pc' h =>
    cases h
    case finishes b state refunded h hseq => exact .returns rfl (fun k => cancelledDb_seat k) rfl
    all_goals exact .quiet rfl fun k => .inl rfl
  case hold r x pc pc' h => cases h <;> exact hquiet rfl (by simp) rfl
  case release r x pc pc' h => cases h <;> exact hquiet rfl (by simp) rfl
  case sweep x pc pc' h =>
    cases h
    exact hquiet rfl (by simp) rfl
  case arrive r => exact .quiet rfl fun k => .inl rfl
  case tick => exact .quiet rfl fun k => .inl rfl

/-! ### All or nothing -/

/-- No passenger of the booking has a live ticket. -/
def View.Bare (V : View) : Prop := ∀ t ∈ V.tickets, t.voidedAt ≠ none

/-- The tickets a booking in the given state has. -/
def View.Fits (V : View) : BookingState → Prop
  | .ticketed | .confirmed => V.Whole
  | .needsManualReview => V.Bare ∨ V.Whole
  | _ => V.Bare

omit [PaymentGateway G] in
theorem bare_of_nil {V : View} (h : V.tickets = []) : V.Bare := by
  intro t ht
  rw [h] at ht
  simp at ht

/-- Whatever its state, a booking has all of its tickets or none. -/
theorem View.Fits.bare_or_whole {V : View} {state : BookingState} (h : V.Fits state) :
    V.Bare ∨ V.Whole := by
  cases state
  case ticketed | confirmed => exact .inr h
  case needsManualReview => exact h
  all_goals exact .inl h

/-- A booking that has been voided has no live ticket. -/
theorem bare_voidTickets {V : View} {db : Db} {b : BookingId} {now : Time}
    (h : V.tickets = (voidTickets db b now).ticketsOf b) : V.Bare := by
  intro t ht
  rw [h] at ht
  obtain ⟨hmem, hb⟩ := Db.mem_ticketsOf.mp ht
  obtain ⟨t₀, -, rfl⟩ := List.mem_map.mp hmem
  split
  · simp
  · next hcond =>
    rw [if_neg hcond] at hb
    exact fun hnone => hcond ⟨hb, hnone⟩

/-- What a step of its own saga or of a cancellation leaves of a booking fits its
state. -/
theorem Step.fits_own {P P' : Proc} {a : Input} (h : Step env s p P a s' P') (ht : Tables s)
    (ho : P.Outline s) {b : BookingId} (hw : P.writes = some b)
    (hfits : ∀ row, (s.view b).row = some row → (s.view b).Fits row.state) {row' : Booking}
    (hrow' : (s'.view b).row = some row') : (s'.view b).Fits row'.state := by
  have hmover := h.mover ht ho
  -- a step that keeps the row, the passengers and the tickets keeps the fit
  have hsame : (s'.view b).row = (s.view b).row → (s'.view b).passengers = (s.view b).passengers →
      (s'.view b).tickets = (s.view b).tickets → (s'.view b).Fits row'.state := by
    intro hr hq htk
    have hfit := hfits row' (hr ▸ hrow')
    unfold View.Fits View.Whole View.Bare at hfit ⊢
    rw [hq, htk]
    exact hfit
  -- a move to a state that asks for no tickets
  have hbare : ∀ (loaded current : BookingState), loaded ≠ current →
      (s'.view b).row = (s.view b).row.map (Booking.merge loaded current) → (s'.view b).Bare →
      (∀ V : View, V.Bare → V.Fits current) → (s'.view b).Fits row'.state := by
    intro loaded current hne hr hb hfit
    rw [hr] at hrow'
    obtain ⟨row, -, rfl⟩ := Option.map_eq_some_iff.mp hrow'
    rw [Booking.merge_state, Orm.writeBack_dirty _ hne.symm]
    exact hfit _ hb
  cases h
  case booking r x pc pc' h =>
    cases h
    case opens => exact absurd hw (by simp [Proc.writes, BookingPc.saga?])
    case fails σ f rows hf h =>
      obtain rfl := Option.some.inj hw
      have hbefore := (ho σ.bookingId rfl).2.1
      refine hbare _ _ (by rw [hbefore.state]; decide) Db.flushBookingState_self
        (bare_of_nil ?_) fun V hV => hV
      exact hbefore.tickets
    case recordsAuthorized σ pay result h _ =>
      obtain rfl := Option.some.inj hw
      have hbefore := (ho σ.bookingId rfl).2.1
      exact hbare _ _ (by rw [hbefore.state]; decide) Db.flushBookingState_self
        (bare_of_nil hbefore.tickets) fun V hV => hV
    case issues σ pay assigned rows hf hlost htrig hassigned hunique hchecked hcan hseq hrows =>
      obtain rfl := Option.some.inj hw
      have hticketed := (hmover σ.bookingId rfl).2.1
      obtain ⟨row, hr, -, hs⟩ := hticketed.recorded.row
      rw [hrow'] at hr
      obtain rfl := Option.some.inj hr
      rcases hs with hs | hs <;> rw [hs]
      · exact hticketed.whole
      · exact .inr hticketed.whole
    case refuses σ pay rows reason hf h hcan hrows =>
      obtain rfl := Option.some.inj hw
      have hbefore := (ho σ.bookingId rfl).2.1
      exact hbare _ _ (by rw [hbefore.state]; decide) Db.flushBookingState_self
        (bare_of_nil hbefore.tickets) fun V hV => hV
    case voids σ pay reason hf h =>
      obtain rfl := Option.some.inj hw
      have hbefore := (ho σ.bookingId rfl).2.1
      exact hbare _ _ (by rw [hbefore.state]; decide) Db.flushBookingState_self
        (bare_voidTickets rfl) fun V hV => hV
    case flags σ pay reason error hf =>
      obtain rfl := Option.some.inj hw
      have hbefore := (ho σ.bookingId rfl).2.1
      exact hbare _ _ (by rw [hbefore.state]; decide) Db.flushBookingState_self
        (bare_voidTickets rfl) fun V hV => .inl hV
    case confirms σ pay h hseq =>
      obtain rfl := Option.some.inj hw
      have hticketed := (ho σ.bookingId rfl).2.1
      have hr : ((s.withDb (confirmedDb s.db σ pay)).view σ.bookingId).row =
          (s.view σ.bookingId).row.map (Booking.merge σ.state .confirmed) :=
        Db.flushBookingState_self
      rw [hr] at hrow'
      obtain ⟨row, -, rfl⟩ := Option.map_eq_some_iff.mp hrow'
      rw [Booking.merge_state, Orm.writeBack_dirty _ (by rw [hticketed.state]; decide)]
      exact hticketed.whole
    all_goals exact hsame rfl rfl rfl
  case cancel r x pc pc' h =>
    cases h
    case finishes b' state refunded h hseq =>
      obtain rfl := Option.some.inj hw
      have hcopy := (ho b' rfl).2.state _ rfl
      refine hbare state .cancelled ?_ Db.flushBookingState_self (bare_voidTickets rfl)
        fun V hV => hV
      rcases hcopy with hs | hs <;> simp only at hs <;> rw [hs] <;> decide
    case reviews b' state error hseq =>
      obtain rfl := Option.some.inj hw
      have hcopy := (ho b' rfl).2.state _ rfl
      have hr : ((s.withDb (reviewedDb s.db b' state error)).view b').row =
          (s.view b').row.map (Booking.merge state .needsManualReview) := Db.flushBookingState_self
      have hrow : ((s.withDb (reviewedDb s.db b' state error)).view b').row = some row' := hrow'
      rw [hr] at hrow
      obtain ⟨row, hrow₀, rfl⟩ := Option.map_eq_some_iff.mp hrow
      have hne : BookingState.needsManualReview ≠ state := by
        rcases hcopy with hs | hs <;> simp only at hs <;> rw [hs] <;> decide
      rw [Booking.merge_state, Orm.writeBack_dirty _ hne]
      exact (hfits row hrow₀).bare_or_whole
    all_goals exact hsame rfl rfl rfl
  all_goals exact absurd hw (by simp [Proc.writes])

/-- One step keeps every booking's tickets fitting its state. -/
theorem Step.fits {P P' : Proc} {a : Input} (h : Step env s p P a s' P') (ht : Tables s)
    (ho : P.Outline s) (hfits : ∀ b row, (s.view b).row = some row → (s.view b).Fits row.state)
    (b : BookingId) (row' : Booking) (hrow' : (s'.view b).row = some row') :
    (s'.view b).Fits row'.state := by
  by_cases hw : P.writes = some b
  · exact h.fits_own ht ho hw (hfits b) hrow'
  rcases h.view_cases ht ho hw hrow' with hsame | ⟨hpending, hnone⟩
  · rw [hsame] at hrow' ⊢
    exact hfits b row' hrow'
  · rw [hpending]
    exact bare_of_nil hnone

/-- **All or nothing**: in every reachable world, a booking's state says what
tickets it has. -/
theorem fits_holds {C : World (Shared G) Proc → ℕ → Input → Prop} {db : Db} {g : G} {clock : Time}
    {w : World (Shared G) Proc} {as : List (ℕ × Input)} (hdb : db.Initial)
    (h : (service env G).Run C (initialWorld db g clock) as w) (b : BookingId) (row : Booking)
    (hrow : w.shared.db.booking b = some row) : (w.shared.view b).Fits row.state := by
  have hboth : (outline G).Holds w ∧ ∀ b row, (w.shared.view b).row = some row →
      (w.shared.view b).Fits row.state := by
    refine h.induct (I := fun w => (outline G).Holds w ∧ ∀ b row, (w.shared.view b).row = some row →
      (w.shared.view b).Fits row.state) ?_ ?_
    · refine ⟨outline_initial hdb g clock, fun b row hrow => ?_⟩
      simp [initialWorld, hdb.booking] at hrow
    · rintro w₁ p a w₂ ⟨hw, hfits⟩ - hn
      refine ⟨outline_next hw hn, ?_⟩
      obtain ⟨s', P', hs, rfl⟩ := System.next_eq_some.mp hn
      exact (step_of hs).fits hw.shared (hw.own p) hfits
  exact hboth.2 b row hrow

/-! ### Booked rows and live tickets -/

/-- The booked rows are those of the live tickets, and each is its ticket's
booking's. -/
structure Occupancy (db : Db) : Prop where
  live : ∀ t ∈ db.liveTickets, (db.seat t.seatInventoryId).status = .booked ∧
    (db.seat t.seatInventoryId).bookingId = some t.bookingId
  booked : ∀ k, (db.seat k).status = .booked → ∃ t ∈ db.liveTickets, t.seatInventoryId = k

/-- Ticketing the seats of `σ` finds every row pinned to its own booking, or a
constraint stops it: some row is pinned to none or has a live ticket. -/
def Db.Untangled (db : Db) (σ : Saga) : Prop :=
  (∀ i ∈ σ.seats, (db.seat i.id).bookingId = some σ.bookingId) ∨
    ∃ i ∈ σ.seats, (db.seat i.id).bookingId = none ∨
      ∃ t ∈ db.liveTickets, t.seatInventoryId = i.id

omit [PaymentGateway G] in
theorem SeatingStep.occupancy {P P' : Proc} (h : SeatingStep s s' P P') (ho : Occupancy s.db)
    (hown : ∀ r σ pay, P = .booking r (.issueTickets σ pay) → s.db.Untangled σ) :
    Occupancy s'.db := by
  cases h with
  | quiet htickets hseats =>
    -- nothing is ticketed, and a row that changes was not booked and is not now
    have hlive := liveTickets_congr htickets
    refine ⟨fun t ht => ?_, fun k hk => ?_⟩
    · obtain ⟨hbooked, hb⟩ := ho.live t (hlive ▸ ht)
      rcases hseats t.seatInventoryId with hsame | ⟨hnot, -⟩
      · rw [hsame]
        exact ⟨hbooked, hb⟩
      · exact absurd hbooked hnot
    · rcases hseats k with hsame | ⟨-, hnot⟩
      · rw [hlive]
        exact ho.booked k (hsame ▸ hk)
      · exact absurd hk hnot
  | @issues r σ σ' pay x hbefore hiss hseats htickets =>
    have hassigned := hbefore.seated.assigned_eq
    obtain ⟨hcolumn, -, -⟩ := newTickets_columns hbefore.seated hassigned σ.bookingId s.uuid
      s.clock x.eTicketNo
    have hlive : s'.db.liveTickets = newTickets σ.bookingId s.uuid s.clock x.eTicketNo
        (σ.passengers.zip σ.seats) ++ s.db.liveTickets := by
      rw [← liveTickets_insertTickets fun t ht => ?_]
      · exact liveTickets_congr htickets
      · obtain ⟨_, _, _, _, _, hvoid⟩ := mem_newTickets ht
        exact hvoid
    -- no constraint has objected, so all the rows are pinned to the saga's own booking
    have hmine : ∀ i ∈ σ.seats, (s.db.seat i.id).bookingId = some σ.bookingId := by
      rcases hown r σ pay rfl with hmine | ⟨i, hi, hnone | ⟨t, ht, hseat⟩⟩
      · exact hmine
      · have hsome := hiss.pinned i hi
        rw [hnone] at hsome
        simp at hsome
      · exact absurd hseat (hiss.insertable.seats i hi t ht)
    have hnew : ∀ k ∈ σ.seats.map Orm.Instance.id, (s'.db.seat k).status = .booked ∧
        (s'.db.seat k).bookingId = some σ.bookingId := by
      intro k hk
      obtain ⟨v, hv⟩ := hbefore.issued_seat hassigned s.db hk
      obtain ⟨i, hi, rfl⟩ := List.mem_map.mp hk
      rw [hseats, hv]
      exact ⟨rfl, hmine i hi⟩
    have hold : ∀ k, k ∉ σ.seats.map Orm.Instance.id → s'.db.seat k = s.db.seat k := by
      intro k hk
      rw [hseats]
      exact flushTicketed_seat_of_notMem ((hbefore.seated.assigned_ids hassigned).symm ▸ hk)
    refine ⟨fun t ht => ?_, fun k hk => ?_⟩
    · rw [hlive] at ht
      rcases List.mem_append.mp ht with ht | ht
      -- a new ticket is on one of the seats, an old one on another
      · have hk : t.seatInventoryId ∈ σ.seats.map Orm.Instance.id := by
          rw [← hcolumn]
          exact List.mem_map_of_mem ht
        rw [newTickets_bookingId ht]
        exact hnew _ hk
      · rw [hold]
        · exact ho.live t ht
        · intro hk
          obtain ⟨i, hi, hid⟩ := List.mem_map.mp hk
          exact hiss.insertable.seats i hi t ht hid.symm
    · rw [hlive]
      by_cases hmem : k ∈ σ.seats.map Orm.Instance.id
      · rw [← hcolumn] at hmem
        obtain ⟨t, ht, hseat⟩ := List.mem_map.mp hmem
        exact ⟨t, List.mem_append_left _ ht, hseat⟩
      · obtain ⟨t, ht, hseat⟩ := ho.booked k (hold k hmem ▸ hk)
        exact ⟨t, List.mem_append_right _ ht, hseat⟩
  | @returns _ _ b hP hseats htickets =>
    have hlive : s'.db.liveTickets = s.db.liveTickets.filter fun t => t.bookingId ≠ b := by
      rw [← liveTickets_voidTickets s.db b s.clock]
      exact liveTickets_congr htickets
    -- the tickets of the booking are voided, and its seats are given back
    refine ⟨fun t ht => ?_, fun k hk => ?_⟩
    · rw [hlive] at ht
      obtain ⟨hmem, hne⟩ := List.mem_filter.mp ht
      obtain ⟨hbooked, hb⟩ := ho.live t hmem
      rw [hseats, if_neg]
      · exact ⟨hbooked, hb⟩
      · rw [hb]
        simpa using hne
    · rw [hseats] at hk
      split at hk
      · simp [SeatInventory.returned, SeatInventory.freed] at hk
      · next hne =>
        obtain ⟨t, ht, rfl⟩ := ho.booked k hk
        rw [(ho.live t ht).2] at hne
        refine ⟨t, ?_, rfl⟩
        rw [hlive]
        exact List.mem_filter.mpr ⟨ht, by simpa using hne⟩

/-! ### The three tables -/

/-- Seats, tickets and bookings agree. -/
structure Agree (db : Db) : Prop where
  /-- A seat is booked exactly when exactly one live ticket names it. -/
  booked : ∀ k, (db.seat k).status = .booked ↔
    ∃! t, t ∈ db.liveTickets ∧ t.seatInventoryId = k
  /-- A booked seat is its ticket's booking's. -/
  owner : ∀ t ∈ db.liveTickets, (db.seat t.seatInventoryId).bookingId = some t.bookingId
  /-- A ticketed or confirmed booking has one live ticket per passenger. -/
  sold : ∀ b row, db.booking b = some row → row.state = .ticketed ∨ row.state = .confirmed →
    ∀ q ∈ db.passengersOf b, ∃! t, t ∈ db.liveTickets ∧ t.bookingId = b ∧ t.passengerId = q.id
  /-- Its tickets are for distinct seats of its flight. -/
  seats : ∀ b row, db.booking b = some row → ∀ t ∈ db.liveTickets, t.bookingId = b →
    t.seatInventoryId ∈ db.seatIds ∧ (db.seat t.seatInventoryId).flightId = row.flightId ∧
      ∀ t' ∈ db.liveTickets, t'.seatInventoryId = t.seatInventoryId → t' = t
  /-- A booking that is not sold has no live ticket. -/
  unsold : ∀ b row, db.booking b = some row →
    row.state ∈ [.pending, .paymentAuthorized, .paymentFailed, .voided, .cancelled] →
      ∀ t ∈ db.liveTickets, t.bookingId ≠ b
  /-- A flight has no more live tickets than seats. -/
  flights : ∀ f, (db.liveTickets.filter fun t =>
      (db.seat t.seatInventoryId).flightId = f).length ≤
    (db.seatIds.filter fun k => (db.seat k).flightId = f).length
  /-- A booking is all or nothing. -/
  whole : ∀ b row, db.booking b = some row → (∀ t ∈ db.liveTickets, t.bookingId ≠ b) ∨
    ∀ q ∈ db.passengersOf b, ∃ t ∈ db.liveTickets, t.bookingId = b ∧ t.passengerId = q.id

omit [PaymentGateway G] in
theorem View.Bare.notMem {b : BookingId} (h : (s.view b).Bare) {t : Ticket}
    (ht : t ∈ s.db.liveTickets) : t.bookingId ≠ b := by
  rintro rfl
  obtain ⟨hmem, hvoid⟩ := mem_liveTickets.mp ht
  exact h t (Db.mem_ticketsOf.mpr ⟨hmem, rfl⟩) hvoid

omit [PaymentGateway G] in
theorem View.Whole.exists_live {b : BookingId} (h : (s.view b).Whole) {q : BookingPassenger}
    (hq : q ∈ s.db.passengersOf b) :
    ∃ t ∈ s.db.liveTickets, t.bookingId = b ∧ t.passengerId = q.id := by
  obtain ⟨t, ht, hid, hvoid⟩ := h q hq
  obtain ⟨hmem, hb⟩ := Db.mem_ticketsOf.mp ht
  exact ⟨t, mem_liveTickets.mpr ⟨hmem, hvoid⟩, hb, hid⟩

omit [PaymentGateway G] in
/-- A live ticket's seat is on its booking's flight. -/
theorem Tables.seat_of_ticket (ht : Tables s) {t : Ticket} (hmem : t ∈ s.db.liveTickets)
    {row : Booking} (hrow : s.db.booking t.bookingId = some row) :
    t.seatInventoryId ∈ s.db.seatIds ∧
      (s.db.seat t.seatInventoryId).flightId = row.flightId := by
  obtain ⟨q, hq, -, hqb, hseat⟩ := ht.seated t (mem_liveTickets.mp hmem).1
  obtain ⟨k, hk, hqk, row', hrow', hflight⟩ := ht.onFlight q hq
  obtain rfl : t.seatInventoryId = k := Option.some.inj (hseat.symm.trans hqk)
  rw [hqb, hrow] at hrow'
  obtain rfl := Option.some.inj hrow'
  exact ⟨hk, hflight⟩

omit [PaymentGateway G] in
theorem agree_of (ht : Tables s) (hlive : s.db.LiveUnique) (hocc : Occupancy s.db)
    (hfits : ∀ b row, s.db.booking b = some row → (s.view b).Fits row.state) : Agree s.db := by
  have hseat : ∀ t ∈ s.db.liveTickets, ∀ t' ∈ s.db.liveTickets,
      t'.seatInventoryId = t.seatInventoryId → t' = t := fun t hmem t' hmem' heq =>
    List.inj_on_of_nodup_map hlive.seats hmem' hmem heq
  have hpassenger : ∀ t ∈ s.db.liveTickets, ∀ t' ∈ s.db.liveTickets,
      t'.passengerId = t.passengerId → t' = t := fun t hmem t' hmem' heq =>
    List.inj_on_of_nodup_map hlive.passengers hmem' hmem heq
  refine ⟨fun k => ⟨fun hk => ?_, fun hex => ?_⟩, fun t hmem => (hocc.live t hmem).2,
    fun b row hrow hstate q hq => ?_, fun b row hrow t hmem hb => ?_,
    fun b row hrow hstate t hmem => ?_, fun f => ?_, fun b row hrow => ?_⟩
  · obtain ⟨t, hmem, rfl⟩ := hocc.booked k hk
    exact ⟨t, ⟨hmem, rfl⟩, fun t' ⟨hmem', heq⟩ => hseat t hmem t' hmem' heq⟩
  · obtain ⟨t, ⟨hmem, rfl⟩, -⟩ := hex
    exact (hocc.live t hmem).1
  · have hwhole : (s.view b).Whole := by
      have hfit := hfits b row hrow
      rcases hstate with hs | hs <;> rw [hs] at hfit <;> exact hfit
    obtain ⟨t, hmem, hb, hid⟩ := hwhole.exists_live hq
    refine ⟨t, ⟨hmem, hb, hid⟩, fun t' ⟨hmem', _, hid'⟩ => ?_⟩
    exact hpassenger t hmem t' hmem' (hid'.trans hid.symm)
  · subst hb
    obtain ⟨hk, hflight⟩ := ht.seat_of_ticket hmem hrow
    exact ⟨hk, hflight, fun t' hmem' heq => hseat t hmem t' hmem' heq⟩
  · have hbare : (s.view b).Bare := by
      have hfit := hfits b row hrow
      simp only [List.mem_cons, List.not_mem_nil, or_false] at hstate
      rcases hstate with hs | hs | hs | hs | hs <;> rw [hs] at hfit <;> exact hfit
    exact hbare.notMem hmem
  · have hnd : ((s.db.liveTickets.filter fun t =>
        decide ((s.db.seat t.seatInventoryId).flightId = f)).map Ticket.seatInventoryId).Nodup :=
      hlive.seats.sublist (List.filter_sublist.map _)
    have hsub : (s.db.liveTickets.filter fun t =>
        decide ((s.db.seat t.seatInventoryId).flightId = f)).map Ticket.seatInventoryId ⊆
          s.db.seatIds.filter fun k => decide ((s.db.seat k).flightId = f) := by
      intro k hk
      obtain ⟨t, hmem, rfl⟩ := List.mem_map.mp hk
      obtain ⟨hmem, hf⟩ := List.mem_filter.mp hmem
      obtain ⟨row, hrow⟩ := ht.pinned _ _ (hocc.live t hmem).2
      exact List.mem_filter.mpr ⟨(ht.seat_of_ticket hmem hrow).1, hf⟩
    simpa using (hnd.subperm hsub).length_le
  · rcases (hfits b row hrow).bare_or_whole with hbare | hwhole
    · exact .inl fun t hmem => hbare.notMem hmem
    · exact .inr fun q hq => hwhole.exists_live hq

/-- A saga issues its tickets over rows pinned to its own booking, or a constraint
stops it. -/
def TicketsOwn (w : World (Shared G) Proc) (p : ℕ) (_ : Input) : Prop :=
  match w.proc p with
  | .booking _ (.issueTickets σ _) => w.shared.db.Untangled σ
  | _ => True

omit [PaymentGateway G] in
instance (w : World (Shared G) Proc) (p : ℕ) (a : Input) : Decidable (TicketsOwn w p a) := by
  unfold TicketsOwn Db.Untangled
  generalize w.proc p = q
  induction q using Proc.casesOn with
  | booking r pc => induction pc using BookingPc.casesOn <;> infer_instance
  | _ => infer_instance

/-- **Seats, tickets and bookings agree** in every world reached by a run in which
sagas issue their tickets over rows of their own. -/
theorem tables_agree {db : Db} {g : G} {clock : Time} {w : World (Shared G) Proc}
    {as : List (ℕ × Input)} (hdb : db.Initial)
    (h : (service env G).Run TicketsOwn (initialWorld db g clock) as w) : Agree w.shared.db := by
  have hocc : (outline G).Holds w ∧ w.shared.db.LiveUnique ∧ Occupancy w.shared.db := by
    refine h.induct (I := fun w => (outline G).Holds w ∧ w.shared.db.LiveUnique ∧
      Occupancy w.shared.db) ?_ ?_
    · refine ⟨outline_initial hdb g clock, ?_, ?_⟩
      · constructor <;> simp [initialWorld, Db.liveTickets, hdb.tickets]
      · refine ⟨by simp [initialWorld, Db.liveTickets, hdb.tickets], fun k hk => ?_⟩
        rw [show (initialWorld db g clock).shared.db = db from rfl, (hdb.seats k).1] at hk
        simp at hk
    · rintro w₁ p a w₂ ⟨hw, hlive, hocc⟩ hC hn
      refine ⟨outline_next hw hn, ?_⟩
      obtain ⟨s', P', hs, rfl⟩ := System.next_eq_some.mp hn
      have hstep := step_of hs
      refine ⟨hstep.liveUnique hlive, ?_⟩
      refine (hstep.seating hw.shared (hw.own p) hlive).occupancy hocc fun r σ pay hP => ?_
      simpa [TicketsOwn, hP] using hC
  exact agree_of hocc.1.shared hocc.2.1 hocc.2.2 fun b row hrow => fits_holds hdb h b row hrow

/-! ### Two runs -/

/-- A user takes a hold and books it. -/
def soldSeat : List (ℕ × Input) :=
  asks 1 (.createHold ⟨10, 7, "1A"⟩) 3 (.calm 0) ++
    asks 2 (.createBooking ⟨10, "key-of-ada-00000001", soloBody 0 "tok_test_aaaa11110000"⟩) 14
      (.calm 1)

/-- Undisturbed, a sale leaves the tables in agreement. -/
theorem tables_agree_sold :
    ∃ w, (service demoEnv FakePaymentGateway).Run TicketsOwn (onSale 2) soldSeat w ∧
      w.shared.db.liveTickets.length = 1 ∧ Agree w.shared.db := by
  have hrun : ((service demoEnv FakePaymentGateway).checked TicketsOwn (onSale 2) soldSeat).any
      (fun w => decide (w.shared.db.liveTickets.length = 1)) = true := by
    decide +kernel
  obtain ⟨w, hw, htest⟩ := System.exists_run_of_checked hrun
  exact ⟨w, hw, of_decide_eq_true htest, tables_agree (Db.seeded_initial ..) hw⟩

/-- A user books one hold twice, under two keys: the second saga pins the seat
while the first one charges the card, and the first then issues its ticket. -/
def repinnedSeat : List (ℕ × Input) :=
  asks 1 (.createHold ⟨10, 7, "1A"⟩) 3 (.calm 0) ++
    asks 2 (.createBooking ⟨10, "key-of-ada-00000001", soloBody 0 "tok_test_aaaa11110000"⟩) 7
      (.calm 1) ++
    asks 3 (.createBooking ⟨10, "key-of-ada-00000002", soloBody 0 "tok_test_aaaa11110000"⟩) 4
      (.calm 2) ++
    moves 2 2 (.calm 1)

/-- **A second saga of the same user breaks the agreement**: the seat is booked for
a booking that has no ticket. -/
theorem agree_repinned :
    ∃ w, (service demoEnv FakePaymentGateway).Run (fun _ _ _ => True) (onSale 2) repinnedSeat w ∧
      ¬ Agree w.shared.db := by
  have hrun : ((service demoEnv FakePaymentGateway).checked (fun _ _ _ => True) (onSale 2)
      repinnedSeat).any (fun w => decide (∃ t ∈ w.shared.db.liveTickets,
        (w.shared.db.seat t.seatInventoryId).bookingId ≠ some t.bookingId)) = true := by
    decide +kernel
  obtain ⟨w, hw, htest⟩ := System.exists_run_of_checked hrun
  obtain ⟨t, ht, hne⟩ := of_decide_eq_true htest
  exact ⟨w, hw, fun hagree => hne (hagree.owner t ht)⟩

end SkyLock
