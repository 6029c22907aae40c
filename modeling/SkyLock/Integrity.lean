import SkyLock.Fares
import SkyLock.Ownership
import SkyLock.Reservations
import SkyLock.StateJournal

/-!
# The constraints of the schema

The steps ask the database about a few constraints only: the CHECKs on a seat, the unique
indexes on tickets, `bookings.ref`.  The others are never asked about, since no statement of
the services can break them: whatever a row refers to is there, and no key comes twice.

## Main definitions

* `Db.Constrained` — the keys and unique indexes of `app/domain/models.py`, and the foreign
  keys between the tables that are modelled.
* `Stocked` — what the steps keep of the inventory, the tickets and the audit trail.

## Main results

* `Step.tickets_cases` — what a step makes of the ticket table.
* `constraints_hold` — **every reachable database satisfies the schema**.
-/

namespace SkyLock

open Concurrent Journal

/-- The keys and unique indexes of the tables the services write, and their foreign keys to
flights, seats, bookings and passengers; users and fare classes are not tables here. -/
structure Db.Constrained (db : Db) : Prop where
  seatIds : db.seatIds.Nodup
  /-- `uq_seat_per_flight`. -/
  seatPerFlight : (db.seatIds.map fun k => ((db.seat k).flightId, (db.seat k).seatNo)).Nodup
  seatFlight : ∀ k ∈ db.seatIds, (db.flight (db.seat k).flightId).isSome
  seatChecks : ∀ k, (db.seat k).checks = true
  seatBooking : ∀ k b, (db.seat k).bookingId = some b → (db.booking b).isSome
  refs : ∀ b b' row row', db.booking b = some row → db.booking b' = some row' →
    row.ref = row'.ref → b = b'
  bookingFlight : ∀ b row, db.booking b = some row → (db.flight row.flightId).isSome
  passengerIds : (db.passengers.map BookingPassenger.id).Nodup
  passengerBooking : ∀ q ∈ db.passengers, (db.booking q.bookingId).isSome
  passengerSeat : ∀ q ∈ db.passengers, ∀ k, q.seatInventoryId = some k → k ∈ db.seatIds
  paymentIds : (db.payments.map Payment.id).Nodup
  paymentBooking : ∀ r ∈ db.payments, (db.booking r.bookingId).isSome
  ticketIds : (db.tickets.map Ticket.id).Nodup
  eTicketNos : (db.tickets.map Ticket.eTicketNo).Nodup
  /-- `uq_ticket_live_per_seat`, `uq_ticket_live_per_passenger`. -/
  live : db.LiveUnique
  ticketBooking : ∀ t ∈ db.tickets, (db.booking t.bookingId).isSome
  ticketPassenger : ∀ t ∈ db.tickets, t.passengerId ∈ db.passengers.map BookingPassenger.id
  ticketSeat : ∀ t ∈ db.tickets, t.seatInventoryId ∈ db.seatIds
  /-- `uq_audit_seq`. -/
  auditSeqs : (db.audit.map fun a => (a.bookingId, a.seq)).Nodup
  auditBooking : ∀ a ∈ db.audit, (db.booking a.bookingId).isSome
  /-- The comment on `seq`: "gap-free". -/
  gapFree : ∀ b, bookingAudit.GapFree b db.audit

section Steps

variable {G : Type} [PaymentGateway G] {env : Env} {s s' : Shared G} {p : ℕ} {P P' : Proc}
  {a : Input} {b : BookingId}

/-! ### The ticket table -/

/-- Ticket keys are drawn in a row. -/
theorem newTickets_id (b : BookingId) (uuid : ℕ) (now : Time) (eTicketNo : ℕ → String)
    (assigned : List (BookingPassenger × SeatInstance)) :
    (newTickets b uuid now eTicketNo assigned).map Ticket.id =
      List.range' uuid assigned.length := by
  apply List.ext_getElem <;> simp [newTickets, newTicket]

/-- A step leaves the keys of the ticket table as they were, or puts the tickets of a booking
on top, which the unique indexes admit. -/
theorem Step.tickets_cases (h : Step env s p P a s' P') :
    (s'.db.tickets.map Ticket.id = s.db.tickets.map Ticket.id ∧
      s'.db.tickets.map Ticket.eTicketNo = s.db.tickets.map Ticket.eTicketNo) ∨
    ∃ r σ pay assigned eTicketNo, P = .booking r (.issueTickets σ pay) ∧
      σ.assigned = some assigned ∧ s'.uuid = s.uuid + σ.passengers.length ∧
        s.db.ticketsUnique (newTickets σ.bookingId s.uuid s.clock eTicketNo assigned) = true ∧
          s'.db.tickets =
            newTickets σ.bookingId s.uuid s.clock eTicketNo assigned ++ s.db.tickets := by
  have hvoid : ∀ (db : Db) (b : BookingId) (now : Time), db.tickets = s.db.tickets →
      (voidTickets db b now).tickets.map Ticket.id = s.db.tickets.map Ticket.id ∧
        (voidTickets db b now).tickets.map Ticket.eTicketNo =
          s.db.tickets.map Ticket.eTicketNo := by
    intro db b now heq
    simp only [voidTickets, List.map_map, ← heq]
    refine ⟨List.map_congr_left fun t _ => ?_, List.map_congr_left fun t _ => ?_⟩ <;>
      simp only [Function.comp_apply] <;> split <;> rfl
  cases h
  case booking r x pc pc' h =>
    cases h
    case issues σ pay assigned rows hf hlost htrig hassigned hunique hchecked ht hseq hrows =>
      exact .inr ⟨r, σ, pay, assigned, x.eTicketNo, rfl, hassigned, rfl, hunique, rfl⟩
    case voids | flags => exact .inl (hvoid _ _ _ rfl)
    all_goals exact .inl ⟨rfl, rfl⟩
  case cancel r x pc pc' h =>
    cases h
    case finishes => exact .inl (hvoid _ _ _ rfl)
    all_goals exact .inl ⟨rfl, rfl⟩
  case hold h | release h | sweep h => cases h <;> exact .inl ⟨rfl, rfl⟩
  all_goals exact .inl ⟨rfl, rfl⟩

/-! ### What the steps keep -/

/-- What the proof outline leaves open of the constraints. -/
structure Stocked (s : Shared G) : Prop where
  seatPerFlight :
    (s.db.seatIds.map fun k => ((s.db.seat k).flightId, (s.db.seat k).seatNo)).Nodup
  seatFlight : ∀ k ∈ s.db.seatIds, (s.db.flight (s.db.seat k).flightId).isSome
  /-- Ticket keys have been drawn. -/
  ticketLt : ∀ id ∈ s.db.tickets.map Ticket.id, id < s.uuid
  ticketIds : (s.db.tickets.map Ticket.id).Nodup
  eTicketNos : (s.db.tickets.map Ticket.eTicketNo).Nodup
  gapFree : ∀ b, bookingAudit.GapFree b s.db.audit
  auditBooking : ∀ a ∈ s.db.audit, (s.db.booking a.bookingId).isSome

/-- A step leaves the audit trail gap-free. -/
theorem Step.gapFree (h : Step env s p P a s' P') (hgap : bookingAudit.GapFree b s.db.audit) :
    bookingAudit.GapFree b s'.db.audit := by
  cases h
  case booking r x pc pc' h =>
    cases h
    case opens => exact gapFree_record (gapFree_record hgap ..) ..
    case fails σ f rows hf h =>
      cases hpay : f.payment with
      | none => exact gapFree_record hgap ..
      | some d => exact gapFree_record hgap ..
    case journals | recordsAuthorized | confirms => exact gapFree_record hgap ..
    case issues hrows => exact gapFree_record (hrows.gapFree hgap) ..
    case refuses hrows => exact gapFree_record (hrows.gapFree hgap) ..
    case voids | flags => exact gapFree_record (gapFree_record hgap ..) ..
    all_goals exact hgap
  case cancel r x pc pc' h =>
    cases h
    case finishes | reviews => exact gapFree_record hgap ..
    all_goals exact hgap
  case hold h | release h | sweep h => cases h <;> exact hgap
  all_goals exact hgap

/-- An audit row is about a booking there is. -/
theorem Step.auditBooking (h : Step env s p P a s' P') (ht : Tables s) (hP : P.Entitled s)
    (hold : ∀ a ∈ s.db.audit, (s.db.booking a.bookingId).isSome) :
    ∀ a ∈ s'.db.audit, (s'.db.booking a.bookingId).isSome := by
  have hkept : ∀ a ∈ s.db.audit, (s'.db.booking a.bookingId).isSome := by
    intro a ha
    obtain ⟨row, hrow⟩ := Option.isSome_iff_exists.mp (hold a ha)
    obtain ⟨row', hrow', -⟩ := h.booking_kept ht hrow
    exact Option.isSome_iff_exists.mpr ⟨row', hrow'⟩
  rcases h.audit_cases with heq | ⟨b, hw, new, heq, hnew⟩
  · rwa [heq]
  · have hb : (s'.db.booking b).isSome := by
      rcases hw with hw | hw
      · obtain ⟨row, hrow, -⟩ := hP b hw
        obtain ⟨row', hrow', -⟩ := h.booking_kept ht hrow
        exact Option.isSome_iff_exists.mpr ⟨row', hrow'⟩
      · obtain ⟨row, hrow, -⟩ := h.entitled ht hP b hw
        exact Option.isSome_iff_exists.mpr ⟨row, hrow⟩
    rw [heq]
    intro a ha
    rcases List.mem_append.mp ha with ha | ha
    · rwa [hnew a ha]
    · exact hkept a ha

/-- **Every step keeps what the proof outline leaves open.** -/
theorem Step.stocked (h : Step env s p P a s' P') (ht : Tables s) (ho : P.Outline s)
    (hP : P.Entitled s) (hs : Stocked s) : Stocked s' := by
  have hlater : ∀ k, (s.db.seat k).Later (s'.db.seat k) := fun k => (h.seatWrite ho k).later
  have htickets : (∀ id ∈ s'.db.tickets.map Ticket.id, id < s'.uuid) ∧
      (s'.db.tickets.map Ticket.id).Nodup ∧ (s'.db.tickets.map Ticket.eTicketNo).Nodup := by
    rcases h.tickets_cases with ⟨hids, hnos⟩ | ⟨r, σ, pay, assigned, eTicketNo, rfl, ha, hu,
      hunique, heq⟩
    · rw [hids, hnos]
      exact ⟨fun id hid => (hs.ticketLt id hid).trans_le h.uuid_le, hs.ticketIds, hs.eTicketNos⟩
    · have hlen : assigned.length = σ.passengers.length := by
        have hcolumn := (newTickets_columns (ho σ.bookingId rfl).2.1.seated ha σ.bookingId s.uuid
          s.clock eTicketNo).2.1
        simpa [newTickets] using congrArg List.length hcolumn
      simp only [Db.ticketsUnique, Bool.and_eq_true, decide_eq_true_eq, List.all_eq_true] at hunique
      obtain ⟨-, -, hnos, hfresh⟩ := hunique
      rw [heq, List.map_append, List.map_append, newTickets_id, hlen, hu]
      refine ⟨fun id hid => ?_, ?_, ?_⟩
      · rcases List.mem_append.mp hid with hid | hid
        · exact (List.mem_range'_1.mp hid).2
        · exact (hs.ticketLt id hid).trans_le (Nat.le_add_right _ _)
      · refine List.Nodup.append List.nodup_range' hs.ticketIds fun id hid hid' => ?_
        exact absurd (hs.ticketLt id hid') (not_lt.mpr (List.mem_range'_1.mp hid).1)
      · refine List.Nodup.append hnos hs.eTicketNos fun no hno hno' => ?_
        obtain ⟨t, ht, rfl⟩ := List.mem_map.mp hno
        exact hfresh t ht hno'
  refine ⟨?_, ?_, htickets.1, htickets.2.1, htickets.2.2, fun b => h.gapFree (hs.gapFree b),
    h.auditBooking ht hP hs.auditBooking⟩
  · simp only [h.seatIds_eq, (hlater _).flightId, (hlater _).seatNo]
    exact hs.seatPerFlight
  · intro k hk
    rw [h.inventory_eq.2, (hlater k).flightId]
    exact hs.seatFlight k (h.seatIds_eq ▸ hk)

/-! ### Whole runs -/

omit [PaymentGateway G] in
/-- No two payments have one key. -/
theorem PaymentTable.nodup {db : Db} {uuid : ℕ} (h : PaymentTable db uuid) :
    (db.payments.map Payment.id).Nodup := by
  rw [List.nodup_iff_pairwise_ne, List.pairwise_map]
  refine List.pairwise_iff_forall_sublist.mpr fun {r r'} hsub hid => ?_
  have hb := h.ids r (hsub.subset (by simp)) r' (hsub.subset (by simp)) hid
  have htwo := (hsub.filter fun q => decide (q.bookingId = r.bookingId)).length_le
  have hone := h.one r.bookingId
  rw [Db.paymentsOf] at hone
  simp only [hb, decide_true, List.filter_cons_of_pos, List.filter_nil, List.length_cons,
    List.length_nil] at htwo hone
  omega

theorem stocked_holds {C : World (Shared G) Proc → ℕ → Input → Prop} {db : Db} {g : G}
    {clock : Time} {w : World (Shared G) Proc} {as : List (ℕ × Input)} (hdb : db.Initial)
    (hunique : (db.seatIds.map fun k => ((db.seat k).flightId, (db.seat k).seatNo)).Nodup)
    (hflights : ∀ k ∈ db.seatIds, (db.flight (db.seat k).flightId).isSome)
    (h : (service env G).Run C (initialWorld db g clock) as w) :
    (outline G).Holds w ∧ Stocked w.shared := by
  have hall := h.induct (I := fun v => (outline G).Holds v ∧ (∀ q, (v.proc q).Entitled v.shared) ∧
    Stocked v.shared) ?_ ?_
  · exact ⟨hall.1, hall.2.2⟩
  · refine ⟨outline_initial hdb g clock, fun q b hw => ?_, ?_, hflights, ?_, ?_, ?_, ?_, ?_⟩
    · simp [initialWorld, Proc.writes] at hw
    · exact hunique
    all_goals simp [initialWorld, hdb.tickets, hdb.audit, Filing.gapFree_nil]
  · rintro w₁ p a w₂ ⟨hw, hP, hs⟩ - hn
    refine ⟨outline_next hw hn, entitled_next hw hP hn, ?_⟩
    obtain ⟨s', P', hstep, rfl⟩ := System.next_eq_some.mp hn
    exact (step_of hstep).stocked hw.shared (hw.own p) (hP p) hs

/-- **Every reachable database satisfies the schema.**  Where the inventory has its seats once
(`uq_seat_per_flight`) and its flights, no statement of the services ever leaves a row that
refers to one that is not there, or a key that comes twice, whatever the gateway answers and
however the requests fall between each other. -/
theorem constraints_hold {C : World (Shared G) Proc → ℕ → Input → Prop} {db : Db} {g : G}
    {clock : Time} {w : World (Shared G) Proc} {as : List (ℕ × Input)} (hdb : db.Initial)
    (hunique : (db.seatIds.map fun k => ((db.seat k).flightId, (db.seat k).seatNo)).Nodup)
    (hflights : ∀ k ∈ db.seatIds, (db.flight (db.seat k).flightId).isSome)
    (h : (service env G).Run C (initialWorld db g clock) as w) : w.shared.db.Constrained := by
  obtain ⟨hw, hs⟩ := stocked_holds hdb hunique hflights h
  have ht := hw.shared
  exact {
    seatIds := ht.seatIds.imp Nat.ne_of_lt
    seatPerFlight := hs.seatPerFlight
    seatFlight := hs.seatFlight
    seatChecks := ht.checked
    seatBooking := fun k b hb => Option.isSome_iff_exists.mpr (ht.pinned k b hb)
    -- the index on `bookings.ref` and the rows say the same
    refs := by
      intro b b' row row' hrow hrow' href
      have hb := (ht.refs row.ref b).mpr ⟨row, hrow, rfl⟩
      have hb' := (ht.refs row.ref b').mpr ⟨row', hrow', href.symm⟩
      exact Option.some.inj (hb.symm.trans hb')
    bookingFlight := by
      intro b row hrow
      obtain ⟨-, flight, hflight, -⟩ := (amounts_holds hdb h).fare b row hrow
      exact Option.isSome_iff_exists.mpr ⟨flight, hflight⟩
    passengerIds := ht.passengerIds
    passengerBooking := by
      intro q hq
      obtain ⟨-, -, -, row, hrow, -⟩ := ht.onFlight q hq
      exact Option.isSome_iff_exists.mpr ⟨row, hrow⟩
    passengerSeat := by
      intro q hq k hk
      obtain ⟨k', hk', hqk, -⟩ := ht.onFlight q hq
      obtain rfl := Option.some.inj (hk.symm.trans hqk)
      exact hk'
    paymentIds := ht.payments.nodup
    paymentBooking := by
      intro r hr
      obtain ⟨row, hrow, -⟩ := (ledger_holds hdb h).priced r hr
      exact Option.isSome_iff_exists.mpr ⟨row, hrow⟩
    ticketIds := hs.ticketIds
    eTicketNos := hs.eTicketNos
    live := liveUnique_holds hdb h
    ticketBooking := by
      intro t hmem
      obtain ⟨q, hq, -, hqb, -⟩ := ht.seated t hmem
      obtain ⟨-, -, -, row, hrow, -⟩ := ht.onFlight q hq
      exact Option.isSome_iff_exists.mpr ⟨row, hqb ▸ hrow⟩
    ticketPassenger := by
      intro t hmem
      obtain ⟨q, hq, hid, -⟩ := ht.seated t hmem
      exact List.mem_map.mpr ⟨q, hq, hid⟩
    -- a ticket is for the seat of its passenger
    ticketSeat := by
      intro t hmem
      obtain ⟨q, hq, -, -, hk⟩ := ht.seated t hmem
      obtain ⟨k, hk', hqk, -⟩ := ht.onFlight q hq
      obtain rfl := Option.some.inj (hk.symm.trans hqk)
      exact hk'
    auditSeqs := Filing.nodup_of_gapFree hs.gapFree
    auditBooking := hs.auditBooking
    gapFree := hs.gapFree }

end Steps

/-- A seat is sold, its booking cancelled, and the seat sold again: two tickets for it, one of
them live. -/
theorem constraints_hold_resold :
    ∃ w, (service demoEnv FakePaymentGateway).Run (fun _ _ _ => True) (onSale 1) resoldSeat w ∧
      w.shared.db.tickets.map Ticket.seatInventoryId = [0, 0] ∧
      w.shared.db.payments.length = 2 ∧ w.shared.db.audit.length = 10 ∧
      w.shared.db.Constrained := by
  have hrun : ((service demoEnv FakePaymentGateway).checked (fun _ _ _ => True) (onSale 1)
      resoldSeat).any (fun w => decide (w.shared.db.tickets.map Ticket.seatInventoryId = [0, 0] ∧
        w.shared.db.payments.length = 2 ∧ w.shared.db.audit.length = 10)) = true := by
    decide +kernel
  obtain ⟨w, hw, htest⟩ := System.exists_run_of_checked hrun
  obtain ⟨htickets, hpayments, haudit⟩ := of_decide_eq_true htest
  exact ⟨w, hw, htickets, hpayments, haudit,
    constraints_hold (Db.seeded_initial ..) (by decide +kernel) (by decide) hw⟩

end SkyLock
