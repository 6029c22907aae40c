import SkyLock.Interference

/-!
# Ticketing

How the transaction of `_issue_tickets` ends.  Its re-verification reads the
instances step 1 loaded, so it finds nothing lost; what decides between issuing
and rolling back are the constraints: the CHECK on a booked row, the unique
indexes on live tickets and numbers, and the audit number.

## Main definitions

* `Db.LiveUnique` — the partial unique indexes on live tickets.
* `Insertable` — nothing stands in the way of a saga's tickets.
* `Issuable` — nothing stands in the way of its ticketing transaction.

## Main results

* `liveUnique_holds` — the unique indexes hold in every reachable world.
* `ticketsUnique_iff` — what the unique indexes ask of a saga's tickets.
* `BookingStep.issue_cases` — **ticketing commits where it is issuable, and else
  rolls back**.
-/

namespace SkyLock

open Concurrent

variable {G : Type} [PaymentGateway G] {env : Env} {s s' : Shared G} {p : ℕ}

/-! ### Live tickets -/

/-- `uq_ticket_live_per_seat` and `uq_ticket_live_per_passenger`. -/
structure Db.LiveUnique (db : Db) : Prop where
  seats : (db.liveTickets.map Ticket.seatInventoryId).Nodup
  passengers : (db.liveTickets.map Ticket.passengerId).Nodup

theorem mem_liveTickets {db : Db} {t : Ticket} :
    t ∈ db.liveTickets ↔ t ∈ db.tickets ∧ t.voidedAt = none := by
  simp [Db.liveTickets, Ticket.live]

theorem liveTickets_congr {db db' : Db} (h : db'.tickets = db.tickets) :
    db'.liveTickets = db.liveTickets := by
  unfold Db.liveTickets
  rw [h]

/-- Voiding a booking's tickets leaves the live tickets of the others. -/
theorem liveTickets_voidTickets (db : Db) (b : BookingId) (now : Time) :
    (voidTickets db b now).liveTickets =
      db.liveTickets.filter fun t => t.bookingId ≠ b := by
  unfold Db.liveTickets voidTickets
  rw [List.filter_map, List.filter_filter]
  have hsel : ∀ t ∈ db.tickets,
      (Ticket.live ∘ fun t : Ticket =>
        if t.bookingId = b ∧ t.voidedAt = none then { t with voidedAt := some now } else t) t =
          (decide (t.bookingId ≠ b) && t.live) := by
    intro t _
    by_cases hb : t.bookingId = b <;> cases hv : t.voidedAt <;> simp [Ticket.live, hb, hv]
  rw [List.filter_congr hsel]
  have hid : ∀ t ∈ db.tickets.filter (fun t => decide (t.bookingId ≠ b) && t.live),
      (if t.bookingId = b ∧ t.voidedAt = none then { t with voidedAt := some now } else t) = t := by
    intro t ht
    have hcond := List.of_mem_filter ht
    simp only [Bool.and_eq_true, decide_eq_true_eq] at hcond
    exact if_neg fun h => hcond.1 h.1
  rw [List.map_congr_left hid, List.map_id']

/-- The tickets of an insertion are live. -/
theorem liveTickets_insertTickets {db : Db} {new : List Ticket}
    (h : ∀ t ∈ new, t.voidedAt = none) :
    (insertTickets db new).liveTickets = new ++ db.liveTickets := by
  have hnew : new.filter Ticket.live = new := by
    rw [List.filter_eq_self]
    intro t ht
    simp [Ticket.live, h t ht]
  unfold Db.liveTickets insertTickets
  rw [List.filter_append, hnew]

theorem Db.LiveUnique.voidTickets {db : Db} (h : db.LiveUnique) (b : BookingId) (now : Time) :
    (voidTickets db b now).LiveUnique := by
  have hsub := List.filter_sublist (p := fun t : Ticket => decide (t.bookingId ≠ b))
    (l := db.liveTickets)
  constructor <;> rw [liveTickets_voidTickets]
  · exact h.seats.sublist (hsub.map _)
  · exact h.passengers.sublist (hsub.map _)

theorem Db.LiveUnique.insertTickets {db : Db} {new : List Ticket}
    (hnew : ∀ t ∈ new, t.voidedAt = none) (hunique : db.ticketsUnique new = true) :
    (insertTickets db new).LiveUnique := by
  simp only [Db.ticketsUnique, Bool.and_eq_true, decide_eq_true_eq] at hunique
  constructor <;> rw [liveTickets_insertTickets hnew]
  · exact hunique.1
  · exact hunique.2.1

/-- Every step keeps the live tickets unique. -/
theorem Step.liveUnique {P P' : Proc} {a : Input} (h : Step env s p P a s' P')
    (hl : s.db.LiveUnique) : s'.db.LiveUnique := by
  have hkept : ∀ {db db' : Db}, db.LiveUnique → db'.tickets = db.tickets → db'.LiveUnique := by
    intro db db' hdb heq
    constructor <;> unfold Db.liveTickets <;> rw [heq]
    · exact hdb.seats
    · exact hdb.passengers
  cases h
  case booking r x pc pc' h =>
    cases h
    case issues σ pay assigned rows hf hlost htrig hassigned hunique hchecked ht hseq hrows =>
      refine hkept (Db.LiveUnique.insertTickets (fun t ht => ?_) hunique) rfl
      obtain ⟨_, _, _, _, _, hlive⟩ := mem_newTickets ht
      exact hlive
    case voids σ pay reason hf h => exact hkept (hl.voidTickets σ.bookingId s.clock) rfl
    case flags σ pay reason error hf => exact hkept (hl.voidTickets σ.bookingId s.clock) rfl
    all_goals exact hkept hl rfl
  case cancel r x pc pc' h =>
    cases h
    case finishes b state refunded h hseq => exact hkept (hl.voidTickets b s.clock) rfl
    all_goals exact hkept hl rfl
  case hold r x pc pc' h => cases h <;> exact hkept hl rfl
  case release r x pc pc' h => cases h <;> exact hkept hl rfl
  case sweep x pc pc' h =>
    cases h
    exact hkept hl rfl
  all_goals exact hkept hl rfl

/-- The unique indexes hold in every reachable world. -/
theorem liveUnique_holds {C : World (Shared G) Proc → ℕ → Input → Prop} {db : Db} {g : G}
    {clock : Time} {w : World (Shared G) Proc} {as : List (ℕ × Input)} (hdb : db.Initial)
    (h : (service env G).Run C (initialWorld db g clock) as w) : w.shared.db.LiveUnique := by
  refine h.induct (I := fun w => w.shared.db.LiveUnique) ?_ ?_
  · constructor <;> simp [initialWorld, Db.liveTickets, hdb.tickets]
  · intro w₁ p a w₂ hl _ hn
    obtain ⟨s', P', hs, rfl⟩ := System.next_eq_some.mp hn
    exact (step_of hs).liveUnique hl

/-! ### What the constraints ask for -/

/-- Nothing stands in the way of a saga's tickets: no live ticket is on its seats,
and the numbers drawn are new. -/
structure Insertable (db : Db) (σ : Saga) (eTicketNo : ℕ → String) : Prop where
  seats : ∀ i ∈ σ.seats, ∀ t ∈ db.liveTickets, t.seatInventoryId ≠ i.id
  distinct : ((List.range σ.passengers.length).map eTicketNo).Nodup
  unused : ∀ k < σ.passengers.length, eTicketNo k ∉ db.tickets.map Ticket.eTicketNo

instance (db : Db) (σ : Saga) (eTicketNo : ℕ → String) : Decidable (Insertable db σ eTicketNo) :=
  decidable_of_iff ((∀ i ∈ σ.seats, ∀ t ∈ db.liveTickets, t.seatInventoryId ≠ i.id) ∧
      ((List.range σ.passengers.length).map eTicketNo).Nodup ∧
        ∀ k < σ.passengers.length, eTicketNo k ∉ db.tickets.map Ticket.eTicketNo)
    ⟨fun ⟨h₁, h₂, h₃⟩ => ⟨h₁, h₂, h₃⟩, fun h => ⟨h.seats, h.distinct, h.unused⟩⟩

/-- Nothing stands in the way of a saga's ticketing transaction. -/
structure Issuable (db : Db) (σ : Saga) (x : Draws) : Prop where
  pinned : ∀ i ∈ σ.seats, (db.seat i.id).bookingId.isSome
  insertable : Insertable db σ x.eTicketNo
  audit : x.seqTaken = false

instance (db : Db) (σ : Saga) (x : Draws) : Decidable (Issuable db σ x) :=
  decidable_of_iff ((∀ i ∈ σ.seats, (db.seat i.id).bookingId.isSome) ∧
      Insertable db σ x.eTicketNo ∧ x.seqTaken = false)
    ⟨fun ⟨h₁, h₂, h₃⟩ => ⟨h₁, h₂, h₃⟩, fun h => ⟨h.pinned, h.insertable, h.audit⟩⟩

/-- What the unique indexes ask of a saga's tickets, when its passengers have none. -/
theorem ticketsUnique_iff {db : Db} {σ : Saga} (h : σ.Seated)
    {assigned : List (BookingPassenger × SeatInstance)} (ha : σ.assigned = some assigned)
    (hlive : db.LiveUnique) (hnone : ∀ q ∈ σ.passengers, ∀ t ∈ db.tickets, t.passengerId ≠ q.id)
    (uuid : ℕ) (now : Time) (eTicketNo : ℕ → String) :
    db.ticketsUnique (newTickets σ.bookingId uuid now eTicketNo assigned) = true ↔
      Insertable db σ eTicketNo := by
  obtain ⟨hseats, hpassengers, hnumbers⟩ := newTickets_columns h ha σ.bookingId uuid now eTicketNo
  have hapart : ∀ q ∈ σ.passengers, ∀ t ∈ db.liveTickets, t.passengerId ≠ q.id :=
    fun q hq t ht => hnone q hq t (mem_liveTickets.mp ht).1
  have hnew : (∀ t ∈ newTickets σ.bookingId uuid now eTicketNo assigned,
      t.eTicketNo ∉ db.tickets.map Ticket.eTicketNo) ↔
        ∀ k < σ.passengers.length, eTicketNo k ∉ db.tickets.map Ticket.eTicketNo := by
    rw [← List.forall_mem_map (P := fun n => n ∉ db.tickets.map Ticket.eTicketNo), hnumbers]
    simp
  simp only [Db.ticketsUnique, Bool.and_eq_true, decide_eq_true_eq, List.all_eq_true,
    List.map_append, hseats, hpassengers, hnumbers, List.nodup_append, hnew]
  constructor
  · rintro ⟨⟨-, -, hs⟩, -, hd, hu⟩
    refine ⟨fun i hi t ht heq => ?_, hd, hu⟩
    exact hs i.id (List.mem_map_of_mem hi) t.seatInventoryId (List.mem_map_of_mem ht) heq.symm
  · intro hins
    refine ⟨⟨h.nodup, hlive.seats, ?_⟩, ⟨h.distinct, hlive.passengers, ?_⟩, hins.distinct,
      hins.unused⟩
    · intro k hk k' hk'
      obtain ⟨i, hi, rfl⟩ := List.mem_map.mp hk
      obtain ⟨t, ht, rfl⟩ := List.mem_map.mp hk'
      exact (hins.seats i hi t ht).symm
    · intro k hk k' hk'
      obtain ⟨q, hq, rfl⟩ := List.mem_map.mp hk
      obtain ⟨t, ht, rfl⟩ := List.mem_map.mp hk'
      exact (hapart q hq t ht).symm

/-- What the CHECK constraints ask of the rows ticketing books. -/
theorem Saga.Before.seatsChecked_iff {σ : Saga} {u : UserId} {state : BookingState} {V : View}
    (h : σ.Before u state V) {assigned : List (BookingPassenger × SeatInstance)}
    (ha : σ.assigned = some assigned) (db : Db) :
    (db.flushSeats (ticketedSeats σ.bookingId assigned)).seatsChecked
        (assigned.map fun pi => pi.2.id) = true ↔
      ∀ i ∈ σ.seats, (db.seat i.id).bookingId.isSome := by
  rw [SkyLock.seatsChecked_iff, h.seated.assigned_ids ha]
  constructor
  · intro hchecked i hi
    obtain ⟨v, hv⟩ := h.issued_seat ha db (List.mem_map_of_mem hi)
    have hrow := hchecked i.id (List.mem_map_of_mem hi)
    rw [hv] at hrow
    have hsome := SeatInventory.bookingId_isSome_of_checks hrow rfl
    exact hsome
  · intro hpinned k hk
    obtain ⟨i, hi, rfl⟩ := List.mem_map.mp hk
    obtain ⟨v, hv⟩ := h.issued_seat ha db (List.mem_map_of_mem hi)
    rw [hv]
    simp [SeatInventory.checks, hpinned i hi]

/-! ### How ticketing ends -/

omit [PaymentGateway G] in
/-- The passengers of a booking without tickets have none. -/
theorem Saga.Before.no_tickets {σ : Saga} {u : UserId} {state : BookingState}
    (h : σ.Before u state (s.view σ.bookingId)) (ht : Tables s) {q : BookingPassenger}
    (hq : q ∈ σ.passengers) {t : Ticket} (hmem : t ∈ s.db.tickets) : t.passengerId ≠ q.id := by
  rintro hid
  obtain ⟨q', hq', hid', hb', -⟩ := ht.seated t hmem
  have hqdb : q ∈ s.db.passengers := by
    have hmem : q ∈ s.db.passengersOf σ.bookingId := by
      rw [← Shared.view_passengers, h.recorded.passengers]
      exact hq
    exact (Db.mem_passengersOf.mp hmem).1
  obtain rfl : q' = q := List.inj_on_of_nodup_map ht.passengerIds hq' hqdb (hid'.trans hid)
  have hof : t ∈ s.db.ticketsOf σ.bookingId :=
    Db.mem_ticketsOf.mpr ⟨hmem, hb'.symm.trans (h.seated.passengers q' hq)⟩
  rw [← Shared.view_tickets, h.tickets] at hof
  simp at hof

omit [PaymentGateway G] in
/-- A saga's own transitions are allowed from the state it is in. -/
theorem Saga.Before.not_illegal {σ : Saga} {u : UserId} {state target : BookingState} {V : View}
    (h : σ.Before u state V) (hallowed : target ∈ allowedTransitions state) {e : Failure} :
    assertCanTransition σ.state target ≠ some e := by
  rw [h.state]
  simp [assertCanTransition, hallowed]

/-- **Ticketing commits where it is issuable, and else rolls back**: unless the
card asks for a ticketing failure, nothing leads to a compensation. -/
theorem BookingStep.issue_cases {r : BookingRequest} {x : Draws} {σ : Saga} {pay : Payment}
    {pc' : BookingPc} (h : BookingStep env s p r x (.issueTickets σ pay) s' pc') (ht : Tables s)
    (ho : σ.Before r.userId .paymentAuthorized (s.view σ.bookingId)) (hlive : s.db.LiveUnique)
    (htrig : triggerFor r.payload.cardToken ≠ .ticketingFailure) :
    (Issuable s.db σ x ∧ ∃ σ', σ'.bookingId = σ.bookingId ∧ pc' = .capture σ' pay ∧
        s'.db.seat = (s.db.flushSeats (ticketedSeats σ.bookingId
          (σ.passengers.zip σ.seats))).seat ∧
        s'.db.tickets = newTickets σ.bookingId s.uuid s.clock x.eTicketNo
          (σ.passengers.zip σ.seats) ++ s.db.tickets) ∨
      ¬ Issuable s.db σ x ∧ s' = s ∧ ∃ e, pc' = .release e (some σ.bookingId) := by
  have hassigned := ho.seated.assigned_eq
  have hunique := ticketsUnique_iff ho.seated hassigned hlive
    (fun q hq t hmem => ho.no_tickets ht hq hmem) s.uuid s.clock x.eTicketNo
  have hchecked := ho.seatsChecked_iff hassigned s.db
  have hnotlost : ¬ (σ.lost r.userId ≠ [] ∨ triggerFor r.payload.cardToken = .ticketingFailure ∨
      σ.assigned = none) := by
    rintro (hlost | hfail | hnone)
    · exact hlost ho.pinned.lost_eq_nil
    · exact htrig hfail
    · rw [hassigned] at hnone
      simp at hnone
  cases h
  case issues assigned rows _ hseq hf hlost ha hu hc hcan _ =>
    obtain rfl : σ.passengers.zip σ.seats = assigned := Option.some.inj (hassigned.symm.trans ha)
    exact .inl ⟨⟨hchecked.mp hc, hunique.mp hu, hseq⟩, σ.afterIssue _, rfl, rfl, rfl, rfl⟩
  case refuses h _ _ => exact absurd h hnotlost
  case refuseIllegal h _ => exact absurd h hnotlost
  case issueRolledBack e _ hf hlost hfail =>
    refine .inr ⟨fun hiss => ?_, rfl, e, raised_of_issueFails hfail _⟩
    cases hfail with
    | tickets ha hu =>
      obtain rfl := Option.some.inj (hassigned.symm.trans ha)
      rw [hunique.mpr hiss.insertable] at hu
      simp at hu
    | seats ha hc =>
      obtain rfl := Option.some.inj (hassigned.symm.trans ha)
      rw [hchecked.mpr hiss.pinned] at hc
      simp at hc
    | illegal hcan =>
      rw [ho.state] at hcan
      simp [assertCanTransition, allowedTransitions] at hcan
    | audit hseq =>
      rw [hiss.audit] at hseq
      simp at hseq

/-- A saga that goes on to capture its charge had an issuable ticketing transaction. -/
theorem BookingStep.issuable_of_capture {r : BookingRequest} {x : Draws} {σ σ' : Saga}
    {pay pay' : Payment} (h : BookingStep env s p r x (.issueTickets σ pay) s' (.capture σ' pay'))
    (ht : Tables s) (ho : σ.Before r.userId .paymentAuthorized (s.view σ.bookingId))
    (hlive : s.db.LiveUnique) :
    triggerFor r.payload.cardToken ≠ .ticketingFailure ∧ Issuable s.db σ x := by
  have htrig : triggerFor r.payload.cardToken ≠ .ticketingFailure := by
    generalize hpc : BookingPc.capture σ' pay' = pc' at h
    cases h with
    | issues hf hlost htrig => exact htrig
    | refuses => simp at hpc
    | refuseIllegal hr hcan => simp [raised_of_assertCanTransition hcan] at hpc
    | issueRolledBack hf hlost htrig hfail => exact htrig
  rcases h.issue_cases ht ho hlive htrig with ⟨hissuable, -⟩ | ⟨-, -, e, hpc⟩
  · exact ⟨htrig, hissuable⟩
  · simp at hpc

end SkyLock
