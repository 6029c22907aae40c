import SkyLock.Ownership

/-!
# The tables without what others have

Two states of the database can differ in what a user does not have: bookings of others that
are there in one state are absent in the other, with all their rows, and a seat that is not
the user's reads otherwise.  What the statements of a request do to a booking that both
states have, they do to both alike.  Step 1 and ticketing look at unique indexes over
everybody's rows, so theirs is the one condition.

## Main definitions

* `Mask` — which bookings are absent, and which seats read otherwise.
* `Db.masked` — the database behind a mask.
* `Mask.Foreign` — the mask covers nothing of a user's.
* `Mask.Spares` — the mask leaves a booking and its seats alone.

## Main results

* `alike_masked` — the routes that read tell no difference.
* `openBooking_masked`, `issueTickets_masked`, `finishCancel_masked` and the like — what a
  transaction makes of the database behind a mask, and of the one before it.
-/

namespace SkyLock

/-- Which bookings are absent, and which seats read otherwise. -/
structure Mask where
  gone : BookingId → Bool
  seat : SeatId → Option SeatInventory

/-- The database behind a mask. -/
@[simps -fullyApplied] def Db.masked (M : Mask) (db : Db) : Db where
  seatIds := db.seatIds
  seat k := (M.seat k).getD (db.seat k)
  flight := db.flight
  booking b := if M.gone b then none else db.booking b
  bookingRef ref := (db.bookingRef ref).filter fun b => !M.gone b
  passengers := db.passengers.filter fun q => !M.gone q.bookingId
  payments := db.payments.filter fun r => !M.gone r.bookingId
  tickets := db.tickets.filter fun t => !M.gone t.bookingId
  audit := db.audit.filter fun a => !M.gone a.bookingId
  claims := db.claims

/-- What ticketing comes to, behind a mask. -/
def Issue.masked (M : Mask) : Issue → Issue
  | .issued db σ => .issued (db.masked M) σ
  | .refused db reason => .refused (db.masked M) reason
  | .raised x => .raised x

/-- The seat is not the user's: somebody else holds it or nobody does, and the booking it
is pinned to, if any, is somebody else's. -/
structure SeatInventory.Foreign (db : Db) (u : UserId) (r : SeatInventory) : Prop where
  holder : r.heldByUserId ≠ some u
  pin : ∀ b, r.bookingId = some b → ∃ row, db.booking b = some row ∧ row.userId ≠ u

/-- What the mask covers is not the user's, before it and behind it. -/
structure Mask.Foreign (M : Mask) (u : UserId) (db : Db) : Prop where
  gone : ∀ b, M.gone b = true → ∃ row, db.booking b = some row ∧ row.userId ≠ u
  before : ∀ k row, M.seat k = some row → (db.seat k).Foreign db u
  behind : ∀ k row, M.seat k = some row → row.Foreign db u
  seatNo : ∀ k row, M.seat k = some row → row.seatNo = (db.seat k).seatNo

/-- The mask leaves a booking and the seats pinned to it alone. -/
structure Mask.Spares (M : Mask) (db : Db) (b : BookingId) : Prop where
  kept : M.gone b = false
  seat : ∀ k row, M.seat k = some row → (db.seat k).bookingId ≠ some b ∧ row.bookingId ≠ some b

section Masks

variable {M : Mask} {db : Db} {u : UserId} {b : BookingId} {σ : Saga} {pay : Payment}

theorem Mask.Spares.congr {db' : Db} (h : M.Spares db b) (hseat : db'.seat = db.seat) :
    M.Spares db' b := by
  refine ⟨h.kept, ?_⟩
  rw [hseat]
  exact h.seat

/-- A mask over what is not the user's spares the user's bookings. -/
theorem Mask.Foreign.spares (h : M.Foreign u db) {row : Booking} (hrow : db.booking b = some row)
    (hu : row.userId = u) : M.Spares db b := by
  have hother : ¬ ∃ row', db.booking b = some row' ∧ row'.userId ≠ u := by
    rintro ⟨row', hrow', hne⟩
    obtain rfl := Option.some.inj (hrow.symm.trans hrow')
    exact hne hu
  refine ⟨?_, fun k row' hk => ⟨?_, ?_⟩⟩
  · cases hgone : M.gone b with
    | false => rfl
    | true => exact absurd (h.gone b hgone) hother
  · exact fun hpin => hother ((h.before k row' hk).pin b hpin)
  · exact fun hpin => hother ((h.behind k row' hk).pin b hpin)

theorem Db.masked_seat_of_none {k : SeatId} (h : M.seat k = none) :
    (db.masked M).seat k = db.seat k := by
  simp [h]

/-- A seat that somebody has on either side is not covered. -/
theorem Mask.Foreign.uncovered (h : M.Foreign u db) {k : SeatId}
    (hk : (db.seat k).heldByUserId = some u) : M.seat k = none := by
  cases hseat : M.seat k with
  | none => rfl
  | some row => exact absurd hk (h.before k row hseat).holder

theorem Mask.Spares.uncovered (h : M.Spares db b) {k : SeatId}
    (hk : (db.seat k).bookingId = some b) : M.seat k = none := by
  cases hseat : M.seat k with
  | none => rfl
  | some row => exact absurd hk (h.seat k row hseat).1

/-- What is true of neither row of a covered seat selects the same rows on both sides. -/
theorem filter_masked (M : Mask) (db : Db) (p : SeatInventory → Bool)
    (h : ∀ k row, M.seat k = some row → p (db.seat k) = false ∧ p row = false) :
    ((db.masked M).seatIds.filter fun k => p ((db.masked M).seat k)) =
      db.seatIds.filter fun k => p (db.seat k) := by
  refine List.filter_congr fun k _ => ?_
  cases hk : M.seat k with
  | none => rw [Db.masked_seat_of_none hk]
  | some row => simp [hk, h k row hk]

theorem pinned_masked (hM : M.Spares db b) :
    ((db.masked M).seatIds.filter fun k => ((db.masked M).seat k).bookingId = some b) =
      db.seatIds.filter fun k => (db.seat k).bookingId = some b :=
  filter_masked M db (fun r => decide (r.bookingId = some b))
    fun k row hk => by simpa using hM.seat k row hk

/-- The rows of a booking that is there are there. -/
theorem filter_kept {α : Type} {f : α → BookingId} (hb : M.gone b = false) (rows : List α) :
    ((rows.filter fun r => !M.gone (f r)).filter fun r => f r = b) =
      rows.filter fun r => f r = b := by
  rw [List.filter_filter]
  refine List.filter_congr fun r _ => ?_
  by_cases hr : f r = b
  · simp [hr, hb]
  · simp [hr]

/-- An UPDATE that moves no row to another booking. -/
theorem map_kept {α : Type} {f : α → BookingId} {g : α → α} (hg : ∀ r, f (g r) = f r)
    (rows : List α) :
    (rows.filter fun r => !M.gone (f r)).map g = (rows.map g).filter fun r => !M.gone (f r) := by
  rw [List.filter_map]
  simp [Function.comp_def, hg]

/-! ### The statements the services share -/

theorem record_masked (hb : M.gone b = false) (e : AuditEventType) (actor : Option UserId)
    (fromState toState : Option BookingState) (detail : List (String × JsonValue)) :
    (db.masked M).record b e actor fromState toState detail =
      (db.record b e actor fromState toState detail).masked M := by
  have hseq : (db.masked M).nextSeq b = db.nextSeq b := by
    unfold Db.nextSeq
    rw [Db.masked_audit, filter_kept hb]
  unfold Db.record
  rw [hseq]
  simp [Db.masked, hb]

theorem note_masked (hb : M.gone b = false) (e : AuditEventType)
    (detail : List (String × JsonValue)) :
    (db.masked M).note b e detail = (db.note b e detail).masked M :=
  record_masked hb e none none none detail

theorem flushBookingState_masked (b : BookingId) (loaded current : BookingState) :
    (db.masked M).flushBookingState b loaded current =
      (db.flushBookingState b loaded current).masked M := by
  simp only [Db.flushBookingState, Db.masked]
  congr 1
  funext k
  by_cases hk : M.gone k <;> simp [hk]

theorem flushPayment_masked (loaded current : Payment) :
    (db.masked M).flushPayment loaded current = (db.flushPayment loaded current).masked M := by
  simp only [Db.flushPayment, Db.masked]
  congr 1
  refine map_kept (fun r => ?_) db.payments
  split <;> rfl

theorem flushPayments_masked (dirty : Option (Payment × Payment)) :
    (db.masked M).flushPayments dirty = (db.flushPayments dirty).masked M := by
  cases dirty with
  | none => rfl
  | some d => exact flushPayment_masked d.1 d.2

theorem flushSeats_masked {dirty : List (SeatInstance × SeatInventory)}
    (h : ∀ d ∈ dirty, M.seat d.1.id = none) :
    (db.masked M).flushSeats dirty = (db.flushSeats dirty).masked M := by
  simp only [Db.flushSeats, Db.masked]
  congr 1
  funext k
  cases hk : M.seat k with
  | none => simp [Orm.flush, hk]
  | some row =>
    have hnot : k ∉ dirty.map fun d => d.1.id := by
      rintro hmem
      obtain ⟨d, hd, rfl⟩ := List.mem_map.mp hmem
      rw [h d hd] at hk
      simp at hk
    rw [Orm.flush_of_notMem _ _ hnot]
    simp [hk]

theorem updateSeats_masked {p : SeatId → SeatInventory → Bool} (f : SeatInventory → SeatInventory)
    (h : ∀ k row, M.seat k = some row → p k row = false) :
    (db.masked M).updateSeats p f = (db.updateSeats p f).masked M := by
  simp only [Db.updateSeats, Db.masked]
  congr 1
  funext k
  rcases Option.eq_none_or_eq_some (M.seat k) with hk | ⟨row, hk⟩
  · simp [hk]
  · simp [hk, h k row hk]

theorem seatsChecked_masked {ids : List SeatId} (h : ∀ k ∈ ids, M.seat k = none) :
    (db.masked M).seatsChecked ids = db.seatsChecked ids := by
  unfold Db.seatsChecked
  rw [Bool.eq_iff_iff, List.all_eq_true, List.all_eq_true]
  exact forall₂_congr fun k hk => by rw [Db.masked_seat_of_none (h k hk)]

theorem voidTickets_masked (b : BookingId) (now : Time) :
    voidTickets (db.masked M) b now = (voidTickets db b now).masked M := by
  simp only [voidTickets, Db.masked]
  congr 1
  refine map_kept (fun t => ?_) db.tickets
  split <;> rfl

theorem releaseSeatsForBooking_masked (hM : M.Spares db b) (now : Time) :
    releaseSeatsForBooking (db.masked M) b now =
      ((releaseSeatsForBooking db b now).1.masked M, (releaseSeatsForBooking db b now).2) := by
  have hcount : (db.masked M).seatIds.countP (fun k =>
      decide (((db.masked M).seat k).bookingId = some b)) =
        db.seatIds.countP fun k => decide ((db.seat k).bookingId = some b) := by
    rw [List.countP_eq_length_filter, List.countP_eq_length_filter, pinned_masked hM]
  unfold releaseSeatsForBooking
  rw [voidTickets_masked, hcount, updateSeats_masked]
  exact fun k row hk => by simpa using (hM.seat k row hk).2

/-! ### The transactions of a saga -/

theorem lockSeatsForHolds_masked (hM : M.Foreign u db) (holdIds : List HoldId) :
    lockSeatsForHolds (db.masked M) holdIds u = lockSeatsForHolds db holdIds u := by
  have hids := filter_masked M db
    (fun r => (r.holdId.any fun h => h ∈ holdIds) && decide (r.heldByUserId = some u))
    fun k row hk => by simp [(hM.before k row hk).holder, (hM.behind k row hk).holder]
  unfold lockSeatsForHolds
  rw [hids]
  refine List.map_congr_left fun k hk => ?_
  have hcond := (List.mem_filter.mp hk).2
  rw [Bool.and_eq_true, decide_eq_true_eq] at hcond
  rw [Db.masked_seat_of_none (hM.uncovered hcond.2)]

theorem insertBooking_masked (hb : M.gone b = false) (row : Booking)
    {passengers : List BookingPassenger} (hq : ∀ q ∈ passengers, q.bookingId = b) :
    insertBooking (db.masked M) b row passengers = (insertBooking db b row passengers).masked M := by
  have hpassengers : (passengers.filter fun q => !M.gone q.bookingId) = passengers :=
    List.filter_eq_self.mpr fun q hmem => by simp [hq q hmem, hb]
  have hbooking : Function.update (db.masked M).booking b (some row) =
      fun k => if M.gone k then none else Function.update db.booking b (some row) k := by
    funext k
    by_cases hk : k = b
    · subst hk
      simp [hb]
    · simp [Function.update_of_ne hk]
  have href : Function.update (db.masked M).bookingRef row.ref (some b) =
      fun ref => (Function.update db.bookingRef row.ref (some b) ref).filter fun k => !M.gone k := by
    funext ref
    by_cases hr : ref = row.ref
    · subst hr
      simp [Option.filter, hb]
    · simp [Function.update_of_ne hr]
  unfold insertBooking
  rw [hbooking, href]
  simp [Db.masked, hpassengers]

theorem openedDb_masked (hb : M.gone σ.bookingId = false)
    (hq : ∀ q ∈ σ.passengers, q.bookingId = σ.bookingId) {seats : List SeatInstance}
    (hseats : ∀ i ∈ seats, M.seat i.id = none) (userId : UserId) (key : String) (now : Time) :
    openedDb (db.masked M) σ userId key now seats =
      (openedDb db σ userId key now seats).masked M := by
  have hdirty : ∀ d ∈ seats.map fun i => (i, i.row.pinned σ.bookingId), M.seat d.1.id = none := by
    intro d hd
    obtain ⟨i, hi, rfl⟩ := List.mem_map.mp hd
    exact hseats i hi
  simp only [openedDb, insertBooking_masked hb _ hq, flushSeats_masked hdirty, record_masked hb,
    note_masked hb]

/-- Step 1 does the same behind the mask, on a reference that is drawn on both sides. -/
theorem openBooking_masked (hM : M.Foreign u db) {uuid : ℕ} (hb : M.gone uuid = false)
    {pnr : ℕ → String} (hpnr : uniquePnr (db.masked M) pnr = uniquePnr db pnr) (now : Time)
    (key : String) (payload : BookingCreate) (refTaken : Bool) :
    openBooking (db.masked M) now uuid u key payload pnr refTaken =
      (openBooking db now uuid u key payload pnr refTaken).map (Prod.map (Db.masked M) id) := by
  have hseats : ∀ i ∈ lockSeatsForHolds db payload.holdIds u, M.seat i.id = none := by
    intro i hi
    obtain ⟨-, hrow, -, hholder⟩ := mem_lockSeatsForHolds hi
    exact hM.uncovered (hrow ▸ hholder)
  have hopened : ∀ ref flightId flight,
      openedDb (db.masked M) (openedSaga payload (lockSeatsForHolds db payload.holdIds u) uuid ref
          flightId flight) u key now (lockSeatsForHolds db payload.holdIds u) =
        (openedDb db (openedSaga payload (lockSeatsForHolds db payload.holdIds u) uuid ref
          flightId flight) u key now (lockSeatsForHolds db payload.holdIds u)).masked M :=
    fun ref flightId flight =>
      openedDb_masked hb (fun q hq => passengerRows_bookingId hq) hseats u key now
  simp only [openBooking, lockSeatsForHolds_masked hM, hpnr, Db.masked_flight, hopened]
  generalize lockSeatsForHolds db payload.holdIds u = seats
  by_cases hlen : seats.length ≠ payload.holdIds.length
  · simp only [if_pos hlen]
    rfl
  by_cases hlive : expiredSeats seats now ≠ []
  · simp only [if_neg hlen, if_pos hlive]
    rfl
  simp only [if_neg hlen, if_neg hlive]
  cases (seats.map fun i => i.row.flightId).dedup with
  | nil => rfl
  | cons f fs =>
    cases fs with
    | cons _ _ => rfl
    | nil =>
      dsimp only
      cases db.flight f with
      | none => rfl
      | some flight =>
        cases uniquePnr db pnr with
        | none => rfl
        | some ref =>
          dsimp only
          split_ifs <;> rfl

theorem failPaymentRows_masked (hM : M.Spares db σ.bookingId) :
    failPaymentRows (db.masked M) σ = failPaymentRows db σ := by
  unfold failPaymentRows
  rw [pinned_masked hM]
  refine List.map_congr_left fun k hk => ?_
  have hpin := of_decide_eq_true (List.mem_filter.mp hk).2
  rw [Db.masked_seat_of_none (hM.uncovered hpin)]

theorem failPayment_masked (hb : M.gone σ.bookingId = false) (f : PaymentFailure)
    {rows : List SeatInstance} (hrows : ∀ i ∈ rows, M.seat i.id = none) :
    failPayment (db.masked M) σ f rows = (failPayment db σ f rows).map (Db.masked M) := by
  have hdb : failedDb (db.masked M) σ f rows = (failedDb db σ f rows).masked M := by
    have hdirty : ∀ d ∈ rows.map fun i => (i, i.row.unpinned), M.seat d.1.id = none := by
      intro d hd
      obtain ⟨i, hi, rfl⟩ := List.mem_map.mp hd
      exact hrows i hi
    simp only [failedDb, flushPayments_masked, record_masked hb, flushBookingState_masked,
      flushSeats_masked hdirty]
  have hids : ∀ k ∈ rows.map Orm.Instance.id, M.seat k = none := by
    intro k hk
    obtain ⟨i, hi, rfl⟩ := List.mem_map.mp hk
    exact hrows i hi
  simp only [failPayment, hdb, seatsChecked_masked hids]
  split <;> rfl

theorem createPayment_masked (hb : M.gone pay.bookingId = false) :
    createPayment (db.masked M) pay = (createPayment db pay).map (Db.masked M) := by
  have hdb : insertPayment (db.masked M) pay = (insertPayment db pay).masked M := by
    simp [insertPayment, Db.masked, hb]
  unfold createPayment
  rw [hdb]
  split <;> rfl

theorem journalUnknown_masked (hb : M.gone σ.bookingId = false) :
    journalUnknown (db.masked M) σ pay = (journalUnknown db σ pay).masked M := by
  simp only [journalUnknown, flushPayment_masked, note_masked hb]

theorem recordAuthorized_masked (hb : M.gone σ.bookingId = false) (result : AuthorizationResult) :
    recordAuthorized (db.masked M) σ pay result =
      (recordAuthorized db σ pay result).map (Db.masked M) := by
  have hdb : authorizedDb (db.masked M) σ pay result = (authorizedDb db σ pay result).masked M := by
    simp only [authorizedDb, flushPayment_masked, record_masked hb, flushBookingState_masked]
  unfold recordAuthorized
  rw [hdb]
  cases assertCanTransition σ.state .paymentAuthorized with
  | some x => rfl
  | none =>
    dsimp only
    split <;> rfl

theorem noteLapsed_masked (hb : M.gone σ.bookingId = false) (userId : UserId) (now : Time) :
    noteLapsed (db.masked M) σ userId now = (noteLapsed db σ userId now).masked M := by
  unfold noteLapsed
  exact List.foldl_hom (Db.masked M) fun _ _ => note_masked hb ..

theorem liveTickets_masked :
    (db.masked M).liveTickets = db.liveTickets.filter fun t => !M.gone t.bookingId := by
  rw [Db.liveTickets, Db.masked_tickets, List.filter_comm, Db.liveTickets]

/-- A unique column admits new rows behind a mask where it does before it, if none of them
meets a row the mask takes away. -/
theorem nodup_masked {f : Ticket → ℕ} {new : List Ticket} (hl : (db.liveTickets.map f).Nodup)
    (h : ∀ t ∈ db.liveTickets, M.gone t.bookingId = true → f t ∉ new.map f) :
    ((new ++ (db.masked M).liveTickets).map f).Nodup ↔ ((new ++ db.liveTickets).map f).Nodup := by
  have hsub : (db.masked M).liveTickets.Sublist db.liveTickets := by
    rw [liveTickets_masked]
    exact List.filter_sublist
  rw [List.map_append, List.map_append]
  constructor <;> intro hnd
  · obtain ⟨hnew, -, hapart⟩ := List.nodup_append.mp hnd
    refine List.nodup_append.mpr ⟨hnew, hl, fun a ha a' ha' => ?_⟩
    obtain ⟨t, ht, rfl⟩ := List.mem_map.mp ha'
    cases hgone : M.gone t.bookingId with
    | true => exact fun heq => h t ht hgone (heq ▸ ha)
    | false =>
      refine hapart a ha (f t) (List.mem_map_of_mem ?_)
      rw [liveTickets_masked]
      exact List.mem_filter.mpr ⟨ht, by simp [hgone]⟩
  · exact hnd.sublist ((List.Sublist.refl _).append (hsub.map f))

/-- The unique indexes on tickets admit new ones on both sides, if none of them meets one
the mask takes away. -/
theorem ticketsUnique_masked (hl : db.LiveUnique) {new : List Ticket}
    (hnumber : ∀ t ∈ db.tickets, M.gone t.bookingId = true →
      t.eTicketNo ∉ new.map Ticket.eTicketNo)
    (hseat : ∀ t ∈ db.liveTickets, M.gone t.bookingId = true →
      t.seatInventoryId ∉ new.map Ticket.seatInventoryId)
    (hpassenger : ∀ t ∈ db.liveTickets, M.gone t.bookingId = true →
      t.passengerId ∉ new.map Ticket.passengerId) :
    (db.masked M).ticketsUnique new = db.ticketsUnique new := by
  have hnumbers : (new.all fun t => decide (t.eTicketNo ∉ (db.masked M).tickets.map
      Ticket.eTicketNo)) =
        new.all fun t => decide (t.eTicketNo ∉ db.tickets.map Ticket.eTicketNo) := by
    rw [Bool.eq_iff_iff, List.all_eq_true, List.all_eq_true]
    refine forall₂_congr fun t ht => ?_
    rw [decide_eq_true_eq, decide_eq_true_eq, not_iff_not, List.mem_map, List.mem_map]
    refine exists_congr fun t' => and_congr_left fun heq => ?_
    rw [Db.masked_tickets, List.mem_filter]
    refine and_iff_left_of_imp fun ht' => ?_
    cases hgone : M.gone t'.bookingId with
    | false => rfl
    | true => exact absurd (heq ▸ List.mem_map_of_mem ht) (hnumber t' ht' hgone)
  simp only [Db.ticketsUnique, nodup_masked hl.seats hseat, nodup_masked hl.passengers hpassenger,
    hnumbers]

theorem issueAssigned_masked (hb : M.gone σ.bookingId = false)
    {assigned : List (BookingPassenger × SeatInstance)}
    (hseats : ∀ pi ∈ assigned, M.seat pi.2.id = none) {uuid : ℕ} {now : Time}
    {eTicketNo : ℕ → String}
    (hunique : (db.masked M).ticketsUnique (newTickets σ.bookingId uuid now eTicketNo assigned) =
      db.ticketsUnique (newTickets σ.bookingId uuid now eTicketNo assigned)) (seqTaken : Bool) :
    issueAssigned (db.masked M) now uuid σ eTicketNo seqTaken assigned =
      (issueAssigned db now uuid σ eTicketNo seqTaken assigned).masked M := by
  have htickets : ((newTickets σ.bookingId uuid now eTicketNo assigned).filter
      fun t => !M.gone t.bookingId) = newTickets σ.bookingId uuid now eTicketNo assigned :=
    List.filter_eq_self.mpr fun t ht => by simp [newTickets_bookingId ht, hb]
  have hinsert : insertTickets (db.masked M) (newTickets σ.bookingId uuid now eTicketNo assigned) =
      (insertTickets db (newTickets σ.bookingId uuid now eTicketNo assigned)).masked M := by
    simp [insertTickets, Db.masked, htickets]
  have hdirty : ∀ d ∈ ticketedSeats σ.bookingId assigned, M.seat d.1.id = none := by
    intro d hd
    obtain ⟨pi, hpi, rfl⟩ := List.mem_map.mp hd
    exact hseats pi hpi
  have hdb : issuedDb (db.masked M) σ (newTickets σ.bookingId uuid now eTicketNo assigned)
      assigned = (issuedDb db σ (newTickets σ.bookingId uuid now eTicketNo assigned)
        assigned).masked M := by
    simp only [issuedDb, hinsert, flushSeats_masked hdirty, record_masked hb,
      flushBookingState_masked]
  have hids : ∀ k ∈ assigned.map (fun pi => pi.2.id), M.seat k = none := by
    intro k hk
    obtain ⟨pi, hpi, rfl⟩ := List.mem_map.mp hk
    exact hseats pi hpi
  simp only [issueAssigned, hunique, hdb, seatsChecked_masked hids]
  cases assertCanTransition σ.state .ticketed <;> split_ifs <;> rfl

/-- Ticketing does the same behind the mask, where the tickets it inserts go in on both
sides or on neither. -/
theorem issueTickets_masked (hb : M.gone σ.bookingId = false) (hσ : σ.Seated)
    (hseats : ∀ i ∈ σ.seats, M.seat i.id = none) {uuid : ℕ} {now : Time}
    {eTicketNo : ℕ → String} {cardToken : String}
    (hunique : triggerFor cardToken ≠ .ticketingFailure → ∀ assigned, σ.assigned = some assigned →
      (db.masked M).ticketsUnique (newTickets σ.bookingId uuid now eTicketNo assigned) =
        db.ticketsUnique (newTickets σ.bookingId uuid now eTicketNo assigned))
    (userId : UserId) (seqTaken : Bool) :
    issueTickets (db.masked M) now uuid σ userId cardToken eTicketNo seqTaken =
      (issueTickets db now uuid σ userId cardToken eTicketNo seqTaken).masked M := by
  simp only [issueTickets, noteLapsed_masked hb]
  split_ifs with hlost htrigger
  · rw [note_masked hb]
    rfl
  · rw [note_masked hb]
    rfl
  · cases ha : σ.assigned with
    | none => rfl
    | some assigned =>
      obtain ⟨rows, hrows, -⟩ := noteLapsed_eq db σ userId now
      dsimp only
      rw [hrows]
      have hfree : ∀ pi ∈ assigned, M.seat pi.2.id = none := by
        intro pi hpi
        refine hseats pi.2 ?_
        rw [← (hσ.mem_assigned ha).2]
        exact List.mem_map_of_mem hpi
      refine issueAssigned_masked hb hfree ?_ seqTaken
      exact hunique htrigger assigned ha

theorem startCompensation_masked (hb : M.gone σ.bookingId = false) (reason : String) :
    startCompensation (db.masked M) σ pay reason =
      (startCompensation db σ pay reason).map (Db.masked M) := by
  have hdb : compensatingDb (db.masked M) σ pay reason =
      (compensatingDb db σ pay reason).masked M := by
    simp only [compensatingDb, record_masked hb, flushBookingState_masked]
  unfold startCompensation
  rw [hdb]
  cases assertCanTransition σ.state .compensating <;> rfl

theorem finishVoided_masked (hM : M.Spares db σ.bookingId) (now : Time) :
    finishVoided (db.masked M) σ pay now = (finishVoided db σ pay now).map (Db.masked M) := by
  have hjournalled : M.Spares ((db.flushPayment pay pay.reversed.1).note σ.bookingId pay.reversed.2
      [("provider_ref", .ofOption .str pay.providerRef)]) σ.bookingId := hM.congr rfl
  have hdb : voidedDb (db.masked M) σ pay now = (voidedDb db σ pay now).masked M := by
    simp only [voidedDb, flushPayment_masked, note_masked hM.kept,
      releaseSeatsForBooking_masked hjournalled, flushBookingState_masked]
  unfold finishVoided
  rw [hdb]
  cases assertCanTransition σ.state .voided <;> rfl

theorem finishReview_masked (hM : M.Spares db σ.bookingId) (error : String) (now : Time) :
    finishReview (db.masked M) σ pay error now = (finishReview db σ pay error now).masked M := by
  have hreleased : ∀ db' : Db, db'.seat = db.seat → releaseSeatsForBooking (db'.masked M)
      σ.bookingId now = ((releaseSeatsForBooking db' σ.bookingId now).1.masked M,
        (releaseSeatsForBooking db' σ.bookingId now).2) :=
    fun db' hseat => releaseSeatsForBooking_masked (hM.congr hseat) now
  simp only [finishReview, record_masked hM.kept, flushBookingState_masked, hreleased,
    Db.flushBookingState_seat, Db.record_seat, note_masked hM.kept]

theorem confirm_masked (hb : M.gone σ.bookingId = false) (seqTaken : Bool) :
    confirm (db.masked M) σ pay seqTaken = (confirm db σ pay seqTaken).map (Db.masked M) := by
  have hdb : confirmedDb (db.masked M) σ pay = (confirmedDb db σ pay).masked M := by
    simp only [confirmedDb, flushPayment_masked, record_masked hb, flushBookingState_masked]
  unfold confirm
  rw [hdb]
  cases assertCanTransition σ.state .confirmed with
  | some x => rfl
  | none => cases seqTaken <;> rfl

theorem bookingPayload_masked (hb : M.gone σ.bookingId = false) (row : Booking) :
    bookingPayload (db.masked M) σ row = bookingPayload db σ row := by
  have hpassengers : (db.masked M).passengersOf σ.bookingId = db.passengersOf σ.bookingId :=
    filter_kept hb db.passengers
  have htickets : ((db.masked M).tickets.filter fun t =>
      decide (t.bookingId = σ.bookingId) && t.live) =
        db.tickets.filter fun t => decide (t.bookingId = σ.bookingId) && t.live := by
    rw [Db.masked_tickets, List.filter_filter]
    refine List.filter_congr fun t _ => ?_
    by_cases ht : t.bookingId = σ.bookingId
    · simp [ht, hb]
    · simp [ht]
  simp only [bookingPayload, hpassengers, htickets]

/-! ### Cancellation, holds and amendments -/

theorem ownedBooking_masked (hM : M.Foreign u db) (ref : String) :
    ownedBooking (db.masked M) ref u = ownedBooking db ref u := by
  refine Option.ext fun o => ?_
  obtain ⟨b, row⟩ := o
  have hkept : db.booking b = some row → row.userId = u → M.gone b = false :=
    fun hrow hu => (hM.spares hrow hu).kept
  rw [ownedBooking_eq_some_iff, ownedBooking_eq_some_iff]
  constructor
  · rintro ⟨href, hrow, hu⟩
    have hrow' : db.booking b = some row := by
      cases hb : M.gone b <;> simp [hb] at hrow
      exact hrow
    exact ⟨((Option.filter_eq_some_iff ..).mp href).1, hrow', hu⟩
  · rintro ⟨href, hrow, hu⟩
    have hb := hkept hrow hu
    exact ⟨(Option.filter_eq_some_iff ..).mpr ⟨href, by simp [hb]⟩, by simp [hb, hrow], hu⟩

theorem findPayment_masked (hb : M.gone b = false) :
    findPayment (db.masked M) b = findPayment db b := by
  unfold findPayment
  rw [Db.masked_payments, List.find?_filter]
  congr 1
  funext r
  by_cases hr : r.bookingId = b
  · simp [hr, hb, beq_eq_decide]
  · simp [hr]

theorem finishCancel_masked (hM : M.Spares db b) (state : BookingState) (userId : UserId)
    (refunded : Option Payment) (now : Time) (seqTaken : Bool) :
    finishCancel (db.masked M) b state userId refunded now seqTaken =
      (finishCancel db b state userId refunded now seqTaken).map (Prod.map (Db.masked M) id) := by
  have hdb : cancelledDb (db.masked M) b state userId refunded now =
      (cancelledDb db b state userId refunded now).masked M := by
    simp only [cancelledDb, releaseSeatsForBooking_masked hM, flushPayments_masked,
      record_masked hM.kept, flushBookingState_masked]
  unfold finishCancel
  rw [hdb, releaseSeatsForBooking_masked hM]
  cases assertCanTransition state .cancelled with
  | some x => rfl
  | none => cases seqTaken <;> rfl

theorem reviewCancel_masked (hb : M.gone b = false) (state : BookingState) (error : String)
    (seqTaken : Bool) :
    reviewCancel (db.masked M) b state error seqTaken =
      (reviewCancel db b state error seqTaken).map (Db.masked M) := by
  have hdb : reviewedDb (db.masked M) b state error = (reviewedDb db b state error).masked M := by
    simp only [reviewedDb, record_masked hb, flushBookingState_masked]
  unfold reviewCancel
  rw [hdb]
  cases seqTaken <;> rfl

theorem ownedHold_masked (hM : M.Foreign u db) (holdId : HoldId) :
    ownedHold (db.masked M) holdId u = ownedHold db holdId u := by
  unfold ownedHold
  congr 1
  funext k
  cases hk : M.seat k with
  | none => rw [Db.masked_seat_of_none hk]
  | some row => simp [hk, (hM.before k row hk).holder, (hM.behind k row hk).holder]

theorem releasable_covered (hM : M.Foreign u db) (holdId : HoldId) (k : SeatId)
    (row : SeatInventory) (hk : M.seat k = some row) :
    releasable holdId u (db.seat k) = false ∧ releasable holdId u row = false := by
  simp [releasable, (hM.before k row hk).holder, (hM.behind k row hk).holder]

theorem releasable_masked (hM : M.Foreign u db) (holdId : HoldId) :
    ((db.masked M).seatIds.filter fun k => releasable holdId u ((db.masked M).seat k)) =
      db.seatIds.filter fun k => releasable holdId u (db.seat k) :=
  filter_masked M db (releasable holdId u) (releasable_covered hM holdId)

theorem releaseHold_masked (hM : M.Foreign u db) (holdId : HoldId) :
    releaseHold (db.masked M) holdId u =
      ((releaseHold db holdId u).1.masked M, (releaseHold db holdId u).2) := by
  have hcount : (db.masked M).seatIds.countP (fun k => releasable holdId u ((db.masked M).seat k)) =
      db.seatIds.countP fun k => releasable holdId u (db.seat k) := by
    rw [List.countP_eq_length_filter, List.countP_eq_length_filter, releasable_masked hM]
  unfold releaseHold
  rw [hcount, updateSeats_masked]
  exact fun k row hk => (releasable_covered hM holdId k row hk).2

theorem updateBooking_masked (hM : M.Foreign u db) (ref : String) (payload : BookingPatch) :
    updateBooking (db.masked M) u ref payload =
      (updateBooking db u ref payload).map (Db.masked M) := by
  simp only [updateBooking, ownedBooking_masked hM]
  cases howned : ownedBooking db ref u with
  | none => rfl
  | some found =>
    obtain ⟨b, row⟩ := found
    obtain ⟨-, hrow, hu⟩ := ownedBooking_eq_some howned
    have hb := (hM.spares hrow hu).kept
    have hset : ∀ rows, setPassengers (db.masked M) (rows.filter fun q => !M.gone q.bookingId) =
        (setPassengers db rows).masked M := fun _ => rfl
    dsimp only
    cases requireState row.state [.confirmed, .ticketed] with
    | some e => rfl
    | none =>
      have hamended := amendPassengers_filter (b := b) (fun c => !M.gone c) (by simp [hb])
        payload.passengers db.passengers
      simp only [Db.masked_passengers, hamended, hset, record_masked hb]
      split <;> rfl

/-! ### The routes that read -/

/-- **The routes that read tell no difference.** -/
theorem alike_masked (hM : M.Foreign u db) : Alike u db (db.masked M) := by
  have hkept : ∀ b, db.owns u b = true → M.gone b = false := by
    intro b hb
    obtain ⟨row, hrow, hu⟩ := Db.owns_iff.mp hb
    exact (hM.spares hrow hu).kept
  refine ⟨fun b row hu => ?_, fun ref b hb => ?_, fun b hb => filter_kept (hkept b hb) _,
    fun b hb => filter_kept (hkept b hb) _, fun b hb => filter_kept (hkept b hb) _, rfl,
    fun k => ?_⟩
  · cases hgone : M.gone b with
    | false => simp [hgone]
    | true =>
      simp only [Db.masked_booking, hgone, if_true, reduceCtorEq, false_iff]
      intro hrow
      rw [(hM.spares hrow hu).kept] at hgone
      simp at hgone
  · simp [Option.filter_eq_some_iff, hkept b hb]
  · cases hk : M.seat k with
    | none => rw [Db.masked_seat_of_none hk]
    | some row => simpa [hk] using hM.seatNo k row hk

theorem getHold_masked (hM : M.Foreign u db) (t : Timetable) (now : Time) (holdId : HoldId) :
    getHold t (db.masked M) now holdId u = getHold t db now holdId u := by
  simp only [getHold, ownedHold_masked hM]
  cases howned : ownedHold db holdId u with
  | none => rfl
  | some k =>
    have hcond := List.find?_some howned
    rw [Bool.and_eq_true, decide_eq_true_eq, decide_eq_true_eq] at hcond
    have hseat : (db.masked M).seat k = db.seat k :=
      Db.masked_seat_of_none (hM.uncovered hcond.2)
    simp only [holdResponse, hseat, currencyFor, Db.masked_flight]

end Masks

end SkyLock
