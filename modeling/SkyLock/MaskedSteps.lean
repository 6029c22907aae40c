import SkyLock.MaskedTables

/-!
# A user's requests behind a mask

What a request of a user does with the database behind a mask over what the user does not
have, it does with the one before it.  The request works on bookings of its user alone, and
up to ticketing its user holds the seats of its saga, so the transactions meet no row the
mask covers; the two exceptions are the unique indexes, which know the bookings and the
tickets of everybody.

## Main definitions

* `BookingPc.InHand` — the seats a saga is about to write are its user's.
* `Mask.Clear` — what a saga is about to insert is as unique before the mask as behind it.
* `Proc.Serves` — a process works for a given user.

## Main results

* `step_masked` — **a statement of a user's request does the same behind the mask**.
* `Step.foreign_kept` — it leaves the seats that are not the user's alone.
* `Step.inHand`, `Mask.Foreign.step` — what `step_masked` assumes, a step preserves.
-/

namespace SkyLock

open Concurrent

/-! ### A request behind a mask -/

/-- The shared state behind a mask. -/
@[simps -fullyApplied] def Shared.masked {G : Type} (M : Mask) (s : Shared G) : Shared G :=
  { s with db := s.db.masked M }

/-- The seats in a request's hands are the user's: those of a saga before ticketing by their
holder, those of a failure by their pin. -/
def BookingPc.InHand (u : UserId) (db : Db) : BookingPc → Prop
  | .assess σ | .failSelect σ _ | .createPayment σ | .authorize σ _ | .journalUnknown σ _
  | .retryAuthorize σ _ | .recordAuthorized σ _ _ | .issueTickets σ _ =>
    ∀ i ∈ σ.seats, (db.seat i.id).heldByUserId = some u
  | .failCommit σ _ rows => ∀ i ∈ rows, (db.seat i.id).bookingId = some σ.bookingId
  | _ => True

/-- What the request is about to insert meets no row the mask takes away in a unique index:
no reference that `_unique_pnr` draws is an absent booking's, and no ticket has the number
or, as a live one, the seat of an absent booking's ticket. -/
def Mask.Clear (M : Mask) (db : Db) (r : BookingRequest) (x : Draws) : BookingPc → Prop
  | .openBooking => ∀ i < maxPnrAttempts, ∀ b ∈ db.bookingRef (x.pnr i),
      M.gone b = true → ∃ j < i, db.bookingRef (x.pnr j) = none
  | .issueTickets σ _ => triggerFor r.payload.cardToken ≠ .ticketingFailure →
      ∀ t ∈ db.tickets, M.gone t.bookingId = true →
        (∀ i < σ.passengers.length, t.eTicketNo ≠ x.eTicketNo i) ∧
          (t.voidedAt = none → ∀ i ∈ σ.seats, t.seatInventoryId ≠ i.id)
  | _ => True

section Steps

variable {G : Type} [PaymentGateway G] {M : Mask} {env : Env} {s : Shared G} {p : ℕ}
  {r : BookingRequest} {x : Draws} {pc : BookingPc}

/-- The first hit of a search is found by any other that agrees with it up to there. -/
theorem find?_eq_of_upto {α : Type} {f g : α → Bool} :
    ∀ {l : List α}, (∀ i (hi : i < l.length), (∀ j (hj : j < i), f l[j] = false) →
      g l[i] = f l[i]) → l.find? g = l.find? f
  | [], _ => rfl
  | a :: l, h => by
    have hhead : g a = f a := h 0 (by simp) (by simp)
    cases ha : f a with
    | true => simp [ha, hhead]
    | false =>
      rw [List.find?_cons_of_neg (by simp [hhead, ha]), List.find?_cons_of_neg (by simp [ha])]
      refine find?_eq_of_upto fun i hi hbefore => ?_
      refine h (i + 1) (by simpa using hi) fun j hj => ?_
      cases j with
      | zero => exact ha
      | succ j => exact hbefore j (by omega)

omit [PaymentGateway G] in
/-- The reference step 1 settles on is the same on both sides. -/
theorem Mask.Clear.uniquePnr_eq (hclear : M.Clear s.db r x .openBooking) :
    uniquePnr (s.db.masked M) x.pnr = uniquePnr s.db x.pnr := by
  refine find?_eq_of_upto fun i hi hbefore => ?_
  simp only [List.getElem_map, List.getElem_range] at hbefore ⊢
  cases href : s.db.bookingRef (x.pnr i) with
  | none => simp [href]
  | some b =>
    have hgone : M.gone b = false := by
      rw [Bool.eq_false_iff]
      intro hgone
      obtain ⟨j, hj, hnone⟩ := hclear i (by simpa using hi) b href hgone
      have hbusy := hbefore j hj
      rw [hnone] at hbusy
      simp at hbusy
    simp [href, Option.filter, hgone]

omit [PaymentGateway G] in
/-- The tickets of a saga go in on both sides or on neither. -/
theorem Mask.Clear.ticketsUnique_eq {σ : Saga} {pay : Payment}
    (hclear : M.Clear s.db r x (.issueTickets σ pay)) (ht : Tables s) (hl : s.db.LiveUnique)
    {u : UserId} {state : BookingState} (hbefore : σ.Before u state (s.view σ.bookingId))
    (hb : M.gone σ.bookingId = false) (htrigger : triggerFor r.payload.cardToken ≠ .ticketingFailure)
    {assigned : List (BookingPassenger × SeatInstance)} (ha : σ.assigned = some assigned) :
    (s.db.masked M).ticketsUnique
        (newTickets σ.bookingId s.uuid s.clock x.eTicketNo assigned) =
      s.db.ticketsUnique (newTickets σ.bookingId s.uuid s.clock x.eTicketNo assigned) := by
  obtain ⟨hseats, hpassengers, hnumbers⟩ := newTickets_columns hbefore.seated ha σ.bookingId s.uuid
    s.clock x.eTicketNo
  refine ticketsUnique_masked hl (fun t hmem hgone => ?_) (fun t hlive hgone => ?_)
    fun t hlive hgone => ?_
  · rw [hnumbers, List.mem_map]
    rintro ⟨i, hi, heq⟩
    exact (hclear htrigger t hmem hgone).1 i (List.mem_range.mp hi) heq.symm
  · obtain ⟨hmem, hvoid⟩ := mem_liveTickets.mp hlive
    rw [hseats, List.mem_map]
    rintro ⟨i, hi, heq⟩
    exact (hclear htrigger t hmem hgone).2 hvoid i hi heq.symm
  · -- a ticket's passenger is of the ticket's own booking
    rw [hpassengers, List.mem_map]
    rintro ⟨q, hq, heq⟩
    obtain ⟨q', hq', hid, hbooking, -⟩ := ht.seated t (mem_liveTickets.mp hlive).1
    rw [← hbefore.recorded.passengers] at hq
    obtain ⟨hq, hqb⟩ := Db.mem_passengersOf.mp hq
    obtain rfl := List.inj_on_of_nodup_map ht.passengerIds hq hq' (heq.trans hid.symm)
    rw [← hbooking, hqb, hb] at hgone
    simp at hgone

/-- What a step leads to, behind the mask. -/
abbrev behindMask {P : Type} (M : Mask) (o : Shared G × P) : Shared G × P := (o.1.masked M, o.2)

omit [PaymentGateway G] in
theorem seatsFree_masked : (s.masked M).seatsFree = s.seatsFree := rfl

omit [PaymentGateway G] in
theorem stepBegin_masked :
    stepBegin env (s.masked M) p r pc = (stepBegin env s p r pc).map (behindMask M) := by
  have hfree : (s.masked M).claimFree = s.claimFree := rfl
  cases pc
  case beginDelete now =>
    simp only [stepBegin, Shared.masked_db, Db.masked_claims, hfree]
    cases s.db.claims r.claimKey with
    | none => rfl
    | some c =>
      dsimp only
      split_ifs <;> rfl
  case beginInsert now deleted =>
    simp only [stepBegin, Shared.masked_db, Db.masked_claims, hfree]
    split_ifs <;> rfl
  case beginCommit now deleted claimed =>
    simp only [stepBegin]
    split_ifs <;> rfl
  case beginSelect =>
    simp only [stepBegin, Shared.masked_db, Db.masked_claims]
    cases resolveClaim (s.db.claims r.claimKey) (requestHash env r.payload) <;> rfl
  all_goals rfl

omit [PaymentGateway G] in
theorem stepOpen_masked (hM : M.Foreign r.userId s.db) (huuid : M.gone s.uuid = false)
    (hspares : ∀ b, pc.saga?.map Saga.bookingId = some b → M.Spares s.db b)
    (hhand : pc.InHand r.userId s.db) (hclear : M.Clear s.db r x pc) :
    stepOpen (s.masked M) p r x pc = (stepOpen s p r x pc).map (behindMask M) := by
  cases pc
  case openBooking =>
    simp only [stepOpen, Shared.masked_db, Shared.masked_clock, Shared.masked_uuid,
      lockSeatsForHolds_masked hM, seatsFree_masked,
      openBooking_masked hM huuid hclear.uniquePnr_eq]
    split
    · cases openBooking s.db s.clock s.uuid r.userId r.key r.payload x.pnr x.refTaken <;> rfl
    · rfl
  case assess σ =>
    simp only [stepOpen]
    split <;> rfl
  case failSelect σ f =>
    simp only [stepOpen, Shared.masked_db, failPaymentRows_masked (hspares σ.bookingId rfl)]
    cases startFailure σ f <;> rfl
  case failCommit σ f rows =>
    have hM := hspares σ.bookingId rfl
    simp only [stepOpen, Shared.masked_db, seatsFree_masked,
      failPayment_masked hM.kept f fun i hi => hM.uncovered (hhand i hi)]
    split
    · cases failPayment s.db σ f rows <;> rfl
    · rfl
  all_goals rfl

theorem stepCharge_masked
    (hspares : ∀ b, pc.saga?.map Saga.bookingId = some b → M.Spares s.db b) :
    stepCharge env (s.masked M) r pc = (stepCharge env s r pc).map (behindMask M) := by
  cases pc
  case createPayment σ =>
    have hb : M.gone (newPayment env σ s.uuid (PaymentGateway.name G) r.payload.cardToken
        r.key).bookingId = false := (hspares σ.bookingId rfl).kept
    simp only [stepCharge, Shared.masked_db, Shared.masked_uuid, createPayment_masked hb]
    cases createPayment s.db _ <;> rfl
  case authorize σ pay =>
    simp only [stepCharge, Shared.masked_gateway]
    cases PaymentGateway.authorize s.gateway (authorizeRequest σ pay) with
    | mk out g => cases out <;> rfl
  case journalUnknown σ pay =>
    simp only [stepCharge, Shared.masked_db, journalUnknown_masked (hspares σ.bookingId rfl).kept]
    rfl
  case retryAuthorize σ pay =>
    simp only [stepCharge, Shared.masked_gateway]
    cases PaymentGateway.authorize s.gateway (authorizeRequest σ pay) with
    | mk out g => cases out <;> rfl
  case recordAuthorized σ pay result =>
    simp only [stepCharge, Shared.masked_db,
      recordAuthorized_masked (hspares σ.bookingId rfl).kept]
    cases recordAuthorized s.db σ pay result <;> rfl
  all_goals rfl

omit [PaymentGateway G] in
theorem stepIssue_masked (hM : M.Foreign r.userId s.db) (ht : Tables s) (hl : s.db.LiveUnique)
    (ho : ∀ b, pc.booking? = some b → pc.Outline r b (s.view b))
    (hspares : ∀ b, pc.saga?.map Saga.bookingId = some b → M.Spares s.db b)
    (hhand : pc.InHand r.userId s.db) (hclear : M.Clear s.db r x pc) :
    stepIssue (s.masked M) p r x pc = (stepIssue s p r x pc).map (behindMask M) := by
  cases pc
  case issueTickets σ pay =>
    have hbefore := (ho σ.bookingId rfl).1
    have hb := (hspares σ.bookingId rfl).kept
    have hissue : issueTickets (s.db.masked M) s.clock s.uuid σ r.userId r.payload.cardToken
        x.eTicketNo x.seqTaken = (issueTickets s.db s.clock s.uuid σ r.userId r.payload.cardToken
          x.eTicketNo x.seqTaken).masked M :=
      issueTickets_masked hb hbefore.seated (fun i hi => hM.uncovered (hhand i hi))
        (fun htrigger assigned ha => hclear.ticketsUnique_eq ht hl hbefore hb htrigger ha) _ _
    simp only [stepIssue, Shared.masked_db, Shared.masked_clock, Shared.masked_uuid,
      seatsFree_masked, hissue]
    split
    · cases issueTickets s.db s.clock s.uuid σ r.userId r.payload.cardToken x.eTicketNo
        x.seqTaken with
      | issued db σ' => rfl
      | refused db reason =>
        simp only [Issue.masked, startCompensation_masked hb]
        cases startCompensation db σ pay reason <;> rfl
      | raised e => rfl
    · rfl
  all_goals rfl

theorem stepCompensate_masked
    (hspares : ∀ b, pc.saga?.map Saga.bookingId = some b → M.Spares s.db b) :
    stepCompensate (s.masked M) p r pc = (stepCompensate s p r pc).map (behindMask M) := by
  cases pc
  case reverse σ pay reason =>
    simp only [stepCompensate, Shared.masked_gateway]
    cases reverseCharge (armed s.gateway r.payload.cardToken pay) σ pay with
    | mk o call =>
      obtain ⟨out, g⟩ := o
      cases out <;> rfl
  case finishVoided σ pay reason =>
    have hM := hspares σ.bookingId rfl
    simp only [stepCompensate, Shared.masked_db, Shared.masked_clock, seatsFree_masked,
      pinned_masked hM, finishVoided_masked hM]
    split
    · cases finishVoided s.db σ pay s.clock <;> rfl
    · rfl
  case finishReview σ pay reason error =>
    have hM := hspares σ.bookingId rfl
    simp only [stepCompensate, Shared.masked_db, Shared.masked_clock, seatsFree_masked,
      pinned_masked hM, finishReview_masked hM]
    split <;> rfl
  all_goals rfl

theorem stepConfirm_masked
    (hspares : ∀ b, pc.saga?.map Saga.bookingId = some b → M.Spares s.db b) :
    stepConfirm (s.masked M) x pc = (stepConfirm s x pc).map (behindMask M) := by
  cases pc
  case capture σ pay =>
    simp only [stepConfirm, Shared.masked_gateway]
    cases PaymentGateway.capture s.gateway _ _ with
    | mk out g => cases out <;> rfl
  case confirm σ pay =>
    simp only [stepConfirm, Shared.masked_db, confirm_masked (hspares σ.bookingId rfl).kept]
    cases confirm s.db σ pay x.seqTaken <;> rfl
  case refresh σ =>
    have hb := (hspares σ.bookingId rfl).kept
    simp only [stepConfirm, Shared.masked_db, Db.masked_booking, hb, Bool.false_eq_true, if_false,
      bookingPayload_masked hb]
    cases s.db.booking σ.bookingId <;> rfl
  all_goals rfl

omit [PaymentGateway G] in
theorem stepComplete_masked :
    stepComplete (s.masked M) p r pc = (stepComplete s p r pc).map (behindMask M) := by
  have hfree : (s.masked M).claimFree = s.claimFree := rfl
  cases pc
  case completeSelect o b =>
    simp only [stepComplete, Shared.masked_db, Db.masked_claims]
    cases s.db.claims r.claimKey <;> rfl
  case completeCommit o b =>
    simp only [stepComplete, Shared.masked_db, Db.masked_claims, hfree]
    split
    · cases s.db.claims r.claimKey <;> rfl
    · rfl
  case release e b =>
    simp only [stepComplete, hfree]
    split <;> rfl
  all_goals rfl

/-- A statement of `create_booking` does the same behind the mask. -/
theorem stepBooking_masked (hM : M.Foreign r.userId s.db) (ht : Tables s) (hl : s.db.LiveUnique)
    (huuid : M.gone s.uuid = false)
    (ho : ∀ b, pc.booking? = some b → pc.Outline r b (s.view b))
    (hspares : ∀ b, pc.saga?.map Saga.bookingId = some b → M.Spares s.db b)
    (hhand : pc.InHand r.userId s.db) (hclear : M.Clear s.db r x pc) :
    stepBooking env (s.masked M) p r x pc =
      (stepBooking env s p r x pc).map (behindMask M) := by
  unfold stepBooking
  cases pc
  case beginDelete | beginInsert | beginCommit | beginSelect => exact stepBegin_masked
  case openBooking | assess | failSelect | failCommit =>
    exact stepOpen_masked hM huuid hspares hhand hclear
  case createPayment | authorize | journalUnknown | retryAuthorize | recordAuthorized =>
    exact stepCharge_masked hspares
  case issueTickets => exact stepIssue_masked hM ht hl ho hspares hhand hclear
  case reverse | finishVoided | finishReview => exact stepCompensate_masked hspares
  case capture | confirm | refresh => exact stepConfirm_masked hspares
  case completeSelect | completeCommit | release => exact stepComplete_masked
  case done => rfl

omit [PaymentGateway G] in
theorem stepRelease_masked {q : ReleaseRequest} {pc : ReleasePc} (hM : M.Foreign q.userId s.db) :
    stepRelease (s.masked M) p q pc = (stepRelease s p q pc).map (behindMask M) := by
  cases pc
  case load =>
    simp only [stepRelease, Shared.masked_db, ownedHold_masked hM]
    cases ownedHold s.db q.holdId q.userId <;> rfl
  case update =>
    simp only [stepRelease, Shared.masked_db, seatsFree_masked, releasable_masked hM,
      releaseHold_masked hM]
    split_ifs <;> rfl
  case done reply => rfl

theorem stepCancel_masked {q : CancelRequest} {pc : CancelPc} (hM : M.Foreign q.userId s.db)
    (hspares : ∀ b, pc.booking? = some b → M.Spares s.db b) :
    stepCancel (s.masked M) p q x pc = (stepCancel s p q x pc).map (behindMask M) := by
  cases pc
  case load =>
    simp only [stepCancel, Shared.masked_db, ownedBooking_masked hM]
    cases ownedBooking s.db q.ref q.userId with
    | none => rfl
    | some found =>
      obtain ⟨b, row⟩ := found
      dsimp only
      cases requireState row.state [.confirmed, .ticketed] <;> rfl
  case selectPayment b state =>
    simp only [stepCancel, Shared.masked_db, findPayment_masked (hspares b rfl).kept]
    rfl
  case lockSeats b state pay =>
    have hM := hspares b rfl
    have hlocked : (s.masked M).lockSeatsOf p b = (s.lockSeatsOf p b).masked M := by
      unfold Shared.lockSeatsOf Shared.masked
      congr 1
      funext k
      cases hk : M.seat k with
      | none => rw [Db.masked_seat_of_none hk]
      | some row => simp [hk, hM.seat k row hk]
    simp only [stepCancel, Shared.masked_db, seatsFree_masked, pinned_masked hM, hlocked]
    split
    · cases pay <;> rfl
    · rfl
  case refund b state pay =>
    simp only [stepCancel, Shared.masked_gateway]
    cases PaymentGateway.refund s.gateway _ _ _ with
    | mk out g => cases out <;> rfl
  case finish b state refunded =>
    simp only [stepCancel, Shared.masked_db, Shared.masked_clock,
      finishCancel_masked (hspares b rfl)]
    cases finishCancel s.db b state q.userId refunded s.clock x.seqTaken <;> rfl
  case review b state error =>
    simp only [stepCancel, Shared.masked_db, reviewCancel_masked (hspares b rfl).kept]
    cases reviewCancel s.db b state error x.seqTaken <;> rfl
  case done reply => rfl

/-! ### The rows in a request's hands -/

/-- The request is the user's, for a booking, for a cancellation or to release a hold. -/
def Request.By (u : UserId) : Request → Prop
  | .createBooking r => r.userId = u
  | .deleteHold r => r.userId = u
  | .cancelBooking r => r.userId = u
  | .createHold _ | .sweep => False

/-- The process serves such a request, or none. -/
def Proc.Serves (u : UserId) : Proc → Prop
  | .idle => True
  | .booking r _ => r.userId = u
  | .release r _ => r.userId = u
  | .cancel r _ => r.userId = u
  | .hold _ _ | .sweep _ => False

/-- The seats in a process's hands are the user's. -/
def Proc.InHand (u : UserId) (db : Db) : Proc → Prop
  | .booking _ pc => pc.InHand u db
  | _ => True

/-- What the process is about to insert meets no row the mask takes away. -/
def Proc.Clear (M : Mask) (db : Db) (x : Draws) : Proc → Prop
  | .booking r pc => M.Clear db r x pc
  | _ => True

variable {u : UserId} {s' : Shared G} {P P' : Proc} {a : Input}

theorem Proc.Serves.user? (h : P.Serves u) (hw : P.writes ≠ none) : P.user? = some u := by
  cases P with
  | booking r pc => exact congrArg some h
  | cancel r pc => exact congrArg some h
  | idle | hold | release | sweep => exact absurd rfl hw

theorem Proc.Serves.user?_ne (h : P.Serves u) {v : UserId} (hv : v ≠ u) : P.user? ≠ some v := by
  cases P with
  | booking r pc | release r pc | cancel r pc =>
    obtain rfl : r.userId = u := h
    exact fun huser => hv (Option.some.inj huser).symm
  | idle => simp [Proc.user?]
  | hold | sweep => exact h.elim

omit [PaymentGateway G] in
/-- The booking a user's request works on is the user's. -/
theorem Proc.Serves.owns (h : P.Serves u) (hP : P.Entitled s) {b : BookingId}
    (hw : P.writes = some b) : ∃ row, s.db.booking b = some row ∧ row.userId = u := by
  obtain ⟨row, hrow, huser⟩ := hP b hw
  have hu := h.user? (by simp [hw])
  rw [huser] at hu
  exact ⟨row, hrow, Option.some.inj hu⟩

omit [PaymentGateway G] in
theorem Mask.Foreign.gone_fresh (hM : M.Foreign u s.db) (ht : Tables s) :
    M.gone s.uuid = false := by
  cases hgone : M.gone s.uuid with
  | false => rfl
  | true =>
    obtain ⟨row, hrow, -⟩ := hM.gone s.uuid hgone
    exact absurd (ht.lt_of_booking hrow) (lt_irrefl _)

/-- **A statement of a user's request does the same behind the mask.** -/
theorem step_masked (hserves : P.Serves u) (hM : M.Foreign u s.db) (ht : Tables s)
    (hl : s.db.LiveUnique) (ho : P.Outline s) (hP : P.Entitled s) (hhand : P.InHand u s.db)
    (hclear : ∀ x, a = .go x → P.Clear M s.db x) :
    step env (s.masked M) p P a = (step env s p P a).map (behindMask M) := by
  have hspares : ∀ b, P.writes = some b → M.Spares s.db b := by
    intro b hw
    obtain ⟨row, hrow, hu⟩ := hserves.owns hP hw
    exact hM.spares hrow hu
  have hmapped : ∀ {Q : Type} {f : Q → Proc} {o o' : Option (Shared G × Q)},
      o' = o.map (behindMask M) →
        (o'.map fun o => (o.1, f o.2)) = (o.map fun o => (o.1, f o.2)).map (behindMask M) := by
    rintro Q f o o' rfl
    simp [Function.comp_def]
  cases P with
  | idle =>
    cases a with
    | tick d => rfl
    | arrive q => rfl
    | go x => rfl
  | booking r pc =>
    obtain rfl : r.userId = u := hserves
    cases a with
    | tick d => rfl
    | arrive q => rfl
    | go x =>
      exact hmapped (stepBooking_masked hM ht hl (hM.gone_fresh ht) (fun b hb => (ho b hb).2)
        hspares hhand (hclear x rfl))
  | release q pc =>
    obtain rfl : q.userId = u := hserves
    cases a with
    | tick d => rfl
    | arrive q => rfl
    | go x => exact hmapped (stepRelease_masked hM)
  | cancel q pc =>
    obtain rfl : q.userId = u := hserves
    cases a with
    | tick d => rfl
    | arrive q => rfl
    | go x => exact hmapped (stepCancel_masked hM hspares)
  | hold q pc => exact hserves.elim
  | sweep pc => exact hserves.elim

/-- A step of a user's request leaves the seats that are not the user's alone. -/
theorem Step.foreign_kept (h : Step env s p P a s' P') (hserves : P.Serves u) (ho : P.Outline s)
    (hP : P.Entitled s) (hhand : P.InHand u s.db) {k : SeatId}
    (hk : (s.db.seat k).Foreign s.db u) : s'.db.seat k = s.db.seat k := by
  -- nothing of the user's own bookings is pinned there
  have hpin : ∀ b, P.writes = some b → (s.db.seat k).bookingId ≠ some b := by
    intro b hw hb
    obtain ⟨row, hrow, hne⟩ := hk.pin b hb
    obtain ⟨row', hrow', hu⟩ := hserves.owns hP hw
    obtain rfl := Option.some.inj (hrow.symm.trans hrow')
    exact hne hu
  have hw := h.seatWrite ho k
  generalize s'.db.seat k = row at hw
  cases hw with
  | kept => rfl
  | @pins r σ hmem hk' hb hstatus hholder =>
    obtain rfl : r.userId = u := hserves
    exact absurd hholder hk.holder
  | unpins hmem =>
    obtain ⟨i, hi, rfl⟩ := List.mem_map.mp hmem
    exact absurd (hhand i hi) (hpin _ rfl)
  | tickets hmem =>
    obtain ⟨i, hi, rfl⟩ := List.mem_map.mp hmem
    exact absurd (hhand i hi) hk.holder
  | @returns _ _ b hret hbooking =>
    refine absurd hbooking (hpin b ?_)
    cases P with
    | booking r pc => cases pc <;> first | exact hret | simp [Proc.returning?] at hret
    | cancel r pc => cases pc <;> first | exact hret | simp [Proc.returning?] at hret
    | _ => simp [Proc.returning?] at hret
  | acquires => exact hserves.elim
  | @releases r reply hrel =>
    obtain rfl : r.userId = u := hserves
    simp only [releasable, Bool.and_eq_true, decide_eq_true_eq] at hrel
    exact absurd hrel.2.2 hk.holder
  | sweeps => exact hserves.elim

/-- Between step 1 and ticketing a saga writes no seat but in `_fail_payment`. -/
theorem Step.inHand (h : Step env s p P a s' P') (hserves : P.Serves u)
    (hhand : P.InHand u s.db) : P'.InHand u s'.db := by
  cases h
  case booking r x pc pc' h =>
    obtain rfl : r.userId = u := hserves
    cases h
    case opens seats flightId flight ref hseats hf hlen hlive hids hflight hpnr htotal href =>
      intro i hi
      obtain ⟨j, hj, rfl⟩ := mem_openedSaga_seats.mp hi
      have hspec : ∀ i ∈ seats, i.row = s.db.seat i.id ∧ i.row.heldByUserId = some r.userId := by
        intro i hi
        rw [← hseats] at hi
        obtain ⟨-, hrow, -, hholder⟩ := mem_lockSeatsForHolds hi
        exact ⟨hrow, hholder⟩
      show ((openedDb s.db _ r.userId r.key s.clock seats).seat j.id).heldByUserId = some r.userId
      rw [openedDb_seat fun i hi => (hspec i hi).1, if_pos (List.mem_map_of_mem hj)]
      exact (hspec j hj).1 ▸ (hspec j hj).2
    case opensNothing e _ => cases e <;> trivial
    case selectsFailed σ f _ _ =>
      intro i hi
      obtain ⟨k, hk, rfl⟩ := List.mem_map.mp hi
      rw [Orm.materialize_id]
      exact of_decide_eq_true (List.mem_filter.mp hk).2
    case selectIllegal e _ | recordIllegal e _ | refuseIllegal e _ _ | issueRolledBack e _ _ _ _
      | voidIllegal e _ | confirmIllegal e _ => cases e <;> trivial
    case authorizes result _ | retries result _ =>
      unfold afterAuthorize
      split <;> exact hhand
    case blocks | passes | createsPayment | timesOut | journals | recordsAuthorized => exact hhand
    all_goals trivial
  case arrive q => cases q <;> trivial
  all_goals trivial

theorem SeatInventory.Foreign.step {row : SeatInventory} (hr : row.Foreign s.db u)
    (h : Step env s p P a s' P') (ht : Tables s) : row.Foreign s'.db u := by
  refine ⟨hr.holder, fun b hb => ?_⟩
  obtain ⟨booking, hbooking, hne⟩ := hr.pin b hb
  obtain ⟨booking', hbooking', hsame⟩ := h.user_kept ht hbooking
  exact ⟨booking', hbooking', hsame ▸ hne⟩

/-- A mask over what is not the user's stays one, where the seats it covers stay as they are. -/
theorem Mask.Foreign.step (hM : M.Foreign u s.db) (h : Step env s p P a s' P') (ht : Tables s)
    (hkept : ∀ k, (s.db.seat k).Foreign s.db u → s'.db.seat k = s.db.seat k) :
    M.Foreign u s'.db where
  gone b hb := by
    obtain ⟨row, hrow, hne⟩ := hM.gone b hb
    obtain ⟨row', hrow', hsame⟩ := h.user_kept ht hrow
    exact ⟨row', hrow', hsame ▸ hne⟩
  before k row hk := by
    rw [hkept k (hM.before k row hk)]
    exact (hM.before k row hk).step h ht
  behind k row hk := (hM.behind k row hk).step h ht
  seatNo k row hk := by
    rw [hkept k (hM.before k row hk)]
    exact hM.seatNo k row hk

end Steps

end SkyLock
