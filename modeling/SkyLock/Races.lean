import SkyLock.Agreement
import SkyLock.Failures

/-!
# Bookings that race

Any number of bookings race for overlapping holds, under keys of their own, with
cards the gateway approves and a gateway that never fails.  The re-verification
never finds a seat lost, so a loser is not turned away by the code but stopped by
a constraint.  Where no constraint objects, every request ends as documented, and
one that is not confirmed has cost nothing.

## Main definitions

* `Race` — the setting: what arrives, and how the gateway answers.
* `Unopposed` — no constraint objects to a step.
* `CleanEnd`, `OneWinner` — what the requests owe.
* `RaceInvariant` — what holds at each point of each request.

## Main results

* `oneWinner_holds` — no two confirmed bookings share a seat, in any run.
* `races_end_clean` — **where no constraint objects, every request ends as
  documented, and one that is not confirmed leaves no charge**.
* `loser_dies` — the loser of a race ends in a 500 with its card charged.
-/

namespace SkyLock

open Concurrent

variable {G : Type} [PaymentGateway G] {env : Env} {s s' : Shared G} {p : ℕ}

/-! ### The setting -/

/-- The key of a booking request. -/
def Proc.key? : Proc → Option String
  | .booking r _ => some r.key
  | _ => none

/-- Bookings arrive under keys of their own, and nobody cancels. -/
def Arriving (w : World (Shared G) Proc) : Input → Prop
  | .arrive (.createBooking r) => ∀ q, (w.proc q).key? ≠ some r.key
  | .arrive (.cancelBooking _) => False
  | _ => True

/-- The gateway approves the card, and never fails. -/
def Approving (w : World (Shared G) Proc) (p : ℕ) : Prop :=
  match w.proc p with
  | .booking _ (.authorize σ pay) =>
    match (authorizeOutcome w.shared σ pay).1 with
    | .ok result => result.approved = true
    | .error _ => False
  | .booking r (.reverse σ pay _) => succeeded (reverseOutcome w.shared r σ pay).1.1 = true
  | .booking _ (.capture _ pay) => succeeded (captureOutcome w.shared pay).1 = true
  | _ => True

/-- A step of a race. -/
def Race (w : World (Shared G) Proc) (p : ℕ) (a : Input) : Prop := Arriving w a ∧ Approving w p

/-- No constraint objects to the step: a reference is left for step 1 and the total fits
its column, the payment row and the reference of the charge fit theirs, the rows a failed
payment unpins are not booked, nothing stands in the way of the tickets, and the audit
number is free. -/
def Unopposed (w : World (Shared G) Proc) (p : ℕ) (a : Input) : Prop :=
  match w.proc p, a with
  | .booking r .openBooking, .go x =>
    (uniquePnr w.shared.db x.pnr).isSome ∧ Numeric (r.totalIn w.shared.db) ∧ x.refTaken = false
  | .booking r (.createPayment _), _ => (gatewayKey r.key).length ≤ idempotencyKeyWidth
  | .booking _ (.recordAuthorized _ _ result), _ => Varchar 64 result.providerRef
  | .booking _ (.failCommit _ _ rows), _ => ∀ i ∈ rows, (w.shared.db.seat i.id).status ≠ .booked
  | .booking r (.issueTickets σ _), .go x =>
    triggerFor r.payload.cardToken = .ticketingFailure ∨ Issuable w.shared.db σ x
  | .booking _ (.confirm _ _), .go x => x.seqTaken = false
  | _, _ => True

/-! ### What the requests owe -/

/-- A request that ended with the reply, having created the booking `b?` if any,
has a documented status; it is confirmed if it is a 201, and else its booking is
settled and its charge reversed. -/
structure CleanEnd (s : Shared G) (reply : Reply) (b? : Option BookingId) : Prop where
  status : reply.status ∈ [201, 403, 404, 409]
  confirmed : reply.status = 201 →
    ∃ b row, b? = some b ∧ s.db.booking b = some row ∧ row.state = .confirmed
  lost : reply.status ≠ 201 → ∀ b, b? = some b → ¬ Unreversed b s.calls ∧
    ∃ row, s.db.booking b = some row ∧
      row.state ∈ [.voided, .paymentFailed, .needsManualReview]

/-- No two confirmed bookings share a seat. -/
def OneWinner (db : Db) : Prop :=
  ∀ b b' row row', db.booking b = some row → row.state = .confirmed →
    db.booking b' = some row' → row'.state = .confirmed →
      ∀ q ∈ db.passengersOf b, ∀ q' ∈ db.passengersOf b',
        q.seatInventoryId = q'.seatInventoryId → b = b'

omit [PaymentGateway G] in
/-- The seat of a passenger of a confirmed booking has a live ticket of that booking. -/
theorem exists_ticket_of_confirmed (ht : Tables s) {b : BookingId} {row : Booking}
    (hfits : (s.view b).Fits row.state) (hs : row.state = .confirmed) {q : BookingPassenger}
    (hq : q ∈ s.db.passengersOf b) :
    ∃ t ∈ s.db.liveTickets, t.bookingId = b ∧ q.seatInventoryId = some t.seatInventoryId := by
  have hwhole : (s.view b).Whole := by
    rw [hs] at hfits
    exact hfits
  obtain ⟨t, hmem, hb, hid⟩ := hwhole.exists_live hq
  obtain ⟨q', hq', hid', -, hseat⟩ := ht.seated t (mem_liveTickets.mp hmem).1
  obtain rfl : q' = q := List.inj_on_of_nodup_map ht.passengerIds hq' (Db.mem_passengersOf.mp hq).1
    (hid'.trans hid)
  exact ⟨t, hmem, hb, hseat⟩

/-- No two confirmed bookings share a seat, in any run. -/
theorem oneWinner_holds {C : World (Shared G) Proc → ℕ → Input → Prop} {db : Db} {g : G}
    {clock : Time} {w : World (Shared G) Proc} {as : List (ℕ × Input)} (hdb : db.Initial)
    (h : (service env G).Run C (initialWorld db g clock) as w) : OneWinner w.shared.db := by
  intro b b' row row' hrow hs hrow' hs' q hq q' hq' hseat
  have ht := (outline_holds hdb h).shared
  have hlive := liveUnique_holds hdb h
  obtain ⟨t, hmem, rfl, hqt⟩ := exists_ticket_of_confirmed ht (fits_holds hdb h b row hrow) hs hq
  obtain ⟨t', hmem', rfl, hqt'⟩ :=
    exists_ticket_of_confirmed ht (fits_holds hdb h b' row' hrow') hs' hq'
  have heq : t.seatInventoryId = t'.seatInventoryId :=
    Option.some.inj (hqt.symm.trans (hseat.trans hqt'))
  rw [List.inj_on_of_nodup_map hlive.seats hmem hmem' heq]

/-! ### What holds at each point -/

/-- A documented reply; a 201 is for a confirmed booking. -/
def Documented (s : Shared G) (b? : Option BookingId) : Reply → Prop
  | .json status _ _ =>
    status = 201 ∧ ∃ b row, b? = some b ∧ s.db.booking b = some row ∧ row.state = .confirmed
  | .problem e => e.statusCode ∈ [403, 404, 409]
  | .serverError _ => False

/-- The request's claim is in the table, and no transaction has it locked. -/
def Claimed (s : Shared G) (r : BookingRequest) : Prop :=
  (s.db.claims r.claimKey).isSome ∧ s.claimLocks r.claimKey = none

/-- What holds of a racing request at each of its points. -/
def BookingPc.Racing (s : Shared G) (p : ℕ) (r : BookingRequest) : BookingPc → Prop
  | .beginDelete _ | .beginInsert _ false =>
    s.db.claims r.claimKey = none ∧ s.claimLocks r.claimKey = none
  | .beginCommit _ false true =>
    s.db.claims r.claimKey = none ∧ s.claimLocks r.claimKey = some p
  | .beginInsert _ true | .beginCommit _ _ _ | .beginSelect | .journalUnknown _ _
  | .retryAuthorize _ _ | .finishReview _ _ _ _ | .release _ _ => False
  | .failSelect _ f => Claimed s r ∧ f.error.statusCode = 403 ∧ f.Writable
  | .failCommit _ f rows =>
    Claimed s r ∧ f.error.statusCode = 403 ∧ rows.map Orm.Instance.id ⊆ s.db.seatIds
  | .capture σ _ | .confirm σ _ => Claimed s r ∧ s.db.StateIs σ.bookingId .ticketed
  | .refresh σ => Claimed s r ∧ s.db.StateIs σ.bookingId .confirmed
  | .completeSelect o b | .completeCommit o b => Claimed s r ∧ Documented s b o.reply
  | .done reply b => Documented s b reply
  | _ => Claimed s r

/-- What holds of each process of a race. -/
def Proc.Racing (s : Shared G) (p : ℕ) : Proc → Prop
  | .booking r pc => pc.Racing s p r
  | .cancel _ _ => False
  | _ => True

/-- What holds in every world of a race. -/
structure RaceInvariant (w : World (Shared G) Proc) : Prop where
  outline : (outline G).Holds w
  live : w.shared.db.LiveUnique
  keys : ∀ p q, p ≠ q → ∀ key, (w.proc p).key? = some key → (w.proc q).key? ≠ some key
  racing : ∀ p, (w.proc p).Racing w.shared p
  /-- A claim and the lock of a claim are some request's. -/
  claims : ∀ k, w.shared.db.claims k ≠ none ∨ w.shared.claimLocks k ≠ none →
    ∃ p, (w.proc p).key? = some k.1
  locks : ∀ k, w.shared.locks k = none
  unflagged : ∀ b row, w.shared.db.booking b = some row → row.state ≠ .needsManualReview

/-! ### The mover -/

omit [PaymentGateway G] in
/-- With a reference left for it and a total that fits, step 1 fails only in documented
ways. -/
theorem openBooking_error_status {db : Db} {now : Time} {uuid : ℕ} {userId : UserId}
    {key : String} {payload : BookingCreate} {pnr : ℕ → String} {e : Failure}
    (h : openBooking db now uuid userId key payload pnr false = .error e)
    (hpnr : (uniquePnr db pnr).isSome)
    (htotal : Numeric ((lockSeatsForHolds db payload.holdIds userId).map fun i => i.row.price).sum) :
    ∃ e', e = .app e' ∧ e'.statusCode ∈ [404, 409] := by
  obtain ⟨ref, hpnr⟩ := Option.isSome_iff_exists.mp hpnr
  have htotal : ∀ f flight, Numeric (openedSaga payload
      (lockSeatsForHolds db payload.holdIds userId) uuid ref f flight).total := fun _ _ => htotal
  unfold openBooking at h
  simp only [hpnr, htotal, not_true_eq_false, Bool.false_eq_true, if_false] at h
  split at h
  · obtain rfl := Except.error.inj h
    exact ⟨_, rfl, by simp [AppError.notFound, AppError.raised]⟩
  split at h
  · obtain rfl := Except.error.inj h
    exact ⟨_, rfl, by simp [AppError.holdExpired, AppError.raised]⟩
  split at h
  · split at h
    · obtain rfl := Except.error.inj h
      exact ⟨_, rfl, by simp [AppError.notFound, AppError.raised]⟩
    · exact absurd h (by simp)
  · obtain rfl := Except.error.inj h
    exact ⟨_, rfl, by simp [AppError.seatUnavailable, AppError.raised]⟩

/-- A row that a flush moves from `loaded` is in its new state. -/
theorem stateIs_flush {db db' : Db} {b : BookingId} {loaded current : BookingState} {row : Booking}
    (hrow : db.booking b = some row)
    (hflush : db'.booking b = (db.booking b).map (Booking.merge loaded current))
    (hne : current ≠ loaded) : db'.StateIs b current :=
  ⟨row.merge loaded current, by rw [hflush, hrow]; rfl, Orm.writeBack_dirty row.state hne⟩

theorem BookingStep.racing {w : World (Shared G) Proc} {r : BookingRequest} {x : Draws}
    {pc pc' : BookingPc} (h : BookingStep env w.shared p r x pc s' pc')
    (hp : w.proc p = .booking r pc) (hrace : Race w p (.go x)) (hfree : Unopposed w p (.go x))
    (hw : RaceInvariant w) : pc'.Racing s' p r := by
  have ht := hw.outline.shared
  have ho : ∀ b, pc.booking? = some b → pc.Outline r b (w.shared.view b) := by
    have hown := hw.outline.own p
    rw [hp] at hown
    exact fun b hb => (hown b hb).2
  have hr : pc.Racing w.shared p r := by
    have hracing := hw.racing p
    rwa [hp] at hracing
  have happ := hrace.2
  simp only [Approving, hp] at happ
  simp only [Unopposed, hp] at hfree
  cases h
  -- the request is the only one under its key, so nothing is in the way of its claim
  case deletes hc _ _ => exact absurd (hr.1.symm.trans hc) (by simp)
  case deletesNothing => exact hr
  case inserts now deleted hf hc =>
    cases deleted with
    | true => exact hr.elim
    | false => exact ⟨hr.1, Function.update_self ..⟩
  case insertsNothing hf hc => exact absurd (hr.1.symm.trans hc) (by simp)
  case claims now deleted =>
    cases deleted with
    | true => exact hr.elim
    | false => exact ⟨by simp, Function.update_self ..⟩
  case clears | yields | replays | rejects => exact hr.elim
  case opens => exact hr
  -- step 1 can only fail with a documented error: a reference is free and the total fits
  case opensNothing e h =>
    obtain ⟨hpnr, htotal, href⟩ := hfree
    rw [href] at h
    obtain ⟨e, rfl, hstatus⟩ := openBooking_error_status h hpnr htotal
    exact ⟨hr, List.mem_cons_of_mem _ hstatus⟩
  case blocks => exact ⟨hr, rfl, blockedFailure_writable _⟩
  case passes => exact hr
  case selectsFailed σ f h _ =>
    refine ⟨hr.1, hr.2.1, fun k hk => ?_⟩
    obtain ⟨i, hi, rfl⟩ := List.mem_map.mp hk
    exact (failPaymentRows_pinned hi).1
  case selectRefused σ f hw => exact absurd hr.2.2 hw
  case selectIllegal σ f e h => exact absurd h ((ho σ.bookingId rfl).1.not_illegal (by decide))
  case fails σ f rows hf h => exact ⟨hr.1, by simp [Outcome.reply, Documented, hr.2.1]⟩
  case failRolledBack σ f rows hf h =>
    have hchecked := failedDb_seatsChecked (f := f) ht (ho σ.bookingId rfl).2.2 hfree
    exact absurd (hchecked.symm.trans h) (by simp)
  case createsPayment => exact hr
  case keyTooLong σ h => exact absurd hfree (not_le.mpr h)
  -- the gateway answers and approves, so there is neither a retry nor a decline
  case authorizes σ pay result h =>
    simp only [h] at happ
    rw [afterAuthorize, if_pos happ]
    exact hr
  case timesOut σ pay e h =>
    simp only [h] at happ
  case journals | retries | timesOutAgain => exact hr.elim
  case recordsAuthorized => exact hr
  case recordRefused σ pay result hw => exact absurd hfree hw
  case recordIllegal σ pay result e h =>
    exact absurd h ((ho σ.bookingId rfl).1.not_illegal (by decide))
  case issues σ pay assigned rows hf hlost htrig hassigned hunique hchecked hcan hseq hrows =>
    have hbefore := (ho σ.bookingId rfl).1
    obtain ⟨row, hrow, -⟩ := hbefore.recorded.row
    refine ⟨hr, stateIs_flush hrow Db.flushBookingState_self ?_⟩
    rw [hbefore.state]
    decide
  case refuses => exact hr
  case refuseIllegal σ pay e h hcan =>
    exact absurd hcan ((ho σ.bookingId rfl).1.not_illegal (by decide))
  -- a constraint would have objected, and none does
  case issueRolledBack σ pay e hf hlost htrig hfail =>
    have hstep : BookingStep env w.shared p r x (.issueTickets σ pay) w.shared
        (raised e (some σ.bookingId)) := .issueRolledBack hf hlost htrig hfail
    rcases hstep.issue_cases ht (ho σ.bookingId rfl).1 hw.live htrig with
      ⟨-, _, -, hcap, -⟩ | ⟨hnot, -⟩
    · rw [raised_of_issueFails hfail] at hcap
      simp at hcap
    · exact absurd (hfree.resolve_left htrig) hnot
  case reverses => exact hr
  -- nor does a void fail, or a capture
  case reverseFails σ pay reason e h =>
    simp only [h, succeeded, Bool.false_eq_true] at happ
  case voids σ pay reason hf h =>
    exact ⟨hr, by simp [Outcome.reply, Documented, compensatedError, AppError.bookingCompensated,
      AppError.raised]⟩
  case voidIllegal σ pay reason e h =>
    exact absurd h ((ho σ.bookingId rfl).1.not_illegal (by decide))
  case flags => exact hr.elim
  case captures => exact hr
  case captureFails σ pay e h =>
    simp only [h, succeeded, Bool.false_eq_true] at happ
  case confirms σ pay hcan hseq =>
    obtain ⟨hclaim, row, hrow, -⟩ := hr
    refine ⟨hclaim, stateIs_flush hrow Db.flushBookingState_self ?_⟩
    rw [(ho σ.bookingId rfl).1.state]
    decide
  case confirmIllegal σ pay e h =>
    rw [(ho σ.bookingId rfl).1.state] at h
    simp [assertCanTransition, allowedTransitions] at h
  case confirmRolledBack σ pay hseq => exact absurd (hfree.symm.trans hseq) (by simp)
  case refreshes σ row h =>
    obtain ⟨hclaim, row', hrow', hs⟩ := hr
    exact ⟨hclaim, rfl, σ.bookingId, row', rfl, hrow', hs⟩
  case finds => exact hr
  -- the claim stands until the request itself completes it
  case findsNothing hc => exact absurd hr.1.1 (by simp [hc])
  case completes hf hc => exact hr.2
  case completesNothing hc => exact absurd hr.1.1 (by simp [hc])
  case releases => exact hr.elim

/-! ### The others -/

omit [PaymentGateway G] in
/-- What holds of a request rests on its claim and on its booking's row. -/
theorem BookingPc.Racing.mono {r : BookingRequest} {pc : BookingPc} (h : pc.Racing s p r)
    (hclaims : s'.db.claims r.claimKey = s.db.claims r.claimKey)
    (hlocks : s'.claimLocks r.claimKey = s.claimLocks r.claimKey)
    (hbooking : ∀ b, pc.booking? = some b → s'.db.booking b = s.db.booking b)
    (hids : s'.db.seatIds = s.db.seatIds) : pc.Racing s' p r := by
  have hclaimed : Claimed s r → Claimed s' r := by
    unfold Claimed
    rw [hclaims, hlocks]
    exact id
  have hstate : ∀ {b : BookingId} {state : BookingState}, pc.booking? = some b →
      s.db.StateIs b state → s'.db.StateIs b state := by
    rintro b state hb ⟨row, hrow, hs⟩
    exact ⟨row, (hbooking b hb).trans hrow, hs⟩
  have hdocumented : ∀ {reply : Reply}, Documented s pc.booking? reply →
      Documented s' pc.booking? reply := by
    intro reply hd
    cases reply with
    | json status body replayed =>
      obtain ⟨hstatus, b, row, hb, hrow, hs⟩ := hd
      exact ⟨hstatus, b, row, hb, (hbooking b hb).trans hrow, hs⟩
    | problem e => exact hd
    | serverError e => exact hd
  cases pc
  case beginDelete now => exact ⟨hclaims.trans h.1, hlocks.trans h.2⟩
  case beginInsert now deleted =>
    cases deleted with
    | true => exact h
    | false => exact ⟨hclaims.trans h.1, hlocks.trans h.2⟩
  case beginCommit now deleted claimed =>
    cases deleted <;> cases claimed <;> first
      | exact h.elim
      | exact ⟨hclaims.trans h.1, hlocks.trans h.2⟩
  case beginSelect | journalUnknown | retryAuthorize | finishReview | release => exact h.elim
  case failSelect => exact ⟨hclaimed h.1, h.2⟩
  case failCommit => exact ⟨hclaimed h.1, h.2.1, hids ▸ h.2.2⟩
  case capture | confirm | refresh => exact ⟨hclaimed h.1, hstate rfl h.2⟩
  case completeSelect | completeCommit => exact ⟨hclaimed h.1, hdocumented h.2⟩
  case done => exact hdocumented h
  all_goals exact hclaimed h

omit [PaymentGateway G] in
/-- A request under another key serves no request under this one. -/
theorem Proc.under?_of_key? {P : Proc} {k : String × UserId} (h : P.key? ≠ some k.1) :
    P.under? k = none := by
  cases P with
  | booking r pc =>
    refine if_neg ?_
    rintro rfl
    exact h rfl
  | _ => rfl

omit [PaymentGateway G] in
theorem unflagged_flush {db db' : Db} {b : BookingId} {loaded current : BookingState}
    (h : ∀ k row, db.booking k = some row → row.state ≠ .needsManualReview)
    (hflush : ∀ k, db'.booking k =
      if k = b then (db.booking k).map (Booking.merge loaded current) else db.booking k)
    (hne : current ≠ .needsManualReview) (k : BookingId) (row : Booking)
    (hrow : db'.booking k = some row) : row.state ≠ .needsManualReview := by
  rw [hflush] at hrow
  split at hrow
  · obtain ⟨row₀, hrow₀, rfl⟩ := Option.map_eq_some_iff.mp hrow
    rw [Booking.merge_state, Orm.writeBack]
    split
    · exact h k row₀ hrow₀
    · exact hne
  · exact h k row hrow

/-- Only a reversal that fails flags a booking. -/
theorem BookingStep.unflagged {r : BookingRequest} {x : Draws} {pc pc' : BookingPc}
    (h : BookingStep env s p r x pc s' pc') (hr : pc.Racing s p r)
    (hold : ∀ k row, s.db.booking k = some row → row.state ≠ .needsManualReview)
    (k : BookingId) (row : Booking) (hrow : s'.db.booking k = some row) :
    row.state ≠ .needsManualReview := by
  cases h
  case opens seats flightId flight ref _ _ _ _ _ _ _ _ _ =>
    have hrow : Function.update s.db.booking s.uuid (some ((openedSaga r.payload seats s.uuid ref
        flightId flight).bookingRow r.userId r.key s.clock)) k = some row := hrow
    by_cases hk : k = s.uuid
    · rw [hk, Function.update_self] at hrow
      obtain rfl := Option.some.inj hrow
      exact fun hflagged => by simp [Saga.bookingRow, openedSaga] at hflagged
    · rw [Function.update_of_ne hk] at hrow
      exact hold k row hrow
  case fails σ f rows _ _ => exact unflagged_flush hold (fun k => rfl) (by decide) k row hrow
  case recordsAuthorized => exact unflagged_flush hold (fun k => rfl) (by decide) k row hrow
  case issues => exact unflagged_flush hold (fun k => rfl) (by decide) k row hrow
  case refuses => exact unflagged_flush hold (fun k => rfl) (by decide) k row hrow
  case voids => exact unflagged_flush hold (fun k => rfl) (by decide) k row hrow
  case flags => exact hr.elim
  case confirms => exact unflagged_flush hold (fun k => rfl) (by decide) k row hrow
  all_goals exact hold k row hrow

/-! ### The race -/

/-- Without cancellations no seat is locked between two steps. -/
theorem Step.locks_eq {P P' : Proc} {a : Input} (h : Step env s p P a s' P')
    (hP : P.Racing s p) : s'.locks = s.locks := by
  cases h
  case booking r x pc pc' h => cases h <;> rfl
  case cancel r x pc pc' h => exact hP.elim
  case hold r x pc pc' h => cases h <;> rfl
  case release r x pc pc' h => cases h <;> rfl
  case sweep x pc pc' h =>
    cases h
    rfl
  all_goals rfl

/-- A request keeps its key, and only one that arrives gets one. -/
theorem Step.key?_cases {P P' : Proc} {a : Input} (h : Step env s p P a s' P') :
    P'.key? = P.key? ∨ ∃ r, P = .idle ∧ a = .arrive (.createBooking r) ∧ P'.key? = some r.key := by
  cases h
  case arrive r => cases r <;> first
    | exact .inl rfl
    | exact .inr ⟨_, rfl, rfl, rfl⟩
  all_goals exact .inl rfl

/-- A claim that appears is the mover's. -/
theorem RaceInvariant.claims_next {w : World (Shared G) Proc} {a : Input} {P' : Proc}
    (hw : RaceInvariant w) (h : Step env w.shared p (w.proc p) a s' P')
    (k : String × UserId) (hk : s'.db.claims k ≠ none ∨ s'.claimLocks k ≠ none) :
    ∃ q, (Function.update w.proc p P' q).key? = some k.1 := by
  by_cases hmover : (w.proc p).key? = some k.1
  · refine ⟨p, ?_⟩
    rw [Function.update_self]
    rcases h.key?_cases with hkey | ⟨r, hidle, -⟩
    · rw [hkey, hmover]
    · simp [hidle, Proc.key?] at hmover
  · obtain ⟨hclaims, hlocks⟩ := h.elsewhere (Proc.under?_of_key? hmover)
    rw [hclaims, hlocks] at hk
    obtain ⟨q, hq⟩ := hw.claims k hk
    have hne : q ≠ p := by
      rintro rfl
      exact hmover hq
    exact ⟨q, by rw [Function.update_of_ne hne, hq]⟩

/-- The mover's state after its step. -/
theorem RaceInvariant.racing_mover {w : World (Shared G) Proc} {a : Input} {P' : Proc}
    (hw : RaceInvariant w) (h : Step env w.shared p (w.proc p) a s' P') (hrace : Race w p a)
    (hfree : Unopposed w p a) : P'.Racing s' p := by
  generalize hp : w.proc p = P at h
  cases h
  case booking r x pc pc' h => exact h.racing hp hrace hfree hw
  case cancel r x pc pc' h =>
    have hracing := hw.racing p
    rw [hp] at hracing
    exact hracing.elim
  case arrive r =>
    cases r with
    | createBooking r =>
      have hnone : ∀ k : String × UserId, k.1 = r.key →
          w.shared.db.claims k = none ∧ w.shared.claimLocks k = none := by
        intro k hk
        by_contra hsome
        obtain ⟨q, hq⟩ := hw.claims k (not_and_or.mp hsome)
        exact hrace.1 q (hk ▸ hq)
      exact hnone r.claimKey rfl
    | cancelBooking r => exact hrace.1.elim
    | createHold | deleteHold | sweep => trivial
  all_goals trivial

/-- The state of a process that did not move. -/
theorem RaceInvariant.racing_other {w : World (Shared G) Proc} {a : Input} {P' : Proc}
    (hw : RaceInvariant w) (h : Step env w.shared p (w.proc p) a s' P') {q : ℕ} (hq : q ≠ p) :
    (w.proc q).Racing s' q := by
  have hold := hw.racing q
  have hracing := hw.racing p
  generalize hQ : w.proc q = Q at hold
  cases Q with
  | booking r pc =>
    have hkey : (w.proc p).key? ≠ some r.claimKey.1 :=
      hw.keys q p hq _ (by rw [hQ]; rfl)
    obtain ⟨hclaims, hlocks⟩ := h.elsewhere (Proc.under?_of_key? hkey)
    refine hold.mono hclaims hlocks (fun b hb => ?_) ?_
    · have hne : (w.proc p).writes ≠ some b := by
        intro hwrites
        have hapart := hw.outline.pair q p hq
        rw [hQ] at hapart
        generalize w.proc p = P at hwrites hracing hapart
        cases P with
        | booking r' pc' => exact hapart.booking b hb (BookingPc.booking?_of_saga? hwrites)
        | cancel => exact hracing.elim
        | _ => simp [Proc.writes] at hwrites
      have hlt : b < w.shared.uuid := by
        have hown := hw.outline.own q
        rw [hQ] at hown
        exact (hown b hb).1
      exact congrArg View.row (h.view_eq_of_ne hw.outline.shared (hw.outline.own p) hne hlt)
    · exact h.seatIds_eq
  | cancel => exact hold.elim
  | _ => trivial

/-- Nobody else has the mover's key. -/
theorem RaceInvariant.keys_next {w : World (Shared G) Proc} {a : Input} {P' : Proc}
    (hw : RaceInvariant w) (h : Step env w.shared p (w.proc p) a s' P') (hrace : Race w p a)
    {q : ℕ} (hq : q ≠ p) {key : String} (hkey : P'.key? = some key) :
    (w.proc q).key? ≠ some key := by
  rcases h.key?_cases with hold | ⟨r, hidle, rfl, hnew⟩
  · exact hw.keys p q hq.symm key (hold ▸ hkey)
  · obtain rfl : r.key = key := Option.some.inj (hnew.symm.trans hkey)
    exact hrace.1 q

/-- One step of a race keeps its invariant. -/
theorem RaceInvariant.next {w w' : World (Shared G) Proc} {a : Input} (hw : RaceInvariant w)
    (hrace : Race w p a) (hfree : Unopposed w p a) (hn : (service env G).next w p a = some w') :
    RaceInvariant w' := by
  have houtline := outline_next hw.outline hn
  obtain ⟨s', P', hs, rfl⟩ := System.next_eq_some.mp hn
  have h := step_of hs
  refine ⟨houtline, h.liveUnique hw.live, fun q q' hne key hq hq' => ?_, fun q => ?_,
    hw.claims_next h, fun k => ?_, ?_⟩
  · dsimp only at hq hq'
    by_cases hqp : q = p
    · subst hqp
      rw [Function.update_self] at hq
      rw [Function.update_of_ne hne.symm] at hq'
      exact hw.keys_next h hrace hne.symm hq hq'
    by_cases hqp' : q' = p
    · subst hqp'
      rw [Function.update_self] at hq'
      rw [Function.update_of_ne hne] at hq
      exact hw.keys_next h hrace hne hq' hq
    · rw [Function.update_of_ne hqp] at hq
      rw [Function.update_of_ne hqp'] at hq'
      exact hw.keys q q' hne key hq hq'
  · dsimp only
    by_cases hq : q = p
    · subst hq
      rw [Function.update_self]
      exact hw.racing_mover h hrace hfree
    · rw [Function.update_of_ne hq]
      exact hw.racing_other h hq
  · show s'.locks k = none
    rw [h.locks_eq (hw.racing p)]
    exact hw.locks k
  · have hracing := hw.racing p
    generalize w.proc p = P at h hracing
    intro b row hrow
    cases h
    case booking r x pc pc' h => exact h.unflagged hracing hw.unflagged b row hrow
    case cancel r x pc pc' h => exact hracing.elim
    case hold r x pc pc' h => cases h <;> exact hw.unflagged b row hrow
    case release r x pc pc' h => cases h <;> exact hw.unflagged b row hrow
    case sweep x pc pc' h =>
      cases h
      exact hw.unflagged b row hrow
    all_goals exact hw.unflagged b row hrow

omit [PaymentGateway G] in
theorem raceInvariant_initial {db : Db} (hdb : db.Initial) (g : G) (clock : Time) :
    RaceInvariant (initialWorld db g clock) where
  outline := outline_initial hdb g clock
  live := by constructor <;> simp [initialWorld, Db.liveTickets, hdb.tickets]
  keys p q _ key hkey := by simp [initialWorld, Proc.key?] at hkey
  racing _ := trivial
  claims k hk := by simp [initialWorld, hdb.claims] at hk
  locks _ := rfl
  unflagged b row hrow := by simp [initialWorld, hdb.booking] at hrow

omit [PaymentGateway G] in
/-- A request that is done has ended clean. -/
theorem RaceInvariant.cleanEnd {w : World (Shared G) Proc} (hw : RaceInvariant w)
    {r : BookingRequest} {reply : Reply} {b? : Option BookingId}
    (hp : w.proc p = .booking r (.done reply b?)) : CleanEnd w.shared reply b? := by
  have hdone : Documented w.shared b? reply := by
    have hracing := hw.racing p
    rwa [hp] at hracing
  cases reply with
  | json status body replayed =>
    obtain ⟨rfl, b, row, hb, hrow, hs⟩ := hdone
    exact ⟨by simp [Reply.status], fun _ => ⟨b, row, hb, hrow, hs⟩, fun hne => absurd rfl hne⟩
  | problem e =>
    have hstatus : e.statusCode ∈ [403, 404, 409] := hdone
    refine ⟨List.mem_cons_of_mem _ hstatus, fun h201 => ?_, fun _ b hb => ?_⟩
    · rw [show e.statusCode = 201 from h201] at hstatus
      simp at hstatus
    · have hsettled : Settled b (w.shared.view b) := by
        have hown := hw.outline.own p
        rw [hp] at hown
        exact (hown b hb).2
      obtain ⟨row, hrow, hs, hun⟩ := hsettled
      refine ⟨fun hcharge => hw.unflagged b row hrow (hun (unreversed_callsOf hcharge)), row, hrow, ?_⟩
      rcases hs with hs | hs | hs <;> simp [hs]
  | serverError e => exact hdone.elim

omit [PaymentGateway G] in
/-- Nobody else has a racing request's claim locked. -/
theorem BookingPc.Racing.claimFree {r : BookingRequest} {pc : BookingPc} (h : pc.Racing s p r)
    (hsaga : pc.saga? = none) (hdone : ∀ reply b, pc ≠ .done reply b) :
    s.claimFree p r.claimKey = true := by
  have hunlocked : s.claimLocks r.claimKey = none → s.claimFree p r.claimKey = true := fun hnone =>
    decide_eq_true (.inl hnone)
  cases pc
  case beginDelete now => exact hunlocked h.2
  case beginInsert now deleted =>
    cases deleted with
    | true => exact h.elim
    | false => exact hunlocked h.2
  case beginCommit now deleted claimed =>
    cases deleted <;> cases claimed <;> first
      | exact h.elim
      | exact decide_eq_true (.inr h.2)
  case beginSelect | release => exact h.elim
  case openBooking => exact hunlocked h.2
  case completeSelect | completeCommit => exact hunlocked h.1.2
  case done reply b => exact absurd rfl (hdone reply b)
  all_goals simp [BookingPc.saga?] at hsaga

/-- A request that is not done can always move. -/
theorem RaceInvariant.progress {w : World (Shared G) Proc} (hw : RaceInvariant w)
    {r : BookingRequest} {pc : BookingPc} (hp : w.proc p = .booking r pc)
    (hdone : ∀ reply b, pc ≠ .done reply b) (x : Draws) :
    ((service env G).next w p (.go x)).isSome := by
  have hown := hw.outline.own p
  have hracing := hw.racing p
  rw [hp] at hown hracing
  have hsome : (stepBooking env w.shared p r x pc).isSome := by
    refine stepBooking_isSome hw.outline.shared (fun b hb => (hown b hb).2)
      (fun k _ => .inl (hw.locks k)) (fun hnone => ?_) ?_ ?_ hdone
    · exact hracing.claimFree hnone hdone
    · rintro σ f rows rfl
      exact hracing.2.2
    · rintro σ rfl
      obtain ⟨-, row, hrow, -⟩ := hracing
      exact ⟨row, hrow⟩
  obtain ⟨o, ho⟩ := Option.isSome_iff_exists.mp hsome
  rw [next_booking hp ho]
  rfl

instance (w : World (Shared G) Proc) (p : ℕ) : Decidable (Approving w p) := by
  unfold Approving
  generalize w.proc p = q
  induction q using Proc.casesOn with
  | booking r pc =>
    induction pc using BookingPc.casesOn with
    | authorize σ pay =>
      dsimp only
      generalize (authorizeOutcome w.shared σ pay).1 = result
      induction result using Except.casesOn <;> infer_instance
    | _ => infer_instance
  | _ => infer_instance

instance (w : World (Shared G) Proc) (p : ℕ) (a : Input) : Decidable (Unopposed w p a) := by
  unfold Unopposed
  generalize w.proc p = q
  induction q using Proc.casesOn with
  | booking r pc =>
    induction pc using BookingPc.casesOn <;> induction a using Input.casesOn <;> infer_instance
  | _ => infer_instance

/-- A step of a race among the processes below `n`. -/
def RaceBelow (n : ℕ) (w : World (Shared G) Proc) (p : ℕ) (a : Input) : Prop :=
  p < n ∧ Approving w p ∧
    match a with
    | .arrive (.createBooking r) => ∀ q < n, (w.proc q).key? ≠ some r.key
    | .arrive (.cancelBooking _) => False
    | _ => True

instance (n : ℕ) (w : World (Shared G) Proc) (p : ℕ) (a : Input) :
    Decidable (RaceBelow n w p a) := by
  unfold RaceBelow
  refine @instDecidableAnd _ _ inferInstance (@instDecidableAnd _ _ inferInstance ?_)
  induction a using Input.casesOn with
  | arrive r => induction r using Request.casesOn <;> infer_instance
  | _ => infer_instance

/-- In a race among the processes below `n`, the others never move. -/
theorem race_of_raceBelow {n : ℕ} {D : World (Shared G) Proc → ℕ → Input → Prop} {db : Db} {g : G}
    {clock : Time} {w : World (Shared G) Proc} {as : List (ℕ × Input)}
    (h : (service env G).Run (fun w p a => RaceBelow n w p a ∧ D w p a) (initialWorld db g clock)
      as w) :
    (service env G).Run (fun w p a => Race w p a ∧ D w p a) (initialWorld db g clock) as w := by
  refine h.of_invariant (I := fun w => ∀ q, n ≤ q → w.proc q = .idle) (fun q _ => rfl) ?_ ?_
  · intro w₁ p a w₂ hidle hC hn q hq
    obtain ⟨s', P', hs, rfl⟩ := System.next_eq_some.mp hn
    have hne : q ≠ p := by
      have hlt := hC.1.1
      omega
    simpa [Function.update_of_ne hne] using hidle q hq
  · rintro w₁ p a hidle ⟨⟨hlt, happ, harr⟩, hD⟩
    refine ⟨⟨?_, happ⟩, hD⟩
    unfold Arriving
    split
    · intro q
      rcases lt_or_ge q n with hq | hq
      · exact harr q hq
      · simp [hidle q hq, Proc.key?]
    · exact harr
    · trivial

/-- A user books one hold twice, under two keys: the second saga overtakes the
first one, which paid with the card `cardToken`, before that one charges it. -/
def overtaken (cardToken : String) : List (ℕ × Input) :=
  asks 1 (.createHold ⟨10, 7, "1A"⟩) 3 (.calm 0) ++
    asks 2 (.createBooking ⟨10, "key-of-ada-00000001", soloBody 0 cardToken⟩) 4 (.calm 1) ++
    asks 3 (.createBooking ⟨10, "key-of-ada-00000002", soloBody 0 "tok_test_aaaa11110000"⟩) 14
      (.calm 2)

/-- The status a booking request is done with. -/
def Proc.status? : Proc → Option ℕ
  | .booking _ (.done reply _) => some reply.status
  | _ => none

theorem Proc.status?_eq_some {P : Proc} {status : ℕ} (h : P.status? = some status) :
    ∃ r reply b?, P = .booking r (.done reply b?) ∧ reply.status = status := by
  unfold status? at h
  split at h
  · exact ⟨_, _, _, rfl, Option.some.inj h⟩
  · simp at h

end SkyLock
