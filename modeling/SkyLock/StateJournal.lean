import SkyLock.Amendments
import SkyLock.AuditTrail
import SkyLock.Scripts

/-!
# The audit trail as the journal of the state

Requests that are served one at a time, each running to its end or crashing on the
way, with updates of passenger names between them.  A booking's audit rows that
carry a `to_state` are then the journal of its state, except where `_compensate`
writes `VOIDED` without such a row, and where a cancellation whose refund failed
moves `CONFIRMED` to `NEEDS_MANUAL_REVIEW`.

## Main definitions

* `bookingStates`, `Db.journal` — what the audit rows of a booking say of its state.
* `OneAtATime` — the database between two requests that are served one at a time.
* `Journalling` — the condition.

## Main results

* `state_journal` — **the audit trail is the journal of the state**.
* `voided_unjournalled` — a compensation that reverses its charge is not in it.
-/

namespace SkyLock

open Concurrent Journal

variable {G : Type} [PaymentGateway G] {env : Env} {s s' : Shared G} {p : ℕ} {P P' : Proc}
  {a : Input} {b k : BookingId} {x y : BookingState} {audit rows : List BookingAudit}

/-! ### The journal of a booking -/

/-- What an audit row says of the state of its booking. -/
def bookingStates : Account BookingAudit BookingState where
  opening r := r.eventType = .bookingCreated ∧ r.fromState = none ∧ r.toState = some .pending
  source := BookingAudit.fromState
  target := BookingAudit.toState
  source_opening _ h := h.2.1

/-- The booking's audit rows that carry a `to_state`, in `seq` order. -/
def Db.journal (db : Db) (b : BookingId) : List BookingAudit :=
  (bookingAudit.inOrder b db.audit).filter fun r => r.toState.isSome

/-- The same rows, newest first. -/
def movesOf (b : BookingId) (audit : List BookingAudit) : List BookingAudit :=
  (audit.filter fun r => bookingAudit.key r = b).filter fun r => r.toState.isSome

/-- The transitions of the state machine. -/
def Allowed (x y : BookingState) : Prop := y ∈ allowedTransitions x

instance : DecidableRel Allowed := fun x y => inferInstanceAs (Decidable (y ∈ allowedTransitions x))

/-- The booking's audit rows have no gap and are the journal of its state; a booking
that is not there has none. -/
structure Db.Journals (db : Db) (b : BookingId) : Prop where
  gapFree : bookingAudit.GapFree b db.audit
  unborn : db.booking b = none → movesOf b db.audit = []
  walk : ∀ row, db.booking b = some row →
    bookingStates.Walk Allowed (movesOf b db.audit) row.state

theorem Db.Journals.tells {db : Db} (h : db.Journals b) {row : Booking}
    (hrow : db.booking b = some row) : bookingStates.Tells Allowed (db.journal b) row.state := by
  have htells := (h.walk row hrow).tells
  rw [Db.journal, h.gapFree.inOrder_eq, List.filter_reverse]
  exact htells

/-! ### What a transaction writes -/

theorem gapFree_record {db : Db} (h : bookingAudit.GapFree k db.audit) (e : AuditEventType)
    (u : Option UserId) (fromState toState : Option BookingState) (d : List (String × JsonValue)) :
    bookingAudit.GapFree k (db.record b e u fromState toState d).audit := by
  refine h.cons fun hk => ?_
  rw [← db.nextSeq_eq k, ← hk]
  rfl

theorem movesOf_cons_of_ne {r : BookingAudit} (h : r.bookingId ≠ k) :
    movesOf k (r :: rows) = movesOf k rows := by
  simp [movesOf, bookingAudit, h]

theorem movesOf_cons_of_none {r : BookingAudit} (h : r.toState = none) :
    movesOf k (r :: rows) = movesOf k rows := by
  by_cases hk : r.bookingId = k <;> simp [movesOf, bookingAudit, hk, h]

theorem movesOf_cons_self {r : BookingAudit} (h : r.bookingId = k) (hto : r.toState.isSome) :
    movesOf k (r :: rows) = r :: movesOf k rows := by
  simp [movesOf, bookingAudit, h, hto]

theorem movesOf_note {db : Db} (e : AuditEventType) (d : List (String × JsonValue)) :
    movesOf k (db.note b e d).audit = movesOf k db.audit :=
  movesOf_cons_of_none rfl

theorem movesOf_record (db : Db) (b : BookingId) (e : AuditEventType) (u : Option UserId)
    (fromState : Option BookingState) (y : BookingState) (d : List (String × JsonValue)) :
    ∃ r, r.eventType = e ∧ r.fromState = fromState ∧ r.toState = some y ∧
      ∀ k, movesOf k (db.record b e u fromState (some y) d).audit =
        if k = b then r :: movesOf k db.audit else movesOf k db.audit := by
  rw [Db.record_audit]
  generalize hr : BookingAudit.mk b _ e _ u fromState (some y) _ = r
  refine ⟨r, by rw [← hr], by rw [← hr], by rw [← hr], fun k => ?_⟩
  split
  · next hk => exact movesOf_cons_self (by rw [← hr, hk]) (by rw [← hr]; rfl)
  · next hk => exact movesOf_cons_of_ne (by rw [← hr]; exact Ne.symm hk)

theorem Noted.gapFree (h : Noted b audit rows) (hgap : bookingAudit.GapFree k audit) :
    bookingAudit.GapFree k rows := by
  induction h with
  | refl => exact hgap
  | note _ _ ih => exact gapFree_record ih ..

theorem Noted.movesOf_eq (h : Noted b audit rows) : movesOf k rows = movesOf k audit := by
  induction h with
  | refl => rfl
  | note _ _ ih => rw [movesOf_note, ih]

/-- The rows are the audit rows, and on top of them rows of the booking of which one
moves its state from `x` to `y`. -/
structure Moved (b : BookingId) (x y : BookingState) (audit rows : List BookingAudit) : Prop where
  gapFree : ∀ k, bookingAudit.GapFree k audit → bookingAudit.GapFree k rows
  moves : ∃ r, r.fromState = some x ∧ r.toState = some y ∧
    ∀ k, movesOf k rows = if k = b then r :: movesOf k audit else movesOf k audit

theorem moved_record (db : Db) (b : BookingId) (e : AuditEventType) (u : Option UserId)
    (x y : BookingState) (d : List (String × JsonValue)) :
    Moved b x y db.audit (db.record b e u (some x) (some y) d).audit where
  gapFree _ h := gapFree_record h e u (some x) (some y) d
  moves := by
    obtain ⟨r, -, hfrom, hto, hmoves⟩ := movesOf_record db b e u (some x) y d
    exact ⟨r, hfrom, hto, hmoves⟩

theorem Moved.note {db : Db} (h : Moved b x y audit db.audit) (e : AuditEventType)
    (d : List (String × JsonValue)) : Moved b x y audit (db.note b e d).audit where
  gapFree k hk := gapFree_record (h.gapFree k hk) ..
  moves := by
    obtain ⟨r, hfrom, hto, hmoves⟩ := h.moves
    exact ⟨r, hfrom, hto, fun k => (movesOf_note e d).trans (hmoves k)⟩

theorem Noted.moved {rows' : List BookingAudit} (h : Noted b audit rows)
    (h' : Moved b x y rows rows') : Moved b x y audit rows' where
  gapFree k hk := h'.gapFree k (h.gapFree hk)
  moves := by
    obtain ⟨r, hfrom, hto, hmoves⟩ := h'.moves
    refine ⟨r, hfrom, hto, fun k => ?_⟩
    rw [hmoves k, h.movesOf_eq]

/-! ### What keeps the journal -/

namespace Db.Journals

variable {db db' : Db}

/-- Rows without a `to_state` change nothing. -/
theorem noted (h : db.Journals k) (hn : Noted b db.audit db'.audit)
    (hbooking : db'.booking = db.booking) : db'.Journals k where
  gapFree := hn.gapFree h.gapFree
  unborn hnone := by
    rw [hn.movesOf_eq]
    exact h.unborn (hbooking ▸ hnone)
  walk row hrow := by
    rw [hn.movesOf_eq]
    exact h.walk row (hbooking ▸ hrow)

theorem congr (h : db.Journals k) (haudit : db'.audit = db.audit)
    (hbooking : db'.booking = db.booking) : db'.Journals k := by
  refine h.noted (b := k) ?_ hbooking
  rw [haudit]
  exact .refl

/-- A row that says what the transaction makes of the state. -/
theorem moved (h : db.Journals k) (hm : Moved b x y db.audit db'.audit)
    (hother : k ≠ b → db'.booking k = db.booking k)
    (hown : k = b → db.StateIs b x ∧ db'.StateIs b y ∧ (x ≠ y → Allowed x y)) :
    db'.Journals k := by
  obtain ⟨r, hfrom, hto, hmoves⟩ := hm.moves
  have hk := hmoves k
  by_cases hkb : k = b
  · subst hkb
    obtain ⟨⟨row, hrow, hx⟩, ⟨row', hrow', hy⟩, hallowed⟩ := hown rfl
    rw [if_pos rfl] at hk
    refine ⟨hm.gapFree k h.gapFree, fun hnone => ?_, fun row'' hrow'' => ?_⟩
    · rw [hrow'] at hnone
      simp at hnone
    · rw [hrow'] at hrow''
      obtain rfl := Option.some.inj hrow''
      rw [hk, hy]
      have hwalk := h.walk row hrow
      rw [hx] at hwalk
      exact .moved hwalk hfrom hto hallowed
  · rw [if_neg hkb] at hk
    have hsame := hother hkb
    refine ⟨hm.gapFree k h.gapFree, fun hnone => ?_, fun row hrow => ?_⟩
    · rw [hk]
      exact h.unborn (hsame ▸ hnone)
    · rw [hk]
      exact h.walk row (hsame ▸ hrow)

/-- A transaction on another booking changes nothing. -/
theorem of_ne (h : db.Journals k) (hgap : bookingAudit.GapFree k db'.audit)
    (hmoves : movesOf k db'.audit = movesOf k db.audit)
    (hbooking : db'.booking k = db.booking k) : db'.Journals k where
  gapFree := hgap
  unborn hnone := by
    rw [hmoves]
    exact h.unborn (hbooking ▸ hnone)
  walk row hrow := by
    rw [hmoves]
    exact h.walk row (hbooking ▸ hrow)

end Db.Journals

/-! ### The state in a process's hands -/

/-- The booking a process works on, and the state its instance of it has. -/
def Proc.inHand? : Proc → Option (BookingId × BookingState)
  | .booking _ pc => pc.saga?.map fun σ => (σ.bookingId, σ.state)
  | .cancel _ pc => pc.copy?
  | _ => none

/-- The instance in the hands of the process has the state of its row. -/
def Proc.Fresh (s : Shared G) (P : Proc) : Prop :=
  ∀ b x, P.inHand? = some (b, x) → s.db.StateIs b x

/-- Before ticketing the outline says so. -/
def BookingPc.told : BookingPc → Bool
  | .capture _ _ | .confirm _ _ | .refresh _ => true
  | _ => false

omit [PaymentGateway G] in
theorem BookingPc.Outline.stateIs {r : BookingRequest} {pc : BookingPc} {σ : Saga}
    (h : pc.Outline r σ.bookingId (s.view σ.bookingId)) (hσ : pc.saga? = some σ)
    (htold : pc.told = false) : s.db.StateIs σ.bookingId σ.state := by
  have hbefore : ∃ u state, σ.Before u state (s.view σ.bookingId) := by
    cases pc <;> simp only [BookingPc.saga?, Option.some.injEq, reduceCtorEq] at hσ
    case capture | confirm | refresh => simp [BookingPc.told] at htold
    all_goals
      subst hσ
      exact ⟨_, _, h.1⟩
  obtain ⟨u, state, hbefore⟩ := hbefore
  obtain ⟨row, hrow, -, hs⟩ := hbefore.recorded.row
  exact ⟨row, hrow, hs.trans hbefore.state.symm⟩

theorem BookingStep.fresh {r : BookingRequest} {x : Draws} {pc pc' : BookingPc}
    (h : BookingStep env s p r x pc s' pc') (hfresh : (Proc.booking r pc).Fresh s)
    (ho' : (Proc.booking r pc').Outline s') : (Proc.booking r pc').Fresh s' := by
  intro b y hy
  obtain ⟨σ', hσ', heq⟩ := Option.map_eq_some_iff.mp hy
  obtain ⟨rfl, rfl⟩ := Prod.mk.inj heq
  cases htold : pc'.told
  · refine BookingPc.Outline.stateIs (ho' σ'.bookingId ?_).2 hσ' htold
    exact BookingPc.booking?_of_saga? (congrArg (Option.map Saga.bookingId) hσ')
  · -- only ticketing and what follows it carries a state the outline does not fix
    cases h
    case issues σ pay assigned rows hf hlost htrig hassigned hunique hchecked hcan hseq hrows =>
      obtain rfl := Option.some.inj hσ'
      exact Db.StateIs.flush (hfresh σ.bookingId σ.state rfl) Db.flushBookingState_self
    case captures σ pay result h =>
      obtain rfl := Option.some.inj hσ'
      exact hfresh σ.bookingId σ.state rfl
    case confirms σ pay h hseq =>
      obtain rfl := Option.some.inj hσ'
      exact Db.StateIs.flush (hfresh σ.bookingId σ.state rfl) Db.flushBookingState_self
    case authorizes result _ | retries result _ =>
      cases hr : result.approved <;> simp [afterAuthorize, hr, BookingPc.told] at htold
    case opensNothing e _ => cases e <;> simp [raised, BookingPc.told] at htold
    case selectIllegal h | recordIllegal h | voidIllegal h | confirmIllegal h | refuseIllegal h =>
      rw [raised_of_assertCanTransition (by assumption)] at htold
      simp [BookingPc.told] at htold
    case issueRolledBack h =>
      rw [raised_of_issueFails h] at htold
      simp [BookingPc.told] at htold
    all_goals simp [BookingPc.told] at htold

theorem Step.fresh (h : Step env s p P a s' P') (hfresh : P.Fresh s) (ho' : P'.Outline s') :
    P'.Fresh s' := by
  cases h
  case booking r x pc pc' h => exact h.fresh hfresh ho'
  case cancel r x pc pc' h =>
    intro b y hy
    cases h
    case accepts b' row h h' =>
      obtain ⟨rfl, rfl⟩ := Prod.mk.inj (Option.some.inj hy)
      exact ⟨row, (ownedBooking_eq_some h).2.1, rfl⟩
    case locks b' state pay hf => cases pay <;> exact hfresh b y hy
    case selects | refunds | refundFails => exact hfresh b y hy
    all_goals simp [Proc.inHand?, CancelPc.copy?] at hy
  case arrive r =>
    intro b y hy
    cases r <;> simp [Request.start, Proc.inHand?, BookingPc.saga?, CancelPc.copy?] at hy
  all_goals
    intro b y hy
    simp [Proc.inHand?] at hy

/-! ### One step -/

theorem assertCanTransition_none (h : assertCanTransition x y = none) : Allowed x y := by
  unfold assertCanTransition at h
  split at h
  · assumption
  · simp at h

/-- The booking whose state the process is about to write without the audit row that
says so, or against the state machine. -/
def Proc.unjournalled? : Proc → Option BookingId
  | .booking _ (.finishVoided σ _ _) => some σ.bookingId
  | .cancel _ (.review b _ _) => some b
  | _ => none

omit [PaymentGateway G] in
theorem Db.Journals.opened {db : Db} {σ : Saga} {u : UserId} {key : String} {now : Time}
    {seats : List SeatInstance} (h : db.Journals k) (hnone : db.booking σ.bookingId = none)
    (hσ : σ.state = .pending) : (openedDb db σ u key now seats).Journals k := by
  have hgap : bookingAudit.GapFree k (openedDb db σ u key now seats).audit :=
    gapFree_record (gapFree_record h.gapFree ..) ..
  have hmoves : ∃ r, bookingStates.opening r ∧ r.toState = some .pending ∧
      ∀ k, movesOf k (openedDb db σ u key now seats).audit =
        if k = σ.bookingId then r :: movesOf k db.audit else movesOf k db.audit := by
    obtain ⟨r, he, hfrom, hto, hmoves⟩ := movesOf_record _ σ.bookingId .bookingCreated (some u) none
      .pending _
    exact ⟨r, ⟨he, hfrom, hto⟩, hto, fun k => (movesOf_note ..).trans (hmoves k)⟩
  obtain ⟨r, hopening, hto, hmoves⟩ := hmoves
  have hk := hmoves k
  by_cases hkb : k = σ.bookingId
  · subst hkb
    rw [if_pos rfl, h.unborn hnone] at hk
    have hbooking : (openedDb db σ u key now seats).booking σ.bookingId =
        some (σ.bookingRow u key now) := Function.update_self ..
    refine ⟨hgap, fun hnone' => ?_, fun row hrow => ?_⟩
    · rw [hbooking] at hnone'
      simp at hnone'
    · rw [hbooking] at hrow
      obtain rfl := Option.some.inj hrow
      have hstate : (σ.bookingRow u key now).state = .pending := hσ
      rw [hk, hstate]
      exact .opened hopening hto
  · rw [if_neg hkb] at hk
    exact h.of_ne hgap hk (Function.update_of_ne hkb ..)

/-- **A transaction that moves the state of a booking writes the row that says so.** -/
theorem Step.journals (h : Step env s p P a s' P') (ht : Tables s) (ho : P.Outline s)
    (hfresh : P.Fresh s) (hC : P.unjournalled? ≠ some k) (hj : s.db.Journals k) :
    s'.db.Journals k := by
  cases h
  case booking r x pc pc' h =>
    cases h
    case opens seats flightId flight ref hseats hf hlen hlive hids hflight hpnr htotal href =>
      exact hj.opened (congrArg View.row (ht.unborn s.uuid le_rfl)) rfl
    case fails σ f rows hf h =>
      have hstate : s.db.StateIs σ.bookingId σ.state := hfresh σ.bookingId σ.state rfl
      refine hj.moved (moved_record (s.db.flushPayments f.payment) ..) (fun hk => if_neg hk)
        fun _ => ⟨hstate, hstate.flush Db.flushBookingState_self, fun _ => ?_⟩
      rw [(ho σ.bookingId rfl).2.1.state]
      decide
    case journals σ pay => exact hj.noted (.note .refl (by decide)) rfl
    case recordsAuthorized σ pay result h _ =>
      have hstate : s.db.StateIs σ.bookingId σ.state := hfresh σ.bookingId σ.state rfl
      exact hj.moved (moved_record (s.db.flushPayment pay (pay.authorized result)) ..)
        (fun hk => if_neg hk) fun _ =>
          ⟨hstate, hstate.flush Db.flushBookingState_self, fun _ => assertCanTransition_none h⟩
    case issues σ pay assigned rows hf hlost htrig hassigned hunique hchecked hcan hseq hrows =>
      have hstate : s.db.StateIs σ.bookingId σ.state := hfresh σ.bookingId σ.state rfl
      exact hj.moved (hrows.moved (moved_record { s.db with audit := rows } ..))
        (fun hk => if_neg hk) fun _ =>
          ⟨hstate, hstate.flush Db.flushBookingState_self, fun _ => assertCanTransition_none hcan⟩
    case refuses σ pay rows reason hf h hcan hrows =>
      have hstate : s.db.StateIs σ.bookingId σ.state := hfresh σ.bookingId σ.state rfl
      exact hj.moved (hrows.moved (moved_record { s.db with audit := rows } ..))
        (fun hk => if_neg hk) fun _ =>
          ⟨hstate, hstate.flush Db.flushBookingState_self, fun _ => assertCanTransition_none hcan⟩
    case voids σ pay reason hf h =>
      have hne : k ≠ σ.bookingId := fun hk => hC (congrArg some hk.symm)
      -- the booking is another one: the two rows of a void name no state
      have hnoted : Noted σ.bookingId s.db.audit (voidedDb s.db σ pay s.clock).audit :=
        .note (.note .refl pay.reversed_ne_cancelled) (by decide)
      exact hj.of_ne (hnoted.gapFree hj.gapFree) hnoted.movesOf_eq (if_neg hne)
    case flags σ pay reason error hf =>
      have hstate : s.db.StateIs σ.bookingId σ.state := hfresh σ.bookingId σ.state rfl
      refine hj.moved (Moved.note (moved_record s.db ..) ..) (fun hk => if_neg hk)
        fun _ => ⟨hstate, hstate.flush Db.flushBookingState_self, fun _ => ?_⟩
      rw [(ho σ.bookingId rfl).2.1.state]
      decide
    case confirms σ pay h hseq =>
      have hstate : s.db.StateIs σ.bookingId σ.state := hfresh σ.bookingId σ.state rfl
      exact hj.moved (moved_record (s.db.flushPayment pay pay.capturedState) ..)
        (fun hk => if_neg hk) fun _ =>
          ⟨hstate, hstate.flush Db.flushBookingState_self, fun _ => assertCanTransition_none h⟩
    all_goals exact hj.congr rfl rfl
  case cancel r x pc pc' h =>
    cases h
    case finishes b state refunded h hseq =>
      have hstate : s.db.StateIs b state := hfresh b state rfl
      exact hj.moved (moved_record _ ..) (fun hk => if_neg hk) fun _ =>
        ⟨hstate, hstate.flush Db.flushBookingState_self, fun _ => assertCanTransition_none h⟩
    case reviews b state error hseq =>
      have hne : k ≠ b := fun hk => hC (congrArg some hk.symm)
      exact hj.moved (moved_record s.db ..) (fun _ => if_neg hne) fun hk => absurd hk hne
    all_goals exact hj.congr rfl rfl
  case hold r x pc pc' h => cases h <;> exact hj.congr rfl rfl
  case release r x pc pc' h => cases h <;> exact hj.congr rfl rfl
  case sweep x pc pc' h => cases h; exact hj.congr rfl rfl
  all_goals exact hj.congr rfl rfl

/-! ### One request at a time -/

/-- A world in which no request is under way: every connection is closed. -/
def quiet (s : Shared G) : World (Shared G) Proc :=
  ⟨{ s with locks := fun _ => none, claimLocks := fun _ => none }, fun _ => .idle⟩

/-- No step writes a state of the booking that its audit rows miss. -/
def Journalling (b : BookingId) (w : World (Shared G) Proc) (p : ℕ) (_ : Input) : Prop :=
  (w.proc p).unjournalled? ≠ some b

instance (b : BookingId) (w : World (Shared G) Proc) (p : ℕ) (a : Input) :
    Decidable (Journalling b w p a) :=
  inferInstanceAs (Decidable (_ ≠ _))

/-- One process alone, under a condition. -/
def Alone (C : World (Shared G) Proc → ℕ → Input → Prop) (p : ℕ) (w : World (Shared G) Proc)
    (q : ℕ) (a : Input) : Prop :=
  q = p ∧ C w q a

instance (C : World (Shared G) Proc → ℕ → Input → Prop) [∀ w p a, Decidable (C w p a)] (p : ℕ)
    (w : World (Shared G) Proc) (q : ℕ) (a : Input) : Decidable (Alone C p w q a) :=
  inferInstanceAs (Decidable (_ ∧ _))

/-- The worlds between two requests that are served one at a time.  A request may crash
on the way, and time may pass before it. -/
inductive OneAtATime (env : Env) (C : World (Shared G) Proc → ℕ → Input → Prop)
    (w₀ : World (Shared G) Proc) : World (Shared G) Proc → Prop
  | start : OneAtATime env C w₀ w₀
  | request {w w' : World (Shared G) Proc} {p : ℕ} {as : List (ℕ × Input)}
      (h : OneAtATime env C w₀ w) (hrun : (service env G).Run (Alone C p) w as w') :
      OneAtATime env C w₀ (quiet w'.shared)
  | update {w : World (Shared G) Proc} {u : UserId} {ref : String} {payload : BookingPatch}
      {db' : Db} (h : OneAtATime env C w₀ w)
      (hok : updateBooking w.shared.db u ref payload = .ok db') :
      OneAtATime env C w₀ (quiet (w.shared.withDb db'))

omit [PaymentGateway G] in
/-- An update of names is journalled as a move from a state to itself. -/
theorem Db.Journals.updated {db db' : Db} {u : UserId} {ref : String} {payload : BookingPatch}
    (h : db.Journals k) (hok : updateBooking db u ref payload = .ok db') : db'.Journals k := by
  obtain ⟨b, row, hrow, -, rfl | ⟨d, rfl⟩⟩ := updateBooking_eq_ok hok
  · exact h.congr rfl rfl
  · exact h.moved (moved_record (setPassengers db _) ..) (fun _ => rfl)
      fun _ => ⟨⟨row, hrow, rfl⟩, ⟨row, hrow, rfl⟩, fun hne => absurd rfl hne⟩

omit [PaymentGateway G] in
/-- Where no request is under way the outline asks for the tables alone. -/
theorem outline_quiet (ht : Tables (quiet s).shared) : (outline G).Holds (quiet s) where
  shared := ht
  own _ := trivial
  pair _ _ _ := ⟨fun _ hb => by simp [quiet, Proc.booking?] at hb,
    fun _ hb => by simp [quiet, Proc.untold?] at hb,
    fun _ hb => by simp [quiet, Proc.ticketed?] at hb⟩

omit [PaymentGateway G] in
theorem Tables.quiet (ht : Tables s) : Tables (quiet s).shared :=
  ⟨ht.seatIds, ht.checked, ht.unborn, ht.passengerLt, ht.passengerIds, ht.payments, ht.seated,
    ht.onFlight, ht.pinned, ht.refs⟩

/-- What one request at a time keeps. -/
structure Serving (b : BookingId) (p : ℕ) (w : World (Shared G) Proc) : Prop where
  outline : (outline G).Holds w
  journals : w.shared.db.Journals b
  fresh : (w.proc p).Fresh w.shared

theorem Serving.run {w w' : World (Shared G) Proc} {as : List (ℕ × Input)} (h : Serving b p w)
    (hrun : (service env G).Run (Alone (Journalling b) p) w as w') : Serving b p w' := by
  refine hrun.induct h fun w₁ q a w₂ h₁ hC hn => ?_
  obtain ⟨rfl, hC⟩ := hC
  have ho₂ := outline_next h₁.outline hn
  obtain ⟨s', P', hs, rfl⟩ := System.next_eq_some.mp hn
  have hstep := step_of hs
  refine ⟨ho₂, hstep.journals h₁.outline.shared (h₁.outline.own q) h₁.fresh hC h₁.journals, ?_⟩
  have hown := ho₂.own q
  simp only [Function.update_self] at hown ⊢
  exact hstep.fresh h₁.fresh hown

theorem OneAtATime.serving {db : Db} {g : G} {clock : Time} {w : World (Shared G) Proc}
    (hdb : db.Initial) (h : OneAtATime env (Journalling b) (initialWorld db g clock) w) (p : ℕ) :
    Serving b p w := by
  induction h generalizing p with
  | start =>
    have hempty : ∀ l, movesOf l db.audit = [] := fun l => by simp [movesOf, hdb.audit]
    refine ⟨outline_initial hdb g clock, ⟨?_, fun _ => hempty b, fun row hrow => ?_⟩, ?_⟩
    · show bookingAudit.GapFree b db.audit
      rw [hdb.audit]
      exact Filing.gapFree_nil
    · exact absurd ((hdb.booking b).symm.trans hrow) (by simp)
    · intro b x hx
      simp [initialWorld, Proc.inHand?] at hx
  | @request w w' q as h hrun ih =>
    have hw := (ih q).run hrun
    exact ⟨outline_quiet hw.outline.shared.quiet, hw.journals.congr rfl rfl,
      fun b x hx => by simp [quiet, Proc.inHand?] at hx⟩
  | update h hok ih =>
    have hw := ih p
    exact ⟨outline_quiet (hw.outline.shared.updated hok), hw.journals.updated hok,
      fun b x hx => by simp [quiet, Proc.inHand?] at hx⟩

/-! ### The claim of the journal -/

/-- **The audit trail is the journal of the state**, in every committed state of
requests and updates that are served one at a time, as long as nothing writes a state of
the booking past its audit rows. -/
theorem state_journal {db : Db} {g : G} {clock : Time} {w w' : World (Shared G) Proc} {p : ℕ}
    {as : List (ℕ × Input)} (hdb : db.Initial)
    (h : OneAtATime env (Journalling b) (initialWorld db g clock) w)
    (hrun : (service env G).Run (Alone (Journalling b) p) w as w') {row : Booking}
    (hrow : w'.shared.db.booking b = some row) :
    bookingStates.Tells Allowed (w'.shared.db.journal b) row.state :=
  ((h.serving hdb p).run hrun).journals.tells hrow

/-- A user holds a seat. -/
def heldSeat : List (ℕ × Input) := asks 0 (.createHold ⟨10, 7, "1A"⟩) 3 (.calm 0)

/-- The booking request for it, in `n` steps. -/
def bookedSeat (card : String) (n : ℕ) : List (ℕ × Input) :=
  asks 0 (.createBooking ⟨10, "solo-key-0000001", soloBody 0 card⟩) n (.calm 1)

/-- A new family name for the passenger. -/
def renamed : BookingPatch := ⟨[⟨2, none, some "Byron"⟩], by simp, by simp⟩

/-- A booking that is confirmed, amended and cancelled. -/
theorem state_journal_cancelled :
    ∃ (w w' : World (Shared FakePaymentGateway) Proc) (row : Booking),
      OneAtATime demoEnv (Journalling 1) (onSale 1) w ∧
      (service demoEnv FakePaymentGateway).Run (Alone (Journalling 1) 0) w
        (asks 0 (.cancelBooking ⟨10, "SKYLCC"⟩) 5 (.calm 2)) w' ∧
      w'.shared.db.booking 1 = some row ∧ row.state = .cancelled ∧
      (w'.shared.db.journal 1).map BookingAudit.eventType =
        [.bookingCreated, .paymentAuthorized, .ticketsIssued, .bookingConfirmed,
          .passengerUpdated, .bookingCancelled] ∧
      bookingStates.Tells Allowed (w'.shared.db.journal 1) row.state := by
  have hrun : ((service demoEnv FakePaymentGateway).checked (Alone (Journalling 1) 0) (onSale 1)
      heldSeat).any (fun w₁ =>
        ((service demoEnv FakePaymentGateway).checked (Alone (Journalling 1) 0) (quiet w₁.shared)
          (bookedSeat "tok_test_aaaa11110000" 14)).any fun w₂ =>
          (updateBooking w₂.shared.db 10 "SKYLCC" renamed).toOption.any fun db' =>
            ((service demoEnv FakePaymentGateway).checked (Alone (Journalling 1) 0)
              (quiet (w₂.shared.withDb db'))
              (asks 0 (.cancelBooking ⟨10, "SKYLCC"⟩) 5 (.calm 2))).any fun w' =>
              (w'.shared.db.booking 1).any fun row => decide (row.state = .cancelled ∧
                (w'.shared.db.journal 1).map BookingAudit.eventType =
                  [.bookingCreated, .paymentAuthorized, .ticketsIssued, .bookingConfirmed,
                    .passengerUpdated, .bookingCancelled])) = true := by
    decide +kernel
  obtain ⟨w₁, hheld, htest⟩ := System.exists_run_of_checked hrun
  obtain ⟨w₂, hbooked, htest⟩ := System.exists_run_of_checked htest
  obtain ⟨db', hupdated, htest⟩ := (Option.any_eq_true _ _).mp htest
  obtain ⟨w', hcancelled, htest⟩ := System.exists_run_of_checked htest
  obtain ⟨row, hrow, htest⟩ := (Option.any_eq_true _ _).mp htest
  obtain ⟨hstate, hevents⟩ := of_decide_eq_true htest
  have hok : updateBooking w₂.shared.db 10 "SKYLCC" renamed = .ok db' := by
    cases hu : updateBooking w₂.shared.db 10 "SKYLCC" renamed with
    | error e => simp [hu, Except.toOption] at hupdated
    | ok db'' =>
      rw [hu] at hupdated
      exact congrArg Except.ok (Option.some.inj hupdated)
  have hserved : OneAtATime demoEnv (Journalling 1) (onSale 1)
      (quiet ((quiet w₂.shared).shared.withDb db')) :=
    .update (.request (.request .start hheld) hbooked) hok
  exact ⟨_, w', row, hserved, hcancelled, hrow, hstate, hevents,
    state_journal (Db.seeded_initial _ _ _ _) hserved hcancelled hrow⟩

/-- **A compensation that reverses its charge is not journalled**: the booking is
`VOIDED`, and its last audit row with a `to_state` says `COMPENSATING`. -/
theorem voided_unjournalled :
    ∃ (w w' : World (Shared FakePaymentGateway) Proc) (row : Booking),
      OneAtATime demoEnv (fun _ _ _ => True) (onSale 1) w ∧
      (service demoEnv FakePaymentGateway).Run (Alone (fun _ _ _ => True) 0) w
        (bookedSeat "tok_test_aaaa11119995" 13) w' ∧
      w'.shared.db.booking 1 = some row ∧ row.state = .voided ∧
      ¬ bookingStates.Tells Allowed (w'.shared.db.journal 1) row.state := by
  have hrun : ((service demoEnv FakePaymentGateway).checked (Alone (fun _ _ _ => True) 0)
      (onSale 1) heldSeat).any (fun w =>
        ((service demoEnv FakePaymentGateway).checked (Alone (fun _ _ _ => True) 0)
          (quiet w.shared) (bookedSeat "tok_test_aaaa11119995" 13)).any fun w' =>
          (w'.shared.db.booking 1).any fun row => decide (row.state = .voided ∧
            (w'.shared.db.journal 1).getLast?.bind BookingAudit.toState = some .compensating)) =
      true := by
    decide +kernel
  obtain ⟨w, hheld, htest⟩ := System.exists_run_of_checked hrun
  obtain ⟨w', hbooked, htest⟩ := System.exists_run_of_checked htest
  obtain ⟨row, hrow, htest⟩ := (Option.any_eq_true _ _).mp htest
  obtain ⟨hstate, hlast⟩ := of_decide_eq_true htest
  refine ⟨_, w', row, .request .start hheld, hbooked, hrow, hstate, fun htells => ?_⟩
  obtain ⟨r, hr, htarget⟩ := htells.last
  have hvoided : r.toState = some .voided := hstate ▸ htarget
  rw [hr, Option.bind_some, hvoided] at hlast
  exact absurd hlast (by decide)

end SkyLock
