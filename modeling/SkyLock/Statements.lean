import SkyLock.Interference
import SkyLock.Scripts

/-!
# Statements and row locks

The SQL statements and gateway calls behind each step of a request, in order, and
the row locks its session holds between them.  A row is locked by the SELECT ... FOR
UPDATE, the UPDATE, the INSERT or the DELETE that touches it, and stays so until the
session commits or rolls back.

`run` and `_compensate` commit before every gateway call.  `cancel` locks the
booking's seats first and asks for the refund while it holds them.

## Main definitions

* `Row`, `Statement`, `heldAfter` — the lockable rows, the statements, and the locks
  held after some of them.
* `statements` — what a step of a request issues.
* `CallsUnlocked` — no row is locked at any gateway call.
* `RefundsUnlocked`, `RefundsUnpinned` — the condition under which that is so, by the
  locks and by the rows.

## Main results

* `calls_unlocked_iff` — **exactly the refunds of `cancel` over locked seats break it**.
* `refund_over_locks` — a cancellation that does.
-/

namespace SkyLock

open Concurrent

/-! ### Statements -/

/-- What a statement locks: a seat row, a booking row, the passenger, ticket or audit
rows of a booking, a payment row, or the row of an idempotency key. -/
inductive Row where
  | seat (k : SeatId)
  | booking (b : BookingId)
  | passengers (b : BookingId)
  | tickets (b : BookingId)
  | audit (b : BookingId)
  | payment (id : PaymentId)
  | claim (key : String × UserId)
  deriving DecidableEq, Repr

/-- The methods of `PaymentGateway`. -/
inductive GatewayMethod where
  | authorize
  | capture
  | void
  | refund
  deriving DecidableEq, Repr

/-- A statement of a session, or a gateway call between two. -/
inductive Statement where
  /-- A SELECT without a lock. -/
  | select
  /-- `SELECT ... ORDER BY id FOR UPDATE` on `seat_inventory`. -/
  | lockInOrder (seats : List SeatId)
  /-- A multi-row UPDATE of `seat_inventory`, which has no order. -/
  | updateSeats (seats : List SeatId)
  /-- The unit of work's UPDATEs of seat instances, in primary-key order. -/
  | flushSeats (seats : List SeatId)
  /-- An INSERT, UPDATE or DELETE in the other tables. -/
  | write (rows : List Row)
  | commit
  | rollback
  | call (method : GatewayMethod)
  deriving DecidableEq, Repr

/-- The locks held after a statement. -/
def Statement.locks (held : List Row) : Statement → List Row
  | .select | .call _ => held
  | .lockInOrder seats | .updateSeats seats | .flushSeats seats => held ++ seats.map .seat
  | .write rows => held ++ rows
  | .commit | .rollback => []

/-- The locks held after some statements. -/
def heldAfter (held : List Row) (sts : List Statement) : List Row :=
  sts.foldl Statement.locks held

/-- It is a gateway call. -/
def Statement.isCall : Statement → Bool
  | .call _ => true
  | _ => false

/-- At every gateway call no row is locked. -/
def CallsUnlocked (held : List Row) : List Statement → Prop
  | [] => True
  | st :: sts => (st.isCall = true → held = []) ∧ CallsUnlocked (st.locks held) sts

instance decidableCallsUnlocked :
    ∀ (held : List Row) (sts : List Statement), Decidable (CallsUnlocked held sts)
  | _, [] => isTrue trivial
  | held, st :: sts =>
    have := decidableCallsUnlocked (st.locks held) sts
    inferInstanceAs (Decidable ((st.isCall = true → held = []) ∧
      CallsUnlocked (st.locks held) sts))

@[simp] theorem heldAfter_nil (held : List Row) : heldAfter held [] = held := rfl

@[simp] theorem heldAfter_cons (held : List Row) (st : Statement) (sts : List Statement) :
    heldAfter held (st :: sts) = heldAfter (st.locks held) sts := rfl

theorem heldAfter_append (held : List Row) (sts sts' : List Statement) :
    heldAfter held (sts ++ sts') = heldAfter (heldAfter held sts) sts' :=
  List.foldl_append

theorem callsUnlocked_append {sts' : List Statement} : ∀ {held : List Row}
    {sts : List Statement}, CallsUnlocked held (sts ++ sts') ↔
      CallsUnlocked held sts ∧ CallsUnlocked (heldAfter held sts) sts'
  | held, [] => by simp [CallsUnlocked]
  | held, st :: sts => by
    simp only [List.cons_append, CallsUnlocked, heldAfter_cons, callsUnlocked_append, and_assoc]

/-- Without a gateway call there is nothing to break. -/
theorem callsUnlocked_of_noCall : ∀ {held : List Row} {sts : List Statement},
    sts.any Statement.isCall = false → CallsUnlocked held sts
  | _, [], _ => trivial
  | held, st :: sts, h => by
    rw [List.any_cons, Bool.or_eq_false_iff] at h
    exact ⟨fun hcall => absurd hcall (by simp [h.1]), callsUnlocked_of_noCall h.2⟩

/-! ### What each step issues -/

/-- The statements of `audit.record` whose flush also writes `dirty`. -/
def recordStatements (b : BookingId) (dirty : List Row) : List Statement :=
  [.select, .write (dirty ++ [.audit b])]

/-- The statements of `release_seats_for_booking`. -/
def releaseStatements (db : Db) (b : BookingId) : List Statement :=
  [.write [.tickets b], .updateSeats (db.seatsOf b)]

/-- `begin`, from one place to the next. -/
def beginStatements (key : String × UserId) : BookingPc → List Statement
  | .beginInsert _ true => [.write [.claim key]]
  | .beginCommit _ _ true => [.write [.claim key]]
  | .openBooking | .beginSelect => [.commit]
  | _ => [.select]

/-- The statements of one step of a `create_booking` request; an exception rolls the
session back before the outcome is recorded. -/
def bookingStatements {G : Type} (s : Shared G) (r : BookingRequest) :
    BookingPc → BookingPc → List Statement
  | .beginDelete _, pc' | .beginInsert _ _, pc' | .beginCommit _ _ _, pc' =>
    beginStatements r.claimKey pc'
  | .beginSelect, _ => [.select]
  | .openBooking, .assess σ =>
    .lockInOrder ((lockSeatsForHolds s.db r.payload.holdIds r.userId).map Orm.Instance.id) ::
      [.select, .select, .write [.booking σ.bookingId], .write [.passengers σ.bookingId],
        .flushSeats (σ.seats.map Orm.Instance.id)] ++
      recordStatements σ.bookingId [] ++ recordStatements σ.bookingId [] ++ [.commit]
  | .openBooking, .release .dataError _ | .openBooking, .release (.integrityError _) _ =>
    [.lockInOrder ((lockSeatsForHolds s.db r.payload.holdIds r.userId).map Orm.Instance.id),
      .select, .select, .write [.booking s.uuid], .rollback]
  | .openBooking, _ =>
    [.lockInOrder ((lockSeatsForHolds s.db r.payload.holdIds r.userId).map Orm.Instance.id),
      .select, .rollback]
  | .assess _, _ => []
  | .failSelect σ f, .failCommit _ _ _ =>
    recordStatements σ.bookingId (f.payment.toList.map fun pay => .payment pay.1.id) ++ [.select]
  | .failSelect σ f, .release .dataError _ =>
    recordStatements σ.bookingId (f.payment.toList.map fun pay => .payment pay.1.id) ++ [.rollback]
  | .failSelect _ _, _ => [.rollback]
  | .failCommit σ _ rows, .completeSelect _ _ =>
    [.write [.booking σ.bookingId], .flushSeats (rows.map Orm.Instance.id), .commit]
  | .failCommit σ _ rows, _ =>
    [.write [.booking σ.bookingId], .flushSeats (rows.map Orm.Instance.id), .rollback]
  | .createPayment _, .authorize _ pay => [.write [.payment pay.id], .commit]
  | .createPayment _, _ => [.write [.payment s.uuid], .rollback]
  | .authorize _ _, _ => [.call .authorize]
  | .journalUnknown σ pay, _ => recordStatements σ.bookingId [.payment pay.id] ++ [.commit]
  | .retryAuthorize _ _, .release _ _ => [.call .authorize, .rollback]
  | .retryAuthorize _ _, _ => [.call .authorize]
  | .recordAuthorized σ pay _, .issueTickets _ _ =>
    recordStatements σ.bookingId [.payment pay.id] ++ [.write [.booking σ.bookingId], .commit]
  | .recordAuthorized σ pay _, .release .dataError _ =>
    recordStatements σ.bookingId [.payment pay.id] ++ [.rollback]
  | .recordAuthorized _ _ _, _ => [.rollback]
  | .issueTickets σ _, .capture _ _ =>
    .lockInOrder (σ.seats.map Orm.Instance.id) ::
      (recordStatements σ.bookingId [] ++
        [.write [.tickets σ.bookingId], .flushSeats (σ.seats.map Orm.Instance.id)] ++
        recordStatements σ.bookingId [] ++ [.write [.booking σ.bookingId], .commit])
  | .issueTickets σ _, .reverse _ _ _ =>
    -- `_issue_tickets` raises with its locks held, and `_compensate` takes over
    .lockInOrder (σ.seats.map Orm.Instance.id) :: (recordStatements σ.bookingId [] ++
      recordStatements σ.bookingId [] ++ [.write [.booking σ.bookingId], .commit])
  | .issueTickets σ _, _ =>
    [.lockInOrder (σ.seats.map Orm.Instance.id), .write [.tickets σ.bookingId],
      .flushSeats (σ.seats.map Orm.Instance.id), .rollback]
  | .reverse _ pay _, _ => [.call (if pay.state = .captured then .refund else .void)]
  | .finishVoided σ pay _, .completeSelect _ _ =>
    recordStatements σ.bookingId [.payment pay.id] ++ releaseStatements s.db σ.bookingId ++
      recordStatements σ.bookingId [] ++ [.write [.booking σ.bookingId], .commit]
  | .finishVoided _ _ _, _ => [.rollback]
  | .finishReview σ _ _ _, _ =>
    recordStatements σ.bookingId [] ++ releaseStatements s.db σ.bookingId ++
      recordStatements σ.bookingId [.booking σ.bookingId] ++ [.commit]
  | .capture _ _, .release _ _ => [.call .capture, .rollback]
  | .capture _ _, _ => [.call .capture]
  | .confirm σ pay, .refresh _ =>
    recordStatements σ.bookingId [.payment pay.id] ++ [.write [.booking σ.bookingId], .commit]
  | .confirm _ _, _ => [.rollback]
  | .refresh _, _ | .completeSelect _ _, _ => [.select]
  | .completeCommit _ _, _ | .release _ _, _ => [.write [.claim r.claimKey], .commit]
  | .done _ _, _ => []

/-- The statements of one step of a `cancel_booking` request. -/
def cancelStatements {G : Type} (s : Shared G) : CancelPc → CancelPc → List Statement
  | .load, _ | .selectPayment _ _, _ => [.select]
  | .lockSeats b _ _, _ => [.lockInOrder (s.db.seatsOf b)]
  | .refund _ _ _, _ => [.call .refund]
  | .finish b _ refunded, .done (.json _ _ _) =>
    releaseStatements s.db b ++
      recordStatements b (refunded.toList.map fun pay => .payment pay.id) ++
      [.write [.booking b], .commit]
  | .finish _ _ _, _ => [.rollback]
  | .review b _ _, .done (.problem _) =>
    recordStatements b [] ++ [.write [.booking b], .commit]
  | .review _ _ _, _ => [.rollback]
  | .done _, _ => []

/-- The statements of one step of a request. -/
def statements {G : Type} (s : Shared G) : Proc → Proc → List Statement
  | .booking r pc, .booking _ pc' => bookingStatements s r pc pc'
  | .cancel _ pc, .cancel _ pc' => cancelStatements s pc pc'
  | .hold _ (.update _), .hold _ (.refresh k) => [.updateSeats [k], .commit]
  | .hold _ _, _ => [.select]
  | .release _ .load, _ => [.select]
  | .release r .update, _ =>
    [.updateSeats (s.db.seatIds.filter fun k => releasable r.holdId r.userId (s.db.seat k)),
      .commit]
  | .sweep (.update now), _ =>
    [.updateSeats (s.db.seatIds.filter fun k => sweepable now (s.db.seat k)), .commit]
  | _, _ => []

/-! ### The seat locks of a cancellation -/

/-- The booking whose seats a cancellation has locked. -/
def Proc.locking? : Proc → Option BookingId
  | .cancel _ (.refund b _ _) | .cancel _ (.finish b _ _) | .cancel _ (.review b _ _) => some b
  | _ => none

section

variable {G : Type} [PaymentGateway G] {env : Env} {s s' : Shared G} {p q : ℕ} {P P' : Proc}
  {a : Input}

/-- A process neither takes nor drops the seat locks of another. -/
theorem Step.locks_other (h : Step env s q P a s' P') (hq : q ≠ p) {k : SeatId}
    (hk : k ∈ s.db.seatIds) : s'.locks k = some p ↔ s.locks k = some p := by
  have hunlock : ∀ s₁ : Shared G, (s₁.unlockSeats q).locks k = some p ↔ s₁.locks k = some p := by
    intro s₁
    simp only [Shared.unlockSeats_locks]
    split
    · next heq => simp [heq, hq]
    · rfl
  cases h
  case cancel r x pc pc' h =>
    cases h
    case locks b state pay hf =>
      simp only [Shared.lockSeatsOf_locks]
      split
      · next hb =>
        have hfree := List.all_eq_true.mp hf k (List.mem_filter.mpr ⟨hk, by simpa using hb⟩)
        rcases of_decide_eq_true hfree with hnone | hmine
        · simp [hnone, hq]
        · simp [hmine, hq]
      · rfl
    case finishes => exact hunlock _
    case finishIllegal => exact hunlock _
    case finishRolledBack => exact hunlock _
    case reviews => exact hunlock _
    case reviewRolledBack => exact hunlock _
    all_goals rfl
  case booking r x pc pc' h => cases h <;> rfl
  case hold r x pc pc' h => cases h <;> rfl
  case release r x pc pc' h => cases h <;> rfl
  case sweep x pc pc' h => cases h; rfl
  all_goals rfl

/-- Only a cancellation that is past its SELECT ... FOR UPDATE has seat locks. -/
theorem Step.locks_own (h : Step env s p P a s' P')
    (hP : P.locking? = none → ∀ k ∈ s.db.seatIds, s.locks k ≠ some p)
    (hP' : P'.locking? = none) : ∀ k ∈ s'.db.seatIds, s'.locks k ≠ some p := by
  have hunlock : ∀ (s₁ : Shared G) k, (s₁.unlockSeats p).locks k ≠ some p := by
    intro s₁ k
    simp only [Shared.unlockSeats_locks]
    split
    · simp
    · assumption
  cases h
  case cancel r x pc pc' h =>
    cases h
    case locks b state pay hf => cases pay <;> simp [afterLock, Proc.locking?] at hP'
    case refunds => simp [Proc.locking?] at hP'
    case refundFails => simp [Proc.locking?] at hP'
    case finishes => exact fun k _ => hunlock _ k
    case finishIllegal => exact fun k _ => hunlock _ k
    case finishRolledBack => exact fun k _ => hunlock _ k
    case reviews => exact fun k _ => hunlock _ k
    case reviewRolledBack => exact fun k _ => hunlock _ k
    all_goals exact hP rfl
  case booking r x pc pc' h => cases h <;> exact hP rfl
  case hold r x pc pc' h => cases h <;> exact hP rfl
  case release r x pc pc' h => cases h <;> exact hP rfl
  case sweep x pc pc' h => cases h; exact hP rfl
  all_goals exact hP rfl

/-! ### What a cancellation has locked -/

/-- A step leaves the rows that another process has locked alone. -/
theorem Step.seat_of_locked (h : Step env s q P a s' P') (ho : P.Outline s) (hq : q ≠ p)
    {k : SeatId} (hk : k ∈ s.db.seatIds) (hlock : s.locks k = some p)
    (hown : ∀ b, P.locking? = some b → (s.db.seat k).bookingId ≠ some b) :
    s'.db.seat k = s.db.seat k := by
  -- whoever writes to rows had to find them unlocked
  have hnot : ∀ {ids : List SeatId}, s.seatsFree q ids = true → k ∉ ids := by
    intro ids hf hmem
    have hfree := of_decide_eq_true (List.all_eq_true.mp hf k hmem)
    simp [hlock, hq.symm] at hfree
  have hfilter : ∀ {f : SeatId → Bool}, s.seatsFree q (s.db.seatIds.filter f) = true →
      f k = false := by
    intro f hf
    have hout := hnot hf
    simpa [hk] using hout
  cases h
  case booking r x pc pc' h =>
    cases h
    case opens seats flightId flight ref hseats hf hlen hlive hids hflight hpnr htotal href =>
      have hfresh : ∀ i ∈ seats, i.row = s.db.seat i.id := fun i hi =>
        (mem_lockSeatsForHolds (hseats ▸ hi)).2.1
      exact (openedDb_seat hfresh ..).trans (if_neg (hnot hf))
    case fails σ f rows hf h => exact failedDb_seat_of_notMem (hnot hf)
    case issues σ pay assigned rows hf hlost htrig hassigned hunique hchecked hcan hseq hrows =>
      have hids := (ho σ.bookingId rfl).2.1.seated.assigned_ids hassigned
      exact flushTicketed_seat_of_notMem (hids ▸ hnot hf)
    case voids σ pay reason hf h =>
      exact (voidedDb_seat k).trans (if_neg (of_decide_eq_false (hfilter hf)))
    case flags σ pay reason error hf =>
      exact (finishReview_seat error k).trans (if_neg (of_decide_eq_false (hfilter hf)))
    all_goals rfl
  case hold r x pc pc' h =>
    cases h
    case acquires now k' hf h =>
      exact (acquiredDb_seat k).trans (if_neg (by simpa using hnot hf))
    all_goals rfl
  case release r x pc pc' h =>
    cases h
    case releases reply hf =>
      exact (releaseHold_seat k).trans (if_neg (by simp [hfilter hf]))
    all_goals rfl
  -- the last transaction of a cancellation locks nothing more: it has its own rows locked
  case cancel r x pc pc' h =>
    cases h
    case finishes b state refunded h hseq => exact (cancelledDb_seat k).trans (if_neg (hown b rfl))
    all_goals rfl
  case sweep x pc pc' h =>
    cases h
    case sweeps now hf =>
      exact (sweepExpiredHolds_seat k).trans (if_neg (by simp [hfilter hf]))
  all_goals rfl

omit [PaymentGateway G] in
/-- The booking of a cancellation that has locked its seats is there. -/
theorem Proc.Outline.lt_of_locking (ho : P.Outline s) {b : BookingId}
    (hb : P.locking? = some b) : b < s.uuid := by
  cases P with
  | cancel r pc => cases pc <;> simp only [Proc.locking?, reduceCtorEq] at hb <;> exact (ho b hb).1
  | _ => simp [Proc.locking?] at hb

/-- No row comes to be pinned to a booking that is there. -/
theorem Step.pinned_before (h : Step env s p P a s' P') (ho : P.Outline s) {b : BookingId}
    (hb : b < s.uuid) {k : SeatId} (hpinned : (s'.db.seat k).bookingId = some b) :
    (s.db.seat k).bookingId = some b := by
  have hw := h.seatWrite ho k
  generalize s'.db.seat k = row at hw hpinned
  cases hw with
  | kept | tickets | releases | sweeps => exact hpinned
  | pins => exact absurd (Option.some.inj hpinned) (Nat.ne_of_gt hb)
  | unpins | returns | acquires => exact absurd hpinned (by simp [SeatInventory.returned,
      SeatInventory.heldBy])

/-- A cancellation that is past its SELECT ... FOR UPDATE has locked the rows pinned to its
booking, and no others. -/
structure LocksPinned (w : World (Shared G) Proc) : Prop where
  free : ∀ q, (w.proc q).locking? = none → ∀ k ∈ w.shared.db.seatIds, w.shared.locks k ≠ some q
  pinned : ∀ q b, (w.proc q).locking? = some b → ∀ k ∈ w.shared.db.seatIds,
    w.shared.locks k = some q ↔ (w.shared.db.seat k).bookingId = some b

/-- The locks a step of the cancellation itself leaves. -/
theorem Step.locks_pinned (h : Step env s p P a s' P')
    (hfree : P.locking? = none → ∀ k ∈ s.db.seatIds, s.locks k ≠ some p)
    (hpinned : ∀ b, P.locking? = some b → ∀ k ∈ s.db.seatIds,
      s.locks k = some p ↔ (s.db.seat k).bookingId = some b) {b : BookingId}
    (hb : P'.locking? = some b) {k : SeatId} (hk : k ∈ s'.db.seatIds) :
    s'.locks k = some p ↔ (s'.db.seat k).bookingId = some b := by
  cases h
  case cancel r x pc pc' h =>
    cases h
    case locks b' state pay hf =>
      obtain rfl : b' = b := by cases pay <;> exact Option.some.inj hb
      simp only [Shared.lockSeatsOf_locks, Shared.lockSeatsOf_db]
      split
      · next heq => simp [heq]
      · next hne => exact iff_of_false (hfree rfl k hk) hne
    case refunds => exact hpinned b hb k hk
    case refundFails => exact hpinned b hb k hk
    all_goals simp [Proc.locking?] at hb
  case arrive r => cases r <;> simp [Request.start, Proc.locking?] at hb
  all_goals simp [Proc.locking?] at hb

theorem locksPinned_holds {C : World (Shared G) Proc → ℕ → Input → Prop} {db : Db} {g : G}
    {clock : Time} {w : World (Shared G) Proc} {as : List (ℕ × Input)} (hdb : db.Initial)
    (h : (service env G).Run C (initialWorld db g clock) as w) : LocksPinned w := by
  induction h with
  | nil => exact ⟨fun _ _ _ _ => by simp [initialWorld], fun _ _ hb => by
      simp [initialWorld, Proc.locking?] at hb⟩
  | @snoc as w₁ w₂ q a hrun hC hn ih =>
    have ho := outline_holds hdb hrun
    obtain ⟨s', P', hs, rfl⟩ := System.next_eq_some.mp hn
    have hstep := step_of hs
    refine ⟨fun p hnone => ?_, fun p b hb k hk => ?_⟩
    · rcases eq_or_ne p q with rfl | hp
      · exact hstep.locks_own (ih.free p) (by simpa using hnone)
      · intro k hk hlock
        simp only [Function.update_of_ne hp] at hnone
        have hk' := hstep.seatIds_eq ▸ hk
        exact ih.free p hnone k hk' ((hstep.locks_other hp.symm hk').mp hlock)
    · rcases eq_or_ne p q with rfl | hp
      · exact hstep.locks_pinned (ih.free p) (ih.pinned p) (by simpa using hb) hk
      · simp only [Function.update_of_ne hp] at hb
        have hk' := hstep.seatIds_eq ▸ hk
        have hlt := (ho.own p).lt_of_locking hb
        rw [hstep.locks_other hp.symm hk', ih.pinned p b hb k hk']
        refine ⟨fun hbefore => ?_, hstep.pinned_before (ho.own q) hlt⟩
        have hlock := (ih.pinned p b hb k hk').mpr hbefore
        rw [hstep.seat_of_locked (ho.own q) hp.symm hk' hlock ?_]
        · exact hbefore
        · intro b' hb' hsame
          have hother := (ih.pinned q b' hb' k hk').mpr hsame
          exact hp (Option.some.inj (hlock.symm.trans hother))

/-! ### The locks between two steps -/

/-- A place of `run` or `_compensate` at which nothing is locked. -/
def BookingPc.unlocked : BookingPc → Bool
  | .openBooking | .assess _ | .failSelect _ _ | .createPayment _ | .authorize _ _
  | .journalUnknown _ _ | .retryAuthorize _ _ | .recordAuthorized _ _ _ | .issueTickets _ _
  | .reverse _ _ _ | .finishVoided _ _ _ | .finishReview _ _ _ _ | .capture _ _ | .confirm _ _ =>
    true
  | _ => false

/-- A place of a request at which nothing is locked. -/
def Proc.unlocked : Proc → Bool
  | .idle => true
  | .booking _ pc => pc.unlocked
  | .cancel r pc => (Proc.cancel r pc).locking?.isNone
  | _ => false

/-- What a request has locked where it is. -/
structure Proc.Holds (s : Shared G) (p : ℕ) (held : List Row) (P : Proc) : Prop where
  unlocked : P.unlocked = true → held = []
  free : P.locking? = none → ∀ k ∈ s.db.seatIds, s.locks k ≠ some p
  locked : ∀ b, P.locking? = some b → ∀ row, row ∈ held ↔
    ∃ k ∈ s.db.seatIds, row = .seat k ∧ s.locks k = some p

omit [PaymentGateway G] in
theorem raised_unlocked (e : Failure) (b : Option BookingId) : (raised e b).unlocked = false := by
  unfold raised
  split <;> rfl

/-- A step of `create_booking` that calls the gateway or leads on starts without a lock,
or ends its transaction. -/
theorem BookingStep.heldAfter_eq {r : BookingRequest} {x : Draws} {pc pc' : BookingPc}
    {held : List Row} (h : BookingStep env s p r x pc s' pc') (hu : pc.unlocked = true → held = [])
    (hu' : pc'.unlocked = true) : heldAfter held (bookingStatements s r pc pc') = [] := by
  cases h
  case opensNothing | selectIllegal | recordIllegal | refuseIllegal | issueRolledBack | voidIllegal
      | confirmIllegal =>
    rw [raised_unlocked] at hu'
    simp at hu'
  case authorizes σ pay result h => simpa [bookingStatements, Statement.locks] using hu rfl
  case retries σ pay result h =>
    have hheld := hu rfl
    unfold afterAuthorize
    split <;> simpa [bookingStatements, Statement.locks] using hheld
  case blocks | passes | timesOut | reverses | reverseFails | captures =>
    simpa [bookingStatements, Statement.locks] using hu rfl
  case claims | opens | createsPayment | journals | recordsAuthorized | issues | refuses =>
    simp [bookingStatements, beginStatements, recordStatements, Statement.locks, heldAfter]
  all_goals simp [BookingPc.unlocked] at hu'

theorem CancelStep.heldAfter_mem {r : CancelRequest} {x : Draws} {pc pc' : CancelPc}
    {held : List Row} (h : CancelStep s p r x pc s' pc')
    (hheld : (Proc.cancel r pc).Holds s p held)
    (hfree : (Proc.cancel r pc').locking? = none → ∀ k ∈ s'.db.seatIds, s'.locks k ≠ some p) :
    (Proc.cancel r pc').Holds s' p (heldAfter held (cancelStatements s pc pc')) := by
  have hempty : (Proc.cancel r pc).locking? = none → held = [] := fun hnone =>
    hheld.unlocked (by simp [Proc.unlocked, hnone])
  cases h
  case findsNothing | refuses | accepts | selects =>
    refine ⟨fun _ => ?_, hfree, by simp [Proc.locking?]⟩
    simpa [cancelStatements, Statement.locks] using hempty rfl
  case locks b state pay hf =>
    have hrows : ∀ row, row ∈ (s.db.seatsOf b).map Row.seat ↔ ∃ k ∈ s.db.seatIds,
        row = .seat k ∧ (s.lockSeatsOf p b).locks k = some p := by
      intro row
      simp only [List.mem_map, Db.seatsOf, List.mem_filter, decide_eq_true_eq,
        Shared.lockSeatsOf_locks]
      constructor
      · rintro ⟨k, ⟨hk, hb⟩, rfl⟩
        exact ⟨k, hk, rfl, if_pos hb⟩
      · rintro ⟨k, hk, rfl, hlock⟩
        refine ⟨k, ⟨hk, ?_⟩, rfl⟩
        by_contra hb
        rw [if_neg hb] at hlock
        exact hheld.free rfl k hk hlock
    have hafter : heldAfter held (cancelStatements s (.lockSeats b state pay)
        (afterLock b state pay)) = (s.db.seatsOf b).map Row.seat := by
      simp [cancelStatements, Statement.locks, hempty rfl]
    rw [hafter]
    refine ⟨fun hu => ?_, hfree, fun b' _ => hrows⟩
    cases pay <;> simp [afterLock, Proc.unlocked, Proc.locking?] at hu
  case refunds b state pay h =>
    exact ⟨by simp [Proc.unlocked, Proc.locking?], hfree, fun b' _ => hheld.locked b rfl⟩
  case refundFails b state pay e h =>
    exact ⟨by simp [Proc.unlocked, Proc.locking?], hfree, fun b' _ => hheld.locked b rfl⟩
  case finishes | finishIllegal | finishRolledBack | reviews | reviewRolledBack =>
    refine ⟨fun _ => ?_, hfree, by simp [Proc.locking?]⟩
    simp [cancelStatements, recordStatements, releaseStatements, Statement.locks, heldAfter]

/-- What a step of a request leaves locked. -/
theorem Step.holds {held : List Row} (h : Step env s p P a s' P') (hheld : P.Holds s p held) :
    P'.Holds s' p (heldAfter held (statements s P P')) := by
  have hfree := h.locks_own hheld.free
  cases h
  case cancel r x pc pc' h => exact h.heldAfter_mem hheld hfree
  case booking r x pc pc' h =>
    refine ⟨fun hu => ?_, hfree, by simp [Proc.locking?]⟩
    exact h.heldAfter_eq hheld.unlocked hu
  case tick =>
    exact ⟨fun _ => hheld.unlocked rfl, hfree, by simp [Proc.locking?]⟩
  case arrive r =>
    cases r <;> exact ⟨fun _ => hheld.unlocked rfl, hfree, by simp [Proc.locking?, Request.start]⟩
  case hold r x pc pc' h =>
    exact ⟨by simp [Proc.unlocked], hfree, by simp [Proc.locking?]⟩
  case release r x pc pc' h =>
    exact ⟨by simp [Proc.unlocked], hfree, by simp [Proc.locking?]⟩
  case sweep x pc pc' h =>
    exact ⟨by simp [Proc.unlocked], hfree, by simp [Proc.locking?]⟩

/-- What a step of another process leaves of it. -/
theorem Proc.Holds.other {held : List Row} {Q : Proc} (h : Step env s q P a s' P') (hq : q ≠ p)
    (hheld : Q.Holds s p held) : Q.Holds s' p held := by
  have hlocks : ∀ k ∈ s'.db.seatIds, s'.locks k = some p ↔ s.locks k = some p := fun k hk =>
    h.locks_other hq (h.seatIds_eq ▸ hk)
  refine ⟨hheld.unlocked, fun hnone k hk hlock => ?_, fun b hb row => ?_⟩
  · exact hheld.free hnone k (h.seatIds_eq ▸ hk) ((hlocks k hk).mp hlock)
  · rw [hheld.locked b hb row, h.seatIds_eq]
    refine exists_congr fun k => and_congr_right fun hk => and_congr_right fun _ => ?_
    exact (hlocks k (h.seatIds_eq.symm ▸ hk)).symm

/-! ### Gateway calls -/

/-- A refund of a cancellation runs only where it has locked no seat. -/
def RefundsUnlocked (p : ℕ) (w : World (Shared G) Proc) (q : ℕ) (_ : Input) : Prop :=
  match w.proc q with
  | .cancel _ (.refund _ _ _) => q = p → ∀ k ∈ w.shared.db.seatIds, w.shared.locks k ≠ some q
  | _ => True

instance (w : World (Shared G) Proc) (q : ℕ) (a : Input) : Decidable (RefundsUnlocked p w q a) := by
  unfold RefundsUnlocked
  generalize w.proc q = P
  induction P using Proc.casesOn with
  | cancel r pc => induction pc using CancelPc.casesOn <;> infer_instance
  | _ => infer_instance

/-- A refund of a cancellation runs only where no seat row is pinned to its booking: the
cancellation has found a payment to refund, and no seat to lock. -/
def RefundsUnpinned (p : ℕ) (w : World (Shared G) Proc) (q : ℕ) (_ : Input) : Prop :=
  match w.proc q with
  | .cancel _ (.refund b _ _) => q = p → w.shared.db.seatsOf b = []
  | _ => True

omit [PaymentGateway G] in
/-- The rows a cancellation has locked are those pinned to its booking. -/
theorem LocksPinned.refunds_iff {w : World (Shared G) Proc} (hw : LocksPinned w) :
    RefundsUnlocked p w q a ↔ RefundsUnpinned p w q a := by
  unfold RefundsUnlocked RefundsUnpinned
  cases hproc : w.proc q with
  | cancel r pc =>
    cases pc with
    | refund b state pay =>
      have hrows := hw.pinned q b (by rw [hproc]; rfl)
      refine forall_congr' fun _ => ?_
      rw [Db.seatsOf, List.filter_eq_nil_iff]
      refine forall₂_congr fun k hk => ?_
      rw [decide_eq_true_eq]
      exact not_congr (hrows k hk)
    | _ => exact Iff.rfl
  | _ => exact Iff.rfl

/-- `run` and `_compensate` have committed before every gateway call. -/
theorem BookingStep.callsUnlocked {r : BookingRequest} {x : Draws} {pc pc' : BookingPc}
    {held : List Row} (h : BookingStep env s p r x pc s' pc')
    (hu : pc.unlocked = true → held = []) :
    CallsUnlocked held (bookingStatements s r pc pc') := by
  have hcall : pc.unlocked = true → ∀ m, CallsUnlocked held [.call m] ∧
      CallsUnlocked held [.call m, .rollback] := by
    intro hunlocked m
    simp [CallsUnlocked, Statement.isCall, hu hunlocked]
  cases h
  case authorizes | timesOut => exact (hcall rfl _).1
  case retries =>
    unfold afterAuthorize
    split <;> exact (hcall rfl _).1
  case timesOutAgain => exact (hcall rfl _).2
  case reverses | reverseFails => exact (hcall rfl _).1
  case captures => exact (hcall rfl _).1
  case captureFails => exact (hcall rfl _).2
  case opensNothing e _ => cases e <;> exact callsUnlocked_of_noCall rfl
  case selectIllegal e _ => cases e <;> exact callsUnlocked_of_noCall rfl
  case recordIllegal e _ => cases e <;> exact callsUnlocked_of_noCall rfl
  case refuseIllegal e _ _ => cases e <;> exact callsUnlocked_of_noCall rfl
  case issueRolledBack e _ _ _ _ => cases e <;> exact callsUnlocked_of_noCall rfl
  case voidIllegal e _ => cases e <;> exact callsUnlocked_of_noCall rfl
  case confirmIllegal e _ => cases e <;> exact callsUnlocked_of_noCall rfl
  case inserts deleted _ _ => cases deleted <;> exact callsUnlocked_of_noCall rfl
  case claims deleted => cases deleted <;> exact callsUnlocked_of_noCall rfl
  all_goals exact callsUnlocked_of_noCall rfl

/-- A step calls the gateway over a lock exactly when it is a refund of a cancellation
that has locked a seat. -/
theorem Step.callsUnlocked_iff {held : List Row} (h : Step env s p P a s' P')
    (hheld : P.Holds s p held) (w : World (Shared G) Proc) (hw : w.shared = s)
    (hp : w.proc p = P) :
    CallsUnlocked held (statements s P P') ↔ RefundsUnlocked p w p a := by
  subst hw
  cases h
  case booking r x pc pc' h =>
    simp only [RefundsUnlocked, hp]
    exact iff_of_true (h.callsUnlocked hheld.unlocked) trivial
  case cancel r x pc pc' h =>
    cases h
    case refunds b state pay h | refundFails b state pay e h =>
      have hrefund : CallsUnlocked held [.call .refund] ↔ held = [] := by
        simp [CallsUnlocked, Statement.isCall]
      simp only [statements, cancelStatements, hrefund, RefundsUnlocked, hp, true_implies]
      rw [List.eq_nil_iff_forall_not_mem]
      constructor
      · intro hempty k hk hlock
        exact hempty (.seat k) ((hheld.locked b rfl _).mpr ⟨k, hk, rfl, hlock⟩)
      · intro hfree row hrow
        obtain ⟨k, hk, -, hlock⟩ := (hheld.locked b rfl row).mp hrow
        exact hfree k hk hlock
    all_goals
      simp only [RefundsUnlocked, hp]
      exact iff_of_true (callsUnlocked_of_noCall rfl) trivial
  case arrive r =>
    simp only [RefundsUnlocked, hp]
    cases r <;> exact iff_of_true (callsUnlocked_of_noCall rfl) trivial
  case hold r x pc pc' h =>
    simp only [RefundsUnlocked, hp]
    cases h <;> exact iff_of_true (callsUnlocked_of_noCall rfl) trivial
  case release r x pc pc' h =>
    simp only [RefundsUnlocked, hp]
    cases h <;> exact iff_of_true (callsUnlocked_of_noCall rfl) trivial
  case sweep x pc pc' h =>
    simp only [RefundsUnlocked, hp]
    cases h
    exact iff_of_true (callsUnlocked_of_noCall rfl) trivial
  case tick =>
    simp only [RefundsUnlocked, hp]
    exact iff_of_true (callsUnlocked_of_noCall rfl) trivial

end

section

variable {G : Type} [PaymentGateway G] {env : Env}

/-- A row lock is held across a gateway call exactly when a cancellation asks for its
refund with a seat locked. -/
theorem calls_iff_refunds {db : Db} {g : G} {clock : Time} {w : World (Shared G) Proc}
    {as : List (ℕ × Input)} (p : ℕ)
    (h : (service env G).Run (fun _ _ _ => True) (initialWorld db g clock) as w) :
    CallsUnlocked [] ((service env G).emitted statements p (initialWorld db g clock) as) ↔
      (service env G).Run (RefundsUnlocked p) (initialWorld db g clock) as w := by
  suffices hall : (CallsUnlocked []
      ((service env G).emitted statements p (initialWorld db g clock) as) ↔
      (service env G).Run (RefundsUnlocked p) (initialWorld db g clock) as w) ∧
        (w.proc p).Holds w.shared p (heldAfter []
          ((service env G).emitted statements p (initialWorld db g clock) as)) from hall.1
  induction h with
  | nil =>
    refine ⟨iff_of_true trivial .nil, fun _ => rfl, fun _ k _ => by simp [initialWorld], ?_⟩
    simp [initialWorld, Proc.locking?]
  | @snoc as w₁ w₂ q a hrun _ hn ih =>
    obtain ⟨hiff, hholds⟩ := ih
    rw [hrun.emitted_snoc hn]
    obtain ⟨s', P', hs, rfl⟩ := System.next_eq_some.mp hn
    have hstep := step_of hs
    by_cases hq : q = p
    · subst hq
      rw [if_pos rfl]
      simp only [Function.update_self]
      -- by induction on the run, together with what the process holds at its end
      constructor
      · rw [callsUnlocked_append, hiff, hstep.callsUnlocked_iff hholds w₁ rfl rfl]
        constructor
        · rintro ⟨hrun', hC⟩
          exact .snoc hrun' hC hn
        · intro hrun'
          obtain ⟨w₁', hbefore, hC, -⟩ := hrun'.of_snoc
          obtain rfl := hbefore.unique hrun
          exact ⟨hbefore, hC⟩
      · rw [heldAfter_append]
        exact hstep.holds hholds
    · rw [if_neg hq, List.append_nil]
      constructor
      · rw [hiff]
        constructor
        · intro hrun'
          refine .snoc hrun' ?_ hn
          unfold RefundsUnlocked
          split
          · exact fun heq => absurd heq hq
          · trivial
        · intro hrun'
          obtain ⟨w₁', hbefore, -, -⟩ := hrun'.of_snoc
          obtain rfl := hbefore.unique hrun
          exact hbefore
      · simp only [Function.update_of_ne (Ne.symm hq)]
        exact hholds.other hstep hq

/-- **A row lock is held across a gateway call exactly when a cancellation asks for its
refund with a seat locked**, which is when it has found a payment to refund and a seat row
pinned to its booking. -/
theorem calls_unlocked_iff {db : Db} {g : G} {clock : Time} {w : World (Shared G) Proc}
    {as : List (ℕ × Input)} (p : ℕ)
    (h : (service env G).Run (fun _ _ _ => True) (initialWorld db g clock) as w) :
    (CallsUnlocked [] ((service env G).emitted statements p (initialWorld db g clock) as) ↔
      (service env G).Run (RefundsUnlocked p) (initialWorld db g clock) as w) ∧
    (db.Initial →
      (CallsUnlocked [] ((service env G).emitted statements p (initialWorld db g clock) as) ↔
        (service env G).Run (RefundsUnpinned p) (initialWorld db g clock) as w)) := by
  have hiff := calls_iff_refunds p h
  refine ⟨hiff, fun hdb => hiff.trans ⟨fun hrun => ?_, fun hrun => ?_⟩⟩
  · exact hrun.of_reached fun v bs hv q a => (locksPinned_holds hdb hv).refunds_iff.mp
  · exact hrun.of_reached fun v bs hv q a => (locksPinned_holds hdb hv).refunds_iff.mpr

end

/-- A seat is held and booked. -/
def confirmedBooking : List (ℕ × Input) :=
  asks 0 (.createHold ⟨10, 7, "1A"⟩) 3 (.calm 0) ++
    asks 1 (.createBooking ⟨10, "solo-key-0000001", soloBody 0 "tok_test_aaaa11110000"⟩) 14
      (.calm 1)

/-- A booking makes its two calls without a lock. -/
theorem calls_unlocked_confirmed :
    ∃ w, (service demoEnv FakePaymentGateway).Run (fun _ _ _ => True) (onSale 1)
        confirmedBooking w ∧
      ((service demoEnv FakePaymentGateway).emitted statements 1 (onSale 1)
        confirmedBooking).filter Statement.isCall = [.call .authorize, .call .capture] ∧
      CallsUnlocked [] ((service demoEnv FakePaymentGateway).emitted statements 1 (onSale 1)
        confirmedBooking) ∧
      (service demoEnv FakePaymentGateway).Run (RefundsUnpinned 1) (onSale 1)
        confirmedBooking w := by
  have hcalls : ((service demoEnv FakePaymentGateway).emitted statements 1 (onSale 1)
      confirmedBooking).filter Statement.isCall = [.call .authorize, .call .capture] := by
    decide +kernel
  have hrun : ((service demoEnv FakePaymentGateway).checked (RefundsUnlocked 1) (onSale 1)
      confirmedBooking).any (fun _ => true) = true := by
    decide +kernel
  obtain ⟨w, hw, -⟩ := System.exists_run_of_checked hrun
  have hplain := hw.mono (D := fun _ _ _ => True) fun _ _ _ _ => trivial
  obtain ⟨hlocks, hrows⟩ := calls_unlocked_iff 1 hplain
  have hunlocked := hlocks.mpr hw
  exact ⟨w, hplain, hcalls, hunlocked, (hrows (Db.seeded_initial ..)).mp hunlocked⟩

/-- **A cancellation asks for its refund with the seat locked.** -/
theorem refund_over_locks :
    ∃ w, (service demoEnv FakePaymentGateway).Run (fun _ _ _ => True) (onSale 1)
        (confirmedBooking ++ asks 2 (.cancelBooking ⟨10, "SKYLCC"⟩) 5 (.calm 2)) w ∧
      ¬ CallsUnlocked [] ((service demoEnv FakePaymentGateway).emitted statements 2 (onSale 1)
        (confirmedBooking ++ asks 2 (.cancelBooking ⟨10, "SKYLCC"⟩) 5 (.calm 2))) := by
  have hrun : ((service demoEnv FakePaymentGateway).checked (fun _ _ _ => True) (onSale 1)
      (confirmedBooking ++ asks 2 (.cancelBooking ⟨10, "SKYLCC"⟩) 5 (.calm 2))).any
        (fun _ => true) = true := by
    decide +kernel
  obtain ⟨w, hw, -⟩ := System.exists_run_of_checked hrun
  exact ⟨w, hw, by decide +kernel⟩

end SkyLock
