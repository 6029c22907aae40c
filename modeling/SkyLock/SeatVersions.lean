import SkyLock.Declines
import SkyLock.Failures
import SkyLock.HoldStability

/-!
# The version of a seat row

Each statement that writes a seat row is meant to leave a greater version.  The SQL
statements add one to the version the row has.  The flushes of `_issue_tickets` and
`_fail_payment` add one to the version their instance was loaded with, in step 1, and
write the sum over whatever the row has become.

## Main definitions

* `SeatInventory.Stamped` — two contents of a row, and a greater version for a change.
* `BookingPc.unflushed` — the instances a saga has yet to flush.
* `Follows` — what the version of an instance says of its row.
* `CurrentFlush` — the condition: the rows a flush goes over are still held under the
  pin of its booking.

## Main results

* `Step.stamped_iff` — the same of one step.
* `versions_stamp_iff` — **the version is a change stamp in the runs whose flushes are
  current**, and in no others.
* `stale_flush_keeps_version` — a released seat is sold under the version it had.
-/

namespace SkyLock

open Concurrent

variable {G : Type} [PaymentGateway G] {env : Env} {s s' : Shared G} {p : ℕ} {P P' : Proc}
  {a : Input} {k : SeatId} {b : BookingId}

/-! ### Stamped changes -/

namespace SeatInventory

variable {r r' r'' : SeatInventory}

/-- The content `r'` is `r`, or carries a greater version. -/
def Stamped (r r' : SeatInventory) : Prop := r' = r ∨ r.version < r'.version

instance : Decidable (r.Stamped r') := inferInstanceAs (Decidable (_ ∨ _))

theorem Stamped.refl (r : SeatInventory) : r.Stamped r := .inl rfl

theorem Stamped.trans (h : r.Stamped r') (h' : r'.Stamped r'') : r.Stamped r'' := by
  rcases h with rfl | hlt
  · exact h'
  · rcases h' with rfl | hlt'
    · exact .inr hlt
    · exact .inr (hlt.trans hlt')

/-- The row is held, and pinned to the booking. -/
def HeldUnder (r : SeatInventory) (b : Option BookingId) : Prop :=
  r.status = .held ∧ r.bookingId = b

instance (b : Option BookingId) : Decidable (r.HeldUnder b) := inferInstanceAs (Decidable (_ ∧ _))

end SeatInventory

/-! ### The instances of a saga -/

/-- The instances a saga has loaded and may still flush. -/
def BookingPc.unflushed : BookingPc → List SeatInstance
  | .assess σ | .createPayment σ | .authorize σ _ | .journalUnknown σ _ | .retryAuthorize σ _
  | .recordAuthorized σ _ _ | .issueTickets σ _ | .failSelect σ _ => σ.seats
  | .failCommit _ _ rows => rows
  | _ => []

/-- The same of a process. -/
def Proc.unflushed : Proc → List SeatInstance
  | .booking _ pc => pc.unflushed
  | _ => []

/-- What the version of an instance says of its row: until the row leaves the hold the
booking has pinned, it has that version, and from then on a greater one. -/
structure Follows (row i : SeatInventory) : Prop where
  held : row.HeldUnder i.bookingId → row.version = i.version
  moved : ¬ row.HeldUnder i.bookingId → i.version < row.version
  /-- To be booked by somebody else, it was pinned by somebody else before. -/
  booked : row.status = .booked → i.version + 1 < row.version

/-- The saga of a process, while it runs. -/
def Proc.saga? : Proc → Option Saga
  | .booking _ pc => pc.saga?
  | _ => none

/-- The rows follow the instances of a process, and no others are pinned to its booking. -/
structure Proc.Followed (db : Db) (P : Proc) : Prop where
  nodup : (P.unflushed.map Orm.Instance.id).Nodup
  follows : ∀ i ∈ P.unflushed, Follows (db.seat i.id) i.row
  pins : ∀ σ, P.saga? = some σ → ∀ k, (db.seat k).bookingId = some σ.bookingId →
    k ∈ σ.seats.map Orm.Instance.id

/-- A held row follows an instance loaded from it. -/
theorem Follows.refl {i : SeatInventory} (h : i.status = .held) : Follows i i where
  held _ := rfl
  moved hmoved := absurd ⟨h, rfl⟩ hmoved
  booked hbooked := absurd (h.symm.trans hbooked) (by simp)

/-- After a stamped change the row still follows the instance, if the change takes the
row out of the booking's hold, and books it only after that. -/
theorem Follows.stamped {row row' i : SeatInventory} (h : Follows row i) (hs : row.Stamped row')
    (hheld : row'.HeldUnder i.bookingId → row' = row)
    (hbooked : row'.status = .booked → row' = row ∨ ¬ row.HeldUnder i.bookingId) :
    Follows row' i := by
  rcases hs with rfl | hlt
  · exact h
  have hne : row' ≠ row := by
    rintro rfl
    exact absurd hlt (lt_irrefl _)
  have hle : i.version ≤ row.version := by
    by_cases hown : row.HeldUnder i.bookingId
    · exact (h.held hown).ge
    · exact (h.moved hown).le
  refine ⟨fun hown => absurd (hheld hown) hne, fun _ => hle.trans_lt hlt, fun hb => ?_⟩
  have hmoved := h.moved ((hbooked hb).resolve_left hne)
  omega

/-! ### One write -/

omit [PaymentGateway G] in
/-- Writes other than the flushes of stale instances add one to the row's version. -/
theorem SeatWrite.stamped {row : SeatInventory} (h : SeatWrite env s k P P' row)
    (hfail : ∀ r σ f rows, P ≠ .booking r (.failCommit σ f rows))
    (hissue : ∀ r σ pay, P ≠ .booking r (.issueTickets σ pay)) : (s.db.seat k).Stamped row := by
  cases h with
  | kept => exact .refl _
  | unpins => exact absurd rfl (hfail _ _ _ _)
  | tickets => exact absurd rfl (hissue _ _ _)
  | pins | returns | acquires | releases | sweeps => exact .inr (Nat.lt_succ_self _)

omit [PaymentGateway G] in
/-- No write brings a row back under the pin of a booking that there was before, and none
but its own ticketing books it there. -/
theorem SeatWrite.leaves {row : SeatInventory} (h : SeatWrite env s k P P' row) (hb : b < s.uuid)
    (hissue : ∀ r σ pay σ' pay', P = .booking r (.issueTickets σ pay) →
      P' = .booking r (.capture σ' pay') → k ∈ σ.seats.map Orm.Instance.id →
        ¬ (s.db.seat k).HeldUnder (some b)) :
    (row.HeldUnder (some b) → row = s.db.seat k) ∧
      (row.status = .booked → row = s.db.seat k ∨ ¬ (s.db.seat k).HeldUnder (some b)) := by
  constructor
  · rintro ⟨hstatus, hpin⟩
    cases h with
    | kept => rfl
    | pins =>
      obtain rfl : s.uuid = b := Option.some.inj hpin
      exact absurd hb (lt_irrefl _)
    | unpins => simp at hpin
    | tickets => simp at hstatus
    | returns => simp [SeatInventory.returned] at hpin
    | acquires => simp [SeatInventory.heldBy] at hpin
    | releases | sweeps => simp [SeatInventory.freed] at hstatus
  · intro hbooked
    cases h with
    | kept => exact .inl rfl
    | pins _ _ _ hheld =>
      have hstill : (s.db.seat k).status = .booked := hbooked
      rw [hheld] at hstill
      simp at hstill
    | unpins _ hunbooked => exact absurd hbooked hunbooked
    | tickets hmem => exact .inr (hissue _ _ _ _ _ rfl rfl hmem)
    | returns | acquires | releases | sweeps =>
      simp [SeatInventory.returned, SeatInventory.freed, SeatInventory.heldBy] at hbooked

omit [PaymentGateway G] in
/-- A row pinned to a booking that there was before was pinned to it before. -/
theorem SeatWrite.pinned_before {row : SeatInventory} (h : SeatWrite env s k P P' row)
    (hb : b < s.uuid) (hrow : row.bookingId = some b) : (s.db.seat k).bookingId = some b := by
  cases h with
  | kept | tickets => exact hrow
  | pins =>
    obtain rfl : s.uuid = b := Option.some.inj hrow
    exact absurd hb (lt_irrefl _)
  | unpins => simp at hrow
  | returns => simp [SeatInventory.returned] at hrow
  | acquires => simp [SeatInventory.heldBy] at hrow
  | releases | sweeps => exact hrow

/-! ### The flushes -/

/-- What the flush of `_fail_payment` makes of the row of an instance. -/
theorem failedDb_seat_instance (db : Db) (σ : Saga) (f : PaymentFailure) {rows : List SeatInstance}
    (hnd : (rows.map Orm.Instance.id).Nodup) {i : SeatInstance} (hi : i ∈ rows)
    (hb : i.row.bookingId.isSome) :
    (failedDb db σ f rows).seat i.id =
      { db.seat i.id with bookingId := none, version := i.row.version + 1 } :=
  (Orm.flush_map_of_mem SeatInventory.merge (fun i => i.row.unpinned) db.seat hnd hi).trans
    (SeatInventory.merge_unpinned _ hb)

/-- What the flush of `_issue_tickets` makes of the row of an instance. -/
theorem Saga.Before.issued_seat_instance {σ : Saga} {u : UserId} {state : BookingState} {V : View}
    (h : σ.Before u state V) (db : Db) {i : SeatInstance} (hi : i ∈ σ.seats) :
    (db.flushSeats (ticketedSeats σ.bookingId (σ.passengers.zip σ.seats))).seat i.id =
      { db.seat i.id with
        status := .booked, holdId := none, holdExpiresAt := none, version := i.row.version + 1 } := by
  have hdirty : ticketedSeats σ.bookingId (σ.passengers.zip σ.seats) =
      σ.seats.map fun i => (i, i.row.ticketed σ.bookingId) := by
    conv_rhs => rw [← (h.seated.mem_assigned h.seated.assigned_eq).2, List.map_map]
    rfl
  rw [hdirty]
  exact (Orm.flush_map_of_mem SeatInventory.merge (fun i => i.row.ticketed σ.bookingId) db.seat
    h.seated.nodup hi).trans (SeatInventory.merge_ticketed _ (h.pinned.status i hi)
      (h.pinned.hold i hi) (h.pinned.expiry i hi) (h.pinned.booking i hi))

/-- Where a flush of a saga's seat instances goes through, its rows are still held under
the pin of its booking.  A row of `_fail_payment` may also have been unpinned, by one write. -/
def CurrentFlush (w : World (Shared G) Proc) (p : ℕ) (a : Input) : Prop :=
  match w.proc p, a with
  | .booking r (.issueTickets σ _), .go x =>
    triggerFor r.payload.cardToken ≠ .ticketingFailure → Issuable w.shared.db σ x →
      ∀ i ∈ σ.seats, (w.shared.db.seat i.id).HeldUnder (some σ.bookingId)
  | .booking _ (.failCommit σ _ rows), .go _ =>
    (∀ i ∈ rows, (w.shared.db.seat i.id).status ≠ .booked) →
      ∀ i ∈ rows, (w.shared.db.seat i.id).HeldUnder (some σ.bookingId) ∨
        ((w.shared.db.seat i.id).bookingId = none ∧
          (w.shared.db.seat i.id).version = i.row.version + 1)
  | _, _ => True

instance (w : World (Shared G) Proc) (p : ℕ) (a : Input) : Decidable (CurrentFlush w p a) := by
  unfold CurrentFlush
  generalize w.proc p = q
  induction q using Proc.casesOn with
  | booking r pc =>
    induction pc using BookingPc.casesOn <;> induction a using Input.casesOn <;> infer_instance
  | _ => infer_instance

/-- The flush of `_fail_payment` is stamped where its rows are current. -/
theorem BookingStep.stamped_iff_of_fails {r : BookingRequest} {x : Draws} {σ : Saga}
    {f : PaymentFailure} {rows : List SeatInstance} {pc' : BookingPc}
    (h : BookingStep env s p r x (.failCommit σ f rows) s' pc') (ht : Tables s)
    (hrows : ∀ i ∈ rows, i.row.bookingId = some σ.bookingId)
    (hfol : (Proc.booking r (.failCommit σ f rows)).Followed s.db) :
    (∀ k, (s.db.seat k).Stamped (s'.db.seat k)) ↔
      ((∀ i ∈ rows, (s.db.seat i.id).status ≠ .booked) →
        ∀ i ∈ rows, (s.db.seat i.id).HeldUnder (some σ.bookingId) ∨
          ((s.db.seat i.id).bookingId = none ∧ (s.db.seat i.id).version = i.row.version + 1)) := by
  have hsome : ∀ i ∈ rows, i.row.bookingId.isSome := fun i hi => by
    rw [hrows i hi]
    rfl
  cases h with
  | fails hf h =>
    have hseat : ∀ i ∈ rows, (failedDb s.db σ f rows).seat i.id =
        { s.db.seat i.id with bookingId := none, version := i.row.version + 1 } :=
      fun i hi => failedDb_seat_instance s.db σ f hfol.nodup hi (hsome i hi)
    constructor
    · intro hst _ i hi
      by_cases hown : (s.db.seat i.id).HeldUnder (some σ.bookingId)
      · exact .inl hown
      -- the row has moved on, so the flush writes no greater version
      · have hmoved := (hfol.follows i hi).moved (by rwa [hrows i hi])
        have hrow : (s.db.seat i.id).Stamped ((failedDb s.db σ f rows).seat i.id) := hst i.id
        rw [hseat i hi] at hrow
        rcases hrow with heq | hlt
        · refine .inr ⟨?_, ?_⟩
          · rw [← heq]
          · rw [← heq]
        · have hlt : (s.db.seat i.id).version < i.row.version + 1 := hlt
          omega
    · intro hcur k
      have hunbooked : ∀ i ∈ rows, (s.db.seat i.id).status ≠ .booked := fun i hi =>
        (BookingStep.fails hf h : BookingStep env s p r x _ _ _).unbooked_of_fails hsome hi
      show (s.db.seat k).Stamped ((failedDb s.db σ f rows).seat k)
      by_cases hk : k ∈ rows.map Orm.Instance.id
      · obtain ⟨i, hi, rfl⟩ := List.mem_map.mp hk
        rw [hseat i hi]
        rcases hcur hunbooked i hi with hown | ⟨hnone, hver⟩
        · have hver := (hfol.follows i hi).held (by rwa [hrows i hi])
          exact .inr (Nat.lt_succ_of_le hver.le)
        · refine .inl ?_
          rw [← hnone, ← hver]
      · rw [failedDb_seat_of_notMem hk]
        exact .refl _
  | failRolledBack hf h =>
    refine iff_of_true (fun k => .refl _) fun hunbooked => ?_
    have hchecked := failedDb_seatsChecked (f := f) ht hrows hunbooked
    exact absurd (hchecked.symm.trans h) (by simp)

/-- The flush of `_issue_tickets` is stamped where its rows are current. -/
theorem BookingStep.stamped_iff_of_issues {r : BookingRequest} {x : Draws} {σ : Saga}
    {pay : Payment} {pc' : BookingPc} (h : BookingStep env s p r x (.issueTickets σ pay) s' pc')
    (ht : Tables s) (hbefore : σ.Before r.userId .paymentAuthorized (s.view σ.bookingId))
    (hlive : s.db.LiveUnique) (hfol : (Proc.booking r (.issueTickets σ pay)).Followed s.db) :
    (∀ k, (s.db.seat k).Stamped (s'.db.seat k)) ↔
      (triggerFor r.payload.cardToken ≠ .ticketingFailure → Issuable s.db σ x →
        ∀ i ∈ σ.seats, (s.db.seat i.id).HeldUnder (some σ.bookingId)) := by
  by_cases htrig : triggerFor r.payload.cardToken = .ticketingFailure
  · refine iff_of_true (fun k => ?_) fun hne => absurd htrig hne
    cases h with
    | issues _ _ hne | issueRolledBack _ _ hne => exact absurd htrig hne
    | refuses | refuseIllegal => exact .refl _
  · rcases h.issue_cases ht hbefore hlive htrig with ⟨hissuable, -, -, -, hseat, -⟩ | ⟨hnot, rfl, -⟩
    · constructor
      · intro hst _ _ i hi
        have hfollows := hfol.follows i hi
        by_contra hown
        have hmoved := hfollows.moved (by rwa [hbefore.pinned.booking i hi])
        have hrow := hst i.id
        rw [hseat, hbefore.issued_seat_instance s.db hi] at hrow
        rcases hrow with heq | hlt
        -- a row that is booked already has been written twice since step 1
        · have hbooked := hfollows.booked (by rw [← heq])
          have hver : (s.db.seat i.id).version = i.row.version + 1 := by rw [← heq]
          omega
        · have hlt : (s.db.seat i.id).version < i.row.version + 1 := hlt
          omega
      · intro hcur k
        rw [hseat]
        by_cases hk : k ∈ σ.seats.map Orm.Instance.id
        · obtain ⟨i, hi, rfl⟩ := List.mem_map.mp hk
          have hown := hcur htrig hissuable i hi
          have hver := (hfol.follows i hi).held (by rwa [hbefore.pinned.booking i hi])
          rw [hbefore.issued_seat_instance s.db hi]
          exact .inr (Nat.lt_succ_of_le hver.le)
        · have hids := hbefore.seated.assigned_ids hbefore.seated.assigned_eq
          rw [flushTicketed_seat_of_notMem (hids ▸ hk)]
          exact .refl _
    · exact iff_of_true (fun k => .refl _) fun _ hissuable => absurd hissuable hnot

/-- **One step is stamped where its flush is current**, and only there. -/
theorem Step.stamped_iff {w : World (Shared G) Proc} (h : Step env w.shared p (w.proc p) a s' P')
    (ho : (outline G).Holds w) (hlive : w.shared.db.LiveUnique)
    (hfol : (w.proc p).Followed w.shared.db) :
    (∀ k, (w.shared.db.seat k).Stamped (s'.db.seat k)) ↔ CurrentFlush w p a := by
  have hown := ho.own p
  unfold CurrentFlush
  generalize w.proc p = P at h hown hfol
  split
  · next r σ pay x =>
    cases h with
    | booking h => exact h.stamped_iff_of_issues ho.shared (hown σ.bookingId rfl).2.1 hlive hfol
  · next r σ f rows x =>
    cases h with
    | booking h => exact h.stamped_iff_of_fails ho.shared (hown σ.bookingId rfl).2.2.2 hfol
  · next hissue hfail =>
    refine iff_of_true (fun k => ?_) trivial
    cases a with
    | go x =>
      refine (h.seatWrite hown k).stamped ?_ ?_
      · rintro r σ f rows rfl
        exact hfail _ _ _ _ _ rfl rfl
      · rintro r σ pay rfl
        exact hissue _ _ _ _ rfl rfl
    | tick | arrive =>
      cases h
      exact .refl _

/-! ### What a step preserves -/

theorem Proc.booking?_of_saga? {σ : Saga} (hσ : P.saga? = some σ) :
    P.booking? = some σ.bookingId := by
  cases P with
  | booking r pc =>
    cases pc <;> first
      | exact congrArg (Option.map Saga.bookingId) hσ
      | simp [Proc.saga?, BookingPc.saga?] at hσ
  | _ => simp [Proc.saga?] at hσ

omit [PaymentGateway G] in
/-- The instances a process may still flush are pinned to its booking. -/
theorem Proc.Outline.unflushed (ho : P.Outline s) {i : SeatInstance} (hi : i ∈ P.unflushed) :
    ∃ σ, P.saga? = some σ ∧ i.row.bookingId = some σ.bookingId := by
  cases P with
  | booking r pc =>
    cases pc
    case failCommit σ f rows =>
      obtain ⟨-, -, -, hrows⟩ := ho σ.bookingId rfl
      exact ⟨σ, rfl, hrows i hi⟩
    case assess σ | createPayment σ | authorize σ _ | journalUnknown σ _ | retryAuthorize σ _
      | recordAuthorized σ _ _ | issueTickets σ _ | failSelect σ _ =>
      obtain ⟨-, hbefore, -⟩ := ho σ.bookingId rfl
      exact ⟨σ, rfl, hbefore.pinned.booking i hi⟩
    all_goals exact absurd hi (List.not_mem_nil)
  | _ => exact absurd hi (List.not_mem_nil)

omit [PaymentGateway G] in
theorem Proc.Followed.of_unflushed_eq_nil {db : Db} (h : P.unflushed = []) (hσ : P.saga? = none) :
    P.Followed db where
  nodup := by simp [h]
  follows := by simp [h]
  pins σ h := by simp [hσ] at h

/-- A row goes on following the instance of a saga, whoever moves. -/
theorem Step.follows {w : World (Shared G) Proc} {q : ℕ} {i : SeatInstance}
    (h : Step env w.shared p (w.proc p) a s' P') (ho : (outline G).Holds w)
    (hlive : w.shared.db.LiveUnique) (hfol : ∀ q, (w.proc q).Followed w.shared.db)
    (hC : CurrentFlush w p a) (hi : i ∈ (w.proc q).unflushed) (hq : q = p → i ∈ P'.unflushed) :
    Follows (s'.db.seat i.id) i.row := by
  obtain ⟨σ, hσ, hpin⟩ := Proc.Outline.unflushed (ho.own q) hi
  have hlt := Proc.Outline.booking_lt (ho.own q) (Proc.booking?_of_saga? hσ)
  have hleaves := (h.seatWrite (ho.own p) i.id).leaves hlt ?_
  · rw [← hpin] at hleaves
    exact ((hfol q).follows i hi).stamped ((h.stamped_iff ho hlive (hfol p)).mpr hC i.id)
      hleaves.1 hleaves.2
  -- only a saga that has the row under its own pin books it, and that is not this one
  · rintro r τ pay τ' pay' hp rfl hmem ⟨-, hheld⟩
    have hown := ho.own p
    rw [hp] at h hown
    simp only [CurrentFlush, hp] at hC
    cases h with
    | @booking _ x _ _ _ h =>
      obtain ⟨htrig, hissuable⟩ :=
        h.issuable_of_capture ho.shared (hown τ.bookingId rfl).2.1 hlive
      obtain ⟨j, hj, hid⟩ := List.mem_map.mp hmem
      have hcur := (hC htrig hissuable j hj).2
      rw [hid, hheld] at hcur
      have hsame := Option.some.inj hcur
      by_cases hqp : q = p
      · exact absurd (hq hqp) (List.not_mem_nil)
      · refine (ho.pair p q (Ne.symm hqp)).booking τ.bookingId ?_ ?_
        · rw [hp]
          rfl
        · rw [← hsame]
          exact Proc.booking?_of_saga? hσ

theorem afterAuthorize_unflushed (σ : Saga) (pay : Payment) (result : AuthorizationResult) :
    (afterAuthorize σ pay result).unflushed = σ.seats := by
  unfold afterAuthorize
  split <;> rfl

theorem afterAuthorize_saga? (σ : Saga) (pay : Payment) (result : AuthorizationResult) :
    (afterAuthorize σ pay result).saga? = some σ := by
  unfold afterAuthorize
  split <;> rfl

theorem raised_unflushed (e : Failure) (b : Option BookingId) : (raised e b).unflushed = [] := by
  cases e <;> rfl

theorem raised_saga? (e : Failure) (b : Option BookingId) : (raised e b).saga? = none := by
  cases e <;> rfl

theorem Saga.afterIssue_ids (σ : Saga) (assigned : List (BookingPassenger × SeatInstance)) :
    (σ.afterIssue assigned).seats.map Orm.Instance.id = σ.seats.map Orm.Instance.id := by
  simp only [Saga.afterIssue, List.map_map]
  refine List.map_congr_left fun i _ => ?_
  simp only [Function.comp_apply]
  split <;> rfl

/-- A step loads instances in step 1 and in the SELECT of `_fail_payment` only. -/
theorem BookingStep.unflushed_cases {r : BookingRequest} {x : Draws} {pc pc' : BookingPc}
    (h : BookingStep env s p r x pc s' pc') :
    pc'.unflushed = [] ∨ pc'.unflushed = pc.unflushed ∨ pc = .openBooking ∨
      ∃ σ f, pc = .failSelect σ f := by
  cases h
  case authorizes | retries => exact .inr (.inl (afterAuthorize_unflushed _ _ _))
  case opens | opensNothing => exact .inr (.inr (.inl rfl))
  case selectsFailed | selectIllegal => exact .inr (.inr (.inr ⟨_, _, rfl⟩))
  all_goals first
    | exact .inl rfl
    | exact .inr (.inl rfl)
    | exact .inl (raised_unflushed _ _)

/-- A saga keeps its booking and its seats. -/
theorem BookingStep.saga_cases {r : BookingRequest} {x : Draws} {pc pc' : BookingPc}
    (h : BookingStep env s p r x pc s' pc') {σ' : Saga} (hσ : pc'.saga? = some σ') :
    pc = .openBooking ∨ ∃ σ, pc.saga? = some σ ∧ σ'.bookingId = σ.bookingId ∧
      σ'.seats.map Orm.Instance.id = σ.seats.map Orm.Instance.id := by
  cases h
  case opens | opensNothing => exact .inl rfl
  case authorizes | retries =>
    rw [afterAuthorize_saga?] at hσ
    obtain rfl := Option.some.inj hσ
    exact .inr ⟨_, rfl, rfl, rfl⟩
  case issues =>
    obtain rfl := Option.some.inj hσ
    exact .inr ⟨_, rfl, rfl, Saga.afterIssue_ids _ _⟩
  all_goals first
    | exact .inr ⟨_, rfl, Option.some.inj hσ ▸ rfl, Option.some.inj hσ ▸ rfl⟩
    | exact absurd ((raised_saga? _ _).symm.trans hσ) (by simp)
    | simp [BookingPc.saga?] at hσ

/-- Step 1 leaves rows that follow its instances. -/
theorem BookingStep.followed_of_opens {r : BookingRequest} {x : Draws} {pc' : BookingPc}
    (h : BookingStep env s p r x .openBooking s' pc') (ht : Tables s) :
    (Proc.booking r pc').Followed s'.db := by
  cases h with
  | @opens seats flightId flight ref hseats hf hlen hlive hids hflight hpnr htotal href =>
    have hspec : ∀ i ∈ seats, i.row = s.db.seat i.id := by
      intro i hi
      rw [← hseats] at hi
      exact (mem_lockSeatsForHolds hi).2.1
    have hseat := openedDb_seat hspec (openedSaga r.payload seats s.uuid ref flightId flight)
      s.clock r.userId r.key
    have hids := openedSaga_ids r.payload seats s.uuid ref flightId flight
    have hmem : ∀ {k}, k ∈ (openedSaga r.payload seats s.uuid ref flightId flight).seats.map
        Orm.Instance.id ↔ k ∈ seats.map Orm.Instance.id := by
      intro k
      rw [hids]
      exact ((List.perm_insertionSort _ seats).map Orm.Instance.id).mem_iff
    refine ⟨?_, fun i hi => ?_, fun σ hσ k hk => ?_⟩
    · exact (openedSaga_seated hlen (hseats ▸ nodup_locked ht r.payload.holdIds r.userId)).nodup
    · obtain ⟨j, hj, rfl⟩ := mem_openedSaga_seats.mp hi
      have hrow : (openedDb s.db (openedSaga r.payload seats s.uuid ref flightId flight) r.userId
          r.key s.clock seats).seat j.id = j.row.pinned s.uuid := by
        rw [hseat, if_pos (List.mem_map_of_mem hj), hspec j hj]
        rfl
      show Follows ((openedDb s.db _ r.userId r.key s.clock seats).seat j.id) (j.row.pinned s.uuid)
      rw [hrow]
      exact .refl (live_of_expiredSeats_eq_nil hlive hj).1
    · obtain rfl := Option.some.inj hσ
      by_contra hnot
      have hkept : (s.db.seat k).bookingId = some s.uuid := by
        have hk : ((openedDb s.db _ r.userId r.key s.clock seats).seat k).bookingId = _ := hk
        rw [hseat, if_neg fun h => hnot (hmem.mpr h)] at hk
        exact hk
      obtain ⟨row, hrow⟩ := ht.pinned k s.uuid hkept
      have hnone := congrArg View.row (ht.unborn s.uuid le_rfl)
      rw [Shared.view_row, hrow] at hnone
      simp at hnone
  | opensNothing =>
    refine ⟨?_, ?_, ?_⟩ <;> simp [Proc.unflushed, Proc.saga?, raised_unflushed, raised_saga?]

/-- The SELECT of `_fail_payment` hands back the instances of the saga. -/
theorem mem_failPaymentRows {db : Db} {σ : Saga} (hnd : (σ.seats.map Orm.Instance.id).Nodup)
    (hpins : ∀ k, (db.seat k).bookingId = some σ.bookingId → k ∈ σ.seats.map Orm.Instance.id)
    {i : SeatInstance} (hi : i ∈ failPaymentRows db σ) : i ∈ σ.seats := by
  obtain ⟨k, hk, rfl⟩ := List.mem_map.mp hi
  obtain ⟨j, hj, rfl⟩ := List.mem_map.mp (hpins k (by simpa using (List.mem_filter.mp hk).2))
  rw [Orm.materialize_loaded hnd hj]
  exact hj

theorem failPaymentRows_nodup {db : Db} (hsorted : db.seatIds.Pairwise (· < ·)) (σ : Saga) :
    ((failPaymentRows db σ).map Orm.Instance.id).Nodup := by
  rw [failPaymentRows_ids]
  exact (hsorted.imp Nat.ne_of_lt).filter _

/-- The rows follow the instances of the process that moved. -/
theorem Step.followed_mover {w : World (Shared G) Proc}
    (h : Step env w.shared p (w.proc p) a s' P') (ho : (outline G).Holds w)
    (hlive : w.shared.db.LiveUnique) (hfol : ∀ q, (w.proc q).Followed w.shared.db)
    (hC : CurrentFlush w p a) : P'.Followed s'.db := by
  -- instances that stay are followed through the step; new ones are as their rows
  have hstay : ∀ i ∈ (w.proc p).unflushed, i ∈ P'.unflushed → Follows (s'.db.seat i.id) i.row :=
    fun i hi hi' => h.follows ho hlive hfol hC hi fun _ => hi'
  have hown : (w.proc p).Outline w.shared := ho.own p
  have hfolp := hfol p
  have hwrite := h.seatWrite hown
  generalize w.proc p = P at h hstay hown hfolp hwrite
  cases h with
  | @booking r x _ pc pc' h =>
    by_cases hopen : pc = .openBooking
    · subst hopen
      exact h.followed_of_opens ho.shared
    have hpins : ∀ σ, pc'.saga? = some σ → ∀ k, (s'.db.seat k).bookingId = some σ.bookingId →
        k ∈ σ.seats.map Orm.Instance.id := by
      intro σ' hσ' k hk
      obtain ⟨σ, hσ, hb, hids⟩ := (h.saga_cases hσ').resolve_left hopen
      have hlt := Proc.Outline.booking_lt hown (Proc.booking?_of_saga? (P := .booking r pc) hσ)
      rw [hids]
      rw [hb] at hk
      exact hfolp.pins σ hσ k ((hwrite k).pinned_before hlt hk)
    rcases h.unflushed_cases with hnil | hsame | hopens | ⟨σ, f, rfl⟩
    · refine ⟨?_, ?_, hpins⟩ <;> simp [Proc.unflushed, hnil]
    · have hsame : (Proc.booking r pc').unflushed = (Proc.booking r pc).unflushed := hsame
      refine ⟨?_, fun i hi => hstay i (hsame ▸ hi) hi, hpins⟩
      rw [hsame]
      exact hfolp.nodup
    · exact absurd hopens hopen
    · cases h with
      | selectIllegal =>
        refine ⟨?_, ?_, hpins⟩ <;> simp [Proc.unflushed, raised_unflushed]
      | selectRefused =>
        refine ⟨?_, ?_, hpins⟩ <;> simp [Proc.unflushed, BookingPc.unflushed]
      | selectsFailed =>
        refine ⟨failPaymentRows_nodup ho.shared.seatIds σ, fun i hi => ?_, hpins⟩
        exact hstay i (mem_failPaymentRows hfolp.nodup (hfolp.pins σ rfl) hi) hi
  | arrive =>
    rename_i req
    exact .of_unflushed_eq_nil (by cases req <;> rfl) (by cases req <;> rfl)
  | _ => exact .of_unflushed_eq_nil rfl rfl

/-- The rows go on following the instances of every process. -/
theorem followed_next {w w' : World (Shared G) Proc} (ho : (outline G).Holds w)
    (hlive : w.shared.db.LiveUnique) (hfol : ∀ q, (w.proc q).Followed w.shared.db)
    (hC : CurrentFlush w p a) (hn : (service env G).next w p a = some w') (q : ℕ) :
    (w'.proc q).Followed w'.shared.db := by
  obtain ⟨s', P', hs, rfl⟩ := System.next_eq_some.mp hn
  have hstep := step_of hs
  by_cases hq : q = p
  · subst hq
    simpa using hstep.followed_mover ho hlive hfol hC
  · simp only [Function.update_of_ne hq]
    refine ⟨(hfol q).nodup, fun i hi => ?_, fun σ hσ k hk => ?_⟩
    · exact hstep.follows ho hlive hfol hC hi fun hqp => absurd hqp hq
    · have hlt := Proc.Outline.booking_lt (ho.own q) (Proc.booking?_of_saga? hσ)
      exact (hfol q).pins σ hσ k ((hstep.seatWrite (ho.own p) k).pinned_before hlt hk)

/-! ### Runs -/

/-- What every world of a run has, as long as its flushes are current. -/
structure Stamping (w : World (Shared G) Proc) : Prop where
  outline : (outline G).Holds w
  live : w.shared.db.LiveUnique
  followed : ∀ q, (w.proc q).Followed w.shared.db

omit [PaymentGateway G] in
theorem stamping_initial {db : Db} (hdb : db.Initial) (g : G) (clock : Time) :
    Stamping (initialWorld db g clock) where
  outline := outline_initial hdb g clock
  live := by constructor <;> simp [initialWorld, Db.liveTickets, hdb.tickets]
  followed _ := .of_unflushed_eq_nil rfl rfl

theorem Stamping.next {w w' : World (Shared G) Proc} (h : Stamping w) (hC : CurrentFlush w p a)
    (hn : (service env G).next w p a = some w') : Stamping w' where
  outline := outline_next h.outline hn
  live := by
    obtain ⟨s', P', hs, rfl⟩ := System.next_eq_some.mp hn
    exact (step_of hs).liveUnique h.live
  followed := followed_next h.outline h.live h.followed hC hn

/-- The step leaves every seat row as it was, or with a greater version. -/
theorem Stamping.stamped_iff {w w' : World (Shared G) Proc} (h : Stamping w)
    (hn : (service env G).next w p a = some w') :
    (∀ k, (w.shared.db.seat k).Stamped (w'.shared.db.seat k)) ↔ CurrentFlush w p a := by
  obtain ⟨s', P', hs, rfl⟩ := System.next_eq_some.mp hn
  exact (step_of hs).stamped_iff h.outline h.live (h.followed p)

/-- Of any two contents that a row has in the run, the later one is the same or has the
greater version. -/
def VersionsStamp (env : Env) (w₀ : World (Shared G) Proc) (as : List (ℕ × Input)) : Prop :=
  ∀ before between after w₁ w₂, as = before ++ between ++ after →
    (service env G).Run (fun _ _ _ => True) w₀ before w₁ →
      (service env G).Run (fun _ _ _ => True) w₁ between w₂ →
        ∀ k, (w₁.shared.db.seat k).Stamped (w₂.shared.db.seat k)

theorem VersionsStamp.of_append {w₀ : World (Shared G) Proc} {as bs : List (ℕ × Input)}
    (h : VersionsStamp env w₀ (as ++ bs)) : VersionsStamp env w₀ as := by
  rintro before between after w₁ w₂ rfl h₁ h₂
  exact h before between (after ++ bs) w₁ w₂ (by simp) h₁ h₂

/-- Current flushes stamp every change. -/
theorem versionsStamp_of_currentFlush {w₀ w : World (Shared G) Proc} {as : List (ℕ × Input)}
    (h₀ : Stamping w₀) (h : (service env G).Run CurrentFlush w₀ as w) :
    VersionsStamp env w₀ as := by
  rintro before between after w₁ w₂ rfl h₁ h₂
  obtain ⟨w₂', h', -⟩ := h.of_append
  obtain ⟨w₁', hbefore, hbetween⟩ := h'.of_append
  obtain rfl := hbefore.unique h₁
  obtain rfl := hbetween.unique h₂
  have hstart := hbefore.induct h₀ fun w p a w' hI hC hn => hI.next hC hn
  refine (hbetween.induct (I := fun w => Stamping w ∧ ∀ k,
    (w₁'.shared.db.seat k).Stamped (w.shared.db.seat k)) ⟨hstart, fun k => .refl _⟩ ?_).2
  rintro w p a w' ⟨hI, hst⟩ hC hn
  exact ⟨hI.next hC hn, fun k => (hst k).trans ((hI.stamped_iff hn).mpr hC k)⟩

/-- **The version is a change stamp in the runs whose flushes are current**, and in no
others. -/
theorem versions_stamp_iff {db : Db} {g : G} {clock : Time} {w : World (Shared G) Proc}
    {as : List (ℕ × Input)} (hdb : db.Initial)
    (h : (service env G).Run (fun _ _ _ => True) (initialWorld db g clock) as w) :
    VersionsStamp env (initialWorld db g clock) as ↔
      (service env G).Run CurrentFlush (initialWorld db g clock) as w := by
  have h₀ := stamping_initial hdb g clock
  refine ⟨fun hst => ?_, versionsStamp_of_currentFlush h₀⟩
  induction h with
  | nil => exact .nil
  | @snoc as w₁ w₂ p a hrun _ hn ih =>
    -- the flushes so far were current, so the invariant decides about the next one
    have hcur := ih hst.of_append
    have hI := hcur.induct h₀ fun w p a w' hI hC hn => hI.next hC hn
    refine .snoc hcur ((hI.stamped_iff hn).mp fun k => ?_) hn
    exact hst as [(p, a)] [] w₁ w₂ (by simp) hrun (.snoc .nil trivial hn) k

/-- A user holds a seat, books it, and is issued the ticket: three versions. -/
theorem versions_stamp_undisturbed : ∃ w,
    (service demoEnv FakePaymentGateway).Run (fun _ _ _ => True) (onSale 1)
        (chargedSaga ++ moves 2 1 (.calm 2)) w ∧
      VersionsStamp demoEnv (onSale 1) (chargedSaga ++ moves 2 1 (.calm 2)) ∧
      (w.shared.db.seat 0).status = .booked ∧ (w.shared.db.seat 0).version = 3 := by
  have hchecked : ((service demoEnv FakePaymentGateway).checked CurrentFlush (onSale 1)
      (chargedSaga ++ moves 2 1 (.calm 2))).any (fun w => decide
        ((w.shared.db.seat 0).status = .booked ∧ (w.shared.db.seat 0).version = 3)) = true := by
    decide +kernel
  obtain ⟨w, hcur, htest⟩ := System.exists_run_of_checked hchecked
  have hrun := hcur.mono (D := fun _ _ _ => True) fun _ _ _ _ => trivial
  exact ⟨w, hrun, (versions_stamp_iff (Db.seeded_initial _ _ _ _) hrun).mpr hcur,
    of_decide_eq_true htest⟩

/-- The user releases the hold while the card is charged. -/
def releasedSaga : List (ℕ × Input) := chargedSaga ++ asks 3 (.deleteHold ⟨10, 0⟩) 2 (.calm 0)

/-- **A released seat is sold under the version it had**: the release leaves the row
available in version 3, and the ticketing of the saga leaves it booked in version 3. -/
theorem stale_flush_keeps_version : ∃ w₁ w₂,
    (service demoEnv FakePaymentGateway).Run (fun _ _ _ => True) (onSale 1) releasedSaga w₁ ∧
      (service demoEnv FakePaymentGateway).next w₁ 2 (.go (.calm 2)) = some w₂ ∧
      (w₁.shared.db.seat 0).status = .available ∧ (w₁.shared.db.seat 0).version = 3 ∧
      (w₂.shared.db.seat 0).status = .booked ∧ (w₂.shared.db.seat 0).version = 3 ∧
      ¬ VersionsStamp demoEnv (onSale 1) (releasedSaga ++ [(2, .go (.calm 2))]) := by
  have hchecked : ((service demoEnv FakePaymentGateway).checked (fun _ _ _ => True) (onSale 1)
      releasedSaga).any (fun w₁ =>
        ((service demoEnv FakePaymentGateway).next w₁ 2 (.go (.calm 2))).any fun w₂ => decide
          ((w₁.shared.db.seat 0).status = .available ∧ (w₁.shared.db.seat 0).version = 3 ∧
            (w₂.shared.db.seat 0).status = .booked ∧ (w₂.shared.db.seat 0).version = 3)) =
              true := by
    decide +kernel
  obtain ⟨w₁, hrun, htest⟩ := System.exists_run_of_checked hchecked
  obtain ⟨w₂, hn, htest⟩ := (Option.any_eq_true _ _).mp htest
  obtain ⟨havailable, hver₁, hbooked, hver₂⟩ := of_decide_eq_true htest
  refine ⟨w₁, w₂, hrun, hn, havailable, hver₁, hbooked, hver₂, fun hst => ?_⟩
  rcases hst releasedSaga [(2, .go (.calm 2))] [] w₁ w₂ (by simp) hrun
    (.snoc .nil trivial hn) 0 with heq | hlt
  · rw [heq, havailable] at hbooked
    simp at hbooked
  · rw [hver₁, hver₂] at hlt
    exact absurd hlt (lt_irrefl _)

end SkyLock
