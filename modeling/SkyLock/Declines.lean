import SkyLock.Interference
import SkyLock.Scripts

/-!
# Failures before the charge

What a run of the saga does to the seats until its charge is authorized.  It never
touches who holds a seat, and until when.  What it does to `booking_id` is another
matter: step 1 pins the rows of the user's holds whether they are pinned or not, and
`_fail_payment` unpins the rows its unlocked SELECT found, whoever has them by then.

## Main definitions

* `BookingPc.unapproved` — the places of `run` before an approved authorization.
* `OwnPin` — a change of `booking_id` that takes or returns a free seat.
* `Undisputed` — the condition under which there is no other.
* `Declined` — declines in a row, each of them alone.

## Main results

* `decline_disturbs_nobody` — **what a failure before the charge leaves of the seats**.
* `decline_steals_pin` — a booking that takes over the seats of another.
-/

namespace SkyLock

open Concurrent

variable {G : Type} [PaymentGateway G] {env : Env} {s s' : Shared G} {p : ℕ} {P P' : Proc}
  {a : Input}

/-! ### The places -/

/-- A place of `create_booking` that an approved authorization does not lead to. -/
def BookingPc.unapproved : BookingPc → Bool
  | .recordAuthorized _ _ _ | .issueTickets _ _ | .reverse _ _ _ | .finishVoided _ _ _
  | .finishReview _ _ _ _ | .capture _ _ | .confirm _ _ | .refresh _ => false
  | _ => true

/-- The same of a process. -/
def Proc.unapproved : Proc → Bool
  | .booking _ pc => pc.unapproved
  | _ => false

/-! ### One row -/

/-- Holder, hold, expiry and status are as they were. -/
structure SameHold (r r' : SeatInventory) : Prop where
  status : r'.status = r.status
  holder : r'.heldByUserId = r.heldByUserId
  hold : r'.holdId = r.holdId
  expiry : r'.holdExpiresAt = r.holdExpiresAt

/-- The row is as it was, or the booking has taken it from nobody or given it back. -/
def OwnPin (b : BookingId) (r r' : SeatInventory) : Prop :=
  r'.bookingId = r.bookingId ∨ r.bookingId = none ∧ r'.bookingId = some b ∨
    r.bookingId = some b ∧ r'.bookingId = none

theorem SameHold.refl (r : SeatInventory) : SameHold r r := ⟨rfl, rfl, rfl, rfl⟩

theorem SameHold.trans {r r' r'' : SeatInventory} (h : SameHold r r') (h' : SameHold r' r'') :
    SameHold r r'' :=
  ⟨h'.status.trans h.status, h'.holder.trans h.holder, h'.hold.trans h.hold,
    h'.expiry.trans h.expiry⟩

theorem OwnPin.refl (b : BookingId) (r : SeatInventory) : OwnPin b r r := .inl rfl

/-! ### One step -/

/-- **Before the charge nobody's hold changes.** -/
theorem Step.sameHold (h : Step env s p P a s' P') (ho : P.Outline s) (hP : P.unapproved = true)
    (k : SeatId) : SameHold (s.db.seat k) (s'.db.seat k) := by
  have hw := h.seatWrite ho k
  generalize s'.db.seat k = row at hw
  cases hw with
  | kept => exact .refl _
  | pins => exact ⟨rfl, rfl, rfl, rfl⟩
  | unpins => exact ⟨rfl, rfl, rfl, rfl⟩
  | returns hret =>
    cases P with
    | booking r pc => cases pc <;> simp_all [Proc.unapproved, BookingPc.unapproved, Proc.returning?]
    | idle | hold | release | cancel | sweep => simp [Proc.unapproved] at hP
  | tickets | acquires | releases | sweeps => simp [Proc.unapproved, BookingPc.unapproved] at hP

/-- Before the charge no ticket is issued. -/
theorem Step.tickets_eq (h : Step env s p P a s' P') (hP : P.unapproved = true) :
    s'.db.tickets = s.db.tickets := by
  cases h
  case booking r x pc pc' h =>
    cases h
    case recordsAuthorized | issues | refuses | voids | flags | confirms =>
      simp [Proc.unapproved, BookingPc.unapproved] at hP
    case fails σ f rows _ _ => rfl
    all_goals rfl
  all_goals simp [Proc.unapproved] at hP

/-- The checks of step 1 pass, so that it pins the rows of the holds it is given. -/
def stepOnePins (db : Db) (now : Time) (userId : UserId) (payload : BookingCreate)
    (pnr : ℕ → String) (refTaken : Bool) : Bool :=
  let seats := lockSeatsForHolds db payload.holdIds userId
  seats.length == payload.holdIds.length && (expiredSeats seats now).isEmpty &&
    (match (seats.map fun i => i.row.flightId).dedup with
      | [flightId] => (db.flight flightId).isSome
      | _ => false) && (uniquePnr db pnr).isSome &&
    decide (Numeric (seats.map fun i => i.row.price).sum) && !refTaken

/-- Where step 1 pins its rows, they are pinned to no booking; where the rows of a
`_fail_payment` can be unpinned, they are pinned to no booking but its own. -/
def Undisputed (w : World (Shared G) Proc) (p : ℕ) (a : Input) : Prop :=
  match w.proc p, a with
  | .booking r .openBooking, .go x =>
    stepOnePins w.shared.db w.shared.clock r.userId r.payload x.pnr x.refTaken = true →
      ∀ i ∈ lockSeatsForHolds w.shared.db r.payload.holdIds r.userId, i.row.bookingId = none
  | .booking _ (.failCommit σ _ rows), _ =>
    (∀ i ∈ rows, (w.shared.db.seat i.id).status ≠ .booked) →
      ∀ i ∈ rows, (w.shared.db.seat i.id).bookingId = none ∨
        (w.shared.db.seat i.id).bookingId = some σ.bookingId
  | _, _ => True

instance (w : World (Shared G) Proc) (p : ℕ) (a : Input) : Decidable (Undisputed w p a) := by
  unfold Undisputed
  generalize w.proc p = q
  induction q using Proc.casesOn with
  | booking r pc =>
    induction pc using BookingPc.casesOn <;> induction a using Input.casesOn <;> infer_instance
  | _ => infer_instance

/-- The booking a step before the charge works on. -/
def ownBooking (s : Shared G) : Proc → BookingId
  | .booking _ pc => (pc.saga?.map Saga.bookingId).getD s.uuid
  | _ => s.uuid

/-- Without a dispute a step takes seats from nobody, and gives back its own. -/
theorem Step.ownPin {w : World (Shared G) Proc} (h : Step env w.shared p (w.proc p) a s' P')
    (ho : (w.proc p).Outline w.shared) (hP : (w.proc p).unapproved = true)
    (hC : Undisputed w p a) (k : SeatId) :
    OwnPin (ownBooking w.shared (w.proc p)) (w.shared.db.seat k) (s'.db.seat k) := by
  generalize hp : w.proc p = P at h ho hP
  simp only [Undisputed, hp] at hC
  cases h
  case booking r x pc pc' h =>
    cases h
    case opens seats flightId flight ref hseats hf hlen hlive hids hflight hpnr htotal href =>
      subst hseats
      show OwnPin _ _ ((openedDb w.shared.db _ r.userId r.key w.shared.clock _).seat k)
      rw [openedDb_seat fun i hi => (mem_lockSeatsForHolds hi).2.1]
      split
      · next hk =>
        obtain ⟨i, hi, rfl⟩ := List.mem_map.mp hk
        -- the checks of step 1 have passed, so the row was pinned to nobody
        have hpins : stepOnePins w.shared.db w.shared.clock r.userId r.payload x.pnr x.refTaken =
            true := by
          simp [stepOnePins, hlen, hlive, hids, hflight, hpnr, htotal, href]
        have hnone := hC hpins i hi
        rw [(mem_lockSeatsForHolds hi).2.1] at hnone
        exact .inr (.inl ⟨hnone, rfl⟩)
      · exact .refl _ _
    case fails σ f rows hf h =>
      have hrows : ∀ i ∈ rows, i.row.bookingId.isSome := fun i hi => by
        rw [(ho σ.bookingId rfl).2.2.2 i hi]
        rfl
      show OwnPin _ _ ((failedDb w.shared.db σ f rows).seat k)
      by_cases hk : k ∈ rows.map Orm.Instance.id
      · obtain ⟨v, hv⟩ := failedDb_seat_of_mem w.shared.db σ f hrows hk
        -- none of the rows is booked, or the flush would have been refused
        have hfree : ∀ i ∈ rows, (w.shared.db.seat i.id).status ≠ .booked := by
          intro i hi hbooked
          obtain ⟨v', hv'⟩ := failedDb_seat_of_mem w.shared.db σ f hrows
            (List.mem_map_of_mem hi)
          have hchecks := seatsChecked_iff.mp h i.id (List.mem_map_of_mem hi)
          rw [hv'] at hchecks
          exact absurd (SeatInventory.bookingId_isSome_of_checks hchecks hbooked) (by simp)
        obtain ⟨i, hi, rfl⟩ := List.mem_map.mp hk
        rw [hv]
        rcases hC hfree i hi with hnone | hown
        · exact .inl hnone.symm
        · exact .inr (.inr ⟨hown, rfl⟩)
      · rw [failedDb_seat_of_notMem hk]
        exact .refl _ _
    case recordsAuthorized | issues | refuses | voids | flags | confirms =>
      simp [Proc.unapproved, BookingPc.unapproved] at hP
    all_goals exact .refl _ _
  all_goals simp [Proc.unapproved] at hP

/-! ### What a decline leaves pinned -/

/-- A `_fail_payment` that is about to flush has found every row of its booking, and
an outcome that is an error leaves no row of its booking. -/
def Unpinned (s : Shared G) : Proc → Prop
  | .booking _ (.failCommit σ _ rows) => s.db.seatsOf σ.bookingId ⊆ rows.map Orm.Instance.id
  | .booking _ (.completeSelect (.appError _) (some b))
  | .booking _ (.completeCommit (.appError _) (some b))
  | .booking _ (.done (.problem _) (some b)) => s.db.seatsOf b = []
  | _ => True

theorem failPaymentRows_ids (db : Db) (σ : Saga) :
    (failPaymentRows db σ).map Orm.Instance.id = db.seatsOf σ.bookingId := by
  simp only [failPaymentRows, List.map_map, Db.seatsOf]
  refine (List.map_congr_left fun k _ => ?_).trans (List.map_id _)
  exact Orm.materialize_id _ _ _

theorem seatsOf_failedDb {db : Db} {σ : Saga} {f : PaymentFailure} {rows : List SeatInstance}
    (hrows : ∀ i ∈ rows, i.row.bookingId.isSome)
    (hfound : db.seatsOf σ.bookingId ⊆ rows.map Orm.Instance.id) :
    (failedDb db σ f rows).seatsOf σ.bookingId = [] := by
  refine List.filter_eq_nil_iff.mpr fun k hk hb => ?_
  have hb : ((failedDb db σ f rows).seat k).bookingId = some σ.bookingId := by simpa using hb
  by_cases hmem : k ∈ rows.map Orm.Instance.id
  · obtain ⟨v, hv⟩ := failedDb_seat_of_mem db σ f hrows hmem
    simp [hv] at hb
  · rw [failedDb_seat_of_notMem hmem] at hb
    exact hmem (hfound (List.mem_filter.mpr ⟨hk, by simpa using hb⟩))

/-- Nothing is left of the rows a compensation returns. -/
theorem seatsOf_returned {db db' : Db} {b : BookingId}
    (h : ∀ k, db'.seat k = if (db.seat k).bookingId = some b then (db.seat k).returned
      else db.seat k) : db'.seatsOf b = [] := by
  refine List.filter_eq_nil_iff.mpr fun k _ hb => ?_
  have hb : (db'.seat k).bookingId = some b := by simpa using hb
  rw [h k] at hb
  split at hb
  · simp [SeatInventory.returned] at hb
  · next hne => exact hne hb

theorem BookingStep.unpinned {r : BookingRequest} {x : Draws} {pc pc' : BookingPc}
    (h : BookingStep env s p r x pc s' pc')
    (ho : ∀ b, pc.booking? = some b → pc.Outline r b (s.view b))
    (hfound : Unpinned s (.booking r pc)) : Unpinned s' (.booking r pc') := by
  cases h
  case selectsFailed σ f h _ =>
    show s.db.seatsOf σ.bookingId ⊆ _
    rw [failPaymentRows_ids]
    exact List.Subset.refl _
  case fails σ f rows hf h =>
    refine seatsOf_failedDb (fun i hi => ?_) hfound
    rw [(ho σ.bookingId rfl).2.2 i hi]
    rfl
  case voids σ pay reason hf h => exact seatsOf_returned fun k => voidedDb_seat k
  case flags σ pay reason error hf => exact seatsOf_returned fun k => finishReview_seat error k
  case authorizes σ pay result h | retries σ pay result h =>
    cases happroved : result.approved <;> simp [afterAuthorize, happroved, Unpinned]
  case opensNothing e _ => cases e <;> trivial
  case selectIllegal e h | recordIllegal e h | voidIllegal e h | confirmIllegal e h =>
    rw [raised_of_assertCanTransition h]
    trivial
  case refuseIllegal h _ =>
    rw [raised_of_assertCanTransition (by assumption)]
    trivial
  case issueRolledBack h =>
    rw [raised_of_issueFails h]
    trivial
  case finds o b c hc =>
    cases o with
    | appError e => cases b <;> exact hfound
    | returned status body => trivial
  case findsNothing o b hc =>
    cases o with
    | appError e => cases b <;> exact hfound
    | returned status body => trivial
  case completes o b c hf hc =>
    cases o with
    | appError e => cases b <;> exact hfound
    | returned status body => trivial
  all_goals trivial

/-- Nobody pins a seat to a booking that has let its seats go. -/
theorem Unpinned.bystander {a : Input} {Q : Proc} (h : Unpinned s Q) (hQ : Q.Outline s)
    (hstep : Step env s p P a s' P') (ho : P.Outline s) : Unpinned s' Q := by
  have hsub : ∀ b, b < s.uuid → s.db.seatsOf b = [] → s'.db.seatsOf b = [] := fun b hlt hnil =>
    List.subset_nil.mp (hnil ▸ hstep.seatsOf_subset ho hlt)
  unfold Unpinned at h ⊢
  split
  · next r σ f rows =>
    exact List.Subset.trans (hstep.seatsOf_subset ho (hQ σ.bookingId rfl).1) h
  · next r e b => exact hsub b (hQ b rfl).1 h
  · next r e b => exact hsub b (hQ b rfl).1 h
  · next r e b => exact hsub b (hQ b rfl).1 h
  · trivial

theorem Unpinned.next {w w' : World (Shared G) Proc} {a : Input} (ho : (outline G).Holds w)
    (h : ∀ q, Unpinned w.shared (w.proc q)) (hn : (service env G).next w p a = some w') (q : ℕ) :
    Unpinned w'.shared (w'.proc q) := by
  obtain ⟨s', P', hs, rfl⟩ := System.next_eq_some.mp hn
  have hstep := step_of hs
  rcases eq_or_ne q p with rfl | hne
  · simp only [Function.update_self]
    have hq := h q
    have hown := ho.own q
    generalize w.proc q = P at hstep hq hown
    cases hstep
    case booking r x pc pc' h => exact h.unpinned (fun b hb => (hown b hb).2) hq
    case arrive r => cases r <;> trivial
    all_goals trivial
  · simp only [Function.update_of_ne hne]
    exact (h q).bystander (ho.own q) hstep (ho.own p)

/-- An outcome that is an error leaves no row of its booking, in any run. -/
theorem unpinned_holds {C : World (Shared G) Proc → ℕ → Input → Prop} {db : Db} {g : G}
    {clock : Time} {w : World (Shared G) Proc} {as : List (ℕ × Input)} (hdb : db.Initial)
    (h : (service env G).Run C (initialWorld db g clock) as w) (q : ℕ) :
    Unpinned w.shared (w.proc q) := by
  have hrun := h.induct
    (I := fun w => (outline G).Holds w ∧ ∀ q, Unpinned w.shared (w.proc q))
    ⟨outline_initial hdb g clock, fun _ => trivial⟩
    fun _ _ _ _ hw _ hn => ⟨outline_next hw.1 hn, Unpinned.next hw.1 hw.2 hn⟩
  exact hrun.2 q

/-! ### Declines in a row -/

/-- The row is as it was, but for its version. -/
def UpToVersion (r r' : SeatInventory) : Prop := ∃ v, r' = { r with version := v }

theorem UpToVersion.refl (r : SeatInventory) : UpToVersion r r := ⟨r.version, rfl⟩

theorem UpToVersion.trans {r r' r'' : SeatInventory} (h : UpToVersion r r')
    (h' : UpToVersion r' r'') : UpToVersion r r'' := by
  obtain ⟨v, rfl⟩ := h
  obtain ⟨v', rfl⟩ := h'
  exact ⟨v', rfl⟩

/-- One request of the user for the holds, up to an approved authorization; time may
pass before it arrives. -/
def Declining (userId : UserId) (holdIds : List HoldId) : Proc → Input → Prop
  | .idle, .tick _ => True
  | .idle, .arrive (.createBooking r) => r.userId = userId ∧ r.payload.holdIds = holdIds
  | .booking _ pc, .go _ => pc.unapproved = true
  | _, _ => False

/-- The rows while a booking has its seats pinned, which were free in `db₀`. -/
structure PinnedSince (db₀ : Db) (s : Shared G) (σ : Saga) : Prop where
  mem : ∀ k ∈ σ.seats.map Orm.Instance.id, k ∈ s.db.seatIds ∧ (db₀.seat k).bookingId = none ∧
    UpToVersion { db₀.seat k with bookingId := some σ.bookingId } (s.db.seat k)
  notMem : ∀ k, k ∉ σ.seats.map Orm.Instance.id →
    UpToVersion (db₀.seat k) (s.db.seat k) ∧ (db₀.seat k).bookingId ≠ some σ.bookingId

/-- The rows at each place of a request that runs alone since `db₀` and has not been
authorized. -/
def DeclineAt (db₀ : Db) (userId : UserId) (holdIds : List HoldId) (s : Shared G) : Proc → Prop
  | .idle => s.db.seat = db₀.seat
  | .booking r pc => (r.userId = userId ∧ r.payload.holdIds = holdIds) ∧
    match pc with
    | .beginDelete _ | .beginInsert _ _ | .beginCommit _ _ _ | .beginSelect | .openBooking =>
      s.db.seat = db₀.seat
    | .assess σ | .failSelect σ _ | .createPayment σ | .authorize σ _ | .journalUnknown σ _
    | .retryAuthorize σ _ => PinnedSince db₀ s σ
    | .failCommit σ _ rows => PinnedSince db₀ s σ ∧
      rows.map Orm.Instance.id = s.db.seatsOf σ.bookingId
    | .completeSelect (.appError _) _ | .completeCommit (.appError _) _ | .done (.problem _) _ =>
      ∀ k, UpToVersion (db₀.seat k) (s.db.seat k)
    | _ => True
  | _ => False

omit [PaymentGateway G] in
theorem PinnedSince.mem_seatsOf {db₀ : Db} {σ : Saga} (h : PinnedSince db₀ s σ) {k : SeatId} :
    k ∈ s.db.seatsOf σ.bookingId ↔ k ∈ σ.seats.map Orm.Instance.id := by
  simp only [Db.seatsOf, List.mem_filter, decide_eq_true_eq]
  constructor
  · rintro ⟨-, hb⟩
    by_contra hk
    obtain ⟨⟨v, hv⟩, hne⟩ := h.notMem k hk
    rw [hv] at hb
    exact hne hb
  · intro hk
    obtain ⟨hid, -, v, hv⟩ := h.mem k hk
    exact ⟨hid, by rw [hv]⟩

/-- What one statement of a request that runs alone keeps. -/
theorem BookingStep.declineAt {db₀ : Db} {r : BookingRequest} {x : Draws} {pc pc' : BookingPc}
    {u : UserId} {hs : List HoldId} (h : BookingStep env s p r x pc s' pc') (ht : Tables s)
    (ho : ∀ b, pc.booking? = some b → pc.Outline r b (s.view b))
    (hat : DeclineAt db₀ u hs s (.booking r pc)) (hpc : pc.unapproved = true)
    (hids₀ : s.db.seatIds = db₀.seatIds)
    (hfree : ∀ i ∈ lockSeatsForHolds db₀ hs u, i.row.bookingId = none) :
    DeclineAt db₀ u hs s' (.booking r pc') := by
  obtain ⟨hr, hat⟩ := hat
  refine ⟨hr, ?_⟩
  have hsame : s.db.seat = db₀.seat → ∀ k, UpToVersion (db₀.seat k) (s.db.seat k) :=
    fun heq k => heq ▸ .refl _
  cases h
  -- step 1 pins the rows of its holds, none of which was pinned, and no other row
  case opens seats flightId flight ref hseats hf hlen hlive hids hflight hpnr htotal href =>
    subst hseats
    obtain ⟨rfl, rfl⟩ := hr
    have hseat : s.db.seat = db₀.seat := hat
    have hids : ∀ k, k ∈ (openedSaga r.payload (lockSeatsForHolds s.db r.payload.holdIds r.userId)
        s.uuid ref flightId flight).seats.map Orm.Instance.id ↔
          k ∈ (lockSeatsForHolds s.db r.payload.holdIds r.userId).map Orm.Instance.id := by
      intro k
      rw [openedSaga_ids]
      simp only [List.mem_map, mem_orderedSeats]
    have hrow : ∀ i ∈ lockSeatsForHolds s.db r.payload.holdIds r.userId, i.row = s.db.seat i.id :=
      fun i hi => (mem_lockSeatsForHolds hi).2.1
    have hopened := openedDb_seat hrow (openedSaga r.payload
      (lockSeatsForHolds s.db r.payload.holdIds r.userId) s.uuid ref flightId flight) s.clock
      r.userId r.key
    refine ⟨fun k hk => ?_, fun k hk => ?_⟩
    · rw [hids] at hk
      obtain ⟨i, hi, rfl⟩ := List.mem_map.mp hk
      have hmem₀ : i ∈ lockSeatsForHolds db₀ r.payload.holdIds r.userId := by
        rwa [lockSeatsForHolds, hids₀, hseat] at hi
      have hnone := hfree i hmem₀
      rw [(mem_lockSeatsForHolds hmem₀).2.1] at hnone
      refine ⟨(mem_lockSeatsForHolds hi).1, hnone, ?_⟩
      refine ⟨(s.db.seat i.id).version + 1, ?_⟩
      refine (hopened i.id).trans ?_
      rw [if_pos hk, hseat]
      rfl
    · rw [hids] at hk
      refine ⟨⟨(s.db.seat k).version, ?_⟩, fun hb => ?_⟩
      · refine (hopened k).trans ?_
        rw [if_neg hk, hseat]
      · rw [← hseat] at hb
        obtain ⟨row, hrow⟩ := ht.pinned k s.uuid hb
        have hunborn := congrArg View.row (ht.unborn s.uuid (Nat.le_refl _))
        simp [Shared.view, hrow] at hunborn
  case opensNothing e _ => cases e <;> first | exact hsame hat | trivial
  case selectsFailed σ f h _ =>
    have hpinned : PinnedSince db₀ s σ := hat
    exact ⟨hpinned, failPaymentRows_ids s.db σ⟩
  case selectIllegal e h =>
    rw [raised_of_assertCanTransition h]
    trivial
  -- the rows the failure unpins are those step 1 has pinned: each is as it was at first
  case fails σ f rows hf h =>
    obtain ⟨hpinned, hrows⟩ := hat
    have hloaded : ∀ i ∈ rows, i.row.bookingId.isSome := fun i hi => by
      rw [(ho σ.bookingId rfl).2.2 i hi]
      rfl
    intro k
    show UpToVersion _ ((failedDb s.db σ f rows).seat k)
    by_cases hk : k ∈ rows.map Orm.Instance.id
    · obtain ⟨v, hv⟩ := failedDb_seat_of_mem s.db σ f hloaded hk
      rw [hrows, hpinned.mem_seatsOf] at hk
      obtain ⟨-, hnone, v', hv'⟩ := hpinned.mem k hk
      refine ⟨v, ?_⟩
      rw [hv, hv', ← hnone]
    · rw [failedDb_seat_of_notMem hk]
      rw [hrows, hpinned.mem_seatsOf] at hk
      exact (hpinned.notMem k hk).1
  -- an answer that approves ends the declining part of the run
  case authorizes σ pay result h | retries σ pay result h =>
    have hpinned : PinnedSince db₀ (s.authorized σ pay) σ := ⟨hat.mem, hat.notMem⟩
    cases happroved : result.approved
    · simpa [afterAuthorize, happroved] using hpinned
    · simp [afterAuthorize, happroved]
  case rejects => exact hsame hat
  case findsNothing o b hc =>
    cases o with
    | appError e => exact hat
    | returned status body => trivial
  case completes o b c hf hc =>
    cases o with
    | appError e => exact hat
    | returned status body => trivial
  case finds o b c hc =>
    cases o with
    | appError e => exact hat
    | returned status body => trivial
  -- past the approval the request is no longer unapproved
  case recordsAuthorized | recordIllegal | issues | refuses | refuseIllegal | issueRolledBack
      | reverses | reverseFails | voids | voidIllegal | flags | captures | captureFails | confirms
      | confirmIllegal | confirmRolledBack | refreshes =>
    simp [BookingPc.unapproved] at hpc
  case blocks | passes | createsPayment | timesOut | journals => exact ⟨hat.mem, hat.notMem⟩
  case deletes | deletesNothing | inserts | insertsNothing | claims | clears | yields => exact hat
  all_goals trivial

theorem Step.declineAt {db₀ : Db} {u : UserId} {hs : List HoldId} (h : Step env s p P a s' P')
    (ht : Tables s) (ho : P.Outline s) (hat : DeclineAt db₀ u hs s P) (hD : Declining u hs P a)
    (hids₀ : s.db.seatIds = db₀.seatIds)
    (hfree : ∀ i ∈ lockSeatsForHolds db₀ hs u, i.row.bookingId = none) :
    DeclineAt db₀ u hs s' P' := by
  cases h
  case tick d => exact hat
  case arrive r =>
    cases r
    case createBooking r => exact ⟨hD, hat⟩
    all_goals exact hD.elim
  case booking r x pc pc' h =>
    exact h.declineAt ht (fun b hb => (ho b hb).2) hat hD hids₀ hfree
  all_goals exact hD.elim

/-- The two databases have the same rows for sale, up to versions. -/
structure SameRows (db db' : Db) : Prop where
  seatIds : db'.seatIds = db.seatIds
  flight : db'.flight = db.flight
  seat : ∀ k, UpToVersion (db.seat k) (db'.seat k)

theorem SameRows.refl (db : Db) : SameRows db db := ⟨rfl, rfl, fun _ => .refl _⟩

theorem SameRows.trans {db db' db'' : Db} (h : SameRows db db') (h' : SameRows db' db'') :
    SameRows db db'' :=
  ⟨h'.seatIds.trans h.seatIds, h'.flight.trans h.flight, fun k => (h.seat k).trans (h'.seat k)⟩

/-- **One decline, alone.**  A request that ends in a problem document before an
approved authorization leaves the rows as they were. -/
theorem sameRows_of_decline {u : UserId} {hs : List HoldId} {w w' : World (Shared G) Proc}
    {as : List (ℕ × Input)} (ho : (outline G).Holds w) (hidle : w.proc p = .idle)
    (hfree : ∀ i ∈ lockSeatsForHolds w.shared.db hs u, i.row.bookingId = none)
    (h : (service env G).Run (System.Solo p (Declining u hs)) w as w') {r : BookingRequest}
    {e : AppError} {b : Option BookingId} (hend : w'.proc p = .booking r (.done (.problem e) b)) :
    SameRows w.shared.db w'.shared.db := by
  have hrun : (outline G).Holds w' ∧ w'.shared.db.seatIds = w.shared.db.seatIds ∧
      w'.shared.db.flight = w.shared.db.flight ∧
        DeclineAt w.shared.db u hs w'.shared (w'.proc p) := by
    refine h.induct (I := fun w₁ => (outline G).Holds w₁ ∧
      w₁.shared.db.seatIds = w.shared.db.seatIds ∧ w₁.shared.db.flight = w.shared.db.flight ∧
        DeclineAt w.shared.db u hs w₁.shared (w₁.proc p)) ⟨ho, rfl, rfl, ?_⟩ ?_
    · rw [hidle]
      rfl
    · rintro w₁ q a w₂ ⟨ho₁, hids, hflight, hat⟩ ⟨rfl, hD⟩ hn
      have ho₂ := outline_next ho₁ hn
      obtain ⟨s', P', hs', rfl⟩ := System.next_eq_some.mp hn
      have hstep := step_of hs'
      obtain ⟨hids', hflight'⟩ := hstep.inventory_eq
      refine ⟨ho₂, hids'.trans hids, hflight'.trans hflight, ?_⟩
      simpa using hstep.declineAt ho₁.shared (ho₁.own q) hat hD hids hfree
  obtain ⟨-, hids, hflight, hat⟩ := hrun
  rw [hend] at hat
  exact ⟨hids, hflight, hat.2⟩

/-- Requests of the user for the holds, one after the other, each of which ends in a
problem document before an approved authorization. -/
inductive Declined (env : Env) (u : UserId) (hs : List HoldId) (w : World (Shared G) Proc) :
    ℕ → World (Shared G) Proc → Prop
  | none : Declined env u hs w 0 w
  | more {n p : ℕ} {w₁ w₂ : World (Shared G) Proc} {as : List (ℕ × Input)} {r : BookingRequest}
      {e : AppError} {b : Option BookingId} (hw : Declined env u hs w n w₁)
      (hidle : w₁.proc p = .idle)
      (hrun : (service env G).Run (System.Solo p (Declining u hs)) w₁ as w₂)
      (hend : w₂.proc p = .booking r (.done (.problem e) b)) : Declined env u hs w (n + 1) w₂

/-- Step 1 locks the same seats. -/
theorem SameRows.lockSeatsForHolds_eq {db db' : Db} (h : SameRows db db') (hs : List HoldId)
    (u : UserId) : lockSeatsForHolds db' hs u =
      (lockSeatsForHolds db hs u).map fun i => ⟨i.id, db'.seat i.id⟩ := by
  have hcond : ∀ k, (((db'.seat k).holdId.any fun h => h ∈ hs) &&
      decide ((db'.seat k).heldByUserId = some u)) =
        (((db.seat k).holdId.any fun h => h ∈ hs) &&
          decide ((db.seat k).heldByUserId = some u)) := by
    intro k
    obtain ⟨v, hv⟩ := h.seat k
    rw [hv]
  simp only [lockSeatsForHolds, h.seatIds, hcond, List.map_map]
  rfl

/-- No decline pins the holds to a booking. -/
theorem SameRows.free {db db' : Db} (h : SameRows db db') {hs : List HoldId} {u : UserId}
    (hfree : ∀ i ∈ lockSeatsForHolds db hs u, i.row.bookingId = none) :
    ∀ i ∈ lockSeatsForHolds db' hs u, i.row.bookingId = none := by
  intro i hi
  rw [h.lockSeatsForHolds_eq] at hi
  obtain ⟨j, hj, rfl⟩ := List.mem_map.mp hi
  obtain ⟨v, hv⟩ := h.seat j.id
  have hnone := hfree j hj
  rw [(mem_lockSeatsForHolds hj).2.1] at hnone
  simp [hv, hnone]

theorem sameRows_of_declined {u : UserId} {hs : List HoldId} {w w' : World (Shared G) Proc} {n : ℕ}
    (h : Declined env u hs w n w') (ho : (outline G).Holds w)
    (hfree : ∀ i ∈ lockSeatsForHolds w.shared.db hs u, i.row.bookingId = none) :
    (outline G).Holds w' ∧ SameRows w.shared.db w'.shared.db := by
  induction h with
  | none => exact ⟨ho, .refl _⟩
  | more hw hidle hrun hend ih =>
    obtain ⟨ho₁, hrows⟩ := ih
    exact ⟨outline_run hrun ho₁,
      hrows.trans (sameRows_of_decline ho₁ hidle (hrows.free hfree) hrun hend)⟩

/-- Step 1 asks the same of rows that are the same up to versions. -/
theorem SameRows.stepOnePins {db db' : Db} (h : SameRows db db') {now : Time} {u : UserId}
    {payload payload' : BookingCreate} {pnr pnr' : ℕ → String} {refTaken : Bool}
    (hhs : payload'.holdIds = payload.holdIds) (hpnr : (uniquePnr db' pnr').isSome = true)
    (hpins : stepOnePins db now u payload pnr refTaken = true) :
    stepOnePins db' now u payload' pnr' false = true := by
  simp only [SkyLock.stepOnePins, Bool.and_eq_true, beq_iff_eq, List.isEmpty_iff] at hpins ⊢
  obtain ⟨⟨⟨⟨⟨hlen, hlive⟩, hflight⟩, -⟩, htotal⟩, -⟩ := hpins
  have hrow : ∀ i ∈ lockSeatsForHolds db payload.holdIds u, UpToVersion i.row (db'.seat i.id) :=
    fun i hi => (mem_lockSeatsForHolds hi).2.1 ▸ h.seat i.id
  rw [hhs, h.lockSeatsForHolds_eq]
  -- a version is neither a flight nor a price
  have hsame : ∀ {α : Type} (f : SeatInventory → α), (∀ r v, f { r with version := v } = f r) →
      ((lockSeatsForHolds db payload.holdIds u).map fun i =>
        (⟨i.id, db'.seat i.id⟩ : SeatInstance)).map (fun i => f i.row) =
          (lockSeatsForHolds db payload.holdIds u).map fun i => f i.row := by
    intro α f hf
    rw [List.map_map]
    refine List.map_congr_left fun i hi => ?_
    obtain ⟨v, hv⟩ := hrow i hi
    simp [hv, hf]
  refine ⟨⟨⟨⟨⟨by simpa using hlen, ?_⟩, ?_⟩, hpnr⟩, ?_⟩, rfl⟩
  · refine List.filter_eq_nil_iff.mpr fun i hi => ?_
    obtain ⟨j, hj, rfl⟩ := List.mem_map.mp hi
    obtain ⟨v, hv⟩ := hrow j hj
    have hj' := List.filter_eq_nil_iff.mp hlive j hj
    simp only [hv]
    exact hj'
  · rw [hsame SeatInventory.flightId fun _ _ => rfl, h.flight]
    exact hflight
  · rw [hsame SeatInventory.price fun _ _ => rfl]
    exact htotal

/-- What step 1 asks for is all it asks for. -/
theorem openBooking_of_stepOnePins {db : Db} {now : Time} {u : UserId} {payload : BookingCreate}
    {pnr : ℕ → String} {refTaken : Bool}
    (h : stepOnePins db now u payload pnr refTaken = true) (uuid : ℕ) (key : String) :
    ∃ db' σ, openBooking db now uuid u key payload pnr refTaken = .ok (db', σ) := by
  simp only [stepOnePins, Bool.and_eq_true, beq_iff_eq, List.isEmpty_iff] at h
  obtain ⟨⟨⟨⟨⟨hlen, hlive⟩, hflight⟩, hpnr⟩, htotal⟩, href⟩ := h
  split at hflight
  · next flightId hids =>
    obtain ⟨flight, hf⟩ := Option.isSome_iff_exists.mp hflight
    obtain ⟨ref, hr⟩ := Option.isSome_iff_exists.mp hpnr
    have href : refTaken = false := by simpa using href
    have htotal : Numeric (openedSaga payload (lockSeatsForHolds db payload.holdIds u) uuid ref
        flightId flight).total := of_decide_eq_true htotal
    refine ⟨openedDb db (openedSaga payload (lockSeatsForHolds db payload.holdIds u) uuid ref
      flightId flight) u key now (lockSeatsForHolds db payload.holdIds u),
      openedSaga payload (lockSeatsForHolds db payload.holdIds u) uuid ref flightId flight, ?_⟩
    simp only [openBooking, hlen, ne_eq, not_true_eq_false, if_false, hlive, hids, hf, hr, htotal,
      href, Bool.false_eq_true]
  · exact absurd hflight (by simp)

theorem stepOnePins_of_openBooking {db db' : Db} {now : Time} {uuid : ℕ} {u : UserId} {key : String}
    {payload : BookingCreate} {pnr : ℕ → String} {refTaken : Bool} {σ : Saga}
    (h : openBooking db now uuid u key payload pnr refTaken = .ok (db', σ)) :
    stepOnePins db now u payload pnr refTaken = true := by
  obtain ⟨hlen, hlive, flightId, flight, ref, hids, hflight, hpnr, htotal, href, -, -⟩ :=
    openBooking_eq_ok h
  simp [stepOnePins, hlen, hlive, hids, hflight, hpnr, htotal, href]

/-! ### What a failure before the charge leaves -/

/-- **A failure before the charge disturbs nobody's hold** in a run whose steps are
undisputed.  A saga without an approved authorization issues no ticket, keeps every
holder, hold, expiry and status, and pins free seats and unpins its own only; when it
has ended with an error no seat is pinned to its booking; and after any number of
declines in a row step 1 takes the same holds again until they expire. -/
theorem decline_disturbs_nobody {db : Db} {g : G} {clock : Time} {w : World (Shared G) Proc}
    {as : List (ℕ × Input)} (hdb : db.Initial)
    (h : (service env G).Run Undisputed (initialWorld db g clock) as w) :
    (∀ p a w', (w.proc p).unapproved = true → Undisputed w p a →
      (service env G).next w p a = some w' →
        w'.shared.db.tickets = w.shared.db.tickets ∧
          ∀ k, SameHold (w.shared.db.seat k) (w'.shared.db.seat k) ∧
            OwnPin (ownBooking w.shared (w.proc p)) (w.shared.db.seat k) (w'.shared.db.seat k)) ∧
    (∀ p r e b, w.proc p = .booking r (.done (.problem e) (some b)) →
      w.shared.db.seatsOf b = []) ∧
    ∀ u hs n w', Declined env u hs w n w' →
      (∀ i ∈ lockSeatsForHolds w.shared.db hs u, i.row.bookingId = none) →
      ∀ uuid key payload pnr refTaken opened, payload.holdIds = hs →
        openBooking w.shared.db w'.shared.clock uuid u key payload pnr refTaken = .ok opened →
        ∀ uuid' key' payload' pnr', payload'.holdIds = hs →
          (uniquePnr w'.shared.db pnr').isSome = true →
          ∃ db' σ, openBooking w'.shared.db w'.shared.clock uuid' u key' payload' pnr' false =
            .ok (db', σ) := by
  have ho := outline_holds hdb h
  have hunpinned := unpinned_holds hdb h
  refine ⟨fun p a w' hP hC hn => ?_, fun p r e b hp => ?_, ?_⟩
  · obtain ⟨s', P', hs, rfl⟩ := System.next_eq_some.mp hn
    have hstep := step_of hs
    exact ⟨hstep.tickets_eq hP, fun k =>
      ⟨hstep.sameHold (ho.own p) hP k, hstep.ownPin (ho.own p) hP hC k⟩⟩
  · have hp' := hunpinned p
    rw [hp] at hp'
    exact hp'
  · intro u hs n w' hdeclined hfree uuid key payload pnr refTaken opened hhs hopen uuid' key'
      payload' pnr' hhs' hpnr
    obtain ⟨-, hrows⟩ := sameRows_of_declined hdeclined ho hfree
    have hpins := stepOnePins_of_openBooking hopen
    exact openBooking_of_stepOnePins (hrows.stepOnePins (hhs'.trans hhs.symm) hpnr hpins) uuid' key'

/-- A user holds a seat and has a card declined. -/
def declinedCard : List (ℕ × Input) :=
  asks 0 (.createHold ⟨10, 7, "1A"⟩) 3 (.calm 0) ++
    asks 1 (.createBooking ⟨10, "first-key-000001", soloBody 0 "tok_test_aaaa11110002"⟩) 11 (.calm 1)

/-- The status and the booking of a request that was refused. -/
def Proc.refused? : Proc → Option (ℕ × BookingId)
  | .booking _ (.done (.problem e) (some b)) => some (e.statusCode, b)
  | _ => none

theorem Proc.refused?_eq_some {P : Proc} {status : ℕ} {b : BookingId}
    (h : P.refused? = some (status, b)) :
    ∃ r e, P = .booking r (.done (.problem e) (some b)) ∧ e.statusCode = status := by
  unfold refused? at h
  split at h
  · next r e b' =>
    obtain ⟨rfl, rfl⟩ := Prod.mk.inj (Option.some.inj h)
    exact ⟨r, e, rfl, rfl⟩
  · simp at h

/-- The seat is free for the user's next card. -/
theorem declinedCard_unpins :
    ∃ w, (service demoEnv FakePaymentGateway).Run Undisputed (onSale 1) declinedCard w ∧
      (∃ r e, w.proc 1 = .booking r (.done (.problem e) (some 1)) ∧ e.statusCode = 402) ∧
      w.shared.db.seatsOf 1 = [] := by
  have hrun : ((service demoEnv FakePaymentGateway).checked Undisputed (onSale 1)
      declinedCard).any (fun w => decide ((w.proc 1).refused? = some (402, 1))) = true := by
    decide +kernel
  obtain ⟨w, hw, htest⟩ := System.exists_run_of_checked hrun
  obtain ⟨r, e, hproc, he⟩ := Proc.refused?_eq_some (of_decide_eq_true htest)
  exact ⟨w, hw, ⟨r, e, hproc, he⟩,
    (decline_disturbs_nobody (Db.seeded_initial _ _ _ _) hw).2.1 1 r e 1 hproc⟩

/-- A user holds a seat and sends a first booking of it, whose step 1 pins the seat. -/
def pinnedBooking : List (ℕ × Input) :=
  asks 0 (.createHold ⟨10, 7, "1A"⟩) 3 (.calm 0) ++
    asks 1 (.createBooking ⟨10, "first-key-000001", soloBody 0 "tok_test_aaaa11110000"⟩) 4 (.calm 1)

/-- **A second booking of the same hold takes the seat over**, and its decline leaves
the first booking without it. -/
theorem decline_steals_pin :
    ∃ w w' w'' : World (Shared FakePaymentGateway) Proc,
      (service demoEnv FakePaymentGateway).Run (fun _ _ _ => True) (onSale 1) (pinnedBooking ++
        asks 2 (.createBooking ⟨10, "second-key-00001", soloBody 0 "tok_test_aaaa11110002"⟩) 3
          (.calm 2)) w ∧
      (service demoEnv FakePaymentGateway).next w 2 (.go (.calm 2)) = some w' ∧
      (service demoEnv FakePaymentGateway).Run (fun _ _ _ => True) w' (moves 2 7 (.calm 2)) w'' ∧
      (w.shared.db.seat 0).bookingId = some 1 ∧ (w'.shared.db.seat 0).bookingId = some 3 ∧
      (w''.shared.db.seat 0).bookingId = none ∧
      (∃ r e, w''.proc 2 = .booking r (.done (.problem e) (some 3)) ∧ e.statusCode = 402) ∧
      ¬ ∀ k, OwnPin (ownBooking w.shared (w.proc 2)) (w.shared.db.seat k) (w'.shared.db.seat k) := by
  have hrun : ((service demoEnv FakePaymentGateway).checked (fun _ _ _ => True) (onSale 1)
      (pinnedBooking ++ asks 2 (.createBooking
        ⟨10, "second-key-00001", soloBody 0 "tok_test_aaaa11110002"⟩) 3 (.calm 2))).any (fun w =>
        decide ((w.shared.db.seat 0).bookingId = some 1) &&
        ((service demoEnv FakePaymentGateway).next w 2 (.go (.calm 2))).any fun w' =>
          decide ((w'.shared.db.seat 0).bookingId = some 3) &&
          ((service demoEnv FakePaymentGateway).checked (fun _ _ _ => True) w'
            (moves 2 7 (.calm 2))).any fun w'' =>
            decide ((w''.shared.db.seat 0).bookingId = none) &&
              decide ((w''.proc 2).refused? = some (402, 3))) = true := by
    decide +kernel
  obtain ⟨w, hw, htest⟩ := System.exists_run_of_checked hrun
  obtain ⟨hpinned, htest⟩ := Bool.and_eq_true_iff.mp htest
  obtain ⟨w', hn, htest⟩ := (Option.any_eq_true _ _).mp htest
  obtain ⟨hstolen, htest⟩ := Bool.and_eq_true_iff.mp htest
  obtain ⟨w'', hw'', htest⟩ := System.exists_run_of_checked htest
  obtain ⟨hfree, htest⟩ := Bool.and_eq_true_iff.mp htest
  have hpinned := of_decide_eq_true hpinned
  have hstolen := of_decide_eq_true hstolen
  refine ⟨w, w', w'', hw, hn, hw'', hpinned, hstolen, of_decide_eq_true hfree, ?_, fun hown => ?_⟩
  · exact Proc.refused?_eq_some (of_decide_eq_true htest)
  · rcases hown 0 with hsame | ⟨hnone, -⟩ | ⟨-, hnone⟩
    · rw [hpinned, hstolen] at hsame
      exact absurd hsame (by decide)
    · rw [hpinned] at hnone
      exact absurd hnone (by decide)
    · rw [hstolen] at hnone
      exact absurd hnone (by decide)

end SkyLock
