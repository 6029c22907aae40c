import SkyLock.Confidentiality
import SkyLock.Lib.Simulation

/-!
# Rows that a sweep has freed

Two runs of which one sweeps: their seat rows are the same up to versions, or the one row
is a hold that has expired and is pinned to nothing, and the other is what sweeping it
leaves.  Whatever writes such rows leaves rows that are alike again.  The sagas of the two
runs carry instances at different versions, and a booking whose holds were swept is told
that they do not exist, where the other is told that they have expired.

## Main definitions

* `SeatInventory.normal` — a row up to its version, expired holds taken for free seats.
* `SeatInventory.Like` — a row, or what sweeping it leaves.
* `Shared.over`, `BookingPc.atVersions` — a state over other rows, and a request that loaded
  them.
* `Reply.Alike`, `ClaimsAlike`, `BookingPc.Alike`, `Shared.Alike` — the two runs.

## Main results

* `SeatInventory.Like.normal_eq` — up to normalising, such rows are the same.
* `stepBooking_over` — away from seats and claims a request does the same over other rows.
* `stepBegin_over`, `completeCommit_over`, `releaseClaim_over` — the claims of the two runs
  stay alike.
-/

namespace SkyLock

open Concurrent

/-! ### Rows and what the sweep leaves of them -/

namespace SeatInventory

/-- The row at another version. -/
def atVersion (r : SeatInventory) (v : ℕ) : SeatInventory := { r with version := v }

/-- The row with an expired, unpinned hold taken for available, and without its version. -/
def normal (now : Time) (r : SeatInventory) : SeatInventory :=
  (if sweepable now r then r.freed else r).atVersion 0

/-- `r` is the row `r'`, or what sweeping it leaves if it is one of the rows `L`; the versions
may differ. -/
def Like (L : SeatInventory → Prop) (r r' : SeatInventory) : Prop :=
  (∃ v, r = r'.atVersion v) ∨ L r' ∧ ∃ v, r = r'.freed.atVersion v

/-- Rows a sweep may have freed by `now`, whatever their version. -/
structure Lapsed (L : SeatInventory → Prop) (now : Time) : Prop where
  sweepable : ∀ r, L r → SkyLock.sweepable now r = true
  atVersion : ∀ r v, L r → L (r.atVersion v)

variable {L L' : SeatInventory → Prop} {now now' : Time} {r r' : SeatInventory}

theorem sweepable_iff : sweepable now r = true ↔ r.status = .held ∧
    (∃ e, r.holdExpiresAt = some e ∧ e < now) ∧ r.bookingId = none := by
  simp [sweepable, Option.any_eq_true]

/-- A hold stays expired. -/
theorem sweepable_mono (h : sweepable now r = true) (hle : now ≤ now') :
    sweepable now' r = true := by
  rw [sweepable_iff] at h ⊢
  obtain ⟨hstatus, ⟨e, he, hlt⟩, hfree⟩ := h
  exact ⟨hstatus, ⟨e, he, hlt.trans_le hle⟩, hfree⟩

theorem Like.mono (h : r.Like L r') (hL : L r' → L' r') : r.Like L' r' := by
  rcases h with h | ⟨hl, h⟩
  · exact .inl h
  · exact .inr ⟨hL hl, h⟩

theorem Like.refl (L : SeatInventory → Prop) (r : SeatInventory) : r.Like L r :=
  .inl ⟨r.version, rfl⟩

/-- Neither is pinned, or both are pinned to one booking. -/
theorem Like.bookingId (h : r.Like L r') : r.bookingId = r'.bookingId := by
  rcases h with ⟨v, rfl⟩ | ⟨-, v, rfl⟩ <;> rfl

/-- They are one seat. -/
theorem Like.isSeat (h : r.Like L r') (flightId : FlightId) (seatNo : String) :
    r.isSeat flightId seatNo = r'.isSeat flightId seatNo := by
  rcases h with ⟨v, rfl⟩ | ⟨-, v, rfl⟩ <;> rfl

/-- Only an unpinned row can have been swept. -/
theorem Like.same_of_pinned (h : r.Like L r') (hL : Lapsed L now) (hb : r.bookingId ≠ none) :
    r = r'.atVersion r.version := by
  rcases h with ⟨v, rfl⟩ | ⟨hl, v, rfl⟩
  · rfl
  · exact absurd (sweepable_iff.mp (hL.sweepable r' hl)).2.2 hb

/-- The sweep leaves a hold id on no row. -/
theorem Like.same_of_hold (h : r.Like L r') (hhold : r.holdId ≠ none) :
    r = r'.atVersion r.version := by
  rcases h with ⟨v, rfl⟩ | ⟨-, v, rfl⟩
  · rfl
  · exact absurd rfl hhold

/-- Where both can be taken, they can be taken at the same instants. -/
theorem Like.takeable (h : r.Like L r') (hL : L r' → SkyLock.takeable r' now = true) :
    SkyLock.takeable r now = SkyLock.takeable r' now := by
  rcases h with ⟨v, rfl⟩ | ⟨hl, v, rfl⟩
  · rfl
  · rw [hL hl]
    rfl

theorem takeable_of_sweepable (h : sweepable now r = true) : SkyLock.takeable r now = true := by
  obtain ⟨hstatus, ⟨e, he, hlt⟩, -⟩ := sweepable_iff.mp h
  simp [SkyLock.takeable, hstatus, he, hlt]

/-- **Up to normalising, they are one row.** -/
theorem Like.normal_eq (h : r.Like L r') (hL : Lapsed L now) : r.normal now = r'.normal now := by
  rcases h with ⟨v, rfl⟩ | ⟨hl, v, rfl⟩
  · have heq : sweepable now (r'.atVersion v) = sweepable now r' := rfl
    unfold normal
    rw [heq]
    split <;> rfl
  · have hfreed : sweepable now (r'.freed.atVersion v) = false := rfl
    unfold normal
    rw [hL.sweepable r' hl, hfreed]
    rfl

/-! ### What the writers of a row make of two that are alike -/

theorem Like.pinned (b : BookingId) (v : ℕ) :
    ((r'.atVersion v).pinned b).Like L (r'.pinned b) := .inl ⟨v + 1, rfl⟩

theorem Like.heldBy (h : r.Like L r') (u : UserId) (hold : HoldId) (e : Time) :
    (r.heldBy u hold e).Like L (r'.heldBy u hold e) := by
  rcases h with ⟨v, rfl⟩ | ⟨-, v, rfl⟩ <;> exact .inl ⟨_, rfl⟩

theorem Like.freed (h : r.Like L r') : r.freed.Like L r'.freed := by
  rcases h with ⟨v, rfl⟩ | ⟨-, v, rfl⟩ <;> exact .inl ⟨_, rfl⟩

theorem Like.returned (h : r.Like L r') : r.returned.Like L r'.returned := by
  rcases h with ⟨v, rfl⟩ | ⟨-, v, rfl⟩ <;> exact .inl ⟨_, rfl⟩

theorem Like.unpinned (h : r.Like L r') (hL : Lapsed L now) (v v' : ℕ) :
    ({ r with bookingId := none, version := v } : SeatInventory).Like L
      { r' with bookingId := none, version := v' } := by
  rcases h with ⟨w, rfl⟩ | ⟨hl, w, rfl⟩
  · exact .inl ⟨v, rfl⟩
  · have hfree := (sweepable_iff.mp (hL.sweepable r' hl)).2.2
    have heq : ({ r' with bookingId := none, version := v' } : SeatInventory) =
        r'.atVersion v' := by
      rw [atVersion, ← hfree]
    rw [heq]
    exact .inr ⟨hL.atVersion r' v' hl, v, by simp [SeatInventory.freed, atVersion, hfree]⟩

theorem Like.booked (h : r.Like L r') (hb : r.bookingId ≠ none) (hL : Lapsed L now) (v v' : ℕ) :
    ({ r with status := .booked, holdId := none, holdExpiresAt := none, version := v } :
      SeatInventory).Like L
        { r' with status := .booked, holdId := none, holdExpiresAt := none, version := v' } := by
  rw [h.same_of_pinned hL hb]
  exact .inl ⟨v, rfl⟩

end SeatInventory

/-! ### Sagas and tables over other versions -/

/-- A seat instance at another version. -/
def atVersion (v : SeatId → ℕ) (i : SeatInstance) : SeatInstance :=
  ⟨i.id, i.row.atVersion (v i.id)⟩

/-- A saga whose seat instances are at other versions. -/
@[simps] def Saga.atVersions (v : SeatId → ℕ) (σ : Saga) : Saga :=
  { σ with seats := σ.seats.map (atVersion v) }

/-- The tables over other seat rows and claims. -/
@[simps -fullyApplied] def Db.over (seat : SeatId → SeatInventory)
    (claims : String × UserId → Option IdempotencyKey) (db : Db) : Db :=
  { db with seat := seat, claims := claims }

/-- The shared state over other seat rows and claims. -/
@[simps] def Shared.over {G : Type} (seat : SeatId → SeatInventory)
    (claims : String × UserId → Option IdempotencyKey) (s : Shared G) : Shared G :=
  { s with db := s.db.over seat claims }

/-- A booking request at the same place, its seat instances at other versions. -/
def BookingPc.atVersions (v : SeatId → ℕ) : BookingPc → BookingPc
  | .assess σ => .assess (σ.atVersions v)
  | .failSelect σ f => .failSelect (σ.atVersions v) f
  | .failCommit σ f rows => .failCommit (σ.atVersions v) f (rows.map (SkyLock.atVersion v))
  | .createPayment σ => .createPayment (σ.atVersions v)
  | .authorize σ pay => .authorize (σ.atVersions v) pay
  | .journalUnknown σ pay => .journalUnknown (σ.atVersions v) pay
  | .retryAuthorize σ pay => .retryAuthorize (σ.atVersions v) pay
  | .recordAuthorized σ pay result => .recordAuthorized (σ.atVersions v) pay result
  | .issueTickets σ pay => .issueTickets (σ.atVersions v) pay
  | .reverse σ pay reason => .reverse (σ.atVersions v) pay reason
  | .finishVoided σ pay reason => .finishVoided (σ.atVersions v) pay reason
  | .finishReview σ pay reason error => .finishReview (σ.atVersions v) pay reason error
  | .capture σ pay => .capture (σ.atVersions v) pay
  | .confirm σ pay => .confirm (σ.atVersions v) pay
  | .refresh σ => .refresh (σ.atVersions v)
  | pc => pc

section Versions

variable {v w : SeatId → ℕ} {σ : Saga} {seats : List SeatInstance}

@[simp] theorem atVersion_id (i : SeatInstance) : (atVersion v i).id = i.id := rfl

theorem map_atVersion_id : (seats.map (atVersion v)).map Orm.Instance.id =
    seats.map Orm.Instance.id := by
  rw [List.map_map]
  rfl

/-- Only the versions of its own seats matter to a saga. -/
theorem Saga.atVersions_congr (h : ∀ i ∈ σ.seats, v i.id = w i.id) :
    σ.atVersions v = σ.atVersions w := by
  have hseats : σ.seats.map (atVersion v) = σ.seats.map (atVersion w) :=
    List.map_congr_left fun i hi => by rw [atVersion, atVersion, h i hi]
  rw [Saga.atVersions, Saga.atVersions, hseats]

theorem orderedSeats_atVersion :
    orderedSeats (seats.map (atVersion v)) = (orderedSeats seats).map (atVersion v) := by
  unfold orderedSeats
  exact (List.map_insertionSort _ _ (atVersion v) seats fun _ _ _ _ => Iff.rfl).symm

theorem locked_atVersions : (σ.atVersions v).locked = σ.locked.map (atVersion v) := by
  unfold Saga.locked
  exact (List.map_insertionSort _ _ (atVersion v) σ.seats fun _ _ _ _ => Iff.rfl).symm

theorem expiredSeats_atVersion (now : Time) :
    expiredSeats (seats.map (atVersion v)) now = (expiredSeats seats now).map (atVersion v) := by
  unfold expiredSeats
  rw [List.filter_map]
  rfl

theorem openedSaga_atVersion (payload : BookingCreate) (b : BookingId) (ref : String)
    (flightId : FlightId) (flight : Flight) :
    openedSaga payload (seats.map (atVersion v)) b ref flightId flight =
      (openedSaga payload seats b ref flightId flight).atVersions fun k => v k + 1 := by
  have hrows : passengerRows b payload.passengers ((orderedSeats seats).map (atVersion v)) =
      passengerRows b payload.passengers (orderedSeats seats) := by
    refine List.ext_getElem (by simp [passengerRows]) fun k hk _ => ?_
    simp only [passengerRows, List.getElem_mapIdx, List.getElem_zip, List.getElem_map]
    rfl
  simp only [openedSaga, Saga.atVersions, orderedSeats_atVersion, hrows, List.map_map]
  rfl

theorem lost_atVersions (u : UserId) :
    (σ.atVersions v).lost u = (σ.lost u).map (atVersion v) := by
  unfold Saga.lost
  rw [locked_atVersions, List.filter_map]
  rfl

theorem assigned_atVersions :
    (σ.atVersions v).assigned = σ.assigned.map (List.map (Prod.map id (atVersion v))) := by
  unfold Saga.assigned
  rw [locked_atVersions, Saga.atVersions_passengers]
  induction σ.passengers with
  | nil => rfl
  | cons p ps ih =>
    rw [List.mapM_cons, List.mapM_cons, ih]
    cases hp : p.seatInventoryId with
    | none => rfl
    | some k =>
      simp only [Option.bind_some, List.find?_map]
      have hfind : (fun i : SeatInstance => decide (i.id = k)) ∘ atVersion v =
          fun i => decide (i.id = k) := rfl
      rw [hfind]
      cases σ.locked.find? fun i => decide (i.id = k) with
      | none => rfl
      | some i =>
        simp only [Option.map_some]
        generalize (ps.mapM fun p => (p.seatInventoryId.bind fun s =>
          σ.locked.find? fun i => decide (i.id = s)).map fun i => (p, i)) = rest
        cases rest <;> rfl

theorem seatOf_atVersions (p : PassengerId) : (σ.atVersions v).seatOf p = σ.seatOf p := by
  unfold Saga.seatOf
  simp only [Saga.atVersions_passengers, Saga.atVersions_seats, List.find?_map, Option.map_map]
  rfl

end Versions

/-! ### Steps away from the seats and the claims -/

theorem raised_atVersions (v : SeatId → ℕ) (e : Failure) (b : Option BookingId) :
    (raised e b).atVersions v = raised e b := by
  cases e <;> rfl

/-- A request is at a statement about seats. -/
def BookingPc.onSeats : BookingPc → Bool
  | .openBooking | .failSelect _ _ | .failCommit _ _ _ | .issueTickets _ _ | .finishVoided _ _ _
  | .finishReview _ _ _ _ => true
  | _ => false

section Plain

variable {G : Type} [PaymentGateway G] {env : Env} {s : Shared G} {p : ℕ} {r : BookingRequest}
  {x : Draws} {pc : BookingPc} {v : SeatId → ℕ} {seat : SeatId → SeatInventory}
  {claims : String × UserId → Option IdempotencyKey}

theorem afterAuthorize_atVersions (σ : Saga) (pay : Payment) (result : AuthorizationResult) :
    afterAuthorize (σ.atVersions v) pay result = (afterAuthorize σ pay result).atVersions v := by
  unfold afterAuthorize
  split <;> rfl

/-- What a step leads to, over other rows. -/
abbrev overRows {G : Type} (seat : SeatId → SeatInventory)
    (claims : String × UserId → Option IdempotencyKey) (v : SeatId → ℕ)
    (o : Shared G × BookingPc) : Shared G × BookingPc :=
  (o.1.over seat claims, o.2.atVersions v)

/-- Away from the seats and the claims, a request does the same over other rows. -/
theorem stepBooking_over (hseats : pc.onSeats = false) (hclaim : pc.onClaim = false) :
    stepBooking env (s.over seat claims) p r x (pc.atVersions v) =
      (stepBooking env s p r x pc).map (overRows seat claims v) := by
  cases pc
  case assess σ =>
    simp only [stepBooking, stepOpen, BookingPc.atVersions]
    split <;> rfl
  case createPayment σ =>
    simp only [stepBooking, stepCharge, BookingPc.atVersions, Shared.over_db, Shared.over_uuid]
    have hcreate : ∀ pay, createPayment (s.db.over seat claims) pay =
        (createPayment s.db pay).map (Db.over seat claims) := by
      intro pay
      unfold createPayment
      split <;> rfl
    have hpay : newPayment env (σ.atVersions v) s.uuid (PaymentGateway.name G)
        r.payload.cardToken r.key =
          newPayment env σ s.uuid (PaymentGateway.name G) r.payload.cardToken r.key := rfl
    rw [hpay, hcreate]
    cases createPayment s.db _ with
    | ok db => rfl
    | error e =>
      simp only [Except.map, Option.map_some, overRows, raised_atVersions,
        Saga.atVersions_bookingId]
  case authorize σ pay =>
    simp only [stepBooking, stepCharge, BookingPc.atVersions, Shared.over_gateway]
    have hasks : authorizeRequest (σ.atVersions v) pay = authorizeRequest σ pay := rfl
    rw [hasks]
    cases PaymentGateway.authorize s.gateway (authorizeRequest σ pay) with
    | mk out g =>
      cases out with
      | ok result =>
        simp only [Option.map_some, afterAuthorize_atVersions]
        rfl
      | error e => rfl
  case journalUnknown σ pay => rfl
  case retryAuthorize σ pay =>
    simp only [stepBooking, stepCharge, BookingPc.atVersions, Shared.over_gateway]
    have hasks : authorizeRequest (σ.atVersions v) pay = authorizeRequest σ pay := rfl
    rw [hasks]
    cases PaymentGateway.authorize s.gateway (authorizeRequest σ pay) with
    | mk out g =>
      cases out with
      | ok result =>
        simp only [Option.map_some, afterAuthorize_atVersions]
        rfl
      | error e => rfl
  case recordAuthorized σ pay result =>
    simp only [stepBooking, stepCharge, BookingPc.atVersions, Shared.over_db]
    have hrecord : recordAuthorized (s.db.over seat claims) (σ.atVersions v) pay result =
        (recordAuthorized s.db σ pay result).map (Db.over seat claims) := by
      simp only [recordAuthorized, Saga.atVersions_state]
      cases assertCanTransition σ.state .paymentAuthorized with
      | some x => rfl
      | none =>
        dsimp only
        split_ifs <;> rfl
    rw [hrecord]
    cases recordAuthorized s.db σ pay result with
    | ok db => rfl
    | error e =>
      simp only [Except.map, Option.map_some, overRows, raised_atVersions,
        Saga.atVersions_bookingId]
  case reverse σ pay reason =>
    simp only [stepBooking, stepCompensate, BookingPc.atVersions, Shared.over_gateway]
    have hreverse : ∀ g : G, reverseCharge g (σ.atVersions v) pay = reverseCharge g σ pay :=
      fun _ => rfl
    rw [hreverse]
    cases (reverseCharge (armed s.gateway r.payload.cardToken pay) σ pay).1.1 <;> rfl
  case capture σ pay =>
    simp only [stepBooking, stepConfirm, BookingPc.atVersions, Shared.over_gateway]
    cases PaymentGateway.capture s.gateway _ _ with
    | mk out g => cases out <;> rfl
  case confirm σ pay =>
    simp only [stepBooking, stepConfirm, BookingPc.atVersions, Shared.over_db]
    have hconfirm : confirm (s.db.over seat claims) (σ.atVersions v) pay x.seqTaken =
        (confirm s.db σ pay x.seqTaken).map (Db.over seat claims) := by
      simp only [confirm, Saga.atVersions_state]
      cases assertCanTransition σ.state .confirmed with
      | some x => rfl
      | none => cases x.seqTaken <;> rfl
    rw [hconfirm]
    cases confirm s.db σ pay x.seqTaken with
    | ok db => rfl
    | error e =>
      simp only [Except.map, Option.map_some, overRows, raised_atVersions,
        Saga.atVersions_bookingId]
  case refresh σ =>
    simp only [stepBooking, stepConfirm, BookingPc.atVersions, Shared.over_db,
      Saga.atVersions_bookingId, Db.over_booking]
    have hpayload : ∀ row, bookingPayload (s.db.over seat claims) (σ.atVersions v) row =
        bookingPayload s.db σ row := by
      intro row
      simp only [bookingPayload, seatOf_atVersions]
      rfl
    cases s.db.booking σ.bookingId with
    | none => rfl
    | some row =>
      simp only [hpayload]
      rfl
  case done => rfl
  all_goals simp [BookingPc.onSeats, BookingPc.onClaim] at hseats hclaim

end Plain

/-! ### Bookings that the sweep overtook -/

/-- The error of a booking whose holds were swept, and the error of one whose holds had
expired. -/
inductive AppError.Overtaken : AppError → AppError → Prop
  | mk (d d' : String) : Overtaken (.notFound d) (.holdExpired d')

/-- One claim, or the claims of a booking that failed with the one error and with the other. -/
inductive IdempotencyKey.Alike : IdempotencyKey → IdempotencyKey → Prop
  | same (c : IdempotencyKey) : Alike c c
  | overtaken {e e' : AppError} (h : e.Overtaken e') (c : IdempotencyKey) :
      Alike (completedClaim c e.statusCode (e.toProblem bookingsPath))
        (completedClaim c e'.statusCode (e'.toProblem bookingsPath))

/-- The claims go together. -/
def ClaimsAlike (claims claims' : String × UserId → Option IdempotencyKey) : Prop :=
  ∀ k, Option.Rel IdempotencyKey.Alike (claims k) (claims' k)

/-- One reply, or the replies to a booking that failed with the one error and with the other;
either may be replayed. -/
inductive Reply.Alike : Reply → Reply → Prop
  | same (reply : Reply) : Alike reply reply
  | overtaken {e e' : AppError} (h : e.Overtaken e') : Alike (.problem e) (.problem e')
  | replayed {e e' : AppError} (h : e.Overtaken e') :
      Alike (.json e.statusCode (e.toProblem bookingsPath) true)
        (.json e'.statusCode (e'.toProblem bookingsPath) true)

/-- One outcome, or the one error and the other. -/
inductive Outcome.Alike : Outcome → Outcome → Prop
  | same (o : Outcome) : Alike o o
  | overtaken {e e' : AppError} (h : e.Overtaken e') : Alike (.appError e) (.appError e')

/-- A booking request at one place, up to the versions of its instances and to having been
overtaken. -/
inductive BookingPc.Alike : BookingPc → BookingPc → Prop
  | atVersions (v : SeatId → ℕ) (pc : BookingPc) : Alike (pc.atVersions v) pc
  | selects {o o' : Outcome} (h : o.Alike o') (b : Option BookingId) :
      Alike (.completeSelect o b) (.completeSelect o' b)
  | commits {o o' : Outcome} (h : o.Alike o') (b : Option BookingId) :
      Alike (.completeCommit o b) (.completeCommit o' b)
  | done {reply reply' : Reply} (h : reply.Alike reply') (b : Option BookingId) :
      Alike (.done reply b) (.done reply' b)

/-- The shared state over like seat rows and claims. -/
def Shared.Alike {G : Type} (L : SeatInventory → Prop) (s s' : Shared G) : Prop :=
  ∃ seat claims, s = s'.over seat claims ∧ (∀ k, (seat k).Like L (s'.db.seat k)) ∧
    ClaimsAlike claims s'.db.claims

/-- Where two steps of a booking request lead is alike. -/
structure Abreast {G : Type} (L : SeatInventory → Prop) (o o' : Shared G × BookingPc) : Prop where
  shared : o.1.Alike L o'.1
  pc : o.2.Alike o'.2

section Claims

variable {G : Type} {env : Env} {s : Shared G} {p : ℕ} {r : BookingRequest}
  {L : SeatInventory → Prop} {seat : SeatId → SeatInventory}
  {claims claims' : String × UserId → Option IdempotencyKey}

theorem BookingPc.Alike.refl (pc : BookingPc) (h : ∀ v, pc.atVersions v = pc) : pc.Alike pc := by
  have halike := BookingPc.Alike.atVersions (fun _ => 0) pc
  rwa [h] at halike

theorem raised_alike (e : Failure) (b : Option BookingId) : (raised e b).Alike (raised e b) :=
  .refl _ fun v => raised_atVersions v e b

theorem ClaimsAlike.update (h : ClaimsAlike claims claims') {k : String × UserId}
    {c c' : Option IdempotencyKey} (hc : Option.Rel IdempotencyKey.Alike c c') :
    ClaimsAlike (Function.update claims k c) (Function.update claims' k c') := by
  intro k'
  by_cases hk : k' = k
  · subst hk
    simpa using hc
  · simpa [Function.update_of_ne hk] using h k'

theorem IdempotencyKey.Alike.expired {c c' : IdempotencyKey} (h : c.Alike c') (now : Time) :
    expiredClaim now c = expiredClaim now c' := by
  cases h <;> rfl

/-- The same completion makes them one claim. -/
theorem IdempotencyKey.Alike.completed {c c' : IdempotencyKey} (h : c.Alike c') (status : ℕ)
    (body : JsonValue) : completedClaim c status body = completedClaim c' status body := by
  cases h <;> rfl

/-- A key that was taken is resolved alike. -/
theorem resolveClaim_alike {c c' : Option IdempotencyKey}
    (h : Option.Rel IdempotencyKey.Alike c c') (digest : String) :
    resolveClaim c digest = resolveClaim c' digest ∨ ∃ e e', AppError.Overtaken e e' ∧
      resolveClaim c digest = .ok (e.statusCode, e.toProblem bookingsPath) ∧
      resolveClaim c' digest = .ok (e'.statusCode, e'.toProblem bookingsPath) := by
  cases h with
  | none => exact .inl rfl
  | some hc =>
    cases hc with
    | same c => exact .inl rfl
    | @overtaken e e' he c =>
      by_cases hdigest : c.requestHash = digest
      · refine .inr ⟨e, e', he, ?_⟩
        obtain ⟨d, d'⟩ := he
        simp [resolveClaim, completedClaim, hdigest, IdempotencyKey.response, AppError.notFound,
          AppError.holdExpired, AppError.raised]
      · refine .inl ?_
        simp [resolveClaim, completedClaim, hdigest]

/-- The INSERT of `begin` finds a row in both runs or in neither. -/
theorem ClaimsAlike.isNone_eq (h : ClaimsAlike claims claims') (k : String × UserId) :
    (claims k).isNone = (claims' k).isNone := by
  have hrel := h k
  generalize claims k = c at hrel
  generalize claims' k = c' at hrel
  cases hrel <;> rfl

/-- **`begin` over like rows and claims.** -/
theorem stepBegin_over (hseat : ∀ k, (seat k).Like L (s.db.seat k))
    (hclaims : ClaimsAlike claims s.db.claims) (pc : BookingPc) :
    Matched (Abreast L) (stepBegin env (s.over seat claims) p r pc) (stepBegin env s p r pc) := by
  have hfree : (s.over seat claims).claimFree = s.claimFree := rfl
  have hrel := hclaims r.claimKey
  cases pc
  case beginDelete now =>
    simp only [stepBegin, Shared.over_db, Db.over_claims, hfree]
    generalize claims r.claimKey = c at hrel
    generalize s.db.claims r.claimKey = c' at hrel
    cases hrel with
    | none => exact .of_some ⟨⟨seat, claims, rfl, hseat, hclaims⟩, .refl _ fun _ => rfl⟩
    | some hc =>
      simp only [hc.expired]
      split_ifs
      · exact .of_some ⟨⟨seat, claims, rfl, hseat, hclaims⟩, .refl _ fun _ => rfl⟩
      · exact .of_none
      · exact .of_some ⟨⟨seat, claims, rfl, hseat, hclaims⟩, .refl _ fun _ => rfl⟩
  case beginInsert now deleted =>
    simp only [stepBegin, Shared.over_db, Db.over_claims, hfree, hclaims.isNone_eq]
    split_ifs
    · exact .of_some ⟨⟨seat, claims, rfl, hseat, hclaims⟩, .refl _ fun _ => rfl⟩
    · exact .of_some ⟨⟨seat, claims, rfl, hseat, hclaims⟩, .refl _ fun _ => rfl⟩
    · exact .of_none
  case beginCommit now deleted claimed =>
    simp only [stepBegin]
    split_ifs
    · exact .of_some ⟨⟨seat, _, rfl, hseat, hclaims.update (.some (.same _))⟩,
        .refl _ fun _ => rfl⟩
    · exact .of_some ⟨⟨seat, _, rfl, hseat, hclaims.update .none⟩, .refl _ fun _ => rfl⟩
    · exact .of_some ⟨⟨seat, claims, rfl, hseat, hclaims⟩, .refl _ fun _ => rfl⟩
  case beginSelect =>
    simp only [stepBegin, Shared.over_db, Db.over_claims]
    rcases resolveClaim_alike hrel (requestHash env r.payload) with heq | ⟨e, e', he, heq, heq'⟩
    · rw [heq]
      cases resolveClaim (s.db.claims r.claimKey) (requestHash env r.payload) with
      | ok found => exact .of_some ⟨⟨seat, claims, rfl, hseat, hclaims⟩, .refl _ fun _ => rfl⟩
      | error e => exact .of_some ⟨⟨seat, claims, rfl, hseat, hclaims⟩, .refl _ fun _ => rfl⟩
    · rw [heq, heq']
      exact .of_some ⟨⟨seat, claims, rfl, hseat, hclaims⟩, .done (.replayed he) none⟩
  all_goals exact .of_none

theorem Outcome.Alike.reply {o o' : Outcome} (h : o.Alike o') : o.reply.Alike o'.reply := by
  cases h with
  | same => exact .same _
  | overtaken he => exact .overtaken he

/-- Alike outcomes leave alike claims. -/
theorem Outcome.Alike.completed {o o' : Outcome} (h : o.Alike o') {c c' : IdempotencyKey}
    (hc : c.Alike c') : (completedClaim c o.recorded.1 o.recorded.2).Alike
      (completedClaim c' o'.recorded.1 o'.recorded.2) := by
  rw [← hc.completed]
  cases h with
  | same => exact .same _
  | overtaken he => exact .overtaken he c

/-- The SELECT of `complete`, after alike outcomes. -/
theorem completeSelect_over (hseat : ∀ k, (seat k).Like L (s.db.seat k))
    (hclaims : ClaimsAlike claims s.db.claims) {o o' : Outcome} (ho : o.Alike o')
    (b : Option BookingId) :
    Matched (Abreast L) (stepComplete (s.over seat claims) p r (.completeSelect o b))
      (stepComplete s p r (.completeSelect o' b)) := by
  have hrel := hclaims r.claimKey
  simp only [stepComplete, Shared.over_db, Db.over_claims]
  generalize claims r.claimKey = c at hrel
  generalize s.db.claims r.claimKey = c' at hrel
  cases hrel with
  | none => exact .of_some ⟨⟨seat, claims, rfl, hseat, hclaims⟩, .done ho.reply b⟩
  | some hc => exact .of_some ⟨⟨seat, claims, rfl, hseat, hclaims⟩, .commits ho b⟩

/-- Its UPDATE, which leaves alike claims. -/
theorem completeCommit_over (hseat : ∀ k, (seat k).Like L (s.db.seat k))
    (hclaims : ClaimsAlike claims s.db.claims) {o o' : Outcome} (ho : o.Alike o')
    (b : Option BookingId) :
    Matched (Abreast L) (stepComplete (s.over seat claims) p r (.completeCommit o b))
      (stepComplete s p r (.completeCommit o' b)) := by
  have hfree : (s.over seat claims).claimFree = s.claimFree := rfl
  have hrel := hclaims r.claimKey
  simp only [stepComplete, Shared.over_db, Db.over_claims, hfree]
  split_ifs
  · generalize claims r.claimKey = c at hrel
    generalize s.db.claims r.claimKey = c' at hrel
    cases hrel with
    | none => exact .of_some ⟨⟨seat, claims, rfl, hseat, hclaims⟩, .refl _ fun _ => rfl⟩
    | some hc =>
      exact .of_some ⟨⟨seat, _, rfl, hseat, hclaims.update (.some (ho.completed hc))⟩,
        .done ho.reply b⟩
  · exact .of_none

/-- The DELETE of `release`. -/
theorem releaseClaim_over (hseat : ∀ k, (seat k).Like L (s.db.seat k))
    (hclaims : ClaimsAlike claims s.db.claims) (e : Failure) (b : Option BookingId) :
    Matched (Abreast L) (stepComplete (s.over seat claims) p r (.release e b))
      (stepComplete s p r (.release e b)) := by
  have hfree : (s.over seat claims).claimFree = s.claimFree := rfl
  simp only [stepComplete, hfree]
  split_ifs
  · exact .of_some ⟨⟨seat, _, rfl, hseat, hclaims.update .none⟩, .refl _ fun _ => rfl⟩
  · exact .of_none

end Claims

end SkyLock
