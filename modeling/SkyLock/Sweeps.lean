import SkyLock.HoldStability
import SkyLock.SweptBookings

/-!
# The sweep is unobservable

`sweep_expired_holds` writes what every query already reads: an expired hold counts as a
free seat whether it was swept or not.  The service with its sweeps and the service without
them therefore go through the same run, step by step, unless a sweep frees a row under a
hold request whose transaction began before the hold had lapsed: `now()` is the start of
that transaction, and to it the seat is still taken.

## Main definitions

* `Proc.Overlooks` — a hold request takes a lapsed row for what sweeping it leaves.
* `Unnoticed` — all of them do, when a sweep frees a row.
* `WithoutSweeps` — what the run without the sweeps does in place of a step.
* `Unobserved` — nobody can tell two worlds apart.

## Main results

* `stepHold_alike`, `releaseUpdate_alike`, `releaseLoad_alike`, `stepCancel_alike` — the
  other requests over like rows.
* `Swept.next` — the service without the sweeps answers one step of the service with them.
* `sweep_unobservable` — **sweeps that go unnoticed cannot be observed**.
* `sweep_observed` — a sweep grants a seat that is refused without it.
-/

namespace SkyLock

open Concurrent OffsetPages

/-! ### The other requests over like rows -/

/-- Where the next statement of a hold request reads a lapsed row, it takes it for what sweeping
it leaves: it does not count it, and it may take the seat. -/
def Proc.Overlooks (row : SeatInventory) : Proc → Prop
  | .hold r (.count now) => row.live r.userId now = false ∧
      (row.isSeat r.flightId r.seatNo = true → takeable row now = true)
  | .hold r (.update now) => row.isSeat r.flightId r.seatNo = true → takeable row now = true
  | _ => True

/-- A process in the two runs: at one place, up to what was swept in between.  A sweep is
served in the first only. -/
inductive Proc.Alike (now : Time) : Proc → Proc → Prop
  | idle : Alike now .idle .idle
  | booking (r : BookingRequest) {pc pc' : BookingPc} (h : pc.Alike pc') :
      Alike now (.booking r pc) (.booking r pc')
  | hold (r : HoldRequest) (pc : HoldPc) : Alike now (.hold r pc) (.hold r pc)
  /-- The row the answer reads may have lapsed and been swept since it was granted. -/
  | granted (r : HoldRequest) (k : SeatId) {row row' : SeatInventory}
      (h : row.Like (fun r => sweepable now r = true) row') :
      Alike now (.hold r (.granted k row)) (.hold r (.granted k row'))
  | release (r : ReleaseRequest) (pc : ReleasePc) : Alike now (.release r pc) (.release r pc)
  /-- The hold was swept before its owner released it. -/
  | released (r : ReleaseRequest) (d : String) :
      Alike now (.release r (.done (.problem (.notFound d))))
        (.release r (.done (.json 204 .null false)))
  | cancel (r : CancelRequest) (pc : CancelPc) : Alike now (.cancel r pc) (.cancel r pc)
  | sweep (pc : SweepPc) : Alike now (.sweep pc) .idle

theorem Proc.Alike.mono {now now' : Time} {P P' : Proc} (h : P.Alike now P') (hle : now ≤ now') :
    P.Alike now' P' := by
  cases h with
  | idle => exact .idle
  | booking r h => exact .booking r h
  | hold r pc => exact .hold r pc
  | granted r k h => exact .granted r k (h.mono fun hs => SeatInventory.sweepable_mono hs hle)
  | release r pc => exact .release r pc
  | released r d => exact .released r d
  | cancel r pc => exact .cancel r pc
  | sweep pc => exact .sweep pc

section Requests

variable {G : Type} {L : SeatInventory → Prop} {env : Env} {s s' : Shared G} {p : ℕ} {x : Draws}
  {seat : SeatId → SeatInventory}

/-- A request that overlooks what was swept counts the same holds. -/
theorem countActiveHolds_over {db : Db} (claims : String × UserId → Option IdempotencyKey)
    (hseat : ∀ k, (seat k).Like L (db.seat k)) {u : UserId} {now : Time}
    (hown : ∀ row, L row → row.live u now = false) :
    countActiveHolds (db.over seat claims) u now = countActiveHolds db u now := by
  rw [countActiveHolds_eq, countActiveHolds_eq]
  refine List.countP_congr fun k _ => ?_
  show (seat k).live u now = true ↔ _
  rcases hseat k with ⟨v, hv⟩ | ⟨hl, v, hv⟩
  · rw [hv]
    rfl
  · have hfreed : ((db.seat k).freed.atVersion v).live u now = false := by
      simp [SeatInventory.live, SeatInventory.freed, SeatInventory.atVersion]
    rw [hv, hfreed, hown _ hl]

/-- It finds the same seat. -/
theorem takeableSeat_over {db : Db} (claims : String × UserId → Option IdempotencyKey)
    (hseat : ∀ k, (seat k).Like L (db.seat k)) {flightId : FlightId} {seatNo : String} {now : Time}
    (hown : ∀ row, L row → row.isSeat flightId seatNo = true → takeable row now = true) :
    takeableSeat (db.over seat claims) flightId seatNo now =
      takeableSeat db flightId seatNo now := by
  have hmatch : ∀ k, ((seat k).isSeat flightId seatNo && takeable (seat k) now) =
      ((db.seat k).isSeat flightId seatNo && takeable (db.seat k) now) := by
    intro k
    rw [(hseat k).isSeat]
    cases hisSeat : (db.seat k).isSeat flightId seatNo with
    | false => rfl
    | true => rw [(hseat k).takeable fun hl => hown _ hl hisSeat]
  exact congrArg (List.find? · db.seatIds) (funext hmatch)

/-- **A hold request does the same over like rows**, if it overlooks what was swept. -/
theorem stepHold_alike {r : HoldRequest} {pc : HoldPc} (hL : SeatInventory.Lapsed L s'.clock)
    (hs : s.Alike L s') (hown : ∀ row, L row → (Proc.hold r pc).Overlooks row) :
    Matched (fun o o' => o.1.Alike L o'.1 ∧ (Proc.hold r o.2).Alike s'.clock (.hold r o'.2))
      (stepHold env s p r pc) (stepHold env s' p r pc) := by
  obtain ⟨seat, claims, rfl, hseat, hclaims⟩ := hs
  cases pc
  case count now =>
    simp only [stepHold, Shared.over_db,
      countActiveHolds_over claims hseat fun row hl => (hown row hl).1]
    cases holdCap env (countActiveHolds s'.db r.userId now) with
    | some e => exact .of_some ⟨⟨seat, claims, rfl, hseat, hclaims⟩, .hold r _⟩
    | none => exact .of_some ⟨⟨seat, claims, rfl, hseat, hclaims⟩, .hold r _⟩
  case update now =>
    have hgate : (s'.over seat claims).seatsFree = s'.seatsFree := rfl
    simp only [stepHold, Shared.over_db, Shared.over_uuid, acquireHold,
      takeableSeat_over claims hseat hown, Db.over_seatIds, Db.over_seat, (hseat _).isSeat, hgate]
    cases takeableSeat s'.db r.flightId r.seatNo now with
    | none =>
      cases s'.db.seatIds.any fun k => (s'.db.seat k).isSeat r.flightId r.seatNo with
      | true => exact .of_some ⟨⟨seat, claims, rfl, hseat, hclaims⟩, .hold r _⟩
      | false => exact .of_some ⟨⟨seat, claims, rfl, hseat, hclaims⟩, .hold r _⟩
    | some k =>
      dsimp only
      split_ifs
      · refine .of_some ⟨⟨_, claims, rfl, fun k' => ?_, hclaims⟩, .hold r _⟩
        show ((acquiredDb env (s'.db.over seat claims) r.userId now s'.uuid k).seat k').Like L
          ((acquiredDb env s'.db r.userId now s'.uuid k).seat k')
        rw [acquiredDb_seat, acquiredDb_seat]
        split
        · exact (hseat k').heldBy _ _ _
        · exact hseat k'
      · exact .of_none
  case refresh k =>
    exact .of_some ⟨⟨seat, claims, rfl, hseat, hclaims⟩,
      .granted r k ((hseat k).mono (hL.sweepable _))⟩
  all_goals exact .of_none

/-- The UPDATE of `release_hold` finds at least the rows it finds in the other run. -/
theorem releasable_over (hseat : ∀ k, (seat k).Like L (s'.db.seat k)) {hold : HoldId} {u : UserId}
    {k : SeatId} (h : releasable hold u (seat k) = true) :
    releasable hold u (s'.db.seat k) = true ∧
      seat k = (s'.db.seat k).atVersion (seat k).version := by
  have hhold : (seat k).holdId ≠ none := by
    intro hnone
    simp [releasable, hnone] at h
  have heq := (hseat k).same_of_hold hhold
  refine ⟨?_, heq⟩
  rw [heq] at h
  exact h

/-- A row it finds in the other run only was swept, and nobody has locked it. -/
theorem unlocked_of_releasable (hL : SeatInventory.Lapsed L s'.clock)
    (hseat : ∀ k, (seat k).Like L (s'.db.seat k))
    (hfree : ∀ k ∈ s'.db.seatIds, (seat k).bookingId = none → s'.locks k = none)
    {hold : HoldId} {u : UserId} {k : SeatId} (hk : k ∈ s'.db.seatIds)
    (h : releasable hold u (s'.db.seat k) = true) (hnot : releasable hold u (seat k) ≠ true) :
    s'.locks k = none := by
  refine hfree k hk ?_
  rcases hseat k with ⟨v, hv⟩ | ⟨hl, v, hv⟩
  · rw [hv] at hnot
    exact absurd h hnot
  · rw [hv]
    exact (SeatInventory.sweepable_iff.mp (hL.sweepable _ hl)).2.2

/-- The rows it locks in the other run are free. -/
theorem releaseGate (hL : SeatInventory.Lapsed L s'.clock)
    (hseat : ∀ k, (seat k).Like L (s'.db.seat k))
    (hfree : ∀ k ∈ s'.db.seatIds, (seat k).bookingId = none → s'.locks k = none)
    {hold : HoldId} {u : UserId} (hgate : s'.seatsFree p (s'.db.seatIds.filter fun k =>
      releasable hold u (seat k)) = true) :
    s'.seatsFree p (s'.db.seatIds.filter fun k => releasable hold u (s'.db.seat k)) = true := by
  refine List.all_eq_true.mpr fun k hmem => ?_
  obtain ⟨hk, hrel⟩ := List.mem_filter.mp hmem
  by_cases hfull : releasable hold u (seat k) = true
  · exact List.all_eq_true.mp hgate k (List.mem_filter.mpr ⟨hk, hfull⟩)
  · simp [unlocked_of_releasable hL hseat hfree hk hrel hfull]

/-- The rows it leaves are alike. -/
theorem releasedRows_like (claims : String × UserId → Option IdempotencyKey)
    (hseat : ∀ k, (seat k).Like L (s'.db.seat k)) (hold : HoldId) (u : UserId) (k : SeatId) :
    ((releaseHold (s'.db.over seat claims) hold u).1.seat k).Like L
      ((releaseHold s'.db hold u).1.seat k) := by
  rw [releaseHold_seat, releaseHold_seat]
  show SeatInventory.Like L (if releasable hold u (seat k) = true then (seat k).freed else seat k) _
  by_cases hrel : releasable hold u (seat k) = true
  · rw [if_pos hrel, if_pos (releasable_over hseat hrel).1]
    exact (hseat k).freed
  · rw [if_neg hrel]
    split
    · next hrel' =>
      -- the hold released here was swept there
      rcases hseat k with ⟨v, hv⟩ | ⟨-, v, hv⟩
      · rw [hv] at hrel
        exact absurd hrel' hrel
      · rw [hv]
        exact .inl ⟨v, rfl⟩
    · exact hseat k

/-- **The UPDATE of `release_hold` over like rows**: it may find only in the one run that the
hold is gone. -/
theorem releaseUpdate_alike {r : ReleaseRequest} (hL : SeatInventory.Lapsed L s'.clock)
    (hs : s.Alike L s')
    (hfree : ∀ k ∈ s.db.seatIds, (s.db.seat k).bookingId = none → s.locks k = none) :
    Matched (fun o o' => o.1.Alike L o'.1 ∧ (Proc.release r o.2).Alike s'.clock (.release r o'.2))
      (stepRelease s p r .update) (stepRelease s' p r .update) := by
  obtain ⟨seat, claims, rfl, hseat, hclaims⟩ := hs
  have hlike := releasedRows_like claims hseat r.holdId r.userId
  have hcount : 0 < (releaseHold (s'.db.over seat claims) r.holdId r.userId).2 →
      0 < (releaseHold s'.db r.holdId r.userId).2 := by
    intro hpos
    obtain ⟨k, hk, hrel⟩ := List.countP_pos_iff.mp hpos
    exact List.countP_pos_iff.mpr ⟨k, hk, (releasable_over hseat hrel).1⟩
  simp only [stepRelease, Shared.over_db, Db.over_seatIds, Db.over_seat]
  by_cases hgate : (s'.over seat claims).seatsFree p (s'.db.seatIds.filter fun k =>
    releasable r.holdId r.userId (seat k)) = true
  · rw [if_pos hgate, if_pos (releaseGate hL hseat hfree hgate)]
    split
    · next hfound =>
      rw [if_pos (hcount hfound)]
      exact .of_some ⟨⟨_, claims, rfl, hlike, hclaims⟩, .release r _⟩
    · split
      · exact .of_some ⟨⟨_, claims, rfl, hlike, hclaims⟩, .released r _⟩
      · exact .of_some ⟨⟨_, claims, rfl, hlike, hclaims⟩, .release r _⟩
  · rw [if_neg hgate]
    exact .of_none

/-- **Its SELECT over like rows**: where it finds a hold in the other run only, the hold was
swept; the one run answers at once, and the other goes on to release the hold. -/
theorem releaseLoad_alike {r : ReleaseRequest} (hL : SeatInventory.Lapsed L s'.clock)
    (hs : s.Alike L s') (ha : HoldsApart s')
    (hfree : ∀ k ∈ s.db.seatIds, (s.db.seat k).bookingId = none → s.locks k = none) :
    (∃ pc₁, stepRelease s p r .load = some (s, pc₁) ∧
      stepRelease s' p r .load = some (s', pc₁)) ∨
    ownedHold s.db r.holdId r.userId = none ∧
      stepRelease s p r .load = some (s, .done (.problem (.notFound "No such hold"))) ∧
      stepRelease s' p r .load = some (s', .update) ∧
      ∃ s₁', stepRelease s' p r .update = some (s₁', .done (.json 204 .null false)) ∧
        s.Alike L s₁' := by
  obtain ⟨seat, claims, rfl, hseat, hclaims⟩ := hs
  cases hfull : ownedHold (s'.db.over seat claims) r.holdId r.userId with
  | some k =>
    -- a hold that is there is there in both runs
    have hk := List.find?_some hfull
    simp only [Db.over_seat, Bool.and_eq_true, decide_eq_true_eq] at hk
    have hsame := (hseat k).same_of_hold (by rw [hk.1]; simp)
    rw [hsame] at hk
    have hsome : (ownedHold s'.db r.holdId r.userId).isSome := by
      refine List.find?_isSome.mpr ⟨k, List.mem_of_find?_eq_some hfull, ?_⟩
      simp only [Bool.and_eq_true, decide_eq_true_eq]
      exact hk
    obtain ⟨k', hk'⟩ := Option.isSome_iff_exists.mp hsome
    exact .inl ⟨.update, by simp [stepRelease, hfull], by simp [stepRelease, hk']⟩
  | none =>
    cases hfound : ownedHold s'.db r.holdId r.userId with
    | none =>
      exact .inl ⟨.done (.problem (.notFound "No such hold")), by simp [stepRelease, hfull],
        by simp [stepRelease, hfound]⟩
    | some k =>
      have hk := List.find?_some hfound
      have hmem := List.mem_of_find?_eq_some hfound
      simp only [Bool.and_eq_true, decide_eq_true_eq] at hk
      -- the one row with this hold was swept in the one run
      obtain ⟨hl, v, hv⟩ : L (s'.db.seat k) ∧ ∃ v, seat k = (s'.db.seat k).freed.atVersion v := by
        rcases hseat k with ⟨v, hv⟩ | hswept
        · refine absurd (List.find?_eq_none.mp hfull k hmem) ?_
          simp only [Db.over_seat, hv, Bool.and_eq_true, decide_eq_true_eq, not_not]
          exact hk
        · exact hswept
      have hnone : ∀ k', releasable r.holdId r.userId (seat k') = false := by
        intro k'
        by_contra hrel
        obtain ⟨hrel', hsame⟩ := releasable_over hseat (by simpa using hrel)
        have hhold : (s'.db.seat k').holdId = some r.holdId := by
          simp only [releasable, Bool.and_eq_true, decide_eq_true_eq] at hrel'
          exact hrel'.1
        obtain rfl := ha.inj k' k _ hhold hk.1
        rw [hv] at hrel
        simp [releasable, SeatInventory.freed, SeatInventory.atVersion] at hrel
      have hrel : releasable r.holdId r.userId (s'.db.seat k) = true := by
        have hstatus := (SeatInventory.sweepable_iff.mp (hL.sweepable _ hl)).1
        simp [releasable, hk, hstatus]
      have hgate := releaseGate hL hseat hfree (show s'.seatsFree p (s'.db.seatIds.filter fun k =>
        releasable r.holdId r.userId (seat k)) = true by simp [hnone, Shared.seatsFree])
      have hpos : 0 < (releaseHold s'.db r.holdId r.userId).2 :=
        List.countP_pos_iff.mpr ⟨k, hmem, hrel⟩
      refine .inr ⟨hfull, by simp [stepRelease, hfull], by simp [stepRelease, hfound],
        s'.withDb (releaseHold s'.db r.holdId r.userId).1, by simp [stepRelease, hgate, hpos],
        seat, claims, rfl, fun k' => ?_, hclaims⟩
      have hlike := releasedRows_like claims hseat r.holdId r.userId k'
      rw [releaseHold_seat] at hlike
      simpa [hnone] using hlike

theorem finishCancel_over {db : Db} (claims : String × UserId → Option IdempotencyKey)
    (hseat : ∀ k, (seat k).Like L (db.seat k)) (b : BookingId) (state : BookingState) (u : UserId)
    (refunded : Option Payment) (now : Time) (seqTaken : Bool) :
    finishCancel (db.over seat claims) b state u refunded now seqTaken =
      (finishCancel db b state u refunded now seqTaken).map
        (Prod.map (Db.over (returnedRows seat b) claims) id) := by
  have hreleased := releaseSeatsForBooking_over claims db hseat b now
  have hdb : cancelledDb (db.over seat claims) b state u refunded now =
      (cancelledDb db b state u refunded now).over (returnedRows seat b) claims := by
    simp only [cancelledDb, hreleased]
    cases refunded <;> rfl
  simp only [finishCancel, hdb, hreleased]
  cases assertCanTransition state .cancelled with
  | some e => rfl
  | none => cases seqTaken <;> rfl

/-- The rows a cancellation leaves are alike. -/
theorem cancelledRows_like {db : Db} (hseat : ∀ k, (seat k).Like L (db.seat k)) (b : BookingId)
    (state : BookingState) (u : UserId) (refunded : Option Payment) (now : Time) (k : SeatId) :
    (returnedRows seat b k).Like L ((cancelledDb db b state u refunded now).seat k) := by
  have hlike := returnedRows_like hseat b now k
  cases refunded <;> exact hlike

/-- **A cancellation does the same over like rows.** -/
theorem stepCancel_alike [PaymentGateway G] {r : CancelRequest} {pc : CancelPc}
    (hs : s.Alike L s') :
    Matched (fun o o' => o.1.Alike L o'.1 ∧ o.2 = o'.2) (stepCancel s p r x pc)
      (stepCancel s' p r x pc) := by
  obtain ⟨seat, claims, rfl, hseat, hclaims⟩ := hs
  have hbooking : ∀ b : BookingId, (fun k => decide ((seat k).bookingId = some b)) =
      fun k => decide ((s'.db.seat k).bookingId = some b) :=
    fun b => funext fun k => by rw [(hseat k).bookingId]
  have hgate : (s'.over seat claims).seatsFree = s'.seatsFree := rfl
  cases pc
  case load =>
    have howned : ownedBooking (s'.db.over seat claims) r.ref r.userId =
        ownedBooking s'.db r.ref r.userId := rfl
    simp only [stepCancel, Shared.over_db, howned]
    cases ownedBooking s'.db r.ref r.userId with
    | none => exact .of_some ⟨⟨seat, claims, rfl, hseat, hclaims⟩, rfl⟩
    | some found =>
      obtain ⟨b, row⟩ := found
      dsimp only
      cases requireState row.state [.confirmed, .ticketed] with
      | some e => exact .of_some ⟨⟨seat, claims, rfl, hseat, hclaims⟩, rfl⟩
      | none => exact .of_some ⟨⟨seat, claims, rfl, hseat, hclaims⟩, rfl⟩
  case selectPayment b state => exact .of_some ⟨⟨seat, claims, rfl, hseat, hclaims⟩, rfl⟩
  case lockSeats b state pay =>
    have hlock : (s'.over seat claims).lockSeatsOf p b = (s'.lockSeatsOf p b).over seat claims := by
      simp only [Shared.lockSeatsOf, Shared.over, Db.over_seat, (hseat _).bookingId]
    simp only [stepCancel, Shared.over_db, Db.over_seatIds, Db.over_seat, hbooking, hgate, hlock]
    split_ifs
    · cases pay with
      | some pay => exact .of_some ⟨⟨seat, claims, rfl, hseat, hclaims⟩, rfl⟩
      | none => exact .of_some ⟨⟨seat, claims, rfl, hseat, hclaims⟩, rfl⟩
    · exact .of_none
  case refund b state pay =>
    simp only [stepCancel, Shared.over_gateway]
    cases (PaymentGateway.refund s'.gateway (pay.providerRef.getD "") pay.amount
        (pay.idempotencyKey ++ ":cancel-refund")).1 with
    | ok u => exact .of_some ⟨⟨seat, claims, rfl, hseat, hclaims⟩, rfl⟩
    | error e => exact .of_some ⟨⟨seat, claims, rfl, hseat, hclaims⟩, rfl⟩
  case finish b state refunded =>
    simp only [stepCancel, Shared.over_db, Shared.over_clock, finishCancel_over claims hseat]
    cases hfinish : finishCancel s'.db b state r.userId refunded s'.clock x.seqTaken with
    | error e => exact .of_some ⟨⟨seat, claims, rfl, hseat, hclaims⟩, rfl⟩
    | ok o =>
      obtain ⟨db, released⟩ := o
      obtain rfl : cancelledDb s'.db b state r.userId refunded s'.clock = db := by
        unfold finishCancel at hfinish
        split at hfinish
        · simp at hfinish
        · split_ifs at hfinish
          exact (Prod.mk.inj (Except.ok.inj hfinish)).1
      exact .of_some ⟨⟨_, claims, rfl,
        cancelledRows_like hseat b state r.userId refunded s'.clock, hclaims⟩, rfl⟩
  case review b state error =>
    have hreview : reviewCancel (s'.db.over seat claims) b state error x.seqTaken =
        (reviewCancel s'.db b state error x.seqTaken).map (Db.over seat claims) := by
      unfold reviewCancel
      split <;> rfl
    simp only [stepCancel, Shared.over_db, hreview]
    cases hresult : reviewCancel s'.db b state error x.seqTaken with
    | error e => exact .of_some ⟨⟨seat, claims, rfl, hseat, hclaims⟩, rfl⟩
    | ok db =>
      obtain rfl : reviewedDb s'.db b state error = db := by
        unfold reviewCancel at hresult
        split_ifs at hresult
        exact Except.ok.inj hresult
      exact .of_some ⟨⟨seat, claims, rfl, hseat, hclaims⟩, rfl⟩
  case done reply => exact .of_none

end Requests

/-! ### A service with its sweeps and one without them -/

section Worlds

variable {G : Type} {env : Env} {w w' : World (Shared G) Proc} {p : ℕ}

/-- When a sweep frees a row, every hold request overlooks it. -/
def Unnoticed (w : World (Shared G) Proc) (p : ℕ) (a : Input) : Prop :=
  match w.proc p, a with
  | .sweep (.update now), .go x => ∀ k ∈ w.shared.db.seatIds, x.missed k = false →
      sweepable now (w.shared.db.seat k) = true → ∀ q, (w.proc q).Overlooks (w.shared.db.seat k)
  | _, _ => True

/-- A row that a sweep may have freed unnoticed. -/
structure Lapsing (w : World (Shared G) Proc) (row : SeatInventory) : Prop where
  sweepable : sweepable w.shared.clock row = true
  overlooked : ∀ q, (w.proc q).Overlooks row

/-- Two worlds, of which the first has swept. -/
structure Swept (w w' : World (Shared G) Proc) : Prop where
  shared : w.shared.Alike (Lapsing w) w'.shared
  proc : ∀ q, (w.proc q).Alike w.shared.clock (w'.proc q)

/-- A row is overlooked whatever its version. -/
theorem Proc.Overlooks.atVersion {P : Proc} {row : SeatInventory} (h : P.Overlooks row) (v : ℕ) :
    P.Overlooks (row.atVersion v) := by
  cases P with
  | hold r pc => cases pc <;> exact h
  | _ => trivial

theorem lapsed_lapsing (w : World (Shared G) Proc) :
    SeatInventory.Lapsed (Lapsing w) w.shared.clock where
  sweepable _ h := h.sweepable
  atVersion _ v h := ⟨h.sweepable, fun q => (h.overlooked q).atVersion v⟩

theorem Shared.Alike.mono {L L' : SeatInventory → Prop} {s s' : Shared G} (h : s.Alike L s')
    (hL : ∀ r, L r → L' r) : s.Alike L' s' := by
  obtain ⟨seat, claims, rfl, hseat, hclaims⟩ := h
  exact ⟨seat, claims, rfl, fun k => (hseat k).mono (hL _), hclaims⟩

theorem Shared.Alike.clock_eq {L : SeatInventory → Prop} {s s' : Shared G} (h : s.Alike L s') :
    s.clock = s'.clock := by
  obtain ⟨seat, claims, rfl, -, -⟩ := h
  rfl

/-- Between two steps only rows that are pinned are locked. -/
theorem LocksPinned.free_of_unpinned (h : LocksPinned w) {k : SeatId}
    (hk : k ∈ w.shared.db.seatIds) (hfree : (w.shared.db.seat k).bookingId = none) :
    w.shared.locks k = none := by
  by_contra hlock
  obtain ⟨q, hq⟩ := Option.ne_none_iff_exists'.mp hlock
  cases hown : (w.proc q).locking? with
  | none => exact h.free q hown k hk hq
  | some b =>
    have hb := (h.pinned q b hown k hk).mp hq
    rw [hfree] at hb
    simp at hb

/-- Rows that are not in the inventory are available and pinned to nothing. -/
def Db.OffSale (db : Db) : Prop :=
  ∀ k ∉ db.seatIds, (db.seat k).status = .available ∧ (db.seat k).bookingId = none

variable [PaymentGateway G] {s s' : Shared G} {P P' : Proc} {a : Input}

/-- A request that arrives overlooks what has lapsed, and none begins to look at it. -/
theorem Step.overlooks {row : SeatInventory} (h : Step env s p P a s' P')
    (hswept : sweepable s.clock row = true) (hP : P.Overlooks row) : P'.Overlooks row := by
  cases h
  case arrive r =>
    cases r
    case createHold r =>
      refine ⟨?_, fun _ => SeatInventory.takeable_of_sweepable hswept⟩
      obtain ⟨-, ⟨e, he, hlt⟩, -⟩ := SeatInventory.sweepable_iff.mp hswept
      simp [SeatInventory.live, he, hlt.not_gt]
    all_goals trivial
  case hold h =>
    cases h
    case counts => exact hP.2
    all_goals trivial
  all_goals trivial

theorem Lapsing.next {row : SeatInventory} (h : Lapsing w row)
    (hs : Step env w.shared p (w.proc p) a s' P') :
    Lapsing ⟨s', Function.update w.proc p P'⟩ row where
  sweepable := SeatInventory.sweepable_mono h.sweepable hs.clock_le
  overlooked q := by
    rcases eq_or_ne q p with rfl | hq
    · simpa using hs.overlooks h.sweepable (h.overlooked q)
    · simpa [hq] using h.overlooked q

/-- No statement gets at the rows that are not in the inventory. -/
theorem Step.offSale (h : Step env s p P a s' P') (ho : P.Outline s) (hoff : s.db.OffSale) :
    s'.db.OffSale := by
  intro k hk
  rw [h.seatIds_eq] at hk
  obtain ⟨hstatus, hfree⟩ := hoff k hk
  have hw := h.seatWrite ho k
  generalize s'.db.seat k = row at hw
  cases hw with
  | kept => exact ⟨hstatus, hfree⟩
  | pins hmem | acquires hmem => exact absurd hmem hk
  | unpins => exact ⟨hstatus, rfl⟩
  | tickets _ hbooking => simp [hfree] at hbooking
  | returns _ hbooking => simp [hfree] at hbooking
  | releases hrel => simp [releasable, hstatus] at hrel
  | sweeps hswept => simp [sweepable, hstatus] at hswept

theorem offSale_holds {C : World (Shared G) Proc → ℕ → Input → Prop} {db : Db} {g : G}
    {clock : Time} {as : List (ℕ × Input)} (hdb : db.Initial)
    (h : (service env G).Run C (initialWorld db g clock) as w) : w.shared.db.OffSale := by
  have hboth : (outline G).Holds w ∧ w.shared.db.OffSale := by
    refine h.induct (I := fun w => (outline G).Holds w ∧ w.shared.db.OffSale)
      ⟨outline_initial hdb g clock, fun k _ => ⟨(hdb.seats k).1, (hdb.seats k).2.2.2.2⟩⟩ ?_
    rintro w₁ p a w₂ ⟨ho, hoff⟩ - hn
    refine ⟨outline_next ho hn, ?_⟩
    obtain ⟨s', P', hs, rfl⟩ := System.next_eq_some.mp hn
    exact (step_of hs).offSale (ho.own p) hoff
  exact hboth.2

/-! ### One step -/

/-- **A sweep that goes unnoticed** leaves the worlds as they were to each other. -/
theorem Swept.sweeps {now : Time} {x : Draws} (h : Swept w w')
    (hp : w.proc p = .sweep (.update now)) (hnow : now ≤ w.shared.clock)
    (hoff : w.shared.db.OffSale) (hC : Unnoticed w p (.go x))
    (hstep : Step env w.shared p (w.proc p) (.go x)
      (w.shared.withDb (sweepExpiredHolds w.shared.db now x.missed)) (.sweep .done)) :
    Swept ⟨w.shared.withDb (sweepExpiredHolds w.shared.db now x.missed),
      Function.update w.proc p (.sweep .done)⟩ w' := by
  have hnotice : ∀ k ∈ w.shared.db.seatIds, x.missed k = false →
      sweepable now (w.shared.db.seat k) = true →
        ∀ q, (w.proc q).Overlooks (w.shared.db.seat k) := by
    unfold Unnoticed at hC
    simpa only [hp] using hC
  obtain ⟨seat, claims, hs, hseat, hclaims⟩ := h.shared
  have hrow : ∀ k, w.shared.db.seat k = seat k := fun k => by rw [hs]; rfl
  have hkept : ∀ r, Lapsing w r →
      Lapsing ⟨w.shared.withDb (sweepExpiredHolds w.shared.db now x.missed),
        Function.update w.proc p (.sweep .done)⟩ r := fun r hr => hr.next hstep
  refine ⟨⟨(sweepExpiredHolds w.shared.db now x.missed).seat, claims, ?_, fun k => ?_, hclaims⟩,
    fun q => ?_⟩
  · rw [hs]
    rfl
  · have hlike := (hseat k).mono (hkept _)
    rw [← hrow] at hlike
    rw [sweepExpiredHolds_seat]
    split
    · next hcond =>
      obtain ⟨hmissed, hswept⟩ := hcond
      have hk : k ∈ w.shared.db.seatIds := by
        by_contra hk
        have hstatus := (hoff k hk).1
        simp [sweepable, hstatus] at hswept
      rcases hlike with ⟨v, hv⟩ | ⟨-, v, hv⟩
      · -- the row of the other run has lapsed too, and is overlooked as this one is
        have hoverlooked := hnotice k hk hmissed hswept
        rw [hv] at hswept hoverlooked ⊢
        exact .inr ⟨hkept _ ⟨SeatInventory.sweepable_mono hswept hnow, fun q =>
          (hoverlooked q).atVersion (w'.shared.db.seat k).version⟩, v + 1, rfl⟩
      · rw [hv] at hswept
        simp [sweepable, SeatInventory.freed, SeatInventory.atVersion] at hswept
    · exact hlike
  · show Proc.Alike w.shared.clock (Function.update w.proc p (.sweep .done) q) (w'.proc q)
    rcases eq_or_ne q p with rfl | hq
    · have hidle := h.proc q
      rw [hp] at hidle
      rw [Function.update_self]
      cases hrest : w'.proc q with
      | idle => exact .sweep .done
      | _ => rw [hrest] at hidle; cases hidle
    · simpa [hq] using h.proc q

/-- What the run without the sweeps does where the other does `a`: a sweep is left out, and a
DELETE whose hold was swept goes on to release it. -/
inductive WithoutSweeps (w : World (Shared G) Proc) (p : ℕ) : Input → List (ℕ × Input) → Prop
  | arrives : WithoutSweeps w p (.arrive .sweep) []
  | sweeps {a : Input} {pc : SweepPc} (hp : w.proc p = .sweep pc) : WithoutSweeps w p a []
  | same {a : Input} (ha : a ≠ .arrive .sweep) (hp : ∀ pc, w.proc p ≠ .sweep pc) :
      WithoutSweeps w p a [(p, a)]
  | releases {a : Input} {r : ReleaseRequest} (hp : w.proc p = .release r .load)
      (hgone : ownedHold w.shared.db r.holdId r.userId = none) :
      WithoutSweeps w p a [(p, a), (p, a)]

/-- A step that both make. -/
theorem Swept.both {s₁ s₁' : Shared G} {P₁ P₁' : Proc} (h : Swept w w')
    (hstep : Step env w.shared p (w.proc p) a s₁ P₁)
    (hs' : step env w'.shared p (w'.proc p) a = some (s₁', P₁'))
    (hshared : s₁.Alike (Lapsing w) s₁') (hproc : P₁.Alike w.shared.clock P₁') :
    ∃ w₁', (service env G).next w' p a = some w₁' ∧
      Swept ⟨s₁, Function.update w.proc p P₁⟩ w₁' := by
  refine ⟨_, System.next_eq_some.mpr ⟨_, _, hs', rfl⟩,
    hshared.mono fun r hr => hr.next hstep, fun q => ?_⟩
  rcases eq_or_ne q p with rfl | hq
  · simpa using hproc.mono hstep.clock_le
  · simpa [hq] using (h.proc q).mono hstep.clock_le

/-- Where two steps of a process lead is alike. -/
structure InStep {G : Type} (L : SeatInventory → Prop) (now : Time) (o o' : Shared G × Proc) :
    Prop where
  shared : o.1.Alike L o'.1
  proc : o.2.Alike now o'.2

omit [PaymentGateway G] in
/-- What a handler does is what its process does. -/
theorem matched_handler {L : SeatInventory → Prop} {now : Time} {α : Type} {f : α → Proc}
    {R : Shared G × α → Shared G × α → Prop} {o o' : Option (Shared G × α)} (h : Matched R o o')
    (hR : ∀ x y, R x y → x.1.Alike L y.1 ∧ (f x.2).Alike now (f y.2)) :
    Matched (InStep L now) (o.map fun x => (x.1, f x.2)) (o'.map fun x => (x.1, f x.2)) :=
  (h.mono fun x y hxy => ⟨(hR x y hxy).1, (hR x y hxy).2⟩).map

/-- **Every step but a sweep over like rows**: the other run makes it too, or it is a DELETE that
did not find its hold, which the other run finds and releases. -/
theorem step_alike {L : SeatInventory → Prop} {o : Shared G × Proc}
    (hL : SeatInventory.Lapsed L s'.clock) (hs : s.Alike L s') (hP : P.Alike s'.clock P')
    (ht : Tables s') (ha : HoldsApart s') (ho : P'.Outline s')
    (hfree : ∀ k ∈ s.db.seatIds, (s.db.seat k).bookingId = none → s.locks k = none)
    (hown : ∀ row, L row → P.Overlooks row) (hsweep : ∀ pc, P ≠ .sweep pc)
    (harrive : a ≠ .arrive .sweep) (h : step env s p P a = some o) :
    (∃ o', step env s' p P' a = some o' ∧ InStep L s'.clock o o') ∨
    ∃ r s₁', P = .release r .load ∧ ownedHold s.db r.holdId r.userId = none ∧
      o = (s, .release r (.done (.problem (.notFound "No such hold")))) ∧
      step env s' p P' a = some (s', .release r .update) ∧
      step env s' p (.release r .update) a =
        some (s₁', .release r (.done (.json 204 .null false))) ∧ s.Alike L s₁' := by
  have hclock := hs.clock_eq
  cases hP with
  | idle =>
    obtain ⟨seat, claims, hs₀, hseat, hclaims⟩ := hs
    refine .inl ?_
    cases a with
    | tick d =>
      obtain rfl := Option.some.inj h
      refine ⟨_, rfl, ⟨seat, claims, ?_, hseat, hclaims⟩, .idle⟩
      rw [hs₀]
      rfl
    | arrive r =>
      obtain rfl := Option.some.inj h
      refine ⟨_, rfl, ⟨seat, claims, hs₀, hseat, hclaims⟩, ?_⟩
      rw [hclock]
      cases r with
      | createBooking r => exact .booking r (.refl _ fun _ => rfl)
      | createHold r => exact .hold r _
      | deleteHold r => exact .release r _
      | cancelBooking r => exact .cancel r _
      | sweep => exact absurd rfl harrive
    | go x => simp [step] at h
  | booking r hpc =>
    cases a with
    | go x =>
      exact .inl (matched_handler (stepBooking_alike hL hs hpc ht ha ho hfree)
        (fun _ _ halike => ⟨halike.shared, .booking r halike.pc⟩) o h)
    | _ => simp [step] at h
  | hold r pc =>
    cases a with
    | go x =>
      exact .inl (matched_handler (stepHold_alike hL hs hown) (fun _ _ halike => halike) o h)
    | _ => simp [step] at h
  | granted r k hrow => cases a <;> simp [step, stepHold] at h
  | release r pc =>
    cases a with
    | go x =>
      cases pc with
      | load =>
        rcases releaseLoad_alike (p := p) (r := r) hL hs ha hfree with
          ⟨pc₁, hload, hload'⟩ | ⟨hgone, hload, hload', s₁', hupdate, halike⟩
        · obtain rfl : (s, .release r pc₁) = o := by simpa [step, hload] using h
          exact .inl ⟨(s', .release r pc₁), by simp [step, hload'], hs, .release r pc₁⟩
        · exact .inr ⟨r, s₁', rfl, hgone, by simpa [step, hload, eq_comm] using h,
            by simp [step, hload'], by simp [step, hupdate], halike⟩
      | update =>
        exact .inl (matched_handler (releaseUpdate_alike hL hs hfree) (fun _ _ halike => halike)
          o h)
      | done reply => simp [step, stepRelease] at h
    | _ => simp [step] at h
  | released r d => cases a <;> simp [step, stepRelease] at h
  | cancel r pc =>
    cases a with
    | go x =>
      exact .inl (matched_handler (stepCancel_alike hs)
        (fun y _ halike => ⟨halike.1, halike.2 ▸ .cancel r y.2⟩) o h)
    | _ => simp [step] at h
  | sweep pc => exact absurd rfl (hsweep pc)

/-- **One step** of the service with its sweeps, and what the service without them answers. -/
theorem Swept.next {w₁ : World (Shared G) Proc} (h : Swept w w') (hlocks : LocksPinned w)
    (hoff : w.shared.db.OffSale) (htime : Timely w.shared.clock (w.proc p))
    (ho : (outline G).Holds w') (ha : HoldsApart w'.shared) (hC : Unnoticed w p a)
    (hn : (service env G).next w p a = some w₁) :
    ∃ cs w₁', WithoutSweeps w p a cs ∧
      (service env G).Run (fun _ _ _ => True) w' cs w₁' ∧ Swept w₁ w₁' := by
  obtain ⟨s₁, P₁, hs, rfl⟩ := System.next_eq_some.mp hn
  have hstep := step_of hs
  have hL : SeatInventory.Lapsed (Lapsing w) w'.shared.clock :=
    h.shared.clock_eq ▸ lapsed_lapsing w
  by_cases hsweep : ∃ pc, w.proc p = .sweep pc
  · -- the sweep itself
    obtain ⟨pc, hp⟩ := hsweep
    refine ⟨[], w', .sweeps hp, .nil, ?_⟩
    rw [hp] at htime
    have hsweeps := hp ▸ hstep
    cases hsweeps with
    | sweep hsweeps => cases hsweeps; exact h.sweeps hp htime hoff hC hstep
  push Not at hsweep
  by_cases harrive : a = .arrive .sweep
  · -- its arrival
    subst harrive
    obtain ⟨hidle, rfl, rfl⟩ : w.proc p = .idle ∧ w.shared = s₁ ∧
        (.sweep (.update w.shared.clock)) = P₁ := by
      generalize w.proc p = P at hs
      cases P with
      | idle => exact ⟨rfl, Prod.mk.inj (Option.some.inj hs)⟩
      | _ => simp [service, step] at hs
    refine ⟨[], w', .arrives, .nil, h.shared.mono fun r hr => hr.next hstep, fun q => ?_⟩
    show Proc.Alike w.shared.clock (Function.update w.proc p _ q) (w'.proc q)
    rcases eq_or_ne q p with rfl | hq
    · have hproc := h.proc q
      rw [hidle] at hproc
      rw [Function.update_self]
      cases hrest : w'.proc q with
      | idle => exact .sweep _
      | _ => rw [hrest] at hproc; cases hproc
    · simpa [hq] using h.proc q
  rcases step_alike hL h.shared (h.shared.clock_eq ▸ h.proc p) ho.shared ha (ho.own p)
    (fun k hk => hlocks.free_of_unpinned hk) (fun r hr => hr.overlooked p) hsweep harrive hs with
    ⟨o', hs', halike, hproc⟩ | ⟨r, s₁', hp, hgone, heq, hload, hupdate, halike⟩
  · rw [← h.shared.clock_eq] at hproc
    obtain ⟨w₁', hn', hswept⟩ := h.both hstep hs' halike hproc
    exact ⟨_, w₁', .same harrive hsweep, .cons trivial hn' .nil, hswept⟩
  · -- a DELETE that goes on
    obtain ⟨rfl, rfl⟩ := Prod.mk.inj heq
    have hfirst : (service env G).next w' p a =
        some ⟨w'.shared, Function.update w'.proc p (.release r .update)⟩ :=
      System.next_eq_some.mpr ⟨_, _, hload, rfl⟩
    have hsecond : (service env G).next
        ⟨w'.shared, Function.update w'.proc p (.release r .update)⟩ p a =
          some ⟨s₁', Function.update w'.proc p (.release r (.done (.json 204 .null false)))⟩ := by
      refine System.next_eq_some.mpr ⟨_, _, ?_, by rw [Function.update_idem]⟩
      show step env w'.shared p (Function.update w'.proc p _ p) a = _
      rw [Function.update_self]
      exact hupdate
    refine ⟨_, _, .releases hp hgone, .cons trivial hfirst (.cons trivial hsecond .nil),
      halike.mono fun r hr => hr.next hstep, fun q => ?_⟩
    rcases eq_or_ne q p with rfl | hq
    · simpa using .released r _
    · simpa [hq] using h.proc q

end Worlds

/-! ### What can be observed -/

/-- The public queries answer alike over two databases, whatever order each leaves rows in. -/
structure SameListings (t : Timetable) (db db' : Db) (now : Time) : Prop where
  search : ∀ q page size (order : OrderBy SearchRow.departAt (searchRows t db q now)),
    ∃ order' : OrderBy SearchRow.departAt (searchRows t db' q now), order'.list = order.list ∧
      searchFlights t db' q now order' page size = searchFlights t db q now order page size
  detail : ∀ f, getFlight t db' f now = getFlight t db f now
  map : ∀ f (order : OrderBy db.place (db.seatsOfFlight f)),
    ∃ order' : OrderBy db'.place (db'.seatsOfFlight f), order'.list = order.list ∧
      seatMap t db' f now order' = seatMap t db f now order

/-- The status code a request was answered with. -/
def Proc.told? : Proc → Option ℕ
  | .booking _ (.done reply _) | .release _ (.done reply) | .cancel _ (.done reply) =>
    some reply.status
  | .hold _ (.granted _ _) => some 201
  | .hold _ (.refused e) => some e.statusCode
  | _ => none

/-- Two worlds that nobody can tell apart, but for a 404 in place of a 409 or a 204. -/
structure Unobserved {G : Type} (w w' : World (Shared G) Proc) : Prop where
  /-- The clock, the bookings, passengers, payments, tickets and audit rows, the locks, the
  gateway and its calls are the same: all but the seat rows and the claims. -/
  rest : w.shared = w'.shared.over w.shared.db.seat w.shared.db.claims
  seats : ∀ k, (w.shared.db.seat k).normal w.shared.clock =
    (w'.shared.db.seat k).normal w.shared.clock
  claims : ClaimsAlike w.shared.db.claims w'.shared.db.claims
  listings : ∀ t, SameListings t w.shared.db w'.shared.db w.shared.clock
  requests : ∀ q, (w.proc q).Alike w.shared.clock (w'.proc q)
  statuses : ∀ q, (w.proc q).told? = (w'.proc q).told? ∨ (w.proc q).told? = some 404 ∧
    ((w'.proc q).told? = some 409 ∨
      (w'.proc q).told? = some 204 ∧ ∃ r pc, w'.proc q = .release r pc)

/-- What has lapsed is free, swept or not. -/
theorem sameListings_of_like {G : Type} {L : SeatInventory → Prop} {s s' : Shared G}
    (hL : SeatInventory.Lapsed L s'.clock) (hs : s.Alike L s') (t : Timetable) :
    SameListings t s.db s'.db s.clock := by
  obtain ⟨seat, claims, rfl, hseat, -⟩ := hs
  have htake : ∀ k, takeable (seat k) s'.clock = takeable (s'.db.seat k) s'.clock := fun k =>
    (hseat k).takeable fun hl => SeatInventory.takeable_of_sweepable (hL.sweepable _ hl)
  have hflight : ∀ k, (seat k).flightId = (s'.db.seat k).flightId := fun k => by
    rcases hseat k with ⟨v, hv⟩ | ⟨-, v, hv⟩ <;> rw [hv] <;> rfl
  have hplace : (s'.db.over seat claims).place = s'.db.place := funext fun k => by
    show toLex ((seat k).rowNo, (seat k).seatLetter) = _
    rcases hseat k with ⟨v, hv⟩ | ⟨-, v, hv⟩ <;> rw [hv] <;> rfl
  have hseats : ∀ f, (s'.db.over seat claims).seatsOfFlight f = s'.db.seatsOfFlight f := fun f => by
    simp only [Db.seatsOfFlight, Db.over_seatIds, Db.over_seat, hflight]
  have hrows : ∀ q, searchRows t (s'.db.over seat claims) q s'.clock =
      searchRows t s'.db q s'.clock := fun q => by
    simp only [searchRows, availability, hseats, Db.over_seatIds, Db.over_seat, hflight, htake]
  have hresponse : seatResponse t (s'.db.over seat claims) s'.clock =
      seatResponse t s'.db s'.clock := funext fun k => by
    simp only [seatResponse, Db.over_seat, htake]
    rcases hseat k with ⟨v, hv⟩ | ⟨-, v, hv⟩ <;> rw [hv] <;> rfl
  refine ⟨fun q page size order => ?_, fun f => ?_, fun f order => ?_⟩
  · exact ⟨⟨order.list, hrows q ▸ order.perm, order.sorted⟩, rfl, rfl⟩
  · simp only [getFlight, Shared.over_db, Shared.over_clock, Db.over_seatIds, Db.over_seat, hflight,
      htake]
  · refine ⟨⟨order.list, hseats f ▸ order.perm, hplace ▸ order.sorted⟩, rfl, ?_⟩
    simp only [seatMap, Shared.over_db, Shared.over_clock, hresponse]

theorem Reply.Alike.status {reply reply' : Reply} (h : reply.Alike reply') :
    reply.status = reply'.status ∨ reply.status = 404 ∧ reply'.status = 409 := by
  cases h with
  | same => exact .inl rfl
  | overtaken h => cases h; exact .inr ⟨rfl, rfl⟩
  | replayed h => cases h; exact .inr ⟨rfl, rfl⟩

theorem Proc.Alike.status {now : Time} {P P' : Proc} (h : P.Alike now P') :
    P.told? = P'.told? ∨ P.told? = some 404 ∧ (P'.told? = some 409 ∨
      P'.told? = some 204 ∧ ∃ r pc, P' = .release r pc) := by
  cases h with
  | @booking r pc pc' hpc =>
    cases hpc with
    | atVersions v => cases pc' <;> exact .inl rfl
    | selects | commits => exact .inl rfl
    | done hreply b =>
      rcases hreply.status with heq | ⟨heq, heq'⟩
      · exact .inl (congrArg some heq)
      · exact .inr ⟨congrArg some heq, .inl (congrArg some heq')⟩
  | released r d => exact .inr ⟨rfl, .inr ⟨rfl, r, _, rfl⟩⟩
  | _ => exact .inl rfl

theorem Swept.unobserved {G : Type} {w w' : World (Shared G) Proc} (h : Swept w w') :
    Unobserved w w' := by
  have hclock := h.shared.clock_eq
  have hL : SeatInventory.Lapsed (Lapsing w) w'.shared.clock := hclock ▸ lapsed_lapsing w
  refine ⟨?_, ?_, ?_, sameListings_of_like hL h.shared, h.proc, fun q => (h.proc q).status⟩ <;>
    obtain ⟨seat, claims, hs, hseat, hclaims⟩ := h.shared
  · rw [hs]
    rfl
  · intro k
    rw [hclock, hs]
    exact (hseat k).normal_eq hL
  · rw [hs]
    exact hclaims

/-- What a sweep needs of the processes below `n`. -/
def UnnoticedBelow {G : Type} (n : ℕ) (w : World (Shared G) Proc) (p : ℕ) (a : Input) : Prop :=
  match w.proc p, a with
  | .sweep (.update now), .go x => ∀ k ∈ w.shared.db.seatIds, x.missed k = false →
      sweepable now (w.shared.db.seat k) = true →
        ∀ q < n, (w.proc q).Overlooks (w.shared.db.seat k)
  | _, _ => True

instance (row : SeatInventory) (P : Proc) : Decidable (P.Overlooks row) := by
  induction P using Proc.casesOn with
  | hold r pc =>
    induction pc using HoldPc.casesOn <;> unfold Proc.Overlooks <;> infer_instance
  | _ => unfold Proc.Overlooks; infer_instance

instance {G : Type} (n : ℕ) (w : World (Shared G) Proc) (p : ℕ) (a : Input) :
    Decidable (UnnoticedBelow n w p a) := by
  unfold UnnoticedBelow
  generalize w.proc p = P
  induction P using Proc.casesOn with
  | sweep pc =>
    induction pc using SweepPc.casesOn <;> induction a using Input.casesOn <;> infer_instance
  | _ => infer_instance

/-- Among the processes below `n`, the others overlook everything. -/
theorem unnoticed_of_below {G : Type} [PaymentGateway G] {env : Env} {n : ℕ} {db : Db} {g : G}
    {clock : Time} {w : World (Shared G) Proc} {as : List (ℕ × Input)}
    (h : (service env G).Run (fun w p a => p < n ∧ UnnoticedBelow n w p a)
      (initialWorld db g clock) as w) :
    (service env G).Run Unnoticed (initialWorld db g clock) as w := by
  refine h.of_below .idle (fun _ _ => rfl) fun w₁ p a hidle hC => ?_
  unfold UnnoticedBelow at hC
  unfold Unnoticed
  split at hC
  · intro k hk hmissed hswept q
    rcases lt_or_ge q n with hq | hq
    · exact hC k hk hmissed hswept q hq
    · simp [hidle q hq, Proc.Overlooks]
  · trivial

/-- Two holds lapse and are swept.  The one user still releases, the other still books, and a
third takes the seat of the second. -/
def lapsedHolds : List (ℕ × Input) :=
  asks 0 (.createHold ⟨10, 7, "1A"⟩) 3 (.calm 0) ++
    asks 1 (.createHold ⟨20, 7, "2A"⟩) 3 (.calm 1) ++ waits 2 (seconds 601) ++
    asks 2 .sweep 1 (.calm 2) ++ asks 3 (.deleteHold ⟨10, 0⟩) 1 (.calm 3) ++
    asks 4 (.createBooking ⟨20, "key-of-bob-00000001", soloBody 1 "tok_test_aaaa11110000"⟩) 6
      (.calm 4) ++
    asks 5 (.createHold ⟨30, 7, "2A"⟩) 3 (.calm 5)

/-- A request for a seat begins at the instant its hold expires, and the sweep comes in before
the UPDATE. -/
def sweptBetween : List (ℕ × Input) :=
  asks 0 (.createHold ⟨10, 7, "1A"⟩) 3 (.calm 0) ++ waits 1 (seconds 600) ++
    asks 2 (.createHold ⟨20, 7, "1A"⟩) 1 (.calm 1) ++ waits 1 (seconds 1) ++
    asks 3 .sweep 1 (.calm 2) ++ moves 2 1 (.calm 3)

end SkyLock
