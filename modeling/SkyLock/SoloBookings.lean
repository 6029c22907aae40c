import SkyLock.FailureMatrix

/-!
# Bookings nobody disturbs

A request that no other runs beside, from step 1 to its reply, from any state the
service can be in.  The fake gateway answers it as the card asks for, so the trigger
decides how it ends; whether that is the end the failure matrix names is another matter.

## Main definitions

* `HoldsApart` — hold ids tell the seats apart.
* `Course` — where a request is that runs alone.

## Main results

* `failure_matrix_iff` — **a booking nobody disturbs ends as the matrix says exactly
  where it is `Matrixed`**.
* `refund_failure_confirmed` — a card that asks for a refund failure is charged.
-/

namespace SkyLock

open Concurrent

variable {env : Env} {s₀ s s' : Shared FakePaymentGateway} {p : ℕ} {r : BookingRequest}
  {d : SoloDraws}

/-! ### The holds of a request -/

section Holds

variable {G : Type} [PaymentGateway G] {t t' : Shared G} {P P' : Proc} {a : Input}

/-- A hold id is a UUID drawn before, and on one seat only. -/
structure HoldsApart (t : Shared G) : Prop where
  lt : ∀ k h, (t.db.seat k).holdId = some h → h < t.uuid
  inj : ∀ k k' h, (t.db.seat k).holdId = some h → (t.db.seat k').holdId = some h → k = k'

/-- A step leaves a hold id as it is or clears it, or gives a new one to the one seat it
acquires. -/
theorem Step.holdId_cases (h : Step env t p P a t' P') (ho : P.Outline t) (k : SeatId) :
    (t'.db.seat k).holdId = (t.db.seat k).holdId ∨ (t'.db.seat k).holdId = none ∨
      (t'.db.seat k).holdId = some t.uuid ∧ t.uuid < t'.uuid ∧ ∃ r, P' = .hold r (.refresh k) := by
  have hw := h.seatWrite ho k
  generalize t'.db.seat k = row at hw
  cases hw with
  | kept | pins | unpins => exact .inl rfl
  | tickets | returns | releases | sweeps => exact .inr (.inl rfl)
  | @acquires r now =>
    refine .inr (.inr ⟨rfl, ?_, r, rfl⟩)
    cases h with
    | hold h =>
      cases h
      exact Nat.lt_succ_self t.uuid

theorem Step.holdsApart (h : Step env t p P a t' P') (ho : P.Outline t) (ha : HoldsApart t) :
    HoldsApart t' := by
  have hcases := h.holdId_cases ho
  refine ⟨fun k hold hk => ?_, fun k k' hold hk hk' => ?_⟩
  · rcases hcases k with heq | heq | ⟨heq, hlt, -⟩
    · exact (ha.lt k hold (heq.symm.trans hk)).trans_le h.uuid_le
    · rw [heq] at hk
      simp at hk
    · obtain rfl := Option.some.inj (heq.symm.trans hk)
      exact hlt
  · have hold_lt : ∀ {j}, (t'.db.seat j).holdId = (t.db.seat j).holdId →
        (t'.db.seat j).holdId = some hold → hold < t.uuid :=
      fun heq hj => ha.lt _ hold (heq.symm.trans hj)
    rcases hcases k with heq | heq | ⟨heq, -, r, hr⟩
    · rcases hcases k' with heq' | heq' | ⟨heq', -⟩
      · exact ha.inj k k' hold (heq.symm.trans hk) (heq'.symm.trans hk')
      · rw [heq'] at hk'
        simp at hk'
      · have hlt := hold_lt heq hk
        rw [Option.some.inj (hk'.symm.trans heq')] at hlt
        exact absurd hlt (Nat.lt_irrefl _)
    · rw [heq] at hk
      simp at hk
    · rcases hcases k' with heq' | heq' | ⟨-, -, r', hr'⟩
      · have hlt := hold_lt heq' hk'
        rw [Option.some.inj (hk.symm.trans heq)] at hlt
        exact absurd hlt (Nat.lt_irrefl _)
      · rw [heq'] at hk'
        simp at hk'
      · -- the one seat this step acquires
        obtain ⟨-, hsame⟩ : r = r' ∧ k = k' := by simpa using hr.symm.trans hr'
        exact hsame

/-- Hold ids tell the seats apart in every reachable world. -/
theorem holdsApart_holds {C : World (Shared G) Proc → ℕ → Input → Prop} {db : Db} {g : G}
    {clock : Time} {w : World (Shared G) Proc} {as : List (ℕ × Input)} (hdb : db.Initial)
    (h : (service env G).Run C (initialWorld db g clock) as w) : HoldsApart w.shared := by
  have hboth : (outline G).Holds w ∧ HoldsApart w.shared := by
    refine h.induct (I := fun w => (outline G).Holds w ∧ HoldsApart w.shared)
      ⟨outline_initial hdb g clock, ?_⟩ ?_
    · have hnone : ∀ k, (db.seat k).holdId = none := fun k => (hdb.seats k).2.2.1
      constructor <;> simp [initialWorld, hnone]
    · rintro w₁ q a w₂ ⟨hw, ha⟩ - hn
      refine ⟨outline_next hw hn, ?_⟩
      obtain ⟨s', P', hs, rfl⟩ := System.next_eq_some.mp hn
      exact (step_of hs).holdsApart (hw.own q) ha
  exact hboth.2

end Holds

/-- The SELECT of step 1 finds the seats of live holds, one for each. -/
theorem LiveHolds.locked {f : FlightId} (h : LiveHolds s r f) (ht : Tables s) (ha : HoldsApart s)
    (hpnr : (uniquePnr s.db d.pnr).isSome) (htotal : Numeric (r.totalIn s.db)) :
    stepOnePins s.db s.clock r.userId r.payload d.pnr false = true := by
  have hmem : ∀ i ∈ lockSeatsForHolds s.db r.payload.holdIds r.userId, i.row = s.db.seat i.id :=
    fun i hi => (mem_lockSeatsForHolds hi).2.1
  -- one row for each hold, and none besides
  have hholds : ((lockSeatsForHolds s.db r.payload.holdIds r.userId).map
      fun i => i.row.holdId).Perm (r.payload.holdIds.map some) := by
    refine (List.perm_ext_iff_of_nodup ?_ ?_).mpr fun hold => ?_
    · refine List.Nodup.map_on (fun i hi j hj heq => ?_) (nodup_locked ht _ _).of_map
      obtain ⟨hid, -, ⟨hold, -, hhold⟩, -⟩ := mem_lockSeatsForHolds hi
      have hsame : i.id = j.id := by
        refine ha.inj i.id j.id hold ?_ ?_
        · rw [← hmem i hi]
          exact hhold
        · rw [← hmem j hj, ← heq]
          exact hhold
      exact List.inj_on_of_nodup_map (nodup_locked ht _ _) hi hj hsame
    · exact r.payload.holds_nodup.map (Option.some_injective _)
    · simp only [List.mem_map]
      constructor
      · rintro ⟨i, hi, rfl⟩
        obtain ⟨-, -, ⟨hold, hin, hhold⟩, -⟩ := mem_lockSeatsForHolds hi
        exact ⟨hold, hin, hhold.symm⟩
      · rintro ⟨hold, hin, rfl⟩
        obtain ⟨k, hk, hhold, hholder, -⟩ := h.held hold hin
        refine ⟨⟨k, s.db.seat k⟩, ?_, hhold⟩
        refine List.mem_map.mpr ⟨k, List.mem_filter.mpr ⟨hk, ?_⟩, rfl⟩
        simp [hhold, hholder, hin]
  have hlive : expiredSeats (lockSeatsForHolds s.db r.payload.holdIds r.userId) s.clock = [] := by
    refine List.filter_eq_nil_iff.mpr fun i hi => ?_
    obtain ⟨-, hrow, ⟨hold, hin, hhold⟩, -⟩ := mem_lockSeatsForHolds hi
    obtain ⟨k, -, hhold', -, hk, -⟩ := h.held hold hin
    rw [hrow] at hhold
    obtain rfl := ha.inj k i.id hold hhold' hhold
    rw [hrow]
    simp only [holdIsLive, Bool.and_eq_true, beq_iff_eq, Option.any_eq_true,
      decide_eq_true_eq] at hk
    obtain ⟨hstatus, e, he, hlt⟩ := hk
    simpa [secondsLeft, he, hstatus] using hlt
  have hids : ((lockSeatsForHolds s.db r.payload.holdIds r.userId).map
      fun i => i.row.flightId).dedup = [f] := by
    have hlength := hholds.length_eq
    simp only [List.length_map] at hlength
    -- all of them on the flight
    have hall : (lockSeatsForHolds s.db r.payload.holdIds r.userId).map (fun i => i.row.flightId) =
        List.replicate r.payload.holdIds.length f := by
      refine List.eq_replicate_iff.mpr ⟨by simpa using hlength, fun x hx => ?_⟩
      obtain ⟨i, hi, rfl⟩ := List.mem_map.mp hx
      obtain ⟨-, hrow, ⟨hold, hin, hhold⟩, -⟩ := mem_lockSeatsForHolds hi
      obtain ⟨k, -, hhold', -, -, hon⟩ := h.held hold hin
      rw [hrow] at hhold ⊢
      obtain rfl := ha.inj k i.id hold hhold' hhold
      exact hon
    rw [hall, List.replicate_dedup (Nat.pos_iff_ne_zero.mp r.payload.holds_nonempty)]
  have hlength := hholds.length_eq
  simp only [List.length_map] at hlength
  unfold BookingRequest.totalIn at htotal
  simp [stepOnePins, hlength, hlive, hids, h.flight, hpnr, htotal]

/-! ### The whole run -/

/-- The steps a request has left at most, once it has opened its booking. -/
def BookingPc.toGo : BookingPc → ℕ
  | .done _ _ => 0
  | .completeCommit _ _ | .release _ _ => 1
  | pc => pc.left + 2

theorem BookingPc.toGo_le (pc : BookingPc) : pc.toGo ≤ pc.left + 2 := by
  cases pc <;> simp [toGo]

theorem BookingPc.toGo_of_saga? {pc : BookingPc} (h : pc.saga?.isSome) : pc.toGo = pc.left + 2 := by
  cases pc <;> first
    | rfl
    | simp [saga?] at h

theorem BookingStep.toGo_lt {pc pc' : BookingPc} (h : BookingStep env s p r d.draws pc s' pc')
    (hat : Reached s₀ s r d pc) : pc'.toGo < pc.toGo := by
  by_cases hrun : pc.saga?.isSome
  · have hlt := h.left_lt hrun
    have hle := pc'.toGo_le
    rw [BookingPc.toGo_of_saga? hrun]
    omega
  · cases h
    case finds | findsNothing | completes | completesNothing | releases =>
      simp [BookingPc.toGo, BookingPc.left]
    case deletes | deletesNothing | inserts | insertsNothing | claims | clears | yields | replays
      | rejects | opens | opensNothing => exact hat.elim
    all_goals exact absurd rfl hrun

theorem BookingStep.claimFree {x : Draws} {pc pc' : BookingPc}
    (h : BookingStep env s p r x pc s' pc') (hclaim : s.claimFree p r.claimKey = true) :
    s'.claimFree p r.claimKey = true := by
  cases h
  case deletes | inserts | claims | clears | completes | releases =>
    simp [Shared.claimFree, Shared.lockClaim, Shared.setClaim]
  all_goals exact hclaim

/-- Where a request that runs alone is, having begun step 1 in `s₀`. -/
structure Course (s₀ : Shared FakePaymentGateway) (p : ℕ) (r : BookingRequest) (d : SoloDraws)
    (s : Shared FakePaymentGateway) (pc : BookingPc) : Prop where
  tables : Tables s
  outline : (Proc.booking r pc).Outline s
  alone : pc.Alone s
  free : s.UnlockedFor p
  claim : s.claimFree p r.claimKey = true
  reached : Reached s₀ s r d pc

theorem BookingPc.alone_of_ended {pc : BookingPc} (h : pc.saga? = none) : pc.Alone s := by
  cases pc <;> trivial

/-- The next statement of a request is on its course. -/
theorem Course.step {pc pc' : BookingPc} (hc : Course s₀ p r d s pc)
    (hfresh : FreshCharge s₀.gateway r) (h : BookingStep env s p r d.draws pc s' pc') :
    Course s₀ p r d s' pc' := by
  have hstep : Step env s p (.booking r pc) (.go d.draws) s' (.booking r pc') := .booking h
  have ho : ∀ b, pc.booking? = some b → pc.Outline r b (s.view b) := fun b hb =>
    (hc.outline b hb).2
  refine ⟨hstep.tables hc.tables hc.outline, hstep.mover hc.tables hc.outline, ?_,
    h.unlockedFor hc.free, h.claimFree hc.claim,
    h.reached hc.tables ho hc.alone hfresh hc.reached⟩
  by_cases hrun : pc.saga?.isSome
  · exact h.alone ho hc.alone hrun
  · have hat := hc.reached
    cases h
    case finds | findsNothing | completes | completesNothing | releases =>
      exact BookingPc.alone_of_ended rfl
    case deletes | deletesNothing | inserts | insertsNothing | claims | clears | yields | replays
      | rejects | opens | opensNothing => exact hat.elim
    all_goals exact absurd rfl hrun

/-- What a request has done stays done while time passes. -/
theorem Reached.tick {pc : BookingPc} (h : Reached s₀ s r d pc) (clock : Time) :
    Reached s₀ { s with clock := clock } r d pc := by
  have hopened : ∀ {σ}, Opened s₀ s r d σ → Opened s₀ { s with clock := clock } r d σ :=
    fun hop => hop.congr rfl rfl rfl rfl rfl rfl
  have happroved : Approved s₀ s r d → Approved s₀ { s with clock := clock } r d :=
    fun happ => ⟨happ.toCharging, happ.trigger, happ.authorizations⟩
  have hsold : ∀ {σ}, Sold s₀ s r d σ → Sold s₀ { s with clock := clock } r d σ := fun hsold =>
    ⟨happroved hsold.toApproved, hsold.booking, hsold.ref, hsold.total, hsold.issued,
      hsold.ticketable, hsold.unknownFirst, hsold.seats, hsold.passengers, hsold.tickets⟩
  have huncalled : Uncalled s₀ s → Uncalled s₀ { s with clock := clock } :=
    fun hun => ⟨hun.gateway, hun.calls⟩
  have htimedOut : TimedOut s₀ s r → TimedOut s₀ { s with clock := clock } r :=
    fun hout => ⟨hout.trigger, hout.authorizations, hout.nextRef, hout.asked⟩
  cases pc with
  | assess σ => exact ⟨hopened h.1, huncalled h.2⟩
  | failSelect σ f | failCommit σ f rows =>
    refine ⟨hopened h.1, h.2.imp (fun hb => ?_) fun hd => ?_⟩
    · exact ⟨huncalled hb.toUncalled, hb.decision, hb.failure⟩
    · exact ⟨hd.toCharging, hd.trigger, hd.authorizations, hd.status, hd.payment, hd.writable⟩
  | createPayment σ => exact ⟨hopened h.1, h.2.1, huncalled h.2.2⟩
  | authorize σ pay => exact ⟨hopened h.1, h.2.1, huncalled h.2.2⟩
  | journalUnknown σ pay => exact ⟨hopened h.1, h.2.1, htimedOut h.2.2⟩
  | retryAuthorize σ pay => exact ⟨hopened h.1, h.2.1, htimedOut h.2.2.1, h.2.2.2⟩
  | recordAuthorized σ pay result => exact ⟨hopened h.1, happroved h.2.1, h.2.2⟩
  | issueTickets σ pay => exact ⟨hopened h.1, happroved h.2.1, h.2.2⟩
  | reverse σ pay reason | finishVoided σ pay reason =>
    exact ⟨hopened h.1, happroved h.2.1, h.2.2⟩
  | capture σ pay | confirm σ pay => exact hsold h
  | refresh σ => exact ⟨hsold h.1, h.2⟩
  | completeSelect o b => exact followsMatrix_congr.trans h
  | completeCommit o b => exact ⟨followsMatrix_congr.trans h.1, h.2⟩
  | done reply b => exact followsMatrix_congr.trans h
  | release x b => exact h
  | beginDelete | beginInsert | beginCommit | beginSelect | openBooking | finishReview =>
    exact h.elim

/-- Time that passes is on the course of a request. -/
theorem Course.tick {pc : BookingPc} (hc : Course s₀ p r d s pc) (clock : Time) :
    Course s₀ p r d { s with clock := clock } pc := by
  obtain ⟨⟨t₁, t₂, t₃, t₄, t₅, t₆, t₇, t₈, t₉, t₁₀⟩, houtline, halone, hfree, hclaim, hat⟩ := hc
  refine ⟨⟨t₁, t₂, t₃, t₄, t₅, t₆, t₇, t₈, t₉, t₁₀⟩, houtline, ?_, hfree, hclaim, hat.tick clock⟩
  cases pc <;> first
    | exact halone
    | exact halone.congr rfl rfl rfl rfl
    | exact ⟨halone.1.congr rfl rfl rfl rfl, halone.2⟩

variable (env) in
/-- A request that has no reply yet can take its next step. -/
theorem Course.progress {pc : BookingPc} (hc : Course s₀ p r d s pc)
    (hfresh : FreshCharge s₀.gateway r) (hleft : pc.toGo ≠ 0) :
    ∃ s' pc', (service env FakePaymentGateway).step s p (.booking r pc) (.go d.draws) =
        some (s', .booking r pc') ∧ Course s₀ p r d s' pc' ∧ pc'.toGo < pc.toGo := by
  have hsome : (stepBooking env s p r d.draws pc).isSome := by
    refine stepBooking_isSome hc.tables (fun b hb => (hc.outline b hb).2) hc.free
      (fun _ => hc.claim) ?_ ?_ ?_
    · rintro σ f rows rfl k hk
      obtain ⟨i, hi, rfl⟩ := List.mem_map.mp hk
      rw [hc.alone.2] at hi
      exact (failPaymentRows_pinned hi).1
    · rintro σ rfl
      obtain ⟨-, ⟨row, hrow, -⟩, -⟩ := hc.reached
      exact ⟨row, hrow⟩
    · rintro reply b rfl
      exact hleft rfl
  obtain ⟨⟨s', pc'⟩, hs⟩ := Option.isSome_iff_exists.mp hsome
  have hnext : (service env FakePaymentGateway).step s p (.booking r pc) (.go d.draws) =
      some (s', .booking r pc') := congrArg (Option.map _) hs
  cases step_of hnext with
  | booking hstep => exact ⟨s', pc', hnext, hc.step hfresh hstep, hstep.toGo_lt hc.reached⟩

/-- Step 1 opens the booking of a request with live holds where a reference is free. -/
theorem BookingStep.reached_of_opens {pc' : BookingPc}
    (h : BookingStep env s p r d.draws .openBooking s' pc') (ht : Tables s) (ha : HoldsApart s)
    {f : FlightId} (hholds : LiveHolds s r f) : Reached s s' r d pc' := by
  cases h
  case opens seats flightId flight ref hseats hf hlen hlive hids hflight hpnr htotal href =>
    subst hseats
    have hmem : ∀ k, k ∈ (openedSaga r.payload (lockSeatsForHolds s.db r.payload.holdIds r.userId)
        s.uuid ref flightId flight).seats.map Orm.Instance.id ↔ k ∈ r.seatsIn s.db := by
      intro k
      rw [openedSaga_ids]
      simp only [BookingRequest.seatsIn, List.mem_map, mem_orderedSeats]
    have hrow : ∀ i ∈ lockSeatsForHolds s.db r.payload.holdIds r.userId, i.row = s.db.seat i.id :=
      fun i hi => (mem_lockSeatsForHolds hi).2.1
    refine ⟨⟨rfl, Option.isSome_iff_exists.mpr ⟨ref, hpnr⟩, htotal, hmem, ?_,
      fun k hk => ⟨?_, ?_⟩, rfl⟩, rfl, rfl⟩
    · have hordered := (List.perm_insertionSort (fun i j : SeatInstance =>
        i.row.rowNo < j.row.rowNo ∨
          (i.row.rowNo = j.row.rowNo ∧ i.row.seatLetter ≤ j.row.seatLetter))
        (lockSeatsForHolds s.db r.payload.holdIds r.userId)).length_eq
      have hsame : (orderedSeats (lockSeatsForHolds s.db r.payload.holdIds r.userId)).length =
          r.payload.passengers.length :=
        hordered.trans (hlen.trans r.payload.oneSeatPerPassenger)
      simp [openedSaga, passengerRows, hsame]
    · obtain ⟨i, hi, rfl⟩ := List.mem_map.mp hk
      exact (mem_lockSeatsForHolds hi).1
    · exact (openedDb_seat hrow _ s.clock r.userId r.key k).trans (if_pos hk)
  case opensNothing e h =>
    have hnot : ¬ Matrixed s r d := by
      rintro ⟨hpnr, htotal, -⟩
      obtain ⟨db', σ, hok⟩ :=
        openBooking_of_stepOnePins (hholds.locked ht ha hpnr htotal) s.uuid r.key
      exact absurd (hok.symm.trans h) (by simp)
    have hunborn : ∀ {reply}, ¬ FollowsMatrix s s r d.assessment reply := by
      intro reply hfollows
      obtain ⟨row, hrow, -⟩ := hfollows.ending.booking
      have hnone := congrArg View.row (ht.unborn s.uuid (le_refl _))
      exact absurd (hrow.symm.trans hnone) (by simp)
    cases e
    case app => exact iff_of_false hunborn hnot
    all_goals exact hnot

theorem BookingStep.alone_of_opens {pc' : BookingPc}
    (h : BookingStep env s p r d.draws .openBooking s' pc') (ht : Tables s)
    (hl : s'.db.LiveUnique) : pc'.Alone s' := by
  have hopens := h
  cases h with
  | opens => exact untaken_opened ht hl hopens
  | opensNothing => exact alone_raised

/-- The steps a process with a request has left at most. -/
def Proc.toGo : Proc → ℕ
  | .booking _ pc => pc.toGo
  | _ => 0

/-- **A booking nobody disturbs ends as the matrix says exactly where it is
`Matrixed`.**  From any state the service can be in, a request for live holds under a
fresh key runs to its reply, whatever time passes meanwhile. -/
theorem failure_matrix_iff {C : World (Shared FakePaymentGateway) Proc → ℕ → Input → Prop}
    {db : Db} {g : FakePaymentGateway} {clock : Time}
    {w : World (Shared FakePaymentGateway) Proc} {as : List (ℕ × Input)} {f : FlightId}
    (d : SoloDraws) (hdb : db.Initial)
    (h : (service env FakePaymentGateway).Run C (initialWorld db g clock) as w)
    (hp : w.proc p = .booking r .openBooking) (hfree : w.shared.UnlockedFor p)
    (hclaim : w.shared.claimFree p r.claimKey = true) (hholds : LiveHolds w.shared r f)
    (hfresh : FreshCharge w.shared.gateway r) :
    ∃ w₁, (service env FakePaymentGateway).next w p (.go d.draws) = some w₁ ∧
      (∃ bs w' reply b, (service env FakePaymentGateway).Run (NoOtherRequest p d) w₁ bs w' ∧
        w'.proc p = .booking r (.done reply b)) ∧
      ∀ bs w' reply b, (service env FakePaymentGateway).Run (NoOtherRequest p d) w₁ bs w' →
        w'.proc p = .booking r (.done reply b) →
          (FollowsMatrix w.shared w'.shared r d.assessment reply ↔ Matrixed w.shared r d) := by
  have hw := outline_holds hdb h
  -- step 1
  have hsome : (stepBooking env w.shared p r d.draws .openBooking).isSome := by
    refine stepBooking_isSome hw.shared ?_ hfree (fun _ => hclaim) ?_ ?_ ?_ <;>
      simp [BookingPc.booking?, BookingPc.saga?]
  obtain ⟨⟨s₁, pc₁⟩, hs⟩ := Option.isSome_iff_exists.mp hsome
  have hstep₁ := bookingStep_of hs
  have hn := next_booking hp hs
  have hw₁ := outline_next hw hn
  have hlive : s₁.db.LiveUnique := liveUnique_holds (C := fun _ _ _ => True) hdb
    (.snoc (h.mono fun _ _ _ _ => trivial) trivial hn)
  have hcourse₁ : Course w.shared p r d s₁ pc₁ := by
    have hown := hw₁.own p
    simp only [Function.update_self] at hown
    refine ⟨hw₁.shared, hown, ?_, hstep₁.unlockedFor hfree, hstep₁.claimFree hclaim,
      hstep₁.reached_of_opens hw.shared (holdsApart_holds hdb h) hholds⟩
    exact hstep₁.alone_of_opens hw.shared hlive
  refine ⟨_, hn, ?_, ?_⟩
  · have hprog : ∀ s P, (∃ pc, P = .booking r pc ∧ Course w.shared p r d s pc) → P.toGo ≠ 0 →
        ∃ a s' P', Drawing d P a ∧
          (service env FakePaymentGateway).step s p P a = some (s', P') ∧
            (∃ pc', P' = .booking r pc' ∧ Course w.shared p r d s' pc') ∧ P'.toGo < P.toGo := by
      rintro s P ⟨pc, rfl, hc⟩ hleft
      obtain ⟨s', pc', hnext, hc', hlt⟩ := hc.progress env hfresh hleft
      exact ⟨_, s', _, rfl, hnext, ⟨pc', rfl, hc'⟩, hlt⟩
    obtain ⟨bs, w', hrun, hleft, pc, hpc, -⟩ := System.exists_solo_run
      Proc.toGo hprog ⟨s₁, Function.update w.proc p (.booking r pc₁)⟩
      ⟨pc₁, Function.update_self .., hcourse₁⟩
    rw [hpc] at hleft
    have hdone : ∃ reply b, pc = .done reply b := by
      cases pc with
      | done reply b => exact ⟨reply, b, rfl⟩
      | _ => simp [Proc.toGo, BookingPc.toGo] at hleft
    obtain ⟨reply, b, rfl⟩ := hdone
    exact ⟨bs, w', reply, b, hrun.mono fun _ _ _ hsolo => .inl hsolo, hpc⟩
  · intro bs w' reply b hrun hdone
    have hend : ∃ pc, w'.proc p = .booking r pc ∧ Course w.shared p r d w'.shared pc := by
      refine hrun.induct
        (I := fun w' => ∃ pc, w'.proc p = .booking r pc ∧ Course w.shared p r d w'.shared pc)
        ⟨pc₁, Function.update_self .., hcourse₁⟩ ?_
      rintro w₂ q a w₃ ⟨pc, hpc, hc⟩ hC hnext
      obtain ⟨s', P', hs', rfl⟩ := System.next_eq_some.mp hnext
      have hstep := step_of hs'
      rcases hC with ⟨rfl, rfl⟩ | ⟨n, rfl⟩
      · rw [hpc] at hstep
        cases hstep with
        | @booking _ _ _ _ pc' hstep =>
          exact ⟨pc', Function.update_self .., hc.step hfresh hstep⟩
      · -- time passes at a process without a request
        generalize hq : w₂.proc q = Q at hstep
        cases hstep
        refine ⟨pc, ?_, hc.tick _⟩
        have hne : p ≠ q := by
          rintro rfl
          rw [hq] at hpc
          simp at hpc
        simp only [Function.update_of_ne hne]
        exact hpc
    obtain ⟨pc, hpc, hc⟩ := hend
    obtain rfl : pc = .done reply b := by
      rw [hdone] at hpc
      injection hpc with _ hpc
      exact hpc.symm
    exact hc.reached

/-! ### Two cards -/

/-- The draws of a request whose payment scores nothing. -/
def SoloDraws.calm (n : ℕ) : SoloDraws := ⟨(Draws.calm n).pnr, (Draws.calm n).eTicketNo, ⟨0, []⟩⟩

/-- A stream of texts in which none comes twice, the first of them sixteen digits long. -/
def hexDigits (n : ℕ) : String :=
  String.ofList (List.replicate (16 - n) '0' ++ List.replicate n '1')

theorem hexDigits_injective : Function.Injective hexDigits := by
  intro m n h
  have hcount := congrArg (fun t => t.toList.count '1') h
  simpa [hexDigits, List.count_append, List.count_replicate] using hcount

/-- A flight of one seat on sale, and a gateway that draws such texts. -/
def oneOnSale : World (Shared FakePaymentGateway) Proc :=
  initialWorld (.seeded 7 ⟨"CAD"⟩ 25000 1) (.fresh hexDigits hexDigits_injective) 0

/-- A user holds a seat, and sends a booking of it up to step 1. -/
def readyToBook (cardToken : String) : List (ℕ × Input) :=
  asks 1 (.createHold ⟨10, 7, "1A"⟩) 3 (.calm 0) ++
    asks 2 (.createBooking ⟨10, "key-of-ada-00000001", soloBody 0 cardToken⟩) 3 (.calm 1)

/-- The request of process 2 is about to run step 1, with the card and with nothing in its
way. -/
def atStepOne (cardToken : String) (w : World (Shared FakePaymentGateway) Proc) : Bool :=
  (w.proc 2).opening?.any fun r => decide (r.payload.cardToken = cardToken ∧
    w.shared.UnlockedFor 2 ∧ w.shared.claimFree 2 r.claimKey = true ∧ LiveHolds w.shared r 7 ∧
      FreshCharge w.shared.gateway r)

/-- A card that times out once ends as the matrix says. -/
theorem timeout_confirmed :
    ∃ w w₁ w' r bs reply b, (service demoEnv FakePaymentGateway).Run (fun _ _ _ => True) oneOnSale
        (readyToBook "tok_test_aaaa11110119") w ∧
      w.proc 2 = .booking r .openBooking ∧
      (service demoEnv FakePaymentGateway).next w 2 (.go (SoloDraws.calm 1).draws) = some w₁ ∧
      (service demoEnv FakePaymentGateway).Run (NoOtherRequest 2 (.calm 1)) w₁ bs w' ∧
      w'.proc 2 = .booking r (.done reply b) ∧
      FollowsMatrix w.shared w'.shared r (SoloDraws.calm 1).assessment reply := by
  have hrun : ((service demoEnv FakePaymentGateway).checked (fun _ _ _ => True) oneOnSale
      (readyToBook "tok_test_aaaa11110119")).any (fun w =>
        atStepOne "tok_test_aaaa11110119" w &&
          (w.proc 2).opening?.any fun r => decide (Matrixed w.shared r (.calm 1))) = true := by
    decide +kernel
  obtain ⟨w, hw, htest⟩ := System.exists_run_of_checked hrun
  obtain ⟨hstart, hmatrixed⟩ := Bool.and_eq_true_iff.mp htest
  obtain ⟨r, hopening, hready⟩ := (Option.any_eq_true _ _).mp hstart
  obtain ⟨-, hfree, hclaim, hholds, hfresh⟩ := of_decide_eq_true hready
  have hp := Proc.opening?_eq_some hopening
  rw [hopening] at hmatrixed
  obtain ⟨w₁, hn, ⟨bs, w', reply, b, hsolo, hdone⟩, hiff⟩ := failure_matrix_iff (.calm 1)
    (Db.seeded_initial ..) hw hp hfree hclaim hholds hfresh
  exact ⟨w, w₁, w', r, bs, reply, b, hw, hp, hn, hsolo, hdone,
    (hiff bs w' reply b hsolo hdone).mpr (of_decide_eq_true hmatrixed)⟩

/-- The reply of a request that is done. -/
def Proc.reply? : Proc → Option (Reply × Option BookingId)
  | .booking _ (.done reply b) => some (reply, b)
  | _ => none

theorem Proc.reply?_eq_some {r : BookingRequest} {pc : BookingPc} {reply : Reply}
    {b : Option BookingId} (h : (Proc.booking r pc).reply? = some (reply, b)) :
    pc = .done reply b := by
  unfold reply? at h
  split at h
  · next heq =>
    obtain ⟨rfl, rfl⟩ := Prod.mk.inj (Option.some.inj h)
    injection heq
  · simp at h

/-- A request stays the same in any run. -/
theorem exists_booking_of_run {G : Type} [PaymentGateway G]
    {C : World (Shared G) Proc → ℕ → Input → Prop} {w w' : World (Shared G) Proc}
    {as : List (ℕ × Input)} (h : (service env G).Run C w as w') {pc : BookingPc}
    (hp : w.proc p = .booking r pc) : ∃ pc', w'.proc p = .booking r pc' := by
  refine h.induct (I := fun w => ∃ pc, w.proc p = .booking r pc) ⟨pc, hp⟩ ?_
  rintro w₁ q a w₂ ⟨pc₁, hp₁⟩ - hn
  by_cases hq : p = q
  · subst hq
    exact exists_booking_of_next hp₁ hn
  · obtain ⟨s', P', -, rfl⟩ := System.next_eq_some.mp hn
    refine ⟨pc₁, ?_⟩
    simp only [Function.update_of_ne hq]
    exact hp₁

/-- **A card that asks for a refund failure is charged**: the authorization is approved,
ticketing does not fail, and nothing is left to be refunded. -/
theorem refund_failure_confirmed :
    ∃ w w₁ w' r bs reply b, (service demoEnv FakePaymentGateway).Run (fun _ _ _ => True) oneOnSale
        (readyToBook "tok_test_aaaa11115309") w ∧
      w.proc 2 = .booking r .openBooking ∧ r.payload.cardToken = "tok_test_aaaa11115309" ∧
      w.shared.UnlockedFor 2 ∧ w.shared.claimFree 2 r.claimKey = true ∧
      LiveHolds w.shared r 7 ∧ FreshCharge w.shared.gateway r ∧
      (service demoEnv FakePaymentGateway).next w 2 (.go (SoloDraws.calm 1).draws) = some w₁ ∧
      (service demoEnv FakePaymentGateway).Run (NoOtherRequest 2 (.calm 1)) w₁ bs w' ∧
      w'.proc 2 = .booking r (.done reply b) ∧ reply.status = 201 ∧
      w'.shared.db.payments.map Payment.state = [.captured] ∧
      ¬ FollowsMatrix w.shared w'.shared r (SoloDraws.calm 1).assessment reply := by
  have hrun : ((service demoEnv FakePaymentGateway).checked (fun _ _ _ => True) oneOnSale
      (readyToBook "tok_test_aaaa11115309")).any (fun w =>
        atStepOne "tok_test_aaaa11115309" w &&
          ((service demoEnv FakePaymentGateway).next w 2 (.go (SoloDraws.calm 1).draws)).any fun w₁ =>
            ((service demoEnv FakePaymentGateway).exec w₁
              (moves 2 10 (SoloDraws.calm 1).draws)).any fun w' =>
                (w'.proc 2).reply?.any (fun o => decide (o.1.status = 201)) &&
                  decide (w'.shared.db.payments.map Payment.state = [.captured])) = true := by
    decide +kernel
  obtain ⟨w, hw, htest⟩ := System.exists_run_of_checked hrun
  obtain ⟨hstart, htest⟩ := Bool.and_eq_true_iff.mp htest
  obtain ⟨w₁, hn, htest⟩ := (Option.any_eq_true _ _).mp htest
  obtain ⟨w', hexec, htest⟩ := (Option.any_eq_true _ _).mp htest
  obtain ⟨hreply, hcaptured⟩ := Bool.and_eq_true_iff.mp htest
  obtain ⟨r, hopening, hready⟩ := (Option.any_eq_true _ _).mp hstart
  obtain ⟨hcard, hfree, hclaim, hholds, hfresh⟩ := of_decide_eq_true hready
  have hp := Proc.opening?_eq_some hopening
  have hsolo : (service demoEnv FakePaymentGateway).Run (NoOtherRequest 2 (.calm 1)) w₁
      (moves 2 10 (SoloDraws.calm 1).draws) w' := by
    refine System.run_of_exec (fun m hm w => ?_) hexec
    obtain rfl := List.eq_of_mem_replicate hm
    exact .inl ⟨rfl, rfl⟩
  obtain ⟨pc₁, hp₁⟩ := exists_booking_of_next hp hn
  obtain ⟨pc, hpc⟩ := exists_booking_of_run hsolo hp₁
  obtain ⟨⟨reply, b⟩, hreply, hstatus⟩ := (Option.any_eq_true _ _).mp hreply
  rw [hpc] at hreply
  obtain rfl := Proc.reply?_eq_some hreply
  have hstatus := of_decide_eq_true hstatus
  refine ⟨w, w₁, w', r, _, reply, b, hw, hp, hcard, hfree, hclaim, hholds, hfresh, hn, hsolo, hpc,
    hstatus, of_decide_eq_true hcaptured, fun hfollows => ?_⟩
  have hexpected := hfollows.ending.status
  have htrigger : triggerFor "tok_test_aaaa11115309" = .refundFailure := by decide
  rw [hstatus, expectedEnding, hcard, htrigger] at hexpected
  exact absurd hexpected (by decide)

end SkyLock
