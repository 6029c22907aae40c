import SkyLock.HoldCap
import SkyLock.Reverification

/-!
# A live hold is stable

Until its expiry a hold can be ended by its user, and by a booking of the user that
has the seat; where such a booking has booked the seat, it can be ended by the user's
side alone.  `acquire_hold` and the sweep test the committed row and let a live hold
be.  The flushes of `_issue_tickets` and `_fail_payment` do not: they write into
whatever the rows of their saga have become, so a live hold is stable in the runs in
which those flushes go through only over rows that are still pinned to their booking.

## Main definitions

* `SeatInventory.Held` — a row is a given hold.
* `Db.Kept` — a row is still that hold, or it is booked for its user.
* `OwnWrite` — what the user, or a booking of the user that has the seat, makes of it.
* `OwnFlushes` — the condition.
* `EndedByOwner` — a run in which the user's side gave the seat back.

## Main results

* `Step.held_cases`, `Step.booked_cases` — what one step makes of a live hold, and of the
  seat once it is booked.
* `hold_stable` — **a live hold is exclusive and stable**.
* `hold_booked_by_stranger` — a saga that has lost its seat books it all the same.
-/

namespace SkyLock

open Concurrent

variable {G : Type} [PaymentGateway G] {env : Env} {s s' : Shared G} {p : ℕ} {P P' : Proc}
  {a : Input} {k : SeatId} {u : UserId} {hold : HoldId} {e : Time}

/-! ### Holds and their owners -/

/-- The row is the user's hold with this id and this expiry. -/
structure SeatInventory.Held (r : SeatInventory) (u : UserId) (hold : HoldId) (e : Time) :
    Prop where
  status : r.status = .held
  holder : r.heldByUserId = some u
  hold : r.holdId = some hold
  expiry : r.holdExpiresAt = some e

instance (r : SeatInventory) : Decidable (r.Held u hold e) :=
  decidable_of_iff (r.status = .held ∧ r.heldByUserId = some u ∧ r.holdId = some hold ∧
      r.holdExpiresAt = some e)
    ⟨fun ⟨h₁, h₂, h₃, h₄⟩ => ⟨h₁, h₂, h₃, h₄⟩, fun h => ⟨h.status, h.holder, h.hold, h.expiry⟩⟩

/-- The booking is there, and is the user's. -/
def Db.BookingOf (db : Db) (b : BookingId) (u : UserId) : Prop :=
  ∃ row, db.booking b = some row ∧ row.userId = u

/-- The row is booked for a booking of the user that held it. -/
structure Db.BookedFor (db : Db) (k : SeatId) (u : UserId) : Prop where
  status : (db.seat k).status = .booked
  holder : (db.seat k).heldByUserId = some u
  booking : ∃ b, (db.seat k).bookingId = some b ∧ db.BookingOf b u

/-- The user has the seat: the row is its hold, or is booked for a booking of it. -/
def Db.Kept (db : Db) (k : SeatId) (u : UserId) (hold : HoldId) (e : Time) : Prop :=
  (db.seat k).Held u hold e ∨ db.BookedFor k u

/-- A pinned row that somebody has is pinned to a booking of theirs. -/
def Db.PinsOfHolder (db : Db) : Prop :=
  ∀ k b v, (db.seat k).bookingId = some b → (db.seat k).heldByUserId = some v → db.BookingOf b v

/-- A held row that is pinned is pinned to a booking of its holder. -/
def Db.PinnedByHolder (db : Db) : Prop :=
  ∀ k b, (db.seat k).status = .held → (db.seat k).bookingId = some b →
    ∃ u, (db.seat k).heldByUserId = some u ∧ db.BookingOf b u

theorem Step.bookingOf (h : Step env s p P a s' P') (ht : Tables s) {b : BookingId}
    (hb : s.db.BookingOf b u) : s'.db.BookingOf b u := by
  obtain ⟨row, hrow, hu⟩ := hb
  obtain ⟨row', hrow', rfl | ⟨loaded, current, rfl⟩⟩ := h.booking_kept ht hrow
  · exact ⟨row', hrow', hu⟩
  · exact ⟨_, hrow', hu⟩

/-- Step 1 pins rows that its user holds, no other statement pins any, and `acquire_hold`
unpins what it takes. -/
theorem Step.pinsOfHolder (h : Step env s p P a s' P') (ht : Tables s) (ho : P.Outline s)
    (hpins : s.db.PinsOfHolder) : s'.db.PinsOfHolder := by
  intro k b v hb hv
  have hw := h.seatWrite ho k
  have hkept : (s.db.seat k).bookingId = some b → (s.db.seat k).heldByUserId = some v →
      s'.db.BookingOf b v := fun hb hv => h.bookingOf ht (hpins k b v hb hv)
  generalize s'.db.seat k = row at hw hb hv
  cases hw with
  | kept => exact hkept hb hv
  | @pins r σ _ _ _ _ hholder =>
    obtain rfl : s.uuid = b := Option.some.inj hb
    obtain rfl : r.userId = v := Option.some.inj (hholder.symm.trans hv)
    cases h with
    | booking h =>
      generalize hpc : BookingPc.assess σ = pc' at h
      cases h with
      | opensNothing h => rename_i e; cases e <;> simp [raised] at hpc
      | opens => exact ⟨_, Function.update_self .., rfl⟩
  | unpins => simp at hb
  | tickets => exact hkept hb hv
  | returns => simp [SeatInventory.returned] at hb
  | acquires => simp [SeatInventory.heldBy] at hb
  | releases | sweeps => simp [SeatInventory.freed] at hv

theorem pinsOfHolder_holds {C : World (Shared G) Proc → ℕ → Input → Prop} {db : Db} {g : G}
    {clock : Time} {w : World (Shared G) Proc} {as : List (ℕ × Input)} (hdb : db.Initial)
    (h : (service env G).Run C (initialWorld db g clock) as w) :
    (outline G).Holds w ∧ w.shared.db.PinsOfHolder := by
  refine h.induct (I := fun w => (outline G).Holds w ∧ w.shared.db.PinsOfHolder)
    ⟨outline_initial hdb g clock, fun k b v hb => ?_⟩ ?_
  · have hnone : (db.seat k).bookingId = some b := hb
    simp [hdb.seats k] at hnone
  · rintro w₁ p a w₂ ⟨ho, hpins⟩ - hn
    refine ⟨outline_next ho hn, ?_⟩
    obtain ⟨s', P', hs, rfl⟩ := System.next_eq_some.mp hn
    exact (step_of hs).pinsOfHolder ho.shared (ho.own p) hpins

theorem pinnedByHolder_holds {C : World (Shared G) Proc → ℕ → Input → Prop} {db : Db} {g : G}
    {clock : Time} {w : World (Shared G) Proc} {as : List (ℕ × Input)} (hdb : db.Initial)
    (h : (service env G).Run C (initialWorld db g clock) as w) : w.shared.db.PinnedByHolder := by
  obtain ⟨ho, hpins⟩ := pinsOfHolder_holds hdb h
  intro k b hstatus hb
  -- a held row has a holder
  have hchecks := ho.shared.checked k
  simp only [SeatInventory.checks, hstatus, bne_self_eq_false, Bool.false_or, Bool.and_eq_true,
    Option.isSome_iff_exists] at hchecks
  obtain ⟨⟨⟨⟨u, hu⟩, -⟩, -⟩, -⟩ := hchecks
  exact ⟨u, hu, hpins k b u hb hu⟩

theorem timely_holds {C : World (Shared G) Proc → ℕ → Input → Prop} {db : Db} {g : G}
    {clock : Time} {w : World (Shared G) Proc} {as : List (ℕ × Input)}
    (h : (service env G).Run C (initialWorld db g clock) as w) (q : ℕ) :
    Timely w.shared.clock (w.proc q) :=
  h.induct (I := fun w => ∀ q, Timely w.shared.clock (w.proc q)) (fun _ => trivial)
    (fun _ _ _ _ hw _ hn => Timely.next hw hn) q

/-! ### One step -/

/-- Where a flush of a saga's seat instances goes through, the rows are still pinned to
its booking. -/
def OwnFlushes (w : World (Shared G) Proc) (p : ℕ) (a : Input) : Prop :=
  match w.proc p, a with
  | .booking r (.issueTickets σ _), .go x =>
    triggerFor r.payload.cardToken ≠ .ticketingFailure → Issuable w.shared.db σ x →
      ∀ i ∈ σ.seats, (w.shared.db.seat i.id).bookingId = some σ.bookingId
  | .booking _ (.failCommit σ _ rows), _ =>
    (∀ i ∈ rows, (w.shared.db.seat i.id).status ≠ .booked) →
      ∀ i ∈ rows, (w.shared.db.seat i.id).bookingId = some σ.bookingId
  | _, _ => True

instance (w : World (Shared G) Proc) (p : ℕ) (a : Input) : Decidable (OwnFlushes w p a) := by
  unfold OwnFlushes
  generalize w.proc p = q
  induction q using Proc.casesOn with
  | booking r pc =>
    induction pc using BookingPc.casesOn <;> induction a using Input.casesOn <;> infer_instance
  | _ => infer_instance

/-- What the user makes of its hold on the seat `k`, or a booking of the user that has
the seat. -/
inductive OwnWrite (s : Shared G) (k : SeatId) (u : UserId) (hold : HoldId) :
    Proc → SeatInventory → Prop
  /-- The user books the seat. -/
  | books {r : BookingRequest} (hr : r.userId = u) (hhold : hold ∈ r.payload.holdIds) :
      OwnWrite s k u hold (.booking r .openBooking) ((s.db.seat k).pinned s.uuid)
  /-- The charge failed. -/
  | unpins {r : BookingRequest} {σ : Saga} {f : PaymentFailure} {rows : List SeatInstance} {v : ℕ}
      (hr : r.userId = u) (hb : (s.db.seat k).bookingId = some σ.bookingId) :
      OwnWrite s k u hold (.booking r (.failCommit σ f rows))
        { s.db.seat k with bookingId := none, version := v }
  /-- The ticket is issued. -/
  | tickets {r : BookingRequest} {σ : Saga} {pay : Payment} {v : ℕ} (hr : r.userId = u)
      (hb : (s.db.seat k).bookingId = some σ.bookingId) :
      OwnWrite s k u hold (.booking r (.issueTickets σ pay))
        { s.db.seat k with
          status := .booked, holdId := none, holdExpiresAt := none, version := v }
  /-- A compensation or a cancellation returns the seat. -/
  | returns {P : Proc} {b : BookingId} (hP : P.returning? = some b) (hof : s.db.BookingOf b u)
      (hb : (s.db.seat k).bookingId = some b) : OwnWrite s k u hold P (s.db.seat k).returned
  /-- The user releases the hold. -/
  | releases {r : ReleaseRequest} (hr : r.userId = u) (hhold : r.holdId = hold) :
      OwnWrite s k u hold (.release r .update) (s.db.seat k).freed

/-- Where `_fail_payment` commits, none of its rows is booked. -/
theorem BookingStep.unbooked_of_fails {r : BookingRequest} {x : Draws} {σ : Saga}
    {f : PaymentFailure} {rows : List SeatInstance} {o : Outcome} {b : Option BookingId}
    (h : BookingStep env s p r x (.failCommit σ f rows) s' (.completeSelect o b))
    (hrows : ∀ i ∈ rows, i.row.bookingId.isSome) {i : SeatInstance} (hi : i ∈ rows) :
    (s.db.seat i.id).status ≠ .booked := by
  intro hbooked
  cases h with
  | fails hf h =>
    obtain ⟨v, hv⟩ := failedDb_seat_of_mem s.db σ f hrows (List.mem_map_of_mem hi)
    have hchecks := seatsChecked_iff.mp h i.id (List.mem_map_of_mem hi)
    rw [hv] at hchecks
    exact absurd (SeatInventory.bookingId_isSome_of_checks hchecks hbooked) (by simp)

omit [PaymentGateway G] in
/-- The booking of a saga is its user's. -/
theorem Saga.Before.bookingOf {σ : Saga} {state : BookingState}
    (h : σ.Before u state (s.view σ.bookingId)) : s.db.BookingOf σ.bookingId u := by
  obtain ⟨row, hrow, hof, -⟩ := h.recorded.row
  exact ⟨row, hrow, hof.1⟩

/-- A step leaves the row `k` as it is, or the user's side writes it, and either the user
still has the seat then or nobody has; and the step is no `acquire_hold` of the seat. -/
structure OwnStep (s : Shared G) (k : SeatId) (u : UserId) (hold : HoldId) (e : Time)
    (P : Proc) (s' : Shared G) (P' : Proc) : Prop where
  row : s'.db.seat k = s.db.seat k ∨ OwnWrite s k u hold P (s'.db.seat k)
  kept : s'.db.Kept k u hold e ∨ (s'.db.seat k).status = .available
  unacquired : ∀ r now, P = .hold r (.update now) → P' ≠ .hold r (.refresh k)

/-- Nobody acquires a seat that is not takeable. -/
theorem Step.unacquired (h : Step env s p P a s' P')
    (hnot : ∀ r now, P = .hold r (.update now) → takeable (s.db.seat k) now = false)
    (r : HoldRequest) (now : Time) (hP : P = .hold r (.update now)) :
    P' ≠ .hold r (.refresh k) := by
  rintro rfl
  subst hP
  cases h with
  | hold h =>
    cases h with
    | acquires hf htake =>
      have hcond := List.find?_some htake
      rw [Bool.and_eq_true, hnot r now rfl] at hcond
      simp at hcond

/-- **One step on a live hold.** -/
theorem Step.held_cases {w : World (Shared G) Proc} (h : Step env w.shared p (w.proc p) a s' P')
    (ho : (outline G).Holds w) (hlive : w.shared.db.LiveUnique) (hpin : w.shared.db.PinnedByHolder)
    (htime : Timely w.shared.clock (w.proc p)) (hC : OwnFlushes w p a)
    (hheld : (w.shared.db.seat k).Held u hold e) (he : w.shared.clock ≤ e) :
    OwnStep w.shared k u hold e (w.proc p) s' P' := by
  have hw := h.seatWrite (ho.own p) k
  have hown := ho.own p
  -- whoever has pinned the row is a booking of the holder
  have howner : ∀ b v, (w.shared.db.seat k).bookingId = some b →
      w.shared.db.BookingOf b v → v = u := by
    rintro b v hb ⟨row, hrow, rfl⟩
    obtain ⟨u', hu', row', hrow', rfl⟩ := hpin k b hheld.status hb
    obtain rfl : row = row' := Option.some.inj (hrow.symm.trans hrow')
    exact Option.some.inj (hu'.symm.trans hheld.holder)
  have hnottaken : ∀ now, now ≤ w.shared.clock → takeable (w.shared.db.seat k) now = false := by
    intro now hnow
    have hlt : ¬ e < now := not_lt.mpr (hnow.trans he)
    simp [takeable, hheld.status, hheld.expiry, hlt]
  have hunacquired := h.unacquired fun r now hP => hnottaken now (by
    rw [hP] at htime
    exact htime)
  have hbookingOf := fun {b v} => h.bookingOf (u := v) (b := b) ho.shared
  have hsame : ∀ {row : SeatInventory}, s'.db.seat k = row → row.Held u hold e →
      s'.db.Kept k u hold e := fun hrow hrowHeld => .inl (hrow ▸ hrowHeld)
  simp only [OwnFlushes] at hC
  generalize hp : w.proc p = P at h hw hown htime hC hunacquired
  generalize hrow : s'.db.seat k = row at hw
  cases hw with
  | kept => exact ⟨.inl hrow, .inl (hsame hrow hheld), hunacquired⟩
  | pins hk hmem hb hstatus hholder hhold hexpiry =>
    obtain ⟨hold', hmem', hhold'⟩ := hhold
    obtain rfl : hold = hold' := Option.some.inj (hheld.hold.symm.trans hhold')
    refine ⟨.inr (hrow ▸ .books (Option.some.inj (hholder.symm.trans hheld.holder)) hmem'),
      .inl (hsame hrow ⟨hheld.status, hheld.holder, hheld.hold, hheld.expiry⟩), hunacquired⟩
  | @unpins r σ f rows o v hmem hstatus =>
    cases h with
    | @booking _ x _ _ _ h =>
      obtain ⟨-, hbefore, -, hrows⟩ := hown σ.bookingId rfl
      have hunbooked := fun i hi => h.unbooked_of_fails (fun i hi => by rw [hrows i hi]; rfl)
        (i := i) hi
      obtain ⟨i, hi, rfl⟩ := List.mem_map.mp hmem
      -- the flush meets the condition: the row is still pinned to the saga's booking
      have hb := hC hunbooked i hi
      refine ⟨.inr (hrow ▸ .unpins (howner _ _ hb hbefore.bookingOf) hb),
        .inl (hsame hrow ⟨hheld.status, hheld.holder, hheld.hold, hheld.expiry⟩), hunacquired⟩
  | @tickets r σ σ' pay v hmem hbooking =>
    have hstays := fun b v => hbookingOf (b := b) (v := v)
    cases h with
    | @booking _ x _ _ _ h =>
      obtain ⟨-, hbefore, -⟩ := hown σ.bookingId rfl
      -- so does the flush of the tickets, and the booking is the holder's
      obtain ⟨htrig, hissuable⟩ := h.issuable_of_capture ho.shared hbefore hlive
      obtain ⟨i, hi, rfl⟩ := List.mem_map.mp hmem
      have hb := hC htrig hissuable i hi
      obtain rfl := howner _ _ hb hbefore.bookingOf
      refine ⟨.inr (hrow ▸ .tickets rfl hb), .inl (.inr ⟨hrow ▸ rfl, hrow ▸ hheld.holder,
        σ.bookingId, hrow ▸ hb, hstays _ _ hbefore.bookingOf⟩), hunacquired⟩
  | returns hP hb =>
    obtain ⟨u', hu', hof⟩ := hpin k _ hheld.status hb
    obtain rfl : u' = u := Option.some.inj (hu'.symm.trans hheld.holder)
    exact ⟨.inr (hrow ▸ .returns hP hof hb), .inr (hrow ▸ rfl), hunacquired⟩
  | acquires hk hseat htake =>
    rw [hnottaken _ htime] at htake
    simp at htake
  | releases hrel =>
    simp only [releasable, Bool.and_eq_true, decide_eq_true_eq, beq_iff_eq] at hrel
    obtain ⟨hhold, -, hholder⟩ := hrel
    exact ⟨.inr (hrow ▸ .releases (Option.some.inj (hholder.symm.trans hheld.holder))
      (Option.some.inj (hhold.symm.trans hheld.hold))), .inr (hrow ▸ rfl), hunacquired⟩
  | sweeps hsweep =>
    -- before the expiry no sweep matches the row
    have hlt : ¬ e < _ := not_lt.mpr (le_trans htime he)
    simp [sweepable, hheld.expiry, hlt] at hsweep

/-- **One step on a seat that is booked.**  The statements that test the committed row let it
be, and so does `_fail_payment`. -/
theorem Step.booked_cases {w : World (Shared G) Proc} (h : Step env w.shared p (w.proc p) a s' P')
    (ho : (outline G).Holds w) (hlive : w.shared.db.LiveUnique) (hC : OwnFlushes w p a)
    (hbooked : w.shared.db.BookedFor k u) :
    OwnStep w.shared k u hold e (w.proc p) s' P' := by
  have hw := h.seatWrite (ho.own p) k
  have hown := ho.own p
  obtain ⟨hstatus, hholder, b, hb, hof⟩ := hbooked
  have hunacquired := h.unacquired (k := k) fun r now _ => by simp [takeable, hstatus]
  have hof' := h.bookingOf ho.shared hof
  simp only [OwnFlushes] at hC
  generalize hp : w.proc p = P at h hw hown hC hunacquired
  generalize hrow : s'.db.seat k = row at hw
  cases hw with
  | kept => exact ⟨.inl hrow, .inl (.inr ⟨hrow ▸ hstatus, hrow ▸ hholder, b, hrow ▸ hb, hof'⟩),
      hunacquired⟩
  | pins _ _ _ hheld => simp [hstatus] at hheld
  | unpins _ hnot => exact absurd hstatus hnot
  | @tickets r σ σ' pay v hmem hbooking =>
    cases h with
    | @booking _ x _ _ _ h =>
      obtain ⟨-, hbefore, -⟩ := hown σ.bookingId rfl
      obtain ⟨htrig, hissuable⟩ := h.issuable_of_capture ho.shared hbefore hlive
      obtain ⟨i, hi, rfl⟩ := List.mem_map.mp hmem
      have hpinned := hC htrig hissuable i hi
      obtain rfl : b = σ.bookingId := Option.some.inj (hb.symm.trans hpinned)
      obtain ⟨bookingRow, hfound, hu⟩ := hof
      obtain ⟨bookingRow', hfound', hu'⟩ := hbefore.bookingOf
      obtain rfl : bookingRow = bookingRow' := Option.some.inj (hfound.symm.trans hfound')
      refine ⟨.inr (hrow ▸ .tickets (hu'.symm.trans hu) hb), .inl (.inr ⟨hrow ▸ rfl,
        hrow ▸ hholder, _, hrow ▸ hb, hof'⟩), hunacquired⟩
  | returns hP hpinned =>
    obtain rfl := Option.some.inj (hb.symm.trans hpinned)
    exact ⟨.inr (hrow ▸ .returns hP hof hb), .inr (hrow ▸ rfl), hunacquired⟩
  | acquires _ _ htake => simp [takeable, hstatus] at htake
  | releases hrel => simp [releasable, hstatus] at hrel
  | sweeps hsweep => simp [sweepable, hstatus] at hsweep

/-! ### Runs -/

/-- A step of the user's side gives the seat back: up to that step the user has it, and the
step is one of the writes of its owner and leaves the seat available. -/
def EndedByOwner (env : Env) (C : World (Shared G) Proc → ℕ → Input → Prop)
    (w₀ : World (Shared G) Proc) (as : List (ℕ × Input)) (k : SeatId) (u : UserId) (hold : HoldId)
    (e : Time) : Prop :=
  ∃ before q a after w w', as = before ++ (q, a) :: after ∧ (service env G).Run C w₀ before w ∧
    (service env G).next w q a = some w' ∧ w.shared.db.Kept k u hold e ∧
      OwnWrite w.shared k u hold (w.proc q) (w'.shared.db.seat k) ∧
        (w'.shared.db.seat k).status = .available

theorem EndedByOwner.snoc {C : World (Shared G) Proc → ℕ → Input → Prop}
    {w₀ : World (Shared G) Proc} {as : List (ℕ × Input)} (h : EndedByOwner env C w₀ as k u hold e)
    (q : ℕ) (b : Input) : EndedByOwner env C w₀ (as ++ [(q, b)]) k u hold e := by
  obtain ⟨before, q', a, after, w, w', rfl, hrest⟩ := h
  exact ⟨before, q', a, after ++ [(q, b)], w, w', by simp, hrest⟩

omit [PaymentGateway G] in
theorem Db.Kept.not_available {db : Db} (h : db.Kept k u hold e) :
    (db.seat k).status ≠ .available := by
  rcases h with hheld | hbooked
  · simp [hheld.status]
  · simp [hbooked.status]

/-- One step of a run on a seat that the user has. -/
theorem ownStep_next {db : Db} {g : G} {clock : Time} {w : World (Shared G) Proc}
    {as : List (ℕ × Input)} {q : ℕ} {b : Input} (hdb : db.Initial)
    (h : (service env G).Run OwnFlushes (initialWorld db g clock) as w)
    (hC : OwnFlushes w q b) (hs : Step env w.shared q (w.proc q) b s' P')
    (hkept : w.shared.db.Kept k u hold e) (he : w.shared.clock ≤ e) :
    OwnStep w.shared k u hold e (w.proc q) s' P' := by
  have ho := outline_holds hdb h
  have hlive := liveUnique_holds hdb h
  rcases hkept with hheld | hbooked
  · exact hs.held_cases ho hlive (pinnedByHolder_holds hdb h) (timely_holds h q) hC hheld he
  · exact hs.booked_cases ho hlive hC hbooked

/-- **The user keeps the seat, or its side gives it back.** -/
theorem kept_of_run {db : Db} {g : G} {clock : Time} {w₀ w : World (Shared G) Proc}
    {as₀ as : List (ℕ × Input)} (hdb : db.Initial)
    (h₀ : (service env G).Run OwnFlushes (initialWorld db g clock) as₀ w₀)
    (hkept : w₀.shared.db.Kept k u hold e)
    (h : (service env G).Run OwnFlushes w₀ as w) (he : w.shared.clock ≤ e) :
    w.shared.db.Kept k u hold e ∨ EndedByOwner env OwnFlushes w₀ as k u hold e := by
  induction h with
  | nil => exact .inl hkept
  | @snoc as w₁ w₂ q a hrun hC hn ih =>
    have hall := h₀.trans hrun
    obtain ⟨s', P', hs, rfl⟩ := System.next_eq_some.mp hn
    have hstep := step_of hs
    have he₁ : w₁.shared.clock ≤ e := hstep.clock_le.trans he
    rcases ih he₁ with hstill | hended
    · obtain ⟨hrow, hafter | hgone, -⟩ := ownStep_next hdb hall hC hstep hstill he₁
      · exact .inl hafter
      · rcases hrow with hsame | hown
        · rw [hsame] at hgone
          exact absurd hgone hstill.not_available
        · exact .inr ⟨as, q, a, [], w₁, _, rfl, hrun, hn, hstill, hown, hgone⟩
    · exact .inr (hended.snoc q a)

/-- The row an acquired hold leaves is that hold. -/
theorem Step.held_of_acquire {r : HoldRequest} {now : Time}
    (h : Step env s p (.hold r (.update now)) a s' (.hold r (.refresh k))) :
    (s'.db.seat k).Held r.userId s.uuid (now + seconds env.holdTtlSeconds) := by
  cases h with
  | hold h =>
    cases h with
    | acquires hf htake =>
      show ((acquiredDb env s.db r.userId now s.uuid k).seat k).Held _ _ _
      rw [acquiredDb_seat, if_pos rfl]
      exact ⟨rfl, rfl, rfl, rfl⟩

/-- **A live hold is exclusive and stable.**  After `acquire_hold` has taken the seat,
and until the hold expires, the row is that hold, or is booked for a booking of the user,
unless the user's side has given the seat back; and as long as it is, nobody acquires the
seat, and only the user's side writes the row.  This holds of the runs in which flushes of
seat instances go through over rows of their own booking only. -/
theorem hold_stable {db : Db} {g : G} {clock : Time} {w₀ w₁ w : World (Shared G) Proc}
    {as₀ as : List (ℕ × Input)} {r : HoldRequest} {now : Time} (hdb : db.Initial)
    (h₀ : (service env G).Run OwnFlushes (initialWorld db g clock) as₀ w₀)
    (hp : w₀.proc p = .hold r (.update now)) (hn : (service env G).next w₀ p a = some w₁)
    (hk : w₁.proc p = .hold r (.refresh k))
    (h : (service env G).Run OwnFlushes w₁ as w)
    (he : w.shared.clock ≤ now + seconds env.holdTtlSeconds) :
    (w₁.shared.db.seat k).Held r.userId w₀.shared.uuid (now + seconds env.holdTtlSeconds) ∧
    (w.shared.db.Kept k r.userId w₀.shared.uuid (now + seconds env.holdTtlSeconds) ∨
      EndedByOwner env OwnFlushes w₁ as k r.userId w₀.shared.uuid
        (now + seconds env.holdTtlSeconds)) ∧
    (w.shared.db.Kept k r.userId w₀.shared.uuid (now + seconds env.holdTtlSeconds) →
      ∀ q b w', OwnFlushes w q b → (service env G).next w q b = some w' →
        (w'.shared.db.seat k = w.shared.db.seat k ∨
          OwnWrite w.shared k r.userId w₀.shared.uuid (w.proc q) (w'.shared.db.seat k)) ∧
        ∀ r' now', w.proc q = .hold r' (.update now') →
          w'.proc q ≠ .hold r' (.refresh k)) := by
  have hC : OwnFlushes w₀ p a := by
    unfold OwnFlushes
    rw [hp]
    trivial
  have hrun₁ := h₀.snoc hC hn
  have hheld : (w₁.shared.db.seat k).Held r.userId w₀.shared.uuid
      (now + seconds env.holdTtlSeconds) := by
    obtain ⟨s', P', hs, rfl⟩ := System.next_eq_some.mp hn
    have hstep := step_of hs
    simp only [Function.update_self] at hk
    rw [hp, hk] at hstep
    exact hstep.held_of_acquire
  refine ⟨hheld, kept_of_run hdb hrun₁ (.inl hheld) h he, fun hstill q b w' hC' hn' => ?_⟩
  obtain ⟨s', P', hs, rfl⟩ := System.next_eq_some.mp hn'
  have hsteps := ownStep_next hdb (hrun₁.trans h) hC' (step_of hs) hstill he
  refine ⟨hsteps.row, fun r' now' hq => ?_⟩
  simpa only [Function.update_self] using hsteps.unacquired r' now' hq

/-- The request of a hold that is about to run its UPDATE, and when it counted. -/
def Proc.counted? : Proc → Option (HoldRequest × Time)
  | .hold r (.update now) => some (r, now)
  | _ => none

/-- The request of a hold that has run its UPDATE, and its seat. -/
def Proc.updated? : Proc → Option (HoldRequest × SeatId)
  | .hold r (.refresh k) => some (r, k)
  | _ => none

theorem Proc.counted?_eq_some {P : Proc} {r : HoldRequest} {now : Time}
    (h : P.counted? = some (r, now)) : P = .hold r (.update now) := by
  unfold counted? at h
  split at h
  · obtain ⟨rfl, rfl⟩ := Prod.mk.inj (Option.some.inj h)
    rfl
  · simp at h

theorem Proc.updated?_eq_some {P : Proc} {r : HoldRequest} {k : SeatId}
    (h : P.updated? = some (r, k)) : P = .hold r (.refresh k) := by
  unfold updated? at h
  split at h
  · obtain ⟨rfl, rfl⟩ := Prod.mk.inj (Option.some.inj h)
    rfl
  · simp at h

/-- The user of a hold books the seat, and shortly before the hold expires another user asks
for it. -/
def bookedBeforeExpiry : List (ℕ × Input) :=
  asks 1 (.createBooking ⟨10, "key-of-ada-00000001", soloBody 0 "tok_test_aaaa11110000"⟩) 14
      (.calm 1) ++
    waits 2 (seconds 599) ++ asks 3 (.createHold ⟨20, 7, "1A"⟩) 1 (.calm 2)

/-- A booked seat stays booked for its user, and the other user does not get it. -/
theorem hold_stable_contended :
    ∃ w₀ w₁ w r, (service demoEnv FakePaymentGateway).Run OwnFlushes (onSale 1)
        (asks 0 (.createHold ⟨10, 7, "1A"⟩) 1 (.calm 0)) w₀ ∧
      w₀.proc 0 = .hold r (.update 0) ∧ r.userId = 10 ∧ w₀.shared.uuid = 0 ∧
      (service demoEnv FakePaymentGateway).next w₀ 0 (.go (.calm 0)) = some w₁ ∧
      w₁.proc 0 = .hold r (.refresh 0) ∧ (w₁.shared.db.seat 0).Held 10 0 (seconds 600) ∧
      (service demoEnv FakePaymentGateway).Run OwnFlushes w₁ bookedBeforeExpiry w ∧
      (w.shared.db.seat 0).status = .booked ∧ w.shared.db.Kept 0 10 0 (seconds 600) ∧
      ∃ r' now', w.proc 3 = .hold r' (.update now') ∧ ∀ w', OwnFlushes w 3 (.go (.calm 2)) →
        (service demoEnv FakePaymentGateway).next w 3 (.go (.calm 2)) = some w' →
          w'.proc 3 ≠ .hold r' (.refresh 0) := by
  have hrun : ((service demoEnv FakePaymentGateway).checked OwnFlushes (onSale 1)
      (asks 0 (.createHold ⟨10, 7, "1A"⟩) 1 (.calm 0))).any (fun w₀ =>
        ((service demoEnv FakePaymentGateway).next w₀ 0 (.go (.calm 0))).any fun w₁ =>
          ((service demoEnv FakePaymentGateway).checked OwnFlushes w₁ bookedBeforeExpiry).any
            fun w => decide (w.shared.clock ≤ seconds 600 ∧ w₀.shared.uuid = 0 ∧
                (w₀.proc 0).counted? = some (⟨10, 7, "1A"⟩, 0) ∧
                (w₁.proc 0).updated? = some (⟨10, 7, "1A"⟩, 0) ∧
                ((w.shared.db.seat 0).status = .booked ∧
                  (w.shared.db.seat 0).heldByUserId = some 10 ∧
                  (w.shared.db.seat 0).bookingId = some 1 ∧
                  (w.shared.db.booking 1).map Booking.userId = some 10) ∧
                (w.proc 3).counted? = some (⟨20, 7, "1A"⟩, seconds 599))) = true := by
    decide +kernel
  obtain ⟨w₀, h₀, htest⟩ := System.exists_run_of_checked hrun
  obtain ⟨w₁, hn, htest⟩ := (Option.any_eq_true _ _).mp htest
  obtain ⟨w, h, htest⟩ := System.exists_run_of_checked htest
  obtain ⟨he, huuid, hp, hk, ⟨hbooked, hholder, hb, hof⟩, hasked⟩ := of_decide_eq_true htest
  have hp := Proc.counted?_eq_some hp
  have hk := Proc.updated?_eq_some hk
  have hasked := Proc.counted?_eq_some hasked
  have hle : w.shared.clock ≤ 0 + seconds demoEnv.holdTtlSeconds := he
  have hkept : w.shared.db.Kept 0 10 0 (seconds 600) :=
    .inr ⟨hbooked, hholder, 1, hb, Option.map_eq_some_iff.mp hof⟩
  obtain ⟨hheld, -, hsteps⟩ := hold_stable (Db.seeded_initial _ _ _ _) h₀ hp hn hk h hle
  rw [huuid] at hheld hsteps
  exact ⟨w₀, w₁, w, _, h₀, hp, rfl, huuid, hn, hk, hheld, h, hbooked, hkept, _, _, hasked,
    fun w' hC hn' => (hsteps hkept 3 _ w' hC hn').2 _ _ hasked⟩

/-- The hold of a saga lapses while its card is charged, and another user takes the
seat and starts to book it. -/
def overbookedSaga : List (ℕ × Input) :=
  lapsedSaga ++ asks 4 (.createBooking
    ⟨20, "key-of-bob-00000001", soloBody 4 "tok_test_aaaa11110000"⟩) 4 (.calm 3)

/-- **A saga that has lost its seat books it all the same**, once the other user's
booking has pinned it: the CHECK constraint does not object, and the live hold is gone. -/
theorem hold_booked_by_stranger :
    ∃ w w' r σ pay, (service demoEnv FakePaymentGateway).Run (fun _ _ _ => True) (onSale 2)
        overbookedSaga w ∧
      w.proc 2 = .booking r (.issueTickets σ pay) ∧ r.userId = 10 ∧
      (w.shared.db.seat 0).Held 20 4 (seconds 1201) ∧ w.shared.clock ≤ seconds 1201 ∧
      (w.shared.db.seat 0).bookingId = some 5 ∧ σ.bookingId = 1 ∧
      (service demoEnv FakePaymentGateway).next w 2 (.go (.calm 2)) = some w' ∧
      (w'.shared.db.seat 0).status = .booked ∧
      ¬ OwnWrite w.shared 0 20 4 (w.proc 2) (w'.shared.db.seat 0) := by
  have hrun : ((service demoEnv FakePaymentGateway).checked (fun _ _ _ => True) (onSale 2)
      overbookedSaga).any (fun w => (w.proc 2).issuing?.any fun c =>
        decide (c.1.userId = 10 ∧ (w.shared.db.seat 0).Held 20 4 (seconds 1201) ∧
          w.shared.clock ≤ seconds 1201 ∧ (w.shared.db.seat 0).bookingId = some 5 ∧
            c.2.1.bookingId = 1) &&
          ((service demoEnv FakePaymentGateway).next w 2 (.go (.calm 2))).any fun w' =>
            decide ((w'.shared.db.seat 0).status = .booked)) = true := by
    decide +kernel
  obtain ⟨w, hw, htest⟩ := System.exists_run_of_checked hrun
  obtain ⟨⟨r, σ, pay⟩, hp, htest⟩ := (Option.any_eq_true _ _).mp htest
  obtain ⟨hcond, htest⟩ := Bool.and_eq_true_iff.mp htest
  obtain ⟨w', hn, hbooked⟩ := (Option.any_eq_true _ _).mp htest
  obtain ⟨hu, hheld, hlive, hpinned, hsaga⟩ := of_decide_eq_true hcond
  have hp := Proc.issuing?_eq_some hp
  have hbooked := of_decide_eq_true hbooked
  refine ⟨w, w', r, σ, pay, hw, hp, hu, hheld, hlive, hpinned, hsaga, hn, hbooked, fun hown => ?_⟩
  rw [hp] at hown
  generalize hrow : w'.shared.db.seat 0 = row at hown
  cases hown with
  | tickets hr =>
    rw [hu] at hr
    exact absurd hr (by decide)
  | returns hP =>
    simp [Proc.returning?] at hP

end SkyLock
