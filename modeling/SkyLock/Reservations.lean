import SkyLock.Agreement
import SkyLock.HoldStability
import SkyLock.Lib.Reservation
import SkyLock.SoloBookings

/-!
# The seats as a reservation board

Read as places that are free, held or sold, the rows of `seat_inventory` play a
reservation board: each step of a process makes one move on each seat, one that the
request of the process may make.  What a board keeps holds of the rows in every run, stale
flushes included, since those too write no seat that their statement may not.

## Main definitions

* `SeatInventory.place`, `Shared.board` — what a row is, and the board of a state.
* `Proc.actor` — who acts in a step of a process.
* `SeatInventory.Shaped` — the columns of a row agree.

## Main results

* `Step.advance` — one step is an advance of the board.
* `seats_refine` — **the seats play a reservation board**.
* `holds_live_once` — **a hold is on one seat, for one user, in one stretch**.
* `bookings_held_first` — **who has a seat booked held it when the booking was opened**.
* `reselling_returns` — **a booked seat is resold only to a booking opened after its return**.
-/

namespace SkyLock

open Concurrent Reservation

variable {G : Type} [PaymentGateway G] {env : Env} {s s' : Shared G} {p : ℕ} {P P' : Proc}
  {a : Input} {k k' : SeatId} {u u' : UserId} {b : BookingId} {hold : HoldId} {e e' : Time}

/-! ### Rows and places -/

namespace SeatInventory

/-- What a row is, as a place of the board. -/
def place (r : SeatInventory) : Place UserId HoldId BookingId Time :=
  match r.status with
  | .available => .free r.bookingId
  | .held =>
    match r.heldByUserId, r.holdId, r.holdExpiresAt with
    | some u, some h, some e => .held u h e r.bookingId
    | _, _, _ => .free r.bookingId
  | .booked => r.bookingId.elim (.free none) .sold

/-- The columns of a row agree: an available row has no holder, id or expiry, and a booked
one has no id or expiry; ticketing leaves `held_by_user_id` as it is. -/
structure Shaped (r : SeatInventory) : Prop where
  checks : r.checks = true
  available : r.status = .available →
    r.heldByUserId = none ∧ r.holdId = none ∧ r.holdExpiresAt = none
  booked : r.status = .booked → r.holdId = none ∧ r.holdExpiresAt = none

variable {r : SeatInventory}

/-- What a held row has. -/
theorem Shaped.exists_held (h : r.Shaped) (hs : r.status = .held) :
    ∃ u hold e, r.Held u hold e := by
  have hchecks := h.checks
  simp only [SeatInventory.checks, hs, bne_self_eq_false, Bool.false_or, Bool.and_eq_true,
    Option.isSome_iff_exists] at hchecks
  obtain ⟨⟨⟨⟨u, hu⟩, e, he⟩, hold, hhold⟩, -⟩ := hchecks
  exact ⟨u, hold, e, hs, hu, hhold, he⟩

theorem Held.place_eq (h : r.Held u hold e) : r.place = .held u hold e r.bookingId := by
  simp [place, h.status, h.holder, h.hold, h.expiry]

theorem place_of_available (hs : r.status = .available) : r.place = .free r.bookingId := by
  simp [place, hs]

theorem place_of_booked (hs : r.status = .booked) (hb : r.bookingId = some b) :
    r.place = .sold b := by
  simp [place, hs, hb]

/-- A row of some shape is one of three things. -/
theorem Shaped.cases (h : r.Shaped) :
    r.status = .available ∨ (∃ u hold e, r.Held u hold e) ∨
      r.status = .booked ∧ ∃ b, r.bookingId = some b := by
  cases hs : r.status with
  | available => exact .inl rfl
  | held => exact .inr (.inl (h.exists_held hs))
  | booked =>
    have hsome := bookingId_isSome_of_checks h.checks hs
    exact .inr (.inr ⟨rfl, Option.isSome_iff_exists.mp hsome⟩)

/-- The claim to a place is the booking of its row. -/
theorem Shaped.claim_place (h : r.Shaped) : r.place.claim = r.bookingId := by
  rcases h.cases with hs | ⟨u, hold, e, hheld⟩ | ⟨hs, b, hb⟩
  · rw [place_of_available hs]
    rfl
  · rw [hheld.place_eq]
    rfl
  · rw [place_of_booked hs hb, hb]
    rfl

theorem Shaped.place_held_iff (h : r.Shaped) : r.place.Held u hold e ↔ r.Held u hold e := by
  constructor
  · rintro ⟨c, hc⟩
    rcases h.cases with hs | ⟨u', hold', e', hheld⟩ | ⟨hs, b, hb⟩
    · rw [place_of_available hs] at hc
      simp at hc
    · rw [hheld.place_eq] at hc
      obtain ⟨rfl, rfl, rfl, -⟩ := by simpa using hc
      exact hheld
    · rw [place_of_booked hs hb] at hc
      simp at hc
  · intro hheld
    exact ⟨r.bookingId, hheld.place_eq⟩

theorem Shaped.place_sold_iff (h : r.Shaped) :
    r.place = .sold b ↔ r.status = .booked ∧ r.bookingId = some b := by
  constructor
  · intro hc
    rcases h.cases with hs | ⟨u', hold', e', hheld⟩ | ⟨hs, b', hb⟩
    · simp [place_of_available hs] at hc
    · simp [hheld.place_eq] at hc
    · rw [place_of_booked hs hb] at hc
      obtain rfl := by simpa using hc
      exact ⟨hs, hb⟩
  · rintro ⟨hs, hb⟩
    exact place_of_booked hs hb

theorem Shaped.place_free_iff (h : r.Shaped) :
    r.place = .free none ↔ r.status = .available ∧ r.bookingId = none := by
  constructor
  · intro hc
    rcases h.cases with hs | ⟨u', hold', e', hheld⟩ | ⟨hs, b', hb⟩
    · rw [place_of_available hs] at hc
      exact ⟨hs, by simpa using hc⟩
    · simp [hheld.place_eq] at hc
    · simp [place_of_booked hs hb] at hc
  · rintro ⟨hs, hb⟩
    rw [place_of_available hs, hb]

/-- Unpinning a row drops the claim to its place. -/
theorem Shaped.place_unpinned (h : r.Shaped) (hs : r.status ≠ .booked) (v : ℕ) :
    ({ r with bookingId := none, version := v } : SeatInventory).place = r.place.unclaimed := by
  rcases h.cases with hs | ⟨u, hold, e, hheld⟩ | ⟨hbooked, -⟩
  · have hunpinned : ({ r with bookingId := none, version := v } : SeatInventory).place =
        .free none := place_of_available hs
    rw [hunpinned, place_of_available hs]
    rfl
  · have hunpinned : ({ r with bookingId := none, version := v } : SeatInventory).Held u hold e :=
      ⟨hheld.status, hheld.holder, hheld.hold, hheld.expiry⟩
    rw [hheld.place_eq, hunpinned.place_eq]
    rfl
  · exact absurd hbooked hs

/-- A seat that can be taken is an open place. -/
theorem Shaped.open_of_takeable (h : r.Shaped) {now clock : Time} (htake : takeable r now = true)
    (hnow : now ≤ clock) : r.place.Open clock := by
  rcases h.cases with hs | ⟨u, hold, e, hheld⟩ | ⟨hbooked, -⟩
  · rw [place_of_available hs]
    trivial
  · rw [hheld.place_eq]
    have hlt : e < now := by simpa [takeable, hheld.status, hheld.expiry] using htake
    exact hlt.trans_le hnow
  · simp [takeable, hbooked] at htake

/-- A shaped row with a hold id is held. -/
theorem Shaped.held_of_holdId (h : r.Shaped) (hhold : r.holdId = some hold) :
    ∃ u e, r.Held u hold e := by
  rcases h.cases with hs | ⟨u', hold', e', hheld⟩ | ⟨hs, -⟩
  · simp [(h.available hs).2.1] at hhold
  · obtain rfl := Option.some.inj (hheld.hold.symm.trans hhold)
    exact ⟨u', e', hheld⟩
  · simp [(h.booked hs).1] at hhold

end SeatInventory

omit [PaymentGateway G] in
/-- A write leaves no holder, id or expiry behind. -/
theorem SeatWrite.shaped {row : SeatInventory} (h : SeatWrite env s k P P' row)
    (hs : (s.db.seat k).Shaped) (hchecks : row.checks = true) : row.Shaped := by
  cases h with
  | kept => exact hs
  | pins hk hmem hb hstatus => exact ⟨hchecks, hs.available, hs.booked⟩
  | unpins hmem hstatus => exact ⟨hchecks, hs.available, hs.booked⟩
  | tickets => exact ⟨hchecks, by simp, fun _ => ⟨rfl, rfl⟩⟩
  | acquires =>
    refine ⟨hchecks, ?_, ?_⟩ <;> simp [SeatInventory.heldBy]
  | returns | releases | sweeps => exact ⟨hchecks, fun _ => ⟨rfl, rfl, rfl⟩, fun _ => ⟨rfl, rfl⟩⟩

/-! ### The board of a state -/

/-- The board of a state. -/
def Shared.board (s : Shared G) : Board SeatId UserId HoldId BookingId Time where
  now := s.clock
  issued := { h | h < s.uuid }
  owner b := (s.db.booking b).map Booking.userId
  place k := (s.db.seat k).place

/-- The request a process serves, as an actor; `uuid` numbers the booking it may open. -/
def Proc.actor (uuid : ℕ) : Proc → Actor UserId HoldId BookingId
  | .idle => .nobody
  | .hold r _ => .taker r.userId
  | .release r _ => .releaser r.userId r.holdId
  | .booking _ pc => .buyer (pc.booking?.getD uuid)
  | .cancel _ pc => pc.booking?.elim .nobody .canceller
  | .sweep _ => .sweeper

omit [PaymentGateway G] in
/-- Who is about to return the seats of a booking is the booking, or cancels it. -/
theorem Proc.settles_of_returning (hP : P.returning? = some b) (uuid : ℕ) :
    (P.actor uuid).Settles b := by
  cases P with
  | booking r pc =>
    cases pc <;> simp [Proc.returning?] at hP <;>
      simp [Proc.actor, Actor.Settles, BookingPc.booking?, BookingPc.saga?, hP]
  | cancel r pc =>
    cases pc <;> simp [Proc.returning?] at hP
    simp [Proc.actor, Actor.Settles, CancelPc.booking?, hP]
  | _ => simp [Proc.returning?] at hP

omit [PaymentGateway G] in
theorem Shared.board_owner {s : Shared G} :
    s.board.owner b = some u ↔ s.db.BookingOf b u := by
  simp [Shared.board, Db.BookingOf]

/-- The booking that step 1 pins a seat to is the user's. -/
theorem Step.bookingOf_opened {r : BookingRequest} {σ : Saga}
    (h : Step env s p (.booking r .openBooking) a s' (.booking r (.assess σ))) :
    s'.db.BookingOf s.uuid r.userId := by
  cases h with
  | booking h =>
    generalize hpc : BookingPc.assess σ = pc' at h
    cases h with
    | opensNothing h => rename_i e; cases e <;> simp [raised] at hpc
    | opens => exact ⟨_, Function.update_self .., rfl⟩

/-- An acquired hold has an id of its own. -/
theorem Step.uuid_lt_of_acquires {r : HoldRequest} {now : Time}
    (h : Step env s p (.hold r (.update now)) a s' (.hold r (.refresh k))) : s.uuid < s'.uuid := by
  cases h with
  | hold h =>
    cases h
    exact Nat.lt_succ_self s.uuid

/-- **One write is one move**, which the request may make. -/
theorem Step.move (h : Step env s p P a s' P') (ho : P.Outline s) (ht : Tables s)
    (htime : Timely s.clock P) (hs : (s.db.seat k).Shaped) :
    Move s.board s'.board (P.actor s.uuid) (s.board.place k) (s'.board.place k) := by
  have hw := h.seatWrite ho k
  show Move s.board s'.board (P.actor s.uuid) (s.db.seat k).place (s'.db.seat k).place
  generalize s'.db.seat k = row at hw
  cases hw with
  | kept => exact .stays
  | @pins r σ hk hmem hb hstatus hholder hhold hexpiry =>
    obtain ⟨hold, -, hhold⟩ := hhold
    obtain ⟨e, he, hlive⟩ := hexpiry
    have hheld : (s.db.seat k).Held r.userId hold e := ⟨hstatus, hholder, hhold, he⟩
    have hpinned : ((s.db.seat k).pinned s.uuid).Held r.userId hold e :=
      ⟨hstatus, hholder, hhold, he⟩
    rw [hheld.place_eq, hpinned.place_eq]
    have hnone : s.board.owner s.uuid = none := by
      have hunborn := congrArg View.row (ht.unborn s.uuid le_rfl)
      show (s.db.booking s.uuid).map _ = none
      rw [show s.db.booking s.uuid = none from hunborn]
      rfl
    exact .claims hlive hnone (Shared.board_owner.mpr (h.bookingOf_opened))
  | @unpins r σ f rows o v hmem hstatus =>
    have hunsold : ∀ b, (s.db.seat k).place ≠ .sold b := fun b hb =>
      hstatus (hs.place_sold_iff.mp hb).1
    rw [hs.place_unpinned hstatus]
    exact .unclaims hunsold
  | @tickets r σ σ' pay v hmem hbooking =>
    obtain ⟨b, hb⟩ := Option.isSome_iff_exists.mp hbooking
    have hticketed : ({ s.db.seat k with
        status := .booked, holdId := none, holdExpiresAt := none, version := v } :
          SeatInventory).place = .sold b := SeatInventory.place_of_booked rfl hb
    rw [hticketed]
    exact .sells (hs.claim_place.trans hb)
  | returns hP hb =>
    rw [SeatInventory.place_of_available (r := (s.db.seat k).returned) rfl]
    exact .returns (Proc.settles_of_returning hP s.uuid) (hs.claim_place.trans hb)
  | @acquires r now hk hseat htake =>
    have hheld : ((s.db.seat k).heldBy r.userId s.uuid (now + seconds env.holdTtlSeconds)).Held
        r.userId s.uuid (now + seconds env.holdTtlSeconds) := ⟨rfl, rfl, rfl, rfl⟩
    rw [hheld.place_eq]
    exact .takes (hs.open_of_takeable htake htime) (lt_irrefl s.uuid) h.uuid_lt_of_acquires
  | releases hrel =>
    simp only [releasable, Bool.and_eq_true, decide_eq_true_eq, beq_iff_eq] at hrel
    obtain ⟨u, hold, e, hheld⟩ := hs.exists_held hrel.2.1
    rw [hheld.place_eq, SeatInventory.place_of_available (r := (s.db.seat k).freed) rfl]
    -- the hold that is released is the one the request names, and its user's
    obtain rfl := Option.some.inj (hheld.hold.symm.trans hrel.1)
    obtain rfl := Option.some.inj (hheld.holder.symm.trans hrel.2.2)
    exact .releases
  | @sweeps now hsweep =>
    simp only [sweepable, Bool.and_eq_true, beq_iff_eq, Option.isNone_iff_eq_none] at hsweep
    obtain ⟨hstatus, hexpired, hfree⟩ := hsweep
    obtain ⟨u, hold, e, hheld⟩ := hs.exists_held hstatus
    have hlt : e < now := by simpa [hheld.expiry] using hexpired
    rw [hheld.place_eq, SeatInventory.place_of_available (r := (s.db.seat k).freed) rfl, hfree]
    show Move s.board s'.board _ _ (.free (s.db.seat k).bookingId)
    rw [hfree]
    exact .lapses (lt_of_lt_of_le hlt htime)

/-- **One step is an advance of the board.** -/
theorem Step.advance (h : Step env s p P a s' P') (ho : P.Outline s) (ht : Tables s)
    (htime : Timely s.clock P) (ha : HoldsApart s) (hs : ∀ k, (s.db.seat k).Shaped)
    (hs' : ∀ k, (s'.db.seat k).Shaped) : s.board.Advance (P.actor s.uuid) s'.board where
  now := h.clock_le
  issued _ hlt := lt_of_lt_of_le hlt h.uuid_le
  owner _ _ hb := Shared.board_owner.mpr (h.bookingOf ht (Shared.board_owner.mp hb))
  move k := h.move ho ht htime (hs k)
  apart k k' _ _ hold _ _ _ hk hk' :=
    (h.holdsApart ho ha).inj k k' hold ((hs' k).place_held_iff.mp hk).hold
      ((hs' k').place_held_iff.mp hk').hold

/-! ### Runs -/

section Runs

variable {C : World (Shared G) Proc → ℕ → Input → Prop} {db : Db} {g : G} {clock : Time}
  {w w₁ w₂ w₃ : World (Shared G) Proc} {as bs cs : List (ℕ × Input)}

omit [PaymentGateway G] in
theorem shaped_initial (hdb : db.Initial) (g : G) (clock : Time) (k : SeatId) :
    ((initialWorld db g clock).shared.db.seat k).Shaped := by
  obtain ⟨hstatus, hholder, hhold, hexpiry, -⟩ := hdb.seats k
  show (db.seat k).Shaped
  refine ⟨?_, fun _ => ⟨hholder, hhold, hexpiry⟩, fun _ => ⟨hhold, hexpiry⟩⟩
  simp [SeatInventory.checks, hstatus]

/-- The columns of a row agree in every reachable world. -/
theorem shaped_holds (hdb : db.Initial)
    (h : (service env G).Run C (initialWorld db g clock) as w) (k : SeatId) :
    (w.shared.db.seat k).Shaped := by
  have hboth := h.induct
    (I := fun w => (outline G).Holds w ∧ ∀ k, (w.shared.db.seat k).Shaped) ?_ ?_
  · exact hboth.2 k
  · exact ⟨outline_initial hdb g clock, shaped_initial hdb g clock⟩
  · rintro w₁ p a w₂ ⟨ho, hshaped⟩ - hn
    have ho' := outline_next ho hn
    obtain ⟨s', P', hs, rfl⟩ := System.next_eq_some.mp hn
    exact ⟨ho', fun k => ((step_of hs).seatWrite (ho.own p) k).shaped (hshaped k)
      (ho'.shared.checked k)⟩

/-- The boards a run passes. -/
def boards (env : Env) (w₀ : World (Shared G) Proc) (as : List (ℕ × Input)) (i : ℕ) :
    Board SeatId UserId HoldId BookingId Time :=
  ((service env G).reached w₀ as i).shared.board

/-- Who acts at each step of a run. -/
def actors (env : Env) (w₀ : World (Shared G) Proc) (as : List (ℕ × Input)) (i : ℕ) :
    Actor UserId HoldId BookingId :=
  let w := (service env G).reached w₀ as i
  as[i]?.elim .nobody fun b => (w.proc b.1).actor w.shared.uuid

/-- The boards of a run are a play of those who act in it. -/
theorem boards_play (hdb : db.Initial)
    (h : (service env G).Run C (initialWorld db g clock) as w) :
    Play (actors env (initialWorld db g clock) as) (boards env (initialWorld db g clock) as)
      as.length := by
  intro i hi
  obtain ⟨p, a, hsplit, -, hn⟩ := h.reached_succ hi
  have hrun := (h.at_reached i).1
  have hshaped := shaped_holds hdb (h.at_reached (i + 1)).1
  have ho := outline_holds hdb hrun
  obtain ⟨s', P', hs, heq⟩ := System.next_eq_some.mp hn
  have hboard : boards env (initialWorld db g clock) as (i + 1) = s'.board := by
    simp only [boards, heq]
  have hget : as[i]? = some (p, a) := by
    rw [hsplit, List.getElem?_append_right (List.length_take_le ..), List.length_take,
      Nat.min_eq_left hi.le, Nat.sub_self]
    rfl
  have hactor : actors env (initialWorld db g clock) as i =
      (((service env G).reached (initialWorld db g clock) as i).proc p).actor
        ((service env G).reached (initialWorld db g clock) as i).shared.uuid := by
    simp only [actors, hget, Option.elim_some]
  rw [heq] at hshaped
  rw [hboard, hactor]
  exact (step_of hs).advance (ho.own p) ho.shared (timely_holds hrun p) (holdsApart_holds hdb hrun)
    (shaped_holds hdb hrun) hshaped

theorem boards_blank (hdb : db.Initial) :
    (boards env (initialWorld db g clock) as 0).Blank := by
  intro k
  have hplace := SeatInventory.place_of_available (hdb.seats k).1
  rw [(hdb.seats k).2.2.2.2] at hplace
  exact hplace

theorem boards_append (h : (service env G).Run C (initialWorld db g clock) as w)
    (bs : List (ℕ × Input)) :
    boards env (initialWorld db g clock) (as ++ bs) as.length = w.shared.board :=
  congrArg (fun w => w.shared.board) (h.reached_append bs)

theorem boards_length (h : (service env G).Run C (initialWorld db g clock) as w) :
    boards env (initialWorld db g clock) as as.length = w.shared.board := by
  simpa using boards_append h []

omit [PaymentGateway G] in
theorem Shared.owner_eq_none {s : Shared G} : s.board.owner b = none ↔ s.db.booking b = none := by
  simp [Shared.board]

/-- A user buys the seat and cancels, and another user buys it. -/
def resoldSeat : List (ℕ × Input) :=
  soldSeat ++ (asks 3 (.cancelBooking ⟨10, "SKYLCC"⟩) 5 (.calm 2) ++
    asks 4 (.createHold ⟨20, 7, "1A"⟩) 3 (.calm 3) ++
    asks 5 (.createBooking ⟨20, "key-of-bob-00000001", soloBody 5 "tok_test_aaaa11110000"⟩) 9
      (.calm 4))

/-- **The seats play a reservation board.**  The columns of every row agree at every moment
of a run, so that each row is one place of the board; nothing is reserved at the start; and
each step of a process makes one move of the board on every seat, as the request it serves
may: holds are taken and released by their users, seats are claimed, sold and returned by
bookings, and the sweep frees what has lapsed and nobody claims. -/
theorem seats_refine (hdb : db.Initial)
    (h : (service env G).Run C (initialWorld db g clock) as w) :
    Play (actors env (initialWorld db g clock) as) (boards env (initialWorld db g clock) as)
        as.length ∧
      (boards env (initialWorld db g clock) as 0).Blank ∧
      boards env (initialWorld db g clock) as as.length = w.shared.board ∧
      ∀ k, (w.shared.db.seat k).Shaped :=
  ⟨boards_play hdb h, boards_blank hdb, boards_length h, shaped_holds hdb h⟩

/-- A seat that is sold, returned and sold again. -/
theorem seats_refine_resold :
    ∃ w, (service demoEnv FakePaymentGateway).Run (fun _ _ _ => True) (onSale 1) resoldSeat w ∧
      (w.shared.db.seat 0).place = .sold 6 ∧
      Play (actors demoEnv (onSale 1) resoldSeat) (boards demoEnv (onSale 1) resoldSeat)
        resoldSeat.length ∧
      (boards demoEnv (onSale 1) resoldSeat 0).Blank ∧
      boards demoEnv (onSale 1) resoldSeat resoldSeat.length = w.shared.board ∧
      ∀ k, (w.shared.db.seat k).Shaped := by
  have hrun : ((service demoEnv FakePaymentGateway).checked (fun _ _ _ => True) (onSale 1)
      resoldSeat).any (fun w => decide ((w.shared.db.seat 0).status = .booked ∧
        (w.shared.db.seat 0).bookingId = some 6)) = true := by
    decide +kernel
  obtain ⟨w, hw, htest⟩ := System.exists_run_of_checked hrun
  obtain ⟨hstatus, hb⟩ := of_decide_eq_true htest
  exact ⟨w, hw, SeatInventory.place_of_booked hstatus hb, seats_refine (Db.seeded_initial ..) hw⟩

/-- **A hold is on one seat, for one user, in one stretch.**  A hold that is on a row, and
later on a row, is on the same row, for the same user and until the same expiry, and was
so all the time in between: what has ended does not come back. -/
theorem holds_live_once (hdb : db.Initial)
    (h : (service env G).Run C (initialWorld db g clock) as w₁)
    (h' : (service env G).Run C w₁ bs w₂) (h'' : (service env G).Run C w₂ cs w₃)
    (hheld : (w₁.shared.db.seat k).Held u hold e)
    (hlater : (w₃.shared.db.seat k').holdId = some hold) :
    k = k' ∧ (w₂.shared.db.seat k).Held u hold e ∧ (w₃.shared.db.seat k).Held u hold e := by
  have hrun₂ := h.trans h'
  have hrun₃ := hrun₂.trans h''
  have hshaped := shaped_holds hdb hrun₃
  obtain ⟨u', e', hheld'⟩ := (hshaped k').held_of_holdId hlater
  have hplay := boards_play hdb hrun₃
  have hfirst : ((boards env (initialWorld db g clock) (as ++ bs ++ cs) as.length).place k).Held
      u hold e := by
    rw [List.append_assoc, boards_append h]
    exact (shaped_holds hdb h k).place_held_iff.mpr hheld
  have hlast : ((boards env (initialWorld db g clock) (as ++ bs ++ cs)
      (as ++ bs ++ cs).length).place k').Held u' hold e' := by
    rw [boards_length hrun₃]
    exact (hshaped k').place_held_iff.mpr hheld'
  obtain ⟨rfl, rfl, rfl, hbetween⟩ := hplay.held_once (boards_blank hdb).sound
    (j := (as ++ bs).length) (by simp) (by simp) le_rfl hfirst hlast
  rw [boards_append hrun₂] at hbetween
  exact ⟨rfl, (shaped_holds hdb hrun₂ k).place_held_iff.mp hbetween, hheld'⟩

/-- A hold that stands while another user asks for the seat. -/
theorem holds_live_once_contended :
    ∃ w₁ w₂ w₃, (service demoEnv FakePaymentGateway).Run (fun _ _ _ => True) (onSale 1)
        (asks 1 (.createHold ⟨10, 7, "1A"⟩) 3 (.calm 0)) w₁ ∧
      (service demoEnv FakePaymentGateway).Run (fun _ _ _ => True) w₁ (waits 0 (seconds 30)) w₂ ∧
      (service demoEnv FakePaymentGateway).Run (fun _ _ _ => True) w₂
        (asks 2 (.createHold ⟨20, 7, "1A"⟩) 2 (.calm 1)) w₃ ∧
      (w₂.shared.db.seat 0).Held 10 0 (seconds 600) ∧
      (w₃.shared.db.seat 0).Held 10 0 (seconds 600) := by
  have hrun : ((service demoEnv FakePaymentGateway).checked (fun _ _ _ => True) (onSale 1)
      (asks 1 (.createHold ⟨10, 7, "1A"⟩) 3 (.calm 0))).any (fun w₁ =>
        ((service demoEnv FakePaymentGateway).checked (fun _ _ _ => True) w₁
          (waits 0 (seconds 30))).any fun w₂ =>
            ((service demoEnv FakePaymentGateway).checked (fun _ _ _ => True) w₂
              (asks 2 (.createHold ⟨20, 7, "1A"⟩) 2 (.calm 1))).any fun w₃ =>
                decide ((w₁.shared.db.seat 0).Held 10 0 (seconds 600) ∧
                  (w₃.shared.db.seat 0).holdId = some 0)) = true := by
    decide +kernel
  obtain ⟨w₁, h₁, htest⟩ := System.exists_run_of_checked hrun
  obtain ⟨w₂, h₂, htest⟩ := System.exists_run_of_checked htest
  obtain ⟨w₃, h₃, htest⟩ := System.exists_run_of_checked htest
  obtain ⟨hheld, hlater⟩ := of_decide_eq_true htest
  obtain ⟨-, hkept⟩ := holds_live_once (Db.seeded_initial ..) h₁ h₂ h₃ hheld hlater
  exact ⟨w₁, w₂, w₃, h₁, h₂, h₃, hkept⟩

/-- **Who has a seat booked held it when the booking was opened.**  The booking a row names
was opened by one step of the run, while its user had a hold on the seat that had not
expired, and the row has named it ever since. -/
theorem bookings_held_first (hdb : db.Initial)
    (h : (service env G).Run C (initialWorld db g clock) as w)
    (hb : (w.shared.db.seat k).bookingId = some b) :
    ∃ before q a after w₁ w₂, as = before ++ (q, a) :: after ∧
      (service env G).Run C (initialWorld db g clock) before w₁ ∧
      (service env G).next w₁ q a = some w₂ ∧ (service env G).Run C w₂ after w ∧
      w₁.shared.db.booking b = none ∧
      (∃ u hold e, (w₁.shared.db.seat k).Held u hold e ∧ w₁.shared.clock < e ∧
        w₂.shared.db.BookingOf b u) ∧
      ∀ bs cs v, after = bs ++ cs → (service env G).Run C w₂ bs v →
        (v.shared.db.seat k).bookingId = some b := by
  have hclaim : ((boards env (initialWorld db g clock) as as.length).place k).claim = some b := by
    rw [boards_length h]
    exact (shaped_holds hdb h k).claim_place.trans hb
  obtain ⟨i, hi, u, hold, e, hheld, hlive, hnew, howner, hsince⟩ :=
    (boards_play hdb h).claimed_since (boards_blank hdb) le_rfl hclaim
  obtain ⟨hbefore, -⟩ := h.at_reached i
  obtain ⟨hthrough, hafter⟩ := h.at_reached (i + 1)
  obtain ⟨q, a, hsplit, -, hn⟩ := h.reached_succ hi
  refine ⟨_, q, a, _, _, _, hsplit, hbefore, hn, hafter, Shared.owner_eq_none.mp hnew,
    ⟨u, hold, e, (shaped_holds hdb hbefore k).place_held_iff.mp hheld, hlive,
      Shared.board_owner.mp howner⟩, fun bs cs v hbs hv => ?_⟩
  have hrun := hthrough.trans hv
  have hlen : (as.take (i + 1) ++ bs).length = i + 1 + bs.length := by
    rw [List.length_append, List.length_take, Nat.min_eq_left hi]
  have hboard := boards_append hrun cs
  rw [List.append_assoc, ← hbs, List.take_append_drop, hlen] at hboard
  have hle : i + 1 + bs.length ≤ as.length := by
    have hsum := congrArg List.length hbs
    rw [List.length_drop, List.length_append] at hsum
    omega
  have hnamed := hsince (i + 1 + bs.length) (by omega) hle
  rw [hboard] at hnamed
  exact (shaped_holds hdb hrun k).claim_place.symm.trans hnamed

/-- The seat of a sale was held by the buyer. -/
theorem bookings_held_first_sold :
    ∃ w before q a after w₁ w₂, (service demoEnv FakePaymentGateway).Run (fun _ _ _ => True)
        (onSale 1) soldSeat w ∧
      (w.shared.db.seat 0).status = .booked ∧ soldSeat = before ++ (q, a) :: after ∧
      (service demoEnv FakePaymentGateway).Run (fun _ _ _ => True) (onSale 1) before w₁ ∧
      (service demoEnv FakePaymentGateway).next w₁ q a = some w₂ ∧
      ∃ u hold e, (w₁.shared.db.seat 0).Held u hold e ∧ w₁.shared.clock < e ∧
        w₂.shared.db.BookingOf 1 u := by
  have hrun : ((service demoEnv FakePaymentGateway).checked (fun _ _ _ => True) (onSale 1)
      soldSeat).any (fun w => decide ((w.shared.db.seat 0).status = .booked ∧
        (w.shared.db.seat 0).bookingId = some 1)) = true := by
    decide +kernel
  obtain ⟨w, hw, htest⟩ := System.exists_run_of_checked hrun
  obtain ⟨hstatus, hb⟩ := of_decide_eq_true htest
  obtain ⟨before, q, a, after, w₁, w₂, hsplit, hbefore, hn, -, -, hheld, -⟩ :=
    bookings_held_first (Db.seeded_initial ..) hw hb
  exact ⟨w, before, q, a, after, w₁, w₂, hw, hstatus, hsplit, hbefore, hn, hheld⟩

/-- **A booked seat is resold only to a booking opened after its return.**  Between two
moments at which a row is booked for two bookings, the seat was on sale with no booking on
it, and the second booking was not open yet. -/
theorem reselling_returns {b' : BookingId} (hdb : db.Initial)
    (h : (service env G).Run C (initialWorld db g clock) as w₁)
    (h' : (service env G).Run C w₁ bs w₂)
    (hbooked : (w₁.shared.db.seat k).status = .booked)
    (hb : (w₁.shared.db.seat k).bookingId = some b)
    (hbooked' : (w₂.shared.db.seat k).status = .booked)
    (hb' : (w₂.shared.db.seat k).bookingId = some b') (hne : b ≠ b') :
    ∃ xs ys v, bs = xs ++ ys ∧ (service env G).Run C w₁ xs v ∧ (service env G).Run C v ys w₂ ∧
      (v.shared.db.seat k).status = .available ∧ (v.shared.db.seat k).bookingId = none ∧
      v.shared.db.booking b' = none := by
  have hrun := h.trans h'
  have hfirst : (boards env (initialWorld db g clock) (as ++ bs) as.length).place k =
      .sold b := by
    rw [boards_append h]
    exact (shaped_holds hdb h k).place_sold_iff.mpr ⟨hbooked, hb⟩
  have hlast : (boards env (initialWorld db g clock) (as ++ bs) (as ++ bs).length).place k =
      .sold b' := by
    rw [boards_length hrun]
    exact (shaped_holds hdb hrun k).place_sold_iff.mpr ⟨hbooked', hb'⟩
  obtain ⟨l, hl, hl', hfree, hunopened⟩ := (boards_play hdb hrun).resold (boards_blank hdb)
    (by simp) le_rfl hfirst hlast hne
  rw [← List.take_append_drop (l - as.length) bs] at h'
  obtain ⟨v, hv, hv'⟩ := h'.of_append
  have hboard := boards_append (h.trans hv) (bs.drop (l - as.length))
  have hlen : (as ++ bs.take (l - as.length)).length = l := by
    rw [List.length_append] at hl'
    rw [List.length_append, List.length_take]
    omega
  rw [List.append_assoc, List.take_append_drop, hlen] at hboard
  rw [hboard] at hfree hunopened
  obtain ⟨hstatus, hnone⟩ := (shaped_holds hdb (h.trans hv) k).place_free_iff.mp hfree
  exact ⟨_, _, v, (List.take_append_drop _ _).symm, hv, hv', hstatus, hnone,
    Shared.owner_eq_none.mp hunopened⟩

/-- A seat is sold again after its booking was cancelled. -/
theorem reselling_returns_cancelled :
    ∃ w₁ w₂ v, (service demoEnv FakePaymentGateway).Run (fun _ _ _ => True) (onSale 1) soldSeat w₁ ∧
      (w₁.shared.db.seat 0).bookingId = some 1 ∧ (w₂.shared.db.seat 0).bookingId = some 6 ∧
      ∃ xs ys, resoldSeat = soldSeat ++ (xs ++ ys) ∧
        (service demoEnv FakePaymentGateway).Run (fun _ _ _ => True) w₁ xs v ∧
        (service demoEnv FakePaymentGateway).Run (fun _ _ _ => True) v ys w₂ ∧
        (v.shared.db.seat 0).status = .available ∧ v.shared.db.booking 6 = none := by
  have hrun : ((service demoEnv FakePaymentGateway).checked (fun _ _ _ => True) (onSale 1)
      soldSeat).any (fun w₁ => ((service demoEnv FakePaymentGateway).checked (fun _ _ _ => True) w₁
        (asks 3 (.cancelBooking ⟨10, "SKYLCC"⟩) 5 (.calm 2) ++
          asks 4 (.createHold ⟨20, 7, "1A"⟩) 3 (.calm 3) ++
          asks 5 (.createBooking
            ⟨20, "key-of-bob-00000001", soloBody 5 "tok_test_aaaa11110000"⟩) 9 (.calm 4))).any
        fun w₂ => decide (((w₁.shared.db.seat 0).status = .booked ∧
          (w₁.shared.db.seat 0).bookingId = some 1) ∧ (w₂.shared.db.seat 0).status = .booked ∧
          (w₂.shared.db.seat 0).bookingId = some 6)) = true := by
    decide +kernel
  obtain ⟨w₁, h₁, htest⟩ := System.exists_run_of_checked hrun
  obtain ⟨w₂, h₂, htest⟩ := System.exists_run_of_checked htest
  obtain ⟨⟨hbooked, hb⟩, hbooked', hb'⟩ := of_decide_eq_true htest
  obtain ⟨xs, ys, v, hsplit, hxs, hys, hstatus, -, hunopened⟩ :=
    reselling_returns (Db.seeded_initial ..) h₁ h₂ hbooked hb hbooked' hb' (by decide)
  exact ⟨w₁, w₂, v, h₁, hb, hb', xs, ys, by rw [← hsplit]; rfl, hxs, hys, hstatus, hunopened⟩

end Runs

end SkyLock
