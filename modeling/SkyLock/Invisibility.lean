import SkyLock.AmendmentRaces
import SkyLock.HoldStability
import SkyLock.MaskedSteps
import SkyLock.Races

/-!
# Other people's bookings and holds cannot be told from absent ones

Two states of the service in one of which bookings of others are absent, and holds of others
are different ones, answer a user alike, whatever references and hold ids the requests name,
and a request of the user leaves what others have alone.  The first half has an exception.
`bookings.ref`, the ticket numbers and the live tickets of a seat are unique over everybody's
rows, and a request that runs into an absent booking's row there fails on one side only.

## Main definitions

* `SeatInventory.OfOthers` — the seats that somebody else has.
* `OthersUntouched` — nothing of anybody else's differs in two states.
* `Asking` — only a request of the user moves; `AskingClear` — and no unique index tells.
* `patchBooking` — the answer of `update_booking`.
* `SameRequest` — a request comes to the same before a mask and behind it.

## Main results

* `others_invisible` — **nobody else's rows change, and nobody else's rows are seen**.
* `others_visible` — a unique index tells that a booking is there.
-/

namespace SkyLock

open Concurrent

/-! ### What belongs to others -/

/-- The seat is somebody else's: they hold it, or it is pinned to a booking of theirs. -/
def SeatInventory.OfOthers (db : Db) (u : UserId) (r : SeatInventory) : Prop :=
  ∃ v, v ≠ u ∧ (r.heldByUserId = some v ∨ ∃ b, r.bookingId = some b ∧ db.owns v b = true)

/-- Nothing of anybody else's differs in two states of the service: not their bookings, with
all the rows of these, and not their seats. -/
structure OthersUntouched {G : Type} (u : UserId) (s s' : Shared G) : Prop where
  bookings : ∀ v, v ≠ u → Unmoved v s s'
  seat : ∀ k, (s.db.seat k).OfOthers s.db u → s'.db.seat k = s.db.seat k

section Others

variable {G : Type} [PaymentGateway G] {M : Mask} {env : Env} {s s' : Shared G} {p : ℕ}
  {u v : UserId} {P P' : Proc} {a : Input}

omit [PaymentGateway G] in
/-- A seat of somebody else's is not the user's. -/
theorem SeatInventory.OfOthers.foreign {k : SeatId} (h : (s.db.seat k).OfOthers s.db u)
    (hpins : s.db.PinsOfHolder) : (s.db.seat k).Foreign s.db u := by
  obtain ⟨v, hv, hholds⟩ := h
  have hpin : ∀ b, (s.db.seat k).bookingId = some b → s.db.BookingOf b v := by
    intro b hb
    rcases hholds with hholder | ⟨b', hb', hown⟩
    · exact hpins k b v hb hholder
    · obtain rfl := Option.some.inj (hb.symm.trans hb')
      exact Db.owns_iff.mp hown
  refine ⟨fun hholder => ?_, fun b hb => ?_⟩
  · rcases hholds with hother | ⟨b, hb, -⟩
    · exact hv (Option.some.inj (hother.symm.trans hholder))
    · obtain ⟨row, hrow, hrv⟩ := hpin b hb
      obtain ⟨row', hrow', hru⟩ := hpins k b u hb hholder
      obtain rfl := Option.some.inj (hrow.symm.trans hrow')
      exact hv (hrv.symm.trans hru)
  · obtain ⟨row, hrow, hrv⟩ := hpin b hb
    exact ⟨row, hrow, hrv ▸ hv⟩

/-! ### Behind a mask -/

omit [PaymentGateway G] in
theorem owns_masked {b : BookingId} :
    (s.db.masked M).owns v b = true ↔ M.gone b = false ∧ s.db.owns v b = true := by
  cases hgone : M.gone b <;> simp [Db.owns, hgone]

omit [PaymentGateway G] in
theorem view_masked {b : BookingId} (hb : M.gone b = false) :
    (s.masked M).view b = s.view b := by
  simp only [Shared.view, Shared.masked_db, Db.masked_booking, hb, Db.passengersOf,
    Db.paymentsOf, Db.ticketsOf, Db.masked_passengers, Db.masked_payments, Db.masked_tickets,
    filter_kept hb]
  rfl

omit [PaymentGateway G] in
theorem Unmoved.masked (h : Unmoved v s s') : Unmoved v (s.masked M) (s'.masked M) where
  view b hb := by
    have hboth : M.gone b = false ∧ (s.db.owns v b = true ∨ s'.db.owns v b = true) := by
      rcases hb with hb | hb
      · exact (owns_masked.mp hb).imp_right .inl
      · exact (owns_masked.mp hb).imp_right .inr
    obtain ⟨hkept, hb⟩ := hboth
    obtain ⟨hview, haudit⟩ := h.view b hb
    refine ⟨by rw [view_masked hkept, view_masked hkept, hview], ?_⟩
    exact (filter_kept hkept _).trans (haudit.trans (filter_kept hkept _).symm)
  seatIds := h.seatIds
  seatNo k := by
    cases hk : M.seat k with
    | none => simpa [hk] using h.seatNo k
    | some row => simp [hk]

omit [PaymentGateway G] in
theorem OthersUntouched.masked (h : OthersUntouched u s s') :
    OthersUntouched u (s.masked M) (s'.masked M) where
  bookings v hv := (h.bookings v hv).masked
  seat k hk := by
    cases hseat : M.seat k with
    | some row => simp [hseat]
    | none =>
      have hrow : ∀ db : Db, (db.masked M).seat k = db.seat k := fun _ =>
        Db.masked_seat_of_none hseat
      obtain ⟨v, hv, hholds⟩ := hk
      simp only [Shared.masked_db, hrow] at hholds ⊢
      refine h.seat k ⟨v, hv, hholds.imp_right fun ⟨b, hb, hown⟩ => ⟨b, hb, ?_⟩⟩
      exact (owns_masked.mp hown).2

end Others

/-! ### A request that runs alone -/

section Runs

variable {G : Type} [PaymentGateway G] {M : Mask} {env : Env} {u : UserId} {p : ℕ}

/-- Only process `p` moves, on a request of the user; time may pass. -/
def Asking (u : UserId) (p : ℕ) (_ : World (Shared G) Proc) (q : ℕ) : Input → Prop
  | .tick _ => True
  | .arrive r => q = p ∧ r.By u
  | .go _ => q = p

/-- And what the request inserts meets no row the mask takes away in a unique index. -/
def AskingClear (M : Mask) (u : UserId) (p : ℕ) (w : World (Shared G) Proc) (q : ℕ)
    (a : Input) : Prop :=
  Asking u p w q a ∧ match a with
    | .go x => (w.proc q).Clear M w.shared.db x
    | _ => True

/-- A mask that covers nothing. -/
def Mask.empty : Mask := ⟨fun _ => false, fun _ => none⟩

omit [PaymentGateway G] in
theorem Mask.empty_foreign (u : UserId) (db : Db) : Mask.empty.Foreign u db := by
  constructor <;> simp [Mask.empty]

omit [PaymentGateway G] in
theorem Asking.clear_empty {w : World (Shared G) Proc} {q : ℕ} {a : Input} (h : Asking u p w q a) :
    AskingClear .empty u p w q a := by
  refine ⟨h, ?_⟩
  cases a with
  | tick | arrive => trivial
  | go x =>
    show (w.proc q).Clear .empty w.shared.db x
    unfold Proc.Clear Mask.Clear
    split
    · split <;> simp [Mask.empty]
    · trivial

/-- The world behind a mask. -/
def maskedWorld (M : Mask) (w : World (Shared G) Proc) : World (Shared G) Proc :=
  ⟨w.shared.masked M, w.proc⟩

/-- What may be assumed while a request of the user runs alone. -/
structure Masking (M : Mask) (u : UserId) (p : ℕ) (w : World (Shared G) Proc) : Prop where
  outline : (outline G).Holds w
  live : w.shared.db.LiveUnique
  entitled : ∀ q, (w.proc q).Entitled w.shared
  pins : w.shared.db.PinsOfHolder
  foreign : M.Foreign u w.shared.db
  serves : (w.proc p).Serves u
  inHand : (w.proc p).InHand u w.shared.db

/-- A request can do behind the mask what it can do before it, and nothing else. -/
theorem Masking.next_masked {w : World (Shared G) Proc} {q : ℕ} {a : Input}
    (h : Masking M u p w) (hC : AskingClear M u p w q a) :
    (service env G).next (maskedWorld M w) q a =
      ((service env G).next w q a).map (maskedWorld M) := by
  have hstep : step env (w.shared.masked M) q (w.proc q) a =
      (step env w.shared q (w.proc q) a).map (behindMask M) := by
    cases a with
    | tick d =>
      generalize w.proc q = P
      cases P <;> rfl
    | arrive r =>
      obtain ⟨⟨rfl, -⟩, -⟩ := hC
      exact step_masked h.serves h.foreign h.outline.shared h.live (h.outline.own q)
        (h.entitled q) h.inHand (by simp)
    | go x =>
      obtain ⟨rfl, hclear⟩ := hC
      refine step_masked h.serves h.foreign h.outline.shared h.live (h.outline.own q)
        (h.entitled q) h.inHand fun x' hx => ?_
      obtain rfl := Input.go.inj hx
      exact hclear
  show (step env (w.shared.masked M) q (w.proc q) a).map _ =
    ((step env w.shared q (w.proc q) a).map _).map _
  rw [hstep, Option.map_map, Option.map_map]
  rfl

/-- Nothing of anybody else's has moved, and what was not the user's is not now. -/
structure OthersKept (u : UserId) (s s' : Shared G) : Prop where
  bookings : ∀ v, v ≠ u → Unmoved v s s'
  seat : ∀ k, (s.db.seat k).Foreign s.db u → s'.db.seat k = s.db.seat k
  foreign : ∀ k, (s.db.seat k).Foreign s.db u → (s'.db.seat k).Foreign s'.db u

omit [PaymentGateway G] in
theorem OthersKept.refl (u : UserId) (s : Shared G) : OthersKept u s s :=
  ⟨fun v _ => Unmoved.refl v s, fun _ _ => rfl, fun _ hk => hk⟩

omit [PaymentGateway G] in
theorem OthersKept.trans {s₁ s₂ s₃ : Shared G} (h : OthersKept u s₁ s₂) (h' : OthersKept u s₂ s₃) :
    OthersKept u s₁ s₃ where
  bookings v hv := (h.bookings v hv).trans (h'.bookings v hv)
  seat k hk := (h'.seat k (h.foreign k hk)).trans (h.seat k hk)
  foreign k hk := h'.foreign k (h.foreign k hk)

omit [PaymentGateway G] in
theorem OthersKept.untouched {s s' : Shared G} (h : OthersKept u s s') (hpins : s.db.PinsOfHolder) :
    OthersUntouched u s s' where
  bookings := h.bookings
  seat k hk := h.seat k (hk.foreign hpins)

/-- Who moves serves the user, or it is time that passes. -/
theorem Masking.mover {w : World (Shared G) Proc} {q : ℕ} {a : Input} {s' : Shared G} {P' : Proc}
    (h : Masking M u p w) (hC : AskingClear M u p w q a)
    (hstep : Step env w.shared q (w.proc q) a s' P') :
    (w.proc q).Serves u ∧ (w.proc q).InHand u w.shared.db ∧ (q = p → P'.Serves u) ∧
      (q ≠ p → s'.db = w.shared.db) := by
  cases a with
  | tick d =>
    generalize w.proc q = P at hstep
    cases hstep
    exact ⟨trivial, trivial, fun _ => trivial, fun _ => rfl⟩
  | arrive r =>
    obtain ⟨⟨rfl, hr⟩, -⟩ := hC
    refine ⟨h.serves, h.inHand, fun _ => ?_, fun hne => absurd rfl hne⟩
    generalize w.proc q = P at hstep
    cases hstep
    cases r <;> exact hr
  | go x =>
    obtain ⟨rfl, -⟩ := hC
    refine ⟨h.serves, h.inHand, fun _ => ?_, fun hne => absurd rfl hne⟩
    have hserves := h.serves
    generalize w.proc q = P at hstep hserves
    cases hstep <;> exact hserves

/-- One step of a request, before the mask and behind it. -/
theorem Masking.next {w w' : World (Shared G) Proc} {q : ℕ} {a : Input} (h : Masking M u p w)
    (hC : AskingClear M u p w q a) (hn : (service env G).next w q a = some w') :
    Masking M u p w' ∧ OthersKept u w.shared w'.shared ∧
      (service env G).next (maskedWorld M w) q a = some (maskedWorld M w') := by
  obtain ⟨s', P', hs, rfl⟩ := System.next_eq_some.mp hn
  have hstep := step_of hs
  have hout := outline_next h.outline hn
  have hent := entitled_next h.outline h.entitled hn
  have hlive : s'.db.LiveUnique := hstep.liveUnique h.live
  have hpins : s'.db.PinsOfHolder :=
    hstep.pinsOfHolder h.outline.shared (h.outline.own q) h.pins
  obtain ⟨hserves, hhand, hserves', hsame⟩ := h.mover hC hstep
  have ho := h.outline.own q
  have hkept : ∀ k, (w.shared.db.seat k).Foreign w.shared.db u →
      s'.db.seat k = w.shared.db.seat k :=
    fun k hk => hstep.foreign_kept hserves ho (h.entitled q) hhand hk
  refine ⟨⟨hout, hlive, hent, hpins, h.foreign.step hstep h.outline.shared hkept, ?_, ?_⟩,
    ⟨fun v hv => hstep.unmoved h.outline.shared ho (h.entitled q) (hserves.user?_ne hv), hkept,
      fun k hk => ?_⟩, by rw [h.next_masked hC, hn, Option.map_some]⟩
  · rcases eq_or_ne p q with rfl | hne
    · simpa using hserves' rfl
    · simpa [Function.update_of_ne hne] using h.serves
  · rcases eq_or_ne p q with rfl | hne
    · simpa using hstep.inHand hserves hhand
    · simp only [Function.update_of_ne hne, hsame hne.symm]
      exact h.inHand
  · show (s'.db.seat k).Foreign s'.db u
    rw [hkept k hk]
    exact hk.step hstep h.outline.shared

/-- A whole request, before the mask and behind it. -/
theorem Masking.run {w w' : World (Shared G) Proc} {as : List (ℕ × Input)}
    (h : Masking M u p w) (hrun : (service env G).Run (AskingClear M u p) w as w') :
    Masking M u p w' ∧ OthersKept u w.shared w'.shared ∧
      (service env G).Run (fun _ _ _ => True) (maskedWorld M w) as (maskedWorld M w') := by
  induction hrun with
  | nil => exact ⟨h, OthersKept.refl u _, .nil⟩
  | snoc _ hC hn ih =>
    obtain ⟨h₁, hkept₁, hrun₁⟩ := ih
    obtain ⟨h₂, hkept₂, hn₂⟩ := h₁.next hC hn
    exact ⟨h₂, hkept₁.trans hkept₂, .snoc hrun₁ trivial hn₂⟩

/-! ### Amendments -/

/-- The answer of `update_booking`: the booking as the update leaves it. -/
def patchBooking (t : Timetable) (db : Db) (ref : String) (userId : UserId)
    (payload : BookingPatch) : Except AppError BookingResponse :=
  (updateBooking db userId ref payload).bind fun db' => getBooking t db' ref userId

omit [PaymentGateway G] in
/-- An update writes rows of its own booking. -/
theorem updateBooking_kept {s : Shared G} (ht : Tables s) {ref : String} {payload : BookingPatch}
    {db' : Db} (h : updateBooking s.db u ref payload = .ok db') :
    OthersKept u s (s.withDb db') := by
  obtain ⟨b, row, hrow, hu, h⟩ := updateBooking_eq_ok h
  have hrest := fun c hc => amendPassengers_of_ne (c := c) (b := b) payload.passengers
    ht.passengerIds hc
  generalize (amendPassengers b payload.passengers s.db.passengers).1 = rows at h hrest
  -- the other tables are as they were, the audit rows of the booking apart
  have hdb : ∃ audit, db' = { s.db with passengers := rows, audit := audit } ∧
      ∀ c, c ≠ b → (audit.filter fun a => a.bookingId = c) = s.db.auditOf c := by
    rcases h with rfl | ⟨d, rfl⟩
    · exact ⟨s.db.audit, rfl, fun _ _ => rfl⟩
    · refine ⟨_, rfl, fun c hc => ?_⟩
      simp [Db.auditOf, setPassengers, hc.symm]
  obtain ⟨audit, rfl, haudit⟩ := hdb
  refine ⟨fun v hv => ⟨fun c hown => ?_, rfl, fun _ => rfl⟩, fun _ _ => rfl, fun _ hk =>
    ⟨hk.holder, hk.pin⟩⟩
  have hc : c ≠ b := by
    rintro rfl
    obtain ⟨row', hrow', huser⟩ := Db.owns_iff.mp (hown.elim id id)
    obtain rfl := Option.some.inj (hrow.symm.trans hrow')
    exact hv (huser.symm.trans hu)
  refine ⟨?_, haudit c hc⟩
  simp only [Shared.view, View.mk.injEq]
  exact ⟨rfl, hrest c hc, rfl, rfl, rfl⟩

omit [PaymentGateway G] in
theorem Mask.Foreign.congr {db db' : Db} (hM : M.Foreign u db) (hbooking : db'.booking = db.booking)
    (hseat : db'.seat = db.seat) : M.Foreign u db' where
  gone b hb := by
    rw [hbooking]
    exact hM.gone b hb
  before k row hk := by
    rw [hseat]
    exact ⟨(hM.before k row hk).holder, fun b hb => hbooking ▸ (hM.before k row hk).pin b hb⟩
  behind k row hk :=
    ⟨(hM.behind k row hk).holder, fun b hb => hbooking ▸ (hM.behind k row hk).pin b hb⟩
  seatNo k row hk := by
    rw [hseat]
    exact hM.seatNo k row hk

omit [PaymentGateway G] in
theorem patchBooking_masked {db : Db} (hM : M.Foreign u db) (t : Timetable) (ref : String)
    (payload : BookingPatch) :
    patchBooking t (db.masked M) ref u payload = patchBooking t db ref u payload := by
  unfold patchBooking
  rw [updateBooking_masked hM]
  cases h : updateBooking db u ref payload with
  | error e => rfl
  | ok db' =>
    obtain ⟨b, row, -, -, h⟩ := updateBooking_eq_ok h
    have hM' : M.Foreign u db' := by
      rcases h with rfl | ⟨d, rfl⟩
      · exact hM.congr rfl rfl
      · exact hM.congr rfl rfl
    exact ((alike_masked hM').sameAnswers t).get ref

/-! ### The whole -/

/-- Every route that reads a booking or a hold, or amends a booking, answers a user the same
from two databases. -/
structure SameRoutes (t : Timetable) (u : UserId) (db db' : Db) : Prop where
  bookings : SameAnswers t u db db'
  hold : ∀ now holdId, getHold t db' now holdId u = getHold t db now holdId u
  patch : ∀ ref payload, patchBooking t db' ref u payload = patchBooking t db ref u payload

/-- What a request of the user comes to, before the mask and behind it.  The processes, and so
the replies, of the one run are those of the other. -/
structure SameRequest (env : Env) (M : Mask) (u : UserId) (p : ℕ) (w : World (Shared G) Proc)
    (bs : List (ℕ × Input)) (w' : World (Shared G) Proc) : Prop where
  run : (service env G).Run (fun _ _ _ => True) (maskedWorld M w) bs (maskedWorld M w')
  next : ∀ q a, AskingClear M u p w' q a →
    (service env G).next (maskedWorld M w') q a = ((service env G).next w' q a).map (maskedWorld M)
  routes : ∀ t, SameRoutes t u w'.shared.db (w'.shared.db.masked M)
  update : ∀ ref payload, updateBooking (w'.shared.db.masked M) u ref payload =
    (updateBooking w'.shared.db u ref payload).map (Db.masked M)
  untouched : OthersUntouched u (w.shared.masked M) (w'.shared.masked M)

/-- **Other people's bookings and holds cannot be told from absent ones, and cannot be
touched.**  Take any state that a run reaches.  Whatever a user asks, be it to book, to cancel
or to release a hold, or to amend a booking, nothing of anybody else's changes.  And take the
state in which bookings of others are absent and seats that are not the user's read
otherwise: the request runs the same from there, statement by statement, so that it ends with
the same reply, provided that what it inserts meets no absent booking's row in a unique
index, and the routes that read or amend answer the same. -/
theorem others_invisible {C : World (Shared G) Proc → ℕ → Input → Prop} {db : Db} {g : G}
    {clock : Time} {w : World (Shared G) Proc} {as : List (ℕ × Input)} (u : UserId) (p : ℕ)
    (hdb : db.Initial) (h : (service env G).Run C (initialWorld db g clock) as w)
    (hp : w.proc p = .idle) :
    (∀ bs w', (service env G).Run (Asking u p) w bs w' → OthersUntouched u w.shared w'.shared ∧
      ∀ ref payload db', updateBooking w'.shared.db u ref payload = .ok db' →
        OthersUntouched u w'.shared (w'.shared.withDb db')) ∧
    ∀ M bs w', M.Foreign u w.shared.db → (service env G).Run (AskingClear M u p) w bs w' →
      SameRequest env M u p w bs w' := by
  obtain ⟨hout, hent⟩ := entitled_holds hdb h
  have hpins := (pinsOfHolder_holds hdb h).2
  have hstart : ∀ M : Mask, M.Foreign u w.shared.db → Masking M u p w := by
    intro M hM
    refine ⟨hout, liveUnique_holds hdb h, hent, hpins, hM, ?_, ?_⟩ <;> rw [hp] <;> trivial
  refine ⟨fun bs w' hrun => ?_, fun M bs w' hM hrun => ?_⟩
  · obtain ⟨hend, hkept, -⟩ := (hstart .empty (Mask.empty_foreign u _)).run
      (hrun.mono fun _ _ _ => Asking.clear_empty)
    refine ⟨hkept.untouched hpins, fun ref payload db' hupdate => ?_⟩
    exact (updateBooking_kept hend.outline.shared hupdate).untouched hend.pins
  · obtain ⟨hend, hkept, hbehind⟩ := (hstart M hM).run hrun
    exact
      { run := hbehind
        next := fun q a hC => hend.next_masked hC
        routes := fun t => ⟨(alike_masked hend.foreign).sameAnswers t,
          getHold_masked hend.foreign t, patchBooking_masked hend.foreign t⟩
        update := updateBooking_masked hend.foreign
        untouched := (hkept.untouched hpins).masked }

end Runs

/-! ### On a flight of two seats -/

instance SeatInventory.decidableForeign (db : Db) (u : UserId) (r : SeatInventory) :
    Decidable (r.Foreign db u) :=
  decidable_of_iff (r.heldByUserId ≠ some u ∧
      ∀ b ∈ r.bookingId, (db.booking b).any (fun row => decide (row.userId ≠ u)) = true)
    ⟨fun ⟨h, h'⟩ => ⟨h, fun b hb => by simpa [Option.any_eq_true] using h' b hb⟩,
      fun h => ⟨h.holder, fun b hb => by simpa [Option.any_eq_true] using h.pin b hb⟩⟩

instance (M : Mask) (db : Db) (r : BookingRequest) (x : Draws) (pc : BookingPc) :
    Decidable (M.Clear db r x pc) := by
  unfold Mask.Clear
  induction pc using BookingPc.casesOn <;> infer_instance

instance (M : Mask) (db : Db) (x : Draws) (P : Proc) : Decidable (P.Clear M db x) := by
  unfold Proc.Clear
  induction P using Proc.casesOn <;> infer_instance

instance (u : UserId) (r : Request) : Decidable (r.By u) := by
  unfold Request.By
  induction r using Request.casesOn <;> infer_instance

instance {G : Type} (M : Mask) (u : UserId) (p : ℕ) (w : World (Shared G) Proc) (q : ℕ)
    (a : Input) : Decidable (AskingClear M u p w q a) := by
  unfold AskingClear Asking
  induction a using Input.casesOn <;> infer_instance

/-- Without the booking numbered 1, and with the second seat for sale. -/
def Mask.earlier : Mask where
  gone b := decide (b = 1)
  seat k := if k = 1 then some (.vacant 7 2 25000) else none

/-- What makes that mask one over what is not the user's. -/
def Db.HidesEarlier (db : Db) (u : UserId) : Prop :=
  (db.booking 1).any (fun row => decide (row.userId ≠ u)) = true ∧ (db.seat 1).Foreign db u ∧
    (db.seat 1).seatNo = "2A"

instance (db : Db) (u : UserId) : Decidable (db.HidesEarlier u) :=
  inferInstanceAs (Decidable (_ ∧ _ ∧ _))

theorem Db.HidesEarlier.foreign {db : Db} {u : UserId} (h : db.HidesEarlier u) :
    Mask.earlier.Foreign u db := by
  obtain ⟨hbooking, hbefore, hno⟩ := h
  have hseat : ∀ k row, Mask.earlier.seat k = some row → k = 1 ∧ row = .vacant 7 2 25000 := by
    intro k row hk
    simp only [Mask.earlier] at hk
    split at hk
    · exact ⟨‹_›, (Option.some.inj hk).symm⟩
    · simp at hk
  refine ⟨fun b hb => ?_, fun k row hk => ?_, fun k row hk => ?_, fun k row hk => ?_⟩
  · obtain rfl := of_decide_eq_true hb
    simpa [Option.any_eq_true] using hbooking
  all_goals obtain ⟨rfl, rfl⟩ := hseat k row hk
  · exact hbefore
  · exact ⟨by simp [SeatInventory.vacant], fun b hb => by simp [SeatInventory.vacant] at hb⟩
  · rw [hno]
    decide

/-- Bob buys the second seat, and Ada holds the first. -/
def besideBob : List (ℕ × Input) :=
  asks 1 (.createHold ⟨20, 7, "2A"⟩) 3 (.calm 0) ++
    asks 2 (.createBooking ⟨20, "key-of-bob-00000001", soloBody 0 "tok_test_bbbb22220000"⟩) 14
      (.calm 1) ++
    asks 3 (.createHold ⟨10, 7, "1A"⟩) 3 (.calm 2)

/-- Ada books what she holds then. -/
def adasBooking : BookingRequest :=
  ⟨10, "key-of-ada-00000001", soloBody 5 "tok_test_aaaa11110000"⟩

/-- Ada books beside Bob as she would without him. -/
theorem others_invisible_beside : ∃ w w',
    (service demoEnv FakePaymentGateway).Run (fun _ p _ => p < 4 ∧ True) (onSale 2) besideBob w ∧
      Mask.earlier.Foreign 10 w.shared.db ∧
      (service demoEnv FakePaymentGateway).Run (AskingClear .earlier 10 4) w
        (asks 4 (.createBooking adasBooking) 14 (.calm 3)) w' ∧
      (w'.proc 4).status? = some 201 ∧ OthersUntouched 10 w.shared w'.shared ∧
      SameRequest demoEnv .earlier 10 4 w (asks 4 (.createBooking adasBooking) 14 (.calm 3)) w' := by
  have hrun : ((service demoEnv FakePaymentGateway).checked (fun _ p _ => p < 4 ∧ True) (onSale 2)
      besideBob).any (fun w => decide (w.shared.db.HidesEarlier 10) &&
        ((service demoEnv FakePaymentGateway).checked (AskingClear .earlier 10 4) w
          (asks 4 (.createBooking adasBooking) 14 (.calm 3))).any fun w' =>
            decide ((w'.proc 4).status? = some 201)) = true := by
    decide +kernel
  obtain ⟨w, hbob, htest⟩ := System.exists_run_of_checked hrun
  obtain ⟨hhides, htest⟩ := Bool.and_eq_true_iff.mp htest
  have hM := (of_decide_eq_true hhides).foreign
  obtain ⟨w', hada, hstatus⟩ := System.exists_run_of_checked htest
  have hidle := hbob.rest_of_below .idle (fun _ _ => rfl) 4 le_rfl
  obtain ⟨huntouched, hsame⟩ := others_invisible 10 4 (Db.seeded_initial ..) hbob hidle
  exact ⟨w, w', hbob, hM, hada, of_decide_eq_true hstatus,
    (huntouched _ w' (hada.mono fun _ _ _ hC => hC.1)).1, hsame .earlier _ w' hM hada⟩

/-- A booking request that runs alone ends with the status. -/
def Ends (w : World (Shared FakePaymentGateway) Proc) (r : BookingRequest) (x : Draws)
    (status : ℕ) : Prop :=
  ∃ n w', (service demoEnv FakePaymentGateway).Run (fun _ _ _ => True) w
    (asks 9 (.createBooking r) n x) w' ∧ (w'.proc 9).status? = some status

/-- What the request has ended with after `n` steps. -/
def endedAfter (n : ℕ) (w : World (Shared FakePaymentGateway) Proc) (r : BookingRequest)
    (x : Draws) : Option ℕ :=
  ((service demoEnv FakePaymentGateway).exec w (asks 9 (.createBooking r) n x)).bind fun w' =>
    (w'.proc 9).status?

theorem ends_of_endedAfter {n : ℕ} {w : World (Shared FakePaymentGateway) Proc}
    {r : BookingRequest} {x : Draws} {status : ℕ} (h : endedAfter n w r x = some status) :
    Ends w r x status := by
  obtain ⟨w', hexec, hstatus⟩ := Option.bind_eq_some_iff.mp h
  exact ⟨n, w', System.run_of_exec (fun _ _ _ => trivial) hexec, hstatus⟩

/-- Ada books one hold under two keys; the first saga issues a ticket for a seat that is
pinned to the second, which gives the seat back.  Bob holds it then. -/
def besideTicket : List (ℕ × Input) :=
  asks 1 (.createHold ⟨10, 7, "1A"⟩) 3 (.calm 0) ++
    asks 2 (.createBooking ⟨10, "key-of-ada-00000001", soloBody 0 "tok_test_aaaa11110000"⟩) 7
      (.calm 1) ++
    asks 3 (.createBooking ⟨10, "key-of-ada-00000002", soloBody 0 "tok_test_aaaa11119995"⟩) 4
      (.calm 2) ++
    moves 2 7 (.calm 1) ++ moves 3 9 (.calm 2) ++ asks 4 (.createHold ⟨20, 7, "1A"⟩) 3 (.calm 3)

/-- Bob books what he holds then. -/
def bobsBooking : BookingRequest :=
  ⟨20, "key-of-bob-00000001", soloBody 8 "tok_test_bbbb22220000"⟩

/-- The draws of a step whose candidates for a reference are all Bob's. -/
def drawsBobsRef : Draws := { Draws.calm 3 with pnr := fun _ => "SKYLCC" }

/-- The draws of a step whose ticket numbers are those of Bob's sale. -/
def drawsBobsTicket : Draws := { Draws.calm 3 with eTicketNo := (Draws.calm 1).eTicketNo }

/-- **A unique index tells**: a request whose draws meet the reference or the ticket of
somebody else's booking, or whose seat has such a ticket, ends in a 500, and would not if
that booking were absent. -/
theorem others_visible : ∃ w w',
    (service demoEnv FakePaymentGateway).Run (fun _ _ _ => True) (onSale 2) besideBob w ∧
      Mask.earlier.Foreign 10 w.shared.db ∧
      (Ends w adasBooking drawsBobsRef 500 ∧
        Ends (maskedWorld Mask.earlier w) adasBooking drawsBobsRef 201) ∧
      (Ends w adasBooking drawsBobsTicket 500 ∧
        Ends (maskedWorld Mask.earlier w) adasBooking drawsBobsTicket 201) ∧
      (service demoEnv FakePaymentGateway).Run (fun _ _ _ => True) (onSale 2) besideTicket w' ∧
      Mask.earlier.Foreign 20 w'.shared.db ∧
      Ends w' bobsBooking (.calm 4) 500 ∧
      Ends (maskedWorld Mask.earlier w') bobsBooking (.calm 4) 201 := by
  have hbeside : ((service demoEnv FakePaymentGateway).checked (fun _ _ _ => True) (onSale 2)
      besideBob).any (fun w => decide (w.shared.db.HidesEarlier 10 ∧
        endedAfter 5 w adasBooking drawsBobsRef = some 500 ∧
        endedAfter 14 (maskedWorld .earlier w) adasBooking drawsBobsRef = some 201 ∧
        endedAfter 10 w adasBooking drawsBobsTicket = some 500 ∧
        endedAfter 14 (maskedWorld .earlier w) adasBooking drawsBobsTicket = some 201)) = true := by
    decide +kernel
  have hticket : ((service demoEnv FakePaymentGateway).checked (fun _ _ _ => True) (onSale 2)
      besideTicket).any (fun w => decide (w.shared.db.HidesEarlier 20 ∧
        endedAfter 10 w bobsBooking (.calm 4) = some 500 ∧
        endedAfter 14 (maskedWorld .earlier w) bobsBooking (.calm 4) = some 201)) = true := by
    decide +kernel
  obtain ⟨w, hw, htest⟩ := System.exists_run_of_checked hbeside
  obtain ⟨w', hw', htest'⟩ := System.exists_run_of_checked hticket
  obtain ⟨hM, href, href', hnumber, hnumber'⟩ := of_decide_eq_true htest
  obtain ⟨hM', hseat, hseat'⟩ := of_decide_eq_true htest'
  exact ⟨w, w', hw, hM.foreign, ⟨ends_of_endedAfter href, ends_of_endedAfter href'⟩,
    ⟨ends_of_endedAfter hnumber, ends_of_endedAfter hnumber'⟩, hw', hM'.foreign,
    ends_of_endedAfter hseat, ends_of_endedAfter hseat'⟩

end SkyLock
