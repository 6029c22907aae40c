import SkyLock.Scripts
import SkyLock.Ticketing

/-!
# The re-verification of the seats

`_issue_tickets` locks its rows again and checks that they are still the saga's.
The SELECT hands back the instances step 1 left in the identity map, so the check
never sees what the rows have become meanwhile.  Whether the transaction does
what the check is for depends on the rows and on the constraints alone.

## Main definitions

* `Db.Ours` — the committed rows of a saga's seats are still the saga's.
* `Reverified` — what a re-verification owes.

## Main results

* `reverified_iff` — **ticketing does what it owes exactly where the rows are
  still the saga's and no constraint objects**.
* `reverified_lapsed` — a lost seat is not noticed.
-/

namespace SkyLock

open Concurrent

variable {G : Type} [PaymentGateway G] {env : Env}

/-- The rows of a saga's seats, as committed, are pinned to its booking and held
by its user. -/
def Db.Ours (db : Db) (σ : Saga) (u : UserId) : Prop :=
  ∀ i ∈ σ.seats, (db.seat i.id).bookingId = some σ.bookingId ∧
    (db.seat i.id).heldByUserId = some u

instance (db : Db) (σ : Saga) (u : UserId) : Decidable (db.Ours σ u) := by
  unfold Db.Ours
  infer_instance

/-- What re-verifying the seats of `σ` from the shared state `s` owes: tickets
where the committed rows are still the saga's, and where they are not, a
compensation that has touched neither tickets nor seats. -/
structure Reverified (s s' : Shared G) (r : BookingRequest) (σ : Saga) (pay : Payment)
    (P' : Proc) : Prop where
  ours : s.db.Ours σ r.userId → (∃ σ', P' = .booking r (.capture σ' pay)) ∧
    ∀ i ∈ σ.seats, ∃ t ∈ s'.db.liveTickets, t.bookingId = σ.bookingId ∧ t.seatInventoryId = i.id
  lost : ¬ s.db.Ours σ r.userId → s'.db.tickets = s.db.tickets ∧ s'.db.seat = s.db.seat ∧
    ∃ reason, P' = .booking r (.reverse (σ.inState .compensating) pay reason)

omit [PaymentGateway G] in
/-- The tickets of a saga are live tickets for each of its seats. -/
theorem exists_newTicket {σ : Saga} (h : σ.Seated) {db db' : Db} {uuid : ℕ} {now : Time}
    {eTicketNo : ℕ → String}
    (hdb : db'.tickets =
      newTickets σ.bookingId uuid now eTicketNo (σ.passengers.zip σ.seats) ++ db.tickets)
    {i : SeatInstance} (hi : i ∈ σ.seats) :
    ∃ t ∈ db'.liveTickets, t.bookingId = σ.bookingId ∧ t.seatInventoryId = i.id := by
  obtain ⟨hseats, -, -⟩ := newTickets_columns h h.assigned_eq σ.bookingId uuid now eTicketNo
  have hid : i.id ∈ (newTickets σ.bookingId uuid now eTicketNo (σ.passengers.zip σ.seats)).map
      Ticket.seatInventoryId := by
    rw [hseats]
    exact List.mem_map_of_mem hi
  obtain ⟨t, ht, hseat⟩ := List.mem_map.mp hid
  obtain ⟨_, _, _, _, _, hvoid⟩ := mem_newTickets ht
  refine ⟨t, mem_liveTickets.mpr ⟨?_, hvoid⟩, newTickets_bookingId ht, hseat⟩
  rw [hdb]
  exact List.mem_append_left _ ht

/-- **Ticketing does what its re-verification owes exactly where the committed
rows are still the saga's and no constraint objects.**  It never compensates on
its own account. -/
theorem reverified_iff {C : World (Shared G) Proc → ℕ → Input → Prop} {db : Db} {g : G}
    {clock : Time} {w w' : World (Shared G) Proc} {as : List (ℕ × Input)} {p : ℕ}
    {r : BookingRequest} {σ : Saga} {pay : Payment} {x : Draws} (hdb : db.Initial)
    (h : (service env G).Run C (initialWorld db g clock) as w)
    (hp : w.proc p = .booking r (.issueTickets σ pay))
    (htrig : triggerFor r.payload.cardToken ≠ .ticketingFailure)
    (hn : (service env G).next w p (.go x) = some w') :
    Reverified w.shared w'.shared r σ pay (w'.proc p) ↔
      w.shared.db.Ours σ r.userId ∧ Insertable w.shared.db σ x.eTicketNo ∧ x.seqTaken = false := by
  have hw := outline_holds hdb h
  have hbefore : σ.Before r.userId .paymentAuthorized (w.shared.view σ.bookingId) := by
    have hown := hw.own p
    rw [hp] at hown
    exact (hown σ.bookingId rfl).2.1
  obtain ⟨s', P', hs, rfl⟩ := System.next_eq_some.mp hn
  have hstep := step_of hs
  rw [hp] at hstep
  simp only [Function.update_self]
  cases hstep with
  | @booking _ _ _ _ pc' hstep =>
    rcases hstep.issue_cases hw.shared hbefore (liveUnique_holds hdb h) htrig with
      ⟨hiss, σ', -, rfl, -, htickets⟩ | ⟨hnot, rfl, e, rfl⟩
    -- the transaction commits the tickets: it is right where the rows are still ours
    · constructor
      · intro hrev
        by_cases hours : w.shared.db.Ours σ r.userId
        · exact ⟨hours, hiss.insertable, hiss.audit⟩
        · obtain ⟨-, -, reason, hreverse⟩ := hrev.lost hours
          exact absurd hreverse (by simp)
      · rintro ⟨hours, -⟩
        refine ⟨fun _ => ⟨⟨σ', rfl⟩, fun i hi => ?_⟩, fun hnot => absurd hours hnot⟩
        exact exists_newTicket hbefore.seated htickets hi
    -- it rolls back: nothing is compensated, whatever the rows say
    · constructor
      · intro hrev
        by_cases hours : w.shared.db.Ours σ r.userId
        · obtain ⟨⟨σ', hcap⟩, -⟩ := hrev.ours hours
          exact absurd hcap (by simp)
        · obtain ⟨-, -, reason, hreverse⟩ := hrev.lost hours
          exact absurd hreverse (by simp)
      · rintro ⟨hours, hins, hseq⟩
        refine absurd ⟨fun i hi => ?_, hins, hseq⟩ hnot
        rw [(hours i hi).1]
        rfl

/-! ### Two runs -/

/-- A user takes a hold and books it, up to the ticketing transaction. -/
def chargedSaga : List (ℕ × Input) :=
  asks 1 (.createHold ⟨10, 7, "1A"⟩) 3 (.calm 0) ++
    asks 2 (.createBooking ⟨10, "key-of-ada-00000001", soloBody 0 "tok_test_aaaa11110000"⟩) 8
      (.calm 1)

/-- The hold lapses while the card is charged, and another user takes the seat. -/
def lapsedSaga : List (ℕ × Input) :=
  chargedSaga ++ waits 0 (seconds 601) ++ asks 3 (.createHold ⟨20, 7, "1A"⟩) 3 (.calm 0)

/-- The request, saga and payment of a process that is about to issue tickets. -/
def Proc.issuing? : Proc → Option (BookingRequest × Saga × Payment)
  | .booking r (.issueTickets σ pay) => some (r, σ, pay)
  | _ => none

theorem Proc.issuing?_eq_some {P : Proc} {r : BookingRequest} {σ : Saga} {pay : Payment}
    (h : P.issuing? = some (r, σ, pay)) : P = .booking r (.issueTickets σ pay) := by
  unfold issuing? at h
  split at h
  · simp only [Option.some.injEq, Prod.mk.injEq] at h
    obtain ⟨rfl, rfl, rfl⟩ := h
    rfl
  · simp at h

/-- The process failed, and is about to drop its claim. -/
def Proc.failed : Proc → Bool
  | .booking _ (.release _ _) => true
  | _ => false

/-- Undisturbed, the saga issues its ticket. -/
theorem reverified_undisturbed :
    ∃ w w' r σ pay, (service demoEnv FakePaymentGateway).Run (fun _ _ _ => True) (onSale 2)
        chargedSaga w ∧
      w.proc 2 = .booking r (.issueTickets σ pay) ∧
        (service demoEnv FakePaymentGateway).next w 2 (.go (.calm 2)) = some w' ∧
          Reverified w.shared w'.shared r σ pay (w'.proc 2) := by
  have hrun : ((service demoEnv FakePaymentGateway).checked (fun _ _ _ => True) (onSale 2)
      chargedSaga).any (fun w => (w.proc 2).issuing?.any fun c =>
        decide (triggerFor c.1.payload.cardToken ≠ .ticketingFailure ∧
          w.shared.db.Ours c.2.1 c.1.userId ∧
            Insertable w.shared.db c.2.1 (Draws.calm 2).eTicketNo ∧
              (Draws.calm 2).seqTaken = false) &&
          ((service demoEnv FakePaymentGateway).next w 2 (.go (.calm 2))).isSome) = true := by
    decide +kernel
  obtain ⟨w, hw, htest⟩ := System.exists_run_of_checked hrun
  obtain ⟨⟨r, σ, pay⟩, hp, htest⟩ := (Option.any_eq_true _ _).mp htest
  rw [Bool.and_eq_true] at htest
  obtain ⟨w', hn⟩ := Option.isSome_iff_exists.mp htest.2
  obtain ⟨htrig, hcond⟩ := of_decide_eq_true htest.1
  have hp := Proc.issuing?_eq_some hp
  exact ⟨w, w', r, σ, pay, hw, hp, hn,
    (reverified_iff (Db.seeded_initial ..) hw hp htrig hn).mpr hcond⟩

/-- **A lost seat is not noticed**: the hold lapses while the card is charged,
another user takes the seat, and the saga, instead of compensating, dies on the
CHECK constraint with its authorization standing. -/
theorem reverified_lapsed :
    ∃ w w' r σ pay, (service demoEnv FakePaymentGateway).Run (fun _ _ _ => True) (onSale 2)
        lapsedSaga w ∧
      w.proc 2 = .booking r (.issueTickets σ pay) ∧
        triggerFor r.payload.cardToken ≠ .ticketingFailure ∧
          (service demoEnv FakePaymentGateway).next w 2 (.go (.calm 2)) = some w' ∧
            ¬ Reverified w.shared w'.shared r σ pay (w'.proc 2) := by
  have hrun : ((service demoEnv FakePaymentGateway).checked (fun _ _ _ => True) (onSale 2)
      lapsedSaga).any (fun w => (w.proc 2).issuing?.any fun c =>
        decide (triggerFor c.1.payload.cardToken ≠ .ticketingFailure ∧
          ¬ w.shared.db.Ours c.2.1 c.1.userId) &&
          ((service demoEnv FakePaymentGateway).next w 2 (.go (.calm 2))).any fun w' =>
            (w'.proc 2).failed) = true := by
    decide +kernel
  obtain ⟨w, hw, htest⟩ := System.exists_run_of_checked hrun
  obtain ⟨⟨r, σ, pay⟩, hp, htest⟩ := (Option.any_eq_true _ _).mp htest
  rw [Bool.and_eq_true] at htest
  obtain ⟨w', hn, hfailed⟩ := (Option.any_eq_true _ _).mp htest.2
  obtain ⟨htrig, hnot⟩ := of_decide_eq_true htest.1
  refine ⟨w, w', r, σ, pay, hw, Proc.issuing?_eq_some hp, htrig, hn, fun hrev => ?_⟩
  obtain ⟨-, -, reason, hreverse⟩ := hrev.lost hnot
  rw [hreverse] at hfailed
  simp [Proc.failed] at hfailed

end SkyLock
