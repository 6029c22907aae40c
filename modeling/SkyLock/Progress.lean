import SkyLock.Cancellation
import SkyLock.IdempotentBookings
import SkyLock.Failures
import SkyLock.Scripts
import SkyLock.SeatLocks

/-!
# Every request ends

No handler loops: the retry of a charge that timed out happens once.  Two kinds of
transactions stay open between two steps of the service: `cancel` keeps the rows of its
booking's seats locked while the gateway refunds the charge, and `begin` keeps its claim
locked from its first write to its commit.  Neither asks for another lock before it ends, so
between two statements someone can move.  Inside the statements the rows are locked one
after the other, and there it takes an order to get through.

## Main definitions

* `Proc.stepsLeft` — the steps a request has left at most.
* `Proc.ended` — it has answered, or there is none.
* `LocksHeld` — who holds a lock between two steps.

## Main results

* `LocksHeld.next` — each step keeps the locks where they belong.
* `requests_end` — **a request takes at most sixteen steps, and all can be run to their
  ends**.
-/

namespace SkyLock

open Concurrent LockOrder

variable {G : Type} [PaymentGateway G] {env : Env} {s s' : Shared G} {p q : ℕ}

/-! ### What is left to do -/

/-- The steps a `create_booking` request has left at most. -/
def BookingPc.stepsLeft : BookingPc → ℕ
  | .beginDelete _ => 16
  | .beginInsert _ _ => 15
  | .beginCommit _ _ _ => 14
  | .openBooking => 13
  | .assess _ => 12
  | .createPayment _ => 11
  | .authorize _ _ => 10
  | .journalUnknown _ _ => 9
  | .retryAuthorize _ _ => 8
  | .recordAuthorized _ _ _ => 7
  | .issueTickets _ _ => 6
  | .capture _ _ => 5
  | .failSelect _ _ | .reverse _ _ _ | .confirm _ _ => 4
  | .failCommit _ _ _ | .finishVoided _ _ _ | .finishReview _ _ _ _ | .refresh _ => 3
  | .completeSelect _ _ => 2
  | .completeCommit _ _ | .release _ _ | .beginSelect => 1
  | .done _ _ => 0

/-- The steps a `create_hold` request has left at most. -/
def HoldPc.stepsLeft : HoldPc → ℕ
  | .count _ => 3
  | .update _ => 2
  | .refresh _ => 1
  | .granted _ _ | .refused _ => 0

/-- The steps a request has left at most. -/
def Proc.stepsLeft : Proc → ℕ
  | .booking _ pc => pc.stepsLeft
  | .hold _ pc => pc.stepsLeft
  | .release _ .load => 2
  | .release _ .update | .sweep (.update _) => 1
  | .cancel _ pc => pc.left
  | .idle | .release _ (.done _) | .sweep .done => 0

/-- The steps a process takes at most from here on: it serves one request. -/
def Proc.budget : Proc → ℕ
  | .idle => 16
  | P => P.stepsLeft

/-- The process serves no request, or has answered it. -/
def Proc.ended : Proc → Bool
  | .idle | .booking _ (.done _ _) | .hold _ (.granted _ _) | .hold _ (.refused _)
  | .release _ (.done _) | .cancel _ (.done _) | .sweep .done => true
  | _ => false

theorem Proc.ended_iff {P : Proc} : P.ended = true ↔ P.stepsLeft = 0 := by
  rcases P with _ | ⟨r, pc⟩ | ⟨r, pc⟩ | ⟨r, pc⟩ | ⟨r, pc⟩ | pc
  · exact ⟨fun _ => rfl, fun _ => rfl⟩
  all_goals cases pc <;> simp [ended, stepsLeft, BookingPc.stepsLeft, HoldPc.stepsLeft,
    CancelPc.left]

theorem BookingStep.stepsLeft_lt {r : BookingRequest} {x : Draws} {pc pc' : BookingPc}
    (h : BookingStep env s p r x pc s' pc') : pc'.stepsLeft < pc.stepsLeft := by
  have hraised : ∀ (e : Failure) (b : Option BookingId), (raised e b).stepsLeft ≤ 2 := by
    intro e b
    cases e <;> simp [raised, BookingPc.stepsLeft]
  cases h
  case authorizes | retries =>
    unfold afterAuthorize
    split <;> simp [BookingPc.stepsLeft]
  case opensNothing | selectIllegal | recordIllegal | refuseIllegal | issueRolledBack | voidIllegal
    | confirmIllegal =>
    exact (hraised _ _).trans_lt (by simp [BookingPc.stepsLeft])
  all_goals simp [BookingPc.stepsLeft]

theorem CancelStep.left_lt {r : CancelRequest} {x : Draws} {pc pc' : CancelPc}
    (h : CancelStep s p r x pc s' pc') : pc'.left < pc.left := by
  cases h
  case locks b state pay hf => cases pay <;> simp [afterLock, CancelPc.left]
  all_goals simp [CancelPc.left]

/-- The input moves a request that is there. -/
def Input.isGo : Input → Bool
  | .go _ => true
  | _ => false

/-- A request that moves has a step less to take. -/
theorem Step.stepsLeft_lt {P P' : Proc} {x : Draws} (h : Step env s p P (.go x) s' P') :
    P'.stepsLeft < P.stepsLeft := by
  cases h
  case booking r pc pc' h => exact h.stepsLeft_lt
  case cancel r pc pc' h => exact h.left_lt
  case hold r pc pc' h => cases h <;> simp [Proc.stepsLeft, HoldPc.stepsLeft]
  case release r pc pc' h => cases h <;> simp [Proc.stepsLeft]
  case sweep pc pc' h =>
    cases h
    simp [Proc.stepsLeft]

/-- A step comes out of the budget of its process. -/
theorem Step.spends {P P' : Proc} {a : Input} (h : Step env s p P a s' P') :
    a.isGo.toNat + P'.budget ≤ P.budget := by
  have hbudget : ∀ Q : Proc, Q.stepsLeft ≠ 0 → Q.budget = Q.stepsLeft := by
    intro Q hQ
    cases Q with
    | idle => exact absurd rfl hQ
    | booking | hold | release | cancel | sweep => rfl
  have hmoves : ∀ x, a = .go x → P' ≠ .idle → a.isGo.toNat + P'.budget ≤ P.budget := by
    rintro x rfl hidle
    have hlt := h.stepsLeft_lt
    have hP' : P'.budget = P'.stepsLeft := by
      cases P' with
      | idle => exact absurd rfl hidle
      | booking | hold | release | cancel | sweep => rfl
    rw [hbudget P (Nat.ne_zero_of_lt hlt), hP']
    simp only [Input.isGo, Bool.toNat_true]
    omega
  cases h
  case tick => simp [Input.isGo]
  case arrive r =>
    cases r <;> simp [Request.start, Proc.budget, Proc.stepsLeft, BookingPc.stepsLeft,
      HoldPc.stepsLeft, CancelPc.left, Input.isGo]
  all_goals exact hmoves _ rfl (by simp)

/-! ### Who holds a lock -/

/-- `cancel` has locked its booking's seats. -/
def Proc.locksSeats : Proc → Bool
  | .cancel _ (.refund _ _ _) | .cancel _ (.finish _ _ _) | .cancel _ (.review _ _ _) => true
  | _ => false

/-- Who holds a lock between two steps: a cancellation that has yet to finish, and a
`begin` that has yet to commit. -/
structure LocksHeld (w : World (Shared G) Proc) : Prop where
  seats : ∀ k q, w.shared.locks k = some q → (w.proc q).locksSeats = true
  claims : ∀ k q, w.shared.claimLocks k = some q → ∃ pc ∈ (w.proc q).under? k, pc.locking = true

/-- A seat lock that is there after a step was there before, or is the mover's. -/
theorem Step.locks_cases {P P' : Proc} {a : Input} (h : Step env s p P a s' P') {k : SeatId}
    (hP : s.locks k = some p → P.locksSeats = true) (hk : s'.locks k = some q) :
    (q ≠ p ∧ s.locks k = some q) ∨ (q = p ∧ P'.locksSeats = true) := by
  -- a step that leaves the locks alone and the mover where it may hold them
  have hkept : (P.locksSeats = true → P'.locksSeats = true) → s'.locks = s.locks →
      (q ≠ p ∧ s.locks k = some q) ∨ (q = p ∧ P'.locksSeats = true) := by
    intro hmover hlocks
    rw [hlocks] at hk
    by_cases hq : q = p
    · exact .inr ⟨hq, hmover (hP (hq ▸ hk))⟩
    · exact .inl ⟨hq, hk⟩
  have hdropped : s'.locks = (s.unlockSeats p).locks →
      (q ≠ p ∧ s.locks k = some q) ∨ (q = p ∧ P'.locksSeats = true) := by
    intro hlocks
    rw [hlocks] at hk
    simp only [Shared.unlockSeats_locks] at hk
    split at hk
    · simp at hk
    · next hne =>
      refine .inl ⟨?_, hk⟩
      rintro rfl
      exact hne hk
  cases h
  case booking r x pc pc' h => cases h <;> exact hkept id rfl
  case hold r x pc pc' h => cases h <;> exact hkept id rfl
  case release r x pc pc' h => cases h <;> exact hkept id rfl
  case sweep x pc pc' h =>
    cases h
    exact hkept id rfl
  case cancel r x pc pc' h =>
    cases h
    case locks b state pay hf =>
      have hmover : (Proc.cancel r (afterLock b state pay)).locksSeats = true := by
        cases pay <;> rfl
      simp only [Shared.lockSeatsOf_locks] at hk
      split at hk
      · exact .inr ⟨(Option.some.inj hk).symm, hmover⟩
      · by_cases hq : q = p
        · exact .inr ⟨hq, hmover⟩
        · exact .inl ⟨hq, hk⟩
    case finishes | finishIllegal | finishRolledBack | reviews | reviewRolledBack =>
      exact hdropped rfl
    case findsNothing | refuses | accepts | selects =>
      exact hkept (fun hno => absurd hno (by simp [Proc.locksSeats])) rfl
    case refunds | refundFails => exact hkept (fun _ => rfl) rfl
  case tick => exact hkept id rfl
  case arrive r => exact hkept (fun hno => absurd hno (by simp [Proc.locksSeats])) rfl

/-- The lock of a claim that is there after a step was there before, or is the mover's. -/
theorem Step.claimLocks_cases {P P' : Proc} {a : Input} (h : Step env s p P a s' P')
    {k : String × UserId}
    (hP : s.claimLocks k = some p → ∃ pc ∈ P.under? k, pc.locking = true)
    (hk : s'.claimLocks k = some q) :
    (q ≠ p ∧ s.claimLocks k = some q) ∨ (q = p ∧ ∃ pc ∈ P'.under? k, pc.locking = true) := by
  by_cases hunder : P.under? k = none
  · rw [(h.elsewhere hunder).lock] at hk
    refine .inl ⟨?_, hk⟩
    rintro rfl
    obtain ⟨pc, hpc, -⟩ := hP hk
    rw [hunder] at hpc
    simp at hpc
  obtain ⟨pc, hpc⟩ := Option.ne_none_iff_exists'.mp hunder
  obtain ⟨r, rfl, rfl⟩ := Proc.under?_eq_some hpc
  have hlocking : s.claimLocks r.claimKey = some p → pc.locking = true := by
    intro hlock
    obtain ⟨pc₁, hpc₁, hlocking⟩ := hP hlock
    obtain rfl := Option.some.inj (hpc.symm.trans hpc₁)
    exact hlocking
  have hold : s.claimLocks r.claimKey = some q → (s.claimLocks r.claimKey = some p → False) →
      q ≠ p ∧ s.claimLocks r.claimKey = some q := by
    intro hlock hnot
    refine ⟨?_, hlock⟩
    rintro rfl
    exact hnot hlock
  cases h
  case booking x pc' h =>
    cases h
    case deletes | inserts =>
      rw [Shared.lockClaim_claimLocks, Function.update_self] at hk
      exact .inr ⟨(Option.some.inj hk).symm, _, Proc.under?_booking rfl, rfl⟩
    case claims | clears | completes | releases =>
      rw [Shared.setClaim_claimLocks, Function.update_self] at hk
      simp at hk
    all_goals
      exact .inl (hold hk fun hlock => absurd (hlocking hlock) (by simp [BookingPc.locking]))

omit [PaymentGateway G] in
theorem locksHeld_initial (db : Db) (g : G) (clock : Time) :
    LocksHeld (initialWorld db g clock) where
  seats k q h := by simp [initialWorld] at h
  claims k q h := by simp [initialWorld] at h

/-- Each step keeps the locks where they belong. -/
theorem LocksHeld.next {w w' : World (Shared G) Proc} {a : Input} (hw : LocksHeld w)
    (hn : (service env G).next w p a = some w') : LocksHeld w' := by
  obtain ⟨s', P', hs, rfl⟩ := System.next_eq_some.mp hn
  have hstep := step_of hs
  constructor
  · intro k q hk
    rcases hstep.locks_cases (hw.seats k p) hk with ⟨hne, hold⟩ | ⟨rfl, hmover⟩
    · simpa only [Function.update_of_ne hne] using hw.seats k q hold
    · simpa only [Function.update_self] using hmover
  · intro k q hk
    rcases hstep.claimLocks_cases (hw.claims k p) hk with ⟨hne, hold⟩ | ⟨rfl, hmover⟩
    · simpa only [Function.update_of_ne hne] using hw.claims k q hold
    · simpa only [Function.update_self] using hmover

/-! ### Who can move -/

variable {w : World (Shared G) Proc} {x : Draws}

theorem next_isSome {P : Proc} (hp : w.proc q = P)
    (h : (step env w.shared q P (.go x)).isSome) :
    ((service env G).next w q (.go x)).isSome := by
  subst hp
  simpa [System.next, service] using h

/-- Who has seats locked can move. -/
theorem LocksHeld.moves_of_seats (hw : LocksHeld w) {k : SeatId}
    (hk : w.shared.locks k = some q) :
    (w.proc q).ended = false ∧ ∀ x, ((service env G).next w q (.go x)).isSome := by
  have hlocks := hw.seats k q hk
  generalize hp : w.proc q = P at hlocks
  cases P with
  | cancel r pc =>
    have hmoves : ∀ x, (stepCancel w.shared q r x pc).isSome := by
      intro x
      cases pc <;> simp only [Proc.locksSeats, Bool.false_eq_true, stepCancel] at hlocks ⊢
      all_goals split <;> rfl
    refine ⟨?_, fun x => next_isSome hp (by simpa [step] using hmoves x)⟩
    cases pc <;> first
      | rfl
      | simp [Proc.locksSeats] at hlocks
  | idle | booking | hold | release | sweep => simp [Proc.locksSeats] at hlocks

/-- Who has a claim locked can move. -/
theorem LocksHeld.moves_of_claim (hw : LocksHeld w) {k : String × UserId}
    (hk : w.shared.claimLocks k = some q) :
    (w.proc q).ended = false ∧ ∀ x, ((service env G).next w q (.go x)).isSome := by
  obtain ⟨pc, hunder, hlocking⟩ := hw.claims k q hk
  obtain ⟨r, hp, rfl⟩ := Proc.under?_eq_some hunder
  have hfree : w.shared.claimFree q r.claimKey = true := decide_eq_true (.inr hk)
  have hmoves : ∀ x, (stepBooking env w.shared q r x pc).isSome := by
    intro x
    cases pc <;> simp only [BookingPc.locking, Bool.false_eq_true] at hlocking
    case beginInsert now deleted => simp [stepBooking, stepBegin, hfree, hlocking]
    case beginCommit now deleted claimed => simp [stepBooking, stepBegin, hlocking]
  refine ⟨?_, fun x => next_isSome hp (by simpa [step] using hmoves x)⟩
  rw [hp]
  cases pc <;> first
    | rfl
    | simp [BookingPc.locking] at hlocking

/-- Where nothing is locked, every request can move. -/
theorem moves_of_unlocked (hseats : ∀ k, w.shared.locks k = none)
    (hclaims : ∀ k, w.shared.claimLocks k = none) (hw : (outline G).Holds w)
    (hrow : ∀ r σ, w.proc q = .booking r (.refresh σ) →
      ∃ row, w.shared.db.booking σ.bookingId = some row)
    (hq : (w.proc q).ended = false) : ((service env G).next w q (.go x)).isSome := by
  have hfree : ∀ ids, w.shared.seatsFree q ids = true := by
    intro ids
    simp [Shared.seatsFree, hseats]
  have hclaim : ∀ k, w.shared.claimFree q k = true := by
    intro k
    simp [Shared.claimFree, hclaims]
  have hown := hw.own q
  generalize hp : w.proc q = P at hq hown
  refine next_isSome hp ?_
  cases P with
  | idle => simp [Proc.ended] at hq
  | booking r pc =>
    have hmoves : (stepBooking env w.shared q r x pc).isSome := by
      cases pc
      case failCommit σ f rows =>
        simp only [stepBooking, stepOpen, hfree, if_true]
        split <;> rfl
      all_goals
        refine stepBooking_isSome hw.shared (fun b hb => (hown b hb).2) (fun k _ => .inl (hseats k))
          (fun _ => hclaim _) (by simp) ?_ (by simp_all [Proc.ended])
      case refresh σ =>
        intro σ' hσ
        obtain rfl : σ = σ' := by simpa using hσ
        exact hrow r σ hp
      all_goals simp
    simpa [step] using hmoves
  | hold r pc =>
    cases pc <;> simp only [Proc.ended, Bool.true_eq_false] at hq
    case count now =>
      simp only [step, stepHold]
      split <;> rfl
    case update now =>
      simp only [step, stepHold, hfree, if_true]
      split <;> rfl
    case refresh k => rfl
  | release r pc =>
    cases pc <;> simp only [Proc.ended, Bool.true_eq_false] at hq
    case load =>
      simp only [step, stepRelease]
      split <;> rfl
    case update =>
      simp only [step, stepRelease, hfree, if_true]
      split <;> rfl
  | cancel r pc =>
    have hleft : pc.left ≠ 0 := by
      cases pc <;> simp_all [Proc.ended, CancelPc.left]
    have hmoves := stepCancel_isSome (p := q) (r := r) (x := x) (fun k _ => .inl (hseats k))
      hleft
    simpa [step] using hmoves
  | sweep pc =>
    cases pc <;> simp only [Proc.ended, Bool.true_eq_false] at hq
    case update now => simp [step, stepSweep, hfree]

/-! ### All the requests -/

/-- What it takes for the requests to end. -/
structure Underway (w : World (Shared G) Proc) : Prop where
  outline : (outline G).Holds w
  locks : LocksHeld w
  /-- The booking a saga confirmed is there for it to read. -/
  row : ∀ q r σ, w.proc q = .booking r (.refresh σ) →
    ∃ row, w.shared.db.booking σ.bookingId = some row

omit [PaymentGateway G] in
theorem underway_initial {db : Db} (hdb : db.Initial) (g : G) (clock : Time) :
    Underway (initialWorld db g clock) where
  outline := outline_initial hdb g clock
  locks := locksHeld_initial db g clock
  row q r σ h := by simp [initialWorld] at h

/-- Who goes on to read a booking has just confirmed it. -/
theorem Step.row_of_refresh {P : Proc} {a : Input} {r : BookingRequest} {σ : Saga}
    (h : Step env s p P a s' (.booking r (.refresh σ))) (ho : P.Outline s) :
    ∃ row, s.db.booking σ.bookingId = some row := by
  generalize hP' : Proc.booking r (.refresh σ) = P' at h
  cases h
  case booking r' x pc pc' h =>
    injection hP' with hr hpc'
    cases h
    case confirms σ₀ pay hcan hseq =>
      injection hpc' with hσ
      obtain ⟨row, hrow, -⟩ := (ho σ₀.bookingId rfl).2.1.recorded.row
      exact ⟨row, hσ ▸ hrow⟩
    case authorizes | retries =>
      unfold afterAuthorize at hpc'
      split at hpc' <;> simp at hpc'
    case opensNothing e _ | selectIllegal e _ | recordIllegal e _ | refuseIllegal e _ _
      | issueRolledBack e _ _ _ _ | voidIllegal e _ | confirmIllegal e _ =>
      cases e <;> simp [raised] at hpc'
    all_goals simp at hpc'
  case arrive r' => cases r' <;> simp [Request.start] at hP'
  all_goals simp at hP'

theorem Underway.next {w' : World (Shared G) Proc} {a : Input} (hw : Underway w)
    (hn : (service env G).next w p a = some w') : Underway w' := by
  refine ⟨outline_next hw.outline hn, hw.locks.next hn, ?_⟩
  obtain ⟨s', P', hs, rfl⟩ := System.next_eq_some.mp hn
  have hstep := step_of hs
  intro q r σ hq
  have hrow : ∃ row, w.shared.db.booking σ.bookingId = some row := by
    by_cases hqp : q = p
    · subst hqp
      simp only [Function.update_self] at hq
      subst hq
      exact hstep.row_of_refresh (hw.outline.own q)
    · simp only [Function.update_of_ne hqp] at hq
      exact hw.row q r σ hq
  obtain ⟨row, hrow⟩ := hrow
  obtain ⟨row', hrow', -⟩ := hstep.booking_kept hw.outline.shared hrow
  exact ⟨row', hrow'⟩

/-- Until all requests have ended, one of them can move. -/
theorem Underway.moves (hw : Underway w) (hp : (w.proc p).ended = false) :
    ∃ q, (w.proc q).ended = false ∧ ∀ x, ((service env G).next w q (.go x)).isSome := by
  by_cases hseats : ∀ k, w.shared.locks k = none
  · by_cases hclaims : ∀ k, w.shared.claimLocks k = none
    · exact ⟨p, hp, fun x => moves_of_unlocked hseats hclaims hw.outline (hw.row p) hp⟩
    · obtain ⟨k, hk⟩ := not_forall.mp hclaims
      obtain ⟨q, hq⟩ := Option.ne_none_iff_exists'.mp hk
      exact ⟨q, hw.locks.moves_of_claim hq⟩
  · obtain ⟨k, hk⟩ := not_forall.mp hseats
    obtain ⟨q, hq⟩ := Option.ne_none_iff_exists'.mp hk
    exact ⟨q, hw.locks.moves_of_seats hq⟩

/-- **Every request ends.**  In a run from an initial state a process takes at most sixteen
steps for the request it serves.  From wherever the run has got to, between two statements,
all requests can be run to their ends, whatever the steps draw.  And where the statements
lock their rows one after the other, in ascending order, all open transactions can be run
to their ends, too. -/
theorem requests_end {C : World (Shared G) Proc → ℕ → Input → Prop} {db : Db} {g : G}
    {clock : Time} {w : World (Shared G) Proc} {as : List (ℕ × Input)} (hdb : db.Initial)
    (h : (service env G).Run C (initialWorld db g clock) as w) :
    (∀ p, (as.countP fun b => b.1 = p ∧ b.2.isGo) ≤ 16) ∧
      (∀ draw : World (Shared G) Proc → ℕ → Draws, ∃ bs w',
        (service env G).Run (fun w p a => a = .go (draw w p)) w bs w' ∧
          ∀ p, (w'.proc p).ended = true) ∧
      ∀ bs l, (lockers SeatTransaction.requests).Run Ascending (noLocks SeatId) bs l →
        ∃ cs l', (lockers SeatTransaction.requests).Run GoesOn l cs l' ∧
          ∀ p, l'.proc p = .idle := by
  obtain ⟨n, hn⟩ := (as.map Prod.fst).toFinset.exists_nat_subset_range
  have hn : ∀ b ∈ as, b.1 < n := fun b hb =>
    Finset.mem_range.mp (hn (List.mem_toFinset.mpr (List.mem_map_of_mem hb)))
  have hw : Underway w :=
    h.induct (underway_initial hdb g clock) fun w₁ p a w₂ hw _ hnext => hw.next hnext
  have hidle : ∀ p, n ≤ p → w.proc p = .idle := fun p hp =>
    h.proc_eq fun b hb => ((hn b hb).trans_le hp).ne
  refine ⟨fun p => ?_, fun draw => ?_, fun bs l hrun => ?_⟩
  · exact le_of_add_le_left (h.spent_le Proc.budget Input.isGo
      (fun s p Q a s' Q' hs => (step_of hs).spends) p)
  · have hspend : ∀ (w₁ : World (Shared G) Proc) p a s' Q', a = Input.go (draw w₁ p) →
        (service env G).step w₁.shared p (w₁.proc p) a = some (s', Q') →
          Q'.stepsLeft < (w₁.proc p).stepsLeft := by
      rintro w₁ p _ s' Q' rfl hs
      exact (step_of hs).stepsLeft_lt
    have hmove : ∀ (w₁ : World (Shared G) Proc) p, Underway w₁ → (w₁.proc p).stepsLeft ≠ 0 →
        ∃ q a, a = Input.go (draw w₁ q) ∧ ((service env G).next w₁ q a).isSome := by
      intro w₁ p hw₁ hleft
      have hp : (w₁.proc p).ended = false := by
        rw [← Bool.not_eq_true, Proc.ended_iff]
        exact hleft
      obtain ⟨q, -, hmove⟩ := hw₁.moves hp
      exact ⟨q, .go (draw w₁ q), rfl, hmove _⟩
    obtain ⟨bs, w', hrun, -, hend⟩ := System.exists_run_to_rest Proc.stepsLeft
      (fun w₁ p a w₂ hw₁ _ hnext => Underway.next hw₁ hnext) hspend hmove hw
      (fun p hp => congrArg Proc.stepsLeft (hidle p hp))
    exact ⟨bs, w', hrun, fun p => Proc.ended_iff.mpr (hend p)⟩
  · exact exists_run_to_idle SeatTransaction.covered hrun

/-- Two cancellations of one sold seat, the first with the rows locked. -/
def lockedOut : List (ℕ × Input) :=
  asks 1 (.createHold ⟨10, 7, "1A"⟩) 3 (.calm 0) ++
    asks 2 (.createBooking ⟨10, "key-of-ada-00000001", soloBody 0 "tok_test_aaaa11110000"⟩) 14
      (.calm 1) ++
    asks 3 (.cancelBooking ⟨10, "SKYLCC"⟩) 3 (.calm 2) ++
    asks 4 (.cancelBooking ⟨10, "SKYLCC"⟩) 2 (.calm 3)

/-- The second one has to wait, and both end; and so do a booking and a sweep of its seats
that waits for it. -/
theorem requests_end_locked_out : ∃ w,
    (service demoEnv FakePaymentGateway).Run (fun _ _ _ => True) (onSale 1) lockedOut w ∧
      (w.proc 4).ended = false ∧
      ((service demoEnv FakePaymentGateway).next w 4 (.go (.calm 3))).isNone ∧
      (lockedOut.countP fun b => b.1 = 2 ∧ b.2.isGo) ≤ 16 ∧
      (∃ bs w', (service demoEnv FakePaymentGateway).Run (fun _ _ a => a = .go (.calm 3)) w bs w' ∧
        (w'.proc 4).ended = true) ∧
      ∃ l, (lockers SeatTransaction.requests).Run Ascending (noLocks SeatId)
          ((bookingBesideSweep [0, 1]).take 5) l ∧ (tableOf l).WaitsFor 1 0 ∧
        ∃ cs l', (lockers SeatTransaction.requests).Run GoesOn l cs l' ∧
          ∀ p, l'.proc p = .idle := by
  have hrun : ((service demoEnv FakePaymentGateway).checked (fun _ _ _ => True) (onSale 1)
      lockedOut).any (fun w => !(w.proc 4).ended &&
        ((service demoEnv FakePaymentGateway).next w 4 (.go (.calm 3))).isNone) = true := by
    decide +kernel
  have hlocks : ((lockers SeatTransaction.requests).checked Ascending (noLocks SeatId)
      ((bookingBesideSweep [0, 1]).take 5)).any (fun l => decide ((l.proc 1).wants? = some 0 ∧
        l.shared 0 = some 0)) = true := by
    decide +kernel
  obtain ⟨w, hw, htest⟩ := System.exists_run_of_checked hrun
  rw [Bool.and_eq_true, Bool.not_eq_true'] at htest
  obtain ⟨l, hl, htest'⟩ := System.exists_run_of_checked hlocks
  obtain ⟨hwants, howner⟩ := of_decide_eq_true htest'
  obtain ⟨hsteps, hends, hrows⟩ := requests_end (Db.seeded_initial _ _ _ _) hw
  obtain ⟨bs, w', hrest, hended⟩ := hends fun _ _ => .calm 3
  exact ⟨w, hw, htest.1, htest.2, hsteps 2, ⟨bs, w', hrest, hended 4⟩, l, hl,
    ⟨by decide, 0, hwants, howner⟩, hrows _ l hl⟩

end SkyLock
