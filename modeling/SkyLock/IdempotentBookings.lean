import SkyLock.HoldCap
import SkyLock.RequestBodies
import SkyLock.Scripts
import SkyLock.Tables

/-!
# Bookings under one idempotency key

Any number of `POST /bookings` requests of one user under one key, with any bodies, while
the rest of the service goes on.  `begin` deletes an expired claim, inserts its own and
commits, and the three statements of one request fall between those of another.  The
row's lock is held from the first write to the commit, and an insert waits for it; so a
claim is replaced only once it has expired, and who finds it standing reads what the
request that made it has recorded.

## Main definitions

* `InTime` — no request outlives its claim.
* `WhileStanding` — nor is the claim removed.
* `answer` — what the other requests are told.
* `KeyTable` — what holds of the claim and the requests under its key.
* `InForce` — what holds while one claim stands.

## Main results

* `KeyTable.next`, `InForce.next` — each step keeps them.
* `create_booking_idempotent` — **while a claim stands, one request runs the saga and the
  others are answered from its claim**.
-/

namespace SkyLock

open Concurrent

variable {G : Type} [PaymentGateway G] {env : Env} {s s' : Shared G} {p q : ℕ}
  {k : String × UserId} {r r' : BookingRequest} {x : Draws} {pc pc' : BookingPc}

/-! ### Requests under a key -/

namespace BookingPc

/-- `begin` has let the request through, and it has not ended. -/
def running : BookingPc → Bool
  | .beginDelete _ | .beginInsert _ _ | .beginCommit _ _ _ | .beginSelect | .done _ _ => false
  | _ => true

/-- The instant `begin` read, where the next step commits the claim it inserted. -/
def claiming? : BookingPc → Option Time
  | .beginCommit now _ true => some now
  | _ => none

/-- The transaction of `begin` has written the row. -/
def locking : BookingPc → Bool
  | .beginInsert _ deleted => deleted
  | .beginCommit _ _ claimed => claimed
  | _ => false

/-- The next step commits a DELETE of the row: the claim had expired, or the saga failed in
a way nobody expected. -/
def removing : BookingPc → Bool
  | .beginCommit _ deleted _ => deleted
  | .release _ _ => true
  | _ => false

/-- The statements of `begin` that are left. -/
def beginLeft : BookingPc → ℕ
  | .beginDelete _ => 4
  | .beginInsert _ _ => 3
  | .beginCommit _ _ _ => 2
  | .beginSelect => 1
  | _ => 0

/-- The reply, once there is one. -/
def reply? : BookingPc → Option Reply
  | .done reply _ => some reply
  | _ => none

end BookingPc

/-- No request under the key outlives its claim: `deadline q` is the `expires_at` of the
claim that request `q` inserts, and `q` takes no step after it. -/
def InTime (env : Env) (k : String × UserId) (deadline : ℕ → Time)
    (w : World (Shared G) Proc) (q : ℕ) (_ : Input) : Prop :=
  ∀ pc ∈ (w.proc q).under? k,
    (∀ now ∈ pc.claiming?, deadline q = now + seconds env.idempotencyTtlSeconds) ∧
      (pc.running = true → w.shared.clock ≤ deadline q)

/-- Nor is the claim removed. -/
def WhileStanding (env : Env) (k : String × UserId) (deadline : ℕ → Time)
    (w : World (Shared G) Proc) (q : ℕ) (a : Input) : Prop :=
  InTime env k deadline w q a ∧ ∀ pc ∈ (w.proc q).under? k, pc.removing = false

instance (env : Env) (k : String × UserId) (deadline : ℕ → Time) (w : World (Shared G) Proc)
    (q : ℕ) (a : Input) : Decidable (InTime env k deadline w q a) := by
  unfold InTime
  infer_instance

instance (env : Env) (k : String × UserId) (deadline : ℕ → Time) (w : World (Shared G) Proc)
    (q : ℕ) (a : Input) : Decidable (WhileStanding env k deadline w q a) := by
  unfold WhileStanding
  infer_instance

/-! ### What the requests are told -/

/-- A known outcome: a 201, or an error the API describes. -/
def Reply.Known : Reply → Prop
  | .json status _ replayed => status = 201 ∧ replayed = false
  | .problem _ => True
  | .serverError _ => False

/-- What `begin` answers a request that finds the claim made for `r`, where the request
that made it has answered `first`, or not yet. -/
def answer (r r' : BookingRequest) (first : Option Reply) : Reply :=
  if r'.payload = r.payload then
    match first with
    | some reply => .json reply.status (reply.body bookingsPath) true
    | none => .problem (.requestInFlight
        "An identical request is still being processed; retry shortly.")
  else .problem (.idempotencyKeyReused ("This Idempotency-Key was already used for a different " ++
    "request body. Use a fresh key for a new request."))

/-- Nothing but claims and their locks differs. -/
structure OnlyClaims (s s' : Shared G) : Prop where
  gateway : s'.gateway = s.gateway
  calls : s'.calls = s.calls
  db : s'.db = { s.db with claims := s'.db.claims }

/-! ### The outcomes of a request -/

/-- The outcome has a status the replay can find. -/
def Outcome.Coded : Outcome → Prop
  | .returned status _ => status = 201
  | .appError e => e.statusCode ≠ 0

/-- The errors and outcomes a request carries have a status. -/
def BookingPc.Coded : BookingPc → Prop
  | .failSelect _ f | .failCommit _ f _ => f.error.statusCode ≠ 0
  | .completeSelect o _ | .completeCommit o _ => o.Coded
  | _ => True

/-- A failure of the saga has a status if it is an error the API describes. -/
def Failure.Coded : Failure → Prop
  | .app e => e.statusCode ≠ 0
  | _ => True

theorem raised_coded {e : Failure} (h : e.Coded) (b : Option BookingId) : (raised e b).Coded := by
  cases e with
  | app e => exact h
  | _ => trivial

theorem raised_running (e : Failure) (b : Option BookingId) : (raised e b).running = true := by
  cases e <;> rfl

theorem coded_of_assertCanTransition {current target : BookingState} {e : Failure}
    (h : assertCanTransition current target = some e) : e.Coded := by
  unfold assertCanTransition at h
  split at h
  · simp at h
  · obtain rfl := Option.some.inj h
    trivial

theorem coded_of_openBooking {db : Db} {now : Time} {uuid : ℕ} {userId : UserId} {key : String}
    {payload : BookingCreate} {pnr : ℕ → String} {refTaken : Bool} {e : Failure}
    (h : openBooking db now uuid userId key payload pnr refTaken = .error e) : e.Coded := by
  have hfails := openBooking_eq_error h
  clear h
  cases hfails with
  | check h =>
    rcases h with h | h <;> simp [Failure.Coded, h]
  | noReference | total | taken => trivial

theorem afterAuthorize_coded (σ : Saga) (pay : Payment) (result : AuthorizationResult) :
    (afterAuthorize σ pay result).Coded := by
  unfold afterAuthorize
  split
  · trivial
  · exact (by decide : (402 : ℕ) ≠ 0)

theorem afterAuthorize_running (σ : Saga) (pay : Payment) (result : AuthorizationResult) :
    (afterAuthorize σ pay result).running = true := by
  unfold afterAuthorize
  split <;> rfl

omit [PaymentGateway G] in
theorem coded_of_issueFails {σ : Saga} {e : Failure} (h : IssueFails s x σ e) : e.Coded := by
  cases h with
  | illegal h => exact coded_of_assertCanTransition h
  | _ => trivial

/-- Whatever happens to the saga, its outcome has a status. -/
theorem BookingStep.coded (h : BookingStep env s p r x pc s' pc') (hpc : pc.Coded) :
    pc'.Coded := by
  cases h
  case opensNothing e h => exact raised_coded (coded_of_openBooking h) _
  case blocks => exact (by decide : (403 : ℕ) ≠ 0)
  case selectsFailed => exact hpc
  case fails => exact hpc
  case selectIllegal h => exact raised_coded (coded_of_assertCanTransition h) _
  case recordIllegal h => exact raised_coded (coded_of_assertCanTransition h) _
  case refuseIllegal h => exact raised_coded (coded_of_assertCanTransition h) _
  case voidIllegal h => exact raised_coded (coded_of_assertCanTransition h) _
  case confirmIllegal h => exact raised_coded (coded_of_assertCanTransition h) _
  case issueRolledBack h => exact raised_coded (coded_of_issueFails h) _
  case authorizes => exact afterAuthorize_coded ..
  case retries => exact afterAuthorize_coded ..
  case voids => exact (by decide : (409 : ℕ) ≠ 0)
  case flags => exact (by decide : (409 : ℕ) ≠ 0)
  case refreshes => rfl
  case finds => exact hpc
  all_goals trivial

/-! ### The claim and its requests -/

/-- The row is the claim of the request, and no response is recorded in it. -/
structure OpenClaim (env : Env) (r : BookingRequest) (deadline : Time) (c : IdempotencyKey) :
    Prop where
  digest : c.requestHash = requestHash env r.payload
  expires : c.expiresAt = deadline
  response : c.response = none

/-- The claim of a request that is under way stands, unless it has expired. -/
structure UnderWay (env : Env) (s : Shared G) (deadline : Time) (r : BookingRequest)
    (pc : BookingPc) : Prop where
  coded : pc.Coded
  claim : deadline < s.clock ∨ ∃ c, s.db.claims r.claimKey = some c ∧ OpenClaim env r deadline c

/-- What holds at each point of a request.  In the transaction of `begin` that has written the
row, the row is locked, and it is either expired or not there. -/
def BookingPc.Keyed (env : Env) (s : Shared G) (q : ℕ) (deadline : Time) (r : BookingRequest) :
    BookingPc → Prop
  | .beginDelete now | .beginInsert now false => now ≤ s.clock
  | .beginInsert now true | .beginCommit now true true =>
    s.claimLocks r.claimKey = some q ∧ now ≤ s.clock ∧
      ∃ c, s.db.claims r.claimKey = some c ∧ c.expiresAt < now
  | .beginCommit _ false true =>
    s.claimLocks r.claimKey = some q ∧ s.db.claims r.claimKey = none
  | .beginCommit _ true false => False
  | .beginCommit _ false false | .beginSelect | .done _ _ => True
  | pc => UnderWay env s deadline r pc

omit [PaymentGateway G] in
theorem keyed_of_running {deadline : Time} (h : pc.running = true) :
    pc.Keyed env s q deadline r ↔ UnderWay env s deadline r pc := by
  cases pc <;> first
    | exact Iff.rfl
    | exact absurd h (by simp [BookingPc.running])

omit [PaymentGateway G] in
/-- A request keeps what it has while the row stays, its lock is not taken from it and time
passes. -/
theorem BookingPc.Keyed.mono {deadline : Time} (h : pc.Keyed env s q deadline r)
    (hclock : s.clock ≤ s'.clock) (hclaims : s'.db.claims r.claimKey = s.db.claims r.claimKey)
    (hlock : s.claimLocks r.claimKey = some q → s'.claimLocks r.claimKey = some q) :
    pc.Keyed env s' q deadline r := by
  by_cases hrun : pc.running = true
  · rw [keyed_of_running hrun] at h ⊢
    refine ⟨h.coded, ?_⟩
    rw [hclaims]
    exact h.claim.imp_left fun hlt => hlt.trans_le hclock
  · cases pc
    case beginDelete now => exact h.trans hclock
    case beginInsert now deleted =>
      cases deleted with
      | false => exact h.trans hclock
      | true =>
        obtain ⟨hown, hnow, c, hc, he⟩ := h
        exact ⟨hlock hown, hnow.trans hclock, c, hclaims.trans hc, he⟩
    case beginCommit now deleted claimed =>
      cases deleted <;> cases claimed
      · trivial
      · exact ⟨hlock h.1, hclaims.trans h.2⟩
      · exact h.elim
      · obtain ⟨hown, hnow, c, hc, he⟩ := h
        exact ⟨hlock hown, hnow.trans hclock, c, hclaims.trans hc, he⟩
    case beginSelect | done => trivial
    all_goals exact absurd rfl hrun

omit [PaymentGateway G] in
/-- A request whose claim has expired, if it is under way, and that does not hold the lock
loses nothing when the row is written. -/
theorem BookingPc.Keyed.setClaim {deadline : Time} (h : pc.Keyed env s q deadline r)
    (c : Option IdempotencyKey) (hlock : s.claimLocks r.claimKey ≠ some q)
    (hover : pc.running = true → deadline < s.clock) :
    pc.Keyed env (s.setClaim r.claimKey c) q deadline r := by
  by_cases hrun : pc.running = true
  · rw [keyed_of_running hrun] at h ⊢
    exact ⟨h.coded, .inl (hover hrun)⟩
  · cases pc
    case beginDelete now => exact h
    case beginInsert now deleted =>
      cases deleted with
      | false => exact h
      | true => exact absurd h.1 hlock
    case beginCommit now deleted claimed =>
      cases deleted <;> cases claimed
      · trivial
      · exact absurd h.1 hlock
      · exact h.elim
      · exact absurd h.1 hlock
    case beginSelect | done => trivial
    all_goals exact absurd rfl hrun

/-! ### What a step does to the claim -/

/-- A step of a request under way leaves the claim alone or ends the request. -/
theorem BookingStep.of_running (h : BookingStep env s p r x pc s' pc') (hrun : pc.running = true) :
    pc'.running = true ∧ SameClaim r.claimKey s s' ∨
      (∃ o b c, pc = .completeCommit o b ∧ s.db.claims r.claimKey = some c ∧
        s.claimFree p r.claimKey = true ∧ pc' = .done o.reply b ∧
        s' = s.setClaim r.claimKey (some (completedClaim c o.recorded.1 o.recorded.2))) ∨
      (∃ e b, pc = .release e b ∧ s.claimFree p r.claimKey = true ∧
        pc' = .done (.serverError e) b ∧ s' = s.setClaim r.claimKey none) ∨
      s.db.claims r.claimKey = none ∧ s' = s ∧ ∃ reply b, pc' = .done reply b := by
  cases h
  case completes o b c hf hc => exact .inr (.inl ⟨o, b, c, rfl, hc, hf, rfl, rfl⟩)
  case releases e b hf => exact .inr (.inr (.inl ⟨e, b, rfl, hf, rfl, rfl⟩))
  case findsNothing hc => exact .inr (.inr (.inr ⟨hc, rfl, _, _, rfl⟩))
  case completesNothing hc => exact .inr (.inr (.inr ⟨hc, rfl, _, _, rfl⟩))
  case opensNothing | selectIllegal | recordIllegal | refuseIllegal | voidIllegal | confirmIllegal
      | issueRolledBack => exact .inl ⟨raised_running .., rfl, rfl⟩
  case authorizes | retries => exact .inl ⟨afterAuthorize_running .., rfl, rfl⟩
  all_goals first
    | exact .inl ⟨rfl, rfl, rfl⟩
    | exact absurd hrun (by simp [BookingPc.running])

/-- The request that steps, in time, has what the next point asks for. -/
theorem BookingStep.keyed {deadline : Time} (h : BookingStep env s p r x pc s' pc')
    (hk : pc.Keyed env s p deadline r)
    (hclaiming : ∀ now ∈ pc.claiming?, deadline = now + seconds env.idempotencyTtlSeconds) :
    pc'.Keyed env s' p deadline r := by
  by_cases hrun : pc.running = true
  · have hunder := (keyed_of_running hrun).mp hk
    rcases h.of_running hrun with ⟨hrun', hsame⟩ | ⟨o, b, c, -, -, -, rfl, -⟩ |
      ⟨e, b, -, -, rfl, -⟩ | ⟨-, -, reply, b, rfl⟩
    · rw [keyed_of_running hrun']
      refine ⟨h.coded hunder.coded, ?_⟩
      rw [hsame.row]
      exact hunder.claim.imp_left fun hlt => hlt.trans_le (Step.booking h).clock_le
    · trivial
    · trivial
    · trivial
  · cases h
    case deletes now c hc he hf =>
      exact ⟨Function.update_self .., hk, c, hc, of_decide_eq_true he⟩
    case deletesNothing => exact hk
    case inserts now deleted hf hc =>
      cases deleted with
      | true => exact ⟨Function.update_self .., hk.2⟩
      | false => exact ⟨Function.update_self .., hc.resolve_left (by simp)⟩
    case claims now deleted =>
      exact ⟨trivial, .inr ⟨_, Function.update_self .., rfl, (hclaiming now rfl).symm, rfl⟩⟩
    case clears => exact hk.elim
    case insertsNothing | yields | replays | rejects => trivial
    all_goals exact absurd rfl hrun

/-- A step leaves the claim alone, takes its lock, or writes it. -/
theorem BookingStep.claim_cases {deadline : Time} (h : BookingStep env s p r x pc s' pc')
    (hk : pc.Keyed env s p deadline r) :
    SameClaim r.claimKey s s' ∧ pc.locking = false ∧ (pc'.running = true → pc.running = true) ∨
      (s'.db.claims r.claimKey = s.db.claims r.claimKey ∧ s.claimFree p r.claimKey = true ∧
        s'.claimLocks r.claimKey = some p ∧ pc'.locking = true ∧ pc'.running = false) ∨
      ∃ c, s' = s.setClaim r.claimKey c ∧ s.claimFree p r.claimKey = true ∧
        (pc.running = true ∨ ∃ now, pc.claiming? = some now) := by
  by_cases hrun : pc.running = true
  · have hlocking : pc.locking = false := by
      cases pc <;> first
        | rfl
        | exact absurd hrun (by simp [BookingPc.running])
    rcases h.of_running hrun with ⟨-, hsame⟩ | ⟨o, b, c, -, -, hf, -, rfl⟩ | ⟨e, b, -, hf, -, rfl⟩ |
      ⟨-, rfl, -⟩
    · exact .inl ⟨hsame, hlocking, fun _ => hrun⟩
    · exact .inr (.inr ⟨_, rfl, hf, .inl hrun⟩)
    · exact .inr (.inr ⟨_, rfl, hf, .inl hrun⟩)
    · exact .inl ⟨⟨rfl, rfl⟩, hlocking, fun _ => hrun⟩
  · cases h
    case deletes hc he hf => exact .inr (.inl ⟨rfl, hf, Function.update_self .., rfl, rfl⟩)
    case inserts hf hc => exact .inr (.inl ⟨rfl, hf, Function.update_self .., rfl, rfl⟩)
    case claims now deleted =>
      have hlock : s.claimLocks r.claimKey = some p := by
        cases deleted with
        | true => exact hk.1
        | false => exact hk.1
      exact .inr (.inr ⟨_, rfl, decide_eq_true (.inr hlock), .inr ⟨now, rfl⟩⟩)
    case clears => exact hk.elim
    case deletesNothing | insertsNothing | yields | replays | rejects =>
      exact .inl ⟨⟨rfl, rfl⟩, rfl, fun hrun' => absurd hrun' (by simp [BookingPc.running])⟩
    all_goals exact absurd rfl hrun

omit [PaymentGateway G] in
/-- Where a request is about to commit a claim, no other claim is in force. -/
theorem BookingPc.Keyed.expired_of_claiming {deadline deadline' now : Time}
    (hk : pc.Keyed env s p deadline r) (hc : pc.claiming? = some now)
    (hother : UnderWay env s deadline' r' pc') (hkey : r'.claimKey = r.claimKey) :
    deadline' < s.clock := by
  rcases hother.claim with hlt | ⟨c, hrow, hopen⟩
  · exact hlt
  · rw [hkey] at hrow
    cases pc
    case beginCommit now' deleted claimed =>
      cases deleted <;> cases claimed
      · simp [BookingPc.claiming?] at hc
      · exact absurd (hk.2.symm.trans hrow) (by simp)
      · exact hk.elim
      · obtain ⟨-, hnow, c', hc', he⟩ := hk
        obtain rfl := Option.some.inj (hc'.symm.trans hrow)
        calc deadline' = _ := hopen.expires.symm
          _ < now' := he
          _ ≤ s.clock := hnow
    all_goals simp [BookingPc.claiming?] at hc

/-! ### All the requests under a key -/

/-- What holds of the claim and the requests under its key. -/
structure KeyTable (env : Env) (k : String × UserId) (deadline : ℕ → Time)
    (w : World (Shared G) Proc) : Prop where
  own : ∀ q r pc, w.proc q = .booking r pc → r.claimKey = k →
    pc.Keyed env w.shared q (deadline q) r
  /-- Of two requests under way, one has outlived its claim. -/
  apart : ∀ q q', q ≠ q' → ∀ pc ∈ (w.proc q).under? k, ∀ pc' ∈ (w.proc q').under? k,
    pc.running = true → pc'.running = true →
      deadline q < w.shared.clock ∨ deadline q' < w.shared.clock
  /-- Only the transaction of a `begin` keeps the lock. -/
  locks : ∀ q, w.shared.claimLocks k = some q → ∃ pc ∈ (w.proc q).under? k, pc.locking = true

/-- A request under the key that was not there has just arrived. -/
theorem Step.arrives_under {P : Proc} {a : Input} (h : Step env s p P a s' (.booking r pc))
    (hP : P.under? k = none) (hkey : r.claimKey = k) : pc = .beginDelete s.clock ∧ s' = s := by
  generalize hP' : Proc.booking r pc = P' at h
  cases h
  case arrive req =>
    cases req with
    | createBooking r' =>
      injection hP' with hr hpc
      exact ⟨hpc, rfl⟩
    | createHold | deleteHold | cancelBooking | sweep => simp [Request.start] at hP'
  case booking r' x pc₀ pc' h =>
    injection hP' with hr hpc
    subst hr
    rw [Proc.under?_booking hkey] at hP
    simp at hP
  all_goals simp at hP'

variable {deadline : ℕ → Time} {w w' : World (Shared G) Proc} {a : Input} {pc₂ : BookingPc}

omit [PaymentGateway G] in
/-- Where a request under the key may write the claim in time, every other that is under way
has outlived its own. -/
theorem KeyTable.expired (hw : KeyTable env k deadline w) (hp : w.proc p = .booking r pc)
    (hkey : r.claimKey = k) (hC : InTime env k deadline w p a)
    (hwrites : pc.running = true ∨ ∃ now, pc.claiming? = some now) (hne : q ≠ p)
    (hq : w.proc q = .booking r' pc₂) (hkey' : r'.claimKey = k) (hrun : pc₂.running = true) :
    deadline q < w.shared.clock := by
  have hunder : (w.proc p).under? k = some pc := hp ▸ Proc.under?_booking hkey
  have hunder' : (w.proc q).under? k = some pc₂ := hq ▸ Proc.under?_booking hkey'
  rcases hwrites with hrunning | ⟨now, hnow⟩
  · exact (hw.apart q p hne pc₂ hunder' pc hunder hrun hrunning).resolve_right
      (not_lt.mpr ((hC pc hunder).2 hrunning))
  · exact (hw.own p r pc hp hkey).expired_of_claiming hnow
      ((keyed_of_running hrun).mp (hw.own q r' pc₂ hq hkey')) (hkey'.trans hkey.symm)

/-- A step of a request under the key, in time, leaves the others with what they have. -/
theorem KeyTable.own_other (hw : KeyTable env k deadline w)
    (h : BookingStep env w.shared p r x pc s' pc') (hp : w.proc p = .booking r pc)
    (hkey : r.claimKey = k) (hC : InTime env k deadline w p a) (hne : q ≠ p)
    (hq : w.proc q = .booking r' pc₂) (hkey' : r'.claimKey = k) :
    pc₂.Keyed env s' q (deadline q) r' := by
  have hold := hw.own q r' pc₂ hq hkey'
  have hclock := (Step.booking h).clock_le
  have hsame : r'.claimKey = r.claimKey := hkey'.trans hkey.symm
  have hnotq : w.shared.claimFree p r.claimKey = true →
      w.shared.claimLocks r.claimKey ≠ some q := by
    intro hf hlock
    rcases of_decide_eq_true hf with hnone | hsome
    · exact absurd (hnone.symm.trans hlock) (by simp)
    · exact hne (Option.some.inj (hlock.symm.trans hsome))
  rcases h.claim_cases (hw.own p r pc hp hkey) with ⟨hclaim, -⟩ | ⟨hrow, hf, -⟩ |
    ⟨c, rfl, hf, hwrites⟩
  · rw [← hsame] at hclaim
    exact hold.mono hclock hclaim.row fun hlock => hclaim.lock.trans hlock
  · rw [← hsame] at hrow hf hnotq
    exact hold.mono hclock hrow fun hlock => absurd hlock (hnotq hf)
  · rw [← hsame] at hf hnotq ⊢
    exact hold.setClaim c (hnotq hf) (hw.expired hp hkey hC hwrites hne hq hkey')

/-- Two requests are still not both under way in time. -/
theorem KeyTable.apart_mover (hw : KeyTable env k deadline w)
    (h : BookingStep env w.shared p r x pc s' pc') (hp : w.proc p = .booking r pc)
    (hkey : r.claimKey = k) (hC : InTime env k deadline w p a) (hne : q ≠ p)
    (hq : w.proc q = .booking r' pc₂) (hkey' : r'.claimKey = k) (hrun : pc'.running = true)
    (hrun₂ : pc₂.running = true) : deadline q < s'.clock := by
  refine lt_of_lt_of_le ?_ (Step.booking h).clock_le
  rcases h.claim_cases (hw.own p r pc hp hkey) with ⟨-, -, hwas⟩ | ⟨-, -, -, -, hnot⟩ |
    ⟨c, -, -, hwrites⟩
  · exact hw.expired hp hkey hC (.inl (hwas hrun)) hne hq hkey' hrun₂
  · exact absurd hrun (by simp [hnot])
  · exact hw.expired hp hkey hC hwrites hne hq hkey' hrun₂

omit [PaymentGateway G] in
/-- Before the first request there is no claim. -/
theorem keyTable_initial (db : Db) (g : G) (clock : Time) :
    KeyTable env k deadline (initialWorld db g clock) where
  own q r pc h := by simp [initialWorld] at h
  apart q q' _ pc h := by simp [initialWorld, Proc.under?] at h
  locks q h := by simp [initialWorld] at h

/-- A step of a process that serves no request under the key keeps what holds of those that
do. -/
theorem KeyTable.next_elsewhere {P' : Proc} (hw : KeyTable env k deadline w)
    (h : Step env w.shared p (w.proc p) a s' P') (hP : (w.proc p).under? k = none) :
    KeyTable env k deadline ⟨s', Function.update w.proc p P'⟩ := by
  have hclock : w.shared.clock ≤ s'.clock := h.clock_le
  have hsame := h.elsewhere hP
  have hnew : ∀ pc, P'.under? k = some pc → pc = .beginDelete w.shared.clock ∧ s' = w.shared := by
    intro pc hpc
    obtain ⟨r, rfl, hkey⟩ := Proc.under?_eq_some hpc
    exact h.arrives_under hP hkey
  -- a request that has just arrived is not under way
  have hstill : ∀ {j pc}, (Function.update w.proc p P' j).under? k = some pc →
      pc.running = true → (w.proc j).under? k = some pc := by
    intro j pc hj hrun
    by_cases hjp : j = p
    · subst hjp
      rw [Function.update_self] at hj
      rw [(hnew pc hj).1] at hrun
      simp [BookingPc.running] at hrun
    · rwa [Function.update_of_ne hjp] at hj
  refine ⟨fun q r pc hq hkey => ?_, fun q q' hne pc hpc pc' hpc' hrun hrun' => ?_, fun q hq => ?_⟩
  · by_cases hqp : q = p
    · subst hqp
      simp only [Function.update_self] at hq
      obtain ⟨rfl, rfl⟩ := hnew pc (hq ▸ Proc.under?_booking hkey)
      exact Nat.le_refl _
    · simp only [Function.update_of_ne hqp] at hq
      have hold := hw.own q r pc hq hkey
      subst hkey
      exact hold.mono hclock hsame.row fun hlock => hsame.lock.trans hlock
  · exact (hw.apart q q' hne pc (hstill hpc hrun) pc' (hstill hpc' hrun') hrun hrun').imp
      (fun hlt => hlt.trans_le hclock) fun hlt => hlt.trans_le hclock
  · have hlock : w.shared.claimLocks k = some q := hsame.lock.symm.trans hq
    obtain ⟨pc, hpc, hlocking⟩ := hw.locks q hlock
    have hqp : q ≠ p := by
      rintro rfl
      exact absurd (hP.symm.trans hpc) (by simp)
    exact ⟨pc, by simpa [Function.update_of_ne hqp] using hpc, hlocking⟩

/-- So does a step, in time, of one that does. -/
theorem KeyTable.next_under (hw : KeyTable env k deadline w) (hp : w.proc p = .booking r pc)
    (hkey : r.claimKey = k) (hC : InTime env k deadline w p a)
    (h : BookingStep env w.shared p r x pc s' pc') :
    KeyTable env k deadline ⟨s', Function.update w.proc p (.booking r pc')⟩ := by
  have hclock : w.shared.clock ≤ s'.clock := (Step.booking h).clock_le
  have hown := hw.own p r pc hp hkey
  have hP : (w.proc p).under? k = some pc := hp ▸ Proc.under?_booking hkey
  have hP' : (Proc.booking r pc').under? k = some pc' := Proc.under?_booking hkey
  refine ⟨fun q r' pc₂ hq hkey' => ?_, fun q q' hne pc₁ hpc₁ pc₂ hpc₂ hrun₁ hrun₂ => ?_,
    fun q hq => ?_⟩
  -- the requests under the key, two of them, and the lock of its claim
  · by_cases hqp : q = p
    · subst hqp
      simp only [Function.update_self] at hq
      injection hq with hr hpc
      subst hr hpc
      exact h.keyed hown (hC pc hP).1
    · simp only [Function.update_of_ne hqp] at hq
      exact hw.own_other h hp hkey hC hqp hq hkey'
  · by_cases hqp : q = p
    · subst hqp
      simp only [Function.update_self, hP', Option.mem_def, Option.some.injEq] at hpc₁
      simp only [Function.update_of_ne hne.symm] at hpc₂
      obtain ⟨r', hq', hkey'⟩ := Proc.under?_eq_some hpc₂
      subst hpc₁
      exact .inr (hw.apart_mover h hp hkey hC hne.symm hq' hkey' hrun₁ hrun₂)
    by_cases hqp' : q' = p
    · subst hqp'
      simp only [Function.update_self, hP', Option.mem_def, Option.some.injEq] at hpc₂
      simp only [Function.update_of_ne hne] at hpc₁
      obtain ⟨r', hq', hkey'⟩ := Proc.under?_eq_some hpc₁
      subst hpc₂
      exact .inl (hw.apart_mover h hp hkey hC hne hq' hkey' hrun₂ hrun₁)
    · simp only [Function.update_of_ne hqp] at hpc₁
      simp only [Function.update_of_ne hqp'] at hpc₂
      exact (hw.apart q q' hne pc₁ hpc₁ pc₂ hpc₂ hrun₁ hrun₂).imp
        (fun hlt => hlt.trans_le hclock) fun hlt => hlt.trans_le hclock
  · subst hkey
    rcases h.claim_cases hown with ⟨hsame, hnot, -⟩ | ⟨-, -, hlock, hlocking, -⟩ | ⟨c, rfl, -⟩
    · obtain ⟨pc₂, hpc₂, hlocking⟩ := hw.locks q (hsame.lock.symm.trans hq)
      have hqp : q ≠ p := by
        rintro rfl
        obtain rfl := Option.some.inj (hP.symm.trans hpc₂)
        exact absurd hlocking (by simp [hnot])
      exact ⟨pc₂, by simpa [Function.update_of_ne hqp] using hpc₂, hlocking⟩
    · obtain rfl : p = q := Option.some.inj (hlock.symm.trans hq)
      exact ⟨pc', by simp [hP'], hlocking⟩
    · have hnone : (w.shared.setClaim r.claimKey c).claimLocks r.claimKey = none :=
        Function.update_self ..
      exact absurd (hnone.symm.trans hq) (by simp)

/-- **Each step in time keeps what holds of the requests under a key.** -/
theorem KeyTable.next (hw : KeyTable env k deadline w) (hC : InTime env k deadline w p a)
    (hn : (service env G).next w p a = some w') : KeyTable env k deadline w' := by
  obtain ⟨s', P', hs, rfl⟩ := System.next_eq_some.mp hn
  have h := step_of hs
  cases hP : (w.proc p).under? k with
  | none => exact hw.next_elsewhere h hP
  | some pc =>
    obtain ⟨r, hp, hkey⟩ := Proc.under?_eq_some hP
    rw [hp] at h
    cases h
    case booking x pc' h => exact hw.next_under hp hkey hC h

/-! ### While a claim stands -/

/-- What the claim holds of the request that made it. -/
def BookingPc.Recorded (c : IdempotencyKey) : BookingPc → Prop
  | .done reply _ => reply.Known ∧ c.response = some (reply.status, reply.body bookingsPath)
  | pc => pc.running = true ∧ c.response = none

theorem recorded_of_running {c : IdempotencyKey} (hrun : pc.running = true) :
    pc.Recorded c ↔ c.response = none := by
  cases pc <;> first
    | exact and_iff_right rfl
    | exact absurd hrun (by simp [BookingPc.running])

theorem BookingPc.Recorded.cases {c : IdempotencyKey} (h : pc.Recorded c) :
    pc.running = true ∧ c.response = none ∨ ∃ reply b, pc = .done reply b ∧ reply.Known ∧
      c.response = some (reply.status, reply.body bookingsPath) := by
  cases pc
  case done reply b => exact .inr ⟨reply, b, rfl, h⟩
  all_goals exact .inl h

/-- A recorded outcome is the reply, and the replay can find it. -/
theorem recorded_of_coded {o : Outcome} (h : o.Coded) (c : IdempotencyKey)
    (b : Option BookingId) :
    (BookingPc.done o.reply b).Recorded (completedClaim c o.recorded.1 o.recorded.2) := by
  cases o with
  | returned status body =>
    obtain rfl : status = 201 := h
    exact ⟨⟨rfl, rfl⟩, rfl⟩
  | appError e =>
    have hcode : e.statusCode ≠ 0 := h
    refine ⟨trivial, ?_⟩
    simp [completedClaim, IdempotencyKey.response, Outcome.recorded, Outcome.reply, hcode,
      Reply.status, Reply.body]

/-- The row is the claim request `r` made, which is now at `pc`. -/
structure ClaimOf (env : Env) (s : Shared G) (deadline : Time) (r : BookingRequest)
    (pc : BookingPc) (c : IdempotencyKey) : Prop where
  row : s.db.claims r.claimKey = some c
  digest : c.requestHash = requestHash env r.payload
  expires : c.expiresAt = deadline
  recorded : pc.Recorded c

/-- What holds while the claim stands that process `p` made for `r`. -/
structure InForce (env : Env) (deadline : ℕ → Time) (p : ℕ) (r : BookingRequest)
    (w : World (Shared G) Proc) : Prop where
  keyed : KeyTable env r.claimKey deadline w
  claim : ∃ pc c, w.proc p = .booking r pc ∧ ClaimOf env w.shared (deadline p) r pc c

omit [PaymentGateway G] in
/-- No other request under the key is under way in time. -/
theorem InForce.not_running (hw : InForce env deadline p r w) (hne : q ≠ p)
    (hC : InTime env r.claimKey deadline w q a) (hq : w.proc q = .booking r' pc')
    (hkey : r'.claimKey = r.claimKey) : pc'.running = false := by
  obtain ⟨pc, c, hp, hclaim⟩ := hw.claim
  by_contra hrun
  rw [Bool.not_eq_false] at hrun
  have hunder : (w.proc q).under? r.claimKey = some pc' := hq ▸ Proc.under?_booking hkey
  have hclock := not_lt.mpr ((hC pc' hunder).2 hrun)
  have hown := (keyed_of_running hrun).mp (hw.keyed.own q r' pc' hq hkey)
  obtain ⟨c', hrow, hopen⟩ := hown.claim.resolve_left hclock
  obtain rfl : c = c' := Option.some.inj (hclaim.row.symm.trans (hkey ▸ hrow))
  rcases hclaim.recorded.cases with ⟨hrun', -⟩ | ⟨reply, b, -, -, hresponse⟩
  · have hexpires : deadline q = deadline p := hopen.expires.symm.trans hclaim.expires
    rcases hw.keyed.apart p q hne.symm pc (hp ▸ Proc.under?_booking rfl) pc' hunder hrun' hrun
      with hlt | hlt
    · exact hclock (hexpires ▸ hlt)
    · exact hclock hlt
  · exact absurd (hopen.response.symm.trans hresponse) (by simp)

omit [PaymentGateway G] in
/-- No other request under the key is about to commit a claim: there is one, and the step is
not its removal. -/
theorem InForce.not_claiming (hw : InForce env deadline p r w)
    (hC : WhileStanding env r.claimKey deadline w q a) (hq : w.proc q = .booking r' pc')
    (hkey : r'.claimKey = r.claimKey) : pc'.claiming? = none := by
  obtain ⟨pc, c, -, hclaim⟩ := hw.claim
  have hown := hw.keyed.own q r' pc' hq hkey
  have hunder : (w.proc q).under? r.claimKey = some pc' := hq ▸ Proc.under?_booking hkey
  cases pc'
  case beginCommit now deleted claimed =>
    have hdeleted : deleted = false := hC.2 _ hunder
    subst hdeleted
    cases claimed
    · rfl
    · exact absurd (hown.2.symm.trans (hkey ▸ hclaim.row)) (by simp)
  all_goals rfl

/-- A step of another request under the key leaves the row alone. -/
theorem InForce.row_other (hw : InForce env deadline p r w) (hne : q ≠ p)
    (hC : WhileStanding env r.claimKey deadline w q a) (hq : w.proc q = .booking r' pc)
    (hkey : r'.claimKey = r.claimKey) (h : BookingStep env w.shared q r' x pc s' pc') :
    s'.db.claims r.claimKey = w.shared.db.claims r.claimKey := by
  rcases h.claim_cases (hw.keyed.own q r' pc hq hkey) with ⟨hsame, -⟩ | ⟨hrow, -⟩ |
    ⟨c, -, -, hrun | ⟨now, hnow⟩⟩
  · exact hkey ▸ hsame.row
  · exact hkey ▸ hrow
  · exact absurd hrun (by simp [hw.not_running hne hC.1 hq hkey])
  · exact absurd hnow (by simp [hw.not_claiming hC hq hkey])

/-- While the claim is not removed, it stands. -/
theorem InForce.next (hw : InForce env deadline p r w)
    (hC : WhileStanding env r.claimKey deadline w q a)
    (hn : (service env G).next w q a = some w') : InForce env deadline p r w' := by
  refine ⟨hw.keyed.next hC.1 hn, ?_⟩
  obtain ⟨pc, c, hp, hclaim⟩ := hw.claim
  obtain ⟨s', P', hs, rfl⟩ := System.next_eq_some.mp hn
  have h := step_of hs
  by_cases hqp : q = p
  · subst hqp
    rw [hp] at h
    cases h
    case booking x pc' h =>
    have hunder : (w.proc q).under? r.claimKey = some pc := hp ▸ Proc.under?_booking rfl
    -- the request is still at work, or it has recorded its outcome and does nothing more
    rcases hclaim.recorded.cases with ⟨hrun, hresponse⟩ | ⟨reply, b, rfl, -⟩
    · rcases h.of_running hrun with ⟨hrun', hsame⟩ | ⟨o, b, c', rfl, hrow, -, rfl, rfl⟩ |
        ⟨e, b, rfl, -⟩ | ⟨hnone, -⟩
      · exact ⟨pc', c, Function.update_self .., hsame.row.trans hclaim.row, hclaim.digest,
          hclaim.expires, (recorded_of_running hrun').mpr hresponse⟩
      · obtain rfl : c = c' := Option.some.inj (hclaim.row.symm.trans hrow)
        have hcoded := ((keyed_of_running hrun).mp (hw.keyed.own q r _ hp rfl)).coded
        exact ⟨_, _, Function.update_self .., Function.update_self .., hclaim.digest,
          hclaim.expires, recorded_of_coded hcoded c b⟩
      · exact absurd (hC.2 _ hunder) (by simp [BookingPc.removing])
      · exact absurd (hnone.symm.trans hclaim.row) (by simp)
    · cases h
  · have hrow : s'.db.claims r.claimKey = w.shared.db.claims r.claimKey := by
      cases hP : (w.proc q).under? r.claimKey with
      | none => exact (h.elsewhere hP).row
      | some pc' =>
        obtain ⟨r', hq, hkey⟩ := Proc.under?_eq_some hP
        rw [hq] at h
        cases h
        case booking x pc'' h => exact hw.row_other hqp hC hq hkey h
    refine ⟨pc, c, ?_, hrow.trans hclaim.row, hclaim.digest, hclaim.expires, hclaim.recorded⟩
    rw [← hp]
    exact Function.update_of_ne (Ne.symm hqp) _ _

/-- The claim a request commits stands. -/
theorem KeyTable.standing {now : Time} {deleted : Bool} (hw : KeyTable env r.claimKey deadline w)
    (hp : w.proc p = .booking r (.beginCommit now deleted true))
    (hC : InTime env r.claimKey deadline w p a) (hn : (service env G).next w p a = some w') :
    InForce env deadline p r w' := by
  refine ⟨hw.next hC hn, ?_⟩
  have hunder : (w.proc p).under? r.claimKey = some (.beginCommit now deleted true) :=
    hp ▸ Proc.under?_booking rfl
  have hexpires := (hC _ hunder).1 now rfl
  obtain ⟨s', P', hs, rfl⟩ := System.next_eq_some.mp hn
  have h := step_of hs
  rw [hp] at h
  cases h
  case booking x pc' h =>
  cases h
  case claims =>
  exact ⟨_, _, Function.update_self .., Function.update_self .., rfl, hexpires.symm, rfl, rfl⟩

/-! ### The answers -/

/-- What `begin` makes of what it finds. -/
def told : Except AppError (ℕ × JsonValue) → Reply
  | .ok (status, body) => .json status body true
  | .error e => .problem e

omit [PaymentGateway G] in
/-- What a request finds in a claim that stands is the answer. -/
theorem told_resolveClaim {d : Time} {c : IdempotencyKey} (h : ClaimOf env s d r pc c)
    (hsha : CollisionFree env r.payload.dump.dumps r'.payload.dump.dumps) :
    told (resolveClaim (some c) (requestHash env r'.payload)) = answer r r' pc.reply? := by
  unfold resolveClaim answer
  by_cases hbody : r'.payload = r.payload
  · have hdigest : c.requestHash = requestHash env r'.payload := by rw [h.digest, hbody]
    rw [if_pos hbody]
    dsimp only
    rw [if_neg (not_not.mpr hdigest)]
    rcases h.recorded.cases with ⟨hrun, hresponse⟩ | ⟨reply, b, rfl, -, hresponse⟩
    · have hreply : pc.reply? = none := by
        cases pc <;> first
          | rfl
          | exact absurd hrun (by simp [BookingPc.running])
      rw [hresponse, hreply]
      rfl
    · rw [hresponse]
      rfl
  · have hdigest : c.requestHash ≠ requestHash env r'.payload := by
      intro heq
      exact hbody (requestHash_inj hsha (h.digest.symm.trans heq)).symm
    rw [if_neg hbody]
    dsimp only
    rw [if_pos hdigest]
    rfl

/-- A statement of `begin` touches claims and their locks only, and one that commits no claim
does not lead to the saga. -/
theorem BookingStep.of_begin (h : BookingStep env s p r x pc s' pc') (hrun : pc.running = false)
    (hclaiming : pc.claiming? = none) : pc'.running = false ∧ OnlyClaims s s' := by
  cases h
  case claims => simp [BookingPc.claiming?] at hclaiming
  case deletes | deletesNothing | inserts | insertsNothing | clears | yields | replays | rejects =>
    exact ⟨rfl, rfl, rfl, rfl⟩
  all_goals simp [BookingPc.running] at hrun

/-- `begin` ends with what it finds. -/
theorem BookingStep.reply_of_begin {reply : Reply} {b : Option BookingId}
    (h : BookingStep env s p r x pc s' (.done reply b)) (hrun : pc.running = false) :
    reply = told (resolveClaim (s.db.claims r.claimKey) (requestHash env r.payload)) := by
  generalize hdone : BookingPc.done reply b = pc' at h
  cases h
  case replays status body h =>
    injection hdone with hreply
    rw [h, hreply]
    rfl
  case rejects e h =>
    injection hdone with hreply
    rw [h, hreply]
    rfl
  case deletes | deletesNothing | inserts | insertsNothing | claims | clears | yields =>
    simp at hdone
  all_goals exact absurd hrun (by simp [BookingPc.running])

/-- What another request under the key owes, while the claim stands that process `p`, now at
`pc`, made for `r`. -/
structure OnlyAnswered (env : Env) (deadline : ℕ → Time) (p : ℕ) (r : BookingRequest)
    (pc : BookingPc) (w : World (Shared G) Proc) (q : ℕ) (r' : BookingRequest)
    (pc' : BookingPc) : Prop where
  /-- No step of it runs the saga or lets it through, calls the gateway, or changes anything
  but the claim. -/
  harmless : ∀ a w', WhileStanding env r.claimKey deadline w q a →
    (service env G).next w q a = some w' → pc'.running = false ∧ OnlyClaims w.shared w'.shared ∧
      ∀ pc'' ∈ (w'.proc q).under? r.claimKey, pc''.running = false
  /-- What it is told is the answer. -/
  answered : ∀ a w' reply b, WhileStanding env r.claimKey deadline w q a →
    (service env G).next w q a = some w' → w'.proc q = .booking r' (.done reply b) →
      reply = answer r r' pc.reply?
  /-- Nothing keeps it from its answer before the claim expires. -/
  served : pc'.beginLeft ≠ 0 → w.shared.clock ≤ deadline p → ∀ x, ∃ w',
    (service env G).exec w (moves q pc'.beginLeft x) = some w' ∧ w'.shared = w.shared ∧
      w'.proc q = .booking r' (.done (answer r r' pc.reply?) none)

omit [PaymentGateway G] in
/-- No transaction has the claim locked before it expires. -/
theorem InForce.unlocked (hw : InForce env deadline p r w)
    (hclock : w.shared.clock ≤ deadline p) : w.shared.claimLocks r.claimKey = none := by
  obtain ⟨pc, c, -, hclaim⟩ := hw.claim
  rw [← hclaim.expires] at hclock
  by_contra hlocked
  obtain ⟨j, hj⟩ := Option.ne_none_iff_exists'.mp hlocked
  obtain ⟨pc', hpc', hlocking⟩ := hw.keyed.locks j hj
  obtain ⟨r', hproc, hkey⟩ := Proc.under?_eq_some hpc'
  have hown := hw.keyed.own j r' pc' hproc hkey
  have hexpired : ∀ {now : Time}, now ≤ w.shared.clock →
      (∃ c', w.shared.db.claims r'.claimKey = some c' ∧ c'.expiresAt < now) → False := by
    rintro now hnow ⟨c', hc', he⟩
    obtain rfl : c = c' := Option.some.inj (hclaim.row.symm.trans (hkey ▸ hc'))
    exact absurd (hnow.trans hclock) (not_le.mpr he)
  cases pc'
  case beginInsert now deleted =>
    cases deleted
    · simp [BookingPc.locking] at hlocking
    · exact hexpired hown.2.1 hown.2.2
  case beginCommit now deleted claimed =>
    cases deleted <;> cases claimed
    · simp [BookingPc.locking] at hlocking
    · exact absurd (hown.2.symm.trans (hkey ▸ hclaim.row)) (by simp)
    · exact hown
    · exact hexpired hown.2.1 hown.2.2
  all_goals simp [BookingPc.locking] at hlocking

/-- A request answered by `n` statements from where a step that leaves the shared state alone
leads is answered by `n + 1`. -/
theorem answered_succ {n : ℕ} {reply : Reply} (hq : w.proc q = .booking r pc)
    (hstep : stepBooking env w.shared q r x pc = some (w.shared, pc'))
    (h : ∀ w₁ : World (Shared G) Proc, w₁.shared = w.shared → w₁.proc q = .booking r pc' →
      ∃ w', (service env G).exec w₁ (moves q n x) = some w' ∧ w'.shared = w.shared ∧
        w'.proc q = .booking r (.done reply none)) :
    ∃ w', (service env G).exec w (moves q (n + 1) x) = some w' ∧ w'.shared = w.shared ∧
      w'.proc q = .booking r (.done reply none) := by
  obtain ⟨w', hexec, hend⟩ := h ⟨w.shared, Function.update w.proc q (.booking r pc')⟩ rfl
    (Function.update_self ..)
  refine ⟨w', ?_, hend⟩
  show ((service env G).next w q (.go x)).bind _ = _
  rw [next_booking hq hstep]
  exact hexec

/-- With a claim in force and its lock free, `begin` runs to its end. -/
theorem exists_answer {c : IdempotencyKey} (hrow : w.shared.db.claims r.claimKey = some c)
    (hlock : w.shared.claimLocks r.claimKey = none) (hq : w.proc q = .booking r pc)
    (hfits : pc.Keyed env w.shared q (deadline q) r) (hclock : w.shared.clock ≤ c.expiresAt)
    (hleft : pc.beginLeft ≠ 0) :
    ∃ w', (service env G).exec w (moves q pc.beginLeft x) = some w' ∧ w'.shared = w.shared ∧
      w'.proc q = .booking r (.done
        (told (resolveClaim (some c) (requestHash env r.payload))) none) := by
  have hfree : w.shared.claimFree q r.claimKey = true := decide_eq_true (.inl hlock)
  -- from the last statement of `begin` backwards: each finds the claim and leaves it
  have hselect : ∀ w₁ : World (Shared G) Proc, w₁.shared = w.shared →
      w₁.proc q = .booking r .beginSelect →
      ∃ w', (service env G).exec w₁ (moves q 1 x) = some w' ∧ w'.shared = w.shared ∧
        w'.proc q = .booking r (.done
          (told (resolveClaim (some c) (requestHash env r.payload))) none) := by
    intro w₁ hw₁ hq₁
    rw [← hw₁] at hrow ⊢
    refine answered_succ hq₁ ?_ fun w₂ hw₂ hq₂ => ⟨w₂, rfl, hw₂, hq₂⟩
    simp only [stepBooking, stepBegin, hrow]
    cases resolveClaim (some c) (requestHash env r.payload) <;> rfl
  have hcommit : ∀ w₁ : World (Shared G) Proc, w₁.shared = w.shared → ∀ now,
      w₁.proc q = .booking r (.beginCommit now false false) →
      ∃ w', (service env G).exec w₁ (moves q 2 x) = some w' ∧ w'.shared = w.shared ∧
        w'.proc q = .booking r (.done
          (told (resolveClaim (some c) (requestHash env r.payload))) none) := by
    intro w₁ hw₁ now hq₁
    rw [← hw₁] at hselect ⊢
    exact answered_succ hq₁ rfl hselect
  have hinsert : ∀ w₁ : World (Shared G) Proc, w₁.shared = w.shared → ∀ now,
      w₁.proc q = .booking r (.beginInsert now false) →
      ∃ w', (service env G).exec w₁ (moves q 3 x) = some w' ∧ w'.shared = w.shared ∧
        w'.proc q = .booking r (.done
          (told (resolveClaim (some c) (requestHash env r.payload))) none) := by
    intro w₁ hw₁ now hq₁
    rw [← hw₁] at hrow hfree hcommit ⊢
    refine answered_succ hq₁ ?_ fun w₂ hw₂ hq₂ => hcommit w₂ hw₂ now hq₂
    simp [stepBooking, stepBegin, hfree, hrow]
  cases pc
  case beginSelect => exact hselect w rfl hq
  case beginCommit now deleted claimed =>
    cases deleted <;> cases claimed
    · exact hcommit w rfl now hq
    · exact absurd (hfits.2.symm.trans hrow) (by simp)
    · exact hfits.elim
    · exact absurd (hlock.symm.trans hfits.1) (by simp)
  case beginInsert now deleted =>
    cases deleted
    · exact hinsert w rfl now hq
    · exact absurd (hlock.symm.trans hfits.1) (by simp)
  case beginDelete now =>
    have hnow : now ≤ c.expiresAt := hfits.trans hclock
    -- the claim has not expired, so the DELETE matches nothing
    have hvalid : expiredClaim now c = false := decide_eq_false (not_lt.mpr hnow)
    refine answered_succ hq ?_ fun w₁ hw₁ hq₁ => hinsert w₁ hw₁ now hq₁
    simp [stepBooking, stepBegin, hrow, hvalid]
  all_goals exact absurd rfl hleft

/-- What a standing claim means for another request under the key. -/
theorem InForce.onlyAnswered (hw : InForce env deadline p r w) {pc : BookingPc}
    (hp : w.proc p = .booking r pc) (hne : q ≠ p) (hq : w.proc q = .booking r' pc')
    (hkey : r'.claimKey = r.claimKey)
    (hsha : CollisionFree env r.payload.dump.dumps r'.payload.dump.dumps) :
    OnlyAnswered env deadline p r pc w q r' pc' := by
  obtain ⟨pc₀, c, hp₀, hclaim⟩ := hw.claim
  obtain rfl : pc₀ = pc := by
    rw [hp] at hp₀
    injection hp₀ with _ hpc
    exact hpc.symm
  refine ⟨fun a w' hC hn => ?_, fun a w' reply b hC hn hdone => ?_, fun hleft hclock x => ?_⟩
  · have hrun := hw.not_running hne hC.1 hq hkey
    obtain ⟨s', P', hs, rfl⟩ := System.next_eq_some.mp hn
    have h := step_of hs
    rw [hq] at h
    cases h
    case booking x pc'' h =>
    obtain ⟨hrun', honly⟩ := h.of_begin hrun (hw.not_claiming hC hq hkey)
    refine ⟨hrun, honly, fun pc₁ hpc₁ => ?_⟩
    simp only [Function.update_self, Proc.under?_booking hkey] at hpc₁
    exact Option.some.inj hpc₁ ▸ hrun'
  · obtain ⟨s', P', hs, rfl⟩ := System.next_eq_some.mp hn
    have h := step_of hs
    rw [hq] at h
    cases h
    case booking x pc'' h =>
    simp only [Function.update_self] at hdone
    injection hdone with _ hdone
    subst hdone
    rw [h.reply_of_begin (hw.not_running hne hC.1 hq hkey), hkey, hclaim.row]
    exact told_resolveClaim hclaim hsha
  · have hrow : w.shared.db.claims r'.claimKey = some c := hkey ▸ hclaim.row
    have hlock : w.shared.claimLocks r'.claimKey = none := hkey ▸ hw.unlocked hclock
    have hanswer := exists_answer (x := x) hrow hlock hq (hw.keyed.own q r' pc' hq hkey)
      (hclock.trans_eq hclaim.expires.symm) hleft
    rwa [told_resolveClaim hclaim hsha] at hanswer

/-- **While a claim stands, one request runs the saga and the others are answered from its
claim**: with the reply of that request once it has ended, and its outcome is then a known one;
with a conflict before; and with a refusal, at any time, if their bodies differ. -/
theorem create_booking_idempotent {db : Db} {g : G} {clock : Time}
    {as bs : List (ℕ × Input)} {w₁ : World (Shared G) Proc} {now : Time} {deleted : Bool}
    (h : (service env G).Run (InTime env r.claimKey deadline) (initialWorld db g clock) as w)
    (hp : w.proc p = .booking r (.beginCommit now deleted true))
    (hC : InTime env r.claimKey deadline w p a) (hn : (service env G).next w p a = some w₁)
    (h' : (service env G).Run (WhileStanding env r.claimKey deadline) w₁ bs w') :
    ∃ pc, w'.proc p = .booking r pc ∧ (∀ reply ∈ pc.reply?, reply.Known) ∧
      ∀ q r' pc', q ≠ p → w'.proc q = .booking r' pc' → r'.claimKey = r.claimKey →
        CollisionFree env r.payload.dump.dumps r'.payload.dump.dumps →
          OnlyAnswered env deadline p r pc w' q r' pc' := by
  have hkeyed : KeyTable env r.claimKey deadline w := by
    refine h.induct (keyTable_initial db g clock) fun w₁ p a w₂ hw hC hn => ?_
    exact hw.next hC hn
  have hstanding : InForce env deadline p r w' := by
    refine h'.induct (hkeyed.standing hp hC hn) fun w₁ q a w₂ hw hC hn => ?_
    exact hw.next hC hn
  obtain ⟨pc, c, hpc, hclaim⟩ := hstanding.claim
  refine ⟨pc, hpc, fun reply hreply => ?_, fun q r' pc' hne hq hkey hsha =>
    hstanding.onlyAnswered hpc hne hq hkey hsha⟩
  rcases hclaim.recorded.cases with ⟨hrun, -⟩ | ⟨reply', b, rfl, hknown, -⟩
  · cases pc <;> simp [BookingPc.reply?, BookingPc.running] at hreply hrun
  · obtain rfl : reply' = reply := Option.some.inj hreply
    exact hknown

/-! ### A retry and a key used twice -/

deriving instance DecidableEq for BookingRequest

/-- A request about to commit the claim it inserted. -/
def Proc.claiming? : Proc → Option (BookingRequest × Time × Bool)
  | .booking r (.beginCommit now deleted true) => some (r, now, deleted)
  | _ => none

theorem Proc.claiming?_eq_some {P : Proc} {now : Time} {deleted : Bool}
    (h : P.claiming? = some (r, now, deleted)) :
    P = .booking r (.beginCommit now deleted true) := by
  unfold claiming? at h
  split at h
  · obtain ⟨rfl, rfl, rfl⟩ := Option.some.inj h
    rfl
  · simp at h

/-- A request that has just arrived. -/
def Proc.arrived? : Proc → Option BookingRequest
  | .booking r (.beginDelete _) => some r
  | _ => none

theorem Proc.arrived?_eq_some {P : Proc} (h : P.arrived? = some r) :
    ∃ now, P = .booking r (.beginDelete now) := by
  unfold arrived? at h
  split at h
  · next now =>
    obtain rfl := Option.some.inj h
    exact ⟨now, rfl⟩
  · simp at h

/-- One key of one user. -/
def adaKey : String × UserId := ("key-of-ada-00000001", 10)

/-- A booking of one seat under that key. -/
def adaRequest : BookingRequest := ⟨adaKey.2, adaKey.1, soloBody 0 "tok_test_aaaa11110000"⟩

/-- The same on another card. -/
def adaOtherCard : BookingRequest := ⟨adaKey.2, adaKey.1, soloBody 0 "tok_test_bbbb22220000"⟩

/-- All claims are made at the start. -/
def firstDay : ℕ → Time := fun _ => seconds (24 * 3600)

/-- The seat is held, and the first request is about to commit its claim. -/
def firstClaim : List (ℕ × Input) :=
  asks 0 (.createHold ⟨10, 7, "1A"⟩) 3 (.calm 0) ++
    asks 1 (.createBooking adaRequest) 2 (.calm 1)

/-- The first request ends, and then it is sent again, and then with the other card. -/
def retries : List (ℕ × Input) :=
  moves 1 11 (.calm 1) ++
    [(2, .arrive (.createBooking adaRequest)), (3, .arrive (.createBooking adaOtherCard))]

/-- The first request books the seat; the retry is told the same, and the other body is
refused. -/
theorem create_booking_idempotent_retried :
    ∃ (w w₁ w' w₂ w₃ : World (Shared FakePaymentGateway) Proc) (reply : Reply),
      (service demoEnv FakePaymentGateway).Run (InTime demoEnv adaKey firstDay) (onSale 1)
        firstClaim w ∧
      (service demoEnv FakePaymentGateway).next w 1 (.go (.calm 1)) = some w₁ ∧
      (service demoEnv FakePaymentGateway).Run
        (WhileStanding demoEnv adaKey firstDay) w₁ retries w' ∧
      reply.status = 201 ∧
      (service demoEnv FakePaymentGateway).exec w' (moves 2 4 (.calm 0)) = some w₂ ∧
      w₂.proc 2 = .booking adaRequest
        (.done (.json 201 (reply.body bookingsPath) true) none) ∧
      (service demoEnv FakePaymentGateway).exec w' (moves 3 4 (.calm 0)) = some w₃ ∧
      w₃.proc 3 = .booking adaOtherCard (.done (.problem
        (.idempotencyKeyReused ("This Idempotency-Key was already used for a different " ++
          "request body. Use a fresh key for a new request."))) none) := by
  have hrun : ((service demoEnv FakePaymentGateway).checked
      (InTime demoEnv adaKey firstDay) (onSale 1) firstClaim).any (fun w =>
        decide ((w.proc 1).claiming? = some (adaRequest, 0, false)) &&
        decide (InTime demoEnv adaKey firstDay w 1 (.go (.calm 1))) &&
        ((service demoEnv FakePaymentGateway).next w 1 (.go (.calm 1))).any fun w₁ =>
          ((service demoEnv FakePaymentGateway).checked
            (WhileStanding demoEnv adaKey firstDay) w₁ retries).any fun w' =>
              (((w'.proc 1).under? adaKey).bind BookingPc.reply?).any
                  (fun reply => decide (reply.status = 201)) &&
                decide ((w'.proc 2).arrived? = some adaRequest) &&
                decide ((w'.proc 3).arrived? = some adaOtherCard) &&
                decide (w'.shared.clock ≤ firstDay 0)) = true := by
    decide +kernel
  obtain ⟨w, hw, htest⟩ := System.exists_run_of_checked hrun
  simp only [Bool.and_eq_true] at htest
  obtain ⟨⟨hclaiming, hC⟩, htest⟩ := htest
  obtain ⟨w₁, hn, htest⟩ := (Option.any_eq_true _ _).mp htest
  obtain ⟨w', hw', htest⟩ := System.exists_run_of_checked htest
  simp only [Bool.and_eq_true, decide_eq_true_eq] at htest
  obtain ⟨⟨⟨hreply, hretry⟩, hreused⟩, hclock⟩ := htest
  have hp := Proc.claiming?_eq_some (of_decide_eq_true hclaiming)
  obtain ⟨now₁, hq₁⟩ := Proc.arrived?_eq_some hretry
  obtain ⟨now₂, hq₂⟩ := Proc.arrived?_eq_some hreused
  obtain ⟨pc, hpc, -, hothers⟩ :=
    create_booking_idempotent hw hp (of_decide_eq_true hC) hn hw'
  obtain ⟨reply, hreply, hstatus⟩ := (Option.any_eq_true _ _).mp hreply
  rw [hpc, Proc.under?_booking (k := adaKey) rfl, Option.bind_some] at hreply
  have hstatus : reply.status = 201 := of_decide_eq_true hstatus
  have hretried := hothers 2 _ _ (by decide) hq₁ rfl fun _ => rfl
  obtain ⟨w₂, hexec₂, -, hend₂⟩ := hretried.served (Nat.succ_ne_zero _) hclock (.calm 0)
  have hother := hothers 3 _ _ (by decide) hq₂ rfl fun h => h
  obtain ⟨w₃, hexec₃, -, hend₃⟩ := hother.served (Nat.succ_ne_zero _) hclock (.calm 0)
  have hdiffer : adaOtherCard.payload ≠ adaRequest.payload := by decide
  unfold answer at hend₂ hend₃
  rw [hreply, if_pos rfl] at hend₂
  rw [if_neg hdiffer] at hend₃
  exact ⟨w, w₁, w', w₂, w₃, reply, hw, hn, hw', hstatus, hexec₂, hstatus ▸ hend₂, hexec₃, hend₃⟩

end SkyLock
