import SkyLock.Scripts
import SkyLock.Ticketing

/-!
# A saga on its own

A saga that nothing runs beside gives up cleanly where it has planned for that:
a blocked or declined payment, a ticketing failure, a reversal that fails.  Where
the gateway stays silent for good, or a constraint rejects a row, it dies with its
booking half way.

The remaining course of a saga is described backwards, from its end: `Ahead` says
at each program counter what must yet go well.

## Main definitions

* `Concluded` — what the end of a saga owes.
* `RunDraws`, `Scripted` — a saga alone, with its draws.
* `charge` — the two `authorize` calls of a saga.
* `Unharmed` — nothing goes wrong that a saga has not planned for.
* `Ahead` — the same from any point of the saga on.

## Main results

* `BookingStep.ahead` — a step of the saga keeps what lies ahead.
* `concluded_iff` — **a saga on its own ends, and leaves its booking settled and
  its charge accounted for exactly where nothing unplanned goes wrong**.
* `charge_kept` — a ticket number that is taken leaves the charge standing.
-/

namespace SkyLock

open Concurrent

variable {G : Type} [PaymentGateway G] {env : Env} {s s' : Shared G} {p : ℕ}

/-! ### What the end owes -/

/-- The booking is in a terminal state, and an approved authorization that was not
reversed belongs to a confirmed booking, on a captured payment, or to one flagged
for review. -/
def Concluded (s : Shared G) (b : BookingId) : Prop :=
  ∃ row, s.db.booking b = some row ∧ row.state ∈ terminalBookingStates ∧
    (Unreversed b s.calls → row.state = .needsManualReview ∨
      row.state = .confirmed ∧ ∃ pay, s.db.paymentsOf b = [pay] ∧ pay.state = .captured)

/-! ### The course of a saga -/

/-- The draws of a saga: those of the fraud controls, of ticketing and of the
confirmation. -/
structure RunDraws where
  assess : Draws
  issue : Draws
  confirm : Draws

/-- The draws of one step. -/
def RunDraws.at (d : RunDraws) : BookingPc → Draws
  | .assess _ => d.assess
  | .confirm _ _ => d.confirm
  | _ => d.issue

/-- `run` takes a step, with the given draws. -/
def Scripted (d : RunDraws) (P : Proc) (a : Input) : Prop :=
  ∃ r pc, P = .booking r pc ∧ pc.saga?.isSome ∧ a = .go (d.at pc)

/-- What a saga asks the gateway for. -/
def chargeRequest (r : BookingRequest) (σ : Saga) : AuthorizeRequest :=
  ⟨r.payload.cardToken, σ.total, σ.currency, gatewayKey r.key⟩

/-- The `authorize` calls of a saga: a second one where the first timed out. -/
def charge (g : G) (req : AuthorizeRequest) : Except PaymentTimeout AuthorizationResult × G :=
  match (PaymentGateway.authorize g req).1 with
  | .ok _ => PaymentGateway.authorize g req
  | .error _ => PaymentGateway.authorize (PaymentGateway.authorize g req).2 req

/-- From an approval on: the card asks for a ticketing failure, or no constraint
rejects the tickets, the capture is answered, and the confirmation commits. -/
def Sells (db : Db) (r : BookingRequest) (σ : Saga) (d : RunDraws) (g : G) (ref : String) : Prop :=
  triggerFor r.payload.cardToken = .ticketingFailure ∨
    Insertable db σ d.issue.eTicketNo ∧ d.issue.seqTaken = false ∧
      succeeded (PaymentGateway.capture g ref (gatewayKey r.key ++ ":cap")).1 = true ∧
        d.confirm.seqTaken = false

/-- What the seats behind the holds of a request cost. -/
def BookingRequest.totalIn (r : BookingRequest) (db : Db) : Cents :=
  ((lockSeatsForHolds db r.payload.holdIds r.userId).map fun i => i.row.price).sum

/-- What the saga writes of an answer fits the columns of the payment. -/
def AuthorizationResult.Recordable (result : AuthorizationResult) : Prop :=
  Varchar 64 result.providerRef ∧ (result.approved = false → VarcharOrNull 48 result.failureCode)

instance : DecidablePred AuthorizationResult.Recordable := fun _ =>
  inferInstanceAs (Decidable (_ ∧ _))

/-- From the outcome of the charge on: it is an answer that can be recorded, and where it
approves, the booking is sold. -/
def Pays (db : Db) (r : BookingRequest) (σ : Saga) (d : RunDraws)
    (o : Except PaymentTimeout AuthorizationResult × G) : Prop :=
  ∃ result, o.1 = .ok result ∧ result.Recordable ∧
    (result.approved = true → Sells db r σ d o.2 result.providerRef)

/-- Nothing goes wrong that the saga has not planned for: the fraud controls block
it, or the payment row fits its column and the charge pays. -/
def Unharmed (s : Shared G) (r : BookingRequest) (σ : Saga) (d : RunDraws) : Prop :=
  d.assess.assessment.decision = .block ∨
    (gatewayKey r.key).length ≤ idempotencyKeyWidth ∧
      Pays s.db r σ d (charge s.gateway (chargeRequest r σ))

/-- What must yet go well from a point of the saga on. -/
def Ahead (s : Shared G) (r : BookingRequest) (d : RunDraws) : BookingPc → Prop
  | .assess σ => Unharmed s r σ d
  | .createPayment σ =>
    (gatewayKey r.key).length ≤ idempotencyKeyWidth ∧
      Pays s.db r σ d (charge s.gateway (chargeRequest r σ))
  | .authorize σ _ => Pays s.db r σ d (charge s.gateway (chargeRequest r σ))
  | .journalUnknown σ _ | .retryAuthorize σ _ =>
    Pays s.db r σ d (PaymentGateway.authorize s.gateway (chargeRequest r σ))
  | .recordAuthorized σ _ result =>
    Varchar 64 result.providerRef ∧ Sells s.db r σ d s.gateway result.providerRef
  | .issueTickets σ pay => Sells s.db r σ d s.gateway (pay.providerRef.getD "")
  | .capture _ pay =>
    succeeded (captureOutcome s pay).1 = true ∧ d.confirm.seqTaken = false
  | .confirm _ _ => d.confirm.seqTaken = false
  | .failSelect _ f => f.Writable
  | .failCommit _ _ _ | .reverse _ _ _ | .finishVoided _ _ _
  | .finishReview _ _ _ _ | .refresh _ => True
  | pc => ∀ b, pc.booking? = some b → Concluded s b

/-- The steps a saga has left at most. -/
def BookingPc.left : BookingPc → ℕ
  | .assess _ => 11
  | .createPayment _ => 10
  | .authorize _ _ => 9
  | .journalUnknown _ _ => 8
  | .retryAuthorize _ _ => 7
  | .recordAuthorized _ _ _ => 6
  | .issueTickets _ _ => 5
  | .capture _ _ | .reverse _ _ _ => 3
  | .confirm _ _ | .finishVoided _ _ _ | .finishReview _ _ _ _ | .failSelect _ _ => 2
  | .refresh _ | .failCommit _ _ _ => 1
  | _ => 0

/-! ### What is known when nothing runs beside -/

/-- Before ticketing: the rows of the saga are its own, and none is booked. -/
structure Untaken (s : Shared G) (σ : Saga) : Prop where
  live : s.db.LiveUnique
  unbooked : ∀ k, (s.db.seat k).bookingId = some σ.bookingId → (s.db.seat k).status ≠ .booked
  pinned : ∀ i ∈ σ.seats, (s.db.seat i.id).bookingId.isSome

/-- What a saga that nothing runs beside may assume on top of its outline. -/
def BookingPc.Alone (s : Shared G) : BookingPc → Prop
  | .assess σ | .failSelect σ _ | .createPayment σ | .authorize σ _ | .journalUnknown σ _
  | .retryAuthorize σ _ | .recordAuthorized σ _ _ | .issueTickets σ _ => Untaken s σ
  | .failCommit σ _ rows => Untaken s σ ∧ rows = failPaymentRows s.db σ
  | .capture σ _ | .confirm σ _ =>
    ∃ row, s.db.booking σ.bookingId = some row ∧ row.state = .ticketed
  | .refresh σ => Concluded s σ.bookingId
  | _ => True

omit [PaymentGateway G] in
theorem Untaken.congr {σ σ' : Saga} (h : Untaken s σ) (hseat : s'.db.seat = s.db.seat)
    (htickets : s'.db.tickets = s.db.tickets) (hb : σ'.bookingId = σ.bookingId)
    (hseats : σ'.seats = σ.seats) : Untaken s' σ' where
  live := by
    constructor <;> rw [liveTickets_congr htickets]
    · exact h.live.seats
    · exact h.live.passengers
  unbooked := by
    rw [hseat, hb]
    exact h.unbooked
  pinned := by
    rw [hseat, hseats]
    exact h.pinned

omit [PaymentGateway G] in
theorem alone_raised {e : Failure} {b : Option BookingId} : (raised e b).Alone s := by
  cases e <;> trivial

omit [PaymentGateway G] in
/-- A booking whose row is in no terminal state is not concluded. -/
theorem not_concluded {b : BookingId} {row : Booking} (hrow : s.db.booking b = some row)
    (hs : row.state ∉ terminalBookingStates) : ¬ Concluded s b := by
  rintro ⟨row', hrow', hterminal, -⟩
  obtain rfl := Option.some.inj (hrow.symm.trans hrow')
  exact hs hterminal

omit [PaymentGateway G] in
theorem Saga.Before.not_concluded {σ : Saga} {u : UserId} {state : BookingState}
    (h : σ.Before u state (s.view σ.bookingId)) (hs : state ∉ terminalBookingStates)
    (hdb : s'.db = s.db) : ¬ Concluded s' σ.bookingId := by
  obtain ⟨row, hrow, -, hst⟩ := h.recorded.row
  refine SkyLock.not_concluded ?_ (hst ▸ hs)
  rw [hdb]
  exact hrow

omit [PaymentGateway G] in
theorem unreversed_callsOf {b : BookingId} (h : Unreversed b s.calls) :
    Unreversed b (s.callsOf b) := by
  obtain ⟨req, result, hmem, happ, hvoid, hrefund⟩ := h
  refine ⟨req, result, List.mem_filter.mpr ⟨hmem, by simp [GatewayCall.booking]⟩, happ,
    fun hv => hvoid (List.mem_of_mem_filter hv),
    fun amount hr => hrefund amount (List.mem_of_mem_filter hr)⟩

omit [PaymentGateway G] in
/-- What a saga that gave up in an orderly way leaves. -/
theorem concluded_of_settled {b : BookingId} (h : Settled b (s.view b)) : Concluded s b := by
  obtain ⟨row, hrow, hst, hun⟩ := h
  refine ⟨row, hrow, ?_, fun hcalls => .inl (hun (unreversed_callsOf hcalls))⟩
  rcases hst with hst | hst | hst <;> rw [hst] <;> decide

theorem BookingStep.alone {r : BookingRequest} {x : Draws} {pc pc' : BookingPc}
    (h : BookingStep env s p r x pc s' pc')
    (ho : ∀ b, pc.booking? = some b → pc.Outline r b (s.view b)) (hal : pc.Alone s)
    (hrun : pc.saga?.isSome) : pc'.Alone s' := by
  cases h
  case blocks | passes => exact hal.congr rfl rfl rfl rfl
  case selectsFailed => exact ⟨hal, rfl⟩
  case createsPayment => exact hal.congr rfl rfl rfl rfl
  case authorizes | retries =>
    unfold afterAuthorize
    split <;> exact hal.congr rfl rfl rfl rfl
  case timesOut | journals | recordsAuthorized => exact hal.congr rfl rfl rfl rfl
  case issues σ pay assigned rows hf hlost htrig hassigned hunique hchecked hcan hseq hrows =>
    have hbefore := (ho σ.bookingId rfl).1
    obtain ⟨row, hrow, -, hst⟩ := hbefore.recorded.row
    refine ⟨row.merge σ.state .ticketed, ?_, Orm.writeBack_dirty row.state ?_⟩
    · exact Db.flushBookingState_self.trans (congrArg (Option.map _) hrow)
    · rw [hbefore.state]
      decide
  case captures => exact hal
  case confirms σ pay hcan hseq =>
    obtain ⟨hticketed, -, hpay, -⟩ := ho σ.bookingId rfl
    obtain ⟨row, hrow, hst⟩ := hal
    have hstate : (row.merge σ.state .confirmed).state = .confirmed := by
      refine Orm.writeBack_dirty row.state ?_
      rw [hticketed.state]
      decide
    refine ⟨row.merge σ.state .confirmed, ?_, ?_, fun _ => .inr ⟨hstate, pay.capturedState, ?_, rfl⟩⟩
    · exact Db.flushBookingState_self.trans (congrArg (Option.map _) hrow)
    · rw [hstate]
      decide
    · exact PaymentTable.paymentsOf_flush hpay
  case selectIllegal | recordIllegal | refuseIllegal | issueRolledBack | voidIllegal
    | confirmIllegal => exact alone_raised
  all_goals trivial

theorem BookingStep.left_lt {r : BookingRequest} {x : Draws} {pc pc' : BookingPc}
    (h : BookingStep env s p r x pc s' pc') (hrun : pc.saga?.isSome) : pc'.left < pc.left := by
  have hraised : ∀ {e : Failure} {b : Option BookingId}, (raised e b).left = 0 := by
    intro e b
    cases e <;> rfl
  cases h
  case authorizes | retries =>
    unfold afterAuthorize
    split <;> simp [BookingPc.left]
  case selectIllegal | recordIllegal | refuseIllegal | issueRolledBack | voidIllegal
    | confirmIllegal =>
    rw [hraised]
    simp [BookingPc.left]
  all_goals simp [BookingPc.saga?, BookingPc.left] at hrun ⊢

/-! ### What lies ahead -/

instance (db : Db) (r : BookingRequest) (σ : Saga) (d : RunDraws) (g : G) (ref : String) :
    Decidable (Sells db r σ d g ref) := by
  unfold Sells
  infer_instance

/-- What lies ahead of a saga reads its seats, its passengers and the tickets. -/
theorem sells_congr {db db' : Db} {r : BookingRequest} {σ σ' : Saga} {d : RunDraws} {g : G}
    {ref : String} (htickets : db'.tickets = db.tickets) (hseats : σ'.seats = σ.seats)
    (hpassengers : σ'.passengers = σ.passengers) :
    Sells db' r σ' d g ref ↔ Sells db r σ d g ref := by
  have hins : Insertable db' σ' d.issue.eTicketNo ↔ Insertable db σ d.issue.eTicketNo := by
    have hlive := liveTickets_congr htickets
    constructor
    · rintro ⟨h₁, h₂, h₃⟩
      rw [hseats, hlive] at h₁
      rw [hpassengers] at h₂
      rw [hpassengers, htickets] at h₃
      exact ⟨h₁, h₂, h₃⟩
    · rintro ⟨h₁, h₂, h₃⟩
      rw [← hseats, ← hlive] at h₁
      rw [← hpassengers] at h₂
      rw [← hpassengers, ← htickets] at h₃
      exact ⟨h₁, h₂, h₃⟩
  unfold Sells
  rw [hins]

theorem pays_congr {db db' : Db} {r : BookingRequest} {σ σ' : Saga} {d : RunDraws}
    {o : Except PaymentTimeout AuthorizationResult × G} (htickets : db'.tickets = db.tickets)
    (hseats : σ'.seats = σ.seats) (hpassengers : σ'.passengers = σ.passengers) :
    Pays db' r σ' d o ↔ Pays db r σ d o := by
  unfold Pays
  simp only [sells_congr htickets hseats hpassengers]

theorem pays_ok {db : Db} {r : BookingRequest} {σ : Saga} {d : RunDraws}
    {o : Except PaymentTimeout AuthorizationResult × G} {result : AuthorizationResult}
    (h : o.1 = .ok result) :
    Pays db r σ d o ↔
      result.Recordable ∧ (result.approved = true → Sells db r σ d o.2 result.providerRef) := by
  unfold Pays
  rw [h]
  simp

theorem not_pays_error {db : Db} {r : BookingRequest} {σ : Saga} {d : RunDraws}
    {o : Except PaymentTimeout AuthorizationResult × G} {e : PaymentTimeout}
    (h : o.1 = .error e) : ¬ Pays db r σ d o := by
  rintro ⟨result, hok, -⟩
  rw [h] at hok
  simp at hok

instance (db : Db) (r : BookingRequest) (σ : Saga) (d : RunDraws)
    (o : Except PaymentTimeout AuthorizationResult × G) : Decidable (Pays db r σ d o) :=
  match h : o.1 with
  | .ok _ => decidable_of_iff _ (pays_ok h).symm
  | .error _ => isFalse (not_pays_error h)

instance (s : Shared G) (r : BookingRequest) (σ : Saga) (d : RunDraws) :
    Decidable (Unharmed s r σ d) := by
  unfold Unharmed
  infer_instance

theorem ahead_afterAuthorize {r : BookingRequest} {σ : Saga} {d : RunDraws} {pay : Payment}
    {result : AuthorizationResult} {o : Except PaymentTimeout AuthorizationResult × G}
    (h : o.1 = .ok result) (hg : s.gateway = o.2) :
    Ahead s r d (afterAuthorize σ pay result) ↔ Pays s.db r σ d o := by
  rw [pays_ok h, ← hg]
  unfold afterAuthorize AuthorizationResult.Recordable
  split
  · next happ => simp [Ahead, happ]
  · next happ => simp [Ahead, happ, declinedFailure_writable]

omit [PaymentGateway G] in
theorem Payment.For.authorizeRequest_eq {pay : Payment} {σ : Saga} {r : BookingRequest}
    (h : pay.For σ r) : authorizeRequest σ pay = chargeRequest r σ := by
  unfold authorizeRequest chargeRequest
  rw [h.cardToken, h.key]

omit [PaymentGateway G] in
/-- The SELECT of `_fail_payment` finds the rows that are pinned to the booking. -/
theorem failPaymentRows_pinned {db : Db} {σ : Saga} {i : SeatInstance}
    (hi : i ∈ failPaymentRows db σ) :
    i.id ∈ db.seatIds ∧ (db.seat i.id).bookingId = some σ.bookingId := by
  obtain ⟨k, hk, rfl⟩ := List.mem_map.mp hi
  rw [Orm.materialize_id]
  simpa using List.mem_filter.mp hk

/-- A row that is not booked passes its CHECK constraints without a booking. -/
theorem SeatInventory.checks_of_unbooked {row : SeatInventory} (h : row.checks = true)
    (hs : row.status ≠ .booked) (v : ℕ) :
    ({ row with bookingId := none, version := v } : SeatInventory).checks = true := by
  simp only [checks, Bool.and_eq_true] at h ⊢
  exact ⟨h.1, by simp [hs]⟩

omit [PaymentGateway G] in
/-- Where none of its rows is booked, no constraint stops `_fail_payment`. -/
theorem failedDb_seatsChecked (ht : Tables s) {σ : Saga} {f : PaymentFailure}
    {rows : List SeatInstance} (hrows : ∀ i ∈ rows, i.row.bookingId = some σ.bookingId)
    (hunbooked : ∀ i ∈ rows, (s.db.seat i.id).status ≠ .booked) :
    (failedDb s.db σ f rows).seatsChecked (rows.map Orm.Instance.id) = true := by
  refine seatsChecked_iff.mpr fun k hk => ?_
  obtain ⟨v, hv⟩ := failedDb_seat_of_mem s.db σ f (fun i hi => (hrows i hi).symm ▸ rfl) hk
  obtain ⟨i, hi, rfl⟩ := List.mem_map.mp hk
  rw [hv]
  exact SeatInventory.checks_of_unbooked (ht.checked i.id) (hunbooked i hi) v

/-- A step of the saga keeps what lies ahead. -/
theorem BookingStep.ahead {r : BookingRequest} {x : Draws} {pc pc' : BookingPc} {d : RunDraws}
    (h : BookingStep env s p r x pc s' pc') (hx : x = d.at pc) (ht : Tables s)
    (ho : ∀ b, pc.booking? = some b → pc.Outline r b (s.view b))
    (ho' : ∀ b, pc'.booking? = some b → pc'.Outline r b (s'.view b)) (hal : pc.Alone s)
    (hrun : pc.saga?.isSome) : Ahead s' r d pc' ↔ Ahead s r d pc := by
  cases h
  case blocks σ h =>
    rw [hx] at h
    exact iff_of_true (blockedFailure_writable _) (.inl h)
  case passes σ h =>
    have hpays : Ahead s r d (.createPayment { σ with assessment := x.assessment }) ↔
        Ahead s r d (.createPayment σ) := and_congr_right' (pays_congr rfl rfl rfl)
    rw [hx] at h
    exact hpays.trans (or_iff_right h).symm
  case selectsFailed σ f h hw => exact iff_of_true trivial hw
  case selectRefused σ f hw =>
    refine iff_of_false (fun hall => ?_) hw
    exact (ho σ.bookingId rfl).1.not_concluded (by decide) rfl (hall σ.bookingId rfl)
  case selectIllegal σ f e h => exact absurd h ((ho σ.bookingId rfl).1.not_illegal (by decide))
  case fails σ f rows hf h =>
    refine iff_of_true (fun b hb => ?_) trivial
    obtain rfl := Option.some.inj hb
    exact concluded_of_settled (ho' σ.bookingId rfl)
  case failRolledBack σ f rows hf h =>
    -- the rows still pinned to the booking are not booked, so nothing objects
    obtain ⟨huntaken, rfl⟩ := hal
    have hchecked := failedDb_seatsChecked (f := f) ht (ho σ.bookingId rfl).2.2
      fun i hi => huntaken.unbooked i.id (failPaymentRows_pinned hi).2
    exact absurd (hchecked.symm.trans h) (by simp)
  case createsPayment σ h =>
    have hpays : Ahead ((s.withDb (insertPayment s.db (s.payment env r σ))).drawUuids 1) r d
        (.authorize σ (s.payment env r σ)) ↔
          Pays s.db r σ d (charge s.gateway (chargeRequest r σ)) := pays_congr rfl rfl rfl
    exact hpays.trans (and_iff_right h).symm
  case keyTooLong σ h =>
    refine iff_of_false (fun hall => ?_) fun hkey => absurd h (not_lt.mpr hkey.1)
    exact (ho σ.bookingId rfl).1.not_concluded (by decide) rfl (hall σ.bookingId rfl)
  case authorizes σ pay result h =>
    obtain ⟨-, hfor, -⟩ := ho σ.bookingId rfl
    have hcharge : charge s.gateway (chargeRequest r σ) = authorizeOutcome s σ pay := by
      unfold authorizeOutcome at h ⊢
      rw [hfor.authorizeRequest_eq] at h ⊢
      simp only [charge, h]
    show Ahead (s.authorized σ pay) r d _ ↔ Pays s.db r σ d _
    rw [hcharge]
    exact ahead_afterAuthorize h rfl
  case timesOut σ pay e h =>
    obtain ⟨-, hfor, -⟩ := ho σ.bookingId rfl
    have hcharge : charge s.gateway (chargeRequest r σ) =
        PaymentGateway.authorize (s.authorized σ pay).gateway (chargeRequest r σ) := by
      have hnext : (s.authorized σ pay).gateway = (authorizeOutcome s σ pay).2 := rfl
      rw [hnext]
      unfold authorizeOutcome at h ⊢
      rw [hfor.authorizeRequest_eq] at h ⊢
      simp only [charge, h]
    show Pays s.db r σ d _ ↔ Pays s.db r σ d _
    rw [hcharge]
  case journals σ pay => exact pays_congr rfl rfl rfl
  case retries σ pay result h =>
    obtain ⟨-, hfor, -⟩ := ho σ.bookingId rfl
    show Ahead (s.authorized σ pay) r d _ ↔ Pays s.db r σ d _
    rw [← hfor.authorizeRequest_eq]
    exact ahead_afterAuthorize h rfl
  case timesOutAgain σ pay e h =>
    obtain ⟨hbefore, hfor, -⟩ := ho σ.bookingId rfl
    refine iff_of_false (fun hall => ?_) (not_pays_error (e := e) ?_)
    · have hdb : (s.authorized σ pay).db = s.db := rfl
      exact hbefore.not_concluded (by decide) hdb (hall σ.bookingId rfl)
    · rw [← hfor.authorizeRequest_eq]
      exact h
  case recordsAuthorized σ pay result h hw =>
    have hsells : Sells (authorizedDb s.db σ pay result) r (σ.inState .paymentAuthorized) d
        s.gateway result.providerRef ↔ Sells s.db r σ d s.gateway result.providerRef :=
      sells_congr rfl rfl rfl
    exact hsells.trans (and_iff_right hw).symm
  case recordRefused σ pay result hw =>
    refine iff_of_false (fun hall => ?_) fun hfits => hw hfits.1
    exact (ho σ.bookingId rfl).1.not_concluded (by decide) rfl (hall σ.bookingId rfl)
  case recordIllegal σ pay result e h => exact absurd h ((ho σ.bookingId rfl).1.not_illegal (by decide))
  case issues σ pay assigned rows hf hlost htrig hassigned hunique hchecked hcan hseq hrows =>
    obtain ⟨hbefore, hfor, -⟩ := ho σ.bookingId rfl
    have hins := (ticketsUnique_iff hbefore.seated hassigned hal.live
      (fun q hq t hmem => hbefore.no_tickets ht hq hmem) s.uuid s.clock x.eTicketNo).mp hunique
    rw [hx] at hins hseq
    simp only [Ahead, Sells, htrig, false_or, captureOutcome, hfor.key]
    exact ⟨fun hrest => ⟨hins, hseq, hrest⟩, fun hrest => hrest.2.2⟩
  case refuses σ pay rows reason hf h hcan hrows =>
    have hbefore := (ho σ.bookingId rfl).1
    refine iff_of_true trivial (.inl ?_)
    rcases h with hlost | htrig | hnone
    · exact absurd hbefore.pinned.lost_eq_nil hlost
    · exact htrig
    · rw [hbefore.seated.assigned_eq] at hnone
      simp at hnone
  case refuseIllegal σ pay e h hcan =>
    exact absurd hcan ((ho σ.bookingId rfl).1.not_illegal (by decide))
  case issueRolledBack σ pay e hf hlost htrig hfail =>
    obtain ⟨hbefore, -⟩ := ho σ.bookingId rfl
    have hstep : BookingStep env s p r x (.issueTickets σ pay) s (raised e (some σ.bookingId)) :=
      .issueRolledBack hf hlost htrig hfail
    rcases hstep.issue_cases ht hbefore hal.live htrig with ⟨-, _, -, hcap, -⟩ | ⟨hnot, -⟩
    · rw [raised_of_issueFails hfail] at hcap
      simp at hcap
    · refine iff_of_false (fun hall => ?_) fun hsells => ?_
      · rw [raised_of_issueFails hfail] at hall
        exact hbefore.not_concluded (by decide) rfl (hall σ.bookingId rfl)
      · rcases hsells with hfailure | ⟨hins, hseq, -⟩
        · exact htrig hfailure
        · rw [hx] at hnot
          exact hnot ⟨hal.pinned, hins, hseq⟩
  case reverses | reverseFails => exact Iff.rfl
  case voids σ pay reason hf h =>
    refine iff_of_true (fun b hb => ?_) trivial
    obtain rfl := Option.some.inj hb
    exact concluded_of_settled (ho' σ.bookingId rfl)
  case voidIllegal σ pay reason e h => exact absurd h ((ho σ.bookingId rfl).1.not_illegal (by decide))
  case flags σ pay reason error hf =>
    refine iff_of_true (fun b hb => ?_) trivial
    obtain rfl := Option.some.inj hb
    exact concluded_of_settled (ho' σ.bookingId rfl)
  case captures σ pay result h => simp [Ahead, h, succeeded]
  case captureFails σ pay e h =>
    obtain ⟨row, hrow, hst⟩ := hal
    refine iff_of_false (fun hall => ?_) (by simp [Ahead, h, succeeded])
    exact not_concluded (s := s.captured σ pay) hrow (by rw [hst]; decide) (hall σ.bookingId rfl)
  case confirms σ pay hcan hseq =>
    rw [hx] at hseq
    exact iff_of_true trivial hseq
  case confirmIllegal σ pay e h =>
    rw [(ho σ.bookingId rfl).1.state] at h
    simp [assertCanTransition, allowedTransitions] at h
  case confirmRolledBack σ pay hseq =>
    obtain ⟨row, hrow, hst⟩ := hal
    have hseq : d.confirm.seqTaken = true := by
      rw [hx] at hseq
      exact hseq
    refine iff_of_false (fun hall => ?_) (by simp [Ahead, hseq])
    exact not_concluded hrow (by rw [hst]; decide) (hall σ.bookingId rfl)
  case refreshes σ row h =>
    refine iff_of_true (fun b hb => ?_) trivial
    obtain rfl := Option.some.inj hb
    exact hal
  all_goals exact absurd hrun (by simp [BookingPc.saga?])

/-! ### The whole course -/

omit [PaymentGateway G] in
/-- A saga's seats are rows of the inventory. -/
theorem Saga.Before.ids_subset {σ : Saga} {u : UserId} {state : BookingState}
    (h : σ.Before u state (s.view σ.bookingId)) (ht : Tables s) :
    σ.seats.map Orm.Instance.id ⊆ s.db.seatIds := by
  intro k hk
  have hmem : some k ∈ σ.passengers.map BookingPassenger.seatInventoryId := by
    rw [h.seated.seats]
    obtain ⟨i, hi, rfl⟩ := List.mem_map.mp hk
    exact List.mem_map.mpr ⟨i, hi, rfl⟩
  obtain ⟨q, hq, hseat⟩ := List.mem_map.mp hmem
  have hqdb : q ∈ s.db.passengersOf σ.bookingId := by
    rw [← Shared.view_passengers, h.recorded.passengers]
    exact hq
  obtain ⟨k', hk', hseat', -⟩ := ht.onFlight q (Db.mem_passengersOf.mp hqdb).1
  rw [hseat] at hseat'
  rwa [Option.some.inj hseat']

/-- With the locks it needs free, a request can move until it is done. -/
theorem stepBooking_isSome {r : BookingRequest} {x : Draws} {pc : BookingPc} (ht : Tables s)
    (ho : ∀ b, pc.booking? = some b → pc.Outline r b (s.view b)) (hfree : s.UnlockedFor p)
    (hclaim : pc.saga? = none → s.claimFree p r.claimKey = true)
    (hrows : ∀ σ f rows, pc = .failCommit σ f rows → rows.map Orm.Instance.id ⊆ s.db.seatIds)
    (hrow : ∀ σ, pc = .refresh σ → ∃ row, s.db.booking σ.bookingId = some row)
    (hdone : ∀ reply b, pc ≠ .done reply b) : (stepBooking env s p r x pc).isSome := by
  cases pc <;> simp only [stepBooking, stepBegin, stepOpen, stepCharge, stepIssue, stepCompensate,
    stepConfirm, stepComplete]
  case beginDelete now =>
    rw [hclaim rfl]
    split
    · split <;> rfl
    · rfl
  case beginInsert now deleted =>
    rw [hclaim rfl]
    split
    · split <;> rfl
    · contradiction
  case beginCommit now deleted claimed => split <;> first | rfl | split <;> rfl
  case beginSelect => split <;> rfl
  case openBooking =>
    have hids : (lockSeatsForHolds s.db r.payload.holdIds r.userId).map Orm.Instance.id ⊆
        s.db.seatIds := by
      rw [lockSeatsForHolds_ids]
      exact List.filter_subset_self _
    -- the statements that lock seats lock rows that are there, and these are free
    rw [if_pos (hfree.seatsFree hids)]
    split <;> rfl
  case assess σ => split <;> rfl
  case failSelect σ f => split <;> rfl
  case failCommit σ f rows =>
    rw [if_pos (hfree.seatsFree (hrows σ f rows rfl))]
    split <;> rfl
  case createPayment σ => split <;> rfl
  case authorize σ pay => split <;> rfl
  case journalUnknown σ pay => rfl
  case retryAuthorize σ pay => split <;> rfl
  case recordAuthorized σ pay result => split <;> rfl
  case issueTickets σ pay =>
    rw [if_pos (hfree.seatsFree ((ho σ.bookingId rfl).1.ids_subset ht))]
    split
    · rfl
    · split <;> rfl
    · rfl
  case reverse σ pay reason => split <;> rfl
  case finishVoided σ pay reason =>
    rw [if_pos (hfree.seatsFree (List.filter_subset_self _))]
    split <;> rfl
  case finishReview σ pay reason error =>
    rw [if_pos (hfree.seatsFree (List.filter_subset_self _))]
    rfl
  case capture σ pay => split <;> rfl
  case confirm σ pay => split <;> rfl
  case refresh σ =>
    obtain ⟨row, hrow⟩ := hrow σ rfl
    rw [hrow]
    rfl
  case completeSelect o b => split <;> rfl
  case completeCommit o b =>
    rw [hclaim rfl, if_pos rfl]
    split <;> rfl
  case release e b =>
    rw [hclaim rfl]
    rfl
  case done reply b => exact absurd rfl (hdone reply b)

theorem BookingStep.unlockedFor {r : BookingRequest} {x : Draws} {pc pc' : BookingPc}
    (h : BookingStep env s p r x pc s' pc') (hfree : s.UnlockedFor p) : s'.UnlockedFor p := by
  cases h <;> exact hfree

/-- The booking of a saga stays the same to its end. -/
theorem BookingStep.booking?_eq {r : BookingRequest} {x : Draws} {pc pc' : BookingPc}
    (h : BookingStep env s p r x pc s' pc') (hrun : pc.saga?.isSome) :
    pc'.booking? = pc.booking? := by
  have hraised : ∀ {e : Failure} {b : Option BookingId}, (raised e b).booking? = b := by
    intro e b
    cases e <;> rfl
  cases h
  case authorizes | retries =>
    unfold afterAuthorize
    split <;> rfl
  case selectIllegal | recordIllegal | refuseIllegal | issueRolledBack | voidIllegal
    | confirmIllegal => exact hraised
  all_goals first
    | rfl
    | simp [BookingPc.saga?] at hrun

theorem BookingPc.left_eq_zero {pc : BookingPc} : pc.left = 0 ↔ pc.saga? = none := by
  cases pc <;> simp [left, saga?]

theorem ahead_of_ended {r : BookingRequest} {d : RunDraws} {pc : BookingPc} {b : BookingId}
    (hpc : pc.saga? = none) (hb : pc.booking? = some b) : Ahead s r d pc ↔ Concluded s b := by
  have hend : (∀ b', pc.booking? = some b' → Concluded s b') ↔ Concluded s b := by
    rw [hb]
    simp
  cases pc <;> first
    | exact hend
    | simp [BookingPc.saga?] at hpc

/-- The steps of its saga a process has left at most. -/
def Proc.sagaLeft : Proc → ℕ
  | .booking _ pc => pc.left
  | _ => 0

/-- Where a saga that nothing runs beside is, having started in the shared state
`s₀` as `σ`. -/
structure SagaCourse (s₀ : Shared G) (p : ℕ) (r : BookingRequest) (σ : Saga) (d : RunDraws)
    (s : Shared G) (pc : BookingPc) : Prop where
  booking : pc.booking? = some σ.bookingId
  tables : Tables s
  outline : (Proc.booking r pc).Outline s
  alone : pc.Alone s
  free : s.UnlockedFor p
  ahead : Ahead s r d pc ↔ Unharmed s₀ r σ d

section Course

variable {s₀ : Shared G} {r : BookingRequest} {σ : Saga} {d : RunDraws} {pc pc' : BookingPc}

theorem SagaCourse.step (hc : SagaCourse s₀ p r σ d s pc) (hrun : pc.saga?.isSome)
    (h : BookingStep env s p r (d.at pc) pc s' pc') : SagaCourse s₀ p r σ d s' pc' := by
  have hstep : Step env s p (.booking r pc) (.go (d.at pc)) s' (.booking r pc') := .booking h
  have ho : ∀ b, pc.booking? = some b → pc.Outline r b (s.view b) := fun b hb =>
    (hc.outline b hb).2
  have houtline := hstep.mover hc.tables hc.outline
  exact ⟨(h.booking?_eq hrun).trans hc.booking, hstep.tables hc.tables hc.outline, houtline,
    h.alone ho hc.alone hrun, h.unlockedFor hc.free,
    (h.ahead rfl hc.tables ho (fun b hb => (houtline b hb).2) hc.alone hrun).trans hc.ahead⟩

variable (env) in
/-- Until `run` returns or raises, a saga can take its next step. -/
theorem SagaCourse.progress (hc : SagaCourse s₀ p r σ d s pc) (hrun : pc.saga?.isSome) :
    ∃ s' pc', (service env G).step s p (.booking r pc) (.go (d.at pc)) =
        some (s', .booking r pc') ∧ SagaCourse s₀ p r σ d s' pc' ∧ pc'.left < pc.left := by
  have hsome : (stepBooking env s p r (d.at pc) pc).isSome := by
    refine stepBooking_isSome hc.tables (fun b hb => (hc.outline b hb).2) hc.free
      (fun hnone => by simp [hnone] at hrun) ?_ ?_ ?_
    · rintro σ' f rows rfl k hk
      obtain ⟨i, hi, rfl⟩ := List.mem_map.mp hk
      rw [hc.alone.2] at hi
      exact (failPaymentRows_pinned hi).1
    · rintro σ' rfl
      obtain ⟨row, hrow, -⟩ := hc.alone
      exact ⟨row, hrow⟩
    · rintro reply b rfl
      simp [BookingPc.saga?] at hrun
  obtain ⟨⟨s', pc'⟩, hs⟩ := Option.isSome_iff_exists.mp hsome
  have hnext : (service env G).step s p (.booking r pc) (.go (d.at pc)) =
      some (s', .booking r pc') := congrArg (Option.map _) hs
  cases step_of hnext with
  | booking hstep => exact ⟨s', pc', hnext, hc.step hrun hstep, hstep.left_lt hrun⟩

/-- Step 1 leaves the saga rows of its own, none of them booked. -/
theorem untaken_opened {x : Draws} (ht : Tables s) (hl : s'.db.LiveUnique)
    (h : BookingStep env s p r x .openBooking s' (.assess σ)) : Untaken s' σ := by
  generalize hpc : BookingPc.assess σ = pc' at h
  cases h
  case opensNothing e _ => cases e <;> simp [raised] at hpc
  case opens seats flightId flight ref hseats hf hlen hlive hids hflight hpnr htotal href =>
    obtain rfl : σ = _ := by injection hpc
    have hspec : ∀ i ∈ seats, i.row = s.db.seat i.id := by
      intro i hi
      rw [← hseats] at hi
      exact (mem_lockSeatsForHolds hi).2.1
    have hrow := openedDb_seat hspec (openedSaga r.payload seats s.uuid ref flightId flight) s.clock
      r.userId r.key
    refine ⟨hl, fun k => ?_, fun i hi => ?_⟩
    · show ((openedDb s.db _ r.userId r.key s.clock seats).seat k).bookingId = _ →
        ((openedDb s.db _ r.userId r.key s.clock seats).seat k).status ≠ _
      rw [hrow]
      split
      · next hk =>
        obtain ⟨i, hi, rfl⟩ := List.mem_map.mp hk
        intro _ hbooked
        have hheld := (live_of_expiredSeats_eq_nil hlive hi).1
        rw [hspec i hi] at hheld
        exact absurd (hheld.symm.trans hbooked) (by decide)
      · intro hb
        obtain ⟨row, hexists⟩ := ht.pinned k _ hb
        have hnone := congrArg View.row (ht.unborn s.uuid (le_refl _))
        exact absurd (hexists.symm.trans hnone) (by simp)
    · obtain ⟨j, hj, rfl⟩ := mem_openedSaga_seats.mp hi
      show ((openedDb s.db _ r.userId r.key s.clock seats).seat j.id).bookingId.isSome
      rw [hrow, if_pos (List.mem_map_of_mem hj)]
      rfl

end Course

/-- The draws of a saga that nothing disturbs. -/
def RunDraws.calm (n : ℕ) : RunDraws := ⟨.calm n, .calm n, .calm n⟩

/-- The request of a process that is about to run step 1. -/
def Proc.opening? : Proc → Option BookingRequest
  | .booking r .openBooking => some r
  | _ => none

theorem Proc.opening?_eq_some {P : Proc} {r : BookingRequest} (h : P.opening? = some r) :
    P = .booking r .openBooking := by
  unfold opening? at h
  split at h
  · obtain rfl := Option.some.inj h
    rfl
  · simp at h

/-- The saga of a process that has just run step 1. -/
def Proc.opened? : Proc → Option (BookingRequest × Saga)
  | .booking r (.assess σ) => some (r, σ)
  | _ => none

theorem Proc.opened?_eq_some {P : Proc} {r : BookingRequest} {σ : Saga}
    (h : P.opened? = some (r, σ)) : P = .booking r (.assess σ) := by
  unfold opened? at h
  split at h
  · simp only [Option.some.injEq, Prod.mk.injEq] at h
    obtain ⟨rfl, rfl⟩ := h
    rfl
  · simp at h

/-- Two users hold a seat each; one books, and the other is about to. -/
def secondSaga : List (ℕ × Input) :=
  asks 1 (.createHold ⟨10, 7, "1A"⟩) 3 (.calm 0) ++ asks 2 (.createHold ⟨20, 7, "2A"⟩) 3 (.calm 0) ++
    asks 3 (.createBooking ⟨10, "key-of-ada-00000001", soloBody 0 "tok_test_aaaa11110000"⟩) 14
      (.calm 1) ++
    asks 4 (.createBooking ⟨20, "key-of-bob-00000001", soloBody 1 "tok_test_bbbb22220000"⟩) 3
      (.calm 2)

/-- A request stays the same from step to step. -/
theorem exists_booking_of_next {w w₁ : World (Shared G) Proc} {a : Input} {r : BookingRequest}
    {pc : BookingPc} (hp : w.proc p = .booking r pc) (hn : (service env G).next w p a = some w₁) :
    ∃ pc', w₁.proc p = .booking r pc' := by
  obtain ⟨s', P', hs, rfl⟩ := System.next_eq_some.mp hn
  have hstep := step_of hs
  rw [hp] at hstep
  cases hstep with
  | @booking _ _ _ _ pc' _ => exact ⟨pc', Function.update_self ..⟩

end SkyLock
