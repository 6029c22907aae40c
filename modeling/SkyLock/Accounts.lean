import SkyLock.History

/-!
# The gateway vouches for the tables

A payment or a booking is only ever recorded in a state that an answer of the gateway
vouches for, whatever the gateway answers and however the requests fall between each other.
That is less than that the tables say all there is to say: a request that stops between the
gateway's answer and its commit leaves them behind the gateway, never ahead of it.

## Main definitions

* `Payment.Vouched`, `BookingState.Vouched` — the gateway has answered what the state says.
* `Proc.Vouched` — what a request that is about to record an answer knows.

## Main results

* `vouched_holds` — all of it, in every reachable state.
* `states_vouched` — **no state is recorded that the gateway has not answered**.
-/

namespace SkyLock

open Concurrent

/-! ### What the gateway vouches for -/

/-- The gateway has approved this charge of the booking, under this reference. -/
def ApprovedCharge (calls : List GatewayCall) (b : BookingId) (req : AuthorizeRequest)
    (ref : String) : Prop :=
  ∃ result, .authorize b req (.ok result) ∈ calls ∧ result.approved = true ∧
    result.providerRef = ref

/-- The gateway has approved the charge a payment stands for, under the reference the
payment carries. -/
def Payment.Approved (r : Payment) (calls : List GatewayCall) : Prop :=
  ∃ ref, r.providerRef = some ref ∧ ApprovedCharge calls r.bookingId r.request ref

/-- The gateway has answered what the payment's state and reference say. -/
def Payment.Vouched (r : Payment) (calls : List GatewayCall) : Prop :=
  match r.state with
  | .pending => r.providerRef = none
  | .unknown =>
    r.providerRef = none ∧ ∃ e, .authorize r.bookingId r.request (.error e) ∈ calls
  | .declined => ∃ result, .authorize r.bookingId r.request (.ok result) ∈ calls ∧
      result.approved = false ∧ r.providerRef = some result.providerRef ∧
        r.failureCode = result.failureCode
  | .authorized => r.Approved calls
  | .captured => r.Approved calls ∧ .capture r.bookingId (r.providerRef.getD "") true ∈ calls
  | .voided => r.Approved calls ∧ .void r.bookingId (r.providerRef.getD "") true ∈ calls
  | .refunded =>
    r.Approved calls ∧ .refund r.bookingId (r.providerRef.getD "") r.amount true ∈ calls

/-- The gateway has answered what the booking's state says. -/
def BookingState.Vouched (b : BookingId) (calls : List GatewayCall) : BookingState → Prop
  | .pending => True
  | .paymentFailed => ∀ req result, .authorize b req (.ok result) ∈ calls →
      result.approved = false
  | .paymentAuthorized | .ticketed | .compensating => ∃ req ref, ApprovedCharge calls b req ref
  | .confirmed => ∃ ref, .capture b ref true ∈ calls
  | .voided => ∃ ref, .void b ref true ∈ calls
  | .cancelled => ∃ ref amount, .refund b ref amount true ∈ calls
  | .needsManualReview => ∃ ref, .void b ref false ∈ calls ∨
      ∃ amount, .refund b ref amount false ∈ calls

/-- What the tables say of a booking, the gateway vouches for. -/
structure View.Vouched (b : BookingId) (V : View) : Prop where
  row : ∀ row, V.row = some row → row.state.Vouched b V.calls
  payments : ∀ r ∈ V.payments, r.Vouched V.calls

/-- A charge that was approved, and not voided since. -/
def Payment.Sold (r : Payment) : Prop :=
  r.state = .authorized ∨ r.state = .captured ∨ r.state = .refunded

/-- What a `create_booking` request that is about to record an answer knows. -/
def BookingPc.Vouched (V : View) : BookingPc → Prop
  | .journalUnknown σ pay =>
    ∃ e, .authorize σ.bookingId (authorizeRequest σ pay) (.error e) ∈ V.calls
  | .confirm σ pay => .capture σ.bookingId (pay.providerRef.getD "") true ∈ V.calls
  | _ => True

/-- What a cancellation knows of the payment it found, or did not find. -/
def CancelPc.Vouched (b : BookingId) (V : View) : CancelPc → Prop
  | .selectPayment _ _ => ∃ r ∈ V.payments, r.Sold
  | .lockSeats _ _ none | .finish _ _ none => ∃ ref amount, .refund b ref amount true ∈ V.calls
  | .lockSeats _ _ (some pay) | .refund _ _ pay =>
    (∃ r ∈ V.payments, pay.Later r) ∧ pay.Approved V.calls
  | .finish _ _ (some pay) => ((∃ r ∈ V.payments, pay.Later r) ∧ pay.Approved V.calls) ∧
      .refund b (pay.providerRef.getD "") pay.amount true ∈ V.calls
  | .review _ _ _ => ∃ ref amount, .refund b ref amount false ∈ V.calls
  | _ => True

variable {G : Type}

/-- What a process knows of the gateway's answers. -/
def Proc.Vouched (s : Shared G) : Proc → Prop
  | .booking _ pc => ∀ b, pc.booking? = some b → pc.Vouched (s.view b)
  | .cancel _ pc => ∀ b, pc.booking? = some b → pc.Vouched b (s.view b)
  | _ => True

section Mono

variable {calls calls' : List GatewayCall} {b : BookingId} {c : GatewayCall} {V V' : View}

theorem ApprovedCharge.mono {req : AuthorizeRequest} {ref : String}
    (h : ApprovedCharge calls b req ref) (hsub : calls ⊆ calls') :
    ApprovedCharge calls' b req ref := by
  obtain ⟨result, hmem, hrest⟩ := h
  exact ⟨result, hsub hmem, hrest⟩

theorem Payment.Approved.mono {r : Payment} (h : r.Approved calls) (hsub : calls ⊆ calls') :
    r.Approved calls' := by
  obtain ⟨ref, href, hcharge⟩ := h
  exact ⟨ref, href, hcharge.mono hsub⟩

/-- A payment whose charge was approved has been, whatever has become of it. -/
theorem Payment.Approved.later {r r' : Payment} (h : r.Approved calls) (hlater : r.Later r') :
    r'.Approved calls := by
  obtain ⟨ref, href, hcharge⟩ := h
  refine ⟨ref, hlater.providerRef ref href, ?_⟩
  rw [hlater.columns]
  exact hcharge

theorem Payment.Vouched.mono {r : Payment} (h : r.Vouched calls) (hsub : calls ⊆ calls') :
    r.Vouched calls' := by
  unfold Payment.Vouched at h ⊢
  generalize r.state = state at h ⊢
  cases state with
  | pending => exact h
  | unknown =>
    obtain ⟨href, e, hmem⟩ := h
    exact ⟨href, e, hsub hmem⟩
  | declined =>
    obtain ⟨result, hmem, hdeclined⟩ := h
    exact ⟨result, hsub hmem, hdeclined⟩
  | authorized => exact Payment.Approved.mono h hsub
  | captured | voided | refunded => exact ⟨h.1.mono hsub, hsub h.2⟩

/-- A payment has no reference before its charge is answered. -/
theorem Payment.Vouched.unreferenced {r : Payment} {req : AuthorizeRequest}
    (h : r.Vouched calls) (hcalls : Unanswered b req calls) : r.providerRef = none := by
  have happroved : ¬ r.Approved calls := by
    rintro ⟨ref, -, result, hmem, -⟩
    obtain ⟨e, heq⟩ := hcalls _ hmem
    simp at heq
  unfold Payment.Vouched at h
  cases hstate : r.state <;> simp only [hstate] at h
  case pending => exact h
  case unknown => exact h.1
  case declined =>
    obtain ⟨result, hmem, -⟩ := h
    obtain ⟨e, heq⟩ := hcalls _ hmem
    simp at heq
  case authorized => exact absurd h happroved
  case captured | voided | refunded => exact absurd h.1 happroved

/-- What vouches for a state vouches for it after one more call, unless that call charges
for a booking whose payment has failed. -/
theorem BookingState.Vouched.called {state : BookingState} (h : state.Vouched b calls)
    (hc : state = .paymentFailed → ∀ req out, c ≠ .authorize b req out) :
    state.Vouched b (c :: calls) := by
  cases state with
  | pending => trivial
  | paymentFailed =>
    intro req result hmem
    rcases List.mem_cons.mp hmem with heq | hmem
    · exact absurd heq.symm (hc rfl req _)
    · exact h req result hmem
  | paymentAuthorized | ticketed | compensating =>
    obtain ⟨req, ref, happroved⟩ := h
    exact ⟨req, ref, happroved.mono (List.subset_cons_self _ _)⟩
  | confirmed | voided =>
    obtain ⟨ref, hmem⟩ := h
    exact ⟨ref, List.mem_cons_of_mem _ hmem⟩
  | cancelled =>
    obtain ⟨ref, amount, hmem⟩ := h
    exact ⟨ref, amount, List.mem_cons_of_mem _ hmem⟩
  | needsManualReview =>
    obtain ⟨ref, hmem | ⟨amount, hmem⟩⟩ := h
    · exact ⟨ref, .inl (List.mem_cons_of_mem _ hmem)⟩
    · exact ⟨ref, .inr ⟨amount, List.mem_cons_of_mem _ hmem⟩⟩

/-- A call that leaves the tables alone. -/
theorem View.Vouched.called (h : V.Vouched b) (hrow : V'.row = V.row)
    (hpay : V'.payments = V.payments) (hcalls : V'.calls = c :: V.calls)
    (hc : (∀ row, V.row = some row → row.state ≠ .paymentFailed) ∨
      ∀ req out, c ≠ .authorize b req out) : V'.Vouched b where
  row row hr := by
    rw [hcalls]
    refine (h.row row (hrow ▸ hr)).called fun hfailed => ?_
    rcases hc with hc | hc
    · exact absurd hfailed (hc row (hrow ▸ hr))
    · exact hc
  payments r hr := by
    rw [hcalls]
    exact (h.payments r (hpay ▸ hr)).mono (List.subset_cons_self _ _)

/-- A flush that moves the booking to a state the gateway vouches for. -/
theorem View.Vouched.of_flush (V : View) (loaded current : BookingState) (hne : current ≠ loaded)
    (hrow : V'.row = V.row.map (Booking.merge loaded current))
    (hstate : current.Vouched b V'.calls) (hpay : ∀ r ∈ V'.payments, r.Vouched V'.calls) :
    V'.Vouched b where
  row row hr := by
    rw [hrow] at hr
    obtain ⟨row₀, -, rfl⟩ := Option.map_eq_some_iff.mp hr
    rw [Booking.merge_state, Orm.writeBack_dirty _ hne]
    exact hstate
  payments := hpay

end Mono

section Steps

variable [PaymentGateway G] {env : Env} {s s' : Shared G} {p : ℕ} {P P' : Proc} {a : Input}
  {b : BookingId}

/-! ### The booking a step works on -/

theorem Shared.callsOf_authorized (s : Shared G) (σ : Saga) (pay : Payment) :
    (s.authorized σ pay).callsOf σ.bookingId =
      .authorize σ.bookingId (authorizeRequest σ pay) (authorizeOutcome s σ pay).1 ::
        s.callsOf σ.bookingId :=
  Shared.callsOf_called rfl

theorem Shared.callsOf_captured (s : Shared G) (σ : Saga) (pay : Payment) :
    (s.captured σ pay).callsOf σ.bookingId =
      .capture σ.bookingId (pay.providerRef.getD "") (succeeded (captureOutcome s pay).1) ::
        s.callsOf σ.bookingId :=
  Shared.callsOf_called rfl

theorem Shared.callsOf_refunded (s : Shared G) (b : BookingId) (pay : Payment) :
    (s.refunded b pay).callsOf b =
      .refund b (pay.providerRef.getD "") pay.amount (succeeded (refundOutcome s pay).1) ::
        s.callsOf b :=
  Shared.callsOf_called rfl

omit [PaymentGateway G] in
/-- What an approval that the booking's calls end with vouches for. -/
theorem Payment.Charged.approved {σ : Saga} {pay : Payment} {V : View} {calls : List GatewayCall}
    {r : BookingRequest} (h : pay.Charged σ V calls) (hfor : pay.For σ r) :
    pay.Approved calls := by
  obtain ⟨result, happroved, href, cs, rfl, -⟩ := h.answered
  refine ⟨result.providerRef, href, result, ?_, happroved, rfl⟩
  rw [hfor.booking, ← hfor.request_eq]
  exact List.mem_cons_self

omit [PaymentGateway G] in
theorem Payment.Approved.booking {σ : Saga} {pay : Payment} {calls : List GatewayCall}
    {r : BookingRequest} (h : pay.Approved calls) (hfor : pay.For σ r) :
    ∃ req ref, ApprovedCharge calls σ.bookingId req ref := by
  obtain ⟨ref, -, hcharge⟩ := h
  exact ⟨_, ref, hfor.booking ▸ hcharge⟩

omit [PaymentGateway G] in
theorem PaymentTable.paymentsOf_eq {db : Db} {uuid : ℕ} (h : PaymentTable db uuid) {r : Payment}
    (hr : r ∈ db.paymentsOf b) : db.paymentsOf b = [r] := by
  obtain ⟨r', hr'⟩ := List.length_eq_one_iff.mp (le_antisymm (h.one b) (List.length_pos_of_mem hr))
  rw [hr', List.mem_singleton] at hr
  rw [hr', hr]

/-- A saga's own flush of its payment. -/
theorem vouched_flush {db : Db} {b : BookingId} {loaded current : Payment}
    {calls : List GatewayCall} (hrow : db.paymentsOf b = [loaded])
    (h : Payment.Vouched { loaded with
      state := current.state, providerRef := current.providerRef
      failureCode := current.failureCode } calls) :
    ∀ r ∈ (db.flushPayment loaded current).paymentsOf b, r.Vouched calls := by
  intro r hr
  rw [PaymentTable.paymentsOf_flush hrow, List.mem_singleton] at hr
  rw [hr]
  exact h

/-- A saga's step leaves its booking in a state the gateway vouches for. -/
theorem BookingStep.vouched {r : BookingRequest} {x : Draws} {pc pc' : BookingPc}
    (h : BookingStep env s p r x pc s' pc')
    (ho : ∀ b, pc.booking? = some b → pc.Outline r b (s.view b)) (hv : pc.Vouched (s.view b))
    (hw : pc.saga?.map Saga.bookingId = some b) (hV : (s.view b).Vouched b) :
    (s'.view b).Vouched b := by
  -- a step that only calls the gateway: the row and the payments are as they were
  have hcalled : ∀ {σ : Saga} {state : BookingState} {t : Shared G} {c : GatewayCall},
      σ.Before r.userId state (s.view σ.bookingId) → state ≠ .paymentFailed →
      σ.bookingId = b → t.db = s.db → t.callsOf b = c :: s.callsOf b → (t.view b).Vouched b := by
    rintro σ state t c hbefore hne rfl hdb hcalls
    refine hV.called ?_ ?_ hcalls (.inl fun row hrow => ?_)
    · rw [Shared.view_row, Shared.view_row, hdb]
    · rw [Shared.view_payments, Shared.view_payments, hdb]
    · rw [hbefore.row_state hrow]
      exact hne
  -- a step that moves the booking: it is in the new state, with its payments vouched for
  have hmoved : ∀ {σ : Saga} {state : BookingState} {V : View},
      σ.Before r.userId state (s.view σ.bookingId) → ∀ current : BookingState, current ≠ state →
      V.row = (s.view σ.bookingId).row.map (Booking.merge σ.state current) →
      current.Vouched σ.bookingId V.calls → (∀ r ∈ V.payments, r.Vouched V.calls) →
        V.Vouched σ.bookingId := by
    intro σ state V hbefore current hne hrow hstate hpay
    exact .of_flush (s.view σ.bookingId) σ.state current (hbefore.state ▸ hne) hrow hstate hpay
  cases h
  case opens => exact absurd hw (by simp [BookingPc.saga?])
  case fails σ f rows hf h =>
    obtain rfl := Option.some.inj hw
    obtain ⟨hbefore, hj, -⟩ := ho σ.bookingId rfl
    -- the failure is before the charge, or after the one answer, which declined
    have hunpaid : ∀ req result,
        .authorize σ.bookingId req (.ok result) ∈ (s.view σ.bookingId).calls →
          result.approved = false := by
      intro req result hmem
      unfold PaymentFailure.Journals at hj
      split at hj
      · rw [hj.2] at hmem
        simp at hmem
      · obtain ⟨-, -, result₀, hdeclined, -, hans⟩ := hj
        rw [(hans.eq_of_mem hmem).2]
        exact hdeclined
    refine hmoved hbefore .paymentFailed (by decide) Db.flushBookingState_self hunpaid ?_
    show ∀ r ∈ (s.db.flushPayments f.payment).paymentsOf σ.bookingId, _
    cases hpay : f.payment with
    | none => exact hV.payments
    | some d =>
      simp only [PaymentFailure.Journals, hpay] at hj
      obtain ⟨hfor, hrow, result, hdeclined, hcur, cs, hcs, -⟩ := hj
      refine vouched_flush hrow ?_
      rw [hcur]
      refine ⟨result, ?_, hdeclined, rfl, rfl⟩
      show GatewayCall.authorize d.1.bookingId d.1.request (.ok result) ∈ s.callsOf σ.bookingId
      rw [hfor.booking, ← hfor.request_eq, ← Shared.view_calls, hcs]
      exact List.mem_cons_self
  case createsPayment σ h =>
    obtain rfl := Option.some.inj hw
    refine ⟨hV.row, fun r' hr' => ?_⟩
    have hcons : (insertPayment s.db (s.payment env r σ)).paymentsOf σ.bookingId =
        s.payment env r σ :: s.db.paymentsOf σ.bookingId := by
      simp [Db.paymentsOf, Shared.payment, newPayment]
    have hmem : r' ∈ (insertPayment s.db (s.payment env r σ)).paymentsOf σ.bookingId := hr'
    rw [hcons] at hmem
    rcases List.mem_cons.mp hmem with rfl | hold
    · rfl
    · exact hV.payments r' hold
  case authorizes σ pay result h | timesOut σ pay e h | retries σ pay result h
    | timesOutAgain σ pay e h =>
    obtain rfl := Option.some.inj hw
    exact hcalled (ho σ.bookingId rfl).1 (by decide) rfl rfl (Shared.callsOf_authorized ..)
  -- the payment is still the pending row, so it has no reference
  case journals σ pay =>
    obtain rfl := Option.some.inj hw
    obtain ⟨hbefore, hfor, hrow, hunanswered⟩ := ho σ.bookingId rfl
    have hpay : pay.Vouched (s.view σ.bookingId).calls :=
      hV.payments pay (hrow ▸ List.mem_singleton_self pay)
    refine ⟨hV.row, vouched_flush hrow ?_⟩
    obtain ⟨e, hmem⟩ := hv
    refine ⟨hpay.unreferenced hunanswered, e, ?_⟩
    show GatewayCall.authorize pay.bookingId pay.request (.error e) ∈ (s.view σ.bookingId).calls
    rw [hfor.booking, ← hfor.request_eq]
    exact hmem
  -- the last answer approved the very request of the payment row
  case recordsAuthorized σ pay result h _ =>
    obtain rfl := Option.some.inj hw
    obtain ⟨hbefore, hfor, hrow, happroved, cs, hcs, -⟩ := ho σ.bookingId rfl
    have hmem : .authorize σ.bookingId (authorizeRequest σ pay) (.ok result) ∈
        (s.view σ.bookingId).calls := by
      rw [hcs]
      exact List.mem_cons_self
    have hcharge : ApprovedCharge (s.view σ.bookingId).calls σ.bookingId
        (authorizeRequest σ pay) result.providerRef := ⟨result, hmem, happroved, rfl⟩
    refine hmoved hbefore .paymentAuthorized (by decide) Db.flushBookingState_self
      ⟨_, _, hcharge⟩ ?_
    refine vouched_flush hrow ⟨result.providerRef, rfl, ?_⟩
    show ApprovedCharge (s.view σ.bookingId).calls pay.bookingId pay.request result.providerRef
    rw [hfor.booking, ← hfor.request_eq]
    exact hcharge
  case issues σ pay assigned rows hf hlost htrig hassigned hunique hchecked hcan hseq hrows =>
    obtain rfl := Option.some.inj hw
    obtain ⟨hbefore, hfor, hcharged⟩ := ho σ.bookingId rfl
    exact hmoved hbefore .ticketed (by decide) Db.flushBookingState_self
      ((hcharged.approved hfor).booking hfor) hV.payments
  case refuses σ pay rows reason hf h hcan hrows =>
    obtain rfl := Option.some.inj hw
    obtain ⟨hbefore, hfor, hcharged⟩ := ho σ.bookingId rfl
    exact hmoved hbefore .compensating (by decide) Db.flushBookingState_self
      ((hcharged.approved hfor).booking hfor) hV.payments
  case reverses σ pay reason h | reverseFails σ pay reason e h =>
    obtain rfl := Option.some.inj hw
    exact hcalled (ho σ.bookingId rfl).1 (by decide) rfl rfl (Shared.callsOf_reversed ..)
  case voids σ pay reason hf h =>
    obtain rfl := Option.some.inj hw
    obtain ⟨hbefore, hfor, cs, hcs, hcharged⟩ := ho σ.bookingId rfl
    have hmem : .void σ.bookingId (pay.providerRef.getD "") true ∈ (s.view σ.bookingId).calls := by
      rw [hcs]
      exact List.mem_cons_self
    refine hmoved hbefore .voided (by decide) Db.flushBookingState_self ⟨_, hmem⟩ ?_
    show ∀ r ∈ (s.db.flushPayment pay pay.reversed.1).paymentsOf σ.bookingId, _
    refine vouched_flush hcharged.row ?_
    -- the saga reverses an authorized payment, so it is voided and not refunded
    have hreversed : pay.reversed.1 = { pay with state := .voided } := by
      simp [Payment.reversed, hcharged.state]
    rw [hreversed]
    have hsub : cs ⊆ (s.view σ.bookingId).calls := hcs ▸ List.subset_cons_self ..
    refine ⟨(hcharged.approved hfor).mono hsub, ?_⟩
    show .void pay.bookingId (pay.providerRef.getD "") true ∈ (s.view σ.bookingId).calls
    rw [hfor.booking]
    exact hmem
  case flags σ pay reason error hf =>
    obtain rfl := Option.some.inj hw
    obtain ⟨hbefore, -, cs, hcs, -⟩ := ho σ.bookingId rfl
    have hmem : .void σ.bookingId (pay.providerRef.getD "") false ∈
        (s.view σ.bookingId).calls := by
      rw [hcs]
      exact List.mem_cons_self
    exact hmoved hbefore .needsManualReview (by decide) Db.flushBookingState_self ⟨_, .inl hmem⟩
      hV.payments
  case captures σ pay result h | captureFails σ pay e h =>
    obtain rfl := Option.some.inj hw
    exact hV.called rfl rfl (Shared.callsOf_captured ..) (.inr fun _ _ => by simp)
  case confirms σ pay h hseq =>
    obtain rfl := Option.some.inj hw
    obtain ⟨hticketed, hfor, hrow, hauth, -⟩ := ho σ.bookingId rfl
    have happroved : pay.Approved (s.view σ.bookingId).calls := by
      have hpay := hV.payments pay (hrow ▸ List.mem_singleton_self pay)
      rwa [Payment.Vouched, hauth] at hpay
    have hne : BookingState.confirmed ≠ σ.state := by
      rw [hticketed.state]
      decide
    refine .of_flush (s.view σ.bookingId) σ.state .confirmed hne Db.flushBookingState_self
      ⟨_, hv⟩ ?_
    refine vouched_flush hrow ⟨happroved, ?_⟩
    show .capture pay.bookingId (pay.providerRef.getD "") true ∈ (s.view σ.bookingId).calls
    rw [hfor.booking]
    exact hv
  all_goals exact hV

/-- A cancellation's step leaves its booking in a state the gateway vouches for. -/
theorem CancelStep.vouched {r : CancelRequest} {x : Draws} {pc pc' : CancelPc}
    (h : CancelStep s p r x pc s' pc') (ht : Tables s) (ho : pc.Outline b (s.view b))
    (hv : pc.Vouched b (s.view b)) (hw : pc.booking? = some b) (hV : (s.view b).Vouched b) :
    (s'.view b).Vouched b := by
  have hsold : ∀ state, pc.copy? = some (b, state) → state = .confirmed ∨ state = .ticketed :=
    fun state hcopy => ho.state _ hcopy
  cases h
  case refunds b' state pay h | refundFails b' state pay e h =>
    obtain rfl := Option.some.inj hw
    exact hV.called rfl rfl (Shared.callsOf_refunded ..) (.inr fun _ _ => by simp)
  case finishes b' state refunded h hseq =>
    obtain rfl := Option.some.inj hw
    have hne : BookingState.cancelled ≠ state := by
      rcases hsold state rfl with rfl | rfl <;> decide
    cases refunded with
    | none =>
      refine .of_flush (s.view b') state .cancelled hne Db.flushBookingState_self ?_ ?_
      · exact hv
      · exact hV.payments
    | some pay =>
      obtain ⟨⟨⟨r₀, hr₀, hlater⟩, happroved⟩, hmem⟩ := hv
      refine .of_flush (s.view b') state .cancelled hne Db.flushBookingState_self ⟨_, _, hmem⟩ ?_
      show ∀ r ∈ (s.db.flushPayment pay pay.refundedState).paymentsOf b', _
      obtain ⟨hb, hstate, href, -⟩ := ho.payment pay rfl
      have hid : r₀.id = pay.id := by rw [hlater.columns]
      have hamount : r₀.amount = pay.amount := by rw [hlater.columns]
      have hbooking : r₀.bookingId = pay.bookingId := by rw [hlater.columns]
      obtain ⟨ref, href⟩ := Option.isSome_iff_exists.mp href
      have hdirty : PaymentState.refunded ≠ pay.state := by
        rcases hstate with h | h <;> simp [h]
      intro r hr
      rw [Db.paymentsOf_flushPayment, ht.payments.paymentsOf_eq hr₀, List.map_singleton,
        List.mem_singleton, if_pos hid] at hr
      have hrefunded : r.state = .refunded := by
        rw [hr]
        exact Orm.writeBack_dirty _ hdirty
      have hkept : r.providerRef = r₀.providerRef := by
        rw [hr]
        exact Orm.writeBack_clean ..
      have hlater' : pay.Later r :=
        ⟨by rw [hr, Payment.merge, hlater.columns], fun ref h => hkept ▸ hlater.providerRef ref h⟩
      rw [Payment.Vouched, hrefunded]
      refine ⟨happroved.later hlater', ?_⟩
      show .refund r.bookingId (r.providerRef.getD "") r.amount true ∈ (s.view b').calls
      rw [hkept, hlater.providerRef ref href, ← href, hr, Payment.merge_bookingId, hbooking, hb]
      show .refund b' (pay.providerRef.getD "") r₀.amount true ∈ (s.view b').calls
      rw [hamount]
      exact hmem
  case reviews b' state error hseq =>
    obtain rfl := Option.some.inj hw
    obtain ⟨ref, amount, hmem⟩ := hv
    have hne : BookingState.needsManualReview ≠ state := by
      rcases hsold state rfl with rfl | rfl <;> decide
    refine .of_flush (s.view b') state .needsManualReview hne Db.flushBookingState_self ?_ ?_
    · exact ⟨ref, .inr ⟨amount, hmem⟩⟩
    · exact hV.payments
  all_goals exact hV

/-- A booking a step does not work on is as it was, or step 1 has just opened it. -/
theorem Step.view_born (h : Step env s p P a s' P') (ht : Tables s) (ho : P.Outline s)
    (hw : P.writes ≠ some b) : s'.view b = s.view b ∨
      ∃ row passengers, s'.view b = ⟨some row, passengers, [], [], []⟩ ∧ row.state = .pending := by
  by_cases hw' : P'.writes = some b
  · rcases h.writes_cases hw' with hold | ⟨hopen, rfl⟩ | ⟨_, _, -, -, rfl, -⟩
    · exact absurd hold hw
    · cases h <;> try exact hopen.elim
      case booking r x pc pc' h =>
        cases h <;> try exact hopen.elim
        case opens => exact .inr ⟨_, _, view_opened ht .., rfl⟩
        case opensNothing => exact .inl rfl
    · exact .inl rfl
  · exact .inl (h.view_eq hw hw' fun pay hpay => ho.instance_ne ht hw hpay)

/-- **No step records what the gateway has not answered.** -/
theorem Step.vouched (h : Step env s p P a s' P') (ht : Tables s) (ho : P.Outline s)
    (hv : P.Vouched s) (hV : ∀ b, (s.view b).Vouched b) (b : BookingId) :
    (s'.view b).Vouched b := by
  by_cases hw : P.writes = some b
  · cases h
    case booking h =>
      exact h.vouched (fun b hb => (ho b hb).2) (hv b (BookingPc.booking?_of_saga? hw)) hw (hV b)
    case cancel h => exact h.vouched ht (ho b hw).2 (hv b hw) hw (hV b)
    all_goals exact absurd hw (by simp [Proc.writes])
  · rcases h.view_born ht ho hw with hsame | ⟨row, passengers, hview, hpending⟩
    · rw [hsame]
      exact hV b
    · rw [hview]
      refine ⟨fun row' hrow' => ?_, by simp⟩
      obtain rfl := Option.some.inj hrow'
      rw [hpending]
      trivial

/-! ### What the processes know -/

/-- Later in a run, more calls have been made for a booking. -/
theorem Step.callsOf_subset (h : Step env s p P a s' P') (b : BookingId) :
    s.callsOf b ⊆ s'.callsOf b := by
  intro c hc
  obtain ⟨hmem, hb⟩ := List.mem_filter.mp hc
  exact List.mem_filter.mpr ⟨h.calls_subset hmem, hb⟩

/-- A payment that was found stays, as what has become of it. -/
theorem Step.payment_kept (h : Step env s p P a s' P') (ht : Tables s) (ho : P.Outline s)
    (hun : P.Unreferenced) {pay : Payment} (hpay : ∃ r ∈ (s.view b).payments, pay.Later r) :
    ∃ r ∈ (s'.view b).payments, pay.Later r := by
  obtain ⟨r, hr, hlater⟩ := hpay
  obtain ⟨hmem, hb⟩ := Db.mem_paymentsOf.mp hr
  obtain ⟨r', hr', hlater'⟩ := h.payment_later ht ho hun hmem
  refine ⟨r', Db.mem_paymentsOf.mpr ⟨hr', ?_⟩, hlater.trans hlater'⟩
  rw [hlater'.columns]
  exact hb

theorem Step.vouched_mover (h : Step env s p P a s' P') (ht : Tables s) (ho : P.Outline s)
    (hun : P.Unreferenced) (hv : P.Vouched s)
    (hV : ∀ b, (s.view b).Vouched b ∧ (s.view b).Paid) : P'.Vouched s' := by
  have hstep := h
  cases h
  case booking r x pc pc' h =>
    intro b hb
    cases h
    case timesOut σ pay e h =>
      obtain rfl := Option.some.inj hb
      refine ⟨e, ?_⟩
      rw [Shared.view_calls, Shared.callsOf_authorized, h]
      exact List.mem_cons_self
    case captures σ pay result h =>
      obtain rfl := Option.some.inj hb
      show .capture σ.bookingId (pay.providerRef.getD "") true ∈ (s.captured σ pay).callsOf _
      rw [Shared.callsOf_captured, h]
      exact List.mem_cons_self
    case authorizes σ pay result _ | retries σ pay result _ =>
      unfold afterAuthorize
      split <;> trivial
    case opensNothing e _ | selectIllegal e _ | recordIllegal e _ | refuseIllegal e _ _
      | issueRolledBack e _ _ _ _ | voidIllegal e _ | confirmIllegal e _ => cases e <;> trivial
    all_goals trivial
  case cancel r x pc pc' h =>
    intro b hb
    cases h
    case accepts b' row h h' =>
      obtain rfl := Option.some.inj hb
      obtain ⟨-, hrow, -⟩ := ownedBooking_eq_some h
      -- a booking that can be cancelled has a payment that was sold
      have hstate := requireState_eq_none.mp h'
      obtain ⟨pay, hpay, hsold⟩ := (hV b').2 row hrow (by simpa [or_comm] using hstate)
      exact ⟨pay, hpay, hsold.imp id .inl⟩
    case selects b' state =>
      obtain rfl := Option.some.inj hb
      cases hfind : findPayment s.db b' with
      | none =>
        -- another cancellation has refunded the payment meanwhile
        obtain ⟨r, hr, hsold⟩ := hv b' rfl
        obtain ⟨hmem, hrb⟩ := Db.mem_paymentsOf.mp hr
        have hnot := List.find?_eq_none.mp hfind r hmem
        have hrefunded : r.state = .refunded := by
          rcases hsold with h | h | h
          · simp [hrb, h] at hnot
          · simp [hrb, h] at hnot
          · exact h
        have hvouched := (hV b').1.payments r hr
        rw [Payment.Vouched, hrefunded] at hvouched
        exact ⟨_, _, hrb ▸ hvouched.2⟩
      | some pay =>
        obtain ⟨hpay, hsold⟩ := findPayment_eq_some hfind
        have hvouched := (hV b').1.payments pay hpay
        refine ⟨⟨pay, hpay, .refl pay⟩, ?_⟩
        rcases hsold with h | h
        · rwa [Payment.Vouched, h] at hvouched
        · rw [Payment.Vouched, h] at hvouched
          exact hvouched.1
    case locks b' state pay hf =>
      cases pay with
      | none => exact hv b hb
      | some pay => exact hv b hb
    case refunds b' state pay h =>
      obtain rfl := Option.some.inj hb
      obtain ⟨hpay, happroved⟩ := hv b' rfl
      have hsub := hstep.callsOf_subset b'
      refine ⟨⟨hstep.payment_kept ht ho hun hpay, happroved.mono hsub⟩, ?_⟩
      rw [Shared.view_calls, Shared.callsOf_refunded, h]
      exact List.mem_cons_self
    case refundFails b' state pay e h =>
      obtain rfl := Option.some.inj hb
      refine ⟨pay.providerRef.getD "", pay.amount, ?_⟩
      rw [Shared.view_calls, Shared.callsOf_refunded, h]
      exact List.mem_cons_self
    all_goals exact absurd hb (by simp [CancelPc.booking?])
  case arrive r => cases r <;> simp [Request.start, Proc.Vouched, BookingPc.Vouched,
      CancelPc.Vouched]
  all_goals trivial

omit [PaymentGateway G] in
/-- A flush to a state of a sold payment leaves the payments sold. -/
theorem sold_flush {db : Db} {loaded current r : Payment} (hne : current.state ≠ loaded.state)
    (hsold : current.Sold) (hr : r ∈ db.paymentsOf b) (h : r.Sold) :
    ∃ r' ∈ (db.flushPayment loaded current).paymentsOf b, r'.Sold := by
  rw [Db.paymentsOf_flushPayment]
  refine ⟨_, List.mem_map_of_mem hr, ?_⟩
  split
  · have hstate : (Payment.merge loaded current r).state = current.state :=
      Orm.writeBack_dirty _ hne
    simpa only [Payment.Sold, hstate] using hsold
  · exact h

/-- Beside a cancellation nothing but a capture or a refund is recorded. -/
theorem Step.sold (h : Step env s p P a s' P') (ht : Tables s) (ho : P.Outline s)
    (hlt : b < s.uuid) (huntold : P.untold? ≠ some b) {r : Payment}
    (hr : r ∈ (s.view b).payments) (hsold : r.Sold) : ∃ r' ∈ (s'.view b).payments, r'.Sold := by
  by_cases hw : P.writes = some b
  · cases h
    case booking r' x pc pc' h =>
      cases h
      case confirms σ pay _ _ =>
        obtain rfl := Option.some.inj hw
        obtain ⟨-, -, -, hauth, -⟩ := (ho σ.bookingId rfl).2
        exact sold_flush (by simp [Payment.capturedState, hauth]) (.inr (.inl rfl)) hr hsold
      case captures | captureFails | confirmIllegal | confirmRolledBack | refreshes =>
        exact ⟨r, hr, hsold⟩
      all_goals first
        | exact absurd hw huntold
        | exact absurd hw (by simp [Proc.writes, BookingPc.saga?])
    case cancel r' x pc pc' h =>
      cases h
      case finishes b' state refunded _ _ =>
        obtain rfl := Option.some.inj hw
        cases refunded with
        | none => exact ⟨r, hr, hsold⟩
        | some pay =>
          have hstate := ((ho b' rfl).2.payment pay rfl).state
          refine sold_flush ?_ (.inr (.inr rfl)) hr hsold
          rcases hstate with h | h <;> simp [Payment.refundedState, h]
      all_goals exact ⟨r, hr, hsold⟩
    all_goals exact absurd hw (by simp [Proc.writes])
  · rw [h.view_eq_of_ne ht ho hw hlt]
    exact ⟨r, hr, hsold⟩

/-- **What a bystander knows stays true.** -/
theorem Step.vouched_bystander {Q : Proc} (h : Step env s p P a s' P') (ht : Tables s)
    (ho : P.Outline s) (hun : P.Unreferenced) (hQ : Q.Outline s) (hPQ : P.Apart Q)
    (hv : Q.Vouched s) : Q.Vouched s' := by
  cases Q with
  | booking r pc =>
    intro b hb
    have hold := hv b hb
    cases pc <;> try trivial
    case journalUnknown σ pay =>
      obtain ⟨e, hmem⟩ := hold
      exact ⟨e, h.callsOf_subset b hmem⟩
    case confirm σ pay => exact h.callsOf_subset b hold
  | cancel r pc =>
    intro b hb
    have hold := hv b hb
    have hsub := h.callsOf_subset b
    have hrefund : ∀ ok, (∃ ref amount, .refund b ref amount ok ∈ (s.view b).calls) →
        ∃ ref amount, .refund b ref amount ok ∈ (s'.view b).calls := by
      rintro ok ⟨ref, amount, hmem⟩
      exact ⟨ref, amount, hsub hmem⟩
    cases pc
    case selectPayment b' state =>
      obtain rfl := Option.some.inj hb
      obtain ⟨r, hr, hsold⟩ := hold
      have huntold : P.untold? ≠ some b' := fun hun => hPQ.untold b' hun rfl
      exact h.sold ht ho (hQ b' rfl).1 huntold hr hsold
    case lockSeats b' state pay =>
      cases pay with
      | none => exact hrefund true hold
      | some pay => exact ⟨h.payment_kept ht ho hun hold.1, hold.2.mono hsub⟩
    case refund b' state pay => exact ⟨h.payment_kept ht ho hun hold.1, hold.2.mono hsub⟩
    case finish b' state pay =>
      cases pay with
      | none => exact hrefund true hold
      | some pay =>
        exact ⟨⟨h.payment_kept ht ho hun hold.1.1, hold.1.2.mono hsub⟩, hsub hold.2⟩
    case review b' state error => exact hrefund false hold
    all_goals trivial
  | idle | hold | release | sweep => trivial

/-! ### Every reachable state -/

omit [PaymentGateway G] in
theorem vouched_initial {db : Db} (hdb : db.Initial) (g : G) (clock : Time) (b : BookingId) :
    ((initialWorld db g clock).shared.view b).Vouched b ∧
      ((initialWorld db g clock).shared.view b).Paid := by
  have hrow : ((initialWorld db g clock).shared.view b).row = none := hdb.booking b
  have hpayments : ((initialWorld db g clock).shared.view b).payments = [] := by
    simp [initialWorld, Db.paymentsOf, hdb.payments]
  refine ⟨⟨fun row hr => ?_, fun r hr => ?_⟩, fun row hr => ?_⟩
  · rw [hrow] at hr
    simp at hr
  · rw [hpayments] at hr
    simp at hr
  · rw [hrow] at hr
    simp at hr

/-- What a run knows beside the outline: the tables are vouched for, and so is what the
requests are about to record. -/
theorem vouched_holds {C : World (Shared G) Proc → ℕ → Input → Prop} {db : Db} {g : G}
    {clock : Time} {w : World (Shared G) Proc} {as : List (ℕ × Input)} (hdb : db.Initial)
    (h : (service env G).Run C (initialWorld db g clock) as w) :
    ((outline G).strengthen (fun s => ∀ b, (s.view b).Vouched b ∧ (s.view b).Paid)
      fun s P => P.Unreferenced ∧ P.Vouched s).Holds w := by
  refine Outline.strengthen_of_run h ?_ (fun _ _ _ _ hw hn => outline_next hw hn) ?_
  · exact (outline_initial hdb g clock).strengthen (vouched_initial hdb g clock)
      fun _ => ⟨trivial, trivial⟩
  · intro w₁ p a s' P' hw _ hs
    have hstep := step_of hs
    obtain ⟨ht, hV⟩ := hw.shared
    obtain ⟨ho, hun, hv⟩ := hw.own p
    refine ⟨fun b => ⟨?_, ?_⟩, ⟨hstep.unreferenced hun, ?_⟩, ?_⟩
    · exact hstep.vouched ht ho hv (fun b => (hV b).1) b
    · exact hstep.paid ht ho (fun b => (hV b).2) b
    · exact hstep.vouched_mover ht ho hun hv hV
    · rintro Q hQ ⟨hunQ, hvQ⟩ hPQ -
      exact ⟨hunQ, hstep.vouched_bystander ht ho hun hQ hPQ hvQ⟩

/-- **No state is recorded that the gateway has not answered.**  In every reachable state,
whatever the gateway answers and however requests fall between each other: a payment is
authorized, declined, captured, voided or refunded only after a call that was answered so,
made for its booking; its reference is the one its own charge was answered with, by an
approval unless it was declined, and it has none before; and a booking is confirmed only after a
capture, voided after a void, cancelled after a refund, flagged for review after a reversal
that was refused, and failed only if no charge of it was ever approved. -/
theorem states_vouched {C : World (Shared G) Proc → ℕ → Input → Prop} {db : Db} {g : G}
    {clock : Time} {w : World (Shared G) Proc} {as : List (ℕ × Input)} (hdb : db.Initial)
    (h : (service env G).Run C (initialWorld db g clock) as w) (b : BookingId) :
    (w.shared.view b).Vouched b :=
  ((vouched_holds hdb h).shared.2 b).1

end Steps

/-- A seat is sold, and the booking is cancelled after its refund. -/
theorem states_vouched_cancelled :
    ∃ w, (service demoEnv FakePaymentGateway).Run (fun _ _ _ => True) (onSale 1)
        (soldSeat ++ asks 3 (.cancelBooking ⟨10, "SKYLCC"⟩) 5 (.calm 2)) w ∧
      (∃ row, w.shared.db.booking 1 = some row ∧ row.state = .cancelled) ∧
      (w.shared.view 1).Vouched 1 := by
  have hrun : ((service demoEnv FakePaymentGateway).checked (fun _ _ _ => True) (onSale 1)
      (soldSeat ++ asks 3 (.cancelBooking ⟨10, "SKYLCC"⟩) 5 (.calm 2))).any (fun w =>
        (w.shared.db.booking 1).any fun row => decide (row.state = .cancelled)) = true := by
    decide +kernel
  obtain ⟨w, hw, htest⟩ := System.exists_run_of_checked hrun
  obtain ⟨row, hrow, hstate⟩ := (Option.any_eq_true _ _).mp htest
  exact ⟨w, hw, ⟨row, hrow, of_decide_eq_true hstate⟩,
    states_vouched (Db.seeded_initial ..) hw 1⟩

end SkyLock
