import SkyLock.Interference
import SkyLock.Scripts

/-!
# One charge per booking

Every payment row stands for an `authorize` call the gateway answered for the
row's own booking, and a charge is reversed only for the booking it was made for.
That much holds of every gateway.  Whether two bookings can share one
authorization is up to the keys: `FakePaymentGateway` answers a key it knows with
the authorization it made the first time, and the saga derives its key from the
client's `Idempotency-Key` alone.

## Main definitions

* `GatewayUse` — the call a step makes, if it makes one.
* `Ledger` — payments, charges and reversals are booking by booking.
* `OneCharge` — no authorization backs two bookings.
* `FreshKey` — a charge goes out under a key the gateway has not answered.

## Main results

* `ledger_holds` — the ledger is in order in every reachable world.
* `one_charge` — **where every charge goes out under a fresh key, each booking is
  paid for by a charge of its own**.
* `shared_charge` — two users who pick the same key share one authorization.
-/

namespace SkyLock

open Concurrent

section Use

variable {G : Type} [PaymentGateway G] {env : Env} {s s' : Shared G} {p : ℕ}

/-! ### The calls of the gateway -/

/-- The gateway call a step from the local state `P` makes. -/
inductive GatewayUse (s : Shared G) : Proc → Shared G → Prop
  | quiet {P : Proc} {s' : Shared G} (hc : s'.calls = s.calls) (hg : s'.gateway = s.gateway) :
      GatewayUse s P s'
  | authorizes {r : BookingRequest} {pc : BookingPc} {σ : Saga} {pay : Payment}
      (hpc : pc = .authorize σ pay ∨ pc = .retryAuthorize σ pay) :
      GatewayUse s (.booking r pc) (s.authorized σ pay)
  | reverses {r : BookingRequest} {σ : Saga} {pay : Payment} {reason : String} :
      GatewayUse s (.booking r (.reverse σ pay reason)) (s.reversed r σ pay)
  | captures {r : BookingRequest} {σ : Saga} {pay : Payment} :
      GatewayUse s (.booking r (.capture σ pay)) (s.captured σ pay)
  | refunds {r : CancelRequest} {b : BookingId} {state : BookingState} {pay : Payment} :
      GatewayUse s (.cancel r (.refund b state pay)) (s.refunded b pay)

theorem Step.gatewayUse {P P' : Proc} {a : Input} (h : Step env s p P a s' P') :
    GatewayUse s P s' := by
  cases h
  case booking r x pc pc' h =>
    cases h
    case authorizes | timesOut => exact .authorizes (.inl rfl)
    case retries | timesOutAgain => exact .authorizes (.inr rfl)
    case reverses | reverseFails => exact .reverses
    case captures | captureFails => exact .captures
    all_goals exact .quiet rfl rfl
  case cancel r x pc pc' h =>
    cases h
    case refunds | refundFails => exact .refunds
    all_goals exact .quiet rfl rfl
  case hold r x pc pc' h => cases h <;> exact .quiet rfl rfl
  case release r x pc pc' h => cases h <;> exact .quiet rfl rfl
  case sweep x pc pc' h =>
    cases h
    exact .quiet rfl rfl
  all_goals exact .quiet rfl rfl

/-- The history only grows. -/
theorem Step.calls_subset {P P' : Proc} {a : Input} (h : Step env s p P a s' P') :
    s.calls ⊆ s'.calls := by
  intro c hc
  cases h.gatewayUse with
  | quiet hcalls => rwa [hcalls]
  | authorizes | reverses | captures | refunds => exact List.mem_cons_of_mem _ hc

/-! ### The ledger -/

/-- The `authorize` call a payment row stands for. -/
def Payment.request (pay : Payment) : AuthorizeRequest :=
  ⟨pay.cardToken, pay.amount, pay.currency, pay.idempotencyKey⟩

/-- The authorization with the reference `ref` came from this call of the booking. -/
def Backed (calls : List GatewayCall) (b : BookingId) (req : AuthorizeRequest) (ref : String) :
    Prop :=
  ∃ result : AuthorizationResult, .authorize b req (.ok result) ∈ calls ∧ result.providerRef = ref

/-- The provider reference a call reverses. -/
def GatewayCall.reversed? : GatewayCall → Option String
  | .void _ ref _ | .refund _ ref _ _ => some ref
  | _ => none

/-- Payments, charges and reversals are booking by booking. -/
structure Ledger (s : Shared G) : Prop where
  /-- A payment is over its booking's own amount. -/
  priced : ∀ r ∈ s.db.payments, ∃ row, s.db.booking r.bookingId = some row ∧
    r.amount = row.totalAmount ∧ r.currency = row.currency
  /-- A payment carries the reference its own charge was answered with. -/
  backed : ∀ r ∈ s.db.payments, ∀ ref, r.providerRef = some ref →
    Backed s.calls r.bookingId r.request ref
  /-- A charge is reversed for the booking it was made for. -/
  reversals : ∀ c ∈ s.calls, ∀ ref, c.reversed? = some ref →
    ∃ req, Backed s.calls c.booking req ref

omit [PaymentGateway G] in
theorem Backed.mono {calls calls' : List GatewayCall} {b : BookingId} {req : AuthorizeRequest}
    {ref : String} (h : Backed calls b req ref) (hsub : calls ⊆ calls') :
    Backed calls' b req ref := by
  obtain ⟨result, hmem, href⟩ := h
  exact ⟨result, hsub hmem, href⟩

theorem Payment.For.request_eq {pay : Payment} {σ : Saga} {r : BookingRequest}
    (h : pay.For σ r) : authorizeRequest σ pay = pay.request := by
  unfold authorizeRequest Payment.request
  rw [h.amount, h.currency]

omit [PaymentGateway G] in
/-- The answer a booking's calls end with is in the history. -/
theorem Answered.backed {b : BookingId} {req : AuthorizeRequest} {result : AuthorizationResult}
    (h : Answered b req result (s.callsOf b)) : Backed s.calls b req result.providerRef := by
  obtain ⟨cs, hcs, -⟩ := h
  have hmem : GatewayCall.authorize b req (.ok result) ∈ s.callsOf b := by
    rw [hcs]
    exact List.mem_cons_self
  exact ⟨result, (List.mem_filter.mp hmem).1, rfl⟩

/-- Where a payment row comes from: it is new, or one that was there, with the
reference it had or the one its charge was just answered with. -/
theorem Step.mem_payments {P P' : Proc} {a : Input} (h : Step env s p P a s' P') (ht : Tables s)
    (ho : P.Outline s) {r' : Payment} (hr' : r' ∈ s'.db.payments) :
    (∃ r σ, P = .booking r (.createPayment σ) ∧ r' = s.payment env r σ) ∨
      ∃ r ∈ s.db.payments, r'.bookingId = r.bookingId ∧ r'.request = r.request ∧
        (r'.providerRef = r.providerRef ∨
          ∃ ref, r'.providerRef = some ref ∧ Backed s.calls r.bookingId r.request ref) := by
  have hclean : ∀ loaded current : Payment, current.providerRef = loaded.providerRef →
      r' ∈ (s.db.flushPayment loaded current).payments →
        ∃ r ∈ s.db.payments, r'.bookingId = r.bookingId ∧ r'.request = r.request ∧
          (r'.providerRef = r.providerRef ∨
            ∃ ref, r'.providerRef = some ref ∧ Backed s.calls r.bookingId r.request ref) := by
    intro loaded current href hmem
    obtain ⟨r, hr, rfl⟩ := Db.mem_flushPayment.mp hmem
    refine ⟨r, hr, ?_⟩
    split
    · exact ⟨rfl, rfl, .inl (by rw [Payment.merge, href, Orm.writeBack_clean])⟩
    · exact ⟨rfl, rfl, .inl rfl⟩
  -- the row of an own payment has not moved, so the flush assigns the reference
  have hown : ∀ (σ : Saga) (r₀ : BookingRequest) (loaded current : Payment)
      (result : AuthorizationResult), loaded.For σ r₀ → s.db.paymentsOf σ.bookingId = [loaded] →
      current.providerRef = some result.providerRef →
      Answered σ.bookingId (authorizeRequest σ loaded) result (s.callsOf σ.bookingId) →
      r' ∈ (s.db.flushPayment loaded current).payments →
        ∃ r ∈ s.db.payments, r'.bookingId = r.bookingId ∧ r'.request = r.request ∧
          (r'.providerRef = r.providerRef ∨
            ∃ ref, r'.providerRef = some ref ∧ Backed s.calls r.bookingId r.request ref) := by
    intro σ r₀ loaded current result hfor hrow href hans hmem
    obtain ⟨r, hr, rfl⟩ := Db.mem_flushPayment.mp hmem
    refine ⟨r, hr, ?_⟩
    split
    · next hid =>
      obtain rfl := ht.payments.eq_of_id hrow hr hid
      refine ⟨rfl, rfl, .inr ⟨result.providerRef, ?_, ?_⟩⟩
      · rw [Payment.merge_fresh]
        exact href
      · rw [hfor.booking, ← hfor.request_eq]
        exact hans.backed
    · exact ⟨rfl, rfl, .inl rfl⟩
  have hkept : r' ∈ s.db.payments →
      ∃ r ∈ s.db.payments, r'.bookingId = r.bookingId ∧ r'.request = r.request ∧
        (r'.providerRef = r.providerRef ∨
          ∃ ref, r'.providerRef = some ref ∧ Backed s.calls r.bookingId r.request ref) :=
    fun hr => ⟨r', hr, rfl, rfl, .inl rfl⟩
  cases h
  case booking r x pc pc' h =>
    cases h
    case createsPayment σ hw =>
      rcases List.mem_cons.mp hr' with rfl | hr'
      · exact .inl ⟨r, σ, rfl, rfl⟩
      · exact .inr (hkept hr')
    case fails σ f rows hf h =>
      obtain ⟨-, -, hj, -⟩ := ho σ.bookingId rfl
      cases hpay : f.payment with
      | none => exact .inr (hkept (by simpa [failedDb, hpay] using hr'))
      | some d =>
        simp only [PaymentFailure.Journals, hpay] at hj
        obtain ⟨hfor, hrow, result, -, hcur, hans⟩ := hj
        refine .inr (hown σ r d.1 d.2 result hfor hrow (by rw [hcur]; rfl) hans ?_)
        simpa [failedDb, hpay] using hr'
    case journals σ pay => exact .inr (hclean pay pay.timedOut rfl hr')
    case recordsAuthorized σ pay result h _ =>
      obtain ⟨-, -, hfor, hrow, -, hans⟩ := ho σ.bookingId rfl
      exact .inr (hown σ r pay (pay.authorized result) result hfor hrow rfl hans hr')
    case voids σ pay reason hf h =>
      refine .inr (hclean pay pay.reversed.1 ?_ hr')
      unfold Payment.reversed
      split <;> rfl
    case confirms σ pay h hseq => exact .inr (hclean pay pay.capturedState rfl hr')
    all_goals exact .inr (hkept hr')
  case cancel r x pc pc' h =>
    cases h
    case finishes b state refunded h hseq =>
      cases refunded with
      | none => exact .inr (hkept hr')
      | some pay => exact .inr (hclean pay pay.refundedState rfl hr')
    all_goals exact .inr (hkept hr')
  case hold r x pc pc' h => cases h <;> exact .inr (hkept hr')
  case release r x pc pc' h => cases h <;> exact .inr (hkept hr')
  case sweep x pc pc' h =>
    cases h
    exact .inr (hkept hr')
  all_goals exact .inr (hkept hr')

/-- One step keeps the ledger in order. -/
theorem Step.ledger {P P' : Proc} {a : Input} (h : Step env s p P a s' P') (ht : Tables s)
    (ho : P.Outline s) (hl : Ledger s) : Ledger s' := by
  refine ⟨fun r' hr' => ?_, fun r' hr' ref href => ?_, fun c hc ref href => ?_⟩
  · rcases h.mem_payments ht ho hr' with ⟨r, σ, rfl, rfl⟩ | ⟨r, hr, hb, hreq, -⟩
    -- a payment is created for the total of its booking
    · obtain ⟨row, hrow, ⟨-, -, -, htotal, hcur⟩, -⟩ := (ho σ.bookingId rfl).2.1.recorded.row
      obtain ⟨row', hrow', hsame⟩ := h.booking_kept ht hrow
      refine ⟨row', hrow', ?_⟩
      rcases hsame with rfl | ⟨loaded, current, rfl⟩ <;> exact ⟨htotal.symm, hcur.symm⟩
    · obtain ⟨row, hrow, ham, hcur⟩ := hl.priced r hr
      obtain ⟨row', hrow', hsame⟩ := h.booking_kept ht hrow
      have ham' : r'.amount = r.amount := congrArg AuthorizeRequest.amount hreq
      have hcur' : r'.currency = r.currency := congrArg AuthorizeRequest.currency hreq
      refine ⟨row', by rw [hb]; exact hrow', ?_⟩
      rw [ham', hcur', ham, hcur]
      rcases hsame with rfl | ⟨loaded, current, rfl⟩ <;> exact ⟨rfl, rfl⟩
  · rcases h.mem_payments ht ho hr' with ⟨r, σ, -, rfl⟩ | ⟨r, hr, hb, hreq, hsame⟩
    -- a new payment has no reference yet
    · exact absurd href (by simp [Shared.payment, newPayment])
    · rw [hb, hreq]
      rcases hsame with hsame | ⟨ref', href', hback⟩
      · exact (hl.backed r hr ref (hsame ▸ href)).mono h.calls_subset
      · obtain rfl : ref' = ref := Option.some.inj (href'.symm.trans href)
        exact hback.mono h.calls_subset
  · have hold : c ∈ s.calls → ∃ req, Backed s'.calls c.booking req ref := by
      intro hmem
      obtain ⟨req, hback⟩ := hl.reversals c hmem ref href
      exact ⟨req, hback.mono h.calls_subset⟩
    have hsub := h.calls_subset
    cases h.gatewayUse with
    | quiet hcalls => exact hold (hcalls ▸ hc)
    | authorizes | captures =>
      rcases List.mem_cons.mp hc with rfl | hc
      · exact absurd href (by simp [GatewayCall.reversed?])
      · exact hold hc
    | @reverses r σ pay reason =>
      rcases List.mem_cons.mp hc with rfl | hc
      · obtain ⟨-, -, hcharged⟩ := (ho σ.bookingId rfl).2
        -- the saga reverses what was answered
        obtain ⟨result, -, hpref, hans⟩ := hcharged.answered
        rw [reverseOutcome_call s r σ hcharged.state, hpref] at href ⊢
        obtain rfl : result.providerRef = ref := Option.some.inj href
        exact ⟨_, hans.backed.mono hsub⟩
      · exact hold hc
    | @refunds r b state pay =>
      rcases List.mem_cons.mp hc with rfl | hc
      -- a cancellation refunds what it has found
      · obtain ⟨-, -, hsome, r', hr', -, hsame⟩ := (ho b rfl).2.payment pay rfl
        obtain ⟨hmem, rfl⟩ := Db.mem_paymentsOf.mp hr'
        obtain ⟨ref', hpref⟩ := Option.isSome_iff_exists.mp hsome
        rw [hpref] at href
        obtain rfl : ref' = ref := Option.some.inj href
        exact ⟨_, (hl.backed r' hmem ref' (hsame.trans hpref)).mono hsub⟩
      · exact hold hc

/-- **The ledger is in order in every reachable world**, whatever the gateway. -/
theorem ledger_holds {C : World (Shared G) Proc → ℕ → Input → Prop} {db : Db} {g : G}
    {clock : Time} {w : World (Shared G) Proc} {as : List (ℕ × Input)} (hdb : db.Initial)
    (h : (service env G).Run C (initialWorld db g clock) as w) : Ledger w.shared := by
  have hboth : (outline G).Holds w ∧ Ledger w.shared := by
    refine h.induct (I := fun w => (outline G).Holds w ∧ Ledger w.shared) ?_ ?_
    · refine ⟨outline_initial hdb g clock, ?_⟩
      constructor <;> simp [initialWorld, hdb.payments]
    · rintro w₁ p a w₂ ⟨hw, hl⟩ - hn
      refine ⟨outline_next hw hn, ?_⟩
      obtain ⟨s', P', hs, rfl⟩ := System.next_eq_some.mp hn
      exact (step_of hs).ledger hw.shared (hw.own p) hl
  exact hboth.2

end Use

/-! ### The references of the fake gateway -/

section Fake

variable {env : Env} {s s' : Shared FakePaymentGateway} {p : ℕ}

namespace FakePaymentGateway

variable {g : FakePaymentGateway} {req : AuthorizeRequest}

/-- Under a key it has not answered, the gateway draws a new reference or times
out. -/
theorem authorize_of_fresh (h : req.idempotencyKey ∉ g.authorizations.map Prod.fst) :
    ((∃ e, (g.authorize req).1 = .error e) ∧ (g.authorize req).2.drawn = g.drawn ∨
      (g.authorize req).1 = .ok (g.newResult req) ∧ (g.authorize req).2.drawn = g.drawn + 1) ∧
        (g.authorize req).2.hex = g.hex := by
  unfold authorize
  rw [lookup_eq_none h]
  dsimp only
  split
  · exact ⟨.inl ⟨⟨_, rfl⟩, rfl⟩, rfl⟩
  · exact ⟨.inr ⟨rfl, rfl⟩, rfl⟩

theorem newResult_providerRef (g : FakePaymentGateway) (req : AuthorizeRequest) :
    (g.newResult req).providerRef = g.nextRef := by
  unfold newResult
  split <;> rfl

end FakePaymentGateway

/-- No reference was handed out twice, and the ones to come are new. -/
structure Distinct (s : Shared FakePaymentGateway) : Prop where
  drawn : ∀ b req result, .authorize b req (.ok result) ∈ s.calls →
    ∃ n < s.gateway.drawn, result.providerRef = "auth_" ++ s.gateway.hex n
  once : ∀ b req result b' req' result', .authorize b req (.ok result) ∈ s.calls →
    .authorize b' req' (.ok result') ∈ s.calls → result.providerRef = result'.providerRef →
      b = b' ∧ req = req'

/-- A charge goes out under a key the gateway has not answered. -/
def FreshKey (w : World (Shared FakePaymentGateway) Proc) (p : ℕ) (_ : Input) : Prop :=
  match w.proc p with
  | .booking _ (.authorize _ pay) | .booking _ (.retryAuthorize _ pay) =>
    pay.idempotencyKey ∉ w.shared.gateway.authorizations.map Prod.fst
  | _ => True

instance (w : World (Shared FakePaymentGateway) Proc) (p : ℕ) (a : Input) :
    Decidable (FreshKey w p a) := by
  unfold FreshKey
  split <;> infer_instance

/-- A call that draws no reference keeps the references distinct. -/
theorem Distinct.of_calls (h : Distinct s) (hhex : s'.gateway.hex = s.gateway.hex)
    (hdrawn : s'.gateway.drawn = s.gateway.drawn)
    (hcalls : ∀ b req result, .authorize b req (.ok result) ∈ s'.calls →
      .authorize b req (.ok result) ∈ s.calls) : Distinct s' := by
  refine ⟨fun b req result hmem => ?_, fun b req result b' req' result' hmem hmem' href => ?_⟩
  · rw [hhex, hdrawn]
    exact h.drawn b req result (hcalls b req result hmem)
  · exact h.once b req result b' req' result' (hcalls _ _ _ hmem) (hcalls _ _ _ hmem') href

/-- A charge under a fresh key keeps the references distinct. -/
theorem Distinct.authorized (h : Distinct s) {σ : Saga} {pay : Payment}
    (hkey : pay.idempotencyKey ∉ s.gateway.authorizations.map Prod.fst) :
    Distinct (s.authorized σ pay) := by
  have hfresh : (authorizeRequest σ pay).idempotencyKey ∉ s.gateway.authorizations.map Prod.fst :=
    hkey
  obtain ⟨hout, hhex⟩ := FakePaymentGateway.authorize_of_fresh hfresh
  rcases hout with ⟨⟨e, herr⟩, hdrawn⟩ | ⟨hok, hdrawn⟩
  · refine h.of_calls hhex hdrawn fun b req result hmem => ?_
    rcases List.mem_cons.mp hmem with heq | hmem
    · have hout : Except.ok result = (s.gateway.authorize (authorizeRequest σ pay)).1 :=
        (GatewayCall.authorize.inj heq).2.2
      rw [herr] at hout
      exact absurd hout (by simp)
    · exact hmem
  · have hcases : ∀ b req result, .authorize b req (.ok result) ∈ (s.authorized σ pay).calls →
        .authorize b req (.ok result) ∈ s.calls ∨
          b = σ.bookingId ∧ req = authorizeRequest σ pay ∧
            result.providerRef = "auth_" ++ s.gateway.hex s.gateway.drawn := by
      intro b req result hmem
      rcases List.mem_cons.mp hmem with heq | hmem
      · obtain ⟨hb, hreq, hout⟩ := GatewayCall.authorize.inj heq
        have hres : result = s.gateway.newResult (authorizeRequest σ pay) :=
          Except.ok.inj (hout.trans hok)
        exact .inr ⟨hb, hreq, hres ▸ FakePaymentGateway.newResult_providerRef _ _⟩
      · exact .inl hmem
    have hnew : ∀ b req result, .authorize b req (.ok result) ∈ s.calls →
        result.providerRef ≠ "auth_" ++ s.gateway.hex s.gateway.drawn := by
      intro b req result hmem href
      obtain ⟨n, hn, hn'⟩ := h.drawn b req result hmem
      rw [hn', String.append_right_inj] at href
      exact hn.ne (s.gateway.hex_injective href)
    have hnext : (s.authorized σ pay).gateway.drawn = s.gateway.drawn + 1 := hdrawn
    have hsame : (s.authorized σ pay).gateway.hex = s.gateway.hex := hhex
    refine ⟨fun b req result hmem => ?_, fun b req result b' req' result' hmem hmem' href => ?_⟩
    · rw [hnext, hsame]
      rcases hcases b req result hmem with hmem | ⟨-, -, href⟩
      · obtain ⟨n, hn, hn'⟩ := h.drawn b req result hmem
        exact ⟨n, by omega, hn'⟩
      · exact ⟨s.gateway.drawn, by omega, href⟩
    · rcases hcases b req result hmem with hmem | ⟨rfl, rfl, hr⟩ <;>
        rcases hcases b' req' result' hmem' with hmem' | ⟨rfl, rfl, hr'⟩
      · exact h.once b req result b' req' result' hmem hmem' href
      · exact absurd (href.trans hr') (hnew _ _ _ hmem)
      · exact absurd (href.symm.trans hr) (hnew _ _ _ hmem')
      · exact ⟨rfl, rfl⟩

/-- One step under a fresh key keeps the references distinct. -/
theorem Step.distinct {P P' : Proc} {a : Input} (h : Step env s p P a s' P') (hd : Distinct s)
    (hkey : ∀ r σ pay, P = .booking r (.authorize σ pay) ∨ P = .booking r (.retryAuthorize σ pay) →
      pay.idempotencyKey ∉ s.gateway.authorizations.map Prod.fst) : Distinct s' := by
  cases h.gatewayUse with
  | quiet hc hg => exact hd.of_calls (by rw [hg]) (by rw [hg]) fun b req result hmem => hc ▸ hmem
  | @authorizes r pc σ pay hpc =>
    exact hd.authorized (hkey r σ pay (hpc.imp (congrArg _) (congrArg _)))
  | @reverses r σ pay reason =>
    have hcall : ∀ b req result, (reverseOutcome s r σ pay).2 ≠ .authorize b req (.ok result) := by
      intro b req result
      unfold reverseOutcome reverseCharge
      dsimp only
      split <;> simp
    have harm : (armed s.gateway r.payload.cardToken pay).hex = s.gateway.hex ∧
        (armed s.gateway r.payload.cardToken pay).drawn = s.gateway.drawn := by
      unfold armed
      dsimp only [PaymentGateway.armRefundFailure]
      split <;> exact ⟨rfl, rfl⟩
    have hout : (reverseOutcome s r σ pay).1.2.hex = s.gateway.hex ∧
        (reverseOutcome s r σ pay).1.2.drawn = s.gateway.drawn := by
      unfold reverseOutcome reverseCharge
      dsimp only [PaymentGateway.refund, PaymentGateway.void, FakePaymentGateway.void,
        FakePaymentGateway.refund]
      split
      · split <;> exact harm
      · exact harm
    refine hd.of_calls hout.1 hout.2 fun b req result hmem => ?_
    rcases List.mem_cons.mp hmem with heq | hmem
    · exact absurd heq.symm (hcall b req result)
    · exact hmem
  | captures =>
    refine hd.of_calls rfl rfl fun b req result hmem => ?_
    rcases List.mem_cons.mp hmem with heq | hmem
    · exact absurd heq (by simp)
    · exact hmem
  | @refunds r b state pay =>
    have hout : (refundOutcome s pay).2.hex = s.gateway.hex ∧
        (refundOutcome s pay).2.drawn = s.gateway.drawn := by
      unfold refundOutcome
      dsimp only [PaymentGateway.refund, FakePaymentGateway.refund]
      split <;> exact ⟨rfl, rfl⟩
    refine hd.of_calls hout.1 hout.2 fun b req result hmem => ?_
    rcases List.mem_cons.mp hmem with heq | hmem
    · exact absurd heq (by simp)
    · exact hmem

/-- Each booking is paid for by a charge of its own. -/
structure OneCharge (s : Shared FakePaymentGateway) : Prop where
  /-- No authorization backs two bookings. -/
  apart : ∀ r ∈ s.db.payments, ∀ r' ∈ s.db.payments, ∀ ref, r.providerRef = some ref →
    r'.providerRef = some ref → r.bookingId = r'.bookingId
  /-- The authorization was made by a call for the booking's own card, amount and
  currency, and by no other call. -/
  own : ∀ r ∈ s.db.payments, ∀ ref, r.providerRef = some ref →
    ∃ row, s.db.booking r.bookingId = some row ∧
      Backed s.calls r.bookingId
        ⟨r.cardToken, row.totalAmount, row.currency, r.idempotencyKey⟩ ref ∧
      ∀ b req, Backed s.calls b req ref → b = r.bookingId ∧
        req = ⟨r.cardToken, row.totalAmount, row.currency, r.idempotencyKey⟩
  /-- It was not voided or refunded for another booking. -/
  unspent : ∀ r ∈ s.db.payments, ∀ ref, r.providerRef = some ref →
    ∀ c ∈ s.calls, c.reversed? = some ref → c.booking = r.bookingId

theorem oneCharge_of_ledger (hl : Ledger s) (hd : Distinct s) : OneCharge s := by
  have hsame : ∀ {b b' : BookingId} {req req' : AuthorizeRequest} {ref : String},
      Backed s.calls b req ref → Backed s.calls b' req' ref → b = b' ∧ req = req' := by
    rintro b b' req req' ref ⟨result, hmem, href⟩ ⟨result', hmem', href'⟩
    exact hd.once b req result b' req' result' hmem hmem' (href.trans href'.symm)
  refine ⟨fun r hr r' hr' ref h h' => ?_, fun r hr ref h => ?_, fun r hr ref h c hc hrev => ?_⟩
  · exact (hsame (hl.backed r hr ref h) (hl.backed r' hr' ref h')).1
  · obtain ⟨row, hrow, ham, hcur⟩ := hl.priced r hr
    have hback := hl.backed r hr ref h
    unfold Payment.request at hback
    rw [ham, hcur] at hback
    exact ⟨row, hrow, hback, fun b req hb => hsame hb hback⟩
  · obtain ⟨req, hback⟩ := hl.reversals c hc ref hrev
    exact (hsame hback (hl.backed r hr ref h)).1

/-- **Where every charge goes out under a key the gateway has not answered, each
booking is paid for by a charge of its own**, in every world reached. -/
theorem one_charge {db : Db} {hex : ℕ → String} {hinj : Function.Injective hex} {clock : Time}
    {w : World (Shared FakePaymentGateway) Proc} {as : List (ℕ × Input)} (hdb : db.Initial)
    (h : (service env FakePaymentGateway).Run FreshKey
      (initialWorld db (.fresh hex hinj) clock) as w) : OneCharge w.shared := by
  have hd : Distinct w.shared := by
    refine h.induct (I := fun w => Distinct w.shared) ?_ ?_
    · constructor <;> simp [initialWorld]
    · intro w₁ p a w₂ hd hkey hn
      obtain ⟨s', P', hs, rfl⟩ := System.next_eq_some.mp hn
      refine (step_of hs).distinct hd fun r σ pay hP => ?_
      rcases hP with hP | hP <;> simpa [FreshKey, hP] using hkey
  exact oneCharge_of_ledger (ledger_holds hdb h) hd

/-- Two users take a hold each, on a flight of two seats. -/
def twoHolds : List (ℕ × Input) :=
  asks 1 (.createHold ⟨10, 7, "1A"⟩) 3 (.calm 0) ++ asks 2 (.createHold ⟨20, 7, "2A"⟩) 3 (.calm 0)

/-- They book, one after the other, under the keys `key` and `key'`. -/
def twoBookings (key key' : String) : List (ℕ × Input) :=
  twoHolds ++
    asks 3 (.createBooking ⟨10, key, soloBody 0 "tok_test_aaaa11110000"⟩) 14 (.calm 1) ++
      asks 4 (.createBooking ⟨20, key', soloBody 1 "tok_test_bbbb22220000"⟩) 14 (.calm 2)

/-- With a key each, the two bookings are confirmed on charges of their own. -/
theorem one_charge_two_keys :
    ∃ w, (service demoEnv FakePaymentGateway).Run FreshKey (onSale 2)
        (twoBookings "key-of-ada-00000001" "key-of-bob-00000001") w ∧
      w.shared.db.payments.map Payment.state = [.captured, .captured] ∧ OneCharge w.shared := by
  have hrun : ((service demoEnv FakePaymentGateway).checked FreshKey (onSale 2)
      (twoBookings "key-of-ada-00000001" "key-of-bob-00000001")).any (fun w =>
        decide (w.shared.db.payments.map Payment.state = [.captured, .captured])) = true := by
    decide +kernel
  obtain ⟨w, hw, hpaid⟩ := System.exists_run_of_checked hrun
  exact ⟨w, hw, of_decide_eq_true hpaid, one_charge (Db.seeded_initial ..) hw⟩

/-- **Two users who pick the same key share one authorization**: both bookings are
confirmed, on the first user's card. -/
theorem shared_charge :
    ∃ w, (service demoEnv FakePaymentGateway).Run (fun _ _ _ => True) (onSale 2)
        (twoBookings "shared-key-00000001" "shared-key-00000001") w ∧
      w.shared.db.payments.map Payment.state = [.captured, .captured] ∧
        ¬ OneCharge w.shared := by
  have hrun : ((service demoEnv FakePaymentGateway).checked (fun _ _ _ => True) (onSale 2)
      (twoBookings "shared-key-00000001" "shared-key-00000001")).any (fun w =>
        decide (w.shared.db.payments.map Payment.state = [.captured, .captured] ∧
          ∃ r ∈ w.shared.db.payments, ∃ r' ∈ w.shared.db.payments,
            r.providerRef = some "auth_" ∧ r'.providerRef = some "auth_" ∧
              r.bookingId ≠ r'.bookingId)) = true := by
    decide +kernel
  obtain ⟨w, hw, hpaid⟩ := System.exists_run_of_checked hrun
  obtain ⟨hstates, r, hr, r', hr', href, href', hne⟩ := of_decide_eq_true hpaid
  exact ⟨w, hw, hstates, fun h => hne (h.apart r hr r' hr' "auth_" href href')⟩

end Fake

end SkyLock
