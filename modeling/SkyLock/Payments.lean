import Mathlib.Data.Finset.Insert
import SkyLock.Models

/-!
# The payment gateway

The gateway protocol of `app/services/payments/base.py`, the card-token triggers
of `app/services/demo_triggers.py`, and the in-process gateway of
`app/services/payments/fake.py`.

The protocol is a class over the gateway's own state, so a statement about every
gateway quantifies over every sequence of outcomes.  `GatewayCall` is the record
of one call with its outcome; the saga does not read it, the statements do.

## Main definitions

* `PaymentGateway` — the protocol.
* `Trigger`, `triggerFor` — what a card token asks of the demo services.
* `FakePaymentGateway` — the gateway that dedupes by idempotency key.
* `GatewayCall` — one call, as the history lists it.
-/

namespace SkyLock

/-! ### The protocol -/

/-- `AuthorizationResult`. -/
structure AuthorizationResult where
  providerRef : String
  approved : Bool
  failureCode : Option String
  message : Option String
  deriving DecidableEq, Repr, Inhabited

/-- `PaymentTimeout`: the gateway did not answer. -/
inductive PaymentTimeout where
  | noAnswer
  deriving DecidableEq, Repr

/-- What reversing a charge can raise. -/
inductive ReversalError where
  /-- `RefundFailed`. -/
  | refundFailed (message : String)
  /-- `PaymentTimeout`. -/
  | paymentTimeout
  deriving DecidableEq, Repr

/-- The text of a reversal error. -/
def ReversalError.message : ReversalError → String
  | .refundFailed m => m
  | .paymentTimeout => "gateway did not respond within the deadline"

/-- The arguments of `authorize` that decide its outcome. -/
structure AuthorizeRequest where
  cardToken : String
  amount : Cents
  currency : String
  idempotencyKey : String
  deriving DecidableEq, Repr, Inhabited

/-- `PaymentGateway`: every method returns its outcome and the gateway's next
state, which it may have changed even where it raised. -/
class PaymentGateway (G : Type) where
  name : String
  authorize : G → AuthorizeRequest → Except PaymentTimeout AuthorizationResult × G
  capture : G → (providerRef idempotencyKey : String) →
    Except PaymentTimeout AuthorizationResult × G
  void : G → (providerRef idempotencyKey : String) → Except ReversalError Unit × G
  refund : G → (providerRef : String) → (amount : Cents) → (idempotencyKey : String) →
    Except ReversalError Unit × G
  /-- `arm_refund_failure`, for a gateway that has it. -/
  armRefundFailure : Option (G → String → G)

/-! ### Triggers -/

/-- `Trigger`. -/
inductive Trigger where
  | approve
  | declineInsufficientFunds
  | declineDoNotHonor
  | ticketingFailure
  | gatewayTimeoutThenOk
  | refundFailure
  deriving DecidableEq, Repr, Inhabited

/-- `SUFFIX_TRIGGERS`. -/
def suffixTriggers : List (String × Trigger) :=
  [("0000", .approve),
    ("0002", .declineInsufficientFunds),
    ("0069", .declineDoNotHonor),
    ("9995", .ticketingFailure),
    ("0119", .gatewayTimeoutThenOk),
    ("5309", .refundFailure)]

/-- `DECLINE_CODES`. -/
def declineCodes : Trigger → Option String
  | .declineInsufficientFunds => some "insufficient_funds"
  | .declineDoNotHonor => some "do_not_honor"
  | _ => none

/-- Python's `text[-4:]`. -/
def last4 (text : String) : String :=
  String.ofList (text.toList.drop (text.toList.length - 4))

/-- `trigger_for`. -/
def triggerFor (cardToken : String) : Trigger :=
  (suffixTriggers.lookup (last4 cardToken)).getD .approve

example : triggerFor "tok_test_aaaa11110119" = .gatewayTimeoutThenOk := by decide

/-! ### The fake gateway -/

/-- `FakePaymentGateway`.  `hex` is the stream of `uuid.uuid4().hex[:16]` draws,
in which no value comes twice, and `drawn` counts those taken so far. -/
structure FakePaymentGateway where
  hex : ℕ → String
  hex_injective : Function.Injective hex
  drawn : ℕ
  authorizations : List (String × AuthorizationResult)
  timedOutOnce : Finset String
  captured : Finset String
  voided : Finset String
  refunded : Finset String
  refundFailures : Finset String

namespace FakePaymentGateway

/-- A gateway that has not been called. -/
def fresh (hex : ℕ → String) (h : Function.Injective hex) : FakePaymentGateway :=
  ⟨hex, h, 0, [], ∅, ∅, ∅, ∅, ∅⟩

/-- The provider reference the next new authorization gets. -/
def nextRef (g : FakePaymentGateway) : String := "auth_" ++ g.hex g.drawn

/-- The result of a new authorization of the card. -/
def newResult (g : FakePaymentGateway) (r : AuthorizeRequest) : AuthorizationResult :=
  match declineCodes (triggerFor r.cardToken) with
  | some code => ⟨g.nextRef, false, some code, some ("card declined (" ++ code ++ ")")⟩
  | none => ⟨g.nextRef, true, none, some ("authorized " ++ amountText r.amount ++ " " ++ r.currency)⟩

/-- `FakePaymentGateway.authorize`. -/
def authorize (g : FakePaymentGateway) (r : AuthorizeRequest) :
    Except PaymentTimeout AuthorizationResult × FakePaymentGateway :=
  match g.authorizations.lookup r.idempotencyKey with
  | some result => (.ok result, g)
  | none =>
    if triggerFor r.cardToken = .gatewayTimeoutThenOk ∧ r.idempotencyKey ∉ g.timedOutOnce then
      (.error .noAnswer, { g with timedOutOnce := insert r.idempotencyKey g.timedOutOnce })
    else
      (.ok (g.newResult r),
        { g with
          drawn := g.drawn + 1
          authorizations := (r.idempotencyKey, g.newResult r) :: g.authorizations })

/-- A key it has not answered has no answer kept under it. -/
theorem lookup_eq_none {g : FakePaymentGateway} {r : AuthorizeRequest}
    (h : r.idempotencyKey ∉ g.authorizations.map Prod.fst) :
    g.authorizations.lookup r.idempotencyKey = none := by
  rw [List.lookup_eq_none_iff]
  intro entry hentry
  rw [bne_iff_ne]
  intro hkey
  exact h (hkey ▸ List.mem_map_of_mem hentry)

/-- `FakePaymentGateway.capture`. -/
def capture (g : FakePaymentGateway) (providerRef _idempotencyKey : String) :
    Except PaymentTimeout AuthorizationResult × FakePaymentGateway :=
  (.ok ⟨providerRef, true, none, some "captured"⟩,
    { g with captured := insert providerRef g.captured })

/-- `FakePaymentGateway.void`. -/
def void (g : FakePaymentGateway) (providerRef _idempotencyKey : String) :
    Except ReversalError Unit × FakePaymentGateway :=
  (.ok (), { g with voided := insert providerRef g.voided })

/-- `FakePaymentGateway.refund`. -/
def refund (g : FakePaymentGateway) (providerRef : String) (_amount : Cents)
    (_idempotencyKey : String) : Except ReversalError Unit × FakePaymentGateway :=
  if providerRef ∈ g.refundFailures then
    (.error (.refundFailed ("refund rejected for " ++ providerRef)), g)
  else (.ok (), { g with refunded := insert providerRef g.refunded })

/-- `FakePaymentGateway.arm_refund_failure`. -/
def armRefundFailure (g : FakePaymentGateway) (providerRef : String) : FakePaymentGateway :=
  { g with refundFailures := insert providerRef g.refundFailures }

/-- `FakePaymentGateway.authorization_count`. -/
def authorizationCount (g : FakePaymentGateway) : ℕ := g.authorizations.length

end FakePaymentGateway

instance : PaymentGateway FakePaymentGateway where
  name := "fake"
  authorize := FakePaymentGateway.authorize
  capture := FakePaymentGateway.capture
  void := FakePaymentGateway.void
  refund := FakePaymentGateway.refund
  armRefundFailure := some FakePaymentGateway.armRefundFailure

/-! ### The history of calls -/

/-- One call of a gateway method, with the booking it was made for and its
outcome. -/
inductive GatewayCall where
  | authorize (booking : BookingId) (request : AuthorizeRequest)
      (result : Except PaymentTimeout AuthorizationResult)
  | capture (booking : BookingId) (providerRef : String) (succeeded : Bool)
  | void (booking : BookingId) (providerRef : String) (succeeded : Bool)
  | refund (booking : BookingId) (providerRef : String) (amount : Cents) (succeeded : Bool)

/-- A call returned normally. -/
def succeeded {ε α : Type} : Except ε α → Bool
  | .ok _ => true
  | .error _ => false

end SkyLock
