import SkyLock.Fares

/-!
# Conversations with the gateway

What is said to the gateway about one booking follows a protocol.  A charge is asked for
once, and once more, in the same words, if the gateway did not answer; after a decline, or
two silences, nothing more is said.  An approved charge is voided, and then nothing more is
said; or it is captured at most once and refunded in full, any number of times, since two
cancellations can overlap.  Everything said about it names the reference it was answered
with.

## Main definitions

* `Conversation`, `Conversation.next`, `conversation` — where a conversation stands, and
  what may be said next.
* `BookingState.Fits` — where it stands when a booking is in a state.

## Main results

* `Heard.of_conversation` — what the calls of a conversation say of where it stands.
* `conversations_follow` — **every conversation follows the protocol**, and the booking is in
  a state that fits it.
-/

namespace SkyLock

open Concurrent

/-! ### The protocol -/

/-- Where the conversation about a booking stands. -/
inductive Conversation where
  | unasked
  /-- The gateway did not answer the request. -/
  | unanswered (req : AuthorizeRequest)
  /-- The gateway did not answer twice. -/
  | abandoned
  | declined
  /-- The request was approved, under the reference. -/
  | approved (req : AuthorizeRequest) (ref : String) (captured refunded : Bool)
  | voided
  deriving DecidableEq, Repr

namespace Conversation

/-- Where an answer to a request leaves the conversation. -/
def answered (req : AuthorizeRequest) (result : AuthorizationResult) : Conversation :=
  if result.approved then approved req result.providerRef false false else declined

/-- Where a call leaves the conversation, if it may be made. -/
def next : Conversation → GatewayCall → Option Conversation
  | unasked, .authorize _ req (.ok result) => some (answered req result)
  | unasked, .authorize _ req (.error _) => some (unanswered req)
  | unanswered req, .authorize _ req' (.ok result) =>
    if req' = req then some (answered req result) else none
  | unanswered req, .authorize _ req' (.error _) => if req' = req then some abandoned else none
  | approved req ref false refunded, .capture _ ref' _ =>
    if ref' = ref then some (approved req ref true refunded) else none
  | approved req ref captured _, .refund _ ref' amount _ =>
    if ref' = ref ∧ amount = req.amount then some (approved req ref captured true) else none
  | approved _ ref false false, .void _ ref' _ => if ref' = ref then some voided else none
  | _, _ => none

end Conversation

/-- Where the conversation stands after the calls, the latest first, if each of them could
be made. -/
def conversation : List GatewayCall → Option Conversation
  | [] => some .unasked
  | c :: calls => (conversation calls).bind fun v => v.next c

/-- The charge was approved, and is not voided. -/
def ChargeStands (calls : List GatewayCall) : Prop :=
  ∃ req ref captured refunded, conversation calls = some (.approved req ref captured refunded)

section Protocol

variable {calls : List GatewayCall} {c : GatewayCall} {v v' : Conversation} {b : BookingId}
  {req : AuthorizeRequest} {result : AuthorizationResult} {ref : String}

/-- What the calls that were made say of where the conversation stands. -/
structure Heard (calls : List GatewayCall) (v : Conversation) : Prop where
  authorized : ∀ b req result, .authorize b req (.ok result) ∈ calls →
    (result.approved = false ∧ v = .declined) ∨
      result.approved = true ∧ (v = .voided ∨
        ∃ captured refunded, v = .approved req result.providerRef captured refunded)
  captured : ∀ b ref ok, .capture b ref ok ∈ calls →
    ∃ req refunded, v = .approved req ref true refunded
  refunded : ∀ b ref amount ok, .refund b ref amount ok ∈ calls →
    ∃ req captured, v = .approved req ref captured true ∧ amount = req.amount
  voided : ∀ b ref ok, .void b ref ok ∈ calls → v = .voided

/-- What may be said, case by case. -/
inductive Utters : Conversation → GatewayCall → Conversation → Prop
  | asks {b : BookingId} {req : AuthorizeRequest} {result : AuthorizationResult} :
      Utters .unasked (.authorize b req (.ok result)) (.answered req result)
  | asksInVain {b : BookingId} {req : AuthorizeRequest} {e : PaymentTimeout} :
      Utters .unasked (.authorize b req (.error e)) (.unanswered req)
  | asksAgain {b : BookingId} {req : AuthorizeRequest} {result : AuthorizationResult} :
      Utters (.unanswered req) (.authorize b req (.ok result)) (.answered req result)
  | givesUp {b : BookingId} {req : AuthorizeRequest} {e : PaymentTimeout} :
      Utters (.unanswered req) (.authorize b req (.error e)) .abandoned
  | captures {b : BookingId} {req : AuthorizeRequest} {ref : String} {ok refunded : Bool} :
      Utters (.approved req ref false refunded) (.capture b ref ok) (.approved req ref true refunded)
  | refunds {b : BookingId} {req : AuthorizeRequest} {ref : String} {ok captured refunded : Bool} :
      Utters (.approved req ref captured refunded) (.refund b ref req.amount ok)
        (.approved req ref captured true)
  | voids {b : BookingId} {req : AuthorizeRequest} {ref : String} {ok : Bool} :
      Utters (.approved req ref false false) (.void b ref ok) .voided

theorem utters_of_next (h : v.next c = some v') : Utters v c v' := by
  unfold Conversation.next at h
  split at h
  · obtain rfl := Option.some.inj h
    exact .asks
  · obtain rfl := Option.some.inj h
    exact .asksInVain
  · obtain ⟨rfl, rfl⟩ := by simpa using h
    exact .asksAgain
  · obtain ⟨rfl, rfl⟩ := by simpa using h
    exact .givesUp
  · obtain ⟨rfl, rfl⟩ := by simpa using h
    exact .captures
  · obtain ⟨⟨rfl, rfl⟩, rfl⟩ := by simpa using h
    exact .refunds
  · obtain ⟨rfl, rfl⟩ := by simpa using h
    exact .voids
  · simp at h

/-- Only a void leaves a charge voided. -/
theorem void_of_utters (h : Utters v c .voided) : ∃ b ref ok, c = .void b ref ok := by
  generalize hv' : Conversation.voided = v' at h
  cases h with
  | @asks b req result | @asksAgain b req result =>
    unfold Conversation.answered at hv'
    split at hv' <;> simp at hv'
  | asksInVain | givesUp | captures | refunds => simp at hv'
  | voids => exact ⟨_, _, _, rfl⟩

/-- An answer to a request decides whether there is a charge. -/
theorem Conversation.answered_cases (req : AuthorizeRequest) (result : AuthorizationResult) :
    result.approved = false ∧ answered req result = .declined ∨
      result.approved = true ∧
        answered req result = .approved req result.providerRef false false := by
  unfold answered
  cases result.approved
  · exact .inl ⟨rfl, rfl⟩
  · exact .inr ⟨rfl, rfl⟩

/-- Before the answer nothing but the request was said. -/
theorem Heard.unheard (h : Heard calls v) (hv : v = .unasked ∨ ∃ req, v = .unanswered req) :
    ∀ c ∈ calls, ∃ b req e, c = .authorize b req (.error e) := by
  intro c hc
  cases c with
  | authorize b req out =>
    cases out with
    | error e => exact ⟨b, req, e, rfl⟩
    | ok result =>
      exfalso
      rcases h.authorized b req result hc with ⟨-, rfl⟩ | ⟨-, rfl | ⟨_, _, rfl⟩⟩ <;> simp at hv
  | capture b ref ok =>
    obtain ⟨_, _, rfl⟩ := h.captured b ref ok hc
    simp at hv
  | refund b ref amount ok =>
    obtain ⟨_, _, rfl, -⟩ := h.refunded b ref amount ok hc
    simp at hv
  | void b ref ok =>
    rw [h.voided b ref ok hc] at hv
    simp at hv

/-- While nothing was answered, nothing is heard. -/
theorem Heard.of_unheard (h : ∀ c ∈ calls, ∃ b req e, c = .authorize b req (.error e)) :
    Heard calls v where
  authorized b req result hmem := by
    obtain ⟨_, _, _, heq⟩ := h _ hmem
    simp at heq
  captured b ref ok hmem := by
    obtain ⟨_, _, _, heq⟩ := h _ hmem
    simp at heq
  refunded b ref amount ok hmem := by
    obtain ⟨_, _, _, heq⟩ := h _ hmem
    simp at heq
  voided b ref ok hmem := by
    obtain ⟨_, _, _, heq⟩ := h _ hmem
    simp at heq

/-- The first answer is heard. -/
theorem Heard.of_answer (h : ∀ c ∈ calls, ∃ b req e, c = .authorize b req (.error e)) :
    Heard (.authorize b req (.ok result) :: calls) (.answered req result) where
  authorized b' req' result' hmem := by
    rcases List.mem_cons.mp hmem with heq | hmem
    · obtain ⟨-, rfl, hres⟩ := GatewayCall.authorize.inj heq
      obtain rfl := Except.ok.inj hres
      rcases Conversation.answered_cases req' result' with ⟨hno, heq⟩ | ⟨hyes, heq⟩
      · exact .inl ⟨hno, heq⟩
      · exact .inr ⟨hyes, .inr ⟨false, false, heq⟩⟩
    · exact (Heard.of_unheard h).authorized b' req' result' hmem
  captured b' ref ok hmem :=
    (Heard.of_unheard h).captured b' ref ok (List.mem_of_ne_of_mem (by simp) hmem)
  refunded b' ref amount ok hmem :=
    (Heard.of_unheard h).refunded b' ref amount ok (List.mem_of_ne_of_mem (by simp) hmem)
  voided b' ref ok hmem :=
    (Heard.of_unheard h).voided b' ref ok (List.mem_of_ne_of_mem (by simp) hmem)

/-- What is said is heard. -/
theorem Heard.utters (h : Heard calls v) (hutters : Utters v c v') : Heard (c :: calls) v' := by
  cases hutters with
  -- only the last answer counts: what was said before it was never answered
  | asks => exact .of_answer (h.unheard (.inl rfl))
  | @asksAgain b req result => exact .of_answer (h.unheard (.inr ⟨req, rfl⟩))
  | @asksInVain b req e =>
    refine .of_unheard fun c hc => ?_
    rcases List.mem_cons.mp hc with rfl | hc
    · exact ⟨b, req, e, rfl⟩
    · exact h.unheard (.inl rfl) c hc
  | @givesUp b req e =>
    refine .of_unheard fun c hc => ?_
    rcases List.mem_cons.mp hc with rfl | hc
    · exact ⟨b, req, e, rfl⟩
    · exact h.unheard (.inr ⟨req, rfl⟩) c hc
  | @captures b req ref ok refunded =>
    refine ⟨fun b' req' result hmem => ?_, fun b' ref' ok' hmem => ?_,
      fun b' ref' amount ok' hmem => ?_, fun b' ref' ok' hmem => ?_⟩
    · have hold := h.authorized b' req' result (List.mem_of_ne_of_mem (by simp) hmem)
      simpa using hold
    · rcases List.mem_cons.mp hmem with heq | hmem
      · obtain ⟨-, rfl, -⟩ := GatewayCall.capture.inj heq
        exact ⟨req, refunded, rfl⟩
      · obtain ⟨_, _, heq⟩ := h.captured b' ref' ok' hmem
        simp at heq
    · obtain ⟨_, _, heq, hamount⟩ :=
        h.refunded b' ref' amount ok' (List.mem_of_ne_of_mem (by simp) hmem)
      simp only [Conversation.approved.injEq] at heq
      obtain ⟨rfl, rfl, -, rfl⟩ := heq
      exact ⟨req, true, rfl, hamount⟩
    · have heq := h.voided b' ref' ok' (List.mem_of_ne_of_mem (by simp) hmem)
      simp at heq
  | @refunds b req ref ok captured refunded =>
    refine ⟨fun b' req' result hmem => ?_, fun b' ref' ok' hmem => ?_,
      fun b' ref' amount ok' hmem => ?_, fun b' ref' ok' hmem => ?_⟩
    · have hold := h.authorized b' req' result (List.mem_of_ne_of_mem (by simp) hmem)
      simpa using hold
    · obtain ⟨_, _, heq⟩ := h.captured b' ref' ok' (List.mem_of_ne_of_mem (by simp) hmem)
      simp only [Conversation.approved.injEq] at heq
      obtain ⟨rfl, rfl, rfl, -⟩ := heq
      exact ⟨req, true, rfl⟩
    · rcases List.mem_cons.mp hmem with heq | hmem
      · obtain ⟨-, rfl, rfl, -⟩ := GatewayCall.refund.inj heq
        exact ⟨req, captured, rfl, rfl⟩
      · obtain ⟨_, _, heq, hamount⟩ := h.refunded b' ref' amount ok' hmem
        simp only [Conversation.approved.injEq] at heq
        obtain ⟨rfl, rfl, rfl, -⟩ := heq
        exact ⟨req, captured, rfl, hamount⟩
    · have heq := h.voided b' ref' ok' (List.mem_of_ne_of_mem (by simp) hmem)
      simp at heq
  | @voids b req ref ok =>
    refine ⟨fun b' req' result hmem => ?_, fun b' ref' ok' hmem => ?_,
      fun b' ref' amount ok' hmem => ?_, fun _ _ _ _ => rfl⟩
    · have hold := h.authorized b' req' result (List.mem_of_ne_of_mem (by simp) hmem)
      -- whatever stands can only be voided if it was approved
      have hyes : result.approved = true := by
        rcases hold with ⟨-, heq⟩ | ⟨hyes, -⟩
        · simp at heq
        · exact hyes
      exact .inr ⟨hyes, .inl rfl⟩
    · obtain ⟨_, _, heq⟩ := h.captured b' ref' ok' (List.mem_of_ne_of_mem (by simp) hmem)
      simp at heq
    · obtain ⟨_, _, heq, -⟩ :=
        h.refunded b' ref' amount ok' (List.mem_of_ne_of_mem (by simp) hmem)
      simp at heq

/-- **The calls of a conversation say where it stands.** -/
theorem Heard.of_conversation (h : conversation calls = some v) : Heard calls v := by
  induction calls generalizing v with
  | nil => exact .of_unheard (by simp)
  | cons c calls ih =>
    obtain ⟨v₀, hv₀, hnext⟩ := Option.bind_eq_some_iff.mp h
    exact (ih hv₀).utters (utters_of_next hnext)

theorem ChargeStands.call (h : ChargeStands calls) (hc : ∀ b ref ok, c ≠ .void b ref ok)
    (hnext : (conversation (c :: calls)).isSome) : ChargeStands (c :: calls) := by
  obtain ⟨req, ref, captured, refunded, hv⟩ := h
  obtain ⟨v', hv'⟩ := Option.isSome_iff_exists.mp hnext
  have hutters : Utters (.approved req ref captured refunded) c v' := by
    simp only [conversation, hv, Option.bind_some] at hv'
    exact utters_of_next hv'
  cases hutters with
  | captures => exact ⟨_, _, _, _, hv'⟩
  | refunds => exact ⟨_, _, _, _, hv'⟩
  | voids => exact absurd rfl (hc _ _ _)

theorem ChargeStands.not_voided (h : ChargeStands calls) : conversation calls ≠ some .voided := by
  obtain ⟨req, ref, captured, refunded, hv⟩ := h
  simp [hv]

/-- A conversation that an answer has just ended stands where the answer left it. -/
theorem Answered.conversation_eq (h : Answered b req result calls)
    (hsome : (conversation calls).isSome) :
    conversation calls = some (.answered req result) := by
  obtain ⟨cs, rfl, -⟩ := h
  obtain ⟨v, hv⟩ := Option.isSome_iff_exists.mp hsome
  obtain ⟨v₀, -, hnext⟩ := Option.bind_eq_some_iff.mp hv
  rw [hv]
  cases utters_of_next hnext <;> rfl

theorem Answered.not_voided (h : Answered b req result calls) :
    conversation calls ≠ some .voided := by
  intro hvoided
  have hanswered := h.conversation_eq (by simp [hvoided])
  rw [hvoided] at hanswered
  rcases Conversation.answered_cases req result with ⟨-, heq⟩ | ⟨-, heq⟩ <;> simp [heq] at hanswered

theorem Answered.stands (h : Answered b req result calls) (happroved : result.approved = true)
    (hsome : (conversation calls).isSome) :
    conversation calls = some (.approved req result.providerRef false false) := by
  rw [h.conversation_eq hsome, Conversation.answered, if_pos happroved]

/-- Where a charge was approved, it stands or it is voided. -/
theorem ApprovedCharge.stands (h : ApprovedCharge calls b req ref)
    (hsome : (conversation calls).isSome) :
    ChargeStands calls ∨ conversation calls = some .voided := by
  obtain ⟨v, hv⟩ := Option.isSome_iff_exists.mp hsome
  obtain ⟨result, hmem, happroved, -⟩ := h
  rcases (Heard.of_conversation hv).authorized b req result hmem with
    ⟨hno, -⟩ | ⟨-, rfl | ⟨captured, refunded, rfl⟩⟩
  · rw [happroved] at hno
    simp at hno
  · exact .inr hv
  · exact .inl ⟨_, _, _, _, hv⟩

/-- A charge that stands, or is voided, was approved. -/
theorem approved_of_conversation (h : conversation calls = some v)
    (hv : v = .voided ∨ ∃ req ref captured refunded, v = .approved req ref captured refunded) :
    ∃ b req result, .authorize b req (.ok result) ∈ calls ∧ result.approved = true := by
  induction calls generalizing v with
  | nil =>
    obtain rfl : Conversation.unasked = v := Option.some.inj h
    simp at hv
  | cons c calls ih =>
    obtain ⟨v₀, hv₀, hnext⟩ := Option.bind_eq_some_iff.mp h
    have hbefore : (∃ req ref captured refunded, v₀ = .approved req ref captured refunded) →
        ∃ b req result, .authorize b req (.ok result) ∈ c :: calls ∧ result.approved = true := by
      intro hstands
      obtain ⟨b, req, result, hmem, happroved⟩ := ih hv₀ (.inr hstands)
      exact ⟨b, req, result, List.mem_cons_of_mem _ hmem, happroved⟩
    cases utters_of_next hnext with
    | @asks b req result | @asksAgain b req result =>
      rcases Conversation.answered_cases req result with ⟨-, heq⟩ | ⟨happroved, -⟩
      · simp [heq] at hv
      · exact ⟨b, req, result, List.mem_cons_self, happroved⟩
    | asksInVain | givesUp => simp at hv
    | captures | refunds | voids => exact hbefore ⟨_, _, _, _, rfl⟩

end Protocol

/-- What was captured stands. -/
theorem stands_of_capture {calls : List GatewayCall} {b : BookingId} {ref : String} {ok : Bool}
    (h : .capture b ref ok ∈ calls) (hsome : (conversation calls).isSome) : ChargeStands calls := by
  obtain ⟨v, hv⟩ := Option.isSome_iff_exists.mp hsome
  obtain ⟨req, refunded, rfl⟩ := (Heard.of_conversation hv).captured b ref ok h
  exact ⟨_, _, _, _, hv⟩

/-! ### What the processes know -/

/-- What a `create_booking` request knows of the conversation it has started. -/
def BookingPc.Spoken (V : View) : BookingPc → Prop
  | .journalUnknown σ pay | .retryAuthorize σ pay =>
    conversation V.calls = some (.unanswered (authorizeRequest σ pay))
  | .capture _ pay => ∃ req refunded,
    conversation V.calls = some (.approved req (pay.providerRef.getD "") false refunded)
  | .confirm _ _ | .refresh _ => ChargeStands V.calls
  | _ => True

theorem BookingPc.Spoken.of_calls {pc : BookingPc} {V V' : View} (h : pc.Spoken V)
    (hcalls : V'.calls = V.calls) : pc.Spoken V' := by
  unfold BookingPc.Spoken at h ⊢
  rw [hcalls]
  exact h

/-- What a process knows of a conversation. -/
def Proc.Spoken {G : Type} (s : Shared G) : Proc → Prop
  | .booking _ pc => ∀ b, pc.booking? = some b → pc.Spoken (s.view b)
  | .cancel _ pc => ∀ b, pc.booking? = some b → ChargeStands (s.callsOf b)
  | _ => True

/-- The conversation follows the protocol, and after a void the booking is on its way out. -/
structure View.Spoken (V : View) : Prop where
  follows : (conversation V.calls).isSome
  voided : conversation V.calls = some .voided → ∀ row, V.row = some row →
    row.state = .compensating ∨ row.state = .voided ∨ row.state = .needsManualReview

/-- The charge of a booking that can be cancelled stands. -/
theorem View.Spoken.stands {V : View} {b : BookingId} (h : V.Spoken) (hv : V.Vouched b)
    {row : Booking} (hrow : V.row = some row)
    (hstate : row.state = .confirmed ∨ row.state = .ticketed) : ChargeStands V.calls := by
  have hvouched := hv.row row hrow
  rcases hstate with hstate | hstate
  · rw [hstate] at hvouched
    obtain ⟨ref, hcapture⟩ := hvouched
    exact stands_of_capture hcapture h.follows
  · rw [hstate] at hvouched
    obtain ⟨req, ref, happroved⟩ := hvouched
    rcases happroved.stands h.follows with hstands | hvoided
    · exact hstands
    · have hout := h.voided hvoided row hrow
      simp [hstate] at hout

section Steps

variable {G : Type} [PaymentGateway G] {env : Env} {s s' : Shared G} {p : ℕ} {P P' : Proc}
  {a : Input} {b : BookingId}

/-- The call a process is about to make, and for which booking. -/
inductive Proc.Calls (s : Shared G) : Proc → BookingId → GatewayCall → Prop
  | authorizes {r : BookingRequest} {pc : BookingPc} {σ : Saga} {pay : Payment}
      (hpc : pc = .authorize σ pay ∨ pc = .retryAuthorize σ pay) :
      Calls s (.booking r pc) σ.bookingId
        (.authorize σ.bookingId (authorizeRequest σ pay) (authorizeOutcome s σ pay).1)
  | reverses {r : BookingRequest} {σ : Saga} {pay : Payment} {reason : String} :
      Calls s (.booking r (.reverse σ pay reason)) σ.bookingId (reverseOutcome s r σ pay).2
  | captures {r : BookingRequest} {σ : Saga} {pay : Payment} :
      Calls s (.booking r (.capture σ pay)) σ.bookingId
        (.capture σ.bookingId (pay.providerRef.getD "") (succeeded (captureOutcome s pay).1))
  | refunds {r : CancelRequest} {b : BookingId} {state : BookingState} {pay : Payment} :
      Calls s (.cancel r (.refund b state pay)) b
        (.refund b (pay.providerRef.getD "") pay.amount (succeeded (refundOutcome s pay).1))

/-- **A step says at most one thing about a booking.** -/
theorem Step.calls_cases (h : Step env s p P a s' P') (b : BookingId) :
    s'.callsOf b = s.callsOf b ∨
      ∃ c, s'.callsOf b = c :: s.callsOf b ∧ P.Calls s b c := by
  have hsaid : ∀ {t : Shared G} {g : G} {c : GatewayCall} {b' : BookingId}, P.Calls s b' c →
      c.booking = b' → t = s.called g c → t.callsOf b = s.callsOf b ∨
        ∃ c, t.callsOf b = c :: s.callsOf b ∧ P.Calls s b c := by
    rintro t g c b' hcalls rfl rfl
    by_cases hb : c.booking = b
    · subst hb
      exact .inr ⟨c, Shared.callsOf_called rfl, hcalls⟩
    · exact .inl (Shared.callsOf_called_of_ne hb)
  cases h.gatewayUse with
  | quiet hc => exact .inl (by rw [Shared.callsOf, hc, Shared.callsOf])
  | authorizes hpc => exact hsaid (.authorizes hpc) rfl rfl
  | reverses => exact hsaid .reverses reverseOutcome_booking rfl
  | captures => exact hsaid .captures rfl rfl
  | refunds => exact hsaid .refunds rfl rfl

omit [PaymentGateway G] in
/-- What a refund is asked for is the charge of the booking, all of it. -/
theorem refund_fits {r : CancelRequest} {state : BookingState} {pay : Payment} (hl : Ledger s)
    (ho : (Proc.cancel r (.refund b state pay)).Outline s)
    (hv : (Proc.cancel r (.refund b state pay)).Vouched s) (hstands : ChargeStands (s.callsOf b)) :
    ∃ req captured refunded, conversation (s.callsOf b) =
      some (.approved req (pay.providerRef.getD "") captured refunded) ∧
        pay.amount = req.amount := by
  obtain ⟨req, ref, captured, refunded, hconv⟩ := hstands
  obtain ⟨-, -, href, -⟩ := (ho b rfl).2.payment pay rfl
  obtain ⟨⟨row, hrow, hlater⟩, -⟩ := hv b rfl
  obtain ⟨hmem, hb⟩ := Db.mem_paymentsOf.mp hrow
  obtain ⟨ref', href'⟩ := Option.isSome_iff_exists.mp href
  obtain ⟨result, hcall, hres⟩ := hl.backed row hmem ref' (hlater.providerRef ref' href')
  have hcall : .authorize row.bookingId row.request (.ok result) ∈ s.callsOf b :=
    List.mem_filter.mpr ⟨hcall, decide_eq_true hb⟩
  have hamount : row.amount = pay.amount := by rw [hlater.columns]
  rcases (Heard.of_conversation hconv).authorized _ _ _ hcall with
    ⟨-, heq⟩ | ⟨-, heq | ⟨_, _, heq⟩⟩
  · simp at heq
  · simp at heq
  · simp only [Conversation.approved.injEq] at heq
    obtain ⟨rfl, rfl, -, -⟩ := heq
    refine ⟨row.request, captured, refunded, ?_, hamount.symm⟩
    rw [hconv, href', hres]
    rfl

/-- **A call goes where the protocol lets it go.** -/
theorem Proc.Calls.fits {c : GatewayCall} (h : P.Calls s b c) (hl : Ledger s) (ho : P.Outline s)
    (hv : P.Vouched s) (hs : P.Spoken s) (hV : (s.view b).Spoken) :
    ((conversation (s.callsOf b)).bind fun v => v.next c).isSome := by
  cases h with
  | @authorizes r pc σ pay hpc =>
    generalize (authorizeOutcome s σ pay).1 = out
    rcases hpc with rfl | rfl
    · obtain ⟨-, -, -, hcalls⟩ := (ho σ.bookingId rfl).2
      rw [Shared.view_calls] at hcalls
      rw [hcalls]
      cases out <;> rfl
    · have hconv : conversation (s.callsOf σ.bookingId) = _ := hs σ.bookingId rfl
      rw [hconv]
      cases out <;> simp [Conversation.next]
  | @reverses r σ pay reason =>
    obtain ⟨-, -, hcharged⟩ := (ho σ.bookingId rfl).2
    obtain ⟨result, happroved, href, hans⟩ := hcharged.answered
    have hconv := hans.stands happroved hV.follows
    rw [Shared.view_calls] at hconv
    rw [hconv, reverseOutcome_call s r σ hcharged.state, href]
    simp [Conversation.next]
  | @captures r σ pay =>
    obtain ⟨req, refunded, hconv⟩ := hs σ.bookingId rfl
    rw [Shared.view_calls] at hconv
    rw [hconv]
    simp [Conversation.next]
  | @refunds r b state pay =>
    obtain ⟨req, captured, refunded, hconv, hamount⟩ := refund_fits hl ho hv (hs b rfl)
    rw [hconv]
    simp [Conversation.next, hamount]

/-- **A step keeps every conversation within the protocol.** -/
theorem Step.call_follows (h : Step env s p P a s' P') (hl : Ledger s) (ho : P.Outline s)
    (hv : P.Vouched s) (hs : P.Spoken s) (hV : (s.view b).Spoken) :
    (conversation (s'.callsOf b)).isSome := by
  rcases h.calls_cases b with heq | ⟨c, heq, hcalls⟩
  · rw [heq]
    exact hV.follows
  · rw [heq]
    exact hcalls.fits hl ho hv hs hV

/-- A saga whose charge is voided only ever moves its booking on the way out. -/
theorem BookingStep.voided_row {r : BookingRequest} {x : Draws} {pc pc' : BookingPc}
    (h : BookingStep env s p r x pc s' pc')
    (ho : ∀ b, pc.booking? = some b → pc.Outline r b (s.view b)) (hs : pc.Spoken (s.view b))
    (hw : pc.saga?.map Saga.bookingId = some b) (hV : (s.view b).Spoken)
    (hvoid : conversation (s.view b).calls = some .voided) {row : Booking}
    (hrow : (s'.view b).row = some row) :
    row.state = .compensating ∨ row.state = .voided ∨ row.state = .needsManualReview := by
  have hold := hV.voided hvoid
  -- a row the step moves is in its new state
  have hmoved : ∀ {σ : Saga} {state current : BookingState},
      σ.Before r.userId state (s.view σ.bookingId) → current ≠ state →
      (s'.view σ.bookingId).row =
        (s.view σ.bookingId).row.map (Booking.merge σ.state current) →
      σ.bookingId = b → row.state = current := by
    rintro σ state current hbefore hne hmerge rfl
    obtain ⟨row₀, -, rfl⟩ := Option.map_eq_some_iff.mp (hmerge.symm.trans hrow)
    rw [Booking.merge_state, Orm.writeBack_dirty _ (hbefore.state ▸ hne)]
  cases h
  case opens => exact absurd hw (by simp [BookingPc.saga?])
  case fails σ f rows hf h =>
    obtain rfl := Option.some.inj hw
    obtain ⟨-, hj, -⟩ := ho σ.bookingId rfl
    -- a failed payment: nothing was said, or the one answer was a decline
    unfold PaymentFailure.Journals at hj
    split at hj
    · rw [hj.2] at hvoid
      simp [conversation] at hvoid
    · obtain ⟨-, -, result, -, -, hans⟩ := hj
      exact absurd hvoid hans.not_voided
  case recordsAuthorized σ pay result h _ =>
    obtain rfl := Option.some.inj hw
    obtain ⟨-, -, -, -, hans⟩ := ho σ.bookingId rfl
    exact absurd hvoid hans.not_voided
  case issues σ pay assigned rows hf hlost htrig hassigned hunique hchecked hcan hseq hrows =>
    obtain rfl := Option.some.inj hw
    obtain ⟨-, -, hcharged⟩ := ho σ.bookingId rfl
    obtain ⟨result, -, -, hans⟩ := hcharged.answered
    exact absurd hvoid hans.not_voided
  case refuses σ pay rows reason hf h hcan hrows =>
    obtain rfl := Option.some.inj hw
    obtain ⟨-, -, hcharged⟩ := ho σ.bookingId rfl
    obtain ⟨result, -, -, hans⟩ := hcharged.answered
    exact absurd hvoid hans.not_voided
  case voids σ pay reason hf h =>
    obtain rfl := Option.some.inj hw
    obtain ⟨hbefore, -⟩ := ho σ.bookingId rfl
    exact .inr (.inl (hmoved hbefore (by decide) Db.flushBookingState_self rfl))
  case flags σ pay reason error hf =>
    obtain rfl := Option.some.inj hw
    obtain ⟨hbefore, -⟩ := ho σ.bookingId rfl
    exact .inr (.inr (hmoved hbefore (by decide) Db.flushBookingState_self rfl))
  case confirms σ pay h hseq => exact absurd hvoid hs.not_voided
  all_goals exact hold row hrow

/-- **A void is only ever said of a booking on its way out.** -/
theorem Step.spoken (h : Step env s p P a s' P') (ht : Tables s) (hl : Ledger s)
    (ho : P.Outline s) (hv : P.Vouched s) (hs : P.Spoken s) (hV : ∀ b, (s.view b).Spoken)
    (b : BookingId) : (s'.view b).Spoken := by
  refine ⟨h.call_follows hl ho hv hs (hV b), fun hvoid row hrow => ?_⟩
  by_cases hw : P.writes = some b
  · rcases h.calls_cases b with heq | ⟨c, heq, hcalls⟩
    · rw [Shared.view_calls, heq] at hvoid
      cases h
      case booking h =>
        have hb := BookingPc.booking?_of_saga? hw
        exact h.voided_row (fun b hb => (ho b hb).2) (hs b hb) hw (hV b) hvoid hrow
      case cancel h => exact absurd hvoid (hs b hw).not_voided
      all_goals exact absurd hw (by simp [Proc.writes])
    · rw [Shared.view_calls, heq] at hvoid
      obtain ⟨v, -, hnext⟩ := Option.bind_eq_some_iff.mp hvoid
      obtain ⟨b', ref, ok, hc⟩ := void_of_utters (utters_of_next hnext)
      generalize hcall : c = call at hcalls
      cases hcalls with
      | authorizes | captures | refunds => simp [hc] at hcall
      | @reverses r σ pay reason =>
        obtain ⟨hbefore, -⟩ := (ho σ.bookingId rfl).2
        have hkept : (s.view σ.bookingId).row = some row := by
          cases h with
          | booking h => cases h <;> exact hrow
        exact .inl (hbefore.row_state hkept)
  · rcases h.view_born ht ho hw with hsame | ⟨row', passengers, hview, -⟩
    · rw [hsame] at hvoid hrow
      exact (hV b).voided hvoid row hrow
    · rw [hview] at hvoid
      simp [conversation] at hvoid

/-- What the mover knows of its conversation after a step. -/
theorem Step.spoken_mover (h : Step env s p P a s' P') (ho : P.Outline s) (hs : P.Spoken s)
    (hV : ∀ b, (s.view b).Spoken ∧ (s.view b).Vouched b)
    (hfollows : ∀ b, (conversation (s'.callsOf b)).isSome) : P'.Spoken s' := by
  cases h
  case booking r x pc pc' h =>
    intro b hb
    cases h
    case timesOut σ pay e h =>
      obtain rfl := Option.some.inj hb
      obtain ⟨-, -, -, hcalls⟩ := (ho σ.bookingId rfl).2
      show conversation ((s.authorized σ pay).callsOf σ.bookingId) = _
      rw [Shared.view_calls] at hcalls
      rw [Shared.callsOf_authorized, hcalls, h]
      rfl
    case journals σ pay => exact hs b hb
    case issues σ pay assigned rows hf hlost htrig hassigned hunique hchecked hcan hseq hrows =>
      obtain rfl := Option.some.inj hb
      obtain ⟨-, -, hcharged⟩ := (ho σ.bookingId rfl).2
      obtain ⟨result, happroved, href, hans⟩ := hcharged.answered
      refine ⟨authorizeRequest σ pay, false, ?_⟩
      rw [href]
      exact hans.stands happroved (hV σ.bookingId).1.follows
    case captures σ pay result h =>
      obtain rfl := Option.some.inj hb
      obtain ⟨req, refunded, hconv⟩ := hs σ.bookingId rfl
      -- the call just made is one the conversation goes on with
      have hnext := hfollows σ.bookingId
      rw [Shared.callsOf_captured] at hnext
      show ChargeStands ((s.captured σ pay).callsOf σ.bookingId)
      rw [Shared.callsOf_captured]
      exact ChargeStands.call ⟨_, _, _, _, hconv⟩ (by simp) hnext
    case confirms σ pay h hseq => exact hs b hb
    case authorizes σ pay result _ | retries σ pay result _ =>
      unfold afterAuthorize
      split <;> trivial
    case opensNothing e _ | selectIllegal e _ | recordIllegal e _ | refuseIllegal e _ _
      | issueRolledBack e _ _ _ _ | voidIllegal e _ | confirmIllegal e _ => cases e <;> trivial
    all_goals trivial
  case cancel r x pc pc' h =>
    intro b hb
    cases h
    case accepts b' row h h' =>
      obtain rfl := Option.some.inj hb
      obtain ⟨-, hrow, -⟩ := ownedBooking_eq_some h
      obtain ⟨hspoken, hvouched⟩ := hV b'
      exact hspoken.stands hvouched hrow (by simpa using requireState_eq_none.mp h')
    case selects b' state => exact hs b hb
    case locks b' state pay hf =>
      have hb' : b' = b := by
        cases pay <;> exact Option.some.inj hb
      subst hb'
      exact hs b' rfl
    case refunds b' state pay h =>
      obtain rfl := Option.some.inj hb
      have hnext := hfollows b'
      rw [Shared.callsOf_refunded] at hnext ⊢
      exact (hs b' rfl).call (by simp) hnext
    case refundFails b' state pay e h =>
      obtain rfl := Option.some.inj hb
      have hnext := hfollows b'
      rw [Shared.callsOf_refunded] at hnext ⊢
      exact (hs b' rfl).call (by simp) hnext
    all_goals exact absurd hb (by simp [CancelPc.booking?])
  case arrive r => cases r <;> simp [Request.start, Proc.Spoken, BookingPc.booking?,
      CancelPc.booking?, BookingPc.saga?]
  all_goals trivial

/-- Somebody else's call about a booking is a capture or a refund of a charge that stands. -/
theorem Proc.Calls.beside {Q : Proc} {c : GatewayCall} (h : P.Calls s b c) (hPQ : P.Apart Q)
    (hQ : Q.booking? = some b ∨ ∃ state, Q.copy? = some (b, state)) :
    (∀ b ref ok, c ≠ .void b ref ok) ∧
      (Q.booking? = some b → ∃ ref amount ok, c = .refund b ref amount ok ∧
        ∃ state, P.copy? = some (b, state)) := by
  cases h with
  | @authorizes r pc σ pay hpc =>
    exfalso
    rcases hQ with hb | ⟨state, hb⟩
    · rcases hpc with rfl | rfl <;> exact hPQ.booking σ.bookingId rfl hb
    · rcases hpc with rfl | rfl <;> exact hPQ.untold σ.bookingId rfl (by rw [hb]; rfl)
  | @reverses r σ pay reason =>
    exfalso
    rcases hQ with hb | ⟨state, hb⟩
    · exact hPQ.booking σ.bookingId rfl hb
    · exact hPQ.untold σ.bookingId rfl (by rw [hb]; rfl)
  | @captures r σ pay =>
    exact ⟨by simp, fun hb => absurd hb (hPQ.booking σ.bookingId rfl)⟩
  | @refunds r b state pay => exact ⟨by simp, fun _ => ⟨_, _, _, rfl, state, rfl⟩⟩

/-- **What a bystander knows of its conversation stays true.** -/
theorem Step.spoken_bystander {Q : Proc} (h : Step env s p P a s' P') (hPQ : P.Apart Q)
    (hQP : Q.Apart P) (hs : Q.Spoken s) (hfollows : ∀ b, (conversation (s'.callsOf b)).isSome) :
    Q.Spoken s' := by
  cases Q with
  | booking r pc =>
    intro b hb
    have hold := hs b hb
    rcases h.calls_cases b with heq | ⟨c, heq, hcalls⟩
    · exact hold.of_calls heq
    · obtain ⟨ref, amount, ok, rfl, state, hcopy⟩ := (hcalls.beside hPQ (.inl hb)).2 hb
      have huntold : pc.untold? ≠ some b := fun hun => hQP.untold b hun (by rw [hcopy]; rfl)
      have hnext := hfollows b
      rw [heq] at hnext
      cases pc
      case journalUnknown σ pay | retryAuthorize σ pay => exact absurd hb huntold
      case capture σ pay =>
        obtain ⟨req, refunded, hconv⟩ := hold
        obtain ⟨v', hv'⟩ := Option.isSome_iff_exists.mp hnext
        have hutters : Utters (.approved req (pay.providerRef.getD "") false refunded)
            (.refund b ref amount ok) v' := by
          rw [Shared.view_calls] at hconv
          simp only [conversation, hconv, Option.bind_some] at hv'
          exact utters_of_next hv'
        refine ⟨req, true, ?_⟩
        rw [Shared.view_calls, heq, hv']
        cases hutters
        rfl
      case confirm σ pay | refresh σ =>
        show ChargeStands (s'.callsOf b)
        rw [heq]
        exact ChargeStands.call hold (by simp) hnext
      all_goals trivial
  | cancel r pc =>
    intro b hb
    rcases h.calls_cases b with heq | ⟨c, heq, hcalls⟩
    · rw [heq]
      exact hs b hb
    · have hcopy : ∃ state, (Proc.cancel r pc).copy? = some (b, state) :=
        CancelPc.copy?_of_booking? hb
      have hnext := hfollows b
      rw [heq] at hnext ⊢
      exact (hs b hb).call (hcalls.beside hPQ (.inr hcopy)).1 hnext
  | idle | hold | release | sweep => trivial

/-! ### Every reachable state -/

/-- What a run knows of the conversations. -/
theorem spoken_holds {C : World (Shared G) Proc → ℕ → Input → Prop} {db : Db} {g : G}
    {clock : Time} {w : World (Shared G) Proc} {as : List (ℕ × Input)} (hdb : db.Initial)
    (h : (service env G).Run C (initialWorld db g clock) as w) :
    ((outline G).strengthen (fun s => ∀ b, (s.view b).Spoken) fun s P => P.Spoken s).Holds w := by
  have hrun := h.of_reached
    (D := fun v _ _ => Ledger v.shared ∧ (∀ b, (v.shared.view b).Vouched b) ∧
      ∀ p, (v.proc p).Vouched v.shared) ?_
  · refine Outline.strengthen_of_run hrun ?_ (fun _ _ _ _ hw hn => outline_next hw hn) ?_
    · refine (outline_initial hdb g clock).strengthen (fun b => ⟨rfl, fun hvoid => ?_⟩)
        fun _ => trivial
      simp [initialWorld, Shared.callsOf, conversation] at hvoid
    · rintro w₁ p a s' P' hw ⟨hl, hvouched, hv⟩ hs
      have hstep := step_of hs
      obtain ⟨ht, hV⟩ := hw.shared
      obtain ⟨ho, hspoken⟩ := hw.own p
      have hV' := hstep.spoken ht hl ho (hv p) hspoken hV
      have hfollows := fun b => (hV' b).follows
      refine ⟨hV', ?_, fun Q _ hQ hPQ hQP => hstep.spoken_bystander hPQ hQP hQ hfollows⟩
      exact hstep.spoken_mover ho hspoken (fun b => ⟨hV b, hvouched b⟩) hfollows
  · intro v bs hbs p a hC
    have hw := vouched_holds hdb hbs
    exact ⟨ledger_holds hdb hbs, fun b => (hw.shared.2 b).1, fun p => (hw.own p).2.2⟩

/-- Where the conversation may stand when a booking is in a state. -/
def BookingState.fits : BookingState → Conversation → Bool
  | .pending, .voided => false
  | .pending, _ => true
  | .paymentFailed, .approved .. | .paymentFailed, .voided => false
  | .paymentFailed, _ => true
  | .paymentAuthorized, .approved .. | .ticketed, .approved .. | .compensating, .approved .. => true
  | .confirmed, .approved _ _ true _ => true
  | .cancelled, .approved _ _ _ true | .needsManualReview, .approved _ _ _ true => true
  | .compensating, .voided | .voided, .voided | .needsManualReview, .voided => true
  | _, _ => false

omit [PaymentGateway G] in
/-- What the tables say of a booking, and its conversation, fit. -/
theorem View.Spoken.fits {V : View} (h : V.Spoken) (hv : V.Vouched b) {v : Conversation}
    (hconv : conversation V.calls = some v) (hcalls : ∀ c ∈ V.calls, c.booking = b) {row : Booking}
    (hrow : V.row = some row) : row.state.fits v = true := by
  have hheard := Heard.of_conversation hconv
  have hvouched := hv.row row hrow
  -- the two things a booking tells of its conversation
  have hout : v = .voided →
      row.state = .compensating ∨ row.state = .voided ∨ row.state = .needsManualReview :=
    fun hvoid => h.voided (hvoid ▸ hconv) row hrow
  have happroved : (∃ req ref, ApprovedCharge V.calls b req ref) → v = .voided ∨
      ∃ req ref captured refunded, v = .approved req ref captured refunded := by
    rintro ⟨req, ref, hcharge⟩
    rcases hcharge.stands h.follows with ⟨req, ref, captured, refunded, hstands⟩ | hvoided
    · exact .inr ⟨req, ref, captured, refunded, Option.some.inj (hconv.symm.trans hstands)⟩
    · exact .inl (Option.some.inj (hconv.symm.trans hvoided))
  cases hstate : row.state with
  | pending =>
    cases v <;> first | rfl | simp [hstate] at hout
  | paymentFailed =>
    rw [hstate] at hvouched
    -- where something was approved, the payment has not failed
    have hno : ¬ (v = .voided ∨
        ∃ req ref captured refunded, v = .approved req ref captured refunded) := by
      intro hcharge
      obtain ⟨b', req, result, hmem, hyes⟩ := approved_of_conversation hconv hcharge
      obtain rfl : b' = b := hcalls _ hmem
      rw [hvouched req result hmem] at hyes
      simp at hyes
    cases v <;> first | rfl | simp at hno
  | paymentAuthorized | ticketed =>
    rw [hstate] at hvouched
    rcases happroved hvouched with rfl | ⟨_, _, _, _, rfl⟩
    · simp [hstate] at hout
    · rfl
  | compensating =>
    rw [hstate] at hvouched
    rcases happroved hvouched with rfl | ⟨_, _, _, _, rfl⟩ <;> rfl
  | confirmed =>
    rw [hstate] at hvouched
    obtain ⟨ref, hcapture⟩ := hvouched
    obtain ⟨req, refunded, rfl⟩ := hheard.captured b ref true hcapture
    rfl
  | voided =>
    rw [hstate] at hvouched
    obtain ⟨ref, hvoid⟩ := hvouched
    rw [hheard.voided b ref true hvoid]
    rfl
  | cancelled =>
    rw [hstate] at hvouched
    obtain ⟨ref, amount, hrefund⟩ := hvouched
    obtain ⟨req, captured, rfl, -⟩ := hheard.refunded b ref amount true hrefund
    cases captured <;> rfl
  | needsManualReview =>
    rw [hstate] at hvouched
    obtain ⟨ref, hvoid | ⟨amount, hrefund⟩⟩ := hvouched
    · rw [hheard.voided b ref false hvoid]
      rfl
    · obtain ⟨req, captured, rfl, -⟩ := hheard.refunded b ref amount false hrefund
      cases captured <;> rfl

/-- **Every conversation follows the protocol**, whatever the gateway answers and however the
requests fall between each other, and the booking is in a state that fits where it stands. -/
theorem conversations_follow {C : World (Shared G) Proc → ℕ → Input → Prop} {db : Db} {g : G}
    {clock : Time} {w : World (Shared G) Proc} {as : List (ℕ × Input)} (hdb : db.Initial)
    (h : (service env G).Run C (initialWorld db g clock) as w) (b : BookingId) :
    ∃ v, conversation (w.shared.callsOf b) = some v ∧
      ∀ row, w.shared.db.booking b = some row → row.state.fits v = true := by
  have hspoken := (spoken_holds hdb h).shared.2 b
  obtain ⟨v, hv⟩ := Option.isSome_iff_exists.mp hspoken.follows
  refine ⟨v, hv, fun row hrow => ?_⟩
  refine hspoken.fits ((vouched_holds hdb h).shared.2 b).1 hv (fun c hc => ?_) hrow
  exact of_decide_eq_true (List.mem_filter.mp hc).2

end Steps

/-- A seat is charged and captured, and its booking is refunded. -/
theorem conversations_follow_cancelled :
    ∃ w, (service demoEnv FakePaymentGateway).Run (fun _ _ _ => True) (onSale 1)
        (soldSeat ++ asks 3 (.cancelBooking ⟨10, "SKYLCC"⟩) 5 (.calm 2)) w ∧
      (w.shared.callsOf 1).length = 3 ∧ (w.shared.db.booking 1).isSome ∧
      ∃ v, conversation (w.shared.callsOf 1) = some v ∧
        ∀ row, w.shared.db.booking 1 = some row → row.state.fits v = true := by
  have hrun : ((service demoEnv FakePaymentGateway).checked (fun _ _ _ => True) (onSale 1)
      (soldSeat ++ asks 3 (.cancelBooking ⟨10, "SKYLCC"⟩) 5 (.calm 2))).any (fun w =>
        decide ((w.shared.callsOf 1).length = 3 ∧ (w.shared.db.booking 1).isSome)) = true := by
    decide +kernel
  obtain ⟨w, hw, htest⟩ := System.exists_run_of_checked hrun
  obtain ⟨hlen, hsome⟩ := of_decide_eq_true htest
  exact ⟨w, hw, hlen, hsome, conversations_follow (Db.seeded_initial ..) hw 1⟩

end SkyLock
