import Mathlib.Algebra.GroupWithZero.Nat
import SkyLock.Lib.Concurrent
import SkyLock.RateLimit
import SkyLock.Carding
import SkyLock.Models

/-!
# The windows of the carding rules

`assess_payment_attempt` and `record_outcome` of `app/security/carding.py`, command by
command.  Every rule has its own sorted set, and the calls of all users, cards and
addresses take turns on the store; each call reads the clock anew for each command.

## Main definitions

* `touch`, `count`, `members` — the window helpers.
* `WindowKey` — the key layout.
* `Look`, `LookCounts`, `assessment` — what an assessment counts, and what it comes to.
* `AssessPc`, `RecordPc` — where a call is.
* `CardingEvent` — what a call did at the windows and when, for the statements about it.
* `carding` — the calls over one store.
-/

namespace SkyLock

open Concurrent

/-! ### Windows, thresholds and scores -/

/-- `W_DISTINCT_CARDS`. -/
def wDistinctCards : ℕ := 3600
/-- `W_CARD_ACROSS_ACCOUNTS`. -/
def wCardAcrossAccounts : ℕ := 86400
/-- `W_DECLINES`. -/
def wDeclines : ℕ := 600
/-- `W_OUTCOME_SEQUENCE`. -/
def wOutcomeSequence : ℕ := 900
/-- `W_RAPID_BOOKINGS`. -/
def wRapidBookings : ℕ := 120
/-- `W_SMALL_AMOUNTS`. -/
def wSmallAmounts : ℕ := 3600
/-- `W_RISK_FLAG`. -/
def wRiskFlag : ℕ := 1800

/-- `T_DISTINCT_CARDS`. -/
def tDistinctCards : ℕ := 4
/-- `T_DECLINES_PER_ACCOUNT`. -/
def tDeclinesPerAccount : ℕ := 5
/-- `T_DECLINES_PER_IP`. -/
def tDeclinesPerIp : ℕ := 8
/-- `T_DECLINE_BURST`. -/
def tDeclineBurst : ℕ := 3
/-- `T_CARD_ACCOUNTS`. -/
def tCardAccounts : ℕ := 3
/-- `T_RAPID_BOOKINGS`. -/
def tRapidBookings : ℕ := 3
/-- `T_SMALL_AMOUNTS`. -/
def tSmallAmounts : ℕ := 5
/-- `SMALL_AMOUNT_CEILING`. -/
def smallAmountCeiling : Cents := 4000

/-! ### The window helpers -/

/-- A length of time given in seconds, in milliseconds. -/
@[irreducible] def millis (seconds : ℕ) : ℕ := seconds * 1000

theorem millis_le_succ (seconds : ℕ) : millis seconds ≤ millis (seconds + 1) := by
  unfold millis
  omega

/-- `zremrangebyscore(key, 0, now - window_seconds * 1000)`, on what is there. -/
def trim (r : Redis) (key : String) (windowSeconds now : ℕ) : SortedSet String :=
  ((r.zset key).live now).zremrangebyscore 0 ((now : ℤ) - millis windowSeconds)

/-- `_touch`. -/
def touch (r : Redis) (key member : String) (windowSeconds now : ℕ) : Redis × ℕ :=
  let z := (trim r key windowSeconds now).zadd member now
  (r.setZset key (z.expire (now + millis (windowSeconds + 1))), z.zcard)

/-- `_count`. -/
def count (r : Redis) (key : String) (windowSeconds now : ℕ) : Redis × ℕ :=
  let z := trim r key windowSeconds now
  (r.setZset key z, z.zcard)

/-- The `zrange` of `_members`, which trims first. -/
def members (r : Redis) (key : String) (now : ℕ) : List String := ((r.zset key).live now).zrange

/-! ### The key layout -/

/-- The windows. -/
inductive WindowKey where
  | distinctCards (userId : UserId)
  | cardAccounts (fingerprint : String)
  | declinesUser (userId : UserId)
  | declinesIp (ip : String)
  | outcomes (userId : UserId)
  | bookings (userId : UserId)
  | small (userId : UserId)
  deriving DecidableEq

/-- `_k_distinct_cards`, `_k_card_accounts`, `_k_declines_user`, `_k_declines_ip`,
`_k_outcomes`, `_k_bookings` and `_k_small`. -/
def WindowKey.key : WindowKey → String
  | .distinctCards u => "cd:cards:u:" ++ uuidText u
  | .cardAccounts fp => "cd:accts:fp:" ++ fp
  | .declinesUser u => "cd:dec:u:" ++ uuidText u
  | .declinesIp ip => "cd:dec:ip:" ++ ip
  | .outcomes u => "cd:out:u:" ++ uuidText u
  | .bookings u => "cd:bk:u:" ++ uuidText u
  | .small u => "cd:small:u:" ++ uuidText u

/-- `_k_risk`. -/
def riskKey (userId : UserId) : String := "cd:risk:u:" ++ uuidText userId

/-- The length of a window, in seconds. -/
def WindowKey.seconds : WindowKey → ℕ
  | .distinctCards _ => wDistinctCards
  | .cardAccounts _ => wCardAcrossAccounts
  | .declinesUser _ | .declinesIp _ => wDeclines
  | .outcomes _ => wOutcomeSequence
  | .bookings _ => wRapidBookings
  | .small _ => wSmallAmounts

/-- The length of a window, in milliseconds. -/
def WindowKey.span (k : WindowKey) : ℕ := millis k.seconds

/-- Different windows are under different keys. -/
theorem WindowKey.key_injective {k k' : WindowKey} (h : k.key = k'.key) : k = k' := by
  cases k <;> cases k' <;>
    simp only [key, String.append_right_inj] at h <;>
    first
      | rw [uuidText_injective h]
      | rw [h]
      | exact absurd (congrArg String.toList h) (by simp)

/-! ### The calls -/

/-- The arguments of `assess_payment_attempt` that it looks at. -/
structure PaymentAttempt where
  userId : UserId
  ip : Option String
  cardFingerprint : String
  amount : Cents
  deriving DecidableEq, Repr

/-- The arguments of `record_outcome` that it looks at. -/
structure PaymentOutcome where
  userId : UserId
  ip : Option String
  approved : Bool
  deriving DecidableEq, Repr

/-- The address of a call, where it has one. -/
def address? (ip : Option String) : Option String := ip.filter (· ≠ "")

/-- The windows an assessment looks at, in this order, and the flag. -/
inductive Look where
  | distinctCards | cardAccounts | rapidBookings | declinesUser | declinesIp | smallCount | riskFlag
  deriving DecidableEq

/-- What an assessment has counted at each look. -/
abbrev LookCounts := Look → ℕ

/-- The rules that hit, in the order they are looked at. -/
def LookCounts.hits (c : LookCounts) (riskFlag : Bool) : List RuleHit :=
  (if tDistinctCards ≤ c .distinctCards then
    [⟨"distinct_cards_per_account", 40, c .distinctCards, tDistinctCards, wDistinctCards,
      "account has attempted an unusual number of different cards"⟩] else []) ++
  (if tDeclinesPerAccount ≤ c .declinesUser then
    [⟨"declines_per_account", 35, c .declinesUser, tDeclinesPerAccount, wDeclines,
      "repeated declines on this account"⟩] else []) ++
  (if tDeclinesPerIp ≤ c .declinesIp then
    [⟨"declines_per_ip", 30, c .declinesIp, tDeclinesPerIp, wDeclines,
      "repeated declines from this address"⟩] else []) ++
  (if tCardAccounts ≤ c .cardAccounts then
    [⟨"card_across_accounts", 45, c .cardAccounts, tCardAccounts, wCardAcrossAccounts,
      "this card has been used on multiple accounts"⟩] else []) ++
  (if tRapidBookings ≤ c .rapidBookings then
    [⟨"rapid_fire_bookings", 25, c .rapidBookings, tRapidBookings, wRapidBookings,
      "booking attempts faster than a human checkout"⟩] else []) ++
  (if tSmallAmounts ≤ c .smallCount then
    [⟨"small_amount_velocity", 20, c .smallCount, tSmallAmounts, wSmallAmounts,
      "many auths at or below " ++ amountText smallAmountCeiling⟩] else []) ++
  (if riskFlag then
    [⟨"recent_card_validation", 50, 1, 1, wRiskFlag,
      "a decline burst was recently followed by a success on this account"⟩] else [])

/-- The assessment the counts come to. -/
def assessment (c : LookCounts) (riskFlag : Bool) : Assessment where
  score := ((c.hits riskFlag).map RuleHit.score).sum
  hits := c.hits riskFlag

/-- Where an assessment is, and what it has counted so far. -/
inductive AssessPc where
  | look (next : Look) (seen : LookCounts)
  | done (a : Assessment)

/-- The member `record_outcome` builds from its reading of the clock. -/
def outcomeMember (label : ℕ) (approved : Bool) : String :=
  toString label ++ ":" ++ (if approved then "approve" else "decline")

/-- `member.endswith(":decline")`. -/
def endsWithDecline (member : String) : Bool := ":decline".toList.isSuffixOf member.toList

/-- The declines right before the last member, which is skipped. -/
def trailingDeclines (members : List String) : ℕ :=
  (members.dropLast.reverse.takeWhile endsWithDecline).length

/-- Where a `record_outcome` is. -/
inductive RecordPc where
  | label
  | outcome (label : ℕ)
  | declinesUser
  | declinesIp
  | trim
  | read
  | raise
  | done

/-- A process: no call yet, or one. -/
inductive CardingProc where
  | idle
  | assess (c : PaymentAttempt) (pc : AssessPc)
  | record (c : PaymentOutcome) (pc : RecordPc)

/-- What a call did at the windows, and when: which process it is of, and the reading. -/
inductive CardingEvent where
  /-- An assessment looked at a window; `draw` numbers the `uuid4` it drew. -/
  | looked (p : ℕ) (look : Look) (c : PaymentAttempt) (now draw : ℕ)
  /-- A decline was added to the windows of its account or of its address. -/
  | declined (p : ℕ) (look : Look) (c : PaymentOutcome) (now draw : ℕ)
  /-- An outcome was added to the sequence of its account. -/
  | outcome (p : ℕ) (c : PaymentOutcome) (label now : ℕ)
  /-- An approval trimmed the sequence, to read it back. -/
  | trimmed (p : ℕ) (c : PaymentOutcome) (now : ℕ)
  /-- The risk flag was raised. -/
  | raised (p : ℕ) (c : PaymentOutcome) (now : ℕ)

/-- The shared state: one clock, in milliseconds, the store, the number of `uuid4` drawn,
and what the calls did, newest first. -/
structure CardingState where
  clock : ℕ
  redis : Redis
  drawn : ℕ
  history : List CardingEvent

namespace CardingState

/-- The store after a command, and what the command was. -/
def after (s : CardingState) (r : Redis) (e : CardingEvent) : CardingState :=
  { s with redis := r, history := e :: s.history }

/-- The same, where the command has drawn a member. -/
def afterDraw (s : CardingState) (r : Redis) (e : CardingEvent) : CardingState :=
  { s with redis := r, drawn := s.drawn + 1, history := e :: s.history }

end CardingState

/-- One command of `assess_payment_attempt`. -/
def stepAssess (s : CardingState) (p : ℕ) (c : PaymentAttempt) (seen : LookCounts) :
    Look → CardingState × AssessPc
  | .distinctCards =>
    let k := WindowKey.distinctCards c.userId
    let (r, n) := touch s.redis k.key c.cardFingerprint k.seconds s.clock
    (s.after r (.looked p .distinctCards c s.clock 0),
      .look .cardAccounts (Function.update seen .distinctCards n))
  | .cardAccounts =>
    let k := WindowKey.cardAccounts c.cardFingerprint
    let (r, n) := touch s.redis k.key (uuidText c.userId) k.seconds s.clock
    (s.after r (.looked p .cardAccounts c s.clock 0),
      .look .rapidBookings (Function.update seen .cardAccounts n))
  | .rapidBookings =>
    let k := WindowKey.bookings c.userId
    let (r, n) := touch s.redis k.key (uuidText s.drawn) k.seconds s.clock
    (s.afterDraw r (.looked p .rapidBookings c s.clock s.drawn),
      .look .declinesUser (Function.update seen .rapidBookings n))
  | .declinesUser =>
    let k := WindowKey.declinesUser c.userId
    let (r, n) := count s.redis k.key k.seconds s.clock
    (s.after r (.looked p .declinesUser c s.clock 0),
      .look .declinesIp (Function.update seen .declinesUser n))
  | .declinesIp =>
    match address? c.ip with
    | some ip =>
      let k := WindowKey.declinesIp ip
      let (r, n) := count s.redis k.key k.seconds s.clock
      (s.after r (.looked p .declinesIp c s.clock 0),
        .look .smallCount (Function.update seen .declinesIp n))
    | none => (s, .look .smallCount (Function.update seen .declinesIp 0))
  | .smallCount =>
    let k := WindowKey.small c.userId
    if c.amount ≤ smallAmountCeiling then
      let (r, n) := touch s.redis k.key (uuidText s.drawn) k.seconds s.clock
      (s.afterDraw r (.looked p .smallCount c s.clock s.drawn),
        .look .riskFlag (Function.update seen .smallCount n))
    else
      let (r, n) := count s.redis k.key k.seconds s.clock
      (s.after r (.looked p .smallCount c s.clock 0),
        .look .riskFlag (Function.update seen .smallCount n))
  | .riskFlag =>
    let flag := s.redis.get (riskKey c.userId) s.clock
    (s.after s.redis (.looked p .riskFlag c s.clock 0), .done (assessment seen flag.isSome))

/-- One command of `record_outcome`. -/
def stepRecord (s : CardingState) (p : ℕ) (c : PaymentOutcome) :
    RecordPc → Option (CardingState × RecordPc)
  | .label => some (s, .outcome s.clock)
  | .outcome label =>
    let k := WindowKey.outcomes c.userId
    let (r, _) := touch s.redis k.key (outcomeMember label c.approved) k.seconds s.clock
    some (s.after r (.outcome p c label s.clock), if c.approved then .trim else .declinesUser)
  | .declinesUser =>
    let k := WindowKey.declinesUser c.userId
    let (r, _) := touch s.redis k.key (uuidText s.drawn) k.seconds s.clock
    some (s.afterDraw r (.declined p .declinesUser c s.clock s.drawn),
      if (address? c.ip).isSome then .declinesIp else .done)
  | .declinesIp =>
    match address? c.ip with
    | some ip =>
      let k := WindowKey.declinesIp ip
      let (r, _) := touch s.redis k.key (uuidText s.drawn) k.seconds s.clock
      some (s.afterDraw r (.declined p .declinesIp c s.clock s.drawn), .done)
    | none => none
  | .trim =>
    let k := WindowKey.outcomes c.userId
    some (s.after (s.redis.setZset k.key (trim s.redis k.key k.seconds s.clock))
      (.trimmed p c s.clock), .read)
  | .read =>
    let trailing := trailingDeclines (members s.redis (WindowKey.outcomes c.userId).key s.clock)
    some (s, if tDeclineBurst ≤ trailing then .raise else .done)
  | .raise =>
    some (s.after (s.redis.setText (riskKey c.userId) "card_validated" (s.clock + millis wRiskFlag))
      (.raised p c s.clock), .done)
  | .done => none

/-- What the outside world decides: time passes, a call arrives, a call's next command is
served, or it is not because the store is down. -/
inductive CardingInput where
  | tick (d : ℕ)
  | attempt (c : PaymentAttempt)
  | outcome (c : PaymentOutcome)
  | go
  | down
  deriving DecidableEq

/-- One step of a process. -/
def stepCarding (s : CardingState) (p : ℕ) :
    CardingProc → CardingInput → Option (CardingState × CardingProc)
  | .idle, .tick d => some ({ s with clock := s.clock + d }, .idle)
  | .idle, .attempt c => some (s, .assess c (.look .distinctCards fun _ => 0))
  | .idle, .outcome c => some (s, .record c .label)
  | .assess c (.look next seen), .go =>
    let (s', pc) := stepAssess s p c seen next
    some (s', .assess c pc)
  -- detection unavailable: the attempt is allowed
  | .assess c (.look _ _), .down => some (s, .assess c (.done ⟨0, []⟩))
  | .record c pc, .go => (stepRecord s p c pc).map fun o => (o.1, .record c o.2)
  | .record c _, .down => some (s, .record c .done)
  | _, _ => none

/-- The calls over one store. -/
def carding : System CardingState CardingProc CardingInput := ⟨stepCarding⟩

/-- Nothing is stored, and no call has arrived. -/
def cardingStart (clock : ℕ) : World CardingState CardingProc :=
  ⟨⟨clock, .empty, 0, []⟩, fun _ => .idle⟩

end SkyLock
