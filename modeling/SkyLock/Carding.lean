import SkyLock.Errors

/-!
# What the saga sees of the fraud controls

`assess_payment_attempt` of `app/security/carding.py` hands the saga an
assessment; the saga acts on its decision and records its hits.

## Main definitions

* `RuleHit`, `Assessment` — the assessment and its parts.
* `Assessment.decision` — block, challenge or allow, by the score.
-/

namespace SkyLock

/-- `RuleHit`. -/
structure RuleHit where
  rule : String
  score : ℕ
  observed : ℕ
  threshold : ℕ
  windowSeconds : ℕ
  note : String
  deriving Repr, Inhabited

/-- `RuleHit.as_dict`. -/
def RuleHit.asDict (h : RuleHit) : JsonValue :=
  .obj [("rule", .str h.rule), ("score", .num h.score), ("observed", .num h.observed),
    ("threshold", .num h.threshold), ("window_seconds", .num h.windowSeconds),
    ("note", .str h.note)]

/-- `Assessment`. -/
structure Assessment where
  score : ℕ
  hits : List RuleHit
  deriving Repr, Inhabited

/-- `SCORE_BLOCK`. -/
def scoreBlock : ℕ := 60

/-- `SCORE_CHALLENGE`. -/
def scoreChallenge : ℕ := 30

/-- `Assessment.decision`. -/
def Assessment.decision (a : Assessment) : Decision :=
  if scoreBlock ≤ a.score then .block
  else if scoreChallenge ≤ a.score then .challenge
  else .allow

/-- `Assessment.as_dict`. -/
def Assessment.asDict (a : Assessment) : JsonValue :=
  .obj [("score", .num a.score), ("decision", .str a.decision.value),
    ("rules_hit", .arr (a.hits.map fun h => .str h.rule)),
    ("hits", .arr (a.hits.map RuleHit.asDict))]

end SkyLock
