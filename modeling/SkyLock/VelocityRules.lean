import SkyLock.CardingWindows

/-!
# The velocity rules count what they say

Each rule of `assess_payment_attempt` counts a window of a sorted set.  The calls of all
users, cards and addresses take turns on these sets, trimming, adding and moving what the
others left; here every count is compared with the history of the calls.

## Main definitions

* `Look.tally` — what a rule counts, from the history of the calls.
* `Listed` — the rules an assessment has to list.
* `CardingProc.Complete` — what a call that has ended has left in the history.
* `CardingState.Windows` — every set knows its window of the history.

## Main results

* `windows_of_run` — the windows hold throughout every run.
* `complete_of_run` — every call that has ended is in the history, once and in order.
* `velocity_rules_exact` — **an assessment lists a rule iff the history says so, and its
  score is the sum over these rules**.
-/

namespace SkyLock

open Concurrent

/-! ### What the rules name -/

/-- The attempts that have reached a rule in a window that ends now. -/
def attemptsIn (look : Look) (span now : ℕ) (h : List CardingEvent) : List PaymentAttempt :=
  h.filterMap fun
    | .looked _ l c t _ => if l = look ∧ now < t + span then some c else none
    | _ => none

/-- The declines recorded in a window that ends now. -/
def declinesIn (look : Look) (span now : ℕ) (h : List CardingEvent) : List PaymentOutcome :=
  h.filterMap fun
    | .declined _ l c t _ => if l = look ∧ now < t + span then some c else none
    | _ => none

/-- R1: the distinct cards of an account. -/
def cardsOfUser (u : UserId) (now : ℕ) (h : List CardingEvent) : ℕ :=
  (((attemptsIn .distinctCards (millis wDistinctCards) now h).filter (·.userId = u)).map
    PaymentAttempt.cardFingerprint).dedup.length

/-- R2: the declines of an account. -/
def declinesOfUser (u : UserId) (now : ℕ) (h : List CardingEvent) : ℕ :=
  ((declinesIn .declinesUser (millis wDeclines) now h).filter (·.userId = u)).length

/-- R3: the declines of an address. -/
def declinesOfIp (ip : String) (now : ℕ) (h : List CardingEvent) : ℕ :=
  ((declinesIn .declinesIp (millis wDeclines) now h).filter (·.ip = some ip)).length

/-- R4: the distinct accounts of a card. -/
def accountsOfCard (fingerprint : String) (now : ℕ) (h : List CardingEvent) : ℕ :=
  (((attemptsIn .cardAccounts (millis wCardAcrossAccounts) now h).filter
    (·.cardFingerprint = fingerprint)).map PaymentAttempt.userId).dedup.length

/-- R5: the attempts of an account. -/
def attemptsOfUser (u : UserId) (now : ℕ) (h : List CardingEvent) : ℕ :=
  ((attemptsIn .rapidBookings (millis wRapidBookings) now h).filter (·.userId = u)).length

/-- R6: the low-value attempts of an account. -/
def smallAttemptsOfUser (u : UserId) (now : ℕ) (h : List CardingEvent) : ℕ :=
  ((attemptsIn .smallCount (millis wSmallAmounts) now h).filter fun c =>
    c.userId = u ∧ c.amount ≤ smallAmountCeiling).length

/-- R7: the account was flagged at most half an hour ago. -/
def RiskFlagged (u : UserId) (now : ℕ) (h : List CardingEvent) : Prop :=
  ∃ p c t, CardingEvent.raised p c t ∈ h ∧ c.userId = u ∧ now ≤ t + millis wRiskFlag

/-- What the rule of a look counts for an attempt. -/
def Look.tally (c : PaymentAttempt) (now : ℕ) (h : List CardingEvent) : Look → ℕ
  | .distinctCards => cardsOfUser c.userId now h
  | .cardAccounts => accountsOfCard c.cardFingerprint now h
  | .rapidBookings => attemptsOfUser c.userId now h
  | .declinesUser => declinesOfUser c.userId now h
  | .declinesIp =>
    match c.ip with
    | some ip => if ip = "" then 0 else declinesOfIp ip now h
    | none => 0
  | .smallCount => smallAttemptsOfUser c.userId now h
  | .riskFlag => 0

/-- The name of the rule of a look. -/
def Look.rule : Look → String
  | .distinctCards => "distinct_cards_per_account"
  | .cardAccounts => "card_across_accounts"
  | .rapidBookings => "rapid_fire_bookings"
  | .declinesUser => "declines_per_account"
  | .declinesIp => "declines_per_ip"
  | .smallCount => "small_amount_velocity"
  | .riskFlag => "recent_card_validation"

/-- Its score. -/
def Look.score : Look → ℕ
  | .distinctCards => 40
  | .cardAccounts => 45
  | .rapidBookings => 25
  | .declinesUser => 35
  | .declinesIp => 30
  | .smallCount => 20
  | .riskFlag => 50

/-- Its threshold. -/
def Look.threshold : Look → ℕ
  | .distinctCards => tDistinctCards
  | .cardAccounts => tCardAccounts
  | .rapidBookings => tRapidBookings
  | .declinesUser => tDeclinesPerAccount
  | .declinesIp => tDeclinesPerIp
  | .smallCount => tSmallAmounts
  | .riskFlag => 1

/-- The rules R1, R2, R3, R4, R5, R6 and R7. -/
def Look.all : List Look :=
  [.distinctCards, .declinesUser, .declinesIp, .cardAccounts, .rapidBookings, .smallCount,
    .riskFlag]

/-- The event is process `p` looking at a window. -/
def CardingEvent.isLook (p : ℕ) (look : Look) : CardingEvent → Bool
  | .looked q l _ _ _ => decide (q = p ∧ l = look)
  | _ => false

/-- The reading of an event. -/
def CardingEvent.now : CardingEvent → ℕ
  | .looked _ _ _ t _ | .declined _ _ _ t _ | .outcome _ _ _ t | .trimmed _ _ t | .raised _ _ t => t

/-- The history as it was when process `p` had looked at a window. -/
def upTo (p : ℕ) (look : Look) (h : List CardingEvent) : List CardingEvent :=
  h.dropWhile fun e => !e.isLook p look

/-- The reading of that look. -/
def lookTime (p : ℕ) (look : Look) (h : List CardingEvent) : ℕ :=
  ((upTo p look h).head?.map CardingEvent.now).getD 0

/-- What the history says process `p` had to count. -/
def truth (p : ℕ) (c : PaymentAttempt) (h : List CardingEvent) : LookCounts :=
  fun look => look.tally c (lookTime p look h) (upTo p look h)

/-- The rules the assessment of process `p` has to list. -/
def Listed (p : ℕ) (c : PaymentAttempt) (h : List CardingEvent) : Look → Prop
  | .riskFlag => RiskFlagged c.userId (lookTime p .riskFlag h) (upTo p .riskFlag h)
  | look => look.threshold ≤ truth p c h look

/-! ### What the calls have done -/

/-- The process an event is of. -/
def CardingEvent.process : CardingEvent → ℕ
  | .looked p _ _ _ _ | .declined p _ _ _ _ | .outcome p _ _ _ | .trimmed p _ _ | .raised p _ _ => p

/-- An event without its reading, its label and the number it drew. -/
def CardingEvent.untimed : CardingEvent → CardingEvent
  | .looked p look c _ _ => .looked p look c 0 0
  | .declined p look c _ _ => .declined p look c 0 0
  | .outcome p c _ _ => .outcome p c 0 0
  | .trimmed p c _ => .trimmed p c 0
  | .raised p c _ => .raised p c 0

/-- What process `p` has done, in order. -/
def deeds (p : ℕ) (h : List CardingEvent) : List CardingEvent :=
  ((h.filter (·.process = p)).map CardingEvent.untimed).reverse

/-- `if ip`. -/
def Addressed (ip : Option String) : Prop := ip ≠ none ∧ ip ≠ some ""

instance (ip : Option String) : Decidable (Addressed ip) := inferInstanceAs (Decidable (_ ∧ _))

/-- The order of the looks. -/
def Look.rank : Look → ℕ
  | .distinctCards => 0
  | .cardAccounts => 1
  | .rapidBookings => 2
  | .declinesUser => 3
  | .declinesIp => 4
  | .smallCount => 5
  | .riskFlag => 6

/-- The looks in the order they are taken. -/
def Look.inTurn : List Look :=
  [.distinctCards, .cardAccounts, .rapidBookings, .declinesUser, .declinesIp, .smallCount,
    .riskFlag]

/-- The looks of an attempt below a rank; it looks at its address only where it has one. -/
def looksBelow (p : ℕ) (c : PaymentAttempt) (n : ℕ) : List CardingEvent :=
  (Look.inTurn.filter fun look => look.rank < n ∧ (look = .declinesIp → Addressed c.ip)).map
    fun look => .looked p look c 0 0

/-- A decline goes into the sequence and the window of its account, and into the window of
its address where it has one. -/
def declineDeeds (p : ℕ) (c : PaymentOutcome) : List CardingEvent :=
  [.outcome p c 0 0, .declined p .declinesUser c 0 0] ++
    if Addressed c.ip then [.declined p .declinesIp c 0 0] else []

/-- An approval goes into the sequence of its account, and reads it back. -/
def approvalDeeds (p : ℕ) (c : PaymentOutcome) : List CardingEvent :=
  [.outcome p c 0 0, .trimmed p c 0]

/-- A call that has ended has done all it is to do, once and in order; an approval may have
raised the flag besides. -/
def CardingProc.Complete (p : ℕ) (h : List CardingEvent) : CardingProc → Prop
  | .assess c (.done _) => deeds p h = looksBelow p c 7
  | .record c .done =>
    if c.approved then
      deeds p h = approvalDeeds p c ∨ deeds p h = approvalDeeds p c ++ [.raised p c 0]
    else deeds p h = declineDeeds p c
  | _ => True

/-! ### What the sets hold -/

/-- What an event added to a window: the member and its score. -/
def CardingEvent.mark (k : WindowKey) : CardingEvent → Option (String × ℕ)
  | .looked _ .distinctCards c t _ =>
    if k = .distinctCards c.userId then some (c.cardFingerprint, t) else none
  | .looked _ .cardAccounts c t _ =>
    if k = .cardAccounts c.cardFingerprint then some (uuidText c.userId, t) else none
  | .looked _ .rapidBookings c t n => if k = .bookings c.userId then some (uuidText n, t) else none
  | .looked _ .smallCount c t n =>
    if k = .small c.userId ∧ c.amount ≤ smallAmountCeiling then some (uuidText n, t) else none
  | .declined _ .declinesUser c t n =>
    if k = .declinesUser c.userId then some (uuidText n, t) else none
  | .declined _ .declinesIp c t n =>
    if (address? c.ip).map .declinesIp = some k then some (uuidText n, t) else none
  | .outcome _ c label t =>
    if k = .outcomes c.userId then some (outcomeMember label c.approved, t) else none
  | _ => none

/-- What a history added to a window. -/
def marks (k : WindowKey) (h : List CardingEvent) : List (String × ℕ) :=
  h.filterMap (CardingEvent.mark k)

/-- The windows whose members are drawn. -/
def WindowKey.Drawn : WindowKey → Prop
  | .bookings _ | .small _ | .declinesUser _ | .declinesIp _ => True
  | _ => False

/-- Every set knows its window of the history, the drawn members are all different, and
the flag stands where the history last raised it. -/
structure CardingState.Windows (s : CardingState) : Prop where
  tracks : ∀ k : WindowKey, SortedSet.Tracks (s.redis.zset k.key) (marks k s.history) k.span s.clock
  nodup : ∀ k : WindowKey, k.Drawn → ((marks k s.history).map Prod.fst).Nodup
  drawn : ∀ k : WindowKey, k.Drawn → ∀ e ∈ marks k s.history, ∃ n < s.drawn, e.1 = uuidText n
  past : ∀ e ∈ s.history, e.now ≤ s.clock
  flag : ∀ u now, s.clock ≤ now →
    ((s.redis.get (riskKey u) now).isSome = true ↔ RiskFlagged u now s.history)

/-- One command of a call: what it does to the store, and what it is in the history. -/
inductive Command (s : CardingState) : CardingState → Prop
  /-- Nothing is asked of the store, or it is only read. -/
  | none : Command s s
  | tick (d : ℕ) : Command s { s with clock := s.clock + d }
  | touch (k : WindowKey) (m : String) (e : CardingEvent) (hnow : e.now = s.clock)
      (hmark : ∀ k', e.mark k' = if k' = k then some (m, s.clock) else .none)
      (hraised : ∀ p c t, e ≠ .raised p c t) (hk : ¬ k.Drawn) :
      Command s (s.after (SkyLock.touch s.redis k.key m k.seconds s.clock).1 e)
  | draw (k : WindowKey) (e : CardingEvent) (hnow : e.now = s.clock)
      (hmark : ∀ k', e.mark k' = if k' = k then some (uuidText s.drawn, s.clock) else .none)
      (hraised : ∀ p c t, e ≠ .raised p c t) :
      Command s (s.afterDraw (SkyLock.touch s.redis k.key (uuidText s.drawn) k.seconds s.clock).1 e)
  | count (k : WindowKey) (e : CardingEvent) (hnow : e.now = s.clock)
      (hmark : ∀ k', e.mark k' = .none) (hraised : ∀ p c t, e ≠ .raised p c t) :
      Command s (s.after (SkyLock.count s.redis k.key k.seconds s.clock).1 e)
  | look (e : CardingEvent) (hnow : e.now = s.clock) (hmark : ∀ k', e.mark k' = .none)
      (hraised : ∀ p c t, e ≠ .raised p c t) : Command s (s.after s.redis e)
  | raise (p : ℕ) (c : PaymentOutcome) :
      Command s (s.after (s.redis.setText (riskKey c.userId) "card_validated"
        (s.clock + millis wRiskFlag)) (.raised p c s.clock))

section Windows

variable {s s' : CardingState} {p : ℕ} {h : List CardingEvent} {e : CardingEvent}

theorem marks_cons (k : WindowKey) (e : CardingEvent) (h : List CardingEvent) :
    marks k (e :: h) = (e.mark k).toList ++ marks k h := by
  cases hmark : e.mark k <;> simp [marks, hmark]

theorem RiskFlagged.cons {u : UserId} {now : ℕ} (hraised : ∀ p c t, e ≠ .raised p c t) :
    RiskFlagged u now (e :: h) ↔ RiskFlagged u now h := by
  simp only [RiskFlagged, List.mem_cons]
  refine exists_congr fun p => exists_congr fun c => exists_congr fun t => ?_
  simp [(hraised p c t).symm]

theorem riskKey_injective {u u' : UserId} (h : riskKey u = riskKey u') : u = u' :=
  uuidText_injective (by simpa [riskKey] using h)

theorem get_setText (r : Redis) (key value : String) (d now : ℕ) :
    (r.setText key value d).get key now = if now ≤ d then some value else none := by
  by_cases hle : now ≤ d
  · simp [Redis.get, Redis.setText, hle]
  · simpa [Redis.get, Redis.setText, hle] using not_le.mp hle

theorem get_setText_ne (r : Redis) {key key' : String} (value : String) (d now : ℕ)
    (h : key' ≠ key) : (r.setText key value d).get key' now = r.get key' now := by
  simp [Redis.get, Redis.setText, Function.update_of_ne h]

/-- A new member of one window, and the history it is in. -/
theorem CardingState.Windows.tracks_touch (hw : s.Windows) (k k' : WindowKey) {m : String}
    (hmark : ∀ k', e.mark k' = if k' = k then some (m, s.clock) else none) :
    SortedSet.Tracks ((touch s.redis k.key m k.seconds s.clock).1.zset k'.key)
      (marks k' (e :: s.history)) k'.span s.clock := by
  rw [marks_cons, hmark]
  by_cases hk : k' = k
  · subst hk
    have hadd := (hw.tracks k').live.trim.add m (d := s.clock + millis (k'.seconds + 1))
      (Nat.add_le_add_left (millis_le_succ _) _)
    simpa [touch, trim, WindowKey.span] using hadd
  · have hkey : k'.key ≠ k.key := fun h => hk (WindowKey.key_injective h)
    simpa [touch, hk, Redis.zset_setZset_ne _ _ hkey] using hw.tracks k'

/-- What one command keeps. -/
theorem CardingState.Windows.command (hw : s.Windows) (hc : Command s s') : s'.Windows := by
  cases hc with
  | none => exact hw
  | tick d =>
    refine ⟨fun k => (hw.tracks k).later (Nat.le_add_right ..), hw.nodup, hw.drawn,
      fun e he => (hw.past e he).trans (Nat.le_add_right ..), fun u now hle => ?_⟩
    exact hw.flag u now ((Nat.le_add_right ..).trans hle)
  | touch k m e hnow hmark hraised hk =>
    have hother : ∀ k' : WindowKey, k'.Drawn → marks k' (e :: s.history) = marks k' s.history := by
      intro k' hk'
      have hne : k' ≠ k := fun h => hk (h ▸ hk')
      simp [marks_cons, hmark, hne]
    refine ⟨fun k' => hw.tracks_touch k k' hmark, fun k' hk' => ?_, fun k' hk' => ?_, ?_,
      fun u now hle => ?_⟩
    · exact hother k' hk' ▸ hw.nodup k' hk'
    · exact hother k' hk' ▸ hw.drawn k' hk'
    · exact List.forall_mem_cons.mpr ⟨hnow.le, hw.past⟩
    · exact (hw.flag u now hle).trans (RiskFlagged.cons hraised).symm
  | draw k e hnow hmark hraised =>
    refine ⟨fun k' => hw.tracks_touch k k' hmark, fun k' hk' => ?_, fun k' hk' e' he' => ?_, ?_,
      fun u now hle => ?_⟩
    · simp only [CardingState.afterDraw, marks_cons, hmark]
      split
      · -- no number below the next one has been drawn twice
        refine List.nodup_cons.mpr ⟨fun hmem => ?_, hw.nodup k' hk'⟩
        obtain ⟨e', he', hm⟩ := List.mem_map.mp hmem
        obtain ⟨n, hn, heq⟩ := hw.drawn k' hk' e' he'
        have hsame : n = s.drawn := uuidText_injective (heq.symm.trans hm)
        omega
      · exact hw.nodup k' hk'
    · simp only [CardingState.afterDraw, marks_cons, hmark] at he' ⊢
      rcases List.mem_append.mp he' with he' | he'
      · split at he'
        · obtain rfl := List.mem_singleton.mp he'
          exact ⟨s.drawn, Nat.lt_succ_self _, rfl⟩
        · exact absurd he' List.not_mem_nil
      · obtain ⟨n, hn, heq⟩ := hw.drawn k' hk' e' he'
        exact ⟨n, Nat.lt_succ_of_lt hn, heq⟩
    · exact List.forall_mem_cons.mpr ⟨hnow.le, hw.past⟩
    · exact (hw.flag u now hle).trans (RiskFlagged.cons hraised).symm
  | count k e hnow hmark hraised =>
    have hmarks : ∀ k', marks k' (e :: s.history) = marks k' s.history := fun k' => by
      simp [marks_cons, hmark]
    refine ⟨fun k' => ?_, fun k' => hmarks k' ▸ hw.nodup k', fun k' => hmarks k' ▸ hw.drawn k',
      List.forall_mem_cons.mpr ⟨hnow.le, hw.past⟩,
      fun u now hle => (hw.flag u now hle).trans (RiskFlagged.cons hraised).symm⟩
    simp only [CardingState.after, hmarks]
    by_cases hk : k' = k
    · subst hk
      simpa [count, trim, WindowKey.span] using (hw.tracks k').live.trim
    · have hkey : k'.key ≠ k.key := fun h => hk (WindowKey.key_injective h)
      simpa [count, Redis.zset_setZset_ne _ _ hkey] using hw.tracks k'
  | look e hnow hmark hraised =>
    have hmarks : ∀ k', marks k' (e :: s.history) = marks k' s.history := fun k' => by
      simp [marks_cons, hmark]
    exact ⟨fun k' => by simpa [CardingState.after, hmarks] using hw.tracks k',
      fun k' => hmarks k' ▸ hw.nodup k', fun k' => hmarks k' ▸ hw.drawn k',
      List.forall_mem_cons.mpr ⟨hnow.le, hw.past⟩,
      fun u now hle => (hw.flag u now hle).trans (RiskFlagged.cons hraised).symm⟩
  | raise p c =>
    have hmarks : ∀ k', marks k' (.raised p c s.clock :: s.history) = marks k' s.history :=
      fun k' => by simp [marks_cons, CardingEvent.mark]
    refine ⟨fun k' => by simpa [CardingState.after, hmarks] using hw.tracks k',
      fun k' => hmarks k' ▸ hw.nodup k', fun k' => hmarks k' ▸ hw.drawn k',
      List.forall_mem_cons.mpr ⟨le_rfl, hw.past⟩, fun u now hle => ?_⟩
    have hlatest : RiskFlagged u now s.history → now ≤ s.clock + millis wRiskFlag := by
      rintro ⟨q, c', t, hmem, -, hlive⟩
      exact hlive.trans (Nat.add_le_add_right (hw.past _ hmem) _)
    have hcons : RiskFlagged u now (.raised p c s.clock :: s.history) ↔
        (c.userId = u ∧ now ≤ s.clock + millis wRiskFlag) ∨ RiskFlagged u now s.history := by
      simp only [RiskFlagged, List.mem_cons, CardingEvent.raised.injEq]
      constructor
      · rintro ⟨q, c', t, ⟨rfl, rfl, rfl⟩ | hmem, hu, hlive⟩
        · exact .inl ⟨hu, hlive⟩
        · exact .inr ⟨q, c', t, hmem, hu, hlive⟩
      · rintro (⟨hu, hlive⟩ | ⟨q, c', t, hmem, hu, hlive⟩)
        · exact ⟨p, c, s.clock, .inl ⟨rfl, rfl, rfl⟩, hu, hlive⟩
        · exact ⟨q, c', t, .inr hmem, hu, hlive⟩
    simp only [CardingState.after, hcons]
    by_cases hu : c.userId = u
    · subst hu
      rw [get_setText]
      by_cases hlive : now ≤ s.clock + millis wRiskFlag
      · simp [hlive]
      · simpa [hlive] using mt hlatest hlive
    · have hkey : riskKey u ≠ riskKey c.userId := fun h => hu (riskKey_injective h).symm
      rw [get_setText_ne _ _ _ _ hkey]
      simpa [hu] using hw.flag u now hle

/-- Every command of an assessment. -/
theorem stepAssess_command (s : CardingState) (p : ℕ) (c : PaymentAttempt) (seen : LookCounts)
    (look : Look) : Command s (stepAssess s p c seen look).1 := by
  cases look with
  | distinctCards =>
    exact .touch (.distinctCards c.userId) _ _ rfl (fun _ => rfl) (fun _ _ _ => nofun) id
  | cardAccounts =>
    exact .touch (.cardAccounts c.cardFingerprint) _ _ rfl (fun _ => rfl) (fun _ _ _ => nofun) id
  | rapidBookings => exact .draw (.bookings c.userId) _ rfl (fun _ => rfl) fun _ _ _ => nofun
  | declinesUser => exact .count (.declinesUser c.userId) _ rfl (fun _ => rfl) fun _ _ _ => nofun
  | declinesIp =>
    cases hip : address? c.ip with
    | none => simpa only [stepAssess, hip] using Command.none
    | some ip =>
      simp only [stepAssess, hip]
      exact .count (.declinesIp ip) _ rfl (fun _ => rfl) fun _ _ _ => nofun
  | smallCount =>
    by_cases hsmall : c.amount ≤ smallAmountCeiling
    · simp only [stepAssess, hsmall, if_true]
      refine .draw (.small c.userId) _ rfl (fun k' => ?_) fun _ _ _ => nofun
      simp [CardingEvent.mark, hsmall]
    · simp only [stepAssess, hsmall, if_false]
      refine .count (.small c.userId) _ rfl (fun k' => ?_) fun _ _ _ => nofun
      simp [CardingEvent.mark, hsmall]
  | riskFlag => exact .look _ rfl (fun _ => rfl) fun _ _ _ => nofun

/-- Every command of `record_outcome`. -/
theorem stepRecord_command {c : PaymentOutcome} {pc pc' : RecordPc}
    (h : stepRecord s p c pc = some (s', pc')) : Command s s' := by
  cases pc with
  | label =>
    obtain ⟨rfl, rfl⟩ := Prod.mk.inj (Option.some.inj h)
    exact .none
  | outcome label =>
    obtain ⟨rfl, rfl⟩ := Prod.mk.inj (Option.some.inj h)
    exact .touch (.outcomes c.userId) _ _ rfl (fun _ => rfl) (fun _ _ _ => nofun) id
  | declinesUser =>
    obtain ⟨rfl, rfl⟩ := Prod.mk.inj (Option.some.inj h)
    exact .draw (.declinesUser c.userId) _ rfl (fun _ => rfl) fun _ _ _ => nofun
  | declinesIp =>
    cases hip : address? c.ip with
    | none => simp [stepRecord, hip] at h
    | some ip =>
      simp only [stepRecord, hip] at h
      obtain ⟨rfl, rfl⟩ := Prod.mk.inj (Option.some.inj h)
      refine .draw (.declinesIp ip) _ rfl (fun k' => ?_) fun _ _ _ => nofun
      simp [CardingEvent.mark, hip, eq_comm]
  | trim =>
    obtain ⟨rfl, rfl⟩ := Prod.mk.inj (Option.some.inj h)
    exact .count (.outcomes c.userId) _ rfl (fun _ => rfl) fun _ _ _ => nofun
  | read =>
    obtain ⟨rfl, rfl⟩ := Prod.mk.inj (Option.some.inj h)
    exact .none
  | raise =>
    obtain ⟨rfl, rfl⟩ := Prod.mk.inj (Option.some.inj h)
    exact .raise p c
  | done => exact absurd h (by simp [stepRecord])

/-- The steps of a process. -/
inductive CardingStep (s : CardingState) (p : ℕ) :
    CardingProc → CardingInput → CardingState → CardingProc → Prop
  | tick (d : ℕ) : CardingStep s p .idle (.tick d) { s with clock := s.clock + d } .idle
  | attempt (c : PaymentAttempt) :
      CardingStep s p .idle (.attempt c) s (.assess c (.look .distinctCards fun _ => 0))
  | outcome (c : PaymentOutcome) : CardingStep s p .idle (.outcome c) s (.record c .label)
  | look {c : PaymentAttempt} {look : Look} {seen : LookCounts} {s' : CardingState} {pc : AssessPc}
      (h : stepAssess s p c seen look = (s', pc)) :
      CardingStep s p (.assess c (.look look seen)) .go s' (.assess c pc)
  | allow {c : PaymentAttempt} {look : Look} {seen : LookCounts} :
      CardingStep s p (.assess c (.look look seen)) .down s (.assess c (.done ⟨0, []⟩))
  | record {c : PaymentOutcome} {pc pc' : RecordPc} {s' : CardingState}
      (h : stepRecord s p c pc = some (s', pc')) :
      CardingStep s p (.record c pc) .go s' (.record c pc')
  | drop {c : PaymentOutcome} {pc : RecordPc} :
      CardingStep s p (.record c pc) .down s (.record c .done)

theorem cardingStep_of {P P' : CardingProc} {a : CardingInput}
    (h : carding.step s p P a = some (s', P')) : CardingStep s p P a s' P' := by
  cases P with
  | idle =>
    cases a with
    | tick d =>
      obtain ⟨rfl, rfl⟩ := Prod.mk.inj (Option.some.inj h)
      exact .tick d
    | attempt c =>
      obtain ⟨rfl, rfl⟩ := Prod.mk.inj (Option.some.inj h)
      exact .attempt c
    | outcome c =>
      obtain ⟨rfl, rfl⟩ := Prod.mk.inj (Option.some.inj h)
      exact .outcome c
    | go => exact absurd h (by simp [carding, stepCarding])
    | down => exact absurd h (by simp [carding, stepCarding])
  | assess c pc =>
    cases pc with
    | look look seen =>
      cases a with
      | go =>
        obtain ⟨hs, rfl⟩ := Prod.mk.inj (Option.some.inj h)
        exact .look (Prod.ext hs rfl)
      | down =>
        obtain ⟨rfl, rfl⟩ := Prod.mk.inj (Option.some.inj h)
        exact .allow
      | _ => exact absurd h (by simp [carding, stepCarding])
    | done r => exact absurd h (by cases a <;> simp [carding, stepCarding])
  | record c pc =>
    cases a with
    | go =>
      obtain ⟨⟨s₁, pc'⟩, hr, heq⟩ := Option.map_eq_some_iff.mp h
      obtain ⟨rfl, rfl⟩ := Prod.mk.inj heq
      exact .record hr
    | down =>
      obtain ⟨rfl, rfl⟩ := Prod.mk.inj (Option.some.inj h)
      exact .drop
    | _ => exact absurd h (by cases pc <;> simp [carding, stepCarding])

/-- Every step of a process. -/
theorem CardingStep.command {P P' : CardingProc} {a : CardingInput}
    (h : CardingStep s p P a s' P') : Command s s' := by
  cases h with
  | tick d => exact .tick d
  | attempt | outcome | allow | drop => exact .none
  | @look c look seen _ _ h =>
    have hc := stepAssess_command s p c seen look
    rw [h] at hc
    exact hc
  | record h => exact stepRecord_command h

theorem windows_start (clock : ℕ) : (cardingStart clock).shared.Windows where
  tracks k := .empty k.span clock
  nodup _ _ := .nil
  drawn _ _ _ he := absurd he List.not_mem_nil
  past _ he := absurd he List.not_mem_nil
  flag u now _ := by simp [cardingStart, Redis.get, Redis.empty, RiskFlagged]

/-- **Every set knows its window of the history, throughout every run.** -/
theorem windows_of_run {C : World CardingState CardingProc → ℕ → CardingInput → Prop}
    {clock : ℕ} {as : List (ℕ × CardingInput)} {w : World CardingState CardingProc}
    (h : carding.Run C (cardingStart clock) as w) : w.shared.Windows := by
  refine h.induct (I := fun w => w.shared.Windows) (windows_start clock) fun w₁ p a w₂ hw _ hn => ?_
  obtain ⟨s', P', hs, rfl⟩ := System.next_eq_some.mp hn
  exact hw.command (cardingStep_of hs).command

/-! ### What the sets count -/

/-- The recent marks of a window, one history entry at a time. -/
theorem recent_marks (k : WindowKey) (span now : ℕ) (h : List CardingEvent) :
    SortedSet.recent (marks k h) span now =
      h.filterMap fun e => (e.mark k).filter fun m => decide (now < m.2 + span) := by
  rw [SortedSet.recent, marks, List.filter_filterMap]

/-- Two ways to pick from a history pick the same number. -/
theorem length_filterMap_congr {β γ : Type} {f : CardingEvent → Option β}
    {g : CardingEvent → Option γ} (h : List CardingEvent)
    (heq : ∀ e, (f e).isSome = (g e).isSome) : (h.filterMap f).length = (h.filterMap g).length := by
  induction h with
  | nil => rfl
  | cons e h ih =>
    have he := heq e
    cases hf : f e <;> cases hg : g e <;> simp [hf, hg, ih] at he ⊢

theorem recent_distinctCards (u : UserId) (span now : ℕ) (h : List CardingEvent) :
    (SortedSet.recent (marks (.distinctCards u) h) span now).map Prod.fst =
      ((attemptsIn .distinctCards span now h).filter (·.userId = u)).map
        PaymentAttempt.cardFingerprint := by
  rw [recent_marks, attemptsIn, List.filter_filterMap, List.map_filterMap, List.map_filterMap]
  refine List.filterMap_congr fun e _ => ?_
  rcases e with ⟨q, l, c, t, n⟩ | ⟨q, l, c, t, n⟩ | _ | _ | _
  · cases l <;> simp [CardingEvent.mark]
    rcases eq_or_ne c.userId u with rfl | hu
    · by_cases ht : now < t + span <;> simp [ht, Option.filter_some]
    · simp [hu, hu.symm]
  · cases l <;> simp [CardingEvent.mark]
  all_goals simp [CardingEvent.mark]

theorem recent_cardAccounts (fp : String) (span now : ℕ) (h : List CardingEvent) :
    (SortedSet.recent (marks (.cardAccounts fp) h) span now).map Prod.fst =
      (((attemptsIn .cardAccounts span now h).filter (·.cardFingerprint = fp)).map
        PaymentAttempt.userId).map uuidText := by
  rw [recent_marks, attemptsIn, List.filter_filterMap, List.map_filterMap, List.map_filterMap,
    List.map_filterMap]
  refine List.filterMap_congr fun e _ => ?_
  rcases e with ⟨q, l, c, t, n⟩ | ⟨q, l, c, t, n⟩ | _ | _ | _
  · cases l <;> simp [CardingEvent.mark]
    rcases eq_or_ne c.cardFingerprint fp with rfl | hfp
    · by_cases ht : now < t + span <;> simp [ht, Option.filter_some]
    · simp [hfp, hfp.symm]
  · cases l <;> simp [CardingEvent.mark]
  all_goals simp [CardingEvent.mark]

theorem recent_bookings (u : UserId) (span now : ℕ) (h : List CardingEvent) :
    (SortedSet.recent (marks (.bookings u) h) span now).length =
      ((attemptsIn .rapidBookings span now h).filter (·.userId = u)).length := by
  rw [recent_marks, attemptsIn, List.filter_filterMap]
  refine length_filterMap_congr h fun e => ?_
  rcases e with ⟨q, l, c, t, n⟩ | ⟨q, l, c, t, n⟩ | _ | _ | _
  · cases l <;> simp [CardingEvent.mark]
    rcases eq_or_ne c.userId u with rfl | hu
    · by_cases ht : now < t + span <;> simp [ht]
    · by_cases ht : now < t + span <;> simp [ht, hu, hu.symm]
  · cases l <;> simp [CardingEvent.mark]
  all_goals simp [CardingEvent.mark]

theorem recent_small (u : UserId) (span now : ℕ) (h : List CardingEvent) :
    (SortedSet.recent (marks (.small u) h) span now).length =
      ((attemptsIn .smallCount span now h).filter fun c =>
        c.userId = u ∧ c.amount ≤ smallAmountCeiling).length := by
  rw [recent_marks, attemptsIn, List.filter_filterMap]
  refine length_filterMap_congr h fun e => ?_
  rcases e with ⟨q, l, c, t, n⟩ | ⟨q, l, c, t, n⟩ | _ | _ | _
  · cases l <;> simp [CardingEvent.mark]
    rcases eq_or_ne c.userId u with rfl | hu
    · by_cases ht : now < t + span <;> by_cases hsmall : c.amount ≤ smallAmountCeiling <;>
        simp [ht, hsmall]
    · by_cases ht : now < t + span <;> simp [ht, hu, hu.symm]
  · cases l <;> simp [CardingEvent.mark]
  all_goals simp [CardingEvent.mark]

theorem recent_declinesUser (u : UserId) (span now : ℕ) (h : List CardingEvent) :
    (SortedSet.recent (marks (.declinesUser u) h) span now).length =
      ((declinesIn .declinesUser span now h).filter (·.userId = u)).length := by
  rw [recent_marks, declinesIn, List.filter_filterMap]
  refine length_filterMap_congr h fun e => ?_
  rcases e with ⟨q, l, c, t, n⟩ | ⟨q, l, c, t, n⟩ | _ | _ | _
  · cases l <;> simp [CardingEvent.mark]
  · cases l <;> simp [CardingEvent.mark]
    rcases eq_or_ne c.userId u with rfl | hu
    · by_cases ht : now < t + span <;> simp [ht]
    · by_cases ht : now < t + span <;> simp [ht, hu, hu.symm]
  all_goals simp [CardingEvent.mark]

/-- The address of a call is the one it names, where that is not empty. -/
theorem address?_eq_some {named : Option String} {ip : String} :
    address? named = some ip ↔ named = some ip ∧ ip ≠ "" := by
  simp [address?, Option.filter_eq_some_iff]

theorem recent_declinesIp {ip : String} (hne : ip ≠ "") (span now : ℕ) (h : List CardingEvent) :
    (SortedSet.recent (marks (.declinesIp ip) h) span now).length =
      ((declinesIn .declinesIp span now h).filter (·.ip = some ip)).length := by
  rw [recent_marks, declinesIn, List.filter_filterMap]
  refine length_filterMap_congr h fun e => ?_
  rcases e with ⟨q, l, c, t, n⟩ | ⟨q, l, c, t, n⟩ | _ | _ | _
  · cases l <;> simp [CardingEvent.mark]
  · cases l <;> simp [CardingEvent.mark, address?_eq_some, hne]
    by_cases hip : c.ip = some ip <;> by_cases ht : now < t + span <;> simp [ht, hip]
  all_goals simp [CardingEvent.mark]

/-- The window a look is at. -/
def Look.window? (c : PaymentAttempt) : Look → Option WindowKey
  | .distinctCards => some (.distinctCards c.userId)
  | .cardAccounts => some (.cardAccounts c.cardFingerprint)
  | .rapidBookings => some (.bookings c.userId)
  | .declinesUser => some (.declinesUser c.userId)
  | .declinesIp => (address? c.ip).map .declinesIp
  | .smallCount => some (.small c.userId)
  | .riskFlag => none

/-- **What a window counts is what its rule names.** -/
theorem tally_eq {c : PaymentAttempt} {k : WindowKey} {look : Look} (hk : look.window? c = some k)
    (hnd : k.Drawn → ((marks k h).map Prod.fst).Nodup) (now : ℕ) :
    SortedSet.distinct (marks k h) k.span now = look.tally c now h := by
  cases look with
  | distinctCards =>
    obtain rfl := Option.some.inj hk
    rw [SortedSet.distinct, recent_distinctCards]
    rfl
  | cardAccounts =>
    obtain rfl := Option.some.inj hk
    rw [SortedSet.distinct, recent_cardAccounts, List.dedup_map_of_injective uuidText_injective,
      List.length_map]
    rfl
  | rapidBookings =>
    obtain rfl := Option.some.inj hk
    rw [SortedSet.distinct_of_nodup (hnd trivial), recent_bookings]
    rfl
  | declinesUser =>
    obtain rfl := Option.some.inj hk
    rw [SortedSet.distinct_of_nodup (hnd trivial), recent_declinesUser]
    rfl
  | declinesIp =>
    obtain ⟨ip, hip, rfl⟩ := Option.map_eq_some_iff.mp hk
    obtain ⟨hnamed, hne⟩ := address?_eq_some.mp hip
    rw [SortedSet.distinct_of_nodup (hnd trivial), recent_declinesIp hne]
    simp only [Look.tally, hnamed, if_neg hne]
    rfl
  | smallCount =>
    obtain rfl := Option.some.inj hk
    rw [SortedSet.distinct_of_nodup (hnd trivial), recent_small]
    rfl
  | riskFlag => exact absurd hk (by simp [Look.window?])

/-- Without an address there are no declines to count. -/
theorem tally_declinesIp_of_none {c : PaymentAttempt} (hip : address? c.ip = none) (now : ℕ)
    (h : List CardingEvent) : Look.declinesIp.tally c now h = 0 := by
  cases hnamed : c.ip with
  | none => simp [Look.tally, hnamed]
  | some ip =>
    have hempty : ip = "" := by
      by_contra hne
      exact absurd (address?_eq_some.mpr ⟨hnamed, hne⟩) (by simp [hip])
    simp [Look.tally, hnamed, hempty]

/-- The answer of `_touch`. -/
theorem CardingState.Windows.touch_snd (hw : s.Windows) (k : WindowKey) {m : String}
    (hmark : e.mark k = some (m, s.clock)) :
    (touch s.redis k.key m k.seconds s.clock).2 =
      SortedSet.distinct (marks k (e :: s.history)) k.span s.clock := by
  have hspan : 0 < k.span := by
    cases k <;> simp [WindowKey.span, WindowKey.seconds, millis, wDistinctCards,
      wCardAcrossAccounts, wDeclines, wOutcomeSequence, wRapidBookings, wSmallAmounts]
  rw [marks_cons, hmark]
  exact (hw.tracks k).live.zcard_add hspan m

/-- The answer of `_count`. -/
theorem CardingState.Windows.count_snd (hw : s.Windows) (k : WindowKey)
    (hmark : e.mark k = none) : (count s.redis k.key k.seconds s.clock).2 =
      SortedSet.distinct (marks k (e :: s.history)) k.span s.clock := by
  rw [marks_cons, hmark]
  exact (hw.tracks k).live.zcard_trim

/-! ### What an assessment has counted -/

theorem upTo_of_look {look : Look} (he : e.isLook p look = true) :
    upTo p look (e :: h) = e :: h := by simp [upTo, he]

theorem upTo_of_other {look : Look} (he : e.isLook p look = false) :
    upTo p look (e :: h) = upTo p look h := by simp [upTo, he]

theorem truth_of_look {c : PaymentAttempt} {look : Look} (he : e.isLook p look = true) :
    truth p c (e :: h) look = look.tally c e.now (e :: h) := by
  simp [truth, lookTime, upTo_of_look he]

theorem truth_of_other {c : PaymentAttempt} {look : Look} (he : e.isLook p look = false) :
    truth p c (e :: h) look = truth p c h look := by
  simp [truth, lookTime, upTo_of_other he]

/-- What an assessment has counted so far is what the history says. -/
def CardingProc.Truthful (p : ℕ) (h : List CardingEvent) : CardingProc → Prop
  | .assess c (.look next seen) => ∀ look, look.rank < next.rank → seen look = truth p c h look
  | .assess c (.done a) => ∃ (seen : LookCounts) (flag : Bool), a = assessment seen flag ∧
      (∀ look, look ≠ .riskFlag → seen look = truth p c h look) ∧
        (flag = true ↔ Listed p c h .riskFlag)
  | _ => True

/-- One look: it counts what the history says, and goes on to the next one. -/
structure LookedRight (s : CardingState) (p : ℕ) (c : PaymentAttempt) (seen : LookCounts)
    (look : Look) (s' : CardingState) (pc : AssessPc) : Prop where
  next : ∃ next, pc = .look next (Function.update seen look (truth p c s'.history look)) ∧
    next.rank = look.rank + 1
  others : ∀ look', look' ≠ look → truth p c s'.history look' = truth p c s.history look'

theorem LookedRight.of_event {c : PaymentAttempt} {seen : LookCounts} {look next : Look}
    {pc : AssessPc} {m n : ℕ} (hh : s'.history = .looked p look c s.clock n :: s.history)
    (hpc : pc = .look next (Function.update seen look m)) (hrank : next.rank = look.rank + 1)
    (hm : m = look.tally c s.clock s'.history) : LookedRight s p c seen look s' pc where
  next := by
    refine ⟨next, ?_, hrank⟩
    rw [hpc, hm, hh, truth_of_look (by simp [CardingEvent.isLook])]
    rfl
  others look' hne := by
    rw [hh]
    exact truth_of_other (by simp [CardingEvent.isLook, hne.symm])

/-- A look that adds to its window. -/
theorem LookedRight.of_touch (hw : s.Windows) (hw' : s'.Windows) {c : PaymentAttempt}
    {seen : LookCounts} {look next : Look} {pc : AssessPc} {k : WindowKey} {m : String} {n : ℕ}
    (hk : look.window? c = some k)
    (hmark : (CardingEvent.looked p look c s.clock n).mark k = some (m, s.clock))
    (hh : s'.history = .looked p look c s.clock n :: s.history)
    (hpc : pc = .look next (Function.update seen look
      (touch s.redis k.key m k.seconds s.clock).2)) (hrank : next.rank = look.rank + 1) :
    LookedRight s p c seen look s' pc := by
  refine .of_event hh hpc hrank ?_
  rw [hw.touch_snd k hmark, hh, tally_eq hk fun hd => hh ▸ hw'.nodup k hd]

/-- A look that only counts. -/
theorem LookedRight.of_count (hw : s.Windows) (hw' : s'.Windows) {c : PaymentAttempt}
    {seen : LookCounts} {look next : Look} {pc : AssessPc} {k : WindowKey} {n : ℕ}
    (hk : look.window? c = some k)
    (hmark : (CardingEvent.looked p look c s.clock n).mark k = none)
    (hh : s'.history = .looked p look c s.clock n :: s.history)
    (hpc : pc = .look next (Function.update seen look (count s.redis k.key k.seconds s.clock).2))
    (hrank : next.rank = look.rank + 1) : LookedRight s p c seen look s' pc := by
  refine .of_event hh hpc hrank ?_
  rw [hw.count_snd k hmark, hh, tally_eq hk fun hd => hh ▸ hw'.nodup k hd]

/-- Every look but the last one. -/
theorem stepAssess_counted (hw : s.Windows) {c : PaymentAttempt} {seen : LookCounts} {look : Look}
    {pc : AssessPc} (hstep : stepAssess s p c seen look = (s', pc)) (hlook : look ≠ .riskFlag) :
    LookedRight s p c seen look s' pc := by
  have hw' : s'.Windows := by
    have hc := stepAssess_command s p c seen look
    rw [hstep] at hc
    exact hw.command hc
  cases look with
  | distinctCards =>
    obtain ⟨rfl, rfl⟩ := Prod.mk.inj hstep
    exact .of_touch hw hw' rfl (if_pos rfl) rfl rfl rfl
  | cardAccounts =>
    obtain ⟨rfl, rfl⟩ := Prod.mk.inj hstep
    exact .of_touch hw hw' rfl (if_pos rfl) rfl rfl rfl
  | rapidBookings =>
    obtain ⟨rfl, rfl⟩ := Prod.mk.inj hstep
    exact .of_touch hw hw' rfl (if_pos rfl) rfl rfl rfl
  | declinesUser =>
    obtain ⟨rfl, rfl⟩ := Prod.mk.inj hstep
    exact .of_count hw hw' rfl rfl rfl rfl rfl
  | declinesIp =>
    cases hip : address? c.ip with
    | none =>
      simp only [stepAssess, hip] at hstep
      obtain ⟨rfl, rfl⟩ := Prod.mk.inj hstep
      have hnone : truth p c s.history .declinesIp = 0 := tally_declinesIp_of_none hip _ _
      exact ⟨⟨.smallCount, by rw [hnone], rfl⟩, fun _ _ => rfl⟩
    | some ip =>
      simp only [stepAssess, hip] at hstep
      obtain ⟨rfl, rfl⟩ := Prod.mk.inj hstep
      have hwindow : Look.declinesIp.window? c = some (.declinesIp ip) := by
        simp [Look.window?, hip]
      exact .of_count hw hw' hwindow rfl rfl rfl rfl
  | smallCount =>
    by_cases hsmall : c.amount ≤ smallAmountCeiling
    · simp only [stepAssess, hsmall, if_true] at hstep
      obtain ⟨rfl, rfl⟩ := Prod.mk.inj hstep
      exact .of_touch hw hw' rfl (if_pos ⟨rfl, hsmall⟩) rfl rfl rfl
    · simp only [stepAssess, hsmall, if_false] at hstep
      obtain ⟨rfl, rfl⟩ := Prod.mk.inj hstep
      exact .of_count hw hw' rfl (if_neg fun hk => hsmall hk.2) rfl rfl rfl
  | riskFlag => exact absurd rfl hlook

/-- The last look reads the flag. -/
theorem listed_riskFlag (hw : s.Windows) (c : PaymentAttempt) :
    (s.redis.get (riskKey c.userId) s.clock).isSome = true ↔
      Listed p c (.looked p .riskFlag c s.clock 0 :: s.history) .riskFlag := by
  have hlook : (CardingEvent.looked p .riskFlag c s.clock 0).isLook p .riskFlag = true := by
    simp [CardingEvent.isLook]
  have hraised : ∀ q c' t, CardingEvent.looked p .riskFlag c s.clock 0 ≠ .raised q c' t :=
    fun _ _ _ => nofun
  rw [hw.flag c.userId s.clock le_rfl]
  simp only [Listed, lookTime, upTo_of_look hlook]
  exact (RiskFlagged.cons hraised).symm

/-- A command adds to the history what it has done itself. -/
def OwnEvent (p : ℕ) (s s' : CardingState) : Prop :=
  s'.history = s.history ∨ ∃ e, s'.history = e :: s.history ∧ e.process = p

theorem stepAssess_ownEvent (s : CardingState) (p : ℕ) (c : PaymentAttempt) (seen : LookCounts)
    (look : Look) : OwnEvent p s (stepAssess s p c seen look).1 := by
  cases look with
  | declinesIp =>
    cases hip : address? c.ip with
    | none => exact .inl (by simp [stepAssess, hip])
    | some ip =>
      refine .inr ⟨.looked p .declinesIp c s.clock 0, ?_, rfl⟩
      simp [stepAssess, hip, CardingState.after]
  | smallCount =>
    by_cases hsmall : c.amount ≤ smallAmountCeiling
    · refine .inr ⟨.looked p .smallCount c s.clock s.drawn, ?_, rfl⟩
      simp [stepAssess, hsmall, CardingState.afterDraw]
    · refine .inr ⟨.looked p .smallCount c s.clock 0, ?_, rfl⟩
      simp [stepAssess, hsmall, CardingState.after]
  | distinctCards | cardAccounts | rapidBookings | declinesUser | riskFlag =>
    exact .inr ⟨_, rfl, rfl⟩

theorem stepRecord_ownEvent {c : PaymentOutcome} {pc pc' : RecordPc}
    (h : stepRecord s p c pc = some (s', pc')) : OwnEvent p s s' := by
  cases pc with
  | declinesIp =>
    cases hip : address? c.ip with
    | none => simp [stepRecord, hip] at h
    | some ip =>
      simp only [stepRecord, hip] at h
      obtain ⟨rfl, rfl⟩ := Prod.mk.inj (Option.some.inj h)
      exact .inr ⟨_, rfl, rfl⟩
  | label | read =>
    obtain ⟨rfl, rfl⟩ := Prod.mk.inj (Option.some.inj h)
    exact .inl rfl
  | outcome _ | declinesUser | trim | raise =>
    obtain ⟨rfl, rfl⟩ := Prod.mk.inj (Option.some.inj h)
    exact .inr ⟨_, rfl, rfl⟩
  | done => exact absurd h (by simp [stepRecord])

theorem CardingStep.ownEvent {P P' : CardingProc} {a : CardingInput}
    (h : CardingStep s p P a s' P') : OwnEvent p s s' := by
  cases h with
  | tick | attempt | outcome | allow | drop => exact .inl rfl
  | @look c look seen _ _ h =>
    have hown := stepAssess_ownEvent s p c seen look
    rw [h] at hown
    exact hown
  | record h => exact stepRecord_ownEvent h

/-- A look of another process is not one's own. -/
theorem isLook_of_process_ne (he : e.process ≠ p) (look : Look) : e.isLook p look = false := by
  cases e <;> simp_all [CardingEvent.isLook, CardingEvent.process]

/-- What an assessment has counted stays what the history says, whatever the others do. -/
theorem CardingProc.Truthful.frame {P : CardingProc}
    (he : ∀ look, e.isLook p look = false) (hP : P.Truthful p h) : P.Truthful p (e :: h) := by
  cases P with
  | assess c pc =>
    cases pc with
    | look next seen => exact fun look hlt => (hP look hlt).trans (truth_of_other (he look)).symm
    | done a =>
      obtain ⟨seen, flag, rfl, hseen, hflag⟩ := hP
      refine ⟨seen, flag, rfl, fun look hne => (hseen look hne).trans
        (truth_of_other (he look)).symm, hflag.trans ?_⟩
      simp only [Listed, lookTime, upTo_of_other (he _)]
  | _ => trivial

theorem Look.rank_lt {look : Look} (h : look ≠ .riskFlag) : look.rank < Look.riskFlag.rank := by
  cases look <;> simp_all [Look.rank]

theorem Look.rank_injective {look look' : Look} (h : look.rank = look'.rank) : look = look' := by
  cases look <;> cases look' <;> simp_all [Look.rank]

/-- The step of the process itself. -/
theorem CardingProc.Truthful.step {P P' : CardingProc} {a : CardingInput} (hw : s.Windows)
    (hP : P.Truthful p s.history) (ha : a ≠ .down) (h : CardingStep s p P a s' P') :
    P'.Truthful p s'.history := by
  cases h with
  | tick | outcome | record => trivial
  | attempt => exact fun look hlt => absurd hlt (Nat.not_lt_zero _)
  | allow => exact absurd rfl ha
  | drop => exact absurd rfl ha
  | @look c look seen _ pc hstep =>
    by_cases hlook : look = .riskFlag
    · subst hlook
      obtain ⟨rfl, rfl⟩ := Prod.mk.inj hstep
      refine ⟨seen, _, rfl, fun look hne => ?_, listed_riskFlag hw c⟩
      exact (hP look (Look.rank_lt hne)).trans
        (truth_of_other (by simp [CardingEvent.isLook, hne.symm])).symm
    · obtain ⟨⟨next, rfl, hrank⟩, hothers⟩ := stepAssess_counted hw hstep hlook
      intro look' hlt
      rcases eq_or_ne look' look with rfl | hne
      · exact Function.update_self ..
      · have hbefore : look'.rank < look.rank := by
          have hrank' : look'.rank ≠ look.rank := mt Look.rank_injective hne
          omega
        rw [Function.update_of_ne hne, hP look' hbefore, hothers look' hne]

/-- Redis answers every command. -/
def Available (_ : World CardingState CardingProc) (_ : ℕ) (a : CardingInput) : Prop := a ≠ .down

instance (w : World CardingState CardingProc) (p : ℕ) (a : CardingInput) :
    Decidable (Available w p a) := inferInstanceAs (Decidable (a ≠ .down))

/-- **What a call knows of the history, throughout every run**: its own steps keep it, the
windows being right, and so do the events of the others. -/
theorem holds_of_run {I : ℕ → List CardingEvent → CardingProc → Prop} {clock : ℕ}
    {as : List (ℕ × CardingInput)} {w : World CardingState CardingProc}
    (h : carding.Run Available (cardingStart clock) as w) (h₀ : ∀ p, I p [] .idle)
    (hframe : ∀ p e h P, e.process ≠ p → I p h P → I p (e :: h) P)
    (hstep : ∀ s s' p P P' a, s.Windows → I p s.history P → a ≠ .down →
      CardingStep s p P a s' P' → I p s'.history P') (p : ℕ) :
    I p w.shared.history (w.proc p) := by
  induction h generalizing p with
  | nil => exact h₀ p
  | @snoc as w₁ w₂ q a h hC hn ih =>
    obtain ⟨s', P', hs, rfl⟩ := System.next_eq_some.mp hn
    rcases eq_or_ne p q with rfl | hp
    · simpa using hstep _ _ p _ _ a (windows_of_run h) (ih p) hC (cardingStep_of hs)
    · simp only [Function.update_of_ne hp]
      rcases (cardingStep_of hs).ownEvent with heq | ⟨e, heq, he⟩
      · exact heq ▸ ih p
      · exact heq ▸ hframe p e _ _ (he ▸ hp.symm) (ih p)

/-- **What an assessment has counted is what the history says**, throughout every run. -/
theorem truthful_of_run {clock : ℕ} {as : List (ℕ × CardingInput)}
    {w : World CardingState CardingProc} (h : carding.Run Available (cardingStart clock) as w)
    (p : ℕ) : (w.proc p).Truthful p w.shared.history :=
  holds_of_run (I := fun p h P => P.Truthful p h) h (fun _ => trivial)
    (fun _ _ _ _ he hP => hP.frame (isLook_of_process_ne he))
    (fun _ _ _ _ _ _ hw hP ha hs => hP.step hw ha hs) p

/-- What a call has done so far. -/
def CardingProc.Did (p : ℕ) (h : List CardingEvent) : CardingProc → Prop
  | .idle => deeds p h = []
  | .assess c (.look next _) => deeds p h = looksBelow p c next.rank
  | .assess c (.done a) => (CardingProc.assess c (.done a)).Complete p h
  | .record c pc =>
    match pc with
    | .label | .outcome _ => deeds p h = []
    | .declinesUser => c.approved = false ∧ deeds p h = [.outcome p c 0 0]
    | .declinesIp => c.approved = false ∧ Addressed c.ip ∧
        deeds p h = [.outcome p c 0 0, .declined p .declinesUser c 0 0]
    | .trim => c.approved = true ∧ deeds p h = [.outcome p c 0 0]
    | .read | .raise => c.approved = true ∧ deeds p h = approvalDeeds p c
    | .done => (CardingProc.record c .done).Complete p h

theorem deeds_cons (he : e.process = p) : deeds p (e :: h) = deeds p h ++ [e.untimed] := by
  simp [deeds, he]

theorem deeds_cons_ne (he : e.process ≠ p) : deeds p (e :: h) = deeds p h := by
  simp [deeds, he]

theorem CardingProc.Did.frame {P : CardingProc} (he : e.process ≠ p) (hP : P.Did p h) :
    P.Did p (e :: h) := by
  cases P with
  | idle => exact (deeds_cons_ne he).trans hP
  | assess c pc => cases pc <;> exact (deeds_cons_ne he).trans hP
  | record c pc => cases pc <;> simpa only [Did, Complete, deeds_cons_ne he] using hP

/-- The look of a rank comes after those below. -/
theorem looksBelow_succ {c : PaymentAttempt} {look : Look}
    (hip : look = .declinesIp → Addressed c.ip) :
    looksBelow p c (look.rank + 1) = looksBelow p c look.rank ++ [.looked p look c 0 0] := by
  cases look <;> by_cases hto : Addressed c.ip <;>
    simp_all [looksBelow, Look.inTurn, Look.rank, List.filter]

/-- Without an address the look at it is left out. -/
theorem looksBelow_unaddressed {c : PaymentAttempt} (hip : ¬ Addressed c.ip) :
    looksBelow p c Look.smallCount.rank = looksBelow p c Look.declinesIp.rank := by
  simp [looksBelow, Look.inTurn, Look.rank, hip]

theorem address?_isSome {named : Option String} :
    (address? named).isSome = true ↔ Addressed named := by
  cases named <;> simp [address?, Addressed, Option.filter]

theorem Addressed.of_some {named : Option String} {ip : String} (h : address? named = some ip) :
    Addressed named := address?_isSome.mp (by simp [h])

/-- One look: it is in the history, and the next one is of the next rank. -/
theorem stepAssess_did {c : PaymentAttempt} {seen : LookCounts} {look : Look} {pc : AssessPc}
    (hP : deeds p s.history = looksBelow p c look.rank)
    (hstep : stepAssess s p c seen look = (s', pc)) :
    (CardingProc.assess c pc).Did p s'.history := by
  have hnext : ∀ t n, (look = .declinesIp → Addressed c.ip) →
      deeds p (.looked p look c t n :: s.history) = looksBelow p c (look.rank + 1) := by
    intro t n hip
    rw [looksBelow_succ hip, ← hP]
    exact deeds_cons rfl
  cases look with
  | declinesIp =>
    cases hip : address? c.ip with
    | none =>
      simp only [stepAssess, hip] at hstep
      obtain ⟨rfl, rfl⟩ := Prod.mk.inj hstep
      have hto : ¬ Addressed c.ip := fun hto => by simpa [hip] using address?_isSome.mpr hto
      exact hP.trans (looksBelow_unaddressed hto).symm
    | some ip =>
      simp only [stepAssess, hip] at hstep
      obtain ⟨rfl, rfl⟩ := Prod.mk.inj hstep
      exact hnext _ _ fun _ => .of_some hip
  | smallCount =>
    by_cases hsmall : c.amount ≤ smallAmountCeiling <;>
      · simp only [stepAssess, hsmall, if_true, if_false] at hstep
        obtain ⟨rfl, rfl⟩ := Prod.mk.inj hstep
        exact hnext _ _ nofun
  | distinctCards | cardAccounts | rapidBookings | declinesUser | riskFlag =>
    obtain ⟨rfl, rfl⟩ := Prod.mk.inj hstep
    exact hnext _ _ nofun

/-- One command of `record_outcome`. -/
theorem stepRecord_did {c : PaymentOutcome} {pc pc' : RecordPc}
    (hP : (CardingProc.record c pc).Did p s.history)
    (hstep : stepRecord s p c pc = some (s', pc')) :
    (CardingProc.record c pc').Did p s'.history := by
  cases pc with
  | label =>
    obtain ⟨rfl, rfl⟩ := Prod.mk.inj (Option.some.inj hstep)
    exact hP
  | outcome label =>
    obtain ⟨rfl, rfl⟩ := Prod.mk.inj (Option.some.inj hstep)
    have hdone : deeds p (.outcome p c label s.clock :: s.history) = [.outcome p c 0 0] :=
      (deeds_cons rfl).trans (congrArg (· ++ _) hP)
    cases happroved : c.approved with
    | false => exact ⟨happroved, hdone⟩
    | true => exact ⟨happroved, hdone⟩
  | declinesUser =>
    obtain ⟨rfl, rfl⟩ := Prod.mk.inj (Option.some.inj hstep)
    obtain ⟨hdeclined, hbefore⟩ := hP
    have hdone : deeds p (.declined p .declinesUser c s.clock s.drawn :: s.history) =
        [.outcome p c 0 0, .declined p .declinesUser c 0 0] :=
      (deeds_cons rfl).trans (congrArg (· ++ _) hbefore)
    by_cases hto : Addressed c.ip
    -- with an address there is a window more to write to, else the call has ended
    · rw [if_pos (address?_isSome.mpr hto)]
      exact ⟨hdeclined, hto, hdone⟩
    · rw [if_neg (mt address?_isSome.mp hto)]
      refine (if_neg (by simp [hdeclined])).mpr (hdone.trans ?_)
      simp [declineDeeds, hto]
  | declinesIp =>
    obtain ⟨hdeclined, hto, hbefore⟩ := hP
    cases hip : address? c.ip with
    | none => simp [stepRecord, hip] at hstep
    | some ip =>
      simp only [stepRecord, hip] at hstep
      obtain ⟨rfl, rfl⟩ := Prod.mk.inj (Option.some.inj hstep)
      have hdone : deeds p (.declined p .declinesIp c s.clock s.drawn :: s.history) =
          [.outcome p c 0 0, .declined p .declinesUser c 0 0, .declined p .declinesIp c 0 0] :=
        (deeds_cons rfl).trans (congrArg (· ++ _) hbefore)
      refine (if_neg (by simp [hdeclined])).mpr (hdone.trans ?_)
      simp [declineDeeds, hto]
  | trim =>
    obtain ⟨rfl, rfl⟩ := Prod.mk.inj (Option.some.inj hstep)
    obtain ⟨happroved, hbefore⟩ := hP
    exact ⟨happroved, (deeds_cons rfl).trans (congrArg (· ++ _) hbefore)⟩
  | read =>
    obtain ⟨rfl, rfl⟩ := Prod.mk.inj (Option.some.inj hstep)
    obtain ⟨happroved, hbefore⟩ := hP
    split
    · exact ⟨happroved, hbefore⟩
    -- no burst: the call ends without raising the flag
    · exact (if_pos happroved).mpr (.inl hbefore)
  | raise =>
    obtain ⟨rfl, rfl⟩ := Prod.mk.inj (Option.some.inj hstep)
    obtain ⟨happroved, hbefore⟩ := hP
    exact (if_pos happroved).mpr (.inr ((deeds_cons rfl).trans (congrArg (· ++ _) hbefore)))
  | done => exact absurd hstep (by simp [stepRecord])

/-- The step of the process itself. -/
theorem CardingProc.Did.step {P P' : CardingProc} {a : CardingInput}
    (hP : P.Did p s.history) (ha : a ≠ .down) (h : CardingStep s p P a s' P') :
    P'.Did p s'.history := by
  cases h with
  | tick | outcome => exact hP
  | attempt c => simpa [Did, looksBelow, Look.inTurn, Look.rank] using hP
  | allow | drop => exact absurd rfl ha
  | look hstep => exact stepAssess_did hP hstep
  | record hstep => exact stepRecord_did hP hstep

/-- **Every call that has ended has done all it is to do**, throughout every run. -/
theorem complete_of_run {clock : ℕ} {as : List (ℕ × CardingInput)}
    {w : World CardingState CardingProc} (h : carding.Run Available (cardingStart clock) as w)
    (p : ℕ) : (w.proc p).Complete p w.shared.history := by
  have hdid : (w.proc p).Did p w.shared.history :=
    holds_of_run (I := fun p h P => P.Did p h) h (fun _ => rfl)
      (fun _ _ _ _ he hP => hP.frame he) (fun _ _ _ _ _ _ _ hP ha hs => hP.step ha hs) p
  cases hproc : w.proc p with
  | idle => trivial
  | assess c pc =>
    rw [hproc] at hdid
    cases pc with
    | look => trivial
    | done a => exact hdid
  | record c pc =>
    rw [hproc] at hdid
    cases pc with
    | done => exact hdid
    | _ => trivial

end Windows

/-! ### The rules -/

/-- The rules that hit, with the counts given. -/
def LookCounts.listed (c : LookCounts) (riskFlag : Bool) : List Look :=
  Look.all.filter fun look =>
    if look = .riskFlag then riskFlag else decide (look.threshold ≤ c look)

theorem filter_cons_map {α β : Type} (q : α → Bool) (f : α → β) (a : α) (l : List α) :
    ((a :: l).filter q).map f = (if q a then [f a] else []) ++ (l.filter q).map f := by
  by_cases h : q a = true <;> simp [h]

/-- The hits, one rule at a time. -/
theorem LookCounts.map_hits (c : LookCounts) (riskFlag : Bool) :
    (c.hits riskFlag).map (fun h => (h.rule, h.score)) =
      (c.listed riskFlag).map fun look => (look.rule, look.score) := by
  simp only [LookCounts.hits, LookCounts.listed, Look.all, filter_cons_map, List.map_append,
    List.append_assoc, apply_ite (List.map fun h : RuleHit => (h.rule, h.score)), List.map_cons,
    List.map_nil,
    reduceCtorEq, if_false, if_true, decide_eq_true_eq, List.filter_nil, List.append_nil]
  rfl

theorem LookCounts.mem_listed {c : LookCounts} {riskFlag : Bool} {look : Look} :
    look ∈ c.listed riskFlag ↔
      if look = .riskFlag then riskFlag = true else look.threshold ≤ c look := by
  cases look <;> simp [LookCounts.listed, Look.all]

/-- **The velocity rules are exact.**  In every run in which Redis answers, whatever calls
for whatever users, cards and addresses take turns, the rules a finished assessment lists
are exactly those whose count, taken from the whole history in the rule's window, reaches
its threshold, and the flag's where the account has been flagged for no more than half an
hour; and the score is the sum over these rules.  The history is that of the calls: every
call that has ended is in it with all it had to do, each attempt with its looks and each
decline with its account and its address. -/
theorem velocity_rules_exact {clock : ℕ} {as : List (ℕ × CardingInput)}
    {w : World CardingState CardingProc} (h : carding.Run Available (cardingStart clock) as w)
    {p : ℕ} {c : PaymentAttempt} {a : Assessment} (hp : w.proc p = .assess c (.done a)) :
    (∀ q, (w.proc q).Complete q w.shared.history) ∧
      ∃ listed : List Look, listed.Sublist Look.all ∧
        (∀ look, look ∈ listed ↔ Listed p c w.shared.history look) ∧
        a.hits.map RuleHit.rule = listed.map Look.rule ∧
        a.score = (listed.map Look.score).sum := by
  refine ⟨complete_of_run h, ?_⟩
  have htrue := truthful_of_run h p
  rw [hp] at htrue
  obtain ⟨seen, flag, rfl, hseen, hflag⟩ := htrue
  have hhits := seen.map_hits flag
  refine ⟨seen.listed flag, List.filter_sublist, fun look => ?_, ?_, ?_⟩
  · rw [LookCounts.mem_listed]
    by_cases hlook : look = .riskFlag
    · subst hlook
      simpa using hflag
    · rw [if_neg hlook, hseen look hlook]
      cases look <;> first | exact Iff.rfl | exact absurd rfl hlook
  · simpa [assessment, Function.comp_def] using congrArg (List.map Prod.fst) hhits
  · have hscores := congrArg (List.map Prod.snd) hhits
    rw [List.map_map, List.map_map] at hscores
    exact congrArg List.sum hscores

/-- An attempt of user 10. -/
def attemptOfTen : PaymentAttempt := ⟨10, some "203.0.113.7", "card", 25000⟩

/-- The declines of user 10, then those of user 11, of one address; the latest is of user 12,
who has none. -/
def declinesOfNine : List PaymentOutcome :=
  List.replicate 5 ⟨10, some "203.0.113.7", false⟩ ++
    List.replicate 3 ⟨11, some "203.0.113.7", false⟩ ++ [⟨12, none, false⟩]

/-- The declines are recorded in turns of two commands each, and the attempt is assessed
after them; the clock moves in between. -/
def assessedAfterDeclines : List (ℕ × CardingInput) :=
  (declinesOfNine.zipIdx.map fun c => (c.2, CardingInput.outcome c.1)) ++
    ((List.range 9).flatMap fun p => [(p, .go), (10, .tick 250), (p, .go)]) ++
    ((List.range 8).flatMap fun p => [(p, .go), (10, .tick 250), (p, .go)]) ++
    [(8, .go), (9, .attempt attemptOfTen)] ++ List.replicate 7 (9, .go)

/-- The assessment a process has ended with. -/
def CardingProc.finished? : CardingProc → Option (PaymentAttempt × Assessment)
  | .assess c (.done a) => some (c, a)
  | _ => none

theorem CardingProc.eq_of_finished {P : CardingProc} {c : PaymentAttempt} {a : Assessment}
    (h : P.finished? = some (c, a)) : P = .assess c (.done a) := by
  cases P with
  | assess c' pc =>
    cases pc with
    | done a' =>
      obtain ⟨rfl, rfl⟩ := Prod.mk.inj (Option.some.inj h)
      rfl
    | look => exact absurd h (by simp [finished?])
  | _ => exact absurd h (by simp [finished?])

/-- Five declines of the account, and eight of the address: it scores 65. -/
theorem velocity_rules_exact_declines : ∃ w a,
    carding.Run Available (cardingStart 0) assessedAfterDeclines w ∧
    w.proc 9 = .assess attemptOfTen (.done a) ∧
    a.hits.map RuleHit.rule = ["declines_per_account", "declines_per_ip"] ∧ a.score = 65 ∧
    (∀ q, (w.proc q).Complete q w.shared.history) ∧
    ∃ listed : List Look, listed.Sublist Look.all ∧
      (∀ look, look ∈ listed ↔ Listed 9 attemptOfTen w.shared.history look) ∧
      a.hits.map RuleHit.rule = listed.map Look.rule ∧
      a.score = (listed.map Look.score).sum := by
  have hchecked : (carding.checked Available (cardingStart 0) assessedAfterDeclines).any (fun w =>
      (w.proc 9).finished?.any fun r => decide (r.1 = attemptOfTen ∧
        r.2.hits.map RuleHit.rule = ["declines_per_account", "declines_per_ip"] ∧
        r.2.score = 65)) = true := by decide +kernel
  obtain ⟨w, hrun, htest⟩ := System.exists_run_of_checked hchecked
  obtain ⟨⟨c, a⟩, hfinished, hr⟩ := (Option.any_eq_true _ _).mp htest
  obtain ⟨rfl, hrules, hscore⟩ := of_decide_eq_true hr
  have hp := CardingProc.eq_of_finished hfinished
  exact ⟨w, a, hrun, hp, hrules, hscore, velocity_rules_exact hrun hp⟩

end SkyLock
