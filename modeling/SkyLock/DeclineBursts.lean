import Mathlib.Data.String.Basic
import SkyLock.VelocityRules

/-!
# A decline burst and then a success

`record_outcome` keeps the outcomes of an account in a sorted set of texts, each the
millisecond and the outcome, and reads them back after an approval.  Two outcomes of one
millisecond can be one text, or come back in the other order.

## Main definitions

* `outcomesOf`, `preceding` — the outcomes of an account, from the history of the calls.
* `Burst` — a burst of declines right before an approval.
* `InOrder` — every outcome goes to the end of its account's sequence.

## Main results

* `flagged_iff_burst` — **where outcomes go to the end, an approval raises the flag iff a
  burst of declines came right before it**.
* `burst_missed` — three declines of one millisecond are one.
-/

namespace SkyLock

open Concurrent

/-! ### The outcomes of an account -/

/-- An outcome: its label, and the reading it was added at. -/
structure OutcomeMark where
  approved : Bool
  label : ℕ
  now : ℕ
  deriving DecidableEq, Repr

/-- The entry of an outcome in the sorted set. -/
def OutcomeMark.entry (o : OutcomeMark) : String × ℕ := (outcomeMember o.label o.approved, o.now)

/-- The outcomes of an account, the latest first. -/
def outcomesOf (u : UserId) (h : List CardingEvent) : List OutcomeMark :=
  h.filterMap fun
    | .outcome _ c label now => if c.userId = u then some ⟨c.approved, label, now⟩ else none
    | _ => none

/-- The event is process `p` adding its outcome. -/
def CardingEvent.isOutcomeOf (p : ℕ) : CardingEvent → Bool
  | .outcome q _ _ _ => decide (q = p)
  | _ => false

/-- The outcomes of an account before that of process `p`, the latest first. -/
def preceding (p : ℕ) (u : UserId) (h : List CardingEvent) : List OutcomeMark :=
  outcomesOf u (h.dropWhile fun e => !e.isOutcomeOf p).tail

/-- The reading at which process `p` trimmed the sequence, to read it back. -/
def lookBack (p : ℕ) (h : List CardingEvent) : ℕ :=
  (h.findSome? fun
    | .trimmed q _ now => if q = p then some now else none
    | _ => none).getD 0

/-- At least `T_DECLINE_BURST` declines came right before, all of them within the last
`W_OUTCOME_SEQUENCE` seconds. -/
def Burst (now : ℕ) (before : List OutcomeMark) : Prop :=
  tDeclineBurst ≤ before.length ∧
    ∀ o ∈ before.take tDeclineBurst, o.approved = false ∧ now < o.now + millis wOutcomeSequence

instance (now : ℕ) (before : List OutcomeMark) : Decidable (Burst now before) :=
  inferInstanceAs (Decidable (_ ∧ _))

/-- Process `p` raised the flag. -/
def Raised (p : ℕ) (h : List CardingEvent) : Prop := ∃ c t, CardingEvent.raised p c t ∈ h

/-- The event is process `p` raising the flag. -/
def CardingEvent.isRaised (p : ℕ) : CardingEvent → Bool
  | .raised q _ _ => decide (q = p)
  | _ => false

/-! ### The condition -/

/-- The account whose outcome a call is recording. -/
def CardingProc.underWay? : CardingProc → Option UserId
  | .record _ .label | .record _ .done => none
  | .record c _ => some c.userId
  | _ => none

/-- A call of one account starts when no other is under way; it reads its label in a later
millisecond than the outcome before it was added in, or in the same one where that one is
an approval of this very millisecond and this one a decline; and the range of an approval
is served before its key is gone. -/
def InOrder (w : World CardingState CardingProc) (p : ℕ) (a : CardingInput) : Prop :=
  a ≠ .down ∧
    match w.proc p with
    | .record c .label =>
      (∀ q, (w.proc q).underWay? ≠ some c.userId) ∧
        ∀ o ∈ (outcomesOf c.userId w.shared.history).head?,
          o.now < w.shared.clock ∨ o.approved = true ∧ c.approved = false ∧
            o.label = w.shared.clock ∧ o.now = w.shared.clock
    | .record c .read =>
      ∀ o ∈ (outcomesOf c.userId w.shared.history).head?,
        w.shared.clock ≤ o.now + millis (wOutcomeSequence + 1)
    | _ => True

/-- The account whose sequence the next command of a call changes. -/
def CardingProc.writes? : CardingProc → Option UserId
  | .record c (.outcome _) | .record c .trim => some c.userId
  | _ => none

section Order

variable {s s' : CardingState} {p q : ℕ} {u : UserId} {h : List CardingEvent} {e : CardingEvent}
  {o o' : OutcomeMark}

/-- One outcome goes after another: it has a later label than the other's reading, or is a
decline of the millisecond in which the other, an approval, was made. -/
def OutcomeMark.After (o o' : OutcomeMark) : Prop :=
  o'.now < o.label ∨ o'.approved = true ∧ o.approved = false ∧ o'.label = o.label ∧ o'.now = o.label

theorem endsWithDecline_outcomeMember (label : ℕ) (approved : Bool) :
    endsWithDecline (outcomeMember label approved) = !approved := by
  cases approved <;> simp [endsWithDecline, outcomeMember, List.isSuffixOf, List.isPrefixOf]

/-- Members of different labels or of different outcomes are different. -/
theorem outcomeMember_injective {m n : ℕ} {a b : Bool} (h : outcomeMember m a = outcomeMember n b) :
    m = n ∧ a = b := by
  have hab : a = b := by
    have hends := congrArg endsWithDecline h
    simpa [endsWithDecline_outcomeMember] using hends
  subst hab
  refine ⟨uuidText_injective ?_, rfl⟩
  simpa [outcomeMember, uuidText] using h

theorem OutcomeMark.After.entry_ne (h : o.After o') (ht : o'.label ≤ o'.now) :
    o'.entry.1 ≠ o.entry.1 := by
  intro heq
  obtain ⟨hlabel, happroved⟩ := outcomeMember_injective heq
  rcases h with hlt | ⟨h₁, h₂, -, -⟩
  · omega
  · simp [h₁, h₂] at happroved

/-- The text of an approval comes before that of a decline of the same millisecond. -/
theorem approve_lt_decline (n : ℕ) : outcomeMember n true < outcomeMember n false := by
  rw [String.lt_iff_toList_lt]
  simp only [outcomeMember, String.toList_append]
  exact List.append_left_lt (by decide)

/-- An outcome that goes after another is sorted after it. -/
theorem OutcomeMark.After.before (h : o.After o') (ht : o.label ≤ o.now) :
    SortedSet.Before o'.entry o.entry := by
  rcases h with hlt | ⟨h₁, h₂, hlabel, hnow⟩
  · exact .inl (show o'.now < o.now by omega)
  · rcases Nat.lt_or_ge o'.now o.now with hlt | hge
    · exact .inl hlt
    · refine .inr ⟨show o'.now = o.now by omega, ?_⟩
      simp only [entry, h₁, h₂, hlabel]
      exact approve_lt_decline o.label

/-! ### Reading a sequence back -/

/-- What the declines right before the last outcome come to: so many of them, each in the
window, in a sequence that is in the order of time. -/
theorem le_length_takeWhile_filter {α : Type} {declined recent : α → Bool} : ∀ {l : List α},
    l.Pairwise (fun a b => recent b = true → recent a = true) → ∀ n,
      n ≤ ((l.filter recent).takeWhile declined).length ↔
        n ≤ l.length ∧ ∀ a ∈ l.take n, declined a = true ∧ recent a = true
  | [], _, n => by simp
  | a :: l, hl, 0 => by simp
  | a :: l, hl, n + 1 => by
    rw [List.pairwise_cons] at hl
    have ih : n ≤ ((l.filter recent).takeWhile declined).length ↔ _ :=
      le_length_takeWhile_filter hl.2 n
    by_cases ha : recent a = true
    · by_cases hd : declined a = true
      · simp [ha, hd, ih]
      · simp [ha, hd]
    · -- nothing after it is recent either
      have hnone : l.filter recent = [] :=
        List.filter_eq_nil_iff.mpr fun b hb hrecent => ha (hl.1 b hb hrecent)
      simp [ha, hnone]

theorem marks_outcomes (u : UserId) (h : List CardingEvent) :
    marks (.outcomes u) h = (outcomesOf u h).map OutcomeMark.entry := by
  rw [marks, outcomesOf, List.map_filterMap]
  refine List.filterMap_congr fun e _ => ?_
  rcases e with ⟨q, l, c, t, n⟩ | ⟨q, l, c, t, n⟩ | ⟨q, c, m, t⟩ | _ | _
  · cases l <;> simp [CardingEvent.mark]
  · cases l <;> simp [CardingEvent.mark]
  · rcases eq_or_ne c.userId u with rfl | hu
    · simp [CardingEvent.mark, OutcomeMark.entry]
    · simp [CardingEvent.mark, hu, hu.symm]
  all_goals simp [CardingEvent.mark]

/-- The outcomes of an account are in order, and its set has the end of them. -/
structure Sequence (s : CardingState) (u : UserId) : Prop where
  ordered : (outcomesOf u s.history).Pairwise OutcomeMark.After
  timed : ∀ o ∈ outcomesOf u s.history, o.label ≤ o.now ∧ o.now ≤ s.clock
  lists : SortedSet.Lists (s.redis.zset (WindowKey.outcomes u).key) (marks (.outcomes u) s.history)
    (WindowKey.outcomes u).span (millis (wOutcomeSequence + 1)) s.clock

/-- Later outcomes have later readings. -/
theorem OutcomeMark.After.now_le (h : o.After o') (ht : o.label ≤ o.now) : o'.now ≤ o.now := by
  rcases h with hlt | ⟨-, -, -, hnow⟩ <;> omega

/-- What the members of a trimmed sequence say: the declines right before the latest
outcome, as far as they are in the window. -/
theorem trailingDeclines_iff {before : List OutcomeMark} {span now : ℕ}
    (hsorted : (o :: before).Pairwise fun o o' => o'.now ≤ o.now) :
    tDeclineBurst ≤ trailingDeclines ((SortedSet.recent ((o :: before).map OutcomeMark.entry) span
      now).reverse.map Prod.fst) ↔
      tDeclineBurst ≤ before.length ∧
        ∀ o ∈ before.take tDeclineBurst, o.approved = false ∧ now < o.now + span := by
  rw [List.pairwise_cons] at hsorted
  let recent : OutcomeMark → Bool := fun o => decide (now < o.now + span)
  have hmembers : (SortedSet.recent ((o :: before).map OutcomeMark.entry) span now).map Prod.fst =
      ((o :: before).filter recent).map fun o => outcomeMember o.label o.approved := by
    rw [SortedSet.recent, List.filter_map, List.map_map]
    rfl
  -- the last one is skipped; where it is too old already, so are the others
  have htail : ((o :: before).filter recent).tail = before.filter recent := by
    by_cases ho : recent o = true
    · rw [List.filter_cons_of_pos ho, List.tail_cons]
    · have hnone : before.filter recent = [] := List.filter_eq_nil_iff.mpr fun o' ho' hrecent => by
        have hle := hsorted.1 o' ho'
        have hlt : now < o'.now + span := of_decide_eq_true hrecent
        exact ho (decide_eq_true (by omega))
      rw [List.filter_cons_of_neg ho, hnone]
      rfl
  have hdeclined : endsWithDecline ∘ (fun o : OutcomeMark => outcomeMember o.label o.approved) =
      fun o => !o.approved := funext fun o => endsWithDecline_outcomeMember o.label o.approved
  have htrailing : trailingDeclines ((SortedSet.recent ((o :: before).map OutcomeMark.entry) span
      now).reverse.map Prod.fst) = ((before.filter recent).takeWhile fun o => !o.approved).length := by
    rw [trailingDeclines, List.map_reverse, hmembers, List.dropLast_reverse, List.reverse_reverse,
      ← List.map_tail, htail, List.takeWhile_map, List.length_map, hdeclined]
  rw [htrailing, le_length_takeWhile_filter]
  · simp [recent]
  · refine hsorted.2.imp fun {a b} hle hrecent => ?_
    have hlt : now < b.now + span := of_decide_eq_true hrecent
    exact decide_eq_true (by omega)

/-! ### What one step keeps -/

/-- The outcomes of an account are left alone, in the history and in the store. -/
structure Quiet (u : UserId) (s s' : CardingState) : Prop where
  outcomes : outcomesOf u s'.history = outcomesOf u s.history
  zset : s'.redis.zset (WindowKey.outcomes u).key = s.redis.zset (WindowKey.outcomes u).key
  clock : s.clock ≤ s'.clock

theorem zset_after_touch (r : Redis) (k : WindowKey) (m : String) (windowSeconds now : ℕ)
    (hk : k ≠ .outcomes u) : (touch r k.key m windowSeconds now).1.zset (WindowKey.outcomes u).key =
      r.zset (WindowKey.outcomes u).key :=
  Redis.zset_setZset_ne _ _ fun h => hk (WindowKey.key_injective h).symm

theorem zset_after_count (r : Redis) (k : WindowKey) (windowSeconds now : ℕ)
    (hk : k ≠ .outcomes u) : (count r k.key windowSeconds now).1.zset (WindowKey.outcomes u).key =
      r.zset (WindowKey.outcomes u).key :=
  Redis.zset_setZset_ne _ _ fun h => hk (WindowKey.key_injective h).symm

theorem stepAssess_quiet (s : CardingState) (p : ℕ) (c : PaymentAttempt) (seen : LookCounts)
    (look : Look) (u : UserId) : Quiet u s (stepAssess s p c seen look).1 := by
  cases look with
  | distinctCards | cardAccounts | rapidBookings =>
    exact ⟨rfl, zset_after_touch _ _ _ _ _ (by simp), le_rfl⟩
  | declinesUser => exact ⟨rfl, zset_after_count _ _ _ _ (by simp), le_rfl⟩
  | declinesIp =>
    cases hip : address? c.ip with
    | none =>
      simp only [stepAssess, hip]
      exact ⟨rfl, rfl, le_rfl⟩
    | some ip =>
      simp only [stepAssess, hip]
      exact ⟨rfl, zset_after_count _ _ _ _ (by simp), le_rfl⟩
  | smallCount =>
    by_cases hsmall : c.amount ≤ smallAmountCeiling
    · simp only [stepAssess, hsmall, if_true]
      exact ⟨rfl, zset_after_touch _ _ _ _ _ (by simp), le_rfl⟩
    · simp only [stepAssess, hsmall, if_false]
      exact ⟨rfl, zset_after_count _ _ _ _ (by simp), le_rfl⟩
  | riskFlag => exact ⟨rfl, rfl, le_rfl⟩

theorem stepRecord_quiet {c : PaymentOutcome} {pc pc' : RecordPc}
    (h : stepRecord s p c pc = some (s', pc')) (hu : (CardingProc.record c pc).writes? ≠ some u) :
    Quiet u s s' := by
  cases pc with
  | label | read =>
    obtain ⟨rfl, rfl⟩ := Prod.mk.inj (Option.some.inj h)
    exact ⟨rfl, rfl, le_rfl⟩
  | outcome label =>
    obtain ⟨rfl, rfl⟩ := Prod.mk.inj (Option.some.inj h)
    have hne : c.userId ≠ u := fun heq => hu (congrArg some heq)
    refine ⟨?_, zset_after_touch _ _ _ _ _ fun heq => hne (WindowKey.outcomes.inj heq), le_rfl⟩
    simp [CardingState.after, outcomesOf, hne]
  | declinesUser =>
    obtain ⟨rfl, rfl⟩ := Prod.mk.inj (Option.some.inj h)
    exact ⟨rfl, zset_after_touch _ _ _ _ _ (by simp), le_rfl⟩
  | declinesIp =>
    cases hip : address? c.ip with
    | none => simp [stepRecord, hip] at h
    | some ip =>
      simp only [stepRecord, hip] at h
      obtain ⟨rfl, rfl⟩ := Prod.mk.inj (Option.some.inj h)
      exact ⟨rfl, zset_after_touch _ _ _ _ _ (by simp), le_rfl⟩
  | trim =>
    obtain ⟨rfl, rfl⟩ := Prod.mk.inj (Option.some.inj h)
    have hne : c.userId ≠ u := fun heq => hu (congrArg some heq)
    exact ⟨rfl, zset_after_count _ _ _ _ fun heq => hne (WindowKey.outcomes.inj heq), le_rfl⟩
  | raise =>
    obtain ⟨rfl, rfl⟩ := Prod.mk.inj (Option.some.inj h)
    exact ⟨rfl, rfl, le_rfl⟩
  | done => exact absurd h (by simp [stepRecord])

/-- Only two commands change a sequence. -/
theorem CardingStep.quiet {P P' : CardingProc} {a : CardingInput} (h : CardingStep s p P a s' P')
    (hu : P.writes? ≠ some u) : Quiet u s s' := by
  cases h with
  | tick d => exact ⟨rfl, rfl, Nat.le_add_right ..⟩
  | attempt | outcome | allow | drop => exact ⟨rfl, rfl, le_rfl⟩
  | @look c look seen _ _ h =>
    have hquiet := stepAssess_quiet s p c seen look u
    rw [h] at hquiet
    exact hquiet
  | record h => exact stepRecord_quiet h hu

theorem Sequence.quiet (hs : Sequence s u) (hq : Quiet u s s') : Sequence s' u where
  ordered := hq.outcomes ▸ hs.ordered
  timed o ho := by
    obtain ⟨hlabel, hnow⟩ := hs.timed o (hq.outcomes ▸ ho)
    exact ⟨hlabel, hnow.trans hq.clock⟩
  lists := by
    rw [hq.zset, marks_outcomes, hq.outcomes, ← marks_outcomes]
    exact hs.lists.later hq.clock

/-- An outcome that goes to the end of the sequence of its account. -/
theorem Sequence.outcome (hs : Sequence s u) (hw : s.Windows) {c : PaymentOutcome} {label : ℕ}
    (hu : c.userId = u) (hlabel : label ≤ s.clock)
    (hafter : ∀ o ∈ outcomesOf u s.history, OutcomeMark.After ⟨c.approved, label, s.clock⟩ o) :
    Sequence (s.after (touch s.redis (WindowKey.outcomes u).key (outcomeMember label c.approved)
      (WindowKey.outcomes u).seconds s.clock).1 (.outcome p c label s.clock)) u := by
  have hcons : outcomesOf u (.outcome p c label s.clock :: s.history) =
      ⟨c.approved, label, s.clock⟩ :: outcomesOf u s.history := by simp [outcomesOf, hu]
  refine ⟨?_, ?_, ?_⟩
  · simp only [CardingState.after, hcons]
    exact List.pairwise_cons.mpr ⟨hafter, hs.ordered⟩
  · simp only [CardingState.after, hcons]
    exact List.forall_mem_cons.mpr ⟨⟨hlabel, le_rfl⟩, hs.timed⟩
  · have hnew : ∀ e ∈ marks (.outcomes u) s.history, e.1 ≠ outcomeMember label c.approved := by
      intro e he
      rw [marks_outcomes] at he
      obtain ⟨o, ho, rfl⟩ := List.mem_map.mp he
      exact (hafter o ho).entry_ne (hs.timed o ho).1
    have hspan : 0 < (WindowKey.outcomes u).span := by
      simp [WindowKey.span, WindowKey.seconds, millis, wOutcomeSequence]
    have hadd := (hs.lists.trim (hw.tracks (.outcomes u))).add hspan hnew
    have hmarks : marks (.outcomes u) (.outcome p c label s.clock :: s.history) =
        (outcomeMember label c.approved, s.clock) :: marks (.outcomes u) s.history := by
      simp [marks_cons, CardingEvent.mark, hu]
    simp only [CardingState.after, hmarks]
    rw [touch, Redis.zset_setZset]
    exact hadd

/-! ### Where a call stands -/

/-- What a call knows of the sequence of its account. -/
def RecordPc.Stands (p : ℕ) (c : PaymentOutcome) (s : CardingState) : RecordPc → Prop
  | .label => ¬ Raised p s.history
  | .outcome m => ¬ Raised p s.history ∧ m ≤ s.clock ∧
      ∀ o ∈ outcomesOf c.userId s.history, ∀ now, OutcomeMark.After ⟨c.approved, m, now⟩ o
  | .declinesUser | .declinesIp => ¬ Raised p s.history ∧ c.approved = false
  | .trim => ¬ Raised p s.history ∧
      ∃ o, outcomesOf c.userId s.history = o :: preceding p c.userId s.history
  | .read => ¬ Raised p s.history ∧
      (∃ o, outcomesOf c.userId s.history = o :: preceding p c.userId s.history) ∧
      (s.redis.zset (WindowKey.outcomes c.userId).key).entries =
        (SortedSet.recent (marks (.outcomes c.userId) s.history) (WindowKey.outcomes c.userId).span
          (lookBack p s.history)).reverse
  | .raise => ¬ Raised p s.history ∧ Burst (lookBack p s.history) (preceding p c.userId s.history)
  | .done => c.approved = true →
      (Raised p s.history ↔ Burst (lookBack p s.history) (preceding p c.userId s.history))

/-- What a process knows of its sequence. -/
def CardingProc.Stands (p : ℕ) (s : CardingState) : CardingProc → Prop
  | .idle => ¬ Raised p s.history
  | .assess _ _ => True
  | .record c pc => pc.Stands p c s

theorem raised_cons (he : ∀ c t, e ≠ .raised p c t) : Raised p (e :: h) ↔ Raised p h := by
  simp only [Raised, List.mem_cons]
  refine exists_congr fun c => exists_congr fun t => ?_
  simp [(he c t).symm]

theorem preceding_cons (he : e.isOutcomeOf p = false) (u : UserId) :
    preceding p u (e :: h) = preceding p u h := by
  simp [preceding, he]

theorem isOutcomeOf_of_process_ne (he : e.process ≠ p) : e.isOutcomeOf p = false := by
  cases e <;> simp_all [CardingEvent.isOutcomeOf, CardingEvent.process]

theorem lookBack_cons (he : e.process ≠ p) : lookBack p (e :: h) = lookBack p h := by
  cases e <;> simp_all [lookBack, CardingEvent.process]

/-- What the others do leaves it standing. -/
theorem CardingProc.Stands.frame {Q : CardingProc} (hQ : Q.Stands q s)
    (hown : OwnEvent p s s') (hqp : q ≠ p) (hclock : s.clock ≤ s'.clock)
    (hquiet : ∀ u, Q.underWay? = some u → Quiet u s s') : Q.Stands q s' := by
  have hraised : Raised q s'.history ↔ Raised q s.history := by
    rcases hown with heq | ⟨e, heq, he⟩
    · rw [heq]
    · rw [heq, raised_cons fun c t hraised => hqp (by rw [← he, hraised]; rfl)]
  have hpreceding : ∀ u, preceding q u s'.history = preceding q u s.history := by
    rcases hown with heq | ⟨e, heq, he⟩
    · exact fun u => by rw [heq]
    · exact fun u => by rw [heq, preceding_cons (isOutcomeOf_of_process_ne (he ▸ hqp.symm))]
  have hlook : lookBack q s'.history = lookBack q s.history := by
    rcases hown with heq | ⟨e, heq, he⟩
    · rw [heq]
    · rw [heq, lookBack_cons (he ▸ hqp.symm)]
  cases Q with
  | idle => exact fun h => hQ (hraised.mp h)
  | assess c pc => trivial
  | record c pc =>
    cases pc with
    | label => exact fun h => hQ (hraised.mp h)
    | outcome label =>
      obtain ⟨hnot, hle, hafter⟩ := hQ
      exact ⟨fun h => hnot (hraised.mp h), hle.trans hclock,
        fun o ho => hafter o ((hquiet c.userId rfl).outcomes ▸ ho)⟩
    | declinesUser => exact ⟨fun h => hQ.1 (hraised.mp h), hQ.2⟩
    | declinesIp => exact ⟨fun h => hQ.1 (hraised.mp h), hQ.2⟩
    | trim =>
      obtain ⟨hnot, o, heq⟩ := hQ
      refine ⟨fun h => hnot (hraised.mp h), o, ?_⟩
      rw [(hquiet c.userId rfl).outcomes, hpreceding, heq]
    | read =>
      obtain ⟨hnot, ⟨o, heq⟩, hentries⟩ := hQ
      refine ⟨fun h => hnot (hraised.mp h), ⟨o, ?_⟩, ?_⟩
      · rw [(hquiet c.userId rfl).outcomes, hpreceding, heq]
      · rw [(hquiet c.userId rfl).zset, marks_outcomes, (hquiet c.userId rfl).outcomes,
          ← marks_outcomes, hlook, hentries]
    | raise =>
      refine ⟨fun h => hQ.1 (hraised.mp h), ?_⟩
      rw [hlook, hpreceding]
      exact hQ.2
    | done =>
      intro happroved
      rw [hraised, hlook, hpreceding]
      exact hQ happroved

theorem CardingProc.underWay_of_writes {P : CardingProc} (h : P.writes? = some u) :
    P.underWay? = some u := by
  rcases P with _ | ⟨c, pc⟩ | ⟨c, pc⟩
  · exact absurd h (by simp [writes?])
  · exact absurd h (by simp [writes?])
  · cases pc <;> simp_all [writes?, underWay?]

/-- A label read in the order goes after everything in the sequence. -/
theorem Sequence.after (hs : Sequence s u) {approved : Bool}
    (hhead : ∀ o ∈ (outcomesOf u s.history).head?, o.now < s.clock ∨
      o.approved = true ∧ approved = false ∧ o.label = s.clock ∧ o.now = s.clock) :
    ∀ o ∈ outcomesOf u s.history, ∀ now, OutcomeMark.After ⟨approved, s.clock, now⟩ o := by
  have hordered := hs.ordered
  have htimed := hs.timed
  generalize outcomesOf u s.history = os at *
  cases os with
  | nil => exact fun o ho => absurd ho List.not_mem_nil
  | cons o₁ os =>
    intro o ho now
    rw [List.pairwise_cons] at hordered
    have htime := htimed o₁ List.mem_cons_self
    rcases List.mem_cons.mp ho with rfl | ho
    · rcases hhead o rfl with hlt | ⟨h₁, h₂, hlabel, hnow⟩
      · exact .inl hlt
      · exact .inr ⟨h₁, h₂, hlabel, hnow⟩
    · -- an approval and a decline of one millisecond are followed by a later one
      rcases hordered.1 o ho with hlt | ⟨-, hdeclined, -, hnow⟩
      · exact .inl (show o.now < s.clock by omega)
      · rcases hhead o₁ rfl with hlt | ⟨happroved, -, -, -⟩
        · exact .inl (show o.now < s.clock by omega)
        · exact absurd (happroved.symm.trans hdeclined) (by simp)

/-- The members of a sequence that is in order, read before its key is gone. -/
theorem Sequence.members_eq (hs : Sequence s u) {now : ℕ}
    (hlease : ∀ o ∈ (outcomesOf u s.history).head?, s.clock ≤ o.now + millis (wOutcomeSequence + 1))
    (hentries : (s.redis.zset (WindowKey.outcomes u).key).entries = (SortedSet.recent
      (marks (.outcomes u) s.history) (WindowKey.outcomes u).span now).reverse) :
    members s.redis (WindowKey.outcomes u).key s.clock = (SortedSet.recent
      ((outcomesOf u s.history).map OutcomeMark.entry) (WindowKey.outcomes u).span
        now).reverse.map Prod.fst := by
  have hlive : ((s.redis.zset (WindowKey.outcomes u).key).live s.clock).entries = (SortedSet.recent
      ((outcomesOf u s.history).map OutcomeMark.entry) (WindowKey.outcomes u).span now).reverse := by
    rw [hs.lists.live, hentries, marks_outcomes]
    rw [marks_outcomes]
    intro e he
    rw [List.head?_map] at he
    obtain ⟨o, ho, rfl⟩ := Option.mem_map.mp he
    exact hlease o ho
  rw [members, SortedSet.zrange_of_sorted, hlive]
  rw [hlive, List.pairwise_reverse]
  refine (List.pairwise_map.mpr ?_).filter _
  exact hs.ordered.imp_of_mem fun {o _} ho _ h => h.before (hs.timed o ho).1

/-- A trimmed sequence. -/
theorem Sequence.trim (hs : Sequence s u) (hw : s.Windows) (c : PaymentOutcome) :
    Sequence (s.after (count s.redis (WindowKey.outcomes u).key (WindowKey.outcomes u).seconds
      s.clock).1 (.trimmed p c s.clock)) u where
  ordered := hs.ordered
  timed := hs.timed
  lists := by
    have htrim := hs.lists.trim (hw.tracks (.outcomes u))
    simp only [CardingState.after, count, Redis.zset_setZset]
    exact htrim

/-- Every step keeps every sequence in order. -/
theorem Sequence.step {P P' : CardingProc} {a : CardingInput} (hs : Sequence s u)
    (hw : s.Windows) (hP : P.Stands p s) (h : CardingStep s p P a s' P') : Sequence s' u := by
  by_cases hu : P.writes? = some u
  · cases h with
    | @record c pc pc' _ h =>
      cases pc with
      | outcome m =>
        have hcu : c.userId = u := Option.some.inj hu
        obtain ⟨rfl, -⟩ := Prod.mk.inj (Option.some.inj h)
        subst hcu
        exact hs.outcome hw rfl hP.2.1 fun o ho => hP.2.2 o ho s.clock
      | trim =>
        have hcu : c.userId = u := Option.some.inj hu
        obtain ⟨rfl, -⟩ := Prod.mk.inj (Option.some.inj h)
        subst hcu
        exact hs.trim hw c
      | _ => exact absurd hu (by simp [CardingProc.writes?])
    | drop => exact hs
    | _ => exact absurd hu (by simp [CardingProc.writes?])
  · exact hs.quiet (h.quiet hu)

/-- A command of `record_outcome` made in order leaves it standing. -/
theorem RecordPc.Stands.step {c : PaymentOutcome} {pc pc' : RecordPc} (hP : pc.Stands p c s)
    (hs : Sequence s c.userId) (hw : s.Windows) (h : stepRecord s p c pc = some (s', pc'))
    (hlabel : pc = .label → ∀ o ∈ (outcomesOf c.userId s.history).head?, o.now < s.clock ∨
      o.approved = true ∧ c.approved = false ∧ o.label = s.clock ∧ o.now = s.clock)
    (hread : pc = .read → ∀ o ∈ (outcomesOf c.userId s.history).head?,
      s.clock ≤ o.now + millis (wOutcomeSequence + 1)) : pc'.Stands p c s' := by
  cases pc with
  | label =>
    obtain ⟨rfl, rfl⟩ := Prod.mk.inj (Option.some.inj h)
    exact ⟨hP, le_rfl, hs.after (hlabel rfl)⟩
  | outcome m =>
    obtain ⟨rfl, rfl⟩ := Prod.mk.inj (Option.some.inj h)
    have hraised : ¬ Raised p (.outcome p c m s.clock :: s.history) :=
      (raised_cons (e := .outcome p c m s.clock) (by simp)).not.mpr hP.1
    by_cases happroved : c.approved = true
    · rw [if_pos happroved]
      refine ⟨hraised, ⟨c.approved, m, s.clock⟩, ?_⟩
      simp [CardingState.after, outcomesOf, preceding, CardingEvent.isOutcomeOf]
    · rw [if_neg happroved]
      exact ⟨hraised, by simpa using happroved⟩
  | declinesUser =>
    obtain ⟨rfl, rfl⟩ := Prod.mk.inj (Option.some.inj h)
    have hraised : ¬ Raised p (.declined p .declinesUser c s.clock s.drawn :: s.history) :=
      (raised_cons (e := .declined p .declinesUser c s.clock s.drawn)
        (by simp)).not.mpr hP.1
    split
    · exact ⟨hraised, hP.2⟩
    · exact fun happroved => absurd (hP.2.symm.trans happroved) (by simp)
  | declinesIp =>
    cases hip : address? c.ip with
    | none => simp [stepRecord, hip] at h
    | some ip =>
      simp only [stepRecord, hip] at h
      obtain ⟨rfl, rfl⟩ := Prod.mk.inj (Option.some.inj h)
      exact fun happroved => absurd (hP.2.symm.trans happroved) (by simp)
  | trim =>
    obtain ⟨rfl, rfl⟩ := Prod.mk.inj (Option.some.inj h)
    obtain ⟨hnot, o, heq⟩ := hP
    -- the trim fixes the instant the approval looks back from
    have hback : lookBack p (.trimmed p c s.clock :: s.history) = s.clock := by simp [lookBack]
    have hraised : ¬ Raised p (.trimmed p c s.clock :: s.history) :=
      (raised_cons (e := .trimmed p c s.clock) (by simp)).not.mpr hnot
    refine ⟨hraised, ⟨o, ?_⟩, ?_⟩
    · simp only [CardingState.after, preceding_cons (e := .trimmed p c s.clock) rfl]
      exact heq
    · simp only [CardingState.after, Redis.zset_setZset, hback]
      exact hs.lists.entries_trim (hw.tracks _)
  | read =>
    obtain ⟨rfl, rfl⟩ := Prod.mk.inj (Option.some.inj h)
    obtain ⟨hnot, ⟨o, heq⟩, hentries⟩ := hP
    -- the set lists the outcomes in the order they were added, so its tail is the burst
    have hsorted : (o :: preceding p c.userId s.history).Pairwise fun o o' => o'.now ≤ o.now := by
      rw [← heq]
      exact hs.ordered.imp_of_mem fun {o _} ho _ h => h.now_le (hs.timed o ho).1
    have hburst : tDeclineBurst ≤ trailingDeclines (members s.redis
        (WindowKey.outcomes c.userId).key s.clock) ↔
        Burst (lookBack p s.history) (preceding p c.userId s.history) := by
      rw [hs.members_eq (hread rfl) hentries, heq]
      exact trailingDeclines_iff hsorted
    split
    · next hge => exact ⟨hnot, hburst.mp hge⟩
    · next hlt => exact fun _ => ⟨fun h => absurd h hnot, fun h => absurd (hburst.mpr h) hlt⟩
  | raise =>
    obtain ⟨rfl, rfl⟩ := Prod.mk.inj (Option.some.inj h)
    have hback : lookBack p (.raised p c s.clock :: s.history) = lookBack p s.history := by
      simp [lookBack]
    intro _
    simp only [CardingState.after, hback, preceding_cons (e := .raised p c s.clock) rfl]
    exact ⟨fun _ => hP.2, fun _ => ⟨c, s.clock, List.mem_cons_self⟩⟩
  | done => exact absurd h (by simp [stepRecord])

/-- A call is under way from its label on. -/
theorem CardingStep.underWay {P P' : CardingProc} {a : CardingInput}
    (h : CardingStep s p P a s' P') (hu : P'.underWay? = some u) :
    P.underWay? = some u ∨ ∃ c, P = .record c .label ∧ c.userId = u := by
  cases h with
  | @record c pc pc' _ h =>
    have hcu : c.userId = u := by cases pc' <;> simp_all [CardingProc.underWay?]
    cases pc with
    | label => exact .inr ⟨c, rfl, hcu⟩
    | done => exact absurd h (by simp [stepRecord])
    | _ => exact .inl (congrArg some hcu)
  | _ => exact absurd hu (by simp [CardingProc.underWay?])

theorem Command.clock_le (h : Command s s') : s.clock ≤ s'.clock := by
  cases h with
  | tick d => exact Nat.le_add_right ..
  | _ => exact le_rfl

/-- What holds throughout a run whose calls are made in order. -/
structure Sequenced (w : World CardingState CardingProc) : Prop where
  windows : w.shared.Windows
  sequences : ∀ u, Sequence w.shared u
  stands : ∀ p, (w.proc p).Stands p w.shared
  alone : ∀ p q u, p ≠ q → (w.proc p).underWay? = some u → (w.proc q).underWay? ≠ some u

theorem sequenced_start (clock : ℕ) : Sequenced (cardingStart clock) where
  windows := windows_start clock
  sequences u := ⟨.nil, fun _ ho => absurd ho List.not_mem_nil, .empty _ _ _⟩
  stands p := fun ⟨_, _, hmem⟩ => absurd hmem List.not_mem_nil
  alone p q u _ h := absurd h (by simp [cardingStart, CardingProc.underWay?])

/-- A step made in order. -/
theorem Sequenced.next {w w' : World CardingState CardingProc} {a : CardingInput}
    (hw : Sequenced w) (hC : InOrder w p a) (hn : carding.next w p a = some w') :
    Sequenced w' := by
  obtain ⟨s', P', hs, rfl⟩ := System.next_eq_some.mp hn
  have hstep := cardingStep_of hs
  -- no other call moves the sequence a call is under way on
  have hquiet : ∀ q, q ≠ p → ∀ u, (w.proc q).underWay? = some u → Quiet u w.shared s' :=
    fun q hq u hu => hstep.quiet fun hwrites =>
      hw.alone q p u hq hu (CardingProc.underWay_of_writes hwrites)
  refine ⟨hw.windows.command hstep.command,
    fun u => (hw.sequences u).step hw.windows (hw.stands p) hstep, fun q => ?_,
    fun q r u hqr hu => ?_⟩
  · rcases eq_or_ne q p with rfl | hq
    · simp only [Function.update_self]
      have hP := hw.stands q
      obtain ⟨hdown, hC⟩ := hC
      generalize w.proc q = P at *
      cases hstep with
      | tick | outcome => exact hP
      | attempt | look => trivial
      | allow => exact absurd rfl hdown
      | drop => exact absurd rfl hdown
      | @record c pc pc' _ h =>
        refine RecordPc.Stands.step hP (hw.sequences _) hw.windows h ?_ ?_
        · rintro rfl
          exact hC.2
        · rintro rfl
          exact hC
    · simp only [Function.update_of_ne hq]
      exact (hw.stands q).frame hstep.ownEvent hq hstep.command.clock_le (hquiet q hq)
  · -- the mover is under way only where it was, or where nobody else is
    have hmover : ∀ r, r ≠ p → P'.underWay? = some u → (w.proc r).underWay? ≠ some u := by
      intro r hr hu
      rcases hstep.underWay hu with hbefore | ⟨c, hP, rfl⟩
      · exact hw.alone p r u hr.symm hbefore
      · have hlabel := hC.2
        rw [hP] at hlabel
        exact hlabel.1 r
    rcases eq_or_ne q p with rfl | hq
    · simp only [Function.update_self] at hu
      simp only [Function.update_of_ne hqr.symm]
      exact hmover r hqr.symm hu
    · simp only [Function.update_of_ne hq] at hu
      rcases eq_or_ne r p with rfl | hr
      · simp only [Function.update_self]
        exact fun hu' => hmover q hq hu' hu
      · simp only [Function.update_of_ne hr]
        exact hw.alone q r u hqr hu

theorem sequenced_of_run {clock : ℕ} {as : List (ℕ × CardingInput)}
    {w : World CardingState CardingProc} (h : carding.Run InOrder (cardingStart clock) as w) :
    Sequenced w :=
  h.induct (sequenced_start clock) fun _ _ _ _ hw hC hn => hw.next hC hn

end Order

/-- **A burst and then a success.**  In every run whose outcomes go to the end of their
sequences, a call that has recorded an approval has raised the flag of its account iff
at least `T_DECLINE_BURST` declines came right before it, all of them in the window. -/
theorem flagged_iff_burst {clock : ℕ} {as : List (ℕ × CardingInput)}
    {w : World CardingState CardingProc} (h : carding.Run InOrder (cardingStart clock) as w)
    {p : ℕ} {c : PaymentOutcome} (hp : w.proc p = .record c .done) (hc : c.approved = true) :
    Raised p w.shared.history ↔
      Burst (lookBack p w.shared.history) (preceding p c.userId w.shared.history) := by
  have hstands := (sequenced_of_run h).stands p
  rw [hp] at hstands
  exact hstands hc


/-! ### A burst, and one that is missed -/

/-- `InOrder`, for the processes below `n`. -/
def inOrderBelow (n : ℕ) (w : World CardingState CardingProc) (p : ℕ) (a : CardingInput) : Bool :=
  decide (a ≠ .down) &&
    match w.proc p with
    | .record c .label =>
      ((List.range n).all fun q => decide ((w.proc q).underWay? ≠ some c.userId)) &&
        (outcomesOf c.userId w.shared.history).head?.all fun o =>
          decide (o.now < w.shared.clock ∨ o.approved = true ∧ c.approved = false ∧
            o.label = w.shared.clock ∧ o.now = w.shared.clock)
    | .record c .read =>
      (outcomesOf c.userId w.shared.history).head?.all fun o =>
        decide (w.shared.clock ≤ o.now + millis (wOutcomeSequence + 1))
    | _ => true

theorem inOrder_of_below {n : ℕ} {w : World CardingState CardingProc} {p : ℕ} {a : CardingInput}
    (hrest : ∀ q, n ≤ q → w.proc q = .idle) (h : inOrderBelow n w p a = true) : InOrder w p a := by
  obtain ⟨hdown, h⟩ := Bool.and_eq_true_iff.mp h
  refine ⟨of_decide_eq_true hdown, ?_⟩
  split at h
  · obtain ⟨hq, ho⟩ := Bool.and_eq_true_iff.mp h
    refine ⟨fun q => ?_, fun o hmem => ?_⟩
    · rcases Nat.lt_or_ge q n with hlt | hge
      · exact of_decide_eq_true (List.all_eq_true.mp hq q (List.mem_range.mpr hlt))
      · rw [hrest q hge]
        simp [CardingProc.underWay?]
    · exact of_decide_eq_true ((Option.all_eq_true _ _).mp ho o hmem)
  · exact fun o hmem => of_decide_eq_true ((Option.all_eq_true _ _).mp h o hmem)
  · trivial

/-- An outcome of user 10. -/
def outcomeOf10 (approved : Bool) : PaymentOutcome := ⟨10, none, approved⟩

/-- A declined call of process `p`, from its arrival to its end. -/
def declines (p : ℕ) : List (ℕ × CardingInput) :=
  [(p, .outcome (outcomeOf10 false)), (p, .go), (p, .go), (p, .go)]

/-- An approved call, with so many commands. -/
def approves (p n : ℕ) : List (ℕ × CardingInput) :=
  (p, .outcome (outcomeOf10 true)) :: List.replicate n (p, .go)

/-- The outcome a process has recorded. -/
def CardingProc.recorded? : CardingProc → Option PaymentOutcome
  | .record c .done => some c
  | _ => none

theorem CardingProc.eq_of_recorded {P : CardingProc} {c : PaymentOutcome}
    (h : P.recorded? = some c) : P = .record c .done := by
  cases P with
  | record c' pc =>
    cases pc with
    | done => exact congrArg (CardingProc.record · .done) (Option.some.inj h)
    | _ => exact absurd h (by simp [recorded?])
  | _ => exact absurd h (by simp [recorded?])

/-- Three declines in three milliseconds, and then an approval. -/
def slowBurst : List (ℕ × CardingInput) :=
  declines 0 ++ [(4, .tick 1)] ++ declines 1 ++ [(4, .tick 1)] ++ declines 2 ++ [(4, .tick 1)] ++
    approves 3 5

/-- They raise the flag. -/
theorem flagged_iff_burst_slow : ∃ w, carding.Run InOrder (cardingStart 0) slowBurst w ∧
    w.proc 3 = .record (outcomeOf10 true) .done ∧
    preceding 3 10 w.shared.history = [⟨false, 2, 2⟩, ⟨false, 1, 1⟩, ⟨false, 0, 0⟩] ∧
    (Raised 3 w.shared.history ↔
      Burst (lookBack 3 w.shared.history) (preceding 3 10 w.shared.history)) := by
  have hchecked : (carding.checked (fun w p a => p < 5 ∧ inOrderBelow 5 w p a = true)
      (cardingStart 0) slowBurst).any (fun w =>
        decide ((w.proc 3).recorded? = some (outcomeOf10 true) ∧
          preceding 3 10 w.shared.history = [⟨false, 2, 2⟩, ⟨false, 1, 1⟩, ⟨false, 0, 0⟩])) = true := by
    decide +kernel
  obtain ⟨w, hrun, htest⟩ := System.exists_run_of_checked hchecked
  obtain ⟨hrecorded, hpreceding⟩ := of_decide_eq_true htest
  have hrun := hrun.of_below (D := InOrder) .idle (fun _ _ => rfl)
    fun _ _ _ hrest h => inOrder_of_below hrest h
  have hp := CardingProc.eq_of_recorded hrecorded
  exact ⟨w, hrun, hp, hpreceding, flagged_iff_burst hrun hp rfl⟩

/-- Three declines in one millisecond, and then an approval. -/
def fastBurst : List (ℕ × CardingInput) :=
  declines 0 ++ declines 1 ++ declines 2 ++ [(4, .tick 1)] ++ approves 3 4

/-- **Three declines of one millisecond are one.**  The calls follow one another, the burst
came right before the approval, and the flag is not raised. -/
theorem burst_missed : ∃ w, carding.Run Available (cardingStart 0) fastBurst w ∧
    w.proc 3 = .record (outcomeOf10 true) .done ∧
    Burst (lookBack 3 w.shared.history) (preceding 3 10 w.shared.history) ∧
    ¬ Raised 3 w.shared.history := by
  have hchecked : (carding.checked Available (cardingStart 0) fastBurst).any (fun w =>
      decide ((w.proc 3).recorded? = some (outcomeOf10 true) ∧
        Burst (lookBack 3 w.shared.history) (preceding 3 10 w.shared.history) ∧
        ∀ e ∈ w.shared.history, e.isRaised 3 = false)) = true := by
    decide +kernel
  obtain ⟨w, hrun, htest⟩ := System.exists_run_of_checked hchecked
  obtain ⟨hrecorded, hburst, hnot⟩ := of_decide_eq_true htest
  refine ⟨w, hrun, CardingProc.eq_of_recorded hrecorded, hburst, fun ⟨c, t, hmem⟩ => ?_⟩
  have hraised := hnot _ hmem
  simp [CardingEvent.isRaised] at hraised

end SkyLock
