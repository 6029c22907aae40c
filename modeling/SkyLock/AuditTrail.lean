import SkyLock.Lib.Concurrent
import SkyLock.Lib.Journal
import SkyLock.Lib.ReadCommitted
import SkyLock.Models

/-!
# Writers of the audit trail

`audit.record` of `app/services/audit.py`, statement by statement: a SELECT of
the greatest `seq`, then the flush of a row with the number after it.  Any number
of transactions do this at once under READ COMMITTED.  A statement sees what is
committed and what its own transaction has inserted; the unique index on
`(booking_id, seq)` makes an INSERT wait for an uncommitted row with its number
and fail on a committed one.

## Main definitions

* `AuditCall` — the arguments of `record`.
* `AuditTable`, `AuditPc`, `stepAudit` — the table, and a transaction on it.
* `AuditSound` — the invariant.

## Main results

* `exec_record` — a transaction that nothing runs beside does what `Db.record` says.
* `audit_gapFree` — **the numbers of a booking have no gap, and those of one
  transaction are consecutive**.
-/

namespace SkyLock

open Concurrent Journal ReadCommitted

/-! ### The table and its transactions -/

/-- The arguments of `audit.record`. -/
structure AuditCall where
  bookingId : BookingId
  eventType : AuditEventType
  actorType : String
  actorId : Option UserId
  fromState : Option BookingState
  toState : Option BookingState
  detail : JsonValue

/-- The row a call inserts under a number. -/
def AuditCall.row (c : AuditCall) (seq : ℕ) : BookingAudit where
  bookingId := c.bookingId
  seq := seq
  eventType := c.eventType
  actorType := c.actorType
  actorId := c.actorId
  fromState := c.fromState
  toState := c.toState
  detail := c.detail

/-- Audit rows are filed by booking and numbered by `seq`. -/
def bookingAudit : Filing BookingAudit BookingId := ⟨BookingAudit.bookingId, BookingAudit.seq⟩

/-- The SELECT of `record`, over what is committed. -/
theorem Db.nextSeq_eq (db : Db) (b : BookingId) : db.nextSeq b = bookingAudit.next b db.audit :=
  rfl

/-- `booking_audit`: the committed rows, newest first, and those of open transactions. -/
abbrev AuditTable := Store (List BookingAudit) BookingAudit

/-- What a statement of transaction `p` sees. -/
def visible (t : AuditTable) (p : ℕ) : List BookingAudit := t.own p ++ t.committed

/-- Another open transaction has inserted the number. -/
def contested (t : AuditTable) (p : ℕ) (b : BookingId) (seq : ℕ) : Bool :=
  t.pending.any fun e => decide (e.1 ≠ p ∧ e.2.bookingId = b ∧ e.2.seq = seq)

/-- The number is in use in what the transaction sees. -/
def taken (t : AuditTable) (p : ℕ) (b : BookingId) (seq : ℕ) : Bool :=
  (visible t p).any fun r => decide (r.bookingId = b ∧ r.seq = seq)

/-- Where a transaction is: between two calls of `record`, at the flush of one with
the number it read, or ended, with the rows it committed. -/
inductive AuditPc where
  | idle
  | flush (c : AuditCall) (seq : ℕ)
  | committed (rows : List BookingAudit)
  | rolledBack

/-- What a transaction does next.  It may roll back at any point: an exception, a
crash, or the database breaking a deadlock. -/
inductive AuditInput where
  | record (c : AuditCall)
  | flush
  | commit
  | rollback

/-- One statement of a transaction. -/
def stepAudit (t : AuditTable) (p : ℕ) : AuditPc → AuditInput → Option (AuditTable × AuditPc)
  | .idle, .record c => some (t, .flush c (bookingAudit.next c.bookingId (visible t p)))
  | .flush c seq, .flush =>
    if contested t p c.bookingId seq then none
    else if taken t p c.bookingId seq then some (t.rollback p, .rolledBack)
    else some (t.write p (c.row seq), .idle)
  | .idle, .commit => some (t.commit List.cons p, .committed (t.own p))
  | .idle, .rollback => some (t.rollback p, .rolledBack)
  | .flush _ _, .rollback => some (t.rollback p, .rolledBack)
  | _, _ => none

/-- Transactions that write the audit trail. -/
def auditors : System AuditTable AuditPc AuditInput := ⟨stepAudit⟩

/-- An empty trail, and no transaction under way. -/
def auditStart : World AuditTable AuditPc := ⟨⟨[], []⟩, fun _ => .idle⟩

/-- A commit puts the transaction's rows on top. -/
theorem committed_commit (t : AuditTable) (p : ℕ) :
    (t.commit List.cons p).committed = visible t p :=
  List.foldr_cons_eq_append'

/-- A transaction that nothing runs beside does what `Db.record` says. -/
theorem exec_record {w : World AuditTable AuditPc} {db : Db} {p : ℕ}
    (hdb : w.shared = ⟨db.audit, []⟩) (hp : w.proc p = .idle) (b : BookingId)
    (e : AuditEventType) (u : Option UserId) (fromState toState : Option BookingState)
    (d : List (String × JsonValue)) :
    (auditors.exec w [(p, .record ⟨b, e, if u.isSome then "user" else "system", u, fromState,
        toState, .obj d⟩), (p, .flush), (p, .commit)]).map (fun w' => w'.shared.committed) =
      some (db.record b e u fromState toState d).audit := by
  have hfree : taken ⟨db.audit, []⟩ p b (db.nextSeq b) = false := by
    rw [taken, List.any_eq_false]
    intro r hr
    simp only [decide_eq_true_eq, not_and]
    rintro rfl heq
    have hlt := Filing.lt_next (F := bookingAudit) (Filing.mem_numbers.mpr ⟨r, hr, rfl, heq⟩)
    exact absurd hlt (Nat.lt_irrefl _)
  simp [System.exec, System.next, auditors, stepAudit, hdb, hp, contested,
    ← Db.nextSeq_eq, visible, Store.own, hfree, Store.write,
    committed_commit, AuditCall.row]

/-! ### The invariant -/

section Statements

variable {t : AuditTable} {p q : ℕ} {b : BookingId}

theorem contested_iff {seq : ℕ} : contested t p b seq = true ↔
    ∃ q, q ≠ p ∧ seq ∈ bookingAudit.numbers b (t.own q) := by
  simp only [contested, List.any_eq_true, decide_eq_true_eq]
  constructor
  · rintro ⟨⟨q, r⟩, hmem, hne, hb, hseq⟩
    refine ⟨q, hne, Filing.mem_numbers.mpr ⟨r, ?_, hb, hseq⟩⟩
    exact List.mem_map.mpr ⟨(q, r), List.mem_filter.mpr ⟨hmem, by simp⟩, rfl⟩
  · rintro ⟨q, hne, hmem⟩
    obtain ⟨r, hr, hb, hseq⟩ := Filing.mem_numbers.mp hmem
    obtain ⟨e, he, rfl⟩ := List.mem_map.mp hr
    obtain ⟨hpending, hq⟩ := List.mem_filter.mp he
    obtain rfl := of_decide_eq_true hq
    exact ⟨e, hpending, hne, hb, hseq⟩

theorem taken_iff {seq : ℕ} : taken t p b seq = true ↔
    seq ∈ bookingAudit.numbers b (visible t p) := by
  simp [taken, Filing.mem_numbers, bookingAudit]

end Statements

/-- A row numbered from what the transaction saw: the number is still the next, or
another transaction has committed it since. -/
def Numbered (t : AuditTable) (p : ℕ) (b : BookingId) (seq : ℕ) : Prop :=
  seq = bookingAudit.next b (visible t p) ∨
    bookingAudit.numbers b (t.own p) = [] ∧ seq ∈ bookingAudit.numbers b t.committed

/-- The numbers of a booking among the rows follow one another. -/
def Consecutive (b : BookingId) (rows : List BookingAudit) : Prop :=
  ∃ m, ((rows.filter fun r => r.bookingId = b).map BookingAudit.seq).reverse =
    List.range' m (rows.filter fun r => r.bookingId = b).length

/-- The invariant of the table. -/
structure TrailSound (t : AuditTable) : Prop where
  committed : ∀ b, bookingAudit.GapFree b t.committed
  view : ∀ p b, bookingAudit.GapFree b (visible t p)
  /-- Two open transactions never hold rows of one booking. -/
  apart : ∀ p q b, p ≠ q → bookingAudit.numbers b (t.own p) = [] ∨
    bookingAudit.numbers b (t.own q) = []

/-- What may be assumed of transaction `p`. -/
def AuditPc.Sound (t : AuditTable) (p : ℕ) : AuditPc → Prop
  | .flush c seq => Numbered t p c.bookingId seq
  | .committed rows => (∀ r ∈ rows, r ∈ t.committed) ∧ ∀ b, Consecutive b rows
  | _ => True

/-- The invariant of the trail. -/
structure AuditSound (w : World AuditTable AuditPc) : Prop where
  table : TrailSound w.shared
  proc : ∀ p, (w.proc p).Sound w.shared p
  /-- Every committed row is one of a committed transaction. -/
  origin : ∀ r ∈ w.shared.committed, ∃ p rows, w.proc p = .committed rows ∧ r ∈ rows

/-- The transaction has not ended. -/
def AuditPc.open : AuditPc → Bool
  | .idle | .flush _ _ => true
  | _ => false

/-- A step keeps the invariant where it keeps the table's, leaves the mover sound,
and disturbs no other transaction. -/
theorem AuditSound.next {w : World AuditTable AuditPc} {p : ℕ} {t' : AuditTable} {P' : AuditPc}
    (hw : AuditSound w) (hopen : (w.proc p).open = true) (htable : TrailSound t')
    (hmover : P'.Sound t' p)
    (hothers : ∀ q, q ≠ p → ∀ P : AuditPc, P.Sound w.shared q → P.Sound t' q)
    (horigin : ∀ r ∈ t'.committed, r ∈ w.shared.committed ∨
      ∃ rows, P' = .committed rows ∧ r ∈ rows) :
    AuditSound ⟨t', Function.update w.proc p P'⟩ := by
  refine ⟨htable, fun q => ?_, fun r hr => ?_⟩
  · rcases eq_or_ne q p with rfl | hne
    · simpa using hmover
    · simpa [hne] using hothers q hne _ (hw.proc q)
  · rcases horigin r hr with hold | ⟨rows, rfl, hnew⟩
    · obtain ⟨q, rows, hq, hmem⟩ := hw.origin r hold
      have hne : q ≠ p := by
        rintro rfl
        simp [hq, AuditPc.open] at hopen
      exact ⟨q, rows, by simpa [hne] using hq, hmem⟩
    · exact ⟨p, rows, by simp, hnew⟩

/-! ### What each statement keeps -/

section Statements

variable {t : AuditTable} {p q : ℕ} {c : AuditCall} {seq : ℕ}

theorem Numbered.congr {t' : AuditTable} {b : BookingId} (h : Numbered t q b seq)
    (hown : t'.own q = t.own q) (hcommitted : t'.committed = t.committed) :
    Numbered t' q b seq := by
  unfold Numbered visible at *
  rw [hown, hcommitted]
  exact h

/-- A transaction is not disturbed by what leaves its rows and the committed ones. -/
theorem AuditPc.Sound.congr {t' : AuditTable} {P : AuditPc} (h : P.Sound t q)
    (hown : t'.own q = t.own q) (hcommitted : t'.committed = t.committed) : P.Sound t' q := by
  cases P with
  | flush c seq => exact Numbered.congr h hown hcommitted
  | committed rows => exact ⟨fun r hr => hcommitted ▸ h.1 r hr, h.2⟩
  | idle | rolledBack => trivial

namespace TrailSound

/-- An INSERT that nothing contests adds the next number, and no other transaction
holds rows of the booking. -/
theorem insertable (ht : TrailSound t) (hnum : Numbered t p c.bookingId seq)
    (hfree : contested t p c.bookingId seq = false) (hunique : taken t p c.bookingId seq = false) :
    seq = bookingAudit.next c.bookingId (visible t p) ∧
      ∀ q, q ≠ p → bookingAudit.numbers c.bookingId (t.own q) = [] := by
  have hnext : seq = bookingAudit.next c.bookingId (visible t p) := by
    rcases hnum with h | ⟨-, h⟩
    · exact h
    · have hmem : seq ∈ bookingAudit.numbers c.bookingId (visible t p) := by
        rw [visible, Filing.numbers_append]
        exact List.mem_append_right _ h
      rw [taken_iff.mpr hmem] at hunique
      simp at hunique
  refine ⟨hnext, fun q hne => ?_⟩
  by_contra hrows
  -- the other transaction would hold the very number, and the INSERT would wait
  have hmem := (ht.view q c.bookingId).next_mem_of_append (ht.committed c.bookingId) hrows
  have hmine := (ht.apart p q c.bookingId hne.symm).resolve_right hrows
  have hsame : bookingAudit.next c.bookingId t.committed = seq := by
    rw [hnext]
    refine (Filing.next_congr ?_).symm
    rw [visible, Filing.numbers_append, hmine, List.nil_append]
  rw [hsame] at hmem
  rw [contested_iff.mpr ⟨q, hne, hmem⟩] at hfree
  simp at hfree

theorem write (ht : TrailSound t) (hnum : Numbered t p c.bookingId seq)
    (hfree : contested t p c.bookingId seq = false)
    (hunique : taken t p c.bookingId seq = false) : TrailSound (t.write p (c.row seq)) := by
  obtain ⟨hnext, hothers⟩ := ht.insertable hnum hfree hunique
  refine ⟨ht.committed, fun q b => ?_, fun q q' b hne => ?_⟩
  · rcases eq_or_ne q p with rfl | hq
    · rw [visible, Store.own_write_self]
      refine (ht.view q b).cons fun hb => ?_
      obtain rfl : c.bookingId = b := hb
      exact hnext
    · rw [visible, Store.own_write_of_ne hq]
      exact ht.view q b
  · -- beside rows of the booking there are no others
    have hrow : ∀ q, q ≠ p → bookingAudit.numbers b (c.row seq :: t.own p) = [] ∨
        bookingAudit.numbers b (t.own q) = [] := by
      intro q hq
      by_cases hb : c.bookingId = b
      · exact .inr (hb ▸ hothers q hq)
      · rw [Filing.numbers_cons_of_ne (F := bookingAudit) (r := c.row seq) hb]
        exact ht.apart p q b hq.symm
    rcases eq_or_ne q p with rfl | hq
    · rw [Store.own_write_self, Store.own_write_of_ne hne.symm]
      exact hrow q' hne.symm
    rcases eq_or_ne q' p with rfl | hq'
    · rw [Store.own_write_self, Store.own_write_of_ne hq]
      exact (hrow q hq).symm
    · rw [Store.own_write_of_ne hq, Store.own_write_of_ne hq']
      exact ht.apart q q' b hne

theorem rollback (ht : TrailSound t) : TrailSound (t.rollback p) := by
  have hown : ∀ q, (t.rollback p).own q = [] ∨ (t.rollback p).own q = t.own q := by
    intro q
    rcases eq_or_ne q p with rfl | hq
    · exact .inl Store.own_rollback_self
    · exact .inr (Store.own_rollback_of_ne hq)
  refine ⟨ht.committed, fun q b => ?_, fun q q' b hne => ?_⟩
  · rcases hown q with h | h
    · rw [visible, h]
      exact ht.committed b
    · rw [visible, h]
      exact ht.view q b
  · rcases hown q with h | h <;> rcases hown q' with h' | h' <;> rw [h, h']
    · exact .inl rfl
    · exact .inl rfl
    · exact .inr rfl
    · exact ht.apart q q' b hne

theorem commit (ht : TrailSound t) : TrailSound (t.commit List.cons p) := by
  have hcommitted := committed_commit t p
  refine ⟨fun b => hcommitted ▸ ht.view p b, fun q b => ?_, (ht.rollback (p := p)).apart⟩
  rcases eq_or_ne q p with rfl | hq
  · rw [visible, Store.own_commit_self, hcommitted]
    exact ht.view q b
  · rw [visible, Store.own_commit_of_ne hq, hcommitted]
    rcases ht.apart p q b hq.symm with h | h
    · refine (ht.view q b).congr ?_
      simp [visible, Filing.numbers_append, h]
    · exact (ht.view p b).append_of_numbers_nil h

/-- The rows a transaction commits are numbered consecutively. -/
theorem consecutive (ht : TrailSound t) (b : BookingId) : Consecutive b (t.own p) := by
  have h := congrArg List.reverse ((ht.view p b).of_append (ht.committed b))
  rw [List.reverse_reverse] at h
  exact ⟨_, h.trans (congrArg (List.range' _) (List.length_map ..))⟩

end TrailSound

/-- A commit leaves the other transactions sound: the number one of them read is
still the next, or has just been committed. -/
theorem AuditPc.Sound.commit {P : AuditPc} (h : P.Sound t q) (ht : TrailSound t) (hne : q ≠ p) :
    P.Sound (t.commit List.cons p) q := by
  cases P with
  | flush c seq =>
    have hcommitted : ∀ n, n ∈ bookingAudit.numbers c.bookingId t.committed →
        n ∈ bookingAudit.numbers c.bookingId (t.commit List.cons p).committed := by
      intro n hn
      rw [committed_commit, visible, Filing.numbers_append]
      exact List.mem_append_right _ hn
    rcases h with h | ⟨hnone, h⟩
    · by_cases hp : bookingAudit.numbers c.bookingId (t.own p) = []
      · refine .inl (h.trans (Filing.next_congr ?_))
        rw [visible, visible, Store.own_commit_of_ne hne]
        simp [committed_commit, visible, Filing.numbers_append, hp]
      · have hq := (ht.apart p q c.bookingId hne.symm).resolve_left hp
        refine .inr ⟨by rw [Store.own_commit_of_ne hne, hq], ?_⟩
        have hmem := (ht.view p c.bookingId).next_mem_of_append (ht.committed c.bookingId) hp
        have hsame : bookingAudit.next c.bookingId (visible t q) =
            bookingAudit.next c.bookingId t.committed := by
          refine Filing.next_congr ?_
          rw [visible, Filing.numbers_append, hq, List.nil_append]
        rw [h, hsame, committed_commit, visible, Filing.numbers_append]
        exact List.mem_append_left _ hmem
    · exact .inr ⟨by rw [Store.own_commit_of_ne hne, hnone], hcommitted seq h⟩
  | committed rows =>
    refine ⟨fun r hr => ?_, h.2⟩
    rw [committed_commit]
    exact List.mem_append_right _ (h.1 r hr)
  | idle | rolledBack => trivial

end Statements

/-! ### The runs -/

theorem auditSound_start : AuditSound auditStart where
  table := ⟨fun _ => Filing.gapFree_nil, fun _ _ => Filing.gapFree_nil, fun _ _ _ _ => .inl rfl⟩
  proc _ := trivial
  origin r hr := by simp [auditStart] at hr

theorem AuditSound.step {w w' : World AuditTable AuditPc} {p : ℕ} {a : AuditInput}
    (hw : AuditSound w) (hn : auditors.next w p a = some w') : AuditSound w' := by
  obtain ⟨t', P', hs, rfl⟩ := System.next_eq_some.mp hn
  have ht := hw.table
  have hp := hw.proc p
  -- a rollback, from wherever the transaction is
  have hrollback : (w.proc p).open = true →
      AuditSound ⟨w.shared.rollback p, Function.update w.proc p .rolledBack⟩ := fun hopen =>
    hw.next hopen ht.rollback trivial
      (fun q hne P h => h.congr (Store.own_rollback_of_ne hne) rfl) fun r hr => .inl hr
  cases hpc : w.proc p <;> cases a <;>
    simp only [auditors, stepAudit, hpc, Option.some.injEq, Prod.mk.injEq, reduceCtorEq] at hs
  case idle.record c =>
    obtain ⟨rfl, rfl⟩ := hs
    exact hw.next (by simp [hpc, AuditPc.open]) ht (.inl rfl) (fun _ _ _ h => h) fun r hr => .inl hr
  case idle.commit =>
    obtain ⟨rfl, rfl⟩ := hs
    have hcommitted := committed_commit w.shared p
    refine hw.next (by simp [hpc, AuditPc.open]) ht.commit
      ⟨fun r hr => ?_, ht.consecutive⟩ (fun q hne P h => h.commit ht hne) fun r hr => ?_
    · rw [hcommitted]
      exact List.mem_append_left _ hr
    · rw [hcommitted] at hr
      rcases List.mem_append.mp hr with hr | hr
      · exact .inr ⟨_, rfl, hr⟩
      · exact .inl hr
  case idle.rollback =>
    obtain ⟨rfl, rfl⟩ := hs
    exact hrollback (by simp [hpc, AuditPc.open])
  case flush.flush c seq =>
    split at hs
    · simp at hs
    · next hfree =>
      split at hs <;> simp only [Option.some.injEq, Prod.mk.injEq] at hs <;>
        obtain ⟨rfl, rfl⟩ := hs
      · exact hrollback (by simp [hpc, AuditPc.open])
      · next hunique =>
        rw [hpc] at hp
        exact hw.next (by simp [hpc, AuditPc.open])
          (ht.write hp (by simpa using hfree) (by simpa using hunique)) trivial
          (fun q hne P h => h.congr (Store.own_write_of_ne hne) rfl) fun r hr => .inl hr
  case flush.rollback =>
    obtain ⟨rfl, rfl⟩ := hs
    exact hrollback (by simp [hpc, AuditPc.open])

/-- **The audit trail is gap-free.**  Whatever transactions record, in whatever
order, and however they end, the committed numbers of each booking are those from
one on, every committed row is one of a committed transaction, and the rows of a
committed transaction follow one another. -/
theorem audit_gapFree {C : World AuditTable AuditPc → ℕ → AuditInput → Prop}
    {w : World AuditTable AuditPc} {as : List (ℕ × AuditInput)}
    (h : auditors.Run C auditStart as w) :
    (∀ b, ∃ n, ((w.shared.committed.filter fun r => r.bookingId = b).map
        BookingAudit.seq).reverse = List.range' 1 n) ∧
      (∀ r ∈ w.shared.committed, ∃ p rows, w.proc p = .committed rows ∧ r ∈ rows) ∧
        ∀ p rows, w.proc p = .committed rows →
          (∀ r ∈ rows, r ∈ w.shared.committed) ∧ ∀ b, Consecutive b rows := by
  have hsound := h.induct auditSound_start fun w₁ p a w₂ hw _ hn => hw.step hn
  refine ⟨fun b => ⟨(bookingAudit.numbers b w.shared.committed).length, ?_⟩, hsound.origin,
    fun p rows hp => ?_⟩
  · have hgap := congrArg List.reverse (hsound.table.committed b)
    rw [countdown, List.reverse_reverse] at hgap
    exact hgap
  · have hproc := hsound.proc p
    rw [hp] at hproc
    exact hproc

/-- The call of `record` that journals the creation of a booking. -/
def createdCall (b : BookingId) : AuditCall where
  bookingId := b
  eventType := .bookingCreated
  actorType := "system"
  actorId := none
  fromState := none
  toState := some .pending
  detail := .obj []

/-- Two transactions read the same number: the first to commit has it, the other is
rolled back, and a third goes on from there. -/
theorem audit_gapFree_contended :
    ∃ w, auditors.Run (fun _ _ _ => True) auditStart
        [(1, .record (createdCall 5)), (2, .record (createdCall 5)), (1, .flush),
          (1, .record (createdCall 5)), (1, .flush), (1, .commit), (2, .flush),
          (3, .record (createdCall 5)), (3, .flush), (3, .commit)] w ∧
      (w.shared.committed.map BookingAudit.seq = [3, 2, 1] ∧
        ∃ n, ((w.shared.committed.filter fun r => r.bookingId = 5).map
          BookingAudit.seq).reverse = List.range' 1 n) := by
  have hrun : (auditors.checked (fun _ _ _ => True) auditStart
      [(1, .record (createdCall 5)), (2, .record (createdCall 5)), (1, .flush),
        (1, .record (createdCall 5)), (1, .flush), (1, .commit), (2, .flush),
        (3, .record (createdCall 5)), (3, .flush), (3, .commit)]).any (fun w =>
          decide (w.shared.committed.map BookingAudit.seq = [3, 2, 1])) = true := by
    decide +kernel
  obtain ⟨w, hw, htest⟩ := System.exists_run_of_checked hrun
  exact ⟨w, hw, of_decide_eq_true htest, (audit_gapFree hw).1 5⟩

end SkyLock
