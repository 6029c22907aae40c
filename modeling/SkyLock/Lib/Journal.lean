import Mathlib.Data.List.Chain
import Mathlib.Data.List.Sort
import Mathlib.Data.Nat.Notation

/-!
# Numbered journals

A journal is a list of rows, newest first, each filed under a key and numbered
among the rows of its key.  It is gap-free under a key when the numbers there
count down to one.  The number after the greatest keeps it so.

Rows may also say how a state moved, from where and to where.  Such rows are the
journal of the state when each of them starts where the one before it ended.

## Main definitions

* `Filing` — how rows are filed and numbered.
* `Filing.numbers`, `Filing.next` — the numbers used under a key, and the next.
* `Filing.GapFree` — the numbers count down to one.
* `Filing.inOrder` — the rows under a key in the order of their numbers.
* `Account`, `Account.Tells` — rows about a state, and when they are its journal.
* `Account.Walk` — the same for rows that are written one on top of the other.

## Main results

* `Filing.GapFree.cons` — a row with the next number keeps a journal gap-free.
* `Filing.GapFree.of_append` — what lies on a gap-free journal, and leaves one, is
  numbered consecutively.
* `Filing.GapFree.inOrder_eq` — a gap-free journal was written in the order of its
  numbers.
* `Account.Walk.tells` — a walk, read in the order it was written, is the journal of
  its last state.
-/

namespace Journal

/-- The numbers from `n` down to one. -/
def countdown (n : ℕ) : List ℕ := (List.range' 1 n).reverse

@[simp] theorem length_countdown (n : ℕ) : (countdown n).length = n := by simp [countdown]

@[simp] theorem countdown_zero : countdown 0 = [] := rfl

theorem countdown_succ (n : ℕ) : countdown (n + 1) = (n + 1) :: countdown n := by
  unfold countdown
  rw [List.range'_1_concat, List.reverse_append, Nat.add_comm 1 n]
  rfl

@[simp] theorem mem_countdown {m n : ℕ} : m ∈ countdown n ↔ 1 ≤ m ∧ m ≤ n := by
  simp only [countdown, List.mem_reverse, List.mem_range'_1]
  omega

@[simp] theorem foldr_max_countdown (n : ℕ) : (countdown n).foldr max 0 = n := by
  induction n with
  | zero => rfl
  | succ n ih =>
    rw [countdown_succ, List.foldr_cons, ih]
    omega

/-- The numbers above `n` in a countdown. -/
theorem countdown_append (n k : ℕ) :
    countdown (n + k) = (List.range' (n + 1) k).reverse ++ countdown n := by
  unfold countdown
  rw [← List.reverse_append, Nat.add_comm n 1, List.range'_append_1]

/-- How the rows of a journal are filed and numbered. -/
structure Filing (ρ κ : Type) where
  key : ρ → κ
  num : ρ → ℕ

namespace Filing

variable {ρ κ : Type} [DecidableEq κ] (F : Filing ρ κ)

/-- The numbers used under a key, newest first. -/
def numbers (k : κ) (rows : List ρ) : List ℕ := (rows.filter fun r => F.key r = k).map F.num

/-- One more than the greatest number used under a key. -/
def next (k : κ) (rows : List ρ) : ℕ := (F.numbers k rows).foldr max 0 + 1

/-- The numbers used under the key count down to one. -/
def GapFree (k : κ) (rows : List ρ) : Prop :=
  F.numbers k rows = countdown (F.numbers k rows).length

variable {F} {k : κ} {r : ρ} {rows new : List ρ}

@[simp] theorem numbers_nil : F.numbers k [] = [] := rfl

theorem numbers_cons_self (h : F.key r = k) :
    F.numbers k (r :: rows) = F.num r :: F.numbers k rows := by simp [numbers, h]

theorem numbers_cons_of_ne (h : F.key r ≠ k) : F.numbers k (r :: rows) = F.numbers k rows := by
  simp [numbers, h]

theorem numbers_append : F.numbers k (new ++ rows) = F.numbers k new ++ F.numbers k rows := by
  simp [numbers]

theorem mem_numbers {n : ℕ} : n ∈ F.numbers k rows ↔ ∃ r ∈ rows, F.key r = k ∧ F.num r = n := by
  simp [numbers, and_assoc]

/-- The next number has not been used. -/
theorem lt_next {n : ℕ} (h : n ∈ F.numbers k rows) : n < F.next k rows := by
  unfold next
  generalize F.numbers k rows = l at h ⊢
  induction l with
  | nil => simp at h
  | cons m l ih =>
    rw [List.foldr_cons]
    rcases List.mem_cons.mp h with rfl | h
    · omega
    · have hlt := ih h
      omega

/-- The next number depends on the numbers used alone. -/
theorem next_congr {rows' : List ρ} (h : F.numbers k rows' = F.numbers k rows) :
    F.next k rows' = F.next k rows := by simp [next, h]

theorem gapFree_nil : F.GapFree k [] := rfl

/-- Gap-freedom depends on the numbers used alone. -/
theorem GapFree.congr {rows' : List ρ} (h : F.GapFree k rows)
    (heq : F.numbers k rows' = F.numbers k rows) : F.GapFree k rows' := by
  unfold GapFree
  rw [heq]
  exact h

namespace GapFree

/-- The next number after a gap-free journal. -/
theorem next_eq (h : F.GapFree k rows) : F.next k rows = (F.numbers k rows).length + 1 := by
  unfold next
  conv_lhs => rw [h]
  rw [foldr_max_countdown]

theorem mem_iff (h : F.GapFree k rows) {n : ℕ} :
    n ∈ F.numbers k rows ↔ 1 ≤ n ∧ n < F.next k rows := by
  rw [h.next_eq, h, mem_countdown, length_countdown]
  omega

/-- **A row with the next number keeps a journal gap-free.** -/
theorem cons (h : F.GapFree k rows) (hr : F.key r = k → F.num r = F.next k rows) :
    F.GapFree k (r :: rows) := by
  unfold GapFree
  by_cases hk : F.key r = k
  · rw [numbers_cons_self hk, List.length_cons, countdown_succ, hr hk, h.next_eq, ← h]
  · rw [numbers_cons_of_ne hk, ← h]

/-- A journal without a row under the key changes nothing there. -/
theorem append_of_numbers_nil (h : F.GapFree k rows) (hnew : F.numbers k new = []) :
    F.GapFree k (new ++ rows) := by
  refine h.congr ?_
  rw [numbers_append, hnew, List.nil_append]

/-- **What lies on a gap-free journal, and leaves one, is numbered
consecutively.** -/
theorem of_append (h : F.GapFree k (new ++ rows)) (hrows : F.GapFree k rows) :
    F.numbers k new =
      (List.range' ((F.numbers k rows).length + 1) (F.numbers k new).length).reverse := by
  unfold GapFree at h
  rw [numbers_append, List.length_append, Nat.add_comm, countdown_append, ← hrows] at h
  exact List.append_cancel_right h

/-- What lies on a gap-free journal, and leaves one, starts with the next number. -/
theorem next_mem_of_append (h : F.GapFree k (new ++ rows)) (hrows : F.GapFree k rows)
    (hnew : F.numbers k new ≠ []) : F.next k rows ∈ F.numbers k new := by
  have hpos := List.length_pos_of_ne_nil hnew
  rw [h.of_append hrows, hrows.next_eq, List.mem_reverse, List.mem_range'_1]
  omega

/-- The newer of two rows has the greater number. -/
theorem descending (h : F.GapFree k rows) :
    (rows.filter fun r => F.key r = k).Pairwise fun r r' => F.num r' < F.num r := by
  have hmap : ((rows.filter fun r => F.key r = k).map F.num).Pairwise fun m n => n < m := by
    rw [show (rows.filter fun r => F.key r = k).map F.num = F.numbers k rows from rfl, h, countdown,
      List.pairwise_reverse]
    exact List.pairwise_lt_range'
  exact List.pairwise_map.mp hmap

end GapFree

/-- **Under no key does a number come twice.** -/
theorem nodup_of_gapFree (h : ∀ k, F.GapFree k rows) :
    (rows.map fun r => (F.key r, F.num r)).Nodup := by
  rw [List.nodup_iff_pairwise_ne, List.pairwise_map]
  refine List.pairwise_iff_forall_sublist.mpr fun {r r'} hsub heq => ?_
  obtain ⟨hkey, hnum⟩ := Prod.mk.inj heq
  have htwo : [r, r'].Sublist (rows.filter fun r => F.key r = F.key r') := by
    have hfilter := hsub.filter fun r => decide (F.key r = F.key r')
    rwa [List.filter_eq_self.mpr (by simp [hkey])] at hfilter
  have hlt := List.pairwise_iff_forall_sublist.mp (h (F.key r')).descending htwo
  exact absurd hnum hlt.ne'

variable (F) in
/-- The rows under the key, in the order of their numbers. -/
def inOrder (k : κ) (rows : List ρ) : List ρ :=
  (rows.filter fun r => F.key r = k).insertionSort fun r r' => F.num r ≤ F.num r'

/-- A greater number goes to the end. -/
theorem orderedInsert_of_lt {num : ρ → ℕ} :
    ∀ {l : List ρ}, (∀ r' ∈ l, num r' < num r) →
      l.orderedInsert (fun r r' => num r ≤ num r') r = l ++ [r]
  | [], _ => rfl
  | r' :: l, h => by
    have hlt := h r' (by simp)
    have hnot : ¬ num r ≤ num r' := by omega
    rw [List.orderedInsert, if_neg hnot, orderedInsert_of_lt fun x hx => h x (by simp [hx])]
    rfl

theorem insertionSort_of_descending {num : ρ → ℕ} :
    ∀ {l : List ρ}, (l.Pairwise fun r r' => num r' < num r) →
      l.insertionSort (fun r r' => num r ≤ num r') = l.reverse
  | [], _ => rfl
  | r :: l, h => by
    obtain ⟨hlt, hrest⟩ := List.pairwise_cons.mp h
    rw [List.insertionSort_cons, insertionSort_of_descending hrest, List.reverse_cons]
    exact orderedInsert_of_lt fun r' hr' => hlt r' (List.mem_reverse.mp hr')

/-- **A gap-free journal was written in the order of its numbers.** -/
theorem GapFree.inOrder_eq (h : F.GapFree k rows) :
    F.inOrder k rows = (rows.filter fun r => F.key r = k).reverse :=
  insertionSort_of_descending h.descending

end Filing

/-! ### Rows about a state -/

/-- What rows say about a state: which of them open its journal, and from where to
where a row moves it. -/
structure Account (ρ σ : Type) where
  opening : ρ → Prop
  source : ρ → Option σ
  target : ρ → Option σ
  source_opening : ∀ r, opening r → source r = none

namespace Account

variable {ρ σ : Type} (A : Account ρ σ) (R : σ → σ → Prop)

/-- The rows, oldest first, are the journal of a state that is now `last`: the first
opens it, each of the others starts where the one before it ended, and a row that
moves the state moves it along `R`. -/
structure Tells (rows : List ρ) (last : σ) : Prop where
  first : ∃ r, rows.head? = some r ∧ A.opening r
  chained : rows.IsChain fun r r' => A.source r' = A.target r
  lawful : ∀ r ∈ rows, ∀ x y, A.source r = some x → A.target r = some y → x ≠ y → R x y
  last : ∃ r, rows.getLast? = some r ∧ A.target r = some last

/-- The same of rows that are written one on top of the other. -/
inductive Walk : List ρ → σ → Prop
  | opened {r : ρ} {x : σ} (hr : A.opening r) (ht : A.target r = some x) : Walk [r] x
  | moved {rows : List ρ} {r : ρ} {x y : σ} (h : Walk rows x) (hs : A.source r = some x)
      (ht : A.target r = some y) (hR : x ≠ y → R x y) : Walk (r :: rows) y

variable {A R} {rows : List ρ} {last : σ}

/-- **A walk, read in the order it was written, is the journal of its last state.** -/
theorem Walk.tells (h : A.Walk R rows last) : A.Tells R rows.reverse last := by
  induction h with
  | @opened r x hr ht =>
    refine ⟨⟨r, rfl, hr⟩, .singleton r, fun r' hr' x y hs => ?_, ⟨r, rfl, ht⟩⟩
    obtain rfl := List.mem_singleton.mp hr'
    rw [A.source_opening r' hr] at hs
    simp at hs
  | @moved rows r x y h hs ht hR ih =>
    obtain ⟨⟨r₀, hfirst, hopen⟩, hchained, hlawful, ⟨r₁, hlast, htarget⟩⟩ := ih
    rw [List.reverse_cons]
    refine ⟨⟨r₀, ?_, hopen⟩, ?_, fun r' hr' x' y' hs' ht' hne => ?_, ⟨r, by simp, ht⟩⟩
    · rw [List.head?_append, hfirst]
      rfl
    · refine List.isChain_append.mpr ⟨hchained, .singleton r, fun r' hr' r'' hr'' => ?_⟩
      rw [hlast] at hr'
      obtain rfl := Option.some.inj hr'
      obtain rfl := Option.some.inj hr''
      rw [hs, htarget]
    · rcases List.mem_append.mp hr' with hold | hnew
      · exact hlawful r' hold x' y' hs' ht' hne
      · obtain rfl := List.mem_singleton.mp hnew
        obtain rfl : x = x' := Option.some.inj (hs.symm.trans hs')
        obtain rfl : y = y' := Option.some.inj (ht.symm.trans ht')
        exact hR hne

end Account

end Journal
