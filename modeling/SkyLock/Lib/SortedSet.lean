import Mathlib.Data.Finset.Card
import Mathlib.Data.List.Sort
import Mathlib.Data.Nat.Notation

/-!
# Sorted sets as sliding windows

The commands of a key-value store on a sorted set whose key has a time to live, and
the sliding window made of them: trim what is too old, add the newcomer with the
current time as its score, count, and put the time to live off.  Times are readings of
one clock.

## Main definitions

* `SortedSet` — members with their scores, each member once, and the deadline of the key.
* `SortedSet.zremrangebyscore`, `zadd`, `zcard`, `zrange`, `expire` — the commands.
* `SortedSet.distinct` — the members seen in the window, from the whole history.
* `SortedSet.Tracks` — the set knows the window of a history.
* `SortedSet.Lists` — it also has it in the order of the history.

## Main results

* `Tracks.zcard_trim` — **the count of a trimmed set is the number of distinct members
  in the window**.
* `Tracks.add` — what the window's update preserves.
* `Lists.zrange_trim` — the range of a trimmed set is the window, in order.
-/

/-- A sorted set: members and scores, in the order of their insertion, and the time its
key is gone after. -/
structure SortedSet (μ : Type) where
  entries : List (μ × ℕ)
  nodup : (entries.map Prod.fst).Nodup
  deadline : Option ℕ

namespace SortedSet

variable {μ : Type}

/-! ### The commands -/

/-- The key does not exist. -/
def empty : SortedSet μ := ⟨[], .nil, none⟩

/-- What a command finds at a time: a key past its deadline is gone. -/
def live (z : SortedSet μ) (now : ℕ) : SortedSet μ :=
  if z.deadline.any fun d => decide (d < now) then empty else z

/-- `ZREMRANGEBYSCORE`; a key without members is gone, and its deadline with it. -/
def zremrangebyscore (z : SortedSet μ) (min max : ℤ) : SortedSet μ where
  entries := z.entries.filter fun e => !decide (min ≤ (e.2 : ℤ) ∧ (e.2 : ℤ) ≤ max)
  nodup := z.nodup.sublist (List.filter_sublist.map Prod.fst)
  deadline := if (z.entries.filter fun e =>
    !decide (min ≤ (e.2 : ℤ) ∧ (e.2 : ℤ) ≤ max)).isEmpty then none else z.deadline

/-- `ZADD` of one member: a member that is there gets the new score. -/
def zadd [DecidableEq μ] (z : SortedSet μ) (m : μ) (score : ℕ) : SortedSet μ where
  entries := z.entries.filter (fun e => e.1 ≠ m) ++ [(m, score)]
  nodup := by
    rw [List.map_append, List.nodup_append]
    refine ⟨z.nodup.sublist (List.filter_sublist.map Prod.fst), List.nodup_singleton _, ?_⟩
    intro m₁ hm₁ m₂ hm₂ heq
    obtain ⟨e, he, rfl⟩ := List.mem_map.mp hm₁
    obtain rfl : m₂ = m := by simpa using hm₂
    simp [heq] at he
  deadline := z.deadline

/-- `ZCARD`. -/
def zcard (z : SortedSet μ) : ℕ := z.entries.length

/-- `EXPIRE`, with the time it comes to. -/
def expire (z : SortedSet μ) (deadline : ℕ) : SortedSet μ :=
  { z with deadline := if z.entries.isEmpty then none else some deadline }

/-- The order of a sorted set: by score, and by member where the scores are equal. -/
def Before [LT μ] (e e' : μ × ℕ) : Prop := e.2 < e'.2 ∨ e.2 = e'.2 ∧ e.1 < e'.1

instance [LT μ] [DecidableLT μ] (e e' : μ × ℕ) : Decidable (Before e e') :=
  inferInstanceAs (Decidable (_ ∨ _))

/-- `ZRANGE 0 -1`. -/
def zrange [LT μ] [DecidableLT μ] (z : SortedSet μ) : List μ :=
  (z.entries.insertionSort fun e e' => ¬ Before e' e).map Prod.fst

/-! ### Windows -/

/-- The part of a history, newest first, that is at most `window` old. -/
def recent (h : List (μ × ℕ)) (window now : ℕ) : List (μ × ℕ) :=
  h.filter fun e => decide (now < e.2 + window)

/-- The distinct members of a history that are at most `window` old. -/
def distinct [DecidableEq μ] (h : List (μ × ℕ)) (window now : ℕ) : ℕ :=
  ((recent h window now).map Prod.fst).dedup.length

theorem mem_recent {h : List (μ × ℕ)} {window now : ℕ} {e : μ × ℕ} :
    e ∈ recent h window now ↔ e ∈ h ∧ now < e.2 + window := by simp [recent]

/-- Members that are all different are counted one by one. -/
theorem distinct_of_nodup [DecidableEq μ] {h : List (μ × ℕ)} (hnd : (h.map Prod.fst).Nodup)
    (window now : ℕ) : distinct h window now = (recent h window now).length := by
  have hrecent : ((recent h window now).map Prod.fst).Nodup :=
    hnd.sublist (List.filter_sublist.map Prod.fst)
  rw [distinct, hrecent.dedup, List.length_map]

/-- The set knows the window of a history: its entries are of the history, every member
in the window is there with its latest time, and the key outlives the window. -/
structure Tracks (z : SortedSet μ) (h : List (μ × ℕ)) (window now : ℕ) : Prop where
  sound : ∀ e ∈ z.entries, e ∈ h
  complete : ∀ e ∈ h, now < e.2 + window → ∃ t, e.2 ≤ t ∧ (e.1, t) ∈ z.entries
  alive : ∀ d, z.deadline = some d → ∀ e ∈ h, e.2 + window ≤ d
  past : ∀ e ∈ h, e.2 ≤ now

variable {z : SortedSet μ} {h : List (μ × ℕ)} {window now : ℕ}

theorem Tracks.empty (window now : ℕ) : Tracks (empty : SortedSet μ) [] window now where
  sound _ he := he
  complete _ he := absurd he List.not_mem_nil
  alive _ _ _ he := absurd he List.not_mem_nil
  past _ he := absurd he List.not_mem_nil

theorem Tracks.later {now' : ℕ} (hz : Tracks z h window now) (hle : now ≤ now') :
    Tracks z h window now' where
  sound := hz.sound
  complete e he hlt := hz.complete e he (by omega)
  alive := hz.alive
  past e he := (hz.past e he).trans hle

theorem Tracks.live (hz : Tracks z h window now) : Tracks (z.live now) h window now := by
  unfold SortedSet.live
  split
  · next hexp =>
    obtain ⟨d, hd, hlt⟩ := (Option.any_eq_true _ _).mp hexp
    have hlt := of_decide_eq_true hlt
    -- the window had passed before the key was gone
    have hold : ∀ e ∈ h, ¬ now < e.2 + window := fun e he hin => by
      have hle := hz.alive d hd e he
      omega
    exact ⟨fun e he => absurd he List.not_mem_nil, fun e he hin => absurd hin (hold e he),
      fun d hd => by simp [SortedSet.empty] at hd, hz.past⟩
  · exact hz

theorem deadline_live {d : ℕ} (hd : (z.live now).deadline = some d) : z.deadline = some d := by
  unfold SortedSet.live at hd
  split at hd
  · exact absurd hd (by simp [SortedSet.empty])
  · exact hd

theorem deadline_trim {min max : ℤ} {d : ℕ} (hd : (z.zremrangebyscore min max).deadline = some d) :
    z.deadline = some d := by
  simp only [zremrangebyscore] at hd
  split at hd
  · exact absurd hd (by simp)
  · exact hd

/-- Trimming at `now - window` leaves what is in the window. -/
theorem mem_trim {e : μ × ℕ} :
    e ∈ (z.zremrangebyscore 0 ((now : ℤ) - window)).entries ↔
      e ∈ z.entries ∧ now < e.2 + window := by
  simp only [zremrangebyscore, List.mem_filter, Bool.not_eq_true', decide_eq_false_iff_not]
  refine and_congr_right fun _ => ?_
  omega

theorem Tracks.trim (hz : Tracks z h window now) :
    Tracks (z.zremrangebyscore 0 ((now : ℤ) - window)) h window now where
  sound e he := hz.sound e (mem_trim.mp he).1
  complete e he hlt := by
    obtain ⟨t, hle, hmem⟩ := hz.complete e he hlt
    exact ⟨t, hle, mem_trim.mpr ⟨hmem, by simp only; omega⟩⟩
  alive d hd e he := hz.alive d (deadline_trim hd) e he
  past := hz.past

/-- **The count of a set with nothing too old is the number of distinct members in the
window.** -/
theorem Tracks.zcard_eq [DecidableEq μ] (hz : Tracks z h window now)
    (hin : ∀ e ∈ z.entries, now < e.2 + window) : z.zcard = distinct h window now := by
  have hmem : ∀ m, m ∈ z.entries.map Prod.fst ↔
      m ∈ ((recent h window now).map Prod.fst).dedup := by
    intro m
    rw [List.mem_dedup, List.mem_map, List.mem_map]
    constructor
    · rintro ⟨e, he, rfl⟩
      exact ⟨e, mem_recent.mpr ⟨hz.sound e he, hin e he⟩, rfl⟩
    · rintro ⟨e, he, rfl⟩
      obtain ⟨heh, hlt⟩ := mem_recent.mp he
      obtain ⟨t, -, hmem⟩ := hz.complete e heh hlt
      exact ⟨(e.1, t), hmem, rfl⟩
  have hperm := (List.perm_ext_iff_of_nodup z.nodup (List.nodup_dedup _)).mpr hmem
  simpa [zcard, distinct] using hperm.length_eq

/-- The count of a trimmed set. -/
theorem Tracks.zcard_trim [DecidableEq μ] (hz : Tracks z h window now) :
    (z.zremrangebyscore 0 ((now : ℤ) - window)).zcard = distinct h window now :=
  hz.trim.zcard_eq fun _ he => (mem_trim.mp he).2

/-- A newcomer, and a deadline no earlier than the end of its window. -/
theorem Tracks.add [DecidableEq μ] (hz : Tracks z h window now) (m : μ) {d : ℕ}
    (hd : now + window ≤ d) :
    Tracks ((z.zadd m now).expire d) ((m, now) :: h) window now where
  sound e he := by
    simp only [expire, zadd, List.mem_append, List.mem_filter, List.mem_singleton] at he
    rcases he with ⟨he, -⟩ | rfl
    · exact List.mem_cons_of_mem _ (hz.sound e he)
    · exact List.mem_cons_self
  complete e he hlt := by
    simp only [expire, zadd, List.mem_append, List.mem_filter, List.mem_singleton]
    rcases List.mem_cons.mp he with rfl | he
    · exact ⟨now, le_rfl, .inr rfl⟩
    · by_cases hm : e.1 = m
      · exact ⟨now, hz.past e he, .inr (by rw [hm])⟩
      · obtain ⟨t, hle, hmem⟩ := hz.complete e he hlt
        exact ⟨t, hle, .inl ⟨hmem, by simpa using hm⟩⟩
  alive d' hd' e he := by
    simp only [expire, zadd] at hd'
    obtain rfl : d = d' := by simpa using hd'
    rcases List.mem_cons.mp he with rfl | he
    · exact hd
    · have hle := hz.past e he
      omega
  past e he := by
    rcases List.mem_cons.mp he with rfl | he
    · exact le_rfl
    · exact hz.past e he

/-- The count of a trimmed set with a newcomer. -/
theorem Tracks.zcard_add [DecidableEq μ] (hz : Tracks z h window now) (hwindow : 0 < window)
    (m : μ) : ((z.zremrangebyscore 0 ((now : ℤ) - window)).zadd m now).zcard =
      distinct ((m, now) :: h) window now := by
  refine (hz.trim.add m (le_refl (now + window))).zcard_eq fun e he => ?_
  simp only [expire, zadd, List.mem_append, List.mem_filter, List.mem_singleton] at he
  rcases he with ⟨he, -⟩ | rfl
  · exact (mem_trim.mp he).2
  · exact Nat.lt_add_of_pos_right hwindow

/-- Where every member is new, the count is one more than what the window holds. -/
theorem Tracks.zcard_add_fresh [DecidableEq μ] (hz : Tracks z h window now) {m : μ}
    (hnd : ((m, now) :: h).map Prod.fst |>.Nodup) :
    ((z.zremrangebyscore 0 ((now : ℤ) - window)).zadd m now).zcard =
      (recent h window now).length + 1 := by
  rw [List.map_cons, List.nodup_cons] at hnd
  have hnew : ∀ e ∈ (z.zremrangebyscore 0 ((now : ℤ) - window)).entries, e.1 ≠ m := by
    intro e he heq
    exact hnd.1 (List.mem_map.mpr ⟨e, hz.trim.sound e he, heq⟩)
  have hkept := List.filter_eq_self.mpr fun e he => decide_eq_true (hnew e he)
  have hcard := hz.zcard_trim
  rw [distinct_of_nodup hnd.2] at hcard
  simp only [zcard, zadd, List.length_append, hkept, List.length_singleton] at hcard ⊢
  rw [hcard]

/-! ### Sequences -/

/-- The set has the end of a history in order: its entries are the history's that were in
the window at some time that has come, and the key lives `lease` from the newest on. -/
structure Lists (z : SortedSet μ) (h : List (μ × ℕ)) (window lease now : ℕ) : Prop where
  kept : ∃ floor ≤ now, z.entries = (recent h window floor).reverse
  alive : ∀ d, z.deadline = some d → ∀ e ∈ h.head?, d = e.2 + lease

variable {lease : ℕ}

theorem Lists.empty (window lease now : ℕ) :
    Lists (SortedSet.empty : SortedSet μ) [] window lease now where
  kept := ⟨now, le_rfl, rfl⟩
  alive _ _ _ he := absurd he (by simp)

theorem Lists.later {now' : ℕ} (hz : Lists z h window lease now) (hle : now ≤ now') :
    Lists z h window lease now' where
  kept := by
    obtain ⟨floor, hfloor, heq⟩ := hz.kept
    exact ⟨floor, hfloor.trans hle, heq⟩
  alive := hz.alive

/-- Two windows over one history: the later one is what counts. -/
theorem recent_recent {floor : ℕ} (h : List (μ × ℕ)) (hle : floor ≤ now) :
    recent (recent h window floor) window now = recent h window now := by
  rw [recent, recent, List.filter_filter]
  refine List.filter_congr fun e _ => ?_
  simp only [Bool.and_eq_decide, decide_eq_true_eq]
  refine decide_eq_decide.mpr ⟨fun hlt => hlt.1, fun hlt => ⟨hlt, by omega⟩⟩

theorem entries_trim (z : SortedSet μ) (window now : ℕ) :
    (z.zremrangebyscore 0 ((now : ℤ) - window)).entries = recent z.entries window now := by
  rw [zremrangebyscore, recent]
  refine List.filter_congr fun e _ => ?_
  rw [← decide_not]
  refine decide_eq_decide.mpr ?_
  omega

/-- What is found before the lease of the newest entry is over. -/
theorem Lists.live (hz : Lists z h window lease now) (hlease : ∀ e ∈ h.head?, now ≤ e.2 + lease) :
    (z.live now).entries = z.entries := by
  unfold SortedSet.live
  split
  · next hexp =>
    obtain ⟨d, hd, hlt⟩ := (Option.any_eq_true _ _).mp hexp
    have hlt := of_decide_eq_true hlt
    cases h with
    | nil =>
      obtain ⟨floor, -, heq⟩ := hz.kept
      rw [heq]
      rfl
    | cons e h =>
      have hd' := hz.alive d hd e rfl
      have hle := hlease e rfl
      omega
  · rfl

/-- A trimmed set has the window, in order. -/
theorem Lists.entries_trim (hz : Lists z h window lease now) (ht : Tracks z h window now) :
    ((z.live now).zremrangebyscore 0 ((now : ℤ) - window)).entries =
      (recent h window now).reverse := by
  rw [SortedSet.entries_trim]
  unfold SortedSet.live
  split
  · next hexp =>
    obtain ⟨d, hd, hlt⟩ := (Option.any_eq_true _ _).mp hexp
    have hlt := of_decide_eq_true hlt
    have hnone : recent h window now = [] := List.filter_eq_nil_iff.mpr fun e he => by
      have hle := ht.alive d hd e he
      simp only [decide_eq_true_eq]
      omega
    rw [hnone]
    rfl
  · obtain ⟨floor, hle, heq⟩ := hz.kept
    rw [heq, recent, List.filter_reverse]
    exact congrArg List.reverse (recent_recent h hle)

theorem Lists.trim (hz : Lists z h window lease now) (ht : Tracks z h window now) :
    Lists ((z.live now).zremrangebyscore 0 ((now : ℤ) - window)) h window lease now where
  kept := ⟨now, le_rfl, hz.entries_trim ht⟩
  alive d hd e he := hz.alive d (deadline_live (deadline_trim hd)) e he

/-- A newcomer that is not in the history goes to the end. -/
theorem Lists.add [DecidableEq μ] (hz : Lists z h window lease now) (hwindow : 0 < window) {m : μ}
    (hnew : ∀ e ∈ h, e.1 ≠ m) :
    Lists ((z.zadd m now).expire (now + lease)) ((m, now) :: h) window lease now where
  kept := by
    obtain ⟨floor, hle, heq⟩ := hz.kept
    refine ⟨floor, hle, ?_⟩
    have hall : z.entries.filter (fun e => e.1 ≠ m) = z.entries := by
      refine List.filter_eq_self.mpr fun e he => decide_eq_true (hnew e ?_)
      rw [heq, List.mem_reverse] at he
      exact (mem_recent.mp he).1
    have hcons : recent ((m, now) :: h) window floor = (m, now) :: recent h window floor := by
      have hlt : floor < now + window := by omega
      simp [recent, hlt]
    simp only [expire, zadd]
    rw [hall, hcons, List.reverse_cons, heq]
  alive d hd e he := by
    simp only [expire, zadd] at hd
    obtain rfl : now + lease = d := by simpa using hd
    obtain rfl : (m, now) = e := by simpa using he
    rfl

/-- The range of a set whose entries are in order. -/
theorem zrange_of_sorted [Preorder μ] [DecidableLT μ] (hsorted : z.entries.Pairwise Before) :
    z.zrange = z.entries.map Prod.fst := by
  refine congrArg (List.map Prod.fst) (List.Pairwise.insertionSort_eq (hsorted.imp ?_))
  rintro e e' (hlt | ⟨heq, hlt⟩) (hlt' | ⟨heq', hlt'⟩)
  · omega
  · omega
  · omega
  · exact lt_asymm hlt hlt'

end SortedSet
