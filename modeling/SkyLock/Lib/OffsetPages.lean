import Mathlib.Data.List.Sort
import Mathlib.Data.Nat.Notation

/-!
# Offset pagination

A result is read in pages of one size: the request for the page `p` sorts the rows by a
key and returns those from an offset on.  Rows may share a key, and every request may
find such rows in an order of its own.  As long as no page ends between two rows with
equal keys this does not matter; otherwise one page may repeat a row of the page before,
in place of a row that is then on no page.

## Main definitions

* `OrderBy` — an answer to `ORDER BY key`.
* `window` — `OFFSET (p - 1) * size LIMIT size`.
* `Page`, `PageWalk` — reading pages until one has no more after it.
* `Separated` — no page ends between two rows with equal keys.
* `Endpoint` — a request handler that serves such pages.

## Main results

* `Endpoint.exists_walk_iff` — the pages come to an end if there are few enough.
* `Endpoint.partitions_iff` — **they have every row once, whatever the orders, exactly
  where the result is separated**.
-/

namespace OffsetPages

variable {α β κ : Type} [LinearOrder κ] {key : α → κ} {rows : List α}

/-! ### Sorting by a key that rows may share -/

/-- An answer to a query for the rows `ORDER BY key`: rows with equal keys come in any
order. -/
structure OrderBy (key : α → κ) (rows : List α) where
  list : List α
  perm : list.Perm rows
  sorted : list.Pairwise fun r r' => key r ≤ key r'

/-- The keys of the rows, in order. -/
def sortedKeys (key : α → κ) (rows : List α) : List κ :=
  (rows.map key).insertionSort fun c c' => c ≤ c'

namespace OrderBy

/-- Every answer has the same keys. -/
theorem map_key (o : OrderBy key rows) : o.list.map key = sortedKeys key rows := by
  have hperm : (o.list.map key).Perm (sortedKeys key rows) :=
    (o.perm.map key).trans (List.perm_insertionSort _ _).symm
  exact hperm.eq_of_pairwise' (List.pairwise_map.mpr o.sorted) (List.pairwise_insertionSort _ _)

@[simp] theorem length_list (o : OrderBy key rows) : o.list.length = rows.length :=
  o.perm.length_eq

/-- The answer that keeps rows with equal keys in the order they are stored. -/
def stable (key : α → κ) (rows : List α) : OrderBy key rows where
  list := rows.insertionSort fun r r' => key r ≤ key r'
  perm := List.perm_insertionSort _ _
  sorted := by
    have : Std.Total fun r r' : α => key r ≤ key r' := ⟨fun r r' => le_total (key r) (key r')⟩
    have : IsTrans α fun r r' : α => key r ≤ key r' := ⟨fun _ _ _ h h' => h.trans h'⟩
    exact List.pairwise_insertionSort _ rows

/-- An answer over rows that were copied, read as one over the rows. -/
def map (f : β → α) {stored : List β} (o : OrderBy (fun r => key (f r)) stored)
    (h : (stored.map f).Perm rows) : OrderBy key rows where
  list := o.list.map f
  perm := (o.perm.map f).trans h
  sorted := List.pairwise_map.mpr o.sorted

/-- The rows in another order with the same keys. -/
def rearranged (o : OrderBy key rows) (list : List α) (hperm : list.Perm o.list)
    (hkeys : list.map key = o.list.map key) : OrderBy key rows where
  list := list
  perm := hperm.trans o.perm
  sorted := by
    have hsorted := List.pairwise_map.mpr o.sorted
    rw [← hkeys] at hsorted
    exact List.pairwise_map.mp hsorted

end OrderBy

/-- Rows in the order of their images. -/
theorem exists_perm_map (f : β → α) {list : List α} {stored : List β}
    (h : list.Perm (stored.map f)) : ∃ list' : List β, list'.Perm stored ∧ list'.map f = list := by
  generalize hrows : stored.map f = rows at h
  induction h generalizing stored with
  | nil => exact ⟨[], by simp [List.map_eq_nil_iff.mp hrows], rfl⟩
  | cons x _ ih =>
    obtain ⟨y, ys, rfl, rfl, hys⟩ := List.map_eq_cons_iff.mp hrows
    obtain ⟨zs, hperm, hmap⟩ := ih hys
    exact ⟨y :: zs, hperm.cons y, by rw [List.map_cons, hmap]⟩
  | swap x y _ =>
    obtain ⟨a, as, rfl, rfl, has⟩ := List.map_eq_cons_iff.mp hrows
    obtain ⟨b, bs, rfl, rfl, hbs⟩ := List.map_eq_cons_iff.mp has
    exact ⟨b :: a :: bs, List.Perm.swap a b bs, by rw [List.map_cons, List.map_cons, hbs]⟩
  | trans _ _ ih₁ ih₂ =>
    obtain ⟨zs, hperm, hmap⟩ := ih₂ hrows
    obtain ⟨zs', hperm', hmap'⟩ := ih₁ hmap
    exact ⟨zs', hperm'.trans hperm, hmap'⟩

/-- Any answer over the copies comes from one over the rows they are copies of. -/
theorem OrderBy.exists_map (f : β → α) {stored : List β} (o : OrderBy key rows)
    (h : (stored.map f).Perm rows) :
    ∃ o' : OrderBy (fun r => key (f r)) stored, o'.list.map f = o.list := by
  obtain ⟨list, hperm, hmap⟩ := exists_perm_map f (o.perm.trans h.symm)
  refine ⟨⟨list, hperm, ?_⟩, hmap⟩
  have hsorted := o.sorted
  rw [← hmap, List.pairwise_map] at hsorted
  exact hsorted

/-! ### Where two answers have the same first rows -/

/-- No two rows with equal keys are on either side of the position `m`. -/
def CutAt (key : α → κ) (rows : List α) (m : ℕ) : Prop :=
  0 < m → m < rows.length → (sortedKeys key rows)[m - 1]? ≠ (sortedKeys key rows)[m]?

/-- No page ends between two rows with equal keys. -/
def Separated (key : α → κ) (size : ℕ) (rows : List α) : Prop :=
  ∀ k, CutAt key rows (k * size)

/-- The rows above a cut are those with the smaller keys. -/
theorem OrderBy.take_eq_filter (o : OrderBy key rows) {m : ℕ} (hpos : 0 < m)
    (hlt : m < o.list.length) (hcut : key o.list[m - 1] < key o.list[m]) :
    o.list.take m = o.list.filter fun r => decide (key r ≤ key o.list[m - 1]) := by
  have hle : ∀ i j (hi : i < o.list.length) (hj : j < o.list.length), i ≤ j →
      key o.list[i] ≤ key o.list[j] := by
    intro i j hi hj hij
    rcases hij.eq_or_lt with rfl | hij
    · exact le_rfl
    · exact List.pairwise_iff_getElem.mp o.sorted i j hi hj hij
  have htake : (o.list.take m).filter (fun r => decide (key r ≤ key o.list[m - 1])) =
      o.list.take m := by
    rw [List.filter_eq_self]
    intro r hr
    obtain ⟨i, hi, rfl⟩ := List.mem_iff_getElem.mp hr
    rw [List.length_take] at hi
    rw [List.getElem_take, decide_eq_true_eq]
    exact hle i (m - 1) (by omega) (by omega) (by omega)
  have hdrop : (o.list.drop m).filter (fun r => decide (key r ≤ key o.list[m - 1])) = [] := by
    rw [List.filter_eq_nil_iff]
    intro r hr
    obtain ⟨i, hi, rfl⟩ := List.mem_iff_getElem.mp hr
    rw [List.length_drop] at hi
    rw [List.getElem_drop, decide_eq_true_eq, not_le]
    exact hcut.trans_le (hle m (m + i) hlt (by omega) (by omega))
  have hsplit := List.filter_append (p := fun r => decide (key r ≤ key o.list[m - 1]))
    (o.list.take m) (o.list.drop m)
  rw [List.take_append_drop, htake, hdrop, List.append_nil] at hsplit
  exact hsplit.symm

theorem OrderBy.key_getElem (o : OrderBy key rows) {i : ℕ} (hi : i < o.list.length) :
    (sortedKeys key rows)[i]? = some (key o.list[i]) := by
  rw [← o.map_key, List.getElem?_map, List.getElem?_eq_getElem hi, Option.map_some]

/-- Above a cut, two answers have the same rows. -/
theorem OrderBy.take_perm (o o' : OrderBy key rows) {m : ℕ} (h : CutAt key rows m) :
    (o.list.take m).Perm (o'.list.take m) := by
  have hperm : o.list.Perm o'.list := o.perm.trans o'.perm.symm
  rcases Nat.eq_zero_or_pos m with rfl | hpos
  · exact .refl _
  rcases Nat.lt_or_ge m rows.length with hlt | hge
  · have hcut := h hpos hlt
    have hm : m < o.list.length := by rwa [o.length_list]
    have hm' : m < o'.list.length := by rwa [o'.length_list]
    -- both cuts are at the same key
    have hbelow : key o.list[m - 1] = key o'.list[m - 1] := by
      have heq := (o.key_getElem (i := m - 1) (by omega)).symm.trans
        (o'.key_getElem (i := m - 1) (by omega))
      exact Option.some.inj heq
    rw [o.key_getElem hm, o.key_getElem (i := m - 1) (by omega)] at hcut
    have hlt₁ : key o.list[m - 1] < key o.list[m] := by
      refine lt_of_le_of_ne ?_ fun heq => hcut (congrArg some heq)
      exact List.pairwise_iff_getElem.mp o.sorted _ _ _ _ (by omega)
    have hlt₂ : key o'.list[m - 1] < key o'.list[m] := by
      have heq : key o.list[m] = key o'.list[m] :=
        Option.some.inj ((o.key_getElem hm).symm.trans (o'.key_getElem hm'))
      rw [← hbelow, ← heq]
      exact hlt₁
    rw [o.take_eq_filter hpos hm hlt₁, o'.take_eq_filter hpos hm' hlt₂, ← hbelow]
    exact hperm.filter _
  · rw [List.take_of_length_le (by rwa [o.length_list]),
      List.take_of_length_le (by rwa [o'.length_list])]
    exact hperm

/-! ### Pages -/

/-- `OFFSET (p - 1) * size LIMIT size`. -/
def window (size p : ℕ) (rows : List α) : List α := (rows.drop ((p - 1) * size)).take size

theorem succ_pred_mul {p : ℕ} (hp : 1 ≤ p) (size : ℕ) : (p - 1) * size + size = p * size := by
  obtain ⟨q, rfl⟩ := Nat.exists_eq_add_of_le' hp
  rw [Nat.add_sub_cancel, Nat.succ_mul]

/-- The rows before a page, and then the page. -/
theorem take_append_window {size p : ℕ} (hp : 1 ≤ p) (rows : List α) :
    rows.take ((p - 1) * size) ++ window size p rows = rows.take (p * size) := by
  rw [window, ← succ_pred_mul hp size, List.take_add]

theorem getElem?_window {size p i : ℕ} (hi : i < size) (rows : List α) :
    (window size p rows)[i]? = rows[(p - 1) * size + i]? := by
  rw [window, List.getElem?_take_of_lt hi, List.getElem?_drop]

/-- A page of a result. -/
structure Page (τ : Type) where
  items : List τ
  page : ℕ
  pageSize : ℕ
  total : ℕ
  hasMore : Bool

/-- Requesting the pages from `p` on, until one has no more after it. -/
inductive PageWalk {ε τ : Type} (serve : ℕ → Except ε (Page τ)) : ℕ → List (Page τ) → Prop
  | last {p : ℕ} {page : Page τ} (hpage : serve p = .ok page) (h : page.hasMore = false) :
      PageWalk serve p [page]
  | more {p : ℕ} {page : Page τ} {pages : List (Page τ)} (hpage : serve p = .ok page)
      (h : page.hasMore = true) (hrest : PageWalk serve (p + 1) pages) :
      PageWalk serve p (page :: pages)

/-- The pages have every one of the identities once, and count them. -/
structure Partitions {τ ι : Type} (id : τ → ι) (pages : List (Page τ)) (ids : List ι) :
    Prop where
  items : ((pages.flatMap Page.items).map id).Perm ids
  total : ∀ page ∈ pages, page.total = (pages.flatMap Page.items).length

/-- The order of the request for the page `p` in a series of requests that find the same
rows. -/
def Serves {ε τ ι ν : Type} (serve : ℕ → Except ε (Page τ)) (id : τ → ι) (size last total : ℕ)
    (order : ℕ → List (ι × ν)) : Prop :=
  ∀ p, 1 ≤ p → (∀ page, serve p = .ok page → p ≤ last ∧
      page.items.map id = (window size p (order p)).map Prod.fst ∧ page.total = total ∧
      page.hasMore = decide (p * size < total)) ∧
    (p ≤ last → ∃ page, serve p = .ok page)

namespace Serves

variable {ε τ ι ν : Type} {serve : ℕ → Except ε (Page τ)} {id : τ → ι} {size last : ℕ}
  {found : List (ι × ν)} {order : ℕ → List (ι × ν)} {p : ℕ} {pages : List (Page τ)}

/-- A walk ends if there are few enough pages to ask for. -/
theorem exists_walk (h : Serves serve id size last found.length order) (hp : 1 ≤ p)
    (hlast : p ≤ last) (hfew : found.length ≤ last * size) : ∃ pages, PageWalk serve p pages := by
  obtain ⟨n, rfl⟩ := Nat.exists_eq_add_of_le hlast
  induction n generalizing p with
  | zero =>
    obtain ⟨page, hpage⟩ := (h p hp).2 (by omega)
    obtain ⟨-, -, -, hmore⟩ := (h p hp).1 page hpage
    refine ⟨[page], .last hpage ?_⟩
    rw [hmore, decide_eq_false_iff_not]
    exact not_lt.mpr hfew
  | succ n ih =>
    obtain ⟨page, hpage⟩ := (h p hp).2 (by omega)
    obtain ⟨-, -, -, hmore⟩ := (h p hp).1 page hpage
    cases hnext : page.hasMore with
    | false => exact ⟨[page], .last hpage hnext⟩
    | true =>
      have hlen : p + 1 + n = p + (n + 1) := by omega
      rw [← hlen] at h hfew
      obtain ⟨pages, hpages⟩ := ih (by omega) h (by omega) hfew
      exact ⟨page :: pages, .more hpage hnext hpages⟩

/-- A walk that ends has asked for no page after the last. -/
theorem length_le (h : Serves serve id size last found.length order) (hp : 1 ≤ p)
    (hwalk : PageWalk serve p pages) : found.length ≤ last * size := by
  induction hwalk with
  | @last p page hpage hmore =>
    obtain ⟨hle, -, -, heq⟩ := (h p hp).1 page hpage
    rw [heq, decide_eq_false_iff_not, not_lt] at hmore
    exact hmore.trans (Nat.mul_le_mul_right size hle)
  | more _ _ _ ih => exact ih (by omega)

/-- Every page of a walk has the same count. -/
theorem total (h : Serves serve id size last found.length order) (hp : 1 ≤ p)
    (hwalk : PageWalk serve p pages) : ∀ page ∈ pages, page.total = found.length := by
  induction hwalk with
  | @last p page hpage hmore =>
    intro page' hmem
    rw [List.mem_singleton.mp hmem]
    exact ((h p hp).1 page hpage).2.2.1
  | @more p page pages hpage hmore hrest ih =>
    intro page' hmem
    rcases List.mem_cons.mp hmem with rfl | hmem
    · exact ((h p hp).1 page' hpage).2.2.1
    · exact ih (by omega) page' hmem

/-- The rows of the pages before `p`, in any order, and those of a walk from `p` on. -/
theorem walk_perm [LinearOrder ν] (h : Serves serve id size last found.length order)
    (horder : ∀ p, ∃ o : OrderBy Prod.snd found, o.list = order p)
    (hsep : Separated Prod.snd size found) (hp : 1 ≤ p) (hwalk : PageWalk serve p pages)
    (o : OrderBy Prod.snd found) :
    (((o.list.take ((p - 1) * size)).map Prod.fst) ++
      (pages.flatMap Page.items).map id).Perm (found.map Prod.fst) := by
  -- whatever order the request for `p` finds, the rows before the page are the same
  have hpage : ∀ {p page}, 1 ≤ p → serve p = .ok page →
      (((o.list.take ((p - 1) * size)).map Prod.fst) ++ page.items.map id).Perm
        ((o.list.take (p * size)).map Prod.fst) := by
    intro p page hp hpage
    obtain ⟨-, hitems, -⟩ := (h p hp).1 page hpage
    obtain ⟨o', ho'⟩ := horder p
    rw [hitems, ← ho', ← List.map_append]
    have hbefore := (o.take_perm o' (hsep (p - 1))).append_right (window size p o'.list)
    rw [take_append_window hp] at hbefore
    exact (hbefore.trans (o'.take_perm o (hsep p))).map Prod.fst
  induction hwalk with
  | @last p page hok hmore =>
    obtain ⟨-, -, -, heq⟩ := (h p hp).1 page hok
    rw [heq, decide_eq_false_iff_not, not_lt] at hmore
    have hall : o.list.take (p * size) = o.list :=
      List.take_of_length_le (by rwa [o.length_list])
    have hperm := hpage hp hok
    rw [hall] at hperm
    rw [List.flatMap_singleton]
    exact hperm.trans (o.perm.map Prod.fst)
  | @more p page pages hok hmore hrest ih =>
    have hrest := ih (by omega)
    rw [Nat.add_sub_cancel] at hrest
    rw [List.flatMap_cons, List.map_append, ← List.append_assoc]
    exact ((hpage hp hok).append_right _).trans hrest

/-- The page `q` is among those of a walk that comes to it. -/
theorem getElem?_walk (h : Serves serve id size last found.length order) (hp : 1 ≤ p)
    (hwalk : PageWalk serve p pages) {q : ℕ} (hq : p ≤ q)
    (hlt : p < q → (q - 1) * size < found.length) :
    (pages.map fun page => page.items.map id)[q - p]? =
      some ((window size q (order q)).map Prod.fst) := by
  induction hwalk with
  | @last p page hok hmore =>
    obtain ⟨-, hitems, -, heq⟩ := (h p hp).1 page hok
    rw [heq, decide_eq_false_iff_not, not_lt] at hmore
    rcases hq.eq_or_lt with rfl | hpq
    · rw [Nat.sub_self, List.map_singleton, List.getElem?_cons_zero, hitems]
    · have hle : p * size ≤ (q - 1) * size := Nat.mul_le_mul_right size (by omega)
      exact absurd (hlt hpq) (by omega)
  | @more p page pages hok hmore hrest ih =>
    obtain ⟨-, hitems, -⟩ := (h p hp).1 page hok
    rcases hq.eq_or_lt with rfl | hpq
    · rw [Nat.sub_self, List.map_cons, List.getElem?_cons_zero, hitems]
    · have hsucc : q - p = (q - (p + 1)) + 1 := by omega
      rw [List.map_cons, hsucc, List.getElem?_cons_succ]
      exact ih (by omega) (by omega) fun _ => hlt hpq

/-- Where two orders differ about the rows of a cut, two pages have a row in common. -/
theorem not_nodup (h : Serves serve id size last found.length order) (hwalk : PageWalk serve 1 pages)
    {k i : ℕ} (hk : 0 < k) (hi : i < size) (hpos : 0 < size) (hlt : k * size < found.length)
    {r : ι × ν} (hthis : (order k)[(k - 1) * size + i]? = some r)
    (hnext : (order (k + 1))[k * size]? = some r) :
    ¬ ((pages.flatMap Page.items).map id).Nodup := by
  intro hnd
  have hfirst := h.getElem?_walk le_rfl hwalk (q := k) hk fun _ =>
    (Nat.mul_le_mul_right size (Nat.sub_le k 1)).trans_lt hlt
  have hsecond := h.getElem?_walk le_rfl hwalk (q := k + 1) (by omega) fun _ => by
    rwa [Nat.add_sub_cancel]
  rw [List.map_flatMap, List.flatMap_def, List.nodup_flatten] at hnd
  obtain ⟨hk₁, heq₁⟩ := List.getElem?_eq_some_iff.mp hfirst
  obtain ⟨hk₂, heq₂⟩ := List.getElem?_eq_some_iff.mp hsecond
  have hdisjoint := List.pairwise_iff_getElem.mp hnd.2 _ _ hk₁ hk₂ (by omega)
  rw [heq₁, heq₂] at hdisjoint
  have hmem₁ : r.1 ∈ (window size k (order k)).map Prod.fst := by
    rw [← getElem?_window hi] at hthis
    exact List.mem_map_of_mem (List.mem_of_getElem? hthis)
  have hmem₂ : r.1 ∈ (window size (k + 1) (order (k + 1))).map Prod.fst := by
    have hat : (window size (k + 1) (order (k + 1)))[0]? = some r := by
      rw [getElem?_window hpos, Nat.add_sub_cancel]
      exact hnext
    exact List.mem_map_of_mem (List.mem_of_getElem? hat)
  exact hdisjoint hmem₁ hmem₂

end Serves

/-! ### Orders that disagree -/

/-- The same answer with the two rows at a position changed over, where their keys are
equal. -/
theorem OrderBy.exists_swap (o : OrderBy key rows) {m : ℕ} (hpos : 0 < m)
    (hlt : m < rows.length) (heq : (sortedKeys key rows)[m - 1]? = (sortedKeys key rows)[m]?) :
    ∃ o' : OrderBy key rows, o'.list[m]? = o.list[m - 1]? := by
  obtain ⟨i, rfl⟩ := Nat.exists_eq_add_of_le' hpos
  rw [Nat.add_sub_cancel] at heq ⊢
  have hlen : i + 1 < o.list.length := by rwa [o.length_list]
  rw [o.key_getElem hlen, o.key_getElem (by omega)] at heq
  have hsplit : o.list = o.list.take i ++ o.list[i] :: o.list[i + 1] :: o.list.drop (i + 2) := by
    rw [List.getElem_cons_drop, List.getElem_cons_drop, List.take_append_drop]
  refine ⟨o.rearranged (o.list.take i ++ o.list[i + 1] :: o.list[i] :: o.list.drop (i + 2)) ?_ ?_,
    ?_⟩
  · exact ((List.Perm.swap _ _ _).append_left _).trans (.of_eq hsplit.symm)
  · have hkeys := congrArg (List.map key) hsplit
    rw [hkeys, List.map_append, List.map_append, List.map_cons, List.map_cons, List.map_cons,
      List.map_cons, Option.some.inj heq]
  · have htake : (o.list.take i).length = i := by
      rw [List.length_take]
      omega
    rw [OrderBy.rearranged, List.getElem?_append_right (by omega), htake, Nat.add_sub_cancel_left,
      List.getElem?_cons_succ, List.getElem?_cons_zero, List.getElem?_eq_getElem]

/-- Over a result that is not separated, the request for the next page may find a row of
this one. -/
theorem exists_repeating {size : ℕ} (hsize : 0 < size) (h : ¬ Separated key size rows) :
    ∃ (k : ℕ) (order : ℕ → OrderBy key rows) (r : α), 0 < k ∧ k * size < rows.length ∧
      (order k).list[(k - 1) * size + (size - 1)]? = some r ∧
      (order (k + 1)).list[k * size]? = some r := by
  simp only [Separated, CutAt, not_forall, not_not, exists_prop] at h
  obtain ⟨k, hpos, hlt, heq⟩ := h
  have hk : 0 < k := Nat.pos_of_mul_pos_right hpos
  obtain ⟨o', ho'⟩ := (OrderBy.stable key rows).exists_swap hpos hlt heq
  have hbefore : (k - 1) * size + (size - 1) = k * size - 1 := by
    have := succ_pred_mul hk size
    omega
  have hmem : k * size - 1 < (OrderBy.stable key rows).list.length := by
    rw [OrderBy.length_list]
    omega
  refine ⟨k, fun p => if p = k + 1 then o' else .stable key rows,
    (OrderBy.stable key rows).list[k * size - 1], hk, hlt, ?_, ?_⟩
  · show (if k = k + 1 then o' else OrderBy.stable key rows).list[_]? = _
    rw [if_neg (by omega), hbefore, List.getElem?_eq_getElem hmem]
  · show (if k + 1 = k + 1 then o' else OrderBy.stable key rows).list[_]? = _
    rw [if_pos rfl, ho', List.getElem?_eq_getElem hmem]

/-! ### Endpoints -/

/-- A handler that serves the pages of a result: `ρ` is what a request finds in the
store and in its parameters, other than the number of the page. -/
structure Endpoint (ρ ε τ ι κ : Type) [LinearOrder κ] where
  serve : ρ → ℕ → Except ε (Page τ)
  id : τ → ι
  /-- The rows of the result, each by its identity and its key. -/
  found : ρ → List (ι × κ)
  order : (r : ρ) → OrderBy Prod.snd (found r)
  size : ℕ
  last : ℕ
  size_pos : 1 ≤ size
  last_pos : 1 ≤ last
  /-- What it answers, and which pages it refuses. -/
  serves : ∀ requests : ℕ → ρ, ∀ total, (∀ p, (found (requests p)).length = total) →
    Serves (fun p => serve (requests p) p) id size last total fun p => (order (requests p)).list
  /-- The store may answer in any order. -/
  reorder : ∀ r (o : OrderBy Prod.snd (found r)), ∃ r', found r' = found r ∧ (order r').list = o.list

namespace Endpoint

variable {ρ ε τ ι κ : Type} [LinearOrder κ] (E : Endpoint ρ ε τ ι κ) {found : List (ι × κ)}
  {requests : ℕ → ρ}

theorem serves_of_perm (h : ∀ p, (E.found (requests p)).Perm found) :
    Serves (fun p => E.serve (requests p) p) E.id E.size E.last found.length fun p =>
      (E.order (requests p)).list :=
  E.serves requests _ fun p => (h p).length_eq

/-- **The pages come to an end exactly if there are few enough.** -/
theorem exists_walk_iff (h : ∀ p, (E.found (requests p)).Perm found) :
    (∃ pages, PageWalk (fun p => E.serve (requests p) p) 1 pages) ↔
      found.length ≤ E.last * E.size := by
  constructor
  · rintro ⟨pages, hwalk⟩
    exact (E.serves_of_perm h).length_le le_rfl hwalk
  · intro hfew
    exact (E.serves_of_perm h).exists_walk le_rfl E.last_pos hfew

/-- Over a separated result, the pages of a walk have every row once. -/
theorem partitions_of_separated (h : ∀ p, (E.found (requests p)).Perm found)
    (hsep : Separated Prod.snd E.size found) {pages : List (Page τ)}
    (hwalk : PageWalk (fun p => E.serve (requests p) p) 1 pages) :
    Partitions E.id pages (found.map Prod.fst) := by
  have hserves := E.serves_of_perm h
  have horder : ∀ p, ∃ o : OrderBy Prod.snd found, o.list = (E.order (requests p)).list :=
    fun p => ⟨⟨_, (E.order (requests p)).perm.trans (h p), (E.order (requests p)).sorted⟩, rfl⟩
  have hperm := hserves.walk_perm horder hsep le_rfl hwalk (.stable Prod.snd found)
  rw [Nat.sub_self, Nat.zero_mul, List.take_zero, List.map_nil, List.nil_append] at hperm
  refine ⟨hperm, fun page hpage => ?_⟩
  have hlen := hperm.length_eq
  rw [List.length_map, List.length_map] at hlen
  rw [hserves.total le_rfl hwalk page hpage, hlen]

/-- **Whatever order every request finds, the pages have every row once, exactly where no
page ends between two rows with equal keys.** -/
theorem partitions_iff (first : ρ) (hnd : ((E.found first).map Prod.fst).Nodup) :
    (∀ requests : ℕ → ρ, (∀ p, (E.found (requests p)).Perm (E.found first)) →
      ∀ pages, PageWalk (fun p => E.serve (requests p) p) 1 pages →
        Partitions E.id pages ((E.found first).map Prod.fst)) ↔
      ((E.found first).length ≤ E.last * E.size → Separated Prod.snd E.size (E.found first)) := by
  constructor
  · intro h hfew
    by_contra hsep
    obtain ⟨k, order, r, hk, hlt, hthis, hnext⟩ := exists_repeating E.size_pos hsep
    choose requests hfound horder using fun p => E.reorder first (order p)
    have hperm : ∀ p, (E.found (requests p)).Perm (E.found first) := fun p => .of_eq (hfound p)
    obtain ⟨pages, hwalk⟩ := (E.exists_walk_iff hperm).mpr hfew
    have hserves := E.serves_of_perm hperm
    rw [← horder] at hthis hnext
    have hpos : 0 < E.size := E.size_pos
    exact hserves.not_nodup hwalk hk (Nat.sub_lt hpos one_pos) hpos hlt hthis hnext
      ((h requests hperm pages hwalk).items.nodup_iff.mpr hnd)
  · intro h requests hperm pages hwalk
    have hfew := (E.exists_walk_iff hperm).mp ⟨pages, hwalk⟩
    exact E.partitions_of_separated hperm (h hfew) hwalk

end Endpoint

end OffsetPages
