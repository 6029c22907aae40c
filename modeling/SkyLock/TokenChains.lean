import SkyLock.TokenFamilies

/-!
# Token chains

The tokens of one login form a chain: each exchange appends one child to the only
active token.  The check of `used_at` and its write are separate statements, so this
holds where the row a rotation marks is still unused, and the calls are fenced.

## Main definitions

* `Unspent` — a rotation marks a token that is still unused.
* `Chain` — what such calls keep of the family.

## Main results

* `exchanged_once` — **a token is exchanged once, and a replay kills its family**.
* `root_exchanged_twice` — two overlapping rotations of one token both succeed.
-/

namespace SkyLock

open Concurrent ReadCommitted

/-- A token is marked as used only while it is unused. -/
def Unspent (w : World TokenStore TokenProc) (p : ℕ) (a : TokenInput) : Prop :=
  match w.proc p, a with
  | .call _ (.useToken row), .go _ => ∀ r ∈ w.shared.rows, r.id = row.id → r.usedAt = none
  | _, _ => True

instance (w : World TokenStore TokenProc) (p : ℕ) (a : TokenInput) :
    Decidable (Unspent w p a) := by
  unfold Unspent
  generalize w.proc p = q
  induction q using TokenProc.casesOn with
  | call r pc =>
    induction pc using TokenPc.casesOn <;> induction a using TokenInput.casesOn <;> infer_instance
  | _ => infer_instance

/-- Rotations and revocations do not overlap on a token or a family. -/
def Serial (w : World TokenStore TokenProc) (p : ℕ) (a : TokenInput) : Prop :=
  Fenced w p a ∧ Unspent w p a

/-! ### Counting -/

/-- The row is a child of the token. -/
def RefreshToken.childOf (token : TokenId) (r : RefreshToken) : Bool := r.parentId = some token

/-- The token was exchanged. -/
def TokenEvent.exchanges (token : TokenId) : TokenEvent → Bool
  | .exchanged _ t _ => t = token
  | .revoked _ => false

/-- How often a token was exchanged. -/
def TokenStore.exchanges (s : TokenStore) (token : TokenId) : ℕ :=
  s.history.countP (TokenEvent.exchanges token)

/-- How many children it has. -/
def TokenStore.children (s : TokenStore) (token : TokenId) : ℕ :=
  s.rows.countP (RefreshToken.childOf token)

/-- How many tokens are unused and unrevoked. -/
def TokenStore.activeTokens (s : TokenStore) : ℕ := s.rows.countP RefreshToken.active

/-- A map that turns no row active, and one row inactive, leaves fewer of them. -/
theorem countP_active_map_lt {f : RefreshToken → RefreshToken}
    (hf : ∀ r, (f r).active = true → r.active = true) :
    ∀ {rows : List RefreshToken} {row : RefreshToken}, row ∈ rows → row.active = true →
      (f row).active = false →
        (rows.map f).countP RefreshToken.active < rows.countP RefreshToken.active
  | r :: rows, row, hmem, hrow, hdead => by
    have hrest : (rows.map f).countP RefreshToken.active ≤ rows.countP RefreshToken.active := by
      rw [List.countP_map]
      exact List.countP_mono_left fun r _ h => hf r h
    rw [List.map_cons, List.countP_cons, List.countP_cons]
    rcases List.mem_cons.mp hmem with rfl | hmem
    · simp only [hrow, hdead, if_true, Bool.false_eq_true, if_false]
      omega
    · have hlt := countP_active_map_lt hf hmem hrow hdead
      by_cases hr : (f r).active = true
      · simp only [hr, hf r hr, if_true]
        omega
      · simp only [hr, Bool.false_eq_true, if_false]
        omega

theorem countP_active_map_le {f : RefreshToken → RefreshToken}
    (hf : ∀ r, (f r).active = true → r.active = true) (rows : List RefreshToken) :
    (rows.map f).countP RefreshToken.active ≤ rows.countP RefreshToken.active := by
  rw [List.countP_map]
  exact List.countP_mono_left fun r _ h => hf r h

theorem countP_childOf_map {f : RefreshToken → RefreshToken}
    (hf : ∀ r, (f r).parentId = r.parentId) (token : TokenId) (rows : List RefreshToken) :
    (rows.map f).countP (RefreshToken.childOf token) =
      rows.countP (RefreshToken.childOf token) := by
  rw [List.countP_map]
  congr 1
  funext r
  simp [RefreshToken.childOf, hf]

/-! ### The chain -/

/-- What serial calls keep of the family of one login. -/
structure Chain (w : World TokenStore TokenProc) : Prop where
  fences : Fences w
  locked : ∀ p q x y id, x ∈ w.shared.table.own p → y ∈ w.shared.table.own q →
    x.locks? = some id → y.locks? = some id → p = q
  inserted : ∀ p child, .insert child ∈ w.shared.table.own p →
    child.id < w.shared.uuid ∧ ∀ r ∈ w.shared.rows, r.id ≠ child.id
  distinct : ∀ p q child child', .insert child ∈ w.shared.table.own p →
    .insert child' ∈ w.shared.table.own q → child.id = child'.id → p = q
  ids : ∀ r ∈ w.shared.rows, r.id < w.shared.uuid
  rotating : ∀ p row, (w.proc p).rotating? = some row →
    ∃ r ∈ w.shared.rows, r.id = row.id ∧ r.active = true
  spent : ∀ family token child, .exchanged family token child ∈ w.shared.history →
    (∃ r ∈ w.shared.rows, r.id = token) ∧ ∀ r ∈ w.shared.rows, r.id = token → r.usedAt.isSome
  children : ∀ token, w.shared.children token = w.shared.exchanges token
  once : ∀ token, w.shared.exchanges token ≤ 1
  active : w.shared.activeTokens ≤ 1

namespace Chain

variable {w : World TokenStore TokenProc} {p : ℕ} {s' : TokenStore} {P' : TokenProc}

theorem start {root : RefreshToken} (hroot : root.Root) (clock : Time) :
    Chain (tokenStart [root] (root.id + 1) clock) where
  fences := .start _ _ _
  locked p q x y id hx := by simp [tokenStart, Store.own] at hx
  inserted p child hx := by simp [tokenStart, Store.own] at hx
  distinct p q child child' hx := by simp [tokenStart, Store.own] at hx
  ids := by simp [tokenStart, TokenStore.rows]
  rotating p row h := by simp [tokenStart, TokenProc.rotating?] at h
  spent family token child h := by simp [tokenStart] at h
  children token := by
    simp [tokenStart, TokenStore.children, TokenStore.exchanges, TokenStore.rows,
      RefreshToken.childOf, hroot.1]
  once token := by simp [tokenStart, TokenStore.exchanges]
  active := by
    unfold TokenStore.activeTokens
    exact List.countP_le_length

/-- A step of `p` that commits nothing. -/
theorem uncommitted (hw : Chain w) (hfences : Fences ⟨s', Function.update w.proc p P'⟩)
    (hrows : s'.rows = w.shared.rows) (hhistory : s'.history = w.shared.history)
    (huuid : w.shared.uuid ≤ s'.uuid)
    (hown : ∀ q, q ≠ p → s'.table.own q = w.shared.table.own q)
    (hlocks : ∀ x ∈ s'.table.own p, ∀ id, x.locks? = some id →
      x ∈ w.shared.table.own p ∨ w.shared.lockedByOther p id = false)
    (hinserts : ∀ child, .insert child ∈ s'.table.own p →
      .insert child ∈ w.shared.table.own p ∨
        child.id = w.shared.uuid ∧ w.shared.uuid < s'.uuid)
    (hrotating : ∀ row, P'.rotating? = some row →
      ∃ r ∈ w.shared.rows, r.id = row.id ∧ r.active = true) :
    Chain ⟨s', Function.update w.proc p P'⟩ := by
  have hfree : ∀ {q id y}, q ≠ p → w.shared.lockedByOther p id = false →
      y ∈ w.shared.table.own q → y.locks? = some id → False := by
    intro q id y hne hfree hy hid
    have hany := List.any_eq_false.mp hfree (q, y) (Store.mem_own.mp hy)
    simp [hne, hid] at hany
  refine ⟨hfences, fun q q' x y id hx hy hxid hyid => ?_, fun q child hq => ?_,
    fun q q' child child' hq hq' heq => ?_, fun r hr => ?_, fun q row hq => ?_,
    fun family token child hmem => ?_, fun token => ?_, fun token => ?_, ?_⟩
  -- no row is locked twice: the mover only locks what nobody else has locked
  · rcases eq_or_ne q p with rfl | hne
    · rcases eq_or_ne q' q with rfl | hne'
      · rfl
      · rw [hown q' hne'] at hy
        rcases hlocks x hx id hxid with hold | hnone
        · exact hw.locked q q' x y id hold hy hxid hyid
        · exact (hfree hne' hnone hy hyid).elim
    · rw [hown q hne] at hx
      rcases eq_or_ne q' p with rfl | hne'
      · rcases hlocks y hy id hyid with hold | hnone
        · exact hw.locked q q' x y id hx hold hxid hyid
        · exact (hfree hne hnone hx hxid).elim
      · rw [hown q' hne'] at hy
        exact hw.locked q q' x y id hx hy hxid hyid
  · rw [hrows]
    rcases eq_or_ne q p with rfl | hne
    · rcases hinserts child hq with hold | ⟨hid, hlt⟩
      · exact ⟨(hw.inserted q child hold).1.trans_le huuid, (hw.inserted q child hold).2⟩
      · refine ⟨by rw [hid]; exact hlt, fun r hr heq => ?_⟩
        have hlt' := hw.ids r hr
        rw [heq, hid] at hlt'
        exact lt_irrefl _ hlt'
    · rw [hown q hne] at hq
      exact ⟨(hw.inserted q child hq).1.trans_le huuid, (hw.inserted q child hq).2⟩
  -- no id is given to two children: a new one is above all that were drawn
  · have hnew : ∀ {q} {child child' : RefreshToken}, q ≠ p → child.id = w.shared.uuid →
        .insert child' ∈ w.shared.table.own q → child.id = child'.id → False := by
      intro q child child' hne hid hq heq
      have hlt := (hw.inserted q child' hq).1
      rw [← heq, hid] at hlt
      exact lt_irrefl _ hlt
    rcases eq_or_ne q p with rfl | hne
    · rcases eq_or_ne q' q with rfl | hne'
      · rfl
      · rw [hown q' hne'] at hq'
        rcases hinserts child hq with hold | ⟨hid, -⟩
        · exact hw.distinct q q' child child' hold hq' heq
        · exact (hnew hne' hid hq' heq).elim
    · rw [hown q hne] at hq
      rcases eq_or_ne q' p with rfl | hne'
      · rcases hinserts child' hq' with hold | ⟨hid, -⟩
        · exact hw.distinct q q' child child' hq hold heq
        · exact (hnew hne hid hq heq.symm).elim
      · rw [hown q' hne'] at hq'
        exact hw.distinct q q' child child' hq hq' heq
  · rw [hrows] at hr
    exact (hw.ids r hr).trans_le huuid
  · rw [hrows]
    rcases eq_or_ne q p with rfl | hne
    · simp only [Function.update_self] at hq
      exact hrotating row hq
    · simp only [Function.update_of_ne hne] at hq
      exact hw.rotating q row hq
  · rw [hhistory] at hmem
    rw [hrows]
    exact hw.spent family token child hmem
  · simpa only [TokenStore.children, TokenStore.exchanges, hrows, hhistory] using
      hw.children token
  · simpa only [TokenStore.exchanges, hhistory] using hw.once token
  · simpa only [TokenStore.activeTokens, hrows] using hw.active

/-- A commit of `p`: its writes turn no row active, and it exchanges the token of a row
it has marked, or revokes. -/
theorem committed (hw : Chain w) (hfences : Fences ⟨s', Function.update w.proc p P'⟩)
    (huuid : s'.uuid = w.shared.uuid)
    (hown : ∀ q, q ≠ p → s'.table.own q = w.shared.table.own q)
    (hempty : s'.table.own p = []) (hdone : P'.rotating? = none)
    (hids : ∀ r' ∈ s'.rows, (∃ r ∈ w.shared.rows, r.id = r'.id) ∨
      ∃ child, .insert child ∈ w.shared.table.own p ∧ child.id = r'.id)
    (hrotating : ∀ q row, q ≠ p → (w.proc q).rotating? = some row →
      ∃ r ∈ s'.rows, r.id = row.id ∧ r.active = true)
    (hspent : ∀ family token child, .exchanged family token child ∈ s'.history →
      (∃ r ∈ s'.rows, r.id = token) ∧ ∀ r ∈ s'.rows, r.id = token → r.usedAt.isSome)
    (hchildren : ∀ token, s'.children token = s'.exchanges token)
    (honce : ∀ token, s'.exchanges token ≤ 1) (hactive : s'.activeTokens ≤ 1) :
    Chain ⟨s', Function.update w.proc p P'⟩ := by
  have hother : ∀ {q x}, x ∈ s'.table.own q → q ≠ p ∧ x ∈ w.shared.table.own q := by
    intro q x hx
    rcases eq_or_ne q p with rfl | hne
    · simp [hempty] at hx
    · exact ⟨hne, hown q hne ▸ hx⟩
  refine ⟨hfences, fun q q' x y id hx hy hxid hyid => ?_, fun q child hq => ?_,
    fun q q' child child' hq hq' heq => ?_, fun r' hr' => ?_, fun q row hq => ?_, hspent,
    hchildren, honce, hactive⟩
  · exact hw.locked q q' x y id (hother hx).2 (hother hy).2 hxid hyid
  · obtain ⟨hne, hq⟩ := hother hq
    obtain ⟨hlt, hfresh⟩ := hw.inserted q child hq
    refine ⟨by rw [huuid]; exact hlt, fun r' hr' heq => ?_⟩
    rcases hids r' hr' with ⟨r, hr, hid⟩ | ⟨child', hchild', hid⟩
    · exact hfresh r hr (hid.trans heq)
    · exact hne (hw.distinct p q child' child hchild' hq (hid.trans heq)).symm
  · exact hw.distinct q q' child child' (hother hq).2 (hother hq').2 heq
  · rw [huuid]
    rcases hids r' hr' with ⟨r, hr, hid⟩ | ⟨child, hchild, hid⟩
    · exact hid ▸ hw.ids r hr
    · exact hid ▸ (hw.inserted p child hchild).1
  · rcases eq_or_ne q p with rfl | hne
    · simp [hdone] at hq
    · simp only [Function.update_of_ne hne] at hq
      exact hrotating q row hne hq

/-- What the row of a rotation is while it is under way: active, and locked. -/
theorem locks_of_rotating (hw : Chain w) {row : RefreshToken}
    (h : (w.proc p).rotating? = some row) :
    ∃ x ∈ w.shared.table.own p, x.locks? = some row.id := by
  have hphase := hw.fences.phase p
  unfold TokenProc.rotating? at h
  split at h
  · next hp =>
    obtain rfl := Option.some.inj h
    rw [hp] at hphase
    obtain ⟨now, hown⟩ := hphase
    exact ⟨.use _ now, by simp [hown], rfl⟩
  · next hp =>
    obtain rfl := Option.some.inj h
    rw [hp] at hphase
    obtain ⟨⟨now, hown⟩, -⟩ := hphase
    exact ⟨.use _ now, by simp [hown], rfl⟩
  · simp at h

/-- The commit of a rotation. -/
theorem commits (hw : Chain w) {r : TokenRequest} {row child : RefreshToken} {raw : String}
    (hp : w.proc p = .call r (.commitRotation row child raw)) :
    Chain ⟨w.shared.commit p (.exchanged row.familyId row.id child.id),
      Function.update w.proc p (.call r (.done (.tokens raw)))⟩ := by
  have hphase := hw.fences.phase p
  rw [hp] at hphase
  obtain ⟨⟨now, hown⟩, hfamily, hparent⟩ := hphase
  have hrows := TokenStore.rows_commit_rotation (s := w.shared) (p := p)
    (e := .exchanged row.familyId row.id child.id) hown
  have hmine : (w.proc p).rotating? = some row := by
    rw [hp]
    rfl
  obtain ⟨r₀, hr₀, hid₀, hactive₀⟩ := hw.rotating p row hmine
  have hchild : .insert child ∈ w.shared.table.own p := by simp [hown]
  have hfresh := (hw.inserted p child hchild).2
  -- the token was not exchanged before: it is still active
  have hzero : w.shared.exchanges row.id = 0 := by
    refine List.countP_eq_zero.mpr fun e he hex => ?_
    cases e with
    | revoked family => simp [TokenEvent.exchanges] at hex
    | exchanged family token child' =>
      obtain rfl : token = row.id := by simpa [TokenEvent.exchanges] using hex
      have hused := (hw.spent family row.id child' he).2 r₀ hr₀ hid₀
      simp only [RefreshToken.active, Bool.and_eq_true, Option.isNone_iff_eq_none] at hactive₀
      simp [hactive₀.1] at hused
  have hexchanges : ∀ token,
      (w.shared.commit p (.exchanged row.familyId row.id child.id)).exchanges token =
        w.shared.exchanges token + if row.id = token then 1 else 0 := by
    intro token
    simp [TokenStore.exchanges, TokenStore.commit, List.countP_cons, TokenEvent.exchanges]
  refine hw.committed (hw.fences.commits hp) rfl (fun q hq => Store.own_commit_of_ne hq)
    Store.own_commit_self rfl ?_ ?_ ?_ ?_ ?_ ?_
  · intro r' hr'
    rw [hrows] at hr'
    rcases List.mem_cons.mp hr' with rfl | hr'
    · exact .inr ⟨r', hchild, rfl⟩
    · obtain ⟨r, hr, rfl⟩ := List.mem_map.mp hr'
      exact .inl ⟨r, hr, by simp⟩
  · intro q row' hne hq
    obtain ⟨r', hr', hid', hactive'⟩ := hw.rotating q row' hq
    obtain ⟨x, hx, hlock⟩ := hw.locks_of_rotating hq
    have hother : r'.id ≠ row.id := fun heq =>
      hne (hw.locked q p x (.use row.id now) row.id hx (by simp [hown])
        (by rw [hlock, ← hid', heq]) rfl)
    rw [hrows]
    refine ⟨r', List.mem_cons_of_mem _ (List.mem_map.mpr ⟨r', hr', ?_⟩), hid', hactive'⟩
    simp [TokenWrite.onRow, hother]
  · intro family token child' hmem
    have hold : (∃ r ∈ w.shared.rows, r.id = token) → ∃ r ∈ (w.shared.commit p
        (.exchanged row.familyId row.id child.id)).rows, r.id = token := by
      rintro ⟨r, hr, hid⟩
      rw [hrows]
      exact ⟨_, List.mem_cons_of_mem _ (List.mem_map_of_mem hr), by simpa using hid⟩
    rcases List.mem_cons.mp hmem with heq | hmem
    · obtain ⟨-, rfl, -⟩ := TokenEvent.exchanged.inj heq
      refine ⟨hold ⟨r₀, hr₀, hid₀⟩, fun r' hr' hid => ?_⟩
      rw [hrows] at hr'
      rcases List.mem_cons.mp hr' with rfl | hr'
      · exact absurd (hid₀.trans hid.symm) (hfresh r₀ hr₀)
      · obtain ⟨r, hr, rfl⟩ := List.mem_map.mp hr'
        have hid : r.id = row.id := by simpa using hid
        simp [TokenWrite.onRow, hid]
    · obtain ⟨⟨r₁, hr₁, hid₁⟩, hused⟩ := hw.spent family token child' hmem
      refine ⟨hold ⟨r₁, hr₁, hid₁⟩, fun r' hr' hid => ?_⟩
      rw [hrows] at hr'
      rcases List.mem_cons.mp hr' with rfl | hr'
      · exact absurd (hid₁.trans hid.symm) (hfresh r₁ hr₁)
      · obtain ⟨r, hr, rfl⟩ := List.mem_map.mp hr'
        exact TokenWrite.onRow_usedAt (hused r hr (by simpa using hid))
  · intro token
    rw [hexchanges, ← hw.children token]
    unfold TokenStore.children
    rw [hrows, List.countP_cons, countP_childOf_map (fun r => TokenWrite.onRow_parentId)]
    simp [RefreshToken.childOf, hparent]
  · intro token
    rw [hexchanges]
    have hone := hw.once token
    split
    · next heq =>
      subst heq
      omega
    · omega
  · have hlt := countP_active_map_lt (f := (TokenWrite.use row.id now).onRow)
      (fun r => TokenWrite.active_of_onRow) hr₀ hactive₀
      (by simp [TokenWrite.onRow, hid₀, RefreshToken.active])
    have hone := hw.active
    unfold TokenStore.activeTokens at hone ⊢
    rw [hrows, List.countP_cons]
    split <;> omega

/-- The commit of a revocation. -/
theorem revoked (hw : Chain w) {r : TokenRequest} {family : FamilyId} {cause : RevokeCause}
    {now : Time} (hp : w.proc p = .call r (.revoking family cause now [])) :
    Chain ⟨w.shared.commit p (.revoked family),
      Function.update w.proc p (.call r (.done cause.reply))⟩ := by
  have hphase := hw.fences.phase p
  rw [hp] at hphase
  have hrows := TokenStore.rows_commit_revokes (e := .revoked family) hphase.1
  have hexchanges : ∀ token, (w.shared.commit p (.revoked family)).exchanges token =
      w.shared.exchanges token := by
    intro token
    simp [TokenStore.exchanges, TokenStore.commit, TokenEvent.exchanges]
  refine hw.committed (hw.fences.revoked hp) rfl (fun q hq => Store.own_commit_of_ne hq)
    Store.own_commit_self rfl ?_ ?_ ?_ ?_ ?_ ?_
  · intro r' hr'
    rw [hrows] at hr'
    obtain ⟨r, hr, rfl⟩ := List.mem_map.mp hr'
    exact .inl ⟨r, hr, by simp⟩
  · intro q row' hne hq
    obtain ⟨r', hr', hid', hactive'⟩ := hw.rotating q row' hq
    obtain ⟨x, hx, hlock⟩ := hw.locks_of_rotating hq
    rw [hrows]
    refine ⟨r', List.mem_map.mpr ⟨r', hr', ?_⟩, hid', hactive'⟩
    refine TokenWrite.onRowAll_of_unlocked fun y hy hid => hne ?_
    exact hw.locked q p x y row'.id hx hy hlock (by rw [hid, hid'])
  · intro family' token child hmem
    rcases List.mem_cons.mp hmem with heq | hmem
    · simp at heq
    obtain ⟨⟨r₁, hr₁, hid₁⟩, hused⟩ := hw.spent family' token child hmem
    rw [hrows]
    refine ⟨⟨_, List.mem_map_of_mem hr₁, by simpa using hid₁⟩, fun r' hr' hid => ?_⟩
    obtain ⟨r, hr, rfl⟩ := List.mem_map.mp hr'
    exact TokenWrite.onRowAll_usedAt (hused r hr (by simpa using hid))
  · intro token
    rw [hexchanges, ← hw.children token]
    unfold TokenStore.children
    rw [hrows, countP_childOf_map (fun r => TokenWrite.onRowAll_parentId)]
  · intro token
    rw [hexchanges]
    exact hw.once token
  · unfold TokenStore.activeTokens
    rw [hrows]
    exact (countP_active_map_le (fun r => TokenWrite.active_of_onRowAll) _).trans hw.active

/-- A step that writes nothing and neither starts nor ends a rotation. -/
theorem idles (hw : Chain w) (hfences : Fences ⟨s', Function.update w.proc p P'⟩)
    (htable : s'.table = w.shared.table) (hhistory : s'.history = w.shared.history)
    (huuid : s'.uuid = w.shared.uuid) (hdone : P'.rotating? = none) :
    Chain ⟨s', Function.update w.proc p P'⟩ := by
  refine hw.uncommitted hfences ?_ hhistory (Nat.le_of_eq huuid.symm) ?_ ?_ ?_ ?_
  · simp only [TokenStore.rows, htable]
  · intro q _
    rw [htable]
  · intro x hx id _
    rw [htable] at hx
    exact .inl hx
  · intro child hchild
    rw [htable] at hchild
    exact .inl hchild
  · simp [hdone]

/-- A rollback. -/
theorem rolledBack (hw : Chain w)
    (hfences : Fences ⟨w.shared.rollback p, Function.update w.proc p P'⟩)
    (hdone : P'.rotating? = none) :
    Chain ⟨w.shared.rollback p, Function.update w.proc p P'⟩ := by
  refine hw.uncommitted hfences rfl rfl (Nat.le_refl _)
    (fun q hq => Store.own_rollback_of_ne hq) ?_ ?_ ?_
  · intro x hx
    simp [TokenStore.rollback] at hx
  · intro child hchild
    simp [TokenStore.rollback] at hchild
  · simp [hdone]

/-- **Serial calls keep the chain.** -/
theorem next {cfg : TokenSettings} {w' : World TokenStore TokenProc} {a : TokenInput}
    (hw : Chain w) (hC : Serial w p a) (hn : (tokenService cfg).next w p a = some w') :
    Chain w' := by
  have hfences := hw.fences.next hC.1 hn
  obtain ⟨s', P', hs, rfl⟩ := System.next_eq_some.mp hn
  have hstep := tokenProcStep_of hs
  have hphase := hw.fences.phase p
  generalize hp : w.proc p = P at hstep hphase
  cases hstep with
  | tick => exact hw.idles hfences rfl rfl rfl rfl
  | arrive => exact hw.idles hfences rfl rfl rfl rfl
  | abort => exact hw.rolledBack hfences rfl
  | @call r x _ pc pc' h =>
    cases h
    case rejects => exact hw.idles hfences rfl rfl rfl rfl
    case detects => exact hw.idles hfences rfl rfl rfl rfl
    case loads => exact hw.idles hfences rfl rfl rfl rfl
    case finds => exact hw.idles hfences rfl rfl rfl rfl
    case findsInactive => exact hw.idles hfences rfl rfl rfl rfl
    case snapshots => exact hw.idles hfences rfl rfl rfl rfl
    case skips => exact hw.idles hfences rfl rfl rfl rfl
    case collides => exact hw.rolledBack hfences rfl
    case commits => exact hw.commits hp
    case revoked => exact hw.revoked hp
    case uses row hfree =>
      -- the marked row is still unused and unrevoked in the committed table
      obtain ⟨hfenced, hunspent⟩ := hC
      simp only [Fenced, hp] at hfenced
      simp only [Unspent, hp] at hunspent
      obtain ⟨-, r', hr', hid, -⟩ := hphase
      refine hw.uncommitted hfences rfl rfl (Nat.le_refl _)
        (fun q hq => Store.own_write_of_ne hq) ?_ ?_ ?_
      · intro x hx id hlock
        simp only [TokenStore.write, Store.own_write_self, List.mem_cons] at hx
        rcases hx with rfl | hx
        · obtain rfl : row.id = id := Option.some.inj hlock
          exact .inr hfree
        · exact .inl hx
      · intro child hchild
        simp only [TokenStore.write, Store.own_write_self, List.mem_cons, reduceCtorEq,
          false_or] at hchild
        exact .inl hchild
      · intro row' hrow'
        obtain rfl : row = row' := Option.some.inj hrow'
        exact ⟨r', hr', hid, by simp [RefreshToken.active, hfenced.1 r' hr' hid,
          hunspent r' hr' hid]⟩
    case inserts row child raw hid hfamily hparent hactive =>
      refine hw.uncommitted hfences rfl rfl (Nat.le_succ _)
        (fun q hq => Store.own_write_of_ne hq) ?_ ?_ ?_
      · intro x hx id hlock
        simp only [TokenStore.write, Store.own_write_self, List.mem_cons] at hx
        rcases hx with rfl | hx
        · simp [TokenWrite.locks?] at hlock
        · exact .inl hx
      · intro child' hchild
        simp only [TokenStore.write, Store.own_write_self, List.mem_cons,
          TokenWrite.insert.injEq] at hchild
        rcases hchild with rfl | hchild
        · exact .inr ⟨hid, Nat.lt_succ_self _⟩
        · exact .inl hchild
      · intro row' hrow'
        obtain rfl : row = row' := Option.some.inj hrow'
        exact hw.rotating p row (by rw [hp]; rfl)
    case revokes family cause now todo id hfree =>
      refine hw.uncommitted hfences rfl rfl (Nat.le_refl _)
        (fun q hq => Store.own_write_of_ne hq) ?_ ?_ ?_
      · intro x hx id' hlock
        simp only [TokenStore.write, Store.own_write_self, List.mem_cons] at hx
        rcases hx with rfl | hx
        · obtain rfl : id = id' := Option.some.inj hlock
          exact .inr hfree
        · exact .inl hx
      · intro child hchild
        simp only [TokenStore.write, Store.own_write_self, List.mem_cons, reduceCtorEq,
          false_or] at hchild
        exact .inl hchild
      · simp [TokenProc.rotating?]

end Chain

/-! ### Replays -/

/-- Where a call is that has found its token used. -/
def Replayed (family : FamilyId) (history : List TokenEvent) : TokenProc → Prop
  | .call _ (.revokeFamily f cause) | .call _ (.revoking f cause _ _) =>
    f = family ∧ cause = .reuse
  | .call _ (.done reply) => reply = .aborted ∨
      reply = .problem .tokenReuseDetected ∧ .revoked family ∈ history
  | _ => False

theorem Replayed.next {cfg : TokenSettings} {family : FamilyId} {p : ℕ}
    {w w' : World TokenStore TokenProc} {q : ℕ} {a : TokenInput}
    (h : Replayed family w.shared.history (w.proc p))
    (hn : (tokenService cfg).next w q a = some w') :
    Replayed family w'.shared.history (w'.proc p) := by
  have hkeep : ∀ e ∈ w.shared.history, e ∈ w'.shared.history := by
    intro e he
    rcases history_next hn with heq | ⟨_, _, _, _, -, heq⟩ | ⟨_, heq⟩ <;> rw [heq]
    · exact he
    · exact List.mem_cons_of_mem _ he
    · exact List.mem_cons_of_mem _ he
  obtain ⟨s', P', hs, rfl⟩ := System.next_eq_some.mp hn
  rcases eq_or_ne p q with rfl | hne
  · have hstep := tokenProcStep_of hs
    simp only [Function.update_self]
    generalize w.proc p = P at hstep h
    cases hstep with
    | tick | arrive => exact h.elim
    | abort => exact .inl rfl
    | call hcall =>
      cases hcall
      case snapshots => exact h
      case revokes => exact h
      case skips => exact h
      case revoked =>
        obtain ⟨rfl, rfl⟩ := h
        exact .inr ⟨rfl, List.mem_cons_self⟩
      all_goals exact h.elim
  · simp only [Function.update_of_ne hne]
    unfold Replayed at h ⊢
    split at h
    · exact h
    · exact h
    · exact h.imp_right fun ⟨hreply, hmem⟩ => ⟨hreply, hkeep _ hmem⟩
    · exact h.elim

/-- The process is revoking a family, or has reported the replay. -/
def Revokes (r : TokenRequest) (family : FamilyId) (p : ℕ) (s : TokenStore) (P : TokenProc) :
    Prop :=
  (∀ e ∈ s.table.pending, e.1 = p) ∧
    ((∃ now todo, P = .call r (.revoking family .reuse now todo)) ∨
      P = .call r (.done (.problem .tokenReuseDetected)))

/-- The statements a revocation has left. -/
def TokenProc.left : TokenProc → ℕ
  | .call _ (.revoking _ _ _ todo) => todo.length + 1
  | _ => 0

theorem Revokes.progress {cfg : TokenSettings} {r : TokenRequest} {family : FamilyId} {p : ℕ}
    {s : TokenStore} {P : TokenProc} (h : Revokes r family p s P) (hleft : P.left ≠ 0) :
    ∃ a s' P', (tokenService cfg).step s p P a = some (s', P') ∧ Revokes r family p s' P' ∧
      P'.left < P.left := by
  obtain ⟨hfree, ⟨now, todo, rfl⟩ | rfl⟩ := h
  · cases todo with
    | nil =>
      refine ⟨.go ⟨true, "", 0⟩, _, _, rfl, ⟨fun e he => ?_, .inr rfl⟩, Nat.succ_pos _⟩
      exact hfree e (List.mem_filter.mp he).1
    | cons id todo =>
      have hunlocked : s.lockedByOther p id = false := by
        refine List.any_eq_false.mpr fun e he => ?_
        simp [hfree e he]
      have hshorter : ((id :: todo).erase id).length < (id :: todo).length := by simp
      by_cases hrow : (s.rows.any fun row => decide (row.id = id) && row.revokedAt.isNone) = true
      · refine ⟨.go ⟨true, "", id⟩, s.write p (.revoke id now "reuse_detected"),
          .call r (.revoking family .reuse now ((id :: todo).erase id)), ?_, ⟨?_, .inl ⟨_, _, rfl⟩⟩,
          Nat.succ_lt_succ hshorter⟩
        · simp [tokenService, stepTokenProc, stepToken, hunlocked, hrow, RevokeCause.reason]
        · intro e he
          rcases List.mem_cons.mp he with rfl | he
          · rfl
          · exact hfree e he
      · refine ⟨.go ⟨true, "", id⟩, s, .call r (.revoking family .reuse now ((id :: todo).erase id)),
          ?_, ⟨hfree, .inl ⟨_, _, rfl⟩⟩, Nat.succ_lt_succ hshorter⟩
        simp [tokenService, stepTokenProc, stepToken, hunlocked, hrow]
  · exact absurd rfl hleft

/-- A call that has found its token used reports it, when nobody else holds a lock. -/
theorem reports_replay {cfg : TokenSettings} {w : World TokenStore TokenProc} {p : ℕ}
    {r : TokenRequest} {family : FamilyId}
    (hp : w.proc p = .call r (.revokeFamily family .reuse))
    (hfree : ∀ e ∈ w.shared.table.pending, e.1 = p) :
    ∃ bs w', (tokenService cfg).Run (System.Solo p fun _ _ => True) w bs w' ∧
      w'.proc p = .call r (.done (.problem .tokenReuseDetected)) := by
  obtain ⟨s', P', todo, hs, hP'⟩ : ∃ s' P' todo,
      (tokenService cfg).step w.shared p (w.proc p) (.go ⟨true, "", 0⟩) = some (s', P') ∧
        s' = w.shared ∧ P' = .call r (.revoking family .reuse w.shared.clock todo) := by
    rw [hp]
    exact ⟨_, _, _, rfl, rfl, rfl⟩
  obtain ⟨rfl, rfl⟩ := hP'
  have hfirst := System.next_eq_some.mpr ⟨_, _, hs, rfl⟩
  have hprog : ∀ s Q, Revokes r family p s Q → Q.left ≠ 0 → ∃ a s' Q', True ∧
      (tokenService cfg).step s p Q a = some (s', Q') ∧ Revokes r family p s' Q' ∧
        Q'.left < Q.left := by
    intro s Q hQ hleft
    obtain ⟨a, s', Q', h, hI, hlt⟩ := hQ.progress hleft
    exact ⟨a, s', Q', trivial, h, hI, hlt⟩
  obtain ⟨bs, w', hrun, hleft, hend⟩ := System.exists_solo_run (D := fun _ _ => True)
    TokenProc.left hprog
    ⟨w.shared, Function.update w.proc p (.call r (.revoking family .reuse w.shared.clock todo))⟩
    ⟨hfree, .inl ⟨w.shared.clock, todo, by simp⟩⟩
  refine ⟨_, w', System.Run.cons ⟨rfl, trivial⟩ hfirst hrun, ?_⟩
  rcases hend.2 with ⟨now, todo', hp'⟩ | hp'
  · rw [hp'] at hleft
    exact absurd hleft (Nat.succ_ne_zero _)
  · exact hp'

/-- **A refresh token is exchanged once.**  Where calls are serial, no token is
exchanged twice or has two children, and at most one token of the family is active.
The presentation of an exchanged, unrevoked token ends, unless the database aborts it,
with `TokenReuseDetected`, and then no token of the family is active; it does end so
when no other call holds a lock. -/
theorem exchanged_once {cfg : TokenSettings} {root : RefreshToken} {clock : Time}
    {as : List (ℕ × TokenInput)} {w : World TokenStore TokenProc} (hroot : root.Root)
    (h : (tokenService cfg).Run Serial (tokenStart [root] (root.id + 1) clock) as w) :
    (∀ token, w.shared.exchanges token ≤ 1) ∧ (∀ token, w.shared.children token ≤ 1) ∧
      w.shared.activeTokens ≤ 1 ∧
      ∀ p raw row family child, w.proc p = .call (.refresh raw) .selectToken →
        w.shared.findHash (cfg.sha256Hex raw) = some row → row.revokedAt = none →
          .exchanged family row.id child ∈ w.shared.history →
            ∀ x w₁, (tokenService cfg).next w p (.go x) = some w₁ →
              (∀ bs w₂ r reply, (tokenService cfg).Run Serial w₁ bs w₂ →
                w₂.proc p = .call r (.done reply) → reply = .aborted ∨
                  reply = .problem .tokenReuseDetected ∧
                    ∀ r ∈ w₂.shared.rows, r.familyId = row.familyId → r.active = false) ∧
              ((∀ e ∈ w₁.shared.table.pending, e.1 = p) →
                ∃ bs w₂, (tokenService cfg).Run (System.Solo p fun _ _ => True) w₁ bs w₂ ∧
                  w₂.proc p = .call (.refresh raw) (.done (.problem .tokenReuseDetected))) := by
  have hchain : Chain w :=
    h.induct (Chain.start hroot clock) fun w₁ p a w₂ hw hC hn => hw.next hC hn
  refine ⟨hchain.once, fun token => (hchain.children token).trans_le (hchain.once token),
    hchain.active, ?_⟩
  intro p raw row family child hp hrow hrev hex x w₁ hn
  have hserial : Serial w p (.go x) := by simp [Serial, Fenced, Unspent, hp]
  have hchain₁ := hchain.next hserial hn
  obtain ⟨s', P', hs, rfl⟩ := System.next_eq_some.mp hn
  -- an exchanged token is marked as used, so the check takes it for a replay
  have hused := (hchain.spent family row.id child hex).2 row (List.mem_of_find?_eq_some hrow) rfl
  have hcheck : checkToken row w.shared.clock = .revokeFamily row.familyId .reuse := by
    simp [checkToken, hrev, hused]
  rw [hp] at hs
  simp only [tokenService, stepTokenProc, stepToken, TokenRequest.rawToken, hrow, hcheck,
    Option.map_some, Option.some.injEq, Prod.mk.injEq] at hs
  obtain ⟨rfl, rfl⟩ := hs
  constructor
  · intro bs w₂ r reply hrun hdone
    obtain ⟨hchain₂, hreplayed⟩ := hrun.induct
      (I := fun w => Chain w ∧ Replayed row.familyId w.shared.history (w.proc p))
      ⟨hchain₁, by simp [Replayed]⟩
      fun w₁ q a w₂ hw hC hn => ⟨hw.1.next hC hn, hw.2.next hn⟩
    rw [hdone] at hreplayed
    refine hreplayed.imp_right ?_
    rintro ⟨hreply, hmem⟩
    refine ⟨hreply, fun r' hr' hf => ?_⟩
    have hsome := hchain₂.fences.settled _ hmem r' hr' hf
    simp [RefreshToken.active, hsome]
  · exact fun hfree => reports_replay (Function.update_self ..) hfree

/-- A rotation of the login's token, and the token presented again. -/
def replayAfterRotation : List (ℕ × TokenInput) :=
  (0, .arrive (.refresh "root")) :: tokenMoves 0 "child" (List.replicate 5 0) ++
    [(1, .arrive (.refresh "root"))]

/-- A process that is about to look for its token. -/
def TokenProc.presenting? : TokenProc → Option TokenRequest
  | .call r .selectToken => some r
  | _ => none

theorem TokenProc.presenting?_eq_some {P : TokenProc} {r : TokenRequest}
    (h : P.presenting? = some r) : P = .call r .selectToken := by
  unfold presenting? at h
  split at h
  · obtain rfl := Option.some.inj h
    rfl
  · simp at h

/-- A replayed token kills its family. -/
theorem exchanged_once_replayed :
    ∃ w w₁ row, (tokenService demoTokens).Run Serial (tokenStart [demoRoot] 1 0)
        replayAfterRotation w ∧
      w.shared.findHash "root" = some row ∧ w.shared.exchanges 0 = 1 ∧
      w.shared.children 0 = 1 ∧ w.shared.activeTokens ≤ 1 ∧
      (tokenService demoTokens).next w 1 (.go ⟨true, "", 0⟩) = some w₁ ∧
      (∀ bs w₂ r reply, (tokenService demoTokens).Run Serial w₁ bs w₂ →
        w₂.proc 1 = .call r (.done reply) → reply = .aborted ∨
          reply = .problem .tokenReuseDetected ∧
            ∀ r ∈ w₂.shared.rows, r.familyId = row.familyId → r.active = false) ∧
      ∃ bs w₂, (tokenService demoTokens).Run (System.Solo 1 fun _ _ => True) w₁ bs w₂ ∧
        w₂.proc 1 = .call (.refresh "root") (.done (.problem .tokenReuseDetected)) := by
  have hrun : ((tokenService demoTokens).checked
      (fun w p a => p < 2 ∧ FencedBelow 2 w p a ∧ Unspent w p a) (tokenStart [demoRoot] 1 0)
      replayAfterRotation).any (fun w => decide ((w.proc 1).presenting? = some (.refresh "root") ∧
        TokenEvent.exchanged 0 0 1 ∈ w.shared.history ∧ w.shared.exchanges 0 = 1 ∧
        w.shared.children 0 = 1 ∧ w.shared.table.pending = []) &&
        ((tokenService demoTokens).next w 1 (.go ⟨true, "", 0⟩)).isSome &&
        (w.shared.findHash "root").any fun row => decide (row.id = 0 ∧ row.revokedAt = none)) =
      true := by
    decide +kernel
  obtain ⟨w, hw, htest⟩ := System.exists_run_of_checked hrun
  simp only [Bool.and_eq_true, decide_eq_true_eq, Option.any_eq_true] at htest
  obtain ⟨⟨⟨hp, hex, hone, hchild, hpending⟩, hnext⟩, row, hrow, hid, hrev⟩ := htest
  have hp := TokenProc.presenting?_eq_some hp
  have hserial := hw.of_below (D := Serial) .idle (fun _ _ => rfl)
    fun _ _ _ hidle hC => ⟨fenced_of_below hidle hC.1, hC.2⟩
  obtain ⟨w₁, hn⟩ := Option.isSome_iff_exists.mp hnext
  obtain ⟨-, -, hactive, hreplay⟩ := exchanged_once (by decide) hserial
  have hend := hreplay 1 "root" row 0 1 hp hrow hrev (by rw [hid]; exact hex) _ w₁ hn
  refine ⟨w, w₁, row, hserial, hrow, hone, hchild, hactive, hn, hend.1, hend.2 ?_⟩
  obtain ⟨s', P', hs, rfl⟩ := System.next_eq_some.mp hn
  rw [hp] at hs
  simp only [tokenService, stepTokenProc, stepToken, TokenRequest.rawToken, demoTokens, id, hrow,
    Option.map_some, Option.some.injEq, Prod.mk.injEq] at hs
  obtain ⟨rfl, -⟩ := hs
  simp [hpending]

/-- Two rotations of the login's token read it before either marks it. -/
def overlappingRotations : List (ℕ × TokenInput) :=
  (0, .arrive (.refresh "root")) :: tokenMoves 0 "child" (List.replicate 2 0) ++
    (1, .arrive (.refresh "root")) :: tokenMoves 1 "other" (List.replicate 2 0) ++
    tokenMoves 0 "child" (List.replicate 3 0) ++ tokenMoves 1 "other" (List.replicate 3 0)

/-- **Overlapping rotations exchange a token twice**, and leave two active tokens. -/
theorem root_exchanged_twice :
    ∃ w, (tokenService demoTokens).Run (fun _ _ _ => True) (tokenStart [demoRoot] 1 0)
        overlappingRotations w ∧
      ¬ w.shared.exchanges 0 ≤ 1 ∧ ¬ w.shared.children 0 ≤ 1 ∧ ¬ w.shared.activeTokens ≤ 1 := by
  have hrun : ((tokenService demoTokens).checked (fun _ _ _ => True)
      (tokenStart [demoRoot] 1 0) overlappingRotations).any (fun w =>
        decide (¬ w.shared.exchanges 0 ≤ 1 ∧ ¬ w.shared.children 0 ≤ 1 ∧
          ¬ w.shared.activeTokens ≤ 1)) = true := by
    decide +kernel
  obtain ⟨w, hw, htest⟩ := System.exists_run_of_checked hrun
  exact ⟨w, hw, of_decide_eq_true htest⟩

end SkyLock
