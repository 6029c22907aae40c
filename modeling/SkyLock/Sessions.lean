import SkyLock.TokenChains

/-!
# Sessions

What holds of refresh tokens in every run, also where rotations and revocations overlap.
Each token stems from one login: it has the family and the user of its parent, and whoever
got it had presented the parent.  And a family is moved only by requests that present a
token of it.

## Main definitions

* `RefreshToken.Later`, `RowsKept` — what may become of tokens.
* `TokenStore.keys` — the keys in the table and in open transactions.
* `TokenPc.Custody` — what a call has in hand, and has written.
* `Stranger` — a call that has nothing to do with a family.

## Main results

* `sessions_inherited` — **a token is handed to whoever presented its parent**.
* `sessions_apart` — **a family is left alone by requests that present none of its tokens**.
-/

namespace SkyLock

open Concurrent ReadCommitted

/-! ### What may become of a token -/

/-- A token is used, and revoked. -/
structure RefreshToken.Later (r r' : RefreshToken) : Prop where
  columns : r' = { r with
    usedAt := r'.usedAt, revokedAt := r'.revokedAt, revokedReason := r'.revokedReason }
  usedAt : r.usedAt.isSome → r'.usedAt.isSome
  revokedAt : r.revokedAt.isSome → r'.revokedAt.isSome

namespace RefreshToken.Later

variable {r r' r'' : RefreshToken}

theorem refl (r : RefreshToken) : r.Later r := ⟨rfl, fun h => h, fun h => h⟩

theorem trans (h : r.Later r') (h' : r'.Later r'') : r.Later r'' where
  columns := by
    rw [h'.columns, h.columns]
  usedAt := h'.usedAt ∘ h.usedAt
  revokedAt := h'.revokedAt ∘ h.revokedAt

theorem id_eq (h : r.Later r') : r'.id = r.id := by rw [h.columns]

theorem familyId_eq (h : r.Later r') : r'.familyId = r.familyId := by rw [h.columns]

theorem userId_eq (h : r.Later r') : r'.userId = r.userId := by rw [h.columns]

theorem tokenHash_eq (h : r.Later r') : r'.tokenHash = r.tokenHash := by rw [h.columns]

theorem parentId_eq (h : r.Later r') : r'.parentId = r.parentId := by rw [h.columns]

end RefreshToken.Later

/-- No row is lost. -/
def RowsKept (rows rows' : List RefreshToken) : Prop := ∀ r ∈ rows, ∃ r' ∈ rows', r.Later r'

theorem RowsKept.refl (rows : List RefreshToken) : RowsKept rows rows :=
  fun r hr => ⟨r, hr, .refl r⟩

theorem RowsKept.trans {rows₁ rows₂ rows₃ : List RefreshToken} (h : RowsKept rows₁ rows₂)
    (h' : RowsKept rows₂ rows₃) : RowsKept rows₁ rows₃ := by
  intro r hr
  obtain ⟨r', hr', hlater⟩ := h r hr
  obtain ⟨r'', hr'', hlater'⟩ := h' r' hr'
  exact ⟨r'', hr'', hlater.trans hlater'⟩

/-! ### What a commit leaves -/

namespace TokenWrite

theorem onRow_later (x : TokenWrite) (r : RefreshToken) : r.Later (x.onRow r) := by
  cases x with
  | insert row => exact .refl r
  | use id now =>
    simp only [onRow]
    split
    · exact ⟨rfl, fun _ => rfl, fun h => h⟩
    · exact .refl r
  | revoke id now reason =>
    simp only [onRow]
    split
    · exact ⟨rfl, fun h => h, fun _ => rfl⟩
    · exact .refl r

theorem apply_kept (x : TokenWrite) (rows : List RefreshToken) : RowsKept rows (x.apply rows) := by
  intro r hr
  cases x with
  | insert row => exact ⟨r, List.mem_cons_of_mem _ hr, .refl r⟩
  | use | revoke => exact ⟨_, List.mem_map_of_mem hr, onRow_later ..⟩

/-- A commit loses no row. -/
theorem foldr_apply_kept (xs : List TokenWrite) (rows : List RefreshToken) :
    RowsKept rows (xs.foldr apply rows) := by
  induction xs with
  | nil => exact .refl rows
  | cons x xs ih => exact ih.trans (apply_kept _ _)

/-- A row after a commit was there before, or is inserted. -/
theorem mem_foldr_apply {xs : List TokenWrite} {rows : List RefreshToken} {r' : RefreshToken}
    (h : r' ∈ xs.foldr apply rows) :
    (∃ r ∈ rows, r.Later r') ∨ ∃ r, .insert r ∈ xs ∧ r.Later r' := by
  induction xs generalizing r' with
  | nil => exact .inl ⟨r', h, .refl r'⟩
  | cons x xs ih =>
    have hold : ∀ r₁ ∈ xs.foldr apply rows, r₁.Later r' →
        (∃ r ∈ rows, r.Later r') ∨ ∃ r, .insert r ∈ x :: xs ∧ r.Later r' := by
      intro r₁ hr₁ hlater
      rcases ih hr₁ with ⟨r, hr, hlater'⟩ | ⟨r, hr, hlater'⟩
      · exact .inl ⟨r, hr, hlater'.trans hlater⟩
      · exact .inr ⟨r, List.mem_cons_of_mem _ hr, hlater'.trans hlater⟩
    rw [List.foldr_cons] at h
    cases x with
    | insert row =>
      rcases List.mem_cons.mp h with rfl | h
      · exact .inr ⟨r', List.mem_cons_self, .refl r'⟩
      · exact hold r' h (.refl r')
    | use | revoke =>
      obtain ⟨r₁, hr₁, rfl⟩ := List.mem_map.mp h
      exact hold r₁ hr₁ (onRow_later ..)

/-- The keys after a commit. -/
theorem map_id_foldr_apply (xs : List TokenWrite) (rows : List RefreshToken) :
    (xs.foldr apply rows).map RefreshToken.id =
      (xs.filterMap inserts?).map RefreshToken.id ++ rows.map RefreshToken.id := by
  induction xs with
  | nil => rfl
  | cons x xs ih =>
    cases x with
    | insert row => simp [apply, inserts?, ih]
    | use | revoke =>
      simp only [List.foldr_cons, apply, List.map_map, inserts?, List.filterMap_cons]
      rw [← ih]
      exact List.map_congr_left fun r _ => onRow_id

/-- The write is none to the family. -/
def Spares (family : FamilyId) (rows : List RefreshToken) : TokenWrite → Prop
  | .insert row => row.familyId ≠ family
  | .use id _ | .revoke id _ _ => ∀ r ∈ rows, r.id = id → r.familyId ≠ family

/-- A commit without a write to the family leaves it alone. -/
theorem filter_foldr_apply {family : FamilyId} {xs : List TokenWrite} {rows : List RefreshToken}
    (h : ∀ x ∈ xs, x.Spares family rows) :
    (xs.foldr apply rows).filter (fun r => r.familyId = family) =
      rows.filter fun r => r.familyId = family := by
  induction xs with
  | nil => rfl
  | cons x xs ih =>
    obtain ⟨hx, hxs⟩ := List.forall_mem_cons.mp h
    have hother : ∀ r' ∈ xs.foldr apply rows, ∀ id, (∀ r ∈ rows, r.id = id → r.familyId ≠ family) →
        r'.familyId = family → r'.id ≠ id := by
      intro r' hr' id hid hfamily heq
      rcases mem_foldr_apply hr' with ⟨r, hr, hlater⟩ | ⟨r, hr, hlater⟩
      · exact hid r hr (hlater.id_eq.symm.trans heq) (hlater.familyId_eq.symm.trans hfamily)
      · exact hxs _ hr (hlater.familyId_eq.symm.trans hfamily)
    rw [← ih hxs, List.foldr_cons]
    cases x with
    | insert row => exact List.filter_cons_of_neg (by simpa [Spares] using hx)
    | use id | revoke id =>
      simp only [apply, List.filter_map]
      have hfamily : ∀ y : TokenWrite, ((fun r : RefreshToken => decide (r.familyId = family)) ∘
          y.onRow) = fun r => decide (r.familyId = family) := by
        intro y
        funext r
        simp
      rw [hfamily]
      refine (List.map_congr_left fun r hr => ?_).trans (List.map_id _)
      obtain ⟨hmem, hr⟩ := List.mem_filter.mp hr
      exact if_neg (hother r hmem id hx (of_decide_eq_true hr))

end TokenWrite

/-! ### Keys -/

namespace TokenStore

variable {s : TokenStore} {p : ℕ} {x : TokenWrite} {e : TokenEvent}

/-- The keys of the tokens in the table, and of those in open transactions. -/
def keys (s : TokenStore) : List TokenId :=
  s.rows.map RefreshToken.id ++
    (s.table.pending.filterMap fun e => e.2.inserts?).map RefreshToken.id

/-- The keys were drawn, each once. -/
structure Keyed (s : TokenStore) : Prop where
  nodup : s.keys.Nodup
  lt : ∀ id ∈ s.keys, id < s.uuid

theorem keys_write (h : x.inserts? = none) : (s.write p x).keys = s.keys := by
  simp [keys, write, rows, Store.write, h]

theorem keys_insert (row : RefreshToken) :
    (s.write p (.insert row)).keys.Perm (row.id :: s.keys) := by
  simp only [keys, write, rows, Store.write, List.filterMap_cons, TokenWrite.inserts?,
    List.map_cons]
  exact List.perm_middle

theorem keys_rollback : (s.rollback p).keys.Sublist s.keys :=
  (List.Sublist.refl _).append ((List.filter_sublist.filterMap _).map _)

/-- A commit moves keys into the table. -/
theorem keys_commit : (s.commit p e).keys.Perm s.keys := by
  have hown : (s.table.own p).filterMap TokenWrite.inserts? =
      (s.table.pending.filter fun e => e.1 = p).filterMap fun e => e.2.inserts? := by
    rw [Store.own, List.filterMap_map]
    rfl
  have hsplit := (List.filter_append_perm (fun e : ℕ × TokenWrite => decide (e.1 = p))
    s.table.pending).filterMap fun e => e.2.inserts?
  have hrest : (s.commit p e).table.pending =
      s.table.pending.filter fun e => !decide (e.1 = p) := by
    simp [commit, Store.commit]
  simp only [keys]
  rw [hrest, show (s.commit p e).rows = (s.table.own p).foldr TokenWrite.apply s.rows from rfl,
    TokenWrite.map_id_foldr_apply, hown]
  refine (List.perm_append_comm.append_right _).trans ?_
  rw [List.append_assoc, ← List.map_append, ← List.filterMap_append]
  exact (hsplit.map _).append_left _

end TokenStore

section Steps

variable {cfg : TokenSettings} {s s' : TokenStore} {p q : ℕ} {P P' : TokenProc} {a : TokenInput}

theorem TokenProcStep.keyed (h : TokenProcStep cfg s p P a s' P') (hs : s.Keyed) : s'.Keyed := by
  have hperm : ∀ t : TokenStore, t.keys.Perm s.keys → t.uuid = s.uuid → t.Keyed := by
    intro t hkeys huuid
    exact ⟨hkeys.nodup_iff.mpr hs.nodup, fun id hid => huuid ▸ hs.lt id (hkeys.mem_iff.mp hid)⟩
  have hsub : (s.rollback p).Keyed :=
    ⟨hs.nodup.sublist TokenStore.keys_rollback,
      fun id hid => hs.lt id (TokenStore.keys_rollback.subset hid)⟩
  cases h
  case tick | arrive => exact ⟨hs.nodup, hs.lt⟩
  case abort => exact hsub
  case call r x pc pc' h =>
    cases h
    case uses | revokes => exact hperm _ (by rw [TokenStore.keys_write rfl]) rfl
    case collides => exact hsub
    case inserts row child raw hid hfamily hparent hactive =>
      have hkeys := TokenStore.keys_insert (s := s) (p := p) child
      refine ⟨hkeys.nodup_iff.mpr (List.nodup_cons.mpr ⟨fun hmem => ?_, hs.nodup⟩),
        fun id hid' => ?_⟩
      · exact absurd (hs.lt _ hmem) (by rw [hid]; exact lt_irrefl _)
      · rcases List.mem_cons.mp (hkeys.mem_iff.mp hid') with rfl | hid'
        · rw [hid]
          exact Nat.lt_succ_self _
        · exact (hs.lt id hid').trans (Nat.lt_succ_self _)
    case commits | revoked => exact hperm _ TokenStore.keys_commit rfl
    all_goals exact hs

/-- A step leaves what the others have written. -/
theorem TokenProcStep.own_other (h : TokenProcStep cfg s p P a s' P') (hq : q ≠ p) :
    s'.table.own q = s.table.own q := by
  cases h
  case tick | arrive => rfl
  case abort => exact Store.own_rollback_of_ne hq
  case call r x pc pc' h =>
    cases h
    case uses | revokes | inserts => exact Store.own_write_of_ne hq
    case collides => exact Store.own_rollback_of_ne hq
    case commits | revoked => exact Store.own_commit_of_ne hq
    all_goals rfl

/-- The table changes only when a transaction commits. -/
theorem TokenProcStep.rows_cases (h : TokenProcStep cfg s p P a s' P') :
    s'.rows = s.rows ∨ s'.rows = (s.table.own p).foldr TokenWrite.apply s.rows := by
  cases h
  case tick | arrive | abort => exact .inl rfl
  case call r x pc pc' h =>
    cases h
    case commits | revoked => exact .inr rfl
    all_goals exact .inl rfl

theorem TokenProcStep.rows_kept (h : TokenProcStep cfg s p P a s' P') :
    RowsKept s.rows s'.rows := by
  rcases h.rows_cases with heq | heq
  · rw [heq]
    exact .refl _
  · rw [heq]
    exact TokenWrite.foldr_apply_kept _ _

end Steps

/-! ### What a call has in hand -/

/-- The row of the token a request presents, as it once was. -/
structure Presented (cfg : TokenSettings) (rows : List RefreshToken) (r : TokenRequest)
    (row : RefreshToken) : Prop where
  tokenHash : row.tokenHash = cfg.sha256Hex r.rawToken
  stored : ∃ r' ∈ rows, row.Later r'

/-- The token was issued in exchange for another one. -/
structure RefreshToken.Inherits (child parent : RefreshToken) : Prop where
  parentId : child.parentId = some parent.id
  familyId : child.familyId = parent.familyId
  userId : child.userId = parent.userId
  usedAt : parent.usedAt.isSome

/-- A new token was handed to who presented its parent. -/
def Handed (cfg : TokenSettings) (rows : List RefreshToken) (presented received : String) : Prop :=
  ∃ parent ∈ rows, ∃ child ∈ rows, parent.tokenHash = cfg.sha256Hex presented ∧
    child.tokenHash = cfg.sha256Hex received ∧ child.Inherits parent

/-- The key is that of a token of the family. -/
def OfFamily (rows : List RefreshToken) (family : FamilyId) (id : TokenId) : Prop :=
  ∃ r ∈ rows, r.id = id ∧ r.familyId = family

/-- What a call has in hand where it is, and what it has written. -/
def TokenPc.Custody (cfg : TokenSettings) (rows : List RefreshToken) (own : List TokenWrite)
    (r : TokenRequest) : TokenPc → Prop
  | .getUser row | .useToken row => own = [] ∧ Presented cfg rows r row
  | .insertChild row => (∃ now, own = [.use row.id now]) ∧ Presented cfg rows r row
  | .commitRotation row child raw =>
    (∃ now, own = [.insert child, .use row.id now]) ∧ Presented cfg rows r row ∧
      ∃ id now, child = childRow cfg row id raw now
  | .revokeFamily family _ => own = [] ∧ ∃ row, Presented cfg rows r row ∧ row.familyId = family
  | .revoking family _ _ todo =>
    (∀ x ∈ own, ∃ id now reason, x = .revoke id now reason ∧ OfFamily rows family id) ∧
      (∀ id ∈ todo, OfFamily rows family id) ∧
        ∃ row, Presented cfg rows r row ∧ row.familyId = family
  | .done (.tokens raw) => own = [] ∧ Handed cfg rows r.rawToken raw
  | .selectToken | .done _ => own = []

def TokenProc.Custody (cfg : TokenSettings) (rows : List RefreshToken) (own : List TokenWrite) :
    TokenProc → Prop
  | .idle => own = []
  | .call r pc => pc.Custody cfg rows own r

section Custody

variable {cfg : TokenSettings} {rows rows' : List RefreshToken} {own : List TokenWrite}
  {r : TokenRequest} {row : RefreshToken}

theorem Presented.mono (h : Presented cfg rows r row) (hkept : RowsKept rows rows') :
    Presented cfg rows' r row where
  tokenHash := h.tokenHash
  stored := by
    obtain ⟨r', hr', hlater⟩ := h.stored
    obtain ⟨r'', hr'', hlater'⟩ := hkept r' hr'
    exact ⟨r'', hr'', hlater.trans hlater'⟩

theorem OfFamily.mono {family : FamilyId} {id : TokenId} (h : OfFamily rows family id)
    (hkept : RowsKept rows rows') : OfFamily rows' family id := by
  obtain ⟨r, hr, rfl, rfl⟩ := h
  obtain ⟨r', hr', hlater⟩ := hkept r hr
  exact ⟨r', hr', hlater.id_eq, hlater.familyId_eq⟩

theorem RefreshToken.Inherits.mono {child parent child' parent' : RefreshToken}
    (h : child.Inherits parent) (hchild : child.Later child') (hparent : parent.Later parent') :
    child'.Inherits parent' where
  parentId := by rw [hchild.parentId_eq, hparent.id_eq, h.parentId]
  familyId := by rw [hchild.familyId_eq, hparent.familyId_eq, h.familyId]
  userId := by rw [hchild.userId_eq, hparent.userId_eq, h.userId]
  usedAt := hparent.usedAt h.usedAt

theorem Handed.mono {presented received : String} (h : Handed cfg rows presented received)
    (hkept : RowsKept rows rows') : Handed cfg rows' presented received := by
  obtain ⟨parent, hparent, child, hchild, hpresented, hreceived, hinherits⟩ := h
  obtain ⟨parent', hparent', hlater⟩ := hkept parent hparent
  obtain ⟨child', hchild', hlater'⟩ := hkept child hchild
  exact ⟨parent', hparent', child', hchild', hlater.tokenHash_eq.trans hpresented,
    hlater'.tokenHash_eq.trans hreceived, hinherits.mono hlater' hlater⟩

theorem TokenPc.Custody.mono {pc : TokenPc} (h : pc.Custody cfg rows own r)
    (hkept : RowsKept rows rows') : pc.Custody cfg rows' own r := by
  cases pc with
  | selectToken => exact h
  | getUser row | useToken row | insertChild row => exact ⟨h.1, h.2.mono hkept⟩
  | commitRotation row child raw => exact ⟨h.1, h.2.1.mono hkept, h.2.2⟩
  | revokeFamily family cause =>
    obtain ⟨hown, row, hrow, hfamily⟩ := h
    exact ⟨hown, row, hrow.mono hkept, hfamily⟩
  | revoking family cause now todo =>
    obtain ⟨hown, htodo, row, hrow, hfamily⟩ := h
    refine ⟨fun x hx => ?_, fun id hid => (htodo id hid).mono hkept, row, hrow.mono hkept, hfamily⟩
    obtain ⟨id, now, reason, rfl, hof⟩ := hown x hx
    exact ⟨id, now, reason, rfl, hof.mono hkept⟩
  | done reply =>
    cases reply with
    | tokens raw => exact ⟨h.1, h.2.mono hkept⟩
    | noContent | problem | aborted => exact h

theorem TokenProc.Custody.mono {P : TokenProc} (h : P.Custody cfg rows own)
    (hkept : RowsKept rows rows') : P.Custody cfg rows' own := by
  cases P with
  | idle => exact h
  | call r pc => exact TokenPc.Custody.mono h hkept

variable {s s' : TokenStore} {p : ℕ} {x : TokenDraws}

theorem presented_of_findHash (h : s.findHash (cfg.sha256Hex r.rawToken) = some row) :
    Presented cfg s.rows r row where
  tokenHash := by simpa using List.find?_some h
  stored := ⟨row, List.mem_of_find?_eq_some h, .refl row⟩

/-- What an exchange leaves when it commits. -/
theorem inherits_of_commit {child : RefreshToken} {raw : String} {e : TokenEvent}
    (h : TokenPc.Custody cfg s.rows (s.table.own p) r (.commitRotation row child raw)) :
    child.tokenHash = cfg.sha256Hex raw ∧ child ∈ (s.commit p e).rows ∧
      ∃ parent ∈ (s.commit p e).rows, parent.tokenHash = cfg.sha256Hex r.rawToken ∧
        child.Inherits parent := by
  obtain ⟨⟨now, hown⟩, ⟨hhash, stored, hstored, hlater⟩, id, now', rfl⟩ := h
  have hlater' := TokenWrite.onRow_later (.use row.id now) stored
  have hused : ((TokenWrite.use row.id now).onRow stored).usedAt = some now := by
    simp [TokenWrite.onRow, hlater.id_eq]
  rw [TokenStore.rows_commit_rotation hown]
  refine ⟨rfl, List.mem_cons_self, (TokenWrite.use row.id now).onRow stored,
    List.mem_cons_of_mem _ (List.mem_map_of_mem hstored), ?_, ?_⟩
  · rw [hlater'.tokenHash_eq, hlater.tokenHash_eq, hhash]
  · exact {
      parentId := by rw [hlater'.id_eq, hlater.id_eq]; rfl
      familyId := by rw [hlater'.familyId_eq, hlater.familyId_eq]; rfl
      userId := by rw [hlater'.userId_eq, hlater.userId_eq]; rfl
      usedAt := by rw [hused]; rfl }

/-- **The statements of a call keep what it has in hand.** -/
theorem custody_step {pc pc' : TokenPc} (h : stepToken cfg s p r x pc = some (s', pc'))
    (hc : pc.Custody cfg s.rows (s.table.own p) r) :
    pc'.Custody cfg s'.rows (s'.table.own p) r := by
  cases pc
  case selectToken =>
    simp only [stepToken] at h
    cases hrow : s.findHash (cfg.sha256Hex r.rawToken) with
    | none =>
      cases r <;> simp only [hrow, Option.some.injEq, Prod.mk.injEq] at h <;>
        obtain ⟨rfl, rfl⟩ := h <;> exact hc
    | some row =>
      have hpresented := presented_of_findHash hrow
      cases r with
      | logout raw =>
        simp only [hrow, Option.some.injEq, Prod.mk.injEq] at h
        obtain ⟨rfl, rfl⟩ := h
        exact ⟨hc, row, hpresented, rfl⟩
      | refresh raw =>
        simp only [hrow, Option.some.injEq, Prod.mk.injEq] at h
        obtain ⟨rfl, rfl⟩ := h
        -- the token is dead, replayed, expired or good: in every case the request presented it
        unfold checkToken
        split_ifs
        · exact hc
        · exact ⟨hc, row, hpresented, rfl⟩
        · exact hc
        · exact ⟨hc, hpresented⟩
  case getUser row =>
    simp only [stepToken] at h
    split at h <;> simp only [Option.some.injEq, Prod.mk.injEq] at h <;> obtain ⟨rfl, rfl⟩ := h
    · exact hc
    · exact hc.1
  case useToken row =>
    simp only [stepToken] at h
    split at h
    · simp at h
    · simp only [Option.some.injEq, Prod.mk.injEq] at h
      obtain ⟨rfl, rfl⟩ := h
      exact ⟨⟨s.clock, by rw [TokenStore.write, Store.own_write_self, hc.1]⟩, hc.2⟩
  case insertChild row =>
    obtain ⟨⟨now, hown⟩, hpresented⟩ := hc
    simp only [stepToken] at h
    split at h
    · simp only [Option.some.injEq, Prod.mk.injEq] at h
      obtain ⟨rfl, rfl⟩ := h
      exact Store.own_rollback_self
    split at h
    · simp at h
    · simp only [Option.some.injEq, Prod.mk.injEq] at h
      obtain ⟨rfl, rfl⟩ := h
      exact ⟨⟨now, by simp only [TokenStore.write, Store.own_write_self, hown]⟩, hpresented, _, _,
        rfl⟩
  -- the commit hands the child over, together with the mark on its parent
  case commitRotation row child raw =>
    simp only [stepToken, Option.some.injEq, Prod.mk.injEq] at h
    obtain ⟨rfl, rfl⟩ := h
    obtain ⟨hhash, hmem, parent, hparent, hpresented, hinherits⟩ := inherits_of_commit hc
    exact ⟨Store.own_commit_self, parent, hparent, child, hmem, hpresented, hhash, hinherits⟩
  case revokeFamily family cause =>
    simp only [stepToken, Option.some.injEq, Prod.mk.injEq] at h
    obtain ⟨rfl, rfl⟩ := h
    refine ⟨by simp [hc.1], fun id hid => ?_, hc.2⟩
    obtain ⟨row, hrow, rfl⟩ := List.mem_map.mp hid
    obtain ⟨hmem, hrow⟩ := List.mem_filter.mp hrow
    exact ⟨row, hmem, rfl, of_decide_eq_true (Bool.and_eq_true_iff.mp hrow).1⟩
  case revoking family cause now todo =>
    obtain ⟨hown, htodo, hpresented⟩ := hc
    cases todo with
    | nil =>
      simp only [stepToken, Option.some.injEq, Prod.mk.injEq] at h
      obtain ⟨rfl, rfl⟩ := h
      cases cause <;> exact Store.own_commit_self
    -- the visited row is of the family, and so is what is left of the snapshot
    | cons id todo =>
      simp only [stepToken] at h
      split at h
      · next hvisits =>
        have herase : ∀ id' ∈ (id :: todo).erase x.visits, OfFamily s.rows family id' :=
          fun id' hid' => htodo id' (List.mem_of_mem_erase hid')
        split at h
        · simp at h
        · split at h <;> simp only [Option.some.injEq, Prod.mk.injEq] at h <;>
            obtain ⟨rfl, rfl⟩ := h
          · refine ⟨fun y hy => ?_, herase, hpresented⟩
            rw [TokenStore.write, Store.own_write_self] at hy
            rcases List.mem_cons.mp hy with rfl | hy
            · exact ⟨x.visits, now, cause.reason, rfl, htodo x.visits hvisits⟩
            · exact hown y hy
          · exact ⟨hown, herase, hpresented⟩
      · simp at h
  case done reply => simp [stepToken] at h

theorem TokenProc.Custody.next {P P' : TokenProc} {a : TokenInput}
    (h : (tokenService cfg).step s p P a = some (s', P'))
    (hc : P.Custody cfg s.rows (s.table.own p)) : P'.Custody cfg s'.rows (s'.table.own p) := by
  cases P <;> cases a <;> simp only [tokenService, stepTokenProc, Option.map_eq_some_iff,
    Prod.mk.injEq, Option.some.injEq, reduceCtorEq] at h
  case idle.tick | idle.arrive =>
    obtain ⟨rfl, rfl⟩ := h
    exact hc
  case call.go r pc x =>
    obtain ⟨⟨_, pc'⟩, h, rfl, rfl⟩ := h
    exact custody_step h hc
  case call.abort r pc =>
    split at h
    · simp at h
    · simp only [Option.some.injEq, Prod.mk.injEq] at h
      obtain ⟨rfl, rfl⟩ := h
      exact Store.own_rollback_self

end Custody

/-! ### Whole runs -/

section Runs

variable {cfg : TokenSettings} {start : List RefreshToken} {uuid : ℕ} {clock : Time}
  {C D : World TokenStore TokenProc → ℕ → TokenInput → Prop} {w w' : World TokenStore TokenProc}
  {as bs : List (ℕ × TokenInput)} {p : ℕ} {a : TokenInput} {family : FamilyId}

/-- The tokens of `start`, and those issued in exchange for one another. -/
structure Lineage (cfg : TokenSettings) (start : List RefreshToken)
    (w : World TokenStore TokenProc) : Prop where
  custody : ∀ p, (w.proc p).Custody cfg w.shared.rows (w.shared.table.own p)
  stems : ∀ r ∈ w.shared.rows, (∃ r₀ ∈ start, r₀.Later r) ∨
    ∃ parent ∈ w.shared.rows, r.Inherits parent
  roots : ∀ r ∈ w.shared.rows, ∃ r₀ ∈ start, r₀.familyId = r.familyId ∧ r₀.userId = r.userId

theorem lineage_start : Lineage cfg start (tokenStart start uuid clock) where
  custody _ := rfl
  stems r hr := .inl ⟨r, hr, .refl r⟩
  roots r hr := ⟨r, hr, rfl, rfl⟩

/-- **A row after a step was there before, or inherits from one that was.** -/
theorem TokenProcStep.mem_rows {s s' : TokenStore} {P P' : TokenProc} {r' : RefreshToken}
    (h : TokenProcStep cfg s p P a s' P') (hc : P.Custody cfg s.rows (s.table.own p))
    (hr' : r' ∈ s'.rows) :
    (∃ r ∈ s.rows, r.Later r') ∨ ∃ parent ∈ s'.rows, r'.Inherits parent ∧
      ∃ r ∈ s.rows, r.familyId = parent.familyId ∧ r.userId = parent.userId := by
  cases h
  case tick | arrive | abort => exact .inl ⟨r', hr', .refl r'⟩
  case call r x pc pc' h =>
    cases h
    case commits row child raw =>
      rcases TokenWrite.mem_foldr_apply hr' with hold | ⟨child', hchild', hlater⟩
      · exact .inl hold
      · obtain ⟨-, -, parent, hparent, -, hinherits⟩ :=
          inherits_of_commit (e := .exchanged row.familyId row.id child.id) hc
        obtain ⟨⟨now, hown⟩, ⟨-, stored, hstored, hstays⟩, id, now', hrow⟩ := hc
        obtain rfl : child' = child := by simpa [hown] using hchild'
        refine .inr ⟨parent, hparent, hinherits.mono hlater (.refl parent), stored, hstored, ?_, ?_⟩
        · rw [← hinherits.familyId, hstays.familyId_eq, hrow]
          rfl
        · rw [← hinherits.userId, hstays.userId_eq, hrow]
          rfl
    case revoked family cause now =>
      rcases TokenWrite.mem_foldr_apply hr' with hold | ⟨child, hchild, -⟩
      · exact .inl hold
      · obtain ⟨id, now', reason, heq, -⟩ := hc.1 _ hchild
        exact absurd heq (by simp)
    all_goals exact .inl ⟨r', hr', .refl r'⟩

theorem Lineage.next (hw : Lineage cfg start w) (hn : (tokenService cfg).next w p a = some w') :
    Lineage cfg start w' := by
  obtain ⟨s', P', hs, rfl⟩ := System.next_eq_some.mp hn
  have hstep := tokenProcStep_of hs
  have hkept := hstep.rows_kept
  refine ⟨fun q => ?_, fun r' hr' => ?_, fun r' hr' => ?_⟩
  · rcases eq_or_ne q p with rfl | hq
    · simpa only [Function.update_self] using TokenProc.Custody.next hs (hw.custody q)
    · simp only [Function.update_of_ne hq, hstep.own_other hq]
      exact (hw.custody q).mono hkept
  · rcases hstep.mem_rows (hw.custody p) hr' with ⟨r, hr, hlater⟩ | ⟨parent, hparent, hinherits, -⟩
    · rcases hw.stems r hr with ⟨r₀, hr₀, hlater₀⟩ | ⟨parent, hparent, hinherits⟩
      · exact .inl ⟨r₀, hr₀, hlater₀.trans hlater⟩
      · obtain ⟨parent', hparent', hlater'⟩ := hkept parent hparent
        exact .inr ⟨parent', hparent', hinherits.mono hlater hlater'⟩
    · exact .inr ⟨parent, hparent, hinherits⟩
  · rcases hstep.mem_rows (hw.custody p) hr' with
      ⟨r, hr, hlater⟩ | ⟨parent, hparent, hinherits, r, hr, hfamily, huser⟩
    · obtain ⟨r₀, hr₀, hf, hu⟩ := hw.roots r hr
      exact ⟨r₀, hr₀, hf.trans hlater.familyId_eq.symm, hu.trans hlater.userId_eq.symm⟩
    · obtain ⟨r₀, hr₀, hf, hu⟩ := hw.roots r hr
      exact ⟨r₀, hr₀, hf.trans (hfamily.trans hinherits.familyId.symm),
        hu.trans (huser.trans hinherits.userId.symm)⟩

/-- **A session is handed down, from token to token.**  Whatever requests run beside each
other, no token is ever lost, and it stays used once it is used and revoked once it is
revoked; each has the family and the user of a token of some login, and is such a token or was
issued in exchange for one of its family and user; and a new token is handed to nobody but
a request that presented its parent. -/
theorem sessions_inherited (h : (tokenService cfg).Run C (tokenStart start uuid clock) as w)
    (h' : (tokenService cfg).Run D w bs w') :
    RowsKept w.shared.rows w'.shared.rows ∧
      (∀ r ∈ w'.shared.rows, ∃ r₀ ∈ start, r₀.familyId = r.familyId ∧ r₀.userId = r.userId) ∧
      (∀ r ∈ w'.shared.rows, (∃ r₀ ∈ start, r₀.Later r) ∨
        ∃ parent ∈ w'.shared.rows, r.Inherits parent) ∧
      ∀ p r raw, w'.proc p = .call r (.done (.tokens raw)) →
        Handed cfg w'.shared.rows r.rawToken raw := by
  have hw : Lineage cfg start w := h.induct lineage_start fun _ _ _ _ hw _ hn => hw.next hn
  have hw' : Lineage cfg start w' := h'.induct hw fun _ _ _ _ hw _ hn => hw.next hn
  refine ⟨?_, hw'.roots, hw'.stems, fun p r raw hp => ?_⟩
  · refine h'.induct (I := fun v => RowsKept w.shared.rows v.shared.rows) (.refl _) ?_
    intro w₁ p a w₂ hkept _ hn
    obtain ⟨s', P', hs, rfl⟩ := System.next_eq_some.mp hn
    exact hkept.trans (tokenProcStep_of hs).rows_kept
  · have hcustody := hw'.custody p
    rw [hp] at hcustody
    exact hcustody.2

/-! ### One family beside the others -/

/-- The family a call works on. -/
def TokenPc.family? : TokenPc → Option FamilyId
  | .getUser row | .useToken row | .insertChild row | .commitRotation row _ _ => some row.familyId
  | .revokeFamily family _ | .revoking family _ _ _ => some family
  | .selectToken | .done _ => none

/-- The request presents no token of the family. -/
def Foreign (cfg : TokenSettings) (family : FamilyId) (rows : List RefreshToken)
    (r : TokenRequest) : Prop :=
  ∀ row ∈ rows, row.familyId = family → row.tokenHash ≠ cfg.sha256Hex r.rawToken

/-- A call that has nothing to do with the family. -/
def Stranger (cfg : TokenSettings) (family : FamilyId) (rows : List RefreshToken) :
    TokenProc → Prop
  | .idle => True
  | .call r .selectToken => Foreign cfg family rows r
  | .call _ pc => pc.family? ≠ some family

/-- No request arrives with a token of the family. -/
def Uninvolved (cfg : TokenSettings) (family : FamilyId) (w : World TokenStore TokenProc) (_ : ℕ) :
    TokenInput → Prop
  | .arrive r => Foreign cfg family w.shared.rows r
  | _ => True

instance (rows : List RefreshToken) (r : TokenRequest) : Decidable (Foreign cfg family rows r) :=
  inferInstanceAs (Decidable (∀ row ∈ rows, _ → _))

instance (w : World TokenStore TokenProc) (p : ℕ) : DecidablePred (Uninvolved cfg family w p)
  | .arrive r => inferInstanceAs (Decidable (Foreign cfg family w.shared.rows r))
  | .tick _ | .go _ | .abort => .isTrue trivial

theorem Foreign.congr {rows rows' : List RefreshToken} {r : TokenRequest}
    (h : Foreign cfg family rows r)
    (hrows : (rows'.filter fun r => r.familyId = family) =
      rows.filter fun r => r.familyId = family) :
    Foreign cfg family rows' r := by
  intro row hrow hfamily
  have hmem : row ∈ rows.filter fun r => r.familyId = family :=
    hrows ▸ List.mem_filter.mpr ⟨hrow, decide_eq_true hfamily⟩
  exact h row (List.mem_filter.mp hmem).1 hfamily

theorem Stranger.congr {rows rows' : List RefreshToken} {P : TokenProc}
    (h : Stranger cfg family rows P)
    (hrows : (rows'.filter fun r => r.familyId = family) =
      rows.filter fun r => r.familyId = family) :
    Stranger cfg family rows' P := by
  cases P with
  | idle => trivial
  | call r pc => cases pc <;> first | exact h | exact Foreign.congr h hrows

/-- One key is of one family. -/
theorem TokenStore.Keyed.familyId_eq {s : TokenStore} (hs : s.Keyed) {r r' : RefreshToken}
    (hr : r ∈ s.rows) (hr' : r' ∈ s.rows) (hid : r.id = r'.id) : r.familyId = r'.familyId :=
  congrArg _ (List.inj_on_of_nodup_map hs.nodup.of_append_left hr hr' hid)

/-- What a stranger has written is none of the family's. -/
theorem Stranger.spares {s : TokenStore} {P : TokenProc} (h : Stranger cfg family s.rows P)
    (hs : s.Keyed) (hc : P.Custody cfg s.rows (s.table.own p)) :
    ∀ x ∈ s.table.own p, x.Spares family s.rows := by
  have hkey : ∀ id family', OfFamily s.rows family' id → family' ≠ family →
      ∀ r ∈ s.rows, r.id = id → r.familyId ≠ family := by
    rintro id family' ⟨r', hr', rfl, rfl⟩ hne r hr hid heq
    exact hne ((hs.familyId_eq hr' hr hid.symm).trans heq)
  have hrow : ∀ r row, Presented cfg s.rows r row → OfFamily s.rows row.familyId row.id := by
    rintro r row ⟨-, r', hr', hlater⟩
    exact ⟨r', hr', hlater.id_eq, hlater.familyId_eq⟩
  intro x hx
  cases P with
  | idle => simp [show s.table.own p = [] from hc] at hx
  | call r pc =>
    cases pc with
    | selectToken => simp [show s.table.own p = [] from hc] at hx
    | getUser row | useToken row | revokeFamily family' cause => simp [hc.1] at hx
    | insertChild row =>
      obtain ⟨⟨now, hown⟩, hpresented⟩ := hc
      obtain rfl : x = .use row.id now := by simpa [hown] using hx
      exact hkey row.id row.familyId (hrow r row hpresented) fun heq => h (congrArg some heq)
    | commitRotation row child raw =>
      obtain ⟨⟨now, hown⟩, hpresented, id, now', rfl⟩ := hc
      have hne : row.familyId ≠ family := fun heq => h (congrArg some heq)
      rw [hown] at hx
      rcases List.mem_cons.mp hx with rfl | hx
      · exact hne
      · obtain rfl := List.mem_singleton.mp hx
        exact hkey row.id row.familyId (hrow r row hpresented) hne
    | revoking family' cause now todo =>
      obtain ⟨id, now', reason, rfl, hof⟩ := hc.1 x hx
      exact hkey id family' hof fun heq => h (congrArg some heq)
    | done reply =>
      have hown : s.table.own p = [] := by
        cases reply with
        | tokens raw => exact hc.1
        | noContent | problem | aborted => exact hc
      simp [hown] at hx

/-- A call does not turn to another family than that of the token it presented. -/
theorem Stranger.step {s s' : TokenStore} {P P' : TokenProc}
    (h : TokenProcStep cfg s p P a s' P') (hP : Stranger cfg family s.rows P)
    (ha : ∀ r, a = .arrive r → Foreign cfg family s.rows r) : Stranger cfg family s.rows P' := by
  cases h
  case tick => trivial
  case arrive r => exact ha r rfl
  case abort => exact fun h => absurd h (by simp [TokenPc.family?])
  case call r x pc pc' h =>
    have hfound : ∀ row, s.findHash (cfg.sha256Hex r.rawToken) = some row →
        Foreign cfg family s.rows r → row.familyId ≠ family := by
      intro row hrow hforeign heq
      exact hforeign row (List.mem_of_find?_eq_some hrow) heq (by simpa using List.find?_some hrow)
    cases h
    case detects row cause hrow hcause => exact fun heq => hfound row hrow hP (Option.some.inj heq)
    case loads row hrow hactive => exact fun heq => hfound row hrow hP (Option.some.inj heq)
    case finds | uses | inserts | snapshots | revokes | skips => exact hP
    all_goals exact fun h => absurd h (by simp [TokenPc.family?])

/-- **A family is left alone by requests that present none of its tokens.**  From any state a
run reaches in which no call is at work on the family, and as long as no request arrives with a
token of it, its tokens stay as they are, whatever happens to other families meanwhile. -/
theorem sessions_apart (hids : (start.map RefreshToken.id).Nodup)
    (hlt : ∀ id ∈ start.map RefreshToken.id, id < uuid)
    (h : (tokenService cfg).Run C (tokenStart start uuid clock) as w)
    (hquiet : ∀ p, Stranger cfg family w.shared.rows (w.proc p))
    (h' : (tokenService cfg).Run (Uninvolved cfg family) w bs w') :
    (w'.shared.rows.filter fun r => r.familyId = family) =
      w.shared.rows.filter fun r => r.familyId = family := by
  have hkeys : (tokenStart start uuid clock).shared.keys = start.map RefreshToken.id := by
    simp [tokenStart, TokenStore.keys, TokenStore.rows]
  have hstart : (tokenStart start uuid clock).shared.Keyed := ⟨hkeys ▸ hids, hkeys ▸ hlt⟩
  have hnext : ∀ w₁ p a w₂, Lineage cfg start w₁ ∧ w₁.shared.Keyed →
      (tokenService cfg).next w₁ p a = some w₂ → Lineage cfg start w₂ ∧ w₂.shared.Keyed := by
    rintro w₁ p a w₂ ⟨hl, hk⟩ hn
    refine ⟨hl.next hn, ?_⟩
    obtain ⟨s', P', hs, rfl⟩ := System.next_eq_some.mp hn
    exact (tokenProcStep_of hs).keyed hk
  have hw : Lineage cfg start w ∧ w.shared.Keyed :=
    h.induct ⟨lineage_start, hstart⟩ fun w₁ p a w₂ hw _ hn => hnext w₁ p a w₂ hw hn
  have hall := h'.induct (I := fun v => (Lineage cfg start v ∧ v.shared.Keyed) ∧
    (∀ q, Stranger cfg family v.shared.rows (v.proc q)) ∧
      (v.shared.rows.filter fun r => r.familyId = family) =
        w.shared.rows.filter fun r => r.familyId = family) ⟨hw, hquiet, rfl⟩ ?_
  · exact hall.2.2
  · rintro w₁ p a w₂ ⟨hv, hstranger, hrows⟩ hC hn
    refine ⟨hnext w₁ p a w₂ hv hn, ?_⟩
    obtain ⟨s', P', hs, rfl⟩ := System.next_eq_some.mp hn
    have hstep := tokenProcStep_of hs
    -- every write of the step is to a row of another family
    have hsame : (s'.rows.filter fun r => r.familyId = family) =
        w₁.shared.rows.filter fun r => r.familyId = family := by
      rcases hstep.rows_cases with heq | heq
      · rw [heq]
      · rw [heq]
        exact TokenWrite.filter_foldr_apply
          ((hstranger p).spares hv.2 (hv.1.custody p))
    refine ⟨fun q => ?_, hsame.trans hrows⟩
    rcases eq_or_ne q p with rfl | hq
    · simp only [Function.update_self]
      refine (Stranger.step hstep (hstranger q) fun r hr => ?_).congr hsame
      subst hr
      exact hC
    · simp only [Function.update_of_ne hq]
      exact (hstranger q).congr hsame

end Runs

/-! ### Two logins -/

/-- The token a call has handed out, and the token it was presented. -/
def TokenProc.received? : TokenProc → Option (String × String)
  | .call r (.done (.tokens raw)) => some (r.rawToken, raw)
  | _ => none

theorem TokenProc.received?_eq_some {P : TokenProc} {presented raw : String}
    (h : P.received? = some (presented, raw)) :
    ∃ r, r.rawToken = presented ∧ P = .call r (.done (.tokens raw)) := by
  unfold received? at h
  split at h
  · next r raw' =>
    obtain ⟨rfl, rfl⟩ := Prod.mk.inj (Option.some.inj h)
    exact ⟨r, rfl, rfl⟩
  · simp at h

/-- Two overlapping rotations of one token: both hand out a token, and both tokens inherit
from the one that was presented. -/
theorem sessions_inherited_twice :
    ∃ w, (tokenService demoTokens).Run (fun _ _ _ => True) (tokenStart [demoRoot] 1 0)
        overlappingRotations w ∧
      RowsKept [demoRoot] w.shared.rows ∧ w.shared.rows.length = 3 ∧
      (∀ r ∈ w.shared.rows, r.userId = 1) ∧
      Handed demoTokens w.shared.rows "root" "child" ∧
      Handed demoTokens w.shared.rows "root" "other" := by
  have hrun : ((tokenService demoTokens).checked (fun _ _ _ => True)
      (tokenStart [demoRoot] 1 0) overlappingRotations).any (fun w =>
        decide ((w.proc 0).received? = some ("root", "child") ∧
          (w.proc 1).received? = some ("root", "other") ∧ w.shared.rows.length = 3)) = true := by
    decide +kernel
  obtain ⟨w, hw, htest⟩ := System.exists_run_of_checked hrun
  obtain ⟨hfirst, hsecond, hlength⟩ := of_decide_eq_true htest
  obtain ⟨r, hr, hp⟩ := TokenProc.received?_eq_some hfirst
  obtain ⟨r', hr', hp'⟩ := TokenProc.received?_eq_some hsecond
  obtain ⟨hkept, hroots, -, hhanded⟩ := sessions_inherited (C := fun _ _ _ => True) .nil hw
  refine ⟨w, hw, hkept, hlength, fun row hrow => ?_, hr ▸ hhanded 0 r _ hp,
    hr' ▸ hhanded 1 r' _ hp'⟩
  obtain ⟨r₀, hr₀, -, huser⟩ := hroots row hrow
  rw [← huser, List.mem_singleton.mp hr₀]
  rfl

/-- The token of another login. -/
def strangerRoot : RefreshToken := ⟨1, 1, 2, "stranger", none, none, none, none, 3600000000⟩

/-- The first login's token is rotated, and its family then revoked by a replay. -/
def replayedFamily : List (ℕ × TokenInput) :=
  (0, .arrive (.refresh "root")) :: tokenMoves 0 "child" (List.replicate 5 0) ++
    (1, .arrive (.refresh "root")) :: tokenMoves 1 "" [0, 0, 0, 2, 0]

theorem sessions_apart_replayed :
    ∃ w, (tokenService demoTokens).Run (Uninvolved demoTokens 1)
        (tokenStart [demoRoot, strangerRoot] 2 0) replayedFamily w ∧
      w.shared.rows.countP (fun r => r.revokedAt.isSome) = 2 ∧
      (w.shared.rows.filter fun r => r.familyId = 1) = [strangerRoot] := by
  have hrun : ((tokenService demoTokens).checked (Uninvolved demoTokens 1)
      (tokenStart [demoRoot, strangerRoot] 2 0) replayedFamily).any (fun w =>
        decide (w.shared.rows.countP (fun r => r.revokedAt.isSome) = 2)) = true := by
    decide +kernel
  obtain ⟨w, hw, htest⟩ := System.exists_run_of_checked hrun
  refine ⟨w, hw, of_decide_eq_true htest, ?_⟩
  exact (sessions_apart (C := fun _ _ _ => True) (by decide) (by decide) .nil (fun _ => trivial)
    hw).trans (by decide)

end SkyLock
