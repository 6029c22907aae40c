import SkyLock.RefreshTokens

/-!
# Token families

What holds of a family of refresh tokens in every run.  A rotation reads its token,
then writes `used_at` and inserts the child, then commits; a revocation reads which
rows there are, then writes them one by one, then commits.  Where neither steps into
the middle of the other, a revocation is final, and a token is exchanged once.

## Main definitions

* `Fenced` — the calls that do not.
* `Fences` — what they keep.

## Main results

* `revocation_final` — **no token of a revoked family is exchanged**.
* `revocation_escaped` — an overlap lets a child escape.
-/

namespace SkyLock

open Concurrent ReadCommitted

/-! ### The conditions -/

/-- The row a call has marked as used in its open transaction. -/
def TokenProc.rotating? : TokenProc → Option RefreshToken
  | .call _ (.insertChild row) | .call _ (.commitRotation row _ _) => some row
  | _ => none

/-- The family a call is revoking, once it has its snapshot. -/
def TokenProc.revoking? : TokenProc → Option FamilyId
  | .call _ (.revoking family _ _ _) => some family
  | _ => none

/-- The family in which a call has marked a token as used. -/
def TokenProc.flushed? (P : TokenProc) : Option FamilyId := P.rotating?.map RefreshToken.familyId

/-- A token is marked as used only while it is unrevoked and nobody revokes its family,
and a family is revoked only while none of its tokens is being exchanged. -/
def Fenced (w : World TokenStore TokenProc) (p : ℕ) (a : TokenInput) : Prop :=
  match w.proc p, a with
  | .call _ (.useToken row), .go _ =>
    (∀ r ∈ w.shared.rows, r.id = row.id → r.revokedAt = none) ∧
      ∀ q, (w.proc q).revoking? ≠ some row.familyId
  | .call _ (.revokeFamily family _), .go _ => ∀ q, (w.proc q).flushed? ≠ some family
  | _, _ => True

/-! ### What a commit leaves -/

namespace TokenWrite

variable {x : TokenWrite} {r : RefreshToken}

@[simp] theorem onRow_id : (x.onRow r).id = r.id := by
  unfold onRow
  split <;> try split
  all_goals rfl

@[simp] theorem onRow_familyId : (x.onRow r).familyId = r.familyId := by
  unfold onRow
  split <;> try split
  all_goals rfl

@[simp] theorem onRow_parentId : (x.onRow r).parentId = r.parentId := by
  unfold onRow
  split <;> try split
  all_goals rfl

theorem onRow_revokedAt (h : r.revokedAt.isSome) : (x.onRow r).revokedAt.isSome := by
  unfold onRow
  split <;> try split
  all_goals first | exact h | rfl

theorem onRow_usedAt (h : r.usedAt.isSome) : (x.onRow r).usedAt.isSome := by
  unfold onRow
  split <;> try split
  all_goals first | exact h | rfl

/-- A write leaves no row active that was not. -/
theorem active_of_onRow (h : (x.onRow r).active = true) : r.active = true := by
  by_contra hne
  have hnone : ¬ (r.usedAt = none ∧ r.revokedAt = none) := by
    simpa [RefreshToken.active] using hne
  have hspent : r.usedAt.isSome ∨ r.revokedAt.isSome := by
    rw [Option.isSome_iff_ne_none, Option.isSome_iff_ne_none]
    exact not_and_or.mp hnone
  simp only [RefreshToken.active, Bool.and_eq_true, Option.isNone_iff_eq_none] at h
  rcases hspent with hused | hrev
  · simpa [h.1] using onRow_usedAt (x := x) hused
  · simpa [h.2] using onRow_revokedAt (x := x) hrev

/-- It is the revocation of a row. -/
def IsRevoke (x : TokenWrite) : Prop := ∃ id now reason, x = .revoke id now reason

/-- The revocations of a transaction, applied to one row. -/
def onRowAll (xs : List TokenWrite) (r : RefreshToken) : RefreshToken := xs.foldr onRow r

theorem foldr_apply_revokes : ∀ {xs : List TokenWrite} {rows : List RefreshToken},
    (∀ x ∈ xs, x.IsRevoke) → xs.foldr apply rows = rows.map (onRowAll xs)
  | [], rows, _ => (List.map_id rows).symm
  | x :: xs, rows, h => by
    obtain ⟨id, now, reason, rfl⟩ := h x (by simp)
    rw [List.foldr_cons, foldr_apply_revokes fun y hy => h y (by simp [hy])]
    simp [apply, onRowAll, Function.comp_def]

@[simp] theorem onRowAll_id : ∀ {xs : List TokenWrite}, (onRowAll xs r).id = r.id
  | [] => rfl
  | x :: xs => by simpa [onRowAll] using @onRowAll_id xs

@[simp] theorem onRowAll_familyId : ∀ {xs : List TokenWrite},
    (onRowAll xs r).familyId = r.familyId
  | [] => rfl
  | x :: xs => by simpa [onRowAll] using @onRowAll_familyId xs

@[simp] theorem onRowAll_parentId : ∀ {xs : List TokenWrite},
    (onRowAll xs r).parentId = r.parentId
  | [] => rfl
  | x :: xs => by simpa [onRowAll] using @onRowAll_parentId xs

theorem onRowAll_revokedAt (h : r.revokedAt.isSome) : ∀ {xs : List TokenWrite},
    (onRowAll xs r).revokedAt.isSome
  | [] => h
  | _ :: _ => onRow_revokedAt (onRowAll_revokedAt h)

theorem onRowAll_usedAt (h : r.usedAt.isSome) : ∀ {xs : List TokenWrite},
    (onRowAll xs r).usedAt.isSome
  | [] => h
  | _ :: _ => onRow_usedAt (onRowAll_usedAt h)

/-- Writes to other rows leave a row as it is. -/
theorem onRowAll_of_unlocked : ∀ {xs : List TokenWrite}, (∀ x ∈ xs, x.locks? ≠ some r.id) →
    onRowAll xs r = r
  | [], _ => rfl
  | x :: xs, h => by
    have hrest : onRowAll xs r = r := onRowAll_of_unlocked fun y hy => h y (by simp [hy])
    have hx := h x (by simp)
    have heq : onRowAll (x :: xs) r = onRow x (onRowAll xs r) := rfl
    rw [heq, hrest]
    cases x with
    | insert row => rfl
    | use id now | revoke id now reason =>
      have hne : r.id ≠ id := fun h => hx (by simp [locks?, h])
      simp [onRow, hne]

theorem active_of_onRowAll : ∀ {xs : List TokenWrite},
    (onRowAll xs r).active = true → r.active = true
  | [], h => h
  | _ :: _, h => active_of_onRowAll (active_of_onRow h)

/-- A row that one of the writes revokes is revoked by all of them. -/
theorem onRowAll_of_mem {now : Time} {reason : String} : ∀ {xs : List TokenWrite},
    .revoke r.id now reason ∈ xs → (onRowAll xs r).revokedAt.isSome
  | x :: xs, h => by
    rcases List.mem_cons.mp h with rfl | h
    · have heq : onRowAll (.revoke r.id now reason :: xs) r =
        onRow (.revoke r.id now reason) (onRowAll xs r) := rfl
      rw [heq]
      simp [onRow]
    · exact onRow_revokedAt (onRowAll_of_mem h)

end TokenWrite

namespace TokenStore

variable {s : TokenStore} {p : ℕ} {e : TokenEvent}

theorem rows_commit_rotation {child : RefreshToken} {id : TokenId} {now : Time}
    (h : s.table.own p = [.insert child, .use id now]) :
    (s.commit p e).rows = child :: s.rows.map (TokenWrite.use id now).onRow := by
  simp [commit, rows, Store.commit, h, TokenWrite.apply]

theorem rows_commit_revokes (h : ∀ x ∈ s.table.own p, x.IsRevoke) :
    (s.commit p e).rows = s.rows.map (TokenWrite.onRowAll (s.table.own p)) := by
  simp [commit, rows, Store.commit, TokenWrite.foldr_apply_revokes h]

end TokenStore

/-- Rows of the first table are still in the second. -/
def RowsStay (rows rows' : List RefreshToken) : Prop :=
  ∀ r ∈ rows, ∃ r' ∈ rows', r'.id = r.id ∧ r'.familyId = r.familyId

/-- A family has no row in the second table that it did not have in the first, and
its revoked rows stay revoked. -/
def NoNewRows (family : FamilyId) (rows rows' : List RefreshToken) : Prop :=
  ∀ r' ∈ rows', r'.familyId = family → ∃ r ∈ rows, r.id = r'.id ∧ r.familyId = family ∧
    (r.revokedAt.isSome → r'.revokedAt.isSome)

theorem RowsStay.refl (rows : List RefreshToken) : RowsStay rows rows :=
  fun r hr => ⟨r, hr, rfl, rfl⟩

theorem NoNewRows.refl (family : FamilyId) (rows : List RefreshToken) :
    NoNewRows family rows rows := fun r hr hfamily => ⟨r, hr, rfl, hfamily, id⟩

/-- Every row of the family is revoked. -/
def Revoked (family : FamilyId) (rows : List RefreshToken) : Prop :=
  ∀ r ∈ rows, r.familyId = family → r.revokedAt.isSome

theorem Revoked.of_noNewRows {family : FamilyId} {rows rows' : List RefreshToken}
    (h : Revoked family rows) (hnew : NoNewRows family rows rows') : Revoked family rows' := by
  intro r' hr' hfamily
  obtain ⟨r, hr, -, hf, hrev⟩ := hnew r' hr' hfamily
  exact hrev (h r hr hf)

/-! ### Fenced calls -/

/-- What a call has written where it is, and what it knows of the committed rows. -/
def TokenProc.Phase (rows : List RefreshToken) (own : List TokenWrite) : TokenProc → Prop
  | .call _ (.getUser row) | .call _ (.useToken row) =>
    own = [] ∧ ∃ r ∈ rows, r.id = row.id ∧ r.familyId = row.familyId
  | .call _ (.insertChild row) => ∃ now, own = [.use row.id now]
  | .call _ (.commitRotation row child _) =>
    (∃ now, own = [.insert child, .use row.id now]) ∧ child.familyId = row.familyId ∧
      child.parentId = some row.id
  | .call _ (.revoking family _ _ todo) =>
    (∀ x ∈ own, x.IsRevoke) ∧ ∀ r ∈ rows, r.familyId = family →
      r.revokedAt.isSome ∨ r.id ∈ todo ∨ ∃ now reason, .revoke r.id now reason ∈ own
  | _ => own = []

theorem TokenProc.Phase.mono {rows rows' : List RefreshToken} {own : List TokenWrite}
    {P : TokenProc} (h : P.Phase rows own) (hstay : RowsStay rows rows')
    (hnew : ∀ family, P.revoking? = some family → NoNewRows family rows rows') :
    P.Phase rows' own := by
  have hcopy : ∀ row : RefreshToken, (∃ r ∈ rows, r.id = row.id ∧ r.familyId = row.familyId) →
      ∃ r ∈ rows', r.id = row.id ∧ r.familyId = row.familyId := by
    rintro row ⟨r, hr, hid, hfamily⟩
    obtain ⟨r', hr', hid', hfamily'⟩ := hstay r hr
    exact ⟨r', hr', hid'.trans hid, hfamily'.trans hfamily⟩
  cases P with
  | idle => exact h
  | call r pc =>
    cases pc with
    | getUser row | useToken row => exact ⟨h.1, hcopy row h.2⟩
    | revoking family cause now todo =>
      refine ⟨h.1, fun r' hr' hfamily => ?_⟩
      obtain ⟨r, hr, hid, hf, hrev⟩ := hnew family rfl r' hr' hfamily
      rw [← hid]
      rcases h.2 r hr hf with hsome | hmem
      · exact .inl (hrev hsome)
      · exact .inr hmem
    | selectToken | insertChild | commitRotation | revokeFamily | done => exact h

/-- What fenced calls keep. -/
structure Fences (w : World TokenStore TokenProc) : Prop where
  phase : ∀ p, (w.proc p).Phase w.shared.rows (w.shared.table.own p)
  exclusive : ∀ p q family, (w.proc p).flushed? = some family →
    (w.proc q).revoking? ≠ some family
  settled : ∀ family, .revoked family ∈ w.shared.history → Revoked family w.shared.rows
  closed : ∀ family, .revoked family ∈ w.shared.history → ∀ p, (w.proc p).flushed? ≠ some family

namespace Fences

variable {w : World TokenStore TokenProc} {p : ℕ} {s' : TokenStore} {P' : TokenProc}

theorem start (rows : List RefreshToken) (uuid : ℕ) (clock : Time) :
    Fences (tokenStart rows uuid clock) where
  phase p := rfl
  exclusive p q family h := by simp [tokenStart, TokenProc.flushed?, TokenProc.rotating?] at h
  settled family h := by simp [tokenStart] at h
  closed family h := by simp [tokenStart] at h

/-- A step of `p` keeps them when the others cannot tell. -/
theorem update (hw : Fences w)
    (hown : ∀ q, q ≠ p → s'.table.own q = w.shared.table.own q)
    (hphase : P'.Phase s'.rows (s'.table.own p)) (hstay : RowsStay w.shared.rows s'.rows)
    (hflush : ∀ family, P'.flushed? = some family →
      (∀ q, q ≠ p → (w.proc q).revoking? ≠ some family) ∧ .revoked family ∉ s'.history)
    (hrevoke : ∀ family, P'.revoking? = some family →
      ∀ q, q ≠ p → (w.proc q).flushed? ≠ some family)
    (hnew : ∀ family, (∃ q, q ≠ p ∧ (w.proc q).revoking? = some family) ∨
      .revoked family ∈ w.shared.history → NoNewRows family w.shared.rows s'.rows)
    (hhistory : ∀ family, .revoked family ∈ s'.history → .revoked family ∈ w.shared.history ∨
      Revoked family s'.rows ∧ ∀ q, q ≠ p → (w.proc q).flushed? ≠ some family) :
    Fences ⟨s', Function.update w.proc p P'⟩ := by
  refine ⟨fun q => ?_, fun q q' family hq hq' => ?_, fun family hmem => ?_,
    fun family hmem q hq => ?_⟩
  · rcases eq_or_ne q p with rfl | hne
    · simpa using hphase
    · simp only [Function.update_of_ne hne, hown q hne]
      exact (hw.phase q).mono hstay fun family hr => hnew family (.inl ⟨q, hne, hr⟩)
  · rcases eq_or_ne q p with rfl | hne
    · simp only [Function.update_self] at hq
      rcases eq_or_ne q' q with rfl | hne'
      · simp only [Function.update_self] at hq'
        unfold TokenProc.flushed? TokenProc.rotating? at hq
        unfold TokenProc.revoking? at hq'
        split at hq' <;> simp at hq hq'
      · simp only [Function.update_of_ne hne'] at hq'
        exact (hflush family hq).1 q' hne' hq'
    · simp only [Function.update_of_ne hne] at hq
      rcases eq_or_ne q' p with rfl | hne'
      · simp only [Function.update_self] at hq'
        exact hrevoke family hq' q hne hq
      · simp only [Function.update_of_ne hne'] at hq'
        exact hw.exclusive q q' family hq hq'
  · rcases hhistory family hmem with hold | ⟨hrev, -⟩
    · exact (hw.settled family hold).of_noNewRows (hnew family (.inr hold))
    · exact hrev
  · rcases eq_or_ne q p with rfl | hne
    · simp only [Function.update_self] at hq
      exact (hflush family hq).2 hmem
    · simp only [Function.update_of_ne hne] at hq
      rcases hhistory family hmem with hold | ⟨-, hnone⟩
      · exact hw.closed family hold q hq
      · exact hnone q hne hq

/-- A step of `p` that commits nothing. -/
theorem uncommitted (hw : Fences w) (hrows : s'.rows = w.shared.rows)
    (hhistory : s'.history = w.shared.history)
    (hown : ∀ q, q ≠ p → s'.table.own q = w.shared.table.own q)
    (hphase : P'.Phase w.shared.rows (s'.table.own p))
    (hflush : ∀ family, P'.flushed? = some family →
      (∀ q, q ≠ p → (w.proc q).revoking? ≠ some family) ∧ .revoked family ∉ w.shared.history)
    (hrevoke : ∀ family, P'.revoking? = some family →
      ∀ q, q ≠ p → (w.proc q).flushed? ≠ some family) :
    Fences ⟨s', Function.update w.proc p P'⟩ := by
  refine hw.update hown ?_ ?_ ?_ hrevoke ?_ ?_
  · rwa [hrows]
  · rw [hrows]
    exact .refl _
  · rwa [hhistory]
  · intro family _
    rw [hrows]
    exact .refl _ _
  · intro family h
    rw [hhistory] at h
    exact .inl h

/-- The commit of a rotation. -/
theorem commits (hw : Fences w) {r : TokenRequest} {row child : RefreshToken} {raw : String}
    (hp : w.proc p = .call r (.commitRotation row child raw)) :
    Fences ⟨w.shared.commit p (.exchanged row.familyId row.id child.id),
      Function.update w.proc p (.call r (.done (.tokens raw)))⟩ := by
  have hphase := hw.phase p
  have hflushed : (w.proc p).flushed? = some row.familyId := by
    rw [hp]
    rfl
  rw [hp] at hphase
  obtain ⟨⟨now, hown⟩, hfamily, -⟩ := hphase
  refine hw.update (fun q hq => Store.own_commit_of_ne hq) Store.own_commit_self ?_ ?_ ?_ ?_ ?_
  · intro r hr
    rw [TokenStore.rows_commit_rotation hown]
    exact ⟨_, List.mem_cons_of_mem _ (List.mem_map_of_mem hr), by simp, by simp⟩
  · simp [TokenProc.flushed?, TokenProc.rotating?]
  · simp [TokenProc.revoking?]
  · intro family hothers r' hr' hf
    have hne : family ≠ row.familyId := by
      rintro rfl
      rcases hothers with ⟨q, -, hq⟩ | hmem
      · exact hw.exclusive p q _ hflushed hq
      · exact hw.closed _ hmem p hflushed
    rw [TokenStore.rows_commit_rotation hown] at hr'
    rcases List.mem_cons.mp hr' with rfl | hr'
    · exact absurd (hf.symm.trans hfamily) hne
    · obtain ⟨r, hr, rfl⟩ := List.mem_map.mp hr'
      exact ⟨r, hr, by simp, by simpa using hf, TokenWrite.onRow_revokedAt⟩
  · intro family hmem
    rcases List.mem_cons.mp hmem with heq | hmem
    · exact absurd heq (by simp)
    · exact .inl hmem

/-- The commit of a revocation. -/
theorem revoked (hw : Fences w) {r : TokenRequest} {family : FamilyId} {cause : RevokeCause}
    {now : Time} (hp : w.proc p = .call r (.revoking family cause now [])) :
    Fences ⟨w.shared.commit p (.revoked family),
      Function.update w.proc p (.call r (.done cause.reply))⟩ := by
  have hphase := hw.phase p
  rw [hp] at hphase
  obtain ⟨hrevokes, htodo⟩ := hphase
  have hrows := TokenStore.rows_commit_revokes (e := .revoked family) hrevokes
  refine hw.update (fun q hq => Store.own_commit_of_ne hq) Store.own_commit_self ?_ ?_ ?_ ?_ ?_
  · intro r hr
    rw [hrows]
    exact ⟨_, List.mem_map_of_mem hr, by simp, by simp⟩
  · simp [TokenProc.flushed?, TokenProc.rotating?]
  · simp [TokenProc.revoking?]
  · intro family' _ r' hr' hf
    rw [hrows] at hr'
    obtain ⟨r, hr, rfl⟩ := List.mem_map.mp hr'
    exact ⟨r, hr, by simp, by simpa using hf, fun h => TokenWrite.onRowAll_revokedAt h⟩
  · intro family' hmem
    rcases List.mem_cons.mp hmem with heq | hmem
    · obtain rfl := TokenEvent.revoked.inj heq
      refine .inr ⟨fun r' hr' hf => ?_, fun q _ hq => ?_⟩
      · rw [hrows] at hr'
        obtain ⟨r, hr, rfl⟩ := List.mem_map.mp hr'
        -- the snapshot has run empty: a row of the family was revoked before, or now
        rcases htodo r hr (by simpa using hf) with hsome | hnil | ⟨now', reason, hmem⟩
        · exact TokenWrite.onRowAll_revokedAt hsome
        · exact absurd hnil (List.not_mem_nil)
        · exact TokenWrite.onRowAll_of_mem hmem
      · refine hw.exclusive q p family' hq ?_
        rw [hp]
        rfl
    · exact .inl hmem

/-- The statements of a call keep them. -/
theorem call {cfg : TokenSettings} (hw : Fences w) {r : TokenRequest} {pc pc' : TokenPc}
    {x : TokenDraws} (hp : w.proc p = .call r pc) (hC : Fenced w p (.go x))
    (h : TokenStep cfg w.shared p r pc s' pc') :
    Fences ⟨s', Function.update w.proc p (.call r pc')⟩ := by
  have hphase := hw.phase p
  rw [hp] at hphase
  have hflushed : (w.proc p).flushed? = TokenProc.flushed? (.call r pc) := congrArg _ hp
  have hrevoking : (w.proc p).revoking? = TokenProc.revoking? (.call r pc) := congrArg _ hp
  simp only [Fenced, hp] at hC
  have hcopy : ∀ row, w.shared.findHash (cfg.sha256Hex r.rawToken) = some row →
      ∃ r' ∈ w.shared.rows, r'.id = row.id ∧ r'.familyId = row.familyId :=
    fun row hrow => ⟨row, List.mem_of_find?_eq_some hrow, rfl, rfl⟩
  cases h
  -- a call that has written nothing leaves the rows and the locks as they are
  case rejects =>
    exact hw.uncommitted rfl rfl (fun _ _ => rfl) hphase
      (by simp [TokenProc.flushed?, TokenProc.rotating?]) (by simp [TokenProc.revoking?])
  case detects =>
    exact hw.uncommitted rfl rfl (fun _ _ => rfl) hphase
      (by simp [TokenProc.flushed?, TokenProc.rotating?]) (by simp [TokenProc.revoking?])
  case loads row hrow _ =>
    exact hw.uncommitted rfl rfl (fun _ _ => rfl) ⟨hphase, hcopy row hrow⟩
      (by simp [TokenProc.flushed?, TokenProc.rotating?]) (by simp [TokenProc.revoking?])
  case finds =>
    exact hw.uncommitted rfl rfl (fun _ _ => rfl) hphase
      (by simp [TokenProc.flushed?, TokenProc.rotating?]) (by simp [TokenProc.revoking?])
  case findsInactive =>
    exact hw.uncommitted rfl rfl (fun _ _ => rfl) hphase.1
      (by simp [TokenProc.flushed?, TokenProc.rotating?]) (by simp [TokenProc.revoking?])
  -- the flush marks a family that nobody is revoking, and that nobody has revoked
  case uses row hfree =>
    obtain ⟨hempty, r', hr', hid, hfamily⟩ := hphase
    refine hw.uncommitted rfl rfl (fun q hq => Store.own_write_of_ne hq) ⟨w.shared.clock, ?_⟩ ?_
      (by simp [TokenProc.revoking?])
    · simp [TokenStore.write, hempty]
    · intro family hf
      obtain rfl : row.familyId = family := by
        simpa [TokenProc.flushed?, TokenProc.rotating?] using hf
      refine ⟨fun q _ => hC.2 q, fun hmem => ?_⟩
      have hrev := hw.settled _ hmem r' hr' hfamily
      simp [hC.1 r' hr' hid] at hrev
  case collides row =>
    exact hw.uncommitted rfl rfl (fun q hq => Store.own_rollback_of_ne hq) Store.own_rollback_self
      (by simp [TokenProc.flushed?, TokenProc.rotating?]) (by simp [TokenProc.revoking?])
  -- the child is in the family this transaction already has a write on
  case inserts row child raw hid hfamily hparent hactive =>
    obtain ⟨now, hown⟩ := hphase
    refine hw.uncommitted rfl rfl (fun q hq => Store.own_write_of_ne hq)
      ⟨⟨now, ?_⟩, hfamily, hparent⟩ ?_ (by simp [TokenProc.revoking?])
    · simp [TokenStore.write, hown]
    · intro family hf
      have hmine : (w.proc p).flushed? = some family := by
        rw [hflushed]
        exact hf
      exact ⟨fun q _ => hw.exclusive p q family hmine,
        fun hmem => hw.closed family hmem p hmine⟩
  case commits => exact hw.commits hp
  -- a row of the family is in the snapshot unless it is revoked already
  case snapshots family cause todo htodo =>
    have hempty : w.shared.table.own p = [] := hphase
    refine hw.uncommitted rfl rfl (fun _ _ => rfl) ⟨?_, fun r' hr' hf => ?_⟩
      (by simp [TokenProc.flushed?, TokenProc.rotating?]) ?_
    · simp [hempty]
    · cases hrev : r'.revokedAt with
      | none => exact .inr (.inl (htodo r' hr' hf hrev))
      | some t => exact .inl rfl
    · intro family' hf q _
      obtain rfl : family = family' := by simpa [TokenProc.revoking?] using hf
      exact hC q
  -- the row goes from the snapshot to the own writes
  case revokes family cause now todo id hfree =>
    obtain ⟨hrevokes, htodo⟩ := hphase
    refine hw.uncommitted rfl rfl (fun q hq => Store.own_write_of_ne hq) ⟨?_, ?_⟩
      (by simp [TokenProc.flushed?, TokenProc.rotating?]) ?_
    · intro x hx
      simp only [TokenStore.write, Store.own_write_self, List.mem_cons] at hx
      rcases hx with rfl | hx
      · exact ⟨id, now, _, rfl⟩
      · exact hrevokes x hx
    · intro r' hr' hf
      simp only [TokenStore.write, Store.own_write_self, List.mem_cons]
      rcases htodo r' hr' hf with hsome | hmem | ⟨now', reason, hmem⟩
      · exact .inl hsome
      · by_cases hid : r'.id = id
        · exact .inr (.inr ⟨now, cause.reason, .inl (by rw [hid])⟩)
        · exact .inr (.inl ((List.mem_erase_of_ne hid).mpr hmem))
      · exact .inr (.inr ⟨now', reason, .inr hmem⟩)
    · intro family' hf q _ hq
      exact hw.exclusive q p family' hq (by rw [hrevoking]; exact hf)
  -- the row was revoked before, and it stays so
  case skips family cause now todo id hrevoked =>
    obtain ⟨hrevokes, htodo⟩ := hphase
    refine hw.uncommitted rfl rfl (fun _ _ => rfl) ⟨hrevokes, fun r' hr' hf => ?_⟩
      (by simp [TokenProc.flushed?, TokenProc.rotating?]) ?_
    · rcases htodo r' hr' hf with hsome | hmem | hdone
      · exact .inl hsome
      · by_cases hid : r'.id = id
        · exact .inl (hrevoked r' hr' hid)
        · exact .inr (.inl ((List.mem_erase_of_ne hid).mpr hmem))
      · exact .inr (.inr hdone)
    · intro family' hf q _ hq
      exact hw.exclusive q p family' hq (by rw [hrevoking]; exact hf)
  case revoked => exact hw.revoked hp

/-- **Fenced calls keep them.** -/
theorem next {cfg : TokenSettings} {w' : World TokenStore TokenProc} {a : TokenInput}
    (hw : Fences w) (hC : Fenced w p a) (hn : (tokenService cfg).next w p a = some w') :
    Fences w' := by
  obtain ⟨s', P', hs, rfl⟩ := System.next_eq_some.mp hn
  have hstep := tokenProcStep_of hs
  have hphase := hw.phase p
  generalize hp : w.proc p = P at hstep hphase
  cases hstep with
  | tick =>
    exact hw.uncommitted rfl rfl (fun _ _ => rfl) hphase
      (by simp [TokenProc.flushed?, TokenProc.rotating?]) (by simp [TokenProc.revoking?])
  | arrive =>
    exact hw.uncommitted rfl rfl (fun _ _ => rfl) hphase
      (by simp [TokenProc.flushed?, TokenProc.rotating?]) (by simp [TokenProc.revoking?])
  | call h => exact hw.call hp hC h
  | abort =>
    exact hw.uncommitted rfl rfl (fun q hq => Store.own_rollback_of_ne hq) Store.own_rollback_self
      (by simp [TokenProc.flushed?, TokenProc.rotating?]) (by simp [TokenProc.revoking?])

end Fences

/-! ### Revocation is final -/

/-- Nothing of a family is exchanged after a revocation of it. -/
def RevocationsFinal (history : List TokenEvent) : Prop :=
  ∀ family newer older, history = newer ++ .revoked family :: older →
    ∀ token child, .exchanged family token child ∉ newer

theorem RevocationsFinal.revoked {history : List TokenEvent} (h : RevocationsFinal history)
    (family : FamilyId) : RevocationsFinal (.revoked family :: history) := by
  intro family' newer older heq token child hmem
  cases newer with
  | nil => simp at hmem
  | cons e newer =>
    obtain ⟨rfl, htail⟩ := List.cons.inj heq
    rcases List.mem_cons.mp hmem with hmem | hmem
    · simp at hmem
    · exact h family' newer older htail token child hmem

theorem RevocationsFinal.exchanged {history : List TokenEvent} (h : RevocationsFinal history)
    {family : FamilyId} (hnone : .revoked family ∉ history) (token child : TokenId) :
    RevocationsFinal (.exchanged family token child :: history) := by
  intro family' newer older heq token' child' hmem
  cases newer with
  | nil => simp at hmem
  | cons e newer =>
    obtain ⟨rfl, htail⟩ := List.cons.inj heq
    rcases List.mem_cons.mp hmem with hmem | hmem
    · obtain ⟨rfl, -, -⟩ := TokenEvent.exchanged.inj hmem
      exact hnone (by simp [htail])
    · exact h family' newer older htail token' child' hmem

/-- What a step adds to the history. -/
theorem history_next {cfg : TokenSettings} {w w' : World TokenStore TokenProc} {p : ℕ}
    {a : TokenInput} (hn : (tokenService cfg).next w p a = some w') :
    w'.shared.history = w.shared.history ∨
      (∃ r row child raw, w.proc p = .call r (.commitRotation row child raw) ∧
        w'.shared.history = .exchanged row.familyId row.id child.id :: w.shared.history) ∨
      ∃ family, w'.shared.history = .revoked family :: w.shared.history := by
  obtain ⟨s', P', hs, rfl⟩ := System.next_eq_some.mp hn
  have hstep := tokenProcStep_of hs
  generalize hp : w.proc p = P at hstep
  cases hstep with
  | tick | arrive | abort => exact .inl rfl
  | @call r _ _ pc pc' h =>
    cases h with
    | commits => exact .inr (.inl ⟨_, _, _, _, rfl, rfl⟩)
    | revoked => exact .inr (.inr ⟨_, rfl⟩)
    | rejects | detects | loads | finds | findsInactive | uses | collides | inserts | snapshots
    | revokes | skips => exact .inl rfl

/-- **Revocation is final.**  Once a revocation of a family has committed, no token of
it is exchanged again, where rotations and revocations are fenced. -/
theorem revocation_final {cfg : TokenSettings} {rows : List RefreshToken} {uuid : ℕ}
    {clock : Time} {as : List (ℕ × TokenInput)} {w : World TokenStore TokenProc}
    (h : (tokenService cfg).Run Fenced (tokenStart rows uuid clock) as w) :
    RevocationsFinal w.shared.history := by
  refine (h.induct (I := fun w => Fences w ∧ RevocationsFinal w.shared.history)
    ⟨Fences.start rows uuid clock, ?_⟩ ?_).2
  · intro family newer older heq
    simp [tokenStart] at heq
  · intro w₁ p a w₂ ⟨hw, hfinal⟩ hC hn
    refine ⟨hw.next hC hn, ?_⟩
    rcases history_next hn with heq | ⟨r, row, child, raw, hp, heq⟩ | ⟨family, heq⟩
    · rwa [heq]
    · rw [heq]
      refine hfinal.exchanged (fun hmem => hw.closed _ hmem p ?_) _ _
      rw [hp]
      rfl
    · rw [heq]
      exact hfinal.revoked family

/-- A login's token, whose digest is its own text. -/
def demoRoot : RefreshToken := ⟨0, 0, 1, "root", none, none, none, none, 3600000000⟩

/-- One-hour tokens, stored under their own text. -/
def demoTokens : TokenSettings := ⟨3600, id⟩

/-- The next statements of a process; a rotation draws `raw`, a revocation visits the
rows `ids`. -/
def tokenMoves (p : ℕ) (raw : String) (ids : List TokenId) : List (ℕ × TokenInput) :=
  ids.map fun id => (p, .go ⟨true, raw, id⟩)

/-- Fenced among the processes below `n`. -/
def FencedBelow (n : ℕ) (w : World TokenStore TokenProc) (p : ℕ) (a : TokenInput) : Prop :=
  match w.proc p, a with
  | .call _ (.useToken row), .go _ =>
    (∀ r ∈ w.shared.rows, r.id = row.id → r.revokedAt = none) ∧
      ∀ q < n, (w.proc q).revoking? ≠ some row.familyId
  | .call _ (.revokeFamily family _), .go _ => ∀ q < n, (w.proc q).flushed? ≠ some family
  | _, _ => True

instance (n : ℕ) (w : World TokenStore TokenProc) (p : ℕ) (a : TokenInput) :
    Decidable (FencedBelow n w p a) := by
  unfold FencedBelow
  generalize w.proc p = P
  induction P using TokenProc.casesOn with
  | call r pc =>
    induction pc using TokenPc.casesOn <;> induction a using TokenInput.casesOn <;> infer_instance
  | _ => infer_instance

theorem fenced_of_below {n : ℕ} {w : World TokenStore TokenProc} {p : ℕ} {a : TokenInput}
    (hidle : ∀ q, n ≤ q → w.proc q = .idle) (h : FencedBelow n w p a) : Fenced w p a := by
  unfold FencedBelow at h
  unfold Fenced
  split at h
  · refine ⟨h.1, fun q => ?_⟩
    rcases lt_or_ge q n with hq | hq
    · exact h.2 q hq
    · simp [hidle q hq, TokenProc.revoking?]
  · intro q
    rcases lt_or_ge q n with hq | hq
    · exact h q hq
    · simp [hidle q hq, TokenProc.flushed?, TokenProc.rotating?]
  · trivial

/-- A rotation, a logout, and a rotation that comes too late. -/
def logoutAfterRotation : List (ℕ × TokenInput) :=
  (0, .arrive (.refresh "root")) :: tokenMoves 0 "child" (List.replicate 5 0) ++
    (1, .arrive (.logout "root")) :: tokenMoves 1 "" [0, 0, 0, 1, 1] ++
    (2, .arrive (.refresh "child")) :: tokenMoves 2 "grandchild" [0]

/-- After a logout nothing is exchanged. -/
theorem revocation_final_logout :
    ∃ w, (tokenService demoTokens).Run Fenced (tokenStart [demoRoot] 1 0) logoutAfterRotation w ∧
      w.shared.history = [.revoked 0, .exchanged 0 0 1] ∧ RevocationsFinal w.shared.history := by
  have hrun : ((tokenService demoTokens).checked (fun w p a => p < 3 ∧ FencedBelow 3 w p a)
      (tokenStart [demoRoot] 1 0) logoutAfterRotation).any (fun w =>
        decide (w.shared.history = [.revoked 0, .exchanged 0 0 1])) = true := by
    decide +kernel
  obtain ⟨w, hw, htest⟩ := System.exists_run_of_checked hrun
  have hrun := hw.of_below (D := Fenced) .idle (fun _ _ => rfl)
    fun _ _ _ hidle hC => fenced_of_below hidle hC
  exact ⟨w, hrun, of_decide_eq_true htest, revocation_final hrun⟩

/-- The login's token is being exchanged when its family is logged out; the child is
exchanged afterwards. -/
def logoutDuringRotation : List (ℕ × TokenInput) :=
  (0, .arrive (.refresh "root")) :: tokenMoves 0 "child" (List.replicate 2 0) ++
    (1, .arrive (.logout "root")) :: tokenMoves 1 "" [0, 0, 0, 0] ++
    tokenMoves 0 "child" (List.replicate 3 0) ++
    (2, .arrive (.refresh "child")) :: tokenMoves 2 "grandchild" (List.replicate 5 0)

/-- **A child escapes**: its rotation was in flight when the family was revoked. -/
theorem revocation_escaped :
    ∃ w, (tokenService demoTokens).Run (fun _ _ _ => True) (tokenStart [demoRoot] 1 0)
        logoutDuringRotation w ∧
      w.shared.history = [.exchanged 0 1 2, .exchanged 0 0 1, .revoked 0] ∧
        ¬ RevocationsFinal w.shared.history := by
  have hrun : ((tokenService demoTokens).checked (fun _ _ _ => True)
      (tokenStart [demoRoot] 1 0) logoutDuringRotation).any (fun w =>
        decide (w.shared.history = [.exchanged 0 1 2, .exchanged 0 0 1, .revoked 0])) = true := by
    decide +kernel
  obtain ⟨w, hw, htest⟩ := System.exists_run_of_checked hrun
  have hhistory := of_decide_eq_true htest
  refine ⟨w, hw, hhistory, fun hfinal => ?_⟩
  rw [hhistory] at hfinal
  exact hfinal 0 [.exchanged 0 1 2, .exchanged 0 0 1] [] rfl 1 2 (by simp)

end SkyLock
