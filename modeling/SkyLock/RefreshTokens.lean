import SkyLock.Lib.Concurrent
import SkyLock.Lib.ReadCommitted
import SkyLock.Models

/-!
# Refresh tokens

`rotate_refresh_token` and `revoke_family` of `app/security/tokens.py`, as the
endpoints `refresh_tokens` and `logout` of `app/api/auth.py` call them, statement
by statement.  An UPDATE of a row waits for another transaction's UPDATE of it and
then writes over what that one left.  The UPDATE of `revoke_family` visits the rows
its snapshot found, in an order the database chooses, and checks each again when it
has its lock.

## Main definitions

* `RefreshToken`, `TokenWrite` — the rows and the writes to them.
* `TokenStore` — the shared state.
* `TokenPc`, `stepToken` — a call of `refresh_tokens` or `logout`.
* `TokenStep` — the transitions.

## Main results

* `tokenProcStep_of` — **the endpoints take only these transitions**.
-/

namespace SkyLock

open Concurrent ReadCommitted

/-! ### The table -/

abbrev TokenId := ℕ
abbrev FamilyId := ℕ

/-- `RefreshToken`. -/
structure RefreshToken where
  id : TokenId
  familyId : FamilyId
  userId : UserId
  tokenHash : String
  parentId : Option TokenId
  usedAt : Option Time
  revokedAt : Option Time
  revokedReason : Option String
  expiresAt : Time
  deriving DecidableEq, Repr, Inhabited

/-- A token that can still be exchanged, unless it expires: unused and unrevoked. -/
def RefreshToken.active (r : RefreshToken) : Bool := r.usedAt.isNone && r.revokedAt.isNone

/-- What a transaction writes to the table. -/
inductive TokenWrite where
  /-- The INSERT of a token. -/
  | insert (row : RefreshToken)
  /-- `SET used_at`, by primary key. -/
  | use (id : TokenId) (now : Time)
  /-- `SET revoked_at, revoked_reason` of one row. -/
  | revoke (id : TokenId) (now : Time) (reason : String)
  deriving DecidableEq, Repr

namespace TokenWrite

/-- What a write makes of a row. -/
def onRow : TokenWrite → RefreshToken → RefreshToken
  | .insert _, r => r
  | .use id now, r => if r.id = id then { r with usedAt := some now } else r
  | .revoke id now reason, r =>
    if r.id = id then { r with revokedAt := some now, revokedReason := some reason } else r

/-- What a write makes of the table. -/
def apply : TokenWrite → List RefreshToken → List RefreshToken
  | .insert row, rows => row :: rows
  | w, rows => rows.map w.onRow

/-- The row a write has locked. -/
def locks? : TokenWrite → Option TokenId
  | .insert _ => none
  | .use id _ => some id
  | .revoke id _ _ => some id

/-- The token a write inserts. -/
def inserts? : TokenWrite → Option RefreshToken
  | .insert row => some row
  | _ => none

end TokenWrite

/-- What happened, for the statements about it. -/
inductive TokenEvent where
  /-- A token was exchanged for its child. -/
  | exchanged (family : FamilyId) (token child : TokenId)
  /-- A `revoke_family` committed. -/
  | revoked (family : FamilyId)
  deriving DecidableEq, Repr

/-- The shared state: one clock, the table, the next UUID, and what happened, newest
first. -/
structure TokenStore where
  clock : Time
  table : Store (List RefreshToken) TokenWrite
  uuid : ℕ
  history : List TokenEvent

namespace TokenStore

/-- The committed rows. -/
def rows (s : TokenStore) : List RefreshToken := s.table.committed

/-- Another open transaction has updated the row. -/
def lockedByOther (s : TokenStore) (p : ℕ) (id : TokenId) : Bool :=
  s.table.pending.any fun e => decide (e.1 ≠ p ∧ e.2.locks? = some id)

/-- Another open transaction has inserted a token with the hash. -/
def hashContested (s : TokenStore) (p : ℕ) (hash : String) : Bool :=
  s.table.pending.any fun e =>
    decide (e.1 ≠ p) && e.2.inserts?.any fun row => decide (row.tokenHash = hash)

/-- The row with a hash, as committed. -/
def findHash (s : TokenStore) (hash : String) : Option RefreshToken :=
  s.rows.find? fun r => r.tokenHash = hash

/-- A write of an open transaction. -/
def write (s : TokenStore) (p : ℕ) (x : TokenWrite) : TokenStore :=
  { s with table := s.table.write p x }

/-- A transaction rolls back. -/
def rollback (s : TokenStore) (p : ℕ) : TokenStore := { s with table := s.table.rollback p }

/-- A transaction commits, and `e` happened. -/
def commit (s : TokenStore) (p : ℕ) (e : TokenEvent) : TokenStore :=
  { s with table := s.table.commit TokenWrite.apply p, history := e :: s.history }

end TokenStore

/-! ### The endpoints -/

/-- The settings of the tokens, and the digest under which they are stored. -/
structure TokenSettings where
  refreshTokenTtlSeconds : ℕ
  /-- `hashlib.sha256(value).hexdigest()`. -/
  sha256Hex : String → String

/-- `InvalidToken`. -/
def AppError.invalidToken (detail : String) : AppError :=
  .raised 401 "invalid_token" "Invalid or expired token" detail

/-- `TokenReuseDetected`, as `rotate_refresh_token` raises it. -/
def AppError.tokenReuseDetected : AppError :=
  .raised 401 "token_reuse_detected" "Refresh token replay detected; session family revoked"
    ("This refresh token was already used. For your safety, all sessions " ++
      "in this family have been revoked — please sign in again.")

/-- A `POST /auth/refresh` or `POST /auth/logout` request. -/
inductive TokenRequest where
  | refresh (rawToken : String)
  | logout (rawToken : String)
  deriving DecidableEq, Repr

/-- The token a request presents. -/
def TokenRequest.rawToken : TokenRequest → String
  | .refresh raw => raw
  | .logout raw => raw

/-- How a call ends. -/
inductive TokenReply where
  /-- The new refresh token. -/
  | tokens (rawToken : String)
  /-- A 204. -/
  | noContent
  | problem (e : AppError)
  /-- The database aborted the transaction: a 500. -/
  | aborted

/-- Why a family is revoked. -/
inductive RevokeCause where
  | reuse
  | logout
  deriving DecidableEq, Repr

/-- `revoked_reason`. -/
def RevokeCause.reason : RevokeCause → String
  | .reuse => "reuse_detected"
  | .logout => "logout"

/-- The reply after the family is revoked. -/
def RevokeCause.reply : RevokeCause → TokenReply
  | .reuse => .problem .tokenReuseDetected
  | .logout => .noContent

/-- Where a call is; `row` is the instance it loaded. -/
inductive TokenPc where
  | selectToken
  | getUser (row : RefreshToken)
  | useToken (row : RefreshToken)
  | insertChild (row : RefreshToken)
  | commitRotation (row child : RefreshToken) (rawToken : String)
  | revokeFamily (family : FamilyId) (cause : RevokeCause)
  | revoking (family : FamilyId) (cause : RevokeCause) (now : Time) (todo : List TokenId)
  | done (reply : TokenReply)

/-- What one step draws from outside the table. -/
structure TokenDraws where
  /-- The user row is there and active. -/
  userActive : Bool
  /-- What `new_opaque_token` returns. -/
  rawToken : String
  /-- The row the UPDATE of `revoke_family` visits next. -/
  visits : TokenId

/-- The row `issue_refresh_token` inserts on a rotation of `row`. -/
def childRow (cfg : TokenSettings) (row : RefreshToken) (id : TokenId) (rawToken : String)
    (now : Time) : RefreshToken where
  id := id
  familyId := row.familyId
  userId := row.userId
  tokenHash := cfg.sha256Hex rawToken
  parentId := some row.id
  usedAt := none
  revokedAt := none
  revokedReason := none
  expiresAt := now + seconds cfg.refreshTokenTtlSeconds

/-- What `rotate_refresh_token` makes of the row it loaded. -/
def checkToken (row : RefreshToken) (now : Time) : TokenPc :=
  if row.revokedAt.isSome then .done (.problem (.invalidToken "Refresh token has been revoked"))
  else if row.usedAt.isSome then .revokeFamily row.familyId .reuse
  else if row.expiresAt ≤ now then .done (.problem (.invalidToken "Refresh token has expired"))
  else .getUser row

/-- One statement of a call. -/
def stepToken (cfg : TokenSettings) (s : TokenStore) (p : ℕ) (r : TokenRequest) (x : TokenDraws) :
    TokenPc → Option (TokenStore × TokenPc)
  | .selectToken =>
    match s.findHash (cfg.sha256Hex r.rawToken), r with
    | none, .refresh _ => some (s, .done (.problem (.invalidToken "Refresh token is not valid")))
    | none, .logout _ => some (s, .done .noContent)
    | some row, .refresh _ => some (s, checkToken row s.clock)
    | some row, .logout _ => some (s, .revokeFamily row.familyId .logout)
  | .getUser row =>
    if x.userActive then some (s, .useToken row)
    else some (s, .done (.problem (.invalidToken "Account is not active")))
  | .useToken row =>
    if s.lockedByOther p row.id then none
    else some (s.write p (.use row.id s.clock), .insertChild row)
  | .insertChild row =>
    let child := childRow cfg row s.uuid x.rawToken s.clock
    if (s.findHash child.tokenHash).isSome then some (s.rollback p, .done .aborted)
    else if s.hashContested p child.tokenHash then none
    else some ({ s.write p (.insert child) with uuid := s.uuid + 1 },
      .commitRotation row child x.rawToken)
  | .commitRotation row child raw =>
    some (s.commit p (.exchanged row.familyId row.id child.id), .done (.tokens raw))
  | .revokeFamily family cause =>
    some (s, .revoking family cause s.clock ((s.rows.filter fun row =>
      decide (row.familyId = family) && row.revokedAt.isNone).map RefreshToken.id))
  | .revoking family cause now todo =>
    match todo with
    | [] => some (s.commit p (.revoked family), .done cause.reply)
    | _ =>
      if x.visits ∈ todo then
        if s.lockedByOther p x.visits then none
        else if s.rows.any fun row => decide (row.id = x.visits) && row.revokedAt.isNone then
          some (s.write p (.revoke x.visits now cause.reason),
            .revoking family cause now (todo.erase x.visits))
        else some (s, .revoking family cause now (todo.erase x.visits))
      else none
  | .done _ => none

/-- A process: no request yet, or one. -/
inductive TokenProc where
  | idle
  | call (r : TokenRequest) (pc : TokenPc)

/-- What the outside world decides.  The database may abort an open transaction. -/
inductive TokenInput where
  | tick (d : ℕ)
  | arrive (r : TokenRequest)
  | go (x : TokenDraws)
  | abort

/-- The call is over. -/
def TokenPc.over : TokenPc → Bool
  | .done _ => true
  | _ => false

/-- One step of a process. -/
def stepTokenProc (cfg : TokenSettings) (s : TokenStore) (p : ℕ) :
    TokenProc → TokenInput → Option (TokenStore × TokenProc)
  | .idle, .tick d => some ({ s with clock := s.clock + d }, .idle)
  | .idle, .arrive r => some (s, .call r .selectToken)
  | .call r pc, .go x => (stepToken cfg s p r x pc).map fun o => (o.1, .call r o.2)
  | .call r pc, .abort => if pc.over then none else some (s.rollback p, .call r (.done .aborted))
  | _, _ => none

/-- The token endpoints. -/
def tokenService (cfg : TokenSettings) : System TokenStore TokenProc TokenInput :=
  ⟨stepTokenProc cfg⟩

/-- The state at a time when no call is under way: some rows, and the next UUID. -/
def tokenStart (rows : List RefreshToken) (uuid : ℕ) (clock : Time) :
    World TokenStore TokenProc :=
  ⟨⟨clock, ⟨rows, []⟩, uuid, []⟩, fun _ => .idle⟩

/-- What one login inserts: the root of a family, unused and unrevoked. -/
def RefreshToken.Root (row : RefreshToken) : Prop :=
  row.parentId = none ∧ row.usedAt = none ∧ row.revokedAt = none

instance (row : RefreshToken) : Decidable row.Root := by
  unfold RefreshToken.Root
  infer_instance

/-! ### The transitions -/

/-- The transitions of a call. -/
inductive TokenStep (cfg : TokenSettings) (s : TokenStore) (p : ℕ) (r : TokenRequest) :
    TokenPc → TokenStore → TokenPc → Prop
  | rejects {reply : TokenReply} (hreply : ∀ raw, reply ≠ .tokens raw)
      (hnone : ∀ row, s.findHash (cfg.sha256Hex r.rawToken) = some row → row.usedAt = none ∨
        row.revokedAt.isSome) :
      TokenStep cfg s p r .selectToken s (.done reply)
  | detects {row : RefreshToken} {cause : RevokeCause}
      (hrow : s.findHash (cfg.sha256Hex r.rawToken) = some row)
      (hcause : cause = .logout ∨ row.usedAt.isSome ∧ row.revokedAt = none) :
      TokenStep cfg s p r .selectToken s (.revokeFamily row.familyId cause)
  | loads {row : RefreshToken} (hrow : s.findHash (cfg.sha256Hex r.rawToken) = some row)
      (hactive : row.active = true) :
      TokenStep cfg s p r .selectToken s (.getUser row)
  | finds {row : RefreshToken} : TokenStep cfg s p r (.getUser row) s (.useToken row)
  | findsInactive {row : RefreshToken} {e : AppError} :
      TokenStep cfg s p r (.getUser row) s (.done (.problem e))
  | uses {row : RefreshToken} (hfree : s.lockedByOther p row.id = false) :
      TokenStep cfg s p r (.useToken row) (s.write p (.use row.id s.clock)) (.insertChild row)
  | collides {row : RefreshToken} :
      TokenStep cfg s p r (.insertChild row) (s.rollback p) (.done .aborted)
  | inserts {row child : RefreshToken} {raw : String} (hid : child.id = s.uuid)
      (hfamily : child.familyId = row.familyId) (hparent : child.parentId = some row.id)
      (hactive : child.active = true) :
      TokenStep cfg s p r (.insertChild row) { s.write p (.insert child) with uuid := s.uuid + 1 }
        (.commitRotation row child raw)
  | commits {row child : RefreshToken} {raw : String} :
      TokenStep cfg s p r (.commitRotation row child raw)
        (s.commit p (.exchanged row.familyId row.id child.id)) (.done (.tokens raw))
  | snapshots {family : FamilyId} {cause : RevokeCause} {todo : List TokenId}
      (htodo : ∀ row ∈ s.rows, row.familyId = family → row.revokedAt = none → row.id ∈ todo) :
      TokenStep cfg s p r (.revokeFamily family cause) s (.revoking family cause s.clock todo)
  | revokes {family : FamilyId} {cause : RevokeCause} {now : Time} {todo : List TokenId}
      {id : TokenId} (hfree : s.lockedByOther p id = false) :
      TokenStep cfg s p r (.revoking family cause now todo)
        (s.write p (.revoke id now cause.reason)) (.revoking family cause now (todo.erase id))
  | skips {family : FamilyId} {cause : RevokeCause} {now : Time} {todo : List TokenId}
      {id : TokenId} (hrevoked : ∀ row ∈ s.rows, row.id = id → row.revokedAt.isSome) :
      TokenStep cfg s p r (.revoking family cause now todo) s
        (.revoking family cause now (todo.erase id))
  | revoked {family : FamilyId} {cause : RevokeCause} {now : Time} :
      TokenStep cfg s p r (.revoking family cause now []) (s.commit p (.revoked family))
        (.done cause.reply)

/-- The transitions of a process. -/
inductive TokenProcStep (cfg : TokenSettings) (s : TokenStore) (p : ℕ) :
    TokenProc → TokenInput → TokenStore → TokenProc → Prop
  | tick {d : ℕ} : TokenProcStep cfg s p .idle (.tick d) { s with clock := s.clock + d } .idle
  | arrive {r : TokenRequest} : TokenProcStep cfg s p .idle (.arrive r) s (.call r .selectToken)
  | call {r : TokenRequest} {x : TokenDraws} {s' : TokenStore} {pc pc' : TokenPc}
      (h : TokenStep cfg s p r pc s' pc') :
      TokenProcStep cfg s p (.call r pc) (.go x) s' (.call r pc')
  | abort {r : TokenRequest} {pc : TokenPc} (hopen : pc.over = false) :
      TokenProcStep cfg s p (.call r pc) .abort (s.rollback p) (.call r (.done .aborted))

section

variable {cfg : TokenSettings} {s s' : TokenStore} {p : ℕ}

theorem tokenStep_of_select {r : TokenRequest} {x : TokenDraws} {pc' : TokenPc}
    (h : stepToken cfg s p r x .selectToken = some (s', pc')) :
    TokenStep cfg s p r .selectToken s' pc' := by
  simp only [stepToken] at h
  cases hrow : s.findHash (cfg.sha256Hex r.rawToken) with
  | none =>
    cases r <;> simp only [hrow, Option.some.injEq, Prod.mk.injEq] at h <;>
      obtain ⟨rfl, rfl⟩ := h <;> exact .rejects (by simp) (by simp [hrow])
  | some row =>
    cases r with
    | logout raw =>
      simp only [hrow, Option.some.injEq, Prod.mk.injEq] at h
      obtain ⟨rfl, rfl⟩ := h
      exact .detects hrow (.inl rfl)
    | refresh raw =>
      simp only [hrow, Option.some.injEq, Prod.mk.injEq] at h
      obtain ⟨rfl, rfl⟩ := h
      unfold checkToken
      split
      · next hrev => exact .rejects (by simp) fun row' h' => by simp_all
      · next hrev =>
        split
        · next hused => exact .detects hrow (.inr ⟨hused, by simpa using hrev⟩)
        · next hused =>
          split
          · exact .rejects (by simp) fun row' h' => by simp_all
          · refine .loads hrow ?_
            simp_all [RefreshToken.active]

theorem tokenStep_of {r : TokenRequest} {x : TokenDraws} {pc pc' : TokenPc}
    (h : stepToken cfg s p r x pc = some (s', pc')) : TokenStep cfg s p r pc s' pc' := by
  cases pc
  case selectToken => exact tokenStep_of_select h
  case getUser row =>
    simp only [stepToken] at h
    split at h <;> simp only [Option.some.injEq, Prod.mk.injEq] at h <;> obtain ⟨rfl, rfl⟩ := h
    · exact .finds
    · exact .findsInactive
  case useToken row =>
    simp only [stepToken] at h
    split at h
    · simp at h
    · next hfree =>
      simp only [Option.some.injEq, Prod.mk.injEq] at h
      obtain ⟨rfl, rfl⟩ := h
      exact .uses (by simpa using hfree)
  case insertChild row =>
    simp only [stepToken] at h
    split at h
    · simp only [Option.some.injEq, Prod.mk.injEq] at h
      obtain ⟨rfl, rfl⟩ := h
      exact .collides
    split at h
    · simp at h
    · simp only [Option.some.injEq, Prod.mk.injEq] at h
      obtain ⟨rfl, rfl⟩ := h
      exact .inserts rfl rfl rfl rfl
  case commitRotation row child raw =>
    simp only [stepToken, Option.some.injEq, Prod.mk.injEq] at h
    obtain ⟨rfl, rfl⟩ := h
    exact .commits
  case revokeFamily family cause =>
    simp only [stepToken, Option.some.injEq, Prod.mk.injEq] at h
    obtain ⟨rfl, rfl⟩ := h
    refine .snapshots fun row hrow hfamily hrev => ?_
    exact List.mem_map_of_mem (List.mem_filter.mpr ⟨hrow, by simp [hfamily, hrev]⟩)
  case revoking family cause now todo =>
    cases todo with
    | nil =>
      simp only [stepToken, Option.some.injEq, Prod.mk.injEq] at h
      obtain ⟨rfl, rfl⟩ := h
      exact .revoked
    | cons id todo =>
      simp only [stepToken] at h
      split at h
      · split at h
        · simp at h
        · next hfree =>
          split at h <;> simp only [Option.some.injEq, Prod.mk.injEq] at h <;>
            obtain ⟨rfl, rfl⟩ := h
          · exact .revokes (by simpa using hfree)
          · next hnone =>
            refine .skips fun row hrow hid => ?_
            simp only [List.any_eq_true, not_exists, not_and, Bool.and_eq_true,
              decide_eq_true_eq] at hnone
            have hrev := hnone row hrow hid
            simpa [Option.isSome_iff_ne_none] using hrev
      · simp at h
  case done reply => simp [stepToken] at h

/-- **The endpoints take only these transitions.** -/
theorem tokenProcStep_of {P P' : TokenProc} {a : TokenInput}
    (h : (tokenService cfg).step s p P a = some (s', P')) : TokenProcStep cfg s p P a s' P' := by
  cases P <;> cases a <;> simp only [tokenService, stepTokenProc, Option.map_eq_some_iff,
    Prod.mk.injEq, Option.some.injEq, reduceCtorEq] at h
  case idle.tick d =>
    obtain ⟨rfl, rfl⟩ := h
    exact .tick
  case idle.arrive r =>
    obtain ⟨rfl, rfl⟩ := h
    exact .arrive
  case call.go r pc x =>
    obtain ⟨⟨_, pc'⟩, h, rfl, rfl⟩ := h
    exact .call (tokenStep_of h)
  case call.abort r pc =>
    split at h
    · simp at h
    · next hopen =>
      simp only [Option.some.injEq, Prod.mk.injEq] at h
      obtain ⟨rfl, rfl⟩ := h
      exact .abort (by simpa using hopen)

end

end SkyLock
