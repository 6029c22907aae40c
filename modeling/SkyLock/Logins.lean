import SkyLock.Lib.Concurrent
import SkyLock.Models

/-!
# Password logins

`login` of `app/api/auth.py`, statement by statement.  An attempt reads the user,
reads the clock, checks the lock, verifies the password and only then writes the
counter, from the value it read: attempts on one account that overlap lose each
other's failures.

## Main definitions

* `User`, `LoginSettings`, `LoginRequest` — the columns, settings and body it uses.
* `Accounts`, `LoginPc`, `stepLogin` — the accounts, and an attempt on one.
* `wrongs` — the wrong passwords evaluated for an account.
* `Between` — a step between two resets of an account that is not locked.
* `SerialCheck` — a password is checked against an up-to-date counter, and a lock is
  written before it has run out.

## Main results

* `lockout_bounds_guesses` — **where checks are serial, at most
  `login_max_failures` wrong passwords are evaluated before the account locks**.
* `six_guesses` — overlapping attempts are not bounded.
-/

namespace SkyLock

open Concurrent

/-! ### Accounts -/

/-- The columns of `User` that a login reads or writes; the address names the row. -/
structure User where
  passwordHash : String
  failedLoginCount : ℕ
  lockedUntil : Option Time
  deriving DecidableEq, Repr, Inhabited

/-- What a flush of a user instance loaded as `loaded` and now reading `current`
leaves of the row. -/
def User.merge (loaded current stored : User) : User :=
  { stored with
    failedLoginCount :=
      Orm.writeBack loaded.failedLoginCount current.failedLoginCount stored.failedLoginCount
    lockedUntil := Orm.writeBack loaded.lockedUntil current.lockedUntil stored.lockedUntil }

/-- The settings of a login, and the code outside the repository it calls. -/
structure LoginSettings where
  loginMaxFailures : ℕ
  loginLockoutSeconds : ℕ
  /-- `str.lower`. -/
  lower : String → String
  /-- `PasswordHasher.verify(hash, password)` returns. -/
  verifies : (hash password : String) → Bool
  /-- `datetime.isoformat(timespec="seconds")`. -/
  isoformat : Time → String

/-- The defaults of `Settings`. -/
def LoginSettings.defaults (lower : String → String) (verifies : String → String → Bool)
    (isoformat : Time → String) : LoginSettings :=
  ⟨5, 900, lower, verifies, isoformat⟩

/-- `verify_password`. -/
def verifyPassword (cfg : LoginSettings) (password : String) : Option String → Bool
  | none => false
  | some hash => cfg.verifies hash password

/-- Python's `str.isspace` of one character. -/
def isSpace (c : Char) : Bool :=
  c.val ∈ [0x20, 0x85, 0xa0, 0x1680, 0x2028, 0x2029, 0x202f, 0x205f, 0x3000] ||
    (0x09 ≤ c.val && c.val ≤ 0x0d) || (0x1c ≤ c.val && c.val ≤ 0x1f) ||
    (0x2000 ≤ c.val && c.val ≤ 0x200a)

/-- Python's `str.strip`. -/
def strip (text : String) : String :=
  String.ofList ((text.toList.dropWhile isSpace).reverse.dropWhile isSpace).reverse

/-- `normalize_email`. -/
@[irreducible] def normalizeEmail (cfg : LoginSettings) (email : String) : String :=
  cfg.lower (strip email)

/-- `LoginRequest`. -/
structure LoginRequest where
  email : String
  password : String
  deriving DecidableEq, Repr

/-- The address of the account an attempt is on. -/
def LoginRequest.account (r : LoginRequest) (cfg : LoginSettings) : String :=
  normalizeEmail cfg r.email

/-- `AccountLocked`. -/
def AppError.accountLocked (detail : String) : AppError :=
  .raised 423 "account_locked" "Account temporarily locked" detail

/-- `InvalidCredentials`. -/
def AppError.invalidCredentials (detail : String) : AppError :=
  .raised 401 "invalid_credentials" "Invalid email or password" detail

/-- What happened to an account, for the statements about it. -/
inductive LoginEvent where
  /-- A wrong password was evaluated. -/
  | wrong (account : String)
  /-- A login succeeded. -/
  | succeeded (account : String)
  deriving DecidableEq, Repr

/-- The shared state: one clock, the committed users, and what happened, newest first. -/
structure Accounts where
  clock : Time
  users : String → Option User
  history : List LoginEvent

/-! ### An attempt -/

/-- How a login ends. -/
inductive LoginReply where
  /-- It returned tokens. -/
  | tokens
  /-- It raised an `AppError`. -/
  | problem (e : AppError)

/-- Where a login is; `user` is the instance it loaded. -/
inductive LoginPc where
  | selectUser
  | checkLock (user : Option User)
  | verify (user : Option User) (now : Time)
  | fail (user : User) (now : Time)
  | succeed (user : User)
  | done (reply : LoginReply)

/-- The instance after a wrong password. -/
def User.failed (cfg : LoginSettings) (u : User) (now : Time) : User :=
  if cfg.loginMaxFailures ≤ u.failedLoginCount + 1 then
    { u with
      lockedUntil := some (now + seconds cfg.loginLockoutSeconds), failedLoginCount := 0 }
  else { u with failedLoginCount := u.failedLoginCount + 1 }

/-- The instance after the right password. -/
def User.reset (u : User) : User := { u with failedLoginCount := 0, lockedUntil := none }

/-- Commit what an instance has become. -/
def Accounts.flushUser (s : Accounts) (account : String) (loaded current : User) : Accounts :=
  { s with
    users := Function.update s.users account
      ((s.users account).map (User.merge loaded current)) }

/-- Note what happened. -/
def Accounts.log (s : Accounts) (e : LoginEvent) : Accounts :=
  { s with history := e :: s.history }

/-- One statement of a login. -/
def stepLogin (cfg : LoginSettings) (s : Accounts) (r : LoginRequest) :
    LoginPc → Option (Accounts × LoginPc)
  | .selectUser => some (s, .checkLock (s.users (r.account cfg)))
  | .checkLock user =>
    match user.bind User.lockedUntil with
    | some t =>
      if s.clock < t then
        some (s, .done (.problem (.accountLocked
          ("Too many failed attempts. Try again after " ++ cfg.isoformat t ++ "."))))
      else some (s, .verify user s.clock)
    | none => some (s, .verify user s.clock)
  | .verify user now =>
    match user with
    | some u =>
      if verifyPassword cfg r.password (some u.passwordHash) then some (s, .succeed u)
      else some (s.log (.wrong (r.account cfg)), .fail u now)
    | none => some (s, .done (.problem (.invalidCredentials "Invalid email or password")))
  | .fail u now =>
    some (s.flushUser (r.account cfg) u (u.failed cfg now),
      .done (.problem (.invalidCredentials "Invalid email or password")))
  | .succeed u =>
    some ((s.flushUser (r.account cfg) u u.reset).log (.succeeded (r.account cfg)), .done .tokens)
  | .done _ => none

/-- A process: no attempt yet, or one. -/
inductive LoginProc where
  | idle
  | login (r : LoginRequest) (pc : LoginPc)

/-- What the outside world decides. -/
inductive LoginInput where
  | tick (d : ℕ)
  | arrive (r : LoginRequest)
  | go

/-- One step of a process. -/
def stepLoginProc (cfg : LoginSettings) (s : Accounts) (_ : ℕ) :
    LoginProc → LoginInput → Option (Accounts × LoginProc)
  | .idle, .tick d => some ({ s with clock := s.clock + d }, .idle)
  | .idle, .arrive r => some (s, .login r .selectUser)
  | .login r pc, .go => (stepLogin cfg s r pc).map fun o => (o.1, .login r o.2)
  | _, _ => none

/-- The login endpoint. -/
def logins (cfg : LoginSettings) : System Accounts LoginProc LoginInput := ⟨stepLoginProc cfg⟩

/-- Registered users nobody has tried to log in as. -/
def Accounts.Fresh (users : String → Option User) : Prop :=
  ∀ account u, users account = some u → u.failedLoginCount = 0 ∧ u.lockedUntil = none

/-- No attempt has arrived. -/
def loginStart (users : String → Option User) (clock : Time) : World Accounts LoginProc :=
  ⟨⟨clock, users, []⟩, fun _ => .idle⟩

/-! ### What is counted -/

/-- The wrong passwords evaluated for an account. -/
def wrongs (account : String) (history : List LoginEvent) : ℕ := history.count (.wrong account)

/-- The committed counter of an account. -/
def Accounts.failures (s : Accounts) (account : String) : ℕ :=
  ((s.users account).map User.failedLoginCount).getD 0

/-- The committed `locked_until` of an account lies in the future. -/
def Accounts.locked (s : Accounts) (account : String) : Bool :=
  ((s.users account).bind User.lockedUntil).any fun t => decide (s.clock < t)

/-- The account on which a process has evaluated a wrong password without having
committed the failure. -/
def LoginProc.failing? (cfg : LoginSettings) : LoginProc → Option String
  | .login r (.fail _ _) => some (r.account cfg)
  | _ => none

/-- The account on which a login is about to succeed. -/
def LoginProc.succeeding? (cfg : LoginSettings) : LoginProc → Option String
  | .login r (.succeed _) => some (r.account cfg)
  | _ => none

/-- A step between two resets: the account is not locked, and no login on it succeeds. -/
def Between (cfg : LoginSettings) (account : String) (w : World Accounts LoginProc) (p : ℕ) :
    Prop :=
  w.shared.locked account = false ∧ (w.proc p).succeeding? cfg ≠ some account

instance (cfg : LoginSettings) (account : String) (w : World Accounts LoginProc) (p : ℕ) :
    Decidable (Between cfg account w p) :=
  inferInstanceAs (Decidable (_ ∧ _))

/-- A password is evaluated only while the counter is still the one the attempt
read, and no failure on the account awaits its commit; and the failure that locks the
account is committed before the lock has run out. -/
def SerialCheck (cfg : LoginSettings) (w : World Accounts LoginProc) (p : ℕ) (_ : LoginInput) :
    Prop :=
  match w.proc p with
  | .login r (.verify (some u) _) =>
    w.shared.failures (r.account cfg) = u.failedLoginCount ∧
      ∀ q, (w.proc q).failing? cfg ≠ some (r.account cfg)
  | .login _ (.fail u now) =>
    cfg.loginMaxFailures ≤ u.failedLoginCount + 1 →
      w.shared.clock < now + seconds cfg.loginLockoutSeconds
  | _ => True

/-! ### What one step does -/

section Steps

variable {cfg : LoginSettings} {s s' : Accounts} {p : ℕ}

/-- The steps of a login, with what they ask for. -/
inductive LoginStep (cfg : LoginSettings) (s : Accounts) (r : LoginRequest) :
    LoginPc → Accounts → LoginPc → Prop
  | selects : LoginStep cfg s r .selectUser s (.checkLock (s.users (r.account cfg)))
  | denied {user : Option User} {t : Time} {e : AppError}
      (hlock : user.bind User.lockedUntil = some t) (hlt : s.clock < t)
      (hstatus : e.statusCode = 423) :
      LoginStep cfg s r (.checkLock user) s (.done (.problem e))
  | passes {user : Option User} (hlock : ∀ t, user.bind User.lockedUntil = some t → t ≤ s.clock) :
      LoginStep cfg s r (.checkLock user) s (.verify user s.clock)
  | unknown {now : Time} {e : AppError} :
      LoginStep cfg s r (.verify none now) s (.done (.problem e))
  | accepts {u : User} {now : Time} : LoginStep cfg s r (.verify (some u) now) s (.succeed u)
  | rejects {u : User} {now : Time} :
      LoginStep cfg s r (.verify (some u) now) (s.log (.wrong (r.account cfg))) (.fail u now)
  | fails {u : User} {now : Time} {e : AppError} :
      LoginStep cfg s r (.fail u now) (s.flushUser (r.account cfg) u (u.failed cfg now))
        (.done (.problem e))
  | succeeds {u : User} :
      LoginStep cfg s r (.succeed u)
        ((s.flushUser (r.account cfg) u u.reset).log (.succeeded (r.account cfg)))
        (.done .tokens)

theorem loginStep_of {r : LoginRequest} {pc pc' : LoginPc}
    (h : stepLogin cfg s r pc = some (s', pc')) : LoginStep cfg s r pc s' pc' := by
  cases pc <;> simp only [stepLogin, reduceCtorEq] at h
  case selectUser =>
    simp only [Option.some.injEq, Prod.mk.injEq] at h
    obtain ⟨rfl, rfl⟩ := h
    exact .selects
  case checkLock user =>
    split at h
    · next t hlock =>
      split at h <;> simp only [Option.some.injEq, Prod.mk.injEq] at h <;> obtain ⟨rfl, rfl⟩ := h
      · next hlt => exact .denied hlock hlt rfl
      · next hge =>
        refine .passes fun t' ht' => ?_
        rw [hlock] at ht'
        obtain rfl := Option.some.inj ht'
        exact not_lt.mp hge
    · next hnone =>
      simp only [Option.some.injEq, Prod.mk.injEq] at h
      obtain ⟨rfl, rfl⟩ := h
      exact .passes fun t ht => by simp [hnone] at ht
  case verify user now =>
    split at h
    · split at h <;> simp only [Option.some.injEq, Prod.mk.injEq] at h <;> obtain ⟨rfl, rfl⟩ := h
      · exact .accepts
      · exact .rejects
    · simp only [Option.some.injEq, Prod.mk.injEq] at h
      obtain ⟨rfl, rfl⟩ := h
      exact .unknown
  case fail u now =>
    simp only [Option.some.injEq, Prod.mk.injEq] at h
    obtain ⟨rfl, rfl⟩ := h
    exact .fails
  case succeed u =>
    simp only [Option.some.injEq, Prod.mk.injEq] at h
    obtain ⟨rfl, rfl⟩ := h
    exact .succeeds

/-- The steps of a process. -/
inductive LoginProcStep (cfg : LoginSettings) (s : Accounts) :
    LoginProc → Accounts → LoginProc → Prop
  | tick {d : ℕ} : LoginProcStep cfg s .idle { s with clock := s.clock + d } .idle
  | arrive {r : LoginRequest} : LoginProcStep cfg s .idle s (.login r .selectUser)
  | login {r : LoginRequest} {s' : Accounts} {pc pc' : LoginPc} (h : LoginStep cfg s r pc s' pc') :
      LoginProcStep cfg s (.login r pc) s' (.login r pc')

theorem loginProcStep_of {P P' : LoginProc} {a : LoginInput}
    (h : (logins cfg).step s p P a = some (s', P')) : LoginProcStep cfg s P s' P' := by
  cases P <;> cases a <;> simp only [logins, stepLoginProc, Option.map_eq_some_iff, Prod.mk.injEq,
    Option.some.injEq, reduceCtorEq] at h
  case idle.tick d =>
    obtain ⟨rfl, rfl⟩ := h
    exact .tick
  case idle.arrive r =>
    obtain ⟨rfl, rfl⟩ := h
    exact .arrive
  case login.go r pc =>
    obtain ⟨⟨_, pc'⟩, h, rfl, rfl⟩ := h
    exact .login (loginStep_of h)

theorem LoginProcStep.clock_le {P P' : LoginProc} (h : LoginProcStep cfg s P s' P') :
    s.clock ≤ s'.clock := by
  cases h with
  | tick => exact Nat.le_add_right ..
  | arrive => exact Nat.le_refl _
  | login h => cases h <;> exact Nat.le_refl _

@[simp] theorem Accounts.failures_log (e : LoginEvent) (account : String) :
    (s.log e).failures account = s.failures account := rfl

theorem Accounts.failures_flushUser_of_ne {account account' : String} {loaded current : User}
    (h : account' ≠ account) :
    (s.flushUser account loaded current).failures account' = s.failures account' := by
  simp [failures, flushUser, h]

/-- A flush writes the counter, unless the instance has the one it loaded. -/
theorem Accounts.failures_flushUser (account : String) (loaded current : User) :
    (s.flushUser account loaded current).failures account = s.failures account ∨
      (s.flushUser account loaded current).failures account = current.failedLoginCount := by
  cases hu : s.users account with
  | none => exact .inl (by simp [failures, flushUser, hu])
  | some u =>
    by_cases hc : current.failedLoginCount = loaded.failedLoginCount
    · exact .inl (by simp [failures, flushUser, hu, User.merge, hc])
    · exact .inr (by simp [failures, flushUser, hu, User.merge, Orm.writeBack_dirty _ hc])

/-- A flush of a counter that was assigned writes it to a row there is. -/
theorem Accounts.failures_flushUser_dirty {account : String} {loaded current : User}
    (hc : current.failedLoginCount ≠ loaded.failedLoginCount)
    (hu : (s.users account).isSome) :
    (s.flushUser account loaded current).failures account = current.failedLoginCount := by
  obtain ⟨u, hu⟩ := Option.isSome_iff_exists.mp hu
  simp [failures, flushUser, hu, User.merge, Orm.writeBack_dirty _ hc]

/-- A flush of a lock that was assigned, and has yet to run out, locks a row there is. -/
theorem Accounts.locked_flushUser_dirty {account : String} {loaded current : User} {t : Time}
    (hcurrent : current.lockedUntil = some t) (hlt : s.clock < t)
    (hloaded : loaded.lockedUntil ≠ some t) (hu : (s.users account).isSome) :
    (s.flushUser account loaded current).locked account = true := by
  obtain ⟨u, hu⟩ := Option.isSome_iff_exists.mp hu
  have hdirty := Orm.writeBack_dirty u.lockedUntil hloaded.symm
  simp [locked, flushUser, hu, User.merge, hcurrent, hdirty, hlt]

/-- A counter that has room goes up by one. -/
theorem User.failed_of_lt {u : User} (h : u.failedLoginCount + 1 < cfg.loginMaxFailures)
    (now : Time) : (u.failed cfg now).failedLoginCount = u.failedLoginCount + 1 := by
  simp [User.failed, not_le.mpr h]

/-- A counter that is full goes back to zero, and the account is locked. -/
theorem User.failed_of_le {u : User} (h : cfg.loginMaxFailures ≤ u.failedLoginCount + 1)
    (now : Time) : (u.failed cfg now).failedLoginCount = 0 ∧
      (u.failed cfg now).lockedUntil = some (now + seconds cfg.loginLockoutSeconds) := by
  simp [User.failed, h]

end Steps

/-! ### The bound -/

/-- The instance an attempt has loaded, once it has found a user. -/
def LoginPc.user? : LoginPc → Option User
  | .checkLock user | .verify user _ => user
  | .fail u _ | .succeed u => some u
  | _ => none

/-- An attempt that has checked the lock of a user, and when. -/
def LoginPc.checked? : LoginPc → Option (User × Time)
  | .verify (some u) now | .fail u now => some (u, now)
  | _ => none

/-- What an attempt knows of the account it is on. -/
structure LoginPc.Sound (cfg : LoginSettings) (s : Accounts) (account : String) (pc : LoginPc) :
    Prop where
  loaded : pc.user?.isSome → (s.users account).isSome
  /-- Its lock has run out. -/
  open? : ∀ u now, pc.checked? = some (u, now) →
    now ≤ s.clock ∧ ∀ t, u.lockedUntil = some t → t ≤ now
  room : ∀ u now, pc = .fail u now → u.failedLoginCount < cfg.loginMaxFailures

/-- What serial checks keep of all accounts: no counter is full. -/
structure Counted (cfg : LoginSettings) (w : World Accounts LoginProc) : Prop where
  lt : ∀ account, w.shared.failures account < cfg.loginMaxFailures
  sound : ∀ p r pc, w.proc p = .login r pc → pc.Sound cfg w.shared (r.account cfg)

/-- What serial checks keep of an account between two resets: the wrong passwords evaluated
after the first `m` are in the counter, but for the one failure that awaits its commit. -/
structure Tallied (cfg : LoginSettings) (account : String) (m : ℕ)
    (w : World Accounts LoginProc) : Prop where
  failing : ∀ p r u now, w.proc p = .login r (.fail u now) → r.account cfg = account →
    wrongs account w.shared.history ≤ m + (u.failedLoginCount + 1)
  settled : (∀ p, (w.proc p).failing? cfg ≠ some account) →
    wrongs account w.shared.history ≤ m + w.shared.failures account

section Bound

variable {cfg : LoginSettings} {w w' : World Accounts LoginProc} {s' : Accounts} {p m : ℕ}
  {account : String}

theorem LoginPc.Sound.mono {s : Accounts} {pc : LoginPc} (h : pc.Sound cfg s account)
    (hclock : s.clock ≤ s'.clock)
    (husers : (s.users account).isSome → (s'.users account).isSome) :
    pc.Sound cfg s' account :=
  ⟨fun hsome => husers (h.loaded hsome), fun u now hpc => ⟨(h.open? u now hpc).1.trans hclock,
    (h.open? u now hpc).2⟩, h.room⟩

theorem LoginStep.users_isSome {s : Accounts} {r : LoginRequest} {pc pc' : LoginPc}
    (h : LoginStep cfg s r pc s' pc') (hsome : (s.users account).isSome) :
    (s'.users account).isSome := by
  cases h with
  | fails | succeeds =>
    by_cases hne : account = r.account cfg
    · subst hne
      simpa [Accounts.flushUser, Accounts.log] using hsome
    · simpa [Accounts.flushUser, Accounts.log, hne] using hsome
  | _ => exact hsome

/-- What an attempt knows after its next statement. -/
theorem LoginStep.sound {s : Accounts} {r : LoginRequest} {pc pc' : LoginPc}
    (h : LoginStep cfg s r pc s' pc') (hpc : pc.Sound cfg s (r.account cfg))
    (hroom : ∀ u now, pc = .verify (some u) now → u.failedLoginCount < cfg.loginMaxFailures) :
    pc'.Sound cfg s' (r.account cfg) := by
  cases h with
  | selects => exact ⟨id, by simp [LoginPc.checked?], by simp⟩
  | @passes user hlock =>
    refine ⟨hpc.loaded, fun u now hu => ?_, by simp⟩
    cases user with
    | none => simp [LoginPc.checked?] at hu
    | some user =>
      obtain ⟨rfl, rfl⟩ : user = u ∧ _ = now := by simpa [LoginPc.checked?] using hu
      exact ⟨le_refl _, hlock⟩
  | accepts => exact ⟨hpc.loaded, by simp [LoginPc.checked?], by simp⟩
  | @rejects u now =>
    refine ⟨hpc.loaded, hpc.open?, fun u' now' heq => ?_⟩
    obtain ⟨rfl, rfl⟩ : u = u' ∧ now = now' := by simpa using heq
    exact hroom u now rfl
  | denied | unknown | fails | succeeds =>
    exact ⟨by simp [LoginPc.user?], by simp [LoginPc.checked?], by simp⟩

theorem LoginStep.failures_lt {s : Accounts} {r : LoginRequest} {pc pc' : LoginPc}
    (h : LoginStep cfg s r pc s' pc') (hmax : 0 < cfg.loginMaxFailures)
    (hlt : s.failures account < cfg.loginMaxFailures) :
    s'.failures account < cfg.loginMaxFailures := by
  have hflush : ∀ loaded current : User, current.failedLoginCount < cfg.loginMaxFailures →
      (s.flushUser (r.account cfg) loaded current).failures account < cfg.loginMaxFailures := by
    intro loaded current hcurrent
    by_cases hne : account = r.account cfg
    · subst hne
      rcases Accounts.failures_flushUser (s := s) (r.account cfg) loaded current with h | h <;>
        rw [h]
      · exact hlt
      · exact hcurrent
    · rwa [Accounts.failures_flushUser_of_ne hne]
  cases h with
  | @fails u now =>
    refine hflush u _ ?_
    rcases Nat.lt_or_ge (u.failedLoginCount + 1) cfg.loginMaxFailures with hroom | hfull
    · rwa [User.failed_of_lt hroom]
    · rwa [(User.failed_of_le hfull now).1]
  | succeeds => exact hflush _ _ hmax
  | _ => exact hlt

theorem Counted.start (hmax : 0 < cfg.loginMaxFailures) {users : String → Option User}
    (hfresh : Accounts.Fresh users) (clock : Time) : Counted cfg (loginStart users clock) where
  lt account := by
    cases hu : users account with
    | none => simpa [loginStart, Accounts.failures, hu] using hmax
    | some u => simpa [loginStart, Accounts.failures, hu, (hfresh account u hu).1] using hmax
  sound p r pc h := by simp [loginStart] at h

theorem Counted.next (hmax : 0 < cfg.loginMaxFailures) (hw : Counted cfg w) {a : LoginInput}
    (hC : SerialCheck cfg w p a) (hn : (logins cfg).next w p a = some w') : Counted cfg w' := by
  obtain ⟨s', P', hs, rfl⟩ := System.next_eq_some.mp hn
  have hstep := loginProcStep_of hs
  unfold SerialCheck at hC
  have hother : s'.clock ≥ w.shared.clock → (∀ account, (w.shared.users account).isSome →
      (s'.users account).isSome) → ∀ q, q ≠ p → ∀ r pc, w.proc q = .login r pc →
        pc.Sound cfg s' (r.account cfg) :=
    fun hclock husers q _ r pc hq => (hw.sound q r pc hq).mono hclock (husers _)
  generalize hp : w.proc p = P at hstep hC
  have hsound : (∀ account, s'.failures account < cfg.loginMaxFailures) →
      (∀ account, (w.shared.users account).isSome → (s'.users account).isSome) →
        (∀ r pc, P' = .login r pc → pc.Sound cfg s' (r.account cfg)) →
          Counted cfg ⟨s', Function.update w.proc p P'⟩ := by
    refine fun hlt husers hmover => ⟨hlt, fun q r pc hq => ?_⟩
    rcases eq_or_ne q p with rfl | hne
    · simp only [Function.update_self] at hq
      exact hmover r pc hq
    · simp only [Function.update_of_ne hne] at hq
      exact hother hstep.clock_le husers q hne r pc hq
  cases hstep with
  | tick => exact hsound hw.lt (fun _ => id) (by simp)
  | arrive =>
    refine hsound hw.lt (fun _ => id) fun r pc heq => ?_
    obtain ⟨rfl, rfl⟩ : _ = r ∧ _ = pc := by simpa using heq
    exact ⟨by simp [LoginPc.user?], by simp [LoginPc.checked?], by simp⟩
  | @login r _ pc pc' h =>
    refine hsound (fun account => h.failures_lt hmax (hw.lt account))
      (fun _ => h.users_isSome) fun r' pc₁ heq => ?_
    obtain ⟨rfl, rfl⟩ : r = r' ∧ pc' = pc₁ := by simpa using heq
    refine h.sound (hw.sound p r pc hp) fun u now hpc => ?_
    subst hpc
    rw [← hC.1]
    exact hw.lt _

/-- At no time between two resets are more wrong passwords out than the setting allows. -/
theorem Tallied.wrongs_le (h : Tallied cfg account m w) (hw : Counted cfg w) :
    wrongs account w.shared.history ≤ m + cfg.loginMaxFailures := by
  by_cases hfailing : ∀ p, (w.proc p).failing? cfg ≠ some account
  · exact (h.settled hfailing).trans (Nat.add_le_add_left (hw.lt account).le m)
  · obtain ⟨p, hp⟩ := not_forall_not.mp hfailing
    obtain ⟨r, u, now, hproc, rfl⟩ : ∃ r u now, w.proc p = .login r (.fail u now) ∧
        r.account cfg = account := by
      unfold LoginProc.failing? at hp
      split at hp
      · next r u now heq => exact ⟨r, u, now, heq, Option.some.inj hp⟩
      · simp at hp
    have hroom := (hw.sound p r _ hproc).room u now rfl
    have hle := h.failing p r u now hproc rfl
    omega

/-- A step that neither evaluates a password for the account nor writes its counter. -/
theorem Tallied.frame (h : Tallied cfg account m w) {P' : LoginProc}
    (hwrongs : wrongs account s'.history = wrongs account w.shared.history)
    (hfailures : s'.failures account = w.shared.failures account)
    (hfrom : (w.proc p).failing? cfg ≠ some account) (hto : P'.failing? cfg ≠ some account) :
    Tallied cfg account m ⟨s', Function.update w.proc p P'⟩ := by
  refine ⟨fun q r u now hq hr => ?_, fun hnone => ?_⟩
  · rcases eq_or_ne q p with rfl | hne
    · simp only [Function.update_self] at hq
      exact absurd (by simp [hq, LoginProc.failing?, hr]) hto
    · simp only [Function.update_of_ne hne] at hq
      simpa [hwrongs] using h.failing q r u now hq hr
  · simp only [hwrongs, hfailures]
    refine h.settled fun q => ?_
    rcases eq_or_ne q p with rfl | hne
    · exact hfrom
    · simpa only [Function.update_of_ne hne] using hnone q

/-- A wrong password is evaluated against an up-to-date counter. -/
theorem Tallied.rejects (h : Tallied cfg account m w) {r : LoginRequest} {u : User} {now : Time}
    (hr : r.account cfg = account) (hfresh : w.shared.failures account = u.failedLoginCount)
    (hnone : ∀ q, (w.proc q).failing? cfg ≠ some account) :
    Tallied cfg account m ⟨w.shared.log (.wrong account),
      Function.update w.proc p (.login r (.fail u now))⟩ := by
  have hsettled := h.settled hnone
  refine ⟨fun q r' u' now' hq hr' => ?_, fun hnot => ?_⟩
  · rcases eq_or_ne q p with rfl | hne
    · simp only [Function.update_self, LoginProc.login.injEq, LoginPc.fail.injEq] at hq
      obtain ⟨rfl, rfl, rfl⟩ := hq
      simp only [wrongs, Accounts.log, List.count_cons_self] at hsettled ⊢
      omega
    · simp only [Function.update_of_ne hne] at hq
      exact absurd (by simp [hq, LoginProc.failing?, hr']) (hnone q)
  · exact absurd (by simp [LoginProc.failing?, hr]) (hnot p)

/-- A failure that leaves the account open is in the counter once it is committed. -/
theorem Tallied.counts (h : Tallied cfg account m w) {r : LoginRequest} {u : User} {now : Time}
    {reply : LoginReply} (hp : w.proc p = .login r (.fail u now)) (hr : r.account cfg = account)
    (hwrongs : wrongs account s'.history = wrongs account w.shared.history)
    (hfailures : s'.failures account = u.failedLoginCount + 1) :
    Tallied cfg account m ⟨s', Function.update w.proc p (.login r (.done reply))⟩ := by
  have hown := h.failing p r u now hp hr
  refine ⟨fun q r' u' now' hq hr' => ?_, fun _ => ?_⟩
  · rcases eq_or_ne q p with rfl | hne
    · simp at hq
    · simp only [Function.update_of_ne hne] at hq
      simpa [hwrongs] using h.failing q r' u' now' hq hr'
  · simp only [hwrongs, hfailures]
    exact hown

/-- Between two resets a step keeps the tally, or it locks the account. -/
theorem Tallied.next (h : Tallied cfg account m w) (hw : Counted cfg w) {a : LoginInput}
    (hC : SerialCheck cfg w p a) (hB : Between cfg account w p)
    (hn : (logins cfg).next w p a = some w') :
    Tallied cfg account m w' ∨
      wrongs account w'.shared.history ≤ m + cfg.loginMaxFailures ∧
        w'.shared.locked account = true := by
  obtain ⟨s', P', hs, rfl⟩ := System.next_eq_some.mp hn
  have hstep := loginProcStep_of hs
  obtain ⟨-, hopen⟩ := hB
  unfold SerialCheck at hC
  generalize hp : w.proc p = P at hstep hC hopen
  have hframe : P.failing? cfg ≠ some account → P'.failing? cfg ≠ some account →
      wrongs account s'.history = wrongs account w.shared.history →
        s'.failures account = w.shared.failures account →
          Tallied cfg account m ⟨s', Function.update w.proc p P'⟩ :=
    fun hfrom hto hwrongs hfailures => h.frame hwrongs hfailures (hp ▸ hfrom) hto
  cases hstep with
  | tick | arrive => exact .inl (hframe (by simp [LoginProc.failing?])
      (by simp [LoginProc.failing?]) rfl rfl)
  | @login r _ pc pc' hlogin =>
    cases hlogin with
    | selects | denied | passes | unknown | accepts =>
      exact .inl (hframe (by simp [LoginProc.failing?]) (by simp [LoginProc.failing?]) rfl rfl)
    | @rejects u now =>
      by_cases hr : r.account cfg = account
      · subst hr
        exact .inl (h.rejects rfl hC.1 hC.2)
      · refine .inl (hframe (by simp [LoginProc.failing?]) (by simpa [LoginProc.failing?] using hr)
          ?_ rfl)
        simp [wrongs, Accounts.log, hr]
    | @fails u now =>
      by_cases hr : r.account cfg = account
      · subst hr
        have hsound := hw.sound p r _ hp
        have hloaded := hsound.loaded rfl
        rcases Nat.lt_or_ge (u.failedLoginCount + 1) cfg.loginMaxFailures with hroom | hfull
        · refine .inl (h.counts hp rfl rfl ?_)
          rw [Accounts.failures_flushUser_dirty ?_ hloaded, User.failed_of_lt hroom]
          rw [User.failed_of_lt hroom]
          omega
        · -- the lock is later than the one the attempt found run out
          obtain ⟨hnow, hpast⟩ := hsound.open? u now rfl
          have hlt : w.shared.clock < now + seconds cfg.loginLockoutSeconds := hC hfull
          refine .inr ⟨?_, Accounts.locked_flushUser_dirty (User.failed_of_le hfull now).2 hlt ?_
            hloaded⟩
          · have hown := h.failing p r u now hp rfl
            have hlast := hsound.room u now rfl
            exact hown.trans (Nat.add_le_add_left hlast m)
          · intro heq
            exact absurd ((hpast _ heq).trans hnow) (not_le_of_gt hlt)
      · refine .inl (hframe (by simpa [LoginProc.failing?] using hr) (by simp [LoginProc.failing?])
          rfl ?_)
        exact Accounts.failures_flushUser_of_ne (Ne.symm hr)
    | @succeeds u =>
      have hr : r.account cfg ≠ account := by simpa [LoginProc.succeeding?] using hopen
      refine .inl (hframe (by simp [LoginProc.failing?]) (by simp [LoginProc.failing?]) ?_ ?_)
      · simp [wrongs, Accounts.log, Accounts.flushUser]
      · exact Accounts.failures_flushUser_of_ne (Ne.symm hr)

/-- Between two resets the wrong passwords are bounded. -/
theorem Counted.wrongs_le_of_run (hmax : 0 < cfg.loginMaxFailures) (hw : Counted cfg w)
    {bs : List (ℕ × LoginInput)}
    (h : (logins cfg).Run (fun w p a => SerialCheck cfg w p a ∧ Between cfg account w p) w bs w') :
    wrongs account w'.shared.history ≤
      wrongs account w.shared.history + cfg.loginMaxFailures := by
  have hstart : Tallied cfg account (wrongs account w.shared.history) w :=
    ⟨fun _ _ _ _ _ _ => Nat.le_add_right .., fun _ => Nat.le_add_right ..⟩
  obtain ⟨hcounted, htallied | ⟨hle, -⟩⟩ := h.induct
    (I := fun w' => Counted cfg w' ∧ (Tallied cfg account (wrongs account w.shared.history) w' ∨
      wrongs account w'.shared.history ≤ wrongs account w.shared.history + cfg.loginMaxFailures ∧
        w'.shared.locked account = true)) ⟨hw, .inl hstart⟩ (by
      rintro w₁ p a w₂ ⟨hcounted, htally⟩ ⟨hC, hB⟩ hn
      refine ⟨hcounted.next hmax hC hn, ?_⟩
      rcases htally with htallied | ⟨-, hlocked⟩
      · exact htallied.next hcounted hC hB hn
      · exact absurd (hB.1.symm.trans hlocked) (by simp))
  · exact htallied.wrongs_le hcounted
  · exact hle

end Bound

/-! ### While the account is locked -/

/-- The process has evaluated a password: it is not done with a 423. -/
def LoginProc.evaluated : LoginProc → Bool
  | .login _ (.fail _ _) | .login _ (.succeed _) | .login _ (.done .tokens) => true
  | .login _ (.done (.problem e)) => e.statusCode != 423
  | _ => false

/-- Where an attempt is that found its account locked until `t`. -/
def Barred (t : Time) (clock : Time) : LoginProc → Prop
  | .login _ (.checkLock user) => user.bind User.lockedUntil = some t
  | .login _ (.verify _ _) => t ≤ clock
  | .login r pc => (LoginProc.login r pc).evaluated = true → t ≤ clock
  | .idle => False

theorem Barred.mono {t clock clock' : Time} {P : LoginProc} (h : Barred t clock P)
    (hle : clock ≤ clock') : Barred t clock' P := by
  cases P with
  | idle => exact h
  | login r pc =>
    cases pc with
    | checkLock user => exact h
    | verify user now => exact h.trans hle
    | selectUser | fail | succeed | done => exact fun hev => (h hev).trans hle

theorem Barred.next {cfg : LoginSettings} {s s' : Accounts} {t : Time} {r : LoginRequest}
    {pc pc' : LoginPc} (h : Barred t s.clock (.login r pc)) (hpc : pc ≠ .selectUser)
    (hstep : LoginStep cfg s r pc s' pc') : Barred t s'.clock (.login r pc') := by
  cases hstep with
  | selects => exact absurd rfl hpc
  | denied _ _ hstatus => exact fun hev => absurd hev (by simp [LoginProc.evaluated, hstatus])
  | passes hlock => exact hlock t h
  | unknown | accepts | rejects => exact fun _ => h
  | fails | succeeds => exact fun _ => h rfl

/-- An attempt that finds its account locked evaluates no password before the lock
has run out. -/
theorem barred_of_run {cfg : LoginSettings} {w w' : World Accounts LoginProc} {p : ℕ} {t : Time}
    {as : List (ℕ × LoginInput)} (h : (logins cfg).Run (fun _ _ _ => True) w as w')
    (h₀ : Barred t w.shared.clock (w.proc p) ∧ ∀ r, w.proc p ≠ .login r .selectUser) :
    Barred t w'.shared.clock (w'.proc p) := by
  refine (h.induct (I := fun w => Barred t w.shared.clock (w.proc p) ∧
    ∀ r, w.proc p ≠ .login r .selectUser) h₀ ?_).1
  intro w₁ q a w₂ ⟨hbar, hpast⟩ _ hn
  obtain ⟨s', P', hs, rfl⟩ := System.next_eq_some.mp hn
  have hstep := loginProcStep_of hs
  rcases eq_or_ne p q with rfl | hne
  · simp only [Function.update_self]
    generalize hp : w₁.proc p = P at hstep hbar hpast
    cases hstep with
    | tick | arrive => exact absurd hbar id
    | @login r _ pc pc' h =>
      refine ⟨hbar.next (fun hpc => hpast r (by rw [hpc])) h, fun r' heq => ?_⟩
      simp only [LoginProc.login.injEq] at heq
      obtain ⟨rfl, rfl⟩ := heq
      cases h
  · simp only [Function.update_of_ne hne]
    exact ⟨hbar.mono hstep.clock_le, hpast⟩

/-- **Lockout bounds password guesses.**  Where checks are serial, at most
`login_max_failures` wrong passwords are evaluated in any part of a run in which no login on
the account succeeds and its `locked_until` never lies in the future.  An attempt that starts
while the account is locked evaluates none before the lock has run out, whatever runs beside
it. -/
theorem lockout_bounds_guesses {cfg : LoginSettings} {users : String → Option User} {clock : Time}
    {w : World Accounts LoginProc} {as : List (ℕ × LoginInput)}
    (hmax : 0 < cfg.loginMaxFailures) (hfresh : Accounts.Fresh users)
    (h : (logins cfg).Run (SerialCheck cfg) (loginStart users clock) as w) :
    (∀ account bs w', (logins cfg).Run
        (fun w p a => SerialCheck cfg w p a ∧ Between cfg account w p) w bs w' →
          wrongs account w'.shared.history ≤
            wrongs account w.shared.history + cfg.loginMaxFailures) ∧
      ∀ p r u t, w.proc p = .login r .selectUser → w.shared.users (r.account cfg) = some u →
        u.lockedUntil = some t → ∀ w₁, (logins cfg).next w p .go = some w₁ →
          ∀ bs w₂, (logins cfg).Run (fun _ _ _ => True) w₁ bs w₂ →
            (w₂.proc p).evaluated = true → t ≤ w₂.shared.clock := by
  constructor
  · intro account bs w' hbetween
    have hcounted := h.induct (Counted.start hmax hfresh clock)
      fun w₁ p a w₂ hw hC hn => hw.next hmax hC hn
    exact hcounted.wrongs_le_of_run hmax hbetween
  · intro p r u t hp hu ht w₁ hn bs w₂ hrun hev
    obtain ⟨s', P', hs, rfl⟩ := System.next_eq_some.mp hn
    rw [hp] at hs
    cases loginProcStep_of hs with
    | login h =>
      cases h
      have hbar := barred_of_run (p := p) (t := t) hrun ⟨by simp [Barred, hu, ht], by simp⟩
      generalize w₂.proc p = P at hbar hev
      unfold LoginProc.evaluated at hev
      split at hev
      · exact hbar rfl
      · exact hbar rfl
      · exact hbar rfl
      · exact hbar hev
      · simp at hev

/-- One registered user, whose password is its own hash. -/
def adaRegistered (account : String) : Option User :=
  if account = "ada@skylock.dev" then some ⟨"correct horse", 0, none⟩ else none

theorem adaRegistered_fresh : Accounts.Fresh adaRegistered := by
  intro account u hu
  unfold adaRegistered at hu
  split at hu
  · obtain rfl := Option.some.inj hu
    exact ⟨rfl, rfl⟩
  · simp at hu

/-- The default settings, over a hash that is the password and texts in ASCII. -/
def demoLogins : LoginSettings :=
  .defaults (fun text => String.ofList (text.toList.map Char.toLower))
    (fun hash password => hash == password) toString

example : normalizeEmail demoLogins " Ada@SkyLock.dev " = "ada@skylock.dev" := by decide +kernel

/-- An attempt of a process, up to its `n`th statement. -/
def guess (p : ℕ) (password : String) (n : ℕ) : List (ℕ × LoginInput) :=
  (p, .arrive ⟨"ada@skylock.dev", password⟩) :: List.replicate n (p, .go)

/-- Serial checks among the processes below `n`. -/
def SerialBelow (cfg : LoginSettings) (n : ℕ) (w : World Accounts LoginProc) (p : ℕ) : Prop :=
  match w.proc p with
  | .login r (.verify (some u) _) =>
    w.shared.failures (r.account cfg) = u.failedLoginCount ∧
      ∀ q < n, (w.proc q).failing? cfg ≠ some (r.account cfg)
  | .login _ (.fail u now) =>
    cfg.loginMaxFailures ≤ u.failedLoginCount + 1 →
      w.shared.clock < now + seconds cfg.loginLockoutSeconds
  | _ => True

instance (cfg : LoginSettings) (n : ℕ) (w : World Accounts LoginProc) (p : ℕ) :
    Decidable (SerialBelow cfg n w p) := by
  unfold SerialBelow
  split <;> infer_instance

theorem serial_of_below {cfg : LoginSettings} {n : ℕ}
    {D : World Accounts LoginProc → ℕ → LoginInput → Prop} {w w' : World Accounts LoginProc}
    {as : List (ℕ × LoginInput)} (hidle : ∀ q, n ≤ q → w.proc q = .idle)
    (h : (logins cfg).Run (fun w p a => p < n ∧ SerialBelow cfg n w p ∧ D w p a) w as w') :
    (logins cfg).Run (fun w p a => SerialCheck cfg w p a ∧ D w p a) w as w' := by
  refine h.of_below .idle hidle fun w₁ p a hidle hC => ?_
  obtain ⟨hC, hD⟩ := hC
  refine ⟨?_, hD⟩
  unfold SerialBelow at hC
  unfold SerialCheck
  split at hC
  · refine ⟨hC.1, fun q => ?_⟩
    rcases lt_or_ge q n with hq | hq
    · exact hC.2 q hq
    · simp [hidle q hq, LoginProc.failing?]
  · exact hC
  · trivial

/-- A process that is about to look for its user. -/
def LoginProc.starting? : LoginProc → Option LoginRequest
  | .login r .selectUser => some r
  | _ => none

theorem LoginProc.starting?_eq_some {P : LoginProc} {r : LoginRequest}
    (h : P.starting? = some r) : P = .login r .selectUser := by
  unfold starting? at h
  split at h
  · obtain rfl := Option.some.inj h
    rfl
  · simp at h

/-- Five wrong guesses, one after the other, lock the account. -/
def fiveGuesses : List (ℕ × LoginInput) :=
  guess 1 "guess one" 4 ++ guess 2 "guess two" 4 ++ guess 3 "guess three" 4 ++
    guess 4 "guess four" 4 ++ guess 5 "guess five" 4

/-- Five wrong guesses are evaluated and lock the account, and while it is locked nothing is
evaluated for an attempt with the right password. -/
theorem lockout_bounds_five :
    ∃ w w' r t, (logins demoLogins).Run (fun w p a => SerialCheck demoLogins w p a ∧
        Between demoLogins "ada@skylock.dev" w p) (loginStart adaRegistered 0) fiveGuesses w ∧
      (logins demoLogins).Run (SerialCheck demoLogins) w (guess 6 "correct horse" 0) w' ∧
      wrongs "ada@skylock.dev" w.shared.history = 5 ∧
      wrongs "ada@skylock.dev" w.shared.history ≤
        wrongs "ada@skylock.dev" [] + demoLogins.loginMaxFailures ∧
      w'.proc 6 = .login r .selectUser ∧ w'.shared.clock < t ∧
      ∀ w₁, (logins demoLogins).next w' 6 .go = some w₁ → ∀ bs w₂,
        (logins demoLogins).Run (fun _ _ _ => True) w₁ bs w₂ →
          (w₂.proc 6).evaluated = true → t ≤ w₂.shared.clock := by
  have hrun : ((logins demoLogins).checked (fun w p _ => p < 7 ∧ SerialBelow demoLogins 7 w p ∧
      Between demoLogins "ada@skylock.dev" w p) (loginStart adaRegistered 0) fiveGuesses).any
        (fun w => decide (wrongs "ada@skylock.dev" w.shared.history = 5) &&
          ((logins demoLogins).checked (fun w p _ => p < 7 ∧ SerialBelow demoLogins 7 w p ∧ True) w
            (guess 6 "correct horse" 0)).any (fun w' => (w'.proc 6).starting?.any fun r =>
              (w'.shared.users (r.account demoLogins)).any fun u => u.lockedUntil.any fun t =>
                decide (w'.shared.clock < t))) = true := by
    decide +kernel
  obtain ⟨w, hw, htest⟩ := System.exists_run_of_checked hrun
  obtain ⟨hfive, hrest⟩ := Bool.and_eq_true_iff.mp htest
  obtain ⟨w', hw', htest⟩ := System.exists_run_of_checked hrest
  obtain ⟨r, hp, htest⟩ := (Option.any_eq_true _ _).mp htest
  obtain ⟨u, hu, htest⟩ := (Option.any_eq_true _ _).mp htest
  obtain ⟨t, ht, htest⟩ := (Option.any_eq_true _ _).mp htest
  have hidle := hw.rest_of_below LoginProc.idle fun q _ => rfl
  have hbetween := serial_of_below (fun _ _ => rfl) hw
  have hsecond := (serial_of_below hidle hw').mono fun _ _ _ hC => hC.1
  have hfirst := hbetween.mono (D := SerialCheck demoLogins) fun _ _ _ hC => hC.1
  have hmax : 0 < demoLogins.loginMaxFailures := by decide
  obtain ⟨hbound, -⟩ := lockout_bounds_guesses hmax adaRegistered_fresh .nil
  obtain ⟨-, hbarred⟩ := lockout_bounds_guesses hmax adaRegistered_fresh (hfirst.trans hsecond)
  exact ⟨w, w', r, t, hbetween, hsecond, of_decide_eq_true hfive, hbound _ _ _ hbetween,
    LoginProc.starting?_eq_some hp, of_decide_eq_true htest,
    hbarred 6 r u t (LoginProc.starting?_eq_some hp) hu ht⟩

/-- **Overlapping attempts are not bounded**: six of them read the same counter, and
all six wrong passwords are evaluated before anything is written. -/
theorem six_guesses :
    ∃ w, (logins demoLogins).Run (fun w p _ => Between demoLogins "ada@skylock.dev" w p)
        (loginStart adaRegistered 0)
        (guess 1 "guess one" 3 ++ guess 2 "guess two" 3 ++ guess 3 "guess three" 3 ++
          guess 4 "guess four" 3 ++ guess 5 "guess five" 3 ++ guess 6 "guess six" 3) w ∧
      w.shared.users "ada@skylock.dev" = some ⟨"correct horse", 0, none⟩ ∧
        ¬ wrongs "ada@skylock.dev" w.shared.history ≤
          wrongs "ada@skylock.dev" [] + demoLogins.loginMaxFailures := by
  have hrun : ((logins demoLogins).checked (fun w p _ => Between demoLogins "ada@skylock.dev" w p)
      (loginStart adaRegistered 0)
      (guess 1 "guess one" 3 ++ guess 2 "guess two" 3 ++ guess 3 "guess three" 3 ++
        guess 4 "guess four" 3 ++ guess 5 "guess five" 3 ++ guess 6 "guess six" 3)).any (fun w =>
          decide (w.shared.users "ada@skylock.dev" = some ⟨"correct horse", 0, none⟩ ∧
            ¬ wrongs "ada@skylock.dev" w.shared.history ≤
              wrongs "ada@skylock.dev" [] + demoLogins.loginMaxFailures)) = true := by
    decide +kernel
  obtain ⟨w, hw, htest⟩ := System.exists_run_of_checked hrun
  exact ⟨w, hw, of_decide_eq_true htest⟩

end SkyLock
