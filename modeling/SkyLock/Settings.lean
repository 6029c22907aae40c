import SkyLock.Models

/-!
# Settings and keyed digests

The settings of `app/config.py` the modelled services read, and the two digests
they compute with code outside the repository.
-/

namespace SkyLock

/-- The environment of the service. -/
structure Env where
  holdTtlSeconds : ℕ
  maxActiveHoldsPerUser : ℕ
  idempotencyTtlSeconds : ℕ
  /-- `hashlib.sha256(text).hexdigest()`. -/
  sha256 : String → String
  /-- `card_fingerprint`: an HMAC under the server's key. -/
  cardFingerprint : String → String

/-- The defaults of `Settings`. -/
def Env.defaults (sha256 cardFingerprint : String → String) : Env :=
  ⟨600, 6, 24 * 3600, sha256, cardFingerprint⟩

end SkyLock
