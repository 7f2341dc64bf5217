import WebAuth.Python.Utf8

/-!
# The deployment's configuration

The session lifetime carries what its constructor checks, so no other lifetime exists. A
configuration is installed on an application and compared by instance, so it is kept behind a
reference.
-/

namespace WebAuth

open Python

/-- `_MAX_SESSION_LIFETIME_SECONDS`. -/
def maxSessionLifetimeSeconds : ℤ := 400 * 24 * 60 * 60

/-- `SessionLifetime`. -/
structure SessionLifetime where
  idleSeconds : ℤ
  absoluteMaxAgeSeconds : ℤ
  idle_pos : 0 < idleSeconds
  absolute_pos : 0 < absoluteMaxAgeSeconds
  absolute_le : absoluteMaxAgeSeconds ≤ maxSessionLifetimeSeconds
  idle_le : idleSeconds ≤ absoluteMaxAgeSeconds

/-- `SameSite` of a cookie; `None` is not a choice. -/
inductive CookieSameSite where
  | strict
  | lax
  deriving DecidableEq

/-- `_MIN_SESSION_SECRET_CHARS`. -/
def minSessionSecretChars : ℕ := 32

/-- `WebAuthConfig`, with what its constructor checks. The clock and the rate limiter are calls. -/
structure WebAuthConfig where
  sessionSecret : Str
  /-- The secret in the form the cookie signatures take. -/
  signingKey : Bytes
  allowedHostsExact : List Str
  sessionLifetime : SessionLifetime
  cookieSamesite : CookieSameSite
  cookieSecure : Bool
  signingKey_encodes : encode sessionSecret = some signingKey
  secret_length : minSessionSecretChars ≤ sessionSecret.length
  hosts_nonempty : allowedHostsExact ≠ []

/-- A Python object compared with `is`. -/
structure Ref (α : Type) where
  ref : ℕ
  value : α

/-- `a is b`. -/
def Ref.same {α : Type} (a b : Ref α) : Bool := a.ref = b.ref

/-- A Starlette application, with the configuration installed on its state. -/
structure App where
  ref : ℕ
  webauth : Option (Ref WebAuthConfig)

end WebAuth
