import WebAuth.Python.Base64
import WebAuth.Requests

/-!
# The library's cookies

The session cookie carries a signed session id, and each pending login has a signed cookie named
for its state. The two signatures differ by a prefix, so neither value reads as the other.
-/

namespace WebAuth

open Python

/-- `MAX_SESSION_COOKIE_CHARS`. -/
def maxSessionCookieChars : ℕ := 200

/-- `_MAX_PENDING_LOGIN_COOKIE_CHARS`. -/
def maxPendingLoginCookieChars : ℕ := 896

/-- `_STATE_DIGEST_HEX_CHARS`. -/
def stateDigestHexChars : ℕ := 16

/-- The length of a pending secret: 32 random bytes in unpadded base64url. -/
def pendingSecretChars : ℕ := 43

/-- `_RETURN_PATH_FIELD_CHARS`: 512 bytes in unpadded base64url. -/
def returnPathFieldChars : ℕ := 683

/-- `_PENDING_LOGIN_VERSION`. -/
def pendingLoginVersion : Str := str "v2"

/-- `s.encode()`. -/
def encoded (s : Str) : Except Exn Bytes :=
  orRaise (.valueError "surrogates not allowed") (encode s)

/-! ## Names and values -/

/-- `_cookie_name`. -/
def cookieName (plainName : Str) (secure : Bool) : Str :=
  if secure then str "__Host-" ++ plainName else plainName

/-- `session_cookie_name`. -/
def WebAuthConfig.sessionCookieName (config : WebAuthConfig) : Str :=
  cookieName (str "session_id") config.cookieSecure

/-- `_pending_login_cookie_prefix`. -/
def pendingLoginCookiePrefix (secure : Bool) : Str := cookieName (str "oidc_pending") secure ++ str "_"

/-- `_pending_login_cookie_name`. -/
def pendingLoginCookieName (py : Platform) (state : Str) (secure : Bool) : Except Exn Str := do
  let bytes ← encoded state
  return pendingLoginCookiePrefix secure ++ (hex (py.sha256 bytes)).take stateDigestHexChars

/-- `_cookie_pairs`. -/
def cookiePairs (py : Platform) (scope : Scope) : List (Str × Str) :=
  (split (chr ';') ((str "; ").intercalate (scope.getlist (str "cookie")))).flatMap py.cookieParser

/-- `_cookie_values`. -/
def cookieValues (py : Platform) (scope : Scope) (name : Str) : List Str :=
  ((cookiePairs py scope).filter fun pair => pair.1 = name).map (·.2)

/-! ## Signatures -/

/-- `_signature`. -/
def signature (py : Platform) (start : Str) (text : Str) (secret : Bytes) : Except Exn Str := do
  let bytes ← encoded (start ++ text)
  return hex (py.hmacSha256 secret bytes)

/-- `_session_signature`. -/
def sessionSignature (py : Platform) (sessionId : Str) (secret : Bytes) : Except Exn Str :=
  signature py (str "session:") sessionId secret

/-- `_pending_login_signature`. -/
def pendingLoginSignature (py : Platform) (payload : Str) (secret : Bytes) : Except Exn Str :=
  signature py (str "oidc-pending:") payload secret

/-- `sign_session_id`. -/
def signSessionId (py : Platform) (sessionId : Str) (secret : Bytes) : Except Exn Str :=
  if sessionId = [] then .error (.valueError "the session id must not be empty")
  else do
    let signature ← sessionSignature py sessionId secret
    let signed := sessionId ++ str "." ++ signature
    if maxSessionCookieChars < signed.length then
      throw (.valueError "the session id does not fit the session cookie")
    else return signed

/-- `_verify_session_cookie`: the id a signed value carries. -/
def verifySessionCookie (py : Platform) (cookieValue : Str) (secret : Bytes) :
    Except Exn (Option Str) :=
  match rpartition (chr '.') cookieValue with
  | none => .ok none
  | some (sessionId, sig) =>
    if sessionId = [] || sig = [] then .ok none
    else do
      let expected ← sessionSignature py sessionId secret
      let given ← encoded sig
      let made ← encoded expected
      return if given = made then some sessionId else none

/-! ## Issuing -/

/-- `set_cookie` with the attributes of `_cookie_attributes`. -/
def cookieOf (config : WebAuthConfig) (samesite : CookieSameSite) (name value : Str) (maxAge : ℤ) :
    SetCookie where
  name := name
  value := value
  maxAge := maxAge
  path := str "/"
  secure := config.cookieSecure
  httponly := true
  samesite := samesite

/-- `delete_cookie` with the same attributes. -/
def deletionOf (config : WebAuthConfig) (samesite : CookieSameSite) (name : Str) : SetCookie :=
  cookieOf config samesite name [] 0

/-- `issue_session_cookies`. -/
def issueSessionCookies (py : Platform) (response : Response) (sessionId : Str)
    (config : WebAuthConfig) : Except Exn Response := do
  let value ← signSessionId py sessionId config.signingKey
  return response.setCookie (cookieOf config config.cookieSamesite config.sessionCookieName value
    config.sessionLifetime.absoluteMaxAgeSeconds)

/-- `_clear_session_cookies`. -/
def clearSessionCookies (response : Response) (config : WebAuthConfig) : Response :=
  response.setCookie (deletionOf config config.cookieSamesite config.sessionCookieName)

/-- `_clear_pending_login_cookie`. -/
def clearPendingLoginCookie (response : Response) (name : Str) (config : WebAuthConfig) : Response :=
  response.setCookie (deletionOf config .lax name)

/-! ## The pending login -/

/-- `PendingLogin`. -/
structure PendingLogin where
  state : Str
  nonce : Str
  codeVerifier : Str
  issuedAt : ℤ
  returnTo : Option Str := none
  deriving DecidableEq

/-- `_PENDING_SECRET`. -/
def isPendingSecret (s : Str) : Bool := s.length = pendingSecretChars && s.all isBase64Url

/-- `0|[1-9][0-9]{0,11}`. -/
def isIssuedAt (s : Str) : Bool :=
  s = str "0" || (s.length ≤ 12 && s.all isDigit && s.head?.any fun c => c ≠ chr '0')

/-- The last field of `_PENDING_LOGIN_VALUE`. -/
def isReturnPathField (s : Str) : Bool :=
  s.length ≤ returnPathFieldChars && s.all isBase64Url

/-- The named groups of `_PENDING_LOGIN_VALUE`. -/
structure PendingFields where
  state : Str
  nonce : Str
  codeVerifier : Str
  issuedAt : Str
  returnTo : Str
  deriving DecidableEq

/-- `_PENDING_LOGIN_VALUE.fullmatch`. No field holds a point, so the points of a match are the
separators. -/
def pendingLoginValue (payload : Str) : Option PendingFields :=
  match split (chr '.') payload with
  | [version, state, nonce, codeVerifier, issuedAt, returnTo] =>
    if version = pendingLoginVersion && isPendingSecret state && isPendingSecret nonce &&
        isPendingSecret codeVerifier && isIssuedAt issuedAt && isReturnPathField returnTo then
      some ⟨state, nonce, codeVerifier, issuedAt, returnTo⟩
    else none
  | _ => none

/-- `_encoded_return_to`. -/
def encodedReturnTo : Option Str → Except Exn Str
  | none => .ok []
  | some returnTo => (encoded returnTo).map fun bytes => stripPadding (urlsafeB64encode bytes)

/-- `_decoded_return_to`. -/
def decodedReturnTo (field : Str) : Except Exn (Option Str) :=
  if field = [] then .ok none
  else do
    let bytes ← orRaise (.valueError "Incorrect padding") (urlsafeB64decode (padded field))
    let text ← orRaise (.valueError "invalid start byte") (decode strict bytes)
    return some text

/-- `str(n)`. -/
def decimalInt (n : ℤ) : Str := if n < 0 then str "-" ++ decimal n.natAbs else decimal n.natAbs

/-- The payload `_sign_pending_login` signs. -/
def pendingLoginPayload (pending : PendingLogin) (returnTo : Str) : Str :=
  join (chr '.') [pendingLoginVersion, pending.state, pending.nonce, pending.codeVerifier,
    decimalInt pending.issuedAt, returnTo]

/-- `_sign_pending_login`. -/
def signPendingLogin (py : Platform) (pending : PendingLogin) (secret : Bytes) :
    Except Exn Str := do
  let returnTo ← encodedReturnTo pending.returnTo
  let payload := pendingLoginPayload pending returnTo
  if (pendingLoginValue payload).isNone then
    throw (.valueError "the pending login does not fit the pending-login cookie")
  let signature ← pendingLoginSignature py payload secret
  return payload ++ str "." ++ signature

/-- `_PENDING_LOGIN_SIGNATURE`. -/
def isPendingLoginSignature (s : Str) : Bool := s.length = 64 && s.all isHexDigit

/-- The pending login the fields of a value spell. -/
def PendingFields.pendingLogin (fields : PendingFields) : Except Exn PendingLogin := do
  let returnTo ← decodedReturnTo fields.returnTo
  return ⟨fields.state, fields.nonce, fields.codeVerifier, ofDecimal fields.issuedAt, returnTo⟩

/-- `_verify_pending_login`. -/
def verifyPendingLogin (py : Platform) (cookieValue : Str) (secret : Bytes) :
    Except Exn (Option PendingLogin) :=
  if maxPendingLoginCookieChars < cookieValue.length then .ok none
  else
    match rpartition (chr '.') cookieValue with
    | none => .ok none
    | some (payload, sig) =>
      match pendingLoginValue payload with
      | none => .ok none
      | some fields =>
        if !isPendingLoginSignature sig then .ok none
        else do
          let expected ← pendingLoginSignature py payload secret
          if sig = expected then return some (← fields.pendingLogin) else return none

/-- `_take_pending_login`: the answer that clears the cookie of `state`, and the pending login the
browser carried back in it. -/
def takePendingLogin (py : Platform) (scope : Scope) (response : Response) (state : Str)
    (config : WebAuthConfig) : Except Exn (Response × Option PendingLogin) := do
  let name ← pendingLoginCookieName py state config.cookieSecure
  let cleared := clearPendingLoginCookie response name config
  match cookieValues py scope name with
  | [value] => return (cleared, ← verifyPendingLogin py value config.signingKey)
  | _ => return (cleared, none)

end WebAuth
