import WebAuth.SignInRoutes

/-!
# Starting a login

The start route mints a pending login, clears the oldest of those the browser carries and hands
the browser the new one in a cookie of its own. The random bytes it draws are arguments. The
location header stays a text: its encoding in Latin-1, which fails for a configured endpoint outside
of it, is not modelled.
-/

namespace WebAuth

open Python Effects Program

/-! ## The pending login and the issuer's address -/

/-- `_PENDING_SECRET_BYTES`. -/
def pendingSecretBytes : ℕ := 32

/-- The random bytes of one login. -/
structure LoginDraws where
  state : Bytes
  nonce : Bytes
  codeVerifier : Bytes
  state_length : state.length = pendingSecretBytes
  nonce_length : nonce.length = pendingSecretBytes
  codeVerifier_length : codeVerifier.length = pendingSecretBytes

/-- `secrets.token_urlsafe` of the bytes it drew. -/
def tokenUrlsafe (drawn : Bytes) : Str := stripPadding (urlsafeB64encode drawn)

/-- The pending login of `begin_login` at a clock reading. -/
def LoginDraws.pendingLogin (draws : LoginDraws) (reading : ℚ) : PendingLogin where
  state := tokenUrlsafe draws.state
  nonce := tokenUrlsafe draws.nonce
  codeVerifier := tokenUrlsafe draws.codeVerifier
  issuedAt := truncate reading

/-- `_s256_code_challenge` of an ASCII verifier. -/
def s256CodeChallenge (py : Platform) (codeVerifier : Str) : Str :=
  stripPadding (urlsafeB64encode (py.sha256 (encodeLatin1 codeVerifier)))

/-- `urllib.parse.urlencode`, `none` being `UnicodeEncodeError`. -/
def urlencode (pairs : List (Str × Str)) : Option Str := do
  let parts ← pairs.mapM fun pair => do
    let name ← quotePlus pair.1
    let value ← quotePlus pair.2
    return name ++ str "=" ++ value
  return join (chr '&') parts

/-- The parameters of the authorization request. -/
def OidcRelyingParty.authorizationParameters (py : Platform) (rp : OidcRelyingParty)
    (pending : PendingLogin) : List (Str × Str) :=
  [(str "response_type", str "code"), (str "client_id", rp.config.clientId),
    (str "redirect_uri", rp.config.redirectUri), (str "scope", join (chr ' ') rp.config.scopes),
    (str "state", pending.state), (str "nonce", pending.nonce),
    (str "code_challenge", s256CodeChallenge py pending.codeVerifier),
    (str "code_challenge_method", str "S256")]

/-- `AuthorizationRequest`. -/
structure AuthorizationRequest where
  url : Str
  pending : PendingLogin

/-- `begin_login`. -/
def OidcRelyingParty.beginLogin (py : Platform) (rp : OidcRelyingParty) (draws : LoginDraws) :
    Task AuthorizationRequest := do
  let reading ← invoke .wallClock
  let pending := draws.pendingLogin reading
  let query ← orRaise (.valueError "surrogates not allowed")
    (urlencode (rp.authorizationParameters py pending))
  return ⟨rp.config.authorizationEndpoint ++ str "?" ++ query, pending⟩

/-! ## The cookies of pending logins -/

/-- `_MAX_PENDING_LOGINS`. -/
def maxPendingLogins : ℕ := 5

/-- `_UNRANKED`. -/
def unranked : ℤ := -1

/-- `_STATE_DIGEST.fullmatch`. -/
def isStateDigest (s : Str) : Bool := s.length = stateDigestHexChars && s.all isHexDigit

/-- `_is_pending_login_cookie_name`. -/
def isPendingLoginCookieName (secure : Bool) (name : Str) : Bool :=
  startsWith name (pendingLoginCookiePrefix secure) &&
    isStateDigest (name.drop (pendingLoginCookiePrefix secure).length)

section Cookies

variable (py : Platform)

/-- `_issued_at`. -/
def issuedAt (config : WebAuthConfig) (cookieValue : Str) : Except Exn ℤ := do
  match ← verifyPendingLogin py cookieValue config.signingKey with
  | none => return unranked
  | some pending => return pending.issuedAt

/-- One turn of the loop over the cookies. A dict keeps the place of a name it sets again. -/
def rankCookie (config : WebAuthConfig) (ranked : List (Str × ℤ)) (cookie : Str × Str) :
    Except Exn (List (Str × ℤ)) :=
  if isPendingLoginCookieName config.cookieSecure cookie.1 then
    if cookie.1 ∈ ranked.map (·.1) then
      return ranked.map fun entry => if entry.1 = cookie.1 then (entry.1, unranked) else entry
    else do
      let rank ← issuedAt py config cookie.2
      return ranked ++ [(cookie.1, rank)]
  else return ranked

/-- `issued_at_by_name` after the loop. -/
def issuedAtByName (config : WebAuthConfig) (cookies : List (Str × Str)) :
    Except Exn (List (Str × ℤ)) :=
  cookies.foldlM (rankCookie py config) []

/-- `_pending_login_cookies_to_evict`. -/
def pendingLoginCookiesToEvict (scope : Scope) (config : WebAuthConfig) :
    Except Exn (List Str) := do
  let ranked ← issuedAtByName py config (cookiePairs py scope)
  let oldestFirst := ranked.mergeSort fun a b => a.2 ≤ b.2
  return (oldestFirst.take (oldestFirst.length + 1 - maxPendingLogins)).map (·.1)

/-- `_issue_pending_login_cookie`. -/
def issuePendingLoginCookie (response : Response) (pending : PendingLogin) (maxAgeSeconds : ℤ)
    (config : WebAuthConfig) : Except Exn Response := do
  let name ← pendingLoginCookieName py pending.state config.cookieSecure
  let value ← signPendingLogin py pending config.signingKey
  return response.setCookie (cookieOf config .lax name value maxAgeSeconds)

/-- `_begin_pending_login`. -/
def beginPendingLogin (scope : Scope) (response : Response) (pending : PendingLogin)
    (maxAgeSeconds : ℤ) (config : WebAuthConfig) : Except Exn Response := do
  let names ← pendingLoginCookiesToEvict py scope config
  let cleared := names.foldl (clearPendingLoginCookie · · config) response
  issuePendingLoginCookie py cleared pending maxAgeSeconds config

/-! ## The route -/

/-- `_start_login`: the answer with its cookies, and the address it redirects to. -/
def startLogin (rp : OidcRelyingParty) (scope : Scope) (response : Response)
    (config : WebAuthConfig) (draws : LoginDraws) (returnTo : Option Str) :
    Task (Response × Str) := do
  let authorization ← rp.beginLogin py draws
  let pending := { authorization.pending with returnTo := sameAppPath scope returnTo }
  let answer ← beginPendingLogin py scope response pending pendingLoginMaxAgeSeconds config
  return (answer, authorization.url)

/-- `start`. -/
def SignIn.start (scope : Scope) (draws : LoginDraws) (returnTo : Option Str) : Task Response := do
  let rp ← invoke (.relyingParty scope)
  let config ← webAuthConfig scope
  let (answer, url) ← startLogin py rp scope { status := 303 } config.value draws returnTo
  return { answer with headers := [(str "location", url)] }

/-! ## A run of it -/

/-- What the route comes to at a clock reading, its location taken as Latin-1 text. -/
def startedAt (scope : Scope) (config : WebAuthConfig) (rp : OidcRelyingParty) (draws : LoginDraws)
    (reading : ℚ) (returnTo : Option Str) : Except Exn Response := do
  let query ← orRaise (.valueError "surrogates not allowed")
    (urlencode (rp.authorizationParameters py (draws.pendingLogin reading)))
  let answer ← beginPendingLogin py scope { status := 303 }
    { draws.pendingLogin reading with returnTo := sameAppPath scope returnTo }
    pendingLoginMaxAgeSeconds config
  return { answer with
    headers := [(str "location", rp.config.authorizationEndpoint ++ str "?" ++ query)] }

/-- What a run of the route asks, and what it answers. -/
inductive StartRun (scope : Scope) (draws : LoginDraws) (returnTo : Option Str) :
    List HostEvent → Except Exn Response → Prop
  | withoutParty (e : Exn) :
      StartRun scope draws returnTo [⟨.relyingParty scope, .error e⟩] (.error e)
  | withoutConfig (rp : OidcRelyingParty) (e : Exn) (h : webAuthConfig scope = .error e) :
      StartRun scope draws returnTo [⟨.relyingParty scope, .ok rp⟩] (.error e)
  | withoutClock (rp : OidcRelyingParty) (config : Ref WebAuthConfig) (e : Exn)
      (h : webAuthConfig scope = .ok config) :
      StartRun scope draws returnTo [⟨.relyingParty scope, .ok rp⟩, ⟨.wallClock, .error e⟩]
        (.error e)
  | started (rp : OidcRelyingParty) (config : Ref WebAuthConfig) (reading : ℚ)
      (h : webAuthConfig scope = .ok config) :
      StartRun scope draws returnTo [⟨.relyingParty scope, .ok rp⟩, ⟨.wallClock, .ok reading⟩]
        (startedAt py scope config.value rp draws reading returnTo)

/-- Once it has its relying party and its config, the route reads the clock and ends. -/
theorem start_reads {scope : Scope} {config : Ref WebAuthConfig} (rp : OidcRelyingParty)
    (draws : LoginDraws) (returnTo : Option Str) :
    (do
      let (answer, url) ← startLogin py rp scope { status := 303 } config.value draws returnTo
      return { answer with headers := [(str "location", url)] } : Task Response) =
    call (I := hostCalls) .wallClock fun reading =>
      done (reading.bind fun now => startedAt py scope config.value rp draws now returnTo) := by
  unfold startLogin OidcRelyingParty.beginLogin
  simp only [invoke_eq, bind_eq, call_andThen]
  congr 1
  funext reading
  cases reading with
  | error e => rfl
  | ok now =>
    simp only [done_ok, ret_andThen, onReturn_ok, liftM_eq]
    show _ = done (startedAt py scope config.value rp draws now returnTo)
    unfold startedAt
    cases hquery : urlencode (rp.authorizationParameters py (draws.pendingLogin now)) with
    | none => rfl
    | some query =>
      simp only [orRaise, done_ok, pure_eq, ret_andThen, onReturn_ok]
      change _ = done ((beginPendingLogin py scope { status := 303 }
        { draws.pendingLogin now with returnTo := sameAppPath scope returnTo }
        pendingLoginMaxAgeSeconds config.value).bind _)
      cases beginPendingLogin py scope { status := 303 }
          { draws.pendingLogin now with returnTo := sameAppPath scope returnTo }
          pendingLoginMaxAgeSeconds config.value with
      | error e => rfl
      | ok answer => rfl

theorem start_path {scope : Scope} {draws : LoginDraws} {returnTo : Option Str}
    {es : List HostEvent} {r : Except Exn Response}
    (h : Path (SignIn.start py scope draws returnTo) es r) :
    StartRun py scope draws returnTo es r := by
  obtain ⟨party, rest, rfl, h⟩ := h
  cases party with
  | error e =>
    obtain ⟨rfl, rfl⟩ := h
    exact .withoutParty e
  | ok rp =>
    simp only [done_ok, ret_andThen, onReturn_ok, liftM_eq] at h
    cases hconfig : webAuthConfig scope with
    | error e =>
      rw [hconfig] at h
      obtain ⟨rfl, rfl⟩ := h
      exact .withoutConfig rp e hconfig
    | ok config =>
      rw [hconfig] at h
      replace h : Path (call (I := hostCalls) .wallClock fun reading =>
        done (reading.bind fun now => startedAt py scope config.value rp draws now returnTo)) rest r := by
        rw [← start_reads]
        exact h
      obtain ⟨reading, rest, rfl, h⟩ := h
      obtain ⟨rfl, rfl⟩ := path_done.1 h
      cases reading with
      | error e => exact .withoutClock rp config e hconfig
      | ok now => exact .started rp config now hconfig

end Cookies

end WebAuth
