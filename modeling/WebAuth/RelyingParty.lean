import WebAuth.Calls
import WebAuth.Cookies

/-!
# The relying party

It completes a login from the issuer's callback, renews an access by a refresh grant, reads the
groups of a refreshed ID token and verifies the tokens that others present. A refusal travels as
an exception of the module's own to the method that answers it.
-/

namespace WebAuth

open Python Effects Program

/-- `_MAX_TOKEN_RESPONSE_BYTES`. -/
def maxTokenResponseBytes : ℕ := 64 * 1024

/-- `_MAX_AUTHORIZATION_CODE_CHARS`. -/
def maxAuthorizationCodeChars : ℕ := 2048

/-- `PENDING_LOGIN_MAX_AGE_SECONDS`. -/
def pendingLoginMaxAgeSeconds : ℤ := 600

/-- `_LOGOUT_TOKEN_MAX_AGE_SECONDS`. -/
def logoutTokenMaxAgeSeconds : ℤ := 120

/-- `_BACKCHANNEL_LOGOUT_EVENT`. -/
def backchannelLogoutEvent : Str := str "http://schemas.openid.net/event/backchannel-logout"

/-- `OidcIdentity`. -/
structure OidcIdentity where
  subject : Str
  issuer : Str
  groups : List Str
  sessionId : Option Str
  preferredUsername : Option Str
  idToken : Str
  refreshToken : Option Str
  deriving DecidableEq

/-- `RenewedAccess`. -/
structure RenewedAccess where
  accessToken : Str
  refreshToken : Option Str
  deriving DecidableEq

/-- `_RefreshedGroups`. -/
structure RefreshedGroups where
  refreshToken : Option Str
  groups : Except OidcRefusal (List Str)

/-- `VerifiedAccessToken`. -/
structure VerifiedAccessToken where
  subject : Str
  groups : List Str
  preferredUsername : Option Str := none
  deriving DecidableEq

/-- A refusal for a reason alone. -/
def refusal {α : Type} (reason : OidcRefusalReason) : Except Exn α :=
  .error (.refusalError { reason })

/-- The handler of a method that answers its refusal. -/
def answeredRefusal {α : Type} : Exn → Task (Except OidcRefusal α)
  | .refusalError cause => return .error cause
  | e => throw e

/-! ## The callback's query -/

/-- `_callback_parameters`. A name that occurs twice is refused. -/
def callbackParameters (callbackQuery : Str) : Except Exn (List (Str × Str)) :=
  if (encode callbackQuery).isNone then refusal .malformedCallback
  else
    match parseQsl true strict callbackQuery with
    | none => refusal .malformedCallback
    | some pairs =>
      if (pairs.map (·.1)).Nodup then .ok pairs else refusal .malformedCallback

/-- `_callback_state`. -/
def callbackState (callbackQuery : Str) : Except OidcRefusal Str :=
  let states := (((parseQsl false surrogateEscape callbackQuery).getD []).filter fun pair =>
    pair.1 = str "state").map (·.2)
  let otherwise : Except OidcRefusal Str :=
    match callbackParameters callbackQuery with
    | .error (.refusalError cause) => .error cause
    | _ => .error { reason := .stateMismatch }
  match states with
  | [state] => if state ≠ [] && (encode state).isSome then .ok state else otherwise
  | _ => otherwise

/-- `_is_same_secret` of a received string. An expected one that does not encode raises. -/
def isSameSecret (received : Option Str) (expected : Str) : Except Exn Bool :=
  if expected = [] then .ok false
  else
    match received.bind encode with
    | none => .ok false
    | some given => do
      let made ← encoded expected
      return given = made

/-- `_idp_error_code`. -/
def idpErrorCode (error : Str) : Option Str :=
  if 1 ≤ error.length && error.length ≤ 64 &&
      error.all (fun c => isAlphaNum c || isOneOf "_.-" c) then some error else none

/-! ## The token endpoint's answers -/

/-- `_token_answer_document`. -/
def tokenAnswerDocument (py : Platform) (body : Bytes) : Dict :=
  if maxTokenResponseBytes < body.length then [] else (jsonObject py body).getD []

/-- `_REFRESH_TOKEN.fullmatch`. -/
def isRefreshToken (value : Str) : Bool := value ≠ [] && value.all fun c => c.between ' ' '~'

/-- `_ACCESS_TOKEN.fullmatch`: a b64token. -/
def isB64Token (value : Str) : Bool :=
  let body := value.rdropWhile (· = chr '=')
  body ≠ [] && body.all fun c => isAlphaNum c || isOneOf "-._~+/" c

/-- `_issued_refresh_token`. -/
def issuedRefreshToken (document : Dict) : Except Exn (Option Str) :=
  match document.get (str "refresh_token") with
  | none => .ok none
  | some (.str token) => if isRefreshToken token then .ok (some token) else refusal .tokenEndpointFailed
  | some _ => refusal .tokenEndpointFailed

/-- `_bearer_access_token`. -/
def bearerAccessToken (document : Dict) : Except Exn Str :=
  match document.get (str "token_type"), document.get (str "access_token") with
  | some (.str tokenType), some (.str accessToken) =>
    if isAscii tokenType && lowerAscii tokenType = str "bearer" && isB64Token accessToken then
      .ok accessToken
    else refusal .tokenEndpointFailed
  | _, _ => refusal .tokenEndpointFailed

/-- `_raw_id_token_of`. -/
def rawIdTokenOf (document : Dict) : Except Exn Str :=
  match document.get (str "id_token") with
  | some (.str idToken) => .ok idToken
  | _ => refusal .tokenEndpointFailed

/-- What `_token_answer` makes of an answer of the token endpoint. -/
def readTokenAnswer (py : Platform) (answer : TokenEndpointAnswer) : Except Exn Dict :=
  let document := tokenAnswerDocument py answer.body
  if answer.status = 200 then .ok document
  else
    match document.get (str "error") with
    | some (.str error) =>
      if answer.status = 400 || answer.status = 401 then
        .error (.refusalError { reason := .tokenRequestRefused, idpError := idpErrorCode error })
      else refusal .tokenEndpointFailed
    | _ => refusal .tokenEndpointFailed

/-- A token request that reached no answer refuses; every other exception passes through. -/
def unanswered : Exn → Task TokenEndpointAnswer
  | .tokenEndpointError => refusal .tokenEndpointFailed
  | e => throw e

/-- `_token_answer`. -/
def tokenAnswer (py : Platform) (request : TokenRequest) : Task Dict := do
  let answer ← tryCatch (invoke (.postTokenRequest request)) unanswered
  readTokenAnswer py answer

/-! ## Claims -/

/-- `_group_paths`: the listed groups, none when the claim is missing; `none` when it is no list
of strings. -/
def groupPaths (claims : Dict) : Option (List Str) :=
  ((claims.get (str "groups")).getD (.arr [])).strings

/-- `_optional_string_claim`. -/
def optionalStringClaim (claims : Dict) (name : Str) : Except Exn (Option Str) :=
  match claims.get name with
  | none => .ok none
  | some .null => .ok none
  | some (.str value) => .ok (some value)
  | some _ => refusal .invalidIdentityClaim

/-- `_identity_of`. -/
def identityOf (idToken : VerifiedClaims) (rawIdToken : Str) (refreshToken : Option Str) :
    Except Exn OidcIdentity :=
  match idToken.subject, groupPaths idToken.claims with
  | some subject, some groups => do
    let sessionId ← optionalStringClaim idToken.claims (str "sid")
    let preferredUsername ← optionalStringClaim idToken.claims (str "preferred_username")
    return ⟨subject, idToken.issuer, groups, sessionId, preferredUsername, rawIdToken, refreshToken⟩
  | _, _ => refusal .invalidIdentityClaim

/-- `self._wall_clock() - issued_at` at a reading of the clock: the subtraction makes the integer a
float first, which raises where none can hold it. The difference is exact here, and rounded there. -/
def ageAt (now : ℚ) (issuedAt : ℤ) : Except Exn ℚ :=
  if FitsFloat issuedAt then .ok (now - issuedAt) else .error .overflowError

namespace OidcRelyingParty

variable (py : Platform) (rp : OidcRelyingParty)

/-- `_is_authorized_party`. -/
def isAuthorizedParty (idToken : VerifiedClaims) : Bool :=
  match idToken.claims.get (str "azp") with
  | some azp => azp.isStr rp.config.clientId
  | none => idToken.audiences.length = 1

/-- `_grant_request`. -/
def grantRequest (form : List (Str × Str)) : TokenRequest where
  url := rp.config.tokenEndpoint
  form := form
  authorization := rp.clientAuthorization

/-- `_verified_id_token`. -/
def verifiedIdToken (idToken : Str) : Task VerifiedClaims := do
  match ← (verify py (rp.verifierFor rp.config.clientId) idToken .any).of rp.jwtVerifier with
  | .ok claims => return claims
  | .error reason =>
    throw (.refusalError { reason := .idTokenRejected, tokenRejection := some reason })

/-! ## A login -/

/-- `_is_unexpired`. -/
def isUnexpired (pending : PendingLogin) : Task Bool := do
  let now ← invoke .wallClock
  let ageSeconds ← ageAt now pending.issuedAt
  return 0 ≤ ageSeconds && ageSeconds ≤ pendingLoginMaxAgeSeconds

/-- The checks of `_authorization_code` after the clock: the code a callback names. -/
def namedCode (callback : List (Str × Str)) : Except Exn Str :=
  if (callback.lookup (str "iss")).getD rp.config.issuer ≠ rp.config.issuer then
    refusal .issuerMismatch
  else
    match callback.lookup (str "error") with
    | some error =>
      .error (.refusalError { reason := .authorizationDenied, idpError := idpErrorCode error })
    | none =>
      match callback.lookup (str "code") with
      | some code =>
        if code = [] || maxAuthorizationCodeChars < code.length then refusal .malformedCallback
        else .ok code
      | none => refusal .malformedCallback

/-- `_authorization_code`. -/
def authorizationCode (pending : PendingLogin) (callback : List (Str × Str)) : Task Str := do
  if !(← isSameSecret (callback.lookup (str "state")) pending.state) then
    refusal (α := Unit) .stateMismatch
  if !(← isUnexpired pending) then refusal (α := Unit) .pendingLoginExpired
  rp.namedCode callback

/-- The form `_exchanged_tokens` posts. -/
def codeGrant (pending : PendingLogin) (code : Str) : TokenRequest :=
  rp.grantRequest [(str "grant_type", str "authorization_code"), (str "code", code),
    (str "redirect_uri", rp.config.redirectUri), (str "code_verifier", pending.codeVerifier)]

/-- `_exchanged_tokens`. -/
def exchangedTokens (pending : PendingLogin) (code : Str) : Task (Str × Option Str) := do
  let document ← tokenAnswer py (rp.codeGrant pending code)
  let rawIdToken ← rawIdTokenOf document
  let refreshToken ← issuedRefreshToken document
  return (rawIdToken, refreshToken)

/-- What `_identity` asks of a verified ID token. -/
def checkedIdentity (pending : PendingLogin) (idToken : VerifiedClaims) (rawIdToken : Str)
    (refreshToken : Option Str) : Except Exn OidcIdentity := do
  if !(← isSameSecret ((idToken.claims.get (str "nonce")).bind Json.string) pending.nonce) then
    refusal .nonceMismatch
  else if !rp.isAuthorizedParty idToken then refusal .authorizedPartyMismatch
  else identityOf idToken rawIdToken refreshToken

/-- `_identity`. -/
def identity (pending : PendingLogin) (callbackQuery : Str) : Task OidcIdentity := do
  let callback ← callbackParameters callbackQuery
  let code ← rp.authorizationCode pending callback
  let (rawIdToken, refreshToken) ← rp.exchangedTokens py pending code
  let idToken ← rp.verifiedIdToken py rawIdToken
  rp.checkedIdentity pending idToken rawIdToken refreshToken

/-- `complete_login`. -/
def completeLogin (pending : PendingLogin) (callbackQuery : Str) :
    Task (Except OidcRefusal OidcIdentity) :=
  tryCatch (do return .ok (← rp.identity py pending callbackQuery)) answeredRefusal

/-! ## A refresh grant -/

/-- The form `_refresh_answer` posts. -/
def refreshGrant (refreshToken : Str) : TokenRequest :=
  rp.grantRequest [(str "grant_type", str "refresh_token"), (str "refresh_token", refreshToken)]

/-- `_refresh_answer`. -/
def refreshAnswer (refreshToken : Str) : Task Dict := do
  if !isRefreshToken refreshToken then refusal (α := Unit) .tokenEndpointFailed
  tokenAnswer py (rp.refreshGrant refreshToken)

/-- `_renewed_access`. -/
def renewedAccess (refreshToken : Str) : Task RenewedAccess := do
  let document ← rp.refreshAnswer py refreshToken
  -- the access token is read before the rotation
  let accessToken ← bearerAccessToken document
  let rotated ← issuedRefreshToken document
  return ⟨accessToken, rotated⟩

/-- `renew_access`. -/
def renewAccess (refreshToken : Str) : Task (Except OidcRefusal RenewedAccess) :=
  tryCatch (do return .ok (← rp.renewedAccess py refreshToken)) answeredRefusal

/-- What `_refreshed_id_token_groups` asks of a verified ID token. -/
def checkedGroups (idToken : VerifiedClaims) (subject : Str) (startedAt : ℤ) :
    Except Exn (List Str) :=
  if idToken.claims.has (str "nonce") then refusal .nonceMismatch
  else if !rp.isAuthorizedParty idToken then refusal .authorizedPartyMismatch
  else if idToken.subject ≠ some subject then refusal .subjectMismatch
  else if idToken.issuedAt + rp.config.leewaySeconds < startedAt then refusal .staleIdToken
  else
    match groupPaths idToken.claims with
    | none => refusal .invalidIdentityClaim
    | some groups => .ok groups

/-- `_refreshed_id_token_groups`. -/
def refreshedIdTokenGroups (document : Dict) (subject : Str) (startedAt : ℤ) :
    Task (List Str) := do
  let rawIdToken ← rawIdTokenOf document
  let idToken ← rp.verifiedIdToken py rawIdToken
  rp.checkedGroups idToken subject startedAt

/-- The grant of `_refreshed_groups`: the answer's document and its rotation. -/
def grantedRotation (refreshToken : Str) : Task (Dict × Option Str) := do
  let document ← rp.refreshAnswer py refreshToken
  let rotated ← issuedRefreshToken document
  return (document, rotated)

/-- `_refreshed_groups`. -/
def refreshedGroups (refreshToken subject : Str) : Task (Except OidcRefusal RefreshedGroups) := do
  let startedAt := truncate (← invoke .wallClock)
  let granted ← tryCatch (do return .ok (← rp.grantedRotation py refreshToken)) answeredRefusal
  match granted with
  | .error cause => return .error cause
  | .ok (document, rotated) => do
    let groups ← tryCatch
      (do return .ok (← rp.refreshedIdTokenGroups py document subject startedAt)) answeredRefusal
    return .ok ⟨rotated, groups⟩

/-! ## Tokens others present -/

/-- `_is_backchannel_logout_events`. -/
def isBackchannelLogoutEvents : Option Json → Bool
  | some (.obj [(name, .obj _)]) => name = backchannelLogoutEvent
  | _ => false

/-- `_is_logout_profile`. -/
def isLogoutProfile (token : VerifiedClaims) : Task Bool := do
  let now ← invoke .wallClock
  let ageSeconds ← ageAt now token.issuedAt
  return token.audiences = [rp.config.clientId] &&
    ageSeconds ≤ logoutTokenMaxAgeSeconds + (rp.config.leewaySeconds : ℚ) &&
    token.issuedAt < token.expiresAt && !token.claims.has (str "nonce") &&
    isBackchannelLogoutEvents (token.claims.get (str "events"))

/-- `verify_logout_token`: the subject whose sessions end. -/
def verifyLogoutToken (logoutToken : Str) : Task (Except OidcRefusal Str) := do
  match ← (verify py (rp.verifierFor rp.config.clientId) logoutToken
      (.exactly (str "logout+jwt"))).of rp.jwtVerifier with
  | .error reason =>
    return .error { reason := .logoutTokenRejected, tokenRejection := some reason }
  | .ok token => do
    if ← rp.isLogoutProfile token then
      match token.subject with
      | some subject => return .ok subject
      | none => return .error { reason := .invalidLogoutClaim }
    else return .error { reason := .invalidLogoutClaim }

end OidcRelyingParty

end WebAuth
