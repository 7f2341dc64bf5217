import WebAuth.Admit
import WebAuth.Cookies
import WebAuth.Paths

/-!
# Who a request speaks for

The readers of the session cookie and of the two records the gates leave in the scope, and the
dependencies a route reads its account by.
-/

namespace WebAuth

open Python Effects Program

variable (py : Platform)

/-- `LoginRedirect`, with the check of its constructor. -/
structure LoginRedirect where
  path : Str
  redirectQueryParam : Str
  path_ok : startsWith path (str "/") = true ∧ readsAsAnotherHost path = false

/-! ## The session cookie -/

/-- `_read_session_cookie`: the id the one signed cookie names. -/
def readSessionCookie (scope : Scope) (config : WebAuthConfig) :
    Except Exn (Except ConnectionRefusal Str) :=
  match cookieValues py scope config.sessionCookieName with
  | [] => .ok (.error .noSession)
  | [value] =>
    if value = [] || maxSessionCookieChars < value.length then .ok (.error .noSession)
    else do
      match ← verifySessionCookie py value config.signingKey with
      | none => return .error .invalidSession
      | some sessionId => return .ok sessionId
  | _ => .ok (.error .invalidSession)

/-- `session_id_from_request`. -/
def sessionIdFromRequest (scope : Scope) (config : WebAuthConfig) : Except Exn (Option Str) :=
  if scope.bearerGate.isSome then .ok none
  else do
    match ← readSessionCookie py scope config with
    | .error _ => return none
    | .ok sessionId => return some sessionId

/-- `_resolve_session`. -/
def resolveSession (scope : Scope) : Task SessionDecision := do
  let config ← webAuthConfig scope
  match ← readSessionCookie py scope config.value with
  | .error cause => return .error cause
  | .ok sessionId => admitSession config.value sessionId

/-! ## The gates' records -/

/-- `_record_gate_admission`. -/
def recordGateAdmission (scope : Scope) (record : GateAdmission) : Scope :=
  { scope with sessionGate := some record }

/-- `_gate_admission`: the gate's decision, only when it was made for this very request. -/
def gateAdmission (scope : Scope) : Except Exn (Option GateAdmission) :=
  match scope.sessionGate with
  | none => .ok none
  | some record => do
    let config ← webAuthConfig scope
    if !record.config.same config then return none
    let reading ← readSessionCookie py scope record.config.value
    return if record.cookieReading = reading then some record else none

/-- `_authorization_digest`. Every header value is decoded from Latin-1, so it encodes again. -/
def authorizationDigest (authorization : Str) : Bytes := py.sha256 (encodeLatin1 authorization)

/-- `_record_bearer_admission`. -/
def recordBearerAdmission (scope : Scope) (principal : Principal)
    (resourceMethod : Option Str := none) : Except Exn Scope :=
  match scope.getlist (str "authorization") with
  | [authorization] => do
    let app ← orRaise (.keyError "app") scope.app
    let digest := authorizationDigest py authorization
    return { scope with bearerGate := some ⟨app, scope.path, digest, principal, resourceMethod⟩ }
  | _ => .error (.valueError "not enough values to unpack (expected 1)")

/-- Whether a record was made for this very request: the same app, the same path, the one
`Authorization` line admitted, and for a resource admission the same method. -/
def recordHoldsFor (record : BearerAdmission) (scope : Scope) : Bool :=
  (scope.app.any fun app => app.ref = record.app.ref) && record.path = scope.path &&
    (!record.isResourceAdmission || record.resourceMethod = scope.method) &&
    match scope.getlist (str "authorization") with
    | [authorization] => record.authorizationDigest = authorizationDigest py authorization
    | _ => false

/-- `_bearer_admission`: the strict reader. -/
def bearerAdmission (scope : Scope) : Option BearerAdmission :=
  scope.bearerGate.filter fun record => recordHoldsFor py record scope

/-- `_is_bearer_admitted`: the loose reader. -/
def isBearerAdmitted (scope : Scope) : Bool := scope.bearerGate.isSome

/-- `_is_person_admitted`. -/
def isPersonAdmitted (scope : Scope) : Bool :=
  scope.bearerGate.any fun record => record.principal.account.isSome

/-- `_admitted_token_person`. -/
def admittedTokenPerson (scope : Scope) : Option AuthenticatedUser :=
  (bearerAdmission py scope).bind fun record => record.principal.account

/-- What `_raise_for_bearer_admission` raises. -/
def noSessionReader : Exn :=
  .runtimeError ("A bearer-admitted request has no session reader here: a machine route takes " ++
    "Depends(bearer_caller), and a person path's or a resource's account is read only on the " ++
    "request the gate admitted it for, not in a sub-app or after the Authorization header or, at a " ++
    "resource, the method changed.")

/-- `_raise_for_bearer_admission`. -/
def raiseForBearerAdmission (scope : Scope) : Except Exn Unit :=
  if isBearerAdmitted scope then .error noSessionReader else .ok ()

/-! ## Refusals -/

/-- `_asked_for_address`. -/
def askedForAddress (scope : Scope) : Except Exn Str := do
  let address ← orRaise (.valueError "surrogates not allowed") (requestedAddress scope)
  return (sameAppPath scope (some address)).getD (str "/")

/-- `_unauthenticated_without_redirect`. -/
def unauthenticatedWithoutRedirect (scope : Scope) (detail : Str) : Exn :=
  .httpException 401 detail
    (if scope.personPath then [(str "WWW-Authenticate", str "Bearer realm=\"api\"")] else [])

/-- `_unauthenticated`: the exception that refuses, a login redirect for a browser. -/
def unauthenticated (scope : Scope) (detail : Str) (loginRedirect : Option LoginRedirect) :
    Except Exn Exn :=
  match loginRedirect with
  | some redirect =>
    if prefersHtml py scope then do
      let address ← askedForAddress scope
      let name ← orRaise (.valueError "surrogates not allowed") (quotePlus redirect.redirectQueryParam)
      let value ← orRaise (.valueError "surrogates not allowed") (quotePlus address)
      return .httpException 302 (str "Found")
        [(str "Location", redirect.path ++ str "?" ++ name ++ str "=" ++ value)]
    else .ok (unauthenticatedWithoutRedirect scope detail)
  | none => .ok (unauthenticatedWithoutRedirect scope detail)

/-- `_HTTP_DETAIL_OF_SESSION_REFUSAL`. -/
def detailOfSessionRefusal : ConnectionRefusal → Except Exn Str
  | .noSession => .ok (str "Authentication required")
  | .invalidSession => .ok (str "Invalid session")
  | .sessionEndedOrExpired => .ok (str "Session expired")
  | _ => .error (.keyError "ConnectionRefusal")

/-- `_http_refusal`. -/
def httpRefusal (scope : Scope) (cause : ConnectionRefusal)
    (loginRedirect : Option LoginRedirect) : Except Exn Exn := do
  let detail ← detailOfSessionRefusal cause
  unauthenticated py scope detail loginRedirect

/-- `_refusal_response`: the same refusal as a response. -/
def refusalResponse (scope : Scope) (cause : ConnectionRefusal)
    (loginRedirect : Option LoginRedirect) : Except Exn Response := do
  match ← httpRefusal py scope cause loginRedirect with
  | .httpException status detail headers => return { status, content := .detail detail, headers }
  | e => throw e

/-! ## The readers of a route -/

/-- `_require_admin`. -/
def requireAdmin (scope : Scope) (user : AuthenticatedUser) : Except Exn AuthenticatedUser :=
  if user.role ≠ str "admin" then
    let isPersonPathToken := (bearerAdmission py scope).any fun admission =>
      !admission.isResourceAdmission && admission.principal.account.isSome
    .error (.httpException 403 (str "Admin access required")
      (if isPersonPathToken then
        [(str "WWW-Authenticate", str "Bearer error=\"insufficient_scope\"")] else []))
  else .ok user

/-- `_gate_or_own_admission`. -/
def gateOrOwnAdmission (scope : Scope) : Task SessionDecision :=
  match admittedTokenPerson py scope with
  | some person => return .ok person
  | none => do
    raiseForBearerAdmission scope
    match (← gateAdmission py scope).bind (·.admission) with
    | some admission => return admission
    | none => resolveSession py scope

/-- `current_user` of `current_user_dependency`. -/
def currentUser (loginRedirect : Option LoginRedirect) (scope : Scope) :
    Task AuthenticatedUser := do
  match ← gateOrOwnAdmission py scope with
  | .error cause => do
    let e ← httpRefusal py scope cause loginRedirect
    throw e
  | .ok user => do
    invoke (.onAuthenticated user)
    return user

/-- `admin_user` of `current_user_dependency`. -/
def adminUser (loginRedirect : Option LoginRedirect) (scope : Scope) : Task AuthenticatedUser := do
  let user ← currentUser py loginRedirect scope
  requireAdmin py scope user

/-- What `admitted_user` raises when no gate decided the request. -/
def noGateDecision : Exn :=
  .runtimeError ("The session gate made no decision for this request: install it with " ++
    "install_web_auth_middleware(session_gate=...) on the app that serves the route.")

/-- The account of the gate's decision. -/
def GateAdmission.account (decided : GateAdmission) : Option AuthenticatedUser :=
  match decided.admission with
  | some (.ok user) => some user
  | _ => none

/-- `admitted_user`. -/
def admittedUser (scope : Scope) : Except Exn (Option AuthenticatedUser) :=
  match admittedTokenPerson py scope with
  | some person => .ok (some person)
  | none => do
    if isPersonAdmitted scope then raiseForBearerAdmission scope
    if isBearerAdmitted scope then return none
    match ← gateAdmission py scope with
    | none => throw noGateDecision
    | some decided => return decided.account

/-- `admitted_admin`. -/
def admittedAdmin (scope : Scope) : Except Exn AuthenticatedUser :=
  match admittedTokenPerson py scope with
  | some person => requireAdmin py scope person
  | none => do
    raiseForBearerAdmission scope
    match ← admittedUser py scope with
    | none => throw (unauthenticatedWithoutRedirect scope (str "Authentication required"))
    | some user => requireAdmin py scope user

/-- `bearer_caller`. -/
def bearerCaller (scope : Scope) : Except Exn BearerCaller :=
  match (bearerAdmission py scope).map BearerAdmission.principal with
  | some (.machine caller) => .ok caller
  | _ => .error (.runtimeError ("The bearer gate admitted no caller for this request: install it " ++
    "with install_web_auth_middleware(bearer_gate=...) on the app that serves the route, and " ++
    "select the route's path as a machine path."))

/-- `resource_person`. -/
def resourcePerson (scope : Scope) : Except Exn AuthenticatedUser :=
  match (bearerAdmission py scope).bind fun admission =>
      if admission.isResourceAdmission then admission.principal.account else none with
  | some person => .ok person
  | none => .error (.runtimeError ("The bearer gate admitted no resource person for this request: " ++
    "install it with install_web_auth_middleware(bearer_gate=...) on the app that serves the " ++
    "route, and read the person on the resource's entry point or marked route itself."))

end WebAuth
