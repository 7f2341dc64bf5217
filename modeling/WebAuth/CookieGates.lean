import WebAuth.PolicyHeaders

/-!
# The gates of a cookie

The check of a request's origin, the session gate, and the stack they are installed in: every layer
of it refuses a request or hands it on.
-/

namespace WebAuth

open Python Effects Program

variable (py : Platform)

/-! ## The origin of a request -/

/-- `origin_is_allowed`. -/
def originIsAllowed (origin : Str) (config : WebAuthConfig) : Bool :=
  match py.urlparse origin with
  | none => false
  | some parsed =>
    match parsed.hostname with
    | none => false
    | some [] => false
    | some (c :: rest) =>
      if parsed.username.isSome || parsed.password.isSome then false
      else if config.cookieSecure && parsed.scheme ≠ str "https" then false
      else
        let hostname := if (c :: rest).contains (chr ':') then str "[" ++ c :: rest ++ str "]"
          else c :: rest
        let hostAndPort := (parsed.port.map fun port => hostname ++ str ":" ++ decimal port).getD
          hostname
        config.allowedHostsExact.contains hostAndPort || config.allowedHostsExact.contains hostname

/-- `OriginVerdict`. -/
inductive OriginVerdict where
  | absent
  | allowed
  | foreign
  deriving DecidableEq

/-- `origin_verdict`: a repeated header is foreign. -/
def originVerdict (scope : Scope) (config : WebAuthConfig) : OriginVerdict :=
  match scope.getlist (str "origin") with
  | [] => .absent
  | [origin] => if originIsAllowed py origin config then .allowed else .foreign
  | _ => .foreign

/-- `_MUTATING_METHODS`. -/
def mutatingMethods : List Str := [str "POST", str "PUT", str "PATCH", str "DELETE"]

/-- `_sec_fetch_site_allows`; `none` leaves the decision to the allowlist. -/
def secFetchSiteAllows (fetchSite : Str) : Option Bool :=
  if fetchSite = str "same-origin" then some true
  else if fetchSite = str "same-site" then none
  else some false

/-- A JSON answer 403 with a detail. -/
def forbidden (detail : String) : Response := { status := 403, content := .detail (str detail) }

/-- `_cross_origin_rejection`. -/
def crossOriginRejection : Response := forbidden "Cross-origin request rejected"

/-- `_origin_check_refusal`. -/
def originCheckRefusal (scope : Scope) : Except Exn (Option Response) :=
  match (scope.header (str "sec-fetch-site")).bind secFetchSiteAllows with
  | some true => .ok none
  | some false => .ok (some crossOriginRejection)
  | none => do
    let config ← webAuthConfig scope
    match originVerdict py scope config.value with
    | .absent => return some (forbidden "Missing Origin header")
    | .foreign => return some crossOriginRejection
    | .allowed => return none

/-- `CsrfOriginMiddleware._refusal`. -/
def csrfOriginRefusal (policy : CsrfPolicy) (scope : Scope) : Except Exn (Option Response) := do
  let method ← scope.requestMethod
  if mutatingMethods.contains method && policy.requiresSameOrigin (routePath scope) &&
      (bearerAdmission py scope).isNone then
    originCheckRefusal py scope
  else return none

/-! ## The session gate -/

/-- `SessionGate`. Its transaction is the host's for sessions. -/
structure SessionGate where
  loginRedirect : Option LoginRedirect
  publicRules : List PublicRule
  optionalPaths : PathRules := {}

namespace SessionGate

variable (gate : SessionGate)

/-- `_is_public`. -/
def isPublic (routedPath method : Str) : Bool :=
  !hasDotSegment routedPath && gate.publicRules.any fun rule => rule.appliesTo py routedPath method

/-- `_is_optional`. -/
def isOptional (routedPath : Str) : Bool :=
  !hasDotSegment routedPath && gate.optionalPaths.selects routedPath

/-- `_refused_or_passed`. -/
def refusedOrPassed (scope : Scope) (config : Ref WebAuthConfig)
    (reading : Except ConnectionRefusal Str) (admission : SessionDecision) (optional : Bool) :
    Except Exn GateResult :=
  match admission, optional with
  | .error cause, false => do
    let response ← refusalResponse py scope cause gate.loginRedirect
    return ⟨some response, scope⟩
  | _, _ => .ok ⟨none, recordGateAdmission scope ⟨config, reading, some admission⟩⟩

/-- `_admit`. -/
def admitWithin (sessionId : Str) (config : WebAuthConfig) : Task SessionDecision :=
  within .session (admitSession config sessionId)

/-- `SessionGateMiddleware._refusal`. -/
def refusal (scope : Scope) : Task GateResult :=
  if (bearerAdmission py scope).isSome then return ⟨none, scope⟩
  else do
    let config ← webAuthConfig scope
    let reading ← readSessionCookie py scope config.value
    let method ← scope.requestMethod
    if gate.isPublic py (routePath scope) method then
      return ⟨none, recordGateAdmission scope ⟨config, reading, none⟩⟩
    else
      let optional := gate.isOptional (routePath scope)
      match reading with
      | .error cause => gate.refusedOrPassed py scope config reading (.error cause) optional
      | .ok sessionId => do
        let admission ← admitWithin sessionId config.value
        gate.refusedOrPassed py scope config reading admission optional

end SessionGate

/-! ## The stack -/

/-- What `_library_middleware` is given. The rate limit's verdict on a request is taken as it is. -/
structure LibraryPolicies where
  securityHeaders : SecurityHeadersPolicy
  bodySize : Option BodySizePolicy
  rateLimit : Option (Scope → Except Exn (Option Response))
  bearerGate : Option BearerGateMiddleware
  csrfOrigin : CsrfPolicy
  sessionGate : Option SessionGate

/-- An entry of the stack. -/
inductive Layer where
  | securityHeaders (policy : SecurityHeadersPolicy)
  | bodySizeLimit (policy : BodySizePolicy)
  | ipRateLimit (verdict : Scope → Except Exn (Option Response))
  | bearerGate (gate : BearerGateMiddleware)
  | csrfOrigin (policy : CsrfPolicy)
  | sessionGate (gate : SessionGate)

/-- `_too_large`. -/
def tooLargeResponse : Response :=
  { status := 413, content := .detail (str "Request body too large") }

/-- What a layer makes of a request before the rest of the stack sees it. The security headers work
on answers alone, and a body of no declared length is counted as it is read. -/
def Layer.refusal : Layer → Scope → Task GateResult
  | securityHeaders _, scope => return ⟨none, scope⟩
  | bodySizeLimit policy, scope =>
    let limit := policy.maxBytes py (routePath scope) (scope.method.getD [])
    return ⟨if declaresOver py scope limit then some tooLargeResponse else none, scope⟩
  | ipRateLimit verdict, scope => do
    let refused ← verdict scope
    return ⟨refused, scope⟩
  | bearerGate gate, scope => gate.refusal py scope
  | csrfOrigin policy, scope => do
    let refused ← csrfOriginRefusal py policy scope
    return ⟨refused, scope⟩
  | sessionGate gate, scope => gate.refusal py scope

/-- A layer around an application, as `RefusalMiddleware.__call__` is one. -/
def Layer.wrap (layer : Layer) (app : Scope → Task (Option Response)) (scope : Scope) :
    Task (Option Response) :=
  if scope.type = str "http" then do
    let result ← layer.refusal py scope
    match result.refusal with
    | some response => return some response
    | none => app result.scope
  else app scope

/-- `_library_middleware`, outermost first, each entry as the layer it is of a request. -/
def LibraryPolicies.layers (policies : LibraryPolicies) : List Layer :=
  let securityHeaders := policies.bearerGate.elim policies.securityHeaders fun gate =>
    withNoStore policies.securityHeaders gate.policy
  .securityHeaders securityHeaders :: ((policies.bodySize.map .bodySizeLimit).toList ++
    (policies.rateLimit.map .ipRateLimit).toList ++ (policies.bearerGate.map .bearerGate).toList ++
    [.csrfOrigin policies.csrfOrigin] ++ (policies.sessionGate.map .sessionGate).toList)

/-- The host's application. -/
def hostApp (scope : Scope) : Task (Option Response) := do
  invoke (.enterApp scope)
  return none

/-- The stack around the host's application: the answer of the layer that refuses a request, or none
once the application has run. -/
def LibraryPolicies.serve (policies : LibraryPolicies) (scope : Scope) : Task (Option Response) :=
  policies.layers.foldr (fun layer app => layer.wrap py app) hostApp scope

end WebAuth
