import WebAuth.Asgi
import WebAuth.Paths

/-!
# The security headers

Every response start carries the deployment's policy headers, and an exception before the start is
answered with a plain 500.
-/

namespace WebAuth

open Python Effects

/-! ## The policy -/

/-- `_HEADER_FIELD_VALUE.fullmatch`: visible ASCII, with space and tab only inside. -/
def isHeaderFieldValue (value : Str) : Bool :=
  let visible := fun c : CodePoint => 0x21 ≤ c.val && c.val ≤ 0x7e
  value.head?.any visible && value.getLast?.any visible &&
    value.all fun c => visible c || isOneOf " \t" c

/-- `CacheControlRule`. -/
structure CacheControlRule where
  paths : PathRules
  value : Str
  value_ok : isHeaderFieldValue value = true

/-- `SecurityHeadersPolicy`. -/
structure SecurityHeadersPolicy where
  contentSecurityPolicy : Str
  cacheControlRules : List CacheControlRule := []
  permissionsPolicy : Str := str "camera=(), microphone=(), geolocation=()"
  content_ok : isHeaderFieldValue contentSecurityPolicy = true
  permissions_ok : isHeaderFieldValue permissionsPolicy = true

/-- `SecurityHeadersPolicy.cache_control`: the first matching rule wins. -/
def SecurityHeadersPolicy.cacheControl (policy : SecurityHeadersPolicy) (path : Str) : Option Str :=
  (policy.cacheControlRules.find? fun rule => rule.paths.selects path).map (·.value)

/-! ## Headers -/

/-- The key of a header, as `MutableHeaders` compares it. -/
def headerName (name : String) : Bytes := encodeLatin1 (lowerAscii (str name))

/-- `name in headers`. -/
def hasHeader (headers : List (Bytes × Bytes)) (name : String) : Bool :=
  headers.any fun header => header.1 = headerName name

/-- `headers[name] = value`: the first header of the name is replaced and the others are deleted. -/
def setHeader (headers : List (Bytes × Bytes)) (name : String) (value : Str) :
    List (Bytes × Bytes) :=
  let item := (headerName name, encodeLatin1 value)
  if hasHeader headers name then
    headers.takeWhile (·.1 ≠ headerName name) ++ item ::
      (headers.dropWhile (·.1 ≠ headerName name)).tail.filter (·.1 ≠ headerName name)
  else headers ++ [item]

/-- `del headers[name]`. -/
def delHeader (headers : List (Bytes × Bytes)) (name : String) : List (Bytes × Bytes) :=
  headers.filter (·.1 ≠ headerName name)

/-- `_OWN_POLICY_HEADER`. -/
def ownPolicyHeader : String := "webauth-own-policy"

/-- `_apply_policy`. -/
def applyPolicy (policy : SecurityHeadersPolicy) (path : Str) (cookieSecure : Bool)
    (headers : List (Bytes × Bytes)) : List (Bytes × Bytes) :=
  let headers :=
    if hasHeader headers ownPolicyHeader then delHeader headers ownPolicyHeader
    else
      let headers := match policy.cacheControl path with
        | some value => setHeader headers "Cache-Control" value
        | none => headers
      setHeader headers "Content-Security-Policy" policy.contentSecurityPolicy
  let headers := setHeader headers "X-Content-Type-Options" (str "nosniff")
  let headers := setHeader headers "X-Frame-Options" (str "DENY")
  let headers := setHeader headers "Referrer-Policy" (str "strict-origin-when-cross-origin")
  let headers := setHeader headers "Permissions-Policy" policy.permissionsPolicy
  if cookieSecure then
    setHeader headers "Strict-Transport-Security" (str "max-age=31536000; includeSubDomains")
  else if hasHeader headers "Strict-Transport-Security" then
    delHeader headers "Strict-Transport-Security"
  else headers

/-- A message with the policy on it: only a response start carries headers. -/
def withPolicy (policy : SecurityHeadersPolicy) (path : Str) (cookieSecure : Bool)
    (message : Message) : Message :=
  if message.type = responseStart then
    { message with headers := some (applyPolicy policy path cookieSecure (message.headers.getD [])) }
  else message

/-! ## The middleware -/

/-- `send_with_policy`, with `response_started` as its state. -/
def sendWithPolicy (policy : SecurityHeadersPolicy) (path : Str) (cookieSecure : Bool) :
    Wrapper Bool Asgi Asgi Raised
  | started, .receive => receive.andThen fun answer => .ret (answer, started)
  | started, .send seconds message =>
    (send (withPolicy policy path cookieSecure message) seconds).andThen fun answer =>
      .ret (answer, started || message.type = responseStart)

/-- What answers an exception: a plain 500 before the start, and the exception goes on. A failure to
send it is a note on the exception. -/
def answerFailure (policy : SecurityHeadersPolicy) (path : Str) (cookieSecure started : Bool)
    (original : Raised) : Program Asgi Raised Unit :=
  if !original.isException || started then .raise original
  else
    (Program.served (sendWithPolicy policy path cookieSecure)
        (sendResponse 500 "text/plain; charset=utf-8" (encodeLatin1 (str "Internal Server Error")))
        started).andThen fun
      | .ok (.error failure, _) => .raise (if failure.isException then original else failure)
      | _ => .raise original

/-- `SecurityHeadersMiddleware.__call__`. -/
def securityHeaders (policy : SecurityHeadersPolicy) (app : ASGIApp) : ASGIApp := fun scope =>
  if scope.type ≠ str "http" then app scope
  else
    let path := routePath scope
    match webAuthConfig scope with
    | .error e => answerFailure policy path false false (.exception e)
    | .ok config =>
      let cookieSecure := config.value.cookieSecure
      (Program.served (sendWithPolicy policy path cookieSecure) (app scope) false).andThen fun
        | .ok (.ok (), _) => .ret ()
        | .ok (.error original, started) => answerFailure policy path cookieSecure started original
        | .error e => .raise e

end WebAuth
