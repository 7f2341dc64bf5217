import WebAuth.Dependencies
import WebAuth.OidcLogin

/-!
# The sign-in routes

The callback completes a login and opens a session, the logout ends the session a cookie names, and
the back-channel logout ends every session of the subject the issuer names. The host's hooks answer
every refusal.
-/

namespace WebAuth

open Python Effects Program

/-- `_SignIn`: the options of the routes; `relying_party` and `refused` are calls. -/
structure SignIn where
  admission : AdmissionConfig
  options : SignInOptions

/-- `_RouteAnswer`: `outcome` with the cookies of `carrier`, and what is sent when it fails. -/
structure RouteAnswer where
  carrier : Response
  outcome : Except Exn Response
  failureAnswer : Response

/-- What a route answers. -/
inductive Routed where
  | response (response : Response)
  | answer (answer : RouteAnswer)

/-- `_plain_server_error`. -/
def plainServerError : Response := { status := 500, content := .text (str "Internal Server Error") }

/-- `_empty_bad_request`. -/
def emptyBadRequest : Response := { status := 400 }

/-- `_app_root`. -/
def appRoot (scope : Scope) : Str := scope.rootPath.rdropWhile (· = chr '/') ++ str "/"

/-- The characters `RedirectResponse` leaves in an address. -/
def isRedirectSafe (c : CodePoint) : Bool := isOneOf ":/%#?=@[]!$&'()*+,;" c

/-- `RedirectResponse(url, status_code=303)`. -/
def redirectResponse (url : Str) : Except Exn Response := do
  let location ← orRaise (.valueError "surrogates not allowed") (quote isRedirectSafe url)
  return { status := 303, headers := [(str "location", location)] }

namespace SignIn

variable (py : Platform) (routes : SignIn)

/-- `_refuse`. -/
def refuse (scope : Scope) (cause : SignInCause) : Task Response := invoke (.refused scope cause)

/-- `_write`. -/
def write (config : WebAuthConfig) (admitted : AdmittedLogin) (replacedSessionId : Option Str) :
    Task Str :=
  within .signIn (writeSignIn py config routes.options admitted replacedSessionId)

/-- A taken username is an answer of `_write`; every other exception passes through. -/
def writeRefusal : Exn → Task (Option Str)
  | .usernameTakenSignal => return none
  | e => throw e

/-- The answer to a sign-in whose session is open. -/
def signedIn (scope : Scope) (config : WebAuthConfig) (pending : PendingLogin) (sessionId : Str) :
    Except Exn Response := do
  let answer ← redirectResponse ((sameAppPath scope pending.returnTo).getD (appRoot scope))
  issueSessionCookies py answer sessionId config

/-- The part of `_answer` from an identity on. -/
def admitIdentity (scope : Scope) (config : WebAuthConfig) (pending : PendingLogin)
    (identity : OidcIdentity) : Task Response :=
  match decideAdmission identity routes.admission with
  | .error cause => refuse scope (.admission cause)
  | .ok admitted => do
    let replacedSessionId ← sessionIdFromRequest py scope config
    let written ← tryCatch
      (do return some (← routes.write py config admitted replacedSessionId)) writeRefusal
    match written with
    | none => refuse scope (.admission .usernameTaken)
    | some sessionId => signedIn py scope config pending sessionId

/-- `_answer`. -/
def answer (scope : Scope) (config : WebAuthConfig) : Option PendingLogin → Task Response
  | none => refuse scope (.oidc { reason := .stateMismatch })
  | some pending => do
    let rp ← invoke (.relyingParty scope)
    let query ← scope.requestUrlQuery
    match ← rp.completeLogin py pending query with
    | .error cause => refuse scope (.oidc cause)
    | .ok identity => routes.admitIdentity py scope config pending identity

/-- `callback`. -/
def callback (scope : Scope) : Task Routed := do
  let config ← webAuthConfig scope
  let query ← scope.requestUrlQuery
  match callbackState query with
  | .error cause => return .response (← refuse scope (.oidc cause))
  | .ok state => do
    let (carrier, pending) ← takePendingLogin py scope {} state config.value
    (routes.answer py scope config.value pending).andThen fun outcome =>
      return .answer ⟨carrier, outcome, plainServerError⟩

/-! ## Logouts -/

/-- The end of the session a request's cookie names. -/
def endNamedSession : Option Str → Task (Option Str)
  | none => return none
  | some sessionId => within .signIn (idTokenOfEndedSession sessionId)

/-- `_log_out`. -/
def logOut (rp : OidcRelyingParty) (scope : Scope) (config : WebAuthConfig)
    (text : LogoutPageText) : Task Response := do
  let sessionId ← sessionIdFromRequest py scope config
  let idToken ← endNamedSession sessionId
  let form : EndSessionForm := ⟨rp.config.endSessionEndpoint, rp.config.clientId,
    rp.config.postLogoutRedirectUri, idToken⟩
  let page : Response :=
    { content := .endSessionPage form text.language text.buttonLabel
      headers := [(str "Cache-Control", str "no-store")] }
  return clearSessionCookies page config

/-- `logout`. -/
def logout (scope : Scope) : Task Routed :=
  (do
    let text ← invoke (.pageText scope)
    let rp ← invoke (.relyingParty scope)
    let config ← webAuthConfig scope
    logOut py rp scope config.value text : Task Response).andThen fun
  | .ok response => return .response response
  | .error e => return .answer ⟨{}, .error e, plainServerError⟩

/-- `backchannel_logout`. -/
def backchannelLogout (scope : Scope) : Task Routed := do
  let formBody ← invoke .requestBody
  (do
    let rp ← invoke (.relyingParty scope)
    receiveBackchannelLogout py rp formBody (scope.header (str "content-type")) : Task Bool).andThen
      fun
      | .ok true => return .response {}
      | .ok false => return .response emptyBadRequest
      | .error e => return .answer ⟨{}, .error e, emptyBadRequest⟩

end SignIn

end WebAuth
