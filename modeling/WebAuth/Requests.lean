import WebAuth.Config
import WebAuth.Ports
import WebAuth.Platform

/-!
# Requests and answers

A scope as the server hands it to the application: what the client sent, and the three keys the
library writes itself. Another value under one of those keys reads as none.
-/

namespace WebAuth

open Python

/-- `ConnectionRefusal`. -/
inductive ConnectionRefusal where
  | noSession
  | invalidSession
  | sessionEndedOrExpired
  | missingOrigin
  | foreignOrigin
  deriving DecidableEq

/-- An account, or why there is none. -/
abbrev SessionDecision := Except ConnectionRefusal AuthenticatedUser

/-- `_GateAdmission`: what the session gate decided, and what it was decided from. -/
structure GateAdmission where
  config : Ref WebAuthConfig
  cookieReading : Except ConnectionRefusal Str
  admission : Option SessionDecision

/-- Whom a bearer token speaks for. -/
inductive Principal where
  | machine (caller : BearerCaller)
  | person (account : AuthenticatedUser)
  deriving DecidableEq

/-- The account of a person. -/
def Principal.account : Principal → Option AuthenticatedUser
  | person account => some account
  | machine _ => none

/-- `_BearerAdmission`: what the bearer gate admitted, and for which request. -/
structure BearerAdmission where
  app : App
  path : Str
  authorizationDigest : Bytes
  principal : Principal
  resourceMethod : Option Str := none

/-- `is_resource_admission`. -/
def BearerAdmission.isResourceAdmission (record : BearerAdmission) : Bool :=
  record.resourceMethod.isSome

/-- A connection's scope. `urlQuery` is what `request.url.query` reads, `none` being a query that
does not decode; `queryParams` is `request.query_params`. -/
structure Scope where
  type : Str
  app : Option App
  method : Option Str
  path : Str
  rawPath : Option Bytes
  rootPath : Str
  queryString : Bytes
  urlQuery : Option Str
  queryParams : List (Str × Str)
  headers : List (Bytes × Bytes)
  bearerGate : Option BearerAdmission := none
  personPath : Bool := false
  sessionGate : Option GateAdmission := none

/-- `headers.getlist(name)` for a name in lower case. -/
def Scope.getlist (scope : Scope) (name : Str) : List Str :=
  (scope.headers.filter fun header => header.1 = encodeLatin1 name).map fun header =>
    decodeLatin1 header.2

/-- `headers.get(name)`. -/
def Scope.header (scope : Scope) (name : Str) : Option Str := (scope.getlist name).head?

/-- `request.method`. -/
def Scope.requestMethod (scope : Scope) : Except Exn Str :=
  orRaise (.keyError "method") scope.method

/-- `request.url.query`. -/
def Scope.requestUrlQuery (scope : Scope) : Except Exn Str :=
  orRaise (.valueError "the query does not decode") scope.urlQuery

/-- `installed_web_auth_config`. -/
def installedWebAuthConfig (app : App) : Except Exn (Ref WebAuthConfig) :=
  orRaise (.runtimeError ("This application serves auth-protected requests without a " ++
    "WebAuthConfig: call install_web_auth_config() while it starts up.")) app.webauth

/-- `web_auth_config`. -/
def webAuthConfig (scope : Scope) : Except Exn (Ref WebAuthConfig) := do
  let app ← orRaise (.keyError "app") scope.app
  installedWebAuthConfig app

/-! ## Answers -/

/-- A `Set-Cookie` header. A cookie is taken back by an empty value that expires at once. -/
structure SetCookie where
  name : Str
  value : Str
  maxAge : ℤ
  path : Str
  secure : Bool
  httponly : Bool
  samesite : CookieSameSite
  deriving DecidableEq

/-- `EndSessionForm`. -/
structure EndSessionForm where
  endSessionEndpoint : Str
  clientId : Str
  postLogoutRedirectUri : Str
  idTokenHint : Option Str
  deriving DecidableEq

/-- The content of an answer: nothing, a text, a JSON object with one `detail`, or the page that
ends the issuer's session. -/
inductive Content where
  | empty
  | text (text : Str)
  | detail (detail : Str)
  | endSessionPage (form : EndSessionForm) (language buttonLabel : Str)
  deriving DecidableEq

/-- A response, before it is sent. -/
structure Response where
  status : ℕ := 200
  content : Content := .empty
  headers : List (Str × Str) := []
  cookies : List SetCookie := []
  deriving DecidableEq

/-- `response.set_cookie` and `response.delete_cookie`. -/
def Response.setCookie (response : Response) (cookie : SetCookie) : Response :=
  { response with cookies := response.cookies ++ [cookie] }

end WebAuth
