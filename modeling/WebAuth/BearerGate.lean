import WebAuth.Dependencies
import WebAuth.Python.Url
import WebAuth.TokenHolders

/-!
# The bearer gate

The issuer's access token alone opens the host's machine paths, on its person paths it is the
account behind it, and at a protected resource's entry point and marked routes a known account that
is capped. The gate decides before the application runs: it answers a refusal, or hands the request
on with what it recorded.
-/

namespace WebAuth

open Python Effects Program

/-! ## The kinds of paths -/

/-- Rules that are `PathRules()` name no path. -/
def PathRules.NameSome (rules : PathRules) : Prop :=
  rules.exact ≠ [] ∨ rules.prefixes ≠ [] ∨ rules.shapes ≠ [] ∨ rules.patterns ≠ []

/-- `MachinePaths`. -/
structure MachinePaths where
  paths : PathRules
  authorizedParties : AuthorizedParties
  paths_nameSome : paths.NameSome

/-- `PersonPaths`. Its transaction is the host's for sign-ins. -/
structure PersonPaths where
  paths : PathRules
  authorizedParties : AuthorizedParties
  paths_nameSome : paths.NameSome

/-- A character of `_LITERAL_SEGMENT`, an unreserved one. -/
def isUnreserved (c : CodePoint) : Bool := isAlphaNum c || isOneOf "._~-" c

/-- `_DOT_SEGMENTS`. -/
def plainDotSegments : List Str := [str ".", str ".."]

/-- `_PARAMETER_SEGMENT.fullmatch`. -/
def isParameterSegment (segment : Str) : Bool :=
  match segment with
  | [] => false
  | opening :: rest =>
    let name := rest.dropLast
    opening = chr '{' && rest.getLast? = some (chr '}') &&
      (name.head?.any fun c => c.between 'A' 'Z' || c.between 'a' 'z' || c = chr '_') &&
      name.all fun c => isAlphaNum c || c = chr '_'

/-- `_is_template_segment`. -/
def isTemplateSegment (segment : Str) : Bool :=
  isParameterSegment segment ||
    (segment ≠ [] && segment.all isUnreserved && !plainDotSegments.contains segment)

/-- `_is_route_template`. -/
def isRouteTemplate (template : Str) : Bool :=
  match split (chr '/') template with
  | first :: segments => first = [] && segments ≠ [] && segments.all isTemplateSegment
  | [] => false

/-- `_METHOD_TOKEN.fullmatch`. -/
def isMethodToken (method : Str) : Bool :=
  method ≠ [] && method.all fun c => c.between 'A' 'Z' || isDigit c || isOneOf "!#$%&'*+-.^_`|~" c

/-- `MarkedRoute`. -/
structure MarkedRoute where
  method : Str
  template : Str
  method_isToken : isMethodToken method = true
  template_isTemplate : isRouteTemplate template = true

/-- `MarkedRoute.matches`. -/
def MarkedRoute.selects (route : MarkedRoute) (method path : Str) : Bool :=
  if method ≠ route.method || !startsWith path (str "/") then false
  else
    let templateSegments := (split (chr '/') route.template).tail
    let segments := (split (chr '/') path).tail
    segments.length = templateSegments.length &&
      (segments.zip templateSegments).all fun (segment, templateSegment) =>
        if isParameterSegment templateSegment then !([] :: plainDotSegments).contains segment
        else segment = templateSegment

/-! ## The protected resource -/

/-- `is_https_url`. -/
def isHttpsUrl (url : Str) : Bool :=
  let parts := urlsplit url
  url.all (fun c => 0x20 < c.val && !(0x7f ≤ c.val && c.val ≤ 0x9f)) && parts.isWellFormed &&
    parts.scheme = str "https" && parts.hostinfo.1 ≠ [] && !parts.netloc.contains (chr '@')

/-- `_is_endpoint_url`. -/
def isEndpointUrl (url : Str) : Bool :=
  isHttpsUrl url && !url.contains (chr '?') && !url.contains (chr '#')

/-- A port after a host, or nothing. -/
def isPortSuffix : Option Str → Bool
  | none => true
  | some port => port ≠ [] && port.all isDigit

/-- `_PLAIN_AUTHORITY.fullmatch`. -/
def isPlainAuthority (netloc : Str) : Bool :=
  match netloc with
  | [] => false
  | c :: rest =>
    if c = chr '[' then
      let (host, tail) := partition (chr ']') rest
      host ≠ [] && host.all (fun c => isDigit c || c.between 'A' 'F' || c.between 'a' 'f' ||
          isOneOf ":." c) &&
        tail.any fun tail => tail = [] || (tail.head? = some (chr ':') && isPortSuffix (some tail.tail))
    else
      let (host, port) := partition (chr ':') netloc
      host ≠ [] && host.all (fun c => isAlphaNum c || isOneOf ".-" c) && isPortSuffix port

/-- `_is_resource_url`. -/
def isResourceUrl (url : Str) : Bool :=
  let parts := urlsplit url
  let segments := (split (chr '/') parts.path).tail
  isPlainAuthority parts.netloc && startsWith parts.path (str "/") && segments ≠ [] &&
    segments.all (fun segment => segment ≠ [] && segment.all isUnreserved) &&
    !segments.any plainDotSegments.contains

/-- `_SCOPE_TOKEN.fullmatch`. -/
def isScopeToken (scope : Str) : Bool :=
  scope ≠ [] && scope.all fun c => c.between '!' '~' && c ≠ chr '"' && c ≠ chr '\\'

/-- `ProtectedResource`. -/
structure ProtectedResource where
  url : Str
  scope : Str
  requiredGroup : Str
  authorizedParties : AuthorizedParties
  markedRoutes : List MarkedRoute := []
  requiredGroup_isGroupPath : IsGroupPath requiredGroup
  url_isEndpoint : isEndpointUrl url = true
  url_isResource : isResourceUrl url = true
  scope_isToken : isScopeToken scope = true

namespace ProtectedResource

variable (resource : ProtectedResource)

/-- `entry_point`. -/
def entryPoint : Str := (urlsplit resource.url).path

/-- `entry_point_rule`. -/
def entryPointRule : PathRules := { exact := [resource.entryPoint] }

/-- `marks`. -/
def marks (method path : Str) : Bool := resource.markedRoutes.any fun route => route.selects method path

/-- `metadata_path`. -/
def metadataPath : Str := str "/.well-known/oauth-protected-resource" ++ resource.entryPoint

/-- `metadata_url`. -/
def metadataUrl : Str :=
  (urlsplit resource.url).scheme ++ str "://" ++ (urlsplit resource.url).netloc ++
    resource.metadataPath

/-- `challenge_parameters`. -/
def challengeParameters : List Str :=
  [str "resource_metadata=\"" ++ resource.metadataUrl ++ str "\"",
    str "scope=\"" ++ resource.scope ++ str "\""]

end ProtectedResource

theorem entryPointRule_selects {resource : ProtectedResource} {path : Str} :
    resource.entryPointRule.selects path = true ↔ path = resource.entryPoint := by
  simp [ProtectedResource.entryPointRule, PathRules.selects]

/-- `BearerGate`. -/
structure BearerGate where
  relyingParty : OidcRelyingParty
  admission : AdmissionConfig
  machinePaths : Option MachinePaths := none
  personPaths : Option PersonPaths := none
  resource : Option ProtectedResource := none
  names_kind : machinePaths.isSome ∨ personPaths.isSome ∨ resource.isSome
  machine_admins : machinePaths.isSome → admission.adminGroup.isSome
  issuer_eq : admission.boundIssuer = relyingParty.config.issuer

/-! ## Refusals -/

/-- `_Refusal`. -/
inductive GateRefusal where
  | noCredentials
  | invalidRequest
  | invalidToken
  | insufficientScope
  | resourceInsufficientScope
  | resourceNotAdmitted
  | notAMember
  | usernameTaken
  deriving DecidableEq

namespace GateRefusal

/-- The status, the challenge's error and the detail of a refusal. -/
def row : GateRefusal → ℕ × Option Str × Str
  | noCredentials => (401, none, str "Authentication required")
  | invalidRequest => (401, some (str "invalid_request"), str "Invalid request")
  | invalidToken => (401, some (str "invalid_token"), str "Invalid token")
  | insufficientScope => (403, some (str "insufficient_scope"), str "Admin access required")
  | resourceInsufficientScope => (403, some (str "insufficient_scope"), str "Insufficient scope")
  | resourceNotAdmitted => (403, none, str "Access denied")
  | notAMember => (403, none, str "No access")
  | usernameTaken => (403, none, str "Login failed")

/-- `_PERSON_PATH_INSUFFICIENT_SCOPE`. -/
def personPathInsufficientScope : Str := str "Bearer error=\"insufficient_scope\""

/-- `challenge`. -/
def challenge (refusal : GateRefusal) (kindParameters : List Str) : Option Str :=
  if refusal = notAMember then some personPathInsufficientScope
  else
    let parameters := kindParameters ++
      refusal.row.2.1.toList.map fun error => str "error=\"" ++ error ++ str "\""
    if parameters = [] then none else some (str "Bearer " ++ (str ", ").intercalate parameters)

/-- `response`. -/
def response (refusal : GateRefusal) (kindParameters : List Str) : Response where
  status := refusal.row.1
  content := .detail refusal.row.2.2
  headers := (refusal.challenge kindParameters).toList.map fun challenge =>
    (str "WWW-Authenticate", challenge)

end GateRefusal

/-- `_MACHINE_CHALLENGE`. -/
def machineChallenge : List Str := [str "realm=\"admin\""]

/-- `_REFUSAL_OF_ADMISSION`. A foreign issuer is no key of it. -/
def refusalOfAdmission : AdmissionRefusal → Except Exn GateRefusal
  | .notAMember => .ok .notAMember
  | .usernameTaken => .ok .usernameTaken
  | .foreignIssuer => .error (.keyError "FOREIGN_ISSUER")

/-! ## The credential -/

/-- A character of `_AUTH_SCHEME`. -/
def isAuthSchemeChar (c : CodePoint) : Bool := isAlphaNum c || isOneOf "!#$%&'*+-.^_`|~" c

/-- `s.strip(" \t")`. -/
def stripBlanks (s : Str) : Str :=
  (s.dropWhile (isOneOf " \t")).rdropWhile (isOneOf " \t")

/-- `_ONE_CREDENTIAL.fullmatch`: the one credential after spaces. -/
def oneCredential (rest : Str) : Option Str :=
  let credential := rest.dropWhile (· = chr ' ')
  if rest.head? = some (chr ' ') && credential ≠ [] && !credential.any (isOneOf " \t,") then
    some credential
  else none

/-- `_credential_of`: the bearer credential of the one `Authorization` line, or why there is none.
The first rule that applies decides. -/
def credentialOf (scope : Scope) : Except GateRefusal Str :=
  let lines := scope.getlist (str "authorization")
  if 1 < lines.length then .error .invalidRequest
  else
    let value := stripBlanks (lines.head?.getD [])
    let scheme := value.takeWhile isAuthSchemeChar
    if value = [] then .error .noCredentials
    else if scheme = [] then .error .invalidRequest
    else if lowerAscii scheme ≠ str "bearer" then .error .noCredentials
    else
      match oneCredential (value.drop scheme.length) with
      | none => .error .invalidRequest
      | some credential =>
        if scope.queryParams.any fun parameter => parameter.1 = str "access_token" then
          .error .invalidRequest
        else if !isB64Token credential then .error .invalidToken
        else .ok credential

/-! ## The decision -/

/-- `BearerGateMiddleware`: its policy, and the verifier it builds for the resource. -/
structure BearerGateMiddleware where
  policy : BearerGate
  resourceVerifier : ℕ

/-- What the gate decides: the refusal it answers, and the request as it leaves it. -/
structure GateResult where
  refusal : Option Response
  scope : Scope

/-- What the resource decides; `none` is `_Continue.AS_UNMARKED`. -/
abbrev ResourceResult := Option GateResult

namespace BearerGateMiddleware

variable (py : Platform) (gate : BearerGateMiddleware)

/-- `_refused`. -/
def refused (scope : Scope) (refusal : GateRefusal) (challenge : List Str := []) : GateResult :=
  ⟨some (refusal.response challenge), scope⟩

/-- A request handed on with an admission on record. -/
def admitted (scope : Scope) (principal : Principal) (resourceMethod : Option Str := none) :
    Except Exn GateResult := do
  let recorded ← recordBearerAdmission py scope principal resourceMethod
  return ⟨none, recorded⟩

/-- `_machine_refusal`. -/
def machineRefusal (scope : Scope) (machinePaths : MachinePaths) : Task GateResult :=
  match credentialOf scope with
  | .error refusal => return refused scope refusal machineChallenge
  | .ok credential => do
    match ← gate.policy.relyingParty.verifyAccessToken py credential
        machinePaths.authorizedParties with
    | .error _ => return refused scope .invalidToken machineChallenge
    | .ok verified =>
      if appRole verified.groups gate.policy.admission ≠ some .admin then
        return refused scope .insufficientScope machineChallenge
      else admitted py scope (.machine ⟨verified.subject⟩)

/-- `_resource_refusal`. -/
def resourceRefusal (scope : Scope) (resource : ProtectedResource) (onMarkedRoute : Bool) :
    Task ResourceResult :=
  let challenge := resource.challengeParameters
  match credentialOf scope with
  | .error refusal =>
    if onMarkedRoute && refusal = .noCredentials then return none
    else return some (refused scope refusal challenge)
  | .ok credential => do
    match ← gate.policy.relyingParty.verifyResourceToken py gate.resourceVerifier resource.url
        resource.scope resource.authorizedParties credential with
    | .error verified =>
      if onMarkedRoute && verified.tokenRejection = some .invalidAudience then return none
      else
        let refusal := if verified.reason = .insufficientScope then
          GateRefusal.resourceInsufficientScope else .invalidToken
        return some (refused scope refusal challenge)
    | .ok verified => do
      match ← admitResourceHolder verified resource.requiredGroup gate.policy.admission with
      | none => return some (refused scope .resourceNotAdmitted)
      | some person => do
        let method ← scope.requestMethod
        return some (← admitted py scope (.person person) (some method))

/-- `_person_refusal`. -/
def personRefusal (scope : Scope) (personPaths : PersonPaths) : Task GateResult :=
  match credentialOf scope with
  | .error .noCredentials => return ⟨none, scope⟩
  | .error refusal => return refused scope refusal
  | .ok credential => do
    match ← gate.policy.relyingParty.verifyAccessToken py credential
        personPaths.authorizedParties with
    | .error _ => return refused scope .invalidToken
    | .ok verified => do
      match ← admitTokenHolder py verified gate.policy.admission with
      | .error cause => do
        let refusal ← refusalOfAdmission cause
        return refused scope refusal
      | .ok person => admitted py scope (.person person)

/-- `_mark_person_path`. -/
def markPersonPath (scope : Scope) : Scope := { scope with personPath := true }

/-- The end of `_refusal`: a person path or none. -/
def unmarkedRefusal (scope : Scope) : Task GateResult :=
  match gate.policy.personPaths.filter fun personPaths => personPaths.paths.selects (routePath scope) with
  | some personPaths => gate.personRefusal py (markPersonPath scope) personPaths
  | none => return ⟨none, scope⟩

/-- Whether the resource takes a request, and if so whether on a marked route. -/
def onResource (scope : Scope) (resource : ProtectedResource) : Except Exn (Option Bool) :=
  if resource.entryPointRule.selects (routePath scope) then .ok (some false)
  else do
    let method ← scope.requestMethod
    return if resource.marks method (routePath scope) then some true else none

/-- The part of `_refusal` after the machine paths. -/
def otherRefusal (scope : Scope) : Task GateResult :=
  match gate.policy.resource with
  | none => gate.unmarkedRefusal py scope
  | some resource => do
    match ← onResource scope resource with
    | none => gate.unmarkedRefusal py scope
    | some onMarkedRoute => do
      match ← gate.resourceRefusal py scope resource onMarkedRoute with
      | some decided => return decided
      | none => gate.unmarkedRefusal py scope

/-- `_refusal`. -/
def refusal (scope : Scope) : Task GateResult :=
  match gate.policy.machinePaths.filter fun machinePaths =>
      machinePaths.paths.selects (routePath scope) with
  | some machinePaths => gate.machineRefusal py scope machinePaths
  | none => gate.otherRefusal py scope

end BearerGateMiddleware

end WebAuth
