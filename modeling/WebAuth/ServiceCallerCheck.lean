import WebAuth.RelyingParty
import WebAuth.ServiceCallers

/-!
# The caller of a service

A service admits an app that acts for a person. It verifies the token the app presents as itself
and the person's, reads both, and only then compares them and looks at the app.
-/

namespace WebAuth

open Python Effects Program

/-! ## What a service is built with -/

/-- `ServiceIdentity`. -/
structure ServiceIdentity where
  issuer : Str
  audience : Str
  jwksUrl : Str
  workloadRole : Str
  groupClaim : Str
  leewaySeconds : ℕ
  issuer_nonempty : issuer ≠ []
  audience_nonempty : audience ≠ []
  workloadRole_nonempty : workloadRole ≠ []
  groupClaim_nonempty : groupClaim ≠ []

/-- `RegisteredApp`. -/
structure RegisteredApp where
  app : Str
  admission : AdmissionConfig
  app_nonempty : app ≠ []

/-- `Principal` of a service: the issuer and the subject of a token. -/
structure ServicePrincipal where
  issuer : Str
  subject : Str
  deriving DecidableEq

/-- `PersonCaller`. -/
structure PersonCaller where
  app : Str
  clientId : Str
  principal : ServicePrincipal
  groups : Finset Str
  role : AppRole
  deriving DecidableEq

/-- `ServiceCallerCheck`, with the number of its verifier and what `_require_registry` checks. -/
structure ServiceCallerCheck where
  identity : ServiceIdentity
  registeredApps : List (Str × RegisteredApp)
  verifier : ℕ
  apps_nonempty : registeredApps ≠ []
  clientIds_nodup : (registeredApps.map (·.1)).Nodup
  clientIds_nonempty : ∀ entry ∈ registeredApps, entry.1 ≠ []
  apps_bound : ∀ entry ∈ registeredApps, entry.2.admission.boundIssuer = identity.issuer

/-- A refusal with a reason of the check's own. -/
def CallerRefusal.of (reason : CallerRefusalReason) (h : reason ≠ .tokenRejected) : CallerRefusal :=
  ⟨reason, none, by simpa using h⟩

/-! ## The claims -/

/-- `_groups_claim`. -/
def groupsClaim (claims : Dict) (claimName : Str) : Option (List Str) :=
  ((claims.get claimName).getD (.arr [])).strings

/-- `_groups`. -/
def callerGroups (claims : Dict) (groupClaim : Str) : Option (Finset Str) :=
  (groupsClaim claims groupClaim).map List.toFinset

/-- `_has_role`. -/
def hasRole (claims : Dict) (role : Str) : Bool :=
  match claims.get (str "realm_access") with
  | some (.obj realmAccess) =>
    match Dict.get realmAccess (str "roles") with
    | some (.arr roles) => roles.any (·.isStr role)
    | _ => false
  | _ => false

/-- `_authorized_party`. -/
def authorizedParty (claims : Dict) : Option Str :=
  match claims.get (str "azp") with
  | some (.str party) => if party = [] then none else some party
  | _ => none

/-- `_bound_client_id`. -/
def boundClientId (claims : Dict) : Option Str :=
  match authorizedParty claims with
  | some party => if (claims.get (str "client_id")).any (·.isStr party) then some party else none
  | none => none

/-- `_Workload`. -/
structure Workload where
  registered : RegisteredApp
  clientId : Str

/-- `_Identity`. -/
structure CallerIdentity where
  principal : ServicePrincipal
  groups : Finset Str

/-! ## The check -/

namespace ServiceCallerCheck

variable (py : Platform) (check : ServiceCallerCheck)

/-- The verifier of the check. -/
def jwtVerifier : JwtVerifier where
  issuer := check.identity.issuer
  audiences := [check.identity.audience]
  jwksUrl := check.identity.jwksUrl
  leewaySeconds := check.identity.leewaySeconds

/-- `_verified`. -/
def verified : Option Str → Task (Except CallerRefusal VerifiedClaims)
  | none => return .error (.of .missingToken missingToken_ne)
  | some [] => return .error (.of .missingToken missingToken_ne)
  | some token => do
    match ← (verify py check.jwtVerifier token .any).of check.verifier with
    | .error reason => return .error (verifierRefusal reason)
    | .ok claims => return .ok claims

/-- `_identified`. -/
def identified (verified : VerifiedClaims) : Except CallerRefusal CallerIdentity :=
  match verified.subject.filter fun subject => (encode subject).isSome with
  | none => .error (.of .invalidSubject (by decide))
  | some subject =>
    match callerGroups verified.claims check.identity.groupClaim with
    | none => .error (.of .malformedGroups (by decide))
    | some groups => .ok ⟨⟨verified.issuer, subject⟩, groups⟩

/-- `_workload`. -/
def workload (verified : VerifiedClaims) : Except CallerRefusal Workload :=
  if !hasRole verified.claims check.identity.workloadRole then
    .error (.of .notAWorkload (by decide))
  else
    match boundClientId verified.claims with
    | none => .error (.of .unboundClient (by decide))
    | some clientId =>
      match check.registeredApps.lookup clientId with
      | none => .error (.of .unregisteredClient (by decide))
      | some registered => .ok ⟨registered, clientId⟩

/-- The checks of `person_caller` that compare the two tokens and look at the app. -/
def compared (workload : Workload) (workloadIdentity personIdentity : CallerIdentity)
    (personParty : Option Str) : Except CallerRefusal PersonCaller :=
  if personParty ≠ some workload.clientId then .error (.of .clientMismatch (by decide))
  else if personIdentity.principal.subject = workloadIdentity.principal.subject then
    .error (.of .sameSubject (by decide))
  else
    match appRole (personIdentity.groups.sort (· ≤ ·)) workload.registered.admission with
    | none => .error (.of .notAMember (by decide))
    | some role => .ok ⟨workload.registered.app, workload.clientId, personIdentity.principal,
        personIdentity.groups, role⟩

/-- What `person_caller` answers once both tokens are verified. -/
def callerOf (verifiedWorkload verifiedPerson : VerifiedClaims) :
    Except CallerRefusal PersonCaller := do
  let workloadIdentity ← check.identified verifiedWorkload
  let personIdentity ← check.identified verifiedPerson
  let workload ← check.workload verifiedWorkload
  compared workload workloadIdentity personIdentity (authorizedParty verifiedPerson.claims)

/-- `person_caller`. -/
def personCaller (workloadToken personToken : Option Str) :
    Task (Except CallerRefusal PersonCaller) := do
  match ← check.verified py workloadToken with
  | .error refusal => return .error refusal
  | .ok verifiedWorkload =>
    match ← check.verified py personToken with
    | .error refusal => return .error refusal
    | .ok verifiedPerson => return check.callerOf verifiedWorkload verifiedPerson

end ServiceCallerCheck

end WebAuth
