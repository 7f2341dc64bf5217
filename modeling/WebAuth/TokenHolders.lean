import WebAuth.AccessTokens
import WebAuth.OidcLogin

/-!
# Whom an access token admits

A person's token is the account behind it, admitted as a sign-in admits it. A resource's token is a
known account that never carries more than the role of a user.
-/

namespace WebAuth

open Python Effects Program

/-- A taken username is a refusal of the token's holder; every other exception passes through. -/
def holderRefusal : Exn → Task (Except AdmissionRefusal AuthenticatedUser)
  | .usernameTakenSignal => return .error .usernameTaken
  | e => throw e

/-- The block of `_admit_token_holder`. -/
def tokenHolderOf (py : Platform) (verified : VerifiedAccessToken) (role : Str) :
    Task AuthenticatedUser := do
  let account ← admitAccount py verified.claimant role
  return account.authenticated

/-- `_admit_token_holder`. -/
def admitTokenHolder (py : Platform) (verified : VerifiedAccessToken)
    (admission : AdmissionConfig) : Task (Except AdmissionRefusal AuthenticatedUser) :=
  match appRole verified.groups admission with
  | none => return .error .notAMember
  | some derived =>
    tryCatch (do return .ok (← within .signIn (tokenHolderOf py verified derived.value)))
      holderRefusal

/-- The block of `_admit_resource_holder`: the account takes the role of a user, never its own. -/
def resourceHolderOf (verified : VerifiedAccessToken) : Task (Option AuthenticatedUser) := do
  let account ← invoke (.getAccount verified.subject)
  return account.map fun account => ⟨account.id, account.username, AppRole.user.value⟩

/-- `_admit_resource_holder`. -/
def admitResourceHolder (verified : VerifiedAccessToken) (requiredGroup : Str)
    (admission : AdmissionConfig) : Task (Option AuthenticatedUser) :=
  if (appRole verified.groups admission).isNone then return none
  else if !isMemberOf requiredGroup verified.groups then return none
  else within .signIn (resourceHolderOf verified)

end WebAuth
