import WebAuth.Refusals

/-!
# How a service reports a rejected token

`ServiceCallerCheck` answers a `CallerRefusal`, whose class says which kind of answer the host
gives: 503 for `unavailable`, 401 for `unauthenticated`, 403 for `forbidden`.
-/

namespace WebAuth

/-- `CallerRefusalReason`. -/
inductive CallerRefusalReason where
  | missingToken
  | keySetUnavailable
  | tokenRejected
  | invalidSubject
  | malformedGroups
  | notAWorkload
  | unboundClient
  | unregisteredClient
  | clientMismatch
  | sameSubject
  | notAMember
  deriving DecidableEq

theorem missingToken_ne : CallerRefusalReason.missingToken ≠ .tokenRejected := nofun

/-- `CallerRefusalClass`. -/
inductive CallerRefusalClass where
  | unauthenticated
  | unavailable
  | forbidden
  deriving DecidableEq

/-- `CallerRefusal`, with the verifier's reason exactly when the reason is `tokenRejected`. -/
structure CallerRefusal where
  reason : CallerRefusalReason
  tokenRejection : Option RejectionReason
  rejection_iff : reason = .tokenRejected ↔ tokenRejection.isSome

/-- `_UNAUTHENTICATED_REASONS`. -/
def unauthenticatedReasons : List CallerRefusalReason :=
  [.missingToken, .tokenRejected, .invalidSubject, .malformedGroups]

/-- `CallerRefusal.refusal_class`. -/
def CallerRefusal.refusalClass (refusal : CallerRefusal) : CallerRefusalClass :=
  if refusal.reason = .keySetUnavailable then .unavailable
  else if refusal.reason ∈ unauthenticatedReasons then .unauthenticated
  else .forbidden

/-- `_verifier_refusal`. -/
def verifierRefusal (reason : RejectionReason) : CallerRefusal :=
  if reason = .keySetUnavailable then ⟨.keySetUnavailable, none, by simp⟩
  else ⟨.tokenRejected, some reason, by simp⟩

/-- Only an unavailable key set is reported as such; every other rejection is the token's. -/
theorem verifierRefusal_class (reason : RejectionReason) :
    (verifierRefusal reason).refusalClass =
      if reason = .keySetUnavailable then .unavailable else .unauthenticated := by
  unfold verifierRefusal
  split <;> rfl

end WebAuth
