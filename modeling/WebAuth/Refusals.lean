import WebAuth.Effects.Logic
import WebAuth.Python.Text

/-!
# Refusals and exceptions

The reasons the library refuses for, and every exception that can pass through its code: its own,
the ones the language raises, and whatever the host's code raises.
-/

namespace WebAuth

open Python

/-- `RejectionReason` of the JWT verifier. -/
inductive RejectionReason where
  | tokenTooLong
  | malformedToken
  | unsupportedAlgorithm
  | invalidKeyId
  | invalidTokenType
  | unknownKeyId
  | keySetUnavailable
  | invalidSignature
  | invalidAudience
  | invalidIssuer
  | invalidClaim
  | expired
  | issuedInFuture
  | notYetValid
  deriving DecidableEq

/-- `_RefreshFailure`: why a fetched key set does not replace the cached one. -/
inductive RefreshFailure where
  | fetchFailed
  | tooLarge
  | notJson
  | keyCountOutOfRange
  | keyNotAnObject
  | secretKeyPublished
  | duplicateKeyId
  | noRs256SigningKey
  | malformedKey
  | invalidRsaKey
  | keyTooShort
  deriving DecidableEq

/-- `OidcRefusalReason`. -/
inductive OidcRefusalReason where
  | malformedCallback
  | stateMismatch
  | pendingLoginExpired
  | issuerMismatch
  | authorizationDenied
  | tokenRequestRefused
  | tokenEndpointFailed
  | idTokenRejected
  | nonceMismatch
  | authorizedPartyMismatch
  | invalidIdentityClaim
  | logoutTokenRejected
  | invalidLogoutClaim
  | accessTokenRejected
  | invalidAccessClaim
  | insufficientScope
  | subjectMismatch
  | staleIdToken
  deriving DecidableEq

/-- `OidcRefusal`: the reason, the issuer's error code when it named a well-formed one, and the
verifier's reason when it rejected the token. -/
structure OidcRefusal where
  reason : OidcRefusalReason
  idpError : Option Str := none
  tokenRejection : Option RejectionReason := none
  deriving DecidableEq

/-- The PyJWT errors the verifier tells apart. Every other `InvalidTokenError` is one case, and what
else PyJWT may raise another. -/
inductive JwtError where
  | invalidSignature
  | invalidAudience
  | invalidIssuer
  | missingRequiredClaim
  | invalidToken
  | other (tag : ℕ)
  deriving DecidableEq

/-- What Python code raises. `UnicodeEncodeError`, `UnicodeDecodeError` and `binascii.Error` are
`ValueError`s; `OverflowError` is the calendar's, or that of an integer which no float can hold. -/
inductive Exn where
  | typeError (message : String)
  | valueError (message : String)
  | overflowError
  | keyError (name : String)
  | runtimeError (message : String)
  | httpException (status : ℕ) (detail : Str) (headers : List (Str × Str))
  | usernameTakenError
  | usernameTakenSignal
  | tokenEndpointError
  | keySetFetchError
  | invalidKeySetError (failure : RefreshFailure)
  | verificationRefusal (reason : RejectionReason)
  | refusalError (refusal : OidcRefusal)
  | host (tag : ℕ)
  deriving DecidableEq

/-- The exceptions the library keeps to itself: it raises and catches them, and nothing outside it
can. -/
def Exn.isPrivate : Exn → Bool
  | usernameTakenSignal => true
  | invalidKeySetError _ => true
  | verificationRefusal _ => true
  | refusalError _ => true
  | _ => false

/-- A call never answers an exception of the library's own. -/
def Public {I : Effects.Interface} (e : Effects.Event I Exn) : Prop :=
  ∀ x, e.answer = .error x → x.isPrivate = false

/-- The handler that accepts every such answer and keeps the history of calls. -/
abbrev recorded {I : Effects.Interface} : Effects.Handler (List (Effects.Event I Exn)) I Exn :=
  Effects.Program.record fun _ e => Public e

/-- What a computation without calls raises or returns, as a step of a program. -/
instance {I : Effects.Interface} : MonadLift (Except Exn) (Effects.Program I Exn) where
  monadLift := Effects.Program.done

@[simp] theorem monadLift_eq {I : Effects.Interface} {α : Type} (r : Except Exn α) :
    (monadLift r : Effects.Program I Exn α) = Effects.Program.done r := rfl

@[simp] theorem liftM_eq {I : Effects.Interface} {α : Type} (r : Except Exn α) :
    (liftM r : Effects.Program I Exn α) = Effects.Program.done r := rfl

/-- An optional result whose absence raises. -/
def orRaise {α : Type} (e : Exn) : Option α → Except Exn α
  | some a => .ok a
  | none => .error e

theorem orRaise_eq_ok {α : Type} {e : Exn} {o : Option α} {a : α} :
    orRaise e o = .ok a ↔ o = some a := by
  cases o <;> simp [orRaise]

/-! ## What a computation raises -/

/-- Every exception of a computation without calls satisfies `P`. -/
def Raises {α : Type} (P : Exn → Prop) (r : Except Exn α) : Prop := ∀ e, r = .error e → P e

section Raises

variable {α β : Type} {P : Exn → Prop}

@[simp] theorem raises_ok (a : α) : Raises P (.ok a) := fun _ h => by cases h

@[simp] theorem raises_error (e : Exn) : Raises P (.error e : Except Exn α) ↔ P e :=
  ⟨fun h => h e rfl, fun h e' he => by cases he; exact h⟩

@[simp] theorem raises_pure (a : α) : Raises P (pure a) := raises_ok a

@[simp] theorem raises_throw (e : Exn) : Raises P (throw e : Except Exn α) ↔ P e := raises_error e

theorem Raises.bind {x : Except Exn α} {f : α → Except Exn β} (hx : Raises P x)
    (hf : ∀ a, Raises P (f a)) : Raises P (x >>= f) := by
  cases x with
  | error e => exact (raises_error e).2 (hx e rfl)
  | ok a => exact hf a

theorem Raises.map {x : Except Exn α} (hx : Raises P x) (f : α → β) : Raises P (x.map f) := by
  cases x with
  | error e => exact (raises_error e).2 (hx e rfl)
  | ok a => exact raises_ok _

end Raises

end WebAuth
