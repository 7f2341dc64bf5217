import WebAuth.Admission
import WebAuth.ClientConfig
import WebAuth.Requests

/-!
# The calls of the library

Everything the library asks of its surroundings: clocks, the host's transactions, stores, audit and
hooks, the issuer's token endpoint, the steps of a verifier, and the application behind the
middleware. A call answers a value or raises.
-/

namespace WebAuth

open Python Effects Program

/-- `SignInRefusal.cause`. -/
inductive SignInCause where
  | oidc (refusal : OidcRefusal)
  | admission (refusal : AdmissionRefusal)
  deriving DecidableEq

/-- `LogoutPageText`. -/
structure LogoutPageText where
  language : Str
  buttonLabel : Str
  deriving DecidableEq

/-- The two contexts a host opens around store calls. -/
inductive Transaction where
  | session
  | signIn
  deriving DecidableEq

/-- The calls of the library. -/
inductive HostCall where
  | wallClock
  | enter (transaction : Transaction)
  | leave (transaction : Transaction) (returned : Bool)
  | load (sessionId : Str)
  | touch (sessionId : Str) (expiresAt : DateTime)
  | replaceRefreshToken (sessionId refreshToken : Str)
  | create (userId : Str) (now expiresAt : DateTime) (refreshToken idToken : Option Str)
  | delete (sessionId : Str)
  | deleteForUser (userId : Str)
  | pruneOverflow (userId : Str) (keepNewest : ℕ)
  | getAccount (userId : Str)
  | createForSubject (subject username role : Str)
  | setRole (userId role : Str)
  | accountEvent (event : AccountEvent)
  | postTokenRequest (request : TokenRequest)
  | verifier (owner : ℕ) (step : VerifierCall)
  | relyingParty (request : Scope)
  | refused (request : Scope) (cause : SignInCause)
  | pageText (request : Scope)
  | requestBody
  | onAuthenticated (user : AuthenticatedUser)
  | enterApp (scope : Scope)

/-- What each call answers. -/
abbrev HostCall.Answer : HostCall → Type
  | wallClock => ℚ
  | load _ => Option SessionRecord
  | touch _ _ => StoreAnswer
  | replaceRefreshToken _ _ => StoreAnswer
  | create _ _ _ _ _ => SessionRecord
  | deleteForUser _ => ℤ
  | getAccount _ => Option UserRecord
  | createForSubject _ _ _ => UserRecord
  | setRole _ _ => UserRecord
  | postTokenRequest _ => TokenEndpointAnswer
  | verifier _ step => step.Answer
  | relyingParty _ => OidcRelyingParty
  | refused _ _ => Response
  | pageText _ => LogoutPageText
  | requestBody => Bytes
  | enter _ => Unit
  | leave _ _ => Unit
  | delete _ => Unit
  | pruneOverflow _ _ => Unit
  | accountEvent _ => Unit
  | onAuthenticated _ => Unit
  | enterApp _ => Unit

/-- The library's calls with their answers. -/
abbrev hostCalls : Interface := ⟨HostCall, HostCall.Answer⟩

/-- A program of the library. -/
abbrev Task := Program hostCalls Exn

/-- A call of the library with its answer. -/
abbrev HostEvent := Event hostCalls Exn

/-- Make one call. -/
def invoke (c : HostCall) : Task c.Answer := perform (I := hostCalls) c

@[simp] theorem invoke_eq (c : HostCall) : invoke c = call (I := hostCalls) c done := rfl

/-- `with transaction() as …:`. The exit runs whatever the block ends with, and the exception of a
failed block goes on after it. -/
def within {α : Type} (transaction : Transaction) (block : Task α) : Task α := do
  invoke (.enter transaction)
  block.andThen fun r => do
    match r with
    | .ok _ => invoke (.leave transaction true)
    | .error _ => invoke (.leave transaction false)
    done r

/-! ## Programs of calls -/

theorem only_invoke {P : HostCall → Prop} {c : HostCall} (h : P c) : Only P (invoke c) :=
  ⟨h, only_done⟩

theorem Only.within {α : Type} {S : HostCall → Prop} {transaction : Transaction} {block : Task α}
    (henter : S (.enter transaction)) (hleave : ∀ returned, S (.leave transaction returned))
    (h : Only S block) : Only S (within transaction block) := by
  refine Only.bind ⟨henter, only_done⟩ fun _ => Only.andThen h fun r => ?_
  cases r with
  | ok a => exact Only.bind ⟨hleave true, only_done⟩ fun _ => trivial
  | error e => exact Only.bind ⟨hleave false, only_done⟩ fun _ => trivial

/-- What a computation without calls raises ends the program, and what it answers goes on. -/
theorem path_lift_bind {α β : Type} {x : Except Exn α} {f : α → Task β} {es : List HostEvent}
    {r : Except Exn β} (h : Path ((liftM x : Task α) >>= f) es r) :
    (∃ a, x = .ok a ∧ Path (f a) es r) ∨ (∃ e, x = .error e ∧ es = [] ∧ r = .error e) := by
  cases x with
  | ok a => exact .inl ⟨a, rfl, h⟩
  | error e => exact .inr ⟨e, rfl, h⟩

theorem path_map {α β : Type} {p : Task α} {f : α → β} {es : List HostEvent} {r : Except Exn β}
    (h : Path (f <$> p) es r) : ∃ r₁, Path p es r₁ ∧ r = r₁.map f := by
  obtain ⟨first, none, r₁, rfl, hp, hnone⟩ := path_andThen.1 h
  cases r₁ with
  | ok a =>
    obtain ⟨rfl, rfl⟩ := hnone
    exact ⟨.ok a, by simpa using hp, rfl⟩
  | error e =>
    obtain ⟨rfl, rfl⟩ := hnone
    exact ⟨.error e, by simpa using hp, rfl⟩

/-! ## A verifier's steps -/

/-- The steps of the verifier `owner`, as calls of the library. -/
def Verification.of {α : Type} (owner : ℕ) : Verification α → Task α
  | .ret a => .ret a
  | .raise e => .raise e
  | .call c next => .call (.verifier owner c) fun ans => Verification.of owner (next ans)

/-- A step of the verifier `owner` in the history of the library's calls. -/
def verifierEvent (owner : ℕ) (e : Event verifierCalls Exn) : HostEvent :=
  ⟨.verifier owner e.call, e.answer⟩

section

variable {α : Type} {owner : ℕ} {P : Event verifierCalls Exn → Prop} {P' : HostEvent → Prop}
  {okStep : List (Event verifierCalls Exn) → VerifierCall → Prop}
  {ok : List HostEvent → HostCall → Prop} {Q : Except Exn α → List (Event verifierCalls Exn) → Prop}

/-- What is verified of a verifier's program over its own steps holds of it among the library's
calls: its steps are a stretch of the history. -/
theorem Verification.of_ensures {p : Verification α} {es : List (Event verifierCalls Exn)}
    {h : List HostEvent} (hp : Ensures (record fun _ e => P e) okStep p es Q)
    (hP : ∀ e, P' (verifierEvent owner e) → P e)
    (hok : ∀ (es' : List (Event verifierCalls Exn)) c, ok (h ++ es'.map (verifierEvent owner)) (.verifier owner c)) :
    Ensures (record fun _ e => P' e) ok (p.of owner) h fun r h' =>
      ∃ es', h' = h ++ es'.map (verifierEvent owner) ∧
        (∀ e ∈ es', P' (verifierEvent owner e)) ∧ Q r (es ++ es') := by
  induction p generalizing es h with
  | ret a => exact ⟨[], by simp, by simp, by simpa using hp⟩
  | raise e => exact ⟨[], by simp, by simp, by simpa using hp⟩
  | call c next ih =>
    refine ensures_record_call.2 ⟨by simpa using hok [] c, fun ans hans => ?_⟩
    have hnext := (ensures_record_call.1 hp).2 ans (hP ⟨c, ans⟩ hans)
    refine (ih ans hnext ?_).mono ?_
    · intro es' c'
      have := hok (⟨c, ans⟩ :: es') c'
      rw [List.map_cons, ← List.singleton_append, ← List.append_assoc] at this
      exact this
    · rintro r h' ⟨es', rfl, hes', hq⟩
      refine ⟨⟨c, ans⟩ :: es', ?_, ?_, ?_⟩
      · simp [verifierEvent]
      · exact List.forall_mem_cons.2 ⟨hans, hes'⟩
      · simpa using hq

end

end WebAuth
