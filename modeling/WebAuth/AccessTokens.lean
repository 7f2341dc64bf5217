import WebAuth.RelyingParty

/-!
# Access tokens

A relying party verifies the access tokens that are presented to the app and, by a verifier of its
own, those that are presented to a protected resource. Both ask for one audience and for an
authorized party.
-/

namespace WebAuth

open Python Effects Program

/-- `AuthorizedParties`, with what its constructor checks. -/
structure AuthorizedParties where
  clientIds : List Str
  clientIds_nonempty : clientIds ≠ []
  all_nonempty : ∀ id ∈ clientIds, id ≠ []

/-- `AuthorizedParties.admits`. -/
def AuthorizedParties.permits (parties : AuthorizedParties) : Option Json → Bool
  | some (.str id) => parties.clientIds.contains id
  | _ => false

/-- `_ACCESS_TOKEN_MEDIA_TYPES`. -/
def accessTokenMediaTypes : List Str := [str "at+jwt", str "application/at+jwt"]

/-- `_verify_access_jwt` by the verifier `v`, whose steps are those of `owner`. -/
def verifyAccessJwt (py : Platform) (v : JwtVerifier) (owner : ℕ) (accessToken : Str) :
    Task (Except OidcRefusal VerifiedClaims) := do
  match ← (verify py v accessToken (.mediaTypes accessTokenMediaTypes)).of owner with
  | .ok claims => return .ok claims
  | .error reason => return .error { reason := .accessTokenRejected, tokenRejection := some reason }

/-- `_holds_scope`. -/
def holdsScope (claims : Dict) (scope : Str) : Bool :=
  match claims.get (str "scope") with
  | some (.str granted) => (split (chr ' ') granted).contains scope
  | _ => false

/-- `_access_token_profile`. -/
def accessTokenProfile (token : VerifiedClaims) (parties : AuthorizedParties) (audience : Str) :
    Except OidcRefusal VerifiedAccessToken :=
  match token.subject with
  | none => .error { reason := .invalidAccessClaim }
  | some subject =>
    if token.audiences ≠ [audience] then .error { reason := .invalidAccessClaim }
    else if !parties.permits (token.claims.get (str "azp")) then
      .error { reason := .authorizedPartyMismatch }
    else
      match groupPaths token.claims with
      | none => .error { reason := .invalidAccessClaim }
      | some groups => .ok
        ⟨subject, groups, (token.claims.get (str "preferred_username")).bind Json.string⟩

namespace OidcRelyingParty

variable (py : Platform) (rp : OidcRelyingParty)

/-- `verify_access_token`. -/
def verifyAccessToken (accessToken : Str) (parties : AuthorizedParties) :
    Task (Except OidcRefusal VerifiedAccessToken) := do
  match ← verifyAccessJwt py (rp.verifierFor rp.config.clientId) rp.jwtVerifier accessToken with
  | .error refusal => return .error refusal
  | .ok token => return accessTokenProfile token parties rp.config.clientId

/-- The check `resource_token_verifier` answers; `owner` is the verifier it builds. -/
def verifyResourceToken (owner : ℕ) (resourceUrl scope : Str) (parties : AuthorizedParties)
    (accessToken : Str) : Task (Except OidcRefusal VerifiedAccessToken) := do
  match ← verifyAccessJwt py (rp.verifierFor resourceUrl) owner accessToken with
  | .error refusal => return .error refusal
  | .ok token =>
    match accessTokenProfile token parties resourceUrl with
    | .error refusal => return .error refusal
    | .ok profile =>
      if holdsScope token.claims scope then return .ok profile
      else return .error { reason := .insufficientScope }

end OidcRelyingParty

/-! ## What an accepted token has -/

/-- What `verify` accepts: a header of the expected type, and claims that the token decodes to. -/
structure Accepts (py : Platform) (v : JwtVerifier) (token : Str) (expected : ExpectedType)
    (claims : VerifiedClaims) : Prop where
  header : ∃ header, py.getUnverifiedHeader token = .ok header ∧
    hasExpectedType header expected = true
  decoded : ∃ key, py.jwtDecode ⟨token, key, [algorithm], v.audiences, v.issuer, libraryChecks⟩ =
    .ok claims.claims
  audiences : audiencesOf claims.claims = .ok claims.audiences

section Accepted

variable {py : Platform} {v : JwtVerifier} {token : Str} {expected : ExpectedType}
  {claims : VerifiedClaims} {rp : OidcRelyingParty}

theorem checkedHeader_type {keyId : Option Str} (h : checkedHeader py token expected = .ok keyId) :
    ∃ header, py.getUnverifiedHeader token = .ok header ∧
      hasExpectedType header expected = true := by
  unfold checkedHeader at h
  split_ifs at h
  split at h
  · cases h
  · cases h
  · rename_i header hheader
    split_ifs at h with halg htype
    exact ⟨header, hheader, by simpa using htype⟩

theorem verifiedPayload_eq_ok {key : RSAPublicKey} {payload : Dict}
    (h : verifiedPayload py v token key = .ok payload) :
    py.jwtDecode ⟨token, key, [algorithm], v.audiences, v.issuer, libraryChecks⟩ = .ok payload := by
  unfold verifiedPayload at h
  split at h
  · rename_i hdecode
    rw [hdecode, Except.ok.inj h]
  · cases h

theorem verifiedClaims_accepts {es : List (Event verifierCalls Exn)}
    (h : Path (verifiedClaims py v token expected) es (.ok claims)) :
    Accepts py v token expected claims := by
  unfold verifiedClaims at h
  obtain ⟨_, _, keyId, -, hheader, h⟩ := path_bind_ok h
  obtain ⟨_, _, key, -, -, h⟩ := path_bind_ok h
  obtain ⟨_, _, payload, -, hpayload, h⟩ := path_bind_ok h
  obtain ⟨_, _, ⟨expiresAt, issuedAt⟩, -, -, h⟩ := path_bind_ok h
  obtain ⟨_, _, subject, -, -, h⟩ := path_bind_ok h
  obtain ⟨_, _, audiences, -, haudiences, h⟩ := path_bind_ok h
  obtain ⟨-, hclaims⟩ := h
  obtain rfl := Except.ok.inj hclaims
  exact ⟨checkedHeader_type (path_done.1 hheader).2.symm,
    ⟨key, verifiedPayload_eq_ok (path_done.1 hpayload).2.symm⟩, (path_done.1 haudiences).2.symm⟩

/-- **What `verify` accepts.** -/
theorem verify_accepts {es : List (Event verifierCalls Exn)}
    (h : Path (verify py v token expected) es (.ok (.ok claims))) :
    Accepts py v token expected claims := by
  unfold verify at h
  obtain ⟨_, _, _, -, -, h⟩ := path_bind_ok h
  rw [tryCatch_eq] at h
  obtain ⟨es₁, es₂, r, -, hverified, hafter⟩ := path_andThen.1 h
  cases r with
  | error e =>
    cases e <;>
      · obtain ⟨-, hr⟩ := hafter
        cases hr
  | ok outcome =>
    obtain ⟨-, hr⟩ := hafter
    obtain ⟨es₃, es₄, claims', -, hverified, hreturn⟩ := path_bind_ok hverified
    obtain ⟨-, hclaims⟩ := hreturn
    cases hr
    cases hclaims
    exact verifiedClaims_accepts hverified

theorem of_path {α : Type} {owner : ℕ} {p : Verification α} {es : List HostEvent}
    {r : Except Exn α} (h : Path (p.of owner) es r) :
    ∃ es', es = es'.map (verifierEvent owner) ∧ Path p es' r := by
  induction p generalizing es with
  | ret a =>
    obtain ⟨rfl, rfl⟩ := h
    exact ⟨[], rfl, rfl, rfl⟩
  | raise e =>
    obtain ⟨rfl, rfl⟩ := h
    exact ⟨[], rfl, rfl, rfl⟩
  | call c next ih =>
    obtain ⟨ans, rest, rfl, hrest⟩ := h
    obtain ⟨es', rfl, hpath⟩ := ih ans hrest
    exact ⟨⟨c, ans⟩ :: es', rfl, ans, es', rfl, hpath⟩

theorem path_of {α : Type} {owner : ℕ} {p : Verification α} {es : List (Event verifierCalls Exn)}
    {r : Except Exn α} (h : Path p es r) : Path (p.of owner) (es.map (verifierEvent owner)) r := by
  induction p generalizing es with
  | ret a =>
    obtain ⟨rfl, rfl⟩ := h
    exact ⟨rfl, rfl⟩
  | raise e =>
    obtain ⟨rfl, rfl⟩ := h
    exact ⟨rfl, rfl⟩
  | call c next ih =>
    obtain ⟨ans, rest, rfl, hrest⟩ := h
    exact ⟨ans, _, rfl, ih ans hrest⟩

theorem verifyAccessJwt_accepts {owner : ℕ} {es : List HostEvent}
    (h : Path (verifyAccessJwt py v owner token) es (.ok (.ok claims))) :
    Accepts py v token (.mediaTypes accessTokenMediaTypes) claims := by
  unfold verifyAccessJwt at h
  obtain ⟨es₁, es₂, outcome, -, hverify, hafter⟩ := path_bind_ok h
  obtain ⟨es', -, hpath⟩ := of_path hverify
  cases outcome with
  | error reason =>
    obtain ⟨-, hr⟩ := hafter
    cases hr
  | ok claims' =>
    obtain ⟨-, hr⟩ := hafter
    cases hr
    exact verify_accepts hpath

/-- What the profile of an access token asks. -/
theorem accessTokenProfile_eq_ok {parties : AuthorizedParties} {audience : Str}
    {verified : VerifiedAccessToken}
    (h : accessTokenProfile claims parties audience = .ok verified) :
    claims.audiences = [audience] ∧ ∃ id ∈ parties.clientIds,
      claims.claims.get (str "azp") = some (.str id) := by
  unfold accessTokenProfile at h
  split at h
  · cases h
  · split_ifs at h with haudience hazp
    refine ⟨not_not.1 haudience, ?_⟩
    rw [Bool.not_eq_true', Bool.not_eq_false] at hazp
    unfold AuthorizedParties.permits at hazp
    split at hazp
    · rename_i id hid
      exact ⟨id, List.contains_iff_mem.1 hazp, hid⟩
    · cases hazp

/-- What an access token presented to the app or to a resource has once it is accepted. -/
structure AcceptedToken (py : Platform) (v : JwtVerifier) (token : Str) (parties : AuthorizedParties)
    (audience : Str) (claims : VerifiedClaims) : Prop where
  accepts : Accepts py v token (.mediaTypes accessTokenMediaTypes) claims
  audience : claims.audiences = [audience]
  party : ∃ id ∈ parties.clientIds, claims.claims.get (str "azp") = some (.str id)

theorem verifyAccessToken_accepts {parties : AuthorizedParties} {es : List HostEvent}
    {verified : VerifiedAccessToken}
    (h : Path (rp.verifyAccessToken py token parties) es (.ok (.ok verified))) :
    ∃ claims, AcceptedToken py (rp.verifierFor rp.config.clientId) token parties
      rp.config.clientId claims ∧
      accessTokenProfile claims parties rp.config.clientId = .ok verified := by
  unfold OidcRelyingParty.verifyAccessToken at h
  obtain ⟨es₁, es₂, outcome, -, hverify, hafter⟩ := path_bind_ok h
  cases outcome with
  | error refusal =>
    obtain ⟨-, hr⟩ := hafter
    cases hr
  | ok claims =>
    obtain ⟨-, hr⟩ := hafter
    have hprofile := (Except.ok.inj hr).symm
    obtain ⟨haudience, hparty⟩ := accessTokenProfile_eq_ok hprofile
    exact ⟨claims, ⟨verifyAccessJwt_accepts hverify, haudience, hparty⟩, hprofile⟩

theorem verifyResourceToken_accepts {owner : ℕ} {resourceUrl scope : Str}
    {parties : AuthorizedParties} {es : List HostEvent} {verified : VerifiedAccessToken}
    (h : Path (rp.verifyResourceToken py owner resourceUrl scope parties token) es
      (.ok (.ok verified))) :
    ∃ claims, AcceptedToken py (rp.verifierFor resourceUrl) token parties resourceUrl claims ∧
      accessTokenProfile claims parties resourceUrl = .ok verified ∧
      holdsScope claims.claims scope = true := by
  unfold OidcRelyingParty.verifyResourceToken at h
  obtain ⟨es₁, es₂, outcome, -, hverify, hafter⟩ := path_bind_ok h
  cases outcome with
  | error refusal =>
    obtain ⟨-, hr⟩ := hafter
    cases hr
  | ok claims =>
    cases hprofile : accessTokenProfile claims parties resourceUrl with
    | error refusal =>
      simp only [hprofile] at hafter
      obtain ⟨-, hr⟩ := hafter
      cases hr
    | ok profile =>
      simp only [hprofile] at hafter
      by_cases hscope : holdsScope claims.claims scope = true
      · rw [if_pos hscope] at hafter
        obtain ⟨-, hr⟩ := hafter
        cases hr
        obtain ⟨haudience, hparty⟩ := accessTokenProfile_eq_ok hprofile
        exact ⟨claims, ⟨verifyAccessJwt_accepts hverify, haudience, hparty⟩, hprofile, hscope⟩
      · rw [if_neg hscope] at hafter
        obtain ⟨-, hr⟩ := hafter
        cases hr

end Accepted

end WebAuth
