import WebAuth.DecisionTable
import WebAuth.LogoutTokens

/-!
# The decision on a callback

A callback is judged by a list of faults. Those of the query and of the pending login come before the
one token request, so the code is spent only when none of them is there; then come the faults of the
endpoint's answer, and those of the ID token it holds.
-/

namespace WebAuth

open Python Effects Program DecisionTable

/-! ## What the surroundings answer -/

/-- What the library relies on of PyJWT: a token it refuses raises an `InvalidTokenError`, and the
payload of one it decodes names an audience it was asked for. -/
structure PyJwtAnswers (py : Platform) : Prop where
  header : ∀ token tag, py.getUnverifiedHeader token ≠ .error (.other tag)
  payload : ∀ d tag, py.jwtDecode d ≠ .error (.other tag)
  audience : ∀ d payload, py.jwtDecode d = .ok payload → NamesAudience payload d.audience

/-- An answer the ports of a relying party may give: a token request may fail as the port declares,
and so may the fetch of a key set. -/
def PortAnswer (e : HostEvent) : Prop :=
  ∀ x, e.answer = .error x →
    ((∃ request, e.call = .postTokenRequest request) ∧ x = .tokenEndpointError) ∨
      ((∃ owner url, e.call = .verifier owner (.fetchKeySet url)) ∧ x = .keySetFetchError)

/-- The refresh token of an answer: none, or one that is well formed. -/
def IssuesRefreshToken (document : Dict) (refreshToken : Option Str) : Prop :=
  (document.get (str "refresh_token") = none ∧ refreshToken = none) ∨
    ∃ token, document.get (str "refresh_token") = some (.str token) ∧
      isRefreshToken token = true ∧ refreshToken = some token

/-- An answer of the endpoint grants the request: with an ID token, and a refresh token or none. -/
def AnswersTokens (py : Platform) (answer : Except Exn TokenEndpointAnswer) (idToken : Str)
    (refreshToken : Option Str) : Prop :=
  ∃ a, answer = .ok a ∧ a.status = 200 ∧
    (tokenAnswerDocument py a.body).get (str "id_token") = some (.str idToken) ∧
    IssuesRefreshToken (tokenAnswerDocument py a.body) refreshToken

/-- What a callback meets: the second it comes in, what the token endpoint would answer it, and what
the verifier would make of the ID token in that answer. -/
structure Circumstances (py : Platform) (rp : OidcRelyingParty) where
  now : ℚ
  answer : Except Exn TokenEndpointAnswer
  judged : Except RejectionReason VerifiedClaims
  steps : List HostEvent
  failure : ∀ e, answer = .error e → e = .tokenEndpointError
  judges : ∀ idToken refreshToken, AnswersTokens py answer idToken refreshToken →
    Path ((verify py (rp.verifierFor rp.config.clientId) idToken .any).of rp.jwtVerifier) steps
      (.ok judged)

/-! ## The faults -/

/-- A query of parameters that are each named once. -/
def Names (query : Str) (callback : List (Str × Str)) : Prop :=
  (encode query).isSome ∧ parseQsl true strict query = some callback ∧
    (callback.map (·.1)).Nodup

/-- An error code that is safe to show: `[A-Za-z0-9_.-]{1,64}`. -/
def IsSafeCode (code : Str) : Prop :=
  1 ≤ code.length ∧ code.length ≤ 64 ∧ ∀ c ∈ code, isAlphaNum c || isOneOf "_.-" c

/-- A fault of a callback. -/
inductive LoginFault where
  | malformedQuery
  | stateMismatch
  | expired
  | issuerMismatch
  | denied
  | malformedCode
  | requestRefused
  | endpointFailed
  | idTokenRejected
  | nonceMismatch
  | partyMismatch
  | invalidIdentity

namespace LoginFault

/-- The faults that are found before the code is spent. -/
def beforeExchange : List LoginFault :=
  [malformedQuery, stateMismatch, expired, issuerMismatch, denied, malformedCode]

/-- The faults in the order they are looked for. -/
def order : List LoginFault :=
  beforeExchange ++ [requestRefused, endpointFailed, idTokenRejected, nonceMismatch, partyMismatch,
    invalidIdentity]

/-- The reason a fault is refused for. -/
def reason : LoginFault → OidcRefusalReason
  | malformedQuery => .malformedCallback
  | stateMismatch => .stateMismatch
  | expired => .pendingLoginExpired
  | issuerMismatch => .issuerMismatch
  | denied => .authorizationDenied
  | malformedCode => .malformedCallback
  | requestRefused => .tokenRequestRefused
  | endpointFailed => .tokenEndpointFailed
  | idTokenRejected => .idTokenRejected
  | nonceMismatch => .nonceMismatch
  | partyMismatch => .authorizedPartyMismatch
  | invalidIdentity => .invalidIdentityClaim

end LoginFault

/-- The endpoint refuses a request: 400 or 401 with an error code. -/
def RefusesRequest (py : Platform) (answer : Except Exn TokenEndpointAnswer) (error : Str) : Prop :=
  ∃ a, answer = .ok a ∧ (a.status = 400 ∨ a.status = 401) ∧
    (tokenAnswerDocument py a.body).get (str "error") = some (.str error)

/-- The party an ID token is for: an `azp` is the client, and without one it has a single audience. -/
def IsForParty (rp : OidcRelyingParty) (claims : VerifiedClaims) : Prop :=
  (∀ azp, claims.claims.get (str "azp") = some azp → azp = .str rp.config.clientId) ∧
    (claims.claims.get (str "azp") = none → claims.audiences.length = 1)

/-- A claim that is a string, or missing or `null`. -/
def IsOptionalString (claims : Dict) (name : Str) (value : Option Str) : Prop :=
  ((claims.get name = none ∨ claims.get name = some .null) ∧ value = none) ∨
    ∃ s, claims.get name = some (.str s) ∧ value = some s

/-- The identity claims of an ID token. -/
structure ClaimsIdentity (claims : VerifiedClaims) (subject : Str) (groups : List Str)
    (sessionId preferredUsername : Option Str) : Prop where
  subject : claims.subject = some subject
  groups : groupPaths claims.claims = some groups
  sessionId : IsOptionalString claims.claims (str "sid") sessionId
  preferredUsername : IsOptionalString claims.claims (str "preferred_username") preferredUsername

section Faults

variable {py : Platform} {rp : OidcRelyingParty} (pending : PendingLogin) (query : Str)
  (c : Circumstances py rp)

/-- When a fault is there. Those of a parameter ask for a query that has parameters. -/
def LoginFault.Applies : LoginFault → Prop
  | malformedQuery => ¬∃ callback, Names query callback
  | stateMismatch => ∃ callback, Names query callback ∧
      ¬(pending.state ≠ [] ∧ callback.lookup (str "state") = some pending.state)
  | expired => ¬(0 ≤ c.now - pending.issuedAt ∧ c.now - pending.issuedAt ≤ 600)
  | issuerMismatch => ∃ callback issuer, Names query callback ∧
      callback.lookup (str "iss") = some issuer ∧ issuer ≠ rp.config.issuer
  | denied => ∃ callback error, Names query callback ∧ callback.lookup (str "error") = some error
  | malformedCode => ∃ callback, Names query callback ∧
      ¬∃ code, callback.lookup (str "code") = some code ∧ code ≠ [] ∧ code.length ≤ 2048
  | requestRefused => ∃ error, RefusesRequest py c.answer error
  | endpointFailed => ¬(∃ error, RefusesRequest py c.answer error) ∧
      ¬∃ idToken refreshToken, AnswersTokens py c.answer idToken refreshToken
  | idTokenRejected => ∃ reason, c.judged = .error reason
  | nonceMismatch => ∃ claims, c.judged = .ok claims ∧
      ¬(pending.nonce ≠ [] ∧ claims.claims.get (str "nonce") = some (.str pending.nonce))
  | partyMismatch => ∃ claims, c.judged = .ok claims ∧ ¬IsForParty rp claims
  | invalidIdentity => ∃ claims, c.judged = .ok claims ∧
      ¬∃ subject groups sessionId preferredUsername,
        ClaimsIdentity claims subject groups sessionId preferredUsername

/-- How a fault is refused. A denied authorization and a refused request show the error code the
issuer gave when it is a safe one, and a rejected token the verifier's reason. -/
structure LoginFault.Refuses (fault : LoginFault) (refusal : OidcRefusal) : Prop where
  reason : refusal.reason = fault.reason
  idpError : ∀ code, refusal.idpError = some code ↔ IsSafeCode code ∧
    ((fault = .denied ∧ ∃ callback, Names query callback ∧
        callback.lookup (str "error") = some code) ∨
      (fault = .requestRefused ∧ RefusesRequest py c.answer code))
  tokenRejection : ∀ reason, refusal.tokenRejection = some reason ↔
    fault = .idTokenRejected ∧ c.judged = .error reason

/-- The identity a callback proves: exactly the claims verified, with the tokens of the answer. -/
structure ProvesIdentity (identity : OidcIdentity) : Prop where
  tokens : AnswersTokens py c.answer identity.idToken identity.refreshToken
  claims : ∃ claims, c.judged = .ok claims ∧ identity.issuer = claims.issuer ∧
    ClaimsIdentity claims identity.subject identity.groups identity.sessionId
      identity.preferredUsername

/-- **The decision on a callback**: the first fault, or the identity when there is none. -/
structure LoginDecision (reply : Except OidcRefusal OidcIdentity) : Prop where
  refused : ∀ refusal, reply = .error refusal ↔
    ∃ fault, First (LoginFault.Applies pending query c) LoginFault.order fault ∧
      fault.Refuses query c refusal
  admitted : ∀ identity, reply = .ok identity ↔
    (∀ fault : LoginFault, ¬fault.Applies pending query c) ∧ ProvesIdentity c identity

end Faults

/-! ## The reply of given circumstances -/

/-- The tokens of an answer of the endpoint. -/
def tokensOf (py : Platform) : Except Exn TokenEndpointAnswer → Except Exn (Str × Option Str)
  | .error _ => refusal .tokenEndpointFailed
  | .ok answer => do
    let document ← readTokenAnswer py answer
    let rawIdToken ← rawIdTokenOf document
    let refreshToken ← issuedRefreshToken document
    return (rawIdToken, refreshToken)

/-- What a verification leaves of an ID token. -/
def claimsOrRefusal : Except RejectionReason VerifiedClaims → Except Exn VerifiedClaims
  | .ok claims => .ok claims
  | .error reason => .error (.refusalError { reason := .idTokenRejected, tokenRejection := some reason })

/-- `_identity` from the code on. -/
def identityOfCode (py : Platform) (rp : OidcRelyingParty) (pending : PendingLogin)
    (c : Circumstances py rp) : Except Exn OidcIdentity := do
  let (rawIdToken, refreshToken) ← tokensOf py c.answer
  let claims ← claimsOrRefusal c.judged
  rp.checkedIdentity pending claims rawIdToken refreshToken

/-- `_authorization_code` at a second. -/
def codeAt (rp : OidcRelyingParty) (pending : PendingLogin) (callback : List (Str × Str)) (now : ℚ) :
    Except Exn Str := do
  if !(← isSameSecret (callback.lookup (str "state")) pending.state) then refusal .stateMismatch
  else do
    let ageSeconds ← ageAt now pending.issuedAt
    if !(0 ≤ ageSeconds && ageSeconds ≤ pendingLoginMaxAgeSeconds) then refusal .pendingLoginExpired
    else rp.namedCode callback

/-- `_identity` in given circumstances. -/
def identityIn (py : Platform) (rp : OidcRelyingParty) (pending : PendingLogin) (query : Str)
    (c : Circumstances py rp) : Except Exn OidcIdentity := do
  let callback ← callbackParameters query
  let _ ← codeAt rp pending callback c.now
  identityOfCode py rp pending c

section Reply

variable {py : Platform} {rp : OidcRelyingParty} {pending : PendingLogin} {query : Str}
  {c : Circumstances py rp} {callback : List (Str × Str)}

theorem callbackParameters_eq_ok : callbackParameters query = .ok callback ↔ Names query callback := by
  unfold callbackParameters Names
  cases hencode : encode query with
  | none => simp [refusal]
  | some bytes =>
    rw [if_neg (by simp)]
    cases hparse : parseQsl true strict query with
    | none => simp [refusal]
    | some pairs =>
      simp only [Option.isSome_some, Option.some.injEq, true_and]
      split_ifs with hnodup
      · constructor
        · intro h
          obtain rfl := Except.ok.inj h
          exact ⟨rfl, hnodup⟩
        · rintro ⟨rfl, -⟩
          rfl
      · simp only [refusal, reduceCtorEq, false_iff, not_and]
        rintro rfl
        exact hnodup

theorem callbackParameters_cases (query : Str) :
    (∃ callback, Names query callback ∧ callbackParameters query = .ok callback) ∨
      (¬∃ callback, Names query callback) ∧
        callbackParameters query = refusal .malformedCallback := by
  cases h : callbackParameters query with
  | ok callback => exact .inl ⟨callback, callbackParameters_eq_ok.1 h, rfl⟩
  | error e =>
    refine .inr ⟨?_, ?_⟩
    · rintro ⟨callback, hnames⟩
      rw [callbackParameters_eq_ok.2 hnames] at h
      cases h
    · unfold callbackParameters at h
      repeat' split at h
      all_goals first
        | exact h.symm
        | cases h

theorem Names.unique {callback' : List (Str × Str)} (h : Names query callback)
    (h' : Names query callback') : callback = callback' :=
  Option.some.inj (h.2.1.symm.trans h'.2.1)

/-- A fault of a parameter is a fault of the one list of parameters. -/
theorem names_exists (h : Names query callback) {P : List (Str × Str) → Prop} :
    (∃ callback, Names query callback ∧ P callback) ↔ P callback := by
  constructor
  · rintro ⟨callback', hnames, hp⟩
    rwa [h.unique hnames]
  · exact fun hp => ⟨callback, h, hp⟩

/-- The comparison with a secret that encodes answers. -/
theorem isSameSecret_answers (received : Option Str) {expected : Str} (h : (encode expected).isSome) :
    ∃ same, isSameSecret received expected = .ok same ∧
      (same = true ↔ expected ≠ [] ∧ received = some expected) := by
  obtain ⟨made, hmade⟩ := Option.isSome_iff_exists.1 h
  unfold isSameSecret encoded
  by_cases hempty : expected = []
  · exact ⟨false, if_pos hempty, by simp [hempty]⟩
  rw [if_neg hempty]
  cases received with
  | none => exact ⟨false, rfl, by simp⟩
  | some s =>
    rw [Option.bind_some]
    cases hs : encode s with
    | none =>
      refine ⟨false, rfl, ?_⟩
      have hne : s ≠ expected := by
        rintro rfl
        rw [hs] at hmade
        cases hmade
      simp [hne]
    | some given =>
      rw [hmade]
      refine ⟨decide (given = made), rfl, ?_⟩
      rw [decide_eq_true_eq]
      constructor
      · rintro rfl
        exact ⟨hempty, congrArg some (encode_injective hs hmade)⟩
      · rintro ⟨-, hsame⟩
        obtain rfl := Option.some.inj hsame
        exact Option.some.inj (hs.symm.trans hmade)

theorem idpErrorCode_eq_some {error code : Str} :
    idpErrorCode error = some code ↔ IsSafeCode code ∧ error = code := by
  unfold idpErrorCode IsSafeCode
  constructor
  · intro h
    split_ifs at h with hsafe
    obtain rfl := Option.some.inj h
    simp only [Bool.and_eq_true, decide_eq_true_eq, List.all_eq_true] at hsafe
    exact ⟨⟨hsafe.1.1, hsafe.1.2, hsafe.2⟩, rfl⟩
  · rintro ⟨⟨hlow, hhigh, hall⟩, rfl⟩
    rw [if_pos]
    simpa only [Bool.and_eq_true, decide_eq_true_eq, List.all_eq_true] using ⟨⟨hlow, hhigh⟩, hall⟩

/-! ### The answer of the endpoint -/

theorem rawIdTokenOf_cases (document : Dict) :
    (∃ idToken, document.get (str "id_token") = some (.str idToken) ∧
      rawIdTokenOf document = .ok idToken) ∨
    (¬∃ idToken, document.get (str "id_token") = some (.str idToken)) ∧
      rawIdTokenOf document = refusal .tokenEndpointFailed := by
  unfold rawIdTokenOf
  split
  · rename_i idToken hid
    exact .inl ⟨idToken, hid, rfl⟩
  · rename_i hno
    exact .inr ⟨fun ⟨idToken, hid⟩ => hno idToken hid, rfl⟩

theorem IssuesRefreshToken.unique {document : Dict} {refreshToken refreshToken' : Option Str}
    (h : IssuesRefreshToken document refreshToken)
    (h' : IssuesRefreshToken document refreshToken') : refreshToken = refreshToken' := by
  rcases h with ⟨hnone, rfl⟩ | ⟨token, hsome, -, rfl⟩
  · rcases h' with ⟨-, rfl⟩ | ⟨token', hsome', -, -⟩
    · rfl
    · cases hnone.symm.trans hsome'
  · rcases h' with ⟨hnone', -⟩ | ⟨token', hsome', -, rfl⟩
    · cases hsome.symm.trans hnone'
    · rw [Json.str.inj (Option.some.inj (hsome.symm.trans hsome'))]

theorem issuedRefreshToken_cases (document : Dict) :
    (∃ refreshToken, IssuesRefreshToken document refreshToken ∧
      issuedRefreshToken document = .ok refreshToken) ∨
    (¬∃ refreshToken, IssuesRefreshToken document refreshToken) ∧
      issuedRefreshToken document = refusal .tokenEndpointFailed := by
  unfold issuedRefreshToken IssuesRefreshToken
  split
  · rename_i hnone
    exact .inl ⟨none, .inl ⟨hnone, rfl⟩, rfl⟩
  · rename_i token hsome
    split_ifs with htoken
    · exact .inl ⟨some token, .inr ⟨token, hsome, htoken, rfl⟩, rfl⟩
    · refine .inr ⟨?_, rfl⟩
      rintro ⟨_, ⟨hnone, -⟩ | ⟨token', hsome', htoken', -⟩⟩
      · cases hsome.symm.trans hnone
      · obtain rfl := Json.str.inj (Option.some.inj (hsome.symm.trans hsome'))
        exact htoken htoken'
  · rename_i value hno hsome
    refine .inr ⟨?_, rfl⟩
    rintro ⟨_, ⟨hnone, -⟩ | ⟨token, hsome', -⟩⟩
    · cases hsome.symm.trans hnone
    · exact hno token (Option.some.inj (hsome.symm.trans hsome'))

theorem readTokenAnswer_cases (py : Platform) (a : TokenEndpointAnswer) :
    (∃ error, RefusesRequest py (.ok a) error ∧ a.status ≠ 200 ∧ readTokenAnswer py a =
      .error (.refusalError { reason := .tokenRequestRefused, idpError := idpErrorCode error })) ∨
    ((¬∃ error, RefusesRequest py (.ok a) error) ∧ a.status ≠ 200 ∧
      readTokenAnswer py a = refusal .tokenEndpointFailed) ∨
    ((¬∃ error, RefusesRequest py (.ok a) error) ∧ a.status = 200 ∧
      readTokenAnswer py a = .ok (tokenAnswerDocument py a.body)) := by
  unfold readTokenAnswer
  by_cases hstatus : a.status = 200
  · refine .inr (.inr ⟨?_, hstatus, if_pos hstatus⟩)
    rintro ⟨error, a', heq, hcode, -⟩
    obtain rfl := Except.ok.inj heq
    omega
  dsimp only
  rw [if_neg hstatus]
  split
  · rename_i error herror
    split_ifs with hcode
    · exact .inl ⟨error, ⟨a, rfl, by simpa using hcode, herror⟩, hstatus, rfl⟩
    · refine .inr (.inl ⟨?_, hstatus, rfl⟩)
      rintro ⟨error', a', heq, hcode', -⟩
      obtain rfl := Except.ok.inj heq
      exact hcode (by simpa using hcode')
  · rename_i hno
    refine .inr (.inl ⟨?_, hstatus, rfl⟩)
    rintro ⟨error, a', heq, -, herror⟩
    obtain rfl := Except.ok.inj heq
    exact hno error herror

theorem AnswersTokens.unique {answer : Except Exn TokenEndpointAnswer} {idToken idToken' : Str}
    {refreshToken refreshToken' : Option Str} (h : AnswersTokens py answer idToken refreshToken)
    (h' : AnswersTokens py answer idToken' refreshToken') :
    idToken = idToken' ∧ refreshToken = refreshToken' := by
  obtain ⟨a, rfl, -, hid, hrefresh⟩ := h
  obtain ⟨a', heq, -, hid', hrefresh'⟩ := h'
  obtain rfl := Except.ok.inj heq
  exact ⟨Json.str.inj (Option.some.inj (hid.symm.trans hid')), hrefresh.unique hrefresh'⟩

/-- An answer refuses the request, fails, or holds the tokens. -/
theorem tokensOf_cases (py : Platform) (answer : Except Exn TokenEndpointAnswer) :
    (∃ error, RefusesRequest py answer error ∧ tokensOf py answer =
      .error (.refusalError { reason := .tokenRequestRefused, idpError := idpErrorCode error })) ∨
    (¬(∃ error, RefusesRequest py answer error) ∧
      ¬(∃ idToken refreshToken, AnswersTokens py answer idToken refreshToken) ∧
      tokensOf py answer = refusal .tokenEndpointFailed) ∨
    (¬(∃ error, RefusesRequest py answer error) ∧ ∃ idToken refreshToken,
      AnswersTokens py answer idToken refreshToken ∧
      tokensOf py answer = .ok (idToken, refreshToken)) := by
  cases answer with
  | error e =>
    refine .inr (.inl ⟨?_, ?_, rfl⟩)
    · rintro ⟨error, a, ⟨⟩, -⟩
    · rintro ⟨idToken, refreshToken, a, ⟨⟩, -⟩
  | ok a =>
  have hgranted : ∀ {idToken refreshToken}, AnswersTokens py (.ok a) idToken refreshToken →
      a.status = 200 ∧ (tokenAnswerDocument py a.body).get (str "id_token") = some (.str idToken) ∧
        IssuesRefreshToken (tokenAnswerDocument py a.body) refreshToken := by
    rintro idToken refreshToken ⟨a', heq, htokens⟩
    obtain rfl := Except.ok.inj heq
    exact htokens
  unfold tokensOf
  dsimp only
  rcases readTokenAnswer_cases py a with ⟨error, hrefuses, -, hread⟩ | ⟨hno, hstatus, hread⟩ |
    ⟨hno, hstatus, hread⟩
  · exact .inl ⟨error, hrefuses, by rw [hread]; rfl⟩
  · exact .inr (.inl ⟨hno, fun ⟨_, _, htokens⟩ => hstatus (hgranted htokens).1, by rw [hread]; rfl⟩)
  right
  rcases rawIdTokenOf_cases (tokenAnswerDocument py a.body) with ⟨idToken, hid, hraw⟩ | ⟨hnone, hraw⟩
  · rcases issuedRefreshToken_cases (tokenAnswerDocument py a.body) with
      ⟨refreshToken, hrefresh, hissued⟩ | ⟨hbad, hissued⟩
    · exact .inr ⟨hno, idToken, refreshToken, ⟨a, rfl, hstatus, hid, hrefresh⟩, by
        rw [hread]
        show (rawIdTokenOf _).bind _ = _
        rw [hraw]
        show (issuedRefreshToken _).bind _ = _
        rw [hissued]
        rfl⟩
    · refine .inl ⟨hno, fun ⟨_, _, htokens⟩ => hbad ⟨_, (hgranted htokens).2.2⟩, ?_⟩
      rw [hread]
      show (rawIdTokenOf _).bind _ = _
      rw [hraw]
      show (issuedRefreshToken _).bind _ = _
      rw [hissued]
      rfl
  · refine .inl ⟨hno, fun ⟨_, _, htokens⟩ => hnone ⟨_, (hgranted htokens).2.1⟩, ?_⟩
    rw [hread]
    show (rawIdTokenOf _).bind _ = _
    rw [hraw]
    rfl

/-! ### The claims of the ID token -/

theorem isAuthorizedParty_iff {claims : VerifiedClaims} :
    rp.isAuthorizedParty claims = true ↔ IsForParty rp claims := by
  unfold OidcRelyingParty.isAuthorizedParty IsForParty
  cases hazp : claims.claims.get (str "azp") with
  | none => simp
  | some azp =>
    simp only [Option.some.injEq, forall_eq', reduceCtorEq, false_implies, and_true]
    constructor
    · exact Json.isStr_eq_true
    · rintro rfl
      simp [Json.isStr]

theorem optionalStringClaim_cases (claims : Dict) (name : Str) :
    (∃ value, IsOptionalString claims name value ∧ optionalStringClaim claims name = .ok value) ∨
    (¬∃ value, IsOptionalString claims name value) ∧
      optionalStringClaim claims name = refusal .invalidIdentityClaim := by
  unfold optionalStringClaim IsOptionalString
  split
  · rename_i hnone
    exact .inl ⟨none, .inl ⟨.inl hnone, rfl⟩, rfl⟩
  · rename_i hnull
    exact .inl ⟨none, .inl ⟨.inr hnull, rfl⟩, rfl⟩
  · rename_i s hs
    exact .inl ⟨some s, .inr ⟨s, hs, rfl⟩, rfl⟩
  · rename_i value hnotNull hnotStr hvalue
    refine .inr ⟨?_, rfl⟩
    rintro ⟨_, ⟨hnone | hnull, -⟩ | ⟨s, hs, -⟩⟩
    · cases hvalue.symm.trans hnone
    · exact hnotNull (Option.some.inj (hvalue.symm.trans hnull))
    · exact hnotStr s (Option.some.inj (hvalue.symm.trans hs))

theorem IsOptionalString.unique {claims : Dict} {name : Str} {value value' : Option Str}
    (h : IsOptionalString claims name value) (h' : IsOptionalString claims name value') :
    value = value' := by
  rcases h with ⟨hnone, rfl⟩ | ⟨s, hs, rfl⟩
  · rcases h' with ⟨-, rfl⟩ | ⟨s', hs', -⟩
    · rfl
    · rcases hnone with hnone | hnone <;> cases hnone.symm.trans hs'
  · rcases h' with ⟨hnone | hnone, -⟩ | ⟨s', hs', rfl⟩
    · cases hs.symm.trans hnone
    · cases hs.symm.trans hnone
    · rw [Json.str.inj (Option.some.inj (hs.symm.trans hs'))]

/-- The identity claims are all there, or the token is refused. -/
theorem identityOf_cases (claims : VerifiedClaims) (idToken : Str) (refreshToken : Option Str) :
    (∃ subject groups sessionId preferredUsername,
      ClaimsIdentity claims subject groups sessionId preferredUsername ∧
      identityOf claims idToken refreshToken = .ok
        ⟨subject, claims.issuer, groups, sessionId, preferredUsername, idToken, refreshToken⟩) ∨
    (¬∃ subject groups sessionId preferredUsername,
      ClaimsIdentity claims subject groups sessionId preferredUsername) ∧
      identityOf claims idToken refreshToken = refusal .invalidIdentityClaim := by
  unfold identityOf
  split
  · rename_i subject groups hsubject hgroups
    rcases optionalStringClaim_cases claims.claims (str "sid") with ⟨sid, hsid, hread⟩ | ⟨hsid, hread⟩
    · rcases optionalStringClaim_cases claims.claims (str "preferred_username") with
        ⟨username, husername, hread'⟩ | ⟨husername, hread'⟩
      · refine .inl ⟨subject, groups, sid, username, ⟨hsubject, hgroups, hsid, husername⟩, ?_⟩
        rw [hread, hread']
        rfl
      · refine .inr ⟨?_, by rw [hread, hread']; rfl⟩
        rintro ⟨_, _, _, username, hclaims⟩
        exact husername ⟨username, hclaims.preferredUsername⟩
    · refine .inr ⟨?_, by rw [hread]; rfl⟩
      rintro ⟨_, _, sid, _, hclaims⟩
      exact hsid ⟨sid, hclaims.sessionId⟩
  · rename_i hno
    refine .inr ⟨?_, rfl⟩
    rintro ⟨subject, groups, _, _, hclaims⟩
    exact hno subject groups hclaims.subject hclaims.groups

/-! ### The table -/

/-- What a fault or none of them makes of an answer. -/
def Replies (pending : PendingLogin) (query : Str) (c : Circumstances py rp)
    (answer : Except Exn OidcIdentity) : List LoginFault → Prop :=
  Decides (LoginFault.Applies pending query c)
    (fun fault => ∃ refusal, answer = .error (.refusalError refusal) ∧
      fault.Refuses query c refusal)
    (∃ identity, answer = .ok identity ∧ ProvesIdentity c identity)

/-- A fault whose refusal shows its reason alone. -/
theorem refuses_reason {fault : LoginFault} (hdenied : fault ≠ .denied)
    (hrefused : fault ≠ .requestRefused) (hrejected : fault ≠ .idTokenRejected) :
    fault.Refuses query c { reason := fault.reason } where
  reason := rfl
  idpError := by simp [hdenied, hrefused]
  tokenRejection := by simp [hrejected]

/-- The rows of the identity claims. -/
theorem checkedIdentity_replies {claims : VerifiedClaims} {idToken : Str}
    {refreshToken : Option Str} (hnonce : (encode pending.nonce).isSome)
    (hjudged : c.judged = .ok claims) (htokens : AnswersTokens py c.answer idToken refreshToken) :
    Replies pending query c (rp.checkedIdentity pending claims idToken refreshToken)
      [.nonceMismatch, .partyMismatch, .invalidIdentity] := by
  have hone : ∀ {P : VerifiedClaims → Prop}, (∃ claims, c.judged = .ok claims ∧ P claims) ↔
      P claims := by
    intro P
    constructor
    · rintro ⟨claims', heq, hp⟩
      rw [hjudged] at heq
      rwa [Except.ok.inj heq]
    · exact fun hp => ⟨claims, hjudged, hp⟩
  have hstring : (claims.claims.get (str "nonce")).bind Json.string = some pending.nonce ↔
      claims.claims.get (str "nonce") = some (.str pending.nonce) := by
    constructor
    · intro h
      obtain ⟨value, hvalue, hs⟩ := Option.bind_eq_some_iff.1 h
      rw [hvalue, Json.string_eq_some hs]
    · intro h
      rw [h]
      rfl
  obtain ⟨same, heq, hsame⟩ := isSameSecret_answers
    ((claims.claims.get (str "nonce")).bind Json.string) hnonce
  rw [hstring] at hsame
  unfold OidcRelyingParty.checkedIdentity
  rw [heq]
  dsimp only [bind, Except.bind]
  by_cases htrue : same = true
  · refine .inr ⟨fun h => hone.1 h (hsame.1 htrue), ?_⟩
    rw [if_neg (by simpa using htrue)]
    by_cases hparty : IsForParty rp claims
    · refine .inr ⟨fun h => hone.1 h hparty, ?_⟩
      rw [if_neg (by simpa using isAuthorizedParty_iff.2 hparty)]
      rcases identityOf_cases claims idToken refreshToken with
        ⟨subject, groups, sid, username, hclaims, hidentity⟩ | ⟨hno, hidentity⟩
      · refine .inr ⟨fun h => hone.1 h ⟨_, _, _, _, hclaims⟩, _, hidentity, htokens, ?_⟩
        exact ⟨claims, hjudged, rfl, hclaims⟩
      · exact .inl ⟨hone.2 hno, _, hidentity,
          refuses_reason (by simp) (by simp) (by simp)⟩
    · rw [if_pos (by simpa using fun h => hparty (isAuthorizedParty_iff.1 h))]
      exact .inl ⟨hone.2 hparty, _, rfl,
        refuses_reason (by simp) (by simp) (by simp)⟩
  · rw [if_pos (by simpa using htrue)]
    exact .inl ⟨hone.2 fun h => htrue (hsame.2 h), _, rfl,
      refuses_reason (by simp) (by simp) (by simp)⟩

/-- The rows from the code on. -/
theorem identityOfCode_replies (query : Str) (hnonce : (encode pending.nonce).isSome) :
    Replies pending query c (identityOfCode py rp pending c)
      [.requestRefused, .endpointFailed, .idTokenRejected, .nonceMismatch, .partyMismatch,
        .invalidIdentity] := by
  unfold identityOfCode
  rcases tokensOf_cases py c.answer with ⟨error, hrefuses, htokens⟩ | ⟨hno, hnone, htokens⟩ |
    ⟨hno, idToken, refreshToken, hanswers, htokens⟩
  · rw [htokens]
    refine .inl ⟨⟨error, hrefuses⟩, _, rfl, rfl, fun code => ?_, by simp⟩
    rw [idpErrorCode_eq_some]
    refine and_congr_right fun _ => ?_
    simp only [reduceCtorEq, false_and, true_and, false_or]
    constructor
    · rintro rfl
      exact hrefuses
    · rintro ⟨a, ha, -, hcode⟩
      obtain ⟨a', ha', -, herror⟩ := hrefuses
      obtain rfl := Except.ok.inj (ha.symm.trans ha')
      exact Json.str.inj (Option.some.inj (herror.symm.trans hcode))
  · rw [htokens]
    exact .inr ⟨hno, .inl ⟨⟨hno, hnone⟩, _, rfl, refuses_reason (by simp) (by simp) (by simp)⟩⟩
  · rw [htokens]
    refine .inr ⟨hno, .inr ⟨fun h => h.2 ⟨_, _, hanswers⟩, ?_⟩⟩
    cases hjudged : c.judged with
    | error reason =>
      refine .inl ⟨⟨reason, hjudged⟩, _, rfl, rfl, by simp, fun reason' => ?_⟩
      simp [hjudged]
    | ok claims =>
      refine .inr ⟨?_, checkedIdentity_replies hnonce hjudged hanswers⟩
      rintro ⟨reason, hreason⟩
      cases hjudged.symm.trans hreason

/-- A code that is named is the one of the callback. -/
theorem namedCode_eq_ok {code : Str} (h : rp.namedCode callback = .ok code) :
    callback.lookup (str "code") = some code := by
  unfold OidcRelyingParty.namedCode at h
  split_ifs at h
  · cases h
  split at h
  · cases h
  split at h
  · rename_i named hlookup
    split_ifs at h
    · cases h
    · rw [hlookup, Except.ok.inj h]
  · cases h

/-- The rows of the code a callback names. -/
theorem namedCode_decides (pending : PendingLogin) (c : Circumstances py rp)
    (hnames : Names query callback) :
    Decides (LoginFault.Applies pending query c)
      (fun fault => ∃ refusal, fault.Refuses query c refusal ∧
        rp.namedCode callback = .error (.refusalError refusal))
      (∃ code, callback.lookup (str "code") = some code ∧ rp.namedCode callback = .ok code)
      [.issuerMismatch, .denied, .malformedCode] := by
  have hissuer : (∃ callback' issuer, Names query callback' ∧
      callback'.lookup (str "iss") = some issuer ∧ issuer ≠ rp.config.issuer) ↔
      (callback.lookup (str "iss")).getD rp.config.issuer ≠ rp.config.issuer := by
    constructor
    · rintro ⟨callback', issuer, hnames', hlookup, hne⟩
      rwa [hnames.unique hnames', hlookup]
    · intro hne
      cases hlookup : callback.lookup (str "iss") with
      | none => simp [hlookup] at hne
      | some issuer => exact ⟨callback, issuer, hnames, hlookup, by simpa [hlookup] using hne⟩
  have herrors : ∀ {error}, (∃ callback', Names query callback' ∧
      callback'.lookup (str "error") = some error) ↔ callback.lookup (str "error") = some error :=
    names_exists hnames
  unfold OidcRelyingParty.namedCode
  by_cases hne : (callback.lookup (str "iss")).getD rp.config.issuer ≠ rp.config.issuer
  · rw [if_pos hne]
    exact .inl ⟨hissuer.2 hne, _, refuses_reason (by simp) (by simp) (by simp), rfl⟩
  refine .inr ⟨fun h => hne (hissuer.1 h), ?_⟩
  rw [if_neg hne]
  cases herror : callback.lookup (str "error") with
  | some error =>
    refine .inl ⟨⟨callback, error, hnames, herror⟩, _, ⟨rfl, fun code => ?_, by simp⟩, rfl⟩
    rw [idpErrorCode_eq_some]
    refine and_congr_right fun _ => ?_
    simp only [true_and, reduceCtorEq, false_and, or_false]
    rw [herrors, herror, Option.some.injEq]
  | none =>
    refine .inr ⟨?_, ?_⟩
    · rintro ⟨callback', error, hnames', herror'⟩
      rw [← hnames.unique hnames', herror] at herror'
      cases herror'
    cases hcode : callback.lookup (str "code") with
    | none =>
      refine .inl ⟨(names_exists hnames).2 ?_, _, refuses_reason (by simp) (by simp) (by simp), rfl⟩
      rintro ⟨code, hcode', -⟩
      cases hcode.symm.trans hcode'
    | some code =>
      dsimp only
      by_cases hgood : code ≠ [] ∧ code.length ≤ 2048
      · refine .inr ⟨fun h => (names_exists hnames).1 h ⟨code, hcode, hgood⟩, code, rfl, ?_⟩
        rw [if_neg]
        rw [Bool.or_eq_true, decide_eq_true_eq, decide_eq_true_eq, not_or, not_lt]
        exact hgood
      · refine .inl ⟨(names_exists hnames).2 ?_, _, refuses_reason (by simp) (by simp) (by simp), ?_⟩
        · rintro ⟨code', hcode', hgood'⟩
          obtain rfl := Option.some.inj (hcode.symm.trans hcode')
          exact hgood hgood'
        · rw [if_pos]
          · rfl
          · by_cases hempty : code = []
            · simp [hempty]
            · simp only [hempty, decide_false, Bool.false_or, decide_eq_true_eq]
              exact not_le.1 fun hle => hgood ⟨hempty, hle⟩

/-- What `_authorization_code` ends with: the first fault before the exchange, or the code. -/
theorem codeAt_decides (c : Circumstances py rp) (hnames : Names query callback)
    (hstate : (encode pending.state).isSome) (hissued : FitsFloat pending.issuedAt) :
    Decides (LoginFault.Applies pending query c)
      (fun fault => ∃ refusal, fault.Refuses query c refusal ∧
        codeAt rp pending callback c.now = .error (.refusalError refusal))
      (∃ code, callback.lookup (str "code") = some code ∧
        codeAt rp pending callback c.now = .ok code) LoginFault.beforeExchange := by
  obtain ⟨same, heq, hsame⟩ := isSameSecret_answers (callback.lookup (str "state")) hstate
  have hage : (decide (0 ≤ c.now - pending.issuedAt) &&
      decide (c.now - pending.issuedAt ≤ pendingLoginMaxAgeSeconds)) = true ↔
      0 ≤ c.now - pending.issuedAt ∧ c.now - pending.issuedAt ≤ 600 := by
    rw [Bool.and_eq_true, decide_eq_true_eq, decide_eq_true_eq]
    rfl
  unfold codeAt
  rw [heq]
  dsimp only [bind, Except.bind]
  refine .inr ⟨fun h => h ⟨callback, hnames⟩, ?_⟩
  by_cases htrue : same = true
  · refine .inr ⟨fun h => (names_exists hnames).1 h (hsame.1 htrue), ?_⟩
    rw [if_neg (by simpa using htrue), ageAt, if_pos hissued]
    dsimp only
    by_cases hfresh : 0 ≤ c.now - pending.issuedAt ∧ c.now - pending.issuedAt ≤ 600
    · rw [hage.2 hfresh, if_neg (by simp)]
      exact .inr ⟨fun h => h hfresh, namedCode_decides pending c hnames⟩
    · rw [if_pos (by rw [Bool.not_eq_true', ← Bool.not_eq_true, hage]; exact hfresh)]
      exact .inl ⟨hfresh, _, refuses_reason (by simp) (by simp) (by simp), rfl⟩
  · rw [if_pos (by simpa using htrue)]
    exact .inl ⟨(names_exists hnames).2 fun h => htrue (hsame.2 h), _,
      refuses_reason (by simp) (by simp) (by simp), rfl⟩

variable (query) in
/-- **The whole table.** -/
theorem identityIn_replies (c : Circumstances py rp) (hstate : (encode pending.state).isSome)
    (hnonce : (encode pending.nonce).isSome) (hissued : FitsFloat pending.issuedAt) :
    Replies pending query c (identityIn py rp pending query c) LoginFault.order := by
  unfold identityIn
  rcases callbackParameters_cases query with ⟨callback, hnames, hread⟩ | ⟨hno, hread⟩
  · rw [hread]
    refine (codeAt_decides c hnames hstate hissued).append ?_ ?_
    · rintro fault ⟨refusal, hrefuses, herror⟩
      refine ⟨refusal, ?_, hrefuses⟩
      show (codeAt rp pending callback c.now).bind _ = _
      rw [herror]
      rfl
    · rintro ⟨code, -, hcode⟩
      have heq : (Except.ok callback >>= fun callback =>
          codeAt rp pending callback c.now >>= fun _ => identityOfCode py rp pending c) =
          identityOfCode py rp pending c := by
        show (codeAt rp pending callback c.now).bind _ = _
        rw [hcode]
        rfl
      rw [heq]
      exact identityOfCode_replies query hnonce
  · rw [hread]
    exact .inl ⟨hno, _, rfl, refuses_reason (by simp) (by simp) (by simp)⟩

theorem LoginFault.Refuses.unique {fault : LoginFault} {cause cause' : OidcRefusal}
    (h : fault.Refuses query c cause) (h' : fault.Refuses query c cause') : cause = cause' := by
  have hreason := h.reason.trans h'.reason.symm
  have hidp : cause.idpError = cause'.idpError :=
    Option.ext fun code => (h.idpError code).trans (h'.idpError code).symm
  have hrejection : cause.tokenRejection = cause'.tokenRejection :=
    Option.ext fun reason => (h.tokenRejection reason).trans (h'.tokenRejection reason).symm
  obtain ⟨_, _, _⟩ := cause
  obtain ⟨_, _, _⟩ := cause'
  simp only at hreason hidp hrejection
  rw [hreason, hidp, hrejection]

theorem ProvesIdentity.unique {identity identity' : OidcIdentity} (h : ProvesIdentity c identity)
    (h' : ProvesIdentity c identity') : identity = identity' := by
  obtain ⟨hid, hrefresh⟩ := h.tokens.unique h'.tokens
  obtain ⟨claims, hjudged, hissuer, hclaims⟩ := h.claims
  obtain ⟨claims', hjudged', hissuer', hclaims'⟩ := h'.claims
  obtain rfl := Except.ok.inj (hjudged.symm.trans hjudged')
  have hsubject := Option.some.inj (hclaims.subject.symm.trans hclaims'.subject)
  have hgroups := Option.some.inj (hclaims.groups.symm.trans hclaims'.groups)
  have hsession := hclaims.sessionId.unique hclaims'.sessionId
  have husername := hclaims.preferredUsername.unique hclaims'.preferredUsername
  obtain ⟨_, _, _, _, _, _, _⟩ := identity
  obtain ⟨_, _, _, _, _, _, _⟩ := identity'
  simp only at hid hrefresh hissuer hissuer' hsubject hgroups hsession husername
  rw [hid, hrefresh, hissuer, hissuer', hsubject, hgroups, hsession, husername]

theorem mem_order (fault : LoginFault) : fault ∈ LoginFault.order := by
  cases fault <;> simp [LoginFault.order, LoginFault.beforeExchange]

variable (query) in
/-- The reply of given circumstances is the decision of the table. -/
theorem identityIn_decision (c : Circumstances py rp) (hstate : (encode pending.state).isSome)
    (hnonce : (encode pending.nonce).isSome) (hissued : FitsFloat pending.issuedAt) :
    ∃ reply : Except OidcRefusal OidcIdentity,
      identityIn py rp pending query c = reply.mapError Exn.refusalError ∧
        LoginDecision pending query c reply := by
  rcases (identityIn_replies query c hstate hnonce hissued).elim with
    ⟨fault, hfirst, cause, hreply, hrefuses⟩ | ⟨⟨identity, hreply, hproves⟩, hnone⟩
  · refine ⟨.error cause, hreply, fun cause' => ⟨?_, ?_⟩, fun identity => ⟨?_, ?_⟩⟩
    · rintro ⟨⟩
      exact ⟨fault, hfirst, hrefuses⟩
    · rintro ⟨fault', hfirst', hrefuses'⟩
      obtain rfl := hfirst.unique hfirst'
      rw [hrefuses.unique hrefuses']
    · rintro ⟨⟩
    · rintro ⟨hfaultless, -⟩
      exact absurd hfirst.applies (hfaultless fault)
  · refine ⟨.ok identity, hreply, fun cause => ⟨?_, ?_⟩, fun identity' => ⟨?_, ?_⟩⟩
    · rintro ⟨⟩
    · rintro ⟨fault, hfirst, -⟩
      exact absurd hfirst.applies (hnone fault (mem_order fault))
    · rintro ⟨⟩
      exact ⟨fun fault => hnone fault (mem_order fault), hproves⟩
    · rintro ⟨-, hproves'⟩
      rw [hproves.unique hproves']

end Reply

end WebAuth
