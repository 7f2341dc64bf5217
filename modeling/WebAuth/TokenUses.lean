import WebAuth.AccessTokens
import WebAuth.Effects.Wrapping
import WebAuth.SessionStore

/-!
# What one token can be used for

The issuer signs logout tokens, access tokens and ID tokens with the same keys. The header's type
and the payload of a token are its own, whatever key set and clock it is judged by, so a use that
asks for another type or another payload refuses it.
-/

namespace WebAuth

open Python Effects Program

/-- `jwt.decode` answers the payload of its token, whatever the key and the checks. -/
def DecodesPayload (py : Platform) : Prop :=
  ∀ d d' claims claims', d.token = d'.token → py.jwtDecode d = .ok claims →
    py.jwtDecode d' = .ok claims' → claims = claims'

/-! ## The uses -/

section Uses

variable (py : Platform) (rp : OidcRelyingParty) (token : Str)

/-- Some run of `verify_logout_token` accepts the token. -/
def AcceptedAsLogout : Prop :=
  ∃ es subject, Path (rp.verifyLogoutToken py token) es (.ok (.ok subject))

/-- Some run of `verify_access_token`, for some parties, accepts it. -/
def AcceptedAsAccess : Prop :=
  ∃ parties es verified, Path (rp.verifyAccessToken py token parties) es (.ok (.ok verified))

/-- Some run of some resource's verifier accepts it. -/
def AcceptedByResource : Prop :=
  ∃ owner url scope parties es verified,
    Path (rp.verifyResourceToken py owner url scope parties token) es (.ok (.ok verified))

/-- Some run of `complete_login` in which the token endpoint answers it as the ID token ends with an
identity. -/
def AcceptedAsIdToken : Prop :=
  ∃ pending query es identity request answer,
    Path (rp.completeLogin py pending query) es (.ok (.ok identity)) ∧
      (⟨.postTokenRequest request, .ok answer⟩ : HostEvent) ∈ es ∧
      (tokenAnswerDocument py answer.body).get (str "id_token") = some (.str token)

end Uses

variable {py : Platform} {rp : OidcRelyingParty} {token : Str} {es : List HostEvent}

/-! ## Logout tokens -/

theorem verifyLogoutToken_accepts {subject : Str}
    (h : Path (rp.verifyLogoutToken py token) es (.ok (.ok subject))) :
    ∃ claims, Accepts py (rp.verifierFor rp.config.clientId) token (.exactly (str "logout+jwt"))
      claims ∧ claims.claims.get (str "nonce") = none := by
  unfold OidcRelyingParty.verifyLogoutToken at h
  obtain ⟨_, _, outcome, -, hverify, h⟩ := path_bind_ok h
  obtain ⟨_, -, hpath⟩ := of_path hverify
  cases outcome with
  | error reason =>
    obtain ⟨-, hr⟩ := h
    cases hr
  | ok claims =>
    obtain ⟨_, _, profile, -, hprofile, h⟩ := path_bind_ok h
    unfold OidcRelyingParty.isLogoutProfile at hprofile
    obtain ⟨_, _, now, -, -, haged⟩ := path_bind_ok hprofile
    obtain ⟨_, _, age, -, -, hread⟩ := path_bind_ok haged
    obtain ⟨-, hprofile⟩ := hread
    have hprofile := (Except.ok.inj hprofile).symm
    cases profile with
    | false =>
      obtain ⟨-, hr⟩ := h
      cases hr
    | true =>
      simp only [Bool.and_eq_true, Bool.not_eq_true'] at hprofile
      refine ⟨claims, verify_accepts hpath, ?_⟩
      simpa [Dict.has] using hprofile.1.2

/-! ## ID tokens -/

theorem answered_path_ok {α : Type} {p : Task α} {a : α}
    (h : Path (tryCatch (do return .ok (← p)) answeredRefusal) es (.ok (.ok a))) :
    Path p es (.ok a) := by
  obtain ⟨r, hp, hr⟩ := answered_path.1 h
  rwa [answered_eq_ok hr.symm] at hp

/-- What `_token_answer` reads comes from the one answer to its request. -/
theorem tokenAnswer_path_ok {request : TokenRequest} {document : Dict}
    (h : Path (tokenAnswer py request) es (.ok document)) :
    ∃ answer, es = [⟨.postTokenRequest request, .ok answer⟩] ∧
      document = tokenAnswerDocument py answer.body := by
  unfold tokenAnswer at h
  obtain ⟨es₁, es₂, answer, rfl, hpost, hread⟩ := path_bind_ok h
  obtain ⟨rfl, hdone⟩ := path_done.1 hread
  obtain ⟨_, hdocument⟩ := readTokenAnswer_eq_ok hdone.symm
  refine ⟨answer, ?_, hdocument⟩
  obtain ⟨ans, rest, rfl, hrest⟩ := path_perform_andThen.1 hpost
  cases ans with
  | error e =>
    cases e <;>
      · obtain ⟨-, hr⟩ := hrest
        cases hr
  | ok answer' =>
    obtain ⟨rfl, hr⟩ := hrest
    cases hr
    rfl

theorem verifiedIdToken_accepts {claims : VerifiedClaims}
    (h : Path (rp.verifiedIdToken py token) es (.ok claims)) :
    Accepts py (rp.verifierFor rp.config.clientId) token .any claims ∧
      ∀ e ∈ es, ∃ step, e.call = .verifier rp.jwtVerifier step := by
  unfold OidcRelyingParty.verifiedIdToken at h
  obtain ⟨es₁, es₂, outcome, rfl, hverify, h⟩ := path_bind_ok h
  obtain ⟨es', rfl, hpath⟩ := of_path hverify
  cases outcome with
  | error reason =>
    obtain ⟨-, hr⟩ := h
    cases hr
  | ok claims' =>
    obtain ⟨rfl, hr⟩ := h
    cases hr
    refine ⟨verify_accepts hpath, fun e he => ?_⟩
    rw [List.append_nil] at he
    obtain ⟨e', -, rfl⟩ := List.mem_map.1 he
    exact ⟨e'.call, rfl⟩

/-- Two secrets are the same when the comparison says so. -/
theorem isSameSecret_eq_true {received : Option Str} {expected : Str}
    (h : isSameSecret received expected = .ok true) : received = some expected := by
  unfold isSameSecret encoded at h
  split at h
  · cases h
  cases received with
  | none => cases h
  | some s =>
    rw [Option.bind_some] at h
    cases hs : encode s with
    | none =>
      rw [hs] at h
      cases h
    | some given =>
      cases he : encode expected with
      | none =>
        rw [hs, he] at h
        cases h
      | some made =>
        rw [hs, he] at h
        have hsame : given = made := of_decide_eq_true (Except.ok.inj h)
        rw [encode_injective hs (hsame ▸ he)]

theorem authorizationCode_path_ok {pending : PendingLogin} {callback : List (Str × Str)} {code : Str}
    (h : Path (rp.authorizationCode pending callback) es (.ok code)) :
    ∀ e ∈ es, e.call = .wallClock := by
  unfold OidcRelyingParty.authorizationCode at h
  obtain ⟨es₁, esA, same, rfl, hsame, hA⟩ := path_bind_ok h
  obtain ⟨rfl, -⟩ := path_done.1 hsame
  dsimp only at hA
  split at hA
  · obtain ⟨_, _, _, -, hrefused, -⟩ := path_bind_ok hA
    cases (path_done.1 hrefused).2
  obtain ⟨es₁, es₂, unexpired, rfl, hclock, hnamed⟩ := path_bind_ok hA
  unfold OidcRelyingParty.isUnexpired at hclock
  obtain ⟨es₃, esB, now, rfl, hnow, hB⟩ := path_bind_ok hclock
  obtain ⟨es₄, es₅, age, rfl, hage, hreturn⟩ := path_bind_ok hB
  obtain ⟨ans, rest, rfl, hrest⟩ := hnow
  obtain ⟨rfl, -⟩ := path_done.1 hrest
  obtain ⟨rfl, -⟩ := path_done.1 hage
  obtain ⟨rfl, -⟩ := hreturn
  split at hnamed
  · obtain ⟨_, _, _, -, hrefused, -⟩ := path_bind_ok hnamed
    cases (path_done.1 hrefused).2
  obtain ⟨rfl, -⟩ := path_done.1 hnamed
  intro e he
  simp only [List.nil_append, List.append_nil, List.mem_singleton] at he
  rw [he]

theorem exchangedTokens_path_ok {pending : PendingLogin} {code rawIdToken : Str}
    {refreshToken : Option Str}
    (h : Path (rp.exchangedTokens py pending code) es (.ok (rawIdToken, refreshToken))) :
    ∃ request answer, es = [⟨.postTokenRequest request, .ok answer⟩] ∧
      (tokenAnswerDocument py answer.body).get (str "id_token") = some (.str rawIdToken) := by
  unfold OidcRelyingParty.exchangedTokens at h
  obtain ⟨es₁, esA, document, rfl, hanswer, hA⟩ := path_bind_ok h
  obtain ⟨es₂, esB, raw, rfl, hraw, hB⟩ := path_bind_ok hA
  obtain ⟨rfl, hrawOk⟩ := path_done.1 hraw
  obtain ⟨es₃, es₄, refresh, rfl, hrefresh, hreturn⟩ := path_bind_ok hB
  obtain ⟨rfl, -⟩ := path_done.1 hrefresh
  obtain ⟨rfl, hpair⟩ := hreturn
  cases hpair
  obtain ⟨answer, rfl, rfl⟩ := tokenAnswer_path_ok hanswer
  refine ⟨_, answer, by simp, ?_⟩
  unfold rawIdTokenOf at hrawOk
  split at hrawOk
  · rename_i idToken hid
    rw [hid, Except.ok.inj hrawOk]
  · cases hrawOk

theorem isSameSecret_nonce {claims : Dict} {nonce : Str}
    (h : isSameSecret ((claims.get (str "nonce")).bind Json.string) nonce = .ok true) :
    claims.get (str "nonce") = some (.str nonce) := by
  obtain ⟨value, hvalue, hstring⟩ := Option.bind_eq_some_iff.1 (isSameSecret_eq_true h)
  rw [hvalue, Json.string_eq_some hstring]

/-- **What an accepted ID token is**: the one the token endpoint answered, with the pending login's
nonce. -/
theorem completeLogin_accepts {pending : PendingLogin} {query : Str} {identity : OidcIdentity}
    (h : Path (rp.completeLogin py pending query) es (.ok (.ok identity))) :
    ∃ rawIdToken claims, Accepts py (rp.verifierFor rp.config.clientId) rawIdToken .any claims ∧
      claims.claims.get (str "nonce") = some (.str pending.nonce) ∧
      ∀ request answer, (⟨.postTokenRequest request, .ok answer⟩ : HostEvent) ∈ es →
        (tokenAnswerDocument py answer.body).get (str "id_token") = some (.str rawIdToken) := by
  have hidentity := answered_path_ok h
  unfold OidcRelyingParty.identity at hidentity
  obtain ⟨es₁, esA, callback, rfl, hcallback, hA⟩ := path_bind_ok hidentity
  obtain ⟨rfl, -⟩ := path_done.1 hcallback
  obtain ⟨es₂, esB, code, rfl, hcode, hB⟩ := path_bind_ok hA
  obtain ⟨es₃, esC, ⟨rawIdToken, refreshToken⟩, rfl, hexchange, hC⟩ := path_bind_ok hB
  obtain ⟨es₄, es₅, claims, rfl, hverified, hD⟩ := path_bind_ok hC
  obtain ⟨rfl, hchecked⟩ := path_done.1 hD
  obtain ⟨request, answer, rfl, hraw⟩ := exchangedTokens_path_ok hexchange
  obtain ⟨haccepts, hsteps⟩ := verifiedIdToken_accepts hverified
  refine ⟨rawIdToken, claims, haccepts, ?_, fun request' answer' hmem => ?_⟩
  · have hidentityOf : rp.checkedIdentity pending claims rawIdToken refreshToken = .ok identity :=
      hchecked.symm
    unfold OidcRelyingParty.checkedIdentity at hidentityOf
    cases hnonce : isSameSecret ((claims.claims.get (str "nonce")).bind Json.string) pending.nonce with
    | error e =>
      rw [hnonce] at hidentityOf
      cases hidentityOf
    | ok same =>
      cases same with
      | true => exact isSameSecret_nonce hnonce
      | false =>
        rw [hnonce] at hidentityOf
        cases hidentityOf
  · simp only [List.nil_append, List.append_nil, List.mem_append, List.mem_singleton] at hmem
    rcases hmem with hmem | hmem | hmem
    · have := authorizationCode_path_ok hcode _ hmem
      cases this
    · cases hmem
      exact hraw
    · obtain ⟨step, hstep⟩ := hsteps _ hmem
      cases hstep

/-! ## No token has two uses -/

/-- The payloads of two accepted uses of one token are the same. -/
theorem Accepts.claims_eq (hpy : DecodesPayload py) {v v' : JwtVerifier}
    {expected expected' : ExpectedType} {claims claims' : VerifiedClaims}
    (h : Accepts py v token expected claims) (h' : Accepts py v' token expected' claims') :
    claims.claims = claims'.claims := by
  obtain ⟨key, hdecode⟩ := h.decoded
  obtain ⟨key', hdecode'⟩ := h'.decoded
  refine hpy _ _ _ _ ?_ hdecode hdecode'
  rfl

/-- No media type of an access token is a logout token's. -/
theorem not_accessTokenType {header : Dict}
    (hlogout : hasExpectedType header (.exactly (str "logout+jwt")) = true) :
    hasExpectedType header (.mediaTypes accessTokenMediaTypes) = false := by
  unfold hasExpectedType at hlogout ⊢
  rw [Option.any_eq_true] at hlogout
  obtain ⟨value, hvalue, hstr⟩ := hlogout
  rw [hvalue, Json.isStr_eq_true hstr]
  decide

theorem Accepts.not_logout {v v' : JwtVerifier} {claims claims' : VerifiedClaims}
    (h : Accepts py v token (.exactly (str "logout+jwt")) claims)
    (h' : Accepts py v' token (.mediaTypes accessTokenMediaTypes) claims') : False := by
  obtain ⟨header, hheader, htype⟩ := h.header
  obtain ⟨header', hheader', htype'⟩ := h'.header
  rw [hheader] at hheader'
  obtain rfl := Except.ok.inj hheader'
  rw [not_accessTokenType htype] at htype'
  cases htype'

/-- **Logout tokens double as nothing else**, and nothing else as a logout token. -/
theorem logout_token_alone (hpy : DecodesPayload py) (rp : OidcRelyingParty) (token : Str) :
    (AcceptedAsLogout py rp token → ¬AcceptedAsAccess py rp token ∧
      ¬AcceptedByResource py rp token ∧ ¬AcceptedAsIdToken py rp token) ∧
    (AcceptedAsAccess py rp token ∨ AcceptedByResource py rp token ∨
      AcceptedAsIdToken py rp token → ¬AcceptedAsLogout py rp token) := by
  have hone : AcceptedAsLogout py rp token → ¬(AcceptedAsAccess py rp token ∨
      AcceptedByResource py rp token ∨ AcceptedAsIdToken py rp token) := by
    rintro ⟨es, subject, hlogout⟩ hother
    obtain ⟨claims, haccepts, hnonce⟩ := verifyLogoutToken_accepts hlogout
    rcases hother with ⟨parties, es', verified, haccess⟩ |
      ⟨owner, url, scope, parties, es', verified, hresource⟩ |
      ⟨pending, query, es', identity, request, answer, hlogin, hpost, hid⟩
    · obtain ⟨claims', haccepted, -⟩ := verifyAccessToken_accepts haccess
      exact haccepts.not_logout haccepted.accepts
    · obtain ⟨claims', haccepted, -⟩ := verifyResourceToken_accepts hresource
      exact haccepts.not_logout haccepted.accepts
    · obtain ⟨rawIdToken, claims', haccepted, hsecret, hposted⟩ := completeLogin_accepts hlogin
      have hraw : Json.str rawIdToken = .str token :=
        Option.some.inj ((hposted request answer hpost).symm.trans hid)
      obtain rfl := Json.str.inj hraw
      rw [← haccepts.claims_eq hpy haccepted, hnonce] at hsecret
      cases hsecret
  refine ⟨fun hlogout => ⟨fun h => ?_, fun h => ?_, fun h => ?_⟩, fun h hlogout => hone hlogout h⟩
  · exact hone hlogout (.inl h)
  · exact hone hlogout (.inr (.inl h))
  · exact hone hlogout (.inr (.inr h))

/-! ## A run -/

/-- Surroundings with one key set, at the second 100, that fetch nothing. -/
def quietHost : Unit → (c : HostCall) → Except Exn c.Answer × Unit
  | _, .wallClock => (.ok 100, ())
  | _, .verifier _ .wallClock => (.ok 100, ())
  | _, .verifier _ .monotonicClock => (.ok 0, ())
  | _, .verifier _ .readKeySet => (.ok (some ⟨[], some ⟨65537, 3⟩, 0⟩), ())
  | _, _ => (.error (.host 0), ())

/-- A header of a type. -/
def typedHeader (type : String) : Dict := [(str "alg", .str algorithm), (str "typ", .str (str type))]

/-- The payload of a logout token of the client. -/
def logoutPayload : Dict :=
  [(str "iss", .str (str "https://issuer")), (str "aud", .str (str "client")), (str "iat", .int 90),
    (str "exp", .int 200), (str "sub", .str (str "u")),
    (str "events", .obj [(backchannelLogoutEvent, .obj [])])]

/-- The surroundings in which `"l"` is a logout token of the client. -/
def logoutPlatform : Platform :=
  { demoPlatform with
    getUnverifiedHeader := fun token =>
      if token = str "l" then .ok (typedHeader "logout+jwt") else .error .invalidToken
    jwtDecode := fun d =>
      if d.token = str "l" ∧ str "client" ∈ d.audience ∧ d.issuer = str "https://issuer" then
        .ok logoutPayload
      else .error .invalidAudience }

theorem logoutPlatform_decodes : DecodesPayload logoutPlatform := by
  intro d d' claims claims' _ h h'
  simp only [logoutPlatform] at h h'
  split_ifs at h h'
  rw [← Except.ok.inj h, ← Except.ok.inj h']

theorem logout_token_alone_of_accepted :
    AcceptedAsLogout logoutPlatform demoRelyingParty (str "l") ∧
      ¬AcceptedAsAccess logoutPlatform demoRelyingParty (str "l") ∧
      ¬AcceptedByResource logoutPlatform demoRelyingParty (str "l") ∧
      ¬AcceptedAsIdToken logoutPlatform demoRelyingParty (str "l") := by
  have hlogout : AcceptedAsLogout logoutPlatform demoRelyingParty (str "l") := by
    have hpath := path_play quietHost
      (demoRelyingParty.verifyLogoutToken logoutPlatform (str "l")) ()
    have hok : (play quietHost (demoRelyingParty.verifyLogoutToken logoutPlatform (str "l")) ()).2 =
        .ok (.ok (str "u")) := by decide +kernel
    rw [hok] at hpath
    exact ⟨_, _, hpath⟩
  exact ⟨hlogout, (logout_token_alone logoutPlatform_decodes _ _).1 hlogout⟩

end WebAuth
