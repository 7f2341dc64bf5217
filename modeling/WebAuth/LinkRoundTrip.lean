import WebAuth.DeepLinks

/-!
# The round trip of an address

What the start route makes of any `next`, and what becomes of the address of a guarded page on its
way through the redirect, the start, the signed cookie and the callback.
-/

namespace WebAuth

open Python Effects Program

/-! ## The statement -/

/-- The texts a client puts into an authorization request have an encoding. -/
structure OidcRelyingParty.Encodes (rp : OidcRelyingParty) : Prop where
  clientId : IsText rp.config.clientId
  redirectUri : IsText rp.config.redirectUri
  scopes : ∀ name ∈ rp.config.scopes, IsText name

/-- What the start route makes of a `next`. It fails for none, and it answers where the clock reads
a second the cookie has room for, with a cookie that a browser keeps. -/
structure TakesNext (py : Platform) (start : Scope) (draws : LoginDraws) (next : Option Str) :
    Prop where
  fails : ∀ es e, Path (SignIn.start py start draws next) es (.error e) ↔
    Path (SignIn.start py start draws none) es (.error e)
  answers : ∀ (rp : OidcRelyingParty) (config : Ref WebAuthConfig) (reading : ℚ)
    (history : List Signing), webAuthConfig start = .ok config → rp.Encodes →
    (∀ cookie ∈ cookiePairs py start, Unforged py config.value.signingKey history cookie.2) →
    0 ≤ reading → reading < 10 ^ 12 → ∃ answer, Path (SignIn.start py start draws next)
      [⟨.relyingParty start, .ok rp⟩, ⟨.wallClock, .ok reading⟩] (.ok answer)
  cookie : ∀ es answer, Path (SignIn.start py start draws next) es (.ok answer) →
    ∃ cookie, answer.cookies.getLast? = some cookie ∧ cookie.value.length ≤ 896

/-- What becomes of an address that a guarded page was asked for. -/
structure RoundTrips (py : Platform) (asked start back : Scope) (redirect : LoginRedirect)
    (address : Str) : Prop where
  redirected : ∀ detail e, prefersHtml py asked = true →
    unauthenticated py asked detail (some redirect) = .ok e →
      ∃ location query, e = .httpException 302 (str "Found") [(str "Location", location)] ∧
        partition (chr '?') location = (redirect.path, some query) ∧ chr '#' ∉ location ∧
        ∀ strictParsing errors, parseQsl strictParsing errors query =
          some [(redirect.redirectQueryParam, linkOf asked address)]
  kept : ∀ path, sameAppPath asked (some address) = some path → linkOf asked address = path ∧
    sameAppPath start (some path) = some path ∧ sameAppPath back (some path) = some path
  dropped : sameAppPath asked (some address) = none → linkOf asked address = str "/"
  signed : ∀ draws es started,
    Path (SignIn.start py start draws (some (linkOf asked address))) es (.ok started) →
      ∃ config reading cookie, webAuthConfig start = .ok config ∧
        started.cookies.getLast? = some cookie ∧
        (∀ path, sameAppPath asked (some address) = some path →
          verifyPendingLogin py cookie.value config.value.signingKey =
            .ok (some { draws.pendingLogin reading with returnTo := some path })) ∧
        ∀ (routes : SignIn) es' (answer : RouteAnswer) response,
          ComesBack py back config draws cookie →
          Path (routes.callback py back) es' (.ok (.answer answer)) →
          answer.outcome = .ok response → AsksNoRefusal es' →
            RedirectsTo ((sameAppPath asked (some address)).getD (appRoot asked)) response

/-! ## The start -/

section Start

variable {py : Platform} {start : Scope} {config : WebAuthConfig} {rp : OidcRelyingParty}
  {draws : LoginDraws} {reading : ℚ} {next : Option Str}

theorem isText_tokenUrlsafe (drawn : Bytes) : IsText (tokenUrlsafe drawn) := by
  rw [tokenUrlsafe, stripPadding_encode]
  exact isText_of_isAscii (isAscii_of_all (fun _ => isAscii_base64Url) (unpadded_all drawn))

theorem isText_join {mark : CodePoint} {names : List Str} (hmark : isSurrogate mark.val = false)
    (h : ∀ name ∈ names, IsText name) : IsText (join mark names) := by
  intro c hc
  rcases mem_join hc with rfl | ⟨name, hname, hmem⟩
  · exact hmark
  · exact h name hname c hmem

theorem isText_authorizationParameters (h : rp.Encodes) :
    ∀ pair ∈ rp.authorizationParameters py (draws.pendingLogin reading),
      IsText pair.1 ∧ IsText pair.2 := by
  have hword {word : Str} (hword : isAscii word = true) : IsText word := isText_of_isAscii hword
  simp only [OidcRelyingParty.authorizationParameters, LoginDraws.pendingLogin,
    List.forall_mem_cons]
  exact ⟨⟨hword (by decide), hword (by decide)⟩, ⟨hword (by decide), h.clientId⟩,
    ⟨hword (by decide), h.redirectUri⟩, ⟨hword (by decide), isText_join (by decide) h.scopes⟩,
    ⟨hword (by decide), isText_tokenUrlsafe _⟩, ⟨hword (by decide), isText_tokenUrlsafe _⟩,
    ⟨hword (by decide), isText_tokenUrlsafe _⟩, ⟨hword (by decide), hword (by decide)⟩, by simp⟩

/-- A start answers at every second the cookie has room for. -/
theorem startedAt_answers {history : List Signing} (hparty : rp.Encodes)
    (hforged : ∀ cookie ∈ cookiePairs py start, Unforged py config.signingKey history cookie.2)
    (hle : 0 ≤ reading) (hlt : reading < 10 ^ 12) :
    ∃ answer, startedAt py start config rp draws reading next = .ok answer := by
  obtain ⟨query, hquery⟩ := urlencode_of_isText
    (@isText_authorizationParameters py rp draws reading hparty)
  obtain ⟨cleared, hcleared, -⟩ := (pendingLoginCookiesToEvict_evicts py start config).resolve_right
    fun ⟨_, _, cookie, hcookie, _, hno⟩ => hno history (hforged cookie hcookie)
  obtain ⟨bytes, hbytes⟩ := Option.isSome_iff_exists.1
    (encode_isSome.2 (isText_tokenUrlsafe draws.state))
  cases hvalue : signPendingLogin py (startedLogin start draws reading next) config.signingKey with
  | error e =>
    have hshape := (signPendingLogin_error.1 hvalue).1
    rw [isIssuedAt_truncate hle hlt] at hshape
    cases hshape
  | ok value =>
    rw [startedAt_eq, hquery]
    unfold beginPendingLogin issuePendingLoginCookie pendingLoginCookieName
    rw [hcleared, hvalue, show (startedLogin start draws reading next).state =
      tokenUrlsafe draws.state from rfl, encoded, hbytes]
    exact ⟨_, rfl⟩

/-- **No `next` fails a start**, and none lengthens its cookie beyond what a browser keeps. -/
theorem start_takesNext (hmac : HmacDigests py) (start : Scope) (draws : LoginDraws)
    (next : Option Str) : TakesNext py start draws next where
  fails es e := ⟨start_error, start_error⟩
  answers rp config reading history hconfig hparty hforged hle hlt := by
    obtain ⟨answer, hanswer⟩ := @startedAt_answers py start config.value rp draws reading next
      history hparty hforged hle hlt
    refine ⟨answer, start_path_iff.2 ?_⟩
    rw [← hanswer]
    exact .started rp config reading hconfig
  cookie es answer h := by
    obtain ⟨rp, config, reading, -, -, hstarted⟩ := start_ok h
    obtain ⟨-, cookie, -, -, hlast, -, hlength, -⟩ := startedAt_ok hmac hstarted
    exact ⟨cookie, hlast, hlength⟩

end Start

/-! ## The way of an address -/

section Link

variable {py : Platform} {asked start back : Scope} {redirect : LoginRedirect} {address : Str}

end Link

/-! ## The round trip of a page -/

/-- A start whose clock reads a second of thirteen digits. -/
def lateStart : List HostEvent :=
  [⟨.relyingParty linkStart, .ok demoRelyingParty⟩, ⟨.wallClock, .ok (10 ^ 12)⟩]

theorem lateStart_error (next : Option Str) :
    startedAt linkPlatform linkStart demoConfig demoRelyingParty codecDraws (10 ^ 12) next =
      .error (.valueError "the pending login does not fit the pending-login cookie") := by
  have hnone : startedAt linkPlatform linkStart demoConfig demoRelyingParty codecDraws (10 ^ 12)
      none = .error (.valueError "the pending login does not fit the pending-login cookie") := by
    decide +kernel
  exact startedAt_error.2 hnone

end WebAuth
