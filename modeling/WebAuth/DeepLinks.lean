import WebAuth.CallbackQueries
import WebAuth.Effects.Checks
import WebAuth.EndSessionPolicy
import WebAuth.HostOperations
import WebAuth.PendingEviction
import WebAuth.Python.FormEncoding

/-!
# Deep links

A guarded page sends a browser to log in with the address it asked for. The address passes through
the query of the redirect, the start, the signed cookie of the pending login and the callback, and
the browser ends at it, or at the root of the app when it is no path of the app.
-/

namespace WebAuth

open Python Effects Program

/-! ## The app's paths -/

section Paths

variable {scope scope' asked start back : Scope} {candidate : Option Str} {address link path : Str}

/-- Which addresses are kept depends on where the app is mounted and on nothing else. -/
theorem sameAppPath_mounted (h : scope.rootPath = scope'.rootPath) :
    sameAppPath scope candidate = sameAppPath scope' candidate := by
  unfold sameAppPath
  rw [h]

theorem appRoot_mounted (h : scope.rootPath = scope'.rootPath) :
    appRoot scope = appRoot scope' := by
  unfold appRoot
  rw [h]

/-- The address a guarded page hands on: a path of the app, or `/`. -/
def linkOf (asked : Scope) (address : Str) : Str :=
  (sameAppPath asked (some address)).getD (str "/")

/-- Where a sign-in ends. -/
def landing (scope : Scope) (returnTo : Option Str) : Str :=
  (sameAppPath scope returnTo).getD (appRoot scope)

theorem sameAppPath_kept (h : sameAppPath scope candidate = some path) :
    sameAppPath scope (some path) = some path := by
  cases candidate with
  | none => cases h
  | some text => exact (sameAppPath_eq_some.1 h).isReturnPath.fixed

/-- `/` is kept where it is the root of the app. -/
theorem sameAppPath_slash (h : sameAppPath scope (some (str "/")) = some path) :
    path = str "/" ∧ appRoot scope = str "/" := by
  have hkept := sameAppPath_eq_some.1 h
  refine ⟨hkept.form.symm.trans (by decide), ?_⟩
  have hroot : scope.rootPath = [] ∨ scope.rootPath = str "/" := by
    rcases hkept.under with hempty | heq | ⟨rest, heq⟩ | ⟨rest, heq⟩
    · exact .inl hempty
    · exact .inr heq.symm
    · cases hmount : scope.rootPath with
      | nil => exact .inl rfl
      | cons c root =>
        rw [hmount] at heq
        simp [str] at heq
    · cases hmount : scope.rootPath with
      | nil => exact .inl rfl
      | cons c root =>
        rw [hmount] at heq
        simp [str] at heq
  unfold appRoot
  rcases hroot with hroot | hroot <;> rw [hroot] <;> rfl

theorem landing_slash (hstart : start.rootPath = back.rootPath) :
    landing back (sameAppPath start (some (str "/"))) = appRoot back := by
  rw [sameAppPath_mounted hstart]
  unfold landing
  cases hslash : sameAppPath back (some (str "/")) with
  | none => rfl
  | some path =>
    obtain ⟨rfl, hroot⟩ := sameAppPath_slash hslash
    rw [hslash, hroot]
    rfl

/-- **A kept address is where the sign-in ends**, and otherwise the root of the app. -/
theorem landing_linkOf (hstart : start.rootPath = asked.rootPath)
    (hback : back.rootPath = asked.rootPath) :
    landing back (sameAppPath start (some (linkOf asked address))) =
      (sameAppPath asked (some address)).getD (appRoot asked) := by
  unfold linkOf
  cases hkept : sameAppPath asked (some address) with
  | none =>
    rw [Option.getD_none, landing_slash (hstart.trans hback.symm), appRoot_mounted hback]
    rfl
  | some path =>
    have hpath := sameAppPath_kept hkept
    unfold landing
    rw [Option.getD_some, sameAppPath_mounted hstart, hpath, sameAppPath_mounted hback, hpath]
    rfl

end Paths

/-! ## The guarded page -/

section Guarded

variable {py : Platform} {asked : Scope} {detail link : Str} {redirect : LoginRedirect} {e : Exn}

theorem askedForAddress_eq_ok : askedForAddress asked = .ok link ↔
    ∃ address, requestedAddress asked = some address ∧ linkOf asked address = link := by
  unfold askedForAddress linkOf
  rw [bind_eq_ok]
  refine exists_congr fun address => and_congr orRaise_eq_ok ?_
  exact ⟨Except.ok.inj, congrArg Except.ok⟩

/-- The refusal of a browser's request redirects with the address as a form-encoded pair. -/
theorem unauthenticated_redirects (hhtml : prefersHtml py asked = true)
    (h : unauthenticated py asked detail (some redirect) = .ok e) :
    ∃ address query, requestedAddress asked = some address ∧
      IsPiece (redirect.redirectQueryParam, linkOf asked address) query ∧
      e = .httpException 302 (str "Found")
        [(str "Location", redirect.path ++ chr '?' :: query)] := by
  unfold unauthenticated at h
  dsimp only at h
  rw [if_pos hhtml] at h
  obtain ⟨link, hlink, hnamed⟩ := bind_eq_ok.1 h
  obtain ⟨name, hname, hvalued⟩ := bind_eq_ok.1 hnamed
  obtain ⟨value, hvalue, hredirect⟩ := bind_eq_ok.1 hvalued
  obtain ⟨address, haddress, rfl⟩ := askedForAddress_eq_ok.1 hlink
  refine ⟨address, name ++ chr '=' :: value, haddress,
    ⟨name, value, orRaise_eq_ok.1 hname, orRaise_eq_ok.1 hvalue, rfl⟩, ?_⟩
  rw [← Except.ok.inj hredirect]
  simp [str, chr]

end Guarded

/-! ## The start -/

section Start

variable {py : Platform} {start : Scope} {config : WebAuthConfig} {rp : OidcRelyingParty}
  {draws : LoginDraws} {reading : ℚ} {next : Option Str} {secret : Bytes} {e : Exn}

/-- The pending login of a start. -/
def startedLogin (start : Scope) (draws : LoginDraws) (reading : ℚ) (next : Option Str) :
    PendingLogin :=
  { draws.pendingLogin reading with returnTo := sameAppPath start next }

theorem startedLogin_carried : (startedLogin start draws reading next).carried =
    startedLogin start draws reading next := by
  refine PendingLogin.carried_of_nonempty fun hempty => ?_
  cases next with
  | none => cases hempty
  | some text =>
    obtain ⟨rest, hslash, -⟩ := (sameAppPath_eq_some.1 hempty).isReturnPath.single_slash
    cases hslash

/-- A login that cannot be signed has a clock reading that does not fit. -/
theorem signPendingLogin_error :
    signPendingLogin py (startedLogin start draws reading next) secret = .error e ↔
      isIssuedAt (decimalInt (truncate reading)) = false ∧
        e = .valueError "the pending login does not fit the pending-login cookie" := by
  obtain ⟨field, hfield, hshape⟩ := encodedReturnTo_sameAppPath start next
  have hsign := @signPendingLogin_of_encoded py secret (startedLogin start draws reading next) field
    hfield
  rw [hsign]
  by_cases hissued : isIssuedAt (decimalInt (truncate reading)) = true
  · have hfields : (PendingLogin.fields (startedLogin start draws reading next) field).IsShaped :=
      { state := isPendingSecret_tokenUrlsafe draws.state_length
        nonce := isPendingSecret_tokenUrlsafe draws.nonce_length
        codeVerifier := isPendingSecret_tokenUrlsafe draws.codeVerifier_length
        issuedAt := hissued
        returnTo := hshape }
    have hvalue := pendingLoginValue_eq_some.2 ⟨pendingLoginPayload_eq _ field, hfields⟩
    obtain ⟨sig, hsig⟩ := @pendingLoginSignature_of_shape py secret _ _ hvalue
    rw [hvalue, hsig]
    simp [hissued, Except.map]
  · have hnone : pendingLoginValue
        (pendingLoginPayload (startedLogin start draws reading next) field) = none := by
      rw [Option.eq_none_iff_forall_ne_some]
      intro fields hvalue
      have hshaped := isShaped_of_payload (Option.isSome_of_eq_some hvalue)
      exact hissued hshaped.issuedAt
    rw [hnone]
    simp only [Option.isNone_none, if_true, Except.error.injEq]
    exact ⟨fun h => ⟨Bool.eq_false_iff.2 hissued, h.symm⟩, fun h => h.2.symm⟩

theorem startedAt_eq : startedAt py start config rp draws reading next =
    (orRaise (.valueError "surrogates not allowed")
      (urlencode (rp.authorizationParameters py (draws.pendingLogin reading))) >>= fun query =>
    beginPendingLogin py start { status := 303 } (startedLogin start draws reading next)
      pendingLoginMaxAgeSeconds config >>= fun answer =>
    .ok { answer with
      headers := [(str "location", rp.config.authorizationEndpoint ++ str "?" ++ query)] }) := rfl

theorem not_exists_ok {α β : Type} {x : Except Exn α} {f : α → β} :
    ¬∃ a, x = .ok a ∧ (Except.ok (f a) : Except Exn β) = .error e := by
  rintro ⟨a, -, h⟩
  cases h

/-- **The start never fails because of `next`.** -/
theorem startedAt_error : startedAt py start config rp draws reading next = .error e ↔
    startedAt py start config rp draws reading none = .error e := by
  have hbegin : beginPendingLogin py start { status := 303 }
        (startedLogin start draws reading next) pendingLoginMaxAgeSeconds config = .error e ↔
      beginPendingLogin py start { status := 303 } (startedLogin start draws reading none)
        pendingLoginMaxAgeSeconds config = .error e := by
    unfold beginPendingLogin issuePendingLoginCookie
    rw [bind_eq_error, bind_eq_error]
    refine or_congr_right (exists_congr fun names => and_congr_right fun _ => ?_)
    rw [bind_eq_error, bind_eq_error]
    refine or_congr_right (exists_congr fun name => and_congr_right fun _ => ?_)
    rw [bind_eq_error, bind_eq_error]
    refine or_congr ?_ (iff_of_false not_exists_ok not_exists_ok)
    rw [signPendingLogin_error, signPendingLogin_error]
  rw [startedAt_eq, startedAt_eq, bind_eq_error, bind_eq_error]
  refine or_congr_right (exists_congr fun query => and_congr_right fun _ => ?_)
  rw [bind_eq_error, bind_eq_error]
  exact or_congr hbegin (iff_of_false not_exists_ok not_exists_ok)

/-- A start hands the browser its login, signed, in the last cookie of the answer. -/
theorem startedAt_ok {answer : Response} (hmac : HmacDigests py)
    (h : startedAt py start config rp draws reading next = .ok answer) :
    ∃ query cookie, urlencode (rp.authorizationParameters py (draws.pendingLogin reading)) =
        some query ∧
      answer.headers = [(str "location", rp.config.authorizationEndpoint ++ str "?" ++ query)] ∧
      answer.cookies.getLast? = some cookie ∧
      pendingLoginCookieName py (tokenUrlsafe draws.state) config.cookieSecure = .ok cookie.name ∧
      cookie.value.length ≤ maxPendingLoginCookieChars ∧
      verifyPendingLogin py cookie.value config.signingKey =
        .ok (some (startedLogin start draws reading next)) := by
  rw [startedAt_eq] at h
  obtain ⟨query, hquery, hrest⟩ := bind_eq_ok.1 h
  obtain ⟨begun, hbegun, hanswer⟩ := bind_eq_ok.1 hrest
  obtain ⟨cleared, name, value, -, hname, hvalue, hcookies⟩ := beginPendingLogin_eq_ok hbegun
  have hread := verifyPendingLogin_signed hmac hvalue
  rw [← Except.ok.inj hanswer]
  refine ⟨query, cookieOf config .lax name value pendingLoginMaxAgeSeconds,
    orRaise_eq_ok.1 hquery, rfl, ?_, hname, hread.1, ?_⟩
  · rw [hcookies, List.getLast?_append]
    rfl
  · exact hread.2.trans (congrArg (fun pending => Except.ok (some pending)) startedLogin_carried)

/-- The query of an authorization request is its parameters, one piece each. -/
theorem urlencode_eq_some {pairs : List (Str × Str)} {query : Str} :
    urlencode pairs = some query ↔
      ∃ pieces, List.Forall₂ IsPiece pairs pieces ∧ join (chr '&') pieces = query := by
  unfold urlencode
  rw [Option.bind_eq_bind, Option.bind_eq_some_iff]
  refine exists_congr fun pieces => and_congr ?_ ⟨Option.some.inj, congrArg some⟩
  rw [mapM_eq_some]
  have hpiece : ∀ (pair : Str × Str) piece, (do
        let name ← quotePlus pair.1
        let value ← quotePlus pair.2
        return name ++ str "=" ++ value : Option Str) = some piece ↔ IsPiece pair piece := by
    intro pair piece
    unfold IsPiece
    simp only [Option.bind_eq_bind, Option.bind_eq_some_iff, Option.pure_def, Option.some.injEq]
    constructor
    · rintro ⟨name, hname, value, hvalue, rfl⟩
      exact ⟨name, value, hname, hvalue, by rw [List.append_assoc]; rfl⟩
    · rintro ⟨name, value, hname, hvalue, rfl⟩
      exact ⟨name, hname, value, hvalue, by rw [List.append_assoc]; rfl⟩
  exact ⟨fun h => h.imp fun pair piece => (hpiece pair piece).1,
    fun h => h.imp fun pair piece => (hpiece pair piece).2⟩

theorem exists_pieces {pairs : List (Str × Str)}
    (h : ∀ pair ∈ pairs, IsText pair.1 ∧ IsText pair.2) :
    ∃ pieces, List.Forall₂ IsPiece pairs pieces := by
  induction pairs with
  | nil => exact ⟨[], .nil⟩
  | cons pair pairs ih =>
    rw [List.forall_mem_cons] at h
    obtain ⟨name, hname⟩ := Option.isSome_iff_exists.1 (quotePlus_isSome.2 h.1.1)
    obtain ⟨value, hvalue⟩ := Option.isSome_iff_exists.1 (quotePlus_isSome.2 h.1.2)
    obtain ⟨pieces, hpieces⟩ := ih h.2
    exact ⟨_ :: pieces, .cons ⟨name, value, hname, hvalue, rfl⟩ hpieces⟩

theorem urlencode_of_isText {pairs : List (Str × Str)}
    (h : ∀ pair ∈ pairs, IsText pair.1 ∧ IsText pair.2) :
    ∃ query, urlencode pairs = some query := by
  obtain ⟨pieces, hpieces⟩ := exists_pieces h
  exact ⟨_, urlencode_eq_some.2 ⟨pieces, hpieces, rfl⟩⟩

/-- A run of the route is one of its courses, and each course is a run. -/
theorem start_path_iff {es : List HostEvent} {r : Except Exn Response} :
    Path (SignIn.start py start draws next) es r ↔ StartRun py start draws next es r := by
  refine ⟨start_path py, fun h => ?_⟩
  have hrun {config : Ref WebAuthConfig} (rp : OidcRelyingParty) (answer : Except Exn ℚ)
      (hconfig : webAuthConfig start = .ok config) :
      Path (SignIn.start py start draws next) [⟨.relyingParty start, .ok rp⟩, ⟨.wallClock, answer⟩]
        (answer.bind fun now => startedAt py start config.value rp draws now next) := by
    have hreads : Path (call (I := hostCalls) .wallClock fun reading =>
        done (reading.bind fun now => startedAt py start config.value rp draws now next))
        [⟨.wallClock, answer⟩]
        (answer.bind fun now => startedAt py start config.value rp draws now next) :=
      ⟨answer, [], rfl, path_done.2 ⟨rfl, rfl⟩⟩
    rw [← start_reads] at hreads
    refine ⟨.ok rp, _, rfl, ?_⟩
    simp only [done_ok, ret_andThen, onReturn_ok, liftM_eq, hconfig]
    exact hreads
  cases h with
  | withoutParty e => exact ⟨.error e, [], rfl, rfl, rfl⟩
  | withoutConfig rp e hconfig =>
    refine ⟨.ok rp, [], rfl, ?_⟩
    simp only [done_ok, ret_andThen, onReturn_ok, liftM_eq, hconfig]
    exact ⟨rfl, rfl⟩
  | withoutClock rp config e hconfig => exact hrun rp (.error e) hconfig
  | started rp config reading hconfig => exact hrun rp (.ok reading) hconfig

/-- What a start hands out: to the issuer the state, the nonce and the S256 challenge of a login, to
the browser that very login in a signed cookie that returns to a path of the app or to none. -/
structure HandsOut (py : Platform) (start : Scope) (config : WebAuthConfig) (rp : OidcRelyingParty)
    (draws : LoginDraws) (reading : ℚ) (next : Option Str) (answer : Response) : Prop where
  request : ∃ location query, answer.headers = [(str "location", location)] ∧
    (rp.config.checkUrls = .ok () →
      partition (chr '?') location = (rp.config.authorizationEndpoint, some query) ∧
        chr '#' ∉ location) ∧
    ∀ strictParsing errors, parseQsl strictParsing errors query =
      some (rp.authorizationParameters py (draws.pendingLogin reading))
  cookie : ∃ cookie, answer.cookies.getLast? = some cookie ∧
    pendingLoginCookieName py (tokenUrlsafe draws.state) config.cookieSecure = .ok cookie.name ∧
    cookie.value.length ≤ 896 ∧ verifyPendingLogin py cookie.value config.signingKey =
      .ok (some { draws.pendingLogin reading with returnTo := sameAppPath start next })

theorem handsOut_of_started {answer : Response} (hmac : HmacDigests py)
    (h : startedAt py start config rp draws reading next = .ok answer) :
    HandsOut py start config rp draws reading next answer := by
  obtain ⟨query, cookie, hquery, hheaders, hlast, hname, hlength, hread⟩ := startedAt_ok hmac h
  obtain ⟨pieces, hpieces, rfl⟩ := urlencode_eq_some.1 hquery
  refine ⟨⟨_, _, hheaders, fun hurls => ?_, fun strictParsing errors => parseQsl_join hpieces⟩,
    cookie, hlast, hname, hlength, hread⟩
  have hendpoint : isEndpointUrl rp.config.authorizationEndpoint = true :=
    (checkUrls_eq_ok hurls).1 ("authorization_endpoint", rp.config.authorizationEndpoint)
      (by simp [OidcClientConfig.endpointUrlFields])
  obtain ⟨-, -, hquestion, hfragment⟩ := of_isEndpointUrl hendpoint
  rw [List.append_assoc]
  refine ⟨partition_append hquestion _, ?_⟩
  show chr '#' ∉ rp.config.authorizationEndpoint ++ chr '?' :: join (chr '&') pieces
  rw [List.mem_append, List.mem_cons]
  rintro (hmem | hmem | hmem)
  · exact hfragment hmem
  · cases hmem
  · rcases mem_join hmem with hmark | ⟨piece, hpiece, hmem⟩
    · cases hmark
    · obtain ⟨pair, hpair⟩ := exists_of_mem_pieces hpieces hpiece
      exact not_mem_of_isPiece (by decide) (by decide) hpair hmem

/-- A start that fails fails with any `next`. -/
theorem start_error {next' : Option Str} {es : List HostEvent}
    (h : Path (SignIn.start py start draws next) es (.error e)) :
    Path (SignIn.start py start draws next') es (.error e) := by
  rw [start_path_iff] at h ⊢
  generalize hr : (Except.error e : Except Exn Response) = r at h
  cases h with
  | withoutParty e' =>
    obtain rfl := Except.error.inj hr
    exact .withoutParty e
  | withoutConfig rp e' hconfig =>
    obtain rfl := Except.error.inj hr
    exact .withoutConfig rp e hconfig
  | withoutClock rp config e' hconfig =>
    obtain rfl := Except.error.inj hr
    exact .withoutClock rp config e hconfig
  | started rp config reading hconfig =>
    have hfails : startedAt py start config.value rp draws reading next' = .error e :=
      startedAt_error.2 (startedAt_error.1 hr.symm)
    rw [← hr, ← hfails]
    exact .started rp config reading hconfig

/-- A start that answers has read the clock once. -/
theorem start_ok {es : List HostEvent} {answer : Response}
    (h : Path (SignIn.start py start draws next) es (.ok answer)) :
    ∃ (rp : OidcRelyingParty) (config : Ref WebAuthConfig) (reading : ℚ),
      es = [⟨.relyingParty start, .ok rp⟩, ⟨.wallClock, .ok reading⟩] ∧
      webAuthConfig start = .ok config ∧
      startedAt py start config.value rp draws reading next = .ok answer := by
  rw [start_path_iff] at h
  generalize hr : (Except.ok answer : Except Exn Response) = r at h
  cases h with
  | withoutParty => cases hr
  | withoutConfig => cases hr
  | withoutClock => cases hr
  | started rp config reading hconfig => exact ⟨rp, config, reading, rfl, hconfig, rfl⟩

/-- **A start fails for no return path**, and hands the issuer and the browser one and the same
login. -/
theorem login_start (hmac : HmacDigests py) (start : Scope) (draws : LoginDraws)
    (next : Option Str) (es : List HostEvent) :
    (∀ e, Path (SignIn.start py start draws next) es (.error e) ↔
      Path (SignIn.start py start draws none) es (.error e)) ∧
    ∀ answer, Path (SignIn.start py start draws next) es (.ok answer) →
      ∃ rp config reading, es = [⟨.relyingParty start, .ok rp⟩, ⟨.wallClock, .ok reading⟩] ∧
        webAuthConfig start = .ok config ∧
        HandsOut py start config.value rp draws reading next answer := by
  refine ⟨fun e => ⟨start_error, start_error⟩, fun answer h => ?_⟩
  obtain ⟨rp, config, reading, rfl, hconfig, hstarted⟩ := start_ok h
  exact ⟨rp, config, reading, rfl, hconfig, handsOut_of_started hmac hstarted⟩

end Start

/-! ## The callback -/

section Callback

variable {py : Platform} {routes : SignIn} {scope : Scope} {config : Ref WebAuthConfig}
  {pending : PendingLogin} {es : List HostEvent} {response : Response}

/-- A run that asks the host for no refusal. -/
def AsksNoRefusal (es : List HostEvent) : Prop := ∀ e ∈ es, ¬e.call.Refuses

theorem not_refused {cause : SignInCause} {r : Except Exn Response} (hno : AsksNoRefusal es) :
    ¬Path (SignIn.refuse scope cause) es r := by
  rintro ⟨answer, rest, rfl, -⟩
  exact hno _ List.mem_cons_self trivial

theorem AsksNoRefusal.of_append {es' : List HostEvent} (h : AsksNoRefusal (es ++ es')) :
    AsksNoRefusal es ∧ AsksNoRefusal es' :=
  ⟨fun e he => h e (List.mem_append_left _ he), fun e he => h e (List.mem_append_right _ he)⟩

/-- A sign-in that is not refused has opened a session and answers for it. -/
theorem admitIdentity_signedIn {identity : OidcIdentity} (hno : AsksNoRefusal es)
    (h : Path (routes.admitIdentity py scope config.value pending identity) es (.ok response)) :
    ∃ sessionId, SignIn.signedIn py scope config.value pending sessionId = .ok response := by
  unfold SignIn.admitIdentity at h
  split at h
  · exact (not_refused hno h).elim
  · obtain ⟨first₁, rest₁, replaced, rfl, -, hwritten⟩ := path_bind_ok h
    obtain ⟨first₂, rest₂, written, rfl, -, hanswer⟩ := path_bind_ok hwritten
    cases written with
    | none => exact (not_refused hno.of_append.2.of_append.2 hanswer).elim
    | some sessionId => exact ⟨sessionId, (path_done.1 hanswer).2.symm⟩

theorem answer_signedIn (hno : AsksNoRefusal es)
    (h : Path (routes.answer py scope config.value (some pending)) es (.ok response)) :
    ∃ sessionId, SignIn.signedIn py scope config.value pending sessionId = .ok response := by
  unfold SignIn.answer at h
  obtain ⟨first₁, rest₁, rp, rfl, -, hasked⟩ := path_bind_ok h
  obtain ⟨first₂, rest₂, query, rfl, -, hlogs⟩ := path_bind_ok hasked
  obtain ⟨first₃, rest₃, reply, rfl, -, hreply⟩ := path_bind_ok hlogs
  have hrest := hno.of_append.2.of_append.2.of_append.2
  cases reply with
  | error cause => exact (not_refused hrest hreply).elim
  | ok identity => exact admitIdentity_signedIn hrest hreply

/-- A response redirects to a path, with the cookies it has besides. -/
def RedirectsTo (path : Str) (response : Response) : Prop :=
  ∃ redirect, redirectResponse path = .ok redirect ∧
    response = { redirect with cookies := response.cookies }

theorem RedirectsTo.location {path : Str} (h : RedirectsTo path response) :
    ∃ location, quote isRedirectSafe path = some location ∧
      response.headers = [(str "location", location)] := by
  obtain ⟨redirect, hredirect, hresponse⟩ := h
  obtain ⟨location, hlocation, hanswer⟩ := bind_eq_ok.1 hredirect
  refine ⟨location, orRaise_eq_ok.1 hlocation, ?_⟩
  rw [hresponse, ← Except.ok.inj hanswer]

/-- The answer to a sign-in redirects to where it ends. -/
theorem signedIn_redirects {sessionId : Str}
    (h : SignIn.signedIn py scope config.value pending sessionId = .ok response) :
    RedirectsTo (landing scope pending.returnTo) response := by
  unfold SignIn.signedIn at h
  obtain ⟨redirect, hredirect, hissued⟩ := bind_eq_ok.1 h
  obtain ⟨value, -, hcookie⟩ := bind_eq_ok.1 hissued
  refine ⟨redirect, hredirect, ?_⟩
  rw [← Except.ok.inj hcookie]
  rfl

end Callback

/-! ## The whole way -/

section Link

variable {py : Platform} {asked start back : Scope} {redirect : LoginRedirect} {address : Str}

theorem decodeLatin1_encodeLatin1 {s : Str} (h : isAscii s = true) :
    decodeLatin1 (encodeLatin1 s) = s := by
  unfold decodeLatin1 encodeLatin1
  rw [List.map_map]
  refine (List.map_congr_left fun c hc => ?_).trans (List.map_id s)
  have hlt := List.all_eq_true.1 h c hc
  simp only [CodePoint.isAscii, decide_eq_true_eq] at hlt
  refine Fin.ext ?_
  show (UInt8.ofNat c.val).toNat = c.val
  rw [UInt8.toNat_ofNat']
  omega

/-- A redirect writes a return path in other characters and leaves the bytes it stands for. -/
theorem redirect_same_bytes {path location : Str} (hvisible : ∀ c ∈ path, isVisible c = true)
    (h : quote isRedirectSafe path = some location) :
    unquoteToBytes location = unquoteToBytes path := by
  have hascii : isAscii path = true := List.all_eq_true.2 fun c hc => by
    have hlow := hvisible c hc
    simp only [isVisible, Bool.and_eq_true, decide_eq_true_eq] at hlow
    exact decide_eq_true (show c.val < 128 by omega)
  unfold quote at h
  rw [encode_of_isAscii hascii] at h
  rw [← Option.some.inj h, unquoteToBytes_requote (by decide), decodeLatin1_encodeLatin1 hascii]

/-- The browser comes back with the cookie of its login, and the query names that login's state. -/
structure ComesBack (py : Platform) (back : Scope) (config : Ref WebAuthConfig)
    (draws : LoginDraws) (cookie : SetCookie) : Prop where
  config : webAuthConfig back = .ok config
  state : ∃ query, back.requestUrlQuery = .ok query ∧
    callbackState query = .ok (tokenUrlsafe draws.state)
  cookie : cookieValues py back cookie.name = [cookie.value]

/-- A callback that completes the login it took redirects to where that login returns. -/
theorem callback_lands {config : Ref WebAuthConfig} {draws : LoginDraws} {cookie : SetCookie}
    {pending : PendingLogin} {routes : SignIn} {es : List HostEvent} {answer : RouteAnswer}
    {response : Response} (hcomes : ComesBack py back config draws cookie)
    (hname : pendingLoginCookieName py (tokenUrlsafe draws.state) config.value.cookieSecure =
      .ok cookie.name)
    (hread : verifyPendingLogin py cookie.value config.value.signingKey = .ok (some pending))
    (h : Path (routes.callback py back) es (.ok (.answer answer)))
    (houtcome : answer.outcome = .ok response) (hno : AsksNoRefusal es) :
    RedirectsTo (landing back pending.returnTo) response := by
  obtain ⟨query, hquery, hstate⟩ := hcomes.state
  have htaken := takePendingLogin_carried hname hcomes.cookie hread
  obtain ⟨outcome, hrouted, hanswer⟩ := callback_taken hcomes.config hquery hstate htaken h
  obtain rfl := Routed.answer.inj (Except.ok.inj hrouted)
  rw [show outcome = .ok response from houtcome] at hanswer
  obtain ⟨sessionId, hsigned⟩ := answer_signedIn hno hanswer
  exact signedIn_redirects hsigned

/-- Where an answer to a sign-in leads: to what was asked for, when that is a path of the app, and
else to the root of the app. -/
structure Ends (asked : Scope) (address : Str) (response : Response) : Prop where
  location : ∃ location, response.headers = [(str "location", location)] ∧
    quote isRedirectSafe ((sameAppPath asked (some address)).getD (appRoot asked)) = some location
  same_bytes : sameAppPath asked (some address) ≠ none → ∃ location bytes,
    response.headers = [(str "location", location)] ∧ encode address = some bytes ∧
      unquoteToBytes location = unquoteToBytes (decodeLatin1 bytes)

theorem ends_of_landing {address : Str} {response : Response}
    (h : RedirectsTo ((sameAppPath asked (some address)).getD (appRoot asked)) response) :
    Ends asked address response := by
  obtain ⟨location, hlocation, hheaders⟩ := h.location
  refine ⟨⟨location, hheaders, hlocation⟩, fun hkept => ?_⟩
  obtain ⟨path, hpath⟩ := Option.ne_none_iff_exists'.1 hkept
  have hkeeps := sameAppPath_eq_some.1 hpath
  obtain ⟨bytes, hbytes, hsame⟩ := hkeeps.isReturnPath.same_bytes
  rw [hpath] at hlocation
  exact ⟨location, bytes, hheaders, hbytes,
    (redirect_same_bytes hkeeps.visible hlocation).trans hsame⟩

/-- The refusal of a guarded page is a redirect whose query holds the address alone. -/
theorem redirected_of_unauthenticated {detail : Str} {e : Exn} (hquestion : chr '?' ∉ redirect.path)
    (hfragment : chr '#' ∉ redirect.path) (haddress : requestedAddress asked = some address)
    (hhtml : prefersHtml py asked = true)
    (h : unauthenticated py asked detail (some redirect) = .ok e) :
    ∃ location query, e = .httpException 302 (str "Found") [(str "Location", location)] ∧
      partition (chr '?') location = (redirect.path, some query) ∧ chr '#' ∉ location ∧
      ∀ strictParsing errors, parseQsl strictParsing errors query =
        some [(redirect.redirectQueryParam, linkOf asked address)] := by
  obtain ⟨address', query, haddress', hpiece, rfl⟩ := unauthenticated_redirects hhtml h
  obtain rfl := Option.some.inj (haddress'.symm.trans haddress)
  have hmark : chr '#' ∉ redirect.path ++ chr '?' :: query := by
    rw [List.mem_append, List.mem_cons]
    rintro (hpath | hquery | hquery)
    · exact hfragment hpath
    · cases hquery
    · exact not_mem_of_isPiece (by decide) (by decide) hpiece hquery
  refine ⟨_, query, rfl, partition_append hquestion query, hmark, fun strictParsing errors => ?_⟩
  rw [← join_singleton (c := chr '&') query]
  exact parseQsl_join (.cons hpiece .nil)

/-- **A deep link survives the sign-in.** The redirect's query holds exactly the address, the start
signs it into a cookie that is short enough to come back, and the sign-in ends at it. -/
theorem deep_link {detail : Str} {e : Exn} (hmac : HmacDigests py)
    (hquestion : chr '?' ∉ redirect.path) (hfragment : chr '#' ∉ redirect.path)
    (hhtml : prefersHtml py asked = true)
    (hrefused : unauthenticated py asked detail (some redirect) = .ok e)
    (hstart : start.rootPath = asked.rootPath) (hback : back.rootPath = asked.rootPath) :
    ∃ address location query, requestedAddress asked = some address ∧
      e = .httpException 302 (str "Found") [(str "Location", location)] ∧
      partition (chr '?') location = (redirect.path, some query) ∧ chr '#' ∉ location ∧
      (∀ strictParsing errors, parseQsl strictParsing errors query =
        some [(redirect.redirectQueryParam, linkOf asked address)]) ∧
      ∀ (config : Ref WebAuthConfig) rp draws reading started,
        startedAt py start config.value rp draws reading (some (linkOf asked address)) =
          .ok started →
        ∃ cookie, started.cookies.getLast? = some cookie ∧ cookie.value.length ≤ 896 ∧
          (∀ path, sameAppPath asked (some address) = some path →
            verifyPendingLogin py cookie.value config.value.signingKey =
              .ok (some { draws.pendingLogin reading with returnTo := some path })) ∧
          ∀ (routes : SignIn) es (answer : RouteAnswer) response,
            ComesBack py back config draws cookie →
            Path (routes.callback py back) es (.ok (.answer answer)) →
            answer.outcome = .ok response → AsksNoRefusal es → Ends asked address response := by
  obtain ⟨address, -, haddress, -, -⟩ := unauthenticated_redirects hhtml hrefused
  obtain ⟨location, query, he, hcut, hmark, hparse⟩ :=
    redirected_of_unauthenticated hquestion hfragment haddress hhtml hrefused
  refine ⟨address, location, query, haddress, he, hcut, hmark, hparse,
    fun config rp draws reading started hstarted => ?_⟩
  obtain ⟨-, cookie, -, -, hlast, hname, hlength, hread⟩ := startedAt_ok hmac hstarted
  refine ⟨cookie, hlast, hlength, fun path hpath => ?_,
    fun routes es answer response hcomes hrun houtcome hno => ?_⟩
  · rw [hread, startedLogin, sameAppPath_mounted hstart, linkOf, hpath, Option.getD_some,
      sameAppPath_kept hpath]
  · have hlands := callback_lands hcomes hname hread hrun houtcome hno
    rw [startedLogin, landing_linkOf hstart hback] at hlands
    exact ends_of_landing hlands

end Link

/-! ## A deep link of a host -/

/-- A page of an app below `/app`, as a browser asks for it. -/
def linkPage : Scope :=
  { callbackScope with
    path := str "/app/doc"
    rawPath := some (encodeLatin1 (str "/app/doc"))
    rootPath := str "/app"
    queryString := encodeLatin1 (str "q=a&b")
    headers := [(encodeLatin1 (str "accept"), encodeLatin1 (str "text/html"))] }

/-- The start of that app. -/
def linkStart : Scope := { callbackScope with rootPath := str "/app" }

/-- Its callback. -/
def linkCallback : Scope :=
  { callbackScope with
    rootPath := str "/app"
    urlQuery := some (str "code=c&state=" ++ tokenUrlsafe codecDraws.state) }

def linkRedirect : LoginRedirect := ⟨str "/app/login", str "next", by decide⟩

/-- The login that a start signs for the page. -/
def linkLogin : PendingLogin :=
  { codecDraws.pendingLogin 100 with returnTo := some (str "/app/doc?q=a&b") }

/-- Its cookie's value. -/
def linkValue : Str :=
  ((signPendingLogin signInPlatform linkLogin demoConfig.signingKey).toOption).getD []

/-- Its cookie. -/
def linkCookie : SetCookie := cookieOf demoConfig .lax (str "__Host-oidc_pending_") linkValue 600

/-- The surroundings in which a browser carries it back, and `"i"` is an ID token of it. -/
def linkPlatform : Platform :=
  { signInPlatform with
    cookieParser := fun _ => [(str "__Host-oidc_pending_", linkValue)]
    jwtDecode := fun _ => .ok [(str "iss", .str (str "https://issuer")),
      (str "aud", .str (str "client")), (str "iat", .int 90), (str "exp", .int 200),
      (str "sub", .str (str "u")), (str "nonce", .str linkLogin.nonce)] }

theorem linkPlatform_digests : HmacDigests linkPlatform := fun _ _ => rfl

/-- The response of an answer that completes. -/
def completedResponse : Except Exn Routed → Option Response
  | .ok (.answer answer) => answer.outcome.toOption
  | _ => none

/-- Whether a call asks the host for a refusal. -/
def asksRefusal : HostEvent → Bool
  | ⟨.refused _ _, _⟩ => true
  | _ => false

theorem asksNoRefusal_of_all {es : List HostEvent} (h : es.any asksRefusal = false) :
    AsksNoRefusal es := by
  intro e he hrefuses
  have hno := List.any_eq_false.1 h e he
  obtain ⟨c, ans⟩ := e
  cases c <;> first | exact hrefuses.elim | exact hno rfl

/-- The run of that start. -/
def linkStartRun : List HostEvent × Except Exn Response :=
  play (demoHost signInScript) (SignIn.start linkPlatform linkStart codecDraws
    (some (str "/app/doc?q=a&b"))) ⟨oneSession, oneSession⟩

theorem login_start_of_page : ∃ answer rp config reading, linkStartRun.2 = .ok answer ∧
    HandsOut linkPlatform linkStart config rp codecDraws reading (some (str "/app/doc?q=a&b"))
      answer := by
  have hpath : Path (SignIn.start linkPlatform linkStart codecDraws (some (str "/app/doc?q=a&b")))
      linkStartRun.1 linkStartRun.2 := by
    unfold linkStartRun
    exact path_play (I := hostCalls) (demoHost signInScript) _ ⟨oneSession, oneSession⟩
  have hanswers : linkStartRun.2.toOption.isSome = true := by decide +kernel
  generalize linkStartRun.2 = r at hpath hanswers
  cases r with
  | error e => cases hanswers
  | ok answer =>
    obtain ⟨rp, config, reading, -, -, hhands⟩ :=
      (login_start linkPlatform_digests _ _ _ _).2 answer hpath
    exact ⟨answer, rp, config.value, reading, rfl, hhands⟩

theorem toOption_eq_some {ε α : Type} {x : Except ε α} {a : α} :
    x.toOption = some a ↔ x = .ok a := by
  cases x <;> simp [Except.toOption]

theorem completedResponse_eq_some {r : Except Exn Routed} {response : Response}
    (h : completedResponse r = some response) :
    ∃ answer, r = .ok (.answer answer) ∧ answer.outcome = .ok response := by
  rcases r with e | response' | answer
  · cases h
  · cases h
  · exact ⟨answer, rfl, toOption_eq_some.1 h⟩

/-- The sign-in of that callback is not refused. -/
theorem linkCallback_completes {back : Scope} (hback : back = linkCallback) :
    ∃ es answer response, Path (cappedRoutes.callback linkPlatform back) es (.ok (.answer answer)) ∧
      AsksNoRefusal es ∧ answer.outcome = .ok response ∧
      response.headers = [(str "location", str "/app/doc?q=a&b")] := by
  obtain ⟨run, hrun⟩ : ∃ run, run = play (demoHost signInScript)
    (cappedRoutes.callback linkPlatform back) ⟨oneSession, oneSession⟩ := ⟨_, rfl⟩
  have hpath : Path (cappedRoutes.callback linkPlatform back) run.1 run.2 := by
    rw [hrun]
    exact path_play (I := hostCalls) _ _ _
  have hno : run.1.any asksRefusal = false := by
    rw [hrun, hback]
    decide +kernel
  have hlocated : (completedResponse run.2).map (·.headers) =
      some [(str "location", str "/app/doc?q=a&b")] := by
    rw [hrun, hback]
    decide +kernel
  obtain ⟨response, hresponse, hheaders⟩ := Option.map_eq_some_iff.1 hlocated
  obtain ⟨answer, hanswer, houtcome⟩ := completedResponse_eq_some hresponse
  rw [hanswer] at hpath
  exact ⟨run.1, answer, response, hpath, asksNoRefusal_of_all hno, houtcome, hheaders⟩

theorem linkCookie_comesBack :
    ComesBack linkPlatform linkCallback ⟨0, demoConfig⟩ codecDraws linkCookie where
  config := rfl
  state := ⟨_, rfl, by decide +kernel⟩
  cookie := by
    unfold cookieValues cookiePairs
    decide +kernel

theorem linkPage_started : ∃ started, startedAt linkPlatform linkStart demoConfig demoRelyingParty
      codecDraws 100 (some (linkOf linkPage (str "/app/doc?q=a&b"))) = .ok started ∧
    started.cookies.getLast? = some linkCookie := by
  have hlast : (startedAt linkPlatform linkStart demoConfig demoRelyingParty codecDraws 100
      (some (linkOf linkPage (str "/app/doc?q=a&b")))).toOption.bind (·.cookies.getLast?) =
      some linkCookie := by decide +kernel
  obtain ⟨started, hanswer, hcookie⟩ := Option.bind_eq_some_iff.1 hlast
  exact ⟨started, toOption_eq_some.1 hanswer, hcookie⟩

theorem deep_link_of_page : ∃ response, Ends linkPage (str "/app/doc?q=a&b") response ∧
    response.headers = [(str "location", str "/app/doc?q=a&b")] := by
  have hrefused : unauthenticated linkPlatform linkPage (str "Authentication required")
      (some linkRedirect) = .ok (.httpException 302 (str "Found")
        [(str "Location", str "/app/login?next=%2Fapp%2Fdoc%3Fq%3Da%26b")]) := by decide +kernel
  have hasked : requestedAddress linkPage = some (str "/app/doc?q=a&b") := by decide +kernel
  obtain ⟨back, hback⟩ : ∃ back, back = linkCallback := ⟨_, rfl⟩
  have hmounted : back.rootPath = linkPage.rootPath := by
    rw [hback]
    rfl
  obtain ⟨address, -, -, haddress, -, -, -, -, hgoes⟩ :=
    @deep_link linkPlatform linkPage linkStart back linkRedirect _ _ linkPlatform_digests
      (by decide) (by decide) (by decide +kernel) hrefused rfl hmounted
  obtain rfl := Option.some.inj (haddress.symm.trans hasked)
  obtain ⟨started, hstarted, hlast⟩ := linkPage_started
  obtain ⟨cookie, hcookie, -, -, hends⟩ := hgoes ⟨0, demoConfig⟩ demoRelyingParty codecDraws 100
    started hstarted
  obtain rfl := Option.some.inj (hcookie.symm.trans hlast)
  obtain ⟨es, answer, response, hpath, hno, houtcome, hheaders⟩ := linkCallback_completes hback
  have hcomes : ComesBack linkPlatform back ⟨0, demoConfig⟩ codecDraws linkCookie :=
    hback ▸ linkCookie_comesBack
  exact ⟨response, hends cappedRoutes es answer response hcomes hpath houtcome hno, hheaders⟩

end WebAuth
