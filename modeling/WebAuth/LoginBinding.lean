import WebAuth.DeepLinks
import WebAuth.LoginRuns

/-!
# What a sign-in is bound to

A callback that enters the sign-in transaction has its state, its code verifier, its nonce and its
age from one login that this server signed and that the browser carried back, and it signs in the
subject the issuer vouched for in answer to that login's one token request.
-/

namespace WebAuth

open Python Effects Program DecisionTable

/-! ## The statement -/

/-- The query of a callback and the one cookie of its state name a login that this server signed. -/
structure NamesLogin (py : Platform) (scope : Scope) (config : WebAuthConfig)
    (history : List Signing) (callback : List (Str × Str)) (login : PendingLogin) : Prop where
  query : ∃ query, scope.requestUrlQuery = .ok query ∧ Names query callback
  state : callback.lookup (str "state") = some login.state ∧ login.state ≠ []
  cookie : ∃ name value signed,
    pendingLoginCookieName py login.state config.cookieSecure = .ok name ∧
    cookieValues py scope name = [value] ∧ .login signed ∈ history ∧
    signPendingLogin py signed config.signingKey = .ok value ∧ signed.carried = login

/-- The issuer vouches for an identity in answer to a login's code: within the login's ten minutes,
one token request sends the callback's code with the login's verifier, and the ID token of the
answer is for this client and has the login's nonce. -/
structure Vouches (py : Platform) (rp : OidcRelyingParty) (callback : List (Str × Str))
    (login : PendingLogin) (identity : OidcIdentity) (exchange : List HostEvent) : Prop where
  exchange : ∃ (c : Circumstances py rp) (code : Str) (checks : List HostEvent),
    exchange = ⟨.wallClock, .ok c.now⟩ ::
      ⟨.postTokenRequest (rp.codeGrant login code), c.answer⟩ :: checks ∧ checks <+: c.steps ∧
    callback.lookup (str "code") = some code ∧ code ≠ [] ∧
    0 ≤ c.now - login.issuedAt ∧ c.now - login.issuedAt ≤ 600 ∧
    (∃ claims, c.judged = .ok claims ∧
      claims.claims.get (str "nonce") = some (.str login.nonce) ∧ IsForParty rp claims) ∧
    ProvesIdentity c identity

/-- How a callback answers once the transaction was asked for: with the session's cookie after a
write that was kept, and otherwise with no session. -/
inductive WriteAnswer (py : Platform) (scope : Scope) (config : WebAuthConfig)
    (login : PendingLogin) : Except Exn Str → List HostEvent → Except Exn Response → Prop
  | signedIn (sessionId : Str) : WriteAnswer py scope config login (.ok sessionId) []
      (SignIn.signedIn py scope config login sessionId)
  | usernameTaken (answer : Except Exn Response) :
      WriteAnswer py scope config login (.error .usernameTakenSignal)
        [⟨.refused scope (.admission .usernameTaken), answer⟩] answer
  | raised (e : Exn) (h : e ≠ .usernameTakenSignal) :
      WriteAnswer py scope config login (.error e) [] (.error e)

/-- A callback's run whose sign-in is bound to one login: the identity it comes to, what the write
asks and comes to, and the answer. -/
structure BoundRun (py : Platform) (routes : SignIn) (scope : Scope) (config : WebAuthConfig)
    (history : List Signing) (es : List HostEvent) (r : Except Exn Routed) (identity : OidcIdentity)
    (written : List HostEvent) (kept : Except Exn Str) (back : List HostEvent)
    (outcome : Except Exn Response) : Prop where
  bound : ∃ login callback rp admitted replaced exchange carrier name,
    es = ⟨.relyingParty scope, .ok rp⟩ :: (exchange ++ (written ++ back)) ∧
    NamesLogin py scope config history callback login ∧
    Vouches py rp callback login identity exchange ∧
    identity.issuer = routes.admission.boundIssuer ∧
    (∃ role, appRole identity.groups routes.admission = some role ∧
      admitted = ⟨identity, role.value⟩) ∧
    sessionIdFromRequest py scope config = .ok replaced ∧
    Path (routes.write py config admitted replaced) written kept ∧
    WriteAnswer py scope config login kept back outcome ∧
    r = .ok (.answer ⟨carrier, outcome, plainServerError⟩) ∧
    pendingLoginCookieName py login.state config.cookieSecure = .ok name ∧
    carrier.cookies = [deletionOf config .lax name]

/-- A sign-in that is bound to one login. -/
structure BoundSignIn (py : Platform) (routes : SignIn) (scope : Scope) (config : WebAuthConfig)
    (history : List Signing) (es : List HostEvent) (r : Except Exn Routed) : Prop where
  bound : ∃ login callback rp identity admitted replaced exchange written back kept carrier outcome,
    es = ⟨.relyingParty scope, .ok rp⟩ :: (exchange ++ (written ++ back)) ∧
    NamesLogin py scope config history callback login ∧
    Vouches py rp callback login identity exchange ∧
    identity.issuer = routes.admission.boundIssuer ∧
    (∃ role, appRole identity.groups routes.admission = some role ∧
      admitted = ⟨identity, role.value⟩) ∧
    sessionIdFromRequest py scope config = .ok replaced ∧
    Path (routes.write py config admitted replaced) written kept ∧
    WriteAnswer py scope config login kept back outcome ∧
    r = .ok (.answer ⟨carrier, outcome, plainServerError⟩)

/-! ## The run -/

section Run

variable {py : Platform} {routes : SignIn} {scope : Scope} {config : Ref WebAuthConfig}
  {login : PendingLogin} {es : List HostEvent}

/-- A run that asks for the sign-in transaction. -/
def AsksToSignIn (es : List HostEvent) : Prop := ∃ e ∈ es, e.call = .enter .signIn

theorem not_asks_of_quiet (h : ∀ e ∈ es, e.call.Quiet) : ¬AsksToSignIn es := by
  rintro ⟨e, he, hcall⟩
  have hquiet := h e he
  rw [hcall] at hquiet
  exact hquiet

theorem not_asks_of_refuse {cause : SignInCause} {r : Except Exn Response}
    (h : Path (SignIn.refuse scope cause) es r) : ¬AsksToSignIn es :=
  not_asks_of_quiet fun e he => (refuse_path h e he).quiet

theorem AsksToSignIn.of_append {es' : List HostEvent} (h : AsksToSignIn (es ++ es'))
    (hno : ¬AsksToSignIn es) : AsksToSignIn es' := by
  obtain ⟨e, he, hcall⟩ := h
  rcases List.mem_append.1 he with he | he
  · exact absurd ⟨e, he, hcall⟩ hno
  · exact ⟨e, he, hcall⟩

/-- `_write` and what `_answer` makes of its end. -/
theorem written_answer {admitted : AdmittedLogin} {replaced : Option Str}
    {r : Except Exn Response} (h : Path (do
      let written ← tryCatch (do return some (← routes.write py config.value admitted replaced))
        SignIn.writeRefusal
      match written with
      | none => SignIn.refuse scope (.admission .usernameTaken)
      | some sessionId => (SignIn.signedIn py scope config.value login sessionId : Task Response))
      es r) :
    ∃ written back kept, es = written ++ back ∧
      Path (routes.write py config.value admitted replaced) written kept ∧
      WriteAnswer py scope config.value login kept back r := by
  obtain ⟨caught, back₂, r₂, rfl, hcaught, hback₂⟩ := path_andThen.1 h
  obtain ⟨returning, back₁, r₁, rfl, hreturning, hback₁⟩ := path_andThen.1 hcaught
  obtain ⟨written, none, kept, rfl, hwrite, hnone⟩ := path_andThen.1 hreturning
  refine ⟨written, none ++ (back₁ ++ back₂), kept, by simp, hwrite, ?_⟩
  cases kept with
  | ok sessionId =>
    obtain ⟨rfl, rfl⟩ := hnone
    obtain ⟨rfl, rfl⟩ := hback₁
    obtain ⟨rfl, rfl⟩ := path_done.1 hback₂
    exact .signedIn sessionId
  | error e =>
    obtain ⟨rfl, rfl⟩ := hnone
    by_cases htaken : e = .usernameTakenSignal
    · subst htaken
      obtain ⟨rfl, rfl⟩ := hback₁
      obtain ⟨answer, rest, rfl, hrest⟩ := hback₂
      obtain ⟨rfl, rfl⟩ := path_done.1 hrest
      exact .usernameTaken _
    · have hraises : SignIn.writeRefusal e = raise e := by
        cases e <;> first | exact absurd rfl htaken | rfl
      replace hback₁ : Path (SignIn.writeRefusal e) back₁ r₂ := hback₁
      rw [hraises] at hback₁
      obtain ⟨rfl, rfl⟩ := hback₁
      obtain ⟨rfl, rfl⟩ := hback₂
      exact .raised e htaken

/-- A callback that asks for the transaction has an identity from the issuer, and admits it. -/
theorem answer_asks {outcome : Except Exn Response} (hasks : AsksToSignIn es)
    (h : Path (routes.answer py scope config.value (some login)) es outcome) :
    ∃ rp query exchange identity admitted replaced written back kept,
      es = ⟨.relyingParty scope, .ok rp⟩ :: (exchange ++ (written ++ back)) ∧
      scope.requestUrlQuery = .ok query ∧
      Path (rp.completeLogin py login query) exchange (.ok (.ok identity)) ∧
      decideAdmission identity routes.admission = .ok admitted ∧
      sessionIdFromRequest py scope config.value = .ok replaced ∧
      Path (routes.write py config.value admitted replaced) written kept ∧
      WriteAnswer py scope config.value login kept back outcome := by
  unfold SignIn.answer at h
  obtain ⟨party, asked, rfl, hasked⟩ := path_perform_andThen.1 h
  have hparty : ¬AsksToSignIn [⟨.relyingParty scope, party⟩] :=
    not_asks_of_quiet (List.forall_mem_singleton.2 trivial)
  replace hasks := @AsksToSignIn.of_append [_] _ hasks hparty
  cases party with
  | error e =>
    obtain ⟨rfl, -⟩ := hasked
    exact (not_asks_of_quiet (by simp) hasks).elim
  | ok rp =>
    rcases path_lift_bind hasked with ⟨query, hquery, hlogs⟩ | ⟨e, -, rfl, -⟩
    rotate_left
    · exact (not_asks_of_quiet (by simp) hasks).elim
    obtain ⟨exchange, rest, reply, rfl, hexchange, hrest⟩ := path_andThen.1 hlogs
    have hissuer := (completeLogin_asks py rp login query).path hexchange
    replace hasks := hasks.of_append (not_asks_of_quiet fun e he => (hissuer e he).quiet)
    rcases reply with e | cause | identity
    · obtain ⟨rfl, -⟩ := hrest
      exact (not_asks_of_quiet (by simp) hasks).elim
    · exact (not_asks_of_refuse hrest hasks).elim
    · replace hrest :
          Path (routes.admitIdentity py scope config.value login identity) rest outcome := hrest
      unfold SignIn.admitIdentity at hrest
      cases hadmission : decideAdmission identity routes.admission with
      | error cause =>
        rw [hadmission] at hrest
        exact (not_asks_of_refuse hrest hasks).elim
      | ok admitted =>
        rw [hadmission] at hrest
        rcases path_lift_bind hrest with ⟨replaced, hreplaced, hwritten⟩ | ⟨e, -, rfl, -⟩
        rotate_left
        · exact (not_asks_of_quiet (by simp) hasks).elim
        obtain ⟨written, back, kept, rfl, hwrite, hanswer⟩ := written_answer hwritten
        exact ⟨rp, query, exchange, identity, admitted, replaced, written, back, kept, rfl, hquery,
          hexchange, hadmission, hreplaced, hwrite, hanswer⟩

/-- A history that posts once begins as the script does, up to its post. -/
theorem prefix_of_posted {rp : OidcRelyingParty} {query : Str} {c : Circumstances py rp}
    (hscript : es <+: c.script login query) (hposts : tokenRequests es = 1) :
    ∃ checks, checks <+: c.steps ∧ es = ⟨.wallClock, .ok c.now⟩ ::
      ⟨.postTokenRequest (rp.codeGrant login (codeNamed query)), c.answer⟩ :: checks := by
  change es <+: _ :: _ :: c.steps at hscript
  rcases es with _ | ⟨clock, _ | ⟨post, checks⟩⟩
  · cases hposts
  · obtain ⟨rfl, -⟩ := List.cons_prefix_cons.1 hscript
    cases hposts
  · obtain ⟨rfl, hposted⟩ := List.cons_prefix_cons.1 hscript
    obtain ⟨rfl, hchecks⟩ := List.cons_prefix_cons.1 hposted
    exact ⟨checks, hchecks, rfl⟩

/-- An identity that a login comes to is one the issuer vouches for. -/
theorem vouches_of_completed {rp : OidcRelyingParty} {query : Str} {identity : OidcIdentity}
    (hpy : PyJwtAnswers py) (hstate : (encode login.state).isSome)
    (hnonce : (encode login.nonce).isSome) (hissued : FitsFloat login.issuedAt)
    (hports : ∀ e ∈ es, PortAnswer e)
    (h : Path (rp.completeLogin py login query) es (.ok (.ok identity))) :
    ∃ callback, Names query callback ∧
      (callback.lookup (str "state") = some login.state ∧ login.state ≠ []) ∧
      Vouches py rp callback login identity es := by
  obtain ⟨r, hidentity⟩ := identity_of_completeLogin h
  obtain ⟨c, hscript⟩ := identity_circumstances hpy hstate hidentity hports
  obtain ⟨es', hscript', hruns, hposts⟩ := identity_runs query c hstate hissued
  obtain ⟨reply, hreply, hdecision⟩ := identityIn_decision query c hstate hnonce hissued
  rw [hreply] at hruns
  obtain ⟨rfl, hr⟩ := h.unique_in (completeLogin_path hruns) hscript hscript'
  obtain rfl := Except.ok.inj hr
  obtain ⟨hfaults, hproves⟩ := (hdecision.admitted identity).1 rfl
  obtain ⟨callback, hnames⟩ := not_not.1 (hfaults .malformedQuery)
  have hsame : login.state ≠ [] ∧ callback.lookup (str "state") = some login.state := by
    by_contra hno
    exact hfaults .stateMismatch ⟨callback, hnames, hno⟩
  obtain ⟨code, hcode, hne, -⟩ : ∃ code, callback.lookup (str "code") = some code ∧ code ≠ [] ∧
      code.length ≤ 2048 := by
    by_contra hno
    exact hfaults .malformedCode ⟨callback, hnames, hno⟩
  obtain ⟨hearly, hlate⟩ := not_not.1 (hfaults .expired)
  obtain ⟨claims, hjudged, -, -⟩ := hproves.claims
  have hclaims : login.nonce ≠ [] ∧ claims.claims.get (str "nonce") = some (.str login.nonce) := by
    by_contra hno
    exact hfaults .nonceMismatch ⟨claims, hjudged, hno⟩
  have hparty : IsForParty rp claims := by
    by_contra hno
    exact hfaults .partyMismatch ⟨claims, hjudged, hno⟩
  have hone : tokenRequests es = 1 := by
    rcases hposts with ⟨⟨fault, -, hfault⟩, -⟩ | ⟨-, hone⟩
    · exact absurd hfault (hfaults fault)
    · exact hone
  obtain ⟨checks, hchecks, hes⟩ := prefix_of_posted hscript hone
  rw [codeNamed_eq hnames hcode] at hes
  exact ⟨callback, hnames, hsame.symm, ⟨c, code, checks, hes, hchecks, hcode, hne, hearly, hlate,
    ⟨claims, hjudged, hclaims.2, hparty⟩, hproves⟩⟩

/-- The secrets of a login that was signed are plain text, and a float can hold its second. -/
theorem secrets_of_signed {signed : PendingLogin} {secret : Bytes} {value : Str}
    (h : signPendingLogin py signed secret = .ok value) :
    (encode signed.carried.state).isSome ∧ (encode signed.carried.nonce).isSome ∧
      FitsFloat signed.carried.issuedAt := by
  obtain ⟨returnTo, sig, -, hshape, -⟩ := signPendingLogin_eq_ok.1 h
  have hascii {s : Str} (hs : isPendingSecret s = true) : (encode s).isSome := by
    have hall := (isPendingSecret_iff.1 hs).2
    rw [encode_of_isAscii (isAscii_of_all (fun _ => isAscii_base64Url) hall)]
    rfl
  exact ⟨hascii hshape.state, hascii hshape.nonce, fitsFloat_of_isIssuedAt hshape.issuedAt⟩

/-- A login that is taken was read from the one cookie of its name. -/
theorem takePendingLogin_some {carrier : Response} {state : Str}
    (h : takePendingLogin py scope {} state config.value = .ok (carrier, some login)) :
    ∃ name value, pendingLoginCookieName py state config.value.cookieSecure = .ok name ∧
      cookieValues py scope name = [value] ∧
      verifyPendingLogin py value config.value.signingKey = .ok (some login) ∧
      carrier = clearPendingLoginCookie {} name config.value := by
  unfold takePendingLogin at h
  obtain ⟨name, hname, hcookies⟩ := bind_eq_ok.1 h
  dsimp only at hcookies
  split at hcookies
  · rename_i value hvalue
    obtain ⟨pending, hread, htaken⟩ := bind_eq_ok.1 hcookies
    obtain ⟨hcarrier, rfl⟩ := Prod.mk.inj (Except.ok.inj htaken)
    exact ⟨name, value, hname, hvalue, hread, hcarrier.symm⟩
  · cases (Prod.mk.inj (Except.ok.inj hcookies)).2

theorem mem_cookiePairs {name value : Str} (h : cookieValues py scope name = [value]) :
    ∃ cookie ∈ cookiePairs py scope, cookie.2 = value := by
  have hmem : value ∈ cookieValues py scope name := by simp [h]
  obtain ⟨cookie, hcookie, rfl⟩ := List.mem_map.1 hmem
  exact ⟨cookie, (List.mem_filter.1 hcookie).1, rfl⟩

theorem decideAdmission_eq_ok {identity : OidcIdentity} {admission : AdmissionConfig}
    {admitted : AdmittedLogin} (h : decideAdmission identity admission = .ok admitted) :
    identity.issuer = admission.boundIssuer ∧
      ∃ role, appRole identity.groups admission = some role ∧
        admitted = ⟨identity, role.value⟩ := by
  unfold decideAdmission at h
  split_ifs at h with hissuer
  split at h
  · cases h
  · rename_i role hrole
    exact ⟨not_not.1 hissuer, role, hrole, (Except.ok.inj h).symm⟩

/-- A callback that asks for the sign-in transaction takes its query, its cookie, its code and its
ID token from one login. -/
theorem boundRun_of_asks {history : List Signing} {r : Except Exn Routed} (hpy : PyJwtAnswers py)
    (hports : ∀ e ∈ es, e.call.AsksIssuer → PortAnswer e)
    (hconfig : webAuthConfig scope = .ok config)
    (hforged : ∀ cookie ∈ cookiePairs py scope,
      Unforged py config.value.signingKey history cookie.2)
    (h : Path (routes.callback py scope) es r) (hasks : AsksToSignIn es) :
    ∃ identity written kept back outcome, BoundRun py routes scope config.value history es r
      identity written kept back outcome := by
  unfold SignIn.callback at h
  rw [hconfig] at h
  rcases path_lift_bind h with ⟨config', hconfig', hread⟩ | ⟨e, herror, -, -⟩
  rotate_left
  · cases herror
  obtain rfl := Except.ok.inj hconfig'
  rcases path_lift_bind hread with ⟨query, hquery, hnamed⟩ | ⟨e, -, rfl, -⟩
  rotate_left
  · exact (not_asks_of_quiet (by simp) hasks).elim
  cases hstate : callbackState query with
  | error cause =>
    rw [hstate] at hnamed
    obtain ⟨asked, none, r₁, rfl, hrefuse, hnone⟩ := path_andThen.1 hnamed
    obtain rfl : none = [] := by cases r₁ <;> exact hnone.1
    rw [List.append_nil] at hasks
    exact (not_asks_of_refuse hrefuse hasks).elim
  | ok state =>
    rw [hstate] at hnamed
    rcases path_lift_bind hnamed with ⟨⟨carrier, pending⟩, htaken, hanswered⟩ | ⟨e, -, rfl, -⟩
    rotate_left
    · exact (not_asks_of_quiet (by simp) hasks).elim
    obtain ⟨answered, none, outcome, rfl, hanswer, hnone⟩ := path_andThen.1 hanswered
    obtain ⟨rfl, rfl⟩ := hnone
    rw [List.append_nil] at hasks hports ⊢
    cases pending with
    | none => exact (not_asks_of_refuse hanswer hasks).elim
    | some login =>
      obtain ⟨rp, query', exchange, identity, admitted, replaced, written, back, kept, rfl, hquery',
        hlogin, hadmission, hreplaced, hwrite, hback⟩ := answer_asks hasks hanswer
      obtain rfl := Except.ok.inj (hquery.symm.trans hquery')
      obtain ⟨name, value, hname, hvalue, hread, hcarrier⟩ := takePendingLogin_some htaken
      obtain ⟨cookie, hcookie, rfl⟩ := mem_cookiePairs hvalue
      obtain ⟨signed, hsigned, hsigns, rfl⟩ : ∃ signed, .login signed ∈ history ∧
          signPendingLogin py signed config.value.signingKey = .ok cookie.2 ∧
          signed.carried = login := by
        rcases verifyPendingLogin_unforged (hforged cookie hcookie) with
          hnone | ⟨signed, hmem, hsigns, hcarried⟩
        · rw [hnone] at hread
          cases hread
        · rw [hcarried] at hread
          exact ⟨signed, hmem, hsigns, Option.some.inj (Except.ok.inj hread)⟩
      obtain ⟨hplain, hnonce, hissued⟩ := secrets_of_signed hsigns
      have hissuer := (completeLogin_asks py rp _ query).path hlogin
      obtain ⟨callback, hnames, hsame, hvouches⟩ := vouches_of_completed hpy hplain hnonce
        hissued (fun e he => hports e (by simp [he]) (hissuer e he)) hlogin
      obtain rfl : state = signed.carried.state := Except.ok.inj
        (hstate.symm.trans (callbackState_of_named (namesState_of_names hnames hsame.1 hsame.2)))
      obtain ⟨hbound, hrole⟩ := decideAdmission_eq_ok hadmission
      have hnamed : NamesLogin py scope config.value history callback signed.carried :=
        ⟨⟨query, hquery, hnames⟩, hsame, name, cookie.2, signed, hname, hvalue, hsigned, hsigns,
          rfl⟩
      exact ⟨identity, written, kept, back, outcome, _, callback, rp, admitted, replaced, exchange,
        carrier, name, rfl, hnamed, hvouches, hbound, hrole, hreplaced, hwrite, hback, rfl, hname,
        by rw [hcarrier]; rfl⟩

/-- **A sign-in is bound to one login.** Where nobody forges the key's signatures, a callback that
asks for the sign-in transaction takes its query, its cookie, its code and its ID token from one
login that this server signed. -/
theorem login_binding {history : List Signing} {r : Except Exn Routed} (hpy : PyJwtAnswers py)
    (hports : ∀ e ∈ es, e.call.AsksIssuer → PortAnswer e)
    (hconfig : webAuthConfig scope = .ok config)
    (hforged : ∀ cookie ∈ cookiePairs py scope,
      Unforged py config.value.signingKey history cookie.2)
    (h : Path (routes.callback py scope) es r) (hasks : AsksToSignIn es) :
    BoundSignIn py routes scope config.value history es r := by
  obtain ⟨identity, written, kept, back, outcome, hbound⟩ :=
    boundRun_of_asks hpy hports hconfig hforged h hasks
  obtain ⟨login, callback, rp, admitted, replaced, exchange, carrier, -, hes, hlogin, hvouches,
    hissuer, hrole, hreplaced, hwrite, hanswer, hr, -, -⟩ := hbound.bound
  exact ⟨login, callback, rp, identity, admitted, replaced, exchange, written, back, kept, carrier,
    outcome, hes, hlogin, hvouches, hissuer, hrole, hreplaced, hwrite, hanswer, hr⟩

end Run

/-! ## A bound sign-in -/

/-- The signature of the codec's login. -/
def boundSignature : Str := hex (List.replicate 32 1)

/-- The cookie of that login. -/
def boundValue : Str := codecPayload ++ chr '.' :: boundSignature

/-- The surroundings in which a browser carries that login back, and `"i"` is an ID token of it. -/
def boundPlatform : Platform :=
  { signInPlatform with
    hmacSha256 := fun _ data =>
      List.replicate 32 (if data = encodeLatin1 (str "oidc-pending:" ++ codecPayload) then 1 else 0)
    cookieParser := fun _ => [(str "__Host-oidc_pending_", boundValue)]
    jwtDecode := fun d =>
      if str "client" ∈ d.audience then
        .ok [(str "iss", .str (str "https://issuer")), (str "aud", .str (str "client")),
          (str "iat", .int 90), (str "exp", .int 200), (str "sub", .str (str "u")),
          (str "nonce", .str codecLogin.nonce)]
      else .error .invalidAudience }

theorem boundValue_signed : signPendingLogin boundPlatform codecLogin demoConfig.signingKey =
    .ok boundValue := by decide +kernel

theorem boundValue_unforged :
    Unforged boundPlatform demoConfig.signingKey [.login codecLogin] boundValue := by
  intro start hstart text sig hvalue hpoint hsig
  have hparts : rpartition (chr '.') boundValue = some (codecPayload, boundSignature) :=
    rpartition_append (by decide) codecPayload
  rw [hvalue, rpartition_append hpoint] at hparts
  obtain ⟨rfl, rfl⟩ := Prod.mk.inj (Option.some.inj hparts)
  simp only [List.mem_cons, List.not_mem_nil, or_false] at hstart
  rcases hstart with rfl | rfl
  · have hother : signature boundPlatform (str "session:") codecPayload demoConfig.signingKey ≠
        .ok boundSignature := by decide +kernel
    exact absurd hsig hother
  · exact ⟨.login codecLogin, List.mem_singleton_self _, ⟨boundValue, boundValue_signed⟩,
      by decide +kernel⟩

theorem boundPlatform_answers : PyJwtAnswers boundPlatform where
  header _ _ h := by cases h
  payload d tag := by
    simp only [boundPlatform]
    split_ifs <;> simp
  audience d payload h := by
    simp only [boundPlatform] at h
    split_ifs at h with hclient
    obtain rfl := Except.ok.inj h
    exact ⟨[str "client"], rfl, str "client", hclient, List.mem_singleton_self _⟩

/-- The callback of that login. -/
def boundCallback : Scope :=
  { callbackScope with
    urlQuery := some (str "code=c&state=" ++ codecLogin.state) }

/-- Whether a call enters the sign-in transaction. -/
def entersSignIn : HostEvent → Bool
  | ⟨.enter .signIn, _⟩ => true
  | _ => false

theorem asksToSignIn_of_any {es : List HostEvent} (h : es.any entersSignIn = true) :
    AsksToSignIn es := by
  obtain ⟨e, he, henters⟩ := List.any_eq_true.1 h
  refine ⟨e, he, ?_⟩
  unfold entersSignIn at henters
  split at henters
  · rfl
  · cases henters

/-- The callback's run at a host that holds one session meets what a bound sign-in asks for. -/
theorem boundCallback_run {back : Scope} (hback : back = boundCallback)
    {run : List HostEvent × Except Exn Routed}
    (hrun : run = play (demoHost signInScript) (cappedRoutes.callback boundPlatform back)
      ⟨oneSession, oneSession⟩) :
    Path (cappedRoutes.callback boundPlatform back) run.1 run.2 ∧ AsksToSignIn run.1 ∧
      (∀ e ∈ run.1, e.call.AsksIssuer → PortAnswer e) ∧
      webAuthConfig back = .ok ⟨0, demoConfig⟩ ∧
      ∀ cookie ∈ cookiePairs boundPlatform back,
        Unforged boundPlatform demoConfig.signingKey [.login codecLogin] cookie.2 := by
  have hanswered : (run.1.all fun e => e.answer.toOption.isSome) = true := by
    rw [hrun, hback]
    decide +kernel
  have hasks : run.1.any entersSignIn = true := by
    rw [hrun, hback]
    decide +kernel
  refine ⟨?_, asksToSignIn_of_any hasks, fun e he _ x hx => ?_, ?_, fun cookie hcookie => ?_⟩
  · rw [hrun]
    exact path_play (I := hostCalls) _ _ _
  · have hsome := List.all_eq_true.1 hanswered e he
    rw [hx] at hsome
    cases hsome
  · rw [hback]
    rfl
  · have hcarried : cookiePairs boundPlatform boundCallback =
        [(str "__Host-oidc_pending_", boundValue)] := rfl
    rw [hback, hcarried, List.mem_singleton] at hcookie
    rw [hcookie]
    exact boundValue_unforged

theorem login_binding_of_callback : ∃ run, run = play (demoHost signInScript)
      (cappedRoutes.callback boundPlatform boundCallback) ⟨oneSession, oneSession⟩ ∧
    BoundSignIn boundPlatform cappedRoutes boundCallback demoConfig [.login codecLogin] run.1
      run.2 := by
  obtain ⟨back, hback⟩ : ∃ back, back = boundCallback := ⟨_, rfl⟩
  obtain ⟨run, hrun⟩ : ∃ run, run = play (demoHost signInScript)
    (cappedRoutes.callback boundPlatform back) ⟨oneSession, oneSession⟩ := ⟨_, rfl⟩
  obtain ⟨hpath, hasks, hports, hconfig, hforged⟩ := boundCallback_run hback hrun
  have hbound := login_binding boundPlatform_answers hports hconfig hforged hpath hasks
  subst hback
  exact ⟨run, hrun, hbound⟩

end WebAuth
