import WebAuth.Effects.Checks
import WebAuth.Effects.Failures
import WebAuth.LoginDecision

/-!
# The calls of a login

A login reads the clock, posts the code once and verifies the ID token of the answer, and it stops at
the first fault. So its calls are the first ones of a script that its circumstances fix, and the
decision on them is the decision on the callback.
-/

namespace WebAuth

open Python Effects Program DecisionTable

/-! ## A verification under the ports' answers -/

/-- An answer a step of a verifier may give: only the fetch of a key set fails. -/
def StepAnswer (e : Event verifierCalls Exn) : Prop :=
  ∀ x, e.answer = .error x → (∃ url, e.call = .fetchKeySet url) ∧ x = .keySetFetchError

/-- An exception that carries a refusal of a verification. -/
def IsVerificationRefusal (e : Exn) : Prop := ∃ reason, e = .verificationRefusal reason

section Verification

variable {py : Platform} {v : JwtVerifier} {E : Exn → Prop}

theorem ask_raises {c : VerifierCall} (h : ∀ url, c ≠ .fetchKeySet url) :
    RaisesOnly StepAnswer E (ask c) := by
  refine raisesOnly_perform fun e he => ?_
  obtain ⟨⟨url, hurl⟩, -⟩ := he e rfl
  exact absurd hurl (h url)

theorem isCurrent_raises (keySet : KeySet) : RaisesOnly StepAnswer E (isCurrent keySet) :=
  RaisesOnly.bind (ask_raises (by simp)) fun _ => trivial

theorem needsRefresh_raises (keyId : Option Str) (snapshot : Option KeySet) :
    RaisesOnly StepAnswer E (needsRefresh keyId snapshot) := by
  cases snapshot with
  | none => trivial
  | some keySet =>
    refine RaisesOnly.bind (isCurrent_raises keySet) fun current => ?_
    split <;> trivial

theorem keyOf_raises (keyId : Option Str) (snapshot : Option KeySet) :
    RaisesOnly StepAnswer IsVerificationRefusal (keyOf keyId snapshot) := by
  cases snapshot with
  | none => exact ⟨_, rfl⟩
  | some keySet =>
    refine RaisesOnly.bind (isCurrent_raises keySet) fun current => ?_
    split
    · cases keyId with
      | none =>
        dsimp only
        split
        · exact ⟨_, rfl⟩
        · trivial
      | some k =>
        dsimp only
        split
        · trivial
        · refine RaisesOnly.bind (ask_raises (by simp)) fun failed => ?_
          split <;> exact ⟨_, rfl⟩
    · exact ⟨_, rfl⟩

/-- A fetch that fails, or fetches a defective document, is answered for. -/
theorem fetchedKeys_raises : RaisesOnly StepAnswer E (fetchedKeys py v) := by
  have hfetch : RaisesOnly StepAnswer (fun e => e = .keySetFetchError ∨ IsInvalidKeySet e)
      (do
        let document ← ask (.fetchKeySet v.jwksUrl)
        let keys ← parseKeySet py document
        return Except.ok (ε := RefreshFailure) keys) := by
    refine RaisesOnly.bind (raisesOnly_perform fun e he => .inl (he e rfl).2) fun document => ?_
    refine RaisesOnly.bind (raisesOnly_done.2 fun e he => ?_) fun _ => trivial
    exact .inr (parseKeySet_raises py document e he)
  refine hfetch.tryCatch fun e he => ?_
  rcases he with rfl | ⟨failure, rfl⟩ <;> trivial

theorem refreshKeySet_raises : RaisesOnly StepAnswer E (refreshKeySet py v) := by
  refine RaisesOnly.bind (ask_raises (by simp)) fun acquired => ?_
  split
  · have hlocked : RaisesOnly StepAnswer E (refreshLocked py v) := by
      refine RaisesOnly.bind (ask_raises (by simp)) fun now =>
        RaisesOnly.bind (ask_raises (by simp)) fun last => ?_
      split
      · trivial
      · refine RaisesOnly.bind (ask_raises (by simp)) fun _ =>
          RaisesOnly.bind fetchedKeys_raises fun fetched => ?_
        cases fetched with
        | error failure => exact ask_raises (by simp)
        | ok keys =>
          exact RaisesOnly.bind (ask_raises (by simp)) fun _ => ask_raises (by simp)
    refine hlocked.andThen (fun _ => ?_) fun e he => ?_
    · exact RaisesOnly.bind (ask_raises (by simp)) fun _ => trivial
    · exact RaisesOnly.bind (ask_raises (by simp)) fun _ => he
  · trivial

theorem signingKey_raises (keyId : Option Str) :
    RaisesOnly StepAnswer IsVerificationRefusal (signingKey py v keyId) := by
  refine RaisesOnly.bind (ask_raises (by simp)) fun snapshot =>
    RaisesOnly.bind (needsRefresh_raises keyId snapshot) fun needed => ?_
  split
  · exact RaisesOnly.bind refreshKeySet_raises fun _ =>
      RaisesOnly.bind (ask_raises (by simp)) fun refreshed => keyOf_raises keyId refreshed
  · exact keyOf_raises keyId snapshot

theorem checkedHeader_refuses (hpy : PyJwtAnswers py) (token : Str) (expected : ExpectedType) :
    Raises IsVerificationRefusal (checkedHeader py token expected) := by
  unfold checkedHeader
  split_ifs
  · exact (raises_error _).2 ⟨_, rfl⟩
  · exact (raises_error _).2 ⟨_, rfl⟩
  · exact (raises_error _).2 ⟨_, rfl⟩
  split
  · rename_i tag htag
    exact absurd htag (hpy.header _ tag)
  · exact (raises_error _).2 ⟨_, rfl⟩
  · unfold headerKeyId
    repeat' split
    all_goals first
      | exact raises_ok _
      | exact (raises_error _).2 ⟨_, rfl⟩

theorem claimsOf_raises (claims : Dict) (haudiences : ∃ audiences, audiencesOf claims = .ok audiences) :
    RaisesOnly StepAnswer IsVerificationRefusal (claimsOf v claims) := by
  have hint : ∀ name, Raises IsVerificationRefusal (integerClaim claims name) := by
    intro name
    unfold integerClaim
    split
    · exact raises_ok _
    · exact (raises_error _).2 ⟨_, rfl⟩
  have htimes : RaisesOnly StepAnswer IsVerificationRefusal (checkedTimeClaims v claims) := by
    refine RaisesOnly.bind (raisesOnly_done.2 (hint _)) fun expiresAt =>
      RaisesOnly.bind (raisesOnly_done.2 (hint _)) fun issuedAt =>
      RaisesOnly.bind (raisesOnly_done.2 ?_) fun notBefore =>
      RaisesOnly.bind (ask_raises (by simp)) fun now => raisesOnly_done.2 ?_
    · unfold notBeforeClaim
      split
      · exact (hint _).map _
      · exact raises_ok _
    · show Raises _ _
      unfold timesAt
      repeat' split
      all_goals first
        | exact raises_ok _
        | exact (raises_error _).2 ⟨_, rfl⟩
  refine RaisesOnly.bind htimes fun times => RaisesOnly.bind (raisesOnly_done.2 ?_) fun subject => ?_
  · show Raises _ _
    unfold subjectOf
    repeat' split
    all_goals first
      | exact raises_ok _
      | exact (raises_error _).2 ⟨_, rfl⟩
  · obtain ⟨audiences, haudiences⟩ := haudiences
    refine RaisesOnly.bind (raisesOnly_done.2 ?_) fun _ => trivial
    rw [haudiences]
    exact raises_ok _

theorem verifiedClaims_raises (hpy : PyJwtAnswers py) (token : Str) (expected : ExpectedType) :
    RaisesOnly StepAnswer IsVerificationRefusal (verifiedClaims py v token expected) := by
  refine RaisesOnly.bind (raisesOnly_done.2 (checkedHeader_refuses hpy token expected)) fun keyId =>
    RaisesOnly.bind (signingKey_raises keyId) fun key => ?_
  show RaisesOnly _ _ (done (verifiedPayload py v token key) >>= claimsOf v)
  unfold verifiedPayload
  split
  · rename_i claims hdecode
    obtain ⟨audiences, haudiences, -⟩ := hpy.audience _ _ hdecode
    exact claimsOf_raises claims ⟨audiences, haudiences⟩
  · rename_i error hdecode
    cases error with
    | other tag => exact absurd hdecode (hpy.payload _ tag)
    | _ => exact ⟨_, rfl⟩

/-- **A verification answers**, whatever the token and the key set. -/
theorem verify_raises (hpy : PyJwtAnswers py) (token : Str) {expected : ExpectedType}
    (htypes : requireComparableTypes expected = .ok ()) :
    RaisesOnly StepAnswer (fun _ => False) (verify py v token expected) := by
  unfold verify
  rw [htypes]
  refine RaisesOnly.tryCatch (F := IsVerificationRefusal) ?_ ?_
  · exact RaisesOnly.bind (verifiedClaims_raises hpy token expected) fun _ => trivial
  · rintro e ⟨reason, rfl⟩
    trivial

end Verification

/-! ## A script -/

/-- The code a callback names. -/
def codeNamed (query : Str) : Str :=
  (((callbackParameters query).toOption.bind (·.lookup (str "code")))).getD []

/-- The calls of a login in given circumstances, and their answers. -/
def Circumstances.script {py : Platform} {rp : OidcRelyingParty} (c : Circumstances py rp)
    (pending : PendingLogin) (query : Str) : List HostEvent :=
  [⟨.wallClock, .ok c.now⟩, ⟨.postTokenRequest (rp.codeGrant pending (codeNamed query)), c.answer⟩] ++
    c.steps

/-- A token request. -/
def isTokenRequest (e : HostEvent) : Bool :=
  match e.call with
  | .postTokenRequest _ => true
  | _ => false

/-- The number of token requests in a history. -/
def tokenRequests (es : List HostEvent) : ℕ := es.countP isTokenRequest

/-- The token requests a login posts: none for a fault that comes before the exchange, and one from
the exchange on. -/
def PostsOnce {py : Platform} {rp : OidcRelyingParty} (pending : PendingLogin) (query : Str)
    (c : Circumstances py rp) (es : List HostEvent) : Prop :=
  ((∃ fault ∈ LoginFault.beforeExchange, fault.Applies pending query c) ∧ tokenRequests es = 0) ∨
    ((∀ fault ∈ LoginFault.beforeExchange, ¬fault.Applies pending query c) ∧ tokenRequests es = 1)

section Run

variable {py : Platform} {rp : OidcRelyingParty} {pending : PendingLogin} {query : Str}
  {callback : List (Str × Str)} {es : List HostEvent}

theorem codeNamed_eq {code : Str} (hnames : Names query callback)
    (hcode : callback.lookup (str "code") = some code) : codeNamed query = code := by
  unfold codeNamed
  rw [callbackParameters_eq_ok.2 hnames]
  show ((some callback).bind _).getD [] = code
  rw [Option.bind_some, hcode]
  rfl

theorem tokenRequests_append (es es' : List HostEvent) :
    tokenRequests (es ++ es') = tokenRequests es + tokenRequests es' := List.countP_append

theorem tokenRequests_verifier (owner : ℕ) (steps : List (Event verifierCalls Exn)) :
    tokenRequests (steps.map (verifierEvent owner)) = 0 := by
  unfold tokenRequests
  rw [List.countP_eq_zero]
  intro e he
  obtain ⟨step, -, rfl⟩ := List.mem_map.1 he
  simp [isTokenRequest, verifierEvent]

variable (rp) in
/-- `_authorization_code` reads the clock, unless the state already differs. -/
theorem authorizationCode_runs (hstate : (encode pending.state).isSome)
    (callback : List (Str × Str)) (now : ℚ) :
    Path (rp.authorizationCode pending callback) [⟨.wallClock, .ok now⟩]
        (codeAt rp pending callback now) ∨
      ((∃ e, codeAt rp pending callback now = .error e) ∧
        Path (rp.authorizationCode pending callback) [] (codeAt rp pending callback now)) := by
  obtain ⟨same, heq, -⟩ := isSameSecret_answers (callback.lookup (str "state")) hstate
  unfold OidcRelyingParty.authorizationCode codeAt
  rw [heq]
  cases same with
  | false => exact .inr ⟨⟨_, rfl⟩, rfl, rfl⟩
  | true =>
    refine .inl ⟨.ok now, [], rfl, ?_⟩
    show Path (((done (ageAt now pending.issuedAt)).andThen _).andThen _) []
      ((ageAt now pending.issuedAt).bind _)
    cases ageAt now pending.issuedAt with
    | error e => exact ⟨rfl, rfl⟩
    | ok age =>
      show Path (if !(decide (0 ≤ age) && decide (age ≤ pendingLoginMaxAgeSeconds)) then _ else _) []
        (if !(decide (0 ≤ age) && decide (age ≤ pendingLoginMaxAgeSeconds)) then _ else _)
      split
      · exact ⟨rfl, rfl⟩
      · exact path_done.2 ⟨rfl, rfl⟩

variable (py rp pending) in
/-- `_exchanged_tokens` posts once and reads the answer. -/
theorem exchangedTokens_runs (code : Str) {answer : Except Exn TokenEndpointAnswer}
    (hfailure : ∀ e, answer = .error e → e = .tokenEndpointError) :
    Path (rp.exchangedTokens py pending code)
      [⟨.postTokenRequest (rp.codeGrant pending code), answer⟩] (tokensOf py answer) := by
  refine ⟨answer, [], rfl, ?_⟩
  cases answer with
  | error e =>
    obtain rfl := hfailure e rfl
    exact ⟨rfl, rfl⟩
  | ok a =>
    show Path ((done (readTokenAnswer py a)).andThen _) [] ((readTokenAnswer py a).bind _)
    cases readTokenAnswer py a with
    | error e => exact ⟨rfl, rfl⟩
    | ok document =>
    show Path ((done (rawIdTokenOf document)).andThen _) [] ((rawIdTokenOf document).bind _)
    cases rawIdTokenOf document with
    | error e => exact ⟨rfl, rfl⟩
    | ok rawIdToken =>
    show Path ((done (issuedRefreshToken document)).andThen _) []
      ((issuedRefreshToken document).bind _)
    cases issuedRefreshToken document with
    | error e => exact ⟨rfl, rfl⟩
    | ok refreshToken => exact ⟨rfl, rfl⟩

theorem verifiedIdToken_runs {idToken : Str} {judged : Except RejectionReason VerifiedClaims}
    (h : Path ((verify py (rp.verifierFor rp.config.clientId) idToken .any).of rp.jwtVerifier) es
      (.ok judged)) : Path (rp.verifiedIdToken py idToken) es (claimsOrRefusal judged) := by
  unfold OidcRelyingParty.verifiedIdToken
  rw [← List.append_nil es]
  refine h.bind_rest.2 ?_
  cases judged with
  | error reason => exact ⟨rfl, rfl⟩
  | ok claims => exact ⟨rfl, rfl⟩

variable (pending) in
/-- The exchange and the verification make the calls of the script after the clock's. -/
theorem exchange_runs (c : Circumstances py rp) (code : Str) : ∃ es, es <+: c.steps ∧
    Path (rp.exchangedTokens py pending code >>= fun tokens => do
        let idToken ← rp.verifiedIdToken py tokens.1
        rp.checkedIdentity pending idToken tokens.1 tokens.2)
      (⟨.postTokenRequest (rp.codeGrant pending code), c.answer⟩ :: es)
      (identityOfCode py rp pending c) ∧ tokenRequests es = 0 := by
  have hposted := exchangedTokens_runs py rp pending code c.failure
  unfold identityOfCode
  rcases tokensOf_cases py c.answer with ⟨error, -, htokens⟩ | ⟨-, -, htokens⟩ |
    ⟨-, idToken, refreshToken, hanswers, htokens⟩
  · rw [htokens] at hposted ⊢
    exact ⟨[], List.nil_prefix, hposted.bind_error, rfl⟩
  · rw [htokens] at hposted ⊢
    exact ⟨[], List.nil_prefix, hposted.bind_error, rfl⟩
  · rw [htokens] at hposted ⊢
    have hpath := c.judges idToken refreshToken hanswers
    have hverified := verifiedIdToken_runs hpath
    refine ⟨c.steps, List.prefix_rfl, ?_, ?_⟩
    · rw [← List.singleton_append]
      refine hposted.bind_rest.2 ?_
      show Path _ _ ((claimsOrRefusal c.judged).bind _)
      cases hjudged : claimsOrRefusal c.judged with
      | error e =>
        rw [hjudged] at hverified
        exact hverified.bind_error
      | ok claims =>
        rw [hjudged] at hverified
        rw [← List.append_nil c.steps]
        exact hverified.bind_rest.2 (path_done.2 ⟨rfl, rfl⟩)
    · obtain ⟨steps, hsteps, -⟩ := of_path hpath
      rw [hsteps, tokenRequests_verifier]

variable (query) in
/-- **The run of given circumstances.** -/
theorem identity_runs (c : Circumstances py rp) (hstate : (encode pending.state).isSome)
    (hissued : FitsFloat pending.issuedAt) :
    ∃ es, es <+: c.script pending query ∧
      Path (rp.identity py pending query) es (identityIn py rp pending query c) ∧
      PostsOnce pending query c es := by
  unfold OidcRelyingParty.identity identityIn
  rcases callbackParameters_cases query with ⟨callback, hnames, hread⟩ | ⟨hno, hread⟩
  swap
  · rw [hread]
    exact ⟨[], List.nil_prefix, ⟨rfl, rfl⟩, .inl ⟨⟨.malformedQuery, by simp [LoginFault.beforeExchange],
      hno⟩, rfl⟩⟩
  rw [hread]
  have hcode := authorizationCode_runs rp hstate callback c.now
  rcases (codeAt_decides c hnames hstate hissued).elim with
    ⟨fault, hfirst, cause, -, herror⟩ | ⟨⟨code, hlookup, hok⟩, hnone⟩
  · have hbefore : ∃ fault ∈ LoginFault.beforeExchange, fault.Applies pending query c :=
      ⟨fault, hfirst.mem, hfirst.applies⟩
    rw [herror] at hcode
    have hreply : ((codeAt rp pending callback c.now).bind fun _ => identityOfCode py rp pending c) =
        .error (.refusalError cause) := by
      rw [herror]
      rfl
    rcases hcode with hpath | ⟨-, hpath⟩
    · refine ⟨[⟨.wallClock, .ok c.now⟩], ⟨_, rfl⟩, ?_, .inl ⟨hbefore, rfl⟩⟩
      show Path _ _ ((codeAt rp pending callback c.now).bind _)
      rw [hreply]
      exact hpath.bind_error
    · refine ⟨[], List.nil_prefix, ?_, .inl ⟨hbefore, rfl⟩⟩
      show Path _ _ ((codeAt rp pending callback c.now).bind _)
      rw [hreply]
      exact hpath.bind_error
  · rw [hok] at hcode
    rcases hcode with hpath | ⟨⟨e, herror⟩, -⟩
    swap
    · cases herror
    obtain ⟨es, ⟨rest, hes⟩, hexchange, hcount⟩ := exchange_runs pending c code
    refine ⟨⟨.wallClock, .ok c.now⟩ ::
      ⟨.postTokenRequest (rp.codeGrant pending code), c.answer⟩ :: es, ⟨rest, ?_⟩, ?_, .inr ⟨hnone, ?_⟩⟩
    · unfold Circumstances.script
      rw [codeNamed_eq hnames hlookup, ← hes]
      rfl
    · show Path _ _ ((codeAt rp pending callback c.now).bind _)
      rw [hok, ← List.singleton_append]
      exact hpath.bind_rest.2 hexchange
    · show tokenRequests ([_, _] ++ es) = 1
      rw [tokenRequests_append, hcount]
      rfl

/-! ## The circumstances of a run -/

/-- Circumstances in which the clock and the endpoint answer so, and nothing is verified. -/
def unverified (py : Platform) (rp : OidcRelyingParty) (now : ℚ)
    (answer : Except Exn TokenEndpointAnswer) (hfailure : ∀ e, answer = .error e → e = .tokenEndpointError)
    (hno : ¬∃ idToken refreshToken, AnswersTokens py answer idToken refreshToken) :
    Circumstances py rp where
  now := now
  answer := answer
  judged := .error .malformedToken
  steps := []
  failure := hfailure
  judges idToken refreshToken h := absurd ⟨idToken, refreshToken, h⟩ hno

/-- Circumstances in which only the clock is read. -/
def unposted (py : Platform) (rp : OidcRelyingParty) (now : ℚ) : Circumstances py rp :=
  unverified py rp now (.error .tokenEndpointError) (fun _ h => (Except.error.inj h).symm)
    fun ⟨_, _, _, h, _⟩ => nomatch h

theorem PortAnswer.step {owner : ℕ} {e : Event verifierCalls Exn}
    (h : PortAnswer (verifierEvent owner e)) : StepAnswer e := by
  intro x hx
  rcases h x hx with ⟨⟨request, hcall⟩, -⟩ | ⟨⟨_, url, hcall⟩, hfetch⟩
  · cases hcall
  · obtain ⟨-, hstep⟩ := HostCall.verifier.inj hcall
    exact ⟨⟨url, hstep⟩, hfetch⟩

theorem verified_answers (hpy : PyJwtAnswers py) {idToken : Str}
    {r : Except Exn (Except RejectionReason VerifiedClaims)}
    (h : Path ((verify py (rp.verifierFor rp.config.clientId) idToken .any).of rp.jwtVerifier) es r)
    (hports : ∀ e ∈ es, PortAnswer e) : ∃ judged, r = .ok judged := by
  obtain ⟨steps, rfl, hpath⟩ := of_path h
  cases r with
  | ok judged => exact ⟨judged, rfl⟩
  | error e =>
    refine ((verify_raises hpy idToken rfl).path hpath (fun step hstep => ?_) e rfl).elim
    exact (hports _ (List.mem_map_of_mem hstep)).step

/-- A code that is named is the one of the callback. -/
theorem lookup_of_codeAt {now : ℚ} {code : Str} (h : codeAt rp pending callback now = .ok code) :
    callback.lookup (str "code") = some code := by
  unfold codeAt at h
  obtain ⟨same, -, hsame⟩ := bind_eq_ok.1 h
  split_ifs at hsame with hno
  · cases hsame
  obtain ⟨age, -, haged⟩ := bind_eq_ok.1 hsame
  split_ifs at haged with hold
  · cases haged
  · exact namedCode_eq_ok haged

theorem authorizationCode_steps (hstate : (encode pending.state).isSome) {r : Except Exn Str}
    (h : Path (rp.authorizationCode pending callback) es r) (hports : ∀ e ∈ es, PortAnswer e) :
    (es = [] ∧ ∃ e, r = .error e) ∨
      ∃ now, es = [⟨.wallClock, .ok now⟩] ∧ r = codeAt rp pending callback now := by
  have hruns := authorizationCode_runs rp hstate callback
  cases es with
  | nil =>
    refine .inl ⟨rfl, ?_⟩
    rcases hruns 0 with hpath | ⟨⟨e, herror⟩, hpath⟩
    · obtain ⟨hes, -⟩ := h.unique_in hpath List.nil_prefix List.prefix_rfl
      cases hes
    · exact ⟨e, (h.unique_in hpath List.prefix_rfl List.prefix_rfl).2.trans herror⟩
  | cons e es =>
    right
    have hclock : ∃ now, e = ⟨.wallClock, .ok now⟩ := by
      obtain ⟨same, heq, -⟩ := isSameSecret_answers (callback.lookup (str "state")) hstate
      unfold OidcRelyingParty.authorizationCode at h
      rw [heq] at h
      cases same with
      | false =>
        obtain ⟨hes, -⟩ := h
        cases hes
      | true =>
        obtain ⟨ans, rest, hes, -⟩ := h
        obtain ⟨rfl, rfl⟩ := List.cons.inj hes
        cases ans with
        | ok now => exact ⟨now, rfl⟩
        | error x =>
          rcases hports _ List.mem_cons_self x rfl with ⟨⟨_, hcall⟩, -⟩ | ⟨⟨_, _, hcall⟩, -⟩ <;>
            cases hcall
    obtain ⟨now, rfl⟩ := hclock
    refine ⟨now, ?_⟩
    rcases hruns now with hpath | ⟨-, hpath⟩
    · obtain ⟨hes, hr⟩ := h.unique_in hpath List.prefix_rfl ⟨es, rfl⟩
      exact ⟨hes, hr⟩
    · obtain ⟨hes, -⟩ := h.unique_in hpath List.prefix_rfl List.nil_prefix
      cases hes

theorem exchangedTokens_steps {code : Str} {r : Except Exn (Str × Option Str)}
    (h : Path (rp.exchangedTokens py pending code) es r) (hports : ∀ e ∈ es, PortAnswer e) :
    ∃ answer, (∀ e, answer = .error e → e = .tokenEndpointError) ∧
      es = [⟨.postTokenRequest (rp.codeGrant pending code), answer⟩] ∧ r = tokensOf py answer := by
  have hposted : ∃ answer rest,
      es = ⟨.postTokenRequest (rp.codeGrant pending code), answer⟩ :: rest := by
    obtain ⟨answer, rest, rfl, -⟩ := h
    exact ⟨answer, rest, rfl⟩
  obtain ⟨answer, rest, rfl⟩ := hposted
  have hfailure : ∀ e, answer = .error e → e = .tokenEndpointError := by
    intro e he
    rcases hports _ List.mem_cons_self e he with ⟨-, hx⟩ | ⟨⟨_, _, hcall⟩, -⟩
    · exact hx
    · cases hcall
  obtain ⟨hes, hr⟩ := h.unique_in (exchangedTokens_runs _ _ _ code hfailure) List.prefix_rfl ⟨rest, rfl⟩
  exact ⟨answer, hfailure, hes, hr⟩

/-- **Every run has its circumstances.** -/
theorem identity_circumstances (hpy : PyJwtAnswers py) (hstate : (encode pending.state).isSome)
    {r : Except Exn OidcIdentity} (h : Path (rp.identity py pending query) es r)
    (hports : ∀ e ∈ es, PortAnswer e) : ∃ c : Circumstances py rp, es <+: c.script pending query := by
  unfold OidcRelyingParty.identity at h
  rcases callbackParameters_cases query with ⟨callback, hnames, hread⟩ | ⟨-, hread⟩
  swap
  · rw [hread] at h
    obtain ⟨rfl, -⟩ := h
    exact ⟨unposted py rp 0, List.nil_prefix⟩
  rw [hread] at h
  change Path ((rp.authorizationCode pending callback).andThen _) es r at h
  obtain ⟨es₁, es₂, r₁, rfl, hcode, h⟩ := path_andThen.1 h
  rw [List.forall_mem_append] at hports
  rcases authorizationCode_steps hstate hcode hports.1 with ⟨rfl, e, rfl⟩ | ⟨now, rfl, hr₁⟩
  · obtain ⟨rfl, -⟩ := h
    exact ⟨unposted py rp 0, List.nil_prefix⟩
  rcases r₁ with e | code
  · obtain ⟨rfl, -⟩ := h
    exact ⟨unposted py rp now, _, rfl⟩
  have hlookup := lookup_of_codeAt hr₁.symm
  obtain ⟨es₃, es₄, r₂, rfl, hexchange, h⟩ := path_andThen.1 h
  rw [List.forall_mem_append] at hports
  obtain ⟨answer, hfailure, rfl, hr₂⟩ := exchangedTokens_steps hexchange hports.2.1
  have hscript : ∀ c : Circumstances py rp, c.now = now → c.answer = answer → es₄ <+: c.steps →
      [⟨.wallClock, .ok now⟩] ++ ([⟨.postTokenRequest (rp.codeGrant pending code), answer⟩] ++ es₄) <+:
        c.script pending query := by
    rintro c rfl rfl ⟨rest, hrest⟩
    refine ⟨rest, ?_⟩
    unfold Circumstances.script
    rw [codeNamed_eq hnames hlookup, ← hrest]
    simp
  rcases tokensOf_cases py answer with ⟨error, hrefuses, htokens⟩ | ⟨-, hno, htokens⟩ |
    ⟨-, idToken, refreshToken, hanswers, htokens⟩
  · obtain rfl := hr₂.trans htokens
    obtain ⟨rfl, -⟩ := h
    refine ⟨unverified py rp now answer hfailure ?_, hscript _ rfl rfl List.nil_prefix⟩
    rintro ⟨idToken, refreshToken, a, rfl, hstatus, -⟩
    obtain ⟨a', heq, hcode', -⟩ := hrefuses
    obtain rfl := Except.ok.inj heq
    omega
  · obtain rfl := hr₂.trans htokens
    obtain ⟨rfl, -⟩ := h
    exact ⟨unverified py rp now answer hfailure hno, hscript _ rfl rfl List.nil_prefix⟩
  · obtain rfl := hr₂.trans htokens
    obtain ⟨es₅, es₆, r₃, rfl, hverified, h⟩ := path_andThen.1 h
    have hlast : es₆ = [] := by
      cases r₃ with
      | error e => exact h.1
      | ok claims => exact (path_done.1 h).1
    subst hlast
    unfold OidcRelyingParty.verifiedIdToken at hverified
    obtain ⟨es₇, es₈, r₄, rfl, hverify, hclaims⟩ := path_andThen.1 hverified
    rw [List.forall_mem_append, List.forall_mem_append] at hports
    obtain ⟨judged, rfl⟩ := verified_answers hpy hverify hports.2.2.1.1
    have hrest : es₈ = [] := by
      cases judged with
      | error reason => exact hclaims.1
      | ok claims => exact hclaims.1
    subst hrest
    refine ⟨⟨now, answer, judged, es₇, hfailure, fun idToken' refreshToken' hanswers' => ?_⟩,
      hscript _ rfl rfl ⟨[], by simp⟩⟩
    obtain ⟨rfl, rfl⟩ := hanswers.unique hanswers'
    exact hverify

/-! ## The decision -/

theorem completeLogin_path {es : List HostEvent} {reply : Except OidcRefusal OidcIdentity}
    (h : Path (rp.identity py pending query) es (reply.mapError Exn.refusalError)) :
    Path (rp.completeLogin py pending query) es (.ok reply) := by
  refine answered_path.2 ⟨_, h, ?_⟩
  cases reply <;> rfl

theorem identity_of_completeLogin {r : Except Exn (Except OidcRefusal OidcIdentity)}
    (h : Path (rp.completeLogin py pending query) es r) :
    ∃ r', Path (rp.identity py pending query) es r' := by
  obtain ⟨r', hidentity, -⟩ := answered_path.1 h
  exact ⟨r', hidentity⟩

/-- **A login reports the first fault and posts at most once.** Every run under the ports' answers has
its circumstances, and circumstances leave a login one run, whose reply is the decision on them. -/
theorem login_decided (hpy : PyJwtAnswers py) (hstate : (encode pending.state).isSome)
    (hnonce : (encode pending.nonce).isSome) (hissued : FitsFloat pending.issuedAt) :
    (∀ es r, Path (rp.completeLogin py pending query) es r → (∀ e ∈ es, PortAnswer e) →
      ∃ c : Circumstances py rp, es <+: c.script pending query) ∧
    ∀ c : Circumstances py rp, ∃ es reply, es <+: c.script pending query ∧
      LoginDecision pending query c reply ∧ PostsOnce pending query c es ∧
      ∀ es' r, es' <+: c.script pending query →
        (Path (rp.completeLogin py pending query) es' r ↔ es' = es ∧ r = .ok reply) := by
  refine ⟨fun es r h hports => ?_, fun c => ?_⟩
  · obtain ⟨r', hidentity⟩ := identity_of_completeLogin h
    exact identity_circumstances hpy hstate hidentity hports
  obtain ⟨es, hes, hidentity, hposts⟩ := identity_runs query c hstate hissued
  obtain ⟨reply, heq, hdecision⟩ := identityIn_decision query c hstate hnonce hissued
  rw [heq] at hidentity
  have hpath := completeLogin_path hidentity
  refine ⟨es, reply, hes, hdecision, hposts, fun es' r hes' => ⟨fun h => ?_, ?_⟩⟩
  · exact h.unique_in hpath hes' hes
  · rintro ⟨rfl, rfl⟩
    exact hpath

end Run

/-! ## Runs -/

/-- The surroundings in which `"i"` is an ID token with the nonce `"n"`. -/
def loginPlatform : Platform :=
  { demoPlatform with
    jsonLoads := fun _ => some (.obj [(str "id_token", .str (str "i"))])
    getUnverifiedHeader := fun _ => .ok (typedHeader "JWT")
    jwtDecode := fun d =>
      if str "client" ∈ d.audience then
        .ok [(str "aud", .str (str "client")), (str "iat", .int 90), (str "exp", .int 200),
          (str "sub", .str (str "u")), (str "nonce", .str (str "n"))]
      else .error .invalidAudience }

theorem loginPlatform_answers : PyJwtAnswers loginPlatform where
  header _ _ h := by cases h
  payload d tag := by
    simp only [loginPlatform]
    split_ifs <;> simp
  audience d payload h := by
    simp only [loginPlatform] at h
    split_ifs at h with hclient
    obtain rfl := Except.ok.inj h
    exact ⟨[str "client"], rfl, str "client", hclient, List.mem_singleton_self _⟩

/-- A login that began at 90. -/
def demoPending : PendingLogin := ⟨str "s", str "n", str "v", 90, none⟩

/-- A host whose token endpoint grants. -/
def grantingHost : Unit → (c : HostCall) → Except Exn c.Answer × Unit
  | _, .postTokenRequest _ => (.ok ⟨200, []⟩, ())
  | s, c => quietHost s c

/-- The run of that login there. -/
def grantedLogin : List HostEvent × Except Exn (Except OidcRefusal OidcIdentity) :=
  play grantingHost
    (demoRelyingParty.completeLogin loginPlatform demoPending (str "state=s&code=c")) ()

theorem login_decided_of_grant : ∃ c : Circumstances loginPlatform demoRelyingParty,
    grantedLogin.1 <+: c.script demoPending (str "state=s&code=c") ∧
      LoginDecision demoPending (str "state=s&code=c") c
        (.ok ⟨str "u", str "https://issuer", [], none, none, str "i", none⟩) ∧
      tokenRequests grantedLogin.1 = 1 := by
  have hpath : Path _ grantedLogin.1 grantedLogin.2 := path_play grantingHost
    (demoRelyingParty.completeLogin loginPlatform demoPending (str "state=s&code=c")) ()
  have hreply : grantedLogin.2 =
      .ok (.ok ⟨str "u", str "https://issuer", [], none, none, str "i", none⟩) := by
    decide +kernel
  have hports : ∀ e ∈ grantedLogin.1, PortAnswer e := by
    have hall : ∀ e ∈ grantedLogin.1, e.answer.toOption.isSome = true := by decide +kernel
    intro e he x hx
    have hsome := hall e he
    rw [hx] at hsome
    cases hsome
  have hdecided := @login_decided loginPlatform demoRelyingParty demoPending
    (str "state=s&code=c") loginPlatform_answers (by decide) (by decide) (by decide +kernel)
  obtain ⟨c, hscript⟩ := hdecided.1 _ _ hpath hports
  obtain ⟨es, reply, hes, hdecision, hposts, hruns⟩ := hdecided.2 c
  obtain ⟨rfl, hr⟩ := (hruns _ _ hscript).1 hpath
  rw [hreply] at hr
  obtain rfl := Except.ok.inj hr
  refine ⟨c, hscript, hdecision, by decide +kernel⟩

/-- A login whose state holds a lone surrogate ends with no answer. -/
theorem login_undecided : ∃ es r, (∀ e ∈ es, PortAnswer e) ∧
    Path (demoRelyingParty.completeLogin loginPlatform ⟨[⟨0xd800, by omega⟩], str "n", str "v", 90, none⟩
      (str "state=s")) es r ∧ ∀ reply, r ≠ .ok reply := by
  refine ⟨[], .error (.valueError "surrogates not allowed"), by simp, ?_, by simp⟩
  have hpath := path_play grantingHost (demoRelyingParty.completeLogin loginPlatform
    ⟨[⟨0xd800, by omega⟩], str "n", str "v", 90, none⟩ (str "state=s")) ()
  exact hpath

end WebAuth
