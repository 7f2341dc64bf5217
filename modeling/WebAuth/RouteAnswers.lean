import WebAuth.CallbackQueries
import WebAuth.ResponseStarts

/-!
# The answer of a route

A route's answer sends its outcome with the cookies of its carrier on the response start. An outcome
that is an exception, or fails before it has started, is sent as a plain failure answer with the same
cookies, and goes on. The hook on the outcome's messages reads the headers of a start, which a start
may omit: it then raises before anything is sent, with the answer marked as started.
-/

namespace WebAuth

open Python Effects Program

/-! ## The answer as an application -/

/-- The raw `Set-Cookie` headers of a carrier, each spelled as the cookie library spells it. -/
def RouteAnswer.cookies (spell : SetCookie → Bytes) (answer : RouteAnswer) : List (Bytes × Bytes) :=
  answer.carrier.cookies.map fun cookie => (headerName "set-cookie", spell cookie)

/-- The body of a failure answer. -/
def Response.plainBody (answer : Response) : Bytes :=
  match answer.content with
  | .text text => (encode text).getD []
  | _ => []

/-- The headers Starlette gives a failure answer: its length, and a type when it has a text. -/
def Response.plainHeaders (answer : Response) : List (Bytes × Bytes) :=
  (encodeLatin1 (str "content-length"), encodeLatin1 (decimal answer.plainBody.length)) ::
    match answer.content with
    | .text _ => [(encodeLatin1 (str "content-type"), encodeLatin1 (str "text/plain; charset=utf-8"))]
    | _ => []

/-- The start of a failure answer with cookies. -/
def failureStart (failure : Response) (cookies : List (Bytes × Bytes)) : Message :=
  { type := responseStart, status := some failure.status,
    headers := some (failure.plainHeaders ++ cookies) }

/-- `_send_failure_answer`. -/
def sendFailureAnswer (failure : Response) (cookies : List (Bytes × Bytes)) :
    Program Asgi Raised Unit := do
  send (failureStart failure cookies)
  send { type := str "http.response.body", body := some failure.plainBody }

/-- `send_with_cookies`, with `started` as its state. A start without headers raises once the state
says that it has started. -/
def sendWithCookies (cookies : List (Bytes × Bytes)) : Wrapper Bool Asgi Asgi Raised
  | started, .receive => receive.andThen fun answer => .ret (answer, started)
  | started, .send seconds message =>
    if message.type = responseStart then
      match message.headers with
      | none => .ret (.error (.exception (.keyError "headers")), true)
      | some headers =>
        (send { message with headers := some (headers ++ cookies) } seconds).andThen fun answer =>
          .ret (answer, true)
    else (send message seconds).andThen fun answer => .ret (answer, started)

/-- The failure answer, and the failure after it. -/
def failAfterAnswer (failure : Response) (cookies : List (Bytes × Bytes)) (e : Raised) :
    Program Asgi Raised Unit := do
  sendFailureAnswer failure cookies
  throw e

/-- `_RouteAnswer.__call__`, where `render` is how a response is awaited. -/
def RouteAnswer.app (render : Response → ASGIApp) (spell : SetCookie → Bytes)
    (answer : RouteAnswer) : ASGIApp := fun scope =>
  let cookies := answer.cookies spell
  match answer.outcome with
  | .error e => failAfterAnswer answer.failureAnswer cookies (.exception e)
  | .ok response =>
    (served (sendWithCookies cookies) (render response scope) false).andThen fun
      | .ok (.ok (), _) => .ret ()
      | .ok (.error e, started) =>
        if e.isException && !started then failAfterAnswer answer.failureAnswer cookies e
        else .raise e
      | .error e => .raise e

/-! ## What an answer is to do -/

/-- The messages of an ASGI answer: none, or one start and then bodies. -/
def IsLegal (messages : List Message) : Prop :=
  messages = [] ∨ ∃ start bodies, messages = start :: bodies ∧ start.type = responseStart ∧
    ∀ message ∈ bodies, message.type ≠ responseStart

/-- How an answer carries the cookies, where the outcome made the calls `own` and ended with `r'`,
`relayed` of its calls reached the server and `rest` came after. -/
structure CarriesCookies (failure : Response) (cookies : List (Bytes × Bytes))
    (own relayed rest : List (Event Asgi Raised)) (r' r : Except Raised Unit) : Prop where
  /-- A start that reaches the client is the only one, with the cookies besides the outcome's own
  headers. -/
  once : (starts (relayed ++ rest)).length ≤ 1
  carried : ∀ start ∈ starts relayed, ∃ message ∈ starts own, ∃ headers,
    message.headers = some headers ∧ start = { message with headers := some (headers ++ cookies) }
  answered : ∀ start ∈ starts rest, start = failureStart failure cookies
  /-- A failure before any start was sent is answered with the cookies, and goes on. -/
  failed : ∀ e, r' = .error e → e.isException = true → starts relayed = [] →
    starts rest = [failureStart failure cookies] ∧ r = .error e
  /-- Nothing is sent after an answer that has started. -/
  after : starts relayed ≠ [] → rest = [] ∧ r = r'

/-- The outcome sends a start without headers, and then fails. -/
def DropsStart (own : List (Event Asgi Raised)) (r' : Except Raised Unit) : Prop :=
  (∃ message ∈ starts own, message.headers = none) ∧ ∃ e, r' = .error e ∧ e.isException = true

/-! ## What reaches the client -/

section Relay

variable {cookies : List (Bytes × Bytes)} {failure : Response}
  {own relayed rest tr : List (Event Asgi Raised)} {r r' : Except Raised Unit}

/-- What the hook sends of a message. -/
def withCookies (cookies : List (Bytes × Bytes)) (message : Message) : Option Message :=
  if message.type = responseStart then
    message.headers.map fun headers => { message with headers := some (headers ++ cookies) }
  else some message

/-- How the hook passes on what an outcome sends. -/
structure RelaysAnswer (cookies : List (Bytes × Bytes)) (started : Bool)
    (own relayed : List (Event Asgi Raised)) (started' : Bool) : Prop where
  sent_eq : sent relayed = (sent own).filterMap (withCookies cookies)
  started_eq : started' = (started || starts own ≠ [])

/-- One call through the hook. -/
theorem relaysAnswer_step {started : Bool} {c : AsgiCall}
    {r : Except Raised (Except Raised (AsgiCall.Answer c) × Bool)} {first : List (Event Asgi Raised)}
    (hstep : Path (sendWithCookies cookies started c) first r) :
    ∃ ans s₁, r = .ok (ans, s₁) ∧ ∀ own rest started', RelaysAnswer cookies s₁ own rest started' →
      RelaysAnswer cookies started (⟨c, ans⟩ :: own) (first ++ rest) started' := by
  cases c with
  | receive =>
    obtain ⟨ans, _, rfl, rfl, rfl⟩ := path_perform_andThen.1 hstep
    exact ⟨ans, started, rfl, fun own rest started' h => ⟨h.sent_eq, h.started_eq⟩⟩
  | send seconds message =>
    have hsent : ∀ {ans : Except Raised Unit} {own rest : List (Event Asgi Raised)},
        sent rest = (sent own).filterMap (withCookies cookies) →
        (withCookies cookies message).toList ++ sent rest =
          (sent ((⟨.send seconds message, ans⟩ : Event Asgi Raised) :: own)).filterMap
            (withCookies cookies) := by
      intro ans own rest hrest
      rw [sent_send, List.filterMap_cons, hrest]
      cases withCookies cookies message <;> rfl
    by_cases hstart : message.type = responseStart
    · have hstarted : ∀ {ans : Except Raised Unit} {own : List (Event Asgi Raised)} {started' : Bool},
          started' = (true || decide (starts own ≠ [])) → started' = (started ||
            decide (starts ((⟨.send seconds message, ans⟩ : Event Asgi Raised) :: own) ≠ [])) := by
        intro ans own started' h
        rw [h, starts_send, hstart]
        simp
      unfold sendWithCookies at hstep
      dsimp only at hstep
      rw [if_pos hstart] at hstep
      cases hheaders : message.headers with
      | none =>
        have hnone : withCookies cookies message = none := by
          rw [withCookies, if_pos hstart, hheaders, Option.map_none]
        rw [hheaders] at hstep
        obtain ⟨rfl, rfl⟩ := hstep
        refine ⟨_, _, rfl, fun own rest started' h => ⟨?_, hstarted h.started_eq⟩⟩
        refine Eq.trans ?_ (hsent h.sent_eq)
        rw [hnone]
        rfl
      | some headers =>
        have hsome : withCookies cookies message =
            some { message with headers := some (headers ++ cookies) } := by
          rw [withCookies, if_pos hstart, hheaders, Option.map_some]
        rw [hheaders] at hstep
        obtain ⟨ans, _, rfl, rfl, rfl⟩ := path_perform_andThen.1 hstep
        refine ⟨_, _, rfl, fun own rest started' h => ⟨?_, hstarted h.started_eq⟩⟩
        refine Eq.trans ?_ (hsent h.sent_eq)
        rw [hsome]
        rfl
    · have hsome : withCookies cookies message = some message := if_neg hstart
      unfold sendWithCookies at hstep
      dsimp only at hstep
      rw [if_neg hstart] at hstep
      obtain ⟨ans, _, rfl, rfl, rfl⟩ := path_perform_andThen.1 hstep
      refine ⟨_, _, rfl, fun own rest started' h => ⟨?_, ?_⟩⟩
      · refine Eq.trans ?_ (hsent h.sent_eq)
        rw [hsome]
        rfl
      · have hstarts := starts_send seconds message ans own
        rw [decide_eq_false hstart, Bool.false_or] at hstarts
        exact h.started_eq.trans (congrArg (started || ·) hstarts.symm)

theorem relaysAnswer_of_serves {started started' : Bool}
    (h : Serves (sendWithCookies cookies) started own relayed started') :
    RelaysAnswer cookies started own relayed started' := by
  induction h with
  | nil s => exact ⟨rfl, by simp [starts]⟩
  | answered hstep hrest ih =>
    obtain ⟨ans, s₁, heq, hnext⟩ := relaysAnswer_step hstep
    obtain ⟨rfl, rfl⟩ := Prod.mk.inj (Except.ok.inj heq)
    exact hnext _ _ _ ih
  | raised hstep hrest ih =>
    obtain ⟨ans, s₁, heq, -⟩ := relaysAnswer_step hstep
    cases heq

/-- The starts that are passed on are those with headers. -/
theorem RelaysAnswer.starts_eq {started started' : Bool}
    (h : RelaysAnswer cookies started own relayed started') :
    starts relayed = (starts own).filterMap (withCookies cookies) := by
  unfold starts
  rw [h.sent_eq]
  induction sent own with
  | nil => rfl
  | cons message messages ih =>
    by_cases hstart : message.type = responseStart
    · cases hheaders : message.headers with
      | none =>
        have hnone : withCookies cookies message = none := by
          rw [withCookies, if_pos hstart, hheaders, Option.map_none]
        rw [List.filterMap_cons_none hnone, ih, List.filter_cons_of_pos (by simpa using hstart),
          List.filterMap_cons_none hnone]
      | some headers =>
        have hsome : withCookies cookies message =
            some { message with headers := some (headers ++ cookies) } := by
          rw [withCookies, if_pos hstart, hheaders, Option.map_some]
        rw [List.filterMap_cons_some hsome, List.filter_cons_of_pos (by simpa using hstart), ih,
          List.filter_cons_of_pos (by simpa using hstart), List.filterMap_cons_some hsome]
    · have hsome : withCookies cookies message = some message := if_neg hstart
      rw [List.filterMap_cons_some hsome, List.filter_cons_of_neg (by simpa using hstart), ih,
        List.filter_cons_of_neg (by simpa using hstart)]

/-- The failure answer is sent whole, and the failure goes on. -/
theorem failAfterAnswer_path {e : Raised} (h : Path (failAfterAnswer failure cookies e) tr r)
    (hsends : SendsSucceed tr) : starts tr = [failureStart failure cookies] ∧ r = .error e := by
  obtain ⟨ans, rest, rfl, hrest⟩ := h
  obtain rfl : ans = .ok () := hsends _ List.mem_cons_self
  obtain ⟨ans, last, rfl, hlast⟩ := hrest
  obtain rfl : ans = .ok () := hsends _ (List.mem_cons_of_mem _ List.mem_cons_self)
  obtain ⟨rfl, rfl⟩ := hlast
  refine ⟨?_, rfl⟩
  show List.filter (fun message => decide (message.type = responseStart))
    [failureStart failure cookies,
      { type := str "http.response.body", body := some failure.plainBody }] = _
  rw [List.filter_cons_of_pos (by simp [failureStart]), List.filter_cons_of_neg (by simp; decide)]
  rfl

/-- A legal answer has one start, or none. -/
theorem IsLegal.starts_cases (h : IsLegal (sent own)) :
    starts own = [] ∨ ∃ start, starts own = [start] ∧ start.type = responseStart := by
  rcases h with hnil | ⟨start, bodies, hsent, hstart, hbodies⟩
  · exact .inl (by rw [starts, hnil]; rfl)
  · refine .inr ⟨start, ?_, hstart⟩
    have hnone : bodies.filter (fun message => decide (message.type = responseStart)) = [] := by
      rw [List.filter_eq_nil_iff]
      intro message hmessage
      simpa using hbodies message hmessage
    rw [starts, hsent, List.filter_cons_of_pos (by simpa using hstart), hnone]

/-- How an answer ends once its outcome has: by the failure answer, or as the outcome does. -/
def EndsAfter (failure : Response) (cookies : List (Bytes × Bytes))
    (own rest : List (Event Asgi Raised)) (r' r : Except Raised Unit) : Prop :=
  (∃ e, r' = .error e ∧ e.isException = true ∧ starts own = [] ∧
      starts rest = [failureStart failure cookies] ∧ r = .error e) ∨
    ((∀ e, r' = .error e → e.isException = true → starts own ≠ []) ∧ rest = [] ∧ r = r')

/-- An answer carries the cookies exactly where its outcome drops no start. -/
theorem carriesCookies_iff {started : Bool} (hrelays : RelaysAnswer cookies false own relayed started)
    (hlegal : IsLegal (sent own)) (hend : EndsAfter failure cookies own rest r' r) :
    CarriesCookies failure cookies own relayed rest r' r ↔ ¬DropsStart own r' := by
  have hrelayed := hrelays.starts_eq
  constructor
  · rintro h ⟨⟨message, hmessage, hheaders⟩, e, rfl, he⟩
    have hnone : starts relayed = [] := by
      rcases hlegal.starts_cases with hnil | ⟨start, hone, hstart⟩
      · rw [hnil] at hmessage
        cases hmessage
      · rw [hone, List.mem_singleton] at hmessage
        subst hmessage
        have hdropped : withCookies cookies message = none := by
          rw [withCookies, if_pos hstart, hheaders, Option.map_none]
        rw [hrelayed, hone, List.filterMap_cons_none hdropped, List.filterMap_nil]
    obtain ⟨hanswer, -⟩ := h.failed e rfl he hnone
    rcases hend with ⟨_, -, -, hnil, -⟩ | ⟨-, rfl, -⟩
    · rw [hnil] at hmessage
      cases hmessage
    · cases hanswer
  · intro hdrops
    rcases hlegal.starts_cases with hnil | ⟨start, hone, hstart⟩
    · -- no start was sent, so the failure answer is the only one
      rw [hnil, List.filterMap_nil] at hrelayed
      rcases hend with ⟨e, rfl, he, -, hanswer, rfl⟩ | ⟨hno, rfl, rfl⟩
      · refine ⟨?_, by simp [hrelayed], by simp [hanswer], ?_, fun h => absurd hrelayed h⟩
        · rw [starts_append, hrelayed, hanswer]
          simp
        · intro e' he' _ _
          obtain rfl := Except.error.inj he'
          exact ⟨hanswer, rfl⟩
      · refine ⟨?_, by simp [hrelayed], by simp [starts], ?_, fun _ => ⟨rfl, rfl⟩⟩
        · rw [List.append_nil, hrelayed]
          simp
        · intro e he hexception
          exact absurd hnil (hno e he hexception)
    · have hrest : rest = [] ∧ r = r' := by
        rcases hend with ⟨_, -, -, hnil, -⟩ | ⟨-, hrest, hr⟩
        · rw [hone] at hnil
          cases hnil
        · exact ⟨hrest, hr⟩
      obtain ⟨rfl, rfl⟩ := hrest
      cases hheaders : start.headers with
      | none =>
        have hdropped : withCookies cookies start = none := by
          rw [withCookies, if_pos hstart, hheaders, Option.map_none]
        rw [hone, List.filterMap_cons_none hdropped, List.filterMap_nil] at hrelayed
        refine ⟨?_, by simp [hrelayed], by simp [starts], ?_, fun _ => ⟨rfl, rfl⟩⟩
        · rw [List.append_nil, hrelayed]
          simp
        · intro e he hexception
          exact absurd ⟨⟨start, by rw [hone]; simp, hheaders⟩, e, he, hexception⟩ hdrops
      | some headers =>
        have hkept : withCookies cookies start =
            some { start with headers := some (headers ++ cookies) } := by
          rw [withCookies, if_pos hstart, hheaders, Option.map_some]
        rw [hone, List.filterMap_cons_some hkept, List.filterMap_nil] at hrelayed
        refine ⟨?_, ?_, by simp [starts], ?_, fun _ => ⟨rfl, rfl⟩⟩
        · rw [List.append_nil, hrelayed]
          simp
        · intro start' hstart'
          rw [hrelayed, List.mem_singleton] at hstart'
          exact ⟨start, by rw [hone]; simp, headers, hheaders, hstart'⟩
        · intro e _ _ hnone
          rw [hrelayed] at hnone
          cases hnone

end Relay

/-! ## The run of an answer -/

section Answer

variable {render : Response → ASGIApp} {spell : SetCookie → Bytes} {answer : RouteAnswer}
  {scope : Scope} {tr : List (Event Asgi Raised)} {r : Except Raised Unit}

/-- An answer relays its outcome and ends after it. -/
theorem app_path {response : Response} (houtcome : answer.outcome = .ok response)
    (h : Path (answer.app render spell scope) tr r) (hsends : SendsSucceed tr) :
    ∃ own relayed rest r' started, tr = relayed ++ rest ∧ Path (render response scope) own r' ∧
      Serves (sendWithCookies (answer.cookies spell)) false own relayed started ∧
      EndsAfter answer.failureAnswer (answer.cookies spell) own rest r' r := by
  unfold RouteAnswer.app at h
  rw [houtcome] at h
  obtain ⟨relayed, rest, r₁, rfl, hserved, hrest⟩ := path_andThen.1 h
  obtain ⟨own, r', started, rfl, hown, hserves⟩ := path_served hserved
  refine ⟨own, relayed, rest, r', started, rfl, hown, hserves, ?_⟩
  have hstarted := (relaysAnswer_of_serves hserves).started_eq
  rw [Bool.false_or] at hstarted
  cases r' with
  | ok u =>
    obtain ⟨rfl, rfl⟩ := hrest
    exact .inr ⟨fun e he => (by cases he), rfl, rfl⟩
  | error e =>
    by_cases hfails : e.isException = true ∧ starts own = []
    · have hcond : (e.isException && !started) = true := by simp [hstarted, hfails]
      dsimp only at hrest
      rw [if_pos hcond] at hrest
      obtain ⟨hanswer, rfl⟩ := failAfterAnswer_path hrest hsends.right
      exact .inl ⟨e, rfl, hfails.1, hfails.2, hanswer, rfl⟩
    · have hcond : ¬(e.isException && !started) = true := by
        rw [hstarted]
        simpa using hfails
      dsimp only at hrest
      rw [if_neg hcond] at hrest
      obtain ⟨rfl, rfl⟩ := hrest
      refine .inr ⟨fun e' he' hexception hnil => ?_, rfl, rfl⟩
      obtain rfl := Except.error.inj he'
      exact hfails ⟨hexception, hnil⟩

/-- An exception as the outcome is sent as the failure answer, and goes on. -/
theorem app_path_error {e : Exn} (houtcome : answer.outcome = .error e)
    (h : Path (answer.app render spell scope) tr r) (hsends : SendsSucceed tr) :
    starts tr = [failureStart answer.failureAnswer (answer.cookies spell)] ∧
      r = .error (.exception e) := by
  unfold RouteAnswer.app at h
  rw [houtcome] at h
  exact failAfterAnswer_path h hsends

end Answer

/-- **The deletion of a pending cookie.** A callback that selected one answers with its deletion on
the carrier. An answer carries the cookies of its carrier in every legal run of its outcome, unless
the outcome sends a start without headers and then fails. -/
theorem callback_deletion_iff (render : Response → ASGIApp) (spell : SetCookie → Bytes) :
    (∀ (py : Platform) (routes : SignIn) (scope : Scope) (config : Ref WebAuthConfig)
      (query state : Str) (carrier : Response) (pending : Option PendingLogin) (es : List HostEvent)
      (r : Except Exn Routed), webAuthConfig scope = .ok config →
      scope.requestUrlQuery = .ok query → callbackState query = .ok state →
      takePendingLogin py scope {} state config.value = .ok (carrier, pending) →
      Path (routes.callback py scope) es r →
      (∃ name, pendingLoginCookieName py state config.value.cookieSecure = .ok name ∧
        carrier = clearPendingLoginCookie {} name config.value) ∧
      ∃ outcome, r = .ok (.answer ⟨carrier, outcome, plainServerError⟩)) ∧
    ∀ (answer : RouteAnswer) (scope : Scope) (tr : List (Event Asgi Raised))
      (r : Except Raised Unit),
      Path (answer.app render spell scope) tr r → SendsSucceed tr →
      (∀ e, answer.outcome = .error e →
        starts tr = [failureStart answer.failureAnswer (answer.cookies spell)] ∧
          r = .error (.exception e)) ∧
      ∀ response, answer.outcome = .ok response → ∃ own relayed rest r', tr = relayed ++ rest ∧
        Path (render response scope) own r' ∧
        (∃ started, Serves (sendWithCookies (answer.cookies spell)) false own relayed started) ∧
        (IsLegal (sent own) →
          (CarriesCookies answer.failureAnswer (answer.cookies spell) own relayed rest r' r ↔
            ¬DropsStart own r')) := by
  refine ⟨fun py routes scope config query state carrier pending es r hconfig hquery hstate htaken h =>
    ?_, fun answer scope tr r h hsends => ⟨fun e houtcome => ?_,
    fun response houtcome => ?_⟩⟩
  · obtain ⟨outcome, hr, -⟩ := callback_taken hconfig hquery hstate htaken h
    exact ⟨takePendingLogin_carrier htaken, outcome, hr⟩
  · exact app_path_error houtcome h hsends
  · obtain ⟨own, relayed, rest, r', started, htr, hown, hserves, hend⟩ := app_path houtcome h hsends
    exact ⟨own, relayed, rest, r', htr, hown, ⟨started, hserves⟩, fun hlegal =>
      carriesCookies_iff (relaysAnswer_of_serves hserves) hlegal hend⟩

/-! ## Runs -/

/-- An application that answers with a bare start: a status, no headers, and no body. -/
def bareStart : ASGIApp := fun _ => send { type := responseStart, status := some 200 }

/-- A refusal's answer besides the deletion of a pending cookie. -/
def refusedAnswer : RouteAnswer :=
  ⟨clearPendingLoginCookie {} (str "__Host-oidc_pending_0000000000000000") demoConfig, .ok {},
    plainServerError⟩

/-- The run of that answer with a bare start. -/
def bareRun : List (Event Asgi Raised) × Except Raised Unit :=
  play client (refusedAnswer.app (fun _ => bareStart) (fun _ => []) demoRequest) []

/-- The bare start raises in the hook: no start reaches the client, not even the 500. -/
theorem deletion_dropped : ∃ own relayed rest r' started, bareRun.1 = relayed ++ rest ∧
    SendsSucceed bareRun.1 ∧ starts bareRun.1 = [] ∧ Path (bareStart demoRequest) own r' ∧
    Serves (sendWithCookies (refusedAnswer.cookies fun _ => [])) false own relayed started ∧
    IsLegal (sent own) ∧ ¬CarriesCookies plainServerError (refusedAnswer.cookies fun _ => []) own
      relayed rest r' bareRun.2 := by
  have hrun : bareRun.1.length = 0 ∧ bareRun.2 = .error (.exception (.keyError "headers")) := by
    decide +kernel
  have hnil : bareRun.1 = [] := List.length_eq_zero_iff.1 hrun.1
  have hsends : SendsSucceed bareRun.1 := sendsSucceed_play _ _
  have hpath : Path (refusedAnswer.app (fun _ => bareStart) (fun _ => []) demoRequest) bareRun.1
      bareRun.2 := by
    unfold bareRun
    exact path_play (I := Asgi) client _ []
  obtain ⟨own, relayed, rest, r', started, htr, hown, hserves, hend⟩ := app_path rfl hpath hsends
  obtain ⟨ans, last, rfl, hlast⟩ := hown
  obtain ⟨rfl, rfl⟩ := path_done.1 hlast
  refine ⟨_, relayed, rest, r', started, htr, hsends, by rw [hnil]; rfl, ⟨r', [], rfl, hlast⟩,
    hserves, .inr ⟨_, [], rfl, rfl, by simp⟩, fun hcarries => ?_⟩
  have hraised : r' = .error (.exception (.keyError "headers")) := by
    rcases hend with ⟨_, -, -, hno, -⟩ | ⟨-, -, hr⟩
    · cases hno
    · exact hr.symm.trans hrun.2
  refine (carriesCookies_iff (relaysAnswer_of_serves hserves) (.inr ⟨_, [], rfl, rfl, by simp⟩)
    hend).1 hcarries ⟨⟨{ type := responseStart, status := some 200 }, ?_, rfl⟩, _, hraised, rfl⟩
  exact List.mem_singleton_self _

/-- An application that answers with a start and a body. -/
def detailApp : ASGIApp := fun _ => sendResponse 403 "text/plain" []

/-- The run of that answer with it. -/
def detailRun : List (Event Asgi Raised) × Except Raised Unit :=
  play client (refusedAnswer.app (fun _ => detailApp) (fun _ => [1]) demoRequest) []

theorem detailApp_legal {own : List (Event Asgi Raised)} {r' : Except Raised Unit}
    (h : Path (detailApp demoRequest) own r') : IsLegal (sent own) ∧ ¬DropsStart own r' := by
  obtain ⟨ans, last, rfl, hlast⟩ := h
  have hbody : ∀ message ∈ sent last, message.type ≠ responseStart := by
    cases ans with
    | error e =>
      obtain ⟨rfl, -⟩ := hlast
      simp [sent]
    | ok u =>
      obtain ⟨ans', last', rfl, hlast'⟩ := hlast
      obtain ⟨rfl, -⟩ := path_done.1 hlast'
      intro message hmessage
      obtain rfl := List.mem_singleton.1 hmessage
      decide
  refine ⟨.inr ⟨_, sent last, rfl, rfl, hbody⟩, ?_⟩
  rintro ⟨⟨message, hmessage, hheaders⟩, -⟩
  obtain ⟨hsent, hstart⟩ := List.mem_filter.1 hmessage
  rcases List.mem_cons.1 hsent with rfl | hlater
  · cases hheaders
  · exact hbody message hlater (of_decide_eq_true hstart)

/-- An exception as the outcome: the deletion goes out on the 500. A refusal that starts with headers:
it goes out on the 403. -/
theorem callback_deletion_iff_of_answers :
    starts (play client ((⟨refusedAnswer.carrier, .error (.host 0), plainServerError⟩ :
        RouteAnswer).app (fun _ => bareStart) (fun _ => [1]) demoRequest) []).1 =
      [failureStart plainServerError [(headerName "set-cookie", [1])]] ∧
    (starts detailRun.1).map (·.status) = [some 403] ∧
    ∃ own relayed rest r', detailRun.1 = relayed ++ rest ∧ Path (detailApp demoRequest) own r' ∧
      CarriesCookies plainServerError [(headerName "set-cookie", [1])] own relayed rest r'
        detailRun.2 := by
  refine ⟨(((callback_deletion_iff (fun _ => bareStart) (fun _ => [1])).2
    ⟨refusedAnswer.carrier, .error (.host 0), plainServerError⟩ demoRequest _ _ (path_play _ _ _)
    (sendsSucceed_play _ _)).1 _ rfl).1, by decide +kernel, ?_⟩
  have hpath : Path (refusedAnswer.app (fun _ => detailApp) (fun _ => [1]) demoRequest) detailRun.1
      detailRun.2 := by
    unfold detailRun
    exact path_play (I := Asgi) client _ []
  obtain ⟨own, relayed, rest, r', htr, hown, -, hiff⟩ :=
    ((callback_deletion_iff (fun _ => detailApp) (fun _ => [1])).2 refusedAnswer demoRequest _ _
      hpath (sendsSucceed_play _ _)).2 _ rfl
  obtain ⟨hlegal, hstarts⟩ := detailApp_legal hown
  exact ⟨own, relayed, rest, r', htr, hown, (hiff hlegal).2 hstarts⟩

end WebAuth
