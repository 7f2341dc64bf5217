import WebAuth.BodySize
import WebAuth.SecurityHeaders
import WebAuth.SessionLifetimeRuns

/-!
# Response starts and bounded bodies

The security headers around the body limit around any application. Both wrappers count the starts
they pass on, and both may answer for the application; the client gets one start at most, and the
application is handed no more of the body than its limit.
-/

namespace WebAuth

open Python Effects Program

@[simp] theorem sent_nil : sent [] = [] := rfl

@[simp] theorem sent_receive (answer : Except Raised Message) (es : List (Event Asgi Raised)) :
    sent (⟨.receive, answer⟩ :: es) = sent es := rfl

@[simp] theorem sent_send (seconds : Option ℚ) (message : Message) (answer : Except Raised Unit)
    (es : List (Event Asgi Raised)) :
    sent (⟨.send seconds message, answer⟩ :: es) = message :: sent es := rfl

theorem starts_send (seconds : Option ℚ) (message : Message) (answer : Except Raised Unit)
    (es : List (Event Asgi Raised)) :
    decide (starts (⟨.send seconds message, answer⟩ :: es) ≠ []) =
      (decide (message.type = responseStart) || decide (starts es ≠ [])) := by
  by_cases hstart : message.type = responseStart <;> simp [starts, hstart]

@[simp] theorem sent_append (es es' : List (Event Asgi Raised)) :
    sent (es ++ es') = sent es ++ sent es' := List.filterMap_append

theorem starts_append (es es' : List (Event Asgi Raised)) :
    starts (es ++ es') = starts es ++ starts es' := by
  unfold starts
  rw [sent_append, List.filter_append]

theorem SendsSucceed.left {es es' : List (Event Asgi Raised)} (h : SendsSucceed (es ++ es')) :
    SendsSucceed es := fun e he => h e (List.mem_append_left _ he)

theorem SendsSucceed.right {es es' : List (Event Asgi Raised)} (h : SendsSucceed (es ++ es')) :
    SendsSucceed es' := fun e he => h e (List.mem_append_right _ he)

theorem sendsSucceed_nil : SendsSucceed [] := fun _ he => by cases he

theorem SendsSucceed.cons {e : Event Asgi Raised} {es : List (Event Asgi Raised)}
    (he : SendsSucceed [e]) (h : SendsSucceed es) : SendsSucceed (e :: es) := by
  intro e' he'
  rcases List.mem_cons.1 he' with rfl | he'
  · exact he e' (List.mem_singleton_self _)
  · exact h e' he'

/-! ## One layer at a time -/

section Layers

variable {headers : SecurityHeadersPolicy} {bodies : BodySizePolicy} {path : Str} {secure : Bool}
  {limit : ℤ} {own tr : List (Event Asgi Raised)}

@[simp] theorem withPolicy_type (message : Message) :
    (withPolicy headers path secure message).type = message.type := by
  unfold withPolicy
  split <;> rfl

@[simp] theorem withPolicy_status (message : Message) :
    (withPolicy headers path secure message).status = message.status := by
  unfold withPolicy
  split <;> rfl

/-- The policy starts no response of its own. -/
theorem filter_withPolicy (messages : List Message) :
    (messages.map (withPolicy headers path secure)).filter (·.type = responseStart) =
      (messages.filter (·.type = responseStart)).map (withPolicy headers path secure) := by
  rw [List.filter_map]
  refine congrArg _ (List.filter_congr fun message _ => ?_)
  simp

/-- How the security headers pass on what a program sends. -/
structure ShowsPolicy (headers : SecurityHeadersPolicy) (path : Str) (secure started : Bool)
    (own tr : List (Event Asgi Raised)) (started' : Bool) : Prop where
  sent_eq : sent tr = (sent own).map (withPolicy headers path secure)
  succeed : SendsSucceed tr → SendsSucceed own
  started_eq : started' = (started || starts own ≠ [])

/-- One call through the security headers. -/
theorem showsPolicy_step {started : Bool} {c : AsgiCall}
    {r : Except Raised (Except Raised (AsgiCall.Answer c) × Bool)} {first : List (Event Asgi Raised)}
    (hstep : Path (sendWithPolicy headers path secure started c) first r) :
    ∃ ans s₁, r = .ok (ans, s₁) ∧ ∀ own rest started',
      ShowsPolicy headers path secure s₁ own rest started' →
      ShowsPolicy headers path secure started (⟨c, ans⟩ :: own) (first ++ rest) started' := by
  cases c with
  | receive =>
    obtain ⟨ans, _, rfl, rfl, rfl⟩ := path_perform_andThen.1 hstep
    refine ⟨ans, started, rfl, fun own rest started' h => ⟨h.sent_eq, fun hs => ?_, h.started_eq⟩⟩
    exact .cons (fun e he => by rw [List.mem_singleton.1 he]; trivial) (h.succeed hs.right)
  | send seconds message =>
    obtain ⟨ans, _, rfl, rfl, rfl⟩ := path_perform_andThen.1 hstep
    refine ⟨ans, _, rfl, fun own rest started' h => ⟨?_, fun hs => ?_, ?_⟩⟩
    · show withPolicy headers path secure message :: sent rest = _
      rw [h.sent_eq]
      rfl
    · refine .cons (fun e he => ?_) (h.succeed hs.right)
      rw [List.mem_singleton.1 he]
      exact hs _ (List.mem_cons_self)
    · rw [h.started_eq, Bool.or_assoc]
      exact congrArg _ (starts_send seconds message ans own).symm

theorem showsPolicy_of_serves {started started' : Bool}
    (h : Serves (sendWithPolicy headers path secure) started own tr started') :
    ShowsPolicy headers path secure started own tr started' := by
  induction h with
  | nil s => exact ⟨rfl, fun _ => sendsSucceed_nil, by simp [starts]⟩
  | answered hstep hrest ih =>
    obtain ⟨ans, s₁, heq, hnext⟩ := showsPolicy_step hstep
    obtain ⟨rfl, rfl⟩ := Prod.mk.inj (Except.ok.inj heq)
    exact hnext _ _ _ ih
  | raised hstep hrest ih =>
    obtain ⟨ans, s₁, heq, -⟩ := showsPolicy_step hstep
    cases heq

/-- How the body limit passes on what a program sends and hands over. -/
structure CountsBody (limit : ℤ) (count : BodyCount) (own tr : List (Event Asgi Raised))
    (count' : BodyCount) : Prop where
  sent_eq : sent tr = sent own
  succeed : SendsSucceed tr → SendsSucceed own
  started_eq : count'.startHandedOver = (count.startHandedOver || starts own ≠ [])
  handed : (handedBytes own + count.received : ℤ) ≤ max limit count.received

/-- One call through the body limit. -/
theorem countsBody_step {count : BodyCount} {c : AsgiCall}
    {r : Except Raised (Except Raised (AsgiCall.Answer c) × BodyCount)}
    {first : List (Event Asgi Raised)}
    (hstep : Path (guardBody bodies limit count c) first r) :
    ∃ ans s₁, r = .ok (ans, s₁) ∧ ∀ own rest count', CountsBody limit s₁ own rest count' →
      CountsBody limit count (⟨c, ans⟩ :: own) (first ++ rest) count' := by
  cases c with
  | receive =>
    obtain ⟨ans, after, rfl, hafter⟩ := path_perform_andThen.1 hstep
    have hsucceed : ∀ {own rest} (ans' : Except Raised Message),
        (SendsSucceed rest → SendsSucceed own) → SendsSucceed ([⟨.receive, ans⟩] ++ rest) → SendsSucceed (⟨.receive, ans'⟩ :: own) :=
      fun {own rest} ans' hown hs =>
        .cons (fun e he => by rw [List.mem_singleton.1 he]; trivial) (hown hs.right)
    cases ans with
    | error e =>
      obtain ⟨rfl, rfl⟩ := hafter
      refine ⟨_, count, rfl, fun own rest count' h =>
        ⟨h.sent_eq, hsucceed _ h.succeed, h.started_eq, h.handed⟩⟩
    | ok message =>
      dsimp only at hafter
      by_cases hrequest : message.type = str "http.request"
      · rw [if_pos hrequest] at hafter
        have hbytes : message.requestBytes = (message.body.getD []).length := if_pos hrequest
        split at hafter
        · rename_i hover
          obtain ⟨rfl, rfl⟩ := hafter
          refine ⟨_, _, rfl, fun own rest count' h =>
        ⟨h.sent_eq, hsucceed _ h.succeed, h.started_eq, ?_⟩⟩
          have hhanded := h.handed
          simp only [Nat.cast_add] at hhanded hover
          rw [max_eq_right hover.le] at hhanded
          show (handedBytes own + count.received : ℤ) ≤ _
          omega
        · rename_i hfits
          obtain ⟨rfl, rfl⟩ := hafter
          refine ⟨_, _, rfl, fun own rest count' h =>
        ⟨h.sent_eq, hsucceed _ h.succeed, h.started_eq, ?_⟩⟩
          have hhanded := h.handed
          simp only [Nat.cast_add] at hhanded hfits
          rw [max_eq_left (not_lt.1 hfits)] at hhanded
          show ((message.requestBytes + handedBytes own : ℕ) + count.received : ℤ) ≤ _
          rw [hbytes]
          push_cast
          omega
      · rw [if_neg hrequest] at hafter
        obtain ⟨rfl, rfl⟩ := hafter
        refine ⟨_, count, rfl, fun own rest count' h =>
        ⟨h.sent_eq, hsucceed _ h.succeed, h.started_eq, ?_⟩⟩
        have hbytes : message.requestBytes = 0 := if_neg hrequest
        show ((message.requestBytes + handedBytes own : ℕ) + count.received : ℤ) ≤ _
        rw [hbytes, Nat.zero_add]
        exact h.handed
  | send seconds message =>
    have hsucceed : ∀ {own rest} (within : Option ℚ) (ans : Except Raised Unit),
        (SendsSucceed rest → SendsSucceed own) →
        SendsSucceed ([⟨.send within message, ans⟩] ++ rest) →
        SendsSucceed (⟨.send seconds message, ans⟩ :: own) := by
      intro own rest within ans hown hs
      refine .cons (fun e he => ?_) (hown hs.right)
      rw [List.mem_singleton.1 he]
      exact hs _ List.mem_cons_self
    by_cases hstart : message.type = responseStart
    · simp only [guardBody, hstart, ne_eq, not_true_eq_false, if_false] at hstep
      obtain ⟨ans, _, rfl, rfl, rfl⟩ := path_perform_andThen.1 hstep
      refine ⟨ans, _, rfl, fun own rest count' h =>
        ⟨congrArg (message :: ·) h.sent_eq, hsucceed _ _ h.succeed, ?_, h.handed⟩⟩
      have hstarts := starts_send seconds message ans own
      rw [h.started_eq]
      simp only [hstart, decide_true, Bool.true_or] at hstarts
      exact ((congrArg (count.startHandedOver || ·) hstarts).trans (Bool.or_true _)).symm
    · simp only [guardBody, hstart, ne_eq, not_false_eq_true, if_true] at hstep
      obtain ⟨ans, _, rfl, rfl, rfl⟩ := path_perform_andThen.1 hstep
      refine ⟨ans, _, rfl, fun own rest count' h =>
        ⟨congrArg (message :: ·) h.sent_eq, hsucceed _ _ h.succeed, ?_, h.handed⟩⟩
      have hstarts := starts_send seconds message ans own
      rw [h.started_eq]
      simp only [hstart, decide_false, Bool.false_or] at hstarts
      exact congrArg (count.startHandedOver || ·) hstarts.symm

theorem countsBody_of_serves {count count' : BodyCount}
    (h : Serves (guardBody bodies limit) count own tr count') :
    CountsBody limit count own tr count' := by
  induction h with
  | nil s => exact ⟨rfl, fun _ => sendsSucceed_nil, by simp [starts], by simp [handedBytes]⟩
  | answered hstep hrest ih =>
    obtain ⟨ans, s₁, heq, hnext⟩ := countsBody_step hstep
    obtain ⟨rfl, rfl⟩ := Prod.mk.inj (Except.ok.inj heq)
    exact hnext _ _ _ ih
  | raised hstep hrest ih =>
    obtain ⟨ans, s₁, heq, -⟩ := countsBody_step hstep
    cases heq

/-- One response: a start with the status, and a body. -/
def IsAnswer (status : ℕ) (messages : List Message) : Prop :=
  ∃ start body, messages = [start, body] ∧ start.type = responseStart ∧
    start.status = some status ∧ body.type ≠ responseStart

theorem IsAnswer.withPolicy {status : ℕ} {messages : List Message} (h : IsAnswer status messages) :
    IsAnswer status (messages.map (withPolicy headers path secure)) := by
  obtain ⟨start, body, rfl, hstart, hstatus, hbody⟩ := h
  exact ⟨_, _, rfl, by simpa using hstart, by simpa using hstatus, by simpa using hbody⟩

/-- The library's own answers are sent whole. -/
theorem sendResponse_answers {status : ℕ} {contentType : String} {body : Bytes}
    {r : Except Raised Unit} (hpath : Path (sendResponse status contentType body) tr r)
    (hsends : SendsSucceed tr) : IsAnswer status (sent tr) ∧ r = .ok () := by
  obtain ⟨ans, rest, rfl, hrest⟩ := path_perform_andThen.1 hpath
  obtain rfl : ans = .ok () := hsends _ List.mem_cons_self
  obtain ⟨ans, last, rfl, hlast⟩ := hrest
  obtain rfl : ans = .ok () := hsends _ (List.mem_cons_of_mem _ List.mem_cons_self)
  obtain ⟨rfl, rfl⟩ := hlast
  refine ⟨⟨_, _, rfl, rfl, rfl, ?_⟩, rfl⟩
  show str "http.response.body" ≠ responseStart
  decide

/-- The body limit around an application: it refuses a declared length, or the application runs and
the end of it decides. -/
theorem bodySizeLimit_cases {py : Platform} {app : ASGIApp} {scope : Scope} {r : Except Raised Unit}
    (hhttp : scope.type = str "http")
    (hpath : Path (bodySizeLimit py bodies app scope) tr r) :
    let limit := bodies.maxBytes py (routePath scope) (scope.method.getD [])
    declaresOver py scope limit = true ∧ Path tooLarge tr r ∨
      declaresOver py scope limit = false ∧ ∃ own r' count relayed rest, tr = relayed ++ rest ∧
        Path (app scope) own r' ∧ CountsBody limit {} own relayed count ∧
        ((∃ n, r' = .error (.requestBodyTooLarge n) ∧ starts own = [] ∧ Path tooLarge rest r) ∨
          (∀ n, r' = .error (.requestBodyTooLarge n) → starts own ≠ []) ∧ rest = [] ∧ r = r') := by
  intro limit
  rw [bodySizeLimit, if_neg (not_not.2 hhttp)] at hpath
  simp only at hpath
  by_cases hover : declaresOver py scope limit = true
  · rw [if_pos hover] at hpath
    exact .inl ⟨hover, hpath⟩
  · rw [if_neg hover] at hpath
    obtain ⟨relayed, rest, r₁, rfl, hserved, hrest⟩ := path_andThen.1 hpath
    obtain ⟨own, r', count, rfl, hown, hserves⟩ := path_served hserved
    have hcounts := countsBody_of_serves hserves
    refine .inr ⟨by simpa using hover, own, r', count, relayed, rest, rfl, hown, hcounts, ?_⟩
    have hstarted := hcounts.started_eq
    simp only [Bool.false_or] at hstarted
    cases r' with
    | ok u => exact .inr ⟨fun n h => (by cases h), hrest⟩
    | error e =>
      cases e with
      | exception e => exact .inr ⟨fun n h => (by cases h), hrest⟩
      | baseException tag => exact .inr ⟨fun n h => (by cases h), hrest⟩
      | requestBodyTooLarge n =>
        by_cases hstart : starts own = []
        · refine .inl ⟨n, rfl, hstart, ?_⟩
          simpa [hstarted, hstart] using hrest
        · refine .inr ⟨fun _ _ => hstart, ?_⟩
          simpa [hstarted, hstart, Program.Path] using hrest

/-- An exception before the start is answered with a plain 500, and goes on. -/
theorem answerFailure_answers {started : Bool} {original : Raised} {r : Except Raised Unit}
    (hpath : Path (answerFailure headers path secure started original) tr r)
    (hsends : SendsSucceed tr) : r = .error original ∧
      if original.isException ∧ started = false then IsAnswer 500 (sent tr) else tr = [] := by
  unfold answerFailure at hpath
  by_cases hanswer : original.isException = true ∧ started = false
  · rw [if_neg (by simp [hanswer])] at hpath
    obtain ⟨relayed, rest, r₁, rfl, hserved, hrest⟩ := path_andThen.1 hpath
    obtain ⟨own, r', started', rfl, hown, hserves⟩ := path_served hserved
    have hshows := showsPolicy_of_serves hserves
    obtain ⟨hresponse, rfl⟩ := sendResponse_answers hown (hshows.succeed hsends.left)
    obtain ⟨rfl, rfl⟩ := hrest
    rw [if_pos hanswer, List.append_nil, hshows.sent_eq]
    exact ⟨rfl, hresponse.withPolicy⟩
  · have hraise : (!original.isException || started) = true := by
      cases h : original.isException <;> cases started <;> simp_all
    rw [if_pos hraise] at hpath
    obtain ⟨rfl, rfl⟩ := hpath
    exact ⟨rfl, by rw [if_neg hanswer]⟩

end Layers

/-! ## The stack -/

/-- How a request ends that entered the application: with what the application did, what it ended
with, what was sent to the client, and what the server got. -/
inductive RequestEnd (shown : Message → Message) (own tr : List (Event Asgi Raised)) :
    Except Raised Unit → Except Raised Unit → Prop where
  /-- It returned: its messages were sent. -/
  | returned (hsent : sent tr = (sent own).map shown) : RequestEnd shown own tr (.ok ()) (.ok ())
  /-- It raised after its start: nothing more was sent, and the exception reached the server. -/
  | cutOff (e : Raised) (hstart : starts own ≠ []) (hsent : sent tr = (sent own).map shown) :
    RequestEnd shown own tr (.error e) (.error e)
  /-- A body over its limit, before the start: a 413, and nothing was raised. -/
  | tooLarge (n : ℤ) (hstart : starts own = []) (answer : List Message)
    (hsent : sent tr = (sent own).map shown ++ answer) (hanswer : IsAnswer 413 answer) :
    RequestEnd shown own tr (.error (.requestBodyTooLarge n)) (.ok ())
  /-- Another exception before the start: a 500, and the exception reached the server. -/
  | failed (e : Exn) (hstart : starts own = []) (answer : List Message)
    (hsent : sent tr = (sent own).map shown ++ answer) (hanswer : IsAnswer 500 answer) :
    RequestEnd shown own tr (.error (.exception e)) (.error (.exception e))
  /-- A cancellation before the start: nothing was sent, and it reached the server. -/
  | cancelled (tag : ℕ) (hstart : starts own = []) (hsent : sent tr = (sent own).map shown) :
    RequestEnd shown own tr (.error (.baseException tag)) (.error (.baseException tag))

/-- The security headers around the body limit around an application. -/
def wrapped (py : Platform) (headers : SecurityHeadersPolicy) (bodies : BodySizePolicy)
    (app : ASGIApp) : ASGIApp := securityHeaders headers (bodySizeLimit py bodies app)

/-- What a request gets from the wrapped application. -/
inductive WrapperAnswer (py : Platform) (headers : SecurityHeadersPolicy) (bodies : BodySizePolicy)
    (app : ASGIApp) (scope : Scope) (tr : List (Event Asgi Raised)) (r : Except Raised Unit) :
    Prop where
  /-- Without a configuration no application is entered. -/
  | unconfigured (e : Exn) (hconfig : webAuthConfig scope = .error e)
    (hany : ∀ other, wrapped py headers bodies other scope = wrapped py headers bodies app scope)
    (hanswer : IsAnswer 500 (sent tr)) (hend : r = .error (.exception e))
  /-- A declared length over the limit is a 413, and no application is entered. -/
  | declaredOver
    (hany : ∀ other, wrapped py headers bodies other scope = wrapped py headers bodies app scope)
    (hanswer : IsAnswer 413 (sent tr)) (hend : r = .ok ())
  /-- The application is entered: no length it declares is over the limit, and of the body it is
  handed no more than the limit. -/
  | entered (config : Ref WebAuthConfig) (own : List (Event Asgi Raised)) (r' : Except Raised Unit)
    (hconfig : webAuthConfig scope = .ok config)
    (hdeclared : ∀ header ∈ scope.headers, py.lower (decodeLatin1 header.1) = str "content-length" →
      ∀ n, parseInt py (decodeLatin1 header.2) = some n →
        n ≤ bodies.maxBytes py (routePath scope) (scope.method.getD []))
    (hown : Path (app scope) own r')
    (hhanded : (handedBytes own : ℤ) ≤
      max (bodies.maxBytes py (routePath scope) (scope.method.getD [])) 0)
    (hend : RequestEnd (withPolicy headers (routePath scope) config.value.cookieSecure) own tr r' r)
    (honce : (starts own).length ≤ 1 → (starts tr).length ≤ 1)

section Stack

variable {py : Platform} {headers : SecurityHeadersPolicy} {bodies : BodySizePolicy}
  {app : ASGIApp} {scope : Scope} {own tr : List (Event Asgi Raised)} {r r' : Except Raised Unit}

theorem IsAnswer.starts_length {status : ℕ} {messages : List Message}
    (h : IsAnswer status messages) :
    (messages.filter fun message => message.type = responseStart).length = 1 := by
  obtain ⟨start, body, rfl, hstart, -, hbody⟩ := h
  simp [hstart, hbody]

/-- Whatever ends the request, the library starts a response only where the application did not. -/
theorem RequestEnd.starts_length {path : Str} {secure : Bool}
    (h : RequestEnd (withPolicy headers path secure) own tr r' r) :
    (starts tr).length ≤ max (starts own).length 1 := by
  have hshown : ((sent own).map (withPolicy headers path secure)).filter
      (·.type = responseStart) = (starts own).map (withPolicy headers path secure) :=
    filter_withPolicy _
  cases h with
  | returned hsent => rw [starts, hsent, hshown, List.length_map]; omega
  | cutOff e hstart hsent => rw [starts, hsent, hshown, List.length_map]; omega
  | cancelled tag hstart hsent => rw [starts, hsent, hshown, List.length_map]; omega
  | tooLarge n hstart answer hsent hanswer =>
    rw [starts, hsent, List.filter_append, hshown, hstart, List.map_nil, List.nil_append,
      hanswer.starts_length]
    omega
  | failed e hstart answer hsent hanswer =>
    rw [starts, hsent, List.filter_append, hshown, hstart, List.map_nil, List.nil_append,
      hanswer.starts_length]
    omega

theorem declaredLength_le {limit : ℤ} (h : declaresOver py scope limit = false)
    {header : Bytes × Bytes} (hheader : header ∈ scope.headers)
    (hname : py.lower (decodeLatin1 header.1) = str "content-length") {n : ℤ}
    (hn : parseInt py (decodeLatin1 header.2) = some n) : n ≤ limit := by
  rw [declaresOver, List.any_eq_false] at h
  have hfits := h header hheader
  simpa [hname, declaredLength, hn] using hfits

/-- Without a config the stack answers the failure that says so. -/
theorem wrapped_unconfigured (app : ASGIApp) {e : Exn} (hhttp : scope.type = str "http")
    (hconfig : webAuthConfig scope = .error e) : wrapped py headers bodies app scope =
      answerFailure headers (routePath scope) false false (.exception e) := by
  rw [wrapped, securityHeaders]
  refine (if_neg (not_not.2 hhttp)).trans ?_
  generalize webAuthConfig scope = found at hconfig
  subst hconfig
  rfl

/-- With one it serves the bounded request, and answers a failure that started nothing. -/
theorem wrapped_configured (app : ASGIApp) {config : Ref WebAuthConfig}
    (hhttp : scope.type = str "http") (hconfig : webAuthConfig scope = .ok config) :
    wrapped py headers bodies app scope =
      (served (sendWithPolicy headers (routePath scope) config.value.cookieSecure)
        (bodySizeLimit py bodies app scope) false).andThen fun
      | .ok (.ok (), _) => .ret ()
      | .ok (.error original, started) =>
        answerFailure headers (routePath scope) config.value.cookieSecure started original
      | .error e => .raise e := by
  rw [wrapped, securityHeaders]
  refine (if_neg (not_not.2 hhttp)).trans ?_
  generalize webAuthConfig scope = found at hconfig
  subst hconfig
  rfl

/-- **One response start, and a bounded body.** -/
theorem wrapped_answers (hpath : Path (wrapped py headers bodies app scope) tr r)
    (hhttp : scope.type = str "http") (hsends : SendsSucceed tr) :
    WrapperAnswer py headers bodies app scope tr r := by
  cases hconfig : webAuthConfig scope with
  | error e =>
    have hwrapped : ∀ other, wrapped py headers bodies other scope = _ := fun other =>
      wrapped_unconfigured other hhttp hconfig
    rw [hwrapped app] at hpath
    obtain ⟨rfl, hanswer⟩ := answerFailure_answers hpath hsends
    exact .unconfigured e hconfig (fun other => by rw [hwrapped, hwrapped]) hanswer rfl
  | ok config =>
    have hwrapped : ∀ other, wrapped py headers bodies other scope = _ := fun other =>
      wrapped_configured other hhttp hconfig
    rw [hwrapped app] at hpath
    obtain ⟨relayed, rest, r₁, rfl, hserved, hrest⟩ := path_andThen.1 hpath
    obtain ⟨inner, r₂, started, rfl, hinner, hserves⟩ := path_served hserved
    obtain ⟨hshown, hsucceed, hstarted⟩ := showsPolicy_of_serves hserves
    have hinnerSends := hsucceed hsends.left
    rcases bodySizeLimit_cases hhttp hinner with
      ⟨hover, htoo⟩ | ⟨hover, own, r', count, counted, after, rfl, hown, hcounts, hafter⟩
    · obtain ⟨hanswer, rfl⟩ := sendResponse_answers htoo hinnerSends
      obtain ⟨rfl, rfl⟩ := hrest
      refine .declaredOver (fun other => ?_) ?_ rfl
      · rw [hwrapped, hwrapped, bodySizeLimit, bodySizeLimit, if_neg (not_not.2 hhttp),
          if_neg (not_not.2 hhttp)]
        simp only [hover, if_true]
      · rw [List.append_nil, hshown]
        exact hanswer.withPolicy
    have hhanded := hcounts.handed
    simp only [Nat.cast_zero, add_zero] at hhanded
    have hentered : ∀ (hend : RequestEnd (withPolicy headers (routePath scope)
        config.value.cookieSecure) own (relayed ++ rest) r' r),
        WrapperAnswer py headers bodies app scope (relayed ++ rest) r := fun hend =>
      .entered config own r' hconfig (fun header hheader hname n hn =>
        declaredLength_le hover hheader hname hn) hown hhanded hend
        fun hle => hend.starts_length.trans (by omega)
    refine hentered ?_
    rcases hafter with ⟨n, rfl, hstart, htoo⟩ | ⟨hlate, rfl, rfl⟩
    · obtain ⟨hanswer, rfl⟩ := sendResponse_answers htoo hinnerSends.right
      obtain ⟨rfl, rfl⟩ := hrest
      refine .tooLarge n hstart ((sent after).map (withPolicy headers (routePath scope)
        config.value.cookieSecure)) ?_ hanswer.withPolicy
      rw [List.append_nil, hshown, sent_append, hcounts.sent_eq, List.map_append]
    rw [List.append_nil] at hshown hstarted
    have hstarts : starts counted = starts own := by rw [starts, hcounts.sent_eq, starts]
    rw [hstarts, Bool.false_or] at hstarted
    rw [hcounts.sent_eq] at hshown
    cases hr : r₂ with
    | ok u =>
      subst hr
      obtain ⟨rfl, rfl⟩ := hrest
      exact .returned (by rw [List.append_nil, hshown])
    | error e =>
      subst hr
      obtain ⟨rfl, hanswer⟩ := answerFailure_answers hrest hsends.right
      by_cases hstart : starts own = []
      · simp only [hstarted, hstart, ne_eq, not_true_eq_false, decide_false, and_true] at hanswer
        cases e with
        | requestBodyTooLarge n => exact (hlate n rfl hstart).elim
        | exception e =>
          refine .failed e hstart _ ?_ hanswer
          rw [sent_append, hshown]
        | baseException tag =>
          refine .cancelled tag hstart ?_
          simp only [Raised.isException, Bool.false_eq_true, if_false] at hanswer
          rw [hanswer, List.append_nil, hshown]
      · rw [if_neg (by simp [hstarted, hstart])] at hanswer
        refine .cutOff e hstart ?_
        rw [hanswer, List.append_nil, hshown]

end Stack

/-! ## Runs -/

/-- A client that sends these messages and reads every answer. -/
def client : List Message → (c : AsgiCall) → Except Raised (AsgiCall.Answer c) × List Message
  | message :: messages, .receive => (.ok message, messages)
  | [], .receive => (.ok { type := str "http.disconnect" }, [])
  | messages, .send _ _ => (.ok (), messages)

theorem sendsSucceed_play {α : Type} (p : Program Asgi Raised α) (messages : List Message) :
    SendsSucceed (play client p messages).1 := by
  induction p generalizing messages with
  | ret a => exact sendsSucceed_nil
  | raise e => exact sendsSucceed_nil
  | call c next ih =>
    refine .cons (fun e he => ?_) (ih _ _)
    rw [List.mem_singleton.1 he]
    cases c <;> cases messages <;> trivial

def demoHeaders : SecurityHeadersPolicy where
  contentSecurityPolicy := str "default-src 'none'"
  content_ok := by decide
  permissions_ok := by decide

/-- A request of a configured application, with no length declared. -/
def demoRequest : Scope where
  type := str "http"
  app := some ⟨0, some ⟨0, demoConfig⟩⟩
  method := some (str "POST")
  path := str "/"
  rawPath := none
  rootPath := []
  queryString := []
  urlQuery := some []
  queryParams := []
  headers := []

/-- An application that reads until nothing more is to come, whatever a receive raises, and then
lets the last exception out. -/
def stubbornApp : ASGIApp := fun _ =>
  receive.andThen fun _ => receive.andThen fun
    | .ok _ => .ret ()
    | .error e => .raise e

def chunk (bytes : Bytes) : Message :=
  { type := str "http.request", body := some bytes, moreBody := some true }

theorem wrapped_answers_of_overrun :
    let run := play client
      (wrapped demoPlatform demoHeaders ⟨2, [], 10, by norm_num⟩ stubbornApp demoRequest)
      [chunk [0, 0, 0], chunk [0]]
    WrapperAnswer demoPlatform demoHeaders ⟨2, [], 10, by norm_num⟩ stubbornApp demoRequest run.1 run.2 :=
  wrapped_answers (path_play _ _ _) rfl (sendsSucceed_play _ _)

/-- A cancellation before the start sends nothing, and under a limit below zero even nothing is more
than the limit. -/
theorem cancelled_without_start :
    (∃ app own e, Path (app demoRequest) own (.error e) ∧ starts own = [] ∧
      ∃ r, Path (wrapped demoPlatform demoHeaders ⟨2, [], 10, by norm_num⟩ app demoRequest) [] r) ∧
    ∃ (bodies : BodySizePolicy) (app : ASGIApp) (own : List (Event Asgi Raised)),
      Path (app demoRequest) own (.ok ()) ∧
      Path (wrapped demoPlatform demoHeaders bodies app demoRequest) [] (.ok ()) ∧
      ¬(handedBytes own : ℤ) ≤ bodies.maxBytes demoPlatform (routePath demoRequest) (str "POST") := by
  refine ⟨⟨fun _ => .raise (.baseException 0), [], .baseException 0, ⟨rfl, rfl⟩, rfl,
    .error (.baseException 0), rfl, rfl⟩, ⟨-1, [], 10, by norm_num⟩, fun _ => .ret (), [],
    ⟨rfl, rfl⟩, ⟨rfl, rfl⟩, by decide⟩

end WebAuth
