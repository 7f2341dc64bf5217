import WebAuth.DeepLinks
import WebAuth.Effects.Counting
import WebAuth.HttpsExchanges
import WebAuth.LoginRuns

/-!
# The production transports

The transports are what a host gives its relying party as ports. They answer as the ports declare,
every one of their blocking steps is over with the deadline, and a login over them is decided by the
same list of faults as one over any other ports.
-/

namespace WebAuth

open Python Effects Program

/-! ## The ports -/

/-- The header of a relying party is printable, whatever its client id and its secret hold. -/
theorem isPrintable_clientAuthorization (rp : OidcRelyingParty) :
    IsPrintable rp.clientAuthorization := by
  have heq := rp.clientAuthorization_eq
  unfold basicAuthorization at heq
  obtain ⟨id, -, heq⟩ := Option.bind_eq_some_iff.1 heq
  obtain ⟨secret, -, heq⟩ := Option.bind_eq_some_iff.1 heq
  obtain ⟨credentials, -, heq⟩ := Option.bind_eq_some_iff.1 heq
  intro c hc
  rw [← Option.some.inj heq] at hc
  rcases List.mem_append.1 hc with hc | hc
  · exact isPrintable_of_all (by decide) c hc
  · have hvisible := (source_of_mem_b64encode hc).1
    omega

/-- The grant of a code, posted in the network of the demonstration. -/
def playedPost : List WireEvent × Except HttpsExn TokenEndpointAnswer :=
  play demoWire (postTokenRequestOverHttps demoUrllib3
    (demoRelyingParty.codeGrant demoPending (str "c"))
    tokenRequestTimeoutSeconds tokenExchangeDeadlineSeconds) 0

theorem playedPost_path : Path (postTokenRequestOverHttps demoUrllib3
    (demoRelyingParty.codeGrant demoPending (str "c"))
    tokenRequestTimeoutSeconds tokenExchangeDeadlineSeconds) playedPost.1 playedPost.2 :=
  path_play _ _ _

theorem playedPost_answers : playedPost.2 = .ok ⟨200, []⟩ := by decide +kernel

theorem playedPost_wire : ∀ e ∈ playedPost.1, WireAnswer e :=
  demoWire_answers _ 0

theorem tokenRequestTimeout_le : tokenRequestTimeoutSeconds ≤ maxTimeoutSeconds := by
  norm_num [tokenRequestTimeoutSeconds, maxTimeoutSeconds]

section Time

variable {urllib3 : Urllib3} {acceptsStatus : ℤ → Bool} {maxBodyBytes : ℕ}
  {timeoutSeconds deadlineSeconds pause now : ℚ} {history : List (Stamped WireEvent)}
  {es : List WireEvent}

/-- A history counts its deadline from `begun`, the reading of the clock it begins with. -/
def CountsFrom (begun : ℚ) (history : List (Stamped WireEvent)) : Prop :=
  ∃ x rest, history = x :: rest ∧ WireCall.tick x.event = .reading begun

/-- The blocking steps of a history keep to a deadline: none waits for ever, each is over by the
deadline, but for the pause between a reading of the clock and the step after it, so together they
take no longer than that, and none begins once a reading has seen the deadline pass. -/
structure KeepsDeadline (history : List (Stamped WireEvent)) (deadlineSeconds pause : ℚ) :
    Prop where
  ends : ∀ x ∈ history, ∀ timeout, WireCall.tick x.event = .step timeout →
    ∃ begun, CountsFrom begun history ∧ x.ended ≤ begun + deadlineSeconds + pause ∧
      ∃ t ≤ deadlineSeconds, timeout = some t
  blocked : Stamped.blocked WireCall.tick history ≤ max 0 (deadlineSeconds + pause)
  stops : ∀ before x after begun t, history = before ++ x :: after → CountsFrom begun history →
    WireCall.tick x.event = .reading t → begun + deadlineSeconds ≤ t →
      ∀ y ∈ after, ∀ timeout, WireCall.tick y.event ≠ .step timeout

theorem ExchangeRun.under {request : HttpsRequest} {r : Except HttpsExn HttpsOutcome}
    (h : ExchangeRun urllib3 acceptsStatus maxBodyBytes deadlineSeconds request es r) :
    (∃ e, es = [⟨.monotonic, .error e⟩]) ∨ ∃ begun steps, es = ⟨.monotonic, .ok begun⟩ :: steps ∧
      Stamped.UnderDeadline WireCall.tick (begun + deadlineSeconds) steps := by
  cases h with
  | noClock => exact .inl ⟨_, rfl⟩
  | answered _ hserves => exact .inr ⟨_, _, rfl, (serves_sockets hserves).1⟩
  | unknown _ hserves _ => exact .inr ⟨_, _, rfl, (serves_sockets hserves).1⟩
  | @failed _ _ _ _ _ _ later _ hserves _ =>
    refine .inr ⟨_, _, rfl, (serves_sockets hserves).1.append (.free ?_ .nil)⟩
    cases later <;> simp [WireCall.tick]

theorem keepsDeadline_of_free
    (hfree : ∀ x ∈ history, ∀ timeout, WireCall.tick x.event ≠ .step timeout) :
    KeepsDeadline history deadlineSeconds pause where
  ends x hx timeout hstep := absurd hstep (hfree x hx timeout)
  blocked := by
    have hzero : Stamped.blocked WireCall.tick history = 0 := by
      refine List.sum_eq_zero fun spent hspent => ?_
      obtain ⟨x, hx, rfl⟩ := List.mem_map.1 hspent
      exact Stamped.spent_free (hfree x hx)
    rw [hzero]
    exact le_max_left _ _
  stops before x after begun t heq _ _ _ y hy := hfree y (by simp [heq, hy])

theorem ExchangeRun.keepsDeadline {request : HttpsRequest} {r : Except HttpsExn HttpsOutcome}
    (h : ExchangeRun urllib3 acceptsStatus maxBodyBytes deadlineSeconds request
      (history.map Stamped.event) r)
    (htimed : Stamped.Timed WireCall.tick now history)
    (hpaced : Stamped.Paced WireCall.tick pause history) :
    KeepsDeadline history deadlineSeconds pause := by
  rcases h.under with ⟨e, heq⟩ | ⟨begun, steps, heq, hunder⟩
  · obtain ⟨x, rest, rfl, hx, hrest⟩ := List.map_eq_cons_iff.1 heq
    rw [List.map_eq_nil_iff] at hrest
    subst hrest
    refine keepsDeadline_of_free fun y hy timeout => ?_
    rw [List.mem_singleton.1 hy, hx]
    simp [WireCall.tick]
  obtain ⟨x, rest, rfl, hx, hrest⟩ := List.map_eq_cons_iff.1 heq
  have hreading : WireCall.tick x.event = .reading begun := by rw [hx]; rfl
  have hfree : ∀ timeout, WireCall.tick x.event ≠ .step timeout := by simp [hreading]
  have hcounts : CountsFrom begun (x :: rest) := ⟨x, rest, rfl, hreading⟩
  obtain ⟨-, hended, hfits, hafter⟩ := htimed
  have hbegun : x.began ≤ begun ∧ begun ≤ x.ended := hfits.1 begun hreading
  have hends := Stamped.ends_by_deadline hunder hrest hafter hpaced.tail
  have hbounds := Stamped.timeout_le hunder hrest hafter
  refine ⟨fun y hy timeout hstep => ?_, ?_,
    fun before y after begun' t hsplit hcounts' hy hpassed => ?_⟩
  · rcases List.mem_cons.1 hy with rfl | hy
    · exact absurd hstep (hfree timeout)
    · obtain ⟨t, ht, rfl⟩ := hbounds y hy timeout hstep
      exact ⟨begun, hcounts, hends y hy (some t) hstep, t, by linarith, rfl⟩
  · have hblocked := Stamped.blocked_le hafter hends
    show Stamped.spent WireCall.tick x + Stamped.blocked WireCall.tick rest ≤ _
    rw [Stamped.spent_free hfree, zero_add]
    exact hblocked.trans (max_le_max_left 0 (by linarith))
  · obtain ⟨x', rest', heq', hreading'⟩ := hcounts'
    obtain ⟨rfl, rfl⟩ := List.cons.inj heq'
    rw [hreading] at hreading'
    obtain rfl := Tick.reading.inj hreading'
    have hwhole : Stamped.UnderDeadline WireCall.tick (begun + deadlineSeconds)
        ((before ++ y :: after).map Stamped.event) := by
      rw [← hsplit, List.map_cons, hrest]
      exact .free hfree hunder
    have htimed' : Stamped.Timed WireCall.tick x.began (before ++ y :: after) := by
      rw [← hsplit]
      exact ⟨le_refl _, hended, hfits, hafter⟩
    exact Stamped.no_step_after_reading hwhole htimed' hy hpassed

theorem post_exchange {request : TokenRequest} {r : Except HttpsExn TokenEndpointAnswer}
    (h : Path (postTokenRequestOverHttps urllib3 request timeoutSeconds deadlineSeconds) es r) :
    es = [] ∨ ∃ sent outcome, ExchangeRun urllib3 isFormAnswerStatus maxTokenResponseBytes
      deadlineSeconds sent es outcome := by
  unfold postTokenRequestOverHttps at h
  split_ifs at h with horder
  · exact .inl h.1
  obtain ⟨first, rest, reply, rfl, hpost, hrest⟩ := path_andThen.1 h
  have hlast : rest = [] := by
    cases reply with
    | ok answer => exact hrest.1
    | error e => cases e <;> exact hrest.1
  rw [hlast, List.append_nil]
  cases postForm_path hpost with
  | refusedUrl => exact .inl rfl
  | notEncoded => exact .inl rfl
  | misused => exact .inl rfl
  | exchanged _ _ _ _ hexchange => exact .inr ⟨_, _, hexchange⟩

theorem fetch_exchange {url : Str} {r : Except HttpsExn Bytes}
    (h : Path (fetchKeySetOverHttps urllib3 url timeoutSeconds deadlineSeconds) es r) :
    es = [] ∨ ∃ sent outcome, ExchangeRun urllib3 isKeySetStatus maxKeySetBytes deadlineSeconds sent
      es outcome := by
  unfold fetchKeySetOverHttps at h
  split_ifs at h with hurl
  · exact .inl h.1
  obtain ⟨first, rest, outcome, rfl, hexchange, hrest⟩ := path_andThen.1 h
  have hlast : rest = [] := by
    cases outcome with
    | ok answer => cases answer <;> exact hrest.1
    | error e => cases e <;> exact hrest.1
  rw [hlast, List.append_nil]
  by_cases hused : 0 < timeoutSeconds ∧ 0 < deadlineSeconds
  · exact .inr ⟨_, _, exchange_path hused.1 hused.2 hexchange⟩
  · exact .inl (exchange_misused hexchange hused).1

/-- **The blocking steps of a transport are over with its deadline**, in whatever order urllib3
takes them and whatever timeouts it sets between them. -/
theorem transports_keep_deadline (htimed : Stamped.Timed WireCall.tick now history)
    (hpaced : Stamped.Paced WireCall.tick pause history) :
    (∀ request r, Path (postTokenRequestOverHttps urllib3 request timeoutSeconds deadlineSeconds)
        (history.map Stamped.event) r → KeepsDeadline history deadlineSeconds pause) ∧
      ∀ url r, Path (fetchKeySetOverHttps urllib3 url timeoutSeconds deadlineSeconds)
        (history.map Stamped.event) r → KeepsDeadline history deadlineSeconds pause := by
  have hempty : history.map Stamped.event = [] → KeepsDeadline history deadlineSeconds pause := by
    intro hes
    rw [List.map_eq_nil_iff] at hes
    exact keepsDeadline_of_free (by simp [hes])
  refine ⟨fun request r h => ?_, fun url r h => ?_⟩
  · obtain hes | ⟨sent, outcome, hexchange⟩ := post_exchange h
    · exact hempty hes
    · exact hexchange.keepsDeadline htimed hpaced
  · obtain hes | ⟨sent, outcome, hexchange⟩ := fetch_exchange h
    · exact hempty hes
    · exact hexchange.keepsDeadline htimed hpaced

end Time

/-- How long a call takes of a slow origin: a step of a socket four seconds, or its timeout. -/
def WireCall.lasts : WireCall → ℚ
  | tls _ _ timeout => max 0 (min 4 (timeout.getD 4))
  | _ => 0

theorem WireCall.lasts_nonneg (c : WireCall) : 0 ≤ c.lasts := by
  cases c with
  | tls => exact le_max_left _ _
  | monotonic => exact le_refl 0
  | outside => exact le_refl 0

/-- What a step comes to that takes four seconds. -/
def slowly {α : Type} (timeout : Option ℚ) (a : α) : Except HttpsExn α :=
  if timeout.any (· < 4) then .error (.osError 0) else .ok a

/-- A network whose origin answers 200, slowly. -/
def slowAnswer (now : ℚ) : (c : WireCall) → Except HttpsExn c.Answer
  | .monotonic => .ok now
  | .tls _ (.doHandshake _) timeout => slowly timeout ()
  | .tls _ (.send data) timeout => slowly timeout data.length
  | .tls _ (.read _) timeout => slowly timeout (encodeLatin1 (str "HTTP/1.1 200 OK\r\n\r\n"))
  | .outside _ => .ok ()

def slowWire (now : ℚ) (c : WireCall) : Except HttpsExn c.Answer × ℚ :=
  (slowAnswer now c, now + c.lasts)

/-- The times of a history of that network. -/
def slowHistory : ℚ → List WireEvent → List (Stamped WireEvent)
  | _, [] => []
  | now, e :: es => ⟨e, now, now + e.call.lasts⟩ :: slowHistory (now + e.call.lasts) es

theorem slowHistory_events (now : ℚ) (es : List WireEvent) :
    (slowHistory now es).map Stamped.event = es := by
  induction es generalizing now with
  | nil => rfl
  | cons e es ih => exact congrArg (e :: ·) (ih _)

theorem slowHistory_timed {α : Type} (p : Wire α) (now : ℚ) :
    Stamped.Timed WireCall.tick now (slowHistory now (play slowWire p now).1) := by
  induction p generalizing now with
  | ret a => trivial
  | raise e => trivial
  | call c next ih =>
    refine ⟨le_refl now, ?_, ⟨fun t hreading => ?_, fun timeout hstep => ?_⟩, ih _ _⟩
    · show now ≤ now + c.lasts
      linarith [c.lasts_nonneg]
    · cases c with
      | monotonic =>
        obtain rfl := Tick.reading.inj hreading
        exact ⟨le_refl now, (add_zero now).ge⟩
      | tls => cases hreading
      | outside => cases hreading
    · cases c with
      | monotonic => cases hstep
      | outside => cases hstep
      | tls socket step timeout' =>
        obtain rfl := Tick.step.inj hstep
        show now + max 0 (min 4 timeout) ≤ now + max 0 timeout
        linarith [max_le_max_left 0 (min_le_right 4 timeout)]

theorem slowHistory_paced (now : ℚ) (es : List WireEvent) :
    Stamped.Paced WireCall.tick 0 (slowHistory now es) := by
  induction es generalizing now with
  | nil => exact .nil
  | cons e es ih =>
    cases es with
    | nil => exact .singleton _
    | cons e' es =>
      refine .cons_cons (fun t timeout hreading _ => ?_) (ih _)
      obtain ⟨c, ans⟩ := e
      cases c with
      | monotonic => exact le_refl _
      | tls => cases hreading
      | outside => cases hreading

/-- The grant of a code, posted in the slow network from the second 100 on. -/
def slowPost : List WireEvent × Except HttpsExn TokenEndpointAnswer :=
  play slowWire (postTokenRequestOverHttps demoUrllib3
    (demoRelyingParty.codeGrant demoPending (str "c"))
    tokenRequestTimeoutSeconds tokenExchangeDeadlineSeconds) 100

/-- The handshake and the request take four seconds each, and the deadline leaves the answer two. -/
theorem transports_keep_deadline_of_post :
    slowPost.2 = .error (tokenRequestFailed .timedOut) ∧
      Stamped.blocked WireCall.tick (slowHistory 100 slowPost.1) = 10 ∧
      KeepsDeadline (slowHistory 100 slowPost.1) 10 0 := by
  have htimed : Stamped.Timed WireCall.tick 100 (slowHistory 100 slowPost.1) :=
    slowHistory_timed _ _
  have hpath : Path (postTokenRequestOverHttps demoUrllib3
      (demoRelyingParty.codeGrant demoPending (str "c"))
      tokenRequestTimeoutSeconds tokenExchangeDeadlineSeconds)
      ((slowHistory 100 slowPost.1).map Stamped.event) slowPost.2 := by
    rw [slowHistory_events]
    exact path_play _ _ _
  exact ⟨by decide +kernel, by decide +kernel,
    (transports_keep_deadline htimed (slowHistory_paced 100 _)).1 _ _ hpath⟩

/-! ## A login over the transports -/

/-- What the library sees of an exception of the HTTPS client. -/
def HttpsExn.toExn : HttpsExn → Exn
  | valueError message _ => .valueError message
  | unicodeEncodeError => .valueError "surrogates not allowed"
  | keySetFetchError _ _ => .keySetFetchError
  | tokenEndpointError _ _ => .tokenEndpointError
  | other tag => .host tag
  | _ => .host 0

/-- A port answers over HTTPS, and every other call answers. -/
inductive OverHttps (urllib3 : Urllib3) : HostEvent → Prop
  | posted {request : TokenRequest} {es : List WireEvent} {r : Except HttpsExn TokenEndpointAnswer}
      (hwire : ∀ e ∈ es, WireAnswer e)
      (hpath : Path (postTokenRequestOverHttps urllib3 request tokenRequestTimeoutSeconds
        tokenExchangeDeadlineSeconds) es r) :
      OverHttps urllib3 ⟨.postTokenRequest request, r.mapError HttpsExn.toExn⟩
  | fetched {owner : ℕ} {url : Str} {es : List WireEvent} {r : Except HttpsExn Bytes}
      (hwire : ∀ e ∈ es, WireAnswer e)
      (hpath : Path (fetchKeySetOverHttps urllib3 url keySetFetchTimeoutSeconds
        keySetFetchDeadlineSeconds) es r) :
      OverHttps urllib3 ⟨.verifier owner (.fetchKeySet url), r.mapError HttpsExn.toExn⟩
  | answered {c : HostCall} (a : c.Answer) (hpost : ∀ request, c ≠ .postTokenRequest request)
      (hfetch : ∀ owner url, c ≠ .verifier owner (.fetchKeySet url)) : OverHttps urllib3 ⟨c, .ok a⟩

/-- A call that goes over HTTPS. -/
def HostCall.isExchange : HostCall → Bool
  | .postTokenRequest _ => true
  | .verifier _ (.fetchKeySet _) => true
  | _ => false

/-- A step of a verifier that goes over HTTPS. -/
def VerifierCall.isFetch : VerifierCall → Bool
  | fetchKeySet _ => true
  | _ => false

section Counts

variable (py : Platform)

theorem ask_none {c : VerifierCall} (h : c.isFetch = false) :
    AtMost VerifierCall.isFetch 0 (ask c) := atMost_of_only ⟨h, only_done⟩

theorem fetchedKeys_atMost (v : JwtVerifier) :
    AtMost VerifierCall.isFetch 1 (fetchedKeys py v) := by
  have hfetch : AtMost VerifierCall.isFetch 1 (ask (.fetchKeySet v.jwksUrl)) := atMost_perform _
  refine (hfetch.bind_zero fun document => atMost_of_only ?_).tryCatch fun e => ?_
  · exact Only.bind (only_done _) fun keys => trivial
  · cases e <;> exact atMost_of_only trivial

theorem attemptRefresh_atMost (v : JwtVerifier) (now : ℚ) :
    AtMost VerifierCall.isFetch 1 (attemptRefresh py v now) := by
  refine (ask_none rfl).zero_bind fun _ => (fetchedKeys_atMost py v).bind_zero fun keys => ?_
  cases keys with
  | ok keys => exact (ask_none rfl).zero_bind fun _ => ask_none rfl
  | error failure => exact ask_none rfl

theorem refreshKeySet_atMost (v : JwtVerifier) :
    AtMost VerifierCall.isFetch 1 (refreshKeySet py v) := by
  have hnone : AtMost VerifierCall.isFetch 0 (ret () : Verification Unit) := atMost_of_only trivial
  have hlocked : AtMost VerifierCall.isFetch 1 (refreshLocked py v) := by
    refine (ask_none rfl).zero_bind fun now => (ask_none rfl).zero_bind fun last => ?_
    split
    · exact hnone.mono (Nat.zero_le 1)
    · exact attemptRefresh_atMost py v now
  refine (ask_none rfl).zero_bind fun acquired => ?_
  split
  · exact hlocked.andThen fun r =>
      (ask_none rfl).zero_bind fun _ => atMost_of_only (only_done r)
  · exact hnone.mono (Nat.zero_le 1)

theorem isCurrent_none (keySet : KeySet) : AtMost VerifierCall.isFetch 0 (isCurrent keySet) :=
  (ask_none rfl).zero_bind fun _ => atMost_of_only trivial

theorem keyOf_none (keyId : Option Str) (snapshot : Option KeySet) :
    AtMost VerifierCall.isFetch 0 (keyOf keyId snapshot) := by
  cases snapshot with
  | none => exact atMost_of_only trivial
  | some keySet =>
    refine (isCurrent_none keySet).zero_bind fun current => ?_
    split
    · cases keyId with
      | none =>
        dsimp only
        split <;> exact atMost_of_only trivial
      | some k =>
        dsimp only
        split
        · exact atMost_of_only trivial
        · refine (ask_none rfl).zero_bind fun failed => ?_
          split <;> exact atMost_of_only trivial
    · exact atMost_of_only trivial

theorem signingKey_atMost (v : JwtVerifier) (keyId : Option Str) :
    AtMost VerifierCall.isFetch 1 (signingKey py v keyId) := by
  have hneeds (snapshot : Option KeySet) :
      AtMost VerifierCall.isFetch 0 (needsRefresh keyId snapshot) := by
    cases snapshot with
    | none => exact atMost_of_only trivial
    | some keySet =>
      refine (isCurrent_none keySet).zero_bind fun current => ?_
      split <;> exact atMost_of_only trivial
  refine (ask_none rfl).zero_bind fun snapshot => (hneeds snapshot).zero_bind fun refresh => ?_
  split
  · exact (refreshKeySet_atMost py v).bind_zero fun _ => (ask_none rfl).zero_bind fun refreshed =>
      keyOf_none keyId refreshed
  · exact (keyOf_none keyId snapshot).mono (Nat.zero_le 1)

/-- A verification fetches the key set once at most. -/
theorem verify_atMost (v : JwtVerifier) (token : Str) (expected : ExpectedType) :
    AtMost VerifierCall.isFetch 1 (verify py v token expected) := by
  have hdone {α : Type} (r : Except Exn α) :
      AtMost VerifierCall.isFetch 0 (liftM r : Verification α) := atMost_of_only (only_done r)
  have hclaims : AtMost VerifierCall.isFetch 1 (verifiedClaims py v token expected) := by
    refine (hdone _).zero_bind fun keyId => (signingKey_atMost py v keyId).bind_zero fun key => ?_
    refine (hdone _).zero_bind fun claims => AtMost.zero_bind ?_ fun times => ?_
    · exact (hdone _).zero_bind fun _ => (hdone _).zero_bind fun _ => (hdone _).zero_bind fun _ =>
        (ask_none rfl).zero_bind fun _ => hdone _
    · exact (hdone _).zero_bind fun _ => (hdone _).zero_bind fun _ => atMost_of_only trivial
  refine (hdone _).zero_bind fun _ => (hclaims.bind_zero fun claims => ?_).tryCatch fun e => ?_
  · exact atMost_of_only trivial
  · cases e <;> exact atMost_of_only trivial

end Counts

section Login

variable {py : Platform} {urllib3 : Urllib3} {rp : OidcRelyingParty} {pending : PendingLogin}
  {query : Str} {es : List HostEvent}

/-- The ports answer as a login relies on, where the forms that are posted have an encoding. -/
theorem OverHttps.portAnswer {e : HostEvent} (hurllib3 : urllib3.Documented)
    (h : OverHttps urllib3 e)
    (hform : ∀ request, e.call = .postTokenRequest request → (urlencode request.form).isSome)
    (hprintable : ∀ request, e.call = .postTokenRequest request →
      IsPrintable request.authorization) :
    PortAnswer e := by
  cases h with
  | @posted request es r hwire hpath =>
    have husable : IsUsable request tokenRequestTimeoutSeconds tokenExchangeDeadlineSeconds :=
      ⟨by simp [tokenRequestTimeoutSeconds, tokenExchangeDeadlineSeconds]; norm_num, fun _ =>
        ⟨hform request rfl, by norm_num [tokenRequestTimeoutSeconds],
          by norm_num [tokenExchangeDeadlineSeconds]⟩⟩
    intro x hx
    rcases postTokenRequest_path hurllib3 tokenRequestTimeout_le (hprintable request rfl) hwire
        hpath with ⟨hno, -⟩ | ⟨-, hreply, -⟩
    · exact absurd husable hno
    · cases hreply with
      | answer => cases hx
      | failed failure =>
        obtain rfl := Except.error.inj hx
        exact .inl ⟨⟨request, rfl⟩, rfl⟩
  | @fetched owner url es r hwire hpath =>
    have hlimit : keySetFetchTimeoutSeconds ≤ maxTimeoutSeconds := by
      norm_num [keySetFetchTimeoutSeconds, maxTimeoutSeconds]
    have hpositive : 0 < keySetFetchTimeoutSeconds ∧ 0 < keySetFetchDeadlineSeconds :=
      ⟨by norm_num [keySetFetchTimeoutSeconds], by norm_num [keySetFetchDeadlineSeconds]⟩
    intro x hx
    rcases fetchKeySet_path hurllib3 hlimit hwire hpath with ⟨-, hno, -⟩ | ⟨-, hreply, -⟩
    · exact absurd hpositive hno
    · cases hreply with
      | document => cases hx
      | refusedUrl =>
        obtain rfl := Except.error.inj hx
        exact .inr ⟨⟨owner, url, rfl⟩, rfl⟩
      | refusedStatus =>
        obtain rfl := Except.error.inj hx
        exact .inr ⟨⟨owner, url, rfl⟩, rfl⟩
      | failed failure =>
        obtain rfl := Except.error.inj hx
        exact .inr ⟨⟨owner, url, rfl⟩, rfl⟩
  | answered a => intro x hx; cases hx

theorem of_steps {α : Type} (owner : ℕ) (p : Verification α) :
    Only (fun c => ∃ step, c = HostCall.verifier owner step) (p.of owner) := by
  induction p with
  | ret a => trivial
  | raise e => trivial
  | call c next ih => exact ⟨⟨c, rfl⟩, fun ans => ih ans⟩

theorem of_atMost {α : Type} {owner n : ℕ} {p : Verification α}
    (h : AtMost VerifierCall.isFetch n p) : AtMost HostCall.isExchange n (p.of owner) := by
  intro es r hpath
  obtain ⟨steps, rfl, hpath'⟩ := of_path hpath
  rw [List.countP_map]
  refine le_trans (le_of_eq (List.countP_congr fun e _ => ?_)) (h steps r hpath')
  cases e with
  | mk c ans => cases c <;> exact Iff.rfl

theorem authorizationCode_clock (rp : OidcRelyingParty) (pending : PendingLogin)
    (callback : List (Str × Str)) :
    Only (· = HostCall.wallClock) (rp.authorizationCode pending callback) := by
  unfold OidcRelyingParty.authorizationCode
  refine Only.bind (only_done _) fun same => ?_
  dsimp only
  split
  · trivial
  · have hclock : Only (· = HostCall.wallClock) (OidcRelyingParty.isUnexpired pending) :=
      Only.bind (only_invoke rfl) fun now => Only.bind (only_done _) fun age => trivial
    refine Only.bind hclock fun unexpired => ?_
    split
    · trivial
    · exact only_done _

/-- A login goes over HTTPS twice at most: for its tokens and for a key set. -/
theorem identity_atMost : AtMost HostCall.isExchange 2 (rp.identity py pending query) := by
  have hdone {α : Type} (r : Except Exn α) :
      AtMost HostCall.isExchange 0 (liftM r : Task α) := atMost_of_only (only_done r)
  have hcode (callback : List (Str × Str)) :
      AtMost HostCall.isExchange 0 (rp.authorizationCode pending callback) :=
    atMost_of_only ((authorizationCode_clock rp pending callback).mono fun c hc => by rw [hc]; rfl)
  have htokens (code : Str) :
      AtMost HostCall.isExchange 1 (rp.exchangedTokens py pending code) := by
    have hpost : AtMost HostCall.isExchange 1
        (invoke (.postTokenRequest (rp.codeGrant pending code))) := atMost_perform _
    refine ((hpost.tryCatch fun e => ?_).bind_zero fun answer => hdone _).bind_zero
      fun document => ?_
    · cases e <;> exact atMost_of_only trivial
    · exact (hdone _).zero_bind fun _ => (hdone _).zero_bind fun _ => atMost_of_only trivial
  have hverified (idToken : Str) :
      AtMost HostCall.isExchange 1 (rp.verifiedIdToken py idToken) := by
    refine (of_atMost (verify_atMost py _ _ _)).bind_zero fun outcome => ?_
    cases outcome <;> exact atMost_of_only trivial
  refine (hdone _).zero_bind fun callback => (hcode callback).zero_bind fun code => ?_
  exact (htokens code).bind fun tokens => (hverified tokens.1).bind_zero fun idToken => hdone _

theorem authorizationCode_names {callback : List (Str × Str)} {code : Str}
    (h : Path (rp.authorizationCode pending callback) es (.ok code)) :
    callback.lookup (str "code") = some code := by
  unfold OidcRelyingParty.authorizationCode at h
  obtain ⟨es₁, es₂, same, rfl, -, hunexpired⟩ := path_bind_ok h
  dsimp only at hunexpired
  split at hunexpired
  · obtain ⟨_, _, _, -, hrefused, -⟩ := path_bind_ok hunexpired
    cases (path_done.1 hrefused).2
  obtain ⟨es₃, es₄, unexpired, rfl, -, hnamed⟩ := path_bind_ok hunexpired
  split at hnamed
  · obtain ⟨_, _, _, -, hrefused, -⟩ := path_bind_ok hnamed
    cases (path_done.1 hrefused).2
  exact namedCode_eq_ok (path_done.1 hnamed).2.symm

/-- What a login posts is the grant of the code its callback names. -/
theorem identity_posts {r : Except Exn OidcIdentity} (h : Path (rp.identity py pending query) es r)
    {request : TokenRequest} {answer : Except Exn TokenEndpointAnswer}
    (hposted : ⟨.postTokenRequest request, answer⟩ ∈ es) : ∃ callback code,
      callbackParameters query = .ok callback ∧ callback.lookup (str "code") = some code ∧
        request = rp.codeGrant pending code := by
  unfold OidcRelyingParty.identity at h
  obtain ⟨none, rest, parameters, rfl, hread, hcallback⟩ := path_andThen.1 h
  obtain ⟨rfl, rfl⟩ := path_done.1 hread
  cases hparameters : callbackParameters query with
  | error e =>
    rw [hparameters] at hcallback
    obtain ⟨rfl, -⟩ := hcallback
    cases hposted
  | ok callback =>
    rw [hparameters] at hcallback
    obtain ⟨clock, granted, code, rfl, hcode, hgranted⟩ := path_andThen.1 hcallback
    rcases List.mem_append.1 hposted with hposted | hposted
    · cases hposted
    rcases List.mem_append.1 hposted with hposted | hposted
    · have hclock := (authorizationCode_clock rp pending callback).path hcode _ hposted
      cases hclock
    cases code with
    | error e =>
      obtain ⟨rfl, -⟩ := hgranted
      cases hposted
    | ok code =>
      refine ⟨callback, code, rfl, authorizationCode_names hcode, Only.path (P := fun c =>
        ∀ request, c = HostCall.postTokenRequest request → request = rp.codeGrant pending code)
        (Only.bind (Only.bind ?_ fun document => ?_) fun tokens =>
          Only.bind ?_ fun _ => only_done _) hgranted _ hposted _ rfl⟩
      · refine Only.bind (Only.andThen ⟨?_, only_done⟩ (Only.onRaise fun e => ?_)) fun _ =>
          only_done _
        · rintro request ⟨⟩
          rfl
        · cases e <;> trivial
      · exact Only.bind (only_done _) fun _ => Only.bind (only_done _) fun _ => trivial
      · refine Only.bind ((of_steps _ _).mono fun c hc => ?_) fun outcome => ?_
        · rintro request rfl
          obtain ⟨step, hstep⟩ := hc
          cases hstep
        · cases outcome <;> trivial

/-- The form of a grant has an encoding when its parts have one, and a code that was read from a
query has. -/
theorem codeGrant_encodes {callback : List (Str × Str)} {code : Str}
    (hredirect : IsText rp.config.redirectUri) (hverifier : IsText pending.codeVerifier)
    (hread : callbackParameters query = .ok callback)
    (hcode : callback.lookup (str "code") = some code) :
    (urlencode (rp.codeGrant pending code).form).isSome := by
  obtain ⟨hquery, hparse, -⟩ := callbackParameters_eq_ok.1 hread
  obtain ⟨before, after, hsplit, -⟩ := List.lookup_eq_some_iff.1 hcode
  have htext : IsText code :=
    (isText_of_parseQsl (encode_isSome.1 hquery) hparse (str "code", code) (by simp [hsplit])).2
  have hform : ∀ pair ∈ (rp.codeGrant pending code).form, IsText pair.1 ∧ IsText pair.2 := by
    simp only [OidcRelyingParty.codeGrant, OidcRelyingParty.grantRequest, List.forall_mem_cons]
    exact ⟨⟨isText_of_isAscii (by decide), isText_of_isAscii (by decide)⟩,
      ⟨isText_of_isAscii (by decide), htext⟩, ⟨isText_of_isAscii (by decide), hredirect⟩,
      ⟨isText_of_isAscii (by decide), hverifier⟩, by simp⟩
  obtain ⟨form, hencoded⟩ := urlencode_of_isText hform
  rw [hencoded]
  rfl

end Login

theorem grantingHost_answers {α : Type} (p : Task α) : ∀ e ∈ (play grantingHost p ()).1,
    e.answer = (grantingHost () e.call).1 := by
  induction p with
  | ret a => simp [play]
  | raise e => simp [play]
  | call c next ih =>
    show ∀ e ∈ ⟨c, (grantingHost () c).1⟩ ::
      (play grantingHost (next (grantingHost () c).1) ()).1, _
    rw [List.forall_mem_cons]
    exact ⟨rfl, ih _⟩

theorem grantedLogin_path : Path (demoRelyingParty.completeLogin loginPlatform demoPending
    (str "state=s&code=c")) grantedLogin.1 grantedLogin.2 :=
  path_play (I := hostCalls) grantingHost _ ()

/-- The post of the granted login goes over HTTPS, and it fetches no key set. -/
theorem grantedLogin_overHttps : ∀ e ∈ grantedLogin.1, OverHttps demoUrllib3 e := by
  have hall : ∀ e ∈ grantedLogin.1, e.answer.toOption.isSome = true := by decide +kernel
  rintro ⟨c, answer⟩ he
  have hanswer : answer = (grantingHost () c).1 := grantingHost_answers _ _ he
  by_cases hpost : ∃ request, c = .postTokenRequest request
  · obtain ⟨request, rfl⟩ := hpost
    obtain ⟨r, hidentity, -⟩ := answered_path.1 grantedLogin_path
    obtain ⟨callback, code, hread, hcode, rfl⟩ := identity_posts hidentity he
    have hparameters : callbackParameters (str "state=s&code=c") =
        .ok [(str "state", str "s"), (str "code", str "c")] := by decide +kernel
    have hnamed : code = str "c" := by
      obtain rfl := Except.ok.inj (hparameters.symm.trans hread)
      exact (Option.some.inj hcode).symm
    rw [hanswer, hnamed]
    have hposted := OverHttps.posted playedPost_wire playedPost_path
    rw [playedPost_answers] at hposted
    exact hposted
  · cases answer with
    | error e => cases hall _ he
    | ok a =>
      refine .answered a (not_exists.1 hpost) ?_
      rintro owner url rfl
      cases hanswer

end WebAuth
