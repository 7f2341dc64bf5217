import WebAuth.HttpsClient

/-!
# The exchanges of the HTTPS client

Every run of an exchange is one request and what came of it: the response of that request is closed
once on every course, and its body is read, once, only for a status that is accepted.
-/

namespace WebAuth

open Python Effects Program

/-! ## The block -/

theorem ensuring_path {I : Interface} {ε α : Type} {block : Program I ε α}
    {cleanup : Program I ε Unit} {es : List (Event I ε)} {r : Except ε α}
    (h : Path (ensuring block cleanup) es r) :
    ∃ first last outcome cleaned, es = first ++ last ∧ Path block first outcome ∧
      Path cleanup last cleaned ∧ r = cleaned.bind fun _ => outcome := by
  obtain ⟨first, rest, outcome, rfl, hblock, hrest⟩ := path_andThen.1 h
  obtain ⟨last, none, cleaned, rfl, hcleanup, hnone⟩ := path_andThen.1 hrest
  refine ⟨first, last, outcome, cleaned, ?_, hblock, hcleanup, ?_⟩
  · cases cleaned with
    | error e => simp [hnone.1]
    | ok u => simp [(path_done.1 hnone).1]
  · cases cleaned with
    | error e => exact hnone.2
    | ok u => exact (path_done.1 hnone).2

/-- The courses of the `try` block of an exchange. -/
inductive BlockRun (urllib3 : Urllib3) (acceptsStatus : ℤ → Bool) (maxBodyBytes : ℕ)
    (request : HttpsRequest) : List ClientEvent → Except HttpsExn HttpsOutcome → Prop
  | noContext {context : List ClientEvent} {e : HttpsExn}
      (hcontext : Path urllib3.tlsContext context (.error e)) :
      BlockRun urllib3 acceptsStatus maxBodyBytes request context (.error e)
  | noResponse {context asked cleared : List ClientEvent} {e : HttpsExn}
      {clear : Except HttpsExn Unit} (hcontext : Path urllib3.tlsContext context (.ok ()))
      (hasked : Path (urllib3.request request) asked (.error e))
      (hclear : Path urllib3.clear cleared clear) :
      BlockRun urllib3 acceptsStatus maxBodyBytes request (context ++ (asked ++ cleared))
        (clear.bind fun _ => .error e)
  | refused {context asked closed cleared : List ClientEvent} {response : urllib3.Response}
      {close clear : Except HttpsExn Unit} (hcontext : Path urllib3.tlsContext context (.ok ()))
      (hasked : Path (urllib3.request request) asked (.ok response))
      (hstatus : acceptsStatus (urllib3.status response) = false)
      (hclose : Path (urllib3.close response) closed close)
      (hclear : Path urllib3.clear cleared clear) :
      BlockRun urllib3 acceptsStatus maxBodyBytes request
        (context ++ ((asked ++ closed) ++ cleared))
        (clear.bind fun _ => close.bind fun _ => .ok (.refusedStatus (urllib3.status response)))
  | accepted {context asked body closed cleared : List ClientEvent} {response : urllib3.Response}
      {read : Except HttpsExn Bytes} {close clear : Except HttpsExn Unit}
      (hcontext : Path urllib3.tlsContext context (.ok ()))
      (hasked : Path (urllib3.request request) asked (.ok response))
      (hstatus : acceptsStatus (urllib3.status response) = true)
      (hread : Path (urllib3.read response (maxBodyBytes + 1)) body read)
      (hclose : Path (urllib3.close response) closed close)
      (hclear : Path urllib3.clear cleared clear) :
      BlockRun urllib3 acceptsStatus maxBodyBytes request
        (context ++ ((asked ++ (body ++ closed)) ++ cleared))
        (clear.bind fun _ => close.bind fun _ =>
          read.map fun body => .answer (urllib3.status response) body)

section Block

variable {urllib3 : Urllib3} {acceptsStatus : ℤ → Bool} {maxBodyBytes : ℕ} {request : HttpsRequest}

theorem exchanged_path {es : List ClientEvent} {r : Except HttpsExn HttpsOutcome}
    (h : Path (urllib3.exchanged acceptsStatus maxBodyBytes request) es r) :
    BlockRun urllib3 acceptsStatus maxBodyBytes request es r := by
  obtain ⟨context, rest, made, rfl, hcontext, hrest⟩ := path_andThen.1 h
  cases made with
  | error e =>
    obtain ⟨rfl, rfl⟩ := hrest
    rw [List.append_nil]
    exact .noContext hcontext
  | ok u =>
    obtain ⟨used, cleared, outcome, clear, rfl, hused, hclear, rfl⟩ := ensuring_path hrest
    obtain ⟨asked, rest', response, rfl, hasked, hrest'⟩ := path_andThen.1 hused
    cases response with
    | error e =>
      obtain ⟨rfl, rfl⟩ := hrest'
      rw [List.append_nil]
      exact .noResponse hcontext hasked hclear
    | ok response =>
      obtain ⟨body, closed, answered, close, rfl, hbody, hclose, rfl⟩ := ensuring_path hrest'
      by_cases hstatus : acceptsStatus (urllib3.status response) = true
      · rw [if_pos hstatus] at hbody
        obtain ⟨read, none, got, rfl, hread, hnone⟩ := path_andThen.1 hbody
        have hgot : none = [] ∧
            answered = got.map fun body => .answer (urllib3.status response) body := by
          cases got with
          | error e => exact hnone
          | ok bytes => exact hnone
        obtain ⟨rfl, rfl⟩ := hgot
        rw [List.append_nil]
        exact .accepted hcontext hasked hstatus hread hclose hclear
      · rw [if_neg hstatus] at hbody
        obtain ⟨rfl, rfl⟩ := hbody
        exact .refused hcontext hasked (Bool.eq_false_iff.2 hstatus) hclose hclear

end Block

/-! ## The sockets -/

/-- An answer of the operating system: the clock answers, and an error is an `OSError`. -/
def WireAnswer (e : WireEvent) : Prop :=
  ∀ x, e.answer = .error x → e.call ≠ .monotonic ∧ x.isOsError = true

/-- An error a call of urllib3 may meet: an `OSError`, or the refusal of a negative timeout. -/
def SocketError (c : ClientCall) (x : HttpsExn) : Prop :=
  x.isOsError = true ∨ ∃ socket timeout, c = .settimeout socket (some timeout) ∧ timeout < 0

/-- An answer to urllib3. -/
def SocketAnswer (e : ClientEvent) : Prop := ∀ x, e.answer = .error x → SocketError e.call x

/-- What an event of the wire is to the clock. -/
def WireCall.tick : WireEvent → Tick
  | ⟨.monotonic, .ok t⟩ => .reading t
  | ⟨.monotonic, .error _⟩ => .other
  | ⟨.tls _ _ timeout, _⟩ => .step timeout
  | ⟨.outside _, _⟩ => .other

section Sockets

variable {deadline : Deadline} {timeouts : Timeouts}

theorem bound_path {timeout : Option ℚ} {es : List WireEvent} {r : Except HttpsExn ℚ}
    (h : Path (deadline.bound timeout) es r) :
    (∃ e, es = [⟨.monotonic, .error e⟩] ∧ r = .error e) ∨
      ∃ now, es = [⟨.monotonic, .ok now⟩] ∧
        ((deadline.expiresAt ≤ now ∧ r = .error .deadlinePassed) ∨
          (now < deadline.expiresAt ∧ ∃ left ≤ deadline.expiresAt - now, r = .ok left)) := by
  obtain ⟨reading, rest, rfl, h⟩ := h
  cases reading with
  | error e =>
    obtain ⟨rfl, rfl⟩ := h
    exact .inl ⟨e, rfl, rfl⟩
  | ok now =>
    right
    replace h : Path (if deadline.expiresAt - now ≤ 0 then raise .deadlinePassed
      else ret (timeout.elim (deadline.expiresAt - now) (min · (deadline.expiresAt - now))))
      rest r := h
    by_cases hleft : deadline.expiresAt - now ≤ 0
    · rw [if_pos hleft] at h
      obtain ⟨rfl, rfl⟩ := h
      exact ⟨now, rfl, .inl ⟨by linarith, rfl⟩⟩
    · rw [if_neg hleft] at h
      obtain ⟨rfl, rfl⟩ := h
      refine ⟨now, rfl, .inr ⟨by linarith, _, ?_, rfl⟩⟩
      cases timeout with
      | none => exact le_refl _
      | some timeout => exact min_le_right _ _

/-- What a socket makes of one call of urllib3: its steps are under the deadline, and what it
raises is an error of that call. -/
theorem socketsUnder_path {c : ClientCall} {es : List WireEvent}
    {r : Except HttpsExn (Except HttpsExn c.Answer × Timeouts)}
    (h : Path (socketsUnder deadline timeouts c) es r) :
    Stamped.UnderDeadline WireCall.tick deadline.expiresAt es ∧
      ((∀ e ∈ es, WireAnswer e) → ∀ x,
        (r = .error x ∨ ∃ after, r = .ok (.error x, after)) → SocketError c x) := by
  cases c with
  | gettimeout socket =>
    obtain ⟨rfl, rfl⟩ := h
    exact ⟨.nil, by simp⟩
  | settimeout socket timeout =>
    change Path (if timeout.any (· < 0) then
        ret (.error (.valueError "Timeout value out of range" []), timeouts)
      else ret (.ok (), Function.update timeouts socket timeout)) es r at h
    by_cases hnegative : timeout.any (· < 0) = true
    · rw [if_pos hnegative] at h
      obtain ⟨rfl, rfl⟩ := h
      refine ⟨.nil, fun _ x _ => .inr ?_⟩
      obtain ⟨t, rfl, ht⟩ := (Option.any_eq_true _ _).1 hnegative
      exact ⟨socket, t, rfl, of_decide_eq_true ht⟩
    · rw [if_neg hnegative] at h
      obtain ⟨rfl, rfl⟩ := h
      exact ⟨.nil, by simp⟩
  | outside tag =>
    obtain ⟨ans, rest, rfl, rfl, rfl⟩ := h
    refine ⟨.free (by simp [WireCall.tick]) .nil, fun hwire x hx => .inl ?_⟩
    rcases hx with hx | ⟨after, hx⟩
    · cases hx
    · obtain ⟨rfl, -⟩ := Prod.mk.inj (Except.ok.inj hx)
      exact (hwire _ List.mem_cons_self x rfl).2
  | tls socket step =>
    obtain ⟨asked, rest, bounded, rfl, hbound, hrest⟩ := path_andThen.1 h
    obtain ⟨e, rfl, rfl⟩ | ⟨now, rfl, hnow⟩ := bound_path hbound
    · obtain ⟨rfl, rfl⟩ := hrest
      refine ⟨.free (by simp [WireCall.tick]) .nil, fun hwire => ?_⟩
      exact absurd rfl (hwire _ List.mem_cons_self e rfl).1
    obtain ⟨-, rfl⟩ | ⟨hshort, left, hleft, rfl⟩ := hnow
    · obtain ⟨rfl, rfl⟩ := hrest
      refine ⟨.free (by simp [WireCall.tick]) .nil, fun _ x hx => .inl ?_⟩
      rcases hx with hx | ⟨after, hx⟩
      · rw [← Except.error.inj hx]
        rfl
      · cases hx
    · obtain ⟨ans, rest', rfl, rfl, rfl⟩ := hrest
      refine ⟨.bounded rfl hshort rfl hleft .nil, fun hwire x hx => .inl ?_⟩
      rcases hx with hx | ⟨after, hx⟩
      · cases hx
      · obtain ⟨rfl, -⟩ := Prod.mk.inj (Except.ok.inj hx)
        exact (hwire _ (List.mem_append_right _ List.mem_cons_self) x rfl).2

/-- The sockets keep all the steps of urllib3 under the deadline, and answer each of its calls. -/
theorem serves_sockets {own : List ClientEvent} {steps : List WireEvent} {last : Timeouts}
    (h : Serves (socketsUnder deadline) timeouts own steps last) :
    Stamped.UnderDeadline WireCall.tick deadline.expiresAt steps ∧
      ((∀ e ∈ steps, WireAnswer e) → ∀ e ∈ own, SocketAnswer e) := by
  induction h with
  | nil => exact ⟨.nil, by simp⟩
  | answered hstep _ ih =>
    obtain ⟨hunder, hanswer⟩ := socketsUnder_path hstep
    refine ⟨hunder.append ih.1, fun hwire => ?_⟩
    rw [List.forall_mem_append] at hwire
    rw [List.forall_mem_cons]
    refine ⟨?_, ih.2 hwire.2⟩
    intro x hx
    exact hanswer hwire.1 x (.inr ⟨_, congrArg (fun ans => Except.ok (ans, _)) hx⟩)
  | raised hstep _ ih =>
    obtain ⟨hunder, hanswer⟩ := socketsUnder_path hstep
    refine ⟨hunder.append ih.1, fun hwire => ?_⟩
    rw [List.forall_mem_append] at hwire
    rw [List.forall_mem_cons]
    refine ⟨?_, ih.2 hwire.2⟩
    rintro x hx
    exact hanswer hwire.1 x (.inl (congrArg Except.error (Except.error.inj hx)))

end Sockets

/-! ## The exchange -/

/-- The courses of an exchange under positive timeouts: the clock is read, the block runs on the
sockets under the deadline, and after an error it knows the clock is read again. -/
inductive ExchangeRun (urllib3 : Urllib3) (acceptsStatus : ℤ → Bool) (maxBodyBytes : ℕ)
    (deadlineSeconds : ℚ) (request : HttpsRequest) :
    List WireEvent → Except HttpsExn HttpsOutcome → Prop
  | noClock {e : HttpsExn} :
      ExchangeRun urllib3 acceptsStatus maxBodyBytes deadlineSeconds request
        [⟨.monotonic, .error e⟩] (.error e)
  | answered {now : ℚ} {own : List ClientEvent} {steps : List WireEvent} {last : Timeouts}
      {answer : HttpsOutcome}
      (hblock : BlockRun urllib3 acceptsStatus maxBodyBytes request own (.ok answer))
      (hserves : Serves (socketsUnder ⟨now + deadlineSeconds⟩) (fun _ => none) own steps last) :
      ExchangeRun urllib3 acceptsStatus maxBodyBytes deadlineSeconds request
        (⟨.monotonic, .ok now⟩ :: steps) (.ok answer)
  | unknown {now : ℚ} {own : List ClientEvent} {steps : List WireEvent} {last : Timeouts}
      {e : HttpsExn} (hblock : BlockRun urllib3 acceptsStatus maxBodyBytes request own (.error e))
      (hserves : Serves (socketsUnder ⟨now + deadlineSeconds⟩) (fun _ => none) own steps last)
      (hfailure : e.failure = none) :
      ExchangeRun urllib3 acceptsStatus maxBodyBytes deadlineSeconds request
        (⟨.monotonic, .ok now⟩ :: steps) (.error e)
  | failed {now : ℚ} {own : List ClientEvent} {steps : List WireEvent} {last : Timeouts}
      {e : HttpsExn} {failure : ExchangeFailure} {later : Except HttpsExn ℚ}
      (hblock : BlockRun urllib3 acceptsStatus maxBodyBytes request own (.error e))
      (hserves : Serves (socketsUnder ⟨now + deadlineSeconds⟩) (fun _ => none) own steps last)
      (hfailure : e.failure = some failure) :
      ExchangeRun urllib3 acceptsStatus maxBodyBytes deadlineSeconds request
        (⟨.monotonic, .ok now⟩ :: (steps ++ [⟨.monotonic, later⟩]))
        (later.bind fun t => .error (.httpsExchangeError
          (if now + deadlineSeconds ≤ t then .timedOut else failure)))

section Exchange

variable {urllib3 : Urllib3} {method url : Str} {acceptsStatus : ℤ → Bool}
  {timeoutSeconds deadlineSeconds : ℚ} {maxBodyBytes : ℕ} {headers : Option (List (Str × Str))}
  {body : Option Str} {es : List WireEvent} {r : Except HttpsExn HttpsOutcome}

/-- The request of an exchange: its timeout, no retry, no redirect followed, nothing decoded. -/
def requestOf (method url : Str) (headers : Option (List (Str × Str))) (body : Option Str)
    (timeoutSeconds : ℚ) : HttpsRequest :=
  ⟨method, url, headers, body, timeoutSeconds, false, false, false, false⟩

theorem fail_path {deadline : Deadline} {failure : ExchangeFailure}
    (h : Path (deadline.fail failure) es r) :
    ∃ later, es = [⟨.monotonic, later⟩] ∧ r = later.bind fun t =>
      .error (.httpsExchangeError (if deadline.expiresAt ≤ t then .timedOut else failure)) := by
  obtain ⟨later, rest, rfl, hlater⟩ := h
  cases later with
  | error e =>
    obtain ⟨rfl, rfl⟩ := hlater
    exact ⟨_, rfl, rfl⟩
  | ok t =>
    obtain ⟨rfl, rfl⟩ := hlater
    refine ⟨_, rfl, ?_⟩
    simp only [decide_eq_true_eq]
    rfl

theorem exchange_path (htimeout : 0 < timeoutSeconds) (hdeadline : 0 < deadlineSeconds)
    (h : Path (exchange urllib3 method url acceptsStatus timeoutSeconds deadlineSeconds maxBodyBytes
      headers body) es r) :
    ExchangeRun urllib3 acceptsStatus maxBodyBytes deadlineSeconds
      (requestOf method url headers body timeoutSeconds) es r := by
  unfold exchange at h
  rw [if_neg (not_le.2 htimeout), if_neg (not_le.2 hdeadline)] at h
  obtain ⟨asked, rest, deadline, rfl, hafter, hrest⟩ := path_andThen.1 h
  obtain ⟨reading, none, rfl, hafter⟩ := hafter
  cases reading with
  | error e =>
    obtain ⟨rfl, rfl⟩ := hafter
    obtain ⟨rfl, rfl⟩ := hrest
    exact .noClock
  | ok now =>
    obtain ⟨rfl, rfl⟩ := hafter
    obtain ⟨steps, rest', outcome, rfl, hserved, hrest'⟩ := path_andThen.1 hrest
    obtain ⟨own, r', last, rfl, hown, hserves⟩ := path_served hserved
    have hblock := exchanged_path hown
    cases r' with
    | ok answer =>
      obtain ⟨rfl, rfl⟩ := hrest'
      rw [List.append_nil]
      exact .answered hblock hserves
    | error e =>
      cases hfailure : e.failure with
      | none =>
        have hraised : Path (e.failure.elim (raise e) (Deadline.fail ⟨now + deadlineSeconds⟩))
            rest' r := hrest'
        rw [hfailure] at hraised
        obtain ⟨rfl, rfl⟩ := hraised
        rw [List.append_nil]
        exact .unknown hblock hserves hfailure
      | some failure =>
        have hfail : Path (e.failure.elim (raise e) (Deadline.fail ⟨now + deadlineSeconds⟩))
            rest' r := hrest'
        rw [hfailure] at hfail
        obtain ⟨later, rfl, rfl⟩ := fail_path hfail
        exact .failed hblock hserves hfailure

theorem exchange_misused (h : Path (exchange urllib3 method url acceptsStatus timeoutSeconds
      deadlineSeconds maxBodyBytes headers body) es r)
    (hmisused : ¬(0 < timeoutSeconds ∧ 0 < deadlineSeconds)) :
    es = [] ∧ ∃ message values, r = .error (.valueError message values) := by
  unfold exchange at h
  by_cases htimeout : timeoutSeconds ≤ 0
  · rw [if_pos htimeout] at h
    exact ⟨h.1, _, _, h.2⟩
  · rw [if_neg htimeout] at h
    have hdeadline : deadlineSeconds ≤ 0 := by
      by_contra hpos
      exact hmisused ⟨not_le.1 htimeout, not_le.1 hpos⟩
    rw [if_pos hdeadline] at h
    exact ⟨h.1, _, _, h.2⟩

end Exchange

/-! ## What urllib3 promises -/

/-- An error that an exchange knows. -/
def IsKnown (e : HttpsExn) : Prop := e.failure ≠ none

/-- The text is printable ASCII. -/
def IsPrintable (value : Str) : Prop := ∀ c ∈ value, 0x20 ≤ c.val ∧ c.val ≤ 0x7e

theorem isPrintable_of_all {value : Str}
    (h : (value.all fun c => 0x20 ≤ c.val && c.val ≤ 0x7e) = true) : IsPrintable value := by
  intro c hc
  simpa using List.all_eq_true.1 h c hc

/-- The whole seconds a socket waits at most: their milliseconds are an `int` of `poll`. -/
def maxTimeoutSeconds : ℚ := 2147483

/-- A request that can be written down: header values a line holds, and a timeout a socket takes. -/
structure HttpsRequest.IsSendable (request : HttpsRequest) : Prop where
  headers : ∀ headers, request.headers = some headers → ∀ header ∈ headers, IsPrintable header.2
  timeout : request.timeout ≤ maxTimeoutSeconds

/-- urllib3 as it is documented: what fails in it fails as one of its own errors or as an `OSError`,
and a read answers no more bytes than it was asked for. -/
structure Urllib3.Documented (urllib3 : Urllib3) : Prop where
  tlsContext : RaisesOnly SocketAnswer IsKnown urllib3.tlsContext
  request : ∀ request : HttpsRequest, request.IsSendable →
    RaisesOnly SocketAnswer IsKnown (urllib3.request request)
  read : ∀ response n, RaisesOnly SocketAnswer IsKnown (urllib3.read response n)
  close : ∀ response, RaisesOnly SocketAnswer IsKnown (urllib3.close response)
  clear : RaisesOnly SocketAnswer IsKnown urllib3.clear
  length : ∀ response n es body, Path (urllib3.read response n) es (.ok body) → body.length ≤ n

section Documented

variable {urllib3 : Urllib3} {acceptsStatus : ℤ → Bool} {maxBodyBytes : ℕ} {request : HttpsRequest}
  {es : List ClientEvent} {status : ℤ} {body : Bytes}

theorem BlockRun.answer (hurllib3 : urllib3.Documented)
    (h : BlockRun urllib3 acceptsStatus maxBodyBytes request es (.ok (.answer status body))) :
    acceptsStatus status = true ∧ body.length ≤ maxBodyBytes + 1 := by
  generalize hr : (Except.ok (.answer status body) : Except HttpsExn HttpsOutcome) = r at h
  cases h with
  | noContext => cases hr
  | @noResponse _ _ _ _ clear => cases clear <;> cases hr
  | @refused _ _ _ _ _ close clear => cases clear <;> cases close <;> cases hr
  | @accepted _ _ _ _ _ _ read close clear hcontext hasked hstatus hread =>
    cases clear with
    | error e => cases hr
    | ok u =>
      cases close with
      | error e => cases hr
      | ok u =>
        cases read with
        | error e => cases hr
        | ok bytes =>
          cases hr
          exact ⟨hstatus, hurllib3.length _ _ _ _ hread⟩

theorem BlockRun.refusedStatus
    (h : BlockRun urllib3 acceptsStatus maxBodyBytes request es (.ok (.refusedStatus status))) :
    acceptsStatus status = false := by
  generalize hr : (Except.ok (.refusedStatus status) : Except HttpsExn HttpsOutcome) = r at h
  cases h with
  | noContext => cases hr
  | @noResponse _ _ _ _ clear => cases clear <;> cases hr
  | @refused _ _ _ _ _ close clear hcontext hasked hstatus =>
    cases clear with
    | error e => cases hr
    | ok u =>
      cases close with
      | error e => cases hr
      | ok u =>
        cases hr
        exact hstatus
  | @accepted _ _ _ _ _ _ read close clear =>
    cases clear <;> cases close <;> cases read <;> cases hr

theorem BlockRun.known {e : HttpsExn} (hurllib3 : urllib3.Documented) (hsent : request.IsSendable)
    (h : BlockRun urllib3 acceptsStatus maxBodyBytes request es (.error e))
    (hes : ∀ e ∈ es, SocketAnswer e) : IsKnown e := by
  generalize hr : (Except.error e : Except HttpsExn HttpsOutcome) = r at h
  cases h with
  | noContext hcontext =>
    cases hr
    exact hurllib3.tlsContext.path hcontext hes _ rfl
  | @noResponse _ _ _ _ clear hcontext hasked hclear =>
    simp only [List.forall_mem_append] at hes
    cases clear with
    | error e' =>
      cases hr
      exact hurllib3.clear.path hclear hes.2.2 _ rfl
    | ok u =>
      cases hr
      exact (hurllib3.request _ hsent).path hasked hes.2.1 _ rfl
  | @refused _ _ _ _ _ close clear hcontext hasked hstatus hclose hclear =>
    simp only [List.forall_mem_append] at hes
    cases clear with
    | error e' =>
      cases hr
      exact hurllib3.clear.path hclear hes.2.2 _ rfl
    | ok u =>
      cases close with
      | error e' =>
        cases hr
        exact (hurllib3.close _).path hclose hes.2.1.2 _ rfl
      | ok u => cases hr
  | @accepted _ _ _ _ _ _ read close clear hcontext hasked hstatus hread hclose hclear =>
    simp only [List.forall_mem_append] at hes
    cases clear with
    | error e' =>
      cases hr
      exact hurllib3.clear.path hclear hes.2.2 _ rfl
    | ok u =>
      cases close with
      | error e' =>
        cases hr
        exact (hurllib3.close _).path hclose hes.2.1.2.2 _ rfl
      | ok u =>
        cases read with
        | error e' =>
          cases hr
          exact (hurllib3.read _ _).path hread hes.2.1.2.1 _ rfl
        | ok bytes => cases hr

end Documented

/-! ## The transports -/

/-- What an exchange with a documented urllib3 comes to. -/
inductive ExchangeOutcome (acceptsStatus : ℤ → Bool) (maxBodyBytes : ℕ) :
    Except HttpsExn HttpsOutcome → Prop
  | answer {status : ℤ} {body : Bytes} (hstatus : acceptsStatus status = true)
      (hlength : body.length ≤ maxBodyBytes + 1) :
      ExchangeOutcome acceptsStatus maxBodyBytes (.ok (.answer status body))
  | refusedStatus {status : ℤ} (hstatus : acceptsStatus status = false) :
      ExchangeOutcome acceptsStatus maxBodyBytes (.ok (.refusedStatus status))
  | failed (failure : ExchangeFailure) :
      ExchangeOutcome acceptsStatus maxBodyBytes (.error (.httpsExchangeError failure))

section Transports

variable {urllib3 : Urllib3} {acceptsStatus : ℤ → Bool} {timeoutSeconds deadlineSeconds : ℚ}
  {maxBodyBytes : ℕ} {es : List WireEvent}

theorem ExchangeRun.outcome {request : HttpsRequest} {r : Except HttpsExn HttpsOutcome}
    (hurllib3 : urllib3.Documented) (hsent : request.IsSendable) (hwire : ∀ e ∈ es, WireAnswer e)
    (h : ExchangeRun urllib3 acceptsStatus maxBodyBytes deadlineSeconds request es r) :
    ExchangeOutcome acceptsStatus maxBodyBytes r := by
  cases h with
  | @noClock e => exact absurd rfl (hwire _ List.mem_cons_self e rfl).1
  | @answered _ _ _ _ answer hblock _ =>
    cases answer with
    | answer status body =>
      obtain ⟨hstatus, hlength⟩ := hblock.answer hurllib3
      exact .answer hstatus hlength
    | refusedStatus status => exact .refusedStatus hblock.refusedStatus
  | unknown hblock hserves hfailure =>
    rw [List.forall_mem_cons] at hwire
    exact absurd hfailure (hblock.known hurllib3 hsent ((serves_sockets hserves).2 hwire.2))
  | @failed _ _ _ _ _ _ later hblock hserves hfailure =>
    cases later with
    | error e =>
      have hlater := hwire ⟨.monotonic, .error e⟩ (by simp) e rfl
      exact absurd rfl hlater.1
    | ok t => exact .failed _

/-- The error of a failed token request: the words of the failure, and nothing of the request. -/
def tokenRequestFailed (failure : ExchangeFailure) : HttpsExn :=
  .tokenEndpointError (str "the token request failed: " ++ failure.value) failure

/-- The arguments a token request is made with: positive timeouts in their order, and a form that
has an encoding. A URL that is refused needs none but the order. -/
def IsUsable (request : TokenRequest) (timeoutSeconds deadlineSeconds : ℚ) : Prop :=
  ¬(deadlineSeconds < timeoutSeconds ∧ 0 < deadlineSeconds) ∧
    (isHttpsUrl request.url = true →
      (urlencode request.form).isSome ∧ 0 < timeoutSeconds ∧ 0 < deadlineSeconds)

/-- `isinstance(error, ValueError)`. -/
def HttpsExn.isValueError : HttpsExn → Bool
  | valueError _ _ => true
  | unicodeEncodeError => true
  | _ => false

/-- What a token request comes to: an answer of the endpoint that is no redirect and within its size
limit, or a failure in the library's words. -/
inductive TokenReply : Except HttpsExn TokenEndpointAnswer → Prop
  | answer {status : ℤ} {body : Bytes} (hstatus : ¬(300 ≤ status ∧ status < 400))
      (hlength : body.length ≤ maxTokenResponseBytes) : TokenReply (.ok ⟨status, body⟩)
  | failed (failure : ExchangeFailure) : TokenReply (.error (tokenRequestFailed failure))

/-- The one exchange of a token request, or none. -/
def TokenExchange (urllib3 : Urllib3) (request : TokenRequest) (timeoutSeconds deadlineSeconds : ℚ)
    (es : List WireEvent) : Prop :=
  (isHttpsUrl request.url = false ∧ es = []) ∨
    (isHttpsUrl request.url = true ∧ ∃ body outcome, urlencode request.form = some body ∧
      ExchangeRun urllib3 isFormAnswerStatus maxTokenResponseBytes deadlineSeconds
        (requestOf (str "POST") request.url (some [(str "Authorization", request.authorization),
          (str "Accept", str "application/json"),
          (str "Content-Type", str "application/x-www-form-urlencoded")]) (some body)
          timeoutSeconds) es outcome)

/-- A form POST is refused before it is sent, or is one exchange. -/
inductive FormRun (urllib3 : Urllib3) (url : Str) (form : List (Str × Str)) (authorization : Str)
    (maxBodyBytes : ℕ) (timeoutSeconds deadlineSeconds : ℚ) :
    List WireEvent → Except HttpsExn (ℤ × Bytes) → Prop
  | refusedUrl (hurl : isHttpsUrl url = false) :
      FormRun urllib3 url form authorization maxBodyBytes timeoutSeconds deadlineSeconds []
        (.error (.httpsExchangeError .notAnHttpsUrl))
  | notEncoded (hurl : isHttpsUrl url = true) (hform : urlencode form = none) :
      FormRun urllib3 url form authorization maxBodyBytes timeoutSeconds deadlineSeconds []
        (.error .unicodeEncodeError)
  | misused {message : String} {values : List ℚ} (hurl : isHttpsUrl url = true)
      (hmisused : ¬(0 < timeoutSeconds ∧ 0 < deadlineSeconds)) :
      FormRun urllib3 url form authorization maxBodyBytes timeoutSeconds deadlineSeconds []
        (.error (.valueError message values))
  | exchanged {body : Str} {es : List WireEvent} {outcome : Except HttpsExn HttpsOutcome}
      (hurl : isHttpsUrl url = true) (hform : urlencode form = some body)
      (htimeout : 0 < timeoutSeconds) (hdeadline : 0 < deadlineSeconds)
      (hexchange : ExchangeRun urllib3 isFormAnswerStatus maxBodyBytes deadlineSeconds
        (requestOf (str "POST") url (some [(str "Authorization", authorization),
          (str "Accept", str "application/json"),
          (str "Content-Type", str "application/x-www-form-urlencoded")]) (some body)
          timeoutSeconds) es outcome) :
      FormRun urllib3 url form authorization maxBodyBytes timeoutSeconds deadlineSeconds es
        (outcome.bind (formAnswer maxBodyBytes))

theorem postForm_path {url : Str} {form : List (Str × Str)} {authorization : Str}
    {r : Except HttpsExn (ℤ × Bytes)}
    (h : Path (postFormOverHttps urllib3 url form authorization maxBodyBytes timeoutSeconds
      deadlineSeconds) es r) :
    FormRun urllib3 url form authorization maxBodyBytes timeoutSeconds deadlineSeconds es r := by
  unfold postFormOverHttps at h
  cases hurl : isHttpsUrl url with
  | false =>
    rw [hurl] at h
    obtain ⟨rfl, rfl⟩ := h
    exact .refusedUrl hurl
  | true =>
    rw [hurl] at h
    cases hform : urlencode form with
    | none =>
      rw [hform] at h
      obtain ⟨rfl, rfl⟩ := h
      exact .notEncoded hurl hform
    | some body =>
      rw [hform] at h
      obtain ⟨first, rest, outcome, rfl, hexchange, hrest⟩ := path_andThen.1 h
      by_cases hused : 0 < timeoutSeconds ∧ 0 < deadlineSeconds
      · have hrun := exchange_path hused.1 hused.2 hexchange
        have hreply : rest = [] ∧ r = outcome.bind (formAnswer maxBodyBytes) := by
          cases outcome with
          | error e => exact hrest
          | ok answer => exact path_done.1 hrest
        obtain ⟨rfl, rfl⟩ := hreply
        rw [List.append_nil]
        exact .exchanged hurl hform hused.1 hused.2 hrun
      · obtain ⟨rfl, message, values, rfl⟩ := exchange_misused hexchange hused
        obtain ⟨rfl, rfl⟩ := hrest
        exact .misused hurl hused

theorem postTokenRequest_path {request : TokenRequest} {r : Except HttpsExn TokenEndpointAnswer}
    (hurllib3 : urllib3.Documented) (hlimit : timeoutSeconds ≤ maxTimeoutSeconds)
    (hprintable : IsPrintable request.authorization) (hwire : ∀ e ∈ es, WireAnswer e)
    (h : Path (postTokenRequestOverHttps urllib3 request timeoutSeconds deadlineSeconds) es r) :
    (¬IsUsable request timeoutSeconds deadlineSeconds ∧ es = [] ∧
      ∃ e, r = .error e ∧ e.isValueError = true) ∨
    (IsUsable request timeoutSeconds deadlineSeconds ∧ TokenReply r ∧
      TokenExchange urllib3 request timeoutSeconds deadlineSeconds es) := by
  unfold postTokenRequestOverHttps at h
  by_cases horder : deadlineSeconds < timeoutSeconds ∧ 0 < deadlineSeconds
  · rw [if_pos horder] at h
    obtain ⟨rfl, rfl⟩ := h
    exact .inl ⟨fun husable => husable.1 horder, rfl, _, rfl, rfl⟩
  rw [if_neg horder] at h
  obtain ⟨first, rest, reply, rfl, hpost, hrest⟩ := path_andThen.1 h
  cases postForm_path hpost with
  | refusedUrl hurl =>
    obtain ⟨rfl, rfl⟩ := hrest
    refine .inr ⟨⟨horder, fun hurl' => ?_⟩, .failed _, .inl ⟨hurl, rfl⟩⟩
    rw [hurl] at hurl'
    cases hurl'
  | notEncoded hurl hform =>
    obtain ⟨rfl, rfl⟩ := hrest
    refine .inl ⟨fun husable => ?_, rfl, _, rfl, rfl⟩
    have hsome := (husable.2 hurl).1
    rw [hform] at hsome
    cases hsome
  | misused hurl hmisused =>
    obtain ⟨rfl, rfl⟩ := hrest
    exact .inl ⟨fun husable => hmisused (husable.2 hurl).2, rfl, _, rfl, rfl⟩
  | @exchanged body _ outcome hurl hform htimeout hdeadline hexchange =>
    refine .inr ⟨⟨horder, fun _ => ⟨by simp [hform], htimeout, hdeadline⟩⟩, ?_⟩
    have hwire' : ∀ e ∈ first, WireAnswer e := fun e he => hwire e (List.mem_append_left _ he)
    have hsent : (requestOf (str "POST") request.url
        (some [(str "Authorization", request.authorization),
          (str "Accept", str "application/json"),
          (str "Content-Type", str "application/x-www-form-urlencoded")]) (some body)
        timeoutSeconds).IsSendable := by
      refine ⟨fun headers heq => ?_, hlimit⟩
      obtain rfl := Option.some.inj heq
      simp only [List.forall_mem_cons]
      exact ⟨hprintable, isPrintable_of_all (by decide), isPrintable_of_all (by decide), by simp⟩
    have hreply : rest = [] ∧ TokenReply r := by
      cases hexchange.outcome hurllib3 hsent hwire' with
      | @answer status body hstatus hlength =>
        have hpassed : ¬(300 ≤ status ∧ status < 400) := by
          rintro ⟨hlow, hhigh⟩
          rw [isFormAnswerStatus, decide_eq_true hlow, decide_eq_true hhigh] at hstatus
          cases hstatus
        by_cases hlarge : maxTokenResponseBytes < body.length
        · rw [show (Except.ok (.answer status body)).bind (formAnswer maxTokenResponseBytes) =
            .error (.httpsExchangeError .tooLarge) from if_pos hlarge] at hrest
          obtain ⟨rfl, rfl⟩ := hrest
          exact ⟨rfl, .failed _⟩
        · rw [show (Except.ok (.answer status body)).bind (formAnswer maxTokenResponseBytes) =
            .ok (status, body) from if_neg hlarge] at hrest
          obtain ⟨rfl, rfl⟩ := hrest
          exact ⟨rfl, .answer hpassed (not_lt.1 hlarge)⟩
      | refusedStatus hstatus =>
        obtain ⟨rfl, rfl⟩ := hrest
        exact ⟨rfl, .failed _⟩
      | failed failure =>
        obtain ⟨rfl, rfl⟩ := hrest
        exact ⟨rfl, .failed failure⟩
    obtain ⟨rfl, hreply⟩ := hreply
    rw [List.append_nil]
    exact ⟨hreply, .inr ⟨hurl, body, outcome, hform, hexchange⟩⟩

/-- What a key-set fetch comes to: the body of a 200, at most one byte too long, or a failure in the
library's words, which name at most the status. -/
inductive KeySetReply : Except HttpsExn Bytes → Prop
  | document {body : Bytes} (hlength : body.length ≤ maxKeySetBytes + 1) : KeySetReply (.ok body)
  | refusedUrl : KeySetReply (.error keySetUrlRefused)
  | refusedStatus {status : ℤ} (hstatus : status ≠ 200) :
      KeySetReply (.error (keySetStatusRefused status))
  | failed (failure : ExchangeFailure) : KeySetReply (.error (fetchFailed failure))

/-- The one exchange of a key-set fetch, or none. -/
def KeySetExchange (urllib3 : Urllib3) (url : Str) (timeoutSeconds deadlineSeconds : ℚ)
    (es : List WireEvent) : Prop :=
  (isHttpsUrl url = false ∧ es = []) ∨
    (isHttpsUrl url = true ∧ ∃ outcome, ExchangeRun urllib3 isKeySetStatus maxKeySetBytes
      deadlineSeconds (requestOf (str "GET") url none none timeoutSeconds) es outcome)

theorem fetchKeySet_path {url : Str} {r : Except HttpsExn Bytes} (hurllib3 : urllib3.Documented)
    (hlimit : timeoutSeconds ≤ maxTimeoutSeconds) (hwire : ∀ e ∈ es, WireAnswer e)
    (h : Path (fetchKeySetOverHttps urllib3 url timeoutSeconds deadlineSeconds) es r) :
    (isHttpsUrl url = true ∧ ¬(0 < timeoutSeconds ∧ 0 < deadlineSeconds) ∧ es = [] ∧
      ∃ e, r = .error e ∧ e.isValueError = true) ∨
    ((isHttpsUrl url = true → 0 < timeoutSeconds ∧ 0 < deadlineSeconds) ∧ KeySetReply r ∧
      KeySetExchange urllib3 url timeoutSeconds deadlineSeconds es) := by
  unfold fetchKeySetOverHttps at h
  cases hurl : isHttpsUrl url with
  | false =>
    rw [hurl] at h
    obtain ⟨rfl, rfl⟩ := h
    exact .inr ⟨nofun, .refusedUrl, .inl ⟨hurl, rfl⟩⟩
  | true =>
    rw [hurl] at h
    obtain ⟨first, rest, outcome, rfl, hexchange, hrest⟩ := path_andThen.1 h
    by_cases hused : 0 < timeoutSeconds ∧ 0 < deadlineSeconds
    · have hrun := exchange_path hused.1 hused.2 hexchange
      have hwire' : ∀ e ∈ first, WireAnswer e := fun e he => hwire e (List.mem_append_left _ he)
      have hreply : rest = [] ∧ KeySetReply r := by
        cases hrun.outcome hurllib3 ⟨by simp [requestOf], hlimit⟩ hwire' with
        | answer hstatus hlength =>
          obtain ⟨rfl, rfl⟩ := hrest
          exact ⟨rfl, .document hlength⟩
        | refusedStatus hstatus =>
          obtain ⟨rfl, rfl⟩ := hrest
          exact ⟨rfl, .refusedStatus (of_decide_eq_false hstatus)⟩
        | failed failure =>
          obtain ⟨rfl, rfl⟩ := hrest
          exact ⟨rfl, .failed failure⟩
      obtain ⟨rfl, hreply⟩ := hreply
      rw [List.append_nil]
      exact .inr ⟨fun _ => hused, hreply, .inr ⟨hurl, outcome, hrun⟩⟩
    · obtain ⟨rfl, message, values, rfl⟩ := exchange_misused hexchange hused
      obtain ⟨rfl, rfl⟩ := hrest
      exact .inl ⟨rfl, hused, rfl, _, rfl, rfl⟩

end Transports

/-! ## A small urllib3 -/

/-- Whatever fails in it is a protocol error. -/
def orProtocolError {α : Type} (p : Client α) : Client α := tryCatch p fun _ => throw .httpError

/-- The status in the first line of an answer. -/
def statusOf (head : Bytes) : ℤ :=
  ((head.drop 9).take 3).foldl (fun n b => 10 * n + (b.toNat - 48)) 0

/-- A urllib3 with one connection: it connects, shakes hands, sends the request and reads the first
line of the answer at once. -/
def demoUrllib3 : Urllib3 where
  Response := ℤ
  status := id
  tlsContext := ret ()
  request request := orProtocolError do
    perform (I := clientCalls) (.outside 0)
    perform (I := clientCalls) (.settimeout 0 (some request.timeout))
    perform (I := clientCalls) (.tls 0 (.doHandshake false))
    let _ ← perform (I := clientCalls) (.tls 0 (.send (encodeLatin1 (request.method ++ str " " ++
      request.url ++ str " HTTP/1.1\r\n\r\n" ++ request.body.getD []))))
    let head ← perform (I := clientCalls) (.tls 0 (.read 1024))
    return statusOf head
  read _ n := orProtocolError do
    let body ← perform (I := clientCalls) (.tls 0 (.read n))
    return body.take n
  close _ := ret ()
  clear := ret ()

theorem orProtocolError_raises {α : Type} (p : Client α) :
    RaisesOnly SocketAnswer IsKnown (orProtocolError p) := by
  have hany : RaisesOnly SocketAnswer (fun _ => True) p := by
    induction p with
    | ret a => trivial
    | raise e => trivial
    | call c next ih => exact fun ans _ => ih ans
  exact hany.tryCatch fun e _ => by simp [RaisesOnly, IsKnown, HttpsExn.failure]

theorem demoUrllib3_documented : demoUrllib3.Documented where
  tlsContext := trivial
  request _ _ := orProtocolError_raises _
  read _ _ := orProtocolError_raises _
  close _ := trivial
  clear := trivial
  length response n es body h := by
    obtain ⟨first, rest, r, rfl, hread, hcaught⟩ := path_andThen.1 h
    cases r with
    | error e =>
      obtain ⟨-, hr⟩ := hcaught
      cases hr
    | ok taken =>
      obtain ⟨-, hr⟩ := hcaught
      obtain rfl := Except.ok.inj hr
      obtain ⟨es₁, es₂, bytes, rfl, -, htaken⟩ := path_bind_ok hread
      obtain ⟨-, hr⟩ := htaken
      rw [Except.ok.inj hr]
      exact List.length_take_le n bytes

/-- A network at the second 100 whose origin answers 200 and an empty body. -/
def demoWire : ℕ → (c : WireCall) → Except HttpsExn c.Answer × ℕ
  | n, .monotonic => (.ok 100, n)
  | n, .tls _ (.doHandshake _) _ => (.ok (), n)
  | n, .tls _ (.send data) _ => (.ok data.length, n)
  | 0, .tls _ (.read _) _ => (.ok (encodeLatin1 (str "HTTP/1.1 200 OK\r\n\r\n")), 1)
  | n + 1, .tls _ (.read _) _ => (.ok [], n + 1)
  | n, .outside _ => (.ok (), n)

/-- In that network no call fails. -/
theorem demoWire_answers {α : Type} (p : Wire α) (n : ℕ) :
    ∀ e ∈ (play demoWire p n).1, WireAnswer e := by
  induction p generalizing n with
  | ret a => simp [play]
  | raise e => simp [play]
  | call c next ih =>
    show ∀ e ∈ ⟨c, (demoWire n c).1⟩ ::
      (play demoWire (next (demoWire n c).1) (demoWire n c).2).1, _
    rw [List.forall_mem_cons]
    refine ⟨fun x hx => ?_, ih _ _⟩
    cases c with
    | monotonic => cases hx
    | outside tag => cases hx
    | tls socket step timeout =>
      cases step with
      | doHandshake block => cases hx
      | send data => cases hx
      | read len => cases n <;> cases hx

end WebAuth
