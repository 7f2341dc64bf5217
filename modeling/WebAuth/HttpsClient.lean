import WebAuth.BearerGate
import WebAuth.Effects.Deadlines
import WebAuth.Effects.Failures
import WebAuth.Effects.Wrapping
import WebAuth.LoginStart

/-!
# Outbound HTTPS

The key-set fetch and the form POST to the token endpoint. urllib3 is a parameter: programs over the
sockets of the TLS context, which may take blocking steps in any order and set any timeouts between
them. The context's socket class serves those programs, and shortens the timeout before each step to
what is left of the deadline. Times are exact rationals where the code adds floats. The logger's
filter is left out.
-/

namespace WebAuth

open Python Effects Program

/-! ## What is raised -/

/-- `ExchangeFailure`. -/
inductive ExchangeFailure where
  | notAnHttpsUrl
  | unreachable
  | tlsFailed
  | timedOut
  | brokenOff
  | redirected
  | tooLarge
  deriving DecidableEq

/-- The words of a failure. -/
def ExchangeFailure.value : ExchangeFailure → Str
  | notAnHttpsUrl => str "refusing the request: not an https URL naming a host, a valid port" ++
      str " if any, and no control character, space or credentials"
  | unreachable => str "the origin could not be reached"
  | tlsFailed => str "the TLS handshake with the origin failed or its certificate is not trusted"
  | timedOut => str "the origin did not answer within the timeout"
  | brokenOff => str "the HTTP exchange with the origin broke off"
  | redirected => str "the origin answered with a redirect, which is never followed"
  | tooLarge => str "the origin's answer exceeds its size limit"

/-- What an exchange meets and raises. `sslError` to `httpError` are urllib3's, `httpError` being
any `HTTPError` but the three before it; `deadlinePassed` is the `TimeoutError` of a step past the
deadline, an `OSError` like the others. The numbers in a `ValueError` stand beside its message. -/
inductive HttpsExn where
  | valueError (message : String) (values : List ℚ)
  | unicodeEncodeError
  | sslError
  | newConnectionError
  | timeoutError
  | httpError
  | osError (tag : ℕ)
  | deadlinePassed
  | httpsExchangeError (failure : ExchangeFailure)
  | keySetFetchError (message : Str) (failure : Option ExchangeFailure)
  | tokenEndpointError (message : Str) (failure : ExchangeFailure)
  | other (tag : ℕ)
  deriving DecidableEq

/-- `isinstance(error, OSError)`. -/
def HttpsExn.isOsError : HttpsExn → Bool
  | osError _ => true
  | deadlinePassed => true
  | _ => false

/-- The `except` clauses of `_exchange`, `none` being an error that goes on. -/
def HttpsExn.failure : HttpsExn → Option ExchangeFailure
  | sslError => some .tlsFailed
  | newConnectionError => some .unreachable
  | timeoutError => some .timedOut
  | httpError => some .brokenOff
  | osError _ => some .brokenOff
  | deadlinePassed => some .brokenOff
  | _ => none

/-! ## Sockets under a deadline -/

/-- A blocking step of a TLS socket. -/
inductive TlsStep where
  | doHandshake (block : Bool)
  | read (len : ℕ)
  | send (data : Bytes)

/-- What a step answers: the bytes read, or how many bytes were sent. -/
abbrev TlsStep.Answer : TlsStep → Type
  | doHandshake _ => Unit
  | read _ => Bytes
  | send _ => ℕ

/-- What urllib3 does: it reads and sets the timeouts of its sockets and takes their blocking steps.
What it does outside them, the host name lookup and connecting among it, has a tag. -/
inductive ClientCall where
  | gettimeout (socket : ℕ)
  | settimeout (socket : ℕ) (timeout : Option ℚ)
  | tls (socket : ℕ) (step : TlsStep)
  | outside (tag : ℕ)

abbrev ClientCall.Answer : ClientCall → Type
  | gettimeout _ => Option ℚ
  | settimeout _ _ => Unit
  | tls _ step => step.Answer
  | outside _ => Unit

abbrev clientCalls : Interface := ⟨ClientCall, ClientCall.Answer⟩

/-- A program of urllib3. -/
abbrev Client := Program clientCalls HttpsExn

abbrev ClientEvent := Event clientCalls HttpsExn

/-- What reaches the operating system: a reading of `time.monotonic`, a step of a socket under the
timeout it has then, and what is done outside the sockets. -/
inductive WireCall where
  | monotonic
  | tls (socket : ℕ) (step : TlsStep) (timeout : Option ℚ)
  | outside (tag : ℕ)

abbrev WireCall.Answer : WireCall → Type
  | monotonic => ℚ
  | tls _ step _ => step.Answer
  | outside _ => Unit

abbrev wireCalls : Interface := ⟨WireCall, WireCall.Answer⟩

/-- A program of the HTTPS client. -/
abbrev Wire := Program wireCalls HttpsExn

abbrev WireEvent := Event wireCalls HttpsExn

/-- `time.monotonic()`. -/
def monotonic : Wire ℚ := perform (I := wireCalls) .monotonic

/-- `_Deadline`. -/
structure Deadline where
  expiresAt : ℚ

/-- `_Deadline.after`. -/
def Deadline.after (seconds : ℚ) : Wire Deadline := do
  return ⟨(← monotonic) + seconds⟩

/-- `_Deadline.has_passed`. -/
def Deadline.hasPassed (deadline : Deadline) : Wire Bool := do
  return deadline.expiresAt ≤ (← monotonic)

/-- `_Deadline.bound`. -/
def Deadline.bound (deadline : Deadline) (timeout : Option ℚ) : Wire ℚ := do
  let now ← monotonic
  let remaining := deadline.expiresAt - now
  if remaining ≤ 0 then throw .deadlinePassed
  else return timeout.elim remaining (min · remaining)

/-- The timeouts of the sockets. -/
abbrev Timeouts := ℕ → Option ℚ

/-- `SocketUnderDeadline`: the sockets of `_tls_context_under`, each with a timeout of its own. -/
def socketsUnder (deadline : Deadline) : Wrapper Timeouts clientCalls wireCalls HttpsExn
  | timeouts, .gettimeout socket => ret (.ok (timeouts socket), timeouts)
  | timeouts, .settimeout socket timeout =>
    if timeout.any (· < 0) then ret (.error (.valueError "Timeout value out of range" []), timeouts)
    else ret (.ok (), Function.update timeouts socket timeout)
  | timeouts, .tls socket step => do
    let timeout ← deadline.bound (timeouts socket)
    call (I := wireCalls) (.tls socket step (some timeout)) fun ans =>
      ret (ans, Function.update timeouts socket (some timeout))
  | timeouts, .outside tag => call (I := wireCalls) (.outside tag) fun ans => ret (ans, timeouts)

/-! ## urllib3 -/

/-- What `PoolManager.request` is given, its own timeout and retries among it. -/
structure HttpsRequest where
  method : Str
  url : Str
  headers : Option (List (Str × Str))
  body : Option Str
  timeout : ℚ
  retries : Bool := false
  redirect : Bool := false
  preloadContent : Bool := false
  decodeContent : Bool := false

/-- urllib3, with the TLS context it makes and the exit of its pool. -/
structure Urllib3 where
  Response : Type
  status : Response → ℤ
  tlsContext : Client Unit
  request : HttpsRequest → Client Response
  read : Response → ℕ → Client Bytes
  close : Response → Client Unit
  clear : Client Unit

/-- `_HttpsAnswer`, or `_RefusedStatus` of an answer whose body is never read. -/
inductive HttpsOutcome where
  | answer (status : ℤ) (body : Bytes)
  | refusedStatus (status : ℤ)
  deriving DecidableEq

/-- `try: … finally: …`, the exception of the clean-up going before that of the block. -/
def ensuring {I : Interface} {ε α : Type} (block : Program I ε α) (cleanup : Program I ε Unit) :
    Program I ε α :=
  block.andThen fun r => cleanup.andThen (onReturn fun _ => done r)

/-- The `try` block of `_exchange`. -/
def Urllib3.exchanged (urllib3 : Urllib3) (acceptsStatus : ℤ → Bool) (maxBodyBytes : ℕ)
    (request : HttpsRequest) : Client HttpsOutcome := do
  urllib3.tlsContext
  ensuring (do
      let response ← urllib3.request request
      ensuring (do
          if acceptsStatus (urllib3.status response) then
            return .answer (urllib3.status response) (← urllib3.read response (maxBodyBytes + 1))
          return .refusedStatus (urllib3.status response))
        (urllib3.close response))
    urllib3.clear

/-- What `_exchange` raises for a failure: a timeout once the deadline has passed. -/
def Deadline.fail (deadline : Deadline) (failure : ExchangeFailure) : Wire HttpsOutcome := do
  let passed ← deadline.hasPassed
  throw (.httpsExchangeError (if passed then .timedOut else failure))

/-- `_exchange`, the timeouts of a new socket being none. -/
def exchange (urllib3 : Urllib3) (method url : Str) (acceptsStatus : ℤ → Bool)
    (timeoutSeconds deadlineSeconds : ℚ) (maxBodyBytes : ℕ) (headers : Option (List (Str × Str)))
    (body : Option Str) : Wire HttpsOutcome := do
  if timeoutSeconds ≤ 0 then
    throw (.valueError "timeout_seconds must be positive, not" [timeoutSeconds])
  if deadlineSeconds ≤ 0 then
    throw (.valueError "deadline_seconds must be positive, not" [deadlineSeconds])
  let deadline ← Deadline.after deadlineSeconds
  let (outcome, _) ← served (socketsUnder deadline)
    (urllib3.exchanged acceptsStatus maxBodyBytes ⟨method, url, headers, body, timeoutSeconds,
      false, false, false, false⟩) fun _ => none
  match outcome with
  | .ok answer => return answer
  | .error e => e.failure.elim (throw e) deadline.fail

/-! ## The two transports -/

/-- `_KEY_SET_FETCH_TIMEOUT_SECONDS`. -/
def keySetFetchTimeoutSeconds : ℚ := 5

/-- `_KEY_SET_FETCH_DEADLINE_SECONDS`. -/
def keySetFetchDeadlineSeconds : ℚ := 10

/-- `_TOKEN_EXCHANGE_DEADLINE_SECONDS`. -/
def tokenExchangeDeadlineSeconds : ℚ := 10

/-- `_TOKEN_REQUEST_TIMEOUT_SECONDS`. -/
def tokenRequestTimeoutSeconds : ℚ := 5

/-- `_is_key_set_status`. -/
def isKeySetStatus (status : ℤ) : Bool := status = 200

/-- `_is_form_answer_status`. -/
def isFormAnswerStatus (status : ℤ) : Bool := !(300 ≤ status && status < 400)

/-- The error of a key-set fetch from a URL that is refused. -/
def keySetUrlRefused : HttpsExn := .keySetFetchError
  (str "refusing to fetch the key set: not an https URL naming a host, a valid port if any, and" ++
    str " no control character, space or credentials") (some .notAnHttpsUrl)

/-- The error of a key-set fetch that another status than 200 answers. -/
def keySetStatusRefused (status : ℤ) : HttpsExn := .keySetFetchError
  (str "the key set origin answered " ++ decimalInt status ++ str ", not 200") none

/-- The error of a key-set fetch whose exchange failed. -/
def fetchFailed (failure : ExchangeFailure) : HttpsExn := .keySetFetchError
  (str "fetching the key set failed: " ++ if failure = .timedOut then failure.value else
    str "the origin could not be reached, or the TLS handshake or HTTP exchange failed")
  (some failure)

/-- `fetch_key_set_over_https`. -/
def fetchKeySetOverHttps (urllib3 : Urllib3) (url : Str) (timeoutSeconds deadlineSeconds : ℚ) :
    Wire Bytes := do
  if !isHttpsUrl url then throw keySetUrlRefused
  else (exchange urllib3 (str "GET") url isKeySetStatus timeoutSeconds deadlineSeconds
      maxKeySetBytes none none).andThen fun
    | .ok (.answer _ body) => return body
    | .ok (.refusedStatus status) => throw (keySetStatusRefused status)
    | .error (.httpsExchangeError failure) => throw (fetchFailed failure)
    | .error e => throw e

/-- What `_post_form_over_https` makes of an answer. -/
def formAnswer (maxBodyBytes : ℕ) : HttpsOutcome → Except HttpsExn (ℤ × Bytes)
  | .refusedStatus _ => .error (.httpsExchangeError .redirected)
  | .answer status body =>
    if maxBodyBytes < body.length then .error (.httpsExchangeError .tooLarge)
    else .ok (status, body)

/-- `_post_form_over_https`. -/
def postFormOverHttps (urllib3 : Urllib3) (url : Str) (form : List (Str × Str))
    (authorization : Str) (maxBodyBytes : ℕ) (timeoutSeconds deadlineSeconds : ℚ) :
    Wire (ℤ × Bytes) := do
  if !isHttpsUrl url then throw (.httpsExchangeError .notAnHttpsUrl)
  else match urlencode form with
  | none => throw .unicodeEncodeError
  | some body => do
    let answer ← exchange urllib3 (str "POST") url isFormAnswerStatus timeoutSeconds deadlineSeconds
      maxBodyBytes
      (some [(str "Authorization", authorization), (str "Accept", str "application/json"),
        (str "Content-Type", str "application/x-www-form-urlencoded")]) (some body)
    done (formAnswer maxBodyBytes answer)

/-- `post_token_request_over_https`. -/
def postTokenRequestOverHttps (urllib3 : Urllib3) (request : TokenRequest)
    (timeoutSeconds deadlineSeconds : ℚ) : Wire TokenEndpointAnswer := do
  if deadlineSeconds < timeoutSeconds ∧ 0 < deadlineSeconds then
    throw (.valueError "timeout_seconds must not exceed deadline_seconds"
      [timeoutSeconds, deadlineSeconds])
  (postFormOverHttps urllib3 request.url request.form request.authorization maxTokenResponseBytes
    timeoutSeconds deadlineSeconds).andThen fun
    | .ok (status, body) => return ⟨status, body⟩
    | .error (.httpsExchangeError failure) =>
      throw (.tokenEndpointError (str "the token request failed: " ++ failure.value) failure)
    | .error e => throw e

end WebAuth
