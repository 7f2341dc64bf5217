import WebAuth.Effects.Wrapping
import WebAuth.Requests

/-!
# ASGI applications

An application receives messages from the server and sends messages to it, and may raise. A
middleware is a function from applications to applications.
-/

namespace WebAuth

open Python Effects

/-- A message, with the keys the middleware reads and writes. -/
structure Message where
  type : Str
  status : Option ℕ := none
  headers : Option (List (Bytes × Bytes)) := none
  body : Option Bytes := none
  moreBody : Option Bool := none
  deriving DecidableEq

/-- `http.response.start`. -/
def responseStart : Str := str "http.response.start"

/-- What leaves an application: a body over its limit, another `Exception`, or a `BaseException`
that is none, such as a cancellation. -/
inductive Raised where
  | requestBodyTooLarge (limit : ℤ)
  | exception (e : Exn)
  | baseException (tag : ℕ)
  deriving DecidableEq

/-- What `except Exception` catches. -/
def Raised.isException : Raised → Bool
  | requestBodyTooLarge _ => true
  | exception _ => true
  | baseException _ => false

/-- What an application asks the server for. `seconds` bounds the time a send may take, as
`anyio.fail_after(seconds, shield=True)` around it does. -/
inductive AsgiCall where
  | receive
  | send (seconds : Option ℚ) (message : Message)

abbrev AsgiCall.Answer : AsgiCall → Type
  | receive => Message
  | send _ _ => Unit

/-- The interface of an application. -/
def Asgi : Interface := ⟨AsgiCall, AsgiCall.Answer⟩

/-- An application, awaited in one scope. -/
abbrev ASGIApp := Scope → Program Asgi Raised Unit

/-- `await receive()`. -/
def receive : Program Asgi Raised Message := Program.perform (I := Asgi) .receive

/-- `await send(message)`. -/
def send (message : Message) (seconds : Option ℚ := none) : Program Asgi Raised Unit :=
  Program.perform (I := Asgi) (.send seconds message)

/-- A Starlette response with a body and the headers it writes itself, awaited. -/
def sendResponse (status : ℕ) (contentType : String) (body : Bytes) : Program Asgi Raised Unit := do
  let headers := [(encodeLatin1 (str "content-length"), encodeLatin1 (decimal body.length)),
    (encodeLatin1 (str "content-type"), encodeLatin1 (str contentType))]
  send { type := responseStart, status, headers }
  send { type := str "http.response.body", body }

/-! ## What was sent and received -/

/-- The messages an application sent. -/
def sent (events : List (Event Asgi Raised)) : List Message :=
  events.filterMap fun e => match e.call with
    | .send _ message => some message
    | .receive => none

/-- The response starts among the messages an application sent. -/
def starts (events : List (Event Asgi Raised)) : List Message :=
  (sent events).filter fun message => message.type = responseStart

/-- The bytes of a request message. -/
def Message.requestBytes (message : Message) : ℕ :=
  if message.type = str "http.request" then (message.body.getD []).length else 0

/-- The bytes of the request body a receive handed to the application. -/
def handedBytes : List (Event Asgi Raised) → ℕ
  | [] => 0
  | ⟨.receive, .ok message⟩ :: events => Message.requestBytes message + handedBytes events
  | _ :: events => handedBytes events

/-- Every send succeeds. -/
def SendsSucceed (events : List (Event Asgi Raised)) : Prop :=
  ∀ e ∈ events, match e with
    | ⟨.send _ _, answer⟩ => answer = .ok ()
    | ⟨.receive, _⟩ => True

end WebAuth
