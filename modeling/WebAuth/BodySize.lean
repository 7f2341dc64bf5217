import WebAuth.Asgi
import WebAuth.Paths

/-!
# The body size limit

A body over its limit is refused at the door when its length is declared, and counted as the
application reads it when it is not.
-/

namespace WebAuth

open Python Effects

/-! ## The policy -/

/-- `BodySizeRule`. -/
structure BodySizeRule where
  paths : PathRules
  maxBytes : ℤ
  methods : Option (List Str) := none

/-- `BodySizeRule.applies_to`. -/
def BodySizeRule.appliesTo (py : Platform) (rule : BodySizeRule) (path method : Str) : Bool :=
  PublicRule.appliesTo py ⟨rule.paths, rule.methods⟩ path method

/-- `BodySizePolicy`. -/
structure BodySizePolicy where
  defaultMaxBytes : ℤ
  rules : List BodySizeRule := []
  startSendSeconds : ℚ := 10
  seconds_pos : 0 < startSendSeconds

/-- `BodySizePolicy.max_bytes`: the first matching rule wins. -/
def BodySizePolicy.maxBytes (py : Platform) (policy : BodySizePolicy) (path method : Str) : ℤ :=
  ((policy.rules.find? fun rule => rule.appliesTo py path method).map (·.maxBytes)).getD
    policy.defaultMaxBytes

/-! ## The declared length -/

/-- `sys.int_info.default_max_str_digits`. -/
def maxStrDigits : ℕ := 4300

/-- Whether a character is white space that `int` strips. `int` writes a blank for each character
beyond ASCII that `str.isspace` holds of, and strips what C's `isspace` holds of: of the ASCII
characters that is less than `str.isspace`, which holds of `\x1c` to `\x1f` too. -/
def isIntSpace (py : Platform) (c : CodePoint) : Bool :=
  if c.isAscii then isOneOf " \t\n\r" c || c.val = 0xb || c.val = 0xc else py.isSpace c

/-- `int` of a text decoded from Latin-1, `none` being `ValueError`: white space around, a sign, and
digits that single underscores may separate. Latin-1 has no decimal digits but the ASCII ones. -/
def parseInt (py : Platform) (s : Str) : Option ℤ :=
  let stripped := (s.dropWhile (isIntSpace py)).rdropWhile (isIntSpace py)
  let (sign, rest) : ℤ × Str := match stripped with
    | c :: rest => if c = chr '-' then (-1, rest) else if c = chr '+' then (1, rest) else (1, c :: rest)
    | [] => (1, [])
  let groups := split (chr '_') rest
  let digits := groups.flatten
  if groups.all (fun group => group ≠ [] && group.all isDigit) && digits.length ≤ maxStrDigits then
    some (sign * ofDecimal digits)
  else none

/-- `_declared_length`. -/
def declaredLength (py : Platform) (value : Bytes) : ℤ := (parseInt py (decodeLatin1 value)).getD 0

/-- `_declares_over`. -/
def declaresOver (py : Platform) (scope : Scope) (limit : ℤ) : Bool :=
  scope.headers.any fun header =>
    py.lower (decodeLatin1 header.1) = str "content-length" && limit < declaredLength py header.2

/-! ## The middleware -/

/-- `_too_large`, awaited. -/
def tooLarge : Program Asgi Raised Unit :=
  sendResponse 413 "application/json"
    (encodeLatin1 (str "\x7b\"detail\":\"Request body too large\"\x7d"))

/-- What the middleware keeps during a request. -/
structure BodyCount where
  received : ℕ := 0
  startHandedOver : Bool := false

/-- `guarded_receive` and `send_start_whole`. -/
def guardBody (policy : BodySizePolicy) (limit : ℤ) : Wrapper BodyCount Asgi Asgi Raised
  | count, .receive => receive.andThen fun
    | .error e => .ret (.error e, count)
    | .ok message =>
      if message.type = str "http.request" then
        let count := { count with received := count.received + (message.body.getD []).length }
        if limit < count.received then .ret (.error (.requestBodyTooLarge limit), count)
        else .ret (.ok message, count)
      else .ret (.ok message, count)
  | count, .send seconds message =>
    if message.type ≠ responseStart then
      (send message seconds).andThen fun answer => .ret (answer, count)
    else
      let count := { count with startHandedOver := true }
      let within := seconds.elim policy.startSendSeconds (min policy.startSendSeconds)
      (send message (some within)).andThen fun answer => .ret (answer, count)

/-- `BodySizeLimitMiddleware.__call__`. -/
def bodySizeLimit (py : Platform) (policy : BodySizePolicy) (app : ASGIApp) : ASGIApp := fun scope =>
  if scope.type ≠ str "http" then app scope
  else
    let limit := policy.maxBytes py (routePath scope) (scope.method.getD [])
    if declaresOver py scope limit then tooLarge
    else
      (Program.served (guardBody policy limit) (app scope) {}).andThen fun
        | .ok (.ok (), _) => .ret ()
        | .ok (.error (.requestBodyTooLarge n), count) =>
          if count.startHandedOver then .raise (.requestBodyTooLarge n) else tooLarge
        | .ok (.error e, _) => .raise e
        | .error e => .raise e

end WebAuth
