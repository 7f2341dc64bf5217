import WebAuth.Python.Text

/-!
# URLs

What `urllib.parse.urlsplit` reads of a URL in which no control character and no space stands, so
that the parser strips nothing from it.
-/

namespace Python

/-- The parts of a URL, without its query and its fragment. -/
structure SplitResult where
  scheme : Str
  netloc : Str
  path : Str
  deriving DecidableEq

/-- A scheme before the first colon, in lower case, and the rest; no scheme when what stands there
is none. -/
def splitScheme (url : Str) : Str × Str :=
  match partition (chr ':') url with
  | (_, none) => ([], url)
  | (head, some rest) =>
    if (head.head?.any fun c => c.between 'A' 'Z' || c.between 'a' 'z') &&
        head.all (fun c => isAlphaNum c || isOneOf "+-." c) then (lowerAscii head, rest)
    else ([], url)

/-- `urlsplit`. -/
def urlsplit (url : Str) : SplitResult :=
  let (scheme, rest) := splitScheme url
  let inNetloc := fun c => !isOneOf "/?#" c
  let (netloc, tail) :=
    if startsWith rest (str "//") then
      ((rest.drop 2).takeWhile inNetloc, (rest.drop 2).dropWhile inNetloc)
    else ([], rest)
  ⟨scheme, netloc, tail.takeWhile fun c => !isOneOf "?#" c⟩

namespace SplitResult

variable (parts : SplitResult)

/-- The host and the port of a network location; an empty port is none. -/
def hostinfo : Str × Option Str :=
  let hostinfo := ((rpartition (chr '@') parts.netloc).map (·.2)).getD parts.netloc
  let (hostname, port) :=
    match partition (chr '[') hostinfo with
    | (_, some bracketed) =>
      let (hostname, rest) := partition (chr ']') bracketed
      (hostname, (partition (chr ':') (rest.getD [])).2)
    | (_, none) => partition (chr ':') hostinfo
  (hostname, port.filter fun port => port ≠ [])

/-- Whether `urlsplit` and `port` raise no `ValueError`, for a host that is no literal of another
form than its brackets say. -/
def isWellFormed : Bool :=
  parts.netloc.contains (chr '[') == parts.netloc.contains (chr ']') &&
    parts.hostinfo.2.all fun port => port.all isDigit && ofDecimal port ≤ 65535

end SplitResult

end Python
