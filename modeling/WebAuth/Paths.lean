import WebAuth.Python.Query
import WebAuth.Requests

/-!
# Paths and the rules that select them

Which path a policy rule is matched against, what the rules select, which addresses a browser may
be sent back to, and which media type a browser asks for.
-/

namespace WebAuth

open Python

/-- `MAX_RETURN_PATH_BYTES`. -/
def maxReturnPathBytes : ℕ := 512

/-- `route_path`: `root_path` stripped at a segment boundary. -/
def routePath (scope : Scope) : Str :=
  if scope.rootPath = [] || !startsWith scope.path scope.rootPath then scope.path
  else
    match scope.path.drop scope.rootPath.length with
    | [] => []
    | c :: rest => if c = chr '/' then c :: rest else scope.path

/-- `_SEGMENT_SEPARATORS.split`. -/
def segmentsOf (path : Str) : List Str := path.splitOnP fun c => c = chr '/' || c = chr '\\'

/-- The segments `_DOT_SEGMENT` matches, in lower case. -/
def dotSegments : List Str :=
  [str ".", str "%2e", str "..", str ".%2e", str "%2e.", str "%2e%2e"]

/-- `_has_dot_segment`. -/
def hasDotSegment (path : Str) : Bool :=
  (segmentsOf path).any fun segment => dotSegments.contains (lowerAscii segment)

/-- `reads_as_another_host`: a browser drops tab, CR and LF and reads a backslash as a slash. -/
def readsAsAnotherHost (path : Str) : Bool :=
  let kept := path.filter fun c => !isOneOf "\t\r\n" c
  [str "//", str "/\\", str "\\/", str "\\\\"].any (startsWith kept)

/-- `_CONTROL_CHARACTER`. -/
def isControl (c : CodePoint) : Bool := c.val ≤ 0x1f || c.val = 0x7f

/-- `_ascii`; `none` is `UnicodeEncodeError`. -/
def asciiPath (path : Str) : Option Str := quote (fun c => 0x21 ≤ c.val && c.val < 0x7f) path

/-- `_PLAIN_ROOT.fullmatch`. -/
def isPlainRoot (rootPath : Str) : Bool :=
  rootPath.all fun c => isAlphaNum c || isOneOf "-._~/" c

/-- `_is_under`. -/
def isUnder (rootPath path : Str) : Bool :=
  rootPath = [] || path = rootPath || startsWith path (rootPath ++ str "/") ||
    startsWith path (rootPath ++ str "?")

/-- `same_app_path`. -/
def sameAppPath (scope : Scope) (candidate : Option Str) : Option Str := do
  let candidate ← candidate
  if candidate = [] || !startsWith candidate (str "/") || candidate.any isControl then none
  else if candidate.contains (chr '#') || readsAsAnotherHost candidate then none
  else
    let encoded ← asciiPath candidate
    if !isPlainRoot scope.rootPath || !isUnder scope.rootPath encoded then none
    else if hasDotSegment (partition (chr '?') encoded).1 then none
    else if encoded.length ≤ maxReturnPathBytes then some encoded else none

/-- `_carries_root`. -/
def carriesRoot (rawPath root : Bytes) : Bool :=
  if root = [] || !root.isPrefixOf rawPath then root = []
  else
    match rawPath.drop root.length with
    | [] => true
    | b :: _ => b = 0x2f

/-- `requested_address`; `none` is `UnicodeEncodeError`. -/
def requestedAddress (scope : Scope) : Option Str := do
  let rawPath ← match scope.rawPath with
    | some (b :: rest) => some (b :: rest)
    | _ => (quote (· = chr '/') scope.path).bind encode
  let root ← encode scope.rootPath
  let whole := if carriesRoot rawPath root then rawPath else root ++ rawPath
  let address ← decode surrogateEscape whole
  let query ← decode surrogateEscape scope.queryString
  return if query = [] then address else address ++ str "?" ++ query

/-! ## Rules -/

/-- `PathShape`. -/
structure PathShape where
  startsWith : Str
  endsWith : Str

/-- `PathShape.matches`. -/
def PathShape.selects (shape : PathShape) (path : Str) : Bool :=
  Python.startsWith path shape.startsWith && Python.endsWith path shape.endsWith

/-- `PathRules`. A compiled pattern is the paths it matches. -/
structure PathRules where
  exact : List Str := []
  prefixes : List Str := []
  shapes : List PathShape := []
  patterns : List (Str → Bool) := []

/-- `PathRules.matches`. -/
def PathRules.selects (rules : PathRules) (path : Str) : Bool :=
  rules.exact.contains path || rules.prefixes.any (startsWith path) ||
    rules.shapes.any (·.selects path) || rules.patterns.any fun pattern => pattern path

/-- `PublicRule`. -/
structure PublicRule where
  paths : PathRules
  methods : Option (List Str) := none

/-- `PublicRule.applies_to`. -/
def PublicRule.appliesTo (py : Platform) (rule : PublicRule) (path method : Str) : Bool :=
  if rule.methods.any fun methods => !methods.contains (py.upper method) then false
  else rule.paths.selects path

/-- `CsrfPolicy`. -/
structure CsrfPolicy where
  exempt : PathRules := {}

/-- `requires_same_origin`. -/
def CsrfPolicy.requiresSameOrigin (policy : CsrfPolicy) (path : Str) : Bool :=
  !policy.exempt.selects path

/-! ## Media types -/

/-- `s.strip()`. -/
def strip (py : Platform) (s : Str) : Str := (s.dropWhile py.isSpace).rdropWhile py.isSpace

/-- `media_type_of`. -/
def mediaTypeOf (py : Platform) (value : Option Str) : Str :=
  py.lower (strip py (partition (chr ';') (value.getD [])).1)

/-- `_media_range_and_quality`. -/
def mediaRangeAndQuality (py : Platform) (entry : Str) : Str × PyFloat :=
  let quality := (split (chr ';') entry).tail.foldl (fun quality param =>
    let (name, value) := partition (chr '=') (strip py param)
    if py.lower (strip py name) = str "q" then
      (py.parseFloat (strip py (value.getD []))).getD (.finite 1)
    else quality) (.finite 1)
  (mediaTypeOf py (some entry), quality)

/-- The loop of `_accepted_quality` over the entries, from the quality a wildcard set. -/
def acceptedQualityFrom (py : Platform) (mediaType : Str) : PyFloat → List Str → PyFloat
  | wildcard, [] => wildcard
  | wildcard, rawEntry :: rest =>
    let entry := strip py rawEntry
    if entry = [] then acceptedQualityFrom py mediaType wildcard rest
    else
      let (typePart, quality) := mediaRangeAndQuality py entry
      if typePart = mediaType then quality
      else if typePart = (partition (chr '/') mediaType).1 ++ str "/*" || typePart = str "*/*" then
        acceptedQualityFrom py mediaType (if quality.gt wildcard then quality else wildcard) rest
      else acceptedQualityFrom py mediaType wildcard rest

/-- `_accepted_quality`. -/
def acceptedQuality (py : Platform) (acceptHeader mediaType : Str) : PyFloat :=
  acceptedQualityFrom py mediaType (.finite 0) (split (chr ',') acceptHeader)

/-- `prefers_html`. -/
def prefersHtml (py : Platform) (scope : Scope) : Bool :=
  match scope.header (str "accept") with
  | none => false
  | some accept => accept ≠ [] &&
    (acceptedQuality py accept (str "text/html")).gt
      (acceptedQuality py accept (str "application/json"))

end WebAuth
