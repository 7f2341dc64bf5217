import WebAuth.Platform
import WebAuth.Python.Base64

/-!
# Verification of RS256 tokens

A verifier owns a cached key set, the instant of its last refresh attempt, the flag of a failed
one and the refresh lock. Reading or writing each of them is a step of its own, and so is reading
a clock and fetching the key set, since requests share a verifier between threads.
-/

namespace WebAuth

open Python Effects Program

/-- `_MAX_TOKEN_CHARACTERS`. -/
def maxTokenCharacters : ℕ := 8 * 1024

/-- `_MAX_HEADER_SEGMENT_CHARACTERS`. -/
def maxHeaderSegmentCharacters : ℕ := 512

/-- `_MAX_KEY_ID_CHARACTERS`. -/
def maxKeyIdCharacters : ℕ := 128

/-- `_KEY_SET_TTL_SECONDS`. -/
def keySetTtlSeconds : ℚ := 60 * 60

/-- `KEY_SET_REFRESH_COOLDOWN_SECONDS`. -/
def keySetRefreshCooldownSeconds : ℚ := 30

/-- `_MAX_KEY_SET_KEYS`. -/
def maxKeySetKeys : ℕ := 10

/-- `_MIN_RSA_KEY_BITS`. -/
def minRsaKeyBits : ℕ := 2048

/-- `_MAX_KEY_SET_BYTES`. -/
def maxKeySetBytes : ℕ := 64 * 1024

/-- `_ALGORITHM`. -/
def algorithm : Str := str "RS256"

/-- `_SECRET_KEY_MEMBERS`. -/
def secretKeyMembers : List Str :=
  [str "d", str "p", str "q", str "dp", str "dq", str "qi", str "oth", str "k"]

/-- `_VerifiedClaims`. -/
structure VerifiedClaims where
  subject : Option Str
  issuer : Str
  audiences : List Str
  expiresAt : ℤ
  issuedAt : ℤ
  claims : Dict

/-- `_KeySet`. -/
structure KeySet where
  named : List (Str × RSAPublicKey)
  sole : Option RSAPublicKey
  fetchedAt : ℚ
  deriving DecidableEq

/-- What a `_JwtVerifier` is built with. -/
structure JwtVerifier where
  issuer : Str
  audiences : List Str
  jwksUrl : Str
  leewaySeconds : ℕ

/-- The steps a verification takes outside itself. -/
inductive VerifierCall where
  | readKeySet
  | writeKeySet (keySet : KeySet)
  | readLastRefreshAt
  | writeLastRefreshAt (instant : ℚ)
  | readLastRefreshFailed
  | writeLastRefreshFailed (failed : Bool)
  | acquire
  | release
  | monotonicClock
  | wallClock
  | fetchKeySet (url : Str)

/-- What each step answers. -/
abbrev VerifierCall.Answer : VerifierCall → Type
  | readKeySet => Option KeySet
  | readLastRefreshAt => Option ℚ
  | readLastRefreshFailed => Bool
  | acquire => Bool
  | monotonicClock => ℚ
  | wallClock => ℚ
  | fetchKeySet _ => Bytes
  | writeKeySet _ => Unit
  | writeLastRefreshAt _ => Unit
  | writeLastRefreshFailed _ => Unit
  | release => Unit

/-- The verifier's steps with their answers. -/
abbrev verifierCalls : Interface := ⟨VerifierCall, VerifierCall.Answer⟩

/-- A program of the verifier. -/
abbrev Verification := Program verifierCalls Exn

/-- Take one step. -/
def ask (c : VerifierCall) : Verification c.Answer := perform (I := verifierCalls) c

/-- Which `typ` a caller expects: any, one exactly, or one of several media types. -/
inductive ExpectedType where
  | any
  | exactly (type : Str)
  | mediaTypes (types : List Str)

/-! ## The key set document -/

/-- `_json_object`. -/
def jsonObject (py : Platform) (document : Bytes) : Option Dict :=
  match py.jsonLoads document with
  | some (.obj members) => some members
  | _ => none

/-- `_base64url_decode`. -/
def base64urlDecode (segment : Str) : Except Exn Bytes :=
  match urlsafeB64decode (padded segment) with
  | none => .error (.valueError "Incorrect padding")
  | some decoded =>
    if stripPadding (urlsafeB64encode decoded) ≠ segment then
      .error (.valueError "not canonical base64url")
    else .ok decoded

/-- `_base64url_unsigned`. -/
def base64urlUnsigned (value : Str) : Except Exn ℕ := (base64urlDecode value).map fromBytesBig

/-- `_is_key_id`. -/
def isKeyId : Json → Option Str
  | .str s => if 0 < s.length ∧ s.length ≤ maxKeyIdCharacters then some s else none
  | _ => none

/-- `_is_rs256_verification_key`. -/
def isRs256VerificationKey (jwk : Dict) : Bool :=
  (jwk.get (str "kty")).any (·.isStr (str "RSA")) &&
    ((jwk.get (str "alg")).getD (.str algorithm)).isStr algorithm &&
    ((jwk.get (str "use")).getD (.str (str "sig"))).isStr (str "sig") &&
    match (jwk.get (str "key_ops")).getD (.arr [.str (str "verify")]) with
    | .arr operations => operations.any (·.isStr (str "verify"))
    | _ => false

/-- `_declared_key_id`. -/
def declaredKeyId (jwk : Dict) : Except Exn (Option Str) :=
  match jwk.get (str "kid") with
  | none => .ok none
  | some keyId =>
    match isKeyId keyId with
    | some s => .ok (some s)
    | none => .error (.invalidKeySetError .malformedKey)

/-- The `RSAPublicNumbers(...).public_key()` of two encoded numbers. -/
def rsaPublicKey (py : Platform) (exponent modulus : Str) : Except Exn RSAPublicKey := do
  let e ← base64urlUnsigned exponent
  let n ← base64urlUnsigned modulus
  if py.isRsaKey e n then return ⟨e, n⟩ else throw (.valueError "invalid RSA numbers")

/-- `_public_signing_key`. -/
def publicSigningKey (py : Platform) (jwk : Dict) : Except Exn (Option Str × RSAPublicKey) := do
  let keyId ← declaredKeyId jwk
  match jwk.get (str "n"), jwk.get (str "e") with
  | some (.str modulus), some (.str exponent) =>
    match rsaPublicKey py exponent modulus with
    | .error (.valueError _) => throw (.invalidKeySetError .invalidRsaKey)
    | .error e => throw e
    | .ok key =>
      if key.keySize < minRsaKeyBits then throw (.invalidKeySetError .keyTooShort)
      else return (keyId, key)
  | _, _ => throw (.invalidKeySetError .malformedKey)

/-- The loop of `_rs256_verification_keys` over the entries `_rs256_verification_jwks` lets by,
from the keys read so far. -/
def rs256VerificationKeys (py : Platform) :
    List (Str × RSAPublicKey) → ℕ → Option RSAPublicKey → List Json →
      Except Exn (List (Str × RSAPublicKey) × Option RSAPublicKey)
  | named, eligible, lastKey, [] =>
    if eligible = 0 then .error (.invalidKeySetError .noRs256SigningKey)
    else .ok (named, if eligible = 1 then lastKey else none)
  | named, eligible, lastKey, .obj jwk :: jwks =>
    if secretKeyMembers.any (Dict.has jwk) then .error (.invalidKeySetError .secretKeyPublished)
    else if isRs256VerificationKey jwk then
      if eligible = maxKeySetKeys then .error (.invalidKeySetError .keyCountOutOfRange)
      else
        match publicSigningKey py jwk with
        | .error e => .error e
        | .ok (none, key) => rs256VerificationKeys py named (eligible + 1) (some key) jwks
        | .ok (some keyId, key) =>
          if (named.lookup keyId).isSome then .error (.invalidKeySetError .duplicateKeyId)
          else rs256VerificationKeys py (named ++ [(keyId, key)]) (eligible + 1) (some key) jwks
    else rs256VerificationKeys py named eligible lastKey jwks
  | _, _, _, _ :: _ => .error (.invalidKeySetError .keyNotAnObject)

/-- `_parse_key_set`. -/
def parseKeySet (py : Platform) (document : Bytes) :
    Except Exn (List (Str × RSAPublicKey) × Option RSAPublicKey) :=
  if maxKeySetBytes < document.length then .error (.invalidKeySetError .tooLarge)
  else
    match jsonObject py document with
    | none => .error (.invalidKeySetError .notJson)
    | some parsed =>
      match parsed.get (str "keys") with
      | some (.arr (jwk :: jwks)) => rs256VerificationKeys py [] 0 none (jwk :: jwks)
      | _ => .error (.invalidKeySetError .keyCountOutOfRange)

/-- Whether an exception is a `ValueError`. -/
def IsValueError (e : Exn) : Prop := ∃ message, e = .valueError message

/-- Whether an exception says a fetched key set must not replace the cached one. -/
def IsInvalidKeySet (e : Exn) : Prop := ∃ failure, e = .invalidKeySetError failure

theorem base64urlDecode_raises (segment : Str) : Raises IsValueError (base64urlDecode segment) := by
  unfold base64urlDecode
  split
  · exact (raises_error _).2 ⟨_, rfl⟩
  · split
    · exact (raises_error _).2 ⟨_, rfl⟩
    · exact raises_ok _

theorem base64urlUnsigned_raises (value : Str) : Raises IsValueError (base64urlUnsigned value) :=
  (base64urlDecode_raises value).map _

theorem rsaPublicKey_raises (py : Platform) (exponent modulus : Str) :
    Raises IsValueError (rsaPublicKey py exponent modulus) := by
  refine (base64urlUnsigned_raises _).bind fun e => (base64urlUnsigned_raises _).bind fun n => ?_
  split
  · exact raises_pure _
  · exact (raises_throw _).2 ⟨_, rfl⟩

theorem publicSigningKey_raises (py : Platform) (jwk : Dict) :
    Raises IsInvalidKeySet (publicSigningKey py jwk) := by
  refine Raises.bind ?_ fun keyId => ?_
  · unfold declaredKeyId
    split
    · exact raises_ok _
    · split
      · exact raises_ok _
      · exact (raises_error _).2 ⟨_, rfl⟩
  · split
    · split
      · exact (raises_throw _).2 ⟨_, rfl⟩
      · rename_i e hno he
        obtain ⟨message, rfl⟩ := rsaPublicKey_raises _ _ _ _ he
        exact absurd rfl (hno message)
      · split
        · exact (raises_throw _).2 ⟨_, rfl⟩
        · exact raises_pure _
    · exact (raises_throw _).2 ⟨_, rfl⟩

theorem rs256VerificationKeys_raises (py : Platform) (named : List (Str × RSAPublicKey))
    (eligible : ℕ) (lastKey : Option RSAPublicKey) (jwks : List Json) :
    Raises IsInvalidKeySet (rs256VerificationKeys py named eligible lastKey jwks) := by
  fun_induction rs256VerificationKeys py named eligible lastKey jwks with
  | case5 _ _ _ _ _ _ _ _ _ h => exact (raises_error _).2 (publicSigningKey_raises _ _ _ h)
  | _ => first | exact raises_ok _ | exact (raises_error _).2 ⟨_, rfl⟩ | assumption

/-- A document that does not parse is refused with a code of this module's own. -/
theorem parseKeySet_raises (py : Platform) (document : Bytes) :
    Raises IsInvalidKeySet (parseKeySet py document) := by
  unfold parseKeySet
  split
  · exact (raises_error _).2 ⟨_, rfl⟩
  · split
    · exact (raises_error _).2 ⟨_, rfl⟩
    · split
      · exact rs256VerificationKeys_raises _ _ _ _ _
      · exact (raises_error _).2 ⟨_, rfl⟩

/-! ## The cached key set -/

/-- `_is_current`. -/
def isCurrent (keySet : KeySet) : Verification Bool := do
  let now ← ask .monotonicClock
  return decide (now - keySet.fetchedAt < keySetTtlSeconds)

/-- What a refresh fetched: a key set document's keys, or why it does not replace the cached one.
Any other exception of the injected fetch passes through. -/
def fetchedKeys (py : Platform) (v : JwtVerifier) :
    Verification (Except RefreshFailure (List (Str × RSAPublicKey) × Option RSAPublicKey)) :=
  tryCatch (do
    let document ← ask (.fetchKeySet v.jwksUrl)
    let keys ← parseKeySet py document
    return .ok keys) fun
  | .keySetFetchError => return .error .fetchFailed
  | .invalidKeySetError failure => return .error failure
  | e => throw e

/-- One refresh attempt that the lock and the cooldown admitted, begun at `now`. -/
def attemptRefresh (py : Platform) (v : JwtVerifier) (now : ℚ) : Verification Unit := do
  ask (.writeLastRefreshAt now)
  match ← fetchedKeys py v with
  | .ok (named, sole) =>
    ask (.writeKeySet ⟨named, sole, now⟩)
    ask (.writeLastRefreshFailed false)
  | .error _ => ask (.writeLastRefreshFailed true)

/-- The part of `_refresh_key_set` under the lock. -/
def refreshLocked (py : Platform) (v : JwtVerifier) : Verification Unit := do
  let now ← ask .monotonicClock
  let last ← ask .readLastRefreshAt
  if last.any fun at_ => now - at_ < keySetRefreshCooldownSeconds then return ()
  else attemptRefresh py v now

/-- `_refresh_key_set`: one refresh at a time, the lock released whatever it ends with. -/
def refreshKeySet (py : Platform) (v : JwtVerifier) : Verification Unit := do
  if ← ask .acquire then
    (refreshLocked py v).andThen fun r => do
      ask .release
      done r
  else return ()

/-- Whether `_signing_key` refreshes: no current key set, or one that lacks the key ID. -/
def needsRefresh (keyId : Option Str) : Option KeySet → Verification Bool
  | none => return true
  | some keySet => do
    if ← isCurrent keySet then return keyId.any fun k => (keySet.named.lookup k).isNone
    else return true

/-- The last part of `_signing_key`: the key of a key set still current, or the refusal. -/
def keyOf (keyId : Option Str) : Option KeySet → Verification RSAPublicKey
  | none => throw (.verificationRefusal .keySetUnavailable)
  | some keySet => do
    if ← isCurrent keySet then
      match keyId with
      | none =>
        match keySet.sole with
        | none => throw (.verificationRefusal .invalidKeyId)
        | some key => return key
      | some k =>
        match keySet.named.lookup k with
        | some key => return key
        | none =>
          -- an unknown `kid` is a forged one only when the last refresh did not fail
          if ← ask .readLastRefreshFailed then throw (.verificationRefusal .keySetUnavailable)
          else throw (.verificationRefusal .unknownKeyId)
    else throw (.verificationRefusal .keySetUnavailable)

/-- `_signing_key`. -/
def signingKey (py : Platform) (v : JwtVerifier) (keyId : Option Str) :
    Verification RSAPublicKey := do
  let snapshot ← ask .readKeySet
  if ← needsRefresh keyId snapshot then
    refreshKeySet py v
    let refreshed ← ask .readKeySet
    keyOf keyId refreshed
  else keyOf keyId snapshot

/-! ## The token -/

/-- `_require_comparable_types`. -/
def requireComparableTypes : ExpectedType → Except Exn Unit
  | .mediaTypes types =>
    if types.all fun t => !t.isEmpty && isAscii t && lowerAscii t = t then .ok ()
    else .error (.valueError
      "expected_media_types must be a frozenset of non-empty lowercase ASCII strings")
  | _ => .ok ()

/-- `_has_expected_type`. -/
def hasExpectedType (header : Dict) : ExpectedType → Bool
  | .any => true
  | .exactly type => (header.get (str "typ")).any (·.isStr type)
  | .mediaTypes types =>
    match header.get (str "typ") with
    | some (.str declared) => isAscii declared && types.contains (lowerAscii declared)
    | _ => false

/-- `_header_key_id`. -/
def headerKeyId (header : Dict) : Except Exn (Option Str) :=
  match header.get (str "kid") with
  | none => .ok none
  | some keyId =>
    match isKeyId keyId with
    | some s => .ok (some s)
    | none => .error (.verificationRefusal .invalidKeyId)

/-- The checks of `_verified_claims` before a key is looked up: the key ID the header names. -/
def checkedHeader (py : Platform) (token : Str) (expected : ExpectedType) :
    Except Exn (Option Str) :=
  if maxTokenCharacters < token.length then .error (.verificationRefusal .tokenTooLong)
  else if !isAscii token then .error (.verificationRefusal .malformedToken)
  else if maxHeaderSegmentCharacters < (partition (chr '.') token).1.length then
    .error (.verificationRefusal .malformedToken)
  else
    match py.getUnverifiedHeader token with
    | .error (.other tag) => .error (.host tag)
    | .error _ => .error (.verificationRefusal .malformedToken)
    | .ok header =>
      if !(header.get (str "alg")).any (·.isStr algorithm) then
        .error (.verificationRefusal .unsupportedAlgorithm)
      else if !hasExpectedType header expected then
        .error (.verificationRefusal .invalidTokenType)
      else headerKeyId header

/-- `_library_checks`. -/
def libraryChecks : List (String × Bool) :=
  [("verify_signature", true), ("verify_aud", true), ("verify_iss", true), ("verify_exp", false),
    ("verify_iat", false), ("verify_nbf", false), ("verify_sub", false), ("verify_jti", false)]

/-- How `_verified_payload` answers each error of PyJWT. -/
def exnOfJwtError : JwtError → Exn
  | .invalidSignature => .verificationRefusal .invalidSignature
  | .invalidAudience => .verificationRefusal .invalidAudience
  | .invalidIssuer => .verificationRefusal .invalidIssuer
  | .missingRequiredClaim => .verificationRefusal .invalidClaim
  | .invalidToken => .verificationRefusal .malformedToken
  | .other tag => .host tag

/-- `_verified_payload`. -/
def verifiedPayload (py : Platform) (v : JwtVerifier) (token : Str) (key : RSAPublicKey) :
    Except Exn Dict :=
  match py.jwtDecode ⟨token, key, [algorithm], v.audiences, v.issuer, libraryChecks⟩ with
  | .ok claims => .ok claims
  | .error error => .error (exnOfJwtError error)

/-- `_integer_claim`: a `bool` is no whole number. -/
def integerClaim (claims : Dict) (name : Str) : Except Exn ℤ :=
  match claims.get name with
  | some (.int n) => .ok n
  | _ => .error (.verificationRefusal .invalidClaim)

/-- The `nbf` claim, which may be absent. -/
def notBeforeClaim (claims : Dict) : Except Exn (Option ℤ) :=
  if claims.has (str "nbf") then (integerClaim claims (str "nbf")).map some else .ok none

/-- The comparisons of `_checked_time_claims` at one reading of the wall clock. The sums are exact:
that the code's raise on a leeway which no float holds is left out. -/
def timesAt (v : JwtVerifier) (expiresAt issuedAt : ℤ) (notBefore : Option ℤ) (now : ℚ) :
    Except Exn (ℤ × ℤ) :=
  if (expiresAt : ℚ) + v.leewaySeconds ≤ now then .error (.verificationRefusal .expired)
  else if now + v.leewaySeconds < issuedAt then .error (.verificationRefusal .issuedInFuture)
  else
    match notBefore with
    | none => .ok (expiresAt, issuedAt)
    | some t =>
      if now + v.leewaySeconds < t then .error (.verificationRefusal .notYetValid)
      else .ok (expiresAt, issuedAt)

/-- `_checked_time_claims`. -/
def checkedTimeClaims (v : JwtVerifier) (claims : Dict) : Verification (ℤ × ℤ) := do
  let expiresAt ← integerClaim claims (str "exp")
  let issuedAt ← integerClaim claims (str "iat")
  let notBefore ← notBeforeClaim claims
  let now ← ask .wallClock
  timesAt v expiresAt issuedAt notBefore now

/-- `_subject`. -/
def subjectOf (claims : Dict) : Except Exn (Option Str) :=
  match claims.get (str "sub") with
  | none => .ok none
  | some (.str subject) =>
    if subject.isEmpty then .error (.verificationRefusal .invalidClaim) else .ok (some subject)
  | some _ => .error (.verificationRefusal .invalidClaim)

/-- `_audiences`: `aud` as PyJWT accepted it, one string or a list of strings. -/
def audiencesOf (claims : Dict) : Except Exn (List Str) :=
  match claims.get (str "aud") with
  | none => .error (.keyError "aud")
  | some (.str audience) => .ok [audience]
  | some audience =>
    match audience.strings with
    | some audiences => .ok audiences
    | none => .error (.typeError "aud is no list of strings")

/-- `_verified_claims`. -/
def verifiedClaims (py : Platform) (v : JwtVerifier) (token : Str) (expected : ExpectedType) :
    Verification VerifiedClaims := do
  let keyId ← checkedHeader py token expected
  let key ← signingKey py v keyId
  let claims ← verifiedPayload py v token key
  let (expiresAt, issuedAt) ← checkedTimeClaims v claims
  let subject ← subjectOf claims
  let audiences ← audiencesOf claims
  return ⟨subject, v.issuer, audiences, expiresAt, issuedAt, claims⟩

/-- The handler of `verify`: a refusal is an answer, every other exception passes through. -/
def rejected : Exn → Verification (Except RejectionReason VerifiedClaims)
  | .verificationRefusal reason => return .error reason
  | e => throw e

/-- `_JwtVerifier.verify`: the verified claims, or why the token is rejected. -/
def verify (py : Platform) (v : JwtVerifier) (token : Str) (expected : ExpectedType) :
    Verification (Except RejectionReason VerifiedClaims) := do
  requireComparableTypes expected
  tryCatch (do return .ok (← verifiedClaims py v token expected)) rejected

end WebAuth
