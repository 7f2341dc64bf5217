import WebAuth.Python.Json
import WebAuth.Refusals

/-!
# What the library calls and does not hold

Hashes, PyJWT, RSA key construction, the JSON reader, Starlette's cookie parser and the Unicode
tables are taken as functions of their arguments. A result about the library holds for every
choice of them; what it relies on beyond that is a hypothesis where it is used.
-/

namespace WebAuth

open Python

/-- An RSA public key, known by its numbers. -/
structure RSAPublicKey where
  e : ℕ
  n : ℕ
  deriving DecidableEq

/-- `key.key_size`, the length of the modulus in bits. -/
def RSAPublicKey.keySize (key : RSAPublicKey) : ℕ := key.n.size

/-- The arguments of `jwt.decode`. -/
structure JwtDecode where
  token : Str
  key : RSAPublicKey
  algorithms : List Str
  audience : List Str
  issuer : Str
  options : List (String × Bool)

/-- What `urlparse` reads from an `Origin`. -/
structure ParsedOrigin where
  scheme : Str
  hostname : Option Str
  port : Option ℕ
  username : Option Str
  password : Option Str

/-- A float, as far as comparisons tell floats apart. -/
inductive PyFloat where
  | nan
  | negInf
  | finite (q : ℚ)
  | posInf

/-- `x > y`; no comparison with a NaN holds. -/
def PyFloat.gt : PyFloat → PyFloat → Bool
  | nan, _ => false
  | _, nan => false
  | negInf, _ => false
  | posInf, posInf => false
  | posInf, _ => true
  | finite _, posInf => false
  | finite _, negInf => true
  | finite q, finite r => r < q

/-- The functions the library uses from elsewhere. -/
structure Platform where
  /-- `hashlib.sha256(data).digest()`. -/
  sha256 : Bytes → Bytes
  /-- `hmac.new(key, data, hashlib.sha256).digest()`. -/
  hmacSha256 : Bytes → Bytes → Bytes
  /-- `json.loads`, `none` being `ValueError` or `RecursionError`. -/
  jsonLoads : Bytes → Option Json
  /-- `jwt.get_unverified_header`. -/
  getUnverifiedHeader : Str → Except JwtError Dict
  /-- `jwt.decode`. -/
  jwtDecode : JwtDecode → Except JwtError Dict
  /-- Whether `RSAPublicNumbers(e, n).public_key()` answers a key. -/
  isRsaKey : (e n : ℕ) → Bool
  /-- `starlette.requests.cookie_parser` of one chunk. -/
  cookieParser : Str → List (Str × Str)
  /-- `urlparse` with its `hostname` and `port`, `none` being `ValueError`. -/
  urlparse : Str → Option ParsedOrigin
  /-- `float` of a text, `none` being `ValueError`. -/
  parseFloat : Str → Option PyFloat
  /-- `str.upper`. -/
  upper : Str → Str
  /-- `str.lower`. -/
  lower : Str → Str
  /-- `str.isspace` of one character. -/
  isSpace : CodePoint → Bool

end WebAuth
