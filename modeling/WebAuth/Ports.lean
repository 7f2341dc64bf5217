import WebAuth.Python.DateTime
import WebAuth.Refusals

/-!
# What the host supplies

The records the host's stores answer, and the requests and answers of the issuer's token endpoint.
A `SecretStr` is the string it wraps. An answer of `touch` or `replace_refresh_token` that is no
`bool` is kept apart, since the library raises for it.
-/

namespace WebAuth

open Python

/-- `AuthenticatedUser`: the account behind the current request. -/
structure AuthenticatedUser where
  id : Str
  username : Str
  role : Str
  deriving DecidableEq

/-- `BearerCaller`: the machine behind a request. -/
structure BearerCaller where
  subject : Str
  deriving DecidableEq

/-- `UserRecord`. -/
structure UserRecord where
  id : Str
  username : Str
  role : Str
  deriving DecidableEq

/-- `SessionRecord`. -/
structure SessionRecord where
  id : Str
  user : UserRecord
  createdAt : DateTime
  expiresAt : DateTime
  refreshToken : Option Str
  idToken : Option Str

/-- What the store answers where the port asks for a `bool`. -/
inductive StoreAnswer where
  | bool (b : Bool)
  | other (typeName : String)
  deriving DecidableEq

/-- `AccountEventKind`. -/
inductive AccountEventKind where
  | userCreated
  | roleChanged
  | backchannelLogout
  deriving DecidableEq

/-- `AccountEvent`. -/
structure AccountEvent where
  kind : AccountEventKind
  actorId : Option Str
  subjectId : Str
  role : Option Str := none
  previousRole : Option Str := none
  deriving DecidableEq

/-- `TokenRequest`: a form POST to the token endpoint. -/
structure TokenRequest where
  url : Str
  form : List (Str × Str)
  authorization : Str
  deriving DecidableEq

/-- `TokenEndpointAnswer`. -/
structure TokenEndpointAnswer where
  status : ℤ
  body : Bytes
  deriving DecidableEq

end WebAuth
