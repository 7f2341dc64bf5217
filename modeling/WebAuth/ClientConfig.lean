import WebAuth.JwtVerification
import WebAuth.Python.Query

/-!
# The client registered at the issuer

What a relying party is built with. Its verifier owns a key-set cache, so a relying party carries
the number of that verifier and two relying parties share a cache only with the same number.
-/

namespace WebAuth

open Python

/-- `OidcClientConfig`, with the check of its constructor that its own code relies on. -/
structure OidcClientConfig where
  issuer : Str
  authorizationEndpoint : Str
  tokenEndpoint : Str
  jwksUrl : Str
  endSessionEndpoint : Str
  clientId : Str
  clientSecret : Str
  redirectUri : Str
  postLogoutRedirectUri : Str
  scopes : List Str
  leewaySeconds : ℕ
  clientId_nonempty : clientId ≠ []

/-- `_basic_authorization`: both parts form-encoded before Basic encoding. -/
def basicAuthorization (clientId clientSecret : Str) : Option Str := do
  let id ← quotePlus clientId
  let secret ← quotePlus clientSecret
  let credentials ← encode (id ++ str ":" ++ secret)
  return str "Basic " ++ b64encode credentials

/-- `OidcRelyingParty`: its configuration, its `Authorization` header and its verifier. -/
structure OidcRelyingParty where
  config : OidcClientConfig
  clientAuthorization : Str
  jwtVerifier : ℕ
  clientAuthorization_eq :
    basicAuthorization config.clientId config.clientSecret = some clientAuthorization

/-- `_verifier_for`. -/
def OidcRelyingParty.verifierFor (rp : OidcRelyingParty) (audience : Str) : JwtVerifier where
  issuer := rp.config.issuer
  audiences := [audience]
  jwksUrl := rp.config.jwksUrl
  leewaySeconds := rp.config.leewaySeconds

end WebAuth
