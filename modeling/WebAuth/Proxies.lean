import WebAuth.Paths
import WebAuth.Python.IpAddress

/-!
# Proxies

Which peers may name a client, and the client identity that follows from it.
-/

namespace WebAuth

open Python

/-- `_UNKNOWN_CLIENT_IP`. -/
def unknownClientIp : Str := str "unknown"

/-- `_MAX_ADDRESS_CHARS`. -/
def maxAddressChars : ℕ := 45

/-- `_MAX_FORWARDED_FOR_HOPS`. -/
def maxForwardedForHops : ℕ := 16

/-- `_IPV6_BUDGET_PREFIX_BITS`. -/
def ipv6BudgetPrefixBits : ℕ := 64

/-! ## The trusted proxies -/

/-- `TrustedProxies`. -/
structure TrustedProxies where
  networks : List IpNetwork := []
  deriving DecidableEq

/-- `_canonical_address`. -/
def canonicalAddress (host : Str) : Option IpAddress :=
  if maxAddressChars < host.length || host.contains (chr '%') then none
  else
    match ipAddress host with
    | some (.v6 ip) => some (((ipv4Mapped ip).map .v4).getD (.v6 ip))
    | address => address

/-- `_canonical_host`. -/
def canonicalHost (host : Str) : Str :=
  match canonicalAddress host with
  | none => host
  | some address => address.text

/-- `_proxy_network`. `repr` writes an entry in the message of an error, and `refused` is what
`ip_network` says of one. -/
def proxyNetwork (repr refused : Str → String) (entry : Str) : Except Exn IpNetwork :=
  if entry.contains (chr '%') then
    .error (.valueError (s!"Trusted proxy entry {repr entry} carries an interface zone: a zone is " ++
      "local to one host and is ignored when an address is matched against a network, so it " ++
      "would widen the entry to every interface. Configure the address or network without it."))
  else
    match ipNetwork entry with
    | some network => .ok network
    | none =>
      .error (.valueError (s!"Trusted proxy entry {repr entry} is not an IP address or CIDR " ++
        s!"network: {refused entry}"))

namespace TrustedProxies

/-- The entries of a CSV text. -/
def entries (py : Platform) (raw : Str) : List Str :=
  ((split (chr ',') raw).map (strip py)).filter (· ≠ [])

/-- `parse`. -/
def parse (py : Platform) (repr refused : Str → String) (raw : Str) : Except Exn TrustedProxies := do
  return ⟨← (entries py raw).mapM (proxyNetwork repr refused)⟩

/-- `trusts`. -/
def trusts (trusted : TrustedProxies) (address : IpAddress) : Bool :=
  trusted.networks.any (·.holds address)

/-- `host in trusted`. -/
def holds (trusted : TrustedProxies) (host : Str) : Bool :=
  (canonicalAddress host).any trusted.trusts

end TrustedProxies

/-! ## The client -/

/-- `_budget_address`. -/
def budgetAddress (address : Str) : Str :=
  match canonicalAddress address with
  | some (.v6 ip) => textNetwork (Network.around ip ipv6BudgetPrefixBits (by decide))
  | some canonical => canonical.text
  | none => address

/-- The entries of one field of a forwarded header, cut out from the right. -/
def entriesOfField (py : Platform) (field : Str) : List Str :=
  match _h : rpartition (chr ',') field with
  | none => [strip py field]
  | some (before, entry) => strip py entry :: entriesOfField py before
termination_by field.length
decreasing_by
  have := congrArg List.length (rpartition_eq_some _h).1
  simp at this
  omega

/-- `_forwarded_entries`. -/
def forwardedEntries (py : Platform) (fields : List Str) : List Str :=
  fields.reverse.flatMap (entriesOfField py)

/-- The loop of `_client_from_chain`: the rightmost hop that is not trusted, among as many as may be
read. -/
def clientFromChain (trusted : TrustedProxies) : ℕ → List Str → Option IpAddress
  | 0, _ => none
  | _ + 1, [] => none
  | hops + 1, entry :: entries =>
    match canonicalAddress entry with
    | none => none
    | some hop => if !trusted.trusts hop then some hop else clientFromChain trusted hops entries

/-- `_get_client_ip`. -/
def getClientIp (py : Platform) (peer : Str) (fields : List Str) (trusted : TrustedProxies) : Str :=
  if !trusted.holds peer then canonicalHost peer
  else
    match clientFromChain trusted maxForwardedForHops (forwardedEntries py fields) with
    | none => canonicalHost peer
    | some client => client.text

/-- `_peer_host` of what the transport says of the client. -/
def peerHost (client : Option Str) : Str := client.getD unknownClientIp

/-- `resolve_client_ip`. -/
def resolveClientIp (py : Platform) (client : Option Str) (scope : Scope)
    (trusted : TrustedProxies) : Str :=
  getClientIp py (peerHost client) (scope.getlist (str "x-forwarded-for")) trusted

/-- `request_is_https`; `scheme` is the connection's. -/
def requestIsHttps (py : Platform) (scheme : Str) (client : Option Str) (scope : Scope)
    (trusted : TrustedProxies) : Bool :=
  if scheme = str "https" then true
  else if !trusted.holds (peerHost client) then false
  else
    py.lower ((forwardedEntries py (scope.getlist (str "x-forwarded-proto"))).head?.getD []) =
      str "https"

end WebAuth
