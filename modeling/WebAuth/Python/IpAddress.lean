import WebAuth.Python.Fields

/-!
# IP addresses

The `ipaddress` module: which texts are addresses and networks, how an address is written, and which
addresses a network holds. A text with a zone identifier is not read here.
-/

namespace Python

instance neZero_ipv4 : NeZero (2 ^ 32) := ⟨by norm_num⟩

instance neZero_ipv6 : NeZero (2 ^ 128) := ⟨by norm_num⟩

/-! ## IPv4 -/

/-- A decimal octet: no sign, no leading zero, at most 255. -/
def parseOctet (octet : Str) : Option ℕ :=
  if octet = [] || !octet.all isDigit || 3 < octet.length ||
      (octet ≠ str "0" && octet.head? = some (chr '0')) || 255 < ofDecimal octet then none
  else some (ofDecimal octet)

/-- The number of four octets. -/
def ofOctets (a b c d : ℕ) : ℕ := ((a * 256 + b) * 256 + c) * 256 + d

/-- `IPv4Address(text)`. -/
def parseIPv4 (text : Str) : Option (Fin (2 ^ 32)) :=
  match (split (chr '.') text).mapM parseOctet with
  | some [a, b, c, d] => some (Fin.ofNat _ (ofOctets a b c d))
  | _ => none

/-- `str` of an `IPv4Address`. -/
def textIPv4 (ip : Fin (2 ^ 32)) : Str :=
  join (chr '.') ([ip.val / 2 ^ 24, ip.val / 2 ^ 16 % 256, ip.val / 2 ^ 8 % 256,
    ip.val % 256].map decimal)

/-! ## IPv6 -/

/-- A character of `_HEX_DIGITS`. -/
def isAnyHexDigit (c : CodePoint) : Bool := (hexValue c).isSome

/-- `int(s, 16)` of hex digits. -/
def ofHex (s : Str) : ℕ := Nat.ofDigits 16 (s.reverse.map fun c => (hexValue c).getD 0)

/-- `"%x" % n`. -/
def hexadecimal (n : ℕ) : Str :=
  if n = 0 then [chr '0'] else (Nat.digits 16 n).reverse.map hexDigit

/-- `_parse_hextet`. -/
def parseHextet (hextet : Str) : Option ℕ :=
  if hextet = [] || !hextet.all isAnyHexDigit || 4 < hextet.length then none
  else some (ofHex hextet)

/-- The number of hextets. -/
def ofHextets (hextets : List ℕ) : ℕ := hextets.foldl (fun n hextet => n * 65536 + hextet) 0

/-- The eight hextets of an address. -/
def hextetsOf (ip : ℕ) : List ℕ := (List.range 8).map fun i => ip / 65536 ^ (7 - i) % 65536

/-- An IPv4 tail becomes the two hextets it stands for. -/
def expandTail (parts : List Str) : Option (List Str) :=
  match parts.getLast? with
  | none => some parts
  | some last =>
    if last.contains (chr '.') then
      (parseIPv4 last).map fun ip =>
        parts.dropLast ++ [hexadecimal (ip.val / 65536), hexadecimal (ip.val % 65536)]
    else some parts

/-- The parts around the first empty one that is not the last. -/
def cutInner : List Str → Option (List Str × List Str)
  | [] => none
  | [_] => none
  | part :: next :: rest =>
    if part = [] then some ([], next :: rest)
    else (cutInner (next :: rest)).map fun (high, low) => (part :: high, low)

/-- The parts around the `::`, which an inner empty part is. -/
def cutAtSkip : List Str → Option (List Str × List Str)
  | [] => none
  | first :: rest => (cutInner rest).map fun (high, low) => (first :: high, low)

/-- The hextets on one side of the `::`; an empty part alone belongs to the `::`. -/
def parseSide (parts : List Str) : Option (List ℕ) :=
  if parts = [[]] then some [] else parts.mapM parseHextet

/-- The eight hextets the parts of an IPv6 address spell. -/
def parseHextets (parts : List Str) : Option (List ℕ) :=
  match cutAtSkip parts with
  | none => if parts.length ≠ 8 then none else parts.mapM parseHextet
  | some (high, low) => do
    let high ← parseSide high
    let low ← parseSide low
    if 7 < high.length + low.length then none
    else return high ++ List.replicate (8 - (high.length + low.length)) 0 ++ low

/-- `IPv6Address(text)` of a text without a zone. -/
def parseIPv6 (text : Str) : Option (Fin (2 ^ 128)) :=
  let parts := split (chr ':') text
  if parts.length < 3 then none
  else do
    let parts ← expandTail parts
    if 9 < parts.length then none
    else return Fin.ofNat _ (ofHextets (← parseHextets parts))

/-- Where `_compress_hextets` stands: the longest run of zeros so far, and the run it is in. -/
structure ZeroRuns where
  bestStart : ℕ := 0
  bestLength : ℕ := 0
  start : ℕ := 0
  length : ℕ := 0

/-- The loop of `_compress_hextets` from an index on. -/
def scanZeros : ℕ → ZeroRuns → List Str → ZeroRuns
  | _, runs, [] => runs
  | index, runs, hextet :: hextets =>
    if hextet = str "0" then
      let start := if runs.length = 0 then index else runs.start
      let length := runs.length + 1
      if runs.bestLength < length then scanZeros (index + 1) ⟨start, length, start, length⟩ hextets
      else scanZeros (index + 1) { runs with start, length } hextets
    else scanZeros (index + 1) { runs with start := 0, length := 0 } hextets

/-- `_compress_hextets`. -/
def compressHextets (hextets : List Str) : List Str :=
  let runs := scanZeros 0 {} hextets
  let ends := runs.bestStart + runs.bestLength
  if runs.bestLength ≤ 1 then hextets
  else
    (if runs.bestStart = 0 then [[]] else hextets.take runs.bestStart) ++
      [] :: (if ends = hextets.length then [[]] else hextets.drop ends)

/-- `str` of an `IPv6Address` that is not IPv4-mapped. -/
def textIPv6 (ip : Fin (2 ^ 128)) : Str :=
  join (chr ':') (compressHextets ((hextetsOf ip.val).map hexadecimal))

/-! ## Addresses -/

/-- An `IPv4Address` or an `IPv6Address` without a zone. -/
inductive IpAddress where
  | v4 (ip : Fin (2 ^ 32))
  | v6 (ip : Fin (2 ^ 128))
  deriving DecidableEq

/-- `ip_address(text)` of a text without a zone. -/
def ipAddress (text : Str) : Option IpAddress :=
  match parseIPv4 text with
  | some ip => some (.v4 ip)
  | none => (parseIPv6 text).map .v6

/-- `IPv6Address.ipv4_mapped`. -/
def ipv4Mapped (ip : Fin (2 ^ 128)) : Option (Fin (2 ^ 32)) :=
  if ip.val / 2 ^ 32 = 0xffff then some (Fin.ofNat _ ip.val) else none

/-- `str` of an address that is not IPv4-mapped. -/
def IpAddress.text : IpAddress → Str
  | v4 ip => textIPv4 ip
  | v6 ip => textIPv6 ip

/-! ## Networks -/

/-- A network of addresses of some width: its first address, and how many bits its addresses
share. -/
structure Network (width : ℕ) where
  address : Fin (2 ^ width)
  prefixLength : ℕ
  prefixLength_le : prefixLength ≤ width
  hostBits : address.val % 2 ^ (width - prefixLength) = 0
  deriving DecidableEq

/-- An `IPv4Network` or an `IPv6Network`. -/
inductive IpNetwork where
  | v4 (network : Network 32)
  | v6 (network : Network 128)
  deriving DecidableEq

/-- An address with its host bits cleared. -/
def maskedTo (hostBits ip : ℕ) : ℕ := ip / 2 ^ hostBits * 2 ^ hostBits

/-- The network of an address and a prefix length, when the address has no host bits set. -/
def Network.ofAddress {width : ℕ} (ip : Fin (2 ^ width)) (prefixLength : ℕ) :
    Option (Network width) :=
  if h : prefixLength ≤ width ∧ ip.val % 2 ^ (width - prefixLength) = 0 then
    some ⟨ip, prefixLength, h.1, h.2⟩
  else none

/-- Whether an address of a network's version lies in it. -/
def Network.holds {width : ℕ} (network : Network width) (ip : Fin (2 ^ width)) : Bool :=
  maskedTo (width - network.prefixLength) ip.val = network.address.val

/-- `address in network`. -/
def IpNetwork.holds : IpNetwork → IpAddress → Bool
  | v4 network, .v4 ip => network.holds ip
  | v6 network, .v6 ip => network.holds ip
  | _, _ => false

/-- `_prefix_from_prefix_string`; `int` reads at most 4300 digits. -/
def prefixFromString (width : ℕ) (text : Str) : Option ℕ :=
  if text = [] || !text.all isDigit || 4300 < text.length || width < ofDecimal text then none
  else some (ofDecimal text)

/-- `_prefix_from_ip_int` of a netmask. -/
def prefixFromMask (mask : ℕ) : Option ℕ :=
  (List.range 33).find? fun length => mask = 2 ^ 32 - 2 ^ (32 - length)

/-- `IPv4Network._make_netmask` of a text: a length, a netmask or a hostmask. -/
def netmaskIPv4 (text : Str) : Option ℕ :=
  match prefixFromString 32 text with
  | some length => some length
  | none => (parseIPv4 text).bind fun mask =>
    (prefixFromMask mask.val).or (prefixFromMask (2 ^ 32 - 1 - mask.val))

/-- A network from an address and an optional mask after a slash. -/
def parseNetwork {width : ℕ} (parse : Str → Option (Fin (2 ^ width)))
    (netmask : Str → Option ℕ) (text : Str) : Option (Network width) :=
  match split (chr '/') text with
  | [address] => do Network.ofAddress (← parse address) width
  | [address, mask] => do Network.ofAddress (← parse address) (← netmask mask)
  | _ => none

/-- `ip_network(text)` of a text without a zone; `none` is `ValueError`. -/
def ipNetwork (text : Str) : Option IpNetwork :=
  match parseNetwork parseIPv4 netmaskIPv4 text with
  | some network => some (.v4 network)
  | none => (parseNetwork parseIPv6 (prefixFromString 128) text).map .v6

/-- `IPv6Network((ip, length), strict=False)`. -/
def Network.around {width : ℕ} (ip : Fin (2 ^ width)) (length : ℕ) (h : length ≤ width) :
    Network width where
  address := ⟨maskedTo (width - length) ip.val, (Nat.div_mul_le_self _ _).trans_lt ip.isLt⟩
  prefixLength := length
  prefixLength_le := h
  hostBits := Nat.mul_mod_left _ _

/-- `str` of an `IPv6Network`. -/
def textNetwork (network : Network 128) : Str :=
  textIPv6 network.address ++ str "/" ++ decimal network.prefixLength

/-- A network holds the addresses from its first on, as many as its host bits count. -/
theorem Network.holds_iff {width : ℕ} {network : Network width} {ip : Fin (2 ^ width)} :
    network.holds ip = true ↔ network.address.val ≤ ip.val ∧
      ip.val < network.address.val + 2 ^ (width - network.prefixLength) := by
  have hbits := network.hostBits
  unfold Network.holds maskedTo
  rw [decide_eq_true_eq]
  have hpos : 0 < 2 ^ (width - network.prefixLength) := Nat.two_pow_pos _
  generalize 2 ^ (width - network.prefixLength) = size at hbits hpos
  constructor
  · intro h
    have hdiv := Nat.div_add_mod ip.val size
    have hmod := Nat.mod_lt ip.val hpos
    rw [Nat.mul_comm, h] at hdiv
    omega
  · rintro ⟨hlow, hhigh⟩
    obtain ⟨k, hk⟩ := Nat.dvd_of_mod_eq_zero hbits
    rw [hk] at hlow hhigh ⊢
    have hquotient : ip.val / size = k := by
      refine Nat.div_eq_of_lt_le ?_ ?_
      · rwa [Nat.mul_comm]
      · rwa [Nat.succ_mul, Nat.mul_comm]
    rw [hquotient, Nat.mul_comm]

/-- An address lies in a network of its own version, by its number. -/
def IpNetwork.Spans : IpNetwork → IpAddress → Prop
  | .v4 network, .v4 ip => network.address.val ≤ ip.val ∧
      ip.val < network.address.val + 2 ^ (32 - network.prefixLength)
  | .v6 network, .v6 ip => network.address.val ≤ ip.val ∧
      ip.val < network.address.val + 2 ^ (128 - network.prefixLength)
  | _, _ => False

theorem IpNetwork.holds_iff {network : IpNetwork} {address : IpAddress} :
    network.holds address = true ↔ network.Spans address := by
  cases network with
  | v4 network =>
    cases address with
    | v4 ip => exact Network.holds_iff
    | v6 ip => exact ⟨nofun, nofun⟩
  | v6 network =>
    cases address with
    | v4 ip => exact ⟨nofun, nofun⟩
    | v6 ip => exact Network.holds_iff

end Python
