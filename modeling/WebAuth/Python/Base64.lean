import WebAuth.Python.Text

/-!
# Base64url

`urlsafe_b64encode`, and `urlsafe_b64decode` with the standard library's lenient reading: a
character outside the alphabet is skipped, padding ends the input once the last group is full, and
a last group that is left open is refused.
-/

namespace Python

/-- The base64url alphabet. -/
def base64Alphabet : Str :=
  str "ABCDEFGHIJKLMNOPQRSTUVWXYZabcdefghijklmnopqrstuvwxyz0123456789-_"

/-- The character of a six-bit group. -/
def base64Char (n : ℕ) : CodePoint := (base64Alphabet[n]?).getD (chr 'A')

/-- The six bits of a character; the standard alphabet's `+` and `/` read as `-` and `_` do. -/
def base64Value (c : CodePoint) : Option ℕ :=
  if c = chr '+' then some 62
  else if c = chr '/' then some 63
  else base64Alphabet.findIdx? (· = c)

/-- `base64.urlsafe_b64encode(b)`. -/
def urlsafeB64encode : Bytes → Str
  | [] => []
  | [x] => [base64Char (x.toNat / 4), base64Char (x.toNat % 4 * 16), chr '=', chr '=']
  | [x, y] =>
    [base64Char (x.toNat / 4), base64Char (x.toNat % 4 * 16 + y.toNat / 16),
      base64Char (y.toNat % 16 * 4), chr '=']
  | x :: y :: z :: rest =>
    base64Char (x.toNat / 4) :: base64Char (x.toNat % 4 * 16 + y.toNat / 16) ::
      base64Char (y.toNat % 16 * 4 + z.toNat / 64) :: base64Char (z.toNat % 64) ::
      urlsafeB64encode rest

/-- `base64.b64encode(b)`. -/
def b64encode (b : Bytes) : Str :=
  (urlsafeB64encode b).map fun c =>
    if c = chr '-' then chr '+' else if c = chr '_' then chr '/' else c

/-- `s.rstrip("=")`. -/
def stripPadding (s : Str) : Str := s.rdropWhile (· = chr '=')

/-- Where the decoder stands: the place in a group of four, the bits left over, and the pads seen
since the last data character. -/
structure Base64State where
  quad : ℕ
  left : ℕ
  pads : ℕ

/-- Decode from a state; `none` is `binascii.Error`. -/
def decodeGroups : Base64State → Str → Option Bytes
  | s, [] => if s.quad = 0 then some [] else none
  | s, c :: rest =>
    if c = chr '=' then
      if 2 ≤ s.quad && 4 ≤ s.quad + (s.pads + 1) then some []
      else decodeGroups { s with pads := if 2 ≤ s.quad then s.pads + 1 else s.pads } rest
    else
      match base64Value c with
      | none => decodeGroups s rest
      | some v =>
        if s.quad = 0 then decodeGroups ⟨1, v, 0⟩ rest
        else if s.quad = 1 then
          (decodeGroups ⟨2, v % 16, 0⟩ rest).map (UInt8.ofNat (s.left * 4 + v / 16) :: ·)
        else if s.quad = 2 then
          (decodeGroups ⟨3, v % 4, 0⟩ rest).map (UInt8.ofNat (s.left * 16 + v / 4) :: ·)
        else (decodeGroups ⟨0, 0, 0⟩ rest).map (UInt8.ofNat (s.left * 64 + v) :: ·)

/-- `base64.urlsafe_b64decode(s)`; `none` is `ValueError`, which `binascii.Error` is. -/
def urlsafeB64decode (s : Str) : Option Bytes :=
  if isAscii s then decodeGroups ⟨0, 0, 0⟩ s else none

/-- `s + "=" * (-len(s) % 4)`. -/
def padded (s : Str) : Str := s ++ List.replicate ((4 - s.length % 4) % 4) (chr '=')

/-- `int.from_bytes(b, byteorder="big")`. -/
def fromBytesBig (b : Bytes) : ℕ := b.foldl (fun n x => n * 256 + x.toNat) 0

end Python
