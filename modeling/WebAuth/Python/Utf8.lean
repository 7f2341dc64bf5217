import WebAuth.Python.Text

/-!
# UTF-8

`encode` refuses a lone surrogate, as `str.encode()` does. `decode` takes the error handler as an
argument: `strict` refuses the first byte that starts no well-formed sequence, `surrogateEscape`
replaces it by a surrogate and goes on. What `strict` decodes, every handler decodes alike.
-/

namespace Python

/-- The surrogates. -/
def isSurrogate (n : ℕ) : Bool := 0xD800 ≤ n && n < 0xE000

/-- The bytes of one code point. -/
def encodePoint (c : CodePoint) : Option Bytes :=
  if c.val < 0x80 then some [UInt8.ofNat c.val]
  else if c.val < 0x800 then
    some [UInt8.ofNat (0xC0 + c.val / 64), UInt8.ofNat (0x80 + c.val % 64)]
  else if isSurrogate c.val then none
  else if c.val < 0x10000 then
    some [UInt8.ofNat (0xE0 + c.val / 4096), UInt8.ofNat (0x80 + c.val / 64 % 64),
      UInt8.ofNat (0x80 + c.val % 64)]
  else
    some [UInt8.ofNat (0xF0 + c.val / 262144), UInt8.ofNat (0x80 + c.val / 4096 % 64),
      UInt8.ofNat (0x80 + c.val / 64 % 64), UInt8.ofNat (0x80 + c.val % 64)]

/-- `s.encode()`, `none` being `UnicodeEncodeError`. -/
def encode : Str → Option Bytes
  | [] => some []
  | c :: s =>
    match encodePoint c, encode s with
    | some b, some bs => some (b ++ bs)
    | _, _ => none

/-- A decoded number, when it is a scalar value no shorter sequence could have carried. -/
def scalar (least n : ℕ) : Option CodePoint :=
  if h : n < 0x110000 then if least ≤ n && !isSurrogate n then some ⟨n, h⟩ else none else none

/-- The payload of a continuation byte. -/
def continuation (b : UInt8) : Option ℕ :=
  if 0x80 ≤ b.toNat ∧ b.toNat < 0xC0 then some (b.toNat - 0x80) else none

/-- The code point of the well-formed sequence some bytes begin with, and how many bytes follow
its first. -/
def sequence : Bytes → Option (CodePoint × ℕ)
  | [] => none
  | b :: rest =>
    if b.toNat < 0x80 then (scalar 0 b.toNat).map (·, 0)
    else if b.toNat < 0xC0 then none
    else if b.toNat < 0xE0 then
      match rest with
      | b₁ :: _ => do
        let x ← continuation b₁
        (scalar 0x80 ((b.toNat - 0xC0) * 64 + x)).map (·, 1)
      | _ => none
    else if b.toNat < 0xF0 then
      match rest with
      | b₁ :: b₂ :: _ => do
        let x ← continuation b₁
        let y ← continuation b₂
        (scalar 0x800 ((b.toNat - 0xE0) * 4096 + x * 64 + y)).map (·, 2)
      | _ => none
    else
      match rest with
      | b₁ :: b₂ :: b₃ :: _ => do
        let x ← continuation b₁
        let y ← continuation b₂
        let z ← continuation b₃
        (scalar 0x10000 ((b.toNat - 0xF0) * 262144 + x * 4096 + y * 64 + z)).map (·, 3)
      | _ => none

/-- Decode, the first `skip` bytes belonging to a sequence already read. -/
def decodeAfter (errors : UInt8 → Option CodePoint) : ℕ → Bytes → Option Str
  | _, [] => some []
  | skip + 1, _ :: bs => decodeAfter errors skip bs
  | 0, b :: bs =>
    match sequence (b :: bs) with
    | some (c, more) => (decodeAfter errors more bs).map (c :: ·)
    | none =>
      match errors b with
      | some c => (decodeAfter errors 0 bs).map (c :: ·)
      | none => none

/-- `bytes.decode("utf-8", errors)`. -/
def decode (errors : UInt8 → Option CodePoint) (b : Bytes) : Option Str := decodeAfter errors 0 b

/-- `errors="strict"`. -/
def strict : UInt8 → Option CodePoint := fun _ => none

/-- `errors="surrogateescape"`. -/
def surrogateEscape (b : UInt8) : Option CodePoint :=
  some ⟨0xDC00 + b.toNat, by have := b.toNat_lt; omega⟩

/-! ## Encoding is injective -/

theorem toNat_ofNat_byte {n : ℕ} (h : n < 256) : (UInt8.ofNat n).toNat = n := by
  rw [UInt8.toNat_ofNat']
  exact Nat.mod_eq_of_lt h

theorem continuation_ofNat {n : ℕ} (h : n < 64) :
    continuation (UInt8.ofNat (0x80 + n)) = some n := by
  unfold continuation
  rw [toNat_ofNat_byte (by omega), if_pos (by omega), Nat.add_sub_cancel_left]

theorem scalar_val {least : ℕ} {c : CodePoint} (h : least ≤ c.val)
    (hs : isSurrogate c.val = false) : scalar least c.val = some c := by
  unfold scalar
  rw [dif_pos c.isLt, if_pos (by simp [h, hs])]

/-- What encodes a code point is read back as that code point, whatever follows. -/
theorem sequence_encodePoint {c : CodePoint} {b : Bytes} (h : encodePoint c = some b)
    (rest : Bytes) : ∃ b₀ bs, b = b₀ :: bs ∧ sequence (b₀ :: (bs ++ rest)) = some (c, bs.length) := by
  have hc := c.isLt
  unfold encodePoint at h
  split_ifs at h with h1 h2 h3 h4 <;> obtain rfl := Option.some.inj h
  · refine ⟨_, [], rfl, ?_⟩
    have hs : isSurrogate c.val = false := by simp [isSurrogate]; omega
    simp [sequence, toNat_ofNat_byte (show c.val < 256 by omega), h1, scalar_val (Nat.zero_le _) hs]
  · refine ⟨_, _, rfl, ?_⟩
    have hs : isSurrogate c.val = false := by simp [isSurrogate]; omega
    have hv : (0xC0 + c.val / 64 - 0xC0) * 64 + c.val % 64 = c.val := by omega
    have hb := toNat_ofNat_byte (show 0xC0 + c.val / 64 < 256 by omega)
    rw [sequence.eq_def]
    simp only [List.cons_append, List.nil_append, hb, continuation_ofNat (show c.val % 64 < 64 by omega)]
    rw [if_neg (by omega), if_neg (by omega), if_pos (by omega)]
    simp only [Option.bind_eq_bind, Option.bind_some, hv, scalar_val (show 0x80 ≤ c.val by omega) hs,
      Option.map_some, List.length_cons, List.length_nil]
  · refine ⟨_, _, rfl, ?_⟩
    have hs : isSurrogate c.val = false := by simpa using h3
    have hv : (0xE0 + c.val / 4096 - 0xE0) * 4096 + c.val / 64 % 64 * 64 + c.val % 64 = c.val := by
      omega
    have hb := toNat_ofNat_byte (show 0xE0 + c.val / 4096 < 256 by omega)
    rw [sequence.eq_def]
    simp only [List.cons_append, List.nil_append, hb,
      continuation_ofNat (show c.val % 64 < 64 by omega),
      continuation_ofNat (show c.val / 64 % 64 < 64 by omega)]
    rw [if_neg (by omega), if_neg (by omega), if_neg (by omega), if_pos (by omega)]
    simp only [Option.bind_eq_bind, Option.bind_some, hv, scalar_val (show 0x800 ≤ c.val by omega) hs,
      Option.map_some, List.length_cons, List.length_nil]
  · refine ⟨_, _, rfl, ?_⟩
    have hs : isSurrogate c.val = false := by simpa using h3
    have hv : (0xF0 + c.val / 262144 - 0xF0) * 262144 + c.val / 4096 % 64 * 4096
        + c.val / 64 % 64 * 64 + c.val % 64 = c.val := by omega
    have hb := toNat_ofNat_byte (show 0xF0 + c.val / 262144 < 256 by omega)
    rw [sequence.eq_def]
    simp only [List.cons_append, List.nil_append, hb,
      continuation_ofNat (show c.val % 64 < 64 by omega),
      continuation_ofNat (show c.val / 64 % 64 < 64 by omega),
      continuation_ofNat (show c.val / 4096 % 64 < 64 by omega)]
    rw [if_neg (by omega), if_neg (by omega), if_neg (by omega), if_neg (by omega)]
    simp only [Option.bind_eq_bind, Option.bind_some, hv, scalar_val (show 0x10000 ≤ c.val by omega) hs,
      Option.map_some, List.length_cons, List.length_nil]

theorem encode_cons_eq_some {c : CodePoint} {s : Str} {b : Bytes} (h : encode (c :: s) = some b) :
    ∃ b₁ b₂, encodePoint c = some b₁ ∧ encode s = some b₂ ∧ b = b₁ ++ b₂ := by
  unfold encode at h
  split at h
  · rename_i b₁ b₂ h₁ h₂
    exact ⟨b₁, b₂, h₁, h₂, (Option.some.inj h).symm⟩
  · cases h

/-- Two strings with one encoding are one string. -/
theorem encode_injective {s t : Str} {b : Bytes} (hs : encode s = some b)
    (ht : encode t = some b) : s = t := by
  induction s generalizing t b with
  | nil =>
    obtain rfl := Option.some.inj hs
    cases t with
    | nil => rfl
    | cons d t =>
      obtain ⟨b₁, b₂, h₁, -, hb⟩ := encode_cons_eq_some ht
      obtain ⟨b₀, bs, rfl, -⟩ := sequence_encodePoint h₁ []
      simp at hb
  | cons c s ih =>
    obtain ⟨b₁, b₂, h₁, h₂, rfl⟩ := encode_cons_eq_some hs
    cases t with
    | nil =>
      obtain ⟨b₀, bs, rfl, -⟩ := sequence_encodePoint h₁ []
      simp [encode] at ht
    | cons d t =>
      obtain ⟨c₁, c₂, g₁, g₂, hb⟩ := encode_cons_eq_some ht
      obtain ⟨x, xs, rfl, hx⟩ := sequence_encodePoint h₁ b₂
      obtain ⟨y, ys, rfl, hy⟩ := sequence_encodePoint g₁ c₂
      simp only [List.cons_append, List.cons.injEq] at hb
      obtain ⟨rfl, htail⟩ := hb
      rw [htail, hy] at hx
      obtain ⟨rfl, hlen⟩ := Prod.mk.inj (Option.some.inj hx)
      obtain ⟨rfl, rfl⟩ := List.append_inj htail hlen.symm
      rw [ih h₂ g₂]

/-! ## Decoding strictly -/

/-- What the strict handler decodes, every handler decodes to the same string. -/
theorem decodeAfter_of_strict {errors : UInt8 → Option CodePoint} {skip : ℕ} {b : Bytes} {s : Str}
    (h : decodeAfter strict skip b = some s) : decodeAfter errors skip b = some s := by
  induction b generalizing skip s with
  | nil => simpa [decodeAfter] using h
  | cons x bs ih =>
    cases skip with
    | succ skip =>
      rw [decodeAfter] at h ⊢
      exact ih h
    | zero =>
      rw [decodeAfter] at h ⊢
      cases hseq : sequence (x :: bs) with
      | none => simp [hseq, strict] at h
      | some p =>
        simp only [hseq, Option.map_eq_some_iff] at h ⊢
        obtain ⟨t, ht, rfl⟩ := h
        exact ⟨t, ih ht, rfl⟩

theorem decode_of_strict {errors : UInt8 → Option CodePoint} {b : Bytes} {s : Str}
    (h : decode strict b = some s) : decode errors b = some s := decodeAfter_of_strict h

end Python
