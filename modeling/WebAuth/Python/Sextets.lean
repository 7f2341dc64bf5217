import WebAuth.Python.Fields
import Mathlib.Data.Nat.Digits.Lemmas

/-!
# Base64url bit by bit

The bits of the bytes, cut into groups of six, the last one filled with zeros: each group is a
character of the alphabet. A text is such an encoding when no other character stands in it, no group
is left alone, and what fills the last group is zero. Bytes that make one number differ in their
leading zeros.
-/

namespace Python

/-! ## Bits -/

/-- The lowest bits of a number, the highest of them first. -/
def bits : ℕ → ℕ → List Bool
  | 0, _ => []
  | width + 1, n => n.testBit width :: bits width n

/-- The number of a row of bits, the highest first. -/
def ofBits (row : List Bool) : ℕ := row.foldl (fun n bit => 2 * n + bit.toNat) 0

/-- The groups of six of a row of bits, the last one filled with zeros. -/
def sextets : List Bool → List ℕ
  | a :: b :: c :: d :: e :: f :: rest => ofBits [a, b, c, d, e, f] :: sextets rest
  | [] => []
  | short => [ofBits (short ++ List.replicate (6 - short.length) false)]

/-- The bits of bytes. -/
def byteBits (b : Bytes) : List Bool := b.flatMap fun x => bits 8 x.toNat

/-- The unpadded base64url encoding of bytes. -/
def base64urlText (b : Bytes) : Str := (sextets (byteBits b)).map base64Char

/-- A text of the alphabet, with no group alone and with zeros after the last byte. -/
structure IsCanonical (s : Str) : Prop where
  alphabet : ∀ c ∈ s, c ∈ base64Alphabet
  length : s.length % 4 ≠ 1
  trailing : ∀ n < 64, s.getLast? = some (base64Char n) → n % 2 ^ (6 * s.length % 8) = 0

section Bits

variable {m n width : ℕ}

theorem foldl_bits (start width n : ℕ) :
    (bits width n).foldl (fun n bit => 2 * n + bit.toNat) start =
      start * 2 ^ width + n % 2 ^ width := by
  induction width generalizing start with
  | zero => simp [bits, Nat.mod_one]
  | succ width ih =>
    rw [bits, List.foldl_cons, ih, Nat.mod_pow_succ, ← Nat.toNat_testBit, pow_succ]
    ring

theorem ofBits_bits (h : n < 2 ^ width) : ofBits (bits width n) = n := by
  rw [ofBits, foldl_bits, zero_mul, zero_add, Nat.mod_eq_of_lt h]

/-- The bits of a number in two parts. -/
theorem bits_append (high : ℕ) (h : n < 2 ^ width) :
    bits (high + width) (m * 2 ^ width + n) = bits high m ++ bits width n := by
  have hbit : ∀ i, (m * 2 ^ width + n).testBit i =
      if i < width then n.testBit i else m.testBit (i - width) := by
    intro i
    rw [mul_comm]
    exact Nat.testBit_two_pow_mul_add m h i
  induction high with
  | zero =>
    have hlow : ∀ k ≤ width, bits k (m * 2 ^ width + n) = bits k n := by
      intro k hk
      induction k with
      | zero => rfl
      | succ k ih => rw [bits, bits, hbit, if_pos (by omega), ih (by omega)]
    rw [zero_add]
    exact hlow width le_rfl
  | succ high ih =>
    rw [show high + 1 + width = high + width + 1 by omega, bits, bits, hbit, if_neg (by omega), ih,
      Nat.add_sub_cancel]
    rfl

/-- The first group of six. -/
theorem sextets_bits (h : n < 64) (rest : List Bool) :
    sextets (bits 6 n ++ rest) = n :: sextets rest := by
  show ofBits (bits 6 n) :: sextets rest = _
  rw [ofBits_bits h]

theorem replicate_false (width : ℕ) : List.replicate width false = bits width 0 := by
  induction width with
  | zero => rfl
  | succ width ih => rw [List.replicate_succ, ih, bits, Nat.zero_testBit]

/-- A last group of two bits, and of four. -/
theorem sextets_two (h : n < 4) : sextets (bits 2 n) = [n * 16] := by
  have hfilled : bits 2 n ++ List.replicate 4 false = bits 6 (n * 16) := by
    rw [replicate_false, ← bits_append 2 (by norm_num)]
    rfl
  show [ofBits (bits 2 n ++ List.replicate 4 false)] = _
  rw [hfilled, ofBits_bits (by omega)]

theorem sextets_four (h : n < 16) : sextets (bits 4 n) = [n * 4] := by
  have hfilled : bits 4 n ++ List.replicate 2 false = bits 6 (n * 4) := by
    rw [replicate_false, ← bits_append 4 (by norm_num)]
    rfl
  show [ofBits (bits 4 n ++ List.replicate 2 false)] = _
  rw [hfilled, ofBits_bits (by omega)]

end Bits

/-! ## The encoding -/

theorem bits_two {high width m n : ℕ} (h : n < 2 ^ width) :
    bits high m ++ bits width n = bits (high + width) (m * 2 ^ width + n) :=
  (bits_append high h).symm

/-- The encoder writes the groups of six. -/
theorem unpadded_eq (b : Bytes) : unpadded b = base64urlText b := by
  unfold base64urlText byteBits
  induction b using unpadded.induct with
  | case1 => rfl
  | case2 x =>
    have hx := x.toNat_lt
    have hbits : bits 8 x.toNat = bits 6 (x.toNat / 4) ++ bits 2 (x.toNat % 4) := by
      rw [bits_two (by omega)]
      exact congrArg (bits 8) (by omega)
    rw [List.flatMap_singleton, hbits, sextets_bits (by omega), sextets_two (by omega)]
    rfl
  | case3 x y =>
    have hx := x.toNat_lt
    have hy := y.toNat_lt
    have hbits : bits 8 x.toNat ++ bits 8 y.toNat = bits 6 (x.toNat / 4) ++
        (bits 6 (x.toNat % 4 * 16 + y.toNat / 16) ++ bits 4 (y.toNat % 16)) := by
      rw [bits_two (by omega), bits_two (by omega), bits_two (by omega)]
      exact congrArg (bits 16) (by omega)
    rw [List.flatMap_cons, List.flatMap_singleton, hbits, sextets_bits (by omega),
      sextets_bits (by omega), sextets_four (by omega)]
    rfl
  | case4 x y z rest ih =>
    have hx := x.toNat_lt
    have hy := y.toNat_lt
    have hz := z.toNat_lt
    have hbits : bits 8 x.toNat ++ (bits 8 y.toNat ++ bits 8 z.toNat) = bits 6 (x.toNat / 4) ++
        (bits 6 (x.toNat % 4 * 16 + y.toNat / 16) ++
          (bits 6 (y.toNat % 16 * 4 + z.toNat / 64) ++ bits 6 (z.toNat % 64))) := by
      rw [bits_two (by omega), bits_two (by omega), bits_two (by omega), bits_two (by omega),
        bits_two (by omega)]
      exact congrArg (bits 24) (by omega)
    rw [List.flatMap_cons, List.flatMap_cons, List.flatMap_cons, ← List.append_assoc (bits 8 _),
      ← List.append_assoc, List.append_assoc (bits 8 _), hbits, List.append_assoc,
      List.append_assoc, List.append_assoc, sextets_bits (by omega), sextets_bits (by omega),
      sextets_bits (by omega), sextets_bits (by omega), unpadded, ih]
    rfl

/-! ## The texts that are encodings -/

theorem base64Char_mem : ∀ n < 64, base64Char n ∈ base64Alphabet := by decide

theorem exists_base64Char {c : CodePoint} (h : c ∈ base64Alphabet) :
    ∃ n < 64, base64Char n = c := by
  obtain ⟨n, hn, rfl⟩ := List.mem_iff_getElem.1 h
  refine ⟨n, hn, ?_⟩
  rw [base64Char, List.getElem?_eq_getElem hn, Option.getD_some]

theorem base64Char_inj {m n : ℕ} (hm : m < 64) (hn : n < 64) (h : base64Char m = base64Char n) :
    m = n := by
  have hvalue := congrArg base64Value h
  rw [base64Value_base64Char hm, base64Value_base64Char hn] at hvalue
  exact Option.some.inj hvalue

/-- A full group before a text changes neither its length nor its last group. -/
theorem isCanonical_cons {a b c d : CodePoint} {s : Str} :
    IsCanonical (a :: b :: c :: d :: s) ↔
      (a ∈ base64Alphabet ∧ b ∈ base64Alphabet ∧ c ∈ base64Alphabet ∧ d ∈ base64Alphabet) ∧
        IsCanonical s := by
  have hlength : (a :: b :: c :: d :: s).length = s.length + 4 := rfl
  have hmod : 6 * (s.length + 4) % 8 = 6 * s.length % 8 := by omega
  have hlast : s ≠ [] → (a :: b :: c :: d :: s).getLast? = s.getLast? := fun hne =>
    List.getLast?_append_of_ne_nil [a, b, c, d] hne
  constructor
  · rintro ⟨halphabet, hone, htrailing⟩
    simp only [List.forall_mem_cons] at halphabet
    obtain ⟨ha, hb, hc, hd, hs⟩ := halphabet
    rw [hlength] at hone
    refine ⟨⟨ha, hb, hc, hd⟩, hs, by omega, fun n hn hchar => ?_⟩
    have hne : s ≠ [] := by
      rintro rfl
      cases hchar
    have hzero := htrailing n hn ((hlast hne).trans hchar)
    rwa [hlength, hmod] at hzero
  · rintro ⟨⟨ha, hb, hc, hd⟩, hs, hone, htrailing⟩
    refine ⟨?_, by rw [hlength]; omega, fun n hn hchar => ?_⟩
    · simp only [List.forall_mem_cons]
      exact ⟨ha, hb, hc, hd, hs⟩
    · rw [hlength, hmod]
      by_cases hne : s = []
      · rw [hne]
        exact Nat.mod_one n
      · rw [hlast hne] at hchar
        exact htrailing n hn hchar

theorem isCanonical_unpadded (b : Bytes) : IsCanonical (unpadded b) := by
  induction b using unpadded.induct with
  | case1 => exact ⟨fun _ h => absurd h List.not_mem_nil, by decide, fun _ _ h => by cases h⟩
  | case2 x =>
    have hx := x.toNat_lt
    have hlength : (unpadded [x]).length = 2 := rfl
    refine ⟨?_, by rw [hlength]; decide, fun n hn hchar => ?_⟩
    · simp only [unpadded, List.forall_mem_cons]
      exact ⟨base64Char_mem _ (by omega), base64Char_mem _ (by omega),
        fun _ h => absurd h List.not_mem_nil⟩
    · have hlast := base64Char_inj (by omega) hn (Option.some.inj hchar)
      rw [hlength]
      show n % 16 = 0
      omega
  | case3 x y =>
    have hx := x.toNat_lt
    have hy := y.toNat_lt
    have hlength : (unpadded [x, y]).length = 3 := rfl
    refine ⟨?_, by rw [hlength]; decide, fun n hn hchar => ?_⟩
    · simp only [unpadded, List.forall_mem_cons]
      exact ⟨base64Char_mem _ (by omega), base64Char_mem _ (by omega), base64Char_mem _ (by omega),
        fun _ h => absurd h List.not_mem_nil⟩
    · have hlast := base64Char_inj (by omega) hn (Option.some.inj hchar)
      rw [hlength]
      show n % 4 = 0
      omega
  | case4 x y z rest ih =>
    have hx := x.toNat_lt
    have hy := y.toNat_lt
    have hz := z.toNat_lt
    exact isCanonical_cons.2 ⟨⟨base64Char_mem _ (by omega), base64Char_mem _ (by omega),
      base64Char_mem _ (by omega), base64Char_mem _ (by omega)⟩, ih⟩

/-- Every canonical text is the encoding of some bytes, group by group. -/
theorem exists_unpadded : ∀ {s : Str}, IsCanonical s → ∃ b, unpadded b = s
  | [], _ => ⟨[], rfl⟩
  | [_], h => absurd rfl h.length
  | [a, b], h => by
    obtain ⟨i, hi, rfl⟩ := exists_base64Char (h.alphabet a (by simp))
    obtain ⟨j, hj, rfl⟩ := exists_base64Char (h.alphabet b (by simp))
    have htrailing : j % 2 ^ (6 * 2 % 8) = 0 := h.trailing j hj rfl
    have hzero : j % 16 = 0 := htrailing
    have hx : (UInt8.ofNat (i * 4 + j / 16)).toNat = i * 4 + j / 16 :=
      toNat_ofNat_byte (by omega)
    refine ⟨[UInt8.ofNat (i * 4 + j / 16)], ?_⟩
    rw [unpadded, hx, show (i * 4 + j / 16) / 4 = i by omega,
      show (i * 4 + j / 16) % 4 * 16 = j by omega]
  | [a, b, c], h => by
    obtain ⟨i, hi, rfl⟩ := exists_base64Char (h.alphabet a (by simp))
    obtain ⟨j, hj, rfl⟩ := exists_base64Char (h.alphabet b (by simp))
    obtain ⟨k, hk, rfl⟩ := exists_base64Char (h.alphabet c (by simp))
    have htrailing : k % 2 ^ (6 * 3 % 8) = 0 := h.trailing k hk rfl
    have hzero : k % 4 = 0 := htrailing
    have hx : (UInt8.ofNat (i * 4 + j / 16)).toNat = i * 4 + j / 16 :=
      toNat_ofNat_byte (by omega)
    have hy : (UInt8.ofNat (j % 16 * 16 + k / 4)).toNat = j % 16 * 16 + k / 4 :=
      toNat_ofNat_byte (by omega)
    refine ⟨[UInt8.ofNat (i * 4 + j / 16), UInt8.ofNat (j % 16 * 16 + k / 4)], ?_⟩
    rw [unpadded, hx, hy, show (i * 4 + j / 16) / 4 = i by omega,
      show (i * 4 + j / 16) % 4 * 16 + (j % 16 * 16 + k / 4) / 16 = j by omega,
      show (j % 16 * 16 + k / 4) % 16 * 4 = k by omega]
  | a :: b :: c :: d :: s, h => by
    obtain ⟨⟨ha, hb, hc, hd⟩, hs⟩ := isCanonical_cons.1 h
    obtain ⟨i, hi, rfl⟩ := exists_base64Char ha
    obtain ⟨j, hj, rfl⟩ := exists_base64Char hb
    obtain ⟨k, hk, rfl⟩ := exists_base64Char hc
    obtain ⟨l, hl, rfl⟩ := exists_base64Char hd
    obtain ⟨rest, rfl⟩ := exists_unpadded hs
    have hx : (UInt8.ofNat (i * 4 + j / 16)).toNat = i * 4 + j / 16 :=
      toNat_ofNat_byte (by omega)
    have hy : (UInt8.ofNat (j % 16 * 16 + k / 4)).toNat = j % 16 * 16 + k / 4 :=
      toNat_ofNat_byte (by omega)
    have hz : (UInt8.ofNat (k % 4 * 64 + l)).toNat = k % 4 * 64 + l :=
      toNat_ofNat_byte (by omega)
    refine ⟨UInt8.ofNat (i * 4 + j / 16) :: UInt8.ofNat (j % 16 * 16 + k / 4) ::
      UInt8.ofNat (k % 4 * 64 + l) :: rest, ?_⟩
    rw [unpadded, hx, hy, hz, show (i * 4 + j / 16) / 4 = i by omega,
      show (i * 4 + j / 16) % 4 * 16 + (j % 16 * 16 + k / 4) / 16 = j by omega,
      show (j % 16 * 16 + k / 4) % 16 * 4 + (k % 4 * 64 + l) / 64 = k by omega,
      show (k % 4 * 64 + l) % 64 = l by omega]

/-- **The canonical texts are the encodings.** -/
theorem isCanonical_iff {s : Str} : IsCanonical s ↔ ∃ b, s = base64urlText b := by
  constructor
  · intro h
    obtain ⟨b, rfl⟩ := exists_unpadded h
    exact ⟨b, unpadded_eq b⟩
  · rintro ⟨b, rfl⟩
    rw [← unpadded_eq]
    exact isCanonical_unpadded b

/-! ## The number of bytes -/

/-- `b.lstrip(b"\0")`. -/
def withoutZeros (b : Bytes) : Bytes := b.dropWhile (· = 0)

theorem fromBytesBig_append_singleton (b : Bytes) (x : UInt8) :
    fromBytesBig (b ++ [x]) = fromBytesBig b * 256 + x.toNat := List.foldl_concat ..

theorem fromBytesBig_zeros (k : ℕ) (b : Bytes) :
    fromBytesBig (List.replicate k 0 ++ b) = fromBytesBig b := by
  induction k with
  | zero => rfl
  | succ k ih =>
    rw [List.replicate_succ, List.cons_append]
    exact ih

/-- Bytes are their leading zeros and the rest. -/
theorem exists_zeros (b : Bytes) : ∃ k, b = List.replicate k 0 ++ withoutZeros b := by
  refine ⟨(b.takeWhile (· = 0)).length, ?_⟩
  have hzeros : List.replicate (b.takeWhile (· = 0)).length 0 = b.takeWhile (· = 0) := by
    refine (List.eq_replicate_of_mem fun x hx => ?_).symm
    simpa using List.mem_takeWhile_imp hx
  unfold withoutZeros
  rw [hzeros, List.takeWhile_append_dropWhile]

theorem fromBytesBig_eq_ofDigits (b : Bytes) :
    fromBytesBig b = Nat.ofDigits 256 (b.map UInt8.toNat).reverse := by
  induction b using List.reverseRecOn with
  | nil => rfl
  | append_singleton b x ih =>
    rw [fromBytesBig_append_singleton, ih, List.map_append, List.map_singleton,
      List.reverse_append, List.reverse_singleton, List.singleton_append, Nat.ofDigits_cons]
    ring

/-- The digits of the number are the bytes without their leading zeros. -/
theorem digits_fromBytesBig (b : Bytes) :
    Nat.digits 256 (fromBytesBig b) = ((withoutZeros b).map UInt8.toNat).reverse := by
  obtain ⟨k, hk⟩ := exists_zeros b
  conv_lhs => rw [hk, fromBytesBig_zeros, fromBytesBig_eq_ofDigits]
  refine Nat.digits_ofDigits 256 (by norm_num) _ (fun d hd => ?_) fun hne => ?_
  · obtain ⟨x, -, rfl⟩ := List.mem_map.1 (List.mem_reverse.1 hd)
    exact x.toNat_lt
  · rw [List.getLast_reverse]
    have hrest : withoutZeros b ≠ [] := by simpa using hne
    have hhead := List.head_dropWhile_not (fun x : UInt8 => decide (x = 0)) hrest
    rw [List.head_map]
    intro hzero
    have hfirst : (withoutZeros b).head hrest = 0 := UInt8.toNat_inj.1 hzero
    exact absurd hfirst (of_decide_eq_false hhead)

/-- **Bytes make one number when they differ in their leading zeros.** -/
theorem fromBytesBig_eq_iff {b c : Bytes} : fromBytesBig b = fromBytesBig c ↔
    ∃ k l rest, b = List.replicate k 0 ++ rest ∧ c = List.replicate l 0 ++ rest := by
  constructor
  · intro h
    have hdigits := congrArg (Nat.digits 256) h
    rw [digits_fromBytesBig, digits_fromBytesBig] at hdigits
    have hrest : withoutZeros b = withoutZeros c :=
      List.map_injective_iff.2 (fun x y => UInt8.toNat_inj.1) (List.reverse_injective hdigits)
    obtain ⟨k, hk⟩ := exists_zeros b
    obtain ⟨l, hl⟩ := exists_zeros c
    exact ⟨k, l, withoutZeros b, hk, by rwa [hrest]⟩
  · rintro ⟨k, l, rest, rfl, rfl⟩
    rw [fromBytesBig_zeros, fromBytesBig_zeros]

end Python
