import WebAuth.KeySetDocuments
import WebAuth.Python.Sextets

/-!
# Canonical base64url

The numbers of a key are read from canonical base64url alone. What the standard library's decoder
would skip, round off or take for padding does not survive the comparison with its encoding, so two
texts of one number differ in the zero bytes they lead with.
-/

namespace WebAuth

open Python

section Decoding

variable {s t : Str} {b : Bytes} {n : ℕ}

/-- The decoder takes the bits of the bytes in groups of six. -/
theorem base64urlDecode_iff : base64urlDecode s = .ok b ↔ s = base64urlText b := by
  rw [base64urlDecode_eq_ok, stripPadding_encode, unpadded_eq]

theorem base64urlUnsigned_iff : base64urlUnsigned s = .ok n ↔
    ∃ b, s = base64urlText b ∧ fromBytesBig b = n := by
  rw [base64urlUnsigned_eq_ok]
  unfold HoldsNumber
  simp only [stripPadding_encode, unpadded_eq, Option.some.injEq, Json.str.injEq]

end Decoding

/-- What `_base64url_decode` reads, and the numbers of what it reads. -/
structure ReadsCanonical : Prop where
  /-- It answers bytes for their unpadded encoding. -/
  accepts : ∀ s b, base64urlDecode s = .ok b ↔ s = base64urlText b
  /-- Anything else is a `ValueError`. -/
  refuses : ∀ s, (∀ b, s ≠ base64urlText b) → ∃ message, base64urlDecode s =
    .error (.valueError message)
  /-- Two texts have two answers. -/
  injective : ∀ s t b, base64urlDecode s = .ok b → base64urlDecode t = .ok b → s = t
  /-- It takes the texts of the alphabet with no group alone and no bit after the last byte. -/
  canonical : ∀ s, (∃ b, base64urlDecode s = .ok b) ↔ IsCanonical s
  /-- Neither padding nor the standard alphabet's own characters are in the alphabet. -/
  foreign : chr '=' ∉ base64Alphabet ∧ chr '+' ∉ base64Alphabet ∧ chr '/' ∉ base64Alphabet
  /-- Two texts hold one number when their bytes differ in leading zeros. -/
  numbers : ∀ s t, (∃ n, base64urlUnsigned s = .ok n ∧ base64urlUnsigned t = .ok n) ↔
    ∃ k l b, s = base64urlText (List.replicate k 0 ++ b) ∧
      t = base64urlText (List.replicate l 0 ++ b)

/-- **Base64url is read canonically.** -/
theorem canonical_base64url : ReadsCanonical := by
  refine ⟨fun s b => base64urlDecode_iff, fun s h => ?_, fun s t b hs ht => ?_, fun s => ?_,
    by decide +kernel, fun s t => ?_⟩
  · cases hdecode : base64urlDecode s with
    | ok b => exact absurd (base64urlDecode_iff.1 hdecode) (h b)
    | error e =>
      obtain ⟨message, rfl⟩ := base64urlDecode_raises s e hdecode
      exact ⟨message, rfl⟩
  · rw [base64urlDecode_iff.1 hs, base64urlDecode_iff.1 ht]
  · rw [isCanonical_iff]
    exact exists_congr fun b => base64urlDecode_iff
  · simp only [base64urlUnsigned_iff]
    constructor
    · rintro ⟨n, ⟨b, rfl, rfl⟩, c, rfl, heq⟩
      obtain ⟨l, k, rest, rfl, rfl⟩ := fromBytesBig_eq_iff.1 heq
      exact ⟨k, l, rest, rfl, rfl⟩
    · rintro ⟨k, l, b, rfl, rfl⟩
      exact ⟨fromBytesBig b, ⟨_, rfl, fromBytesBig_zeros k b⟩, _, rfl, fromBytesBig_zeros l b⟩

end WebAuth
