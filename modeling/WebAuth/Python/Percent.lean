import WebAuth.Python.Fields

/-!
# Percent-encoding

`quote` byte by byte and character by character, with what `unquote_to_bytes` reads back: the bytes
themselves where `%` is escaped, else what the unquoted text already stood for.
-/

namespace Python

/-! ## One byte -/

/-- The upper-case digit of `0 .. 15`. -/
def upperHexDigit (n : ℕ) : CodePoint := ((str "0123456789ABCDEF")[n]?).getD (chr '0')

/-- The escape of one byte. -/
def percentByte (x : UInt8) : Str :=
  [chr '%', upperHexDigit (x.toNat / 16), upperHexDigit (x.toNat % 16)]

/-- Whether a byte is left as its character. -/
def isLeft (safe : CodePoint → Bool) (x : UInt8) : Bool :=
  x.toNat < 0x80 && (isAlwaysSafe (CodePoint.ofByte x) || safe (CodePoint.ofByte x))

/-- The quoted form of one byte. -/
def quoteByte (safe : CodePoint → Bool) (x : UInt8) : Str :=
  if isLeft safe x then [CodePoint.ofByte x] else percentByte x

theorem upperHexDigit_facts : ∀ n < 16, hexValue (upperHexDigit n) = some n ∧
    isAlphaNum (upperHexDigit n) = true := by decide

theorem upper_percent : ∀ n < 16, (if _h : (hexDigit n).between 'a' 'f' then
      (⟨(hexDigit n).val - 32, by have := (hexDigit n).isLt; omega⟩ : CodePoint) else hexDigit n) =
    upperHexDigit n := by decide

theorem quoteFromBytes_eq (safe : CodePoint → Bool) (b : Bytes) :
    quoteFromBytes safe b = b.flatMap (quoteByte safe) := by
  unfold quoteFromBytes
  refine List.flatMap_congr fun x _ => ?_
  have hx := x.toNat_lt
  show (if isLeft safe x then _ else _) = quoteByte safe x
  unfold quoteByte
  split_ifs
  · rfl
  · have hsplit : str "%" ++ hex [x] =
        [chr '%', hexDigit (x.toNat / 16), hexDigit (x.toNat % 16)] := rfl
    have hpercent : (chr '%').between 'a' 'f' = false := by decide
    rw [hsplit]
    simp only [List.map_cons, List.map_nil, upper_percent _ (show x.toNat / 16 < 16 by omega),
      upper_percent _ (show x.toNat % 16 < 16 by omega), hpercent]
    rfl

/-- An escape stands for its byte. -/
theorem escape_percentByte (x : UInt8) (rest : Str) : escape (percentByte x ++ rest) = some x := by
  have hx := x.toNat_lt
  have hhigh := (upperHexDigit_facts (x.toNat / 16) (by omega)).1
  have hlow := (upperHexDigit_facts (x.toNat % 16) (by omega)).1
  show (if chr '%' = chr '%' then (do
      let high ← hexValue (upperHexDigit (x.toNat / 16))
      let low ← hexValue (upperHexDigit (x.toNat % 16))
      return UInt8.ofNat (16 * high + low)) else none : Option UInt8) = some x
  rw [if_pos rfl, hhigh, hlow]
  exact congrArg some (ofNat_eq_of_toNat (by omega))

theorem unquoteAfter_of_escape {c : CodePoint} {s : Str} {v : UInt8}
    (h : escape (c :: s) = some v) : unquoteAfter 0 (c :: s) = v :: unquoteAfter 2 s := by
  rw [unquoteAfter, h]

theorem unquoteAfter_of_none {c : CodePoint} {s : Str} (h : escape (c :: s) = none) :
    unquoteAfter 0 (c :: s) = UInt8.ofNat c.val :: unquoteAfter 0 s := by
  rw [unquoteAfter, h]

theorem unquoteAfter_percentByte (x : UInt8) (rest : Str) :
    unquoteAfter 0 (percentByte x ++ rest) = x :: unquoteAfter 0 rest :=
  unquoteAfter_of_escape (escape_percentByte x rest)

theorem escape_of_ne {c : CodePoint} (h : c ≠ chr '%') (rest : Str) :
    escape (c :: rest) = none := by
  cases rest with
  | nil => rfl
  | cons a rest =>
    cases rest with
    | nil => rfl
    | cons b rest => exact if_neg h

theorem unquoteAfter_of_ne {c : CodePoint} (h : c ≠ chr '%') (rest : Str) :
    unquoteAfter 0 (c :: rest) = UInt8.ofNat c.val :: unquoteAfter 0 rest :=
  unquoteAfter_of_none (escape_of_ne h rest)

/-! ## Quoting and unquoting -/

section Quote

variable {safe : CodePoint → Bool}

/-- Where `%` is escaped, what was quoted reads back. -/
theorem unquoteToBytes_quote (hpercent : isLeft safe 0x25 = false) (b : Bytes) :
    unquoteToBytes (quoteFromBytes safe b) = b := by
  rw [quoteFromBytes_eq, unquoteToBytes]
  induction b with
  | nil => rfl
  | cons x b ih =>
    rw [List.flatMap_cons, quoteByte]
    split_ifs with hleft
    · have hne : CodePoint.ofByte x ≠ chr '%' := by
        intro heq
        have hx : x = 0x25 := UInt8.toNat_inj.1 (show x.toNat = 37 from congrArg Fin.val heq)
        rw [hx, hpercent] at hleft
        cases hleft
      rw [List.singleton_append, unquoteAfter_of_ne hne, ih]
      exact congrArg (· :: b) (ofNat_eq_of_toNat rfl)
    · rw [unquoteAfter_percentByte, ih]

theorem isLeft_ofAlphaNum {x : UInt8} (h : isAlphaNum (CodePoint.ofByte x) = true) :
    isLeft safe x = true := by
  have hlt : x.toNat < 0x80 := of_decide_eq_true
    (isAscii_base64Url (show isBase64Url (CodePoint.ofByte x) = true by simp [isBase64Url, h]))
  simp [isLeft, isAlwaysSafe, h, hlt]

theorem isAlphaNum_of_hexValue {c : CodePoint} {n : ℕ} (h : hexValue c = some n) :
    isAlphaNum c = true := by
  unfold hexValue at h
  have hf : ('f').toNat = 102 := rfl
  have hF : ('F').toNat = 70 := rfl
  have hz : ('z').toNat = 122 := rfl
  have hZ : ('Z').toNat = 90 := rfl
  unfold isAlphaNum
  split_ifs at h with hdigit hlower hupper
  · simp [hdigit]
  · have : c.between 'a' 'z' = true := by
      simp only [CodePoint.between, Bool.and_eq_true, decide_eq_true_eq] at hlower ⊢
      omega
    simp [this]
  · have : c.between 'A' 'Z' = true := by
      simp only [CodePoint.between, Bool.and_eq_true, decide_eq_true_eq] at hupper ⊢
      omega
    simp [this]

/-- A byte that is a hex digit is left, and another does not begin with one. -/
theorem quoteByte_hex (x : UInt8) : (hexValue (CodePoint.ofByte x)).isSome = true ∧
      quoteByte safe x = [CodePoint.ofByte x] ∨
    hexValue (CodePoint.ofByte x) = none ∧
      ∃ c s, quoteByte safe x = c :: s ∧ hexValue c = none := by
  cases hvalue : hexValue (CodePoint.ofByte x) with
  | some n =>
    exact .inl ⟨rfl, if_pos (isLeft_ofAlphaNum (isAlphaNum_of_hexValue hvalue))⟩
  | none =>
    refine .inr ⟨rfl, ?_⟩
    by_cases hleft : isLeft safe x = true
    · exact ⟨_, [], if_pos hleft, hvalue⟩
    · exact ⟨chr '%', _, if_neg hleft, by decide⟩

theorem escape_of_head {c : CodePoint} (h : hexValue c = none) (s : Str) :
    escape (chr '%' :: c :: s) = none := by
  cases s with
  | nil => rfl
  | cons d s =>
    show (if chr '%' = chr '%' then (do
      let high ← hexValue c
      let low ← hexValue d
      return UInt8.ofNat (16 * high + low)) else none : Option UInt8) = none
    rw [if_pos rfl, h]
    rfl

theorem escape_of_second {c d : CodePoint} (h : hexValue d = none) (s : Str) :
    escape (chr '%' :: c :: d :: s) = none := by
  show (if chr '%' = chr '%' then (do
    let high ← hexValue c
    let low ← hexValue d
    return UInt8.ofNat (16 * high + low)) else none : Option UInt8) = none
  rw [if_pos rfl, h]
  cases hexValue c <;> rfl

/-- After a `%` that is left, an escape begins where one did. -/
theorem escape_quote (b : Bytes) :
    escape (chr '%' :: b.flatMap (quoteByte safe)) = none ∧
        escape (chr '%' :: decodeLatin1 b) = none ∨
      ∃ x y rest, b = x :: y :: rest ∧
        b.flatMap (quoteByte safe) =
          CodePoint.ofByte x :: CodePoint.ofByte y :: rest.flatMap (quoteByte safe) := by
  cases b with
  | nil => exact .inl ⟨rfl, rfl⟩
  | cons x b =>
    rw [List.flatMap_cons]
    rcases @quoteByte_hex safe x with ⟨-, hx⟩ | ⟨hx, c, s, hquote, hc⟩
    · cases b with
      | nil =>
        rw [hx]
        exact .inl ⟨rfl, rfl⟩
      | cons y b =>
        rw [List.flatMap_cons, hx]
        rcases @quoteByte_hex safe y with ⟨-, hy⟩ | ⟨hy, c, s, hquote, hc⟩
        · rw [hy]
          exact .inr ⟨x, y, b, rfl, rfl⟩
        · rw [hquote]
          exact .inl ⟨escape_of_second hc _, escape_of_second hy _⟩
    · rw [hquote]
      exact .inl ⟨escape_of_head hc _, escape_of_head hx _⟩

/-- Where `%` is left, quoting does not change what a text stands for. -/
theorem unquoteToBytes_requote (hpercent : isLeft safe 0x25 = true) (b : Bytes) :
    unquoteToBytes (quoteFromBytes safe b) = unquoteToBytes (decodeLatin1 b) := by
  rw [quoteFromBytes_eq, unquoteToBytes, unquoteToBytes]
  induction hlength : b.length using Nat.strong_induction_on generalizing b with
  | _ n ih =>
    cases b with
    | nil => rfl
    | cons x b =>
      have hb := ih b.length (by rw [← hlength]; simp) b rfl
      have hlatin : decodeLatin1 (x :: b) = CodePoint.ofByte x :: decodeLatin1 b := rfl
      rw [List.flatMap_cons, hlatin, quoteByte]
      by_cases hx : x = 0x25
      · have hchar : CodePoint.ofByte x = chr '%' := by rw [hx]; rfl
        rw [hx, if_pos hpercent, ← hx, hchar, List.singleton_append]
        rcases @escape_quote safe b with ⟨hquote, hplain⟩ | ⟨y, z, rest, rfl, hquote⟩
        · rw [unquoteAfter_of_none hquote, unquoteAfter_of_none hplain, hb]
        · have hrest := ih rest.length (by rw [← hlength]; simp; omega) rest rfl
          have hlatin' : decodeLatin1 (y :: z :: rest) =
            CodePoint.ofByte y :: CodePoint.ofByte z :: decodeLatin1 rest := rfl
          rw [hquote, hlatin'] at hb ⊢
          -- The escape after the `%` does not depend on what follows it.
          have hsame : escape (chr '%' :: CodePoint.ofByte y :: CodePoint.ofByte z ::
              rest.flatMap (quoteByte safe)) =
            escape (chr '%' :: CodePoint.ofByte y :: CodePoint.ofByte z :: decodeLatin1 rest) := rfl
          cases hescape : escape (chr '%' :: CodePoint.ofByte y :: CodePoint.ofByte z ::
              decodeLatin1 rest) with
          | none =>
            rw [unquoteAfter_of_none (hsame.trans hescape), unquoteAfter_of_none hescape, hb]
          | some v =>
            rw [unquoteAfter_of_escape (hsame.trans hescape), unquoteAfter_of_escape hescape]
            exact congrArg (v :: ·) hrest
      · have hne : CodePoint.ofByte x ≠ chr '%' := by
          intro heq
          exact hx (UInt8.toNat_inj.1 (show x.toNat = 37 from congrArg Fin.val heq))
        rw [unquoteAfter_of_ne hne]
        split_ifs
        · rw [List.singleton_append, unquoteAfter_of_ne hne, hb]
        · rw [unquoteAfter_percentByte, hb]
          exact congrArg (· :: _) (ofNat_eq_of_toNat rfl).symm

/-! ## One character -/

/-- Whether a character is left as it is. -/
def isKept (safe : CodePoint → Bool) (c : CodePoint) : Bool :=
  c.val < 0x80 && (isAlwaysSafe c || safe c)

/-- The quoted form of one character. -/
def quotePoint (safe : CodePoint → Bool) (c : CodePoint) : Str :=
  ((encodePoint c).getD []).flatMap (quoteByte safe)

/-- A text is quoted character by character. -/
theorem quote_eq_some {s q : Str} :
    quote safe s = some q ↔ IsText s ∧ s.flatMap (quotePoint safe) = q := by
  have hencode : ∀ {s : Str} {b : Bytes}, encode s = some b →
      b.flatMap (quoteByte safe) = s.flatMap (quotePoint safe) := by
    intro s
    induction s with
    | nil =>
      intro b h
      obtain rfl : [] = b := Option.some.inj h
      rfl
    | cons c s ih =>
      intro b h
      obtain ⟨first, rest, hc, hs, rfl⟩ := encode_cons_eq_some h
      rw [List.flatMap_append, ih hs, List.flatMap_cons, quotePoint, hc]
      rfl
  rw [quote, ← encode_isSome]
  cases hs : encode s with
  | none => simp
  | some b => simp [quoteFromBytes_eq, hencode hs]

theorem quotePoint_of_kept {c : CodePoint} (h : isKept safe c = true) :
    quotePoint safe c = [c] := by
  have hparts := h
  rw [isKept, Bool.and_eq_true, decide_eq_true_eq] at hparts
  have hbyte : (UInt8.ofNat c.val).toNat = c.val := toNat_ofNat_byte (by omega)
  have hchar : CodePoint.ofByte (UInt8.ofNat c.val) = c := Fin.ext hbyte
  have hleft : isLeft safe (UInt8.ofNat c.val) = true := by
    rw [isLeft, hchar, hbyte]
    exact h
  rw [quotePoint, encodePoint, if_pos hparts.1]
  show quoteByte safe (UInt8.ofNat c.val) ++ [] = [c]
  rw [quoteByte, if_pos hleft, hchar]
  rfl

/-- The bytes of a character that is no ASCII are none either. -/
theorem encodePoint_high {c : CodePoint} {b : Bytes} (hc : 0x80 ≤ c.val)
    (h : encodePoint c = some b) : b ≠ [] ∧ ∀ x ∈ b, 0x80 ≤ x.toNat := by
  have hlt := c.isLt
  unfold encodePoint at h
  split_ifs at h with h1 h2 h3 h4
  · omega
  · obtain rfl := Option.some.inj h
    simp only [ne_eq, reduceCtorEq, not_false_eq_true, List.forall_mem_cons, List.not_mem_nil,
      true_and, false_implies, implies_true, and_true]
    rw [toNat_ofNat_byte (by omega), toNat_ofNat_byte (by omega)]
    omega
  · obtain rfl := Option.some.inj h
    simp only [ne_eq, reduceCtorEq, not_false_eq_true, List.forall_mem_cons, List.not_mem_nil,
      true_and, false_implies, implies_true, and_true]
    rw [toNat_ofNat_byte (by omega), toNat_ofNat_byte (by omega), toNat_ofNat_byte (by omega)]
    omega
  · obtain rfl := Option.some.inj h
    simp only [ne_eq, reduceCtorEq, not_false_eq_true, List.forall_mem_cons, List.not_mem_nil,
      true_and, false_implies, implies_true, and_true]
    rw [toNat_ofNat_byte (by omega), toNat_ofNat_byte (by omega), toNat_ofNat_byte (by omega),
      toNat_ofNat_byte (by omega)]
    omega

/-- A character that is not left becomes escapes of bytes that are not left. -/
theorem quotePoint_of_not_kept {c : CodePoint} (htext : isSurrogate c.val = false)
    (h : isKept safe c = false) : ∃ x b, quotePoint safe c = (x :: b).flatMap percentByte ∧
      ∀ y ∈ x :: b, isLeft safe y = false := by
  have hbytes : ∃ x b, encodePoint c = some (x :: b) ∧ ∀ y ∈ x :: b, isLeft safe y = false := by
    by_cases hlow : c.val < 0x80
    · refine ⟨UInt8.ofNat c.val, [], if_pos hlow, fun y hy => ?_⟩
      have hbyte : (UInt8.ofNat c.val).toNat = c.val := toNat_ofNat_byte (by omega)
      have hchar : CodePoint.ofByte (UInt8.ofNat c.val) = c := Fin.ext hbyte
      rw [List.mem_singleton.1 hy, isLeft, hchar, hbyte]
      exact h
    · cases hc : encodePoint c with
      | none =>
        rw [encodePoint_eq_none.1 hc] at htext
        cases htext
      | some b =>
        obtain ⟨hne, hhigh⟩ := encodePoint_high (not_lt.1 hlow) hc
        obtain ⟨x, rest, rfl⟩ := List.exists_cons_of_ne_nil hne
        refine ⟨x, rest, rfl, fun y hy => ?_⟩
        have := hhigh y hy
        simp [isLeft]
        omega
  obtain ⟨x, b, hb, hleft⟩ := hbytes
  refine ⟨x, b, ?_, hleft⟩
  rw [quotePoint, hb]
  refine List.flatMap_congr fun y hy => ?_
  rw [quoteByte, if_neg (by simp [hleft y hy])]

end Quote

end Python
