import WebAuth.Python.Encodings

/-!
# Fields that read back

Base64url without its padding, decimals and hex digests, and the string that joins such fields by a
separator none of them holds.
-/

namespace Python

/-! ## Base64url -/

theorem base64Char_facts : ∀ n < 64, base64Value (base64Char n) = some n ∧
    isBase64Url (base64Char n) = true ∧ base64Char n ≠ chr '=' := by decide +kernel

theorem base64Value_base64Char {n : ℕ} (h : n < 64) : base64Value (base64Char n) = some n :=
  (base64Char_facts n h).1

theorem isBase64Url_base64Char {n : ℕ} (h : n < 64) : isBase64Url (base64Char n) = true :=
  (base64Char_facts n h).2.1

theorem base64Char_ne_pad {n : ℕ} (h : n < 64) : base64Char n ≠ chr '=' :=
  (base64Char_facts n h).2.2

theorem ofNat_eq_of_toNat {n : ℕ} {x : UInt8} (h : n = x.toNat) : UInt8.ofNat n = x := by
  rw [h, UInt8.ofNat_toNat]

/-- One full group of four characters. -/
theorem decodeGroups_group {a b c d : ℕ} (ha : a < 64) (hb : b < 64) (hc : c < 64) (hd : d < 64)
    (rest : Str) : decodeGroups ⟨0, 0, 0⟩
      (base64Char a :: base64Char b :: base64Char c :: base64Char d :: rest) =
      (decodeGroups ⟨0, 0, 0⟩ rest).map fun bytes => UInt8.ofNat (a * 4 + b / 16) ::
        UInt8.ofNat (b % 16 * 16 + c / 4) :: UInt8.ofNat (c % 4 * 64 + d) :: bytes := by
  simp [decodeGroups, base64Value_base64Char, base64Char_ne_pad, ha, hb, hc, hd,
    Function.comp_def]

/-- A last group of two characters, and of three. -/
theorem decodeGroups_two {a b : ℕ} (ha : a < 64) (hb : b < 64) :
    decodeGroups ⟨0, 0, 0⟩ [base64Char a, base64Char b, chr '=', chr '='] =
      some [UInt8.ofNat (a * 4 + b / 16)] := by
  simp [decodeGroups, base64Value_base64Char, base64Char_ne_pad, ha, hb]

theorem decodeGroups_three {a b c : ℕ} (ha : a < 64) (hb : b < 64) (hc : c < 64) :
    decodeGroups ⟨0, 0, 0⟩ [base64Char a, base64Char b, base64Char c, chr '='] =
      some [UInt8.ofNat (a * 4 + b / 16), UInt8.ofNat (b % 16 * 16 + c / 4)] := by
  simp [decodeGroups, base64Value_base64Char, base64Char_ne_pad, ha, hb, hc]

/-- The padded encoding reads back. -/
theorem decodeGroups_encode (b : Bytes) :
    decodeGroups ⟨0, 0, 0⟩ (urlsafeB64encode b) = some b := by
  induction b using urlsafeB64encode.induct with
  | case1 => rfl
  | case2 x =>
    have hx := x.toNat_lt
    rw [urlsafeB64encode, decodeGroups_two (by omega) (by omega),
      ofNat_eq_of_toNat (x := x) (by omega)]
  | case3 x y =>
    have hx := x.toNat_lt
    have hy := y.toNat_lt
    rw [urlsafeB64encode, decodeGroups_three (by omega) (by omega) (by omega),
      ofNat_eq_of_toNat (x := x) (by omega), ofNat_eq_of_toNat (x := y) (by omega)]
  | case4 x y z rest ih =>
    have hx := x.toNat_lt
    have hy := y.toNat_lt
    have hz := z.toNat_lt
    rw [urlsafeB64encode, decodeGroups_group (by omega) (by omega) (by omega) (by omega), ih,
      Option.map_some, ofNat_eq_of_toNat (x := x) (by omega),
      ofNat_eq_of_toNat (x := y) (by omega), ofNat_eq_of_toNat (x := z) (by omega)]

theorem stripPadding_of_last {s : Str} {c : CodePoint} (hc : c ≠ chr '=') :
    stripPadding (s ++ [c]) = s ++ [c] :=
  List.rdropWhile_concat_neg _ _ _ (by simpa using hc)

theorem stripPadding_pad (s : Str) : stripPadding (s ++ [chr '=']) = stripPadding s :=
  List.rdropWhile_concat_pos _ _ _ (by simp)

/-- Stripping leaves what stands before a character that is no pad. -/
theorem stripPadding_append {s t : Str} {c : CodePoint} (hc : c ≠ chr '=') :
    stripPadding (s ++ c :: t) = s ++ c :: stripPadding t := by
  induction t using List.reverseRecOn with
  | nil => exact stripPadding_of_last hc
  | append_singleton t d ih =>
    by_cases hd : d = chr '='
    · rw [hd, ← List.cons_append, ← List.append_assoc, stripPadding_pad, ih, stripPadding_pad]
    · rw [← List.cons_append, ← List.append_assoc, stripPadding_of_last hd, stripPadding_of_last hd]
      simp

/-- The unpadded encoding, without going through the pads. -/
def unpadded : Bytes → Str
  | [] => []
  | [x] => [base64Char (x.toNat / 4), base64Char (x.toNat % 4 * 16)]
  | [x, y] =>
    [base64Char (x.toNat / 4), base64Char (x.toNat % 4 * 16 + y.toNat / 16),
      base64Char (y.toNat % 16 * 4)]
  | x :: y :: z :: rest =>
    base64Char (x.toNat / 4) :: base64Char (x.toNat % 4 * 16 + y.toNat / 16) ::
      base64Char (y.toNat % 16 * 4 + z.toNat / 64) :: base64Char (z.toNat % 64) :: unpadded rest

theorem stripPadding_encode (b : Bytes) : stripPadding (urlsafeB64encode b) = unpadded b := by
  induction b using urlsafeB64encode.induct with
  | case1 => rfl
  | case2 x =>
    have hx := x.toNat_lt
    rw [urlsafeB64encode, unpadded]
    exact stripPadding_append (s := [_]) (t := [_, _]) (base64Char_ne_pad (by omega))
  | case3 x y =>
    have hy := y.toNat_lt
    rw [urlsafeB64encode, unpadded]
    exact stripPadding_append (s := [_, _]) (t := [_]) (base64Char_ne_pad (by omega))
  | case4 x y z rest ih =>
    have hz := z.toNat_lt
    rw [urlsafeB64encode, unpadded, ← ih]
    exact stripPadding_append (s := [_, _, _]) (base64Char_ne_pad (by omega))

theorem unpadded_length (b : Bytes) : (unpadded b).length = (4 * b.length + 2) / 3 := by
  induction b using unpadded.induct with
  | case1 => rfl
  | case2 x => simp [unpadded]
  | case3 x y => simp [unpadded]
  | case4 x y z rest ih =>
    simp only [unpadded, List.length_cons, ih]
    omega

theorem unpadded_all (b : Bytes) : (unpadded b).all isBase64Url = true := by
  induction b using unpadded.induct with
  | case1 => rfl
  | case2 x =>
    have hx := x.toNat_lt
    simp (disch := omega) [unpadded, isBase64Url_base64Char]
  | case3 x y =>
    have hx := x.toNat_lt
    have hy := y.toNat_lt
    simp (disch := omega) [unpadded, isBase64Url_base64Char]
  | case4 x y z rest ih =>
    have hx := x.toNat_lt
    have hy := y.toNat_lt
    have hz := z.toNat_lt
    simp (disch := omega) [unpadded, ih, isBase64Url_base64Char]

/-- Padding restores what stripping took. -/
theorem padded_unpadded (b : Bytes) : padded (unpadded b) = urlsafeB64encode b := by
  induction b using unpadded.induct with
  | case1 => rfl
  | case2 x => rfl
  | case3 x y => rfl
  | case4 x y z rest ih =>
    rw [urlsafeB64encode, ← ih]
    unfold padded
    have hlen : (unpadded (x :: y :: z :: rest)).length % 4 = (unpadded rest).length % 4 := by
      simp only [unpadded, List.length_cons]
      omega
    rw [hlen]
    rfl

theorem isAscii_base64Url {c : CodePoint} (h : isBase64Url c = true) : c.isAscii = true := by
  simp only [isBase64Url, isAlphaNum, isDigit, CodePoint.between, Bool.or_eq_true, Bool.and_eq_true,
    decide_eq_true_eq] at h
  have hz : ('z').toNat = 122 := rfl
  have hZ : ('Z').toNat = 90 := rfl
  have h9 : ('9').toNat = 57 := rfl
  simp only [CodePoint.isAscii, decide_eq_true_eq]
  rcases h with (((h | h) | h) | rfl) | rfl
  · omega
  · omega
  · omega
  · decide
  · decide

/-- **Unpadded base64url reads back.** -/
theorem urlsafeB64decode_padded (b : Bytes) :
    urlsafeB64decode (padded (stripPadding (urlsafeB64encode b))) = some b := by
  have hascii : isAscii (urlsafeB64encode b) = true := by
    rw [← padded_unpadded, padded, isAscii, List.all_append, Bool.and_eq_true, List.all_eq_true,
      List.all_eq_true]
    have hall := List.all_eq_true.1 (unpadded_all b)
    refine ⟨fun c hc => isAscii_base64Url (hall c hc), fun c hc => ?_⟩
    rw [List.eq_of_mem_replicate hc]
    decide
  rw [stripPadding_encode, padded_unpadded, urlsafeB64decode, if_pos hascii, decodeGroups_encode]

/-! ## Hex digests and decimals -/

theorem isHexDigit_hexDigit : ∀ n < 16, isHexDigit (hexDigit n) = true := by decide

theorem hex_length (b : Bytes) : (hex b).length = 2 * b.length := by
  induction b with
  | nil => rfl
  | cons x b ih =>
    have hcons : hex (x :: b) = [hexDigit (x.toNat / 16), hexDigit (x.toNat % 16)] ++ hex b := rfl
    rw [hcons, List.length_append, ih, List.length_cons, List.length_cons, List.length_cons,
      List.length_nil]
    omega

theorem hex_all (b : Bytes) : (hex b).all isHexDigit = true := by
  rw [List.all_eq_true]
  intro c hc
  obtain ⟨x, -, hc⟩ := List.mem_flatMap.1 hc
  have hx := x.toNat_lt
  rcases List.mem_cons.1 hc with rfl | hc
  · exact isHexDigit_hexDigit _ (by omega)
  · rw [List.mem_singleton.1 hc]
    exact isHexDigit_hexDigit _ (by omega)

theorem hexDigit_decimal : ∀ d < 10, isDigit (hexDigit d) = true ∧
    (hexDigit d).val - ('0').toNat = d ∧ (hexDigit d = chr '0' → d = 0) := by decide

theorem decimal_eq_digits {n : ℕ} (h : n ≠ 0) :
    decimal n = (Nat.digits 10 n).reverse.map hexDigit := if_neg h

/-- A decimal is a run of digits. -/
theorem decimal_all (n : ℕ) : (decimal n).all isDigit = true := by
  by_cases hn : n = 0
  · rw [hn]
    decide
  · rw [decimal_eq_digits hn, List.all_eq_true]
    intro c hc
    obtain ⟨d, hd, rfl⟩ := List.mem_map.1 hc
    exact (hexDigit_decimal d (Nat.digits_lt_base (by norm_num) (List.mem_reverse.1 hd))).1

/-- A decimal reads back. -/
theorem ofDecimal_decimal (n : ℕ) : ofDecimal (decimal n) = n := by
  by_cases hn : n = 0
  · rw [hn]
    decide
  · rw [decimal_eq_digits hn, ofDecimal, ← List.map_reverse, List.reverse_reverse, List.map_map]
    have hmap : (Nat.digits 10 n).map ((fun c => c.val - ('0').toNat) ∘ hexDigit) =
        Nat.digits 10 n :=
      (List.map_congr_left fun d hd =>
        (hexDigit_decimal d (Nat.digits_lt_base (by norm_num) hd)).2.1).trans (List.map_id _)
    rw [hmap, Nat.ofDigits_digits]

theorem decimal_length_le {n k : ℕ} (hk : k ≠ 0) : (decimal n).length ≤ k ↔ n < 10 ^ k := by
  by_cases hn : n = 0
  · rw [hn]
    simp [decimal]
    omega
  · rw [decimal_eq_digits hn, List.length_map, List.length_reverse,
      Nat.digits_length_le_iff (by norm_num)]

/-- A positive decimal does not begin with a zero. -/
theorem decimal_head {n : ℕ} (hn : n ≠ 0) : ∃ c s, decimal n = c :: s ∧ c ≠ chr '0' := by
  have hdigits : Nat.digits 10 n ≠ [] := Nat.digits_ne_nil_iff_ne_zero.2 hn
  have hlast := Nat.getLast_digit_ne_zero 10 hn
  have hlt := Nat.digits_lt_base (b := 10) (m := n) (by norm_num) (List.getLast_mem hdigits)
  have hreverse : (Nat.digits 10 n).reverse = (Nat.digits 10 n).getLast hdigits ::
      (Nat.digits 10 n).dropLast.reverse := by
    conv_lhs => rw [← List.dropLast_append_getLast hdigits]
    rw [List.reverse_append, List.reverse_singleton, List.singleton_append]
  refine ⟨_, (Nat.digits 10 n).dropLast.reverse.map hexDigit, ?_,
    fun h => hlast ((hexDigit_decimal _ hlt).2.2 h)⟩
  rw [decimal_eq_digits hn, hreverse, List.map_cons]

/-! ## ASCII -/

theorem encode_of_isAscii {s : Str} (h : isAscii s = true) : encode s = some (encodeLatin1 s) := by
  induction s with
  | nil => rfl
  | cons c s ih =>
    have hc : c.val < 128 := of_decide_eq_true (List.all_eq_true.1 h c List.mem_cons_self)
    have hs : isAscii s = true :=
      List.all_eq_true.2 fun d hd => List.all_eq_true.1 h d (List.mem_cons_of_mem _ hd)
    rw [encode, ih hs, encodePoint, if_pos hc]
    rfl

theorem isAscii_append {s t : Str} : isAscii (s ++ t) = (isAscii s && isAscii t) := List.all_append

/-! ## A string of fields -/

section Fields

variable {c : CodePoint}

theorem partition_eq_some {s t u : Str} (h : partition c s = (t, some u)) :
    s = t ++ c :: u ∧ c ∉ t := by
  induction s generalizing t with
  | nil => cases h
  | cons d s ih =>
    rw [partition] at h
    split_ifs at h with hd
    · obtain ⟨rfl, heq⟩ := Prod.mk.inj h
      obtain rfl := Option.some.inj heq
      simp [hd]
    · obtain ⟨rfl, hrest⟩ := Prod.mk.inj h
      obtain ⟨hs, hmem⟩ := ih (Prod.ext rfl hrest)
      refine ⟨congrArg (d :: ·) hs, fun hcons => ?_⟩
      rcases List.mem_cons.1 hcons with heq | hmem'
      · exact hd heq.symm
      · exact hmem hmem'

theorem rpartition_eq_some {s t u : Str} (h : rpartition c s = some (t, u)) :
    s = t ++ c :: u ∧ c ∉ u := by
  unfold rpartition at h
  split at h
  · cases h
  · rename_i tail head heq
    obtain ⟨rfl, rfl⟩ := Prod.mk.inj (Option.some.inj h)
    obtain ⟨hs, hmem⟩ := partition_eq_some heq
    refine ⟨?_, by simpa using hmem⟩
    rw [← List.reverse_reverse s, hs]
    simp

/-- The fields of a string are one more than its separators. -/
theorem length_split (s : Str) : (split c s).length = s.count c + 1 := by
  induction s with
  | nil => rfl
  | cons d s ih =>
    unfold split at ih ⊢
    rw [List.splitOn_cons_eq_if_modifyHead, List.count_cons]
    by_cases hd : d = c
    · simp [hd, ih]
    · simp [hd, ih]

theorem join_cons_cons (field next : Str) (fields : List Str) :
    join c (field :: next :: fields) = field ++ c :: join c (next :: fields) := rfl

theorem join_singleton (field : Str) : join c [field] = field := by simp [join]

theorem count_join (fields : List Str) :
    (join c fields).count c = (fields.map (List.count c)).sum + (fields.length - 1) := by
  induction fields with
  | nil => rfl
  | cons field fields ih =>
    cases fields with
    | nil => simp [join_singleton]
    | cons next fields =>
      rw [join_cons_cons, List.count_append, List.count_cons_self, ih]
      simp only [List.map_cons, List.sum_cons, List.length_cons]
      omega

theorem split_join {fields : List Str} (hne : fields ≠ []) (h : ∀ field ∈ fields, c ∉ field) :
    split c (join c fields) = fields := List.splitOn_intercalate c h hne

/-- As many fields come out of a joined string as went in only when none held the separator. -/
theorem not_mem_of_length_split {fields : List Str} (hne : fields ≠ [])
    (h : (split c (join c fields)).length = fields.length) : ∀ field ∈ fields, c ∉ field := by
  have hpos := List.length_pos_of_ne_nil hne
  rw [length_split, count_join] at h
  have hsum : (fields.map (List.count c)).sum = 0 := by omega
  intro field hfield hmem
  have hzero := List.sum_eq_zero_iff.1 hsum _ (List.mem_map_of_mem hfield)
  exact List.count_pos_iff.2 hmem |>.ne' hzero

end Fields

end Python
