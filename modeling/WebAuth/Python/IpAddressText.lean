import WebAuth.Python.IpAddress

/-!
# How addresses are written

What is written of an address reads back as that address, and no text of more than 45 characters
reads as one.
-/

namespace Python

/-! ## Numerals -/

theorem hexDigit_hexadecimal : ∀ d < 16, (hexValue (hexDigit d)) = some d ∧
    hexDigit d ≠ chr ':' ∧ hexDigit d ≠ chr '.' ∧ (hexDigit d = chr '0' → d = 0) := by
  decide

theorem hexadecimal_eq_digits {n : ℕ} (h : n ≠ 0) :
    hexadecimal n = (Nat.digits 16 n).reverse.map hexDigit := if_neg h

/-- Each character of a numeral is a hex digit. -/
theorem mem_hexadecimal {n : ℕ} {c : CodePoint} (h : c ∈ hexadecimal n) :
    ∃ d < 16, c = hexDigit d := by
  by_cases hn : n = 0
  · rw [hn] at h
    exact ⟨0, by decide, List.mem_singleton.1 h⟩
  · rw [hexadecimal_eq_digits hn] at h
    obtain ⟨d, hd, rfl⟩ := List.mem_map.1 h
    exact ⟨d, Nat.digits_lt_base (by norm_num) (List.mem_reverse.1 hd), rfl⟩

theorem hexadecimal_ne_nil (n : ℕ) : hexadecimal n ≠ [] := by
  by_cases hn : n = 0
  · rw [hn]
    decide
  · rw [hexadecimal_eq_digits hn]
    simpa using Nat.digits_ne_nil_iff_ne_zero.2 hn

theorem ofHex_hexadecimal (n : ℕ) : ofHex (hexadecimal n) = n := by
  by_cases hn : n = 0
  · rw [hn]
    decide
  · rw [hexadecimal_eq_digits hn, ofHex, ← List.map_reverse, List.reverse_reverse, List.map_map]
    have hmap : (Nat.digits 16 n).map ((fun c => (hexValue c).getD 0) ∘ hexDigit) =
        Nat.digits 16 n := by
      refine (List.map_congr_left fun d hd => ?_).trans (List.map_id _)
      have hd := (hexDigit_hexadecimal d (Nat.digits_lt_base (by norm_num) hd)).1
      simp [hd]
    rw [hmap, Nat.ofDigits_digits]

theorem hexadecimal_length {n : ℕ} (h : n < 65536) : (hexadecimal n).length ≤ 4 := by
  by_cases hn : n = 0
  · rw [hn]
    decide
  · rw [hexadecimal_eq_digits hn, List.length_map, List.length_reverse,
      Nat.digits_length_le_iff (by norm_num)]
    exact h

theorem parseHextet_hexadecimal {n : ℕ} (h : n < 65536) : parseHextet (hexadecimal n) = some n := by
  unfold parseHextet
  have hall : (hexadecimal n).all isAnyHexDigit = true := by
    rw [List.all_eq_true]
    intro c hc
    obtain ⟨d, hd, rfl⟩ := mem_hexadecimal hc
    unfold isAnyHexDigit
    rw [(hexDigit_hexadecimal d hd).1]
    rfl
  have hlength := hexadecimal_length h
  rw [if_neg, ofHex_hexadecimal]
  simp only [Bool.or_eq_true, decide_eq_true_eq, Bool.not_eq_true', not_or, Bool.not_eq_false]
  exact ⟨⟨hexadecimal_ne_nil n, hall⟩, by omega⟩

theorem parseOctet_decimal {n : ℕ} (h : n < 256) : parseOctet (decimal n) = some n := by
  unfold parseOctet
  have hlength := (decimal_length_le (n := n) (k := 3) (by norm_num)).2 (by omega)
  have hne : decimal n ≠ [] := by
    by_cases hn : n = 0
    · rw [hn]
      decide
    · obtain ⟨c, rest, heq, -⟩ := decimal_head hn
      rw [heq]
      exact List.cons_ne_nil _ _
  have hhead : decimal n = str "0" ∨ (decimal n).head? ≠ some (chr '0') := by
    by_cases hn : n = 0
    · rw [hn]
      decide
    · right
      obtain ⟨c, rest, heq, hc⟩ := decimal_head hn
      rw [heq, List.head?_cons, ne_eq, Option.some.injEq]
      exact hc
  rw [if_neg, ofDecimal_decimal]
  simp only [Bool.or_eq_true, Bool.and_eq_true, decide_eq_true_eq, Bool.not_eq_true', not_or,
    not_and, Bool.not_eq_false, ofDecimal_decimal]
  exact ⟨⟨⟨⟨hne, decimal_all n⟩, by omega⟩, fun hzero => hhead.resolve_left hzero⟩, by omega⟩

/-! ## Reading what was written -/

/-- No digit is a separator. -/
theorem not_mem_decimal (n : ℕ) : chr '.' ∉ decimal n ∧ chr ':' ∉ decimal n := by
  have hall := List.all_eq_true.1 (decimal_all n)
  constructor
  · intro h
    have := hall _ h
    revert this
    decide
  · intro h
    have := hall _ h
    revert this
    decide

theorem parseIPv4_textIPv4 (ip : Fin (2 ^ 32)) : parseIPv4 (textIPv4 ip) = some ip := by
  have hlt := ip.isLt
  unfold parseIPv4 textIPv4
  rw [split_join (by simp)]
  · simp only [List.map_cons, List.map_nil, List.mapM_cons, List.mapM_nil]
    rw [parseOctet_decimal (by omega), parseOctet_decimal (by omega), parseOctet_decimal (by omega),
      parseOctet_decimal (by omega)]
    have hvalue : ofOctets (ip.val / 2 ^ 24) (ip.val / 2 ^ 16 % 256) (ip.val / 2 ^ 8 % 256)
        (ip.val % 256) = ip.val := by
      unfold ofOctets
      omega
    simp only [Option.pure_def, Option.bind_eq_bind, Option.bind_some, hvalue]
    rw [Fin.ofNat_val_eq_self]
  · intro part hpart
    obtain ⟨n, -, rfl⟩ := List.mem_map.1 hpart
    exact (not_mem_decimal n).1

theorem hextetsOf_lt {ip h : ℕ} (hmem : h ∈ hextetsOf ip) : h < 65536 := by
  obtain ⟨i, -, rfl⟩ := List.mem_map.1 hmem
  exact Nat.mod_lt _ (by norm_num)

theorem hextetsOf_length (ip : ℕ) : (hextetsOf ip).length = 8 := by simp [hextetsOf]

theorem ofHextets_hextetsOf {ip : ℕ} (h : ip < 2 ^ 128) : ofHextets (hextetsOf ip) = ip := by
  simp only [ofHextets, hextetsOf, List.range_succ, List.range_zero, List.nil_append,
    List.cons_append, List.map_cons, List.map_nil, List.foldl_cons, List.foldl_nil]
  omega

/-- Whether the hextets from an index on, as many as `length`, are all zero. -/
def ZerosAt (hextets : List Str) (start length : ℕ) : Prop :=
  start + length ≤ hextets.length ∧
    ∀ i, start ≤ i → i < start + length → hextets[i]? = some (str "0")

/-- What the scan knows of the hextets it has read. -/
structure ScanInv (read : List Str) (runs : ZeroRuns) : Prop where
  best : ZerosAt read runs.bestStart runs.bestLength
  current : ZerosAt read runs.start runs.length
  reaches : runs.length ≠ 0 → runs.start + runs.length = read.length

theorem zerosAt_none (hextets : List Str) : ZerosAt hextets 0 0 :=
  ⟨Nat.zero_le _, fun i _ hhigh => absurd hhigh (Nat.not_lt_zero i)⟩

theorem ZerosAt.append {hextets more : List Str} {start length : ℕ}
    (h : ZerosAt hextets start length) : ZerosAt (hextets ++ more) start length := by
  obtain ⟨hends, hzeros⟩ := h
  refine ⟨by rw [List.length_append]; omega, fun i hlow hhigh => ?_⟩
  rw [List.getElem?_append_left (by omega)]
  exact hzeros i hlow hhigh

/-- A run of zeros goes on with the zero after it. -/
theorem ZerosAt.extend {hextets : List Str} {start length : ℕ} (h : ZerosAt hextets start length)
    (hreaches : start + length = hextets.length) :
    ZerosAt (hextets ++ [str "0"]) start (length + 1) := by
  obtain ⟨-, hzeros⟩ := h
  refine ⟨by rw [List.length_append, List.length_singleton]; omega, fun i hlow hhigh => ?_⟩
  by_cases hlast : i = hextets.length
  · rw [hlast, List.getElem?_append_right (le_refl _), Nat.sub_self]
    rfl
  · rw [List.getElem?_append_left (by omega)]
    exact hzeros i hlow (by omega)

theorem scanZeros_inv {read rest : List Str} {runs : ZeroRuns} (h : ScanInv read runs) :
    ScanInv (read ++ rest) (scanZeros read.length runs rest) := by
  induction rest generalizing read runs with
  | nil =>
    rw [List.append_nil]
    exact h
  | cons hextet rest ih =>
    have happend : read ++ hextet :: rest = (read ++ [hextet]) ++ rest := by simp
    have hlength : read.length + 1 = (read ++ [hextet]).length := by simp
    rw [happend]
    unfold scanZeros
    by_cases hzero : hextet = str "0"
    · rw [if_pos hzero]
      dsimp only
      have hcurrent : ZerosAt (read ++ [hextet]) (if runs.length = 0 then read.length else runs.start)
          (runs.length + 1) := by
        rw [hzero]
        split_ifs with hfresh
        · rw [hfresh]
          exact ZerosAt.extend ⟨le_refl _, fun i hlow hhigh => by omega⟩ rfl
        · exact h.current.extend (h.reaches hfresh)
      have hreaches : runs.length + 1 ≠ 0 →
          (if runs.length = 0 then read.length else runs.start) + (runs.length + 1) =
            (read ++ [hextet]).length := by
        intro _
        rw [← hlength]
        split_ifs with hfresh
        · omega
        · have := h.reaches hfresh
          omega
      rw [hlength]
      split_ifs with hbest hfresh hfresh
      · rw [if_pos hfresh] at hcurrent hreaches
        exact ih ⟨hcurrent, hcurrent, hreaches⟩
      · rw [if_neg hfresh] at hcurrent hreaches
        exact ih ⟨hcurrent, hcurrent, hreaches⟩
      · rw [if_pos hfresh] at hcurrent hreaches
        exact ih ⟨h.best.append, hcurrent, hreaches⟩
      · rw [if_neg hfresh] at hcurrent hreaches
        exact ih ⟨h.best.append, hcurrent, hreaches⟩
    · rw [if_neg hzero, hlength]
      exact ih ⟨h.best.append, zerosAt_none _, fun hne => absurd rfl hne⟩

/-- The run that is left out of an address holds zeros only. -/
theorem scanZeros_best (hextets : List Str) :
    ZerosAt hextets (scanZeros 0 {} hextets).bestStart (scanZeros 0 {} hextets).bestLength := by
  have h : ScanInv [] {} := ⟨zerosAt_none [], zerosAt_none [], fun hne => absurd rfl hne⟩
  have hscanned : ScanInv ([] ++ hextets) (scanZeros 0 {} hextets) := scanZeros_inv h
  exact hscanned.best

section Compressed

variable {hs : List ℕ}

theorem mapM_parseHextet (h : ∀ hextet ∈ hs, hextet < 65536) :
    (hs.map hexadecimal).mapM parseHextet = some hs := by
  induction hs with
  | nil => rfl
  | cons hextet hs ih =>
    obtain ⟨hfirst, hrest⟩ := List.forall_mem_cons.1 h
    rw [List.map_cons, List.mapM_cons, parseHextet_hexadecimal hfirst, ih hrest]
    rfl

theorem ne_nil_of_mem_texts {part : Str} (h : part ∈ hs.map hexadecimal) : part ≠ [] := by
  obtain ⟨n, -, rfl⟩ := List.mem_map.1 h
  exact hexadecimal_ne_nil n

theorem cutInner_eq_none {parts : List Str} (h : ∀ part ∈ parts, part ≠ []) :
    cutInner parts = none := by
  induction parts with
  | nil => rfl
  | cons part parts ih =>
    obtain ⟨hfirst, hrest⟩ := List.forall_mem_cons.1 h
    cases parts with
    | nil => rfl
    | cons next parts =>
      rw [cutInner, if_neg hfirst, ih hrest]
      rfl

theorem cutInner_append {high low : List Str} (hhigh : ∀ part ∈ high, part ≠ []) (hlow : low ≠ []) :
    cutInner (high ++ [] :: low) = some (high, low) := by
  induction high with
  | nil =>
    cases low with
    | nil => exact absurd rfl hlow
    | cons next low => rw [List.nil_append, cutInner, if_pos rfl]
  | cons part high ih =>
    obtain ⟨hfirst, hrest⟩ := List.forall_mem_cons.1 hhigh
    have hne : high ++ [] :: low ≠ [] := by simp
    obtain ⟨next, rest, hsplit⟩ := List.exists_cons_of_ne_nil hne
    rw [List.cons_append, hsplit, cutInner, if_neg hfirst, ← hsplit, ih hrest]
    rfl

/-- One side of the `::` reads back. -/
theorem parseSide_texts (h : ∀ hextet ∈ hs, hextet < 65536) :
    parseSide (if hs = [] then [[]] else hs.map hexadecimal) = some hs := by
  unfold parseSide
  split_ifs with hnil hside hside
  · rw [hnil]
  · exact absurd rfl hside
  · have hmem : [] ∈ hs.map hexadecimal := by
      rw [hside]
      exact List.mem_cons_self
    exact absurd rfl (ne_nil_of_mem_texts hmem)
  · exact mapM_parseHextet h

/-- The hextets around a run of zeros. -/
theorem eq_around_zeros {start length : ℕ} (h : ZerosAt (hs.map hexadecimal) start length) :
    hs = hs.take start ++ List.replicate length 0 ++ hs.drop (start + length) := by
  obtain ⟨hends, hzeros⟩ := h
  rw [List.length_map] at hends
  have hmiddle : (hs.drop start).take length = List.replicate length 0 := by
    refine List.eq_replicate_iff.2 ⟨by rw [List.length_take, List.length_drop]; omega, ?_⟩
    intro hextet hmem
    obtain ⟨i, hi, rfl⟩ := List.mem_iff_getElem.1 hmem
    rw [List.length_take, List.length_drop] at hi
    have hzero := hzeros (start + i) (by omega) (by omega)
    rw [List.getElem?_map, List.getElem?_eq_getElem (by omega), Option.map_some,
      Option.some.injEq] at hzero
    rw [List.getElem_take, List.getElem_drop]
    have hvalue := ofHex_hexadecimal hs[start + i]
    rw [hzero] at hvalue
    rw [← hvalue]
    decide
  calc hs = hs.take start ++ hs.drop start := (List.take_append_drop _ _).symm
    _ = hs.take start ++ ((hs.drop start).take length ++ (hs.drop start).drop length) := by
      rw [List.take_append_drop length (hs.drop start)]
    _ = hs.take start ++ List.replicate length 0 ++ hs.drop (start + length) := by
      rw [hmiddle, List.drop_drop, List.append_assoc]

/-- What is written around the `::`, and what is written without one. -/
theorem compressHextets_eq (hs : List ℕ) :
    compressHextets (hs.map hexadecimal) = hs.map hexadecimal ∨
      ∃ start length, ZerosAt (hs.map hexadecimal) start length ∧ 2 ≤ length ∧
        compressHextets (hs.map hexadecimal) =
          (if hs.take start = [] then [[]] else (hs.take start).map hexadecimal) ++
            [] :: (if hs.drop (start + length) = [] then [[]]
              else (hs.drop (start + length)).map hexadecimal) := by
  have hzeros := scanZeros_best (hs.map hexadecimal)
  unfold compressHextets
  dsimp only
  generalize scanZeros 0 {} (hs.map hexadecimal) = runs at hzeros
  by_cases hshort : runs.bestLength ≤ 1
  · left
    rw [if_pos hshort]
  · right
    have hends := hzeros.1
    rw [List.length_map] at hends
    refine ⟨runs.bestStart, runs.bestLength, hzeros, by omega, ?_⟩
    rw [if_neg hshort, List.map_take, List.map_drop, List.length_map]
    have hhigh : hs.take runs.bestStart = [] ↔ runs.bestStart = 0 := by
      rw [List.take_eq_nil_iff]
      refine ⟨fun h => h.resolve_right ?_, Or.inl⟩
      rintro rfl
      simp at hends
      omega
    have hlow : hs.drop (runs.bestStart + runs.bestLength) = [] ↔
        runs.bestStart + runs.bestLength = hs.length := by
      rw [List.drop_eq_nil_iff]
      omega
    simp only [hhigh, hlow]

/-- **What is written of eight hextets reads back.** -/
theorem parseHextets_compressHextets (hlength : hs.length = 8)
    (h : ∀ hextet ∈ hs, hextet < 65536) :
    parseHextets (compressHextets (hs.map hexadecimal)) = some hs := by
  obtain heq | ⟨start, length, hzeros, htwo, heq⟩ := compressHextets_eq hs
  · have hnone : cutAtSkip (hs.map hexadecimal) = none := by
      cases hs with
      | nil => rfl
      | cons hextet hs =>
        rw [List.map_cons, cutAtSkip, cutInner_eq_none fun part hmem => ne_nil_of_mem_texts hmem]
        rfl
    rw [heq, parseHextets, hnone]
    dsimp only
    rw [if_neg (by rw [List.length_map]; omega), mapM_parseHextet h]
  · have hends := hzeros.1
    rw [List.length_map] at hends
    have hcut : cutAtSkip ((if hs.take start = [] then [[]] else (hs.take start).map hexadecimal) ++
        [] :: (if hs.drop (start + length) = [] then [[]]
          else (hs.drop (start + length)).map hexadecimal)) =
        some (if hs.take start = [] then [[]] else (hs.take start).map hexadecimal,
          if hs.drop (start + length) = [] then [[]]
          else (hs.drop (start + length)).map hexadecimal) := by
      have hlow : (if hs.drop (start + length) = [] then [[]]
          else (hs.drop (start + length)).map hexadecimal) ≠ [] := by
        split_ifs with hnil
        · exact List.cons_ne_nil _ _
        · rwa [ne_eq, List.map_eq_nil_iff]
      cases hhigh : hs.take start with
      | nil =>
        have hinner := @cutInner_append [] _ (fun part hmem => absurd hmem List.not_mem_nil) hlow
        rw [List.nil_append] at hinner
        rw [if_pos rfl, List.singleton_append, cutAtSkip, hinner]
        rfl
      | cons first high =>
        rw [if_neg (List.cons_ne_nil _ _), List.map_cons, List.cons_append, cutAtSkip,
          cutInner_append (fun part hmem => ne_nil_of_mem_texts hmem) hlow]
        rfl
    have hhigh : parseSide (if hs.take start = [] then [[]] else (hs.take start).map hexadecimal) =
        some (hs.take start) :=
      parseSide_texts fun hextet hmem => h hextet (List.mem_of_mem_take hmem)
    have hlow : parseSide (if hs.drop (start + length) = [] then [[]]
          else (hs.drop (start + length)).map hexadecimal) = some (hs.drop (start + length)) :=
      parseSide_texts fun hextet hmem => h hextet (List.mem_of_mem_drop hmem)
    rw [heq, parseHextets, hcut]
    dsimp only
    rw [hhigh, hlow]
    simp only [Option.bind_eq_bind, Option.bind_some]
    rw [if_neg (by rw [List.length_take, List.length_drop]; omega)]
    have hfill : 8 - ((hs.take start).length + (hs.drop (start + length)).length) = length := by
      rw [List.length_take, List.length_drop]
      omega
    rw [hfill, ← eq_around_zeros hzeros]
    rfl

theorem mem_compressHextets {part : Str} (h : part ∈ compressHextets (hs.map hexadecimal)) :
    part = [] ∨ ∃ hextet, part = hexadecimal hextet := by
  have htexts {hs' : List ℕ} (hmem : part ∈ if hs' = [] then [[]] else hs'.map hexadecimal) :
      part = [] ∨ ∃ hextet, part = hexadecimal hextet := by
    split_ifs at hmem
    · exact .inl (List.mem_singleton.1 hmem)
    · obtain ⟨hextet, -, rfl⟩ := List.mem_map.1 hmem
      exact .inr ⟨hextet, rfl⟩
  obtain heq | ⟨start, length, -, -, heq⟩ := compressHextets_eq hs
  · rw [heq] at h
    obtain ⟨hextet, -, rfl⟩ := List.mem_map.1 h
    exact .inr ⟨hextet, rfl⟩
  · rw [heq] at h
    rcases List.mem_append.1 h with h | h
    · exact htexts h
    · rcases List.mem_cons.1 h with rfl | h
      · exact .inl rfl
      · exact htexts h

theorem compressHextets_length (hlength : hs.length = 8) :
    3 ≤ (compressHextets (hs.map hexadecimal)).length ∧
      (compressHextets (hs.map hexadecimal)).length ≤ 9 := by
  have hsides (hs' : List ℕ) : 1 ≤ (if hs' = [] then [[]] else hs'.map hexadecimal).length ∧
      (if hs' = [] then [[]] else hs'.map hexadecimal).length ≤ hs'.length + 1 := by
    split_ifs with hnil
    · simp
    · have := List.length_pos_of_ne_nil hnil
      rw [List.length_map]
      omega
  obtain heq | ⟨start, length, hzeros, htwo, heq⟩ := compressHextets_eq hs
  · rw [heq, List.length_map]
    omega
  · have hends := hzeros.1
    rw [List.length_map] at hends
    have hhigh := hsides (hs.take start)
    have hlow := hsides (hs.drop (start + length))
    rw [List.length_take] at hhigh
    rw [List.length_drop] at hlow
    rw [heq, List.length_append, List.length_cons]
    omega

end Compressed

/-- **What is written of an IPv6 address reads back.** -/
theorem parseIPv6_textIPv6 (ip : Fin (2 ^ 128)) : parseIPv6 (textIPv6 ip) = some ip := by
  have hlength := compressHextets_length (hextetsOf_length ip.val)
  have hmem : ∀ part ∈ compressHextets ((hextetsOf ip.val).map hexadecimal),
      chr ':' ∉ part ∧ chr '.' ∉ part := by
    intro part hpart
    rcases mem_compressHextets hpart with rfl | ⟨hextet, rfl⟩
    · exact ⟨List.not_mem_nil, List.not_mem_nil⟩
    · constructor
      · intro hcolon
        obtain ⟨d, hd, heq⟩ := mem_hexadecimal hcolon
        exact (hexDigit_hexadecimal d hd).2.1 heq.symm
      · intro hdot
        obtain ⟨d, hd, heq⟩ := mem_hexadecimal hdot
        exact (hexDigit_hexadecimal d hd).2.2.1 heq.symm
  have hparse := parseHextets_compressHextets (hextetsOf_length ip.val) fun h hh => hextetsOf_lt hh
  unfold parseIPv6 textIPv6
  generalize compressHextets ((hextetsOf ip.val).map hexadecimal) = parts at hlength hmem hparse
  have hne : parts ≠ [] := by
    rintro rfl
    simp at hlength
  have htail : expandTail parts = some parts := by
    unfold expandTail
    rw [List.getLast?_eq_some_getLast hne]
    dsimp only
    rw [if_neg]
    rw [List.contains_iff_mem]
    exact (hmem _ (List.getLast_mem hne)).2
  rw [split_join hne fun part hpart => (hmem part hpart).1]
  dsimp only
  rw [if_neg (by omega), htail]
  simp only [Option.bind_eq_bind, Option.bind_some]
  rw [if_neg (by omega), hparse]
  simp only [Option.bind_some, Option.pure_def]
  rw [ofHextets_hextetsOf ip.isLt, Fin.ofNat_val_eq_self]

/-- Each part that is parsed with the others is parsed. -/
theorem parsed_of_mapM {α β : Type} {f : α → Option β} {as : List α} {bs : List β}
    (h : as.mapM f = some bs) {a : α} (hmem : a ∈ as) : ∃ b ∈ bs, f a = some b := by
  have hpairs := mapM_eq_some.1 h
  induction hpairs with
  | nil => cases hmem
  | @cons a' b' as bs hfirst hrest ih =>
    rcases List.mem_cons.1 hmem with rfl | hmem
    · exact ⟨b', List.mem_cons_self, hfirst⟩
    · obtain ⟨b, hb, heq⟩ := ih (mapM_eq_some.2 hrest) hmem
      exact ⟨b, List.mem_cons_of_mem _ hb, heq⟩

/-- What is parsed with others is parsed from one of the parts. -/
theorem source_of_mapM {α β : Type} {f : α → Option β} {as : List α} {bs : List β}
    (h : as.mapM f = some bs) {b : β} (hmem : b ∈ bs) : ∃ a ∈ as, f a = some b := by
  have hpairs := mapM_eq_some.1 h
  induction hpairs with
  | nil => cases hmem
  | @cons a' b' as bs hfirst hrest ih =>
    rcases List.mem_cons.1 hmem with rfl | hmem
    · exact ⟨a', List.mem_cons_self, hfirst⟩
    · obtain ⟨a, ha, heq⟩ := ih (mapM_eq_some.2 hrest) hmem
      exact ⟨a, List.mem_cons_of_mem _ ha, heq⟩

theorem parseOctet_eq_some {octet : Str} {n : ℕ} (h : parseOctet octet = some n) :
    octet.all isDigit = true ∧ octet.length ≤ 3 := by
  unfold parseOctet at h
  split_ifs at h with hcond
  simp only [Bool.or_eq_true, Bool.and_eq_true, decide_eq_true_eq, Bool.not_eq_true', not_or,
    Bool.not_eq_false] at hcond
  exact ⟨hcond.1.1.1.2, by omega⟩

/-- An IPv4 text is made of digits and dots. -/
theorem mem_parseIPv4 {text : Str} {ip : Fin (2 ^ 32)} (h : parseIPv4 text = some ip)
    {c : CodePoint} (hc : c ∈ text) : c = chr '.' ∨ isDigit c = true := by
  unfold parseIPv4 at h
  cases hparts : (split (chr '.') text).mapM parseOctet with
  | none =>
    rw [hparts] at h
    cases h
  | some ns =>
    have hjoin : join (chr '.') (split (chr '.') text) = text := List.intercalate_splitOn _
    rw [← hjoin] at hc
    rcases mem_join hc with hdot | ⟨part, hmem, hc⟩
    · exact .inl hdot
    · obtain ⟨n, -, hn⟩ := parsed_of_mapM hparts hmem
      exact .inr (List.all_eq_true.1 (parseOctet_eq_some hn).1 c hc)

/-- An IPv6 text is no IPv4 text. -/
theorem parseIPv4_textIPv6 (ip : Fin (2 ^ 128)) : parseIPv4 (textIPv6 ip) = none := by
  have hcolon : chr ':' ∈ textIPv6 ip := by
    have hlength := compressHextets_length (hextetsOf_length ip.val)
    unfold textIPv6 join
    generalize compressHextets ((hextetsOf ip.val).map hexadecimal) = parts at hlength
    match parts, hlength with
    | first :: second :: rest, _ =>
      rw [List.intercalate_cons_cons]
      simp
  rw [Option.eq_none_iff_forall_ne_some]
  intro ip' h
  have hchar := mem_parseIPv4 h hcolon
  revert hchar
  decide

/-- **What is written of an address reads back.** -/
theorem ipAddress_text (address : IpAddress) : ipAddress address.text = some address := by
  unfold ipAddress
  cases address with
  | v4 ip =>
    unfold IpAddress.text
    rw [parseIPv4_textIPv4]
  | v6 ip =>
    unfold IpAddress.text
    rw [parseIPv4_textIPv6, parseIPv6_textIPv6]
    rfl

/-! ## The length of an address -/

/-- The parts that are not empty. -/
def filled (parts : List Str) : ℕ := (parts.filter (· ≠ [])).length

theorem length_join (c : CodePoint) (parts : List Str) :
    (join c parts).length = (parts.map List.length).sum + (parts.length - 1) := by
  unfold join
  induction parts with
  | nil => rfl
  | cons part parts ih =>
    cases parts with
    | nil => simp
    | cons next parts =>
      rw [List.intercalate_cons_cons, List.length_append, List.length_append, ih]
      simp only [List.map_cons, List.sum_cons, List.length_cons, List.length_nil]
      omega

theorem filled_append (parts more : List Str) : filled (parts ++ more) = filled parts + filled more := by
  unfold filled
  rw [List.filter_append, List.length_append]

theorem sum_length_le {parts : List Str} (h : ∀ part ∈ parts, part.length ≤ 4) :
    (parts.map List.length).sum ≤ 4 * filled parts := by
  induction parts with
  | nil => exact Nat.zero_le _
  | cons part parts ih =>
    obtain ⟨hfirst, hrest⟩ := List.forall_mem_cons.1 h
    have hsum := ih hrest
    rw [← List.singleton_append, filled_append, List.singleton_append, List.map_cons, List.sum_cons]
    cases part with
    | nil => simpa [filled] using hsum
    | cons c part =>
      have hone : filled [c :: part] = 1 := by simp [filled]
      rw [hone]
      omega

theorem parseHextet_eq_some {part : Str} {n : ℕ} (h : parseHextet part = some n) :
    part.length ≤ 4 := by
  unfold parseHextet at h
  split_ifs at h with hcond
  simp only [Bool.or_eq_true, decide_eq_true_eq, not_or] at hcond
  omega

/-- The sizes of parts that are read as hextets. -/
theorem sizes_of_mapM {parts : List Str} {hs : List ℕ} (h : parts.mapM parseHextet = some hs) :
    (∀ part ∈ parts, part.length ≤ 4) ∧ filled parts ≤ hs.length := by
  constructor
  · intro part hmem
    obtain ⟨n, -, hn⟩ := parsed_of_mapM h hmem
    exact parseHextet_eq_some hn
  · rw [← (mapM_eq_some.1 h).length_eq]
    exact List.length_filter_le _ _

theorem sizes_of_parseSide {parts : List Str} {hs : List ℕ} (h : parseSide parts = some hs) :
    (∀ part ∈ parts, part.length ≤ 4) ∧ filled parts ≤ hs.length := by
  unfold parseSide at h
  split_ifs at h with hempty
  · rw [hempty]
    exact ⟨fun part hmem => by simp [List.mem_singleton.1 hmem], Nat.zero_le _⟩
  · exact sizes_of_mapM h

theorem cutInner_eq_some {parts high low : List Str} (h : cutInner parts = some (high, low)) :
    parts = high ++ [] :: low := by
  induction parts generalizing high with
  | nil => cases h
  | cons part parts ih =>
    cases parts with
    | nil => cases h
    | cons next parts =>
      rw [cutInner] at h
      split_ifs at h with hempty
      · obtain ⟨rfl, rfl⟩ := Prod.mk.inj (Option.some.inj h)
        rw [hempty, List.nil_append]
      · obtain ⟨⟨high', low'⟩, hrest, heq⟩ := Option.map_eq_some_iff.1 h
        obtain ⟨rfl, rfl⟩ := Prod.mk.inj heq
        rw [ih hrest, List.cons_append]

theorem cutAtSkip_eq_some {parts high low : List Str} (h : cutAtSkip parts = some (high, low)) :
    parts = high ++ [] :: low := by
  cases parts with
  | nil => cases h
  | cons part parts =>
    obtain ⟨⟨high', low'⟩, hrest, heq⟩ := Option.map_eq_some_iff.1 h
    obtain ⟨rfl, rfl⟩ := Prod.mk.inj heq
    rw [cutInner_eq_some hrest, List.cons_append]

/-- The sizes of the parts of an IPv6 address. -/
theorem sizes_of_parseHextets {parts : List Str} {hs : List ℕ} (h : parseHextets parts = some hs) :
    (∀ part ∈ parts, part.length ≤ 4) ∧
      (parts.length = 8 ∧ filled parts ≤ 8 ∨ filled parts ≤ 7) := by
  unfold parseHextets at h
  split at h
  · split_ifs at h with hlength
    obtain ⟨hsizes, hfilled⟩ := sizes_of_mapM h
    have heq := (mapM_eq_some.1 h).length_eq
    exact ⟨hsizes, .inl ⟨by omega, by omega⟩⟩
  · rename_i high low hcut
    obtain ⟨highs, hhigh, h⟩ := Option.bind_eq_some_iff.1 h
    obtain ⟨lows, hlow, h⟩ := Option.bind_eq_some_iff.1 h
    obtain ⟨hsizes, hfilled⟩ := sizes_of_parseSide hhigh
    obtain ⟨hsizes', hfilled'⟩ := sizes_of_parseSide hlow
    rw [cutAtSkip_eq_some hcut]
    have hcount : highs.length + lows.length ≤ 7 := by
      by_contra hmany
      rw [if_pos (by omega)] at h
      cases h
    constructor
    · intro part hmem
      rcases List.mem_append.1 hmem with hmem | hmem
      · exact hsizes part hmem
      · rcases List.mem_cons.1 hmem with rfl | hmem
        · exact Nat.zero_le _
        · exact hsizes' part hmem
    · right
      have hempty : filled [[]] = 0 := rfl
      rw [← List.singleton_append, filled_append, filled_append, hempty]
      omega

theorem length_of_parseIPv4 {text : Str} {ip : Fin (2 ^ 32)} (h : parseIPv4 text = some ip) :
    text.length ≤ 15 := by
  unfold parseIPv4 at h
  split at h
  · rename_i a b c d hparts
    have hjoin : join (chr '.') (split (chr '.') text) = text := List.intercalate_splitOn _
    have hlength := (mapM_eq_some.1 hparts).length_eq
    have hsizes : ∀ part ∈ split (chr '.') text, part.length ≤ 3 := fun part hmem => by
      obtain ⟨n, -, hn⟩ := parsed_of_mapM hparts hmem
      exact (parseOctet_eq_some hn).2
    have hsum := List.sum_le_card_nsmul ((split (chr '.') text).map List.length) 3 (by
      intro n hn
      obtain ⟨part, hmem, rfl⟩ := List.mem_map.1 hn
      exact hsizes part hmem)
    rw [← hjoin, length_join]
    rw [List.length_map] at hsum
    simp only [List.length_cons, List.length_nil, smul_eq_mul] at hlength hsum
    omega
  · cases h

/-- **No text longer than 45 characters is an IPv6 address.** -/
theorem length_of_parseIPv6 {text : Str} {ip : Fin (2 ^ 128)} (h : parseIPv6 text = some ip) :
    text.length ≤ 45 := by
  unfold parseIPv6 at h
  dsimp only at h
  split_ifs at h with hfew
  obtain ⟨parts, htail, h⟩ := Option.bind_eq_some_iff.1 h
  have hmost : parts.length ≤ 9 := by
    by_contra hmany
    rw [if_pos (by omega)] at h
    cases h
  rw [if_neg (by omega)] at h
  obtain ⟨hs, hparse, -⟩ := Option.bind_eq_some_iff.1 h
  obtain ⟨hsizes, hfilled⟩ := sizes_of_parseHextets hparse
  have hjoin : join (chr ':') (split (chr ':') text) = text := List.intercalate_splitOn _
  rw [← hjoin, length_join]
  generalize split (chr ':') text = texts at hfew htail
  have hne : texts ≠ [] := by
    rintro rfl
    simp at hfew
  unfold expandTail at htail
  rw [List.getLast?_eq_some_getLast hne] at htail
  dsimp only at htail
  split_ifs at htail with hdot
  · obtain ⟨ip', hip, rfl⟩ := Option.map_eq_some_iff.1 htail
    have hlast := length_of_parseIPv4 hip
    have hsum := sum_length_le fun part hmem => hsizes part (List.mem_append_left _ hmem)
    have htwo : filled [hexadecimal (ip'.val / 65536), hexadecimal (ip'.val % 65536)] = 2 := by
      simp [filled, hexadecimal_ne_nil]
    rw [filled_append, htwo, List.length_append] at hfilled
    simp only [List.length_append, List.length_dropLast, List.length_cons, List.length_nil] at *
    rw [← List.dropLast_append_getLast hne, List.map_append, List.sum_append]
    simp only [List.map_cons, List.map_nil, List.sum_cons, List.sum_nil, List.length_append,
      List.length_dropLast, List.length_cons, List.length_nil]
    omega
  · obtain rfl := Option.some.inj htail
    have hsum := sum_length_le hsizes
    omega

/-- No text longer than 45 characters is an address. -/
theorem length_of_ipAddress {text : Str} {address : IpAddress} (h : ipAddress text = some address) :
    text.length ≤ 45 := by
  unfold ipAddress at h
  split at h
  · rename_i ip hip
    have := length_of_parseIPv4 hip
    omega
  · obtain ⟨ip, hip, -⟩ := Option.map_eq_some_iff.1 h
    exact length_of_parseIPv6 hip

end Python
