import WebAuth.Python.Encodings
import WebAuth.Python.Percent

/-!
# Form encoding

What `quote_plus` and `urlencode` write, `unquote_plus` and `parse_qsl` read back, strictly or not.
-/

namespace Python

section FormEncoding

variable {errors : UInt8 → Option CodePoint} {s q : Str} {b : Bytes}

/-- A character of what `quote_plus` writes: what it leaves, a `+` for a space, or of an escape. -/
def isFormChar (c : CodePoint) : Bool := isAlphaNum c || isOneOf "_.-~%+" c

/-- The bytes `quote_plus` keeps before it writes a space as `+`. -/
abbrev isSpaceChar (c : CodePoint) : Bool := decide (c = chr ' ')

theorem quotePlus_eq_some : quotePlus s = some q ↔ ∃ b, encode s = some b ∧
    q = (quoteFromBytes isSpaceChar b).map fun c => if c = chr ' ' then chr '+' else c := by
  unfold quotePlus quote
  rw [Option.map_eq_some_iff]
  constructor
  · rintro ⟨quoted, hquoted, rfl⟩
    obtain ⟨b, hb, rfl⟩ := Option.map_eq_some_iff.1 hquoted
    exact ⟨b, hb, rfl⟩
  · rintro ⟨b, hb, rfl⟩
    exact ⟨_, Option.map_eq_some_iff.2 ⟨b, hb, rfl⟩, rfl⟩

/-- A character that `quote` leaves or writes when the space is kept too. -/
theorem mem_quoteFromBytes {c : CodePoint} (h : c ∈ quoteFromBytes isSpaceChar b) :
    isAlphaNum c = true ∨ isOneOf "_.-~% " c = true := by
  rw [quoteFromBytes_eq] at h
  obtain ⟨x, -, hx⟩ := List.mem_flatMap.1 h
  unfold quoteByte at hx
  split_ifs at hx with hleft
  · rw [List.mem_singleton.1 hx]
    simp only [isLeft, isAlwaysSafe, Bool.and_eq_true, Bool.or_eq_true] at hleft
    rcases hleft.2 with (halnum | hmark) | hspace
    · exact .inl halnum
    · refine .inr ?_
      simp only [isOneOf, List.contains_iff_mem] at hmark ⊢
      exact List.mem_append_left (str "% ") hmark
    · rw [of_decide_eq_true hspace]
      exact .inr (by decide)
  · have hdigit := fun n hn => (upperHexDigit_facts n hn).2
    have hlt := x.toNat_lt
    simp only [percentByte, List.mem_cons, List.not_mem_nil, or_false] at hx
    rcases hx with rfl | rfl | rfl
    · exact .inr (by decide)
    · exact .inl (hdigit _ (by omega))
    · exact .inl (hdigit _ (by omega))

theorem isAscii_of_isAlphaNum {c : CodePoint} (h : isAlphaNum c = true) : c.isAscii = true :=
  isAscii_base64Url (show isBase64Url c = true by simp [isBase64Url, h])

/-- The characters of a form-encoded text. -/
theorem quotePlus_chars (h : quotePlus s = some q) : ∀ c ∈ q, isFormChar c = true := by
  obtain ⟨b, -, rfl⟩ := quotePlus_eq_some.1 h
  intro c hc
  obtain ⟨d, hd, rfl⟩ := List.mem_map.1 hc
  by_cases hspace : d = chr ' '
  · rw [if_pos hspace]
    decide
  · rw [if_neg hspace]
    unfold isFormChar
    rcases mem_quoteFromBytes hd with halnum | hmark
    · rw [halnum, Bool.true_or]
    · simp only [isOneOf, List.contains_iff_mem, Bool.or_eq_true] at hmark ⊢
      have hlisted : d ∈ str "_.-~%" ∨ d ∈ str " " :=
        List.mem_append.1 (show d ∈ str "_.-~%" ++ str " " from hmark)
      rcases hlisted with hkept | hblank
      · exact .inr (List.mem_append_left (str "+") hkept)
      · exact absurd (List.mem_singleton.1 hblank) hspace

/-- No mark of a query or of an address stands in a form-encoded text. -/
theorem not_mem_of_form {mark : CodePoint} (hmark : isFormChar mark = false)
    (h : quotePlus s = some q) : mark ∉ q := by
  intro hmem
  rw [quotePlus_chars h mark hmem] at hmark
  cases hmark

/-- A space is read back from its `+`, which no quoted text holds otherwise. -/
theorem spaces_of_plus : ((quoteFromBytes isSpaceChar b).map fun c =>
      if c = chr ' ' then chr '+' else c).map (fun c => if c = chr '+' then chr ' ' else c) =
    quoteFromBytes isSpaceChar b := by
  rw [List.map_map]
  refine (List.map_congr_left fun c hc => ?_).trans (List.map_id _)
  rw [Function.comp_apply, id_eq]
  by_cases hspace : c = chr ' '
  · rw [hspace]
    rfl
  · have hplus : c ≠ chr '+' := by
      rintro rfl
      rcases mem_quoteFromBytes hc with h | h <;> exact absurd h (by decide)
    rw [if_neg hspace, if_neg hplus]

theorem quoteFromBytes_isAscii : isAscii (quoteFromBytes isSpaceChar b) = true := by
  have hlisted : (str "_.-~% ").all CodePoint.isAscii = true := by decide
  refine List.all_eq_true.2 fun c hc => ?_
  rcases mem_quoteFromBytes hc with h | h
  · exact isAscii_of_isAlphaNum h
  · simp only [isOneOf, List.contains_iff_mem] at h
    exact List.all_eq_true.1 hlisted c h

/-- A text of ASCII characters is one run. -/
theorem unquoteRuns_of_isAscii (h : isAscii s = true) :
    unquoteRuns errors (s.splitBy fun a b => a.isAscii == b.isAscii) =
      decode errors (unquoteToBytes s) := by
  by_cases hnil : s = []
  · rw [hnil]
    rfl
  · have hchain : s.IsChain fun a b => (a.isAscii == b.isAscii) = true := by
      refine (List.pairwise_of_forall_mem_list fun a ha b hb => ?_).isChain
      rw [List.all_eq_true.1 h a ha, List.all_eq_true.1 h b hb]
      rfl
    rw [List.splitBy_of_isChain hnil hchain, unquoteRuns, unquoteRun, if_pos h]
    cases decode errors (unquoteToBytes s) <;> simp [unquoteRuns]

/-- **A form-encoded text reads back**, whatever is done about bytes that do not decode. -/
theorem unquotePlus_quotePlus (h : quotePlus s = some q) : unquotePlus errors q = some s := by
  obtain ⟨b, hb, rfl⟩ := quotePlus_eq_some.1 h
  unfold unquotePlus
  rw [spaces_of_plus, unquoteRuns_of_isAscii quoteFromBytes_isAscii,
    unquoteToBytes_quote (by decide)]
  exact decode_encode errors hb

theorem quotePlus_isSome : (quotePlus s).isSome = true ↔ IsText s := by
  rw [← encode_isSome, quotePlus, quote, Option.isSome_map, Option.isSome_map]

/-! ## Pairs -/

/-- The piece of a query that stands for a pair. -/
def IsPiece (pair : Str × Str) (piece : Str) : Prop :=
  ∃ name value, quotePlus pair.1 = some name ∧ quotePlus pair.2 = some value ∧
    piece = name ++ chr '=' :: value

variable {strictParsing : Bool} {pair : Str × Str} {piece : Str} {pairs : List (Str × Str)}
  {pieces : List Str}

theorem parsePiece_of_isPiece (h : IsPiece pair piece) :
    parsePiece strictParsing errors piece = some (some pair) := by
  obtain ⟨name, value, hname, hvalue, rfl⟩ := h
  have hcut : partition (chr '=') (name ++ chr '=' :: value) = (name, some value) :=
    partition_append (not_mem_of_form (by decide) hname) value
  unfold parsePiece
  rw [hcut]
  simp [unquotePlus_quotePlus hname, unquotePlus_quotePlus hvalue]

theorem parsePieces_of_isPiece (h : List.Forall₂ IsPiece pairs pieces) :
    parsePieces strictParsing errors pieces = some pairs := by
  induction h with
  | nil => rfl
  | cons hpiece _ ih =>
    rw [parsePieces, parsePiece_of_isPiece hpiece, ih]
    rfl

theorem not_mem_of_isPiece {mark : CodePoint} (hmark : isFormChar mark = false)
    (hne : mark ≠ chr '=') (h : IsPiece pair piece) : mark ∉ piece := by
  obtain ⟨name, value, hname, hvalue, rfl⟩ := h
  rw [List.mem_append, List.mem_cons]
  rintro (hmem | rfl | hmem)
  · exact not_mem_of_form hmark hname hmem
  · exact hne rfl
  · exact not_mem_of_form hmark hvalue hmem

theorem exists_of_mem_pieces (h : List.Forall₂ IsPiece pairs pieces) (hmem : piece ∈ pieces) :
    ∃ pair, IsPiece pair piece := by
  obtain ⟨i, rfl⟩ := List.get_of_mem hmem
  obtain ⟨hlength, hget⟩ := List.forall₂_iff_get.1 h
  exact ⟨_, hget i (lt_of_lt_of_eq i.2 hlength.symm) i.2⟩

/-- **The pairs of a query read back from its pieces**, by the strict parser and by the other. -/
theorem parseQsl_join (h : List.Forall₂ IsPiece pairs pieces) :
    parseQsl strictParsing errors (join (chr '&') pieces) = some pairs := by
  by_cases hnil : pieces = []
  · subst hnil
    rw [List.forall₂_nil_right_iff.1 h]
    rfl
  · have hfields : ∀ piece ∈ pieces, chr '&' ∉ piece := fun piece hmem => by
      obtain ⟨pair, hpiece⟩ := exists_of_mem_pieces h hmem
      exact not_mem_of_isPiece (by decide) (by decide) hpiece
    have hsplit := split_join hnil hfields
    unfold parseQsl
    split_ifs with hempty
    · rw [hempty] at hsplit
      rw [← hsplit] at h
      obtain ⟨pair, rest, ⟨name, value, -, -, heq⟩, -, -⟩ := List.forall₂_cons_right_iff.1 h
      simp at heq
    · rw [hsplit]
      exact parsePieces_of_isPiece h

end FormEncoding

end Python
