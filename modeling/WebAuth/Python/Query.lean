import WebAuth.Python.Utf8

/-!
# Query strings

`urllib.parse.quote`, and `parse_qsl` with `keep_blank_values=True`. The strict parse refuses a piece without
`=` and a value that does not decode; the other parse skips an empty piece and decodes what the
error handler lets it. A query the strict parse accepts reads the same under the other.
-/

namespace Python

/-- The value of a hex digit of either case. -/
def hexValue (c : CodePoint) : Option ℕ :=
  if isDigit c then some (c.val - ('0').toNat)
  else if c.between 'a' 'f' then some (c.val - ('a').toNat + 10)
  else if c.between 'A' 'F' then some (c.val - ('A').toNat + 10)
  else none

/-- The byte a percent escape at the head of a string stands for. -/
def escape : Str → Option UInt8
  | c :: a :: b :: _ =>
    if c = chr '%' then do
      let x ← hexValue a
      let y ← hexValue b
      return UInt8.ofNat (16 * x + y)
    else none
  | _ => none

/-- Unquote, the first `skip` characters belonging to an escape already read. -/
def unquoteAfter : ℕ → Str → Bytes
  | _, [] => []
  | skip + 1, _ :: s => unquoteAfter skip s
  | 0, c :: s =>
    match escape (c :: s) with
    | some b => b :: unquoteAfter 2 s
    | none => UInt8.ofNat c.val :: unquoteAfter 0 s

/-- `unquote_to_bytes` of an ASCII string: a `%` before two hex digits is their byte, every other
character its own. -/
def unquoteToBytes (s : Str) : Bytes := unquoteAfter 0 s

/-- One maximal run of ASCII or of other characters. -/
def unquoteRun (errors : UInt8 → Option CodePoint) (run : Str) : Option Str :=
  if isAscii run then decode errors (unquoteToBytes run) else some run

/-- The runs one after the other. -/
def unquoteRuns (errors : UInt8 → Option CodePoint) : List Str → Option Str
  | [] => some []
  | run :: runs =>
    match unquoteRun errors run, unquoteRuns errors runs with
    | some s, some t => some (s ++ t)
    | _, _ => none

/-- `unquote_plus(s, errors=errors)`. -/
def unquotePlus (errors : UInt8 → Option CodePoint) (s : Str) : Option Str :=
  unquoteRuns errors
    ((s.map fun c => if c = chr '+' then chr ' ' else c).splitBy fun a b => a.isAscii == b.isAscii)

/-- One piece of a query: its name and value, `none` for a piece that is skipped. -/
def parsePiece (strictParsing : Bool) (errors : UInt8 → Option CodePoint) (piece : Str) :
    Option (Option (Str × Str)) :=
  if piece = [] && !strictParsing then some none
  else
    match partition (chr '=') piece with
    | (name, value) =>
      if value = none && strictParsing then none
      else
        match unquotePlus errors name, unquotePlus errors (value.getD []) with
        | some n, some v => some (some (n, v))
        | _, _ => none

/-- The pieces one after the other. -/
def parsePieces (strictParsing : Bool) (errors : UInt8 → Option CodePoint) :
    List Str → Option (List (Str × Str))
  | [] => some []
  | piece :: pieces =>
    match parsePiece strictParsing errors piece, parsePieces strictParsing errors pieces with
    | some pair, some pairs => some (pair.toList ++ pairs)
    | _, _ => none

/-- `parse_qsl(query, keep_blank_values=True, strict_parsing=…, errors=…)`, `none` being
`ValueError`. -/
def parseQsl (strictParsing : Bool) (errors : UInt8 → Option CodePoint) (query : Str) :
    Option (List (Str × Str)) :=
  if query = [] then some [] else parsePieces strictParsing errors (split (chr '&') query)

/-! ## Quoting -/

/-- The characters `quote` never escapes. -/
def isAlwaysSafe (c : CodePoint) : Bool := isAlphaNum c || isOneOf "_.-~" c

/-- `quote_from_bytes(b, safe=safe)`. -/
def quoteFromBytes (safe : CodePoint → Bool) (b : Bytes) : Str :=
  b.flatMap fun x =>
    let c := CodePoint.ofByte x
    if x.toNat < 0x80 && (isAlwaysSafe c || safe c) then [c]
    else (str "%" ++ hex [x]).map fun d => if h : d.between 'a' 'f' then
      ⟨d.val - 32, by have := d.isLt; omega⟩ else d

/-- `quote(s, safe=safe)`, `none` being `UnicodeEncodeError`. -/
def quote (safe : CodePoint → Bool) (s : Str) : Option Str := (encode s).map (quoteFromBytes safe)

/-- `quote_plus(s)`. -/
def quotePlus (s : Str) : Option Str :=
  (quote (· = chr ' ') s).map fun q => q.map fun c => if c = chr ' ' then chr '+' else c

/-! ## The strict parse and the other -/

section

variable {errors : UInt8 → Option CodePoint}

theorem unquoteRuns_of_strict {runs : List Str} {s : Str}
    (h : unquoteRuns strict runs = some s) : unquoteRuns errors runs = some s := by
  induction runs generalizing s with
  | nil => exact h
  | cons run runs ih =>
    unfold unquoteRuns at h
    split at h
    · rename_i x y hx hy
      have hx' : unquoteRun errors run = some x := by
        unfold unquoteRun at hx ⊢
        split_ifs at hx ⊢
        · exact decode_of_strict hx
        · exact hx
      rw [unquoteRuns, hx', ih hy]
      exact h
    · cases h

theorem unquotePlus_of_strict {s t : Str} (h : unquotePlus strict s = some t) :
    unquotePlus errors s = some t := unquoteRuns_of_strict h

theorem parsePiece_of_strict {piece : Str} {pair : Option (Str × Str)}
    (h : parsePiece true strict piece = some pair) : parsePiece false errors piece = some pair := by
  unfold parsePiece at h ⊢
  cases hp : partition (chr '=') piece with
  | mk name value =>
    cases value with
    | none => simp [hp] at h
    | some value =>
      have hne : piece ≠ [] := by
        rintro rfl
        simp [partition] at hp
      simp only [hp, Option.getD_some] at h ⊢
      simp only [hne, decide_false, Bool.false_and, Bool.false_eq_true, if_false, reduceCtorEq,
        Bool.not_true, Bool.and_false] at h ⊢
      split at h
      · rename_i n v hn hv
        rw [unquotePlus_of_strict hn, unquotePlus_of_strict hv]
        exact h
      · cases h

theorem parsePieces_of_strict {pieces : List Str} {pairs : List (Str × Str)}
    (h : parsePieces true strict pieces = some pairs) :
    parsePieces false errors pieces = some pairs := by
  induction pieces generalizing pairs with
  | nil => exact h
  | cons piece pieces ih =>
    unfold parsePieces at h
    split at h
    · rename_i x xs hx hxs
      rw [parsePieces, parsePiece_of_strict hx, ih hxs]
      exact h
    · cases h

/-- **A query the strict parse accepts has the same pairs under the lenient one.** -/
theorem parseQsl_of_strict {query : Str} {pairs : List (Str × Str)}
    (h : parseQsl true strict query = some pairs) : parseQsl false errors query = some pairs := by
  unfold parseQsl at h ⊢
  split_ifs at h ⊢
  · exact h
  · exact parsePieces_of_strict h

end

end Python
