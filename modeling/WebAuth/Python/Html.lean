import WebAuth.Python.Text

/-!
# Escaped text

`html.escape`, which writes the five characters with a meaning in markup as character references.
-/

namespace Python

/-- A character as `html.escape` writes it. -/
def escapeCharacter (c : CodePoint) : Str :=
  if c = chr '&' then str "&amp;"
  else if c = chr '<' then str "&lt;"
  else if c = chr '>' then str "&gt;"
  else if c = chr '"' then str "&quot;"
  else if c = chr '\'' then str "&#x27;"
  else [c]

/-- `html.escape`. -/
def htmlEscape (s : Str) : Str := s.flatMap escapeCharacter

/-- Whether a character is written as itself. -/
def isPlainText (c : CodePoint) : Bool := !isOneOf "&<>\"'" c

theorem escapeCharacter_of_plain {c : CodePoint} (h : isPlainText c = true) :
    escapeCharacter c = [c] := by
  have hne : c ≠ chr '&' ∧ c ≠ chr '<' ∧ c ≠ chr '>' ∧ c ≠ chr '"' ∧ c ≠ chr '\'' := by
    refine ⟨?_, ?_, ?_, ?_, ?_⟩ <;>
    · rintro rfl
      revert h
      decide
  obtain ⟨hamp, hlt, hgt, hquot, hquote⟩ := hne
  unfold escapeCharacter
  rw [if_neg hamp, if_neg hlt, if_neg hgt, if_neg hquot, if_neg hquote]

/-- The characters that are written as references. -/
theorem not_isPlainText {c : CodePoint} (h : isPlainText c = false) :
    c = chr '&' ∨ c = chr '<' ∨ c = chr '>' ∨ c = chr '"' ∨ c = chr '\'' := by
  have hmem : c ∈ str "&<>\"'" := by
    simpa [isPlainText, isOneOf] using h
  have hlist : str "&<>\"'" = [chr '&', chr '<', chr '>', chr '"', chr '\''] := by decide
  rw [hlist] at hmem
  simpa using hmem

theorem htmlEscape_cons (c : CodePoint) (s : Str) :
    htmlEscape (c :: s) = escapeCharacter c ++ htmlEscape s := rfl

theorem htmlEscape_eq_self {s : Str} (h : s.all isPlainText = true) : htmlEscape s = s := by
  induction s with
  | nil => rfl
  | cons c s ih =>
    rw [List.all_cons, Bool.and_eq_true] at h
    rw [htmlEscape_cons, escapeCharacter_of_plain h.1, ih h.2]
    rfl

end Python
