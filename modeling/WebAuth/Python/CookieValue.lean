import WebAuth.Python.Fields

/-!
# Cookie values

`http.cookies` quotes a value that holds anything but the letters of a token, and reads quotes and
escapes back.
-/

namespace Python

/-! ## Quoting -/

/-- `_LegalChars`. -/
def isLegalCookieChar (c : CodePoint) : Bool := isAlphaNum c || isOneOf "!#$%&'*+-.^_`|~:" c

/-- `_UnescapedChars`. -/
def isUnescapedCookieChar (c : CodePoint) : Bool :=
  isLegalCookieChar c || isOneOf " ()/<=>?@[]\x7b\x7d" c

/-- `_Translator` on one character. -/
def escapeCookieChar (c : CodePoint) : Str :=
  if c = chr '\"' || c = chr '\\' then [chr '\\', c]
  else if c.val < 256 && !isUnescapedCookieChar c then
    [chr '\\', hexDigit (c.val / 64), hexDigit (c.val / 8 % 8), hexDigit (c.val % 8)]
  else [c]

/-- `_quote`. -/
def quoteCookie (s : Str) : Str :=
  if s ≠ [] && s.all isLegalCookieChar then s
  else chr '\"' :: s.flatMap escapeCookieChar ++ [chr '\"']

/-! ## Unquoting -/

theorem octal_lt {a b c : CodePoint}
    (h : (a.between '0' '3' && b.between '0' '7' && c.between '0' '7') = true) :
    (a.val - 48) * 64 + (b.val - 48) * 8 + (c.val - 48) < 0x110000 := by
  have h3 : ('3').toNat = 51 := rfl
  have h7 : ('7').toNat = 55 := rfl
  simp only [CodePoint.between, Bool.and_eq_true, decide_eq_true_eq] at h
  omega

/-- The character three octal digits stand for. -/
def octalEscape : Str → Option CodePoint
  | a :: b :: c :: _ =>
    if h : a.between '0' '3' && b.between '0' '7' && c.between '0' '7' then
      some ⟨(a.val - 48) * 64 + (b.val - 48) * 8 + (c.val - 48), octal_lt h⟩
    else none
  | _ => none

/-- What the text after a backslash escapes, and how many of its characters that takes. A line feed
is not escaped. -/
def cookieEscape : Str → Option (CodePoint × ℕ)
  | [] => none
  | a :: s =>
    match octalEscape (a :: s) with
    | some c => some (c, 3)
    | none => if a = chr '\n' then none else some (a, 1)

/-- The text with its escapes read, from the `skip`-th character on. -/
def unescapeAfter : ℕ → Str → Str
  | _, [] => []
  | skip + 1, _ :: s => unescapeAfter skip s
  | 0, c :: s =>
    if c = chr '\\' then
      match cookieEscape s with
      | some (d, more) => d :: unescapeAfter more s
      | none => c :: unescapeAfter 0 s
    else c :: unescapeAfter 0 s

/-- `_unquote`. -/
def unquoteCookie (s : Str) : Str :=
  if 2 ≤ s.length && s.head? = some (chr '\"') && s.getLast? = some (chr '\"') then
    unescapeAfter 0 s.tail.dropLast
  else s

/-! ## The round trip -/

section RoundTrip

theorem octal_digits : ∀ n < 256, (hexDigit (n / 64)).between '0' '3' = true ∧
    (hexDigit (n / 8 % 8)).between '0' '7' = true ∧ (hexDigit (n % 8)).between '0' '7' = true ∧
    ((hexDigit (n / 64)).val - 48) * 64 + ((hexDigit (n / 8 % 8)).val - 48) * 8 +
      ((hexDigit (n % 8)).val - 48) = n := by decide +kernel

theorem octalEscape_digits {c : CodePoint} (h : c.val < 256) (rest : Str) :
    octalEscape (hexDigit (c.val / 64) :: hexDigit (c.val / 8 % 8) :: hexDigit (c.val % 8) :: rest) =
      some c := by
  obtain ⟨hhigh, hmiddle, hlow, hvalue⟩ := octal_digits c.val h
  have hdigits : ((hexDigit (c.val / 64)).between '0' '3' && (hexDigit (c.val / 8 % 8)).between '0' '7' &&
      (hexDigit (c.val % 8)).between '0' '7') = true := by
    rw [hhigh, hmiddle, hlow]
    rfl
  refine (dif_pos hdigits).trans ?_
  exact congrArg some (Fin.ext hvalue)

theorem octalEscape_of_head {a : CodePoint} (h : a.between '0' '3' = false) (rest : Str) :
    octalEscape (a :: rest) = none := by
  unfold octalEscape
  split
  · rename_i b c _ heq
    obtain ⟨rfl, -⟩ := List.cons.inj heq
    rw [dif_neg (by rw [h]; simp)]
  · rfl

theorem unescapeAfter_plain {c : CodePoint} (h : c ≠ chr '\\') (rest : Str) :
    unescapeAfter 0 (c :: rest) = c :: unescapeAfter 0 rest := by
  rw [unescapeAfter, if_neg h]

theorem unescapeAfter_escape (c : CodePoint) (rest : Str) :
    unescapeAfter 0 (escapeCookieChar c ++ rest) = c :: unescapeAfter 0 rest := by
  unfold escapeCookieChar
  split_ifs with hmark hoctal
  · have hhead : c.between '0' '3' = false ∧ c ≠ chr '\n' := by
      rw [Bool.or_eq_true, decide_eq_true_eq, decide_eq_true_eq] at hmark
      rcases hmark with rfl | rfl
      · decide
      · decide
    have hescape : cookieEscape (c :: rest) = some (c, 1) := by
      rw [cookieEscape, octalEscape_of_head hhead.1]
      exact if_neg hhead.2
    show unescapeAfter 0 (chr '\\' :: c :: rest) = _
    rw [unescapeAfter, if_pos rfl, hescape]
    rfl
  · rw [Bool.and_eq_true, decide_eq_true_eq] at hoctal
    show unescapeAfter 0 (chr '\\' :: hexDigit (c.val / 64) :: hexDigit (c.val / 8 % 8) ::
      hexDigit (c.val % 8) :: rest) = _
    rw [unescapeAfter, if_pos rfl, cookieEscape, octalEscape_digits hoctal.1]
    rfl
  · rw [Bool.or_eq_true, not_or, decide_eq_true_eq, decide_eq_true_eq] at hmark
    exact unescapeAfter_plain hmark.2 rest

/-- **A value reads back from its quoted form.** -/
theorem unquoteCookie_quoteCookie (s : Str) : unquoteCookie (quoteCookie s) = s := by
  have hescaped : unescapeAfter 0 (s.flatMap escapeCookieChar) = s := by
    induction s with
    | nil => rfl
    | cons c s ih => rw [List.flatMap_cons, unescapeAfter_escape, ih]
  have hquote : isLegalCookieChar (chr '\"') = false := by decide
  unfold quoteCookie
  split_ifs with hlegal
  · rw [Bool.and_eq_true] at hlegal
    have hhead : s.head? ≠ some (chr '\"') := by
      intro hhead
      rw [List.all_eq_true.1 hlegal.2 _ (List.mem_of_head? hhead)] at hquote
      cases hquote
    unfold unquoteCookie
    rw [if_neg (by simp [hhead])]
  · have hlast : (chr '\"' :: s.flatMap escapeCookieChar ++ [chr '\"']).getLast? = some (chr '\"') :=
      List.getLast?_concat
    unfold unquoteCookie
    rw [if_pos (by rw [hlast]; simp)]
    show unescapeAfter 0 (s.flatMap escapeCookieChar ++ [chr '\"']).dropLast = s
    rw [List.dropLast_concat, hescaped]

end RoundTrip

/-! ## No surrogate comes of it -/

section Text

variable {s : Str}

theorem octalEscape_lt {c : CodePoint} (h : octalEscape s = some c) : isSurrogate c.val = false := by
  unfold octalEscape at h
  split at h
  · split_ifs at h with hdigits
    obtain rfl := Option.some.inj h
    have h3 : ('3').toNat = 51 := rfl
    have h7 : ('7').toNat = 55 := rfl
    simp only [CodePoint.between, Bool.and_eq_true, decide_eq_true_eq] at hdigits
    simp [isSurrogate]
    omega
  · cases h

theorem isText_unescapeAfter (h : IsText s) (skip : ℕ) : IsText (unescapeAfter skip s) := by
  induction s generalizing skip with
  | nil => simpa [unescapeAfter] using h
  | cons c s ih =>
    obtain ⟨hc, hs⟩ := List.forall_mem_cons.1 h
    cases skip with
    | succ skip => exact ih hs skip
    | zero =>
      rw [unescapeAfter]
      split_ifs
      · cases hescape : cookieEscape s with
        | none => exact List.forall_mem_cons.2 ⟨hc, ih hs 0⟩
        | some p =>
          refine List.forall_mem_cons.2 ⟨?_, ih hs p.2⟩
          cases s with
          | nil => cases hescape
          | cons a s =>
            rw [cookieEscape] at hescape
            split at hescape
            · rename_i d hoctal
              obtain rfl := Option.some.inj hescape
              exact octalEscape_lt hoctal
            · split_ifs at hescape
              obtain rfl := Option.some.inj hescape
              exact hs a List.mem_cons_self
      · exact List.forall_mem_cons.2 ⟨hc, ih hs 0⟩

theorem isText_unquoteCookie (h : IsText s) : IsText (unquoteCookie s) := by
  unfold unquoteCookie
  split_ifs
  · refine isText_unescapeAfter (fun c hc => ?_) 0
    exact h c (List.mem_of_mem_tail (List.dropLast_subset _ hc))
  · exact h

end Text

end Python
