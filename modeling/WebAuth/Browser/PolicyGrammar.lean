import WebAuth.Python.Fields

/-!
# The grammar of a content security policy

How a browser reads the header: a comma starts a new policy, a semicolon a new directive, and blanks
separate a directive's name and its sources.
-/

namespace Browser

open Python

/-! ## Reading -/

/-- ASCII whitespace. -/
def isAsciiWhitespace (c : CodePoint) : Bool := isOneOf "\t\n\x0c\r " c

/-- The words of a text, cut at ASCII whitespace. -/
def words (s : Str) : List Str := (s.splitOnP isAsciiWhitespace).filter (· ≠ [])

/-- A directive of a policy. -/
structure Directive where
  name : Str
  sources : List Str
  deriving DecidableEq

/-- The directive of one part of a policy, unless the part is blank. -/
def parseDirective (part : Str) : Option Directive :=
  match words part with
  | [] => none
  | name :: sources => some ⟨lowerAscii name, sources⟩

/-- The directives that count: the first of each name. -/
def firstOfEach (directives : List Directive) : List Directive :=
  directives.foldl (fun kept directive =>
    if kept.any (·.name = directive.name) then kept else kept ++ [directive]) []

/-- One policy. -/
def parsePolicy (s : Str) : List Directive :=
  firstOfEach ((split (chr ';') s).filterMap parseDirective)

/-- The policies of a header value; one without directives is none. -/
def parsePolicies (s : Str) : List (List Directive) :=
  ((split (chr ',') s).map parsePolicy).filter (· ≠ [])

/-! ## Writing -/

/-- A directive as it is written. -/
def Directive.text (directive : Directive) : Str :=
  directive.name ++ str " " ++ join (chr ' ') directive.sources

/-- A policy as it is written. -/
def policyText (directives : List Directive) : Str :=
  (str "; ").intercalate (directives.map Directive.text)

/-- A word that neither ends its directive nor its policy. -/
structure IsToken (s : Str) : Prop where
  nonempty : s ≠ []
  noBlank : ∀ c ∈ s, isAsciiWhitespace c = false
  noSemicolon : chr ';' ∉ s
  noComma : chr ',' ∉ s

/-- A directive whose text can be read back: a name without capitals and at least one source. -/
structure Directive.IsPlain (directive : Directive) : Prop where
  name_isToken : IsToken directive.name
  name_lower : lowerAscii directive.name = directive.name
  sources_ne : directive.sources ≠ []
  sources_isToken : ∀ source ∈ directive.sources, IsToken source

/-! ## Reading what was written -/

theorem words_blank_cons (c : CodePoint) (hc : isAsciiWhitespace c = true) (s : Str) :
    words (c :: s) = words s := by
  unfold words
  rw [show c :: s = [] ++ c :: s from rfl, List.splitOnP_append_cons [] s hc]
  rfl

theorem words_append_blank {word : Str} (hne : word ≠ [])
    (hword : ∀ c ∈ word, isAsciiWhitespace c = false) {c : CodePoint}
    (hc : isAsciiWhitespace c = true) (s : Str) : words (word ++ c :: s) = word :: words s := by
  unfold words
  rw [List.splitOnP_append_cons_of_forall_mem hword c hc s]
  exact List.filter_cons_of_pos (decide_eq_true hne)

theorem words_word {word : Str} (hne : word ≠ [])
    (hword : ∀ c ∈ word, isAsciiWhitespace c = false) : words word = [word] := by
  unfold words
  rw [List.splitOnP_eq_singleton hword]
  exact List.filter_cons_of_pos (decide_eq_true hne)

theorem words_join {parts : List Str} (h : ∀ part ∈ parts, IsToken part) :
    words (join (chr ' ') parts) = parts := by
  induction parts with
  | nil => rfl
  | cons part parts ih =>
    have hpart := h part List.mem_cons_self
    have hrest := ih fun other hother => h other (List.mem_cons_of_mem _ hother)
    by_cases hnil : parts = []
    · rw [hnil]
      show words (join (chr ' ') [part]) = _
      rw [join, List.intercalate_singleton]
      exact words_word hpart.nonempty hpart.noBlank
    · have hjoin : join (chr ' ') (part :: parts) = part ++ chr ' ' :: join (chr ' ') parts := by
        unfold join
        rw [List.intercalate_cons_of_ne_nil hnil, List.append_assoc]
        rfl
      rw [hjoin, words_append_blank hpart.nonempty hpart.noBlank (by decide), hrest]

/-- A directive reads back, whatever blank stands before it. -/
theorem parseDirective_text {directive : Directive} (h : directive.IsPlain) :
    parseDirective directive.text = some directive := by
  have htext : words directive.text = directive.name :: directive.sources := by
    unfold Directive.text
    rw [List.append_assoc]
    show words (directive.name ++ chr ' ' :: join (chr ' ') directive.sources) = _
    rw [words_append_blank h.name_isToken.nonempty h.name_isToken.noBlank (by decide),
      words_join h.sources_isToken]
  unfold parseDirective
  rw [htext]
  dsimp only
  rw [h.name_lower]

theorem parseDirective_blank_cons (s : Str) :
    parseDirective (chr ' ' :: s) = parseDirective s := by
  unfold parseDirective
  rw [words_blank_cons _ (by decide)]

theorem Directive.not_mem_text {directive : Directive} {c : CodePoint}
    (hblank : c ≠ chr ' ') (hname : c ∉ directive.name)
    (hsources : ∀ source ∈ directive.sources, c ∉ source) : c ∉ directive.text := by
  unfold Directive.text
  rw [List.append_assoc, List.mem_append, List.mem_append]
  rintro (hmem | hmem | hmem)
  · exact hname hmem
  · exact hblank (List.mem_singleton.1 hmem)
  · rcases mem_join hmem with hmem | ⟨source, hsource, hmem⟩
    · exact hblank hmem
    · exact hsources source hsource hmem

theorem Directive.IsPlain.noSemicolon {directive : Directive} (h : directive.IsPlain) :
    chr ';' ∉ directive.text :=
  not_mem_text (by decide) h.name_isToken.noSemicolon fun source hsource =>
    (h.sources_isToken source hsource).noSemicolon

theorem Directive.IsPlain.noComma {directive : Directive} (h : directive.IsPlain) :
    chr ',' ∉ directive.text :=
  not_mem_text (by decide) h.name_isToken.noComma fun source hsource =>
    (h.sources_isToken source hsource).noComma

theorem filterMap_split_blank_cons (s : Str) :
    (split (chr ';') (chr ' ' :: s)).filterMap parseDirective =
      (split (chr ';') s).filterMap parseDirective := by
  unfold split
  rw [List.splitOn_cons_eq_if_modifyHead, if_neg (by decide)]
  cases s.splitOn (chr ';') with
  | nil => rfl
  | cons part parts =>
    rw [List.modifyHead_cons, List.filterMap_cons, List.filterMap_cons, parseDirective_blank_cons]

/-- The parts of a written policy are its directives. -/
theorem filterMap_split_policyText {directives : List Directive}
    (h : ∀ directive ∈ directives, directive.IsPlain) :
    (split (chr ';') (policyText directives)).filterMap parseDirective = directives := by
  unfold policyText
  induction directives with
  | nil => rfl
  | cons directive directives ih =>
    have hdirective := h directive List.mem_cons_self
    have hrest := ih fun other hother => h other (List.mem_cons_of_mem _ hother)
    have halone : split (chr ';') directive.text = [directive.text] :=
      List.splitOn_eq_singleton hdirective.noSemicolon
    by_cases hnil : directives = []
    · rw [hnil, List.map_singleton, List.intercalate_singleton, halone, List.filterMap_cons,
        parseDirective_text hdirective]
      rfl
    · rw [List.map_cons, List.intercalate_cons_of_ne_nil (by simpa using hnil), List.append_assoc]
      show (split (chr ';') (directive.text ++ chr ';' :: (chr ' ' ::
        (str "; ").intercalate (directives.map Directive.text)))).filterMap _ = _
      rw [split_append_cons, List.filterMap_append, halone, filterMap_split_blank_cons, hrest,
        List.filterMap_cons, parseDirective_text hdirective]
      rfl

theorem foldl_firstOfEach {kept directives : List Directive}
    (h : ((kept ++ directives).map (·.name)).Nodup) :
    directives.foldl (fun kept directive =>
      if kept.any (·.name = directive.name) then kept else kept ++ [directive]) kept =
      kept ++ directives := by
  induction directives generalizing kept with
  | nil => exact (List.append_nil kept).symm
  | cons directive directives ih =>
    have hfresh : kept.any (·.name = directive.name) = false := by
      rw [List.map_append, List.nodup_append] at h
      rw [List.any_eq_false]
      intro other hother
      simpa using h.2.2 other.name (List.mem_map_of_mem hother) directive.name (by simp)
    rw [List.append_cons] at h ⊢
    rw [List.foldl_cons, hfresh]
    exact ih h

/-- Directives of different names all count. -/
theorem firstOfEach_eq_self {directives : List Directive}
    (h : (directives.map (·.name)).Nodup) : firstOfEach directives = directives :=
  foldl_firstOfEach h

/-- **A written policy reads back as one policy, directive by directive.** -/
theorem parsePolicies_policyText {directives : List Directive} (hne : directives ≠ [])
    (h : ∀ directive ∈ directives, directive.IsPlain) (hnames : (directives.map (·.name)).Nodup) :
    parsePolicies (policyText directives) = [directives] := by
  have hcomma : chr ',' ∉ policyText directives := by
    intro hmem
    rcases mem_intercalate hmem with hmem | ⟨part, hpart, hmem⟩
    · revert hmem
      decide
    · obtain ⟨directive, hdirective, rfl⟩ := List.mem_map.1 hpart
      exact (h directive hdirective).noComma hmem
  unfold parsePolicies
  rw [split, List.splitOn_eq_singleton hcomma, List.map_singleton, parsePolicy,
    filterMap_split_policyText h, firstOfEach_eq_self hnames]
  exact List.filter_cons_of_pos (decide_eq_true hne)

end Browser
