import WebAuth.Browser.HtmlText

/-!
# Written pages

A page written tag by tag, with its texts and attribute values escaped, reads back as those tags and
texts, whatever the texts and values hold.
-/

namespace Browser

open Python

/-! ## Writing -/

/-- A doctype or a tag. -/
inductive Markup where
  | doctype
  | start (name : Str) (attributes : List (Str × Str))
  | close (name : Str)

/-- An attribute as it is written. -/
def attributeText (entry : Str × Str) : Str :=
  str " " ++ entry.1 ++ str "=\"" ++ htmlEscape entry.2 ++ str "\""

/-- A doctype or a tag as it is written. -/
def Markup.text : Markup → Str
  | .doctype => str "<!doctype html>"
  | .start name attributes => str "<" ++ name ++ attributes.flatMap attributeText ++ str ">"
  | .close name => str "</" ++ name ++ str ">"

/-- A doctype or a tag, and the text that follows it. -/
structure Piece where
  markup : Markup
  text : Str := []

/-- A piece as it is written. -/
def Piece.source (piece : Piece) : Str := piece.markup.text ++ htmlEscape piece.text

/-- A page as it is written. -/
def pageSource (pieces : List Piece) : Str := pieces.flatMap Piece.source

/-! ## What should be read -/

/-- How a text is read after a doctype or a tag. -/
def Markup.after (mode : TextMode) : Markup → Option TextMode
  | .doctype => if mode = .data then some .data else none
  | .start name _ => if mode = .data then modeAfter name else none
  | .close name =>
    match mode with
    | .data => some .data
    | .raw _ element =>
      if name = element && name.all (fun c => c.between 'a' 'z') then some .data else none

/-- The token of a doctype or a tag. -/
def Markup.token : Markup → Token
  | .doctype => .doctype (str "html")
  | .start name attributes =>
    .startTag name (attributes.map fun entry => (entry.1, entry.2.map replaceNul))
  | .close name => .endTag name

/-- The characters of a text. A script may hold nothing that is escaped. -/
def textTokens (mode : TextMode) (s : Str) : Option (List Token) :=
  match mode with
  | .data => some (s.map .character)
  | .raw .rcdata _ => some (s.map fun c => .character (replaceNul c))
  | .raw .script _ =>
    if s.all isPlainText then some (s.map fun c => .character (replaceNul c)) else none

/-- The tokens of a page's pieces, and how text after them is read. -/
def readPieces : TextMode → List Piece → Option (TextMode × List Token)
  | mode, [] => some (mode, [])
  | mode, piece :: pieces => do
    let next ← piece.markup.after mode
    let texts ← textTokens next piece.text
    let (last, tokens) ← readPieces next pieces
    return (last, piece.markup.token :: (texts ++ tokens))

/-- `[a-z0-9-]`. -/
def isNameCharacter (c : CodePoint) : Bool := c.between 'a' 'z' || isDigit c || c = chr '-'

/-- `[a-z][a-z0-9-]*`. -/
def isPlainName (name : Str) : Bool :=
  name.head?.any (fun c => c.between 'a' 'z') && name.all isNameCharacter

/-- Names as they are written in plain markup, and no attribute twice. -/
def Markup.isPlain : Markup → Bool
  | .doctype => true
  | .start name attributes =>
    isPlainName name && attributes.all (fun entry => isPlainName entry.1) &&
      (attributes.map (·.1)).Nodup
  | .close name => isPlainName name

/-! ## Tags -/

section Tags

variable (table : ReferenceTable) {tag : Tag} {name : Str} {state : State}

/-- A character of a plain name belongs to the name and is no capital. -/
theorem nameCharacter_of_plain {c : CodePoint} (h : isNameCharacter c = true) :
    isAsciiWhitespace c = false ∧ c ≠ chr '/' ∧ c ≠ chr '>' ∧ c ≠ chr '=' ∧
      nameCharacter c = [c] := by
  have hne : ∀ d : CodePoint, isNameCharacter d = false → c ≠ d := by
    rintro d hd rfl
    rw [h] at hd
    cases hd
  refine ⟨?_, hne _ (by decide), hne _ (by decide), hne _ (by decide), ?_⟩
  · rw [Bool.eq_false_iff]
    intro hblank
    have hblanks : (str "\t\n\x0c\r ").all (fun d => !isNameCharacter d) = true := by decide
    have hname := List.all_eq_true.1 hblanks c (List.contains_iff_mem.1 hblank)
    rw [h] at hname
    cases hname
  · have hcapital : ¬ c.between 'A' 'Z' = true := by
      intro hcapital
      simp only [isNameCharacter, isDigit, CodePoint.between, Bool.or_eq_true, Bool.and_eq_true,
        decide_eq_true_eq] at h hcapital
      have hA : ('A').toNat = 65 := rfl
      have hZ : ('Z').toNat = 90 := rfl
      have ha : ('a').toNat = 97 := rfl
      have h9 : ('9').toNat = 57 := rfl
      rcases h with h | rfl
      · omega
      · have hdash : (chr '-').val = 45 := rfl
        omega
    have hnul : c ≠ 0 := hne 0 (by decide)
    unfold nameCharacter lowerAscii replaceNul
    rw [List.map_singleton, List.map_singleton, dif_neg hcapital, if_neg hnul]

theorem isAsciiAlpha_of_head {c : CodePoint} (h : c.between 'a' 'z' = true) :
    isAsciiAlpha c = true := by
  unfold isAsciiAlpha
  rw [h, Bool.or_true]

theorem step_tagOpen : step table TextMode.data.state (chr '<') = (.tagOpen, []) := rfl

theorem run_tagName (tag : Tag) (h : name.all isNameCharacter = true) :
    run table (.tagName tag) name = (.tagName { tag with name := tag.name ++ name }, []) := by
  induction name generalizing tag with
  | nil => rw [List.append_nil]; rfl
  | cons c name ih =>
    rw [List.all_cons, Bool.and_eq_true] at h
    obtain ⟨hblank, hslash, hend, -, hname⟩ := nameCharacter_of_plain h.1
    have hstep : step table (.tagName tag) c =
        (.tagName { tag with name := tag.name ++ [c] }, []) := by
      show (if isAsciiWhitespace c then _ else _ : Step) = _
      rw [if_neg (by rw [hblank]; exact Bool.false_ne_true), if_neg hslash, if_neg hend, hname]
    have hrest := ih { tag with name := tag.name ++ [c] } h.2
    rw [List.append_assoc] at hrest
    exact run_cons table hstep hrest

theorem run_attributeName (read : Str) (h : name.all isNameCharacter = true) :
    run table (.attributeName tag read) name = (.attributeName tag (read ++ name), []) := by
  induction name generalizing read with
  | nil => rw [List.append_nil]; rfl
  | cons c name ih =>
    rw [List.all_cons, Bool.and_eq_true] at h
    obtain ⟨hblank, hslash, hend, hequals, hname⟩ := nameCharacter_of_plain h.1
    have hstep : step table (.attributeName tag read) c =
        (.attributeName tag (read ++ [c]), []) := by
      show (if isAsciiWhitespace c then _ else _ : Step) = _
      rw [if_neg (by rw [hblank]; exact Bool.false_ne_true), if_neg hequals,
        if_neg (by simp [hslash, hend]), hname]
    have hrest := ih (read ++ [c]) h.2
    rw [List.append_assoc] at hrest
    exact run_cons table hstep hrest

/-- Inside a tag, after its name or an attribute. -/
def Inside (tag : Tag) (state : State) : Prop :=
  state = .tagName tag ∨ state = .afterAttributeValue tag

theorem Inside.step_blank (h : Inside tag state) :
    step table state (chr ' ') = (.beforeAttributeName tag, []) := by
  rcases h with rfl | rfl <;> rfl

theorem Inside.step_end (h : Inside tag state) : step table state (chr '>') = tag.emit := by
  rcases h with rfl | rfl <;> rfl

theorem takesEscaped_value : (Context.value (chr '"') tag name []).TakesEscaped := by
  refine ⟨rfl, fun c hc => .inr (.inl ?_)⟩
  by_contra hne
  exact hc (if_neg hne)

theorem takesEscaped_data : (Context.text .data).TakesEscaped := by
  refine ⟨rfl, fun c hc => .inl ?_⟩
  by_contra hne
  exact hc (if_neg hne)

theorem takesEscaped_rcdata (name : Str) : (Context.text (.raw .rcdata name)).TakesEscaped := by
  refine ⟨rfl, fun c hc => .inl ?_⟩
  by_contra hne
  exact hc (if_neg hne)

/-- **A written attribute reads back**, whatever its value holds. -/
theorem run_attributeText (h : Inside tag state) (hname : isPlainName name = true) (value : Str) :
    run table state (attributeText (name, value)) =
      (.afterAttributeValue (tag.withAttribute name (value.map replaceNul)), []) := by
  obtain ⟨hhead, hall⟩ := Bool.and_eq_true_iff.1 hname
  cases name with
  | nil => cases hhead
  | cons c rest =>
    rw [List.all_cons, Bool.and_eq_true] at hall
    obtain ⟨hblank, hslash, hend, -, hcharacter⟩ := nameCharacter_of_plain hall.1
    have hfirst : step table (.beforeAttributeName tag) c = (.attributeName tag [c], []) := by
      show stepAfterAttributeName tag c = _
      unfold stepAfterAttributeName
      rw [if_neg hslash, if_neg hend, if_neg (by rw [hblank]; exact Bool.false_ne_true), hcharacter]
    have hvalue : run table (.plain (.value (chr '"') tag (c :: rest) [])) (htmlEscape value) =
        (.plain (.value (chr '"') tag (c :: rest) (value.map replaceNul)), []) :=
      run_htmlEscape table _ takesEscaped_value value
    have hclose : run table (.plain (.value (chr '"') tag (c :: rest) (value.map replaceNul)))
        (str "\"") =
        (.afterAttributeValue (tag.withAttribute (c :: rest) (value.map replaceNul)), []) := rfl
    unfold attributeText
    simp only [List.append_assoc]
    show run table state (chr ' ' :: c :: (rest ++ (chr '=' :: chr '"' ::
      (htmlEscape value ++ str "\"")))) = _
    have hequals : step table (.attributeName tag ([c] ++ rest)) (chr '=') =
        (.beforeAttributeValue tag (c :: rest), []) := rfl
    have hquote : step table (.beforeAttributeValue tag (c :: rest)) (chr '"') =
        (.plain (.value (chr '"') tag (c :: rest) []), []) := rfl
    exact run_cons table (h.step_blank table) (run_cons table hfirst
      (run_trans table (run_attributeName table [c] hall.2) (run_cons table hequals
        (run_cons table hquote (run_trans table hvalue hclose)))))

/-- The attributes of a tag as they are read. -/
def readAttributes (attributes : List (Str × Str)) : List (Str × Str) :=
  attributes.map fun entry => (entry.1, entry.2.map replaceNul)

/-- Attributes of different names all count. -/
theorem run_attributes (tag : Tag) {attributes : List (Str × Str)} (h : Inside tag state)
    (hnames : attributes.all (fun entry => isPlainName entry.1) = true)
    (hnodup : (tag.attributes.map (·.1) ++ attributes.map (·.1)).Nodup) :
    ∃ last, run table state (attributes.flatMap attributeText) = (last, []) ∧
      Inside { tag with attributes := tag.attributes ++ readAttributes attributes } last := by
  induction attributes generalizing tag state with
  | nil =>
    refine ⟨state, rfl, ?_⟩
    show Inside { tag with attributes := tag.attributes ++ [] } state
    rw [List.append_nil]
    exact h
  | cons entry attributes ih =>
    rw [List.all_cons, Bool.and_eq_true] at hnames
    rw [List.map_cons] at hnodup
    have hfresh : tag.attributes.any (·.1 = entry.1) = false := by
      rw [List.any_eq_false]
      intro other hother
      have hne := (List.nodup_append.1 hnodup).2.2 other.1 (List.mem_map_of_mem hother) entry.1
        List.mem_cons_self
      simpa using hne
    have hadded : tag.withAttribute entry.1 (entry.2.map replaceNul) =
        { tag with attributes := tag.attributes ++ [(entry.1, entry.2.map replaceNul)] } := by
      unfold Tag.withAttribute
      rw [hfresh]
      rfl
    have hfirst := run_attributeText table h hnames.1 entry.2
    rw [hadded] at hfirst
    have hnodup' : ((tag.attributes ++ [(entry.1, entry.2.map replaceNul)]).map (·.1) ++
        attributes.map (·.1)).Nodup := by
      rw [List.map_append, List.append_assoc]
      exact hnodup
    obtain ⟨last, hrest, hinside⟩ := ih { tag with
      attributes := tag.attributes ++ [(entry.1, entry.2.map replaceNul)] } (.inr rfl)
      hnames.2 hnodup'
    refine ⟨last, run_trans table hfirst hrest, ?_⟩
    rw [List.append_assoc] at hinside
    exact hinside

/-- A written start tag reads back. -/
theorem run_start {attributes : List (Str × Str)} {mode : TextMode}
    (hplain : (Markup.start name attributes).isPlain = true) (hmode : modeAfter name = some mode) :
    run table TextMode.data.state (Markup.start name attributes).text =
      (mode.state, [(Markup.start name attributes).token]) := by
  unfold Markup.isPlain at hplain
  simp only [Bool.and_eq_true, decide_eq_true_eq] at hplain
  obtain ⟨⟨hname, hnames⟩, hnodup⟩ := hplain
  obtain ⟨hhead, hall⟩ := Bool.and_eq_true_iff.1 hname
  cases name with
  | nil => cases hhead
  | cons c rest =>
    rw [List.all_cons, Bool.and_eq_true] at hall
    obtain ⟨-, hslash, -, -, hcharacter⟩ := nameCharacter_of_plain hall.1
    have hopen : step table .tagOpen c = (.tagName ⟨false, [c], []⟩, []) := by
      have hbang : c ≠ chr '!' := by
        rintro rfl
        exact absurd hall.1 (by decide)
      show (if c = chr '!' then _ else _ : Step) = _
      rw [if_neg hbang, if_neg hslash, if_pos (isAsciiAlpha_of_head hhead), hcharacter]
    have hrest := run_tagName table ⟨false, [c], []⟩ hall.2
    obtain ⟨last, hattributes, hinside⟩ := run_attributes table ⟨false, c :: rest, []⟩ (.inl rfl) hnames (by simpa using hnodup)
    have hend : run table last (str ">") =
        (mode.state, [(Markup.start (c :: rest) attributes).token]) := by
      rw [show str ">" = [chr '>'] from rfl, run_singleton, hinside.step_end]
      unfold Tag.emit
      rw [if_neg Bool.false_ne_true, hmode]
      rfl
    unfold Markup.text
    simp only [List.append_assoc]
    show run table TextMode.data.state
      (chr '<' :: c :: (rest ++ (attributes.flatMap attributeText ++ str ">"))) = _
    exact run_cons table (step_tagOpen table) (run_cons table hopen (run_trans table hrest
      (run_trans table hattributes hend)))

/-- A written end tag reads back where text is data. -/
theorem run_close (hname : isPlainName name = true) :
    run table TextMode.data.state (Markup.close name).text =
      (TextMode.data.state, [.endTag name]) := by
  obtain ⟨hhead, hall⟩ := Bool.and_eq_true_iff.1 hname
  cases name with
  | nil => cases hhead
  | cons c rest =>
    rw [List.all_cons, Bool.and_eq_true] at hall
    obtain ⟨-, -, -, -, hcharacter⟩ := nameCharacter_of_plain hall.1
    have hopen : step table .endTagOpen c = (.tagName ⟨true, [c], []⟩, []) := by
      show (if isAsciiAlpha c then _ else _ : Step) = _
      rw [if_pos (isAsciiAlpha_of_head hhead), hcharacter]
    have hrest := run_tagName table ⟨true, [c], []⟩ hall.2
    have hslash : step table .tagOpen (chr '/') = (.endTagOpen, []) := rfl
    have hend : run table (.tagName ⟨true, c :: rest, []⟩) (str ">") =
        (TextMode.data.state, [.endTag (c :: rest)]) := rfl
    unfold Markup.text
    simp only [List.append_assoc]
    show run table TextMode.data.state (chr '<' :: chr '/' :: c :: (rest ++ str ">")) = _
    exact run_cons table (step_tagOpen table) (run_cons table hslash
      (run_cons table hopen (run_trans table hrest hend)))

theorem lowerAscii_of_lower (h : name.all (fun c => c.between 'a' 'z') = true) :
    lowerAscii name = name := by
  unfold lowerAscii
  conv_rhs => rw [← List.map_id name]
  refine List.map_congr_left fun c hc => dif_neg fun hcapital => ?_
  have hlower := List.all_eq_true.1 h c hc
  simp only [CodePoint.between, Bool.and_eq_true, decide_eq_true_eq] at hlower hcapital
  have hZ : ('Z').toNat = 90 := rfl
  have ha : ('a').toNat = 97 := rfl
  omega

/-- The letters of an end tag inside a raw text. -/
theorem run_rawEndTagName {kind : RawText} {element : Str} (read : Str)
    (h : name.all (fun c => c.between 'a' 'z') = true) :
    run table (.rawEndTagName kind element read) name =
      (.rawEndTagName kind element (read ++ name), []) := by
  induction name generalizing read with
  | nil => rw [List.append_nil]; rfl
  | cons c name ih =>
    rw [List.all_cons, Bool.and_eq_true] at h
    have hstep : step table (.rawEndTagName kind element read) c =
        (.rawEndTagName kind element (read ++ [c]), []) := if_pos (isAsciiAlpha_of_head h.1)
    have hrest := ih (read ++ [c]) h.2
    rw [List.append_assoc] at hrest
    exact run_cons table hstep hrest

/-- A written end tag ends the raw text of its element. -/
theorem run_closeRaw {kind : RawText} (hname : isPlainName name = true)
    (hletters : name.all (fun c => c.between 'a' 'z') = true) :
    run table (TextMode.raw kind name).state (Markup.close name).text =
      (TextMode.data.state, [.endTag name]) := by
  obtain ⟨hhead, -⟩ := Bool.and_eq_true_iff.1 hname
  have hlower := lowerAscii_of_lower hletters
  cases name with
  | nil => cases hhead
  | cons c rest =>
    rw [List.all_cons, Bool.and_eq_true] at hletters
    have hopen : step table (TextMode.raw kind (c :: rest)).state (chr '<') =
        (.rawLessThan kind (c :: rest), []) := by
      cases kind <;> rfl
    have hslash : step table (.rawLessThan kind (c :: rest)) (chr '/') =
        (.rawEndTagOpen kind (c :: rest), []) := rfl
    have hfirst : step table (.rawEndTagOpen kind (c :: rest)) c =
        (.rawEndTagName kind (c :: rest) [c], []) := if_pos (isAsciiAlpha_of_head hhead)
    have hend : run table (.rawEndTagName kind (c :: rest) (c :: rest)) (str ">") =
        (TextMode.data.state, [.endTag (c :: rest)]) := by
      have hends : (chr '>' = chr '>' && lowerAscii (c :: rest) = c :: rest) = true := by
        rw [hlower]
        simp
      rw [show str ">" = [chr '>'] from rfl, run_singleton]
      show stepMarkup (.rawEndTagName kind (c :: rest) (c :: rest)) (chr '>') = _
      unfold stepMarkup
      dsimp only
      rw [if_neg (by decide), if_pos hends]
      rfl
    unfold Markup.text
    simp only [List.append_assoc]
    show run table (TextMode.raw kind (c :: rest)).state
      (chr '<' :: chr '/' :: c :: (rest ++ str ">")) = _
    exact run_cons table hopen (run_cons table hslash (run_cons table hfirst
      (run_trans table (run_rawEndTagName table [c] hletters.2) hend)))

theorem run_doctype : run table TextMode.data.state Markup.doctype.text =
    (TextMode.data.state, [.doctype (str "html")]) := by
  have hopen : run table TextMode.data.state (str "<!") = (.markupDeclarationOpen [], []) := rfl
  have hdoctype : run table (.markupDeclarationOpen []) (str "doctype") = (.doctype, []) := by
    rfl
  have hname : run table .doctype (str " html>") =
      (TextMode.data.state, [.doctype (str "html")]) := by
    rfl
  have htext : Markup.doctype.text = str "<!" ++ (str "doctype" ++ str " html>") := by
    decide +kernel
  rw [htext]
  exact run_trans table hopen (run_trans table hdoctype hname)

/-- A doctype or a tag reads back where it may stand. -/
theorem run_markup {mode next : TextMode} {markup : Markup} (hplain : markup.isPlain = true)
    (hnext : markup.after mode = some next) :
    run table mode.state markup.text = (next.state, [markup.token]) := by
  cases markup with
  | doctype =>
    unfold Markup.after at hnext
    split_ifs at hnext with hmode
    obtain rfl := Option.some.inj hnext
    rw [hmode]
    exact run_doctype table
  | start name attributes =>
    unfold Markup.after at hnext
    dsimp only at hnext
    split_ifs at hnext with hmode
    rw [hmode]
    exact run_start table hplain hnext
  | close name =>
    cases mode with
    | data =>
      obtain rfl := Option.some.inj hnext
      exact run_close table hplain
    | raw kind element =>
      unfold Markup.after at hnext
      dsimp only at hnext
      split_ifs at hnext with hname
      obtain rfl := Option.some.inj hnext
      simp only [Bool.and_eq_true, decide_eq_true_eq] at hname
      obtain ⟨rfl, hletters⟩ := hname
      exact run_closeRaw table hplain hletters

/-- A script's text is read as it stands. -/
theorem run_script {element s : Str} (h : s.all isPlainText = true) :
    run table (TextMode.raw .script element).state s =
      ((TextMode.raw .script element).state, s.map fun c => .character (replaceNul c)) := by
  induction s with
  | nil => rfl
  | cons c s ih =>
    rw [List.all_cons, Bool.and_eq_true] at h
    have hopen : c ≠ chr '<' := by
      rintro rfl
      exact absurd h.1 (by decide)
    have hstep : step table (TextMode.raw .script element).state c =
        ((TextMode.raw .script element).state, [.character (replaceNul c)]) := by
      show (Context.text (.raw .script element)).step c = _
      have hclose : (Context.text (.raw .script element)).close c = none := if_neg hopen
      unfold Context.step
      rw [hclose]
      dsimp only
      rw [if_neg (by simp [Context.readsReferences])]
      rfl
    exact run_cons table hstep (ih h.2)

/-- The text after a tag reads back. -/
theorem run_text {mode : TextMode} {s : Str} {tokens : List Token}
    (h : textTokens mode s = some tokens) :
    run table mode.state (htmlEscape s) = (mode.state, tokens) := by
  cases mode with
  | data =>
    obtain rfl := Option.some.inj h
    have hreads : (Context.text .data).readsAs = id := rfl
    have hrun := run_htmlEscape table _ takesEscaped_data s
    rw [hreads, List.map_id] at hrun
    exact hrun
  | raw kind element =>
    cases kind with
    | rcdata =>
      obtain rfl := Option.some.inj h
      have hrun := run_htmlEscape table _ (takesEscaped_rcdata element) s
      have hmap : (s.map replaceNul).map Token.character =
          s.map fun c => .character (replaceNul c) := List.map_map ..
      rw [← hmap]
      exact hrun
    | script =>
      unfold textTokens at h
      dsimp only at h
      split_ifs at h with hscript
      obtain rfl := Option.some.inj h
      rw [htmlEscape_eq_self hscript]
      exact run_script table hscript

/-- The pieces of a page read back. -/
theorem run_pageSource {pieces : List Piece} {mode last : TextMode} {tokens : List Token}
    (hplain : pieces.all (·.markup.isPlain) = true)
    (h : readPieces mode pieces = some (last, tokens)) :
    run table mode.state (pageSource pieces) = (last.state, tokens) := by
  induction pieces generalizing mode tokens with
  | nil =>
    obtain ⟨rfl, rfl⟩ := Prod.mk.inj (Option.some.inj h)
    rfl
  | cons piece pieces ih =>
    rw [List.all_cons, Bool.and_eq_true] at hplain
    unfold readPieces at h
    obtain ⟨next, hnext, h⟩ := Option.bind_eq_some_iff.1 h
    obtain ⟨texts, htexts, h⟩ := Option.bind_eq_some_iff.1 h
    obtain ⟨⟨last', more⟩, hrest, h⟩ := Option.bind_eq_some_iff.1 h
    obtain ⟨rfl, rfl⟩ := Prod.mk.inj (Option.some.inj h)
    have hpiece := run_trans table (run_markup table hplain.1 hnext) (run_text table htexts)
    exact run_trans table hpiece (ih hplain.2 hrest)

end Tags

/-! ## Newlines -/

section Newlines

variable {s t : Str} {c : CodePoint}

/-- Whether a character neither is nor ends a newline. -/
def isInline (c : CodePoint) : Bool := c ≠ chr '\r' && c ≠ chr '\n'

theorem normalizeFrom_inline {afterReturn : Bool} (hc : isInline c = true) (t : Str) :
    normalizeFrom afterReturn (c :: t) = c :: normalizeFrom false t := by
  simp only [isInline, ne_eq, Bool.and_eq_true, decide_eq_true_eq] at hc
  rw [normalizeFrom, if_neg hc.1, if_neg (by simp [hc.2])]

/-- What stands before a character that belongs to no newline is read alone. -/
theorem normalizeFrom_append (hc : isInline c = true) (afterReturn : Bool) (s t : Str) :
    normalizeFrom afterReturn (s ++ c :: t) =
      normalizeFrom afterReturn s ++ c :: normalizeFrom false t := by
  induction s generalizing afterReturn with
  | nil => exact normalizeFrom_inline hc t
  | cons d s ih =>
    simp only [List.cons_append, normalizeFrom, ih]
    split_ifs <;> rfl

theorem normalizeFrom_of_inline (afterReturn : Bool) (hne : s ≠ []) (h : s.all isInline = true)
    (t : Str) : normalizeFrom afterReturn (s ++ t) = s ++ normalizeFrom false t := by
  induction s generalizing afterReturn with
  | nil => exact absurd rfl hne
  | cons c s ih =>
    rw [List.all_cons, Bool.and_eq_true] at h
    rw [List.cons_append, normalizeFrom_inline h.1]
    by_cases hnil : s = []
    · rw [hnil]
      rfl
    · rw [ih false hnil h.2]
      rfl

theorem normalizeNewlines_of_inline (h : s.all isInline = true) : normalizeNewlines s = s := by
  by_cases hnil : s = []
  · rw [hnil]
    rfl
  · have hall := normalizeFrom_of_inline false hnil h []
    rw [List.append_nil] at hall
    exact hall.trans (List.append_nil s)

/-- Escaping and normalizing change nothing of each other. -/
theorem normalizeFrom_htmlEscape (afterReturn : Bool) (s : Str) :
    normalizeFrom afterReturn (htmlEscape s) = htmlEscape (normalizeFrom afterReturn s) := by
  induction s generalizing afterReturn with
  | nil => rfl
  | cons c s ih =>
    rw [htmlEscape_cons]
    cases hplain : isPlainText c with
    | true =>
      have hnewline : escapeCharacter (chr '\n') = str "\n" := escapeCharacter_of_plain (by decide)
      rw [escapeCharacter_of_plain hplain]
      simp only [List.singleton_append, normalizeFrom, ih]
      split_ifs
      · rw [htmlEscape_cons, hnewline]
        rfl
      · rfl
      · rw [htmlEscape_cons, escapeCharacter_of_plain hplain]
        rfl
    | false =>
      have hinline : isInline c = true ∧ escapeCharacter c ≠ [] ∧
          (escapeCharacter c).all isInline = true := by
        rcases not_isPlainText hplain with rfl | rfl | rfl | rfl | rfl <;> decide
      rw [normalizeFrom_of_inline _ hinline.2.1 hinline.2.2, normalizeFrom_inline hinline.1,
        htmlEscape_cons, ih]

/-! ## Pages -/

/-- The attributes of a tag with normalized values. -/
def normalizedAttributes (attributes : List (Str × Str)) : List (Str × Str) :=
  attributes.map fun entry => (entry.1, normalizeNewlines entry.2)

/-- A doctype or a tag with normalized values. -/
def Markup.normalized : Markup → Markup
  | .start name attributes => .start name (normalizedAttributes attributes)
  | markup => markup

/-- A piece with normalized values and text. -/
def Piece.normalized (piece : Piece) : Piece :=
  ⟨piece.markup.normalized, normalizeNewlines piece.text⟩

theorem isInline_of_isNameCharacter (h : isNameCharacter c = true) : isInline c = true := by
  have hne : ∀ d : CodePoint, isNameCharacter d = false → c ≠ d := by
    rintro d hd rfl
    rw [h] at hd
    cases hd
  simp only [isInline, ne_eq, Bool.and_eq_true, decide_eq_true_eq]
  exact ⟨hne _ (by decide), hne _ (by decide)⟩

theorem inline_of_isPlainName {name : Str} (h : isPlainName name = true) :
    name.all isInline = true := by
  rw [List.all_eq_true]
  intro c hc
  exact isInline_of_isNameCharacter
    (List.all_eq_true.1 (Bool.and_eq_true_iff.1 h).2 c hc)

theorem normalizeFrom_attributeText {entry : Str × Str} (hname : isPlainName entry.1 = true)
    (t : Str) : normalizeFrom false (attributeText entry ++ t) =
      attributeText (entry.1, normalizeNewlines entry.2) ++ normalizeFrom false t := by
  have hopen : (str " " ++ entry.1 ++ str "=\"").all isInline = true := by
    rw [List.all_append, List.all_append, inline_of_isPlainName hname]
    decide
  have hshape : ∀ value, attributeText (entry.1, value) ++ t =
      (str " " ++ entry.1 ++ str "=\"") ++ (htmlEscape value ++ chr '"' :: t) := by
    intro value
    unfold attributeText
    rw [List.append_assoc _ (str "\""), List.append_assoc _ (htmlEscape value)]
    rfl
  have hvalue := normalizeFrom_append (by decide : isInline (chr '"') = true) false
    (htmlEscape entry.2) t
  rw [normalizeFrom_htmlEscape] at hvalue
  show normalizeFrom false (attributeText (entry.1, entry.2) ++ t) = _
  rw [hshape, normalizeFrom_of_inline _ (by simp [str]) hopen, hvalue]
  unfold attributeText normalizeNewlines
  simp only [List.append_assoc]
  rfl

theorem normalizeFrom_attributes {attributes : List (Str × Str)}
    (hnames : attributes.all (fun entry => isPlainName entry.1) = true) (t : Str) :
    normalizeFrom false (attributes.flatMap attributeText ++ t) =
      (normalizedAttributes attributes).flatMap attributeText ++ normalizeFrom false t := by
  induction attributes with
  | nil => rfl
  | cons entry attributes ih =>
    rw [List.all_cons, Bool.and_eq_true] at hnames
    rw [List.flatMap_cons, List.append_assoc, normalizeFrom_attributeText hnames.1, ih hnames.2]
    unfold normalizedAttributes
    rw [List.map_cons, List.flatMap_cons, List.append_assoc]

/-- A doctype or a tag ends with a character of its own, so what follows it is read alone. -/
theorem normalizeFrom_markup {markup : Markup} (hplain : markup.isPlain = true) (t : Str) :
    normalizeFrom false (markup.text ++ t) = markup.normalized.text ++ normalizeFrom false t := by
  cases markup with
  | doctype => exact normalizeFrom_of_inline _ (by decide) (by decide) t
  | close name =>
    refine normalizeFrom_of_inline _ (by simp [Markup.text, str]) ?_ t
    show (str "</" ++ name ++ str ">").all isInline = true
    rw [List.all_append, List.all_append, inline_of_isPlainName hplain]
    decide
  | start name attributes =>
    unfold Markup.isPlain at hplain
    simp only [Bool.and_eq_true] at hplain
    obtain ⟨⟨hname, hnames⟩, -⟩ := hplain
    have hopen : (str "<" ++ name).all isInline = true := by
      rw [List.all_append, inline_of_isPlainName hname]
      decide
    have hend : normalizeFrom false (str ">" ++ t) = str ">" ++ normalizeFrom false t :=
      normalizeFrom_of_inline _ (by decide) (by decide) t
    have hattributes := normalizeFrom_attributes hnames (str ">" ++ t)
    show normalizeFrom false (str "<" ++ name ++ attributes.flatMap attributeText ++ str ">" ++ t) =
      str "<" ++ name ++ (normalizedAttributes attributes).flatMap attributeText ++ str ">" ++
        normalizeFrom false t
    rw [List.append_assoc, List.append_assoc, normalizeFrom_of_inline _ (by simp [str]) hopen,
      hattributes, hend]
    simp only [List.append_assoc]

theorem head_markup (markup : Markup) (t : Str) :
    ∃ rest, markup.text ++ t = chr '<' :: rest := by
  cases markup <;> exact ⟨_, rfl⟩

/-- **A page's newlines are normalized piece by piece.** -/
theorem normalizeNewlines_pageSource {pieces : List Piece}
    (hplain : pieces.all (·.markup.isPlain) = true) :
    normalizeNewlines (pageSource pieces) = pageSource (pieces.map Piece.normalized) := by
  unfold normalizeNewlines
  induction pieces with
  | nil => rfl
  | cons piece pieces ih =>
    rw [List.all_cons, Bool.and_eq_true] at hplain
    have hrest := ih hplain.2
    have htext : normalizeFrom false (htmlEscape piece.text ++ pageSource pieces) =
        htmlEscape (normalizeNewlines piece.text) ++ normalizeFrom false (pageSource pieces) := by
      cases pieces with
      | nil =>
        show normalizeFrom false (htmlEscape piece.text ++ []) = _
        rw [List.append_nil, normalizeFrom_htmlEscape]
        exact (List.append_nil _).symm
      | cons next pieces =>
        obtain ⟨rest, hnext⟩ : ∃ rest, pageSource (next :: pieces) = chr '<' :: rest := by
          unfold pageSource Piece.source
          rw [List.flatMap_cons, List.append_assoc]
          exact head_markup _ _
        rw [hnext, normalizeFrom_append (by decide), normalizeFrom_htmlEscape,
          normalizeFrom_inline (by decide)]
        rfl
    show normalizeFrom false (piece.markup.text ++ htmlEscape piece.text ++ pageSource pieces) =
      (piece.markup.normalized.text ++ htmlEscape (normalizeNewlines piece.text)) ++
        pageSource (pieces.map Piece.normalized)
    rw [List.append_assoc, normalizeFrom_markup hplain.1, htext, hrest, List.append_assoc]

theorem isPlain_normalized {markup : Markup} (h : markup.isPlain = true) :
    markup.normalized.isPlain = true := by
  cases markup with
  | doctype => rfl
  | close name => exact h
  | start name attributes =>
    unfold Markup.isPlain at h
    show (isPlainName name &&
      (normalizedAttributes attributes).all (fun entry => isPlainName entry.1) &&
      decide ((normalizedAttributes attributes).map (·.1)).Nodup) = true
    unfold normalizedAttributes
    rw [List.all_map, List.map_map]
    exact h

/-- Whether names are plain says nothing of the values. -/
theorem isPlain_start {name : Str} {attributes : List (Str × Str)} (names : List Str)
    (hnames : attributes.map (·.1) = names)
    (h : (isPlainName name && names.all isPlainName && decide names.Nodup) = true) :
    (Markup.start name attributes).isPlain = true := by
  rw [← hnames, List.all_map] at h
  exact h

/-- The value of an attribute as it is read. -/
def readValue (s : Str) : Str := (normalizeNewlines s).map replaceNul

theorem token_normalized (name : Str) (attributes : List (Str × Str)) :
    (Markup.start name attributes).normalized.token =
      .startTag name (attributes.map fun entry => (entry.1, readValue entry.2)) := by
  show Token.startTag name ((normalizedAttributes attributes).map _) = _
  unfold normalizedAttributes
  rw [List.map_map]
  rfl

/-- The first piece of a page is read alone. -/
theorem readPieces_cons {mode next : TextMode} {markup : Markup} {text : Str}
    {texts : List Token} (hnext : markup.after mode = some next)
    (htexts : textTokens next (normalizeNewlines text) = some texts) (pieces : List Piece) :
    readPieces mode ((⟨markup, text⟩ :: pieces).map Piece.normalized) =
      (readPieces next (pieces.map Piece.normalized)).map fun rest =>
        (rest.1, markup.normalized.token :: (texts ++ rest.2)) := by
  have hafter : markup.normalized.after mode = some next := by
    rw [← hnext]
    cases markup <;> rfl
  show ((markup.normalized.after mode).bind fun next =>
    (textTokens next (normalizeNewlines text)).bind fun texts =>
      (readPieces next (pieces.map Piece.normalized)).bind fun rest =>
        some (rest.1, markup.normalized.token :: (texts ++ rest.2))) = _
  rw [hafter, Option.bind_some, htexts, Option.bind_some, Option.map_eq_bind]
  rfl

/-- A start tag where text is data, with its text. -/
theorem readPieces_start {name : Str} (hmode : modeAfter name = some .data)
    (attributes : List (Str × Str)) (text : Str) (pieces : List Piece) :
    readPieces .data ((⟨.start name attributes, text⟩ :: pieces).map Piece.normalized) =
      (readPieces .data (pieces.map Piece.normalized)).map fun rest =>
        (rest.1, .startTag name (attributes.map fun entry => (entry.1, readValue entry.2)) ::
          ((normalizeNewlines text).map .character ++ rest.2)) := by
  have hnext : (Markup.start name attributes).after .data = some .data := hmode
  rw [← token_normalized]
  exact readPieces_cons hnext rfl pieces

/-- An end tag where text is data. -/
theorem readPieces_close (name : Str) (pieces : List Piece) :
    readPieces .data ((⟨.close name, []⟩ :: pieces).map Piece.normalized) =
      (readPieces .data (pieces.map Piece.normalized)).map fun rest =>
        (rest.1, .endTag name :: rest.2) := by
  have hnext : (Markup.close name).after .data = some .data := rfl
  have htexts : textTokens .data (normalizeNewlines []) = some [] := rfl
  exact readPieces_cons hnext htexts pieces

/-- Start tags where text is data, one for each entry of a list. -/
theorem readPieces_starts {α : Type} {name : Str} (hmode : modeAfter name = some .data)
    (attributes : α → List (Str × Str)) (entries : List α) (pieces : List Piece) :
    readPieces .data ((entries.map (fun entry => (⟨.start name (attributes entry), []⟩ : Piece)) ++
        pieces).map Piece.normalized) =
      (readPieces .data (pieces.map Piece.normalized)).map fun rest =>
        (rest.1, entries.map (fun entry =>
          .startTag name ((attributes entry).map fun e => (e.1, readValue e.2))) ++ rest.2) := by
  induction entries with
  | nil =>
    show readPieces .data (pieces.map Piece.normalized) = Option.map id _
    rw [Option.map_id]
    rfl
  | cons entry entries ih =>
    rw [List.map_cons, List.cons_append, readPieces_start hmode, ih, Option.map_map]
    rfl

/-- **A written page reads back**: its doctype, tags and texts, with newlines normalized and NULs
replaced. -/
theorem tokensOf_pageSource (table : ReferenceTable) {pieces : List Piece} {tokens : List Token}
    (hplain : pieces.all (·.markup.isPlain) = true)
    (h : readPieces .data (pieces.map Piece.normalized) = some (.data, tokens)) :
    tokensOf table (pageSource pieces) = some tokens := by
  have hnormalized : (pieces.map Piece.normalized).all (·.markup.isPlain) = true := by
    rw [List.all_map, List.all_eq_true]
    exact fun piece hpiece => isPlain_normalized (List.all_eq_true.1 hplain piece hpiece)
  unfold tokensOf
  rw [normalizeNewlines_pageSource hplain, run_pageSource table hnormalized h]
  exact if_pos rfl

end Newlines

end Browser
