import WebAuth.Browser.PolicyGrammar

/-!
# The tokens of an HTML page

The HTML standard's tokenizer on the states that plain markup reaches: doctypes, tags with quoted
attributes, text, titles and scripts, with their character references. Any other state is `lost`,
and a reading that ends there says nothing. The names of character references are a table.
-/

namespace Browser

open Python

/-! ## Tokens -/

/-- A token. -/
inductive Token where
  | doctype (name : Str)
  | startTag (name : Str) (attributes : List (Str × Str))
  | endTag (name : Str)
  | character (c : CodePoint)
  deriving DecidableEq

/-- U+FFFD. -/
def replacement : CodePoint := Fin.ofNat 0x110000 0xfffd

/-- A NUL is read as U+FFFD where text is no plain data. -/
def replaceNul (c : CodePoint) : CodePoint := if c = 0 then replacement else c

/-- `[A-Za-z]`. -/
def isAsciiAlpha (c : CodePoint) : Bool := c.between 'A' 'Z' || c.between 'a' 'z'

/-! ## The input stream -/

/-- A CR, and the LF after it, become one LF. -/
def normalizeFrom : Bool → Str → Str
  | _, [] => []
  | afterReturn, c :: s =>
    if c = chr '\r' then chr '\n' :: normalizeFrom true s
    else if c = chr '\n' && afterReturn then normalizeFrom false s
    else c :: normalizeFrom false s

/-- The input stream of a text. -/
def normalizeNewlines (s : Str) : Str := normalizeFrom false s

/-! ## States -/

/-- A tag that is being read. -/
structure Tag where
  isEnd : Bool
  name : Str
  attributes : List (Str × Str) := []
  deriving DecidableEq

/-- The elements whose text holds no tags. -/
inductive RawText where
  | rcdata
  | script
  deriving DecidableEq

/-- How text is read: as data, or up to the end tag of an element. -/
inductive TextMode where
  | data
  | raw (kind : RawText) (element : Str)
  deriving DecidableEq

/-- Where a character reference stands. -/
inductive Context where
  | text (mode : TextMode)
  | value (quote : CodePoint) (tag : Tag) (name read : Str)
  deriving DecidableEq

/-- What was read of a character reference. -/
inductive Reference where
  | start
  | named (read : Str) (longest : Option (Str × Str))
  | numeric
  | hexStart (x : CodePoint)
  | decimal (n : ℕ)
  | hexadecimal (n : ℕ)
  deriving DecidableEq

/-- The tokenizer's states. -/
inductive State where
  | plain (context : Context)
  | reference (context : Context) (reference : Reference)
  | tagOpen
  | endTagOpen
  | tagName (tag : Tag)
  | beforeAttributeName (tag : Tag)
  | attributeName (tag : Tag) (name : Str)
  | afterAttributeName (tag : Tag) (name : Str)
  | beforeAttributeValue (tag : Tag) (name : Str)
  | afterAttributeValue (tag : Tag)
  | markupDeclarationOpen (read : Str)
  | doctype
  | beforeDoctypeName
  | doctypeName (name : Str)
  | rawLessThan (kind : RawText) (element : Str)
  | rawEndTagOpen (kind : RawText) (element : Str)
  | rawEndTagName (kind : RawText) (element read : Str)
  | lost
  deriving DecidableEq

/-- Where a step leads, and what it emits. -/
abbrev Step := State × List Token

/-! ## Tags -/

/-- The state of a text. -/
def TextMode.state (mode : TextMode) : State := .plain (.text mode)

/-- The first attribute of a name counts. -/
def Tag.withAttribute (tag : Tag) (name value : Str) : Tag :=
  if tag.attributes.any (·.1 = name) then tag
  else { tag with attributes := tag.attributes ++ [(name, value)] }

/-- How the text after a start tag is read, where that is described. -/
def modeAfter (name : Str) : Option TextMode :=
  if [str "title", str "textarea"].contains name then some (.raw .rcdata name)
  else if name = str "script" then some (.raw .script name)
  else if [str "style", str "xmp", str "iframe", str "noembed", str "noframes", str "noscript",
    str "plaintext"].contains name then none
  else some .data

/-- A tag at its end. -/
def Tag.emit (tag : Tag) : Step :=
  if tag.isEnd then (TextMode.data.state, [.endTag tag.name])
  else ((modeAfter tag.name).elim .lost TextMode.state, [.startTag tag.name tag.attributes])

/-! ## Steps outside references -/

/-- Text put where it stands. -/
def Context.put (context : Context) (s : Str) : Context × List Token :=
  match context with
  | .text mode => (.text mode, s.map .character)
  | .value quote tag name read => (.value quote tag name (read ++ s), [])

/-- Whether a NUL is replaced. -/
def Context.replacesNul : Context → Bool
  | .text .data => false
  | _ => true

/-- Whether character references are read. -/
def Context.readsReferences : Context → Bool
  | .text (.raw .script _) => false
  | _ => true

/-- The end of a text or an attribute value, if a character is it. -/
def Context.close (context : Context) (c : CodePoint) : Option State :=
  match context with
  | .text .data => if c = chr '<' then some .tagOpen else none
  | .text (.raw kind element) => if c = chr '<' then some (.rawLessThan kind element) else none
  | .value quote tag name read =>
    if c = quote then some (.afterAttributeValue (tag.withAttribute name read)) else none

/-- A character of a text or an attribute value. -/
def Context.step (context : Context) (c : CodePoint) : Step :=
  match context.close c with
  | some state => (state, [])
  | none =>
    if c = chr '&' && context.readsReferences then (.reference context .start, [])
    else
      let (context, tokens) := context.put [if context.replacesNul then replaceNul c else c]
      (.plain context, tokens)

/-- Text put where it stands, and the next character after it. -/
def Context.putThen (context : Context) (s : Str) (c : CodePoint) : Step :=
  let (context, tokens) := context.put s
  let (state, more) := context.step c
  (state, tokens ++ more)

/-- A character of a name, in lower case. -/
def nameCharacter (c : CodePoint) : Str := (lowerAscii [c]).map replaceNul

/-- After an attribute's name, or before one when there is none. -/
def stepAfterAttributeName (tag : Tag) (c : CodePoint) : Step :=
  if c = chr '/' then (.lost, [])
  else if c = chr '>' then tag.emit
  else if isAsciiWhitespace c then (.beforeAttributeName tag, [])
  else (.attributeName tag (nameCharacter c), [])

/-- A step outside texts, attribute values and references. -/
def stepMarkup : State → CodePoint → Step
  | .tagOpen, c =>
    if c = chr '!' then (.markupDeclarationOpen [], [])
    else if c = chr '/' then (.endTagOpen, [])
    else if isAsciiAlpha c then (.tagName ⟨false, nameCharacter c, []⟩, [])
    else if c = chr '?' then (.lost, [])
    else (Context.text .data).putThen (str "<") c
  | .endTagOpen, c =>
    if isAsciiAlpha c then (.tagName ⟨true, nameCharacter c, []⟩, []) else (.lost, [])
  | .tagName tag, c =>
    if isAsciiWhitespace c then (.beforeAttributeName tag, [])
    else if c = chr '/' then (.lost, [])
    else if c = chr '>' then tag.emit
    else (.tagName { tag with name := tag.name ++ nameCharacter c }, [])
  | .beforeAttributeName tag, c => stepAfterAttributeName tag c
  | .attributeName tag name, c =>
    if isAsciiWhitespace c then (.afterAttributeName tag name, [])
    else if c = chr '=' then (.beforeAttributeValue tag name, [])
    else if c = chr '/' || c = chr '>' then stepAfterAttributeName (tag.withAttribute name []) c
    else (.attributeName tag (name ++ nameCharacter c), [])
  | .afterAttributeName tag name, c =>
    if isAsciiWhitespace c then (.afterAttributeName tag name, [])
    else if c = chr '=' then (.beforeAttributeValue tag name, [])
    else stepAfterAttributeName (tag.withAttribute name []) c
  | .beforeAttributeValue tag name, c =>
    if isAsciiWhitespace c then (.beforeAttributeValue tag name, [])
    else if c = chr '"' || c = chr '\'' then (.plain (.value c tag name []), [])
    else if c = chr '>' then (tag.withAttribute name []).emit
    else (.lost, [])
  | .afterAttributeValue tag, c => stepAfterAttributeName tag c
  | .markupDeclarationOpen read, c =>
    let read := read ++ lowerAscii [c]
    if read = str "doctype" then (.doctype, [])
    else if startsWith (str "doctype") read then (.markupDeclarationOpen read, [])
    else (.lost, [])
  | .doctype, c => if isAsciiWhitespace c then (.beforeDoctypeName, []) else (.lost, [])
  | .beforeDoctypeName, c =>
    if isAsciiWhitespace c then (.beforeDoctypeName, [])
    else if c = chr '>' then (.lost, [])
    else (.doctypeName (nameCharacter c), [])
  | .doctypeName name, c =>
    if isAsciiWhitespace c then (.lost, [])
    else if c = chr '>' then (TextMode.data.state, [.doctype name])
    else (.doctypeName (name ++ nameCharacter c), [])
  | .rawLessThan kind element, c =>
    if c = chr '/' then (.rawEndTagOpen kind element, [])
    else if c = chr '!' && kind = .script then (.lost, [])
    else (Context.text (.raw kind element)).putThen (str "<") c
  | .rawEndTagOpen kind element, c =>
    if isAsciiAlpha c then (.rawEndTagName kind element [c], [])
    else (Context.text (.raw kind element)).putThen (str "</") c
  | .rawEndTagName kind element read, c =>
    let ends := lowerAscii read = element
    if isAsciiAlpha c then (.rawEndTagName kind element (read ++ [c]), [])
    else if c = chr '>' && ends then Tag.emit ⟨true, element, []⟩
    else if c = chr '/' && ends then (.lost, [])
    else if isAsciiWhitespace c && ends then (.beforeAttributeName ⟨true, element, []⟩, [])
    else (Context.text (.raw kind element)).putThen (str "</" ++ read) c
  | state, _ => (state, [])

/-! ## Character references -/

/-- The names of character references with what they stand for. A name is of letters and digits,
with or without a semicolon at its end. -/
structure ReferenceTable where
  entries : List (Str × Str)
  names : ∀ entry ∈ entries, ∃ letters : Str, letters ≠ [] ∧ letters.all isAlphaNum = true ∧
    (entry.1 = letters ∨ entry.1 = letters ++ str ";")
  amp : entries.lookup (str "amp;") = some (str "&")
  lt : entries.lookup (str "lt;") = some (str "<")
  gt : entries.lookup (str "gt;") = some (str ">")
  quot : entries.lookup (str "quot;") = some (str "\"")

/-- The digit of a numeral. -/
def digitValue (c : CodePoint) : ℕ :=
  if isDigit c then c.val - 48 else if c.between 'a' 'f' then c.val - 87 else c.val - 55

/-- What the codes from 0x80 on stand for, unless they stand for themselves. -/
def windowsCodes : List (ℕ × ℕ) :=
  [(0x80, 0x20ac), (0x82, 0x201a), (0x83, 0x0192), (0x84, 0x201e), (0x85, 0x2026), (0x86, 0x2020),
    (0x87, 0x2021), (0x88, 0x02c6), (0x89, 0x2030), (0x8a, 0x0160), (0x8b, 0x2039), (0x8c, 0x0152),
    (0x8e, 0x017d), (0x91, 0x2018), (0x92, 0x2019), (0x93, 0x201c), (0x94, 0x201d), (0x95, 0x2022),
    (0x96, 0x2013), (0x97, 0x2014), (0x98, 0x02dc), (0x99, 0x2122), (0x9a, 0x0161), (0x9b, 0x203a),
    (0x9c, 0x0153), (0x9e, 0x017e), (0x9f, 0x0178)]

/-- What a numeric reference stands for. -/
def numericCharacter (n : ℕ) : CodePoint :=
  if n = 0 || 0x10ffff < n || (0xd800 ≤ n && n ≤ 0xdfff) then replacement
  else Fin.ofNat 0x110000 ((windowsCodes.lookup n).getD n)

/-- What stands for a reference by name once no longer name begins so: the longest name and what was
read after it, or all that was read. In an attribute a name without a semicolon does not count
before a letter, a digit or an equals sign. -/
def namedText (context : Context) (read : Str) (longest : Option (Str × Str)) (c : CodePoint) :
    Str :=
  match longest with
  | none => str "&" ++ read
  | some (name, text) =>
    let rest := read.drop name.length
    let goesOn := ((rest ++ [c]).head?.any fun next => isAlphaNum next || next = chr '=') &&
      name.getLast? ≠ some (chr ';')
    match context with
    | .value .. => if goesOn then str "&" ++ read else text ++ rest
    | .text _ => text ++ rest

/-- A numeral at its end. -/
def endNumeral (context : Context) (n : ℕ) (c : CodePoint) : Step :=
  if c = chr ';' then
    let (context, tokens) := context.put [numericCharacter n]
    (.plain context, tokens)
  else context.putThen [numericCharacter n] c

section Table

variable (table : ReferenceTable)

/-- A character of a reference by name. -/
def stepNamed (context : Context) (read : Str) (longest : Option (Str × Str)) (c : CodePoint) :
    Step :=
  let next := read ++ [c]
  if table.entries.any fun entry => startsWith entry.1 next then
    match table.entries.lookup next with
    | none => (.reference context (.named next longest), [])
    | some text =>
      if c = chr ';' then
        let (context, tokens) := context.put text
        (.plain context, tokens)
      else (.reference context (.named next (some (next, text))), [])
  else context.putThen (namedText context read longest c) c

/-- A step inside a reference. -/
def stepReference (context : Context) : Reference → CodePoint → Step
  | .start, c =>
    if isAlphaNum c then stepNamed table context [] none c
    else if c = chr '#' then (.reference context .numeric, [])
    else context.putThen (str "&") c
  | .named read longest, c => stepNamed table context read longest c
  | .numeric, c =>
    if isDigit c then (.reference context (.decimal (digitValue c)), [])
    else if c = chr 'x' || c = chr 'X' then (.reference context (.hexStart c), [])
    else context.putThen (str "&#") c
  | .hexStart x, c =>
    if isDigit c || c.between 'a' 'f' || c.between 'A' 'F' then
      (.reference context (.hexadecimal (digitValue c)), [])
    else context.putThen (str "&#" ++ [x]) c
  | .decimal n, c =>
    if isDigit c then (.reference context (.decimal (10 * n + digitValue c)), [])
    else endNumeral context n c
  | .hexadecimal n, c =>
    if isDigit c || c.between 'a' 'f' || c.between 'A' 'F' then
      (.reference context (.hexadecimal (16 * n + digitValue c)), [])
    else endNumeral context n c

/-! ## Runs -/

/-- A step. -/
def step : State → CodePoint → Step
  | .plain context, c => context.step c
  | .reference context reference, c => stepReference table context reference c
  | .lost, _ => (.lost, [])
  | state, c => stepMarkup state c

/-- The steps of a text. -/
def run : State → Str → Step
  | state, [] => (state, [])
  | state, c :: s =>
    let (next, tokens) := step table state c
    let (last, more) := run next s
    (last, tokens ++ more)

/-- The tokens of a page that ends outside any tag, reference, title and script. -/
def tokensOf (page : Str) : Option (List Token) :=
  let (state, tokens) := run table TextMode.data.state (normalizeNewlines page)
  if state = TextMode.data.state then some tokens else none

end Table

end Browser
