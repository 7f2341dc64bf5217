import WebAuth.GateDecision

/-!
# The grammar of the `Authorization` header

Which requests carry a bearer credential, which carry none and which are malformed, over whatever
lines and query they come with; and how two or more credentials are read on lines of their own and
joined on one.
-/

namespace WebAuth

open Python Effects Program

/-! ## A trimmed line -/

/-- A space or a tab. -/
def isBlank (c : CodePoint) : Bool := isOneOf " \t" c

/-- A line is a value between blanks, and the value neither begins nor ends with one. -/
structure Trimmed (line value : Str) : Prop where
  split : ∃ lead trail, line = lead ++ value ++ trail ∧ (∀ c ∈ lead, isBlank c = true) ∧
    ∀ c ∈ trail, isBlank c = true
  head : ∀ c, value.head? = some c → isBlank c = false
  last : ∀ c, value.getLast? = some c → isBlank c = false

theorem stripBlanks_of_trimmed {line value : Str} (h : Trimmed line value) :
    stripBlanks line = value := by
  obtain ⟨lead, trail, rfl, hlead, htrail⟩ := h.split
  show ((lead ++ value ++ trail).dropWhile isBlank).rdropWhile isBlank = value
  rw [List.append_assoc, List.dropWhile_append_of_pos hlead]
  cases value with
  | nil =>
    rw [List.nil_append, ← List.append_nil trail, List.dropWhile_append_of_pos htrail]
    rfl
  | cons c value =>
    rw [dropWhile_of_head (s := c :: value ++ trail) fun d hd => h.head d hd,
      rdropWhile_append_all htrail, rdropWhile_of_last h.last]

theorem trimmed_stripBlanks (line : Str) : Trimmed line (stripBlanks line) where
  split := by
    refine ⟨line.takeWhile isBlank, (line.dropWhile isBlank).rtakeWhile isBlank, ?_,
      fun c hc => List.mem_takeWhile_imp hc, fun c hc => List.mem_rtakeWhile_imp hc⟩
    have hright : stripBlanks line ++ (line.dropWhile isBlank).rtakeWhile isBlank =
        line.dropWhile isBlank := List.rdropWhile_append_rtakeWhile
    rw [List.append_assoc, hright, List.takeWhile_append_dropWhile]
  head := by
    intro c hc
    have hprefix : stripBlanks line <+: line.dropWhile isBlank := List.rdropWhile_prefix isBlank _
    obtain ⟨rest, hrest⟩ := hprefix
    have hhead : (line.dropWhile isBlank).head? = some c := by
      rw [← hrest, List.head?_append, hc]
      rfl
    have hnot := List.head?_dropWhile_not isBlank line
    rw [hhead] at hnot
    simpa using hnot
  last := by
    intro c hc
    have hne : stripBlanks line ≠ [] := by
      intro hnil
      rw [hnil] at hc
      cases hc
    have hnot := List.rdropWhile_last_not isBlank (line.dropWhile isBlank) hne
    have hlast : (stripBlanks line).getLast hne = c := by
      rw [List.getLast?_eq_some_getLast hne] at hc
      exact Option.some.inj hc
    rw [← hlast]
    exact Bool.eq_false_iff.2 hnot

theorem trimmed_iff {line value : Str} : Trimmed line value ↔ stripBlanks line = value := by
  constructor
  · exact stripBlanks_of_trimmed
  · rintro rfl
    exact trimmed_stripBlanks line

/-! ## The grammar -/

/-- The one `Authorization` line, trimmed. -/
def TheLine (scope : Scope) (value : Str) : Prop :=
  ∃ line, scope.getlist (str "authorization") = [line] ∧ Trimmed line value

/-- A b64token. -/
def B64Token (value : Str) : Prop :=
  ∃ body n, value = body ++ List.replicate n (chr '=') ∧ body ≠ [] ∧
    ∀ c ∈ body, (isAlphaNum c || isOneOf "-._~+/" c) = true

/-- The word `bearer` in any ASCII case, one or more spaces, and a credential. -/
def BearerText (value credential : Str) : Prop :=
  ∃ word n, lowerAscii word = str "bearer" ∧
    value = word ++ List.replicate (n + 1) (chr ' ') ++ credential

/-- The longest leading run of auth-scheme characters. -/
structure LeadingScheme (value scheme : Str) : Prop where
  split : ∃ rest, value = scheme ++ rest ∧ ∀ c, rest.head? = some c → isAuthSchemeChar c = false
  nonempty : scheme ≠ []
  chars : ∀ c ∈ scheme, isAuthSchemeChar c = true

/-- The one line is a bearer credential that a header can carry. -/
def Bears (scope : Scope) (credential : Str) : Prop :=
  (∃ value, TheLine scope value ∧ BearerText value credential) ∧ credential ≠ [] ∧
    ∀ c ∈ credential, isOneOf " \t," c = false

section Grammar

variable {scope : Scope} {credential : Str}

theorem theLine_iff {value : Str} : TheLine scope value ↔ OneLine scope value := by
  unfold TheLine OneLine
  simp only [trimmed_iff]

theorem b64Token_iff {value : Str} : B64Token value ↔ isB64Token value = true := by
  unfold isB64Token
  simp only [Bool.and_eq_true, decide_eq_true_eq, List.all_eq_true]
  constructor
  · rintro ⟨body, n, rfl, hne, hbody⟩
    have hlast : ∀ c, body.getLast? = some c → decide (c = chr '=') = false := by
      intro c hc
      have hchar := hbody c (List.mem_of_getLast? hc)
      rw [decide_eq_false_iff_not]
      rintro rfl
      revert hchar
      decide
    have hdrop : (body ++ List.replicate n (chr '=')).rdropWhile (fun c => decide (c = chr '=')) =
        body := by
      rw [rdropWhile_append_all fun c hc => by simp [List.eq_of_mem_replicate hc],
        rdropWhile_of_last hlast]
    rw [hdrop]
    exact ⟨hne, hbody⟩
  · rintro ⟨hne, hbody⟩
    refine ⟨_, (value.rtakeWhile fun c => decide (c = chr '=')).length, ?_, hne, hbody⟩
    have htail : value.rtakeWhile (fun c => decide (c = chr '=')) =
        List.replicate (value.rtakeWhile fun c => decide (c = chr '=')).length (chr '=') := by
      refine List.eq_replicate_iff.2 ⟨rfl, fun c hc => ?_⟩
      have hc := List.mem_rtakeWhile_imp hc
      simpa using hc
    rw [← htail, List.rdropWhile_append_rtakeWhile]

/-- Each character of a token is one of its alphabet. -/
theorem B64Token.chars {value : Str} (h : B64Token value) :
    ∀ c ∈ value, (isAlphaNum c || isOneOf "-._~+/=" c) = true := by
  obtain ⟨body, n, rfl, -, hbody⟩ := h
  intro c hc
  rcases List.mem_append.1 hc with hc | hc
  · have hchar := hbody c hc
    rw [Bool.or_eq_true] at hchar ⊢
    refine hchar.imp id fun hother => ?_
    unfold isOneOf at hother ⊢
    rw [List.contains_iff_mem] at hother ⊢
    exact List.mem_append_left (str "=") hother
  · rw [List.eq_of_mem_replicate hc]
    decide

/-- A token can stand in a header: no line break, blank or comma is in it. -/
theorem B64Token.not_separator {value : Str} (h : B64Token value) :
    ∀ c ∈ value, isOneOf "\r\n \t," c = false := by
  intro c hc
  have hchar := h.chars c hc
  rw [Bool.eq_false_iff]
  intro hother
  unfold isOneOf at hother
  rw [List.contains_iff_mem] at hother
  have hall : (str "\r\n \t,").all (fun d => !(isAlphaNum d || isOneOf "-._~+/=" d)) = true := by
    decide +kernel
  have hnot := List.all_eq_true.1 hall c hother
  rw [hchar] at hnot
  cases hnot

theorem B64Token.ne_nil {value : Str} (h : B64Token value) : value ≠ [] := by
  obtain ⟨body, n, rfl, hne, -⟩ := h
  simp [hne]

/-- A bearer line with one credential, told by its text. -/
theorem bears_iff : Bears scope credential ↔
    ∃ rest, BearerLine scope rest ∧ OneCredential rest credential := by
  constructor
  · rintro ⟨⟨value, hline, word, n, hword, rfl⟩, hne, hchars⟩
    have hsix : word.length = 6 := by
      have hlength := congrArg List.length hword
      simpa [lowerAscii, str] using hlength
    have hscheme : ∀ c ∈ word, isAuthSchemeChar c = true := by
      intro c hc
      by_cases hupper : c.between 'A' 'Z' = true
      · simp [isAuthSchemeChar, isAlphaNum, hupper]
      · have hmem : c ∈ lowerAscii word := List.mem_map.2 ⟨c, hc, by rw [dif_neg hupper]⟩
        rw [hword] at hmem
        have hall : (str "bearer").all isAuthSchemeChar = true := by decide +kernel
        exact List.all_eq_true.1 hall c hmem
    refine ⟨List.replicate (n + 1) (chr ' ') ++ credential, ⟨word, ?_, hword⟩,
      ⟨⟨n, rfl⟩, hne, hchars⟩⟩
    constructor
    case line =>
      rw [← List.append_assoc]
      exact theLine_iff.1 hline
    case nonempty =>
      rintro rfl
      cases hsix
    case chars => exact hscheme
    case ends =>
      intro c hc
      rw [List.replicate_succ] at hc
      obtain rfl := Option.some.inj hc
      decide
  · rintro ⟨rest, ⟨word, hscheme, hword⟩, ⟨⟨n, rfl⟩, hne, hchars⟩⟩
    refine ⟨⟨_, theLine_iff.2 hscheme.line, word, n, hword, ?_⟩, hne, hchars⟩
    rw [List.append_assoc]

theorem hasScheme_iff {scheme : Str} :
    (∃ rest, HasScheme scope scheme rest) ↔
      ∃ value, TheLine scope value ∧ LeadingScheme value scheme := by
  constructor
  · rintro ⟨rest, h⟩
    exact ⟨_, theLine_iff.2 h.line, ⟨rest, rfl, h.ends⟩, h.nonempty, h.chars⟩
  · rintro ⟨value, hline, ⟨rest, rfl, hends⟩, hne, hchars⟩
    exact ⟨rest, theLine_iff.1 hline, hne, hchars, hends⟩

/-! ## The outcomes -/

theorem credentialOf_ok : credentialOf scope = .ok credential ↔
    (∃ value, TheLine scope value ∧ BearerText value credential) ∧ B64Token credential ∧
      ¬TokenInQuery scope := by
  rw [← sent_iff]
  constructor
  · intro h
    cases h with
    | token h one query token =>
      exact ⟨(bears_iff.2 ⟨_, h, one⟩).1, b64Token_iff.2 token, query⟩
  · rintro ⟨hvalue, htoken, hquery⟩
    have hblank : ∀ c ∈ credential, isOneOf " \t," c = false := by
      intro c hc
      have hnot := htoken.not_separator c hc
      rw [Bool.eq_false_iff] at hnot ⊢
      intro hone
      refine hnot ?_
      unfold isOneOf at hone ⊢
      rw [List.contains_iff_mem] at hone ⊢
      exact List.mem_append_right (str "\r\n") hone
    obtain ⟨rest, hline, hone⟩ := bears_iff.1 ⟨hvalue, htoken.ne_nil, hblank⟩
    exact .token hline hone hquery (b64Token_iff.1 htoken)

theorem credentialOf_noCredentials : credentialOf scope = .error .noCredentials ↔
    scope.getlist (str "authorization") = [] ∨ TheLine scope [] ∨
      ∃ value scheme, TheLine scope value ∧ LeadingScheme value scheme ∧
        lowerAscii scheme ≠ str "bearer" := by
  rw [← sent_iff]
  constructor
  · intro h
    cases h with
    | nothing h =>
      obtain hnone | hblank := h
      · exact .inl hnone
      · exact .inr (.inl (theLine_iff.2 hblank))
    | otherScheme h other =>
      obtain ⟨value, hline, hscheme⟩ := hasScheme_iff.1 ⟨_, h⟩
      exact .inr (.inr ⟨value, _, hline, hscheme, other⟩)
  · rintro (hnone | hblank | ⟨value, scheme, hline, hscheme, hother⟩)
    · exact .nothing (.inl hnone)
    · exact .nothing (.inr (theLine_iff.1 hblank))
    · obtain ⟨rest, h⟩ := hasScheme_iff.2 ⟨value, hline, hscheme⟩
      exact .otherScheme h hother

theorem credentialOf_invalidToken : credentialOf scope = .error .invalidToken ↔
    ∃ credential, Bears scope credential ∧ ¬B64Token credential ∧ ¬TokenInQuery scope := by
  rw [← sent_iff]
  constructor
  · intro h
    cases h with
    | noToken h one query other =>
      refine ⟨_, bears_iff.2 ⟨_, h, one⟩, ?_, query⟩
      rw [b64Token_iff, other]
      decide
  · rintro ⟨credential, hbears, hother, hquery⟩
    obtain ⟨rest, hline, hone⟩ := bears_iff.1 hbears
    rw [b64Token_iff, Bool.not_eq_true] at hother
    exact .noToken hline hone hquery hother

theorem credentialOf_outcomes (scope : Scope) :
    (∃ credential, credentialOf scope = .ok credential) ∨
      credentialOf scope = .error .noCredentials ∨ credentialOf scope = .error .invalidToken ∨
      credentialOf scope = .error .invalidRequest := by
  have hsent : Sent scope (credentialOf scope) := sent_iff.2 rfl
  generalize credentialOf scope = r at hsent
  cases hsent with
  | nothing h => exact .inr (.inl rfl)
  | otherScheme h other => exact .inr (.inl rfl)
  | repeated h => exact .inr (.inr (.inr rfl))
  | noScheme h other => exact .inr (.inr (.inr rfl))
  | notOne h none => exact .inr (.inr (.inr rfl))
  | twice h one query => exact .inr (.inr (.inr rfl))
  | noToken h one query other => exact .inr (.inr (.inl rfl))
  | token h one query token => exact .inl ⟨_, rfl⟩

end Grammar

/-- **What a request's `Authorization` lines and query come to**: a credential that can stand in a
header, no credential, a credential that is no token, or a malformed request. -/
theorem authorization_header_grammar (scope : Scope) :
    (∀ credential, credentialOf scope = .ok credential ↔
      (∃ value, TheLine scope value ∧ BearerText value credential) ∧ B64Token credential ∧
        ¬TokenInQuery scope) ∧
    (credentialOf scope = .error .noCredentials ↔
      scope.getlist (str "authorization") = [] ∨ TheLine scope [] ∨
        ∃ value scheme, TheLine scope value ∧ LeadingScheme value scheme ∧
          lowerAscii scheme ≠ str "bearer") ∧
    (credentialOf scope = .error .invalidToken ↔
      ∃ credential, Bears scope credential ∧ ¬B64Token credential ∧ ¬TokenInQuery scope) ∧
    (credentialOf scope = .error .invalidRequest ↔
      (∀ credential, credentialOf scope ≠ .ok credential) ∧
        credentialOf scope ≠ .error .noCredentials ∧ credentialOf scope ≠ .error .invalidToken) ∧
    ∀ credential, credentialOf scope = .ok credential →
      ∀ c ∈ credential, isOneOf "\r\n \t," c = false := by
  refine ⟨fun _ => credentialOf_ok, credentialOf_noCredentials, credentialOf_invalidToken,
    ⟨fun h => ?_, ?_⟩, fun credential h => (credentialOf_ok.1 h).2.1.not_separator⟩
  · rw [h]
    exact ⟨nofun, nofun, nofun⟩
  · rintro ⟨hok, hnone, htoken⟩
    obtain ⟨credential, h⟩ | h | h | h := credentialOf_outcomes scope
    · exact absurd h (hok credential)
    · exact absurd h hnone
    · exact absurd h htoken
    · exact h

/-! ## Several credentials -/

/-- A credential: its auth-scheme and its token68 value. -/
structure SchemeCredential where
  scheme : Str
  token : Str
  scheme_nonempty : scheme ≠ []
  scheme_chars : ∀ c ∈ scheme, isAuthSchemeChar c = true
  token_isToken : B64Token token

namespace SchemeCredential

/-- A credential as it is sent. -/
def text (sent : SchemeCredential) : Str := sent.scheme ++ chr ' ' :: sent.token

/-- A Bearer credential. -/
def IsBearer (sent : SchemeCredential) : Prop := lowerAscii sent.scheme = str "bearer"

end SchemeCredential

/-- Credentials on one line, joined by commas and optional blanks. -/
inductive Combined : List SchemeCredential → Str → Prop
  | one (sent : SchemeCredential) : Combined [sent] sent.text
  | comma {sent : SchemeCredential} {rest : List SchemeCredential} {before behind line : Str}
      (before_blank : ∀ c ∈ before, isBlank c = true)
      (behind_blank : ∀ c ∈ behind, isBlank c = true) (tail : Combined rest line) :
      Combined (sent :: rest) (sent.text ++ before ++ chr ',' :: behind ++ line)

section Combined

variable {credentials : List SchemeCredential} {line : Str}

theorem isBlank_of_isAuthSchemeChar {c : CodePoint} (h : isAuthSchemeChar c = true) :
    isBlank c = false := by
  rw [Bool.eq_false_iff]
  intro hblank
  unfold isBlank isOneOf at hblank
  rw [List.contains_iff_mem] at hblank
  have hall : (str " \t").all (fun d => !isAuthSchemeChar d) = true := by decide +kernel
  have hnot := List.all_eq_true.1 hall c hblank
  rw [h] at hnot
  cases hnot

theorem B64Token.not_blank {value : Str} (h : B64Token value) : ∀ c ∈ value, isBlank c = false := by
  intro c hc
  have hnot := h.not_separator c hc
  rw [Bool.eq_false_iff] at hnot ⊢
  intro hblank
  refine hnot ?_
  unfold isBlank isOneOf at hblank
  unfold isOneOf
  rw [List.contains_iff_mem] at hblank ⊢
  rcases List.mem_cons.1 hblank with rfl | hblank
  · decide
  · obtain rfl := List.mem_singleton.1 hblank
    decide

theorem Combined.head (h : Combined credentials line) :
    ∃ c, line.head? = some c ∧ isAuthSchemeChar c = true := by
  have htext (sent : SchemeCredential) (rest : Str) :
      ∃ c, (sent.text ++ rest).head? = some c ∧ isAuthSchemeChar c = true := by
    unfold SchemeCredential.text
    cases hscheme : sent.scheme with
    | nil => exact absurd hscheme sent.scheme_nonempty
    | cons c scheme =>
      exact ⟨c, rfl, sent.scheme_chars c (by rw [hscheme]; exact List.mem_cons_self)⟩
  cases h with
  | one sent =>
    have h := htext sent []
    rwa [List.append_nil] at h
  | comma before_blank behind_blank tail =>
    rw [List.append_assoc, List.append_assoc]
    exact htext _ _

theorem Combined.last (h : Combined credentials line) :
    ∃ c, line.getLast? = some c ∧ isBlank c = false := by
  induction h with
  | one sent =>
    have hne := sent.token_isToken.ne_nil
    unfold SchemeCredential.text
    refine ⟨sent.token.getLast hne, ?_,
      sent.token_isToken.not_blank _ (List.getLast_mem hne)⟩
    rw [List.getLast?_append, List.getLast?_cons, List.getLast?_eq_some_getLast hne]
    rfl
  | comma before_blank behind_blank tail ih =>
    obtain ⟨c, hlast, hc⟩ := ih
    refine ⟨c, ?_, hc⟩
    rw [List.getLast?_append, hlast]
    rfl

theorem Combined.trimmed (h : Combined credentials line) : Trimmed line line where
  split := ⟨[], [], by simp, nofun, nofun⟩
  head := by
    intro c hc
    obtain ⟨d, hd, hscheme⟩ := h.head
    obtain rfl : d = c := Option.some.inj (hd.symm.trans hc)
    exact isBlank_of_isAuthSchemeChar hscheme
  last := by
    intro c hc
    obtain ⟨d, hd, hblank⟩ := h.last
    obtain rfl : d = c := Option.some.inj (hd.symm.trans hc)
    exact hblank

/-- The scheme that decides a combined line is its first credential's. -/
theorem Combined.first {first second : SchemeCredential} {rest : List SchemeCredential}
    (h : Combined (first :: second :: rest) line) :
    ∃ tail, line = first.scheme ++ chr ' ' :: tail ∧ chr ',' ∈ tail := by
  cases h with
  | @comma _ _ before behind line _ _ _ =>
    refine ⟨first.token ++ before ++ chr ',' :: behind ++ line, ?_, by simp⟩
    unfold SchemeCredential.text
    simp only [List.append_assoc, List.cons_append]

/-- A combined line is malformed if its first credential is a Bearer one, else none at all. -/
theorem credentialOf_combined {scope : Scope} {first second : SchemeCredential}
    {rest : List SchemeCredential} (h : Combined (first :: second :: rest) line)
    (hline : scope.getlist (str "authorization") = [line]) :
    credentialOf scope =
      if lowerAscii first.scheme = str "bearer" then .error .invalidRequest
      else .error .noCredentials := by
  obtain ⟨tail, htail, hcomma⟩ := h.first
  have hscheme : HasScheme scope first.scheme (chr ' ' :: tail) := by
    constructor
    case line =>
      rw [← htail]
      exact theLine_iff.1 ⟨line, hline, h.trimmed⟩
    case nonempty => exact first.scheme_nonempty
    case chars => exact first.scheme_chars
    case ends =>
      intro c hc
      obtain rfl := Option.some.inj hc
      decide
  have hnone : oneCredential (chr ' ' :: tail) = none := by
    rw [Option.eq_none_iff_forall_not_mem]
    intro credential hone
    obtain ⟨⟨n, hsplit⟩, -, hchars⟩ := oneCredential_eq_some.1 hone
    have hmem : chr ',' ∈ List.replicate (n + 1) (chr ' ') ++ credential := by
      rw [← hsplit]
      exact List.mem_cons_of_mem _ hcomma
    rcases List.mem_append.1 hmem with hspace | hcredential
    · have heq := List.eq_of_mem_replicate hspace
      revert heq
      decide
    · have hnot := hchars _ hcredential
      revert hnot
      decide
  rw [credentialOf_scheme hscheme, hnone]
  by_cases hbearer : lowerAscii first.scheme = str "bearer"
  · rw [if_neg (not_not.2 hbearer), if_pos hbearer]
  · rw [if_pos hbearer, if_neg hbearer]

end Combined

/-- On a person path the request goes on to its session cookie. -/
def FallsBack (py : Platform) (gate : BearerGateMiddleware) (personPaths : PersonPaths)
    (scope : Scope) : Prop :=
  gate.personRefusal py scope personPaths = ret ⟨none, scope⟩

/-- A request is refused as malformed, on a person path too. -/
def RefusedAsMalformed (py : Platform) (gate : BearerGateMiddleware) (personPaths : PersonPaths)
    (scope : Scope) : Prop :=
  credentialOf scope = .error .invalidRequest ∧ ¬FallsBack py gate personPaths scope

section Malformed

variable {py : Platform} {gate : BearerGateMiddleware} {personPaths : PersonPaths} {scope : Scope}

theorem refusedAsMalformed_iff : RefusedAsMalformed py gate personPaths scope ↔
    credentialOf scope = .error .invalidRequest := by
  refine ⟨fun h => h.1, fun h => ⟨h, fun hback => ?_⟩⟩
  unfold FallsBack BearerGateMiddleware.personRefusal at hback
  rw [h] at hback
  cases hback

theorem fallsBack_of_noCredentials (h : credentialOf scope = .error .noCredentials) :
    FallsBack py gate personPaths scope := by
  unfold FallsBack BearerGateMiddleware.personRefusal
  rw [h]
  rfl

end Malformed

/-- **Two or more credentials are refused as malformed both on lines of their own and joined on one
exactly when the first of them is a Bearer credential.** -/
theorem combined_authorization (py : Platform) (gate : BearerGateMiddleware)
    (personPaths : PersonPaths) (credentials : List SchemeCredential) (line : Str)
    (separate combined : Scope) (hmany : 2 ≤ credentials.length)
    (hseparate : separate.getlist (str "authorization") = credentials.map SchemeCredential.text)
    (hcombined : combined.getlist (str "authorization") = [line])
    (hline : Combined credentials line) :
    (RefusedAsMalformed py gate personPaths separate ∧
      RefusedAsMalformed py gate personPaths combined) ↔
    ∃ first, credentials.head? = some first ∧ first.IsBearer := by
  rw [refusedAsMalformed_iff, refusedAsMalformed_iff]
  have hrepeated : credentialOf separate = .error .invalidRequest := by
    rw [← sent_iff]
    refine .repeated ?_
    rw [hseparate, List.length_map]
    exact hmany
  match credentials, hmany with
  | first :: second :: rest, _ =>
    rw [credentialOf_combined hline hcombined]
    constructor
    · rintro ⟨-, hrefused⟩
      refine ⟨first, rfl, ?_⟩
      by_contra hother
      unfold SchemeCredential.IsBearer at hother
      rw [if_neg hother] at hrefused
      cases hrefused
    · rintro ⟨first', hfirst, hbearer⟩
      obtain rfl := Option.some.inj hfirst
      exact ⟨hrepeated, if_pos hbearer⟩

/-- A person path's request with these `Authorization` lines. -/
def requestWith (lines : List Str) : Scope where
  type := str "http"
  app := some ⟨0, none⟩
  method := some (str "GET")
  path := str "/person"
  rawPath := none
  rootPath := []
  queryString := []
  urlQuery := none
  queryParams := []
  headers := lines.map fun line => (encodeLatin1 (str "authorization"), encodeLatin1 line)

/-- A credential with a token of one character. -/
def shortCredential (scheme : Str) (hne : scheme ≠ []) (hchars : scheme.all isAuthSchemeChar = true) :
    SchemeCredential where
  scheme := scheme
  token := str "a"
  scheme_nonempty := hne
  scheme_chars := List.all_eq_true.1 hchars
  token_isToken := b64Token_iff.2 (by decide)

def basicCredential : SchemeCredential := shortCredential (str "Basic") (by decide) (by decide)

def bearerCredential : SchemeCredential := shortCredential (str "Bearer") (by decide) (by decide)

/-- Two credentials on one line, apart by a comma and a space. -/
theorem combined_two (first second : SchemeCredential) :
    Combined [first, second] (first.text ++ chr ',' :: chr ' ' :: second.text) := by
  have hblank : ∀ c ∈ str " ", isBlank c = true := by
    intro c hc
    obtain rfl := List.mem_singleton.1 hc
    decide
  have h := @Combined.comma first [second] [] (str " ") second.text nofun hblank (.one second)
  rw [List.append_nil, List.append_assoc] at h
  exact h

/-- The person paths of an app. -/
def demoPersonPaths : PersonPaths where
  paths := { exact := [str "/person"] }
  authorizedParties := machineParties
  paths_nameSome := .inl (by simp)

theorem combined_authorization_of_bearer_first :
    RefusedAsMalformed demoPlatform machineGate demoPersonPaths
        (requestWith [str "Bearer a", str "Basic a"]) ∧
      RefusedAsMalformed demoPlatform machineGate demoPersonPaths
        (requestWith [str "Bearer a, Basic a"]) :=
  (combined_authorization demoPlatform machineGate demoPersonPaths
    [bearerCredential, basicCredential] (str "Bearer a, Basic a")
    (requestWith [str "Bearer a", str "Basic a"]) (requestWith [str "Bearer a, Basic a"])
    (by decide) (by decide +kernel) (by decide +kernel)
    (combined_two bearerCredential basicCredential)).2 ⟨bearerCredential, rfl, by
      unfold SchemeCredential.IsBearer
      decide⟩

/-- Two credentials of which the second is a Bearer one: apart they are malformed, joined they fall
back to the cookie. -/
theorem combined_authorization_of_basic_first :
    Combined [basicCredential, bearerCredential] (str "Basic a, Bearer a") ∧
      bearerCredential.IsBearer ∧
      credentialOf (requestWith ([basicCredential, bearerCredential].map SchemeCredential.text)) =
        .error .invalidRequest ∧
      credentialOf (requestWith [str "Basic a, Bearer a"]) = .error .noCredentials ∧
      FallsBack demoPlatform machineGate demoPersonPaths
        (requestWith [str "Basic a, Bearer a"]) := by
  have hjoined : credentialOf (requestWith [str "Basic a, Bearer a"]) = .error .noCredentials := by
    decide +kernel
  refine ⟨combined_two basicCredential bearerCredential, ?_, by decide +kernel, hjoined,
    fallsBack_of_noCredentials hjoined⟩
  unfold SchemeCredential.IsBearer
  decide

end WebAuth
