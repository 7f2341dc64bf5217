import WebAuth.EndSessionPage
import WebAuth.KeySetCache
import WebAuth.Python.UrlParts

/-!
# The policy of the page that ends the issuer's session

Its form may lead to the origins of the two URLs the constructor checked, each of them written at
the start of its URL, and nothing in a URL adds a source or a directive.
-/

namespace WebAuth

open Python Browser Effects

/-! ## What the constructor checked -/

section Checked

variable {config : OidcClientConfig}

theorem requireUrl_eq_ok {accepts : Str → Bool} {message : String → String}
    {field : String × Str} :
    requireUrl accepts message field = .ok () ↔ accepts field.2 = true := by
  unfold requireUrl
  cases accepts field.2 with
  | false => exact ⟨nofun, nofun⟩
  | true => exact ⟨fun _ => rfl, fun _ => rfl⟩

theorem forM_requireUrl {accepts : Str → Bool} {message : String → String}
    {fields : List (String × Str)} : fields.forM (requireUrl accepts message) = .ok () ↔
      ∀ field ∈ fields, accepts field.2 = true := by
  rw [forM_eq_ok]
  exact forall₂_congr fun field _ => requireUrl_eq_ok

/-- An accepted configuration has the URLs the constructor asks for. -/
theorem checkUrls_eq_ok (h : config.checkUrls = .ok ()) :
    (∀ field ∈ config.endpointUrlFields, isEndpointUrl field.2 = true) ∧
      (∀ field ∈ config.appUrlFields, isAppUrl field.2 = true) ∧
      ∀ field ∈ config.formTargetFields, isPlainAuthority (urlsplit field.2).netloc = true := by
  unfold OidcClientConfig.checkUrls at h
  obtain ⟨⟨⟩, hendpoints, h⟩ := bind_eq_ok.1 h
  obtain ⟨⟨⟩, happs, htargets⟩ := bind_eq_ok.1 h
  exact ⟨forM_requireUrl.1 hendpoints, forM_requireUrl.1 happs, forM_requireUrl.1 htargets⟩

end Checked

/-! ## Characters -/

section Characters

variable {s : Str} {c : CodePoint}

theorem lowerAscii_singleton (c : CodePoint) :
    lowerAscii [c] = [c] ∨ c.between 'A' 'Z' = true := by
  by_cases hcapital : c.between 'A' 'Z' = true
  · exact .inr hcapital
  · left
    unfold lowerAscii
    rw [List.map_singleton, dif_neg hcapital]

/-- What lowers to a scheme is one. -/
theorem isScheme_of_lowerAscii (h : isScheme (lowerAscii s) = true) : isScheme s = true := by
  obtain ⟨hhead, hall⟩ := Bool.and_eq_true_iff.1 h
  refine Bool.and_eq_true_iff.2 ⟨?_, List.all_eq_true.2 fun c hc => ?_⟩
  · cases s with
    | nil => exact hhead
    | cons c s =>
      rcases lowerAscii_singleton c with hc | hc
      · have hlower : (lowerAscii (c :: s)).head? = (lowerAscii [c]).head? := rfl
        rw [hlower, hc] at hhead
        exact hhead
      · show (c.between 'A' 'Z' || c.between 'a' 'z') = true
        rw [hc]
        rfl
  · rcases lowerAscii_singleton c with hsame | hcapital
    · have hmem : c ∈ lowerAscii s := by
        have hlower : c ∈ lowerAscii [c] := by
          rw [hsame]
          exact List.mem_singleton_self c
        obtain ⟨d, hd, heq⟩ := List.mem_map.1 hlower
        obtain rfl := List.mem_singleton.1 hd
        exact List.mem_map.2 ⟨d, hc, heq⟩
      exact List.all_eq_true.1 hall c hmem
    · unfold isSchemeCharacter isAlphaNum
      rw [hcapital]
      rfl

theorem source_of_isDigit (h : isDigit c = true) :
    (0x21 ≤ c.val ∧ c.val ≤ 0x7e) ∧ c ≠ chr ';' ∧ c ≠ chr ',' := by
  refine source_of_isAlphaNum ?_
  unfold isAlphaNum
  rw [h, Bool.or_true]

theorem source_of_hex (h : c.between 'A' 'F' = true ∨ c.between 'a' 'f' = true) :
    (0x21 ≤ c.val ∧ c.val ≤ 0x7e) ∧ c ≠ chr ';' ∧ c ≠ chr ',' := by
  refine source_of_isAlphaNum ?_
  simp only [isAlphaNum, CodePoint.between, Bool.or_eq_true, Bool.and_eq_true,
    decide_eq_true_eq] at h ⊢
  have hF : ('F').toNat = 70 := rfl
  have hZ : ('Z').toNat = 90 := rfl
  have hf : ('f').toNat = 102 := rfl
  have hz : ('z').toNat = 122 := rfl
  rcases h with h | h
  · exact .inl (.inl ⟨h.1, by omega⟩)
  · exact .inl (.inr ⟨h.1, by omega⟩)

theorem source_of_mem {listed : Str} (h : isSourceToken listed = true) (hc : c ∈ listed) :
    (0x21 ≤ c.val ∧ c.val ≤ 0x7e) ∧ c ≠ chr ';' ∧ c ≠ chr ',' := (isSourceToken_iff.1 h).2 c hc

theorem source_of_isPortSuffix {port : Str} (h : isPortSuffix (some port) = true) (hc : c ∈ port) :
    (0x21 ≤ c.val ∧ c.val ≤ 0x7e) ∧ c ≠ chr ';' ∧ c ≠ chr ',' :=
  source_of_isDigit (List.all_eq_true.1 (Bool.and_eq_true_iff.1 h).2 c hc)

/-- A plain authority holds letters, digits, and a few marks. -/
theorem IsSource.of_isPlainAuthority (h : isPlainAuthority s = true) : IsSource s := by
  unfold isPlainAuthority at h
  cases s with
  | nil => cases h
  | cons first rest =>
    refine ⟨List.cons_ne_nil _ _, fun c hc => ?_⟩
    dsimp only at h
    split_ifs at h with hbracket
    · cases hcut : partition (chr ']') rest with
      | mk host tail =>
        rw [hcut] at h
        simp only [Bool.and_eq_true] at h
        obtain ⟨⟨-, hhost⟩, htail⟩ := h
        have hliteral : ∀ d ∈ host, (0x21 ≤ d.val ∧ d.val ≤ 0x7e) ∧ d ≠ chr ';' ∧ d ≠ chr ',' := by
          intro d hd
          have hcharacter := List.all_eq_true.1 hhost d hd
          simp only [Bool.or_eq_true] at hcharacter
          rcases hcharacter with ((hd | hd) | hd) | hd
          · exact source_of_isDigit hd
          · exact source_of_hex (.inl hd)
          · exact source_of_hex (.inr hd)
          · exact source_of_mem (by decide) (List.contains_iff_mem.1 hd)
        cases tail with
        | none => cases htail
        | some tail =>
          rw [(partition_eq_some hcut).1, hbracket] at hc
          rcases List.mem_cons.1 hc with rfl | hc
          · decide
          · rcases List.mem_append.1 hc with hc | hc
            · exact hliteral c hc
            · rcases List.mem_cons.1 hc with rfl | hc
              · decide
              · have htail : (tail = [] || (tail.head? = some (chr ':') &&
                    isPortSuffix (some tail.tail))) = true := htail
                cases tail with
                | nil => cases hc
                | cons mark port =>
                  obtain ⟨hmark, hport⟩ := Bool.and_eq_true_iff.1
                    ((Bool.or_eq_true_iff.1 htail).resolve_left (by simp))
                  obtain rfl := Option.some.inj (of_decide_eq_true hmark)
                  rcases List.mem_cons.1 hc with rfl | hc
                  · decide
                  · exact source_of_isPortSuffix hport hc
    · cases hcut : partition (chr ':') (first :: rest) with
      | mk host port =>
        rw [hcut] at h
        simp only [Bool.and_eq_true] at h
        obtain ⟨⟨-, hhost⟩, hport⟩ := h
        have hname : ∀ d ∈ host, (0x21 ≤ d.val ∧ d.val ≤ 0x7e) ∧ d ≠ chr ';' ∧ d ≠ chr ',' := by
          intro d hd
          rcases Bool.or_eq_true_iff.1 (List.all_eq_true.1 hhost d hd) with hd | hd
          · exact source_of_isAlphaNum hd
          · exact source_of_mem (by decide) (List.contains_iff_mem.1 hd)
        cases port with
        | none =>
          rw [partition_eq_none hcut] at hc
          exact hname c hc
        | some port =>
          rw [(partition_eq_some hcut).1] at hc
          rcases List.mem_append.1 hc with hc | hc
          · exact hname c hc
          · rcases List.mem_cons.1 hc with rfl | hc
            · decide
            · exact source_of_isPortSuffix hport hc

theorem mem_urlsafeB64encode {b : Bytes} (h : c ∈ urlsafeB64encode b) :
    c = chr '=' ∨ ∃ n < 64, c = base64Char n := by
  have hchar : ∀ n < 64, c = base64Char n → c = chr '=' ∨ ∃ n < 64, c = base64Char n :=
    fun n hn heq => .inr ⟨n, hn, heq⟩
  induction b using urlsafeB64encode.induct with
  | case1 => cases h
  | case2 x =>
    have hx := x.toNat_lt
    simp only [urlsafeB64encode, List.mem_cons, List.not_mem_nil, or_false] at h
    rcases h with h | h | h | h
    · exact hchar _ (by omega) h
    · exact hchar _ (by omega) h
    all_goals exact .inl h
  | case3 x y =>
    have hx := x.toNat_lt
    have hy := y.toNat_lt
    simp only [urlsafeB64encode, List.mem_cons, List.not_mem_nil, or_false] at h
    rcases h with h | h | h | h
    · exact hchar _ (by omega) h
    · exact hchar _ (by omega) h
    · exact hchar _ (by omega) h
    · exact .inl h
  | case4 x y z rest ih =>
    have hx := x.toNat_lt
    have hy := y.toNat_lt
    have hz := z.toNat_lt
    simp only [urlsafeB64encode, List.mem_cons] at h
    rcases h with h | h | h | h | h
    · exact hchar _ (by omega) h
    · exact hchar _ (by omega) h
    · exact hchar _ (by omega) h
    · exact hchar _ (by omega) h
    · exact ih h

/-- What `b64encode` writes holds letters, digits and three marks. -/
theorem source_of_mem_b64encode {b : Bytes} (h : c ∈ b64encode b) :
    (0x21 ≤ c.val ∧ c.val ≤ 0x7e) ∧ c ≠ chr ';' ∧ c ≠ chr ',' := by
  obtain ⟨d, hd, rfl⟩ := List.mem_map.1 h
  split_ifs with hdash hunderscore
  · decide
  · decide
  · rcases mem_urlsafeB64encode hd with rfl | ⟨n, hn, rfl⟩
    · decide
    · have hbase := isBase64Url_base64Char hn
      simp only [isBase64Url, Bool.or_eq_true, decide_eq_true_eq] at hbase
      rcases hbase with (hbase | hbase) | hbase
      · exact source_of_isAlphaNum hbase
      · exact absurd hbase hdash
      · exact absurd hbase hunderscore

end Characters

/-! ## Origins -/

section Origins

variable {url : Str}

/-- What stands at the start of a URL as its origin: a scheme of the web, in lower case, and a plain
authority, up to the path. -/
def StandsAtStart (origin url : Str) : Prop :=
  ∃ scheme authority path, url = scheme ++ str "://" ++ authority ++ path ∧
    origin = lowerAscii scheme ++ str "://" ++ authority ∧
    (lowerAscii scheme = str "https" ∨ lowerAscii scheme = str "http") ∧
    isPlainAuthority authority = true ∧ ∀ c, path.head? = some c → c = chr '/'

/-- What the checks of an endpoint URL say. -/
theorem of_isEndpointUrl (h : isEndpointUrl url = true) :
    (∀ c ∈ url, 0x20 < c.val) ∧ (urlsplit url).scheme = str "https" ∧ chr '?' ∉ url ∧
      chr '#' ∉ url := by
  unfold isEndpointUrl isHttpsUrl at h
  simp only [Bool.and_eq_true, decide_eq_true_eq, Bool.not_eq_true', List.all_eq_true] at h
  obtain ⟨⟨⟨⟨⟨⟨hvisible, -⟩, hscheme⟩, -⟩, -⟩, hquery⟩, hfragment⟩ := h
  refine ⟨fun c hc => (hvisible c hc).1, hscheme, ?_, ?_⟩
  · simpa using hquery
  · simpa using hfragment

/-- A URL of the application begins with a scheme of the web and holds no blank, query or
fragment. -/
theorem of_isAppUrl (h : isAppUrl url = true) :
    (∀ c ∈ url, 0x20 < c.val) ∧
      ((urlsplit url).scheme = str "https" ∨ (urlsplit url).scheme = str "http") ∧
      chr '?' ∉ url ∧ chr '#' ∉ url := by
  unfold isAppUrl at h
  split_ifs at h with hendpoint hhttp
  · obtain ⟨hvisible, hscheme, hquery, hfragment⟩ := of_isEndpointUrl hendpoint
    exact ⟨hvisible, .inl hscheme, hquery, hfragment⟩
  · obtain ⟨hvisible, -, hquery, hfragment⟩ := of_isEndpointUrl (Bool.and_eq_true_iff.1 h).2
    have hlower : lowerAscii (url.take 5) = str "http" ++ str ":" := not_not.1 hhttp
    obtain ⟨head, last, htake, hhead, hlast⟩ := List.map_eq_append_iff.1 hlower
    have hcolon : last = str ":" := by
      obtain ⟨c, rfl, hc⟩ := List.map_eq_singleton_iff.1 hlast
      split_ifs at hc with hcapital
      · -- No capital lowers to a colon.
        have hvalue : c.val + 32 = 58 := congrArg Fin.val hc
        simp only [CodePoint.between, Bool.and_eq_true, decide_eq_true_eq] at hcapital
        have hA : ('A').toNat = 65 := rfl
        omega
      · rw [hc]
        rfl
    have hurl : url = head ++ chr ':' :: url.drop 5 := by
      conv_lhs => rw [← List.take_append_drop 5 url, htake, hcolon, List.append_assoc]
      rfl
    have hscheme : isScheme head = true := isScheme_of_lowerAscii (by
      unfold lowerAscii
      rw [hhead]
      decide)
    have hsplit : splitScheme url = (str "http", url.drop 5) := by
      conv_lhs => rw [hurl, splitScheme_append hscheme]
      unfold lowerAscii
      rw [hhead]
    have hmem : ∀ c ∈ url, (isSchemeCharacter c || c = chr ':') = true ∨
        c ∈ str "https:" ++ url.drop 5 := by
      intro c hc
      rw [hurl] at hc
      rcases List.mem_append.1 hc with hc | hc
      · rw [List.all_eq_true.1 (Bool.and_eq_true_iff.1 hscheme).2 c hc]
        exact .inl rfl
      · rcases List.mem_cons.1 hc with rfl | hc
        · exact .inl (by decide)
        · exact .inr (List.mem_append_right _ hc)
    refine ⟨fun c hc => ?_, .inr (urlsplit_of_splitScheme hsplit).1, fun hc => ?_, fun hc => ?_⟩
    · rcases hmem c hc with hscheme | hc
      · simp only [isSchemeCharacter, Bool.or_eq_true, decide_eq_true_eq] at hscheme
        rcases hscheme with (hc | hc) | rfl
        · have hsource := source_of_isAlphaNum hc
          omega
        · have hmarks : isSourceToken (str "+-.") = true := by decide
          have hsource := source_of_mem hmarks (List.contains_iff_mem.1 hc)
          omega
        · decide
      · exact hvisible c hc
    · rcases hmem _ hc with hscheme | hc
      · revert hscheme
        decide
      · exact hquery hc
    · rcases hmem _ hc with hscheme | hc
      · revert hscheme
        decide
      · exact hfragment hc

/-- The origin of a URL with a plain authority stands at its start. -/
theorem standsAtStart_origin
    (hscheme : (urlsplit url).scheme = str "https" ∨ (urlsplit url).scheme = str "http")
    (hauthority : isPlainAuthority (urlsplit url).netloc = true) (hquery : chr '?' ∉ url)
    (hfragment : chr '#' ∉ url) : StandsAtStart (origin url) url := by
  have hparsed : (urlsplit url).scheme ≠ [] := by
    rcases hscheme with h | h
    all_goals
      rw [h]
      decide
  have hlocated : (urlsplit url).netloc ≠ [] := (IsSource.of_isPlainAuthority hauthority).1
  obtain ⟨head, tail, hurl, hlower, -, hend⟩ := urlsplit_text hparsed hlocated
  refine ⟨head, (urlsplit url).netloc, tail, hurl, ?_, by rwa [← hlower], hauthority,
    fun c hc => ?_⟩
  · show (urlsplit url).scheme ++ str "://" ++ (urlsplit url).netloc = _
    rw [hlower]
  · have hmem : c ∈ url := by
      rw [hurl]
      exact List.mem_append_right _ (List.mem_of_mem_head? hc)
    have hmarks : c ∈ str "/?#" := List.contains_iff_mem.1 (hend c hc)
    have hlist : str "/?#" = [chr '/', chr '?', chr '#'] := by decide
    rw [hlist] at hmarks
    simp only [List.mem_cons, List.not_mem_nil, or_false] at hmarks
    rcases hmarks with rfl | rfl | rfl
    · rfl
    · exact absurd hmem hquery
    · exact absurd hmem hfragment

/-- An origin of the web is one token. -/
theorem StandsAtStart.isSource {origin : Str} (h : StandsAtStart origin url) : IsSource origin := by
  obtain ⟨scheme, authority, path, -, rfl, hscheme, hauthority, -⟩ := h
  have hsource : IsSource (lowerAscii scheme ++ str "://") := by
    rw [← isSourceToken_iff]
    rcases hscheme with h | h
    all_goals
      rw [h]
      decide
  exact hsource.append (IsSource.of_isPlainAuthority hauthority)

end Origins

/-! ## The policy -/

/-- The places the form may lead: the origins of its two URLs, once when they agree. -/
def formTargets (form : EndSessionForm) : List Str :=
  if origin form.postLogoutRedirectUri = origin form.endSessionEndpoint then
    [origin form.endSessionEndpoint]
  else [origin form.endSessionEndpoint, origin form.postLogoutRedirectUri]

/-- The directives of the page's policy. -/
def formDirectives (py : Platform) (form : EndSessionForm) : List Directive :=
  [⟨str "default-src", [str "'none'"]⟩,
    ⟨str "script-src", [str "'sha256-" ++ scriptHash py ++ str "'"]⟩,
    ⟨str "form-action", formTargets form⟩,
    ⟨str "base-uri", [str "'none'"]⟩,
    ⟨str "frame-ancestors", [str "'none'"]⟩]

section Policy

variable {py : Platform} {form : EndSessionForm}

theorem eraseDups_origins :
    ([form.endSessionEndpoint, form.postLogoutRedirectUri].map origin).eraseDups =
      formTargets form := by
  unfold formTargets
  rw [List.map_cons, List.map_singleton, List.eraseDups_cons]
  split_ifs with hsame
  · rw [hsame, List.filter_cons_of_neg (by simp)]
    rfl
  · rw [List.filter_cons_of_pos (by simpa using hsame)]
    rfl

theorem formPolicy_eq : formPolicy py form = policyText (formDirectives py form) := by
  unfold formPolicy
  rw [eraseDups_origins]
  simp only [policyText, formDirectives, List.map_cons, List.map_nil, Directive.text,
    join, List.intercalate_singleton, List.append_assoc, str_append, str_append_append,
    String.reduceAppend]

theorem isSource_scriptSource : IsSource (str "'sha256-" ++ scriptHash py ++ str "'") := by
  have hopen : IsSource (str "'sha256-") := isSourceToken_iff.1 (by decide)
  have hclose : IsSource (str "'") := isSourceToken_iff.1 (by decide)
  refine ⟨by simp [str], fun c hc => ?_⟩
  rcases List.mem_append.1 hc with hc | hc
  · rcases List.mem_append.1 hc with hc | hc
    · exact hopen.2 c hc
    · exact source_of_mem_b64encode hc
  · exact hclose.2 c hc

theorem ofSources_form
    (h : ∀ url ∈ [form.endSessionEndpoint, form.postLogoutRedirectUri], IsSource (origin url)) :
    ∀ directive ∈ formDirectives py form, OfSources directive := by
  have hnone : IsSource (str "'none'") := isSourceToken_iff.1 (by decide)
  have htargets : OfSources ⟨str "form-action", formTargets form⟩ := by
    have hname : isSourceToken (str "form-action") = true := by decide
    have hlower : lowerAscii (str "form-action") = str "form-action" := by decide
    refine ⟨isSourceToken_iff.1 hname, hlower, ?_, fun source hsource => ?_⟩
    · exact List.ne_nil_of_mem (eraseDups_origins ▸ List.mem_eraseDups.2 List.mem_cons_self)
    · rw [← eraseDups_origins] at hsource
      obtain ⟨url, hurl, rfl⟩ := List.mem_map.1 (List.mem_eraseDups.1 hsource)
      exact h url hurl
  intro directive hmem
  simp only [formDirectives, List.mem_cons, List.not_mem_nil, or_false] at hmem
  rcases hmem with rfl | rfl | rfl | rfl | rfl
  · exact .single (by decide) (by decide) hnone
  · exact .single (by decide) (by decide) isSource_scriptSource
  · exact htargets
  · exact .single (by decide) (by decide) hnone
  · exact .single (by decide) (by decide) hnone

/-- The policy reads as its directives when the form's URLs have origins that are tokens. -/
theorem parsePolicies_formPolicy
    (h : ∀ url ∈ [form.endSessionEndpoint, form.postLogoutRedirectUri], IsSource (origin url)) :
    parsePolicies (formPolicy py form) = [formDirectives py form] := by
  have hnames : ((formDirectives py form).map (·.name)).Nodup := by
    show [str "default-src", str "script-src", str "form-action", str "base-uri",
      str "frame-ancestors"].Nodup
    decide +kernel
  rw [formPolicy_eq]
  exact parsePolicies_policyText (List.cons_ne_nil _ _)
    (fun directive hdirective => (ofSources_form h directive hdirective).isPlain) hnames

end Policy

/-! ## The page -/

/-- What a token adds to the structure of a page: a tag with the names of its attributes. -/
def Token.structural : Token → Option Token
  | .startTag name entries => some (.startTag name (entries.map fun entry => (entry.1, [])))
  | .character _ => none
  | token => some token

/-- The structure of the page with a number of hidden inputs. -/
def pageStructure (inputs : ℕ) : List Token :=
  .doctype (str "html") ::
    .startTag (str "html") [(str "lang", [])] ::
    .startTag (str "head") [] ::
    .startTag (str "meta") [(str "charset", [])] ::
    .startTag (str "meta") [(str "name", []), (str "content", [])] ::
    .startTag (str "title") [] ::
    .endTag (str "title") ::
    .endTag (str "head") ::
    .startTag (str "body") [] ::
    .startTag (str "form") [(str "method", []), (str "action", [])] ::
    (List.replicate inputs
        (.startTag (str "input") [(str "type", []), (str "name", []), (str "value", [])]) ++
      [.startTag (str "button") [(str "type", [])],
        .endTag (str "button"),
        .endTag (str "form"),
        .startTag (str "script") [],
        .endTag (str "script"),
        .endTag (str "body"),
        .endTag (str "html")])

section Structure

variable (form : EndSessionForm) (language buttonLabel : Str)

theorem structural_characters (s : Str) : (characters s).filterMap Token.structural = [] := by
  unfold characters
  rw [List.filterMap_map]
  exact List.filterMap_eq_nil_iff.2 fun c _ => rfl

theorem structural_inputs (fields : List (Str × Str)) :
    (fields.map inputToken).filterMap Token.structural = List.replicate fields.length
      (.startTag (str "input") [(str "type", []), (str "name", []), (str "value", [])]) := by
  induction fields with
  | nil => rfl
  | cons field fields ih =>
    have hfield : Token.structural (inputToken field) = some (.startTag (str "input")
      [(str "type", []), (str "name", []), (str "value", [])]) := rfl
    rw [List.map_cons, List.filterMap_cons_some hfield, ih]
    rfl

/-- Nothing but the number of hidden inputs changes the structure of the page. -/
theorem structural_pageTokens :
    (pageTokens form language buttonLabel).filterMap Token.structural =
      pageStructure form.hiddenFields.length := by
  simp only [pageTokens, headTokens, formTokens, List.cons_append, List.append_assoc,
    List.nil_append, List.filterMap_cons, List.filterMap_append, List.filterMap_nil,
    structural_characters, structural_inputs, Token.structural, List.map_cons, List.map_nil]
  rfl

end Structure

section Values

variable {s : Str}

/-- What holds no blank and no control character is read as it is. -/
theorem readValue_of_visible (h : ∀ c ∈ s, 0x20 < c.val) : readValue s = s := by
  have hne : ∀ {c d : CodePoint}, c ∈ s → d.val ≤ 0x20 → c ≠ d := by
    rintro c d hc hd rfl
    have hvisible := h c hc
    omega
  have hinline : s.all isInline = true := by
    rw [List.all_eq_true]
    intro c hc
    have hreturn : c ≠ chr '\r' := hne hc (by decide)
    have hnewline : c ≠ chr '\n' := hne hc (by decide)
    unfold isInline
    rw [decide_eq_true hreturn, decide_eq_true hnewline]
    rfl
  unfold readValue
  rw [normalizeNewlines_of_inline hinline]
  conv_rhs => rw [← List.map_id s]
  exact List.map_congr_left fun c hc => if_neg (hne hc (by decide))

theorem readValue_name {form : EndSessionForm} {field : Str × Str}
    (h : field ∈ form.hiddenFields) : readValue field.1 = field.1 := by
  have hnames : ∀ name ∈ [str "client_id", str "post_logout_redirect_uri", str "id_token_hint"],
      readValue name = name := by decide +kernel
  refine hnames field.1 ?_
  unfold EndSessionForm.hiddenFields at h
  rcases List.mem_append.1 h with h | h
  · simp only [List.mem_cons, List.not_mem_nil, or_false] at h
    rcases h with rfl | rfl
    · exact List.mem_cons_self
    · exact List.mem_cons_of_mem _ List.mem_cons_self
  · obtain ⟨hint, -, rfl⟩ := Option.map_eq_some_iff.1 (Option.mem_toList.1 h)
    exact List.mem_cons_of_mem _ (List.mem_cons_of_mem _ List.mem_cons_self)

end Values

/-- What a browser reads of the page for an accepted configuration. -/
structure ReadsAsWritten (py : Platform) (table : ReferenceTable) (config : OidcClientConfig)
    (idTokenHint : Option Str) (language buttonLabel : Str) : Prop where
  /-- The page reads as its tokens: the language, the label, the action, the hidden inputs. -/
  tokens : tokensOf table (markup (config.endSessionForm idTokenHint) language buttonLabel) =
    some (pageTokens (config.endSessionForm idTokenHint) language buttonLabel)
  /-- Its tags and the names of their attributes are fixed, but for one input more with a hint. -/
  tags : (pageTokens (config.endSessionForm idTokenHint) language buttonLabel).filterMap
    Token.structural = pageStructure (if idTokenHint.isSome then 3 else 2)
  /-- Reading changes neither where the form leads nor where it comes back. -/
  urls : readValue config.endSessionEndpoint = config.endSessionEndpoint ∧
    readValue config.postLogoutRedirectUri = config.postLogoutRedirectUri
  /-- Reading changes no name of a hidden field. -/
  names : ∀ field ∈ (config.endSessionForm idTokenHint).hiddenFields, readValue field.1 = field.1
  /-- The bytes that are sent decode to the page. -/
  body : ∀ body, encode (markup (config.endSessionForm idTokenHint) language buttonLabel) =
    some body → decode strict body =
      some (markup (config.endSessionForm idTokenHint) language buttonLabel)
  /-- The header reads as one policy of the five directives. -/
  policy : parsePolicies (formPolicy py (config.endSessionForm idTokenHint)) =
    [formDirectives py (config.endSessionForm idTokenHint)]
  /-- A place the form may lead is what stands at the start of its URL. -/
  origins : StandsAtStart (origin config.endSessionEndpoint) config.endSessionEndpoint ∧
    StandsAtStart (origin config.postLogoutRedirectUri) config.postLogoutRedirectUri

/-- **The page cannot be broken out of.** -/
theorem end_session_page {config : OidcClientConfig} (h : config.checkUrls = .ok ())
    (py : Platform) (table : ReferenceTable) (idTokenHint : Option Str)
    (language buttonLabel : Str) :
    ReadsAsWritten py table config idTokenHint language buttonLabel := by
  obtain ⟨hendpoints, happs, htargets⟩ := checkUrls_eq_ok h
  have hendpoint : isEndpointUrl config.endSessionEndpoint = true :=
    hendpoints ("end_session_endpoint", _) (by simp [OidcClientConfig.endpointUrlFields])
  have hredirect : isAppUrl config.postLogoutRedirectUri = true :=
    happs ("post_logout_redirect_uri", _) (by simp [OidcClientConfig.appUrlFields])
  have hendpointHost : isPlainAuthority (urlsplit config.endSessionEndpoint).netloc = true :=
    htargets ("end_session_endpoint", _) (by simp [OidcClientConfig.formTargetFields])
  have hredirectHost : isPlainAuthority (urlsplit config.postLogoutRedirectUri).netloc = true :=
    htargets ("post_logout_redirect_uri", _) (by simp [OidcClientConfig.formTargetFields])
  obtain ⟨hendpointVisible, hendpointScheme, hendpointQuery, hendpointFragment⟩ :=
    of_isEndpointUrl hendpoint
  obtain ⟨hredirectVisible, hredirectScheme, hredirectQuery, hredirectFragment⟩ :=
    of_isAppUrl hredirect
  have hendpointOrigin := standsAtStart_origin (.inl hendpointScheme) hendpointHost
    hendpointQuery hendpointFragment
  have hredirectOrigin := standsAtStart_origin hredirectScheme hredirectHost hredirectQuery
    hredirectFragment
  refine
    { tokens := tokensOf_markup _ language buttonLabel table
      tags := ?_
      urls := ⟨readValue_of_visible hendpointVisible, readValue_of_visible hredirectVisible⟩
      names := fun _ hfield => readValue_name hfield
      body := fun _ hbody => decode_encode strict hbody
      policy := parsePolicies_formPolicy ?_
      origins := ⟨hendpointOrigin, hredirectOrigin⟩ }
  · rw [structural_pageTokens]
    cases idTokenHint <;> rfl
  · intro url hurl
    simp only [List.mem_cons, List.not_mem_nil, or_false] at hurl
    rcases hurl with rfl | rfl
    · exact hendpointOrigin.isSource
    · exact hredirectOrigin.isSource

theorem client_nonempty : str "client" ≠ [] := by decide

/-- A client whose application runs on a loopback host. -/
def loopbackClient : OidcClientConfig where
  issuer := str "https://issuer"
  authorizationEndpoint := str "https://issuer/authorize"
  tokenEndpoint := str "https://issuer/token"
  jwksUrl := str "https://issuer/jwks"
  endSessionEndpoint := str "https://issuer/logout"
  clientId := str "client"
  clientSecret := str "secret"
  redirectUri := str "http://localhost:8000/auth/callback"
  postLogoutRedirectUri := str "http://localhost:8000/"
  scopes := [str "openid"]
  leewaySeconds := 0
  clientId_nonempty := client_nonempty

/-- A few of the named references, with and without their semicolons. -/
def someReferences : ReferenceTable where
  entries := [(str "amp;", str "&"), (str "amp", str "&"), (str "lt;", str "<"),
    (str "lt", str "<"), (str "gt;", str ">"), (str "gt", str ">"), (str "quot;", str "\""),
    (str "quot", str "\"")]
  names := by
    intro entry hentry
    simp only [List.mem_cons, List.not_mem_nil, or_false] at hentry
    rcases hentry with rfl | rfl | rfl | rfl | rfl | rfl | rfl | rfl
    · exact ⟨str "amp", by decide, by decide, .inr (by decide)⟩
    · exact ⟨str "amp", by decide, by decide, .inl rfl⟩
    · exact ⟨str "lt", by decide, by decide, .inr (by decide)⟩
    · exact ⟨str "lt", by decide, by decide, .inl rfl⟩
    · exact ⟨str "gt", by decide, by decide, .inr (by decide)⟩
    · exact ⟨str "gt", by decide, by decide, .inl rfl⟩
    · exact ⟨str "quot", by decide, by decide, .inr (by decide)⟩
    · exact ⟨str "quot", by decide, by decide, .inl rfl⟩
  amp := by decide
  lt := by decide
  gt := by decide
  quot := by decide

theorem end_session_page_of_loopback :
    ReadsAsWritten demoPlatform someReferences loopbackClient (some (str "a\"b&quot;c"))
      (str "en") (str "</title><b>") :=
  end_session_page rfl _ _ _ _ _

end WebAuth
