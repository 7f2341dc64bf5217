import WebAuth.Browser.PolicyGrammar
import WebAuth.Effects.Checks
import WebAuth.SecurityHeaders

/-!
# The default content security policy

What the policy admits beyond this origin: script hashes and, for each directive, the sources a host
adds. A browser reads back what was asked for, and nothing else.
-/

namespace WebAuth

open Python Browser Effects

/-! ## The directives -/

/-- `CspDirective`. -/
inductive CspDirective where
  | scriptSrc
  | styleSrc
  | connectSrc
  | imgSrc
  | mediaSrc
  | fontSrc
  | manifestSrc
  | workerSrc
  | frameAncestors
  | formAction
  deriving DecidableEq

namespace CspDirective

/-- The members, in the order they are declared. -/
def members : List CspDirective :=
  [scriptSrc, styleSrc, connectSrc, imgSrc, mediaSrc, fontSrc, manifestSrc, workerSrc,
    frameAncestors, formAction]

/-- The value of a member. -/
def value : CspDirective → String
  | scriptSrc => "script-src"
  | styleSrc => "style-src"
  | connectSrc => "connect-src"
  | imgSrc => "img-src"
  | mediaSrc => "media-src"
  | fontSrc => "font-src"
  | manifestSrc => "manifest-src"
  | workerSrc => "worker-src"
  | frameAncestors => "frame-ancestors"
  | formAction => "form-action"

end CspDirective

/-- `_SELF_KEYWORD`. -/
def selfKeyword : Str := str "'self'"

/-- `_NONE_SOURCE`. -/
def noneSource : Str := str "'none'"

/-- `_DEFAULT_SOURCES`. -/
def defaultSources : CspDirective → List Str
  | .imgSrc => [selfKeyword, str "data:", str "blob:"]
  | .mediaSrc => [selfKeyword, str "blob:"]
  | .frameAncestors => [noneSource]
  | _ => [selfKeyword]

/-- `_FIXED_DIRECTIVES`. -/
def fixedDirectives : List Str := [str "default-src 'none'", str "base-uri 'self'"]

/-! ## The arguments -/

/-- An item of a sequence: a string, or a value of another type. -/
inductive SourceItem where
  | text (s : Str)
  | other (typeName : String)

/-- A value given for a list of sources: one string, a sequence that is neither a string nor
bytes-like, or anything else. -/
inductive SourcesArgument where
  | text (s : Str)
  | sequence (items : List SourceItem)
  | other (typeName : String)

/-- A key of a mapping: a directive, or another value by its `repr`. -/
inductive MappingKey where
  | directive (directive : CspDirective)
  | other (repr : String)
  deriving DecidableEq

/-- A mapping by its items. No directive is the key of two of them. -/
structure SourcesMapping where
  items : List (MappingKey × SourcesArgument)
  keys_pairwise : items.Pairwise fun a b => ∀ directive, a.1 = .directive directive → b.1 ≠ a.1

/-- A value given for `added_sources`. -/
inductive AddedSources where
  | none
  | mapping (mapping : SourcesMapping)
  | other (typeName : String)

/-! ## The checks -/

/-- `_BARE_HASH.fullmatch`. -/
def isBareHash (s : Str) : Bool :=
  let digest := s.drop 7
  [str "sha256-", str "sha384-", str "sha512-"].contains (lowerAscii (s.take 7)) &&
    digest.head?.any isBase64Value &&
    [[], str "=", str "=="].contains (digest.dropWhile isBase64Value)
where
  /-- `[A-Za-z0-9+/\-_]`. -/
  isBase64Value (c : CodePoint) : Bool := isAlphaNum c || isOneOf "+/-_" c

/-- `_SOURCE_TOKEN.fullmatch`. -/
def isSourceToken (s : Str) : Bool :=
  s ≠ [] && s.all fun c =>
    (0x21 ≤ c.val ∧ c.val ≤ 0x2b) ∨ (0x2d ≤ c.val ∧ c.val ≤ 0x3a) ∨
      (0x3c ≤ c.val ∧ c.val ≤ 0x7e)

/-- The check that an item of a list of sources is a string. -/
def requireSource (owner : CspDirective) : SourceItem → Except Exn Str
  | .text source => .ok source
  | .other typeName =>
    .error (.typeError s!"{owner.value}: a source must be a str, not {typeName}.")

/-- `_require_source_list`. -/
def requireSourceList (owner : CspDirective) : SourcesArgument → Except Exn (List Str)
  | .text _ =>
    .error (.valueError (s!"{owner.value} must be a collection of sources, not one string; " ++
      "list each source in a collection"))
  | .other typeName =>
    .error (.typeError s!"{owner.value}: sources must be a sequence of str, not {typeName}.")
  | .sequence items => items.mapM (requireSource owner)

section Validation

variable (repr : Str → String)

/-- `_validated_hash`. -/
def validatedHash (scriptHash : Str) : Except Exn Str :=
  if !isBareHash scriptHash then
    .error (.valueError (s!"{CspDirective.scriptSrc.value}: {repr scriptHash} is not a bare " ++
      "sha256-, sha384- or sha512- hash with a base64 value."))
  else .ok (str "'" ++ scriptHash ++ str "'")

/-- `_validated_source`. -/
def validatedSource (directive : CspDirective) (source : Str) : Except Exn Str :=
  if !isSourceToken source then
    .error (.valueError (s!"{directive.value}: {repr source} must be one token of printable " ++
      "ASCII without space, ';' or ','."))
  else .ok source

/-- The loop of `_validated_additions`. -/
def validatedItems (additions : CspDirective → Option (List Str)) :
    List (MappingKey × SourcesArgument) → Except Exn (CspDirective → Option (List Str))
  | [] => .ok additions
  | (.other key, _) :: _ =>
    .error (.typeError s!"added_sources keys must be CspDirective members, not {key}.")
  | (.directive directive, sources) :: items => do
    let sources ← (← requireSourceList directive sources).mapM (validatedSource repr directive)
    validatedItems (Function.update additions directive (some sources)) items

/-- `_validated_additions`. -/
def validatedAdditions : AddedSources → Except Exn (CspDirective → Option (List Str))
  | .none => .ok fun _ => none
  | .other typeName => .error (.typeError s!"added_sources must be a Mapping, not {typeName}.")
  | .mapping mapping => validatedItems repr (fun _ => none) mapping.items

/-- `_source_list`. -/
def sourceList (directive : CspDirective) (quotedHashes additions : List Str) : Str :=
  let defaults := defaultSources directive
  let defaults := if additions ≠ [] ∧ defaults = [noneSource] then [] else defaults
  let hashes := if directive = .scriptSrc then quotedHashes else []
  join (chr ' ') (defaults ++ hashes ++ additions).eraseDups

/-- `default_content_security_policy`. -/
def defaultContentSecurityPolicy (scriptHashes : SourcesArgument) (addedSources : AddedSources) :
    Except Exn Str := do
  let quotedHashes ← (← requireSourceList .scriptSrc scriptHashes).mapM (validatedHash repr)
  let additions ← validatedAdditions repr addedSources
  let directives := CspDirective.members.map fun directive =>
    str directive.value ++ str " " ++
      sourceList directive quotedHashes ((additions directive).getD [])
  return (str "; ").intercalate (fixedDirectives ++ directives)

end Validation

/-! ## What is accepted -/

/-- The documented shape of a script hash: an algorithm, a value in base64 of either alphabet, and
at most two pads. -/
def IsBareHash (s : Str) : Prop :=
  ∃ algorithm digest pads, s = algorithm ++ digest ++ pads ∧
    lowerAscii algorithm ∈ [str "sha256-", str "sha384-", str "sha512-"] ∧
    digest ≠ [] ∧ (∀ c ∈ digest, isAlphaNum c = true ∨ c ∈ str "+/-_") ∧
    pads ∈ [[], str "=", str "=="]

/-- The documented shape of a source: one token of printable ASCII without a semicolon or a
comma. -/
def IsSource (s : Str) : Prop :=
  s ≠ [] ∧ ∀ c ∈ s, (0x21 ≤ c.val ∧ c.val ≤ 0x7e) ∧ c ≠ chr ';' ∧ c ≠ chr ','

/-- A sequence of strings. -/
def IsTexts (argument : SourcesArgument) (texts : List Str) : Prop :=
  argument = .sequence (texts.map .text)

/-- Every item of a mapping is a directive's, with a sequence of sources. -/
def IsAdded (items : List (MappingKey × SourcesArgument)) : Prop :=
  ∀ item ∈ items, ∃ directive texts, item.1 = .directive directive ∧ IsTexts item.2 texts ∧
    ∀ source ∈ texts, IsSource source

/-- Arguments of the documented shape. -/
structure WellShaped (scriptHashes : SourcesArgument) (addedSources : AddedSources) : Prop where
  hashes : ∃ texts, IsTexts scriptHashes texts ∧ ∀ hash ∈ texts, IsBareHash hash
  added : addedSources = .none ∨
    ∃ mapping, addedSources = .mapping mapping ∧ IsAdded mapping.items

/-- The strings of a sequence. -/
def SourcesArgument.texts : SourcesArgument → List Str
  | .sequence items => items.filterMap fun
    | .text source => some source
    | .other _ => none
  | _ => []

/-- The sources that a mapping adds to a directive. -/
def AddedSources.to (addedSources : AddedSources) (directive : CspDirective) : List Str :=
  match addedSources with
  | .mapping added =>
    ((added.items.find? (·.1 = .directive directive)).map (·.2.texts)).getD []
  | _ => []

/-- What a directive should list. -/
def listedSources (scriptHashes : SourcesArgument) (addedSources : AddedSources)
    (directive : CspDirective) : List Str :=
  let additions := addedSources.to directive
  let defaults :=
    if directive = .frameAncestors ∧ additions ≠ [] then [] else defaultSources directive
  let hashes :=
    if directive = .scriptSrc then
      scriptHashes.texts.map fun hash => str "'" ++ hash ++ str "'"
    else []
  (defaults ++ hashes ++ additions).eraseDups

/-- The directives of the policy that is asked for. -/
def askedDirectives (scriptHashes : SourcesArgument) (addedSources : AddedSources) :
    List Directive :=
  [⟨str "default-src", [str "'none'"]⟩, ⟨str "base-uri", [str "'self'"]⟩] ++
    CspDirective.members.map fun directive =>
      ⟨str directive.value, listedSources scriptHashes addedSources directive⟩

/-! ## The shapes -/

section Shapes

theorem isBareHash_iff {s : Str} : isBareHash s = true ↔ IsBareHash s := by
  unfold isBareHash IsBareHash
  simp only [Bool.and_eq_true, List.contains_iff_mem]
  constructor
  · rintro ⟨⟨halgorithm, hhead⟩, hpads⟩
    refine ⟨s.take 7, (s.drop 7).takeWhile isBareHash.isBase64Value,
      (s.drop 7).dropWhile isBareHash.isBase64Value, ?_, halgorithm, ?_, fun c hc => ?_, hpads⟩
    · rw [List.append_assoc, List.takeWhile_append_dropWhile, List.take_append_drop]
    · cases hdigest : s.drop 7 with
      | nil =>
        rw [hdigest] at hhead
        cases hhead
      | cons c rest =>
        rw [hdigest] at hhead
        have hfirst : isBareHash.isBase64Value c = true := hhead
        rw [List.takeWhile_cons_of_pos hfirst]
        exact List.cons_ne_nil _ _
    · have hvalue := List.mem_takeWhile_imp hc
      simpa only [isBareHash.isBase64Value, isOneOf, Bool.or_eq_true, List.contains_iff_mem]
        using hvalue
  · rintro ⟨algorithm, digest, pads, rfl, halgorithm, hne, hdigest, hpads⟩
    have hlength : algorithm.length = 7 := by
      have hlower : (lowerAscii algorithm).length = 7 := by
        revert halgorithm
        generalize lowerAscii algorithm = lower
        intro hmem
        simp only [List.mem_cons, List.not_mem_nil, or_false] at hmem
        rcases hmem with rfl | rfl | rfl <;> rfl
      rwa [lowerAscii, List.length_map] at hlower
    have hvalues : ∀ c ∈ digest, isBareHash.isBase64Value c = true := by
      intro c hc
      simpa only [isBareHash.isBase64Value, isOneOf, Bool.or_eq_true, List.contains_iff_mem]
        using hdigest c hc
    have hdrop : (algorithm ++ digest ++ pads).drop 7 = digest ++ pads := by
      rw [List.append_assoc, ← hlength, List.drop_left]
    have htake : (algorithm ++ digest ++ pads).take 7 = algorithm := by
      rw [List.append_assoc, ← hlength, List.take_left]
    rw [hdrop, htake]
    refine ⟨⟨halgorithm, ?_⟩, ?_⟩
    · obtain ⟨c, rest, rfl⟩ := List.exists_cons_of_ne_nil hne
      exact hvalues c List.mem_cons_self
    · rw [List.dropWhile_append_of_pos hvalues, dropWhile_of_head ?_]
      · exact hpads
      · intro c hc
        simp only [List.mem_cons, List.not_mem_nil, or_false] at hpads
        rcases hpads with rfl | rfl | rfl
        · cases hc
        all_goals
          obtain rfl := Option.some.inj hc
          decide

theorem isSourceToken_iff {s : Str} : isSourceToken s = true ↔ IsSource s := by
  unfold isSourceToken IsSource
  simp only [ne_eq, Bool.and_eq_true, decide_eq_true_eq, List.all_eq_true]
  refine and_congr_right fun _ => forall₂_congr fun c _ => ?_
  have hsemicolon : c = chr ';' ↔ c.val = 0x3b := Fin.ext_iff
  have hcomma : c = chr ',' ↔ c.val = 0x2c := Fin.ext_iff
  rw [hsemicolon, hcomma]
  omega

end Shapes

/-! ## The checks -/

section Accepted

variable {repr : Str → String} {texts quoted : List Str}

theorem requireSourceList_eq_ok {owner : CspDirective} {argument : SourcesArgument} :
    requireSourceList owner argument = .ok texts ↔ IsTexts argument texts := by
  unfold IsTexts
  cases argument with
  | text s => exact ⟨nofun, nofun⟩
  | other typeName => exact ⟨nofun, nofun⟩
  | sequence items =>
    have hitem : ∀ item text, requireSource owner item = .ok text ↔ item = .text text := by
      intro item text
      cases item with
      | text source => exact ⟨fun h => by rw [Except.ok.inj h], fun h => by
          rw [SourceItem.text.inj h]; rfl⟩
      | other typeName => exact ⟨nofun, nofun⟩
    rw [requireSourceList, mapM_unwrap hitem, SourcesArgument.sequence.injEq]

theorem validatedHash_eq_ok {hash text : Str} :
    validatedHash repr hash = .ok text ↔ IsBareHash hash ∧ str "'" ++ hash ++ str "'" = text := by
  unfold validatedHash
  rw [← isBareHash_iff]
  cases isBareHash hash with
  | false => exact ⟨nofun, fun h => absurd h.1 Bool.false_ne_true⟩
  | true => exact ⟨fun h => ⟨rfl, Except.ok.inj h⟩, fun h => congrArg Except.ok h.2⟩

theorem validatedSource_eq_ok {directive : CspDirective} {source text : Str} :
    validatedSource repr directive source = .ok text ↔ IsSource source ∧ id source = text := by
  unfold validatedSource
  rw [← isSourceToken_iff]
  cases isSourceToken source with
  | false => exact ⟨nofun, fun h => absurd h.1 Bool.false_ne_true⟩
  | true => exact ⟨fun h => ⟨rfl, Except.ok.inj h⟩, fun h => congrArg Except.ok h.2⟩

/-- Hashes are accepted when all have the documented shape, and then quoted. -/
theorem mapM_validatedHash : texts.mapM (validatedHash repr) = .ok quoted ↔
    (∀ hash ∈ texts, IsBareHash hash) ∧
      texts.map (fun hash => str "'" ++ hash ++ str "'") = quoted :=
  mapM_guard fun _ _ => validatedHash_eq_ok

/-- Sources are accepted when all have the documented shape, and then kept. -/
theorem mapM_validatedSource {directive : CspDirective} {sources : List Str} :
    sources.mapM (validatedSource repr directive) = .ok texts ↔
      (∀ source ∈ sources, IsSource source) ∧ sources = texts := by
  rw [mapM_guard fun _ _ => validatedSource_eq_ok, List.map_id]

theorem IsTexts.texts_eq {argument : SourcesArgument} (h : IsTexts argument texts) :
    argument.texts = texts := by
  unfold IsTexts at h
  rw [h]
  show (texts.map SourceItem.text).filterMap _ = texts
  rw [List.filterMap_map]
  exact List.filterMap_some

variable {items : List (MappingKey × SourcesArgument)}
  {additions result : CspDirective → Option (List Str)}

/-- What a directive's item adds, or what was added before. -/
theorem validatedItems_eq_ok (h : validatedItems repr additions items = .ok result)
    (hkeys : items.Pairwise fun a b => ∀ directive, a.1 = .directive directive → b.1 ≠ a.1) :
    IsAdded items ∧ ∀ directive, result directive =
      ((items.find? (·.1 = .directive directive)).map (·.2.texts)).or (additions directive) := by
  induction items generalizing additions with
  | nil =>
    obtain rfl := Except.ok.inj h
    exact ⟨fun item hitem => absurd hitem List.not_mem_nil, fun directive => rfl⟩
  | cons item items ih =>
    obtain ⟨key, argument⟩ := item
    obtain ⟨hfirst, hrest⟩ := List.pairwise_cons.1 hkeys
    cases key with
    | other key => cases h
    | directive given =>
      unfold validatedItems at h
      obtain ⟨texts, htexts, h⟩ := bind_eq_ok.1 h
      obtain ⟨sources, hsources, h⟩ := bind_eq_ok.1 h
      obtain ⟨hshape, rfl⟩ := mapM_validatedSource.1 hsources
      have hgiven := requireSourceList_eq_ok.1 htexts
      obtain ⟨hadded, hresult⟩ := ih h hrest
      refine ⟨fun item hitem => ?_, fun directive => ?_⟩
      · rcases List.mem_cons.1 hitem with rfl | hitem
        · exact ⟨given, texts, rfl, hgiven, hshape⟩
        · exact hadded item hitem
      · rw [hresult directive]
        by_cases hdirective : given = directive
        · have hnone : items.find? (·.1 = .directive directive) = none := by
            rw [List.find?_eq_none]
            intro item hitem heq
            have hkey := hfirst item hitem given rfl
            rw [hdirective] at hkey
            exact hkey (of_decide_eq_true heq)
          rw [hnone, List.find?_cons_of_pos (by simp [hdirective]), hdirective,
            Function.update_self, Option.map_some, hgiven.texts_eq]
          rfl
        · rw [List.find?_cons_of_neg (by simp [hdirective]),
            Function.update_of_ne (Ne.symm hdirective)]

/-- Items of the documented shape are accepted. -/
theorem validatedItems_of_isAdded (additions : CspDirective → Option (List Str))
    (h : IsAdded items) : ∃ result, validatedItems repr additions items = .ok result := by
  induction items generalizing additions with
  | nil => exact ⟨additions, rfl⟩
  | cons item items ih =>
    obtain ⟨directive, texts, hkey, htexts, hsources⟩ := h item List.mem_cons_self
    obtain ⟨key, argument⟩ := item
    obtain rfl : key = .directive directive := hkey
    obtain ⟨result, hresult⟩ := ih (Function.update additions directive (some texts))
      fun other hother => h other (List.mem_cons_of_mem _ hother)
    refine ⟨result, ?_⟩
    unfold validatedItems
    exact bind_eq_ok.2 ⟨texts, requireSourceList_eq_ok.2 htexts,
      bind_eq_ok.2 ⟨texts, mapM_validatedSource.2 ⟨hsources, rfl⟩, hresult⟩⟩

end Accepted

/-! ## The policy -/

section Policy

variable {repr : Str → String} {scriptHashes : SourcesArgument} {addedSources : AddedSources}
  {policy : Str}

theorem sourceList_eq {texts : List Str} (htexts : IsTexts scriptHashes texts)
    (directive : CspDirective) :
    sourceList directive (texts.map fun hash => str "'" ++ hash ++ str "'")
        (addedSources.to directive) =
      join (chr ' ') (listedSources scriptHashes addedSources directive) := by
  unfold sourceList listedSources
  rw [htexts.texts_eq]
  have hdefaults : (addedSources.to directive ≠ [] ∧ defaultSources directive = [noneSource]) ↔
      (directive = .frameAncestors ∧ addedSources.to directive ≠ []) := by
    have hnone : defaultSources directive = [noneSource] ↔ directive = .frameAncestors := by
      cases directive <;> decide
    rw [hnone, and_comm]
  simp only [hdefaults]

/-- What accepted arguments say, and the text made of them. -/
theorem defaultContentSecurityPolicy_eq_ok
    (h : defaultContentSecurityPolicy repr scriptHashes addedSources = .ok policy) :
    WellShaped scriptHashes addedSources ∧
      policy = policyText (askedDirectives scriptHashes addedSources) := by
  unfold defaultContentSecurityPolicy at h
  obtain ⟨texts, htexts, h⟩ := bind_eq_ok.1 h
  obtain ⟨quoted, hquoted, h⟩ := bind_eq_ok.1 h
  obtain ⟨additions, hadditions, h⟩ := bind_eq_ok.1 h
  obtain ⟨hhashes, rfl⟩ := mapM_validatedHash.1 hquoted
  have htexts := requireSourceList_eq_ok.1 htexts
  have hadded : (addedSources = .none ∨
      ∃ mapping, addedSources = .mapping mapping ∧ IsAdded mapping.items) ∧
      ∀ directive, (additions directive).getD [] = addedSources.to directive := by
    cases addedSources with
    | none =>
      obtain rfl := Except.ok.inj hadditions
      exact ⟨.inl rfl, fun directive => rfl⟩
    | other typeName => cases hadditions
    | mapping mapping =>
      obtain ⟨hadded, hresult⟩ := validatedItems_eq_ok hadditions mapping.keys_pairwise
      refine ⟨.inr ⟨mapping, rfl, hadded⟩, fun directive => ?_⟩
      rw [hresult directive, Option.or_none]
      rfl
  refine ⟨⟨⟨texts, htexts, hhashes⟩, hadded.1⟩, ?_⟩
  obtain rfl := Except.ok.inj h
  unfold policyText askedDirectives
  simp only [hadded.2, sourceList_eq htexts]
  rw [List.map_append, List.map_map]
  rfl

/-- Arguments of the documented shape are accepted. -/
theorem WellShaped.accepted (h : WellShaped scriptHashes addedSources) (repr : Str → String) :
    ∃ policy, defaultContentSecurityPolicy repr scriptHashes addedSources = .ok policy := by
  obtain ⟨⟨texts, htexts, hhashes⟩, hadded⟩ := h
  have hadditions : ∃ additions, validatedAdditions repr addedSources = .ok additions := by
    rcases hadded with rfl | ⟨mapping, rfl, hadded⟩
    · exact ⟨_, rfl⟩
    · exact validatedItems_of_isAdded _ hadded
  obtain ⟨additions, hadditions⟩ := hadditions
  unfold defaultContentSecurityPolicy
  exact ⟨_, bind_eq_ok.2 ⟨texts, requireSourceList_eq_ok.2 htexts,
    bind_eq_ok.2 ⟨_, mapM_validatedHash.2 ⟨hhashes, rfl⟩,
      bind_eq_ok.2 ⟨additions, hadditions, rfl⟩⟩⟩⟩

end Policy

/-! ## What a browser reads -/

section Reading

variable {s t : Str}

theorem IsSource.isToken (h : IsSource s) : IsToken s where
  nonempty := h.1
  noBlank c hc := by
    obtain ⟨⟨hlo, hhi⟩, -, -⟩ := h.2 c hc
    rw [Bool.eq_false_iff]
    intro hblank
    have hvalues : (str "\t\n\x0c\r ").all (fun d => d.val < 0x21) = true := by decide
    have hlt := of_decide_eq_true (List.all_eq_true.1 hvalues c (List.contains_iff_mem.1 hblank))
    omega
  noSemicolon hmem := (h.2 _ hmem).2.1 rfl
  noComma hmem := (h.2 _ hmem).2.2 rfl

theorem IsSource.append (hs : IsSource s) (ht : IsSource t) : IsSource (s ++ t) :=
  ⟨List.append_ne_nil_of_left_ne_nil hs.1 t,
    fun c hc => (List.mem_append.1 hc).elim (hs.2 c) (ht.2 c)⟩

/-- What is a source once its capitals are lowered is one. -/
theorem isSource_of_lowerAscii (h : IsSource (lowerAscii s)) : IsSource s := by
  refine ⟨fun hnil => h.1 (by rw [hnil]; rfl), fun c hc => ?_⟩
  by_cases hcapital : c.between 'A' 'Z' = true
  · simp only [CodePoint.between, Bool.and_eq_true, decide_eq_true_eq] at hcapital
    have hA : ('A').toNat = 65 := rfl
    have hZ : ('Z').toNat = 90 := rfl
    refine ⟨by omega, ?_, ?_⟩
    · rintro rfl
      have hsemicolon : (chr ';').val = 0x3b := rfl
      omega
    · rintro rfl
      have hcomma : (chr ',').val = 0x2c := rfl
      omega
  · have hmem : c ∈ lowerAscii s := by
      unfold lowerAscii
      exact List.mem_map.2 ⟨c, hc, dif_neg hcapital⟩
    exact h.2 c hmem

theorem source_of_isAlphaNum {c : CodePoint} (h : isAlphaNum c = true) :
    (0x21 ≤ c.val ∧ c.val ≤ 0x7e) ∧ c ≠ chr ';' ∧ c ≠ chr ',' := by
  have hsemicolon : c = chr ';' ↔ c.val = 0x3b := Fin.ext_iff
  have hcomma : c = chr ',' ↔ c.val = 0x2c := Fin.ext_iff
  rw [ne_eq, ne_eq, hsemicolon, hcomma]
  simp only [isAlphaNum, isDigit, CodePoint.between, Bool.or_eq_true, Bool.and_eq_true,
    decide_eq_true_eq] at h
  have hA : ('A').toNat = 65 := rfl
  have hZ : ('Z').toNat = 90 := rfl
  have ha : ('a').toNat = 97 := rfl
  have hz : ('z').toNat = 122 := rfl
  have h0 : ('0').toNat = 48 := rfl
  have h9 : ('9').toNat = 57 := rfl
  omega

theorem IsBareHash.isSource (h : IsBareHash s) : IsSource s := by
  obtain ⟨algorithm, digest, pads, rfl, halgorithm, hne, hdigest, hpads⟩ := h
  have hsource : IsSource algorithm := by
    apply isSource_of_lowerAscii
    rw [← isSourceToken_iff]
    revert halgorithm
    generalize lowerAscii algorithm = lower
    intro hmem
    simp only [List.mem_cons, List.not_mem_nil, or_false] at hmem
    rcases hmem with rfl | rfl | rfl <;> decide
  rw [List.append_assoc]
  refine hsource.append ⟨List.append_ne_nil_of_left_ne_nil hne pads, fun c hc => ?_⟩
  rcases List.mem_append.1 hc with hc | hc
  · rcases hdigest c hc with hc | hc
    · exact source_of_isAlphaNum hc
    · exact (isSourceToken_iff.1 (by decide : isSourceToken (str "+/-_") = true)).2 c hc
  · have hpad : c ∈ str "==" := by
      simp only [List.mem_cons, List.not_mem_nil, or_false] at hpads
      rcases hpads with rfl | rfl | rfl
      · cases hc
      · exact List.mem_cons_of_mem _ hc
      · exact hc
    exact (isSourceToken_iff.1 (by decide : isSourceToken (str "==") = true)).2 c hpad

variable {repr : Str → String} {scriptHashes : SourcesArgument} {addedSources : AddedSources}

theorem isSource_defaultSources {directive : CspDirective} {source : Str}
    (h : source ∈ defaultSources directive) : IsSource source := by
  have hall : (defaultSources directive).all isSourceToken = true := by
    cases directive <;> decide
  exact isSourceToken_iff.1 (List.all_eq_true.1 hall source h)

/-- What is added to a directive has the documented shape. -/
theorem isSource_to (h : WellShaped scriptHashes addedSources) {directive : CspDirective}
    {source : Str} (hmem : source ∈ addedSources.to directive) : IsSource source := by
  rcases h.added with rfl | ⟨mapping, rfl, hadded⟩
  · exact absurd hmem List.not_mem_nil
  · change source ∈ ((mapping.items.find? (·.1 = .directive directive)).map (·.2.texts)).getD []
      at hmem
    cases hitem : mapping.items.find? (·.1 = .directive directive) with
    | none =>
      rw [hitem] at hmem
      cases hmem
    | some item =>
      rw [hitem] at hmem
      obtain ⟨-, texts, -, htexts, hsources⟩ := hadded item (List.mem_of_find?_eq_some hitem)
      rw [Option.map_some, Option.getD_some, htexts.texts_eq] at hmem
      exact hsources source hmem

/-- Everything a directive lists is one token. -/
theorem isSource_listedSources (h : WellShaped scriptHashes addedSources)
    {directive : CspDirective} {source : Str}
    (hmem : source ∈ listedSources scriptHashes addedSources directive) : IsSource source := by
  unfold listedSources at hmem
  rw [List.mem_eraseDups, List.mem_append, List.mem_append] at hmem
  rcases hmem with (hmem | hmem) | hmem
  · split_ifs at hmem
    · cases hmem
    · exact isSource_defaultSources hmem
  · split_ifs at hmem
    · obtain ⟨texts, htexts, hhashes⟩ := h.hashes
      rw [htexts.texts_eq] at hmem
      obtain ⟨hash, hhash, rfl⟩ := List.mem_map.1 hmem
      have hquote : IsSource (str "'") := isSourceToken_iff.1 (by decide)
      exact (hquote.append (hhashes hash hhash).isSource).append hquote
    · cases hmem
  · exact isSource_to h hmem

/-- Every directive lists a source: its defaults stay unless something is added. -/
theorem listedSources_ne_nil (directive : CspDirective) :
    listedSources scriptHashes addedSources directive ≠ [] := by
  have hdefaults : defaultSources directive ≠ [] := by cases directive <;> decide
  obtain ⟨source, hsource⟩ := List.exists_mem_of_ne_nil _ hdefaults
  by_cases hadded : directive = .frameAncestors ∧ addedSources.to directive ≠ []
  · obtain ⟨added, hmem⟩ := List.exists_mem_of_ne_nil _ hadded.2
    refine List.ne_nil_of_mem (a := added) ?_
    unfold listedSources
    rw [List.mem_eraseDups]
    exact List.mem_append_right _ hmem
  · refine List.ne_nil_of_mem (a := source) ?_
    unfold listedSources
    rw [List.mem_eraseDups, if_neg hadded]
    exact List.mem_append_left _ (List.mem_append_left _ hsource)

theorem isSource_value (directive : CspDirective) :
    IsSource (str directive.value) ∧ lowerAscii (str directive.value) = str directive.value := by
  rw [← isSourceToken_iff]
  cases directive <;> decide

/-- A directive of sources, with a name without capitals. -/
structure OfSources (directive : Directive) : Prop where
  name_isSource : IsSource directive.name
  name_lower : lowerAscii directive.name = directive.name
  sources_ne : directive.sources ≠ []
  isSource : ∀ source ∈ directive.sources, IsSource source

theorem OfSources.isPlain {directive : Directive} (h : OfSources directive) : directive.IsPlain :=
  ⟨h.name_isSource.isToken, h.name_lower, h.sources_ne,
    fun source hsource => (h.isSource source hsource).isToken⟩

theorem OfSources.single {name source : Str} (hname : isSourceToken name = true)
    (hlower : lowerAscii name = name) (hsource : IsSource source) : OfSources ⟨name, [source]⟩ := by
  refine ⟨isSourceToken_iff.1 hname, hlower, List.cons_ne_nil _ _, fun other hother => ?_⟩
  rw [List.mem_singleton.1 hother]
  exact hsource

theorem ofSources_asked (h : WellShaped scriptHashes addedSources) :
    ∀ directive ∈ askedDirectives scriptHashes addedSources, OfSources directive := by
  intro directive hmem
  rcases List.mem_append.1 hmem with hmem | hmem
  · simp only [List.mem_cons, List.not_mem_nil, or_false] at hmem
    rcases hmem with rfl | rfl
    · exact .single (by decide) (by decide) (isSourceToken_iff.1 (by decide))
    · exact .single (by decide) (by decide) (isSourceToken_iff.1 (by decide))
  · obtain ⟨member, -, rfl⟩ := List.mem_map.1 hmem
    exact ⟨(isSource_value member).1, (isSource_value member).2, listedSources_ne_nil member,
      fun source => isSource_listedSources h⟩

theorem names_asked : ((askedDirectives scriptHashes addedSources).map (·.name)) =
    str "default-src" :: str "base-uri" :: CspDirective.members.map fun member =>
      str member.value := by
  unfold askedDirectives
  rw [List.map_append, List.map_map]
  rfl

theorem nodup_names_asked : ((askedDirectives scriptHashes addedSources).map (·.name)).Nodup := by
  rw [names_asked]
  decide +kernel

/-! ## A header value -/

/-- Between two header values may stand what is visible or a blank. -/
theorem isHeaderFieldValue_append {between : Str} (hs : isHeaderFieldValue s = true)
    (ht : isHeaderFieldValue t = true)
    (hbetween : between.all (fun c => (0x21 ≤ c.val && c.val ≤ 0x7e) || isOneOf " \t" c) = true) :
    isHeaderFieldValue (s ++ between ++ t) = true := by
  unfold isHeaderFieldValue at *
  simp only [Bool.and_eq_true] at *
  obtain ⟨⟨hhead, -⟩, hall⟩ := hs
  obtain ⟨⟨-, hlast⟩, hall'⟩ := ht
  have hs : s ≠ [] := by
    rintro rfl
    cases hhead
  have ht : t ≠ [] := by
    rintro rfl
    cases hlast
  refine ⟨⟨?_, ?_⟩, ?_⟩
  · rw [List.append_assoc, List.head?_append_of_ne_nil _ hs]
    exact hhead
  · rw [List.getLast?_append_of_ne_nil _ ht]
    exact hlast
  · rw [List.all_append, List.all_append, hall, hall', hbetween]
    rfl

theorem isHeaderFieldValue_intercalate {separator : Str} {parts : List Str} (hne : parts ≠ [])
    (hseparator : separator.all (fun c => (0x21 ≤ c.val && c.val ≤ 0x7e) || isOneOf " \t" c) = true)
    (h : ∀ part ∈ parts, isHeaderFieldValue part = true) :
    isHeaderFieldValue (separator.intercalate parts) = true := by
  induction parts with
  | nil => exact absurd rfl hne
  | cons part parts ih =>
    by_cases hnil : parts = []
    · rw [hnil, List.intercalate_singleton]
      exact h part List.mem_cons_self
    · rw [List.intercalate_cons_of_ne_nil hnil]
      exact isHeaderFieldValue_append (h part List.mem_cons_self)
        (ih hnil fun other hother => h other (List.mem_cons_of_mem _ hother)) hseparator

theorem IsSource.isHeaderFieldValue (h : IsSource s) : isHeaderFieldValue s = true := by
  obtain ⟨hne, hvisible⟩ := h
  have hall : ∀ c ∈ s, (0x21 ≤ c.val && c.val ≤ 0x7e) = true := by
    intro c hc
    obtain ⟨⟨hlo, hhi⟩, -⟩ := hvisible c hc
    rw [decide_eq_true hlo, decide_eq_true hhi]
    rfl
  unfold WebAuth.isHeaderFieldValue
  rw [List.head?_eq_some_head hne, List.getLast?_eq_some_getLast hne]
  simp only [Bool.and_eq_true]
  refine ⟨⟨hall _ (List.head_mem hne), hall _ (List.getLast_mem hne)⟩, ?_⟩
  rw [List.all_eq_true]
  intro c hc
  rw [hall c hc]
  rfl

theorem OfSources.isHeaderFieldValue {directive : Directive} (h : OfSources directive) :
    isHeaderFieldValue directive.text = true := by
  unfold Directive.text
  refine isHeaderFieldValue_append h.name_isSource.isHeaderFieldValue ?_ (by decide)
  exact isHeaderFieldValue_intercalate h.sources_ne (by decide)
    fun source hsource => (h.isSource source hsource).isHeaderFieldValue

end Reading

/-! ## The statement -/

/-- What the function answers: a value a browser reads as the policy asked for. -/
structure AnswersAsked (repr : Str → String) (scriptHashes : SourcesArgument)
    (addedSources : AddedSources) : Prop where
  /-- It raises exactly when an argument is outside the documented shape. -/
  raises : (∃ e, defaultContentSecurityPolicy repr scriptHashes addedSources = .error e) ↔
    ¬ WellShaped scriptHashes addedSources
  /-- What it answers is a value of the security headers. -/
  header : ∀ policy, defaultContentSecurityPolicy repr scriptHashes addedSources = .ok policy →
    ∃ headers : SecurityHeadersPolicy, headers.contentSecurityPolicy = policy
  /-- It reads as one policy: the fixed directives, then each directive with what it should list. -/
  parsed : ∀ policy, defaultContentSecurityPolicy repr scriptHashes addedSources = .ok policy →
    parsePolicies policy = [askedDirectives scriptHashes addedSources]
  /-- Every directive is one of them, once. -/
  once : (∀ directive, directive ∈ CspDirective.members) ∧
    ((askedDirectives scriptHashes addedSources).map (·.name)).Nodup

/-- **The default policy is well formed and free of injections.** -/
theorem default_content_security_policy (repr : Str → String) (scriptHashes : SourcesArgument)
    (addedSources : AddedSources) : AnswersAsked repr scriptHashes addedSources := by
  refine ⟨?_, fun policy h => ?_, fun policy h => ?_, fun directive => ?_, nodup_names_asked⟩
  · constructor
    · rintro ⟨e, he⟩ hshaped
      obtain ⟨policy, hpolicy⟩ := hshaped.accepted repr
      rw [hpolicy] at he
      cases he
    · intro hshaped
      cases hresult : defaultContentSecurityPolicy repr scriptHashes addedSources with
      | error e => exact ⟨e, rfl⟩
      | ok policy => exact absurd (defaultContentSecurityPolicy_eq_ok hresult).1 hshaped
  · obtain ⟨hshaped, rfl⟩ := defaultContentSecurityPolicy_eq_ok h
    have hvalue : isHeaderFieldValue (policyText (askedDirectives scriptHashes addedSources)) =
        true := by
      refine isHeaderFieldValue_intercalate (List.cons_ne_nil _ _) (by decide) fun part hpart => ?_
      obtain ⟨directive, hdirective, rfl⟩ := List.mem_map.1 hpart
      exact (ofSources_asked hshaped directive hdirective).isHeaderFieldValue
    exact ⟨⟨_, [], str "camera=()", hvalue, by decide⟩, rfl⟩
  · obtain ⟨hshaped, rfl⟩ := defaultContentSecurityPolicy_eq_ok h
    exact parsePolicies_policyText (List.cons_ne_nil _ _)
      (fun directive hdirective => (ofSources_asked hshaped directive hdirective).isPlain)
      nodup_names_asked
  · cases directive <;> decide

end WebAuth
