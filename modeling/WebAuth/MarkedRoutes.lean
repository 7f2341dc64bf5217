import WebAuth.GateDecision
import WebAuth.Python.Fields
import WebAuth.Templates

/-!
# Marked routes as templates

A marked route takes a path when the path is its template with every parameter replaced, in the one
way that is possible. A parameter holds no slash and is no dot segment, and a literal could stand
for a parameter, so two routes of a method meet unless their segments differ in number or in a
literal.
-/

namespace WebAuth

open Python Templates

/-! ## The template -/

/-- `MarkedRoute.__post_init__`. -/
def MarkedRoute.postInit (method template : Str) : Except Exn MarkedRoute :=
  if hmethod : isMethodToken method = true then
    if htemplate : isRouteTemplate template = true then .ok ⟨method, template, hmethod, htemplate⟩
    else .error (.valueError ("MarkedRoute.template must be segments of unreserved characters or" ++
      " \x7bname\x7d, each after a slash, without a trailing slash"))
  else .error (.valueError "MarkedRoute.method must be one upper-case HTTP method token")

/-- `self.template.split("/")[1:]`. -/
def MarkedRoute.segments (route : MarkedRoute) : List Str := (split (chr '/') route.template).tail

/-- A segment of a template: a parameter is a hole. -/
def slotOf (segment : Str) : Slot Str :=
  if isParameterSegment segment then .hole else .literal segment

/-- What may stand for a parameter. -/
structure IsParameterValue (value : Str) : Prop where
  nonempty : value ≠ []
  noSlash : chr '/' ∉ value
  noDot : value ≠ str "."
  noDots : value ≠ str ".."

/-- The template with its parameters replaced in order. -/
def MarkedRoute.replaced (route : MarkedRoute) (values : List Str) : Option Str :=
  (fill (route.segments.map slotOf) values).map fun segments =>
    str "/" ++ join (chr '/') segments

section Template

variable {route : MarkedRoute} {method template path segment : Str} {values : List Str}

/-- The routes are what the constructor accepts. -/
theorem MarkedRoute.postInit_eq_ok :
    MarkedRoute.postInit method template = .ok route ↔
      route.method = method ∧ route.template = template := by
  unfold MarkedRoute.postInit
  constructor
  · intro h
    split_ifs at h
    obtain rfl := Except.ok.inj h
    exact ⟨rfl, rfl⟩
  · rintro ⟨rfl, rfl⟩
    rw [dif_pos route.method_isToken, dif_pos route.template_isTemplate]

theorem split_slash (s : Str) : split (chr '/') (str "/" ++ s) = [] :: split (chr '/') s := by
  have hcut := split_append_cons (chr '/') [] s
  rw [List.nil_append] at hcut
  exact hcut

theorem join_split_slash (s : Str) :
    str "/" ++ join (chr '/') (split (chr '/') (str "/" ++ s)).tail = str "/" ++ s := by
  rw [split_slash, List.tail_cons]
  exact congrArg (str "/" ++ ·) (List.intercalate_splitOn (chr '/'))

/-- A template is its segments, each after a slash. -/
theorem MarkedRoute.template_facts (route : MarkedRoute) :
    (∃ rest, route.template = str "/" ++ rest) ∧ route.segments ≠ [] ∧
      ∀ segment ∈ route.segments, isTemplateSegment segment = true := by
  have h := route.template_isTemplate
  unfold isRouteTemplate at h
  cases hsplit : split (chr '/') route.template with
  | nil =>
    rw [hsplit] at h
    cases h
  | cons first segments =>
    rw [hsplit] at h
    simp only [Bool.and_eq_true, decide_eq_true_eq, List.all_eq_true] at h
    obtain ⟨⟨rfl, hne⟩, hsegments⟩ := h
    unfold MarkedRoute.segments
    rw [hsplit]
    refine ⟨⟨join (chr '/') segments, ?_⟩, hne, hsegments⟩
    have hjoin : join (chr '/') (split (chr '/') route.template) = route.template :=
      List.intercalate_splitOn (chr '/')
    rw [← hjoin, hsplit]
    exact List.intercalate_cons_of_ne_nil hne

theorem MarkedRoute.template_eq (route : MarkedRoute) :
    route.template = str "/" ++ join (chr '/') route.segments := by
  obtain ⟨⟨rest, hrest⟩, -⟩ := route.template_facts
  unfold MarkedRoute.segments
  rw [hrest, join_split_slash]

/-- A literal of a template could stand for a parameter. -/
theorem isParameterValue_of_literal (h : isTemplateSegment segment = true)
    (hliteral : isParameterSegment segment = false) : IsParameterValue segment := by
  unfold isTemplateSegment at h
  rw [hliteral, Bool.false_or] at h
  simp only [Bool.and_eq_true, decide_eq_true_eq, List.all_eq_true, Bool.not_eq_true'] at h
  obtain ⟨⟨hne, hunreserved⟩, hdots⟩ := h
  have hnotDots : segment ∉ plainDotSegments := fun hmem => by
    rw [List.contains_iff_mem.2 hmem] at hdots
    cases hdots
  refine ⟨hne, fun hslash => ?_, ?_, ?_⟩
  · have hreserved : isUnreserved (chr '/') = false := by decide
    rw [hunreserved _ hslash] at hreserved
    cases hreserved
  · rintro rfl
    exact hnotDots List.mem_cons_self
  · rintro rfl
    exact hnotDots (List.mem_cons_of_mem _ List.mem_cons_self)

theorem isFillable_segments (route : MarkedRoute) :
    IsFillable IsParameterValue (route.segments.map slotOf) := by
  intro a hmem
  obtain ⟨segment, hsegment, hslot⟩ := List.mem_map.1 hmem
  unfold slotOf at hslot
  split_ifs at hslot with hparameter
  obtain rfl := Slot.literal.inj hslot
  exact isParameterValue_of_literal (route.template_facts.2.2 _ hsegment)
    (Bool.not_eq_true _ ▸ hparameter)

/-! ## The paths of a template -/

theorem fitsSegment_iff_takes {templateSegment : Str} (hslash : chr '/' ∉ segment) :
    FitsSegment templateSegment segment ↔
      (slotOf templateSegment).Takes IsParameterValue segment := by
  unfold FitsSegment slotOf
  split_ifs with hparameter
  · constructor
    · intro h
      simp only [List.mem_cons, List.not_mem_nil, or_false, not_or] at h
      exact ⟨h.1, hslash, h.2.1, h.2.2⟩
    · rintro ⟨hne, -, hdot, hdots⟩
      simp only [List.mem_cons, List.not_mem_nil, or_false, not_or]
      exact ⟨hne, hdot, hdots⟩
  · exact Iff.rfl

/-- The segments of a path are taken when the path is a replaced template. -/
theorem exists_replaced_iff : (∃ values, (∀ value ∈ values, IsParameterValue value) ∧
      route.replaced values = some path) ↔
    ∃ word, path = str "/" ++ join (chr '/') word ∧
      List.Forall₂ (Slot.Takes IsParameterValue) (route.segments.map slotOf) word := by
  unfold MarkedRoute.replaced
  simp only [← exists_fill_iff, Option.map_eq_some_iff]
  constructor
  · rintro ⟨values, hvalues, word, hfill, rfl⟩
    exact ⟨word, rfl, values, hvalues, hfill⟩
  · rintro ⟨word, rfl, values, hvalues, hfill⟩
    exact ⟨values, hvalues, word, hfill, rfl⟩

theorem word_facts {word : List Str}
    (h : List.Forall₂ (Slot.Takes IsParameterValue) (route.segments.map slotOf) word) :
    word ≠ [] ∧ ∀ segment ∈ word, chr '/' ∉ segment := by
  constructor
  · rintro rfl
    exact route.template_facts.2.1 (List.map_eq_nil_iff.1 (List.forall₂_nil_right_iff.1 h))
  · intro segment hmem
    exact ((isFillable_segments route).word h segment hmem).noSlash

/-- The path of a word tells the word. -/
theorem word_unique {other : MarkedRoute} {word word' : List Str}
    (h : List.Forall₂ (Slot.Takes IsParameterValue) (route.segments.map slotOf) word)
    (h' : List.Forall₂ (Slot.Takes IsParameterValue) (other.segments.map slotOf) word')
    (heq : str "/" ++ join (chr '/') word = str "/" ++ join (chr '/') word') : word = word' := by
  obtain ⟨hne, hslash⟩ := word_facts h
  obtain ⟨hne', hslash'⟩ := word_facts h'
  have hcut := congrArg (split (chr '/')) (List.append_cancel_left heq)
  rwa [split_join hne hslash, split_join hne' hslash'] at hcut

theorem takes_iff_word : route.Takes method path ↔ method = route.method ∧
    ∃ word, path = str "/" ++ join (chr '/') word ∧
      List.Forall₂ (Slot.Takes IsParameterValue) (route.segments.map slotOf) word := by
  have hfits : ∀ {word : List Str}, (∀ segment ∈ word, chr '/' ∉ segment) →
      (List.Forall₂ FitsSegment route.segments word ↔
        List.Forall₂ (Slot.Takes IsParameterValue) (route.segments.map slotOf) word) := by
    intro word hslash
    rw [List.forall₂_map_left_iff]
    exact forall₂_congr_of_mem fun _ segment hmem => fitsSegment_iff_takes (hslash segment hmem)
  constructor
  · rintro ⟨hmethod, ⟨rest, rfl⟩, h⟩
    refine ⟨hmethod, _, (join_split_slash rest).symm, (hfits fun segment hmem hslash => ?_).1 h⟩
    exact (of_mem_split (List.mem_of_mem_tail hmem) hslash).2 rfl
  · rintro ⟨hmethod, word, rfl, htakes⟩
    obtain ⟨hne, hslash⟩ := word_facts htakes
    refine ⟨hmethod, ⟨_, rfl⟩, ?_⟩
    rw [split_slash, List.tail_cons, split_join hne hslash]
    exact (hfits hslash).2 htakes

/-- A route selects what its template with replaced parameters is. -/
theorem selects_iff_replaced : route.selects method path = true ↔
    method = route.method ∧ ∃ values, (∀ value ∈ values, IsParameterValue value) ∧
      route.replaced values = some path := by
  rw [MarkedRoute.selects_iff, takes_iff_word, exists_replaced_iff]

/-- A path is a replaced template in one way. -/
theorem replaced_injective {values' : List Str} (hvalues : ∀ value ∈ values, IsParameterValue value)
    (hvalues' : ∀ value ∈ values', IsParameterValue value) (h : route.replaced values = some path)
    (h' : route.replaced values' = some path) : values = values' := by
  obtain ⟨word, hfill, rfl⟩ := Option.map_eq_some_iff.1 h
  obtain ⟨word', hfill', heq⟩ := Option.map_eq_some_iff.1 h'
  have hword : word' = word := word_unique (exists_fill_iff.1 ⟨values', hvalues', hfill'⟩)
    (exists_fill_iff.1 ⟨values, hvalues, hfill⟩) heq
  rw [hword] at hfill'
  exact fill_injective hfill hfill'

/-! ## Two routes -/

/-- Two routes have equally many segments, and at no place two different literals. -/
def MarkedRoute.Overlaps (route other : MarkedRoute) : Prop :=
  route.segments.length = other.segments.length ∧
    ∀ i (h : i < route.segments.length) (h' : i < other.segments.length),
      isParameterSegment route.segments[i] = false →
        isParameterSegment other.segments[i] = false → route.segments[i] = other.segments[i]

theorem agrees_iff {segment segment' : Str} : (slotOf segment).Agrees (slotOf segment') ↔
    (isParameterSegment segment = false → isParameterSegment segment' = false →
      segment = segment') := by
  unfold slotOf
  cases isParameterSegment segment with
  | true => exact ⟨fun _ => nofun, fun _ => trivial⟩
  | false =>
    cases isParameterSegment segment' with
    | true => exact ⟨fun _ _ => nofun, fun _ => trivial⟩
    | false => exact ⟨fun h _ _ => h, fun h => h rfl rfl⟩

/-- Two routes select one request when they are of one method and overlap. -/
theorem exists_common_path {other : MarkedRoute} :
    (∃ method path, route.selects method path = true ∧ other.selects method path = true) ↔
      route.method = other.method ∧ route.Overlaps other := by
  have hfiller : ∃ value, IsParameterValue value :=
    ⟨str "a", by decide, by decide, by decide, by decide⟩
  have hagrees : route.Overlaps other ↔
      List.Forall₂ Slot.Agrees (route.segments.map slotOf) (other.segments.map slotOf) := by
    rw [List.forall₂_map_left_iff, List.forall₂_map_right_iff, List.forall₂_iff_get]
    exact and_congr_right fun _ => forall₃_congr fun i _ _ => agrees_iff.symm
  rw [hagrees, ← exists_common_iff hfiller (isFillable_segments route) (isFillable_segments other)]
  simp only [MarkedRoute.selects_iff, takes_iff_word]
  constructor
  · rintro ⟨method, path, ⟨hmethod, word, rfl, htakes⟩, hmethod', word', heq, htakes'⟩
    obtain rfl := word_unique htakes htakes' heq
    exact ⟨hmethod.symm.trans hmethod', word, htakes, htakes'⟩
  · rintro ⟨hmethod, word, htakes, htakes'⟩
    exact ⟨_, _, ⟨rfl, word, rfl, htakes⟩, hmethod, word, rfl, htakes'⟩

end Template

/-! ## The statement -/

/-- What a marked route selects. -/
structure SelectsByTemplate (route : MarkedRoute) : Prop where
  /-- The template is its segments, each after a slash; the constructor accepts it. -/
  written : route.template = str "/" ++ join (chr '/') route.segments ∧
    MarkedRoute.postInit route.method route.template = .ok route
  /-- The route selects its method and its template with every parameter replaced. -/
  selects : ∀ method path, route.selects method path = true ↔ method = route.method ∧
    ∃ values, (∀ value ∈ values, IsParameterValue value) ∧ route.replaced values = some path
  /-- The path says what replaced the parameters. -/
  unique : ∀ path values values', (∀ value ∈ values, IsParameterValue value) →
    (∀ value ∈ values', IsParameterValue value) → route.replaced values = some path →
      route.replaced values' = some path → values = values'
  /-- Another route selects one of its requests when they are of one method and overlap. -/
  overlaps : ∀ other : MarkedRoute,
    (∃ method path, route.selects method path = true ∧ other.selects method path = true) ↔
      route.method = other.method ∧ route.Overlaps other

/-- **A marked route is its template with the parameters replaced**, and a resource marks what one
of its routes selects. -/
theorem marked_routes : (∀ route, SelectsByTemplate route) ∧
    ∀ (resource : ProtectedResource) (method path : Str), resource.marks method path = true ↔
      ∃ route ∈ resource.markedRoutes, route.selects method path = true := by
  refine ⟨fun route => ?_, fun resource method path => List.any_eq_true⟩
  exact
    { written := ⟨route.template_eq, MarkedRoute.postInit_eq_ok.2 ⟨rfl, rfl⟩⟩
      selects := fun method path => selects_iff_replaced
      unique := fun path values values' => replaced_injective
      overlaps := fun other => exists_common_path }

end WebAuth
