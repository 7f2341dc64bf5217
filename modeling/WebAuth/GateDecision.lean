import WebAuth.DecisionTable
import WebAuth.GateTables
import WebAuth.TokenUses

/-!
# The decision of the bearer gate

A path that several kinds select belongs to the first of machine path, entry point, marked route and
person path, and the table of that kind decides. A marked route hands a request with nothing for the
resource on, as the gate without marked routes decides it.
-/

namespace WebAuth

open Python Effects Program DecisionTable BearerGateMiddleware

/-! ## The kinds -/

/-- A segment of a path fits one of a template: a parameter takes what is neither empty nor a dot
segment, a literal takes itself. -/
def FitsSegment (templateSegment segment : Str) : Prop :=
  if isParameterSegment templateSegment then segment ∉ [[], str ".", str ".."]
  else segment = templateSegment

/-- The method is the route's, and the segments of the path fit the template's one by one. -/
structure MarkedRoute.Takes (route : MarkedRoute) (method path : Str) : Prop where
  method_eq : method = route.method
  rooted : ∃ rest, path = str "/" ++ rest
  fits : List.Forall₂ FitsSegment (split (chr '/') route.template).tail (split (chr '/') path).tail

/-- The kinds of paths. -/
inductive PathKind where
  | machine (paths : MachinePaths)
  | entryPoint (resource : ProtectedResource)
  | markedRoute (resource : ProtectedResource)
  | person (paths : PersonPaths)
  | ungated

/-- A request belongs to a kind. -/
def PathKind.Takes (method path : Str) : PathKind → Prop
  | machine paths => paths.paths.selects path = true
  | entryPoint resource => path = resource.entryPoint
  | markedRoute resource => ∃ route ∈ resource.markedRoutes, route.Takes method path
  | person paths => paths.paths.selects path = true
  | ungated => True

/-- The kinds of a gate by their precedence. -/
def BearerGate.kinds (policy : BearerGate) : List PathKind :=
  policy.machinePaths.toList.map .machine ++ (policy.resource.toList.map .entryPoint ++
    (policy.resource.toList.map .markedRoute ++
      (policy.personPaths.toList.map .person ++ [.ungated])))

/-- The audience and the authorized parties of a kind. -/
def PathKind.verifiedFor (rp : OidcRelyingParty) : PathKind → Option (Str × AuthorizedParties)
  | machine paths => some (rp.config.clientId, paths.authorizedParties)
  | entryPoint resource => some (resource.url, resource.authorizedParties)
  | markedRoute resource => some (resource.url, resource.authorizedParties)
  | person paths => some (rp.config.clientId, paths.authorizedParties)
  | ungated => none

/-! ## The gate without marked routes -/

/-- The resource without marked routes. -/
def ProtectedResource.unmarked (resource : ProtectedResource) : ProtectedResource :=
  { resource with markedRoutes := [] }

/-- The policy whose resource has no marked routes. -/
def BearerGate.unmarked (policy : BearerGate) : BearerGate :=
  { policy with
    resource := policy.resource.map ProtectedResource.unmarked
    names_kind := by simpa using policy.names_kind }

/-- The same gate with `marked_routes` emptied. -/
def BearerGateMiddleware.unmarked (gate : BearerGateMiddleware) : BearerGateMiddleware :=
  { gate with policy := gate.policy.unmarked }

/-! ## The decision by kind -/

section Decision

variable (py : Platform) (gate : BearerGateMiddleware) (method : Str) (scope : Scope)

/-- What each kind decides. -/
def PathKind.Decides : PathKind → List HostEvent → GateResult → Prop
  | machine paths, es, result => MachineRow py gate paths scope es result
  | entryPoint resource, es, result => EntryPointRow py gate resource method scope es result
  | markedRoute resource, es, result =>
    ResourceRow py gate resource method scope es result ∨
      ∃ es₁ es₂, es = es₁ ++ es₂ ∧ NotForResource py gate resource scope es₁ ∧
        Path (gate.unmarked.refusal py scope) es₂ (.ok result)
  | person paths, es, result => PersonRow py gate paths scope es result
  | ungated, es, result => es = [] ∧ result = ⟨none, scope⟩

/-- The part of the gate that decides a kind. -/
def BearerGateMiddleware.decisionOn : PathKind → Task GateResult
  | .machine paths => gate.machineRefusal py scope paths
  | .entryPoint resource => do
    match ← gate.resourceRefusal py scope resource false with
    | some decided => return decided
    | none => gate.unmarkedRefusal py scope
  | .markedRoute resource => do
    match ← gate.resourceRefusal py scope resource true with
    | some decided => return decided
    | none => gate.unmarkedRefusal py scope
  | .person paths => gate.personRefusal py (markPersonPath scope) paths
  | .ungated => return ⟨none, scope⟩

end Decision

section Precedence

variable {py : Platform} {gate : BearerGateMiddleware} {method path : Str} {scope : Scope}
  {kind : PathKind}

theorem zip_all_iff {α β : Type} {p : α × β → Bool} {xs : List α} {ys : List β} :
    (xs.length = ys.length ∧ (xs.zip ys).all p = true) ↔
      List.Forall₂ (fun y x => p (x, y) = true) ys xs := by
  induction xs generalizing ys with
  | nil => cases ys <;> simp
  | cons x xs ih =>
    cases ys with
    | nil => simp
    | cons y ys =>
      rw [List.forall₂_cons, ← ih]
      simp only [List.length_cons, List.zip_cons_cons, List.all_cons, Bool.and_eq_true]
      constructor
      · rintro ⟨hlength, hhead, htail⟩
        exact ⟨hhead, by omega, htail⟩
      · rintro ⟨hhead, hlength, htail⟩
        exact ⟨by omega, hhead, htail⟩

theorem fitsSegment_iff {templateSegment segment : Str} :
    (if isParameterSegment templateSegment then !([] :: plainDotSegments).contains segment
      else decide (segment = templateSegment)) = true ↔ FitsSegment templateSegment segment := by
  unfold FitsSegment plainDotSegments
  split_ifs with hparameter
  · simp
  · simp

theorem MarkedRoute.selects_iff {route : MarkedRoute} :
    route.selects method path = true ↔ route.Takes method path := by
  unfold MarkedRoute.selects
  dsimp only
  constructor
  · intro h
    split_ifs at h with hguard
    rw [Bool.or_eq_true, not_or, decide_eq_true_eq, not_not, Bool.not_eq_true', Bool.not_eq_false]
      at hguard
    rw [Bool.and_eq_true, decide_eq_true_eq, zip_all_iff] at h
    exact ⟨hguard.1, startsWith_iff.1 hguard.2, h.imp fun _ _ => fitsSegment_iff.1⟩
  · rintro ⟨hmethod, hrooted, hfits⟩
    rw [if_neg (by simp [hmethod, startsWith_iff.2 hrooted]), Bool.and_eq_true, decide_eq_true_eq,
      zip_all_iff]
    exact hfits.imp fun _ _ => fitsSegment_iff.2

theorem ProtectedResource.marks_iff {resource : ProtectedResource} :
    resource.marks method path = true ↔ ∃ route ∈ resource.markedRoutes, route.Takes method path := by
  unfold ProtectedResource.marks
  rw [List.any_eq_true]
  simp only [MarkedRoute.selects_iff]

theorem onResource_entryPoint {resource : ProtectedResource}
    (h : routePath scope = resource.entryPoint) : onResource scope resource = .ok (some false) := by
  unfold onResource
  rw [if_pos (entryPointRule_selects.2 h)]

theorem onResource_other {resource : ProtectedResource} (hmethod : scope.method = some method)
    (h : routePath scope ≠ resource.entryPoint) :
    onResource scope resource =
      .ok (if resource.marks method (routePath scope) then some true else none) := by
  unfold onResource
  rw [if_neg (mt entryPointRule_selects.1 h), Scope.requestMethod, hmethod]
  rfl

/-- Off the entry point and the marked routes a gate decides as one without a resource. -/
theorem otherRefusal_of_untaken (hmethod : scope.method = some method)
    (h : ∀ resource, gate.policy.resource = some resource → routePath scope ≠ resource.entryPoint ∧
      ¬∃ route ∈ resource.markedRoutes, route.Takes method (routePath scope)) :
    gate.otherRefusal py scope = gate.unmarkedRefusal py scope := by
  unfold otherRefusal
  cases hresource : gate.policy.resource with
  | none => rfl
  | some resource =>
    obtain ⟨hentry, hmarks⟩ := h resource hresource
    dsimp only
    rw [onResource_other hmethod hentry, if_neg (mt ProtectedResource.marks_iff.1 hmarks)]
    rfl

theorem unmarkedRefusal_person {paths : PersonPaths} (hpaths : gate.policy.personPaths = some paths)
    (htakes : paths.paths.selects (routePath scope) = true) :
    gate.unmarkedRefusal py scope = gate.personRefusal py (markPersonPath scope) paths := by
  unfold unmarkedRefusal
  rw [hpaths, Option.filter_some, if_pos htakes]

theorem unmarkedRefusal_ungated (h : ∀ paths, gate.policy.personPaths = some paths →
      ¬paths.paths.selects (routePath scope) = true) :
    gate.unmarkedRefusal py scope = (return ⟨none, scope⟩ : Task GateResult) := by
  unfold unmarkedRefusal
  cases hpaths : gate.policy.personPaths with
  | none => rfl
  | some paths => rw [Option.filter_some, if_neg (h paths hpaths)]

theorem refusal_machine {paths : MachinePaths} (hpaths : gate.policy.machinePaths = some paths)
    (htakes : paths.paths.selects (routePath scope) = true) :
    gate.refusal py scope = gate.machineRefusal py scope paths := by
  unfold BearerGateMiddleware.refusal
  rw [hpaths, Option.filter_some, if_pos htakes]

theorem refusal_other (h : ∀ paths, gate.policy.machinePaths = some paths →
      ¬paths.paths.selects (routePath scope) = true) :
    gate.refusal py scope = gate.otherRefusal py scope := by
  unfold BearerGateMiddleware.refusal
  cases hpaths : gate.policy.machinePaths with
  | none => rfl
  | some paths => rw [Option.filter_some, if_neg (h paths hpaths)]

/-- **The first kind that takes a request decides it.** -/
theorem refusal_of_first (hmethod : scope.method = some method)
    (h : First (PathKind.Takes method (routePath scope)) gate.policy.kinds kind) :
    gate.refusal py scope = gate.decisionOn py scope kind := by
  unfold BearerGate.kinds at h
  rcases first_option.1 h with ⟨paths, hpaths, htakes, rfl⟩ | ⟨hmachine, h⟩
  · exact refusal_machine hpaths htakes
  rw [refusal_other hmachine]
  rcases first_option.1 h with ⟨resource, hresource, htakes, rfl⟩ | ⟨hentry, h⟩
  · unfold otherRefusal
    rw [hresource]
    dsimp only
    rw [onResource_entryPoint htakes]
    rfl
  rcases first_option.1 h with ⟨resource, hresource, htakes, rfl⟩ | ⟨hmarked, h⟩
  · unfold otherRefusal
    rw [hresource]
    dsimp only
    rw [onResource_other hmethod (hentry resource hresource),
      if_pos (ProtectedResource.marks_iff.2 htakes)]
    rfl
  rw [otherRefusal_of_untaken hmethod fun resource hresource =>
    ⟨hentry resource hresource, hmarked resource hresource⟩]
  rcases first_option.1 h with ⟨paths, hpaths, htakes, rfl⟩ | ⟨hperson, h⟩
  · exact unmarkedRefusal_person hpaths htakes
  · rcases first_cons.1 h with ⟨-, rfl⟩ | ⟨hungated, -⟩
    · exact unmarkedRefusal_ungated hperson
    · exact absurd trivial hungated

/-- Some kind takes every request. -/
theorem exists_first (policy : BearerGate) (method path : Str) :
    ∃ kind, First (PathKind.Takes method path) policy.kinds kind := by
  refine First.exists_of_mem (a := .ungated) ?_ trivial
  simp [BearerGate.kinds]

/-- On a marked route the gate without marked routes goes on where the resource decides nothing. -/
theorem unmarked_refusal {resource : ProtectedResource} (hmethod : scope.method = some method)
    (h : First (PathKind.Takes method (routePath scope)) gate.policy.kinds (.markedRoute resource)) :
    gate.unmarked.refusal py scope = gate.unmarkedRefusal py scope := by
  unfold BearerGate.kinds at h
  rcases first_option.1 h with ⟨_, _, _, hkind⟩ | ⟨hmachine, h⟩
  · cases hkind
  rcases first_option.1 h with ⟨_, _, _, hkind⟩ | ⟨hentry, h⟩
  · cases hkind
  have hother : gate.unmarked.refusal py scope = gate.unmarked.otherRefusal py scope :=
    refusal_other hmachine
  rw [hother]
  refine otherRefusal_of_untaken hmethod fun resource' hresource' => ?_
  obtain ⟨own, hown, rfl⟩ := Option.map_eq_some_iff.1 hresource'
  exact ⟨hentry own hown, by simp [ProtectedResource.unmarked]⟩

end Precedence

/-! ## The decision -/

section Decided

variable {py : Platform} {gate : BearerGateMiddleware} {method : Str} {scope : Scope}
  {kind : PathKind} {es : List HostEvent} {result : GateResult}

/-- The table of a kind is what the gate's part for it answers. -/
theorem decisionOn_iff (hmethod : scope.method = some method)
    (h : First (PathKind.Takes method (routePath scope)) gate.policy.kinds kind) :
    Path (gate.decisionOn py scope kind) es (.ok result) ↔
      kind.Decides py gate method scope es result := by
  cases kind with
  | machine paths => exact machineRefusal_iff
  | person paths => exact personRefusal_iff
  | ungated => exact ⟨fun ⟨hes, hresult⟩ => ⟨hes, Except.ok.inj hresult⟩,
      fun ⟨hes, hresult⟩ => ⟨hes, congrArg _ hresult⟩⟩
  | entryPoint resource =>
    unfold decisionOn PathKind.Decides
    constructor
    · intro hpath
      obtain ⟨es₁, es₂, decided, rfl, hresource, hafter⟩ := path_bind_ok hpath
      obtain ⟨own, rfl, hrow⟩ := (entryPoint_iff hmethod).1 hresource
      obtain ⟨rfl, hresult⟩ := hafter
      obtain rfl := Except.ok.inj hresult
      rw [List.append_nil]
      exact hrow
    · intro hrow
      have hpath := (entryPoint_iff hmethod).2 ⟨result, rfl, hrow⟩
      rw [← List.append_nil es]
      exact hpath.bind_rest.2 ⟨rfl, rfl⟩
  | markedRoute resource =>
    unfold decisionOn PathKind.Decides
    rw [unmarked_refusal hmethod h]
    constructor
    · intro hpath
      obtain ⟨es₁, es₂, decided, rfl, hresource, hafter⟩ := path_bind_ok hpath
      rcases (markedRoute_iff hmethod).1 hresource with ⟨own, rfl, hrow⟩ | ⟨rfl, hnothing⟩
      · obtain ⟨rfl, hresult⟩ := hafter
        obtain rfl := Except.ok.inj hresult
        rw [List.append_nil]
        exact .inl hrow
      · exact .inr ⟨es₁, es₂, rfl, hnothing, hafter⟩
    · rintro (hrow | ⟨es₁, es₂, rfl, hnothing, hrest⟩)
      · have hpath := (markedRoute_iff hmethod).2 (.inl ⟨result, rfl, hrow⟩)
        rw [← List.append_nil es]
        exact hpath.bind_rest.2 ⟨rfl, rfl⟩
      · exact hnothing.path.bind_rest.2 hrest

/-- The first kind is the one whose table decides. -/
theorem refusal_iff (hmethod : scope.method = some method) :
    Path (gate.refusal py scope) es (.ok result) ↔
      ∃ kind, First (PathKind.Takes method (routePath scope)) gate.policy.kinds kind ∧
        kind.Decides py gate method scope es result := by
  constructor
  · intro h
    obtain ⟨kind, hfirst⟩ := exists_first gate.policy method (routePath scope)
    rw [refusal_of_first hmethod hfirst] at h
    exact ⟨kind, hfirst, (decisionOn_iff hmethod hfirst).1 h⟩
  · rintro ⟨kind, hfirst, hdecides⟩
    rw [refusal_of_first hmethod hfirst]
    exact (decisionOn_iff hmethod hfirst).2 hdecides

/-- What a marked route hands on is decided, and fails, as by the gate without marked routes. -/
theorem handed_on_iff {resource : ProtectedResource} {es₁ es₂ : List HostEvent}
    {r : Except Exn GateResult} (hmethod : scope.method = some method)
    (h : First (PathKind.Takes method (routePath scope)) gate.policy.kinds (.markedRoute resource))
    (hnothing : NotForResource py gate resource scope es₁) :
    Path (gate.refusal py scope) (es₁ ++ es₂) r ↔ Path (gate.unmarked.refusal py scope) es₂ r := by
  rw [refusal_of_first hmethod h, unmarked_refusal hmethod h]
  exact hnothing.path.bind_rest

end Decided

/-! ## What a decision is made from -/

/-- The request's token was verified for an audience and authorized parties, and `verified` is what
it says. -/
def VerifiedFor (py : Platform) (rp : OidcRelyingParty) (scope : Scope) (audience : Str)
    (parties : AuthorizedParties) (verified : VerifiedAccessToken) : Prop :=
  ∃ token claims, Sent scope (.ok token) ∧
    AcceptedToken py (rp.verifierFor audience) token parties audience claims ∧
    accessTokenProfile claims parties audience = .ok verified

/-- A kind vouches for a result that records nothing, and for one that passes once a token is
verified for the kind's own audience and parties. -/
def PathKind.Vouches (py : Platform) (rp : OidcRelyingParty) (scope : Scope) (kind : PathKind)
    (result : GateResult) : Prop :=
  result.scope.bearerGate = scope.bearerGate ∨
    (result.refusal = none ∧ ∃ audience parties verified,
      kind.verifiedFor rp = some (audience, parties) ∧
        VerifiedFor py rp scope audience parties verified)

/-- The kind that settles a request: the first one, and past a marked route that hands the request
on the first one of the gate without marked routes. -/
def BearerGate.Settles (policy : BearerGate) (method path : Str) (kind : PathKind) : Prop :=
  First (PathKind.Takes method path) policy.kinds kind ∨
    (∃ resource, First (PathKind.Takes method path) policy.kinds (.markedRoute resource)) ∧
      First (PathKind.Takes method path) policy.unmarked.kinds kind

section Vouched

variable {py : Platform} {gate : BearerGateMiddleware} {method : Str} {scope : Scope}
  {es : List HostEvent} {result : GateResult}

theorem MachineRow.vouches {paths : MachinePaths} (h : MachineRow py gate paths scope es result) :
    (PathKind.machine paths).Vouches py gate.policy.relyingParty scope result := by
  cases h with
  | noCredentials | malformed | noToken | invalidToken | notAdmin => exact .inl rfl
  | admin h verification =>
    obtain ⟨claims, haccepted, hprofile⟩ := verifyAccessToken_accepts verification
    exact .inr ⟨rfl, _, _, _, rfl, _, claims, h, haccepted, hprofile⟩

/-- A machine path lets an admin's token of its own parties by, and nothing else. -/
theorem MachineRow.passed {paths : MachinePaths} (h : MachineRow py gate paths scope es result)
    (hpassed : result.refusal = none) :
    ∃ verified, VerifiedFor py gate.policy.relyingParty scope
      gate.policy.relyingParty.config.clientId paths.authorizedParties verified ∧
      IsAdmin gate.policy.admission verified.groups := by
  cases h with
  | noCredentials | malformed | noToken | invalidToken | notAdmin => cases hpassed
  | admin h verification isAdmin =>
    obtain ⟨claims, haccepted, hprofile⟩ := verifyAccessToken_accepts verification
    exact ⟨_, ⟨_, claims, h, haccepted, hprofile⟩, isAdmin⟩

theorem ResourceRow.vouches {resource : ProtectedResource} {kind : PathKind}
    (hkind : kind.verifiedFor gate.policy.relyingParty =
      some (resource.url, resource.authorizedParties))
    (h : ResourceRow py gate resource method scope es result) :
    kind.Vouches py gate.policy.relyingParty scope result := by
  cases h with
  | malformed | noToken | invalidToken | lacksScope | notAdmitted => exact .inl rfl
  | admitted h verification =>
    obtain ⟨claims, haccepted, hprofile, -⟩ := verifyResourceToken_accepts verification
    exact .inr ⟨rfl, _, _, _, hkind, _, claims, h, haccepted, hprofile⟩

theorem EntryPointRow.vouches {resource : ProtectedResource}
    (h : EntryPointRow py gate resource method scope es result) :
    (PathKind.entryPoint resource).Vouches py gate.policy.relyingParty scope result := by
  cases h with
  | common row => exact row.vouches rfl
  | noCredentials | otherAudience => exact .inl rfl

theorem PersonRow.vouches {paths : PersonPaths} (h : PersonRow py gate paths scope es result) :
    (PathKind.person paths).Vouches py gate.policy.relyingParty scope result := by
  cases h with
  | noCredentials | malformed | noToken | invalidToken | notMember | usernameTaken => exact .inl rfl
  | admitted h verification =>
    obtain ⟨claims, haccepted, hprofile⟩ := verifyAccessToken_accepts verification
    exact .inr ⟨rfl, _, _, _, rfl, _, claims, h, haccepted, hprofile⟩

/-- A kind vouches for what its table decides, unless it hands the request on. -/
theorem PathKind.Decides.vouches {kind : PathKind}
    (h : kind.Decides py gate method scope es result) :
    kind.Vouches py gate.policy.relyingParty scope result ∨
      (∃ resource, kind = .markedRoute resource) ∧
        ∃ es', Path (gate.unmarked.refusal py scope) es' (.ok result) := by
  cases kind with
  | machine paths => exact .inl (MachineRow.vouches h)
  | entryPoint resource => exact .inl (EntryPointRow.vouches h)
  | person paths => exact .inl (PersonRow.vouches h)
  | ungated =>
    obtain ⟨-, rfl⟩ := h
    exact .inl (.inl rfl)
  | markedRoute resource =>
    rcases h with hrow | ⟨es₁, es₂, -, -, hrest⟩
    · exact .inl (hrow.vouches rfl)
    · exact .inr ⟨⟨resource, rfl⟩, es₂, hrest⟩

/-- A gate without marked routes has no kind that hands a request on. -/
theorem unmarked_first {policy : BearerGate} {path : Str} {resource : ProtectedResource}
    (h : First (PathKind.Takes method path) policy.unmarked.kinds (.markedRoute resource)) :
    False := by
  obtain ⟨route, hroute, -⟩ := h.applies
  have hmem := h.mem
  simp only [BearerGate.kinds, BearerGate.unmarked, List.mem_append, List.mem_map,
    Option.mem_toList, Option.map_eq_some_iff, PathKind.markedRoute.injEq, reduceCtorEq,
    List.mem_singleton, and_false, exists_false, false_or, or_false] at hmem
  obtain ⟨_, ⟨own, -, rfl⟩, rfl⟩ := hmem
  cases hroute

/-- The kind that settles a request vouches for its result. -/
theorem refusal_vouches (hmethod : scope.method = some method)
    (h : Path (gate.refusal py scope) es (.ok result)) :
    ∃ kind, gate.policy.Settles method (routePath scope) kind ∧
      kind.Vouches py gate.policy.relyingParty scope result := by
  obtain ⟨kind, hfirst, hdecides⟩ := (refusal_iff hmethod).1 h
  rcases hdecides.vouches with hvouches | ⟨⟨resource, rfl⟩, es', hrest⟩
  · exact ⟨kind, .inl hfirst, hvouches⟩
  · obtain ⟨kind', hfirst', hdecides'⟩ := (refusal_iff hmethod).1 hrest
    rcases hdecides'.vouches with hvouches | ⟨⟨resource', rfl⟩, -⟩
    · exact ⟨kind', .inr ⟨⟨resource, hfirst⟩, hfirst'⟩, hvouches⟩
    · exact (unmarked_first hfirst').elim

/-- **The bearer gate decides by the tables**, the kind chosen by precedence. A marked route hands a
request on that has nothing for the resource, as the gate without marked routes decides it; a
refused request keeps its record; a machine path lets an admin's token of its parties by; and a
record is made of a token verified for the audience and the parties of the kind that settles it. -/
theorem gate_decision (py : Platform) (gate : BearerGateMiddleware)
    (hmethod : scope.method = some method) :
    (∀ es result, Path (gate.refusal py scope) es (.ok result) ↔
      ∃ kind, First (PathKind.Takes method (routePath scope)) gate.policy.kinds kind ∧
        kind.Decides py gate method scope es result) ∧
    (∀ resource es₁, First (PathKind.Takes method (routePath scope)) gate.policy.kinds
        (.markedRoute resource) → NotForResource py gate resource scope es₁ →
      ∀ es₂ r, Path (gate.refusal py scope) (es₁ ++ es₂) r ↔
        Path (gate.unmarked.refusal py scope) es₂ r) ∧
    ∀ es result, Path (gate.refusal py scope) es (.ok result) →
      (result.refusal.isSome → result.scope.bearerGate = scope.bearerGate) ∧
      (∀ paths, First (PathKind.Takes method (routePath scope)) gate.policy.kinds (.machine paths) →
        result.refusal = none → ∃ verified, VerifiedFor py gate.policy.relyingParty scope
          gate.policy.relyingParty.config.clientId paths.authorizedParties verified ∧
          IsAdmin gate.policy.admission verified.groups) ∧
      (result.scope.bearerGate ≠ scope.bearerGate →
        ∃ kind audience parties verified, gate.policy.Settles method (routePath scope) kind ∧
          kind.verifiedFor gate.policy.relyingParty = some (audience, parties) ∧
          VerifiedFor py gate.policy.relyingParty scope audience parties verified) := by
  refine ⟨fun es result => refusal_iff hmethod, fun resource es₁ hfirst hnothing es₂ r =>
    handed_on_iff hmethod hfirst hnothing, fun es result hpath => ?_⟩
  obtain ⟨kind, hsettles, hvouches⟩ := refusal_vouches hmethod hpath
  refine ⟨fun hrefused => ?_, fun paths hfirst hpassed => ?_, fun hrecorded => ?_⟩
  · rcases hvouches with hsame | ⟨hnone, -⟩
    · exact hsame
    · rw [hnone] at hrefused
      cases hrefused
  · obtain ⟨kind', hfirst', hdecides⟩ := (refusal_iff hmethod).1 hpath
    obtain rfl := hfirst'.unique hfirst
    exact MachineRow.passed hdecides hpassed
  · rcases hvouches with hsame | ⟨-, audience, parties, verified, hkind, hverified⟩
    · exact absurd hsame hrecorded
    · exact ⟨kind, audience, parties, verified, hsettles, hkind, hverified⟩

end Vouched

/-! ## A run -/

/-- The payload of an access token of an audience and a party. -/
def accessPayload (issuer audience party scope : Str) : Dict :=
  [(str "iss", .str issuer), (str "aud", .str audience), (str "iat", .int 90),
    (str "exp", .int 200), (str "sub", .str (str "u")), (str "azp", .str party),
    (str "scope", .str scope), (str "groups", .arr [.str (str "/app/admin")])]

/-- The surroundings in which `"t"` is an access token of that payload. -/
def accessPlatform (issuer audience party scope : Str) : Platform :=
  { demoPlatform with
    getUnverifiedHeader := fun token =>
      if token = str "t" then .ok (typedHeader "at+jwt") else .error .invalidToken
    jwtDecode := fun d =>
      if d.token = str "t" ∧ audience ∈ d.audience ∧ d.issuer = issuer then
        .ok (accessPayload issuer audience party scope)
      else .error .invalidAudience }

/-- The members of `/app`, the ones of `/app/admin` as admins. -/
def groupAdmission : AdmissionConfig where
  boundIssuer := str "https://issuer"
  loginGroup := some (str "/app")
  adminGroup := some (str "/app/admin")
  login_isGroupPath := by
    intro group h
    obtain rfl := Option.some.inj h
    unfold IsGroupPath
    decide
  admin_isGroupPath := by
    intro group h
    obtain rfl := Option.some.inj h
    unfold IsGroupPath
    decide
  admin_below := by
    intro login admin hlogin hadmin
    obtain rfl := Option.some.inj hlogin
    obtain rfl := Option.some.inj hadmin
    decide

/-- The parties of a machine path. -/
def machineParties : AuthorizedParties := ⟨[str "agent"], by decide, by decide⟩

theorem machine_nameSome : ({ exact := [str "/machine"] } : PathRules).NameSome :=
  .inl (List.cons_ne_nil _ _)

theorem machine_admins : (some (⟨{ exact := [str "/machine"] }, machineParties, machine_nameSome⟩ :
    MachinePaths)).isSome → groupAdmission.adminGroup.isSome := fun _ => rfl

/-- A gate with one machine path. -/
def machineGate : BearerGateMiddleware where
  policy :=
    { relyingParty := demoRelyingParty
      admission := groupAdmission
      machinePaths := some ⟨{ exact := [str "/machine"] }, machineParties, machine_nameSome⟩
      names_kind := .inl rfl
      machine_admins := machine_admins
      issuer_eq := by decide }
  resourceVerifier := 1

/-- A request of that path with a token. -/
def machineScope : Scope where
  type := str "http"
  app := some ⟨0, none⟩
  method := some (str "POST")
  path := str "/machine"
  rawPath := none
  rootPath := []
  queryString := []
  urlQuery := none
  queryParams := []
  headers := [(encodeLatin1 (str "authorization"), encodeLatin1 (str "Bearer t"))]

theorem gate_decision_of_machine :
    ∃ es result, Path (machineGate.refusal (accessPlatform (str "https://issuer") (str "client")
        (str "agent") []) machineScope) es (.ok result) ∧ result.refusal = none ∧
      ∃ verified, VerifiedFor (accessPlatform (str "https://issuer") (str "client") (str "agent") [])
        demoRelyingParty machineScope (str "client") machineParties verified ∧
        IsAdmin groupAdmission verified.groups := by
  have hpath := path_play quietHost (machineGate.refusal (accessPlatform (str "https://issuer")
    (str "client") (str "agent") []) machineScope) ()
  have hpassed : (play quietHost (machineGate.refusal (accessPlatform (str "https://issuer")
      (str "client") (str "agent") []) machineScope) ()).2.toOption.any
        (fun result => result.refusal.isNone) = true := by decide +kernel
  cases houtcome : (play quietHost (machineGate.refusal (accessPlatform (str "https://issuer")
      (str "client") (str "agent") []) machineScope) ()).2 with
  | error e =>
    rw [houtcome] at hpassed
    cases hpassed
  | ok result =>
    rw [houtcome] at hpassed hpath
    have hnone : result.refusal = none := Option.isNone_iff_eq_none.1 hpassed
    have hkind : First (PathKind.Takes (str "POST") (routePath machineScope))
        machineGate.policy.kinds
        (.machine ⟨{ exact := [str "/machine"] }, machineParties, .inl (by simp)⟩) :=
      .here (by
        unfold PathKind.Takes
        decide)
    have hmethod : machineScope.method = some (str "POST") := rfl
    obtain ⟨-, -, hruns⟩ := gate_decision (accessPlatform (str "https://issuer") (str "client")
      (str "agent") []) machineGate hmethod
    exact ⟨_, result, hpath, hnone, (hruns _ result hpath).2.1 _ hkind hnone⟩

end WebAuth
