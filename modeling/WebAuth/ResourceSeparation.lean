import WebAuth.GateDecision

/-!
# App tokens and resource tokens

The app takes tokens whose one audience is its client id, the resource those whose one audience is
its URL. No constructor compares the two, so a gate keeps the tokens apart where they differ, and
where they do not only by its authorized parties.
-/

namespace WebAuth

open Python Effects Program DecisionTable

/-! ## Who takes a token -/

/-- The authorized parties of the machine and the person paths. -/
def BearerGate.AppParties (policy : BearerGate) (parties : AuthorizedParties) : Prop :=
  (∃ paths, policy.machinePaths = some paths ∧ paths.authorizedParties = parties) ∨
    ∃ paths, policy.personPaths = some paths ∧ paths.authorizedParties = parties

section Takers

variable (py : Platform) (gate : BearerGateMiddleware) (resource : ProtectedResource) (token : Str)

/-- Some run of `verify_access_token` for a machine or person path accepts the token. -/
def TakenByApp : Prop :=
  ∃ parties es verified, gate.policy.AppParties parties ∧
    Path (gate.policy.relyingParty.verifyAccessToken py token parties) es (.ok (.ok verified))

/-- Some run of the resource's check accepts it. -/
def TakenByResource : Prop :=
  ∃ es verified, Path (gate.checkForResource py resource token) es (.ok (.ok verified))

/-- The gate refuses every request that sends the token and belongs to a kind. -/
def RefusedOn (kind : PathKind) : Prop :=
  ∀ scope method es result, scope.method = some method → Sent scope (.ok token) →
    First (PathKind.Takes method (routePath scope)) gate.policy.kinds kind →
    Path (gate.refusal py scope) es (.ok result) →
      result.refusal.isSome ∧ result.scope.bearerGate = scope.bearerGate

/-- A token has one taker, and the paths of the other one refuse it. -/
structure TakenApart : Prop where
  apart : ¬(TakenByApp py gate token ∧ TakenByResource py gate resource token)
  machine : ∀ paths, TakenByResource py gate resource token →
    RefusedOn py gate token (.machine paths)
  person : ∀ paths, TakenByResource py gate resource token →
    RefusedOn py gate token (.person paths)
  entryPoint : TakenByApp py gate token → RefusedOn py gate token (.entryPoint resource)

end Takers

/-- The client id is not the resource's URL, or no party of the resource is one of the app's. -/
def AudiencesApart (policy : BearerGate) (resource : ProtectedResource) : Prop :=
  policy.relyingParty.config.clientId ≠ resource.url ∨
    ∀ parties, policy.AppParties parties →
      ∀ id ∈ parties.clientIds, id ∉ resource.authorizedParties.clientIds

section Apart

variable {py : Platform} {gate : BearerGateMiddleware} {resource : ProtectedResource} {token : Str}

theorem not_taken_twice (hpy : DecodesPayload py) (hapart : AudiencesApart gate.policy resource) :
    ¬(TakenByApp py gate token ∧ TakenByResource py gate resource token) := by
  rintro ⟨⟨parties, es, verified, hparties, happ⟩, es', verified', hresource⟩
  obtain ⟨claims, happ, -⟩ := verifyAccessToken_accepts happ
  obtain ⟨claims', hresource, -⟩ := verifyResourceToken_accepts hresource
  have hclaims := happ.accepts.claims_eq hpy hresource.accepts
  rcases hapart with hne | hnone
  · have haudiences : claims.audiences = claims'.audiences := by
      have h := happ.accepts.audiences
      rw [hclaims, hresource.accepts.audiences] at h
      exact (Except.ok.inj h).symm
    rw [happ.audience, hresource.audience] at haudiences
    exact hne (List.singleton_inj.1 haudiences)
  · obtain ⟨id, hid, hazp⟩ := happ.party
    obtain ⟨id', hid', hazp'⟩ := hresource.party
    rw [hclaims, hazp'] at hazp
    obtain rfl := Json.str.inj (Option.some.inj hazp)
    exact hnone parties hparties _ hid hid'

theorem mem_kinds_machine {paths : MachinePaths} (h : PathKind.machine paths ∈ gate.policy.kinds) :
    gate.policy.machinePaths = some paths := by
  simpa [BearerGate.kinds] using h

theorem mem_kinds_person {paths : PersonPaths} (h : PathKind.person paths ∈ gate.policy.kinds) :
    gate.policy.personPaths = some paths := by
  simpa [BearerGate.kinds] using h

/-- A request sends one token. -/
theorem Sent.token_unique {scope : Scope} {token' : Str} (h : Sent scope (.ok token))
    (h' : Sent scope (.ok token')) : token = token' :=
  Except.ok.inj ((sent_iff.1 h).symm.trans (sent_iff.1 h'))

theorem Sent.not_error {scope : Scope} {refusal : GateRefusal} (h : Sent scope (.ok token))
    (h' : Sent scope (.error refusal)) : False := by
  have := (sent_iff.1 h).symm.trans (sent_iff.1 h')
  cases this

theorem refusedOn_machine {paths : MachinePaths} (h : ¬TakenByApp py gate token) :
    RefusedOn py gate token (.machine paths) := by
  intro scope method es result hmethod hsent hfirst hpath
  obtain ⟨kind, hfirst', hdecides⟩ := (refusal_iff hmethod).1 hpath
  obtain rfl := hfirst'.unique hfirst
  cases hdecides with
  | noCredentials | malformed | noToken | invalidToken | notAdmin => exact ⟨rfl, rfl⟩
  | admin hsent' verification =>
    obtain rfl := hsent.token_unique hsent'
    exact absurd ⟨_, _, _, .inl ⟨paths, mem_kinds_machine hfirst.mem, rfl⟩, verification⟩ h

theorem refusedOn_person {paths : PersonPaths} (h : ¬TakenByApp py gate token) :
    RefusedOn py gate token (.person paths) := by
  intro scope method es result hmethod hsent hfirst hpath
  obtain ⟨kind, hfirst', hdecides⟩ := (refusal_iff hmethod).1 hpath
  obtain rfl := hfirst'.unique hfirst
  cases hdecides with
  | noCredentials hnone => exact (hsent.not_error hnone).elim
  | malformed | noToken | invalidToken | notMember | usernameTaken => exact ⟨rfl, rfl⟩
  | admitted hsent' verification =>
    obtain rfl := hsent.token_unique hsent'
    exact absurd ⟨_, _, _, .inr ⟨paths, mem_kinds_person hfirst.mem, rfl⟩, verification⟩ h

theorem refusedOn_entryPoint (h : ¬TakenByResource py gate resource token) :
    RefusedOn py gate token (.entryPoint resource) := by
  intro scope method es result hmethod hsent hfirst hpath
  obtain ⟨kind, hfirst', hdecides⟩ := (refusal_iff hmethod).1 hpath
  obtain rfl := hfirst'.unique hfirst
  cases hdecides with
  | noCredentials | otherAudience => exact ⟨rfl, rfl⟩
  | common row =>
    cases row with
    | malformed | noToken | invalidToken | lacksScope | notAdmitted => exact ⟨rfl, rfl⟩
    | admitted hsent' verification =>
      obtain rfl := hsent.token_unique hsent'
      exact absurd ⟨_, _, verification⟩ h

/-- Where the audiences or the parties differ, every token is taken apart. -/
theorem takenApart_of_audiences (hpy : DecodesPayload py)
    (hapart : AudiencesApart gate.policy resource) : TakenApart py gate resource token where
  apart := not_taken_twice hpy hapart
  machine := fun _ hresource => refusedOn_machine fun happ =>
    not_taken_twice hpy hapart ⟨happ, hresource⟩
  person := fun _ hresource => refusedOn_person fun happ =>
    not_taken_twice hpy hapart ⟨happ, hresource⟩
  entryPoint := fun happ => refusedOn_entryPoint fun hresource =>
    not_taken_twice hpy hapart ⟨happ, hresource⟩

end Apart

/-! ## A token both take -/

section Accepting

variable (rp : OidcRelyingParty) (audience party scope : Str)

/-- The surroundings in which `"t"` is an access token of the relying party's issuer. -/
abbrev issuedPlatform : Platform := accessPlatform rp.config.issuer audience party scope

/-- What its verification answers. -/
def issuedClaims : VerifiedClaims :=
  ⟨some (str "u"), rp.config.issuer, [audience], 200, 90,
    accessPayload rp.config.issuer audience party scope⟩

/-- A key set with one key. -/
def soleKeySet : KeySet := ⟨[], some ⟨65537, 3⟩, 0⟩

theorem isCurrent_path : Path (isCurrent soleKeySet) [⟨.monotonicClock, .ok (0 : ℚ)⟩] (.ok true) := by
  have hcurrent : decide ((0 : ℚ) - soleKeySet.fetchedAt < keySetTtlSeconds) = true := by
    decide +kernel
  refine ⟨.ok 0, [], rfl, rfl, ?_⟩
  rw [hcurrent]

theorem signingKey_path (py : Platform) (v : JwtVerifier) : Path (signingKey py v none)
    [⟨.readKeySet, .ok (some soleKeySet)⟩, ⟨.monotonicClock, .ok (0 : ℚ)⟩,
      ⟨.monotonicClock, .ok (0 : ℚ)⟩] (.ok ⟨65537, 3⟩) := by
  have hneeds : Path (needsRefresh none (some soleKeySet)) ([⟨.monotonicClock, .ok (0 : ℚ)⟩] ++ [])
      (.ok false) := isCurrent_path.bind_rest.2 ⟨rfl, rfl⟩
  have hkey : Path (keyOf none (some soleKeySet)) ([⟨.monotonicClock, .ok (0 : ℚ)⟩] ++ [])
      (.ok ⟨65537, 3⟩) := isCurrent_path.bind_rest.2 ⟨rfl, rfl⟩
  refine ⟨_, _, rfl, ?_⟩
  exact hneeds.bind_rest.2 hkey

theorem verifiedPayload_issued (key : RSAPublicKey) :
    verifiedPayload (issuedPlatform rp audience party scope) (rp.verifierFor audience) (str "t") key =
      .ok (accessPayload rp.config.issuer audience party scope) := by
  have hdecode : (issuedPlatform rp audience party scope).jwtDecode ⟨str "t", key, [algorithm],
      (rp.verifierFor audience).audiences, (rp.verifierFor audience).issuer, libraryChecks⟩ =
        .ok (accessPayload rp.config.issuer audience party scope) :=
    if_pos ⟨rfl, List.mem_singleton.2 rfl, rfl⟩
  unfold verifiedPayload
  rw [hdecode]

theorem checkedTimeClaims_issued (v : JwtVerifier) :
    Path (checkedTimeClaims v (accessPayload rp.config.issuer audience party scope))
      [⟨.wallClock, .ok (100 : ℚ)⟩] (.ok (200, 90)) := by
  refine ⟨_, _, rfl, ?_⟩
  have hleeway : (0 : ℚ) ≤ v.leewaySeconds := Nat.cast_nonneg _
  have htimes : timesAt v 200 90 none 100 = .ok (200, 90) := by
    unfold timesAt
    dsimp only
    rw [if_neg (by push_cast; linarith), if_neg (by push_cast; linarith)]
  exact path_done.2 ⟨rfl, htimes.symm⟩

/-- The steps of that verification: a current key set, and the second 100. -/
def issuedSteps : List (Event verifierCalls Exn) :=
  [⟨.readKeySet, .ok (some soleKeySet)⟩, ⟨.monotonicClock, .ok (0 : ℚ)⟩,
    ⟨.monotonicClock, .ok (0 : ℚ)⟩] ++ [⟨.wallClock, .ok (100 : ℚ)⟩]

theorem verifiedClaims_issued : Path (verifiedClaims (issuedPlatform rp audience party scope)
    (rp.verifierFor audience) (str "t") (.mediaTypes accessTokenMediaTypes)) issuedSteps
      (.ok (issuedClaims rp audience party scope)) := by
  have hheader : checkedHeader (issuedPlatform rp audience party scope) (str "t")
      (.mediaTypes accessTokenMediaTypes) = .ok none := rfl
  unfold verifiedClaims
  rw [hheader]
  refine (signingKey_path _ _).bind_rest.2 ?_
  rw [verifiedPayload_issued, ← List.append_nil [_]]
  refine (checkedTimeClaims_issued rp audience party scope _).bind_rest.2 ?_
  exact ⟨rfl, rfl⟩

theorem verify_issued : Path (verify (issuedPlatform rp audience party scope)
    (rp.verifierFor audience) (str "t") (.mediaTypes accessTokenMediaTypes)) issuedSteps
      (.ok (.ok (issuedClaims rp audience party scope))) := by
  have hclaims : Path (do
      let claims ← verifiedClaims (issuedPlatform rp audience party scope)
        (rp.verifierFor audience) (str "t") (.mediaTypes accessTokenMediaTypes)
      return (.ok claims : Except RejectionReason VerifiedClaims)) (issuedSteps ++ [])
        (.ok (.ok (issuedClaims rp audience party scope))) :=
    (verifiedClaims_issued rp audience party scope).bind_rest.2 ⟨rfl, rfl⟩
  rw [List.append_nil] at hclaims
  have htypes : requireComparableTypes (.mediaTypes accessTokenMediaTypes) = .ok () := rfl
  unfold verify
  rw [htypes]
  exact hclaims.tryCatch

/-- Among the library's calls a verification takes its own steps. -/
theorem verifyAccessJwt_issued (owner : ℕ) :
    Path (verifyAccessJwt (issuedPlatform rp audience party scope) (rp.verifierFor audience) owner
      (str "t")) (issuedSteps.map (verifierEvent owner))
        (.ok (.ok (issuedClaims rp audience party scope))) := by
  rw [← List.append_nil (issuedSteps.map _)]
  exact (path_of (verify_issued rp audience party scope)).bind_rest.2 ⟨rfl, rfl⟩

/-- The profile of that token for an audience of its own and a party of its own. -/
theorem accessTokenProfile_issued {parties : AuthorizedParties} (hparty : party ∈ parties.clientIds) :
    accessTokenProfile (issuedClaims rp audience party scope) parties audience =
      .ok ⟨str "u", [str "/app/admin"], none⟩ := by
  have hpermits : parties.permits (some (.str party)) = true := List.contains_iff_mem.2 hparty
  have hazp : (accessPayload rp.config.issuer audience party scope).get (str "azp") =
      some (.str party) := rfl
  unfold accessTokenProfile issuedClaims
  dsimp only
  rw [if_neg (not_not.2 rfl), hazp, hpermits]
  rfl

theorem issuedPlatform_decodes : DecodesPayload (issuedPlatform rp audience party scope) := by
  intro d d' claims claims' _ h h'
  simp only [issuedPlatform, accessPlatform] at h h'
  split_ifs at h h'
  rw [← Except.ok.inj h, ← Except.ok.inj h']

/-- A scope token is the whole of what it grants. -/
theorem split_scopeToken (h : isScopeToken scope = true) : split (chr ' ') scope = [scope] := by
  unfold isScopeToken at h
  rw [Bool.and_eq_true, List.all_eq_true] at h
  refine List.splitOn_eq_singleton_of_beq_eq_false fun c hc => ?_
  have hchar := h.2 c hc
  rw [beq_eq_false_iff_ne]
  rintro rfl
  revert hchar
  decide

theorem holdsScope_issued (h : isScopeToken scope = true) :
    holdsScope (issuedClaims rp audience party scope).claims scope = true := by
  have hget : (issuedClaims rp audience party scope).claims.get (str "scope") =
      some (.str scope) := rfl
  unfold holdsScope
  rw [hget]
  dsimp only
  rw [split_scopeToken scope h]
  exact List.contains_iff_mem.2 (List.mem_singleton.2 rfl)

end Accepting

section Exact

variable {gate : BearerGateMiddleware} {resource : ProtectedResource}

/-- The app takes the token of its client id and of a party of its own. -/
theorem takenByApp_issued {parties : AuthorizedParties} {party : Str} (scope : Str)
    (hparties : gate.policy.AppParties parties) (hparty : party ∈ parties.clientIds) :
    TakenByApp (issuedPlatform gate.policy.relyingParty
      gate.policy.relyingParty.config.clientId party scope) gate (str "t") := by
  have hpath : Path (gate.policy.relyingParty.verifyAccessToken (issuedPlatform
      gate.policy.relyingParty gate.policy.relyingParty.config.clientId party scope) (str "t") parties)
        (issuedSteps.map (verifierEvent gate.policy.relyingParty.jwtVerifier) ++ [])
        (.ok (.ok ⟨str "u", [str "/app/admin"], none⟩)) := by
    refine (verifyAccessJwt_issued _ _ party scope _).bind_rest.2 ?_
    dsimp only
    rw [accessTokenProfile_issued _ _ _ _ hparty]
    exact ⟨rfl, rfl⟩
  exact ⟨parties, _, _, hparties, hpath⟩

/-- The resource takes the token of its URL, of its scope and of a party of its own. -/
theorem takenByResource_issued {party : Str}
    (hparty : party ∈ resource.authorizedParties.clientIds) :
    TakenByResource (issuedPlatform gate.policy.relyingParty resource.url party resource.scope)
      gate resource (str "t") := by
  have hpath : Path (gate.checkForResource (issuedPlatform gate.policy.relyingParty resource.url
      party resource.scope) resource (str "t"))
        (issuedSteps.map (verifierEvent gate.resourceVerifier) ++ [])
        (.ok (.ok ⟨str "u", [str "/app/admin"], none⟩)) := by
    refine (verifyAccessJwt_issued _ _ party resource.scope _).bind_rest.2 ?_
    dsimp only
    rw [accessTokenProfile_issued _ _ _ _ hparty]
    dsimp only
    rw [if_pos (holdsScope_issued _ _ _ _ resource.scope_isToken)]
    exact ⟨rfl, rfl⟩
  exact ⟨_, _, hpath⟩

/-- **App tokens and resource tokens are apart** exactly where the client id is not the resource's
URL, or where no client is a party of both. -/
theorem tokens_apart_iff (gate : BearerGateMiddleware) (resource : ProtectedResource) :
    (∀ py, DecodesPayload py → ∀ token, TakenApart py gate resource token) ↔
      AudiencesApart gate.policy resource := by
  constructor
  · intro h
    by_contra hsame
    simp only [AudiencesApart, not_or, not_forall, not_not, ne_eq, exists_prop] at hsame
    obtain ⟨hurl, parties, hparties, party, hparty, hshared⟩ := hsame
    have happ := takenByApp_issued resource.scope hparties hparty
    have hresource : TakenByResource (issuedPlatform gate.policy.relyingParty resource.url party
        resource.scope) gate resource (str "t") := takenByResource_issued hshared
    rw [← hurl] at hresource
    exact (h _ (issuedPlatform_decodes _ _ _ _) (str "t")).apart ⟨happ, hresource⟩
  · intro hapart py hpy token
    exact takenApart_of_audiences hpy hapart

end Exact

/-! ## A client named by the URL -/

/-- A client whose id is the URL of the resource. -/
def urlClient : OidcRelyingParty where
  config := { demoClient with
    clientId := str "https://app.example/mcp"
    clientId_nonempty := by decide }
  clientAuthorization := str "Basic aHR0cHMlM0ElMkYlMkZhcHAuZXhhbXBsZSUyRm1jcDpzZWNyZXQ="
  jwtVerifier := 0
  clientAuthorization_eq := by decide +kernel

/-- The resource at that URL. -/
def urlResource : ProtectedResource where
  url := str "https://app.example/mcp"
  scope := str "mcp"
  requiredGroup := str "/app"
  authorizedParties := machineParties
  requiredGroup_isGroupPath := by
    unfold IsGroupPath
    decide
  url_isEndpoint := by decide +kernel
  url_isResource := by decide +kernel
  scope_isToken := by decide

/-- A gate of that client with a machine path and the resource, one party listed on both. -/
def urlGate : BearerGateMiddleware where
  policy :=
    { relyingParty := urlClient
      admission := groupAdmission
      machinePaths := some ⟨{ exact := [str "/machine"] }, machineParties, machine_nameSome⟩
      resource := some urlResource
      names_kind := .inl rfl
      machine_admins := machine_admins
      issuer_eq := by decide }
  resourceVerifier := 1

/-- One token that this gate's machine path and its resource both take. -/
theorem token_taken_twice :
    DecodesPayload (issuedPlatform urlClient urlResource.url (str "agent") urlResource.scope) ∧
      urlGate.policy.resource = some urlResource ∧
      TakenByApp (issuedPlatform urlClient urlResource.url (str "agent") urlResource.scope) urlGate
        (str "t") ∧
      TakenByResource (issuedPlatform urlClient urlResource.url (str "agent") urlResource.scope)
        urlGate urlResource (str "t") := by
  have hmachine : urlGate.policy.AppParties machineParties := .inl ⟨_, rfl, rfl⟩
  have hagent : str "agent" ∈ machineParties.clientIds := List.mem_singleton.2 rfl
  exact ⟨issuedPlatform_decodes _ _ _ _, rfl, takenByApp_issued _ hmachine hagent,
    takenByResource_issued hagent⟩

end WebAuth
