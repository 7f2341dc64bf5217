import WebAuth.CookieGates
import WebAuth.Effects.Checks
import WebAuth.GateDecision
import WebAuth.HostOperations
import WebAuth.SessionCookies

/-!
# Every way into the application

A request enters the application with an admission of the bearer gate that holds for it, or from
the site's own pages and either to a path that needs no session or with a session admitted in one
transaction. What is refused before the session gate costs no session transaction.
-/

namespace WebAuth

open Python Effects Program

/-! ## The ways in -/

section Ways

variable (py : Platform)

/-- The headers say that a request comes from a page of the site. -/
def FromOwnPage (scope : Scope) : Prop :=
  scope.header (str "sec-fetch-site") = some (str "same-origin") ∨
    (scope.header (str "sec-fetch-site") = none ∨
      scope.header (str "sec-fetch-site") = some (str "same-site")) ∧
    ∃ origin config, scope.getlist (str "origin") = [origin] ∧ webAuthConfig scope = .ok config ∧
      originIsAllowed py origin config.value = true

/-- A request that changes no state, is exempt from the check, or comes from an own page. -/
def Provenance (policy : CsrfPolicy) (method : Str) (scope : Scope) : Prop :=
  method ∉ mutatingMethods ∨ policy.exempt.selects (routePath scope) = true ∨ FromOwnPage py scope

/-- A path without a dot segment that a public rule names for the method. -/
def SessionGate.Public (gate : SessionGate) (method path : Str) : Prop :=
  hasDotSegment path = false ∧ ∃ rule ∈ gate.publicRules, rule.appliesTo py path method = true

/-- A path without a dot segment that is optional. -/
def SessionGate.Optional (gate : SessionGate) (path : Str) : Prop :=
  hasDotSegment path = false ∧ gate.optionalPaths.selects path = true

/-- `admit_session` answered an account, its renewal stored, in an entry of the session transaction
whose exit returned. -/
def AdmittedIn (es : List HostEvent) (config : WebAuthConfig) (sessionId : Str)
    (user : AuthenticatedUser) : Prop :=
  ∃ before inner after, es = before ++ (⟨.enter .session, .ok ()⟩ ::
      (inner ++ [⟨.leave .session true, .ok ()⟩])) ++ after ∧
    Path (admitSession config sessionId) inner (.ok (.ok user)) ∧
    ∃ expiresAt, (⟨.touch sessionId expiresAt, .ok (.bool true)⟩ : HostEvent) ∈ inner

/-- The ways into the application. -/
inductive MayEnter (gate : BearerGateMiddleware) (csrf : CsrfPolicy) (session : SessionGate)
    (method : Str) (scope : Scope) (es : List HostEvent) (entered : Scope) : Prop
  | byToken {record : BearerAdmission} {run rest : List HostEvent} (within : es = run ++ rest)
      (passed : Path (gate.refusal py scope) run (.ok ⟨none, entered⟩))
      (holds : bearerAdmission py entered = some record)
      (recorded : scope.bearerGate ≠ some record → ∃ kind audience parties verified,
        gate.policy.Settles method (routePath scope) kind ∧
          kind.verifiedFor gate.policy.relyingParty = some (audience, parties) ∧
          VerifiedFor py gate.policy.relyingParty scope audience parties verified)
  | toPublic (provenance : Provenance py csrf method scope)
      (named : session.Public py method (routePath scope))
  | toOptional (provenance : Provenance py csrf method scope)
      (named : session.Optional (routePath scope))
  | bySession {config : Ref WebAuthConfig} {sessionId : Str} {user : AuthenticatedUser}
      (provenance : Provenance py csrf method scope) (configured : webAuthConfig scope = .ok config)
      (reads : readSessionCookie py scope config.value = .ok (.ok sessionId))
      (admitted : AdmittedIn es config.value sessionId user)

/-- What stands before a session transaction: the bearer gate passed the request on without an
admission that holds for it, the request comes from an own page where it has to, the path is not
public, and the cookie names a session. -/
structure AsksSession (gate : BearerGateMiddleware) (csrf : CsrfPolicy) (session : SessionGate)
    (method : Str) (scope : Scope) (es : List HostEvent) : Prop where
  passed : ∃ run rest scope', es = run ++ rest ∧
    Path (gate.refusal py scope) run (.ok ⟨none, scope'⟩) ∧ bearerAdmission py scope' = none
  provenance : Provenance py csrf method scope
  gated : ¬session.Public py method (routePath scope)
  reads : ∃ config sessionId, webAuthConfig scope = .ok config ∧
    readSessionCookie py scope config.value = .ok (.ok sessionId)

/-- Whether an event asks for the session transaction. -/
def entersSession (e : HostEvent) : Bool :=
  match e.call with
  | .enter .session => true
  | _ => false

/-- What the calls of one request come to. -/
structure Mediated (gate : BearerGateMiddleware) (csrf : CsrfPolicy) (session : SessionGate)
    (method : Str) (scope : Scope) (es : List HostEvent) : Prop where
  enters : ∀ entered ans, (⟨.enterApp entered, ans⟩ : HostEvent) ∈ es →
    MayEnter py gate csrf session method scope es entered
  once : es.countP entersSession ≤ 1
  asks : (∃ e ∈ es, entersSession e = true) → AsksSession py gate csrf session method scope es

end Ways

/-! ## What the bearer gate leaves -/

/-- The calls before the session gate: none enters the application or the session transaction. -/
def HostCall.BeforeSession : HostCall → Prop
  | enter .session => False
  | enterApp _ => False
  | _ => True

/-- A request but for what the bearer gate writes into it. -/
def SameRequest (scope scope' : Scope) : Prop :=
  ∃ record mark, scope' = { scope with bearerGate := record, personPath := mark }

section Gate

variable {py : Platform} {gate : BearerGateMiddleware} {method : Str} {scope scope' : Scope}
  {es : List HostEvent} {result : GateResult} {r : Except Exn GateResult}

theorem RecordedFor.sameRequest {principal : Principal} {method : Option Str} {mark : Bool}
    (h : RecordedFor py { scope with personPath := mark } principal method scope') :
    SameRequest scope scope' := by
  obtain ⟨app, line, -, -, rfl⟩ := h
  exact ⟨_, mark, rfl⟩

theorem SameRequest.marked (mark : Bool) :
    SameRequest scope { scope with personPath := mark } := ⟨_, mark, rfl⟩

theorem SameRequest.refl (scope : Scope) : SameRequest scope scope := ⟨_, _, rfl⟩

theorem SameRequest.type_eq (h : SameRequest scope scope') : scope'.type = scope.type := by
  obtain ⟨_, _, rfl⟩ := h
  rfl

theorem SameRequest.method_eq (h : SameRequest scope scope') : scope'.method = scope.method := by
  obtain ⟨_, _, rfl⟩ := h
  rfl

theorem SameRequest.provenance {csrf : CsrfPolicy} (h : SameRequest scope scope') :
    Provenance py csrf method scope' ↔ Provenance py csrf method scope := by
  obtain ⟨_, _, rfl⟩ := h
  rfl

theorem MachineRow.sameRequest {paths : MachinePaths}
    (h : MachineRow py gate paths scope es result) : SameRequest scope result.scope := by
  cases h with
  | noCredentials | malformed | noToken | invalidToken | notAdmin => exact .refl scope
  | admin _ _ _ record => exact RecordedFor.sameRequest record

theorem ResourceRow.sameRequest {resource : ProtectedResource}
    (h : ResourceRow py gate resource method scope es result) : SameRequest scope result.scope := by
  cases h with
  | malformed | noToken | invalidToken | lacksScope | notAdmitted => exact .refl scope
  | admitted _ _ _ record => exact RecordedFor.sameRequest record

theorem EntryPointRow.sameRequest {resource : ProtectedResource}
    (h : EntryPointRow py gate resource method scope es result) :
    SameRequest scope result.scope := by
  cases h with
  | common row => exact row.sameRequest
  | noCredentials | otherAudience => exact .refl scope

theorem PersonRow.sameRequest {paths : PersonPaths} (h : PersonRow py gate paths scope es result) :
    SameRequest scope result.scope := by
  cases h with
  | noCredentials | malformed | noToken | invalidToken | notMember | usernameTaken =>
    exact .marked true
  | admitted _ _ _ record => exact RecordedFor.sameRequest record

theorem PathKind.Decides.sameRequest {kind : PathKind}
    (h : kind.Decides py gate method scope es result) : SameRequest scope result.scope ∨
      (∃ resource, kind = .markedRoute resource) ∧
        ∃ es', Path (gate.unmarked.refusal py scope) es' (.ok result) := by
  cases kind with
  | machine paths => exact .inl (MachineRow.sameRequest h)
  | entryPoint resource => exact .inl (EntryPointRow.sameRequest h)
  | person paths => exact .inl (PersonRow.sameRequest h)
  | ungated =>
    obtain ⟨-, rfl⟩ := h
    exact .inl (.refl scope)
  | markedRoute resource =>
    rcases h with hrow | ⟨es₁, es₂, -, -, hrest⟩
    · exact .inl hrow.sameRequest
    · exact .inr ⟨⟨resource, rfl⟩, es₂, hrest⟩

/-- The bearer gate changes nothing of a request but its own two keys. -/
theorem refusal_sameRequest (hmethod : scope.method = some method)
    (h : Path (gate.refusal py scope) es (.ok result)) : SameRequest scope result.scope := by
  obtain ⟨kind, hfirst, hdecides⟩ := (refusal_iff hmethod).1 h
  rcases hdecides.sameRequest with hsame | ⟨-, es', hrest⟩
  · exact hsame
  · obtain ⟨kind', hfirst', hdecides'⟩ := (refusal_iff hmethod).1 hrest
    rcases hdecides'.sameRequest with hsame | ⟨⟨resource, rfl⟩, -⟩
    · exact hsame
    · exact (unmarked_first hfirst').elim

end Gate

section Calls

variable (py : Platform) (gate : BearerGateMiddleware)

theorem verifyAccessJwt_before (v : JwtVerifier) (owner : ℕ) (token : Str) :
    Only HostCall.BeforeSession (verifyAccessJwt py v owner token) := by
  refine Only.bind ((of_asks owner _).mono fun c hc => ?_) fun outcome => ?_
  · cases c <;> first | exact hc.elim | trivial
  · cases outcome <;> trivial

theorem verifyAccessToken_before (rp : OidcRelyingParty) (token : Str)
    (parties : AuthorizedParties) :
    Only HostCall.BeforeSession (rp.verifyAccessToken py token parties) := by
  refine Only.bind (verifyAccessJwt_before py _ _ token) fun outcome => ?_
  cases outcome <;> trivial

theorem checkForResource_before (resource : ProtectedResource) (token : Str) :
    Only HostCall.BeforeSession (gate.checkForResource py resource token) := by
  refine Only.bind (verifyAccessJwt_before py _ _ token) fun outcome => ?_
  cases outcome with
  | error refusal => trivial
  | ok claims =>
    dsimp only
    split
    · trivial
    · split_ifs <;> trivial

theorem admitTokenHolder_before (verified : VerifiedAccessToken) (admission : AdmissionConfig) :
    Only HostCall.BeforeSession (admitTokenHolder py verified admission) := by
  unfold admitTokenHolder
  split
  · trivial
  · have hblock (role : Str) : Only HostCall.BeforeSession (tokenHolderOf py verified role) := by
      refine Only.bind ((admitAccount_only py _ role).mono fun c hc => ?_) fun _ => trivial
      cases c <;> first | exact hc.elim | trivial
    have hentry (role : Str) :
        Only HostCall.BeforeSession (within .signIn (tokenHolderOf py verified role)) :=
      Only.within trivial (fun _ => trivial) (hblock role)
    refine Only.andThen (Only.bind (hentry _) fun _ => trivial) (Only.onRaise fun e => ?_)
    cases e <;> trivial

theorem admitResourceHolder_before (verified : VerifiedAccessToken) (requiredGroup : Str)
    (admission : AdmissionConfig) :
    Only HostCall.BeforeSession (admitResourceHolder verified requiredGroup admission) := by
  unfold admitResourceHolder
  split_ifs
  · trivial
  · trivial
  · exact Only.within trivial (fun _ => trivial) (Only.bind (only_invoke trivial) fun _ => trivial)

theorem personRefusal_before (scope : Scope) (paths : PersonPaths) :
    Only HostCall.BeforeSession (gate.personRefusal py scope paths) := by
  unfold BearerGateMiddleware.personRefusal
  split
  · trivial
  · trivial
  · refine Only.bind (verifyAccessToken_before py _ _ _) fun outcome => ?_
    cases outcome with
    | error refusal => trivial
    | ok verified =>
      refine Only.bind (admitTokenHolder_before py verified _) fun holder => ?_
      cases holder with
      | error cause => exact Only.bind (only_done _) fun _ => trivial
      | ok person => exact only_done _

theorem unmarkedRefusal_before (scope : Scope) :
    Only HostCall.BeforeSession (gate.unmarkedRefusal py scope) := by
  unfold BearerGateMiddleware.unmarkedRefusal
  split
  · exact personRefusal_before py gate _ _
  · trivial

theorem resourceRefusal_before (scope : Scope) (resource : ProtectedResource) (marked : Bool) :
    Only HostCall.BeforeSession (gate.resourceRefusal py scope resource marked) := by
  unfold BearerGateMiddleware.resourceRefusal
  dsimp only
  split
  · split_ifs <;> trivial
  · refine Only.bind (checkForResource_before py gate resource _) fun outcome => ?_
    cases outcome with
    | error refusal =>
      dsimp only
      split_ifs <;> trivial
    | ok verified =>
      refine Only.bind (admitResourceHolder_before verified _ _) fun holder => ?_
      cases holder with
      | none => trivial
      | some person =>
        exact Only.bind (only_done _) fun _ => Only.bind (only_done _) fun _ => trivial

theorem machineRefusal_before (scope : Scope) (paths : MachinePaths) :
    Only HostCall.BeforeSession (gate.machineRefusal py scope paths) := by
  unfold BearerGateMiddleware.machineRefusal
  split
  · trivial
  · refine Only.bind (verifyAccessToken_before py _ _ _) fun outcome => ?_
    cases outcome with
    | error refusal => trivial
    | ok verified =>
      dsimp only
      split_ifs
      · trivial
      · exact only_done _

/-- The bearer gate enters neither the application nor the session transaction. -/
theorem bearerGate_before (scope : Scope) :
    Only HostCall.BeforeSession (gate.refusal py scope) := by
  unfold BearerGateMiddleware.refusal
  split
  · exact machineRefusal_before py gate scope _
  unfold BearerGateMiddleware.otherRefusal
  split
  · exact unmarkedRefusal_before py gate scope
  refine Only.bind (only_done _) fun onMarkedRoute => ?_
  cases onMarkedRoute with
  | none => exact unmarkedRefusal_before py gate scope
  | some onMarkedRoute =>
    refine Only.bind (resourceRefusal_before py gate scope _ _) fun decided => ?_
    cases decided with
    | none => exact unmarkedRefusal_before py gate scope
    | some result => trivial

end Calls

/-! ## What the session gate does -/

section Session

variable {py : Platform} {gate : SessionGate} {scope : Scope} {es : List HostEvent}
  {config : WebAuthConfig} {sessionId : Str} {user : AuthenticatedUser}
  {r : Except Exn GateResult}

theorem admitSession_before (config : WebAuthConfig) (sessionId : Str) :
    Only HostCall.BeforeSession (admitSession config sessionId) := by
  refine Only.bind (only_invoke trivial) fun record => ?_
  refine Only.bind (Only.bind (only_invoke trivial) fun _ => only_done _) fun now => ?_
  refine Only.bind (only_done _) fun standing => ?_
  cases standing with
  | none => trivial
  | some record =>
    refine Only.bind (only_done _) fun expiresAt => Only.bind (only_invoke trivial) fun answer => ?_
    refine Only.bind (only_done _) fun renewed => ?_
    cases renewed <;> trivial

/-- An account is answered once its renewal is stored. -/
theorem admitSession_touches (h : Path (admitSession config sessionId) es (.ok (.ok user))) :
    ∃ expiresAt, (⟨.touch sessionId expiresAt, .ok (.bool true)⟩ : HostEvent) ∈ es := by
  unfold admitSession at h
  obtain ⟨es₁, es₂, record, rfl, -, h₁⟩ := path_bind_ok h
  obtain ⟨es₃, es₄, now, rfl, -, h₂⟩ := path_bind_ok h₁
  obtain ⟨es₅, es₆, standing, rfl, -, h₃⟩ := path_bind_ok h₂
  cases standing with
  | none =>
    obtain ⟨-, hanswer⟩ := h₃
    cases hanswer
  | some record =>
    obtain ⟨es₇, es₈, expiresAt, rfl, -, h₄⟩ := path_bind_ok h₃
    obtain ⟨es₉, es₁₀, answer, rfl, htouch, h₅⟩ := path_bind_ok h₄
    obtain ⟨ans, rest, rfl, htouched⟩ := htouch
    obtain ⟨rfl, rfl⟩ := path_done.1 htouched
    rcases path_lift_bind h₅ with ⟨renewed, hrenewed, h₆⟩ | ⟨e, -, -, hr⟩
    swap
    · cases hr
    cases answer with
    | other typeName => cases hrenewed
    | bool b =>
      obtain rfl := Except.ok.inj hrenewed
      cases b with
      | false =>
        obtain ⟨-, hanswer⟩ := h₆
        cases hanswer
      | true => exact ⟨expiresAt, by simp⟩

/-- An admission that is answered was made in an entry whose exit returned. -/
theorem admitWithin_admittedIn
    (h : Path (SessionGate.admitWithin sessionId config) es (.ok (.ok user))) :
    AdmittedIn es config sessionId user := by
  rcases within_path h with ⟨e, -, hr⟩ | ⟨rb, exit, hentry, hr⟩
  · cases hr
  obtain ⟨inner, rfl, hinner⟩ := hentry.split
  cases exit with
  | error e => cases hr
  | ok a =>
    obtain rfl : _ = rb := hr
    exact ⟨[], inner, [], by simp [returned], hinner, admitSession_touches hinner⟩

theorem entersSession_before {e : HostEvent} (h : e.call.BeforeSession) :
    entersSession e = false := by
  obtain ⟨c, ans⟩ := e
  cases c
  case enter transaction =>
    cases transaction
    · exact h.elim
    · rfl
  all_goals rfl

/-- Calls before the session gate count no session transaction and no entry. -/
theorem countP_before (h : ∀ e ∈ es, e.call.BeforeSession) : es.countP entersSession = 0 :=
  List.countP_eq_zero.2 fun e he => by simp [entersSession_before (h e he)]

theorem not_entered_before (h : ∀ e ∈ es, e.call.BeforeSession) {entered : Scope}
    {ans : Except Exn Unit} : (⟨.enterApp entered, ans⟩ : HostEvent) ∉ es := fun he => h _ he

/-- The admission enters the session transaction at most once, and not the application. -/
theorem admitWithin_counts {r : Except Exn SessionDecision}
    (h : Path (SessionGate.admitWithin sessionId config) es r) :
    es.countP entersSession ≤ 1 ∧
      ∀ entered ans, (⟨.enterApp entered, ans⟩ : HostEvent) ∉ es := by
  rcases within_path h with ⟨e, rfl, -⟩ | ⟨rb, exit, hentry, -⟩
  · exact ⟨by simp [entersSession], by simp⟩
  · obtain ⟨inner, rfl, hinner⟩ := hentry.split
    have hbefore := (admitSession_before config sessionId).path hinner
    constructor
    · rw [List.countP_cons, List.countP_append, countP_before hbefore]
      simp [entersSession]
    · intro entered ans
      simp [not_entered_before hbefore]

theorem isPublic_iff {method path : Str} :
    gate.isPublic py path method = true ↔ gate.Public py method path := by
  unfold SessionGate.isPublic SessionGate.Public
  rw [Bool.and_eq_true, Bool.not_eq_true', List.any_eq_true]

theorem isOptional_iff {path : Str} : gate.isOptional path = true ↔ gate.Optional path := by
  unfold SessionGate.isOptional SessionGate.Optional
  rw [Bool.and_eq_true, Bool.not_eq_true']

/-- A request without a session is handed on where the path is optional alone. -/
theorem optional_of_passed {config : Ref WebAuthConfig} {reading : Except ConnectionRefusal Str}
    {cause : ConnectionRefusal} {optional : Bool} {passed : Scope}
    (h : gate.refusedOrPassed py scope config reading (.error cause) optional =
      .ok ⟨none, passed⟩) : optional = true := by
  cases optional with
  | true => rfl
  | false =>
    unfold SessionGate.refusedOrPassed at h
    dsimp only at h
    cases hresponse : refusalResponse py scope cause gate.loginRedirect <;>
      · rw [hresponse] at h
        cases h

/-- What the session gate does with a request: it steps aside, decides without a call, or asks for
the session that the cookie names. -/
theorem sessionGate_course (h : Path (gate.refusal py scope) es r) :
    ((∃ record, bearerAdmission py scope = some record) ∧ es = [] ∧ r = .ok ⟨none, scope⟩) ∨
    (bearerAdmission py scope = none ∧ es = [] ∧ ∀ passed, r = .ok ⟨none, passed⟩ →
      ∃ method, scope.method = some method ∧
        (gate.Public py method (routePath scope) ∨ gate.Optional (routePath scope))) ∨
    (bearerAdmission py scope = none ∧ ∃ method config sessionId r₁, scope.method = some method ∧
      ¬gate.Public py method (routePath scope) ∧ webAuthConfig scope = .ok config ∧
      readSessionCookie py scope config.value = .ok (.ok sessionId) ∧
      Path (SessionGate.admitWithin sessionId config.value) es r₁ ∧
      ∀ passed, r = .ok ⟨none, passed⟩ →
        gate.Optional (routePath scope) ∨ ∃ user, r₁ = .ok (.ok user)) := by
  unfold SessionGate.refusal at h
  cases hrecord : bearerAdmission py scope with
  | some record =>
    rw [hrecord] at h
    obtain ⟨rfl, rfl⟩ := h
    exact .inl ⟨⟨record, rfl⟩, rfl, rfl⟩
  | none =>
  rw [hrecord] at h
  rcases path_lift_bind h with ⟨config, hconfig, h⟩ | ⟨e, -, rfl, rfl⟩
  swap
  · exact .inr (.inl ⟨rfl, rfl, fun _ hr => by cases hr⟩)
  rcases path_lift_bind h with ⟨reading, hreading, h⟩ | ⟨e, -, rfl, rfl⟩
  swap
  · exact .inr (.inl ⟨rfl, rfl, fun _ hr => by cases hr⟩)
  rcases path_lift_bind h with ⟨method, hmethod, h⟩ | ⟨e, -, rfl, rfl⟩
  swap
  · exact .inr (.inl ⟨rfl, rfl, fun _ hr => by cases hr⟩)
  replace hmethod : scope.method = some method := orRaise_eq_ok.1 hmethod
  split_ifs at h with hpublic
  · obtain ⟨rfl, -⟩ := h
    exact .inr (.inl ⟨rfl, rfl, fun _ _ => ⟨method, hmethod, .inl (isPublic_iff.1 hpublic)⟩⟩)
  cases reading with
  | error cause =>
    obtain ⟨rfl, hr⟩ := path_done.1 h
    refine .inr (.inl ⟨rfl, rfl, fun passed hpassed => ⟨method, hmethod, .inr ?_⟩⟩)
    exact isOptional_iff.1 (optional_of_passed (hr.symm.trans hpassed))
  | ok sessionId =>
    obtain ⟨es₁, es₂, r₁, rfl, hadmit, h⟩ := path_andThen.1 h
    have hrest : es₂ = [] := by
      cases r₁ with
      | error e => exact h.1
      | ok admission => exact (path_done.1 h).1
    subst hrest
    rw [List.append_nil]
    refine .inr (.inr ⟨rfl, method, config, sessionId, r₁, hmethod, mt isPublic_iff.2 hpublic,
      hconfig, hreading, hadmit, fun passed hpassed => ?_⟩)
    subst hpassed
    rcases r₁ with e | cause | user
    · cases h.2
    · exact .inl (isOptional_iff.1 (optional_of_passed (path_done.1 h).2.symm))
    · exact .inr ⟨user, rfl⟩

end Session

/-! ## The layers -/

section Layers

variable {py : Platform} {policies : LibraryPolicies} {gate : BearerGateMiddleware}
  {session : SessionGate} {csrf : CsrfPolicy} {method : Str} {scope passed : Scope}
  {es : List HostEvent} {r : Except Exn (Option Response)}

theorem wrap_path {layer : Layer} {app : Scope → Task (Option Response)}
    (hhttp : scope.type = str "http") (h : Path (layer.wrap py app scope) es r) :
    ∃ es₁ es₂ r₁, es = es₁ ++ es₂ ∧ Path (layer.refusal py scope) es₁ r₁ ∧
      (es₂ = [] ∨ ∃ passed, r₁ = .ok ⟨none, passed⟩ ∧ Path (app passed) es₂ r) := by
  unfold Layer.wrap at h
  rw [if_pos hhttp] at h
  obtain ⟨es₁, es₂, r₁, rfl, hrefusal, hrest⟩ := path_andThen.1 h
  refine ⟨es₁, es₂, r₁, rfl, hrefusal, ?_⟩
  rcases r₁ with e | ⟨refusal | response, passed⟩
  · exact .inl hrest.1
  · exact .inr ⟨passed, rfl, hrest⟩
  · exact .inl hrest.1

/-- A layer that calls nothing and passes a request on as it is. -/
def Layer.Silent (py : Platform) (layer : Layer) : Prop :=
  ∀ scope es r, Path (layer.refusal py scope) es r →
    es = [] ∧ ∀ passed, r = .ok ⟨none, passed⟩ → passed = scope

theorem silent_wrap {layer : Layer} {app : Scope → Task (Option Response)}
    (hlayer : layer.Silent py) (hhttp : scope.type = str "http")
    (h : Path (layer.wrap py app scope) es r) :
    es = [] ∨ Path (app scope) es r := by
  obtain ⟨es₁, es₂, r₁, rfl, hrefusal, hrest⟩ := wrap_path hhttp h
  obtain ⟨rfl, hpassed⟩ := hlayer _ _ _ hrefusal
  rcases hrest with rfl | ⟨passed, hr, hrest⟩
  · exact .inl rfl
  · obtain rfl := hpassed passed hr
    exact .inr hrest

theorem silent_securityHeaders (policy : SecurityHeadersPolicy) :
    (Layer.securityHeaders policy).Silent py := by
  rintro scope es r ⟨rfl, rfl⟩
  exact ⟨rfl, fun passed hr => by cases hr; rfl⟩

theorem silent_bodySizeLimit (policy : BodySizePolicy) :
    (Layer.bodySizeLimit policy).Silent py := by
  rintro scope es r ⟨rfl, rfl⟩
  refine ⟨rfl, fun passed hr => ?_⟩
  simp only [Except.ok.injEq, GateResult.mk.injEq] at hr
  exact hr.2.symm

theorem silent_ipRateLimit (verdict : Scope → Except Exn (Option Response)) :
    (Layer.ipRateLimit verdict).Silent py := by
  intro scope es r h
  rcases path_lift_bind h with ⟨refused, -, rfl, rfl⟩ | ⟨e, -, rfl, rfl⟩
  · exact ⟨rfl, fun passed hr => by cases hr; rfl⟩
  · exact ⟨rfl, fun passed hr => by cases hr⟩

/-- The layers from the bearer gate on. -/
def gatedApp (py : Platform) (gate : BearerGateMiddleware) (csrf : CsrfPolicy)
    (session : SessionGate) : Scope → Task (Option Response) :=
  (Layer.bearerGate gate).wrap py ((Layer.csrfOrigin csrf).wrap py
    ((Layer.sessionGate session).wrap py hostApp))

/-- Before the bearer gate a request is refused without a call or handed on as it is. -/
theorem serve_path (hhttp : scope.type = str "http") (hgate : policies.bearerGate = some gate)
    (hsession : policies.sessionGate = some session) (h : Path (policies.serve py scope) es r) :
    es = [] ∨ Path (gatedApp py gate policies.csrfOrigin session scope) es r := by
  unfold LibraryPolicies.serve LibraryPolicies.layers at h
  rw [hgate, hsession] at h
  rcases silent_wrap (silent_securityHeaders _) hhttp h with hes | h
  · exact .inl hes
  have hlimited : es = [] ∨ Path (((policies.rateLimit.map Layer.ipRateLimit).toList ++
      [Layer.bearerGate gate] ++ [Layer.csrfOrigin policies.csrfOrigin] ++
        [Layer.sessionGate session]).foldr (fun layer app => layer.wrap py app) hostApp scope)
      es r := by
    cases hbody : policies.bodySize with
    | none =>
      rw [hbody] at h
      exact .inr h
    | some policy =>
      rw [hbody] at h
      exact silent_wrap (silent_bodySizeLimit policy) hhttp h
  rcases hlimited with hes | h
  · exact .inl hes
  cases hlimit : policies.rateLimit with
  | none =>
    rw [hlimit] at h
    exact .inr h
  | some verdict =>
    rw [hlimit] at h
    exact silent_wrap (silent_ipRateLimit verdict) hhttp h

/-- The check of the headers passes a request from an own page. -/
theorem originCheck_fromOwnPage (h : originCheckRefusal py scope = .ok none) :
    FromOwnPage py scope := by
  unfold originCheckRefusal at h
  have hallowlist : (scope.header (str "sec-fetch-site")).bind secFetchSiteAllows = none →
      ∃ origin config, scope.getlist (str "origin") = [origin] ∧ webAuthConfig scope = .ok config ∧
        originIsAllowed py origin config.value = true := by
    intro hnone
    rw [hnone] at h
    obtain ⟨config, hconfig, h⟩ := bind_eq_ok.1 h
    unfold originVerdict at h
    rcases horigins : scope.getlist (str "origin") with _ | ⟨origin, _ | ⟨other, rest⟩⟩
    · rw [horigins] at h
      cases h
    · rw [horigins] at h
      dsimp only at h
      by_cases hallowed : originIsAllowed py origin config.value = true
      · exact ⟨origin, config, rfl, hconfig, hallowed⟩
      · rw [if_neg hallowed] at h
        cases h
    · rw [horigins] at h
      cases h
  cases hsite : scope.header (str "sec-fetch-site") with
  | none => exact .inr ⟨.inl hsite, hallowlist (by rw [hsite]; rfl)⟩
  | some site =>
    by_cases hsame : site = str "same-origin"
    · exact .inl (hsame ▸ hsite)
    by_cases hsite' : site = str "same-site"
    · refine .inr ⟨.inr (hsite' ▸ hsite), hallowlist ?_⟩
      rw [hsite, Option.bind_some, secFetchSiteAllows, if_neg hsame, if_pos hsite']
    · rw [hsite, Option.bind_some, secFetchSiteAllows, if_neg hsame, if_neg hsite'] at h
      cases h

theorem csrfOrigin_provenance (hmethod : scope.method = some method)
    (hnone : bearerAdmission py scope = none) (h : csrfOriginRefusal py csrf scope = .ok none) :
    Provenance py csrf method scope := by
  by_cases hmutates : method ∈ mutatingMethods
  swap
  · exact .inl hmutates
  by_cases hexempt : csrf.exempt.selects (routePath scope) = true
  · exact .inr (.inl hexempt)
  refine .inr (.inr (originCheck_fromOwnPage ?_))
  unfold csrfOriginRefusal at h
  obtain ⟨method', hread, h⟩ := bind_eq_ok.1 h
  obtain rfl : method = method' := Option.some.inj (hmethod.symm.trans (orRaise_eq_ok.1 hread))
  rwa [if_pos] at h
  simp [CsrfPolicy.requiresSameOrigin, hmutates, hexempt, hnone]

/-- What the layers from the bearer gate on do: the gate's own run, and where it passes the request
on, the check of its origin and the run of the session gate around the application. -/
theorem gatedApp_path (hhttp : scope.type = str "http") (hmethod : scope.method = some method)
    (h : Path (gatedApp py gate csrf session scope) es r) :
    ∃ run rest r₁, es = run ++ rest ∧ Path (gate.refusal py scope) run r₁ ∧
      (rest = [] ∨ ∃ passed, r₁ = .ok ⟨none, passed⟩ ∧ passed.type = str "http" ∧
        csrfOriginRefusal py csrf passed = .ok none ∧
        Path ((Layer.sessionGate session).wrap py hostApp passed) rest r) := by
  obtain ⟨run, rest, r₁, rfl, hgate, hrest⟩ := wrap_path hhttp h
  refine ⟨run, rest, r₁, rfl, hgate, ?_⟩
  rcases hrest with rfl | ⟨passed, rfl, hrest⟩
  · exact .inl rfl
  have hpassed : passed.type = str "http" :=
    (refusal_sameRequest hmethod hgate).type_eq.trans hhttp
  obtain ⟨es₁, es₂, r₂, rfl, hcheck, hlast⟩ := wrap_path hpassed hrest
  rcases path_lift_bind hcheck with ⟨refused, hrefused, rfl, hr⟩ | ⟨e, -, rfl, rfl⟩
  swap
  · rcases hlast with rfl | ⟨_, hr, -⟩
    · exact .inl rfl
    · cases hr
  rcases hlast with rfl | ⟨passed', rfl, hlast⟩
  · exact .inl rfl
  · obtain ⟨rfl, rfl⟩ : none = refused ∧ passed' = passed := by simpa using hr
    exact .inr ⟨passed', rfl, hpassed, hrefused, hlast⟩

/-- What the session gate and the application do with a request that came so far. -/
theorem session_path (hhttp : scope.type = str "http")
    (h : Path ((Layer.sessionGate session).wrap py hostApp scope) es r) :
    ∃ run rest r₁, es = run ++ rest ∧ Path (session.refusal py scope) run r₁ ∧
      (rest = [] ∨
        ∃ entered ans, r₁ = .ok ⟨none, entered⟩ ∧ rest = [⟨.enterApp entered, ans⟩]) := by
  obtain ⟨run, rest, r₁, rfl, hgate, hrest⟩ := wrap_path hhttp h
  refine ⟨run, rest, r₁, rfl, hgate, ?_⟩
  rcases hrest with rfl | ⟨entered, rfl, hrest⟩
  · exact .inl rfl
  · obtain ⟨ans, tail, rfl, htail⟩ := path_perform_andThen.1 hrest
    have htail' : tail = [] := by cases ans <;> exact htail.1
    exact .inr ⟨entered, ans, rfl, by rw [htail']⟩

theorem AdmittedIn.append {config : WebAuthConfig} {sessionId : Str} {user : AuthenticatedUser}
    (h : AdmittedIn es config sessionId user) (before after : List HostEvent) :
    AdmittedIn (before ++ (es ++ after)) config sessionId user := by
  obtain ⟨before', inner, after', rfl, hadmit, htouch⟩ := h
  refine ⟨before ++ before', inner, after' ++ after, ?_, hadmit, htouch⟩
  simp only [List.append_assoc]

theorem bearerAdmission_eq_some {record : BearerAdmission} :
    bearerAdmission py scope = some record ↔
      scope.bearerGate = some record ∧ recordHoldsFor py record scope = true :=
  Option.filter_eq_some_iff

/-- Calls before the session gate need nothing. -/
theorem mediated_before (h : ∀ e ∈ es, e.call.BeforeSession) :
    Mediated py gate csrf session method scope es where
  enters _ _ he := absurd he (not_entered_before h)
  once := by rw [countP_before h]; exact Nat.zero_le 1
  asks := by
    rintro ⟨e, he, hasks⟩
    rw [entersSession_before (h e he)] at hasks
    cases hasks

/-- What the session gate lets in after the bearer gate and the check of the origin. -/
theorem mediated_after {run asked last : List HostEvent} {r₂ : Except Exn GateResult}
    (hmethod : scope.method = some method)
    (hrun : Path (gate.refusal py scope) run (.ok ⟨none, passed⟩))
    (hcheck : csrfOriginRefusal py csrf passed = .ok none)
    (hasked : Path (session.refusal py passed) asked r₂)
    (hlast : last = [] ∨
      ∃ entered ans, r₂ = .ok ⟨none, entered⟩ ∧ last = [⟨.enterApp entered, ans⟩]) :
    Mediated py gate csrf session method scope (run ++ (asked ++ last)) := by
  have hbefore := (bearerGate_before py gate scope).path hrun
  have hlastCount : last.countP entersSession = 0 := by
    rcases hlast with rfl | ⟨entered, ans, -, rfl⟩ <;> simp [entersSession]
  have hentered : ∀ entered ans, (⟨.enterApp entered, ans⟩ : HostEvent) ∈ run ++ (asked ++ last) →
      (⟨.enterApp entered, ans⟩ : HostEvent) ∉ asked → r₂ = .ok ⟨none, entered⟩ := by
    intro entered ans he hnot
    rw [List.mem_append, List.mem_append] at he
    rcases he with he | he | he
    · exact absurd he (not_entered_before hbefore)
    · exact absurd he hnot
    · rcases hlast with rfl | ⟨entered', ans', hr, rfl⟩
      · cases he
      · obtain ⟨hcall, -⟩ := Event.mk.inj (List.mem_singleton.1 he)
        rw [HostCall.enterApp.inj hcall, hr]
  have hsame := refusal_sameRequest hmethod hrun
  have hprovenance : bearerAdmission py passed = none → Provenance py csrf method scope :=
    fun hnone => hsame.provenance.1
      (csrfOrigin_provenance (hsame.method_eq.trans hmethod) hnone hcheck)
  obtain ⟨mark, record', rfl⟩ := hsame
  have hcount : (run ++ (asked ++ last)).countP entersSession = asked.countP entersSession := by
    rw [List.countP_append, List.countP_append, countP_before hbefore, hlastCount]
    omega
  have huncounted : asked = [] →
      (∃ e ∈ run ++ (asked ++ last), entersSession e = true) → False := by
    rintro rfl ⟨e, he, hasks⟩
    rw [List.countP_nil, List.countP_eq_zero] at hcount
    exact hcount e he hasks
  rcases sessionGate_course hasked with ⟨⟨record, hrecord⟩, rfl, rfl⟩ | ⟨hnone, rfl, hpassed⟩ |
    ⟨hnone, method', config, sessionId, r₃, hmethod', hgated, hconfig, hreads, hadmit, hpassed⟩
  · refine ⟨fun entered ans he => ?_, by rw [hcount]; exact Nat.zero_le 1,
      fun hasks => (huncounted rfl hasks).elim⟩
    cases hentered entered ans he List.not_mem_nil
    refine .byToken rfl hrun hrecord fun hnew => ?_
    obtain ⟨kind, hsettles, hvouches⟩ := refusal_vouches hmethod hrun
    rcases hvouches with hsame | ⟨-, audience, parties, verified, hkind, hverified⟩
    · exact absurd (hsame.symm.trans (bearerAdmission_eq_some.1 hrecord).1) hnew
    · exact ⟨kind, audience, parties, verified, hsettles, hkind, hverified⟩
  · refine ⟨fun entered ans he => ?_, by rw [hcount]; exact Nat.zero_le 1,
      fun hasks => (huncounted rfl hasks).elim⟩
    obtain ⟨method', hmethod', hnamed⟩ := hpassed entered (hentered entered ans he List.not_mem_nil)
    obtain rfl := Option.some.inj (hmethod.symm.trans hmethod')
    rcases hnamed with hpublic | hoptional
    · exact .toPublic (hprovenance hnone) hpublic
    · exact .toOptional (hprovenance hnone) hoptional
  · obtain ⟨honce, hnotEntered⟩ := admitWithin_counts hadmit
    obtain rfl := Option.some.inj (hmethod.symm.trans hmethod')
    refine ⟨fun entered ans he => ?_, by rw [hcount]; exact honce, fun _ => ?_⟩
    · rcases hpassed entered (hentered entered ans he (hnotEntered entered ans)) with
        hoptional | ⟨user, rfl⟩
      · exact .toOptional (hprovenance hnone) hoptional
      · exact .bySession (hprovenance hnone) hconfig hreads
          ((admitWithin_admittedIn hadmit).append run last)
    · exact ⟨⟨run, _, _, rfl, hrun, hnone⟩, hprovenance hnone, hgated, config, sessionId, hconfig,
        hreads⟩

/-- **Every way into the application is mediated**: by an admission of the bearer gate that holds
for the request, or by its provenance and a path or a session that lets it in. -/
theorem complete_mediation (hgate : policies.bearerGate = some gate)
    (hsession : policies.sessionGate = some session) (hhttp : scope.type = str "http")
    (hmethod : scope.method = some method)
    (h : Path (policies.serve py scope) es r) :
    Mediated py gate policies.csrfOrigin session method scope es := by
  rcases serve_path hhttp hgate hsession h with rfl | h
  · exact mediated_before fun e he => absurd he List.not_mem_nil
  obtain ⟨run, rest, r₁, rfl, hrun, hrest⟩ := gatedApp_path hhttp hmethod h
  rcases hrest with rfl | ⟨passed, rfl, hpassed, hcheck, hrest⟩
  · rw [List.append_nil]
    exact mediated_before ((bearerGate_before py gate scope).path hrun)
  · obtain ⟨asked, last, r₂, rfl, hasked, hlast⟩ := session_path hpassed hrest
    exact mediated_after hmethod hrun hcheck hasked hlast

end Layers

/-! ## Two requests -/

/-- A host at the second 50 whose store holds one session. -/
def servingHost : Unit → (c : HostCall) → Except Exn c.Answer × Unit
  | _, .wallClock => (.ok 50, ())
  | _, .enter _ => (.ok (), ())
  | _, .leave _ _ => (.ok (), ())
  | _, .load _ => (.ok (some demoRow), ())
  | _, .touch _ _ => (.ok (.bool true), ())
  | _, .enterApp _ => (.ok (), ())
  | s, c => quietHost s c

/-- A gate for every path but `/login`. -/
def demoSessionGate : SessionGate where
  loginRedirect := none
  publicRules := [{ paths := { exact := [str "/login"] } }]

/-- A stack with a machine path and that gate. -/
def demoPolicies : LibraryPolicies where
  securityHeaders := demoHeaders
  bodySize := none
  rateLimit := none
  bearerGate := some machineGate
  csrfOrigin := {}
  sessionGate := some demoSessionGate

/-- The surroundings in which the machine's token is one of the agent's. -/
def tokenPlatform : Platform :=
  accessPlatform (str "https://issuer") (str "client") (str "agent") []

/-- What the stack does with a request. -/
def servedRun (py : Platform) (scope : Scope) : List HostEvent × Except Exn (Option Response) :=
  play servingHost (demoPolicies.serve py scope) ()

/-- Whether an event enters the application. -/
def entersApp (e : HostEvent) : Bool :=
  match e.call with
  | .enterApp _ => true
  | _ => false

theorem servedRun_path (py : Platform) (scope : Scope) :
    Path (demoPolicies.serve py scope) (servedRun py scope).1 (servedRun py scope).2 :=
  path_play (I := hostCalls) servingHost _ ()

theorem complete_mediation_of_requests :
    ((servedRun sessionPlatform gatedScope).1.any entersApp = true ∧
      Mediated sessionPlatform machineGate {} demoSessionGate (str "GET") gatedScope
        (servedRun sessionPlatform gatedScope).1) ∧
    (servedRun tokenPlatform machineScope).1.any entersApp = true ∧
      Mediated tokenPlatform machineGate {} demoSessionGate (str "POST") machineScope
        (servedRun tokenPlatform machineScope).1 := by
  have hgate : demoPolicies.bearerGate = some machineGate := rfl
  have hsession : demoPolicies.sessionGate = some demoSessionGate := rfl
  have hmethod : machineScope.method = some (str "POST") := rfl
  have hcookie := complete_mediation hgate hsession rfl rfl
    (servedRun_path sessionPlatform gatedScope)
  have hhttp : machineScope.type = str "http" := rfl
  have hpath := servedRun_path tokenPlatform machineScope
  have htoken := @complete_mediation tokenPlatform demoPolicies machineGate demoSessionGate
    (str "POST") machineScope (servedRun tokenPlatform machineScope).1
    (servedRun tokenPlatform machineScope).2 hgate hsession hhttp hmethod hpath
  have hentered : (servedRun tokenPlatform machineScope).1.any entersApp = true := by
    decide +kernel
  exact ⟨⟨by decide +kernel, hcookie⟩, hentered, htoken⟩

end WebAuth
