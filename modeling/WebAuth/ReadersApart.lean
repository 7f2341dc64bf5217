import WebAuth.Readers

/-!
# Who a route reads

The gates leave a record in a request; the readers of a route answer from it. Whatever of the
request is changed between the two, no reader takes a token request for a cookie request, and none
answers an account that was admitted for another request.
-/

namespace WebAuth

open Python Effects Program

/-! ## The requests a route may see -/

section Requests

variable (py : Platform)

/-- The requests behind the gates: each gate may have run, and the application may have changed
anything but the two records since. -/
inductive Gated : Scope → Prop
  | arrived {scope : Scope} (bearer : scope.bearerGate = none)
      (session : scope.sessionGate = none) : Gated scope
  | bearerGate {gate : BearerGateMiddleware} {method : Str} {scope : Scope} {es : List HostEvent}
      {result : GateResult} (before : Gated scope) (http : scope.method = some method)
      (run : Path (gate.refusal py scope) es (.ok result)) : Gated result.scope
  | sessionGate {gate : SessionGate} {scope : Scope} {es : List HostEvent} {result : GateResult}
      (before : Gated scope) (run : Path (gate.refusal py scope) es (.ok result)) :
      Gated result.scope
  | changed {scope scope' : Scope} (before : Gated scope)
      (bearer : scope'.bearerGate = scope.bearerGate)
      (session : scope'.sessionGate = scope.sessionGate) : Gated scope'

/-- A bearer record is made for a request: for its app, its path and its one `Authorization` line.
A resource's is made for its method too, and speaks for a person without the admin role. -/
structure MadeFor (record : BearerAdmission) (sent : Scope) : Prop where
  app : sent.app = some record.app
  path : sent.path = record.path
  line : ∃ line, sent.getlist (str "authorization") = [line] ∧
    record.authorizationDigest = authorizationDigest py line
  capped : ∀ method, record.resourceMethod = some method → sent.method = some method ∧
    ∃ account, record.principal = .person account ∧ account.role = str "user"

/-- The bearer gate ran on a request behind the gates and left a record in it, which is made for
that request. -/
structure RecordedOn (record : BearerAdmission) (sent : Scope) : Prop where
  before : Gated py sent
  run : ∃ (gate : BearerGateMiddleware) (es : List HostEvent) (result : GateResult),
    Path (gate.refusal py sent) es (.ok result) ∧ result.scope.bearerGate = some record
  made : MadeFor py record sent

/-- A record of the session gate that names an account names the session it was admitted by. -/
def GateAdmission.NamesSession (record : GateAdmission) : Prop :=
  ∀ user, record.admission = some (.ok user) → ∃ sessionId, record.cookieReading = .ok sessionId

/-- Nothing of what a bearer record was made for has changed. -/
structure StillSent (record : BearerAdmission) (sent scope : Scope) : Prop where
  app : ∃ app, scope.app = some app ∧ app.ref = record.app.ref
  path : scope.path = sent.path
  line : ∃ line line', sent.getlist (str "authorization") = [line] ∧
    scope.getlist (str "authorization") = [line'] ∧
    authorizationDigest py line' = authorizationDigest py line
  method : record.isResourceAdmission = true → scope.method = sent.method

end Requests

/-! ## The statement -/

/-- What the readers of a request come to. -/
structure ReadersApart (py : Platform) (scope : Scope) : Prop where
  noCookie : ∀ record, scope.bearerGate = some record →
    (∀ config, sessionIdFromRequest py scope config = .ok none) ∧
      ∀ (reader : AccountReader) es r, Path (reader.read py scope) es r →
        (∀ e ∈ es, e.call.Binds) ∧ ∀ user, r = .ok (some user) → record.principal = .person user
  unchanged : ∀ record, scope.bearerGate = some record → ∃ sent, RecordedOn py record sent ∧
    (((∃ caller, bearerCaller py scope = .ok caller) ∨
      ∃ (reader : AccountReader) (es : _) (user : _),
        Path (reader.read py scope) es (.ok (some user))) → StillSent py record sent scope)
  caller : ∀ caller, bearerCaller py scope = .ok caller →
    ∃ record, scope.bearerGate = some record ∧ record.principal = .machine caller
  resource : ∀ user, resourcePerson py scope = .ok user →
    ∃ record, scope.bearerGate = some record ∧ record.isResourceAdmission = true ∧
      record.principal = .person user
  capped : ∀ record, scope.bearerGate = some record → record.isResourceAdmission = true →
    ∀ user, (∀ redirect es, ¬Path (adminUser py redirect scope) es (.ok user)) ∧
      admittedAdmin py scope ≠ .ok user
  gated : scope.bearerGate = none → ∀ user,
    (admittedUser py scope = .ok (some user) ∨ admittedAdmin py scope = .ok user) →
      ∃ (record : GateAdmission) (sessionId : Str), GateHolds py record scope ∧
        record.admission = some (.ok user) ∧ record.cookieReading = .ok sessionId
  ungated : scope.bearerGate = none → (∀ record, ¬GateHolds py record scope) →
    ∃ e, admittedUser py scope = .error e ∧ admittedAdmin py scope = .error e ∧
      (e = noGateDecision ∨ webAuthConfig scope = .error e ∨
        ∃ config, readSessionCookie py scope config = .error e)
  current : scope.bearerGate = none → ∀ redirect es user,
    Path (currentUser py redirect scope) es (.ok user) →
      (∃ (record : GateAdmission) (sessionId : Str), GateHolds py record scope ∧
        record.admission = some (.ok user) ∧ record.cookieReading = .ok sessionId ∧
          ∀ e ∈ es, e.call.Binds) ∨
      (∀ record, GateHolds py record scope → record.admission = none) ∧
        ∃ es₁ es₂, es = es₁ ++ es₂ ∧ Path (resolveSession py scope) es₁ (.ok (.ok user)) ∧
          ∀ e ∈ es₂, e.call.Binds

/-! ## What the gates write -/

section Written

variable {py : Platform} {scope scope' sent : Scope} {es : List HostEvent} {result : GateResult}
  {method : Str} {record : BearerAdmission}

/-- What the gates have written into a request. -/
structure Recorded (py : Platform) (scope : Scope) : Prop where
  bearer : ∀ record, scope.bearerGate = some record → ∃ sent, RecordedOn py record sent
  session : ∀ record, scope.sessionGate = some record → record.NamesSession

/-- What a step of the bearer gate leaves of its record: the one it found, or one of this
request. -/
def BearerStep (py : Platform) (scope scope' : Scope) : Prop :=
  scope'.sessionGate = scope.sessionGate ∧ (scope'.bearerGate = scope.bearerGate ∨
    ∃ record, scope'.bearerGate = some record ∧ MadeFor py record scope)

theorem BearerStep.refl (scope : Scope) : BearerStep py scope scope := ⟨rfl, .inl rfl⟩

theorem RecordedFor.step {principal : Principal} {asked : Option Str} {mark : Bool}
    (h : RecordedFor py { scope with personPath := mark } principal asked scope')
    (hcapped : ∀ method, asked = some method → scope.method = some method ∧
      ∃ account, principal = .person account ∧ account.role = str "user") :
    BearerStep py scope scope' := by
  obtain ⟨app, line, happ, hline, rfl⟩ := h
  exact ⟨rfl, .inr ⟨_, rfl, happ, rfl, ⟨line, hline, rfl⟩, hcapped⟩⟩

theorem no_method {principal : Principal} : ∀ method, none = some method →
    scope.method = some method ∧ ∃ account, principal = .person account ∧
      account.role = str "user" := fun _ h => by cases h

theorem admitResourceHolder_role {verified : VerifiedAccessToken} {group : Str}
    {admission : AdmissionConfig} {person : AuthenticatedUser}
    (h : Path (admitResourceHolder verified group admission) es (.ok (some person))) :
    person.role = str "user" := by
  unfold admitResourceHolder at h
  split_ifs at h
  · obtain ⟨-, hr⟩ := h
    cases hr
  · obtain ⟨-, hr⟩ := h
    cases hr
  · rcases within_path h with ⟨e, -, hr⟩ | ⟨rb, exit, hentry, hr⟩
    · cases hr
    obtain ⟨inner, rfl, hinner⟩ := hentry.split
    cases exit with
    | error e => cases hr
    | ok a =>
      obtain rfl : _ = rb := hr
      obtain ⟨es₁, es₂, account, rfl, -, h₁⟩ := path_bind_ok hinner
      obtain ⟨-, hr⟩ := h₁
      cases account with
      | none => cases hr
      | some account =>
        cases hr
        rfl

theorem MachineRow.step {gate : BearerGateMiddleware} {paths : MachinePaths}
    (h : MachineRow py gate paths scope es result) : BearerStep py scope result.scope := by
  cases h with
  | noCredentials | malformed | noToken | invalidToken | notAdmin => exact .refl scope
  | admin _ _ _ recorded => exact RecordedFor.step recorded no_method

theorem ResourceRow.step {gate : BearerGateMiddleware} {resource : ProtectedResource}
    (hmethod : scope.method = some method)
    (h : ResourceRow py gate resource method scope es result) :
    BearerStep py scope result.scope := by
  cases h with
  | malformed | noToken | invalidToken | lacksScope | notAdmitted => exact .refl scope
  | admitted _ _ admission recorded =>
    refine RecordedFor.step recorded fun method' heq => ?_
    obtain rfl := Option.some.inj heq
    exact ⟨hmethod, _, rfl, admitResourceHolder_role admission⟩

theorem EntryPointRow.step {gate : BearerGateMiddleware} {resource : ProtectedResource}
    (hmethod : scope.method = some method)
    (h : EntryPointRow py gate resource method scope es result) :
    BearerStep py scope result.scope := by
  cases h with
  | common row => exact row.step hmethod
  | noCredentials | otherAudience => exact .refl scope

theorem PersonRow.step {gate : BearerGateMiddleware} {paths : PersonPaths}
    (h : PersonRow py gate paths scope es result) : BearerStep py scope result.scope := by
  cases h with
  | noCredentials | malformed | noToken | invalidToken | notMember | usernameTaken =>
    exact ⟨rfl, .inl rfl⟩
  | admitted _ _ _ recorded => exact RecordedFor.step recorded no_method

theorem PathKind.Decides.step {gate : BearerGateMiddleware} {kind : PathKind}
    (hmethod : scope.method = some method) (h : kind.Decides py gate method scope es result) :
    BearerStep py scope result.scope ∨ (∃ resource, kind = .markedRoute resource) ∧
      ∃ es', Path (gate.unmarked.refusal py scope) es' (.ok result) := by
  cases kind with
  | machine paths => exact .inl (MachineRow.step h)
  | entryPoint resource => exact .inl (EntryPointRow.step hmethod h)
  | person paths => exact .inl (PersonRow.step h)
  | ungated =>
    obtain ⟨-, rfl⟩ := h
    exact .inl (.refl scope)
  | markedRoute resource =>
    rcases h with hrow | ⟨es₁, es₂, -, -, hrest⟩
    · exact .inl (hrow.step hmethod)
    · exact .inr ⟨⟨resource, rfl⟩, es₂, hrest⟩

theorem bearerGate_step {gate : BearerGateMiddleware} (hmethod : scope.method = some method)
    (h : Path (gate.refusal py scope) es (.ok result)) : BearerStep py scope result.scope := by
  obtain ⟨kind, hfirst, hdecides⟩ := (refusal_iff hmethod).1 h
  rcases hdecides.step hmethod with hstep | ⟨-, es', hrest⟩
  · exact hstep
  · obtain ⟨kind', hfirst', hdecides'⟩ := (refusal_iff hmethod).1 hrest
    rcases hdecides'.step hmethod with hstep | ⟨⟨resource, rfl⟩, -⟩
    · exact hstep
    · exact (unmarked_first hfirst').elim

/-- What a step of the session gate leaves of its record. -/
def SessionStep (scope scope' : Scope) : Prop :=
  scope'.bearerGate = scope.bearerGate ∧ (scope'.sessionGate = scope.sessionGate ∨
    ∃ record : GateAdmission, scope'.sessionGate = some record ∧ record.NamesSession)

/-- How the session gate comes to the decision it records: a public path asks nothing, a cookie
that names no session is refused, and a session is admitted in one transaction. -/
inductive Decided (py : Platform) (gate : SessionGate) (scope : Scope) (config : WebAuthConfig) :
    Except ConnectionRefusal Str → Option SessionDecision → List HostEvent → Prop
  | toPublic {reading : Except ConnectionRefusal Str} {method : Str}
      (http : scope.method = some method) (named : gate.Public py method (routePath scope)) :
      Decided py gate scope config reading none []
  | unread {cause : ConnectionRefusal} :
      Decided py gate scope config (.error cause) (some (.error cause)) []
  | asked {sessionId : Str} {decision : SessionDecision} {es : List HostEvent}
      (admission : Path (SessionGate.admitWithin sessionId config) es (.ok decision)) :
      Decided py gate scope config (.ok sessionId) (some decision) es

theorem Decided.names {gate : SessionGate} {config : WebAuthConfig}
    {reading : Except ConnectionRefusal Str} {user : AuthenticatedUser}
    (h : Decided py gate scope config reading (some (.ok user)) es) :
    ∃ sessionId, reading = .ok sessionId := by
  cases h with
  | asked admission => exact ⟨_, rfl⟩

theorem refusedOrPassed_eq_ok {gate : SessionGate} {config : Ref WebAuthConfig}
    {reading : Except ConnectionRefusal Str} {admission : SessionDecision} {optional : Bool}
    (h : gate.refusedOrPassed py scope config reading admission optional = .ok result) :
    (result.scope = scope ∧ result.refusal ≠ none) ∨
      result = ⟨none, recordGateAdmission scope ⟨config, reading, some admission⟩⟩ := by
  unfold SessionGate.refusedOrPassed at h
  split at h
  · obtain ⟨response, -, h⟩ := bind_eq_ok.1 h
    cases h
    exact .inl ⟨rfl, Option.some_ne_none _⟩
  · exact .inr (Except.ok.inj h).symm

/-- The session gate leaves a request it refuses, or an admission of the bearer gate, as it is, and
records its decision in every other. -/
theorem sessionGate_result {gate : SessionGate} (h : Path (gate.refusal py scope) es (.ok result)) :
    (result.scope = scope ∧ (result.refusal ≠ none ∨ (bearerAdmission py scope).isSome = true)) ∨
      ∃ config reading admission, result = ⟨none, recordGateAdmission scope ⟨config, reading,
          admission⟩⟩ ∧ webAuthConfig scope = .ok config ∧
        readSessionCookie py scope config.value = .ok reading ∧
        Decided py gate scope config.value reading admission es := by
  unfold SessionGate.refusal at h
  split_ifs at h with hrecord
  · obtain ⟨-, hr⟩ := h
    obtain rfl := Except.ok.inj hr
    exact .inl ⟨rfl, .inr hrecord⟩
  rcases path_lift_bind h with ⟨config, hconfig, h⟩ | ⟨e, -, -, hr⟩
  swap
  · cases hr
  rcases path_lift_bind h with ⟨reading, hreading, h⟩ | ⟨e, -, -, hr⟩
  swap
  · cases hr
  rcases path_lift_bind h with ⟨method, hmethod, h⟩ | ⟨e, -, -, hr⟩
  swap
  · cases hr
  split_ifs at h with hpublic
  · obtain ⟨rfl, hr⟩ := h
    obtain rfl := Except.ok.inj hr
    exact .inr ⟨config, reading, none, rfl, hconfig, hreading,
      .toPublic (orRaise_eq_ok.1 hmethod) (isPublic_iff.1 hpublic)⟩
  cases reading with
  | error cause =>
    obtain ⟨rfl, hr⟩ := path_done.1 h
    rcases refusedOrPassed_eq_ok hr.symm with ⟨hscope, hrefused⟩ | hresult
    · exact .inl ⟨hscope, .inl hrefused⟩
    · exact .inr ⟨config, _, _, hresult, hconfig, hreading, .unread⟩
  | ok sessionId =>
    obtain ⟨es₁, es₂, decision, rfl, hadmission, h⟩ := path_bind_ok h
    obtain ⟨rfl, hr⟩ := path_done.1 h
    rw [List.append_nil]
    rcases refusedOrPassed_eq_ok hr.symm with ⟨hscope, hrefused⟩ | hresult
    · exact .inl ⟨hscope, .inl hrefused⟩
    · exact .inr ⟨config, _, _, hresult, hconfig, hreading, .asked hadmission⟩

theorem sessionGate_step {gate : SessionGate} (h : Path (gate.refusal py scope) es (.ok result)) :
    SessionStep scope result.scope := by
  rcases sessionGate_result h with ⟨hscope, -⟩ | ⟨config, reading, admission, rfl, -, -, hdecided⟩
  · rw [hscope]
    exact ⟨rfl, .inl rfl⟩
  · refine ⟨rfl, .inr ⟨_, rfl, fun user huser => ?_⟩⟩
    obtain rfl : admission = some (.ok user) := huser
    exact hdecided.names

/-- What the gates have written stays what they wrote, whatever else of the request changes. -/
theorem Gated.recorded (h : Gated py scope) : Recorded py scope := by
  induction h with
  | arrived bearer session =>
    refine ⟨fun record hrecord => ?_, fun record hrecord => ?_⟩
    · rw [bearer] at hrecord
      cases hrecord
    · rw [session] at hrecord
      cases hrecord
  | bearerGate before http run ih =>
    obtain ⟨hsession, hbearer⟩ := bearerGate_step http run
    refine ⟨fun record hrecord => ?_, fun record hrecord => ih.session record (hsession ▸ hrecord)⟩
    rcases hbearer with hkept | ⟨written, hwritten, hmade⟩
    · exact ih.bearer record (hkept ▸ hrecord)
    · obtain rfl := Option.some.inj (hwritten.symm.trans hrecord)
      exact ⟨_, before, ⟨_, _, _, run, hwritten⟩, hmade⟩
  | sessionGate before run ih =>
    obtain ⟨hbearer, hsession⟩ := sessionGate_step run
    refine ⟨fun record hrecord => ih.bearer record (hbearer ▸ hrecord), fun record hrecord => ?_⟩
    rcases hsession with hkept | ⟨written, hwritten, hnames⟩
    · exact ih.session record (hkept ▸ hrecord)
    · obtain rfl := Option.some.inj (hwritten.symm.trans hrecord)
      exact hnames
  | changed before bearer session ih =>
    exact ⟨fun record hrecord => ih.bearer record (bearer ▸ hrecord),
      fun record hrecord => ih.session record (session ▸ hrecord)⟩

end Written

/-! ## Readers apart -/

section Apart

variable {py : Platform} {scope sent : Scope} {record : BearerAdmission} {user : AuthenticatedUser}

/-- A record that the strict reader accepts stands in a request that has not changed. -/
theorem stillSent_of_holds (hmade : MadeFor py record sent)
    (hholds : recordHoldsFor py record scope = true) : StillSent py record sent scope := by
  obtain ⟨happ, hpath, hmethod, line', hline', hdigest'⟩ := recordHoldsFor_iff.1 hholds
  obtain ⟨line, hline, hdigest⟩ := hmade.line
  refine ⟨happ, hpath.symm.trans hmade.path.symm, ⟨line, line', hline, hline', ?_⟩,
    fun hresource => ?_⟩
  · exact hdigest'.symm.trans hdigest
  · obtain ⟨method, hrecorded⟩ := Option.isSome_iff_exists.1 hresource
    rw [← hmethod hresource, hrecorded, (hmade.capped method hrecorded).1]

theorem bearerGate_of_fromRecord (h : FromRecord py scope user)
    (hrecord : scope.bearerGate = some record) :
    record.principal = .person user ∧ recordHoldsFor py record scope = true := by
  obtain ⟨record', hread, hprincipal⟩ := h
  obtain ⟨hsame, hholds⟩ := bearerAdmission_eq_some.1 hread
  obtain rfl := Option.some.inj (hsame.symm.trans hrecord)
  exact ⟨hprincipal, hholds⟩

theorem sessionIdFromRequest_of_record (hrecord : scope.bearerGate = some record)
    (config : WebAuthConfig) : sessionIdFromRequest py scope config = .ok none := by
  unfold sessionIdFromRequest
  rw [hrecord, Option.isSome_some, if_pos rfl]

/-- A record that a reader answers from holds for the request. -/
theorem holds_of_answered (hrecord : scope.bearerGate = some record)
    (h : (∃ caller, bearerCaller py scope = .ok caller) ∨
      ∃ (reader : AccountReader) (es : _) (user : _),
        Path (reader.read py scope) es (.ok (some user))) :
    recordHoldsFor py record scope = true := by
  rcases h with ⟨caller, hcaller⟩ | ⟨reader, es, user, hread⟩
  · obtain ⟨record', hread, -⟩ := bearerCaller_eq_ok hcaller
    obtain ⟨hsame, hholds⟩ := bearerAdmission_eq_some.1 hread
    obtain rfl := Option.some.inj (hsame.symm.trans hrecord)
    exact hholds
  · exact (bearerGate_of_fromRecord ((read_of_record hrecord hread).2 user rfl) hrecord).2

theorem caller_of_record {caller : BearerCaller} (h : bearerCaller py scope = .ok caller) :
    ∃ record, scope.bearerGate = some record ∧ record.principal = .machine caller := by
  obtain ⟨record, hread, hprincipal⟩ := bearerCaller_eq_ok h
  exact ⟨record, (bearerAdmission_eq_some.1 hread).1, hprincipal⟩

theorem person_of_record (h : resourcePerson py scope = .ok user) :
    ∃ record, scope.bearerGate = some record ∧ record.isResourceAdmission = true ∧
      record.principal = .person user := by
  obtain ⟨record, hread, hresource, hprincipal⟩ := resourcePerson_eq_ok h
  exact ⟨record, (bearerAdmission_eq_some.1 hread).1, hresource, hprincipal⟩

/-- A resource's person passes no check for an admin. -/
theorem Gated.noAdmin (h : Gated py scope) (hrecord : scope.bearerGate = some record)
    (hresource : record.isResourceAdmission = true) (user : AuthenticatedUser) :
    (∀ redirect es, ¬Path (adminUser py redirect scope) es (.ok user)) ∧
      admittedAdmin py scope ≠ .ok user := by
  obtain ⟨sent, hrecorded⟩ := h.recorded.bearer record hrecord
  obtain ⟨method, hmethod⟩ := Option.isSome_iff_exists.1 hresource
  obtain ⟨-, account, hprincipal, hrole⟩ := hrecorded.made.capped method hmethod
  have hnoAdmin (hfrom : FromRecord py scope user) (hadmin : user.role = str "admin") :
      False := by
    obtain ⟨hperson, -⟩ := bearerGate_of_fromRecord hfrom hrecord
    rw [hprincipal] at hperson
    obtain rfl := Principal.person.inj hperson
    exact absurd (hrole.symm.trans hadmin) (by decide)
  refine ⟨fun redirect es hread => ?_, fun hread => ?_⟩
  · obtain ⟨hadmin, hcurrent⟩ := adminUser_ok hread
    exact hnoAdmin ((currentUser_of_record hrecord hcurrent).2 user rfl) hadmin
  · obtain ⟨hadmin, hfrom⟩ := admittedAdmin_of_record hrecord hread
    exact hnoAdmin hfrom hadmin

/-- Without a token record the gate's account is the one of a record that holds. -/
theorem Gated.decided (h : Gated py scope) (hnone : scope.bearerGate = none)
    (hread : admittedUser py scope = .ok (some user) ∨ admittedAdmin py scope = .ok user) :
    ∃ (record : GateAdmission) (sessionId : Str), GateHolds py record scope ∧
      record.admission = some (.ok user) ∧ record.cookieReading = .ok sessionId := by
  have huser : admittedUser py scope = .ok (some user) :=
    hread.elim id (admittedAdmin_ok hnone)
  obtain ⟨record, hholds, hadmission⟩ := admittedUser_ok hnone huser
  obtain ⟨sessionId, hreading⟩ := h.recorded.session record hholds.1 user hadmission
  exact ⟨record, sessionId, hholds, hadmission, hreading⟩

/-- Without a record that holds, the gate's readers raise. -/
theorem admitted_of_ungated (hnone : scope.bearerGate = none)
    (hnot : ∀ record, ¬GateHolds py record scope) :
    ∃ e, admittedUser py scope = .error e ∧ admittedAdmin py scope = .error e ∧
      (e = noGateDecision ∨ webAuthConfig scope = .error e ∨
        ∃ config, readSessionCookie py scope config = .error e) := by
  have hraises {e : Exn} (hread : admittedUser py scope = .error e) :
      admittedUser py scope = .error e ∧ admittedAdmin py scope = .error e := by
    rw [admittedAdmin_of_none hnone, hread]
    exact ⟨rfl, rfl⟩
  rcases gateAdmission_of_not hnot with hfound | ⟨e, hfound, hcause⟩
  · refine ⟨noGateDecision, (hraises ?_).1, (hraises ?_).2, .inl rfl⟩ <;>
      rw [admittedUser_of_none hnone, hfound] <;> rfl
  · refine ⟨e, (hraises ?_).1, (hraises ?_).2, .inr hcause⟩ <;>
      rw [admittedUser_of_none hnone, hfound] <;> rfl

/-- Without a token record `current_user` answers from a record that holds, or from the cookie. -/
theorem Gated.current (h : Gated py scope) (hnone : scope.bearerGate = none)
    {redirect : Option LoginRedirect} {es : List HostEvent}
    (hread : Path (currentUser py redirect scope) es (.ok user)) :
    (∃ (record : GateAdmission) (sessionId : Str), GateHolds py record scope ∧
      record.admission = some (.ok user) ∧ record.cookieReading = .ok sessionId ∧
        ∀ e ∈ es, e.call.Binds) ∨
    (∀ record, GateHolds py record scope → record.admission = none) ∧
      ∃ es₁ es₂, es = es₁ ++ es₂ ∧ Path (resolveSession py scope) es₁ (.ok (.ok user)) ∧
        ∀ e ∈ es₂, e.call.Binds := by
  obtain ⟨es₁, es₂, r₁, rfl, hdecision, hbinds, hanswer⟩ := currentUser_path hread
  rw [hanswer user rfl] at hdecision
  rcases gateOrOwnAdmission_of_none hnone hdecision with
    ⟨record, hholds, hadmission, rfl⟩ | ⟨hundecided, hown⟩
  · obtain ⟨sessionId, hreading⟩ := h.recorded.session record hholds.1 user hadmission
    exact .inl ⟨record, sessionId, hholds, hadmission, hreading, by simpa using hbinds⟩
  · exact .inr ⟨hundecided, es₁, es₂, rfl, hown, hbinds⟩

/-- **No reader crosses identity kinds or requests**, whatever of a request was changed after the
gates: a token request is never read as a cookie request, an admission holds for the request it was
made for, and a resource's person is no admin. -/
theorem readers_apart (h : Gated py scope) : ReadersApart py scope where
  noCookie record hrecord := by
    refine ⟨sessionIdFromRequest_of_record hrecord, fun reader es r hread => ?_⟩
    obtain ⟨hbinds, hanswer⟩ := read_of_record hrecord hread
    exact ⟨hbinds, fun user hr => (bearerGate_of_fromRecord (hanswer user hr) hrecord).1⟩
  unchanged record hrecord := by
    obtain ⟨sent, hrecorded⟩ := h.recorded.bearer record hrecord
    exact ⟨sent, hrecorded, fun hanswered =>
      stillSent_of_holds hrecorded.made (holds_of_answered hrecord hanswered)⟩
  caller caller hcaller := caller_of_record hcaller
  resource user hperson := person_of_record hperson
  capped record hrecord hresource user := h.noAdmin hrecord hresource user
  gated hnone user hread := h.decided hnone hread
  ungated hnone hnot := admitted_of_ungated hnone hnot
  current hnone redirect es user hread := h.current hnone hread

end Apart

/-! ## One admission for a request -/

section Admission

variable {py : Platform} {gate : SessionGate} {scope passed : Scope} {es es' : List HostEvent}
  {method : Str} {record : GateAdmission} {user : AuthenticatedUser}

theorem gateHolds_recorded {config : Ref WebAuthConfig} {reading : Except ConnectionRefusal Str}
    {admission : Option SessionDecision} (hconfig : webAuthConfig scope = .ok config)
    (hreading : readSessionCookie py scope config.value = .ok reading) :
    GateHolds py ⟨config, reading, admission⟩
      (recordGateAdmission scope ⟨config, reading, admission⟩) :=
  ⟨rfl, config, hconfig, by simp [Ref.same], hreading⟩

theorem gateOrOwnAdmission_of_decided {decision : SessionDecision} {r : Except Exn SessionDecision}
    (hnone : scope.bearerGate = none) (hholds : GateHolds py record scope)
    (hdecided : record.admission = some decision) (h : Path (gateOrOwnAdmission py scope) es r) :
    es = [] ∧ r = .ok decision := by
  unfold gateOrOwnAdmission at h
  rw [admittedTokenPerson_of_none hnone, raiseForBearerAdmission_of_none hnone,
    gateAdmission_eq_some.2 hholds] at h
  simp only [pure_eq, bind_eq, done_ok, ret_andThen, onReturn_ok, monadLift_eq, Option.bind_some,
    hdecided] at h
  exact h

/-- Behind a decision of the session gate a reader calls no store and answers the gate's account. -/
theorem read_of_decided {reader : AccountReader} {decision : SessionDecision}
    {r : Except Exn (Option AuthenticatedUser)} (hnone : scope.bearerGate = none)
    (hholds : GateHolds py record scope) (hdecided : record.admission = some decision)
    (h : Path (reader.read py scope) es r) :
    (∀ e ∈ es, e.call.Binds) ∧ ∀ user, r = .ok (some user) → decision = .ok user := by
  have hcurrent {redirect : Option LoginRedirect} {r : Except Exn AuthenticatedUser}
      (h : Path (currentUser py redirect scope) es r) :
      (∀ e ∈ es, e.call.Binds) ∧ ∀ user, r = .ok user → decision = .ok user := by
    obtain ⟨es₁, es₂, r₁, rfl, hdecision, hbinds, hanswer⟩ := currentUser_path h
    obtain ⟨rfl, rfl⟩ := gateOrOwnAdmission_of_decided hnone hholds hdecided hdecision
    exact ⟨hbinds, fun user hr => Except.ok.inj (hanswer user hr)⟩
  have hadmitted {user : AuthenticatedUser} (h : admittedUser py scope = .ok (some user)) :
      decision = .ok user := by
    rw [admittedUser_of_holds hnone hholds] at h
    have haccount := GateAdmission.account_eq_some.1 (Except.ok.inj h)
    exact Option.some.inj (hdecided.symm.trans haccount)
  cases reader with
  | currentUser redirect =>
    obtain ⟨r₁, hread, rfl⟩ := path_map h
    obtain ⟨hbinds, hanswer⟩ := hcurrent hread
    exact ⟨hbinds, fun user hr => hanswer user (map_some_eq_ok.1 hr)⟩
  | adminUser redirect =>
    obtain ⟨r₁, hadmin, rfl⟩ := path_map h
    obtain ⟨r₂, hread, hsame⟩ := adminUser_path hadmin
    obtain ⟨hbinds, hanswer⟩ := hcurrent hread
    exact ⟨hbinds, fun user hr => hanswer user (hsame user (map_some_eq_ok.1 hr))⟩
  | admittedUser =>
    obtain ⟨rfl, rfl⟩ := path_done.1 h
    exact ⟨by simp, fun user hr => hadmitted hr⟩
  | admittedAdmin =>
    obtain ⟨r₁, hadmin, rfl⟩ := path_map h
    obtain ⟨rfl, rfl⟩ := path_done.1 hadmin
    exact ⟨by simp, fun user hr => hadmitted (admittedAdmin_ok hnone (map_some_eq_ok.1 hr))⟩
  | resourcePerson =>
    obtain ⟨r₁, hperson, rfl⟩ := path_map h
    obtain ⟨rfl, rfl⟩ := path_done.1 hperson
    refine ⟨by simp, fun user hr => ?_⟩
    obtain ⟨record, hread, -⟩ := resourcePerson_eq_ok (map_some_eq_ok.1 hr)
    rw [(bearerAdmission_eq_some.1 hread).1] at hnone
    cases hnone

/-- The readers of a route, one after the other. -/
def readAll (py : Platform) (scope : Scope) :
    List AccountReader → Task (List (Option AuthenticatedUser))
  | [] => return []
  | reader :: readers => do
    let user ← reader.read py scope
    let users ← readAll py scope readers
    return user :: users

theorem readAll_of_decided {readers : List AccountReader} {decision : SessionDecision}
    {r : Except Exn (List (Option AuthenticatedUser))} (hnone : scope.bearerGate = none)
    (hholds : GateHolds py record scope) (hdecided : record.admission = some decision)
    (h : Path (readAll py scope readers) es r) :
    (∀ e ∈ es, e.call.Binds) ∧
      ∀ users, r = .ok users → ∀ user, some user ∈ users → decision = .ok user := by
  induction readers generalizing es r with
  | nil =>
    obtain ⟨rfl, rfl⟩ := h
    refine ⟨by simp, fun users hr user hmem => ?_⟩
    obtain rfl := Except.ok.inj hr
    exact absurd hmem List.not_mem_nil
  | cons reader readers ih =>
    obtain ⟨es₁, es₂, r₁, rfl, hfirst, hrest⟩ := path_andThen.1 h
    obtain ⟨hbinds, hanswer⟩ := read_of_decided hnone hholds hdecided hfirst
    cases r₁ with
    | error e =>
      obtain ⟨rfl, rfl⟩ := hrest
      exact ⟨by simpa using hbinds, fun users hr => by cases hr⟩
    | ok first =>
      obtain ⟨es₃, es₄, r₂, rfl, hothers, hlast⟩ := path_andThen.1 hrest
      obtain ⟨hothersBind, hothersAnswer⟩ := ih hothers
      have hended : es₄ = [] ∧ ∀ users, r = .ok users → ∃ others, r₂ = .ok others ∧
          users = first :: others := by
        cases r₂ with
        | error e =>
          obtain ⟨rfl, rfl⟩ := hlast
          exact ⟨rfl, fun users hr => by cases hr⟩
        | ok others =>
          obtain ⟨rfl, rfl⟩ := hlast
          exact ⟨rfl, fun users hr => ⟨others, rfl, (Except.ok.inj hr).symm⟩⟩
      obtain ⟨rfl, hcons⟩ := hended
      refine ⟨fun e he => ?_, fun users hr user hmem => ?_⟩
      · rw [List.append_nil, List.mem_append] at he
        exact he.elim (hbinds e) (hothersBind e)
      · obtain ⟨others, hothersOk, rfl⟩ := hcons users hr
        rcases List.mem_cons.1 hmem with rfl | hmem
        · exact hanswer user rfl
        · exact hothersAnswer others hothersOk user hmem

/-- **A gated request is admitted once**: what the session gate has decided, every reader of the
route answers, and none of them asks a store again. -/
theorem one_admission (hnone : scope.bearerGate = none) (hmethod : scope.method = some method)
    (hgated : ¬gate.Public py method (routePath scope))
    (hpassed : Path (gate.refusal py scope) es (.ok ⟨none, passed⟩))
    {readers : List AccountReader} {r : Except Exn (List (Option AuthenticatedUser))}
    (hread : Path (readAll py passed readers) es' r) :
    es.countP entersSession ≤ 1 ∧ (∀ e ∈ es', e.call.Binds) ∧
      ∀ users, r = .ok users → ∀ user, some user ∈ users →
        ∃ config sessionId, webAuthConfig scope = .ok config ∧
          readSessionCookie py scope config.value = .ok (.ok sessionId) ∧
          AdmittedIn es config.value sessionId user := by
  rcases sessionGate_result hpassed with ⟨-, hrefused | hbearer⟩ |
    ⟨config, reading, admission, hresult, hconfig, hreading, hdecided⟩
  · exact absurd rfl hrefused
  · rw [bearerAdmission, hnone] at hbearer
    cases hbearer
  obtain rfl : passed = recordGateAdmission scope ⟨config, reading, admission⟩ :=
    (GateResult.mk.inj hresult).2
  have hholds : GateHolds py ⟨config, reading, admission⟩ _ := gateHolds_recorded hconfig hreading
  have hnoToken : (recordGateAdmission scope ⟨config, reading, admission⟩).bearerGate = none :=
    hnone
  cases hdecided with
  | toPublic http named =>
    obtain rfl := Option.some.inj (hmethod.symm.trans http)
    exact absurd named hgated
  | unread =>
    obtain ⟨hbinds, hanswer⟩ := readAll_of_decided hnoToken hholds rfl hread
    exact ⟨Nat.zero_le 1, hbinds, fun users hr user hmem => nomatch hanswer users hr user hmem⟩
  | asked admission =>
    obtain ⟨hbinds, hanswer⟩ := readAll_of_decided hnoToken hholds rfl hread
    refine ⟨(admitWithin_counts admission).1, hbinds, fun users hr user hmem => ?_⟩
    obtain rfl := hanswer users hr user hmem
    exact ⟨config, _, hconfig, hreading, admitWithin_admittedIn admission⟩

end Admission

/-! ## Two requests -/

/-- The session gate's run on a request with a live session. -/
def gatedRun : List HostEvent × Except Exn GateResult :=
  play servingHost (demoSessionGate.refusal sessionPlatform gatedScope) ()

/-- The request it hands on. -/
def passedScope : Scope := (gatedRun.2.toOption.map GateResult.scope).getD gatedScope

/-- Two readers of its route. -/
def demoReaders : List AccountReader := [.currentUser none, .admittedUser]

/-- What they read. -/
def readersRun : List HostEvent × Except Exn (List (Option AuthenticatedUser)) :=
  play servingHost (readAll sessionPlatform passedScope demoReaders) ()

/-- The bearer gate's run on a request with a machine's token. -/
def tokenRun : List HostEvent × Except Exn GateResult :=
  play servingHost (machineGate.refusal tokenPlatform machineScope) ()

/-- The request it hands on. -/
def recordedScope : Scope := (tokenRun.2.toOption.map GateResult.scope).getD machineScope

/-- That request, once the application has changed its root path and its query. -/
def changedScope : Scope :=
  { recordedScope with rootPath := str "/api", queryString := encodeLatin1 (str "q=1") }

theorem play_passed {p : Task GateResult} {fallback : Scope}
    (h : (play servingHost p ()).2.toOption.any (fun result => result.refusal.isNone) = true) :
    Path p (play servingHost p ()).1 (.ok ⟨none,
      ((play servingHost p ()).2.toOption.map GateResult.scope).getD fallback⟩) := by
  have hpath := path_play (I := hostCalls) servingHost p ()
  generalize (play servingHost p ()).2 = r at h hpath ⊢
  rcases r with e | ⟨refusal | response, passed⟩
  · cases h
  · exact hpath
  · cases h

theorem gatedRun_path : Path (demoSessionGate.refusal sessionPlatform gatedScope) gatedRun.1
    (.ok ⟨none, passedScope⟩) := play_passed (by decide +kernel)

theorem tokenRun_path : Path (machineGate.refusal tokenPlatform machineScope) tokenRun.1
    (.ok ⟨none, recordedScope⟩) := play_passed (by decide +kernel)

theorem readers_apart_of_requests :
    (admittedUser sessionPlatform passedScope).toOption =
        some (some ⟨str "u", str "u", str "user"⟩) ∧
      ReadersApart sessionPlatform passedScope ∧
    (bearerCaller tokenPlatform changedScope).toOption.isSome = true ∧
      ReadersApart tokenPlatform changedScope := by
  have harrived : machineScope.bearerGate = none ∧ machineScope.sessionGate = none := ⟨rfl, rfl⟩
  have hmethod : machineScope.method = some (str "POST") := rfl
  have hrecorded : Gated tokenPlatform recordedScope :=
    .bearerGate (.arrived harrived.1 harrived.2) hmethod tokenRun_path
  exact ⟨by decide +kernel, readers_apart (.sessionGate (.arrived rfl rfl) gatedRun_path),
    by decide +kernel, readers_apart (.changed hrecorded rfl rfl)⟩

theorem one_admission_of_readers : readersRun.1.length = 1 ∧
    (gatedRun.1.countP entersSession ≤ 1 ∧ (∀ e ∈ readersRun.1, e.call.Binds) ∧
      ∀ users, readersRun.2 = .ok users → ∀ user, some user ∈ users →
        ∃ config sessionId, webAuthConfig gatedScope = .ok config ∧
          readSessionCookie sessionPlatform gatedScope config.value = .ok (.ok sessionId) ∧
          AdmittedIn gatedRun.1 config.value sessionId user) := by
  have hmethod : gatedScope.method = some (str "GET") := rfl
  have hgated : ¬demoSessionGate.Public sessionPlatform (str "GET") (routePath gatedScope) :=
    mt isPublic_iff.2 (by decide +kernel)
  have hread : Path (readAll sessionPlatform passedScope demoReaders) readersRun.1
      readersRun.2 := by
    unfold readersRun
    exact path_play (I := hostCalls) servingHost _ ()
  exact ⟨by decide +kernel, one_admission rfl hmethod hgated gatedRun_path hread⟩

end WebAuth
