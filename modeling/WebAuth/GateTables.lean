import WebAuth.BearerCredential

/-!
# The tables of the bearer gate

What the gate answers on each kind of path, as its documentation lists it: one row for every outcome
of the credential, the verification and the admission. A row names the calls that lead to it.
-/

namespace WebAuth

open Python Effects Program

/-! ## The columns -/

/-- The columns of a refusal: its status, its challenge and its detail. -/
def tableAnswer (status : ℕ) (challenge : Option Str) (detail : String) : Response where
  status := status
  content := .detail (str detail)
  headers := challenge.toList.map fun challenge => (str "WWW-Authenticate", challenge)

/-- The challenge of a resource: its metadata and its scope, and an error where there is one. -/
def ProtectedResource.documentedChallenge (resource : ProtectedResource) (error : Option String) :
    Str :=
  str "Bearer resource_metadata=\"" ++ resource.metadataUrl ++ str "\", scope=\"" ++
    resource.scope ++ str "\"" ++
    (error.map fun error => str ", error=\"" ++ str error ++ str "\"").getD []

/-- The groups hold a group or one below it. -/
def HoldsGroup (group : Str) (groups : List Str) : Prop :=
  ∃ held ∈ groups, held = group ∨ ∃ rest, held = group ++ str "/" ++ rest

/-- The groups of an admin. -/
def IsAdmin (admission : AdmissionConfig) (groups : List Str) : Prop :=
  ∃ admin, admission.adminGroup = some admin ∧ HoldsGroup admin groups

/-- The request as it goes on with an admission on record: made for its app, its path and its one
`Authorization` line, and for `method` alone where one is given. -/
def RecordedFor (py : Platform) (scope : Scope) (principal : Principal) (method : Option Str)
    (scope' : Scope) : Prop :=
  ∃ app line, scope.app = some app ∧ scope.getlist (str "authorization") = [line] ∧
    scope' = { scope with
      bearerGate := some ⟨app, scope.path, py.sha256 (encodeLatin1 line), principal, method⟩ }

/-! ## The rows -/

section Rows

variable (py : Platform) (gate : BearerGateMiddleware)

/-- The table of a machine path. -/
inductive MachineRow (paths : MachinePaths) (scope : Scope) : List HostEvent → GateResult → Prop
  | noCredentials (h : Sent scope (.error .noCredentials)) :
      MachineRow paths scope []
        ⟨some (tableAnswer 401 (str "Bearer realm=\"admin\"") "Authentication required"), scope⟩
  | malformed (h : Sent scope (.error .invalidRequest)) :
      MachineRow paths scope []
        ⟨some (tableAnswer 401 (str "Bearer realm=\"admin\", error=\"invalid_request\"")
          "Invalid request"), scope⟩
  | noToken (h : Sent scope (.error .invalidToken)) :
      MachineRow paths scope []
        ⟨some (tableAnswer 401 (str "Bearer realm=\"admin\", error=\"invalid_token\"")
          "Invalid token"), scope⟩
  | invalidToken {token : Str} {es : List HostEvent} {refusal : OidcRefusal}
      (h : Sent scope (.ok token))
      (verification : Path (gate.policy.relyingParty.verifyAccessToken py token
        paths.authorizedParties) es (.ok (.error refusal))) :
      MachineRow paths scope es
        ⟨some (tableAnswer 401 (str "Bearer realm=\"admin\", error=\"invalid_token\"")
          "Invalid token"), scope⟩
  | notAdmin {token : Str} {es : List HostEvent} {verified : VerifiedAccessToken}
      (h : Sent scope (.ok token))
      (verification : Path (gate.policy.relyingParty.verifyAccessToken py token
        paths.authorizedParties) es (.ok (.ok verified)))
      (other : ¬IsAdmin gate.policy.admission verified.groups) :
      MachineRow paths scope es
        ⟨some (tableAnswer 403 (str "Bearer realm=\"admin\", error=\"insufficient_scope\"")
          "Admin access required"), scope⟩
  | admin {token : Str} {es : List HostEvent} {verified : VerifiedAccessToken} {scope' : Scope}
      (h : Sent scope (.ok token))
      (verification : Path (gate.policy.relyingParty.verifyAccessToken py token
        paths.authorizedParties) es (.ok (.ok verified)))
      (isAdmin : IsAdmin gate.policy.admission verified.groups)
      (record : RecordedFor py scope (.machine ⟨verified.subject⟩) none scope') :
      MachineRow paths scope es ⟨none, scope'⟩

/-- The check of the resource's verifier. -/
abbrev BearerGateMiddleware.checkForResource (resource : ProtectedResource) (token : Str) :
    Task (Except OidcRefusal VerifiedAccessToken) :=
  gate.policy.relyingParty.verifyResourceToken py gate.resourceVerifier resource.url resource.scope
    resource.authorizedParties token

/-- A request with nothing for the resource: no bearer credential, or a token whose audience is not
the resource. -/
inductive NotForResource (resource : ProtectedResource) (scope : Scope) : List HostEvent → Prop
  | noCredentials (h : Sent scope (.error .noCredentials)) : NotForResource resource scope []
  | otherAudience {token : Str} {es : List HostEvent} {refusal : OidcRefusal}
      (h : Sent scope (.ok token))
      (verification : Path (gate.checkForResource py resource token) es (.ok (.error refusal)))
      (audience : refusal.tokenRejection = some .invalidAudience) : NotForResource resource scope es

/-- The rows the entry point and a marked route have in common. `method` is the request's. -/
inductive ResourceRow (resource : ProtectedResource) (method : Str) (scope : Scope) :
    List HostEvent → GateResult → Prop
  | malformed (h : Sent scope (.error .invalidRequest)) :
      ResourceRow resource method scope []
        ⟨some (tableAnswer 401 (resource.documentedChallenge "invalid_request")
          "Invalid request"), scope⟩
  | noToken (h : Sent scope (.error .invalidToken)) :
      ResourceRow resource method scope []
        ⟨some (tableAnswer 401 (resource.documentedChallenge "invalid_token")
          "Invalid token"), scope⟩
  | invalidToken {token : Str} {es : List HostEvent} {refusal : OidcRefusal}
      (h : Sent scope (.ok token))
      (verification : Path (gate.checkForResource py resource token) es (.ok (.error refusal)))
      (audience : refusal.tokenRejection ≠ some .invalidAudience)
      (reason : refusal.reason ≠ .insufficientScope) :
      ResourceRow resource method scope es
        ⟨some (tableAnswer 401 (resource.documentedChallenge "invalid_token")
          "Invalid token"), scope⟩
  | lacksScope {token : Str} {es : List HostEvent} {refusal : OidcRefusal}
      (h : Sent scope (.ok token))
      (verification : Path (gate.checkForResource py resource token) es (.ok (.error refusal)))
      (reason : refusal.reason = .insufficientScope) :
      ResourceRow resource method scope es
        ⟨some (tableAnswer 403 (resource.documentedChallenge "insufficient_scope")
          "Insufficient scope"), scope⟩
  | notAdmitted {token : Str} {es₁ es₂ : List HostEvent} {verified : VerifiedAccessToken}
      (h : Sent scope (.ok token))
      (verification : Path (gate.checkForResource py resource token) es₁ (.ok (.ok verified)))
      (admission : Path (admitResourceHolder verified resource.requiredGroup gate.policy.admission)
        es₂ (.ok none)) :
      ResourceRow resource method scope (es₁ ++ es₂)
        ⟨some (tableAnswer 403 none "Access denied"), scope⟩
  | admitted {token : Str} {es₁ es₂ : List HostEvent} {verified : VerifiedAccessToken}
      {person : AuthenticatedUser} {scope' : Scope} (h : Sent scope (.ok token))
      (verification : Path (gate.checkForResource py resource token) es₁ (.ok (.ok verified)))
      (admission : Path (admitResourceHolder verified resource.requiredGroup gate.policy.admission)
        es₂ (.ok (some person)))
      (record : RecordedFor py scope (.person person) (some method) scope') :
      ResourceRow resource method scope (es₁ ++ es₂) ⟨none, scope'⟩

/-- The table of the entry point. -/
inductive EntryPointRow (resource : ProtectedResource) (method : Str) (scope : Scope) :
    List HostEvent → GateResult → Prop
  | common {es : List HostEvent} {result : GateResult}
      (row : ResourceRow py gate resource method scope es result) :
      EntryPointRow resource method scope es result
  | noCredentials (h : Sent scope (.error .noCredentials)) :
      EntryPointRow resource method scope []
        ⟨some (tableAnswer 401 (resource.documentedChallenge none) "Authentication required"),
          scope⟩
  | otherAudience {token : Str} {es : List HostEvent} {refusal : OidcRefusal}
      (h : Sent scope (.ok token))
      (verification : Path (gate.checkForResource py resource token) es (.ok (.error refusal)))
      (audience : refusal.tokenRejection = some .invalidAudience) :
      EntryPointRow resource method scope es
        ⟨some (tableAnswer 401 (resource.documentedChallenge "invalid_token")
          "Invalid token"), scope⟩

/-- The table of a person path. The request is marked as one on such a path. -/
inductive PersonRow (paths : PersonPaths) (scope : Scope) : List HostEvent → GateResult → Prop
  | noCredentials (h : Sent scope (.error .noCredentials)) :
      PersonRow paths scope [] ⟨none, { scope with personPath := true }⟩
  | malformed (h : Sent scope (.error .invalidRequest)) :
      PersonRow paths scope []
        ⟨some (tableAnswer 401 (str "Bearer error=\"invalid_request\"") "Invalid request"),
          { scope with personPath := true }⟩
  | noToken (h : Sent scope (.error .invalidToken)) :
      PersonRow paths scope []
        ⟨some (tableAnswer 401 (str "Bearer error=\"invalid_token\"") "Invalid token"),
          { scope with personPath := true }⟩
  | invalidToken {token : Str} {es : List HostEvent} {refusal : OidcRefusal}
      (h : Sent scope (.ok token))
      (verification : Path (gate.policy.relyingParty.verifyAccessToken py token
        paths.authorizedParties) es (.ok (.error refusal))) :
      PersonRow paths scope es
        ⟨some (tableAnswer 401 (str "Bearer error=\"invalid_token\"") "Invalid token"),
          { scope with personPath := true }⟩
  | notMember {token : Str} {es₁ es₂ : List HostEvent} {verified : VerifiedAccessToken}
      (h : Sent scope (.ok token))
      (verification : Path (gate.policy.relyingParty.verifyAccessToken py token
        paths.authorizedParties) es₁ (.ok (.ok verified)))
      (admission : Path (admitTokenHolder py verified gate.policy.admission) es₂
        (.ok (.error .notAMember))) :
      PersonRow paths scope (es₁ ++ es₂)
        ⟨some (tableAnswer 403 (str "Bearer error=\"insufficient_scope\"") "No access"),
          { scope with personPath := true }⟩
  | usernameTaken {token : Str} {es₁ es₂ : List HostEvent} {verified : VerifiedAccessToken}
      (h : Sent scope (.ok token))
      (verification : Path (gate.policy.relyingParty.verifyAccessToken py token
        paths.authorizedParties) es₁ (.ok (.ok verified)))
      (admission : Path (admitTokenHolder py verified gate.policy.admission) es₂
        (.ok (.error .usernameTaken))) :
      PersonRow paths scope (es₁ ++ es₂)
        ⟨some (tableAnswer 403 none "Login failed"), { scope with personPath := true }⟩
  | admitted {token : Str} {es₁ es₂ : List HostEvent} {verified : VerifiedAccessToken}
      {person : AuthenticatedUser} {scope' : Scope} (h : Sent scope (.ok token))
      (verification : Path (gate.policy.relyingParty.verifyAccessToken py token
        paths.authorizedParties) es₁ (.ok (.ok verified)))
      (admission : Path (admitTokenHolder py verified gate.policy.admission) es₂
        (.ok (.ok person)))
      (record : RecordedFor py { scope with personPath := true } (.person person) none scope') :
      PersonRow paths scope (es₁ ++ es₂) ⟨none, scope'⟩

end Rows

/-! ## The columns the code answers -/

theorem isBelow_iff {group held : Str} :
    isBelow group held = true ↔ ∃ rest, held = group ++ str "/" ++ rest := startsWith_iff

theorem isMemberOf_iff {group : Str} {groups : List Str} :
    isMemberOf group groups = true ↔ HoldsGroup group groups := by
  unfold isMemberOf HoldsGroup
  simp only [List.any_eq_true, Bool.or_eq_true, decide_eq_true_eq, isBelow_iff]

/-- The groups of an admin hold the login group, the admin group being below it. -/
theorem HoldsGroup.above {login admin : Str} {groups : List Str} (h : HoldsGroup admin groups)
    (hbelow : isBelow login admin = true) : HoldsGroup login groups := by
  obtain ⟨path, rfl⟩ := isBelow_iff.1 hbelow
  obtain ⟨held, hheld, rfl | ⟨rest, rfl⟩⟩ := h
  · exact ⟨_, hheld, .inr ⟨path, rfl⟩⟩
  · exact ⟨_, hheld, .inr ⟨path ++ (str "/" ++ rest), by simp only [List.append_assoc]⟩⟩

theorem appRole_admin_iff {admission : AdmissionConfig} {groups : List Str} :
    appRole groups admission = some .admin ↔ IsAdmin admission groups := by
  unfold appRole IsAdmin
  constructor
  · intro h
    split_ifs at h with hlogin hadmin
    · obtain ⟨admin, hsome, hmember⟩ := Option.any_eq_true _ _ |>.1 hadmin
      exact ⟨admin, hsome, isMemberOf_iff.1 hmember⟩
    · cases h
  · rintro ⟨admin, hsome, hholds⟩
    have hlogin : ¬(admission.loginGroup.any fun group => !isMemberOf group groups) = true := by
      intro hany
      obtain ⟨login, hlogin, hnot⟩ := Option.any_eq_true _ _ |>.1 hany
      rw [isMemberOf_iff.2 (hholds.above (admission.admin_below login admin hlogin hsome))] at hnot
      cases hnot
    rw [if_neg hlogin, hsome, Option.any_some, if_pos (isMemberOf_iff.2 hholds)]

/-- A request is recorded as the table says, or not at all. -/
theorem recordBearerAdmission_eq_ok {py : Platform} {scope scope' : Scope} {principal : Principal}
    {method : Option Str} : recordBearerAdmission py scope principal method = .ok scope' ↔
      RecordedFor py scope principal method scope' := by
  unfold recordBearerAdmission RecordedFor
  constructor
  · intro h
    split at h
    · rename_i line hline
      cases happ : scope.app with
      | none =>
        rw [happ] at h
        cases h
      | some app =>
        rw [happ] at h
        exact ⟨app, line, rfl, hline, (Except.ok.inj h).symm⟩
    · cases h
  · rintro ⟨app, line, happ, hline, rfl⟩
    rw [hline, happ]
    rfl

theorem admitted_path {py : Platform} {scope : Scope} {principal : Principal}
    {method : Option Str} {es : List HostEvent} {result : GateResult} :
    Path (liftM (BearerGateMiddleware.admitted py scope principal method) : Task GateResult) es
        (.ok result) ↔
      es = [] ∧ ∃ scope', RecordedFor py scope principal method scope' ∧
        result = ⟨none, scope'⟩ := by
  rw [liftM_eq, path_done]
  unfold BearerGateMiddleware.admitted
  constructor
  · rintro ⟨rfl, h⟩
    cases hrecord : recordBearerAdmission py scope principal method with
    | error e =>
      rw [hrecord] at h
      cases h
    | ok scope' =>
      rw [hrecord] at h
      exact ⟨rfl, scope', recordBearerAdmission_eq_ok.1 hrecord, Except.ok.inj h⟩
  · rintro ⟨rfl, scope', hrecord, rfl⟩
    rw [recordBearerAdmission_eq_ok.2 hrecord]
    exact ⟨rfl, rfl⟩

theorem ProtectedResource.challenge_eq (resource : ProtectedResource) (error : Option String) :
    str "Bearer " ++ (str ", ").intercalate (resource.challengeParameters ++
        error.toList.map fun error => str "error=\"" ++ str error ++ str "\"") =
      resource.documentedChallenge error := by
  have hmetadata : str "Bearer resource_metadata=\"" = str "Bearer " ++ str "resource_metadata=\"" := by
    decide
  have hscope : str "\", scope=\"" = str "\"" ++ (str ", " ++ str "scope=\"") := by decide
  have herror : str ", error=\"" = str ", " ++ str "error=\"" := by decide
  unfold documentedChallenge challengeParameters
  rw [hmetadata, hscope, herror]
  cases error with
  | none => simp [List.intercalate]
  | some error => simp [List.intercalate]

/-- A refusal of the resource with an error of its own has the documented columns. -/
theorem GateRefusal.response_resource {refusal : GateRefusal} {resource : ProtectedResource}
    {status : ℕ} {error : Option String} {detail : String} (hother : refusal ≠ .notAMember)
    (hrow : refusal.row = (status, error.map str, str detail)) :
    refusal.response resource.challengeParameters =
      tableAnswer status (resource.documentedChallenge error) detail := by
  have hchallenge : refusal.challenge resource.challengeParameters =
      some (resource.documentedChallenge error) := by
    unfold GateRefusal.challenge
    dsimp only
    rw [if_neg hother, hrow, if_neg (by simp [ProtectedResource.challengeParameters]),
      ← resource.challenge_eq]
    cases error <;> rfl
  unfold GateRefusal.response tableAnswer
  rw [hchallenge, hrow]

section Refused

open BearerGateMiddleware

variable (scope : Scope) (resource : ProtectedResource)

theorem refused_noCredentials : refused scope .noCredentials resource.challengeParameters =
    ⟨some (tableAnswer 401 (resource.documentedChallenge none) "Authentication required"), scope⟩ := by
  have hrow : GateRefusal.noCredentials.row =
      (401, (none : Option String).map str, str "Authentication required") := rfl
  rw [refused, GateRefusal.response_resource (by decide) hrow]

theorem refused_invalidRequest : refused scope .invalidRequest resource.challengeParameters =
    ⟨some (tableAnswer 401 (resource.documentedChallenge "invalid_request") "Invalid request"),
      scope⟩ := by
  have hrow : GateRefusal.invalidRequest.row =
      (401, (some "invalid_request").map str, str "Invalid request") := rfl
  rw [refused, GateRefusal.response_resource (by decide) hrow]

theorem refused_invalidToken : refused scope .invalidToken resource.challengeParameters =
    ⟨some (tableAnswer 401 (resource.documentedChallenge "invalid_token") "Invalid token"),
      scope⟩ := by
  have hrow : GateRefusal.invalidToken.row =
      (401, (some "invalid_token").map str, str "Invalid token") := rfl
  rw [refused, GateRefusal.response_resource (by decide) hrow]

theorem refused_insufficientScope :
    refused scope .resourceInsufficientScope resource.challengeParameters =
      ⟨some (tableAnswer 403 (resource.documentedChallenge "insufficient_scope")
        "Insufficient scope"), scope⟩ := by
  have hrow : GateRefusal.resourceInsufficientScope.row =
      (403, (some "insufficient_scope").map str, str "Insufficient scope") := rfl
  rw [refused, GateRefusal.response_resource (by decide) hrow]

end Refused

/-! ## The code answers the rows -/

section Answers

variable {py : Platform} {gate : BearerGateMiddleware} {scope : Scope} {es : List HostEvent}
  {result : GateResult}

theorem credentialOf_error {refusal : GateRefusal} (h : credentialOf scope = .error refusal) :
    refusal = .noCredentials ∨ refusal = .invalidRequest ∨ refusal = .invalidToken := by
  cases sent_iff.2 h <;> simp

/-- **A machine path is decided by its table.** -/
theorem machineRefusal_iff {paths : MachinePaths} :
    Path (gate.machineRefusal py scope paths) es (.ok result) ↔
      MachineRow py gate paths scope es result := by
  unfold BearerGateMiddleware.machineRefusal
  constructor
  · intro h
    cases hcredential : credentialOf scope with
    | error refusal =>
      have hsent := sent_iff.2 hcredential
      rw [hcredential] at h
      obtain ⟨rfl, hresult⟩ := h
      obtain rfl := Except.ok.inj hresult
      rcases credentialOf_error hcredential with rfl | rfl | rfl
      · exact .noCredentials hsent
      · exact .malformed hsent
      · exact .noToken hsent
    | ok token =>
      have hsent := sent_iff.2 hcredential
      rw [hcredential] at h
      obtain ⟨es₁, es₂, outcome, rfl, hverify, hafter⟩ := path_bind_ok h
      cases outcome with
      | error refusal =>
        obtain ⟨rfl, hresult⟩ := hafter
        obtain rfl := Except.ok.inj hresult
        rw [List.append_nil]
        exact .invalidToken hsent hverify
      | ok verified =>
        dsimp only at hafter
        by_cases hadmin : appRole verified.groups gate.policy.admission = some .admin
        · rw [if_neg (not_not.2 hadmin)] at hafter
          obtain ⟨rfl, scope', hrecord, rfl⟩ := admitted_path.1 hafter
          rw [List.append_nil]
          exact .admin hsent hverify (appRole_admin_iff.1 hadmin) hrecord
        · rw [if_pos hadmin] at hafter
          obtain ⟨rfl, hresult⟩ := hafter
          obtain rfl := Except.ok.inj hresult
          rw [List.append_nil]
          exact .notAdmin hsent hverify (mt appRole_admin_iff.2 hadmin)
  · intro h
    cases h with
    | noCredentials h | malformed h | noToken h =>
      rw [sent_iff.1 h]
      exact ⟨rfl, rfl⟩
    | invalidToken h verification =>
      rw [sent_iff.1 h, ← List.append_nil es]
      exact verification.bind_rest.2 ⟨rfl, rfl⟩
    | notAdmin h verification other =>
      rw [sent_iff.1 h, ← List.append_nil es]
      refine verification.bind_rest.2 ?_
      dsimp only
      rw [if_pos (mt appRole_admin_iff.1 other)]
      exact ⟨rfl, rfl⟩
    | admin h verification isAdmin record =>
      rw [sent_iff.1 h, ← List.append_nil es]
      refine verification.bind_rest.2 ?_
      dsimp only
      rw [if_neg (not_not.2 (appRole_admin_iff.2 isAdmin))]
      exact admitted_path.2 ⟨rfl, _, record, rfl⟩

/-- A resource's check that finds the scope missing has found the resource among the audiences. -/
theorem checkForResource_insufficientScope {resource : ProtectedResource} {token : Str}
    {refusal : OidcRefusal}
    (h : Path (gate.checkForResource py resource token) es (.ok (.error refusal)))
    (hreason : refusal.reason = .insufficientScope) : refusal.tokenRejection = none := by
  unfold BearerGateMiddleware.checkForResource OidcRelyingParty.verifyResourceToken at h
  obtain ⟨es₁, es₂, outcome, rfl, hverify, hafter⟩ := path_bind_ok h
  cases outcome with
  | error other =>
    obtain ⟨-, hresult⟩ := hafter
    cases hresult
    unfold verifyAccessJwt at hverify
    obtain ⟨es₃, es₄, verified, -, -, hreturn⟩ := path_bind_ok hverify
    cases verified with
    | ok claims =>
      obtain ⟨-, hresult⟩ := hreturn
      cases hresult
    | error rejection =>
      obtain ⟨-, hresult⟩ := hreturn
      cases hresult
      cases hreason
  | ok claims =>
    cases hprofile : accessTokenProfile claims resource.authorizedParties resource.url with
    | error other =>
      simp only [hprofile] at hafter
      obtain ⟨-, hresult⟩ := hafter
      cases hresult
      unfold accessTokenProfile at hprofile
      split at hprofile
      · cases hprofile
        rfl
      · split_ifs at hprofile
        · cases hprofile
          rfl
        · cases hprofile
          rfl
        · split at hprofile
          · cases hprofile
            rfl
          · cases hprofile
    | ok profile =>
      simp only [hprofile] at hafter
      split_ifs at hafter
      · obtain ⟨-, hresult⟩ := hafter
        cases hresult
      · obtain ⟨-, hresult⟩ := hafter
        cases hresult
        rfl

/-- What the resource's part of the gate comes to: a row in common, a request that has nothing for
the resource, which a marked route leaves undecided, or a row of the entry point. -/
theorem resourceRefusal_decides {resource : ProtectedResource} {method : Str} {onMarkedRoute : Bool}
    {decided : ResourceResult} (hmethod : scope.method = some method)
    (h : Path (gate.resourceRefusal py scope resource onMarkedRoute) es (.ok decided)) :
    (∃ result, decided = some result ∧ ResourceRow py gate resource method scope es result) ∨
      (onMarkedRoute = true ∧ decided = none ∧ NotForResource py gate resource scope es) ∨
      (onMarkedRoute = false ∧ ∃ result, decided = some result ∧
        EntryPointRow py gate resource method scope es result) := by
  unfold BearerGateMiddleware.resourceRefusal at h
  dsimp only at h
  cases hcredential : credentialOf scope with
  | error refusal =>
    have hsent := sent_iff.2 hcredential
    simp only [hcredential] at h
    by_cases hnone : refusal = .noCredentials
    · subst hnone
      cases onMarkedRoute with
      | true =>
        obtain ⟨rfl, hresult⟩ := h
        exact .inr (.inl ⟨rfl, Except.ok.inj hresult, .noCredentials hsent⟩)
      | false =>
        obtain ⟨rfl, hresult⟩ := h
        obtain rfl := Except.ok.inj hresult
        refine .inr (.inr ⟨rfl, _, rfl, ?_⟩)
        rw [refused_noCredentials]
        exact .noCredentials hsent
    · rw [if_neg (by simp [hnone])] at h
      obtain ⟨rfl, hresult⟩ := h
      obtain rfl := Except.ok.inj hresult
      refine .inl ⟨_, rfl, ?_⟩
      rcases credentialOf_error hcredential with rfl | rfl | rfl
      · exact absurd rfl hnone
      · rw [refused_invalidRequest]
        exact .malformed hsent
      · rw [refused_invalidToken]
        exact .noToken hsent
  | ok token =>
    have hsent := sent_iff.2 hcredential
    simp only [hcredential] at h
    obtain ⟨es₁, es₂, outcome, rfl, hverify, hafter⟩ := path_bind_ok h
    cases outcome with
    | error refusal =>
      dsimp only at hafter
      by_cases haudience : refusal.tokenRejection = some .invalidAudience
      · have hreason : refusal.reason ≠ .insufficientScope := by
          intro hreason
          rw [checkForResource_insufficientScope hverify hreason] at haudience
          cases haudience
        cases onMarkedRoute with
        | true =>
          rw [if_pos (by simp [haudience])] at hafter
          obtain ⟨rfl, hresult⟩ := hafter
          rw [List.append_nil]
          exact .inr (.inl ⟨rfl, Except.ok.inj hresult, .otherAudience hsent hverify haudience⟩)
        | false =>
          rw [if_neg (by simp), if_neg hreason] at hafter
          obtain ⟨rfl, hresult⟩ := hafter
          obtain rfl := Except.ok.inj hresult
          rw [List.append_nil]
          refine .inr (.inr ⟨rfl, _, rfl, ?_⟩)
          rw [refused_invalidToken]
          exact .otherAudience hsent hverify haudience
      · rw [if_neg (by simp [haudience])] at hafter
        obtain ⟨rfl, hresult⟩ := hafter
        obtain rfl := Except.ok.inj hresult
        rw [List.append_nil]
        refine .inl ⟨_, rfl, ?_⟩
        by_cases hreason : refusal.reason = .insufficientScope
        · rw [if_pos hreason, refused_insufficientScope]
          exact .lacksScope hsent hverify hreason
        · rw [if_neg hreason, refused_invalidToken]
          exact .invalidToken hsent hverify haudience hreason
    | ok verified =>
      obtain ⟨es₃, es₄, person, rfl, hadmission, hperson⟩ := path_bind_ok hafter
      cases person with
      | none =>
        obtain ⟨rfl, hresult⟩ := hperson
        obtain rfl := Except.ok.inj hresult
        rw [List.append_nil]
        exact .inl ⟨_, rfl, .notAdmitted hsent hverify hadmission⟩
      | some person =>
        obtain ⟨es₅, es₆, method', rfl, hread, hlater⟩ := path_bind_ok hperson
        rw [Scope.requestMethod, hmethod] at hread
        obtain ⟨rfl, hmethod'⟩ := path_done.1 hread
        obtain rfl := Except.ok.inj hmethod'
        obtain ⟨es₇, es₈, result, rfl, hadmitted, hreturn⟩ := path_bind_ok hlater
        obtain ⟨rfl, scope', hrecord, rfl⟩ := admitted_path.1 hadmitted
        obtain ⟨rfl, hresult⟩ := hreturn
        obtain rfl := Except.ok.inj hresult
        rw [List.nil_append, List.append_nil, List.append_nil]
        exact .inl ⟨_, rfl, .admitted hsent hverify hadmission hrecord⟩

/-- A row in common is the answer at the entry point and on a marked route. -/
theorem ResourceRow.path {resource : ProtectedResource} {method : Str} {onMarkedRoute : Bool}
    (hmethod : scope.method = some method)
    (h : ResourceRow py gate resource method scope es result) :
    Path (gate.resourceRefusal py scope resource onMarkedRoute) es (.ok (some result)) := by
  unfold BearerGateMiddleware.resourceRefusal
  dsimp only
  cases h with
  | malformed h =>
    simp only [sent_iff.1 h]
    rw [if_neg (by simp)]
    rw [refused_invalidRequest]
    exact ⟨rfl, rfl⟩
  | noToken h =>
    simp only [sent_iff.1 h]
    rw [if_neg (by simp)]
    rw [refused_invalidToken]
    exact ⟨rfl, rfl⟩
  | invalidToken h verification audience reason =>
    simp only [sent_iff.1 h]
    rw [← List.append_nil es]
    refine verification.bind_rest.2 ?_
    dsimp only
    rw [if_neg (by simp [audience]), if_neg reason]
    rw [refused_invalidToken]
    exact ⟨rfl, rfl⟩
  | lacksScope h verification reason =>
    simp only [sent_iff.1 h]
    rw [← List.append_nil es]
    refine verification.bind_rest.2 ?_
    dsimp only
    rw [checkForResource_insufficientScope verification reason, if_neg (by simp), if_pos reason]
    rw [refused_insufficientScope]
    exact ⟨rfl, rfl⟩
  | @notAdmitted token es₁ es₂ verified h verification admission =>
    simp only [sent_iff.1 h]
    refine verification.bind_rest.2 ?_
    rw [← List.append_nil es₂]
    exact admission.bind_rest.2 ⟨rfl, rfl⟩
  | @admitted token es₁ es₂ verified person scope' h verification admission record =>
    simp only [sent_iff.1 h]
    refine verification.bind_rest.2 ?_
    rw [← List.append_nil es₂]
    refine admission.bind_rest.2 ?_
    dsimp only
    rw [Scope.requestMethod, hmethod]
    have hadmitted := admitted_path.2 ⟨rfl, scope', record, rfl⟩
    exact hadmitted.bind_rest.2 ⟨rfl, rfl⟩

/-- A marked route leaves a request that has nothing for the resource undecided. -/
theorem NotForResource.path {resource : ProtectedResource}
    (h : NotForResource py gate resource scope es) :
    Path (gate.resourceRefusal py scope resource true) es (.ok none) := by
  unfold BearerGateMiddleware.resourceRefusal
  dsimp only
  cases h with
  | noCredentials h =>
    simp only [sent_iff.1 h]
    exact ⟨rfl, rfl⟩
  | otherAudience h verification audience =>
    simp only [sent_iff.1 h]
    rw [← List.append_nil es]
    refine verification.bind_rest.2 ?_
    dsimp only
    rw [if_pos (by simp [audience])]
    exact ⟨rfl, rfl⟩

/-- **The entry point is decided by its table.** -/
theorem entryPoint_iff {resource : ProtectedResource} {method : Str} {decided : ResourceResult}
    (hmethod : scope.method = some method) :
    Path (gate.resourceRefusal py scope resource false) es (.ok decided) ↔
      ∃ result, decided = some result ∧ EntryPointRow py gate resource method scope es result := by
  constructor
  · intro h
    rcases resourceRefusal_decides hmethod h with ⟨result, hresult, hrow⟩ | ⟨hmarked, -⟩ | ⟨-, hrow⟩
    · exact ⟨result, hresult, .common hrow⟩
    · cases hmarked
    · exact hrow
  · rintro ⟨result, rfl, hrow⟩
    cases hrow with
    | common row => exact row.path hmethod
    | noCredentials h =>
      unfold BearerGateMiddleware.resourceRefusal
      dsimp only
      simp only [sent_iff.1 h]
      rw [if_neg (by simp), refused_noCredentials]
      exact ⟨rfl, rfl⟩
    | otherAudience h verification audience =>
      have hreason := mt (checkForResource_insufficientScope verification) (by simp [audience])
      unfold BearerGateMiddleware.resourceRefusal
      dsimp only
      simp only [sent_iff.1 h]
      rw [← List.append_nil es]
      refine verification.bind_rest.2 ?_
      dsimp only
      rw [if_neg (by simp), if_neg hreason, refused_invalidToken]
      exact ⟨rfl, rfl⟩

/-- **A marked route is decided by the rows in common**, or it is left undecided. -/
theorem markedRoute_iff {resource : ProtectedResource} {method : Str} {decided : ResourceResult}
    (hmethod : scope.method = some method) :
    Path (gate.resourceRefusal py scope resource true) es (.ok decided) ↔
      (∃ result, decided = some result ∧ ResourceRow py gate resource method scope es result) ∨
        (decided = none ∧ NotForResource py gate resource scope es) := by
  constructor
  · intro h
    rcases resourceRefusal_decides hmethod h with hrow | ⟨-, hnone⟩ | ⟨hmarked, -⟩
    · exact .inl hrow
    · exact .inr hnone
    · cases hmarked
  · rintro (⟨result, rfl, hrow⟩ | ⟨rfl, hnone⟩)
    · exact hrow.path hmethod
    · exact hnone.path

/-- The mark of a person path changes nothing a client sends. -/
theorem credentialOf_markPersonPath :
    credentialOf (BearerGateMiddleware.markPersonPath scope) = credentialOf scope := rfl

/-- **A person path is decided by its table.** -/
theorem personRefusal_iff {paths : PersonPaths} :
    Path (gate.personRefusal py (BearerGateMiddleware.markPersonPath scope) paths) es (.ok result) ↔
      PersonRow py gate paths scope es result := by
  unfold BearerGateMiddleware.personRefusal
  rw [credentialOf_markPersonPath]
  constructor
  · intro h
    cases hcredential : credentialOf scope with
    | error refusal =>
      have hsent := sent_iff.2 hcredential
      rw [hcredential] at h
      rcases credentialOf_error hcredential with rfl | rfl | rfl
      · obtain ⟨rfl, hresult⟩ := h
        obtain rfl := Except.ok.inj hresult
        exact .noCredentials hsent
      · obtain ⟨rfl, hresult⟩ := h
        obtain rfl := Except.ok.inj hresult
        exact .malformed hsent
      · obtain ⟨rfl, hresult⟩ := h
        obtain rfl := Except.ok.inj hresult
        exact .noToken hsent
    | ok token =>
      have hsent := sent_iff.2 hcredential
      rw [hcredential] at h
      obtain ⟨es₁, es₂, outcome, rfl, hverify, hafter⟩ := path_bind_ok h
      cases outcome with
      | error refusal =>
        obtain ⟨rfl, hresult⟩ := hafter
        obtain rfl := Except.ok.inj hresult
        rw [List.append_nil]
        exact .invalidToken hsent hverify
      | ok verified =>
        obtain ⟨es₃, es₄, admission, rfl, hadmission, hlast⟩ := path_bind_ok hafter
        cases admission with
        | ok person =>
          obtain ⟨rfl, scope', hrecord, rfl⟩ := admitted_path.1 hlast
          rw [List.append_nil]
          exact .admitted hsent hverify hadmission hrecord
        | error cause =>
          obtain ⟨es₅, es₆, refusal, rfl, hrefusal, hreturn⟩ := path_bind_ok hlast
          obtain ⟨rfl, hcause⟩ := path_done.1 hrefusal
          obtain ⟨rfl, hresult⟩ := hreturn
          obtain rfl := Except.ok.inj hresult
          rw [List.nil_append, List.append_nil]
          cases cause with
          | foreignIssuer => cases hcause
          | notAMember =>
            obtain rfl := Except.ok.inj hcause
            exact .notMember hsent hverify hadmission
          | usernameTaken =>
            obtain rfl := Except.ok.inj hcause
            exact .usernameTaken hsent hverify hadmission
  · intro h
    cases h with
    | noCredentials h | malformed h | noToken h =>
      rw [sent_iff.1 h]
      exact ⟨rfl, rfl⟩
    | invalidToken h verification =>
      rw [sent_iff.1 h, ← List.append_nil es]
      exact verification.bind_rest.2 ⟨rfl, rfl⟩
    | @notMember token es₁ es₂ verified h verification admission
    | @usernameTaken token es₁ es₂ verified h verification admission =>
      rw [sent_iff.1 h]
      refine verification.bind_rest.2 ?_
      rw [← List.append_nil es₂]
      exact admission.bind_rest.2 ⟨rfl, rfl⟩
    | @admitted token es₁ es₂ verified person scope' h verification admission record =>
      rw [sent_iff.1 h]
      refine verification.bind_rest.2 ?_
      rw [← List.append_nil es₂]
      exact admission.bind_rest.2 (admitted_path.2 ⟨rfl, scope', record, rfl⟩)

end Answers

end WebAuth
