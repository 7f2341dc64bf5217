import WebAuth.Effects.Schedules
import WebAuth.GrantCalls
import WebAuth.KeySetCache
import WebAuth.SignInRoutes

/-!
# Operations over one store

A store whose calls are atomic and obey the port, and the operations that share it: admissions, the
calls that ask the issuer, sign-ins and logouts. Between two calls of one operation any calls of
others may happen.
-/

namespace WebAuth

open Python Effects Program

/-! ## The store -/

/-- The sessions a store holds, and every id it has handed out. -/
structure SessionRows where
  rows : Str → Option SessionRecord
  minted : List Str
  handedOut : ∀ id, (rows id).isSome = true → id ∈ minted

/-- The sessions after rows changed in place. -/
def SessionRows.modified (s : SessionRows) (f : Str → SessionRecord → SessionRecord) :
    SessionRows where
  rows id := (s.rows id).map (f id)
  minted := s.minted
  handedOut id h := s.handedOut id (by simpa using h)

/-- The sessions after all but some were deleted. -/
def SessionRows.restricted (s : SessionRows) (keeps : Str → SessionRecord → Bool) :
    SessionRows where
  rows id := (s.rows id).filter (keeps id)
  minted := s.minted
  handedOut id h := s.handedOut id (by
    obtain ⟨row, hrow⟩ := Option.isSome_iff_exists.1 h
    rw [(Option.filter_eq_some_iff.1 hrow).1]
    rfl)

/-- The sessions with one more under a new id. -/
def SessionRows.inserted (s : SessionRows) (row : SessionRecord) : SessionRows where
  rows := Function.update s.rows row.id (some row)
  minted := row.id :: s.minted
  handedOut id h := by
    by_cases hid : id = row.id
    · exact hid ▸ List.mem_cons_self
    · rw [Function.update_of_ne hid] at h
      exact List.mem_cons_of_mem _ (s.handedOut id h)

/-- A change of the row under one id. -/
def onRow (id : Str) (f : SessionRecord → SessionRecord) (other : Str) (row : SessionRecord) :
    SessionRecord :=
  if other = id then f row else row

/-- `touch` writes the expiry it is given. -/
def SessionRecord.touched (expiresAt : DateTime) (row : SessionRecord) : SessionRecord :=
  { row with expiresAt }

/-- `replace_refresh_token` writes the token it is given. -/
def SessionRecord.replaced (token : Str) (row : SessionRecord) : SessionRecord :=
  { row with refreshToken := some token }

/-- `set_role` as a row's account shows it. -/
def SessionRecord.withRole (userId role : Str) (row : SessionRecord) : SessionRecord :=
  if row.user.id = userId then { row with user := { row.user with role } } else row

/-- The store's port: a call that fails changes nothing, `touch` and `replace_refresh_token` update
a row that exists and say so, `create` mints a new id, `prune_overflow` deletes rows of the one
account. Every other call may get any answer and leaves the sessions alone. -/
def sessionStore : Handler SessionRows hostCalls Exn
  | s, _, .error e, s' => e.isPrivate = false ∧ s' = s
  | s, .load id, .ok record, s' => record = s.rows id ∧ s' = s
  | s, .touch id expiresAt, .ok answer, s' => answer = .bool (s.rows id).isSome ∧
      s' = s.modified (onRow id (.touched expiresAt))
  | s, .replaceRefreshToken id token, .ok answer, s' => answer = .bool (s.rows id).isSome ∧
      s' = s.modified (onRow id (.replaced token))
  | s, .create userId now expiresAt refreshToken idToken, .ok record, s' => record.id ∉ s.minted ∧
      (∃ user : UserRecord, user.id = userId ∧
        record = ⟨record.id, user, now, expiresAt, refreshToken, idToken⟩) ∧ s' = s.inserted record
  | s, .delete id, .ok _, s' => s' = s.restricted fun other _ => other ≠ id
  | s, .deleteForUser userId, .ok _, s' => s' = s.restricted fun _ row => row.user.id ≠ userId
  | s, .pruneOverflow userId _, .ok _, s' => ∃ keeps, s' = s.restricted keeps ∧
      ∀ id row, row.user.id ≠ userId → keeps id row = true
  | s, .setRole userId role, .ok _, s' => s' = s.modified fun _ => .withRole userId role
  | s, _, .ok _, s' => s' = s

/-! ## The operations -/

/-- An operation on the sessions. -/
inductive SessionOperation where
  | admission (config : WebAuthConfig) (sessionId : Str)
  | accessToken (rp : OidcRelyingParty) (config : WebAuthConfig) (sessionId : Str)
  | groups (rp : OidcRelyingParty) (config : WebAuthConfig) (sessionId : Str)
  | signIn (routes : SignIn) (scope : Scope)
  | logout (scope : Scope)
  | backchannelLogout (scope : Scope)

/-- What an operation answers. -/
inductive OperationAnswer where
  | admission (decision : SessionDecision)
  | accessToken (token : Except AccessTokenRefusal Str)
  | groups (groups : Except AccessTokenRefusal (List Str))
  | routed (answer : Routed)

/-- The program of an operation. -/
def SessionOperation.run (py : Platform) : SessionOperation → Task OperationAnswer
  | admission config sessionId => OperationAnswer.admission <$> admitSession config sessionId
  | accessToken rp config sessionId =>
    OperationAnswer.accessToken <$> freshAccessToken py rp config sessionId
  | groups rp config sessionId => OperationAnswer.groups <$> currentGroups py rp config sessionId
  | signIn routes scope => OperationAnswer.routed <$> routes.callback py scope
  | logout scope => OperationAnswer.routed <$> SignIn.logout py scope
  | backchannelLogout scope => OperationAnswer.routed <$> SignIn.backchannelLogout py scope

/-- A run of operations on one store. -/
abbrev StoreRun {ι : Type} [DecidableEq ι] (py : Platform) (ops : ι → SessionOperation)
    (s₀ : SessionRows) (h : List (ι × HostEvent)) (s : SessionRows)
    (pool : ι → Task OperationAnswer) : Prop :=
  Run sessionStore s₀ (fun i => (ops i).run py) h s pool

/-! ## An admission, by its calls -/

section Admission

variable {P : HostEvent → Prop} {config : WebAuthConfig} {sessionId : Str}

/-- A loaded row is admitted at a reading of the clock, and renewed to an expiry. -/
def AdmittedAt (config : WebAuthConfig) (row : SessionRecord) (reading : ℚ) (expiresAt : DateTime) :
    Prop :=
  ∃ now, DateTime.fromTimestamp (truncate reading) = some now ∧
    isAdmitted config.sessionLifetime row now = .ok true ∧
    renewedExpiry config.sessionLifetime now (asInstant row.createdAt) = .ok expiresAt

/-- The calls an admission makes before it renews a row. -/
def admissionRead (sessionId : Str) (row : Option SessionRecord) (reading : ℚ) : List HostEvent :=
  [⟨.load sessionId, .ok row⟩, ⟨.wallClock, .ok reading⟩]

/-- What an answer of `touch` makes of an admission. -/
def touchedDecision (row : SessionRecord) (ans : Except Exn StoreAnswer) :
    Except Exn SessionDecision :=
  (ans.bind (storeBool "touch")).map fun renewed =>
    if renewed then .ok row.user.authenticated else .error .sessionEndedOrExpired

/-- The calls of `admit_session` from its first to its last, and how it ends. -/
inductive Admits (config : WebAuthConfig) (sessionId : Str) :
    List HostEvent → Except Exn SessionDecision → Prop
  | unread {tr e} (untouched : rowWrites tr = []) : Admits config sessionId tr (.error e)
  | refused {row reading} :
      Admits config sessionId (admissionRead sessionId row reading)
        (.ok (.error .sessionEndedOrExpired))
  | touched {row reading expiresAt ans} (admitted : AdmittedAt config row reading expiresAt) :
      Admits config sessionId
        (admissionRead sessionId (some row) reading ++ [⟨.touch sessionId expiresAt, ans⟩])
        (touchedDecision row ans)

/-- Which calls an admission makes, by its own history. -/
def AdmissionAllowed (config : WebAuthConfig) (sessionId : Str) (es : List HostEvent) :
    HostCall → Prop
  | .load loaded => loaded = sessionId
  | .wallClock => True
  | .touch touched expiresAt => touched = sessionId ∧ ∃ row reading,
      es = admissionRead sessionId (some row) reading ∧ AdmittedAt config row reading expiresAt
  | _ => False

/-- **What `admit_session` does.** -/
theorem admitSession_records :
    Ensures (record fun _ e => P e) (AdmissionAllowed config sessionId)
      (admitSession config sessionId) [] fun r tr => Admits config sessionId tr r := by
  simp only [admitSession, wholeSecondNow, invoke_eq, bind_eq, call_andThen, done_andThen,
    ensures_record_call]
  refine ⟨rfl, ?_⟩
  rintro (e | row) -
  · exact .unread rfl
  simp only [onReturn_ok, ensures_record_call]
  refine ⟨trivial, ?_⟩
  rintro (e | reading) -
  · exact .unread rfl
  simp only [onReturn_ok, liftM_eq, done_andThen]
  have hraise : ∀ e, Admits config sessionId (admissionRead sessionId row reading) (.error e) :=
    fun e => .unread rfl
  cases hnow : DateTime.fromTimestamp (truncate reading) with
  | none => exact hraise _
  | some now =>
    simp only [orOverflow, orRaise, onReturn_ok]
    cases row with
    | none => exact .refused
    | some row =>
      cases hadm : isAdmitted config.sessionLifetime row now with
      | error e =>
        simp only [stands, hadm, Except.map]
        exact hraise _
      | ok admitted =>
        cases admitted with
        | false =>
          simp only [stands, hadm, Except.map]
          exact .refused
        | true =>
          simp only [stands, hadm, Except.map, if_true, onReturn_ok]
          cases hrenewed : renewedExpiry config.sessionLifetime now (asInstant row.createdAt) with
          | error e => exact hraise _
          | ok expiresAt =>
            have hadmitted : AdmittedAt config row reading expiresAt := ⟨now, hnow, hadm, hrenewed⟩
            simp only [onReturn_ok, ensures_record_call]
            refine ⟨⟨rfl, row, reading, rfl, hadmitted⟩, ?_⟩
            rintro ans -
            rcases ans with e | ⟨_ | _⟩ | typeName <;> exact Admits.touched hadmitted

end Admission

/-! ## Each operation alone -/

section Alone

variable {py : Platform} {P : HostEvent → Prop}

/-- Which calls an operation makes, by its own history. The routes make any. -/
def SessionOperation.allows (py : Platform) : SessionOperation → List HostEvent → HostCall → Prop
  | admission config sessionId => AdmissionAllowed config sessionId
  | accessToken rp _ sessionId => GrantAllowed py rp sessionId
  | groups rp _ sessionId => GrantAllowed py rp sessionId
  | _ => fun _ _ => True

/-- How an operation ends after the calls `tr`. -/
def SessionOperation.Ends (py : Platform) (P : HostEvent → Prop) (tr : List HostEvent)
    (r : Except Exn OperationAnswer) : SessionOperation → Prop
  | admission config sessionId => ∃ decision, r = decision.map .admission ∧
      Admits config sessionId tr decision
  | accessToken rp config sessionId => ∃ token, r = token.map .accessToken ∧
      Asked P config sessionId (fun held => Renews py rp held.refreshToken)
        RenewedAccess.refreshToken (fun renewed => .ok renewed.accessToken) tr token
  | groups rp config sessionId => ∃ paths, r = paths.map .groups ∧
      Asked P config sessionId (fun held => ReadsGroups py rp held.refreshToken held.subject)
        RefreshedGroups.refreshToken RefreshedGroups.groups tr paths
  | _ => True

theorem map_ensures {α β : Type} {ok : List HostEvent → HostCall → Prop} {p : Task α} {f : α → β}
    {es : List HostEvent} {Q : Except Exn α → List HostEvent → Prop}
    (hp : Ensures (record fun _ e => P e) ok p es Q) :
    Ensures (record fun _ e => P e) ok (f <$> p) es fun r tr => ∃ r', r = r'.map f ∧ Q r' tr := by
  simp only [map_eq, ensures_andThen]
  refine hp.mono fun r tr hq => ?_
  cases r with
  | ok a => exact ⟨_, rfl, hq⟩
  | error e => exact ⟨_, rfl, hq⟩

/-- Every operation makes the calls it is allowed to, and ends as it should. -/
theorem SessionOperation.run_ensures (op : SessionOperation) :
    Ensures (record fun _ e => P e) (op.allows py) (op.run py) [] fun r tr => op.Ends py P tr r := by
  have hroute : ∀ p : Task OperationAnswer,
      Ensures (record fun _ e => P e) (fun _ _ => True) p [] fun _ _ => True :=
    fun p => ensures_path.mono fun _ _ _ => trivial
  cases op with
  | admission config sessionId => exact map_ensures admitSession_records
  | accessToken rp config sessionId =>
    exact (map_ensures (freshAccessToken_ensures.mono fun _ _ h => h.1)).allow fun _ _ h => h.1
  | groups rp config sessionId => exact map_ensures (currentGroups_ensures.mono fun _ _ h => h.1)
  | signIn => exact hroute _
  | logout => exact hroute _
  | backchannelLogout => exact hroute _

end Alone

/-! ## Ids are handed out once -/

/-- What one call, and so any number of them, does to the ids: none is taken back, and one that is
stored no more stays so. -/
structure SessionRows.LeadsTo (s s' : SessionRows) : Prop where
  minted : s.minted ⊆ s'.minted
  gone : ∀ id ∈ s.minted, s.rows id = none → s'.rows id = none

theorem SessionRows.LeadsTo.refl (s : SessionRows) : s.LeadsTo s :=
  ⟨List.Subset.refl _, fun _ _ h => h⟩

theorem SessionRows.LeadsTo.trans {s s₁ s₂ : SessionRows} (h : s.LeadsTo s₁) (h' : s₁.LeadsTo s₂) :
    s.LeadsTo s₂ :=
  ⟨List.Subset.trans h.minted h'.minted, fun id hid hgone => h'.gone id (h.minted hid) (h.gone id hid hgone)⟩

theorem SessionRows.leadsTo_modified (s : SessionRows) (f : Str → SessionRecord → SessionRecord) :
    s.LeadsTo (s.modified f) :=
  ⟨List.Subset.refl _, fun id _ h => by simp [SessionRows.modified, h]⟩

theorem SessionRows.leadsTo_restricted (s : SessionRows) (keeps : Str → SessionRecord → Bool) :
    s.LeadsTo (s.restricted keeps) :=
  ⟨List.Subset.refl _, fun id _ h => by simp [SessionRows.restricted, h]⟩

theorem SessionRows.leadsTo_inserted {s : SessionRows} {row : SessionRecord}
    (hnew : row.id ∉ s.minted) : s.LeadsTo (s.inserted row) := by
  refine ⟨List.subset_cons_self _ _, fun id hid h => ?_⟩
  have hne : id ≠ row.id := fun heq => hnew (heq ▸ hid)
  show Function.update s.rows row.id (some row) id = none
  rw [Function.update_of_ne hne, h]

theorem sessionStore_leadsTo {s s' : SessionRows} {c : HostCall} {ans : Except Exn c.Answer}
    (hstore : sessionStore s c ans s') : s.LeadsTo s' := by
  cases ans with
  | error e =>
    obtain ⟨-, rfl⟩ := hstore
    exact .refl _
  | ok a =>
    cases c
    case load =>
      obtain ⟨-, rfl⟩ := hstore
      exact .refl _
    case touch =>
      obtain ⟨-, rfl⟩ := hstore
      exact s.leadsTo_modified _
    case replaceRefreshToken =>
      obtain ⟨-, rfl⟩ := hstore
      exact s.leadsTo_modified _
    case create =>
      obtain ⟨hnew, -, rfl⟩ := hstore
      exact SessionRows.leadsTo_inserted hnew
    case delete =>
      obtain rfl := hstore
      exact s.leadsTo_restricted _
    case deleteForUser =>
      obtain rfl := hstore
      exact s.leadsTo_restricted _
    case pruneOverflow =>
      obtain ⟨keeps, rfl, -⟩ := hstore
      exact s.leadsTo_restricted _
    case setRole =>
      obtain rfl := hstore
      exact s.leadsTo_modified _
    all_goals
      obtain rfl : s' = s := hstore
      exact .refl _

/-- **What a run does to the ids.** -/
theorem run_leadsTo {ι : Type} [DecidableEq ι] {progs pool : ι → Task OperationAnswer}
    {s s' : SessionRows} {h : List (ι × HostEvent)} (hr : Run sessionStore s progs h s' pool) :
    s.LeadsTo s' :=
  hr.invariant (J := fun _ s₁ => s.LeadsTo s₁) (.refl s)
    fun _ _ _ _ _ _ hlead hstore => hlead.trans (sessionStore_leadsTo hstore)

/-! ## Scheduled runs -/

/-- What the surroundings choose at a call. -/
inductive HostChoice where
  | plain
  | reading (t : ℚ)
  | exchanged (answer : TokenEndpointAnswer)
  | worded (text : LogoutPageText)
  | bound (rp : OidcRelyingParty)

/-- How the store and its surroundings answer a call for a choice. -/
def respondStore :
    HostChoice → SessionRows → (c : HostCall) → Option (Except Exn c.Answer × SessionRows)
  | .plain, s, .enter _ => some (.ok (), s)
  | .plain, s, .leave _ _ => some (.ok (), s)
  | .plain, s, .load id => some (.ok (s.rows id), s)
  | .plain, s, .touch id expiresAt =>
    some (.ok (.bool (s.rows id).isSome), s.modified (onRow id (.touched expiresAt)))
  | .plain, s, .replaceRefreshToken id token =>
    some (.ok (.bool (s.rows id).isSome), s.modified (onRow id (.replaced token)))
  | .plain, s, .delete id => some (.ok (), s.restricted fun other _ => other ≠ id)
  | .reading t, s, .wallClock => some (.ok t, s)
  | .exchanged answer, s, .postTokenRequest _ => some (.ok answer, s)
  | .worded text, s, .pageText _ => some (.ok text, s)
  | .bound rp, s, .relyingParty _ => some (.ok rp, s)
  | _, _, _ => none

/-- The responder of the store. -/
def storeResponder : Responder sessionStore HostChoice where
  respond := respondStore
  allowed x s c ans s' h := by
    unfold respondStore at h
    split at h
    all_goals first
      | cases h; done
      | (cases h; first | rfl | exact ⟨rfl, rfl⟩)

/-- Where a run of operations on one store stands. -/
abbrev StoreMoment (ι : Type) := Moment SessionRows ι hostCalls Exn OperationAnswer

/-- A session opened at second 0 that lasts to second 100. -/
def demoRow : SessionRecord where
  id := str "s"
  user := ⟨str "u", str "u", str "user"⟩
  createdAt := ⟨seconds 0, some 0, by decide⟩
  expiresAt := ⟨seconds 100, some 0, by decide⟩
  refreshToken := some (str "r")
  idToken := none

/-- A store that holds this session alone. -/
def demoRows : SessionRows := (⟨fun _ => none, [], by simp⟩ : SessionRows).inserted demoRow

/-- A client of an issuer. -/
def demoClient : OidcClientConfig where
  issuer := str "https://issuer"
  authorizationEndpoint := str "https://issuer/authorize"
  tokenEndpoint := str "https://issuer/token"
  jwksUrl := str "https://issuer/jwks"
  endSessionEndpoint := str "https://issuer/logout"
  clientId := str "client"
  clientSecret := str "secret"
  redirectUri := str "https://app/auth/callback"
  postLogoutRedirectUri := str "https://app/"
  scopes := [str "openid"]
  leewaySeconds := 0
  clientId_nonempty := by decide

/-- Its relying party. -/
def demoRelyingParty : OidcRelyingParty where
  config := demoClient
  clientAuthorization := str "Basic Y2xpZW50OnNlY3JldA=="
  jwtVerifier := 0
  clientAuthorization_eq := by decide +kernel

/-- An answer of the token endpoint that holds the access token `a` of a type, and rotates. -/
def grantBody (tokenType refreshToken : Str) : Bytes :=
  (encode (str "\x7b\"token_type\":\"" ++ tokenType ++ str "\",\"access_token\":\"a\"," ++
    str "\"refresh_token\":\"" ++ refreshToken ++ str "\"\x7d")).getD []

/-- What that answer holds. -/
def grantValue (tokenType refreshToken : Str) : Json :=
  .obj [(str "token_type", .str tokenType), (str "access_token", .str (str "a")),
    (str "refresh_token", .str refreshToken)]

/-- The surroundings of concrete runs, with the answers of the token endpoint in them. -/
def grantPlatform : Platform :=
  { demoPlatform with
    jsonLoads := fun body =>
      ([(str "Bearer", str "q"), (str "DPoP", str "q")].find? fun grant =>
        grantBody grant.1 grant.2 = body).map fun grant => grantValue grant.1 grant.2 }

end WebAuth
