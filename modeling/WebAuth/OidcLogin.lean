import WebAuth.Admit
import WebAuth.Paths
import WebAuth.RelyingParty

/-!
# Signing in and out, and what a session yields

The writes of a sign-in, the access token and the groups of a standing session, and the logout that
the issuer orders. The session row is read in one transaction, the issuer is asked with none open,
and a second transaction reads the row again and stores the rotated refresh token.
-/

namespace WebAuth

open Python Effects Program

/-- `AccessTokenRefusalReason`. -/
inductive AccessTokenRefusalReason where
  | sessionEnded
  | signInAgain
  | issuerUnavailable
  deriving DecidableEq

/-- `AccessTokenRefusal`. -/
structure AccessTokenRefusal where
  reason : AccessTokenRefusalReason
  issuerRefusal : Option OidcRefusal := none
  deriving DecidableEq

/-- `_SESSION_ENDED`. -/
def sessionEnded : AccessTokenRefusal := { reason := .sessionEnded }

/-- `_SIGN_IN_AGAIN`. -/
def signInAgain : AccessTokenRefusal := { reason := .signInAgain }

/-- `_refusal_of_grant`. -/
def refusalOfGrant (refusal : OidcRefusal) : AccessTokenRefusal :=
  if refusal.reason = .tokenRequestRefused && refusal.idpError = some (str "invalid_grant") then
    signInAgain
  else { reason := .issuerUnavailable, issuerRefusal := some refusal }

/-! ## The session's evidence -/

/-- `_StandingEvidence`. -/
structure StandingEvidence where
  refreshToken : Str
  subject : Str
  deriving DecidableEq

/-- A loaded session that stands at the clock's whole second. No clock is read for a missing one. -/
def standingSession (config : WebAuthConfig) :
    Option SessionRecord → Task (Option SessionRecord)
  | none => return none
  | some record => do
    let now ← wholeSecondNow
    stands config.sessionLifetime now (some record)

/-- What a standing session has to show. -/
def evidenceOf : Option SessionRecord → Except AccessTokenRefusal StandingEvidence
  | none => .error sessionEnded
  | some record =>
    match record.refreshToken with
    | none => .error signInAgain
    | some refreshToken => .ok ⟨refreshToken, record.user.id⟩

/-- `_evidence_of_standing_session`. -/
def evidenceOfStandingSession (config : WebAuthConfig) (sessionId : Str) :
    Task (Except AccessTokenRefusal StandingEvidence) :=
  within .session do
    let record ← invoke (.load sessionId)
    let standing ← standingSession config record
    return evidenceOf standing

/-- `_stored`. -/
def stored (sessionId refreshToken : Str) : Task Bool := do
  let answer ← invoke (.replaceRefreshToken sessionId refreshToken)
  storeBool "replace_refresh_token" answer

/-- The refresh token `_kept_after_grant` stores: a received one that differs from the one sent. -/
def replacement (sent : Str) : Option Str → Option Str
  | none => none
  | some rotated => if rotated ≠ sent then some rotated else none

/-- Whether a session stands once its replaced refresh token is stored. -/
def standsStored (sessionId : Str) (replaced : Option Str) : Option SessionRecord → Task Bool
  | none => return false
  | some _ =>
    match replaced with
    | none => return true
    | some token => stored sessionId token

/-- `_kept_after_grant`. -/
def keptAfterGrant (config : WebAuthConfig) (sessionId sent : Str) (rotated : Option Str) :
    Task Bool :=
  within .session do
    let record ← invoke (.load sessionId)
    let standing ← standingSession config record
    standsStored sessionId (replacement sent rotated) standing

/-- `fresh_access_token`. -/
def freshAccessToken (py : Platform) (rp : OidcRelyingParty) (config : WebAuthConfig)
    (sessionId : Str) : Task (Except AccessTokenRefusal Str) := do
  match ← evidenceOfStandingSession config sessionId with
  | .error cause => return .error cause
  | .ok held => do
    match ← rp.renewAccess py held.refreshToken with
    | .error cause => return .error (refusalOfGrant cause)
    | .ok renewed => do
      if ← keptAfterGrant config sessionId held.refreshToken renewed.refreshToken then
        return .ok renewed.accessToken
      else return .error sessionEnded

/-- `current_groups`. -/
def currentGroups (py : Platform) (rp : OidcRelyingParty) (config : WebAuthConfig)
    (sessionId : Str) : Task (Except AccessTokenRefusal (List Str)) := do
  match ← evidenceOfStandingSession config sessionId with
  | .error cause => return .error cause
  | .ok held => do
    match ← rp.refreshedGroups py held.refreshToken held.subject with
    | .error cause => return .error (refusalOfGrant cause)
    | .ok refreshed => do
      if ← keptAfterGrant config sessionId held.refreshToken refreshed.refreshToken then
        match refreshed.groups with
        | .error cause => return .error (refusalOfGrant cause)
        | .ok groups => return .ok groups
      else return .error sessionEnded

/-! ## Admission of accounts -/

/-- `_Claimant`: whom the issuer vouched for. -/
structure Claimant where
  subject : Str
  preferredUsername : Option Str

/-- The claimant an identity is. -/
def OidcIdentity.claimant (identity : OidcIdentity) : Claimant :=
  ⟨identity.subject, identity.preferredUsername⟩

/-- The claimant a verified access token names. -/
def VerifiedAccessToken.claimant (verified : VerifiedAccessToken) : Claimant :=
  ⟨verified.subject, verified.preferredUsername⟩

/-- `_username_for`. -/
def usernameFor (py : Platform) (claimant : Claimant) : Str :=
  match claimant.preferredUsername with
  | some suggested =>
    if suggested ≠ [] && !suggested.all py.isSpace then suggested else claimant.subject
  | none => claimant.subject

/-- A taken username leaves the transaction as a signal; every other exception passes through. -/
def usernameTaken : Exn → Task UserRecord
  | .usernameTakenError => throw .usernameTakenSignal
  | e => throw e

/-- `_provision`. -/
def provision (py : Platform) (claimant : Claimant) (role : Str) : Task UserRecord := do
  let username := usernameFor py claimant
  let account ← tryCatch (invoke (.createForSubject claimant.subject username role)) usernameTaken
  invoke (.accountEvent
    { kind := .userCreated, actorId := none, subjectId := account.id, role := some account.role })
  return account

/-- `_with_role`. -/
def withRole (account : UserRecord) (role : Str) : Task UserRecord :=
  if account.role = role then return account
  else do
    let updated ← invoke (.setRole account.id role)
    invoke (.accountEvent
      { kind := .roleChanged, actorId := none, subjectId := updated.id, role := some role,
        previousRole := some account.role })
    return updated

/-- `_admit_account`. -/
def admitAccount (py : Platform) (claimant : Claimant) (role : Str) : Task UserRecord := do
  match ← invoke (.getAccount claimant.subject) with
  | none => provision py claimant role
  | some account => withRole account role

/-- The calls on accounts and the audit. -/
def HostCall.OnAccounts : HostCall → Prop
  | getAccount _ => True
  | createForSubject _ _ _ => True
  | setRole _ _ => True
  | accountEvent _ => True
  | _ => False

theorem admitAccount_only (py : Platform) (claimant : Claimant) (role : Str) :
    Only HostCall.OnAccounts (admitAccount py claimant role) := by
  refine Only.bind ⟨trivial, only_done⟩ fun found => ?_
  cases found with
  | none =>
    refine Only.bind (Only.andThen ⟨trivial, only_done⟩ (Only.onRaise fun e => ?_)) fun account =>
      Only.bind ⟨trivial, only_done⟩ fun _ => trivial
    cases e <;> trivial
  | some account =>
    show Only _ (withRole account role)
    unfold withRole
    split
    · trivial
    · exact Only.bind ⟨trivial, only_done⟩ fun _ => Only.bind ⟨trivial, only_done⟩ fun _ => trivial

/-- `_AdmittedLogin`. -/
structure AdmittedLogin where
  identity : OidcIdentity
  role : Str

/-- `_decide_admission`. -/
def decideAdmission (identity : OidcIdentity) (admission : AdmissionConfig) :
    Except AdmissionRefusal AdmittedLogin :=
  if identity.issuer ≠ admission.boundIssuer then .error .foreignIssuer
  else
    match appRole identity.groups admission with
    | none => .error .notAMember
    | some derived => .ok ⟨identity, derived.value⟩

/-! ## A sign-in's writes -/

/-- The options of the sign-in routes. A cap is a positive number, so it is kept as the sessions
that stay besides the new one. -/
structure SignInOptions where
  keepsIdToken : Bool
  maxSessionsPred : Option ℕ

/-- The opening of a session at the whole second `now`. -/
def openSession (config : WebAuthConfig) (options : SignInOptions) (identity : OidcIdentity)
    (accountId : Str) (now : DateTime) : Task Str := do
  let expiresAt ← renewedExpiry config.sessionLifetime now now
  let record ← invoke (.create accountId now expiresAt identity.refreshToken
    (if options.keepsIdToken then some identity.idToken else none))
  return record.id

/-- Delete the session a new one replaces. -/
def endReplaced : Option Str → Task Unit
  | none => return ()
  | some sessionId => invoke (.delete sessionId)

/-- End all but the newest sessions of an account. -/
def pruneTo (accountId : Str) : Option ℕ → Task Unit
  | none => return ()
  | some keepNewest => invoke (.pruneOverflow accountId keepNewest)

/-- `_write_sign_in`: the id of the session it opens. -/
def writeSignIn (py : Platform) (config : WebAuthConfig) (options : SignInOptions)
    (admitted : AdmittedLogin) (replacedSessionId : Option Str) : Task Str := do
  let account ← admitAccount py admitted.identity.claimant admitted.role
  let now ← wholeSecondNow
  endReplaced replacedSessionId
  pruneTo account.id options.maxSessionsPred
  openSession config options admitted.identity account.id now

/-- The calls of a sign-in after its account: the clock, and those on sessions, for that account
where they name one. -/
theorem sessionWrites_only {P : HostCall → Prop} {accountId : Str} (config : WebAuthConfig)
    (options : SignInOptions) (identity : OidcIdentity) (replacedSessionId : Option Str)
    (hclock : P .wallClock) (hdelete : ∀ id, P (.delete id))
    (hprune : ∀ keepNewest, P (.pruneOverflow accountId keepNewest))
    (hcreate : ∀ now expiresAt refreshToken idToken,
      P (.create accountId now expiresAt refreshToken idToken)) :
    Only P (do
      let now ← wholeSecondNow
      endReplaced replacedSessionId
      pruneTo accountId options.maxSessionsPred
      openSession config options identity accountId now) := by
  have hended : Only P (endReplaced replacedSessionId) := by
    cases replacedSessionId with
    | none => trivial
    | some id => exact only_invoke (hdelete id)
  have hpruned : Only P (pruneTo accountId options.maxSessionsPred) := by
    cases options.maxSessionsPred with
    | none => trivial
    | some keepNewest => exact only_invoke (hprune keepNewest)
  refine Only.bind (Only.bind (only_invoke hclock) fun _ => only_done _) fun now => ?_
  refine Only.bind hended fun _ => Only.bind hpruned fun _ => ?_
  exact Only.bind (only_done _) fun _ => Only.bind (only_invoke (hcreate _ _ _ _)) fun _ => trivial

/-! ## Logouts -/

/-- `_id_token_of_ended_session`. -/
def idTokenOfEndedSession (sessionId : Str) : Task (Option Str) := do
  let record ← invoke (.load sessionId)
  invoke (.delete sessionId)
  return record.bind (·.idToken)

/-- The part of `_receive_backchannel_logout` in its transaction. -/
def endSessionsOf (subject : Str) : Task Unit := do
  match ← invoke (.getAccount subject) with
  | none => return ()
  | some account => do
    if (← invoke (.deleteForUser account.id)) ≠ 0 then
      invoke (.accountEvent { kind := .backchannelLogout, actorId := none, subjectId := account.id })

/-- `_logout_token_of`. -/
def logoutTokenOf (py : Platform) (formBody : Bytes) (contentType : Option Str) : Option Str :=
  if mediaTypeOf py contentType ≠ str "application/x-www-form-urlencoded" then none
  else
    match (decode strict formBody).bind (parseQsl true strict) with
    | none => none
    | some fields =>
      match (fields.filter fun field => field.1 = str "logout_token").map (·.2) with
      | [token] => if token ≠ [] then some token else none
      | _ => none

/-- `_receive_backchannel_logout`: whether the token held. -/
def receiveBackchannelLogout (py : Platform) (rp : OidcRelyingParty) (formBody : Bytes)
    (contentType : Option Str) : Task Bool :=
  match logoutTokenOf py formBody contentType with
  | none => return false
  | some logoutToken => do
    match ← rp.verifyLogoutToken py logoutToken with
    | .error _ => return false
    | .ok subject => do
      within .signIn (endSessionsOf subject)
      return true

end WebAuth
