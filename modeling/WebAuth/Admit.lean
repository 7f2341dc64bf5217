import WebAuth.Calls

/-!
# The session decision

`admit_session` judges a stored session at one whole-second reading of the clock and renews it.
Every other reader of a session's lifetime judges it by the same predicate.
-/

namespace WebAuth

open Python Effects Program

/-- `_EXPIRY_TOLERANCE`. -/
def expiryTolerance : ℤ := seconds 60

/-- `_as_instant`. -/
def asInstant (stored : DateTime) : DateTime := stored.pinned

/-- What arithmetic on instants raises beyond the calendar. `datetime.fromtimestamp` raises
`ValueError` or `OSError` there, a class that is not told apart here. -/
def orOverflow {α : Type} : Option α → Except Exn α := orRaise .overflowError

/-- `_whole_second_now`. -/
def wholeSecondNow : Task DateTime := do
  let reading ← invoke .wallClock
  orOverflow (DateTime.fromTimestamp (truncate reading))

/-- `_renewed_expiry`. -/
def renewedExpiry (lifetime : SessionLifetime) (now createdAt : DateTime) : Except Exn DateTime :=
  let idle := seconds lifetime.idleSeconds
  let remainingCap := seconds lifetime.absoluteMaxAgeSeconds - (now.instant - createdAt.instant)
  orOverflow (now.add (min idle remainingCap))

/-- `_is_admitted`. Only the first comparison adds to an instant, so only it may leave the
calendar. -/
def isAdmitted (lifetime : SessionLifetime) (record : SessionRecord) (now : DateTime) :
    Except Exn Bool := do
  let createdAt := asInstant record.createdAt
  let expiresAt := asInstant record.expiresAt
  let tolerated ← orOverflow (now.add expiryTolerance)
  return createdAt.instant ≤ tolerated.instant && now.instant ≤ expiresAt.instant &&
    expiresAt.instant - now.instant ≤ seconds lifetime.idleSeconds + expiryTolerance &&
    expiresAt.instant - createdAt.instant ≤ seconds lifetime.absoluteMaxAgeSeconds

/-- Whether a stored session stands at an instant; none stands that is not stored. -/
def stands (lifetime : SessionLifetime) (now : DateTime) :
    Option SessionRecord → Except Exn (Option SessionRecord)
  | none => .ok none
  | some record => (isAdmitted lifetime record now).map fun admitted =>
    if admitted then some record else none

/-- What a `bool` answer of the store says; any other answer raises. -/
def storeBool (method : String) : StoreAnswer → Except Exn Bool
  | .bool b => .ok b
  | .other typeName =>
    .error (.typeError s!"SessionRecordStore.{method} must return a bool, not {typeName}")

/-- The account of a record, as it is handed out. -/
def UserRecord.authenticated (user : UserRecord) : AuthenticatedUser :=
  ⟨user.id, user.username, user.role⟩

/-- `admit_session`. -/
def admitSession (config : WebAuthConfig) (sessionId : Str) : Task SessionDecision := do
  let record ← invoke (.load sessionId)
  let now ← wholeSecondNow
  match ← stands config.sessionLifetime now record with
  | none => return .error .sessionEndedOrExpired
  | some record => do
    let expiresAt ← renewedExpiry config.sessionLifetime now (asInstant record.createdAt)
    let answer ← invoke (.touch sessionId expiresAt)
    if ← storeBool "touch" answer then return .ok record.user.authenticated
    else return .error .sessionEndedOrExpired

end WebAuth
