import WebAuth.SessionLifetimeRuns

/-!
# Admission on any stored instants

A host may store its datetimes on any offset, or naive. The decision is the one on the instants they
name, whatever they are, and no step of it leaves the calendar while the reading stays a cap and a
minute away from its end.
-/

namespace WebAuth

open Python Effects Program

/-! ## The decision on instants -/

/-- The readings whose decisions stay in the calendar. -/
structure InReach (lifetime : SessionLifetime) (n : ℤ) : Prop where
  now : InCalendar (seconds n)
  last : InCalendar (seconds (n + lifetime.absoluteMaxAgeSeconds + 60))

/-- When a stored session stands at the whole second `n`. -/
structure StandsAt (lifetime : SessionLifetime) (record : SessionRecord) (n : ℤ) : Prop where
  created : record.createdAt.instant ≤ seconds (n + 60)
  unexpired : seconds n ≤ record.expiresAt.instant
  window : record.expiresAt.instant ≤ min (seconds (n + lifetime.idleSeconds + 60))
    (record.createdAt.instant + seconds lifetime.absoluteMaxAgeSeconds)

/-- The store's answer and the clock's reading that a call begins with. -/
def asked (sessionId : Str) (record : SessionRecord) (reading : ℚ) : List HostEvent :=
  [⟨.load sessionId, .ok (some record)⟩, ⟨.wallClock, .ok reading⟩]

/-- What a call comes to by the store's answer to the renewal. -/
def renewalOutcome (record : SessionRecord) : Except Exn StoreAnswer → Except Exn SessionDecision
  | .error e => .error e
  | .ok answer => (storeBool "touch" answer).map fun renewed =>
      if renewed then .ok record.user.authenticated else .error .sessionEndedOrExpired

/-- A store that renews what it is asked to gets its account. -/
def AdmitsAt (config : WebAuthConfig) (sessionId : Str) (record : SessionRecord) (reading : ℚ) :
    Prop :=
  ∃ expiry, Path (admitSession config sessionId)
    (asked sessionId record reading ++ [⟨.touch sessionId expiry, .ok (.bool true)⟩])
    (.ok (.ok record.user.authenticated))

/-- What a call makes of a record: the expiry it renews it to, if it admits it. -/
def judgedAt (lifetime : SessionLifetime) (record : SessionRecord) (reading : ℚ) :
    Except Exn (Option DateTime) := do
  let now ← orOverflow (DateTime.fromTimestamp (truncate reading))
  if ← isAdmitted lifetime record now then
    return some (← renewedExpiry lifetime now (asInstant record.createdAt))
  else return none

/-- How a call goes on from its record and its reading. -/
def GoesOn (sessionId : Str) (record : SessionRecord) (es : List HostEvent)
    (r : Except Exn SessionDecision) : Except Exn (Option DateTime) → Prop
  | .error e => es = [] ∧ r = .error e
  | .ok none => es = [] ∧ r = .ok (.error .sessionEndedOrExpired)
  | .ok (some expiry) => ∃ answer, es = [⟨.touch sessionId expiry, answer⟩] ∧
      r = renewalOutcome record answer

section Calls

variable {config : WebAuthConfig} {sessionId : Str} {record : SessionRecord} {reading : ℚ}
  {now expiry : DateTime} {es : List HostEvent} {r : Except Exn SessionDecision}

/-- A call asks its store to renew what it admits, and nothing else. -/
theorem admitSession_path : Path (admitSession config sessionId)
      (asked sessionId record reading ++ es) r ↔
    GoesOn sessionId record es r (judgedAt config.sessionLifetime record reading) := by
  unfold admitSession wholeSecondNow asked judgedAt
  simp only [invoke_eq, bind_eq, call_andThen, List.cons_append, List.nil_append, path_call_cons,
    done_ok, ret_andThen, onReturn_ok, liftM_eq]
  cases hnow : orOverflow (DateTime.fromTimestamp (truncate reading)) with
  | error e => exact Iff.rfl
  | ok now =>
    simp only [done_ok, ret_andThen, onReturn_ok, stands]
    cases hadmitted : isAdmitted config.sessionLifetime record now with
    | error e =>
      show Path (raise e) es r ↔ GoesOn sessionId record es r
        ((isAdmitted config.sessionLifetime record now).bind _)
      rw [hadmitted]
      exact Iff.rfl
    | ok admitted =>
      cases admitted with
      | false =>
        show _ ↔ GoesOn sessionId record es r
          ((isAdmitted config.sessionLifetime record now).bind _)
        rw [hadmitted]
        exact Iff.rfl
      | true =>
        show _ ↔ GoesOn sessionId record es r
          ((isAdmitted config.sessionLifetime record now).bind _)
        rw [hadmitted]
        show _ ↔ GoesOn sessionId record es r
          ((renewedExpiry config.sessionLifetime now (asInstant record.createdAt)).bind _)
        simp only [Except.map, if_true, done_ok, ret_andThen, onReturn_ok]
        cases hexpiry : renewedExpiry config.sessionLifetime now (asInstant record.createdAt) with
        | error e => exact Iff.rfl
        | ok expiry =>
          simp only [done_ok, ret_andThen, onReturn_ok]
          refine exists_congr fun answer => ?_
          have hrest : (done answer).andThen (onReturn fun answer =>
              (done (storeBool "touch" answer)).andThen (onReturn fun renewed =>
                if renewed = true then (ret (.ok record.user.authenticated) : Task SessionDecision)
                else ret (.error .sessionEndedOrExpired))) =
              done (renewalOutcome record answer) := by
            cases answer with
            | error e => rfl
            | ok answer =>
              simp only [done_ok, ret_andThen, onReturn_ok, renewalOutcome]
              cases storeBool "touch" answer with
              | error e => rfl
              | ok renewed =>
                cases renewed with
                | false => rfl
                | true => rfl
          constructor
          · rintro ⟨rest, rfl, h⟩
            replace h : Path (done (renewalOutcome record answer)) rest r := by
              rw [← hrest]
              exact h
            obtain ⟨rfl, rfl⟩ := path_done.1 h
            exact ⟨rfl, rfl⟩
          · rintro ⟨rfl, rfl⟩
            have hpath : Path (done (renewalOutcome record answer) : Task SessionDecision) []
                (renewalOutcome record answer) := path_done.2 ⟨rfl, rfl⟩
            rw [← hrest] at hpath
            exact ⟨[], rfl, hpath⟩

end Calls

/-! ## The decision in reach -/

section Reach

variable {lifetime : SessionLifetime} {record : SessionRecord} {reading : ℚ}

/-- A renewal stays between the reading and the ends of both windows. -/
theorem renewedAt_bounds {createdAt n : ℤ}
    (hcap : seconds n ≤ createdAt + seconds lifetime.absoluteMaxAgeSeconds) :
    seconds n ≤ renewedAt lifetime createdAt n ∧
      renewedAt lifetime createdAt n ≤ min (seconds (n + lifetime.idleSeconds))
        (createdAt + seconds lifetime.absoluteMaxAgeSeconds) := by
  have hidle := lifetime.idle_pos
  unfold renewedAt seconds at *
  omega

theorem standsAt_iff {n : ℤ} : StandsAt lifetime record n ↔
    record.createdAt.instant ≤ seconds n + expiryTolerance ∧
      seconds n ≤ record.expiresAt.instant ∧
      record.expiresAt.instant - seconds n ≤ seconds lifetime.idleSeconds + expiryTolerance ∧
      record.expiresAt.instant - record.createdAt.instant ≤
        seconds lifetime.absoluteMaxAgeSeconds := by
  constructor
  · rintro ⟨hcreated, hunexpired, hwindow⟩
    unfold expiryTolerance seconds at *
    omega
  · rintro ⟨hcreated, hunexpired, hidle, hcap⟩
    constructor
    case created =>
      unfold expiryTolerance seconds at *
      omega
    case unexpired => exact hunexpired
    case window =>
      unfold expiryTolerance seconds at *
      omega

theorem fromTimestamp_of_inCalendar {n : ℤ} (h : InCalendar (seconds n)) :
    ∃ now, DateTime.fromTimestamp n = some now ∧ now.wall = seconds n ∧ now.utcoffset = some 0 := by
  unfold DateTime.fromTimestamp DateTime.at
  rw [dif_pos h]
  exact ⟨_, rfl, rfl, rfl⟩

/-- The instants of a decision on a record lie in the calendar. -/
structure Computable (lifetime : SessionLifetime) (record : SessionRecord) (n : ℤ) : Prop where
  now : InCalendar (seconds n)
  tolerated : InCalendar (seconds n + expiryTolerance)
  renewed : StandsAt lifetime record n →
    InCalendar (renewedAt lifetime record.createdAt.instant n)

theorem StandsAt.cap {n : ℤ} (h : StandsAt lifetime record n) :
    seconds n ≤ record.createdAt.instant + seconds lifetime.absoluteMaxAgeSeconds := by
  have hunexpired := h.unexpired
  have hwindow := h.window
  omega

theorem computable_of_inReach {n : ℤ} (h : InReach lifetime n) : Computable lifetime record n := by
  have hpositive := lifetime.absolute_pos
  have hidle := lifetime.idle_le
  have hfirst := h.now
  have hlast := h.last
  constructor
  case now => exact hfirst
  case tolerated =>
    unfold InCalendar expiryTolerance seconds at *
    omega
  case renewed =>
    intro hstands
    obtain ⟨hlow, hhigh⟩ := renewedAt_bounds hstands.cap
    unfold InCalendar seconds at *
    omega

/-- A record is judged by the instants it names. -/
theorem judgedAt_of_computable (hin : Computable lifetime record (truncate reading)) :
    (¬StandsAt lifetime record (truncate reading) ∧ judgedAt lifetime record reading = .ok none) ∨
    StandsAt lifetime record (truncate reading) ∧ ∃ expiry,
      judgedAt lifetime record reading = .ok (some expiry) ∧
      expiry.instant = renewedAt lifetime record.createdAt.instant (truncate reading) := by
  obtain ⟨now, hnow, hwall, hoffset⟩ := fromTimestamp_of_inCalendar hin.now
  have hinstant : now.instant = seconds (truncate reading) := by
    simp [DateTime.instant, hwall, hoffset]
  have htolerated : ∃ tolerated, now.add expiryTolerance = some tolerated := by
    unfold DateTime.add DateTime.at
    rw [hwall, dif_pos hin.tolerated]
    exact ⟨_, rfl⟩
  obtain ⟨tolerated, htolerated⟩ := htolerated
  have hadmitted : ∃ b, isAdmitted lifetime record now = .ok b := by
    unfold isAdmitted
    rw [htolerated]
    exact ⟨_, rfl⟩
  obtain ⟨b, hb⟩ := hadmitted
  have hiff := (isAdmitted_eq_ok hb).2
  rw [hinstant, ← standsAt_iff] at hiff
  have hjudged : judgedAt lifetime record reading =
      if b = true then (renewedExpiry lifetime now (asInstant record.createdAt)).map some
      else .ok none := by
    unfold judgedAt
    rw [hnow]
    show (isAdmitted lifetime record now).bind _ = _
    rw [hb]
    cases b with
    | false => rfl
    | true => rfl
  by_cases hstands : StandsAt lifetime record (truncate reading)
  · right
    rw [hjudged, if_pos (hiff.2 hstands), renewedExpiry_eq hwall hoffset, asInstant,
      DateTime.pinned_instant]
    unfold DateTime.at
    rw [dif_pos (hin.renewed hstands)]
    exact ⟨hstands, _, rfl, by simp [DateTime.instant]⟩
  · left
    rw [hjudged, if_neg fun h => hstands (hiff.1 h)]
    exact ⟨hstands, rfl⟩

variable {config : WebAuthConfig} {sessionId : Str}

theorem admitsAt_iff (hin : Computable config.sessionLifetime record (truncate reading)) :
    AdmitsAt config sessionId record reading ↔
      StandsAt config.sessionLifetime record (truncate reading) := by
  obtain ⟨hrefused, hjudged⟩ | ⟨hstands, expiry, hjudged, -⟩ := judgedAt_of_computable hin
  · refine ⟨?_, fun h => absurd h hrefused⟩
    rintro ⟨expiry, h⟩
    rw [admitSession_path, hjudged] at h
    cases h.1
  · refine ⟨fun _ => hstands, fun _ => ⟨expiry, ?_⟩⟩
    rw [admitSession_path, hjudged]
    exact ⟨_, rfl, rfl⟩

/-- No reading after the expiry admits, wherever the calendar ends. -/
theorem not_admitsAt_of_expired (h : record.expiresAt.instant < seconds (truncate reading)) :
    ¬AdmitsAt config sessionId record reading := by
  rintro ⟨expiry, hpath⟩
  rw [admitSession_path] at hpath
  have hinstant {now : DateTime} (hnow : DateTime.fromTimestamp (truncate reading) = some now) :
      now.instant = seconds (truncate reading) := by
    obtain ⟨hwall, hoffset, -⟩ := DateTime.fromTimestamp_eq_some hnow
    simp [DateTime.instant, hwall, hoffset]
  have hjudged : judgedAt config.sessionLifetime record reading = .ok none ∨
      ∃ e, judgedAt config.sessionLifetime record reading = .error e := by
    unfold judgedAt
    cases hnow : DateTime.fromTimestamp (truncate reading) with
    | none => exact .inr ⟨_, rfl⟩
    | some now =>
      show (isAdmitted config.sessionLifetime record now).bind _ = _ ∨
        ∃ e, (isAdmitted config.sessionLifetime record now).bind _ = _
      cases hb : isAdmitted config.sessionLifetime record now with
      | error e => exact .inr ⟨e, rfl⟩
      | ok b =>
        have hiff := (isAdmitted_eq_ok hb).2
        rw [hinstant hnow] at hiff
        have hfalse : b = false := by
          rw [← Bool.not_eq_true]
          intro hb
          have := (hiff.1 hb).2.1
          omega
        rw [hfalse]
        exact .inl rfl
  obtain hjudged | ⟨e, hjudged⟩ := hjudged
  · rw [hjudged] at hpath
    cases hpath.1
  · rw [hjudged] at hpath
    cases hpath.1

/-- A renewed record stands from the renewal to its new expiry. -/
theorem standsAt_renewed {later : SessionRecord} {n m : ℤ}
    (hstands : StandsAt lifetime record n)
    (hcreated : later.createdAt.instant = record.createdAt.instant)
    (hexpires : later.expiresAt.instant = renewedAt lifetime record.createdAt.instant n)
    (hfrom : n ≤ m) (huntil : seconds m ≤ later.expiresAt.instant) :
    StandsAt lifetime later m := by
  obtain ⟨-, hhigh⟩ := renewedAt_bounds hstands.cap
  have hfirst := hstands.created
  constructor
  case created =>
    rw [hcreated]
    unfold seconds at *
    omega
  case unexpired => exact huntil
  case window =>
    rw [hcreated, hexpires]
    unfold seconds at *
    omega

/-- What a renewed record stands at stays in the calendar too. -/
theorem computable_renewed {later : SessionRecord} {n m : ℤ} (hreach : InReach lifetime n)
    (hstands : StandsAt lifetime record n)
    (hcreated : later.createdAt.instant = record.createdAt.instant)
    (hexpires : later.expiresAt.instant = renewedAt lifetime record.createdAt.instant n)
    (hfrom : n ≤ m) (huntil : seconds m ≤ later.expiresAt.instant) :
    Computable lifetime later m := by
  obtain ⟨-, hhigh⟩ := renewedAt_bounds hstands.cap
  have hfirst := hreach.now
  have hlast := hreach.last
  have hidle := lifetime.idle_le
  have hcreatedAt := hstands.created
  constructor
  case now =>
    unfold InCalendar seconds at *
    omega
  case tolerated =>
    unfold InCalendar expiryTolerance seconds at *
    omega
  case renewed =>
    intro hlater
    obtain ⟨hlow', hhigh'⟩ := renewedAt_bounds hlater.cap
    rw [hcreated] at hlow' hhigh' ⊢
    unfold InCalendar seconds at *
    omega

end Reach

/-! ## The decision -/

/-- **A stored session is admitted by the instants it names, whatever offsets they are stored on.**
What its renewal writes stays between the reading and the ends of both windows, and admits from the
reading to the new expiry and never after it. -/
theorem stored_session_admission (config : WebAuthConfig) (sessionId : Str)
    (record : SessionRecord) (reading : ℚ)
    (hreach : InReach config.sessionLifetime (truncate reading)) :
    (AdmitsAt config sessionId record reading ↔
      StandsAt config.sessionLifetime record (truncate reading)) ∧
    (¬StandsAt config.sessionLifetime record (truncate reading) → ∀ es r,
      Path (admitSession config sessionId) (asked sessionId record reading ++ es) r →
        es = [] ∧ r = .ok (.error .sessionEndedOrExpired)) ∧
    (StandsAt config.sessionLifetime record (truncate reading) → ∃ expiry : DateTime,
      (∀ es r, Path (admitSession config sessionId) (asked sessionId record reading ++ es) r ↔
        ∃ answer, es = [⟨.touch sessionId expiry, answer⟩] ∧ r = renewalOutcome record answer) ∧
      seconds (truncate reading) ≤ expiry.instant ∧
      expiry.instant ≤ min (seconds (truncate reading + config.sessionLifetime.idleSeconds))
        (record.createdAt.instant + seconds config.sessionLifetime.absoluteMaxAgeSeconds) ∧
      ∀ reading',
        (truncate reading ≤ truncate reading' → seconds (truncate reading') ≤ expiry.instant →
          AdmitsAt config sessionId { record with expiresAt := expiry } reading') ∧
        (expiry.instant < seconds (truncate reading') →
          ¬AdmitsAt config sessionId { record with expiresAt := expiry } reading')) := by
  have hin : Computable config.sessionLifetime record (truncate reading) :=
    computable_of_inReach hreach
  refine ⟨admitsAt_iff hin, fun hrefused es r hpath => ?_, fun hstands => ?_⟩
  · obtain ⟨-, hjudged⟩ | ⟨hstands, -⟩ := judgedAt_of_computable hin
    · rw [admitSession_path, hjudged] at hpath
      exact hpath
    · exact absurd hstands hrefused
  · obtain ⟨hrefused, -⟩ | ⟨-, expiry, hjudged, hrenewed⟩ := judgedAt_of_computable hin
    · exact absurd hstands hrefused
    · obtain ⟨hlow, hhigh⟩ := renewedAt_bounds hstands.cap
      rw [← hrenewed] at hlow hhigh
      refine ⟨expiry, fun es r => ?_, hlow, hhigh, fun reading' => ⟨fun hfrom huntil => ?_, ?_⟩⟩
      · rw [admitSession_path, hjudged]
        exact Iff.rfl
      · have hcomputable : Computable config.sessionLifetime
            { record with expiresAt := expiry } (truncate reading') :=
          computable_renewed hreach hstands rfl hrenewed hfrom huntil
        rw [admitsAt_iff hcomputable]
        exact standsAt_renewed hstands rfl hrenewed hfrom huntil
      · exact fun hafter => not_admitsAt_of_expired hafter

/-- A session opened two hours east of UTC whose expiry is stored naive. -/
def shiftedRecord : SessionRecord where
  id := str "s"
  user := demoUser
  createdAt := ⟨seconds (1000 + 7200), some (seconds 7200), by decide⟩
  expiresAt := ⟨seconds 1090 + 5, none, by decide⟩
  refreshToken := none
  idToken := none

theorem stored_session_admission_shifted : AdmitsAt demoConfig (str "s") shiftedRecord 1050 := by
  have hsecond : truncate (1050 : ℚ) = 1050 := by decide +kernel
  have hreach : InReach demoConfig.sessionLifetime (truncate (1050 : ℚ)) := by
    rw [hsecond]
    exact ⟨by decide, by decide⟩
  obtain ⟨hadmits, -, -⟩ := stored_session_admission demoConfig (str "s") shiftedRecord 1050 hreach
  refine hadmits.2 ?_
  rw [hsecond]
  exact ⟨by decide, by decide, by decide⟩

end WebAuth
