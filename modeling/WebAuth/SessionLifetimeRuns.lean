import WebAuth.KeySetCache
import WebAuth.OidcLogin

/-!
# Session lifetime over whole runs

A sign-in opens a session, then `admit_session` is called on it any number of times, each call at a
reading of its own. The store keeps the instants it is given. An instant that leaves the calendar
makes a call raise, so `Representable` names the readings at which the decision can be computed.
-/

namespace WebAuth

open Python Effects Program

/-! ## The store -/

/-- The stored session, by its instants. -/
structure StoredSession where
  id : Str
  user : UserRecord
  createdAt : ℤ
  expiresAt : ℤ

/-- Whether a record is the stored session with this id. -/
def Loads (row : Option StoredSession) (sessionId : Str) (record : Option SessionRecord) : Prop :=
  match row, record with
  | some row, some record => row.id = sessionId ∧ record.user = row.user ∧
      record.createdAt.instant = row.createdAt ∧ record.expiresAt.instant = row.expiresAt
  | some row, none => row.id ≠ sessionId
  | none, record => record = none

/-- A store of one session that answers each call and writes exactly what it is given, at one
reading of the clock. What a sign-in asks of the accounts, the audit and other sessions leaves it
alone. -/
def lifetimeStore (reading : ℚ) : Handler (Option StoredSession) hostCalls Exn
  | row, .wallClock, ans, row' => ans = .ok reading ∧ row' = row
  | row, .load sessionId, ans, row' =>
    (∃ record, ans = .ok record ∧ Loads row sessionId record) ∧ row' = row
  | some row, .touch sessionId expiresAt, ans, row' =>
    if row.id = sessionId then
      ans = .ok (.bool true) ∧ row' = some { row with expiresAt := expiresAt.instant }
    else ans = .ok (.bool false) ∧ row' = some row
  | none, .touch _ _, ans, row' => ans = .ok (.bool false) ∧ row' = none
  | _, .create _ now expiresAt _ _, ans, row' =>
    ∃ record : SessionRecord, ans = .ok record ∧
      row' = some ⟨record.id, record.user, now.instant, expiresAt.instant⟩
  | row, _, _, row' => row' = row

/-! ## The run -/

/-- One call of `admit_session`. -/
structure AdmissionCall where
  reading : ℚ
  outcome : Except Exn SessionDecision

/-- The whole second a call reads. -/
def AdmissionCall.second (call : AdmissionCall) : ℤ := truncate call.reading

/-- Whether a call ended with an account. -/
def answersAccount : Except Exn SessionDecision → Bool
  | .ok (.ok _) => true
  | _ => false

/-- Whether a call admitted the session. -/
def AdmissionCall.admits (call : AdmissionCall) : Bool := answersAccount call.outcome

/-- A sign-in at the whole second `opened`, then the calls, and the session as it is stored. -/
inductive LifetimeRun (py : Platform) (config : WebAuthConfig) :
    ℤ → List AdmissionCall → StoredSession → Prop
  | opened {options admitted replaced reading id row}
      (signIn : Does (lifetimeStore reading) (writeSignIn py config options admitted replaced) none
        (.ok id) (some row)) :
      LifetimeRun py config (truncate reading) [] row
  | called {opened calls row row' call} (run : LifetimeRun py config opened calls row)
      (step : Does (lifetimeStore call.reading) (admitSession config row.id) (some row)
        call.outcome (some row')) :
      LifetimeRun py config opened (calls ++ [call]) row'

/-- The reading of the last admitted call, or of the sign-in when there is none. -/
def lastAdmitted (opened : ℤ) (calls : List AdmissionCall) : ℤ :=
  calls.foldl (fun last call => if call.admits then call.second else last) opened

/-- The highest reading seen. -/
def highest (opened : ℤ) (calls : List AdmissionCall) : ℤ :=
  calls.foldl (fun top call => max top call.second) opened

/-- Every call's reading is at most 60 seconds behind the highest one before it. -/
def Steady (opened : ℤ) (calls : List AdmissionCall) : Prop :=
  ∀ before call after, calls = before ++ call :: after → highest opened before - 60 ≤ call.second

/-- The instants of a decision at the whole second `n` lie in the calendar: the reading itself, the
end of its tolerance and the renewed expiry. -/
def Representable (lifetime : SessionLifetime) (opened n : ℤ) : Prop :=
  InCalendar (seconds n) ∧ InCalendar (seconds (n + 60)) ∧
    InCalendar (seconds (min (n + lifetime.idleSeconds) (opened + lifetime.absoluteMaxAgeSeconds)))

/-- When a call is admitted, and the cap that holds whatever the clock does. -/
structure LifetimeHolds (lifetime : SessionLifetime) (opened : ℤ) (calls : List AdmissionCall)
    (row : StoredSession) : Prop where
  /-- On a clock that steps back at most 60 seconds, a call is admitted exactly inside the window,
  and where its instants leave the calendar it admits nobody. -/
  window : ∀ before call after, calls = before ++ call :: after → Steady opened (before ++ [call]) →
    (call.admits = true ↔ call.second ≤ min (lastAdmitted opened before + lifetime.idleSeconds)
      (opened + lifetime.absoluteMaxAgeSeconds) ∧ Representable lifetime opened call.second)
  /-- No call is admitted after the cap. -/
  cap : ∀ call ∈ calls, call.admits = true → call.second ≤ opened + lifetime.absoluteMaxAgeSeconds
  /-- The stored expiry never exceeds the cap. -/
  stored : row.expiresAt ≤ seconds (opened + lifetime.absoluteMaxAgeSeconds)

/-! ## One call -/

/-- The expiry an admission at the whole second `n` writes. -/
def renewedAt (lifetime : SessionLifetime) (createdAt n : ℤ) : ℤ :=
  seconds n + min (seconds lifetime.idleSeconds)
    (seconds lifetime.absoluteMaxAgeSeconds - (seconds n - createdAt))

/-- When a call at the whole second `n` admits the stored session. -/
structure Admissible (lifetime : SessionLifetime) (row : StoredSession) (n : ℤ) : Prop where
  reading : InCalendar (seconds n)
  tolerated : InCalendar (seconds n + expiryTolerance)
  created : row.createdAt ≤ seconds n + expiryTolerance
  unexpired : seconds n ≤ row.expiresAt
  idle : row.expiresAt - seconds n ≤ seconds lifetime.idleSeconds + expiryTolerance
  absolute : row.expiresAt - row.createdAt ≤ seconds lifetime.absoluteMaxAgeSeconds
  renewable : InCalendar (renewedAt lifetime row.createdAt n)

section

variable {lifetime : SessionLifetime} {now createdAt expiresAt : DateTime} {n : ℤ}

/-- The renewed expiry is computed exactly when the calendar holds it. -/
theorem renewedExpiry_eq (hwall : now.wall = seconds n) (hoffset : now.utcoffset = some 0) :
    renewedExpiry lifetime now createdAt = orOverflow
      (DateTime.at (renewedAt lifetime createdAt.instant n) (some 0)) := by
  have hnow : now.instant = seconds n := by simp [DateTime.instant, hwall, hoffset]
  simp [renewedExpiry, renewedAt, DateTime.add, hnow, hwall, hoffset]

theorem renewedExpiry_eq_ok (hwall : now.wall = seconds n) (hoffset : now.utcoffset = some 0)
    (h : renewedExpiry lifetime now createdAt = .ok expiresAt) :
    expiresAt.instant = renewedAt lifetime createdAt.instant n ∧
      InCalendar (renewedAt lifetime createdAt.instant n) := by
  rw [renewedExpiry_eq hwall hoffset, orOverflow, orRaise_eq_ok, DateTime.at] at h
  split_ifs at h with hin
  obtain rfl := Option.some.inj h
  exact ⟨by simp [DateTime.instant], hin⟩

theorem renewedExpiry_eq_error (hwall : now.wall = seconds n) (hoffset : now.utcoffset = some 0)
    {e : Exn} (h : renewedExpiry lifetime now createdAt = .error e) :
    ¬ InCalendar (renewedAt lifetime createdAt.instant n) := by
  intro hin
  rw [renewedExpiry_eq hwall hoffset, DateTime.at, dif_pos hin] at h
  cases h

end

theorem isAdmitted_eq_ok {lifetime : SessionLifetime} {record : SessionRecord} {now : DateTime}
    {b : Bool} (h : isAdmitted lifetime record now = .ok b) :
    (∃ tolerated, now.add expiryTolerance = some tolerated) ∧
    (b = true ↔ record.createdAt.instant ≤ now.instant + expiryTolerance ∧
      now.instant ≤ record.expiresAt.instant ∧
      record.expiresAt.instant - now.instant ≤ seconds lifetime.idleSeconds + expiryTolerance ∧
      record.expiresAt.instant - record.createdAt.instant ≤
        seconds lifetime.absoluteMaxAgeSeconds) := by
  unfold isAdmitted at h
  cases htol : now.add expiryTolerance with
  | none => simp [htol, orOverflow, orRaise] at h
  | some tolerated =>
    rw [htol] at h
    obtain rfl := Except.ok.inj h
    refine ⟨⟨tolerated, rfl⟩, ?_⟩
    simp only [Bool.and_eq_true, decide_eq_true_eq, and_assoc]
    simp only [asInstant, DateTime.pinned_instant, DateTime.add_instant htol]

theorem isAdmitted_eq_error {lifetime : SessionLifetime} {record : SessionRecord} {now : DateTime}
    {e : Exn} (h : isAdmitted lifetime record now = .error e) :
    now.add expiryTolerance = none ∧ e = .overflowError := by
  unfold isAdmitted at h
  cases htol : now.add expiryTolerance with
  | none =>
    rw [htol] at h
    exact ⟨rfl, (Except.error.inj h).symm⟩
  | some tolerated =>
    rw [htol] at h
    cases h

section

variable {config : WebAuthConfig} {row : StoredSession} {reading : ℚ}

/-- The reading a whole-second clock turns into an instant. -/
theorem wholeSecondNow_ensures {Q : Except Exn DateTime → Option StoredSession → Prop}
    {s : Option StoredSession}
    (hok : ∀ now : DateTime, now.wall = seconds (truncate reading) → now.utcoffset = some 0 →
      Q (.ok now) s)
    (herr : ¬ InCalendar (seconds (truncate reading)) → Q (.error .overflowError) s) :
    Ensures (lifetimeStore reading) (fun _ _ => True) wholeSecondNow s Q := by
  simp only [wholeSecondNow, invoke_eq, bind_eq, call_andThen, done_andThen, ensures_call]
  refine ⟨trivial, ?_⟩
  rintro ans s' ⟨rfl, rfl⟩
  simp only [onReturn_ok, liftM_eq, ensures_done]
  cases hnow : DateTime.fromTimestamp (truncate reading) with
  | none => exact herr (DateTime.fromTimestamp_eq_none.1 hnow)
  | some now =>
    obtain ⟨hwall, hoffset, -⟩ := DateTime.fromTimestamp_eq_some hnow
    exact hok now hwall hoffset

/-- How one call ends: it admits exactly when the row is admissible, and only then writes. -/
theorem admitSession_ensures :
    Ensures (lifetimeStore reading) (fun _ _ => True) (admitSession config row.id) (some row)
      fun r row' =>
        (answersAccount r = true ↔ Admissible config.sessionLifetime row (truncate reading)) ∧
        row' = some (if answersAccount r then
          { row with expiresAt := renewedAt config.sessionLifetime row.createdAt (truncate reading) }
          else row) := by
  simp only [admitSession, invoke_eq, bind_eq, call_andThen, done_andThen, ensures_call]
  refine ⟨trivial, ?_⟩
  rintro ans s' ⟨⟨record, rfl, hloads⟩, rfl⟩
  cases record with
  | none => exact absurd rfl hloads
  | some record =>
  obtain ⟨-, -, hcreated, hexpires⟩ := hloads
  simp only [onReturn_ok, ensures_andThen]
  refine wholeSecondNow_ensures ?_ ?_
  swap
  · -- the reading itself leaves the calendar
    intro hout
    refine ⟨⟨fun h => Bool.noConfusion h, fun h => absurd h.reading hout⟩, rfl⟩
  intro now hwall hoffset
  have hnow : now.instant = seconds (truncate reading) := by
    simp [DateTime.instant, hwall, hoffset]
  have hreading : InCalendar (seconds (truncate reading)) := hwall ▸ now.inCalendar
  simp only [onReturn_ok, liftM_eq, ensures_andThen, ensures_done, stands]
  cases hadm : isAdmitted config.sessionLifetime record now with
  | error e =>
    obtain ⟨htol, rfl⟩ := isAdmitted_eq_error hadm
    rw [DateTime.add_eq_none, hwall] at htol
    exact ⟨⟨fun h => Bool.noConfusion h, fun h => absurd h.tolerated htol⟩, rfl⟩
  | ok admitted =>
  obtain ⟨⟨tolerated, htol⟩, hiff⟩ := isAdmitted_eq_ok hadm
  rw [hnow, hcreated, hexpires] at hiff
  have htolerated : InCalendar (seconds (truncate reading) + expiryTolerance) := by
    by_contra hout
    rw [DateTime.add_eq_none.2 (hwall ▸ hout)] at htol
    cases htol
  cases admitted with
  | false =>
    refine ⟨⟨fun h => Bool.noConfusion h, fun h => ?_⟩, rfl⟩
    exact absurd (hiff.2 ⟨h.created, h.unexpired, h.idle, h.absolute⟩) (by simp)
  | true =>
  obtain ⟨h₁, h₂, h₃, h₄⟩ := hiff.1 rfl
  simp only [Except.map, if_true, onReturn_ok, ensures_andThen, ensures_done]
  cases hrenew : renewedExpiry config.sessionLifetime now (asInstant record.createdAt) with
  | error e =>
    -- admitted, but the renewed expiry leaves the calendar
    have hout := renewedExpiry_eq_error hwall hoffset hrenew
    rw [asInstant, DateTime.pinned_instant, hcreated] at hout
    exact ⟨⟨fun h => Bool.noConfusion h, fun h => absurd h.renewable hout⟩, rfl⟩
  | ok expiresAt =>
    obtain ⟨hinstant, hin⟩ := renewedExpiry_eq_ok hwall hoffset hrenew
    rw [asInstant, DateTime.pinned_instant, hcreated] at hinstant hin
    simp only [onReturn_ok, ensures_call]
    refine ⟨trivial, ?_⟩
    intro ans s' htouch
    simp only [lifetimeStore, if_true] at htouch
    obtain ⟨rfl, rfl⟩ := htouch
    refine ⟨⟨fun _ => ⟨hreading, htolerated, h₁, h₂, h₃, h₄, hin⟩, fun _ => rfl⟩, ?_⟩
    exact congrArg (fun t => some { row with expiresAt := t }) hinstant

/-- The session a sign-in opens at a whole second. -/
structure OpenedAt (lifetime : SessionLifetime) (opened : ℤ) (id : Str) (row : StoredSession) :
    Prop where
  id_eq : row.id = id
  created : row.createdAt = seconds opened
  expires : row.expiresAt = seconds (opened + lifetime.idleSeconds)

theorem renewedAt_opened (lifetime : SessionLifetime) (n : ℤ) :
    renewedAt lifetime (seconds n) n = seconds (n + lifetime.idleSeconds) := by
  have := lifetime.idle_le
  simp only [renewedAt, seconds]
  omega

theorem writeSignIn_ensures {py : Platform} {options : SignInOptions} {admitted : AdmittedLogin}
    {replaced : Option Str} :
    Ensures (lifetimeStore reading) (fun _ _ => True) (writeSignIn py config options admitted replaced)
      none fun r row => ∀ id, r = .ok id →
        ∃ row', row = some row' ∧ OpenedAt config.sessionLifetime (truncate reading) id row' := by
  simp only [writeSignIn, bind_eq, ensures_andThen]
  have haccounts : Ensures (lifetimeStore reading) (fun _ _ => True)
      (admitAccount py admitted.identity.claimant admitted.role) none fun _ row => row = none :=
    (admitAccount_only py _ _).ensures (fun _ _ _ _ => trivial)
      (by rintro s c ans s' hc rfl h; cases c <;> first | exact h | exact hc.elim) rfl
  refine haccounts.mono ?_
  rintro (e | account) _ rfl
  · simp
  simp only [onReturn_ok, ensures_andThen]
  refine wholeSecondNow_ensures (fun now hwall hoffset => ?_) (fun _ => by simp)
  have hdelete : Ensures (lifetimeStore reading) (fun _ _ => True) (endReplaced replaced) none
      fun _ row => row = none := by
    cases replaced with
    | none => rfl
    | some sessionId =>
      exact ⟨trivial, fun ans s' h => ensures_done.2 h⟩
  simp only [onReturn_ok, ensures_andThen]
  refine hdelete.mono ?_
  rintro (e | u) _ rfl
  · simp
  have hprune : Ensures (lifetimeStore reading) (fun _ _ => True)
      (pruneTo account.id options.maxSessionsPred) none fun _ row => row = none := by
    cases options.maxSessionsPred with
    | none => rfl
    | some keepNewest =>
      exact ⟨trivial, fun ans s' h => ensures_done.2 h⟩
  simp only [onReturn_ok, ensures_andThen]
  refine hprune.mono ?_
  rintro (e | u) _ rfl
  · simp
  simp only [onReturn_ok, openSession, bind_eq, liftM_eq, done_andThen]
  cases hrenew : renewedExpiry config.sessionLifetime now now with
  | error e => simp
  | ok expiresAt =>
    obtain ⟨hinstant, -⟩ := renewedExpiry_eq_ok hwall hoffset hrenew
    have hnow : now.instant = seconds (truncate reading) := by
      simp [DateTime.instant, hwall, hoffset]
    simp only [onReturn_ok, invoke_eq, call_andThen, done_andThen, ensures_call]
    refine ⟨trivial, ?_⟩
    rintro ans s' ⟨record, rfl, rfl⟩
    rintro id hid
    refine ⟨_, rfl, Except.ok.inj hid, hnow, ?_⟩
    rw [hinstant, hnow, renewedAt_opened]

end

/-! ## Every run -/

theorem lastAdmitted_snoc (opened : ℤ) (calls : List AdmissionCall) (call : AdmissionCall) :
    lastAdmitted opened (calls ++ [call]) =
      if call.admits then call.second else lastAdmitted opened calls := by
  simp [lastAdmitted]

theorem highest_snoc (opened : ℤ) (calls : List AdmissionCall) (call : AdmissionCall) :
    highest opened (calls ++ [call]) = max (highest opened calls) call.second := by
  simp [highest]

theorem opened_le_highest (opened : ℤ) (calls : List AdmissionCall) :
    opened ≤ highest opened calls := by
  induction calls using List.reverseRecOn with
  | nil => exact le_rfl
  | append_singleton calls call ih =>
    rw [highest_snoc]
    exact ih.trans (le_max_left _ _)

theorem lastAdmitted_le_highest (opened : ℤ) (calls : List AdmissionCall) :
    lastAdmitted opened calls ≤ highest opened calls := by
  induction calls using List.reverseRecOn with
  | nil => exact le_rfl
  | append_singleton calls call ih =>
    rw [lastAdmitted_snoc, highest_snoc]
    split_ifs
    · exact le_max_right _ _
    · exact ih.trans (le_max_left _ _)

/-- What is stored after any calls, whatever the clock reads: the sign-in's instant, and the window
of the last admission clipped at the cap. -/
structure LifetimeInv (lifetime : SessionLifetime) (opened : ℤ) (calls : List AdmissionCall)
    (row : StoredSession) : Prop where
  created : row.createdAt = seconds opened
  expires : row.expiresAt = seconds (min (lastAdmitted opened calls + lifetime.idleSeconds)
    (opened + lifetime.absoluteMaxAgeSeconds))

section

variable {py : Platform} {config : WebAuthConfig} {opened : ℤ} {calls : List AdmissionCall}
  {row row' : StoredSession} {call : AdmissionCall}

theorem LifetimeInv.called (inv : LifetimeInv config.sessionLifetime opened calls row)
    (step : Does (lifetimeStore call.reading) (admitSession config row.id) (some row) call.outcome
      (some row')) :
    LifetimeInv config.sessionLifetime opened (calls ++ [call]) row' := by
  obtain ⟨-, hrow⟩ := step.sound admitSession_ensures
  obtain rfl := Option.some.inj hrow
  change LifetimeInv _ _ _ (if call.admits then _ else _)
  split_ifs with hadmits
  · refine ⟨inv.created, ?_⟩
    rw [lastAdmitted_snoc, if_pos hadmits]
    simp only [renewedAt, inv.created, seconds, AdmissionCall.second]
    omega
  · refine ⟨inv.created, ?_⟩
    rw [lastAdmitted_snoc, if_neg hadmits]
    exact inv.expires

theorem lifetimeInv (run : LifetimeRun py config opened calls row) :
    LifetimeInv config.sessionLifetime opened calls row := by
  induction run with
  | @opened options admitted replaced reading id row signIn =>
    obtain ⟨row', hrow, -, hcreated, hexpires⟩ := signIn.sound writeSignIn_ensures id rfl
    obtain rfl := Option.some.inj hrow
    refine ⟨hcreated, ?_⟩
    rw [hexpires, lastAdmitted, List.foldl_nil, min_eq_left]
    linarith [config.sessionLifetime.idle_le]
  | called run step ih => exact ih.called step

/-- Every call of a run was made on the session as the calls before it had left it. -/
theorem LifetimeRun.split {before after : List AdmissionCall}
    (run : LifetimeRun py config opened calls row) (heq : calls = before ++ call :: after) :
    ∃ row₁ row₂, LifetimeRun py config opened before row₁ ∧
      Does (lifetimeStore call.reading) (admitSession config row₁.id) (some row₁) call.outcome
        (some row₂) := by
  induction run generalizing after with
  | opened signIn => simp at heq
  | @called opened calls row row' last run step ih =>
    rcases List.eq_nil_or_concat after with rfl | ⟨after, a, rfl⟩
    · obtain ⟨rfl, hlast⟩ := List.append_inj' heq rfl
      obtain rfl := List.singleton_inj.1 hlast
      exact ⟨row, row', run, step⟩
    · rw [List.concat_eq_append, ← List.cons_append, ← List.append_assoc] at heq
      exact ih (List.append_inj' heq rfl).1

/-- On the stored window, a reading close enough to the earlier ones is admissible exactly inside
it, the calendar permitting. -/
theorem LifetimeInv.admissible_iff {lifetime : SessionLifetime} {n : ℤ}
    (inv : LifetimeInv lifetime opened calls row) (hn : highest opened calls - 60 ≤ n) :
    Admissible lifetime row n ↔ n ≤ min (lastAdmitted opened calls + lifetime.idleSeconds)
      (opened + lifetime.absoluteMaxAgeSeconds) ∧ Representable lifetime opened n := by
  have hopened := opened_le_highest opened calls
  have hlast := lastAdmitted_le_highest opened calls
  have hrenewed : renewedAt lifetime row.createdAt n = seconds
      (min (n + lifetime.idleSeconds) (opened + lifetime.absoluteMaxAgeSeconds)) := by
    simp only [renewedAt, inv.created, seconds]
    omega
  have htolerated : seconds n + expiryTolerance = seconds (n + 60) := by
    simp only [expiryTolerance, seconds]
    ring
  constructor
  · intro h
    have hle := h.unexpired
    rw [inv.expires, seconds, seconds] at hle
    exact ⟨by omega, h.reading, htolerated ▸ h.tolerated, hrenewed ▸ h.renewable⟩
  · rintro ⟨hle, hreading, htol, hrenew⟩
    refine ⟨hreading, htolerated ▸ htol, ?_, ?_, ?_, ?_, hrenewed ▸ hrenew⟩
    · rw [inv.created, htolerated, seconds, seconds]
      omega
    · rw [inv.expires, seconds, seconds]
      omega
    · rw [inv.expires]
      simp only [seconds, expiryTolerance]
      omega
    · rw [inv.expires, inv.created]
      simp only [seconds]
      omega

/-- **Session lifetime over whole runs.** -/
theorem session_lifetime (run : LifetimeRun py config opened calls row) :
    LifetimeHolds config.sessionLifetime opened calls row where
  window before call after heq hsteady := by
    obtain ⟨row₁, row₂, run₁, step⟩ := run.split heq
    rw [AdmissionCall.admits, (step.sound admitSession_ensures).1]
    exact (lifetimeInv run₁).admissible_iff (hsteady before call [] rfl)
  cap call hcall hadmits := by
    obtain ⟨before, after, heq⟩ := List.append_of_mem hcall
    obtain ⟨row₁, row₂, run₁, step⟩ := run.split heq
    have hunexpired := ((step.sound admitSession_ensures).1.1 hadmits).unexpired
    rw [(lifetimeInv run₁).expires, seconds, seconds] at hunexpired
    have hle := min_le_right (lastAdmitted opened before + config.sessionLifetime.idleSeconds)
      (opened + config.sessionLifetime.absoluteMaxAgeSeconds)
    simp only [AdmissionCall.second]
    omega
  stored := by
    rw [(lifetimeInv run).expires, seconds, seconds]
    have hle := min_le_right (lastAdmitted opened calls + config.sessionLifetime.idleSeconds)
      (opened + config.sessionLifetime.absoluteMaxAgeSeconds)
    omega

end

/-! ## Executed runs -/

/-- How the store answers a call when the account of a sign-in is known. -/
def respondLifetime (reading : ℚ) (user : UserRecord) :
    Option StoredSession → (c : HostCall) → Option (Except Exn c.Answer × Option StoredSession)
  | row, .wallClock => some (.ok reading, row)
  | row, .getAccount _ => some (.ok (some user), row)
  | row, .delete _ => some (.ok (), row)
  | row, .pruneOverflow _ _ => some (.ok (), row)
  | _, .create _ now expiresAt refreshToken idToken =>
    let record : SessionRecord := ⟨str "s", user, now, expiresAt, refreshToken, idToken⟩
    some (.ok record, some ⟨record.id, user, now.instant, expiresAt.instant⟩)
  | some row, .load sessionId =>
    if row.id = sessionId then
      (DateTime.at row.createdAt none).bind fun createdAt =>
        (DateTime.at row.expiresAt none).map fun expiresAt =>
          (.ok (some ⟨row.id, row.user, createdAt, expiresAt, none, none⟩), some row)
    else none
  | some row, .touch sessionId expiresAt =>
    if row.id = sessionId then
      some (.ok (.bool true), some { row with expiresAt := expiresAt.instant })
    else none
  | _, _ => none

/-- The responder of the store. -/
def lifetimeResponder (reading : ℚ) (user : UserRecord) : Responder (lifetimeStore reading) Unit where
  respond _ := respondLifetime reading user
  allowed _ s c ans s' h := by
    unfold respondLifetime at h
    split at h
    case h_6 row sessionId =>
      split_ifs at h with hid
      obtain ⟨createdAt, hcreated, h⟩ := Option.bind_eq_some_iff.1 h
      obtain ⟨expiresAt, hexpires, h⟩ := Option.map_eq_some_iff.1 h
      cases h
      refine ⟨⟨_, rfl, hid, rfl, ?_, ?_⟩, rfl⟩
      · unfold DateTime.at at hcreated
        split_ifs at hcreated
        cases hcreated
        simp [DateTime.instant]
      · unfold DateTime.at at hexpires
        split_ifs at hexpires
        cases hexpires
        simp [DateTime.instant]
    case h_7 row sessionId expiresAt =>
      split_ifs at h with hid
      cases h
      simp [lifetimeStore, hid]
    all_goals first | cases h; done | (cases h; simp [lifetimeStore])

/-- Further calls, each at a reading of its own. -/
def playCalls (config : WebAuthConfig) (user : UserRecord) :
    List ℚ → List AdmissionCall × StoredSession → Option (List AdmissionCall × StoredSession)
  | [], played => some played
  | reading :: readings, (calls, row) =>
    match (admitSession config row.id).execute (lifetimeResponder reading user) () (some row) with
    | some (outcome, some row') => playCalls config user readings (calls ++ [⟨reading, outcome⟩], row')
    | _ => none

/-- A sign-in, then calls of `admit_session`. -/
def playLifetime (py : Platform) (config : WebAuthConfig) (options : SignInOptions)
    (admitted : AdmittedLogin) (user : UserRecord) (opened : ℚ) (readings : List ℚ) :
    Option (List AdmissionCall × StoredSession) :=
  match (writeSignIn py config options admitted none).execute (lifetimeResponder opened user) ()
      none with
  | some (.ok _, some row) => playCalls config user readings ([], row)
  | _ => none

theorem playCalls_run {py : Platform} {config : WebAuthConfig} {user : UserRecord} {opened : ℤ}
    {readings : List ℚ} {played played' : List AdmissionCall × StoredSession}
    (run : LifetimeRun py config opened played.1 played.2)
    (h : playCalls config user readings played = some played') :
    LifetimeRun py config opened played'.1 played'.2 := by
  induction readings generalizing played with
  | nil =>
    cases h
    exact run
  | cons reading readings ih =>
    obtain ⟨calls, row⟩ := played
    rw [playCalls] at h
    split at h
    · rename_i outcome row' hexec
      have step : LifetimeRun py config opened (calls ++ [⟨reading, outcome⟩]) row' :=
        run.called (Program.execute_does hexec)
      exact ih step h
    · cases h

theorem playLifetime_run {py : Platform} {config : WebAuthConfig} {options : SignInOptions}
    {admitted : AdmittedLogin} {user : UserRecord} {opened : ℚ} {readings : List ℚ}
    {played : List AdmissionCall × StoredSession}
    (h : playLifetime py config options admitted user opened readings = some played) :
    LifetimeRun py config (truncate opened) played.1 played.2 := by
  unfold playLifetime at h
  split at h
  · rename_i id row hexec
    exact playCalls_run (LifetimeRun.opened (Program.execute_does hexec)) h
  · cases h

/-- A window of 100 seconds under a cap of 200. -/
def demoLifetime : SessionLifetime where
  idleSeconds := 100
  absoluteMaxAgeSeconds := 200
  idle_pos := by decide
  absolute_pos := by decide
  absolute_le := by decide
  idle_le := by decide

/-- A configuration with that lifetime. -/
def demoConfig : WebAuthConfig where
  sessionSecret := List.replicate 32 (chr 's')
  signingKey := List.replicate 32 115
  allowedHostsExact := [str "app.example"]
  sessionLifetime := demoLifetime
  cookieSamesite := .strict
  cookieSecure := true
  signingKey_encodes := by decide +kernel
  secret_length := by decide
  hosts_nonempty := by decide

/-- The account of the executed runs. -/
def demoUser : UserRecord := ⟨str "u", str "u", str "user"⟩

/-- Its sign-in. -/
def demoLogin : AdmittedLogin :=
  ⟨⟨str "u", str "https://issuer", [], none, none, str "t", some (str "r")⟩, str "user"⟩

/-- A sign-in 150 seconds before the calendar ends, then a call 95 seconds later. -/
def playedAtCalendarEnd : Option (List AdmissionCall × StoredSession) :=
  playLifetime demoPlatform demoConfig ⟨false, none⟩ demoLogin demoUser 253402300650 [253402300745]

/-- Close to the calendar's end a call inside the window admits nobody. -/
theorem session_lifetime_at_calendar_end :
    ∃ opened row last, LifetimeRun demoPlatform demoConfig opened [last] row ∧
      Steady opened [last] ∧ last.second ≤ min (lastAdmitted opened [] + demoLifetime.idleSeconds)
        (opened + demoLifetime.absoluteMaxAgeSeconds) ∧ last.admits = false := by
  have h : playedAtCalendarEnd.any (fun played =>
      played.1.map (fun call => (call.second, call.admits)) = [(253402300745, false)]) = true := by
    decide +kernel
  have hopened : truncate 253402300650 = 253402300650 := by decide +kernel
  obtain ⟨⟨calls, row⟩, hplayed, htest⟩ := (Option.any_eq_true _ _).1 h
  have run := playLifetime_run hplayed
  rw [hopened] at run
  obtain ⟨last, rfl, hlast⟩ := List.map_eq_singleton_iff.1 (of_decide_eq_true htest)
  obtain ⟨hsecond, hadmits⟩ := Prod.mk.inj hlast
  refine ⟨_, row, last, run, ?_, ?_, hadmits⟩
  · intro before call after heq
    obtain ⟨rfl, rfl, rfl⟩ : before = [] ∧ call = last ∧ after = [] := by
      cases before <;> simp_all
    rw [hsecond]
    decide
  · rw [hsecond]
    decide

/-- A session opened at second 0, with calls at 90, at 40 behind it, and after the cap. -/
def playedInWindow : Option (List AdmissionCall × StoredSession) :=
  playLifetime demoPlatform demoConfig ⟨false, none⟩ demoLogin demoUser 0 [90, 50, 201]

theorem session_lifetime_in_window :
    ∃ calls row, calls.map (fun call => (call.second, call.admits)) =
        [(90, true), (50, true), (201, false)] ∧
      LifetimeHolds demoLifetime 0 calls row := by
  have h : playedInWindow.any (fun played =>
      played.1.map (fun call => (call.second, call.admits)) =
        [(90, true), (50, true), (201, false)]) = true := by
    decide +kernel
  have hopened : truncate 0 = 0 := by decide +kernel
  obtain ⟨⟨calls, row⟩, hplayed, htest⟩ := (Option.any_eq_true _ _).1 h
  have run := playLifetime_run hplayed
  rw [hopened] at run
  exact ⟨calls, row, of_decide_eq_true htest, session_lifetime run⟩

end WebAuth
