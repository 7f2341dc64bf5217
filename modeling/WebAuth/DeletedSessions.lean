import WebAuth.SessionCookies
import WebAuth.SessionLifetimeRuns
import WebAuth.SessionStore

/-!
# A deleted session never comes back

Over one store, whatever operations overlap: a session id that is stored no more is stored never
again, and an operation that yields an account, a token or groups made its last call on the session
while the row existed.
-/

namespace WebAuth

open Python Effects Program

/-! ## The last call on a session -/

/-- Whether a call is one of the store on this session. -/
def HostCall.onSession (sessionId : Str) : HostCall → Bool
  | load id => id = sessionId
  | touch id _ => id = sessionId
  | replaceRefreshToken id _ => id = sessionId
  | _ => false

/-- The calls on a session, in order. -/
def sessionCalls (sessionId : Str) (es : List HostEvent) : List HostEvent :=
  es.filter (·.call.onSession sessionId)

/-- What a store call on a session says of its row. -/
def seesRow : HostEvent → Option Bool
  | ⟨.load _, .ok record⟩ => some record.isSome
  | ⟨.touch _ _, .ok (.bool b)⟩ => some b
  | ⟨.replaceRefreshToken _ _, .ok (.bool b)⟩ => some b
  | _ => none

/-- Whether an answer hands out an account, a token or groups. -/
def OperationAnswer.yields : OperationAnswer → Bool
  | admission (.ok _) => true
  | accessToken (.ok _) => true
  | groups (.ok _) => true
  | _ => false

/-- Whether an answer says that the session ended. -/
def OperationAnswer.saysEnded : OperationAnswer → Bool
  | admission (.error .sessionEndedOrExpired) => true
  | accessToken (.error cause) => cause = sessionEnded
  | groups (.error cause) => cause = sessionEnded
  | _ => false

/-- The session an operation reads. -/
def SessionOperation.reads : SessionOperation → Option Str
  | admission _ sessionId => some sessionId
  | accessToken _ _ sessionId => some sessionId
  | groups _ _ sessionId => some sessionId
  | _ => none

section Last

variable {es es' : List HostEvent} {e : HostEvent} {sessionId : Str} {config : WebAuthConfig}

@[simp] theorem sessionCalls_nil : sessionCalls sessionId [] = [] := rfl

@[simp] theorem sessionCalls_append : sessionCalls sessionId (es ++ es') =
    sessionCalls sessionId es ++ sessionCalls sessionId es' := List.filter_append _ _

@[simp] theorem sessionCalls_cons : sessionCalls sessionId (e :: es) =
    (if e.call.onSession sessionId then [e] else []) ++ sessionCalls sessionId es := by
  cases h : e.call.onSession sessionId <;> simp [sessionCalls, h]

/-- What an answer owes to the last call on the session, where it `yields` something and where it
says that the session `ended`. -/
structure Owes (sessionId : Str) (tr : List HostEvent) (yields ended : Prop) : Prop where
  yields : yields → ∃ e, (sessionCalls sessionId tr).getLast? = some e ∧ seesRow e = some true ∧
    (e.call.writesRow = false → rowWrites tr = [])
  ended : ∀ e, (sessionCalls sessionId tr).getLast? = some e → seesRow e = some false → ended

/-- An answer that yields owes to a call that saw the row, whatever it says. -/
theorem Owes.of_seen {tr : List HostEvent} {yields ended : Prop} {e : HostEvent}
    (hlast : (sessionCalls sessionId tr).getLast? = some e) (hsees : seesRow e = some true)
    (hwrites : e.call.writesRow = false → rowWrites tr = []) : Owes sessionId tr yields ended := by
  refine ⟨fun _ => ⟨e, hlast, hsees, hwrites⟩, fun e' he' hgone => ?_⟩
  rw [hlast] at he'
  cases he'
  rw [hsees] at hgone
  cases hgone

theorem Judges.sessionCalls {row standing : Option SessionRecord} {tr : List HostEvent}
    (h : Judges config row tr standing) : sessionCalls sessionId tr = [] := by
  cases row with
  | none =>
    obtain ⟨rfl, -⟩ := h
    rfl
  | some row =>
    obtain ⟨reading, now, rfl, -, -⟩ := h
    rfl

theorem ReadsRow.sessionCalls {row standing : Option SessionRecord} {tr : List HostEvent}
    (h : ReadsRow config sessionId tr row standing) :
    sessionCalls sessionId tr = [⟨.load sessionId, .ok row⟩] := by
  obtain ⟨judged, hjudges, rfl⟩ := h
  simp [rowRead, HostCall.onSession, hjudges.sessionCalls]

theorem sessionCalls_of_asks {tr : List HostEvent} (h : ∀ e ∈ tr, e.call.AsksIssuer) :
    WebAuth.sessionCalls sessionId tr = [] := by
  refine List.filter_eq_nil_iff.2 ?_
  rintro ⟨c, ans⟩ he
  have := h _ he
  cases c <;> first | exact this.elim | simp [HostCall.onSession]

theorem Admits.owes {tr : List HostEvent} {decision : SessionDecision}
    (h : Admits config sessionId tr (.ok decision)) :
    Owes sessionId tr (∃ user, decision = .ok user) (decision = .error .sessionEndedOrExpired) := by
  generalize hr : (Except.ok decision : Except Exn SessionDecision) = r at h
  cases h with
  | unread => cases hr
  | refused =>
    cases hr
    exact ⟨fun ⟨user, h⟩ => (by cases h), fun _ _ _ => rfl⟩
  | @touched row reading expiresAt ans admitted =>
    rcases ans with e | ⟨_ | _⟩ | typeName
    · cases hr
    · cases hr
      exact ⟨fun ⟨user, h⟩ => (by cases h), fun _ _ _ => rfl⟩
    · refine .of_seen (e := ⟨.touch sessionId expiresAt, .ok (.bool true)⟩) ?_ rfl fun h => by cases h
      simp [HostCall.onSession]
    · cases hr

theorem Keeps.last {sent : Str} {rotated : Option Str} {tr : List HostEvent}
    (h : Keeps config sessionId sent rotated tr true) :
    ∃ e, (WebAuth.sessionCalls sessionId tr).getLast? = some e ∧ seesRow e = some true ∧
      (e.call.writesRow = false → rowWrites tr = []) := by
  generalize hb : true = b at h
  cases h with
  | ended => cases hb
  | @kept judged row record judges same =>
    refine ⟨⟨.load sessionId, .ok row⟩, ?_, ?_, fun _ => ?_⟩
    · simp [rowRead, HostCall.onSession, judges.sessionCalls]
    · rcases judges.standing_eq with h | h
      · cases h
      · rw [← h]
        rfl
    · simp [rowRead, judges.views.2.2, HostCall.writesRow]
  | @replaced judged row record token b judges differs =>
    subst hb
    exact ⟨⟨.replaceRefreshToken sessionId token, .ok (.bool true)⟩,
      by simp [HostCall.onSession], rfl, fun h => by cases h⟩

theorem Asked.owes {γ β : Type} {P : HostEvent → Prop}
    {asks : StandingEvidence → List HostEvent → Except Exn (Except OidcRefusal γ) → Prop}
    {rotated : γ → Option Str} {yields : γ → Except OidcRefusal β} {tr : List HostEvent}
    {result : Except AccessTokenRefusal β}
    (h : Asked P config sessionId asks rotated yields tr (.ok result))
    (hasks : ∀ held tr r, asks held tr r → ∀ e ∈ tr, e.call.AsksIssuer) :
    Owes sessionId tr (∃ b, result = .ok b) (result = .error sessionEnded) := by
  generalize hr : (Except.ok result : Except Exn (Except AccessTokenRefusal β)) = r at h
  cases h with
  | unread => cases hr
  | @unfit tr row standing cause read shows =>
    cases hr
    refine ⟨fun ⟨b, h⟩ => (by cases h), fun e he hgone => ?_⟩
    rw [read.sessionCalls] at he
    cases he
    obtain ⟨judged, judges, -⟩ := read
    cases row with
    | some row => cases hgone
    | none =>
      obtain ⟨-, rfl⟩ := judges
      cases shows
      rfl
  | broken => cases hr
  | @refused tr row standing held trG cause read shows granted =>
    cases hr
    refine ⟨fun ⟨b, h⟩ => (by cases h), fun e he hgone => ?_⟩
    rw [sessionCalls_append, read.sessionCalls, sessionCalls_of_asks (hasks _ _ _ granted)] at he
    cases he
    obtain ⟨judged, judges, -⟩ := read
    obtain ⟨record, rfl, -⟩ := evidenceOf_eq_ok shows
    rcases judges.standing_eq with h | rfl
    · cases h
    · cases hgone
  | unkept => cases hr
  | ended =>
    cases hr
    exact ⟨fun ⟨b, h⟩ => (by cases h), fun _ _ _ => rfl⟩
  | @yielded tr row standing held trG g trK read shows granted keeps =>
    obtain ⟨e, hlast, hsees, hwrites⟩ := keeps.last
    refine .of_seen (e := e) ?_ hsees fun h => ?_
    · simp only [sessionCalls_append, List.getLast?_append, hlast, Option.some_or]
    · simp [read.views.2.2, rowWrites_of_asks (hasks _ _ _ granted), hwrites h]

/-- What every operation on a session owes when it answers. -/
theorem SessionOperation.Ends.owes {py : Platform} {P : HostEvent → Prop} {op : SessionOperation}
    {tr : List HostEvent} {answer : OperationAnswer} (h : op.Ends py P tr (.ok answer))
    (hreads : op.reads = some sessionId) :
    Owes sessionId tr (answer.yields = true) (answer.saysEnded = true) := by
  cases op with
  | admission config id =>
    cases hreads
    obtain ⟨decision, hr, h⟩ := h
    rcases decision with e | decision <;> cases hr
    obtain ⟨hyields, hended⟩ := h.owes
    refine ⟨fun h => hyields ?_, fun e he hgone => by rw [hended e he hgone]; rfl⟩
    rcases decision with cause | user
    · cases h
    · exact ⟨user, rfl⟩
  | accessToken rp config id =>
    cases hreads
    obtain ⟨token, hr, h⟩ := h
    rcases token with e | token <;> cases hr
    obtain ⟨hyields, hended⟩ := h.owes fun _ _ _ => Renews.asks
    refine ⟨fun h => hyields ?_, fun e he hgone => by rw [hended e he hgone]; rfl⟩
    rcases token with cause | token
    · cases h
    · exact ⟨token, rfl⟩
  | groups rp config id =>
    cases hreads
    obtain ⟨paths, hr, h⟩ := h
    rcases paths with e | paths <;> cases hr
    obtain ⟨hyields, hended⟩ := h.owes fun _ _ _ => ReadsGroups.asks
    refine ⟨fun h => hyields ?_, fun e he hgone => by rw [hended e he hgone]; rfl⟩
    rcases paths with cause | paths
    · cases h
    · exact ⟨paths, rfl⟩
  | signIn => cases hreads
  | logout => cases hreads
  | backchannelLogout => cases hreads

end Last

/-! ## Runs -/

section Runs

variable {ι : Type} [DecidableEq ι] {py : Platform} {ops : ι → SessionOperation}
  {s₀ s : SessionRows} {h : List (ι × HostEvent)} {pool : ι → Task OperationAnswer}

/-- A call that saw the row of a session was made while the row existed. -/
theorem sessionStore_seesRow {s s' : SessionRows} {e : HostEvent} {sessionId : Str}
    (hstore : sessionStore s e.call e.answer s') (hon : e.call.onSession sessionId = true)
    (hsees : seesRow e = some true) : (s.rows sessionId).isSome = true := by
  obtain ⟨c, ans⟩ := e
  cases c
  case load id =>
    rcases ans with x | record
    · cases hsees
    · obtain ⟨rfl, -⟩ := hstore
      obtain rfl : id = sessionId := by simpa [HostCall.onSession] using hon
      simpa [seesRow] using hsees
  case touch id expiresAt =>
    rcases ans with x | ⟨b⟩ | typeName
    · cases hsees
    · obtain ⟨hb, -⟩ := hstore
      obtain rfl : id = sessionId := by simpa [HostCall.onSession] using hon
      cases hsees
      exact (StoreAnswer.bool.inj hb).symm
    · cases hsees
  case replaceRefreshToken id token =>
    rcases ans with x | ⟨b⟩ | typeName
    · cases hsees
    · obtain ⟨hb, -⟩ := hstore
      obtain rfl : id = sessionId := by simpa [HostCall.onSession] using hon
      cases hsees
      exact (StoreAnswer.bool.inj hb).symm
    · cases hsees
  all_goals cases hsees

/-- The last of the calls on a session splits the calls of a thread. -/
theorem sessionCalls_getLast {es : List HostEvent} {e : HostEvent} {sessionId : Str}
    (hlast : (sessionCalls sessionId es).getLast? = some e) :
    ∃ es₁ es₂, es = es₁ ++ e :: es₂ ∧ e.call.onSession sessionId = true ∧
      sessionCalls sessionId es₂ = [] := by
  obtain ⟨init, hinit⟩ := List.getLast?_eq_some_iff.1 hlast
  obtain ⟨es₁, rest, rfl, -, hrest⟩ := List.filter_eq_append_iff.1 hinit
  obtain ⟨l, es₂, rfl, -, hon, hnil⟩ := List.filter_eq_cons_iff.1 hrest
  exact ⟨es₁ ++ l, es₂, by simp, hon, hnil⟩

/-- What holds of deleted sessions in a run of overlapping operations on one store. -/
structure DeletionFinal (py : Platform) (ops : ι → SessionOperation) (s₀ : SessionRows)
    (h : List (ι × HostEvent)) (s : SessionRows) (pool : ι → Task OperationAnswer) : Prop where
  /-- A session that was stored at some moment and is not at a later one is stored never again. -/
  gone : ∀ h₁ s₁ pool₁ h₂ s₂ pool₂ h₃ id, h = h₁ ++ (h₂ ++ h₃) →
    StoreRun py ops s₀ h₁ s₁ pool₁ → Run sessionStore s₁ pool₁ h₂ s₂ pool₂ →
    Run sessionStore s₂ pool₂ h₃ s pool → (s₁.rows id).isSome = true → s₂.rows id = none →
    s.rows id = none
  /-- An operation that yields an account, a token or groups made its last call on the session
  while the row was stored; that call is a load only when the operation wrote nothing. -/
  admitted : ∀ i id answer, (ops i).reads = some id → pool i = .ret answer → answer.yields = true →
    ∃ h₁ e h₂ s₁ pool₁ s₂ pool₂, h = h₁ ++ (i, e) :: h₂ ∧ StoreRun py ops s₀ h₁ s₁ pool₁ ∧
      sessionStore s₁ e.call e.answer s₂ ∧ Run sessionStore s₂ pool₂ h₂ s pool ∧
      e.call.onSession id = true ∧ sessionCalls id (own i h₂) = [] ∧ seesRow e = some true ∧
      (s₁.rows id).isSome = true ∧ (e.call.writesRow = false → rowWrites (own i h) = [])
  /-- An operation whose last call on the session found the row gone answers that it ended. -/
  ended : ∀ i id answer e, (ops i).reads = some id → pool i = .ret answer →
    (sessionCalls id (own i h)).getLast? = some e → seesRow e = some false → answer.saysEnded = true

/-- **A deleted session never comes back and never admits afterwards.** -/
theorem deletion_final (hr : StoreRun py ops s₀ h s pool) :
    DeletionFinal py ops s₀ h s pool := by
  have howes : ∀ i id answer, (ops i).reads = some id → pool i = .ret answer →
      Owes id (own i h) (answer.yields = true) (answer.saysEnded = true) := by
    intro i id answer hreads hi
    have hends := (hr.path (r := .ok answer) hi).ensures
      (accepted_iff.2 fun _ _ => trivial) (SessionOperation.run_ensures (P := fun _ => True) (ops i))
    rw [List.nil_append] at hends
    exact hends.owes hreads
  refine ⟨?_, ?_, ?_⟩
  · intro h₁ s₁ pool₁ h₂ s₂ pool₂ h₃ id _ _ hr₂ hr₃ hstored hgone
    have hminted := (run_leadsTo hr₂).minted (s₁.handedOut id hstored)
    exact (run_leadsTo hr₃).gone id hminted hgone
  · intro i id answer hreads hi hyields
    obtain ⟨e, hlast, hsees, hwrites⟩ := (howes i id answer hreads hi).yields hyields
    obtain ⟨es₁, es₂, hown, hon, hnone⟩ := sessionCalls_getLast hlast
    obtain ⟨h₁, h₂, heq, -, hown₂⟩ := own_split hown
    obtain ⟨s₁, pool₁, next, s₂, hr₁, -, hstore, hr₂⟩ := hr.cutAt heq
    exact ⟨h₁, e, h₂, s₁, pool₁, s₂, _, heq, hr₁, hstore, hr₂, hon, hown₂ ▸ hnone, hsees,
      sessionStore_seesRow hstore hon hsees, hwrites⟩
  · intro i id answer e hreads hi hlast hgone
    exact (howes i id answer hreads hi).ended e hlast hgone

end Runs

/-- Two admissions of a session and the logout that ends it. -/
inductive DeletionCall where
  | admitted
  | logout
  | refused
  deriving DecidableEq

def deletedBetween : DeletionCall → SessionOperation
  | .admitted => .admission demoConfig (str "s/1.2")
  | .logout => .logout gatedScope
  | .refused => .admission demoConfig (str "s/1.2")

/-- The logout deletes the row after the one admission has renewed it, and between the two calls of
the other. -/
def deletionSchedule : List (DeletionCall × HostChoice) :=
  [(.admitted, .plain), (.refused, .plain), (.logout, .worded ⟨str "en", str "Log out"⟩),
    (.logout, .bound demoRelyingParty), (.refused, .reading 50), (.logout, .plain),
    (.admitted, .reading 50), (.logout, .plain), (.admitted, .plain), (.logout, .plain),
    (.refused, .plain), (.logout, .plain)]

/-- A store that holds that session and another. -/
def cookieRows : SessionRows := demoRows.inserted { demoRow with id := str "s/1.2" }

/-- Whether the one has yielded an account and the other found the row gone. -/
def admittedAndGone (m : StoreMoment DeletionCall) : Bool :=
  match (m.pool .admitted).outcome, (m.pool .logout).outcome, (m.pool .refused).outcome with
  | some (.ok admitted), some (.ok _), some (.ok refused) =>
    admitted.yields && refused.saysEnded && (m.state.rows (str "s/1.2")).isNone
  | _, _, _ => false

theorem deletion_final_of_logout : ∃ m : StoreMoment DeletionCall, admittedAndGone m = true ∧
    DeletionFinal sessionPlatform deletedBetween cookieRows m.history m.state m.pool := by
  have h : ((Moment.before cookieRows fun i => (deletedBetween i).run sessionPlatform).execute
      storeResponder deletionSchedule).any admittedAndGone = true := by
    decide +kernel
  obtain ⟨m, run, hm⟩ := Moment.exists_run h
  exact ⟨m, hm, deletion_final run⟩

end WebAuth
