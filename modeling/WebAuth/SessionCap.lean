import WebAuth.AccountWrites

/-!
# The cap on sessions

A sign-in under a cap ends the session its browser brought, keeps the newest sessions of its account
up to one below the cap, and opens one more. Nothing else opens a session, so an account that signed
in under the cap never holds more sessions than the cap again.
-/

namespace WebAuth

open Python Effects Program

/-! ## The sessions while a sign-in writes -/

/-- The sessions without the one a request's cookie named. -/
def withoutReplaced (replaced : Option Str) (sessions : List HeldSession) : List HeldSession :=
  sessions.filter fun session => some session.id ≠ replaced

/-- The sessions of one account pruned to the newest. Those of the others stay. -/
structure PrunedTo (keepNewest : ℕ) (userId : Str) (all kept : List HeldSession) : Prop where
  own : Newest keepNewest (sessionsOf userId all) (sessionsOf userId kept)
  others : ∀ other, other ≠ userId → sessionsOf other kept = sessionsOf other all

/-- The sessions at a point of a sign-in's entry. -/
inductive SignInSessions (keepNewest : ℕ) (userId : Str) (replaced : Option Str)
    (found : List HeldSession) : List HeldSession → Prop
  | untouched : SignInSessions keepNewest userId replaced found found
  | replaced : SignInSessions keepNewest userId replaced found (withoutReplaced replaced found)
  | pruned {kept : List HeldSession}
      (h : PrunedTo keepNewest userId (withoutReplaced replaced found) kept) :
      SignInSessions keepNewest userId replaced found kept
  | opened {kept : List HeldSession} {session : HeldSession}
      (h : PrunedTo keepNewest userId (withoutReplaced replaced found) kept)
      (huser : session.userId = userId) :
      SignInSessions keepNewest userId replaced found (kept ++ [session])

section Stages

variable {s s' : Stores} {es : List HostEvent}

theorem steps_quiet (hes : ∀ e ∈ es, e.call.Quiet) (h : Steps storeCalls s es s') : s' = s :=
  h.keeps (P := fun e => HostCall.Quiet e.call) (R := fun a b => b = a) (fun _ => rfl)
    (fun h₁ h₂ => h₂.trans h₁) (fun _ _ _ hquiet hstep => storeCalls_quiet hquiet hstep) hes

theorem wholeSecondNow_steps {r : Except Exn DateTime} (h : Path wholeSecondNow es r)
    (hsteps : Steps storeCalls s es s') : s' = s := by
  have hquiet : Only HostCall.Quiet wholeSecondNow :=
    Only.bind (only_invoke trivial) fun _ => only_done _
  exact steps_quiet (hquiet.path h) hsteps

theorem endReplaced_steps {replaced : Option Str} {r : Except Exn Unit}
    (h : Path (endReplaced replaced) es r) (hsteps : Steps storeCalls s es s') :
    (r = .ok () ∧ s'.sessions = withoutReplaced replaced s.sessions) ∨
      ((∃ e, r = .error e) ∧ s'.sessions = s.sessions) := by
  cases replaced with
  | none =>
    obtain ⟨rfl, rfl⟩ := h
    obtain rfl := steps_nil.1 hsteps
    exact .inl ⟨rfl, by simp [withoutReplaced]⟩
  | some sessionId =>
    obtain ⟨-, hcall⟩ := perform_steps h hsteps
    cases r with
    | error e => exact .inr ⟨⟨e, rfl⟩, by rw [storeCalls_error hcall]⟩
    | ok _ =>
      obtain rfl : s' = _ := hcall
      exact .inl ⟨rfl, by simp [withoutReplaced, Stores.keeping]⟩

theorem pruneTo_steps {userId : Str} {keepNewest : ℕ} {r : Except Exn Unit}
    (h : Path (pruneTo userId (some keepNewest)) es r) (hsteps : Steps storeCalls s es s') :
    (r = .ok () ∧ PrunedTo keepNewest userId s.sessions s'.sessions) ∨
      ((∃ e, r = .error e) ∧ s'.sessions = s.sessions) := by
  obtain ⟨-, hcall⟩ := perform_steps h hsteps
  cases r with
  | error e => exact .inr ⟨⟨e, rfl⟩, by rw [storeCalls_error hcall]⟩
  | ok _ =>
    obtain ⟨keeps, rfl, hothers, hnewest⟩ := hcall
    refine .inl ⟨rfl, hnewest, fun other hne => ?_⟩
    unfold sessionsOf Stores.keeping
    rw [List.filter_filter]
    refine List.filter_congr fun session _ => ?_
    by_cases huser : session.userId = other
    · simp [huser, hothers session (huser ▸ hne)]
    · simp [huser]

theorem openSession_steps {config : WebAuthConfig} {options : SignInOptions}
    {identity : OidcIdentity} {accountId : Str} {now : DateTime} {r : Except Exn Str}
    (h : Path (openSession config options identity accountId now) es r)
    (hsteps : Steps storeCalls s es s') :
    (∃ session, r = .ok session.id ∧ session.userId = accountId ∧
        s'.sessions = s.sessions ++ [session]) ∨
      ((∃ e, r = .error e) ∧ s'.sessions = s.sessions) := by
  rcases path_lift_bind h with ⟨expiresAt, -, h⟩ | ⟨e, -, rfl, rfl⟩
  rotate_left
  · obtain rfl := steps_nil.1 hsteps
    exact .inr ⟨⟨e, rfl⟩, rfl⟩
  obtain ⟨creating, none, rc, rfl, hcreate, hnone⟩ := path_andThen.1 h
  obtain ⟨s₁, hcreating, hrest⟩ := steps_append.1 hsteps
  obtain ⟨-, hcall⟩ := perform_steps hcreate hcreating
  cases rc with
  | error e =>
    obtain ⟨rfl, rfl⟩ := hnone
    obtain rfl := steps_nil.1 hrest
    exact .inr ⟨⟨e, rfl⟩, by rw [storeCalls_error hcall]⟩
  | ok record =>
    obtain ⟨rfl, rfl⟩ := hnone
    obtain rfl := steps_nil.1 hrest
    obtain ⟨hnew, rfl, -⟩ := hcall
    exact .inl ⟨_, rfl, rfl, rfl⟩

end Stages

section Writes

variable {py : Platform} {config : WebAuthConfig} {options : SignInOptions}
  {admitted : AdmittedLogin} {replaced : Option Str} {keepNewest : ℕ} {s s' : Stores}
  {es : List HostEvent}

/-- **The sessions wherever the writes of a sign-in end.** When they return, one was opened. -/
theorem writeSignIn_sessions (hcap : options.maxSessionsPred = some keepNewest)
    {r : Except Exn Str} (h : Path (writeSignIn py config options admitted replaced) es r)
    (hsteps : Steps storeCalls s es s') :
    SignInSessions keepNewest admitted.identity.subject replaced s.sessions s'.sessions ∧
      ∀ sessionId, r = .ok sessionId → ∃ kept session,
        PrunedTo keepNewest admitted.identity.subject (withoutReplaced replaced s.sessions) kept ∧
        session.id = sessionId ∧ session.userId = admitted.identity.subject ∧
        s'.sessions = kept ++ [session] := by
  unfold writeSignIn at h
  obtain ⟨admitting, rest₁, ra, rfl, hadmit, h₁⟩ := path_andThen.1 h
  obtain ⟨s₁, hadmitting, hsteps₁⟩ := steps_append.1 hsteps
  have hsessions₁ : s₁.sessions = s.sessions :=
    steps_sessions ((admitAccount_only _ _ _).path hadmit) hadmitting
  cases ra with
  | error e =>
    obtain ⟨rfl, rfl⟩ := h₁
    obtain rfl := steps_nil.1 hsteps₁
    exact ⟨hsessions₁ ▸ .untouched, by rintro _ ⟨⟩⟩
  | ok account =>
    obtain ⟨-, hid⟩ := admitAccount_steps hadmit hadmitting
    obtain ⟨reading, rest₂, rn, rfl, hread, h₂⟩ := path_andThen.1 h₁
    obtain ⟨s₂, hreading, hsteps₂⟩ := steps_append.1 hsteps₁
    obtain rfl := wholeSecondNow_steps hread hreading
    cases rn with
    | error e =>
      obtain ⟨rfl, rfl⟩ := h₂
      obtain rfl := steps_nil.1 hsteps₂
      exact ⟨hsessions₁ ▸ .untouched, by rintro _ ⟨⟩⟩
    | ok now =>
      obtain ⟨ending, rest₃, re, rfl, hend, h₃⟩ := path_andThen.1 h₂
      obtain ⟨s₃, hending, hsteps₃⟩ := steps_append.1 hsteps₂
      rcases endReplaced_steps hend hending with ⟨rfl, hsessions₃⟩ | ⟨⟨e, rfl⟩, hsessions₃⟩
      rotate_left
      · obtain ⟨rfl, rfl⟩ := h₃
        obtain rfl := steps_nil.1 hsteps₃
        rw [hsessions₃, hsessions₁]
        exact ⟨.untouched, by rintro _ ⟨⟩⟩
      obtain ⟨pruning, rest₄, rp, rfl, hprune, h₄⟩ := path_andThen.1 h₃
      obtain ⟨s₄, hpruning, hsteps₄⟩ := steps_append.1 hsteps₃
      rw [hcap, hid] at hprune
      rcases pruneTo_steps hprune hpruning with ⟨rfl, hpruned⟩ | ⟨⟨e, rfl⟩, hsessions₄⟩
      rotate_left
      · obtain ⟨rfl, rfl⟩ := h₄
        obtain rfl := steps_nil.1 hsteps₄
        rw [hsessions₄, hsessions₃, hsessions₁]
        exact ⟨.replaced, by rintro _ ⟨⟩⟩
      rw [hsessions₃, hsessions₁] at hpruned
      rcases openSession_steps h₄ hsteps₄ with ⟨session, rfl, huser, hopened⟩ | ⟨⟨e, rfl⟩, hsame⟩
      · rw [hopened]
        refine ⟨.opened hpruned (huser.trans hid), fun sessionId hsession => ?_⟩
        exact ⟨_, session, hpruned, Except.ok.inj hsession, huser.trans hid, rfl⟩
      · rw [hsame]
        exact ⟨.pruned hpruned, by rintro _ ⟨⟩⟩

end Writes

/-! ## How many sessions an account has -/

/-- A host that keeps what a failed entry wrote, or undoes it. -/
def keptOrUndone (_ : Bool) (before made after : Stores) : Prop := after = before ∨ after = made

/-- How many sessions an account has. -/
def Stores.held (s : Stores) (userId : Str) : ℕ := (sessionsOf userId s.sessions).length

/-- No account has more sessions than before. -/
def NoMoreSessions (s s' : Stores) : Prop := ∀ userId, s'.held userId ≤ s.held userId

theorem sessionsOf_filter (userId : Str) (keeps : HeldSession → Bool)
    (sessions : List HeldSession) :
    sessionsOf userId (sessions.filter keeps) = (sessionsOf userId sessions).filter keeps := by
  unfold sessionsOf
  exact List.filter_comm _ _ _

theorem sessionsOf_withoutReplaced (userId : Str) (replaced : Option Str)
    (sessions : List HeldSession) : sessionsOf userId (withoutReplaced replaced sessions) =
      withoutReplaced replaced (sessionsOf userId sessions) :=
  sessionsOf_filter _ _ _

theorem sessionsOf_append (userId : Str) (kept : List HeldSession) (session : HeldSession) :
    sessionsOf userId (kept ++ [session]) =
      sessionsOf userId kept ++ if session.userId = userId then [session] else [] := by
  unfold sessionsOf
  rw [List.filter_append, List.filter_singleton]
  by_cases huser : session.userId = userId <;> simp [huser]

theorem held_keeping (s : Stores) (keeps : HeldSession → Bool) :
    NoMoreSessions s (s.keeping keeps) := by
  intro userId
  unfold Stores.held
  rw [show (s.keeping keeps).sessions = s.sessions.filter keeps from rfl, sessionsOf_filter]
  exact List.length_filter_le _ _

theorem held_changing (s : Stores) (f : HeldSession → HeldSession)
    (hid : ∀ session, (f session).id = session.id)
    (huser : ∀ session, (f session).userId = session.userId) :
    NoMoreSessions s (s.changing f hid) := by
  intro userId
  unfold Stores.held sessionsOf
  rw [show (s.changing f hid).sessions = s.sessions.map f from rfl, List.filter_map,
    List.length_map]
  apply le_of_eq
  congr 2
  funext session
  simp [huser]

/-- A call that adds nothing opens no session. -/
theorem noMoreSessions_call {s s' : Stores} {c : HostCall} {ans : Except Exn c.Answer}
    (hc : c.AddsNothing) (h : storeCalls s c ans s') : NoMoreSessions s s' := by
  have hsame : s' = s → NoMoreSessions s s' := fun heq _ => heq ▸ le_rfl
  cases ans with
  | error e => exact hsame (storeCalls_error h)
  | ok a =>
    cases c with
    | load => exact hsame h.1
    | touch id expiresAt =>
      obtain ⟨-, rfl⟩ := h
      refine held_changing _ _ _ fun session => ?_
      unfold HeldSession.renewed
      split <;> rfl
    | replaceRefreshToken id token =>
      obtain ⟨-, rfl⟩ := h
      refine held_changing _ _ _ fun session => ?_
      unfold HeldSession.rotated
      split <;> rfl
    | delete id =>
      obtain rfl : s' = _ := h
      exact held_keeping _ _
    | deleteForUser userId =>
      obtain ⟨-, rfl⟩ := h
      exact held_keeping _ _
    | pruneOverflow userId keepNewest =>
      obtain ⟨keeps, rfl, -⟩ := h
      exact held_keeping _ _
    | getAccount => exact hsame h.1
    | accountEvent event =>
      obtain rfl : s' = _ := h
      exact fun _ => le_rfl
    | enter => exact hc.elim
    | leave => exact hc.elim
    | create => exact hc.elim
    | createForSubject => exact hc.elim
    | setRole => exact hc.elim
    | _ => exact hsame h

/-- What a sign-in's entry adds to an account, it adds below the cap. -/
theorem SignInSessions.held_le {keepNewest : ℕ} {userId : Str} {replaced : Option Str}
    {found after : List HeldSession}
    (h : SignInSessions keepNewest userId replaced found after) (account : Str) :
    (sessionsOf account after).length ≤ (sessionsOf account found).length ∨
      (sessionsOf account after).length ≤ keepNewest + 1 := by
  have hreplaced : (sessionsOf account (withoutReplaced replaced found)).length ≤
      (sessionsOf account found).length := by
    rw [sessionsOf_withoutReplaced]
    exact List.length_filter_le _ _
  cases h with
  | untouched => exact .inl le_rfl
  | replaced => exact .inl hreplaced
  | pruned h =>
    by_cases hown : account = userId
    · subst hown
      have hlength := h.own.length
      omega
    · rw [h.others account hown]
      exact .inl hreplaced
  | @opened kept session h huser =>
    rw [sessionsOf_append, huser]
    by_cases hown : account = userId
    · subst hown
      have hlength := h.own.length
      rw [if_pos rfl, List.length_append, List.length_singleton]
      omega
    · rw [if_neg (Ne.symm hown), List.append_nil, h.others account hown]
      exact .inl hreplaced

/-! ## One operation -/

/-- A sign-in is under the cap when its routes are built with it. -/
def HostOperation.CappedAt (keepNewest : ℕ) : HostOperation → Prop
  | session (.signIn routes _) => routes.options.maxSessionsPred = some keepNewest
  | _ => True

/-- A sign-in of the account was completed: its writes returned and their entry exited cleanly. -/
def SignsIn (py : Platform) (turn : HostTurn) (routes : SignIn) (scope : Scope) (userId : Str)
    (replaced : Option Str) (sessionId : Str) : Prop :=
  turn.op = .session (.signIn routes scope) ∧ ∃ admitted, admitted.identity.subject = userId ∧
    SignInWrites py routes scope admitted replaced turn.events (.ok sessionId) (.ok ())

/-- The sessions of an account after its sign-in: the newest of those it had besides the one the
cookie named, and the new one. -/
def NewestAndOpened (keepNewest : ℕ) (replaced : Option Str) (sessionId : Str)
    (before after : List HeldSession) : Prop :=
  ∃ kept opened, Newest keepNewest (withoutReplaced replaced before) kept ∧
    opened.id = sessionId ∧ after = kept ++ [opened]

/-- Sessions that stay as they are, but for the one the cookie named, which may end. -/
def KeptButNamed (replaced : Option Str) (before after : List HeldSession) : Prop :=
  after = before ∨ after = withoutReplaced replaced before

section Turns

variable {py : Platform} {keepNewest : ℕ} {turn : HostTurn} {s s' : HostState}

theorem SignInSessions.others {userId : Str} {replaced : Option Str}
    {found after : List HeldSession} (h : SignInSessions keepNewest userId replaced found after)
    {other : Str} (hother : other ≠ userId) :
    KeptButNamed replaced (sessionsOf other found) (sessionsOf other after) := by
  cases h with
  | untouched => exact .inl rfl
  | replaced => exact .inr (sessionsOf_withoutReplaced _ _ _)
  | pruned h =>
    rw [h.others other hother]
    exact .inr (sessionsOf_withoutReplaced _ _ _)
  | opened h huser =>
    rw [sessionsOf_append, huser, if_neg (Ne.symm hother), List.append_nil, h.others other hother]
    exact .inr (sessionsOf_withoutReplaced _ _ _)

/-- The sessions a sign-in leaves, whether or not it is completed. -/
theorem SignInWrites.sessions {routes : SignIn} {scope : Scope} {es : List HostEvent}
    {admitted : AdmittedLogin} {replaced : Option Str} {rw : Except Exn Str}
    {exit : Except Exn Unit} (hcap : routes.options.maxSessionsPred = some keepNewest)
    (h : SignInWrites py routes scope admitted replaced es rw exit)
    (hsteps : Steps (hostStores keptOrUndone) s es s') :
    SignInSessions keepNewest admitted.identity.subject replaced s.now.sessions s'.now.sessions := by
  obtain ⟨config, inner, made, hpath, hmade, hexit⟩ := h.effect hsteps
  obtain ⟨hsessions, -⟩ := writeSignIn_sessions hcap hpath hmade
  split at hexit
  · exact hexit ▸ hsessions
  · rcases hexit with hundone | hkept
    · rw [hundone]
      exact .untouched
    · rw [hkept]
      exact hsessions

theorem SignsIn.sessions {routes : SignIn} {scope : Scope} {userId : Str} {replaced : Option Str}
    {sessionId : Str} (hcap : routes.options.maxSessionsPred = some keepNewest)
    (h : SignsIn py turn routes scope userId replaced sessionId)
    (hsteps : Steps (hostStores keptOrUndone) s turn.events s') :
    NewestAndOpened keepNewest replaced sessionId (sessionsOf userId s.now.sessions)
      (sessionsOf userId s'.now.sessions) := by
  obtain ⟨-, admitted, rfl, hwrites⟩ := h
  obtain ⟨config, inner, made, hpath, hmade, hexit⟩ := hwrites.effect hsteps
  obtain ⟨-, hopens⟩ := writeSignIn_sessions hcap hpath hmade
  obtain ⟨kept, opened, hpruned, hid, huser, hsessions⟩ := hopens sessionId rfl
  rw [if_pos ⟨rfl, rfl⟩] at hexit
  refine ⟨sessionsOf admitted.identity.subject kept, opened, ?_, hid, ?_⟩
  · rw [← sessionsOf_withoutReplaced]
    exact hpruned.own
  · rw [hexit, hsessions, sessionsOf_append, if_pos huser]

theorem NewestAndOpened.length_le {replaced : Option Str} {sessionId : Str}
    {before after : List HeldSession}
    (h : NewestAndOpened keepNewest replaced sessionId before after) :
    after.length ≤ keepNewest + 1 := by
  obtain ⟨kept, opened, hnewest, -, rfl⟩ := h
  have hlength := hnewest.length
  rw [List.length_append, List.length_singleton]
  omega

/-- The holder of a token has the sessions it had. -/
theorem tokenHolder_sessions {verified : VerifiedAccessToken} {admission : AdmissionConfig}
    (hop : turn.op = .tokenHolder verified admission)
    (h : turn.Takes (hostStores keptOrUndone) (HostOperation.run py) s s') :
    s'.now.sessions = s.now.sessions := by
  rcases tokenHolder_path hop h.path with ⟨-, hnone, -⟩ | ⟨role, rw, -, hwithin, -⟩
  · have hsteps := h.steps
    rw [hnone] at hsteps
    obtain rfl := steps_nil.1 hsteps
    rfl
  · rcases within_path hwithin with ⟨e, hes, -⟩ | ⟨rb, exit, hentry, -⟩
    · have hidle : ∀ e' ∈ turn.events, Idle e' := by
        intro e' he'
        rw [hes] at he'
        exact .inr ⟨_, e, List.mem_singleton.1 he'⟩
      rw [steps_idle hidle h.steps]
    · have honly : Only HostCall.OnAccounts (tokenHolderOf py verified role.value) :=
        Only.bind (admitAccount_only _ _ _) fun _ => trivial
      have hinside : Only HostCall.Inside (tokenHolderOf py verified role.value) :=
        Only.bind (admitAccount_inside _ _ _) fun _ => trivial
      obtain ⟨inner, made, hinner, hmade, hexit⟩ := hentry.effect hinside h.steps
      have hsessions := steps_sessions (honly.path hinner) hmade
      split at hexit
      · rw [hexit, hsessions]
      · rcases hexit with hundone | hkept
        · rw [hundone]
        · rw [hkept, hsessions]

/-- **No operation adds a session to an account above the cap.** -/
theorem held_turn (hcap : turn.op.CappedAt keepNewest)
    (h : turn.Takes (hostStores keptOrUndone) (HostOperation.run py) s s') (userId : Str) :
    s'.now.held userId ≤ s.now.held userId ∨ s'.now.held userId ≤ keepNewest + 1 := by
  by_cases hadds : turn.op.AddsNothing
  · have hminor := run_minor py hadds _ _ h.path
    refine .inl (minor_keeps (T := NoMoreSessions) (fun _ _ => le_rfl) ?_
      (fun _ _ _ _ => noMoreSessions_call) ?_ hminor h.steps userId)
    · exact fun h₁ h₂ account => (h₂ account).trans (h₁ account)
    · rintro returned a made b hmade (rfl | rfl)
      · exact fun _ => le_rfl
      · exact hmade
  · match hop : turn.op with
    | .session (.signIn routes scope) =>
      rw [hop] at hcap
      cases signIn_course hop h.path with
      | idle hidle =>
        rw [steps_idle hidle h.steps]
        exact .inl le_rfl
      | written hwrites => exact (hwrites.sessions hcap h.steps).held_le userId
    | .tokenHolder verified admission =>
      have hsessions := tokenHolder_sessions hop h
      exact .inl (by rw [Stores.held, hsessions]; rfl)
    | .session (.admission _ _) | .session (.accessToken _ _ _) | .session (.groups _ _ _)
    | .session (.logout _) | .session (.backchannelLogout _) | .resourceHolder _ _ _ =>
      rw [hop] at hadds
      exact absurd trivial hadds

/-- The session id a request's verified cookie names, if it names one. -/
def NamedByCookie (py : Platform) (scope : Scope) (named : Option Str) : Prop :=
  ∃ config, webAuthConfig scope = .ok config ∧
    sessionIdFromRequest py scope config.value = .ok named

theorem SignInWrites.named {routes : SignIn} {scope : Scope} {es : List HostEvent}
    {admitted : AdmittedLogin} {replaced : Option Str} {rw : Except Exn Str}
    {exit : Except Exn Unit} (h : SignInWrites py routes scope admitted replaced es rw exit) :
    NamedByCookie py scope replaced := by
  obtain ⟨-, -, -, -, config, -, -, -, -, -, hconfig, hreplaced, -⟩ := h.split
  exact ⟨config, hconfig, hreplaced⟩

/-- A sign-in leaves the sessions of other accounts alone, but for the one its cookie named. -/
theorem signIn_others {routes : SignIn} {scope : Scope}
    (hop : turn.op = .session (.signIn routes scope)) (hcap : turn.op.CappedAt keepNewest)
    (h : turn.Takes (hostStores keptOrUndone) (HostOperation.run py) s s') :
    s'.now = s.now ∨ ∃ admitted replaced rw exit,
      SignInWrites py routes scope admitted replaced turn.events rw exit ∧
      NamedByCookie py scope replaced ∧
      ∀ other, other ≠ admitted.identity.subject →
        KeptButNamed replaced (sessionsOf other s.now.sessions)
          (sessionsOf other s'.now.sessions) := by
  rw [hop] at hcap
  cases signIn_course hop h.path with
  | idle hidle => exact .inl (by rw [steps_idle hidle h.steps])
  | @written admitted replaced _ rw exit hwrites =>
    refine .inr ⟨admitted, replaced, rw, exit, hwrites, hwrites.named, fun other hother => ?_⟩
    exact (hwrites.sessions hcap h.steps).others hother

end Turns

/-! ## Whole runs -/

section Runs

variable {py : Platform} {keepNewest : ℕ} {turns : List HostTurn} {s₀ s : HostState}

/-- An account that signed in under the cap stays under it. -/
theorem held_run (hcap : ∀ turn ∈ turns, turn.op.CappedAt keepNewest)
    (hrun : Serial (hostStores keptOrUndone) (HostOperation.run py) s₀ turns s) :
    ∀ turn ∈ turns, ∀ routes scope userId replaced sessionId,
      SignsIn py turn routes scope userId replaced sessionId →
      s.now.held userId ≤ keepNewest + 1 := by
  revert hcap
  refine hrun.invariant (J := fun turns s => (∀ turn ∈ turns, turn.op.CappedAt keepNewest) →
    ∀ turn ∈ turns, ∀ routes scope userId replaced sessionId,
      SignsIn py turn routes scope userId replaced sessionId →
      s.now.held userId ≤ keepNewest + 1) (by simp) ?_
  intro turns next a b _ htakes ih hcap turn hturn routes scope userId replaced sessionId hsigns
  have hnext := hcap next (by simp)
  rcases List.mem_append.1 hturn with hearlier | hlast
  · have hbefore := ih (fun other hother => hcap other (List.mem_append_left _ hother)) turn
      hearlier routes scope userId replaced sessionId hsigns
    rcases held_turn hnext htakes userId with hle | hle
    · exact hle.trans hbefore
    · exact hle
  · obtain rfl := List.mem_singleton.1 hlast
    have hroutes : routes.options.maxSessionsPred = some keepNewest := by
      rw [hsigns.1] at hnext
      exact hnext
    exact (hsigns.sessions hroutes htakes.steps).length_le

/-- **The cap on sessions.** -/
theorem session_cap (hcap : ∀ turn ∈ turns, turn.op.CappedAt keepNewest)
    (hrun : Serial (hostStores keptOrUndone) (HostOperation.run py) s₀ turns s) :
    (∀ turn ∈ turns, ∀ routes scope userId replaced sessionId,
      SignsIn py turn routes scope userId replaced sessionId →
      s.now.held userId ≤ keepNewest + 1) ∧
    ∀ turn s', turn.Takes (hostStores keptOrUndone) (HostOperation.run py) s s' →
      turn.op.CappedAt keepNewest →
      (∀ routes scope userId replaced sessionId,
        SignsIn py turn routes scope userId replaced sessionId →
        NamedByCookie py scope replaced ∧
        NewestAndOpened keepNewest replaced sessionId (sessionsOf userId s.now.sessions)
          (sessionsOf userId s'.now.sessions)) ∧
      (∀ routes scope, turn.op = .session (.signIn routes scope) →
        s'.now = s.now ∨ ∃ admitted replaced rw exit,
          SignInWrites py routes scope admitted replaced turn.events rw exit ∧
          NamedByCookie py scope replaced ∧
          ∀ other, other ≠ admitted.identity.subject →
            KeptButNamed replaced (sessionsOf other s.now.sessions)
              (sessionsOf other s'.now.sessions)) := by
  refine ⟨held_run hcap hrun, fun turn s' htakes hnext => ⟨?_, ?_⟩⟩
  · intro routes scope userId replaced sessionId hsigns
    have hroutes : routes.options.maxSessionsPred = some keepNewest := by
      rw [hsigns.1] at hnext
      exact hnext
    obtain ⟨-, admitted, -, hwrites⟩ := id hsigns
    exact ⟨hwrites.named, hsigns.sessions hroutes htakes.steps⟩
  · intro routes scope hop
    exact signIn_others hop hnext htakes

end Runs

/-- A sign-in of a host with one session. -/
def signInTurn : HostTurn :=
  playedTurn signInPlatform signInScript signInOperation ⟨oneSession, oneSession⟩

theorem session_cap_of_sign_in : ∃ userId replaced sessionId s',
    Serial (hostStores keptOrUndone) (HostOperation.run signInPlatform) ⟨oneSession, oneSession⟩
      [signInTurn] s' ∧
    s'.now.held userId ≤ 1 ∧ NamedByCookie signInPlatform callbackScope replaced ∧
    NewestAndOpened 0 replaced sessionId (sessionsOf userId oneSession.sessions)
      (sessionsOf userId s'.now.sessions) := by
  obtain ⟨turn, hturn⟩ : ∃ turn, turn = signInTurn := ⟨_, rfl⟩
  have hop : turn.op = .session (.signIn cappedRoutes callbackScope) := by
    rw [hturn]
    rfl
  have hopens : turn.events.any opensEntry = true := by
    rw [hturn]
    decide +kernel
  have hexits : turn.events.all exitsCleanly = true := by
    rw [hturn]
    decide +kernel
  obtain ⟨s', htakes⟩ : ∃ s', turn.Takes (hostStores keptOrUndone)
      (HostOperation.run signInPlatform) ⟨oneSession, oneSession⟩ s' := by
    rw [hturn]
    exact ⟨_, playedTurn_takes (fun _ _ => .inl rfl) _ _ _ _⟩
  have hrun := Serial.start.next htakes
  obtain ⟨admitted, replaced, sessionId, hwrites⟩ :=
    (signIn_course hop htakes.path).completed hopens hexits
  have hsigns : SignsIn signInPlatform turn cappedRoutes callbackScope
      admitted.identity.subject replaced sessionId := ⟨hop, admitted, rfl, hwrites⟩
  have hcapped : turn.op.CappedAt 0 := by
    rw [hop]
    rfl
  obtain ⟨hheld, -⟩ := session_cap (by simpa using hcapped) hrun
  have hnone : ∀ turn ∈ ([] : List HostTurn), turn.op.CappedAt 0 := by simp
  obtain ⟨-, hnext⟩ := session_cap hnone Serial.start
  obtain ⟨hopened, -⟩ := hnext _ s' htakes hcapped
  obtain ⟨hnamed, hnewest⟩ := hopened _ _ _ _ _ hsigns
  rw [← hturn]
  exact ⟨_, replaced, sessionId, s', hrun, hheld _ (by simp) _ _ _ _ _ hsigns, hnamed, hnewest⟩

end WebAuth
