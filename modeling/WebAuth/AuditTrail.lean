import WebAuth.AccountWrites

/-!
# The audit trail and the accounts

Read from the beginning, the events of a subject tell its account: the first creates it, every other
changes the role stored before it, and what the last one says is the role stored now. Each operation
of a host that completes its entries or rolls them back keeps this, whatever the order they run in.
-/

namespace WebAuth

open Python Effects Program

/-! ## The trail of a subject -/

/-- `USER_CREATED` and `ROLE_CHANGED`. -/
def AccountEvent.changesAccount (event : AccountEvent) : Bool := event.kind ≠ .backchannelLogout

/-- The events that created a subject's account or changed its role. -/
def trailOf (subject : Str) (events : List AccountEvent) : List AccountEvent :=
  (events.filter AccountEvent.changesAccount).filter fun event => event.subjectId = subject

/-- The role stored once the events of a trail happened. -/
def replay (trail : List AccountEvent) : Option Str :=
  trail.foldl (fun stored event =>
    match event.kind with
    | .userCreated => event.role
    | .roleChanged => event.role
    | .backchannelLogout => stored) none

/-- A trail tells of an account with a role, or of none. -/
structure Replays (role : Option Str) (trail : List AccountEvent) : Prop where
  stored : replay trail = role
  account : role.isSome = true ↔ trail.countP (fun event => event.kind = .userCreated) = 1
  first : ∀ created rest, trail = created :: rest → created.kind = .userCreated ∧
    ∀ event ∈ rest, event.kind = .roleChanged
  previous : ∀ earlier event later, trail = earlier ++ event :: later →
    event.kind = .roleChanged → ∃ before after, replay earlier = some before ∧
      event.previousRole = some before ∧ event.role = some after ∧ before ≠ after

section Trail

variable {subject role before after : Str} {trail : List AccountEvent}

theorem replay_concat (event : AccountEvent) (h : event.kind ≠ .backchannelLogout) :
    replay (trail ++ [event]) = event.role := by
  unfold replay
  rw [List.foldl_append, List.foldl_cons, List.foldl_nil]
  cases hkind : event.kind with
  | userCreated => rfl
  | roleChanged => rfl
  | backchannelLogout => exact absurd hkind h

theorem replays_nil : Replays none [] where
  stored := rfl
  account := by simp
  first := by rintro _ _ ⟨⟩
  previous := by simp

/-- A creation starts a trail. -/
theorem replays_created : Replays (some role) (admissionEvents subject role none) where
  stored := rfl
  account := by simp [admissionEvents]
  first := by
    rintro created rest heq
    obtain ⟨rfl, rfl⟩ := List.cons.inj heq
    exact ⟨rfl, by simp⟩
  previous := by
    intro earlier event later heq hkind
    have hmem : event ∈ admissionEvents subject role none := by
      rw [heq]
      simp
    obtain rfl := List.mem_singleton.1 hmem
    cases hkind

theorem Replays.eq_nil (h : Replays none trail) : trail = [] := by
  cases trail with
  | nil => rfl
  | cons created rest =>
    obtain ⟨hcreated, hrest⟩ := h.first created rest rfl
    have hcount : rest.countP (fun event => event.kind = .userCreated) = 0 := by
      refine List.countP_eq_zero.2 fun event hevent => ?_
      simp [hrest event hevent]
    have hone := h.account.2 (by simp [hcreated, hcount])
    cases hone

/-- A change goes on with it. -/
theorem Replays.changed (h : Replays (some before) trail) (hne : before ≠ after)
    {event : AccountEvent} (hkind : event.kind = .roleChanged) (hrole : event.role = some after)
    (hprevious : event.previousRole = some before) : Replays (some after) (trail ++ [event]) where
  stored := by rw [replay_concat event (by simp [hkind]), hrole]
  account := by
    rw [List.countP_append, h.account.1 rfl]
    simp [hkind]
  first := by
    intro created rest heq
    cases trail with
    | nil => cases h.stored
    | cons head tail =>
      obtain ⟨rfl, rfl⟩ := List.cons.inj heq
      obtain ⟨hcreated, hrest⟩ := h.first head tail rfl
      refine ⟨hcreated, fun other hother => ?_⟩
      rcases List.mem_append.1 hother with hin | hlast
      · exact hrest other hin
      · rw [List.mem_singleton.1 hlast, hkind]
  previous := by
    intro earlier other later heq hother
    rcases List.eq_nil_or_concat later with rfl | ⟨later', last, rfl⟩
    · obtain ⟨rfl, hlast⟩ := List.append_inj' heq rfl
      obtain rfl := List.singleton_injective hlast
      exact ⟨before, after, h.stored, hprevious, hrole, hne⟩
    · rw [List.concat_eq_append, ← List.cons_append, ← List.append_assoc] at heq
      obtain ⟨htrail, -⟩ := List.append_inj' heq rfl
      exact h.previous earlier other later' htrail hother

end Trail

/-! ## The accounts -/

/-- The trail of every subject tells of its account. -/
def TrailsReplay (s : Stores) : Prop :=
  ∀ subject, Replays ((s.accounts subject).map (·.role)) (trailOf subject s.events)

/-- The same accounts, and no event that creates or changes one. -/
def SameTrail (s s' : Stores) : Prop :=
  s'.accounts = s.accounts ∧
    s'.events.filter AccountEvent.changesAccount = s.events.filter AccountEvent.changesAccount

section Accounts

variable {py : Platform} {claimant : Claimant} {role : Str} {s s' : Stores}

theorem SameTrail.refl (s : Stores) : SameTrail s s := ⟨rfl, rfl⟩

theorem SameTrail.trans {s₁ s₂ s₃ : Stores} (h₁ : SameTrail s₁ s₂) (h₂ : SameTrail s₂ s₃) :
    SameTrail s₁ s₃ :=
  ⟨h₂.1.trans h₁.1, h₂.2.trans h₁.2⟩

theorem SameAccounts.sameTrail (h : SameAccounts s s') : SameTrail s s' := ⟨h.1, by rw [h.2]⟩

theorem SameTrail.replays (h : SameTrail s s') (hs : TrailsReplay s) : TrailsReplay s' := by
  intro subject
  rw [trailOf, h.1, h.2]
  exact hs subject

theorem trailOf_append (subject : Str) (events added : List AccountEvent) :
    trailOf subject (events ++ added) = trailOf subject events ++ trailOf subject added := by
  unfold trailOf
  rw [List.filter_append, List.filter_append]

theorem trailOf_admissionEvents (subject : Str) (known : Option UserRecord) :
    trailOf subject (admissionEvents claimant.subject role known) =
      if claimant.subject = subject then admissionEvents claimant.subject role known else [] := by
  cases known with
  | none => by_cases h : claimant.subject = subject <;>
      simp [trailOf, admissionEvents, AccountEvent.changesAccount, h]
  | some known => by_cases hrole : known.role = role <;> by_cases h : claimant.subject = subject <;>
      simp [trailOf, admissionEvents, AccountEvent.changesAccount, h, hrole]

/-- **An admission keeps the trails true.** -/
theorem AdmitsAccount.replays (h : AdmitsAccount py claimant role s s') (hs : TrailsReplay s) :
    TrailsReplay s' := by
  intro subject
  rw [h.events, trailOf_append, trailOf_admissionEvents]
  by_cases hsubject : claimant.subject = subject
  · subst hsubject
    have hknown := hs claimant.subject
    rw [h.accounts, Function.update_self, if_pos rfl]
    cases haccount : s.accounts claimant.subject with
    | none =>
      rw [haccount] at hknown
      rw [hknown.eq_nil, List.nil_append]
      exact replays_created
    | some known =>
      rw [haccount] at hknown
      by_cases hrole : known.role = role
      · have hnone : admissionEvents claimant.subject role (some known) = [] := if_pos hrole
        rw [hnone, List.append_nil]
        rw [Option.map_some, hrole] at hknown
        exact hknown
      · rw [admissionEvents, if_neg hrole]
        exact Replays.changed hknown hrole rfl rfl rfl
  · rw [h.accounts, Function.update_of_ne (Ne.symm hsubject), if_neg hsubject, List.append_nil]
    exact hs subject

end Accounts

/-! ## One operation -/

/-- A host whose entries complete, or roll back accounts and events together. An entry whose exit
raised may have done either. -/
def accountsTogether (returned : Bool) (before made after : Stores) : Prop :=
  SameAccounts before after ∨ (returned = true ∧ SameAccounts made after)

/-- A completed admission, with the claimant, the groups presented and the rules applied: a sign-in
whose writes returned and whose entry exited cleanly, or a person's token that was admitted. -/
inductive Completes (py : Platform) (turn : HostTurn) :
    Claimant → List Str → AdmissionConfig → Prop
  | signIn {routes : SignIn} {scope : Scope} {admitted : AdmittedLogin} {replaced : Option Str}
      {sessionId : Str} (hop : turn.op = .session (.signIn routes scope))
      (writes : SignInWrites py routes scope admitted replaced turn.events (.ok sessionId)
        (.ok ())) :
      Completes py turn admitted.identity.claimant admitted.identity.groups routes.admission
  | personToken {verified : VerifiedAccessToken} {admission : AdmissionConfig}
      {user : AuthenticatedUser} (hop : turn.op = .tokenHolder verified admission)
      (outcome : turn.outcome = .ok (.tokenHolder (.ok user))) :
      Completes py turn verified.claimant verified.groups admission

/-- A refused identity: the host's hook answers a sign-in, or the holder of a token is refused. -/
inductive RefusesIdentity (turn : HostTurn) : Prop
  | signIn {routes : SignIn} {scope : Scope} (hop : turn.op = .session (.signIn routes scope))
      (hook : ∃ e ∈ turn.events, e.call.Refuses) : RefusesIdentity turn
  | personToken {verified : VerifiedAccessToken} {admission : AdmissionConfig}
      {cause : AdmissionRefusal} (hop : turn.op = .tokenHolder verified admission)
      (outcome : turn.outcome = .ok (.tokenHolder (.error cause))) : RefusesIdentity turn

section Turns

variable {py : Platform} {turn : HostTurn} {s s' : HostState}

/-- A call that adds nothing leaves every trail alone. -/
theorem sameTrail_call {a b : Stores} {c : HostCall} {ans : Except Exn c.Answer}
    (hc : c.AddsNothing) (h : storeCalls a c ans b) : SameTrail a b := by
  have hsame : b = a → SameTrail a b := fun heq => heq ▸ .refl a
  cases ans with
  | error e => exact hsame (storeCalls_error h)
  | ok answer =>
    cases c with
    | load => exact hsame h.1
    | touch =>
      obtain ⟨-, rfl⟩ := h
      exact .refl _
    | replaceRefreshToken =>
      obtain ⟨-, rfl⟩ := h
      exact .refl _
    | delete =>
      obtain rfl : b = _ := h
      exact .refl _
    | deleteForUser =>
      obtain ⟨-, rfl⟩ := h
      exact .refl _
    | pruneOverflow =>
      obtain ⟨_, rfl, -⟩ := h
      exact .refl _
    | getAccount => exact hsame h.1
    | accountEvent event =>
      obtain rfl : b = _ := h
      have hkind : event.kind = .backchannelLogout := hc
      refine ⟨rfl, ?_⟩
      simp [Stores.audited, AccountEvent.changesAccount, hkind]
    | enter => exact hc.elim
    | leave => exact hc.elim
    | create => exact hc.elim
    | createForSubject => exact hc.elim
    | setRole => exact hc.elim
    | _ => exact hsame h

/-- Renewals, logouts and the holders of a resource's tokens leave every trail alone. -/
theorem sameTrail_turn (hadds : turn.op.AddsNothing)
    (h : turn.Takes (hostStores accountsTogether) (HostOperation.run py) s s') :
    SameTrail s.now s'.now := by
  refine minor_keeps (T := SameTrail) SameTrail.refl SameTrail.trans
    (fun _ _ _ _ => sameTrail_call) ?_ (run_minor py hadds _ _ h.path) h.steps
  rintro returned a made b hmade (hundone | ⟨-, hkept⟩)
  · exact hundone.sameTrail
  · exact hmade.trans hkept.sameTrail

/-- What an admission's entry leaves on such a host. -/
theorem admits_or_same {α : Type} {claimant : Claimant} {role : Str} {a made b : Stores}
    {r : Except Exn α} {exit : Except Exn Unit}
    (hmade : returned r = true → AdmitsAccount py claimant role a made)
    (hexit : if returned r = true ∧ exit = .ok () then b = made
      else accountsTogether (returned r) a made b) :
    (returned r = true ∧ AdmitsAccount py claimant role a b) ∨
      (SameTrail a b ∧ ¬(returned r = true ∧ exit = .ok ())) := by
  split at hexit
  · rename_i hclean
    exact .inl ⟨hclean.1, hexit ▸ hmade hclean.1⟩
  · rename_i hunclean
    rcases hexit with hundone | ⟨hreturned, haccounts, hevents⟩
    · exact .inr ⟨hundone.sameTrail, hunclean⟩
    · obtain ⟨hwritten, hlogged⟩ := hmade hreturned
      exact .inl ⟨hreturned, haccounts.trans hwritten, hevents.trans hlogged⟩

/-- What a sign-in that writes leaves. -/
theorem SignInWrites.admits {routes : SignIn} {scope : Scope} {es : List HostEvent}
    {admitted : AdmittedLogin} {replaced : Option Str} {rw : Except Exn Str}
    {exit : Except Exn Unit} (h : SignInWrites py routes scope admitted replaced es rw exit)
    (hsteps : Steps (hostStores accountsTogether) s es s') :
    (returned rw = true ∧
        AdmitsAccount py admitted.identity.claimant admitted.role s.now s'.now) ∨
      (SameTrail s.now s'.now ∧ ¬(returned rw = true ∧ exit = .ok ())) := by
  obtain ⟨config, inner, made, hpath, hmade, hexit⟩ := h.effect hsteps
  refine admits_or_same (fun hreturned => ?_) hexit
  cases rw with
  | error e => cases hreturned
  | ok sessionId => exact writeSignIn_accounts hpath hmade

theorem SignInWrites.role {routes : SignIn} {scope : Scope} {es : List HostEvent}
    {admitted : AdmittedLogin} {replaced : Option Str} {rw : Except Exn Str}
    {exit : Except Exn Unit} (h : SignInWrites py routes scope admitted replaced es rw exit) :
    ∃ role, appRole admitted.identity.groups routes.admission = some role ∧
      admitted.role = role.value := by
  obtain ⟨-, -, -, -, -, -, -, -, -, hdecided, -⟩ := h.split
  obtain ⟨-, hrole⟩ := decideAdmission_identity hdecided
  obtain ⟨role, hderived, hvalue⟩ := Option.map_eq_some_iff.1 hrole
  exact ⟨role, hderived, hvalue.symm⟩

/-- What the admission of a token's holder leaves. -/
theorem tokenHolder_admits {verified : VerifiedAccessToken} {admission : AdmissionConfig}
    (hop : turn.op = .tokenHolder verified admission)
    (h : turn.Takes (hostStores accountsTogether) (HostOperation.run py) s s') :
    (∃ role, appRole verified.groups admission = some role ∧
        AdmitsAccount py verified.claimant role.value s.now s'.now ∧
        ∀ cause, turn.outcome ≠ .ok (.tokenHolder (.error cause))) ∨
      (SameTrail s.now s'.now ∧ ∀ user, turn.outcome ≠ .ok (.tokenHolder (.ok user))) := by
  rcases tokenHolder_path hop h.path with ⟨-, hnone, houtcome⟩ | ⟨role, rw, hrole, hwithin, houtcome⟩
  · have hsteps := h.steps
    rw [hnone] at hsteps
    obtain rfl := steps_nil.1 hsteps
    refine .inr ⟨.refl _, fun user heq => ?_⟩
    rw [houtcome] at heq
    cases heq
  rcases within_path hwithin with ⟨e, hes, rfl⟩ | ⟨rb, exit, hentry, rfl⟩
  · have hidle : ∀ e' ∈ turn.events, Idle e' := by
      intro e' he'
      rw [hes] at he'
      exact .inr ⟨_, e, List.mem_singleton.1 he'⟩
    rw [steps_idle hidle h.steps]
    refine .inr ⟨.refl _, fun user heq => ?_⟩
    rw [houtcome] at heq
    cases e <;> cases heq
  have hinside : Only HostCall.Inside (tokenHolderOf py verified role.value) :=
    Only.bind (admitAccount_inside _ _ _) fun _ => trivial
  obtain ⟨inner, made, hinner, hmade, hexit⟩ := hentry.effect hinside h.steps
  have hadmits : returned rb = true → AdmitsAccount py verified.claimant role.value s.now made := by
    intro hreturned
    cases rb with
    | error e => cases hreturned
    | ok user =>
      obtain ⟨admitting, none, account, rfl, hadmit, hnone⟩ := path_bind_ok hinner
      obtain ⟨rfl, -⟩ := hnone
      rw [List.append_nil] at hmade
      exact (admitAccount_steps hadmit hmade).1
  rcases admits_or_same hadmits hexit with ⟨hreturned, hadmitted⟩ | ⟨hsame, hunclean⟩
  · refine .inl ⟨role, hrole, hadmitted, fun cause heq => ?_⟩
    rw [houtcome] at heq
    cases rb with
    | error e => cases hreturned
    | ok user =>
      rcases exit with e | _
      · -- an exit raises no signal of the library's own
        have hpublic := hentry.exit_public h.steps rfl
        cases e <;> first | (cases hpublic; done) | cases heq
      · cases heq
  · refine .inr ⟨hsame, fun user heq => hunclean ?_⟩
    rw [houtcome] at heq
    rcases exit with e | _
    · cases e <;> cases heq
    · rcases rb with e | user
      · cases e <;> cases heq
      · exact ⟨rfl, rfl⟩

/-- **An operation admits one account, or leaves every trail alone.** -/
theorem admits_or_same_turn
    (h : turn.Takes (hostStores accountsTogether) (HostOperation.run py) s s') :
    SameTrail s.now s'.now ∨ ∃ claimant role, AdmitsAccount py claimant role s.now s'.now := by
  match hop : turn.op with
  | .session (.signIn routes scope) =>
    cases signIn_course hop h.path with
    | idle hidle =>
      rw [steps_idle hidle h.steps]
      exact .inl (.refl _)
    | written hwrites =>
      rcases hwrites.admits h.steps with ⟨-, hadmits⟩ | ⟨hsame, -⟩
      · exact .inr ⟨_, _, hadmits⟩
      · exact .inl hsame
  | .tokenHolder verified admission =>
    rcases tokenHolder_admits hop h with ⟨role, -, hadmits, -⟩ | ⟨hsame, -⟩
    · exact .inr ⟨_, _, hadmits⟩
    · exact .inl hsame
  | .session (.admission _ _) | .session (.accessToken _ _ _) | .session (.groups _ _ _)
  | .session (.logout _) | .session (.backchannelLogout _) | .resourceHolder _ _ _ =>
    exact .inl (sameTrail_turn (by rw [hop]; trivial) h)

/-- A completed admission stores the role its groups derive. -/
theorem Completes.admits {claimant : Claimant} {groups : List Str} {admission : AdmissionConfig}
    (hcompletes : Completes py turn claimant groups admission)
    (h : turn.Takes (hostStores accountsTogether) (HostOperation.run py) s s') :
    ∃ role, appRole groups admission = some role ∧
      AdmitsAccount py claimant role.value s.now s'.now := by
  cases hcompletes with
  | signIn hop hwrites =>
    obtain ⟨role, hrole, hvalue⟩ := hwrites.role
    rcases hwrites.admits h.steps with ⟨-, hadmits⟩ | ⟨-, hunclean⟩
    · exact ⟨role, hrole, hvalue ▸ hadmits⟩
    · exact absurd ⟨rfl, rfl⟩ hunclean
  | @personToken _ _ user hop houtcome =>
    rcases tokenHolder_admits hop h with ⟨role, hrole, hadmits, -⟩ | ⟨-, hrefused⟩
    · exact ⟨role, hrole, hadmits⟩
    · exact absurd houtcome (hrefused user)

/-- A refused identity leaves every trail alone. -/
theorem RefusesIdentity.sameTrail (hrefuses : RefusesIdentity turn)
    (h : turn.Takes (hostStores accountsTogether) (HostOperation.run py) s s') :
    SameTrail s.now s'.now := by
  cases hrefuses with
  | signIn hop hook =>
    cases signIn_course hop h.path with
    | idle hidle =>
      rw [steps_idle hidle h.steps]
      exact .refl _
    | written hwrites =>
      rcases hwrites.admits h.steps with ⟨hreturned, -⟩ | ⟨hsame, -⟩
      · rw [hwrites.raised_of_refused h.steps hook] at hreturned
        cases hreturned
      · exact hsame
  | @personToken _ _ cause hop houtcome =>
    rcases tokenHolder_admits hop h with ⟨role, -, -, hadmitted⟩ | ⟨hsame, -⟩
    · exact absurd houtcome (hadmitted cause)
    · exact hsame

end Turns

/-! ## Whole runs -/

/-- The turn of a run that created a subject's account, with the username its claimant had. -/
def CreatedBy (py : Platform) (s₀ : HostState) (turns : List HostTurn) (subject username : Str) :
    Prop :=
  ∃ earlier turn later a b claimant role, turns = earlier ++ turn :: later ∧
    Serial (hostStores accountsTogether) (HostOperation.run py) s₀ earlier a ∧
    turn.Takes (hostStores accountsTogether) (HostOperation.run py) a b ∧
    a.now.accounts subject = none ∧ claimant.subject = subject ∧
    AdmitsAccount py claimant role a.now b.now ∧ username = usernameFor py claimant

section Runs

variable {py : Platform} {turns : List HostTurn} {s₀ s s' : HostState} {subject username : Str}

theorem CreatedBy.append (h : CreatedBy py s₀ turns subject username) (turn : HostTurn) :
    CreatedBy py s₀ (turns ++ [turn]) subject username := by
  obtain ⟨earlier, creating, later, a, b, claimant, role, rfl, hrest⟩ := h
  exact ⟨earlier, creating, later ++ [turn], a, b, claimant, role, by simp, hrest⟩

/-- **The trails are true after every run**, from no accounts and no events on. -/
theorem trails_run (hnone : ∀ subject, s₀.now.accounts subject = none) (hevents : s₀.now.events = [])
    (hrun : Serial (hostStores accountsTogether) (HostOperation.run py) s₀ turns s) :
    TrailsReplay s.now := by
  refine hrun.invariant (J := fun _ s => TrailsReplay s.now) ?_ ?_
  · intro subject
    rw [hnone, hevents]
    exact replays_nil
  · intro turns turn a b _ htakes ih
    rcases admits_or_same_turn htakes with hsame | ⟨claimant, role, hadmits⟩
    · exact hsame.replays ih
    · exact hadmits.replays ih

/-- Every account has the username it was created with. -/
theorem created_run (hnone : ∀ subject, s₀.now.accounts subject = none)
    (hrun : Serial (hostStores accountsTogether) (HostOperation.run py) s₀ turns s) :
    ∀ subject account, s.now.accounts subject = some account →
      CreatedBy py s₀ turns subject account.username := by
  refine hrun.invariant (J := fun turns s => ∀ subject account,
    s.now.accounts subject = some account → CreatedBy py s₀ turns subject account.username) ?_ ?_
  · intro subject account haccount
    rw [hnone] at haccount
    cases haccount
  · intro turns turn a b hbefore htakes ih subject account haccount
    rcases admits_or_same_turn htakes with ⟨hsame, -⟩ | ⟨claimant, role, hadmits⟩
    · rw [hsame] at haccount
      exact (ih subject account haccount).append turn
    · rw [hadmits.accounts] at haccount
      by_cases hsubject : subject = claimant.subject
      · subst hsubject
        rw [Function.update_self] at haccount
        obtain rfl := Option.some.inj haccount
        cases hknown : a.now.accounts claimant.subject with
        | none =>
          exact ⟨turns, turn, [], a, b, claimant, role, rfl, hbefore, htakes, hknown, rfl, hadmits,
            rfl⟩
        | some known => exact (ih _ known hknown).append turn
      · rw [Function.update_of_ne hsubject] at haccount
        exact (ih subject account haccount).append turn

/-- **The audit trail replays to the accounts.** -/
theorem trail_replays (hnone : ∀ subject, s₀.now.accounts subject = none)
    (hevents : s₀.now.events = [])
    (hrun : Serial (hostStores accountsTogether) (HostOperation.run py) s₀ turns s) :
    (∀ subject, Replays ((s.now.accounts subject).map (·.role)) (trailOf subject s.now.events)) ∧
    (∀ subject account, s.now.accounts subject = some account →
      CreatedBy py s₀ turns subject account.username) ∧
    ∀ turn s', turn.Takes (hostStores accountsTogether) (HostOperation.run py) s s' →
      (∀ claimant groups admission, Completes py turn claimant groups admission →
        ∃ role, appRole groups admission = some role ∧
          AdmitsAccount py claimant role.value s.now s'.now) ∧
      (turn.op.AddsNothing ∨ RefusesIdentity turn → SameTrail s.now s'.now) := by
  refine ⟨trails_run hnone hevents hrun, created_run hnone hrun, fun turn s' htakes => ⟨?_, ?_⟩⟩
  · intro claimant groups admission hcompletes
    exact hcompletes.admits htakes
  · rintro (hadds | hrefuses)
    · exact sameTrail_turn hadds htakes
    · exact hrefuses.sameTrail htakes

end Runs

/-! ## A run -/

/-- A host without accounts. -/
def emptyStores : Stores where
  accounts := fun _ => none
  sessions := []
  events := []
  accounts_id := by simp
  sessions_nodup := by simp

/-- Everyone of the issuer may enter, the members of `/admins` as admins. -/
def adminsAdmission : AdmissionConfig where
  boundIssuer := str "https://issuer"
  loginGroup := none
  adminGroup := some (str "/admins")
  login_isGroupPath := none_isGroupPath
  admin_isGroupPath := by
    intro group h
    obtain rfl := Option.some.inj h
    unfold IsGroupPath
    decide
  admin_below := by
    intro login admin h
    cases h

/-- The admission of a token's holder with some groups. -/
def holderOperation (groups : List Str) : HostOperation :=
  .tokenHolder ⟨str "u", groups, none⟩ adminsAdmission

/-- A holder of no groups on a host without accounts. -/
def holderTurn : HostTurn :=
  playedTurn signInPlatform signInScript (holderOperation []) ⟨emptyStores, emptyStores⟩

/-- What the host has then. -/
def holderState : HostState :=
  playedState signInPlatform signInScript (holderOperation []) ⟨emptyStores, emptyStores⟩

/-- The same holder, who is an admin by now. -/
def promotedTurn : HostTurn :=
  playedTurn signInPlatform signInScript (holderOperation [str "/admins"]) holderState

/-- What the host has in the end. -/
def promotedState : HostState :=
  playedState signInPlatform signInScript (holderOperation [str "/admins"]) holderState

/-- Whether a token's holder was admitted. -/
def admitsHolder : HostAnswer → Bool
  | .tokenHolder (.ok _) => true
  | _ => false

theorem admitsHolder_eq {answer : Except Exn HostAnswer}
    (h : answer.toOption.any admitsHolder = true) :
    ∃ user, answer = .ok (.tokenHolder (.ok user)) := by
  rcases answer with e | _ | ⟨cause | user⟩ | _
  · cases h
  · cases h
  · cases h
  · exact ⟨user, rfl⟩
  · cases h

theorem trail_replays_of_promotion :
    Serial (hostStores accountsTogether) (HostOperation.run signInPlatform)
      ⟨emptyStores, emptyStores⟩ [holderTurn, promotedTurn] promotedState ∧
    (trailOf (str "u") promotedState.now.events).map (·.kind) = [.userCreated, .roleChanged] ∧
    Replays (some (str "admin")) (trailOf (str "u") promotedState.now.events) ∧
    AdmitsAccount signInPlatform ⟨str "u", none⟩ (str "admin") holderState.now
      promotedState.now := by
  have hstart : Serial (hostStores accountsTogether) (HostOperation.run signInPlatform)
      ⟨emptyStores, emptyStores⟩ [] ⟨emptyStores, emptyStores⟩ := .start
  have htakes : holderTurn.Takes (hostStores accountsTogether) (HostOperation.run signInPlatform)
      ⟨emptyStores, emptyStores⟩ holderState :=
    playedTurn_takes (fun _ _ => .inl ⟨rfl, rfl⟩) _ _ _ _
  have htakes' : promotedTurn.Takes (hostStores accountsTogether)
      (HostOperation.run signInPlatform) holderState promotedState :=
    playedTurn_takes (fun _ _ => .inl ⟨rfl, rfl⟩) _ _ _ _
  have hrun := hstart.next htakes
  obtain ⟨user, houtcome⟩ : ∃ user, promotedTurn.outcome = .ok (.tokenHolder (.ok user)) :=
    admitsHolder_eq (by decide +kernel)
  obtain ⟨-, -, hnext⟩ := trail_replays (by intro; rfl) (by rfl) hrun
  obtain ⟨hcompleted, -⟩ := hnext promotedTurn promotedState htakes'
  obtain ⟨role, hrole, hadmits⟩ := hcompleted _ _ _ (.personToken rfl houtcome)
  obtain rfl : role = .admin := by
    have hderived : appRole [str "/admins"] adminsAdmission = some .admin := by decide
    exact Option.some.inj (hrole.symm.trans hderived)
  have hruns := hrun.next htakes'
  obtain ⟨htrails, -, -⟩ := trail_replays (by intro; rfl) (by rfl) hruns
  have hstored : (promotedState.now.accounts (str "u")).map (·.role) = some (str "admin") := by
    decide +kernel
  refine ⟨hruns, by decide +kernel, ?_, hadmits⟩
  rw [← hstored]
  exact htrails (str "u")

end WebAuth
