import WebAuth.BackchannelLogout
import WebAuth.Effects.Pieces
import WebAuth.SessionLifetimeRuns

/-!
# The operations of a host

A host serves sign-ins, logouts, readers of a session, and holders of tokens, over the same stores.
All but two of them open no session and leave the accounts alone: their calls come in minor pieces.
A sign-in and the admission of a token's holder write in one entry, with calls that reach no store
around it.
-/

namespace WebAuth

open Python Effects Program

/-! ## The operations -/

/-- An operation of a host. -/
inductive HostOperation where
  | session (op : SessionOperation)
  | tokenHolder (verified : VerifiedAccessToken) (admission : AdmissionConfig)
  | resourceHolder (verified : VerifiedAccessToken) (requiredGroup : Str)
      (admission : AdmissionConfig)

/-- What it answers. -/
inductive HostAnswer where
  | session (answer : OperationAnswer)
  | tokenHolder (holder : Except AdmissionRefusal AuthenticatedUser)
  | resourceHolder (holder : Option AuthenticatedUser)

/-- The program of an operation. -/
def HostOperation.run (py : Platform) : HostOperation → Task HostAnswer
  | session op => HostAnswer.session <$> op.run py
  | tokenHolder verified admission =>
    HostAnswer.tokenHolder <$> admitTokenHolder py verified admission
  | resourceHolder verified requiredGroup admission =>
    HostAnswer.resourceHolder <$> admitResourceHolder verified requiredGroup admission

/-- One operation, run as a whole. -/
abbrev HostTurn := Turn HostOperation hostCalls Exn HostAnswer

/-! ## Minor pieces -/

/-- The calls that open no session and neither create nor change an account. -/
def HostCall.AddsNothing : HostCall → Prop
  | enter _ => False
  | leave _ _ => False
  | create _ _ _ _ _ => False
  | createForSubject _ _ _ => False
  | setRole _ _ => False
  | accountEvent event => event.kind = .backchannelLogout
  | _ => True

/-- A piece of a run that adds nothing: one call, an entry that does not open, or an entry. -/
inductive Minor : List HostEvent → Prop
  | call {e : HostEvent} (h : e.call.AddsNothing) : Minor [e]
  | unopened (transaction : Transaction) (x : Exn) : Minor [⟨.enter transaction, .error x⟩]
  | entry {α : Type} {transaction : Transaction} {block : Task α} {es : List HostEvent}
      {r : Except Exn α} {exit : Except Exn Unit} (hblock : Only HostCall.AddsNothing block)
      (h : Entry transaction block es r exit) : Minor es

theorem HostCall.AddsNothing.inside {c : HostCall} (h : c.AddsNothing) : c.Inside := by
  cases c <;> first | exact h.elim | trivial

theorem HostCall.AsksIssuer.addsNothing {c : HostCall} (h : c.AsksIssuer) : c.AddsNothing := by
  cases c <;> first | exact h.elim | trivial

theorem HostCall.AsksIssuer.quiet {c : HostCall} (h : c.AsksIssuer) : c.Quiet := by
  cases c <;> first | exact h.elim | trivial

theorem HostCall.Quiet.addsNothing {c : HostCall} (h : c.Quiet) : c.AddsNothing := by
  cases c <;> first | exact h.elim | trivial

section Minor

variable {α : Type} {p : Task α}

theorem comesIn_addsNothing (h : Only HostCall.AddsNothing p) : ComesIn Minor p :=
  h.comesIn fun _ he => .call he

theorem invoke_minor {c : HostCall} (h : c.AddsNothing) : ComesIn Minor (invoke c) :=
  comesIn_addsNothing (only_invoke h)

theorem comesIn_within {transaction : Transaction} (h : Only HostCall.AddsNothing p) :
    ComesIn Minor (within transaction p) := by
  intro es r hpath
  rcases within_path hpath with ⟨e, rfl, -⟩ | ⟨rb, exit, hentry, -⟩
  · exact .single (.unopened transaction e)
  · exact .single (.entry h hentry)

end Minor

/-- **What minor pieces keep**: what every call that adds nothing keeps, an entry keeps when the
host's decision on a failed one does. -/
theorem minor_keeps {undone : Bool → Stores → Stores → Stores → Prop} {T : Stores → Stores → Prop}
    (hrefl : ∀ a, T a a) (htrans : ∀ {a b c}, T a b → T b c → T a c)
    (hcall : ∀ a b (c : HostCall) ans, c.AddsNothing → storeCalls a c ans b → T a b)
    (hundone : ∀ returned a made b, T a made → undone returned a made b → T a b)
    {es : List HostEvent} {s s' : HostState} (h : Pieces Minor es)
    (hsteps : Steps (hostStores undone) s es s') : T s.now s'.now := by
  refine h.keeps (R := fun a b => T a.now b.now) (fun _ => hrefl _) htrans ?_ hsteps
  intro piece a b hpiece hes
  cases hpiece with
  | call hadds =>
    exact hcall _ _ _ _ hadds ((hostStores_inside hadds.inside).1 (steps_singleton.1 hes)).2
  | unopened transaction x =>
    have hidle : ∀ e ∈ [(⟨.enter transaction, .error x⟩ : HostEvent)], Idle e := by
      intro e he
      exact .inr ⟨transaction, x, List.mem_singleton.1 he⟩
    exact steps_idle hidle hes ▸ hrefl _
  | entry hblock hentry =>
    obtain ⟨inner, made, hpath, hmade, hexit⟩ :=
      hentry.effect (hblock.mono fun _ => HostCall.AddsNothing.inside) hes
    have hT : T a.now made := hmade.keeps (P := fun e => HostCall.AddsNothing e.call) hrefl htrans
      (fun _ e _ hadds hstep => hcall _ _ e.call e.answer hadds hstep) (hblock.path hpath)
    split at hexit
    · exact hexit ▸ hT
    · exact hundone _ _ _ _ hT hexit

theorem admitAccount_inside (py : Platform) (claimant : Claimant) (role : Str) :
    Only HostCall.Inside (admitAccount py claimant role) :=
  (admitAccount_only py claimant role).mono fun c hc => by
    cases c <;> first | exact hc.elim | trivial

/-! ## What asks the issuer -/

section Issuer

variable (py : Platform) (rp : OidcRelyingParty)

theorem of_asks {α : Type} (owner : ℕ) (p : Verification α) :
    Only HostCall.AsksIssuer (p.of owner) := by
  induction p with
  | ret a => trivial
  | raise e => trivial
  | call c next ih => exact ⟨trivial, fun ans => ih ans⟩

/-- A method that answers its refusal makes the calls of what it refuses. -/
theorem answeredRefusal_asks {α : Type} {p : Task α} (h : Only HostCall.AsksIssuer p) :
    Only HostCall.AsksIssuer
      (tryCatch (do return .ok (← p)) answeredRefusal : Task (Except OidcRefusal α)) := by
  refine Only.andThen (Only.bind h fun _ => trivial) (Only.onRaise fun e => ?_)
  cases e <;> trivial

theorem tokenAnswer_asks (request : TokenRequest) :
    Only HostCall.AsksIssuer (tokenAnswer py request) := by
  unfold tokenAnswer
  refine Only.bind (Only.andThen (only_invoke trivial) (Only.onRaise fun e => ?_)) fun _ =>
    only_done _
  cases e <;> trivial

theorem refreshAnswer_asks (refreshToken : Str) :
    Only HostCall.AsksIssuer (rp.refreshAnswer py refreshToken) := by
  unfold OidcRelyingParty.refreshAnswer
  split
  · trivial
  · exact tokenAnswer_asks py _

theorem verifiedIdToken_asks (idToken : Str) :
    Only HostCall.AsksIssuer (rp.verifiedIdToken py idToken) := by
  refine Only.bind (of_asks _ _) fun outcome => ?_
  cases outcome <;> trivial

theorem renewAccess_asks (refreshToken : Str) :
    Only HostCall.AsksIssuer (rp.renewAccess py refreshToken) := by
  refine answeredRefusal_asks (Only.bind (refreshAnswer_asks py rp refreshToken) fun document => ?_)
  exact Only.bind (only_done _) fun _ => Only.bind (only_done _) fun _ => trivial

theorem refreshedGroups_asks (refreshToken subject : Str) :
    Only HostCall.AsksIssuer (rp.refreshedGroups py refreshToken subject) := by
  refine Only.bind (only_invoke trivial) fun reading => ?_
  refine Only.bind (answeredRefusal_asks (Only.bind (refreshAnswer_asks py rp refreshToken)
    fun document => Only.bind (only_done _) fun _ => trivial)) fun granted => ?_
  cases granted with
  | error cause => trivial
  | ok granted =>
    refine Only.bind (answeredRefusal_asks ?_) fun _ => trivial
    exact Only.bind (only_done _) fun raw => Only.bind (verifiedIdToken_asks py rp raw) fun _ =>
      only_done _

theorem authorizationCode_asks (pending : PendingLogin) (callback : List (Str × Str)) :
    Only HostCall.AsksIssuer (rp.authorizationCode pending callback) := by
  unfold OidcRelyingParty.authorizationCode
  refine Only.bind (only_done _) fun same => ?_
  dsimp only
  split
  · trivial
  · have hclock : Only HostCall.AsksIssuer (OidcRelyingParty.isUnexpired pending) :=
      Only.bind (only_invoke trivial) fun now => Only.bind (only_done _) fun age => trivial
    refine Only.bind hclock fun unexpired => ?_
    split
    · trivial
    · exact only_done _

theorem completeLogin_asks (pending : PendingLogin) (callbackQuery : Str) :
    Only HostCall.AsksIssuer (rp.completeLogin py pending callbackQuery) := by
  refine answeredRefusal_asks (Only.bind (only_done _) fun callback => ?_)
  refine Only.bind (authorizationCode_asks rp pending callback) fun code => ?_
  refine Only.bind (Only.bind (tokenAnswer_asks py _) fun document => ?_) fun tokens => ?_
  · exact Only.bind (only_done _) fun _ => Only.bind (only_done _) fun _ => trivial
  · exact Only.bind (verifiedIdToken_asks py rp _) fun _ => only_done _

end Issuer

/-! ## The operations that add nothing -/

section Operations

variable (py : Platform)

theorem wholeSecondNow_addsNothing : Only HostCall.AddsNothing wholeSecondNow :=
  Only.bind (only_invoke trivial) fun _ => only_done _

theorem standingSession_addsNothing (config : WebAuthConfig) (record : Option SessionRecord) :
    Only HostCall.AddsNothing (standingSession config record) := by
  cases record with
  | none => trivial
  | some record => exact Only.bind wholeSecondNow_addsNothing fun _ => only_done _

theorem admitSession_addsNothing (config : WebAuthConfig) (sessionId : Str) :
    Only HostCall.AddsNothing (admitSession config sessionId) := by
  refine Only.bind (only_invoke trivial) fun record => ?_
  refine Only.bind wholeSecondNow_addsNothing fun now => Only.bind (only_done _) fun standing => ?_
  cases standing with
  | none => trivial
  | some record =>
    refine Only.bind (only_done _) fun expiresAt => ?_
    refine Only.bind (only_invoke trivial) fun answer => Only.bind (only_done _) fun renewed => ?_
    split <;> trivial

theorem evidenceOfStandingSession_minor (config : WebAuthConfig) (sessionId : Str) :
    ComesIn Minor (evidenceOfStandingSession config sessionId) :=
  comesIn_within (Only.bind (only_invoke trivial) fun record =>
    Only.bind (standingSession_addsNothing config record) fun _ => trivial)

theorem keptAfterGrant_minor (config : WebAuthConfig) (sessionId sent : Str)
    (rotated : Option Str) : ComesIn Minor (keptAfterGrant config sessionId sent rotated) := by
  refine comesIn_within (Only.bind (only_invoke trivial) fun record =>
    Only.bind (standingSession_addsNothing config record) fun standing => ?_)
  cases standing with
  | none => trivial
  | some record =>
    cases replacement sent rotated with
    | none => trivial
    | some token => exact Only.bind (only_invoke trivial) fun _ => only_done _

theorem freshAccessToken_minor (rp : OidcRelyingParty) (config : WebAuthConfig)
    (sessionId : Str) : ComesIn Minor (freshAccessToken py rp config sessionId) := by
  refine (evidenceOfStandingSession_minor config sessionId).bind fun evidence => ?_
  cases evidence with
  | error cause => exact comesIn_done (.ok _)
  | ok held =>
    have hasks := (renewAccess_asks py rp held.refreshToken).mono fun _ => HostCall.AsksIssuer.addsNothing
    refine (comesIn_addsNothing hasks).bind fun granted => ?_
    cases granted with
    | error cause => exact comesIn_done (.ok _)
    | ok renewed =>
      refine (keptAfterGrant_minor config sessionId _ _).bind fun kept => ?_
      cases kept <;> exact comesIn_done (.ok _)

theorem currentGroups_minor (rp : OidcRelyingParty) (config : WebAuthConfig)
    (sessionId : Str) : ComesIn Minor (currentGroups py rp config sessionId) := by
  refine (evidenceOfStandingSession_minor config sessionId).bind fun evidence => ?_
  cases evidence with
  | error cause => exact comesIn_done (.ok _)
  | ok held =>
    have hasks := (refreshedGroups_asks py rp held.refreshToken held.subject).mono fun _ =>
      HostCall.AsksIssuer.addsNothing
    refine (comesIn_addsNothing hasks).bind fun granted => ?_
    cases granted with
    | error cause => exact comesIn_done (.ok _)
    | ok refreshed =>
      refine (keptAfterGrant_minor config sessionId _ _).bind fun kept => ?_
      cases kept with
      | false => exact comesIn_done (.ok _)
      | true => cases refreshed.groups <;> exact comesIn_done (.ok _)

theorem logout_minor (scope : Scope) : ComesIn Minor (SignIn.logout py scope) := by
  refine ComesIn.andThen ?_ fun r => ?_
  · refine ComesIn.bind (invoke_minor trivial) fun text => ?_
    refine ComesIn.bind (invoke_minor trivial) fun rp => ?_
    refine (comesIn_done _).bind fun config => (comesIn_done _).bind fun sessionId => ?_
    refine ComesIn.bind ?_ fun idToken => comesIn_done (.ok _)
    cases sessionId with
    | none => exact comesIn_done (.ok _)
    | some sessionId =>
      exact comesIn_within (Only.bind (only_invoke trivial) fun record =>
        Only.bind (only_invoke trivial) fun _ => trivial)
  · cases r <;> exact comesIn_done (.ok _)

theorem endSessionsOf_addsNothing (subject : Str) :
    Only HostCall.AddsNothing (endSessionsOf subject) := by
  refine Only.bind (only_invoke trivial) fun found => ?_
  cases found with
  | none => trivial
  | some account =>
    refine Only.bind (only_invoke trivial) fun ended => ?_
    split
    · exact only_invoke rfl
    · trivial

theorem backchannelLogout_minor (scope : Scope) :
    ComesIn Minor (SignIn.backchannelLogout py scope) := by
  refine ComesIn.bind (invoke_minor trivial) fun body => ComesIn.andThen ?_ fun r => ?_
  · refine ComesIn.bind (invoke_minor trivial) fun rp => ?_
    unfold receiveBackchannelLogout
    split
    · exact comesIn_done (.ok _)
    · rename_i token _
      have hquiet : Only HostCall.AddsNothing (rp.verifyLogoutToken py token) :=
        (verifyLogoutToken_quiet rp token).mono fun _ => HostCall.Quiet.addsNothing
      refine (comesIn_addsNothing hquiet).bind fun verified => ?_
      cases verified with
      | error cause => exact comesIn_done (.ok _)
      | ok subject =>
        exact (comesIn_within (endSessionsOf_addsNothing subject)).bind fun _ =>
          comesIn_done (.ok _)
  · rcases r with e | _ | _ <;> exact comesIn_done (.ok _)

theorem admitResourceHolder_minor (verified : VerifiedAccessToken) (requiredGroup : Str)
    (admission : AdmissionConfig) :
    ComesIn Minor (admitResourceHolder verified requiredGroup admission) := by
  unfold admitResourceHolder
  split
  · exact comesIn_done (.ok _)
  split
  · exact comesIn_done (.ok _)
  · exact comesIn_within (Only.bind (only_invoke trivial) fun _ => trivial)

/-- The operations that open no session and leave the accounts alone. -/
def HostOperation.AddsNothing : HostOperation → Prop
  | session (.signIn _ _) => False
  | tokenHolder _ _ => False
  | _ => True

theorem comesIn_map {α β : Type} {p : Task α} (f : α → β) (h : ComesIn Minor p) :
    ComesIn Minor (f <$> p) := by
  refine h.andThen fun r => ?_
  cases r with
  | ok a => exact comesIn_done (.ok (f a))
  | error e => exact comesIn_done (.error e)

/-- **All but two operations add nothing.** -/
theorem run_minor {op : HostOperation} (h : op.AddsNothing) : ComesIn Minor (op.run py) := by
  cases op with
  | session op =>
    refine comesIn_map _ ?_
    cases op with
    | admission config sessionId =>
      exact comesIn_map _ (comesIn_addsNothing (admitSession_addsNothing config sessionId))
    | accessToken rp config sessionId =>
      exact comesIn_map _ (freshAccessToken_minor py rp config sessionId)
    | groups rp config sessionId =>
      exact comesIn_map _ (currentGroups_minor py rp config sessionId)
    | signIn => exact h.elim
    | logout scope => exact comesIn_map _ (logout_minor py scope)
    | backchannelLogout scope => exact comesIn_map _ (backchannelLogout_minor py scope)
  | tokenHolder => exact h.elim
  | resourceHolder verified requiredGroup admission =>
    exact comesIn_map _ (admitResourceHolder_minor verified requiredGroup admission)

end Operations

/-! ## A sign-in -/

/-- The call of the host's hook that answers a refusal. -/
def HostCall.Refuses : HostCall → Prop
  | refused _ _ => True
  | _ => False

/-- A sign-in's calls with an entry: the issuer vouched for an identity that is admitted, the entry
writes the sign-in, and only a taken username is refused after it. -/
structure SignInWrites (py : Platform) (routes : SignIn) (scope : Scope) (admitted : AdmittedLogin)
    (replaced : Option Str) (es : List HostEvent) (r : Except Exn Str)
    (exit : Except Exn Unit) : Prop where
  split : ∃ rp pending query login config entry back,
    es = ⟨.relyingParty scope, .ok rp⟩ :: (login ++ (entry ++ back)) ∧
    Path (rp.completeLogin py pending query) login (.ok (.ok admitted.identity)) ∧
    decideAdmission admitted.identity routes.admission = .ok admitted ∧
    webAuthConfig scope = .ok config ∧ sessionIdFromRequest py scope config.value = .ok replaced ∧
    Entry .signIn (writeSignIn py config.value routes.options admitted replaced) entry r exit ∧
    (∀ e ∈ back, e.call.Refuses) ∧ (back ≠ [] → afterExit r exit = .error .usernameTakenSignal)

/-- How a sign-in goes: it reaches no store, or writes. -/
inductive SignInCourse (py : Platform) (routes : SignIn) (scope : Scope) : List HostEvent → Prop
  | idle {es : List HostEvent} (calls : ∀ e ∈ es, Idle e) : SignInCourse py routes scope es
  | written {admitted : AdmittedLogin} {replaced : Option Str} {es : List HostEvent}
      {r : Except Exn Str} {exit : Except Exn Unit}
      (writes : SignInWrites py routes scope admitted replaced es r exit) :
      SignInCourse py routes scope es

/-- The calls of the clock and of the stores. -/
def HostCall.OnStores : HostCall → Prop
  | wallClock => True
  | load _ => True
  | touch _ _ => True
  | replaceRefreshToken _ _ => True
  | create _ _ _ _ _ => True
  | delete _ => True
  | deleteForUser _ => True
  | pruneOverflow _ _ => True
  | getAccount _ => True
  | createForSubject _ _ _ => True
  | setRole _ _ => True
  | accountEvent _ => True
  | _ => False

theorem HostCall.OnStores.inside {c : HostCall} (h : c.OnStores) : c.Inside := by
  cases c <;> first | exact h.elim | trivial

theorem HostCall.OnStores.not_refuses {c : HostCall} (h : c.OnStores) : ¬c.Refuses := by
  cases c <;> first | exact h.elim | exact not_false

theorem HostCall.OnAccounts.onStores {c : HostCall} (h : c.OnAccounts) : c.OnStores := by
  cases c <;> first | exact h.elim | trivial

theorem writeSignIn_onStores (py : Platform) (config : WebAuthConfig) (options : SignInOptions)
    (admitted : AdmittedLogin) (replaced : Option Str) :
    Only HostCall.OnStores (writeSignIn py config options admitted replaced) := by
  refine Only.bind ((admitAccount_only _ _ _).mono fun _ => HostCall.OnAccounts.onStores)
    fun account => ?_
  exact sessionWrites_only config options admitted.identity replaced trivial (fun _ => trivial)
    (fun _ => trivial) fun _ _ _ _ => trivial

theorem HostCall.Refuses.quiet {c : HostCall} (h : c.Refuses) : c.Quiet := by
  cases c <;> first | exact h.elim | trivial

section SignIn

variable {py : Platform} {routes : SignIn} {scope : Scope} {es : List HostEvent}

theorem decideAdmission_identity {identity : OidcIdentity} {admission : AdmissionConfig}
    {admitted : AdmittedLogin} (h : decideAdmission identity admission = .ok admitted) :
    admitted.identity = identity ∧
      (appRole identity.groups admission).map AppRole.value = some admitted.role := by
  unfold decideAdmission at h
  split at h
  · cases h
  · split at h
    · cases h
    · rename_i derived hderived
      cases h
      exact ⟨rfl, congrArg _ hderived⟩

theorem refuse_path {cause : SignInCause} {r : Except Exn Response}
    (h : Path (SignIn.refuse scope cause) es r) : ∀ e ∈ es, e.call.Refuses := by
  have honly : Only HostCall.Refuses (SignIn.refuse scope cause) := only_invoke trivial
  exact honly.path h

theorem SignInCourse.of_quiet (h : ∀ e ∈ es, e.call.Quiet) : SignInCourse py routes scope es :=
  .idle fun e he => .inl (h e he)

/-- `_write` and what `_answer` makes of its end. -/
theorem written_path {config : WebAuthConfig} {pending : PendingLogin} {admitted : AdmittedLogin}
    {replaced : Option Str} {r : Except Exn Response}
    (h : Path (do
      let written ← tryCatch (do return some (← routes.write py config admitted replaced))
        SignIn.writeRefusal
      match written with
      | none => SignIn.refuse scope (.admission .usernameTaken)
      | some sessionId => (SignIn.signedIn py scope config pending sessionId : Task Response))
      es r) :
    ∃ first back rw, es = first ++ back ∧ Path (routes.write py config admitted replaced) first rw ∧
      (∀ e ∈ back, e.call.Refuses) ∧ (back ≠ [] → rw = .error .usernameTakenSignal) := by
  obtain ⟨caught, back₂, r₂, rfl, hcaught, hback₂⟩ := path_andThen.1 h
  obtain ⟨returning, back₁, r₁, rfl, hreturning, hback₁⟩ := path_andThen.1 hcaught
  obtain ⟨first, none, rw, rfl, hwrite, hnone⟩ := path_andThen.1 hreturning
  refine ⟨first, none ++ (back₁ ++ back₂), rw, by simp, hwrite, ?_⟩
  cases rw with
  | ok sessionId =>
    obtain ⟨rfl, rfl⟩ := hnone
    obtain ⟨rfl, rfl⟩ := hback₁
    obtain ⟨rfl, -⟩ := path_done.1 hback₂
    exact ⟨by simp, fun hne => absurd rfl hne⟩
  | error e =>
    obtain ⟨rfl, rfl⟩ := hnone
    by_cases htaken : e = .usernameTakenSignal
    · subst htaken
      obtain ⟨rfl, rfl⟩ := hback₁
      exact ⟨refuse_path hback₂, fun _ => rfl⟩
    · have hraises : SignIn.writeRefusal e = raise e := by
        cases e <;> first | exact absurd rfl htaken | rfl
      replace hback₁ : Path (SignIn.writeRefusal e) back₁ r₂ := hback₁
      rw [hraises] at hback₁
      obtain ⟨rfl, rfl⟩ := hback₁
      obtain ⟨rfl, -⟩ := hback₂
      exact ⟨by simp, fun hne => absurd rfl hne⟩

/-- The part of `_answer` from an identity on. -/
theorem admitIdentity_path {config : Ref WebAuthConfig} {pending : PendingLogin} {query : Str}
    {rp : OidcRelyingParty} {identity : OidcIdentity} {login : List HostEvent}
    {r : Except Exn Response} (hconfig : webAuthConfig scope = .ok config)
    (hlogin : Path (rp.completeLogin py pending query) login (.ok (.ok identity)))
    (h : Path (routes.admitIdentity py scope config.value pending identity) es r) :
    SignInCourse py routes scope (⟨.relyingParty scope, .ok rp⟩ :: (login ++ es)) := by
  have hasks := (completeLogin_asks py rp pending query).path hlogin
  have hidle : (∀ e ∈ es, Idle e) →
      SignInCourse py routes scope (⟨.relyingParty scope, .ok rp⟩ :: (login ++ es)) := by
    intro hes
    refine .idle (List.forall_mem_cons.2 ⟨.inl trivial, fun e he => ?_⟩)
    rcases List.mem_append.1 he with he | he
    · exact .inl (hasks e he).quiet
    · exact hes e he
  unfold SignIn.admitIdentity at h
  cases hadmission : decideAdmission identity routes.admission with
  | error cause =>
    rw [hadmission] at h
    exact hidle fun e he => .inl (refuse_path h e he).quiet
  | ok admitted =>
    rw [hadmission] at h
    obtain rfl : admitted.identity = identity := (decideAdmission_identity hadmission).1
    rcases path_lift_bind h with ⟨replaced, hreplaced, h⟩ | ⟨e, -, rfl, -⟩
    rotate_left
    · exact hidle (by simp)
    obtain ⟨first, back, rw, rfl, hwrite, hback, htaken⟩ := written_path h
    rcases within_path hwrite with ⟨e, rfl, -⟩ | ⟨rb, exit, hentry, rfl⟩
    · refine hidle (List.forall_mem_cons.2 ⟨.inr ⟨_, e, rfl⟩, fun e he => ?_⟩)
      exact .inl (hback e he).quiet
    · exact .written ⟨rp, pending, query, login, config, first, back, rfl, hlogin, hadmission,
        hconfig, hreplaced, hentry, hback, htaken⟩

/-- `_answer` for a browser that carried its login back. -/
theorem answer_path {config : Ref WebAuthConfig} {pending : PendingLogin}
    {r : Except Exn Response} (hconfig : webAuthConfig scope = .ok config)
    (h : Path (routes.answer py scope config.value (some pending)) es r) :
    SignInCourse py routes scope es := by
  unfold SignIn.answer at h
  obtain ⟨rp, asked, rfl, hasked⟩ := path_perform_andThen.1 h
  cases rp with
  | error e =>
    obtain ⟨rfl, -⟩ := hasked
    exact .of_quiet (by simp [HostCall.Quiet])
  | ok rp =>
    rcases path_lift_bind hasked with ⟨query, -, hlogs⟩ | ⟨e, -, rfl, -⟩
    rotate_left
    · exact .of_quiet (by simp [HostCall.Quiet])
    obtain ⟨login, rest, outcome, rfl, hlogin, hrest⟩ := path_andThen.1 hlogs
    have hquiet := fun e he => ((completeLogin_asks py rp pending query).path hlogin e he).quiet
    rcases outcome with e | cause | identity
    · obtain ⟨rfl, -⟩ := hrest
      rw [List.append_nil]
      exact .of_quiet (List.forall_mem_cons.2 ⟨trivial, hquiet⟩)
    · refine .of_quiet (List.forall_mem_cons.2 ⟨trivial, fun e he => ?_⟩)
      rcases List.mem_append.1 he with he | he
      · exact hquiet e he
      · exact (refuse_path hrest e he).quiet
    · exact admitIdentity_path hconfig hlogin hrest

/-- What the calls of a sign-in leave in the stores. -/
theorem SignInWrites.effect {undone : Bool → Stores → Stores → Stores → Prop} {s s' : HostState}
    {admitted : AdmittedLogin} {replaced : Option Str} {rw : Except Exn Str}
    {exit : Except Exn Unit} (h : SignInWrites py routes scope admitted replaced es rw exit)
    (hsteps : Steps (hostStores undone) s es s') :
    ∃ config inner made, Path (writeSignIn py config routes.options admitted replaced) inner rw ∧
      Steps storeCalls s.now inner made ∧
      if returned rw = true ∧ exit = .ok () then s'.now = made
      else undone (returned rw) s.now made s'.now := by
  obtain ⟨rp, pending, query, login, config, entry, back, rfl, hlogin, -, -, -, hentry, hback, -⟩ :=
    h.split
  have hfront : ∀ e ∈ (⟨.relyingParty scope, .ok rp⟩ : HostEvent) :: login, Idle e :=
    List.forall_mem_cons.2 ⟨.inl trivial, fun e he =>
      .inl ((completeLogin_asks py rp pending query).path hlogin e he).quiet⟩
  obtain ⟨s₁, hbefore, hrest⟩ := steps_append.1
    (show Steps (hostStores undone) s ((⟨.relyingParty scope, .ok rp⟩ :: login) ++
      (entry ++ back)) s' from hsteps)
  obtain rfl := steps_idle hfront hbefore
  obtain ⟨s₂, hinside, hafter⟩ := steps_append.1 hrest
  obtain rfl := steps_idle (fun e he => .inl (hback e he).quiet) hafter
  obtain ⟨inner, made, hpath, hmade, hexit⟩ :=
    hentry.effect ((writeSignIn_onStores _ _ _ _ _).mono fun _ => HostCall.OnStores.inside) hinside
  exact ⟨config.value, inner, made, hpath, hmade, hexit⟩

/-- A sign-in that writes and refuses has failed to write. -/
theorem SignInWrites.raised_of_refused {undone : Bool → Stores → Stores → Stores → Prop}
    {s s' : HostState} {admitted : AdmittedLogin} {replaced : Option Str} {rw : Except Exn Str}
    {exit : Except Exn Unit} (h : SignInWrites py routes scope admitted replaced es rw exit)
    (hsteps : Steps (hostStores undone) s es s') (hrefuses : ∃ e ∈ es, e.call.Refuses) :
    returned rw = false := by
  obtain ⟨rp, pending, query, login, config, entry, back, rfl, hlogin, -, -, -, hentry, -, htaken⟩ :=
    h.split
  have hback : back ≠ [] := by
    rintro rfl
    obtain ⟨e, he, href⟩ := hrefuses
    rw [List.append_nil] at he
    rcases List.mem_cons.1 he with rfl | he
    · exact href
    rcases List.mem_append.1 he with hin | hin
    · have hasks := (completeLogin_asks py rp pending query).path hlogin e hin
      obtain ⟨c, ans⟩ := e
      cases c <;> first | exact hasks.elim | exact href.elim
    · obtain ⟨inner, rfl, hinner⟩ := hentry.split
      rcases List.mem_cons.1 hin with rfl | hin
      · exact href
      rcases List.mem_append.1 hin with hin | hin
      · exact ((writeSignIn_onStores _ _ _ _ _).path hinner e hin).not_refuses href
      · obtain rfl := List.mem_singleton.1 hin
        exact href
  obtain ⟨s₁, -, hrest⟩ := hsteps
  obtain ⟨s₂, -, hentered⟩ := steps_append.1 hrest
  obtain ⟨s₃, hinside, -⟩ := steps_append.1 hentered
  have hafter := htaken hback
  rcases exit with e | _
  · cases hafter
    cases hentry.exit_public hinside rfl
  · cases rw with
    | ok sessionId => cases hafter
    | error e => rfl

/-- **What a sign-in does.** -/
theorem callback_path {r : Except Exn Routed} (h : Path (routes.callback py scope) es r) :
    SignInCourse py routes scope es := by
  unfold SignIn.callback at h
  rcases path_lift_bind h with ⟨config, hconfig, h⟩ | ⟨e, -, rfl, -⟩
  rotate_left
  · exact .idle (by simp)
  rcases path_lift_bind h with ⟨query, -, h⟩ | ⟨e, -, rfl, -⟩
  rotate_left
  · exact .idle (by simp)
  cases hstate : callbackState query with
  | error cause =>
    rw [hstate] at h
    obtain ⟨asked, none, r₁, rfl, hrefuse, hnone⟩ := path_andThen.1 h
    obtain rfl : none = [] := by cases r₁ <;> exact hnone.1
    exact .of_quiet fun e he => (refuse_path hrefuse e (by simpa using he)).quiet
  | ok state =>
    rw [hstate] at h
    rcases path_lift_bind h with ⟨⟨carrier, pending⟩, -, h⟩ | ⟨e, -, rfl, -⟩
    rotate_left
    · exact .idle (by simp)
    obtain ⟨answered, none, r₁, rfl, hanswer, hnone⟩ := path_andThen.1 h
    obtain rfl : none = [] := hnone.1
    rw [List.append_nil]
    cases pending with
    | none => exact .of_quiet fun e he => (refuse_path hanswer e he).quiet
    | some pending => exact answer_path hconfig hanswer

/-- A sign-in of a run. -/
theorem signIn_course {turn : HostTurn} (hop : turn.op = .session (.signIn routes scope))
    (h : Path (turn.op.run py) turn.events turn.outcome) :
    SignInCourse py routes scope turn.events := by
  rw [hop] at h
  obtain ⟨r₁, h₁, -⟩ := path_map h
  obtain ⟨r₂, h₂, -⟩ := path_map h₁
  exact callback_path h₂

/-- Whether an entry opens here. -/
def opensEntry : HostEvent → Bool
  | ⟨.enter _, .ok _⟩ => true
  | _ => false

/-- Whether an entry that ends here does so cleanly. -/
def exitsCleanly : HostEvent → Bool
  | ⟨.leave _ b, .ok _⟩ => b
  | ⟨.leave _ _, .error _⟩ => false
  | _ => true

/-- A sign-in that opens an entry, and exits cleanly from every one, is completed. -/
theorem SignInCourse.completed (h : SignInCourse py routes scope es)
    (hopens : es.any opensEntry = true) (hexits : es.all exitsCleanly = true) :
    ∃ admitted replaced sessionId,
      SignInWrites py routes scope admitted replaced es (.ok sessionId) (.ok ()) := by
  cases h with
  | idle hidle =>
    obtain ⟨e, he, hopen⟩ := List.any_eq_true.1 hopens
    rcases hidle e he with hquiet | ⟨transaction, x, rfl⟩
    · obtain ⟨c, ans⟩ := e
      cases c <;> first | exact hquiet.elim | cases hopen
    · cases hopen
  | @written admitted replaced _ rw exit hwrites =>
    obtain ⟨rp, pending, query, login, config, entry, back, rfl, -, -, -, -, hentry, -⟩ :=
      hwrites.split
    obtain ⟨inner, rfl, -⟩ := hentry.split
    have hleave := List.all_eq_true.1 hexits ⟨.leave .signIn (returned rw), exit⟩ (by simp)
    rcases exit with e | _
    · cases hleave
    rcases rw with e | sessionId
    · cases hleave
    exact ⟨admitted, replaced, sessionId, hwrites⟩

end SignIn

/-! ## A sign-in of a host -/

/-- A secret of a pending login. -/
def pendingSecret (c : Char) : Str := List.replicate pendingSecretChars (chr c)

/-- What a browser carried back of its login, and the session it brought. -/
def browserCookies : List (Str × Str) :=
  let signature := List.replicate 64 (chr '0')
  [(str "__Host-oidc_pending_", join (chr '.') [pendingLoginVersion, pendingSecret 'a',
      pendingSecret 'b', pendingSecret 'c', str "100", [], signature]),
    (str "__Host-session_id", str "s." ++ signature)]

/-- The surroundings in which `"i"` is an ID token of that login. -/
def signInPlatform : Platform :=
  { demoPlatform with
    hmacSha256 := fun _ _ => List.replicate 32 0
    cookieParser := fun _ => browserCookies
    jsonLoads := fun _ => some (.obj [(str "id_token", .str (str "i"))])
    getUnverifiedHeader := fun _ => .ok (typedHeader "JWT")
    jwtDecode := fun _ => .ok [(str "iss", .str (str "https://issuer")),
      (str "aud", .str (str "client")), (str "iat", .int 90), (str "exp", .int 200),
      (str "sub", .str (str "u")), (str "nonce", .str (pendingSecret 'b'))] }

/-- Everyone of the issuer may enter, and nobody as an admin. -/
def openAdmission : AdmissionConfig where
  boundIssuer := str "https://issuer"
  loginGroup := none
  adminGroup := none
  login_isGroupPath := none_isGroupPath
  admin_isGroupPath := none_isGroupPath
  admin_below := none_below

/-- Sign-in routes with a cap of one session. -/
def cappedRoutes : SignIn := ⟨openAdmission, ⟨false, some 0⟩⟩

/-- The callback of that login. -/
def callbackScope : Scope where
  type := str "http"
  app := some ⟨0, some ⟨0, demoConfig⟩⟩
  method := some (str "GET")
  path := str "/auth/callback"
  rawPath := none
  rootPath := []
  queryString := []
  urlQuery := some (str "code=c&state=" ++ pendingSecret 'a')
  queryParams := []
  headers := []

/-- What the host answers it besides its stores. -/
def signInScript : HostScript := ⟨[], demoRelyingParty, ⟨200, []⟩, 100⟩

/-- The operation. -/
def signInOperation : HostOperation := .session (.signIn cappedRoutes callbackScope)

/-- What the demonstration host does with an operation. -/
def playedTurn (py : Platform) (script : HostScript) (op : HostOperation) (s : HostState) :
    HostTurn where
  op := op
  events := (play (demoHost script) (op.run py) s).1
  outcome := (play (demoHost script) (op.run py) s).2

/-- What the operation leaves of it. -/
def playedState (py : Platform) (script : HostScript) (op : HostOperation) (s : HostState) :
    HostState := stateAfter (demoHost script) (op.run py) s

theorem playedTurn_takes {undone : Bool → Stores → Stores → Stores → Prop}
    (hundone : ∀ before made, undone false before made before) (py : Platform)
    (script : HostScript) (op : HostOperation) (s : HostState) :
    (playedTurn py script op s).Takes (hostStores undone) (HostOperation.run py) s
      (playedState py script op s) :=
  ⟨path_play _ _ _, steps_play (demoHost_allowed hundone script) (op.run py) s⟩

/-! ## The holder of a token -/

/-- What `_admit_token_holder` makes of the end of its entry. -/
def holderAnswer : Except Exn AuthenticatedUser →
    Except Exn (Except AdmissionRefusal AuthenticatedUser)
  | .ok user => .ok (.ok user)
  | .error .usernameTakenSignal => .ok (.error .usernameTaken)
  | .error e => .error e

/-- A token's holder who is no member is refused without a call. -/
theorem tokenHolder_path {py : Platform} {turn : HostTurn} {verified : VerifiedAccessToken}
    {admission : AdmissionConfig} (hop : turn.op = .tokenHolder verified admission)
    (h : Path (turn.op.run py) turn.events turn.outcome) :
    (appRole verified.groups admission = none ∧ turn.events = [] ∧
      turn.outcome = .ok (.tokenHolder (.error .notAMember))) ∨
    ∃ role rw, appRole verified.groups admission = some role ∧
      Path (within .signIn (tokenHolderOf py verified role.value)) turn.events rw ∧
      turn.outcome = (holderAnswer rw).map .tokenHolder := by
  obtain ⟨op, es, r⟩ := turn
  obtain rfl : op = _ := hop
  obtain ⟨r₁, h₁, rfl : r = _⟩ := path_map h
  unfold admitTokenHolder at h₁
  cases hrole : appRole verified.groups admission with
  | none =>
    rw [hrole] at h₁
    obtain ⟨rfl, rfl⟩ := h₁
    exact .inl ⟨rfl, rfl, rfl⟩
  | some role =>
    rw [hrole] at h₁
    obtain ⟨first, caught, r₂, rfl, hreturning, hcaught⟩ := path_andThen.1 h₁
    obtain ⟨entry, none, rw, rfl, hentry, hnone⟩ := path_andThen.1 hreturning
    have hended : none = [] ∧ caught = [] ∧ r₁ = holderAnswer rw := by
      cases rw with
      | ok user =>
        obtain ⟨rfl, rfl⟩ := hnone
        exact ⟨rfl, hcaught.1, hcaught.2⟩
      | error e =>
        obtain ⟨rfl, rfl⟩ := hnone
        cases e <;> exact ⟨rfl, hcaught.1, hcaught.2⟩
    obtain ⟨rfl, rfl, rfl⟩ := hended
    exact .inr ⟨role, rw, rfl, by simpa using hentry, rfl⟩

end WebAuth
