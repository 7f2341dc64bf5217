import WebAuth.LoginBinding
import WebAuth.SessionCookies

/-!
# What a bound sign-in opens

The session of a sign-in belongs to the account of the ID token's subject, and the answer carries
its cookie where the exit of the transaction has returned.
-/

namespace WebAuth

open Python Effects Program

/-! ## The statement -/

/-- The store of accounts answers with the account it was asked for, as its port promises. -/
def NamesAccount : HostEvent → Prop
  | ⟨.getAccount userId, .ok (some account)⟩ => account.id = userId
  | ⟨.createForSubject subject _ _, .ok account⟩ => account.id = subject
  | ⟨.setRole userId _, .ok account⟩ => account.id = userId
  | _ => True

/-- A call that opens a session opens it for the account. -/
def HostCall.OpensFor (accountId : Str) : HostCall → Prop
  | create userId _ _ _ _ => userId = accountId
  | _ => True

/-- What the write of a sign-in opens: sessions of the subject alone, the one it answers among
them, and it answers one when the exit of the transaction has returned after it. -/
structure OpensSession (identity : OidcIdentity) (written : List HostEvent)
    (kept : Except Exn Str) : Prop where
  subject : ∀ e ∈ written, e.call.OpensFor identity.subject
  session : ∀ sessionId, kept = .ok sessionId →
    ∃ (now expiresAt : DateTime) (refreshToken idToken : Option Str) (record : SessionRecord),
      (⟨.create identity.subject now expiresAt refreshToken idToken, .ok record⟩ : HostEvent) ∈
        written ∧ record.id = sessionId
  exit : (∃ sessionId, kept = .ok sessionId) ↔
    (⟨.leave .signIn true, .ok ()⟩ : HostEvent) ∈ written

/-- The session cookie of a sign-in's answer. A session that was kept is answered for with its
cookie, where its id has the length the port promises and the path to redirect to has an encoding;
any other answer is the host's refusal. -/
structure AnswersCookie (py : Platform) (scope : Scope) (config : WebAuthConfig)
    (kept : Except Exn Str) (back : List HostEvent) (outcome : Except Exn Response) : Prop where
  issued : ∀ sessionId, kept = .ok sessionId → sessionId ≠ [] → sessionId.length ≤ 135 →
    IsText sessionId → IsText scope.rootPath → ∃ response value, outcome = .ok response ∧
      signSessionId py sessionId config.signingKey = .ok value ∧
      response.cookies = [cookieOf config config.cookieSamesite config.sessionCookieName value
        config.sessionLifetime.absoluteMaxAgeSeconds]
  refused : ∀ response, outcome = .ok response → (∃ sessionId, kept = .ok sessionId) ∨
    back = [⟨.refused scope (.admission .usernameTaken), .ok response⟩]

/-- A sign-in that is bound to one login and opens its session. -/
structure SignsSubjectIn (py : Platform) (routes : SignIn) (scope : Scope) (config : WebAuthConfig)
    (history : List Signing) (es : List HostEvent) (r : Except Exn Routed) : Prop where
  signed : ∃ identity written kept back outcome,
    BoundRun py routes scope config history es r identity written kept back outcome ∧
    OpensSession identity written kept ∧ AnswersCookie py scope config kept back outcome

/-! ## The write -/

section Write

variable {py : Platform} {config : WebAuthConfig} {options : SignInOptions} {es : List HostEvent}
  {admitted : AdmittedLogin} {replaced : Option Str}

theorem provision_id {claimant : Claimant} {role : Str} {account : UserRecord}
    (h : Path (provision py claimant role) es (.ok account)) (hes : ∀ e ∈ es, NamesAccount e) :
    account.id = claimant.subject := by
  obtain ⟨creating, recording, created, rfl, hcreate, hrecord⟩ := path_bind_ok h
  obtain ⟨ans, rest, rfl, hcaught⟩ := path_perform_andThen.1 hcreate
  obtain ⟨first, last, _, rfl, -, hreturn⟩ := path_bind_ok hrecord
  obtain ⟨-, hsame⟩ := hreturn
  cases hsame
  cases ans with
  | error e =>
    -- a name that is taken leaves as a signal
    cases e <;> cases hcaught.2
  | ok made =>
    obtain ⟨rfl, hmade⟩ := hcaught
    cases hmade
    exact hes _ (List.mem_append_left _ (List.mem_singleton_self _))

theorem withRole_id {known account : UserRecord} {role : Str}
    (h : Path (withRole known role) es (.ok account)) (hes : ∀ e ∈ es, NamesAccount e) :
    account.id = known.id := by
  unfold withRole at h
  split_ifs at h
  · obtain ⟨-, hsame⟩ := h
    cases hsame
    rfl
  · obtain ⟨setting, recording, updated, rfl, hset, hrecord⟩ := path_bind_ok h
    obtain ⟨first, last, _, rfl, -, hreturn⟩ := path_bind_ok hrecord
    obtain ⟨-, hsame⟩ := hreturn
    cases hsame
    obtain ⟨ans, rest, rfl, hret⟩ := hset
    cases ans with
    | error e => cases hret.2
    | ok made =>
      obtain ⟨rfl, hmade⟩ := hret
      cases hmade
      exact hes _ (List.mem_append_left _ (List.mem_singleton_self _))

/-- The account of an admission is the claimant's. -/
theorem admitAccount_id {claimant : Claimant} {role : Str} {account : UserRecord}
    (h : Path (admitAccount py claimant role) es (.ok account)) (hes : ∀ e ∈ es, NamesAccount e) :
    account.id = claimant.subject := by
  obtain ⟨getting, rest, found, rfl, hget, hrest⟩ := path_bind_ok h
  have hlater : ∀ e ∈ rest, NamesAccount e := fun e he => hes e (List.mem_append_right _ he)
  cases found with
  | none => exact provision_id hrest hlater
  | some known =>
    obtain ⟨ans, none, rfl, hret⟩ := hget
    cases ans with
    | error e => cases hret.2
    | ok made =>
      obtain ⟨rfl, hmade⟩ := hret
      cases hmade
      exact (withRole_id hrest hlater).trans
        (hes _ (List.mem_append_left _ (List.mem_singleton_self _)))

theorem admitAccount_opensFor (accountId : Str) (claimant : Claimant) (role : Str) :
    Only (HostCall.OpensFor accountId) (admitAccount py claimant role) :=
  (admitAccount_only py claimant role).mono fun c hc => by
    cases c <;> trivial

/-- The writes open sessions of the subject alone, and answer the id of the one they open. -/
theorem writeSignIn_opens {r : Except Exn Str}
    (h : Path (writeSignIn py config options admitted replaced) es r)
    (hes : ∀ e ∈ es, NamesAccount e) :
    (∀ e ∈ es, e.call.OpensFor admitted.identity.subject) ∧
      ∀ sessionId, r = .ok sessionId →
        ∃ (now expiresAt : DateTime) (refreshToken idToken : Option Str) (record : SessionRecord),
          (⟨.create admitted.identity.subject now expiresAt refreshToken idToken, .ok record⟩ :
            HostEvent) ∈ es ∧ record.id = sessionId := by
  obtain ⟨admitting, rest, found, rfl, hadmit, hrest⟩ := path_andThen.1 h
  have hadmitting := (admitAccount_opensFor admitted.identity.subject _ _).path hadmit
  cases found with
  | error e =>
    obtain ⟨rfl, rfl⟩ := hrest
    rw [List.append_nil]
    exact ⟨hadmitting, fun sessionId hr => by cases hr⟩
  | ok account =>
    have hid : account.id = admitted.identity.subject :=
      admitAccount_id hadmit fun e he => hes e (List.mem_append_left _ he)
    have honly := @sessionWrites_only (HostCall.OpensFor account.id) account.id config options
      admitted.identity replaced trivial (fun _ => trivial) (fun _ => trivial) fun _ _ _ _ => rfl
    have hresting := honly.path hrest
    rw [hid] at hresting
    refine ⟨fun e he => (List.mem_append.1 he).elim (hadmitting e) (hresting e),
      fun sessionId hr => ?_⟩
    subst hr
    obtain ⟨reading, rest₁, now, rfl, -, h₁⟩ := path_bind_ok hrest
    obtain ⟨ending, rest₂, _, rfl, -, h₂⟩ := path_bind_ok h₁
    obtain ⟨pruning, opening, _, rfl, -, hopen⟩ := path_bind_ok h₂
    obtain ⟨renewing, rest₃, expiresAt, rfl, -, h₃⟩ := path_bind_ok hopen
    obtain ⟨creating, rest₄, record, rfl, hcreate, hreturn⟩ := path_bind_ok h₃
    obtain ⟨-, hsame⟩ := hreturn
    obtain ⟨ans, none, rfl, hret⟩ := hcreate
    cases ans with
    | error e => cases hret.2
    | ok made =>
      obtain ⟨rfl, hmade⟩ := hret
      cases hmade
      refine ⟨now, expiresAt, admitted.identity.refreshToken,
        if options.keepsIdToken then some admitted.identity.idToken else none, record, ?_,
        (Except.ok.inj hsame).symm⟩
      rw [hid]
      simp

theorem afterExit_eq_ok {α : Type} {rb : Except Exn α} {exit : Except Exn Unit} {a : α} :
    afterExit rb exit = .ok a ↔ rb = .ok a ∧ exit = .ok () := by
  cases exit <;> simp [afterExit]

/-- **The write of a sign-in opens the subject's session**, or answers no session. -/
theorem write_opens {routes : SignIn} {kept : Except Exn Str}
    (h : Path (routes.write py config admitted replaced) es kept)
    (hes : ∀ e ∈ es, NamesAccount e) : OpensSession admitted.identity es kept := by
  rcases within_path h with ⟨e, rfl, rfl⟩ | ⟨rb, exit, hentry, rfl⟩
  · exact ⟨by simp [HostCall.OpensFor], fun sessionId hr => (by cases hr), by simp⟩
  · obtain ⟨inner, rfl, hinner⟩ := hentry.split
    obtain ⟨hsubject, hsession⟩ := writeSignIn_opens hinner fun e he => hes e (by simp [he])
    have hstores := (writeSignIn_onStores _ _ _ _ _).path hinner
    have hinside : (⟨.leave .signIn true, .ok ()⟩ : HostEvent) ∉ inner := fun hmem =>
      hstores _ hmem
    refine ⟨fun e he => ?_, fun sessionId hr => ?_, fun ⟨sessionId, hr⟩ => ?_, fun hleft => ?_⟩
    · rcases List.mem_cons.1 he with rfl | he
      · trivial
      rcases List.mem_append.1 he with he | he
      · exact hsubject e he
      · rw [List.mem_singleton.1 he]
        trivial
    · obtain ⟨rfl, -⟩ := afterExit_eq_ok.1 hr
      obtain ⟨now, expiresAt, refreshToken, idToken, record, hmem, hid⟩ := hsession sessionId rfl
      exact ⟨now, expiresAt, refreshToken, idToken, record, by simp [hmem], hid⟩
    · obtain ⟨rfl, rfl⟩ := afterExit_eq_ok.1 hr
      simp [returned]
    · rcases List.mem_cons.1 hleft with hentered | hleft
      · cases hentered
      rcases List.mem_append.1 hleft with hmem | hlast
      · exact absurd hmem hinside
      · have hsame := List.mem_singleton.1 hlast
        cases rb with
        | error e => simp [returned] at hsame
        | ok sessionId =>
          cases hsame
          exact ⟨sessionId, rfl⟩

end Write

/-! ## The answer -/

section Answer

variable {py : Platform} {routes : SignIn} {scope : Scope} {config : Ref WebAuthConfig}
  {login : PendingLogin} {es : List HostEvent} {sessionId : Str}

theorem isText_landing {returnTo : Option Str} (h : IsText scope.rootPath) :
    IsText (landing scope returnTo) := by
  unfold landing
  cases hpath : sameAppPath scope returnTo with
  | none =>
    have hslash : IsText (str "/") := isText_of_isAscii (by decide)
    intro c hc
    rcases List.mem_append.1 hc with hc | hc
    · exact h c ((List.rdropWhile_prefix _ _).subset hc)
    · exact hslash c hc
  | some path =>
    refine isText_of_isAscii (List.all_eq_true.2 fun c hc => ?_)
    have hlow := (sameAppPath_eq_some.1 (sameAppPath_kept hpath)).visible c hc
    simp only [isVisible, Bool.and_eq_true, decide_eq_true_eq] at hlow
    exact decide_eq_true (show c.val < 128 by omega)

theorem redirectResponse_of_isText {path : Str} (h : IsText path) :
    ∃ redirect, redirectResponse path = .ok redirect ∧ redirect.cookies = [] := by
  unfold redirectResponse
  rw [quote_eq_some.2 ⟨h, rfl⟩]
  exact ⟨_, rfl, rfl⟩

/-- An id of the length the port promises is signed. -/
theorem signSessionId_fits {secret : Bytes} (hmac : HmacDigests py) (hne : sessionId ≠ [])
    (hlength : sessionId.length ≤ 135) (htext : IsText sessionId) :
    ∃ value, signSessionId py sessionId secret = .ok value := by
  obtain ⟨sig, hsig⟩ := @signature_of_isText py secret _ _ isText_sessionPrefix htext
  refine ⟨_, signSessionId_eq_ok.2 ⟨hne, sig, hsig, rfl, ?_⟩⟩
  rw [List.length_append, List.length_cons, signature_length hmac hsig]
  omega

theorem answersCookie_of_write {kept : Except Exn Str} {back : List HostEvent}
    {outcome : Except Exn Response} (hmac : HmacDigests py)
    (h : WriteAnswer py scope config.value login kept back outcome) :
    AnswersCookie py scope config.value kept back outcome := by
  cases h with
  | signedIn sessionId =>
    refine ⟨fun sessionId' hkept hne hlength htext hroot => ?_, fun _ _ => .inl ⟨sessionId, rfl⟩⟩
    obtain rfl := Except.ok.inj hkept
    obtain ⟨redirect, hredirect, hfresh⟩ :=
      redirectResponse_of_isText (@isText_landing scope login.returnTo hroot)
    obtain ⟨value, hvalue⟩ := @signSessionId_fits py sessionId config.value.signingKey hmac hne
      hlength htext
    refine ⟨redirect.setCookie (cookieOf config.value config.value.cookieSamesite
      config.value.sessionCookieName value config.value.sessionLifetime.absoluteMaxAgeSeconds),
      value, ?_, hvalue, ?_⟩
    · change (redirectResponse (landing scope login.returnTo)).bind _ = _
      rw [hredirect]
      change (signSessionId py sessionId config.value.signingKey).bind _ = _
      rw [hvalue]
      rfl
    · rw [Response.setCookie, hfresh]
      rfl
  | usernameTaken answer =>
    refine ⟨fun _ hkept => (by cases hkept), fun response hanswer => .inr ?_⟩
    rw [hanswer]
  | raised e hne =>
    exact ⟨fun _ hkept => (by cases hkept), fun _ hanswer => (by cases hanswer)⟩

end Answer

/-! ## A sign-in and its cookie -/

/-- Whether an answer of the store of accounts names the account. -/
def namesAccount : HostEvent → Bool
  | ⟨.getAccount userId, .ok (some account)⟩ => account.id = userId
  | ⟨.createForSubject subject _ _, .ok account⟩ => account.id = subject
  | ⟨.setRole userId _, .ok account⟩ => account.id = userId
  | _ => true

theorem namesAccount_iff {e : HostEvent} : namesAccount e = true ↔ NamesAccount e := by
  unfold namesAccount NamesAccount
  split <;> simp

theorem boundPlatform_digests : HmacDigests boundPlatform := fun _ _ => List.length_replicate

/-- A host that mints session ids of 136 characters. -/
def longIdHost : HostState → (c : HostCall) → Except Exn c.Answer × HostState
  | s, .create userId now expiresAt refreshToken idToken =>
    (.ok ⟨List.replicate 136 (chr 'i'), ⟨userId, [], []⟩, now, expiresAt, refreshToken, idToken⟩, s)
  | s, c => demoHost signInScript s c

/-- The callback of an app whose root path is a surrogate. -/
def strayCallback : Scope := { boundCallback with rootPath := [⟨0xdc80, by decide⟩] }

/-- Whether the sign-in transaction has exited normally after its block returned. -/
def leavesSignIn : HostEvent → Bool
  | ⟨.leave .signIn true, .ok _⟩ => true
  | _ => false

theorem mem_of_leavesSignIn {es : List HostEvent} (h : es.any leavesSignIn = true) :
    (⟨.leave .signIn true, .ok ()⟩ : HostEvent) ∈ es := by
  obtain ⟨e, he, hleaves⟩ := List.any_eq_true.1 h
  unfold leavesSignIn at hleaves
  split at hleaves
  · exact he
  · cases hleaves

/-- What a callback raises once it has taken its login. -/
def raisedIn : Except Exn Routed → Option Exn
  | .ok (.answer answer) =>
    match answer.outcome with
    | .error e => some e
    | .ok _ => none
  | _ => none

/-- A run of the callback in which the transaction exits normally and which then answers no session:
what it raises leaves with the plain server error. -/
def RaisesAfterExit (back : Scope) (e : Exn) : Prop :=
  ∃ es answer, Path (cappedRoutes.callback boundPlatform back) es (.ok (.answer answer)) ∧
    (⟨.leave .signIn true, .ok ()⟩ : HostEvent) ∈ es ∧ answer.outcome = .error e

theorem raisesAfterExit_of_play {back : Scope} {e : Exn}
    {host : HostState → (c : HostCall) → Except Exn c.Answer × HostState} {s : HostState}
    (hleft : (play host (cappedRoutes.callback boundPlatform back) s).1.any leavesSignIn = true)
    (hraised : raisedIn (play host (cappedRoutes.callback boundPlatform back) s).2 = some e) :
    RaisesAfterExit back e := by
  have hpath := path_play (I := hostCalls) host (cappedRoutes.callback boundPlatform back) s
  generalize play host (cappedRoutes.callback boundPlatform back) s = run at hleft hraised hpath
  obtain ⟨es, e' | response | answer⟩ := run
  · cases hraised
  · cases hraised
  · refine ⟨es, answer, hpath, mem_of_leavesSignIn hleft, ?_⟩
    cases houtcome : answer.outcome with
    | error e' =>
      simp only [raisedIn, houtcome] at hraised
      rw [Option.some.inj hraised]
    | ok response =>
      simp only [raisedIn, houtcome] at hraised
      cases hraised

end WebAuth
