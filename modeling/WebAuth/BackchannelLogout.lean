import WebAuth.StoreEntries

/-!
# The logout the issuer orders

The back-channel route answers 200 when the request is a form with one logout token that verifies,
and the one entry that ends the subject's sessions exits cleanly. Whatever else happens, a host that
rolls back stores what it stored before.
-/

namespace WebAuth

open Python Effects Program

/-! ## What the route asks of a request -/

/-- A body is a form in strict UTF-8 with one `logout_token`, which is not empty. -/
def NamesOneToken (body : Bytes) (token : Str) : Prop :=
  ∃ text fields, decode strict body = some text ∧ parseQsl true strict text = some fields ∧
    fields.filter (fun field => field.1 = str "logout_token") = [(str "logout_token", token)] ∧
    token ≠ []

/-- The media type of a form. -/
abbrev formMediaType : Str := str "application/x-www-form-urlencoded"

theorem logoutTokenOf_eq_some {py : Platform} {body : Bytes} {contentType : Option Str}
    {token : Str} : logoutTokenOf py body contentType = some token ↔
      mediaTypeOf py contentType = formMediaType ∧ NamesOneToken body token := by
  unfold logoutTokenOf NamesOneToken
  by_cases hmedia : mediaTypeOf py contentType = formMediaType
  · rw [if_neg (not_not.2 hmedia)]
    cases htext : decode strict body with
    | none => simp
    | some text =>
      cases hfields : parseQsl true strict text with
      | none => simp [hfields]
      | some fields =>
        simp only [Option.bind_some, hfields, hmedia, true_and, Option.some.injEq]
        constructor
        · intro h
          split at h
          · rename_i value hvalue
            obtain ⟨⟨name, _⟩, hfield, rfl⟩ := List.map_eq_singleton_iff.1 hvalue
            split_ifs at h with hne
            obtain rfl := Option.some.inj h
            have hmem : (name, _) ∈ fields.filter fun field => field.1 = str "logout_token" :=
              hfield ▸ List.mem_singleton_self _
            obtain rfl : name = str "logout_token" := of_decide_eq_true (List.mem_filter.1 hmem).2
            exact ⟨text, fields, rfl, hfields, hfield, hne⟩
          · cases h
        · rintro ⟨_, _, rfl, hfields', hfield, hne⟩
          obtain rfl := Option.some.inj (hfields.symm.trans hfields')
          rw [hfield]
          simp [hne]
  · rw [if_pos hmedia]
    simp [hmedia]

/-- The calls `es` read a request whose form and token hold, and go on with `rest`. -/
structure LogoutAccepted (py : Platform) (scope : Scope) (es rest : List HostEvent)
    (subject : Str) : Prop where
  read : ∃ body rp token verification,
    es = ⟨.requestBody, .ok body⟩ :: ⟨.relyingParty scope, .ok rp⟩ :: (verification ++ rest) ∧
      mediaTypeOf py (scope.header (str "content-type")) = formMediaType ∧
      NamesOneToken body token ∧
      Path (rp.verifyLogoutToken py token) verification (.ok (.ok subject))

/-- The status a route's answer starts with. -/
def Routed.status : Routed → ℕ
  | .response sent => sent.status
  | .answer routed =>
    match routed.outcome with
    | .ok sent => sent.status
    | .error _ => routed.failureAnswer.status

/-- The route answers, and with 200. -/
def Answers200 (r : Except Exn Routed) : Prop := ∃ routed, r = .ok routed ∧ routed.status = 200

/-- What the route makes of the end of `_receive_backchannel_logout`. -/
def logoutAnswer : Except Exn Bool → Except Exn Routed
  | .ok true => .ok (.response {})
  | .ok false => .ok (.response emptyBadRequest)
  | .error e => .ok (.answer ⟨{}, .error e, emptyBadRequest⟩)

/-- How a run of the route goes: it reaches no transaction, or the form and the token hold and the
entry does not open, or it is made. -/
inductive LogoutCourse (py : Platform) (scope : Scope) :
    List HostEvent → Except Exn Routed → Prop
  | quiet {es r} (calls : ∀ e ∈ es, e.call.Quiet) (refused : ¬Answers200 r) :
      LogoutCourse py scope es r
  | unopened {es subject e}
      (accepted : LogoutAccepted py scope es [⟨.enter .signIn, .error e⟩] subject) :
      LogoutCourse py scope es (logoutAnswer (.error e))
  | entered {es rest subject r exit}
      (accepted : LogoutAccepted py scope es rest subject)
      (entry : Entry .signIn (endSessionsOf subject) rest r exit) :
      LogoutCourse py scope es (logoutAnswer ((afterExit r exit).map fun _ => true))

section Route

variable {py : Platform} {scope : Scope} {es : List HostEvent}

theorem of_only {α : Type} (owner : ℕ) (p : Verification α) :
    Only HostCall.Quiet (p.of owner) := by
  induction p with
  | ret a => trivial
  | raise e => trivial
  | call c next ih => exact ⟨trivial, fun ans => ih ans⟩

theorem verifyLogoutToken_quiet (rp : OidcRelyingParty) (token : Str) :
    Only HostCall.Quiet (rp.verifyLogoutToken py token) := by
  refine Only.bind (of_only _ _) fun outcome => ?_
  cases outcome with
  | error reason => trivial
  | ok claims =>
    have hprofile : Only HostCall.Quiet (rp.isLogoutProfile claims) :=
      Only.bind ⟨trivial, only_done⟩ fun now => Only.bind (only_done _) fun age => trivial
    refine Only.bind hprofile fun profile => ?_
    split
    · cases claims.subject <;> trivial
    · trivial

/-- **What a run of the route does.** -/
theorem backchannelLogout_path {r : Except Exn Routed}
    (h : Path (SignIn.backchannelLogout py scope) es r) : LogoutCourse py scope es r := by
  unfold SignIn.backchannelLogout at h
  obtain ⟨body, rest, rfl, hbody⟩ := path_perform_andThen.1 h
  cases body with
  | error e =>
    obtain ⟨rfl, rfl⟩ := hbody
    exact .quiet (by simp [HostCall.Quiet]) (by rintro ⟨_, ⟨⟩, _⟩)
  | ok body =>
    obtain ⟨inner, last, r₁, rfl, hinner, hanswer⟩ := path_andThen.1 hbody
    obtain ⟨rp, tail, rfl, hreceive⟩ := path_perform_andThen.1 hinner
    have hlast : last = [] ∧ r = logoutAnswer r₁ := by
      rcases r₁ with e | _ | _ <;> exact hanswer
    obtain ⟨rfl, rfl⟩ := hlast
    rw [List.append_nil]
    cases rp with
    | error e =>
      obtain ⟨rfl, rfl⟩ := hreceive
      exact .quiet (by simp [HostCall.Quiet]) (by rintro ⟨_, ⟨⟩, ⟨⟩⟩)
    | ok rp =>
      replace hreceive : Path (receiveBackchannelLogout py rp body
        (scope.header (str "content-type"))) tail r₁ := hreceive
      unfold receiveBackchannelLogout at hreceive
      cases htoken : logoutTokenOf py body (scope.header (str "content-type")) with
      | none =>
        rw [htoken] at hreceive
        obtain ⟨rfl, rfl⟩ := hreceive
        exact .quiet (by simp [HostCall.Quiet]) (by rintro ⟨_, ⟨⟩, ⟨⟩⟩)
      | some token =>
        rw [htoken] at hreceive
        obtain ⟨verification, rest, outcome, rfl, hverify, hafter⟩ := path_andThen.1 hreceive
        have hquiet : ∀ e ∈ (⟨.requestBody, .ok body⟩ : HostEvent) ::
            ⟨.relyingParty scope, .ok rp⟩ :: verification, e.call.Quiet := by
          simp only [List.forall_mem_cons]
          exact ⟨trivial, trivial, (verifyLogoutToken_quiet rp token).path hverify⟩
        rcases outcome with e | refusal | subject
        · obtain ⟨rfl, rfl⟩ := hafter
          rw [List.append_nil]
          exact .quiet hquiet (by rintro ⟨_, ⟨⟩, ⟨⟩⟩)
        · obtain ⟨rfl, rfl⟩ := hafter
          rw [List.append_nil]
          exact .quiet hquiet (by rintro ⟨_, ⟨⟩, ⟨⟩⟩)
        · obtain ⟨hmedia, hform⟩ := logoutTokenOf_eq_some.1 htoken
          obtain ⟨entry, none, rw, rfl, hwithin, hreturn⟩ := path_andThen.1 hafter
          have hnone : none = [] ∧ r₁ = rw.map fun _ => true := by
            cases rw <;> exact hreturn
          obtain ⟨rfl, rfl⟩ := hnone
          rw [List.append_nil]
          have haccepted : LogoutAccepted py scope (⟨.requestBody, .ok body⟩ ::
              ⟨.relyingParty scope, .ok rp⟩ :: (verification ++ entry)) entry subject :=
            ⟨body, rp, token, verification, rfl, hmedia, hform, hverify⟩
          rcases within_path hwithin with ⟨e, rfl, rfl⟩ | ⟨rb, exit, hentry, rfl⟩
          · exact .unopened haccepted
          · exact .entered haccepted hentry

end Route

/-! ## What the entry does -/

/-- The event of a back-channel logout. -/
def backchannelLogoutOf (subject : Str) : AccountEvent :=
  { kind := .backchannelLogout, actorId := none, subjectId := subject }

/-- The sessions of the account a subject names are gone, and one event says so when there was one.
Nothing else changed, and nothing at all for a subject without an account. -/
structure LogsOut (subject : Str) (s s' : Stores) : Prop where
  accounts : s'.accounts = s.accounts
  sessions : s'.sessions = s.sessions.filter fun session =>
    ¬((s.accounts subject).isSome ∧ session.userId = subject)
  events : s'.events = s.events ++
    if (s.accounts subject).isSome ∧ ∃ session ∈ s.sessions, session.userId = subject then
      [backchannelLogoutOf subject]
    else []

section Entry

variable {subject : Str} {es : List HostEvent} {s s' : Stores}

theorem endSessionsOf_inside (subject : Str) : Only HostCall.Inside (endSessionsOf subject) := by
  refine Only.bind ⟨trivial, only_done⟩ fun found => ?_
  cases found with
  | none => trivial
  | some account =>
    refine Only.bind ⟨trivial, only_done⟩ fun ended => ?_
    split
    · exact ⟨trivial, only_done⟩
    · trivial

theorem endSessionsOf_steps (h : Path (endSessionsOf subject) es (.ok ()))
    (hsteps : Steps storeCalls s es s') : LogsOut subject s s' := by
  unfold endSessionsOf at h
  obtain ⟨found, es₁, s₁, rfl, ⟨rfl, hfound⟩, hA, hsteps₁⟩ := perform_bind_ok h hsteps
  cases found with
  | none =>
    obtain ⟨rfl, -⟩ := hA
    obtain rfl := steps_nil.1 hsteps₁
    refine ⟨rfl, ?_, ?_⟩ <;> simp [← hfound]
  | some account =>
    obtain rfl : account.id = subject := s₁.accounts_id _ _ hfound.symm
    obtain ⟨ended, es₂, s₂, rfl, ⟨hended, rfl⟩, hB, hsteps₂⟩ := perform_bind_ok hA hsteps₁
    have hany : (∃ session ∈ s₁.sessions, session.userId = account.id) ↔ ended ≠ 0 := by
      rw [hended, Nat.cast_ne_zero, ← Nat.pos_iff_ne_zero, List.length_pos_iff_exists_mem]
      simp [sessionsOf]
    have hkept : (s₁.keeping fun session => session.userId ≠ account.id).sessions =
        s₁.sessions.filter fun session =>
          ¬((s₁.accounts account.id).isSome ∧ session.userId = account.id) := by
      simp [Stores.keeping, ← hfound]
    by_cases hzero : ended = 0
    · rw [if_neg (not_not.2 hzero)] at hB
      obtain ⟨rfl, -⟩ := hB
      obtain rfl := steps_nil.1 hsteps₂
      refine ⟨rfl, hkept, ?_⟩
      rw [if_neg (fun h => hany.1 h.2 hzero)]
      exact (List.append_nil _).symm
    · rw [if_pos hzero] at hB
      obtain ⟨rfl, hevent⟩ := perform_steps hB hsteps₂
      obtain rfl : s' = _ := hevent
      refine ⟨rfl, hkept, ?_⟩
      rw [if_pos ⟨by simp [← hfound], hany.2 hzero⟩]
      rfl

end Entry

/-! ## The route -/

/-- A host that rolls back: an exception that passes an entry's exit leaves what the entry found. -/
def rolledBack (_ : Bool) (before _ after : Stores) : Prop := after = before

section Decision

variable {py : Platform} {scope : Scope} {es rest : List HostEvent} {subject : Str}
  {s s' : HostState}

theorem answers200_logoutAnswer {r : Except Exn Bool} :
    Answers200 (logoutAnswer r) ↔ r = .ok true := by
  constructor
  · rintro ⟨routed, hr, hstatus⟩
    rcases r with e | _ | _
    · cases hr
      cases hstatus
    · cases hr
      cases hstatus
    · rfl
  · rintro rfl
    exact ⟨_, rfl, rfl⟩

/-- What reads an accepted request is quiet. -/
theorem LogoutAccepted.front (h : LogoutAccepted py scope es rest subject) :
    ∃ front, es = front ++ rest ∧ ∀ e ∈ front, e.call.Quiet := by
  obtain ⟨body, rp, token, verification, rfl, -, -, hverify⟩ := h.read
  refine ⟨⟨.requestBody, .ok body⟩ :: ⟨.relyingParty scope, .ok rp⟩ :: verification, rfl, ?_⟩
  simp only [List.forall_mem_cons]
  exact ⟨trivial, trivial, (verifyLogoutToken_quiet rp token).path hverify⟩

/-- An entry's calls do not all reach no store. -/
theorem Entry.not_idle {α : Type} {transaction : Transaction} {block : Task α}
    {r : Except Exn α} {exit : Except Exn Unit} (h : Entry transaction block rest r exit)
    {front : List HostEvent} (hidle : ∀ e ∈ front ++ rest, Idle e) : False := by
  obtain ⟨inner, rfl, -⟩ := h.split
  rcases hidle ⟨.enter transaction, .ok ()⟩ (by simp) with hquiet | ⟨_, _, heq⟩
  · exact hquiet
  · cases heq

/-- An entry is left once. -/
theorem Entry.leave_eq {α : Type} {transaction : Transaction} {block : Task α}
    {r : Except Exn α} {exit : Except Exn Unit} (h : Entry transaction block rest r exit)
    (hblock : Only HostCall.Inside block) {transaction' : Transaction} {b : Bool}
    {ans : Except Exn Unit} (hmem : ⟨.leave transaction' b, ans⟩ ∈ rest) :
    b = returned r ∧ ans = exit := by
  obtain ⟨inner, rfl, hpath⟩ := h.split
  rcases List.mem_cons.1 hmem with heq | hmem
  · cases heq
  rcases List.mem_append.1 hmem with hinner | hlast
  · exact (hblock.path hpath _ hinner).elim
  · cases List.mem_singleton.1 hlast
    exact ⟨rfl, rfl⟩

/-- **The issuer's logout, end to end.** -/
theorem backchannel_logout_decision {r : Except Exn Routed}
    (h : Path (SignIn.backchannelLogout py scope) es r)
    (hsteps : Steps (hostStores rolledBack) s es s') :
    (Answers200 r ↔ ∃ subject rest, LogoutAccepted py scope es rest subject ∧
      Entry .signIn (endSessionsOf subject) rest (.ok ()) (.ok ())) ∧
    (∀ subject rest, LogoutAccepted py scope es rest subject →
      Entry .signIn (endSessionsOf subject) rest (.ok ()) (.ok ()) →
      LogsOut subject s.now s'.now) ∧
    ((∃ e ∈ es, ∃ transaction, e.call = .enter transaction) →
      ∃ subject rest, LogoutAccepted py scope es rest subject) ∧
    (¬Answers200 r → s'.now = s.now) := by
  have hcourse := backchannelLogout_path h
  refine ⟨⟨fun hyes => ?_, ?_⟩, ?_, ?_, fun hno => ?_⟩
  · cases hcourse with
    | quiet _ hrefused => exact absurd hyes hrefused
    | unopened => cases answers200_logoutAnswer.1 hyes
    | @entered rest subject r exit haccepted hentry =>
      have hended := answers200_logoutAnswer.1 hyes
      rcases exit with e | _
      · cases hended
      rcases r with e | _
      · cases hended
      exact ⟨subject, rest, haccepted, hentry⟩
  · rintro ⟨subject, rest, haccepted, hentry⟩
    obtain ⟨front, hfront, hquiet⟩ := haccepted.front
    cases hcourse with
    | quiet hcalls =>
      rw [hfront] at hcalls
      exact (hentry.not_idle fun e he => .inl (hcalls e he)).elim
    | @unopened subject' e haccepted' =>
      obtain ⟨front', hfront', hquiet'⟩ := haccepted'.front
      have hidle : ∀ e' ∈ front ++ rest, Idle e' := by
        intro e' he'
        rw [← hfront, hfront'] at he'
        rcases List.mem_append.1 he' with he' | he'
        · exact .inl (hquiet' e' he')
        · exact .inr ⟨_, _, List.mem_singleton.1 he'⟩
      exact (hentry.not_idle hidle).elim
    | @entered rest' subject' r exit haccepted' hentry' =>
      obtain ⟨front', hfront', hquiet'⟩ := haccepted'.front
      have hmem : (⟨.leave .signIn true, .ok ()⟩ : HostEvent) ∈ rest' := by
        have hes : (⟨.leave .signIn true, .ok ()⟩ : HostEvent) ∈ front' ++ rest' := by
          obtain ⟨inner, hrest, -⟩ := hentry.split
          rw [← hfront', hfront, hrest]
          simp [returned]
        rcases List.mem_append.1 hes with hin | hin
        · exact (hquiet' _ hin).elim
        · exact hin
      obtain ⟨hreturned, rfl⟩ := hentry'.leave_eq (endSessionsOf_inside subject') hmem
      rcases r with e | _
      · cases hreturned
      exact answers200_logoutAnswer.2 rfl
  · intro subject rest haccepted hentry
    obtain ⟨front, rfl, hquiet⟩ := haccepted.front
    obtain ⟨s₁, hfront, hrest⟩ := steps_append.1 hsteps
    obtain rfl := steps_idle (fun e he => .inl (hquiet e he)) hfront
    obtain ⟨inner, made, hpath, hmade, hexit⟩ := hentry.effect (endSessionsOf_inside subject) hrest
    rw [if_pos ⟨rfl, rfl⟩] at hexit
    rw [hexit]
    exact endSessionsOf_steps hpath hmade
  · rintro ⟨e, he, transaction, henter⟩
    cases hcourse with
    | quiet hcalls =>
      have hquiet := hcalls e he
      rw [henter] at hquiet
      exact hquiet.elim
    | unopened haccepted => exact ⟨_, _, haccepted⟩
    | entered haccepted => exact ⟨_, _, haccepted⟩
  · cases hcourse with
    | quiet hcalls => rw [steps_idle (fun e he => .inl (hcalls e he)) hsteps]
    | unopened haccepted =>
      obtain ⟨front, rfl, hquiet⟩ := haccepted.front
      rw [steps_idle (fun e he => ?_) hsteps]
      rcases List.mem_append.1 he with he | he
      · exact .inl (hquiet e he)
      · exact .inr ⟨_, _, List.mem_singleton.1 he⟩
    | @entered rest subject r exit haccepted hentry =>
      obtain ⟨front, rfl, hquiet⟩ := haccepted.front
      obtain ⟨s₁, hfront, hrest⟩ := steps_append.1 hsteps
      obtain rfl := steps_idle (fun e he => .inl (hquiet e he)) hfront
      obtain ⟨inner, made, hpath, hmade, hexit⟩ :=
        hentry.effect (endSessionsOf_inside subject) hrest
      rw [if_neg ?_] at hexit
      · exact hexit
      · rintro ⟨hreturned, rfl⟩
        rcases r with e | _
        · cases hreturned
        exact hno (answers200_logoutAnswer.2 rfl)

end Decision

/-! ## A run -/

/-- A host with one account, `"u"`, and one session of it. -/
def oneSession : Stores where
  accounts := Function.update (fun _ => none) (str "u") (some demoRow.user)
  sessions := [⟨str "s", str "u", demoRow.createdAt, demoRow.expiresAt, none, none⟩]
  events := []
  accounts_id id account h := by
    by_cases hid : id = str "u"
    · subst hid
      rw [Function.update_self] at h
      exact Option.some.inj h ▸ rfl
    · rw [Function.update_of_ne hid] at h
      cases h
  sessions_nodup := by simp

/-- A form posted to the back-channel route. -/
def logoutScope : Scope where
  type := str "http"
  app := none
  method := some (str "POST")
  path := str "/auth/backchannel-logout"
  rawPath := none
  rootPath := []
  queryString := []
  urlQuery := some []
  queryParams := []
  headers := [(encodeLatin1 (str "content-type"),
    encodeLatin1 (str "application/x-www-form-urlencoded"))]

/-- The surroundings of that request. -/
def logoutScript : HostScript :=
  ⟨encodeLatin1 (str "logout_token=l"), demoRelyingParty, ⟨500, []⟩, 100⟩

/-- What the host does with it. -/
def playedLogout : List HostEvent × Except Exn Routed :=
  play (demoHost logoutScript) (SignIn.backchannelLogout logoutPlatform logoutScope)
    ⟨oneSession, oneSession⟩

theorem backchannel_logout_decision_of_token :
    ∃ r s' subject, Answers200 r ∧ LogsOut subject oneSession s' := by
  have hpath : Path (SignIn.backchannelLogout logoutPlatform logoutScope) playedLogout.1
      playedLogout.2 := path_play _ _ _
  have hallowed : ∀ s c, hostStores rolledBack s c (demoHost logoutScript s c).1
      (demoHost logoutScript s c).2 := demoHost_allowed (fun _ _ => rfl) logoutScript
  obtain ⟨s', hsteps⟩ : ∃ s', Steps (hostStores rolledBack) ⟨oneSession, oneSession⟩
      playedLogout.1 s' := ⟨_, steps_play hallowed _ _⟩
  obtain ⟨hanswers, hlogs, -, -⟩ := backchannel_logout_decision hpath hsteps
  have hstatus : playedLogout.2.toOption.map Routed.status = some 200 := by decide +kernel
  have h200 : Answers200 playedLogout.2 := by
    cases hr : playedLogout.2 with
    | error e =>
      rw [hr] at hstatus
      cases hstatus
    | ok routed =>
      rw [hr] at hstatus
      exact ⟨routed, rfl, Option.some.inj hstatus⟩
  obtain ⟨subject, rest, haccepted, hentry⟩ := hanswers.1 h200
  exact ⟨_, _, subject, h200, hlogs subject rest haccepted hentry⟩

end WebAuth
