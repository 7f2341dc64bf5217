import WebAuth.GrantRuns

/-!
# The calls that ask the issuer, from end to end

`fresh_access_token` and `current_groups` share their shape: the row's evidence, a refresh grant with
it, and the rotation kept. Here the grants are verified, and then each call as a whole: the stretches
of calls it is made of, and how it ends for what they answered.
-/

namespace WebAuth

open Python Effects Program

variable {P : HostEvent → Prop} {ok : List HostEvent → HostCall → Prop} {es : List HostEvent}
  {py : Platform} {rp : OidcRelyingParty}

/-! ## The exchange -/

/-- What `_token_answer` makes of the answer to its request. -/
def readPosted (py : Platform) : Except Exn TokenEndpointAnswer → Except Exn Dict
  | .ok answer => readTokenAnswer py answer
  | .error .tokenEndpointError => refusal .tokenEndpointFailed
  | .error e => .error e

/-- A refusal is answered, every other exception passes through. -/
def answered {α : Type} : Except Exn α → Except Exn (Except OidcRefusal α)
  | .ok a => .ok (.ok a)
  | .error (.refusalError cause) => .ok (.error cause)
  | .error e => .error e

/-- A method that answers its refusal ends with what it ended with inside, answered. -/
theorem answered_task {α : Type} (p : Task α) :
    tryCatch (do return .ok (← p)) answeredRefusal = p.andThen fun r => done (answered r) := by
  rw [tryCatch_eq, bind_eq, andThen_assoc]
  congr 1
  funext r
  rcases r with e | a
  · cases e <;> rfl
  · rfl

theorem answered_ensures {α : Type} {p : Task α}
    {Q : Except Exn (Except OidcRefusal α) → List HostEvent → Prop}
    (hp : Ensures (record fun _ e => P e) ok p es fun r es' => Q (answered r) es') :
    Ensures (record fun _ e => P e) ok
      (tryCatch (do return .ok (← p)) answeredRefusal) es Q := by
  rw [answered_task, ensures_andThen]
  exact hp.mono fun r es' h => ensures_done.2 h

theorem answered_path {α : Type} {p : Task α} {r : Except Exn (Except OidcRefusal α)} :
    Path (tryCatch (do return .ok (← p)) answeredRefusal) es r ↔
      ∃ r', Path p es r' ∧ r = answered r' := by
  rw [answered_task, path_andThen]
  constructor
  · rintro ⟨es₁, es₂, r', rfl, hp, hdone⟩
    obtain ⟨rfl, hr⟩ := path_done.1 hdone
    exact ⟨r', by rwa [List.append_nil], hr⟩
  · rintro ⟨r', hp, hr⟩
    exact ⟨es, [], r', (List.append_nil es).symm, hp, path_done.2 ⟨rfl, hr⟩⟩

theorem tokenAnswer_ensures {request : TokenRequest} {Q : Except Exn Dict → List HostEvent → Prop}
    (hok : ok es (.postTokenRequest request))
    (h : ∀ ans, P ⟨.postTokenRequest request, ans⟩ →
      Q (readPosted py ans) (es ++ [⟨.postTokenRequest request, ans⟩])) :
    Ensures (record fun _ e => P e) ok (tokenAnswer py request) es Q := by
  simp only [tokenAnswer, invoke_eq, bind_eq, tryCatch_eq, call_andThen, done_andThen,
    ensures_record_call]
  refine ⟨hok, ?_⟩
  rintro (e | answer) hans
  · have := h _ hans
    cases e <;> exact this
  · simp only [onRaise_ok, ret_andThen, onReturn_ok, liftM_eq, ensures_done]
    exact h _ hans

theorem readTokenAnswer_eq_ok {answer : TokenEndpointAnswer} {document : Dict}
    (h : readTokenAnswer py answer = .ok document) :
    answer.status = 200 ∧ document = tokenAnswerDocument py answer.body := by
  unfold readTokenAnswer at h
  by_cases hstatus : answer.status = 200
  · rw [if_pos hstatus] at h
    cases h
    exact ⟨hstatus, rfl⟩
  · rw [if_neg hstatus] at h
    split at h
    · split at h <;> cases h
    · cases h

/-- The calls of an exchange with the refresh token `sent`, and what was read from its answer. -/
inductive Exchanged (py : Platform) (rp : OidcRelyingParty) (sent : Str) :
    List HostEvent → Except Exn Dict → Prop
  | unfit (malformed : isRefreshToken sent = false) :
      Exchanged py rp sent [] (refusal .tokenEndpointFailed)
  | posted ans (wellFormed : isRefreshToken sent = true) :
      Exchanged py rp sent [⟨.postTokenRequest (rp.refreshGrant sent), ans⟩] (readPosted py ans)

theorem refreshAnswer_ensures {sent : Str} {Q : Except Exn Dict → List HostEvent → Prop}
    (hok : ok es (.postTokenRequest (rp.refreshGrant sent)))
    (h : ∀ tr r, Exchanged py rp sent tr r → (∀ e ∈ tr, P e) → Q r (es ++ tr)) :
    Ensures (record fun _ e => P e) ok (rp.refreshAnswer py sent) es Q := by
  unfold OidcRelyingParty.refreshAnswer
  cases hsent : isRefreshToken sent with
  | false =>
    have := h [] _ (.unfit hsent) (by simp)
    rw [List.append_nil] at this
    exact this
  | true =>
    exact tokenAnswer_ensures hok fun ans hans => h _ _ (.posted ans hsent) (by simpa using hans)

/-- The calls between the two transactions. -/
def HostCall.AsksIssuer : HostCall → Prop
  | wallClock => True
  | postTokenRequest _ => True
  | verifier _ _ => True
  | _ => False

theorem loads_of_asks {tr : List HostEvent} (h : ∀ e ∈ tr, e.call.AsksIssuer) : loads tr = [] := by
  refine loads_eq_nil ?_
  rintro ⟨c, ans⟩ he
  have := h _ he
  cases c <;> first | rfl | exact this.elim

theorem rowWrites_of_asks {tr : List HostEvent} (h : ∀ e ∈ tr, e.call.AsksIssuer) :
    rowWrites tr = [] := by
  refine rowWrites_eq_nil ?_
  rintro ⟨c, ans⟩ he
  have := h _ he
  cases c <;> first | rfl | exact this.elim

theorem Exchanged.asks {sent : Str} {tr : List HostEvent} {r : Except Exn Dict}
    (h : Exchanged py rp sent tr r) : ∀ e ∈ tr, e.call.AsksIssuer := by
  cases h with
  | unfit => simp
  | posted ans => simp [HostCall.AsksIssuer]

/-- An exchange that yielded a document was answered once, with status 200. -/
theorem Exchanged.posts {sent : Str} {tr : List HostEvent} {document : Dict}
    (h : Exchanged py rp sent tr (.ok document)) :
    ∃ answer, answer.status = 200 ∧ document = tokenAnswerDocument py answer.body ∧
      exchanges tr = [(rp.refreshGrant sent, .ok answer)] := by
  generalize hr : (Except.ok document : Except Exn Dict) = r at h
  cases h with
  | unfit => cases hr
  | posted ans =>
    have h := hr.symm
    cases ans with
    | error e => cases e <;> cases h
    | ok answer =>
      obtain ⟨hstatus, rfl⟩ := readTokenAnswer_eq_ok h
      exact ⟨answer, hstatus, rfl, rfl⟩

/-! ## The two grants -/

/-- What `_renewed_access` reads from an answer. -/
def renewedOf (document : Dict) : Except Exn RenewedAccess := do
  let accessToken ← bearerAccessToken document
  let rotated ← issuedRefreshToken document
  return ⟨accessToken, rotated⟩

/-- The reading of an answer, as the last part of `_renewed_access`. -/
def readRenewed (document : Dict) : Task RenewedAccess := do
  let accessToken ← bearerAccessToken document
  let rotated ← issuedRefreshToken document
  return ⟨accessToken, rotated⟩

theorem readRenewed_eq (document : Dict) : readRenewed document = done (renewedOf document) := by
  unfold readRenewed renewedOf
  cases bearerAccessToken document with
  | error e => rfl
  | ok accessToken => cases issuedRefreshToken document <;> rfl

/-- The calls of `renew_access` and what it answers. -/
inductive Renews (py : Platform) (rp : OidcRelyingParty) (sent : Str) :
    List HostEvent → Except Exn (Except OidcRefusal RenewedAccess) → Prop
  | mk {tr r} (exchanged : Exchanged py rp sent tr r) :
      Renews py rp sent tr (answered (r.bind renewedOf))

theorem renewAccess_ensures {sent : Str}
    {Q : Except Exn (Except OidcRefusal RenewedAccess) → List HostEvent → Prop}
    (hok : ok es (.postTokenRequest (rp.refreshGrant sent)))
    (h : ∀ tr r, Renews py rp sent tr r → (∀ e ∈ tr, P e) → Q r (es ++ tr)) :
    Ensures (record fun _ e => P e) ok (rp.renewAccess py sent) es Q := by
  refine answered_ensures ?_
  unfold OidcRelyingParty.renewedAccess
  rw [bind_eq, ensures_andThen]
  refine refreshAnswer_ensures hok fun tr r hex hP => ?_
  have := h tr _ (.mk hex) hP
  cases r with
  | error e => exact this
  | ok document =>
    show Ensures _ _ (readRenewed document) _ _
    rw [readRenewed_eq, ensures_done]
    exact this

/-- What `_verified_id_token` makes of a verification. -/
def idTokenOf : Except Exn (Except RejectionReason VerifiedClaims) → Except Exn VerifiedClaims
  | .ok (.ok claims) => .ok claims
  | .ok (.error reason) =>
    .error (.refusalError { reason := .idTokenRejected, tokenRejection := some reason })
  | .error e => .error e

/-- The calls of `_refreshed_id_token_groups` and what it yields. -/
inductive ChecksGroups (py : Platform) (rp : OidcRelyingParty) (document : Dict) (subject : Str)
    (startedAt : ℤ) : List HostEvent → Except Exn (List Str) → Prop
  | unnamed {e} (missing : rawIdTokenOf document = .error e) :
      ChecksGroups py rp document subject startedAt [] (.error e)
  | verified {raw steps r} (named : rawIdTokenOf document = .ok raw)
      (verification : Path (verify py (rp.verifierFor rp.config.clientId) raw .any) steps r) :
      ChecksGroups py rp document subject startedAt (steps.map (verifierEvent rp.jwtVerifier))
        ((idTokenOf r).bind fun idToken => rp.checkedGroups idToken subject startedAt)

theorem verifiedIdToken_ensures {raw : Str}
    {Q : Except Exn VerifiedClaims → List HostEvent → Prop}
    (hok : ∀ es' step, ok es' (.verifier rp.jwtVerifier step))
    (h : ∀ steps r, Path (verify py (rp.verifierFor rp.config.clientId) raw .any) steps r →
      (∀ e ∈ steps.map (verifierEvent rp.jwtVerifier), P e) →
      Q (idTokenOf r) (es ++ steps.map (verifierEvent rp.jwtVerifier))) :
    Ensures (record fun _ e => P e) ok (rp.verifiedIdToken py raw) es Q := by
  have hpath : Ensures (record fun _ _ => True) (fun _ _ => True)
      (verify py (rp.verifierFor rp.config.clientId) raw .any) [] _ := ensures_path
  simp only [OidcRelyingParty.verifiedIdToken, bind_eq, ensures_andThen]
  refine (Verification.of_ensures hpath (fun _ _ => trivial) fun es' c => hok _ c).mono ?_
  rintro r _ ⟨steps, rfl, hP, steps', heq, -, hverify⟩
  simp only [List.nil_append] at heq
  subst heq
  have := h steps r hverify (by simpa using hP)
  rcases r with e | reason | claims <;> exact this

theorem refreshedIdTokenGroups_ensures {document : Dict} {subject : Str} {startedAt : ℤ}
    {Q : Except Exn (List Str) → List HostEvent → Prop}
    (hok : ∀ es' step, ok es' (.verifier rp.jwtVerifier step))
    (h : ∀ tr r, ChecksGroups py rp document subject startedAt tr r → (∀ e ∈ tr, P e) →
      Q r (es ++ tr)) :
    Ensures (record fun _ e => P e) ok (rp.refreshedIdTokenGroups py document subject startedAt)
      es Q := by
  simp only [OidcRelyingParty.refreshedIdTokenGroups, bind_eq, liftM_eq, done_andThen]
  cases hraw : rawIdTokenOf document with
  | error e =>
    have := h [] _ (.unnamed hraw) (by simp)
    rw [List.append_nil] at this
    exact this
  | ok raw =>
    simp only [onReturn_ok, ensures_andThen]
    refine verifiedIdToken_ensures hok fun steps r hverify hP => ?_
    have := h _ _ (.verified hraw hverify) hP
    cases hid : idTokenOf r with
    | error e =>
      rw [hid] at this
      exact this
    | ok claims =>
      rw [hid] at this
      exact ensures_done.2 this

/-- The rotation of an answer. -/
def rotationOf (document : Dict) : Except Exn (Dict × Option Str) :=
  (issuedRefreshToken document).map fun rotated => (document, rotated)

/-- The calls of `_refreshed_groups` and what it answers. -/
inductive ReadsGroups (py : Platform) (rp : OidcRelyingParty) (sent subject : Str) :
    List HostEvent → Except Exn (Except OidcRefusal RefreshedGroups) → Prop
  | untimed e : ReadsGroups py rp sent subject [⟨.wallClock, .error e⟩] (.error e)
  | ungranted reading {tr r e} (exchanged : Exchanged py rp sent tr r)
      (unread : r.bind rotationOf = .error e) :
      ReadsGroups py rp sent subject (⟨.wallClock, .ok reading⟩ :: tr) (answered (.error e))
  | granted reading {tr tr' document rotated groups}
      (exchanged : Exchanged py rp sent tr (.ok document))
      (issued : issuedRefreshToken document = .ok rotated)
      (checked : ChecksGroups py rp document subject (truncate reading) tr' groups) :
      ReadsGroups py rp sent subject (⟨.wallClock, .ok reading⟩ :: (tr ++ tr'))
        ((answered groups).map fun groups => .ok ⟨rotated, groups⟩)

theorem refreshedGroups_ensures {sent subject : Str}
    {Q : Except Exn (Except OidcRefusal RefreshedGroups) → List HostEvent → Prop}
    (hclock : ok es .wallClock)
    (hpost : ∀ ans, ok (es ++ [⟨.wallClock, ans⟩]) (.postTokenRequest (rp.refreshGrant sent)))
    (hverify : ∀ es' step, ok es' (.verifier rp.jwtVerifier step))
    (h : ∀ tr r, ReadsGroups py rp sent subject tr r → (∀ e ∈ tr, P e) → Q r (es ++ tr)) :
    Ensures (record fun _ e => P e) ok (rp.refreshedGroups py sent subject) es Q := by
  simp only [OidcRelyingParty.refreshedGroups, invoke_eq, bind_eq, call_andThen, done_andThen,
    ensures_record_call]
  refine ⟨hclock, ?_⟩
  rintro (e | reading) hans
  · exact h _ _ (.untimed e) (by simpa using hans)
  simp only [onReturn_ok, ensures_andThen]
  refine answered_ensures ?_
  simp only [OidcRelyingParty.grantedRotation, bind_eq, ensures_andThen]
  refine refreshAnswer_ensures (hpost _) fun tr r hex hP => ?_
  have htimed : ∀ tr', (∀ e ∈ tr', P e) → ∀ e ∈ (⟨.wallClock, .ok reading⟩ :: tr' : List HostEvent),
      P e := fun tr' htr' => List.forall_mem_cons.2 ⟨hans, htr'⟩
  have hungranted : ∀ e, r.bind rotationOf = .error e →
      Q (answered (.error e)) (es ++ [⟨.wallClock, .ok reading⟩] ++ tr) := by
    intro e he
    have := h _ _ (.ungranted reading hex he) (htimed _ hP)
    simpa using this
  cases r with
  | error e =>
    have := hungranted e rfl
    cases e <;> exact this
  | ok document =>
    simp only [onReturn_ok, liftM_eq, done_andThen]
    cases hissued : issuedRefreshToken document with
    | error e =>
      have := hungranted e (by simp [Except.bind, rotationOf, hissued, Except.map])
      cases e <;> exact this
    | ok rotated =>
      simp only [onReturn_ok, pure_eq, ensures_ret, answered, ensures_andThen]
      refine answered_ensures (refreshedIdTokenGroups_ensures hverify fun tr' groups hcheck hP' => ?_)
      have hall : ∀ e ∈ tr ++ tr', P e := by
        intro e he
        rcases List.mem_append.1 he with he | he
        · exact hP e he
        · exact hP' e he
      have := h _ _ (.granted reading hex hissued hcheck) (htimed _ hall)
      rw [List.append_assoc, List.append_assoc, List.singleton_append]
      cases hgroups : answered groups with
      | error e =>
        rw [hgroups] at this
        exact this
      | ok groups =>
        rw [hgroups] at this
        exact this

/-! ## The calls as a whole -/

section Whole

variable {γ β : Type} {config : WebAuthConfig} {sessionId : Str}

/-- What both calls do: a grant with the row's evidence, and the rotation kept. -/
def askIssuer (config : WebAuthConfig) (sessionId : Str)
    (grant : StandingEvidence → Task (Except OidcRefusal γ)) (rotated : γ → Option Str)
    (yields : γ → Except OidcRefusal β) : Task (Except AccessTokenRefusal β) := do
  match ← evidenceOfStandingSession config sessionId with
  | .error cause => return .error cause
  | .ok held => do
    match ← grant held with
    | .error cause => return .error (refusalOfGrant cause)
    | .ok granted => do
      if ← keptAfterGrant config sessionId held.refreshToken (rotated granted) then
        match yields granted with
        | .error cause => return .error (refusalOfGrant cause)
        | .ok result => return .ok result
      else return .error sessionEnded

theorem freshAccessToken_eq : freshAccessToken py rp config sessionId =
    askIssuer config sessionId (fun held => rp.renewAccess py held.refreshToken)
      RenewedAccess.refreshToken fun renewed => .ok renewed.accessToken := by
  unfold freshAccessToken askIssuer
  congr 1
  funext read
  rcases read with cause | held
  · rfl
  dsimp only
  congr 1
  funext granted
  rcases granted with cause | renewed <;> rfl

theorem currentGroups_eq : currentGroups py rp config sessionId =
    askIssuer config sessionId (fun held => rp.refreshedGroups py held.refreshToken held.subject)
      RefreshedGroups.refreshToken RefreshedGroups.groups := by
  unfold currentGroups askIssuer
  congr 1
  funext read
  rcases read with cause | held
  · rfl
  dsimp only
  congr 1
  funext granted
  rcases granted with cause | ⟨rotated, cause | groups⟩ <;> rfl

/-- The calls of such a call from its first to its last, and how it ends. `asks` says the same of
its grant. -/
inductive Asked (P : HostEvent → Prop) (config : WebAuthConfig) (sessionId : Str)
    (asks : StandingEvidence → List HostEvent → Except Exn (Except OidcRefusal γ) → Prop)
    (rotated : γ → Option Str) (yields : γ → Except OidcRefusal β) :
    List HostEvent → Except Exn (Except AccessTokenRefusal β) → Prop
  | unread {tr e} (trace : ReadTrace P sessionId tr) (troubled : Troubled config tr) :
      Asked P config sessionId asks rotated yields tr (.error e)
  | unfit {tr row standing cause} (read : ReadsRow config sessionId tr row standing)
      (shows : evidenceOf standing = .error cause) :
      Asked P config sessionId asks rotated yields tr (.ok (.error cause))
  | broken {tr row standing held trG e} (read : ReadsRow config sessionId tr row standing)
      (shows : evidenceOf standing = .ok held) (granted : asks held trG (.error e)) :
      Asked P config sessionId asks rotated yields (tr ++ trG) (.error e)
  | refused {tr row standing held trG cause} (read : ReadsRow config sessionId tr row standing)
      (shows : evidenceOf standing = .ok held) (granted : asks held trG (.ok (.error cause))) :
      Asked P config sessionId asks rotated yields (tr ++ trG) (.ok (.error (refusalOfGrant cause)))
  | unkept {tr row standing held trG g trK e} (read : ReadsRow config sessionId tr row standing)
      (shows : evidenceOf standing = .ok held) (granted : asks held trG (.ok (.ok g)))
      (troubled : Troubled config trK) :
      Asked P config sessionId asks rotated yields (tr ++ trG ++ trK) (.error e)
  | ended {tr row standing held trG g trK} (read : ReadsRow config sessionId tr row standing)
      (shows : evidenceOf standing = .ok held) (granted : asks held trG (.ok (.ok g)))
      (keeps : Keeps config sessionId held.refreshToken (rotated g) trK false) :
      Asked P config sessionId asks rotated yields (tr ++ trG ++ trK) (.ok (.error sessionEnded))
  | yielded {tr row standing held trG g trK} (read : ReadsRow config sessionId tr row standing)
      (shows : evidenceOf standing = .ok held) (granted : asks held trG (.ok (.ok g)))
      (keeps : Keeps config sessionId held.refreshToken (rotated g) trK true) :
      Asked P config sessionId asks rotated yields (tr ++ trG ++ trK)
        (.ok ((yields g).mapError refusalOfGrant))

/-- **What such a call does**, when its grant does what `asks` says. -/
theorem askIssuer_ensures {grant : StandingEvidence → Task (Except OidcRefusal γ)}
    {asks : StandingEvidence → List HostEvent → Except Exn (Except OidcRefusal γ) → Prop}
    {rotated : γ → Option Str} {yields : γ → Except OidcRefusal β}
    (hok : ∀ es' c, c.ReadsSession sessionId → ok es' c)
    (hgrant : ∀ tr row standing held, ReadsRow config sessionId tr row standing →
      evidenceOf standing = .ok held →
      Ensures (record fun _ e => P e) ok (grant held) tr fun r es' =>
        ∃ trG, es' = tr ++ trG ∧ asks held trG r ∧ ∀ e ∈ trG, P e)
    (hreplace : ∀ tr row standing held trG g judged row' record token,
      ReadsRow config sessionId tr row standing → evidenceOf standing = .ok held →
      asks held trG (.ok (.ok g)) → Judges config row' judged (some record) →
      replacement held.refreshToken (rotated g) = some token →
      ok (tr ++ trG ++ (rowRead sessionId row' ++ judged)) (.replaceRefreshToken sessionId token)) :
    Ensures (record fun _ e => P e) ok (askIssuer config sessionId grant rotated yields) []
      fun r tr => Asked P config sessionId asks rotated yields tr r ∧ ∀ e ∈ tr, P e := by
  have hjoin : ∀ tr tr' : List HostEvent, (∀ e ∈ tr, P e) → (∀ e ∈ tr', P e) →
      ∀ e ∈ tr ++ tr', P e := by
    intro tr tr' h h' e he
    rcases List.mem_append.1 he with he | he
    · exact h e he
    · exact h' e he
  simp only [askIssuer, bind_eq, ensures_andThen]
  refine evidenceOfStandingSession_ensures hok (fun e tr htrace htroubled => ?_)
    fun tr row standing hread htrace => ?_
  · exact ⟨.unread htrace htroubled, fun e he => (htrace e he).1⟩
  have htr : ∀ e ∈ tr, P e := fun e he => (htrace e he).1
  simp only [List.nil_append, onReturn_ok]
  cases hshows : evidenceOf standing with
  | error cause => exact ⟨.unfit hread hshows, htr⟩
  | ok held =>
    simp only [ensures_andThen]
    refine (hgrant tr row standing held hread hshows).mono ?_
    rintro r _ ⟨trG, rfl, hasks, hP⟩
    rcases r with e | cause | g
    · exact ⟨.broken hread hshows hasks, hjoin _ _ htr hP⟩
    · exact ⟨.refused hread hshows hasks, hjoin _ _ htr hP⟩
    simp only [onReturn_ok, ensures_andThen]
    refine keptAfterGrant_ensures hok ?_ ?_ ?_
    · intro judged row' record token hjudges hdiffers
      exact hreplace tr row standing held trG g judged row' record token hread hshows hasks hjudges
        hdiffers
    · intro e trK hPK htroubled
      exact ⟨.unkept hread hshows hasks htroubled, hjoin _ _ (hjoin _ _ htr hP) hPK⟩
    · intro trK kept hkeeps hPK
      have hall := hjoin _ _ (hjoin _ _ htr hP) hPK
      cases kept with
      | false => exact ⟨.ended hread hshows hasks hkeeps, hall⟩
      | true =>
        simp only [onReturn_ok, if_true]
        have hyielded : Asked P config sessionId asks rotated yields (tr ++ trG ++ trK) _ :=
          .yielded hread hshows hasks hkeeps
        cases hyields : yields g with
        | error cause =>
          rw [hyields] at hyielded
          exact ⟨hyielded, hall⟩
        | ok result =>
          rw [hyields] at hyielded
          exact ⟨hyielded, hall⟩

/-- Which calls a call that asks the issuer makes, by its own history: one request with the refresh
token of the row it loaded, and one replacement by another token that the issuer answered. -/
def GrantAllowed (py : Platform) (rp : OidcRelyingParty) (sessionId : Str) (es : List HostEvent) :
    HostCall → Prop
  | .postTokenRequest request => exchanges es = [] ∧ rowWrites es = [] ∧
      ∃ row sent, loads es = [some row] ∧ row.refreshToken = some sent ∧
        request = rp.refreshGrant sent
  | .replaceRefreshToken replaced token => replaced = sessionId ∧ rowWrites es = [] ∧
      ∃ sent answer, exchanges es = [(rp.refreshGrant sent, .ok answer)] ∧ answer.status = 200 ∧
        issuedRefreshToken (tokenAnswerDocument py answer.body) = .ok (some token) ∧ token ≠ sent
  | .verifier _ _ => True
  | c => c.ReadsSession sessionId

theorem GrantAllowed.of_reads {c : HostCall} (h : c.ReadsSession sessionId) :
    GrantAllowed py rp sessionId es c := by
  cases c <;> first | exact h | exact h.elim

theorem replacement_eq_some {sent token : Str} {rotated : Option Str}
    (h : replacement sent rotated = some token) : rotated = some token ∧ token ≠ sent := by
  cases rotated with
  | none => cases h
  | some t =>
    simp only [replacement] at h
    split_ifs at h with hne
    obtain rfl := Option.some.inj h
    exact ⟨rfl, hne⟩

theorem Judges.views {row standing : Option SessionRecord} {tr : List HostEvent}
    (h : Judges config row tr standing) : loads tr = [] ∧ exchanges tr = [] ∧ rowWrites tr = [] := by
  cases row with
  | none =>
    obtain ⟨rfl, -⟩ := h
    exact ⟨rfl, rfl, rfl⟩
  | some row =>
    obtain ⟨reading, now, rfl, -, -⟩ := h
    exact ⟨rfl, rfl, rfl⟩

theorem ReadsRow.views {tr : List HostEvent} {row standing : Option SessionRecord}
    (h : ReadsRow config sessionId tr row standing) :
    loads tr = [row] ∧ exchanges tr = [] ∧ rowWrites tr = [] := by
  obtain ⟨judged, hjudges, rfl⟩ := h
  obtain ⟨hloads, hexchanges, hwrites⟩ := hjudges.views
  simp [rowRead, hloads, hexchanges, hwrites, loadAnswer, exchangeOf, HostCall.writesRow]

theorem evidenceOf_eq_ok {standing : Option SessionRecord} {held : StandingEvidence}
    (h : evidenceOf standing = .ok held) : ∃ row, standing = some row ∧
      row.refreshToken = some held.refreshToken ∧ held.subject = row.user.id := by
  cases standing with
  | none => cases h
  | some row =>
    unfold evidenceOf at h
    cases htoken : row.refreshToken with
    | none => simp [htoken] at h
    | some token =>
      simp only [htoken, Except.ok.injEq] at h
      subst h
      exact ⟨row, rfl, htoken, rfl⟩

/-- A call that has read its row may post the row's refresh token. -/
theorem ReadsRow.allows_post {tr : List HostEvent} {row standing : Option SessionRecord}
    {held : StandingEvidence} (h : ReadsRow config sessionId tr row standing)
    (hshows : evidenceOf standing = .ok held) (tr' : List HostEvent)
    (hviews : loads tr' = [] ∧ exchanges tr' = [] ∧ rowWrites tr' = []) :
    GrantAllowed py rp sessionId (tr ++ tr')
      (.postTokenRequest (rp.refreshGrant held.refreshToken)) := by
  obtain ⟨hloads, hexchanges, hwrites⟩ := h.views
  obtain ⟨judged, hjudges, -⟩ := h
  obtain ⟨record, rfl, htoken, -⟩ := evidenceOf_eq_ok hshows
  obtain hrow | hrow := hjudges.standing_eq
  · cases hrow
  · subst hrow
    refine ⟨?_, ?_, record, held.refreshToken, ?_, htoken, rfl⟩
    · rw [exchanges_append, hexchanges, hviews.2.1, List.append_nil]
    · rw [rowWrites_append, hwrites, hviews.2.2, List.append_nil]
    · rw [loads_append, hloads, hviews.1, List.append_nil]

/-- What a grant that was answered left behind. -/
structure Granted (py : Platform) (rp : OidcRelyingParty) (sent : Str) (tr : List HostEvent)
    (document : Dict) (rotated : Option Str) : Prop where
  answered : ∃ answer, answer.status = 200 ∧ document = tokenAnswerDocument py answer.body ∧
    exchanges tr = [(rp.refreshGrant sent, .ok answer)]
  issued : issuedRefreshToken document = .ok rotated
  loads : loads tr = []
  rowWrites : rowWrites tr = []

/-- A call that was granted may store the rotation when it reads the row again. -/
theorem Granted.allows_replace {trG tr judged : List HostEvent} {row standing row' : Option SessionRecord}
    {record : SessionRecord} {document : Dict} {sent token : Str} {rotated : Option Str}
    (h : Granted py rp sent trG document rotated) (hread : ReadsRow config sessionId tr row standing)
    (hjudges : Judges config row' judged (some record))
    (hdiffers : replacement sent rotated = some token) :
    GrantAllowed py rp sessionId (tr ++ trG ++ (rowRead sessionId row' ++ judged))
      (.replaceRefreshToken sessionId token) := by
  obtain ⟨answer, hstatus, hdoc, hexchanges⟩ := h.answered
  obtain ⟨rfl, hne⟩ := replacement_eq_some hdiffers
  have hissued := h.issued
  rw [hdoc] at hissued
  refine ⟨rfl, ?_, sent, answer, ?_, hstatus, hissued, hne⟩
  · simp [hread.views.2.2, h.rowWrites, hjudges.views.2.2, rowRead, HostCall.writesRow]
  · simp [hread.views.2.1, hexchanges, hjudges.views.2.1, rowRead, exchangeOf]

theorem answered_eq_ok {α : Type} {r : Except Exn α} {a : α} (h : answered r = .ok (.ok a)) :
    r = .ok a := by
  cases r with
  | ok b =>
    cases h
    rfl
  | error e => cases e <;> cases h

theorem Exchanged.granted {sent : Str} {tr : List HostEvent} {document : Dict}
    {rotated : Option Str} (h : Exchanged py rp sent tr (.ok document))
    (hissued : issuedRefreshToken document = .ok rotated) :
    Granted py rp sent tr document rotated := by
  exact ⟨h.posts, hissued, loads_of_asks h.asks, rowWrites_of_asks h.asks⟩

theorem Renews.rotated {sent : Str} {tr : List HostEvent} {renewed : RenewedAccess}
    (h : Renews py rp sent tr (.ok (.ok renewed))) :
    ∃ document, Granted py rp sent tr document renewed.refreshToken ∧
      bearerAccessToken document = .ok renewed.accessToken := by
  generalize hr : (Except.ok (Except.ok renewed) : Except Exn (Except OidcRefusal _)) = r at h
  obtain ⟨hex⟩ := h
  have hbind := answered_eq_ok hr.symm
  rename_i r
  cases r with
  | error e => cases hbind
  | ok document =>
    simp only [Except.bind, renewedOf] at hbind
    cases hbearer : bearerAccessToken document with
    | error e => rw [hbearer] at hbind; cases hbind
    | ok accessToken =>
      cases hissued : issuedRefreshToken document with
      | error e => rw [hbearer, hissued] at hbind; cases hbind
      | ok rotated =>
        rw [hbearer, hissued] at hbind
        cases hbind
        exact ⟨document, hex.granted hissued, hbearer⟩

theorem ChecksGroups.verifies {document : Dict} {subject : Str} {startedAt : ℤ}
    {tr : List HostEvent} {r : Except Exn (List Str)}
    (h : ChecksGroups py rp document subject startedAt tr r) :
    ∃ steps, tr = List.map (verifierEvent rp.jwtVerifier) steps := by
  cases h with
  | unnamed => exact ⟨[], rfl⟩
  | verified => exact ⟨_, rfl⟩

theorem Renews.asks {sent : Str} {tr : List HostEvent}
    {r : Except Exn (Except OidcRefusal RenewedAccess)} (h : Renews py rp sent tr r) :
    ∀ e ∈ tr, e.call.AsksIssuer := by
  obtain ⟨hex⟩ := h
  exact hex.asks

theorem ReadsGroups.asks {sent subject : Str} {tr : List HostEvent}
    {r : Except Exn (Except OidcRefusal RefreshedGroups)} (h : ReadsGroups py rp sent subject tr r) :
    ∀ e ∈ tr, e.call.AsksIssuer := by
  cases h with
  | untimed e => simp [HostCall.AsksIssuer]
  | ungranted reading hex hunread => exact List.forall_mem_cons.2 ⟨trivial, hex.asks⟩
  | granted reading hex hissued hchecked =>
    refine List.forall_mem_cons.2 ⟨trivial, fun e he => ?_⟩
    rcases List.mem_append.1 he with he | he
    · exact hex.asks e he
    · obtain ⟨steps, rfl⟩ := hchecked.verifies
      obtain ⟨step, -, rfl⟩ := List.mem_map.1 he
      trivial

/-- What a grant that yielded groups went through. -/
theorem ReadsGroups.granted_of_ok {sent subject : Str} {tr : List HostEvent}
    {refreshed : RefreshedGroups} (h : ReadsGroups py rp sent subject tr (.ok (.ok refreshed))) :
    ∃ reading trX trC document groups,
      tr = ⟨.wallClock, .ok reading⟩ :: (trX ++ trC) ∧
      Exchanged py rp sent trX (.ok document) ∧
      issuedRefreshToken document = .ok refreshed.refreshToken ∧
      ChecksGroups py rp document subject (truncate reading) trC groups ∧
      answered groups = .ok refreshed.groups := by
  generalize hr : (Except.ok (Except.ok refreshed) : Except Exn (Except OidcRefusal _)) = r at h
  cases h with
  | untimed e => cases hr
  | ungranted reading hex hunread =>
    rename_i e
    cases e <;> cases hr
  | granted reading hex hissued hchecked =>
    rename_i groups
    cases hgroups : answered groups with
    | error e => rw [hgroups] at hr; cases hr
    | ok checked =>
      rw [hgroups] at hr
      cases hr
      exact ⟨reading, _, _, _, groups, rfl, hex, hissued, hchecked, hgroups⟩

theorem ReadsGroups.rotated {sent subject : Str} {tr : List HostEvent}
    {refreshed : RefreshedGroups} (h : ReadsGroups py rp sent subject tr (.ok (.ok refreshed))) :
    ∃ document, Granted py rp sent tr document refreshed.refreshToken := by
  obtain ⟨reading, trX, trC, document, groups, rfl, hex, hissued, hchecked, -⟩ := h.granted_of_ok
  obtain ⟨answer, hstatus, hdoc, hposted⟩ := hex.posts
  have hasks := h.asks
  refine ⟨document, ⟨answer, hstatus, hdoc, ?_⟩, hissued, loads_of_asks hasks,
    rowWrites_of_asks hasks⟩
  obtain ⟨steps, rfl⟩ := hchecked.verifies
  have hverifies : exchanges (steps.map (verifierEvent rp.jwtVerifier)) = [] := by
    refine exchanges_eq_nil fun e he => ?_
    obtain ⟨step, -, rfl⟩ := List.mem_map.1 he
    rfl
  simp [exchangeOf, hposted, hverifies]

/-- Which calls `fresh_access_token` makes: it stores a rotation only that came with a usable access
token. -/
def AccessAllowed (py : Platform) (rp : OidcRelyingParty) (sessionId : Str) (es : List HostEvent)
    (c : HostCall) : Prop :=
  GrantAllowed py rp sessionId es c ∧ ∀ replaced token, c = .replaceRefreshToken replaced token →
    ∃ request answer accessToken, exchanges es = [(request, .ok answer)] ∧
      bearerAccessToken (tokenAnswerDocument py answer.body) = .ok accessToken

theorem AccessAllowed.of_grant {c : HostCall} (h : GrantAllowed py rp sessionId es c)
    (hc : ∀ replaced token, c ≠ .replaceRefreshToken replaced token) :
    AccessAllowed py rp sessionId es c := ⟨h, fun _ _ heq => absurd heq (hc _ _)⟩

/-- **What `fresh_access_token` does.** -/
theorem freshAccessToken_ensures :
    Ensures (record fun _ e => P e) (AccessAllowed py rp sessionId)
      (freshAccessToken py rp config sessionId) [] fun r tr =>
        Asked P config sessionId (fun held => Renews py rp held.refreshToken)
          RenewedAccess.refreshToken (fun renewed => .ok renewed.accessToken) tr r ∧
        ∀ e ∈ tr, P e := by
  rw [freshAccessToken_eq]
  refine askIssuer_ensures (fun _ _ h => .of_grant (.of_reads h) ?_) ?_ ?_
  · rintro replaced token rfl
    exact h.elim
  · intro tr row standing held hread hshows
    refine renewAccess_ensures ?_ fun trG r hrenews hP => ⟨trG, rfl, hrenews, hP⟩
    have hpost : GrantAllowed py rp sessionId (tr ++ []) _ :=
      hread.allows_post hshows [] ⟨rfl, rfl, rfl⟩
    rw [List.append_nil] at hpost
    exact .of_grant hpost (by simp)
  · intro tr row standing held trG renewed judged row' record token hread _ hrenews hjudges hdiffers
    obtain ⟨document, hgranted, hbearer⟩ := hrenews.rotated
    refine ⟨hgranted.allows_replace hread hjudges hdiffers, fun _ _ _ => ?_⟩
    obtain ⟨answer, -, rfl, hexchanges⟩ := hgranted.answered
    refine ⟨rp.refreshGrant held.refreshToken, answer, renewed.accessToken, ?_, hbearer⟩
    simp [hread.views.2.1, hexchanges, hjudges.views.2.1, rowRead, exchangeOf]

/-- **What `current_groups` does.** -/
theorem currentGroups_ensures :
    Ensures (record fun _ e => P e) (GrantAllowed py rp sessionId)
      (currentGroups py rp config sessionId) [] fun r tr =>
        Asked P config sessionId
          (fun held => ReadsGroups py rp held.refreshToken held.subject)
          RefreshedGroups.refreshToken RefreshedGroups.groups tr r ∧ ∀ e ∈ tr, P e := by
  rw [currentGroups_eq]
  refine askIssuer_ensures (fun _ _ h => .of_reads h) ?_ ?_
  · intro tr row standing held hread hshows
    refine refreshedGroups_ensures trivial ?_ (fun _ _ => trivial)
      fun trG r hreads hP => ⟨trG, rfl, hreads, hP⟩
    intro ans
    exact hread.allows_post hshows [⟨.wallClock, ans⟩] ⟨rfl, rfl, rfl⟩
  · intro tr row standing held trG refreshed judged row' record token hread _ hreads hjudges hdiffers
    obtain ⟨document, hgranted⟩ := hreads.rotated
    exact hgranted.allows_replace hread hjudges hdiffers

end Whole

end WebAuth
