import WebAuth.GroupsDecision
import WebAuth.RowOwnership

/-!
# One refresh token, handed from hand to hand

An issuer whose refresh tokens are one-time has one live token: every grant takes it and answers
with the next one. It lies in the session row, or in the hands of the one call that was granted and
has not stored it yet. Calls that come with an old token are refused, so they take nothing.
-/

namespace WebAuth

open Python Effects Program

/-! ## The issuer and the row -/

/-- A session row, and the tokens of an issuer: the live one and those it takes no more. -/
structure Rotation where
  row : SessionRecord
  live : Str
  used : List Str

/-- The tokens the issuer has answered so far. -/
def Rotation.known (w : Rotation) : List Str := w.live :: w.used

/-- The well-formed `refresh_token` member of an answer's JSON object. -/
def Carries (py : Platform) (answer : TokenEndpointAnswer) (token : Str) : Prop :=
  ∃ document, jsonObject py answer.body = some document ∧
    document.get (str "refresh_token") = some (.str token) ∧ isRefreshToken token = true

/-- A reading of the clock at which a row is admitted. -/
def AdmitsReading (config : WebAuthConfig) (row : SessionRecord) (reading : ℚ) : Prop :=
  ∃ now, DateTime.fromTimestamp (truncate reading) = some now ∧
    isAdmitted config.sessionLifetime row now = .ok true

/-- A one-time issuer beside the store of one session that stays admitted, whose calls succeed. An
answer with status 200 takes the live token and carries a new one; every other answer takes none. -/
def oneTimeIssuer (py : Platform) (rp : OidcRelyingParty) (config : WebAuthConfig) :
    Handler Rotation hostCalls Exn
  | w, .postTokenRequest request, ans, w' =>
    (∃ answer token, ans = .ok answer ∧ answer.status = 200 ∧ request = rp.refreshGrant w.live ∧
      Carries py answer token ∧ token ∉ w.known ∧
      w' = { w with live := token, used := w.known }) ∨
    ((∀ answer, ans = .ok answer → answer.status ≠ 200) ∧
      (∀ e, ans = .error e → e = .tokenEndpointError) ∧ w' = w)
  | w, .load _, ans, w' => ans = .ok (some w.row) ∧ w' = w
  | w, .replaceRefreshToken _ token, ans, w' => ans = .ok (.bool true) ∧
      w' = { w with row := w.row.replaced token }
  | w, .wallClock, ans, w' =>
    (∃ reading, ans = .ok reading ∧ AdmitsReading config w.row reading) ∧ w' = w
  | w, .verifier owner step, ans, w' => PortAnswer ⟨.verifier owner step, ans⟩ ∧ w' = w
  | w, .enter _, ans, w' => ans = .ok () ∧ w' = w
  | w, .leave _ _, ans, w' => ans = .ok () ∧ w' = w
  | w, c, ans, w' => PortAnswer ⟨c, ans⟩ ∧ w' = w

/-- A call that makes a refresh grant. -/
inductive RefreshCall where
  | freshAccessToken
  | currentGroups

section Runs

variable (py : Platform) (rp : OidcRelyingParty) (config : WebAuthConfig) (sessionId : Str)

/-- The operation such a call is. -/
def RefreshCall.operation : RefreshCall → SessionOperation
  | freshAccessToken => .accessToken rp config sessionId
  | currentGroups => .groups rp config sessionId

/-- A run of such calls on one session. -/
abbrev RotationRun {ι : Type} [DecidableEq ι] (calls : ι → RefreshCall) (w₀ : Rotation)
    (h : List (ι × HostEvent)) (w : Rotation) (pool : ι → Task OperationAnswer) : Prop :=
  Run (oneTimeIssuer py rp config) w₀
    (fun i => ((calls i).operation rp config sessionId).run py) h w pool

/-- Whether a call can read an answer as far as its rotation: the body is not too large and, for
`fresh_access_token`, the answer has a bearer access token. -/
def RefreshCall.Reads (answer : TokenEndpointAnswer) : RefreshCall → Prop
  | freshAccessToken => answer.body.length ≤ maxTokenResponseBytes ∧
      ∃ accessToken, bearerAccessToken (tokenAnswerDocument py answer.body) = .ok accessToken
  | currentGroups => answer.body.length ≤ maxTokenResponseBytes

end Runs

/-- No call stands between its grant and its end. -/
def Settled {ι : Type} (h : List (ι × HostEvent)) (pool : ι → Task OperationAnswer) : Prop :=
  ∀ i request answer, (i, (⟨.postTokenRequest request, .ok answer⟩ : HostEvent)) ∈ h →
    answer.status = 200 → ∃ r, pool i = done r

/-! ## Answers and rotations -/

section Answers

variable {py : Platform} {answer : TokenEndpointAnswer} {token token' : Str}

theorem Carries.unique (h : Carries py answer token) (h' : Carries py answer token') :
    token = token' := by
  obtain ⟨document, hparsed, htoken, -⟩ := h
  obtain ⟨document', hparsed', htoken', -⟩ := h'
  obtain rfl := Option.some.inj (hparsed.symm.trans hparsed')
  exact Json.str.inj (Option.some.inj (htoken.symm.trans htoken'))

/-- A body that is not too large is read as what it carries. -/
theorem Carries.issues (h : Carries py answer token)
    (hsize : answer.body.length ≤ maxTokenResponseBytes) :
    IssuesRefreshToken (tokenAnswerDocument py answer.body) (some token) := by
  obtain ⟨document, hparsed, htoken, hwell⟩ := h
  unfold tokenAnswerDocument
  rw [if_neg (not_lt.2 hsize), hparsed]
  exact .inr ⟨token, htoken, hwell, rfl⟩

theorem issuedRefreshToken_eq_ok {document : Dict} {rotated : Option Str} :
    issuedRefreshToken document = .ok rotated ↔ IssuesRefreshToken document rotated := by
  rcases issuedRefreshToken_cases document with ⟨rotated', hissues, hissued⟩ | ⟨hnone, hissued⟩
  · rw [hissued, Except.ok.injEq]
    exact ⟨fun h => h ▸ hissues, fun h => hissues.unique h⟩
  · rw [hissued]
    exact ⟨fun h => (by cases h), fun h => absurd ⟨_, h⟩ hnone⟩

/-- What is read as the rotation of an answer is carried by it, in a body that is not too large. -/
theorem carries_of_issued
    (h : issuedRefreshToken (tokenAnswerDocument py answer.body) = .ok (some token)) :
    answer.body.length ≤ maxTokenResponseBytes ∧ Carries py answer token := by
  obtain ⟨-, hnone⟩ | ⟨token', htoken, hwell, heq⟩ := issuedRefreshToken_eq_ok.1 h
  · cases hnone
  obtain rfl := Option.some.inj heq
  unfold tokenAnswerDocument at htoken
  split_ifs at htoken with hsize
  · cases htoken
  · refine ⟨not_lt.1 hsize, ?_⟩
    cases hparsed : jsonObject py answer.body with
    | none =>
      rw [hparsed] at htoken
      cases htoken
    | some document =>
      rw [hparsed] at htoken
      exact ⟨document, hparsed, htoken, hwell⟩

end Answers

/-! ## The calls of one grant -/

/-- A record that lasts as long as `row`. -/
def SameTimes (row stored : SessionRecord) : Prop :=
  stored.createdAt = row.createdAt ∧ stored.expiresAt = row.expiresAt

/-- An answer in a run on a session that stays admitted, whose row was `row`. -/
def Favors (config : WebAuthConfig) (row : SessionRecord) : HostEvent → Prop
  | ⟨.load _, ans⟩ => ∃ stored, ans = .ok (some stored) ∧ SameTimes row stored
  | ⟨.replaceRefreshToken _ _, ans⟩ => ans = .ok (.bool true)
  | ⟨.wallClock, ans⟩ => ∃ reading, ans = .ok reading ∧ AdmitsReading config row reading
  | e => PortAnswer e

/-- A call was granted with an answer and has written no row. -/
def HoldsGrant (es : List HostEvent) (answer : TokenEndpointAnswer) : Prop :=
  (∃ request, exchanges es = [(request, .ok answer)]) ∧ answer.status = 200 ∧ rowWrites es = []

section Calls

variable {py : Platform} {rp : OidcRelyingParty} {config : WebAuthConfig} {sessionId sent : Str}
  {row₀ : SessionRecord} {es : List HostEvent} {answer : TokenEndpointAnswer} {token : Str}

theorem isAdmitted_congr {lifetime : SessionLifetime} {row stored : SessionRecord}
    (h : SameTimes row stored) (now : DateTime) :
    isAdmitted lifetime stored now = isAdmitted lifetime row now := by
  unfold isAdmitted
  rw [h.1, h.2]

theorem AdmitsReading.congr {row stored : SessionRecord} {reading : ℚ}
    (h : AdmitsReading config row reading) (hsame : SameTimes row stored) :
    AdmitsReading config stored reading := by
  obtain ⟨now, hnow, hadmitted⟩ := h
  exact ⟨now, hnow, by rwa [isAdmitted_congr hsame]⟩

theorem Favors.port {e : HostEvent} (h : Favors config row₀ e) : PortAnswer e := by
  obtain ⟨c, ans⟩ := e
  have hok : ∀ {a : c.Answer}, ans = .ok a → PortAnswer ⟨c, ans⟩ := by
    rintro a rfl x hx
    cases hx
  cases c
  case load =>
    obtain ⟨stored, rfl, -⟩ := h
    exact hok rfl
  case replaceRefreshToken => exact hok h
  case wallClock =>
    obtain ⟨reading, rfl, -⟩ := h
    exact hok rfl
  all_goals exact h

/-- Where the row stays admitted, it is judged. -/
theorem Unjudged.not_favored (h : Unjudged config es) (hfav : ∀ e ∈ es, Favors config row₀ e) :
    False := by
  rcases h with ⟨id, replaced, typeName, hmem⟩ | ⟨id, row, reading, hload, hclock, hunjudged⟩
  · cases hfav _ hmem
  · obtain ⟨stored, hstored, hsame⟩ := hfav _ hload
    obtain rfl := Option.some.inj (Except.ok.inj hstored)
    obtain ⟨reading', hreading, hadmits⟩ := hfav _ hclock
    obtain rfl := Except.ok.inj hreading
    obtain ⟨now, hnow, hadmitted⟩ := hadmits.congr hsame
    refine hunjudged now hnow (some row) ?_
    simp [stands, hadmitted, Except.map]

/-- Where the row stays admitted, it stands. -/
theorem Judges.stands_of_favored {row : Option SessionRecord} {judged : List HostEvent}
    (h : Judges config row judged none)
    (hfav : ∀ e ∈ rowRead sessionId row ++ judged, Favors config row₀ e) : False := by
  obtain ⟨stored, hstored, hsame⟩ := hfav ⟨.load sessionId, .ok row⟩ (by simp [rowRead])
  obtain rfl := Except.ok.inj hstored
  obtain ⟨reading, now, rfl, hnow, hstands⟩ := h
  obtain ⟨reading', hreading, hadmits⟩ := hfav ⟨.wallClock, .ok reading⟩ (by simp)
  obtain rfl := Except.ok.inj hreading
  obtain ⟨now', hnow', hadmitted⟩ := hadmits.congr hsame
  obtain rfl := Option.some.inj (hnow.symm.trans hnow')
  simp [stands, hadmitted, Except.map] at hstands

theorem exchanges_of_host (h : ∀ e ∈ es, e.call.OfHost) : exchanges es = [] := by
  refine exchanges_eq_nil ?_
  rintro ⟨c, ans⟩ he
  have := h _ he
  cases c <;> first | rfl | exact this.elim

theorem exchanges_of_steps {α : Type} {owner : ℕ} {p : Verification α} {r : Except Exn α}
    (h : Path (p.of owner) es r) : exchanges es = [] := by
  obtain ⟨steps, rfl, -⟩ := of_path h
  refine exchanges_eq_nil fun e he => ?_
  obtain ⟨step, -, rfl⟩ := List.mem_map.1 he
  rfl

/-- A call that has ended does not hold a grant whose rotation it read. -/
theorem askIssuer_saves {γ β : Type} {grant : StandingEvidence → Task (Except OidcRefusal γ)}
    {rotated : γ → Option Str} {yields : γ → Except OidcRefusal β}
    {r : Except Exn (Except AccessTokenRefusal β)}
    (h : Path (askIssuer config sessionId grant rotated yields) es r)
    (hfav : ∀ e ∈ es, Favors config row₀ e)
    (hgrant : ∀ held trG rG, Path (grant held) trG rG → (∀ e ∈ trG, PortAnswer e) →
      HoldsGrant trG answer → ∃ g, rG = .ok (.ok g) ∧ rotated g = some token)
    (hseen : ∀ id row, (⟨.load id, .ok (some row)⟩ : HostEvent) ∈ es →
      row.refreshToken ≠ some token) : ¬HoldsGrant es answer := by
  rintro ⟨⟨request, hexchange⟩, hstatus, hwrites⟩
  unfold askIssuer at h
  obtain ⟨tr, rest, r₁, rfl, hfirst, h⟩ := path_andThen.1 h
  rw [List.forall_mem_append] at hfav
  rw [exchanges_append] at hexchange
  rw [rowWrites_append, List.append_eq_nil_iff] at hwrites
  rcases evidence_reads hfirst fun e he => (hfav.1 e he).port with
    ⟨row, standing, hread, rfl⟩ | ⟨-, hunjudged⟩
  swap
  · exact hunjudged.not_favored hfav.1
  rw [hread.views.2.1, List.nil_append] at hexchange
  cases hshows : evidenceOf standing with
  | error cause =>
    rw [hshows] at h
    obtain ⟨rfl, -⟩ := h
    cases hexchange
  | ok held =>
  rw [hshows] at h
  obtain ⟨trG, rest, r₂, rfl, hpath, h⟩ := path_andThen.1 h
  rw [List.forall_mem_append] at hfav
  rw [exchanges_append] at hexchange
  rw [rowWrites_append, List.append_eq_nil_iff] at hwrites
  have hports : ∀ e ∈ trG, PortAnswer e := fun e he => (hfav.2.1 e he).port
  have hholds : exchanges rest = [] → HoldsGrant trG answer := by
    intro hnone
    rw [hnone, List.append_nil] at hexchange
    exact ⟨⟨request, hexchange⟩, hstatus, hwrites.2.1⟩
  rcases r₂ with e | cause | g
  · obtain ⟨rfl, -⟩ := h
    obtain ⟨g, hg, -⟩ := hgrant _ _ _ hpath hports (hholds rfl)
    cases hg
  · obtain ⟨rfl, -⟩ := h
    obtain ⟨g, hg, -⟩ := hgrant _ _ _ hpath hports (hholds rfl)
    cases hg
  obtain ⟨trK, rest, r₃, rfl, hkept, h⟩ := path_andThen.1 h
  rw [List.forall_mem_append] at hfav
  have hnone : rest = [] := by
    rcases r₃ with e | _ | _
    · exact h.1
    · exact h.1
    · cases hyields : yields g <;>
        · rw [hyields] at h
          exact h.1
  subst hnone
  rw [List.append_nil] at hholds hwrites
  obtain ⟨g', hg', hrotated⟩ := hgrant _ _ _ hpath hports
    (hholds (exchanges_of_host (keptAfterGrant_only.path hkept)))
  obtain rfl := Except.ok.inj (Except.ok.inj hg')
  rw [hrotated] at hkept
  rcases kept_keeps hkept fun e he => (hfav.2.2.1 e he).port with ⟨kept, hkeeps, -⟩ | ⟨-, hunjudged⟩
  swap
  · exact hunjudged.not_favored hfav.2.2.1
  cases hkeeps with
  | ended judges =>
    exact judges.stands_of_favored fun e he => hfav.2.2.1 e (List.mem_append_left _ he)
  | replaced judges differs =>
    simp [rowRead, HostCall.writesRow] at hwrites
  | kept judges same =>
    obtain ⟨record, rfl, htoken, -⟩ := evidenceOf_eq_ok hshows
    obtain ⟨judged, hjudges, rfl⟩ := hread
    obtain hrow | rfl := hjudges.standing_eq
    · cases hrow
    · have hne := hseen sessionId record (by simp [rowRead])
      have hdiffers : token ≠ held.refreshToken := fun heq => hne (heq ▸ htoken)
      rw [replacement, if_pos hdiffers] at same
      cases same

/-- An answer with status 200 and a bearer access token renews the access. -/
theorem renewAccess_reads {held : StandingEvidence}
    {rG : Except Exn (Except OidcRefusal RenewedAccess)}
    (h : Path (rp.renewAccess py held.refreshToken) es rG) (hholds : HoldsGrant es answer)
    (hcarries : Carries py answer token) (hreads : RefreshCall.Reads py answer .freshAccessToken) :
    ∃ renewed, rG = .ok (.ok renewed) ∧ renewed.refreshToken = some token := by
  obtain ⟨hsize, accessToken, hbearer⟩ := hreads
  obtain ⟨⟨request, hexchange⟩, hstatus, -⟩ := hholds
  have hensures : Ensures (record fun _ _ => True) (fun _ _ => True)
      (rp.renewAccess py held.refreshToken) [] fun r es => Renews py rp held.refreshToken es r :=
    renewAccess_ensures trivial fun tr r hrenews _ => hrenews
  obtain ⟨hex⟩ := h.ensures (accepted_iff.2 fun _ _ => trivial) hensures
  rw [List.nil_append] at hex
  cases hex with
  | unfit => cases hexchange
  | posted ans =>
    obtain ⟨-, rfl⟩ : _ ∧ ans = .ok answer := by simpa [exchangeOf] using hexchange
    refine ⟨⟨accessToken, some token⟩, ?_, rfl⟩
    simp [readPosted, readTokenAnswer, hstatus, Except.bind, renewedOf, hbearer,
      issuedRefreshToken_eq_ok.2 (hcarries.issues hsize), bind, answered, pure, Except.pure]

/-- An answer with status 200 yields its rotation, whatever its ID token is worth. -/
theorem refreshedGroups_reads (hpy : PyJwtAnswers py) {held : StandingEvidence}
    {rG : Except Exn (Except OidcRefusal RefreshedGroups)}
    (h : Path (rp.refreshedGroups py held.refreshToken held.subject) es rG)
    (hports : ∀ e ∈ es, PortAnswer e) (hholds : HoldsGrant es answer)
    (hcarries : Carries py answer token) (hsize : answer.body.length ≤ maxTokenResponseBytes) :
    ∃ refreshed, rG = .ok (.ok refreshed) ∧ refreshed.refreshToken = some token := by
  obtain ⟨⟨request, hexchange⟩, hstatus, -⟩ := hholds
  have hissues := hcarries.issues hsize
  have hgrants : ∀ {trG reply}, GrantAnswer py rp held.refreshToken trG reply →
      exchanges trG = [(request, .ok answer)] →
      reply = .ok (tokenAnswerDocument py answer.body, some token) := by
    intro trG reply hanswer hposted
    have hwell : isRefreshToken held.refreshToken = true ∧
        trG = [⟨.postTokenRequest (rp.refreshGrant held.refreshToken), .ok answer⟩] := by
      cases hanswer with
      | unsent => cases hposted
      | unreached wellFormed => simp [exchangeOf] at hposted
      | refused wellFormed => simp_all [exchangeOf]
      | failed wellFormed => simp_all [exchangeOf]
      | granted wellFormed => simp_all [exchangeOf]
    obtain ⟨hwell, rfl⟩ := hwell
    exact hanswer.unique (.granted hwell hstatus hissues)
  obtain ⟨reading, trG, hanswers⟩ := refreshedGroups_answers hpy h hports
  rcases hanswers with ⟨cause, rfl, hanswer, -⟩ |
    ⟨document, rotated, trC, groups, rfl, hanswer, hchecked, rfl⟩
  · cases hgrants hanswer (by simpa [exchangeOf] using hexchange)
  · have hverifies : exchanges trC = [] := by
      cases hchecked with
      | missing => rfl
      | rejected _ verification => exact exchanges_of_steps verification
      | faulty _ verification => exact exchanges_of_steps verification
      | faultless _ verification => exact exchanges_of_steps verification
    have hreply := hgrants hanswer (by simpa [exchangeOf, hverifies] using hexchange)
    cases hreply
    exact ⟨_, rfl, rfl⟩

/-- **A call that has ended has stored the rotation it could read.** -/
theorem RefreshCall.saves (hpy : PyJwtAnswers py) {call : RefreshCall}
    {r : Except Exn OperationAnswer}
    (h : Path ((call.operation rp config sessionId).run py) es r)
    (hfav : ∀ e ∈ es, Favors config row₀ e) (hcarries : Carries py answer token)
    (hreads : call.Reads py answer)
    (hseen : ∀ id row, (⟨.load id, .ok (some row)⟩ : HostEvent) ∈ es →
      row.refreshToken ≠ some token) : ¬HoldsGrant es answer := by
  cases call with
  | freshAccessToken =>
    obtain ⟨r', h, -⟩ := path_map (p := WebAuth.freshAccessToken py rp config sessionId) h
    rw [freshAccessToken_eq] at h
    exact askIssuer_saves h hfav (fun held trG rG hpath _ hholds =>
      renewAccess_reads hpath hholds hcarries hreads) hseen
  | currentGroups =>
    obtain ⟨r', h, -⟩ := path_map (p := WebAuth.currentGroups py rp config sessionId) h
    rw [currentGroups_eq] at h
    exact askIssuer_saves h hfav (fun held trG rG hpath hports hholds =>
      refreshedGroups_reads hpy hpath hports hholds hcarries hreads) hseen

/-- Which calls such a call makes, by its own history. -/
def RefreshCall.allows (py : Platform) (rp : OidcRelyingParty) (sessionId : Str) :
    RefreshCall → List HostEvent → HostCall → Prop
  | freshAccessToken => AccessAllowed py rp sessionId
  | currentGroups => GrantAllowed py rp sessionId

theorem RefreshCall.allows_grant {call : RefreshCall} {c : HostCall}
    (h : call.allows py rp sessionId es c) : GrantAllowed py rp sessionId es c := by
  cases call with
  | freshAccessToken => exact h.1
  | currentGroups => exact h

theorem RefreshCall.run_allows (call : RefreshCall) :
    Ensures (record fun _ _ => True) (call.allows py rp sessionId)
      ((call.operation rp config sessionId).run py) [] fun _ _ => True := by
  cases call with
  | freshAccessToken =>
    have hcalls := @freshAccessToken_ensures (fun _ => True) py rp config sessionId
    exact (map_ensures (hcalls.mono fun _ _ _ => trivial)).mono fun _ _ _ => trivial
  | currentGroups =>
    have hcalls := @currentGroups_ensures (fun _ => True) py rp config sessionId
    exact (map_ensures (hcalls.mono fun _ _ _ => trivial)).mono fun _ _ _ => trivial

/-- A call stores only the rotation of the answer it holds, which it could read. -/
theorem RefreshCall.replaces {call : RefreshCall} {replaced : Str}
    (h : call.allows py rp sessionId es (.replaceRefreshToken replaced token)) :
    ∃ answer, HoldsGrant es answer ∧ Carries py answer token ∧ call.Reads py answer := by
  obtain ⟨-, hwrites, sent, answer, hexchange, hstatus, hissued, -⟩ := call.allows_grant h
  obtain ⟨hsize, hcarries⟩ := carries_of_issued hissued
  refine ⟨answer, ⟨⟨_, hexchange⟩, hstatus, hwrites⟩, hcarries, ?_⟩
  cases call with
  | currentGroups => exact hsize
  | freshAccessToken =>
    obtain ⟨request, answer', accessToken, hexchange', hbearer⟩ := h.2 _ _ rfl
    rw [hexchange, List.singleton_inj, Prod.mk.injEq] at hexchange'
    obtain rfl := Except.ok.inj hexchange'.2
    exact ⟨hsize, accessToken, hbearer⟩

end Calls

/-! ## Where the live token is -/

section Invariant

variable {ι : Type} [DecidableEq ι] {py : Platform} {rp : OidcRelyingParty} {config : WebAuthConfig}
  {sessionId : Str} {calls : ι → RefreshCall} {w₀ w w' : Rotation} {h : List (ι × HostEvent)}
  {pool : ι → Task OperationAnswer} {i : ι} {e : HostEvent}

/-- Some call has loaded a row with this refresh token. -/
def TokenSeen (h : List (ι × HostEvent)) (token : Str) : Prop :=
  ∃ i id row, (i, (⟨.load id, .ok (some row)⟩ : HostEvent)) ∈ h ∧ row.refreshToken = some token

/-- The live token lies in the row, and no call holds a grant. -/
def InRow (h : List (ι × HostEvent)) (w : Rotation) : Prop :=
  w.row.refreshToken = some w.live ∧ ∀ i answer, ¬HoldsGrant (own i h) answer

/-- One call holds the grant that carries the live token, and nobody has seen that token. -/
def InHands (py : Platform) (h : List (ι × HostEvent)) (w : Rotation) : Prop :=
  w.row.refreshToken ≠ some w.live ∧ (∀ token, TokenSeen h token → token ≠ w.live) ∧
    ∃ i answer, HoldsGrant (own i h) answer ∧ Carries py answer w.live ∧
      ∀ j answer', HoldsGrant (own j h) answer' → j = i

/-- **What holds at every moment of a run.** -/
structure LiveToken (py : Platform) (config : WebAuthConfig) (calls : ι → RefreshCall)
    (w₀ : Rotation) (h : List (ι × HostEvent)) (w : Rotation) : Prop where
  favored : ∀ e ∈ h, Favors config w₀.row e.2
  times : SameTimes w₀.row w.row
  seen : ∀ token, TokenSeen h token → token ∈ w.known
  stored : ∀ token, w.row.refreshToken = some token → token ∈ w.known
  once : ∀ i, (exchanges (own i h)).length ≤ 1
  /-- A call that has written could read the answer it was granted with. -/
  reads : ∀ i, rowWrites (own i h) ≠ [] → ∀ request answer,
    (request, .ok answer) ∈ exchanges (own i h) → (calls i).Reads py answer
  held : InRow h w ∨ InHands py h w

omit [DecidableEq ι] in
theorem seen_snoc {token : Str} : TokenSeen (h ++ [(i, e)]) token ↔ TokenSeen h token ∨
    ∃ id row, e = ⟨.load id, .ok (some row)⟩ ∧ row.refreshToken = some token := by
  unfold TokenSeen
  simp only [List.mem_append, List.mem_singleton, Prod.mk.injEq]
  constructor
  · rintro ⟨j, id, row, hmem | ⟨-, rfl⟩, htoken⟩
    · exact .inl ⟨j, id, row, hmem, htoken⟩
    · exact .inr ⟨id, row, rfl, htoken⟩
  · rintro (⟨j, id, row, hmem, htoken⟩ | ⟨id, row, rfl, htoken⟩)
    · exact ⟨j, id, row, .inl hmem, htoken⟩
    · exact ⟨i, id, row, .inr ⟨rfl, rfl⟩, htoken⟩

theorem seen_of_loads {row : SessionRecord} {token : Str} (hloads : loads (own i h) = [some row])
    (htoken : row.refreshToken = some token) : TokenSeen h token := by
  have hmem : some row ∈ loads (own i h) := by rw [hloads]; exact List.mem_singleton_self _
  obtain ⟨⟨c, ans⟩, he, hload⟩ := List.mem_filterMap.1 hmem
  cases c
  case load id =>
    cases ans with
    | error x => cases hload
    | ok record =>
      obtain rfl := Option.some.inj hload
      exact ⟨i, id, row, mem_own.1 he, htoken⟩
  all_goals cases hload

/-- A call of a thread that neither asks the issuer nor writes leaves every grant in its hands. -/
theorem holdsGrant_quiet (hexchange : exchangeOf e = none) (hwrites : e.call.writesRow = false)
    (j : ι) (answer : TokenEndpointAnswer) :
    HoldsGrant (own j (h ++ [(i, e)])) answer ↔ HoldsGrant (own j h) answer := by
  by_cases hij : i = j
  · subst hij
    simp [HoldsGrant, hexchange, hwrites]
  · rw [own_append_ne hij]

theorem LiveToken.once_snoc (hJ : LiveToken py config calls w₀ h w)
    (hfirst : exchangeOf e = none ∨ exchanges (own i h) = []) (j : ι) :
    (exchanges (own j (h ++ [(i, e)]))).length ≤ 1 := by
  by_cases hij : i = j
  · subst hij
    rw [own_append_self, exchanges_append, List.length_append]
    rcases hfirst with hnone | hnone
    · simpa [hnone] using hJ.once i
    · rw [hnone]
      cases hexchange : exchangeOf e <;> simp [hexchange]
  · rw [own_append_ne hij]
    exact hJ.once j

/-- What written calls could read, past a call that writes nothing. -/
theorem LiveToken.reads_snoc (hJ : LiveToken py config calls w₀ h w)
    (hwrites : e.call.writesRow = false)
    (hfirst : exchangeOf e = none ∨ rowWrites (own i h) = []) (j : ι)
    (hwritten : rowWrites (own j (h ++ [(i, e)])) ≠ []) (request : TokenRequest)
    (answer : TokenEndpointAnswer)
    (hmem : (request, .ok answer) ∈ exchanges (own j (h ++ [(i, e)]))) :
    (calls j).Reads py answer := by
  by_cases hij : i = j
  · subst hij
    rw [own_append_self] at hwritten hmem
    have hold : rowWrites (own i h) ≠ [] := by simpa [hwrites] using hwritten
    rcases hfirst with hnone | hnone
    · exact hJ.reads i hold request answer (by simpa [hnone] using hmem)
    · exact absurd hnone hold
  · rw [own_append_ne hij] at hwritten hmem
    exact hJ.reads j hwritten request answer hmem

theorem LiveToken.favored_snoc (hJ : LiveToken py config calls w₀ h w)
    (hfav : Favors config w₀.row e) : ∀ e' ∈ h ++ [(i, e)], Favors config w₀.row e'.2 := by
  intro e' he'
  rcases List.mem_append.1 he' with he' | he'
  · exact hJ.favored e' he'
  · obtain rfl := List.mem_singleton.1 he'
    exact hfav

/-- A call that writes no row and moves no token. -/
theorem LiveToken.keeps (hJ : LiveToken py config calls w₀ h w) (hfav : Favors config w₀.row e)
    (hwrites : e.call.writesRow = false)
    (hfirst : exchangeOf e = none ∨ exchanges (own i h) = [] ∧ rowWrites (own i h) = [])
    (hholds : ∀ j answer, HoldsGrant (own j (h ++ [(i, e)])) answer ↔ HoldsGrant (own j h) answer)
    (hseen : ∀ token, TokenSeen (h ++ [(i, e)]) token →
      TokenSeen h token ∨ w.row.refreshToken = some token) :
    LiveToken py config calls w₀ (h ++ [(i, e)]) w := by
  refine ⟨hJ.favored_snoc hfav, hJ.times, fun token ht => ?_, hJ.stored,
    hJ.once_snoc (hfirst.imp_right And.left),
    hJ.reads_snoc hwrites (hfirst.imp_right And.right), ?_⟩
  · rcases hseen token ht with ht | ht
    · exact hJ.seen token ht
    · exact hJ.stored token ht
  · rcases hJ.held with ⟨hrow, hnone⟩ | ⟨hrow, hunseen, k, answer, hk, hcarries, hone⟩
    · exact .inl ⟨hrow, fun j answer hj => hnone j answer ((hholds j answer).1 hj)⟩
    · refine .inr ⟨hrow, fun token ht => ?_, k, answer, (hholds k answer).2 hk, hcarries,
        fun j answer' hj => hone j answer' ((hholds j answer').1 hj)⟩
      rcases hseen token ht with ht | ht
      · exact hunseen token ht
      · rintro rfl
        exact hrow ht

/-- A call that neither asks the issuer, nor writes, nor loads. -/
theorem LiveToken.quiet (hJ : LiveToken py config calls w₀ h w) (hfav : Favors config w₀.row e)
    (hwrites : e.call.writesRow = false) (hexchange : exchangeOf e = none)
    (hload : loadAnswer e = none) : LiveToken py config calls w₀ (h ++ [(i, e)]) w := by
  refine hJ.keeps hfav hwrites (.inl hexchange) (holdsGrant_quiet hexchange hwrites)
    fun token ht => ?_
  rcases seen_snoc.1 ht with ht | ⟨id, row, rfl, -⟩
  · exact .inl ht
  · cases hload

/-- A grant takes the live token from the row into the hands of the call. -/
theorem LiveToken.granted {request : TokenRequest} {answer : TokenEndpointAnswer} {token : Str}
    (hJ : LiveToken py config calls w₀ h w)
    (hallowed : GrantAllowed py rp sessionId (own i h) (.postTokenRequest request))
    (hstatus : answer.status = 200) (hrequest : request = rp.refreshGrant w.live)
    (hcarries : Carries py answer token) (hnew : token ∉ w.known) :
    LiveToken py config calls w₀ (h ++ [(i, ⟨.postTokenRequest request, .ok answer⟩)])
      { w with live := token, used := w.known } := by
  obtain ⟨hexchange, hwrites, row, sent, hloads, htoken, hsent⟩ := hallowed
  obtain rfl := refreshGrant_injective (hsent.symm.trans hrequest)
  have hlive : TokenSeen h w.live := seen_of_loads hloads htoken
  rcases hJ.held with ⟨hrow, hnone⟩ | ⟨-, hunseen, -⟩
  swap
  · exact absurd rfl (hunseen _ hlive)
  have hseen : ∀ t, TokenSeen (h ++ [(i, ⟨.postTokenRequest request, .ok answer⟩)]) t →
      t ∈ w.known := by
    intro t ht
    rcases seen_snoc.1 ht with ht | ⟨id, row, heq, -⟩
    · exact hJ.seen t ht
    · cases heq
  refine ⟨hJ.favored_snoc fun x hx => (by cases hx), hJ.times,
    fun t ht => List.mem_cons_of_mem _ (hseen t ht),
    fun t ht => List.mem_cons_of_mem _ (hJ.stored t ht), hJ.once_snoc (.inr hexchange),
    hJ.reads_snoc rfl (.inr hwrites), .inr ?_⟩
  refine ⟨fun heq => ?_, fun t ht heq => ?_, i, answer, ?_, hcarries, fun j answer' hj => ?_⟩
  · exact hnew (hJ.stored token heq)
  · have hlive' : t = token := heq
    exact hnew (hlive' ▸ hseen t ht)
  · rw [own_append_self]
    refine ⟨⟨request, ?_⟩, hstatus, ?_⟩
    · simp [hexchange, exchangeOf]
    · simp [hwrites, HostCall.writesRow]
  · by_contra hij
    rw [own_append_ne (Ne.symm hij)] at hj
    exact hnone j answer' hj

/-- A refused exchange moves nothing. -/
theorem LiveToken.refused {request : TokenRequest} {ans : Except Exn TokenEndpointAnswer}
    (hJ : LiveToken py config calls w₀ h w)
    (hallowed : GrantAllowed py rp sessionId (own i h) (.postTokenRequest request))
    (hstatus : ∀ answer, ans = .ok answer → answer.status ≠ 200)
    (herror : ∀ e, ans = .error e → e = .tokenEndpointError) :
    LiveToken py config calls w₀ (h ++ [(i, ⟨.postTokenRequest request, ans⟩)]) w := by
  obtain ⟨hexchange, hwrites, -⟩ := hallowed
  have hport : PortAnswer ⟨.postTokenRequest request, ans⟩ :=
    fun x hx => .inl ⟨⟨request, rfl⟩, herror x hx⟩
  refine hJ.keeps hport rfl (.inr ⟨hexchange, hwrites⟩) ?_ ?_
  · intro j answer
    by_cases hij : i = j
    · subst hij
      rw [own_append_self]
      constructor
      · rintro ⟨⟨request', hposted⟩, h200, -⟩
        have hans : ans = .ok answer := by
          simp only [exchanges_append, hexchange, List.nil_append, exchanges_cons, exchangeOf,
            Option.toList_some, exchanges_nil, List.append_nil, List.cons.injEq, Prod.mk.injEq,
            and_true] at hposted
          exact hposted.2
        exact absurd h200 (hstatus answer hans)
      · rintro ⟨⟨request', hposted⟩, -⟩
        rw [hexchange] at hposted
        cases hposted
    · rw [own_append_ne hij]
  · intro token ht
    rcases seen_snoc.1 ht with ht | ⟨id, row, heq, -⟩
    · exact .inl ht
    · cases heq

/-- A write puts the live token into the row. -/
theorem LiveToken.stores {replaced token : Str} (hJ : LiveToken py config calls w₀ h w)
    (hallowed : (calls i).allows py rp sessionId (own i h) (.replaceRefreshToken replaced token)) :
    LiveToken py config calls w₀
      (h ++ [(i, ⟨.replaceRefreshToken replaced token, .ok (.bool true)⟩)])
      { w with row := w.row.replaced token } := by
  obtain ⟨answer, hholds, hcarries, hreads⟩ := (calls i).replaces hallowed
  rcases hJ.held with ⟨-, hnone⟩ | ⟨hrow, hunseen, k, answer', hk, hcarries', hone⟩
  · exact absurd hholds (hnone i answer)
  obtain rfl := hone i answer hholds
  obtain ⟨⟨request, hexchange⟩, -, hwrites⟩ := hholds
  obtain ⟨⟨request', hexchange'⟩, -⟩ := hk
  rw [hexchange, List.singleton_inj, Prod.mk.injEq] at hexchange'
  obtain rfl := Except.ok.inj hexchange'.2
  obtain rfl := hcarries.unique hcarries'
  have hlast : rowWrites (own i (h ++ [(i, (⟨.replaceRefreshToken replaced w.live,
      .ok (.bool true)⟩ : HostEvent))])) ≠ [] := by
    rw [own_append_self]
    simp [HostCall.writesRow]
  refine ⟨hJ.favored_snoc rfl, hJ.times, fun t ht => ?_, fun t ht => ?_,
    hJ.once_snoc (.inl rfl), fun j hwritten request' answer' hmem => ?_,
    .inl ⟨rfl, fun j answer' hj => ?_⟩⟩
  · rcases seen_snoc.1 ht with ht | ⟨id, row, heq, -⟩
    · exact hJ.seen t ht
    · cases heq
  · obtain rfl : w.live = t := Option.some.inj ht
    exact List.mem_cons_self
  · by_cases hij : i = j
    · subst hij
      rw [own_append_self] at hmem
      have hsame : (request', (Except.ok answer' : Except Exn TokenEndpointAnswer)) =
          (request, .ok answer) := by simpa [hexchange, exchangeOf] using hmem
      obtain rfl := Except.ok.inj (Prod.mk.inj hsame).2
      exact hreads
    · rw [own_append_ne hij] at hwritten hmem
      exact hJ.reads j hwritten request' answer' hmem
  · by_cases hij : i = j
    · subst hij
      exact hlast hj.2.2
    · rw [own_append_ne hij] at hj
      exact hij (hone j answer' hj).symm

/-- Every call of a run keeps the invariant. -/
theorem LiveToken.step {c : HostCall} {ans : Except Exn c.Answer}
    (hJ : LiveToken py config calls w₀ h w)
    (hallowed : (calls i).allows py rp sessionId (own i h) c)
    (hstep : oneTimeIssuer py rp config w c ans w') :
    LiveToken py config calls w₀ (h ++ [(i, ⟨c, ans⟩)]) w' := by
  cases c
  case postTokenRequest request =>
    rcases hstep with ⟨answer, token, rfl, hstatus, hrequest, hcarries, hnew, rfl⟩ |
      ⟨hstatus, herror, rfl⟩
    · exact hJ.granted ((calls i).allows_grant hallowed) hstatus hrequest hcarries hnew
    · exact hJ.refused ((calls i).allows_grant hallowed) hstatus herror
  case replaceRefreshToken replaced token =>
    obtain ⟨rfl, rfl⟩ := hstep
    exact hJ.stores hallowed
  case load id =>
    obtain ⟨rfl, rfl⟩ := hstep
    refine hJ.keeps ⟨w'.row, rfl, hJ.times⟩ rfl (.inl rfl) (holdsGrant_quiet rfl rfl) fun t ht => ?_
    rcases seen_snoc.1 ht with ht | ⟨id', row, heq, htoken⟩
    · exact .inl ht
    · cases heq
      exact .inr htoken
  case wallClock =>
    obtain ⟨⟨reading, rfl, hadmits⟩, rfl⟩ := hstep
    exact hJ.quiet ⟨reading, rfl, hadmits.congr ⟨hJ.times.1.symm, hJ.times.2.symm⟩⟩ rfl rfl rfl
  case verifier owner step =>
    obtain ⟨hport, rfl⟩ := hstep
    exact hJ.quiet hport rfl rfl rfl
  case enter transaction =>
    obtain ⟨rfl, rfl⟩ := hstep
    exact hJ.quiet (fun x hx => (by cases hx)) rfl rfl rfl
  case leave transaction returned =>
    obtain ⟨rfl, rfl⟩ := hstep
    exact hJ.quiet (fun x hx => (by cases hx)) rfl rfl rfl
  all_goals exact ((calls i).allows_grant hallowed).elim

theorem own_favored (hfav : ∀ e ∈ h, Favors config w₀.row e.2) (i : ι) :
    ∀ e ∈ own i h, Favors config w₀.row e :=
  fun e he => hfav (i, e) (mem_own.1 he)

theorem mem_exchanges {es : List HostEvent} {request : TokenRequest}
    {ans : Except Exn TokenEndpointAnswer} :
    (request, ans) ∈ exchanges es ↔ (⟨.postTokenRequest request, ans⟩ : HostEvent) ∈ es := by
  unfold exchanges
  rw [List.mem_filterMap]
  constructor
  · rintro ⟨⟨c, ans'⟩, he, hexchange⟩
    cases c
    case postTokenRequest => cases hexchange; exact he
    all_goals cases hexchange
  · exact fun he => ⟨_, he, rfl⟩

theorem HoldsGrant.posted {es : List HostEvent} {answer : TokenEndpointAnswer}
    (h : HoldsGrant es answer) :
    ∃ request, (⟨.postTokenRequest request, .ok answer⟩ : HostEvent) ∈ es := by
  obtain ⟨⟨request, hexchange⟩, -⟩ := h
  refine ⟨request, mem_exchanges.1 ?_⟩
  rw [hexchange]
  exact List.mem_singleton_self _

/-- The invariant holds at every moment of a run. -/
theorem RotationRun.liveToken (run : RotationRun py rp config sessionId calls w₀ h w pool)
    (hrow : w₀.row.refreshToken = some w₀.live) : LiveToken py config calls w₀ h w := by
  refine run.observe (P := fun _ => True) (J := fun h w => LiveToken py config calls w₀ h w)
    (fun _ _ _ _ _ => trivial) (fun i => (calls i).run_allows) ?_
    fun h w i c ans w' hJ hallowed hstep => hJ.step hallowed hstep
  refine ⟨fun e he => ?_, ⟨rfl, rfl⟩, fun token ht => ?_, fun token ht => ?_, fun i => ?_,
    fun i hwritten => ?_, .inl ⟨hrow, fun i answer hholds => ?_⟩⟩
  · exact absurd he List.not_mem_nil
  · obtain ⟨i, id, row, hmem, -⟩ := ht
    exact absurd hmem List.not_mem_nil
  · obtain rfl : w₀.live = token := Option.some.inj (hrow.symm.trans ht)
    exact List.mem_cons_self
  · exact Nat.zero_le 1
  · exact absurd rfl hwritten
  · obtain ⟨⟨request, hexchange⟩, -⟩ := hholds
    cases hexchange

/-- **Where a rotation is lost.** At a moment at which every granted call has ended, the row holds
the live token exactly when every call could read the answer it was granted with as far as its
rotation. -/
theorem refresh_rotation_iff (hpy : PyJwtAnswers py)
    (run : RotationRun py rp config sessionId calls w₀ h w pool)
    (hrow : w₀.row.refreshToken = some w₀.live) (hsettled : Settled h pool) :
    w.row.refreshToken = some w.live ↔ ∀ i request answer,
      (i, (⟨.postTokenRequest request, .ok answer⟩ : HostEvent)) ∈ h → answer.status = 200 →
        (calls i).Reads py answer := by
  have hJ := run.liveToken hrow
  rcases hJ.held with ⟨hlive, hnone⟩ | ⟨hlost, hunseen, i, answer, hholds, hcarries, -⟩
  · refine iff_of_true hlive fun i request answer hmem hstatus => ?_
    have hposted : (request, .ok answer) ∈ exchanges (own i h) := mem_exchanges.2 (mem_own.2 hmem)
    obtain ⟨x, hone⟩ := List.length_eq_one_iff.1
      (le_antisymm (hJ.once i) (List.length_pos_of_mem hposted))
    obtain rfl : (request, .ok answer) = x := List.mem_singleton.1 (hone ▸ hposted)
    have hwritten : rowWrites (own i h) ≠ [] := fun hwrites =>
      hnone i answer ⟨⟨request, hone⟩, hstatus, hwrites⟩
    exact hJ.reads i hwritten request answer hposted
  · refine iff_of_false hlost fun hreads => ?_
    obtain ⟨request, hposted⟩ := hholds.posted
    obtain ⟨r, hdone⟩ := hsettled i request answer (mem_own.1 hposted) hholds.2.1
    refine RefreshCall.saves hpy (run.path hdone) (own_favored hJ.favored i) hcarries
      (hreads i request answer (mem_own.1 hposted) hholds.2.1) ?_ hholds
    exact fun id row hload htoken => hunseen _ ⟨i, id, row, mem_own.1 hload, htoken⟩ rfl

end Invariant

/-! ## Runs on one row -/

/-- The rotation of an answer. -/
def carriedToken (py : Platform) (answer : TokenEndpointAnswer) : Option Str :=
  match (jsonObject py answer.body).bind (·.get (str "refresh_token")) with
  | some (.str token) => if isRefreshToken token then some token else none
  | _ => none

theorem carries_of_carriedToken {py : Platform} {answer : TokenEndpointAnswer} {token : Str}
    (h : carriedToken py answer = some token) : Carries py answer token := by
  unfold carriedToken at h
  split at h
  · rename_i found hfound
    obtain ⟨document, hparsed, hget⟩ := Option.bind_eq_some_iff.1 hfound
    split_ifs at h with hwell
    obtain rfl := Option.some.inj h
    exact ⟨document, hparsed, hget, hwell⟩
  · cases h

/-- Whether the row is admitted at a reading of the clock. -/
def admitsReading (config : WebAuthConfig) (row : SessionRecord) (reading : ℚ) : Bool :=
  (DateTime.fromTimestamp (truncate reading)).any fun now =>
    decide (isAdmitted config.sessionLifetime row now = .ok true)

theorem admitsReading_sound {config : WebAuthConfig} {row : SessionRecord} {reading : ℚ}
    (h : admitsReading config row reading = true) : AdmitsReading config row reading := by
  obtain ⟨now, hnow, hadmitted⟩ := (Option.any_eq_true _ _).1 h
  exact ⟨now, hnow, of_decide_eq_true hadmitted⟩

/-- How the issuer and the store answer a call for a choice. -/
def respondRotation (py : Platform) (rp : OidcRelyingParty) (config : WebAuthConfig) :
    HostChoice → Rotation → (c : HostCall) → Option (Except Exn c.Answer × Rotation)
  | .exchanged answer, w, .postTokenRequest request =>
    if answer.status = 200 then
      match carriedToken py answer with
      | some token =>
        if request = rp.refreshGrant w.live ∧ token ∉ w.known then
          some (.ok answer, { w with live := token, used := w.known })
        else none
      | none => none
    else some (.ok answer, w)
  | .plain, w, .load _ => some (.ok (some w.row), w)
  | .plain, w, .replaceRefreshToken _ token =>
    some (.ok (.bool true), { w with row := w.row.replaced token })
  | .reading t, w, .wallClock => if admitsReading config w.row t then some (.ok t, w) else none
  | .plain, w, .enter _ => some (.ok (), w)
  | .plain, w, .leave _ _ => some (.ok (), w)
  | _, _, _ => none

/-- The responder of a one-time issuer and the store. -/
def rotationResponder (py : Platform) (rp : OidcRelyingParty) (config : WebAuthConfig) :
    Responder (oneTimeIssuer py rp config) HostChoice where
  respond := respondRotation py rp config
  allowed x w c ans w' h := by
    unfold respondRotation at h
    split at h
    case h_1 =>
      split_ifs at h with hstatus
      · split at h
        · rename_i token hcarried
          split_ifs at h with hgranted
          cases h
          exact .inl ⟨_, token, rfl, hstatus, hgranted.1, carries_of_carriedToken hcarried,
            hgranted.2, rfl⟩
        · cases h
      · cases h
        exact .inr ⟨fun a ha => Except.ok.inj ha ▸ hstatus, fun e he => (by cases he), rfl⟩
    case h_4 =>
      split_ifs at h with hadmits
      cases h
      exact ⟨⟨_, rfl, admitsReading_sound hadmits⟩, rfl⟩
    all_goals first
      | cases h; done
      | (cases h; exact ⟨rfl, rfl⟩)

/-- The surroundings of the runs below. -/
def rotationPlatform : Platform := { loginPlatform with jsonLoads := grantPlatform.jsonLoads }

theorem rotationPlatform_answers : PyJwtAnswers rotationPlatform where
  header := loginPlatform_answers.header
  payload := loginPlatform_answers.payload
  audience := loginPlatform_answers.audience

/-- One session, whose row holds the live token. -/
def demoRotation : Rotation := ⟨demoRow, str "r", []⟩

/-- A refresh of the access token and a question for the groups that overlap. -/
def overlappingCalls : Bool → RefreshCall
  | true => .currentGroups
  | false => .freshAccessToken

/-- Where a run of such calls stands. -/
abbrev RotationMoment := Moment Rotation Bool hostCalls Exn OperationAnswer

/-- The question for the groups reads the row before the refresh is granted, and is refused. -/
def overlappingSchedule (tokenType : Str) : List (Bool × HostChoice) :=
  [(false, .plain), (false, .plain), (false, .reading 40), (false, .plain), (true, .plain),
    (true, .plain), (true, .reading 41), (true, .plain), (true, .reading 42),
    (false, .exchanged ⟨200, grantBody tokenType (str "q")⟩), (true, .exchanged ⟨400, []⟩)]

/-- The moment that schedule leads to, and the refresh goes on from there. -/
def overlapped (tokenType : Str) (rest : List (Bool × HostChoice)) : Option RotationMoment :=
  (Moment.before demoRotation fun i =>
    ((overlappingCalls i).operation demoRelyingParty demoConfig (str "s")).run
      rotationPlatform).execute (rotationResponder rotationPlatform demoRelyingParty demoConfig)
    (overlappingSchedule tokenType ++ rest)

/-- Whether both calls have ended, and the row holds this refresh token. -/
def endedWith (token : Str) (m : RotationMoment) : Bool :=
  (m.pool true).outcome.isSome && (m.pool false).outcome.isSome &&
    m.state.row.refreshToken = some token && m.state.live = str "q"

theorem settled_of_endedWith {token : Str} {m : RotationMoment} (h : endedWith token m = true) :
    Settled m.history m.pool := by
  simp only [endedWith, Bool.and_eq_true, Option.isSome_iff_exists, decide_eq_true_eq] at h
  obtain ⟨⟨⟨⟨r, hr⟩, ⟨r', hr'⟩⟩, -⟩, -⟩ := h
  rintro (_ | _) - - - -
  · exact ⟨r', Program.outcome_eq_some hr'⟩
  · exact ⟨r, Program.outcome_eq_some hr⟩

theorem refresh_rotation_iff_of_overlap : ∃ m : RotationMoment, endedWith (str "q") m = true ∧
    (m.state.row.refreshToken = some m.state.live ↔ ∀ i request answer,
      (i, (⟨.postTokenRequest request, .ok answer⟩ : HostEvent)) ∈ m.history →
        answer.status = 200 → (overlappingCalls i).Reads rotationPlatform answer) := by
  have h : (overlapped (str "Bearer") [(false, .plain), (false, .plain), (false, .reading 60),
      (false, .plain), (false, .plain)]).any (endedWith (str "q")) = true := by
    decide +kernel
  obtain ⟨m, run, hm⟩ := Moment.exists_run h
  exact ⟨m, hm, refresh_rotation_iff rotationPlatform_answers run rfl (settled_of_endedWith hm)⟩

/-- **An unusable token type loses the rotation.** -/
theorem refresh_rotation_lost : ∃ m : RotationMoment,
    RotationRun rotationPlatform demoRelyingParty demoConfig (str "s") overlappingCalls demoRotation
      m.history m.state m.pool ∧ demoRotation.row.refreshToken = some demoRotation.live ∧
    Settled m.history m.pool ∧ m.state.row.refreshToken ≠ some m.state.live := by
  have h : (overlapped (str "DPoP") []).any (endedWith (str "r")) = true := by
    decide +kernel
  obtain ⟨m, run, hm⟩ := Moment.exists_run h
  refine ⟨m, run, rfl, settled_of_endedWith hm, ?_⟩
  simp only [endedWith, Bool.and_eq_true, decide_eq_true_eq] at hm
  rw [hm.1.2, hm.2]
  decide

end WebAuth
