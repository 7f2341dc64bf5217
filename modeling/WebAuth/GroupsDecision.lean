import WebAuth.LoginRuns
import WebAuth.SessionLifetimeRuns

/-!
# The groups of a session, from end to end

`current_groups` reads the row in one transaction, makes one refresh grant with the row's token,
judges the ID token of the answer and reads the row again in a second transaction. What its calls are
answered fixes how it ends, and the rotated refresh token is stored whatever the ID token is worth.
-/

namespace WebAuth

open Python Effects Program DecisionTable

/-! ## What the calls are answered -/

/-- The exchange of a refresh grant: a refusal, or the document of a grant and its rotation. -/
inductive GrantAnswer (py : Platform) (rp : OidcRelyingParty) (sent : Str) :
    List HostEvent → Except OidcRefusal (Dict × Option Str) → Prop
  | unsent (malformed : isRefreshToken sent = false) :
      GrantAnswer py rp sent [] (.error { reason := .tokenEndpointFailed })
  | unreached (wellFormed : isRefreshToken sent = true) :
      GrantAnswer py rp sent
        [⟨.postTokenRequest (rp.refreshGrant sent), .error .tokenEndpointError⟩]
        (.error { reason := .tokenEndpointFailed })
  | refused {a error} (wellFormed : isRefreshToken sent = true)
      (refuses : RefusesRequest py (.ok a) error) :
      GrantAnswer py rp sent [⟨.postTokenRequest (rp.refreshGrant sent), .ok a⟩]
        (.error { reason := .tokenRequestRefused, idpError := idpErrorCode error })
  | failed {a} (wellFormed : isRefreshToken sent = true)
      (unrefused : ¬∃ error, RefusesRequest py (.ok a) error)
      (ungranted : ¬(a.status = 200 ∧
        ∃ rotated, IssuesRefreshToken (tokenAnswerDocument py a.body) rotated)) :
      GrantAnswer py rp sent [⟨.postTokenRequest (rp.refreshGrant sent), .ok a⟩]
        (.error { reason := .tokenEndpointFailed })
  | granted {a rotated} (wellFormed : isRefreshToken sent = true) (status : a.status = 200)
      (issues : IssuesRefreshToken (tokenAnswerDocument py a.body) rotated) :
      GrantAnswer py rp sent [⟨.postTokenRequest (rp.refreshGrant sent), .ok a⟩]
        (.ok (tokenAnswerDocument py a.body, rotated))

/-- The groups a payload lists: none without the claim, and else those of a list of strings. -/
def ClaimsGroups (claims : Dict) (groups : List Str) : Prop :=
  (claims.get (str "groups") = none ∧ groups = []) ∨
    claims.get (str "groups") = some (.arr (groups.map .str))

/-- A fault of the ID token of a refresh. -/
inductive GroupsFault where
  | nonceHeld
  | partyMismatch
  | subjectMismatch
  | stale
  | invalidGroups

namespace GroupsFault

/-- The faults in the order they are looked for. -/
def order : List GroupsFault := [nonceHeld, partyMismatch, subjectMismatch, stale, invalidGroups]

/-- The reason a fault is refused for. -/
def reason : GroupsFault → OidcRefusalReason
  | nonceHeld => .nonceMismatch
  | partyMismatch => .authorizedPartyMismatch
  | subjectMismatch => .subjectMismatch
  | stale => .staleIdToken
  | invalidGroups => .invalidIdentityClaim

/-- When a fault is there, for the account `subject` and a grant begun at the second `startedAt`. -/
def Applies (rp : OidcRelyingParty) (claims : VerifiedClaims) (subject : Str) (startedAt : ℤ) :
    GroupsFault → Prop
  | nonceHeld => ∃ value, claims.claims.get (str "nonce") = some value
  | partyMismatch => ¬IsForParty rp claims
  | subjectMismatch => claims.subject ≠ some subject
  | stale => claims.issuedAt + rp.config.leewaySeconds < startedAt
  | invalidGroups => ¬∃ groups, ClaimsGroups claims.claims groups

end GroupsFault

/-- What a verified ID token has: a signature and an issuer that PyJWT checked, the client among its
audiences, and time claims that hold where the verification read the clock. -/
structure VerifiedIdToken (py : Platform) (rp : OidcRelyingParty) (idToken : Str)
    (steps : List HostEvent) (claims : VerifiedClaims) : Prop where
  decoded : ∃ key, py.jwtDecode ⟨idToken, key, [algorithm], [rp.config.clientId], rp.config.issuer,
    libraryChecks⟩ = .ok claims.claims
  audience : rp.config.clientId ∈ claims.audiences
  times : ∃ now, (⟨.verifier rp.jwtVerifier .wallClock, .ok now⟩ : HostEvent) ∈ steps ∧
    TimeClaimsHold (rp.verifierFor rp.config.clientId) claims now

/-- The verification of the ID token of a document, and the groups it is worth. -/
inductive IdTokenAnswer (py : Platform) (rp : OidcRelyingParty) (document : Dict) (subject : Str)
    (startedAt : ℤ) : List HostEvent → Except OidcRefusal (List Str) → Prop
  | missing (unnamed : ¬∃ idToken, document.get (str "id_token") = some (.str idToken)) :
      IdTokenAnswer py rp document subject startedAt [] (.error { reason := .tokenEndpointFailed })
  | rejected {idToken steps reason} (named : document.get (str "id_token") = some (.str idToken))
      (verification : Path ((verify py (rp.verifierFor rp.config.clientId) idToken .any).of
        rp.jwtVerifier) steps (.ok (.error reason))) :
      IdTokenAnswer py rp document subject startedAt steps
        (.error { reason := .idTokenRejected, tokenRejection := some reason })
  | faulty {idToken steps claims fault}
      (named : document.get (str "id_token") = some (.str idToken))
      (verification : Path ((verify py (rp.verifierFor rp.config.clientId) idToken .any).of
        rp.jwtVerifier) steps (.ok (.ok claims)))
      (first : First (GroupsFault.Applies rp claims subject startedAt) GroupsFault.order fault) :
      IdTokenAnswer py rp document subject startedAt steps (.error { reason := fault.reason })
  | faultless {idToken steps claims groups}
      (named : document.get (str "id_token") = some (.str idToken))
      (verification : Path ((verify py (rp.verifierFor rp.config.clientId) idToken .any).of
        rp.jwtVerifier) steps (.ok (.ok claims)))
      (verified : VerifiedIdToken py rp idToken steps claims)
      (none : ∀ fault : GroupsFault, ¬fault.Applies rp claims subject startedAt)
      (lists : ClaimsGroups claims.claims groups) :
      IdTokenAnswer py rp document subject startedAt steps (.ok groups)

/-- The refusal that carries what the issuer's part failed for. -/
def issuerUnavailable (cause : OidcRefusal) : AccessTokenRefusal :=
  { reason := .issuerUnavailable, issuerRefusal := some cause }

section Reply

variable (py : Platform) (rp : OidcRelyingParty) (config : WebAuthConfig) (sessionId : Str)

/-- A grant for a standing row: the first transaction, the clock, the exchange and, where it granted,
the verification of the ID token. -/
inductive GrantFor : List HostEvent → SessionRecord → Str →
    Except OidcRefusal (Option Str × Except OidcRefusal (List Str)) → Prop
  | refused {tr row sent reading trG cause}
      (first : ReadsRow config sessionId tr (some row) (some row))
      (token : row.refreshToken = some sent)
      (grant : GrantAnswer py rp sent trG (.error cause)) :
      GrantFor (tr ++ ⟨.wallClock, .ok reading⟩ :: trG) row sent (.error cause)
  | granted {tr row sent reading trG document rotated trC groups}
      (first : ReadsRow config sessionId tr (some row) (some row))
      (token : row.refreshToken = some sent)
      (grant : GrantAnswer py rp sent trG (.ok (document, rotated)))
      (checked : IdTokenAnswer py rp document row.user.id (truncate reading) trC groups) :
      GrantFor (tr ++ ⟨.wallClock, .ok reading⟩ :: (trG ++ trC)) row sent (.ok (rotated, groups))

/-- **The calls of `current_groups` and its reply to what they were answered.** -/
inductive GroupsReply : List HostEvent → Except AccessTokenRefusal (List Str) → Prop
  | ended {tr row} (first : ReadsRow config sessionId tr row none) :
      GroupsReply tr (.error sessionEnded)
  | tokenless {tr row} (first : ReadsRow config sessionId tr (some row) (some row))
      (tokenless : row.refreshToken = none) : GroupsReply tr (.error signInAgain)
  | invalidGrant {tr row sent cause}
      (grant : GrantFor py rp config sessionId tr row sent (.error cause))
      (invalid : cause.idpError = some (str "invalid_grant")) :
      GroupsReply tr (.error signInAgain)
  | ungranted {tr row sent cause}
      (grant : GrantFor py rp config sessionId tr row sent (.error cause))
      (other : cause.idpError ≠ some (str "invalid_grant")) :
      GroupsReply tr (.error (issuerUnavailable cause))
  | gone {tr row sent rotated groups trK}
      (grant : GrantFor py rp config sessionId tr row sent (.ok (rotated, groups)))
      (second : Keeps config sessionId sent rotated trK false) :
      GroupsReply (tr ++ trK) (.error sessionEnded)
  | rejected {tr row sent rotated cause trK}
      (grant : GrantFor py rp config sessionId tr row sent (.ok (rotated, .error cause)))
      (second : Keeps config sessionId sent rotated trK true) :
      GroupsReply (tr ++ trK) (.error (issuerUnavailable cause))
  | yielded {tr row sent rotated groups trK}
      (grant : GrantFor py rp config sessionId tr row sent (.ok (rotated, .ok groups)))
      (second : Keeps config sessionId sent rotated trK true) :
      GroupsReply (tr ++ trK) (.ok groups)

end Reply

/-! ## The transactions -/

/-- Why a reading of the row raises where every call is answered: the store answered no `bool`, or a
judgement left the calendar. -/
def Unjudged (config : WebAuthConfig) (es : List HostEvent) : Prop :=
  (∃ sessionId token typeName,
    (⟨.replaceRefreshToken sessionId token, .ok (.other typeName)⟩ : HostEvent) ∈ es) ∨
    ∃ sessionId row reading, (⟨.load sessionId, .ok (some row)⟩ : HostEvent) ∈ es ∧
      (⟨.wallClock, .ok reading⟩ : HostEvent) ∈ es ∧ Unjudgeable config row reading

theorem Unjudged.mono {config : WebAuthConfig} {es es' : List HostEvent} (h : Unjudged config es)
    (hsub : es ⊆ es') : Unjudged config es' := by
  rcases h with ⟨sessionId, token, typeName, h⟩ | ⟨sessionId, row, reading, h₁, h₂, h₃⟩
  · exact .inl ⟨sessionId, token, typeName, hsub h⟩
  · exact .inr ⟨sessionId, row, reading, hsub h₁, hsub h₂, h₃⟩

section Transactions

variable {config : WebAuthConfig} {sessionId sent : Str} {rotated : Option Str}
  {es : List HostEvent} {row standing : Option SessionRecord}

theorem within_returns {α : Type} {transaction : Transaction} {block : Task α} {a : α}
    (h : Path block es (.ok a)) : Path (within transaction block)
      (⟨.enter transaction, .ok ()⟩ :: (es ++ [⟨.leave transaction true, .ok ()⟩])) (.ok a) := by
  refine ⟨.ok (), _, rfl, ?_⟩
  show Path (block.andThen _) _ _
  exact path_andThen.2 ⟨es, _, .ok a, rfl, h, .ok (), [], rfl, rfl, rfl⟩

theorem Judges.path (h : Judges config row es standing) :
    Path (standingSession config row) es (.ok standing) := by
  cases row with
  | none =>
    obtain ⟨rfl, rfl⟩ := h
    exact ⟨rfl, rfl⟩
  | some row =>
    obtain ⟨reading, now, rfl, hnow, hstands⟩ := h
    refine ⟨.ok reading, [], rfl, ?_⟩
    show Path ((done (orOverflow (DateTime.fromTimestamp (truncate reading)))).andThen _) [] _
    rw [hnow]
    exact path_done.2 ⟨rfl, hstands.symm⟩

theorem ReadsRow.path (h : ReadsRow config sessionId es row standing) :
    Path (evidenceOfStandingSession config sessionId) es (.ok (evidenceOf standing)) := by
  obtain ⟨judged, hjudges, rfl⟩ := h
  have hbody : Path (do
      let record ← invoke (.load sessionId)
      let standing ← standingSession config record
      return evidenceOf standing) (⟨.load sessionId, .ok row⟩ :: judged)
      (.ok (evidenceOf standing)) := by
    refine ⟨.ok row, judged, rfl, ?_⟩
    rw [← List.append_nil judged]
    exact hjudges.path.bind_rest.2 ⟨rfl, rfl⟩
  exact within_returns hbody

theorem Keeps.path {kept : Bool} (h : Keeps config sessionId sent rotated es kept) :
    Path (keptAfterGrant config sessionId sent rotated) es (.ok kept) := by
  have hread : ∀ {row standing judged b} tail, Judges config row judged standing →
      Path (standsStored sessionId (replacement sent rotated) standing) tail (.ok b) →
      Path (keptAfterGrant config sessionId sent rotated)
        (rowRead sessionId row ++ judged ++ (tail ++ [⟨.leave .session true, .ok ()⟩])) (.ok b) := by
    intro row standing judged b tail hjudges htail
    have hcalls : rowRead sessionId row ++ judged ++ (tail ++ [⟨.leave .session true, .ok ()⟩]) =
        ⟨.enter .session, .ok ()⟩ :: ((⟨.load sessionId, .ok row⟩ :: (judged ++ tail)) ++
          [⟨.leave .session true, .ok ()⟩]) := by
      simp [rowRead]
    rw [hcalls]
    exact within_returns ⟨.ok row, judged ++ tail, rfl, hjudges.path.bind_rest.2 htail⟩
  cases h with
  | ended judges => exact hread [] judges ⟨rfl, rfl⟩
  | kept judges same =>
    refine hread [] judges ?_
    rw [same]
    exact ⟨rfl, rfl⟩
  | @replaced judged row record token b judges differs =>
    refine hread [⟨.replaceRefreshToken sessionId token, .ok (.bool kept)⟩] judges ?_
    rw [differs]
    exact ⟨.ok (.bool kept), [], rfl, rfl, rfl⟩

/-- The calls that are neither a token request nor a verifier's step. -/
def HostCall.OfHost : HostCall → Prop
  | postTokenRequest _ => False
  | verifier _ _ => False
  | _ => True

theorem PortAnswer.returns {e : HostEvent} (h : PortAnswer e) (hcall : e.call.OfHost) :
    e.answer.isOk = true := by
  obtain ⟨c, ans⟩ := e
  cases ans with
  | ok a => rfl
  | error x =>
    rcases h x rfl with ⟨⟨request, heq⟩, -⟩ | ⟨⟨owner, url, heq⟩, -⟩
    · obtain rfl : c = .postTokenRequest request := heq
      exact hcall.elim
    · obtain rfl : c = .verifier owner (.fetchKeySet url) := heq
      exact hcall.elim

theorem HostCall.ReadsSession.ofHost {c : HostCall} (h : c.ReadsSession sessionId) : c.OfHost := by
  cases c <;> trivial

theorem Troubled.unjudged (h : Troubled config es) (hports : ∀ e ∈ es, PortAnswer e)
    (hcalls : ∀ e ∈ es, e.call.OfHost) : Unjudged config es := by
  rcases h with ⟨e, he, herror⟩ | h
  · rw [(hports e he).returns (hcalls e he)] at herror
    cases herror
  · exact h

theorem keptAfterGrant_only :
    Only HostCall.OfHost (keptAfterGrant config sessionId sent rotated) := by
  refine Only.within trivial (fun _ => trivial) (Only.bind ⟨trivial, only_done⟩ fun row => ?_)
  refine Only.bind ?_ fun standing => ?_
  · cases row with
    | none => trivial
    | some row =>
      exact Only.bind (Only.bind ⟨trivial, only_done⟩ fun _ => only_done _) fun _ => only_done _
  · cases standing with
    | none => trivial
    | some row =>
      show Only _ (standsStored sessionId (replacement sent rotated) (some row))
      cases replacement sent rotated with
      | none => trivial
      | some token => exact Only.bind ⟨trivial, only_done⟩ fun _ => only_done _

/-- The first transaction reads the row, or raises where the row cannot be judged. -/
theorem evidence_reads {r : Except Exn (Except AccessTokenRefusal StandingEvidence)}
    (h : Path (evidenceOfStandingSession config sessionId) es r) (hports : ∀ e ∈ es, PortAnswer e) :
    (∃ row standing, ReadsRow config sessionId es row standing ∧ r = .ok (evidenceOf standing)) ∨
      (∃ e, r = .error e) ∧ Unjudged config es := by
  have hensures : Ensures (record fun _ e => PortAnswer e) (fun _ _ => True)
      (evidenceOfStandingSession config sessionId) [] fun r es =>
        (∃ row standing, ReadsRow config sessionId es row standing ∧ r = .ok (evidenceOf standing)) ∨
          (∃ e, r = .error e) ∧ Unjudged config es := by
    refine evidenceOfStandingSession_ensures (fun _ _ _ => trivial) ?_ ?_
    · intro x tr htrace htroubled
      refine .inr ⟨⟨x, rfl⟩, htroubled.unjudged (fun e he => (htrace e he).1) fun e he => ?_⟩
      exact (htrace e he).2.ofHost
    · intro tr row standing hread _
      exact .inl ⟨row, standing, hread, rfl⟩
  exact h.ensures (accepted_iff.2 hports) hensures

/-- The second transaction keeps the rotation, or raises where the row cannot be judged. -/
theorem kept_keeps {r : Except Exn Bool}
    (h : Path (keptAfterGrant config sessionId sent rotated) es r)
    (hports : ∀ e ∈ es, PortAnswer e) :
    (∃ kept, Keeps config sessionId sent rotated es kept ∧ r = .ok kept) ∨
      (∃ e, r = .error e) ∧ Unjudged config es := by
  have hcalls := keptAfterGrant_only.path h
  have hensures : Ensures (record fun _ e => PortAnswer e) (fun _ _ => True)
      (keptAfterGrant config sessionId sent rotated) [] fun r es =>
        (∃ kept, Keeps config sessionId sent rotated es kept ∧ r = .ok kept) ∨
          (∃ e, r = .error e) ∧ Troubled config es := by
    refine keptAfterGrant_ensures (fun _ _ _ => trivial) (fun _ _ _ _ _ _ => trivial) ?_ ?_
    · intro x tr _ htroubled
      exact .inr ⟨⟨x, rfl⟩, htroubled⟩
    · intro tr kept hkeeps _
      exact .inl ⟨kept, hkeeps, rfl⟩
  have hends := h.ensures (accepted_iff.2 hports) hensures
  rcases hends with hkept | ⟨hraised, htroubled⟩
  · exact .inl hkept
  · exact .inr ⟨hraised, htroubled.unjudged hports hcalls⟩

end Transactions

/-! ## The grant -/

section Grant

variable {py : Platform} {rp : OidcRelyingParty} {sent subject : Str} {document : Dict}
  {startedAt : ℤ} {claims : VerifiedClaims} {es : List HostEvent}

theorem refusesRequest_iff {a : TokenEndpointAnswer} {error : Str} :
    RefusesRequest py (.ok a) error ↔ (a.status = 400 ∨ a.status = 401) ∧
      (tokenAnswerDocument py a.body).get (str "error") = some (.str error) := by
  constructor
  · rintro ⟨a', heq, hrefuses⟩
    obtain rfl := Except.ok.inj heq
    exact hrefuses
  · exact fun h => ⟨a, rfl, h⟩

/-- What the rotation of an answer is read from. -/
def rotationIn (py : Platform) (ans : Except Exn TokenEndpointAnswer) :
    Except Exn (Dict × Option Str) :=
  (readPosted py ans).bind rotationOf

/-- An answer of the endpoint as it is read: a refusal, or a grant. -/
theorem rotationIn_answers (hsent : isRefreshToken sent = true)
    (ans : Except Exn TokenEndpointAnswer) (hports : ∀ e, ans = .error e → e = .tokenEndpointError) :
    ∃ reply, rotationIn py ans = reply.mapError Exn.refusalError ∧
      GrantAnswer py rp sent [⟨.postTokenRequest (rp.refreshGrant sent), ans⟩] reply := by
  unfold rotationIn
  cases ans with
  | error e =>
    obtain rfl := hports e rfl
    exact ⟨_, rfl, .unreached hsent⟩
  | ok a =>
  show ∃ reply, (readTokenAnswer py a).bind rotationOf = _ ∧ _
  rcases readTokenAnswer_cases py a with ⟨error, hrefuses, -, hread⟩ | ⟨hno, hstatus, hread⟩ |
    ⟨hno, hstatus, hread⟩
  · rw [hread]
    exact ⟨_, rfl, .refused hsent hrefuses⟩
  · rw [hread]
    exact ⟨_, rfl, .failed hsent hno fun h => hstatus h.1⟩
  · rw [hread]
    show ∃ reply, (issuedRefreshToken _).map _ = _ ∧ _
    rcases issuedRefreshToken_cases (tokenAnswerDocument py a.body) with
      ⟨rotated, hissues, hissued⟩ | ⟨hnone, hissued⟩
    · rw [hissued]
      exact ⟨.ok (_, rotated), rfl, .granted hsent hstatus hissues⟩
    · rw [hissued]
      exact ⟨_, rfl, .failed hsent hno fun h => hnone h.2⟩

/-- The reading of an answer is fixed by what it is. -/
theorem GrantAnswer.unique {reply reply' : Except OidcRefusal (Dict × Option Str)}
    (h : GrantAnswer py rp sent es reply) (h' : GrantAnswer py rp sent es reply') :
    reply = reply' := by
  have hgrants : ∀ {a rotated}, a.status = 200 →
      IssuesRefreshToken (tokenAnswerDocument py a.body) rotated →
      ¬∃ error, RefusesRequest py (.ok a) error := by
    rintro a rotated hstatus - ⟨error, hrefuses⟩
    obtain ⟨hcode, -⟩ := refusesRequest_iff.1 hrefuses
    omega
  cases h with
  | unsent malformed =>
    cases h'
    rfl
  | unreached wellFormed =>
    cases h'
    rfl
  | @refused a error wellFormed refuses =>
    cases h' with
    | @refused _ error' _ refuses' =>
      have herror := (refusesRequest_iff.1 refuses).2.symm.trans (refusesRequest_iff.1 refuses').2
      rw [Json.str.inj (Option.some.inj herror)]
    | failed _ unrefused => exact absurd ⟨_, refuses⟩ unrefused
    | granted _ status issues => exact absurd ⟨_, refuses⟩ (hgrants status issues)
  | failed wellFormed unrefused ungranted =>
    cases h' with
    | refused _ refuses => exact absurd ⟨_, refuses⟩ unrefused
    | failed => rfl
    | granted _ status issues => exact absurd ⟨status, _, issues⟩ ungranted
  | granted wellFormed status issues =>
    cases h' with
    | refused _ refuses => exact absurd ⟨_, refuses⟩ (hgrants status issues)
    | failed _ _ ungranted => exact absurd ⟨status, _, issues⟩ ungranted
    | granted _ _ issues' => rw [issues.unique issues']

theorem grantedRotation_unsent (hsent : isRefreshToken sent = false) :
    rp.grantedRotation py sent = done (refusal .tokenEndpointFailed) := by
  unfold OidcRelyingParty.grantedRotation OidcRelyingParty.refreshAnswer
  rw [hsent]
  rfl

/-- The exchange posts once and reads the answer. -/
theorem grantedRotation_sent (hsent : isRefreshToken sent = true) :
    rp.grantedRotation py sent = call (I := hostCalls) (.postTokenRequest (rp.refreshGrant sent))
      fun ans => done (rotationIn py ans) := by
  unfold OidcRelyingParty.grantedRotation OidcRelyingParty.refreshAnswer
  rw [hsent]
  show call (I := hostCalls) _ _ = _
  congr 1
  funext ans
  unfold rotationIn
  cases ans with
  | error e => cases e <;> rfl
  | ok a =>
    show (done (readTokenAnswer py a)).andThen _ = done ((readTokenAnswer py a).bind _)
    cases readTokenAnswer py a with
    | error e => rfl
    | ok document =>
      show (done (issuedRefreshToken document)).andThen _ = done ((issuedRefreshToken document).map _)
      cases issuedRefreshToken document <;> rfl

theorem grantedRotation_answers {r : Except Exn (Dict × Option Str)}
    (h : Path (rp.grantedRotation py sent) es r) (hports : ∀ e ∈ es, PortAnswer e) :
    ∃ reply, r = reply.mapError Exn.refusalError ∧ GrantAnswer py rp sent es reply := by
  cases hsent : isRefreshToken sent with
  | false =>
    rw [grantedRotation_unsent hsent] at h
    obtain ⟨rfl, rfl⟩ := path_done.1 h
    exact ⟨_, rfl, .unsent hsent⟩
  | true =>
    rw [grantedRotation_sent hsent] at h
    obtain ⟨ans, rest, rfl, hdone⟩ := h
    obtain ⟨rfl, rfl⟩ := path_done.1 hdone
    refine rotationIn_answers hsent ans fun e he => ?_
    rcases hports _ List.mem_cons_self e he with ⟨-, hx⟩ | ⟨⟨_, _, hcall⟩, -⟩
    · exact hx
    · cases hcall

theorem GrantAnswer.path {reply : Except OidcRefusal (Dict × Option Str)}
    (h : GrantAnswer py rp sent es reply) :
    Path (rp.grantedRotation py sent) es (reply.mapError Exn.refusalError) := by
  cases hsent : isRefreshToken sent with
  | false =>
    rw [grantedRotation_unsent hsent]
    cases h with
    | unsent => exact ⟨rfl, rfl⟩
    | _ => simp_all
  | true =>
    have hposted : ∃ ans, es = [⟨.postTokenRequest (rp.refreshGrant sent), ans⟩] ∧
        ∀ e, ans = .error e → e = .tokenEndpointError := by
      cases h with
      | unsent malformed => rw [hsent] at malformed; cases malformed
      | unreached => exact ⟨_, rfl, fun e he => (Except.error.inj he).symm⟩
      | refused => exact ⟨_, rfl, fun e he => (by cases he)⟩
      | failed => exact ⟨_, rfl, fun e he => (by cases he)⟩
      | granted => exact ⟨_, rfl, fun e he => (by cases he)⟩
    obtain ⟨ans, rfl, hans⟩ := hposted
    obtain ⟨reply', hread, h'⟩ := @rotationIn_answers py rp _ hsent ans hans
    rw [grantedRotation_sent hsent, h.unique h', ← hread]
    exact ⟨ans, [], rfl, path_done.2 ⟨rfl, rfl⟩⟩

/-! ### The ID token -/

theorem groupPaths_eq_some {payload : Dict} {groups : List Str} :
    groupPaths payload = some groups ↔ ClaimsGroups payload groups := by
  unfold groupPaths ClaimsGroups
  cases hvalue : payload.get (str "groups") with
  | none =>
    rw [Option.getD_none, Json.strings_arr_eq_some]
    simp only [reduceCtorEq, or_false, true_and]
    exact ⟨fun h => List.map_eq_nil_iff.1 h.symm, fun h => h ▸ rfl⟩
  | some value =>
    simp only [Option.getD_some, reduceCtorEq, false_and, Option.some.injEq, false_or]
    cases value with
    | arr items => rw [Json.strings_arr_eq_some, Json.arr.injEq]
    | _ => simp [Json.strings]

/-- The rows of the ID token's claims. -/
theorem checkedGroups_decides (rp : OidcRelyingParty) (claims : VerifiedClaims) (subject : Str)
    (startedAt : ℤ) :
    Decides (GroupsFault.Applies rp claims subject startedAt)
      (fun fault => rp.checkedGroups claims subject startedAt = refusal fault.reason)
      (∃ groups, ClaimsGroups claims.claims groups ∧
        rp.checkedGroups claims subject startedAt = .ok groups) GroupsFault.order := by
  unfold OidcRelyingParty.checkedGroups
  by_cases hnonce : claims.claims.has (str "nonce") = true
  · rw [if_pos hnonce]
    exact .inl ⟨Dict.has_iff.1 hnonce, rfl⟩
  refine .inr ⟨fun h => hnonce (Dict.has_iff.2 h), ?_⟩
  rw [if_neg hnonce]
  by_cases hparty : IsForParty rp claims
  swap
  · rw [if_pos (by simpa using fun h => hparty (isAuthorizedParty_iff.1 h))]
    exact .inl ⟨hparty, rfl⟩
  refine .inr ⟨fun h => h hparty, ?_⟩
  rw [if_neg (by simpa using isAuthorizedParty_iff.2 hparty)]
  by_cases hsubject : claims.subject ≠ some subject
  · rw [if_pos hsubject]
    exact .inl ⟨hsubject, rfl⟩
  refine .inr ⟨hsubject, ?_⟩
  rw [if_neg hsubject]
  by_cases hstale : claims.issuedAt + rp.config.leewaySeconds < startedAt
  · rw [if_pos hstale]
    exact .inl ⟨hstale, rfl⟩
  refine .inr ⟨hstale, ?_⟩
  rw [if_neg hstale]
  cases hgroups : groupPaths claims.claims with
  | none =>
    refine .inl ⟨?_, rfl⟩
    rintro ⟨groups, hlists⟩
    cases hgroups.symm.trans (groupPaths_eq_some.2 hlists)
  | some groups =>
    have hlists := groupPaths_eq_some.1 hgroups
    exact .inr ⟨fun h => h ⟨groups, hlists⟩, groups, hlists, rfl⟩

theorem checkedGroups_of_first {fault : GroupsFault}
    (h : First (GroupsFault.Applies rp claims subject startedAt) GroupsFault.order fault) :
    rp.checkedGroups claims subject startedAt = refusal fault.reason := by
  rcases (checkedGroups_decides rp claims subject startedAt).elim with ⟨fault', hfirst, hrefused⟩ |
    ⟨-, hnone⟩
  · rwa [h.unique hfirst]
  · exact absurd h.applies (hnone fault h.mem)

theorem checkedGroups_of_none {groups : List Str} (hlists : ClaimsGroups claims.claims groups)
    (h : ∀ fault : GroupsFault, ¬fault.Applies rp claims subject startedAt) :
    rp.checkedGroups claims subject startedAt = .ok groups := by
  rcases (checkedGroups_decides rp claims subject startedAt).elim with ⟨fault, hfirst, -⟩ |
    ⟨⟨groups', hlists', hok⟩, -⟩
  · exact absurd hfirst.applies (h fault)
  · rw [hok]
    exact congrArg Except.ok (Option.some.inj ((groupPaths_eq_some.2 hlists').symm.trans
      (groupPaths_eq_some.2 hlists)))

theorem refreshedIdTokenGroups_named {idToken : Str}
    (hnamed : document.get (str "id_token") = some (.str idToken)) :
    rp.refreshedIdTokenGroups py document subject startedAt = (rp.verifiedIdToken py idToken >>=
      fun claims => done (rp.checkedGroups claims subject startedAt)) := by
  unfold OidcRelyingParty.refreshedIdTokenGroups rawIdTokenOf
  rw [hnamed]
  rfl

theorem IdTokenAnswer.path {reply : Except OidcRefusal (List Str)}
    (h : IdTokenAnswer py rp document subject startedAt es reply) :
    Path (rp.refreshedIdTokenGroups py document subject startedAt) es
      (reply.mapError Exn.refusalError) := by
  have hclaims : ∀ {idToken steps claims}, document.get (str "id_token") = some (.str idToken) →
      Path ((verify py (rp.verifierFor rp.config.clientId) idToken .any).of rp.jwtVerifier) steps
        (.ok (.ok claims)) →
      Path (rp.refreshedIdTokenGroups py document subject startedAt) steps
        (rp.checkedGroups claims subject startedAt) := by
    intro idToken steps claims hnamed hverify
    rw [refreshedIdTokenGroups_named hnamed, ← List.append_nil steps]
    exact (verifiedIdToken_runs hverify).bind_rest.2 (path_done.2 ⟨rfl, rfl⟩)
  cases h with
  | missing unnamed =>
    unfold OidcRelyingParty.refreshedIdTokenGroups
    rcases rawIdTokenOf_cases document with ⟨idToken, hid, -⟩ | ⟨-, hraw⟩
    · exact absurd ⟨idToken, hid⟩ unnamed
    · rw [hraw]
      exact ⟨rfl, rfl⟩
  | rejected named verification =>
    rw [refreshedIdTokenGroups_named named]
    exact (verifiedIdToken_runs verification).bind_error
  | faulty named verification first =>
    have hpath := hclaims named verification
    rwa [checkedGroups_of_first first] at hpath
  | faultless named verification _ none lists =>
    have hpath := hclaims named verification
    rwa [checkedGroups_of_none lists none] at hpath

theorem idToken_verified (hpy : PyJwtAnswers py) {idToken : Str}
    (h : Path ((verify py (rp.verifierFor rp.config.clientId) idToken .any).of rp.jwtVerifier) es
      (.ok (.ok claims))) (hports : ∀ e ∈ es, PortAnswer e) :
    VerifiedIdToken py rp idToken es claims := by
  obtain ⟨steps, rfl, hpath⟩ := of_path h
  have hpublic : ∀ step ∈ steps, Public step := by
    intro step hstep x hx
    obtain ⟨-, rfl⟩ := (hports _ (List.mem_map_of_mem hstep)).step x hx
    rfl
  have hanswered := hpath.ensures (h := []) (accepted_iff.2 hpublic) verify_ensures
  have hverifies := hanswered.verified claims rfl
  obtain ⟨key, hdecoded⟩ := hverifies.decoded
  obtain ⟨now, hnow, htimes⟩ := hverifies.times
  obtain ⟨audiences, haudiences, audience, hasked, hmem⟩ := hpy.audience _ _ hdecoded
  obtain rfl : audience = rp.config.clientId := List.mem_singleton.1 hasked
  obtain rfl := Except.ok.inj (hverifies.audiences.symm.trans haudiences)
  exact ⟨⟨key, hdecoded⟩, hmem, now, List.mem_map_of_mem hnow, htimes⟩

theorem idToken_answers (hpy : PyJwtAnswers py) {r : Except Exn (List Str)}
    (h : Path (rp.refreshedIdTokenGroups py document subject startedAt) es r)
    (hports : ∀ e ∈ es, PortAnswer e) :
    ∃ reply, r = reply.mapError Exn.refusalError ∧
      IdTokenAnswer py rp document subject startedAt es reply := by
  rcases rawIdTokenOf_cases document with ⟨idToken, hnamed, -⟩ | ⟨hunnamed, hraw⟩
  swap
  · unfold OidcRelyingParty.refreshedIdTokenGroups at h
    rw [hraw] at h
    obtain ⟨rfl, rfl⟩ := h
    exact ⟨_, rfl, .missing hunnamed⟩
  rw [refreshedIdTokenGroups_named hnamed] at h
  obtain ⟨es₁, es₂, r₁, rfl, hverified, hchecked⟩ := path_andThen.1 h
  unfold OidcRelyingParty.verifiedIdToken at hverified
  obtain ⟨es₃, es₄, r₂, rfl, hverify, hclaims⟩ := path_andThen.1 hverified
  rw [List.forall_mem_append, List.forall_mem_append] at hports
  obtain ⟨judged, rfl⟩ := verified_answers hpy hverify hports.1.1
  cases judged with
  | error reason =>
    obtain ⟨rfl, rfl⟩ := hclaims
    obtain ⟨rfl, rfl⟩ := hchecked
    rw [List.append_nil, List.append_nil]
    exact ⟨_, rfl, .rejected hnamed hverify⟩
  | ok claims =>
    obtain ⟨rfl, rfl⟩ := hclaims
    obtain ⟨rfl, rfl⟩ := path_done.1 hchecked
    rw [List.append_nil, List.append_nil]
    rcases (checkedGroups_decides rp claims subject startedAt).elim with
      ⟨fault, hfirst, hrefused⟩ | ⟨⟨groups, hlists, hok⟩, hnone⟩
    · exact ⟨.error _, hrefused, .faulty hnamed hverify hfirst⟩
    · refine ⟨.ok groups, hok, .faultless hnamed hverify
        (idToken_verified hpy hverify hports.1.1) (fun fault => hnone fault ?_) hlists⟩
      cases fault <;> simp [GroupsFault.order]

/-! ### Both -/

@[simp] theorem answered_mapError {α : Type} (reply : Except OidcRefusal α) :
    answered (reply.mapError Exn.refusalError) = .ok reply := by
  cases reply <;> rfl

theorem GrantAnswer.refreshes_refused {cause : OidcRefusal} (reading : ℚ) (subject : Str)
    (h : GrantAnswer py rp sent es (.error cause)) :
    Path (rp.refreshedGroups py sent subject) (⟨.wallClock, .ok reading⟩ :: es)
      (.ok (.error cause)) := by
  refine ⟨.ok reading, es, rfl, ?_⟩
  rw [← List.append_nil es]
  exact (answered_path.2 ⟨_, h.path, rfl⟩).bind_rest.2 ⟨rfl, rfl⟩

theorem GrantAnswer.refreshes_granted {rotated : Option Str} {reading : ℚ} {trC : List HostEvent}
    {groups : Except OidcRefusal (List Str)} (h : GrantAnswer py rp sent es (.ok (document, rotated)))
    (hchecked : IdTokenAnswer py rp document subject (truncate reading) trC groups) :
    Path (rp.refreshedGroups py sent subject) (⟨.wallClock, .ok reading⟩ :: (es ++ trC))
      (.ok (.ok ⟨rotated, groups⟩)) := by
  refine ⟨.ok reading, es ++ trC, rfl, (answered_path.2 ⟨_, h.path, rfl⟩).bind_rest.2 ?_⟩
  have hgroups := answered_path.2 ⟨_, hchecked.path, (answered_mapError groups).symm⟩
  rw [← List.append_nil trC]
  exact hgroups.bind_rest.2 ⟨rfl, rfl⟩

/-- The grant between the transactions, under the ports' answers. -/
theorem refreshedGroups_answers (hpy : PyJwtAnswers py)
    {r : Except Exn (Except OidcRefusal RefreshedGroups)}
    (h : Path (rp.refreshedGroups py sent subject) es r) (hports : ∀ e ∈ es, PortAnswer e) :
    ∃ reading trG, (∃ cause, es = ⟨.wallClock, .ok reading⟩ :: trG ∧
        GrantAnswer py rp sent trG (.error cause) ∧ r = .ok (.error cause)) ∨
      ∃ document rotated trC groups, es = ⟨.wallClock, .ok reading⟩ :: (trG ++ trC) ∧
        GrantAnswer py rp sent trG (.ok (document, rotated)) ∧
        IdTokenAnswer py rp document subject (truncate reading) trC groups ∧
        r = .ok (.ok ⟨rotated, groups⟩) := by
  obtain ⟨ans, es, rfl, h⟩ := h
  rw [List.forall_mem_cons] at hports
  cases ans with
  | error x => cases hports.1.returns trivial
  | ok reading =>
  change Path (tryCatch _ answeredRefusal >>= _) es r at h
  obtain ⟨trG, es, r₁, rfl, hgranted, h⟩ := path_andThen.1 h
  rw [List.forall_mem_append] at hports
  obtain ⟨r₂, hrotation, rfl⟩ := answered_path.1 hgranted
  obtain ⟨reply, rfl, hanswer⟩ := grantedRotation_answers hrotation hports.2.1
  rw [answered_mapError] at h
  refine ⟨reading, trG, ?_⟩
  rcases reply with cause | ⟨document, rotated⟩
  · obtain ⟨rfl, rfl⟩ := h
    exact .inl ⟨cause, by rw [List.append_nil], hanswer, rfl⟩
  change Path (tryCatch _ answeredRefusal >>= _) es r at h
  obtain ⟨trC, es, r₁, rfl, hchecked, h⟩ := path_andThen.1 h
  rw [List.forall_mem_append] at hports
  obtain ⟨r₂, hgroups, rfl⟩ := answered_path.1 hchecked
  obtain ⟨groups, rfl, hidToken⟩ := idToken_answers hpy hgroups hports.2.2.1
  rw [answered_mapError] at h
  obtain ⟨rfl, rfl⟩ := h
  exact .inr ⟨document, rotated, trC, groups, by rw [List.append_nil], hanswer, hidToken, rfl⟩

/-- Only an `invalid_grant` of the endpoint asks for a new sign-in. -/
theorem GrantAnswer.refusal {cause : OidcRefusal} (h : GrantAnswer py rp sent es (.error cause)) :
    refusalOfGrant cause = if cause.idpError = some (str "invalid_grant") then signInAgain
      else issuerUnavailable cause := by
  unfold refusalOfGrant issuerUnavailable
  cases h <;> simp

theorem IdTokenAnswer.refusal {cause : OidcRefusal}
    (h : IdTokenAnswer py rp document subject startedAt es (.error cause)) :
    refusalOfGrant cause = issuerUnavailable cause := by
  unfold refusalOfGrant issuerUnavailable
  cases h <;> simp

end Grant

/-! ## The whole call -/

section Whole

variable {py : Platform} {rp : OidcRelyingParty} {config : WebAuthConfig} {sessionId sent : Str}
  {es : List HostEvent} {row : SessionRecord} {rotated : Option Str}

theorem evidenceOf_token (h : row.refreshToken = some sent) :
    evidenceOf (some row) = .ok ⟨sent, row.user.id⟩ := by
  simp only [evidenceOf, h]

theorem evidenceOf_tokenless (h : row.refreshToken = none) :
    evidenceOf (some row) = .error signInAgain := by
  simp only [evidenceOf, h]

theorem GrantFor.refuses {cause : OidcRefusal}
    (h : GrantFor py rp config sessionId es row sent (.error cause)) :
    Path (currentGroups py rp config sessionId) es (.ok (.error (refusalOfGrant cause))) := by
  generalize hreply : Except.error cause = reply at h
  cases h with
  | granted => cases hreply
  | @refused tr row sent reading trG cause first token grant =>
    obtain rfl := Except.error.inj hreply
    unfold currentGroups
    refine first.path.bind_rest.2 ?_
    rw [evidenceOf_token token, ← List.append_nil (_ :: trG)]
    exact (grant.refreshes_refused reading row.user.id).bind_rest.2 ⟨rfl, rfl⟩

theorem GrantFor.keeps {groups : Except OidcRefusal (List Str)} {trK : List HostEvent} {kept : Bool}
    (h : GrantFor py rp config sessionId es row sent (.ok (rotated, groups)))
    (hkeeps : Keeps config sessionId sent rotated trK kept) :
    Path (currentGroups py rp config sessionId) (es ++ trK)
      (.ok (if kept then groups.mapError refusalOfGrant else .error sessionEnded)) := by
  generalize hreply : Except.ok (rotated, groups) = reply at h
  cases h with
  | refused => cases hreply
  | granted first token grant checked =>
    obtain ⟨rfl, rfl⟩ := Prod.mk.inj (Except.ok.inj hreply)
    unfold currentGroups
    rw [List.append_assoc]
    refine first.path.bind_rest.2 ?_
    rw [evidenceOf_token token]
    refine (grant.refreshes_granted checked).bind_rest.2 ?_
    rw [← List.append_nil trK]
    refine hkeeps.path.bind_rest.2 ?_
    cases kept with
    | false => exact ⟨rfl, rfl⟩
    | true => cases groups <;> exact ⟨rfl, rfl⟩

theorem GroupsReply.path {reply : Except AccessTokenRefusal (List Str)}
    (h : GroupsReply py rp config sessionId es reply) :
    Path (currentGroups py rp config sessionId) es (.ok reply) := by
  cases h with
  | ended first =>
    rw [← List.append_nil es]
    exact first.path.bind_rest.2 ⟨rfl, rfl⟩
  | @tokenless _ row first tokenless =>
    rw [← List.append_nil es]
    refine first.path.bind_rest.2 ?_
    rw [evidenceOf_tokenless tokenless]
    exact ⟨rfl, rfl⟩
  | invalidGrant grant invalid =>
    have hpath := grant.refuses
    cases grant with
    | refused _ _ answer => rwa [answer.refusal, if_pos invalid] at hpath
  | ungranted grant other =>
    have hpath := grant.refuses
    cases grant with
    | refused _ _ answer => rwa [answer.refusal, if_neg other] at hpath
  | gone grant second => exact grant.keeps second
  | rejected grant second =>
    have hpath := grant.keeps second
    cases grant with
    | granted _ _ _ checked =>
      rwa [if_pos rfl, Except.mapError, checked.refusal] at hpath
  | yielded grant second => exact grant.keeps second

/-- Every run under the ports' answers replies as they say, or raises where a row is not judged. -/
theorem currentGroups_answers (hpy : PyJwtAnswers py)
    {r : Except Exn (Except AccessTokenRefusal (List Str))}
    (h : Path (currentGroups py rp config sessionId) es r) (hports : ∀ e ∈ es, PortAnswer e) :
    (∃ reply, r = .ok reply ∧ GroupsReply py rp config sessionId es reply) ∨
      (∃ e, r = .error e) ∧ Unjudged config es := by
  unfold currentGroups at h
  obtain ⟨tr, rest, r₁, rfl, hfirst, h⟩ := path_andThen.1 h
  rw [List.forall_mem_append] at hports
  rcases evidence_reads hfirst hports.1 with ⟨row, standing, hread, rfl⟩ | ⟨⟨e, rfl⟩, hunjudged⟩
  swap
  · obtain ⟨rfl, rfl⟩ := h
    exact .inr ⟨⟨e, rfl⟩, hunjudged.mono (List.subset_append_left _ _)⟩
  cases standing with
  | none =>
    obtain ⟨rfl, rfl⟩ := h
    rw [List.append_nil]
    exact .inl ⟨_, rfl, .ended hread⟩
  | some record =>
  have hrow : row = some record := by
    obtain ⟨judged, hjudges, -⟩ := hread
    rcases hjudges.standing_eq with hnone | hsome
    · cases hnone
    · exact hsome.symm
  subst hrow
  cases htoken : record.refreshToken with
  | none =>
    rw [evidenceOf_tokenless htoken] at h
    obtain ⟨rfl, rfl⟩ := h
    rw [List.append_nil]
    exact .inl ⟨_, rfl, .tokenless hread htoken⟩
  | some sent =>
  rw [evidenceOf_token htoken] at h
  obtain ⟨es₂, rest, r₂, rfl, hgrant, h⟩ := path_andThen.1 h
  rw [List.forall_mem_append] at hports
  obtain ⟨reading, trG, hanswers⟩ := refreshedGroups_answers hpy hgrant hports.2.1
  rcases hanswers with ⟨cause, rfl, hanswer, rfl⟩ |
    ⟨document, rotated, trC, groups, rfl, hanswer, hchecked, rfl⟩
  · obtain ⟨rfl, rfl⟩ := h
    rw [List.append_nil, hanswer.refusal]
    refine .inl ⟨_, rfl, ?_⟩
    split_ifs with hinvalid
    · exact .invalidGrant (.refused hread htoken hanswer) hinvalid
    · exact .ungranted (.refused hread htoken hanswer) hinvalid
  have hgrantFor := GrantFor.granted hread htoken hanswer hchecked
  obtain ⟨trK, rest, r₃, rfl, hkept, h⟩ := path_andThen.1 h
  rw [List.forall_mem_append] at hports
  rw [← List.append_assoc]
  rcases kept_keeps hkept hports.2.2.1 with ⟨kept, hkeeps, rfl⟩ | ⟨⟨e, rfl⟩, hunjudged⟩
  swap
  · obtain ⟨rfl, rfl⟩ := h
    rw [List.append_nil]
    exact .inr ⟨⟨e, rfl⟩, hunjudged.mono (List.subset_append_right _ _)⟩
  cases kept with
  | false =>
    obtain ⟨rfl, rfl⟩ := h
    rw [List.append_nil]
    exact .inl ⟨_, rfl, .gone hgrantFor hkeeps⟩
  | true =>
    cases groups with
    | error cause =>
      obtain ⟨rfl, rfl⟩ := h
      rw [List.append_nil, hchecked.refusal]
      exact .inl ⟨_, rfl, .rejected hgrantFor hkeeps⟩
    | ok groups =>
      obtain ⟨rfl, rfl⟩ := h
      rw [List.append_nil]
      exact .inl ⟨_, rfl, .yielded hgrantFor hkeeps⟩

/-- A transaction that loads a row and finds it admitted. -/
def SeesStanding (config : WebAuthConfig) (sessionId : Str) (es : List HostEvent) : Prop :=
  ∃ row reading now, (⟨.load sessionId, .ok (some row)⟩ : HostEvent) ∈ es ∧
    (⟨.wallClock, .ok reading⟩ : HostEvent) ∈ es ∧
    DateTime.fromTimestamp (truncate reading) = some now ∧
    isAdmitted config.sessionLifetime row now = .ok true

/-- A transaction that finds the row admitted stores a rotation that differs. -/
theorem Keeps.stores {token : Str} {kept : Bool}
    (h : Keeps config sessionId sent (some token) es kept) (hne : token ≠ sent)
    (hstands : SeesStanding config sessionId es) :
    (⟨.replaceRefreshToken sessionId token, .ok (.bool kept)⟩ : HostEvent) ∈ es := by
  have hdiffers : replacement sent (some token) = some token := if_pos hne
  cases h with
  | @ended judged row judges =>
    obtain ⟨record, reading, now, hload, hclock, hnow, hadmitted⟩ := hstands
    cases row with
    | none =>
      obtain ⟨rfl, -⟩ := judges
      simp [rowRead] at hload
    | some row =>
      obtain ⟨reading', now', rfl, hnow', hstands⟩ := judges
      obtain rfl : record = row := by simpa [rowRead] using hload
      obtain rfl : reading = reading' := by simpa [rowRead] using hclock
      obtain rfl := Option.some.inj (hnow.symm.trans hnow')
      simp [WebAuth.stands, hadmitted, Except.map] at hstands
  | kept judges same => cases same.symm.trans hdiffers
  | @replaced judged row record token' b judges differs =>
    obtain rfl := Option.some.inj (differs.symm.trans hdiffers)
    simp

variable (py rp config sessionId) in
/-- **How `current_groups` ends**, by what a run's calls were answered. -/
structure GroupsDecided (es : List HostEvent)
    (r : Except Exn (Except AccessTokenRefusal (List Str))) : Prop where
  /-- Groups are those of a faultless ID token of a grant, where the row stood before and after. -/
  yields : ∀ groups, r = .ok (.ok groups) ↔ ∃ tr row sent rotated trK, es = tr ++ trK ∧
    GrantFor py rp config sessionId tr row sent (.ok (rotated, .ok groups)) ∧
    Keeps config sessionId sent rotated trK true
  /-- A new sign-in is asked for where the row has no token or the issuer takes it no more. -/
  signInAgain : r = .ok (.error signInAgain) ↔
    (∃ row, ReadsRow config sessionId es (some row) (some row) ∧ row.refreshToken = none) ∨
    ∃ row sent cause, GrantFor py rp config sessionId es row sent (.error cause) ∧
      cause.idpError = some (str "invalid_grant")
  /-- The session ended where one of the transactions finds no row that stands. -/
  sessionEnded : r = .ok (.error sessionEnded) ↔
    (∃ row, ReadsRow config sessionId es row none) ∨
    ∃ tr row sent rotated groups trK, es = tr ++ trK ∧
      GrantFor py rp config sessionId tr row sent (.ok (rotated, groups)) ∧
      Keeps config sessionId sent rotated trK false
  /-- The issuer is unavailable for every other refusal of the grant and every fault of the ID
  token. -/
  issuerUnavailable : ∀ cause, r = .ok (.error (issuerUnavailable cause)) ↔
    (∃ row sent, GrantFor py rp config sessionId es row sent (.error cause) ∧
      cause.idpError ≠ some (str "invalid_grant")) ∨
    ∃ tr row sent rotated trK, es = tr ++ trK ∧
      GrantFor py rp config sessionId tr row sent (.ok (rotated, .error cause)) ∧
      Keeps config sessionId sent rotated trK true
  /-- A rotation is stored whenever the row stands after the grant. -/
  stores : ∀ tr row sent token groups trK kept, es = tr ++ trK →
    GrantFor py rp config sessionId tr row sent (.ok (some token, groups)) → token ≠ sent →
    Keeps config sessionId sent (some token) trK kept → SeesStanding config sessionId trK →
    (⟨.replaceRefreshToken sessionId token, .ok (.bool kept)⟩ : HostEvent) ∈ es
  /-- It replies in one of these ways, unless a row is not judged. -/
  replies : (∃ groups, r = .ok (.ok groups)) ∨ r = .ok (.error WebAuth.signInAgain) ∨
    r = .ok (.error WebAuth.sessionEnded) ∨
    (∃ cause, r = .ok (.error (WebAuth.issuerUnavailable cause))) ∨
    (∃ e, r = .error e) ∧ Unjudged config es

/-- **`current_groups` is decided by what its calls are answered.** -/
theorem current_groups_decided (hpy : PyJwtAnswers py)
    {r : Except Exn (Except AccessTokenRefusal (List Str))}
    (h : Path (currentGroups py rp config sessionId) es r) (hports : ∀ e ∈ es, PortAnswer e) :
    GroupsDecided py rp config sessionId es r := by
  have hanswers := currentGroups_answers hpy h hports
  have hreplies : ∀ {reply}, GroupsReply py rp config sessionId es reply → r = .ok reply :=
    fun hreply => (h.unique_in hreply.path List.prefix_rfl List.prefix_rfl).2
  have hreply : ∀ {reply}, r = .ok reply → GroupsReply py rp config sessionId es reply := by
    rintro reply rfl
    rcases hanswers with ⟨reply', heq, hreply⟩ | ⟨⟨e, heq⟩, -⟩
    · rwa [Except.ok.inj heq]
    · cases heq
  refine ⟨fun groups => ⟨fun hr => ?_, ?_⟩, ⟨fun hr => ?_, ?_⟩, ⟨fun hr => ?_, ?_⟩,
    fun cause => ⟨fun hr => ?_, ?_⟩, ?_, ?_⟩
  · cases hreply hr with
    | yielded grant second => exact ⟨_, _, _, _, _, rfl, grant, second⟩
  · rintro ⟨tr, row, sent, rotated, trK, rfl, grant, second⟩
    exact hreplies (.yielded grant second)
  · generalize hcause : (Except.error signInAgain : Except _ (List Str)) = reply at hr
    cases hreply hr with
    | tokenless first tokenless => exact .inl ⟨_, first, tokenless⟩
    | invalidGrant grant invalid => exact .inr ⟨_, _, _, grant, invalid⟩
    | _ => cases hcause
  · rintro (⟨row, first, tokenless⟩ | ⟨row, sent, cause, grant, invalid⟩)
    · exact hreplies (.tokenless first tokenless)
    · exact hreplies (.invalidGrant grant invalid)
  · generalize hcause : (Except.error sessionEnded : Except _ (List Str)) = reply at hr
    cases hreply hr with
    | ended first => exact .inl ⟨_, first⟩
    | gone grant second => exact .inr ⟨_, _, _, _, _, _, rfl, grant, second⟩
    | _ => cases hcause
  · rintro (⟨row, first⟩ | ⟨tr, row, sent, rotated, groups, trK, rfl, grant, second⟩)
    · exact hreplies (.ended first)
    · exact hreplies (.gone grant second)
  · generalize hcause : (Except.error (issuerUnavailable cause) : Except _ (List Str)) = reply at hr
    cases hreply hr with
    | ungranted grant other =>
      cases hcause
      exact .inl ⟨_, _, grant, other⟩
    | rejected grant second =>
      cases hcause
      exact .inr ⟨_, _, _, _, _, rfl, grant, second⟩
    | _ => cases hcause
  · rintro (⟨row, sent, grant, other⟩ | ⟨tr, row, sent, rotated, trK, rfl, grant, second⟩)
    · exact hreplies (.ungranted grant other)
    · exact hreplies (.rejected grant second)
  · rintro tr row sent token groups trK kept rfl - hne second hstands
    exact List.mem_append_right _ (second.stores hne hstands)
  · rcases hanswers with ⟨reply, rfl, hkind⟩ | hunjudged
    · cases hkind with
      | ended => exact .inr (.inr (.inl rfl))
      | tokenless => exact .inr (.inl rfl)
      | invalidGrant => exact .inr (.inl rfl)
      | ungranted => exact .inr (.inr (.inr (.inl ⟨_, rfl⟩)))
      | gone => exact .inr (.inr (.inl rfl))
      | rejected => exact .inr (.inr (.inr (.inl ⟨_, rfl⟩)))
      | yielded => exact .inl ⟨_, rfl⟩
    · exact .inr (.inr (.inr (.inr hunjudged)))

end Whole

/-! ## Runs -/

/-- The surroundings in which `"i"` is an ID token of the groups `"/a"`, issued at 100, in an answer
that rotates to `"q"`. -/
def groupsPlatform : Platform :=
  { loginPlatform with
    jsonLoads := fun _ => some (.obj [(str "id_token", .str (str "i")),
      (str "refresh_token", .str (str "q"))])
    jwtDecode := fun d =>
      if str "client" ∈ d.audience then
        .ok [(str "aud", .str (str "client")), (str "iat", .int 100), (str "exp", .int 200),
          (str "sub", .str (str "u")), (str "groups", .arr [.str (str "/a")])]
      else .error .invalidAudience }

theorem groupsPlatform_answers : PyJwtAnswers groupsPlatform where
  header _ _ h := by cases h
  payload d tag := by
    simp only [groupsPlatform]
    split_ifs <;> simp
  audience d payload h := by
    simp only [groupsPlatform] at h
    split_ifs at h with hclient
    obtain rfl := Except.ok.inj h
    exact ⟨[str "client"], rfl, str "client", hclient, List.mem_singleton_self _⟩

/-- A host whose clock reads `second`, with one session and an endpoint that grants. -/
def refreshingHost (second : ℚ) : Unit → (c : HostCall) → Except Exn c.Answer × Unit
  | _, .wallClock => (.ok second, ())
  | _, .enter _ => (.ok (), ())
  | _, .leave _ _ => (.ok (), ())
  | _, .load _ => (.ok (some demoRow), ())
  | _, .replaceRefreshToken _ _ => (.ok (.bool true), ())
  | s, c => grantingHost s c

/-- What `current_groups` does there. -/
def playedGroups (second : ℚ) : List HostEvent × Except Exn (Except AccessTokenRefusal (List Str)) :=
  play (refreshingHost second)
    (currentGroups groupsPlatform demoRelyingParty demoConfig (str "s")) ()

theorem playedGroups_ports (second : ℚ)
    (h : ∀ e ∈ (playedGroups second).1, e.answer.toOption.isSome = true) :
    ∀ e ∈ (playedGroups second).1, PortAnswer e := by
  intro e he x hx
  have hsome := h e he
  rw [hx] at hsome
  cases hsome

theorem playedGroups_path (second : ℚ) :
    Path (currentGroups groupsPlatform demoRelyingParty demoConfig (str "s"))
      (playedGroups second).1 (playedGroups second).2 := by
  unfold playedGroups
  exact path_play _ _ _

theorem current_groups_decided_of_grant :
    (playedGroups 100).2 = .ok (.ok [str "/a"]) ∧
      GroupsDecided groupsPlatform demoRelyingParty demoConfig (str "s") (playedGroups 100).1
        (playedGroups 100).2 :=
  ⟨by decide +kernel, current_groups_decided groupsPlatform_answers (playedGroups_path 100)
    (playedGroups_ports 100 (by decide +kernel))⟩

/-- At a reading of the clock beyond the calendar the call replies nothing. -/
theorem current_groups_beyond_calendar : ∃ es r, (∀ e ∈ es, PortAnswer e) ∧
    Path (currentGroups groupsPlatform demoRelyingParty demoConfig (str "s")) es r ∧
    ∀ reply, r ≠ .ok reply := by
  refine ⟨_, _, playedGroups_ports (10 ^ 18) (by decide +kernel),
    playedGroups_path (10 ^ 18), ?_⟩
  have hraised : (playedGroups (10 ^ 18)).2 = .error .overflowError := by decide +kernel
  rw [hraised]
  simp

end WebAuth
