import WebAuth.DeletedSessions

/-!
# Who writes which field of a session row

Admissions and calls that ask the issuer overlap on one session, whose row nobody deletes. Only an
admission writes the expiry, only a granted call writes the refresh token, and nothing writes the
rest. The issuer may let a refresh token be used again, and replace, echo or omit it.
-/

namespace WebAuth

open Python Effects Program

section

variable {ι : Type} [DecidableEq ι]

/-- The expiry a call wrote. -/
def renewal : ι × HostEvent → Option DateTime
  | (_, ⟨.touch _ expiresAt, .ok _⟩) => some expiresAt
  | _ => none

/-- The refresh token a call wrote. -/
def rotation : ι × HostEvent → Option Str
  | (_, ⟨.replaceRefreshToken _ token, .ok _⟩) => some token
  | _ => none

/-- The expiries written, in order. -/
def renewals (h : List (ι × HostEvent)) : List DateTime := h.filterMap renewal

/-- The refresh tokens written, in order. -/
def rotations (h : List (ι × HostEvent)) : List Str := h.filterMap rotation

/-- The row a session opened as `opened` has after the calls of a history. -/
def ownedRow (opened : SessionRecord) (h : List (ι × HostEvent)) : SessionRecord :=
  { opened with
    expiresAt := (renewals h).getLast?.getD opened.expiresAt
    refreshToken := (rotations h).getLast?.or opened.refreshToken }

/-- The relying party an operation asks. -/
def SessionOperation.asks : SessionOperation → Option OidcRelyingParty
  | accessToken rp _ _ => some rp
  | groups rp _ _ => some rp
  | _ => none

/-- Which fields of a row the calls of a history own. -/
structure RowOwned (py : Platform) (ops : ι → SessionOperation) (sessionId : Str)
    (opened : SessionRecord) (h : List (ι × HostEvent)) (s : SessionRows) : Prop where
  /-- The row is as it was opened, but for the last expiry and the last refresh token written. -/
  row : s.rows sessionId = some (ownedRow opened h)
  /-- An expiry is written by an admission of the row it loaded, and is its renewed expiry. -/
  renewed : ∀ h₁ i touched expiresAt ans h₂,
    h = h₁ ++ (i, ⟨.touch touched expiresAt, ans⟩) :: h₂ → ∃ config row reading,
      ops i = .admission config sessionId ∧ own i h₁ = admissionRead sessionId (some row) reading ∧
      AdmittedAt config row reading expiresAt
  /-- A refresh token is written by a call that the issuer granted it, and differs from the one
  that call sent. -/
  replaced : ∀ h₁ i replaced token ans h₂,
    h = h₁ ++ (i, ⟨.replaceRefreshToken replaced token, ans⟩) :: h₂ → ∃ rp sent answer,
      (ops i).asks = some rp ∧ exchanges (own i h₁) = [(rp.refreshGrant sent, .ok answer)] ∧
      answer.status = 200 ∧
      issuedRefreshToken (tokenAnswerDocument py answer.body) = .ok (some token) ∧ token ≠ sent
  /-- Every operation writes at most once. -/
  once : ∀ i, (rowWrites (own i h)).length ≤ 1
  /-- A call that was answered its own refresh token, or none, writes nothing. -/
  echoed : ∀ i rp sent answer, (ops i).asks = some rp →
    (rp.refreshGrant sent, .ok answer) ∈ exchanges (own i h) →
    (issuedRefreshToken (tokenAnswerDocument py answer.body) = .ok none ∨
      issuedRefreshToken (tokenAnswerDocument py answer.body) = .ok (some sent)) →
    rowWrites (own i h) = []

variable {py : Platform} {ops : ι → SessionOperation} {sessionId : Str} {opened : SessionRecord}
  {s₀ s : SessionRows} {h : List (ι × HostEvent)} {pool : ι → Task OperationAnswer}

/-- What an operation on a session may call, by what the call does to the row. -/
theorem SessionOperation.allows_cases {op : SessionOperation} {es : List HostEvent} {c : HostCall}
    (hop : op.reads = some sessionId) (hc : op.allows py es c) :
    c.ReadsSession sessionId ∨ c.AsksIssuer ∨
      (∃ config expiresAt row reading, c = .touch sessionId expiresAt ∧
        op = .admission config sessionId ∧ es = admissionRead sessionId (some row) reading ∧
        AdmittedAt config row reading expiresAt) ∨
      ∃ rp token, c = .replaceRefreshToken sessionId token ∧ op.asks = some rp ∧
        GrantAllowed py rp sessionId es c := by
  have hgrant : ∀ rp, op.asks = some rp → GrantAllowed py rp sessionId es c →
      c.ReadsSession sessionId ∨ c.AsksIssuer ∨ ∃ token, c = .replaceRefreshToken sessionId token := by
    intro rp _ h
    cases c <;> first
      | exact .inl h
      | exact .inr (.inl trivial)
      | exact .inr (.inr ⟨_, by rw [h.1]⟩)
  cases op with
  | admission config id =>
    cases hop
    cases c
    case load => exact .inl hc
    case wallClock => exact .inl trivial
    case touch =>
      obtain ⟨rfl, row, reading, hes, hadmitted⟩ := hc
      exact .inr (.inr (.inl ⟨config, _, row, reading, rfl, rfl, hes, hadmitted⟩))
    all_goals exact hc.elim
  | accessToken rp config id =>
    cases hop
    rcases hgrant rp rfl hc with h | h | ⟨token, rfl⟩
    · exact .inl h
    · exact .inr (.inl h)
    · exact .inr (.inr (.inr ⟨rp, token, rfl, rfl, hc⟩))
  | groups rp config id =>
    cases hop
    rcases hgrant rp rfl hc with h | h | ⟨token, rfl⟩
    · exact .inl h
    · exact .inr (.inl h)
    · exact .inr (.inr (.inr ⟨rp, token, rfl, rfl, hc⟩))
  | signIn => cases hop
  | logout => cases hop
  | backchannelLogout => cases hop

omit [DecidableEq ι] in
theorem ownedRow_snoc (opened : SessionRecord) (h : List (ι × HostEvent)) (e : ι × HostEvent)
    (hrenewal : renewal e = none) (hrotation : rotation e = none) :
    ownedRow opened (h ++ [e]) = ownedRow opened h := by
  simp [ownedRow, renewals, rotations, List.filterMap_append, hrenewal, hrotation]

/-- **The row of a session is what its own writes made of it.** -/
theorem ownedRow_run (hr : StoreRun py ops s₀ h s pool)
    (hops : ∀ i, (ops i).reads = some sessionId) (hopened : s₀.rows sessionId = some opened) :
    s.rows sessionId = some (ownedRow opened h) := by
  refine hr.observe (P := fun _ => True) (J := fun h s => s.rows sessionId = some (ownedRow opened h))
    (fun _ _ _ _ _ => trivial) (fun i => (ops i).run_ensures) (by simpa [ownedRow, renewals, rotations])
    ?_
  intro h s i c ans s' inv hc hstore
  cases ans with
  | error e =>
    obtain ⟨-, rfl⟩ := hstore
    rw [ownedRow_snoc _ _ _ (by cases c <;> rfl) (by cases c <;> rfl)]
    exact inv
  | ok a =>
    rcases SessionOperation.allows_cases (hops i) hc with
      hread | hask | ⟨config, expiresAt, row, reading, rfl, -⟩ | ⟨rp, token, rfl, -⟩
    · rw [ownedRow_snoc _ _ _ (by cases c <;> first | rfl | exact hread.elim)
        (by cases c <;> first | rfl | exact hread.elim)]
      have hsame : s' = s := by
        cases c <;> first | exact hstore | exact hstore.2 | exact hread.elim
      rw [hsame, inv]
    · rw [ownedRow_snoc _ _ _ (by cases c <;> first | rfl | exact hask.elim)
        (by cases c <;> first | rfl | exact hask.elim)]
      have hsame : s' = s := by cases c <;> first | exact hstore | exact hask.elim
      rw [hsame, inv]
    · obtain ⟨-, rfl⟩ := hstore
      simp only [SessionRows.modified, inv, Option.map_some, onRow, if_true]
      simp [ownedRow, renewals, rotations, renewal, rotation, List.filterMap_append,
        SessionRecord.touched]
    · obtain ⟨-, rfl⟩ := hstore
      simp only [SessionRows.modified, inv, Option.map_some, onRow, if_true]
      simp [ownedRow, renewals, rotations, renewal, rotation, List.filterMap_append,
        SessionRecord.replaced]

/-- Every call of a run was allowed by the operation's own history before it. -/
theorem StoreRun.allowed {h₁ h₂ : List (ι × HostEvent)} {i : ι} {e : HostEvent}
    (hr : StoreRun py ops s₀ h s pool) (heq : h = h₁ ++ (i, e) :: h₂) :
    (ops i).allows py (own i h₁) e.call := by
  obtain ⟨s₁, pool₁, next, s₂, hr₁, stands, -, -⟩ := hr.cutAt heq
  have hi := hr₁.verified (P := fun _ => True) (fun _ _ _ _ _ => trivial) (ops i).run_ensures
  rw [stands] at hi
  exact hi.1

/-- A call that writes the row has written nothing before. -/
theorem SessionOperation.writes_first {op : SessionOperation} {es : List HostEvent} {c : HostCall}
    (hop : op.reads = some sessionId) (hc : op.allows py es c) (hwrites : c.writesRow = true) :
    rowWrites es = [] := by
  rcases op.allows_cases hop hc with
    hread | hask | ⟨config, expiresAt, row, reading, rfl, -, rfl, -⟩ | ⟨rp, token, rfl, -, hgrant⟩
  · rw [hread.writesRow] at hwrites
    cases hwrites
  · cases c <;> first | exact hask.elim | cases hwrites
  · rfl
  · exact hgrant.2.1

/-- A list in which every member that satisfies `p` is the first one holds at most one. -/
theorem countP_le_one {α : Type} {p : α → Bool} {l : List α}
    (hfirst : ∀ l₁ a l₂, l = l₁ ++ a :: l₂ → p a = true → l₁.countP p = 0) : l.countP p ≤ 1 := by
  induction l with
  | nil => simp
  | cons a l ih =>
    cases ha : p a with
    | false =>
      rw [List.countP_cons_of_neg (by simp [ha])]
      refine ih fun l₁ b l₂ heq hb => ?_
      have := hfirst (a :: l₁) b l₂ (by rw [heq]; rfl) hb
      rwa [List.countP_cons_of_neg (by simp [ha])] at this
    | true =>
      have hnone : l.countP p = 0 := by
        rw [List.countP_eq_zero]
        intro b hmem hb
        obtain ⟨l₁, l₂, rfl⟩ := List.append_of_mem hmem
        have := hfirst (a :: l₁) b l₂ rfl hb
        rw [List.countP_cons_of_pos ha] at this
        omega
      rw [List.countP_cons_of_pos ha, hnone]

theorem refreshGrant_injective {rp : OidcRelyingParty} {sent sent' : Str}
    (h : rp.refreshGrant sent = rp.refreshGrant sent') : sent = sent' := by
  simpa [OidcRelyingParty.refreshGrant, OidcRelyingParty.grantRequest] using h

theorem SessionOperation.posts_first {op : SessionOperation} {es : List HostEvent}
    {request : TokenRequest} (hop : op.reads = some sessionId)
    (hc : op.allows py es (.postTokenRequest request)) : exchanges es = [] := by
  cases op with
  | admission => exact hc.elim
  | accessToken => exact hc.1
  | groups => exact hc.1
  | signIn => cases hop
  | logout => cases hop
  | backchannelLogout => cases hop

/-- An operation posts at most one request. -/
theorem StoreRun.posts_once (hr : StoreRun py ops s₀ h s pool) {i : ι}
    (hop : (ops i).reads = some sessionId) : (exchanges (own i h)).length ≤ 1 := by
  rw [exchanges, List.length_filterMap_eq_countP]
  refine countP_le_one fun es₁ e es₂ heq hpost => ?_
  obtain ⟨h₁, h₂, hsplit, hown₁, -⟩ := own_split heq
  have hallowed := hr.allowed hsplit
  rw [hown₁] at hallowed
  rw [← List.length_filterMap_eq_countP, List.length_eq_zero_iff]
  obtain ⟨c, ans⟩ := e
  cases c
  case postTokenRequest => exact (ops i).posts_first hop hallowed
  all_goals cases hpost

/-- An operation writes at most once. -/
theorem StoreRun.writes_once (hr : StoreRun py ops s₀ h s pool) {i : ι}
    (hop : (ops i).reads = some sessionId) : (rowWrites (own i h)).length ≤ 1 := by
  rw [rowWrites, ← List.countP_eq_length_filter]
  refine countP_le_one fun es₁ e es₂ heq hwrites => ?_
  obtain ⟨h₁, h₂, hsplit, hown₁, -⟩ := own_split heq
  have hallowed := hr.allowed hsplit
  rw [hown₁] at hallowed
  rw [List.countP_eq_length_filter, List.length_eq_zero_iff]
  exact (ops i).writes_first hop hallowed hwrites

/-- **Every field of a session row has one owner.** -/
theorem row_owned (hr : StoreRun py ops s₀ h s pool)
    (hops : ∀ i, (ops i).reads = some sessionId) (hopened : s₀.rows sessionId = some opened) :
    RowOwned py ops sessionId opened h s := by
  have hreplaced : ∀ h₁ i replaced token ans h₂,
      h = h₁ ++ (i, ⟨.replaceRefreshToken replaced token, ans⟩) :: h₂ → ∃ rp sent answer,
        (ops i).asks = some rp ∧ exchanges (own i h₁) = [(rp.refreshGrant sent, .ok answer)] ∧
        answer.status = 200 ∧
        issuedRefreshToken (tokenAnswerDocument py answer.body) = .ok (some token) ∧
        token ≠ sent := by
    intro h₁ i replaced token ans h₂ heq
    rcases (ops i).allows_cases (hops i) (hr.allowed heq) with
      hread | hask | ⟨_, _, _, _, htouch, -⟩ | ⟨rp, _, -, hasks, hgrant⟩
    · exact hread.elim
    · exact hask.elim
    · cases htouch
    · obtain ⟨-, -, sent, answer, hexchange, hstatus, hissued, hne⟩ := hgrant
      exact ⟨rp, sent, answer, hasks, hexchange, hstatus, hissued, hne⟩
  refine ⟨ownedRow_run hr hops hopened, ?_, hreplaced, ?_, ?_⟩
  · intro h₁ i touched expiresAt ans h₂ heq
    rcases (ops i).allows_cases (hops i) (hr.allowed heq) with
      hread | hask | ⟨config, _, row, reading, htouch, hop, hown, hadmitted⟩ | ⟨_, _, htouch, -⟩
    · exact hread.elim
    · exact hask.elim
    · cases htouch
      exact ⟨config, row, reading, hop, hown, hadmitted⟩
    · cases htouch
  · exact fun i => hr.writes_once (hops i)
  · intro i rp sent answer hasks hexchange hissued
    by_contra hne
    obtain ⟨e, he⟩ := List.exists_mem_of_ne_nil _ hne
    obtain ⟨hmem, hwrites⟩ := List.mem_filter.1 he
    obtain ⟨h₁, h₂, heq⟩ := List.append_of_mem (mem_own.1 hmem)
    obtain ⟨c, ans⟩ := e
    cases c
    case touch =>
      rcases (ops i).allows_cases (hops i) (hr.allowed heq) with
        hread | hask | ⟨_, _, _, _, -, hop, -⟩ | ⟨_, _, htouch, -⟩
      · exact hread.elim
      · exact hask.elim
      · rw [hop] at hasks
        cases hasks
      · cases htouch
    case replaceRefreshToken =>
      obtain ⟨rp', sent', answer', hasks', hbefore, -, hissued', hdiffers⟩ :=
        hreplaced h₁ i _ _ ans h₂ heq
      obtain rfl := Option.some.inj (hasks.symm.trans hasks')
      have honce := hr.posts_once (hops i)
      rw [heq, own_append, exchanges_append, hbefore] at honce hexchange
      have hrest : exchanges (own i ((i, ⟨_, ans⟩) :: h₂)) = [] :=
        List.length_eq_zero_iff.1 (by simpa using honce)
      rw [hrest, List.append_nil, List.mem_singleton, Prod.mk.injEq] at hexchange
      obtain ⟨hgrant, hanswer⟩ := hexchange
      obtain rfl := refreshGrant_injective hgrant
      obtain rfl := Except.ok.inj hanswer
      rw [hissued'] at hissued
      rcases hissued with h | h <;> simp at h
      exact hdiffers h
    all_goals cases hwrites

end

/-- An admission and a refresh of the access token that overlap on one session. -/
def overlapOnRow : Bool → SessionOperation
  | true => .admission demoConfig (str "s")
  | false => .accessToken demoRelyingParty demoConfig (str "s")

/-- The admission renews the row between the two transactions of the refresh. -/
def overlapSchedule : List (Bool × HostChoice) :=
  [(false, .plain), (false, .plain), (false, .reading 40), (false, .plain), (true, .plain),
    (false, .exchanged ⟨200, grantBody (str "Bearer") (str "q")⟩), (true, .reading 50),
    (true, .plain), (false, .plain), (false, .plain), (false, .reading 60), (false, .plain),
    (false, .plain)]

/-- Whether both have yielded, and the row holds the new refresh token. -/
def renewedAndRotated (m : StoreMoment Bool) : Bool :=
  match (m.pool true).outcome, (m.pool false).outcome, m.state.rows (str "s") with
  | some (.ok admitted), some (.ok refreshed), some row =>
    admitted.yields && refreshed.yields && row.refreshToken = some (str "q") &&
      row.expiresAt.instant = seconds 150
  | _, _, _ => false

theorem row_owned_of_overlap : ∃ m : StoreMoment Bool, renewedAndRotated m = true ∧
    RowOwned grantPlatform overlapOnRow (str "s") demoRow m.history m.state := by
  have h : ((Moment.before demoRows fun i => (overlapOnRow i).run grantPlatform).execute
      storeResponder overlapSchedule).any renewedAndRotated = true := by
    decide +kernel
  obtain ⟨m, run, hm⟩ := Moment.exists_run h
  exact ⟨m, hm, row_owned run (by rintro (_ | _) <;> rfl) rfl⟩

end WebAuth
