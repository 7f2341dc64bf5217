import WebAuth.Effects.Scripts
import WebAuth.Effects.Serial
import WebAuth.TokenUses

/-!
# The window of a logout token

A logout token is judged at two readings of the wall clock: one for its time claims, with the leeway
in its favour, and a later one for its age. Both lie in one window around its `iat`, and so does
every reading of every other call that accepts it. A reading is an exact rational here; the code's
sums and differences of readings are rounded to floats.
-/

namespace WebAuth

open Python Effects Program

/-! ## What is left to a token that verifies -/

/-- A payload names one of the audiences asked for. -/
def NamesAudience (payload : Dict) (asked : List Str) : Prop :=
  ∃ audiences, audiencesOf payload = .ok audiences ∧ ∃ audience ∈ asked, audience ∈ audiences

/-- How `jwt.decode` answers a token whose signature and issuer hold: its payload where that names an
audience asked for, and the error of its audience elsewhere. -/
structure SignatureHolds (py : Platform) (d : JwtDecode) (payload : Dict) : Prop where
  named : NamesAudience payload d.audience → py.jwtDecode d = .ok payload
  unnamed : ¬NamesAudience payload d.audience →
    py.jwtDecode d = .error .invalidAudience ∨ py.jwtDecode d = .error .missingRequiredClaim

/-- Header, signature and issuer of a token hold. In the steps `lookup` its key is looked up. -/
structure TokenHolds (py : Platform) (v : JwtVerifier) (token : Str) (header payload : Dict)
    (lookup : List (Event verifierCalls Exn)) : Prop where
  header_eq : py.getUnverifiedHeader token = .ok header
  signed : ∃ keyId key, checkedHeader py token .any = .ok keyId ∧
    Path (signingKey py v keyId) lookup (.ok key) ∧
    SignatureHolds py ⟨token, key, [algorithm], v.audiences, v.issuer, libraryChecks⟩ payload

/-- What a logout token has besides, where `checked` is read for its time claims and `profiled` for
its age. -/
structure LogoutProfile (rp : OidcRelyingParty) (header payload : Dict) (checked profiled : ℚ)
    (subject : Str) : Prop where
  type : header.get (str "typ") = some (.str (str "logout+jwt"))
  audience : payload.get (str "aud") = some (.str rp.config.clientId) ∨
    payload.get (str "aud") = some (.arr [.str rp.config.clientId])
  subject : payload.get (str "sub") = some (.str subject) ∧ subject ≠ []
  times : ∃ expiresAt issuedAt : ℤ, payload.get (str "exp") = some (.int expiresAt) ∧
    payload.get (str "iat") = some (.int issuedAt) ∧ issuedAt < expiresAt ∧
    checked < expiresAt + rp.config.leewaySeconds ∧
    issuedAt - rp.config.leewaySeconds ≤ checked ∧
    profiled - issuedAt ≤ 120 + rp.config.leewaySeconds
  notBefore : ∀ value, payload.get (str "nbf") = some value →
    ∃ t : ℤ, value = .int t ∧ t ≤ checked + rp.config.leewaySeconds
  nonce : payload.get (str "nonce") = none
  events : ∃ members,
    payload.get (str "events") = some (.obj [(backchannelLogoutEvent, .obj members)])

/-- The `iat` of a payload, where it is an integer, is one that a float can hold. -/
def IssuedInFloats (payload : Dict) : Prop :=
  ∀ issuedAt : ℤ, payload.get (str "iat") = some (.int issuedAt) → FitsFloat issuedAt

/-- The answers a call gets: the steps of its key lookup and its two clock readings. -/
def readings (owner : ℕ) (lookup : List (Event verifierCalls Exn)) (checked profiled : ℚ) :
    List HostEvent :=
  (lookup ++ [(⟨.wallClock, .ok checked⟩ : Event verifierCalls Exn)]).map (verifierEvent owner) ++
    [⟨.wallClock, .ok profiled⟩]

/-! ## The claims at one reading -/

/-- The part of `_verified_claims` after the payload. -/
def claimsOf (v : JwtVerifier) (payload : Dict) : Verification VerifiedClaims := do
  let (expiresAt, issuedAt) ← checkedTimeClaims v payload
  let subject ← subjectOf payload
  let audiences ← audiencesOf payload
  return ⟨subject, v.issuer, audiences, expiresAt, issuedAt, payload⟩

/-- The same part, at one reading of the clock. -/
def claimsAt (v : JwtVerifier) (payload : Dict) (now : ℚ) : Except Exn VerifiedClaims := do
  let expiresAt ← integerClaim payload (str "exp")
  let issuedAt ← integerClaim payload (str "iat")
  let notBefore ← notBeforeClaim payload
  let times ← timesAt v expiresAt issuedAt notBefore now
  let subject ← subjectOf payload
  let audiences ← audiencesOf payload
  return ⟨subject, v.issuer, audiences, times.1, times.2, payload⟩

section Claims

variable {v : JwtVerifier} {payload : Dict} {now : ℚ}

/-- The clock is read once, or not at all where a claim is no time. -/
theorem claimsOf_at (v : JwtVerifier) (payload : Dict) (now : ℚ) :
    Path (claimsOf v payload) [⟨.wallClock, .ok now⟩] (claimsAt v payload now) ∨
      ∃ e, Path (claimsOf v payload) [] (.error e) ∧ claimsAt v payload now = .error e := by
  unfold claimsOf claimsAt checkedTimeClaims
  cases integerClaim payload (str "exp") with
  | error e => exact .inr ⟨e, ⟨rfl, rfl⟩, rfl⟩
  | ok expiresAt =>
  cases integerClaim payload (str "iat") with
  | error e => exact .inr ⟨e, ⟨rfl, rfl⟩, rfl⟩
  | ok issuedAt =>
  cases notBeforeClaim payload with
  | error e => exact .inr ⟨e, ⟨rfl, rfl⟩, rfl⟩
  | ok notBefore =>
  refine .inl ⟨.ok now, [], rfl, ?_⟩
  show Path ((done (timesAt v expiresAt issuedAt notBefore now)).andThen _) []
    ((timesAt v expiresAt issuedAt notBefore now).bind _)
  cases timesAt v expiresAt issuedAt notBefore now with
  | error e => exact ⟨rfl, rfl⟩
  | ok times =>
  cases subjectOf payload with
  | error e => exact ⟨rfl, rfl⟩
  | ok subject =>
  cases audiencesOf payload with
  | error e => exact ⟨rfl, rfl⟩
  | ok audiences => exact ⟨rfl, rfl⟩

theorem timesAt_eq {expiresAt issuedAt : ℤ} {notBefore : Option ℤ} {times : ℤ × ℤ}
    (h : timesAt v expiresAt issuedAt notBefore now = .ok times) : times = (expiresAt, issuedAt) := by
  unfold timesAt at h
  repeat' split at h
  all_goals first
    | exact (Except.ok.inj h).symm
    | cases h

/-- The claims of a payload at a reading at which its times hold. -/
theorem claimsAt_eq_ok {claims : VerifiedClaims} : claimsAt v payload now = .ok claims ↔
    TimeClaimsHold v claims now ∧ claims.claims = payload ∧ claims.issuer = v.issuer ∧
      subjectOf payload = .ok claims.subject ∧ audiencesOf payload = .ok claims.audiences := by
  unfold claimsAt
  constructor
  · intro h
    cases hexp : integerClaim payload (str "exp") with
    | error e =>
      rw [hexp] at h
      cases h
    | ok expiresAt =>
    cases hiat : integerClaim payload (str "iat") with
    | error e =>
      rw [hexp, hiat] at h
      cases h
    | ok issuedAt =>
    cases hnbf : notBeforeClaim payload with
    | error e =>
      rw [hexp, hiat, hnbf] at h
      cases h
    | ok notBefore =>
    rw [hexp, hiat, hnbf] at h
    change (timesAt v expiresAt issuedAt notBefore now).bind _ = _ at h
    cases htimes : timesAt v expiresAt issuedAt notBefore now with
    | error e =>
      rw [htimes] at h
      cases h
    | ok times =>
    cases hsubject : subjectOf payload with
    | error e =>
      rw [htimes, hsubject] at h
      cases h
    | ok subject =>
    cases haudiences : audiencesOf payload with
    | error e =>
      rw [htimes, hsubject, haudiences] at h
      cases h
    | ok audiences =>
      rw [htimes, hsubject, haudiences] at h
      obtain rfl := Except.ok.inj h
      obtain rfl := timesAt_eq htimes
      exact ⟨timesAt_holds (integerClaim_eq_ok hexp) (integerClaim_eq_ok hiat) hnbf htimes, rfl, rfl,
        rfl, rfl⟩
  · rintro ⟨hold, rfl, hissuer, hsubject, haudiences⟩
    have hexp : integerClaim claims.claims (str "exp") = .ok claims.expiresAt := by
      rw [integerClaim, hold.exp]
    have hiat : integerClaim claims.claims (str "iat") = .ok claims.issuedAt := by
      rw [integerClaim, hold.iat]
    obtain ⟨notBefore, hnbf, htimes⟩ : ∃ notBefore, notBeforeClaim claims.claims = .ok notBefore ∧
        timesAt v claims.expiresAt claims.issuedAt notBefore now =
          .ok (claims.expiresAt, claims.issuedAt) := by
      unfold timesAt notBeforeClaim
      simp only [not_le.2 hold.unexpired, not_lt.2 hold.issued, if_false]
      cases hvalue : claims.claims.get (str "nbf") with
      | none => exact ⟨none, by simp [Dict.has, hvalue], rfl⟩
      | some value =>
        obtain ⟨t, rfl, ht⟩ := hold.valid value hvalue
        refine ⟨some t, by simp [Dict.has, integerClaim, hvalue, Except.map], ?_⟩
        exact if_neg (not_lt.2 ht)
    rw [hexp, hiat, hnbf]
    change (timesAt v claims.expiresAt claims.issuedAt notBefore now).bind _ = _
    rw [htimes, hsubject, haudiences]
    show Except.ok _ = Except.ok _
    rw [← hissuer]

theorem claimsAt_raises (h : ∃ audiences, audiencesOf payload = .ok audiences) :
    Raises (fun e => ∃ reason, e = .verificationRefusal reason) (claimsAt v payload now) := by
  obtain ⟨audiences, haudiences⟩ := h
  have hint : ∀ name, Raises (fun e => ∃ reason, e = .verificationRefusal reason)
      (integerClaim payload name) := by
    intro name
    unfold integerClaim
    split
    · exact raises_ok _
    · exact (raises_error _).2 ⟨_, rfl⟩
  refine (hint _).bind fun expiresAt => (hint _).bind fun issuedAt => ?_
  refine Raises.bind ?_ fun notBefore => Raises.bind ?_ fun times => Raises.bind ?_ fun subject => ?_
  · unfold notBeforeClaim
    split
    · exact (hint _).map _
    · exact raises_ok _
  · unfold timesAt
    repeat' split
    all_goals first | exact raises_ok _ | exact (raises_error _).2 ⟨_, rfl⟩
  · unfold subjectOf
    repeat' split
    all_goals first | exact raises_ok _ | exact (raises_error _).2 ⟨_, rfl⟩
  · rw [haudiences]
    exact raises_ok _

theorem subjectOf_eq_ok {subject : Str} : subjectOf payload = .ok (some subject) ↔
    payload.get (str "sub") = some (.str subject) ∧ subject ≠ [] := by
  unfold subjectOf
  cases hvalue : payload.get (str "sub") with
  | none => simp
  | some value =>
    cases value with
    | str s =>
      by_cases hs : s = []
      · simp only [hs, List.isEmpty_nil, if_true, reduceCtorEq, Option.some.injEq, Json.str.injEq,
          false_iff, not_and, not_not]
        exact fun h => h.symm
      · have hempty : s.isEmpty = false := by simpa using hs
        simp only [hempty, Bool.false_eq_true, if_false, Except.ok.injEq, Option.some.injEq,
          Json.str.injEq, iff_self_and]
        exact fun h => h ▸ hs
    | _ => simp

theorem audiencesOf_eq_single {audience : Str} : audiencesOf payload = .ok [audience] ↔
    payload.get (str "aud") = some (.str audience) ∨
      payload.get (str "aud") = some (.arr [.str audience]) := by
  unfold audiencesOf
  cases hvalue : payload.get (str "aud") with
  | none => simp
  | some value =>
    cases value with
    | str s => simp
    | arr items =>
      simp only [reduceCtorEq, Option.some.injEq, Json.arr.injEq, false_or]
      rw [← List.map_singleton, ← Json.strings_arr_eq_some]
      cases (Json.arr items).strings <;> simp
    | _ => simp [Json.strings]

theorem hasExpectedType_exactly {header : Dict} {type : Str} :
    hasExpectedType header (.exactly type) = true ↔ header.get (str "typ") = some (.str type) := by
  unfold hasExpectedType
  rw [Option.any_eq_true]
  constructor
  · rintro ⟨value, hvalue, hstr⟩
    rw [hvalue, Json.isStr_eq_true hstr]
  · intro h
    exact ⟨_, h, by simp [Json.isStr]⟩

theorem isBackchannelLogoutEvents_iff {events : Option Json} :
    OidcRelyingParty.isBackchannelLogoutEvents events = true ↔
      ∃ members, events = some (.obj [(backchannelLogoutEvent, .obj members)]) := by
  unfold OidcRelyingParty.isBackchannelLogoutEvents
  constructor
  · intro h
    split at h
    · rename_i name members
      exact ⟨members, by rw [of_decide_eq_true h]⟩
    · cases h
  · rintro ⟨members, rfl⟩
    exact decide_eq_true rfl

end Claims

/-! ## One call -/

/-- `_is_logout_profile` at one reading. -/
def profileAt (rp : OidcRelyingParty) (claims : VerifiedClaims) (now : ℚ) : Bool :=
  claims.audiences = [rp.config.clientId] &&
    now - claims.issuedAt ≤ logoutTokenMaxAgeSeconds + (rp.config.leewaySeconds : ℚ) &&
    claims.issuedAt < claims.expiresAt && !claims.claims.has (str "nonce") &&
    OidcRelyingParty.isBackchannelLogoutEvents (claims.claims.get (str "events"))

section Call

variable {py : Platform} {rp : OidcRelyingParty} {token subject : Str} {header payload : Dict}
  {lookup : List (Event verifierCalls Exn)} {checked profiled : ℚ}

theorem profileAt_iff {claims : VerifiedClaims} {now : ℚ} : profileAt rp claims now = true ↔
    claims.audiences = [rp.config.clientId] ∧
      now - claims.issuedAt ≤ 120 + rp.config.leewaySeconds ∧ claims.issuedAt < claims.expiresAt ∧
      claims.claims.get (str "nonce") = none ∧ ∃ members,
        claims.claims.get (str "events") = some (.obj [(backchannelLogoutEvent, .obj members)]) := by
  unfold profileAt
  rw [Bool.and_eq_true, Bool.and_eq_true, Bool.and_eq_true, Bool.and_eq_true,
    isBackchannelLogoutEvents_iff]
  simp only [decide_eq_true_eq, and_assoc, logoutTokenMaxAgeSeconds, Int.cast_ofNat, Dict.has,
    Bool.not_eq_true', Option.isSome_eq_false_iff, Option.isNone_iff_eq_none]

/-- The profile is what the header's type and the two readings leave to ask. -/
theorem logoutProfile_iff : LogoutProfile rp header payload checked profiled subject ↔
    hasExpectedType header (.exactly (str "logout+jwt")) = true ∧
      NamesAudience payload [rp.config.clientId] ∧ ∃ claims,
        claimsAt (rp.verifierFor rp.config.clientId) payload checked = .ok claims ∧
        profileAt rp claims profiled = true ∧ claims.subject = some subject := by
  simp only [hasExpectedType_exactly, claimsAt_eq_ok, profileAt_iff]
  constructor
  · intro h
    have haudiences := audiencesOf_eq_single.2 h.audience
    obtain ⟨expiresAt, issuedAt, hexp, hiat, hlt, hunexpired, hissued, hage⟩ := h.times
    refine ⟨h.type, ⟨_, haudiences, _, List.mem_singleton_self _, List.mem_singleton_self _⟩,
      ⟨some subject, rp.config.issuer, [rp.config.clientId], expiresAt, issuedAt, payload⟩,
      ⟨⟨hexp, hiat, hunexpired, ?_, h.notBefore⟩, rfl, rfl, ?_, haudiences⟩, ⟨rfl, ?_, hlt, h.nonce,
      h.events⟩, rfl⟩
    · exact sub_le_iff_le_add.1 hissued
    · exact subjectOf_eq_ok.2 h.subject
    · exact hage
  · rintro ⟨htype, -, claims, ⟨hold, rfl, -, hsub, haud⟩, ⟨hsingle, hage, hlt, hnonce, hevents⟩,
      hsubject⟩
    rw [hsubject] at hsub
    rw [hsingle] at haud
    exact ⟨htype, audiencesOf_eq_single.1 haud, subjectOf_eq_ok.1 hsub,
      ⟨_, _, hold.exp, hold.iat, hlt, hold.unexpired, sub_le_iff_le_add.2 hold.issued, hage⟩,
      hold.valid, hnonce, hevents⟩

/-- The type is checked where the rest of the header has passed. -/
theorem checkedHeader_of_any {keyId : Option Str} (expected : ExpectedType)
    (h : checkedHeader py token .any = .ok keyId) (hheader : py.getUnverifiedHeader token = .ok header) :
    checkedHeader py token expected = if hasExpectedType header expected = true then .ok keyId
      else .error (.verificationRefusal .invalidTokenType) := by
  unfold checkedHeader at h ⊢
  rw [hheader] at h ⊢
  split_ifs at h with hlong hascii hsegment
  rw [if_neg hlong, if_neg hascii, if_neg hsegment]
  dsimp only at h ⊢
  split_ifs at h with halg htype
  rw [if_neg halg]
  by_cases hexpected : hasExpectedType header expected = true
  · rw [if_pos hexpected, if_neg (by simpa using hexpected), h]
  · rw [if_neg hexpected, if_pos (by simpa using hexpected)]

theorem verify_of_refusal {v : JwtVerifier} {expected : ExpectedType}
    {script : List (Event verifierCalls Exn)} {reason : RejectionReason}
    (htypes : requireComparableTypes expected = .ok ())
    (h : Runs (verifiedClaims py v token expected) script (.error (.verificationRefusal reason))) :
    Runs (verify py v token expected) script (.ok (.error reason)) := by
  unfold verify
  rw [htypes]
  show Runs (tryCatch (do return (.ok (← verifiedClaims py v token expected) : Except _ _)) rejected)
    script _
  rw [tryCatch_eq]
  exact Runs.then_done (Runs.bind_error h) ⟨rfl, rfl⟩

theorem verify_of_claims {v : JwtVerifier} {expected : ExpectedType}
    {script : List (Event verifierCalls Exn)} {claims : VerifiedClaims}
    (htypes : requireComparableTypes expected = .ok ())
    (h : Path (verifiedClaims py v token expected) script (.ok claims)) :
    Path (verify py v token expected) script (.ok (.ok claims)) := by
  unfold verify
  rw [htypes]
  refine Path.tryCatch ?_
  rw [← List.append_nil script]
  exact h.bind_rest.2 ⟨rfl, rfl⟩

theorem Runs.of {α : Type} {owner : ℕ} {p : Verification α} {script : List (Event verifierCalls Exn)}
    {r : Except Exn α} (h : Runs p script r) :
    Runs (p.of owner) (script.map (verifierEvent owner)) r := by
  obtain ⟨es, ⟨t, rfl⟩, hpath⟩ := h
  exact ⟨_, by rw [List.map_append]; exact List.prefix_append _ _, path_of hpath⟩

/-- What the verifier answers at one reading: claims for a payload of the type and the audience whose
times hold, and a refusal otherwise. -/
theorem verify_judges {v : JwtVerifier} {type : Str} (h : TokenHolds py v token header payload lookup)
    (now : ℚ) :
    (∃ reason, Runs (verify py v token (.exactly type)) (lookup ++ [⟨.wallClock, .ok now⟩])
        (.ok (.error reason)) ∧
      ¬(hasExpectedType header (.exactly type) = true ∧ NamesAudience payload v.audiences ∧
        ∃ claims, claimsAt v payload now = .ok claims)) ∨
    ∃ claims, Path (verify py v token (.exactly type)) (lookup ++ [⟨.wallClock, .ok now⟩])
        (.ok (.ok claims)) ∧ hasExpectedType header (.exactly type) = true ∧
      NamesAudience payload v.audiences ∧ claimsAt v payload now = .ok claims := by
  obtain ⟨keyId, key, hany, hkey, hsigned⟩ := h.signed
  have hchecked := checkedHeader_of_any (.exactly type) hany h.header_eq
  have htypes : requireComparableTypes (.exactly type) = .ok () := rfl
  by_cases htype : hasExpectedType header (.exactly type) = true
  · rw [if_pos htype] at hchecked
    have hclaimsEq : verifiedClaims py v token (.exactly type) = signingKey py v keyId >>=
        fun key => done (verifiedPayload py v token key) >>= claimsOf v := by
      unfold verifiedClaims
      rw [hchecked]
      rfl
    have hrest : ∀ {es r}, Runs (done (verifiedPayload py v token key) >>= claimsOf v) es r →
        Runs (verifiedClaims py v token (.exactly type)) (lookup ++ es) r := by
      intro es r hrun
      rw [hclaimsEq]
      exact Runs.bind hkey hrun
    by_cases hnamed : NamesAudience payload v.audiences
    · have hpayload : verifiedPayload py v token key = .ok payload := by
        unfold verifiedPayload
        rw [hsigned.named hnamed]
      have hclaims : Path (claimsOf v payload) [⟨.wallClock, .ok now⟩] (claimsAt v payload now) ∨
          ∃ e, Path (claimsOf v payload) [] (.error e) ∧ claimsAt v payload now = .error e :=
        claimsOf_at v payload now
      cases hat : claimsAt v payload now with
      | error e =>
        obtain ⟨audiences, haudiences, -⟩ := hnamed
        obtain ⟨reason, rfl⟩ := claimsAt_raises ⟨audiences, haudiences⟩ e hat
        refine .inl ⟨reason, verify_of_refusal htypes (hrest ?_), fun hall => ?_⟩
        · rw [hpayload]
          rcases hclaims with hpath | ⟨e', hpath, heq⟩
          · rw [hat] at hpath
            exact ⟨_, List.prefix_rfl, hpath⟩
          · rw [hat] at heq
            exact ⟨[], List.nil_prefix, Except.error.inj heq ▸ hpath⟩
        · obtain ⟨-, -, claims, hclaims⟩ := hall
          cases hclaims
      | ok claims =>
        have hpath : Path (claimsOf v payload) [⟨.wallClock, .ok now⟩] (.ok claims) := by
          rcases hclaims with hpath | ⟨e', -, heq⟩
          · rwa [hat] at hpath
          · cases hat.symm.trans heq
        refine .inr ⟨claims, verify_of_claims htypes ?_, htype, hnamed, rfl⟩
        rw [hclaimsEq]
        refine hkey.bind_rest.2 ?_
        rw [hpayload]
        exact hpath
    · have hpayload : ∃ reason, verifiedPayload py v token key =
          .error (.verificationRefusal reason) := by
        unfold verifiedPayload
        rcases hsigned.unnamed hnamed with herror | herror
        · exact ⟨.invalidAudience, by rw [herror]; rfl⟩
        · exact ⟨.invalidClaim, by rw [herror]; rfl⟩
      obtain ⟨reason, hpayload⟩ := hpayload
      refine .inl ⟨reason, verify_of_refusal htypes (hrest ?_), fun hall => hnamed hall.2.1⟩
      rw [hpayload]
      exact ⟨[], List.nil_prefix, rfl, rfl⟩
  · rw [if_neg htype] at hchecked
    refine .inl ⟨.invalidTokenType, verify_of_refusal htypes ?_, fun hall => htype hall.1⟩
    unfold verifiedClaims
    rw [hchecked]
    exact ⟨[], List.nil_prefix, rfl, rfl⟩

/-- The profile check reads the clock once, and raises for an `iat` no float holds. -/
theorem isLogoutProfile_path (rp : OidcRelyingParty) (claims : VerifiedClaims) (now : ℚ) :
    Path (rp.isLogoutProfile claims) [⟨.wallClock, .ok now⟩]
      (if FitsFloat claims.issuedAt then .ok (profileAt rp claims now) else
        .error .overflowError) := by
  refine ⟨.ok now, [], rfl, ?_⟩
  show Path ((done (ageAt now claims.issuedAt)).andThen _) [] _
  unfold ageAt
  by_cases hfits : FitsFloat claims.issuedAt
  · rw [if_pos hfits, if_pos hfits]
    exact ⟨rfl, rfl⟩
  · rw [if_neg hfits, if_neg hfits]
    exact ⟨rfl, rfl⟩

/-- What a call makes of a profile check and a subject. -/
theorem verifyLogoutToken_of_claims {claims : VerifiedClaims} {checks : List HostEvent}
    {held : Except Exn Bool}
    (hverify : Path ((verify py (rp.verifierFor rp.config.clientId) token
      (.exactly (str "logout+jwt"))).of rp.jwtVerifier) checks (.ok (.ok claims)))
    (hheld : Path (rp.isLogoutProfile claims) [⟨.wallClock, .ok profiled⟩] held) :
    Path (rp.verifyLogoutToken py token) (checks ++ [⟨.wallClock, .ok profiled⟩])
      (held.map fun profile =>
        (if profile then claims.subject else none).elim
          (.error { reason := .invalidLogoutClaim }) .ok) := by
  unfold OidcRelyingParty.verifyLogoutToken
  refine hverify.bind_rest.2 ?_
  cases held with
  | error e => exact hheld.bind_error
  | ok profile =>
    rw [← List.append_nil [_]]
    refine hheld.bind_rest.2 ?_
    cases profile with
    | false => exact ⟨rfl, rfl⟩
    | true =>
      rw [if_pos rfl]
      cases hsubject : claims.subject with
      | none => exact ⟨rfl, rfl⟩
      | some subject => exact ⟨rfl, rfl⟩

/-- **One call accepts exactly the profile**, and it answers where a float can hold the `iat`. -/
theorem verifyLogoutToken_judges
    (h : TokenHolds py (rp.verifierFor rp.config.clientId) token header payload lookup)
    (checked profiled : ℚ) : ∃ r,
      Runs (rp.verifyLogoutToken py token) (readings rp.jwtVerifier lookup checked profiled) r ∧
      (IssuedInFloats payload → ∃ answer, r = .ok answer) ∧
      ∀ subject, r = .ok (.ok subject) ↔
        IssuedInFloats payload ∧ LogoutProfile rp header payload checked profiled subject := by
  rcases verify_judges h checked with ⟨reason, hrun, hnot⟩ | ⟨claims, hpath, htype, hnamed, hat⟩
  · refine ⟨.ok (.error { reason := .logoutTokenRejected, tokenRejection := some reason }),
      Runs.extend ?_, fun _ => ⟨_, rfl⟩, fun subject => ?_⟩
    · unfold OidcRelyingParty.verifyLogoutToken
      rw [bind_eq]
      exact Runs.then_done (Runs.of hrun) ⟨rfl, rfl⟩
    rw [logoutProfile_iff]
    constructor
    · rintro ⟨⟩
    · rintro ⟨-, htype, hnamed, claims, hat, -⟩
      exact absurd ⟨htype, hnamed, claims, hat⟩ hnot
  have hiat : claims.claims = payload ∧ claims.claims.get (str "iat") = some (.int claims.issuedAt) :=
    ⟨(claimsAt_eq_ok.1 hat).2.1, (claimsAt_eq_ok.1 hat).1.iat⟩
  have hissued : IssuedInFloats payload ↔ FitsFloat claims.issuedAt := by
    unfold IssuedInFloats
    rw [← hiat.1, hiat.2]
    simp
  have hiff : ∀ subject, LogoutProfile rp header payload checked profiled subject ↔
      profileAt rp claims profiled = true ∧ claims.subject = some subject := by
    intro subject
    rw [logoutProfile_iff]
    constructor
    · rintro ⟨-, -, claims', hat', hheld⟩
      cases hat.symm.trans hat'
      exact hheld
    · exact fun hheld => ⟨htype, hnamed, claims, hat, hheld⟩
  simp only [hiff, hissued]
  have hrun := verifyLogoutToken_of_claims (path_of hpath) (isLogoutProfile_path rp claims profiled)
  refine ⟨_, ⟨_, List.prefix_rfl, hrun⟩, ?_⟩
  by_cases hfits : FitsFloat claims.issuedAt
  · rw [if_pos hfits]
    refine ⟨fun _ => ⟨_, rfl⟩, fun subject => ?_⟩
    show Except.ok _ = Except.ok _ ↔ _
    cases profileAt rp claims profiled <;> cases claims.subject <;> simp [hfits]
  · rw [if_neg hfits]
    refine ⟨fun h => absurd h hfits, fun subject => ?_⟩
    constructor
    · rintro ⟨⟩
    · exact fun h => absurd h.1 hfits

end Call

/-! ## Every accepting call -/

/-- The readings of the wall clock in a run. -/
def wallReadings (es : List HostEvent) : List ℚ :=
  es.filterMap fun
    | ⟨.wallClock, .ok now⟩ => some now
    | ⟨.verifier _ .wallClock, .ok now⟩ => some now
    | _ => none

section Replay

variable {py : Platform} {rp : OidcRelyingParty} {token subject : Str} {es : List HostEvent}

theorem wallReadings_append (es es' : List HostEvent) :
    wallReadings (es ++ es') = wallReadings es ++ wallReadings es' := List.filterMap_append

/-- A step that reads no wall clock. -/
def VerifierCall.Timeless : VerifierCall → Prop
  | wallClock => False
  | _ => True

/-- Looking a key up reads no wall clock. -/
theorem signingKey_only (py : Platform) (v : JwtVerifier) (keyId : Option Str) :
    Only VerifierCall.Timeless (signingKey py v keyId) := by
  have hask : ∀ c : VerifierCall, c.Timeless → Only VerifierCall.Timeless (ask c) :=
    fun c hc => ⟨hc, only_done⟩
  have hcurrent : ∀ keySet, Only VerifierCall.Timeless (isCurrent keySet) := fun keySet =>
    Only.bind (hask _ trivial) fun _ => trivial
  have hkeyOf : ∀ snapshot, Only VerifierCall.Timeless (keyOf keyId snapshot) := by
    intro snapshot
    cases snapshot with
    | none => trivial
    | some keySet =>
      refine Only.bind (hcurrent keySet) fun current => ?_
      split
      · split
        · split <;> trivial
        · split
          · trivial
          · refine Only.bind (hask _ trivial) fun failed => ?_
            split <;> trivial
      · trivial
  have hfetched : Only VerifierCall.Timeless (fetchedKeys py v) := by
    refine Only.andThen (Only.bind (hask _ trivial) fun document => ?_)
      (Only.onRaise fun e => ?_)
    · exact Only.bind (only_done _) fun _ => trivial
    · cases e <;> trivial
  have hrefresh : Only VerifierCall.Timeless (refreshKeySet py v) := by
    refine Only.bind (hask _ trivial) fun acquired => ?_
    split
    · refine Only.andThen ?_ fun r => Only.bind (hask _ trivial) fun _ => only_done r
      refine Only.bind (hask _ trivial) fun now => Only.bind (hask _ trivial) fun last => ?_
      split
      · trivial
      · refine Only.bind (hask _ trivial) fun _ => Only.bind hfetched fun fetched => ?_
        split
        · exact Only.bind (hask _ trivial) fun _ => hask _ trivial
        · exact hask _ trivial
    · trivial
  have hneeds : ∀ snapshot, Only VerifierCall.Timeless (needsRefresh keyId snapshot) := by
    intro snapshot
    cases snapshot with
    | none => trivial
    | some keySet =>
      refine Only.bind (hcurrent keySet) fun current => ?_
      split <;> trivial
  refine Only.bind (hask _ trivial) fun snapshot => Only.bind (hneeds snapshot) fun needed => ?_
  split
  · exact Only.bind hrefresh fun _ => Only.bind (hask _ trivial) hkeyOf
  · exact hkeyOf snapshot

theorem wallReadings_verifier {owner : ℕ} {steps : List (Event verifierCalls Exn)}
    (h : ∀ e ∈ steps, e.call.Timeless) : wallReadings (steps.map (verifierEvent owner)) = [] := by
  unfold wallReadings
  rw [List.filterMap_eq_nil_iff]
  intro e he
  obtain ⟨⟨call, answer⟩, hmem, rfl⟩ := List.mem_map.1 he
  have hne := h _ hmem
  cases call <;> first | rfl | exact hne.elim

theorem claimsOf_path_ok {v : JwtVerifier} {payload : Dict} {steps : List (Event verifierCalls Exn)}
    {claims : VerifiedClaims} (h : Path (claimsOf v payload) steps (.ok claims)) :
    ∃ now, steps = [⟨.wallClock, .ok now⟩] ∧ claimsAt v payload now = .ok claims := by
  have hread : ∃ now, steps = [⟨.wallClock, .ok now⟩] := by
    unfold claimsOf checkedTimeClaims at h
    obtain ⟨es₁, esA, ⟨expiresAt, issuedAt⟩, rfl, htimes, hA⟩ := path_bind_ok h
    obtain ⟨es₂, esB, subject, rfl, hsubject, hB⟩ := path_bind_ok hA
    obtain ⟨es₃, esC, audiences, rfl, haudiences, hC⟩ := path_bind_ok hB
    obtain ⟨rfl, -⟩ := path_done.1 hsubject
    obtain ⟨rfl, -⟩ := path_done.1 haudiences
    obtain ⟨rfl, -⟩ := hC
    obtain ⟨es₄, esD, exp, rfl, hexp, hD⟩ := path_bind_ok htimes
    obtain ⟨es₅, esE, iat, rfl, hiat, hE⟩ := path_bind_ok hD
    obtain ⟨es₆, esF, notBefore, rfl, hnbf, hF⟩ := path_bind_ok hE
    obtain ⟨es₇, es₈, now, rfl, hnow, hchecked⟩ := path_bind_ok hF
    obtain ⟨rfl, -⟩ := path_done.1 hexp
    obtain ⟨rfl, -⟩ := path_done.1 hiat
    obtain ⟨rfl, -⟩ := path_done.1 hnbf
    obtain ⟨rfl, -⟩ := path_done.1 hchecked
    obtain ⟨ans, rest, rfl, hrest⟩ := hnow
    obtain ⟨rfl, hr⟩ := path_done.1 hrest
    exact ⟨now, by rw [← hr]; rfl⟩
  obtain ⟨now, rfl⟩ := hread
  refine ⟨now, rfl, ?_⟩
  have hat : Runs (claimsOf v payload) [⟨.wallClock, .ok now⟩] (claimsAt v payload now) := by
    rcases claimsOf_at v payload now with hpath | ⟨e, hpath, heq⟩
    · exact ⟨_, List.prefix_rfl, hpath⟩
    · exact ⟨[], List.nil_prefix, heq ▸ hpath⟩
  exact hat.unique ⟨_, List.prefix_rfl, h⟩

/-- Claims that verify have been judged at one reading, the only one of the verification. -/
theorem verify_path_ok {v : JwtVerifier} {expected : ExpectedType}
    {steps : List (Event verifierCalls Exn)} {claims : VerifiedClaims}
    (h : Path (verify py v token expected) steps (.ok (.ok claims))) :
    ∃ lookup now, steps = lookup ++ [⟨.wallClock, .ok now⟩] ∧ (∀ e ∈ lookup, e.call.Timeless) ∧
      TimeClaimsHold v claims now := by
  unfold verify at h
  obtain ⟨es₁, esA, _, rfl, hrequire, hA⟩ := path_bind_ok h
  obtain ⟨rfl, -⟩ := path_done.1 hrequire
  rw [tryCatch_eq] at hA
  obtain ⟨es₂, es₃, r, rfl, hverified, hafter⟩ := path_andThen.1 hA
  cases r with
  | error e =>
    cases e <;>
      · obtain ⟨-, hr⟩ := hafter
        cases hr
  | ok outcome =>
    obtain ⟨rfl, hr⟩ := hafter
    obtain ⟨es₄, es₅, claims', rfl, hclaims, hreturn⟩ := path_bind_ok hverified
    obtain ⟨rfl, hout⟩ := hreturn
    cases hr
    cases hout
    unfold verifiedClaims at hclaims
    obtain ⟨es₆, esB, keyId, rfl, hheader, hB⟩ := path_bind_ok hclaims
    obtain ⟨es₇, esC, key, rfl, hkey, hC⟩ := path_bind_ok hB
    obtain ⟨es₈, es₉, payload, rfl, hpayload, hclaimsOf⟩ := path_bind_ok hC
    obtain ⟨rfl, -⟩ := path_done.1 hheader
    obtain ⟨rfl, -⟩ := path_done.1 hpayload
    obtain ⟨now, rfl, hat⟩ := claimsOf_path_ok hclaimsOf
    obtain ⟨hold, -⟩ := claimsAt_eq_ok.1 hat
    exact ⟨es₇, now, by simp, Only.path (signingKey_only py v keyId) hkey, hold⟩

/-- A profile check that answers has judged the claims at its one reading. -/
theorem isLogoutProfile_path_ok {claims : VerifiedClaims} {profile : Bool}
    (h : Path (rp.isLogoutProfile claims) es (.ok profile)) :
    ∃ profiled, es = [⟨.wallClock, .ok profiled⟩] ∧ profileAt rp claims profiled = profile := by
  unfold OidcRelyingParty.isLogoutProfile at h
  obtain ⟨es₁, esA, profiled, rfl, hnow, hA⟩ := path_bind_ok h
  obtain ⟨es₂, es₃, age, rfl, hage, hreturn⟩ := path_bind_ok hA
  obtain ⟨ans, rest, rfl, hrest⟩ := hnow
  obtain ⟨rfl, hread⟩ := path_done.1 hrest
  obtain ⟨rfl, haged⟩ := path_done.1 hage
  obtain ⟨rfl, hprofile⟩ := hreturn
  refine ⟨profiled, by rw [← hread]; rfl, ?_⟩
  unfold ageAt at haged
  split_ifs at haged with hfits
  rw [Except.ok.inj hprofile, Except.ok.inj haged]
  rfl

/-- An accepting call has read the clock twice: from the leeway before the `iat` of the payload the
token decodes to, and until the age bound and the leeway after it. -/
theorem accepting_readings (h : Path (rp.verifyLogoutToken py token) es (.ok (.ok subject))) :
    ∃ claims checked profiled,
      Accepts py (rp.verifierFor rp.config.clientId) token (.exactly (str "logout+jwt")) claims ∧
      claims.claims.get (str "iat") = some (.int claims.issuedAt) ∧
      wallReadings es = [checked, profiled] ∧
      claims.issuedAt - rp.config.leewaySeconds ≤ checked ∧
      profiled ≤ claims.issuedAt + 120 + rp.config.leewaySeconds := by
  unfold OidcRelyingParty.verifyLogoutToken at h
  obtain ⟨es₁, esA, outcome, rfl, hverify, hA⟩ := path_bind_ok h
  obtain ⟨steps, rfl, hpath⟩ := of_path hverify
  cases outcome with
  | error reason =>
    obtain ⟨-, hr⟩ := hA
    cases hr
  | ok claims =>
    obtain ⟨es₂, es₃, profile, rfl, hprofile, hB⟩ := path_bind_ok hA
    obtain ⟨profiled, rfl, rfl⟩ := isLogoutProfile_path_ok hprofile
    obtain ⟨lookup, checked, rfl, hlookup, hold⟩ := verify_path_ok hpath
    by_cases hheld : profileAt rp claims profiled = true
    · obtain ⟨-, hage, -⟩ := profileAt_iff.1 hheld
      rw [if_pos hheld] at hB
      have hrest : es₃ = [] := by
        cases hsubject : claims.subject with
        | none =>
          rw [hsubject] at hB
          exact hB.1
        | some s =>
          rw [hsubject] at hB
          exact hB.1
      refine ⟨claims, checked, profiled, verify_accepts hpath, hold.iat, ?_,
        sub_le_iff_le_add.2 hold.issued, by linarith⟩
      rw [hrest, List.map_append, wallReadings_append, wallReadings_append,
        wallReadings_verifier hlookup]
      rfl
    · rw [if_neg hheld] at hB
      obtain ⟨-, hr⟩ := hB
      cases hr

end Replay

/-! ## Two runs and a raise -/

/-- The steps of the verifier of those surroundings. -/
def quietVerifier : Unit → (c : VerifierCall) → Except Exn c.Answer × Unit :=
  fun s c => quietHost s (.verifier 0 c)

/-- The surroundings in which `"l"` is a logout token of the client with a payload. -/
def payloadPlatform (payload : Dict) : Platform :=
  { logoutPlatform with
    jwtDecode := fun d =>
      if d.token = str "l" ∧ str "client" ∈ d.audience ∧ d.issuer = str "https://issuer" then
        .ok payload
      else .error .invalidAudience }

/-- The lookup of the one key of those surroundings, and what it answers. -/
def payloadLookup (rp : OidcRelyingParty) (payload : Dict) :
    List (Event verifierCalls Exn) × Except Exn RSAPublicKey :=
  play quietVerifier
    (signingKey (payloadPlatform payload) (rp.verifierFor rp.config.clientId) none) ()

theorem payloadPlatform_decodes (payload : Dict) : DecodesPayload (payloadPlatform payload) := by
  intro d d' claims claims' _ h h'
  simp only [payloadPlatform] at h h'
  split_ifs at h h'
  rw [← Except.ok.inj h, ← Except.ok.inj h']

theorem payloadPlatform_holds {rp : OidcRelyingParty} {payload : Dict} {key : RSAPublicKey}
    (hissuer : rp.config.issuer = str "https://issuer") (hclient : rp.config.clientId = str "client")
    (haudiences : audiencesOf payload = .ok [str "client"])
    (hheader : checkedHeader (payloadPlatform payload) (str "l") .any = .ok none)
    (hkey : (payloadLookup rp payload).2 = .ok key) :
    TokenHolds (payloadPlatform payload) (rp.verifierFor rp.config.clientId) (str "l")
      (typedHeader "logout+jwt") payload (payloadLookup rp payload).1 := by
  refine ⟨rfl, none, key, hheader, ?_, ⟨fun _ => ?_, fun hno => ?_⟩⟩
  · rw [← hkey]
    exact path_play _ _ _
  · exact if_pos ⟨rfl, by simp [OidcRelyingParty.verifierFor, hclient], hissuer⟩
  · refine absurd ⟨_, haudiences, str "client", ?_, List.mem_singleton_self _⟩ hno
    simp [OidcRelyingParty.verifierFor, hclient]

theorem logoutPayload_profile : LogoutProfile demoRelyingParty (typedHeader "logout+jwt")
    logoutPayload 100 100 (str "u") where
  type := rfl
  audience := .inl rfl
  subject := ⟨rfl, by decide⟩
  times := ⟨200, 90, rfl, rfl, by norm_num, by norm_num [demoRelyingParty, demoClient], by
    norm_num [demoRelyingParty, demoClient], by norm_num [demoRelyingParty, demoClient]⟩
  notBefore := fun _ h => by cases h
  nonce := rfl
  events := ⟨[], rfl⟩

theorem logoutPayload_issued : IssuedInFloats logoutPayload := by
  intro issuedAt hissued
  obtain rfl : 90 = issuedAt := Json.int.inj (Option.some.inj hissued)
  decide +kernel

/-- Those surroundings a minute later. -/
def lateHost : Unit → (c : HostCall) → Except Exn c.Answer × Unit
  | _, .wallClock => (.ok 190, ())
  | _, .verifier _ .wallClock => (.ok 180, ())
  | s, c => quietHost s c

theorem floatBound_pos : 0 < floatBound := by decide +kernel

/-- A relying party whose leeway is the greatest integer that a float can hold. -/
def patientRelyingParty : OidcRelyingParty where
  config := { demoClient with leewaySeconds := floatBound - 1 }
  clientAuthorization := demoRelyingParty.clientAuthorization
  jwtVerifier := 0
  clientAuthorization_eq := demoRelyingParty.clientAuthorization_eq

/-- The payload of a logout token whose `iat` is one second before the first that a float can
hold. -/
def ancientPayload : Dict :=
  [(str "iss", .str (str "https://issuer")), (str "aud", .str (str "client")),
    (str "iat", .int (-floatBound)), (str "exp", .int 200), (str "sub", .str (str "u")),
    (str "events", .obj [(backchannelLogoutEvent, .obj [])])]

theorem ancientPayload_profile : LogoutProfile patientRelyingParty (typedHeader "logout+jwt")
    ancientPayload 100 100 (str "u") where
  type := rfl
  audience := .inl rfl
  subject := ⟨rfl, by decide⟩
  times := by
    have hleeway : (patientRelyingParty.config.leewaySeconds : ℚ) = floatBound - 1 :=
      Nat.cast_pred floatBound_pos
    have hpositive : (0 : ℚ) < floatBound := Nat.cast_pos.2 floatBound_pos
    refine ⟨200, -floatBound, rfl, rfl, by omega, ?_, ?_, ?_⟩
    all_goals
      rw [hleeway]
      push_cast
      linarith
  notBefore := fun _ h => by cases h
  nonce := rfl
  events := ⟨[], rfl⟩

theorem ancientPayload_claims :
    claimsAt (patientRelyingParty.verifierFor patientRelyingParty.config.clientId) ancientPayload
        100 =
      .ok ⟨some (str "u"), str "https://issuer", [str "client"], 200, -floatBound,
        ancientPayload⟩ := by
  obtain ⟨expiresAt, issuedAt, hexp, hiat, -, hnow, hissued, -⟩ := ancientPayload_profile.times
  obtain rfl : 200 = expiresAt := Json.int.inj (Option.some.inj hexp)
  obtain rfl : -(floatBound : ℤ) = issuedAt := Json.int.inj (Option.some.inj hiat)
  exact claimsAt_eq_ok.2 ⟨⟨rfl, rfl, hnow, by
    linarith [show ((patientRelyingParty.verifierFor
      patientRelyingParty.config.clientId).leewaySeconds : ℚ) =
      patientRelyingParty.config.leewaySeconds from rfl], fun _ h => by cases h⟩, rfl, rfl,
    subjectOf_eq_ok.2 ⟨rfl, by decide⟩, audiencesOf_eq_single.2 (.inl rfl)⟩

end WebAuth
