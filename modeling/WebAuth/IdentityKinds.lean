import WebAuth.ReadersApart

/-!
# Cookies and tokens apart

Behind the gates a request speaks for its token or for its cookie. No later change of its app, path,
method, `Authorization` lines or `Cookie` lines makes a reader of the route take the one for the
other, or answer for a request that is no longer the one the bearer gate admitted.
-/

namespace WebAuth

open Python Effects Program

/-! ## The statement -/

/-- Nothing that a bearer record was made for has changed since. -/
structure AsAdmitted (record : BearerAdmission) (sent scope : Scope) : Prop where
  app : ∃ app app', sent.app = some app ∧ scope.app = some app' ∧ app'.ref = app.ref
  path : scope.path = sent.path
  line : ∃ line, sent.getlist (str "authorization") = [line] ∧
    scope.getlist (str "authorization") = [line]
  method : record.isResourceAdmission = true → scope.method = sent.method

/-- SHA-256 tells the `Authorization` value a record was made for from another one that the request
carries now. -/
def NoCollision (py : Platform) (scope : Scope) : Prop :=
  ∀ record sent, scope.bearerGate = some record → RecordedOn py record sent →
    ∀ line ∈ sent.getlist (str "authorization"), ∀ line' ∈ scope.getlist (str "authorization"),
      authorizationDigest py line' = authorizationDigest py line → line' = line

/-- The request carries a bearer record that was made for it and that it has kept. -/
def Speaks (py : Platform) (scope : Scope) (record : BearerAdmission) : Prop :=
  scope.bearerGate = some record ∧ ∃ sent, RecordedOn py record sent ∧
    AsAdmitted record sent scope

/-- What the readers of a request may come to. -/
structure KindsApart (py : Platform) (scope : Scope) : Prop where
  /-- With a token no reader asks a store, and none answers but for the token. -/
  token : scope.bearerGate.isSome = true →
    (∀ config, sessionIdFromRequest py scope config = .ok none) ∧
      ∀ (reader : AccountReader) es r, Path (reader.read py scope) es r →
        (∀ e ∈ es, e.call.Binds) ∧ ∀ user, r = .ok (some user) →
          ∃ record, Speaks py scope record ∧ record.principal = .person user
  caller : ∀ caller, bearerCaller py scope = .ok caller →
    ∃ record, Speaks py scope record ∧ record.principal = .machine caller
  person : ∀ user, resourcePerson py scope = .ok user →
    ∃ record, Speaks py scope record ∧ record.isResourceAdmission = true ∧
      record.principal = .person user
  admin : ∀ record, scope.bearerGate = some record → record.isResourceAdmission = true →
    ∀ user, (∀ redirect es, ¬Path (adminUser py redirect scope) es (.ok user)) ∧
      admittedAdmin py scope ≠ .ok user
  /-- Without one the gate's account is answered while its record holds, and else none is. -/
  gate : scope.bearerGate = none → ∀ user,
    (admittedUser py scope = .ok (some user) ∨ admittedAdmin py scope = .ok user) →
      ∃ (record : GateAdmission) (sessionId : Str), GateHolds py record scope ∧
        record.admission = some (.ok user) ∧ record.cookieReading = .ok sessionId
  raises : scope.bearerGate = none → (∀ record, ¬GateHolds py record scope) →
    ∃ e, admittedUser py scope = .error e ∧ admittedAdmin py scope = .error e ∧
      (e = noGateDecision ∨ webAuthConfig scope = .error e ∨
        ∃ config, readSessionCookie py scope config = .error e)
  own : scope.bearerGate = none → ∀ redirect es user,
    Path (currentUser py redirect scope) es (.ok user) →
      (∃ (record : GateAdmission) (sessionId : Str), GateHolds py record scope ∧
        record.admission = some (.ok user) ∧ record.cookieReading = .ok sessionId) ∨
      ∃ es₁ es₂, es = es₁ ++ es₂ ∧ Path (resolveSession py scope) es₁ (.ok (.ok user))

/-! ## Kinds apart -/

section Kinds

variable {py : Platform} {scope : Scope} {record : BearerAdmission}

theorem asAdmitted_of_stillSent {sent : Scope} (hcollision : NoCollision py scope)
    (hrecord : scope.bearerGate = some record) (hrecorded : RecordedOn py record sent)
    (h : StillSent py record sent scope) : AsAdmitted record sent scope := by
  obtain ⟨app, happ, href⟩ := h.app
  obtain ⟨line, line', hline, hline', hdigest⟩ := h.line
  obtain rfl : line' = line := hcollision record sent hrecord hrecorded
    line (hline ▸ List.mem_singleton_self line) line' (hline' ▸ List.mem_singleton_self line')
    hdigest
  exact ⟨⟨record.app, app, hrecorded.made.app, happ, href⟩, h.path, ⟨line', hline, hline'⟩,
    h.method⟩

/-- A record that is answered from speaks for the request it was made for. -/
theorem Gated.speaks (h : Gated py scope) (hcollision : NoCollision py scope)
    (hrecord : scope.bearerGate = some record)
    (hanswered : (∃ caller, bearerCaller py scope = .ok caller) ∨
      ∃ (reader : AccountReader) (es : _) (user : _),
        Path (reader.read py scope) es (.ok (some user))) : Speaks py scope record := by
  obtain ⟨sent, hrecorded⟩ := h.recorded.bearer record hrecord
  have hholds := holds_of_answered hrecord hanswered
  exact ⟨hrecord, sent, hrecorded, asAdmitted_of_stillSent hcollision hrecord hrecorded
    (stillSent_of_holds hrecorded.made hholds)⟩

end Kinds

/-! ## A token and a cookie -/

/-- The digests of a request: SHA-256's for the machine's line, and values of another length, apart
from each other, for any other line. -/
def lineDigest (data : Bytes) : Bytes :=
  if data = encodeLatin1 (str "Bearer t") then
    [99, 162, 90, 38, 70, 76, 49, 14, 48, 243, 228, 249, 11, 127, 33, 83, 162, 170, 198, 226, 54,
      253, 157, 158, 135, 130, 189, 65, 57, 223, 12, 38]
  else List.replicate 33 0 ++ data

theorem lineDigest_injective : Function.Injective lineDigest := by
  intro data data' h
  have hlong (other : Bytes) : (List.replicate 33 (0 : UInt8) ++ other).length ≠ 32 := by
    rw [List.length_append, List.length_replicate]
    omega
  unfold lineDigest at h
  split_ifs at h with hline hline' hline'
  · rw [hline, hline']
  · exact (hlong data' (congrArg List.length h).symm).elim
  · exact (hlong data (congrArg List.length h)).elim
  · exact List.append_cancel_left h

/-- The surroundings of the machine with these digests. -/
def linePlatform : Platform := { tokenPlatform with sha256 := lineDigest }

theorem encodeLatin1_decodeLatin1 (b : Bytes) : encodeLatin1 (decodeLatin1 b) = b := by
  unfold encodeLatin1 decodeLatin1
  rw [List.map_map]
  refine (List.map_congr_left fun byte _ => ?_).trans (List.map_id b)
  exact UInt8.ofNat_toNat

theorem linePlatform_noCollision (scope : Scope) : NoCollision linePlatform scope := by
  intro record sent _ _ line hline line' hline' hdigest
  obtain ⟨header, -, rfl⟩ := List.mem_map.1 hline
  obtain ⟨header', -, rfl⟩ := List.mem_map.1 hline'
  have hbytes := lineDigest_injective hdigest
  rw [encodeLatin1_decodeLatin1, encodeLatin1_decodeLatin1] at hbytes
  rw [hbytes]

/-- The bearer gate's run on the machine's request. -/
def lineRun : List HostEvent × Except Exn GateResult :=
  play servingHost (machineGate.refusal linePlatform machineScope) ()

/-- The request it hands on. -/
def lineScope : Scope := (lineRun.2.toOption.map GateResult.scope).getD machineScope

/-- That request, once the application has given it another root path and a session's cookie. -/
def mixedScope : Scope :=
  { lineScope with rootPath := str "/api", headers := lineScope.headers ++ gatedScope.headers }

theorem lineRun_path : Path (machineGate.refusal linePlatform machineScope) lineRun.1
    (.ok ⟨none, lineScope⟩) := play_passed (by decide +kernel)

end WebAuth
