import WebAuth.Mediation

/-!
# What the readers of a route answer

A token request is answered from the record of the bearer gate alone, and any other from the record
of the session gate where it holds, or from the request's own cookie.
-/

namespace WebAuth

open Python Effects Program

/-! ## The readers -/

/-- The readers of a route that answer an account. -/
inductive AccountReader where
  | currentUser (loginRedirect : Option LoginRedirect)
  | adminUser (loginRedirect : Option LoginRedirect)
  | admittedUser
  | admittedAdmin
  | resourcePerson

/-- What a reader answers. -/
def AccountReader.read (py : Platform) (scope : Scope) :
    AccountReader → Task (Option AuthenticatedUser)
  | currentUser loginRedirect => some <$> WebAuth.currentUser py loginRedirect scope
  | adminUser loginRedirect => some <$> WebAuth.adminUser py loginRedirect scope
  | admittedUser => WebAuth.admittedUser py scope
  | admittedAdmin => some <$> liftM (WebAuth.admittedAdmin py scope)
  | resourcePerson => some <$> liftM (WebAuth.resourcePerson py scope)

/-- A call that binds an account into the host's own context. -/
def HostCall.Binds : HostCall → Prop
  | onAuthenticated _ => True
  | _ => False

/-- The session gate's record was made for this very request. -/
def GateHolds (py : Platform) (record : GateAdmission) (scope : Scope) : Prop :=
  scope.sessionGate = some record ∧ ∃ config, webAuthConfig scope = .ok config ∧
    record.config.same config = true ∧
    readSessionCookie py scope record.config.value = .ok record.cookieReading

/-! ## What a reader answers -/

section Answers

variable {py : Platform} {scope sent : Scope} {es : List HostEvent} {record : BearerAdmission}
  {user : AuthenticatedUser} {redirect : Option LoginRedirect}

theorem admittedTokenPerson_eq_some : admittedTokenPerson py scope = some user ↔
    ∃ record, bearerAdmission py scope = some record ∧ record.principal = .person user := by
  unfold admittedTokenPerson
  rw [Option.bind_eq_some_iff]
  refine exists_congr fun record => and_congr_right fun _ => ?_
  cases record.principal <;> simp [Principal.account]

theorem admittedTokenPerson_of_none (hnone : scope.bearerGate = none) :
    admittedTokenPerson py scope = none := by
  unfold admittedTokenPerson bearerAdmission
  rw [hnone]
  rfl

theorem raiseForBearerAdmission_of_some (hrecord : scope.bearerGate = some record) :
    raiseForBearerAdmission scope = .error noSessionReader := by
  unfold raiseForBearerAdmission isBearerAdmitted
  rw [hrecord]
  rfl

theorem raiseForBearerAdmission_of_none (hnone : scope.bearerGate = none) :
    raiseForBearerAdmission scope = .ok () := by
  unfold raiseForBearerAdmission isBearerAdmitted
  rw [hnone]
  rfl

/-- An account that a reader answers of a token request is the one of the record, read strictly. -/
def FromRecord (py : Platform) (scope : Scope) (user : AuthenticatedUser) : Prop :=
  ∃ record, bearerAdmission py scope = some record ∧ record.principal = .person user

/-- `current_user` decides, and then calls nothing but the binding of the account. -/
theorem currentUser_path {r : Except Exn AuthenticatedUser}
    (h : Path (currentUser py redirect scope) es r) :
    ∃ es₁ es₂ r₁, es = es₁ ++ es₂ ∧ Path (gateOrOwnAdmission py scope) es₁ r₁ ∧
      (∀ e ∈ es₂, e.call.Binds) ∧ ∀ user, r = .ok user → r₁ = .ok (.ok user) := by
  obtain ⟨es₁, es₂, r₁, rfl, hdecision, hrest⟩ := path_andThen.1 h
  refine ⟨es₁, es₂, r₁, rfl, hdecision, ?_⟩
  rcases r₁ with e | cause | account
  · obtain ⟨rfl, rfl⟩ := hrest
    exact ⟨by simp, fun user hr => by cases hr⟩
  · rcases path_lift_bind hrest with ⟨e, -, rfl, rfl⟩ | ⟨e, -, rfl, rfl⟩ <;>
      exact ⟨by simp, fun user hr => by cases hr⟩
  · obtain ⟨ans, rest, rfl, hended⟩ := hrest
    have hlast : rest = [] ∧ ∀ user, r = .ok user → account = user := by
      cases ans with
      | error e =>
        obtain ⟨rfl, rfl⟩ := hended
        exact ⟨rfl, fun user hr => by cases hr⟩
      | ok bound =>
        obtain ⟨rfl, rfl⟩ := hended
        exact ⟨rfl, fun user hr => Except.ok.inj hr⟩
    obtain ⟨rfl, hanswer⟩ := hlast
    refine ⟨fun e he => ?_, fun user hr => by rw [hanswer user hr]⟩
    rw [List.mem_singleton.1 he]
    trivial

theorem gateOrOwnAdmission_of_record {r : Except Exn SessionDecision}
    (hrecord : scope.bearerGate = some record) (h : Path (gateOrOwnAdmission py scope) es r) :
    es = [] ∧ ∀ user, r = .ok (.ok user) → FromRecord py scope user := by
  unfold gateOrOwnAdmission at h
  cases hperson : admittedTokenPerson py scope with
  | none =>
    rw [hperson, raiseForBearerAdmission_of_some hrecord] at h
    obtain ⟨rfl, rfl⟩ := h
    exact ⟨rfl, fun user hr => by cases hr⟩
  | some person =>
    rw [hperson] at h
    obtain ⟨rfl, rfl⟩ := h
    refine ⟨rfl, fun user hr => ?_⟩
    obtain rfl := Except.ok.inj (Except.ok.inj hr)
    exact admittedTokenPerson_eq_some.1 hperson

theorem currentUser_of_record {r : Except Exn AuthenticatedUser}
    (hrecord : scope.bearerGate = some record) (h : Path (currentUser py redirect scope) es r) :
    (∀ e ∈ es, e.call.Binds) ∧ ∀ user, r = .ok user → FromRecord py scope user := by
  obtain ⟨es₁, es₂, r₁, rfl, hdecision, hbinds, hanswer⟩ := currentUser_path h
  obtain ⟨rfl, hfrom⟩ := gateOrOwnAdmission_of_record hrecord hdecision
  exact ⟨hbinds, fun user hr => hfrom user (hanswer user hr)⟩

theorem requireAdmin_eq_ok {user' : AuthenticatedUser} :
    requireAdmin py scope user = .ok user' ↔ user.role = str "admin" ∧ user' = user := by
  unfold requireAdmin
  split_ifs with hrole
  · exact ⟨fun h => (nomatch h), fun h => absurd h.1 hrole⟩
  · exact ⟨fun h => ⟨not_not.1 hrole, (Except.ok.inj h).symm⟩, fun h => by rw [h.2]⟩

/-- What an answer of the admin's reader was an answer of. -/
theorem adminUser_ok (h : Path (adminUser py redirect scope) es (.ok user)) :
    user.role = str "admin" ∧ Path (currentUser py redirect scope) es (.ok user) := by
  obtain ⟨es₁, es₂, person, rfl, hcurrent, hadmin⟩ := path_bind_ok h
  obtain ⟨rfl, hr⟩ := path_done.1 hadmin
  obtain ⟨hrole, rfl⟩ := requireAdmin_eq_ok.1 hr.symm
  rw [List.append_nil]
  exact ⟨hrole, hcurrent⟩

theorem adminUser_path {r : Except Exn AuthenticatedUser}
    (h : Path (adminUser py redirect scope) es r) :
    ∃ r₁, Path (currentUser py redirect scope) es r₁ ∧ ∀ user, r = .ok user → r₁ = .ok user := by
  obtain ⟨es₁, es₂, r₁, rfl, hcurrent, hadmin⟩ := path_andThen.1 h
  cases r₁ with
  | error e =>
    obtain ⟨rfl, rfl⟩ := hadmin
    exact ⟨.error e, by rwa [List.append_nil], fun user hr => by cases hr⟩
  | ok person =>
    obtain ⟨rfl, rfl⟩ := path_done.1 hadmin
    refine ⟨.ok person, by rwa [List.append_nil], fun user hr => ?_⟩
    rw [(requireAdmin_eq_ok.1 hr).2]

theorem admittedUser_of_record (hrecord : scope.bearerGate = some record)
    (h : admittedUser py scope = .ok (some user)) : FromRecord py scope user := by
  unfold admittedUser at h
  cases hperson : admittedTokenPerson py scope with
  | some person =>
    rw [hperson] at h
    obtain rfl := Option.some.inj (Except.ok.inj h)
    exact admittedTokenPerson_eq_some.1 hperson
  | none =>
    rw [hperson] at h
    have hbearer : isBearerAdmitted scope = true := by
      rw [isBearerAdmitted, hrecord, Option.isSome_some]
    rw [raiseForBearerAdmission_of_some hrecord, hbearer] at h
    dsimp only at h
    cases hpersonal : isPersonAdmitted scope <;>
      · rw [hpersonal] at h
        cases h

theorem admittedAdmin_of_record (hrecord : scope.bearerGate = some record)
    (h : admittedAdmin py scope = .ok user) :
    user.role = str "admin" ∧ FromRecord py scope user := by
  unfold admittedAdmin at h
  cases hperson : admittedTokenPerson py scope with
  | some person =>
    rw [hperson] at h
    obtain ⟨hrole, rfl⟩ := requireAdmin_eq_ok.1 h
    exact ⟨hrole, admittedTokenPerson_eq_some.1 hperson⟩
  | none =>
    rw [hperson, raiseForBearerAdmission_of_some hrecord] at h
    cases h

theorem resourcePerson_eq_ok (h : resourcePerson py scope = .ok user) :
    ∃ record, bearerAdmission py scope = some record ∧ record.isResourceAdmission = true ∧
      record.principal = .person user := by
  unfold resourcePerson at h
  split at h
  · rename_i person hperson
    obtain rfl := Except.ok.inj h
    obtain ⟨record, hrecord, hif⟩ := Option.bind_eq_some_iff.1 hperson
    split_ifs at hif with hresource
    refine ⟨record, hrecord, hresource, ?_⟩
    cases hprincipal : record.principal with
    | machine caller =>
      rw [hprincipal] at hif
      cases hif
    | person account =>
      rw [hprincipal] at hif
      rw [Option.some.inj hif]
  · cases h

theorem bearerCaller_eq_ok {caller : BearerCaller} (h : bearerCaller py scope = .ok caller) :
    ∃ record, bearerAdmission py scope = some record ∧ record.principal = .machine caller := by
  unfold bearerCaller at h
  split at h
  · rename_i caller' hcaller
    obtain rfl := Except.ok.inj h
    obtain ⟨record, hrecord, hmachine⟩ := Option.map_eq_some_iff.1 hcaller
    exact ⟨record, hrecord, hmachine⟩
  · cases h

theorem map_some_eq_ok {r : Except Exn AuthenticatedUser} :
    r.map some = .ok (some user) ↔ r = .ok user := by
  cases r <;> simp [Except.map]

/-- No reader calls a store for a token request, and what it answers is the record's account. -/
theorem read_of_record {reader : AccountReader} {r : Except Exn (Option AuthenticatedUser)}
    (hrecord : scope.bearerGate = some record) (h : Path (reader.read py scope) es r) :
    (∀ e ∈ es, e.call.Binds) ∧ ∀ user, r = .ok (some user) → FromRecord py scope user := by
  cases reader with
  | currentUser redirect =>
    obtain ⟨r₁, hcurrent, rfl⟩ := path_map h
    obtain ⟨hbinds, hanswer⟩ := currentUser_of_record hrecord hcurrent
    exact ⟨hbinds, fun user hr => hanswer user (map_some_eq_ok.1 hr)⟩
  | adminUser redirect =>
    obtain ⟨r₁, hadmin, rfl⟩ := path_map h
    obtain ⟨r₂, hcurrent, hsame⟩ := adminUser_path hadmin
    obtain ⟨hbinds, hanswer⟩ := currentUser_of_record hrecord hcurrent
    exact ⟨hbinds, fun user hr => hanswer user (hsame user (map_some_eq_ok.1 hr))⟩
  | admittedUser =>
    obtain ⟨rfl, rfl⟩ := path_done.1 h
    exact ⟨by simp, fun user hr => admittedUser_of_record hrecord hr⟩
  | admittedAdmin =>
    obtain ⟨r₁, hadmin, rfl⟩ := path_map h
    obtain ⟨rfl, rfl⟩ := path_done.1 hadmin
    exact ⟨by simp, fun user hr => (admittedAdmin_of_record hrecord (map_some_eq_ok.1 hr)).2⟩
  | resourcePerson =>
    obtain ⟨r₁, hperson, rfl⟩ := path_map h
    obtain ⟨rfl, rfl⟩ := path_done.1 hperson
    refine ⟨by simp, fun user hr => ?_⟩
    obtain ⟨record, hrecord, -, hprincipal⟩ := resourcePerson_eq_ok (map_some_eq_ok.1 hr)
    exact ⟨record, hrecord, hprincipal⟩

theorem recordHoldsFor_iff : recordHoldsFor py record scope = true ↔
    (∃ app, scope.app = some app ∧ app.ref = record.app.ref) ∧ record.path = scope.path ∧
      (record.isResourceAdmission = true → record.resourceMethod = scope.method) ∧
      ∃ line, scope.getlist (str "authorization") = [line] ∧
        record.authorizationDigest = authorizationDigest py line := by
  have happ : (scope.app.any fun app => decide (app.ref = record.app.ref)) = true ↔
      ∃ app, scope.app = some app ∧ app.ref = record.app.ref := by
    cases scope.app <;> simp
  have hmethod :
      (!record.isResourceAdmission || decide (record.resourceMethod = scope.method)) = true ↔
      (record.isResourceAdmission = true → record.resourceMethod = scope.method) := by
    cases record.isResourceAdmission <;> simp
  unfold recordHoldsFor
  rw [Bool.and_eq_true, Bool.and_eq_true, Bool.and_eq_true, happ, hmethod, decide_eq_true_eq]
  rw [and_assoc, and_assoc]
  refine and_congr_right fun _ => and_congr_right fun _ => and_congr_right fun _ => ?_
  rcases scope.getlist (str "authorization") with _ | ⟨line, _ | ⟨other, rest⟩⟩ <;> simp

/-! ## Without a token -/

theorem gateAdmission_eq_some {record : GateAdmission} :
    gateAdmission py scope = .ok (some record) ↔ GateHolds py record scope := by
  unfold gateAdmission GateHolds
  cases hrecord : scope.sessionGate with
  | none => exact ⟨fun h => (nomatch Except.ok.inj h), fun h => (nomatch h.1)⟩
  | some written =>
    dsimp only
    constructor
    · intro h
      obtain ⟨config, hconfig, h⟩ := bind_eq_ok.1 h
      split_ifs at h with hsame
      · cases Except.ok.inj h
      obtain ⟨reading, hreading, h⟩ := bind_eq_ok.1 h
      split_ifs at h with heq
      · obtain rfl := Option.some.inj (Except.ok.inj h)
        rw [Bool.not_eq_true', Bool.not_eq_false] at hsame
        exact ⟨rfl, config, hconfig, hsame, heq ▸ hreading⟩
      · cases Except.ok.inj h
    · rintro ⟨heq, config, hconfig, hsame, hreading⟩
      obtain rfl := Option.some.inj heq
      rw [hconfig]
      show (if !written.config.same config then _ else _) = _
      rw [hsame, if_neg (by simp), hreading]
      show Except.ok (if written.cookieReading = written.cookieReading then _ else _) = _
      rw [if_pos rfl]

theorem gateAdmission_eq_error {e : Exn} (h : gateAdmission py scope = .error e) :
    webAuthConfig scope = .error e ∨ ∃ config, readSessionCookie py scope config = .error e := by
  unfold gateAdmission at h
  cases hrecord : scope.sessionGate with
  | none =>
    rw [hrecord] at h
    cases h
  | some written =>
    rw [hrecord] at h
    rcases bind_eq_error.1 h with hconfig | ⟨config, -, h⟩
    · exact .inl hconfig
    split_ifs at h with hsame
    · cases h
    · rcases bind_eq_error.1 h with hcookie | ⟨reading, -, h⟩
      · exact .inr ⟨_, hcookie⟩
      · cases h

/-- Where the gate's record does not hold, its reader finds none or raises what reading raised. -/
theorem gateAdmission_of_not (h : ∀ record, ¬GateHolds py record scope) :
    gateAdmission py scope = .ok none ∨ ∃ e, gateAdmission py scope = .error e ∧
      (webAuthConfig scope = .error e ∨
        ∃ config, readSessionCookie py scope config = .error e) := by
  cases hread : gateAdmission py scope with
  | ok found =>
    cases found with
    | none => exact .inl rfl
    | some record => exact (h record (gateAdmission_eq_some.1 hread)).elim
  | error e => exact .inr ⟨e, rfl, gateAdmission_eq_error hread⟩

/-- Without a token the gate's record decides alone what `admitted_user` answers. -/
theorem admittedUser_of_none (hnone : scope.bearerGate = none) :
    admittedUser py scope = gateAdmission py scope >>= fun found =>
      match found with
      | none => throw noGateDecision
      | some decided => return decided.account := by
  have hpersonal : isPersonAdmitted scope = false := by
    rw [isPersonAdmitted, hnone, Option.any_none]
  have hbearer : isBearerAdmitted scope = false := by
    rw [isBearerAdmitted, hnone, Option.isSome_none]
  unfold admittedUser
  rw [admittedTokenPerson_of_none hnone, hpersonal, hbearer]
  rfl

theorem admittedUser_of_holds {record : GateAdmission} (hnone : scope.bearerGate = none)
    (hholds : GateHolds py record scope) : admittedUser py scope = .ok record.account := by
  rw [admittedUser_of_none hnone, gateAdmission_eq_some.2 hholds]
  rfl

theorem GateAdmission.account_eq_some {record : GateAdmission} :
    record.account = some user ↔ record.admission = some (.ok user) := by
  unfold GateAdmission.account
  rcases record.admission with _ | cause | account <;> simp

theorem admittedUser_ok (hnone : scope.bearerGate = none)
    (h : admittedUser py scope = .ok (some user)) :
    ∃ record : GateAdmission, GateHolds py record scope ∧ record.admission = some (.ok user) := by
  rw [admittedUser_of_none hnone] at h
  obtain ⟨found, hfound, h⟩ := bind_eq_ok.1 h
  cases found with
  | none => cases h
  | some record =>
    exact ⟨record, gateAdmission_eq_some.1 hfound,
      GateAdmission.account_eq_some.1 (Except.ok.inj h)⟩

theorem admittedAdmin_of_none (hnone : scope.bearerGate = none) :
    admittedAdmin py scope = admittedUser py scope >>= fun found =>
      match found with
      | none => throw (unauthenticatedWithoutRedirect scope (str "Authentication required"))
      | some user => requireAdmin py scope user := by
  unfold admittedAdmin
  rw [admittedTokenPerson_of_none hnone, raiseForBearerAdmission_of_none hnone]
  rfl

theorem admittedAdmin_ok (hnone : scope.bearerGate = none)
    (h : admittedAdmin py scope = .ok user) : admittedUser py scope = .ok (some user) := by
  rw [admittedAdmin_of_none hnone] at h
  obtain ⟨found, hfound, h⟩ := bind_eq_ok.1 h
  cases found with
  | none => cases h
  | some account =>
    rw [hfound, (requireAdmin_eq_ok.1 h).2]

/-- Without a token the gate's record decides where it holds and decided, else the request's own
cookie does. -/
theorem gateOrOwnAdmission_of_none {decision : SessionDecision} (hnone : scope.bearerGate = none)
    (h : Path (gateOrOwnAdmission py scope) es (.ok decision)) :
    (∃ record : GateAdmission, GateHolds py record scope ∧ record.admission = some decision ∧
      es = []) ∨
    (∀ record, GateHolds py record scope → record.admission = none) ∧
      Path (resolveSession py scope) es (.ok decision) := by
  unfold gateOrOwnAdmission at h
  rw [admittedTokenPerson_of_none hnone, raiseForBearerAdmission_of_none hnone] at h
  rcases path_lift_bind h with ⟨_, -, h⟩ | ⟨e, -, -, hr⟩
  swap
  · cases hr
  rcases path_lift_bind h with ⟨found, hfound, h⟩ | ⟨e, -, -, hr⟩
  swap
  · cases hr
  cases found with
  | none =>
    refine .inr ⟨fun record hholds => ?_, h⟩
    rw [gateAdmission_eq_some.2 hholds] at hfound
    cases hfound
  | some record =>
    cases hadmission : record.admission with
    | some admission =>
      rw [Option.bind_some, hadmission] at h
      obtain ⟨rfl, hr⟩ := h
      rw [Except.ok.inj hr]
      exact .inl ⟨record, gateAdmission_eq_some.1 hfound, hadmission, rfl⟩
    | none =>
      rw [Option.bind_some, hadmission] at h
      refine .inr ⟨fun record' hholds => ?_, h⟩
      rw [gateAdmission_eq_some.2 hholds] at hfound
      rw [Option.some.inj (Except.ok.inj hfound), hadmission]

end Answers

end WebAuth
