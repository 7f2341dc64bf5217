import WebAuth.DecisionTable
import WebAuth.ServiceCallerCheck
import WebAuth.TokenUses

/-!
# The decision on a service's caller

The documented table lists the faults of a request in the order of the checks, and the first fault
is the refusal. The rows of one token come before the rows that compare two, so no 401 or 503 gives
way to a 403.
-/

namespace WebAuth

open Python Effects Program DecisionTable

/-! ## The table of faults -/

/-- What a presented token turned out to be. -/
inductive Presented where
  | missing
  | rejected (reason : RejectionReason)
  | verified (claims : VerifiedClaims)

/-- Whose token. -/
inductive Holder where
  | workload
  | person

/-- The two tokens of a request. -/
structure PresentedTokens where
  workload : Presented
  person : Presented

/-- The token of one of the two. -/
def PresentedTokens.of (tokens : PresentedTokens) : Holder → Presented
  | .workload => tokens.workload
  | .person => tokens.person

/-- A fault of a request. -/
inductive Fault where
  | missing (holder : Holder)
  | keySet (holder : Holder)
  | rejected (holder : Holder)
  | subject (holder : Holder)
  | groups (holder : Holder)
  | notAWorkload
  | unboundClient
  | unregisteredClient
  | clientMismatch
  | sameSubject
  | notAMember

/-- The faults in the documented order: both tokens are verified before either is read, and both
read before the rows that compare them. -/
def Fault.documentedOrder : List Fault :=
  [missing .workload, keySet .workload, rejected .workload,
    missing .person, keySet .person, rejected .person,
    subject .workload, groups .workload, subject .person, groups .person,
    notAWorkload, unboundClient, unregisteredClient, clientMismatch, sameSubject, notAMember]

/-- The reason a fault is refused for. -/
def Fault.reason : Fault → CallerRefusalReason
  | missing _ => .missingToken
  | keySet _ => .keySetUnavailable
  | rejected _ => .tokenRejected
  | subject _ => .invalidSubject
  | groups _ => .malformedGroups
  | notAWorkload => .notAWorkload
  | unboundClient => .unboundClient
  | unregisteredClient => .unregisteredClient
  | clientMismatch => .clientMismatch
  | sameSubject => .sameSubject
  | notAMember => .notAMember

/-- The claims hold a realm role. -/
def HoldsRole (claims : Dict) (role : Str) : Prop :=
  ∃ realmAccess roles, claims.get (str "realm_access") = some (.obj realmAccess) ∧
    Dict.get realmAccess (str "roles") = some (.arr roles) ∧ Json.str role ∈ roles

/-- The claims bind a client: `azp` is a text that is not empty and `client_id` is the same. -/
def BindsClient (claims : Dict) (clientId : Str) : Prop :=
  clientId ≠ [] ∧ claims.get (str "azp") = some (.str clientId) ∧
    claims.get (str "client_id") = some (.str clientId)

/-- The subject of a token is text. -/
def TextSubject (token : VerifiedClaims) : Prop :=
  ∃ subject, token.subject = some subject ∧ (encode subject).isSome

section Faults

variable (check : ServiceCallerCheck)

/-- The claim that holds groups is present and no list of strings. -/
def MalformedGroups (claims : Dict) : Prop :=
  ∃ value, claims.get check.identity.groupClaim = some value ∧ value.strings = none

/-- The groups of a token; an absent claim means none. -/
def ListsGroups (claims : Dict) (groups : List Str) : Prop :=
  (claims.get check.identity.groupClaim = none ∧ groups = []) ∨
    ∃ value, claims.get check.identity.groupClaim = some value ∧ value.strings = some groups

/-- When a fault is there. -/
def Fault.Applies (tokens : PresentedTokens) : Fault → Prop
  | missing holder => tokens.of holder = .missing
  | keySet holder => tokens.of holder = .rejected .keySetUnavailable
  | rejected holder => ∃ reason, reason ≠ .keySetUnavailable ∧ tokens.of holder = .rejected reason
  | subject holder => ∃ token, tokens.of holder = .verified token ∧ ¬TextSubject token
  | groups holder => ∃ token, tokens.of holder = .verified token ∧
      MalformedGroups check token.claims
  | notAWorkload => ∃ token, tokens.workload = .verified token ∧
      ¬HoldsRole token.claims check.identity.workloadRole
  | unboundClient => ∃ token, tokens.workload = .verified token ∧
      ¬∃ clientId, BindsClient token.claims clientId
  | unregisteredClient => ∃ token, tokens.workload = .verified token ∧
      ¬∃ clientId app, token.claims.get (str "azp") = some (.str clientId) ∧
        (clientId, app) ∈ check.registeredApps
  | clientMismatch => ∃ workload person, tokens.workload = .verified workload ∧
      tokens.person = .verified person ∧
      person.claims.get (str "azp") ≠ workload.claims.get (str "azp")
  | sameSubject => ∃ workload person, tokens.workload = .verified workload ∧
      tokens.person = .verified person ∧ person.subject = workload.subject
  | notAMember => ∃ workload person clientId app groups, tokens.workload = .verified workload ∧
      tokens.person = .verified person ∧
      workload.claims.get (str "azp") = some (.str clientId) ∧
      (clientId, app) ∈ check.registeredApps ∧ ListsGroups check person.claims groups ∧
      appRole groups app.admission = none

/-- How a fault is refused; a rejection carries the verifier's reason. -/
structure Fault.Refuses (tokens : PresentedTokens) (fault : Fault) (refusal : CallerRefusal) :
    Prop where
  reason : refusal.reason = fault.reason
  rejection : ∀ holder, fault = .rejected holder →
    ∃ reason, tokens.of holder = .rejected reason ∧ refusal.tokenRejection = some reason

/-- Two verified tokens make a caller: an app that acts for a person. -/
structure MakesCaller (workload person : VerifiedClaims) (caller : PersonCaller) : Prop where
  holdsRole : HoldsRole workload.claims check.identity.workloadRole
  bindsClient : BindsClient workload.claims caller.clientId
  registered : ∃ app, (caller.clientId, app) ∈ check.registeredApps ∧ caller.app = app.app ∧
    ∃ groups, ListsGroups check person.claims groups ∧ caller.groups = groups.toFinset ∧
      appRole groups app.admission = some caller.role
  party : person.claims.get (str "azp") = some (.str caller.clientId)
  principal : person.subject = some caller.principal.subject ∧
    caller.principal.issuer = person.issuer ∧ (encode caller.principal.subject).isSome
  workloadSubject : ∃ subject, workload.subject = some subject ∧ (encode subject).isSome ∧
    subject ≠ caller.principal.subject
  workloadGroups : ∃ groups, ListsGroups check workload.claims groups

/-- **The decision on a pair of tokens**: the first fault, or the caller when there is none. -/
structure CallerDecision (tokens : PresentedTokens)
    (answer : Except CallerRefusal PersonCaller) : Prop where
  refused : ∀ refusal, answer = .error refusal ↔
    ∃ fault, First (Fault.Applies check tokens) Fault.documentedOrder fault ∧
      fault.Refuses tokens refusal
  admitted : ∀ caller, answer = .ok caller ↔ ∃ workload person,
    tokens.workload = .verified workload ∧ tokens.person = .verified person ∧
      MakesCaller check workload person caller
  faultless : (∃ caller, answer = .ok caller) ↔ ∀ fault : Fault, ¬fault.Applies check tokens
  forbidden : ∀ refusal, answer = .error refusal → refusal.refusalClass = .forbidden →
    ∀ holder, ∃ token groups, tokens.of holder = .verified token ∧ TextSubject token ∧
      ListsGroups check token.claims groups

end Faults

/-! ## Reading the claims -/

section Claims

variable {claims : Dict} {check : ServiceCallerCheck}

theorem hasRole_iff {role : Str} : hasRole claims role = true ↔ HoldsRole claims role := by
  unfold hasRole HoldsRole
  constructor
  · intro h
    split at h
    · rename_i realmAccess hrealm
      split at h
      · rename_i roles hroles
        obtain ⟨value, hvalue, hrole⟩ := List.any_eq_true.1 h
        exact ⟨realmAccess, roles, hrealm, hroles, Json.isStr_eq_true hrole ▸ hvalue⟩
      · cases h
    · cases h
  · rintro ⟨realmAccess, roles, hrealm, hroles, hrole⟩
    simp only [hrealm, hroles]
    exact List.any_eq_true.2 ⟨_, hrole, by simp [Json.isStr]⟩

theorem authorizedParty_eq_some {party : Str} :
    authorizedParty claims = some party ↔
      party ≠ [] ∧ claims.get (str "azp") = some (.str party) := by
  unfold authorizedParty
  split
  · rename_i azp hazp
    rw [hazp]
    by_cases h : azp = []
    · rw [if_pos h]
      simp only [reduceCtorEq, Option.some.injEq, Json.str.injEq, false_iff, not_and]
      exact fun hparty heq => hparty (heq ▸ h)
    · rw [if_neg h]
      simp only [Option.some.injEq, Json.str.injEq, iff_and_self]
      exact fun heq => heq ▸ h
  · rename_i hno
    simp only [reduceCtorEq, false_iff, not_and]
    exact fun _ => hno party

theorem boundClientId_eq_some {clientId : Str} :
    boundClientId claims = some clientId ↔ BindsClient claims clientId := by
  unfold boundClientId BindsClient
  cases hparty : authorizedParty claims with
  | none =>
    simp only [reduceCtorEq, false_iff]
    rintro ⟨hne, hazp, -⟩
    rw [authorizedParty_eq_some.2 ⟨hne, hazp⟩] at hparty
    cases hparty
  | some party =>
    obtain ⟨hne, hazp⟩ := authorizedParty_eq_some.1 hparty
    simp only
    constructor
    · intro h
      split at h
      · rename_i hsame
        obtain rfl := Option.some.inj h
        obtain ⟨value, hvalue, hstr⟩ := (Option.any_eq_true _ _).1 hsame
        exact ⟨hne, hazp, Json.isStr_eq_true hstr ▸ hvalue⟩
      · cases h
    · rintro ⟨-, hazp', hsame⟩
      obtain rfl : party = clientId := Json.str.inj (Option.some.inj (hazp.symm.trans hazp'))
      rw [hsame]
      simp [Json.isStr]

theorem groupsClaim_eq_some {groups : List Str} :
    groupsClaim claims check.identity.groupClaim = some groups ↔
      ListsGroups check claims groups := by
  unfold groupsClaim ListsGroups
  cases claims.get check.identity.groupClaim with
  | none => simp [Json.strings, eq_comm]
  | some value => simp

theorem groupsClaim_eq_none :
    groupsClaim claims check.identity.groupClaim = none ↔ MalformedGroups check claims := by
  unfold groupsClaim MalformedGroups
  cases claims.get check.identity.groupClaim with
  | none => simp [Json.strings]
  | some value => simp

theorem ListsGroups.unique {groups groups' : List Str} (h : ListsGroups check claims groups)
    (h' : ListsGroups check claims groups') : groups = groups' :=
  Option.some.inj ((groupsClaim_eq_some.2 h).symm.trans (groupsClaim_eq_some.2 h'))

theorem ListsGroups.not_malformed {groups : List Str} (h : ListsGroups check claims groups) :
    ¬MalformedGroups check claims := by
  intro hmalformed
  rw [← groupsClaim_eq_none, groupsClaim_eq_some.2 h] at hmalformed
  cases hmalformed

/-- The role depends on which groups there are, not on their order. -/
theorem appRole_congr {groups groups' : List Str} (h : ∀ group, group ∈ groups ↔ group ∈ groups')
    (admission : AdmissionConfig) : appRole groups admission = appRole groups' admission := by
  have hmember : ∀ path, isMemberOf path groups = isMemberOf path groups' := by
    intro path
    unfold isMemberOf
    rw [Bool.eq_iff_iff, List.any_eq_true, List.any_eq_true]
    exact exists_congr fun group => by rw [h]
  unfold appRole
  simp only [hmember]

end Claims

/-! ## Reading one token -/

section Tokens

variable {check : ServiceCallerCheck} {token : VerifiedClaims}

/-- A token is refused for its subject, then for its groups, or identified. -/
theorem identified_cases (check : ServiceCallerCheck) (token : VerifiedClaims) :
    (¬TextSubject token ∧
      check.identified token = .error (.of .invalidSubject (by decide))) ∨
    (TextSubject token ∧ MalformedGroups check token.claims ∧
      check.identified token = .error (.of .malformedGroups (by decide))) ∨
    ∃ subject groups, token.subject = some subject ∧ (encode subject).isSome ∧
      ListsGroups check token.claims groups ∧
      check.identified token = .ok ⟨⟨token.issuer, subject⟩, groups.toFinset⟩ := by
  unfold ServiceCallerCheck.identified callerGroups
  cases hfilter : token.subject.filter fun subject => (encode subject).isSome with
  | none =>
    refine .inl ⟨?_, rfl⟩
    rintro ⟨subject, hsubject, hutf8⟩
    rw [hsubject, Option.filter_some, if_pos hutf8] at hfilter
    cases hfilter
  | some subject =>
    obtain ⟨hsubject, hutf8⟩ := Option.filter_eq_some_iff.1 hfilter
    right
    cases hgroups : groupsClaim token.claims check.identity.groupClaim with
    | none => exact .inl ⟨⟨subject, hsubject, hutf8⟩, groupsClaim_eq_none.1 hgroups, rfl⟩
    | some groups =>
      exact .inr ⟨subject, groups, hsubject, hutf8, groupsClaim_eq_some.1 hgroups, rfl⟩

/-- A workload token lacks the role, binds no client, binds one that is not registered, or is a
registered app's. -/
theorem workload_cases (check : ServiceCallerCheck) (token : VerifiedClaims) :
    (¬HoldsRole token.claims check.identity.workloadRole ∧
      check.workload token = .error (.of .notAWorkload (by decide))) ∨
    (HoldsRole token.claims check.identity.workloadRole ∧
      (¬∃ clientId, BindsClient token.claims clientId) ∧
      check.workload token = .error (.of .unboundClient (by decide))) ∨
    (HoldsRole token.claims check.identity.workloadRole ∧
      ∃ clientId, BindsClient token.claims clientId ∧
        (¬∃ app, (clientId, app) ∈ check.registeredApps) ∧
        check.workload token = .error (.of .unregisteredClient (by decide))) ∨
    (HoldsRole token.claims check.identity.workloadRole ∧
      ∃ clientId app, BindsClient token.claims clientId ∧ (clientId, app) ∈ check.registeredApps ∧
        check.workload token = .ok ⟨app, clientId⟩) := by
  unfold ServiceCallerCheck.workload
  by_cases hrole : HoldsRole token.claims check.identity.workloadRole
  · rw [if_neg (by simpa using hasRole_iff.2 hrole)]
    right
    cases hbound : boundClientId token.claims with
    | none =>
      refine .inl ⟨hrole, ?_, rfl⟩
      rintro ⟨clientId, hclient⟩
      rw [boundClientId_eq_some.2 hclient] at hbound
      cases hbound
    | some clientId =>
      have hclient := boundClientId_eq_some.1 hbound
      right
      simp only
      cases happ : check.registeredApps.lookup clientId with
      | none =>
        refine .inl ⟨hrole, clientId, hclient, ?_, rfl⟩
        rintro ⟨app, hmem⟩
        rw [(lookup_eq_some_iff_mem check.clientIds_nodup).2 hmem] at happ
        cases happ
      | some app =>
        exact .inr ⟨hrole, clientId, app, hclient,
          (lookup_eq_some_iff_mem check.clientIds_nodup).1 happ, rfl⟩
  · rw [if_pos (by simpa using fun h => hrole (hasRole_iff.1 h))]
    exact .inl ⟨hrole, rfl⟩

end Tokens

/-! ## The decision -/

section Decision

variable {check : ServiceCallerCheck} {tokens : PresentedTokens}

/-- What a fault or none of them makes of an answer. -/
def Answers (check : ServiceCallerCheck) (tokens : PresentedTokens)
    (answer : Except CallerRefusal PersonCaller) : List Fault → Prop :=
  Decides (Fault.Applies check tokens)
    (fun fault => ∃ refusal, answer = .error refusal ∧ fault.Refuses tokens refusal)
    (∃ caller workload person, answer = .ok caller ∧ tokens.workload = .verified workload ∧
      tokens.person = .verified person ∧ MakesCaller check workload person caller)

/-- A reason of the check's own refuses a fault that no verifier found. -/
theorem refuses_of {fault : Fault} {reason : CallerRefusalReason} (h : reason ≠ .tokenRejected)
    (hreason : fault.reason = reason) : fault.Refuses tokens (.of reason h) where
  reason := hreason.symm
  rejection := by
    rintro holder rfl
    exact absurd hreason.symm h

/-- The last three rows, for two identified tokens and a registered app. -/
theorem compared_answers {w p : VerifiedClaims} {clientId wSubject pSubject : Str}
    {app : RegisteredApp} {wGroups pGroups : List Str}
    (hwSubject : w.subject = some wSubject) (hwText : (encode wSubject).isSome)
    (hwGroups : ListsGroups check w.claims wGroups) (hpSubject : p.subject = some pSubject)
    (hpText : (encode pSubject).isSome) (hpGroups : ListsGroups check p.claims pGroups)
    (hrole : HoldsRole w.claims check.identity.workloadRole)
    (hbinds : BindsClient w.claims clientId) (happ : (clientId, app) ∈ check.registeredApps) :
    Answers check ⟨.verified w, .verified p⟩
      (ServiceCallerCheck.compared ⟨app, clientId⟩ ⟨⟨w.issuer, wSubject⟩, wGroups.toFinset⟩
        ⟨⟨p.issuer, pSubject⟩, pGroups.toFinset⟩ (authorizedParty p.claims))
      [.clientMismatch, .sameSubject, .notAMember] := by
  have hsorted : appRole ((pGroups.toFinset).sort (· ≤ ·)) app.admission =
      appRole pGroups app.admission := appRole_congr (by simp) _
  unfold ServiceCallerCheck.compared
  rw [hsorted]
  by_cases hparty : p.claims.get (str "azp") = w.claims.get (str "azp")
  · have hazp := hparty.trans hbinds.2.1
    have hmatch : authorizedParty p.claims = some clientId :=
      authorizedParty_eq_some.2 ⟨hbinds.1, hazp⟩
    refine .inr ⟨?_, ?_⟩
    · rintro ⟨_, _, hw, hp, hne⟩
      cases hw
      cases hp
      exact hne hparty
    rw [if_neg (not_not.2 hmatch)]
    by_cases hsubject : pSubject = wSubject
    · rw [if_pos hsubject]
      refine .inl ⟨⟨w, p, rfl, rfl, ?_⟩, _, rfl, refuses_of _ rfl⟩
      rw [hwSubject, hpSubject, hsubject]
    refine .inr ⟨?_, ?_⟩
    · rintro ⟨_, _, hw, hp, heq⟩
      cases hw
      cases hp
      rw [hwSubject, hpSubject] at heq
      exact hsubject (Option.some.inj heq)
    rw [if_neg hsubject]
    cases hmember : appRole pGroups app.admission with
    | none =>
      exact .inl ⟨⟨w, p, clientId, app, pGroups, rfl, rfl, hbinds.2.1, happ, hpGroups, hmember⟩, _,
        rfl, refuses_of _ rfl⟩
    | some role =>
      refine .inr ⟨?_, _, w, p, rfl, rfl, rfl, ?_⟩
      · rintro ⟨_, _, clientId', app', groups, hw, hp, hazp', happ', hgroups, hnone⟩
        cases hw
        cases hp
        obtain rfl := Json.str.inj (Option.some.inj (hbinds.2.1.symm.trans hazp'))
        obtain rfl := hpGroups.unique hgroups
        have hsame := (lookup_eq_some_iff_mem check.clientIds_nodup).2 happ
        rw [(lookup_eq_some_iff_mem check.clientIds_nodup).2 happ'] at hsame
        rw [Option.some.inj hsame, hmember] at hnone
        cases hnone
      · exact {
          holdsRole := hrole
          bindsClient := hbinds
          registered := ⟨app, happ, rfl, pGroups, hpGroups, rfl, hmember⟩
          party := hazp
          principal := ⟨hpSubject, rfl, hpText⟩
          workloadSubject := ⟨wSubject, hwSubject, hwText, fun heq => hsubject heq.symm⟩
          workloadGroups := ⟨wGroups, hwGroups⟩ }
  · have hmismatch : authorizedParty p.claims ≠ some clientId := fun heq =>
      hparty ((authorizedParty_eq_some.1 heq).2.trans hbinds.2.1.symm)
    rw [if_pos hmismatch]
    exact .inl ⟨⟨w, p, rfl, rfl, hparty⟩, _, rfl, refuses_of _ rfl⟩

section Verified

variable {w p : VerifiedClaims}

theorem applies_subject {holder : Holder} {token : VerifiedClaims}
    (h : tokens.of holder = .verified token) :
    Fault.Applies check tokens (.subject holder) ↔ ¬TextSubject token := by
  simp [Fault.Applies, h]

theorem applies_groups {holder : Holder} {token : VerifiedClaims}
    (h : tokens.of holder = .verified token) :
    Fault.Applies check tokens (.groups holder) ↔ MalformedGroups check token.claims := by
  simp [Fault.Applies, h]

theorem applies_notAWorkload : Fault.Applies check ⟨.verified w, .verified p⟩ .notAWorkload ↔
    ¬HoldsRole w.claims check.identity.workloadRole := by
  simp [Fault.Applies]

theorem applies_unboundClient : Fault.Applies check ⟨.verified w, .verified p⟩ .unboundClient ↔
    ¬∃ clientId, BindsClient w.claims clientId := by
  simp [Fault.Applies]

theorem applies_unregisteredClient {clientId : Str} (h : BindsClient w.claims clientId) :
    Fault.Applies check ⟨.verified w, .verified p⟩ .unregisteredClient ↔
      ¬∃ app, (clientId, app) ∈ check.registeredApps := by
  simp [Fault.Applies, h.2.1]

/-- **The rows below the verifier's**, for two verified tokens. -/
theorem callerOf_answers (check : ServiceCallerCheck) (w p : VerifiedClaims) :
    Answers check ⟨.verified w, .verified p⟩ (check.callerOf w p)
      [.subject .workload, .groups .workload, .subject .person, .groups .person, .notAWorkload,
        .unboundClient, .unregisteredClient, .clientMismatch, .sameSubject, .notAMember] := by
  unfold ServiceCallerCheck.callerOf
  rcases identified_cases check w with ⟨hsubject, hw⟩ | ⟨hsubject, hgroups, hw⟩ |
    ⟨wSubject, wGroups, hwSubject, hwText, hwGroups, hw⟩
  · rw [hw]
    exact Or.inl ⟨(applies_subject rfl).2 hsubject, _, rfl, refuses_of _ rfl⟩
  · rw [hw]
    refine Or.inr ⟨fun h => (applies_subject rfl).1 h hsubject,
      Or.inl ⟨?_, _, rfl, refuses_of _ rfl⟩⟩
    exact (applies_groups rfl).2 hgroups
  refine Or.inr ⟨fun h => (applies_subject rfl).1 h ⟨wSubject, hwSubject, hwText⟩,
    Or.inr ⟨fun h => hwGroups.not_malformed ((applies_groups rfl).1 h), ?_⟩⟩
  rcases identified_cases check p with ⟨hsubject, hp⟩ | ⟨hsubject, hgroups, hp⟩ |
    ⟨pSubject, pGroups, hpSubject, hpText, hpGroups, hp⟩
  · rw [hw, hp]
    exact Or.inl ⟨(applies_subject rfl).2 hsubject, _, rfl, refuses_of _ rfl⟩
  · rw [hw, hp]
    refine Or.inr ⟨fun h => (applies_subject rfl).1 h hsubject,
      Or.inl ⟨?_, _, rfl, refuses_of _ rfl⟩⟩
    exact (applies_groups rfl).2 hgroups
  refine Or.inr ⟨fun h => (applies_subject rfl).1 h ⟨pSubject, hpSubject, hpText⟩,
    Or.inr ⟨fun h => hpGroups.not_malformed ((applies_groups rfl).1 h), ?_⟩⟩
  rcases workload_cases check w with ⟨hrole, hload⟩ | ⟨hrole, hunbound, hload⟩ |
    ⟨hrole, clientId, hbinds, hunregistered, hload⟩ |
    ⟨hrole, clientId, app, hbinds, hregistered, hload⟩
  all_goals rw [hw, hp, hload]
  · exact Or.inl ⟨applies_notAWorkload.2 hrole, _, rfl, refuses_of _ rfl⟩
  all_goals refine Or.inr ⟨fun h => applies_notAWorkload.1 h hrole, ?_⟩
  · exact Or.inl ⟨applies_unboundClient.2 hunbound, _, rfl, refuses_of _ rfl⟩
  all_goals refine Or.inr ⟨fun h => applies_unboundClient.1 h ⟨clientId, hbinds⟩, ?_⟩
  · exact Or.inl ⟨(applies_unregisteredClient hbinds).2 hunregistered, _, rfl, refuses_of _ rfl⟩
  · exact Or.inr ⟨fun h => (applies_unregisteredClient hbinds).1 h ⟨app, hregistered⟩,
      compared_answers hwSubject hwText hwGroups hpSubject hpText hpGroups hrole hbinds hregistered⟩

end Verified

/-- What a presented token is answered, as long as it is alone. -/
def Presented.answer : Presented → Except CallerRefusal VerifiedClaims
  | missing => .error (.of .missingToken missingToken_ne)
  | rejected reason => .error (verifierRefusal reason)
  | verified token => .ok token

/-- What a pair of tokens is answered. -/
def ServiceCallerCheck.answerOf (check : ServiceCallerCheck) (tokens : PresentedTokens) :
    Except CallerRefusal PersonCaller := do
  let workload ← tokens.workload.answer
  let person ← tokens.person.answer
  check.callerOf workload person

/-- The rows of one token's verification: the first three, or what follows them. -/
theorem presented_answers {holder : Holder} {rows : List Fault}
    {answer : VerifiedClaims → Except CallerRefusal PersonCaller}
    (hrows : ∀ token, tokens.of holder = .verified token →
      Answers check tokens (answer token) rows) :
    Answers check tokens ((tokens.of holder).answer >>= answer)
      (.missing holder :: .keySet holder :: .rejected holder :: rows) := by
  cases htoken : tokens.of holder with
  | missing => exact Or.inl ⟨htoken, _, rfl, refuses_of _ rfl⟩
  | rejected reason =>
    refine Or.inr ⟨fun h => (by cases htoken.symm.trans h), ?_⟩
    by_cases hset : reason = .keySetUnavailable
    · subst hset
      exact Or.inl ⟨htoken, _, rfl, refuses_of (by decide) rfl⟩
    · refine Or.inr ⟨fun h => ?_, Or.inl ⟨⟨reason, hset, htoken⟩, _, rfl, ?_⟩⟩
      · cases htoken.symm.trans h
        exact hset rfl
      · unfold verifierRefusal
        rw [if_neg hset]
        refine ⟨rfl, ?_⟩
        rintro _ ⟨⟩
        exact ⟨reason, htoken, rfl⟩
  | verified token =>
    refine Or.inr ⟨fun h => (by cases htoken.symm.trans h),
      Or.inr ⟨fun h => (by cases htoken.symm.trans h), Or.inr ⟨?_, hrows token htoken⟩⟩⟩
    rintro ⟨reason, -, h⟩
    cases htoken.symm.trans h

/-- **The whole table.** -/
theorem answerOf_answers (check : ServiceCallerCheck) (tokens : PresentedTokens) :
    Answers check tokens (check.answerOf tokens) Fault.documentedOrder := by
  refine presented_answers fun w hw => presented_answers fun p hp => ?_
  obtain ⟨workload, person⟩ := tokens
  obtain rfl : workload = .verified w := hw
  obtain rfl : person = .verified p := hp
  exact callerOf_answers check w p

theorem mem_documentedOrder (fault : Fault) : fault ∈ Fault.documentedOrder := by
  cases fault with
  | missing holder => cases holder <;> simp [Fault.documentedOrder]
  | keySet holder => cases holder <;> simp [Fault.documentedOrder]
  | rejected holder => cases holder <;> simp [Fault.documentedOrder]
  | subject holder => cases holder <;> simp [Fault.documentedOrder]
  | groups holder => cases holder <;> simp [Fault.documentedOrder]
  | _ => simp [Fault.documentedOrder]

theorem ServiceCallerCheck.app_unique {clientId : Str} {app app' : RegisteredApp}
    (h : (clientId, app) ∈ check.registeredApps) (h' : (clientId, app') ∈ check.registeredApps) :
    app = app' :=
  Option.some.inj (((lookup_eq_some_iff_mem check.clientIds_nodup).2 h).symm.trans
    ((lookup_eq_some_iff_mem check.clientIds_nodup).2 h'))

/-- Two verified tokens make one caller. -/
theorem MakesCaller.unique {w p : VerifiedClaims} {caller caller' : PersonCaller}
    (h : MakesCaller check w p caller) (h' : MakesCaller check w p caller') : caller = caller' := by
  have hclient : caller.clientId = caller'.clientId :=
    Json.str.inj (Option.some.inj (h.bindsClient.2.1.symm.trans h'.bindsClient.2.1))
  obtain ⟨app, happ, hname, groups, hgroups, hset, hrole⟩ := h.registered
  obtain ⟨app', happ', hname', groups', hgroups', hset', hrole'⟩ := h'.registered
  obtain rfl := check.app_unique happ (hclient ▸ happ')
  obtain rfl := hgroups.unique hgroups'
  have hsubject := Option.some.inj (h.principal.1.symm.trans h'.principal.1)
  have hissuer := h.principal.2.1.trans h'.principal.2.1.symm
  obtain ⟨_, _, ⟨_, _⟩, _, _⟩ := caller
  obtain ⟨_, _, ⟨_, _⟩, _, _⟩ := caller'
  simp only at hclient hname hname' hset hset' hrole hrole' hsubject hissuer
  rw [hrole] at hrole'
  rw [hname, hname', hclient, hissuer, hsubject, hset, hset', Option.some.inj hrole']

/-- Tokens that make a caller have no fault. -/
theorem MakesCaller.faultless {w p : VerifiedClaims} {caller : PersonCaller}
    (h : MakesCaller check w p caller) (fault : Fault) :
    ¬fault.Applies check ⟨.verified w, .verified p⟩ := by
  have hverified : ∀ holder, ∃ token, PresentedTokens.of ⟨.verified w, .verified p⟩ holder =
      .verified token ∧ TextSubject token ∧ ∃ groups, ListsGroups check token.claims groups := by
    intro holder
    cases holder with
    | workload =>
      obtain ⟨subject, hsubject, htext, -⟩ := h.workloadSubject
      exact ⟨w, rfl, ⟨subject, hsubject, htext⟩, h.workloadGroups⟩
    | person =>
      obtain ⟨_, _, _, groups, hgroups, _⟩ := h.registered
      exact ⟨p, rfl, ⟨_, h.principal.1, h.principal.2.2⟩, groups, hgroups⟩
  obtain ⟨app, happ, hname, groups, hgroups, hset, hrole⟩ := h.registered
  intro hfault
  cases fault with
  | missing holder =>
    obtain ⟨token, htoken, -⟩ := hverified holder
    cases htoken.symm.trans hfault
  | keySet holder =>
    obtain ⟨token, htoken, -⟩ := hverified holder
    cases htoken.symm.trans hfault
  | rejected holder =>
    obtain ⟨token, htoken, -⟩ := hverified holder
    obtain ⟨reason, -, hreason⟩ := hfault
    cases htoken.symm.trans hreason
  | subject holder =>
    obtain ⟨token, htoken, htext, -⟩ := hverified holder
    exact (applies_subject htoken).1 hfault htext
  | groups holder =>
    obtain ⟨token, htoken, -, listed, hlisted⟩ := hverified holder
    exact hlisted.not_malformed ((applies_groups htoken).1 hfault)
  | notAWorkload => exact applies_notAWorkload.1 hfault h.holdsRole
  | unboundClient => exact applies_unboundClient.1 hfault ⟨_, h.bindsClient⟩
  | unregisteredClient => exact (applies_unregisteredClient h.bindsClient).1 hfault ⟨app, happ⟩
  | clientMismatch =>
    obtain ⟨_, _, ⟨⟩, ⟨⟩, hne⟩ := hfault
    exact hne (h.party.trans h.bindsClient.2.1.symm)
  | sameSubject =>
    obtain ⟨_, _, ⟨⟩, ⟨⟩, heq⟩ := hfault
    obtain ⟨subject, hsubject, -, hne⟩ := h.workloadSubject
    exact hne (Option.some.inj (hsubject.symm.trans (heq.symm.trans h.principal.1)))
  | notAMember =>
    obtain ⟨_, _, clientId, app', groups', ⟨⟩, ⟨⟩, hazp, happ', hgroups', hnone⟩ := hfault
    obtain rfl := Json.str.inj (Option.some.inj (h.bindsClient.2.1.symm.trans hazp))
    obtain rfl := check.app_unique happ happ'
    obtain rfl := hgroups.unique hgroups'
    cases hrole.symm.trans hnone

/-- A fault is refused in one way. -/
theorem Fault.Refuses.unique {fault : Fault} {refusal refusal' : CallerRefusal}
    (h : fault.Refuses tokens refusal) (h' : fault.Refuses tokens refusal') :
    refusal = refusal' := by
  have hreason := h.reason.trans h'.reason.symm
  have hrejection : refusal.tokenRejection = refusal'.tokenRejection := by
    by_cases hrejected : fault.reason = .tokenRejected
    · cases fault with
      | rejected holder =>
        obtain ⟨reason, htoken, hr⟩ := h.rejection holder rfl
        obtain ⟨reason', htoken', hr'⟩ := h'.rejection holder rfl
        cases htoken.symm.trans htoken'
        rw [hr, hr']
      | _ => cases hrejected
    · have hnone : ∀ r : CallerRefusal, r.reason = fault.reason → r.tokenRejection = none := by
        intro r hr
        have := r.rejection_iff
        rw [hr] at this
        simpa [hrejected] using this
      rw [hnone _ h.reason, hnone _ h'.reason]
  obtain ⟨_, _, _⟩ := refusal
  obtain ⟨_, _, _⟩ := refusal'
  simp only at hreason hrejection
  subst hreason hrejection
  rfl

/-- The rows that find a fault in one token. -/
def Fault.ofOneToken : List Fault :=
  [missing .workload, keySet .workload, rejected .workload,
    missing .person, keySet .person, rejected .person,
    subject .workload, groups .workload, subject .person, groups .person]

theorem not_forbidden_of_oneToken {fault : Fault} (h : fault ∈ Fault.ofOneToken)
    {refusal : CallerRefusal} (hrefuses : fault.Refuses tokens refusal) :
    refusal.refusalClass ≠ .forbidden := by
  unfold CallerRefusal.refusalClass
  rw [hrefuses.reason]
  cases fault <;> simp [Fault.ofOneToken] at h <;> simp [Fault.reason, unauthenticatedReasons]

/-- When no row of one token applies, both tokens are verified and read. -/
theorem identified_of_oneToken (h : ∀ fault ∈ Fault.ofOneToken, ¬fault.Applies check tokens)
    (holder : Holder) : ∃ token groups, tokens.of holder = .verified token ∧ TextSubject token ∧
      ListsGroups check token.claims groups := by
  have hrows : ¬Fault.Applies check tokens (.missing holder) ∧
      ¬Fault.Applies check tokens (.keySet holder) ∧
      ¬Fault.Applies check tokens (.rejected holder) ∧
      ¬Fault.Applies check tokens (.subject holder) ∧
      ¬Fault.Applies check tokens (.groups holder) := by
    cases holder <;> exact ⟨h _ (by simp [Fault.ofOneToken]), h _ (by simp [Fault.ofOneToken]),
      h _ (by simp [Fault.ofOneToken]), h _ (by simp [Fault.ofOneToken]),
      h _ (by simp [Fault.ofOneToken])⟩
  obtain ⟨hmissing, hset, hrejected, hsubject, hgroups⟩ := hrows
  cases htoken : tokens.of holder with
  | missing => exact absurd htoken hmissing
  | rejected reason =>
    by_cases hreason : reason = .keySetUnavailable
    · rw [hreason] at htoken
      exact absurd htoken hset
    · exact absurd ⟨reason, hreason, htoken⟩ hrejected
  | verified token =>
    rw [applies_subject htoken, not_not] at hsubject
    rw [applies_groups htoken, ← groupsClaim_eq_none] at hgroups
    obtain ⟨groups, hsome⟩ := Option.ne_none_iff_exists'.1 hgroups
    exact ⟨token, groups, rfl, hsubject, groupsClaim_eq_some.1 hsome⟩

/-- **The answer is the decision of the table.** -/
theorem answerOf_decision (check : ServiceCallerCheck) (tokens : PresentedTokens) :
    CallerDecision check tokens (check.answerOf tokens) := by
  rcases (answerOf_answers check tokens).elim with ⟨fault, hfirst, refusal, hanswer, hrefuses⟩ |
    ⟨⟨caller, w, p, hanswer, hw, hp, hmakes⟩, hnone⟩
  · rw [hanswer]
    refine ⟨fun refusal' => ⟨?_, ?_⟩, fun caller => ⟨?_, ?_⟩, ⟨?_, ?_⟩, ?_⟩
    · rintro ⟨⟩
      exact ⟨fault, hfirst, hrefuses⟩
    · rintro ⟨fault', hfirst', hrefuses'⟩
      obtain rfl := hfirst.unique hfirst'
      rw [hrefuses.unique hrefuses']
    · rintro ⟨⟩
    · rintro ⟨w, p, hw, hp, hmakes⟩
      obtain ⟨_, _⟩ := tokens
      obtain rfl := hw
      obtain rfl := hp
      exact absurd hfirst.applies (hmakes.faultless fault)
    · rintro ⟨_, ⟨⟩⟩
    · intro hfaultless
      exact absurd hfirst.applies (hfaultless fault)
    · rintro _ ⟨⟩ hclass
      have hnot : fault ∉ Fault.ofOneToken := fun h => not_forbidden_of_oneToken h hrefuses hclass
      have hearlier : ∀ earlier ∈ Fault.ofOneToken, ¬Fault.Applies check tokens earlier :=
        hfirst.earlier hnot
      exact identified_of_oneToken hearlier
  · rw [hanswer]
    have hfaultless : ∀ fault : Fault, ¬fault.Applies check tokens := fun fault =>
      hnone fault (mem_documentedOrder fault)
    refine ⟨fun refusal => ⟨?_, ?_⟩, fun caller' => ⟨?_, ?_⟩,
      ⟨fun _ => hfaultless, fun _ => ⟨caller, rfl⟩⟩, ?_⟩
    · rintro ⟨⟩
    · rintro ⟨fault, hfirst, -⟩
      exact absurd hfirst.applies (hfaultless fault)
    · rintro ⟨⟩
      exact ⟨w, p, hw, hp, hmakes⟩
    · rintro ⟨w', p', hw', hp', hmakes'⟩
      cases hw.symm.trans hw'
      cases hp.symm.trans hp'
      rw [hmakes.unique hmakes']
    · rintro _ ⟨⟩

end Decision

/-! ## The order of groups, roles and registered apps -/

/-- Two presented tokens that differ in the order of the lists in their claims. -/
inductive Presented.Reordered : Presented → Presented → Prop
  | missing : Presented.Reordered missing missing
  | rejected (reason : RejectionReason) : Presented.Reordered (rejected reason) (rejected reason)
  | verified {token token' : VerifiedClaims} (subject : token.subject = token'.subject)
      (issuer : token.issuer = token'.issuer) (claims : token.claims.Reordered token'.claims) :
      Presented.Reordered (verified token) (verified token')

/-- Two checks of one service whose registries list the same apps. -/
structure ServiceCallerCheck.SameService (check check' : ServiceCallerCheck) : Prop where
  identity : check.identity = check'.identity
  registeredApps : check.registeredApps.Perm check'.registeredApps

section Reordered

variable {claims claims' : Dict} {check check' : ServiceCallerCheck}

theorem get_reordered (h : claims.Reordered claims') (name : Str) :
    (claims.get name = none ∧ claims'.get name = none) ∨
      ∃ v w, claims.get name = some v ∧ claims'.get name = some w ∧ v.Reordered w := by
  have hrel := h name
  generalize claims.get name = x, claims'.get name = y at hrel
  cases hrel with
  | none => exact .inl ⟨rfl, rfl⟩
  | some hvalue => exact .inr ⟨_, _, rfl, rfl, hvalue⟩

theorem callerGroups_reordered (h : claims.Reordered claims') (name : Str) :
    callerGroups claims name = callerGroups claims' name := by
  unfold callerGroups groupsClaim
  rcases get_reordered h name with ⟨hx, hy⟩ | ⟨v, w, hx, hy, hvalue⟩
  · rw [hx, hy]
  · have hlisted := hvalue.strings
    rw [hx, hy, Option.getD_some, Option.getD_some]
    generalize v.strings = xs, w.strings = ys at hlisted
    cases hlisted with
    | none => rfl
    | some hperm => rw [Option.map_some, Option.map_some, List.toFinset_eq_of_perm _ _ hperm]

theorem hasRole_reordered (h : claims.Reordered claims') (role : Str) :
    hasRole claims role = hasRole claims' role := by
  unfold hasRole
  rcases get_reordered h (str "realm_access") with ⟨hx, hy⟩ | ⟨v, w, hx, hy, hrealm⟩
  · rw [hx, hy]
  rw [hx, hy]
  cases hrealm with
  | refl => rfl
  | arr => rfl
  | obj hroles =>
    simp only
    rcases get_reordered hroles (str "roles") with ⟨hx', hy'⟩ | ⟨v, w, hx', hy', hvalue⟩
    · rw [hx', hy']
    rw [hx', hy']
    cases hvalue with
    | refl => rfl
    | obj => rfl
    | arr hperm =>
      simp only
      rw [Bool.eq_iff_iff, List.any_eq_true, List.any_eq_true]
      exact exists_congr fun value => by rw [hperm.mem_iff]

theorem authorizedParty_reordered (h : claims.Reordered claims') :
    authorizedParty claims = authorizedParty claims' := by
  unfold authorizedParty
  rcases get_reordered h (str "azp") with ⟨hx, hy⟩ | ⟨v, w, hx, hy, hvalue⟩
  · rw [hx, hy]
  · rw [hx, hy]
    cases hvalue <;> rfl

theorem boundClientId_reordered (h : claims.Reordered claims') :
    boundClientId claims = boundClientId claims' := by
  unfold boundClientId
  rw [authorizedParty_reordered h]
  rcases get_reordered h (str "client_id") with ⟨hx, hy⟩ | ⟨v, w, hx, hy, hvalue⟩
  · rw [hx, hy]
  · simp only [hx, hy, Option.any_some, Json.isStr, hvalue.string_eq]

theorem lookup_reordered (h : check.SameService check') (clientId : Str) :
    check.registeredApps.lookup clientId = check'.registeredApps.lookup clientId := by
  refine Option.ext fun app => ?_
  rw [lookup_eq_some_iff_mem check.clientIds_nodup, lookup_eq_some_iff_mem check'.clientIds_nodup,
    h.registeredApps.mem_iff]

theorem answerOf_reordered (h : check.SameService check') {tokens tokens' : PresentedTokens}
    (hworkload : tokens.workload.Reordered tokens'.workload)
    (hperson : tokens.person.Reordered tokens'.person) :
    check.answerOf tokens = check'.answerOf tokens' := by
  have hidentified : ∀ {w w' : VerifiedClaims}, w.subject = w'.subject → w.issuer = w'.issuer →
      w.claims.Reordered w'.claims → check.identified w = check'.identified w' := by
    intro w w' hsubject hissuer hclaims
    unfold ServiceCallerCheck.identified
    rw [hsubject, hissuer, h.identity, callerGroups_reordered hclaims]
  have hworkloadOf : ∀ {w w' : VerifiedClaims}, w.claims.Reordered w'.claims →
      check.workload w = check'.workload w' := by
    intro w w' hclaims
    unfold ServiceCallerCheck.workload
    simp only [h.identity, hasRole_reordered hclaims, boundClientId_reordered hclaims,
      lookup_reordered h]
  unfold ServiceCallerCheck.answerOf
  obtain ⟨workload, person⟩ := tokens
  obtain ⟨workload', person'⟩ := tokens'
  cases hworkload with
  | missing => rfl
  | rejected => rfl
  | verified hsubject hissuer hclaims =>
    cases hperson with
    | missing => rfl
    | rejected => rfl
    | verified hsubject' hissuer' hclaims' =>
      show check.callerOf _ _ = check'.callerOf _ _
      unfold ServiceCallerCheck.callerOf
      rw [hidentified hsubject hissuer hclaims, hidentified hsubject' hissuer' hclaims',
        hworkloadOf hclaims, authorizedParty_reordered hclaims']

end Reordered

/-! ## Runs of the check -/

/-- What a token turned out to be for the verifier. -/
def Presented.judged : Except RejectionReason VerifiedClaims → Presented
  | .error reason => .rejected reason
  | .ok token => .verified token

section Runs

variable (py : Platform) (check : ServiceCallerCheck)

/-- The verification of a token by the check's verifier. -/
def JudgedBy (token : Str) (es : List HostEvent)
    (r : Except Exn (Except RejectionReason VerifiedClaims)) : Prop :=
  Path ((verify py check.jwtVerifier token .any).of check.verifier) es r

/-- What a presented token turned out to be in the calls `es`; none is made for an absent or an
empty one. -/
inductive Presents : Option Str → List HostEvent → Presented → Prop
  | absent : Presents none [] .missing
  | empty : Presents (some []) [] .missing
  | judged {token : Str} {es : List HostEvent} {outcome : Except RejectionReason VerifiedClaims}
      (nonempty : token ≠ []) (verified : JudgedBy py check token es (.ok outcome)) :
      Presents (some token) es (.judged outcome)

/-- What two presented tokens turned out to be. The person's is looked at only when the workload's
is verified. -/
structure PresentsBoth (workloadToken personToken : Option Str) (es : List HostEvent)
    (tokens : PresentedTokens) : Prop where
  split : ∃ es₁ es₂, es = es₁ ++ es₂ ∧ Presents py check workloadToken es₁ tokens.workload ∧
    ((∃ token, tokens.workload = .verified token) →
      Presents py check personToken es₂ tokens.person) ∧
    ((¬∃ token, tokens.workload = .verified token) → es₂ = [])

variable {py : Platform} {check : ServiceCallerCheck} {es : List HostEvent}

theorem verified_path {token : Option Str} {r : Except Exn (Except CallerRefusal VerifiedClaims)}
    (h : Path (check.verified py token) es r) :
    (∃ e t, r = .error e ∧ token = some t ∧ JudgedBy py check t es (.error e)) ∨
      ∃ presented, Presents py check token es presented ∧ r = .ok presented.answer := by
  unfold ServiceCallerCheck.verified at h
  split at h
  · obtain ⟨rfl, rfl⟩ := h
    exact .inr ⟨.missing, .absent, rfl⟩
  · obtain ⟨rfl, rfl⟩ := h
    exact .inr ⟨.missing, .empty, rfl⟩
  · rename_i t hne
    obtain ⟨es₁, es₂, outcome, rfl, hverify, hafter⟩ := path_andThen.1 h
    cases outcome with
    | error e =>
      obtain ⟨rfl, rfl⟩ := hafter
      exact .inl ⟨e, t, rfl, rfl, by rwa [List.append_nil]⟩
    | ok outcome =>
      have hempty : es₂ = [] ∧ r = .ok (Presented.judged outcome).answer := by
        cases outcome <;> exact hafter
      obtain ⟨rfl, rfl⟩ := hempty
      exact .inr ⟨.judged outcome, .judged hne (by rwa [List.append_nil]), rfl⟩

end Runs

/-! ## A run -/

/-- A service of the issuer's with one registered app, which every subject may use. -/
def demoCheck : ServiceCallerCheck where
  identity :=
    { issuer := str "https://issuer", audience := str "service",
      jwksUrl := str "https://issuer/jwks", workloadRole := str "workload",
      groupClaim := str "groups", leewaySeconds := 0, issuer_nonempty := by decide,
      audience_nonempty := by decide, workloadRole_nonempty := by decide,
      groupClaim_nonempty := by decide }
  registeredApps := [(str "client", ⟨str "app", ⟨str "https://issuer", none, none, by simp, by simp,
    by simp⟩, by decide⟩)]
  verifier := 0
  apps_nonempty := by simp
  clientIds_nodup := by simp
  clientIds_nonempty := by simp; decide
  apps_bound := by simp

/-- The claims of a token of a subject, with some of its own. -/
def callerPayload (subject : String) (own : Dict) : Dict :=
  [(str "aud", .str (str "service")), (str "iat", .int 90), (str "exp", .int 200),
    (str "sub", .str (str subject)), (str "azp", .str (str "client"))] ++ own

/-- The surroundings in which `"w"` is the app's token and `"p"` a person's. -/
def callerPlatform : Platform :=
  { demoPlatform with
    getUnverifiedHeader := fun _ => .ok (typedHeader "JWT")
    jwtDecode := fun d =>
      if d.token = str "w" then
        .ok (callerPayload "app" [(str "client_id", .str (str "client")),
          (str "realm_access", .obj [(str "roles", .arr [.str (str "workload")])])])
      else if d.token = str "p" then
        .ok (callerPayload "ann" [(str "groups", .arr [.str (str "/staff")])])
      else .error .invalidToken }

/-- The caller the two tokens make. -/
def demoCaller : PersonCaller :=
  ⟨str "app", str "client", ⟨str "https://issuer", str "ann"⟩, {str "/staff"}, .user⟩

end WebAuth
