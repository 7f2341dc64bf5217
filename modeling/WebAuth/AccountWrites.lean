import WebAuth.HostOperations

/-!
# What an admission writes

An admission that returns has stored one account, with the role it was given, and recorded at most
one event: a creation when there was no account, a change when its role was another. It leaves every
session alone, and the rest of a sign-in leaves every account alone.
-/

namespace WebAuth

open Python Effects Program

/-- The events of an admission, by the account that was stored before it. -/
def admissionEvents (subject role : Str) : Option UserRecord → List AccountEvent
  | none => [{ kind := .userCreated, actorId := none, subjectId := subject, role := some role }]
  | some known =>
    if known.role = role then []
    else [{ kind := .roleChanged, actorId := none, subjectId := subject, role := some role,
            previousRole := some known.role }]

/-- The account of an admission: a known one keeps its username. -/
def admissionAccount (py : Platform) (claimant : Claimant) (role : Str)
    (known : Option UserRecord) : UserRecord :=
  ⟨claimant.subject, (known.map (·.username)).getD (usernameFor py claimant), role⟩

/-- The stores after a claimant was admitted with a role. -/
structure AdmitsAccount (py : Platform) (claimant : Claimant) (role : Str) (s s' : Stores) : Prop where
  accounts : s'.accounts = Function.update s.accounts claimant.subject
    (some (admissionAccount py claimant role (s.accounts claimant.subject)))
  events : s'.events = s.events ++
    admissionEvents claimant.subject role (s.accounts claimant.subject)

section Admit

variable {py : Platform} {claimant : Claimant} {role : Str} {es : List HostEvent}
  {s s' : Stores} {account : UserRecord}

theorem provision_steps (hnone : s.accounts claimant.subject = none)
    (h : Path (provision py claimant role) es (.ok account)) (hsteps : Steps storeCalls s es s') :
    AdmitsAccount py claimant role s s' ∧ account.id = claimant.subject := by
  obtain ⟨creating, recording, created, rfl, hcreate, hrecord⟩ := path_bind_ok h
  obtain ⟨s₁, hcreating, hrecording⟩ := steps_append.1 hsteps
  obtain ⟨ans, rest, rfl, hcaught⟩ := path_perform_andThen.1 hcreate
  obtain ⟨s₂, hcall, hrest⟩ := hcreating
  cases ans with
  | error e =>
    -- a name that is taken leaves as a signal
    cases e <;> cases hcaught.2
  | ok made =>
    obtain ⟨rfl, hmade⟩ := hcaught
    cases hmade
    obtain rfl := steps_nil.1 hrest
    obtain ⟨-, rfl, rfl⟩ := hcall
    obtain ⟨_, rest, s₃, rfl, hevent, hreturn, hrest'⟩ := perform_bind_ok hrecord hrecording
    obtain ⟨rfl, hsame⟩ := hreturn
    cases hsame
    obtain rfl := steps_nil.1 hrest'
    obtain rfl : s' = _ := hevent
    refine ⟨⟨?_, ?_⟩, rfl⟩
    · rw [hnone]
      rfl
    · rw [hnone]
      rfl

theorem withRole_steps {known : UserRecord} (hid : known.id = claimant.subject)
    (hknown : s.accounts claimant.subject = some known)
    (h : Path (withRole known role) es (.ok account)) (hsteps : Steps storeCalls s es s') :
    AdmitsAccount py claimant role s s' ∧ account.id = claimant.subject := by
  have hstored : admissionAccount py claimant role (some known) = { known with role } := by
    simp [admissionAccount, hid]
  unfold withRole at h
  by_cases hrole : known.role = role
  · rw [if_pos hrole] at h
    obtain ⟨rfl, hsame⟩ := h
    cases hsame
    obtain rfl := steps_nil.1 hsteps
    refine ⟨⟨?_, ?_⟩, hid⟩
    · rw [hknown, hstored, ← hrole, ← hknown, Function.update_eq_self]
    · rw [hknown]
      simp [admissionEvents, hrole]
  · rw [if_neg hrole] at h
    obtain ⟨updated, rest, s₁, rfl, hset, hrecord, hsteps₁⟩ := perform_bind_ok h hsteps
    obtain ⟨found, hfound, rfl, rfl⟩ := hset
    obtain rfl : found = known := by
      rw [hid, hknown] at hfound
      exact (Option.some.inj hfound).symm
    obtain ⟨_, rest', s₂, rfl, hevent, hreturn, hrest'⟩ := perform_bind_ok hrecord hsteps₁
    obtain ⟨rfl, hsame⟩ := hreturn
    cases hsame
    obtain rfl := steps_nil.1 hrest'
    obtain rfl : s' = _ := hevent
    refine ⟨⟨?_, ?_⟩, hid⟩
    · rw [hknown, hstored, ← hid]
      rfl
    · rw [hknown, ← hid]
      simp [admissionEvents, hrole, Stores.audited, Stores.written]

/-- **An admission that returns.** -/
theorem admitAccount_steps (h : Path (admitAccount py claimant role) es (.ok account))
    (hsteps : Steps storeCalls s es s') :
    AdmitsAccount py claimant role s s' ∧ account.id = claimant.subject := by
  unfold admitAccount at h
  obtain ⟨found, rest, s₁, rfl, ⟨rfl, hfound⟩, hrest, hsteps₁⟩ := perform_bind_ok h hsteps
  cases found with
  | none => exact provision_steps hfound.symm hrest hsteps₁
  | some known =>
    exact withRole_steps (s₁.accounts_id _ _ hfound.symm) hfound.symm hrest hsteps₁

/-- Calls on accounts leave the sessions alone. -/
theorem storeCalls_sessions {c : HostCall} {ans : Except Exn c.Answer} (hc : c.OnAccounts)
    (h : storeCalls s c ans s') : s'.sessions = s.sessions := by
  cases ans with
  | error e => rw [storeCalls_error h]
  | ok a =>
    cases c with
    | getAccount => rw [h.1]
    | createForSubject =>
      obtain ⟨-, -, rfl⟩ := h
      rfl
    | setRole =>
      obtain ⟨_, -, -, rfl⟩ := h
      rfl
    | accountEvent =>
      obtain rfl : s' = _ := h
      rfl
    | _ => exact hc.elim

theorem steps_sessions (hes : ∀ e ∈ es, e.call.OnAccounts) (hsteps : Steps storeCalls s es s') :
    s'.sessions = s.sessions :=
  hsteps.keeps (P := fun e => HostCall.OnAccounts e.call)
    (R := fun (a b : Stores) => b.sessions = a.sessions) (fun _ => rfl)
    (fun h₁ h₂ => h₂.trans h₁) (fun _ _ _ hc h => storeCalls_sessions hc h) hes

end Admit

/-! ## The rest of a sign-in -/

/-- The calls of a sign-in after its account. -/
def HostCall.OnSessions : HostCall → Prop
  | wallClock => True
  | create _ _ _ _ _ => True
  | delete _ => True
  | pruneOverflow _ _ => True
  | _ => False

/-- The same accounts and events. -/
def SameAccounts (s s' : Stores) : Prop := s'.accounts = s.accounts ∧ s'.events = s.events

section Rest

variable {py : Platform} {s s' : Stores} {es : List HostEvent}

/-- Calls on sessions leave the accounts and the audit alone. -/
theorem storeCalls_accounts {c : HostCall} {ans : Except Exn c.Answer} (hc : c.OnSessions)
    (h : storeCalls s c ans s') : SameAccounts s s' := by
  cases ans with
  | error e =>
    rw [storeCalls_error h]
    exact ⟨rfl, rfl⟩
  | ok a =>
    cases c with
    | wallClock =>
      obtain rfl : s' = s := h
      exact ⟨rfl, rfl⟩
    | create =>
      obtain ⟨_, rfl, -⟩ := h
      exact ⟨rfl, rfl⟩
    | delete =>
      obtain rfl : s' = _ := h
      exact ⟨rfl, rfl⟩
    | pruneOverflow =>
      obtain ⟨_, rfl, -⟩ := h
      exact ⟨rfl, rfl⟩
    | _ => exact hc.elim

theorem steps_accounts (hes : ∀ e ∈ es, e.call.OnSessions) (hsteps : Steps storeCalls s es s') :
    SameAccounts s s' :=
  hsteps.keeps (P := fun e => HostCall.OnSessions e.call) (R := SameAccounts)
    (fun _ => ⟨rfl, rfl⟩) (fun h₁ h₂ => ⟨h₂.1.trans h₁.1, h₂.2.trans h₁.2⟩)
    (fun _ _ _ hc h => storeCalls_accounts hc h) hes

/-- **The account of a sign-in whose writes return.** -/
theorem writeSignIn_accounts {config : WebAuthConfig} {options : SignInOptions}
    {admitted : AdmittedLogin} {replaced : Option Str} {sessionId : Str}
    (h : Path (writeSignIn py config options admitted replaced) es (.ok sessionId))
    (hsteps : Steps storeCalls s es s') :
    AdmitsAccount py admitted.identity.claimant admitted.role s s' := by
  obtain ⟨admitting, rest, account, rfl, hadmit, hrest⟩ := path_bind_ok h
  obtain ⟨s₁, hadmitting, hresting⟩ := steps_append.1 hsteps
  obtain ⟨⟨haccounts, hevents⟩, -⟩ := admitAccount_steps hadmit hadmitting
  have honly := @sessionWrites_only HostCall.OnSessions account.id config options admitted.identity
    replaced trivial (fun _ => trivial) (fun _ => trivial) fun _ _ _ _ => trivial
  obtain ⟨hsame, hlog⟩ := steps_accounts (honly.path hrest) hresting
  exact ⟨hsame.trans haccounts, hlog.trans hevents⟩

end Rest

end WebAuth
