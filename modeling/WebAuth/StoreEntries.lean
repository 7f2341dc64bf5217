import WebAuth.HostStores
import WebAuth.TokenUses

/-!
# The entries of the library's operations

Every operation that writes accounts or sessions does so in one entry of the host's transaction,
and makes no other store call. What follows from it is said once: an entry whose block and exit
return leaves what the block made, and any other leaves what the host decides.
-/

namespace WebAuth

open Python Effects Program

/-! ## Calls that reach no store -/

/-- The calls that reach neither a transaction nor a store. -/
def HostCall.Quiet : HostCall → Prop
  | wallClock => True
  | postTokenRequest _ => True
  | verifier _ _ => True
  | relyingParty _ => True
  | refused _ _ => True
  | pageText _ => True
  | requestBody => True
  | onAuthenticated _ => True
  | enterApp _ => True
  | _ => False

/-- The calls a block makes inside its entry. -/
def HostCall.Inside : HostCall → Prop
  | enter _ => False
  | leave _ _ => False
  | _ => True

/-- A call that leaves every store alone: a quiet one, or an entry that does not open. -/
def Idle (e : HostEvent) : Prop :=
  e.call.Quiet ∨ ∃ transaction x, e = ⟨.enter transaction, .error x⟩

section Quiet

variable {undone : Bool → Stores → Stores → Stores → Prop} {s s' : HostState}
  {es : List HostEvent}

theorem storeCalls_error {s s' : Stores} {c : HostCall} {e : Exn}
    (h : storeCalls s c (.error e) s') : s' = s := by
  cases c <;> exact h.2

theorem storeCalls_quiet {s s' : Stores} {c : HostCall} {ans : Except Exn c.Answer}
    (hc : c.Quiet) (h : storeCalls s c ans s') : s' = s := by
  cases ans with
  | error e => exact storeCalls_error h
  | ok a => cases c <;> first | exact hc.elim | exact h

theorem hostStores_inside {c : HostCall} {ans : Except Exn c.Answer} (hc : c.Inside) :
    hostStores undone s c ans s' ↔ s'.found = s.found ∧ storeCalls s.now c ans s'.now := by
  cases c <;> first | exact hc.elim | rfl

theorem HostCall.Quiet.inside {c : HostCall} (h : c.Quiet) : c.Inside := by
  cases c <;> first | exact h.elim | trivial

theorem Idle.keeps {e : HostEvent} (h : Idle e) (hstep : hostStores undone s e.call e.answer s') :
    s' = s := by
  rcases h with hquiet | ⟨transaction, x, rfl⟩
  · obtain ⟨hfound, hnow⟩ := (hostStores_inside hquiet.inside).1 hstep
    exact HostState.ext (storeCalls_quiet hquiet hnow) hfound
  · obtain ⟨hfound, -, hnow⟩ := hstep
    exact HostState.ext hnow hfound

/-- Idle calls leave the host alone. -/
theorem steps_idle (hes : ∀ e ∈ es, Idle e) (h : Steps (hostStores undone) s es s') : s' = s :=
  h.keeps (P := Idle) (R := fun a b => b = a) (fun _ => rfl) (fun h₁ h₂ => h₂.trans h₁)
    (fun _ _ _ hidle hstep => hidle.keeps hstep) hes

/-- The calls of a block go from store to store. -/
theorem steps_inside (hes : ∀ e ∈ es, e.call.Inside) (h : Steps (hostStores undone) s es s') :
    s'.found = s.found ∧ Steps storeCalls s.now es s'.now := by
  induction es generalizing s with
  | nil =>
    obtain rfl := steps_nil.1 h
    exact ⟨rfl, rfl⟩
  | cons e es ih =>
    obtain ⟨s₁, he, h⟩ := h
    obtain ⟨hfound, hstep⟩ := (hostStores_inside (hes e List.mem_cons_self)).1 he
    obtain ⟨hfound', hsteps⟩ := ih (fun e' he' => hes e' (List.mem_cons_of_mem _ he')) h
    exact ⟨hfound'.trans hfound, s₁.now, hstep, hsteps⟩

end Quiet

/-! ## One entry -/

/-- Whether a block returned. -/
def returned {α : Type} : Except Exn α → Bool
  | .ok _ => true
  | .error _ => false

/-- The calls of one entry: its block's, between the enter and the leave. -/
structure Entry {α : Type} (transaction : Transaction) (block : Task α) (es : List HostEvent)
    (r : Except Exn α) (exit : Except Exn Unit) : Prop where
  split : ∃ inner, es = ⟨.enter transaction, .ok ()⟩ ::
    (inner ++ [⟨.leave transaction (returned r), exit⟩]) ∧ Path block inner r

/-- How an entry ends: with what its exit raises, or else as its block did. -/
def afterExit {α : Type} (r : Except Exn α) : Except Exn Unit → Except Exn α
  | .error e => .error e
  | .ok _ => r

section Entry

variable {α : Type} {transaction : Transaction} {block : Task α} {es : List HostEvent}
  {r : Except Exn α} {exit : Except Exn Unit}

theorem within_path (h : Path (within transaction block) es r) :
    (∃ e, es = [⟨.enter transaction, .error e⟩] ∧ r = .error e) ∨
      ∃ rb exit, Entry transaction block es rb exit ∧ r = afterExit rb exit := by
  unfold within at h
  obtain ⟨ans, rest, rfl, hrest⟩ := path_perform_andThen.1 h
  cases ans with
  | error e =>
    obtain ⟨rfl, rfl⟩ := hrest
    exact .inl ⟨e, rfl, rfl⟩
  | ok a =>
    obtain ⟨inner, tail, rb, rfl, hblock, htail⟩ := path_andThen.1 hrest
    have hleave : ∃ exit, tail = [⟨.leave transaction (returned rb), exit⟩] ∧
        r = afterExit rb exit := by
      cases rb <;>
        · obtain ⟨exit, none, rfl, hafter⟩ := path_perform_andThen.1 htail
          cases exit <;>
            · obtain ⟨rfl, rfl⟩ := hafter
              exact ⟨_, rfl, rfl⟩
    obtain ⟨exit, rfl, rfl⟩ := hleave
    exact .inr ⟨rb, exit, ⟨inner, rfl, hblock⟩, rfl⟩

/-- **What an entry leaves**: what its block made when block and exit return, and else what the
host decides. -/
theorem Entry.effect {undone : Bool → Stores → Stores → Stores → Prop} {s s' : HostState}
    (h : Entry transaction block es r exit) (hblock : Only HostCall.Inside block)
    (hsteps : Steps (hostStores undone) s es s') :
    ∃ inner made, Path block inner r ∧ Steps storeCalls s.now inner made ∧
      if returned r = true ∧ exit = .ok () then s'.now = made
      else undone (returned r) s.now made s'.now := by
  obtain ⟨inner, rfl, hpath⟩ := h.split
  obtain ⟨s₁, henter, hrest⟩ := hsteps
  obtain ⟨s₂, hinner, hleave⟩ := steps_append.1 hrest
  obtain rfl : s₁ = ⟨s.now, s.now⟩ := henter
  obtain ⟨hfound, hmade⟩ := steps_inside (hblock.path hpath) hinner
  obtain ⟨-, -, hexit⟩ := steps_singleton.1 hleave
  refine ⟨inner, s₂.now, hpath, hmade, ?_⟩
  rw [hfound] at hexit
  exact hexit

/-- An exit raises no exception of the library's own. -/
theorem Entry.exit_public {undone : Bool → Stores → Stores → Stores → Prop} {s s' : HostState}
    (h : Entry transaction block es r exit) (hsteps : Steps (hostStores undone) s es s') {e : Exn}
    (hexit : exit = .error e) : e.isPrivate = false := by
  obtain ⟨inner, rfl, -⟩ := h.split
  obtain ⟨s₁, -, hrest⟩ := hsteps
  obtain ⟨s₂, -, hleave⟩ := steps_append.1 hrest
  obtain ⟨-, hpublic, -⟩ := steps_singleton.1 hleave
  exact hpublic e hexit

end Entry

/-! ## A host -/

/-- What the surroundings of the demonstration host answer besides its stores. -/
structure HostScript where
  body : Bytes
  relyingParty : OidcRelyingParty
  tokenAnswer : TokenEndpointAnswer
  reading : ℚ

/-- The id the demonstration host gives its next session. -/
def nextSessionId (s : Stores) : Str := str "s" ++ decimal s.sessions.length

/-- A host that rolls back. It prunes only what needs no comparison of ages, and fails every call
it does not know. -/
def demoHost (script : HostScript) : HostState → (c : HostCall) → Except Exn c.Answer × HostState
  | s, .wallClock => (.ok script.reading, s)
  | s, .enter _ => (.ok (), ⟨s.now, s.now⟩)
  | s, .leave _ true => (.ok (), s)
  | s, .leave _ false => (.ok (), ⟨s.found, s.found⟩)
  | s, .create userId now expiresAt refreshToken idToken =>
    if h : nextSessionId s.now ∉ s.now.sessions.map (·.id) then
      (.ok ⟨nextSessionId s.now, ⟨userId, [], []⟩, now, expiresAt, refreshToken, idToken⟩,
        ⟨s.now.opened ⟨nextSessionId s.now, userId, now, expiresAt, refreshToken, idToken⟩ h,
          s.found⟩)
    else (.error (.host 0), s)
  | s, .delete id => (.ok (), ⟨s.now.keeping fun session => session.id ≠ id, s.found⟩)
  | s, .deleteForUser userId =>
    (.ok (sessionsOf userId s.now.sessions).length,
      ⟨s.now.keeping fun session => session.userId ≠ userId, s.found⟩)
  | s, .pruneOverflow userId 0 =>
    (.ok (), ⟨s.now.keeping fun session => session.userId ≠ userId, s.found⟩)
  | s, .getAccount userId => (.ok (s.now.accounts userId), s)
  | s, .createForSubject subject username role =>
    if (s.now.accounts subject).isNone then
      (.ok ⟨subject, username, role⟩, ⟨s.now.written ⟨subject, username, role⟩, s.found⟩)
    else (.error .usernameTakenError, s)
  | s, .setRole userId role =>
    match s.now.accounts userId with
    | none => (.error (.host 0), s)
    | some known => (.ok { known with role }, ⟨s.now.written { known with role }, s.found⟩)
  | s, .accountEvent event => (.ok (), ⟨s.now.audited event, s.found⟩)
  | s, .postTokenRequest _ => (.ok script.tokenAnswer, s)
  | s, .verifier owner step => ((quietHost () (.verifier owner step)).1, s)
  | s, .relyingParty _ => (.ok script.relyingParty, s)
  | s, .requestBody => (.ok script.body, s)
  | s, _ => (.error (.host 0), s)

theorem quietHost_public (owner : ℕ) (step : VerifierCall) (e : Exn)
    (h : (quietHost () (.verifier owner step)).1 = .error e) : e.isPrivate = false := by
  cases step <;> simp only [quietHost] at h <;> cases h <;> rfl

/-- **The ports can be obeyed.** -/
theorem demoHost_allowed {undone : Bool → Stores → Stores → Stores → Prop}
    (hundone : ∀ before made, undone false before made before) (script : HostScript)
    (s : HostState) (c : HostCall) :
    hostStores undone s c (demoHost script s c).1 (demoHost script s c).2 := by
  have hfails : ∀ {c : HostCall}, c.Inside →
      hostStores undone s c (.error (.host 0)) s := by
    intro c hc
    refine (hostStores_inside hc).2 ⟨rfl, ?_⟩
    cases c <;> exact ⟨rfl, rfl⟩
  cases c with
  | leave transaction b =>
    cases b with
    | true => exact ⟨rfl, by simp [demoHost], by simp [demoHost]⟩
    | false => exact ⟨rfl, by simp [demoHost], hundone _ _⟩
  | create userId now expiresAt refreshToken idToken =>
    simp only [demoHost]
    split
    · rename_i hnew
      exact ⟨rfl, hnew, rfl, rfl, rfl, rfl, rfl, rfl, rfl⟩
    · exact hfails trivial
  | pruneOverflow userId keepNewest =>
    cases keepNewest with
    | zero =>
      refine ⟨rfl, _, rfl, fun session hne => by simpa using hne, ?_, ?_, ?_⟩
      all_goals simp [demoHost, Stores.keeping, sessionsOf, List.filter_filter]
    | succ n => exact hfails trivial
  | createForSubject subject username role =>
    simp only [demoHost]
    split
    · rename_i hnone
      exact ⟨rfl, Option.isNone_iff_eq_none.1 hnone, rfl, rfl⟩
    · exact ⟨rfl, rfl, rfl⟩
  | setRole userId role =>
    simp only [demoHost]
    split
    · exact hfails trivial
    · rename_i known hknown
      exact ⟨rfl, known, hknown, rfl, rfl⟩
  | verifier owner step =>
    refine ⟨rfl, ?_⟩
    cases hans : (quietHost () (.verifier owner step)).1 with
    | error e =>
      simp only [demoHost, hans]
      exact ⟨quietHost_public owner step e hans, rfl⟩
    | ok a =>
      simp only [demoHost, hans]
      rfl
  | _ => first
    | exact hfails trivial
    | rfl
    | exact ⟨rfl, rfl⟩
    | exact ⟨rfl, rfl, rfl⟩

end WebAuth
