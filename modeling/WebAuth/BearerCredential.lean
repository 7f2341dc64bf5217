import WebAuth.BearerGate

/-!
# The credential of a request

What a request's `Authorization` lines and its query come to, rule by rule, and that the gate reads
them so.
-/

namespace WebAuth

open Python

/-- The one `Authorization` line, without the blanks around it. -/
def OneLine (scope : Scope) (value : Str) : Prop :=
  ∃ line, scope.getlist (str "authorization") = [line] ∧ stripBlanks line = value

/-- The one line starts with an auth-scheme, which `rest` follows. -/
structure HasScheme (scope : Scope) (scheme rest : Str) : Prop where
  line : OneLine scope (scheme ++ rest)
  nonempty : scheme ≠ []
  chars : ∀ c ∈ scheme, isAuthSchemeChar c = true
  ends : ∀ c, rest.head? = some c → isAuthSchemeChar c = false

/-- One credential stands behind spaces, and nothing else. -/
structure OneCredential (rest credential : Str) : Prop where
  split : ∃ n, rest = List.replicate (n + 1) (chr ' ') ++ credential
  nonempty : credential ≠ []
  chars : ∀ c ∈ credential, isOneOf " \t," c = false

/-- The scheme of the one line is `Bearer`, in any case. -/
def BearerLine (scope : Scope) (rest : Str) : Prop :=
  ∃ scheme, HasScheme scope scheme rest ∧ lowerAscii scheme = str "bearer"

/-- The query names an `access_token`. -/
def TokenInQuery (scope : Scope) : Prop :=
  ∃ parameter ∈ scope.queryParams, parameter.1 = str "access_token"

/-- What a request sends: no bearer credential, a malformed request, a credential that is no token,
or a token. -/
inductive Sent (scope : Scope) : Except GateRefusal Str → Prop
  | nothing (h : scope.getlist (str "authorization") = [] ∨ OneLine scope []) :
      Sent scope (.error .noCredentials)
  | otherScheme {scheme rest : Str} (h : HasScheme scope scheme rest)
      (other : lowerAscii scheme ≠ str "bearer") : Sent scope (.error .noCredentials)
  | repeated (h : 2 ≤ (scope.getlist (str "authorization")).length) :
      Sent scope (.error .invalidRequest)
  | noScheme {c : CodePoint} {rest : Str} (h : OneLine scope (c :: rest))
      (other : isAuthSchemeChar c = false) : Sent scope (.error .invalidRequest)
  | notOne {rest : Str} (h : BearerLine scope rest) (none : ∀ credential,
      ¬OneCredential rest credential) : Sent scope (.error .invalidRequest)
  | twice {rest credential : Str} (h : BearerLine scope rest) (one : OneCredential rest credential)
      (query : TokenInQuery scope) : Sent scope (.error .invalidRequest)
  | noToken {rest credential : Str} (h : BearerLine scope rest)
      (one : OneCredential rest credential) (query : ¬TokenInQuery scope)
      (other : isB64Token credential = false) : Sent scope (.error .invalidToken)
  | token {rest credential : Str} (h : BearerLine scope rest) (one : OneCredential rest credential)
      (query : ¬TokenInQuery scope) (token : isB64Token credential = true) :
      Sent scope (.ok credential)

section Credential

variable {scope : Scope}

theorem oneCredential_eq_some {rest credential : Str} :
    oneCredential rest = some credential ↔ OneCredential rest credential := by
  unfold oneCredential
  dsimp only
  constructor
  · intro h
    split_ifs at h with hcond
    obtain rfl := Option.some.inj h
    simp only [Bool.and_eq_true, decide_eq_true_eq, Bool.not_eq_true', List.any_eq_false,
      Bool.not_eq_true] at hcond
    obtain ⟨⟨hhead, hne⟩, hchars⟩ := hcond
    refine ⟨?_, hne, hchars⟩
    have hspaces : rest.takeWhile (· = chr ' ') =
        List.replicate (rest.takeWhile (· = chr ' ')).length (chr ' ') := by
      refine List.eq_replicate_iff.2 ⟨rfl, fun c hc => ?_⟩
      have hspace := List.mem_takeWhile_imp hc
      simpa using hspace
    cases hlength : (rest.takeWhile (· = chr ' ')).length with
    | zero =>
      cases rest with
      | nil => cases hhead
      | cons c rest =>
        obtain rfl := Option.some.inj hhead
        simp at hlength
    | succ n =>
      rw [hlength] at hspaces
      refine ⟨n, ?_⟩
      rw [← hspaces, List.takeWhile_append_dropWhile]
  · rintro ⟨⟨n, rfl⟩, hne, hchars⟩
    have hdrop : (List.replicate (n + 1) (chr ' ') ++ credential).dropWhile (· = chr ' ') =
        credential := by
      rw [List.dropWhile_append_of_pos (by
        intro c hc
        rw [List.eq_of_mem_replicate hc]
        rfl)]
      cases credential with
      | nil => rfl
      | cons c credential =>
        have hc : c ≠ chr ' ' := by
          rintro rfl
          have := hchars (chr ' ') List.mem_cons_self
          revert this
          decide
        rw [List.dropWhile_cons_of_neg (by simpa using hc)]
    rw [hdrop, if_pos]
    simp only [Bool.and_eq_true, decide_eq_true_eq, Bool.not_eq_true', List.any_eq_false,
      Bool.not_eq_true]
    exact ⟨⟨by simp [List.replicate_succ], hne⟩, hchars⟩

/-- The scheme of a line is what it starts with. -/
theorem HasScheme.takeWhile {scheme rest : Str} (h : HasScheme scope scheme rest) :
    (scheme ++ rest).takeWhile isAuthSchemeChar = scheme := by
  rw [List.takeWhile_append_of_pos h.chars]
  cases rest with
  | nil => simp
  | cons c rest => rw [List.takeWhile_cons_of_neg (by simp [h.ends c rfl]), List.append_nil]

theorem drop_takeWhile (p : CodePoint → Bool) (value : Str) :
    value.drop (value.takeWhile p).length = value.dropWhile p :=
  calc value.drop (value.takeWhile p).length =
      (value.takeWhile p ++ value.dropWhile p).drop (value.takeWhile p).length := by
        rw [List.takeWhile_append_dropWhile]
    _ = value.dropWhile p := List.drop_left

theorem hasScheme_of_line {value : Str} (h : OneLine scope value)
    (hne : value.takeWhile isAuthSchemeChar ≠ []) :
    HasScheme scope (value.takeWhile isAuthSchemeChar)
      (value.drop (value.takeWhile isAuthSchemeChar).length) where
  line := by
    rw [drop_takeWhile, List.takeWhile_append_dropWhile]
    exact h
  nonempty := hne
  chars := fun c hc => List.mem_takeWhile_imp hc
  ends := by
    intro c hc
    rw [drop_takeWhile] at hc
    have hnot := List.head?_dropWhile_not isAuthSchemeChar value
    rw [hc] at hnot
    simpa using hnot

/-- The part of `credentialOf` from the scheme on. -/
theorem credentialOf_scheme {scheme rest : Str} (h : HasScheme scope scheme rest) :
    credentialOf scope =
      if lowerAscii scheme ≠ str "bearer" then .error .noCredentials
      else
        match oneCredential rest with
        | none => .error .invalidRequest
        | some credential =>
          if scope.queryParams.any fun parameter => parameter.1 = str "access_token" then
            .error .invalidRequest
          else if !isB64Token credential then .error .invalidToken
          else .ok credential := by
  obtain ⟨line, hline, hvalue⟩ := h.line
  have hne : scheme ++ rest ≠ [] := by simp [h.nonempty]
  unfold credentialOf
  dsimp only
  rw [hline, if_neg (by simp), List.head?_cons, Option.getD_some, hvalue, h.takeWhile, if_neg hne,
    List.drop_left]
  exact if_neg h.nonempty

theorem tokenInQuery_iff : TokenInQuery scope ↔
    (scope.queryParams.any fun parameter => parameter.1 = str "access_token") = true := by
  simp [TokenInQuery]

/-- **What a request sends is what the gate reads of it.** -/
theorem sent_iff {r : Except GateRefusal Str} : Sent scope r ↔ credentialOf scope = r := by
  constructor
  · intro h
    cases h with
    | nothing h =>
      unfold credentialOf
      dsimp only
      rcases h with hnone | ⟨line, hline, hblank⟩
      · rw [hnone]
        rfl
      · rw [hline, if_neg (by simp), List.head?_cons, Option.getD_some, hblank, if_pos rfl]
    | otherScheme h other => rw [credentialOf_scheme h, if_pos other]
    | repeated h =>
      unfold credentialOf
      dsimp only
      rw [if_pos (by omega)]
    | @noScheme c rest h other =>
      obtain ⟨line, hline, hvalue⟩ := h
      unfold credentialOf
      dsimp only
      rw [hline, if_neg (by simp), List.head?_cons, Option.getD_some, hvalue,
        if_neg (List.cons_ne_nil _ _), List.takeWhile_cons_of_neg (by simp [other]), if_pos rfl]
    | @notOne rest h none =>
      obtain ⟨scheme, hscheme, hbearer⟩ := h
      rw [credentialOf_scheme hscheme, if_neg (not_not.2 hbearer)]
      cases hone : oneCredential rest with
      | none => rfl
      | some credential => exact absurd (oneCredential_eq_some.1 hone) (none credential)
    | twice h one query =>
      obtain ⟨scheme, hscheme, hbearer⟩ := h
      rw [credentialOf_scheme hscheme, if_neg (not_not.2 hbearer), oneCredential_eq_some.2 one]
      dsimp only
      rw [if_pos (tokenInQuery_iff.1 query)]
    | noToken h one query other =>
      obtain ⟨scheme, hscheme, hbearer⟩ := h
      rw [credentialOf_scheme hscheme, if_neg (not_not.2 hbearer), oneCredential_eq_some.2 one]
      dsimp only
      rw [if_neg (mt tokenInQuery_iff.2 query), other]
      rfl
    | token h one query token =>
      obtain ⟨scheme, hscheme, hbearer⟩ := h
      rw [credentialOf_scheme hscheme, if_neg (not_not.2 hbearer), oneCredential_eq_some.2 one]
      dsimp only
      rw [if_neg (mt tokenInQuery_iff.2 query), token]
      rfl
  · rintro rfl
    by_cases hrepeated : 1 < (scope.getlist (str "authorization")).length
    · have hread : credentialOf scope = .error .invalidRequest := by
        unfold credentialOf
        dsimp only
        rw [if_pos hrepeated]
      rw [hread]
      exact .repeated hrepeated
    cases hlines : scope.getlist (str "authorization") with
    | nil =>
      have hread : credentialOf scope = .error .noCredentials := by
        unfold credentialOf
        rw [hlines]
        rfl
      rw [hread]
      exact .nothing (.inl hlines)
    | cons line lines =>
      obtain rfl : lines = [] := by
        rw [hlines, List.length_cons] at hrepeated
        exact List.length_eq_zero_iff.1 (by omega)
      have hone : OneLine scope (stripBlanks line) := ⟨line, hlines, rfl⟩
      cases hvalue : stripBlanks line with
      | nil =>
        have hread : credentialOf scope = .error .noCredentials := by
          unfold credentialOf
          dsimp only
          rw [hlines, if_neg (by simp), List.head?_cons, Option.getD_some, hvalue, if_pos rfl]
        rw [hread]
        exact .nothing (.inr ⟨line, hlines, hvalue⟩)
      | cons c value =>
        rw [hvalue] at hone
        by_cases hchar : isAuthSchemeChar c = true
        · have hscheme := hasScheme_of_line hone (by
            rw [List.takeWhile_cons_of_pos hchar]
            exact List.cons_ne_nil _ _)
          generalize (c :: value).takeWhile isAuthSchemeChar = scheme at hscheme
          generalize (c :: value).drop scheme.length = rest at hscheme
          rw [credentialOf_scheme hscheme]
          by_cases hbearer : lowerAscii scheme = str "bearer"
          · rw [if_neg (not_not.2 hbearer)]
            have hline : BearerLine scope rest := ⟨scheme, hscheme, hbearer⟩
            cases hcredential : oneCredential rest with
            | none =>
              refine .notOne hline fun credential hone' => ?_
              rw [oneCredential_eq_some.2 hone'] at hcredential
              cases hcredential
            | some credential =>
              have hsplit := oneCredential_eq_some.1 hcredential
              dsimp only
              by_cases hquery : TokenInQuery scope
              · rw [if_pos (tokenInQuery_iff.1 hquery)]
                exact .twice hline hsplit hquery
              · rw [if_neg (mt tokenInQuery_iff.2 hquery)]
                cases htoken : isB64Token credential with
                | false => exact .noToken hline hsplit hquery htoken
                | true => exact .token hline hsplit hquery htoken
          · rw [if_pos hbearer]
            exact .otherScheme hscheme hbearer
        · have hother := Bool.eq_false_iff.2 hchar
          have hread : credentialOf scope = .error .invalidRequest := by
            unfold credentialOf
            dsimp only
            rw [hlines, if_neg (by simp), List.head?_cons, Option.getD_some, hvalue,
              if_neg (List.cons_ne_nil _ _), List.takeWhile_cons_of_neg hchar, if_pos rfl]
          rw [hread]
          exact .noScheme hone hother

end Credential

end WebAuth
