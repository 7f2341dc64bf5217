import WebAuth.Effects.Checks
import WebAuth.LoginDecision
import WebAuth.Python.Encodings
import WebAuth.SessionLifetimeRuns
import WebAuth.SignInRoutes

/-!
# The two readings of a callback

The callback's state is read by a lenient parse, which finds the pending login the callback ends, and
the login itself reads the query strictly. A query the strict parse accepts names the same state to
both, and one it refuses is refused before anything is asked of the issuer or the stores.
-/

namespace WebAuth

open Python Effects Program

/-- A state a query names: exactly once, not empty, and decodable. The rest of the query may be
malformed. -/
def NamesState (query state : Str) : Prop :=
  (∃ pairs, parseQsl false surrogateEscape query = some pairs ∧
    (pairs.filter fun pair => pair.1 = str "state") = [(str "state", state)]) ∧
    state ≠ [] ∧ (encode state).isSome

/-- Nothing is posted to the issuer, and no transaction is entered. -/
def Untouched (es : List HostEvent) : Prop :=
  ∀ e ∈ es, (∀ request, e.call ≠ .postTokenRequest request) ∧
    ∀ transaction, e.call ≠ .enter transaction

/-- The hook is asked for the refusal, and for nothing else. -/
def AsksRefusal (scope : Scope) (reason : OidcRefusalReason) (es : List HostEvent)
    (answer : Except Exn Response) : Prop :=
  es = [⟨.refused scope (.oidc { reason }), answer⟩]

/-- The refusal's hook is asked once the relying party's has answered. -/
def AsksPartyThenRefusal (scope : Scope) (reason : OidcRefusalReason) (es : List HostEvent)
    (answer : Except Exn Response) : Prop :=
  (∃ e, es = [⟨.relyingParty scope, .error e⟩] ∧ answer = .error e) ∨
    ∃ rp, es = [⟨.relyingParty scope, .ok rp⟩, ⟨.refused scope (.oidc { reason }), answer⟩]

/-! ## The state -/

section State

variable {query state : Str} {callback : List (Str × Str)}

theorem NamesState.unique {state' : Str} (h : NamesState query state)
    (h' : NamesState query state') : state = state' := by
  obtain ⟨⟨pairs, hparse, hfilter⟩, -⟩ := h
  obtain ⟨⟨pairs', hparse', hfilter'⟩, -⟩ := h'
  obtain rfl := Option.some.inj (hparse.symm.trans hparse')
  rw [hfilter] at hfilter'
  exact (Prod.mk.inj (List.cons.inj hfilter').1).2

/-- The pairs named `state` of pairs whose values are known. -/
theorem filter_state_eq {pairs : List (Str × Str)}
    (h : ((pairs.filter fun pair => pair.1 = str "state").map (·.2)) = [state]) :
    (pairs.filter fun pair => pair.1 = str "state") = [(str "state", state)] := by
  obtain ⟨pair, hpair, hstate⟩ := List.map_eq_singleton_iff.1 h
  have hname : pair.1 = str "state" := by
    have hmem := hpair ▸ List.mem_singleton_self pair
    simpa using (List.mem_filter.1 hmem).2
  rw [hpair, ← hname, ← hstate]

/-- `_callback_state` finds the state a query names. -/
theorem callbackState_of_named (h : NamesState query state) : callbackState query = .ok state := by
  obtain ⟨⟨pairs, hparse, hfilter⟩, hne, hencode⟩ := h
  unfold callbackState
  rw [hparse, Option.getD_some, hfilter]
  simp [hne, hencode]

/-- `_callback_state` of a query that names no state refuses it, as malformed where the strict parse
does. -/
theorem callbackState_of_unnamed (h : ¬∃ state, NamesState query state) :
    callbackState query = .error { reason :=
      if (callbackParameters query).toOption.isSome then .stateMismatch else .malformedCallback } := by
  have hcases := callbackParameters_cases query
  unfold callbackState
  dsimp only
  split
  · rename_i state hstates
    rw [if_neg]
    · rcases hcases with ⟨callback, -, hread⟩ | ⟨-, hread⟩ <;> rw [hread] <;> rfl
    rw [Bool.and_eq_true, decide_eq_true_eq]
    rintro ⟨hne, hencode⟩
    refine h ⟨state, ?_, hne, hencode⟩
    cases hparse : parseQsl false surrogateEscape query with
    | none =>
      rw [hparse] at hstates
      cases hstates
    | some pairs =>
      rw [hparse, Option.getD_some] at hstates
      exact ⟨pairs, rfl, filter_state_eq hstates⟩
  · rcases hcases with ⟨callback, -, hread⟩ | ⟨-, hread⟩ <;> rw [hread] <;> rfl

/-- **What the strict reading names, the lenient one names.** -/
theorem namesState_of_names (hnames : Names query callback)
    (hlookup : callback.lookup (str "state") = some state) (hne : state ≠ []) :
    NamesState query state := by
  obtain ⟨hencode, hparse, hnodup⟩ := hnames
  have hmem : (str "state", state) ∈ callback := by
    obtain ⟨before, after, heq, -⟩ := List.lookup_eq_some_iff.1 hlookup
    rw [heq]
    simp
  refine ⟨⟨callback, parseQsl_of_strict hparse, ?_⟩, hne, ?_⟩
  · have hnodup' : callback.Nodup := List.Nodup.of_map _ hnodup
    refine List.perm_singleton.1 ((List.perm_ext_iff_of_nodup (hnodup'.filter _) (by simp)).2 ?_)
    intro pair
    rw [List.mem_filter, List.mem_singleton, decide_eq_true_eq]
    constructor
    · rintro ⟨hpair, hname⟩
      exact List.inj_on_of_nodup_map hnodup hpair hmem hname
    · rintro rfl
      exact ⟨hmem, rfl⟩
  · exact encode_isSome.2 (isText_of_parseQsl (encode_isSome.1 hencode) hparse _ hmem).2

end State

/-! ## The route -/

section Route

variable {py : Platform} {routes : SignIn} {scope : Scope} {config : Ref WebAuthConfig}
  {query state : Str} {es : List HostEvent} {r : Except Exn Routed}

/-- A query the strict reading refuses ends a login before any call. -/
theorem completeLogin_malformed (py : Platform) (rp : OidcRelyingParty) (pending : PendingLogin)
    (h : ¬∃ callback, Names query callback) :
    rp.completeLogin py pending query = ret (.error { reason := .malformedCallback }) := by
  rcases callbackParameters_cases query with ⟨callback, hnames, -⟩ | ⟨-, hread⟩
  · exact absurd ⟨callback, hnames⟩ h
  · unfold OidcRelyingParty.completeLogin OidcRelyingParty.identity
    rw [hread]
    rfl

/-- The callback once its query has been read. -/
theorem callback_read (hconfig : webAuthConfig scope = .ok config)
    (hquery : scope.requestUrlQuery = .ok query) (h : Path (routes.callback py scope) es r) :
    (∃ cause, callbackState query = .error cause ∧ ∃ answer,
      es = [⟨.refused scope (.oidc cause), answer⟩] ∧ r = answer.map .response) ∨
    ∃ state, callbackState query = .ok state ∧
      Path ((takePendingLogin py scope {} state config.value : Task _) >>= fun taken =>
        (routes.answer py scope config.value taken.2).andThen fun outcome =>
          return .answer ⟨taken.1, outcome, plainServerError⟩) es r := by
  unfold SignIn.callback at h
  rw [hconfig, hquery] at h
  simp only [liftM_eq, done_ok, bind_eq, ret_andThen, onReturn_ok] at h
  cases hstate : callbackState query with
  | error cause =>
    rw [hstate] at h
    obtain ⟨answer, rest, rfl, hrest⟩ := h
    refine .inl ⟨cause, rfl, answer, ?_⟩
    cases answer with
    | error e =>
      obtain ⟨rfl, rfl⟩ := hrest
      exact ⟨rfl, rfl⟩
    | ok response =>
      obtain ⟨rfl, rfl⟩ := hrest
      exact ⟨rfl, rfl⟩
  | ok state =>
    rw [hstate] at h
    exact .inr ⟨state, rfl, h⟩

/-- The callback whose state names a cookie: the answer carries its deletion. -/
theorem callback_taken {carrier : Response} {pending : Option PendingLogin}
    (hconfig : webAuthConfig scope = .ok config) (hquery : scope.requestUrlQuery = .ok query)
    (hstate : callbackState query = .ok state)
    (htaken : takePendingLogin py scope {} state config.value = .ok (carrier, pending))
    (h : Path (routes.callback py scope) es r) : ∃ outcome,
      r = .ok (.answer ⟨carrier, outcome, plainServerError⟩) ∧
      Path (routes.answer py scope config.value pending) es outcome := by
  rcases callback_read hconfig hquery h with ⟨cause, herror, -⟩ | ⟨state', hstate', h⟩
  · rw [hstate] at herror
    cases herror
  · rw [hstate] at hstate'
    obtain rfl := Except.ok.inj hstate'
    rw [htaken] at h
    simp only [liftM_eq, done_ok, bind_eq, ret_andThen, onReturn_ok] at h
    obtain ⟨es₁, es₂, outcome, rfl, hanswer, hreturn⟩ := path_andThen.1 h
    obtain ⟨rfl, rfl⟩ := hreturn
    rw [List.append_nil]
    exact ⟨outcome, rfl, hanswer⟩

/-- The login of a state is taken with the deletion of its cookie. -/
theorem takePendingLogin_carrier {carrier : Response} {pending : Option PendingLogin}
    (h : takePendingLogin py scope {} state config.value = .ok (carrier, pending)) : ∃ name,
      pendingLoginCookieName py state config.value.cookieSecure = .ok name ∧
      carrier = clearPendingLoginCookie {} name config.value := by
  unfold takePendingLogin at h
  obtain ⟨name, hname, h⟩ := bind_eq_ok.1 h
  dsimp only at h
  refine ⟨name, hname, ?_⟩
  split at h
  · obtain ⟨pending', -, h⟩ := bind_eq_ok.1 h
    exact (Prod.mk.inj (Except.ok.inj h)).1.symm
  · exact (Prod.mk.inj (Except.ok.inj h)).1.symm

theorem takePendingLogin_carried {name value : Str} {pending : Option PendingLogin}
    (hname : pendingLoginCookieName py state config.value.cookieSecure = .ok name)
    (hvalues : cookieValues py scope name = [value])
    (hverify : verifyPendingLogin py value config.value.signingKey = .ok pending) :
    takePendingLogin py scope {} state config.value =
      .ok (clearPendingLoginCookie {} name config.value, pending) := by
  unfold takePendingLogin
  refine bind_eq_ok.2 ⟨name, hname, ?_⟩
  dsimp only
  rw [hvalues]
  exact bind_eq_ok.2 ⟨pending, hverify, rfl⟩

theorem takePendingLogin_missing {name : Str}
    (hname : pendingLoginCookieName py state config.value.cookieSecure = .ok name)
    (hvalues : ∀ value, cookieValues py scope name = [value] →
      verifyPendingLogin py value config.value.signingKey = .ok none) :
    takePendingLogin py scope {} state config.value =
      .ok (clearPendingLoginCookie {} name config.value, none) := by
  by_cases hone : ∃ value, cookieValues py scope name = [value]
  · obtain ⟨value, hvalue⟩ := hone
    exact takePendingLogin_carried hname hvalue (hvalues value hvalue)
  · unfold takePendingLogin
    refine bind_eq_ok.2 ⟨name, hname, ?_⟩
    dsimp only
    split
    · rename_i value hvalue
      exact absurd ⟨value, hvalue⟩ hone
    · rfl

theorem answer_missing {answer : Except Exn Response}
    (h : Path (routes.answer py scope config.value none) es answer) :
    AsksRefusal scope .stateMismatch es answer := by
  obtain ⟨answer', rest, rfl, hrest⟩ := h
  obtain ⟨rfl, rfl⟩ := path_done.1 hrest
  rfl

theorem answer_malformed {pending : PendingLogin} {answer : Except Exn Response}
    (hquery : scope.requestUrlQuery = .ok query) (hno : ¬∃ callback, Names query callback)
    (h : Path (routes.answer py scope config.value (some pending)) es answer) :
    AsksPartyThenRefusal scope .malformedCallback es answer := by
  obtain ⟨party, rest, rfl, h⟩ := h
  cases party with
  | error e =>
    obtain ⟨rfl, rfl⟩ := h
    exact .inl ⟨e, rfl, rfl⟩
  | ok rp =>
    simp only [done_ok, ret_andThen, onReturn_ok] at h
    rw [hquery] at h
    simp only [liftM_eq, done_ok, bind_eq, ret_andThen, onReturn_ok,
      completeLogin_malformed py rp pending hno] at h
    obtain ⟨answer', rest, rfl, hrest⟩ := h
    obtain ⟨rfl, rfl⟩ := path_done.1 hrest
    exact .inr ⟨rp, rfl⟩

theorem AsksRefusal.untouched {reason : OidcRefusalReason} {answer : Except Exn Response}
    (h : AsksRefusal scope reason es answer) : Untouched es := by
  intro e he
  rw [h, List.mem_singleton] at he
  simp [he]

theorem AsksPartyThenRefusal.untouched {reason : OidcRefusalReason} {answer : Except Exn Response}
    (h : AsksPartyThenRefusal scope reason es answer) : Untouched es := by
  rcases h with ⟨e, rfl, -⟩ | ⟨rp, rfl⟩
  · intro e' he
    rw [List.mem_singleton] at he
    simp [he]
  · intro e' he
    rcases List.mem_pair.1 he with rfl | rfl <;> simp

end Route

/-! ## The two readings -/

/-- The readings of a callback's query agree on its state, and decide how a malformed callback is
refused. -/
structure ReadsAlike (py : Platform) (routes : SignIn) (scope : Scope) (config : Ref WebAuthConfig)
    (query : Str) : Prop where
  /-- What the strict reading names, the lenient one finds. -/
  agree : ∀ callback state, Names query callback → callback.lookup (str "state") = some state →
    state ≠ [] → callbackState query = .ok state
  /-- A malformed query with the state of a genuine cookie. -/
  genuine : ∀ state name value pending, NamesState query state → (¬∃ callback, Names query callback) →
    pendingLoginCookieName py state config.value.cookieSecure = .ok name →
    cookieValues py scope name = [value] →
    verifyPendingLogin py value config.value.signingKey = .ok (some pending) →
    ∀ es r, Path (routes.callback py scope) es r → ∃ answer,
      r = .ok (.answer ⟨clearPendingLoginCookie {} name config.value, answer, plainServerError⟩) ∧
      AsksPartyThenRefusal scope .malformedCallback es answer ∧ Untouched es
  /-- A query with a state whose cookie is missing, repeated or does not verify. -/
  mismatched : ∀ state name, NamesState query state →
    pendingLoginCookieName py state config.value.cookieSecure = .ok name →
    (∀ value, cookieValues py scope name = [value] →
      verifyPendingLogin py value config.value.signingKey = .ok none) →
    ∀ es r, Path (routes.callback py scope) es r → ∃ answer,
      r = .ok (.answer ⟨clearPendingLoginCookie {} name config.value, answer, plainServerError⟩) ∧
      AsksRefusal scope .stateMismatch es answer ∧ Untouched es
  /-- A query that names no state: the hook's answer goes out as it is. -/
  unnamed : (¬∃ state, NamesState query state) →
    ∀ es r, Path (routes.callback py scope) es r → ∃ answer, r = answer.map .response ∧
      ((¬∃ callback, Names query callback) → AsksRefusal scope .malformedCallback es answer) ∧
      ((∃ callback, Names query callback) → AsksRefusal scope .stateMismatch es answer) ∧ Untouched es

section Readings

variable {py : Platform} {routes : SignIn} {scope : Scope} {config : Ref WebAuthConfig} {query : Str}

/-- **The two readings of a callback's query agree.** -/
theorem callback_reads_alike (hconfig : webAuthConfig scope = .ok config)
    (hquery : scope.requestUrlQuery = .ok query) : ReadsAlike py routes scope config query where
  agree callback state hnames hlookup hne :=
    callbackState_of_named (namesState_of_names hnames hlookup hne)
  genuine state name value pending hnamed hno hname hvalue hverify es r h := by
    obtain ⟨answer, hr, hanswer⟩ := callback_taken hconfig hquery (callbackState_of_named hnamed)
      (takePendingLogin_carried hname hvalue hverify) h
    have hasks := answer_malformed hquery hno hanswer
    exact ⟨answer, hr, hasks, hasks.untouched⟩
  mismatched state name hnamed hname hvalues es r h := by
    obtain ⟨answer, hr, hanswer⟩ := callback_taken hconfig hquery (callbackState_of_named hnamed)
      (takePendingLogin_missing hname hvalues) h
    have hasks := answer_missing hanswer
    exact ⟨answer, hr, hasks, hasks.untouched⟩
  unnamed hno es r h := by
    rcases callback_read hconfig hquery h with ⟨cause, herror, answer, hes, hr⟩ | ⟨state, hstate, -⟩
    swap
    · rw [callbackState_of_unnamed hno] at hstate
      cases hstate
    have hcause := callbackState_of_unnamed hno
    rw [herror] at hcause
    obtain rfl := Except.error.inj hcause
    refine ⟨answer, hr, fun hmalformed => ?_, fun hnames => ?_, ?_⟩
    · rcases callbackParameters_cases query with ⟨callback, hnames, -⟩ | ⟨-, hread⟩
      · exact absurd ⟨callback, hnames⟩ hmalformed
      · rw [hread] at hes
        exact hes
    · obtain ⟨callback, hnames⟩ := hnames
      rw [callbackParameters_eq_ok.2 hnames] at hes
      exact hes
    · intro e he
      rw [hes, List.mem_singleton] at he
      simp [he]

end Readings

/-! ## A run -/

/-- Sign-in routes for everyone of the issuer. -/
def everyonesRoutes : SignIn where
  admission :=
    { boundIssuer := str "https://issuer"
      loginGroup := none
      adminGroup := none
      login_isGroupPath := none_isGroupPath
      admin_isGroupPath := none_isGroupPath
      admin_below := none_below }
  options := ⟨false, none⟩

/-- A callback with a state and a bare name, and without cookies. -/
def bareNameCallback : Scope where
  type := str "http"
  app := some ⟨0, some ⟨0, demoConfig⟩⟩
  method := some (str "GET")
  path := str "/auth/callback"
  rawPath := none
  rootPath := []
  queryString := []
  urlQuery := some (str "state=s&code")
  queryParams := []
  headers := []

theorem callback_reads_alike_of_bare_name : ∃ answer, AsksRefusal bareNameCallback .stateMismatch
    (play quietHost (everyonesRoutes.callback demoPlatform bareNameCallback) ()).1 answer := by
  have hnamed : NamesState (str "state=s&code") (str "s") :=
    ⟨⟨[(str "state", str "s"), (str "code", [])], by decide +kernel, by decide⟩, by decide, by decide⟩
  obtain ⟨answer, -, hasks, -⟩ := (@callback_reads_alike demoPlatform everyonesRoutes bareNameCallback
    ⟨0, demoConfig⟩ _ rfl rfl).mismatched (str "s") _ hnamed rfl (fun value h => by cases h) _ _ (path_play quietHost _ ())
  exact ⟨answer, hasks⟩

end WebAuth
