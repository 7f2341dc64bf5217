import WebAuth.Effects.Wrapping
import WebAuth.Eviction
import WebAuth.PendingCookies
import WebAuth.SessionLifetimeRuns
import WebAuth.SessionStore

/-!
# Which pending logins a start clears

The start route ranks the pending logins a browser carries by when they began, and clears the
lowest, so that the browser holds five with the new one. A name whose value does not verify, or that
comes twice, ranks below every genuine one.
-/

namespace WebAuth

open Python Effects Program Eviction

/-! ## Ranks -/

/-- The rank of a name that carries these values. -/
def pendingRank (py : Platform) (secret : Bytes) : List Str → WithBot ℤ
  | [value] =>
    match verifyPendingLogin py value secret with
    | .ok (some pending) => pending.issuedAt
    | _ => ⊥
  | _ => ⊥

/-- The number the start sorts a rank by. -/
def rankNumber (rank : WithBot ℤ) : ℤ := rank.unbotD unranked

/-- The pending-shaped names among the cookies. -/
def pendingNames (secure : Bool) (cookies : List (Str × Str)) : Finset Str :=
  ((cookies.map (·.1)).filter (isPendingLoginCookieName secure)).toFinset

/-- The values among the cookies under a name. -/
def valuesUnder (cookies : List (Str × Str)) (name : Str) : List Str :=
  (cookies.filter fun cookie => cookie.1 = name).map (·.2)

section Ranks

variable {py : Platform} {secret : Bytes} {config : WebAuthConfig} {cookies : List (Str × Str)}
  {cookie : Str × Str} {name : Str}

theorem mem_pendingNames {secure : Bool} : name ∈ pendingNames secure cookies ↔
    isPendingLoginCookieName secure name = true ∧ ∃ value, (name, value) ∈ cookies := by
  simp [pendingNames, and_comm]

theorem valuesUnder_append_singleton : valuesUnder (cookies ++ [cookie]) name =
    valuesUnder cookies name ++ if cookie.1 = name then [cookie.2] else [] := by
  unfold valuesUnder
  rw [List.filter_append, List.map_append]
  by_cases h : cookie.1 = name
  · simp [h]
  · simp [h]

theorem valuesUnder_eq_nil : valuesUnder cookies name = [] ↔ ¬∃ value, (name, value) ∈ cookies := by
  unfold valuesUnder
  rw [List.map_eq_nil_iff, List.filter_eq_nil_iff]
  constructor
  · rintro h ⟨value, hmem⟩
    exact h _ hmem (by simp)
  · intro h entry hmem hname
    have hname : entry.1 = name := of_decide_eq_true hname
    exact h ⟨entry.2, hname ▸ hmem⟩

/-- A genuine login began no earlier than zero. -/
theorem issuedAt_nonneg {value : Str} {pending : PendingLogin}
    (h : verifyPendingLogin py value secret = .ok (some pending)) : 0 ≤ pending.issuedAt := by
  rcases verifyPendingLogin_cases py secret value with
    hnone | ⟨payload, sig, fields, -, -, -, -, hread⟩
  · rw [hnone] at h
    cases h
  · rw [hread] at h
    unfold PendingFields.pendingLogin at h
    cases hreturn : decodedReturnTo fields.returnTo with
    | error e =>
      rw [hreturn] at h
      cases h
    | ok returnTo =>
      rw [hreturn] at h
      obtain rfl := Option.some.inj (Except.ok.inj h)
      exact Int.natCast_nonneg _

theorem pendingRank_nonneg {values : List Str} {n : ℤ} (h : pendingRank py secret values = n) :
    0 ≤ n := by
  unfold pendingRank at h
  split at h
  · split at h
    · rename_i pending hverify
      obtain rfl := WithBot.coe_inj.1 h
      exact issuedAt_nonneg hverify
    · cases h
  · cases h

/-- The numbers follow the ranks. -/
theorem pendingRank_le {values values' : List Str}
    (h : rankNumber (pendingRank py secret values) ≤ rankNumber (pendingRank py secret values')) :
    pendingRank py secret values ≤ pendingRank py secret values' := by
  cases hrank : pendingRank py secret values with
  | bot => exact bot_le
  | coe n =>
    have hn := pendingRank_nonneg hrank
    rw [hrank] at h
    cases hrank' : pendingRank py secret values' with
    | bot =>
      rw [hrank'] at h
      have hle : n ≤ -1 := h
      omega
    | coe n' =>
      rw [hrank'] at h
      exact WithBot.coe_le_coe.2 h

theorem issuedAt_eq_ok {value : Str} {n : ℤ} (h : issuedAt py config value = .ok n) :
    n = rankNumber (pendingRank py config.signingKey [value]) := by
  unfold issuedAt at h
  show n = rankNumber (match verifyPendingLogin py value config.signingKey with
    | .ok (some pending) => pending.issuedAt
    | _ => ⊥)
  cases hverify : verifyPendingLogin py value config.signingKey with
  | error e =>
    rw [hverify] at h
    cases h
  | ok read =>
    rw [hverify] at h
    cases read with
    | none => exact (Except.ok.inj h).symm
    | some pending => exact (Except.ok.inj h).symm

theorem issuedAt_error {value : Str} {e : Exn} (h : issuedAt py config value = .error e) :
    verifyPendingLogin py value config.signingKey = .error e := by
  unfold issuedAt at h
  cases hverify : verifyPendingLogin py value config.signingKey with
  | error e' =>
    rw [hverify] at h
    exact congrArg Except.error (Except.error.inj h)
  | ok read =>
    rw [hverify] at h
    cases read with
    | none => cases h
    | some pending => cases h

end Ranks

/-! ## The loop over the cookies -/

/-- What the loop has made of the cookies it has seen. -/
structure Ranks (py : Platform) (config : WebAuthConfig) (cookies : List (Str × Str))
    (ranked : List (Str × ℤ)) : Prop where
  names : (ranked.map (·.1)).toFinset = pendingNames config.cookieSecure cookies
  nodup : (ranked.map (·.1)).Nodup
  rank : ∀ entry ∈ ranked,
    entry.2 = rankNumber (pendingRank py config.signingKey (valuesUnder cookies entry.1))

section Loop

variable {py : Platform} {config : WebAuthConfig} {cookies : List (Str × Str)}
  {cookie : Str × Str} {ranked ranked' : List (Str × ℤ)}

theorem ranks_nil : Ranks py config [] [] := ⟨rfl, List.nodup_nil, by simp⟩

theorem pendingNames_append_singleton {secure : Bool} : pendingNames secure (cookies ++ [cookie]) =
    if isPendingLoginCookieName secure cookie.1 = true then
      insert cookie.1 (pendingNames secure cookies) else pendingNames secure cookies := by
  unfold pendingNames
  rw [List.map_append, List.filter_append, List.toFinset_append]
  split_ifs with h
  · ext name
    simp [h]
  · simp [h]

/-- A cookie of another shape ranks nowhere. -/
theorem Ranks.other (h : Ranks py config cookies ranked)
    (hcookie : isPendingLoginCookieName config.cookieSecure cookie.1 = false) :
    Ranks py config (cookies ++ [cookie]) ranked := by
  refine ⟨?_, h.nodup, ?_⟩
  · rw [pendingNames_append_singleton, hcookie, h.names]
    rfl
  · intro entry hentry
    have hmem : entry.1 ∈ pendingNames config.cookieSecure cookies := by
      rw [← h.names]
      exact List.mem_toFinset.2 (List.mem_map_of_mem hentry)
    have hne : cookie.1 ≠ entry.1 := by
      intro heq
      rw [heq, (mem_pendingNames.1 hmem).1] at hcookie
      cases hcookie
    rw [valuesUnder_append_singleton, if_neg hne, List.append_nil]
    exact h.rank entry hentry

/-- A name that comes again ranks below every genuine one. -/
theorem Ranks.again (h : Ranks py config cookies ranked)
    (hcookie : isPendingLoginCookieName config.cookieSecure cookie.1 = true)
    (hseen : cookie.1 ∈ ranked.map (·.1)) :
    Ranks py config (cookies ++ [cookie])
      (ranked.map fun entry => if entry.1 = cookie.1 then (entry.1, unranked) else entry) := by
  have hmap : (ranked.map fun entry =>
      if entry.1 = cookie.1 then (entry.1, unranked) else entry).map (·.1) = ranked.map (·.1) := by
    rw [List.map_map]
    congr 1
    funext entry
    show (if entry.1 = cookie.1 then (entry.1, unranked) else entry).1 = entry.1
    split_ifs
    · rfl
    · rfl
  have hmem : cookie.1 ∈ pendingNames config.cookieSecure cookies := by
    rw [← h.names]
    exact List.mem_toFinset.2 hseen
  refine ⟨?_, hmap ▸ h.nodup, ?_⟩
  · rw [hmap, h.names, pendingNames_append_singleton, if_pos hcookie, Finset.insert_eq_self.2 hmem]
  · intro entry' hentry'
    obtain ⟨entry, hentry, rfl⟩ := List.mem_map.1 hentry'
    by_cases hsame : entry.1 = cookie.1
    · obtain ⟨value, hvalue⟩ := (mem_pendingNames.1 hmem).2
      have hne : valuesUnder cookies cookie.1 ≠ [] := fun hnil =>
        valuesUnder_eq_nil.1 hnil ⟨value, hvalue⟩
      obtain ⟨first, rest, hfirst⟩ := List.exists_cons_of_ne_nil hne
      rw [if_pos hsame, hsame, valuesUnder_append_singleton, if_pos rfl, hfirst]
      cases rest with
      | nil => rfl
      | cons second rest => rfl
    · rw [if_neg hsame, valuesUnder_append_singleton, if_neg (Ne.symm hsame), List.append_nil]
      exact h.rank entry hentry

/-- A new name ranks by its value. -/
theorem Ranks.new (h : Ranks py config cookies ranked)
    (hcookie : isPendingLoginCookieName config.cookieSecure cookie.1 = true)
    (hnew : cookie.1 ∉ ranked.map (·.1)) {n : ℤ} (hn : issuedAt py config cookie.2 = .ok n) :
    Ranks py config (cookies ++ [cookie]) (ranked ++ [(cookie.1, n)]) := by
  have hmem : cookie.1 ∉ pendingNames config.cookieSecure cookies := by
    rw [← h.names]
    exact fun hmem => hnew (List.mem_toFinset.1 hmem)
  refine ⟨?_, ?_, ?_⟩
  · rw [List.map_append, List.toFinset_append, h.names, pendingNames_append_singleton,
      if_pos hcookie]
    ext name
    simp
  · rw [List.map_append]
    refine List.nodup_append.2 ⟨h.nodup, List.nodup_singleton _, ?_⟩
    intro name hname other hother heq
    rw [List.map_singleton, List.mem_singleton] at hother
    exact hnew (hother ▸ heq ▸ hname)
  · intro entry hentry
    rw [valuesUnder_append_singleton]
    rcases List.mem_append.1 hentry with hentry | hentry
    · have hne : cookie.1 ≠ entry.1 := fun heq => hnew (heq ▸ List.mem_map_of_mem hentry)
      rw [if_neg hne, List.append_nil]
      exact h.rank entry hentry
    · obtain rfl := List.mem_singleton.1 hentry
      have hnone : valuesUnder cookies cookie.1 = [] :=
        valuesUnder_eq_nil.2 fun hvalue => hmem (mem_pendingNames.2 ⟨hcookie, hvalue⟩)
      rw [if_pos rfl, hnone, List.nil_append]
      exact issuedAt_eq_ok hn

theorem ranks_step (h : Ranks py config cookies ranked)
    (hstep : rankCookie py config ranked cookie = .ok ranked') :
    Ranks py config (cookies ++ [cookie]) ranked' := by
  unfold rankCookie at hstep
  split_ifs at hstep with hcookie hseen
  · obtain rfl := Except.ok.inj hstep
    exact h.again hcookie hseen
  · cases hn : issuedAt py config cookie.2 with
    | error e =>
      rw [hn] at hstep
      cases hstep
    | ok n =>
      rw [hn] at hstep
      obtain rfl := Except.ok.inj hstep
      exact h.new hcookie hseen hn
  · obtain rfl := Except.ok.inj hstep
    exact h.other (by simpa using hcookie)

theorem rankCookie_error {e : Exn} (h : rankCookie py config ranked cookie = .error e) :
    isPendingLoginCookieName config.cookieSecure cookie.1 = true ∧
      verifyPendingLogin py cookie.2 config.signingKey = .error e := by
  unfold rankCookie at h
  split_ifs at h with hcookie hseen
  · cases h
  · refine ⟨hcookie, issuedAt_error ?_⟩
    cases hn : issuedAt py config cookie.2 with
    | error e' =>
      rw [hn] at h
      exact congrArg Except.error (Except.error.inj h)
    | ok n =>
      rw [hn] at h
      cases h
  · cases h

/-- **The loop ranks every pending-shaped name once**, or a value it read raised. -/
theorem issuedAtByName_ranks (py : Platform) (config : WebAuthConfig) (cookies : List (Str × Str)) :
    (∃ ranked, issuedAtByName py config cookies = .ok ranked ∧ Ranks py config cookies ranked) ∨
      ∃ e, issuedAtByName py config cookies = .error e ∧ ∃ cookie ∈ cookies,
        isPendingLoginCookieName config.cookieSecure cookie.1 = true ∧
        verifyPendingLogin py cookie.2 config.signingKey = .error e := by
  unfold issuedAtByName
  induction cookies using List.reverseRecOn with
  | nil => exact .inl ⟨[], rfl, ranks_nil⟩
  | append_singleton cookies cookie ih =>
    rw [List.foldlM_append]
    rcases ih with ⟨ranked, hranked, hranks⟩ | ⟨e, he, bad, hmem, hbad⟩
    · have hlast : (cookies.foldlM (rankCookie py config) [] >>= fun ranked =>
          [cookie].foldlM (rankCookie py config) ranked) = rankCookie py config ranked cookie := by
        rw [hranked]
        show (rankCookie py config ranked cookie >>= pure) = _
        exact bind_pure _
      rw [hlast]
      cases hstep : rankCookie py config ranked cookie with
      | ok ranked' => exact .inl ⟨ranked', rfl, ranks_step hranks hstep⟩
      | error e =>
        exact .inr ⟨e, rfl, cookie, List.mem_append_right _ List.mem_cons_self,
          rankCookie_error hstep⟩
    · rw [he]
      exact .inr ⟨e, rfl, bad, List.mem_append_left _ hmem, hbad⟩

end Loop

/-! ## What a start clears -/

/-- What a browser holds of these names once it has read the cookies of an answer. -/
def heldAfter (held : Finset Str) (cookies : List SetCookie) : Finset Str :=
  cookies.foldl (fun held cookie =>
    if 0 < cookie.maxAge then insert cookie.name held else held.erase cookie.name) held

/-- The rank of each name among the cookies of a request. -/
def carriedRank (py : Platform) (scope : Scope) (config : WebAuthConfig) (name : Str) : WithBot ℤ :=
  pendingRank py config.signingKey (cookieValues py scope name)

/-- What an answer to a start clears of the pending logins its request carried. -/
structure Clears (py : Platform) (scope : Scope) (config : WebAuthConfig) (cleared : List Str)
    (cookies : List SetCookie) : Prop where
  /-- Of the distinct pending-shaped names it clears those over four, the lowest ranked. -/
  evicts : Evicts (carriedRank py scope config)
    (pendingNames config.cookieSecure (cookiePairs py scope)) 4 cleared
  shaped : ∀ name ∈ cleared, isPendingLoginCookieName config.cookieSecure name = true
  /-- The answer deletes them and sets the new one. -/
  answered : ∃ new, cookies = cleared.map (deletionOf config .lax) ++ [new] ∧
    new.name ∈ heldAfter (pendingNames config.cookieSecure (cookiePairs py scope)) cookies
  /-- The browser then holds at most five. -/
  held : (heldAfter (pendingNames config.cookieSecure (cookiePairs py scope)) cookies).card ≤
    maxPendingLogins
  few : (pendingNames config.cookieSecure (cookiePairs py scope)).card ≤ 4 → cleared = []

section Start

variable {py : Platform} {scope : Scope} {config : WebAuthConfig}

theorem heldAfter_deletions (held : Finset Str) (names : List Str) :
    heldAfter held (names.map (deletionOf config .lax)) = held \ names.toFinset := by
  unfold heldAfter
  induction names generalizing held with
  | nil => simp
  | cons name names ih =>
    rw [List.map_cons, List.foldl_cons, ih]
    have hmaxAge : ¬0 < (deletionOf config .lax name).maxAge := by
      show ¬(0 : ℤ) < 0
      omega
    rw [if_neg hmaxAge]
    show held.erase name \ names.toFinset = _
    ext other
    simp only [Finset.mem_sdiff, Finset.mem_erase, List.toFinset_cons, Finset.mem_insert]
    tauto

theorem heldAfter_issue (held : Finset Str) (names : List Str) {new : SetCookie}
    (hnew : 0 < new.maxAge) : heldAfter held (names.map (deletionOf config .lax) ++ [new]) =
      insert new.name (held \ names.toFinset) := by
  have hdeleted := @heldAfter_deletions config held names
  unfold heldAfter at hdeleted ⊢
  rw [List.foldl_append, hdeleted, List.foldl_cons, List.foldl_nil, if_pos hnew]

/-- **What is cleared** is what is to be evicted, unless a value it read was forged. -/
theorem pendingLoginCookiesToEvict_evicts (py : Platform) (scope : Scope) (config : WebAuthConfig) :
    (∃ cleared, pendingLoginCookiesToEvict py scope config = .ok cleared ∧
      Evicts (carriedRank py scope config)
        (pendingNames config.cookieSecure (cookiePairs py scope)) 4 cleared) ∨
    ∃ e, pendingLoginCookiesToEvict py scope config = .error e ∧ ∃ cookie ∈ cookiePairs py scope,
      isPendingLoginCookieName config.cookieSecure cookie.1 = true ∧
      ∀ history, ¬Unforged py config.signingKey history cookie.2 := by
  unfold pendingLoginCookiesToEvict
  rcases issuedAtByName_ranks py config (cookiePairs py scope) with
    ⟨ranked, hranked, hranks⟩ | ⟨e, he, cookie, hmem, hname, hverify⟩
  · left
    rw [hranked]
    have hevicts := @evicts_take _ _ _ _ _ _ (carriedRank py scope config) ranked 4 hranks.nodup
      fun a ha b hb hle => by
        rw [hranks.rank a ha, hranks.rank b hb] at hle
        exact pendingRank_le hle
    rw [hranks.names] at hevicts
    have hlength : (lowestFirst ranked).length + 1 - maxPendingLogins = ranked.length - 4 := by
      rw [(lowestFirst_perm ranked).length_eq]
      rfl
    rw [← hlength] at hevicts
    exact ⟨_, rfl, hevicts⟩
  · right
    rw [he]
    refine ⟨e, rfl, cookie, hmem, hname, fun history hforged => ?_⟩
    rcases verifyPendingLogin_unforged hforged with hnone | ⟨signed, -, -, hread⟩
    · rw [hnone] at hverify
      cases hverify
    · rw [hread] at hverify
      cases hverify

variable {response answer : Response} {pending : PendingLogin} {maxAge : ℤ}

theorem cookies_clear (response : Response) (names : List Str) :
    (names.foldl (clearPendingLoginCookie · · config) response).cookies =
      response.cookies ++ names.map (deletionOf config .lax) := by
  induction names generalizing response with
  | nil => simp
  | cons name names ih =>
    rw [List.foldl_cons, ih]
    simp [clearPendingLoginCookie, Response.setCookie]

/-- The answer deletes what is cleared and sets the new login's cookie. -/
theorem beginPendingLogin_eq_ok
    (h : beginPendingLogin py scope response pending maxAge config = .ok answer) :
    ∃ cleared name value, pendingLoginCookiesToEvict py scope config = .ok cleared ∧
      pendingLoginCookieName py pending.state config.cookieSecure = .ok name ∧
      signPendingLogin py pending config.signingKey = .ok value ∧
      answer.cookies = response.cookies ++ cleared.map (deletionOf config .lax) ++
        [cookieOf config .lax name value maxAge] := by
  unfold beginPendingLogin issuePendingLoginCookie at h
  cases hcleared : pendingLoginCookiesToEvict py scope config with
  | error e =>
    rw [hcleared] at h
    cases h
  | ok cleared =>
    rw [hcleared] at h
    cases hname : pendingLoginCookieName py pending.state config.cookieSecure with
    | error e =>
      rw [hname] at h
      cases h
    | ok name =>
      rw [hname] at h
      cases hvalue : signPendingLogin py pending config.signingKey with
      | error e =>
        rw [hvalue] at h
        cases h
      | ok value =>
        rw [hvalue] at h
        obtain rfl := Except.ok.inj h
        refine ⟨cleared, name, value, rfl, rfl, rfl, ?_⟩
        show _ ++ [_] = _
        rw [cookies_clear]

theorem clears_of_begin {response : Response} (hfresh : response.cookies = [])
    (hmaxAge : 0 < maxAge)
    (h : beginPendingLogin py scope response pending maxAge config = .ok answer) :
    ∃ cleared, Clears py scope config cleared answer.cookies := by
  obtain ⟨cleared, name, value, hcleared, -, -, hcookies⟩ := beginPendingLogin_eq_ok h
  rw [hfresh, List.nil_append] at hcookies
  obtain ⟨cleared', hcleared', hevicts⟩ :=
    (pendingLoginCookiesToEvict_evicts py scope config).resolve_right
      fun ⟨e, he, _⟩ => by rw [hcleared] at he; cases he
  obtain rfl := Except.ok.inj (hcleared.symm.trans hcleared')
  have hheld := @heldAfter_issue config (pendingNames config.cookieSecure (cookiePairs py scope))
    cleared (cookieOf config .lax name value maxAge) hmaxAge
  rw [← hcookies] at hheld
  exact ⟨cleared,
    { evicts := hevicts
      shaped := fun name hname => (mem_pendingNames.1 (hevicts.subset name hname)).1
      answered := ⟨_, hcookies, by rw [hheld]; exact Finset.mem_insert_self _ _⟩
      held := by
        rw [hheld]
        have hkept := hevicts.card_kept
        exact (Finset.card_insert_le _ _).trans (Nat.succ_le_succ hkept)
      few := hevicts.eq_nil }⟩

/-- **A start clears the lowest ranked of the pending logins over four**, and nothing else; it
reads every cookie that nobody forged. -/
theorem pending_cookie_eviction (py : Platform) (scope : Scope) (draws : LoginDraws)
    (returnTo : Option Str) :
    (∀ es answer, Path (SignIn.start py scope draws returnTo) es (.ok answer) →
      ∃ config cleared, webAuthConfig scope = .ok config ∧
        Clears py scope config.value cleared answer.cookies) ∧
    ∀ config : WebAuthConfig, (∃ cleared, pendingLoginCookiesToEvict py scope config = .ok cleared) ∨
      ∃ cookie ∈ cookiePairs py scope,
        isPendingLoginCookieName config.cookieSecure cookie.1 = true ∧
        ∀ history, ¬Unforged py config.signingKey history cookie.2 := by
  constructor
  · intro es answer h
    have hrun := start_path py h
    generalize hr : (.ok answer : Except Exn Response) = r at hrun
    cases hrun with
    | withoutParty e => cases hr
    | withoutConfig rp e hconfig => cases hr
    | withoutClock rp config e hconfig => cases hr
    | started rp config reading hconfig =>
      unfold startedAt at hr
      cases hquery : urlencode (rp.authorizationParameters py (draws.pendingLogin reading)) with
      | none =>
        rw [hquery] at hr
        cases hr
      | some query =>
        rw [hquery] at hr
        change _ = (beginPendingLogin py scope { status := 303 } _ _ _).bind _ at hr
        cases hbegin : beginPendingLogin py scope { status := 303 }
            { draws.pendingLogin reading with returnTo := sameAppPath scope returnTo }
            pendingLoginMaxAgeSeconds config.value with
        | error e =>
          rw [hbegin] at hr
          cases hr
        | ok carrier =>
          rw [hbegin] at hr
          obtain rfl := Except.ok.inj hr
          have hmaxAge : (0 : ℤ) < pendingLoginMaxAgeSeconds := by decide
          obtain ⟨cleared, hclears⟩ := clears_of_begin rfl hmaxAge hbegin
          exact ⟨config, cleared, hconfig, hclears⟩
  · intro config
    rcases pendingLoginCookiesToEvict_evicts py scope config with
      ⟨cleared, hcleared, -⟩ | ⟨e, -, hforged⟩
    · exact .inl ⟨cleared, hcleared⟩
    · exact .inr hforged

end Start

/-! ## A start -/

/-- The name of a pending login's cookie that ends in a digit. -/
def crowdedName (n : ℕ) : Str := str "__Host-oidc_pending_000000000000000" ++ decimal n

/-- The value of a login that began at a second, and a signature of zeros. -/
def crowdedValue (issuedAt : ℕ) : Str :=
  join (chr '.') [pendingLoginVersion, List.replicate 43 (chr 'a'), List.replicate 43 (chr 'b'),
    List.replicate 43 (chr 'c'), decimal issuedAt, [], List.replicate 64 (chr '0')]

/-- Six pending logins: one that does not verify, and five of different seconds. -/
def crowdedCookies : List (Str × Str) :=
  [(crowdedName 1, crowdedValue 30), (crowdedName 2, crowdedValue 20), (crowdedName 3, str "x"),
    (crowdedName 4, crowdedValue 10), (crowdedName 5, crowdedValue 50),
    (crowdedName 6, crowdedValue 40)]

/-- The surroundings in which a browser carries these. -/
def crowdedPlatform : Platform :=
  { demoPlatform with
    hmacSha256 := fun _ _ => List.replicate 32 0
    cookieParser := fun _ => crowdedCookies }

/-- A request of that browser. -/
def crowdedScope : Scope := { codecScope with app := some ⟨0, some ⟨0, demoConfig⟩⟩ }

/-- A host with a relying party at the second 60. -/
def startingHost : Unit → (c : HostCall) → Except Exn c.Answer × Unit
  | _, .relyingParty _ => (.ok demoRelyingParty, ())
  | _, .wallClock => (.ok 60, ())
  | _, _ => (.error (.host 0), ())

/-- What the start does with that request. -/
def crowdedStart : List HostEvent × Except Exn Response :=
  play startingHost (SignIn.start crowdedPlatform crowdedScope codecDraws none) ()

theorem pending_cookie_eviction_of_start : ∃ answer cleared, crowdedStart.2 = .ok answer ∧
    cleared.length = 2 ∧
    Clears crowdedPlatform crowdedScope demoConfig cleared answer.cookies := by
  have hpath : Path (SignIn.start crowdedPlatform crowdedScope codecDraws none) crowdedStart.1
      crowdedStart.2 := by
    unfold crowdedStart
    exact path_play (I := hostCalls) startingHost _ ()
  have hstarted : crowdedStart.2.toOption.isSome = true := by decide +kernel
  have hcarried : (pendingNames demoConfig.cookieSecure
      (cookiePairs crowdedPlatform crowdedScope)).card = 6 := by decide +kernel
  cases hstart : crowdedStart.2 with
  | error e =>
    rw [hstart] at hstarted
    cases hstarted
  | ok answer =>
    rw [hstart] at hpath
    obtain ⟨config, cleared, hconfig, hclears⟩ :=
      (pending_cookie_eviction crowdedPlatform crowdedScope codecDraws none).1 _ _ hpath
    obtain rfl : (⟨0, demoConfig⟩ : Ref WebAuthConfig) = config := Except.ok.inj hconfig
    refine ⟨answer, cleared, rfl, ?_, hclears⟩
    rw [hclears.evicts.count, hcarried]

end WebAuth
