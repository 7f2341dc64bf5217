import WebAuth.PendingCookies
import WebAuth.Python.CookieValue
import WebAuth.SessionLifetimeRuns

/-!
# Reading the session cookie

The reader answers an id only for the one cookie of the session's name, and only for the value that
the signer wrote for it. An id of cookie octets comes back from the cookie that was set for it.
-/

namespace WebAuth

open Python

/-! ## Cookies on the wire -/

/-- `cookie_parser` of one chunk. -/
def parsedChunk (py : Platform) (chunk : Str) : List (Str × Str) :=
  let parts := match partition (chr '=') chunk with
    | (name, some value) => (strip py name, strip py value)
    | (_, none) => ([], strip py chunk)
  if parts.1 = [] && parts.2 = [] then [] else [(parts.1, unquoteCookie parts.2)]

/-- What Starlette documents of its parser, and Python of `str.isspace`. -/
structure ParsesCookies (py : Platform) : Prop where
  parser : ∀ chunk, chr ';' ∉ chunk → py.cookieParser chunk = parsedChunk py chunk
  space : py.isSpace (chr ' ') = true
  visible : ∀ c, isVisible c = true → py.isSpace c = false

/-- The chunks of the `Cookie` lines. -/
def cookieChunks (scope : Scope) : List Str :=
  split (chr ';') ((str "; ").intercalate (scope.getlist (str "cookie")))

/-- A cookie as a browser sends it back. -/
def sentBack (cookie : SetCookie) : Str := cookie.name ++ chr '=' :: quoteCookie cookie.value

/-- A request that carries a cookie back, and no other of its name. -/
def CarriesBack (py : Platform) (scope : Scope) (cookie : SetCookie) : Prop :=
  ∃ before after pad, cookieChunks scope = before ++ (pad ++ sentBack cookie) :: after ∧
    (pad = [] ∨ pad = [chr ' ']) ∧
    ∀ chunk ∈ before ++ after, ∀ pair ∈ py.cookieParser chunk, pair.1 ≠ cookie.name

/-- A cookie octet of RFC 6265. -/
def isCookieOctet (c : CodePoint) : Bool := isVisible c && !isOneOf "\",;\\" c

section Wire

variable {py : Platform} {scope : Scope} {s : Str}

theorem isText_getlist {name : Str} : ∀ line ∈ scope.getlist name, IsText line := by
  intro line hline c hc
  obtain ⟨header, -, rfl⟩ := List.mem_map.1 hline
  obtain ⟨b, -, rfl⟩ := List.mem_map.1 hc
  have hb := b.toNat_lt
  show isSurrogate b.toNat = false
  simp [isSurrogate]
  omega

theorem isText_intercalate {sep : Str} {lines : List Str} (hsep : IsText sep)
    (h : ∀ line ∈ lines, IsText line) : IsText (sep.intercalate lines) := by
  induction lines with
  | nil => simp [IsText, List.intercalate]
  | cons line lines ih =>
    obtain ⟨hline, hlines⟩ := List.forall_mem_cons.1 h
    cases lines with
    | nil => simpa [List.intercalate] using hline
    | cons next lines =>
      rw [List.intercalate_cons_cons]
      exact (hline.append hsep).append (ih hlines)

theorem isText_strip (h : IsText s) : IsText (strip py s) := by
  intro c hc
  exact h c ((List.dropWhile_sublist _).subset (List.rdropWhile_prefix _ _ |>.subset hc))

/-- The cookies of a request are texts. -/
theorem isText_cookiePairs (hcookies : ParsesCookies py) :
    ∀ pair ∈ cookiePairs py scope, IsText pair.2 := by
  intro pair hpair
  obtain ⟨chunk, hchunk, hpair⟩ := List.mem_flatMap.1 hpair
  have hseparator : chr ';' ∉ chunk := fun hmem => (of_mem_split hchunk hmem).2 rfl
  have hspaces : IsText (str "; ") := isText_of_isAscii (by decide)
  have htext : IsText chunk := fun c hc =>
    isText_intercalate hspaces isText_getlist c (of_mem_split hchunk hc).1
  rw [hcookies.parser chunk hseparator, parsedChunk] at hpair
  split_ifs at hpair
  · cases hpair
  · obtain rfl := List.mem_singleton.1 hpair
    refine isText_unquoteCookie ?_
    cases hparts : partition (chr '=') chunk with
    | mk name value =>
      cases value with
      | none => exact isText_strip htext
      | some value =>
        obtain ⟨rfl, -⟩ := partition_eq_some hparts
        exact isText_strip fun c hc => htext c (List.mem_append_right _ (List.mem_cons_of_mem _ hc))

theorem strip_of_visible (hcookies : ParsesCookies py) (h : ∀ c ∈ s, isVisible c = true) :
    strip py s = s := by
  have hspace : ∀ c ∈ s, py.isSpace c = false := fun c hc => hcookies.visible c (h c hc)
  have hstart : s.dropWhile py.isSpace = s := by
    cases s with
    | nil => rfl
    | cons c s => exact List.dropWhile_cons_of_neg (by simp [hspace c List.mem_cons_self])
  unfold strip
  rw [hstart, List.rdropWhile_eq_self_iff]
  intro hne
  rw [hspace _ (List.getLast_mem hne)]
  simp

theorem strip_padded (hcookies : ParsesCookies py) (h : ∀ c ∈ s, isVisible c = true) {pad : Str}
    (hpad : pad = [] ∨ pad = [chr ' ']) : strip py (pad ++ s) = s := by
  rcases hpad with rfl | rfl
  · exact strip_of_visible hcookies h
  · show ((chr ' ' :: s).dropWhile py.isSpace).rdropWhile py.isSpace = s
    rw [List.dropWhile_cons_of_pos hcookies.space]
    exact strip_of_visible hcookies h

theorem isCookieOctet_facts {c : CodePoint} (h : isCookieOctet c = true) : isVisible c = true ∧
    c ≠ chr ';' ∧ escapeCookieChar c = [c] := by
  have hlow : ∀ n, (hn : n < 128) → isCookieOctet ⟨n, by omega⟩ = true →
      (⟨n, by omega⟩ : CodePoint) ≠ chr ';' ∧
        escapeCookieChar ⟨n, by omega⟩ = [⟨n, by omega⟩] := by decide +kernel
  have hvisible : isVisible c = true := by
    rw [isCookieOctet, Bool.and_eq_true] at h
    exact h.1
  have hlt : c.val < 128 := by
    simp only [isVisible, Bool.and_eq_true, decide_eq_true_eq] at hvisible
    omega
  exact ⟨hvisible, hlow c.val hlt h⟩

/-- A value of cookie octets is sent as visible characters of one chunk. -/
theorem quoteCookie_facts (h : s.all isCookieOctet = true) : ∀ c ∈ quoteCookie s,
    isVisible c = true ∧ c ≠ chr ';' := by
  have hoctet : ∀ c ∈ s, isVisible c = true ∧ c ≠ chr ';' := fun c hc =>
    ⟨(isCookieOctet_facts (List.all_eq_true.1 h c hc)).1,
      (isCookieOctet_facts (List.all_eq_true.1 h c hc)).2.1⟩
  have hplain : s.flatMap escapeCookieChar = s := by
    rw [List.flatMap_congr fun c hc => (isCookieOctet_facts (List.all_eq_true.1 h c hc)).2.2]
    simp
  have hmark : isVisible (chr '\"') = true ∧ chr '\"' ≠ chr ';' := by decide
  unfold quoteCookie
  rw [hplain]
  split_ifs
  · exact hoctet
  · intro c hc
    rw [List.cons_append, List.mem_cons, List.mem_append, List.mem_singleton] at hc
    rcases hc with rfl | hc | rfl
    · exact hmark
    · exact hoctet c hc
    · exact hmark

/-- A cookie of octets is read as it was set. -/
theorem cookieParser_sentBack (hcookies : ParsesCookies py) {cookie : SetCookie}
    (hname : ∀ c ∈ cookie.name, isVisible c = true ∧ c ≠ chr ';' ∧ c ≠ chr '=')
    (hnonempty : cookie.name ≠ []) (hvalue : cookie.value.all isCookieOctet = true) {pad : Str}
    (hpad : pad = [] ∨ pad = [chr ' ']) :
    py.cookieParser (pad ++ sentBack cookie) = [(cookie.name, cookie.value)] := by
  have hquoted := quoteCookie_facts hvalue
  have hpadding : chr ';' ∉ pad ∧ chr '=' ∉ pad := by
    rcases hpad with rfl | rfl
    · decide
    · decide
  have hseparator : chr ';' ∉ pad ++ sentBack cookie := by
    rw [sentBack, List.mem_append, List.mem_append, List.mem_cons]
    rintro (h | h | h | h)
    · exact hpadding.1 h
    · exact (hname _ h).2.1 rfl
    · exact absurd h (by decide)
    · exact (hquoted _ h).2 rfl
  have hequals : chr '=' ∉ pad ++ cookie.name := by
    rw [List.mem_append]
    rintro (h | h)
    · exact hpadding.2 h
    · exact (hname _ h).2.2 rfl
  rw [hcookies.parser _ hseparator, parsedChunk, sentBack, ← List.append_assoc,
    partition_append hequals]
  have hstripped := strip_padded hcookies (fun c hc => (hname c hc).1) hpad
  have hkept := strip_of_visible hcookies (fun c hc => (hquoted c hc).1)
  simp [hstripped, hkept, hnonempty, unquoteCookie_quoteCookie]

/-- What a cookie carried back is read as. -/
theorem cookieValues_of_carriesBack (hcookies : ParsesCookies py) {cookie : SetCookie}
    (hname : ∀ c ∈ cookie.name, isVisible c = true ∧ c ≠ chr ';' ∧ c ≠ chr '=')
    (hnonempty : cookie.name ≠ []) (hvalue : cookie.value.all isCookieOctet = true)
    (h : CarriesBack py scope cookie) :
    cookieValues py scope cookie.name = [cookie.value] := by
  obtain ⟨before, after, pad, hchunks, hpad, hothers⟩ := h
  have hpairs : cookiePairs py scope = before.flatMap py.cookieParser ++
      (cookie.name, cookie.value) :: after.flatMap py.cookieParser := by
    show (cookieChunks scope).flatMap py.cookieParser = _
    rw [hchunks, List.flatMap_append, List.flatMap_cons,
      cookieParser_sentBack hcookies hname hnonempty hvalue hpad]
    rfl
  have hnone : ∀ chunks : List Str, (∀ chunk ∈ chunks, chunk ∈ before ++ after) →
      (chunks.flatMap py.cookieParser).filter (fun pair => pair.1 = cookie.name) = [] := by
    intro chunks hsub
    rw [List.filter_eq_nil_iff]
    intro pair hpair
    obtain ⟨chunk, hchunk, hpair⟩ := List.mem_flatMap.1 hpair
    simpa using hothers chunk (hsub chunk hchunk) pair hpair
  unfold cookieValues
  rw [hpairs, List.filter_append, List.filter_cons_of_pos (by simp),
    hnone before fun chunk hchunk => List.mem_append_left _ hchunk,
    hnone after fun chunk hchunk => List.mem_append_right _ hchunk]
  rfl

end Wire

/-! ## The signer and the reader -/

section Reader

variable {py : Platform} {secret : Bytes} {scope : Scope} {config : WebAuthConfig}
  {sessionId sig value : Str}

theorem encoded_eq_ok {s : Str} (h : IsText s) : ∃ bytes, encoded s = .ok bytes := by
  obtain ⟨bytes, hbytes⟩ := Option.isSome_iff_exists.1 (encode_isSome.2 h)
  exact ⟨bytes, by rw [encoded, hbytes]; rfl⟩

theorem signature_of_isText {start text : Str} (hstart : IsText start) (htext : IsText text) :
    ∃ sig, signature py start text secret = .ok sig := by
  obtain ⟨bytes, hbytes⟩ := Option.isSome_iff_exists.1 (encode_isSome.2 (hstart.append htext))
  exact ⟨_, signature_eq_ok.2 ⟨bytes, hbytes, rfl⟩⟩

theorem isText_signature {start text : Str} (h : signature py start text secret = .ok sig) :
    IsText sig := by
  obtain ⟨bytes, -, rfl⟩ := signature_eq_ok.1 h
  have hhex : ∀ c, isHexDigit c = true → c.isAscii = true := by
    intro c hc
    have hf : ('f').toNat = 102 := rfl
    have h9 : ('9').toNat = 57 := rfl
    simp only [isHexDigit, isDigit, CodePoint.between, Bool.or_eq_true, Bool.and_eq_true,
      decide_eq_true_eq] at hc
    exact decide_eq_true (show c.val < 128 by omega)
  exact isText_of_isAscii (isAscii_of_all hhex (hex_all _))

theorem isText_sessionPrefix : IsText (str "session:") := isText_of_isAscii (by decide)

/-- The check of a text ends. -/
theorem verifySessionCookie_ends (htext : IsText value) :
    ∃ read, verifySessionCookie py value secret = .ok read := by
  unfold verifySessionCookie
  cases hparts : rpartition (chr '.') value with
  | none => exact ⟨none, rfl⟩
  | some parts =>
    obtain ⟨sessionId, given⟩ := parts
    obtain ⟨rfl, -⟩ := rpartition_eq_some hparts
    have hid : IsText sessionId := fun c hc => htext c (List.mem_append_left _ hc)
    have hgiven : IsText given := fun c hc =>
      htext c (List.mem_append_right _ (List.mem_cons_of_mem _ hc))
    obtain ⟨expected, hexpected⟩ := @signature_of_isText py secret _ _ isText_sessionPrefix hid
    obtain ⟨givenBytes, hgiven⟩ := encoded_eq_ok hgiven
    obtain ⟨made, hmade⟩ := encoded_eq_ok (isText_signature hexpected)
    dsimp only
    split_ifs
    · exact ⟨none, rfl⟩
    · change sessionSignature py sessionId secret = _ at hexpected
      rw [hexpected]
      show ∃ read, ((encoded given).bind fun given => (encoded expected).bind fun made =>
        .ok (if given = made then some sessionId else none) : Except Exn (Option Str)) = .ok read
      rw [hgiven]
      show ∃ read, ((encoded expected).bind fun made =>
        .ok (if givenBytes = made then some sessionId else none) : Except Exn (Option Str)) = .ok read
      rw [hmade]
      exact ⟨_, rfl⟩

/-- An id with its signature is accepted. -/
theorem verifySessionCookie_of_signed (hmac : HmacDigests py) (hne : sessionId ≠ [])
    (hsig : sessionSignature py sessionId secret = .ok sig) :
    verifySessionCookie py (sessionId ++ chr '.' :: sig) secret = .ok (some sessionId) := by
  have hsigned : sig ≠ [] := by
    rintro rfl
    exact absurd (signature_length hmac hsig) (by decide)
  obtain ⟨bytes, hbytes⟩ := encoded_eq_ok (isText_signature hsig)
  unfold verifySessionCookie
  rw [rpartition_append (point_not_mem_signature hsig)]
  dsimp only
  rw [if_neg (by simp [hne, hsigned]), hsig]
  show ((encoded sig).bind fun given => (encoded sig).bind fun made =>
    .ok (if given = made then some sessionId else none) : Except Exn (Option Str)) = _
  rw [hbytes]
  show Except.ok (if bytes = bytes then some sessionId else none) = _
  rw [if_pos rfl]

/-- The signed form of an id is signed, unless it is empty or too long. -/
theorem signSessionId_of_signature (hsig : sessionSignature py sessionId secret = .ok sig) :
    (∃ e, signSessionId py sessionId secret = .error e) ↔
      sessionId = [] ∨ maxSessionCookieChars < (sessionId ++ chr '.' :: sig).length := by
  constructor
  · rintro ⟨e, he⟩
    by_contra hfits
    rw [not_or, not_lt] at hfits
    rw [signSessionId_eq_ok.2 ⟨hfits.1, sig, hsig, rfl, hfits.2⟩] at he
    cases he
  · intro hrefused
    cases hsigned : signSessionId py sessionId secret with
    | error e => exact ⟨e, rfl⟩
    | ok value =>
      obtain ⟨hne, sig', hsig', rfl, hlength⟩ := signSessionId_eq_ok.1 hsigned
      obtain rfl := Except.ok.inj (hsig.symm.trans hsig')
      rcases hrefused with hempty | hlong
      · exact absurd hempty hne
      · exact absurd hlength (not_le.2 hlong)

/-! ## The reader -/

/-- What the reader answers to a request. -/
structure ReadsSession (py : Platform) (scope : Scope) (config : WebAuthConfig)
    (reading : Except ConnectionRefusal Str) : Prop where
  /-- An id, exactly when one cookie bears the name and holds what the signer wrote for the id. -/
  named : ∀ sessionId, reading = .ok sessionId ↔
    ∃ value, cookieValues py scope config.sessionCookieName = [value] ∧
      signSessionId py sessionId config.signingKey = .ok value
  /-- No session, exactly when the value is missing, empty or too long. -/
  missing : reading = .error .noSession ↔
    cookieValues py scope config.sessionCookieName = [] ∨
    ∃ value, cookieValues py scope config.sessionCookieName = [value] ∧
      (value = [] ∨ maxSessionCookieChars < value.length)
  /-- An invalid session in every other case. -/
  invalid : reading = .error .invalidSession ↔
    2 ≤ (cookieValues py scope config.sessionCookieName).length ∨
    ∃ value, cookieValues py scope config.sessionCookieName = [value] ∧ value ≠ [] ∧
      value.length ≤ maxSessionCookieChars ∧
      ∀ sessionId, signSessionId py sessionId config.signingKey ≠ .ok value

theorem reads_none (h : cookieValues py scope config.sessionCookieName = []) :
    ReadsSession py scope config (.error .noSession) := by
  constructor
  case named => simp [h]
  case missing => simp [h]
  case invalid => simp [h]

theorem reads_many (h : 2 ≤ (cookieValues py scope config.sessionCookieName).length) :
    ReadsSession py scope config (.error .invalidSession) := by
  have hno : ∀ value, cookieValues py scope config.sessionCookieName ≠ [value] := by
    intro value heq
    rw [heq] at h
    exact absurd h (by simp)
  have hempty : cookieValues py scope config.sessionCookieName ≠ [] := by
    intro heq
    rw [heq] at h
    exact absurd h (by simp)
  constructor
  case named => simp [hno]
  case missing => simp [hno, hempty]
  case invalid => simp [h]

theorem reads_one (h : cookieValues py scope config.sessionCookieName = [value])
    {reading : Except ConnectionRefusal Str}
    (named : ∀ sessionId, reading = .ok sessionId ↔
      signSessionId py sessionId config.signingKey = .ok value)
    (missing : reading = .error .noSession ↔ value = [] ∨ maxSessionCookieChars < value.length)
    (invalid : reading = .error .invalidSession ↔ value ≠ [] ∧
      value.length ≤ maxSessionCookieChars ∧
      ∀ sessionId, signSessionId py sessionId config.signingKey ≠ .ok value) :
    ReadsSession py scope config reading := by
  constructor
  case named => simp [h, named]
  case missing => simp [h, missing]
  case invalid => simp [h, invalid]

theorem signSessionId_bounds (h : signSessionId py sessionId secret = .ok value) :
    value ≠ [] ∧ value.length ≤ maxSessionCookieChars := by
  obtain ⟨-, sig, -, rfl, hlength⟩ := signSessionId_eq_ok.1 h
  exact ⟨by simp, hlength⟩

/-- The reader of one cookie. -/
theorem readSessionCookie_one (hmac : HmacDigests py) (htext : IsText value)
    (h : cookieValues py scope config.sessionCookieName = [value]) :
    ∃ reading, readSessionCookie py scope config = .ok reading ∧
      ReadsSession py scope config reading := by
  unfold readSessionCookie
  rw [h]
  dsimp only
  split_ifs with hbounds
  · rw [Bool.or_eq_true, decide_eq_true_eq, decide_eq_true_eq] at hbounds
    have hunsigned : ∀ sessionId, signSessionId py sessionId config.signingKey ≠ .ok value := by
      intro sessionId hsigned
      obtain ⟨hne, hle⟩ := signSessionId_bounds hsigned
      exact hbounds.elim hne (not_lt.2 hle)
    refine ⟨_, rfl, reads_one h ?_ ?_ ?_⟩
    · simp [hunsigned]
    · simpa using hbounds
    · refine iff_of_false (by simp) fun ⟨hne, hle, _⟩ => hbounds.elim hne (not_lt.2 hle)
  · rw [Bool.or_eq_true, decide_eq_true_eq, decide_eq_true_eq, not_or, not_lt] at hbounds
    have hmissing : ¬(value = [] ∨ maxSessionCookieChars < value.length) := fun hor =>
      hor.elim hbounds.1 (not_lt.2 hbounds.2)
    obtain ⟨read, hread⟩ := @verifySessionCookie_ends py config.signingKey value htext
    have hsigned : ∀ sessionId, signSessionId py sessionId config.signingKey = .ok value →
        read = some sessionId := by
      intro sessionId hsign
      obtain ⟨hne, sig, hsig, rfl, -⟩ := signSessionId_eq_ok.1 hsign
      rw [verifySessionCookie_of_signed hmac hne hsig] at hread
      exact (Except.ok.inj hread).symm
    rw [hread]
    cases read with
    | none =>
      have hunsigned : ∀ sessionId, signSessionId py sessionId config.signingKey ≠ .ok value :=
        fun sessionId hsign => by cases hsigned sessionId hsign
      refine ⟨_, rfl, reads_one h ?_ ?_ ?_⟩
      · simp [hunsigned]
      · exact iff_of_false (by simp) hmissing
      · exact iff_of_true rfl ⟨hbounds.1, hbounds.2, hunsigned⟩
    | some named =>
      obtain ⟨hne, sig, hsig, hvalue⟩ := of_verifySessionCookie hread
      have hsign : signSessionId py named config.signingKey = .ok value :=
        signSessionId_eq_ok.2 ⟨hne, sig, hsig, hvalue, hbounds.2⟩
      refine ⟨_, rfl, reads_one h (fun sessionId => ?_) ?_ ?_⟩
      · constructor
        · intro heq
          rwa [← Except.ok.inj heq]
        · intro hsign'
          rw [Option.some.inj (hsigned sessionId hsign')]
      · exact iff_of_false (by simp) hmissing
      · exact iff_of_false (by simp) fun ⟨_, _, hunsigned⟩ => hunsigned named hsign

/-- The reader of any cookies. -/
theorem readSessionCookie_reads (hmac : HmacDigests py) (hcookies : ParsesCookies py)
    (scope : Scope) (config : WebAuthConfig) :
    ∃ reading, readSessionCookie py scope config = .ok reading ∧
      ReadsSession py scope config reading := by
  rcases hvalues : cookieValues py scope config.sessionCookieName with _ | ⟨value, rest⟩
  · refine ⟨.error .noSession, ?_, reads_none hvalues⟩
    unfold readSessionCookie
    rw [hvalues]
  · cases rest with
    | nil =>
      have hmem : value ∈ cookieValues py scope config.sessionCookieName := by
        rw [hvalues]
        exact List.mem_cons_self
      obtain ⟨pair, hpair, rfl⟩ := List.mem_map.1 hmem
      exact readSessionCookie_one hmac
        (isText_cookiePairs hcookies pair (List.mem_of_mem_filter hpair)) hvalues
    | cons next rest =>
      refine ⟨.error .invalidSession, ?_, reads_many (by rw [hvalues]; simp)⟩
      unfold readSessionCookie
      rw [hvalues]

/-- The reader refuses the signed form of just the ids that the signer refuses. -/
theorem readSessionCookie_signedForm (hmac : HmacDigests py) (hcookies : ParsesCookies py)
    (hsig : sessionSignature py sessionId config.signingKey = .ok sig)
    (h : cookieValues py scope config.sessionCookieName = [sessionId ++ chr '.' :: sig]) :
    (∃ refusal, readSessionCookie py scope config = .ok (.error refusal)) ↔
      sessionId = [] ∨ maxSessionCookieChars < (sessionId ++ chr '.' :: sig).length := by
  obtain ⟨reading, hread, hreads⟩ := readSessionCookie_reads hmac hcookies scope config
  rw [hread]
  constructor
  · rintro ⟨refusal, hrefusal⟩
    obtain rfl := Except.ok.inj hrefusal
    by_contra hfits
    rw [not_or, not_lt] at hfits
    have hnamed := (hreads.named sessionId).2
      ⟨_, h, signSessionId_eq_ok.2 ⟨hfits.1, sig, hsig, rfl, hfits.2⟩⟩
    cases hnamed
  · intro hrefused
    cases reading with
    | error refusal => exact ⟨refusal, rfl⟩
    | ok named =>
      obtain ⟨value, hvalue, hsign⟩ := (hreads.named named).1 rfl
      rw [h] at hvalue
      obtain rfl := List.singleton_injective hvalue
      obtain ⟨hne, sig', hsig', heq, hlength⟩ := signSessionId_eq_ok.1 hsign
      have hparts := rpartition_append (point_not_mem_signature hsig) sessionId
      rw [heq, rpartition_append (point_not_mem_signature hsig')] at hparts
      obtain ⟨rfl, -⟩ := Prod.mk.inj (Option.some.inj hparts)
      exact (hrefused.elim hne (not_lt.2 hlength)).elim

theorem sessionCookieName_facts (config : WebAuthConfig) : config.sessionCookieName ≠ [] ∧
    ∀ c ∈ config.sessionCookieName, isVisible c = true ∧ c ≠ chr ';' ∧ c ≠ chr '=' := by
  have hnames : ∀ secure, cookieName (str "session_id") secure ≠ [] ∧
      (cookieName (str "session_id") secure).all (fun c =>
        isVisible c && c ≠ chr ';' && c ≠ chr '=') = true := by decide
  obtain ⟨hne, hall⟩ := hnames config.cookieSecure
  refine ⟨hne, fun c hc => ?_⟩
  have hchar := List.all_eq_true.1 hall c hc
  simpa [and_assoc] using hchar

theorem isCookieOctet_signed (h : sessionId.all isCookieOctet = true)
    (hsign : signSessionId py sessionId secret = .ok value) :
    value.all isCookieOctet = true := by
  obtain ⟨-, sig, hsig, rfl, -⟩ := signSessionId_eq_ok.1 hsign
  obtain ⟨bytes, -, rfl⟩ := signature_eq_ok.1 hsig
  have hpoint : isCookieOctet (chr '.') = true := by decide
  have hdigit : ∀ n < 16, isCookieOctet (hexDigit n) = true := by decide +kernel
  have hhex : (hex (py.hmacSha256 secret bytes)).all isCookieOctet = true := by
    refine List.all_eq_true.2 fun c hc => ?_
    obtain ⟨x, -, hc⟩ := List.mem_flatMap.1 hc
    have hx := x.toNat_lt
    rcases List.mem_pair.1 hc with rfl | rfl
    · exact hdigit _ (by omega)
    · exact hdigit _ (by omega)
  rw [List.all_append, List.all_cons, h, hpoint, hhex]
  rfl

/-- **The session cookie.** Every request is read, an id is read only from the one cookie that the
signer wrote for it, the signer refuses what the reader would refuse, and an id of cookie octets
comes back from the cookie it was issued in. -/
theorem session_cookie_reading (hmac : HmacDigests py) (hcookies : ParsesCookies py)
    (config : WebAuthConfig) :
    (∀ scope, ∃ reading, readSessionCookie py scope config = .ok reading ∧
      ReadsSession py scope config reading) ∧
    (∀ sessionId sig, sessionSignature py sessionId config.signingKey = .ok sig →
      ((∃ e, signSessionId py sessionId config.signingKey = .error e) ↔
        sessionId = [] ∨ maxSessionCookieChars < (sessionId ++ chr '.' :: sig).length) ∧
      ∀ scope, cookieValues py scope config.sessionCookieName = [sessionId ++ chr '.' :: sig] →
        ((∃ refusal, readSessionCookie py scope config = .ok (.error refusal)) ↔
          sessionId = [] ∨ maxSessionCookieChars < (sessionId ++ chr '.' :: sig).length)) ∧
    ∀ (response : Response) sessionId value, sessionId.all isCookieOctet = true →
      signSessionId py sessionId config.signingKey = .ok value →
      ∃ answer cookie, issueSessionCookies py response sessionId config = .ok answer ∧
        answer.cookies = response.cookies ++ [cookie] ∧
        ∀ scope, CarriesBack py scope cookie →
          readSessionCookie py scope config = .ok (.ok sessionId) := by
  refine ⟨fun scope => readSessionCookie_reads hmac hcookies scope config,
    fun sessionId sig hsig => ⟨signSessionId_of_signature hsig, fun scope h =>
      readSessionCookie_signedForm hmac hcookies hsig h⟩,
    fun response sessionId value hoctets hsign => ?_⟩
  have hissue : issueSessionCookies py response sessionId config =
      .ok (response.setCookie (cookieOf config config.cookieSamesite config.sessionCookieName value
        config.sessionLifetime.absoluteMaxAgeSeconds)) := by
    unfold issueSessionCookies
    rw [hsign]
    rfl
  refine ⟨_, _, hissue, rfl, fun scope hback => ?_⟩
  obtain ⟨hne, hname⟩ := sessionCookieName_facts config
  obtain ⟨reading, hread, hreads⟩ := readSessionCookie_reads hmac hcookies scope config
  rw [hread, (hreads.named sessionId).2 ⟨value, cookieValues_of_carriesBack hcookies hname hne
    (isCookieOctet_signed hoctets hsign) hback, hsign⟩]

/-- The white space of `str.isspace`. -/
def isUnicodeSpace (c : CodePoint) : Bool :=
  (0x09 ≤ c.val && c.val ≤ 0x0d) || (0x1c ≤ c.val && c.val ≤ 0x20) || c.val = 0x85 ||
    c.val = 0xa0 || c.val = 0x1680 || (0x2000 ≤ c.val && c.val ≤ 0x200a) || c.val = 0x2028 ||
    c.val = 0x2029 || c.val = 0x202f || c.val = 0x205f || c.val = 0x3000

/-- HMAC-SHA256 of the session `s/1.2` under the key of the concrete runs. -/
def spacedPlatform : Platform :=
  { demoPlatform with
    isSpace := isUnicodeSpace
    hmacSha256 := fun key data =>
      if key = demoConfig.signingKey ∧ data = encodeLatin1 (str "session:s/1.2") then
        [80, 75, 250, 3, 163, 223, 148, 228, 111, 242, 148, 36, 196, 251, 60, 134,
          204, 65, 70, 18, 201, 226, 181, 172, 89, 57, 210, 5, 93, 165, 90, 152]
      else List.replicate 32 0 }

/-- Those surroundings with Starlette's parser. -/
def sessionPlatform : Platform :=
  { spacedPlatform with cookieParser := parsedChunk spacedPlatform }

theorem sessionPlatform_parses : ParsesCookies sessionPlatform where
  parser chunk _ := by
    have hspace : spacedPlatform.isSpace = sessionPlatform.isSpace := by
      unfold sessionPlatform
      rfl
    have hstrip : strip spacedPlatform = strip sessionPlatform := by
      funext s
      unfold strip
      rw [hspace]
    have hparser : sessionPlatform.cookieParser = parsedChunk spacedPlatform := by
      unfold sessionPlatform
      rfl
    rw [hparser]
    unfold parsedChunk
    rw [hstrip]
  space := by decide +kernel
  visible c hc := by
    simp only [isVisible, Bool.and_eq_true, decide_eq_true_eq] at hc
    show isUnicodeSpace c = false
    simp only [isUnicodeSpace, Bool.or_eq_false_iff, Bool.and_eq_false_iff,
      decide_eq_false_iff_not]
    omega

theorem sessionPlatform_digests : HmacDigests sessionPlatform := by
  intro key data
  change (if _ then _ else _ : Bytes).length = 32
  split_ifs
  · rfl
  · rfl

/-- The value of that session, which goes out in quotes. -/
def sessionValue : Str :=
  str "s/1.2.504bfa03a3df94e46ff29424c4fb3c86cc414612c9e2b5ac5939d2055da55a98"

/-- A request with another cookie, on two lines. -/
def sessionScope : Scope where
  type := str "http"
  app := none
  method := some (str "GET")
  path := str "/"
  rawPath := none
  rootPath := []
  queryString := []
  urlQuery := some []
  queryParams := []
  headers := [(encodeLatin1 (str "cookie"), encodeLatin1 (str "theme=dark; lang")),
    (encodeLatin1 (str "cookie"),
      encodeLatin1 (str "__Host-session_id=\"" ++ sessionValue ++ str "\"; a=b"))]

/-- That request to an app with a config. -/
def gatedScope : Scope := { sessionScope with app := some ⟨0, some ⟨0, demoConfig⟩⟩ }

theorem session_cookie_reading_of_two_lines :
    readSessionCookie sessionPlatform sessionScope demoConfig = .ok (.ok (str "s/1.2")) := by
  have hsign : signSessionId sessionPlatform (str "s/1.2") demoConfig.signingKey =
      .ok sessionValue := by decide +kernel
  obtain ⟨answer, cookie, hissue, hcookies, hback⟩ :=
    (session_cookie_reading sessionPlatform_digests sessionPlatform_parses demoConfig).2.2 {}
      (str "s/1.2") sessionValue (by decide) hsign
  have hcookie : cookie = cookieOf demoConfig .strict (str "__Host-session_id") sessionValue
      demoConfig.sessionLifetime.absoluteMaxAgeSeconds := by
    have hissued : issueSessionCookies sessionPlatform {} (str "s/1.2") demoConfig =
        .ok (Response.setCookie {} (cookieOf demoConfig .strict (str "__Host-session_id")
          sessionValue demoConfig.sessionLifetime.absoluteMaxAgeSeconds)) := by
      unfold issueSessionCookies
      rw [hsign]
      rfl
    rw [hissue] at hissued
    obtain rfl := Except.ok.inj hissued
    exact (List.singleton_injective hcookies).symm
  subst hcookie
  refine hback sessionScope ⟨[str "theme=dark", str " lang"], [str " a=b"], [chr ' '], ?_,
    .inr rfl, ?_⟩
  · decide +kernel
  · decide +kernel

end Reader

end WebAuth
