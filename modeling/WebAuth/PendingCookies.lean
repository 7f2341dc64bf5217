import WebAuth.KeySetCache
import WebAuth.LoginStart
import WebAuth.Python.Fields
import WebAuth.ReturnPaths

/-!
# The cookie of a pending login

A signed value reads back as the login it carries. Under a MAC that nobody forges, what reads back
was signed, and no value reads as a session cookie and as a pending login.
-/

namespace WebAuth

open Python Effects Program

/-! ## The payload -/

/-- What each field of `_PENDING_LOGIN_VALUE` asks. -/
structure PendingFields.IsShaped (fields : PendingFields) : Prop where
  state : isPendingSecret fields.state = true
  nonce : isPendingSecret fields.nonce = true
  codeVerifier : isPendingSecret fields.codeVerifier = true
  issuedAt : isIssuedAt fields.issuedAt = true
  returnTo : isReturnPathField fields.returnTo = true

/-- The fields as they stand in a payload. -/
def PendingFields.parts (fields : PendingFields) : List Str :=
  [pendingLoginVersion, fields.state, fields.nonce, fields.codeVerifier, fields.issuedAt,
    fields.returnTo]

section Payload

variable {fields : PendingFields} {payload : Str}

theorem point_not_mem {p : CodePoint → Bool} (hp : p (chr '.') = false) {s : Str}
    (h : s.all p = true) : chr '.' ∉ s := by
  intro hmem
  rw [List.all_eq_true.1 h _ hmem] at hp
  cases hp

theorem isPendingSecret_iff {s : Str} :
    isPendingSecret s = true ↔ s.length = 43 ∧ s.all isBase64Url = true := by
  rw [isPendingSecret, Bool.and_eq_true, decide_eq_true_eq]
  rfl

theorem isReturnPathField_iff {s : Str} :
    isReturnPathField s = true ↔ s.length ≤ 683 ∧ s.all isBase64Url = true := by
  rw [isReturnPathField, Bool.and_eq_true, decide_eq_true_eq]
  rfl

theorem isIssuedAt_facts {s : Str} (h : isIssuedAt s = true) :
    1 ≤ s.length ∧ s.length ≤ 12 ∧ s.all isDigit = true := by
  rw [isIssuedAt, Bool.or_eq_true, decide_eq_true_eq] at h
  rcases h with rfl | h
  · decide
  · simp only [Bool.and_eq_true, decide_eq_true_eq] at h
    obtain ⟨⟨hle, hall⟩, hhead⟩ := h
    refine ⟨?_, hle, hall⟩
    cases s with
    | nil => cases hhead
    | cons c s => simp

/-- No field of the shape holds the separator. -/
theorem PendingFields.IsShaped.point_not_mem_parts (h : fields.IsShaped) :
    ∀ part ∈ fields.parts, chr '.' ∉ part := by
  have hbase64 : isBase64Url (chr '.') = false := by decide
  have hdigit : isDigit (chr '.') = false := by decide
  intro part hpart
  simp only [PendingFields.parts, List.mem_cons, List.not_mem_nil, or_false] at hpart
  rcases hpart with rfl | rfl | rfl | rfl | rfl | rfl
  · decide
  · exact point_not_mem hbase64 (isPendingSecret_iff.1 h.state).2
  · exact point_not_mem hbase64 (isPendingSecret_iff.1 h.nonce).2
  · exact point_not_mem hbase64 (isPendingSecret_iff.1 h.codeVerifier).2
  · exact point_not_mem hdigit (isIssuedAt_facts h.issuedAt).2.2
  · exact point_not_mem hbase64 (isReturnPathField_iff.1 h.returnTo).2

/-- **The payloads of the shape** are the fields of it, joined. -/
theorem pendingLoginValue_eq_some : pendingLoginValue payload = some fields ↔
    payload = join (chr '.') fields.parts ∧ fields.IsShaped := by
  constructor
  · intro h
    unfold pendingLoginValue at h
    split at h
    · rename_i version state nonce codeVerifier issuedAt returnTo hsplit
      split_ifs at h with hshape
      obtain rfl := Option.some.inj h
      simp only [Bool.and_eq_true, decide_eq_true_eq] at hshape
      obtain ⟨⟨⟨⟨⟨rfl, hstate⟩, hnonce⟩, hverifier⟩, hissued⟩, hreturn⟩ := hshape
      refine ⟨?_, hstate, hnonce, hverifier, hissued, hreturn⟩
      have hjoin : join (chr '.') (split (chr '.') payload) = payload :=
        List.intercalate_splitOn (chr '.')
      rw [← hjoin, hsplit]
      rfl
    · cases h
  · rintro ⟨rfl, h⟩
    have hsplit := split_join (by simp [PendingFields.parts]) h.point_not_mem_parts
    unfold pendingLoginValue
    rw [hsplit]
    simp [PendingFields.parts, h.state, h.nonce, h.codeVerifier, h.issuedAt, h.returnTo]

theorem PendingFields.length_join : (join (chr '.') fields.parts).length =
    7 + fields.state.length + fields.nonce.length + fields.codeVerifier.length +
      fields.issuedAt.length + fields.returnTo.length := by
  have hversion : pendingLoginVersion.length = 2 := by decide
  unfold PendingFields.parts
  simp only [join_cons_cons, join_singleton, List.length_append, List.length_cons, hversion]
  omega

/-- A payload of the shape has at most 831 characters and at least 137. -/
theorem payload_bounds (h : pendingLoginValue payload = some fields) :
    137 ≤ payload.length ∧ payload.length ≤ 831 := by
  obtain ⟨rfl, hshape⟩ := pendingLoginValue_eq_some.1 h
  have hstate := (isPendingSecret_iff.1 hshape.state).1
  have hnonce := (isPendingSecret_iff.1 hshape.nonce).1
  have hverifier := (isPendingSecret_iff.1 hshape.codeVerifier).1
  have hissued := isIssuedAt_facts hshape.issuedAt
  have hreturn := (isReturnPathField_iff.1 hshape.returnTo).1
  rw [PendingFields.length_join]
  omega

theorem isAscii_of_all {p : CodePoint → Bool} (hp : ∀ c, p c = true → c.isAscii = true) {s : Str}
    (h : s.all p = true) : isAscii s = true :=
  List.all_eq_true.2 fun c hc => hp c (List.all_eq_true.1 h c hc)

theorem isAscii_digit {c : CodePoint} (h : isDigit c = true) : c.isAscii = true :=
  isAscii_base64Url (by simp [isBase64Url, isAlphaNum, h])

/-- A payload of the shape is ASCII. -/
theorem payload_isAscii (h : pendingLoginValue payload = some fields) : isAscii payload = true := by
  obtain ⟨rfl, hshape⟩ := pendingLoginValue_eq_some.1 h
  have hbase64 : ∀ {s : Str}, s.all isBase64Url = true → isAscii s = true :=
    isAscii_of_all fun _ => isAscii_base64Url
  have hissued := isAscii_of_all (fun _ => isAscii_digit) (isIssuedAt_facts hshape.issuedAt).2.2
  have hstate := hbase64 (isPendingSecret_iff.1 hshape.state).2
  have hnonce := hbase64 (isPendingSecret_iff.1 hshape.nonce).2
  have hverifier := hbase64 (isPendingSecret_iff.1 hshape.codeVerifier).2
  have hreturn := hbase64 (isReturnPathField_iff.1 hshape.returnTo).2
  have hversion : isAscii pendingLoginVersion = true := by decide
  have hpoint : (chr '.').isAscii = true := by decide
  unfold isAscii at hissued hstate hnonce hverifier hreturn hversion ⊢
  unfold PendingFields.parts
  simp only [join_cons_cons, join_singleton, List.all_append, List.all_cons, hissued, hstate,
    hnonce, hverifier, hreturn, hversion, hpoint, Bool.and_self]

end Payload

/-! ## What is signed -/

/-- A digest of SHA-256 has 32 bytes. -/
def HmacDigests (py : Platform) : Prop := ∀ key data, (py.hmacSha256 key data).length = 32

/-- The fields of a login, with its return path as the cookie spells it. -/
def PendingLogin.fields (pending : PendingLogin) (returnTo : Str) : PendingFields :=
  ⟨pending.state, pending.nonce, pending.codeVerifier, decimalInt pending.issuedAt, returnTo⟩

/-- The login a cookie carries: an empty return path is none. -/
def PendingLogin.carried (pending : PendingLogin) : PendingLogin :=
  { pending with returnTo := pending.returnTo.filter (· ≠ []) }

section Signing

variable {py : Platform} {secret : Bytes} {pending : PendingLogin} {value : Str}

theorem signature_eq_ok {start text sig : Str} : signature py start text secret = .ok sig ↔
    ∃ bytes, encode (start ++ text) = some bytes ∧ hex (py.hmacSha256 secret bytes) = sig := by
  unfold signature encoded orRaise
  cases encode (start ++ text) with
  | none => simp
  | some bytes => simp

variable (pending) in
theorem pendingLoginPayload_eq (returnTo : Str) :
    pendingLoginPayload pending returnTo = join (chr '.') (pending.fields returnTo).parts := rfl

/-- A login is signed when its fields have the shape. -/
theorem isShaped_of_payload {returnTo : Str}
    (h : (pendingLoginValue (pendingLoginPayload pending returnTo)).isSome = true) :
    (pending.fields returnTo).IsShaped := by
  obtain ⟨fields, hfields⟩ := Option.isSome_iff_exists.1 h
  obtain ⟨hjoin, hshape⟩ := pendingLoginValue_eq_some.1 hfields
  rw [pendingLoginPayload_eq] at hjoin
  have hsplit := split_join (by simp [PendingFields.parts]) hshape.point_not_mem_parts
  have hparts : (pending.fields returnTo).parts = fields.parts := by
    rw [← hsplit, ← hjoin]
    refine (split_join (by simp [PendingFields.parts]) ?_).symm
    refine not_mem_of_length_split (by simp [PendingFields.parts]) ?_
    rw [hjoin, hsplit]
    rfl
  have hsame : pending.fields returnTo = fields := by
    simp only [PendingFields.parts, List.cons.injEq] at hparts
    obtain ⟨-, hstate, hnonce, hverifier, hissued, hreturn, -⟩ := hparts
    exact PendingFields.mk.injEq _ _ _ _ _ _ _ _ _ _ ▸ ⟨hstate, hnonce, hverifier, hissued, hreturn⟩
  rw [hsame]
  exact hshape

theorem signPendingLogin_of_encoded {returnTo : Str}
    (h : encodedReturnTo pending.returnTo = .ok returnTo) :
    signPendingLogin py pending secret =
      if (pendingLoginValue (pendingLoginPayload pending returnTo)).isNone then
        .error (.valueError "the pending login does not fit the pending-login cookie")
      else (pendingLoginSignature py (pendingLoginPayload pending returnTo) secret).map
        fun sig => pendingLoginPayload pending returnTo ++ str "." ++ sig := by
  unfold signPendingLogin
  rw [h]
  rfl

/-- What `_sign_pending_login` answers. -/
theorem signPendingLogin_eq_ok : signPendingLogin py pending secret = .ok value ↔
    ∃ returnTo sig, encodedReturnTo pending.returnTo = .ok returnTo ∧
      (pending.fields returnTo).IsShaped ∧
      pendingLoginSignature py (pendingLoginPayload pending returnTo) secret = .ok sig ∧
      value = pendingLoginPayload pending returnTo ++ chr '.' :: sig := by
  have hpoint : ∀ s sig : Str, s ++ str "." ++ sig = s ++ chr '.' :: sig := by
    intro s sig
    rw [List.append_assoc]
    rfl
  constructor
  · intro h
    cases hreturn : encodedReturnTo pending.returnTo with
    | error e =>
      unfold signPendingLogin at h
      rw [hreturn] at h
      cases h
    | ok returnTo =>
      rw [signPendingLogin_of_encoded hreturn] at h
      split_ifs at h with hnone
      cases hsig : pendingLoginSignature py (pendingLoginPayload pending returnTo) secret with
      | error e =>
        rw [hsig] at h
        cases h
      | ok sig =>
        rw [hsig] at h
        refine ⟨returnTo, sig, rfl, isShaped_of_payload ?_, hsig, ?_⟩
        · simpa [Option.isSome_iff_ne_none] using hnone
        · exact (Except.ok.inj h).symm.trans (hpoint _ _)
  · rintro ⟨returnTo, sig, hreturn, hshape, hsig, rfl⟩
    have hfields := pendingLoginValue_eq_some.2 ⟨pendingLoginPayload_eq pending returnTo, hshape⟩
    rw [signPendingLogin_of_encoded hreturn, hfields, hsig]
    simp [Except.map, hpoint]

theorem encodedReturnTo_some {path field : Str} : encodedReturnTo (some path) = .ok field ↔
    ∃ bytes, encode path = some bytes ∧ stripPadding (urlsafeB64encode bytes) = field := by
  show (encoded path).map _ = _ ↔ _
  unfold encoded orRaise
  cases encode path with
  | none => simp [Except.map]
  | some bytes => simp [Except.map]

/-- The return path reads back, an empty one as none. -/
theorem decodedReturnTo_of_encoded {path : Option Str} {field : Str}
    (h : encodedReturnTo path = .ok field) :
    decodedReturnTo field = .ok (path.filter (· ≠ [])) := by
  cases path with
  | none =>
    obtain rfl := Except.ok.inj h
    rfl
  | some path =>
    obtain ⟨bytes, hbytes, rfl⟩ := encodedReturnTo_some.1 h
    by_cases hempty : path = []
    · obtain rfl : bytes = [] := by simpa [hempty, encode] using hbytes.symm
      rw [hempty]
      rfl
    · have hne : bytes ≠ [] := by
        rintro rfl
        exact hempty (encode_injective hbytes rfl)
      have hfield : stripPadding (urlsafeB64encode bytes) ≠ [] := by
        intro hnil
        have hlength := congrArg List.length hnil
        have hpos := List.length_pos_of_ne_nil hne
        rw [stripPadding_encode, unpadded_length, List.length_nil] at hlength
        omega
      unfold decodedReturnTo
      rw [if_neg hfield, urlsafeB64decode_padded]
      show (orRaise _ (decode strict bytes)).bind _ = _
      rw [decode_encode strict hbytes]
      simp [orRaise, hempty, Except.bind, pure, Except.pure, Option.filter]

theorem ofDecimal_decimalInt {n : ℤ} (h : isIssuedAt (decimalInt n) = true) :
    (ofDecimal (decimalInt n) : ℤ) = n := by
  have hdigits := (isIssuedAt_facts h).2.2
  unfold decimalInt at hdigits ⊢
  split_ifs at hdigits ⊢ with hneg
  · have hminus : (str "-").all isDigit = false := by decide
    rw [List.all_append, hminus] at hdigits
    cases hdigits
  · rw [ofDecimal_decimal]
    omega

theorem ofDecimal_lt {s : Str} (h : s.all isDigit = true) : ofDecimal s < 10 ^ s.length := by
  have hlength : (s.reverse.map fun c => c.val - ('0').toNat).length = s.length := by simp
  rw [ofDecimal, ← hlength]
  refine Nat.ofDigits_lt_base_pow_length (by decide) fun d hd => ?_
  obtain ⟨c, hc, rfl⟩ := List.mem_map.1 hd
  have hdigit := List.all_eq_true.1 h c (List.mem_reverse.1 hc)
  rw [isDigit, CodePoint.between, Bool.and_eq_true, decide_eq_true_eq, decide_eq_true_eq] at hdigit
  have hbounds : ('0').toNat = 48 ∧ ('9').toNat = 57 := by decide
  omega

/-- The second of a login that is signed is one a float can hold. -/
theorem fitsFloat_of_isIssuedAt {n : ℤ} (h : isIssuedAt (decimalInt n) = true) : FitsFloat n := by
  obtain ⟨-, hlength, hdigits⟩ := isIssuedAt_facts h
  have hsmall : ofDecimal (decimalInt n) < 10 ^ 12 :=
    (ofDecimal_lt hdigits).trans_le (Nat.pow_le_pow_right (by decide) hlength)
  have hbound : 10 ^ 12 < floatBound := by decide +kernel
  rw [← ofDecimal_decimalInt h]
  exact hsmall.trans hbound

/-- A login reads back from its fields. -/
theorem pendingLogin_of_fields {returnTo : Str}
    (hreturn : encodedReturnTo pending.returnTo = .ok returnTo)
    (hshape : (pending.fields returnTo).IsShaped) :
    (pending.fields returnTo).pendingLogin = .ok pending.carried := by
  have hissued : (ofDecimal (decimalInt pending.issuedAt) : ℤ) = pending.issuedAt :=
    ofDecimal_decimalInt hshape.issuedAt
  show (decodedReturnTo returnTo).bind (fun path => .ok (⟨pending.state, pending.nonce,
    pending.codeVerifier, ofDecimal (decimalInt pending.issuedAt), path⟩ : PendingLogin)) = _
  rw [decodedReturnTo_of_encoded hreturn, hissued]
  rfl

/-! ## Reading a value -/

variable {payload sig : Str} {fields : PendingFields}

theorem point_not_mem_signature {start text : Str} (h : signature py start text secret = .ok sig) :
    chr '.' ∉ sig := by
  obtain ⟨bytes, -, rfl⟩ := signature_eq_ok.1 h
  exact point_not_mem (by decide) (hex_all _)

theorem signature_length (hmac : HmacDigests py) {start text : Str}
    (h : signature py start text secret = .ok sig) : sig.length = 64 := by
  obtain ⟨bytes, -, rfl⟩ := signature_eq_ok.1 h
  rw [hex_length, hmac]

theorem isPendingLoginSignature_signature (hmac : HmacDigests py) {start text : Str}
    (h : signature py start text secret = .ok sig) : isPendingLoginSignature sig = true := by
  have hlength := signature_length hmac h
  obtain ⟨bytes, -, rfl⟩ := signature_eq_ok.1 h
  rw [isPendingLoginSignature, hex_all, hlength]
  rfl

/-- The signature of a payload of the shape can be computed. -/
theorem pendingLoginSignature_of_shape (h : pendingLoginValue payload = some fields) :
    ∃ sig, pendingLoginSignature py payload secret = .ok sig := by
  have hascii : isAscii (str "oidc-pending:" ++ payload) = true := by
    rw [isAscii_append, payload_isAscii h]
    decide
  exact ⟨_, signature_eq_ok.2 ⟨_, encode_of_isAscii hascii, rfl⟩⟩

/-- A signed payload of the shape is read. -/
theorem verifyPendingLogin_of_signed (hmac : HmacDigests py)
    (hfields : pendingLoginValue payload = some fields)
    (hsig : pendingLoginSignature py payload secret = .ok sig) :
    (payload ++ chr '.' :: sig).length ≤ 896 ∧
      verifyPendingLogin py (payload ++ chr '.' :: sig) secret = fields.pendingLogin.map some := by
  have hlength : (payload ++ chr '.' :: sig).length ≤ 896 := by
    have hpayload := payload_bounds hfields
    rw [List.length_append, List.length_cons, signature_length hmac hsig]
    omega
  refine ⟨hlength, ?_⟩
  unfold verifyPendingLogin
  rw [if_neg (show ¬maxPendingLoginCookieChars < _ by exact not_lt.2 hlength),
    rpartition_append (point_not_mem_signature hsig)]
  simp only [hfields, isPendingLoginSignature_signature hmac hsig, Bool.not_true,
    Bool.false_eq_true, if_false, hsig]
  show (if sig = sig then _ else _ : Except Exn (Option PendingLogin)) = _
  rw [if_pos rfl]
  cases fields.pendingLogin <;> rfl

variable (py secret) in
/-- What the reading of a value comes to: nothing, or the login of fields that the key signed. -/
theorem verifyPendingLogin_cases (value : Str) :
    verifyPendingLogin py value secret = .ok none ∨ ∃ payload sig fields,
      value = payload ++ chr '.' :: sig ∧ chr '.' ∉ sig ∧ pendingLoginValue payload = some fields ∧
      pendingLoginSignature py payload secret = .ok sig ∧
      verifyPendingLogin py value secret = fields.pendingLogin.map some := by
  unfold verifyPendingLogin
  split_ifs with hlong
  · exact .inl rfl
  cases hparts : rpartition (chr '.') value with
  | none => exact .inl rfl
  | some parts =>
    obtain ⟨payload, sig⟩ := parts
    dsimp only
    cases hfields : pendingLoginValue payload with
    | none => exact .inl rfl
    | some fields =>
      dsimp only
      split_ifs with hshape
      · exact .inl rfl
      obtain ⟨expected, hexpected⟩ := @pendingLoginSignature_of_shape py secret _ _ hfields
      obtain ⟨hvalue, hpoint⟩ := rpartition_eq_some hparts
      rw [hexpected]
      by_cases hsame : sig = expected
      · refine .inr ⟨payload, sig, fields, hvalue, hpoint, hfields, hsame ▸ hexpected, ?_⟩
        show (if sig = expected then _ else _ : Except Exn (Option PendingLogin)) = _
        rw [if_pos hsame]
        cases fields.pendingLogin <;> rfl
      · left
        show (if sig = expected then _ else _ : Except Exn (Option PendingLogin)) = _
        rw [if_neg hsame]
        rfl

/-! ## The session cookie -/

variable {sessionId : Str}

/-- A session cookie that verifies is the id with its signature. -/
theorem of_verifySessionCookie (h : verifySessionCookie py value secret = .ok (some sessionId)) :
    sessionId ≠ [] ∧ ∃ sig, sessionSignature py sessionId secret = .ok sig ∧
      value = sessionId ++ chr '.' :: sig := by
  unfold verifySessionCookie at h
  cases hparts : rpartition (chr '.') value with
  | none =>
    rw [hparts] at h
    cases h
  | some parts =>
    obtain ⟨id, sig⟩ := parts
    rw [hparts] at h
    dsimp only at h
    by_cases hempty : (id = [] || sig = []) = true
    · rw [if_pos hempty] at h
      cases h
    rw [if_neg hempty] at h
    simp only [Bool.or_eq_true, decide_eq_true_eq, not_or] at hempty
    cases hexpected : sessionSignature py id secret with
    | error e =>
      rw [hexpected] at h
      cases h
    | ok expected =>
      rw [hexpected] at h
      change (encoded sig).bind (fun given => (encoded expected).bind fun made =>
        .ok (if given = made then some id else none)) = _ at h
      unfold encoded orRaise at h
      cases hsig : encode sig with
      | none =>
        rw [hsig] at h
        cases h
      | some given =>
        cases hmade : encode expected with
        | none =>
          rw [hsig, hmade] at h
          cases h
        | some made =>
          rw [hsig, hmade] at h
          have hanswer := Except.ok.inj h
          by_cases hsame : given = made
          · rw [if_pos hsame] at hanswer
            obtain rfl := Option.some.inj hanswer
            subst hsame
            obtain rfl := encode_injective hsig hmade
            exact ⟨hempty.1, sig, hexpected, (rpartition_eq_some hparts).1⟩
          · rw [if_neg hsame] at hanswer
            cases hanswer

/-- What `sign_session_id` answers. -/
theorem signSessionId_eq_ok : signSessionId py sessionId secret = .ok value ↔ sessionId ≠ [] ∧
    ∃ sig, sessionSignature py sessionId secret = .ok sig ∧ value = sessionId ++ chr '.' :: sig ∧
      value.length ≤ 200 := by
  unfold signSessionId
  split_ifs with hempty
  · simp [hempty]
  · cases hsig : sessionSignature py sessionId secret with
    | error e =>
      constructor
      · intro h
        cases h
      · rintro ⟨-, sig, heq, -⟩
        cases heq
    | ok sig =>
      have hvalue : sessionId ++ str "." ++ sig = sessionId ++ chr '.' :: sig := by
        rw [List.append_assoc]
        rfl
      change (if 200 < (sessionId ++ str "." ++ sig).length then _ else _ : Except Exn Str) = _ ↔ _
      rw [hvalue]
      split_ifs with hlong
      · constructor
        · intro h
          cases h
        · rintro ⟨-, sig', heq, rfl, hle⟩
          obtain rfl := Except.ok.inj heq
          omega
      · constructor
        · intro h
          obtain rfl := Except.ok.inj h
          exact ⟨hempty, sig, rfl, rfl, not_lt.1 hlong⟩
        · rintro ⟨-, sig', heq, rfl, -⟩
          obtain rfl := Except.ok.inj heq
          rfl

end Signing

/-! ## A MAC nobody forges -/

/-- What the key signs. -/
inductive Signing where
  | session (sessionId : Str)
  | login (pending : PendingLogin)

/-- The value a signing answers. -/
def Signing.output (py : Platform) (secret : Bytes) : Signing → Except Exn Str
  | session sessionId => signSessionId py sessionId secret
  | login pending => signPendingLogin py pending secret

/-- The text whose MAC it computes. -/
def Signing.message : Signing → Except Exn Str
  | session sessionId => .ok (str "session:" ++ sessionId)
  | login pending => (encodedReturnTo pending.returnTo).map fun returnTo =>
      str "oidc-pending:" ++ pendingLoginPayload pending returnTo

/-- Nobody forged the signature of a value: where the key's MAC of what stands before it is the
signature, that text was signed before. -/
def Unforged (py : Platform) (secret : Bytes) (history : List Signing) (value : Str) : Prop :=
  ∀ start ∈ [str "session:", str "oidc-pending:"], ∀ text sig,
    value = text ++ chr '.' :: sig → chr '.' ∉ sig → signature py start text secret = .ok sig →
    ∃ signing ∈ history, (∃ output, signing.output py secret = .ok output) ∧
      signing.message = .ok (start ++ text)

section Unforged

variable {py : Platform} {secret : Bytes} {history : List Signing} {value : Str}

theorem session_ne_login (text text' : Str) :
    str "session:" ++ text ≠ str "oidc-pending:" ++ text' := by
  intro h
  have hhead : some (chr 's') = some (chr 'o') := congrArg List.head? h
  exact absurd (Option.some.inj hhead) (by decide)

theorem Unforged.of_login (h : Unforged py secret history value) {payload sig : Str}
    (hvalue : value = payload ++ chr '.' :: sig) (hpoint : chr '.' ∉ sig)
    (hsig : pendingLoginSignature py payload secret = .ok sig) :
    ∃ pending, .login pending ∈ history ∧
      ∃ returnTo, encodedReturnTo pending.returnTo = .ok returnTo ∧
      (pending.fields returnTo).IsShaped ∧ pendingLoginPayload pending returnTo = payload := by
  obtain ⟨signing, hmem, ⟨output, houtput⟩, hmessage⟩ :=
    h _ (List.mem_cons_of_mem _ List.mem_cons_self) payload sig hvalue hpoint hsig
  cases signing with
  | session sessionId =>
    exact (session_ne_login _ _ (Except.ok.inj hmessage)).elim
  | login pending =>
    obtain ⟨returnTo, sig', hreturn, hshape, -, -⟩ := signPendingLogin_eq_ok.1 houtput
    refine ⟨pending, hmem, returnTo, hreturn, hshape, ?_⟩
    rw [Signing.message, hreturn] at hmessage
    exact List.append_cancel_left (Except.ok.inj hmessage)

theorem Unforged.of_session (h : Unforged py secret history value) {sessionId sig : Str}
    (hvalue : value = sessionId ++ chr '.' :: sig) (hpoint : chr '.' ∉ sig)
    (hsig : sessionSignature py sessionId secret = .ok sig) :
    ∃ output, signSessionId py sessionId secret = .ok output := by
  obtain ⟨signing, hmem, ⟨output, houtput⟩, hmessage⟩ :=
    h _ List.mem_cons_self sessionId sig hvalue hpoint hsig
  cases signing with
  | session signed =>
    obtain rfl := List.append_cancel_left (Except.ok.inj hmessage)
    exact ⟨output, houtput⟩
  | login pending =>
    cases hreturn : encodedReturnTo pending.returnTo with
    | error e =>
      rw [Signing.message, hreturn] at hmessage
      cases hmessage
    | ok returnTo =>
      rw [Signing.message, hreturn] at hmessage
      exact (session_ne_login _ _ (Except.ok.inj hmessage).symm).elim

end Unforged

/-! ## What a start signs -/

section Minted

variable {py : Platform}

theorem isPendingSecret_tokenUrlsafe {drawn : Bytes} (h : drawn.length = pendingSecretBytes) :
    isPendingSecret (tokenUrlsafe drawn) = true := by
  refine isPendingSecret_iff.2 ⟨?_, ?_⟩
  · rw [tokenUrlsafe, stripPadding_encode, unpadded_length, h]
    rfl
  · rw [tokenUrlsafe, stripPadding_encode, unpadded_all]

theorem isIssuedAt_decimalInt {n : ℤ} (hle : 0 ≤ n) (hlt : n < 10 ^ 12) :
    isIssuedAt (decimalInt n) = true := by
  obtain ⟨k, rfl⟩ := Int.eq_ofNat_of_zero_le hle
  have hk : k < 10 ^ 12 := by exact_mod_cast hlt
  have hspell : decimalInt (k : ℤ) = decimal k := by
    rw [decimalInt, if_neg (by omega)]
    rfl
  rw [hspell]
  by_cases hzero : k = 0
  · rw [hzero]
    decide
  · obtain ⟨c, s, hdecimal, hc⟩ := decimal_head hzero
    have hlength := (decimal_length_le (by norm_num)).2 hk
    have hall := decimal_all k
    rw [hdecimal] at hlength hall ⊢
    unfold isIssuedAt
    rw [hall, decide_eq_true hlength]
    simp [hc]

/-- A reading in the span of the cookie is written in it. -/
theorem isIssuedAt_truncate {reading : ℚ} (hle : 0 ≤ reading) (hlt : reading < 10 ^ 12) :
    isIssuedAt (decimalInt (truncate reading)) = true := by
  rw [truncate, if_pos hle]
  refine isIssuedAt_decimalInt (Int.floor_nonneg.2 hle) (Int.floor_lt.2 ?_)
  exact_mod_cast hlt

/-- A kept return path fits its field. -/
theorem encodedReturnTo_sameAppPath (scope : Scope) (candidate : Option Str) :
    ∃ field, encodedReturnTo (sameAppPath scope candidate) = .ok field ∧
      isReturnPathField field = true := by
  cases hpath : sameAppPath scope candidate with
  | none => exact ⟨[], rfl, rfl⟩
  | some path =>
    obtain ⟨text, rfl⟩ : ∃ text, candidate = some text := by
      cases candidate with
      | none => cases hpath
      | some text => exact ⟨text, rfl⟩
    have hkept := sameAppPath_eq_some.1 hpath
    have hascii : isAscii path = true := List.all_eq_true.2 fun c hc => by
      have hvisible := hkept.visible c hc
      simp only [isVisible, Bool.and_eq_true, decide_eq_true_eq] at hvisible
      exact decide_eq_true (show c.val < 128 by omega)
    refine ⟨_, encodedReturnTo_some.2 ⟨_, encode_of_isAscii hascii, rfl⟩,
      isReturnPathField_iff.2 ⟨?_, ?_⟩⟩
    · have hlength := hkept.length
      rw [stripPadding_encode, unpadded_length, encodeLatin1, List.length_map]
      omega
    · rw [stripPadding_encode, unpadded_all]

/-- **Every login a start mints is signed**, wherever it returns to. -/
theorem signPendingLogin_minted (secret : Bytes) (draws : LoginDraws) {reading : ℚ}
    (hle : 0 ≤ reading) (hlt : reading < 10 ^ 12) (scope : Scope) (candidate : Option Str) :
    ∃ value, signPendingLogin py { draws.pendingLogin reading with
      returnTo := sameAppPath scope candidate } secret = .ok value := by
  obtain ⟨field, hfield, hshape⟩ := encodedReturnTo_sameAppPath scope candidate
  have hfields : (PendingLogin.fields { draws.pendingLogin reading with
      returnTo := sameAppPath scope candidate } field).IsShaped :=
    { state := isPendingSecret_tokenUrlsafe draws.state_length
      nonce := isPendingSecret_tokenUrlsafe draws.nonce_length
      codeVerifier := isPendingSecret_tokenUrlsafe draws.codeVerifier_length
      issuedAt := isIssuedAt_truncate hle hlt
      returnTo := hshape }
  obtain ⟨sig, hsig⟩ := @pendingLoginSignature_of_shape py secret _ _
    (pendingLoginValue_eq_some.2 ⟨pendingLoginPayload_eq _ field, hfields⟩)
  exact ⟨_, signPendingLogin_eq_ok.2 ⟨field, sig, hfield, hfields, hsig, rfl⟩⟩

end Minted

/-! ## The codec -/

section Codec

variable {py : Platform} {secret : Bytes} {pending : PendingLogin} {value : Str}

theorem PendingLogin.carried_of_nonempty (h : pending.returnTo ≠ some []) :
    pending.carried = pending := by
  obtain ⟨state, nonce, codeVerifier, issuedAt, returnTo⟩ := pending
  cases returnTo with
  | none => rfl
  | some path =>
    have hne : path ≠ [] := fun hnil => h (congrArg some hnil)
    simp [PendingLogin.carried, Option.filter, hne]

/-- A login and the one its cookie carries are signed alike. -/
theorem signPendingLogin_carried (h : signPendingLogin py pending secret = .ok value) :
    signPendingLogin py pending.carried secret = .ok value := by
  by_cases hreturn : pending.returnTo = some []
  · rw [← h]
    unfold signPendingLogin PendingLogin.carried
    rw [hreturn]
    rfl
  · rwa [PendingLogin.carried_of_nonempty hreturn]

/-- A signed login is short enough to be read, and reads back. -/
theorem verifyPendingLogin_signed (hmac : HmacDigests py)
    (h : signPendingLogin py pending secret = .ok value) :
    value.length ≤ maxPendingLoginCookieChars ∧
      verifyPendingLogin py value secret = .ok (some pending.carried) := by
  obtain ⟨returnTo, sig, hreturn, hshape, hsig, rfl⟩ := signPendingLogin_eq_ok.1 h
  have hfields := pendingLoginValue_eq_some.2 ⟨pendingLoginPayload_eq pending returnTo, hshape⟩
  obtain ⟨hlength, hread⟩ := verifyPendingLogin_of_signed hmac hfields hsig
  refine ⟨hlength, ?_⟩
  rw [hread, pendingLogin_of_fields hreturn hshape]
  rfl

/-- What reads back was signed, as it stands. -/
theorem verifyPendingLogin_unforged {history : List Signing}
    (h : Unforged py secret history value) :
    verifyPendingLogin py value secret = .ok none ∨ ∃ signed, .login signed ∈ history ∧
      signPendingLogin py signed secret = .ok value ∧
      verifyPendingLogin py value secret = .ok (some signed.carried) := by
  rcases verifyPendingLogin_cases py secret value with
    hnone | ⟨payload, sig, fields, hvalue, hpoint, hfields, hsig, hread⟩
  · exact .inl hnone
  · obtain ⟨signed, hmem, returnTo, hreturn, hshape, rfl⟩ := h.of_login hvalue hpoint hsig
    rw [pendingLoginValue_eq_some.2 ⟨pendingLoginPayload_eq signed returnTo, hshape⟩] at hfields
    obtain rfl := Option.some.inj hfields
    rw [pendingLogin_of_fields hreturn hshape] at hread
    exact .inr ⟨signed, hmem,
      signPendingLogin_eq_ok.2 ⟨returnTo, sig, hreturn, hshape, hsig, hvalue⟩, hread⟩

/-- A value that is read as a pending login has at least 202 characters. -/
theorem length_of_verifyPendingLogin (hmac : HmacDigests py)
    (h : verifyPendingLogin py value secret = .ok (some pending)) : 202 ≤ value.length := by
  rcases verifyPendingLogin_cases py secret value with
    hnone | ⟨payload, sig, fields, hvalue, -, hfields, hsig, -⟩
  · rw [hnone] at h
    cases h
  · have hpayload := payload_bounds hfields
    have hlength := signature_length hmac hsig
    rw [hvalue, List.length_append, List.length_cons]
    omega

/-- A session cookie that nobody forged has at most 200 characters. -/
theorem length_of_verifySessionCookie {history : List Signing} {sessionId : Str}
    (hforged : Unforged py secret history value)
    (h : verifySessionCookie py value secret = .ok (some sessionId)) :
    value.length ≤ maxSessionCookieChars := by
  obtain ⟨-, sig, hsig, hvalue⟩ := of_verifySessionCookie h
  obtain ⟨output, houtput⟩ := hforged.of_session hvalue (point_not_mem_signature hsig) hsig
  obtain ⟨-, sig', hsig', rfl, hlength⟩ := signSessionId_eq_ok.1 houtput
  obtain rfl := Except.ok.inj (hsig.symm.trans hsig')
  rw [hvalue]
  exact hlength

/-- **The codec of the pending-login cookie.** A signed login fits and reads back, every login a
start mints is signed, and what nobody forged is read as what was signed or not at all, and never as
a session too. -/
theorem pending_login_codec (hmac : HmacDigests py) (secret : Bytes) :
    (∀ pending value, pending.returnTo ≠ some [] → signPendingLogin py pending secret = .ok value →
      value.length ≤ maxPendingLoginCookieChars ∧
        verifyPendingLogin py value secret = .ok (some pending)) ∧
    (∀ (draws : LoginDraws) (reading : ℚ) (scope : Scope) (candidate : Option Str),
      0 ≤ reading → reading < 10 ^ 12 →
      ∃ value, signPendingLogin py { draws.pendingLogin reading with
        returnTo := sameAppPath scope candidate } secret = .ok value) ∧
    ∀ history value, Unforged py secret history value →
      (∃ answer, verifyPendingLogin py value secret = .ok answer ∧
        ∀ pending, answer = some pending →
          signPendingLogin py pending secret = .ok value ∧
          ∃ signed, .login signed ∈ history ∧ signPendingLogin py signed secret = .ok value ∧
            (signed.returnTo ≠ some [] → signed = pending)) ∧
      ¬∃ sessionId pending, verifySessionCookie py value secret = .ok (some sessionId) ∧
        verifyPendingLogin py value secret = .ok (some pending) := by
  refine ⟨fun pending value hreturn hsign => ?_, fun draws reading scope candidate hle hlt =>
    signPendingLogin_minted secret draws hle hlt scope candidate, fun history value hforged =>
    ⟨?_, ?_⟩⟩
  · have hread := verifyPendingLogin_signed hmac hsign
    rwa [pending.carried_of_nonempty hreturn] at hread
  · rcases verifyPendingLogin_unforged hforged with hnone | ⟨signed, hmem, hsign, hread⟩
    · exact ⟨none, hnone, fun pending hpending => by cases hpending⟩
    · refine ⟨_, hread, fun pending hpending => ?_⟩
      obtain rfl := Option.some.inj hpending
      exact ⟨signPendingLogin_carried hsign, signed, hmem, hsign, fun hreturn =>
        (PendingLogin.carried_of_nonempty hreturn).symm⟩
  · rintro ⟨sessionId, pending, hsession, hlogin⟩
    have hshort := length_of_verifySessionCookie hforged hsession
    have hlong := length_of_verifyPendingLogin hmac hlogin
    unfold maxSessionCookieChars at hshort
    omega

/-- A key of the concrete value. -/
def codecKey : Bytes := encodeLatin1 (str "key")

/-- The login of the concrete value, from the bytes `0`, `1` and `2`. -/
def codecDraws : LoginDraws where
  state := List.replicate 32 0
  nonce := List.replicate 32 1
  codeVerifier := List.replicate 32 2
  state_length := rfl
  nonce_length := rfl
  codeVerifier_length := rfl

def codecLogin : PendingLogin := { codecDraws.pendingLogin 100 with returnTo := some (str "/a") }

def codecPayload : Str :=
  str "v2.AAAAAAAAAAAAAAAAAAAAAAAAAAAAAAAAAAAAAAAAAAA.AQEBAQEBAQEBAQEBAQEBAQEBAQEBAQEBAQEBAQEBAQE." ++
    str "AgICAgICAgICAgICAgICAgICAgICAgICAgICAgICAgI.100.L2E"

/-- HMAC-SHA256 of the payload under the key, as a pending login and as a session id. -/
def codecPlatform : Platform :=
  { demoPlatform with
    hmacSha256 := fun key data =>
      if key = codecKey ∧ data = encodeLatin1 (str "oidc-pending:" ++ codecPayload) then
        [176, 72, 194, 36, 72, 172, 49, 2, 69, 71, 106, 66, 13, 130, 214, 71,
          119, 216, 223, 131, 252, 22, 65, 91, 247, 220, 135, 244, 103, 85, 40, 249]
      else if key = codecKey ∧ data = encodeLatin1 (str "session:" ++ codecPayload) then
        [0, 159, 244, 186, 67, 122, 90, 46, 224, 210, 117, 203, 72, 98, 161, 184,
          164, 62, 230, 96, 50, 143, 135, 49, 49, 198, 11, 68, 207, 67, 27, 138]
      else List.replicate 32 0 }

def codecSignature : Str := str "b048c22448ac310245476a420d82d64777d8df83fc16415bf7dc87f4675528f9"

def codecValue : Str := codecPayload ++ chr '.' :: codecSignature

theorem codecPlatform_digests : HmacDigests codecPlatform := by
  intro key data
  change (if _ then _ else if _ then _ else _ : Bytes).length = 32
  split_ifs
  · rfl
  · rfl
  · rfl

theorem codecValue_signed :
    signPendingLogin codecPlatform codecLogin codecKey = .ok codecValue := by decide +kernel

theorem codecValue_unforged :
    Unforged codecPlatform codecKey [.login codecLogin] codecValue := by
  intro start hstart text sig hvalue hpoint hsig
  have hparts : rpartition (chr '.') codecValue = some (codecPayload, codecSignature) :=
    rpartition_append (by decide) codecPayload
  rw [hvalue, rpartition_append hpoint] at hparts
  obtain ⟨rfl, rfl⟩ := Prod.mk.inj (Option.some.inj hparts)
  simp only [List.mem_cons, List.not_mem_nil, or_false] at hstart
  rcases hstart with rfl | rfl
  · have hother : signature codecPlatform (str "session:") codecPayload codecKey ≠
        .ok codecSignature := by decide +kernel
    exact absurd hsig hother
  · exact ⟨.login codecLogin, List.mem_singleton_self _, ⟨codecValue, codecValue_signed⟩,
      by decide +kernel⟩

/-- The request that started it. -/
def codecScope : Scope where
  type := str "http"
  app := none
  method := some (str "GET")
  path := str "/auth/start"
  rawPath := none
  rootPath := []
  queryString := []
  urlQuery := some (str "next=/a")
  queryParams := [(str "next", str "/a")]
  headers := []

theorem pending_login_codec_of_signed :
    verifyPendingLogin codecPlatform codecValue codecKey = .ok (some codecLogin) ∧
      (∃ value, signPendingLogin codecPlatform { codecDraws.pendingLogin 100 with
        returnTo := sameAppPath codecScope (some (str "/a")) } codecKey = .ok value) ∧
      ¬∃ sessionId pending,
        verifySessionCookie codecPlatform codecValue codecKey = .ok (some sessionId) ∧
          verifyPendingLogin codecPlatform codecValue codecKey = .ok (some pending) := by
  obtain ⟨hread, hminted, hsafe⟩ := pending_login_codec codecPlatform_digests codecKey
  have hreturn : codecLogin.returnTo ≠ some [] := by decide
  exact ⟨(hread codecLogin codecValue hreturn codecValue_signed).2,
    hminted codecDraws 100 _ _ (by norm_num) (by norm_num),
    (hsafe _ codecValue codecValue_unforged).2⟩

end Codec

end WebAuth
