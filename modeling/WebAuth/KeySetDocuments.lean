import WebAuth.Effects.Checks
import WebAuth.JwtVerification
import WebAuth.Python.Fields

/-!
# Key-set documents

Which documents `_parse_key_set` accepts and what it reads from them. The entries it passes over and
the order of the others decide nothing.
-/

namespace WebAuth

open Python Effects

/-! ## What a document says -/

/-- A member holds a number in canonical base64url. -/
def HoldsNumber (member : Option Json) (n : ℕ) : Prop :=
  ∃ bytes, member = some (.str (stripPadding (urlsafeB64encode bytes))) ∧ fromBytesBig bytes = n

/-- A key that may verify RS256 signatures: what limits it names all allow it. -/
structure Eligible (jwk : Dict) : Prop where
  kty : jwk.get (str "kty") = some (.str (str "RSA"))
  alg : ∀ value, jwk.get (str "alg") = some value → value = .str (str "RS256")
  use : ∀ value, jwk.get (str "use") = some value → value = .str (str "sig")
  keyOps : ∀ value, jwk.get (str "key_ops") = some value →
    ∃ operations, value = .arr operations ∧ .str (str "verify") ∈ operations

/-- The key an entry holds. -/
structure HoldsKey (py : Platform) (jwk : Dict) (key : RSAPublicKey) : Prop where
  modulus : HoldsNumber (jwk.get (str "n")) key.n
  exponent : HoldsNumber (jwk.get (str "e")) key.e
  accepted : py.isRsaKey key.e key.n = true
  size : minRsaKeyBits ≤ key.keySize

/-- The key id an entry names. -/
def keyIdOf (jwk : Dict) : Option Str := (jwk.get (str "kid")).bind Json.string

/-- A key id, where an entry names one, is a string of a bounded length. -/
def SoundKeyId (jwk : Dict) : Prop :=
  ∀ value, jwk.get (str "kid") = some value →
    ∃ keyId, value = .str keyId ∧ 1 ≤ keyId.length ∧ keyId.length ≤ maxKeyIdCharacters

/-- The dictionary an entry is. -/
def dictOf : Json → Option Dict
  | .obj members => some members
  | _ => none

/-- The eligible entries of a key set, in their order. -/
def eligibleOf (jwks : List Json) : List Dict :=
  (jwks.filterMap dictOf).filter isRs256VerificationKey

/-- An entry publishes no secret. -/
def NoSecret (jwk : Dict) : Prop := ∀ member ∈ secretKeyMembers, jwk.has member = false

/-- The entries of a key set are objects without secrets. -/
def PublicObjects (jwks : List Json) : Prop := ∀ entry ∈ jwks, ∃ jwk, entry = .obj jwk ∧ NoSecret jwk

/-- A key set that is accepted. -/
structure AcceptedKeySet (py : Platform) (jwks : List Json) : Prop where
  ne_nil : jwks ≠ []
  objects : PublicObjects jwks
  count : 1 ≤ (eligibleOf jwks).length ∧ (eligibleOf jwks).length ≤ maxKeySetKeys
  keys : ∀ jwk ∈ eligibleOf jwks, ∃ key, HoldsKey py jwk key
  keyIds : ∀ jwk ∈ eligibleOf jwks, SoundKeyId jwk
  distinct : ((eligibleOf jwks).filterMap keyIdOf).Nodup

/-- What is read from a key set: each named key under its own id, and the only key if it is. -/
structure ReadKeys (py : Platform) (jwks : List Json) (named : List (Str × RSAPublicKey))
    (sole : Option RSAPublicKey) : Prop where
  distinct : (named.map Prod.fst).Nodup
  named : ∀ keyId key, named.lookup keyId = some key ↔
    ∃ jwk ∈ eligibleOf jwks, keyIdOf jwk = some keyId ∧ HoldsKey py jwk key
  sole : ∀ key, sole = some key ↔ ∃ jwk, eligibleOf jwks = [jwk] ∧ HoldsKey py jwk key

/-- The entries of a document's `keys`. -/
def HasKeys (py : Platform) (document : Bytes) (jwks : List Json) : Prop :=
  ∃ members, py.jsonLoads document = some (.obj members) ∧
    Dict.get members (str "keys") = some (.arr jwks)

/-! ## One entry -/

section Entry

variable {py : Platform} {jwk : Dict}

theorem isRs256VerificationKey_iff : isRs256VerificationKey jwk = true ↔ Eligible jwk := by
  have hdefault (name : Str) (s : Str) :
      ((jwk.get name).getD (.str s)).isStr s = true ↔
        ∀ value, jwk.get name = some value → value = .str s := by
    cases jwk.get name with
    | none => exact ⟨fun _ => nofun, fun _ => by simp [Json.isStr]⟩
    | some value =>
      constructor
      · rintro h value' heq
        obtain rfl := Option.some.inj heq
        exact Json.isStr_eq_true h
      · intro h
        rw [Option.getD_some, h value rfl]
        simp [Json.isStr]
  have hkty : (jwk.get (str "kty")).any (·.isStr (str "RSA")) = true ↔
      jwk.get (str "kty") = some (.str (str "RSA")) := by
    rw [Option.any_eq_true]
    constructor
    · rintro ⟨value, hsome, hstr⟩
      rw [hsome, Json.isStr_eq_true hstr]
    · intro h
      exact ⟨_, h, by simp [Json.isStr]⟩
  unfold isRs256VerificationKey
  rw [Bool.and_eq_true, Bool.and_eq_true, Bool.and_eq_true, hkty, hdefault, hdefault]
  constructor
  · rintro ⟨⟨⟨hkty, halg⟩, huse⟩, hops⟩
    refine ⟨hkty, halg, huse, fun value heq => ?_⟩
    rw [heq, Option.getD_some] at hops
    split at hops
    · rename_i operations
      obtain ⟨operation, hmem, hverify⟩ := List.any_eq_true.1 hops
      rw [Json.isStr_eq_true hverify] at hmem
      exact ⟨operations, rfl, hmem⟩
    · cases hops
  · intro h
    refine ⟨⟨⟨h.kty, h.alg⟩, h.use⟩, ?_⟩
    cases hops : jwk.get (str "key_ops") with
    | none => decide
    | some value =>
      obtain ⟨operations, rfl, hmem⟩ := h.keyOps value hops
      exact List.any_eq_true.2 ⟨_, hmem, by simp [Json.isStr]⟩

theorem declaredKeyId_eq_ok {keyId : Option Str} :
    declaredKeyId jwk = .ok keyId ↔ SoundKeyId jwk ∧ keyIdOf jwk = keyId := by
  unfold declaredKeyId SoundKeyId keyIdOf
  cases jwk.get (str "kid") with
  | none => exact ⟨fun h => ⟨nofun, Except.ok.inj h⟩, fun h => congrArg Except.ok h.2⟩
  | some value =>
    cases value with
    | str s =>
      unfold isKeyId
      dsimp only
      constructor
      · intro h
        split_ifs at h with hlength
        refine ⟨fun value heq => ?_, Except.ok.inj h⟩
        obtain rfl := Option.some.inj heq
        exact ⟨s, rfl, hlength⟩
      · rintro ⟨hsound, hkeyId⟩
        obtain ⟨s', hs, hlength⟩ := hsound _ rfl
        obtain rfl := Json.str.inj hs
        have hpositive : 0 < s.length ∧ s.length ≤ maxKeyIdCharacters := hlength
        rw [if_pos hpositive]
        exact congrArg Except.ok hkeyId
    | _ =>
      refine ⟨nofun, fun h => ?_⟩
      obtain ⟨s, hs, -⟩ := h.1 _ rfl
      cases hs

/-- The decoder takes what the encoder writes without its padding. -/
theorem base64urlDecode_eq_ok {segment : Str} {bytes : Bytes} :
    base64urlDecode segment = .ok bytes ↔ segment = stripPadding (urlsafeB64encode bytes) := by
  unfold base64urlDecode
  constructor
  · intro h
    split at h
    · cases h
    · split_ifs at h with hcanonical
      obtain rfl := Except.ok.inj h
      exact (not_not.1 hcanonical).symm
  · rintro rfl
    rw [urlsafeB64decode_padded]
    exact if_neg (not_not.2 rfl)

theorem base64urlUnsigned_eq_ok {value : Str} {n : ℕ} :
    base64urlUnsigned value = .ok n ↔ HoldsNumber (some (.str value)) n := by
  unfold base64urlUnsigned HoldsNumber
  constructor
  · intro h
    cases hdecode : base64urlDecode value with
    | error e =>
      rw [hdecode] at h
      cases h
    | ok bytes =>
      rw [hdecode] at h
      exact ⟨bytes, by rw [← base64urlDecode_eq_ok.1 hdecode], Except.ok.inj h⟩
  · rintro ⟨bytes, hvalue, rfl⟩
    rw [base64urlDecode_eq_ok.2 (Json.str.inj (Option.some.inj hvalue))]
    rfl

theorem rsaPublicKey_eq_ok {exponent modulus : Str} {key : RSAPublicKey} :
    rsaPublicKey py exponent modulus = .ok key ↔
      HoldsNumber (some (.str exponent)) key.e ∧ HoldsNumber (some (.str modulus)) key.n ∧
        py.isRsaKey key.e key.n = true := by
  rw [← base64urlUnsigned_eq_ok, ← base64urlUnsigned_eq_ok]
  unfold rsaPublicKey
  cases base64urlUnsigned exponent with
  | error e => exact ⟨nofun, nofun⟩
  | ok e =>
    cases base64urlUnsigned modulus with
    | error e => exact ⟨nofun, nofun⟩
    | ok n =>
      show (if py.isRsaKey e n = true then Except.ok ⟨e, n⟩ else Except.error _) = .ok key ↔ _
      constructor
      · intro h
        split_ifs at h with haccepted
        obtain rfl := Except.ok.inj h
        exact ⟨rfl, rfl, haccepted⟩
      · rintro ⟨he, hn, haccepted⟩
        obtain rfl := Except.ok.inj he
        obtain rfl := Except.ok.inj hn
        rw [if_pos haccepted]

theorem publicSigningKey_eq_ok {keyId : Option Str} {key : RSAPublicKey} :
    publicSigningKey py jwk = .ok (keyId, key) ↔
      SoundKeyId jwk ∧ keyIdOf jwk = keyId ∧ HoldsKey py jwk key := by
  rw [← and_assoc, ← declaredKeyId_eq_ok]
  unfold publicSigningKey
  cases declaredKeyId jwk with
  | error e => exact ⟨fun h => (by cases h), fun h => (by cases h.1)⟩
  | ok declared =>
    rw [bind_eq_ok]
    simp only [Except.ok.injEq, exists_eq_left']
    split
    · rename_i modulus exponent hmodulus hexponent
      have hholds : HoldsKey py jwk key ↔
          rsaPublicKey py exponent modulus = .ok key ∧ minRsaKeyBits ≤ key.keySize := by
        rw [rsaPublicKey_eq_ok, ← hmodulus, ← hexponent]
        exact ⟨fun h => ⟨⟨h.exponent, h.modulus, h.accepted⟩, h.size⟩,
          fun h => ⟨h.1.2.1, h.1.1, h.1.2.2, h.2⟩⟩
      rw [hholds]
      cases rsaPublicKey py exponent modulus with
      | error e =>
        refine ⟨fun h => ?_, fun h => (by cases h.2.1)⟩
        split at h
        · cases h
        · cases h
        · rename_i heq
          cases heq
      | ok key' =>
        dsimp only
        by_cases hshort : key'.keySize < minRsaKeyBits
        · constructor
          · intro h
            rw [if_pos hshort] at h
            cases h
          rintro ⟨-, hkey, hsize⟩
          obtain rfl := Except.ok.inj hkey
          omega
        · rw [if_neg hshort]
          constructor
          · intro h
            obtain ⟨rfl, rfl⟩ := Prod.mk.inj (Except.ok.inj h)
            exact ⟨rfl, rfl, not_lt.1 hshort⟩
          · rintro ⟨rfl, hkey, -⟩
            obtain rfl := Except.ok.inj hkey
            rfl
    · rename_i hother
      refine ⟨fun h => (by cases h), ?_⟩
      rintro ⟨-, h⟩
      obtain ⟨modulus, hmodulus, -⟩ := h.modulus
      obtain ⟨exponent, hexponent, -⟩ := h.exponent
      exact absurd hexponent (hother _ _ hmodulus)

theorem HoldsNumber.unique {member : Option Json} {n n' : ℕ} (h : HoldsNumber member n)
    (h' : HoldsNumber member n') : n = n' := by
  obtain ⟨bytes, hmember, rfl⟩ := h
  obtain ⟨bytes', hmember', rfl⟩ := h'
  have htext := Json.str.inj (Option.some.inj (hmember.symm.trans hmember'))
  have hdecoded := urlsafeB64decode_padded bytes
  rw [htext, urlsafeB64decode_padded] at hdecoded
  rw [Option.some.inj hdecoded]

/-- An entry holds one key. -/
theorem HoldsKey.unique {key key' : RSAPublicKey} (h : HoldsKey py jwk key)
    (h' : HoldsKey py jwk key') : key = key' := by
  have hn := h.modulus.unique h'.modulus
  have he := h.exponent.unique h'.exponent
  cases key
  cases key'
  simp_all

end Entry

/-! ## The loop -/

/-- The named ones of the keys found. -/
def namedOf (found : List (Option Str × RSAPublicKey)) : List (Str × RSAPublicKey) :=
  found.filterMap fun (keyId, key) => keyId.map (·, key)

section Loop

variable {py : Platform} {jwk : Dict} {jwks : List Json} {named named' : List (Str × RSAPublicKey)}
  {eligible : ℕ} {lastKey sole : Option RSAPublicKey}

theorem eligibleOf_obj_pos (h : isRs256VerificationKey jwk = true) :
    eligibleOf (.obj jwk :: jwks) = jwk :: eligibleOf jwks := by
  unfold eligibleOf
  rw [List.filterMap_cons]
  exact List.filter_cons_of_pos h

theorem eligibleOf_obj_neg (h : ¬isRs256VerificationKey jwk = true) :
    eligibleOf (.obj jwk :: jwks) = eligibleOf jwks := by
  unfold eligibleOf
  rw [List.filterMap_cons]
  exact List.filter_cons_of_neg h

theorem noSecret_iff : NoSecret jwk ↔ ¬secretKeyMembers.any (Dict.has jwk) = true := by
  simp [NoSecret]

theorem publicObjects_obj : PublicObjects (.obj jwk :: jwks) ↔ NoSecret jwk ∧ PublicObjects jwks := by
  unfold PublicObjects
  rw [List.forall_mem_cons]
  refine and_congr ⟨?_, fun h => ⟨jwk, rfl, h⟩⟩ Iff.rfl
  rintro ⟨jwk', heq, h⟩
  obtain rfl := Json.obj.inj heq
  exact h

/-- What the loop reads from a state on: the keys of the eligible entries, in their order. -/
structure LoopReads (py : Platform) (jwks : List Json) (named : List (Str × RSAPublicKey))
    (eligible : ℕ) (lastKey : Option RSAPublicKey) (named' : List (Str × RSAPublicKey))
    (sole : Option RSAPublicKey) (found : List (Option Str × RSAPublicKey)) : Prop where
  objects : PublicObjects jwks
  keys : List.Forall₂ (fun jwk key => publicSigningKey py jwk = .ok key) (eligibleOf jwks) found
  count : 1 ≤ eligible + found.length ∧ eligible + found.length ≤ maxKeySetKeys
  named_eq : named' = named ++ namedOf found
  distinct : (named'.map Prod.fst).Nodup
  sole_eq : sole = if eligible + found.length = 1 then
    (found.map Prod.snd).getLast?.or lastKey else none

/-- One eligible entry read ahead of the others. -/
theorem loopReads_cons {keyId : Option Str} {key : RSAPublicKey} (hsecret : NoSecret jwk)
    (heligible : isRs256VerificationKey jwk = true)
    (hkey : publicSigningKey py jwk = .ok (keyId, key)) :
    (∃ found, LoopReads py (.obj jwk :: jwks) named eligible lastKey named' sole found) ↔
      ∃ found, LoopReads py jwks (named ++ namedOf [(keyId, key)]) (eligible + 1) (some key) named'
        sole found := by
  have hnamed (found : List (Option Str × RSAPublicKey)) :
      named ++ namedOf ((keyId, key) :: found) =
        named ++ namedOf [(keyId, key)] ++ namedOf found := by
    rw [List.append_assoc]
    cases keyId <;> rfl
  have hlast (l : List RSAPublicKey) :
      (key :: l).getLast?.or lastKey = l.getLast?.or (some key) := by
    rw [List.getLast?_cons]
    cases l.getLast? <;> rfl
  have hlength (n : ℕ) : eligible + (n + 1) = eligible + 1 + n := by omega
  constructor
  · rintro ⟨found, hobjects, hkeys, hcount, hnamed', hdistinct, hsole⟩
    rw [eligibleOf_obj_pos heligible] at hkeys
    cases hkeys with
    | @cons _ first _ found hfirst hkeys =>
      obtain rfl := Except.ok.inj (hfirst.symm.trans hkey)
      rw [List.length_cons, hlength] at hcount hsole
      rw [List.map_cons, hlast] at hsole
      exact ⟨found, (publicObjects_obj.1 hobjects).2, hkeys, hcount, hnamed' ▸ hnamed found,
        hdistinct, hsole⟩
  · rintro ⟨found, hobjects, hkeys, hcount, hnamed', hdistinct, hsole⟩
    refine ⟨(keyId, key) :: found, publicObjects_obj.2 ⟨hsecret, hobjects⟩, ?_, ?_, ?_, hdistinct,
      ?_⟩
    · rw [eligibleOf_obj_pos heligible]
      exact .cons hkey hkeys
    · rw [List.length_cons, hlength]
      exact hcount
    · rw [hnamed']
      exact (hnamed found).symm
    · rw [List.length_cons, hlength, List.map_cons, hlast]
      exact hsole

theorem rs256VerificationKeys_eq_ok (hcount : eligible ≤ maxKeySetKeys)
    (hdistinct : (named.map Prod.fst).Nodup) :
    rs256VerificationKeys py named eligible lastKey jwks = .ok (named', sole) ↔
      ∃ found, LoopReads py jwks named eligible lastKey named' sole found := by
  induction jwks generalizing named eligible lastKey with
  | nil =>
    unfold rs256VerificationKeys
    constructor
    · intro h
      by_cases hzero : eligible = 0
      · rw [if_pos hzero] at h
        cases h
      · rw [if_neg hzero] at h
        obtain ⟨rfl, rfl⟩ := Prod.mk.inj (Except.ok.inj h)
        exact ⟨[], fun _ h => absurd h List.not_mem_nil, .nil, ⟨by simp only [List.length_nil]; omega, by simpa using hcount⟩,
          by simp [namedOf], hdistinct, by simp⟩
    · rintro ⟨found, hobjects, hkeys, hpositive, hnamed, -, hsole⟩
      cases hkeys
      simp only [List.length_nil, Nat.add_zero] at hpositive hsole
      rw [if_neg (by omega), hnamed, hsole]
      simp [namedOf]
  | cons entry jwks ih =>
    cases entry with
    | obj jwk =>
      unfold rs256VerificationKeys
      by_cases hsecret : secretKeyMembers.any (Dict.has jwk) = true
      · rw [if_pos hsecret]
        refine ⟨fun h => (by cases h), ?_⟩
        rintro ⟨found, hobjects, -⟩
        exact absurd hsecret (noSecret_iff.1 (publicObjects_obj.1 hobjects).1)
      · rw [if_neg hsecret]
        replace hsecret := noSecret_iff.2 hsecret
        by_cases heligible : isRs256VerificationKey jwk = true
        · rw [if_pos heligible]
          by_cases hfull : eligible = maxKeySetKeys
          · rw [if_pos hfull]
            refine ⟨fun h => (by cases h), ?_⟩
            rintro ⟨found, -, hkeys, hmost, -⟩
            rw [eligibleOf_obj_pos heligible] at hkeys
            have hlength := hkeys.length_eq
            rw [List.length_cons] at hlength
            omega
          · rw [if_neg hfull]
            have hroom : eligible + 1 ≤ maxKeySetKeys := by omega
            cases hkey : publicSigningKey py jwk with
            | error e =>
              refine ⟨fun h => (by cases h), ?_⟩
              rintro ⟨found, -, hkeys, -⟩
              rw [eligibleOf_obj_pos heligible] at hkeys
              cases hkeys with
              | cons hfirst hkeys =>
                rw [hkey] at hfirst
                cases hfirst
            | ok first =>
              obtain ⟨keyId, key⟩ := first
              rw [loopReads_cons hsecret heligible hkey]
              cases keyId with
              | none =>
                dsimp only
                rw [ih hroom hdistinct]
                simp [namedOf]
              | some keyId =>
                dsimp only
                by_cases hknown : (named.lookup keyId).isSome = true
                · rw [if_pos hknown]
                  refine ⟨fun h => (by cases h), ?_⟩
                  rintro ⟨found, -, -, -, rfl, hdistinct', -⟩
                  exfalso
                  have hboth : ((named ++ namedOf [(some keyId, key)]).map Prod.fst).Nodup := by
                    rw [List.map_append] at hdistinct'
                    exact (List.nodup_append.1 hdistinct').1
                  rw [List.map_append, List.nodup_append] at hboth
                  exact hboth.2.2 keyId (lookup_isSome_iff_mem.1 hknown) keyId
                    List.mem_cons_self rfl
                · have hnew : ((named ++ [(keyId, key)]).map Prod.fst).Nodup := by
                    rw [List.map_append, List.nodup_append]
                    refine ⟨hdistinct, List.nodup_singleton _, ?_⟩
                    rintro known hmem _ hkeyId rfl
                    obtain rfl := List.mem_singleton.1 hkeyId
                    exact hknown (lookup_isSome_iff_mem.2 hmem)
                  rw [if_neg hknown, ih hroom hnew]
                  rfl
        · rw [if_neg heligible, ih hcount hdistinct]
          refine exists_congr fun found => ?_
          constructor
          · rintro ⟨hobjects, hkeys, hcount, hnamed, hdistinct, hsole⟩
            refine ⟨publicObjects_obj.2 ⟨hsecret, hobjects⟩, ?_, hcount, hnamed, hdistinct, hsole⟩
            rwa [eligibleOf_obj_neg heligible]
          · rintro ⟨hobjects, hkeys, hcount, hnamed, hdistinct, hsole⟩
            rw [eligibleOf_obj_neg heligible] at hkeys
            exact ⟨(publicObjects_obj.1 hobjects).2, hkeys, hcount, hnamed, hdistinct, hsole⟩
    | _ =>
      refine ⟨fun h => (by cases h), ?_⟩
      rintro ⟨found, hobjects, -⟩
      obtain ⟨jwk, heq, -⟩ := hobjects _ List.mem_cons_self
      cases heq

/-! ## The document -/

variable {found : List (Option Str × RSAPublicKey)} {entries : List Dict}

theorem mem_namedOf {keyId : Str} {key : RSAPublicKey} :
    (keyId, key) ∈ namedOf found ↔ (some keyId, key) ∈ found := by
  unfold namedOf
  rw [List.mem_filterMap]
  constructor
  · rintro ⟨⟨keyId', key'⟩, hmem, heq⟩
    cases keyId' with
    | none => cases heq
    | some keyId' =>
      obtain ⟨rfl, rfl⟩ := Prod.mk.inj (Option.some.inj heq)
      exact hmem
  · intro hmem
    exact ⟨_, hmem, rfl⟩

/-- The ids of the keys read are the ids the entries name. -/
theorem namedOf_keyIds
    (h : List.Forall₂ (fun jwk key => publicSigningKey py jwk = .ok key) entries found) :
    (namedOf found).map Prod.fst = entries.filterMap keyIdOf := by
  induction h with
  | nil => rfl
  | @cons jwk first entries found hfirst hrest ih =>
    obtain ⟨keyId, key⟩ := first
    obtain ⟨-, hkeyId, -⟩ := publicSigningKey_eq_ok.1 hfirst
    unfold namedOf at ih ⊢
    rw [List.filterMap_cons, List.filterMap_cons, hkeyId]
    cases keyId with
    | none => exact ih
    | some keyId =>
      dsimp only [Option.map_some]
      rw [List.map_cons, ih]

/-- Each key read is an entry's. -/
theorem mem_found
    (h : List.Forall₂ (fun jwk key => publicSigningKey py jwk = .ok key) entries found)
    {keyId : Option Str} {key : RSAPublicKey} :
    (keyId, key) ∈ found ↔ ∃ jwk ∈ entries, keyIdOf jwk = keyId ∧ HoldsKey py jwk key := by
  induction h with
  | nil => simp
  | @cons jwk first entries found hfirst hrest ih =>
    obtain ⟨keyId', key'⟩ := first
    obtain ⟨-, hkeyId, hkey⟩ := publicSigningKey_eq_ok.1 hfirst
    rw [List.mem_cons, ih]
    constructor
    · rintro (heq | ⟨jwk', hmem, hjwk'⟩)
      · obtain ⟨rfl, rfl⟩ := Prod.mk.inj heq
        exact ⟨jwk, List.mem_cons_self, hkeyId, hkey⟩
      · exact ⟨jwk', List.mem_cons_of_mem _ hmem, hjwk'⟩
    · rintro ⟨jwk', hmem, hkeyId', hkey'⟩
      rcases List.mem_cons.1 hmem with rfl | hmem
      · left
        rw [← hkeyId', hkeyId, hkey.unique hkey']
      · exact .inr ⟨jwk', hmem, hkeyId', hkey'⟩

theorem exists_found
    (h : ∀ jwk ∈ entries, SoundKeyId jwk ∧ ∃ key, HoldsKey py jwk key) :
    ∃ found, List.Forall₂ (fun jwk key => publicSigningKey py jwk = .ok key) entries found := by
  induction entries with
  | nil => exact ⟨[], .nil⟩
  | cons jwk entries ih =>
    obtain ⟨⟨hkeyId, key, hkey⟩, hrest⟩ := List.forall_mem_cons.1 h
    obtain ⟨found, hfound⟩ := ih hrest
    exact ⟨_, .cons (publicSigningKey_eq_ok.2 ⟨hkeyId, rfl, hkey⟩) hfound⟩

theorem sound_of_found
    (h : List.Forall₂ (fun jwk key => publicSigningKey py jwk = .ok key) entries found) :
    ∀ jwk ∈ entries, SoundKeyId jwk ∧ ∃ key, HoldsKey py jwk key := by
  induction h with
  | nil => nofun
  | cons hfirst hrest ih =>
    obtain ⟨hkeyId, -, hkey⟩ := publicSigningKey_eq_ok.1 hfirst
    exact List.forall_mem_cons.2 ⟨⟨hkeyId, _, hkey⟩, ih⟩

/-- What the loop reads from the start is what the key set says. -/
theorem readKeys_of_loopReads (h : LoopReads py jwks [] 0 none named sole found) :
    ReadKeys py jwks named sole := by
  obtain ⟨-, hkeys, -, hnamed, hdistinct, hsole⟩ := h
  rw [List.nil_append] at hnamed
  refine ⟨hdistinct, fun keyId key => ?_, fun key => ?_⟩
  · rw [lookup_eq_some_iff_mem hdistinct, hnamed, mem_namedOf, mem_found hkeys]
  · rw [hsole, Nat.zero_add]
    constructor
    · intro hone
      split_ifs at hone with hlength
      obtain ⟨first, rfl⟩ := List.length_eq_one_iff.1 hlength
      obtain rfl := Option.some.inj hone
      generalize eligibleOf jwks = entries at hkeys
      cases hkeys with
      | cons hfirst hrest =>
        cases hrest
        exact ⟨_, rfl, (publicSigningKey_eq_ok.1 hfirst).2.2⟩
    · rintro ⟨jwk, heligible, hkey⟩
      rw [heligible] at hkeys
      cases hkeys with
      | cons hfirst hrest =>
        cases hrest
        rw [hkey.unique (publicSigningKey_eq_ok.1 hfirst).2.2]
        rfl

theorem acceptedKeySet_iff (hne : jwks ≠ []) :
    (∃ named sole found, LoopReads py jwks [] 0 none named sole found) ↔
      AcceptedKeySet py jwks := by
  constructor
  · rintro ⟨named, sole, found, hobjects, hkeys, hcount, hnamed, hdistinct, -⟩
    rw [Nat.zero_add, ← hkeys.length_eq] at hcount
    rw [hnamed, List.nil_append, namedOf_keyIds hkeys] at hdistinct
    exact ⟨hne, hobjects, hcount, fun jwk hmem => (sound_of_found hkeys jwk hmem).2,
      fun jwk hmem => (sound_of_found hkeys jwk hmem).1, hdistinct⟩
  · rintro ⟨-, hobjects, hcount, hkeys, hkeyIds, hdistinct⟩
    obtain ⟨found, hfound⟩ := exists_found fun jwk hmem => ⟨hkeyIds jwk hmem, hkeys jwk hmem⟩
    refine ⟨namedOf found, _, found, hobjects, hfound, ?_, rfl, ?_, rfl⟩
    · rwa [Nat.zero_add, ← hfound.length_eq]
    · rwa [namedOf_keyIds hfound]

end Loop

/-! ## The entries passed over -/

/-- An entry that is passed over: an object that publishes no secret and is not eligible. -/
def PassedOver (entry : Json) : Prop := ∃ jwk, entry = .obj jwk ∧ NoSecret jwk ∧ ¬Eligible jwk

open Classical in
/-- Two key sets that differ in the order of their entries and in the entries passed over. -/
def SameEntries (jwks jwks' : List Json) : Prop :=
  (jwks.filter fun entry => ¬PassedOver entry).Perm (jwks'.filter fun entry => ¬PassedOver entry)

section Order

variable {py : Platform} {jwks jwks' : List Json} {named named' : List (Str × RSAPublicKey)}
  {sole sole' : Option RSAPublicKey}

open Classical in
theorem eligibleOf_filter (jwks : List Json) :
    eligibleOf (jwks.filter fun entry => ¬PassedOver entry) = eligibleOf jwks := by
  induction jwks with
  | nil => rfl
  | cons entry jwks ih =>
    by_cases hpassed : PassedOver entry
    · rw [List.filter_cons_of_neg (by simpa using hpassed), ih]
      obtain ⟨jwk, rfl, -, heligible⟩ := hpassed
      exact (eligibleOf_obj_neg (mt isRs256VerificationKey_iff.1 heligible)).symm
    · rw [List.filter_cons_of_pos (by simpa using hpassed)]
      unfold eligibleOf at ih ⊢
      rw [List.filterMap_cons, List.filterMap_cons]
      cases dictOf entry with
      | none => exact ih
      | some jwk =>
        dsimp only
        rw [List.filter_cons, List.filter_cons, ih]

theorem SameEntries.symm (h : SameEntries jwks jwks') : SameEntries jwks' jwks := List.Perm.symm h

theorem SameEntries.eligibleOf (h : SameEntries jwks jwks') :
    (eligibleOf jwks).Perm (eligibleOf jwks') := by
  rw [← eligibleOf_filter jwks, ← eligibleOf_filter jwks']
  exact (h.filterMap dictOf).filter _

theorem SameEntries.publicObjects (h : SameEntries jwks jwks') (hobjects : PublicObjects jwks') :
    PublicObjects jwks := by
  intro entry hmem
  by_cases hpassed : PassedOver entry
  · obtain ⟨jwk, heq, hsecret, -⟩ := hpassed
    exact ⟨jwk, heq, hsecret⟩
  · refine hobjects entry ?_
    have hkept := h.mem_iff.1 (List.mem_filter.2 ⟨hmem, by simpa using hpassed⟩)
    exact (List.mem_filter.1 hkept).1

theorem SameEntries.accepted (h : SameEntries jwks jwks') (haccepted : AcceptedKeySet py jwks') :
    AcceptedKeySet py jwks := by
  have hperm := h.eligibleOf
  constructor
  case ne_nil =>
    rintro rfl
    have hlength := hperm.length_eq
    have hcount := haccepted.count.1
    rw [← hlength] at hcount
    cases hcount
  case objects => exact h.publicObjects haccepted.objects
  case count =>
    rw [hperm.length_eq]
    exact haccepted.count
  case keys => exact fun jwk hmem => haccepted.keys jwk (hperm.mem_iff.1 hmem)
  case keyIds => exact fun jwk hmem => haccepted.keyIds jwk (hperm.mem_iff.1 hmem)
  case distinct => exact (hperm.filterMap keyIdOf).nodup_iff.2 haccepted.distinct

/-- Key sets that differ so are read alike. -/
theorem SameEntries.readAlike (h : SameEntries jwks jwks') (hread : ReadKeys py jwks named sole)
    (hread' : ReadKeys py jwks' named' sole') :
    (∀ keyId, named.lookup keyId = named'.lookup keyId) ∧ sole = sole' := by
  have hperm := h.eligibleOf
  constructor
  · intro keyId
    refine Option.ext fun key => ?_
    rw [hread.named, hread'.named]
    exact exists_congr fun jwk => by rw [hperm.mem_iff]
  · refine Option.ext fun key => ?_
    rw [hread.sole, hread'.sole]
    refine exists_congr fun jwk => and_congr ?_ Iff.rfl
    constructor
    · intro heq
      rw [heq] at hperm
      exact hperm.symm.eq_singleton
    · intro heq
      rw [heq] at hperm
      exact hperm.eq_singleton

end Order

/-! ## The result -/

theorem parseKeySet_eq_ok {py : Platform} {document : Bytes} {named : List (Str × RSAPublicKey)}
    {sole : Option RSAPublicKey} : parseKeySet py document = .ok (named, sole) ↔
      document.length ≤ maxKeySetBytes ∧ ∃ jwks, jwks ≠ [] ∧ HasKeys py document jwks ∧
        ∃ found, LoopReads py jwks [] 0 none named sole found := by
  have hloop (jwks : List Json) :
      rs256VerificationKeys py [] 0 none jwks = .ok (named, sole) ↔
        ∃ found, LoopReads py jwks [] 0 none named sole found :=
    rs256VerificationKeys_eq_ok (Nat.zero_le _) List.nodup_nil
  unfold parseKeySet
  constructor
  · intro h
    split_ifs at h with hlength
    split at h
    · cases h
    · rename_i members hmembers
      split at h
      · rename_i jwk jwks hkeys
        refine ⟨not_lt.1 hlength, jwk :: jwks, List.cons_ne_nil _ _, ⟨members, ?_, hkeys⟩,
          (hloop _).1 h⟩
        unfold jsonObject at hmembers
        split at hmembers
        · rename_i members' hload
          obtain rfl := Option.some.inj hmembers
          exact hload
        · cases hmembers
      · cases h
  · rintro ⟨hlength, jwks, hne, ⟨members, hload, hkeys⟩, hfound⟩
    have hmembers : jsonObject py document = some members := by
      unfold jsonObject
      rw [hload]
    rw [if_neg (not_lt.2 hlength), hmembers]
    dsimp only
    rw [hkeys]
    cases jwks with
    | nil => exact absurd rfl hne
    | cons jwk jwks => exact (hloop _).2 hfound

theorem HasKeys.unique {py : Platform} {document : Bytes} {jwks jwks' : List Json}
    (h : HasKeys py document jwks) (h' : HasKeys py document jwks') : jwks = jwks' := by
  obtain ⟨members, hload, hkeys⟩ := h
  obtain ⟨members', hload', hkeys'⟩ := h'
  obtain rfl := Json.obj.inj (Option.some.inj (hload.symm.trans hload'))
  exact Json.arr.inj (Option.some.inj (hkeys.symm.trans hkeys'))

theorem readKeys_of_parse {py : Platform} {document : Bytes} {jwks : List Json}
    {named : List (Str × RSAPublicKey)} {sole : Option RSAPublicKey}
    (hkeys : HasKeys py document jwks) (h : parseKeySet py document = .ok (named, sole)) :
    ReadKeys py jwks named sole := by
  obtain ⟨-, jwks', -, hkeys', found, hfound⟩ := parseKeySet_eq_ok.1 h
  rw [hkeys.unique hkeys']
  exact readKeys_of_loopReads hfound

/-- **A key-set document within the size limit is accepted exactly when each of its entries is an
object without a secret, and its eligible entries hold sound keys with distinct ids.** The order of
the entries and the ineligible ones among them decide nothing. -/
theorem key_set_acceptance (py : Platform) :
    (∀ document, (∃ keys, parseKeySet py document = .ok keys) ↔
      document.length ≤ maxKeySetBytes ∧
        ∃ jwks, HasKeys py document jwks ∧ AcceptedKeySet py jwks) ∧
    (∀ document jwks named sole, HasKeys py document jwks →
      parseKeySet py document = .ok (named, sole) → ReadKeys py jwks named sole) ∧
    (∀ document document' jwks jwks', document.length ≤ maxKeySetBytes →
      document'.length ≤ maxKeySetBytes → HasKeys py document jwks → HasKeys py document' jwks' →
      SameEntries jwks jwks' →
      ((∃ keys, parseKeySet py document = .ok keys) ↔
        ∃ keys, parseKeySet py document' = .ok keys) ∧
      ∀ named sole named' sole', parseKeySet py document = .ok (named, sole) →
        parseKeySet py document' = .ok (named', sole') →
        (∀ keyId, named.lookup keyId = named'.lookup keyId) ∧ sole = sole') ∧
    ∀ document, Raises IsInvalidKeySet (parseKeySet py document) := by
  have haccepts : ∀ document, (∃ keys, parseKeySet py document = .ok keys) ↔
      document.length ≤ maxKeySetBytes ∧
        ∃ jwks, HasKeys py document jwks ∧ AcceptedKeySet py jwks := by
    intro document
    constructor
    · rintro ⟨⟨named, sole⟩, h⟩
      obtain ⟨hlength, jwks, hne, hkeys, found, hfound⟩ := parseKeySet_eq_ok.1 h
      exact ⟨hlength, jwks, hkeys, (acceptedKeySet_iff hne).1 ⟨named, sole, found, hfound⟩⟩
    · rintro ⟨hlength, jwks, hkeys, haccepted⟩
      obtain ⟨named, sole, found, hfound⟩ := (acceptedKeySet_iff haccepted.ne_nil).2 haccepted
      exact ⟨(named, sole), parseKeySet_eq_ok.2
        ⟨hlength, jwks, haccepted.ne_nil, hkeys, found, hfound⟩⟩
  refine ⟨haccepts, fun document jwks named sole hkeys h => readKeys_of_parse hkeys h, ?_,
    parseKeySet_raises py⟩
  intro document document' jwks jwks' hlength hlength' hkeys hkeys' hsame
  constructor
  · rw [haccepts, haccepts]
    constructor
    · rintro ⟨-, entries, hentries, haccepted⟩
      rw [← hkeys.unique hentries] at haccepted
      exact ⟨hlength', jwks', hkeys', hsame.symm.accepted haccepted⟩
    · rintro ⟨-, entries, hentries, haccepted⟩
      rw [← hkeys'.unique hentries] at haccepted
      exact ⟨hlength, jwks, hkeys, hsame.accepted haccepted⟩
  · intro named sole named' sole' h h'
    exact hsame.readAlike (readKeys_of_parse hkeys h) (readKeys_of_parse hkeys' h')

end WebAuth
