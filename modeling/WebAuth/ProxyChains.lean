import WebAuth.Proxies

/-!
# Forwarded chains

What the entries of a forwarded header are, that only the ones the proxies appended decide who the
client is, and when the request keys on its peer.
-/

namespace WebAuth

open Python

/-! ## The entries -/

section Entries

variable {py : Platform}

theorem not_mem_of_rpartition {c : CodePoint} {s : Str} (h : rpartition c s = none) : c ∉ s := by
  intro hmem
  unfold rpartition at h
  split at h
  · rename_i tail heq
    obtain ⟨before, behind, hsplit, hnot⟩ := List.eq_append_cons_of_mem (List.mem_reverse.2 hmem)
    rw [hsplit, partition_append hnot] at heq
    cases heq
  · cases h

theorem split_of_not_mem {c : CodePoint} {s : Str} (h : c ∉ s) : split c s = [s] := by
  have hjoin := split_join (List.cons_ne_nil s []) fun part hmem => by
    rw [List.mem_singleton.1 hmem]
    exact h
  rwa [join_singleton] at hjoin

/-- The entries of a field are its parts between commas, the last first. -/
theorem entriesOfField_eq (field : Str) :
    entriesOfField py field = ((split (chr ',') field).map (strip py)).reverse := by
  fun_induction entriesOfField py field with
  | case1 field h =>
    rw [split_of_not_mem (not_mem_of_rpartition h)]
    rfl
  | case2 field before entry h ih =>
    obtain ⟨rfl, hnot⟩ := rpartition_eq_some h
    rw [ih, split_append_cons, split_of_not_mem hnot]
    simp

theorem split_join_fields {c : CodePoint} {fields : List Str} (hne : fields ≠ []) :
    split c (join c fields) = fields.flatMap (split c) := by
  induction fields with
  | nil => exact absurd rfl hne
  | cons field fields ih =>
    cases fields with
    | nil => simp [join_singleton]
    | cons next fields =>
      rw [join_cons_cons, split_append_cons, ih (List.cons_ne_nil _ _)]
      simp only [List.flatMap_cons]

theorem forwardedEntries_eq_flatMap (fields : List Str) : forwardedEntries py fields =
    ((fields.flatMap (split (chr ','))).map (strip py)).reverse := by
  unfold forwardedEntries
  induction fields with
  | nil => rfl
  | cons field fields ih =>
    rw [List.reverse_cons, List.flatMap_append, ih, List.flatMap_singleton, entriesOfField_eq,
      List.flatMap_cons, List.map_append, List.reverse_append]

/-- The entries of the fields are those of the one list they make together. -/
theorem forwardedEntries_eq {fields : List Str} (hne : fields ≠ []) :
    forwardedEntries py fields =
      ((split (chr ',') (join (chr ',') fields)).map (strip py)).reverse := by
  rw [forwardedEntries_eq_flatMap, split_join_fields hne]

end Entries

/-! ## What the proxies append -/

/-- A proxy appends an entry, as a field of its own or to the last field. -/
inductive Appends : List Str → Str → List Str → Prop
  | newField (fields : List Str) (entry : Str) : Appends fields entry (fields ++ [entry])
  | sameField (fields : List Str) (last entry : Str) :
      Appends (fields ++ [last]) entry (fields ++ [last ++ chr ',' :: entry])

/-- Proxies append entries one after the other. -/
inductive AppendsAll : List Str → List Str → List Str → Prop
  | done (fields : List Str) : AppendsAll fields [] fields
  | step {fields between fields' entries : List Str} {entry : Str}
      (first : Appends fields entry between) (rest : AppendsAll between entries fields') :
      AppendsAll fields (entry :: entries) fields'

/-- A text names a trusted hop. -/
def NamesTrusted (trusted : TrustedProxies) (entry : Str) : Prop :=
  ∃ hop, canonicalAddress entry = some hop ∧ trusted.trusts hop = true

section Chain

variable {py : Platform} {trusted : TrustedProxies} {fields fields' entries : List Str} {entry : Str}

/-- An appended entry is the first one read. -/
theorem Appends.entries_eq (h : Appends fields entry fields') (hcomma : chr ',' ∉ entry) :
    forwardedEntries py fields' = strip py entry :: forwardedEntries py fields := by
  cases h with
  | newField =>
    rw [forwardedEntries_eq_flatMap, forwardedEntries_eq_flatMap, List.flatMap_append,
      List.flatMap_singleton, split_of_not_mem hcomma]
    simp
  | sameField fields last =>
    rw [forwardedEntries_eq_flatMap, forwardedEntries_eq_flatMap, List.flatMap_append,
      List.flatMap_append, List.flatMap_singleton, List.flatMap_singleton, split_append_cons,
      split_of_not_mem hcomma]
    simp

theorem AppendsAll.entries_eq (h : AppendsAll fields entries fields')
    (hcomma : ∀ entry ∈ entries, chr ',' ∉ entry) :
    forwardedEntries py fields' =
      (entries.map (strip py)).reverse ++ forwardedEntries py fields := by
  induction h with
  | done => rfl
  | step first rest ih =>
    obtain ⟨hfirst, hrest⟩ := List.forall_mem_cons.1 hcomma
    rw [ih hrest, first.entries_eq hfirst, List.map_cons, List.reverse_cons]
    simp

/-- Trusted hops are stepped over. -/
theorem clientFromChain_append {hops : ℕ} {before : List Str}
    (h : ∀ entry ∈ before, NamesTrusted trusted entry) :
    clientFromChain trusted hops (before ++ entries) =
      clientFromChain trusted (hops - before.length) entries := by
  induction before generalizing hops with
  | nil => rfl
  | cons entry before ih =>
    obtain ⟨⟨hop, hhop, htrusts⟩, hrest⟩ := List.forall_mem_cons.1 h
    cases hops with
    | zero =>
      rw [Nat.zero_sub]
      rfl
    | succ hops =>
      rw [List.cons_append, clientFromChain, hhop, List.length_cons, Nat.add_sub_add_right]
      dsimp only
      rw [htrusts, ← ih hrest]
      rfl

/-- The hop that is not trusted is the client. -/
theorem clientFromChain_client {hops : ℕ} {client : IpAddress}
    (hclient : canonicalAddress entry = some client) (huntrusted : trusted.trusts client = false)
    (hpos : 0 < hops) : clientFromChain trusted hops (entry :: entries) = some client := by
  obtain ⟨hops, rfl⟩ := Nat.exists_eq_succ_of_ne_zero hpos.ne'
  rw [clientFromChain, hclient]
  dsimp only
  rw [huntrusted]
  rfl

theorem clientFromChain_garbage {hops : ℕ} (h : canonicalAddress entry = none) :
    clientFromChain trusted hops (entry :: entries) = none := by
  cases hops with
  | zero => rfl
  | succ hops => rw [clientFromChain, h]

/-- No more entries are read than hops are allowed. -/
theorem clientFromChain_take (hops : ℕ) (entries : List Str) :
    clientFromChain trusted hops entries = clientFromChain trusted hops (entries.take hops) := by
  induction hops generalizing entries with
  | zero => rfl
  | succ hops ih =>
    cases entries with
    | nil => rfl
    | cons entry entries =>
      rw [List.take_succ_cons, clientFromChain, clientFromChain, ih]

theorem getClientIp_trusted {peer : Str} (h : trusted.holds peer = true) :
    getClientIp py peer fields trusted =
      match clientFromChain trusted maxForwardedForHops (forwardedEntries py fields) with
      | none => canonicalHost peer
      | some client => client.text := by
  unfold getClientIp
  rw [h]
  rfl

/-- A chain that names nobody leaves the request with its peer. -/
theorem getClientIp_of_none {peer : Str} (h : clientFromChain trusted maxForwardedForHops
    ((forwardedEntries py fields).take maxForwardedForHops) = none) :
    getClientIp py peer fields trusted = canonicalHost peer := by
  cases hpeer : trusted.holds peer with
  | false =>
    unfold getClientIp
    rw [hpeer]
    rfl
  | true => rw [getClientIp_trusted hpeer, clientFromChain_take, h]

/-- The protocol a client sends cannot outvote the one its closest proxy appends. -/
theorem requestIsHttps_appended {scheme : Str} {client : Option Str} {scope : Scope}
    (happends : Appends fields entry (scope.getlist (str "x-forwarded-proto")))
    (hcomma : chr ',' ∉ entry) : requestIsHttps py scheme client scope trusted = true ↔
      scheme = str "https" ∨
        trusted.holds (peerHost client) = true ∧ py.lower (strip py entry) = str "https" := by
  unfold requestIsHttps
  rw [happends.entries_eq hcomma]
  by_cases hscheme : scheme = str "https"
  · simp [hscheme]
  · cases hpeer : trusted.holds (peerHost client) with
    | false => simp [hscheme]
    | true =>
      rw [if_neg hscheme]
      exact ⟨fun h => .inr ⟨rfl, of_decide_eq_true h⟩,
        fun h => decide_eq_true (h.resolve_left hscheme).2⟩

end Chain

/-- **Nothing left of the hop the proxies appended decides who the client is.** A request that no
such hop names keys on its peer. -/
theorem forwarded_chain (py : Platform) (trusted : TrustedProxies) :
    (∀ attacker entry hops fields peer client, AppendsAll attacker (entry :: hops) fields →
      (∀ appended ∈ entry :: hops, chr ',' ∉ appended) →
      canonicalAddress (strip py entry) = some client → trusted.trusts client = false →
      (∀ hop ∈ hops, NamesTrusted trusted (strip py hop)) → hops.length ≤ 15 →
      trusted.holds peer = true → getClientIp py peer fields trusted = client.text) ∧
    (∀ fields, fields ≠ [] → forwardedEntries py fields =
      ((split (chr ',') (join (chr ',') fields)).map (strip py)).reverse) ∧
    (∀ peer fields, trusted.holds peer = false →
      getClientIp py peer fields trusted = canonicalHost peer) ∧
    (∀ peer fields before garbage behind,
      (forwardedEntries py fields).take 16 = before ++ garbage :: behind →
      (∀ entry ∈ before, NamesTrusted trusted entry) → canonicalAddress garbage = none →
      getClientIp py peer fields trusted = canonicalHost peer) ∧
    (∀ peer fields, (∀ entry ∈ (forwardedEntries py fields).take 16, NamesTrusted trusted entry) →
      getClientIp py peer fields trusted = canonicalHost peer) ∧
    ∀ peer, getClientIp py peer [] trusted = canonicalHost peer := by
  refine ⟨?_, fun fields hne => forwardedEntries_eq hne, ?_, ?_, ?_, ?_⟩
  · intro attacker entry hops fields peer client happends hcomma hclient huntrusted htrusted hcount
      hpeer
    rw [getClientIp_trusted hpeer, happends.entries_eq hcomma, List.map_cons, List.reverse_cons,
      List.append_assoc, clientFromChain_append, List.singleton_append,
      clientFromChain_client hclient huntrusted]
    · rw [List.length_reverse, List.length_map]
      unfold maxForwardedForHops
      omega
    · intro hop hmem
      obtain ⟨raw, hraw, rfl⟩ := List.mem_map.1 (List.mem_reverse.1 hmem)
      exact htrusted raw hraw
  · intro peer fields hpeer
    unfold getClientIp
    rw [hpeer]
    rfl
  · intro peer fields before garbage behind hentries hbefore hgarbage
    refine getClientIp_of_none ?_
    unfold maxForwardedForHops
    rw [hentries, clientFromChain_append hbefore, clientFromChain_garbage hgarbage]
  · intro peer fields htrusted
    refine getClientIp_of_none ?_
    have hall := @clientFromChain_append trusted [] maxForwardedForHops _ htrusted
    unfold maxForwardedForHops at hall ⊢
    rw [List.append_nil] at hall
    rw [hall]
    cases 16 - ((forwardedEntries py fields).take 16).length with
    | zero => rfl
    | succ hops => rfl
  · intro peer
    exact getClientIp_of_none rfl

end WebAuth
