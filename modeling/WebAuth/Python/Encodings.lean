import WebAuth.Python.Base64
import WebAuth.Python.Query

/-!
# What is encoded reads back

UTF-8, the percent-encoding of a query, base64url and the decimals, each with the decoder it is read
by. A string encodes as UTF-8 when it holds no surrogate, and no strict decoder makes one.
-/

namespace Python

/-! ## UTF-8 -/

/-- A string without surrogates. -/
def IsText (s : Str) : Prop := ∀ c ∈ s, isSurrogate c.val = false

theorem encodePoint_eq_none {c : CodePoint} : encodePoint c = none ↔ isSurrogate c.val = true := by
  unfold encodePoint
  split_ifs with h1 h2 h3 h4
  · simp [isSurrogate]
    omega
  · simp [isSurrogate]
    omega
  · simp [h3]
  · simp [h3]
  · simp [h3]

/-- A string encodes when it is text. -/
theorem encode_isSome {s : Str} : (encode s).isSome = true ↔ IsText s := by
  unfold IsText
  induction s with
  | nil => simp [encode]
  | cons c s ih =>
    rw [List.forall_mem_cons, ← ih, encode]
    cases hc : encodePoint c with
    | none => simp [encodePoint_eq_none.1 hc]
    | some b =>
      have hplain : isSurrogate c.val = false := by
        rw [← Bool.not_eq_true, ← encodePoint_eq_none, hc]
        simp
      cases hs : encode s with
      | none => simp
      | some bs => simp [hplain]

theorem IsText.append {s t : Str} (hs : IsText s) (ht : IsText t) : IsText (s ++ t) := by
  intro c hc
  rcases List.mem_append.1 hc with h | h
  · exact hs c h
  · exact ht c h

theorem isText_of_isAscii {s : Str} (h : isAscii s = true) : IsText s := by
  intro c hc
  have hlt := List.all_eq_true.1 h c hc
  simp only [CodePoint.isAscii, decide_eq_true_eq] at hlt
  simp [isSurrogate]
  omega

theorem scalar_eq_some {least n : ℕ} {c : CodePoint} (h : scalar least n = some c) :
    isSurrogate c.val = false := by
  unfold scalar at h
  split_ifs at h with hlt hplain
  obtain rfl := Option.some.inj h
  rw [Bool.and_eq_true] at hplain
  simpa using hplain.2

theorem sequence_eq_some {b : Bytes} {c : CodePoint} {more : ℕ} (h : sequence b = some (c, more)) :
    isSurrogate c.val = false := by
  have hmap : ∀ {least n k : ℕ}, (scalar least n).map (·, k) = some (c, more) →
      isSurrogate c.val = false := by
    intro least n k hscalar
    obtain ⟨d, hd, heq⟩ := Option.map_eq_some_iff.1 hscalar
    obtain ⟨rfl, -⟩ := Prod.mk.inj heq
    exact scalar_eq_some hd
  cases b with
  | nil => cases h
  | cons b rest =>
    simp only [sequence] at h
    split_ifs at h
    · exact hmap h
    · split at h
      · obtain ⟨x, -, hx⟩ := Option.bind_eq_some_iff.1 h
        exact hmap hx
      · cases h
    · split at h
      · obtain ⟨x, -, hx⟩ := Option.bind_eq_some_iff.1 h
        obtain ⟨y, -, hy⟩ := Option.bind_eq_some_iff.1 hx
        exact hmap hy
      · cases h
    · split at h
      · obtain ⟨x, -, hx⟩ := Option.bind_eq_some_iff.1 h
        obtain ⟨y, -, hy⟩ := Option.bind_eq_some_iff.1 hx
        obtain ⟨z, -, hz⟩ := Option.bind_eq_some_iff.1 hy
        exact hmap hz
      · cases h

/-- What decodes strictly is text. -/
theorem isText_of_decode {b : Bytes} {s : Str} (h : decode strict b = some s) : IsText s := by
  have hafter : ∀ (b : Bytes) (skip : ℕ) (s : Str), decodeAfter strict skip b = some s → IsText s := by
    intro b
    induction b with
    | nil =>
      intro skip s h
      obtain rfl : s = [] := by simpa [decodeAfter, eq_comm] using h
      simp [IsText]
    | cons x bs ih =>
      intro skip s h
      cases skip with
      | succ skip =>
        rw [decodeAfter] at h
        exact ih skip s h
      | zero =>
        rw [decodeAfter] at h
        cases hseq : sequence (x :: bs) with
        | none => simp [hseq, strict] at h
        | some p =>
          simp only [hseq, Option.map_eq_some_iff] at h
          obtain ⟨t, ht, rfl⟩ := h
          exact List.forall_mem_cons.2 ⟨sequence_eq_some hseq, ih _ t ht⟩
  exact hafter b 0 s h

theorem decodeAfter_skip (errors : UInt8 → Option CodePoint) (bs rest : Bytes) :
    decodeAfter errors bs.length (bs ++ rest) = decodeAfter errors 0 rest := by
  induction bs with
  | nil => rfl
  | cons b bs ih => exact ih

/-- An encoded string decodes to itself. -/
theorem decode_encode {s : Str} {b : Bytes} (errors : UInt8 → Option CodePoint)
    (h : encode s = some b) : decode errors b = some s := by
  unfold decode
  induction s generalizing b with
  | nil =>
    obtain rfl := Option.some.inj h
    rfl
  | cons c s ih =>
    obtain ⟨b₁, b₂, h₁, h₂, rfl⟩ := encode_cons_eq_some h
    obtain ⟨x, xs, rfl, hseq⟩ := sequence_encodePoint h₁ b₂
    rw [List.cons_append, decodeAfter, hseq]
    dsimp only
    rw [decodeAfter_skip, ih h₂]
    rfl

/-! ## Queries -/

theorem isText_of_unquoteRuns {runs : List Str} {s : Str} (hruns : ∀ run ∈ runs, IsText run)
    (h : unquoteRuns strict runs = some s) : IsText s := by
  induction runs generalizing s with
  | nil =>
    obtain rfl := Option.some.inj h
    simp [IsText]
  | cons run runs ih =>
    rw [List.forall_mem_cons] at hruns
    unfold unquoteRuns at h
    split at h
    · rename_i x y hx hy
      obtain rfl := Option.some.inj h
      refine IsText.append ?_ (ih hruns.2 hy)
      unfold unquoteRun at hx
      split_ifs at hx
      · exact isText_of_decode hx
      · obtain rfl := Option.some.inj hx
        exact hruns.1
    · cases h

theorem isText_of_unquotePlus {s t : Str} (hs : IsText s) (h : unquotePlus strict s = some t) :
    IsText t := by
  refine isText_of_unquoteRuns (fun run hrun c hc => ?_) h
  have hmem : c ∈ s.map fun c => if c = chr '+' then chr ' ' else c := by
    rw [← List.flatten_splitBy (fun a b => a.isAscii == b.isAscii)
      (s.map fun c => if c = chr '+' then chr ' ' else c)]
    exact List.mem_flatten.2 ⟨run, hrun, hc⟩
  obtain ⟨d, hd, rfl⟩ := List.mem_map.1 hmem
  split_ifs
  · rfl
  · exact hs d hd

theorem mem_of_mem_partition {c d : CodePoint} {s : Str}
    (h : d ∈ (partition c s).1 ∨ d ∈ (partition c s).2.getD []) : d ∈ s := by
  induction s with
  | nil => simp [partition] at h
  | cons x s ih =>
    unfold partition at h
    split_ifs at h with hx
    · rcases h with h | h
      · cases h
      · exact List.mem_cons_of_mem _ h
    · rcases h with h | h
      · rcases List.mem_cons.1 h with rfl | h
        · exact List.mem_cons_self
        · exact List.mem_cons_of_mem _ (ih (.inl h))
      · exact List.mem_cons_of_mem _ (ih (.inr h))

/-- What a piece of a cut text is made of. -/
theorem of_mem_splitOnP {p : CodePoint → Bool} {c : CodePoint} {s piece : Str}
    (hpiece : piece ∈ s.splitOnP p) (hc : c ∈ piece) : c ∈ s ∧ p c = false := by
  induction s generalizing piece with
  | nil =>
    rw [List.splitOnP_nil, List.mem_singleton] at hpiece
    rw [hpiece] at hc
    cases hc
  | cons d s ih =>
    rw [List.splitOnP_cons_eq_if_modifyHead] at hpiece
    have hlater : ∀ {piece'}, piece' ∈ s.splitOnP p → c ∈ piece' → c ∈ d :: s ∧ p c = false :=
      fun hmem hin => ⟨List.mem_cons_of_mem _ (ih hmem hin).1, (ih hmem hin).2⟩
    split_ifs at hpiece with hd
    · rcases List.mem_cons.1 hpiece with rfl | hpiece
      · cases hc
      · exact hlater hpiece hc
    · obtain ⟨first, others, h⟩ := List.exists_cons_of_ne_nil (List.splitOnP_ne_nil p s)
      rw [h, List.modifyHead_cons] at hpiece
      rcases List.mem_cons.1 hpiece with rfl | hpiece
      · rcases List.mem_cons.1 hc with rfl | hc
        · exact ⟨List.mem_cons_self, by simpa using hd⟩
        · exact hlater (h ▸ List.mem_cons_self) hc
      · exact hlater (h ▸ List.mem_cons_of_mem _ hpiece) hc

theorem of_mem_split {separator c : CodePoint} {s piece : Str}
    (hpiece : piece ∈ split separator s) (hc : c ∈ piece) : c ∈ s ∧ c ≠ separator := by
  obtain ⟨hmem, hne⟩ := of_mem_splitOnP hpiece hc
  exact ⟨hmem, by simpa using hne⟩

theorem isText_of_parsePieces {pieces : List Str} {pairs : List (Str × Str)}
    (hpieces : ∀ piece ∈ pieces, IsText piece) (h : parsePieces true strict pieces = some pairs) :
    ∀ pair ∈ pairs, IsText pair.1 ∧ IsText pair.2 := by
  induction pieces generalizing pairs with
  | nil =>
    obtain rfl := Option.some.inj h
    simp
  | cons piece pieces ih =>
    rw [List.forall_mem_cons] at hpieces
    unfold parsePieces at h
    split at h
    · rename_i pair rest hpair hrest
      obtain rfl := Option.some.inj h
      intro p hp
      rcases List.mem_append.1 hp with hp | hp
      · obtain rfl := Option.mem_toList.1 hp
        unfold parsePiece at hpair
        cases hparts : partition (chr '=') piece with
        | mk name value =>
          have hname : IsText name := fun c hc =>
            hpieces.1 c (mem_of_mem_partition (c := chr '=') (.inl (by rwa [hparts])))
          have hvalue : IsText (value.getD []) := fun c hc =>
            hpieces.1 c (mem_of_mem_partition (c := chr '=') (.inr (by rwa [hparts])))
          rw [hparts] at hpair
          dsimp only at hpair
          split_ifs at hpair
          · cases hpair
          split at hpair
          · rename_i n v hn hv
            obtain rfl := Option.some.inj (Option.some.inj hpair)
            exact ⟨isText_of_unquotePlus hname hn, isText_of_unquotePlus hvalue hv⟩
          · cases hpair
      · exact ih hpieces.2 hrest p hp
    · cases h

/-- The parameters of a text are texts. -/
theorem isText_of_parseQsl {query : Str} {pairs : List (Str × Str)} (hquery : IsText query)
    (h : parseQsl true strict query = some pairs) : ∀ pair ∈ pairs, IsText pair.1 ∧ IsText pair.2 := by
  unfold parseQsl at h
  split_ifs at h
  · obtain rfl := Option.some.inj h
    simp
  · refine isText_of_parsePieces (fun piece hpiece c hc => hquery c ?_) h
    exact (of_mem_split hpiece hc).1

end Python
