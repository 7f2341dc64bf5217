import WebAuth.Paths
import WebAuth.Python.Percent

/-!
# Return paths

`same_app_path` decides on the candidate, on its ASCII form and on a browser's reading of it. All
three agree: what it keeps is a path of the app however it is read, and it keeps everything else
that a browser would ask the app for.
-/

namespace WebAuth

open Python

/-! ## A browser -/

/-- What a browser reads a backslash as. -/
def slashed (s : Str) : Str := s.map fun c => if c = chr '\\' then chr '/' else c

/-- A segment that stands for the directory itself, and one for the directory above. -/
def isSingleDot (segment : Str) : Bool := [str ".", str "%2e"].contains (lowerAscii segment)

def isDoubleDot (segment : Str) : Bool :=
  [str "..", str ".%2e", str "%2e.", str "%2e%2e"].contains (lowerAscii segment)

/-- The segments of a path without its dot segments; `kept` are those before, the last one first. A
dot segment at the end leaves an empty one. -/
def removeDotSegments : List Str → List Str → List Str
  | kept, [] => kept.reverse
  | kept, segment :: rest =>
    let ending : List Str := if rest = [] then [[]] else []
    if isDoubleDot segment then removeDotSegments (ending ++ kept.tail) rest
    else if isSingleDot segment then removeDotSegments (ending ++ kept) rest
    else removeDotSegments (segment :: kept) rest

/-- The path a browser asks the origin for when it resolves a reference there: it drops tab, CR and
LF, reads a backslash as a slash, cuts the fragment and the query and removes the dot segments.
`none` is a reference that leaves the origin or does not begin at its root. -/
def resolvedPath (reference : Str) : Option Str :=
  let reference := slashed (reference.filter fun c => !isOneOf "\t\r\n" c)
  let reference := (partition (chr '#') reference).1
  if startsWith reference (str "//") || !startsWith reference (str "/") then none
  else
    let segments := split (chr '/') (partition (chr '?') reference).1
    some (join (chr '/') ([] :: removeDotSegments [] segments.tail))

/-! ## What is kept -/

/-- A path is the root path, or below it at a segment boundary. -/
def AtOrBelow (root path : Str) : Prop := path = root ∨ ∃ rest, path = root ++ chr '/' :: rest

/-- A return path of the app, made of a candidate. -/
structure IsReturnPath (scope : Scope) (candidate path : Str) : Prop where
  visible : ∀ c ∈ path, 0x21 ≤ c.val ∧ c.val ≤ 0x7e
  single_slash : ∃ rest, path = chr '/' :: rest ∧ rest.head? ≠ some (chr '/')
  length : path.length ≤ 512
  fixed : sameAppPath scope (some path) = some path
  /-- It stands for the bytes that the candidate's UTF-8 form stands for. -/
  same_bytes : ∃ bytes, encode candidate = some bytes ∧
    unquoteToBytes path = unquoteToBytes (decodeLatin1 bytes)
  on_app : ∃ resolved, resolvedPath path = some resolved ∧ AtOrBelow scope.rootPath resolved

/-- Why a candidate is refused. -/
inductive RefusedPath (root : Str) : Option Str → Prop
  | missing : RefusedPath root none
  | empty : RefusedPath root (some [])
  | relative (candidate : Str) (h : candidate.head? ≠ some (chr '/')) :
    RefusedPath root (some candidate)
  | control (candidate : Str) (c : CodePoint) (hc : c ∈ candidate)
    (h : c.val ≤ 0x1f ∨ c.val = 0x7f) : RefusedPath root (some candidate)
  | fragment (candidate : Str) (h : chr '#' ∈ candidate) : RefusedPath root (some candidate)
  /-- After the stripping it begins with two slashes of either kind. -/
  | otherHost (candidate : Str) (c d : CodePoint) (rest : Str)
    (h : candidate.filter (fun c => !isOneOf "\t\r\n" c) = c :: d :: rest)
    (hc : c = chr '/' ∨ c = chr '\\') (hd : d = chr '/' ∨ d = chr '\\') :
    RefusedPath root (some candidate)
  | surrogate (candidate : Str) (c : CodePoint) (hc : c ∈ candidate)
    (h : isSurrogate c.val = true) : RefusedPath root (some candidate)
  | dotSegment (candidate segment : Str)
    (hsegment : segment ∈ segmentsOf (partition (chr '?') candidate).1)
    (h : isSingleDot segment = true ∨ isDoubleDot segment = true) :
    RefusedPath root (some candidate)
  | outside (candidate : Str) (hroot : root ≠ []) (heq : candidate ≠ root)
    (hslash : ∀ rest, candidate ≠ root ++ chr '/' :: rest)
    (hquery : ∀ rest, candidate ≠ root ++ chr '?' :: rest) : RefusedPath root (some candidate)
  | otherRoot (candidate : Str) (c : CodePoint) (hc : c ∈ root)
    (h : isAlphaNum c = false ∧ isOneOf "-._~/" c = false) : RefusedPath root (some candidate)
  | tooLong (candidate encoded : Str) (hencoded : asciiPath candidate = some encoded)
    (h : 512 < encoded.length) : RefusedPath root (some candidate)

/-! ## The ASCII form -/

/-- A character `_ascii` leaves. -/
def isVisible (c : CodePoint) : Bool := 0x21 ≤ c.val && c.val < 0x7f

/-- The ASCII form of one character. -/
def asciiPoint (c : CodePoint) : Str := quotePoint isVisible c

section Ascii

variable {c : CodePoint} {s : Str}

theorem asciiPath_eq_some {path : Str} :
    asciiPath s = some path ↔ IsText s ∧ s.flatMap asciiPoint = path := quote_eq_some

theorem isKept_isVisible : isKept isVisible c = isVisible c := by
  have hlow : ∀ n, (h : n < 128) → isKept isVisible ⟨n, by omega⟩ = isVisible ⟨n, by omega⟩ := by
    decide
  by_cases h : c.val < 128
  · exact hlow c.val h
  · have hhigh : ¬c.val < 127 := by omega
    simp only [isKept, isVisible, h, hhigh, decide_false, Bool.false_and, Bool.and_false]

theorem asciiPoint_of_visible (h : isVisible c = true) : asciiPoint c = [c] :=
  quotePoint_of_kept (isKept_isVisible.trans h)

/-- A text of visible characters is its own ASCII form. -/
theorem flatMap_asciiPoint_of_visible (h : ∀ c ∈ s, isVisible c = true) :
    s.flatMap asciiPoint = s := by
  induction s with
  | nil => rfl
  | cons c s ih =>
    rw [List.flatMap_cons, asciiPoint_of_visible (h c List.mem_cons_self),
      ih fun d hd => h d (List.mem_cons_of_mem _ hd)]
    rfl

theorem isVisible_upperHexDigit : ∀ n < 16, isVisible (upperHexDigit n) = true ∧
    upperHexDigit n ≠ chr '%' ∧ upperHexDigit n ≠ chr '/' ∧ upperHexDigit n ≠ chr '\\' ∧
    upperHexDigit n ≠ chr '?' ∧ upperHexDigit n ≠ chr '#' := by decide

/-- The characters of an escape are visible and none that a path gives a meaning. -/
theorem asciiPoint_chars (htext : isSurrogate c.val = false) (h : isVisible c = false) :
    ∀ d ∈ asciiPoint c, isVisible d = true ∧ d ≠ chr '/' ∧ d ≠ chr '\\' ∧ d ≠ chr '?' ∧
      d ≠ chr '#' := by
  obtain ⟨x, b, hquote, -⟩ := quotePoint_of_not_kept htext (isKept_isVisible.trans h)
  intro d hd
  rw [asciiPoint, hquote] at hd
  obtain ⟨y, -, hd⟩ := List.mem_flatMap.1 hd
  have hy := y.toNat_lt
  have hdigit : ∀ n < 16, isVisible (upperHexDigit n) = true ∧ upperHexDigit n ≠ chr '/' ∧
      upperHexDigit n ≠ chr '\\' ∧ upperHexDigit n ≠ chr '?' ∧ upperHexDigit n ≠ chr '#' :=
    fun n hn => ⟨(isVisible_upperHexDigit n hn).1, (isVisible_upperHexDigit n hn).2.2⟩
  simp only [percentByte, List.mem_cons, List.not_mem_nil, or_false] at hd
  rcases hd with rfl | rfl | rfl
  · decide
  · exact hdigit _ (by omega)
  · exact hdigit _ (by omega)

theorem isVisible_of_mem_flatMap (htext : IsText s) : ∀ d ∈ s.flatMap asciiPoint,
    isVisible d = true := by
  intro d hd
  obtain ⟨c, hc, hd⟩ := List.mem_flatMap.1 hd
  by_cases h : isVisible c = true
  · rw [asciiPoint_of_visible h] at hd
    rw [List.mem_singleton.1 hd, h]
  · exact (asciiPoint_chars (htext c hc) (by simpa using h) d hd).1

/-- A prefix of visible characters without `%` is one of the ASCII form and of the text. -/
theorem prefix_flatMap_asciiPoint {start : Str} (htext : IsText s)
    (hstart : ∀ c ∈ start, isVisible c = true ∧ c ≠ chr '%') {rest : Str} :
    s.flatMap asciiPoint = start ++ rest ↔
      ∃ after, s = start ++ after ∧ after.flatMap asciiPoint = rest := by
  induction start generalizing s with
  | nil => simp
  | cons c start ih =>
    obtain ⟨hvisible, hpercent⟩ := hstart c List.mem_cons_self
    have hrest := fun d hd => hstart d (List.mem_cons_of_mem c hd)
    cases s with
    | nil => simp
    | cons d s =>
      have hs : IsText s := fun x hx => htext x (List.mem_cons_of_mem _ hx)
      rw [List.flatMap_cons]
      by_cases hd : isVisible d = true
      · rw [asciiPoint_of_visible hd]
        constructor
        · intro h
          obtain ⟨rfl, htail⟩ := List.cons.inj h
          obtain ⟨after, rfl, hafter⟩ := (ih hs hrest).1 htail
          exact ⟨after, rfl, hafter⟩
        · rintro ⟨after, heq, hafter⟩
          obtain ⟨rfl, rfl⟩ := List.cons.inj heq
          exact congrArg (d :: ·) ((ih hs hrest).2 ⟨after, rfl, hafter⟩)
      · obtain ⟨x, b, hquote, -⟩ := quotePoint_of_not_kept (htext d List.mem_cons_self)
          (isKept_isVisible.trans (by simpa using hd))
        rw [asciiPoint, hquote]
        constructor
        · intro h
          exact (hpercent (List.cons.inj h).1.symm).elim
        · rintro ⟨after, heq, -⟩
          obtain ⟨rfl, -⟩ := List.cons.inj heq
          exact (hd hvisible).elim

theorem flatMap_asciiPoint_eq_nil (htext : IsText s) : s.flatMap asciiPoint = [] ↔ s = [] := by
  cases s with
  | nil => simp
  | cons c s =>
    rw [List.flatMap_cons]
    by_cases h : isVisible c = true
    · simp [asciiPoint_of_visible h]
    · obtain ⟨x, b, hquote, -⟩ := quotePoint_of_not_kept (htext c List.mem_cons_self)
        (isKept_isVisible.trans (by simpa using h))
      rw [asciiPoint, hquote]
      simp [percentByte]

/-! ## Cutting and splitting the ASCII form -/

/-- A mark that is left and stands in no escape cuts the ASCII form where it cuts the text. -/
theorem partition_flatMap {mark : CodePoint} (hmark : asciiPoint mark = [mark])
    (hother : ∀ c ∈ s, c ≠ mark → mark ∉ asciiPoint c) :
    partition mark (s.flatMap asciiPoint) = ((partition mark s).1.flatMap asciiPoint,
      (partition mark s).2.map (·.flatMap asciiPoint)) := by
  induction s with
  | nil => rfl
  | cons c s ih =>
    have hs := ih fun d hd => hother d (List.mem_cons_of_mem _ hd)
    have hskip : ∀ t u : Str, mark ∉ t →
        partition mark (t ++ u) = (t ++ (partition mark u).1, (partition mark u).2) := by
      intro t u ht
      induction t with
      | nil => rfl
      | cons d t iht =>
        have hd : d ≠ mark := fun heq => ht (heq ▸ List.mem_cons_self)
        rw [List.cons_append, partition, if_neg hd,
          iht fun hmem => ht (List.mem_cons_of_mem _ hmem)]
        rfl
    rw [List.flatMap_cons]
    by_cases hc : c = mark
    · rw [hc, hmark, partition, if_pos rfl]
      show partition mark (mark :: s.flatMap asciiPoint) = _
      rw [partition, if_pos rfl]
      rfl
    · rw [hskip _ _ (hother c List.mem_cons_self hc), hs, partition, if_neg hc]
      rfl

/-- Separators that are left and stand in no escape split the ASCII form where they split the
text. -/
theorem splitOnP_flatMap {p : CodePoint → Bool} (hsep : ∀ c, p c = true → asciiPoint c = [c])
    (hother : ∀ c ∈ s, p c = false → ∀ d ∈ asciiPoint c, p d = false) :
    (s.flatMap asciiPoint).splitOnP p = (s.splitOnP p).map (·.flatMap asciiPoint) := by
  have hskip : ∀ t u : Str, (∀ d ∈ t, p d = false) →
      (t ++ u).splitOnP p = (u.splitOnP p).modifyHead (t ++ ·) := by
    intro t u ht
    induction t with
    | nil =>
      obtain ⟨first, others, h⟩ := List.exists_cons_of_ne_nil (List.splitOnP_ne_nil p u)
      simp [h]
    | cons d t iht =>
      rw [List.cons_append, List.splitOnP_cons_eq_if_modifyHead,
        if_neg (by simp [ht d List.mem_cons_self]),
        iht fun x hx => ht x (List.mem_cons_of_mem _ hx)]
      cases h : u.splitOnP p <;> simp
  induction s with
  | nil => simp
  | cons c s ih =>
    have hs := ih fun d hd => hother d (List.mem_cons_of_mem _ hd)
    rw [List.flatMap_cons, List.splitOnP_cons_eq_if_modifyHead]
    by_cases hc : p c = true
    · rw [hsep c hc, List.singleton_append, List.splitOnP_cons_eq_if_modifyHead, if_pos hc,
        if_pos hc, hs]
      rfl
    · rw [hskip _ _ (hother c List.mem_cons_self (by simpa using hc)), hs, if_neg hc]
      cases h : s.splitOnP p <;> simp

/-! ## Dot segments -/

theorem lowerAscii_append (s t : Str) : lowerAscii (s ++ t) = lowerAscii s ++ lowerAscii t :=
  List.map_append

theorem lowerAscii_upperHexDigit : ∀ n < 16, lowerAscii [upperHexDigit n] = [hexDigit n] ∧
    (hexDigit n = chr '2' → n = 2) ∧ (hexDigit n = chr 'e' → n = 14) := by decide

/-- In a dot segment every `%` begins the escape of a dot. -/
theorem dotSegments_percent : ∀ segment ∈ dotSegments, ∀ i < 7, segment[i]? = some (chr '%') →
    segment[i + 1]? = some (chr '2') ∧ segment[i + 2]? = some (chr 'e') := by decide

theorem dotSegments_length : ∀ segment ∈ dotSegments, segment.length < 7 := by decide

theorem dotSegments_visible : ∀ segment ∈ dotSegments, segment.all isVisible = true := by
  decide

/-- A character is visible where its lower case is. -/
theorem isVisible_of_lowerAscii (h : ∀ d ∈ lowerAscii s, isVisible d = true) :
    ∀ c ∈ s, isVisible c = true := by
  intro c hc
  have hd := h _ (List.mem_map_of_mem hc)
  split at hd
  · rename_i hupper
    have hZ : ('Z').toNat = 90 := rfl
    have hA : ('A').toNat = 65 := rfl
    simp only [CodePoint.between, Bool.and_eq_true, decide_eq_true_eq] at hupper
    simp only [isVisible, Bool.and_eq_true, decide_eq_true_eq]
    omega
  · exact hd

/-- A segment is a dot segment exactly when its ASCII form is. -/
theorem dotSegment_flatMap (htext : IsText s) :
    lowerAscii (s.flatMap asciiPoint) ∈ dotSegments ↔ lowerAscii s ∈ dotSegments := by
  have hsame : (∀ c ∈ s, isVisible c = true) →
      (lowerAscii (s.flatMap asciiPoint) ∈ dotSegments ↔ lowerAscii s ∈ dotSegments) := by
    intro hvisible
    rw [flatMap_asciiPoint_of_visible hvisible]
  by_cases hvisible : ∀ c ∈ s, isVisible c = true
  · exact hsame hvisible
  · have hno : lowerAscii s ∉ dotSegments := fun hmem =>
      hvisible (isVisible_of_lowerAscii (List.all_eq_true.1 (dotSegments_visible _ hmem)))
    refine iff_of_false (fun hmem => ?_) hno
    push Not at hvisible
    obtain ⟨c, hc, hhidden⟩ := hvisible
    obtain ⟨before, after, rfl⟩ := List.append_of_mem hc
    obtain ⟨x, b, hquote, hleft⟩ := quotePoint_of_not_kept (htext c hc)
      (isKept_isVisible.trans (by simpa using hhidden))
    have hx := x.toNat_lt
    obtain ⟨hhigh, htwo, -⟩ := lowerAscii_upperHexDigit (x.toNat / 16) (by omega)
    obtain ⟨hlow, -, hfourteen⟩ := lowerAscii_upperHexDigit (x.toNat % 16) (by omega)
    have hform : lowerAscii ((before ++ c :: after).flatMap asciiPoint) =
        lowerAscii (before.flatMap asciiPoint) ++ chr '%' :: hexDigit (x.toNat / 16) ::
          hexDigit (x.toNat % 16) ::
            lowerAscii (b.flatMap percentByte ++ after.flatMap asciiPoint) := by
      rw [List.flatMap_append, List.flatMap_cons, asciiPoint, hquote, List.flatMap_cons,
        lowerAscii_append]
      have hpercent : lowerAscii (percentByte x) =
          [chr '%', hexDigit (x.toNat / 16), hexDigit (x.toNat % 16)] := by
        have hsplit : percentByte x = [chr '%'] ++ ([upperHexDigit (x.toNat / 16)] ++
          [upperHexDigit (x.toNat % 16)]) := rfl
        rw [hsplit, lowerAscii_append, lowerAscii_append, hhigh, hlow]
        rfl
      rw [List.append_assoc, lowerAscii_append, hpercent]
      rfl
    have hlength := dotSegments_length _ hmem
    rw [hform, List.length_append] at hlength
    have hdot :=
      dotSegments_percent _ hmem (lowerAscii (before.flatMap asciiPoint)).length (by omega)
    rw [hform, List.getElem?_append_right (Nat.le_refl _), List.getElem?_append_right (by omega),
      List.getElem?_append_right (by omega), Nat.sub_self, Nat.add_sub_cancel_left,
      Nat.add_sub_cancel_left] at hdot
    obtain ⟨hsecond, hthird⟩ := hdot rfl
    have hbyte : x = 0x2e := UInt8.toNat_inj.1 (show x.toNat = 46 by
      have := htwo (Option.some.inj hsecond)
      have := hfourteen (Option.some.inj hthird)
      omega)
    have hkept := hleft x List.mem_cons_self
    rw [hbyte] at hkept
    exact absurd hkept (by decide)

end Ascii

/-! ## The decision, on the candidate -/

/-- What `same_app_path` asks of a candidate it keeps as `path`. -/
structure KeepsPath (root candidate path : Str) : Prop where
  slash : ∃ rest, candidate = chr '/' :: rest
  plain : ∀ c ∈ candidate, isControl c = false
  fragment : chr '#' ∉ candidate
  host : readsAsAnotherHost candidate = false
  text : IsText candidate
  form : candidate.flatMap asciiPoint = path
  plainRoot : isPlainRoot root = true
  under : root = [] ∨ candidate = root ∨ (∃ rest, candidate = root ++ chr '/' :: rest) ∨
    ∃ rest, candidate = root ++ chr '?' :: rest
  noDots : ∀ segment ∈ segmentsOf (partition (chr '?') candidate).1,
    lowerAscii segment ∉ dotSegments
  length : path.length ≤ 512

section Decision

variable {scope : Scope} {root candidate path : Str}

theorem plainRoot_chars (h : isPlainRoot root = true) : ∀ c ∈ root,
    isVisible c = true ∧ c ≠ chr '%' ∧ c ≠ chr '?' ∧ c ≠ chr '\\' := by
  have hplain : ∀ n, (h : n < 128) →
      (isAlphaNum ⟨n, by omega⟩ || isOneOf "-._~/" ⟨n, by omega⟩) = true →
      isVisible ⟨n, by omega⟩ = true ∧ (⟨n, by omega⟩ : CodePoint) ≠ chr '%' ∧
        (⟨n, by omega⟩ : CodePoint) ≠ chr '?' ∧ (⟨n, by omega⟩ : CodePoint) ≠ chr '\\' := by
    decide
  intro c hc
  have hchar := List.all_eq_true.1 h c hc
  have hlow : c.val < 128 := by
    rw [Bool.or_eq_true] at hchar
    rcases hchar with hchar | hchar
    · exact of_decide_eq_true (isAscii_base64Url (by simp [isBase64Url, hchar]))
    · have hmem : c ∈ str "-._~/" := by simpa [isOneOf] using hchar
      have hascii : isAscii (str "-._~/") = true := by decide
      exact of_decide_eq_true (List.all_eq_true.1 hascii c hmem)
  exact hplain c.val hlow hchar

/-- `_is_under`, on the candidate. -/
theorem isUnder_iff (hroot : isPlainRoot root = true) (htext : IsText candidate) :
    isUnder root (candidate.flatMap asciiPoint) = true ↔ root = [] ∨ candidate = root ∨
      (∃ rest, candidate = root ++ chr '/' :: rest) ∨
        ∃ rest, candidate = root ++ chr '?' :: rest := by
  have hchars : ∀ c ∈ root, isVisible c = true ∧ c ≠ chr '%' :=
    fun c hc => ⟨(plainRoot_chars hroot c hc).1, (plainRoot_chars hroot c hc).2.1⟩
  have hmark : ∀ mark : CodePoint, isVisible mark = true → mark ≠ chr '%' →
      (startsWith (candidate.flatMap asciiPoint) (root ++ [mark]) = true ↔
        ∃ rest, candidate = root ++ mark :: rest) := by
    intro mark hvisible hpercent
    have hstart : ∀ c ∈ root ++ [mark], isVisible c = true ∧ c ≠ chr '%' := by
      intro c hc
      rcases List.mem_append.1 hc with hc | hc
      · exact hchars c hc
      · rw [List.mem_singleton.1 hc]
        exact ⟨hvisible, hpercent⟩
    rw [startsWith_iff]
    constructor
    · rintro ⟨rest, h⟩
      obtain ⟨after, hafter, -⟩ := (prefix_flatMap_asciiPoint htext hstart).1 h
      exact ⟨after, by rw [hafter, List.append_assoc]; rfl⟩
    · rintro ⟨after, h⟩
      refine ⟨after.flatMap asciiPoint, (prefix_flatMap_asciiPoint htext hstart).2 ⟨after, ?_, rfl⟩⟩
      rw [h, List.append_assoc]
      rfl
  have hequal : candidate.flatMap asciiPoint = root ↔ candidate = root := by
    have hroot := @prefix_flatMap_asciiPoint candidate root htext hchars []
    rw [List.append_nil] at hroot
    rw [hroot]
    constructor
    · rintro ⟨after, rfl, hafter⟩
      have htail : IsText after := fun c hc => htext c (List.mem_append_right _ hc)
      rw [(flatMap_asciiPoint_eq_nil htail).1 hafter, List.append_nil]
    · intro h
      exact ⟨[], by rw [h, List.append_nil], rfl⟩
  unfold isUnder
  rw [Bool.or_eq_true, Bool.or_eq_true, Bool.or_eq_true, decide_eq_true_eq, decide_eq_true_eq,
    hequal, show str "/" = [chr '/'] from rfl, show str "?" = [chr '?'] from rfl,
    hmark (chr '/') (by decide) (by decide), hmark (chr '?') (by decide) (by decide), or_assoc,
    or_assoc]

/-- `_has_dot_segment`, on the candidate. -/
theorem hasDotSegment_iff (htext : IsText candidate) :
    hasDotSegment (partition (chr '?') (candidate.flatMap asciiPoint)).1 = true ↔
      ∃ segment ∈ segmentsOf (partition (chr '?') candidate).1,
        lowerAscii segment ∈ dotSegments := by
  have hhidden : ∀ c ∈ candidate, isVisible c = false → ∀ d ∈ asciiPoint c,
      d ≠ chr '/' ∧ d ≠ chr '\\' ∧ d ≠ chr '?' :=
    fun c hc h d hd =>
      have hchars := asciiPoint_chars (htext c hc) h d hd
      ⟨hchars.2.1, hchars.2.2.1, hchars.2.2.2.1⟩
  have hcut : (partition (chr '?') (candidate.flatMap asciiPoint)).1 =
      (partition (chr '?') candidate).1.flatMap asciiPoint := by
    rw [partition_flatMap (asciiPoint_of_visible (by decide))]
    intro c hc hne hmem
    by_cases h : isVisible c = true
    · rw [asciiPoint_of_visible h] at hmem
      exact hne (List.mem_singleton.1 hmem).symm
    · exact (hhidden c hc (by simpa using h) _ hmem).2.2 rfl
  have hsub : ∀ c ∈ (partition (chr '?') candidate).1, c ∈ candidate :=
    fun c hc => mem_of_mem_partition (.inl hc)
  have hsplit : segmentsOf ((partition (chr '?') candidate).1.flatMap asciiPoint) =
      (segmentsOf (partition (chr '?') candidate).1).map (·.flatMap asciiPoint) := by
    refine splitOnP_flatMap (fun c hc => asciiPoint_of_visible ?_) fun c hc hno d hd => ?_
    · rw [Bool.or_eq_true, decide_eq_true_eq, decide_eq_true_eq] at hc
      rcases hc with rfl | rfl <;> decide
    · by_cases h : isVisible c = true
      · rw [asciiPoint_of_visible h] at hd
        rw [List.mem_singleton.1 hd, hno]
      · have hchars := hhidden c (hsub c hc) (by simpa using h) d hd
        simp [hchars.1, hchars.2.1]
  have hsegment : ∀ segment ∈ segmentsOf (partition (chr '?') candidate).1, IsText segment :=
    fun segment hmem c hc => htext c (hsub c (of_mem_splitOnP hmem hc).1)
  unfold hasDotSegment
  rw [hcut, hsplit, List.any_map, List.any_eq_true]
  refine exists_congr fun segment => and_congr_right fun hmem => ?_
  rw [Function.comp_apply, List.contains_iff_mem, dotSegment_flatMap (hsegment segment hmem)]

/-- What `same_app_path` answers for a candidate, one check after the other. -/
theorem sameAppPath_some : sameAppPath scope (some candidate) =
    if candidate = [] || !startsWith candidate (str "/") || candidate.any isControl then none
    else if candidate.contains (chr '#') || readsAsAnotherHost candidate then none
    else (asciiPath candidate).bind fun encoded =>
      if !isPlainRoot scope.rootPath || !isUnder scope.rootPath encoded then none
      else if hasDotSegment (partition (chr '?') encoded).1 then none
      else if encoded.length ≤ 512 then some encoded else none := rfl

/-- **What is kept, on the candidate.** -/
theorem sameAppPath_eq_some :
    sameAppPath scope (some candidate) = some path ↔ KeepsPath scope.rootPath candidate path := by
  rw [sameAppPath_some]
  constructor
  · intro h
    split_ifs at h with hstart hmarks
    simp only [Bool.or_eq_true, decide_eq_true_eq, Bool.not_eq_true', not_or, Bool.not_eq_false,
      List.any_eq_true, not_exists, not_and, Bool.not_eq_true,
      List.contains_iff_mem] at hstart hmarks
    obtain ⟨encoded, hencoded, h⟩ := Option.bind_eq_some_iff.1 h
    obtain ⟨htext, rfl⟩ := asciiPath_eq_some.1 hencoded
    split_ifs at h with hroot hdot hlength
    simp only [Bool.or_eq_true, Bool.not_eq_true', not_or, Bool.not_eq_false] at hroot
    obtain rfl := Option.some.inj h
    exact
      { slash := startsWith_iff.1 hstart.1.2
        plain := hstart.2
        fragment := hmarks.1
        host := hmarks.2
        text := htext
        form := rfl
        plainRoot := hroot.1
        under := (isUnder_iff hroot.1 htext).1 hroot.2
        noDots := fun segment hmem hsegment =>
          hdot ((hasDotSegment_iff htext).2 ⟨segment, hmem, hsegment⟩)
        length := hlength }
  · intro h
    obtain ⟨rest, hslash⟩ := h.slash
    have hstart : (candidate = [] || !startsWith candidate (str "/") || candidate.any isControl) =
        false := by
      have hfirst : startsWith candidate (str "/") = true := startsWith_iff.2 h.slash
      have hplain : candidate.any isControl = false :=
        List.any_eq_false.2 fun c hc => by simp [h.plain c hc]
      have hne : candidate ≠ [] := by simp [hslash]
      rw [hfirst, hplain, decide_eq_false hne]
      rfl
    have hmarks : (candidate.contains (chr '#') || readsAsAnotherHost candidate) = false := by
      simp [h.host, h.fragment]
    have hform : asciiPath candidate = some path := asciiPath_eq_some.2 ⟨h.text, h.form⟩
    have hunder : isUnder scope.rootPath path = true := by
      rw [← h.form]
      exact (isUnder_iff h.plainRoot h.text).2 h.under
    have hdots : hasDotSegment (partition (chr '?') path).1 = false := by
      rw [← h.form, ← Bool.not_eq_true, hasDotSegment_iff h.text]
      rintro ⟨segment, hmem, hsegment⟩
      exact h.noDots segment hmem hsegment
    rw [if_neg (Bool.eq_false_iff.1 hstart), if_neg (Bool.eq_false_iff.1 hmarks), hform,
      Option.bind_some]
    simp [h.plainRoot, hunder, hdots, h.length]

/-! ## What is kept is a path of the app -/

theorem filter_stripped (h : ∀ c ∈ path, isControl c = false) :
    path.filter (fun c => !isOneOf "\t\r\n" c) = path := by
  have hstripped : (str "\t\r\n").all isControl = true := by decide
  refine List.filter_eq_self.2 fun c hc => ?_
  cases hone : isOneOf "\t\r\n" c with
  | false => rfl
  | true =>
    have hcontrol := List.all_eq_true.1 hstripped c (by simpa [isOneOf] using hone)
    rw [h c hc] at hcontrol
    cases hcontrol

/-- Another host is two slashes of either kind. -/
theorem readsAsAnotherHost_iff : readsAsAnotherHost path = true ↔ ∃ c d rest,
    path.filter (fun c => !isOneOf "\t\r\n" c) = c :: d :: rest ∧
      (c = chr '/' ∨ c = chr '\\') ∧ (d = chr '/' ∨ d = chr '\\') := by
  unfold readsAsAnotherHost
  simp only [List.any_cons, List.any_nil, Bool.or_false, Bool.or_eq_true, startsWith_iff]
  constructor
  · rintro (⟨rest, h⟩ | ⟨rest, h⟩ | ⟨rest, h⟩ | ⟨rest, h⟩)
    · exact ⟨chr '/', chr '/', rest, h, .inl rfl, .inl rfl⟩
    · exact ⟨chr '/', chr '\\', rest, h, .inl rfl, .inr rfl⟩
    · exact ⟨chr '\\', chr '/', rest, h, .inr rfl, .inl rfl⟩
    · exact ⟨chr '\\', chr '\\', rest, h, .inr rfl, .inr rfl⟩
  · rintro ⟨c, d, rest, h, rfl | rfl, rfl | rfl⟩
    · exact .inl ⟨rest, h⟩
    · exact .inr (.inl ⟨rest, h⟩)
    · exact .inr (.inr (.inl ⟨rest, h⟩))
    · exact .inr (.inr (.inr ⟨rest, h⟩))

theorem plain_of_visible {c : CodePoint} (h : isVisible c = true) : isControl c = false := by
  simp only [isVisible, Bool.and_eq_true, decide_eq_true_eq] at h
  simp only [isControl, Bool.or_eq_false_iff, decide_eq_false_iff_not]
  omega

namespace KeepsPath

variable (h : KeepsPath root candidate path)

include h

theorem visible : ∀ c ∈ path, isVisible c = true := by
  rw [← h.form]
  exact isVisible_of_mem_flatMap h.text

/-- After the first slash stands no other, of either kind. -/
theorem single_slash : ∃ rest, path = chr '/' :: rest ∧
    ∀ c, rest.head? = some c → c ≠ chr '/' ∧ c ≠ chr '\\' := by
  obtain ⟨rest, hslash⟩ := h.slash
  have hvisible : isVisible (chr '/') = true := by decide
  refine ⟨rest.flatMap asciiPoint, ?_, ?_⟩
  · rw [← h.form, hslash, List.flatMap_cons, asciiPoint_of_visible hvisible]
    rfl
  · cases rest with
    | nil => simp
    | cons d rest =>
      have hhost := h.host
      have hd : ¬(d = chr '/' ∨ d = chr '\\') := by
        intro hd
        have hother : readsAsAnotherHost candidate = true := readsAsAnotherHost_iff.2
          ⟨chr '/', d, rest, by rw [filter_stripped h.plain, hslash], .inl rfl, hd⟩
        rw [hhost] at hother
        cases hother
      rw [not_or] at hd
      have hmem : d ∈ candidate := by rw [hslash]; simp
      intro c hc
      rw [List.flatMap_cons] at hc
      by_cases hdvisible : isVisible d = true
      · rw [asciiPoint_of_visible hdvisible] at hc
        obtain rfl : d = c := Option.some.inj hc
        exact hd
      · obtain ⟨x, b, hquote, -⟩ := quotePoint_of_not_kept (h.text d hmem)
          (isKept_isVisible.trans (by simpa using hdvisible))
        rw [asciiPoint, hquote] at hc
        obtain rfl : chr '%' = c := Option.some.inj hc
        decide

theorem no_fragment : chr '#' ∉ path := by
  rw [← h.form]
  intro hmem
  obtain ⟨c, hc, hmem⟩ := List.mem_flatMap.1 hmem
  by_cases hvisible : isVisible c = true
  · rw [asciiPoint_of_visible hvisible] at hmem
    exact h.fragment (List.mem_singleton.1 hmem ▸ hc)
  · exact (asciiPoint_chars (h.text c hc) (by simpa using hvisible) _ hmem).2.2.2.2 rfl

/-- What is kept is kept again, as it is. -/
theorem again : KeepsPath root path path := by
  have htext : IsText path := fun c hc => by
    have hvisible := h.visible c hc
    simp only [isVisible, Bool.and_eq_true, decide_eq_true_eq] at hvisible
    simp [isSurrogate]
    omega
  have hform : path.flatMap asciiPoint = path := flatMap_asciiPoint_of_visible h.visible
  have hunder : isUnder root path = true := by
    rw [← h.form]
    exact (isUnder_iff h.plainRoot h.text).2 h.under
  have hdots : ¬hasDotSegment (partition (chr '?') path).1 = true := by
    rw [← h.form, hasDotSegment_iff h.text]
    rintro ⟨segment, hmem, hsegment⟩
    exact h.noDots segment hmem hsegment
  obtain ⟨rest, hslash, hsecond⟩ := h.single_slash
  have hplain : ∀ c ∈ path, isControl c = false := fun c hc => plain_of_visible (h.visible c hc)
  exact
    { slash := ⟨rest, hslash⟩
      plain := hplain
      fragment := h.no_fragment
      host := by
        rw [← Bool.not_eq_true, readsAsAnotherHost_iff, filter_stripped hplain]
        rintro ⟨c, d, tail, heq, -, hd⟩
        obtain ⟨-, rfl⟩ := List.cons.inj (hslash.symm.trans heq)
        obtain ⟨hno, hno'⟩ := hsecond d rfl
        exact hd.elim hno hno'
      text := htext
      form := hform
      plainRoot := h.plainRoot
      under := (isUnder_iff h.plainRoot htext).1 (by rw [hform]; exact hunder)
      noDots := fun segment hmem hsegment => hdots (by
        have hiff := (hasDotSegment_iff htext).2 ⟨segment, hmem, hsegment⟩
        rwa [hform] at hiff)
      length := h.length }

end KeepsPath

/-! ## A browser reads it the same way -/

theorem slashed_append (s t : Str) : slashed (s ++ t) = slashed s ++ slashed t := List.map_append

theorem slashed_cons (c : CodePoint) (s : Str) :
    slashed (c :: s) = (if c = chr '\\' then chr '/' else c) :: slashed s := rfl

/-- A mark that is neither kind of slash cuts a path where it cuts the slashed one. -/
theorem partition_slashed {mark : CodePoint} (hslash : mark ≠ chr '/') (hback : mark ≠ chr '\\')
    (s : Str) : partition mark (slashed s) =
      (slashed (partition mark s).1, (partition mark s).2.map slashed) := by
  induction s with
  | nil => rfl
  | cons c s ih =>
    rw [slashed_cons]
    by_cases hc : c = mark
    · rw [hc, if_neg hback, partition, if_pos rfl, partition, if_pos rfl]
      rfl
    · have hne : (if c = chr '\\' then chr '/' else c) ≠ mark := by
        split_ifs
        · exact hslash.symm
        · exact hc
      rw [partition, if_neg hne, ih, partition, if_neg hc]
      rfl

/-- The segments of a path are those between its slashes of either kind. -/
theorem split_slashed (s : Str) : split (chr '/') (slashed s) = segmentsOf s := by
  induction s with
  | nil => rfl
  | cons c s ih =>
    unfold split segmentsOf at ih ⊢
    rw [slashed_cons, List.splitOn_cons_eq_if_modifyHead, List.splitOnP_cons_eq_if_modifyHead, ih]
    by_cases hback : c = chr '\\'
    · simp [hback]
    · by_cases hslash : c = chr '/'
      · simp [hslash]
      · simp [hback, hslash]

theorem dot_iff {segment : Str} : lowerAscii segment ∈ dotSegments ↔
    isSingleDot segment = true ∨ isDoubleDot segment = true := by
  simp only [isSingleDot, isDoubleDot, dotSegments, List.contains_iff_mem, List.mem_cons,
    List.not_mem_nil, or_false]
  tauto

/-- Without dot segments nothing is removed. -/
theorem removeDotSegments_of_none {segments : List Str}
    (h : ∀ segment ∈ segments, lowerAscii segment ∉ dotSegments) (kept : List Str) :
    removeDotSegments kept segments = kept.reverse ++ segments := by
  induction segments generalizing kept with
  | nil => simp [removeDotSegments]
  | cons segment segments ih =>
    have hno := h segment List.mem_cons_self
    rw [dot_iff, not_or] at hno
    rw [removeDotSegments, if_neg hno.2, if_neg hno.1,
      ih fun segment hmem => h segment (List.mem_cons_of_mem _ hmem)]
    simp

theorem slashed_of_plainRoot (h : isPlainRoot root = true) : slashed root = root := by
  refine (List.map_congr_left fun c hc => ?_).trans (List.map_id _)
  exact if_neg (plainRoot_chars h c hc).2.2.2

/-- The part before the query of what is kept is the root path or below it. -/
theorem KeepsPath.atOrBelow (h : KeepsPath root candidate path) :
    AtOrBelow root (slashed (partition (chr '?') path).1) := by
  have hmark : chr '?' ∉ root := fun hmem => (plainRoot_chars h.plainRoot _ hmem).2.2.1 rfl
  obtain ⟨first, hfirst⟩ := h.again.slash
  rcases h.again.under with rfl | heq | ⟨rest, heq⟩ | ⟨rest, heq⟩
  · right
    have hne : chr '/' ≠ chr '?' := by decide
    refine ⟨slashed (partition (chr '?') first).1, ?_⟩
    rw [hfirst, partition, if_neg hne]
    rfl
  · left
    rw [heq, partition_of_not_mem hmark, slashed_of_plainRoot h.plainRoot]
  · right
    have hcut : ∀ s : Str, chr '?' ∉ s → (partition (chr '?') (s ++ chr '/' :: rest)).1 =
        s ++ chr '/' :: (partition (chr '?') rest).1 := by
      intro s hs
      induction s with
      | nil => rfl
      | cons c s ih =>
        have hc : c ≠ chr '?' := fun heq => hs (heq ▸ List.mem_cons_self)
        rw [List.cons_append, partition, if_neg hc, ih fun hmem => hs (List.mem_cons_of_mem _ hmem)]
        rfl
    refine ⟨slashed (partition (chr '?') rest).1, ?_⟩
    rw [heq, hcut root hmark, slashed_append, slashed_of_plainRoot h.plainRoot]
    rfl
  · left
    rw [heq, partition_append hmark, slashed_of_plainRoot h.plainRoot]

/-- A browser asks the origin for the path that was kept. -/
theorem KeepsPath.resolvedPath_eq (h : KeepsPath root candidate path) :
    resolvedPath path = some (slashed (partition (chr '?') path).1) := by
  obtain ⟨rest, hslash, hsecond⟩ := h.single_slash
  have hstripped := filter_stripped fun c hc => plain_of_visible (h.visible c hc)
  have hfragment : partition (chr '#') (slashed path) = (slashed path, none) := by
    rw [partition_slashed (by decide) (by decide), partition_of_not_mem h.no_fragment]
    rfl
  have hone : startsWith (slashed path) (str "//") = false := by
    rw [← Bool.not_eq_true, startsWith_iff]
    rintro ⟨tail, heq⟩
    rw [hslash] at heq
    have hrest : slashed rest = chr '/' :: tail := (List.cons.inj heq).2
    cases rest with
    | nil => cases hrest
    | cons c rest =>
      obtain ⟨hno, hno'⟩ := hsecond c rfl
      rw [slashed_cons, if_neg hno'] at hrest
      exact hno (List.cons.inj hrest).1
  have hfirst : startsWith (slashed path) (str "/") = true :=
    startsWith_iff.2 ⟨slashed rest, by rw [hslash]; rfl⟩
  have hsegments : ∀ segment ∈ segmentsOf (partition (chr '?') path).1,
      lowerAscii segment ∉ dotSegments := h.again.noDots
  obtain ⟨segments, hsplit⟩ : ∃ segments,
      segmentsOf (partition (chr '?') path).1 = [] :: segments := by
    have hne : chr '/' ≠ chr '?' := by decide
    rw [hslash, partition, if_neg hne]
    refine ⟨segmentsOf (partition (chr '?') rest).1, ?_⟩
    show segmentsOf (chr '/' :: (partition (chr '?') rest).1) = _
    unfold segmentsOf
    rw [List.splitOnP_cons_eq_if_modifyHead]
    rfl
  have hjoin : join (chr '/') ([] :: segments) = slashed (partition (chr '?') path).1 := by
    rw [← hsplit, ← split_slashed]
    exact List.intercalate_splitOn (chr '/')
  unfold resolvedPath
  rw [hstripped]
  dsimp only
  rw [hfragment]
  simp only [hone, hfirst, Bool.not_true, Bool.or_self, Bool.false_eq_true, if_false]
  rw [partition_slashed (by decide) (by decide), split_slashed, hsplit, List.tail_cons,
    removeDotSegments_of_none, List.reverse_nil, List.nil_append, hjoin]
  intro segment hmem
  exact hsegments segment (by rw [hsplit]; exact List.mem_cons_of_mem _ hmem)

/-! ## The decider -/

theorem KeepsPath.isReturnPath (h : KeepsPath scope.rootPath candidate path) :
    IsReturnPath scope candidate path where
  visible c hc := by
    have hvisible := h.visible c hc
    simp only [isVisible, Bool.and_eq_true, decide_eq_true_eq] at hvisible
    omega
  single_slash := by
    obtain ⟨rest, hslash, hsecond⟩ := h.single_slash
    exact ⟨rest, hslash, fun heq => (hsecond _ heq).1 rfl⟩
  length := h.length
  fixed := sameAppPath_eq_some.2 h.again
  same_bytes := by
    have hform : asciiPath candidate = some path := asciiPath_eq_some.2 ⟨h.text, h.form⟩
    obtain ⟨bytes, hbytes, rfl⟩ := Option.map_eq_some_iff.1 hform
    exact ⟨bytes, hbytes, unquoteToBytes_requote (by decide) bytes⟩
  on_app := ⟨_, h.resolvedPath_eq, h.atOrBelow⟩

/-- A candidate that nothing speaks against is kept. -/
theorem keepsPath_of_not_refused (h : ¬RefusedPath root (some candidate)) :
    KeepsPath root candidate (candidate.flatMap asciiPoint) := by
  have hslash : ∃ rest, candidate = chr '/' :: rest := by
    by_contra hno
    refine h (.relative candidate fun hhead => hno ?_)
    cases candidate with
    | nil => cases hhead
    | cons c rest =>
      obtain rfl : c = chr '/' := Option.some.inj hhead
      exact ⟨rest, rfl⟩
  have htext : IsText candidate := by
    intro c hc
    rw [← Bool.not_eq_true]
    exact fun hsurrogate => h (.surrogate candidate c hc hsurrogate)
  exact
    { slash := hslash
      plain := fun c hc => by
        rw [← Bool.not_eq_true]
        intro hcontrol
        simp only [isControl, Bool.or_eq_true, decide_eq_true_eq] at hcontrol
        exact h (.control candidate c hc hcontrol)
      fragment := fun hmem => h (.fragment candidate hmem)
      host := by
        rw [← Bool.not_eq_true, readsAsAnotherHost_iff]
        rintro ⟨c, d, rest, heq, hc, hd⟩
        exact h (.otherHost candidate c d rest heq hc hd)
      text := htext
      form := rfl
      plainRoot := by
        by_contra hroot
        simp only [isPlainRoot, List.all_eq_true, Bool.or_eq_true, not_forall, not_or,
          Bool.not_eq_true] at hroot
        obtain ⟨c, hc, hchar⟩ := hroot
        exact h (.otherRoot candidate c hc hchar)
      under := by
        by_contra hunder
        simp only [not_or, not_exists] at hunder
        exact h (.outside candidate hunder.1 hunder.2.1 hunder.2.2.1 hunder.2.2.2)
      noDots := fun segment hmem hdot => h (.dotSegment candidate segment hmem (dot_iff.1 hdot))
      length := by
        by_contra hlong
        exact h (.tooLong candidate _ (asciiPath_eq_some.2 ⟨htext, rfl⟩) (not_le.1 hlong)) }

/-- A candidate that something speaks against is not kept. -/
theorem not_refused_of_keepsPath (h : KeepsPath root candidate path) :
    ¬RefusedPath root (some candidate) := by
  intro hrefused
  cases hrefused with
  | empty =>
    obtain ⟨rest, hslash⟩ := h.slash
    cases hslash
  | relative _ hhead =>
    obtain ⟨rest, rfl⟩ := h.slash
    exact hhead rfl
  | control _ c hc hcontrol =>
    have hplain := h.plain c hc
    simp only [isControl, Bool.or_eq_false_iff, decide_eq_false_iff_not] at hplain
    exact hcontrol.elim hplain.1 hplain.2
  | fragment _ hmem => exact h.fragment hmem
  | otherHost _ c d rest heq hc hd =>
    have hhost := h.host
    rw [readsAsAnotherHost_iff.2 ⟨c, d, rest, heq, hc, hd⟩] at hhost
    cases hhost
  | surrogate _ c hc hsurrogate =>
    rw [h.text c hc] at hsurrogate
    cases hsurrogate
  | dotSegment _ segment hmem hdot => exact h.noDots segment hmem (dot_iff.2 hdot)
  | outside _ hroot heq hslash hquery =>
    rcases h.under with hunder | hunder | ⟨rest, hunder⟩ | ⟨rest, hunder⟩
    · exact hroot hunder
    · exact heq hunder
    · exact hslash rest hunder
    · exact hquery rest hunder
  | otherRoot _ c hc hchar =>
    have hplain := List.all_eq_true.1 h.plainRoot c hc
    rw [hchar.1, hchar.2] at hplain
    cases hplain
  | tooLong _ encoded hencoded hlong =>
    obtain ⟨-, rfl⟩ := asciiPath_eq_some.1 hencoded
    have hlength := h.length
    rw [← h.form] at hlength
    omega

/-- **A return path never leads off the app**, and nothing is refused without a reason. -/
theorem same_app_path (scope : Scope) (candidate : Option Str) :
    (∀ path, sameAppPath scope candidate = some path →
      ∃ text, candidate = some text ∧ IsReturnPath scope text path) ∧
    (sameAppPath scope candidate = none ↔ RefusedPath scope.rootPath candidate) := by
  cases candidate with
  | none => exact ⟨fun path h => (by cases h), fun _ => .missing, fun _ => rfl⟩
  | some candidate =>
    refine ⟨fun path h => ⟨candidate, rfl, (sameAppPath_eq_some.1 h).isReturnPath⟩, fun h => ?_,
      fun h => ?_⟩
    · by_contra hkept
      rw [sameAppPath_eq_some.2 (keepsPath_of_not_refused hkept)] at h
      cases h
    · cases hpath : sameAppPath scope (some candidate) with
      | none => rfl
      | some path => exact (not_refused_of_keepsPath (sameAppPath_eq_some.1 hpath) h).elim

end Decision

end WebAuth
