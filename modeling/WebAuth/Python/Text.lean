import Mathlib

/-!
# Strings and bytes

A Python string is a sequence of code points, lone surrogates included, so it is a list over
`Fin 0x110000` and not a Lean `String`. Bytes are lists of `UInt8`.
-/

namespace Python

/-- A code point, surrogates included. -/
abbrev CodePoint := Fin 0x110000

/-- A Python `str`. -/
abbrev Str := List CodePoint

instance lawfulBEq_str : LawfulBEq Str := List.instLawfulBEq

/-- A Python `bytes`. -/
abbrev Bytes := List UInt8

/-- The code point of a Lean character. -/
def CodePoint.ofChar (c : Char) : CodePoint :=
  ⟨c.toNat, by
    rcases c.valid with h | ⟨_, h⟩
    · exact h.trans (by norm_num)
    · exact h⟩

/-- A string literal. -/
def str (s : String) : Str := s.toList.map CodePoint.ofChar

/-- One character of a literal. -/
def chr (c : Char) : CodePoint := CodePoint.ofChar c

/-- The code point of a byte, as Latin-1 decodes it. -/
def CodePoint.ofByte (b : UInt8) : CodePoint :=
  ⟨b.toNat, b.toNat_lt.trans (by norm_num)⟩

/-- `bytes.decode("latin-1")`. -/
def decodeLatin1 (b : Bytes) : Str := b.map CodePoint.ofByte

/-- `str.encode("latin-1")` of a string whose code points are all below 256, as every string
decoded from Latin-1 is. -/
def encodeLatin1 (s : Str) : Bytes := s.map fun c => UInt8.ofNat c.val

/-! ## Predicates -/

/-- Whether a code point is ASCII. -/
def CodePoint.isAscii (c : CodePoint) : Bool := c.val < 128

/-- `str.isascii()`. -/
def isAscii (s : Str) : Bool := s.all CodePoint.isAscii

/-- Whether a code point lies between two characters, both included. -/
def CodePoint.between (lo hi : Char) (c : CodePoint) : Bool :=
  lo.toNat ≤ c.val && c.val ≤ hi.toNat

/-- `[0-9]`. -/
def isDigit (c : CodePoint) : Bool := c.between '0' '9'

/-- `[A-Za-z0-9]`. -/
def isAlphaNum (c : CodePoint) : Bool :=
  c.between 'A' 'Z' || c.between 'a' 'z' || isDigit c

/-- `[0-9a-f]`. -/
def isHexDigit (c : CodePoint) : Bool := isDigit c || c.between 'a' 'f'

/-- `[A-Za-z0-9_-]`, the base64url alphabet. -/
def isBase64Url (c : CodePoint) : Bool := isAlphaNum c || c = chr '-' || c = chr '_'

/-- Whether a character is one of those listed. -/
def isOneOf (listed : String) (c : CodePoint) : Bool := (str listed).contains c

/-! ## Operations -/

/-- `s.startswith(prefix)`. -/
def startsWith (s start : Str) : Bool := start.isPrefixOf s

/-- `s.endswith(suffix)`. -/
def endsWith (s tail : Str) : Bool := tail.isSuffixOf s

/-- `s.split(separator)` for a separator of one character. -/
def split (separator : CodePoint) (s : Str) : List Str := s.splitOn separator

/-- `s.partition(separator)`: what stands before the first separator, and what stands after it
when there is one. -/
def partition (separator : CodePoint) : Str → Str × Option Str
  | [] => ([], none)
  | c :: s =>
    if c = separator then ([], some s)
    else ((c :: (partition separator s).1), (partition separator s).2)

/-- `s.rpartition(separator)` and `s.rsplit(separator, 1)` when `s` holds the separator: what
stands before its last occurrence and after it. -/
def rpartition (separator : CodePoint) (s : Str) : Option (Str × Str) :=
  match partition separator s.reverse with
  | (_, none) => none
  | (tail, some head) => some (head.reverse, tail.reverse)

/-- `s.lower()` of an ASCII string. -/
def lowerAscii (s : Str) : Str :=
  s.map fun c => if h : c.between 'A' 'Z' then
    ⟨c.val + 32, by
      simp only [CodePoint.between, Bool.and_eq_true, decide_eq_true_eq] at h
      have : ('Z').toNat = 90 := rfl
      omega⟩ else c

/-- The digit characters of `0 .. 15`. -/
def hexDigit (n : ℕ) : CodePoint := ((str "0123456789abcdef")[n]?).getD (chr '0')

/-- `bytes.hex()`, the form of a hex digest. -/
def hex (b : Bytes) : Str := b.flatMap fun x => [hexDigit (x.toNat / 16), hexDigit (x.toNat % 16)]

/-- `str(n)` of a natural number. -/
def decimal (n : ℕ) : Str :=
  if n = 0 then [chr '0'] else (Nat.digits 10 n).reverse.map hexDigit

/-- The number a run of digits spells. -/
def ofDecimal (s : Str) : ℕ := Nat.ofDigits 10 (s.reverse.map fun c => c.val - ('0').toNat)

/-- A list is parsed when each of its items is. -/
theorem mapM_eq_some {α β : Type} {f : α → Option β} {as : List α} {bs : List β} :
    as.mapM f = some bs ↔ List.Forall₂ (fun a b => f a = some b) as bs := by
  induction as generalizing bs with
  | nil =>
    rw [List.mapM_nil, List.forall₂_nil_left_iff]
    exact ⟨fun h => (Option.some.inj h).symm, fun h => congrArg some h.symm⟩
  | cons a as ih =>
    rw [List.mapM_cons, List.forall₂_cons_left_iff]
    constructor
    · intro h
      obtain ⟨b, hb, hrest⟩ := Option.bind_eq_some_iff.1 h
      obtain ⟨bs', hbs, heq⟩ := Option.bind_eq_some_iff.1 hrest
      exact ⟨b, bs', hb, ih.1 hbs, (Option.some.inj heq).symm⟩
    · rintro ⟨b, bs', hb, hbs, rfl⟩
      rw [hb, ih.2 hbs]
      rfl

/-! ## A string of fields -/

theorem startsWith_iff {s start : Str} : startsWith s start = true ↔ ∃ rest, s = start ++ rest := by
  unfold startsWith
  rw [List.isPrefixOf_iff_prefix]
  exact ⟨fun ⟨rest, h⟩ => ⟨rest, h.symm⟩, fun ⟨rest, h⟩ => ⟨rest, h.symm⟩⟩

/-- `separator.join(parts)` for a separator of one character. -/
def join (separator : CodePoint) (parts : List Str) : Str := [separator].intercalate parts

theorem partition_of_not_mem {c : CodePoint} {s : Str} (h : c ∉ s) :
    partition c s = (s, none) := by
  induction s with
  | nil => rfl
  | cons d s ih =>
    have hd : d ≠ c := fun heq => h (heq ▸ List.mem_cons_self)
    have hs : c ∉ s := fun hmem => h (List.mem_cons_of_mem _ hmem)
    simp [partition, hd, ih hs]

theorem partition_append {c : CodePoint} {s : Str} (h : c ∉ s) (t : Str) :
    partition c (s ++ c :: t) = (s, some t) := by
  induction s with
  | nil => simp [partition]
  | cons d s ih =>
    have hd : d ≠ c := fun heq => h (heq ▸ List.mem_cons_self)
    have hs : c ∉ s := fun hmem => h (List.mem_cons_of_mem _ hmem)
    simp [partition, hd, ih hs]

theorem rpartition_append {c : CodePoint} {t : Str} (h : c ∉ t) (s : Str) :
    rpartition c (s ++ c :: t) = some (s, t) := by
  have ht : c ∉ t.reverse := by simpa using h
  have hrev : (s ++ c :: t).reverse = t.reverse ++ c :: s.reverse := by simp
  unfold rpartition
  rw [hrev, partition_append ht]
  simp

/-! ## The ends of a string -/

theorem dropWhile_of_head {p : CodePoint → Bool} {s : Str}
    (h : ∀ c, s.head? = some c → p c = false) : s.dropWhile p = s := by
  cases s with
  | nil => rfl
  | cons c s => rw [List.dropWhile_cons_of_neg (by simp [h c rfl])]

theorem rdropWhile_of_last {p : CodePoint → Bool} {s : Str}
    (h : ∀ c, s.getLast? = some c → p c = false) : s.rdropWhile p = s := by
  unfold List.rdropWhile
  rw [dropWhile_of_head fun c hc => h c (by rwa [List.head?_reverse] at hc), List.reverse_reverse]

theorem rdropWhile_append_all {p : CodePoint → Bool} {s tail : Str}
    (h : ∀ c ∈ tail, p c = true) : (s ++ tail).rdropWhile p = s.rdropWhile p := by
  unfold List.rdropWhile
  rw [List.reverse_append, List.dropWhile_append_of_pos fun c hc => h c (List.mem_reverse.1 hc)]

theorem rdropWhile_dropWhile_eq_self {p : CodePoint → Bool} {s : Str} :
    (s.dropWhile p).rdropWhile p = s ↔
      (∀ c, s.head? = some c → p c = false) ∧ ∀ c, s.getLast? = some c → p c = false := by
  constructor
  · intro h
    have hdrop : s.dropWhile p = s := by
      refine (List.dropWhile_suffix p).eq_of_length_le ?_
      have hprefix : (s.dropWhile p).rdropWhile p <+: s.dropWhile p := List.rdropWhile_prefix p _
      rw [h] at hprefix
      exact hprefix.length_le
    rw [hdrop] at h
    constructor
    · intro c hc
      have hnot := List.head?_dropWhile_not p s
      rw [hdrop, hc] at hnot
      simpa using hnot
    · intro c hc
      obtain ⟨hne, rfl⟩ := List.mem_getLast?_eq_getLast hc
      exact Bool.eq_false_iff.2 (List.rdropWhile_eq_self_iff.1 h hne)
  · rintro ⟨hhead, hlast⟩
    rw [dropWhile_of_head hhead, rdropWhile_of_last hlast]

/-! ## The segments of a string -/

theorem split_append_cons (c : CodePoint) (s t : Str) :
    split c (s ++ c :: t) = split c s ++ split c t := by
  unfold split
  rw [List.splitOn_eq_splitOnP, List.splitOnP_append_cons _ _ (by simp)]
  rfl

theorem join_append {c : CodePoint} {a b : List Str} (ha : a ≠ []) (hb : b ≠ []) :
    join c (a ++ b) = join c a ++ c :: join c b := by
  unfold join
  induction a with
  | nil => exact absurd rfl ha
  | cons s a ih =>
    cases a with
    | nil =>
      rw [List.singleton_append, List.intercalate_cons_of_ne_nil hb, List.intercalate_singleton]
      simp
    | cons t a =>
      have hrest := ih (List.cons_ne_nil t a)
      rw [List.cons_append, List.intercalate_cons_of_ne_nil (by simp), hrest,
        List.intercalate_cons_cons]
      simp only [List.append_assoc]

theorem mem_intercalate {separator : Str} {parts : List Str} {c : CodePoint}
    (h : c ∈ separator.intercalate parts) : c ∈ separator ∨ ∃ part ∈ parts, c ∈ part := by
  induction parts with
  | nil => cases h
  | cons part parts ih =>
    cases parts with
    | nil =>
      rw [List.intercalate_singleton] at h
      exact .inr ⟨part, List.mem_cons_self, h⟩
    | cons next parts =>
      rw [List.intercalate_cons_cons, List.append_assoc, List.mem_append, List.mem_append] at h
      rcases h with h | h | h
      · exact .inr ⟨part, List.mem_cons_self, h⟩
      · exact .inl h
      · rcases ih h with h | ⟨part', hmem, h⟩
        · exact .inl h
        · exact .inr ⟨part', List.mem_cons_of_mem _ hmem, h⟩

theorem mem_join {c d : CodePoint} {parts : List Str} (h : d ∈ join c parts) :
    d = c ∨ ∃ part ∈ parts, d ∈ part := by
  rcases mem_intercalate h with h | h
  · exact .inl (List.mem_singleton.1 h)
  · exact .inr h

/-- A text's segments begin another's exactly when the text does, up to a separator. -/
theorem split_prefix_iff {c : CodePoint} {s t : Str} :
    split c s <+: split c t ↔ t = s ∨ ∃ rest, t = s ++ c :: rest := by
  constructor
  · rintro ⟨tail, htail⟩
    have hjoin : join c (split c s ++ tail) = t := by
      rw [htail]
      exact List.intercalate_splitOn c
    by_cases hnil : tail = []
    · left
      rw [← hjoin, hnil, List.append_nil]
      exact List.intercalate_splitOn c
    · right
      refine ⟨join c tail, ?_⟩
      have hsplit : split c s ≠ [] := List.splitOn_ne_nil c s
      rw [← hjoin, join_append hsplit hnil]
      congr 1
      exact List.intercalate_splitOn c
  · rintro (rfl | ⟨rest, rfl⟩)
    · exact List.prefix_rfl
    · rw [split_append_cons]
      exact List.prefix_append _ _

theorem split_injective (c : CodePoint) : Function.Injective (split c) :=
  Function.LeftInverse.injective fun _ => List.intercalate_splitOn c

end Python
