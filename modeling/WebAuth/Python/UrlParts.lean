import WebAuth.Python.Fields
import WebAuth.Python.Url

/-!
# The parts of a URL in its text

What `urlsplit` answers of a scheme and a network location is what stands in the URL, the scheme in
lower case.
-/

namespace Python

variable {url head rest : Str}

theorem partition_eq_none {c : CodePoint} {s t : Str} (h : partition c s = (t, none)) : s = t := by
  have hnot : c ∉ s := by
    intro hmem
    obtain ⟨before, after, rfl, hbefore⟩ := List.eq_append_cons_of_mem hmem
    rw [partition_append hbefore] at h
    cases h
  rw [partition_of_not_mem hnot] at h
  exact (Prod.mk.inj h).1

/-- `[A-Za-z0-9+-.]`. -/
def isSchemeCharacter (c : CodePoint) : Bool := isAlphaNum c || isOneOf "+-." c

/-- A letter, and then letters, digits, pluses, dashes and dots. -/
def isScheme (s : Str) : Bool :=
  (s.head?.any fun c => c.between 'A' 'Z' || c.between 'a' 'z') && s.all isSchemeCharacter

theorem splitScheme_append (h : isScheme head = true) :
    splitScheme (head ++ chr ':' :: rest) = (lowerAscii head, rest) := by
  have hcolon : chr ':' ∉ head := by
    intro hmem
    have hall := List.all_eq_true.1 (Bool.and_eq_true_iff.1 h).2 _ hmem
    revert hall
    decide
  unfold splitScheme
  rw [partition_append hcolon]
  exact if_pos h

/-- A scheme that is answered stands before the first colon. -/
theorem splitScheme_eq {scheme : Str} (h : splitScheme url = (scheme, rest)) (hne : scheme ≠ []) :
    ∃ head, url = head ++ chr ':' :: rest ∧ scheme = lowerAscii head ∧ isScheme head = true := by
  unfold splitScheme at h
  cases hcut : partition (chr ':') url with
  | mk head tail =>
    rw [hcut] at h
    cases tail with
    | none => exact absurd (Prod.mk.inj h).1.symm hne
    | some tail =>
      dsimp only at h
      split_ifs at h with hscheme
      · obtain ⟨rfl, rfl⟩ := Prod.mk.inj h
        exact ⟨head, (partition_eq_some hcut).1, rfl, hscheme⟩
      · exact absurd (Prod.mk.inj h).1.symm hne

/-- `[/?#]`, the characters that end a network location. -/
def endsNetloc (c : CodePoint) : Bool := isOneOf "/?#" c

/-- What `urlsplit` answers of a URL whose scheme is known. -/
theorem urlsplit_of_splitScheme {scheme : Str} (h : splitScheme url = (scheme, rest)) :
    (urlsplit url).scheme = scheme ∧ (urlsplit url).netloc =
      if startsWith rest (str "//") then (rest.drop 2).takeWhile fun c => !endsNetloc c else [] := by
  unfold urlsplit
  rw [h]
  dsimp only
  split_ifs
  · exact ⟨rfl, rfl⟩
  · exact ⟨rfl, rfl⟩

/-- **A URL with a scheme and a network location is written with them**, and what follows is empty
or begins where a network location ends. -/
theorem urlsplit_text (hscheme : (urlsplit url).scheme ≠ []) (hnetloc : (urlsplit url).netloc ≠ []) :
    ∃ head tail, url = head ++ str "://" ++ (urlsplit url).netloc ++ tail ∧
      (urlsplit url).scheme = lowerAscii head ∧ isScheme head = true ∧
      ∀ c, tail.head? = some c → endsNetloc c = true := by
  cases hcut : splitScheme url with
  | mk scheme rest =>
    obtain ⟨hparsed, hlocated⟩ := urlsplit_of_splitScheme hcut
    rw [hparsed] at hscheme ⊢
    obtain ⟨head, hurl, hlower, hhead⟩ := splitScheme_eq hcut hscheme
    rw [hlocated] at hnetloc ⊢
    split_ifs at hnetloc ⊢ with hslashes
    · obtain ⟨after, hafter⟩ := startsWith_iff.1 hslashes
      have hdrop : rest.drop 2 = after := by
        rw [hafter]
        rfl
      rw [hdrop]
      refine ⟨head, after.dropWhile fun c => !endsNetloc c, ?_, hlower, hhead, fun c hc => ?_⟩
      · rw [List.append_assoc, List.takeWhile_append_dropWhile, hurl, hafter, List.append_assoc]
        rfl
      · have hstop := List.head?_dropWhile_not (fun c => !endsNetloc c) after
        rw [hc] at hstop
        simpa using hstop
    · exact absurd rfl hnetloc

end Python
