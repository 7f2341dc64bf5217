import WebAuth.Browser.HtmlTokens
import WebAuth.Python.Html

/-!
# Escaped text in a page

Text that is escaped where it stands in a page reads back as itself, up to its NULs, and leaves no
tag, title or attribute value before it ends.
-/

namespace Browser

open Python

/-! ## Runs -/

section Runs

variable (table : ReferenceTable) {s t : Str} {c : CodePoint}

theorem run_append (state : State) (s t : Str) :
    run table state (s ++ t) =
      ((run table (run table state s).1 t).1,
        (run table state s).2 ++ (run table (run table state s).1 t).2) := by
  induction s generalizing state with
  | nil => rfl
  | cons c s ih =>
    show ((run table (step table state c).1 (s ++ t)).1,
      (step table state c).2 ++ (run table (step table state c).1 (s ++ t)).2) = _
    rw [ih]
    simp only [run, List.append_assoc]

/-- A run that goes on from where another ends. -/
theorem run_trans {state middle last : State} {tokens more : List Token}
    (hs : run table state s = (middle, tokens)) (ht : run table middle t = (last, more)) :
    run table state (s ++ t) = (last, tokens ++ more) := by
  rw [run_append, hs, ht]

theorem run_singleton (state : State) (c : CodePoint) :
    run table state [c] = step table state c := by
  show ((step table state c).1, (step table state c).2 ++ []) = _
  rw [List.append_nil]

theorem run_cons {state middle last : State} {tokens more : List Token}
    (hc : step table state c = (middle, tokens)) (hs : run table middle s = (last, more)) :
    run table state (c :: s) = (last, tokens ++ more) := by
  have hfirst : run table state [c] = (middle, tokens) := by rw [run_singleton, hc]
  exact run_trans table hfirst hs

end Runs

/-! ## References -/

section References

variable (table : ReferenceTable) (context : Context)

/-- Where text put somewhere leads. -/
def Context.putStep (context : Context) (s : Str) : Step :=
  (.plain (context.put s).1, (context.put s).2)

theorem ne_semicolon_of_isAlphaNum {c : CodePoint} (h : isAlphaNum c = true) : c ≠ chr ';' := by
  rintro rfl
  revert h
  decide

/-- What begins a name begins an entry. -/
theorem begins_entry {read text : Str} (rest : Str)
    (h : table.entries.lookup (read ++ rest) = some text) :
    (table.entries.any fun entry => startsWith entry.1 read) = true := by
  have hsome : (table.entries.lookup (read ++ rest)).isSome = true := by rw [h]; rfl
  obtain ⟨entry, hentry, heq⟩ := List.lookup_isSome_iff.1 hsome
  rw [List.any_eq_true]
  refine ⟨entry, hentry, ?_⟩
  unfold startsWith
  rw [← eq_of_beq heq, List.isPrefixOf_iff_prefix]
  exact List.prefix_append _ _

/-- A letter of a name leads on in that name. -/
theorem step_named {read rest text : Str} {c : CodePoint} (longest : Option (Str × Str))
    (h : table.entries.lookup (read ++ [c] ++ rest) = some text) (hc : isAlphaNum c = true) :
    ∃ longest', stepNamed table context read longest c =
      (.reference context (.named (read ++ [c]) longest'), []) := by
  unfold stepNamed
  dsimp only
  rw [if_pos (begins_entry table rest h)]
  cases table.entries.lookup (read ++ [c]) with
  | none => exact ⟨longest, rfl⟩
  | some text =>
    refine ⟨some (read ++ [c], text), ?_⟩
    dsimp only
    rw [if_neg (ne_semicolon_of_isAlphaNum hc)]

/-- The rest of a name that ends with a semicolon. -/
theorem run_named {read rest text : Str} (longest : Option (Str × Str))
    (hname : table.entries.lookup (read ++ (rest ++ str ";")) = some text)
    (hrest : rest.all isAlphaNum = true) :
    run table (.reference context (.named read longest)) (rest ++ str ";") =
      context.putStep text := by
  induction rest generalizing read longest with
  | nil =>
    have hname : table.entries.lookup (read ++ [chr ';']) = some text := hname
    rw [List.nil_append, show str ";" = [chr ';'] from rfl, run_singleton]
    show stepNamed table context read longest (chr ';') = _
    unfold stepNamed
    dsimp only
    rw [if_pos (begins_entry table [] (by rw [List.append_nil, hname])), hname]
    rfl
  | cons c rest ih =>
    rw [List.all_cons, Bool.and_eq_true] at hrest
    have hnext : table.entries.lookup (read ++ [c] ++ (rest ++ str ";")) = some text := by
      rw [← hname, List.append_assoc]
      rfl
    obtain ⟨longest', hstep⟩ := step_named table context longest hnext hrest.1
    have hfirst : step table (.reference context (.named read longest)) c = _ := hstep
    rw [List.cons_append]
    exact run_cons table hfirst (ih longest' hnext hrest.2)

theorem step_ampersand (hreads : context.readsReferences = true)
    (hclose : context.close (chr '&') = none) :
    step table (.plain context) (chr '&') = (.reference context .start, []) := by
  show context.step (chr '&') = _
  unfold Context.step
  rw [hclose, hreads]
  rfl

/-- A reference by name is read as what it stands for. -/
theorem run_reference {letter : CodePoint} {text : Str} (rest : Str)
    (hletters : (letter :: rest).all isAlphaNum = true)
    (hname : table.entries.lookup (letter :: (rest ++ str ";")) = some text)
    (hreads : context.readsReferences = true) (hclose : context.close (chr '&') = none) :
    run table (.plain context) (chr '&' :: letter :: (rest ++ str ";")) =
      context.putStep text := by
  rw [List.all_cons, Bool.and_eq_true] at hletters
  have hbegins : table.entries.lookup ([] ++ [letter] ++ (rest ++ str ";")) = some text := hname
  obtain ⟨longest, hstep⟩ := step_named table context none hbegins hletters.1
  have hfirst : step table (.reference context .start) letter =
      (.reference context (.named [letter] longest), []) := (if_pos hletters.1).trans hstep
  exact run_cons table (step_ampersand table context hreads hclose)
    (run_cons table hfirst (run_named table context longest hname hletters.2))

/-- The reference of an apostrophe. -/
theorem run_apostrophe (hreads : context.readsReferences = true)
    (hclose : context.close (chr '&') = none) :
    run table (.plain context) (str "&#x27;") = context.putStep (str "'") := by
  have hdigits : run table (.reference context .start) (str "#x27") =
      (.reference context (.hexadecimal 0x27), []) := rfl
  have hend : run table (.reference context (.hexadecimal 0x27)) (str ";") =
      context.putStep (str "'") := by
    rw [show str ";" = [chr ';'] from rfl, run_singleton]
    rfl
  exact run_cons table (step_ampersand table context hreads hclose) (run_trans table hdigits hend)

/-! ## Texts and attribute values -/

/-- Where escaped text stands: references are read, and only a character that is escaped ends it. -/
structure Context.TakesEscaped (context : Context) : Prop where
  reads : context.readsReferences = true
  close : ∀ c, context.close c ≠ none → c = chr '<' ∨ c = chr '"' ∨ c = chr '\''

/-- A character as it is read. -/
def Context.readsAs (context : Context) (c : CodePoint) : CodePoint :=
  if context.replacesNul then replaceNul c else c

theorem Context.put_nil : context.put [] = (context, []) := by
  cases context with
  | text mode => rfl
  | value quote tag name read => simp [Context.put]

theorem Context.put_append (s t : Str) : context.put (s ++ t) =
    (((context.put s).1.put t).1, (context.put s).2 ++ ((context.put s).1.put t).2) := by
  cases context with
  | text mode => simp [Context.put]
  | value quote tag name read => simp [Context.put]

/-- Text that is put somewhere changes nothing of how more is read. -/
theorem Context.TakesEscaped.put (h : context.TakesEscaped) (s : Str) :
    (context.put s).1.TakesEscaped := by
  cases context with
  | text mode => exact h
  | value quote tag name read =>
    refine ⟨rfl, fun c hc => h.close c fun hnone => hc ?_⟩
    have hne : c ≠ quote := by
      rintro rfl
      have hsome : (Context.value c tag name read).close c = some _ := if_pos rfl
      rw [hsome] at hnone
      cases hnone
    exact if_neg hne

theorem Context.readsAs_put (s : Str) : (context.put s).1.readsAs = context.readsAs := by
  cases context <;> rfl

/-- A character that is escaped is read as itself. -/
theorem run_escapeCharacter (h : context.TakesEscaped) (c : CodePoint) :
    run table (.plain context) (escapeCharacter c) = context.putStep [context.readsAs c] := by
  have hclose : context.close (chr '&') = none := by
    by_contra hne
    rcases h.close _ hne with heq | heq | heq
    all_goals
      revert heq
      decide
  have hitself : ∀ d : CodePoint, d ≠ 0 → context.readsAs d = d := by
    intro d hd
    unfold Context.readsAs replaceNul
    rw [if_neg hd, ite_self]
  cases hplain : isPlainText c with
  | true =>
    have hopen : context.close c = none := by
      by_contra hne
      rcases h.close _ hne with rfl | rfl | rfl
      all_goals
        revert hplain
        decide
    have hamp : ¬ (c = chr '&' && context.readsReferences) = true := by
      intro hamp
      obtain rfl := of_decide_eq_true (Bool.and_eq_true_iff.1 hamp).1
      revert hplain
      decide
    rw [escapeCharacter_of_plain hplain, run_singleton]
    show context.step c = _
    unfold Context.step
    rw [hopen]
    dsimp only
    rw [if_neg hamp]
    rfl
  | false =>
    rcases not_isPlainText hplain with rfl | rfl | rfl | rfl | rfl
    · rw [hitself _ (by decide)]
      exact run_reference table context (str "mp") (by decide) table.amp h.reads hclose
    · rw [hitself _ (by decide)]
      exact run_reference table context (str "t") (by decide) table.lt h.reads hclose
    · rw [hitself _ (by decide)]
      exact run_reference table context (str "t") (by decide) table.gt h.reads hclose
    · rw [hitself _ (by decide)]
      exact run_reference table context (str "uot") (by decide) table.quot h.reads hclose
    · rw [hitself _ (by decide)]
      exact run_apostrophe table context h.reads hclose

/-- **Escaped text reads back**, a NUL replaced where that is done. -/
theorem run_htmlEscape (h : context.TakesEscaped) (s : Str) :
    run table (.plain context) (htmlEscape s) = context.putStep (s.map context.readsAs) := by
  induction s generalizing context with
  | nil =>
    show (State.plain context, []) = (State.plain (context.put []).1, (context.put []).2)
    rw [Context.put_nil]
  | cons c s ih =>
    have hrest := ih _ (h.put context [context.readsAs c])
    rw [Context.readsAs_put] at hrest
    rw [htmlEscape_cons, run_trans table (run_escapeCharacter table context h c) hrest,
      List.map_cons]
    show _ = (State.plain (context.put ([context.readsAs c] ++ s.map context.readsAs)).1,
      (context.put ([context.readsAs c] ++ s.map context.readsAs)).2)
    rw [Context.put_append]

end References

end Browser
