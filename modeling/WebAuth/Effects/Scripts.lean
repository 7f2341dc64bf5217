import WebAuth.Effects.Logic

/-!
# Programs against a script

A script lists calls with their answers. A program that makes these calls in this order, and perhaps
ends before the script does, runs against it, and a script leaves it one outcome.
-/

namespace Effects

namespace Program

variable {I : Interface} {ε α β : Type} {script rest : List (Event I ε)}

/-- The program makes the first calls of the script, gets their answers and ends with `r`. -/
def Runs (p : Program I ε α) (script : List (Event I ε)) (r : Except ε α) : Prop :=
  ∃ es, es <+: script ∧ Path p es r

theorem Path.runs {p : Program I ε α} {r : Except ε α} (h : Path p script r) :
    Runs p (script ++ rest) r := ⟨script, List.prefix_append _ _, h⟩

/-- A script leaves a program one run. -/
theorem Path.unique_in {p : Program I ε α} {es es' : List (Event I ε)} {r r' : Except ε α}
    (h : Path p es r) (h' : Path p es' r') (hes : es <+: script) (hes' : es' <+: script) :
    es = es' ∧ r = r' := by
  induction p generalizing script es es' with
  | ret a =>
    obtain ⟨rfl, rfl⟩ := h
    obtain ⟨rfl, rfl⟩ := h'
    exact ⟨rfl, rfl⟩
  | raise e =>
    obtain ⟨rfl, rfl⟩ := h
    obtain ⟨rfl, rfl⟩ := h'
    exact ⟨rfl, rfl⟩
  | call c next ih =>
    obtain ⟨ans, es, rfl, hpath⟩ := h
    obtain ⟨ans', es', rfl, hpath'⟩ := h'
    obtain ⟨t, rfl⟩ := hes
    rw [List.cons_append, List.cons_prefix_cons] at hes'
    obtain ⟨heq, hprefix⟩ := hes'
    cases heq
    obtain ⟨rfl, hr⟩ := ih ans hpath hpath' (List.prefix_append _ _) hprefix
    exact ⟨rfl, hr⟩

theorem Runs.unique {p : Program I ε α} {r r' : Except ε α} (h : Runs p script r)
    (h' : Runs p script r') : r = r' := by
  obtain ⟨es, hes, hpath⟩ := h
  obtain ⟨es', hes', hpath'⟩ := h'
  exact (hpath.unique_in hpath' hes hes').2

theorem Runs.extend {p : Program I ε α} {r : Except ε α} (h : Runs p script r) :
    Runs p (script ++ rest) r := by
  obtain ⟨es, hprefix, hpath⟩ := h
  exact ⟨es, hprefix.trans (List.prefix_append _ _), hpath⟩

/-- Past a part that has returned, the rest of the script is the other part's. -/
theorem Runs.bind {p : Program I ε α} {f : α → Program I ε β} {a : α} {r : Except ε β}
    (hp : Path p script (.ok a)) (hf : Runs (f a) rest r) : Runs (p >>= f) (script ++ rest) r := by
  obtain ⟨es, hprefix, hpath⟩ := hf
  exact ⟨script ++ es, (List.prefix_append_right_inj _).2 hprefix,
    path_andThen.2 ⟨_, _, _, rfl, hp, hpath⟩⟩

theorem Path.bind_error {p : Program I ε α} {f : α → Program I ε β} {e : ε}
    (hp : Path p script (.error e)) : Path (p >>= f) script (.error e) :=
  path_andThen.2 ⟨script, [], _, by simp, hp, rfl, rfl⟩

theorem Runs.bind_error {p : Program I ε α} {f : α → Program I ε β} {e : ε}
    (hp : Runs p script (.error e)) : Runs (p >>= f) script (.error e) := by
  obtain ⟨es, hprefix, hpath⟩ := hp
  exact ⟨es, hprefix, hpath.bind_error⟩

/-- One call gets the next answer. -/
theorem Runs.call {c : I.Call} {next : Except ε (I.Answer c) → Program I ε α}
    {ans : Except ε (I.Answer c)} {r : Except ε α} (h : Runs (next ans) script r) :
    Runs (call c next) (⟨c, ans⟩ :: script) r := by
  obtain ⟨es, hprefix, hpath⟩ := h
  exact ⟨⟨c, ans⟩ :: es, List.cons_prefix_cons.2 ⟨rfl, hprefix⟩, ans, es, rfl, hpath⟩

/-- What follows an outcome that used up nothing more than its part of the script. -/
theorem Runs.andThen {p : Program I ε α} {k : Except ε α → Program I ε β} {r₁ : Except ε α}
    {r : Except ε β} (hp : Path p script r₁) (hk : Runs (k r₁) rest r) :
    Runs (p.andThen k) (script ++ rest) r := by
  obtain ⟨es, hprefix, hpath⟩ := hk
  exact ⟨script ++ es, (List.prefix_append_right_inj _).2 hprefix,
    path_andThen.2 ⟨_, _, _, rfl, hp, hpath⟩⟩

/-- After an outcome that makes no further call, wherever in the script it came. -/
theorem Runs.then_done {p : Program I ε α} {k : Except ε α → Program I ε β} {r₁ : Except ε α}
    {r : Except ε β} (hp : Runs p script r₁) (hk : Path (k r₁) [] r) :
    Runs (p.andThen k) script r := by
  obtain ⟨es, hprefix, hpath⟩ := hp
  exact ⟨es, hprefix, path_andThen.2 ⟨es, [], _, by simp, hpath, hk⟩⟩

end Program

end Effects
