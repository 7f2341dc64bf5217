import WebAuth.Effects.Serial

/-!
# Programs whose calls come in pieces

A path of a long program is a row of short pieces, each of a kind that is understood by itself: one
call, or a bracketed stretch of calls. What every piece keeps, the whole path keeps.
-/

namespace Effects

namespace Program

variable {σ : Type} {I : Interface} {ε α β : Type} {Q : List (Event I ε) → Prop}

/-- Calls that are pieces in `Q`, one after another. -/
inductive Pieces (Q : List (Event I ε) → Prop) : List (Event I ε) → Prop
  | nil : Pieces Q []
  | cons {first rest : List (Event I ε)} (hfirst : Q first) (hrest : Pieces Q rest) :
      Pieces Q (first ++ rest)

theorem Pieces.single {es : List (Event I ε)} (h : Q es) : Pieces Q es := by
  have hcons := Pieces.cons h .nil
  rwa [List.append_nil] at hcons

theorem Pieces.append {es₁ es₂ : List (Event I ε)} (h₁ : Pieces Q es₁) (h₂ : Pieces Q es₂) :
    Pieces Q (es₁ ++ es₂) := by
  induction h₁ with
  | nil => exact h₂
  | cons hfirst _ ih =>
    rw [List.append_assoc]
    exact .cons hfirst ih

/-- What every piece keeps, the pieces keep together. -/
theorem Pieces.keeps {H : Handler σ I ε} {R : σ → σ → Prop} (hrefl : ∀ s, R s s)
    (htrans : ∀ {a b c}, R a b → R b c → R a c)
    (hpiece : ∀ es s s', Q es → Steps H s es s' → R s s') {es : List (Event I ε)} {s s' : σ}
    (h : Pieces Q es) (hsteps : Steps H s es s') : R s s' := by
  induction h generalizing s with
  | nil => exact hsteps ▸ hrefl s
  | cons hfirst _ ih =>
    obtain ⟨s₁, h₁, h₂⟩ := steps_append.1 hsteps
    exact htrans (hpiece _ _ _ hfirst h₁) (ih h₂)

/-- Every path of the program comes in pieces. -/
def ComesIn (Q : List (Event I ε) → Prop) (p : Program I ε α) : Prop :=
  ∀ es r, Path p es r → Pieces Q es

theorem comesIn_done (r : Except ε α) : ComesIn Q (done r : Program I ε α) := by
  intro es r' h
  obtain ⟨rfl, -⟩ := path_done.1 h
  exact .nil

theorem ComesIn.andThen {p : Program I ε α} {k : Except ε α → Program I ε β}
    (hp : ComesIn Q p) (hk : ∀ r, ComesIn Q (k r)) : ComesIn Q (p.andThen k) := by
  intro es r h
  obtain ⟨es₁, es₂, r₁, rfl, h₁, h₂⟩ := path_andThen.1 h
  exact (hp es₁ r₁ h₁).append (hk r₁ es₂ r h₂)

theorem ComesIn.bind {p : Program I ε α} {f : α → Program I ε β} (hp : ComesIn Q p)
    (hf : ∀ a, ComesIn Q (f a)) : ComesIn Q (p >>= f) := by
  refine hp.andThen fun r => ?_
  cases r with
  | ok a => exact hf a
  | error e => exact comesIn_done (.error e)

/-- Calls that are pieces one by one. -/
theorem Only.comesIn {P : I.Call → Prop} {p : Program I ε α} (hp : Only P p)
    (hpiece : ∀ e : Event I ε, P e.call → Q [e]) : ComesIn Q p := by
  intro es r h
  have hes := hp.path h
  clear h
  induction es with
  | nil => exact .nil
  | cons e es ih =>
    have hhead := hpiece e (hes e List.mem_cons_self)
    exact .cons hhead (ih fun e' he' => hes e' (List.mem_cons_of_mem _ he'))

end Program

end Effects
