import WebAuth.Effects.Wrapping

/-!
# Programs that run one after another

The calls recorded on a path take the state of a handler along. A serial run is a list of turns,
each a whole path of one program, and what every turn keeps holds after any number of them.
-/

namespace Effects

namespace Program

variable {σ τ : Type} {I : Interface} {ε α β : Type}

/-- Under `H`, the calls recorded in `es` take `s` to `s'`. -/
def Steps (H : Handler σ I ε) : σ → List (Event I ε) → σ → Prop
  | s, [], s' => s' = s
  | s, e :: es, s' => ∃ s₁, H s e.call e.answer s₁ ∧ Steps H s₁ es s'

section Steps

variable {H : Handler σ I ε} {s s' : σ} {es es₁ es₂ : List (Event I ε)}

@[simp] theorem steps_nil : Steps H s [] s' ↔ s' = s := Iff.rfl

@[simp] theorem steps_cons {e : Event I ε} :
    Steps H s (e :: es) s' ↔ ∃ s₁, H s e.call e.answer s₁ ∧ Steps H s₁ es s' := Iff.rfl

theorem steps_append :
    Steps H s (es₁ ++ es₂) s' ↔ ∃ s₁, Steps H s es₁ s₁ ∧ Steps H s₁ es₂ s' := by
  induction es₁ generalizing s with
  | nil => simp
  | cons e es ih =>
    simp only [List.cons_append, steps_cons, ih]
    constructor
    · rintro ⟨s₁, he, s₂, h₁, h₂⟩
      exact ⟨s₂, ⟨s₁, he, h₁⟩, h₂⟩
    · rintro ⟨s₂, ⟨s₁, he, h₁⟩, h₂⟩
      exact ⟨s₁, he, s₂, h₁, h₂⟩

theorem steps_singleton {e : Event I ε} : Steps H s [e] s' ↔ H s e.call e.answer s' := by
  simp

/-- What every recorded call keeps, the calls keep together. -/
theorem Steps.keeps {P : Event I ε → Prop} {R : σ → σ → Prop} (hrefl : ∀ s, R s s)
    (htrans : ∀ {a b c}, R a b → R b c → R a c)
    (hstep : ∀ s e s', P e → H s e.call e.answer s' → R s s') (hes : ∀ e ∈ es, P e)
    (h : Steps H s es s') : R s s' := by
  induction es generalizing s with
  | nil => exact h ▸ hrefl s
  | cons e es ih =>
    obtain ⟨s₁, he, h⟩ := h
    exact htrans (hstep _ _ _ (hes e List.mem_cons_self) he)
      (ih (fun e' he' => hes e' (List.mem_cons_of_mem _ he')) h)

/-- A program that only makes calls in `P` has only such calls on its paths. -/
theorem Only.path {P : I.Call → Prop} {p : Program I ε α} {r : Except ε α} (hp : Only P p)
    (h : Path p es r) : ∀ e ∈ es, P e.call := by
  induction p generalizing es with
  | ret a =>
    obtain ⟨rfl, -⟩ := h
    simp
  | raise e =>
    obtain ⟨rfl, -⟩ := h
    simp
  | call c next ih =>
    obtain ⟨ans, rest, rfl, hrest⟩ := h
    exact List.forall_mem_cons.2 ⟨hp.1, ih ans (hp.2 ans) hrest⟩

/-- A call whose program returns has returned itself, and the rest goes on from its answer. -/
theorem perform_bind_ok {c : I.Call} {f : I.Answer c → Program I ε β} {b : β}
    (h : Path (perform c >>= f) es (.ok b)) (hsteps : Steps H s es s') :
    ∃ a rest s₁, es = ⟨c, .ok a⟩ :: rest ∧ H s c (.ok a) s₁ ∧ Path (f a) rest (.ok b) ∧
      Steps H s₁ rest s' := by
  obtain ⟨ans, rest, rfl, hrest⟩ := path_perform_andThen.1 h
  obtain ⟨s₁, hcall, hsteps⟩ := hsteps
  cases ans with
  | error e =>
    obtain ⟨-, hr⟩ := hrest
    cases hr
  | ok a => exact ⟨a, rest, s₁, rfl, hcall, hrest, hsteps⟩

/-- A program of one call ends as the call does. -/
theorem perform_steps {c : I.Call} {r : Except ε (I.Answer c)} (h : Path (perform c) es r)
    (hsteps : Steps H s es s') : es = [⟨c, r⟩] ∧ H s c r s' := by
  obtain ⟨ans, rest, rfl, hrest⟩ := h
  obtain ⟨rfl, rfl⟩ := path_done.1 hrest
  exact ⟨rfl, steps_singleton.1 hsteps⟩

/-- Surroundings that answer as a handler allows take its state along. -/
theorem steps_play {respond : σ → (c : I.Call) → Except ε (I.Answer c) × σ}
    (hallowed : ∀ s c, H s c (respond s c).1 (respond s c).2) (p : Program I ε α) (s : σ) :
    Steps H s (play respond p s).1 (stateAfter respond p s) := by
  induction p generalizing s with
  | ret a => rfl
  | raise e => rfl
  | call c next ih => exact ⟨_, hallowed s c, ih _ _⟩

end Steps

/-- One whole run of one program. -/
structure Turn (Op : Type) (I : Interface) (ε α : Type) where
  op : Op
  events : List (Event I ε)
  outcome : Except ε α

/-- A turn of the program of its operation, from `s` to `s'`. -/
structure Turn.Takes {Op : Type} (H : Handler σ I ε) (run : Op → Program I ε α)
    (turn : Turn Op I ε α) (s s' : σ) : Prop where
  path : Path (run turn.op) turn.events turn.outcome
  steps : Steps H s turn.events s'

/-- Turns that follow one another. -/
inductive Serial {Op : Type} (H : Handler σ I ε) (run : Op → Program I ε α) (s₀ : σ) :
    List (Turn Op I ε α) → σ → Prop
  | start : Serial H run s₀ [] s₀
  | next {turns : List (Turn Op I ε α)} {turn : Turn Op I ε α} {s s' : σ}
      (before : Serial H run s₀ turns s) (takes : turn.Takes H run s s') :
      Serial H run s₀ (turns ++ [turn]) s'

/-- **The induction over a serial run.** -/
theorem Serial.invariant {Op : Type} {H : Handler σ I ε} {run : Op → Program I ε α} {s₀ s : σ}
    {turns : List (Turn Op I ε α)} {J : List (Turn Op I ε α) → σ → Prop}
    (h : Serial H run s₀ turns s) (hstart : J [] s₀)
    (hnext : ∀ turns turn s s', Serial H run s₀ turns s → turn.Takes H run s s' → J turns s →
      J (turns ++ [turn]) s') : J turns s := by
  induction h with
  | start => exact hstart
  | next before takes ih => exact hnext _ _ _ _ before takes ih

end Program

end Effects
