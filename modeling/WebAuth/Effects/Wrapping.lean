import WebAuth.Effects.Logic

/-!
# Programs around programs

A wrapper serves the calls of a program through another interface: each call becomes a program of
its own, which reads and writes a state that is private to the wrapper. What a wrapped program did
is told twice, by the calls it made itself (`Serves` on the left) and by the calls its wrapper made
for it (on the right).
-/

namespace Effects

/-- How a wrapper with a private state serves one call: what it answers, and the state after. An
exception of the serving program itself is the answer, and leaves the state. -/
def Wrapper (σ : Type) (I J : Interface) (ε : Type) : Type :=
  σ → (c : I.Call) → Program J ε (Except ε (I.Answer c) × σ)

namespace Program

variable {σ : Type} {I J : Interface} {ε α β : Type}

/-- The program inside the wrapper: its outcome, and the private state it leaves. -/
def served (w : Wrapper σ I J ε) : Program I ε α → σ → Program J ε (Except ε α × σ)
  | ret a, s => ret (.ok a, s)
  | raise e, s => ret (.error e, s)
  | call c next, s => (w s c).andThen fun
    | .ok (ans, s') => served w (next ans) s'
    | .error e => served w (next (.error e)) s

/-- The calls a program made and the calls its wrapper made for them, with the private state before
and after. -/
inductive Serves (w : Wrapper σ I J ε) :
    σ → List (Event I ε) → List (Event J ε) → σ → Prop where
  | nil (s : σ) : Serves w s [] [] s
  | answered {s s₁ s' : σ} {c : I.Call} {ans : Except ε (I.Answer c)} {own : List (Event I ε)}
      {first rest : List (Event J ε)} (hstep : Path (w s c) first (.ok (ans, s₁)))
      (hrest : Serves w s₁ own rest s') : Serves w s (⟨c, ans⟩ :: own) (first ++ rest) s'
  | raised {s s' : σ} {c : I.Call} {e : ε} {own : List (Event I ε)}
      {first rest : List (Event J ε)} (hstep : Path (w s c) first (.error e))
      (hrest : Serves w s own rest s') : Serves w s (⟨c, .error e⟩ :: own) (first ++ rest) s'

/-- What a program does in surroundings that answer every call from a state of theirs. -/
def play (respond : σ → (c : I.Call) → Except ε (I.Answer c) × σ) :
    Program I ε α → σ → List (Event I ε) × Except ε α
  | ret a, _ => ([], .ok a)
  | raise e, _ => ([], .error e)
  | call c next, s =>
    let (events, r) := play respond (next (respond s c).1) (respond s c).2
    (⟨c, (respond s c).1⟩ :: events, r)

/-- The state those surroundings are left in. -/
def stateAfter (respond : σ → (c : I.Call) → Except ε (I.Answer c) × σ) : Program I ε α → σ → σ
  | ret _, s => s
  | raise _, s => s
  | call c next, s => stateAfter respond (next (respond s c).1) (respond s c).2

theorem path_play (respond : σ → (c : I.Call) → Except ε (I.Answer c) × σ) (p : Program I ε α)
    (s : σ) : Path p (play respond p s).1 (play respond p s).2 := by
  induction p generalizing s with
  | ret a => exact ⟨rfl, rfl⟩
  | raise e => exact ⟨rfl, rfl⟩
  | call c next ih => exact ⟨_, _, rfl, ih _ _⟩

/-- **What a wrapped program does is a path of the program**, served call by call. -/
theorem path_served {w : Wrapper σ I J ε} {p : Program I ε α} {s : σ} {es : List (Event J ε)}
    {r : Except ε (Except ε α × σ)} (h : Path (served w p s) es r) :
    ∃ own r' s', r = .ok (r', s') ∧ Path p own r' ∧ Serves w s own es s' := by
  induction p generalizing s es with
  | ret a =>
    obtain ⟨rfl, rfl⟩ := h
    exact ⟨[], .ok a, s, rfl, ⟨rfl, rfl⟩, .nil s⟩
  | raise e =>
    obtain ⟨rfl, rfl⟩ := h
    exact ⟨[], .error e, s, rfl, ⟨rfl, rfl⟩, .nil s⟩
  | call c next ih =>
    rw [served, path_andThen] at h
    obtain ⟨first, rest, r₁, rfl, hstep, hrest⟩ := h
    cases r₁ with
    | error e =>
      obtain ⟨own, r', s', rfl, hpath, hserves⟩ := ih (.error e) hrest
      exact ⟨⟨c, .error e⟩ :: own, r', s', rfl, ⟨_, own, rfl, hpath⟩, .raised hstep hserves⟩
    | ok out =>
      obtain ⟨ans, s₁⟩ := out
      obtain ⟨own, r', s', rfl, hpath, hserves⟩ := ih ans hrest
      exact ⟨⟨c, ans⟩ :: own, r', s', rfl, ⟨ans, own, rfl, hpath⟩, .answered hstep hserves⟩

end Program

end Effects
