import WebAuth.Effects.Interleaving

/-!
# Executing a run from a schedule

A handler is a relation, since the surroundings may answer a call in many ways. A responder picks
one answer for each choice of the surroundings, so a schedule, which lists the thread of each step
and what the surroundings choose at it, executes to one run. A program alone executes to one outcome.
-/

namespace Effects

open Program

variable {σ ι χ : Type} [DecidableEq ι] {I : Interface} {ε α : Type}

/-- How the surroundings answer a call once they have chosen `x`; `none` when the choice does not
fit the call. Every answer is one the handler allows. -/
structure Responder (H : Handler σ I ε) (χ : Type) where
  respond : χ → σ → (c : I.Call) → Option (Except ε (I.Answer c) × σ)
  allowed : ∀ x s c ans s', respond x s c = some (ans, s') → H s c ans s'

/-- Where a run stands. -/
structure Moment (σ ι : Type) (I : Interface) (ε α : Type) where
  history : List (ι × Event I ε)
  state : σ
  pool : ι → Program I ε α

/-- The moment at which no thread has made a call. -/
def Moment.before (s₀ : σ) (progs : ι → Program I ε α) : Moment σ ι I ε α := ⟨[], s₀, progs⟩

variable {H : Handler σ I ε}

/-- One step of the thread `i`; `none` when it has ended or the choice does not fit its call. -/
def Moment.advance (m : Moment σ ι I ε α) (R : Responder H χ) (i : ι) (x : χ) :
    Option (Moment σ ι I ε α) :=
  match m.pool i with
  | .call c next =>
    (R.respond x m.state c).map fun answered =>
      ⟨m.history ++ [(i, ⟨c, answered.1⟩)], answered.2, Function.update m.pool i (next answered.1)⟩
  | _ => none

/-- The moment a schedule leads to, when every step of it can be taken. -/
def Moment.execute (R : Responder H χ) :
    Moment σ ι I ε α → List (ι × χ) → Option (Moment σ ι I ε α)
  | m, [] => some m
  | m, (i, x) :: schedule => (m.advance R i x).bind fun m' => Moment.execute R m' schedule

variable {R : Responder H χ} {s₀ : σ} {progs : ι → Program I ε α} {m m' : Moment σ ι I ε α}

theorem Moment.advance_run {i : ι} {x : χ} (hm : m.advance R i x = some m')
    (hr : Run H s₀ progs m.history m.state m.pool) :
    Run H s₀ progs m'.history m'.state m'.pool := by
  unfold Moment.advance at hm
  split at hm
  · rename_i c next stands
    obtain ⟨⟨ans, s'⟩, hresp, rfl⟩ := Option.map_eq_some_iff.1 hm
    exact hr.step stands (R.allowed _ _ _ _ _ hresp)
  · cases hm

/-- **A schedule executes to a run.** -/
theorem Moment.execute_run {schedule : List (ι × χ)} (hm : m.execute R schedule = some m')
    (hr : Run H s₀ progs m.history m.state m.pool) :
    Run H s₀ progs m'.history m'.state m'.pool := by
  induction schedule generalizing m with
  | nil =>
    cases hm
    exact hr
  | cons step schedule ih =>
    obtain ⟨m₁, hstep, hrest⟩ := Option.bind_eq_some_iff.1 hm
    exact ih hrest (Moment.advance_run hstep hr)

/-- What is tested of the moment a schedule leads to is true at the end of a run. -/
theorem Moment.exists_run {schedule : List (ι × χ)} {test : Moment σ ι I ε α → Bool}
    (h : ((Moment.before s₀ progs).execute R schedule).any test = true) :
    ∃ m, Run H s₀ progs m.history m.state m.pool ∧ test m = true := by
  obtain ⟨m, hm, htest⟩ := (Option.any_eq_true _ _).1 h
  exact ⟨m, Moment.execute_run hm .start, htest⟩

/-- One program alone, the surroundings making the same choice at every call. -/
def Program.execute (R : Responder H χ) (x : χ) : Program I ε α → σ → Option (Except ε α × σ)
  | .ret a, s => some (.ok a, s)
  | .raise e, s => some (.error e, s)
  | .call c next, s => (R.respond x s c).bind fun answered =>
    Program.execute R x (next answered.1) answered.2

theorem Program.execute_does {x : χ} {p : Program I ε α} {s s' : σ} {r : Except ε α}
    (h : p.execute R x s = some (r, s')) : Does H p s r s' := by
  induction p generalizing s with
  | ret a => cases h; exact ⟨rfl, rfl⟩
  | raise e => cases h; exact ⟨rfl, rfl⟩
  | call c next ih =>
    obtain ⟨⟨ans, s₁⟩, hresp, hrest⟩ := Option.bind_eq_some_iff.1 h
    exact ⟨ans, s₁, R.allowed _ _ _ _ _ hresp, ih ans hrest⟩

/-- How a thread has ended, if it has. -/
def Program.outcome : Program I ε α → Option (Except ε α)
  | .ret a => some (.ok a)
  | .raise e => some (.error e)
  | .call _ _ => none

theorem Program.outcome_eq_some {p : Program I ε α} {r : Except ε α} (h : p.outcome = some r) :
    p = done r := by
  cases p <;> cases h <;> rfl

end Effects
