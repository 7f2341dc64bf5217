import WebAuth.Effects.Logic

/-!
# Which exceptions a program raises

Where the surroundings answer as `P` says, a program raises exceptions in `E` only. The rules follow
its constructors, and one run of it is as good as the rules.
-/

namespace Effects

namespace Program

variable {I : Interface} {ε α β : Type}

/-- On answers in `P` the program raises exceptions in `E` only. -/
def RaisesOnly (P : Event I ε → Prop) (E : ε → Prop) : Program I ε α → Prop
  | ret _ => True
  | raise e => E e
  | call c next => ∀ ans, P ⟨c, ans⟩ → RaisesOnly P E (next ans)

variable {P : Event I ε → Prop} {E F : ε → Prop}

theorem raisesOnly_done {r : Except ε α} :
    RaisesOnly P E (done r : Program I ε α) ↔ ∀ e, r = .error e → E e := by
  cases r with
  | ok a => simp [RaisesOnly]
  | error e => simp [RaisesOnly]

theorem RaisesOnly.andThen {p : Program I ε α} {k : Except ε α → Program I ε β}
    (hp : RaisesOnly P F p) (hok : ∀ a, RaisesOnly P E (k (.ok a)))
    (herror : ∀ e, F e → RaisesOnly P E (k (.error e))) : RaisesOnly P E (p.andThen k) := by
  induction p with
  | ret a => exact hok a
  | raise e => exact herror e hp
  | call c next ih => exact fun ans hans => ih ans (hp ans hans)

theorem RaisesOnly.bind {p : Program I ε α} {f : α → Program I ε β} (hp : RaisesOnly P E p)
    (hf : ∀ a, RaisesOnly P E (f a)) : RaisesOnly P E (p >>= f) :=
  RaisesOnly.andThen hp hf fun _ he => he

theorem RaisesOnly.tryCatch {p : Program I ε α} {h : ε → Program I ε α} (hp : RaisesOnly P F p)
    (hh : ∀ e, F e → RaisesOnly P E (h e)) : RaisesOnly P E (tryCatch p h) :=
  RaisesOnly.andThen hp (fun _ => trivial) hh

/-- One call that answers as `P` says. -/
theorem raisesOnly_perform {c : I.Call} (h : ∀ e, P ⟨c, .error e⟩ → E e) :
    RaisesOnly P E (perform c : Program I ε (I.Answer c)) := by
  rintro (e | a) hans
  · exact h e hans
  · trivial

/-- What the rules say of a program is true of its runs. -/
theorem RaisesOnly.path {p : Program I ε α} {es : List (Event I ε)} {r : Except ε α}
    (hp : RaisesOnly P E p) (hpath : Path p es r) (hes : ∀ e ∈ es, P e) :
    ∀ e, r = .error e → E e := by
  induction p generalizing es with
  | ret a =>
    obtain ⟨-, rfl⟩ := hpath
    intro e he
    cases he
  | raise e =>
    obtain ⟨-, rfl⟩ := hpath
    intro e' he
    cases he
    exact hp
  | call c next ih =>
    obtain ⟨ans, rest, rfl, hrest⟩ := hpath
    rw [List.forall_mem_cons] at hes
    exact ih ans (hp ans hes.1) hrest hes.2

end Program

end Effects
