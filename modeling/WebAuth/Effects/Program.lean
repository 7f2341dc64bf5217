import Mathlib

/-!
# Programs over calls

A program ends with a value, ends with an exception, or makes one call to its surroundings and
goes on with the answer. An answer is a value or an exception, so every call may fail. The
surroundings are not part of a program: `Logic` runs one program against a handler of its calls,
`Interleaving` runs many over one shared state.
-/

namespace Effects

/-- The calls a program may make, and what each of them answers. -/
structure Interface where
  Call : Type
  Answer : Call → Type

/-- A program over the interface `I` with exceptions in `ε` and values in `α`. -/
inductive Program (I : Interface) (ε α : Type) where
  | ret (a : α)
  | raise (e : ε)
  | call (c : I.Call) (next : Except ε (I.Answer c) → Program I ε α)

/-- One call and what came back. -/
structure Event (I : Interface) (ε : Type) where
  call : I.Call
  answer : Except ε (I.Answer call)

namespace Program

variable {I J : Interface} {ε α β γ : Type}

/-- Run the program and continue with its outcome, whether it returned or raised. -/
def andThen : Program I ε α → (Except ε α → Program I ε β) → Program I ε β
  | ret a, k => k (.ok a)
  | raise e, k => k (.error e)
  | call c next, k => call c fun ans => andThen (next ans) k

/-- The program that ends with the outcome `r`. -/
def done : Except ε α → Program I ε α
  | .ok a => ret a
  | .error e => raise e

@[simp] theorem done_ok (a : α) : done (I := I) (.ok a : Except ε α) = ret a := rfl

@[simp] theorem done_error (e : ε) : done (I := I) (.error e : Except ε α) = raise e := rfl

/-- A continuation that only runs after a return. -/
def onReturn (f : α → Program I ε β) : Except ε α → Program I ε β
  | .ok a => f a
  | .error e => raise e

/-- A continuation that only runs after an exception. -/
def onRaise (h : ε → Program I ε α) : Except ε α → Program I ε α
  | .ok a => ret a
  | .error e => h e

@[simp] theorem onReturn_ok (f : α → Program I ε β) (a : α) : onReturn f (.ok a) = f a := rfl

@[simp] theorem onReturn_error (f : α → Program I ε β) (e : ε) :
    onReturn f (.error e) = raise e := rfl

@[simp] theorem onRaise_ok (h : ε → Program I ε α) (a : α) : onRaise h (.ok a) = ret a := rfl

@[simp] theorem onRaise_error (h : ε → Program I ε α) (e : ε) : onRaise h (.error e) = h e := rfl

/-- Make one call. -/
def perform (c : I.Call) : Program I ε (I.Answer c) := call c done

theorem andThen_assoc (p : Program I ε α) (f : Except ε α → Program I ε β)
    (g : Except ε β → Program I ε γ) :
    (p.andThen f).andThen g = p.andThen fun r => (f r).andThen g := by
  induction p with
  | ret a => rfl
  | raise e => rfl
  | call c next ih =>
    show call c _ = call c _
    congr 1
    funext ans
    exact ih ans

instance : Monad (Program I ε) where
  pure := ret
  bind p f := p.andThen (onReturn f)

instance : MonadExceptOf ε (Program I ε) where
  throw := raise
  tryCatch p h := p.andThen (onRaise h)

@[simp] theorem pure_eq (a : α) : (pure a : Program I ε α) = ret a := rfl

@[simp] theorem bind_eq (p : Program I ε α) (f : α → Program I ε β) :
    (p >>= f) = p.andThen (onReturn f) := rfl

@[simp] theorem map_eq (p : Program I ε α) (f : α → β) :
    (f <$> p) = p.andThen (onReturn fun a => ret (f a)) := rfl

@[simp] theorem throw_eq (e : ε) : (throw e : Program I ε α) = raise e := rfl

@[simp] theorem tryCatch_eq (p : Program I ε α) (h : ε → Program I ε α) :
    tryCatch p h = p.andThen (onRaise h) := rfl

@[simp] theorem ret_andThen (a : α) (k : Except ε α → Program I ε β) :
    (ret a).andThen k = k (.ok a) := rfl

@[simp] theorem raise_andThen (e : ε) (k : Except ε α → Program I ε β) :
    (raise e : Program I ε α).andThen k = k (.error e) := rfl

@[simp] theorem call_andThen (c : I.Call) (next : Except ε (I.Answer c) → Program I ε α)
    (k : Except ε α → Program I ε β) :
    (call c next).andThen k = call c fun ans => (next ans).andThen k := rfl

@[simp] theorem perform_andThen (c : I.Call) (k : Except ε (I.Answer c) → Program I ε β) :
    (perform c).andThen k = call c k := by
  show call c (fun ans => (done ans).andThen k) = call c k
  congr 1
  funext ans
  cases ans <;> rfl

@[simp] theorem done_andThen (r : Except ε α) (k : Except ε α → Program I ε β) :
    (done r).andThen k = k r := by
  cases r <;> rfl

/-- Every call of the program satisfies `P`, whatever is answered. -/
def Only (P : I.Call → Prop) : Program I ε α → Prop
  | ret _ => True
  | raise _ => True
  | call c next => P c ∧ ∀ ans, Only P (next ans)

section Only

variable {P Q : I.Call → Prop}

@[simp] theorem only_ret (a : α) : Only P (ret a : Program I ε α) := trivial

@[simp] theorem only_raise (e : ε) : Only P (raise e : Program I ε α) := trivial

@[simp] theorem only_done (r : Except ε α) : Only P (done r : Program I ε α) := by
  cases r <;> trivial

@[simp] theorem only_call (c : I.Call) (next : Except ε (I.Answer c) → Program I ε α) :
    Only P (call c next) ↔ P c ∧ ∀ ans, Only P (next ans) := Iff.rfl

theorem Only.andThen {p : Program I ε α} {k : Except ε α → Program I ε β}
    (hp : Only P p) (hk : ∀ r, Only P (k r)) : Only P (p.andThen k) := by
  induction p with
  | ret a => exact hk _
  | raise e => exact hk _
  | call c next ih => exact ⟨hp.1, fun ans => ih ans (hp.2 ans)⟩

theorem Only.onReturn {f : α → Program I ε β} (hf : ∀ a, Only P (f a)) (r : Except ε α) :
    Only P (Program.onReturn f r) := by
  cases r with
  | ok a => exact hf a
  | error e => trivial

theorem Only.onRaise {h : ε → Program I ε α} (hh : ∀ e, Only P (h e)) (r : Except ε α) :
    Only P (Program.onRaise h r) := by
  cases r with
  | ok a => trivial
  | error e => exact hh e

theorem Only.bind {p : Program I ε α} {f : α → Program I ε β} (hp : Only P p)
    (hf : ∀ a, Only P (f a)) : Only P (p >>= f) :=
  Only.andThen hp (Only.onReturn hf)

theorem Only.mono {p : Program I ε α} (hp : Only P p) (h : ∀ c, P c → Q c) : Only Q p := by
  induction p with
  | ret a => trivial
  | raise e => trivial
  | call c next ih => exact ⟨h c hp.1, fun ans => ih ans (hp.2 ans)⟩

end Only

end Program

end Effects
