import WebAuth.Effects.Serial

/-!
# How often a program makes a call

What the parts of a program make together bounds what its runs make.
-/

namespace Effects

namespace Program

variable {I : Interface} {ε α β : Type} {P : I.Call → Bool}

/-- No run of the program makes more than `n` calls in `P`. -/
def AtMost (P : I.Call → Bool) (n : ℕ) (p : Program I ε α) : Prop :=
  ∀ es r, Path p es r → es.countP (fun e => P e.call) ≤ n

theorem atMost_of_only {p : Program I ε α} (h : Only (fun c => P c = false) p) : AtMost P 0 p := by
  intro es r hpath
  rw [Nat.le_zero, List.countP_eq_zero]
  intro e he
  simp [h.path hpath e he]

theorem atMost_perform (c : I.Call) : AtMost P 1 (perform c : Program I ε (I.Answer c)) := by
  rintro es r ⟨ans, rest, rfl, hrest⟩
  obtain ⟨rfl, -⟩ := path_done.1 hrest
  exact List.countP_le_length

theorem AtMost.mono {m n : ℕ} {p : Program I ε α} (h : AtMost P m p) (hle : m ≤ n) : AtMost P n p :=
  fun es r hpath => (h es r hpath).trans hle

/-- A sequence makes what its parts make. -/
theorem AtMost.andThen {m n : ℕ} {p : Program I ε α} {k : Except ε α → Program I ε β}
    (hp : AtMost P m p) (hk : ∀ r, AtMost P n (k r)) : AtMost P (m + n) (p.andThen k) := by
  intro es r hpath
  obtain ⟨es₁, es₂, r₁, rfl, h₁, h₂⟩ := path_andThen.1 hpath
  rw [List.countP_append]
  exact Nat.add_le_add (hp es₁ r₁ h₁) (hk r₁ es₂ r h₂)

theorem AtMost.bind {m n : ℕ} {p : Program I ε α} {f : α → Program I ε β} (hp : AtMost P m p)
    (hf : ∀ a, AtMost P n (f a)) : AtMost P (m + n) (p >>= f) := by
  refine hp.andThen fun r => ?_
  cases r with
  | ok a => exact hf a
  | error e =>
    have hraise : AtMost P 0 (raise e : Program I ε β) := atMost_of_only trivial
    exact hraise.mono n.zero_le

/-- Behind a part that makes none, the rest makes what the sequence makes. -/
theorem AtMost.zero_bind {n : ℕ} {p : Program I ε α} {f : α → Program I ε β} (hp : AtMost P 0 p)
    (hf : ∀ a, AtMost P n (f a)) : AtMost P n (p >>= f) :=
  (hp.bind hf).mono (Nat.zero_add n).le

/-- Before a rest that makes none, the first part makes what the sequence makes. -/
theorem AtMost.bind_zero {n : ℕ} {p : Program I ε α} {f : α → Program I ε β} (hp : AtMost P n p)
    (hf : ∀ a, AtMost P 0 (f a)) : AtMost P n (p >>= f) :=
  hp.bind hf

/-- A handler that makes none adds none. -/
theorem AtMost.tryCatch {n : ℕ} {p : Program I ε α} {h : ε → Program I ε α} (hp : AtMost P n p)
    (hh : ∀ e, AtMost P 0 (h e)) : AtMost P n (tryCatch p h) := by
  refine hp.andThen (n := 0) fun r => ?_
  cases r with
  | ok a => exact atMost_of_only trivial
  | error e => exact hh e

end Program

end Effects
