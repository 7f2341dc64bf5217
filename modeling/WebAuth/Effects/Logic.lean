import WebAuth.Effects.Program

/-!
# Running a program against a handler, and reasoning about it

A handler says which answers a call may get in a state, and which state follows. `Does` is the
outcome relation of one program under a handler, `Ensures` the matching program logic: every call
is allowed where it is made, and every outcome satisfies the postcondition. The rules of `Ensures`
follow the constructors of a program, so `simp` executes a program symbolically.

`Path` is the run of a program against recorded answers alone. A handler that records its calls
turns a fact about `Path` into an `Ensures`, where the state is the history so far.
-/

namespace Effects

/-- In which states a call may get an answer, and the states it may leave behind. -/
def Handler (σ : Type) (I : Interface) (ε : Type) : Type :=
  σ → (c : I.Call) → Except ε (I.Answer c) → σ → Prop

namespace Program

variable {σ τ : Type} {I : Interface} {ε α β : Type}

/-! ## Outcomes -/

/-- Under `H`, the program takes `s` to `s'` and ends with `r`. -/
def Does (H : Handler σ I ε) : Program I ε α → σ → Except ε α → σ → Prop
  | ret a, s, r, s' => r = .ok a ∧ s' = s
  | raise e, s, r, s' => r = .error e ∧ s' = s
  | call c next, s, r, s' => ∃ ans s₁, H s c ans s₁ ∧ Does H (next ans) s₁ r s'

@[simp] theorem does_ret {H : Handler σ I ε} {a : α} {s s' : σ} {r : Except ε α} :
    Does H (ret a) s r s' ↔ r = .ok a ∧ s' = s := Iff.rfl

@[simp] theorem does_raise {H : Handler σ I ε} {e : ε} {s s' : σ} {r : Except ε α} :
    Does H (raise e) s r s' ↔ r = .error e ∧ s' = s := Iff.rfl

@[simp] theorem does_call {H : Handler σ I ε} {c : I.Call}
    {next : Except ε (I.Answer c) → Program I ε α} {s s' : σ} {r : Except ε α} :
    Does H (call c next) s r s' ↔ ∃ ans s₁, H s c ans s₁ ∧ Does H (next ans) s₁ r s' := Iff.rfl

/-! ## The program logic -/

/-- From `s`, the program makes only calls that `ok` allows in the state they are made in, and
each of its outcomes satisfies `Q`. -/
def Ensures (H : Handler σ I ε) (ok : σ → I.Call → Prop) :
    Program I ε α → σ → (Except ε α → σ → Prop) → Prop
  | ret a, s, Q => Q (.ok a) s
  | raise e, s, Q => Q (.error e) s
  | call c next, s, Q => ok s c ∧ ∀ ans s', H s c ans s' → Ensures H ok (next ans) s' Q

section Ensures

variable {H : Handler σ I ε} {ok : σ → I.Call → Prop} {s : σ}

@[simp] theorem ensures_ret {a : α} {Q : Except ε α → σ → Prop} :
    Ensures H ok (ret a) s Q ↔ Q (.ok a) s := Iff.rfl

@[simp] theorem ensures_raise {e : ε} {Q : Except ε α → σ → Prop} :
    Ensures H ok (raise e) s Q ↔ Q (.error e) s := Iff.rfl

@[simp] theorem ensures_call {c : I.Call} {next : Except ε (I.Answer c) → Program I ε α}
    {Q : Except ε α → σ → Prop} :
    Ensures H ok (call c next) s Q ↔
      ok s c ∧ ∀ ans s', H s c ans s' → Ensures H ok (next ans) s' Q := Iff.rfl

@[simp] theorem ensures_done {r : Except ε α} {Q : Except ε α → σ → Prop} :
    Ensures H ok (done r) s Q ↔ Q r s := by
  cases r <;> rfl

/-- The rule of sequence. -/
theorem ensures_andThen {p : Program I ε α} {k : Except ε α → Program I ε β}
    {Q : Except ε β → σ → Prop} :
    Ensures H ok (p.andThen k) s Q ↔ Ensures H ok p s fun r s' => Ensures H ok (k r) s' Q := by
  induction p generalizing s with
  | ret a => rfl
  | raise e => rfl
  | call c next ih => simp only [call_andThen, ensures_call, ih]

theorem Ensures.mono {p : Program I ε α} {Q R : Except ε α → σ → Prop}
    (hp : Ensures H ok p s Q) (h : ∀ r s', Q r s' → R r s') : Ensures H ok p s R := by
  induction p generalizing s with
  | ret a => exact h _ _ hp
  | raise e => exact h _ _ hp
  | call c next ih => exact ⟨hp.1, fun ans s' hc => ih ans (hp.2 ans s' hc)⟩

/-- What is verified with fewer calls allowed is verified with more. -/
theorem Ensures.allow {ok' : σ → I.Call → Prop} {p : Program I ε α} {Q : Except ε α → σ → Prop}
    (hp : Ensures H ok p s Q) (hok : ∀ s c, ok s c → ok' s c) : Ensures H ok' p s Q := by
  induction p generalizing s with
  | ret a => exact hp
  | raise e => exact hp
  | call c next ih => exact ⟨hok _ _ hp.1, fun ans s' hc => ih ans (hp.2 ans s' hc)⟩

theorem Ensures.and {p : Program I ε α} {Q R : Except ε α → σ → Prop}
    (hq : Ensures H ok p s Q) (hr : Ensures H ok p s R) :
    Ensures H ok p s fun r s' => Q r s' ∧ R r s' := by
  induction p generalizing s with
  | ret a => exact ⟨hq, hr⟩
  | raise e => exact ⟨hq, hr⟩
  | call c next ih => exact ⟨hq.1, fun ans s' hc => ih ans (hq.2 ans s' hc) (hr.2 ans s' hc)⟩

/-- A program that only makes calls in `P` keeps what every such call keeps. -/
theorem Only.ensures {P : I.Call → Prop} {Inv : σ → Prop} {p : Program I ε α} (hp : Only P p)
    (hok : ∀ s c, P c → Inv s → ok s c)
    (hkeep : ∀ s c ans s', P c → Inv s → H s c ans s' → Inv s') (hs : Inv s) :
    Ensures H ok p s fun _ s' => Inv s' := by
  induction p generalizing s with
  | ret a => exact hs
  | raise e => exact hs
  | call c next ih =>
    exact ⟨hok s c hp.1 hs, fun ans s' hc => ih ans (hp.2 ans) (hkeep s c ans s' hp.1 hs hc)⟩

/-- What the logic proves of a program is true of its runs. -/
theorem Does.sound {p : Program I ε α} {Q : Except ε α → σ → Prop} {r : Except ε α} {s' : σ}
    (hd : Does H p s r s') (hp : Ensures H ok p s Q) : Q r s' := by
  induction p generalizing s with
  | ret a =>
    obtain ⟨rfl, rfl⟩ := hd
    exact hp
  | raise e =>
    obtain ⟨rfl, rfl⟩ := hd
    exact hp
  | call c next ih =>
    obtain ⟨ans, s₁, hc, hd⟩ := hd
    exact ih ans hd (hp.2 ans s₁ hc)

end Ensures

/-! ## Recorded runs -/

/-- On the answers recorded in `es`, the program makes exactly these calls and ends with `r`. -/
def Path : Program I ε α → List (Event I ε) → Except ε α → Prop
  | ret a, es, r => es = [] ∧ r = .ok a
  | raise e, es, r => es = [] ∧ r = .error e
  | call c next, es, r => ∃ ans rest, es = ⟨c, ans⟩ :: rest ∧ Path (next ans) rest r

theorem path_call_cons {c : I.Call} {next : Except ε (I.Answer c) → Program I ε α}
    {ans : Except ε (I.Answer c)} {es : List (Event I ε)} {r : Except ε α} :
    Path (call c next) (⟨c, ans⟩ :: es) r ↔ Path (next ans) es r := by
  constructor
  · rintro ⟨ans', rest, heq, h⟩
    obtain ⟨he, rfl⟩ := List.cons.inj heq
    cases he
    exact h
  · intro h
    exact ⟨ans, es, rfl, h⟩

/-- A sequence runs its parts one after the other. -/
theorem path_andThen {p : Program I ε α} {k : Except ε α → Program I ε β}
    {es : List (Event I ε)} {r : Except ε β} :
    Path (p.andThen k) es r ↔
      ∃ es₁ es₂ r₁, es = es₁ ++ es₂ ∧ Path p es₁ r₁ ∧ Path (k r₁) es₂ r := by
  induction p generalizing es with
  | ret a => simp [Path]
  | raise e => simp [Path]
  | call c next ih =>
    simp only [call_andThen, Path, ih]
    constructor
    · rintro ⟨ans, _, rfl, es₁, es₂, r₁, rfl, hp, hk⟩
      exact ⟨⟨c, ans⟩ :: es₁, es₂, r₁, rfl, ⟨ans, es₁, rfl, hp⟩, hk⟩
    · rintro ⟨_, es₂, r₁, rfl, ⟨ans, es₁, rfl, hp⟩, hk⟩
      exact ⟨ans, es₁ ++ es₂, rfl, es₁, es₂, r₁, rfl, hp, hk⟩

theorem path_perform_andThen {c : I.Call} {k : Except ε (I.Answer c) → Program I ε α}
    {es : List (Event I ε)} {r : Except ε α} :
    Path ((perform c).andThen k) es r ↔ ∃ ans rest, es = ⟨c, ans⟩ :: rest ∧ Path (k ans) rest r := by
  rw [perform_andThen]
  rfl

theorem path_done {r r' : Except ε α} {es : List (Event I ε)} :
    Path (done r) es r' ↔ es = [] ∧ r' = r := by
  cases r <;> rfl

/-- A sequence that returns has returned in both parts. -/
theorem path_bind_ok {p : Program I ε α} {f : α → Program I ε β} {es : List (Event I ε)} {b : β}
    (h : Path (p >>= f) es (.ok b)) :
    ∃ es₁ es₂ a, es = es₁ ++ es₂ ∧ Path p es₁ (.ok a) ∧ Path (f a) es₂ (.ok b) := by
  obtain ⟨es₁, es₂, r, rfl, hp, hf⟩ := path_andThen.1 h
  cases r with
  | ok a => exact ⟨es₁, es₂, a, rfl, hp, hf⟩
  | error e =>
    obtain ⟨-, hr⟩ := hf
    cases hr

/-- Past a part that has returned, a sequence runs on as its other part does. -/
theorem Path.bind_rest {p : Program I ε α} {f : α → Program I ε β} {es₁ es₂ : List (Event I ε)}
    {a : α} {r : Except ε β} (h : Path p es₁ (.ok a)) :
    Path (p >>= f) (es₁ ++ es₂) r ↔ Path (f a) es₂ r := by
  induction p generalizing es₁ with
  | ret b =>
    obtain ⟨rfl, hb⟩ := h
    obtain rfl := Except.ok.inj hb
    rfl
  | raise e =>
    obtain ⟨-, hr⟩ := h
    cases hr
  | call c next ih =>
    obtain ⟨ans, rest, rfl, hrest⟩ := h
    rw [← ih ans hrest]
    exact path_call_cons

/-- A program that returns leaves nothing to a handler of its exceptions. -/
theorem Path.tryCatch {p : Program I ε α} {h : ε → Program I ε α} {es : List (Event I ε)} {a : α}
    (hp : Path p es (.ok a)) : Path (tryCatch p h) es (.ok a) := by
  rw [tryCatch_eq, ← List.append_nil es]
  exact path_andThen.2 ⟨es, [], _, rfl, hp, rfl, rfl⟩

/-- The answers recorded in `es` take the program to the rest `q` of it. -/
def After : Program I ε α → List (Event I ε) → Program I ε α → Prop
  | p, [], q => q = p
  | ret _, _ :: _, _ => False
  | raise _, _ :: _, _ => False
  | call c next, e :: es, q => ∃ ans, e = ⟨c, ans⟩ ∧ After (next ans) es q

@[simp] theorem after_nil {p q : Program I ε α} : After p [] q ↔ q = p := by
  cases p <;> rfl

@[simp] theorem after_call_cons {c : I.Call} {next : Except ε (I.Answer c) → Program I ε α}
    {e : Event I ε} {es : List (Event I ε)} {q : Program I ε α} :
    After (call c next) (e :: es) q ↔ ∃ ans, e = ⟨c, ans⟩ ∧ After (next ans) es q := Iff.rfl

/-- One more answer goes to the call the rest of the program stands at. -/
theorem After.snoc {p : Program I ε α} {es : List (Event I ε)} {c : I.Call}
    {next : Except ε (I.Answer c) → Program I ε α} (h : After p es (call c next))
    (ans : Except ε (I.Answer c)) : After p (es ++ [⟨c, ans⟩]) (next ans) := by
  induction es generalizing p with
  | nil =>
    rw [after_nil] at h
    subst h
    exact ⟨ans, rfl, after_nil.2 rfl⟩
  | cons e es ih =>
    cases p with
    | ret a => exact h.elim
    | raise e' => exact h.elim
    | call c' next' =>
      obtain ⟨ans', he, h⟩ := h
      exact ⟨ans', he, ih h⟩

theorem after_done {p : Program I ε α} {es : List (Event I ε)} {r : Except ε α} :
    After p es (done r) ↔ Path p es r := by
  induction p generalizing es with
  | ret a => cases es <;> cases r <;> simp [After, Path, eq_comm]
  | raise e => cases es <;> cases r <;> simp [After, Path, eq_comm]
  | call c next ih =>
    cases es with
    | nil => cases r <;> simp [Path]
    | cons e es =>
      simp only [after_call_cons, ih, Path, List.cons.injEq]
      constructor
      · rintro ⟨ans, rfl, h⟩
        exact ⟨ans, es, ⟨rfl, rfl⟩, h⟩
      · rintro ⟨ans, rest, ⟨rfl, rfl⟩, h⟩
        exact ⟨ans, rfl, h⟩

/-- The handler that gives any answer `answers` accepts and keeps the history of calls. -/
def record (answers : List (Event I ε) → Event I ε → Prop) : Handler (List (Event I ε)) I ε :=
  fun h c ans h' => answers h ⟨c, ans⟩ ∧ h' = h ++ [⟨c, ans⟩]

/-- The answers of `es` are accepted one after the other, `h` being the history before them. -/
def Accepted (answers : List (Event I ε) → Event I ε → Prop) :
    List (Event I ε) → List (Event I ε) → Prop
  | _, [] => True
  | h, e :: es => answers h e ∧ Accepted answers (h ++ [e]) es

section Record

variable {answers : List (Event I ε) → Event I ε → Prop}
  {ok : List (Event I ε) → I.Call → Prop} {h : List (Event I ε)}

theorem ensures_record_call {c : I.Call} {next : Except ε (I.Answer c) → Program I ε α}
    {Q : Except ε α → List (Event I ε) → Prop} :
    Ensures (record answers) ok (call c next) h Q ↔
      ok h c ∧ ∀ ans, answers h ⟨c, ans⟩ →
        Ensures (record answers) ok (next ans) (h ++ [⟨c, ans⟩]) Q := by
  simp only [ensures_call, record]
  constructor
  · rintro ⟨ho, hn⟩
    exact ⟨ho, fun ans ha => hn ans _ ⟨ha, rfl⟩⟩
  · rintro ⟨ho, hn⟩
    refine ⟨ho, ?_⟩
    rintro ans _ ⟨ha, rfl⟩
    exact hn ans ha

/-- The logic over the recording handler holds at every point a program reaches: the call it
stands at is allowed by the history so far, and the rest of it still ensures the postcondition. -/
theorem After.ensures {p q : Program I ε α} {es : List (Event I ε)}
    {Q : Except ε α → List (Event I ε) → Prop} (ha : After p es q)
    (hes : Accepted answers h es) (hp : Ensures (record answers) ok p h Q) :
    Ensures (record answers) ok q (h ++ es) Q := by
  induction es generalizing p h with
  | nil =>
    rw [after_nil] at ha
    subst ha
    simpa using hp
  | cons e es ih =>
    cases p with
    | ret a => exact ha.elim
    | raise e' => exact ha.elim
    | call c next =>
      obtain ⟨ans, rfl, ha⟩ := ha
      have hn := (ensures_record_call.1 hp).2 ans hes.1
      rw [← List.singleton_append, ← List.append_assoc]
      exact ih ha hes.2 hn

theorem Path.ensures {p : Program I ε α} {es : List (Event I ε)} {r : Except ε α}
    {Q : Except ε α → List (Event I ε) → Prop} (hpath : Path p es r)
    (hes : Accepted answers h es) (hp : Ensures (record answers) ok p h Q) : Q r (h ++ es) :=
  ensures_done.1 ((after_done.2 hpath).ensures hes hp)

/-- Answers judged one by one are accepted when each of them is. -/
theorem accepted_iff {P : Event I ε → Prop} {es : List (Event I ε)} :
    Accepted (fun _ e => P e) h es ↔ ∀ e ∈ es, P e := by
  induction es generalizing h with
  | nil => simp [Accepted]
  | cons e es ih => simp [Accepted, ih]

/-- What a program leaves behind is a path of it. -/
theorem ensures_path {P : Event I ε → Prop} {p : Program I ε α} :
    Ensures (record fun _ e => P e) (fun _ _ => True) p h fun r h' =>
      ∃ es, h' = h ++ es ∧ (∀ e ∈ es, P e) ∧ Path p es r := by
  induction p generalizing h with
  | ret a => exact ⟨[], by simp, by simp, rfl, rfl⟩
  | raise e => exact ⟨[], by simp, by simp, rfl, rfl⟩
  | call c next ih =>
    rw [ensures_record_call]
    refine ⟨trivial, fun ans hans => (ih ans).mono ?_⟩
    rintro r h' ⟨es, rfl, hes, hpath⟩
    refine ⟨⟨c, ans⟩ :: es, by simp, ?_, ans, es, rfl, hpath⟩
    intro e he
    rcases List.mem_cons.1 he with rfl | he
    · exact hans
    · exact hes e he

end Record

end Program

end Effects
