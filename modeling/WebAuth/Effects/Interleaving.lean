import WebAuth.Effects.Logic

/-!
# Interleaved runs of many programs

Each thread of `ι` runs its own program. A step is one call of one thread, answered by the handler
of the shared state; between two calls of a thread any calls of other threads may happen. A thread
that has made no call yet has not been started, so a run holds any number of programs, started at
any time. The history of a run lists its calls in order, each with the thread that made it.

`Run.observe` is the induction over a run: each thread is verified alone with the program logic,
over the calls it has made itself, and an invariant relates the whole history to the shared state.
-/

namespace Effects

open Program

variable {σ ι : Type} [DecidableEq ι] {I : Interface} {ε α : Type}

/-- The runs of the programs `progs` from the shared state `s₀`. -/
inductive Run (H : Handler σ I ε) (s₀ : σ) (progs : ι → Program I ε α) :
    List (ι × Event I ε) → σ → (ι → Program I ε α) → Prop
  | start : Run H s₀ progs [] s₀ progs
  | step {h s pool i c next ans s'} (run : Run H s₀ progs h s pool)
      (stands : pool i = .call c next) (answered : H s c ans s') :
      Run H s₀ progs (h ++ [(i, ⟨c, ans⟩)]) s' (Function.update pool i (next ans))

/-- The calls of the thread `i` in a history. -/
def own (i : ι) (h : List (ι × Event I ε)) : List (Event I ε) :=
  h.filterMap fun e => if e.1 = i then some e.2 else none

@[simp] theorem own_nil (i : ι) : own i ([] : List (ι × Event I ε)) = [] := rfl

theorem own_append (i : ι) (h h' : List (ι × Event I ε)) :
    own i (h ++ h') = own i h ++ own i h' := List.filterMap_append

@[simp] theorem own_append_self (i : ι) (h : List (ι × Event I ε)) (e : Event I ε) :
    own i (h ++ [(i, e)]) = own i h ++ [e] := by
  simp [own]

theorem own_append_ne {i j : ι} (hij : j ≠ i) (h : List (ι × Event I ε)) (e : Event I ε) :
    own i (h ++ [(j, e)]) = own i h := by
  simp [own, hij]

theorem mem_own {i : ι} {h : List (ι × Event I ε)} {e : Event I ε} :
    e ∈ own i h ↔ (i, e) ∈ h := by
  simp only [own, List.mem_filterMap, Option.ite_none_right_eq_some, Option.some.injEq]
  constructor
  · rintro ⟨⟨j, e'⟩, hmem, rfl, rfl⟩
    exact hmem
  · intro hmem
    exact ⟨(i, e), hmem, rfl, rfl⟩

/-- A split of a thread's own calls comes from a split of the history. -/
theorem own_split {i : ι} {h : List (ι × Event I ε)} {es₁ es₂ : List (Event I ε)}
    {e : Event I ε} (heq : own i h = es₁ ++ e :: es₂) :
    ∃ h₁ h₂, h = h₁ ++ (i, e) :: h₂ ∧ own i h₁ = es₁ ∧ own i h₂ = es₂ := by
  obtain ⟨h₁, h', rfl, h₁eq, h'eq⟩ := List.filterMap_eq_append_iff.1 heq
  obtain ⟨l, a, h₂, rfl, hskip, ha, h₂eq⟩ := List.filterMap_eq_cons_iff.1 h'eq
  obtain ⟨j, e'⟩ := a
  obtain ⟨rfl, he⟩ := Option.ite_none_right_eq_some.1 ha
  cases he
  refine ⟨h₁ ++ l, h₂, by simp, ?_, h₂eq⟩
  rw [own_append]
  have hl : own j l = [] := List.filterMap_eq_nil_iff.2 hskip
  rw [hl, List.append_nil]
  exact h₁eq

namespace Run

variable {H : Handler σ I ε} {s₀ s : σ} {progs pool : ι → Program I ε α}
  {h : List (ι × Event I ε)}

/-- What a thread has done in a run is a run of its own program. -/
theorem after (hr : Run H s₀ progs h s pool) (i : ι) : After (progs i) (own i h) (pool i) := by
  induction hr with
  | start => simp
  | @step h s pool j c next ans s' run stands answered ih =>
    by_cases hij : j = i
    · subst hij
      rw [own_append_self, Function.update_self]
      rw [stands] at ih
      exact ih.snoc ans
    · rw [own_append_ne hij, Function.update_of_ne (Ne.symm hij)]
      exact ih

/-- A thread that ended with `r` made exactly the calls of a path to `r`. -/
theorem path {i : ι} {r : Except ε α} (hr : Run H s₀ progs h s pool)
    (hi : pool i = done r) : Path (progs i) (own i h) r := by
  rw [← after_done, ← hi]
  exact hr.after i

/-- A run goes on from every moment it passes: the state and the programs it had then are those
of this very run. -/
theorem cut {h₁ h₂ : List (ι × Event I ε)} (hr : Run H s₀ progs h s pool) (heq : h = h₁ ++ h₂) :
    ∃ s₁ pool₁, Run H s₀ progs h₁ s₁ pool₁ ∧ Run H s₁ pool₁ h₂ s pool := by
  induction hr generalizing h₂ with
  | start =>
    obtain ⟨rfl, rfl⟩ := List.append_eq_nil_iff.1 heq.symm
    exact ⟨s₀, progs, .start, .start⟩
  | @step h s pool j c next ans s' run stands answered ih =>
    rcases List.eq_nil_or_concat h₂ with rfl | ⟨h₃, a, rfl⟩
    · rw [List.append_nil] at heq
      subst heq
      exact ⟨s', _, run.step stands answered, .start⟩
    · rw [List.concat_eq_append, ← List.append_assoc] at heq
      obtain ⟨heq', hlast⟩ := List.append_inj' heq rfl
      obtain rfl := List.singleton_inj.1 hlast
      obtain ⟨s₁, pool₁, hr₁, hr₂⟩ := ih heq'
      refine ⟨s₁, pool₁, hr₁, ?_⟩
      rw [List.concat_eq_append]
      exact hr₂.step stands answered

/-- A call inside a run: the moment it is made at, its answer, and the run from there on. -/
theorem cutAt {h₁ h₂ : List (ι × Event I ε)} {i : ι} {e : Event I ε}
    (hr : Run H s₀ progs h s pool) (heq : h = h₁ ++ (i, e) :: h₂) :
    ∃ s₁ pool₁ next s₂, Run H s₀ progs h₁ s₁ pool₁ ∧ pool₁ i = .call e.call next ∧
      H s₁ e.call e.answer s₂ ∧ Run H s₂ (Function.update pool₁ i (next e.answer)) h₂ s pool := by
  have heq' : h = (h₁ ++ [(i, e)]) ++ h₂ := by simpa using heq
  obtain ⟨s₂, pool₂, hr₂, hrest⟩ := hr.cut heq'
  generalize hone : h₁ ++ [(i, e)] = l at hr₂
  cases hr₂ with
  | start => simp at hone
  | @step h' s' pool' j c next ans s'' run stands answered =>
    obtain ⟨rfl, hlast⟩ := List.append_inj' hone rfl
    obtain ⟨rfl, rfl⟩ := Prod.mk.inj (List.singleton_inj.1 hlast)
    exact ⟨s', pool', next, s₂, run, stands, answered, hrest⟩

/-- Every call of a run was made where its thread stood, and was answered in the state the history
before it had led to. -/
theorem split {h₁ h₂ : List (ι × Event I ε)} {i : ι} {e : Event I ε}
    (hr : Run H s₀ progs h s pool) (heq : h = h₁ ++ (i, e) :: h₂) :
    ∃ s₁ s₂ pool₁ next, Run H s₀ progs h₁ s₁ pool₁ ∧ pool₁ i = .call e.call next ∧
      H s₁ e.call e.answer s₂ ∧
      Run H s₀ progs (h₁ ++ [(i, e)]) s₂ (Function.update pool₁ i (next e.answer)) := by
  obtain ⟨s₁, pool₁, next, s₂, run, stands, answered, -⟩ := hr.cutAt heq
  exact ⟨s₁, s₂, pool₁, next, run, stands, answered, run.step stands answered⟩

/-- A relation between history and state that every answered call keeps holds in every run. -/
theorem invariant {J : List (ι × Event I ε) → σ → Prop} (hr : Run H s₀ progs h s pool)
    (hstart : J [] s₀)
    (hstep : ∀ h s i c ans s', J h s → H s c ans s' → J (h ++ [(i, ⟨c, ans⟩)]) s') :
    J h s := by
  induction hr with
  | start => exact hstart
  | step run stands answered ih => exact hstep _ _ _ _ _ _ ih answered

/-- What the handler never answers otherwise holds of every call of a run. -/
theorem answers {P : Event I ε → Prop} (hr : Run H s₀ progs h s pool)
    (hH : ∀ s c ans s', H s c ans s' → P ⟨c, ans⟩) : ∀ e ∈ h, P e.2 := by
  induction hr with
  | start => simp
  | step run stands answered ih =>
    intro e he
    rcases List.mem_append.1 he with he | he
    · exact ih e he
    · obtain rfl := List.mem_singleton.1 he
      exact hH _ _ _ _ answered

/-- A program verified alone, over its own recorded calls, is verified in every run at the point
it has reached. -/
theorem verified {P : Event I ε → Prop} {ok : List (Event I ε) → I.Call → Prop}
    {Q : Except ε α → List (Event I ε) → Prop} {i : ι} (hr : Run H s₀ progs h s pool)
    (hH : ∀ s c ans s', H s c ans s' → P ⟨c, ans⟩)
    (hprog : Ensures (record fun _ e => P e) ok (progs i) [] Q) :
    Ensures (record fun _ e => P e) ok (pool i) (own i h) Q := by
  have hacc : Accepted (fun _ e => P e) [] (own i h) :=
    accepted_iff.2 fun e he => hr.answers hH _ (mem_own.1 he)
  simpa using (hr.after i).ensures hacc hprog

/-- **The rule of interleaving.** Every program is verified alone over its own recorded calls. If
each call it is allowed to make keeps an invariant of history and shared state, then the invariant
holds in every run. -/
theorem observe {P : Event I ε → Prop} {ok : ι → List (Event I ε) → I.Call → Prop}
    {Q : ι → Except ε α → List (Event I ε) → Prop} {J : List (ι × Event I ε) → σ → Prop}
    (hr : Run H s₀ progs h s pool) (hH : ∀ s c ans s', H s c ans s' → P ⟨c, ans⟩)
    (hprogs : ∀ i, Ensures (record fun _ e => P e) (ok i) (progs i) [] (Q i))
    (hstart : J [] s₀)
    (hstep : ∀ h s i c ans s', J h s → ok i (own i h) c → H s c ans s' →
      J (h ++ [(i, ⟨c, ans⟩)]) s') : J h s := by
  induction hr with
  | start => exact hstart
  | @step h s pool i c next ans s' run stands answered ih =>
    have hi := run.verified hH (hprogs i)
    rw [stands] at hi
    exact hstep h s i c ans s' ih hi.1 answered

end Run

end Effects
