import WebAuth.Effects.Logic

/-!
# Histories in time

A history is stamped with the times its events began and ended, by a clock that never goes back. A
blocking step is over when its timeout is. Where the timeout of each step is what a reading of the
clock right before it left of a deadline, the steps are over together with the deadline, but for the
pause between the two.
-/

namespace Effects

/-- What an event is to the clock. -/
inductive Tick where
  | reading (t : ℚ)
  | step (timeout : Option ℚ)
  | other

/-- An event with the times it began and ended. -/
structure Stamped (E : Type) where
  event : E
  began : ℚ
  ended : ℚ

namespace Stamped

variable {E : Type} (tick : E → Tick)

/-- A reading answers a time within the event, and a step with a timeout is over when that is. -/
def Fits (x : Stamped E) : Prop :=
  (∀ t, tick x.event = .reading t → x.began ≤ t ∧ t ≤ x.ended) ∧
    ∀ timeout, tick x.event = .step (some timeout) → x.ended ≤ x.began + max 0 timeout

/-- One event after the other, from `now` on. -/
def Timed : ℚ → List (Stamped E) → Prop
  | _, [] => True
  | now, x :: rest => now ≤ x.began ∧ x.began ≤ x.ended ∧ Fits tick x ∧ Timed x.ended rest

/-- A step that comes right after a reading begins at most `pause` after it. -/
def Paced (pause : ℚ) : List (Stamped E) → Prop :=
  List.IsChain fun x y => ∀ t timeout, tick x.event = .reading t → tick y.event = .step timeout →
    y.began ≤ x.began + pause

/-- Each step comes right after a reading short of `deadline`, and may take no longer than that
left. -/
inductive UnderDeadline (deadline : ℚ) : List E → Prop
  | nil : UnderDeadline deadline []
  | free {e : E} {rest : List E} (hfree : ∀ timeout, tick e ≠ .step timeout)
      (hrest : UnderDeadline deadline rest) : UnderDeadline deadline (e :: rest)
  | bounded {e e' : E} {t timeout : ℚ} {rest : List E} (hreading : tick e = .reading t)
      (hshort : t < deadline) (hstep : tick e' = .step (some timeout))
      (hleft : timeout ≤ deadline - t) (hrest : UnderDeadline deadline rest) :
      UnderDeadline deadline (e :: e' :: rest)

variable {tick} {deadline pause now : ℚ} {history : List (Stamped E)}

theorem UnderDeadline.append {es es' : List E} (h : UnderDeadline tick deadline es)
    (h' : UnderDeadline tick deadline es') : UnderDeadline tick deadline (es ++ es') := by
  induction h with
  | nil => exact h'
  | free hfree _ ih => exact .free hfree ih
  | bounded hreading hshort hstep hleft _ ih => exact .bounded hreading hshort hstep hleft ih

theorem Timed.of_append {before after : List (Stamped E)} (h : Timed tick now (before ++ after)) :
    ∃ later, now ≤ later ∧ Timed tick later after := by
  induction before generalizing now with
  | nil => exact ⟨now, le_refl _, h⟩
  | cons x before ih =>
    obtain ⟨hbegan, hended, -, hrest⟩ := h
    obtain ⟨later, hlater, hafter⟩ := ih hrest
    exact ⟨later, by linarith, hafter⟩

/-- **The steps are over with the deadline**, but for the pause between a reading and its step. -/
theorem ends_by_deadline {es : List E} (hunder : UnderDeadline tick deadline es)
    (hes : history.map event = es) (htimed : Timed tick now history)
    (hpaced : Paced tick pause history) :
    ∀ x ∈ history, ∀ timeout, tick x.event = .step timeout → x.ended ≤ deadline + pause := by
  induction hunder generalizing now history with
  | nil =>
    rw [List.map_eq_nil_iff] at hes
    simp [hes]
  | free hfree _ ih =>
    obtain ⟨x, rest, rfl, rfl, hrest⟩ := List.map_eq_cons_iff.1 hes
    intro y hy timeout hstep
    rcases List.mem_cons.1 hy with rfl | hy
    · exact absurd hstep (hfree timeout)
    · exact ih hrest htimed.2.2.2 hpaced.tail y hy timeout hstep
  | @bounded e e' t left _ hreading hshort hstep hleft _ ih =>
    obtain ⟨x, rest, rfl, rfl, hrest⟩ := List.map_eq_cons_iff.1 hes
    obtain ⟨y, rest, rfl, rfl, hrest'⟩ := List.map_eq_cons_iff.1 hrest
    obtain ⟨-, -, hx, -, -, hy, htimed⟩ := htimed
    have hpause : y.began ≤ x.began + pause :=
      (List.isChain_cons_cons.1 hpaced).1 t (some left) hreading hstep
    have hread : x.began ≤ t := (hx.1 t hreading).1
    have hended : y.ended ≤ y.began + max 0 left := hy.2 left hstep
    have hmax : max 0 left ≤ deadline - t := max_le (by linarith) hleft
    intro z hz timeout hz'
    rcases List.mem_cons.1 hz with rfl | hz
    · rw [hreading] at hz'
      cases hz'
    rcases List.mem_cons.1 hz with rfl | hz
    · linarith
    · exact ih hrest' htimed hpaced.tail.tail z hz timeout hz'

/-- No step may wait for ever, nor longer than from the begin of the history to the deadline. -/
theorem timeout_le {es : List E} (hunder : UnderDeadline tick deadline es)
    (hes : history.map event = es) (htimed : Timed tick now history) :
    ∀ x ∈ history, ∀ timeout, tick x.event = .step timeout →
      ∃ t ≤ deadline - now, timeout = some t := by
  induction hunder generalizing now history with
  | nil =>
    rw [List.map_eq_nil_iff] at hes
    simp [hes]
  | free hfree _ ih =>
    obtain ⟨x, rest, rfl, rfl, hrest⟩ := List.map_eq_cons_iff.1 hes
    obtain ⟨hbegan, hended, -, htimed⟩ := htimed
    intro y hy timeout hstep
    rcases List.mem_cons.1 hy with rfl | hy
    · exact absurd hstep (hfree timeout)
    · obtain ⟨t, ht, rfl⟩ := ih hrest htimed y hy timeout hstep
      exact ⟨t, by linarith, rfl⟩
  | @bounded e e' t left _ hreading hshort hstep hleft _ ih =>
    obtain ⟨x, rest, rfl, rfl, hrest⟩ := List.map_eq_cons_iff.1 hes
    obtain ⟨y, rest, rfl, rfl, hrest'⟩ := List.map_eq_cons_iff.1 hrest
    obtain ⟨hbegan, hended, hx, hbegan', hended', -, htimed⟩ := htimed
    have hread : x.began ≤ t := (hx.1 t hreading).1
    intro z hz timeout hz'
    rcases List.mem_cons.1 hz with rfl | hz
    · rw [hreading] at hz'
      cases hz'
    rcases List.mem_cons.1 hz with rfl | hz
    · rw [hstep] at hz'
      exact ⟨left, by linarith, (Tick.step.inj hz').symm⟩
    · obtain ⟨t', ht', rfl⟩ := ih hrest' htimed z hz timeout hz'
      exact ⟨t', by linarith, rfl⟩

/-- No step begins in a history that begins when the deadline has passed. -/
theorem no_step_past_deadline {es : List E} (hunder : UnderDeadline tick deadline es)
    (hes : history.map event = es) (htimed : Timed tick now history) (hpassed : deadline ≤ now) :
    ∀ x ∈ history, ∀ timeout, tick x.event ≠ .step timeout := by
  induction hunder generalizing now history with
  | nil =>
    rw [List.map_eq_nil_iff] at hes
    simp [hes]
  | free hfree _ ih =>
    obtain ⟨x, rest, rfl, rfl, hrest⟩ := List.map_eq_cons_iff.1 hes
    obtain ⟨hbegan, hended, -, htimed⟩ := htimed
    rw [List.forall_mem_cons]
    exact ⟨hfree, ih hrest htimed (by linarith)⟩
  | @bounded e e' t left _ hreading hshort hstep hleft _ ih =>
    obtain ⟨x, rest, rfl, rfl, -⟩ := List.map_eq_cons_iff.1 hes
    have hread : x.began ≤ t := (htimed.2.2.1.1 t hreading).1
    linarith [htimed.1]

/-- **Once a reading has seen the deadline pass, no step is begun.** -/
theorem no_step_after_reading {before after : List (Stamped E)} {x : Stamped E} {t : ℚ}
    (hunder : UnderDeadline tick deadline ((before ++ x :: after).map event))
    (htimed : Timed tick now (before ++ x :: after)) (hreading : tick x.event = .reading t)
    (hpassed : deadline ≤ t) : ∀ y ∈ after, ∀ timeout, tick y.event ≠ .step timeout := by
  have hrest : UnderDeadline tick deadline (after.map event) := by
    clear htimed
    generalize hes : (before ++ x :: after).map event = es at hunder
    induction hunder generalizing before with
    | nil => simp at hes
    | free _ hrest ih =>
      cases before with
      | nil => exact (List.cons.inj hes).2 ▸ hrest
      | cons y before => exact ih (List.cons.inj hes).2
    | bounded hreading' hshort hstep _ hrest ih =>
      cases before with
      | nil =>
        obtain rfl := (List.cons.inj hes).1
        rw [hreading] at hreading'
        obtain rfl := Tick.reading.inj hreading'
        linarith
      | cons y before =>
        have hes' := (List.cons.inj hes).2
        cases before with
        | nil =>
          obtain rfl := (List.cons.inj hes').1
          rw [hreading] at hstep
          cases hstep
        | cons z before => exact ih (List.cons.inj hes').2
  obtain ⟨later, -, -, hended, hx, hafter⟩ := htimed.of_append
  exact no_step_past_deadline hrest rfl hafter (le_trans hpassed (hx.1 t hreading).2)

variable (tick) in
/-- The time an event blocks: a step's own time. -/
def spent (x : Stamped E) : ℚ :=
  match tick x.event with
  | .step _ => x.ended - x.began
  | _ => 0

variable (tick) in
/-- The time a history is blocked in its steps. -/
def blocked (history : List (Stamped E)) : ℚ := (history.map (spent tick)).sum

theorem spent_step {x : Stamped E} {timeout : Option ℚ} (h : tick x.event = .step timeout) :
    spent tick x = x.ended - x.began := by
  unfold spent
  rw [h]

theorem spent_free {x : Stamped E} (h : ∀ timeout, tick x.event ≠ .step timeout) :
    spent tick x = 0 := by
  unfold spent
  split
  · rename_i timeout heq
    exact absurd heq (h timeout)
  · rfl

/-- Steps that are over by `last` block a history no longer than from its begin to `last`. -/
theorem blocked_le {last : ℚ} (htimed : Timed tick now history)
    (hends : ∀ x ∈ history, ∀ timeout, tick x.event = .step timeout → x.ended ≤ last) :
    blocked tick history ≤ max 0 (last - now) := by
  induction history generalizing now with
  | nil => exact le_max_left _ _
  | cons x rest ih =>
    obtain ⟨hbegan, hended, -, htimed⟩ := htimed
    rw [List.forall_mem_cons] at hends
    have hrest : blocked tick rest ≤ max 0 (last - x.ended) := ih htimed hends.2
    show spent tick x + blocked tick rest ≤ _
    by_cases hstep : ∃ timeout, tick x.event = .step timeout
    · obtain ⟨timeout, hstep⟩ := hstep
      have hlast : x.ended ≤ last := hends.1 timeout hstep
      rw [max_eq_right (by linarith)] at hrest
      rw [spent_step hstep]
      exact le_max_of_le_right (by linarith)
    · rw [spent_free (not_exists.1 hstep), zero_add]
      exact hrest.trans (max_le_max_left 0 (by linarith))

end Stamped

end Effects
