import Mathlib

/-!
# Budgets over a sliding window

A check asks whether a key may spend once more at an instant: it may while it has spent fewer times
than a limit in the window that ends there. A log of what was spent answers every check exactly.
An implementation keeps less than the log; it answers alike when it is related to the log and every
check keeps the relation (`outcomes_eq`).
-/

namespace SlidingWindow

set_option linter.unusedSectionVars false

variable {K T : Type} [DecidableEq K] [Sub T] [LinearOrder T]

/-- A check of a key at an instant, with the limit it has over a window. -/
structure Check (K T : Type) where
  key : K
  instant : T
  limit : ℤ
  window : T

/-- The instants a key has spent at, by the log of all keys. -/
def instants (log : List (K × T)) (k : K) : List T := (log.filter fun e => e.1 = k).map (·.2)

/-- What a key has spent after `lo` and until `hi`. -/
def spentIn (log : List (K × T)) (k : K) (lo hi : T) : List T :=
  (instants log k).filter fun t => lo < t ∧ t ≤ hi

/-- Whether the key has spent less than its limit in the window that ends at the check. -/
def Check.admitted (c : Check K T) (log : List (K × T)) : Bool :=
  ((spentIn log c.key (c.instant - c.window) c.instant).length : ℤ) < c.limit

/-- The log after a check: only an admitted one spends. -/
def Check.spend (c : Check K T) (log : List (K × T)) : List (K × T) :=
  if c.admitted log then log ++ [(c.key, c.instant)] else log

/-- The answers to checks made one after the other. -/
def verdicts : List (K × T) → List (Check K T) → List Bool
  | _, [] => []
  | log, c :: cs => c.admitted log :: verdicts (c.spend log) cs

/-- What checks made one after the other have spent. -/
def spentBy (log : List (K × T)) (cs : List (Check K T)) : List (K × T) :=
  cs.foldl (fun log c => c.spend log) log

section Log

variable {log log' : List (K × T)} {c : Check K T} {cs cs' : List (Check K T)} {k : K}

@[simp] theorem instants_append : instants (log ++ log') k = instants log k ++ instants log' k := by
  simp [instants]

theorem mem_instants {t : T} : t ∈ instants log k ↔ (k, t) ∈ log := by
  simp [instants]

theorem Check.spend_of_refused (h : c.admitted log = false) : c.spend log = log := by
  rw [Check.spend, h]
  rfl

/-- A check reads only what its own key has spent. -/
theorem Check.admitted_congr (h : instants log c.key = instants log' c.key) :
    c.admitted log = c.admitted log' := by
  unfold Check.admitted spentIn
  rw [h]

/-- What was spent are the admitted checks. -/
theorem spentBy_eq : spentBy log cs =
    log ++ (((cs.zip (verdicts log cs)).filter (·.2)).map fun e => (e.1.key, e.1.instant)) := by
  induction cs generalizing log with
  | nil => simp [spentBy, verdicts]
  | cons c cs ih =>
    show spentBy (c.spend log) cs = _
    rw [ih]
    unfold Check.spend
    cases h : c.admitted log <;> simp [verdicts, Check.spend, h]

/-- The checks of a key are answered as if no other key were checked. -/
theorem verdicts_of_key (log log' : List (K × T)) (cs : List (Check K T))
    (hlog : instants log k = instants log' k) :
    ((cs.zip (verdicts log cs)).filter fun e => e.1.key = k).map (·.2) =
      verdicts log' (cs.filter fun c => c.key = k) := by
  induction cs generalizing log log' with
  | nil => rfl
  | cons c cs ih =>
    by_cases hk : c.key = k
    · have hadmitted : c.admitted log = c.admitted log' := Check.admitted_congr (hk ▸ hlog)
      have hspend : instants (c.spend log) k = instants (c.spend log') k := by
        unfold Check.spend
        rw [hadmitted]
        split
        · rw [instants_append, instants_append, hlog]
        · exact hlog
      simp [verdicts, hk, hadmitted, ih _ _ hspend]
    · have hspend : instants (c.spend log) k = instants log' k := by
        unfold Check.spend
        split
        · rw [instants_append, hlog]
          simp [instants, hk]
        · exact hlog
      simp [verdicts, hk, ih _ _ hspend]

end Log

/-! ## Implementations -/

section Implementations

variable {S C V : Type}

/-- The outcomes of calls made one after the other. -/
def outcomes (step : S → C → V × S) : S → List C → List V
  | _, [] => []
  | s, c :: cs => (step s c).1 :: outcomes step (step s c).2 cs

/-- Where calls made one after the other lead. -/
def after (step : S → C → V × S) (s : S) (cs : List C) : S := cs.foldl (fun s c => (step s c).2) s

variable {step : S → C → V × S} {check : C → Check K T} {answer : Bool → V}

/-- **Simulation.** Related to the log and to the calls that are still to come, an implementation
answers every call as the log does. -/
theorem outcomes_eq {R : S → List (K × T) → List C → Prop}
    (hstep : ∀ s log c cs, R s log (c :: cs) →
      (step s c).1 = answer ((check c).admitted log) ∧ R (step s c).2 ((check c).spend log) cs)
    {s : S} {log : List (K × T)} {cs : List C} (h : R s log cs) :
    outcomes step s cs = (verdicts log (cs.map check)).map answer := by
  induction cs generalizing s log with
  | nil => rfl
  | cons c cs ih =>
    obtain ⟨hanswer, hnext⟩ := hstep s log c cs h
    show (step s c).1 :: outcomes step (step s c).2 cs = _
    rw [hanswer, ih hnext]
    rfl

/-- The relation holds wherever the calls lead. -/
theorem related_after {R : S → List (K × T) → List C → Prop}
    (hstep : ∀ s log c cs, R s log (c :: cs) →
      (step s c).1 = answer ((check c).admitted log) ∧ R (step s c).2 ((check c).spend log) cs)
    {s : S} {log : List (K × T)} {cs cs' : List C} (h : R s log (cs ++ cs')) :
    R (after step s cs) (spentBy log (cs.map check)) cs' := by
  induction cs generalizing s log with
  | nil => exact h
  | cons c cs ih => exact ih (hstep s log c (cs ++ cs') h).2

end Implementations

/-! ## What an implementation may forget -/

section Forget

variable {l l' : List T} {a b : T}

/-- What lies outside a window lies outside every later one. -/
theorem filter_lt_congr (hab : a ≤ b) (h : l.filter (a < ·) = l'.filter (a < ·)) :
    l.filter (b < ·) = l'.filter (b < ·) := by
  have hsplit : ∀ l : List T, l.filter (b < ·) = (l.filter (a < ·)).filter (b < ·) := by
    intro l
    rw [List.filter_filter]
    refine List.filter_congr fun t _ => ?_
    simp only [← Bool.decide_and, decide_eq_decide]
    exact ⟨fun h => ⟨h, hab.trans_lt h⟩, fun h => h.1⟩
  rw [hsplit l, hsplit l', h]

/-- A window that ends after everything spent is open to the future. -/
theorem spentIn_eq {log : List (K × T)} {k : K} {lo hi : T}
    (hpast : ∀ t ∈ instants log k, t ≤ hi) : spentIn log k lo hi = (instants log k).filter (lo < ·) :=
  List.filter_congr fun t ht => by simp [hpast t ht]

end Forget

section Keeps

variable {K T : Type} [DecidableEq K] [AddCommGroup T] [LinearOrder T] [IsOrderedAddMonoid T]

/-- What is stored for each key counts as the log does, now and at every later time. -/
structure Keeps (window : K → T) (stored : K → List T) (log : List (K × T)) (now : T) : Prop where
  live : ∀ k, (stored k).filter (now - window k < ·) = (instants log k).filter (now - window k < ·)
  kept : ∀ k, (stored k).Sublist (instants log k)
  ordered : ∀ k, (instants log k).Pairwise (· ≤ ·)
  past : ∀ k, ∀ t ∈ instants log k, t ≤ now

variable {window : K → T} {stored stored' : K → List T} {log : List (K × T)} {now : T}

theorem keeps_nil : Keeps window (fun _ => []) [] now :=
  ⟨fun _ => rfl, fun _ => List.nil_sublist _, fun _ => List.Pairwise.nil, by simp [instants]⟩

theorem Keeps.later (h : Keeps window stored log now) {t : T} (ht : now ≤ t) :
    Keeps window stored log t where
  live k := filter_lt_congr (sub_le_sub_right ht _) (h.live k)
  kept := h.kept
  ordered := h.ordered
  past k s hs := (h.past k s hs).trans ht

/-- What is out of its window may be forgotten. -/
theorem Keeps.forget (h : Keeps window stored log now)
    (hforget : ∀ k, stored' k = stored k ∨
      stored' k = [] ∧ (stored k).filter (now - window k < ·) = []) :
    Keeps window stored' log now where
  live k := by
    rw [← h.live k]
    rcases hforget k with heq | ⟨heq, hnone⟩
    · rw [heq]
    · rw [heq, hnone]
      rfl
  kept k := by
    rcases hforget k with heq | ⟨heq, -⟩
    · exact heq ▸ h.kept k
    · exact heq ▸ List.nil_sublist _
  ordered := h.ordered
  past := h.past

/-- A check that counts what is stored in its window counts the log. -/
theorem Keeps.admitted (h : Keeps window stored log now) (k : K) (limit : ℤ) :
    Check.admitted ⟨k, now, limit, window k⟩ log =
      decide ((((stored k).filter (now - window k < ·)).length : ℤ) < limit) := by
  rw [Check.admitted, spentIn_eq (h.past k), ← h.live k]

/-- A check that stores its window, and itself when it is admitted. -/
theorem Keeps.spend (h : Keeps window stored log now) {k : K} {limit : ℤ} {admitted : Bool}
    (hadmitted : Check.admitted ⟨k, now, limit, window k⟩ log = admitted)
    (hother : ∀ k', k' ≠ k → stored' k' = stored k')
    (hself : stored' k = (stored k).filter (now - window k < ·) ++ if admitted then [now] else []) :
    Keeps window stored' (Check.spend ⟨k, now, limit, window k⟩ log) now := by
  have hspend : ∀ k', instants (Check.spend ⟨k, now, limit, window k⟩ log) k' =
      instants log k' ++ if k' = k ∧ admitted = true then [now] else [] := by
    intro k'
    rw [Check.spend, hadmitted]
    cases admitted with
    | false => simp
    | true =>
      rw [if_pos rfl, instants_append]
      by_cases hk : k' = k
      · simp [instants, hk]
      · simp [instants, hk, Ne.symm hk]
  refine ⟨fun k' => ?_, fun k' => ?_, fun k' => ?_, fun k' => ?_⟩
  all_goals by_cases hk : k' = k
  · subst hk
    rw [hself, hspend, List.filter_append, List.filter_append, List.filter_filter, ← h.live k']
    simp
  · rw [hother k' hk, hspend, if_neg fun h => hk h.1, List.append_nil]
    exact h.live k'
  · subst hk
    rw [hself, hspend]
    refine (List.filter_sublist.trans (h.kept k')).append ?_
    simp
  · rw [hother k' hk, hspend, if_neg fun h => hk h.1, List.append_nil]
    exact h.kept k'
  · rw [hspend]
    refine List.pairwise_append.2 ⟨h.ordered k', ?_, fun s hs t ht => ?_⟩
    · split_ifs <;> simp
    · split_ifs at ht
      · rw [List.mem_singleton.1 ht]
        exact h.past k' s hs
      · cases ht
  · rw [hspend, if_neg fun h => hk h.1, List.append_nil]
    exact h.ordered k'
  · rw [hspend]
    intro t ht
    rcases List.mem_append.1 ht with ht | ht
    · exact h.past k' t ht
    · split_ifs at ht
      · exact (List.mem_singleton.1 ht).le
      · cases ht
  · rw [hspend, if_neg fun h => hk h.1, List.append_nil]
    exact h.past k'

end Keeps

end SlidingWindow
