import WebAuth.RateLimit

/-!
# The limiter backends over whole runs

Both backends answer every check as the full history of what was spent does, though each forgets
what it need not keep: the one trims a key when it is checked and sweeps from time to time, the
other lets the server drop a key that has not been granted for its window.
-/

namespace WebAuth

open Python SlidingWindow

/-- A call of `is_allowed` and the clock's reading at it. -/
structure LimiterCall where
  key : Str
  limit : ℤ
  windowSeconds : ℤ
  now : ℚ

/-- What a call asks. -/
def LimiterCall.check (c : LimiterCall) : Check Str ℚ := ⟨c.key, c.now, c.limit, c.windowSeconds⟩

/-- Calls with positive limits and windows and one window a key, on a clock that starts at `start`
and never runs back. -/
structure WellTimed (window : Str → ℤ) (start : ℚ) (calls : List LimiterCall) : Prop where
  ordered : (start :: calls.map (·.now)).Pairwise (· ≤ ·)
  fits : ∀ c ∈ calls, 0 < c.limit ∧ 0 < c.windowSeconds ∧ c.windowSeconds = window c.key

/-! ## In one process -/

/-- One call on the backend. -/
def checkSingleProcess (repr : Str → String) (backend : SingleProcessRateLimitBackend)
    (c : LimiterCall) : Except Exn Bool × SingleProcessRateLimitBackend :=
  backend.isAllowed repr c.key c.limit c.windowSeconds c.now

/-- The timestamps stored for a key. -/
def SingleProcessRateLimitBackend.stamps (backend : SingleProcessRateLimitBackend) (key : Str) :
    List ℚ :=
  ((backend.events key).map (·.timestamps)).getD []

/-- The backend keeps what counts of a log, under one window a key. -/
structure Tracks (window : Str → ℤ) (backend : SingleProcessRateLimitBackend)
    (log : List (Str × ℚ)) (now : ℚ) : Prop where
  windows : ∀ key entry, backend.events key = some entry → entry.windowSeconds = window key
  keeps : SlidingWindow.Keeps (fun key => (window key : ℚ)) backend.stamps log now

section SingleProcess

variable {window : Str → ℤ} {backend : SingleProcessRateLimitBackend} {log : List (Str × ℚ)}
  {now : ℚ} (repr : Str → String)

/-- The timestamps of an expired entry are all out of its window. -/
theorem WindowedEvents.isExpired_filter {entry : WindowedEvents}
    (hordered : entry.timestamps.Pairwise (· ≤ ·)) (h : entry.isExpired now = true) :
    entry.timestamps.filter (now - entry.windowSeconds < ·) = [] := by
  rw [List.filter_eq_nil_iff]
  intro t ht
  obtain ⟨init, last, hlast⟩ := List.eq_nil_or_concat entry.timestamps |>.resolve_left
    (List.ne_nil_of_mem ht)
  rw [List.concat_eq_append] at hlast
  rw [WindowedEvents.isExpired, hlast, List.getLast?_append_of_ne_nil _ (by simp)] at h
  simp only [List.getLast?_singleton, Option.all_some, decide_eq_true_eq] at h
  have hle : t ≤ last := by
    rw [hlast] at ht hordered
    rcases List.mem_append.1 ht with ht | ht
    · exact (List.pairwise_append.1 hordered).2.2 t ht last (by simp)
    · exact (List.mem_singleton.1 ht).le
  simp only [decide_eq_true_eq, not_lt]
  linarith

theorem SingleProcessRateLimitBackend.events_sweep {key : Str} {entry : WindowedEvents}
    (hentry : backend.events key = some entry) :
    (backend.sweep now).events key = if entry.isExpired now then none else some entry := by
  show (backend.events key).filter _ = _
  rw [hentry, Option.filter_some]
  cases entry.isExpired now <;> rfl

/-- A sweep keeps the timestamps of a key, or deletes them when all are out of the window. -/
theorem Tracks.stamps_sweep (h : Tracks window backend log now) (key : Str) :
    (backend.sweep now).stamps key = backend.stamps key ∨
      (backend.sweep now).stamps key = [] ∧
        (backend.stamps key).filter (now - window key < ·) = [] := by
  cases hentry : backend.events key with
  | none =>
    left
    simp [SingleProcessRateLimitBackend.stamps, SingleProcessRateLimitBackend.sweep, hentry]
  | some entry =>
    have hsweep : (backend.sweep now).events key = _ :=
      SingleProcessRateLimitBackend.events_sweep hentry
    cases hexpired : entry.isExpired now with
    | false =>
      left
      rw [SingleProcessRateLimitBackend.stamps, hsweep, hexpired]
      simp [SingleProcessRateLimitBackend.stamps, hentry]
    | true =>
      right
      have hstamps : backend.stamps key = entry.timestamps := by
        simp [SingleProcessRateLimitBackend.stamps, hentry]
      have hordered := (h.keeps.ordered key).sublist (h.keeps.kept key)
      rw [hstamps] at hordered
      rw [hstamps, ← h.windows key entry hentry]
      refine ⟨?_, WindowedEvents.isExpired_filter hordered hexpired⟩
      rw [SingleProcessRateLimitBackend.stamps, hsweep, hexpired]
      rfl

theorem Tracks.sweep (h : Tracks window backend log now) :
    Tracks window (backend.sweepExpiredWhenDue now) log now := by
  unfold SingleProcessRateLimitBackend.sweepExpiredWhenDue
  split
  · exact h
  · exact ⟨fun key entry hentry => h.windows key entry (Option.filter_eq_some_iff.1 hentry).1,
      h.keeps.forget h.stamps_sweep⟩

theorem SingleProcessRateLimitBackend.events_store {key : Str} {entry : WindowedEvents} :
    (backend.store key entry).events key = some entry := Function.update_self ..

theorem SingleProcessRateLimitBackend.events_store_ne {key other : Str} {entry : WindowedEvents}
    (hne : other ≠ key) : (backend.store key entry).events other = backend.events other :=
  Function.update_of_ne hne ..

theorem SingleProcessRateLimitBackend.stamps_store {key : Str} {entry : WindowedEvents} :
    (backend.store key entry).stamps key = entry.timestamps := by
  rw [SingleProcessRateLimitBackend.stamps, SingleProcessRateLimitBackend.events_store]
  rfl

theorem SingleProcessRateLimitBackend.stamps_store_ne {key other : Str} {entry : WindowedEvents}
    (hne : other ≠ key) : (backend.store key entry).stamps other = backend.stamps other := by
  rw [SingleProcessRateLimitBackend.stamps, SingleProcessRateLimitBackend.events_store_ne hne]
  rfl

/-- What a check stores: its key's timestamps inside the window, and its own when it is allowed. -/
theorem SingleProcessRateLimitBackend.checked_eq {key : Str} {limit windowSeconds : ℤ}
    {entry : WindowedEvents} :
    let live := entry.timestamps.filter (now - windowSeconds < ·)
    let allowed := decide ((live.length : ℤ) < limit)
    backend.checked key limit windowSeconds now entry = (allowed, backend.store key
      { entry with timestamps := live ++ if allowed then [now] else [] }) := by
  intro live allowed
  unfold SingleProcessRateLimitBackend.checked
  by_cases hle : limit ≤ (live.length : ℤ)
  · have hnot : allowed = false := decide_eq_false (not_lt.2 hle)
    rw [if_pos hle, hnot]
    simp [live]
  · have hyes : allowed = true := decide_eq_true (not_le.1 hle)
    rw [if_neg hle, hyes]
    rfl

/-- **One check, judged by the log.** -/
theorem Tracks.checked (h : Tracks window backend log now) (key : Str) (limit : ℤ)
    (entry : WindowedEvents) (hentry : entry.timestamps = backend.stamps key)
    (hwindow : entry.windowSeconds = window key) :
    (backend.checked key limit (window key) now entry).1 =
        Check.admitted ⟨key, now, limit, (window key : ℚ)⟩ log ∧
      Tracks window (backend.checked key limit (window key) now entry).2
        (Check.spend ⟨key, now, limit, (window key : ℚ)⟩ log) now := by
  have hadmitted := h.keeps.admitted key limit
  rw [← hentry] at hadmitted
  rw [SingleProcessRateLimitBackend.checked_eq]
  refine ⟨hadmitted.symm, fun other stored hstored => ?_, h.keeps.spend hadmitted ?_ ?_⟩
  · by_cases hne : other = key
    · rw [hne, SingleProcessRateLimitBackend.events_store] at hstored
      rw [← Option.some.inj hstored, hne]
      exact hwindow
    · rw [SingleProcessRateLimitBackend.events_store_ne hne] at hstored
      exact h.windows other stored hstored
  · exact fun other hne => SingleProcessRateLimitBackend.stamps_store_ne hne
  · rw [SingleProcessRateLimitBackend.stamps_store, hentry]

/-- A call on a backend that tracks the log is answered by the log. -/
theorem Tracks.isAllowed (h : Tracks window backend log now) {c : LimiterCall} (hnow : now ≤ c.now)
    (hwindow : c.windowSeconds = window c.key) :
    (checkSingleProcess repr backend c).1 = .ok (c.check.admitted log) ∧
      Tracks window (checkSingleProcess repr backend c).2 (c.check.spend log) c.now := by
  have hswept := Tracks.sweep ⟨h.windows, h.keeps.later hnow⟩
  unfold checkSingleProcess SingleProcessRateLimitBackend.isAllowed
  simp only [LimiterCall.check, hwindow]
  cases hentry : (backend.sweepExpiredWhenDue c.now).events c.key with
  | none =>
    have hchecked := hswept.checked c.key c.limit ⟨window c.key, []⟩
      (by simp [SingleProcessRateLimitBackend.stamps, hentry]) rfl
    exact ⟨congrArg _ hchecked.1, hchecked.2⟩
  | some entry =>
    have hown := hswept.windows c.key entry hentry
    have hchecked := hswept.checked c.key c.limit entry
      (by simp [SingleProcessRateLimitBackend.stamps, hentry]) hown
    simp only [hown, ne_eq, not_true_eq_false, if_false]
    exact ⟨congrArg _ hchecked.1, hchecked.2⟩

theorem WellTimed.cons {start : ℚ} {c : LimiterCall} {cs : List LimiterCall}
    (h : WellTimed window start (c :: cs)) : start ≤ c.now ∧ 0 < c.limit ∧ 0 < c.windowSeconds ∧
      c.windowSeconds = window c.key ∧ WellTimed window c.now cs := by
  obtain ⟨hordered, hfits⟩ := h
  rw [List.map_cons, List.pairwise_cons] at hordered
  obtain ⟨hlimit, hpos, hwindow⟩ := hfits c List.mem_cons_self
  exact ⟨hordered.1 c.now List.mem_cons_self, hlimit, hpos, hwindow, hordered.2,
    fun d hd => hfits d (List.mem_cons_of_mem _ hd)⟩

/-- How a backend stands to the log and to the calls that are still to come. -/
def TracksFor (window : Str → ℤ) (backend : SingleProcessRateLimitBackend) (log : List (Str × ℚ))
    (calls : List LimiterCall) : Prop :=
  ∃ now, Tracks window backend log now ∧ WellTimed window now calls

theorem tracksFor_step (backend : SingleProcessRateLimitBackend) (log : List (Str × ℚ))
    (c : LimiterCall) (cs : List LimiterCall) (h : TracksFor window backend log (c :: cs)) :
    (checkSingleProcess repr backend c).1 = .ok (c.check.admitted log) ∧
      TracksFor window (checkSingleProcess repr backend c).2 (c.check.spend log) cs := by
  obtain ⟨now, htracks, htimed⟩ := h
  obtain ⟨hnow, -, -, hwindow, hrest⟩ := htimed.cons
  obtain ⟨hanswer, hnext⟩ := htracks.isAllowed repr hnow hwindow
  exact ⟨hanswer, c.now, hnext, hrest⟩

theorem tracksFor_start {calls : List LimiterCall} (h : WellTimed window 0 calls) (p : ℚ) :
    TracksFor window ⟨fun _ => none, p⟩ [] calls :=
  ⟨0, ⟨by simp, keeps_nil⟩, h⟩

/-! ### What is stored -/

/-- Every stored entry has spent something since a minute and its window before the next sweep. -/
structure Recent (backend : SingleProcessRateLimitBackend) (now : ℚ) : Prop where
  due : backend.nextPruneAt ≤ now + pruneIntervalSeconds
  spent : ∀ key entry, backend.events key = some entry → ∃ t ∈ entry.timestamps,
    backend.nextPruneAt - pruneIntervalSeconds < t + entry.windowSeconds

theorem Recent.sweep (h : Recent backend now) {t : ℚ} (ht : now ≤ t) :
    Recent (backend.sweepExpiredWhenDue t) t ∧ t < (backend.sweepExpiredWhenDue t).nextPruneAt := by
  unfold SingleProcessRateLimitBackend.sweepExpiredWhenDue
  by_cases hdue : t < backend.nextPruneAt
  · rw [if_pos hdue]
    exact ⟨⟨h.due.trans (by linarith), h.spent⟩, hdue⟩
  · rw [if_neg hdue]
    refine ⟨⟨le_rfl, fun key entry hentry => ?_⟩, ?_⟩
    · obtain ⟨-, hkeeps⟩ := Option.filter_eq_some_iff.1 hentry
      rw [Bool.not_eq_true', WindowedEvents.isExpired] at hkeeps
      cases hlast : entry.timestamps.getLast? with
      | none => rw [hlast] at hkeeps; cases hkeeps
      | some last =>
        rw [hlast, Option.all_some, decide_eq_false_iff_not, not_le] at hkeeps
        refine ⟨last, List.mem_of_getLast? hlast, ?_⟩
        show t + pruneIntervalSeconds - pruneIntervalSeconds < _
        linarith
    · show t < t + pruneIntervalSeconds
      norm_num [pruneIntervalSeconds]

theorem Recent.isAllowed (h : Recent backend now) {c : LimiterCall} (hnow : now ≤ c.now)
    (hlimit : 0 < c.limit) (hwindow : 0 < c.windowSeconds) :
    Recent (checkSingleProcess repr backend c).2 c.now ∧
      c.now < (checkSingleProcess repr backend c).2.nextPruneAt := by
  obtain ⟨hswept, hdue⟩ := h.sweep hnow
  have hpos : (0 : ℚ) < c.windowSeconds := by exact_mod_cast hwindow
  have hchecked : ∀ entry : WindowedEvents, entry.windowSeconds = c.windowSeconds →
      Recent ((backend.sweepExpiredWhenDue c.now).checked c.key c.limit c.windowSeconds c.now
        entry).2 c.now ∧ c.now < ((backend.sweepExpiredWhenDue c.now).checked c.key c.limit
        c.windowSeconds c.now entry).2.nextPruneAt := by
    intro entry hentry
    have hstore : ∀ stamps : List ℚ, (∃ t ∈ stamps, c.now < t + c.windowSeconds) →
        Recent ((backend.sweepExpiredWhenDue c.now).store c.key
          { entry with timestamps := stamps }) c.now := by
      rintro stamps ⟨t, ht, hlive⟩
      refine ⟨hswept.due, fun key stored hstored => ?_⟩
      by_cases hkey : key = c.key
      · rw [hkey, SingleProcessRateLimitBackend.events_store] at hstored
        obtain rfl := Option.some.inj hstored
        refine ⟨t, ht, ?_⟩
        show (backend.sweepExpiredWhenDue c.now).nextPruneAt - _ < t + (entry.windowSeconds : ℚ)
        rw [hentry]
        have := hswept.due
        linarith
      · rw [SingleProcessRateLimitBackend.events_store_ne hkey] at hstored
        exact hswept.spent key stored hstored
    unfold SingleProcessRateLimitBackend.checked
    by_cases hle : c.limit ≤
        ((entry.timestamps.filter fun stamp => c.now - c.windowSeconds < stamp).length : ℤ)
    · rw [if_pos hle]
      refine ⟨hstore _ ?_, hdue⟩
      obtain ⟨t, ht⟩ := List.exists_mem_of_length_pos (by omega :
        0 < (entry.timestamps.filter fun stamp => c.now - c.windowSeconds < stamp).length)
      refine ⟨t, ht, ?_⟩
      have := of_decide_eq_true (List.mem_filter.1 ht).2
      linarith
    · rw [if_neg hle]
      exact ⟨hstore _ ⟨c.now, by simp, by linarith⟩, hdue⟩
  unfold checkSingleProcess SingleProcessRateLimitBackend.isAllowed
  simp only
  cases (backend.sweepExpiredWhenDue c.now).events c.key with
  | none => exact hchecked _ rfl
  | some entry =>
    by_cases hown : entry.windowSeconds = c.windowSeconds
    · simp only [hown, ne_eq, not_true_eq_false, if_false]
      rw [← hown]
      exact hown ▸ hchecked entry hown
    · simp only [ne_eq, hown, not_false_eq_true, if_true]
      exact ⟨hswept, hdue⟩

/-! ### The run -/

/-- The answers of a new backend to calls made one after the other. -/
def answers (repr : Str → String) (calls : List LimiterCall) : List (Except Exn Bool) :=
  outcomes (checkSingleProcess repr) {} calls

/-- A new backend after calls made one after the other. -/
def backendAfter (repr : Str → String) (calls : List LimiterCall) : SingleProcessRateLimitBackend :=
  SlidingWindow.after (checkSingleProcess repr) {} calls

/-- Whether an answer allows its call. -/
def allows : Except Exn Bool → Bool
  | .ok allowed => allowed
  | .error _ => false

/-- The calls a new backend allows. -/
def allowedCalls (repr : Str → String) (calls : List LimiterCall) : List LimiterCall :=
  ((calls.zip (answers repr calls)).filter fun e => allows e.2).map (·.1)

/-- The allowed calls of a key in the window that ends at a call. -/
def inWindow (c : LimiterCall) (calls : List LimiterCall) : List LimiterCall :=
  calls.filter fun d => d.key = c.key && c.now - c.windowSeconds < d.now && d.now ≤ c.now

/-- The answers to calls with sweeps of the whole store between them. -/
def sweptAnswers (repr : Str → String) :
    SingleProcessRateLimitBackend → List (LimiterCall ⊕ ℚ) → List (Except Exn Bool)
  | _, [] => []
  | backend, .inl c :: es =>
    (checkSingleProcess repr backend c).1 :: sweptAnswers repr (checkSingleProcess repr backend c).2 es
  | backend, .inr now :: es => sweptAnswers repr (backend.sweep now) es

/-- The calls among calls and sweeps. -/
def callsOf (events : List (LimiterCall ⊕ ℚ)) : List LimiterCall := events.filterMap Sum.getLeft?

/-- What holds of the in-process backend after calls made one after the other. -/
structure ExactWindow (repr : Str → String) (calls : List LimiterCall) : Prop where
  /-- A call is allowed when fewer earlier allowed calls of its key lie in its window. -/
  exact : ∀ before c rest, calls = before ++ c :: rest →
    (checkSingleProcess repr (backendAfter repr before) c).1 =
      .ok (decide (((inWindow c (allowedCalls repr before)).length : ℤ) < c.limit))
  /-- Calls for other keys change no answer. -/
  keysApart : ∀ key, ((calls.zip (answers repr calls)).filter fun e => e.1.key = key).map (·.2) =
    answers repr (calls.filter fun c => c.key = key)
  /-- When the sweeps run changes no answer. -/
  sweepsApart : ∀ nextPruneAt,
    outcomes (checkSingleProcess repr) { nextPruneAt } calls = answers repr calls
  /-- Sweeps anywhere between the calls change no answer. -/
  sweepsFree : ∀ events, callsOf events = calls →
    (0 :: events.map (Sum.elim (·.now) id)).Pairwise (· ≤ ·) →
    sweptAnswers repr {} events = answers repr calls
  /-- A refused call spends nothing: without it all later answers are the same. -/
  refusedFree : ∀ before c rest, calls = before ++ c :: rest →
    (checkSingleProcess repr (backendAfter repr before) c).1 = .ok false →
    outcomes (checkSingleProcess repr) (backendAfter repr (before ++ [c])) rest =
      outcomes (checkSingleProcess repr) (backendAfter repr before) rest
  /-- Every key still stored has an allowed call newer than a minute and its window. -/
  bounded : ∀ before c rest, calls = before ++ c :: rest →
    ∀ key entry, (backendAfter repr (before ++ [c])).events key = some entry →
      ∃ d ∈ allowedCalls repr (before ++ [c]), d.key = key ∧
        c.now - pruneIntervalSeconds - entry.windowSeconds < d.now
  /-- A call with another window than the stored one raises. -/
  mismatched : ∀ before rest now key limit windowSeconds entry, calls = before ++ rest →
    ((backendAfter repr before).sweepExpiredWhenDue now).events key = some entry →
    entry.windowSeconds ≠ windowSeconds →
    ∃ message, ((backendAfter repr before).isAllowed repr key limit windowSeconds now).1 =
      .error (.valueError message)
  /-- A stored key with a timestamp inside its window is stored when the window is compared. -/
  unswept : ∀ before rest now key entry, calls = before ++ rest →
    (∀ c ∈ before, c.now ≤ now) → 0 ≤ now → (backendAfter repr before).events key = some entry →
    (∃ t ∈ entry.timestamps, now - entry.windowSeconds < t) →
    ((backendAfter repr before).sweepExpiredWhenDue now).events key = some entry
  /-- A call that raises changes no key's timestamps inside their window. -/
  untouched : ∀ before rest now key limit windowSeconds e, calls = before ++ rest →
    (∀ c ∈ before, c.now ≤ now) → 0 ≤ now →
    ((backendAfter repr before).isAllowed repr key limit windowSeconds now).1 = .error e →
    ∀ other entry, (backendAfter repr before).events other = some entry →
      (((backendAfter repr before).isAllowed repr key limit windowSeconds now).2.stamps other).filter
          (now - entry.windowSeconds < ·) =
        entry.timestamps.filter (now - entry.windowSeconds < ·)

theorem answers_eq {calls : List LimiterCall} (h : WellTimed window 0 calls) (p : ℚ) :
    outcomes (checkSingleProcess repr) { nextPruneAt := p } calls =
      (verdicts [] (calls.map LimiterCall.check)).map .ok :=
  outcomes_eq (tracksFor_step repr) (tracksFor_start h p)

theorem sweptAnswers_eq {events : List (LimiterCall ⊕ ℚ)}
    (h : Tracks window backend log now) (hwindow : ∀ c ∈ callsOf events, c.windowSeconds = window c.key)
    (hordered : (now :: events.map (Sum.elim (·.now) id)).Pairwise (· ≤ ·)) :
    sweptAnswers repr backend events =
      (verdicts log ((callsOf events).map LimiterCall.check)).map .ok := by
  induction events generalizing backend log now with
  | nil => rfl
  | cons e es ih =>
    obtain ⟨hnow, hrest⟩ := List.pairwise_cons.1 hordered
    have hle := hnow _ List.mem_cons_self
    cases e with
    | inl c =>
      obtain ⟨hanswer, hnext⟩ := h.isAllowed repr hle (hwindow c List.mem_cons_self)
      have hcs := ih hnext (fun d hd => hwindow d (List.mem_cons_of_mem _ hd)) hrest
      show _ :: sweptAnswers repr _ es = _
      rw [hanswer, hcs]
      rfl
    | inr t =>
      have hlater : Tracks window backend log t := ⟨h.windows, h.keeps.later hle⟩
      refine ih ⟨fun key entry hentry => ?_, hlater.keeps.forget hlater.stamps_sweep⟩ hwindow hrest
      exact h.windows key entry (Option.filter_eq_some_iff.1 hentry).1

theorem backendAfter_tracksFor {before rest : List LimiterCall}
    (h : WellTimed window 0 (before ++ rest)) :
    TracksFor window (backendAfter repr before) (spentBy [] (before.map LimiterCall.check)) rest :=
  related_after (tracksFor_step repr) (tracksFor_start h 0)

theorem WellTimed.sublist {start : ℚ} {calls calls' : List LimiterCall}
    (h : WellTimed window start calls) (hsub : calls'.Sublist calls) :
    WellTimed window start calls' :=
  ⟨h.ordered.sublist ((hsub.map _).cons_cons start), fun c hc => h.fits c (hsub.subset hc)⟩

/-- A backend tracks the log until any later time. -/
theorem Tracks.after (h : Tracks window backend log now) {calls : List LimiterCall}
    (htimed : WellTimed window now calls) {t : ℚ} (hnow : now ≤ t) (hpast : ∀ c ∈ calls, c.now ≤ t) :
    Tracks window (SlidingWindow.after (checkSingleProcess repr) backend calls)
      (spentBy log (calls.map LimiterCall.check)) t := by
  induction calls generalizing backend log now with
  | nil => exact ⟨h.windows, h.keeps.later hnow⟩
  | cons c cs ih =>
    obtain ⟨hle, -, -, hwindow, hrest⟩ := htimed.cons
    exact ih (h.isAllowed repr hle hwindow).2 hrest (hpast c List.mem_cons_self)
      fun d hd => hpast d (List.mem_cons_of_mem _ hd)

theorem backendAfter_tracks {before : List LimiterCall} (h : WellTimed window 0 before) {t : ℚ}
    (hpast : ∀ c ∈ before, c.now ≤ t) (ht : 0 ≤ t) :
    Tracks window (backendAfter repr before) (spentBy [] (before.map LimiterCall.check)) t := by
  have hstart : Tracks window {} [] 0 := ⟨by simp, keeps_nil⟩
  exact hstart.after repr h ht hpast

/-- What is stored after a call is recent at its time. -/
theorem Recent.after (h : Recent backend now) {calls : List LimiterCall} {c : LimiterCall}
    (htimed : WellTimed window now (calls ++ [c])) :
    Recent (SlidingWindow.after (checkSingleProcess repr) backend (calls ++ [c])) c.now ∧
      c.now < (SlidingWindow.after (checkSingleProcess repr) backend (calls ++ [c])).nextPruneAt := by
  induction calls generalizing backend now with
  | nil =>
    obtain ⟨hle, hlimit, hwindow, -⟩ := htimed.cons
    exact h.isAllowed repr hle hlimit hwindow
  | cons d ds ih =>
    obtain ⟨hle, hlimit, hwindow, -, hrest⟩ := htimed.cons
    exact ih (h.isAllowed repr hle hlimit hwindow).1 hrest

theorem WellTimed.last_le {start : ℚ} {calls : List LimiterCall} {c : LimiterCall}
    (h : WellTimed window start (calls ++ [c])) :
    start ≤ c.now ∧ ∀ d ∈ calls ++ [c], d.now ≤ c.now := by
  have hordered := h.ordered
  rw [List.map_append, ← List.cons_append, List.map_singleton] at hordered
  have hlast := (List.pairwise_append.1 hordered).2.2
  refine ⟨hlast start List.mem_cons_self c.now (by simp), fun d hd => ?_⟩
  rcases List.mem_append.1 hd with hd | hd
  · exact hlast d.now (List.mem_cons_of_mem _ (List.mem_map_of_mem hd)) c.now (by simp)
  · rw [List.mem_singleton.1 hd]

/-- A call that raises leaves a swept store. -/
theorem SingleProcessRateLimitBackend.isAllowed_raises {key : Str} {limit windowSeconds : ℤ}
    {e : Exn} (h : (backend.isAllowed repr key limit windowSeconds now).1 = .error e) :
    (backend.isAllowed repr key limit windowSeconds now).2 = backend.sweepExpiredWhenDue now := by
  unfold SingleProcessRateLimitBackend.isAllowed at h ⊢
  simp only at h ⊢
  split at h
  · cases h
  · rename_i entry hentry
    by_cases hne : entry.windowSeconds = windowSeconds
    · simp [hne] at h
    · simp [hne]

theorem spentBy_answers {calls : List LimiterCall} (h : WellTimed window 0 calls) :
    spentBy [] (calls.map LimiterCall.check) =
      (allowedCalls repr calls).map fun d => (d.key, d.now) := by
  have hanswers := answers_eq repr h 0
  rw [spentBy_eq, List.nil_append, allowedCalls, answers]
  rw [show ({} : SingleProcessRateLimitBackend) = { nextPruneAt := 0 } from rfl, hanswers]
  rw [List.zip_map_left, List.zip_map_right, List.filter_map, List.filter_map, List.map_map,
    List.map_map, List.map_map]
  rfl

/-- The allowed calls in a window, counted by the log. -/
theorem length_inWindow (c : LimiterCall) (calls : List LimiterCall) :
    (spentIn (calls.map fun d => (d.key, d.now)) c.key (c.now - c.windowSeconds) c.now).length =
      (inWindow c calls).length := by
  unfold spentIn instants inWindow
  rw [List.filter_map, List.filter_map, List.filter_map, List.length_map, List.length_map,
    List.filter_filter]
  refine congrArg List.length (List.filter_congr fun d _ => ?_)
  rw [Bool.eq_iff_iff]
  simp only [Function.comp, Bool.and_eq_true, decide_eq_true_eq]
  tauto

/-- **The in-process limiter is an exact sliding window.** -/
theorem single_process_exact {calls : List LimiterCall} (h : WellTimed window 0 calls) :
    ExactWindow repr calls where
  exact before c rest heq := by
    subst heq
    obtain ⟨hanswer, -⟩ := tracksFor_step repr _ _ _ _ (backendAfter_tracksFor repr h)
    rw [hanswer, ← length_inWindow, ← spentBy_answers repr (h.sublist (List.sublist_append_left _ _))]
    rfl
  keysApart key := by
    have hkey := verdicts_of_key [] [] (calls.map LimiterCall.check) (k := key) rfl
    rw [answers, answers, show ({} : SingleProcessRateLimitBackend) = { nextPruneAt := 0 } from rfl,
      answers_eq repr h 0, answers_eq repr (h.sublist List.filter_sublist) 0]
    have hfilter : (calls.filter fun c => c.key = key).map LimiterCall.check =
        (calls.map LimiterCall.check).filter fun c => c.key = key := by
      rw [List.filter_map]
      rfl
    rw [hfilter, ← hkey, List.zip_map_left, List.zip_map_right, List.filter_map, List.filter_map,
      List.map_map, List.map_map, List.map_map]
    rfl
  sweepsApart p := (answers_eq repr h p).trans (answers_eq repr h 0).symm
  sweepsFree events hcalls hordered := by
    have hstart : Tracks window {} [] 0 := ⟨by simp, keeps_nil⟩
    subst hcalls
    exact (sweptAnswers_eq repr hstart (fun c hc => (h.fits c hc).2.2) hordered).trans
      (answers_eq repr h 0).symm
  refusedFree before c rest heq hrefused := by
    subst heq
    obtain ⟨hanswer, hnext⟩ := tracksFor_step repr _ _ _ _ (backendAfter_tracksFor repr h)
    rw [hanswer] at hrefused
    have hlog := Check.spend_of_refused (Except.ok.inj hrefused)
    rw [hlog] at hnext
    have hwithout : WellTimed window 0 (before ++ rest) :=
      h.sublist ((List.sublist_cons_self c rest).append_left before)
    have hstep : backendAfter repr (before ++ [c]) =
        (checkSingleProcess repr (backendAfter repr before) c).2 := by
      simp [backendAfter, SlidingWindow.after, List.foldl_append]
    rw [hstep, outcomes_eq (tracksFor_step repr) hnext,
      outcomes_eq (tracksFor_step repr) (backendAfter_tracksFor repr hwithout)]
  bounded before c rest heq key entry hentry := by
    have hrun : WellTimed window 0 (before ++ [c]) := by
      subst heq
      refine h.sublist ((List.singleton_sublist.2 ?_).append_left before)
      exact List.mem_cons_self
    obtain ⟨hstart, hpast⟩ := hrun.last_le
    have hempty : Recent {} 0 := ⟨by norm_num [pruneIntervalSeconds], by simp⟩
    obtain ⟨hrecent, hdue⟩ := hempty.after repr hrun
    obtain ⟨t, ht, hlive⟩ := hrecent.spent key entry hentry
    have hkept := ((backendAfter_tracks repr hrun hpast hstart).keeps.kept key).subset
      (by simpa [SingleProcessRateLimitBackend.stamps, hentry] using ht)
    rw [mem_instants, spentBy_answers repr hrun] at hkept
    obtain ⟨d, hd, heq⟩ := List.mem_map.1 hkept
    obtain ⟨rfl, rfl⟩ := Prod.mk.inj heq
    exact ⟨d, hd, rfl, by linarith⟩
  mismatched before rest now key limit windowSeconds entry heq hentry hne := by
    simp only [SingleProcessRateLimitBackend.isAllowed, hentry, ne_eq, hne, not_false_eq_true,
      if_true]
    exact ⟨_, rfl⟩
  unswept before rest now key entry heq hpast hnow hentry hlive := by
    subst heq
    obtain ⟨t, ht, hlive⟩ := hlive
    have htracks := backendAfter_tracks repr
      (h.sublist (List.sublist_append_left before rest)) hpast hnow
    unfold SingleProcessRateLimitBackend.sweepExpiredWhenDue
    split
    · exact hentry
    rw [SingleProcessRateLimitBackend.events_sweep hentry]
    cases hexpired : entry.isExpired now with
    | false => rfl
    | true =>
      have hordered := (htracks.keeps.ordered key).sublist (htracks.keeps.kept key)
      rw [SingleProcessRateLimitBackend.stamps, hentry] at hordered
      have hnone := WindowedEvents.isExpired_filter hordered hexpired
      have hmem : t ∈ entry.timestamps.filter (now - entry.windowSeconds < ·) :=
        List.mem_filter.2 ⟨ht, decide_eq_true hlive⟩
      rw [hnone] at hmem
      cases hmem
  untouched before rest now key limit windowSeconds e heq hpast hnow hraised other entry hentry := by
    subst heq
    have htracks := backendAfter_tracks repr
      (h.sublist (List.sublist_append_left before rest)) hpast hnow
    have hstamps : (backendAfter repr before).stamps other = entry.timestamps := by
      simp [SingleProcessRateLimitBackend.stamps, hentry]
    rw [SingleProcessRateLimitBackend.isAllowed_raises repr hraised, ← hstamps,
      htracks.windows other entry hentry]
    unfold SingleProcessRateLimitBackend.sweepExpiredWhenDue
    split
    · rfl
    · rcases htracks.stamps_sweep other with heq | ⟨heq, hnone⟩
      · rw [heq]
      · rw [heq, hnone]
        rfl

end SingleProcess

/-! ## On a Redis server -/

/-- One call on the backend, with the member its check adds. -/
def checkRedis (backend : RedisRateLimitBackend) (redis : Redis) (c : LimiterCall × Str) :
    Bool × Redis :=
  backend.isAllowed redis c.1.key c.1.limit c.1.windowSeconds c.2 c.1.now

/-- The scores of a key's sorted set. -/
def Redis.scores (redis : Redis) (key : Str) : List ℚ :=
  ((redis key).map fun set => set.members.map (·.1)).getD []

/-- The server keeps what counts of a log under the keys of the backend. A key is dropped only once
all its scores are out of its window. -/
structure RedisTracks (window : Str → ℤ) (backend : RedisRateLimitBackend) (redis : Redis)
    (log : List (Str × ℚ)) (now : ℚ) : Prop where
  keeps : SlidingWindow.Keeps (fun key => (window key : ℚ))
    (fun key => redis.scores (backend.redisKey key)) log now
  nonneg : ∀ key, ∀ t ∈ redis.scores (backend.redisKey key), 0 ≤ t
  expires : ∀ key set t, redis (backend.redisKey key) = some set → set.expireAt = some t →
    ∀ m ∈ set.members, m.1 + window key ≤ t

/-- The members no set of the backend holds. -/
def Unused (backend : RedisRateLimitBackend) (redis : Redis) (member : Str) : Prop :=
  ∀ key set, redis (backend.redisKey key) = some set → ∀ m ∈ set.members, m.2 ≠ member

section OnRedis

variable {window : Str → ℤ} {backend : RedisRateLimitBackend} {redis : Redis}
  {log : List (Str × ℚ)} {now : ℚ} {member : Str}

theorem RedisRateLimitBackend.redisKey_injective {key key' : Str}
    (h : backend.redisKey key = backend.redisKey key') : key = key' := by
  simpa [RedisRateLimitBackend.redisKey] using h

theorem Redis.scores_update {key : Str} {set : Option SortedSet} :
    Redis.scores (Function.update redis key set) key =
      (set.map fun set => set.members.map (·.1)).getD [] := by
  rw [Redis.scores, Function.update_self]

theorem Redis.scores_update_ne {key other : Str} {set : Option SortedSet} (hne : other ≠ key) :
    Redis.scores (Function.update redis key set) other = redis.scores other := by
  rw [Redis.scores, Function.update_of_ne hne]
  rfl

theorem Redis.atTime_eq_some {key : Str} {set : SortedSet} (h : redis.atTime now key = some set) :
    redis key = some set := (Option.filter_eq_some_iff.1 h).1

/-- What the server drops counts for nothing. -/
theorem RedisTracks.atTime (h : RedisTracks window backend redis log now) :
    RedisTracks window backend (redis.atTime now) log now := by
  have hscores : ∀ key, (redis.atTime now).scores (backend.redisKey key) =
      redis.scores (backend.redisKey key) ∨
      (redis.atTime now).scores (backend.redisKey key) = [] ∧
        (redis.scores (backend.redisKey key)).filter (now - window key < ·) = [] := by
    intro key
    cases hset : redis (backend.redisKey key) with
    | none => left; simp [Redis.scores, Redis.atTime, hset]
    | some set =>
      cases hexpire : set.expireAt with
      | none => left; simp [Redis.scores, Redis.atTime, hset, hexpire, Option.filter_some]
      | some t =>
        by_cases hlive : now < t
        · left; simp [Redis.scores, Redis.atTime, hset, hexpire, hlive, Option.filter_some]
        · right
          refine ⟨by simp [Redis.scores, Redis.atTime, hset, hexpire, hlive, Option.filter_some], ?_⟩
          rw [List.filter_eq_nil_iff]
          intro s hs
          simp only [Redis.scores, hset, Option.map_some, Option.getD_some, List.mem_map] at hs
          obtain ⟨m, hm, rfl⟩ := hs
          have := h.expires key set t hset hexpire m hm
          simp only [decide_eq_true_eq, not_lt]
          linarith [not_lt.1 hlive]
  refine ⟨h.keeps.forget hscores, fun key t ht => ?_, fun key set t hset => ?_⟩
  · rcases hscores key with heq | ⟨heq, -⟩
    · exact h.nonneg key t (heq ▸ ht)
    · rw [heq] at ht
      cases ht
  · exact h.expires key set t (Redis.atTime_eq_some hset)

theorem Redis.scores_zremrangebyscore {key : Str} (hi : ℚ) (hnonneg : ∀ t ∈ redis.scores key, 0 ≤ t) :
    (redis.zremrangebyscore key 0 hi).scores key = (redis.scores key).filter (hi < ·) := by
  unfold Redis.zremrangebyscore
  rw [Redis.scores_update]
  cases hset : redis key with
  | none => simp [Redis.scores, hset]
  | some set =>
    have hmembers : set.members.filter (fun m => !(decide (0 ≤ m.1) && decide (m.1 ≤ hi))) =
        set.members.filter fun m => hi < m.1 := by
      refine List.filter_congr fun m hm => ?_
      have : 0 ≤ m.1 := hnonneg m.1 (by
        simp only [Redis.scores, hset, Option.map_some, Option.getD_some]
        exact List.mem_map_of_mem hm)
      simp only [this, decide_true, Bool.true_and]
      rw [Bool.eq_iff_iff]
      simp
    simp only [Option.bind_some, hmembers]
    split
    · rename_i hnone
      simp only [Redis.scores, hset, Option.map_some, Option.getD_some, List.filter_map]
      show [] = _
      rw [show ((fun x : ℚ => decide (hi < x)) ∘ fun x : ℚ × Str => x.1) =
        fun m => decide (hi < m.1) from rfl, hnone]
      rfl
    · simp only [Redis.scores, hset, Option.map_some, Option.getD_some, List.filter_map]
      rfl

theorem Redis.zcard_eq (redis : Redis) (key : Str) : redis.zcard key = ((redis.scores key).length : ℤ) := by
  unfold Redis.zcard Redis.scores
  cases redis key <;> simp

/-- Trimming leaves members of the set, and its expiry. -/
theorem Redis.zremrangebyscore_eq_some {key other : Str} {lo hi : ℚ} {set : SortedSet}
    (h : redis.zremrangebyscore key lo hi other = some set) :
    ∃ old, redis other = some old ∧ set.expireAt = old.expireAt ∧
      ∀ m ∈ set.members, m ∈ old.members := by
  unfold Redis.zremrangebyscore at h
  by_cases hkey : other = key
  · rw [hkey, Function.update_self, Option.bind_eq_some_iff] at h
    obtain ⟨old, hold, h⟩ := h
    dsimp only at h
    split at h
    · cases h
    · obtain rfl := Option.some.inj h
      exact ⟨old, hkey ▸ hold, rfl, fun m hm => (List.mem_filter.1 hm).1⟩
  · rw [Function.update_of_ne hkey] at h
    exact ⟨set, h, rfl, fun m hm => hm⟩

/-- What a grant stores under its key. -/
theorem Redis.zadd_expire {key : Str} {seconds : ℤ}
    (hunused : ∀ set, redis key = some set → ∀ m ∈ set.members, m.2 ≠ member) :
    (redis.zadd key now member).expire key seconds now = Function.update redis key
      (some ⟨((redis key).getD {}).members ++ [(now, member)], some (now + seconds)⟩) := by
  have hmembers : ((redis key).getD {}).members.filter (fun m => m.2 ≠ member) =
      ((redis key).getD {}).members := by
    rw [List.filter_eq_self]
    intro m hm
    cases hset : redis key with
    | none => rw [hset] at hm; cases hm
    | some set =>
      rw [hset] at hm
      exact decide_eq_true (hunused set hset m hm)
  unfold Redis.expire Redis.zadd
  rw [Function.update_self, Function.update_idem, hmembers]
  rfl

/-- A check stores its window under its key, and its own reading when it is granted. -/
theorem RedisTracks.update (h : RedisTracks window backend redis log now) {key : Str} {limit : ℤ}
    {granted : Bool} {set : Option SortedSet}
    (hgranted : Check.admitted ⟨key, now, limit, (window key : ℚ)⟩ log = granted)
    (hscores : (set.map fun set => set.members.map (·.1)).getD [] =
      (redis.scores (backend.redisKey key)).filter (now - window key < ·) ++
        if granted then [now] else [])
    (hnow : 0 ≤ now)
    (hexpires : ∀ s t, set = some s → s.expireAt = some t →
      ∀ m ∈ s.members, m.1 + window key ≤ t) :
    RedisTracks window backend (Function.update redis (backend.redisKey key) set)
      (Check.spend ⟨key, now, limit, (window key : ℚ)⟩ log) now := by
  have hne : ∀ other, other ≠ key → backend.redisKey other ≠ backend.redisKey key :=
    fun other hother heq => hother (RedisRateLimitBackend.redisKey_injective heq)
  refine ⟨h.keeps.spend hgranted (fun other hother => Redis.scores_update_ne (hne other hother)) ?_,
    fun other t ht => ?_, fun other s t hs => ?_⟩
  · rw [Redis.scores_update, hscores]
  all_goals by_cases hother : other = key
  · rw [hother, Redis.scores_update, hscores] at ht
    rcases List.mem_append.1 ht with ht | ht
    · exact h.nonneg key t (List.mem_filter.1 ht).1
    · split_ifs at ht
      · rw [List.mem_singleton.1 ht]
        exact hnow
      · cases ht
  · rw [Redis.scores_update_ne (hne other hother)] at ht
    exact h.nonneg other t ht
  · rw [hother, Function.update_self] at hs
    exact hother ▸ hexpires s t hs
  · rw [Function.update_of_ne (hne other hother)] at hs
    exact h.expires other s t hs

/-- **One run of the script, judged by the log.** -/
theorem RedisTracks.isAllowed (h : RedisTracks window backend redis log now)
    {c : LimiterCall × Str} (hle : now ≤ c.1.now) (hnow : 0 ≤ c.1.now)
    (hwindow : c.1.windowSeconds = window c.1.key) (hunused : Unused backend redis c.2) :
    (checkRedis backend redis c).1 = c.1.check.admitted log ∧
      RedisTracks window backend (checkRedis backend redis c).2 (c.1.check.spend log) c.1.now := by
  have hlive : RedisTracks window backend (redis.atTime c.1.now) log c.1.now :=
    RedisTracks.atTime ⟨h.keeps.later hle, h.nonneg, h.expires⟩
  have hscores := Redis.scores_zremrangebyscore (c.1.now - window c.1.key)
    (hlive.nonneg c.1.key)
  have hcard := Redis.zcard_eq ((redis.atTime c.1.now).zremrangebyscore
    (backend.redisKey c.1.key) 0 (c.1.now - window c.1.key)) (backend.redisKey c.1.key)
  have hgranted := hlive.keeps.admitted c.1.key c.1.limit
  rw [← hscores, ← hcard] at hgranted
  have htrim : ∀ set, (redis.atTime c.1.now).zremrangebyscore (backend.redisKey c.1.key) 0
      (c.1.now - window c.1.key) (backend.redisKey c.1.key) = some set →
      ∃ old, redis (backend.redisKey c.1.key) = some old ∧ set.expireAt = old.expireAt ∧
        ∀ m ∈ set.members, m ∈ old.members := by
    intro set hset
    obtain ⟨old, hold, hrest⟩ := Redis.zremrangebyscore_eq_some hset
    exact ⟨old, Redis.atTime_eq_some hold, hrest⟩
  unfold checkRedis RedisRateLimitBackend.isAllowed Redis.luaSlidingWindow
  simp only [LimiterCall.check, hwindow]
  set trimmed := (redis.atTime c.1.now).zremrangebyscore (backend.redisKey c.1.key) 0
    (c.1.now - window c.1.key) with htrimmed
  have hupdate : ∀ set, Function.update trimmed (backend.redisKey c.1.key) set =
      Function.update (redis.atTime c.1.now) (backend.redisKey c.1.key) set := by
    intro set
    rw [htrimmed, Redis.zremrangebyscore, Function.update_idem]
  by_cases hfull : c.1.limit ≤ trimmed.zcard (backend.redisKey c.1.key)
  · rw [decide_eq_false (not_lt.2 hfull)] at hgranted
    rw [if_pos hfull]
    refine ⟨by rw [hgranted]; exact decide_eq_false (by simp only; omega), ?_⟩
    simp only
    rw [← Function.update_eq_self (backend.redisKey c.1.key) trimmed, hupdate]
    refine hlive.update hgranted ?_ hnow fun s t hs ht m hm => ?_
    · simpa [Redis.scores] using hscores
    · obtain ⟨old, hold, hexpire, hmembers⟩ := htrim s hs
      exact h.expires c.1.key old t hold (hexpire ▸ ht) m (hmembers m hm)
  · rw [decide_eq_true (not_le.1 hfull)] at hgranted
    rw [if_neg hfull]
    refine ⟨by rw [hgranted]; exact decide_eq_true (by simp only; omega), ?_⟩
    simp only
    rw [Redis.zadd_expire fun set hset m hm => by
      obtain ⟨old, hold, -, hmembers⟩ := htrim set hset
      exact hunused c.1.key old hold m (hmembers m hm), hupdate]
    have hold : ((trimmed (backend.redisKey c.1.key)).getD {}).members.map (·.1) =
        trimmed.scores (backend.redisKey c.1.key) := by
      unfold Redis.scores
      cases trimmed (backend.redisKey c.1.key) <;> rfl
    refine hlive.update hgranted ?_ hnow fun s t hs ht m hm => ?_
    · rw [Option.map_some, Option.getD_some, List.map_append, hold, hscores]
      rfl
    · obtain rfl := Option.some.inj hs
      obtain rfl := Option.some.inj ht
      have hpast : m.1 ≤ c.1.now := by
        rcases List.mem_append.1 hm with hm | hm
        · have hscore := List.mem_map_of_mem (f := (·.1)) hm
          rw [hold, hscores] at hscore
          exact hlive.keeps.past c.1.key m.1
            ((hlive.keeps.kept c.1.key).subset (List.mem_filter.1 hscore).1)
        · rw [List.mem_singleton.1 hm]
      linarith

theorem Unused.grant (h : Unused backend redis member) {key other : Str} {seconds : ℤ}
    (hne : other ≠ member) : Unused backend ((redis.zadd key now other).expire key seconds now)
      member := by
  intro key' set hset m hm
  unfold Redis.expire Redis.zadd at hset
  rw [Function.update_idem, Function.update_self] at hset
  by_cases hkey : backend.redisKey key' = key
  · rw [hkey, Function.update_self] at hset
    obtain rfl := Option.some.inj hset
    rcases List.mem_append.1 hm with hm | hm
    · have hold := (List.mem_filter.1 hm).1
      cases hset : redis key with
      | none =>
        rw [hset] at hold
        cases hold
      | some old =>
        rw [hset] at hold
        exact h key' old (hkey ▸ hset) m hold
    · rw [List.mem_singleton.1 hm]
      exact hne
  · rw [Function.update_of_ne hkey] at hset
    exact h key' set hset m hm

/-- Other members stay unused. -/
theorem Unused.isAllowed {c : LimiterCall × Str} (h : Unused backend redis member)
    (hne : c.2 ≠ member) : Unused backend (checkRedis backend redis c).2 member := by
  have htrimmed : Unused backend ((redis.atTime c.1.now).zremrangebyscore
      (backend.redisKey c.1.key) 0 (c.1.now - c.1.windowSeconds)) member := by
    intro key set hset m hm
    obtain ⟨old, hold, -, hmembers⟩ := Redis.zremrangebyscore_eq_some hset
    exact h key old (Redis.atTime_eq_some hold) m (hmembers m hm)
  unfold checkRedis RedisRateLimitBackend.isAllowed Redis.luaSlidingWindow
  simp only
  split
  · exact htrimmed
  · exact htrimmed.grant hne

/-- How a server stands to the log and to the calls that are still to come. -/
def RedisTracksFor (window : Str → ℤ) (backend : RedisRateLimitBackend) (redis : Redis)
    (log : List (Str × ℚ)) (calls : List (LimiterCall × Str)) : Prop :=
  ∃ now, 0 ≤ now ∧ RedisTracks window backend redis log now ∧
    WellTimed window now (calls.map (·.1)) ∧ (calls.map (·.2)).Nodup ∧
    ∀ c ∈ calls, Unused backend redis c.2

theorem redisTracksFor_step (redis : Redis) (log : List (Str × ℚ)) (c : LimiterCall × Str)
    (cs : List (LimiterCall × Str)) (h : RedisTracksFor window backend redis log (c :: cs)) :
    (checkRedis backend redis c).1 = c.1.check.admitted log ∧
      RedisTracksFor window backend (checkRedis backend redis c).2 (c.1.check.spend log) cs := by
  obtain ⟨now, hnow, htracks, htimed, hmembers, hunused⟩ := h
  obtain ⟨hle, -, -, hwindow, hrest⟩ := WellTimed.cons (c := c.1) htimed
  obtain ⟨hnotmem, hnodup⟩ := List.nodup_cons.1 hmembers
  obtain ⟨hanswer, hnext⟩ := htracks.isAllowed hle (hnow.trans hle) hwindow
    (hunused c List.mem_cons_self)
  refine ⟨hanswer, c.1.now, hnow.trans hle, hnext, hrest, hnodup, fun d hd => ?_⟩
  have hne : c.2 ≠ d.2 := fun heq => hnotmem (List.mem_map.2 ⟨d, hd, heq.symm⟩)
  exact (hunused d (List.mem_cons_of_mem _ hd)).isAllowed hne

theorem redisTracks_start (h : ∀ key, redis (backend.redisKey key) = none) :
    RedisTracks window backend redis [] 0 := by
  have hscores : (fun key => redis.scores (backend.redisKey key)) = fun _ => [] := by
    funext key
    rw [Redis.scores, h key]
    rfl
  refine ⟨?_, fun key t ht => ?_, fun key set t hset => ?_⟩
  · rw [hscores]
    exact keeps_nil
  · rw [Redis.scores, h key] at ht
    cases ht
  · rw [h key] at hset
    cases hset

/-- **The two backends agree.** A server with no key of the backend yet, and a member of its own for
every check, answers as a new backend in one process does. -/
theorem backends_agree {calls : List (LimiterCall × Str)}
    (htimed : WellTimed window 0 (calls.map (·.1))) (hmembers : (calls.map (·.2)).Nodup)
    (hunused : ∀ key, redis (backend.redisKey key) = none) (repr : Str → String) :
    (outcomes (checkRedis backend) redis calls).map .ok = answers repr (calls.map (·.1)) := by
  have hstart : RedisTracksFor window backend redis [] calls :=
    ⟨0, le_rfl, redisTracks_start hunused, htimed, hmembers, fun c _ key set hset => by
      rw [hunused key] at hset
      cases hset⟩
  have hredis : outcomes (checkRedis backend) redis calls = (verdicts [] _).map id :=
    outcomes_eq redisTracksFor_step hstart
  have hsingle := answers_eq repr htimed 0
  rw [hredis, List.map_id, answers,
    show ({} : SingleProcessRateLimitBackend) = { nextPruneAt := 0 } from rfl, hsingle, List.map_map]
  rfl

end OnRedis

/-! ## Runs -/

/-- Calls on two keys at the edges of their windows. -/
def demoCalls : List LimiterCall :=
  [⟨str "a", 2, 60, 0⟩, ⟨str "a", 2, 60, 59⟩, ⟨str "b", 1, 1, 59⟩, ⟨str "a", 2, 60, 60⟩,
    ⟨str "a", 2, 60, 61⟩]

def demoWindow (key : Str) : ℤ := if key = str "a" then 60 else 1

theorem demoCalls_wellTimed : WellTimed demoWindow 0 demoCalls :=
  ⟨by decide, by decide⟩

theorem single_process_exact_of_edges : ExactWindow (fun _ => "'a'") demoCalls :=
  single_process_exact _ demoCalls_wellTimed

theorem backends_agree_of_edges :
    (outcomes (checkRedis ⟨str "p"⟩) (fun _ => none)
      (demoCalls.zip [str "1", str "2", str "3", str "4", str "5"])).map .ok =
      answers (fun _ => "'a'") demoCalls :=
  backends_agree demoCalls_wellTimed (by decide) (fun _ => rfl) _

/-- On a clock before 1970 the script trims nothing: its range starts at the score 0. -/
def earlyCalls : List LimiterCall :=
  [⟨str "a", 2, 10, -100⟩, ⟨str "a", 2, 10, -95⟩, ⟨str "a", 2, 10, -89⟩]

theorem backends_disagree : WellTimed (fun _ => 10) (-100) earlyCalls ∧
    (outcomes (checkRedis ⟨str "p"⟩) (fun _ => none)
      (earlyCalls.zip [str "x", str "y", str "z"])).map .ok ≠ answers (fun _ => "'a'") earlyCalls := by
  refine ⟨⟨by decide, by decide⟩, fun heq => ?_⟩
  have hallows := congrArg (List.map allows) heq
  revert hallows
  decide +kernel

end WebAuth
