import WebAuth.Effects.Schedules
import WebAuth.KeySetRuns
import WebAuth.Python.Utf8

/-!
# The key-set cache over whole runs

Any number of `verify` calls share one verifier, in any interleaving of their steps. Fetch attempts
are spaced by the cooldown and never overlap, only a sound document replaces the cached set, and a
key is used for at most an hour from the reading its fetch began at. A reading is an exact rational
here; the code's sums and differences of readings are rounded to floats.
-/

namespace WebAuth

open Python Effects Program

variable {ι : Type} [DecidableEq ι]

/-- The steps of many calls of one verifier, in the order they were taken. -/
abbrev VerifierHistory (ι : Type) := List (ι × VerifierEvent)

/-- The arguments of one call of `verify`. -/
structure VerifyArgs where
  token : Str
  expected : ExpectedType

/-- The calls, one a thread. -/
def verifyCalls (py : Platform) (v : JwtVerifier) (args : ι → VerifyArgs) (i : ι) :
    Verification (Except RejectionReason VerifiedClaims) :=
  verify py v (args i).token (args i).expected

/-- The runs of the calls on a verifier as it is built. -/
abbrev VerifierRun (py : Platform) (v : JwtVerifier) (args : ι → VerifyArgs) (clock : ℚ) :=
  Run shared (Shared.built clock) (verifyCalls py v args)

/-! ## What a history says -/

/-- The key sets stored, in order. -/
def written (h : VerifierHistory ι) : List KeySet :=
  h.filterMap fun e => match e.2 with
    | ⟨.writeKeySet keySet, _⟩ => some keySet
    | _ => none

/-- The start of the fetch a step answers: the reading its call made last before it. -/
def fetchStart (before : VerifierHistory ι) (e : ι × VerifierEvent) : List ℚ :=
  match e.2 with
  | ⟨.fetchKeySet _, _⟩ => (lastReading (own e.1 before)).toList
  | _ => []

/-- The starts of the fetches of a history that goes on from `before`. -/
def fetchStartsFrom : VerifierHistory ι → VerifierHistory ι → List ℚ
  | _, [] => []
  | before, e :: h => fetchStart before e ++ fetchStartsFrom (before ++ [e]) h

/-- The starts of all fetches, in order. -/
def fetchStarts (h : VerifierHistory ι) : List ℚ := fetchStartsFrom [] h

/-- A key set came from a fetch of the history that was answered with a sound document, and is
dated by the reading the fetch began at. -/
def FetchedIn (py : Platform) (h : VerifierHistory ι) (keySet : KeySet) : Prop :=
  ∃ h₁ h₂ i url document, h = h₁ ++ (i, ⟨.fetchKeySet url, .ok document⟩) :: h₂ ∧
    lastReading (own i h₁) = some keySet.fetchedAt ∧
    parseKeySet py document = .ok (keySet.named, keySet.sole)

omit [DecidableEq ι] in
theorem written_snoc (h : VerifierHistory ι) (i : ι) (e : VerifierEvent) :
    written (h ++ [(i, e)]) = written h ++ match e with
      | ⟨.writeKeySet keySet, _⟩ => [keySet]
      | _ => [] := by
  unfold written
  rw [List.filterMap_append]
  congr 1
  obtain ⟨c, ans⟩ := e
  cases c <;> rfl

theorem fetchStartsFrom_append (before h h' : VerifierHistory ι) :
    fetchStartsFrom before (h ++ h') =
      fetchStartsFrom before h ++ fetchStartsFrom (before ++ h) h' := by
  induction h generalizing before with
  | nil => simp [fetchStartsFrom]
  | cons e h ih => simp [fetchStartsFrom, ih]

theorem fetchStarts_snoc (h : VerifierHistory ι) (e : ι × VerifierEvent) :
    fetchStarts (h ++ [e]) = fetchStarts h ++ fetchStart h e := by
  simp [fetchStarts, fetchStartsFrom_append, fetchStartsFrom]

theorem FetchedIn.snoc {py : Platform} {h : VerifierHistory ι} {keySet : KeySet}
    (hf : FetchedIn py h keySet) (e : ι × VerifierEvent) : FetchedIn py (h ++ [e]) keySet := by
  obtain ⟨h₁, h₂, i, url, document, rfl, hread, hparse⟩ := hf
  exact ⟨h₁, h₂ ++ [e], i, url, document, by simp, hread, hparse⟩

/-- A call's stage after one more step of any call. -/
theorem stageOf_own_snoc (py : Platform) (h : VerifierHistory ι) (i j : ι) (e : VerifierEvent) :
    stageOf py (own j (h ++ [(i, e)])) =
      if j = i then (stageOf py (own i h)).next py e else stageOf py (own j h) := by
  by_cases hj : j = i
  · subst hj
    simp
  · rw [own_append_ne (Ne.symm hj), if_neg hj]

/-! ## Which stage a step is taken in -/

section

variable {stage : Stage} {py : Platform}

theorem allows_writeKeySet {keySet : KeySet} (h : stage.allows (.writeKeySet keySet)) :
    stage = .fetched keySet := by
  cases stage <;> simp_all [Stage.allows]

theorem allows_writeLastRefreshAt {t : ℚ} (h : stage.allows (.writeLastRefreshAt t)) :
    ∃ last, stage = .due t last ∧
      ∀ at_, last = some at_ → keySetRefreshCooldownSeconds ≤ t - at_ := by
  cases stage <;> simp_all [Stage.allows]

theorem allows_readLastRefreshAt (h : stage.allows .readLastRefreshAt) :
    ∃ now, stage = .timed now := by
  cases stage <;> simp_all [Stage.allows]

theorem allows_monotonicClock (h : stage.allows .monotonicClock) :
    stage = .free ∨ stage = .held := by
  cases stage <;> simp_all [Stage.allows]

theorem allows_free {c : VerifierCall} (h : stage.allows c)
    (hc : c = .readKeySet ∨ c = .wallClock ∨ c = .readLastRefreshFailed ∨ c = .acquire) :
    stage = .free := by
  rcases hc with rfl | rfl | rfl | rfl <;> cases stage <;> simp_all [Stage.allows]

theorem allows_writeLastRefreshFailed {failed : Bool}
    (h : stage.allows (.writeLastRefreshFailed failed)) :
    stage = (if failed then .failed else .stored) := by
  cases stage <;> cases failed <;> simp_all [Stage.allows]

theorem allows_release (h : stage.allows .release) :
    stage = .leaving ∨ ∃ now last, stage = .due now last := by
  cases stage <;> simp_all [Stage.allows]

/-- After a fetch, a call has keys to store only from a sound document. -/
theorem answered_eq_fetched {now : ℚ} {ans : Except Exn Bytes} {keySet : KeySet}
    (h : Stage.answered py now ans = .fetched keySet) :
    ∃ document, ans = .ok document ∧ keySet.fetchedAt = now ∧
      parseKeySet py document = .ok (keySet.named, keySet.sole) := by
  unfold Stage.answered refreshOutcome at h
  cases ans with
  | error e => cases e <;> simp [Except.bind] at h
  | ok document =>
    simp only [Except.bind] at h
    cases hp : parseKeySet py document with
    | error e =>
      obtain ⟨failure, rfl⟩ := parseKeySet_raises py document e hp
      simp [hp] at h
    | ok keys =>
      obtain ⟨named, sole⟩ := keys
      simp only [hp, Stage.fetched.injEq] at h
      subst h
      exact ⟨document, rfl, rfl, hp⟩

end

/-! ## The invariant -/

/-- The reading a call in a stage has taken under the lock. -/
def Stage.time : Stage → Option ℚ
  | .timed now => some now
  | .due now _ => some now
  | .started now => some now
  | _ => none

/-- What the steps of all calls keep between history and shared state. -/
structure CacheInv (py : Platform) (h : VerifierHistory ι) (s : Shared) : Prop where
  cached : s.keySet = (written h).getLast?
  locked : ∀ i, stageOf py (own i h) ≠ .free → s.refreshLock = true
  alone : ∀ i j, stageOf py (own i h) ≠ .free → stageOf py (own j h) ≠ .free → i = j
  timed : ∀ i now, (stageOf py (own i h)).time = some now → now ≤ s.clock
  due : ∀ i now last, stageOf py (own i h) = .due now last → last = s.lastRefreshAt
  started : ∀ i now, stageOf py (own i h) = .started now →
    s.lastRefreshAt = some now ∧
      ∀ t ∈ fetchStarts h, t + keySetRefreshCooldownSeconds ≤ now
  fetched : ∀ i keySet, stageOf py (own i h) = .fetched keySet →
    s.lastRefreshAt = some keySet.fetchedAt ∧ FetchedIn py h keySet
  starts : ∀ t ∈ fetchStarts h, ∃ last, s.lastRefreshAt = some last ∧ t ≤ last
  spaced : (fetchStarts h).Pairwise fun a b => a + keySetRefreshCooldownSeconds ≤ b
  ordered : (written h).Pairwise fun a b => a.fetchedAt ≤ b.fetchedAt
  dated : ∀ keySet ∈ written h, ∃ last, s.lastRefreshAt = some last ∧ keySet.fetchedAt ≤ last
  genuine : ∀ keySet ∈ written h, FetchedIn py h keySet

theorem cacheInv_start (py : Platform) (clock : ℚ) :
    CacheInv py ([] : VerifierHistory ι) (Shared.built clock) := by
  constructor <;> simp [Shared.built, written, fetchStarts, fetchStartsFrom, Stage.time]

section

variable {py : Platform} {h : VerifierHistory ι} {s s' : Shared} {i : ι} {c : VerifierCall}
  {ans : Except Exn c.Answer}

/-- While a call holds the lock, no other does. -/
theorem CacheInv.others {j : ι} (inv : CacheInv py h s) (hi : stageOf py (own i h) ≠ .free)
    (hj : j ≠ i) : stageOf py (own j h) = .free := by
  by_contra hne
  exact hj (inv.alone j i hne hi)

/-- A step that leaves the key set and the instant of the last refresh alone, and leads its own
call to a stage with nothing fetched or begun, keeps the invariant. -/
theorem CacheInv.frame (stage : Stage) (inv : CacheInv py h s)
    (hnext : (stageOf py (own i h)).next py ⟨c, ans⟩ = stage)
    (hc : (∀ url, c ≠ .fetchKeySet url) ∧ ∀ keySet, c ≠ .writeKeySet keySet)
    (hkey : s'.keySet = s.keySet) (hlast : s'.lastRefreshAt = s.lastRefreshAt)
    (hclock : s.clock ≤ s'.clock)
    (hlock : stage ≠ .free → s'.refreshLock = true ∧ ∀ j, j ≠ i → stageOf py (own j h) = .free)
    (hothers : ∀ j, j ≠ i → stageOf py (own j h) ≠ .free → s'.refreshLock = true)
    (htime : ∀ now, stage.time = some now → now ≤ s'.clock)
    (hdue : ∀ now last, stage = .due now last → last = s.lastRefreshAt)
    (hstart : ∀ now, stage ≠ .started now) (hfetched : ∀ keySet, stage ≠ .fetched keySet) :
    CacheInv py (h ++ [(i, ⟨c, ans⟩)]) s' := by
  have hstage := fun j => stageOf_own_snoc py h i j ⟨c, ans⟩
  rw [hnext] at hstage
  have hw : written (h ++ [(i, ⟨c, ans⟩)]) = written h := by
    rw [written_snoc]
    cases c <;> first | exact List.append_nil _ | exact absurd rfl (hc.2 _)
  have hf : fetchStarts (h ++ [(i, ⟨c, ans⟩)]) = fetchStarts h := by
    rw [fetchStarts_snoc]
    cases c <;> first | exact List.append_nil _ | exact absurd rfl (hc.1 _)
  have hgen := fun keySet (hk : FetchedIn py h keySet) => hk.snoc (i, ⟨c, ans⟩)
  obtain ⟨cached, locked, alone, timed, due, started, fetched, starts, spaced, ordered, dated,
    genuine⟩ := inv
  constructor
  case cached => rw [hw, hkey, cached]
  case locked => grind
  case alone => grind
  case timed => grind
  case due => grind
  case started => grind
  case fetched => grind
  case starts => rwa [hf, hlast]
  case spaced => rwa [hf]
  case ordered => rwa [hw]
  case dated => rwa [hw, hlast]
  case genuine => grind

/-- Stamping an attempt: the cooldown separates it from every earlier one. -/
theorem CacheInv.stamp {t : ℚ} {ans : Except Exn (VerifierCall.writeLastRefreshAt t).Answer}
    (inv : CacheInv py h s) (hst : (stageOf py (own i h)).allows (.writeLastRefreshAt t))
    (hstep : shared s (.writeLastRefreshAt t) ans s') :
    CacheInv py (h ++ [(i, ⟨.writeLastRefreshAt t, ans⟩)]) s' := by
  obtain ⟨last, hdue, hcool⟩ := allows_writeLastRefreshAt hst
  obtain ⟨rfl, rfl⟩ := hstep
  have hfree := fun j => inv.others (j := j) (by rw [hdue]; simp)
  have hstage := fun j => stageOf_own_snoc py h i j ⟨.writeLastRefreshAt t, .ok ()⟩
  rw [hdue] at hstage
  simp only [Stage.next] at hstage
  have hw : written (h ++ [(i, ⟨.writeLastRefreshAt t, .ok ()⟩)]) = written h := by
    rw [written_snoc]
    exact List.append_nil _
  have hf : fetchStarts (h ++ [(i, ⟨.writeLastRefreshAt t, .ok ()⟩)]) = fetchStarts h := by
    rw [fetchStarts_snoc]
    exact List.append_nil _
  have hlast := inv.due i t last hdue
  have htime := inv.timed i t (by rw [hdue]; rfl)
  -- the cooldown is positive, so what was before the last attempt is before this one
  have hpast : ∀ x, (∃ last, s.lastRefreshAt = some last ∧ x ≤ last) →
      x + keySetRefreshCooldownSeconds ≤ t := by
    rintro x ⟨l, hl, hx⟩
    have := hcool l (hlast.trans hl)
    linarith
  have hpos : (0 : ℚ) ≤ keySetRefreshCooldownSeconds := by norm_num [keySetRefreshCooldownSeconds]
  have hgen := fun keySet (hk : FetchedIn py h keySet) =>
    hk.snoc (i, (⟨.writeLastRefreshAt t, .ok ()⟩ : VerifierEvent))
  obtain ⟨cached, locked, alone, timed, due, started, fetched, starts, spaced, ordered, dated,
    genuine⟩ := inv
  constructor
  case cached => rw [hw, cached]
  case locked => grind
  case alone => grind
  case timed => grind [Stage.time]
  case due => grind
  case started => grind
  case fetched => grind
  case starts => exact fun x hx => ⟨t, rfl, by linarith [hpast x (starts x (hf ▸ hx))]⟩
  case spaced => rwa [hf]
  case ordered => rwa [hw]
  case dated => exact fun keySet hk => ⟨t, rfl, by linarith [hpast _ (dated keySet (hw ▸ hk))]⟩
  case genuine => grind

/-- Answering a fetch: its start is the instant the attempt was stamped with. -/
theorem CacheInv.answer {url : Str} {keyId : Option Str}
    {ans : Except Exn (VerifierCall.fetchKeySet url).Answer}
    (inv : CacheInv py h s) (hok : Allowed py keyId (own i h) (.fetchKeySet url))
    (hstep : shared s (.fetchKeySet url) ans s') :
    CacheInv py (h ++ [(i, ⟨.fetchKeySet url, ans⟩)]) s' := by
  obtain ⟨now, hnow, hread⟩ := hok.starts url rfl
  obtain ⟨-, rfl⟩ := hstep
  have hfree := fun j => inv.others (j := j) (by rw [hnow]; simp)
  have hstage := fun j => stageOf_own_snoc py h i j ⟨.fetchKeySet url, ans⟩
  rw [hnow] at hstage
  simp only [Stage.next] at hstage
  have hw : written (h ++ [(i, ⟨.fetchKeySet url, ans⟩)]) = written h := by
    rw [written_snoc]
    exact List.append_nil _
  have hf : fetchStarts (h ++ [(i, ⟨.fetchKeySet url, ans⟩)]) = fetchStarts h ++ [now] := by
    rw [fetchStarts_snoc]
    simp [fetchStart, hread]
  obtain ⟨hlast, hpast⟩ := inv.started i now hnow
  have hlock := inv.locked i (by rw [hnow]; simp)
  have hgen := fun keySet (hk : FetchedIn py h keySet) =>
    hk.snoc (i, (⟨.fetchKeySet url, ans⟩ : VerifierEvent))
  have hnew : ∀ keySet, Stage.answered py now ans = .fetched keySet →
      keySet.fetchedAt = now ∧ FetchedIn py (h ++ [(i, ⟨.fetchKeySet url, ans⟩)]) keySet := by
    intro keySet hk
    obtain ⟨document, rfl, hat, hparse⟩ := answered_eq_fetched hk
    exact ⟨hat, h, [], i, url, document, rfl, by rw [hread, hat], hparse⟩
  have hnotime : (Stage.answered py now ans).time = none := by
    unfold Stage.answered
    split <;> rfl
  obtain ⟨cached, locked, alone, timed, due, started, fetched, starts, spaced, ordered, dated,
    genuine⟩ := inv
  constructor
  case cached => rw [hw, cached]
  case locked => grind
  case alone => grind
  case timed => grind
  case due => grind [Stage.time]
  case started => grind [Stage.time]
  case fetched => grind
  case starts => grind
  case spaced =>
    rw [hf, List.pairwise_append]
    exact ⟨spaced, List.pairwise_singleton _ _, by simpa using hpast⟩
  case ordered => rwa [hw]
  case dated => rwa [hw]
  case genuine => grind

/-- Storing a key set: it came from a fetch, and no set stored before is dated later. -/
theorem CacheInv.store {keySet : KeySet} {ans : Except Exn (VerifierCall.writeKeySet keySet).Answer}
    (inv : CacheInv py h s) (hst : (stageOf py (own i h)).allows (.writeKeySet keySet))
    (hstep : shared s (.writeKeySet keySet) ans s') :
    CacheInv py (h ++ [(i, ⟨.writeKeySet keySet, ans⟩)]) s' := by
  have hfetched := allows_writeKeySet hst
  obtain ⟨rfl, rfl⟩ := hstep
  have hfree := fun j => inv.others (j := j) (by rw [hfetched]; simp)
  have hstage := fun j => stageOf_own_snoc py h i j ⟨.writeKeySet keySet, .ok ()⟩
  rw [hfetched] at hstage
  simp only [Stage.next] at hstage
  have hw : written (h ++ [(i, ⟨.writeKeySet keySet, .ok ()⟩)]) = written h ++ [keySet] := by
    rw [written_snoc]
  have hf : fetchStarts (h ++ [(i, ⟨.writeKeySet keySet, .ok ()⟩)]) = fetchStarts h := by
    rw [fetchStarts_snoc]
    exact List.append_nil _
  obtain ⟨hlast, hsource⟩ := inv.fetched i keySet hfetched
  have hlock := inv.locked i (by rw [hfetched]; simp)
  have hgen := fun keySet' (hk : FetchedIn py h keySet') =>
    hk.snoc (i, (⟨.writeKeySet keySet, .ok ()⟩ : VerifierEvent))
  obtain ⟨cached, locked, alone, timed, due, started, fetched, starts, spaced, ordered, dated,
    genuine⟩ := inv
  constructor
  case cached => simp [hw]
  case locked => grind
  case alone => grind
  case timed => grind [Stage.time]
  case due => grind
  case started => grind
  case fetched => grind
  case starts => rwa [hf]
  case spaced => rwa [hf]
  case ordered =>
    rw [hw, List.pairwise_append]
    refine ⟨ordered, List.pairwise_singleton _ _, fun a ha b hb => ?_⟩
    obtain rfl := List.mem_singleton.1 hb
    obtain ⟨last, hl, hle⟩ := dated a ha
    rw [hlast] at hl
    cases hl
    exact hle
  case dated => grind
  case genuine => grind

/-- Every step a call is allowed to take keeps the invariant. -/
theorem cacheInv_step {keyId : Option Str} (inv : CacheInv py h s)
    (hok : Allowed py keyId (own i h) c) (hstep : shared s c ans s') :
    CacheInv py (h ++ [(i, ⟨c, ans⟩)]) s' := by
  have hst := hok.stage
  cases c with
  | readKeySet | readLastRefreshFailed | wallClock =>
    have hfree := allows_free hst (by simp)
    obtain ⟨-, rfl⟩ := hstep
    refine inv.frame .free (by rw [hfree]; rfl) (by simp) rfl rfl le_rfl (by simp)
      (fun j _ hj => inv.locked j hj) (by simp [Stage.time]) (by simp) (by simp) (by simp)
  | acquire =>
    have hfree := allows_free hst (by simp)
    obtain ⟨rfl, rfl⟩ := hstep
    cases hlock : s.refreshLock with
    | true =>
      exact inv.frame .free (by rw [hfree]; rfl) (by simp) rfl rfl le_rfl (by simp)
        (fun _ _ _ => rfl) (by simp [Stage.time]) (by simp) (by simp) (by simp)
    | false =>
      have hnone : ∀ j, stageOf py (own j h) = .free := fun j => by
        by_contra hne
        simp [inv.locked j hne] at hlock
      exact inv.frame .held (by rw [hfree]; rfl) (by simp) rfl rfl le_rfl
        (fun _ => ⟨rfl, fun j _ => hnone j⟩) (fun _ _ _ => rfl) (by simp [Stage.time]) (by simp)
        (by simp) (by simp)
  | monotonicClock =>
    rcases allows_monotonicClock hst with hfree | hheld
    · rcases hstep with ⟨t, ht, rfl, rfl⟩ | ⟨e, -, rfl, rfl⟩
      · exact inv.frame .free (by rw [hfree]; rfl) (by simp) rfl rfl ht (by simp)
          (fun j _ hj => inv.locked j hj) (by simp [Stage.time]) (by simp) (by simp) (by simp)
      · exact inv.frame .free (by rw [hfree]; rfl) (by simp) rfl rfl le_rfl (by simp)
          (fun j _ hj => inv.locked j hj) (by simp [Stage.time]) (by simp) (by simp) (by simp)
    · have hne : stageOf py (own i h) ≠ .free := by simp [hheld]
      rcases hstep with ⟨t, ht, rfl, rfl⟩ | ⟨e, -, rfl, rfl⟩
      · exact inv.frame (.timed t) (by rw [hheld]; rfl) (by simp) rfl rfl ht
          (fun _ => ⟨inv.locked i hne, fun j hj => inv.others hne hj⟩)
          (fun j _ hj => inv.locked j hj) (by simp [Stage.time]) (by simp) (by simp) (by simp)
      · exact inv.frame .leaving (by rw [hheld]; rfl) (by simp) rfl rfl le_rfl
          (fun _ => ⟨inv.locked i hne, fun j hj => inv.others hne hj⟩)
          (fun j _ hj => inv.locked j hj) (by simp [Stage.time]) (by simp) (by simp) (by simp)
  | readLastRefreshAt =>
    obtain ⟨now, hnow⟩ := allows_readLastRefreshAt hst
    have hne : stageOf py (own i h) ≠ .free := by simp [hnow]
    obtain ⟨rfl, rfl⟩ := hstep
    exact inv.frame (.due now s'.lastRefreshAt) (by rw [hnow]; rfl) (by simp) rfl rfl
      le_rfl (fun _ => ⟨inv.locked i hne, fun j hj => inv.others hne hj⟩)
      (fun j _ hj => inv.locked j hj)
      (fun t ht => inv.timed i t (by rw [hnow]; simpa [Stage.time] using ht)) (by simp) (by simp)
      (by simp)
  | writeLastRefreshFailed failed =>
    have hfail := allows_writeLastRefreshFailed hst
    have hne : stageOf py (own i h) ≠ .free := by rw [hfail]; split <;> simp
    obtain ⟨rfl, rfl⟩ := hstep
    exact inv.frame .leaving (by rw [hfail]; cases failed <;> rfl) (by simp) rfl rfl le_rfl
      (fun _ => ⟨inv.locked i hne, fun j hj => inv.others hne hj⟩)
      (fun j _ hj => inv.locked j hj) (by simp [Stage.time]) (by simp) (by simp) (by simp)
  | release =>
    have hne : stageOf py (own i h) ≠ .free := by
      rcases allows_release hst with hleaving | ⟨now, last, hdue⟩ <;> simp [*]
    obtain ⟨rfl, rfl⟩ := hstep
    exact inv.frame .free (by cases stageOf py (own i h) <;> rfl) (by simp) rfl rfl
      le_rfl (by simp) (fun j hj hj' => absurd (inv.others hne hj) hj') (by simp [Stage.time])
      (by simp) (by simp) (by simp)
  | writeLastRefreshAt t => exact inv.stamp hst hstep
  | fetchKeySet url => exact inv.answer hok hstep
  | writeKeySet keySet => exact inv.store hst hstep

end

/-! ## Every run -/

theorem shared_public (s : Shared) (c : VerifierCall) (ans : Except Exn c.Answer) (s' : Shared)
    (h : shared s c ans s') : Public (⟨c, ans⟩ : VerifierEvent) := by
  intro e he
  change ans = .error e at he
  subst he
  cases c with
  | monotonicClock =>
    rcases h with ⟨t, -, h, -⟩ | ⟨e', he, h, -⟩ <;> cases h
    exact he
  | wallClock | fetchKeySet _ => exact h.1 e rfl
  | _ => cases h.1

section

variable {py : Platform} {v : JwtVerifier} {args : ι → VerifyArgs} {clock : ℚ}
  {h : VerifierHistory ι} {s : Shared}
  {pool : ι → Verification (Except RejectionReason VerifiedClaims)}

/-- What is left of a call in a run takes only allowed steps and ends as `verify` does. -/
theorem verifyCall_ensures (run : VerifierRun py v args clock h s pool) (i : ι) :
    Ensures recorded (Allowed py (headerKey py (args i).token (args i).expected)) (pool i) (own i h)
      (Answered py v (args i).token (args i).expected) :=
  run.verified shared_public verify_ensures

theorem cacheInv (run : VerifierRun py v args clock h s pool) : CacheInv py h s :=
  run.observe shared_public (fun _ => verify_ensures) (cacheInv_start py clock)
    fun _ _ _ _ _ _ inv hok hstep => cacheInv_step inv hok hstep

/-- Whether the answer of a fetch is a sound key set document. -/
def IsSound (py : Platform) (ans : Except Exn Bytes) : Prop :=
  ∃ document keys, ans = .ok document ∧ parseKeySet py document = .ok keys

/-- From a fetch that failed or found a defective document until its call gives the lock back,
no key set is stored. -/
theorem nothing_written {h₁ : VerifierHistory ι} {i : ι} {url : Str} {ans : Except Exn Bytes}
    (hbad : ¬ IsSound py ans) (h₂ : VerifierHistory ι)
    (hkeep : ∀ u, (i, (⟨.release, u⟩ : VerifierEvent)) ∉ h₂)
    (run : VerifierRun py v args clock (h₁ ++ (i, ⟨.fetchKeySet url, ans⟩) :: h₂) s pool) :
    (stageOf py (own i (h₁ ++ (i, ⟨.fetchKeySet url, ans⟩) :: h₂)) = .failed ∨
        stageOf py (own i (h₁ ++ (i, ⟨.fetchKeySet url, ans⟩) :: h₂)) = .leaving) ∧
      written (h₁ ++ (i, ⟨.fetchKeySet url, ans⟩) :: h₂) = written h₁ := by
  induction h₂ using List.reverseRecOn generalizing s pool with
  | nil =>
    obtain ⟨s₁, s₂, pool₁, next, run₁, stands, -, -⟩ := run.split rfl
    have hi := verifyCall_ensures run₁ i
    rw [stands] at hi
    obtain ⟨now, hnow, -⟩ := hi.1.starts url rfl
    refine ⟨?_, by rw [written_snoc]; exact List.append_nil _⟩
    rw [stageOf_own_snoc, if_pos rfl, hnow]
    show Stage.answered py now ans = _ ∨ Stage.answered py now ans = _
    cases hans : Stage.answered py now ans with
    | failed => exact .inl rfl
    | leaving => exact .inr rfl
    | fetched keySet =>
      obtain ⟨document, rfl, -, hparse⟩ := answered_eq_fetched hans
      exact absurd ⟨document, _, rfl, hparse⟩ hbad
    | _ =>
      unfold Stage.answered at hans
      split at hans <;> cases hans
  | append_singleton h₂ e ih =>
    obtain ⟨j, e⟩ := e
    rw [← List.cons_append, ← List.append_assoc] at run ⊢
    obtain ⟨s₁, s₂, pool₁, next, run₁, stands, -, -⟩ := run.split rfl
    obtain ⟨hstage, hwritten⟩ := ih (fun u hu => hkeep u (List.mem_append_left _ hu)) run₁
    have hj := verifyCall_ensures run₁ j
    rw [stands] at hj
    have hallowed := hj.1.stage
    have hne : stageOf py (own i (h₁ ++ (i, ⟨.fetchKeySet url, ans⟩) :: h₂)) ≠ .free := by
      rcases hstage with hs | hs <;> simp [hs]
    constructor
    · rw [stageOf_own_snoc]
      by_cases hij : i = j
      · subst hij
        rw [if_pos rfl]
        obtain ⟨c, ans'⟩ := e
        rcases hstage with hs | hs <;> rw [hs] at hallowed ⊢
        · obtain rfl : c = .writeLastRefreshFailed true := hallowed
          exact .inr rfl
        · obtain rfl : c = .release := hallowed
          exact absurd (List.mem_append_right _ (List.mem_singleton_self _)) (hkeep ans')
      · rwa [if_neg hij]
    · rw [written_snoc, hwritten]
      obtain ⟨c, ans'⟩ := e
      cases c with
      | writeKeySet keySet =>
        have hfetched := allows_writeKeySet hallowed
        obtain rfl := (cacheInv run₁).alone i j hne (by simp [hfetched])
        rcases hstage with hs | hs <;> simp [hs] at hfetched
      | _ => exact List.append_nil _

/-- The key lookup of a call has ended with a key, after the steps `es` of the call. -/
def Uses (py : Platform) (v : JwtVerifier) (args : ι → VerifyArgs) (h : VerifierHistory ι) (i : ι)
    (key : RSAPublicKey) (es : List VerifierEvent) : Prop :=
  ∃ keyId, checkedHeader py (args i).token (args i).expected = .ok keyId ∧ es <+: own i h ∧
    Path (signingKey py v keyId) es (.ok key)

/-- No fetch begun at `t` or later was answered with a document that lists the key: the issuer
stopped publishing it at `t`. -/
def StopsPublishing (py : Platform) (h : VerifierHistory ι) (key : RSAPublicKey) (t : ℚ) : Prop :=
  ∀ h₁ h₂ i url document begun named sole,
    h = h₁ ++ (i, ⟨.fetchKeySet url, .ok document⟩) :: h₂ → lastReading (own i h₁) = some begun →
    t ≤ begun → parseKeySet py document = .ok (named, sole) →
    ¬ (KeySet.mk named sole begun).Holds key

/-- A key a call uses comes from a set it read while that set was stored and current. -/
theorem uses_fresh (run : VerifierRun py v args clock h s pool) {i : ι} {key : RSAPublicKey}
    {es : List VerifierEvent} (huse : Uses py v args h i key es) :
    ∃ keySet now, FetchedIn py h keySet ∧ keySet.Holds key ∧ lastReading es = some now ∧
      now - keySet.fetchedAt < keySetTtlSeconds := by
  obtain ⟨keyId, -, ⟨rest, hrest⟩, hpath⟩ := huse
  have hpub : ∀ e ∈ es, Public e := fun e he =>
    run.answers shared_public _ (mem_own.1 (hrest ▸ List.mem_append_left _ he))
  have hl : Looked py keyId (.ok key) ([] ++ es) :=
    hpath.ensures (accepted_iff.2 hpub) signingKey_ensures
  obtain ⟨keySet, now, hlast, hholds, hread, hcur⟩ := hl.found key rfl
  refine ⟨keySet, now, ?_, hholds, hread, hcur⟩
  -- the set was read in a step of the run, so it was the cached one then
  have hmem : some keySet ∈ snapshots es := List.mem_of_getLast? hlast
  obtain ⟨e, he, hsnap⟩ := List.mem_flatMap.1 hmem
  obtain ⟨c, ans⟩ := e
  obtain ⟨es₁, es₂, rfl⟩ := List.append_of_mem he
  rw [List.append_assoc, List.cons_append] at hrest
  obtain ⟨h₁, h₂, rfl, -, -⟩ := own_split hrest.symm
  obtain ⟨s₁, s₂, pool₁, next, run₁, -, hstep, -⟩ := run.split rfl
  have hcached : s₁.keySet = some keySet := by
    cases c <;> cases ans <;> simp only [snapshot, List.not_mem_nil, List.mem_singleton] at hsnap
    subst hsnap
    exact (Except.ok.inj hstep.1).symm
  have inv := cacheInv run₁
  rw [inv.cached] at hcached
  obtain ⟨g₁, g₂, j, url, document, rfl, hread', hparse⟩ :=
    inv.genuine keySet (List.mem_of_getLast? hcached)
  exact ⟨g₁, g₂ ++ (i, ⟨c, ans⟩) :: h₂, j, url, document, by simp, hread', hparse⟩

/-- What the key-set cache keeps in every run. -/
structure CacheSound (py : Platform) (v : JwtVerifier) (args : ι → VerifyArgs) (clock : ℚ)
    (h : VerifierHistory ι) (s : Shared)
    (pool : ι → Verification (Except RejectionReason VerifiedClaims)) : Prop where
  /-- Every fetch begins at a reading of the clock. -/
  begun : ∀ h₁ h₂ i url ans, h = h₁ ++ (i, ⟨.fetchKeySet url, ans⟩) :: h₂ →
    ∃ t, lastReading (own i h₁) = some t
  /-- Any two fetches begin at least the cooldown apart. -/
  spaced : (fetchStarts h).Pairwise fun a b => a + keySetRefreshCooldownSeconds ≤ b
  /-- At most one call waits for a fetch. -/
  alone : ∀ i j url url' next next', pool i = .call (.fetchKeySet url) next →
    pool j = .call (.fetchKeySet url') next' → i = j
  /-- A failed fetch or a defective document leaves the cached set as it was. -/
  kept : ∀ h₁ h₂ i url ans, h = h₁ ++ (i, ⟨.fetchKeySet url, ans⟩) :: h₂ → ¬ IsSound py ans →
    (∀ u, (i, (⟨.release, u⟩ : VerifierEvent)) ∉ h₂) → ∀ s₁ pool₁,
    VerifierRun py v args clock h₁ s₁ pool₁ → s.keySet = s₁.keySet
  /-- The cached set came from a fetch answered with a sound document. -/
  genuine : ∀ keySet, s.keySet = some keySet → FetchedIn py h keySet
  /-- The cached set is never replaced by one whose fetch began earlier, nor dropped. -/
  newer : ∀ h₁ h₂ s₁ pool₁, h = h₁ ++ h₂ → VerifierRun py v args clock h₁ s₁ pool₁ →
    ∀ before, s₁.keySet = some before → ∃ after, s.keySet = some after ∧
      before.fetchedAt ≤ after.fetchedAt
  /-- A key in use comes from a set whose fetch began less than an hour before the call's last
  currency check. -/
  fresh : ∀ i key es, Uses py v args h i key es → ∃ keySet now, FetchedIn py h keySet ∧
    keySet.Holds key ∧ lastReading es = some now ∧ now - keySet.fetchedAt < keySetTtlSeconds
  /-- A key is out of use an hour after the issuer stopped publishing it. -/
  retired : ∀ i key es t now, Uses py v args h i key es → StopsPublishing py h key t →
    lastReading es = some now → now < t + keySetTtlSeconds

/-- **The key-set cache over whole runs.** Whatever the tokens, the answers of the fetches and the
interleaving of the calls, on a clock that never runs back. -/
theorem key_set_cache_sound (run : VerifierRun py v args clock h s pool) :
    CacheSound py v args clock h s pool where
  begun h₁ h₂ i url ans heq := by
    obtain ⟨s₁, s₂, pool₁, next, run₁, stands, -, -⟩ := run.split heq
    have hi := verifyCall_ensures run₁ i
    rw [stands] at hi
    obtain ⟨now, -, hread⟩ := hi.1.starts url rfl
    exact ⟨now, hread⟩
  spaced := (cacheInv run).spaced
  alone i j url url' next next' hi hj := by
    have hi' := verifyCall_ensures run i
    have hj' := verifyCall_ensures run j
    rw [hi] at hi'
    rw [hj] at hj'
    obtain ⟨now, hnow, -⟩ := hi'.1.starts url rfl
    obtain ⟨now', hnow', -⟩ := hj'.1.starts url' rfl
    exact (cacheInv run).alone i j (by simp [hnow]) (by simp [hnow'])
  kept h₁ h₂ i url ans heq hbad hkeep s₁ pool₁ run₁ := by
    subst heq
    rw [(cacheInv run).cached, (cacheInv run₁).cached, (nothing_written hbad h₂ hkeep run).2]
  genuine keySet hk := by
    have inv := cacheInv run
    rw [inv.cached] at hk
    exact inv.genuine keySet (List.mem_of_getLast? hk)
  newer h₁ h₂ s₁ pool₁ heq run₁ before hbefore := by
    have inv := cacheInv run
    rw [(cacheInv run₁).cached] at hbefore
    have hsplit : written h = written h₁ ++ written h₂ := by
      rw [heq]
      exact List.filterMap_append
    have hord := inv.ordered
    rw [hsplit, List.pairwise_append] at hord
    rw [inv.cached, hsplit, List.getLast?_append, hbefore]
    cases hlast : (written h₂).getLast? with
    | none => exact ⟨before, rfl, le_rfl⟩
    | some after =>
      exact ⟨after, rfl, hord.2.2 _ (List.mem_of_getLast? hbefore) _ (List.mem_of_getLast? hlast)⟩
  fresh i key es huse := uses_fresh run huse
  retired i key es t now huse hstop hread := by
    obtain ⟨keySet, now', ⟨h₁, h₂, j, url, document, heq, hbegun, hparse⟩, hholds, hread', hcur⟩ :=
      uses_fresh run huse
    rw [hread] at hread'
    cases hread'
    by_contra hlate
    refine hstop h₁ h₂ j url document keySet.fetchedAt keySet.named keySet.sole heq hbegun ?_ hparse
      hholds
    linarith

end

/-! ## Scheduled runs -/

/-- What the surroundings choose at a step of a verification. -/
inductive VerifierChoice where
  | plain
  | reading (t : ℚ)
  | fetched (document : Bytes)
  | unfetched

/-- How the shared state answers a step for a choice. -/
def respondShared :
    VerifierChoice → Shared → (c : VerifierCall) → Option (Except Exn c.Answer × Shared)
  | .plain, s, .readKeySet => some (.ok s.keySet, s)
  | .plain, s, .writeKeySet keySet => some (.ok (), { s with keySet := some keySet })
  | .plain, s, .readLastRefreshAt => some (.ok s.lastRefreshAt, s)
  | .plain, s, .writeLastRefreshAt t => some (.ok (), { s with lastRefreshAt := some t })
  | .plain, s, .readLastRefreshFailed => some (.ok s.lastRefreshFailed, s)
  | .plain, s, .writeLastRefreshFailed failed =>
    some (.ok (), { s with lastRefreshFailed := failed })
  | .plain, s, .acquire => some (.ok (!s.refreshLock), { s with refreshLock := true })
  | .plain, s, .release => some (.ok (), { s with refreshLock := false })
  | .reading t, s, .monotonicClock =>
    if s.clock ≤ t then some (.ok t, { s with clock := t }) else none
  | .reading t, s, .wallClock => some (.ok t, s)
  | .fetched document, s, .fetchKeySet _ => some (.ok document, s)
  | .unfetched, s, .fetchKeySet _ => some (.error .keySetFetchError, s)
  | _, _, _ => none

/-- The responder of the shared state. -/
def sharedResponder : Responder shared VerifierChoice where
  respond := respondShared
  allowed x s c ans s' h := by
    unfold respondShared at h
    split at h
    case h_9 =>
      split_ifs at h with ht
      cases h
      exact .inl ⟨_, ht, rfl, rfl⟩
    case h_13 => cases h
    all_goals
      cases h
      simp [shared, Exn.isPrivate]

/-- The modulus `2^2048 - 1` in base64url. -/
def demoModulus : Str := List.replicate 341 (chr '_') ++ [chr 'w']

/-- A key set document with one key under the key ID. -/
def demoKeySet (keyId : Str) : Bytes :=
  (encode (str "\x7b\"keys\":[\x7b\"kty\":\"RSA\",\"kid\":\"" ++ keyId ++ str "\",\"n\":\"" ++
    demoModulus ++ str "\",\"e\":\"AQAB\"\x7d]\x7d")).getD []

/-- What that document holds. -/
def demoKeySetValue (keyId : Str) : Json :=
  .obj [(str "keys", .arr [.obj [(str "kty", .str (str "RSA")), (str "kid", .str keyId),
    (str "n", .str demoModulus), (str "e", .str (str "AQAB"))]])]

/-- An unsigned token whose header names the key ID. -/
def demoToken (keyId : Str) : Str :=
  stripPadding (urlsafeB64encode ((encode
    (str "\x7b\"alg\":\"RS256\",\"kid\":\"" ++ keyId ++ str "\"\x7d")).getD [])) ++ str ".e30."

/-- The key IDs of the concrete runs. -/
def demoKeyIds : List Str := [str "a", str "b", str "k"]

/-- The surroundings of the concrete runs, as far as these reach them. -/
def demoPlatform : Platform where
  sha256 _ := []
  hmacSha256 _ _ := []
  jsonLoads document := (demoKeyIds.find? (demoKeySet · = document)).map demoKeySetValue
  getUnverifiedHeader token :=
    match demoKeyIds.find? (demoToken · = token) with
    | some keyId => .ok [(str "alg", .str (str "RS256")), (str "kid", .str keyId)]
    | none => .error .invalidToken
  jwtDecode _ := .error .invalidSignature
  isRsaKey e n := 3 ≤ e && e < n && e % 2 = 1
  cookieParser _ := []
  urlparse _ := none
  parseFloat _ := none
  upper s := s
  lower s := s
  isSpace _ := false

/-- The verifier of the concrete runs. -/
def demoVerifier : JwtVerifier := ⟨str "https://issuer", [str "client"], str "https://issuer/jwks", 0⟩

/-- The call of a concrete run whose token names the key ID. -/
def demoCall (keyId : Str) : VerifyArgs := ⟨demoToken keyId, .any⟩

/-- The calls of one concrete run. -/
inductive SharingCall where
  | fetching
  | cooled
  | failing
  | served
  deriving DecidableEq

/-- One fetches a set, one finds the cooldown running and goes without its key ID, and one fails to
fetch, while another uses a key of the first set. -/
def sharedSchedule : List (SharingCall × VerifierChoice) :=
  ([.plain, .plain, .reading 0, .plain, .plain, .fetched (demoKeySet (str "a")), .plain, .plain,
    .plain, .plain, .reading 1].map (SharingCall.fetching, ·)) ++
  ([.plain, .reading 10, .plain, .reading 10, .plain, .plain, .plain, .reading 10,
    .plain].map (SharingCall.cooled, ·)) ++
  ([.plain, .reading 40, .plain, .reading 40, .plain, .plain].map (SharingCall.failing, ·)) ++
  [(.served, .plain), (.served, .reading 45), (.failing, .unfetched), (.failing, .plain),
    (.served, .reading 50)] ++
  ([.plain, .plain, .reading 50, .plain].map (SharingCall.failing, ·))

/-- The calls of that schedule. -/
def sharedCalls : SharingCall → VerifyArgs
  | .fetching => demoCall (str "a")
  | .cooled => demoCall (str "b")
  | .failing => demoCall (str "b")
  | .served => demoCall (str "a")

/-- Where a run of calls of one verifier stands. -/
abbrev VerifierMoment (ι : Type) :=
  Moment Shared ι verifierCalls Exn (Except RejectionReason VerifiedClaims)

/-- Whether a thread has rejected its token for a reason. -/
def rejectedFor {ι : Type} (reason : RejectionReason) (i : ι) (m : VerifierMoment ι) : Bool :=
  match (m.pool i).outcome with
  | some (.ok (.error reason')) => reason' = reason
  | _ => false

theorem rejectedFor_eq {ι : Type} {reason : RejectionReason} {i : ι} {m : VerifierMoment ι}
    (h : rejectedFor reason i m = true) : m.pool i = ret (.error reason) := by
  unfold rejectedFor at h
  split at h
  · rename_i reason' hout
    rw [Program.outcome_eq_some hout, of_decide_eq_true h]
    rfl
  · cases h

theorem key_set_cache_sound_of_calls :
    ∃ m : VerifierMoment SharingCall, fetchStarts m.history = [0, 40] ∧
      m.pool .fetching = ret (.error .invalidSignature) ∧
      m.pool .cooled = ret (.error .unknownKeyId) ∧
      m.pool .failing = ret (.error .keySetUnavailable) ∧
      m.pool .served = ret (.error .invalidSignature) ∧
      CacheSound demoPlatform demoVerifier sharedCalls 0 m.history m.state m.pool := by
  have h : ((Moment.before (Shared.built 0)
      (verifyCalls demoPlatform demoVerifier sharedCalls)).execute sharedResponder
        sharedSchedule).any (fun m =>
          decide (fetchStarts m.history = [0, 40]) && rejectedFor .invalidSignature .fetching m &&
            rejectedFor .unknownKeyId .cooled m && rejectedFor .keySetUnavailable .failing m &&
            rejectedFor .invalidSignature .served m) = true := by
    decide +kernel
  obtain ⟨m, run, hm⟩ := Moment.exists_run h
  simp only [Bool.and_eq_true, decide_eq_true_eq] at hm
  obtain ⟨⟨⟨⟨hstarts, h₀⟩, h₁⟩, h₂⟩, h₃⟩ := hm
  exact ⟨m, hstarts, rejectedFor_eq h₀, rejectedFor_eq h₁, rejectedFor_eq h₂, rejectedFor_eq h₃,
    key_set_cache_sound run⟩

end WebAuth
