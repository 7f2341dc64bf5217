import WebAuth.JwtVerification
import WebAuth.Effects.Interleaving

/-!
# One verifier shared by many calls

`shared` is the state of one `_JwtVerifier` between the steps of its calls: the cached key set, the
instant and the flag of the last refresh attempt, the lock, and a monotonic clock that never runs
back. A fetch may answer anything. `Stage` reads off a call's own steps where it stands in
`_refresh_key_set`, and `signingKey_ensures` says once which steps a key lookup takes.
-/

namespace WebAuth

open Python Effects Program

/-! ## The shared state -/

/-- The state of a `_JwtVerifier` and the reading of its clock. -/
structure Shared where
  keySet : Option KeySet
  lastRefreshAt : Option ℚ
  lastRefreshFailed : Bool
  refreshLock : Bool
  clock : ℚ

/-- A verifier as it is built. -/
def Shared.built (clock : ℚ) : Shared := ⟨none, none, false, false, clock⟩

/-- How the shared state answers one step of a call. -/
def shared : Handler Shared verifierCalls Exn
  | s, .readKeySet, ans, s' => ans = .ok s.keySet ∧ s' = s
  | s, .writeKeySet keySet, ans, s' => ans = .ok () ∧ s' = { s with keySet := some keySet }
  | s, .readLastRefreshAt, ans, s' => ans = .ok s.lastRefreshAt ∧ s' = s
  | s, .writeLastRefreshAt t, ans, s' => ans = .ok () ∧ s' = { s with lastRefreshAt := some t }
  | s, .readLastRefreshFailed, ans, s' => ans = .ok s.lastRefreshFailed ∧ s' = s
  | s, .writeLastRefreshFailed failed, ans, s' =>
    ans = .ok () ∧ s' = { s with lastRefreshFailed := failed }
  | s, .acquire, ans, s' => ans = .ok (!s.refreshLock) ∧ s' = { s with refreshLock := true }
  | s, .release, ans, s' => ans = .ok () ∧ s' = { s with refreshLock := false }
  | s, .monotonicClock, ans, s' =>
    (∃ t, s.clock ≤ t ∧ ans = .ok t ∧ s' = { s with clock := t }) ∨
      (∃ e, e.isPrivate = false ∧ ans = .error e ∧ s' = s)
  | s, .wallClock, ans, s' => (∀ e, ans = .error e → e.isPrivate = false) ∧ s' = s
  | s, .fetchKeySet _, ans, s' => (∀ e, ans = .error e → e.isPrivate = false) ∧ s' = s

/-- A step of a call, with its answer. -/
abbrev VerifierEvent := Event verifierCalls Exn

/-! ## What a call has done -/

/-- Where a call stands in `_refresh_key_set`. In every stage but `free` it holds the lock. -/
inductive Stage where
  | free
  | held
  | timed (now : ℚ)
  | due (now : ℚ) (last : Option ℚ)
  | started (now : ℚ)
  | fetched (keySet : KeySet)
  | stored
  | failed
  | leaving

/-- What a refresh makes of the answer of a fetch. -/
def refreshOutcome (py : Platform) (ans : Except Exn Bytes) :
    Except Exn (Except RefreshFailure (List (Str × RSAPublicKey) × Option RSAPublicKey)) :=
  match ans.bind (parseKeySet py) with
  | .ok keys => .ok (.ok keys)
  | .error .keySetFetchError => .ok (.error .fetchFailed)
  | .error (.invalidKeySetError failure) => .ok (.error failure)
  | .error e => .error e

/-- The stage after a fetch begun at `now` was answered. -/
def Stage.answered (py : Platform) (now : ℚ) (ans : Except Exn Bytes) : Stage :=
  match refreshOutcome py ans with
  | .ok (.ok (named, sole)) => .fetched ⟨named, sole, now⟩
  | .ok (.error _) => .failed
  | .error _ => .leaving

/-- The stage one step leads to. -/
def Stage.next (py : Platform) (stage : Stage) (e : VerifierEvent) : Stage :=
  match stage, e with
  | _, ⟨.release, _⟩ => .free
  | .free, ⟨.acquire, .ok true⟩ => .held
  | .free, _ => .free
  | .held, ⟨.monotonicClock, .ok now⟩ => .timed now
  | .timed now, ⟨.readLastRefreshAt, .ok last⟩ => .due now last
  | .due now _, ⟨.writeLastRefreshAt _, .ok _⟩ => .started now
  | .started now, ⟨.fetchKeySet _, ans⟩ => .answered py now ans
  | .fetched _, ⟨.writeKeySet _, .ok _⟩ => .stored
  | _, _ => .leaving

/-- The stage a call's steps have led it to. -/
def stageOf (py : Platform) (es : List VerifierEvent) : Stage := es.foldl (Stage.next py) .free

/-- The key set a step read. -/
def snapshot : VerifierEvent → List (Option KeySet)
  | ⟨.readKeySet, .ok keySet⟩ => [keySet]
  | _ => []

/-- The key sets a call has read. -/
def snapshots (es : List VerifierEvent) : List (Option KeySet) := es.flatMap snapshot

/-- The reading of the monotonic clock after one more step. -/
def nextReading (last : Option ℚ) : VerifierEvent → Option ℚ
  | ⟨.monotonicClock, .ok now⟩ => some now
  | _ => last

/-- The last reading of the monotonic clock a call has made. -/
def lastReading (es : List VerifierEvent) : Option ℚ := es.foldl nextReading none

/-- The steps a stage allows. -/
def Stage.allows : Stage → VerifierCall → Prop
  | .free, c => c = .readKeySet ∨ c = .monotonicClock ∨ c = .wallClock ∨
      c = .readLastRefreshFailed ∨ c = .acquire
  | .held, c => c = .monotonicClock
  | .timed _, c => c = .readLastRefreshAt
  | .due now last, c => c = .release ∨
      c = .writeLastRefreshAt now ∧ ∀ at_, last = some at_ → keySetRefreshCooldownSeconds ≤ now - at_
  | .started _, c => ∃ url, c = .fetchKeySet url
  | .fetched keySet, c => c = .writeKeySet keySet
  | .stored, c => c = .writeLastRefreshFailed false
  | .failed, c => c = .writeLastRefreshFailed true
  | .leaving, c => c = .release

/-- The last key set a call has read lacks the key ID it looks for, and it has read one after
every refresh of its own. -/
def LooksFor (keyId : Option Str) (es : List VerifierEvent) : Prop :=
  ∃ k first last, keyId = some k ∧ snapshots es = [first, some last] ∧ last.named.lookup k = none

/-- The steps a key lookup takes after the steps `es` of its own. -/
structure Allowed (py : Platform) (keyId : Option Str) (es : List VerifierEvent)
    (c : VerifierCall) : Prop where
  stage : (stageOf py es).allows c
  starts : ∀ url, c = .fetchKeySet url →
    ∃ now, stageOf py es = .started now ∧ lastReading es = some now
  looks : c = .readLastRefreshFailed → LooksFor keyId es

section

variable {py : Platform} {es es' : List VerifierEvent} {e : VerifierEvent}

@[simp] theorem stageOf_nil : stageOf py [] = .free := rfl

@[simp] theorem stageOf_append :
    stageOf py (es ++ es') = es'.foldl (Stage.next py) (stageOf py es) := by
  simp [stageOf]

@[simp] theorem stageOf_cons :
    stageOf py (e :: es) = es.foldl (Stage.next py) (Stage.next py .free e) := rfl

@[simp] theorem snapshots_nil : snapshots [] = [] := rfl

@[simp] theorem snapshots_append : snapshots (es ++ es') = snapshots es ++ snapshots es' :=
  List.flatMap_append

@[simp] theorem snapshots_cons : snapshots (e :: es) = snapshot e ++ snapshots es := rfl

@[simp] theorem lastReading_nil : lastReading [] = none := rfl

@[simp] theorem lastReading_cons : lastReading (e :: es) = es.foldl nextReading (nextReading none e) :=
  rfl

@[simp] theorem lastReading_append :
    lastReading (es ++ es') = es'.foldl nextReading (lastReading es) := by
  simp [lastReading]

end

/-! ## The steps of a key lookup -/

@[simp] theorem ask_eq (c : VerifierCall) : ask c = call (I := verifierCalls) c done := rfl

section

variable {py : Platform} {v : JwtVerifier} {keyId : Option Str} {es : List VerifierEvent}

/-- A step that neither fetches nor reads the flag is allowed where its stage allows it. -/
theorem Allowed.of_stage {c : VerifierCall} (h : (stageOf py es).allows c)
    (hf : ∀ url, c ≠ .fetchKeySet url) (hr : c ≠ .readLastRefreshFailed) :
    Allowed py keyId es c :=
  ⟨h, fun url hc => absurd hc (hf url), fun hc => absurd hc hr⟩

/-- What holds when `_refresh_key_set` is about to release the lock, with `r` to end with. -/
def Releases (py : Platform) (before : List VerifierEvent) (r : Except Exn Unit)
    (es : List VerifierEvent) : Prop :=
  (stageOf py es).allows .release ∧ snapshots es = snapshots before ∧
    Raises (·.isPrivate = false) r

/-- A refresh lets by only an exception the injected fetch raised. -/
theorem refreshOutcome_raises {ans : Except Exn Bytes}
    (hans : ∀ e, ans = .error e → e.isPrivate = false) :
    Raises (·.isPrivate = false) (refreshOutcome py ans) := by
  unfold refreshOutcome
  cases ans with
  | error e =>
    have he := hans e rfl
    cases e <;> simp_all [Except.bind, Exn.isPrivate]
  | ok document =>
    simp only [Except.bind]
    cases hp : parseKeySet py document with
    | ok keys => exact raises_ok _
    | error e =>
      obtain ⟨failure, rfl⟩ := parseKeySet_raises py document e hp
      exact raises_ok _

theorem fetchedKeys_eq :
    fetchedKeys py v = call (I := verifierCalls) (.fetchKeySet v.jwksUrl) fun ans =>
      done (refreshOutcome py ans) := by
  simp only [fetchedKeys, bind_eq, ask_eq, call_andThen, done_andThen, tryCatch_eq, liftM_eq]
  congr 1
  funext ans
  cases ans with
  | error e => cases e <;> rfl
  | ok document =>
    unfold refreshOutcome
    simp only [onReturn_ok, Except.bind]
    cases parseKeySet py document with
    | error e => cases e <;> rfl
    | ok keys => rfl

/-- After a fetch was answered, the attempt writes what the answer calls for. -/
theorem attemptRefresh_ensures {now : ℚ} (last : Option ℚ) (hs : stageOf py es = .due now last)
    (hcool : ∀ at_, last = some at_ → keySetRefreshCooldownSeconds ≤ now - at_)
    (hread : lastReading es = some now) :
    Ensures recorded (Allowed py keyId) (attemptRefresh py v now) es
      fun r es' => Releases py es r es' := by
  simp only [attemptRefresh, fetchedKeys_eq, bind_eq, ask_eq, call_andThen, done_andThen,
    ensures_record_call]
  refine ⟨Allowed.of_stage (by rw [hs]; exact .inr ⟨rfl, hcool⟩) (by simp) (by simp), ?_⟩
  rintro (e | u) he
  · simp [Releases, hs, Stage.next, Stage.allows, snapshot, he _ rfl]
  simp only [onReturn_ok, ensures_record_call]
  have hs' : stageOf py (es ++ [⟨.writeLastRefreshAt now, .ok u⟩]) = .started now := by
    simp [hs, Stage.next]
  refine ⟨⟨by rw [hs']; exact ⟨_, rfl⟩, fun url hc => ⟨now, hs', by simp [nextReading, hread]⟩,
    by simp⟩, ?_⟩
  intro ans hans
  cases hout : refreshOutcome py ans with
  | error e =>
    have he := refreshOutcome_raises hans e hout
    simp [Releases, hs, Stage.next, Stage.answered, hout, Stage.allows, snapshot, he]
  | ok outcome =>
    cases outcome with
    | error failure =>
      simp only [onReturn_ok, ensures_record_call]
      refine ⟨Allowed.of_stage ?_ (by simp) (by simp), ?_⟩
      · simp [hs, Stage.next, Stage.answered, hout, Stage.allows]
      rintro (e | u) he
      · simp [Releases, hs, Stage.next, Stage.answered, hout, Stage.allows, snapshot, he _ rfl]
      · simp [Releases, hs, Stage.next, Stage.answered, hout, Stage.allows, snapshot]
    | ok keys =>
      simp only [onReturn_ok, ensures_record_call]
      refine ⟨Allowed.of_stage ?_ (by simp) (by simp), ?_⟩
      · simp [hs, Stage.next, Stage.answered, hout, Stage.allows]
      rintro (e | u) he
      · simp [Releases, hs, Stage.next, Stage.answered, hout, Stage.allows, snapshot, he _ rfl]
      simp only [onReturn_ok, ensures_record_call]
      refine ⟨Allowed.of_stage ?_ (by simp) (by simp), ?_⟩
      · simp [hs, Stage.next, Stage.answered, hout, Stage.allows]
      rintro (e | u) he
      · simp [Releases, hs, Stage.next, Stage.answered, hout, Stage.allows, snapshot, he _ rfl]
      · simp [Releases, hs, Stage.next, Stage.answered, hout, Stage.allows, snapshot]

/-- Under the lock: the attempt is made only once the cooldown is over. -/
theorem refreshLocked_ensures (hs : stageOf py es = .held) :
    Ensures recorded (Allowed py keyId) (refreshLocked py v) es
      fun r es' => Releases py es r es' := by
  simp only [refreshLocked, bind_eq, ask_eq, call_andThen, done_andThen, ensures_record_call]
  refine ⟨Allowed.of_stage (by rw [hs]; rfl) (by simp) (by simp), ?_⟩
  rintro (e | now) he
  · simp [Releases, hs, Stage.next, Stage.allows, snapshot, he _ rfl]
  simp only [onReturn_ok, ensures_record_call]
  refine ⟨Allowed.of_stage (by simp [hs, Stage.next, Stage.allows]) (by simp) (by simp), ?_⟩
  rintro (e | last) he
  · simp [Releases, hs, Stage.next, Stage.allows, snapshot, he _ rfl]
  simp only [onReturn_ok]
  split
  · simp [Releases, hs, Stage.next, Stage.allows, snapshot]
  · rename_i hcool
    refine (attemptRefresh_ensures last ?_ ?_ ?_).mono fun r es' h => ?_
    · simp [hs, Stage.next]
    · rintro at_ rfl
      simpa using hcool
    · simp [nextReading]
    · simpa [Releases, snapshot] using h

/-- The last check a call has made found no current key set: the last set it read is none, or the
reading it made next is past the set's lifetime. -/
def CheckFails (es : List VerifierEvent) : Prop :=
  es.getLast? = some ⟨.readKeySet, .ok none⟩ ∨
    ∃ keySet now, (snapshots es).getLast? = some (some keySet) ∧
      es.getLast? = some ⟨.monotonicClock, .ok now⟩ ∧ keySetTtlSeconds ≤ now - keySet.fetchedAt

theorem not_checkFails {e : VerifierEvent} (hr : e ≠ ⟨.readKeySet, .ok none⟩)
    (hm : ∀ now, e ≠ ⟨.monotonicClock, .ok now⟩) : ¬ CheckFails (es ++ [e]) := by
  rintro (h | ⟨keySet, now, -, h, -⟩) <;> rw [List.getLast?_concat] at h
  · exact hr (Option.some.inj h)
  · exact hm now (Option.some.inj h)

theorem not_checkFails_error {e : Exn} {c : VerifierCall} :
    ¬ CheckFails (es ++ [⟨c, .error e⟩]) :=
  not_checkFails (fun h => by cases h) (fun now h => by cases h)

/-- `_refresh_key_set` gives the lock back, whatever it ends with. -/
theorem refreshKeySet_ensures (hs : stageOf py es = .free) :
    Ensures recorded (Allowed py keyId) (refreshKeySet py v) es
      fun r es' => stageOf py es' = .free ∧ snapshots es' = snapshots es ∧
        Raises (·.isPrivate = false) r ∧ (∀ e, r = .error e → ¬ CheckFails es') := by
  simp only [refreshKeySet, bind_eq, ask_eq, call_andThen, done_andThen, ensures_record_call]
  refine ⟨Allowed.of_stage (by simp [hs, Stage.allows]) (by simp) (by simp), ?_⟩
  rintro (e | acquired) he
  · exact ⟨by simp [hs, Stage.next], by simp [snapshot], (raises_error e).2 (he _ rfl),
      fun _ _ => not_checkFails_error⟩
  cases acquired with
  | false => simp [hs, Stage.next, snapshot]
  | true =>
    simp only [onReturn_ok, if_true, ensures_andThen]
    refine (refreshLocked_ensures ?_).mono fun r es' h => ?_
    · simp [hs, Stage.next]
    simp only [ensures_record_call]
    obtain ⟨hrel, hsnap, hr⟩ := h
    simp only [snapshots_append, snapshots_cons, snapshots_nil, List.append_nil] at hsnap
    refine ⟨Allowed.of_stage hrel (by simp) (by simp), ?_⟩
    rintro (e | u) he
    · exact ⟨by simp [Stage.next], by simp [hsnap, snapshot], (raises_error e).2 (he _ rfl),
        fun _ _ => not_checkFails_error⟩
    · have hno : ¬ CheckFails (es' ++ [⟨.release, .ok u⟩]) :=
        not_checkFails (fun h => by cases h) (fun now h => by cases h)
      simp [Stage.next, snapshot, hsnap, hr, hno]

/-! ## A key lookup -/

/-- Whether a key is one of the set's. -/
def KeySet.Holds (keySet : KeySet) (key : RSAPublicKey) : Prop :=
  (∃ k, keySet.named.lookup k = some key) ∨ keySet.sole = some key

/-- An exception a verification may end with before `verify` catches its refusals. -/
def Exn.OfVerifier (e : Exn) : Prop := e.isPrivate = false ∨ ∃ reason, e = .verificationRefusal reason

/-- What a key lookup ends with, after the steps `es` of its own. -/
structure Looked (py : Platform) (keyId : Option Str) (r : Except Exn RSAPublicKey)
    (es : List VerifierEvent) : Prop where
  stage : stageOf py es = .free
  raised : Raises Exn.OfVerifier r
  found : ∀ key, r = .ok key → ∃ keySet now, (snapshots es).getLast? = some (some keySet) ∧
    keySet.Holds key ∧ lastReading es = some now ∧ now - keySet.fetchedAt < keySetTtlSeconds
  unknown : r = .error (.verificationRefusal .unknownKeyId) →
    ∃ es₀, LooksFor keyId es₀ ∧ es = es₀ ++ [⟨.readLastRefreshFailed, .ok false⟩]
  unavailable : CheckFails es → r = .error (.verificationRefusal .keySetUnavailable)

/-- A key lookup that ends with a call that raised ends with that exception. -/
theorem Looked.of_raise {e : Exn} {c : VerifierCall} (hs : stageOf py es = .free)
    (he : Public (⟨c, .error e⟩ : VerifierEvent)) :
    Looked py keyId (.error e) (es ++ [⟨c, .error e⟩]) where
  stage := by cases c <;> simp [hs, Stage.next]
  raised := (raises_error _).2 (.inl (he _ rfl))
  found key h := by cases h
  unknown h := by
    cases h
    exact absurd (he _ rfl) (by simp [Exn.isPrivate])
  unavailable h := absurd h not_checkFails_error

/-- The last part of a key lookup, on the last key set the call has read. It reads the flag only
for a set that lacks the key ID, so `hlooks` asks that such a set was read after a refresh. -/
theorem keyOf_ensures {last : Option KeySet} (hs : stageOf py es = .free)
    (hlast : (snapshots es).getLast? = some last)
    (hend : last = none → es.getLast? = some ⟨.readKeySet, .ok none⟩)
    (hlooks : ∀ k keySet, keyId = some k → last = some keySet → keySet.named.lookup k = none →
      LooksFor keyId es) :
    Ensures recorded (Allowed py keyId) (keyOf keyId last) es (Looked py keyId) := by
  cases last with
  | none =>
    exact ⟨hs, (raises_error _).2 (.inr ⟨_, rfl⟩), by simp, by simp, fun _ => rfl⟩
  | some keySet =>
    simp only [keyOf, isCurrent, bind_eq, ask_eq, call_andThen, done_andThen,
      ensures_record_call]
    refine ⟨Allowed.of_stage (by simp [hs, Stage.allows]) (by simp) (by simp), ?_⟩
    rintro (e | now) he
    · exact Looked.of_raise hs he
    have hfree : stageOf py (es ++ [⟨.monotonicClock, .ok now⟩]) = .free := by simp [hs, Stage.next]
    have hsnap : (snapshots (es ++ [⟨.monotonicClock, .ok now⟩])).getLast? = some (some keySet) := by
      simpa [snapshot] using hlast
    have hread : lastReading (es ++ [⟨.monotonicClock, .ok now⟩]) = some now := by simp [nextReading]
    simp only [onReturn_ok, pure_eq, ret_andThen]
    by_cases hcur : now - keySet.fetchedAt < keySetTtlSeconds
    · have hno : ¬ CheckFails (es ++ [⟨.monotonicClock, .ok now⟩]) := by
        rintro (h | ⟨keySet', now', hset, h, hpast⟩)
        · simp at h
        · rw [hsnap] at hset
          rw [List.getLast?_concat] at h
          cases hset
          cases h
          exact absurd hcur (not_lt.2 hpast)
      simp only [hcur, decide_true, if_true]
      cases keyId with
      | none =>
        dsimp only
        cases hsole : keySet.sole with
        | none => exact ⟨hfree, (raises_error _).2 (.inr ⟨_, rfl⟩), by simp, by simp, fun h => absurd h hno⟩
        | some key =>
          refine ⟨hfree, raises_ok _, fun key' hk => ?_, by simp, fun h => absurd h hno⟩
          cases hk
          exact ⟨keySet, now, hsnap, .inr hsole, hread, hcur⟩
      | some k =>
        dsimp only
        cases hkey : keySet.named.lookup k with
        | some key =>
          refine ⟨hfree, raises_ok _, fun key' hk => ?_, by simp, fun h => absurd h hno⟩
          cases hk
          exact ⟨keySet, now, hsnap, .inl ⟨k, hkey⟩, hread, hcur⟩
        | none =>
          have hl : LooksFor (some k) (es ++ [⟨.monotonicClock, .ok now⟩]) := by
            obtain ⟨k', first, set, hk', hsnaps, hnone⟩ := hlooks k keySet rfl rfl hkey
            exact ⟨k', first, set, hk', by simpa [snapshot] using hsnaps, hnone⟩
          simp only [ensures_record_call]
          refine ⟨⟨by rw [hfree]; simp [Stage.allows], by simp, fun _ => hl⟩, ?_⟩
          rintro (e | failed) he
          · exact Looked.of_raise hfree he
          have hfree' : stageOf py (es ++ [⟨.monotonicClock, .ok now⟩] ++
              [⟨.readLastRefreshFailed, .ok failed⟩]) = .free := by simp [hs, Stage.next]
          have hno' : ¬ CheckFails (es ++ [⟨.monotonicClock, .ok now⟩] ++
              [⟨.readLastRefreshFailed, .ok failed⟩]) :=
            not_checkFails (fun h => by cases h) (fun now h => by cases h)
          cases failed with
          | true =>
            exact ⟨hfree', (raises_error _).2 (.inr ⟨_, rfl⟩), by simp, by simp,
              fun h => absurd h hno'⟩
          | false =>
            exact ⟨hfree', (raises_error _).2 (.inr ⟨_, rfl⟩), by simp, fun _ => ⟨_, hl, rfl⟩,
              fun h => absurd h hno'⟩
    · simp only [hcur, decide_false]
      exact ⟨hfree, (raises_error _).2 (.inr ⟨_, rfl⟩), by simp, by simp, fun _ => rfl⟩

/-- A lookup that refreshes reads the key set again, whatever the refresh did. -/
theorem lookAgain_ensures {first : Option KeySet} (hs : stageOf py es = .free)
    (hfirst : snapshots es = [first]) :
    Ensures recorded (Allowed py keyId) ((refreshKeySet py v).andThen (onReturn fun _ =>
      call (I := verifierCalls) .readKeySet (onReturn fun refreshed => keyOf keyId refreshed))) es
      (Looked py keyId) := by
  rw [ensures_andThen]
  refine (refreshKeySet_ensures hs).mono fun r es' h => ?_
  obtain ⟨hs', hsnap, hr, hno⟩ := h
  cases r with
  | error e =>
    refine ⟨hs', (raises_error _).2 (.inl (hr e rfl)), by simp, fun h => ?_,
      fun h => absurd h (hno e rfl)⟩
    cases h
    exact absurd (hr _ rfl) (by simp [Exn.isPrivate])
  | ok u =>
    simp only [onReturn_ok, ensures_record_call]
    refine ⟨Allowed.of_stage (by simp [hs', Stage.allows]) (by simp) (by simp), ?_⟩
    rintro (e | last) he
    · exact Looked.of_raise hs' he
    have hsnap' : snapshots (es' ++ [⟨.readKeySet, .ok last⟩]) = [first, last] := by
      simp [hsnap, hfirst, snapshot]
    refine keyOf_ensures ?_ ?_ ?_ ?_
    · simp [hs', Stage.next]
    · rw [hsnap']
      rfl
    · rintro rfl
      exact List.getLast?_concat
    · rintro k keySet rfl rfl hnone
      exact ⟨k, first, keySet, rfl, hsnap', hnone⟩

/-- **The steps of a key lookup.** It keeps to its stages, gives the lock back, and its outcome is
decided by the last key set it read, its last clock reading and the flag. -/
theorem signingKey_ensures :
    Ensures recorded (Allowed py keyId) (signingKey py v keyId) [] (Looked py keyId) := by
  simp only [signingKey, bind_eq, ask_eq, call_andThen, done_andThen, ensures_record_call]
  refine ⟨Allowed.of_stage (by simp [Stage.allows]) (by simp) (by simp), ?_⟩
  rintro (e | first) he
  · exact Looked.of_raise rfl he
  simp only [onReturn_ok, List.nil_append]
  have hs : stageOf py [⟨.readKeySet, .ok first⟩] = .free := rfl
  have hsnap : snapshots [⟨.readKeySet, .ok first⟩] = [first] := rfl
  cases first with
  | none => exact lookAgain_ensures hs hsnap
  | some keySet =>
    simp only [needsRefresh, isCurrent, bind_eq, ask_eq, call_andThen, done_andThen,
      ensures_record_call]
    refine ⟨Allowed.of_stage (by rw [hs]; simp [Stage.allows]) (by simp) (by simp), ?_⟩
    rintro (e | now) he
    · exact Looked.of_raise hs he
    simp only [onReturn_ok, pure_eq, ret_andThen]
    have hs' : stageOf py ([⟨.readKeySet, .ok (some keySet)⟩] ++ [⟨.monotonicClock, .ok now⟩]) =
      .free := rfl
    have hsnap' : snapshots ([⟨.readKeySet, .ok (some keySet)⟩] ++ [⟨.monotonicClock, .ok now⟩]) =
      [some keySet] := rfl
    split
    · simp only [ret_andThen, onReturn_ok]
      split
      · exact lookAgain_ensures hs' hsnap'
      · rename_i hlacks
        refine keyOf_ensures hs' (by rw [hsnap']; rfl) (by simp) ?_
        rintro k keySet' rfl heq hnone
        cases heq
        exact absurd (by simp [hnone]) hlacks
    · simp only [ret_andThen, onReturn_ok, if_true]
      exact lookAgain_ensures hs' hsnap'

/-! ## A whole call -/

/-- The key ID a token's header names, when the header passes. -/
def headerKey (py : Platform) (token : Str) (expected : ExpectedType) : Option Str :=
  match checkedHeader py token expected with
  | .ok keyId => keyId
  | .error _ => none

/-- The time claims of verified claims hold at a clock reading. -/
structure TimeClaimsHold (v : JwtVerifier) (claims : VerifiedClaims) (now : ℚ) : Prop where
  exp : claims.claims.get (str "exp") = some (.int claims.expiresAt)
  iat : claims.claims.get (str "iat") = some (.int claims.issuedAt)
  unexpired : now < claims.expiresAt + v.leewaySeconds
  issued : (claims.issuedAt : ℚ) ≤ now + v.leewaySeconds
  valid : ∀ j, claims.claims.get (str "nbf") = some j →
    ∃ t : ℤ, j = .int t ∧ (t : ℚ) ≤ now + v.leewaySeconds

/-- What a call that answers claims has established, after the steps `es` of its own. -/
structure Verifies (py : Platform) (v : JwtVerifier) (token : Str) (claims : VerifiedClaims)
    (es : List VerifierEvent) : Prop where
  decoded : ∃ key, py.jwtDecode ⟨token, key, [algorithm], v.audiences, v.issuer, libraryChecks⟩ =
    .ok claims.claims
  issuer : claims.issuer = v.issuer
  subject : subjectOf claims.claims = .ok claims.subject
  audiences : audiencesOf claims.claims = .ok claims.audiences
  times : ∃ now, (⟨.wallClock, .ok now⟩ : VerifierEvent) ∈ es ∧ TimeClaimsHold v claims now

/-- What a call of `verify` ends with, after the steps `es` of its own. -/
structure Answered (py : Platform) (v : JwtVerifier) (token : Str) (expected : ExpectedType)
    (r : Except Exn (Except RejectionReason VerifiedClaims)) (es : List VerifierEvent) : Prop where
  verified : ∀ claims, r = .ok (.ok claims) → Verifies py v token claims es
  unknown : r = .ok (.error .unknownKeyId) → ∃ es₀, LooksFor (headerKey py token expected) es₀ ∧
    es = es₀ ++ [⟨.readLastRefreshFailed, .ok false⟩]
  unavailable : CheckFails es → r = .ok (.error .keySetUnavailable)
  raised : Raises (·.isPrivate = false) r

/-- An exception a check of the token itself raises: a refusal other than for its key ID, or one
from outside. -/
def Exn.OfToken (e : Exn) : Prop :=
  e.isPrivate = false ∨ ∃ reason, e = .verificationRefusal reason ∧ reason ≠ .unknownKeyId

theorem Exn.OfToken.refusal {reason : RejectionReason} (h : reason ≠ .unknownKeyId) :
    (Exn.verificationRefusal reason).OfToken := .inr ⟨reason, rfl, h⟩

theorem checkedHeader_raises {token : Str} {expected : ExpectedType} :
    Raises Exn.OfToken (checkedHeader py token expected) := by
  unfold checkedHeader headerKeyId
  repeat' split
  all_goals first
    | exact raises_ok _
    | exact (raises_error _).2 (.refusal (by simp))
    | exact (raises_error _).2 (.inl rfl)

theorem verifiedPayload_raises {token : Str} {key : RSAPublicKey} :
    Raises Exn.OfToken (verifiedPayload py v token key) := by
  unfold verifiedPayload
  split
  · exact raises_ok _
  · rename_i error _
    refine (raises_error _).2 ?_
    cases error <;> first | exact .refusal (by simp) | exact .inl rfl

theorem integerClaim_raises {claims : Dict} {name : Str} :
    Raises Exn.OfToken (integerClaim claims name) := by
  unfold integerClaim
  split
  · exact raises_ok _
  · exact (raises_error _).2 (.refusal (by simp))

theorem integerClaim_eq_ok {claims : Dict} {name : Str} {n : ℤ}
    (h : integerClaim claims name = .ok n) : claims.get name = some (.int n) := by
  unfold integerClaim at h
  split at h
  · cases h
    assumption
  · cases h

theorem subjectOf_raises {claims : Dict} : Raises Exn.OfToken (subjectOf claims) := by
  unfold subjectOf
  repeat' split
  all_goals first | exact raises_ok _ | exact (raises_error _).2 (.refusal (by simp))

theorem audiencesOf_raises {claims : Dict} : Raises Exn.OfToken (audiencesOf claims) := by
  unfold audiencesOf
  repeat' split
  all_goals first | exact raises_ok _ | exact (raises_error _).2 (.inl rfl)

theorem timesAt_raises {exp iat : ℤ} {nbf : Option ℤ} {now : ℚ} :
    Raises Exn.OfToken (timesAt v exp iat nbf now) := by
  unfold timesAt
  repeat' split
  all_goals first | exact raises_ok _ | exact (raises_error _).2 (.refusal (by simp))

/-- The time claims read from verified claims hold at a reading that passed the comparisons. -/
theorem timesAt_holds {claims : VerifiedClaims} {nbf : Option ℤ} {now : ℚ} {p : ℤ × ℤ}
    (hexp : claims.claims.get (str "exp") = some (.int claims.expiresAt))
    (hiat : claims.claims.get (str "iat") = some (.int claims.issuedAt))
    (hnbf : notBeforeClaim claims.claims = .ok nbf)
    (h : timesAt v claims.expiresAt claims.issuedAt nbf now = .ok p) :
    TimeClaimsHold v claims now := by
  unfold timesAt at h
  split_ifs at h with h1 h2
  refine ⟨hexp, hiat, not_le.1 h1, not_lt.1 h2, fun j hj => ?_⟩
  have hhas : claims.claims.has (str "nbf") = true := Dict.has_iff.2 ⟨j, hj⟩
  unfold notBeforeClaim at hnbf
  rw [if_pos hhas] at hnbf
  cases hint : integerClaim claims.claims (str "nbf") with
  | error e => rw [hint] at hnbf; cases hnbf
  | ok t =>
    rw [hint] at hnbf
    cases hnbf
    rw [integerClaim_eq_ok hint] at hj
    cases hj
    simp only at h
    split_ifs at h with h3
    exact ⟨t, rfl, not_lt.1 h3⟩

/-- Checking the claims of a token takes one reading of the wall clock at most. -/
structure Checked (v : JwtVerifier) (claims : Dict) (before : List VerifierEvent)
    (r : Except Exn (ℤ × ℤ)) (es : List VerifierEvent) : Prop where
  raised : Raises Exn.OfToken r
  steps : es = before ∨ ∃ ans, es = before ++ [⟨.wallClock, ans⟩]
  held : ∀ exp iat, r = .ok (exp, iat) → ∃ now, (⟨.wallClock, .ok now⟩ : VerifierEvent) ∈ es ∧
    ∀ claims' : VerifiedClaims, claims'.claims = claims → claims'.expiresAt = exp →
      claims'.issuedAt = iat → TimeClaimsHold v claims' now

theorem checkedTimeClaims_ensures {claims : Dict} (hs : stageOf py es = .free) :
    Ensures recorded (Allowed py keyId) (checkedTimeClaims v claims) es (Checked v claims es) := by
  simp only [checkedTimeClaims, bind_eq, liftM_eq, done_andThen]
  cases hexp : integerClaim claims (str "exp") with
  | error e => exact ⟨(raises_error _).2 (integerClaim_raises _ hexp), .inl rfl, by simp⟩
  | ok exp =>
  cases hiat : integerClaim claims (str "iat") with
  | error e => exact ⟨(raises_error _).2 (integerClaim_raises _ hiat), .inl rfl, by simp⟩
  | ok iat =>
  cases hnbf : notBeforeClaim claims with
  | error e =>
    refine ⟨(raises_error _).2 ?_, .inl rfl, by simp⟩
    unfold notBeforeClaim at hnbf
    split_ifs at hnbf
    exact Raises.map integerClaim_raises _ _ hnbf
  | ok nbf =>
    simp only [onReturn_ok, ask_eq, call_andThen, done_andThen, ensures_record_call]
    refine ⟨Allowed.of_stage (by simp [hs, Stage.allows]) (by simp) (by simp), ?_⟩
    rintro (e | now) he
    · exact ⟨(raises_error _).2 (.inl (he _ rfl)), .inr ⟨_, rfl⟩, by simp⟩
    simp only [onReturn_ok, ensures_done]
    refine ⟨timesAt_raises, .inr ⟨_, rfl⟩, fun exp' iat' h => ⟨now, by simp, ?_⟩⟩
    rintro claims' rfl rfl rfl
    have hpair : exp = claims'.expiresAt ∧ iat = claims'.issuedAt := by
      unfold timesAt at h
      repeat' split at h
      all_goals first
        | exact Prod.mk.inj (Except.ok.inj h)
        | cases h
    obtain ⟨rfl, rfl⟩ := hpair
    exact timesAt_holds (integerClaim_eq_ok hexp) (integerClaim_eq_ok hiat) hnbf h

/-- What `_verified_claims` ends with: what a key lookup says of a failed one, and claims that
verify. -/
structure Claimed (py : Platform) (v : JwtVerifier) (token : Str) (keyId : Option Str)
    (r : Except Exn VerifiedClaims) (es : List VerifierEvent) : Prop where
  raised : Raises Exn.OfVerifier r
  verified : ∀ claims, r = .ok claims → Verifies py v token claims es
  unknown : r = .error (.verificationRefusal .unknownKeyId) →
    ∃ es₀, LooksFor keyId es₀ ∧ es = es₀ ++ [⟨.readLastRefreshFailed, .ok false⟩]
  unavailable : CheckFails es → r = .error (.verificationRefusal .keySetUnavailable)

theorem Claimed.of_token {token : Str} {e : Exn} (he : e.OfToken) (hno : ¬ CheckFails es) :
    Claimed py v token keyId (.error e) es := by
  refine ⟨(raises_error _).2 ?_, by simp, fun h => ?_, fun h => absurd h hno⟩
  · exact he.imp_right fun ⟨reason, he, _⟩ => ⟨reason, he⟩
  cases h
  rcases he with he | ⟨reason, he, hne⟩
  · simp [Exn.isPrivate] at he
  · cases he
    exact absurd rfl hne

theorem verifiedClaims_ensures {token : Str} {expected : ExpectedType} :
    Ensures recorded (Allowed py (headerKey py token expected))
      (verifiedClaims py v token expected) []
      (Claimed py v token (headerKey py token expected)) := by
  have hnil : ¬ CheckFails [] := by rintro (h | ⟨keySet, now, -, h, -⟩) <;> simp at h
  simp only [verifiedClaims, bind_eq, liftM_eq, done_andThen]
  cases hhead : checkedHeader py token expected with
  | error e => exact .of_token (checkedHeader_raises _ hhead) hnil
  | ok keyId =>
    have hkey : headerKey py token expected = keyId := by simp [headerKey, hhead]
    rw [hkey]
    simp only [onReturn_ok, ensures_andThen]
    refine signingKey_ensures.mono fun r es hl => ?_
    cases r with
    | error e =>
      refine ⟨(raises_error _).2 (hl.raised _ rfl), by simp,
        fun h => hl.unknown (by cases h; rfl), fun h => ?_⟩
      cases hl.unavailable h
      rfl
    | ok key =>
      have hno : ¬ CheckFails es := fun h => by cases hl.unavailable h
      simp only [onReturn_ok]
      cases hpay : verifiedPayload py v token key with
      | error e => exact .of_token (verifiedPayload_raises _ hpay) hno
      | ok claims =>
        simp only [onReturn_ok, ensures_andThen]
        refine (checkedTimeClaims_ensures hl.stage).mono fun r es' hc => ?_
        have hno' : ¬ CheckFails es' := by
          rcases hc.steps with rfl | ⟨ans, rfl⟩
          · exact hno
          · exact not_checkFails (fun h => by cases h) (fun now h => by cases h)
        cases r with
        | error e => exact .of_token (hc.raised _ rfl) hno'
        | ok times =>
          obtain ⟨now, hmem, hhold⟩ := hc.held _ _ rfl
          simp only [onReturn_ok]
          cases hsub : subjectOf claims with
          | error e => exact .of_token (subjectOf_raises _ hsub) hno'
          | ok subject =>
            cases haud : audiencesOf claims with
            | error e => exact .of_token (audiencesOf_raises _ haud) hno'
            | ok audiences =>
              refine ⟨raises_ok _, ?_, by simp, fun h => absurd h hno'⟩
              rintro claims' h
              cases h
              have hdec : py.jwtDecode ⟨token, key, [algorithm], v.audiences, v.issuer,
                  libraryChecks⟩ = .ok claims := by
                unfold verifiedPayload at hpay
                split at hpay
                · cases hpay
                  assumption
                · cases hpay
              exact ⟨⟨key, hdec⟩, rfl, hsub, haud, now, hmem, hhold _ rfl rfl rfl⟩

/-- **What one call of `verify` does alone.** -/
theorem verify_ensures {token : Str} {expected : ExpectedType} :
    Ensures recorded (Allowed py (headerKey py token expected)) (verify py v token expected) []
      (Answered py v token expected) := by
  have hnil : ¬ CheckFails [] := by rintro (h | ⟨keySet, now, -, h, -⟩) <;> simp at h
  simp only [verify, bind_eq, liftM_eq, done_andThen, tryCatch_eq]
  cases htypes : requireComparableTypes expected with
  | error e =>
    refine ⟨by simp, by simp, fun h => absurd h hnil, (raises_error _).2 ?_⟩
    unfold requireComparableTypes at htypes
    repeat' split at htypes
    all_goals cases htypes
    rfl
  | ok u =>
    simp only [onReturn_ok, andThen_assoc, ensures_andThen]
    refine verifiedClaims_ensures.mono fun r es hc => ?_
    cases r with
    | ok claims =>
      refine ⟨fun claims' h => ?_, by simp, fun h => ?_, raises_ok _⟩
      · cases h
        exact hc.verified _ rfl
      · cases hc.unavailable h
    | error e =>
      rcases hc.raised _ rfl with he | ⟨reason, rfl⟩
      · have hthrow : rejected e = raise e := by
          cases e <;> first | rfl | simp [Exn.isPrivate] at he
        show Ensures _ _ (rejected e) _ _
        rw [hthrow]
        exact ⟨by simp, by simp, fun h => by cases hc.unavailable h; simp [Exn.isPrivate] at he,
          (raises_error _).2 he⟩
      · refine ⟨by simp, fun h => hc.unknown ?_, fun h => ?_, raises_ok _⟩
        · cases h
          rfl
        · cases hc.unavailable h
          rfl

end

end WebAuth
