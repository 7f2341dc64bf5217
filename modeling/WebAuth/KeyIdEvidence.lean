import WebAuth.KeySetCache
import WebAuth.ServiceCallers

/-!
# What an unknown key ID says

A call refuses an unfamiliar `kid` by the key set it read last and the failure flag, which are
stored one after the other. A refresh of another call that completes between the two reads can pair
the old set with the new flag. `Confuses` is that step, and without it a `kid` is reported as
unknown only when a completed refresh showed that the issuer does not publish it.
-/

namespace WebAuth

open Python Effects Program

variable {ι : Type} [DecidableEq ι]

/-! ## Completed refresh attempts -/

/-- How a refresh attempt completed. -/
inductive Completion where
  | succeeded (keySet : KeySet)
  | failed

/-- The completion a step is: a successful attempt completes by storing the set it fetched, a
failed one by setting the flag. -/
def completion (e : ι × VerifierEvent) : Option Completion :=
  match e.2 with
  | ⟨.writeKeySet keySet, _⟩ => some (.succeeded keySet)
  | ⟨.writeLastRefreshFailed true, _⟩ => some .failed
  | _ => none

/-- The most recently completed attempt. -/
def completed (h : VerifierHistory ι) : Option Completion := (h.filterMap completion).getLast?

omit [DecidableEq ι] in
theorem completed_snoc (h : VerifierHistory ι) (e : ι × VerifierEvent) :
    completed (h ++ [e]) = (completion e).or (completed h) := by
  unfold completed
  rw [List.filterMap_append, List.getLast?_append]
  cases he : completion e <;> simp [he]

/-! ## Evidence -/

/-- So far in the call of `i`, an attempt that fetched a set without the key ID was the most
recently completed one. -/
def Seen (i : ι) (k : Str) (h : VerifierHistory ι) : Prop :=
  ∃ h₁ h₂ keySet, h = h₁ ++ h₂ ∧ own i h₁ ≠ [] ∧ completed h₁ = some (.succeeded keySet) ∧
    keySet.named.lookup k = none

/-- At some moment of the call of `i` such an attempt was the most recently completed one. -/
def Evidence (i : ι) (k : Str) (h : VerifierHistory ι) : Prop :=
  ∃ h₁ h₂ keySet, h = h₁ ++ h₂ ∧ own i h₁ ≠ [] ∧ own i h₂ ≠ [] ∧
    completed h₁ = some (.succeeded keySet) ∧ keySet.named.lookup k = none

/-- At every moment of the call of `i` the most recently completed attempt was a failed one. -/
def FailedThroughout (i : ι) (h : VerifierHistory ι) : Prop :=
  ∀ h₁ h₂, h = h₁ ++ h₂ → own i h₁ ≠ [] → own i h₂ ≠ [] → completed h₁ = some .failed

/-- How an ended call reports a key ID it does not know. -/
structure ReportsKeyId (py : Platform) (args : ι → VerifyArgs) (h : VerifierHistory ι) (i : ι)
    (reason : RejectionReason) : Prop where
  /-- A `kid` is refused as unknown only on evidence. -/
  evidence : reason = .unknownKeyId →
    ∃ k, headerKey py (args i).token (args i).expected = some k ∧ Evidence i k h
  /-- While the last attempt failed, a `kid` that is not found is refused as unavailable. -/
  failed : FailedThroughout i h → reason = .unknownKeyId ∨ reason = .keySetUnavailable →
    reason = .keySetUnavailable ∧ (verifierRefusal reason).refusalClass = .unavailable
  /-- Without a current set at the last check, every token is refused as unavailable. -/
  unavailable : CheckFails (own i h) →
    reason = .keySetUnavailable ∧ (verifierRefusal reason).refusalClass = .unavailable

/-- Every ended call that rejects its token reports an unknown key ID as it should. -/
def KeyIdReported (py : Platform) (args : ι → VerifyArgs) (h : VerifierHistory ι)
    (pool : ι → Verification (Except RejectionReason VerifiedClaims)) : Prop :=
  ∀ i reason, pool i = ret (.error reason) → ReportsKeyId py args h i reason

/-! ## The step that confuses a call -/

/-- A step that clears a set failure flag while the call of `j` stands between its last key-set
read and its flag read, with a set that lacks its key ID where the cached one has it by now, and
without evidence so far. -/
structure Confuses (py : Platform) (args : ι → VerifyArgs) (h : VerifierHistory ι) (s : Shared)
    (pool : ι → Verification (Except RejectionReason VerifiedClaims)) (c : VerifierCall) (j : ι) :
    Prop where
  clears : c = .writeLastRefreshFailed false
  flagged : s.lastRefreshFailed = true
  stands : ∃ c' next, pool j = .call c' next
  stale : ∃ k first last cached, headerKey py (args j).token (args j).expected = some k ∧
    snapshots (own j h) = [first, some last] ∧ last.named.lookup k = none ∧
    s.keySet = some cached ∧ cached.named.lookup k ≠ none ∧ ¬ Seen j k h

/-- No step of the run confuses a call. -/
def Unconfused (py : Platform) (v : JwtVerifier) (args : ι → VerifyArgs) (clock : ℚ)
    (h : VerifierHistory ι) : Prop :=
  ∀ h₁ h₂ i e, h = h₁ ++ (i, e) :: h₂ → ∀ s₁ pool₁, VerifierRun py v args clock h₁ s₁ pool₁ →
    ∀ j, ¬ Confuses py args h₁ s₁ pool₁ e.call j

/-! ## The invariant -/

section

variable {py : Platform} {v : JwtVerifier} {args : ι → VerifyArgs} {clock : ℚ}
  {h : VerifierHistory ι} {s : Shared}
  {pool : ι → Verification (Except RejectionReason VerifiedClaims)}

theorem Seen.snoc {i : ι} {k : Str} (hs : Seen i k h) (e : ι × VerifierEvent) :
    Seen i k (h ++ [e]) := by
  obtain ⟨h₁, h₂, keySet, rfl, hown, hc, hk⟩ := hs
  exact ⟨h₁, h₂ ++ [e], keySet, by simp, hown, hc, hk⟩

/-- What the flag and the cached set say of the completed attempts, and what every call knows that
still looks for its key ID. -/
structure EvidenceInv (py : Platform) (args : ι → VerifyArgs) (h : VerifierHistory ι) (s : Shared)
    (pool : ι → Verification (Except RejectionReason VerifiedClaims)) : Prop where
  failed : completed h = some .failed → s.lastRefreshFailed = true
  succeeded : ∀ keySet, completed h = some (.succeeded keySet) → s.keySet = some keySet
  never : completed h = none → s.keySet = none
  stored : ∀ i, stageOf py (own i h) = .stored → ∃ keySet, completed h = some (.succeeded keySet)
  looks : ∀ j k first last, (∃ c next, pool j = .call c next) →
    headerKey py (args j).token (args j).expected = some k →
    snapshots (own j h) = [first, some last] → last.named.lookup k = none →
    Seen j k h ∨ s.lastRefreshFailed = true

theorem snapshots_own_snoc (h : VerifierHistory ι) (i j : ι) (e : VerifierEvent) :
    snapshots (own j (h ++ [(i, e)])) =
      if j = i then snapshots (own i h) ++ snapshot e else snapshots (own j h) := by
  by_cases hj : j = i
  · subst hj
    simp
  · rw [own_append_ne (Ne.symm hj), if_neg hj]

theorem own_ne_nil_of_snapshots {j : ι} {first last : Option KeySet}
    (hs : snapshots (own j h) = [first, last]) : own j h ≠ [] := by
  intro hnil
  simp [hnil] at hs

/-- What a call knows that has just read the set it goes on with: an attempt has completed, and if
the last one succeeded, it stored that very set. -/
theorem EvidenceInv.read {i : ι} {k : Str} {first : Option KeySet} {last : KeySet}
    (inv : EvidenceInv py args h s pool) (hkey : s.keySet = some last)
    (hlacks : last.named.lookup k = none) (e : VerifierEvent)
    (hsnap : snapshots (own i (h ++ [(i, e)])) = [first, some last])
    (hcomp : completed (h ++ [(i, e)]) = completed h) :
    Seen i k (h ++ [(i, e)]) ∨ s.lastRefreshFailed = true := by
  cases hc : completed h with
  | none => simp [inv.never hc] at hkey
  | some comp =>
    cases comp with
    | failed => exact .inr (inv.failed hc)
    | succeeded keySet =>
      refine .inl ⟨h ++ [(i, e)], [], last, by simp, own_ne_nil_of_snapshots hsnap, ?_, hlacks⟩
      have := inv.succeeded keySet hc
      rw [hkey] at this
      cases this
      rw [hcomp, hc]

/-- A step that completes nothing and leaves set and flag alone keeps the invariant. -/
theorem EvidenceInv.frame {s' : Shared} {i : ι} {c : VerifierCall} {ans : Except Exn c.Answer}
    {next : Except Exn c.Answer → Verification (Except RejectionReason VerifiedClaims)}
    (inv : EvidenceInv py args h s pool) (stands : pool i = call (I := verifierCalls) c next)
    (hcomp : completion (i, (⟨c, ans⟩ : VerifierEvent)) = none)
    (hflag : s'.lastRefreshFailed = s.lastRefreshFailed) (hkey : s'.keySet = s.keySet)
    (hstore : (stageOf py (own i h)).next py ⟨c, ans⟩ ≠ .stored)
    (hread : ∀ keySet, snapshot ⟨c, ans⟩ = [keySet] → keySet = s.keySet) :
    EvidenceInv py args (h ++ [(i, ⟨c, ans⟩)]) s' (Function.update pool i (next ans)) := by
  have hcompleted : completed (h ++ [(i, (⟨c, ans⟩ : VerifierEvent))]) = completed h := by
    rw [completed_snoc, hcomp]
    rfl
  constructor
  · rw [hcompleted, hflag]
    exact inv.failed
  · rw [hcompleted, hkey]
    exact inv.succeeded
  · rw [hcompleted, hkey]
    exact inv.never
  · intro j hj
    rw [stageOf_own_snoc] at hj
    rw [hcompleted]
    split_ifs at hj
    · exact absurd hj hstore
    · exact inv.stored j hj
  · intro j k first last hstands hhead hsnap hlacks
    rw [hflag]
    have hsnap' := hsnap
    rw [snapshots_own_snoc] at hsnap
    by_cases hj : j = i
    · subst hj
      rw [if_pos rfl] at hsnap
      by_cases hnone : snapshot (⟨c, ans⟩ : VerifierEvent) = []
      · rw [hnone, List.append_nil] at hsnap
        exact (inv.looks j k first last ⟨c, next, stands⟩ hhead hsnap hlacks).imp_left (·.snoc _)
      · -- the call has just read its last set
        have hone : ∃ keySet, snapshot (⟨c, ans⟩ : VerifierEvent) = [keySet] := by
          cases c <;> cases ans <;> first | exact ⟨_, rfl⟩ | exact absurd rfl hnone
        obtain ⟨keySet, hone⟩ := hone
        rw [hone] at hsnap
        obtain ⟨-, hlast⟩ := List.append_inj' (hsnap.trans (by rfl : _ = [first] ++ [some last])) rfl
        have hset := hread keySet hone
        rw [List.singleton_inj.1 hlast] at hset
        exact inv.read hset.symm hlacks _ hsnap' hcompleted
    · rw [if_neg hj] at hsnap
      rw [Function.update_of_ne hj] at hstands
      exact (inv.looks j k first last hstands hhead hsnap hlacks).imp_left (·.snoc _)

/-- Storing a key set completes an attempt. -/
theorem EvidenceInv.store {i : ι} {keySet : KeySet} {u : Except Exn Unit}
    {next : Except Exn Unit → Verification (Except RejectionReason VerifiedClaims)}
    (inv : EvidenceInv py args h s pool)
    (stands : pool i = call (I := verifierCalls) (.writeKeySet keySet) next) :
    EvidenceInv py args (h ++ [(i, ⟨.writeKeySet keySet, u⟩)]) { s with keySet := some keySet }
      (Function.update pool i (next u)) := by
  have hcompleted : completed (h ++ [(i, (⟨.writeKeySet keySet, u⟩ : VerifierEvent))]) =
      some (.succeeded keySet) := by
    rw [completed_snoc]
    rfl
  constructor
  · simp [hcompleted]
  · intro keySet' hk
    rw [hcompleted] at hk
    cases hk
    rfl
  · simp [hcompleted]
  · exact fun j _ => ⟨keySet, hcompleted⟩
  · intro j k first last hstands hhead hsnap hlacks
    have hsnap' : snapshots (own j h) = [first, some last] := by
      rw [snapshots_own_snoc] at hsnap
      split_ifs at hsnap with hj
      · subst hj
        simpa [snapshot] using hsnap
      · exact hsnap
    have hbefore : ∃ c next, pool j = call (I := verifierCalls) c next := by
      by_cases hj : j = i
      · exact ⟨.writeKeySet keySet, next, hj ▸ stands⟩
      · rwa [Function.update_of_ne hj] at hstands
    exact (inv.looks j k first last hbefore hhead hsnap' hlacks).imp_left (·.snoc _)

/-- Writing the flag completes a failed attempt, or follows the set a successful one stored. -/
theorem EvidenceInv.flag {i : ι} {failed : Bool} {u : Except Exn Unit}
    {next : Except Exn Unit → Verification (Except RejectionReason VerifiedClaims)}
    (inv : EvidenceInv py args h s pool) (cache : CacheInv py h s)
    (stands : pool i = call (I := verifierCalls) (.writeLastRefreshFailed failed) next)
    (hstage : stageOf py (own i h) = if failed then .failed else .stored)
    (hclear : ∀ j, ¬ Confuses py args h s pool (.writeLastRefreshFailed failed) j) :
    EvidenceInv py args (h ++ [(i, ⟨.writeLastRefreshFailed failed, u⟩)])
      { s with lastRefreshFailed := failed } (Function.update pool i (next u)) := by
  have hcompleted : completed (h ++ [(i, (⟨.writeLastRefreshFailed failed, u⟩ : VerifierEvent))]) =
      if failed then some .failed else completed h := by
    rw [completed_snoc]
    cases failed <;> rfl
  have hleaving : (stageOf py (own i h)).next py ⟨.writeLastRefreshFailed failed, u⟩ = .leaving := by
    rw [hstage]
    cases failed <;> rfl
  have hsucc : failed = false → ∃ keySet, completed h = some (.succeeded keySet) := by
    rintro rfl
    exact inv.stored i hstage
  constructor
  · intro hc
    cases failed with
    | true => rfl
    | false =>
      obtain ⟨keySet, hk⟩ := hsucc rfl
      simp [hcompleted, hk] at hc
  · intro keySet hk
    cases failed with
    | true => simp [hcompleted] at hk
    | false => exact inv.succeeded keySet (by simpa [hcompleted] using hk)
  · intro hc
    cases failed with
    | true => simp [hcompleted] at hc
    | false => exact inv.never (by simpa [hcompleted] using hc)
  · intro j hj
    rw [stageOf_own_snoc] at hj
    split_ifs at hj with hij
    · rw [hleaving] at hj
      cases hj
    · cases failed with
      | true =>
        have hi : stageOf py (own i h) ≠ .free := by simp [hstage]
        rw [cache.others hi hij] at hj
        cases hj
      | false =>
        rw [hcompleted]
        exact inv.stored j hj
  · intro j k first last hstands hhead hsnap hlacks
    have hsnap' : snapshots (own j h) = [first, some last] := by
      rw [snapshots_own_snoc] at hsnap
      split_ifs at hsnap with hj
      · subst hj
        simpa [snapshot] using hsnap
      · exact hsnap
    have hbefore : ∃ c next, pool j = call (I := verifierCalls) c next := by
      by_cases hj : j = i
      · exact ⟨.writeLastRefreshFailed failed, next, hj ▸ stands⟩
      · rwa [Function.update_of_ne hj] at hstands
    cases failed with
    | true => exact .inr rfl
    | false =>
      rcases inv.looks j k first last hbefore hhead hsnap' hlacks with hseen | hflag
      · exact .inl (hseen.snoc _)
      · left
        by_contra hno
        have hno' : ¬ Seen j k h := fun hs => hno (hs.snoc _)
        obtain ⟨keySet, hk⟩ := hsucc rfl
        have hkey := inv.succeeded keySet hk
        by_cases hin : keySet.named.lookup k = none
        · exact hno' ⟨h, [], keySet, by simp, own_ne_nil_of_snapshots hsnap', hk, hin⟩
        · exact hclear j ⟨rfl, hflag, hbefore, k, first, last, keySet, hhead, hsnap', hlacks, hkey,
            hin, hno'⟩

theorem Unconfused.init {h' : VerifierHistory ι} (hu : Unconfused py v args clock (h ++ h')) :
    Unconfused py v args clock h := by
  rintro h₁ h₂ i e rfl
  exact hu h₁ (h₂ ++ h') i e (by simp)

theorem evidenceInv (run : VerifierRun py v args clock h s pool)
    (hu : Unconfused py v args clock h) : EvidenceInv py args h s pool := by
  induction run with
  | start =>
    constructor <;> simp [Shared.built, completed]
  | @step h s pool i c next ans s' run stands answered ih =>
    have inv := ih hu.init
    have hi := verifyCall_ensures run i
    rw [stands] at hi
    have hst := hi.1.stage
    cases c with
    | writeKeySet keySet =>
      obtain ⟨rfl, rfl⟩ := answered
      exact inv.store stands
    | writeLastRefreshFailed failed =>
      obtain ⟨rfl, rfl⟩ := answered
      exact inv.flag (cacheInv run) stands (allows_writeLastRefreshFailed hst)
        (hu h [] i ⟨.writeLastRefreshFailed failed, .ok ()⟩ rfl s pool run)
    | readKeySet =>
      have hfree := allows_free hst (by simp)
      obtain ⟨rfl, rfl⟩ := answered
      exact inv.frame stands rfl rfl rfl (by rw [hfree]; simp [Stage.next])
        fun keySet hk => (List.singleton_inj.1 hk).symm
    | monotonicClock =>
      have hstage := allows_monotonicClock hst
      have hflag : s'.lastRefreshFailed = s.lastRefreshFailed ∧ s'.keySet = s.keySet := by
        rcases answered with ⟨t, -, rfl, rfl⟩ | ⟨e, -, rfl, rfl⟩ <;> exact ⟨rfl, rfl⟩
      exact inv.frame stands rfl hflag.1 hflag.2
        (by rcases hstage with hs | hs <;> rw [hs] <;> cases ans <;> simp [Stage.next])
        (by cases ans <;> simp [snapshot])
    | fetchKeySet url =>
      obtain ⟨now, hnow, -⟩ := hi.1.starts url rfl
      obtain ⟨-, rfl⟩ := answered
      refine inv.frame stands rfl rfl rfl ?_ (by cases ans <;> simp [snapshot])
      rw [hnow]
      show Stage.answered py now ans ≠ _
      unfold Stage.answered
      split <;> simp
    | acquire =>
      have hfree := allows_free hst (by simp)
      obtain ⟨rfl, rfl⟩ := answered
      exact inv.frame stands rfl rfl rfl
        (by rw [hfree]; cases s.refreshLock <;> simp [Stage.next]) (by simp [snapshot])
    | release =>
      obtain ⟨rfl, rfl⟩ := answered
      exact inv.frame stands rfl rfl rfl (by simp [Stage.next]) (by simp [snapshot])
    | readLastRefreshAt =>
      obtain ⟨now, hnow⟩ := allows_readLastRefreshAt hst
      obtain ⟨rfl, rfl⟩ := answered
      exact inv.frame stands rfl rfl rfl (by rw [hnow]; simp [Stage.next]) (by simp [snapshot])
    | writeLastRefreshAt t =>
      obtain ⟨last, hdue, -⟩ := allows_writeLastRefreshAt hst
      obtain ⟨rfl, rfl⟩ := answered
      exact inv.frame stands rfl rfl rfl (by rw [hdue]; simp [Stage.next]) (by simp [snapshot])
    | readLastRefreshFailed =>
      have hfree := allows_free hst (by simp)
      obtain ⟨rfl, rfl⟩ := answered
      exact inv.frame stands rfl rfl rfl (by rw [hfree]; simp [Stage.next]) (by simp [snapshot])
    | wallClock =>
      have hfree := allows_free hst (by simp)
      obtain ⟨-, rfl⟩ := answered
      exact inv.frame stands rfl rfl rfl (by rw [hfree]; simp [Stage.next])
        (by cases ans <;> simp [snapshot])

/-- **An unknown key ID is reported as forged only on evidence**, in every run none of whose steps
clears a set failure flag behind the back of a call that looks for a key ID the new set has. -/
theorem key_id_reported (run : VerifierRun py v args clock h s pool)
    (hu : Unconfused py v args clock h) : KeyIdReported py args h pool := by
  intro i reason hdone
  have hi := verifyCall_ensures run i
  rw [hdone] at hi
  have hi : Answered py v (args i).token (args i).expected (.ok (.error reason)) (own i h) := hi
  have hevidence : reason = .unknownKeyId →
      ∃ k, headerKey py (args i).token (args i).expected = some k ∧ Evidence i k h := by
    rintro rfl
    obtain ⟨es₀, ⟨k, first, last, hk, hsnap, hlacks⟩, hes⟩ := hi.unknown rfl
    obtain ⟨h₁, h₂, rfl, rfl, hend⟩ := own_split hes
    obtain ⟨s₁, s₂, pool₁, next, run₁, stands, answered, -⟩ := run.split rfl
    have hclear : s₁.lastRefreshFailed = false := (Except.ok.inj answered.1).symm
    rcases (evidenceInv run₁ hu.init).looks i k first last ⟨_, next, stands⟩ hk hsnap hlacks with
      ⟨g₁, g₂, keySet, rfl, hown, hc, hnone⟩ | hflag
    · refine ⟨k, hk, g₁, g₂ ++ (i, ⟨.readLastRefreshFailed, .ok false⟩) :: h₂, keySet, by simp,
        hown, ?_, hc, hnone⟩
      rw [own_append]
      simp [own]
    · rw [hclear] at hflag
      cases hflag
  have hclass : (verifierRefusal .keySetUnavailable).refusalClass = .unavailable := rfl
  refine ⟨hevidence, fun hfailed hreason => ?_, fun hcheck => ?_⟩
  · rcases hreason with rfl | rfl
    · obtain ⟨k, -, h₁, h₂, keySet, heq, hown₁, hown₂, hc, -⟩ := hevidence rfl
      rw [hfailed h₁ h₂ heq hown₁ hown₂] at hc
      cases hc
    · exact ⟨rfl, hclass⟩
  · cases hi.unavailable hcheck
    exact ⟨rfl, hclass⟩

end

/-! ## Scheduled runs -/

/-- The set that completed an attempt without the key ID, if the last completed one is such. -/
def lacking (k : Str) (h : VerifierHistory ι) : Bool :=
  match completed h with
  | some (.succeeded keySet) => (keySet.named.lookup k).isNone
  | _ => false

/-- Whether some moment of the call of `i` is evidence. -/
def evidenced (i : ι) (k : Str) (h : VerifierHistory ι) : Bool :=
  (List.range (h.length + 1)).any fun n =>
    !(own i (h.take n)).isEmpty && !(own i (h.drop n)).isEmpty && lacking k (h.take n)

theorem Evidence.evidenced {i : ι} {k : Str} {h : VerifierHistory ι} (he : Evidence i k h) :
    evidenced i k h = true := by
  obtain ⟨h₁, h₂, keySet, rfl, hown₁, hown₂, hc, hk⟩ := he
  refine List.any_eq_true.2 ⟨h₁.length, by simp, ?_⟩
  simp [hown₁, hown₂, lacking, hc, hk]

/-- Whether a call has read a key set the second time. -/
def hasReadTwice : List (Option KeySet) → Bool
  | [_, some _] => true
  | _ => false

/-- Whether no step clears the flag after one of the calls has read a key set the second time. -/
def neverClearsLate {n : ℕ} (h : VerifierHistory (Fin n)) : Bool :=
  (List.range h.length).all fun m =>
    match h[m]? with
    | some (_, ⟨.writeLastRefreshFailed false, _⟩) =>
      (List.finRange n).all fun j => !hasReadTwice (snapshots (own j (h.take m)))
    | _ => true

theorem unconfused_of_neverClearsLate {n : ℕ} {py : Platform} {v : JwtVerifier}
    {args : Fin n → VerifyArgs} {clock : ℚ} {h : VerifierHistory (Fin n)}
    (hh : neverClearsLate h = true) : Unconfused py v args clock h := by
  rintro h₁ h₂ i ⟨c, ans⟩ rfl s₁ pool₁ run j ⟨hclear, -, -, k, first, last, cached, -, hsnap, -⟩
  obtain rfl : c = .writeLastRefreshFailed false := hclear
  have hnone := List.all_eq_true.1 hh h₁.length (by simp)
  simp only [List.getElem?_append_right le_rfl, Nat.sub_self, List.getElem?_cons_zero,
    List.take_left', List.all_eq_true, List.mem_finRange, forall_const] at hnone
  have hread := hnone j
  rw [hsnap] at hread
  cases hread

/-- Four calls: one stores a first set, one fails to refresh it, one fetches a second set with the
key ID `k`, and a call with `k` reads the first set and then the flag of the third. -/
def confusedSchedule : List (Fin 4 × VerifierChoice) :=
  ([.plain, .plain, .reading 0, .plain, .plain, .fetched (demoKeySet (str "a")), .plain, .plain,
    .plain].map ((0 : Fin 4), ·)) ++
  ([.plain, .reading 30, .plain, .reading 30, .plain, .plain, .unfetched, .plain,
    .plain].map ((1 : Fin 4), ·)) ++
  ([.plain, .reading 60, .plain, .reading 60, .plain, .plain,
    .fetched (demoKeySet (str "k"))].map ((2 : Fin 4), ·)) ++
  ([.plain, .reading 60, .plain, .plain, .reading 60].map ((3 : Fin 4), ·)) ++
  ([.plain, .plain].map ((2 : Fin 4), ·)) ++
  [((3 : Fin 4), .plain)]

/-- The calls of that schedule. -/
def confusedCalls : Fin 4 → VerifyArgs
  | 0 => demoCall (str "a")
  | 1 => demoCall (str "b")
  | 2 => demoCall (str "b")
  | 3 => demoCall (str "k")

/-- A call refuses as unknown a key ID that the cached key set has, without any evidence. -/
theorem key_id_reported_without_evidence :
    ∃ m : VerifierMoment (Fin 4),
      VerifierRun demoPlatform demoVerifier confusedCalls 0 m.history m.state m.pool ∧
      m.pool 3 = ret (.error .unknownKeyId) ∧
      ¬ KeyIdReported demoPlatform confusedCalls m.history m.pool := by
  have hrun : ((Moment.before (Shared.built 0)
      (verifyCalls demoPlatform demoVerifier confusedCalls)).execute sharedResponder
        confusedSchedule).any (fun m =>
          rejectedFor .unknownKeyId 3 m && !evidenced 3 (str "k") m.history) = true := by
    decide +kernel
  have hkey : headerKey demoPlatform (confusedCalls 3).token (confusedCalls 3).expected =
      some (str "k") := by
    decide +kernel
  obtain ⟨m, run, hm⟩ := Moment.exists_run hrun
  rw [Bool.and_eq_true, Bool.not_eq_true'] at hm
  have hpool := rejectedFor_eq hm.1
  refine ⟨m, run, hpool, fun hrep => ?_⟩
  obtain ⟨k, hk, hevidence⟩ := (hrep 3 _ hpool).evidence rfl
  rw [hkey] at hk
  cases hk
  rw [hevidence.evidenced] at hm
  exact Bool.noConfusion hm.2

/-- Three calls: one fails to fetch a set, then one fetches a set without the key ID of another,
which has found none and the lock held, and reads that set. -/
def evidentSchedule : List (Fin 3 × VerifierChoice) :=
  ([.plain, .plain, .reading 0, .plain, .plain, .unfetched, .plain, .plain,
    .plain].map ((2 : Fin 3), ·)) ++
  [(1, .plain)] ++
  ([.plain, .plain, .reading 30, .plain, .plain, .fetched (demoKeySet (str "a")),
    .plain].map ((0 : Fin 3), ·)) ++
  [(1, .plain), (0, .plain), (0, .plain), (1, .plain), (1, .reading 31), (0, .plain), (1, .plain),
    (0, .reading 31)]

/-- The calls of that schedule. -/
def evidentCalls : Fin 3 → VerifyArgs
  | 0 => demoCall (str "a")
  | 1 => demoCall (str "k")
  | 2 => demoCall (str "b")

theorem key_id_reported_of_evidence :
    ∃ m : VerifierMoment (Fin 3), m.pool 0 = ret (.error .invalidSignature) ∧
      m.pool 1 = ret (.error .unknownKeyId) ∧ m.pool 2 = ret (.error .keySetUnavailable) ∧
      KeyIdReported demoPlatform evidentCalls m.history m.pool := by
  have h : ((Moment.before (Shared.built 0)
      (verifyCalls demoPlatform demoVerifier evidentCalls)).execute sharedResponder
        evidentSchedule).any (fun m =>
          neverClearsLate m.history && rejectedFor .invalidSignature 0 m &&
            rejectedFor .unknownKeyId 1 m && rejectedFor .keySetUnavailable 2 m) = true := by
    decide +kernel
  obtain ⟨m, run, hm⟩ := Moment.exists_run h
  simp only [Bool.and_eq_true] at hm
  obtain ⟨⟨⟨hlate, h₀⟩, h₁⟩, h₂⟩ := hm
  exact ⟨m, rejectedFor_eq h₀, rejectedFor_eq h₁, rejectedFor_eq h₂,
    key_id_reported run (unconfused_of_neverClearsLate hlate)⟩

end WebAuth
