import WebAuth.OidcLogin

/-!
# What a call that asks the issuer has done

`fresh_access_token` and `current_groups` read the row, ask the issuer and read the row again. Each
part of them leaves a stretch of calls that says what was read and what was answered; the parts are
verified here over any history before them and any predicate of the answers.
-/

namespace WebAuth

open Python Effects Program

variable {P : HostEvent → Prop} {ok : List HostEvent → HostCall → Prop} {es : List HostEvent}

/-! ## Views of a history -/

/-- The rows loaded, in order. -/
def loadAnswer : HostEvent → Option (Option SessionRecord)
  | ⟨.load _, .ok record⟩ => some record
  | _ => none

/-- The rows loaded, in order. -/
def loads (es : List HostEvent) : List (Option SessionRecord) := es.filterMap loadAnswer

/-- The exchange with the token endpoint an event is. -/
def exchangeOf : HostEvent → Option (TokenRequest × Except Exn TokenEndpointAnswer)
  | ⟨.postTokenRequest request, ans⟩ => some (request, ans)
  | _ => none

/-- The exchanges with the token endpoint, in order. -/
def exchanges (es : List HostEvent) : List (TokenRequest × Except Exn TokenEndpointAnswer) :=
  es.filterMap exchangeOf

/-- Whether a call writes a session row that exists. -/
def HostCall.writesRow : HostCall → Bool
  | touch _ _ => true
  | replaceRefreshToken _ _ => true
  | _ => false

/-- The writes of session rows, in order. -/
def rowWrites (es : List HostEvent) : List HostEvent := es.filter (·.call.writesRow)

section Views

variable {e : HostEvent} {es' : List HostEvent}

@[simp] theorem loads_nil : loads [] = [] := rfl

@[simp] theorem loads_append : loads (es ++ es') = loads es ++ loads es' := List.filterMap_append

@[simp] theorem loads_cons : loads (e :: es) = (loadAnswer e).toList ++ loads es := by
  cases h : loadAnswer e <;> simp [loads, h]

@[simp] theorem exchanges_nil : exchanges [] = [] := rfl

@[simp] theorem exchanges_append : exchanges (es ++ es') = exchanges es ++ exchanges es' :=
  List.filterMap_append

@[simp] theorem exchanges_cons : exchanges (e :: es) = (exchangeOf e).toList ++ exchanges es := by
  cases h : exchangeOf e <;> simp [exchanges, h]

@[simp] theorem rowWrites_nil : rowWrites [] = [] := rfl

@[simp] theorem rowWrites_append : rowWrites (es ++ es') = rowWrites es ++ rowWrites es' :=
  List.filter_append _ _

@[simp] theorem rowWrites_cons :
    rowWrites (e :: es) = (if e.call.writesRow then [e] else []) ++ rowWrites es := by
  cases h : e.call.writesRow <;> simp [rowWrites, h]

theorem rowWrites_eq_nil (h : ∀ e ∈ es, e.call.writesRow = false) : rowWrites es = [] := by
  simpa [rowWrites] using h

theorem loads_eq_nil (h : ∀ e ∈ es, loadAnswer e = none) : loads es = [] :=
  List.filterMap_eq_nil_iff.2 h

theorem exchanges_eq_nil (h : ∀ e ∈ es, exchangeOf e = none) : exchanges es = [] :=
  List.filterMap_eq_nil_iff.2 h

end Views

/-! ## A transaction -/

/-- The calls that read the row of a session. -/
def HostCall.ReadsSession (sessionId : Str) : HostCall → Prop
  | enter transaction => transaction = .session
  | leave transaction _ => transaction = .session
  | load loaded => loaded = sessionId
  | wallClock => True
  | _ => False

theorem HostCall.ReadsSession.writesRow {sessionId : Str} {c : HostCall}
    (h : c.ReadsSession sessionId) : c.writesRow = false := by
  cases c <;> first | rfl | exact h.elim

theorem exchangeOf_reads {sessionId : Str} {e : HostEvent} (h : e.call.ReadsSession sessionId) :
    exchangeOf e = none := by
  obtain ⟨c, ans⟩ := e
  cases c <;> first | rfl | exact h.elim

/-- What is asked where a block ends with `r`: the exit is allowed, and it may fail. -/
def Leaves {α : Type} (P : HostEvent → Prop) (ok : List HostEvent → HostCall → Prop)
    (transaction : Transaction) (Q : Except Exn α → List HostEvent → Prop) (r : Except Exn α)
    (es : List HostEvent) : Prop :=
  ok es (.leave transaction r.isOk) ∧
    (P ⟨.leave transaction r.isOk, .ok ()⟩ → Q r (es ++ [⟨.leave transaction r.isOk, .ok ()⟩])) ∧
    ∀ x, P ⟨.leave transaction r.isOk, .error x⟩ →
      Q (.error x) (es ++ [⟨.leave transaction r.isOk, .error x⟩])

/-- A block in a transaction: the entry may fail, and the exit runs whatever the block ends with. -/
theorem within_ensures {α : Type} {transaction : Transaction} {block : Task α}
    {Q : Except Exn α → List HostEvent → Prop} (henter : ok es (.enter transaction))
    (hfail : ∀ x, P ⟨.enter transaction, .error x⟩ →
      Q (.error x) (es ++ [⟨.enter transaction, .error x⟩]))
    (hblock : P ⟨.enter transaction, .ok ()⟩ → Ensures (record fun _ e => P e) ok block
      (es ++ [⟨.enter transaction, .ok ()⟩]) (Leaves P ok transaction Q)) :
    Ensures (record fun _ e => P e) ok (within transaction block) es Q := by
  simp only [within, invoke_eq, bind_eq, call_andThen, done_andThen, ensures_record_call]
  refine ⟨henter, ?_⟩
  rintro (x | u) hans
  · simpa using hfail x hans
  simp only [onReturn_ok, ensures_andThen]
  refine (hblock hans).mono ?_
  rintro (x | a) es' ⟨hok, hleft, hraised⟩
  · simp only [ensures_record_call]
    refine ⟨hok, ?_⟩
    rintro (y | u) hans'
    · exact hraised y hans'
    · exact hleft hans'
  · simp only [ensures_record_call]
    refine ⟨hok, ?_⟩
    rintro (y | u) hans'
    · exact hraised y hans'
    · exact hleft hans'

/-! ## The row, judged -/

/-- The calls a judgement makes of a loaded row, and the row when it stands. -/
def Judges (config : WebAuthConfig) : Option SessionRecord → List HostEvent → Option SessionRecord →
    Prop
  | none, tr, standing => tr = [] ∧ standing = none
  | some record, tr, standing => ∃ reading now, tr = [⟨.wallClock, .ok reading⟩] ∧
      DateTime.fromTimestamp (truncate reading) = some now ∧
      stands config.sessionLifetime now (some record) = .ok standing

theorem Judges.standing_eq {config : WebAuthConfig} {record standing : Option SessionRecord}
    {tr : List HostEvent} (h : Judges config record tr standing) :
    standing = none ∨ standing = record := by
  cases record with
  | none => exact .inl h.2
  | some record =>
    obtain ⟨reading, now, -, -, hstands⟩ := h
    cases hadm : isAdmitted config.sessionLifetime record now with
    | error e => simp [stands, hadm, Except.map] at hstands
    | ok admitted =>
      simp only [stands, hadm, Except.map, Except.ok.injEq] at hstands
      subst hstands
      cases admitted
      · exact .inl rfl
      · exact .inr rfl

/-- Neither does a row stand at a reading nor does it not: an instant leaves the calendar. -/
def Unjudgeable (config : WebAuthConfig) (row : SessionRecord) (reading : ℚ) : Prop :=
  ∀ now, DateTime.fromTimestamp (truncate reading) = some now →
    ∀ standing, stands config.sessionLifetime now (some row) ≠ .ok standing

/-- Why a reading of the row raises: a call was not answered, the store answered no `bool`, or a
judgement left the calendar. -/
def Troubled (config : WebAuthConfig) (tr : List HostEvent) : Prop :=
  (∃ e ∈ tr, e.answer.isOk = false) ∨
    (∃ sessionId token typeName,
      (⟨.replaceRefreshToken sessionId token, .ok (.other typeName)⟩ : HostEvent) ∈ tr) ∨
    ∃ sessionId row reading, (⟨.load sessionId, .ok (some row)⟩ : HostEvent) ∈ tr ∧
      (⟨.wallClock, .ok reading⟩ : HostEvent) ∈ tr ∧ Unjudgeable config row reading

theorem Troubled.mono {config : WebAuthConfig} {tr tr' : List HostEvent} (h : Troubled config tr)
    (hsub : tr ⊆ tr') : Troubled config tr' := by
  rcases h with ⟨e, he, herr⟩ | ⟨sessionId, token, typeName, h⟩ | ⟨sessionId, row, reading, h₁, h₂, h₃⟩
  · exact .inl ⟨e, hsub he, herr⟩
  · exact .inr (.inl ⟨sessionId, token, typeName, hsub h⟩)
  · exact .inr (.inr ⟨sessionId, row, reading, hsub h₁, hsub h₂, h₃⟩)

theorem Troubled.of_error {config : WebAuthConfig} (tr : List HostEvent) {e : HostEvent}
    (h : e.answer.isOk = false) : Troubled config (tr ++ [e]) :=
  .inl ⟨e, List.mem_append_right _ (List.mem_singleton_self e), h⟩

theorem standingSession_ensures {config : WebAuthConfig} {row : Option SessionRecord}
    {Q : Except Exn (Option SessionRecord) → List HostEvent → Prop} (hok : ok es .wallClock)
    (hraise : ∀ x ans, P ⟨.wallClock, ans⟩ → (ans.isOk = true →
        ∃ record reading, row = some record ∧ ans = .ok reading ∧ Unjudgeable config record reading) →
      Q (.error x) (es ++ [⟨.wallClock, ans⟩]))
    (hjudge : ∀ tr standing, Judges config row tr standing → (∀ e ∈ tr, P e) →
      Q (.ok standing) (es ++ tr)) :
    Ensures (record fun _ e => P e) ok (standingSession config row) es Q := by
  cases row with
  | none =>
    have := hjudge [] none ⟨rfl, rfl⟩ (by simp)
    rw [List.append_nil] at this
    exact this
  | some row =>
    simp only [standingSession, wholeSecondNow, invoke_eq, bind_eq, call_andThen, done_andThen,
      ensures_record_call]
    refine ⟨hok, ?_⟩
    rintro (x | reading) hans
    · exact hraise x (.error x) hans (fun h => Bool.noConfusion h)
    · simp only [onReturn_ok, liftM_eq, done_andThen]
      cases hnow : DateTime.fromTimestamp (truncate reading) with
      | none =>
        refine hraise .overflowError (.ok reading) hans fun _ => ⟨row, reading, rfl, rfl, ?_⟩
        intro now h
        rw [hnow] at h
        cases h
      | some now =>
        show Ensures _ _ (done (stands config.sessionLifetime now (some row))) _ _
        rw [ensures_done]
        cases hstands : stands config.sessionLifetime now (some row) with
        | error x =>
          refine hraise x (.ok reading) hans fun _ => ⟨row, reading, rfl, rfl, ?_⟩
          intro now' h standing
          obtain rfl := Option.some.inj (hnow.symm.trans h)
          rw [hstands]
          simp
        | ok standing =>
          exact hjudge [⟨.wallClock, .ok reading⟩] standing ⟨reading, now, rfl, hnow, hstands⟩
            (by simpa using hans)

/-! ## The two transactions -/

/-- A stretch of answered calls that read the row of a session. -/
def ReadTrace (P : HostEvent → Prop) (sessionId : Str) (tr : List HostEvent) : Prop :=
  ∀ e ∈ tr, P e ∧ e.call.ReadsSession sessionId

theorem ReadTrace.nil {sessionId : Str} : ReadTrace P sessionId [] := by
  simp [ReadTrace]

theorem ReadTrace.snoc {sessionId : Str} {tr : List HostEvent} {e : HostEvent}
    (h : ReadTrace P sessionId tr) (hP : P e) (he : e.call.ReadsSession sessionId) :
    ReadTrace P sessionId (tr ++ [e]) := by
  intro e' he'
  rcases List.mem_append.1 he' with he' | he'
  · exact h e' he'
  · obtain rfl := List.mem_singleton.1 he'
    exact ⟨hP, he⟩

theorem ReadTrace.rowWrites {sessionId : Str} {tr : List HostEvent}
    (h : ReadTrace P sessionId tr) : rowWrites tr = [] :=
  rowWrites_eq_nil fun e he => (h e he).2.writesRow

theorem ReadTrace.exchanges {sessionId : Str} {tr : List HostEvent}
    (h : ReadTrace P sessionId tr) : exchanges tr = [] :=
  exchanges_eq_nil fun e he => exchangeOf_reads (h e he).2

theorem ReadTrace.judged {config : WebAuthConfig} {sessionId : Str} {tr judged : List HostEvent}
    {row standing : Option SessionRecord} (h : ReadTrace P sessionId tr)
    (hj : Judges config row judged standing) (hP : ∀ e ∈ judged, P e) :
    ReadTrace P sessionId (tr ++ judged) := by
  cases row with
  | none =>
    obtain ⟨rfl, -⟩ := hj
    simpa using h
  | some row =>
    obtain ⟨reading, now, rfl, -, -⟩ := hj
    exact h.snoc (hP _ (by simp)) trivial

/-- The calls of a transaction up to the judgement of the row it loads. -/
def rowRead (sessionId : Str) (row : Option SessionRecord) : List HostEvent :=
  [⟨.enter .session, .ok ()⟩, ⟨.load sessionId, .ok row⟩]

/-- A transaction that loads the row of a session, judges it and goes on with it. -/
theorem withRow_ensures {α : Type} {config : WebAuthConfig} {sessionId : Str}
    {f : Option SessionRecord → Task α} {Q : Except Exn α → List HostEvent → Prop}
    (hok : ∀ es' c, c.ReadsSession sessionId → ok es' c)
    (hraise : ∀ x tr, ReadTrace P sessionId tr → Troubled config tr → Q (.error x) (es ++ tr))
    (hf : ∀ judged row standing, Judges config row judged standing →
      ReadTrace P sessionId (rowRead sessionId row ++ judged) →
      Ensures (record fun _ e => P e) ok (f standing) (es ++ (rowRead sessionId row ++ judged))
        (Leaves P ok .session Q)) :
    Ensures (record fun _ e => P e) ok (within .session do
      let row ← invoke (.load sessionId)
      let standing ← standingSession config row
      f standing) es Q := by
  have hleaves : ∀ x tr, ReadTrace P sessionId tr → Troubled config tr →
      Leaves P ok .session Q (.error x) (es ++ tr) := by
    intro x tr htr htroubled
    refine ⟨hok _ _ rfl, fun h => ?_, fun y h => ?_⟩
    · rw [List.append_assoc]
      exact hraise x _ (htr.snoc h rfl) (htroubled.mono (List.subset_append_left _ _))
    · rw [List.append_assoc]
      exact hraise y _ (htr.snoc h rfl) (htroubled.mono (List.subset_append_left _ _))
  refine within_ensures (hok _ _ rfl) (fun x hP => ?_) fun henter => ?_
  · exact hraise x _ (ReadTrace.nil.snoc hP rfl)
      (.of_error [] rfl)
  have hentered : ReadTrace P sessionId [⟨.enter .session, .ok ()⟩] :=
    ReadTrace.nil.snoc henter rfl
  simp only [invoke_eq, bind_eq, call_andThen, done_andThen, ensures_record_call]
  refine ⟨hok _ _ rfl, ?_⟩
  rintro (x | row) hload
  · have := hleaves x _ (hentered.snoc hload rfl) (.of_error _ rfl)
    rwa [← List.append_assoc] at this
  have hread : ReadTrace P sessionId (rowRead sessionId row) := hentered.snoc hload rfl
  simp only [onReturn_ok, ensures_andThen]
  rw [List.append_assoc]
  refine standingSession_ensures (hok _ _ trivial) ?_ ?_
  · intro x ans hP hunjudged
    have htroubled : Troubled config (rowRead sessionId row ++ [⟨.wallClock, ans⟩]) := by
      cases ans with
      | error y => exact .of_error _ rfl
      | ok reading =>
        obtain ⟨record, reading', rfl, hans, hrow⟩ := hunjudged rfl
        obtain rfl := Except.ok.inj hans
        exact .inr (.inr ⟨sessionId, record, _, by simp [rowRead], by simp, hrow⟩)
    have := hleaves x _ (hread.snoc hP trivial) htroubled
    rwa [← List.append_assoc] at this
  · intro judged standing hjudges hP
    have := hf judged row standing hjudges (hread.judged hjudges hP)
    rwa [← List.append_assoc] at this

/-- The calls of a transaction that only loads the row and judges it. -/
def ReadsRow (config : WebAuthConfig) (sessionId : Str) (tr : List HostEvent)
    (row standing : Option SessionRecord) : Prop :=
  ∃ judged, Judges config row judged standing ∧
    tr = rowRead sessionId row ++ judged ++ [⟨.leave .session true, .ok ()⟩]

theorem evidenceOfStandingSession_ensures {config : WebAuthConfig} {sessionId : Str}
    {Q : Except Exn (Except AccessTokenRefusal StandingEvidence) → List HostEvent → Prop}
    (hok : ∀ es' c, c.ReadsSession sessionId → ok es' c)
    (hraise : ∀ x tr, ReadTrace P sessionId tr → Troubled config tr → Q (.error x) (es ++ tr))
    (hread : ∀ tr row standing, ReadsRow config sessionId tr row standing →
      ReadTrace P sessionId tr → Q (.ok (evidenceOf standing)) (es ++ tr)) :
    Ensures (record fun _ e => P e) ok (evidenceOfStandingSession config sessionId) es Q := by
  refine withRow_ensures hok hraise fun judged row standing hjudges htr => ?_
  refine ⟨hok _ _ rfl, fun h => ?_, fun x h => ?_⟩
  · rw [List.append_assoc]
    exact hread _ row standing ⟨judged, hjudges, rfl⟩ (htr.snoc h rfl)
  · rw [List.append_assoc]
    exact hraise x _ (htr.snoc h rfl) (.of_error _ rfl)

/-- The calls of the second transaction, and whether the session stands after it: the row is loaded
and judged, and a replacement is stored in a standing row. -/
inductive Keeps (config : WebAuthConfig) (sessionId sent : Str) (rotated : Option Str) :
    List HostEvent → Bool → Prop
  | ended {judged row} (judges : Judges config row judged none) :
      Keeps config sessionId sent rotated
        (rowRead sessionId row ++ judged ++ [⟨.leave .session true, .ok ()⟩]) false
  | kept {judged row record} (judges : Judges config row judged (some record))
      (same : replacement sent rotated = none) :
      Keeps config sessionId sent rotated
        (rowRead sessionId row ++ judged ++ [⟨.leave .session true, .ok ()⟩]) true
  | replaced {judged row record token b} (judges : Judges config row judged (some record))
      (differs : replacement sent rotated = some token) :
      Keeps config sessionId sent rotated
        (rowRead sessionId row ++ judged ++ [⟨.replaceRefreshToken sessionId token, .ok (.bool b)⟩,
          ⟨.leave .session true, .ok ()⟩]) b

theorem keptAfterGrant_ensures {config : WebAuthConfig} {sessionId sent : Str}
    {rotated : Option Str} {Q : Except Exn Bool → List HostEvent → Prop}
    (hok : ∀ es' c, c.ReadsSession sessionId → ok es' c)
    (hreplace : ∀ judged row record token, Judges config row judged (some record) →
      replacement sent rotated = some token →
      ok (es ++ (rowRead sessionId row ++ judged)) (.replaceRefreshToken sessionId token))
    (hraise : ∀ x tr, (∀ e ∈ tr, P e) → Troubled config tr → Q (.error x) (es ++ tr))
    (hkeeps : ∀ tr kept, Keeps config sessionId sent rotated tr kept → (∀ e ∈ tr, P e) →
      Q (.ok kept) (es ++ tr)) :
    Ensures (record fun _ e => P e) ok (keptAfterGrant config sessionId sent rotated) es Q := by
  refine withRow_ensures hok (fun x tr htr => hraise x tr fun e he => (htr e he).1)
    fun judged row standing hjudges htr => ?_
  have hP : ∀ e ∈ rowRead sessionId row ++ judged, P e := fun e he => (htr e he).1
  have hsnoc : ∀ (tr : List HostEvent) e, (∀ e ∈ tr, P e) → P e → ∀ e' ∈ tr ++ [e], P e' := by
    intro tr e htr he e' he'
    rcases List.mem_append.1 he' with he' | he'
    · exact htr e' he'
    · obtain rfl := List.mem_singleton.1 he'
      exact he
  -- the exit of a block that ends normally, and of one that raises
  have hreturn : ∀ tr b, (∀ e ∈ tr, P e) → Keeps config sessionId sent rotated
      (tr ++ [⟨.leave .session true, .ok ()⟩]) b → Leaves P ok .session Q (.ok b) (es ++ tr) := by
    intro tr b htr hkeep
    refine ⟨hok _ _ rfl, fun h => ?_, fun x h => ?_⟩ <;> rw [List.append_assoc]
    · exact hkeeps _ b hkeep (hsnoc _ _ htr h)
    · exact hraise x _ (hsnoc _ _ htr h) (.of_error _ rfl)
  have hthrow : ∀ tr x, (∀ e ∈ tr, P e) → Troubled config tr →
      Leaves P ok .session Q (.error x) (es ++ tr) := by
    intro tr x htr htroubled
    refine ⟨hok _ _ rfl, fun h => ?_, fun y h => ?_⟩ <;> rw [List.append_assoc]
    · exact hraise x _ (hsnoc _ _ htr h) (htroubled.mono (List.subset_append_left _ _))
    · exact hraise y _ (hsnoc _ _ htr h) (htroubled.mono (List.subset_append_left _ _))
  cases standing with
  | none => exact hreturn _ false hP (.ended hjudges)
  | some record =>
    cases hreplaced : replacement sent rotated with
    | none => exact hreturn _ true hP (.kept hjudges hreplaced)
    | some token =>
      simp only [standsStored, stored, invoke_eq, bind_eq, call_andThen, done_andThen,
        ensures_record_call]
      refine ⟨hreplace judged row record token hjudges hreplaced, ?_⟩
      rintro (x | answer) hans <;> rw [List.append_assoc]
      · exact hthrow _ x (hsnoc _ _ hP hans) (.of_error _ rfl)
      cases answer with
      | other typeName =>
        exact hthrow _ _ (hsnoc _ _ hP hans) (.inr (.inl ⟨sessionId, token, typeName, by simp⟩))
      | bool b =>
        refine hreturn _ b (hsnoc _ _ hP hans) ?_
        simpa using Keeps.replaced (b := b) hjudges hreplaced

end WebAuth
