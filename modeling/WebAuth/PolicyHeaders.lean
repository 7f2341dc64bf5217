import WebAuth.BearerGate
import WebAuth.ResponseStarts

/-!
# The policy on every answer

The stack of the library's middleware around any application. Whoever starts a response, the
application, a middleware that refuses or the library itself on a failure, the start leaves with
each policy header as the deployment says and with every other header as it was.
-/

namespace WebAuth

open Python Effects Program

/-! ## Header names -/

/-- A header name as it is compared: in lower case. -/
def lowerName (name : Bytes) : Bytes := encodeLatin1 (lowerAscii (decodeLatin1 name))

/-- The names are in lower case, as ASGI has them. -/
def HasLowerNames (headers : List (Bytes × Bytes)) : Prop :=
  ∀ header ∈ headers, lowerName header.1 = header.1

/-- The values under a name, in their order. -/
def valuesOf (headers : List (Bytes × Bytes)) (name : String) : List Bytes :=
  (headers.filter fun header => lowerName header.1 = headerName name).map (·.2)

/-! ## The stack -/

/-- A Starlette response that refuses a request; its headers are in lower case. -/
structure RefusalResponse where
  status : ℕ
  rawHeaders : List (Bytes × Bytes)
  body : Bytes
  lower : HasLowerNames rawHeaders

namespace RefusalResponse

/-- Its response start. -/
def start (response : RefusalResponse) : Message :=
  { type := responseStart, status := some response.status, headers := some response.rawHeaders }

/-- The response, awaited. -/
def app (response : RefusalResponse) : Program Asgi Raised Unit := do
  send response.start
  send { type := str "http.response.body", body := some response.body }

end RefusalResponse

/-- `_refusal` of a refusing middleware under its policy: the response that refuses a request, none
to admit it, or what it raises. -/
abbrev RefusalHook := Scope → Except Raised (Option RefusalResponse)

/-- `RefusalMiddleware.__call__`. -/
def refusalMiddleware (refusal : RefusalHook) (app : ASGIApp) : ASGIApp := fun scope =>
  if scope.type = str "http" then
    match refusal scope with
    | .ok (some response) => response.app
    | .ok none => app scope
    | .error e => .raise e
  else app scope

/-- An entry of the stack. The rate limit, the bearer gate, the CSRF origin check and the session
gate refuse or pass on, each by its own hook. -/
inductive Middleware where
  | securityHeaders (policy : SecurityHeadersPolicy)
  | bodySizeLimit (policy : BodySizePolicy)
  | refusal (hook : RefusalHook)

/-- An entry around an application. -/
def Middleware.wrap (py : Platform) : Middleware → ASGIApp → ASGIApp
  | securityHeaders policy, app => WebAuth.securityHeaders policy app
  | bodySizeLimit policy, app => WebAuth.bodySizeLimit py policy app
  | refusal hook, app => refusalMiddleware hook app

/-- The entries around an application, the first one outermost. -/
def installed (py : Platform) (entries : List Middleware) (app : ASGIApp) : ASGIApp :=
  entries.foldr (·.wrap py) app

/-- `_no_store_paths`. -/
def noStorePaths (gate : BearerGate) : List PathRules :=
  (gate.machinePaths.map (·.paths)).toList ++ (gate.resource.map (·.entryPointRule)).toList

/-- The rule that keeps answers out of every cache. -/
def noStoreRule (paths : PathRules) : CacheControlRule := ⟨paths, str "no-store", by decide⟩

/-- The policy with the rules of a gate before the host's. -/
def withNoStore (policy : SecurityHeadersPolicy) (gate : BearerGate) : SecurityHeadersPolicy :=
  { policy with
    cacheControlRules := (noStorePaths gate).map noStoreRule ++ policy.cacheControlRules }

/-- `_library_middleware`, outermost first. -/
def libraryMiddleware (securityHeaders : SecurityHeadersPolicy) (bodySize : Option BodySizePolicy)
    (rateLimit : Option RefusalHook) (bearerGate : Option (BearerGate × RefusalHook))
    (csrfOrigin : RefusalHook) (sessionGate : Option RefusalHook) : List Middleware :=
  let securityHeaders :=
    bearerGate.elim securityHeaders fun gate => withNoStore securityHeaders gate.1
  .securityHeaders securityHeaders :: ((bodySize.map .bodySizeLimit).toList ++
    (rateLimit.map .refusal).toList ++ (bearerGate.map fun gate => .refusal gate.2).toList ++
    [.refusal csrfOrigin] ++ (sessionGate.map .refusal).toList)

/-! ## What an answer is to carry -/

/-- A path of the gate that no cache may keep: a machine path or the resource's entry point. -/
def BearerGate.KeepsOut (gate : BearerGate) (path : Str) : Prop :=
  (∃ machinePaths, gate.machinePaths = some machinePaths ∧ machinePaths.paths.selects path = true) ∨
    ∃ resource, gate.resource = some resource ∧ path = resource.entryPoint

/-- `value` is what a deployment lets an answer under `path` be cached as, `none` for no rule. -/
structure CachedAs (policy : SecurityHeadersPolicy) (gate : Option BearerGate) (path : Str)
    (value : Option Str) : Prop where
  keptOut : ∀ g, gate = some g → g.KeepsOut path → value = some (str "no-store")
  byRule : (∀ g, gate = some g → ¬g.KeepsOut path) → value = policy.cacheControl path

/-- The headers the policy writes. -/
def policyHeaders : List String :=
  [ownPolicyHeader, "Cache-Control", "Content-Security-Policy", "X-Content-Type-Options",
    "X-Frame-Options", "Referrer-Policy", "Permissions-Policy", "Strict-Transport-Security"]

/-- Whether cookies are secure in the deployment; without a configuration they are not. -/
def servesSecureCookies (scope : Scope) : Bool :=
  match webAuthConfig scope with
  | .ok config => config.value.cookieSecure
  | .error _ => false

/-- The response start of an answer the library writes itself. -/
def plainStart (status : ℕ) (contentType : String) (body : Bytes) : Message :=
  { type := responseStart, status := some status,
    headers := some [(encodeLatin1 (str "content-length"), encodeLatin1 (decimal body.length)),
      (encodeLatin1 (str "content-type"), encodeLatin1 (str contentType))] }

/-- Who started a response: the application, an entry that refused the request or found its body too
large, or the library on a failure. -/
inductive StartedBy (app : ASGIApp) (entries : List Middleware) (scope : Scope) : Message → Prop
  | app (own : List (Event Asgi Raised)) (r : Except Raised Unit) (hown : Path (app scope) own r)
    (message : Message) (hmessage : message ∈ starts own) : StartedBy app entries scope message
  | refused (hook : RefusalHook) (response : RefusalResponse) (hentry : .refusal hook ∈ entries)
    (hrefusal : hook scope = .ok (some response)) : StartedBy app entries scope response.start
  | tooLarge (policy : BodySizePolicy) (hentry : .bodySizeLimit policy ∈ entries) :
    StartedBy app entries scope (plainStart 413 "application/json"
      (encodeLatin1 (str "\x7b\"detail\":\"Request body too large\"\x7d")))
  | failed : StartedBy app entries scope (plainStart 500 "text/plain; charset=utf-8"
      (encodeLatin1 (str "Internal Server Error")))

/-- The headers of a response start with the policy on them. `cache` is what the answer may be
cached as, and an answer with the marker keeps its own values of two headers. -/
structure CarriesPolicy (policy : SecurityHeadersPolicy) (cache : Option Str) (secure : Bool)
    (before after : List (Bytes × Bytes)) : Prop where
  contentTypeOptions : valuesOf after "X-Content-Type-Options" = [encodeLatin1 (str "nosniff")]
  frameOptions : valuesOf after "X-Frame-Options" = [encodeLatin1 (str "DENY")]
  referrerPolicy : valuesOf after "Referrer-Policy" =
    [encodeLatin1 (str "strict-origin-when-cross-origin")]
  permissionsPolicy : valuesOf after "Permissions-Policy" = [encodeLatin1 policy.permissionsPolicy]
  pinned : secure = true → valuesOf after "Strict-Transport-Security" =
    [encodeLatin1 (str "max-age=31536000; includeSubDomains")]
  unpinned : secure = false → valuesOf after "Strict-Transport-Security" = []
  contentSecurity : valuesOf before ownPolicyHeader = [] →
    valuesOf after "Content-Security-Policy" = [encodeLatin1 policy.contentSecurityPolicy]
  cacheControl : valuesOf before ownPolicyHeader = [] → ∀ value, cache = some value →
    valuesOf after "Cache-Control" = [encodeLatin1 value]
  uncached : valuesOf before ownPolicyHeader = [] → cache = none →
    valuesOf after "Cache-Control" = valuesOf before "Cache-Control"
  ownContentSecurity : valuesOf before ownPolicyHeader ≠ [] →
    valuesOf after "Content-Security-Policy" = valuesOf before "Content-Security-Policy"
  ownCacheControl : valuesOf before ownPolicyHeader ≠ [] →
    valuesOf after "Cache-Control" = valuesOf before "Cache-Control"
  markerGone : valuesOf after ownPolicyHeader = []
  others : after.filter (fun header => !(policyHeaders.map headerName).contains
      (lowerName header.1)) =
    before.filter fun header => !(policyHeaders.map headerName).contains (lowerName header.1)

/-! ## Edits of a header list -/

section Edits

variable {headers : List (Bytes × Bytes)} {name : String}

/-- A header that is there is replaced at its first place and deleted at the others. -/
theorem setHeader_of_has (value : Str) (hhas : hasHeader headers name = true) :
    ∃ before first rest, headers = before ++ first :: rest ∧ first.1 = headerName name ∧
      (∀ header ∈ before, header.1 ≠ headerName name) ∧
      setHeader headers name value =
        before ++ (headerName name, encodeLatin1 value) :: rest.filter (·.1 ≠ headerName name) := by
  have hne : headers.dropWhile (·.1 ≠ headerName name) ≠ [] := by
    intro hnil
    obtain ⟨header, hmem, hname⟩ := List.any_eq_true.1 hhas
    have hall := List.dropWhile_eq_nil_iff.1 hnil header hmem
    exact of_decide_eq_true hall (of_decide_eq_true hname)
  obtain ⟨first, rest, hcut⟩ := List.exists_cons_of_ne_nil hne
  have hfirst := List.head?_dropWhile_not
    (fun header : Bytes × Bytes => decide (header.1 ≠ headerName name)) headers
  rw [hcut] at hfirst
  refine ⟨headers.takeWhile (·.1 ≠ headerName name), first, rest, ?_, ?_, ?_, ?_⟩
  · rw [← hcut, List.takeWhile_append_dropWhile]
  · simpa using hfirst
  · intro header hheader
    simpa using List.mem_takeWhile_imp hheader
  · unfold setHeader
    rw [if_pos hhas, hcut, List.tail_cons]

theorem setHeader_of_not_has {value : Str} (hhas : hasHeader headers name = false) :
    setHeader headers name value = headers ++ [(headerName name, encodeLatin1 value)] := by
  unfold setHeader
  rw [if_neg (by simp [hhas])]

theorem delHeader_of_not_has (hhas : hasHeader headers name = false) :
    delHeader headers name = headers := by
  refine List.filter_eq_self.2 fun header hheader => ?_
  simpa using List.any_eq_false.1 hhas header hheader

/-- One edit: a value set under a name, or the name deleted. -/
def editHeader (headers : List (Bytes × Bytes)) : String × Option Str → List (Bytes × Bytes)
  | (name, some value) => setHeader headers name value
  | (name, none) => delHeader headers name

theorem filter_ne_filter {p : Bytes × Bytes → Bool}
    (hp : ∀ header, header.1 = headerName name → p header = false) :
    (headers.filter (·.1 ≠ headerName name)).filter p = headers.filter p := by
  rw [List.filter_filter]
  refine List.filter_congr fun header _ => ?_
  by_cases hname : header.1 = headerName name
  · simp [hp header hname]
  · simp [hname]

/-- An edit touches no other name. -/
theorem filter_editHeader {edit : String × Option Str} {p : Bytes × Bytes → Bool}
    (hp : ∀ header, header.1 = headerName edit.1 → p header = false) :
    (editHeader headers edit).filter p = headers.filter p := by
  obtain ⟨name, value | value⟩ := edit
  · exact filter_ne_filter hp
  · show (setHeader headers name value).filter p = _
    by_cases hhas : hasHeader headers name = true
    · obtain ⟨before, first, rest, rfl, hfirst, -, hset⟩ := setHeader_of_has value hhas
      rw [hset, List.filter_append, List.filter_append,
        List.filter_cons_of_neg (by simp [hp]), List.filter_cons_of_neg (by simp [hp _ hfirst]),
        filter_ne_filter hp]
    · rw [setHeader_of_not_has (by simpa using hhas), List.filter_append,
        List.filter_cons_of_neg (by simp [hp])]
      simp

theorem HasLowerNames.editHeader {edit : String × Option Str} (hlower : HasLowerNames headers)
    (hname : lowerName (headerName edit.1) = headerName edit.1) :
    HasLowerNames (editHeader headers edit) := by
  obtain ⟨name, value | value⟩ := edit
  · exact fun header hheader => hlower header (List.mem_of_mem_filter hheader)
  · intro header hheader
    have hmem : header.1 = headerName name ∨ header ∈ headers := by
      by_cases hhas : hasHeader headers name = true
      · obtain ⟨before, first, rest, rfl, -, -, hset⟩ := setHeader_of_has value hhas
        rw [WebAuth.editHeader, hset] at hheader
        simp only [List.mem_append, List.mem_cons, List.mem_filter] at hheader ⊢
        rcases hheader with hbefore | rfl | ⟨hrest, -⟩
        · exact .inr (.inl hbefore)
        · exact .inl rfl
        · exact .inr (.inr (.inr hrest))
      · rw [WebAuth.editHeader, setHeader_of_not_has (by simpa using hhas)] at hheader
        rcases List.mem_append.1 hheader with hheader | hheader
        · exact .inr hheader
        · exact .inl (by rw [List.mem_singleton.1 hheader])
    rcases hmem with heq | hmem
    · rw [heq, hname]
    · exact hlower header hmem

/-- An edit leaves the value it sets under its name, and no other. -/
theorem valuesOf_editHeader {edit : String × Option Str} (hlower : HasLowerNames headers)
    (hname : lowerName (headerName edit.1) = headerName edit.1) :
    valuesOf (editHeader headers edit) edit.1 = (edit.2.map encodeLatin1).toList := by
  have hedited := hlower.editHeader hname
  have hexact : (WebAuth.editHeader headers edit).filter
      (fun header => lowerName header.1 = headerName edit.1) =
      (WebAuth.editHeader headers edit).filter (·.1 = headerName edit.1) :=
    List.filter_congr fun header hheader => by rw [hedited header hheader]
  have hrest : ∀ rest : List (Bytes × Bytes), (rest.filter (·.1 ≠ headerName edit.1)).filter
      (·.1 = headerName edit.1) = [] := by
    intro rest
    refine List.filter_eq_nil_iff.2 fun header hheader => ?_
    simpa using (List.mem_filter.1 hheader).2
  rw [valuesOf, hexact]
  obtain ⟨name, value | value⟩ := edit
  · show ((delHeader headers name).filter _).map _ = _
    rw [delHeader, hrest]
    rfl
  · show ((setHeader headers name value).filter _).map _ = _
    by_cases hhas : hasHeader headers name = true
    · obtain ⟨before, first, rest, rfl, hfirst, hbefore, hset⟩ :=
        setHeader_of_has value hhas
      rw [hset, List.filter_append, List.filter_cons_of_pos (by simp), hrest,
        List.filter_eq_nil_iff.2 fun header hheader => by simpa using hbefore header hheader]
      rfl
    · have hnone := List.filter_eq_nil_iff.2 (List.any_eq_false.1 (by simpa using hhas :
        hasHeader headers name = false))
      rw [setHeader_of_not_has (by simpa using hhas), List.filter_append, hnone]
      simp

theorem filter_edits {edits : List (String × Option Str)} {p : Bytes × Bytes → Bool}
    (hp : ∀ edit ∈ edits, ∀ header, header.1 = headerName edit.1 → p header = false) :
    (edits.foldl editHeader headers).filter p = headers.filter p := by
  induction edits generalizing headers with
  | nil => rfl
  | cons edit edits ih =>
    rw [List.foldl_cons, ih fun edit hedit => hp edit (List.mem_cons_of_mem _ hedit)]
    exact filter_editHeader (hp edit List.mem_cons_self)

/-- Edits of other names leave the values under a name. -/
theorem valuesOf_edits_of_ne {edits : List (String × Option Str)}
    (hnames : ∀ edit ∈ edits, lowerName (headerName edit.1) = headerName edit.1)
    (hne : ∀ edit ∈ edits, headerName edit.1 ≠ headerName name) :
    valuesOf (edits.foldl editHeader headers) name = valuesOf headers name := by
  unfold valuesOf
  rw [filter_edits]
  intro edit hedit header hheader
  rw [hheader, hnames edit hedit]
  simpa using hne edit hedit

/-- Of edits of different names each one has its effect. -/
theorem valuesOf_edits {edits : List (String × Option Str)} (hlower : HasLowerNames headers)
    (hnames : ∀ edit ∈ edits, lowerName (headerName edit.1) = headerName edit.1)
    (hnodup : (edits.map fun edit => headerName edit.1).Nodup) {edit : String × Option Str}
    (hedit : edit ∈ edits) :
    valuesOf (edits.foldl editHeader headers) edit.1 = (edit.2.map encodeLatin1).toList := by
  induction edits generalizing headers with
  | nil => cases hedit
  | cons first edits ih =>
    have hfirst := hnames first List.mem_cons_self
    have hrest := fun edit hedit => hnames edit (List.mem_cons_of_mem first hedit)
    obtain ⟨hnew, hnodup⟩ := List.nodup_cons.1 hnodup
    rw [List.foldl_cons]
    rcases List.mem_cons.1 hedit with rfl | hedit
    · rw [valuesOf_edits_of_ne hrest, valuesOf_editHeader hlower hfirst]
      intro other hother heq
      exact hnew (List.mem_map.2 ⟨other, hother, heq⟩)
    · exact ih (hlower.editHeader hfirst) hrest hnodup hedit

end Edits

/-! ## The policy as edits -/

section Policy

variable {policy : SecurityHeadersPolicy} {path : Str} {secure : Bool}
  {headers : List (Bytes × Bytes)}

/-- The edits of `_apply_policy`, on an answer with the marker or without it. -/
def policyEdits (policy : SecurityHeadersPolicy) (path : Str) (secure marked : Bool) :
    List (String × Option Str) :=
  (if marked then [(ownPolicyHeader, none)]
    else ((policy.cacheControl path).map fun value => ("Cache-Control", some value)).toList ++
      [("Content-Security-Policy", some policy.contentSecurityPolicy)]) ++
    [("X-Content-Type-Options", some (str "nosniff")), ("X-Frame-Options", some (str "DENY")),
      ("Referrer-Policy", some (str "strict-origin-when-cross-origin")),
      ("Permissions-Policy", some policy.permissionsPolicy),
      ("Strict-Transport-Security",
        if secure then some (str "max-age=31536000; includeSubDomains") else none)]

theorem applyPolicy_eq_edits : applyPolicy policy path secure headers =
    (policyEdits policy path secure (hasHeader headers ownPolicyHeader)).foldl editHeader
      headers := by
  have hpin : ∀ headers, (if secure then
      setHeader headers "Strict-Transport-Security" (str "max-age=31536000; includeSubDomains")
      else if hasHeader headers "Strict-Transport-Security" then
        delHeader headers "Strict-Transport-Security" else headers) =
      editHeader headers ("Strict-Transport-Security",
        if secure then some (str "max-age=31536000; includeSubDomains") else none) := by
    intro headers
    cases secure with
    | true => rfl
    | false =>
      by_cases hhas : hasHeader headers "Strict-Transport-Security" = true
      · simp [hhas, editHeader]
      · simp [hhas, editHeader, delHeader_of_not_has]
  unfold applyPolicy policyEdits
  simp only [hpin]
  by_cases hmarked : hasHeader headers ownPolicyHeader = true
  · simp [hmarked, editHeader]
  · cases hcache : policy.cacheControl path <;> simp [hmarked, editHeader]

theorem lowerName_policyHeaders :
    ∀ name ∈ policyHeaders, lowerName (headerName name) = headerName name := by decide

theorem nodup_policyHeaders : (policyHeaders.map headerName).Nodup := by decide

variable (policy path secure) in
theorem policyEdits_names (marked : Bool) :
    ((policyEdits policy path secure marked).map (·.1)).Sublist policyHeaders := by
  unfold policyEdits
  cases marked <;> cases policy.cacheControl path <;> simp [policyHeaders]

/-- What the edits leave under a name of the policy. -/
theorem valuesOf_applyPolicy (hlower : HasLowerNames headers) {name : String} {value : Option Str}
    (hedit : (name, value) ∈ policyEdits policy path secure (hasHeader headers ownPolicyHeader)) :
    valuesOf (applyPolicy policy path secure headers) name = (value.map encodeLatin1).toList := by
  have hnames := policyEdits_names policy path secure (hasHeader headers ownPolicyHeader)
  rw [applyPolicy_eq_edits]
  refine valuesOf_edits hlower (fun edit hedit => ?_) ?_ hedit
  · exact lowerName_policyHeaders _ (hnames.subset (List.mem_map_of_mem hedit))
  · have := (hnames.map headerName).nodup nodup_policyHeaders
    rwa [List.map_map] at this

/-- No edit touches a header outside the policy. -/
theorem filter_applyPolicy {p : Bytes × Bytes → Bool}
    (hp : ∀ name ∈ policyHeaders, ∀ header, header.1 = headerName name → p header = false) :
    (applyPolicy policy path secure headers).filter p = headers.filter p := by
  rw [applyPolicy_eq_edits]
  refine filter_edits fun edit hedit => hp edit.1 ?_
  exact (policyEdits_names policy path secure _).subset (List.mem_map_of_mem hedit)

/-- A name of the policy that no edit is about keeps its values. -/
theorem valuesOf_applyPolicy_of_ne {name : String} (hname : name ∈ policyHeaders)
    (hnot : name ∉
      (policyEdits policy path secure (hasHeader headers ownPolicyHeader)).map (·.1)) :
    valuesOf (applyPolicy policy path secure headers) name = valuesOf headers name := by
  have hpolicy : ∀ edit ∈ policyEdits policy path secure (hasHeader headers ownPolicyHeader),
      edit.1 ∈ policyHeaders := fun edit hedit =>
    (policyEdits_names policy path secure _).subset (List.mem_map_of_mem hedit)
  rw [applyPolicy_eq_edits]
  refine valuesOf_edits_of_ne (fun edit hedit => lowerName_policyHeaders _ (hpolicy edit hedit))
    fun edit hedit heq => hnot ?_
  rw [← List.inj_on_of_nodup_map nodup_policyHeaders (hpolicy edit hedit) hname heq]
  exact List.mem_map_of_mem hedit

theorem valuesOf_eq_nil_iff (hlower : HasLowerNames headers) {name : String} :
    valuesOf headers name = [] ↔ hasHeader headers name = false := by
  unfold valuesOf hasHeader
  rw [List.map_eq_nil_iff, List.filter_eq_nil_iff, List.any_eq_false]
  refine forall₂_congr fun header hheader => ?_
  rw [hlower header hheader]

/-- **The policy on one response start.** -/
theorem carriesPolicy (hlower : HasLowerNames headers) :
    CarriesPolicy policy (policy.cacheControl path) secure headers
      (applyPolicy policy path secure headers) := by
  have hset : ∀ {name value}, (name, some value) ∈ policyEdits policy path secure
      (hasHeader headers ownPolicyHeader) →
      valuesOf (applyPolicy policy path secure headers) name = [encodeLatin1 value] :=
    fun hedit => valuesOf_applyPolicy hlower hedit
  have hdel : ∀ {name}, (name, none) ∈ policyEdits policy path secure
      (hasHeader headers ownPolicyHeader) →
      valuesOf (applyPolicy policy path secure headers) name = [] :=
    fun hedit => valuesOf_applyPolicy hlower hedit
  have hmarked : ∀ {name}, valuesOf headers name ≠ [] → hasHeader headers name = true := by
    intro name hne
    simpa using mt (valuesOf_eq_nil_iff hlower).2 hne
  exact
    { contentTypeOptions := hset (by simp [policyEdits])
      frameOptions := hset (by simp [policyEdits])
      referrerPolicy := hset (by simp [policyEdits])
      permissionsPolicy := hset (by simp [policyEdits])
      pinned := fun hsecure => hset (by simp [policyEdits, hsecure])
      unpinned := fun hsecure => hdel (by simp [policyEdits, hsecure])
      contentSecurity := fun hnone =>
        hset (by simp [policyEdits, (valuesOf_eq_nil_iff hlower).1 hnone])
      cacheControl := fun hnone value hcache =>
        hset (by simp [policyEdits, (valuesOf_eq_nil_iff hlower).1 hnone, hcache])
      uncached := fun hnone hcache => valuesOf_applyPolicy_of_ne (by simp [policyHeaders])
        (by simp [policyEdits, (valuesOf_eq_nil_iff hlower).1 hnone, hcache])
      ownContentSecurity := fun hsome => valuesOf_applyPolicy_of_ne (by simp [policyHeaders])
        (by rw [hmarked hsome]; simp [policyEdits, ownPolicyHeader])
      ownCacheControl := fun hsome => valuesOf_applyPolicy_of_ne (by simp [policyHeaders])
        (by rw [hmarked hsome]; simp [policyEdits, ownPolicyHeader])
      markerGone := by
        by_cases hnone : valuesOf headers ownPolicyHeader = []
        · rw [valuesOf_applyPolicy_of_ne (by simp [policyHeaders]), hnone]
          rw [(valuesOf_eq_nil_iff hlower).1 hnone]
          cases policy.cacheControl path <;> simp [policyEdits, ownPolicyHeader]
        · exact hdel (by simp [policyEdits, hmarked hnone])
      others := filter_applyPolicy fun name hname header hheader => by
        rw [hheader, lowerName_policyHeaders name hname]
        simpa using List.mem_map_of_mem hname }

theorem CarriesPolicy.of_eq {policy' : SecurityHeadersPolicy} {cache : Option Str}
    {after : List (Bytes × Bytes)} (h : CarriesPolicy policy cache secure headers after)
    (hcontent : policy.contentSecurityPolicy = policy'.contentSecurityPolicy)
    (hpermissions : policy.permissionsPolicy = policy'.permissionsPolicy) :
    CarriesPolicy policy' cache secure headers after where
  __ := h
  permissionsPolicy := hpermissions ▸ h.permissionsPolicy
  contentSecurity := hcontent ▸ h.contentSecurity

end Policy

/-! ## Who starts a response -/

section Starts

variable {py : Platform} {app : ASGIApp} {scope : Scope} {entries : List Middleware}
  {tr : List (Event Asgi Raised)} {r : Except Raised Unit}

/-- A response sends its own start, if any. -/
theorem starts_of_response {start body : Message} (hbody : body.type ≠ responseStart)
    (hpath : Path (do send start; send body) tr r) : ∀ message ∈ starts tr, message = start := by
  obtain ⟨ans, rest, rfl, hrest⟩ := path_perform_andThen.1 hpath
  have hnone : starts rest = [] := by
    cases ans with
    | error e =>
      obtain ⟨rfl, -⟩ := hrest
      rfl
    | ok u =>
      obtain ⟨ans, last, rfl, hlast⟩ := hrest
      obtain ⟨rfl, -⟩ : last = [] ∧ r = ans := by cases ans <;> exact hlast
      show [body].filter (·.type = responseStart) = []
      simp [hbody]
  intro message hmessage
  change message ∈ (start :: sent rest).filter (·.type = responseStart) at hmessage
  change (sent rest).filter (·.type = responseStart) = [] at hnone
  rw [List.filter_cons, hnone] at hmessage
  split at hmessage
  · exact List.mem_singleton.1 hmessage
  · cases hmessage

theorem starts_of_sendResponse {status : ℕ} {contentType : String} {body : Bytes}
    (hpath : Path (sendResponse status contentType body) tr r) :
    ∀ message ∈ starts tr, message = plainStart status contentType body :=
  starts_of_response (by show str "http.response.body" ≠ responseStart; decide) hpath

theorem StartedBy.mono {entries' : List Middleware} (hsub : entries ⊆ entries') {message : Message}
    (h : StartedBy app entries scope message) : StartedBy app entries' scope message := by
  cases h with
  | app own r hown message hmessage => exact .app own r hown _ hmessage
  | refused hook response hentry hrefusal => exact .refused hook response (hsub hentry) hrefusal
  | tooLarge policy hentry => exact .tooLarge policy (hsub hentry)
  | failed => exact .failed

theorem StartedBy.type_eq {message : Message} (h : StartedBy app entries scope message) :
    message.type = responseStart := by
  cases h with
  | app own r hown message hmessage => exact of_decide_eq_true (List.mem_filter.1 hmessage).2
  | refused hook response hentry hrefusal => rfl
  | tooLarge policy hentry => rfl
  | failed => rfl

/-- The names of a start are in lower case where the application's are. -/
theorem StartedBy.hasLowerNames {message : Message} (h : StartedBy app entries scope message)
    (hlower : ∀ own r', Path (app scope) own r' → ∀ start ∈ starts own,
      HasLowerNames (start.headers.getD [])) : HasLowerNames (message.headers.getD []) := by
  have hplain : ∀ status contentType body,
      HasLowerNames ((plainStart status contentType body).headers.getD []) := by
    intro status contentType body header hheader
    rcases List.mem_cons.1 hheader with rfl | hheader
    · show lowerName (encodeLatin1 (str "content-length")) = encodeLatin1 (str "content-length")
      decide
    · rw [List.mem_singleton.1 hheader]
      show lowerName (encodeLatin1 (str "content-type")) = encodeLatin1 (str "content-type")
      decide
  cases h with
  | app own r hown message hmessage => exact hlower own r hown message hmessage
  | refused hook response hentry hrefusal => exact response.lower
  | tooLarge policy hentry => exact hplain _ _ _
  | failed => exact hplain _ _ _

/-- Below the security headers every start is someone's own. -/
theorem startedBy_of_installed (hinner : ∀ policy, .securityHeaders policy ∉ entries)
    (hhttp : scope.type = str "http") (hpath : Path (installed py entries app scope) tr r) :
    ∀ message ∈ starts tr, StartedBy app entries scope message := by
  induction entries generalizing tr r with
  | nil => exact fun message hmessage => .app tr r hpath message hmessage
  | cons entry entries ih =>
    have hrest : ∀ {tr r}, Path (installed py entries app scope) tr r →
        ∀ message ∈ starts tr, StartedBy app (entry :: entries) scope message :=
      fun hpath message hmessage => (ih (fun policy hmem =>
        hinner policy (List.mem_cons_of_mem _ hmem)) hpath message hmessage).mono
        (List.subset_cons_self _ _)
    cases entry with
    | securityHeaders policy => exact (hinner policy List.mem_cons_self).elim
    | bodySizeLimit policy =>
      have htoo : ∀ {tr r}, Path tooLarge tr r → ∀ message ∈ starts tr,
          StartedBy app (.bodySizeLimit policy :: entries) scope message := by
        intro tr r htoo message hmessage
        rw [starts_of_sendResponse htoo message hmessage]
        exact .tooLarge policy List.mem_cons_self
      rcases bodySizeLimit_cases hhttp hpath with ⟨-, hover⟩ |
        ⟨-, own, r', count, relayed, rest, rfl, hown, hcounts, hafter⟩
      · exact htoo hover
      have hrelayed : starts relayed = starts own := congrArg (List.filter _) hcounts.sent_eq
      intro message hmessage
      rw [starts_append, hrelayed] at hmessage
      rcases List.mem_append.1 hmessage with hmessage | hmessage
      · exact hrest hown message hmessage
      · rcases hafter with ⟨n, -, -, hlarge⟩ | ⟨-, rfl, -⟩
        · exact htoo hlarge message hmessage
        · cases hmessage
    | refusal hook =>
      change Path (refusalMiddleware hook (installed py entries app) scope) tr r at hpath
      rw [refusalMiddleware, if_pos hhttp] at hpath
      split at hpath
      · rename_i response hrefusal
        intro message hmessage
        rw [starts_of_response (by show str "http.response.body" ≠ responseStart; decide) hpath
          message hmessage]
        exact .refused hook response List.mem_cons_self hrefusal
      · exact hrest hpath
      · obtain ⟨rfl, -⟩ := hpath
        exact fun message hmessage => (by cases hmessage)

variable {headers : SecurityHeadersPolicy}

/-- What the security headers let out, of a program that sends through them. -/
theorem starts_of_served {α : Type} {p : Program Asgi Raised α} {path : Str} {secure started : Bool}
    {out : Except Raised (Except Raised α × Bool)}
    (hpath : Path (served (sendWithPolicy headers path secure) p started) tr out) :
    ∃ own r', Path p own r' ∧ ∀ start ∈ starts tr, ∃ message ∈ starts own,
      start = withPolicy headers path secure message := by
  obtain ⟨own, r', started', -, hown, hserves⟩ := path_served hpath
  refine ⟨own, r', hown, fun start hstart => ?_⟩
  rw [starts, (showsPolicy_of_serves hserves).sent_eq, filter_withPolicy] at hstart
  obtain ⟨message, hmessage, rfl⟩ := List.mem_map.1 hstart
  exact ⟨message, hmessage, rfl⟩

theorem starts_of_answerFailure {path : Str} {secure started : Bool} {original : Raised}
    (hpath : Path (answerFailure headers path secure started original) tr r) :
    ∀ start ∈ starts tr, start = withPolicy headers path secure (plainStart 500
      "text/plain; charset=utf-8" (encodeLatin1 (str "Internal Server Error"))) := by
  unfold answerFailure at hpath
  split at hpath
  · obtain ⟨rfl, -⟩ := hpath
    exact fun start hstart => (by cases hstart)
  · obtain ⟨relayed, rest, out, rfl, hserved, hrest⟩ := path_andThen.1 hpath
    obtain ⟨own, r', hown, hstarts⟩ := starts_of_served hserved
    have hnone : rest = [] := by
      rcases out with e | ⟨r'' | u, s⟩
      · exact hrest.1
      · exact hrest.1
      · exact hrest.1
    intro start hstart
    rw [hnone, List.append_nil] at hstart
    obtain ⟨message, hmessage, rfl⟩ := hstarts start hstart
    rw [starts_of_sendResponse hown message hmessage]

/-- Every start that leaves the security headers carries the policy of the deployment. -/
theorem starts_of_securityHeaders (hhttp : scope.type = str "http")
    (hpath : Path (securityHeaders headers app scope) tr r) : ∀ start ∈ starts tr, ∃ message,
      start = withPolicy headers (routePath scope) (servesSecureCookies scope) message ∧
      ((∃ own r', Path (app scope) own r' ∧ message ∈ starts own) ∨
        message = plainStart 500 "text/plain; charset=utf-8"
          (encodeLatin1 (str "Internal Server Error"))) := by
  rw [securityHeaders, if_neg (not_not.2 hhttp)] at hpath
  unfold servesSecureCookies
  dsimp only at hpath
  cases hconfig : webAuthConfig scope with
  | error e =>
    rw [hconfig] at hpath
    exact fun start hstart => ⟨_, starts_of_answerFailure hpath start hstart, .inr rfl⟩
  | ok config =>
    rw [hconfig] at hpath
    obtain ⟨relayed, rest, out, rfl, hserved, hrest⟩ := path_andThen.1 hpath
    obtain ⟨own, r', hown, hstarts⟩ := starts_of_served hserved
    intro start hstart
    rw [starts_append] at hstart
    rcases List.mem_append.1 hstart with hstart | hstart
    · obtain ⟨message, hmessage, rfl⟩ := hstarts start hstart
      exact ⟨message, rfl, .inl ⟨own, r', hown, hmessage⟩⟩
    · rcases out with e | ⟨original | u, started⟩
      · obtain ⟨rfl, -⟩ := hrest
        cases hstart
      · exact ⟨_, starts_of_answerFailure hrest start hstart, .inr rfl⟩
      · obtain ⟨rfl, -⟩ := hrest
        cases hstart

end Starts

/-! ## Every answer of the stack -/

section Stack

variable {py : Platform} {headers : SecurityHeadersPolicy} {path : Str}

theorem keepsOut_iff {gate : BearerGate} :
    gate.KeepsOut path ↔ ∃ paths ∈ noStorePaths gate, paths.selects path = true := by
  unfold BearerGate.KeepsOut noStorePaths
  simp only [List.mem_append, Option.mem_toList, Option.map_eq_some_iff, or_and_right, exists_or]
  refine or_congr ?_ ?_
  · constructor
    · rintro ⟨machinePaths, hsome, hselects⟩
      exact ⟨_, ⟨machinePaths, hsome, rfl⟩, hselects⟩
    · rintro ⟨_, ⟨machinePaths, hsome, rfl⟩, hselects⟩
      exact ⟨machinePaths, hsome, hselects⟩
  · constructor
    · rintro ⟨resource, hsome, hselects⟩
      exact ⟨_, ⟨resource, hsome, rfl⟩, entryPointRule_selects.2 hselects⟩
    · rintro ⟨_, ⟨resource, hsome, rfl⟩, hselects⟩
      exact ⟨resource, hsome, entryPointRule_selects.1 hselects⟩

theorem cachedAs_withNoStore (gate : BearerGate) :
    CachedAs headers (some gate) path ((withNoStore headers gate).cacheControl path) := by
  have hfound : (withNoStore headers gate).cacheControl path =
      ((((noStorePaths gate).map noStoreRule).find? (·.paths.selects path)).or
        (headers.cacheControlRules.find? (·.paths.selects path))).map (·.value) := by
    rw [← List.find?_append]
    rfl
  constructor
  · rintro _ ⟨⟩ hkept
    obtain ⟨paths, hpaths, hselects⟩ := keepsOut_iff.1 hkept
    have hsome : (((noStorePaths gate).map noStoreRule).find? (·.paths.selects path)).isSome := by
      rw [List.find?_isSome]
      exact ⟨noStoreRule paths, List.mem_map_of_mem hpaths, hselects⟩
    obtain ⟨rule, hrule⟩ := Option.isSome_iff_exists.1 hsome
    obtain ⟨paths', -, rfl⟩ := List.mem_map.1 (List.mem_of_find?_eq_some hrule)
    rw [hfound, hrule]
    rfl
  · intro hfree
    have hnone : ((noStorePaths gate).map noStoreRule).find? (·.paths.selects path) = none := by
      rw [List.find?_eq_none]
      intro rule hrule hselects
      obtain ⟨paths, hpaths, rfl⟩ := List.mem_map.1 hrule
      exact hfree gate rfl (keepsOut_iff.2 ⟨paths, hpaths, hselects⟩)
    rw [hfound, hnone]
    rfl

variable {bodySize : Option BodySizePolicy} {rateLimit sessionGate : Option RefusalHook}
  {bearerGate : Option (BearerGate × RefusalHook)} {csrfOrigin : RefusalHook}
  {app : ASGIApp} {scope : Scope} {tr : List (Event Asgi Raised)} {r : Except Raised Unit}

/-- **Policy headers on every answer.** -/
theorem policy_on_every_answer
    (hpath : Path (installed py (libraryMiddleware headers bodySize rateLimit bearerGate csrfOrigin
      sessionGate) app scope) tr r)
    (hhttp : scope.type = str "http")
    (hlower : ∀ own r', Path (app scope) own r' → ∀ start ∈ starts own,
      HasLowerNames (start.headers.getD [])) :
    ∃ cache, CachedAs headers (bearerGate.map (·.1)) (routePath scope) cache ∧
      ∀ start ∈ starts tr, ∃ source after, start = { source with headers := some after } ∧
        StartedBy app (libraryMiddleware headers bodySize rateLimit bearerGate csrfOrigin
          sessionGate) scope source ∧
        CarriesPolicy headers cache (servesSecureCookies scope) (source.headers.getD []) after := by
  let policy := bearerGate.elim headers fun gate => withNoStore headers gate.1
  have hcached : CachedAs headers (bearerGate.map (·.1)) (routePath scope)
      (policy.cacheControl (routePath scope)) := by
    cases bearerGate with
    | none => exact ⟨fun g hg => (by cases hg), fun _ => rfl⟩
    | some gate => exact cachedAs_withNoStore gate.1
  have hsame : policy.contentSecurityPolicy = headers.contentSecurityPolicy ∧
      policy.permissionsPolicy = headers.permissionsPolicy := by
    cases bearerGate <;> exact ⟨rfl, rfl⟩
  refine ⟨_, hcached, fun start hstart => ?_⟩
  obtain ⟨source, rfl, hsource⟩ := starts_of_securityHeaders hhttp hpath start hstart
  have hstarted : StartedBy app (libraryMiddleware headers bodySize rateLimit bearerGate csrfOrigin
      sessionGate) scope source := by
    rcases hsource with ⟨own, r', hown, hsource⟩ | rfl
    · refine (startedBy_of_installed ?_ hhttp hown source hsource).mono (List.subset_cons_self _ _)
      simp
    · exact .failed
  have hnames := hstarted.hasLowerNames hlower
  refine ⟨source, _, ?_, hstarted, (carriesPolicy hnames).of_eq hsame.1 hsame.2⟩
  rw [withPolicy, if_pos (hstarted.type_eq)]

end Stack

/-! ## An answer with repeated headers -/

/-- A start that names a header of the policy twice, around one of its own. -/
def repeatedStart : Message where
  type := responseStart
  status := some 200
  headers := some [(headerName "x-frame-options", encodeLatin1 (str "ALLOW")),
    (headerName "x-own", encodeLatin1 (str "1")),
    (headerName "x-frame-options", encodeLatin1 (str "SAMEORIGIN"))]

def repeatingApp : ASGIApp := fun _ => do
  send repeatedStart
  send { type := str "http.response.body" }

/-- The stack without a gate, whose check of the origin admits every request. -/
def admittingStack : List Middleware :=
  libraryMiddleware demoHeaders none none none (fun _ => .ok none) none

def repeatedRun : List (Event Asgi Raised) × Except Raised Unit :=
  play client (installed demoPlatform admittingStack repeatingApp demoRequest) []

theorem policy_on_every_answer_of_repeats : (starts repeatedRun.1).length = 1 ∧
    ∃ cache, CachedAs demoHeaders none (routePath demoRequest) cache ∧
      ∀ start ∈ starts repeatedRun.1, ∃ source after,
        start = { source with headers := some after } ∧
        StartedBy repeatingApp admittingStack demoRequest source ∧
        CarriesPolicy demoHeaders cache (servesSecureCookies demoRequest)
          (source.headers.getD []) after := by
  have hpath : Path (installed demoPlatform admittingStack repeatingApp demoRequest)
      repeatedRun.1 repeatedRun.2 := path_play (I := Asgi) client _ []
  refine ⟨by decide +kernel, policy_on_every_answer hpath rfl fun own r' hown start hstart => ?_⟩
  rw [starts_of_response (by show str "http.response.body" ≠ responseStart; decide) hown start
    hstart]
  show ∀ header ∈ repeatedStart.headers.getD [], lowerName header.1 = header.1
  decide

end WebAuth
