import WebAuth.LimiterRuns
import WebAuth.Proxies
import WebAuth.Python.IpAddressText

/-!
# The keys of the rate limiter

Which budget a request spends from and for whom. One key stands for one budget and one client, and
is only ever checked with that budget's limit and window.
-/

namespace WebAuth

open Python SlidingWindow

/-! ## The policy -/

/-- `_BUDGET_NAME.fullmatch`. -/
def isBudgetName : Str → Bool
  | [] => false
  | c :: rest =>
    c.between 'a' 'z' && rest.all fun c => c.between 'a' 'z' || isDigit c || isOneOf "_-" c

/-- `RateLimitBudget`. -/
structure RateLimitBudget where
  name : Str
  maxRequests : ℤ
  windowSeconds : ℤ
  name_isBudgetName : isBudgetName name = true
  maxRequests_pos : 0 < maxRequests
  windowSeconds_pos : 0 < windowSeconds

/-- `RateLimitRule`. -/
structure RateLimitRule where
  paths : PathRules
  budget : RateLimitBudget

/-- `RateLimitPolicy`. Each of its budgets has its own name. -/
structure RateLimitPolicy where
  default : RateLimitBudget
  rules : List RateLimitRule := []
  exempt : PathRules := {}
  names_nodup : ((default :: rules.map (·.budget)).map (·.name)).Nodup

namespace RateLimitPolicy

/-- The budgets of a policy. -/
def budgets (policy : RateLimitPolicy) : List RateLimitBudget :=
  policy.default :: policy.rules.map (·.budget)

/-- `is_exempt`. -/
def isExempt (policy : RateLimitPolicy) (path : Str) : Bool := policy.exempt.selects path

/-- `budget_for`. -/
def budgetFor (policy : RateLimitPolicy) (path : Str) : RateLimitBudget :=
  match policy.rules.find? fun rule => rule.paths.selects path with
  | some rule => rule.budget
  | none => policy.default

end RateLimitPolicy

/-! ## The middleware -/

/-- `_rate_limit_key`. -/
def rateLimitKey (budget : RateLimitBudget) (budgetIdentity : Str) : Str :=
  budget.name ++ str ":" ++ budgetIdentity

/-- What the limiter is asked for a request. -/
structure LimiterAsk where
  key : Str
  limit : ℤ
  windowSeconds : ℤ
  deriving DecidableEq

/-- `_LIMITER_UNAVAILABLE_RETRY_AFTER_SECONDS`. -/
def limiterUnavailableRetryAfterSeconds : ℕ := 5

/-- The answer when the limiter raises. -/
def limiterUnavailable : Response where
  status := 503
  content := .detail (str "Rate limiter unavailable")
  headers := [(str "Retry-After", decimal limiterUnavailableRetryAfterSeconds)]

/-- The answer when the budget is spent. -/
def tooManyRequests (windowSeconds : ℤ) : Response where
  status := 429
  content := .detail (str "Too many requests")
  headers := [(str "Retry-After", decimal windowSeconds.toNat)]

/-- A request as the limiter sees it, with what the transport says of its client. -/
structure LimitedRequest where
  scope : Scope
  client : Option Str

/-- `IpRateLimitMiddleware`, with the trusted proxies of the configuration. -/
structure IpRateLimitMiddleware where
  policy : RateLimitPolicy
  trustedProxies : TrustedProxies

namespace IpRateLimitMiddleware

variable (py : Platform) (middleware : IpRateLimitMiddleware)

/-- The client identity of a request. -/
def clientIp (request : LimitedRequest) : Str :=
  resolveClientIp py request.client request.scope middleware.trustedProxies

/-- What `_refusal` asks the limiter for a request, if anything. -/
def asks (request : LimitedRequest) : Except Exn (Option LimiterAsk) :=
  let path := routePath request.scope
  if middleware.policy.isExempt path then .ok none
  else do
    let _ ← webAuthConfig request.scope
    let budgetIdentity := budgetAddress (middleware.clientIp py request)
    let budget := middleware.policy.budgetFor path
    return some ⟨rateLimitKey budget budgetIdentity, budget.maxRequests, budget.windowSeconds⟩

/-- `_refusal`, by what the limiter answers. -/
def refusal (isAllowed : LimiterAsk → Except Exn Bool) (request : LimitedRequest) :
    Except Exn (Option Response) := do
  match ← middleware.asks py request with
  | none => return none
  | some ask =>
    match isAllowed ask with
    | .error _ => return some limiterUnavailable
    | .ok false => return some (tooManyRequests ask.windowSeconds)
    | .ok true => return none

/-- A request and the clock's reading at it, as a call of the limiter. -/
def limiterCall (request : LimitedRequest × ℚ) : Option LimiterCall :=
  match middleware.asks py request.1 with
  | .ok (some ask) => some ⟨ask.key, ask.limit, ask.windowSeconds, request.2⟩
  | _ => none

/-- The calls of the limiter that a sequence of requests makes. -/
def limiterCalls (requests : List (LimitedRequest × ℚ)) : List LimiterCall :=
  requests.filterMap (middleware.limiterCall py)

end IpRateLimitMiddleware

/-! ## Whom a budget pools with -/

/-- Two identities share a budget: the same IPv4 address, addresses of one IPv6 /64, the same text
of no address, or such a text that is written as the other's /64. -/
def Pools (a b : Str) : Prop :=
  match canonicalAddress a, canonicalAddress b with
  | some (.v4 ip), some (.v4 ip') => ip = ip'
  | some (.v6 ip), some (.v6 ip') => ip.val / 2 ^ 64 = ip'.val / 2 ^ 64
  | some (.v6 ip), none => b = textNetwork (Network.around ip 64 (by decide))
  | none, some (.v6 ip) => a = textNetwork (Network.around ip 64 (by decide))
  | none, none => a = b
  | _, _ => False

section Identities

theorem mem_textIPv6 {ip : Fin (2 ^ 128)} {c : CodePoint} (h : c ∈ textIPv6 ip) :
    c = chr ':' ∨ ∃ d < 16, c = hexDigit d := by
  unfold textIPv6 at h
  rcases mem_join h with h | ⟨part, hpart, h⟩
  · exact .inl h
  · rcases mem_compressHextets hpart with rfl | ⟨hextet, rfl⟩
    · cases h
    · exact .inr (mem_hexadecimal h)

theorem hexDigit_not_mark : ∀ d < 16, hexDigit d ≠ chr '%' ∧ hexDigit d ≠ chr '/' := by
  decide +kernel

theorem not_mem_textIPv6 (ip : Fin (2 ^ 128)) : chr '%' ∉ textIPv6 ip ∧ chr '/' ∉ textIPv6 ip := by
  constructor
  · intro h
    rcases mem_textIPv6 h with heq | ⟨d, hd, heq⟩
    · revert heq
      decide
    · exact (hexDigit_not_mark d hd).1 heq.symm
  · intro h
    rcases mem_textIPv6 h with heq | ⟨d, hd, heq⟩
    · revert heq
      decide
    · exact (hexDigit_not_mark d hd).2 heq.symm

theorem not_mem_textIPv4 (ip : Fin (2 ^ 32)) : chr '%' ∉ textIPv4 ip ∧ chr '/' ∉ textIPv4 ip := by
  constructor
  · intro h
    have hchar := mem_parseIPv4 (parseIPv4_textIPv4 ip) h
    revert hchar
    decide
  · intro h
    have hchar := mem_parseIPv4 (parseIPv4_textIPv4 ip) h
    revert hchar
    decide

/-- An identity that is an address reads back as that address. -/
theorem canonicalAddress_text {host : Str} {address : IpAddress}
    (h : canonicalAddress host = some address) : canonicalAddress address.text = some address := by
  have hzone : chr '%' ∉ address.text := by
    cases address with
    | v4 ip => exact (not_mem_textIPv4 ip).1
    | v6 ip => exact (not_mem_textIPv6 ip).1
  have hunmapped : ∀ ip, address = .v6 ip → ipv4Mapped ip = none := by
    rintro ip rfl
    unfold canonicalAddress at h
    split_ifs at h with hguard
    split at h
    · rename_i ip' hip
      cases hmapped : ipv4Mapped ip' with
      | none =>
        rw [hmapped] at h
        obtain rfl := IpAddress.v6.inj (Option.some.inj h)
        exact hmapped
      | some mapped =>
        rw [hmapped] at h
        cases h
    · rename_i hother
      exact absurd h (hother ip)
  have hparse := ipAddress_text address
  have hlength := length_of_ipAddress hparse
  unfold canonicalAddress
  rw [if_neg, hparse]
  · cases address with
    | v4 ip => rfl
    | v6 ip =>
      dsimp only
      rw [hunmapped ip rfl]
      rfl
  · simp only [Bool.or_eq_true, decide_eq_true_eq, List.contains_iff_mem, not_or]
    exact ⟨by unfold maxAddressChars; omega, hzone⟩

theorem textIPv4_injective : Function.Injective textIPv4 := by
  intro ip ip' h
  have hparse := parseIPv4_textIPv4 ip
  rw [h, parseIPv4_textIPv4] at hparse
  exact (Option.some.inj hparse).symm

theorem textIPv6_injective : Function.Injective textIPv6 := by
  intro ip ip' h
  have hparse := parseIPv6_textIPv6 ip
  rw [h, parseIPv6_textIPv6] at hparse
  exact (Option.some.inj hparse).symm

theorem slash_mem_textNetwork (network : Network 128) : chr '/' ∈ textNetwork network := by
  unfold textNetwork
  rw [List.append_assoc, List.mem_append]
  exact .inr (List.mem_append_left _ List.mem_cons_self)

/-- The /64 networks of two addresses are written alike exactly when they are one network. -/
theorem textNetwork_around {ip ip' : Fin (2 ^ 128)} :
    textNetwork (Network.around ip 64 (by decide)) =
        textNetwork (Network.around ip' 64 (by decide)) ↔
      ip.val / 2 ^ 64 = ip'.val / 2 ^ 64 := by
  have hpos : 0 < 2 ^ 64 := by norm_num
  unfold textNetwork
  constructor
  · intro h
    have htext : textIPv6 (Network.around ip 64 (by decide)).address =
        textIPv6 (Network.around ip' 64 (by decide)).address :=
      List.append_cancel_right (List.append_cancel_right h)
    have haddress := congrArg Fin.val (textIPv6_injective htext)
    exact Nat.eq_of_mul_eq_mul_right hpos haddress
  · intro h
    have haddress : (Network.around ip 64 (by decide : 64 ≤ 128)).address =
        (Network.around ip' 64 (by decide : 64 ≤ 128)).address := by
      refine Fin.ext ?_
      show ip.val / 2 ^ 64 * 2 ^ 64 = ip'.val / 2 ^ 64 * 2 ^ 64
      rw [h]
    rw [haddress]
    rfl

theorem budgetAddress_of_none {a : Str} (h : canonicalAddress a = none) : budgetAddress a = a := by
  unfold budgetAddress
  rw [h]

theorem budgetAddress_of_v4 {a : Str} {ip : Fin (2 ^ 32)}
    (h : canonicalAddress a = some (.v4 ip)) : budgetAddress a = textIPv4 ip := by
  unfold budgetAddress
  rw [h]
  rfl

theorem budgetAddress_of_v6 {a : Str} {ip : Fin (2 ^ 128)}
    (h : canonicalAddress a = some (.v6 ip)) :
    budgetAddress a = textNetwork (Network.around ip 64 (by decide)) := by
  unfold budgetAddress
  rw [h]
  rfl

/-- No text of an IPv4 address is the text of anything that is no IPv4 address. -/
theorem textIPv4_ne {a b : Str} {ip : Fin (2 ^ 32)} (ha : canonicalAddress a = some (.v4 ip))
    (hb : canonicalAddress b = none) : textIPv4 ip ≠ b := by
  rintro rfl
  have hread := canonicalAddress_text ha
  rw [show (IpAddress.v4 ip).text = textIPv4 ip from rfl, hb] at hread
  cases hread

theorem textIPv4_ne_textNetwork (ip : Fin (2 ^ 32)) (network : Network 128) :
    textIPv4 ip ≠ textNetwork network := by
  intro h
  have hslash := slash_mem_textNetwork network
  rw [← h] at hslash
  exact (not_mem_textIPv4 ip).2 hslash

/-- **A budget is shared by exactly the identities that pool.** -/
theorem budgetAddress_eq_iff {a b : Str} : budgetAddress a = budgetAddress b ↔ Pools a b := by
  unfold Pools
  cases ha : canonicalAddress a with
  | none =>
    rw [budgetAddress_of_none ha]
    cases hb : canonicalAddress b with
    | none => rw [budgetAddress_of_none hb]
    | some address =>
      cases address with
      | v4 ip =>
        rw [budgetAddress_of_v4 hb]
        exact ⟨fun h => textIPv4_ne hb ha h.symm, False.elim⟩
      | v6 ip => rw [budgetAddress_of_v6 hb]
  | some address =>
    cases address with
    | v4 ip =>
      rw [budgetAddress_of_v4 ha]
      cases hb : canonicalAddress b with
      | none =>
        rw [budgetAddress_of_none hb]
        exact ⟨textIPv4_ne ha hb, False.elim⟩
      | some address =>
        cases address with
        | v4 ip' =>
          rw [budgetAddress_of_v4 hb]
          exact textIPv4_injective.eq_iff
        | v6 ip' =>
          rw [budgetAddress_of_v6 hb]
          exact ⟨textIPv4_ne_textNetwork ip _, False.elim⟩
    | v6 ip =>
      rw [budgetAddress_of_v6 ha]
      cases hb : canonicalAddress b with
      | none =>
        rw [budgetAddress_of_none hb]
        exact eq_comm
      | some address =>
        cases address with
        | v4 ip' =>
          rw [budgetAddress_of_v4 hb]
          exact ⟨fun h => textIPv4_ne_textNetwork ip' _ h.symm, False.elim⟩
        | v6 ip' =>
          rw [budgetAddress_of_v6 hb]
          exact textNetwork_around

/-- An identity that is no address and not written as an IPv6 network pools with itself alone. -/
theorem pools_text {a b : Str} (ha : canonicalAddress a = none)
    (hnetwork : ∀ network, a ≠ textNetwork network) : Pools a b ↔ a = b := by
  unfold Pools
  rw [ha]
  cases hb : canonicalAddress b with
  | none => exact Iff.rfl
  | some address =>
    have hne : a ≠ b := by
      rintro rfl
      rw [ha] at hb
      cases hb
    cases address with
    | v4 ip => exact ⟨False.elim, fun h => absurd h hne⟩
    | v6 ip => exact ⟨fun h => absurd h (hnetwork _), fun h => absurd h hne⟩

end Identities

/-! ## One budget a key -/

section Keys

theorem colon_not_mem_of_isBudgetName {name : Str} (h : isBudgetName name = true) :
    chr ':' ∉ name := by
  cases name with
  | nil => exact List.not_mem_nil
  | cons c rest =>
    obtain ⟨hc, hrest⟩ := Bool.and_eq_true_iff.1 h
    intro hmem
    rcases List.mem_cons.1 hmem with rfl | hmem
    · revert hc
      decide
    · have hcolon := List.all_eq_true.1 hrest _ hmem
      revert hcolon
      decide

theorem partition_rateLimitKey (budget : RateLimitBudget) (identity : Str) :
    partition (chr ':') (rateLimitKey budget identity) = (budget.name, some identity) := by
  have hname := colon_not_mem_of_isBudgetName budget.name_isBudgetName
  unfold rateLimitKey
  rw [List.append_assoc]
  exact partition_append hname identity

/-- The first colon of a key ends the name of its budget. -/
theorem rateLimitKey_eq_iff {budget budget' : RateLimitBudget} {identity identity' : Str} :
    rateLimitKey budget identity = rateLimitKey budget' identity' ↔
      budget.name = budget'.name ∧ identity = identity' := by
  constructor
  · intro h
    have hcut := congrArg (partition (chr ':')) h
    rw [partition_rateLimitKey, partition_rateLimitKey] at hcut
    exact ⟨congrArg Prod.fst hcut, Option.some.inj (congrArg Prod.snd hcut)⟩
  · rintro ⟨hname, rfl⟩
    unfold rateLimitKey
    rw [hname]

variable {policy : RateLimitPolicy}

theorem RateLimitPolicy.budgetFor_mem (path : Str) : policy.budgetFor path ∈ policy.budgets := by
  unfold RateLimitPolicy.budgetFor
  split
  · rename_i rule hrule
    exact List.mem_cons_of_mem _ (List.mem_map_of_mem (List.mem_of_find?_eq_some hrule))
  · exact List.mem_cons_self

/-- A name names one budget of a policy. -/
theorem RateLimitPolicy.budget_eq {budget budget' : RateLimitBudget}
    (hmem : budget ∈ policy.budgets) (hmem' : budget' ∈ policy.budgets)
    (hname : budget.name = budget'.name) : budget = budget' :=
  List.inj_on_of_nodup_map policy.names_nodup hmem hmem' hname

/-- The budget of the policy that a key names. -/
def RateLimitPolicy.budgetOfKey (policy : RateLimitPolicy) (key : Str) : Option RateLimitBudget :=
  policy.budgets.find? fun budget => budget.name = (partition (chr ':') key).1

theorem RateLimitPolicy.budgetOfKey_rateLimitKey {budget : RateLimitBudget}
    (hmem : budget ∈ policy.budgets) (identity : Str) :
    policy.budgetOfKey (rateLimitKey budget identity) = some budget := by
  unfold RateLimitPolicy.budgetOfKey
  rw [partition_rateLimitKey]
  cases hfind : policy.budgets.find? fun other => other.name = budget.name with
  | none => simpa using List.find?_eq_none.1 hfind budget hmem
  | some found =>
    have hname : found.name = budget.name := by simpa using List.find?_some hfind
    rw [policy.budget_eq (List.mem_of_find?_eq_some hfind) hmem hname]

end Keys

/-! ## Whole runs -/

section Runs

variable {window : Str → ℤ} {backend : SingleProcessRateLimitBackend} (repr : Str → String)

/-- Every stored key has its own window. -/
def KeepsWindows (window : Str → ℤ) (backend : SingleProcessRateLimitBackend) : Prop :=
  ∀ key entry, backend.events key = some entry → entry.windowSeconds = window key

theorem KeepsWindows.sweep (h : KeepsWindows window backend) (now : ℚ) :
    KeepsWindows window (backend.sweepExpiredWhenDue now) := by
  unfold SingleProcessRateLimitBackend.sweepExpiredWhenDue
  split
  · exact h
  · exact fun key entry hentry => h key entry (Option.filter_eq_some_iff.1 hentry).1

theorem KeepsWindows.checked (h : KeepsWindows window backend) {key : Str} {entry : WindowedEvents}
    (hwindow : entry.windowSeconds = window key) (limit windowSeconds : ℤ) (now : ℚ) :
    KeepsWindows window (backend.checked key limit windowSeconds now entry).2 := by
  rw [SingleProcessRateLimitBackend.checked_eq]
  intro other stored hstored
  by_cases hother : other = key
  · rw [hother, SingleProcessRateLimitBackend.events_store] at hstored
    obtain rfl := Option.some.inj hstored
    rw [hother]
    exact hwindow
  · rw [SingleProcessRateLimitBackend.events_store_ne hother] at hstored
    exact h other stored hstored

/-- A call with its key's window is answered, and keeps the windows. -/
theorem KeepsWindows.isAllowed (h : KeepsWindows window backend) {call : LimiterCall}
    (hwindow : call.windowSeconds = window call.key) :
    (∃ allowed, (checkSingleProcess repr backend call).1 = .ok allowed) ∧
      KeepsWindows window (checkSingleProcess repr backend call).2 := by
  have hswept := h.sweep call.now
  unfold checkSingleProcess SingleProcessRateLimitBackend.isAllowed
  dsimp only
  cases hentry : (backend.sweepExpiredWhenDue call.now).events call.key with
  | none => exact ⟨⟨_, rfl⟩, hswept.checked hwindow _ _ _⟩
  | some entry =>
    have hkept := hswept call.key entry hentry
    dsimp only
    rw [if_neg (by rw [hkept, hwindow]; exact not_not.2 rfl)]
    exact ⟨⟨_, rfl⟩, hswept.checked hkept _ _ _⟩

/-- With one window a key, no call is refused as one with another window. -/
theorem answers_ok {calls : List LimiterCall}
    (hcalls : ∀ call ∈ calls, call.windowSeconds = window call.key)
    (h : KeepsWindows window backend) :
    ∀ answer ∈ outcomes (checkSingleProcess repr) backend calls,
      ∃ allowed, answer = .ok allowed := by
  induction calls generalizing backend with
  | nil => exact fun answer hmem => absurd hmem List.not_mem_nil
  | cons call calls ih =>
    obtain ⟨hanswer, hnext⟩ := h.isAllowed repr (hcalls call List.mem_cons_self)
    intro answer hmem
    rcases List.mem_cons.1 hmem with rfl | hmem
    · exact hanswer
    · exact ih (fun other hother => hcalls other (List.mem_cons_of_mem _ hother)) hnext answer hmem

end Runs

/-! ## The statement -/

section Middleware

variable {py : Platform} {middleware : IpRateLimitMiddleware} {request request' : LimitedRequest}
  {ask ask' : LimiterAsk}

/-- What the limiter is asked: the key, limit and window of the request's budget. -/
theorem asks_eq_some (h : middleware.asks py request = .ok (some ask)) :
    ask = ⟨rateLimitKey (middleware.policy.budgetFor (routePath request.scope))
        (budgetAddress (middleware.clientIp py request)),
      (middleware.policy.budgetFor (routePath request.scope)).maxRequests,
      (middleware.policy.budgetFor (routePath request.scope)).windowSeconds⟩ := by
  unfold IpRateLimitMiddleware.asks at h
  dsimp only at h
  split at h
  · cases h
  · cases hconfig : webAuthConfig request.scope with
    | error e =>
      rw [hconfig] at h
      cases h
    | ok config =>
      rw [hconfig] at h
      exact (Option.some.inj (Except.ok.inj h)).symm

/-- A path that is not exempt asks, in a configured process. -/
theorem asks_of_configured {config : Ref WebAuthConfig}
    (hexempt : middleware.policy.isExempt (routePath request.scope) = false)
    (hconfig : webAuthConfig request.scope = .ok config) :
    middleware.asks py request = .ok (some
      ⟨rateLimitKey (middleware.policy.budgetFor (routePath request.scope))
          (budgetAddress (middleware.clientIp py request)),
        (middleware.policy.budgetFor (routePath request.scope)).maxRequests,
        (middleware.policy.budgetFor (routePath request.scope)).windowSeconds⟩) := by
  unfold IpRateLimitMiddleware.asks
  dsimp only
  rw [if_neg (by rw [hexempt]; exact Bool.false_ne_true), hconfig]
  rfl

theorem key_eq_iff (h : middleware.asks py request = .ok (some ask))
    (h' : middleware.asks py request' = .ok (some ask')) :
    ask.key = ask'.key ↔
      (middleware.policy.budgetFor (routePath request.scope)).name =
          (middleware.policy.budgetFor (routePath request'.scope)).name ∧
        Pools (middleware.clientIp py request) (middleware.clientIp py request') := by
  rw [asks_eq_some h, asks_eq_some h', ← budgetAddress_eq_iff]
  exact rateLimitKey_eq_iff

/-- The limit and the window asked for are those of the budget that the key names. -/
theorem budgetOfKey_ask (h : middleware.asks py request = .ok (some ask)) :
    ∃ budget, middleware.policy.budgetOfKey ask.key = some budget ∧
      ask.limit = budget.maxRequests ∧ ask.windowSeconds = budget.windowSeconds := by
  rw [asks_eq_some h]
  exact ⟨_, RateLimitPolicy.budgetOfKey_rateLimitKey (RateLimitPolicy.budgetFor_mem _) _, rfl, rfl⟩

theorem limiterCall_eq_some {timed : LimitedRequest × ℚ} {call : LimiterCall}
    (h : middleware.limiterCall py timed = some call) :
    ∃ ask, middleware.asks py timed.1 = .ok (some ask) ∧
      call = ⟨ask.key, ask.limit, ask.windowSeconds, timed.2⟩ := by
  unfold IpRateLimitMiddleware.limiterCall at h
  split at h
  · rename_i ask hask
    exact ⟨ask, hask, (Option.some.inj h).symm⟩
  · cases h

/-- Every call of a run asks for the limit and the window of the budget that its key names. -/
theorem budgetOfKey_call {requests : List (LimitedRequest × ℚ)} {call : LimiterCall}
    (h : call ∈ middleware.limiterCalls py requests) :
    ∃ budget, middleware.policy.budgetOfKey call.key = some budget ∧
      call.limit = budget.maxRequests ∧ call.windowSeconds = budget.windowSeconds := by
  obtain ⟨timed, -, hcall⟩ := List.mem_filterMap.1 h
  obtain ⟨ask, hask, rfl⟩ := limiterCall_eq_some hcall
  exact budgetOfKey_ask hask

/-- The window of the budget that a key names. -/
def RateLimitPolicy.windowOf (policy : RateLimitPolicy) (key : Str) : ℤ :=
  (policy.budgetOfKey key).elim 0 (·.windowSeconds)

theorem windowSeconds_call {requests : List (LimitedRequest × ℚ)} {call : LimiterCall}
    (h : call ∈ middleware.limiterCalls py requests) :
    call.windowSeconds = middleware.policy.windowOf call.key := by
  obtain ⟨budget, hbudget, -, hwindow⟩ := budgetOfKey_call h
  unfold RateLimitPolicy.windowOf
  rw [hbudget]
  exact hwindow

/-- What the keys of a middleware separate. -/
structure SeparatesClients (py : Platform) (middleware : IpRateLimitMiddleware) : Prop where
  /-- Equal keys are those of one budget and of identities that pool. -/
  keys : ∀ request request' ask ask', middleware.asks py request = .ok (some ask) →
    middleware.asks py request' = .ok (some ask') →
    (ask.key = ask'.key ↔
      (middleware.policy.budgetFor (routePath request.scope)).name =
          (middleware.policy.budgetFor (routePath request'.scope)).name ∧
        Pools (middleware.clientIp py request) (middleware.clientIp py request'))
  /-- An exempt path asks nothing, whatever the limiter would say. -/
  exempt : ∀ request, middleware.policy.isExempt (routePath request.scope) = true →
    middleware.asks py request = .ok none ∧
      ∀ isAllowed, middleware.refusal py isAllowed request = .ok none
  /-- Any other path of a configured process asks. -/
  spends : ∀ request config, middleware.policy.isExempt (routePath request.scope) = false →
    webAuthConfig request.scope = .ok config → ∃ ask, middleware.asks py request = .ok (some ask)
  /-- Over any run, one key is checked with one limit and one window. -/
  oneWindow : ∀ requests, ∀ call ∈ middleware.limiterCalls py requests,
    ∀ call' ∈ middleware.limiterCalls py requests, call.key = call'.key →
      call.limit = call'.limit ∧ call.windowSeconds = call'.windowSeconds
  /-- Over any run, a new backend of one process answers every call. -/
  answered : ∀ repr requests, ∀ answer ∈ answers repr (middleware.limiterCalls py requests),
    ∃ allowed, answer = .ok allowed

/-- **Rate-limit keys separate exactly the right clients and budgets.** An identity that is no
address and not written as an IPv6 network pools with the identical text alone. -/
theorem rate_limit_keys (py : Platform) (middleware : IpRateLimitMiddleware) :
    SeparatesClients py middleware ∧
      ∀ a b, canonicalAddress a = none → (∀ network, a ≠ textNetwork network) →
        (Pools a b ↔ a = b) := by
  refine ⟨⟨fun request request' ask ask' h h' => key_eq_iff h h', fun request hexempt => ?_,
    fun request config hexempt hconfig => ?_, fun requests call hcall call' hcall' hkey => ?_,
    fun repr requests => ?_⟩, fun a b ha hnetwork => pools_text ha hnetwork⟩
  · have hasks : middleware.asks py request = .ok none := if_pos hexempt
    refine ⟨hasks, fun isAllowed => ?_⟩
    unfold IpRateLimitMiddleware.refusal
    rw [hasks]
    rfl
  · exact ⟨_, asks_of_configured hexempt hconfig⟩
  · obtain ⟨budget, hbudget, hlimit, hwindow⟩ := budgetOfKey_call hcall
    obtain ⟨budget', hbudget', hlimit', hwindow'⟩ := budgetOfKey_call hcall'
    rw [hkey, hbudget'] at hbudget
    obtain rfl := Option.some.inj hbudget
    exact ⟨hlimit.trans hlimit'.symm, hwindow.trans hwindow'.symm⟩
  · refine answers_ok repr (fun call hcall => windowSeconds_call hcall) ?_
    exact fun key entry hentry => absurd hentry (Option.some_ne_none entry).symm

end Middleware

end WebAuth
