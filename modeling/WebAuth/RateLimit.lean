import WebAuth.Python.Text
import WebAuth.Refusals
import WebAuth.SlidingWindow

/-!
# The two limiter backends

One keeps the timestamps of every key in this process and sweeps the aged keys from time to time,
the other runs one script on a Redis server. Clock readings are exact, and each check takes one.
-/

namespace WebAuth

open Python

/-! ## In one process -/

/-- `_PRUNE_INTERVAL_SECONDS`. -/
def pruneIntervalSeconds : ℚ := 60

/-- `_WindowedEvents`. -/
structure WindowedEvents where
  windowSeconds : ℤ
  timestamps : List ℚ := []

/-- `SingleProcessRateLimitBackend`; its lock makes every check one step. -/
structure SingleProcessRateLimitBackend where
  events : Str → Option WindowedEvents := fun _ => none
  nextPruneAt : ℚ := 0

/-- Whether a sweep deletes an entry: it holds no timestamp, or the last is out of its window. -/
def WindowedEvents.isExpired (entry : WindowedEvents) (now : ℚ) : Bool :=
  entry.timestamps.getLast?.all fun last => last + entry.windowSeconds ≤ now

namespace SingleProcessRateLimitBackend

/-- A sweep of the whole store. -/
def sweep (backend : SingleProcessRateLimitBackend) (now : ℚ) : SingleProcessRateLimitBackend where
  events key := (backend.events key).filter fun entry => !entry.isExpired now
  nextPruneAt := now + pruneIntervalSeconds

/-- `_sweep_expired_when_due`. -/
def sweepExpiredWhenDue (backend : SingleProcessRateLimitBackend) (now : ℚ) :
    SingleProcessRateLimitBackend :=
  if now < backend.nextPruneAt then backend else backend.sweep now

/-- The store with the entry of a key. -/
def store (backend : SingleProcessRateLimitBackend) (key : Str) (entry : WindowedEvents) :
    SingleProcessRateLimitBackend :=
  { backend with events := Function.update backend.events key (some entry) }

/-- What `is_allowed` makes of the entry of its key: it trims it to its window, and records the
check when the limit allows it. -/
def checked (backend : SingleProcessRateLimitBackend) (key : Str) (limit windowSeconds : ℤ)
    (now : ℚ) (entry : WindowedEvents) : Bool × SingleProcessRateLimitBackend :=
  let timestamps := entry.timestamps.filter fun stamp => now - windowSeconds < stamp
  if limit ≤ timestamps.length then (false, backend.store key { entry with timestamps })
  else (true, backend.store key { entry with timestamps := timestamps ++ [now] })

/-- `is_allowed` at one reading of the clock; `repr` writes a key in the message of the error. -/
def isAllowed (repr : Str → String) (backend : SingleProcessRateLimitBackend) (key : Str)
    (limit windowSeconds : ℤ) (now : ℚ) : Except Exn Bool × SingleProcessRateLimitBackend :=
  let swept := backend.sweepExpiredWhenDue now
  match swept.events key with
  | none =>
    let (allowed, next) := swept.checked key limit windowSeconds now { windowSeconds }
    (.ok allowed, next)
  | some entry =>
    if entry.windowSeconds ≠ windowSeconds then
      (.error (.valueError (s!"Key {repr key} was created with a {entry.windowSeconds}s window " ++
        s!"and cannot be checked against a {windowSeconds}s one.")), swept)
    else
      let (allowed, next) := swept.checked key limit windowSeconds now entry
      (.ok allowed, next)

end SingleProcessRateLimitBackend

/-! ## On a Redis server -/

/-- A sorted set, by its scores and members, with the time its key is dropped at. -/
structure SortedSet where
  members : List (ℚ × Str) := []
  expireAt : Option ℚ := none

/-- The keys of a Redis server that hold sorted sets. -/
abbrev Redis := Str → Option SortedSet

namespace Redis

/-- What the server still holds at a time: `EXPIRE` drops a key once its time is reached. -/
def atTime (redis : Redis) (now : ℚ) : Redis := fun key =>
  (redis key).filter fun set => set.expireAt.all fun t => now < t

/-- `ZREMRANGEBYSCORE key lo hi`. A set left empty is deleted with its key. -/
def zremrangebyscore (redis : Redis) (key : Str) (lo hi : ℚ) : Redis :=
  Function.update redis key ((redis key).bind fun set =>
    let members := set.members.filter fun m => !(lo ≤ m.1 && m.1 ≤ hi)
    if members = [] then none else some { set with members })

/-- `ZCARD key`. -/
def zcard (redis : Redis) (key : Str) : ℤ := (redis key).elim 0 fun set => set.members.length

/-- `ZADD key score member`: a member that is there gets the score. -/
def zadd (redis : Redis) (key : Str) (score : ℚ) (member : Str) : Redis :=
  let set := (redis key).getD {}
  Function.update redis key
    (some { set with members := (set.members.filter fun m => m.2 ≠ member) ++ [(score, member)] })

/-- `EXPIRE key seconds` at a time. -/
def expire (redis : Redis) (key : Str) (seconds : ℤ) (now : ℚ) : Redis :=
  Function.update redis key ((redis key).map fun set => { set with expireAt := some (now + seconds) })

/-- `_LUA_SLIDING_WINDOW` with `now` as its reading of `TIME`: the count it returns. -/
def luaSlidingWindow (redis : Redis) (key : Str) (window maxRequests : ℤ) (member : Str)
    (now : ℚ) : ℤ × Redis :=
  let trimmed := (redis.atTime now).zremrangebyscore key 0 (now - window)
  let count := trimmed.zcard key
  if maxRequests ≤ count then (count + 1, trimmed)
  else (count + 1, (trimmed.zadd key now member).expire key window now)

end Redis

/-- `RedisRateLimitBackend`: the namespace of its keys; the server is shared. -/
structure RedisRateLimitBackend where
  keyPrefix : Str

/-- The key a check uses on the server. -/
def RedisRateLimitBackend.redisKey (backend : RedisRateLimitBackend) (key : Str) : Str :=
  backend.keyPrefix ++ str ":" ++ key

/-- `is_allowed`; `member` is the hex of a fresh UUID. -/
def RedisRateLimitBackend.isAllowed (backend : RedisRateLimitBackend) (redis : Redis) (key : Str)
    (limit windowSeconds : ℤ) (member : Str) (now : ℚ) : Bool × Redis :=
  let (count, redis) := redis.luaSlidingWindow (backend.redisKey key) windowSeconds limit member now
  (count ≤ limit, redis)

end WebAuth
