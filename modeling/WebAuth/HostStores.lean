import WebAuth.Effects.Serial
import WebAuth.SessionStore
import WebAuth.TokenHolders

/-!
# The host's stores and their entries

The accounts, the sessions and the audit of a host, as their ports describe them, and the entries
that serialize the library's calls to them. Whether an entry that an exception passes keeps what it
wrote is the host's decision, so it is a parameter.
-/

namespace WebAuth

open Python Effects Program

/-! ## The stores -/

/-- A stored session. Its account is named by id. -/
structure HeldSession where
  id : Str
  userId : Str
  createdAt : DateTime
  expiresAt : DateTime
  refreshToken : Option Str
  idToken : Option Str

/-- What a host stores: one account under each id, sessions with ids of their own in the order of
their creation, and the events the audit recorded. -/
structure Stores where
  accounts : Str → Option UserRecord
  sessions : List HeldSession
  events : List AccountEvent
  accounts_id : ∀ id account, accounts id = some account → account.id = id
  sessions_nodup : (sessions.map (·.id)).Nodup

/-- The sessions of an account. -/
def sessionsOf (userId : Str) (sessions : List HeldSession) : List HeldSession :=
  sessions.filter fun session => session.userId = userId

/-- The record of a stored session: what the row holds, with the account it belongs to. -/
structure Records (session : HeldSession) (record : SessionRecord) : Prop where
  id : record.id = session.id
  user : record.user.id = session.userId
  createdAt : record.createdAt = session.createdAt
  expiresAt : record.expiresAt = session.expiresAt
  refreshToken : record.refreshToken = session.refreshToken
  idToken : record.idToken = session.idToken

/-- `kept` are `keepNewest` of some sessions, or all when there are fewer, and none that goes was
created after one that stays. -/
structure Newest (keepNewest : ℕ) (all kept : List HeldSession) : Prop where
  sublist : kept.Sublist all
  length : kept.length = min keepNewest all.length
  newest : ∀ stays ∈ kept, ∀ goes ∈ all, goes ∉ kept →
    goes.createdAt.instant ≤ stays.createdAt.instant

namespace Stores

variable (s : Stores)

/-- The stores after an account was written. -/
def written (account : UserRecord) : Stores where
  accounts := Function.update s.accounts account.id (some account)
  sessions := s.sessions
  events := s.events
  accounts_id id other h := by
    by_cases hid : id = account.id
    · subst hid
      rw [Function.update_self] at h
      rw [Option.some.inj h]
    · rw [Function.update_of_ne hid] at h
      exact s.accounts_id id other h
  sessions_nodup := s.sessions_nodup

/-- The stores after an event was recorded. -/
def audited (event : AccountEvent) : Stores := { s with events := s.events ++ [event] }

/-- The stores after sessions ended. -/
def keeping (keeps : HeldSession → Bool) : Stores :=
  { s with
    sessions := s.sessions.filter keeps
    sessions_nodup := s.sessions_nodup.sublist (List.filter_sublist.map _) }

/-- The stores after sessions changed in place; each keeps its id. -/
def changing (f : HeldSession → HeldSession) (h : ∀ session, (f session).id = session.id) :
    Stores :=
  { s with
    sessions := s.sessions.map f
    sessions_nodup := by
      rw [List.map_map, show (HeldSession.id ∘ f) = HeldSession.id from funext h]
      exact s.sessions_nodup }

/-- The stores after a session with a new id was opened. -/
def opened (session : HeldSession) (h : session.id ∉ s.sessions.map (·.id)) : Stores :=
  { s with
    sessions := s.sessions ++ [session]
    sessions_nodup := by
      rw [List.map_append, List.nodup_append]
      refine ⟨s.sessions_nodup, by simp, ?_⟩
      rintro id hid _ hnew rfl
      rw [List.map_singleton, List.mem_singleton] at hnew
      exact h (hnew ▸ hid) }

end Stores

/-- A stored session renewed, when it has the id. -/
def HeldSession.renewed (id : Str) (expiresAt : DateTime) (session : HeldSession) :
    HeldSession :=
  if session.id = id then { session with expiresAt } else session

/-- A stored session with another refresh token, when it has the id. -/
def HeldSession.rotated (id token : Str) (session : HeldSession) : HeldSession :=
  if session.id = id then { session with refreshToken := some token } else session

theorem HeldSession.renewed_id (id : Str) (expiresAt : DateTime) (session : HeldSession) :
    (session.renewed id expiresAt).id = session.id := by
  unfold HeldSession.renewed
  split <;> rfl

theorem HeldSession.rotated_id (id token : Str) (session : HeldSession) :
    (session.rotated id token).id = session.id := by
  unfold HeldSession.rotated
  split <;> rfl

/-- The ports of the stores: a call that raises changes nothing, and every call that reaches no
store may get any answer. -/
def storeCalls : Handler Stores hostCalls Exn
  | s, _, .error e, s' => e.isPrivate = false ∧ s' = s
  | s, .load id, .ok record, s' => s' = s ∧
      Option.Rel Records (s.sessions.find? fun session => session.id = id) record
  | s, .touch id expiresAt, .ok answer, s' =>
      answer = .bool (s.sessions.any fun session => session.id = id) ∧
      s' = s.changing (.renewed id expiresAt) (HeldSession.renewed_id id expiresAt)
  | s, .replaceRefreshToken id token, .ok answer, s' =>
      answer = .bool (s.sessions.any fun session => session.id = id) ∧
      s' = s.changing (.rotated id token) (HeldSession.rotated_id id token)
  | s, .create userId now expiresAt refreshToken idToken, .ok record, s' =>
      ∃ h, s' = s.opened ⟨record.id, userId, now, expiresAt, refreshToken, idToken⟩ h ∧
        Records ⟨record.id, userId, now, expiresAt, refreshToken, idToken⟩ record
  | s, .delete id, .ok _, s' => s' = s.keeping fun session => session.id ≠ id
  | s, .deleteForUser userId, .ok ended, s' => ended = (sessionsOf userId s.sessions).length ∧
      s' = s.keeping fun session => session.userId ≠ userId
  | s, .pruneOverflow userId keepNewest, .ok _, s' => ∃ keeps, s' = s.keeping keeps ∧
      (∀ session, session.userId ≠ userId → keeps session = true) ∧
      Newest keepNewest (sessionsOf userId s.sessions) (sessionsOf userId s'.sessions)
  | s, .getAccount userId, .ok found, s' => s' = s ∧ found = s.accounts userId
  | s, .createForSubject subject username role, .ok account, s' => s.accounts subject = none ∧
      account = ⟨subject, username, role⟩ ∧ s' = s.written account
  | s, .setRole userId role, .ok account, s' => ∃ known, s.accounts userId = some known ∧
      account = { known with role } ∧ s' = s.written account
  | s, .accountEvent event, .ok _, s' => s' = s.audited event
  | s, _, .ok _, s' => s' = s

/-! ## Entries -/

/-- What the stores hold, and what the last entry found. -/
@[ext] structure HostState where
  now : Stores
  found : Stores

/-- The host: an entry finds what the stores hold. It ends with what its block made of it, unless
an exception passes it, which `undone` decides by whether the block returned, what the entry found
and what the block made of it. -/
def hostStores (undone : Bool → Stores → Stores → Stores → Prop) : Handler HostState hostCalls Exn
  | s, .enter _, .ok _, s' => s' = ⟨s.now, s.now⟩
  | s, .leave _ returned, ans, s' => s'.found = s.found ∧
      (∀ e, ans = .error e → e.isPrivate = false) ∧
      if returned = true ∧ ans = .ok () then s'.now = s.now
      else undone returned s.found s.now s'.now
  | s, c, ans, s' => s'.found = s.found ∧ storeCalls s.now c ans s'.now

end WebAuth
