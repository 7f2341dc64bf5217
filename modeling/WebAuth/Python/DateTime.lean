import Mathlib

/-!
# Instants of the calendar

A `datetime` is a wall time in microseconds since 1970 on its own clock, with the offset from UTC
it names, if any. The calendar ends with year 9999, and arithmetic that leaves it raises.
-/

namespace Python

/-- The wall times a `datetime` can hold, years 1 to 9999. -/
def InCalendar (wall : ℤ) : Prop :=
  -62135596800 * 1000000 ≤ wall ∧ wall < 253402300800 * 1000000

instance (wall : ℤ) : Decidable (InCalendar wall) := inferInstanceAs (Decidable (_ ∧ _))

/-- A `datetime`. -/
structure DateTime where
  wall : ℤ
  utcoffset : Option ℤ
  inCalendar : InCalendar wall

/-- A number of seconds in microseconds, the unit of instants and of time deltas. -/
def seconds (n : ℤ) : ℤ := n * 1000000

/-- A `datetime` at a wall time, when the calendar holds it. -/
def DateTime.at (wall : ℤ) (utcoffset : Option ℤ) : Option DateTime :=
  if h : InCalendar wall then some ⟨wall, utcoffset, h⟩ else none

/-- `datetime.fromtimestamp(n, UTC)` for a whole number of seconds. -/
def DateTime.fromTimestamp (n : ℤ) : Option DateTime := DateTime.at (seconds n) (some 0)

/-- `stored.replace(tzinfo=UTC)`, and the time itself when it names its offset. -/
def DateTime.pinned (t : DateTime) : DateTime := ⟨t.wall, some (t.utcoffset.getD 0), t.inCalendar⟩

/-- The instant in microseconds since 1970 UTC. Two times that name their offsets compare and
subtract by it. -/
def DateTime.instant (t : DateTime) : ℤ := t.wall - t.utcoffset.getD 0

/-- `t + delta`; `none` is `OverflowError`. -/
def DateTime.add (t : DateTime) (delta : ℤ) : Option DateTime :=
  DateTime.at (t.wall + delta) t.utcoffset

/-- `int(x)` of a finite float: towards zero. -/
def truncate (x : ℚ) : ℤ := if 0 ≤ x then ⌊x⌋ else ⌈x⌉

/-- The first integer that no double holds: its nearest would be `2 ^ 1024`. -/
@[irreducible] def floatBound : ℕ := 2 ^ 1024 - 2 ^ 970

/-- Whether `float(n)` holds an integer, rounded to 53 bits. -/
def FitsFloat (n : ℤ) : Prop := n.natAbs < floatBound

instance (n : ℤ) : Decidable (FitsFloat n) := inferInstanceAs (Decidable (_ < _))

@[simp] theorem DateTime.pinned_instant (t : DateTime) : t.pinned.instant = t.instant := rfl

theorem DateTime.fromTimestamp_eq_some {n : ℤ} {t : DateTime}
    (h : DateTime.fromTimestamp n = some t) :
    t.wall = seconds n ∧ t.utcoffset = some 0 ∧ InCalendar (seconds n) := by
  unfold DateTime.fromTimestamp DateTime.at at h
  split_ifs at h with hc
  obtain rfl := Option.some.inj h
  exact ⟨rfl, rfl, hc⟩

theorem DateTime.add_instant {t u : DateTime} {delta : ℤ} (h : t.add delta = some u) :
    u.instant = t.instant + delta := by
  unfold DateTime.add DateTime.at at h
  split_ifs at h with hc
  obtain rfl := Option.some.inj h
  simp only [DateTime.instant]
  ring

theorem DateTime.add_eq_none {t : DateTime} {delta : ℤ} :
    t.add delta = none ↔ ¬ InCalendar (t.wall + delta) := by
  unfold DateTime.add DateTime.at
  split_ifs with hc <;> simp [hc]

theorem DateTime.fromTimestamp_eq_none {n : ℤ} :
    DateTime.fromTimestamp n = none ↔ ¬ InCalendar (seconds n) := by
  unfold DateTime.fromTimestamp DateTime.at
  split_ifs with hc <;> simp [hc]

end Python
