import EchoProbe.Radix

/-!
# Spans and points of time

Time is counted in whole nanoseconds, and both kinds of quantity are bounded.

* `Duration` is a span of time whose whole seconds fit in 64 bits; `Duration.add?` refuses a sum
  that does not fit, `Duration.scale` stops at the longest span;
* `Instant` is a point of time within 2^63 seconds of the epoch; `Instant.after?` is the instant
  a given span after the epoch, `Instant.since?` the span from an earlier instant.
-/

namespace EchoProbe

/-- A span of time in whole nanoseconds. -/
structure Duration where
  /-- The number of nanoseconds. -/
  nanos : Nat
  /-- The whole seconds fit in 64 bits. -/
  nanos_lt : nanos < 2 ^ 64 * 10 ^ 9
deriving DecidableEq

namespace Duration

/-- No time at all. -/
def zero : Duration := ⟨0, by decide⟩

/-- The longest span. -/
def longest : Duration := ⟨2 ^ 64 * 10 ^ 9 - 1, by decide⟩

instance : Inhabited Duration := ⟨zero⟩

/-- The span of `n` nanoseconds, if it is short enough. -/
def ofNanos? (n : Nat) : Option Duration :=
  if h : n < 2 ^ 64 * 10 ^ 9 then some ⟨n, h⟩ else none

/-- The span of `ms` milliseconds. -/
def ofMillis (ms : UInt64) : Duration :=
  ⟨ms.toNat * 10 ^ 6, by have := ms.toNat_lt; omega⟩

/-- The whole milliseconds of a span. -/
def toMillis (d : Duration) : Nat := d.nanos / 10 ^ 6

/-- The sum of two spans, if it is short enough. -/
def add? (a b : Duration) : Option Duration := ofNanos? (a.nanos + b.nanos)

/-- `k` times a span, or the longest span if that is too long. -/
def scale (d : Duration) (k : Nat) : Duration :=
  ⟨min (d.nanos * k) (2 ^ 64 * 10 ^ 9 - 1), by omega⟩

instance : LT Duration := ⟨fun a b => a.nanos < b.nanos⟩

instance : LE Duration := ⟨fun a b => a.nanos ≤ b.nanos⟩

instance (a b : Duration) : Decidable (a < b) := inferInstanceAs (Decidable (a.nanos < b.nanos))

instance (a b : Duration) : Decidable (a ≤ b) := inferInstanceAs (Decidable (a.nanos ≤ b.nanos))

/-- A span in seconds: the whole seconds and the rest are rounded apart and then added. -/
def toSeconds (d : Duration) : Float :=
  (d.nanos / 10 ^ 9).toUInt64.toFloat + (d.nanos % 10 ^ 9).toUInt64.toFloat / 1e9

/-- A span in milliseconds, with its fraction. -/
def toFractionalMillis (d : Duration) : Float := d.toSeconds * 1000

@[ext] theorem ext {a b : Duration} (h : a.nanos = b.nanos) : a = b := by
  cases a; cases b; cases h; rfl

theorem ofNanos?_eq_some_iff {n : Nat} {d : Duration} : ofNanos? n = some d ↔ d.nanos = n := by
  unfold ofNanos?
  split
  · simp only [Option.some.injEq]
    exact ⟨fun h => h ▸ rfl, fun h => by cases d; cases h; rfl⟩
  · rename_i h
    simp only [reduceCtorEq, false_iff]
    exact fun e => h (e ▸ d.nanos_lt)

theorem add?_eq_some_iff {a b c : Duration} :
    a.add? b = some c ↔ c.nanos = a.nanos + b.nanos := ofNanos?_eq_some_iff

theorem exists_add? {a b : Duration} (h : a.nanos + b.nanos < 2 ^ 64 * 10 ^ 9) :
    ∃ c, a.add? b = some c := ⟨_, dif_pos h⟩

end Duration

/-- A point of time, in nanoseconds from the epoch. -/
structure Instant where
  /-- Nanoseconds since the epoch, negative before it. -/
  nanos : Int
  /-- No earlier than 2^63 seconds before the epoch. -/
  le_nanos : -(2 ^ 63 * 10 ^ 9) ≤ nanos
  /-- Earlier than 2^63 seconds after the epoch. -/
  nanos_lt : nanos < 2 ^ 63 * 10 ^ 9
deriving DecidableEq

namespace Instant

/-- The epoch itself. -/
def epoch : Instant := ⟨0, by decide, by decide⟩

/-- The instant `n` nanoseconds after the epoch, if it is near enough. -/
def ofNanos? (n : Int) : Option Instant :=
  if h : -(2 ^ 63 * 10 ^ 9) ≤ n ∧ n < 2 ^ 63 * 10 ^ 9 then some ⟨n, h.1, h.2⟩ else none

/-- The instant one span after the epoch, if it is near enough. -/
def after? (d : Duration) : Option Instant := ofNanos? d.nanos

/-- The span from `earlier` to `later`, unless they are the other way round. -/
def since? (later earlier : Instant) : Option Duration :=
  if earlier.nanos ≤ later.nanos then
    some ⟨(later.nanos - earlier.nanos).toNat, by
      have := later.nanos_lt
      have := earlier.le_nanos
      omega⟩
  else none

theorem lt_of_after? {d : Duration} {t : Instant} (h : after? d = some t) :
    t.nanos = d.nanos ∧ d.nanos < 2 ^ 63 * 10 ^ 9 := by
  unfold after? ofNanos? at h
  split at h
  · rename_i hd
    cases h
    exact ⟨rfl, by omega⟩
  · cases h

theorem exists_after? {d : Duration} (h : d.nanos < 2 ^ 63 * 10 ^ 9) : ∃ t, after? d = some t := by
  have hd : -(2 ^ 63 * 10 ^ 9) ≤ (d.nanos : Int) ∧ (d.nanos : Int) < 2 ^ 63 * 10 ^ 9 := by omega
  rw [after?, ofNanos?, dif_pos hd]
  exact ⟨_, rfl⟩

end Instant

end EchoProbe
