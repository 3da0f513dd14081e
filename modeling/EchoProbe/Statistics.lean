import EchoProbe.Time

/-!
# Statistics of round trip times

* `extremes` finds the least and the greatest of a list for any comparison, looking at its
  elements in pairs;
* `Statistics.ofSamples?` adds mean and mean deviation, `Statistics.ofDurations?` does so for
  spans of time, in milliseconds;
* `Summary` is the final tally of a measurement, `lossPercent` the share of lost probes.

`extremes` is the scan for both ends at once with three comparisons to two elements: the elements
of a pair are compared with each other, then the lesser with the least so far and the other with the
greatest so far. Of equal elements the first stays the least and the last becomes the greatest.
-/

namespace EchoProbe

variable {α : Type}

/-- Widens the bounds `lo` and `hi` so that they hold the elements of a list as well: of each two
elements the lesser is compared with `lo` and the other with `hi`. -/
def widen (lt : α → α → Bool) : α × α → List α → α × α
  | bounds, [] => bounds
  | (lo, hi), [x] => if lt x lo then (x, hi) else if !lt x hi then (lo, x) else (lo, hi)
  | (lo, hi), x :: y :: rest =>
    let (a, b) := if lt y x then (y, x) else (x, y)
    widen lt (if lt a lo then a else lo, if !lt b hi then b else hi) rest

/-- The least and the greatest element of a list, if it has any. -/
def extremes (lt : α → α → Bool) : List α → Option (α × α)
  | [] => none
  | [x] => some (x, x)
  | x :: y :: rest => some (widen lt (if lt y x then (y, x) else (x, y)) rest)

theorem extremes_eq_none_iff {lt : α → α → Bool} {xs : List α} :
    extremes lt xs = none ↔ xs = [] := by
  unfold extremes; split <;> simp

/-- The sum of some numbers, from left to right, starting at the negative zero, which adds nothing
to any number. -/
def total (xs : List Float) : Float := xs.foldl (· + ·) (-0.0)

/-- The mean of some numbers. -/
def mean (xs : List Float) : Float := total xs / xs.length.toUInt64.toFloat

/-- Statistics of some samples. -/
structure Statistics where
  /-- The least sample. -/
  min : Float
  /-- The greatest sample. -/
  max : Float
  /-- The mean of the samples. -/
  mean : Float
  /-- The mean distance of the samples from their mean. -/
  meanDeviation : Float

namespace Statistics

/-- The statistics of some samples, if there are any. -/
def ofSamples? (xs : List Float) : Option Statistics :=
  (extremes (fun x y => x < y) xs).map fun (min, max) =>
    let m := EchoProbe.mean xs
    ⟨min, max, m, EchoProbe.mean (xs.map fun x => (x - m).abs)⟩

/-- The statistics of some spans of time in milliseconds, if there are any. -/
def ofDurations? (ds : List Duration) : Option Statistics :=
  ofSamples? (ds.map Duration.toFractionalMillis)

theorem ofSamples?_eq_none_iff {xs : List Float} : ofSamples? xs = none ↔ xs = [] := by
  simp [ofSamples?, extremes_eq_none_iff]

theorem ofDurations?_eq_none_iff {ds : List Duration} : ofDurations? ds = none ↔ ds = [] := by
  simp [ofDurations?, ofSamples?_eq_none_iff]

end Statistics

/-- The share of `losses` among `transmitted` probes, in percent. -/
def lossPercent (transmitted losses : Nat) : Float :=
  if transmitted = 0 then 0 else losses.toUInt64.toFloat / transmitted.toUInt64.toFloat * 100

/-- The tally of a measurement. -/
structure Summary where
  /-- The number of probes sent. -/
  transmitted : Nat
  /-- The number of probes that drew a reply, from the target or from elsewhere. -/
  received : Nat
  /-- The number of probes that drew no reply in time. -/
  losses : Nat
  /-- The statistics of the round trips to the target, if there were any. -/
  roundTrips : Option Statistics

/-- The share of lost probes, in percent. -/
def Summary.lossPercent (s : Summary) : Float := EchoProbe.lossPercent s.transmitted s.losses

end EchoProbe
