import EchoProbe.Config
import Mathlib.Order.Bounds.Basic

/-!
# How many probes fit in the timeout

The probes of a burst are an interval apart. The window holds as many as can be spaced so within
the timeout, but one at least and no more than are asked for.

* `Config.le_window_iff` says which numbers of probes the window has room for, and all that is
  known of the window follows from it;
* `Duration.wideNanos` counts nanoseconds in a word of 128 bits, and `Config.wordWindow` computes
  the window in machine words: division in 128 bits, everything else in 64;
* `Config.window_greatest` puts together that the window is the largest that fits, that it grows
  with count and timeout and shrinks with the interval, and that the words lose nothing.
-/

namespace EchoProbe

namespace Config

/-- The numbers of probes that may be on their way at once: one always may, and several may if as
many intervals fit in the timeout. -/
def feasible (c : Config) : Set Nat :=
  {b | 1 ≤ b ∧ b ≤ c.count.toNat ∧ (b = 1 ∨ b * c.interval.nanos ≤ c.timeout.nanos)}

/-- **The window has room for one probe, and for as many as intervals fit in the timeout.** -/
theorem le_window_iff {c : Config} {b : Nat} :
    b ≤ c.window ↔
      b ≤ c.count.toNat ∧ (b ≤ 1 ∨ b * c.interval.nanos ≤ c.timeout.nanos) := by
  unfold window
  split
  · rename_i hz
    simp [hz]
  · rename_i hz
    have hdiv := Nat.le_div_iff_mul_le (x := b) (y := c.timeout.nanos) (Nat.pos_of_ne_zero hz)
    rw [← hdiv]
    omega

theorem window_eq_zero {c : Config} (h : c.count.toNat = 0) : c.window = 0 :=
  Nat.eq_zero_of_le_zero (h ▸ c.window_le_count)

theorem window_eq_count {c : Config} (h : c.interval.nanos = 0) : c.window = c.count.toNat :=
  if_pos h

theorem isGreatest_window {c : Config} (h : 0 < c.count.toNat) :
    IsGreatest c.feasible c.window := by
  constructor
  · obtain ⟨hcount, hfits⟩ := le_window_iff.1 (Nat.le_refl c.window)
    have hpos := window_pos h
    refine ⟨hpos, hcount, hfits.imp_left ?_⟩
    intro hle
    exact Nat.le_antisymm hle hpos
  · rintro b ⟨-, hcount, hfits⟩
    exact le_window_iff.2 ⟨hcount, hfits.imp_left Nat.le_of_eq⟩

/-- More probes, more patience and a shorter interval leave no less room. -/
theorem window_le_window {c c' : Config} (hcount : c.count ≤ c'.count)
    (htimeout : c.timeout ≤ c'.timeout) (hinterval : c'.interval ≤ c.interval) :
    c.window ≤ c'.window := by
  obtain ⟨hle, hfits⟩ := le_window_iff.1 (Nat.le_refl c.window)
  refine le_window_iff.2 ⟨Nat.le_trans hle (UInt64.le_iff_toNat_le.1 hcount), ?_⟩
  refine hfits.imp_right fun h => ?_
  calc c.window * c'.interval.nanos
    _ ≤ c.window * c.interval.nanos := Nat.mul_le_mul_left _ hinterval
    _ ≤ c.timeout.nanos := h
    _ ≤ c'.timeout.nanos := htimeout

/-- A burst that fits in the window is over within the timeout, or within one interval. -/
theorem mul_interval_le_max {c : Config} {b : Nat} (h : b ≤ c.window) :
    b * c.interval.nanos ≤ max c.interval.nanos c.timeout.nanos := by
  rcases (le_window_iff.1 h).2 with hone | hfits
  · exact Nat.le_trans (Nat.mul_le_mul_right _ hone) (by omega)
  · exact Nat.le_trans hfits (Nat.le_max_right _ _)

end Config

/-! ### In machine words -/

namespace Duration

/-- The whole seconds of a span. -/
def seconds (d : Duration) : UInt64 := .ofNat (d.nanos / 10 ^ 9)

/-- The nanoseconds of a span beyond its whole seconds. -/
def subsecNanos (d : Duration) : UInt32 := .ofNat (d.nanos % 10 ^ 9)

/-- The nanoseconds of a span in a word of 128 bits. -/
def wideNanos (d : Duration) : BitVec 128 :=
  d.seconds.toBitVec.setWidth 128 * 1000000000#128 + d.subsecNanos.toBitVec.setWidth 128

theorem toNat_seconds (d : Duration) : d.seconds.toNat = d.nanos / 10 ^ 9 := by
  have h := d.nanos_lt
  exact UInt64.toNat_ofNat_of_lt' (by simp only [UInt64.size]; omega)

theorem toNat_subsecNanos (d : Duration) : d.subsecNanos.toNat = d.nanos % 10 ^ 9 :=
  UInt32.toNat_ofNat_of_lt' (by simp only [UInt32.size]; omega)

theorem toNat_wideNanos (d : Duration) : d.wideNanos.toNat = d.nanos := by
  have h := d.nanos_lt
  have hsecs : (d.seconds.toBitVec.setWidth 128).toNat = d.nanos / 10 ^ 9 := by
    rw [BitVec.toNat_setWidth, UInt64.toNat_toBitVec, toNat_seconds]
    exact Nat.mod_eq_of_lt (by omega)
  have hrest : (d.subsecNanos.toBitVec.setWidth 128).toNat = d.nanos % 10 ^ 9 := by
    rw [BitVec.toNat_setWidth, UInt32.toNat_toBitVec, toNat_subsecNanos]
    exact Nat.mod_eq_of_lt (by omega)
  rw [wideNanos, BitVec.toNat_add, BitVec.toNat_mul, hsecs, hrest]
  simp only [BitVec.toNat_ofNat]
  omega

theorem parts_eq_zero_iff (d : Duration) :
    d.seconds = 0 ∧ d.subsecNanos = 0 ↔ d.nanos = 0 := by
  rw [← UInt64.toNat_inj, ← UInt32.toNat_inj, toNat_seconds, toNat_subsecNanos]
  show _ = 0 ∧ _ = 0 ↔ _
  omega

end Duration

/-- A word of 128 bits narrowed to 64: one that is too large becomes the largest. -/
def narrow (x : BitVec 128) : UInt64 :=
  if x.toNat < 2 ^ 64 then .ofBitVec (x.setWidth 64) else .ofNat (2 ^ 64 - 1)

theorem toNat_narrow (x : BitVec 128) : (narrow x).toNat = min x.toNat (2 ^ 64 - 1) := by
  unfold narrow
  split
  · rename_i h
    rw [UInt64.toNat_ofBitVec, BitVec.toNat_setWidth, Nat.mod_eq_of_lt h]
    omega
  · rename_i h
    rw [UInt64.toNat_ofNat_of_lt' (by decide)]
    omega

namespace Config

/-- The window, computed in machine words. -/
def wordWindow (c : Config) : UInt64 :=
  if c.interval.seconds = 0 ∧ c.interval.subsecNanos = 0 then c.count
  else
    max (min (narrow (c.timeout.wideNanos / c.interval.wideNanos)) c.count)
      (if 0 < c.count then 1 else 0)

/-- **Machine words lose nothing of the window**: what narrowing cuts off is beyond the count. -/
theorem toNat_wordWindow (c : Config) : c.wordWindow.toNat = c.window := by
  unfold wordWindow window
  simp only [Duration.parts_eq_zero_iff]
  split
  · rfl
  · have hcount := c.count.toNat_lt
    have hone : (if 0 < c.count then (1 : UInt64) else 0).toNat = min c.count.toNat 1 := by
      split
      · rename_i h
        have hpos : 0 < c.count.toNat := UInt64.lt_iff_toNat_lt.1 h
        exact (Nat.min_eq_right hpos).symm
      · rename_i h
        have hzero : ¬0 < c.count.toNat := fun hpos => h (UInt64.lt_iff_toNat_lt.2 hpos)
        rw [Nat.eq_zero_of_not_pos hzero]
        rfl
    rw [UInt64.toNat_max, UInt64.toNat_min, hone, toNat_narrow, BitVec.toNat_udiv,
      Duration.toNat_wideNanos, Duration.toNat_wideNanos]
    omega

/-- The window is the largest that fits, and machine words hold everything on the way to it. -/
structure WindowGreatest (c : Config) : Prop where
  /-- Without probes to send there is no room. -/
  none : c.count = 0 → c.window = 0
  /-- Otherwise no larger number of probes is feasible. -/
  greatest : c.count ≠ 0 → IsGreatest c.feasible c.window
  /-- Without an interval there is room for all. -/
  unspaced : c.interval = .zero → c.window = c.count.toNat
  /-- More probes and more patience leave no less room, and a longer interval no more. -/
  mono (c' : Config) : c.count ≤ c'.count → c.timeout ≤ c'.timeout →
    c'.interval ≤ c.interval → c.window ≤ c'.window
  /-- The nanoseconds of both spans are counted without overflow. -/
  wide : c.timeout.wideNanos.toNat = c.timeout.nanos ∧
    c.interval.wideNanos.toNat = c.interval.nanos
  /-- The words come to the same window. -/
  word : c.wordWindow.toNat = c.window

/-- **The window is the largest that fits**, for every count and for all spans. -/
theorem window_greatest (c : Config) : c.WindowGreatest where
  none h := window_eq_zero (congrArg UInt64.toNat h)
  greatest h := isGreatest_window (Nat.pos_of_ne_zero fun h₀ => h (UInt64.toNat_inj.1 h₀))
  unspaced h := window_eq_count (congrArg Duration.nanos h)
  mono _ := window_le_window
  wide := ⟨c.timeout.toNat_wideNanos, c.interval.toNat_wideNanos⟩
  word := c.toNat_wordWindow

/-- At the extremes, the quotient does not fit in 64 bits. -/
example :
    let c : Config :=
      { target := .v4 1, count := 5, interval := ⟨1, by decide⟩, timeout := .longest }
    c.wordWindow = 5 := by
  decide +kernel

end Config

end EchoProbe
