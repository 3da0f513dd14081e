import EchoProbe.Error

/-!
# The configuration of a measurement

* `Config` says whom to probe, how often, how fast and with what patience; `Flags` say how the
  report looks;
* `Config.validate` finds the first defect;
* `Config.window` is the number of probes that may be in flight at once, one at least
  (`Config.window_pos`) and no more than are asked for (`Config.window_le_count`);
* `Config.echoSkeleton` is the probe of which an echo measurement sends copies.
-/

namespace EchoProbe

/-- How the report of a measurement looks. -/
structure Flags where
  /-- Hosts are shown by name. -/
  resolve : Bool
  /-- Each line about a probe starts with a time. -/
  timestamp : Bool
  /-- Only the summary is shown. -/
  quiet : Bool
deriving DecidableEq

namespace Flags

/-- Hosts by name, and nothing else. -/
def default : Flags := ⟨true, false, false⟩

/-- The flags whose bits are set in `n`; other bits mean nothing. -/
def ofBits (n : Nat) : Flags := ⟨n.testBit 0, n.testBit 1, n.testBit 2⟩

/-- The number whose bits are the flags. -/
def toBits (f : Flags) : Nat :=
  (if f.resolve then 1 else 0) + (if f.timestamp then 2 else 0) + (if f.quiet then 4 else 0)

theorem ofBits_toBits (f : Flags) : ofBits f.toBits = f := by
  rcases f with ⟨_ | _, _ | _, _ | _⟩ <;> rfl

end Flags

/-- The configuration of a measurement. -/
structure Config where
  /-- The host to probe. -/
  target : IpAddr
  /-- The number of probes to send. -/
  count : UInt64 := 3
  /-- The time between two probes. -/
  interval : Duration := .ofMillis 1000
  /-- The time to wait for a reply before a probe counts as lost. -/
  timeout : Duration := .ofMillis 3000
  /-- The greatest number of hops a probe may make. -/
  maxTtl : UInt8 := 255
  /-- How the report looks. -/
  flags : Flags := .default

namespace Config

/-- The first defect that keeps a configuration from driving a measurement. -/
def defect? (c : Config) : Option Defect :=
  if c.target.isUnspecified then some (.unspecifiedTarget c.target)
  else if c.count = 0 then some .zeroCount
  else if c.maxTtl = 0 then some .zeroTtl
  else none

/-- Refuses a configuration that cannot drive a measurement. -/
def validate (c : Config) : Except Error Unit :=
  match c.defect? with
  | some d => .error (.invalidOptions d)
  | none => .ok ()

/-- The number of probes that may be in flight at once: as many intervals as fit in the timeout,
but at least one and at most all. Without an interval all probes may go at once. -/
def window (c : Config) : Nat :=
  if c.interval.nanos = 0 then c.count.toNat
  else max (min (c.timeout.nanos / c.interval.nanos) c.count.toNat) (min c.count.toNat 1)

theorem validate_eq_ok_iff {c : Config} : c.validate = .ok () ↔ c.defect? = none := by
  unfold validate
  cases c.defect? <;> simp

theorem validate_eq_error_iff {c : Config} {cause : Error} :
    c.validate = .error cause ↔ ∃ d, c.defect? = some d ∧ cause = .invalidOptions d := by
  unfold validate
  cases c.defect? <;> simp [eq_comm]

theorem count_pos_of_validate {c : Config} (h : c.validate = .ok ()) : 0 < c.count.toNat := by
  refine Nat.pos_of_ne_zero fun h₀ => ?_
  have hc : c.count = 0 := UInt64.toNat_inj.1 h₀
  have hd := validate_eq_ok_iff.1 h
  unfold defect? at hd
  rw [if_pos hc] at hd
  split at hd <;> cases hd

theorem window_le_count (c : Config) : c.window ≤ c.count.toNat := by
  unfold window
  split
  · exact Nat.le_refl _
  · exact Nat.max_le.2 ⟨Nat.min_le_right _ _, Nat.min_le_left _ _⟩

theorem window_pos {c : Config} (h : 0 < c.count.toNat) : 0 < c.window := by
  unfold window
  split
  · exact h
  · exact Nat.lt_of_lt_of_le (Nat.lt_min.2 ⟨h, Nat.one_pos⟩) (Nat.le_max_right _ _)

/-- The echo request that is sent to the target: its copies are spaced by the interval. -/
def echoSkeleton (c : Config) : Probe :=
  let protocol := match c.target.version with
    | .v4 => "icmpv4"
    | .v6 => "icmpv6"
  let fields : List Field :=
    [.int .int4 "version" c.target.version.number, .string "protocol" protocol,
     .address "dst_ip" c.target, .int .int8 "ttl" c.maxTtl.toNat]
  { Probe.empty with
    fields := .ofList fields
    delay := if c.interval.nanos = 0 then .bestEffort else .after c.interval }

end Config

end EchoProbe
