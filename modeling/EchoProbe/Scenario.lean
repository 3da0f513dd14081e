import EchoProbe.Config
import EchoProbe.Hosts

/-!
# Scenarios

A `Scenario` describes a measurement of a simulated network: whom to probe, and what becomes of
each probe.

* `Scenario.response` is the response to the probe with a given number; the responses start over
  when they run out;
* `Scenario.config` is the configuration of the measurement.
-/

namespace EchoProbe

/-- An ICMP message from some host. -/
structure IcmpMessage where
  /-- The host that sends the message. -/
  sender : IpAddr
  /-- The version of the internet protocol, where it is not that of the sender. -/
  version : Option UInt8
  /-- The type of the message. -/
  type : UInt8
  /-- The code of the message. -/
  code : UInt8
  /-- The time until it arrives, in milliseconds. -/
  roundTripMs : UInt64
deriving DecidableEq

/-- The response to a probe. -/
inductive Response
  /-- No response at all. -/
  | silence
  /-- An echo reply from the target, after some milliseconds. -/
  | echo (roundTripMs : UInt64)
  /-- An ICMP message. -/
  | icmp (message : IcmpMessage)
deriving DecidableEq

/-- The expected outcome of a scenario. -/
structure Expected where
  /-- The number of probes sent. -/
  transmitted : UInt64
  /-- The number of probes answered. -/
  received : UInt64
  /-- The number of probes lost. -/
  losses : UInt64
  /-- The tags of the events. -/
  events : List String
  /-- The lines of the report, if they matter. -/
  lines : Option (List String)
  /-- The measurement is expected to fail. -/
  error : Bool

/-- A measurement of a simulated network. -/
structure Scenario where
  /-- The name of the scenario. -/
  name : String
  /-- The host to probe. -/
  target : IpAddr
  /-- The number of probes to send. -/
  count : Option UInt64
  /-- The time between two probes, in milliseconds. -/
  intervalMs : Option UInt64
  /-- The time to wait for a reply, in milliseconds. -/
  timeoutMs : Option UInt64
  /-- The greatest number of hops a probe may make. -/
  maxTtl : Option UInt8
  /-- The names of hosts. -/
  hosts : Hosts
  /-- The number of the probe that the network refuses, counted from zero. -/
  sendFailure : Option UInt64
  /-- The responses, in the order of the probes. -/
  responses : List Response
  /-- The expected outcome. -/
  expected : Option Expected

namespace Scenario

/-- The response to the probe with the number `k`, counted from zero. -/
def response (s : Scenario) (k : Nat) : Response :=
  s.responses[k % s.responses.length]?.getD .silence

/-- The configuration of the measurement; what the scenario leaves open has its default. -/
def config (s : Scenario) (flags : Flags) : Config :=
  let standard : Config := { target := s.target }
  { standard with
    count := s.count.getD standard.count
    interval := (s.intervalMs.map Duration.ofMillis).getD standard.interval
    timeout := (s.timeoutMs.map Duration.ofMillis).getD standard.timeout
    maxTtl := s.maxTtl.getD standard.maxTtl
    flags }

theorem response_eq_silence_of_responses_eq_nil {s : Scenario} (h : s.responses = []) (k : Nat) :
    s.response k = .silence := by
  simp [response, h]

end Scenario

end EchoProbe
