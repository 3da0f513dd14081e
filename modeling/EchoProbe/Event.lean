import EchoProbe.Classification
import EchoProbe.Statistics

/-!
# Events

An `Event` is delivered to a measurement by the loop that owns it (lifecycle) or by the network
(transport), or raised by the measurement for its caller (outward, a `Finding`). `EventType`
forgets what an event carries; its `tag` names it.
-/

namespace EchoProbe

/-- What a measurement tells its caller. -/
inductive Finding
  /-- A probe was answered. -/
  | answered (outcome : Classification) (exchange : Exchange)
  /-- A probe was not answered in time. -/
  | timeout (sent : SentProbe)
  /-- Every probe has been answered or has timed out. -/
  | allProbesSent (summary : Summary)
  /-- Nothing is left to send, but answers are awaited. -/
  | wait

namespace Finding

/-- The probe and the reply that a finding is about, if there are both. -/
def exchange? : Finding → Option Exchange
  | answered _ e => some e
  | _ => none

/-- The finding settles a probe. -/
def settles : Finding → Bool
  | answered _ _ => true
  | timeout _ => true
  | _ => false

end Finding

/-- An event. -/
inductive Event
  /-- The measurement is to start. -/
  | start
  /-- The measurement has been stopped. -/
  | terminated
  /-- The measurement must give up. -/
  | error
  /-- A probe was answered. -/
  | reply (exchange : Exchange)
  /-- A probe was not answered in time. -/
  | timeout (sent : SentProbe)
  /-- The measurement tells its caller something. -/
  | outward (finding : Finding)

/-- The kind of a finding. -/
inductive FindingType
  | answered (outcome : Classification)
  | timeout
  | allProbesSent
  | wait
deriving DecidableEq

/-- The kind of an event. -/
inductive EventType
  | start
  | terminated
  | error
  | reply
  | timeout
  | outward (finding : FindingType)
deriving DecidableEq

/-- The kind of a finding. -/
def Finding.type : Finding → FindingType
  | answered outcome _ => .answered outcome
  | timeout _ => .timeout
  | allProbesSent _ => .allProbesSent
  | wait => .wait

/-- The kind of an event. -/
def Event.type : Event → EventType
  | start => .start
  | terminated => .terminated
  | error => .error
  | reply _ => .reply
  | timeout _ => .timeout
  | outward finding => .outward finding.type

/-- The tag of an outcome. -/
def Classification.tag : Classification → String
  | reached => "PING_PROBE_REPLY"
  | networkUnreachable => "PING_DST_NET_UNREACHABLE"
  | hostUnreachable => "PING_DST_HOST_UNREACHABLE"
  | protocolUnreachable => "PING_DST_PROT_UNREACHABLE"
  | portUnreachable => "PING_DST_PORT_UNREACHABLE"
  | ttlExceeded => "PING_TTL_EXCEEDED_TRANSIT"
  | reassemblyTimeExceeded => "PING_TIME_EXCEEDED_REASSEMBLY"
  | redirect => "PING_REDIRECT"
  | parameterProblem => "PING_PARAMETER_PROBLEM"
  | other => "PING_GEN_ERROR"

namespace EventType

/-- The name of a kind of events. -/
def tag : EventType → String
  | start => "ALGORITHM_INIT"
  | terminated => "ALGORITHM_TERMINATED"
  | error => "ALGORITHM_ERROR"
  | reply => "PROBE_REPLY"
  | timeout => "PROBE_TIMEOUT"
  | outward (.answered outcome) => outcome.tag
  | outward .timeout => "PING_TIMEOUT"
  | outward .allProbesSent => "PING_ALL_PROBES_SENT"
  | outward .wait => "PING_WAIT"

/-- Delivered by the loop that owns the measurement. -/
def isLifecycle : EventType → Bool
  | start => true
  | terminated => true
  | error => true
  | _ => false

/-- Delivered by the network. -/
def isTransport : EventType → Bool
  | reply => true
  | timeout => true
  | _ => false

/-- Raised by the measurement for its caller. -/
def isOutward : EventType → Bool
  | outward _ => true
  | _ => false

end EventType

end EchoProbe
