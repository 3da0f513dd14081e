import EchoProbe.Config
import EchoProbe.Hosts
import EchoProbe.Text.Decimal

/-!
# The report of a measurement

A `Report` turns the events of a measurement into lines of text. It counts the probes that are
settled, so that each line about a reply bears a number.

* `Report.header` is the first line;
* `Report.render` gives the lines for one event, `Report.renderAll` those for a list of events.
-/

namespace EchoProbe

/-- The report of a measurement. -/
structure Report where
  /-- The configuration of the measurement. -/
  config : Config
  /-- The names of hosts. -/
  hosts : Resolver
  /-- The number of probes settled so far. -/
  settled : Nat := 0

/-- The text of statistics: minimum, mean, maximum and mean deviation, with three places each. -/
def Statistics.text (s : Statistics) : String :=
  "/".intercalate ([s.min, s.mean, s.max, s.meanDeviation].map (Decimal.fixed 3))

/-- The wording of an outcome other than a reply from the target. -/
def Classification.wording : Classification → String
  | .reached => "reply"
  | .networkUnreachable => "network unreachable"
  | .hostUnreachable => "host unreachable"
  | .protocolUnreachable => "protocol unreachable"
  | .portUnreachable => "port unreachable"
  | .ttlExceeded => "ttl exceeded in transit"
  | .reassemblyTimeExceeded => "fragment reassembly time exceeded"
  | .redirect => "redirect"
  | .parameterProblem => "parameter problem"
  | .other => "packet has not reached its destination"

namespace Report

/-- How a host is shown: by its address, with its name in front if names are wanted. An address
without a name stands for it. -/
def host (r : Report) (a : IpAddr) : String :=
  if r.config.flags.resolve then
    (r.hosts.find? a).getD a.text ++ " (" ++ a.text ++ ")"
  else a.text

/-- How the sender of a reply is shown. -/
def source (r : Report) (reply : Probe) : String :=
  match reply.address? "src_ip" with
  | some a => r.host a
  | none => "?"

/-- The first line. -/
def header (r : Report) : String :=
  "PING " ++ r.host r.config.target ++ " : " ++ toString r.config.count.toNat ++
    " probes, interval=" ++ toString r.config.interval.toMillis ++ " ms"

/-- The line for an answered probe. -/
def answerLine (r : Report) (outcome : Classification) (e : Exchange) : String :=
  match outcome with
  | .reached =>
    let time := match e.roundTrip? with
      | some d => d.toFractionalMillis
      | none => 0
    toString e.reply.size ++ " bytes from " ++ r.source e.reply ++ " : seq=" ++
      toString r.settled ++ " ttl=" ++ toString r.config.maxTtl.toNat ++ " time=" ++
      Decimal.fixed 3 time ++ " ms"
  | _ =>
    "From " ++ r.source e.reply ++ " : seq=" ++ toString r.settled ++ " " ++ outcome.wording

/-- The lines of the final tally. -/
def summaryLines (r : Report) (s : Summary) : List String :=
  ["",
   "--- " ++ r.host r.config.target ++ " ping statistics ---",
   toString s.transmitted ++ " packets transmitted, " ++ toString s.received ++ " received, " ++
     Decimal.fixed 0 s.lossPercent ++ "% packet loss"] ++
  match s.roundTrips with
  | some t => ["rtt min/avg/max/mdev = " ++ t.text ++ " ms"]
  | none => []

/-- A line about a probe, as it is shown: not at all in a quiet report, and with a time in front
if times are wanted. -/
def probeLines (r : Report) (elapsed : Duration) (line : String) : List String :=
  if r.config.flags.quiet then []
  else if r.config.flags.timestamp then
    ["[" ++ Decimal.fixed 6 elapsed.toSeconds ++ "] " ++ line]
  else [line]

/-- Takes note that one more probe is settled. -/
def count (r : Report) : Report := { r with settled := r.settled + 1 }

/-- The lines for an event that was raised after the given time, and the report after it. -/
def render (r : Report) (elapsed : Duration) : Event → Report × List String
  | .outward (.answered outcome e) =>
    (r.count, r.count.probeLines elapsed (r.count.answerLine outcome e))
  | .outward (.timeout _) => (r.count, r.count.probeLines elapsed "Timeout")
  | .outward (.allProbesSent s) => (r, r.summaryLines s)
  | _ => (r, [])

/-- The lines for some events. -/
def renderAll (r : Report) : List (Duration × Event) → List String
  | [] => []
  | (elapsed, event) :: rest =>
    let (r, lines) := r.render elapsed event
    lines ++ r.renderAll rest

end Report

end EchoProbe
