import EchoProbe.Document
import EchoProbe.Scenario
import EchoProbe.Toml

/-!
# Reading a scenario

`Scenario.ofDocument?` reads a scenario from a document, `Scenario.ofToml?` from a text. Members
that it does not know are passed over; a record may also be a list of its members in order. Only a
notation that allows for `surplus` items lets such a list go on after the last member, and only in
records that are read at once: the members of a response are told apart by its tag first, and are
always counted.
-/

namespace EchoProbe

/-- An address, written as a text. -/
def IpAddr.ofDocument? (d : Document) : Option IpAddr := d.text?.bind IpAddr.parse?

namespace Response

/-- The tag of a response and its other members. -/
def tagged? : Document → Option (String × Document)
  | .record members => do
    let tag ← members.find? (·.1 = "tag")
    let name ← tag.2.text?
    return (name, .record (members.filter (·.1 ≠ "tag")))
  | .list (tag :: items) => tag.text?.map (·, .list items)
  | _ => none

/-- Reads the members of an echo reply. -/
def echoOf? (d : Document) : Option Response := do
  let m ← Members.ofDocument? false 1 d
  return echo (← m.required? Document.word? 0 "rtt_ms")

/-- Reads the members of an ICMP message. -/
def icmpOf? (d : Document) : Option Response := do
  let m ← Members.ofDocument? false 5 d
  return icmp
    { sender := ← m.required? IpAddr.ofDocument? 0 "addr"
      version := ← m.optional? Document.byte? 1 "version"
      type := ← m.required? Document.byte? 2 "icmp_type"
      code := ← m.required? Document.byte? 3 "code"
      roundTripMs := ← m.required? Document.word? 4 "rtt_ms" }

/-- Reads a response. -/
def ofDocument? (d : Document) : Option Response := do
  let (tag, rest) ← tagged? d
  match tag with
  | "NoResponse" => (Members.ofDocument? false 0 rest).map fun _ => silence
  | "Echo" => echoOf? rest
  | "Icmp" => icmpOf? rest
  | _ => none

end Response

/-- Reads an expected outcome. -/
def Expected.ofDocument? (surplus : Bool) (d : Document) : Option Expected := do
  let m ← Members.ofDocument? surplus 6 d
  return {
    transmitted := ← m.required? Document.word? 0 "transmitted"
    received := ← m.required? Document.word? 1 "received"
    losses := ← m.required? Document.word? 2 "losses"
    events := ← m.default? (Document.list? Document.text?) [] 3 "events"
    lines := ← m.optional? (Document.list? Document.text?) 4 "lines"
    error := ← m.default? Document.flag? false 5 "error" }

/-- Reads names of hosts; of two spellings of one address the later one counts. -/
def Hosts.ofDocument? : Document → Option Hosts
  | .record members => do
    let hosts ← members.mapM fun (key, d) => do
      return (← IpAddr.parse? key, ← d.text?)
    return .ofList hosts
  | _ => none

/-- Reads a scenario. -/
def Scenario.ofDocument? (surplus : Bool) (d : Document) : Option Scenario := do
  let m ← Members.ofDocument? surplus 10 d
  return {
    name := ← m.required? Document.text? 0 "name"
    target := ← m.required? IpAddr.ofDocument? 1 "target"
    count := ← m.optional? Document.word? 2 "count"
    intervalMs := ← m.optional? Document.word? 3 "interval_ms"
    timeoutMs := ← m.optional? Document.word? 4 "timeout_ms"
    maxTtl := ← m.optional? Document.byte? 5 "max_ttl"
    hosts := ← m.default? Hosts.ofDocument? .empty 6 "hosts"
    sendFailure := ← m.optional? Document.word? 7 "send_failure"
    responses := ← m.default? (Document.list? Response.ofDocument?) [] 8 "responses"
    expected := ← m.optional? (Expected.ofDocument? surplus) 9 "expected" }

/-- Reads a scenario from a text. -/
def Scenario.ofToml? (text : String) : Option Scenario :=
  (Toml.parse? text).bind (Scenario.ofDocument? true)

end EchoProbe
