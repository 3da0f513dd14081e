import EchoProbe.Scenario

/-!
# A scripted network

`Scenario.fate` says what becomes of the probe with a given number: nothing ever comes back, or a
reply arrives after some time.
-/

namespace EchoProbe

/-- What becomes of a probe. -/
inductive Fate
  /-- A reply arrives after some time. -/
  | reply (roundTrip : Duration) (reply : Probe)
  /-- No reply ever arrives. -/
  | lost

/-- A reply with the given header. Of the version only the four lowest bits fit. -/
def replyProbe (version : Nat) (source : IpAddr) (type code : Nat) : Probe :=
  let fields : List Field :=
    [.int .int4 "version" version, .address "src_ip" source, .int .int8 "type" type,
     .int .int8 "code" code]
  { Probe.empty with fields := .ofList fields }

/-- The type of an echo reply. -/
def echoReplyType : IpVersion → Nat
  | .v4 => 0
  | .v6 => 129

/-- The echo reply of a target. -/
def echoReply (target : IpAddr) : Probe :=
  replyProbe target.version.number target (echoReplyType target.version) 0

/-- The reply that carries an ICMP message. -/
def IcmpMessage.reply (m : IcmpMessage) : Probe :=
  let version := match m.version with
    | some v => v.toNat
    | none => m.sender.version.number
  replyProbe version m.sender m.type.toNat m.code.toNat

/-- What a response of the given target means for a probe. -/
def Response.fate (target : IpAddr) : Response → Fate
  | silence => .lost
  | echo ms => .reply (.ofMillis ms) (echoReply target)
  | icmp m => .reply (.ofMillis m.roundTripMs) m.reply

/-- What becomes of the probe with the number `k`, counted from zero. -/
def Scenario.fate (s : Scenario) (k : Nat) : Fate := (s.response k).fate s.target

end EchoProbe
