import EchoProbe.Probe

/-!
# What a reply tells

* `IcmpHeader.ofReply?` reads version, type and code of a reply;
* `Rule` pairs an outcome with the types and codes that mean it, in either version, and `rules`
  lists them in the order in which they are tried;
* `classify` is the outcome of a reply to a probe that was sent to a target.
-/

namespace EchoProbe

/-- What a reply tells about the probe it answers. -/
inductive Classification
  /-- The reply came from the target. -/
  | reached
  | networkUnreachable
  | hostUnreachable
  | protocolUnreachable
  | portUnreachable
  /-- A router discarded the probe because its time to live ran out. -/
  | ttlExceeded
  /-- A host discarded the fragments of the probe because the rest did not come in time. -/
  | reassemblyTimeExceeded
  | redirect
  | parameterProblem
  /-- No rule applies. -/
  | other
deriving DecidableEq

/-- Version, type and code of an ICMP message. -/
structure IcmpHeader where
  /-- The version of the internet protocol that carried the message. -/
  version : IpVersion
  /-- The type of the message. -/
  type : Nat
  /-- The code of the message. -/
  code : Nat
deriving DecidableEq

namespace IcmpHeader

/-- The version field of a reply: an integer of four bits or else of eight. -/
def version? (reply : Probe) : Option Nat :=
  match reply.extract? (.int .int4) "version" with
  | some n => some n.val
  | none => (reply.extract? (.int .int8) "version").map Fin.val

/-- The header of a reply, if its fields are there and of the right types, and its version is
known. -/
def ofReply? (reply : Probe) : Option IcmpHeader := do
  let number ← version? reply
  let version ← IpVersion.ofNumber? number
  let type ← reply.extract? (.int .int8) "type"
  let code ← reply.extract? (.int .int8) "code"
  return ⟨version, type.val, code.val⟩

end IcmpHeader

/-- A pattern for the type and code of a message; without a code, any code will do. -/
structure IcmpPattern where
  /-- The type. -/
  type : Nat
  /-- The code, if it matters. -/
  code : Option Nat

/-- The type and the code fit the pattern. -/
def IcmpPattern.fits (p : IcmpPattern) (type code : Nat) : Bool :=
  p.type == type && match p.code with
    | some c => c == code
    | none => true

/-- An outcome, and the messages of either version that mean it. -/
structure Rule where
  /-- The outcome. -/
  outcome : Classification
  /-- The messages of version 4. -/
  v4 : IcmpPattern
  /-- The messages of version 6. -/
  v6 : IcmpPattern

/-- The pattern for messages of the given version. -/
def Rule.pattern (r : Rule) : IpVersion → IcmpPattern
  | .v4 => r.v4
  | .v6 => r.v6

/-- The rule applies to a message. -/
def Rule.applies (r : Rule) (h : IcmpHeader) : Bool := (r.pattern h.version).fits h.type h.code

/-- The rules, in the order in which they are tried. -/
def rules : List Rule :=
  [⟨.networkUnreachable, ⟨3, some 0⟩, ⟨1, some 0⟩⟩,
   ⟨.hostUnreachable, ⟨3, some 1⟩, ⟨1, some 3⟩⟩,
   ⟨.protocolUnreachable, ⟨3, some 2⟩, ⟨4, some 1⟩⟩,
   ⟨.portUnreachable, ⟨3, some 3⟩, ⟨1, some 4⟩⟩,
   ⟨.ttlExceeded, ⟨11, some 0⟩, ⟨3, some 0⟩⟩,
   ⟨.reassemblyTimeExceeded, ⟨11, some 1⟩, ⟨3, some 1⟩⟩,
   ⟨.redirect, ⟨5, none⟩, ⟨137, none⟩⟩,
   ⟨.parameterProblem, ⟨12, none⟩, ⟨4, none⟩⟩]

/-- The outcome of a message: that of the first rule that applies. -/
def IcmpHeader.outcome (h : IcmpHeader) : Classification :=
  match rules.find? (·.applies h) with
  | some r => r.outcome
  | none => .other

/-- The outcome of a reply to a probe that was sent to `target`. A reply from the target itself
counts as reaching it, whatever its header says. -/
def classify (target : IpAddr) (reply : Probe) : Classification :=
  if reply.address? "src_ip" = some target then .reached
  else match IcmpHeader.ofReply? reply with
    | some h => h.outcome
    | none => .other

end EchoProbe
