import EchoProbe.Field.Table
import EchoProbe.Time

/-!
# Probes and replies

A `Probe` is a table of header fields with the times at which it was sent and received, and with
the delay after which it is to be sent; a reply is a probe too.

* `Probe.extract` and `Probe.address` read a field, `Probe.extract?` and `Probe.address?` take a
  failure as a lack of information;
* `Probe.same` compares two probes without regard to the order of their fields;
* `SentProbe` is a probe as it went out, told apart from equal ones by its identity;
* `Exchange` pairs it with a reply, and `Exchange.roundTrip?` is the time in between.
-/

namespace EchoProbe

/-- When a probe is to be sent, counted from its submission. -/
inductive Delay
  /-- As soon as possible. -/
  | bestEffort
  /-- After a span of time. -/
  | after (d : Duration)
deriving DecidableEq

namespace Delay

/-- The time to wait. -/
def offset : Delay → Duration
  | bestEffort => .zero
  | after d => d

/-- `k` times a delay; sending as soon as possible stays so. -/
def scale (k : Nat) : Delay → Delay
  | bestEffort => bestEffort
  | after d => after (d.scale k)

end Delay

/-- A probe, or the reply to one. -/
structure Probe where
  /-- The header fields. -/
  fields : FieldTable
  /-- When it was sent. -/
  sent : Option Instant
  /-- When it was received. -/
  received : Option Instant
  /-- When it is to be sent. -/
  delay : Delay

namespace Probe

/-- The probe without fields and times. -/
def empty : Probe := ⟨.empty, none, none, .bestEffort⟩

instance : Inhabited Probe := ⟨empty⟩

/-- Sets a field, in the place of the one with its key or else last. -/
def setField (p : Probe) (f : Field) : Probe := { p with fields := p.fields.set f }

/-- Sets the time of sending. -/
def setSent (p : Probe) (time : Instant) : Probe := { p with sent := some time }

/-- Sets the time of receipt. -/
def setReceived (p : Probe) (time : Instant) : Probe := { p with received := some time }

/-- Sets the delay. -/
def setDelay (p : Probe) (d : Delay) : Probe := { p with delay := d }

/-- The number of bytes of all fields on the wire. -/
def size (p : Probe) : Nat := p.fields.size

/-- The value of the field with a key. -/
def value (p : Probe) (key : String) : Except FieldError Value :=
  match p.fields.find? key with
  | some f => .ok f.value
  | none => .error (.keyNotFound key)

/-- The content of the field with a key, if it has the type `t`. -/
def extract (p : Probe) (t : FieldType) (key : String) : Except FieldError t.Content :=
  (p.value key).bind (·.extract t)

/-- The address that the field with a key stands for. -/
def address (p : Probe) (key : String) : Except FieldError IpAddr :=
  (p.value key).bind Value.address

/-- The content of the field with a key, where it can be had. -/
def extract? (p : Probe) (t : FieldType) (key : String) : Option t.Content :=
  (p.extract t key).toOption

/-- The address that the field with a key stands for, where it can be had. -/
def address? (p : Probe) (key : String) : Option IpAddr := (p.address key).toOption

theorem value_setField (p : Probe) (f : Field) (key : String) :
    (p.setField f).value key = if f.key = key then .ok f.value else p.value key := by
  have hfind : (p.setField f).fields.find? key =
      if f.key = key then some f else p.fields.find? key :=
    FieldTable.find?_set ..
  rw [value, hfind]
  by_cases h : f.key = key
  · rw [if_pos h, if_pos h]
  · rw [if_neg h, if_neg h]
    rfl

/-- The probes hold the same fields in whatever order, the same times and the same delay. -/
def same (p q : Probe) : Bool :=
  p.fields.same q.fields && p.sent == q.sent && p.received == q.received && p.delay == q.delay

end Probe

/-- A probe as it was sent. -/
structure SentProbe where
  /-- What tells it apart from all others, equal ones included. -/
  id : Nat
  /-- The probe. -/
  probe : Probe

/-- A sent probe and a reply to it. -/
structure Exchange where
  /-- The probe as it was sent. -/
  sent : SentProbe
  /-- The reply. -/
  reply : Probe

/-- The time from the sending of `probe` to the receipt of `reply`, if both are known and in this
order. -/
def roundTrip? (probe reply : Probe) : Option Duration := do
  let sent ← probe.sent
  let received ← reply.received
  received.since? sent

/-- The time from the sending of the probe to the receipt of the reply. -/
def Exchange.roundTrip? (e : Exchange) : Option Duration :=
  EchoProbe.roundTrip? e.sent.probe e.reply

end EchoProbe
