import EchoProbe.Error

/-!
# Between a measurement and its loop

* a `Carrier` accepts or refuses the probes that a measurement submits, and may change its state
  over it; its `Room` says how many probes there can be records of;
* an `Action` is one thing that a measurement asks of its loop.
-/

namespace EchoProbe

/-- The number under which a loop knows a measurement. -/
structure InstanceId where
  /-- The number. -/
  number : UInt64
deriving DecidableEq

/-- The text of an identifier. -/
def InstanceId.text (i : InstanceId) : String := "#" ++ toString i.number.toNat

/-- Whether there is room for the records of so many probes. What memory holds is not known to a
measurement, so that this may be any function. -/
abbrev Room := Nat → Bool

/-- Room for as many probes as one likes. -/
def Room.ample : Room := fun _ => true

/-- Accepts or refuses the probes that are submitted to it. -/
structure Carrier (σ : Type) where
  /-- The room for records, of which there has to be enough at the start. -/
  room : Room
  /-- Accepts a probe, which then has an identity and the time at which it is sent, or refuses
  it. -/
  submit : σ → Probe → Except Error SentProbe × σ

/-- One thing that a measurement asks of its loop. -/
inductive Action
  /-- To send a probe; the loop may have accepted it. -/
  | submit (probe : Probe) (accepted : Option SentProbe)
  /-- To tell the caller something. -/
  | raise (finding : Finding)
  /-- To stop the measurement, as it has come to its end. -/
  | raiseTerminated
  /-- To take note that the measurement has failed. -/
  | raiseError
  /-- To deliver an event to an instance, or to the user where there is none. -/
  | throwEvent (target : Option InstanceId) (event : Event)

end EchoProbe
