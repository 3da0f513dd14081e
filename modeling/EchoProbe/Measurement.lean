import EchoProbe.Config
import EchoProbe.Measurement.Carrier
import EchoProbe.Measurement.Ledger

/-!
# A measurement

A measurement sends copies of a skeleton probe to a target, keeps a window of them in flight, and
tells its caller what became of each. It is driven by events: `Measurement.handle` answers one
event with the state of the measurement afterwards and with what it asks of its loop.

* `Phase` is the stage of a measurement together with the ledger it keeps while it runs;
* `Measurement.sendFrom` submits a burst of copies, spaced by multiples of the delay of the
  skeleton;
* `Measurement.schedule` decides whether to send more, to wait or to finish;
* `Measurement.handle` handles an event, `Measurement.build` makes a measurement of a valid
  configuration.

Memory is asked for twice: for all records at the start, where the answer is the carrier's `Room`,
and for a single one whenever a probe or a round trip time is entered. Here a single record is taken
to find its place; `Instance` leaves that to its loop, too, and says what a refusal leads to.
-/

namespace EchoProbe

/-- How far a measurement has come. There is a ledger exactly while it runs. -/
inductive Phase
  | created
  | running (ledger : Ledger)
  | terminating (ledger : Ledger)
  | terminated
  | errored

namespace Phase

/-- The stage of a phase. -/
def stage : Phase → Stage
  | created => .created
  | running _ => .running
  | terminating _ => .terminating
  | terminated => .terminated
  | errored => .errored

/-- The ledger, while there is one. -/
def ledger? : Phase → Option Ledger
  | running l => some l
  | terminating l => some l
  | _ => none

end Phase

/-- A measurement. -/
structure Measurement where
  /-- The configuration. -/
  config : Config
  /-- The probe of which copies are sent. -/
  skeleton : Probe
  /-- The instance that is told of the start and the end. -/
  caller : Option InstanceId
  /-- The number of probes that may be in flight at once, known from the start on. -/
  window : Nat
  /-- How far it has come. -/
  phase : Phase

/-- The answer to an event. -/
structure Turn (σ : Type) where
  /-- The measurement after the event. -/
  measurement : Measurement
  /-- The state of the carrier after the event. -/
  state : σ
  /-- What was asked of the loop, in order. -/
  actions : List Action
  /-- The failure, if there was one. -/
  failure : Option Error

/-- The outcome of a decision within an event. -/
structure Progress (σ : Type) where
  /-- The phase that follows. -/
  phase : Phase
  /-- The state of the carrier. -/
  state : σ
  /-- What was asked of the loop, in order. -/
  actions : List Action
  /-- The failure, if there was one. -/
  failure : Option Error

namespace Measurement

variable {σ : Type}

/-- A measurement that has not started. -/
def new (config : Config) (skeleton : Probe) (caller : Option InstanceId) : Measurement :=
  ⟨config, skeleton, caller, 0, .created⟩

/-- A measurement of a valid configuration, with the echo request as skeleton unless another one
is given. -/
def build (config : Config) (caller : Option InstanceId) (skeleton : Option Probe) :
    Except Error Measurement :=
  config.validate.map fun _ => new config (skeleton.getD config.echoSkeleton) caller

/-- The stage of a measurement. -/
def stage (m : Measurement) : Stage := m.phase.stage

/-- The ledger of a measurement, while there is one. -/
def ledger? (m : Measurement) : Option Ledger := m.phase.ledger?

theorem ledger?_of_running {m : Measurement} {l : Ledger} (h : m.phase = .running l) :
    m.ledger? = some l := by
  rw [ledger?, h]; rfl

theorem ledger?_of_terminating {m : Measurement} {l : Ledger} (h : m.phase = .terminating l) :
    m.ledger? = some l := by
  rw [ledger?, h]; rfl

/-! ### Sending -/

/-- The `i`-th copy of a burst, counted from one: its delay is `i` times that of the skeleton. The
factor stops short of 2^32. -/
def copy (skeleton : Probe) (i : Nat) : Probe :=
  skeleton.setDelay (skeleton.delay.scale (min i (2 ^ 32 - 1)))

/-- Submits the copies from number `i` on, `n` of them, until one is refused. There is memory for
the record of each, as in `Instance.sendProbes` with a loop that spares it. -/
def sendFrom (carrier : Carrier σ) (skeleton : Probe) :
    (i n : Nat) → Ledger → σ → Progress σ
  | _, 0, l, s => ⟨.running l, s, [], none⟩
  | i, n + 1, l, s =>
    match carrier.submit s (copy skeleton i) with
    | (.ok sent, s) =>
      let rest := sendFrom carrier skeleton (i + 1) n (l.record sent) s
      { rest with actions := .submit (copy skeleton i) (some sent) :: rest.actions }
    | (.error e, s) => ⟨.running l, s, [.submit (copy skeleton i) none], some e⟩

/-- The number of probes to send now: what is left of the count, within the window. -/
def due (m : Measurement) (l : Ledger) : Nat :=
  min (m.config.count.toNat - l.sent.size) (m.window - l.inFlight.length)

/-- Sends what is due, or finishes when nothing is in flight, or waits. -/
def schedule (m : Measurement) (carrier : Carrier σ) (l : Ledger) (s : σ) : Progress σ :=
  if 0 < m.due l ∧ l.settled + l.inFlight.length ≠ m.config.count.toNat then
    sendFrom carrier m.skeleton 1 (m.due l) l s
  else if l.inFlight.isEmpty then
    ⟨.terminating l, s, [.raise (.allProbesSent l.summary), .raiseTerminated], none⟩
  else ⟨.running l, s, [.raise .wait], none⟩

/-! ### Handling events -/

/-- Ignores an event. -/
def ignore (m : Measurement) (s : σ) : Turn σ := ⟨m, s, [], none⟩

/-- Gives up. -/
def fail (m : Measurement) (s : σ) (actions : List Action) (e : Error) : Turn σ :=
  ⟨{ m with phase := .errored }, s, actions ++ [.raiseError], some e⟩

/-- Ends an event with a decision that was made after some actions. -/
def conclude (m : Measurement) (actions : List Action) (p : Progress σ) : Turn σ :=
  match p.failure with
  | none => ⟨{ m with phase := p.phase }, p.state, actions ++ p.actions, none⟩
  | some e => m.fail p.state (actions ++ p.actions) e

/-- Starts. -/
def start (m : Measurement) (carrier : Carrier σ) (s : σ) : Turn σ :=
  match m.config.validate, carrier.room m.config.count.toNat with
  | .error e, _ => m.fail s [] e
  | .ok _, false => m.fail s [] .allocationFailure
  | .ok _, true =>
    let m := { m with window := m.config.window }
    m.conclude [.throwEvent m.caller .start] (m.schedule carrier .empty s)

/-- Takes in a reply: a probe that is not in flight is of no interest. -/
def takeReply (m : Measurement) (carrier : Carrier σ) (l : Ledger) (e : Exchange) (s : σ) :
    Turn σ :=
  let outcome := classify m.config.target e.reply
  let sample := if outcome = .reached then e.roundTrip? else none
  match l.settleReply? e.sent sample with
  | some l => m.conclude [.raise (.answered outcome e)] (m.schedule carrier l s)
  | none => m.ignore s

/-- Takes in a timeout: a probe that is not in flight is of no interest. -/
def takeTimeout (m : Measurement) (carrier : Carrier σ) (l : Ledger) (p : SentProbe) (s : σ) :
    Turn σ :=
  match l.settleTimeout? p with
  | some l => m.conclude [.raise (.timeout p)] (m.schedule carrier l s)
  | none => m.ignore s

/-- Stops. -/
def stop (m : Measurement) (s : σ) : Turn σ :=
  ⟨{ m with phase := .terminated }, s, [.throwEvent m.caller .terminated], none⟩

/-- Handles an event. -/
def handle (m : Measurement) (carrier : Carrier σ) (event : Event) (s : σ) : Turn σ :=
  match m.phase, event with
  | .terminated, _ => m.ignore s
  | .errored, _ => m.ignore s
  | .created, .start => m.start carrier s
  | .running l, .reply e => m.takeReply carrier l e s
  | .running l, .timeout p => m.takeTimeout carrier l p s
  | .terminating _, .reply _ => m.ignore s
  | .terminating _, .timeout _ => m.ignore s
  | _, .terminated => m.stop s
  | _, .error => m.fail s [] .aborted
  | _, event => m.fail s [] (.invalidState m.stage event.type)

end Measurement

end EchoProbe
