import EchoProbe.Measurement
import EchoProbe.Report
import EchoProbe.Simulation.Agenda
import EchoProbe.Simulation.Network

/-!
# Simulating a measurement

A simulation runs a measurement on a scripted network with a clock of its own, which jumps from
one appointment to the next.

* `World.submit` accepts a probe and puts what becomes of it on the agenda;
* `Simulation.next?` picks the event that is handled next, `Simulation.run` handles events until
  the measurement is finished;
* `simulate` runs a scenario and gives its `Outcome`.
-/

namespace EchoProbe

/-- The network and the clock. -/
structure World where
  /-- The number of probes that the network has accepted. -/
  accepted : Nat
  /-- The time since the start. -/
  clock : Duration
  /-- What is still to happen. -/
  agenda : Agenda

/-- The world at the start. -/
def World.start : World := ⟨0, .zero, .empty⟩

namespace Scenario

variable (s : Scenario) (timeout : Duration)

/-- How a probe that is sent at some time ends: its reply comes before the timeout, or it times
out. There is no answer if the clock cannot hold the time. -/
def appointment? (sentAt : Duration) (sent : SentProbe) : Option Appointment :=
  match s.fate sent.id with
  | .reply roundTrip reply =>
    if roundTrip < timeout then do
      let due ← sentAt.add? roundTrip
      let received ← Instant.after? due
      return ⟨due, .reply ⟨sent, reply.setReceived received⟩⟩
    else (sentAt.add? timeout).map (⟨·, .timeout sent⟩)
  | .lost => (sentAt.add? timeout).map (⟨·, .timeout sent⟩)

/-- The time at which a probe is sent, and the same time by the calendar. -/
def sendingTime? (w : World) (p : Probe) : Option (Duration × Instant) := do
  let sentAt ← w.clock.add? p.delay.offset
  let stamp ← Instant.after? sentAt
  return (sentAt, stamp)

/-- Accepts a probe, unless the script says otherwise or the clock cannot hold a time. -/
def submit (w : World) (p : Probe) : Except Error SentProbe × World :=
  match sendingTime? w p with
  | none => (.error .clockOverflow, w)
  | some (sentAt, stamp) =>
    if s.sendFailure.map UInt64.toNat = some w.accepted then
      (.error (.sendFailure ("simulated send failure for probe " ++ toString w.accepted)), w)
    else
      let sent : SentProbe := ⟨w.accepted, p.setSent stamp⟩
      match s.appointment? timeout sentAt sent with
      | none => (.error .clockOverflow, w)
      | some a =>
        (.ok sent,
          { w with accepted := w.accepted + 1, agenda := w.agenda.arm a.due a.event })

/-- The scripted network as the carrier of a measurement. -/
def carrier (room : Room) : Carrier World := ⟨room, s.submit timeout⟩

end Scenario

/-- The event that an action has for the user: what is raised, and what is thrown to nobody
else. -/
def Action.forUser? : Action → Option Event
  | raise finding => some (.outward finding)
  | throwEvent none event => some event
  | _ => none

/-- The event that an action brings about for the measurement itself. -/
def Action.forInstance? : Action → Option Event
  | raiseTerminated => some .terminated
  | _ => none

/-- A simulation under way. -/
structure Simulation where
  /-- The measurement. -/
  measurement : Measurement
  /-- The network and the clock. -/
  world : World
  /-- The events to be handled at once. -/
  pending : List Event

/-- What a simulation showed. -/
structure Run where
  /-- The events for the user, with the times at which they were raised. -/
  trace : List (Duration × Event)
  /-- The time taken. -/
  elapsed : Duration
  /-- The failure that ended it, if there was one. -/
  failure : Option Error

namespace Simulation

/-- The simulation of a measurement at its start. -/
def ofMeasurement (m : Measurement) : Simulation := ⟨m, .start, [.start]⟩

/-- The next event: one that is pending, or else the earliest on the agenda, to whose time the
clock is put forward. -/
def next? (sim : Simulation) : Option (Event × Simulation) :=
  match sim.pending with
  | e :: rest => some (e, { sim with pending := rest })
  | [] => sim.world.agenda.next?.map fun (a, agenda) =>
    (a.event, { sim with world := { sim.world with clock := a.due, agenda } })

/-- Handles an event, and adds the events that this brings about to those pending. -/
def dispatch (carrier : Carrier World) (sim : Simulation) (e : Event) :
    Turn World × Simulation :=
  let turn := sim.measurement.handle carrier e sim.world
  (turn, ⟨turn.measurement, turn.state, sim.pending ++ turn.actions.filterMap Action.forInstance?⟩)

/-- Handles events until the measurement is finished, `n` of them at most. -/
def run (carrier : Carrier World) : (n : Nat) → Simulation → Run
  | 0, sim => ⟨[], sim.world.clock, some (.stalled sim.measurement.stage)⟩
  | n + 1, sim =>
    match sim.next? with
    | none => ⟨[], sim.world.clock, some (.stalled sim.measurement.stage)⟩
    | some (e, sim) =>
      let (turn, sim) := dispatch carrier sim e
      let raised := (turn.actions.filterMap Action.forUser?).map (sim.world.clock, ·)
      if turn.failure.isSome || turn.measurement.stage.isFinished then
        ⟨raised, sim.world.clock, turn.failure⟩
      else
        let rest := run carrier n sim
        { rest with trace := raised ++ rest.trace }

end Simulation

/-- The outcome of a scenario. -/
structure Outcome where
  /-- The kinds of the events for the user, in order. -/
  events : List EventType
  /-- The lines of the report. -/
  lines : List String
  /-- The final tally, if the measurement came to its end. -/
  summary : Option Summary
  /-- The time taken. -/
  elapsed : Duration
  /-- The failure that stopped the measurement, if there was one. -/
  failure : Option Error

/-- The tally that an event carries. -/
def Event.summary? : Event → Option Summary
  | outward (.allProbesSent s) => some s
  | _ => none

/-- The run of a measurement in a scenario. Each probe is settled once, so there are no more
events than probes, the start and the end. -/
def Scenario.run (s : Scenario) (room : Room) (m : Measurement) : Run :=
  Simulation.run (s.carrier m.config.timeout room) (m.config.count.toNat + 2) (.ofMeasurement m)

/-- What a run shows to the user. -/
def Run.outcome (r : Run) (report : Report) : Outcome :=
  { events := r.trace.map (·.2.type)
    lines := report.header :: report.renderAll r.trace
    summary := (r.trace.filterMap (·.2.summary?)).getLast?
    elapsed := r.elapsed
    failure := r.failure }

/-- Runs a scenario. A measurement that fails after its start has an outcome all the same; there
is none for a configuration that cannot drive a measurement, nor when the clock overflows. -/
def simulate (room : Room) (s : Scenario) (flags : Flags) : Except Error Outcome := do
  let m ← Measurement.build (s.config flags) none none
  let r := s.run room m
  if r.failure = some .clockOverflow then throw .clockOverflow
  return r.outcome { config := m.config, hosts := s.hosts }

end EchoProbe
