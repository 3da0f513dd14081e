import EchoProbe.Measurement

/-!
# A measurement that keeps its data apart

The phase of a `Measurement` says how far it has come and holds its ledger, too. An `Instance` keeps
the two apart and writes them one by one: an event that needs the ledger takes it out, works on it
and puts it back, and cannot be handled if it is missing.

* `Loop` is a carrier that may also run out of memory for single records;
* `Instance.withData` takes the ledger out for a step and puts it back;
* `Instance.sendProbes`, `Instance.schedule`, `Instance.onReply` and `Instance.onTimeout` are steps
  that work on the ledger;
* `Instance.handle` handles an event.
-/

namespace EchoProbe

/-- A carrier that has memory for one more record, or has not. -/
structure Loop (σ : Type) extends Carrier σ where
  /-- There is memory for the record of one more probe. -/
  sparesProbe : σ → Bool
  /-- There is memory for one more round trip time. -/
  sparesSample : σ → Bool

/-- A measurement whose ledger is kept apart from its stage. -/
structure Instance where
  /-- The configuration. -/
  config : Config
  /-- The probe of which copies are sent. -/
  skeleton : Probe
  /-- The instance that is told of the start and the end. -/
  caller : Option InstanceId
  /-- How far it has come. -/
  stage : Stage
  /-- The ledger, unless it has not been opened yet, has been taken out or has been given up. -/
  data : Option Ledger
  /-- The number of probes that may be in flight at once, known from the start on. -/
  window : Nat

namespace Instance

variable {σ : Type}

/-- An instance that has not started. -/
def new (config : Config) (skeleton : Probe) (caller : Option InstanceId) : Instance :=
  ⟨config, skeleton, caller, .created, none, 0⟩

/-- The tally so far, while there is one. -/
def summary? (i : Instance) : Option Summary := i.data.map Ledger.summary

/-- The statistics of the round trips to the target so far. -/
def statistics (i : Instance) : Except Error Statistics :=
  match i.data with
  | some l => Statistics.ofDurations l.samples.toList
  | none => .error .noSamples

/-- An instance at work. -/
structure Scene (σ : Type) where
  /-- The instance. -/
  self : Instance
  /-- The state of the loop. -/
  state : σ
  /-- What was asked of the loop, in order. -/
  actions : List Action

namespace Scene

/-- The loop has been asked for something more, and is in another state over it. -/
def proceed (x : Scene σ) (s : σ) (as : List Action) : Scene σ := ⟨x.self, s, x.actions ++ as⟩

@[simp] theorem proceed_nil (x : Scene σ) : x.proceed x.state [] = x := by
  rw [proceed, List.append_nil]

@[simp] theorem proceed_proceed (x : Scene σ) (s s' : σ) (as bs : List Action) :
    (x.proceed s as).proceed s' bs = x.proceed s' (as ++ bs) := by
  simp only [proceed, List.append_assoc]

/-- Asks something of the loop. -/
def ask (x : Scene σ) (a : Action) : Scene σ := x.proceed x.state [a]

theorem ask_ask (x : Scene σ) (a b : Action) : (x.ask a).ask b = x.proceed x.state [a, b] :=
  proceed_proceed ..

end Scene

/-- What a step that works on the ledger comes to. -/
structure Step (σ : Type) where
  /-- The instance at work, without the ledger. -/
  scene : Scene σ
  /-- The ledger that was worked on. -/
  ledger : Ledger
  /-- The failure, if there was one. -/
  failure : Option Error

/-- Puts the ledger back, also after a failure. -/
def Step.putBack (x : Step σ) : Scene σ × Option Error :=
  ({ x.scene with self := { x.scene.self with data := some x.ledger } }, x.failure)

/-! ### Steps on the ledger -/

/-- Sends the copies from number `i` on, `n` of them, until there is no memory for the record of one
or it is refused. -/
def sendProbes (loop : Loop σ) : (i n : Nat) → Ledger → Scene σ → Step σ
  | _, 0, l, x => ⟨x, l, none⟩
  | i, n + 1, l, x =>
    let probe := Measurement.copy x.self.skeleton i
    if loop.sparesProbe x.state then
      match loop.submit x.state probe with
      | (.ok sent, s) =>
        sendProbes loop (i + 1) n (l.record sent) (x.proceed s [.submit probe (some sent)])
      | (.error e, s) => ⟨x.proceed s [.submit probe none], l, some e⟩
    else ⟨x, l, some .allocationFailure⟩

/-- The number of probes to send now: what is left of the count, within the window. -/
def due (i : Instance) (l : Ledger) : Nat :=
  min (i.config.count.toNat - l.sent.size) (i.window - l.inFlight.length)

/-- Sends what is due, or finishes when nothing is in flight, or waits. -/
def schedule (loop : Loop σ) (l : Ledger) (x : Scene σ) : Step σ :=
  if 0 < x.self.due l ∧ l.settled + l.inFlight.length ≠ x.self.config.count.toNat then
    sendProbes loop 1 (x.self.due l) l x
  else if l.inFlight.isEmpty then
    let x := (x.ask (.raise (.allProbesSent l.summary))).ask .raiseTerminated
    ⟨{ x with self := { x.self with stage := .terminating } }, l, none⟩
  else ⟨x.ask (.raise .wait), l, none⟩

/-- Enters that a probe was answered, if it is in flight. Memory for the round trip time is sought
before this is known. -/
def recordReply (loop : Loop σ) (s : σ) (l : Ledger) (p : SentProbe) (sample : Option Duration) :
    Except Error (Option Ledger) :=
  if sample.isSome && !loop.sparesSample s then .error .allocationFailure
  else .ok (l.settleReply? p sample)

/-- Takes in a reply: a probe that is not in flight is of no interest. -/
def onReply (loop : Loop σ) (e : Exchange) (l : Ledger) (x : Scene σ) : Step σ :=
  let outcome := classify x.self.config.target e.reply
  let sample := if outcome = .reached then e.roundTrip? else none
  match recordReply loop x.state l e.sent sample with
  | .error cause => ⟨x, l, some cause⟩
  | .ok none => ⟨x, l, none⟩
  | .ok (some l) => schedule loop l (x.ask (.raise (.answered outcome e)))

/-- Takes in a timeout: a probe that is not in flight is of no interest. -/
def onTimeout (loop : Loop σ) (p : SentProbe) (l : Ledger) (x : Scene σ) : Step σ :=
  match l.settleTimeout? p with
  | none => ⟨x, l, none⟩
  | some l => schedule loop l (x.ask (.raise (.timeout p)))

/-! ### Handling events -/

/-- Has a step work on the ledger, which is missing meanwhile. Without a ledger the event is out of
place. -/
def withData (type : EventType) (step : Ledger → Scene σ → Step σ) (x : Scene σ) :
    Scene σ × Option Error :=
  match x.self.data with
  | none => (x, some (.invalidState x.self.stage type))
  | some l => (step l { x with self := { x.self with data := none } }).putBack

/-- Starts. The ledger is put in its place after the first decision, whatever this comes to. -/
def onStart (loop : Loop σ) (x : Scene σ) : Scene σ × Option Error :=
  match x.self.config.validate, loop.room x.self.config.count.toNat with
  | .error e, _ => (x, some e)
  | .ok _, false => (x, some .allocationFailure)
  | .ok _, true =>
    let self := { x.self with window := x.self.config.window, stage := .running }
    (schedule loop .empty (Scene.ask { x with self } (.throwEvent self.caller .start))).putBack

/-- Stops. -/
def onTerminated (x : Scene σ) : Scene σ :=
  Scene.ask { x with self := { x.self with data := none, stage := .terminated } }
    (.throwEvent x.self.caller .terminated)

/-- Gives up. -/
def fail (x : Scene σ) : Scene σ :=
  Scene.ask { x with self := { x.self with data := none, stage := .errored } } .raiseError

/-- Looks for what an event calls for at the present stage. -/
def respond (loop : Loop σ) (e : Event) (x : Scene σ) : Scene σ × Option Error :=
  match x.self.stage, e with
  | .created, .start => onStart loop x
  | .running, .reply r => withData e.type (onReply loop r) x
  | .running, .timeout p => withData e.type (onTimeout loop p) x
  | .terminating, .reply _ => (x, none)
  | .terminating, .timeout _ => (x, none)
  | _, .terminated => (onTerminated x, none)
  | _, .error => (x, some .aborted)
  | stage, _ => (x, some (.invalidState stage e.type))

/-- Gives up if there was a failure. -/
def conclude : Scene σ × Option Error → Scene σ × Option Error
  | (x, none) => (x, none)
  | (x, some cause) => (fail x, some cause)

/-- Handles an event. -/
def handle (loop : Loop σ) (i : Instance) (e : Event) (s : σ) : Scene σ × Option Error :=
  if i.stage.isFinished then (⟨i, s, []⟩, none)
  else conclude (respond loop e ⟨i, s, []⟩)

end Instance

end EchoProbe
