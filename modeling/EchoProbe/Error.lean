import EchoProbe.Event

/-!
# What can go wrong with a measurement

`Stage` names the stages of the life of a measurement, `Error` lists the causes of a failure and
`Error.message` words them. `Statistics.ofSamples` and `Statistics.ofDurations` fail if there is
nothing to take statistics of.
-/

namespace EchoProbe

/-- A stage in the life of a measurement. -/
inductive Stage
  /-- Not started yet. -/
  | created
  /-- Sending probes and awaiting replies. -/
  | running
  /-- All probes are settled, and the end is awaited. -/
  | terminating
  /-- Stopped. -/
  | terminated
  /-- Given up after a failure. -/
  | errored
deriving DecidableEq

namespace Stage

/-- The name of a stage. -/
def name : Stage → String
  | created => "created"
  | running => "running"
  | terminating => "terminating"
  | terminated => "terminated"
  | errored => "errored"

/-- No more events are handled. -/
def isFinished : Stage → Bool
  | terminated => true
  | errored => true
  | _ => false

end Stage

/-- A defect of a configuration. -/
inductive Defect
  /-- The target stands for no host. -/
  | unspecifiedTarget (target : IpAddr)
  /-- No probe is asked for. -/
  | zeroCount
  /-- A probe may not make a single hop. -/
  | zeroTtl
deriving DecidableEq

/-- The wording of a defect. -/
def Defect.message : Defect → String
  | unspecifiedTarget target => "target_addr " ++ target.text ++ " is unspecified"
  | zeroCount => "count must be positive"
  | zeroTtl => "max_ttl must be positive"

/-- A failure of a measurement. -/
inductive Error
  /-- The configuration cannot drive a measurement. -/
  | invalidOptions (defect : Defect)
  /-- There is no room for so many probes. -/
  | allocationFailure
  /-- A probe was refused. -/
  | sendFailure (reason : String)
  /-- There is nothing to take statistics of. -/
  | noSamples
  /-- The event cannot be handled at this stage. -/
  | invalidState (stage : Stage) (event : EventType)
  /-- The measurement was told to give up. -/
  | aborted
  /-- A field is not as it should be. -/
  | field (cause : FieldError)
  /-- A point of time lies beyond what the clock can hold. -/
  | clockOverflow
  /-- The measurement waits for what will never come. -/
  | stalled (stage : Stage)
deriving DecidableEq

/-- The wording of a failure. -/
def Error.message : Error → String
  | invalidOptions defect => "invalid options: " ++ defect.message
  | allocationFailure => "allocation failure"
  | sendFailure reason => "probe failed to send: " ++ reason
  | noSamples => "no samples"
  | invalidState stage event => "cannot handle " ++ event.tag ++ " in state " ++ stage.name
  | aborted => "algorithm aborted"
  | field cause => "field error: " ++ cause.message
  | clockOverflow => "the clock cannot hold a time so late"
  | stalled stage => "stalled in state " ++ stage.name ++ " with no pending timers"

namespace Statistics

/-- The statistics of some samples. -/
def ofSamples (xs : List Float) : Except Error Statistics :=
  match ofSamples? xs with
  | some t => .ok t
  | none => .error .noSamples

/-- The statistics of some spans of time in milliseconds. -/
def ofDurations (ds : List Duration) : Except Error Statistics :=
  ofSamples (ds.map Duration.toFractionalMillis)

end Statistics

end EchoProbe
