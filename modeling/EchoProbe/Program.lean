import EchoProbe.CommandLine
import EchoProbe.Scenario.Reader
import EchoProbe.Simulation

/-!
# The program

`Program.run` is what the program makes of its arguments and of the files it can read; the
functions on its `Result` say what it prints and with which status it ends.
-/

namespace EchoProbe

/-- The flags that options stand for. -/
def Options.flags (o : Options) : Flags := ⟨!o.numeric, o.timestamp, o.quiet⟩

/-- A scenario with the values that options give in place of its own. -/
def Options.override (o : Options) (s : Scenario) : Scenario :=
  { s with count := o.count.or s.count, intervalMs := o.interval.or s.intervalMs }

namespace Program

/-- How a run of the program ends. -/
inductive Result
  /-- Help was asked for. -/
  | help
  /-- The version was asked for. -/
  | version
  /-- The command line makes no sense. -/
  | misuse (cause : UsageError)
  /-- The file cannot be read. -/
  | unreadable (file reason : String)
  /-- The file holds no scenario. -/
  | malformed
  /-- The scenario has no outcome. -/
  | rejected (cause : Error)
  /-- The scenario has an outcome. -/
  | finished (outcome : Outcome)

/-- What is printed. -/
inductive Output
  | help
  | lines (ls : List String)

/-- The name and the version of the program. -/
def versionLine : String := "paris-sim 0.3.0"

namespace Result

/-- What is printed. -/
def output : Result → Output
  | help => .help
  | version => .lines [versionLine]
  | finished o => .lines o.lines
  | _ => .lines []

/-- The exit status. A clock that overflows ends the program at once. -/
def status : Result → Nat
  | help => 0
  | version => 0
  | misuse _ => 2
  | unreadable _ _ => 1
  | malformed => 1
  | rejected .clockOverflow => 101
  | rejected _ => 1
  | finished o => if o.failure.isSome then 1 else 0

/-- The message of a failure with status one. -/
def failure : Result → Option String
  | unreadable file reason => some (file ++ "\n\nCaused by:\n    " ++ reason)
  | malformed => some "TOML parse error"
  | rejected .clockOverflow => none
  | rejected e => some e.message
  | finished o => o.failure.map Error.message
  | _ => none

end Result

/-- Runs the scenario that a file holds. -/
def runText (room : Room) (options : Options) (text : String) : Result :=
  match Scenario.ofToml? text with
  | none => .malformed
  | some s =>
    match simulate room (options.override s) options.flags with
    | .error e => .rejected e
    | .ok outcome => .finished outcome

/-- Runs the program. -/
def run (room : Room) (arguments : List String) (readFile : String → Except String String) :
    Result :=
  match CommandLine.parse arguments with
  | .error e => .misuse e
  | .ok .help => .help
  | .ok .version => .version
  | .ok (.run file options) =>
    match readFile file with
    | .error reason => .unreadable file reason
    | .ok text => runText room options text

end Program

end EchoProbe
