import EchoProbe.Program

/-!
# The executable

Reads the arguments and the file they name, and prints what `Program.run` makes of them.
-/

namespace EchoProbe

namespace Program

/-- How the program is used. -/
def helpLines : List String :=
  ["Ping a simulated host and report statistics",
   "",
   "Usage: paris-sim [OPTIONS] <SIMULATION>",
   "",
   "Arguments:",
   "  <SIMULATION>  A simulation file to run",
   "",
   "Options:",
   "  -c, --count <COUNT>          The number of probes to send [default: from the simulation]",
   "  -i, --interval <INTERVAL>    The interval between probes in milliseconds [default: from the simulation]",
   "  -n, --numeric                Do not resolve addresses to hostnames",
   "  -q, --quiet                  Only print the summary",
   "  -D, --timestamp              Print a timestamp before each line",
   "      --log-level <LOG_LEVEL>  The log filter [default: warn]",
   "  -h, --help                   Print help",
   "  -V, --version                Print version"]

/-- The lines that go to the standard output. -/
def Output.toLines : Output → List String
  | .help => helpLines
  | .lines ls => ls

/-- What is wrong with a command line. -/
def usageMessage : UsageError → String
  | .noArguments => "\n".intercalate helpLines
  | .noFile => "error: a simulation file is required"
  | .unexpected argument => "error: unexpected argument " ++ argument
  | .repeated _ => "error: an option cannot be used multiple times"
  | .missingValue _ => "error: an option lacks its value"
  | .invalidValue _ value => "error: invalid value " ++ value

/-- What goes to the standard error output. -/
def Result.diagnostic? : Result → Option String
  | .misuse e => some (usageMessage e)
  | r => r.failure.map ("Error: " ++ ·)

/-- The reason why a file cannot be read. -/
def reason : IO.Error → String
  | .noFileOrDirectory _ _ _ => "No such file or directory (os error 2)"
  | .permissionDenied _ _ _ => "Permission denied (os error 13)"
  | e => toString e

/-- The text of a file, or the reason why it cannot be read. -/
def readText (file : String) : IO (Except String String) := do
  match ← (IO.FS.readFile file).toBaseIO with
  | .ok text => return .ok text
  | .error e => return .error (reason e)

/-- A process has room for as many records of eight bytes as can be addressed with 48 bits. -/
def room : Room := fun n => n < 2 ^ 45

/-- The only file that some arguments call for. -/
def fileOf (arguments : List String) : Option String :=
  match CommandLine.parse arguments with
  | .ok (.run file _) => some file
  | _ => none

end Program

end EchoProbe

open EchoProbe in
/-- Runs the program. -/
def main (arguments : List String) : IO UInt32 := do
  let text ← match Program.fileOf arguments with
    | some file => Program.readText file
    | none => pure (.error "")
  let result := Program.run Program.room arguments fun _ => text
  for line in result.output.toLines do
    IO.println line
  if let some message := result.diagnostic? then
    IO.eprintln message
  return result.status.toUInt32
