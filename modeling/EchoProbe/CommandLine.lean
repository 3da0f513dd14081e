import EchoProbe.Radix
import EchoProbe.Text.Numeral

/-!
# The command line

* `Options` are what the command line can say; a `Switch` turns something on, a `Setting` takes a
  value;
* `CommandLine.parse` reads the arguments: a setting takes its value from the same argument or
  from the next one, short forms may be joined, nothing is given twice, and after `--` every
  argument is a file.

These are the documented rules of a declared argument parser. A value stands after `=`, right after
a letter, or in the next argument, unless that looks like an option itself; an option that is not
repeatable refuses its second occurrence; a request for help or for the version ends the reading;
a lone `-` is a plain argument.
-/

namespace EchoProbe

/-- What the command line says. -/
structure Options where
  /-- The file that holds the scenario. -/
  file : Option String := none
  /-- The number of probes to send. -/
  count : Option UInt64 := none
  /-- The time between two probes, in milliseconds. -/
  interval : Option UInt64 := none
  /-- Hosts are shown by address alone. -/
  numeric : Bool := false
  /-- Only the summary is shown. -/
  quiet : Bool := false
  /-- Each line about a probe starts with a time. -/
  timestamp : Bool := false
  /-- What is logged. -/
  logLevel : Option String := none
deriving DecidableEq

/-- An option without a value. -/
inductive Switch
  | numeric
  | quiet
  | timestamp
  | help
  | version
deriving DecidableEq

/-- An option with a value. -/
inductive Setting
  | count
  | interval
  | logLevel
deriving DecidableEq

/-- An option. -/
inductive CommandOption
  | switch (s : Switch)
  | setting (s : Setting)
deriving DecidableEq

namespace CommandOption

/-- The option with a long name. -/
def ofName? : String → Option CommandOption
  | "count" => some (.setting .count)
  | "interval" => some (.setting .interval)
  | "log-level" => some (.setting .logLevel)
  | "numeric" => some (.switch .numeric)
  | "quiet" => some (.switch .quiet)
  | "timestamp" => some (.switch .timestamp)
  | "help" => some (.switch .help)
  | "version" => some (.switch .version)
  | _ => none

/-- The option with a letter. -/
def ofLetter? : Char → Option CommandOption
  | 'c' => some (.setting .count)
  | 'i' => some (.setting .interval)
  | 'n' => some (.switch .numeric)
  | 'q' => some (.switch .quiet)
  | 'D' => some (.switch .timestamp)
  | 'h' => some (.switch .help)
  | 'V' => some (.switch .version)
  | _ => none

end CommandOption

/-- What is wrong with a command line. -/
inductive UsageError
  /-- There are no arguments at all. -/
  | noArguments
  /-- There is no file. -/
  | noFile
  /-- No option or file was called for. -/
  | unexpected (argument : String)
  /-- An option was given twice. -/
  | repeated (option : CommandOption)
  /-- A setting has no value. -/
  | missingValue (setting : Setting)
  /-- A setting cannot have this value. -/
  | invalidValue (setting : Setting) (value : String)
deriving DecidableEq

/-- What a command line asks for. -/
inductive Request
  | help
  | version
  | run (file : String) (options : Options)
deriving DecidableEq

namespace CommandLine

/-- What follows from one option: the options so far, or a request that leaves the rest of the
command line aside. -/
inductive Step
  | options (o : Options)
  | request (r : Request)

/-- Turns a switch on. -/
def turnOn (o : Options) : Switch → Except UsageError Step
  | .numeric =>
    if o.numeric then .error (.repeated (.switch .numeric))
    else .ok (.options { o with numeric := true })
  | .quiet =>
    if o.quiet then .error (.repeated (.switch .quiet))
    else .ok (.options { o with quiet := true })
  | .timestamp =>
    if o.timestamp then .error (.repeated (.switch .timestamp))
    else .ok (.options { o with timestamp := true })
  | .help => .ok (.request .help)
  | .version => .ok (.request .version)

/-- A number of 64 bits, as the value of a setting. -/
def word (setting : Setting) (value : String) : Except UsageError UInt64 :=
  match Numeral.unsigned? (2 ^ 64) value with
  | some n => .ok (UInt64.ofNat n)
  | none => .error (.invalidValue setting value)

/-- Gives a setting its value. -/
def assign (o : Options) (setting : Setting) (value : String) : Except UsageError Options :=
  match setting with
  | .count => do
    let n ← word .count value
    if o.count.isSome then throw (.repeated (.setting .count))
    return { o with count := some n }
  | .interval => do
    let n ← word .interval value
    if o.interval.isSome then throw (.repeated (.setting .interval))
    return { o with interval := some n }
  | .logLevel => do
    if o.logLevel.isSome then throw (.repeated (.setting .logLevel))
    return { o with logLevel := some value }

/-- What joined letters ask for, up to a setting; then also what stands after its letter. -/
def letters (o : Options) : List Char → Except UsageError (Step × Option (Setting × List Char))
  | [] => .ok (.options o, none)
  | c :: cs =>
    match CommandOption.ofLetter? c with
    | none => .error (.unexpected (String.ofList ['-', c]))
    | some (.setting s) => .ok (.options o, some (s, cs))
    | some (.switch s) => do
      match ← turnOn o s with
      | .options o => letters o cs
      | .request r => return (.request r, none)

/-- The argument is an option, not a value. -/
def isOption (argument : String) : Bool :=
  argument.toList.head? = some '-' && argument ≠ "-"

/-- A long argument without its dashes: its name, and what stands after an equals sign. -/
def splitLong (cs : List Char) : String × Option String :=
  let name := cs.takeWhile (· ≠ '=')
  match cs.dropWhile (· ≠ '=') with
  | _ :: value => (String.ofList name, some (String.ofList value))
  | [] => (String.ofList name, none)

/-- What stands after the letter of a setting, as a value: an equals sign in front does not
count. -/
def attached (cs : List Char) : Option String :=
  match cs with
  | [] => none
  | '=' :: value => some (String.ofList value)
  | value => some (String.ofList value)

/-- Takes an argument for the file. -/
def takeFile (o : Options) (argument : String) : Except UsageError Options :=
  if o.file.isSome then .error (.unexpected argument) else .ok { o with file := some argument }

/-- What the options so far ask for, at the end of the command line. -/
def finish (o : Options) : Except UsageError Request :=
  match o.file with
  | some file => .ok (.run file o)
  | none => .error .noFile

/-- What an argument says about options: how far it gets, and the setting whose value it gives or
leaves to the next argument. -/
def readOption (o : Options) (argument : String) :
    Except UsageError (Step × Option (Setting × Option String)) :=
  match argument.toList with
  | '-' :: '-' :: cs =>
    let (name, value) := splitLong cs
    match CommandOption.ofName? name, value with
    | none, _ => .error (.unexpected argument)
    | some (.setting s), value => .ok (.options o, some (s, value))
    | some (.switch _), some _ => .error (.unexpected argument)
    | some (.switch s), none => (turnOn o s).map (·, none)
  | cs => (letters o cs.tail).map fun (step, setting) =>
    (step, setting.map fun (s, rest) => (s, attached rest))

/-- Reads the arguments, after the given options. -/
def readAll (o : Options) : List String → Except UsageError Request
  | [] => finish o
  | "--" :: files => do finish (← files.foldlM takeFile o)
  | argument :: rest =>
    if isOption argument then do
      match ← readOption o argument with
      | (.request r, _) => return r
      | (.options o, none) => readAll o rest
      | (.options o, some (s, some value)) => readAll (← assign o s value) rest
      | (.options o, some (s, none)) =>
        match rest with
        | value :: rest =>
          if isOption value then throw (.missingValue s)
          else readAll (← assign o s value) rest
        | [] => throw (.missingValue s)
    else do readAll (← takeFile o argument) rest

/-- Reads a command line. -/
def parse (arguments : List String) : Except UsageError Request :=
  if arguments.isEmpty then .error .noArguments else readAll {} arguments

end CommandLine

end EchoProbe
