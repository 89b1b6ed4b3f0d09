import Observation.Log.Profile

/-!
# The command line

    [--log-format FORMAT] eval -f FILE -e FILE [--local]
    [--log-format FORMAT] check -f FILE

* `Command`, `Invocation` - what is asked for.
* `UsageError` - why arguments ask for nothing.
* `Invocation.parse` - reads arguments.

A value may follow its option as the next argument, after `=`, or right after a short option.  The
option `--log-format` may stand before the command, among its arguments, or in both places; the
latter is then decisive.
-/

namespace Observation

/-- A command with its arguments. -/
inductive Command where
  | eval (filter events : String) (isLocal : Bool)
  | check (filter : String)
  deriving DecidableEq, Repr

/-- A command and how to show the log. -/
structure Invocation where
  profile : Log.Profile
  command : Command
  deriving DecidableEq, Repr

/-- Why arguments are refused. -/
inductive UsageError where
  | unexpected (argument : String)
  | missingValue (name : String)
  | unwantedValue (name : String)
  | repeated (name : String)
  | missing (name : String)
  | missingCommand
  | unknownFormat (reason : String)
  deriving DecidableEq, Repr

/-- The error in words. -/
def UsageError.message : UsageError → String
  | unexpected argument => "unexpected argument '" ++ argument ++ "' found"
  | missingValue name => "a value is required for '--" ++ name ++ "' but none was supplied"
  | unwantedValue name => "unexpected value for '--" ++ name ++ "'"
  | repeated name => "the argument '--" ++ name ++ "' cannot be used multiple times"
  | missing name => "the argument '--" ++ name ++ "' was not provided"
  | missingCommand => "a command is required: eval or check"
  | unknownFormat reason => reason

namespace CommandLine

/-- An option of a command. -/
structure OptionSpec where
  name : String
  short : Option Char
  hasValue : Bool
  deriving DecidableEq, Repr

/-- The option that chooses how to show the log. -/
def logFormat : OptionSpec := ⟨"log-format", none, true⟩

/-- The option that names the file of the filter. -/
def filterFile : OptionSpec := ⟨"filter", some 'f', true⟩

/-- The option that names the file of the events. -/
def eventsFile : OptionSpec := ⟨"events", some 'e', true⟩

/-- The option that makes every event one of the evaluating session. -/
def localEvents : OptionSpec := ⟨"local", none, false⟩

/-- An option as it was given: its name, and its value or an empty text. -/
abbrev Given : Type := String × String

/-- One argument: an option, with what is attached to it, or something else. -/
inductive Argument where
  | option (spec : OptionSpec) (attached : Option String)
  | endOfOptions
  | word (s : String)
  | unknown (s : String)
  deriving DecidableEq, Repr

/-- Recognises an argument among some options. -/
def recognise (specs : List OptionSpec) (argument : String) : Argument :=
  match argument.toList with
  | ['-', '-'] => .endOfOptions
  | '-' :: '-' :: rest =>
    let name := String.ofList (rest.takeWhile (· != '='))
    match specs.find? fun spec => spec.name == name with
    | some spec =>
      match rest.dropWhile (· != '=') with
      | [] => .option spec none
      | _ :: value => .option spec (some (String.ofList value))
    | none => .unknown argument
  | '-' :: c :: rest =>
    match specs.find? fun spec => spec.short == some c with
    | some spec =>
      match rest with
      | [] => .option spec none
      | '=' :: value => .option spec (some (String.ofList value))
      | value => .option spec (some (String.ofList value))
    | none => .unknown argument
  | _ => .word argument

/-- Records an option; each may be given once, and no value may be empty. -/
def record (given : List Given) (spec : OptionSpec) (value : String) :
    Except UsageError (List Given) :=
  if given.any fun g => g.1 == spec.name then .error (.repeated spec.name)
  else if spec.hasValue ∧ value = "" then .error (.missingValue spec.name)
  else .ok (given ++ [(spec.name, value)])

/-- Reads options up to the first word, and gives that word with the arguments after it. -/
def readOptions (specs : List OptionSpec) (given : List Given) :
    List String → Except UsageError (List Given × Option (String × List String))
  | [] => .ok (given, none)
  | argument :: rest =>
    match recognise specs argument with
    | .word s => .ok (given, some (s, rest))
    | .unknown s => .error (.unexpected s)
    | .endOfOptions =>
      match rest with
      | [] => .ok (given, none)
      | s :: _ => .error (.unexpected s)
    | .option spec attached =>
      match spec.hasValue, attached, rest with
      | false, none, rest => do readOptions specs (← record given spec "") rest
      | false, some _, _ => .error (.unwantedValue spec.name)
      | true, some value, rest => do readOptions specs (← record given spec value) rest
      | true, none, [] => .error (.missingValue spec.name)
      | true, none, value :: rest =>
        match recognise specs value with
        | .word value => do readOptions specs (← record given spec value) rest
        | _ => .error (.missingValue spec.name)

/-- The value of an option. -/
def value? (given : List Given) (spec : OptionSpec) : Option String :=
  (given.find? fun g => g.1 == spec.name).map (·.2)

/-- The value of an option that has to be there. -/
def value (given : List Given) (spec : OptionSpec) : Except UsageError String :=
  match value? given spec with
  | some v => .ok v
  | none => .error (.missing spec.name)

/-- The profile that an option asks for. -/
def profile? (given : List Given) : Except UsageError (Option Log.Profile) :=
  match value? given logFormat with
  | none => .ok none
  | some s => ((Log.Profile.parse s).mapError .unknownFormat).map some

/-- Reads the arguments of a command, which are options only. -/
def readArguments (specs : List OptionSpec) (arguments : List String) :
    Except UsageError (List Given) := do
  match ← readOptions (logFormat :: specs) [] arguments with
  | (given, none) => return given
  | (_, some (word, _)) => throw (.unexpected word)

/-- Reads a command by its name. -/
def readCommand (name : String) (arguments : List String) :
    Except UsageError (Option Log.Profile × Command) :=
  if name = "eval" then do
    let given ← readArguments [filterFile, eventsFile, localEvents] arguments
    let filter ← value given filterFile
    let events ← value given eventsFile
    return (← profile? given, .eval filter events (value? given localEvents).isSome)
  else if name = "check" then do
    let given ← readArguments [filterFile] arguments
    return (← profile? given, .check (← value given filterFile))
  else .error (.unexpected name)

end CommandLine

/-- Reads the arguments of the program. -/
def Invocation.parse (arguments : List String) : Except UsageError Invocation := do
  match ← CommandLine.readOptions [CommandLine.logFormat] [] arguments with
  | (_, none) => throw .missingCommand
  | (given, some (name, rest)) =>
    let outer ← CommandLine.profile? given
    let (inner, command) ← CommandLine.readCommand name rest
    return ⟨(inner <|> outer).getD .development, command⟩

end Observation
