import AsmSymbols.Text

/-!
# The command line

Arguments are file names and options, in any order.  `-o` takes a value, attached or as the next
argument; `-c` and `--json` take none; short options can share one dash.  Behind `--` every argument
is a file name, and so is a lone `-` anywhere.  Each option may be given once.

Arguments are read from left to right and the first problem is reported.  A value that stands in
an argument of its own is settled by what follows it: the problem of an unknown option, or of a
value for an option that takes none, comes before that of the `-o` in front of it.
-/

set_option autoImplicit false

namespace AsmSymbols

structure Options where
  filenames : List Text := []
  output : Option Text := none
  assembleOnly : Bool := false
  json : Bool := false
  deriving DecidableEq, Repr

inductive UsageError where
  | unknownOption
  | missingValue
  | repeatedOption
  | unwantedValue
  deriving DecidableEq, Repr

/-- Why arguments lead to no run. -/
inductive Refusal where
  | usage (problem : UsageError)
  | help
  | version
  | noInputFiles
  | outputWithMultipleInputs
  | outputMatchesInput (output : Text)
  deriving DecidableEq, Repr

def UsageError.message : UsageError → Text
  | .unknownOption => "unknown option"
  | .missingValue => "option '-o' needs a value"
  | .repeatedOption => "an option is given twice"
  | .unwantedValue => "an option that takes no value has one"

def helpLines : List Text := [
  "Two-pass assembler for the accumulator machine",
  "",
  "Usage: hasm [OPTIONS] [FILENAMES]...",
  "",
  "Arguments:",
  "  [FILENAMES]...  Assembly source files, one module each",
  "",
  "Options:",
  "  -o <FILE>      Output file (default: stdout)",
  "  -c             Assemble only, don't link the modules",
  "      --json     Write the symbol tables as JSON",
  "  -h, --help     Print help",
  "  -V, --version  Print version"]

def helpText : Text := helpLines.flatMap fun line => line ++ ['\n']

def versionText : Text := "hasm 0.1.0\n"

def Refusal.message : Refusal → Text
  | .usage problem => problem.message
  | .help => helpText
  | .version => versionText
  | .noInputFiles => "no input files"
  | .outputWithMultipleInputs => "'-o' can't be used with multiple input files"
  | .outputMatchesInput output => "output name `" ++ output ++ "` is the same as an input name"

namespace CommandLine

/-- An `-o` that was seen but is not settled yet. -/
inductive Pending where
  | nothing
  | awaiting
  | given (value : Text)
  deriving DecidableEq, Repr

structure State where
  options : Options := {}
  pending : Pending := .nothing
  /-- `--` was seen. -/
  ended : Bool := false
  deriving DecidableEq, Repr

namespace State

def setOutput (state : State) (value : Text) : Except Refusal State :=
  match state.options.output with
  | some _ => .error (.usage .repeatedOption)
  | none => .ok { state with options := { state.options with output := some value } }

/-- Settle the pending `-o`. -/
def settle (state : State) : Except Refusal State :=
  match state.pending with
  | .nothing => .ok state
  | .awaiting => .error (.usage .missingValue)
  | .given value => { state with pending := .nothing }.setOutput value

def setAssembleOnly (state : State) : Except Refusal State :=
  if state.options.assembleOnly then .error (.usage .repeatedOption)
  else .ok { state with options := { state.options with assembleOnly := true } }

def setJson (state : State) : Except Refusal State :=
  if state.options.json then .error (.usage .repeatedOption)
  else .ok { state with options := { state.options with json := true } }

def addFilename (state : State) (name : Text) : State :=
  { state with options := { state.options with filenames := state.options.filenames ++ [name] } }

/-- Short options behind one dash.  What follows `o` is its value, less one `=`. -/
def readShort (state : State) : Text → Except Refusal State
  | [] => .ok state
  | 'c' :: rest => do
    let settled ← state.settle
    let next ← settled.setAssembleOnly
    next.readShort rest
  | 'o' :: [] => do
    let settled ← state.settle
    return { settled with pending := .awaiting }
  | 'o' :: '=' :: value => do
    let settled ← state.settle
    settled.setOutput value
  | 'o' :: value => do
    let settled ← state.settle
    settled.setOutput value
  | 'h' :: _ => do
    let _ ← state.settle
    throw .help
  | 'V' :: _ => do
    let _ ← state.settle
    throw .version
  | _ => throw (.usage .unknownOption)

/-- A long option, written behind two dashes, and the value attached to it. -/
def readLong (state : State) (option : Text) (value : Option Text) : Except Refusal State :=
  let known : List Text := ["json", "help", "version"]
  if !known.contains option then throw (.usage .unknownOption)
  else if value.isSome then throw (.usage .unwantedValue)
  else do
    let settled ← state.settle
    if option == ("json" : Text) then settled.setJson
    else if option == ("help" : Text) then throw .help
    else throw .version

def readName (state : State) (name : Text) : Except Refusal State := do
  let settled ← state.settle
  return settled.addFilename name

/-- Cut a long option at its first `=`. -/
def splitLong (argument : Text) : Text × Option Text :=
  match argument.dropWhile (· != '=') with
  | [] => (argument, none)
  | _ :: value => (argument.takeWhile (· != '='), some value)

def read (state : State) (argument : Text) : Except Refusal State :=
  if state.ended then state.readName argument
  else
    match argument with
    | ['-', '-'] => return { state with ended := true }
    | '-' :: '-' :: long => state.readLong (splitLong long).1 (splitLong long).2
    | '-' :: c :: rest => state.readShort (c :: rest)
    | name =>
      match state.pending with
      | .awaiting => return { state with pending := .given name }
      | _ => state.readName name

end State

end CommandLine

namespace Options

/-- Arguments without the checks of `validate`. -/
def parse (arguments : List Text) : Except Refusal Options := do
  let state ← arguments.foldlM CommandLine.State.read {}
  let settled ← state.settle
  return settled.options

/-- There must be a file to read.  An output is for one file only and must have another name. -/
def validate (options : Options) : Except Refusal Options :=
  if options.filenames.isEmpty then .error .noInputFiles
  else
    match options.output with
    | none => .ok options
    | some output =>
      if options.filenames.length > 1 then .error .outputWithMultipleInputs
      else if options.filenames.contains output then .error (.outputMatchesInput output)
      else .ok options

def ofArguments (arguments : List Text) : Except Refusal Options := do
  let options ← parse arguments
  options.validate

end Options

end AsmSymbols
