import AsmSymbols.CommandLine
import AsmSymbols.Log.Filter
import AsmSymbols.Report
import AsmSymbols.Host

/-!
# The tool

A run reads the named files, scans and links them, and puts one report out, on standard output or
into a file.  It fails as a whole: whatever stage fails first, nothing is put out.

`prepare` is the part of a run that only looks at files, and takes the reader as an argument.  `run`
is a whole run and `invoke` a call of the program with its arguments; both act through a `Host`.
-/

set_option autoImplicit false

namespace AsmSymbols

inductive RunError where
  | reading (name : Text) (cause : FileError)
  | linking (cause : LinkError)
  | writing (name : Text) (cause : FileError)
  deriving DecidableEq, Repr

namespace RunError

/-- The stage that failed. -/
def stage : RunError → Text
  | .reading name _ => "reading " ++ name
  | .linking _ => "linking"
  | .writing name _ => "writing " ++ name

def cause : RunError → Text
  | .reading _ cause => cause.message
  | .linking cause => cause.message
  | .writing _ cause => cause.message

def message (problem : RunError) : Text := problem.stage ++ ": " ++ problem.cause

end RunError

namespace Tool

/-- A way to read a file by its name. -/
abbrev Reader := Text → Except FileError Text

def readModules (reader : Reader) : List Text → Except RunError (List Module)
  | [] => .ok []
  | name :: rest =>
    match reader name with
    | .error cause => .error (.reading name cause)
    | .ok text =>
      match readModules reader rest with
      | .error problem => .error problem
      | .ok modules => .ok (Module.ofText name text :: modules)

/-- Every file is told as it is read, up to the first that cannot be. -/
def readLog (reader : Reader) : List Text → List Log.Record
  | [] => []
  | name :: rest =>
    match reader name with
    | .error _ => []
    | .ok text =>
      ⟨.debug, .input,
        "read " ++ name ++ " (" ++ Text.decimal (Text.byteLength text) ++ " bytes)"⟩
        :: readLog reader rest

/-- The linked symbols, if linking is asked for. -/
def linkIfAsked (options : Options) (modules : List Module) : Except RunError (Option Globals) :=
  if options.assembleOnly then .ok none
  else
    match link modules with
    | .error cause => .error (.linking cause)
    | .ok globals => .ok (some globals)

def report (options : Options) (modules : List Module) (globals : Option Globals) : Text :=
  if options.json then Report.json modules globals else Report.text modules globals

/-- The report of a run, before it is put out. -/
def prepare (options : Options) (reader : Reader) : Except RunError Text :=
  match readModules reader options.filenames with
  | .error problem => .error problem
  | .ok modules =>
    let scanned := assemble .standard modules
    match linkIfAsked options scanned with
    | .error problem => .error problem
    | .ok globals => .ok (report options scanned globals)

def prepareLog (options : Options) (reader : Reader) : List Log.Record :=
  readLog reader options.filenames ++
    match readModules reader options.filenames with
    | .error _ => []
    | .ok modules =>
      assemblyLog .standard modules ++
        if options.assembleOnly then [] else linkLog (assemble .standard modules)

def writingRecord (output : Text) : Log.Record := ⟨.info, .tool, "writing " ++ output⟩

/-- All that a run tells.  That the report is about to be written comes last. -/
def runLog (options : Options) (reader : Reader) : List Log.Record :=
  prepareLog options reader ++
    match options.output with
    | none => []
    | some output =>
      match prepare options reader with
      | .error _ => []
      | .ok _ => [writingRecord output]

def errorLine (message : Text) : Text := "error: " ++ message ++ "\n"

def renderWarnings (warnings : List Log.Filter.Warning) : Text :=
  warnings.flatMap fun warning => warning.message ++ "\n"

/-- The exit status and the standard output and error of arguments that lead to no run. -/
def refuse : Refusal → Nat × Text × Text
  | .help => (0, helpText, [])
  | .version => (0, versionText, [])
  | .usage problem => (2, [], errorLine problem.message)
  | refusal => (1, [], errorLine refusal.message)

section Acting

variable {m : Type → Type} [Monad m]

/-- Read files one after the other, up to the first that cannot be read.  The reader answers with
what was found. -/
def readInTurn (host : Host m) : List Text → m Reader
  | [] => return fun _ => .error .notFound
  | name :: rest => do
    let found := textOf (← host.read name)
    match found with
    | .error _ => return fun _ => found
    | .ok _ =>
      let others ← readInTurn host rest
      return fun other => if other = name then found else others other

/-- Show the records that a filter lets through, each with the time. -/
def tell (host : Host m) (filter : Log.Filter) : List Log.Record → m Unit
  | [] => return ()
  | record :: rest => do
    if filter.shows record then
      host.complain (record.render (← host.time))
    tell host filter rest

/-- Put a report out, on standard output or into a file. -/
def putOut (host : Host m) (output : Option Text) (report : Text) :
    m (Except RunError Unit) := do
  match output with
  | none =>
    host.print report
    return .ok ()
  | some name =>
    match ← host.write name (encodeText report) with
    | .error cause => return .error (.writing name cause)
    | .ok () => return .ok ()

def run (host : Host m) (filter : Log.Filter) (options : Options) :
    m (Except RunError Unit) := do
  let reader ← readInTurn host options.filenames
  tell host filter (runLog options reader)
  match prepare options reader with
  | .error problem => return .error problem
  | .ok report => putOut host options.output report

/-- Tell the problem of a run, if it has one, and give the exit status. -/
def conclude (host : Host m) : Except RunError Unit → m Nat
  | .ok () => return 0
  | .error problem => do
    host.complain (errorLine problem.message)
    return 1

/-- A call of the program, which gives the exit status.  `wish` is the log filter that the user asks
for; what is wrong with it is told before anything else. -/
def invoke (host : Host m) (arguments : List Text) (wish : Option Text) : m Nat := do
  let (filter, warnings) := Log.Filter.ofWish wish
  host.complain (renderWarnings warnings)
  match Options.ofArguments arguments with
  | .error refusal =>
    let (exit, stdout, stderr) := refuse refusal
    host.print stdout
    host.complain stderr
    return exit
  | .ok options => conclude host (← run host filter options)

end Acting

/-- A run in a world, in the working directory `here`. -/
def runAt (here : Path) (filter : Log.Filter) (options : Options) (world : World) :
    Except RunError Unit × World :=
  (run (World.host here) filter options).run world

/-- A call of the program in a world, in the working directory `here`. -/
def invokeAt (here : Path) (arguments : List Text) (wish : Option Text) (world : World) :
    Nat × World :=
  (invoke (World.host here) arguments wish).run world

end Tool

end AsmSymbols
