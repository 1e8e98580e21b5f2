import AsmSymbols.Log
import AsmSymbols.Symbols

/-!
# Modules

A module is a named source file with the symbols found in it, and a job is a list of modules.
`Module.scan` finds the symbols; `scanLog` tells what a scan sees, line by line, and then its issues
and totals.  `assemble` scans all modules of a job, in order.
-/

set_option autoImplicit false

namespace AsmSymbols

structure Module where
  name : Text
  lines : List Text
  symbols : Symbols := {}
  deriving DecidableEq

namespace Module

/-- A module from the text of its file, not scanned yet. -/
def ofText (name text : Text) : Module := ⟨name, Text.lines text, {}⟩

def definitions (module : Module) : DefinitionTable := module.symbols.definitions

def usages (module : Module) : UsageTable := module.symbols.usages

def issues (module : Module) : List Redefinition := module.symbols.issues

/-- Find the module's symbols.  Whatever was recorded before is replaced. -/
def scan (set : InstructionSet) (module : Module) : Module :=
  { module with symbols := Symbols.ofLines set module.lines }

end Module

namespace Log

def scanRecord (level : Level) (message : Text) : Record := ⟨level, .scan, message⟩

/-- A record on line `line`. -/
def lineRecord (level : Level) (line : Nat) (message : Text) : Record :=
  scanRecord level ("line " ++ Text.decimal line ++ ": " ++ message)

def usageRecord (usage : Usage) : Record :=
  lineRecord .trace usage.line ("usage " ++ usage.symbol ++ " at " ++ Text.decimal usage.offset)

def partRecords (set : InstructionSet) (line : Nat) : Part → List Record
  | .mnemonic word => [lineRecord .trace line ("mnemonic " ++ word.text)]
  | .operand word => (operandUsages set line word).map usageRecord
  | .stray offset => [lineRecord .debug line ("stray label terminator at " ++ Text.decimal offset)]
  | .unterminated offset =>
    [lineRecord .debug line ("unterminated quote at " ++ Text.decimal offset)]

/-- What the scan of one line tells.  The label comes last, once its instruction is known. -/
def statementRecords (set : InstructionSet) (line : Nat) (statement : Statement) : List Record :=
  let opening :=
    match statement.head with
    | .bare => [lineRecord .debug line "label terminator without a label"]
    | _ => []
  let closing :=
    match statement.head with
    | .label word =>
      [lineRecord .trace line ("label " ++ word.text ++ " at " ++ Text.decimal word.offset)]
    | _ => []
  opening ++ statement.body.flatMap (partRecords set line) ++ closing

def issueRecord (name : Text) (issue : Redefinition) : Record :=
  scanRecord .warn (name ++ ": " ++ issue.message)

def totalsRecord (name : Text) (symbols : Symbols) : Record :=
  scanRecord .debug (name ++ ": " ++ Text.decimal symbols.definitions.size ++ " definitions, "
    ++ Text.decimal symbols.usages.size ++ " referenced symbols, "
    ++ Text.decimal symbols.issues.length ++ " issues")

end Log

open Log

namespace Module

/-- The records of lines, the first of which has number `first`. -/
def lineRecords (set : InstructionSet) (first : Nat) : List Text → List Record
  | [] => []
  | text :: rest =>
    statementRecords set first (Statement.ofLine set text) ++ lineRecords set (first + 1) rest

def scanLog (set : InstructionSet) (module : Module) : List Record :=
  let symbols := Symbols.ofLines set module.lines
  lineRecords set 0 module.lines ++ symbols.issues.map (issueRecord module.name)
    ++ [totalsRecord module.name symbols]

end Module

/-- The first module of that name. -/
def moduleNamed? (modules : List Module) (name : Text) : Option Module :=
  modules.find? fun module => module.name == name

def assemble (set : InstructionSet) (modules : List Module) : List Module :=
  modules.map (Module.scan set)

def assemblyLog (set : InstructionSet) (modules : List Module) : List Record :=
  modules.flatMap fun module =>
    ⟨.debug, .assembly, "zeroth pass over " ++ module.name⟩ :: module.scanLog set

end AsmSymbols
