import AsmSymbols.Table
import AsmSymbols.Statement

/-!
# Symbols of a module

Labels define symbols and operands use them.  Both are recorded with their line and their byte
offset, under the upper case of the symbol, because symbols ignore ASCII case.  The first definition
of a symbol counts and every later one is an issue; usages are all kept, in source order.

No state passes from one line to the next except through the tables: `Symbols.addLine` records one
line, and `Symbols.ofLines` is its fold over all lines.
-/

set_option autoImplicit false

namespace AsmSymbols

/-- The table key of a symbol. -/
def symbolKey (symbol : Text) : Text := Text.upper symbol

structure Definition where
  symbol : Text
  line : Nat
  offset : Nat
  /-- The label is only declared here; another module defines it. -/
  external : Bool
  deriving DecidableEq, Repr

structure Usage where
  symbol : Text
  line : Nat
  offset : Nat
  deriving DecidableEq, Repr

/-- A label whose symbol an earlier line defines. -/
structure Redefinition where
  symbol : Text
  line : Nat
  offset : Nat
  firstLine : Nat
  firstOffset : Nat
  deriving DecidableEq, Repr

/-- A place in a source, as it appears in messages and reports. -/
def placeText (line offset : Nat) : Text := Text.decimal line ++ ":" ++ Text.decimal offset

def Redefinition.message (issue : Redefinition) : Text :=
  "symbol `" ++ issue.symbol ++ "` redefined at " ++ placeText issue.line issue.offset
    ++ " (first defined at " ++ placeText issue.firstLine issue.firstOffset ++ ")"

abbrev DefinitionTable := Table Text Definition

abbrev UsageTable := Table Text (List Usage)

namespace DefinitionTable

def get? (table : DefinitionTable) (symbol : Text) : Option Definition :=
  table.find? (symbolKey symbol)

def defines (table : DefinitionTable) (symbol : Text) : Bool := table.contains (symbolKey symbol)

end DefinitionTable

namespace UsageTable

def get (table : UsageTable) (symbol : Text) : List Usage :=
  (table.find? (symbolKey symbol)).getD []

def mentions (table : UsageTable) (symbol : Text) : Bool := table.contains (symbolKey symbol)

def add (table : UsageTable) (usage : Usage) : UsageTable :=
  table.upsert (symbolKey usage.symbol) fun held => held.getD [] ++ [usage]

end UsageTable

/-- The symbols that an operand on line `line` uses: its terms other than literals and reserved
words. -/
def operandUsages (set : InstructionSet) (line : Nat) (operand : Token) : List Usage :=
  if isLiteral operand.text then []
  else
    (Operand.terms operand.text).filterMap fun (start, term) =>
      if term.isEmpty || isLiteral term || set.isReserved term then none
      else some ⟨term, line, operand.offset + start⟩

namespace Statement

def usages (set : InstructionSet) (line : Nat) (statement : Statement) : List Usage :=
  statement.body.flatMap fun
    | .operand word => operandUsages set line word
    | _ => []

def definition? (set : InstructionSet) (line : Nat) (statement : Statement) : Option Definition :=
  match statement.head with
  | .label word => some ⟨word.text, line, word.offset, statement.isExternal set⟩
  | _ => none

end Statement

structure Symbols where
  definitions : DefinitionTable := {}
  usages : UsageTable := {}
  issues : List Redefinition := []
  deriving DecidableEq

namespace Symbols

def addUsage (symbols : Symbols) (usage : Usage) : Symbols :=
  { symbols with usages := symbols.usages.add usage }

def addDefinition (symbols : Symbols) (definition : Definition) : Symbols :=
  match symbols.definitions.get? definition.symbol with
  | none =>
    { symbols with
      definitions := symbols.definitions.insert (symbolKey definition.symbol) definition }
  | some first =>
    { symbols with
      issues := symbols.issues ++
        [⟨definition.symbol, definition.line, definition.offset, first.line, first.offset⟩] }

/-- Record the statement of line `line`. -/
def addStatement (set : InstructionSet) (symbols : Symbols) (line : Nat) (statement : Statement) :
    Symbols :=
  let used := (statement.usages set line).foldl addUsage symbols
  match statement.definition? set line with
  | none => used
  | some definition => used.addDefinition definition

def addLine (set : InstructionSet) (symbols : Symbols) (line : Nat) (text : Text) : Symbols :=
  symbols.addStatement set line (Statement.ofLine set text)

/-- Record lines, the first of which has number `first`. -/
def addLines (set : InstructionSet) (symbols : Symbols) (first : Nat) : List Text → Symbols
  | [] => symbols
  | text :: rest => addLines set (symbols.addLine set first text) (first + 1) rest

def ofLines (set : InstructionSet) (lines : List Text) : Symbols := addLines set {} 0 lines

end Symbols

end AsmSymbols
