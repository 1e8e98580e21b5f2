import AsmSymbols.Text

/-!
# Log records

The work of the tool is told in log records.  A record has a severity, the part of the tool that
speaks, and a message.  Records are plain values; the time comes to a record when it is shown.
-/

set_option autoImplicit false

namespace AsmSymbols.Log

inductive Level where
  | error | warn | info | debug | trace
  deriving DecidableEq, Repr

namespace Level

/-- Verbosity: the less severe, the larger. -/
def verbosity : Level → Nat
  | .error => 1
  | .warn => 2
  | .info => 3
  | .debug => 4
  | .trace => 5

def name : Level → Text
  | .error => "ERROR"
  | .warn => "WARN"
  | .info => "INFO"
  | .debug => "DEBUG"
  | .trace => "TRACE"

/-- The level that a word names, in any mixture of cases. -/
def ofWord? (word : Text) : Option Level :=
  [error, warn, info, debug, trace].find? fun level => level.name == Text.upper word

end Level

/-- The part of the tool that speaks. -/
inductive Source where
  | scan
  | assembly
  | link
  | input
  | tool
  deriving DecidableEq, Repr

def Source.name : Source → Text
  | .scan => "libhasm::pass_zero"
  | .assembly => "libhasm::assembler"
  | .link => "libhasm::linker"
  | .input => "hasm::input"
  | .tool => "hasm"

structure Record where
  level : Level
  source : Source
  message : Text
  deriving DecidableEq, Repr

/-- Records of a level or a more severe one. -/
def upTo (level : Level) (records : List Record) : List Record :=
  records.filter fun record => record.level.verbosity ≤ level.verbosity

/-- Later lines of a message are indented by four blanks. -/
def indent (message : Text) : Text :=
  message.flatMap fun c => if c == '\n' then "\n    " else [c]

/-- The time at which a record is shown, in front of its level, if there is one. -/
def stamp (time : Option Text) : Text := time.elim [] fun shown => shown ++ " "

/-- The line that shows a record, its level padded to five characters. -/
def Record.render (time : Option Text) (record : Record) : Text :=
  "[" ++ stamp time ++ record.level.name ++ List.replicate (5 - record.level.name.length) ' ' ++ " "
    ++ record.source.name ++ "] " ++ indent record.message ++ "\n"

end AsmSymbols.Log
