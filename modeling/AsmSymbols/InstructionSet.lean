import AsmSymbols.Text

/-!
# Instruction sets

An instruction set tells which words of a line name an instruction, which operands name no symbol,
and which instructions declare their label to be defined by another module.
`InstructionSet.standard` is the set of the accumulator machine; the other two are built from word
lists.
-/

set_option autoImplicit false

namespace AsmSymbols

/-- Instructions of the accumulator machine, then its directives. -/
inductive Keyword where
  | add | sub | mult | div
  | jmp | jmpn | jmpp | jmpz
  | copy | load | store
  | input | output | stop
  | segment | space | const | equ | conditional | moduleBegin | moduleEnd | external | exported
  deriving DecidableEq, Repr

namespace Keyword

def all : List Keyword :=
  [.add, .sub, .mult, .div, .jmp, .jmpn, .jmpp, .jmpz, .copy, .load, .store, .input, .output, .stop,
    .segment, .space, .const, .equ, .conditional, .moduleBegin, .moduleEnd, .external, .exported]

def name : Keyword → Text
  | .add => "ADD"
  | .sub => "SUB"
  | .mult => "MULT"
  | .div => "DIV"
  | .jmp => "JMP"
  | .jmpn => "JMPN"
  | .jmpp => "JMPP"
  | .jmpz => "JMPZ"
  | .copy => "COPY"
  | .load => "LOAD"
  | .store => "STORE"
  | .input => "INPUT"
  | .output => "OUTPUT"
  | .stop => "STOP"
  | .segment => "SECTION"
  | .space => "SPACE"
  | .const => "CONST"
  | .equ => "EQU"
  | .conditional => "IF"
  | .moduleBegin => "BEGIN"
  | .moduleEnd => "END"
  | .external => "EXTERN"
  | .exported => "PUBLIC"

/-- Directives steer the assembler and are not executed by the machine. -/
def isDirective : Keyword → Bool
  | .segment | .space | .const | .equ | .conditional | .moduleBegin | .moduleEnd | .external
  | .exported => true
  | _ => false

/-- The keyword that a word spells, in any mixture of cases. -/
def ofWord? (word : Text) : Option Keyword :=
  all.find? fun keyword => keyword.name == Text.upper word

end Keyword

structure InstructionSet where
  /-- The word names an instruction. -/
  isMnemonic : Text → Bool
  /-- The word may stand as an operand without naming a symbol. -/
  isReserved : Text → Bool := fun _ => false
  /-- The label of such an instruction is defined by another module. -/
  isExternal : Text → Bool := fun _ => false

namespace InstructionSet

/-- Whether a list holds a word, in any mixture of cases. -/
def holds (words : List Text) (word : Text) : Bool :=
  words.any fun listed => Text.upper listed == Text.upper word

/-- The accumulator machine.  Its reserved words are the names of the two sections. -/
def standard : InstructionSet where
  isMnemonic word := (Keyword.ofWord? word).isSome
  isReserved word := holds ["TEXT", "DATA"] word
  isExternal word := Keyword.ofWord? word == some .external

/-- Listed words in any mixture of cases; none of them declares an external label. -/
def ofWords (mnemonics reserved : List Text) : InstructionSet where
  isMnemonic := holds mnemonics
  isReserved := holds reserved

/-- Listed words in their exact spelling, and nothing reserved. -/
def ofSpellings (mnemonics : List Text) : InstructionSet where
  isMnemonic word := mnemonics.contains word

end InstructionSet

end AsmSymbols
