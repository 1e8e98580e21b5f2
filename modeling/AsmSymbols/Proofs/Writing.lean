import AsmSymbols.Proofs.Recording
import AsmSymbols.Proofs.Terms

/-!
# Written statements

The statement language from the writer's side.  A written line is a statement together with its
layout: the blanks around its parts and the comment behind them.  Its types hold only what the
language allows, so `Line.text` needs no conditions.  `Line.definition?` and `Line.usages` say what
the writer means by a line, with the positions counted while writing.
-/

set_option autoImplicit false

namespace AsmSymbols.Written

/-- A run of blanks, which may be empty. -/
structure Blanks where
  text : Text
  blank : ∀ c ∈ text, isBlank c = true

/-- A run of blanks that separates what stands on its sides. -/
structure Gap extends Blanks where
  nonempty : text ≠ []

/-- A label or a mnemonic. -/
structure Word where
  text : Text
  nonempty : text ≠ []
  plain : ∀ c ∈ text, isWordChar c = true

/-- Characters of symbols: those of words, but no quotes and no joining characters. -/
def isSymbolChar (c : Char) : Bool := isWordChar c && !isQuote c && !isOperandSeparator c

inductive Joint where
  | comma
  | plus
  | minus
  deriving DecidableEq, Repr

def Joint.char : Joint → Char
  | .comma => ','
  | .plus => '+'
  | .minus => '-'

variable (set : InstructionSet)

inductive Term where
  | symbol (name : Text) (nonempty : name ≠ []) (plain : ∀ c ∈ name, isSymbolChar c = true)
      (notLiteral : isLiteral name = false) (notReserved : set.isReserved name = false)
  | reserved (word : Text) (nonempty : word ≠ []) (plain : ∀ c ∈ word, isSymbolChar c = true)
      (isReserved : set.isReserved word = true)
  /-- An unsigned number. -/
  | number (digits : Text)
      (isNumber : (Literal.isDecimal digits || Literal.isHexadecimal digits) = true)
  /-- A text in quotes, in which anything may stand but that quote and the semicolon. -/
  | quoted (quote : Char) (content : Text) (quotes : isQuote quote = true)
      (inside : quote ∉ content) (noComment : ';' ∉ content)

structure Operand where
  first : Term set
  rest : List (Joint × Term set)

structure Instruction where
  mnemonic : Word
  isMnemonic : set.isMnemonic mnemonic.text = true
  operands : List (Gap × Operand set)

/-- A label with the blanks on both sides of its terminator. -/
structure Label where
  word : Word
  before : Blanks
  after : Blanks

structure Line where
  indent : Blanks
  label : Option Label
  instruction : Option (Instruction set)
  trailing : Blanks
  comment : Option Text

variable {set}

section Text

def Term.text : Term set → Text
  | .symbol name _ _ _ _ => name
  | .reserved word _ _ _ => word
  | .number digits _ => digits
  | .quoted quote content _ _ _ => quote :: (content ++ [quote])

def linksText (links : List (Joint × Term set)) : Text :=
  links.flatMap fun (joint, term) => joint.char :: term.text

def Operand.text (operand : Operand set) : Text := operand.first.text ++ linksText operand.rest

def operandsText (operands : List (Gap × Operand set)) : Text :=
  operands.flatMap fun (gap, operand) => gap.text ++ operand.text

def Instruction.text (instruction : Instruction set) : Text :=
  instruction.mnemonic.text ++ operandsText instruction.operands

def Label.text (label : Label) : Text :=
  label.word.text ++ label.before.text ++ ':' :: label.after.text

def commentText : Option Text → Text
  | none => []
  | some comment => ';' :: comment

def Line.text (line : Line set) : Text :=
  line.indent.text ++ line.label.elim [] Label.text ++ line.instruction.elim [] Instruction.text
    ++ line.trailing.text ++ commentText line.comment

end Text

section Meaning

/-- A symbol is used where it stands; no other term uses anything. -/
def Term.usages (line offset : Nat) : Term set → List Usage
  | .symbol name _ _ _ _ => [⟨name, line, offset⟩]
  | _ => []

/-- The usages of the links of an operand.  The first joining character stands at `offset`. -/
def linksUsages (line offset : Nat) : List (Joint × Term set) → List Usage
  | [] => []
  | (_, term) :: links =>
    term.usages line (offset + 1) ++
      linksUsages line (offset + 1 + Text.byteLength term.text) links

def Operand.usages (line offset : Nat) (operand : Operand set) : List Usage :=
  operand.first.usages line offset ++
    linksUsages line (offset + Text.byteLength operand.first.text) operand.rest

/-- The usages of operands, the first of which has its gap at `offset`. -/
def operandsUsages (line offset : Nat) : List (Gap × Operand set) → List Usage
  | [] => []
  | (gap, operand) :: operands =>
    operand.usages line (offset + Text.byteLength gap.text) ++
      operandsUsages line
        (offset + Text.byteLength gap.text + Text.byteLength operand.text) operands

/-- The definition that line number `line` makes.  It is external if the instruction says so. -/
def Line.definition? (line : Nat) (written : Line set) : Option Definition :=
  written.label.map fun label =>
    ⟨label.word.text, line, Text.byteLength written.indent.text,
      written.instruction.any fun instruction => set.isExternal instruction.mnemonic.text⟩

def Line.usages (line : Nat) (written : Line set) : List Usage :=
  match written.instruction with
  | none => []
  | some instruction =>
    operandsUsages line
      (Text.byteLength (written.indent.text ++ written.label.elim [] Label.text
        ++ instruction.mnemonic.text)) instruction.operands

end Meaning

end AsmSymbols.Written
