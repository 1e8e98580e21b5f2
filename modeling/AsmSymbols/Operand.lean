import AsmSymbols.Literal

/-!
# Operands

An operand is a list of terms joined by `,`, `+` or `-`.  A joining character inside quotes is part
of the quoted text, so the cut follows the quotes: `quoteAfter` says which quote is open behind a
character, and `splitTerms` cuts only where none is.
-/

set_option autoImplicit false

namespace AsmSymbols

def isOperandSeparator (c : Char) : Bool := c == ',' || c == '+' || c == '-'

namespace Operand

/-- The quote that is open behind `c`, when `quote` is open in front of it.  Inside quotes only the
same quote counts. -/
def quoteAfter (quote : Option Char) (c : Char) : Option Char :=
  match quote with
  | none => if isQuote c then some c else none
  | some q => if c = q then none else some q

/-- The quote that a word leaves open. -/
def openQuote? (word : Text) : Option Char := word.foldl quoteAfter none

/-- The terms of a text in front of which `quote` is open.  There is always at least one. -/
def splitTerms (quote : Option Char) : Text → List Text
  | [] => [[]]
  | c :: rest =>
    if quote = none ∧ isOperandSeparator c then [] :: splitTerms none rest
    else
      match splitTerms (quoteAfter quote c) rest with
      | [] => [[c]]
      | term :: following => (c :: term) :: following

/-- Put each term with its byte offset.  The separator between two terms takes one byte. -/
def placeFrom (offset : Nat) : List Text → List (Nat × Text)
  | [] => []
  | term :: following =>
    (offset, term) :: placeFrom (offset + Text.byteLength term + 1) following

/-- The terms of an operand with their offsets inside it. -/
def terms (operand : Text) : List (Nat × Text) := placeFrom 0 (splitTerms none operand)

end Operand

end AsmSymbols
