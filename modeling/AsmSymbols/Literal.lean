import AsmSymbols.Text

/-!
# Literals

A literal is a number or a quoted text.  A number is an optional sign followed by decimal digits, or
by `0x` or `0X` and hexadecimal digits.  A quoted text stands between two like quotes, single or
double, and may hold anything but that quote.
-/

set_option autoImplicit false

namespace AsmSymbols

def isQuote (c : Char) : Bool := c == '\'' || c == '"'

def isHexDigit (c : Char) : Bool :=
  c.isDigit || ('a' ≤ c && c ≤ 'f') || ('A' ≤ c && c ≤ 'F')

namespace Literal

def isDecimal (word : Text) : Bool := !word.isEmpty && word.all Char.isDigit

def isHexadecimal : Text → Bool
  | '0' :: mark :: digits =>
    (mark == 'x' || mark == 'X') && !digits.isEmpty && digits.all isHexDigit
  | _ => false

def dropSign : Text → Text
  | [] => []
  | c :: rest => if c == '+' || c == '-' then rest else c :: rest

def isNumber (word : Text) : Bool := isDecimal (dropSign word) || isHexadecimal (dropSign word)

/-- The opening quote comes back at the very end, and nowhere before. -/
def isQuoted : Text → Bool
  | [] => false
  | c :: rest => isQuote c && rest.dropWhile (· != c) == [c]

end Literal

def isLiteral (word : Text) : Bool := Literal.isNumber word || Literal.isQuoted word

end AsmSymbols
