import AsmSymbols.Text

/-!
# JSON documents

The values that reports are made of, and their two written forms: `compact` without any blanks, and
`pretty` with one item a line, each level indented by two blanks.  Fields of an object keep their
order.
-/

set_option autoImplicit false

namespace AsmSymbols

inductive Json where
  | number (value : Nat)
  | bool (value : Bool)
  | string (value : Text)
  | array (items : List Json)
  | object (fields : List (Text × Json))

namespace Json

/-- How a character stands inside a string.  Quotes, backslashes and control characters are escaped,
all others stand for themselves. -/
def escape (c : Char) : Text :=
  match c with
  | '"' => ['\\', '"']
  | '\\' => ['\\', '\\']
  | '\x08' => ['\\', 'b']
  | '\x0c' => ['\\', 'f']
  | '\n' => ['\\', 'n']
  | '\r' => ['\\', 'r']
  | '\t' => ['\\', 't']
  | c =>
    if c.toNat < 32 then
      ['\\', 'u', '0', '0', Nat.digitChar (c.toNat / 16), Nat.digitChar (c.toNat % 16)]
    else [c]

def quoted (text : Text) : Text := "\"" ++ text.flatMap escape ++ "\""

def boolText (value : Bool) : Text := if value then "true" else "false"

mutual

def compact : Json → Text
  | number value => Text.decimal value
  | bool value => boolText value
  | string value => quoted value
  | array items => "[" ++ compactItems items ++ "]"
  | object fields => "\x7b" ++ compactFields fields ++ "\x7d"

def compactItems : List Json → Text
  | [] => []
  | [item] => compact item
  | item :: next :: rest => compact item ++ "," ++ compactItems (next :: rest)

def compactFields : List (Text × Json) → Text
  | [] => []
  | [(key, value)] => quoted key ++ ":" ++ compact value
  | (key, value) :: next :: rest =>
    quoted key ++ ":" ++ compact value ++ "," ++ compactFields (next :: rest)

end

/-- A line break and the indentation of level `depth`. -/
def newline (depth : Nat) : Text := '\n' :: List.replicate (2 * depth) ' '

mutual

/-- The indented form of a value that stands at level `depth`. -/
def prettyAt (depth : Nat) : Json → Text
  | number value => Text.decimal value
  | bool value => boolText value
  | string value => quoted value
  | array [] => "[]"
  | array (item :: rest) =>
    "[" ++ newline (depth + 1) ++ prettyAt (depth + 1) item ++ prettyItems (depth + 1) rest
      ++ newline depth ++ "]"
  | object [] => "\x7b\x7d"
  | object ((key, value) :: rest) =>
    "\x7b" ++ newline (depth + 1) ++ quoted key ++ ": " ++ prettyAt (depth + 1) value
      ++ prettyFields (depth + 1) rest ++ newline depth ++ "\x7d"

/-- The items behind the first one. -/
def prettyItems (depth : Nat) : List Json → Text
  | [] => []
  | item :: rest => "," ++ newline depth ++ prettyAt depth item ++ prettyItems depth rest

/-- The fields behind the first one. -/
def prettyFields (depth : Nat) : List (Text × Json) → Text
  | [] => []
  | (key, value) :: rest =>
    "," ++ newline depth ++ quoted key ++ ": " ++ prettyAt depth value ++ prettyFields depth rest

end

def pretty (document : Json) : Text := prettyAt 0 document

end Json

end AsmSymbols
