import AsmSymbols.Pattern.Escape

/-!
# Sets in brackets

A bracket holds characters, ranges, escapes, named sets and further brackets.  Operations on sets
join what stands to their left with what stands to their right, the leftmost first.
-/

set_option autoImplicit false

namespace AsmSymbols.Pattern

/-- The sets of ASCII characters that have a name. -/
def asciiSet? (name : String) : Option CharSet :=
  match name with
  | "alnum" => some (.ofHex ["30-39 41-5A 61-7A"])
  | "alpha" => some (.ofHex ["41-5A 61-7A"])
  | "ascii" => some (.ofHex ["0-7F"])
  | "blank" => some (.ofHex ["9 20"])
  | "cntrl" => some (.ofHex ["0-1F 7F"])
  | "digit" => some (.ofHex ["30-39"])
  | "graph" => some (.ofHex ["21-7E"])
  | "lower" => some (.ofHex ["61-7A"])
  | "print" => some (.ofHex ["20-7E"])
  | "punct" => some (.ofHex ["21-2F 3A-40 5B-60 7B-7E"])
  | "space" => some (.ofHex ["9-D 20"])
  | "upper" => some (.ofHex ["41-5A"])
  | "word" => some (.ofHex ["30-39 41-5A 5F 61-7A"])
  | "xdigit" => some (.ofHex ["30-39 41-46 61-66"])
  | _ => none

/-- A named set, with its own brackets and colons. -/
def readAsciiSet? (text : Text) : Option (SetExpr × Text) :=
  match text with
  | '[' :: ':' :: rest =>
    let negated := rest.head? == some '^'
    let inner := if negated then rest.tail else rest
    match inner.dropWhile (· != ':') with
    | ':' :: ']' :: behind =>
      (asciiSet? (String.ofList (inner.takeWhile (· != ':')))).map fun set =>
        (.ascii (.between text behind) negated set, behind)
    | _ => none
  | _ => none

/-- A bracket that is being read. -/
structure Bracket where
  start : Text
  negated : Bool
  /-- The fault if the bracket is not closed. -/
  unclosed : PatternError
  /-- An operation whose right side is being read. -/
  left : Option (SetOperation × SetExpr) := none
  /-- Where the items begin, and those read so far, the last first. -/
  here : Nat
  items : List SetExpr

namespace Bracket

def add (bracket : Bracket) (item : SetExpr) : Bracket :=
  { bracket with items := item :: bracket.items }

/-- The union of the items. -/
def united (bracket : Bracket) : SetExpr :=
  match bracket.items with
  | [] => .nothing ⟨bracket.here, bracket.here⟩
  | [item] => item
  | last :: _ =>
    let items := bracket.items.reverse
    .union ⟨(items.head?.getD last).span.start, last.span.stop⟩ items

/-- The items as the right side of an operation that is waiting for it. -/
def operand (bracket : Bracket) : SetExpr :=
  let right := bracket.united
  match bracket.left with
  | none => right
  | some (kind, left) => .operation ⟨left.span.start, right.span.stop⟩ kind left right

/-- Go on with the right side of an operation. -/
def operate (bracket : Bracket) (kind : SetOperation) (behind : Text) : Bracket :=
  { bracket with left := some (kind, bracket.operand), here := behind.length, items := [] }

def close (bracket : Bracket) (behind : Text) : SetExpr :=
  .bracket (.between bracket.start behind) bracket.negated bracket.operand

end Bracket

/-- Hyphens at the beginning of a bracket, the last first. -/
def takeHyphens (spaced : Bool) (taken : List SetExpr) : Nat → Text → List SetExpr × Text
  | most + 1, '-' :: rest =>
    takeHyphens spaced (.literal ⟨.first ('-' :: rest), '-', false⟩ :: taken) most
      (skip spaced rest)
  | _, text => (taken, text)

/-- The beginning of a bracket.  Hyphens, or else one closing bracket, stand for themselves
there. -/
def openBracket (spaced : Bool) (start : Text) : Except PatternError (Bracket × Text) :=
  let unclosed (stop : Text) : PatternError := .between .unclosedSet start stop
  let opened := skip spaced start.tail
  let negated := opened.head? == some '^'
  let inner := if negated then skip spaced opened.tail else opened
  let (hyphens, behind) := takeHyphens spaced [] inner.length inner
  if inner.isEmpty then .error (unclosed [])
  else if behind.isEmpty then .error (unclosed start)
  else if hyphens.isEmpty && behind.head? == some ']' then
    let after := skip spaced behind.tail
    if after.isEmpty then .error (unclosed [])
    else
      let held : SetExpr := .literal ⟨.first behind, ']', false⟩
      .ok (⟨start, negated, unclosed after, none, inner.length, [held]⟩, after)
  else .ok (⟨start, negated, unclosed behind, none, inner.length, hyphens⟩, behind)

/-- The set that an atom is. -/
def Atom.toSet : Atom → Except PatternError SetExpr
  | .literal written => .ok (.literal written)
  | .set written => .ok written
  | .anchor span _ => .error (.fault .anchorInSet span none)

/-- The character at an end of a range. -/
def Atom.toLiteral : Atom → Except PatternError Literal
  | .literal written => .ok written
  | atom => .error (.fault .rangeEndNoCharacter atom.span none)

/-- A character or an escape inside brackets. -/
def readSetAtom (spaced : Bool) (c : Char) (rest : Text) : Except PatternError (Atom × Text) :=
  if c == '\\' then readEscape spaced (c :: rest) rest
  else .ok (.literal ⟨.first (c :: rest), c, false⟩, rest)

/-- The next character that is no blank, at most one sign of a comment being passed over. -/
def peekBehindBlanks (comment : Bool) : Text → Option Char
  | [] => none
  | c :: rest =>
    if Text.isWhiteSpace c then peekBehindBlanks comment rest
    else if !comment && c == '#' then peekBehindBlanks true rest
    else some c

def peek (spaced : Bool) (text : Text) : Option Char :=
  if spaced then (peekBehindBlanks false text).or text.head? else text.head?

/-- A character, an escape or a range inside brackets.  A hyphen joins a range unless a closing
bracket or another hyphen follows. -/
def readMember (spaced : Bool) (unclosed : PatternError) (c : Char) (rest : Text) :
    Except PatternError (SetExpr × Text) := do
  let (first, behind) ← readSetAtom spaced c rest
  match skip spaced behind with
  | [] => .error unclosed
  | d :: after =>
    let next := peek spaced after
    if d != '-' || next == some ']' || next == some '-' then
      let item ← first.toSet
      .ok (item, d :: after)
    else
      match skip spaced after with
      | [] => .error unclosed
      | e :: far =>
        let (last, left) ← readSetAtom spaced e far
        let low ← first.toLiteral
        let high ← last.toLiteral
        let span : Span := ⟨first.span.start, last.span.stop⟩
        if low.char ≤ high.char then .ok (.range span low high, left)
        else .error (.fault .backwardRange span none)

def setOperation? (c : Char) (rest : Text) : Option SetOperation :=
  if rest.head? != some c then none
  else
    match c with
    | '&' => some .intersection
    | '-' => some .difference
    | '~' => some .symmetricDifference
    | _ => none

/-- The rest of a bracket up to its end. -/
def readBracket (spaced : Bool) : Nat → Bracket → Text → Except PatternError (SetExpr × Text)
  | 0, bracket, _ => .error bracket.unclosed
  | fuel + 1, bracket, text =>
    match skip spaced text with
    | [] => .error bracket.unclosed
    | c :: rest =>
      if c == '[' then
        match readAsciiSet? (c :: rest) with
        | some (item, behind) => readBracket spaced fuel (bracket.add item) behind
        | none => do
          let (nested, inner) ← openBracket spaced (c :: rest)
          let (item, behind) ← readBracket spaced fuel nested inner
          readBracket spaced fuel (bracket.add item) behind
      else if c == ']' then .ok (bracket.close rest, rest)
      else
        match setOperation? c rest with
        | some kind => readBracket spaced fuel (bracket.operate kind rest.tail) rest.tail
        | none => do
          let (item, behind) ← readMember spaced bracket.unclosed c rest
          readBracket spaced fuel (bracket.add item) behind

end AsmSymbols.Pattern
