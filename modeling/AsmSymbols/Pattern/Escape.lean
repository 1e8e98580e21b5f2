import AsmSymbols.Pattern.Fault

/-!
# Escapes

A backslash and what follows it stand for a character, a set of characters or an anchor.

Under a flag, blanks and comments may stand between the parts of a pattern.  Every function that has
to pass over them is told so by `spaced`.
-/

set_option autoImplicit false

namespace AsmSymbols.Pattern

/-- The text behind blanks and comments.  A comment goes up to the end of its line. -/
def skipBlanks (comment : Bool) : Text → Text
  | [] => []
  | c :: rest =>
    if comment then skipBlanks (c != '\n') rest
    else if Text.isWhiteSpace c then skipBlanks false rest
    else if c == '#' then skipBlanks true rest
    else c :: rest

def skip (spaced : Bool) (text : Text) : Text := if spaced then skipBlanks false text else text

/-- The characters of a kind at the start of a text, at most `most` of them, and what follows. -/
def takeSpaced (spaced : Bool) (kind : Char → Bool) : Nat → Text → Text × Text
  | 0, text => ([], text)
  | _ + 1, [] => ([], [])
  | most + 1, c :: rest =>
    if kind c then
      let (taken, behind) := takeSpaced spaced kind most (skip spaced rest)
      (c :: taken, behind)
    else ([], c :: rest)

/-- What one character or escape stands for. -/
inductive Atom where
  | literal (written : Literal)
  | anchor (span : Span) (sign : AnchorSign)
  | set (written : SetExpr)

def Atom.span : Atom → Span
  | .literal written => written.span
  | .anchor span _ => span
  | .set written => written.span

def isHexDigit (c : Char) : Bool :=
  c.isDigit || ('a' ≤ c && c ≤ 'f') || ('A' ≤ c && c ≤ 'F')

/-- The character with a code point, which must not be that of a surrogate. -/
def charOf? (code : Nat) : Option Char :=
  if code < 0xD800 || (0xE000 ≤ code && code ≤ CharSet.greatest) then some (Char.ofNat code)
  else none

/-- A character by its code point: `width` hexadecimal digits, or any number of them in braces.
`start` begins with the backslash, and `rest` follows the letter behind it. -/
def readHex (spaced : Bool) (width : Nat) (start rest : Text) :
    Except PatternError (Atom × Text) :=
  match skip spaced rest with
  | [] => .error (.between .unfinishedEscape [] [])
  | '{' :: inner =>
    let brace := '{' :: inner
    let (digits, behind) := takeSpaced spaced isHexDigit inner.length (skip spaced inner)
    match behind with
    | [] => .error (.between .unfinishedEscape brace [])
    | c :: left =>
      let after := skip spaced left
      if c != '}' then .error (.fault .noHexDigit (.first behind) none)
      else if digits.isEmpty then .error (.between .emptyHex brace after)
      else
        match charOf? (CharSet.hexNumber digits) with
        | none => .error (.between .noCharacter inner behind)
        | some c => .ok (.literal ⟨.between start after, c, false⟩, after)
  | text =>
    let (digits, behind) := takeSpaced spaced isHexDigit width text
    if digits.length < width then
      if behind.isEmpty then .error (.between .unfinishedEscape [] [])
      else .error (.fault .noHexDigit (.first behind) none)
    else
      match charOf? (CharSet.hexNumber digits) with
      | none => .error (.between .noCharacter text behind)
      | some c => .ok (.literal ⟨.between start behind, c, width == 2⟩, behind)

/-- The texts in front of and behind the first `!=`. -/
def splitUnequal? : Text → Option (Text × Text)
  | [] => none
  | c :: rest =>
    if c == '!' && rest.head? == some '=' then some ([], rest.tail)
    else (splitUnequal? rest).map fun (front, behind) => (c :: front, behind)

/-- The texts in front of and behind the first `separator`. -/
def splitFirst? (separator : Char) (text : Text) : Option (Text × Text) :=
  match text.dropWhile (· != separator) with
  | [] => none
  | _ :: behind => some (text.takeWhile (· != separator), behind)

/-- A property may be given with a value.  A sign for being unequal has no other meaning than one
for being equal. -/
def queryOf (name : Text) : Unicode.Query :=
  match (splitUnequal? name).or ((splitFirst? ':' name).or (splitFirst? '=' name)) with
  | some (property, value) => .valued property value
  | none => .named name

/-- A set of characters by a property: its name in braces, or one letter. -/
def readProperty (spaced negated : Bool) (start rest : Text) :
    Except PatternError (Atom × Text) :=
  match skip spaced rest with
  | [] => .error (.between .unfinishedEscape [] [])
  | '{' :: inner =>
    let (name, behind) := takeSpaced spaced (· != '}') inner.length (skip spaced inner)
    match behind with
    | [] => .error (.between .unfinishedEscape [] [])
    | _ :: left => .ok (.set (.property (.between start left) negated (queryOf name)), left)
  | c :: left =>
    if c == '\\' then .error (.fault .badPropertyName (.first (c :: left)) none)
    else
      let after := skip spaced left
      .ok (.set (.property (.between start after) negated (.named [c])), after)

def wordAnchor? (name : String) : Option WordAnchor :=
  match name with
  | "start" => some .start
  | "end" => some .stop
  | "start-half" => some .startHalf
  | "end-half" => some .stopHalf
  | _ => none

/-- The edge of a word, or a special kind of it, whose name follows in braces.  Braces that do not
begin with a letter or a hyphen are left to be read as a repetition. -/
def readWordAnchor (spaced : Bool) (start rest : Text) : Except PatternError (Atom × Text) :=
  let plain : Except PatternError (Atom × Text) :=
    .ok (.anchor (.between start rest) (.word .edge), rest)
  let isNameChar (c : Char) := c.isAlpha || c == '-'
  match rest with
  | '{' :: inner =>
    let contents := skip spaced inner
    match contents with
    | [] => .error (.between .unfinishedWordAnchor start [])
    | c :: _ =>
      if !isNameChar c then plain
      else
        let (name, behind) := takeSpaced spaced isNameChar contents.length contents
        if behind.head? != some '}' then .error (.between .unclosedWordAnchor rest behind)
        else
          match wordAnchor? (String.ofList name) with
          | none => .error (.between .unknownWordAnchor contents behind)
          | some kind => .ok (.anchor (.between start behind.tail) (.word kind), behind.tail)
  | _ => plain

/-- An escape; `start` begins with its backslash, and the last argument follows it. -/
def readEscape (spaced : Bool) (start : Text) : Text → Except PatternError (Atom × Text)
  | [] => .error (.between .unfinishedEscape start [])
  | c :: rest =>
    let span := Span.between start rest
    let char (c : Char) : Except PatternError (Atom × Text) := .ok (.literal ⟨span, c, false⟩, rest)
    let anchor (sign : AnchorSign) : Except PatternError (Atom × Text) :=
      .ok (.anchor span sign, rest)
    let short (negated : Bool) (set : ShortSet) : Except PatternError (Atom × Text) :=
      .ok (.set (.short span negated set), rest)
    match c with
    | 'x' => readHex spaced 2 start rest
    | 'u' => readHex spaced 4 start rest
    | 'U' => readHex spaced 8 start rest
    | 'p' => readProperty spaced false start rest
    | 'P' => readProperty spaced true start rest
    | 'd' => short false .digit
    | 'D' => short true .digit
    | 's' => short false .whiteSpace
    | 'S' => short true .whiteSpace
    | 'w' => short false .wordLetter
    | 'W' => short true .wordLetter
    | 'a' => char '\x07'
    | 'f' => char '\x0c'
    | 'n' => char '\n'
    | 'r' => char '\r'
    | 't' => char '\t'
    | 'v' => char '\x0b'
    | 'A' => anchor .textStart
    | 'z' => anchor .textEnd
    | 'b' => readWordAnchor spaced start rest
    | 'B' => anchor (.word .noEdge)
    | '<' => anchor (.word .start)
    | '>' => anchor (.word .stop)
    | _ =>
      if c.isDigit then .error (.between .backreference start rest)
      else if c.toNat < 128 && !c.isAlpha then char c
      else .error (.between .unknownEscape start rest)

end AsmSymbols.Pattern
