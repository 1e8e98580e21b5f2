import AsmSymbols.Pattern.Expression

/-!
# Faults of patterns

Why a text is no pattern, and the message that tells it: the text, with carets below the faulty
piece, and the fault.  The lines of a text that has several are numbered.
-/

set_option autoImplicit false

namespace AsmSymbols

inductive PatternFault where
  | unclosedSet
  | backwardRange
  | rangeEndNoCharacter
  | anchorInSet
  | unclosedGroup
  | unopenedGroup
  | lookAround
  | emptyGroupName
  | badGroupName
  | unclosedGroupName
  | repeatedGroupName
  | nothingToRepeat
  | unclosedCount
  | missingCount
  | hugeCount
  | backwardCounts
  | unfinishedEscape
  | unknownEscape
  | backreference
  | emptyHex
  | noHexDigit
  | noCharacter
  | badPropertyName
  | unfinishedWordAnchor
  | unclosedWordAnchor
  | unknownWordAnchor
  | unfinishedFlags
  | unknownFlag
  | repeatedFlag
  | repeatedNegation
  | danglingNegation
  | tooDeep
  | unknownProperty
  | unknownValue
  /-- A set of bytes would be asked for a character beyond ASCII. -/
  | beyondBytes
  /-- A set of bytes would match a part of a character. -/
  | partOfCharacter
  deriving DecidableEq, Repr

def PatternFault.message : PatternFault → Text
  | .unclosedSet => "unclosed character class"
  | .backwardRange => "invalid character class range, the start must be <= the end"
  | .rangeEndNoCharacter => "invalid range boundary, must be a literal"
  | .anchorInSet => "invalid escape sequence found in character class"
  | .unclosedGroup => "unclosed group"
  | .unopenedGroup => "unopened group"
  | .lookAround => "look-around, including look-ahead and look-behind, is not supported"
  | .emptyGroupName => "empty capture group name"
  | .badGroupName => "invalid capture group character"
  | .unclosedGroupName => "unclosed capture group name"
  | .repeatedGroupName => "duplicate capture group name"
  | .nothingToRepeat => "repetition operator missing expression"
  | .unclosedCount => "unclosed counted repetition"
  | .missingCount => "repetition quantifier expects a valid decimal"
  | .hugeCount => "decimal literal invalid"
  | .backwardCounts => "invalid repetition count range, the start must be <= the end"
  | .unfinishedEscape => "incomplete escape sequence, reached end of pattern prematurely"
  | .unknownEscape => "unrecognized escape sequence"
  | .backreference => "backreferences are not supported"
  | .emptyHex => "hexadecimal literal empty"
  | .noHexDigit => "invalid hexadecimal digit"
  | .noCharacter => "hexadecimal literal is not a Unicode scalar value"
  | .badPropertyName => "invalid Unicode character class"
  | .unfinishedWordAnchor => ("found either the beginning of a special word boundary or a " : Text)
    ++ "bounded repetition on a \\b with an opening brace, but no closing brace"
  | .unclosedWordAnchor => ("special word boundary assertion is either unclosed or contains an " :
    Text) ++ "invalid character"
  | .unknownWordAnchor => ("unrecognized special word boundary assertion, valid choices are: " :
    Text) ++ "start, end, start-half or end-half"
  | .unfinishedFlags => "expected flag but got end of regex"
  | .unknownFlag => "unrecognized flag"
  | .repeatedFlag => "duplicate flag"
  | .repeatedNegation => "flag negation operator repeated"
  | .danglingNegation => "dangling flag negation operator"
  | .tooDeep => "exceed the maximum number of nested parentheses/brackets (250)"
  | .unknownProperty => "Unicode property not found"
  | .unknownValue => "Unicode property value not found"
  | .beyondBytes => "Unicode not allowed here"
  | .partOfCharacter => "pattern can match invalid UTF-8"

inductive PatternError where
  /-- A faulty piece; `other` is an earlier one that it clashes with. -/
  | fault (fault : PatternFault) (span : Span) (other : Option Span)
  /-- The pattern takes too much space when it is made ready for matching. -/
  | tooLarge
  deriving DecidableEq, Repr

namespace PatternError

/-- The fault of the piece from `start` up to `stop`. -/
def between (problem : PatternFault) (start stop : Text) : PatternError :=
  .fault problem (.between start stop) none

/-- A place in a text of several lines; both numbers count from one. -/
structure Place where
  line : Nat
  column : Nat

/-- The place with `left` characters behind it. -/
def Place.of (text : Text) (left : Nat) : Place :=
  let front := text.take (text.length - left)
  ⟨front.count '\n' + 1, (front.reverse.takeWhile (· != '\n')).length + 1⟩

/-- A marked piece. -/
structure Mark where
  start : Place
  stop : Place

def Mark.of (text : Text) (span : Span) : Mark := ⟨.of text span.start, .of text span.stop⟩

def blanks (count : Nat) : Text := List.replicate count ' '

/-- Carets below the marks of one line, from a column on. -/
def carets (column : Nat) : List Mark → Text
  | [] => []
  | mark :: rest =>
    let width := max 1 (mark.stop.column - mark.start.column)
    blanks (mark.start.column - column) ++ List.replicate width '^'
      ++ carets (max column mark.start.column + width) rest

/-- The lines of a text, each followed by the carets below it.  `width` is that of line numbers,
which a text of one line does not show. -/
def notes (width : Nat) (marks : List Mark) (number : Nat) : List Text → Text
  | [] => []
  | line :: rest =>
    let shown := Text.decimal number
    let front : Text :=
      if width == 0 then blanks 4 else blanks (width - shown.length) ++ shown ++ ": "
    let here := marks.filter fun mark =>
      mark.start.line == number && mark.stop.line == number
    let below : Text :=
      if here.isEmpty then [] else blanks front.length ++ carets 1 here ++ "\n"
    front ++ line ++ "\n" ++ below ++ notes width marks (number + 1) rest

/-- The note on a mark that goes over several lines. -/
def spread (mark : Mark) : Text :=
  "on line " ++ Text.decimal mark.start.line ++ " (column " ++ Text.decimal mark.start.column
    ++ ") through line " ++ Text.decimal mark.stop.line ++ " (column "
    ++ Text.decimal (mark.stop.column - 1) ++ ")\n"

def message (text : Text) : PatternError → Text
  | .tooLarge => "Compiled regex exceeds size limit of 10485760 bytes."
  | .fault problem span other =>
    let spans :=
      match other with
      | none => [span]
      | some other => if span.start < other.start then [other, span] else [span, other]
    let marks := spans.map (Mark.of text)
    let lines := Text.lines text
    let ending : Text := "error: " ++ problem.message
    if text.contains '\n' then
      let count := lines.length + if text.getLast? == some '\n' then 1 else 0
      let divider : Text := List.replicate 79 '~' ++ "\n"
      let wide := marks.filter fun mark => mark.start.line != mark.stop.line
      "regex parse error:\n" ++ divider ++ notes (Text.decimal count).length marks 1 lines
        ++ divider ++ wide.flatMap spread ++ ending
    else "regex parse error:\n" ++ notes 0 marks 1 lines ++ ending

end PatternError

end AsmSymbols
