import AsmSymbols.Pattern.Reading
import AsmSymbols.Pattern.Size

/-!
# The meaning of written patterns

Flags hold from where they are set to the end of their group, over all its choices.  Where the flag
for Unicode is cleared, sets are sets of bytes.  They must hold ASCII characters only, since other
bytes are parts of characters.

`Pattern.ofText` goes all the way from a text to a pattern.
-/

set_option autoImplicit false

namespace AsmSymbols.Pattern

structure Flags where
  ignoreCase : Bool := false
  multiLine : Bool := false
  dotTakesAll : Bool := false
  pairedEndings : Bool := false
  unicode : Bool := true
  deriving DecidableEq, Repr

namespace Flags

def change (flags : Flags) : Char × Bool → Flags
  | ('i', value) => { flags with ignoreCase := value }
  | ('m', value) => { flags with multiLine := value }
  | ('s', value) => { flags with dotTakesAll := value }
  | ('R', value) => { flags with pairedEndings := value }
  | ('u', value) => { flags with unicode := value }
  | _ => flags

def apply (flags : Flags) (setting : FlagSetting) : Flags := setting.foldl change flags

/-- A set with all that differs from its members in case only, if case is to be ignored. -/
def fold (flags : Flags) (set : CharSet) : CharSet :=
  if !flags.ignoreCase then set
  else if flags.unicode then Unicode.Folding.close set
  else Unicode.Folding.closeAscii set

/-- A set of bytes cannot be negated: it would hold parts of characters. -/
def negate (flags : Flags) (span : Span) (negated : Bool) (set : CharSet) :
    Except PatternError CharSet :=
  if !negated then .ok set
  else if flags.unicode then .ok set.complement
  else .error (.fault .partOfCharacter span none)

def letters (flags : Flags) : CharSet :=
  if flags.unicode then Unicode.wordLetter else .ofHex ["30-39 41-5A 5F 61-7A"]

def short (flags : Flags) : ShortSet → CharSet
  | .digit =>
    if flags.unicode then Unicode.Category.set .decimalNumber else .ofHex ["30-39"]
  | .whiteSpace => if flags.unicode then Unicode.whiteSpace else .ofHex ["9-D 20"]
  | .wordLetter => flags.letters

/-- Two hexadecimal digits write a byte where sets are sets of bytes. -/
def checkByte (flags : Flags) (written : Literal) : Except PatternError Char :=
  if !flags.unicode && written.byte && 0x7F < written.char.toNat then
    .error (.fault .partOfCharacter written.span none)
  else .ok written.char

/-- A character as the member of a set. -/
def member (flags : Flags) (written : Literal) : Except PatternError Char := do
  let c ← flags.checkByte written
  if !flags.unicode && 0x7F < c.toNat then .error (.fault .beyondBytes written.span none)
  else .ok c

def property (flags : Flags) (span : Span) (query : Unicode.Query) :
    Except PatternError CharSet :=
  if !flags.unicode then .error (.fault .beyondBytes span none)
  else
    match query.find with
    | .ok set => .ok set
    | .error .unknownProperty => .error (.fault .unknownProperty span none)
    | .error .unknownValue => .error (.fault .unknownValue span none)

def anchor (flags : Flags) : AnchorSign → Anchor
  | .textStart => .textStart
  | .textEnd => .textEnd
  | .lineStart => if flags.multiLine then .lineStart flags.pairedEndings else .textStart
  | .lineEnd => if flags.multiLine then .lineEnd flags.pairedEndings else .textEnd
  | .word condition => .word flags.letters condition

/-- Any character, or any that ends no line. -/
def dot (flags : Flags) (span : Span) : Except PatternError CharSet :=
  if !flags.unicode then .error (.fault .partOfCharacter span none)
  else if flags.dotTakesAll then .ok .full
  else if flags.pairedEndings then .ok (CharSet.ofHex ["A D"]).complement
  else .ok (CharSet.ofHex ["A"]).complement

end Flags

def SetOperation.apply (left right : CharSet) : SetOperation → CharSet
  | .intersection => left.intersection right
  | .difference => left.difference right
  | .symmetricDifference => left.symmetricDifference right

mutual

def SetExpr.meaning (flags : Flags) : SetExpr → Except PatternError CharSet
  | .nothing _ => .ok .empty
  | .literal written => do
    let c ← flags.member written
    .ok (.singleton c)
  | .range _ low high => do
    let first ← flags.member low
    let last ← flags.member high
    .ok (.range first last)
  | .ascii span negated set => flags.negate span negated (flags.fold set)
  | .short span negated set => flags.negate span negated (flags.short set)
  | .property span negated query => do
    let set ← flags.property span query
    flags.negate span negated (flags.fold set)
  | .bracket span negated inner => do
    let set ← inner.meaning flags
    flags.negate span negated (flags.fold set)
  | .union _ items => do
    let sets ← SetExpr.meanings flags items
    .ok (.unionAll sets)
  | .operation _ kind left right => do
    let first ← left.meaning flags
    let second ← right.meaning flags
    .ok (kind.apply (flags.fold first) (flags.fold second))

def SetExpr.meanings (flags : Flags) : List SetExpr → Except PatternError (List CharSet)
  | [] => .ok []
  | item :: rest => do
    let set ← item.meaning flags
    let sets ← SetExpr.meanings flags rest
    .ok (set :: sets)

end

/-- Patterns one behind the other. -/
def inRow : List Pattern → Pattern
  | [] => .empty
  | [pattern] => pattern
  | pattern :: rest => .sequence pattern (inRow rest)

def set? : Pattern → Option CharSet
  | .single set => some set
  | _ => none

/-- One of some patterns.  A choice between sets is a set. -/
def anyOf (patterns : List Pattern) : Pattern :=
  match patterns.mapM set? with
  | some sets => .single (.unionAll sets)
  | none =>
    match patterns.reverse with
    | [] => .single .empty
    | last :: others => others.foldl (fun behind pattern => .choice pattern behind) last

mutual

/-- The meaning of a part, and the flags that hold behind it. -/
def Expr.meaning (flags : Flags) : Expr → Except PatternError (Pattern × Flags)
  | .empty _ => .ok (.empty, flags)
  | .flags _ setting => .ok (.empty, flags.apply setting)
  | .literal written => do
    let c ← flags.checkByte written
    .ok (.single (flags.fold (.singleton c)), flags)
  | .dot span => do
    let set ← flags.dot span
    .ok (.single set, flags)
  | .anchor _ sign => .ok (.anchored (flags.anchor sign), flags)
  | .set written => do
    let set ← written.meaning flags
    .ok (.single set, flags)
  | .repetition _ item least most => do
    let (pattern, _) ← item.meaning flags
    .ok (.repetition pattern least most, flags)
  | .group _ kind item => do
    match kind with
    | .remembered =>
      let (pattern, _) ← item.meaning flags
      .ok (.group pattern, flags)
    | .plain setting =>
      let (pattern, _) ← item.meaning (flags.apply setting)
      .ok (pattern, flags)
  | .choice _ items => do
    let (patterns, behind) ← Expr.meanings flags items
    .ok (anyOf patterns, behind)
  | .sequence _ items => do
    let (patterns, behind) ← Expr.meanings flags items
    .ok (inRow patterns, behind)

def Expr.meanings (flags : Flags) : List Expr → Except PatternError (List Pattern × Flags)
  | [] => .ok ([], flags)
  | item :: rest => do
    let (pattern, next) ← item.meaning flags
    let (patterns, behind) ← Expr.meanings next rest
    .ok (pattern :: patterns, behind)

end

def ofText (text : Text) : Except PatternError Pattern := do
  let expr ← Expr.ofText text
  let (pattern, _) ← expr.meaning {}
  if pattern.isTooLarge then .error .tooLarge else .ok pattern

end AsmSymbols.Pattern
