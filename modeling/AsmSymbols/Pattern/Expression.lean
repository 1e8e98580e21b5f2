import AsmSymbols.Pattern
import AsmSymbols.Unicode.Query

/-!
# Written patterns

The parts of a pattern as they are written, each with its place.  What flags do to a part is not
looked at here.
-/

set_option autoImplicit false

namespace AsmSymbols

/-- A piece of a text.  Its start and its stop are told by the number of characters from there to
the end of the text. -/
structure Span where
  start : Nat
  stop : Nat
  deriving DecidableEq, Repr

/-- The piece from `start` up to `stop`, both given by all that follows them. -/
def Span.between (start stop : Text) : Span := ⟨start.length, stop.length⟩

/-- The first character of a text. -/
def Span.first (text : Text) : Span := .between text text.tail

namespace Pattern

/-- A character that stands for itself. -/
structure Literal where
  span : Span
  char : Char
  /-- Written by two hexadecimal digits. -/
  byte : Bool := false
  deriving DecidableEq, Repr

/-- The sets that have an escape of one letter. -/
inductive ShortSet where
  | digit
  | whiteSpace
  | wordLetter
  deriving DecidableEq, Repr

inductive SetOperation where
  | intersection
  | difference
  | symmetricDifference
  deriving DecidableEq, Repr

/-- A written set of characters. -/
inductive SetExpr where
  | nothing (span : Span)
  | literal (written : Literal)
  | range (span : Span) (low high : Literal)
  /-- A set of ASCII characters, called by its name in brackets. -/
  | ascii (span : Span) (negated : Bool) (set : CharSet)
  | short (span : Span) (negated : Bool) (set : ShortSet)
  | property (span : Span) (negated : Bool) (query : Unicode.Query)
  | bracket (span : Span) (negated : Bool) (inner : SetExpr)
  | union (span : Span) (items : List SetExpr)
  | operation (span : Span) (kind : SetOperation) (left right : SetExpr)

def SetExpr.span : SetExpr → Span
  | .nothing span | .range span _ _ | .ascii span _ _ | .short span _ _ | .property span _ _
  | .bracket span _ _ | .union span _ | .operation span _ _ _ => span
  | .literal written => written.span

inductive AnchorSign where
  | textStart
  | textEnd
  | lineStart
  | lineEnd
  | word (condition : WordAnchor)
  deriving DecidableEq, Repr

/-- Flags in the order in which they are given, each set or cleared. -/
abbrev FlagSetting := List (Char × Bool)

inductive GroupKind where
  | remembered
  | plain (setting : FlagSetting)
  deriving DecidableEq, Repr

/-- A written pattern. -/
inductive Expr where
  | empty (span : Span)
  | flags (span : Span) (setting : FlagSetting)
  | literal (written : Literal)
  | dot (span : Span)
  | anchor (span : Span) (sign : AnchorSign)
  | set (written : SetExpr)
  | repetition (span : Span) (item : Expr) (least : Nat) (most : Option Nat)
  | group (span : Span) (kind : GroupKind) (item : Expr)
  | choice (span : Span) (items : List Expr)
  | sequence (span : Span) (items : List Expr)

def Expr.span : Expr → Span
  | .empty span | .flags span _ | .dot span | .anchor span _ | .repetition span _ _ _
  | .group span _ _ | .choice span _ | .sequence span _ => span
  | .literal written => written.span
  | .set written => written.span

mutual

/-- The first part that has more than `room` parts around it, itself included. -/
def SetExpr.tooDeep? (room : Nat) : SetExpr → Option Span
  | .bracket span _ inner =>
    match room with
    | 0 => some span
    | room + 1 => inner.tooDeep? room
  | .union span items =>
    match room with
    | 0 => some span
    | room + 1 => SetExpr.anyTooDeep? room items
  | .operation span _ left right =>
    match room with
    | 0 => some span
    | room + 1 => (left.tooDeep? room).or (right.tooDeep? room)
  | _ => none

def SetExpr.anyTooDeep? (room : Nat) : List SetExpr → Option Span
  | [] => none
  | item :: rest => (item.tooDeep? room).or (SetExpr.anyTooDeep? room rest)

end

mutual

def Expr.tooDeep? (room : Nat) : Expr → Option Span
  | .set written => written.tooDeep? room
  | .repetition span item _ _ =>
    match room with
    | 0 => some span
    | room + 1 => item.tooDeep? room
  | .group span _ item =>
    match room with
    | 0 => some span
    | room + 1 => item.tooDeep? room
  | .choice span items =>
    match room with
    | 0 => some span
    | room + 1 => Expr.anyTooDeep? room items
  | .sequence span items =>
    match room with
    | 0 => some span
    | room + 1 => Expr.anyTooDeep? room items
  | _ => none

def Expr.anyTooDeep? (room : Nat) : List Expr → Option Span
  | [] => none
  | item :: rest => (item.tooDeep? room).or (Expr.anyTooDeep? room rest)

end

end Pattern

end AsmSymbols
