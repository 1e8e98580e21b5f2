import AsmSymbols.Text

/-!
# Sets of characters

A set of characters is a list of closed ranges of code points, ascending and apart.  The code points
of surrogates, which no character has, may fall into a range or not.
-/

set_option autoImplicit false

namespace AsmSymbols

structure CharSet where
  ranges : List (Nat × Nat)
  deriving DecidableEq, Repr

namespace CharSet

/-- The greatest code point. -/
def greatest : Nat := 0x10FFFF

/-- Join ranges that overlap or touch.  Their starts are ascending. -/
def join : List (Nat × Nat) → List (Nat × Nat)
  | [] => []
  | [range] => [range]
  | (low, high) :: (start, stop) :: rest =>
    if start ≤ high + 1 then join ((low, max high stop) :: rest)
    else (low, high) :: join ((start, stop) :: rest)
termination_by ranges => ranges.length

/-- The union of any ranges. -/
def ofRanges (ranges : List (Nat × Nat)) : CharSet :=
  ⟨join (ranges.mergeSort fun left right => left.1 ≤ right.1)⟩

def empty : CharSet := ⟨[]⟩

def full : CharSet := ⟨[(0, greatest)]⟩

def range (low high : Char) : CharSet := ⟨[(low.toNat, high.toNat)]⟩

def singleton (c : Char) : CharSet := range c c

/-- Whether a code point lies in a set.  The first range that does not end in front of it
decides. -/
def holds (set : CharSet) (code : Nat) : Bool :=
  (set.ranges.find? fun range => code ≤ range.2).any fun range => range.1 ≤ code

def union (left right : CharSet) : CharSet := ofRanges (left.ranges ++ right.ranges)

def unionAll (sets : List CharSet) : CharSet := ofRanges (sets.flatMap CharSet.ranges)

/-- The ranges between those of a set, from code point `start` on. -/
def gaps (start : Nat) : List (Nat × Nat) → List (Nat × Nat)
  | [] => if start ≤ greatest then [(start, greatest)] else []
  | (low, high) :: rest =>
    if start < low then (start, low - 1) :: gaps (high + 1) rest else gaps (high + 1) rest

def complement (set : CharSet) : CharSet := ⟨gaps 0 set.ranges⟩

def intersection (left right : CharSet) : CharSet :=
  (left.complement.union right.complement).complement

def difference (left right : CharSet) : CharSet := left.intersection right.complement

def symmetricDifference (left right : CharSet) : CharSet :=
  (left.union right).difference (left.intersection right)

def isAscii (set : CharSet) : Bool := set.ranges.all fun range => range.2 < 128

/-- The only member of a set that has one. -/
def only? (set : CharSet) : Option Nat :=
  match set.ranges with
  | [(low, high)] => if low == high then some low else none
  | _ => none

def hexDigit (c : Char) : Nat :=
  if c.isDigit then c.toNat - '0'.toNat else c.toUpper.toNat - 'A'.toNat + 10

/-- The number that hexadecimal digits write. -/
def hexNumber (digits : Text) : Nat := digits.foldl (fun number c => 16 * number + hexDigit c) 0

/-- A range written as its ends with a hyphen between them, or as its only member. -/
def readRange (word : Text) : Nat × Nat :=
  match Text.fields '-' word with
  | [low, high] => (hexNumber low, hexNumber high)
  | _ => (hexNumber word, hexNumber word)

/-- A set written as ranges of hexadecimal numbers with blanks between them. -/
def ofHex (lines : List String) : CharSet :=
  ofRanges (lines.flatMap fun line => (Text.fields ' ' line.toList).map readRange)

end CharSet

end AsmSymbols
