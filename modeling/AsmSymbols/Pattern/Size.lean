import AsmSymbols.Pattern

/-!
# Size of patterns

A pattern is refused when it would take too much space as a machine over bytes.  The machine has a
state for every byte of a character and two states around every group; a repetition by a count has
its item that many times.  A set of characters becomes a choice between sequences of byte ranges.
Machines are made for both directions of reading: backwards such sequences share their beginnings,
forwards also their ends, and only forwards are groups remembered.
-/

set_option autoImplicit false

namespace AsmSymbols

/-- A closed range of bytes. -/
abbrev ByteRange := Nat × Nat

namespace ByteRange

/-- The bytes of a code point. -/
def encode (code : Nat) : List Nat :=
  if code < 0x80 then [code]
  else if code < 0x800 then [0xC0 + code / 64, 0x80 + code % 64]
  else if code < 0x10000 then
    [0xE0 + code / 4096, 0x80 + code / 64 % 64, 0x80 + code % 64]
  else
    [0xF0 + code / 262144, 0x80 + code / 4096 % 64, 0x80 + code / 64 % 64, 0x80 + code % 64]

/-- Where to cut a range whose ends do not differ byte by byte: the end of the first part and the
start of the second.  The surrogates are left out, the number of bytes is the same in a part, and
all bytes behind one that differs go from the least to the greatest. -/
def cut? (low high : Nat) : Option (Nat × Nat) :=
  if low < 0xE000 && 0xD7FF < high then some (0xD7FF, 0xE000)
  else
    match [0x7F, 0x7FF, 0xFFFF].find? fun last => low ≤ last && last < high with
    | some last => some (last, last + 1)
    | none =>
      if high < 0x80 then none
      else
        [64, 4096, 262144].findSome? fun block =>
          if low / block == high / block then none
          else if low % block != 0 then
            some (low / block * block + block - 1, low / block * block + block)
          else if high % block != block - 1 then
            some (high / block * block - 1, high / block * block)
          else none

/-- The sequences of byte ranges that make up a range of code points, in rising order. -/
def sequences : Nat → Nat → Nat → List (List ByteRange)
  | 0, _, _ => []
  | fuel + 1, low, high =>
    if high < low then []
    else
      match cut? low high with
      | some (stop, start) => sequences fuel low stop ++ sequences fuel start high
      | none => [(encode low).zip (encode high)]

end ByteRange

namespace CharSet

/-- Cutting a range takes a few steps at either end for each byte. -/
def byteSequences (set : CharSet) : List (List ByteRange) :=
  set.ranges.flatMap fun (low, high) => ByteRange.sequences 32 low high

end CharSet

namespace Pattern

/-- The space of one state. -/
def stateSize : Nat := 32

/-- The space of one way out of a state by a byte range. -/
def rangeSize : Nat := 8

/-- The space of one way out of a state without a byte. -/
def branchSize : Nat := 4

/-- The number of ranges at the beginning of a sequence that the one in front has too. -/
def shared : List ByteRange → List ByteRange → Nat
  | first :: rest, second :: further => if first == second then shared rest further + 1 else 0
  | _, _ => 0

/-- The number of states of sequences that share their beginnings. -/
def sharingStates (before : List ByteRange) : List (List ByteRange) → Nat
  | [] => 0
  | ranges :: rest => ranges.length - shared before ranges + sharingStates ranges rest

/-- The space of a set that is read backwards. -/
def backwardSize (set : CharSet) : Nat :=
  let sequences := set.byteSequences
  stateSize * (2 + sharingStates [] sequences) + branchSize * sequences.length

/-- What can follow each beginning of some sequences, which have at most `depth` ranges. -/
def followers : Nat → List (List ByteRange) → List (List (List ByteRange))
  | 0, _ => []
  | depth + 1, sequences =>
    let groups := sequences.splitBy fun left right => left.head? == right.head?
    let behind := (groups.map fun group => group.map List.tail).filter fun group =>
      group != [[]]
    sequences :: behind.flatMap (followers depth)

/-- The space of a set that is read forwards: a state for each different list of followers. -/
def forwardSize (set : CharSet) : Nat :=
  let states := (followers 4 set.byteSequences).eraseDups
  let ways := states.map fun sequences => (sequences.map List.head?).eraseDups.length
  stateSize * (1 + states.length) + rangeSize * ways.foldl (· + ·) 0

/-- A pattern that takes no character. -/
def takesNothing : Pattern → Bool
  | .empty => true
  | .single _ => false
  | .anchored _ => true
  | .sequence first second => first.takesNothing && second.takesNothing
  | .choice left right => left.takesNothing && right.takesNothing
  | .repetition item _ most => item.takesNothing || most == some 0
  | .group item => item.takesNothing

/-- A pattern that can match without taking a character. -/
def canTakeNothing : Pattern → Bool
  | .empty => true
  | .single _ => false
  | .anchored _ => true
  | .sequence first second => first.canTakeNothing && second.canTakeNothing
  | .choice left right => left.canTakeNothing || right.canTakeNothing
  | .repetition item least _ => item.canTakeNothing || least == 0
  | .group item => item.canTakeNothing

/-- The space of a repetition of an item of a size.  A choice to go on has two branches. -/
def repeatedSize (size : Nat) (canBeEmpty : Bool) (least : Nat) (most : Option Nat) : Nat :=
  let choice := stateSize + 2 * branchSize
  match least, most with
  | 0, none => if canBeEmpty then size + 2 * choice + stateSize else size + choice
  | 0, some 1 => size + choice + stateSize
  | _, none => least * size + choice
  | _, some most =>
    if most ≤ least then least * size
    else least * size + stateSize + (most - least) * (size + choice)

/-- The space of a set: a character has a state for each byte, and sets of ASCII characters have
one state with ways to another. -/
def setSize (large : CharSet → Nat) (set : CharSet) : Nat :=
  match set.only? with
  | some code => stateSize * (ByteRange.encode code).length
  | none =>
    if set.isAscii then 2 * stateSize + rangeSize * set.ranges.length else large set

mutual

/-- The space of a pattern, given that of large sets and of the states around groups. -/
def size (large : CharSet → Nat) (around : Nat) : Pattern → Nat
  | .empty => 0
  | .single set => setSize large set
  | .anchored _ => stateSize
  | .sequence first second => first.size large around + second.size large around
  | .choice left right =>
    2 * stateSize + left.branch large around + right.branch large around
  | .repetition item least most =>
    let size := item.size large around
    if item.takesNothing then repeatedSize size true (min least 1) (some 1)
    else repeatedSize size item.canTakeNothing least most
  | .group item => around + item.size large around

/-- The space of a branch.  Choices inside choices are branches of the outer one. -/
def branch (large : CharSet → Nat) (around : Nat) : Pattern → Nat
  | .choice left right => left.branch large around + right.branch large around
  | .empty => stateSize + branchSize
  | .single set => setSize large set + branchSize
  | .anchored _ => stateSize + branchSize
  | .sequence first second =>
    first.size large around + second.size large around + branchSize
  | .repetition item least most =>
    let size := item.size large around
    branchSize +
      if item.takesNothing then repeatedSize size true (min least 1) (some 1)
      else repeatedSize size item.canTakeNothing least most
  | .group item => around + item.size large around + branchSize

end

def sizeLimit : Nat := 10485760

/-- The states in front of every pattern, which pass over a text, and the last one. -/
def frameSize : Nat := 4 * stateSize + 2 * branchSize + rangeSize

/-- A pattern that does not fit in one of the two directions.  No set takes more space forwards than
backwards, so the smaller sizes are computed only where they matter. -/
def isTooLarge (pattern : Pattern) : Bool :=
  let around := 2 * stateSize
  if around + frameSize + pattern.size backwardSize around ≤ sizeLimit then false
  else
    sizeLimit < frameSize + pattern.size backwardSize 0 ||
      sizeLimit < around + frameSize + pattern.size forwardSize around

end Pattern

end AsmSymbols
