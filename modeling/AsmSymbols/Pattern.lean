import AsmSymbols.Unicode.Property

/-!
# Patterns

Regular expressions over messages.  Matching works on all starts of a match at once:
`Pattern.reach` takes the spots at which a match may start to those at which it may end, so that no
choice has to be undone.  A repetition is followed only from spots that it has not reached before,
so it ends after as many rounds as there are spots.
-/

set_option autoImplicit false

namespace AsmSymbols

/-- A place in a text: the number of characters in front of it, the last of them, and the text
behind it. -/
structure Spot where
  index : Nat
  before : Option Char
  rest : Text
  deriving DecidableEq, Repr

/-- The spot behind a character of a set. -/
def Spot.behind? (set : CharSet) (spot : Spot) : Option Spot :=
  match spot.rest with
  | [] => none
  | c :: rest => if set.holds c.toNat then some ⟨spot.index + 1, some c, rest⟩ else none

/-- All spots of a text, of which the first is given by what stands in front of it. -/
def Spot.allFrom (index : Nat) (before : Option Char) : Text → List Spot
  | [] => [⟨index, before, []⟩]
  | c :: rest => ⟨index, before, c :: rest⟩ :: Spot.allFrom (index + 1) (some c) rest

/-- A condition on the characters around a spot, of which each is a letter of words or not. -/
inductive WordAnchor where
  | edge
  | noEdge
  | start
  | stop
  /-- No word goes on in front. -/
  | startHalf
  /-- No word goes on behind. -/
  | stopHalf
  deriving DecidableEq, Repr

def WordAnchor.holds (inFront behind : Bool) : WordAnchor → Bool
  | .edge => inFront != behind
  | .noEdge => inFront == behind
  | .start => !inFront && behind
  | .stop => inFront && !behind
  | .startHalf => !inFront
  | .stopHalf => !behind

/-- A condition on a spot. -/
inductive Anchor where
  | textStart
  | textEnd
  /-- Lines end in a line feed or, with `paired`, in a carriage return, a line feed, or both. -/
  | lineStart (paired : Bool)
  | lineEnd (paired : Bool)
  | word (letters : CharSet) (condition : WordAnchor)
  deriving Repr

/-- Between the two characters of a paired line ending no line starts or ends. -/
def Anchor.holds (spot : Spot) : Anchor → Bool
  | .textStart => spot.before.isNone
  | .textEnd => spot.rest.isEmpty
  | .lineStart paired =>
    match spot.before with
    | none => true
    | some c => c == '\n' || (paired && c == '\r' && spot.rest.head? != some '\n')
  | .lineEnd paired =>
    match spot.rest.head? with
    | none => true
    | some c => if paired then c == '\r' || (c == '\n' && spot.before != some '\r') else c == '\n'
  | .word letters condition =>
    let isLetter (c : Char) := letters.holds c.toNat
    condition.holds (spot.before.any isLetter) (spot.rest.head?.any isLetter)

inductive Pattern where
  | empty
  | single (set : CharSet)
  | anchored (anchor : Anchor)
  | sequence (first second : Pattern)
  | choice (left right : Pattern)
  /-- At least `least` and at most `most` times. -/
  | repetition (item : Pattern) (least : Nat) (most : Option Nat)
  /-- A group whose match is remembered.  This matters for the size of a pattern only. -/
  | group (item : Pattern)
  deriving Repr

namespace Pattern

/-- Each spot once.  Spots of one text are told apart by their index. -/
def distinct (spots : List Spot) : List Spot :=
  spots.eraseDupsBy fun left right => left.index == right.index

/-- Where `count` rounds lead. -/
def rounds (round : List Spot → List Spot) : Nat → List Spot → List Spot
  | 0, spots => spots
  | count + 1, spots => rounds round count (round spots)

/-- Where at most `count` rounds lead from the spots in `fresh`, together with those in `held`. -/
def roundsUpTo (round : List Spot → List Spot) : Nat → List Spot → List Spot → List Spot
  | 0, held, _ => held
  | count + 1, held, fresh =>
    let found := (round fresh).filter fun spot => !held.any (·.index == spot.index)
    if found.isEmpty then held else roundsUpTo round count (held ++ found) found

/-- All spots at which a match that starts at one of some spots can end.  More rounds than there are
characters lead nowhere new, also where a given number is asked for: if so many rounds can be made
at all, some of them take no character. -/
def reach (size : Nat) : Pattern → List Spot → List Spot
  | .empty, spots => spots
  | .single set, spots => spots.filterMap (Spot.behind? set)
  | .anchored anchor, spots => spots.filter fun spot => anchor.holds spot
  | .sequence first second, spots => second.reach size (first.reach size spots)
  | .choice left right, spots => distinct (left.reach size spots ++ right.reach size spots)
  | .repetition item least most, spots =>
    let bound := size + 1
    let further := most.elim bound fun most => min (most - least) bound
    let round := fun spots => item.reach size spots
    let start := rounds round (min least bound) spots
    roundsUpTo round further start start
  | .group item, spots => item.reach size spots

/-- Whether a pattern matches some piece of a text. -/
def occursIn (pattern : Pattern) (text : Text) : Bool :=
  !(pattern.reach text.length (Spot.allFrom 0 none text)).isEmpty

end Pattern

end AsmSymbols
