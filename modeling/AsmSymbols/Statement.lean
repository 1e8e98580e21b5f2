import AsmSymbols.Token
import AsmSymbols.Operand
import AsmSymbols.InstructionSet

/-!
# Statements

A line holds at most one statement: an optional label, closed by `:`, and a body.  The body's first
mnemonic names the instruction and all its other words are operands.

A quoted operand may hold blanks, a `:` or a `;`, so a word that leaves a quote open is continued to
the next such quote of the line.  Where there is none, the rest of the line is given up.  A
continuation can run past the first semicolon; the body ends there, since no token starts behind it.
-/

set_option autoImplicit false

namespace AsmSymbols

/-- How a line begins. -/
inductive Head where
  /-- With its body, or with nothing. -/
  | absent
  /-- With a label terminator that has no label in front. -/
  | bare
  /-- With a label and its terminator. -/
  | label (word : Token)
  deriving DecidableEq, Repr

inductive Part where
  | mnemonic (word : Token)
  | operand (word : Token)
  /-- A label terminator that closes no label. -/
  | stray (offset : Nat)
  /-- A word that opens a quote which the line never closes. -/
  | unterminated (offset : Nat)
  deriving DecidableEq, Repr

structure Statement where
  head : Head
  body : List Part
  deriving DecidableEq, Repr

/-- Continue a word that leaves `quote` open to the next such quote of its line. -/
def Token.closeQuote? (token : Token) (quote : Char) (line : Text) : Option Token :=
  let rest := Text.dropBytes token.stop line
  if quote ∈ rest then
    some { token with text := token.text ++ rest.takeWhile (· != quote) ++ [quote] }
  else
    none

theorem byteLength_upTo_le {quote : Char} {text : Text} (found : quote ∈ text) :
    Text.byteLength (text.takeWhile (· != quote)) + quote.utf8Size ≤ Text.byteLength text := by
  induction text with
  | nil => simp at found
  | cons c rest inductionHypothesis =>
    by_cases same : c = quote
    · subst same
      simp
    · have later : quote ∈ rest := by
        rcases List.mem_cons.mp found with equality | later
        · exact absurd equality.symm same
        · exact later
      have := inductionHypothesis later
      simp only [List.takeWhile_cons, bne_iff_ne, ne_eq, same, not_false_eq_true, ↓reduceIte,
        Text.byteLength_cons]
      omega

/-- A continued word starts where the word did, ends behind it, and stays inside the line. -/
theorem Token.closeQuote?_bounds {token closed : Token} {quote : Char} {line : Text}
    (found : token.closeQuote? quote line = some closed) :
    closed.offset = token.offset ∧ token.stop < closed.stop ∧
      closed.stop ≤ Text.byteLength line := by
  have positive := quote.utf8Size_pos
  simp only [Token.closeQuote?] at found
  split at found
  next member =>
    cases found
    have left : Text.dropBytes token.stop line ≠ [] := List.ne_nil_of_mem member
    have room := Text.start_add_byteLength_dropBytes_le left
    have upTo := byteLength_upTo_le member
    refine ⟨rfl, ?_⟩
    simp only [Token.stop, Text.byteLength_append, Text.byteLength_cons, Text.byteLength_nil]
      at room upTo ⊢
    omega
  next => simp at found

/-- Where the reading of a body stands. -/
structure Cursor where
  position : Nat
  /-- The mnemonic was seen. -/
  named : Bool := false
  deriving DecidableEq, Repr

/-- The part that begins with `token`, and where the reading goes on behind it.  Behind a quote that
is never closed it goes on at the end of the line. -/
def Cursor.classify (set : InstructionSet) (line : Text) (named : Bool) (token : Token) :
    Part × Cursor :=
  match token.kind with
  | .separator => (.stray token.offset, ⟨token.stop, named⟩)
  | .word =>
    if !named && set.isMnemonic token.text then (.mnemonic token, ⟨token.stop, true⟩)
    else
      match Operand.openQuote? token.text with
      | none => (.operand token, ⟨token.stop, named⟩)
      | some quote =>
        match token.closeQuote? quote line with
        | none => (.unterminated token.offset, ⟨Text.byteLength line, named⟩)
        | some closed => (.operand closed, ⟨closed.stop, named⟩)

/-- The next part of a line, if any token is left. -/
def Cursor.next? (set : InstructionSet) (line : Text) (cursor : Cursor) : Option (Part × Cursor) :=
  (nextToken? cursor.position line).map (classify set line cursor.named)

theorem Cursor.stop_le_classify (set : InstructionSet) {line : Text} (named : Bool) {token : Token}
    (inside : token.stop ≤ Text.byteLength line) :
    token.stop ≤ (classify set line named token).2.position ∧
      (classify set line named token).2.position ≤ Text.byteLength line := by
  unfold classify
  split
  · exact ⟨Nat.le_refl _, inside⟩
  · split
    · exact ⟨Nat.le_refl _, inside⟩
    · split
      · exact ⟨Nat.le_refl _, inside⟩
      · split
        · exact ⟨inside, Nat.le_refl _⟩
        next closed found =>
          have bounds := Token.closeQuote?_bounds found
          exact ⟨Nat.le_of_lt bounds.2.1, bounds.2.2⟩

/-- Every part takes the reading further, and never past the end of the line. -/
theorem Cursor.next?_bounds {set : InstructionSet} {line : Text} {cursor following : Cursor}
    {part : Part} (found : cursor.next? set line = some (part, following)) :
    cursor.position < following.position ∧ following.position ≤ Text.byteLength line := by
  obtain ⟨token, scanned, classified⟩ := Option.map_eq_some_iff.mp found
  have bounds := nextToken?_bounds scanned
  have classes := stop_le_classify set cursor.named bounds.2.2
  rw [classified] at classes
  simp only at classes
  omega

/-- The parts of a line from a cursor on. -/
def partsFrom (set : InstructionSet) (line : Text) (cursor : Cursor) : List Part :=
  match _found : cursor.next? set line with
  | none => []
  | some (part, following) => part :: partsFrom set line following
termination_by Text.byteLength line - cursor.position
decreasing_by
  have := Cursor.next?_bounds _found
  omega

/-- How a line begins, and the byte at which its body starts.  A first word is a label only if a
terminator comes next. -/
def Head.ofLine (line : Text) : Head × Nat :=
  match nextToken? 0 line with
  | none => (.absent, 0)
  | some first =>
    if first.isSeparator then (.bare, first.stop)
    else
      match nextToken? first.stop line with
      | none => (.absent, 0)
      | some next => if next.isSeparator then (.label first, next.stop) else (.absent, 0)

namespace Statement

def ofLine (set : InstructionSet) (line : Text) : Statement where
  head := (Head.ofLine line).1
  body := partsFrom set line ⟨(Head.ofLine line).2, false⟩

/-- The word that names the instruction. -/
def mnemonic? (statement : Statement) : Option Token :=
  statement.body.findSome? fun
    | .mnemonic word => some word
    | _ => none

/-- The instruction declares that another module defines the label. -/
def isExternal (set : InstructionSet) (statement : Statement) : Bool :=
  statement.mnemonic?.any fun word => set.isExternal word.text

end Statement

end AsmSymbols
