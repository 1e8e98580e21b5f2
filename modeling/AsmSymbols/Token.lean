import AsmSymbols.Text

/-!
# Tokens of a line

A line is code up to its first semicolon; what follows is a comment.  Code is cut at blanks into
words, and the label terminator `:` is a token of its own wherever it stands.  Commas and quotes
belong to the word around them.

Scanning can start at any byte: `nextToken? start line` is the first token at or behind `start`, so
the end of one token is where the search for the next one starts.
-/

set_option autoImplicit false

namespace AsmSymbols

/-- Only the space and the tab separate words. -/
def isBlank (c : Char) : Bool := c == ' ' || c == '\t'

/-- Characters that a word can hold. -/
def isWordChar (c : Char) : Bool := !isBlank c && c != ':' && c != ';'

inductive TokenKind where
  | word
  | separator
  deriving DecidableEq, Repr

structure Token where
  text : Text
  offset : Nat
  kind : TokenKind
  deriving DecidableEq, Repr

namespace Token

/-- The byte behind the token, where the search for the next one starts. -/
def stop (token : Token) : Nat := token.offset + Text.byteLength token.text

def isSeparator (token : Token) : Bool := token.kind == .separator

end Token

/-- The part of a line in front of its comment. -/
def codeOf (line : Text) : Text := line.takeWhile (· != ';')

/-- The first token of a piece of code whose first character stands at byte `position`. -/
def firstToken? (position : Nat) : Text → Option Token
  | [] => none
  | c :: rest =>
    if isBlank c then firstToken? (position + c.utf8Size) rest
    else if c == ':' then some ⟨[c], position, .separator⟩
    else some ⟨c :: rest.takeWhile isWordChar, position, .word⟩

/-- The first token at or behind byte `start`, which may lie anywhere, also inside a character or
past the end.  There is none when only blanks and the comment remain. -/
def nextToken? (start : Nat) (line : Text) : Option Token :=
  let code := codeOf line
  let rest := Text.dropBytes start code
  firstToken? (Text.byteLength code - Text.byteLength rest) rest

theorem byteLength_codeOf_le (line : Text) :
    Text.byteLength (codeOf line) ≤ Text.byteLength line := by
  conv => rhs; rw [← List.takeWhile_append_dropWhile (p := (· != ';')) (l := line)]
  rw [Text.byteLength_append]
  exact Nat.le_add_right _ _

theorem firstToken?_bounds {position : Nat} {code : Text} {token : Token}
    (found : firstToken? position code = some token) :
    position ≤ token.offset ∧ token.offset < token.stop ∧
      token.stop ≤ position + Text.byteLength code := by
  induction code generalizing position with
  | nil => simp [firstToken?] at found
  | cons c rest inductionHypothesis =>
    have positive := c.utf8Size_pos
    rw [firstToken?] at found
    split at found
    · have := inductionHypothesis found
      simp only [Text.byteLength_cons]
      omega
    · split at found
      · cases found
        simp only [Token.stop, Text.byteLength_cons, Text.byteLength_nil]
        omega
      · cases found
        have word : Text.byteLength (rest.takeWhile isWordChar) ≤ Text.byteLength rest := by
          conv => rhs; rw [← List.takeWhile_append_dropWhile (p := isWordChar) (l := rest)]
          rw [Text.byteLength_append]
          exact Nat.le_add_right _ _
        simp only [Token.stop, Text.byteLength_cons]
        omega

/-- Every token lies at or behind the start of its search, is not empty, and ends inside the
line. -/
theorem nextToken?_bounds {start : Nat} {line : Text} {token : Token}
    (found : nextToken? start line = some token) :
    start ≤ token.offset ∧ token.offset < token.stop ∧ token.stop ≤ Text.byteLength line := by
  simp only [nextToken?] at found
  have left : Text.dropBytes start (codeOf line) ≠ [] := by
    intro empty
    simp [empty, firstToken?] at found
  have room := Text.start_add_byteLength_dropBytes_le left
  have bounds := firstToken?_bounds found
  have := byteLength_codeOf_le line
  omega

/-- All tokens at or behind byte `start`, each found from the end of the one before. -/
def tokensFrom (start : Nat) (line : Text) : List Token :=
  match _found : nextToken? start line with
  | none => []
  | some token => token :: tokensFrom token.stop line
termination_by Text.byteLength line - start
decreasing_by
  have := nextToken?_bounds _found
  omega

def tokens (line : Text) : List Token := tokensFrom 0 line

end AsmSymbols
