/-!
# Source text

A text is its list of characters, since every rule of the assembly language speaks of one character
at a time.  Positions are counted in bytes of the UTF-8 form: `byteLength` is the measure, and
`dropBytes` moves to the first character boundary at or behind a position.  `lines` cuts a file into
lines, and `upper` folds ASCII case, the only folding the language knows.
-/

set_option autoImplicit false

namespace AsmSymbols

abbrev Text := List Char

instance : Coe String Text := ⟨String.toList⟩

namespace Text

/-- Number of bytes of the UTF-8 form. -/
def byteLength : Text → Nat
  | [] => 0
  | c :: rest => c.utf8Size + byteLength rest

@[simp] theorem byteLength_nil : byteLength [] = 0 := rfl

@[simp] theorem byteLength_cons (c : Char) (rest : Text) :
    byteLength (c :: rest) = c.utf8Size + byteLength rest := rfl

@[simp] theorem byteLength_append (front back : Text) :
    byteLength (front ++ back) = byteLength front + byteLength back := by
  induction front with
  | nil => simp
  | cons c front inductionHypothesis => simp [inductionHypothesis, Nat.add_assoc]

theorem length_le_byteLength (text : Text) : text.length ≤ byteLength text := by
  induction text with
  | nil => simp
  | cons c rest inductionHypothesis =>
    have := c.utf8Size_pos
    simp only [List.length_cons, byteLength_cons]
    omega

theorem byteLength_pos_of_ne_nil {text : Text} (nonempty : text ≠ []) : 0 < byteLength text := by
  have := List.length_pos_iff.mpr nonempty
  have := length_le_byteLength text
  omega

/-- What is left of a text from the first character boundary at or behind byte `start`. -/
def dropBytes : Nat → Text → Text
  | 0, text => text
  | _ + 1, [] => []
  | start + 1, c :: rest => dropBytes (start + 1 - c.utf8Size) rest

@[simp] theorem dropBytes_zero (text : Text) : dropBytes 0 text = text := by
  cases text <;> rfl

@[simp] theorem dropBytes_nil (start : Nat) : dropBytes start [] = [] := by
  cases start <;> rfl

/-- Dropping a front by its own length leaves exactly what follows it. -/
@[simp] theorem dropBytes_append (front back : Text) :
    dropBytes (byteLength front) (front ++ back) = back := by
  induction front with
  | nil => simp
  | cons c front inductionHypothesis =>
    have positive := c.utf8Size_pos
    have step : byteLength (c :: front) = (c.utf8Size + byteLength front - 1) + 1 := by
      simp only [byteLength_cons]; omega
    rw [step, List.cons_append, dropBytes]
    have rest : c.utf8Size + byteLength front - 1 + 1 - c.utf8Size = byteLength front := by omega
    rw [rest, inductionHypothesis]

theorem dropBytes_suffix (start : Nat) (text : Text) : dropBytes start text <:+ text := by
  induction text generalizing start with
  | nil => simp
  | cons c rest inductionHypothesis =>
    cases start with
    | zero => simp
    | succ start =>
      exact (inductionHypothesis _).trans (List.suffix_cons c rest)

theorem byteLength_le_of_suffix {back text : Text} (suffix : back <:+ text) :
    byteLength back ≤ byteLength text := by
  obtain ⟨front, rfl⟩ := suffix
  simp

/-- Something is left only when at least `start` bytes stand in front of it. -/
theorem start_add_byteLength_dropBytes_le {start : Nat} {text : Text}
    (left : dropBytes start text ≠ []) :
    start + byteLength (dropBytes start text) ≤ byteLength text := by
  induction text generalizing start with
  | nil => simp at left
  | cons c rest inductionHypothesis =>
    cases start with
    | zero => simp
    | succ start =>
      rw [dropBytes] at left ⊢
      have := inductionHypothesis left
      simp only [byteLength_cons]
      omega

/-- ASCII upper case.  Texts that differ only in ASCII case, and no others, have one upper case. -/
def upper (text : Text) : Text := text.map Char.toUpper

/-- The decimal numeral of a number, without leading zeros. -/
def decimal (number : Nat) : Text := Nat.toDigits 10 number

/-- Cut at every `separator`.  There is always at least one field. -/
def fields (separator : Char) : Text → List Text
  | [] => [[]]
  | c :: rest =>
    if c == separator then [] :: fields separator rest
    else
      match fields separator rest with
      | [] => [[c]]
      | field :: following => (c :: field) :: following

/-- Characters with the Unicode property White_Space. -/
def isWhiteSpace (c : Char) : Bool :=
  let code := c.toNat
  (0x09 ≤ code && code ≤ 0x0D) || (0x2000 ≤ code && code ≤ 0x200A) ||
    [0x20, 0x85, 0xA0, 0x1680, 0x2028, 0x2029, 0x202F, 0x205F, 0x3000].contains code

/-- A text without the white space at its ends. -/
def trim (text : Text) : Text :=
  ((text.dropWhile isWhiteSpace).reverse.dropWhile isWhiteSpace).reverse

/-- The lines of a file.  A line ends at a line feed, and a carriage return directly in front of the
line feed belongs to the ending.  The text behind the last line feed is a line only if it is not
empty, and it keeps a carriage return at its end. -/
def lines : Text → List Text
  | [] => []
  | '\r' :: '\n' :: rest => [] :: lines rest
  | '\n' :: rest => [] :: lines rest
  | c :: rest =>
    match lines rest with
    | [] => [[c]]
    | line :: following => (c :: line) :: following

end Text

end AsmSymbols
