import AsmSymbols.Proofs.Placement

/-!
# Reading commutes with upper case

Nothing that steers the reading of a line is a letter: blanks, terminators, quotes and joining
characters stay what they are in upper case, and so does the length of every character.  So each
reading function takes the upper case of a text to the upper case of its result.  Only an
instruction set looks at letters, and it has to ignore their case (`InstructionSet.IgnoresCase`).
-/

set_option autoImplicit false

namespace AsmSymbols

section Characters

variable {c d : Char}

/-- Upper case moves the small letters down by 32 and keeps everything else. -/
theorem toUpper_cases (c : Char) :
    (97 ≤ c.toNat ∧ c.toNat ≤ 122 ∧ c.toUpper.toNat + 32 = c.toNat) ∨
      (¬ (97 ≤ c.toNat ∧ c.toNat ≤ 122) ∧ c.toUpper = c) := by
  unfold Char.toUpper
  split
  next small =>
    simp only [UInt32.le_iff_toNat_le] at small
    have low : 97 ≤ c.toNat := small.1
    have high : c.toNat ≤ 122 := small.2
    refine Or.inl ⟨low, high, ?_⟩
    change (c.val + ('A'.val - 'a'.val)).toNat + 32 = c.val.toNat
    have code : c.val.toNat = c.toNat := rfl
    have step : ('A'.val - 'a'.val).toNat = 4294967264 := rfl
    rw [UInt32.toNat_add, step]
    omega
  next other =>
    simp only [UInt32.le_iff_toNat_le] at other
    exact Or.inr ⟨other, rfl⟩

theorem toUpper_toUpper (c : Char) : c.toUpper.toUpper = c.toUpper := by
  rcases toUpper_cases c with ⟨low, high, moved⟩ | ⟨_, kept⟩
  · rcases toUpper_cases c.toUpper with ⟨again, _⟩ | ⟨_, kept⟩
    · omega
    · exact kept
  · rw [kept, kept]

theorem utf8Size_toUpper (c : Char) : c.toUpper.utf8Size = c.utf8Size := by
  rcases toUpper_cases c with ⟨low, high, moved⟩ | ⟨_, kept⟩
  · have single : ∀ d : Char, d.toNat ≤ 127 → d.utf8Size = 1 := fun d ascii =>
      Char.utf8Size_eq_one_iff.mpr (UInt32.le_iff_toNat_le.mpr ascii)
    rw [single c (by omega), single c.toUpper (by omega)]
  · rw [kept]

/-- A character is no letter if its code lies outside both ranges of letters. -/
def IsNoLetter (d : Char) : Prop :=
  ¬ (65 ≤ d.toNat ∧ d.toNat ≤ 90) ∧ ¬ (97 ≤ d.toNat ∧ d.toNat ≤ 122)

instance (d : Char) : Decidable (IsNoLetter d) :=
  inferInstanceAs (Decidable
    (¬ (65 ≤ d.toNat ∧ d.toNat ≤ 90) ∧ ¬ (97 ≤ d.toNat ∧ d.toNat ≤ 122)))

theorem toUpper_eq_iff (noLetter : IsNoLetter d) : c.toUpper = d ↔ c = d := by
  obtain ⟨notUpper, notLower⟩ := noLetter
  rcases toUpper_cases c with ⟨low, high, moved⟩ | ⟨_, kept⟩
  · rw [← Char.toNat_inj, ← Char.toNat_inj]
    omega
  · rw [kept]

theorem beq_toUpper (noLetter : IsNoLetter d) : (c.toUpper == d) = (c == d) := by
  rw [Bool.eq_iff_iff, beq_iff_eq, beq_iff_eq, toUpper_eq_iff noLetter]

theorem bne_toUpper (noLetter : IsNoLetter d) (c : Char) : (c.toUpper != d) = (c != d) := by
  rw [bne, bne, beq_toUpper noLetter]

theorem isBlank_toUpper (c : Char) : isBlank c.toUpper = isBlank c := by
  simp only [isBlank, beq_toUpper (show IsNoLetter ' ' by decide),
    beq_toUpper (show IsNoLetter '\t' by decide)]

theorem isWordChar_toUpper (c : Char) : isWordChar c.toUpper = isWordChar c := by
  simp only [isWordChar, bne, isBlank_toUpper, beq_toUpper (show IsNoLetter ':' by decide),
    beq_toUpper (show IsNoLetter ';' by decide)]

theorem isQuote_toUpper (c : Char) : isQuote c.toUpper = isQuote c := by
  simp only [isQuote, beq_toUpper (show IsNoLetter '\'' by decide),
    beq_toUpper (show IsNoLetter '"' by decide)]

theorem isOperandSeparator_toUpper (c : Char) :
    isOperandSeparator c.toUpper = isOperandSeparator c := by
  simp only [isOperandSeparator, beq_toUpper (show IsNoLetter ',' by decide),
    beq_toUpper (show IsNoLetter '+' by decide), beq_toUpper (show IsNoLetter '-' by decide)]

theorem isNoLetter_of_isQuote (quotes : isQuote d = true) : IsNoLetter d := by
  simp only [isQuote, Bool.or_eq_true, beq_iff_eq] at quotes
  rcases quotes with rfl | rfl <;> decide

theorem isDigit_iff : c.isDigit = true ↔ 48 ≤ c.toNat ∧ c.toNat ≤ 57 := by
  simp [Char.isDigit, UInt32.le_iff_toNat_le]

theorem isHexDigit_iff :
    isHexDigit c = true ↔ (48 ≤ c.toNat ∧ c.toNat ≤ 57) ∨ (97 ≤ c.toNat ∧ c.toNat ≤ 102) ∨
      (65 ≤ c.toNat ∧ c.toNat ≤ 70) := by
  simp only [isHexDigit, Bool.or_eq_true, Bool.and_eq_true, decide_eq_true_eq, isDigit_iff,
    Char.le_def, UInt32.le_iff_toNat_le, or_assoc]
  rfl

theorem isDigit_toUpper (c : Char) : c.toUpper.isDigit = c.isDigit := by
  rcases toUpper_cases c with moved | ⟨_, kept⟩
  · rw [Bool.eq_iff_iff, isDigit_iff, isDigit_iff]
    omega
  · rw [kept]

theorem isHexDigit_toUpper (c : Char) : isHexDigit c.toUpper = isHexDigit c := by
  rcases toUpper_cases c with moved | ⟨_, kept⟩
  · rw [Bool.eq_iff_iff, isHexDigit_iff, isHexDigit_iff]
    omega
  · rw [kept]

/-- The mark of hexadecimal numbers is a letter, but both of its cases count. -/
theorem hexMark_toUpper (c : Char) :
    (c.toUpper == 'x' || c.toUpper == 'X') = (c == 'x' || c == 'X') := by
  rcases toUpper_cases c with moved | ⟨_, kept⟩
  · have small : 'x'.toNat = 120 := rfl
    have capital : 'X'.toNat = 88 := rfl
    rw [Bool.eq_iff_iff]
    simp only [Bool.or_eq_true, beq_iff_eq, ← Char.toNat_inj, small, capital]
    omega
  · rw [kept]

end Characters

namespace Text

variable {text : Text}

@[simp] theorem upper_nil : upper [] = [] := rfl

@[simp] theorem upper_cons (c : Char) (text : Text) :
    upper (c :: text) = c.toUpper :: upper text := rfl

@[simp] theorem upper_append (front back : Text) :
    upper (front ++ back) = upper front ++ upper back := List.map_append

@[simp] theorem upper_upper (text : Text) : upper (upper text) = upper text := by
  rw [upper, upper, List.map_map]
  exact List.map_congr_left fun c _ => toUpper_toUpper c

@[simp] theorem isEmpty_upper (text : Text) : (upper text).isEmpty = text.isEmpty :=
  List.isEmpty_map

@[simp] theorem byteLength_upper (text : Text) : byteLength (upper text) = byteLength text := by
  induction text with
  | nil => rfl
  | cons c text inductionHypothesis => simp [utf8Size_toUpper, inductionHypothesis]

theorem dropBytes_upper (start : Nat) (text : Text) :
    dropBytes start (upper text) = upper (dropBytes start text) := by
  induction text generalizing start with
  | nil => simp
  | cons c text inductionHypothesis =>
    cases start with
    | zero => simp
    | succ start => simp [dropBytes, utf8Size_toUpper, inductionHypothesis]

theorem takeWhile_upper {p : Char → Bool} (blind : ∀ c, p c.toUpper = p c) (text : Text) :
    (upper text).takeWhile p = upper (text.takeWhile p) := by
  rw [upper, List.takeWhile_map, upper]
  congr 2
  funext c
  exact blind c

theorem dropWhile_upper {p : Char → Bool} (blind : ∀ c, p c.toUpper = p c) (text : Text) :
    (upper text).dropWhile p = upper (text.dropWhile p) := by
  rw [upper, List.dropWhile_map, upper]
  congr 2
  funext c
  exact blind c

theorem all_upper {p : Char → Bool} (blind : ∀ c, p c.toUpper = p c) (text : Text) :
    (upper text).all p = text.all p := by
  rw [upper, List.all_map]
  congr 1
  funext c
  exact blind c

theorem mem_upper_iff {d : Char} (noLetter : IsNoLetter d) : d ∈ upper text ↔ d ∈ text := by
  simp [upper, toUpper_eq_iff noLetter]

theorem upper_eq_singleton_iff {d : Char} (noLetter : IsNoLetter d) :
    upper text = [d] ↔ text = [d] := by
  simp [upper, List.map_eq_singleton_iff, toUpper_eq_iff noLetter]

/-- A character that ends no line does not end one in upper case. -/
theorem lines_upper_cons {c : Char} {rest : Text}
    (noReturn : ∀ more, c = '\r' → rest = '\n' :: more → False) (noLineFeed : c = '\n' → False) :
    lines (c.toUpper :: upper rest) =
      match lines (upper rest) with
      | [] => [[c.toUpper]]
      | line :: following => (c.toUpper :: line) :: following := by
  apply lines.eq_4
  · intro more isReturn startsWithLineFeed
    rw [toUpper_eq_iff (by decide)] at isReturn
    cases rest with
    | nil => cases startsWithLineFeed
    | cons d rest =>
      have isLineFeed := (toUpper_eq_iff (by decide)).mp (List.cons.inj startsWithLineFeed).1
      exact noReturn rest isReturn (by rw [isLineFeed])
  · intro isLineFeed
    exact noLineFeed ((toUpper_eq_iff (by decide)).mp isLineFeed)

theorem lines_upper (text : Text) : lines (upper text) = (lines text).map upper := by
  fun_induction lines text with
  | case1 => rfl
  | case2 rest inductionHypothesis =>
    change [] :: lines (upper rest) = _
    rw [inductionHypothesis]
    rfl
  | case3 rest inductionHypothesis =>
    change [] :: lines (upper rest) = _
    rw [inductionHypothesis]
    rfl
  | case4 c rest noReturn noLineFeed ended inductionHypothesis =>
    rw [upper_cons, lines_upper_cons noReturn noLineFeed, inductionHypothesis, ended]
    rfl
  | case5 c rest noReturn noLineFeed first following split inductionHypothesis =>
    rw [upper_cons, lines_upper_cons noReturn noLineFeed, inductionHypothesis, split]
    rfl

end Text

/-- The token with its text in upper case. -/
def Token.upper (token : Token) : Token := { token with text := Text.upper token.text }

@[simp] theorem Token.stop_upper (token : Token) : token.upper.stop = token.stop := by
  simp [Token.stop, Token.upper]

section Scanning

theorem codeOf_upper (line : Text) : codeOf (Text.upper line) = Text.upper (codeOf line) :=
  Text.takeWhile_upper (bne_toUpper (by decide)) line

theorem firstToken?_upper (position : Nat) (code : Text) :
    firstToken? position (Text.upper code) = (firstToken? position code).map Token.upper := by
  induction code generalizing position with
  | nil => rfl
  | cons c code inductionHypothesis =>
    simp only [Text.upper_cons, firstToken?, isBlank_toUpper, utf8Size_toUpper,
      inductionHypothesis, beq_toUpper (show IsNoLetter ':' by decide),
      Text.takeWhile_upper isWordChar_toUpper]
    split
    · rfl
    · split <;> rfl

theorem nextToken?_upper (start : Nat) (line : Text) :
    nextToken? start (Text.upper line) = (nextToken? start line).map Token.upper := by
  simp only [nextToken?, codeOf_upper, Text.dropBytes_upper, Text.byteLength_upper,
    firstToken?_upper]

end Scanning

namespace Literal

theorem isDecimal_upper (word : Text) : isDecimal (Text.upper word) = isDecimal word := by
  simp only [isDecimal, Text.isEmpty_upper, Text.all_upper isDigit_toUpper]

theorem isHexadecimal_upper (word : Text) :
    isHexadecimal (Text.upper word) = isHexadecimal word := by
  cases word with
  | nil => rfl
  | cons c word =>
    by_cases zero : c = '0'
    · subst zero
      cases word with
      | nil => rfl
      | cons mark digits =>
        change isHexadecimal ('0' :: mark.toUpper :: Text.upper digits) = _
        simp only [isHexadecimal, hexMark_toUpper, Text.isEmpty_upper,
          Text.all_upper isHexDigit_toUpper]
    · have stillNoZero : c.toUpper ≠ '0' := fun isZero =>
        zero ((toUpper_eq_iff (by decide)).mp isZero)
      rw [Text.upper_cons]
      unfold isHexadecimal
      split
      next starts => exact absurd (List.cons.inj starts).1 stillNoZero
      next =>
        split
        next starts => exact absurd (List.cons.inj starts).1 zero
        next => rfl

theorem dropSign_upper (word : Text) : dropSign (Text.upper word) = Text.upper (dropSign word) := by
  cases word with
  | nil => rfl
  | cons c word =>
    simp only [Text.upper_cons, dropSign, beq_toUpper (show IsNoLetter '+' by decide),
      beq_toUpper (show IsNoLetter '-' by decide)]
    split <;> rfl

theorem isQuoted_upper (word : Text) : isQuoted (Text.upper word) = isQuoted word := by
  cases word with
  | nil => rfl
  | cons c word =>
    simp only [Text.upper_cons, isQuoted, isQuote_toUpper]
    cases quotes : isQuote c with
    | false => rfl
    | true =>
      have noLetter := isNoLetter_of_isQuote quotes
      have kept : c.toUpper = c := (toUpper_eq_iff noLetter).mpr rfl
      rw [kept, Text.dropWhile_upper (bne_toUpper noLetter), Bool.true_and, Bool.true_and,
        Bool.eq_iff_iff, beq_iff_eq, beq_iff_eq, Text.upper_eq_singleton_iff noLetter]

end Literal

theorem isLiteral_upper (word : Text) : isLiteral (Text.upper word) = isLiteral word := by
  simp only [isLiteral, Literal.isNumber, Literal.dropSign_upper, Literal.isDecimal_upper,
    Literal.isHexadecimal_upper, Literal.isQuoted_upper]

namespace Operand

/-- An open quote is a quote. -/
def IsOpenQuote (quote : Option Char) : Prop := ∀ q ∈ quote, isQuote q = true

theorem isOpenQuote_none : IsOpenQuote none := by simp [IsOpenQuote]

theorem IsOpenQuote.quoteAfter {quote : Option Char} (opened : IsOpenQuote quote) (c : Char) :
    IsOpenQuote (quoteAfter quote c) := by
  intro q isOpen
  cases quote with
  | none =>
    by_cases quotes : isQuote c = true
    · simp only [Operand.quoteAfter, quotes, ↓reduceIte, Option.mem_some] at isOpen
      exact isOpen ▸ quotes
    · simp [Operand.quoteAfter, quotes] at isOpen
  | some other =>
    by_cases closes : c = other
    · simp [Operand.quoteAfter, closes] at isOpen
    · simp only [Operand.quoteAfter, closes, ↓reduceIte] at isOpen
      exact opened q isOpen

theorem quoteAfter_toUpper {quote : Option Char} (opened : IsOpenQuote quote) (c : Char) :
    quoteAfter quote c.toUpper = quoteAfter quote c := by
  cases quote with
  | none =>
    by_cases quotes : isQuote c = true
    · have kept : c.toUpper = c := (toUpper_eq_iff (isNoLetter_of_isQuote quotes)).mpr rfl
      rw [kept]
    · simp [quoteAfter, isQuote_toUpper, quotes]
  | some q =>
    have noLetter := isNoLetter_of_isQuote (opened q rfl)
    simp only [quoteAfter, toUpper_eq_iff noLetter]

theorem foldl_quoteAfter_upper {quote : Option Char} (opened : IsOpenQuote quote) (word : Text) :
    (Text.upper word).foldl quoteAfter quote = word.foldl quoteAfter quote ∧
      IsOpenQuote (word.foldl quoteAfter quote) := by
  induction word generalizing quote with
  | nil => exact ⟨rfl, opened⟩
  | cons c word inductionHypothesis =>
    rw [Text.upper_cons, List.foldl_cons, List.foldl_cons, quoteAfter_toUpper opened]
    exact inductionHypothesis (opened.quoteAfter c)

theorem openQuote?_upper (word : Text) : openQuote? (Text.upper word) = openQuote? word :=
  (foldl_quoteAfter_upper isOpenQuote_none word).1

theorem isQuote_of_openQuote? {word : Text} {quote : Char} (opened : openQuote? word = some quote) :
    isQuote quote = true :=
  (foldl_quoteAfter_upper isOpenQuote_none word).2 quote opened

theorem splitTerms_upper {quote : Option Char} (opened : IsOpenQuote quote) (text : Text) :
    splitTerms quote (Text.upper text) = (splitTerms quote text).map Text.upper := by
  induction text generalizing quote with
  | nil => rfl
  | cons c text inductionHypothesis =>
    simp only [Text.upper_cons, splitTerms, isOperandSeparator_toUpper, quoteAfter_toUpper opened,
      inductionHypothesis isOpenQuote_none, inductionHypothesis (opened.quoteAfter c)]
    split
    · rfl
    · cases splitTerms (Operand.quoteAfter quote c) text <;> rfl

theorem placeFrom_upper (offset : Nat) (terms : List Text) :
    placeFrom offset (terms.map Text.upper) =
      (placeFrom offset terms).map fun (start, term) => (start, Text.upper term) := by
  induction terms generalizing offset with
  | nil => rfl
  | cons term terms inductionHypothesis => simp [placeFrom, inductionHypothesis]

theorem terms_upper (operand : Text) :
    terms (Text.upper operand) =
      (terms operand).map fun (start, term) => (start, Text.upper term) := by
  rw [terms, splitTerms_upper isOpenQuote_none, placeFrom_upper]
  rfl

end Operand

/-- The set takes a word the same way in every case. -/
structure InstructionSet.IgnoresCase (set : InstructionSet) : Prop where
  mnemonic : ∀ word other, Text.upper word = Text.upper other →
    set.isMnemonic word = set.isMnemonic other
  reserved : ∀ word other, Text.upper word = Text.upper other →
    set.isReserved word = set.isReserved other
  external : ∀ word other, Text.upper word = Text.upper other →
    set.isExternal word = set.isExternal other

theorem InstructionSet.standard_ignoresCase : standard.IgnoresCase where
  mnemonic word other same := by simp [standard, Keyword.ofWord?, same]
  reserved word other same := by simp [standard, holds, same]
  external word other same := by simp [standard, Keyword.ofWord?, same]

theorem InstructionSet.ofWords_ignoresCase (mnemonics reserved : List Text) :
    (ofWords mnemonics reserved).IgnoresCase where
  mnemonic word other same := by simp [ofWords, holds, same]
  reserved word other same := by simp [ofWords, holds, same]
  external word other same := rfl

def Part.upper : Part → Part
  | .mnemonic word => .mnemonic word.upper
  | .operand word => .operand word.upper
  | .stray offset => .stray offset
  | .unterminated offset => .unterminated offset

def Head.upper : Head → Head
  | .absent => .absent
  | .bare => .bare
  | .label word => .label word.upper

def Statement.upper (statement : Statement) : Statement where
  head := statement.head.upper
  body := statement.body.map Part.upper

section Statements

variable {set : InstructionSet}

theorem Token.closeQuote?_upper (token : Token) {quote : Char} (quotes : isQuote quote = true)
    (line : Text) :
    token.upper.closeQuote? quote (Text.upper line) =
      (token.closeQuote? quote line).map Token.upper := by
  have noLetter := isNoLetter_of_isQuote quotes
  have kept : quote.toUpper = quote := (toUpper_eq_iff noLetter).mpr rfl
  simp only [Token.closeQuote?, Token.stop_upper, Text.dropBytes_upper,
    Text.mem_upper_iff noLetter,
    Text.takeWhile_upper (p := (· != quote)) (bne_toUpper noLetter)]
  split
  · simp [Token.upper, kept]
  · rfl

theorem Cursor.classify_upper (ignores : set.IgnoresCase) (line : Text) (named : Bool)
    (token : Token) :
    classify set (Text.upper line) named token.upper =
      ((classify set line named token).1.upper, (classify set line named token).2) := by
  have sameText : set.isMnemonic token.upper.text = set.isMnemonic token.text :=
    ignores.mnemonic _ _ (Text.upper_upper token.text)
  have sameQuote : Operand.openQuote? token.upper.text = Operand.openQuote? token.text :=
    Operand.openQuote?_upper token.text
  have sameKind : token.upper.kind = token.kind := rfl
  unfold classify
  simp only [sameText, sameQuote, sameKind, Token.stop_upper, Text.byteLength_upper]
  cases token.kind with
  | separator => rfl
  | word =>
    by_cases isMnemonic : (!named && set.isMnemonic token.text) = true
    · simp [isMnemonic, Part.upper]
    · simp only [isMnemonic]
      cases opened : Operand.openQuote? token.text with
      | none => rfl
      | some quote =>
        have quotes := Operand.isQuote_of_openQuote? opened
        simp only [Token.closeQuote?_upper token quotes]
        cases token.closeQuote? quote line with
        | none => rfl
        | some closed => simp [Part.upper]

theorem Cursor.next?_upper (ignores : set.IgnoresCase) (line : Text) (cursor : Cursor) :
    cursor.next? set (Text.upper line) =
      (cursor.next? set line).map fun (part, following) => (part.upper, following) := by
  rw [Cursor.next?, Cursor.next?, nextToken?_upper, Option.map_map, Option.map_map]
  congr 1
  funext token
  exact classify_upper ignores line cursor.named token

theorem partsFrom_upper (ignores : set.IgnoresCase) (line : Text) (cursor : Cursor) :
    partsFrom set (Text.upper line) cursor = (partsFrom set line cursor).map Part.upper := by
  apply partsFrom_induction
    (motive := fun cursor parts => partsFrom set (Text.upper line) cursor = parts.map Part.upper)
  · intro cursor ended
    rw [partsFrom_of_none (by rw [Cursor.next?_upper ignores, ended]; rfl)]
    rfl
  · intro cursor following part rest found inductionHypothesis
    rw [partsFrom_of_some (by rw [Cursor.next?_upper ignores, found]; rfl), inductionHypothesis]
    rfl

theorem Head.ofLine_upper (line : Text) :
    Head.ofLine (Text.upper line) = ((Head.ofLine line).1.upper, (Head.ofLine line).2) := by
  have sameKind : ∀ token : Token, token.upper.isSeparator = token.isSeparator := fun _ => rfl
  unfold Head.ofLine
  rw [nextToken?_upper]
  cases nextToken? 0 line with
  | none => rfl
  | some first =>
    simp only [Option.map_some, sameKind, Token.stop_upper, nextToken?_upper]
    by_cases bare : first.isSeparator = true
    · simp [bare, Head.upper]
    · simp only [bare]
      cases nextToken? first.stop line with
      | none => rfl
      | some second =>
        by_cases closes : second.isSeparator = true
        · simp [sameKind, closes, Head.upper]
        · simp [sameKind, closes, Head.upper]

theorem Statement.ofLine_upper (ignores : set.IgnoresCase) (line : Text) :
    Statement.ofLine set (Text.upper line) = (Statement.ofLine set line).upper := by
  simp only [Statement.ofLine, Head.ofLine_upper, partsFrom_upper ignores, Statement.upper]

end Statements

end AsmSymbols
