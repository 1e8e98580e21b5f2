import AsmSymbols.Proofs.Restart
import AsmSymbols.Proofs.RoundTrip

/-!
# What a quoted literal hides

A quoted literal is an operand that names no symbol, whatever it holds.  What stands behind it is
read as if the line began there: a reading moves with the text that it reads
(`Written.usagesFrom_moved`), and it makes no difference whether the scanner takes the literal
together with the joining character behind it or starts anew there
(`Written.usagesFrom_joined`).

One content is different.  Where code ends is decided without regard to quotes, so the first
semicolon of a literal ends the code of its line, and all operands behind the literal are lost.
-/

set_option autoImplicit false

namespace AsmSymbols

section Moved

/-- The same token further to the right. -/
def Token.movedBy (distance : Nat) (token : Token) : Token :=
  { token with offset := distance + token.offset }

/-- The same usage further to the right. -/
def Usage.movedBy (distance : Nat) (usage : Usage) : Usage :=
  { usage with offset := distance + usage.offset }

def Part.movedBy (distance : Nat) : Part → Part
  | .mnemonic word => .mnemonic (word.movedBy distance)
  | .operand word => .operand (word.movedBy distance)
  | .stray offset => .stray (distance + offset)
  | .unterminated offset => .unterminated (distance + offset)

def Cursor.movedBy (distance : Nat) (cursor : Cursor) : Cursor :=
  { cursor with position := distance + cursor.position }

theorem Text.dropBytes_append_add (front back : Text) (start : Nat) :
    Text.dropBytes (Text.byteLength front + start) (front ++ back) = Text.dropBytes start back := by
  induction front with
  | nil => simp
  | cons c front inductionHypothesis =>
    have positive := c.utf8Size_pos
    have step : Text.byteLength (c :: front) + start =
        (c.utf8Size + Text.byteLength front + start - 1) + 1 := by
      rw [Text.byteLength_cons]
      omega
    have rest : c.utf8Size + Text.byteLength front + start - 1 + 1 - c.utf8Size =
        Text.byteLength front + start := by omega
    rw [step, List.cons_append, Text.dropBytes, rest, inductionHypothesis]

theorem Token.stop_movedBy (distance : Nat) (token : Token) :
    (token.movedBy distance).stop = distance + token.stop := Nat.add_assoc _ _ _

theorem firstToken?_add (distance position : Nat) (code : Text) :
    firstToken? (distance + position) code =
      (firstToken? position code).map (Token.movedBy distance) := by
  induction code generalizing position with
  | nil => rfl
  | cons c code inductionHypothesis =>
    rw [firstToken?, firstToken?]
    split
    · rw [Nat.add_assoc, inductionHypothesis]
    · split <;> rfl

variable {set : InstructionSet} {front : Text}

theorem nextToken?_moved (plain : ';' ∉ front) (start : Nat) (back : Text) :
    nextToken? (Text.byteLength front + start) (front ++ back) =
      (nextToken? start back).map (Token.movedBy (Text.byteLength front)) := by
  have shorter := Text.byteLength_le_of_suffix (Text.dropBytes_suffix start (codeOf back))
  unfold nextToken?
  simp only [codeOf_append plain, Text.dropBytes_append_add, Text.byteLength_append,
    ← firstToken?_add]
  congr 1
  omega

theorem Token.closeQuote?_moved (front back : Text) (token : Token) (quote : Char) :
    (token.movedBy (Text.byteLength front)).closeQuote? quote (front ++ back) =
      (token.closeQuote? quote back).map (Token.movedBy (Text.byteLength front)) := by
  simp only [Token.closeQuote?, Token.stop_movedBy, Text.dropBytes_append_add]
  split <;> rfl

theorem Cursor.classify_moved (set : InstructionSet) (front back : Text) (named : Bool)
    (token : Token) :
    classify set (front ++ back) named (token.movedBy (Text.byteLength front)) =
      ((classify set back named token).1.movedBy (Text.byteLength front),
        (classify set back named token).2.movedBy (Text.byteLength front)) := by
  unfold classify
  have sameKind : (token.movedBy (Text.byteLength front)).kind = token.kind := rfl
  have sameText : (token.movedBy (Text.byteLength front)).text = token.text := rfl
  rw [sameKind, sameText]
  cases token.kind with
  | separator => simp only [Part.movedBy, Cursor.movedBy, Token.stop_movedBy]; rfl
  | word =>
    dsimp only
    split
    · simp only [Part.movedBy, Cursor.movedBy, Token.stop_movedBy]
    · cases Operand.openQuote? token.text with
      | none => simp only [Part.movedBy, Cursor.movedBy, Token.stop_movedBy]
      | some quote =>
        dsimp only
        rw [Token.closeQuote?_moved]
        cases token.closeQuote? quote back with
        | none =>
          simp only [Option.map_none, Part.movedBy, Cursor.movedBy, Text.byteLength_append]
          rfl
        | some closed =>
          simp only [Option.map_some, Part.movedBy, Cursor.movedBy, Token.stop_movedBy]

theorem Cursor.next?_moved (plain : ';' ∉ front) (back : Text) (cursor : Cursor) :
    (cursor.movedBy (Text.byteLength front)).next? set (front ++ back) =
      (cursor.next? set back).map fun found =>
        (found.1.movedBy (Text.byteLength front), found.2.movedBy (Text.byteLength front)) := by
  unfold next?
  simp only [Cursor.movedBy, nextToken?_moved plain, Option.map_map]
  congr 1
  funext token
  exact classify_moved set front back cursor.named token

/-- Behind a piece of code a body is read as if its line began there. -/
theorem partsFrom_moved (plain : ';' ∉ front) (back : Text) (cursor : Cursor) :
    partsFrom set (front ++ back) (cursor.movedBy (Text.byteLength front)) =
      (partsFrom set back cursor).map (Part.movedBy (Text.byteLength front)) := by
  refine partsFrom_induction (motive := fun cursor parts =>
    partsFrom set (front ++ back) (cursor.movedBy (Text.byteLength front)) =
      parts.map (Part.movedBy (Text.byteLength front))) ?_ ?_ cursor
  · intro cursor ended
    apply partsFrom_of_none
    rw [Cursor.next?_moved plain, ended, Option.map_none]
  · intro cursor following part rest found inductionHypothesis
    have moved : (cursor.movedBy (Text.byteLength front)).next? set (front ++ back) =
        some (part.movedBy (Text.byteLength front), following.movedBy (Text.byteLength front)) := by
      rw [Cursor.next?_moved plain, found, Option.map_some]
    rw [partsFrom_of_some moved, inductionHypothesis, List.map_cons]

theorem termUsages_add (set : InstructionSet) (line distance offset : Nat) (text : Text) :
    termUsages set line (distance + offset) text =
      (termUsages set line offset text).map (Usage.movedBy distance) := by
  unfold termUsages
  rw [placeFrom_add, List.filterMap_map, List.map_filterMap]
  apply List.filterMap_congr
  rintro ⟨start, term⟩ _
  by_cases names : namesSymbol set term = true <;> simp [names, Usage.movedBy]

theorem Statement.usages_moved (set : InstructionSet) (line distance : Nat) (head : Head)
    (parts : List Part) :
    Statement.usages set line ⟨head, parts.map (Part.movedBy distance)⟩ =
      (Statement.usages set line ⟨head, parts⟩).map (Usage.movedBy distance) := by
  unfold Statement.usages
  rw [List.flatMap_map, List.map_flatMap]
  apply List.flatMap_congr
  intro part _
  cases part with
  | operand word =>
    simp only [Part.movedBy, operandUsages_eq_termUsages]
    exact termUsages_add set line distance word.offset word.text
  | mnemonic word => rfl
  | stray offset => rfl
  | unterminated offset => rfl

end Moved

namespace Written

open AsmSymbols.Operand

variable {set : InstructionSet} {line : Nat} {text front word tail content suffix : Text}
  {quote joint : Char}

theorem usagesFrom_moved (plain : ';' ∉ front) (back : Text) (position : Nat) :
    usagesFrom set line (front ++ back) (Text.byteLength front + position) =
      (usagesFrom set line back position).map (Usage.movedBy (Text.byteLength front)) := by
  unfold usagesFrom
  rw [← Statement.usages_moved, ← partsFrom_moved plain]
  rfl

theorem termUsages_append_link (closed : openQuote? word = none)
    (joins : isOperandSeparator joint = true) (offset : Nat) (rest : Text) :
    termUsages set line offset (word ++ joint :: rest) =
      termUsages set line offset word ++
        termUsages set line (offset + Text.byteLength word) (joint :: rest) := by
  have alone : termUsages set line (offset + Text.byteLength word) ([] ++ joint :: rest) =
      termUsages set line (offset + Text.byteLength word + 1) rest :=
    termUsages_append_joint rfl joins (offset + Text.byteLength word) rest
  rw [termUsages_append_joint closed joins, ← alone, List.nil_append]

/-- The operand that begins with a word of the scanner, unless the line leaves its quote open. -/
def completed? (text : Text) (token : Token) : Option Token :=
  match openQuote? token.text with
  | none => some token
  | some quote => token.closeQuote? quote text

/-- A word is read as the operand that begins with it, and ends the reading if there is none. -/
theorem usagesFrom_of_token {position : Nat} {token : Token}
    (scanned : nextToken? position text = some token) (isWord : token.kind = .word) :
    usagesFrom set line text position =
      (completed? text token).elim [] fun operand =>
        termUsages set line operand.offset operand.text ++
          usagesFrom set line text operand.stop := by
  unfold completed?
  cases opened : openQuote? token.text with
  | none => exact usagesFrom_of_operand scanned (by simp [Cursor.classify, isWord, opened])
  | some quote =>
    dsimp only
    cases found : token.closeQuote? quote text with
    | some closed =>
      have classified : Cursor.classify set text true token =
          (.operand closed, ⟨closed.stop, true⟩) := by
        simp [Cursor.classify, isWord, opened, found]
      exact usagesFrom_of_operand scanned classified
    | none =>
      have stepped : Cursor.next? set text ⟨position, true⟩ =
          some (.unterminated token.offset, ⟨Text.byteLength text, true⟩) := by
        simp [Cursor.next?, scanned, Cursor.classify, isWord, opened, found]
      have ended : usagesFrom set line text (Text.byteLength text) = [] :=
        usagesFrom_of_none (nextToken?_behind_code (byteLength_codeOf_le text))
      unfold usagesFrom at ended ⊢
      rw [partsFrom_of_some stepped]
      exact ended

theorem text_of_completed? {token operand : Token} (made : completed? text token = some operand) :
    ∃ more, operand.text = token.text ++ more ∧ operand.offset = token.offset := by
  unfold completed? at made
  split at made
  · cases made
    exact ⟨[], (List.append_nil _).symm, rfl⟩
  · simp only [Token.closeQuote?, Option.ite_none_right_eq_some] at made
    obtain ⟨_, ⟨⟩⟩ := made
    exact ⟨_, List.append_assoc _ _ _, rfl⟩

/-- A word in front that closes its quotes changes nothing about where an operand ends. -/
theorem completed?_append (closed : openQuote? word = none) (link : Text) (offset : Nat) :
    completed? text ⟨word ++ link, offset, .word⟩ =
      (completed? text ⟨link, offset + Text.byteLength word, .word⟩).map fun operand =>
        ⟨word ++ operand.text, offset, operand.kind⟩ := by
  have sameStop : Token.stop ⟨word ++ link, offset, .word⟩ =
      Token.stop ⟨link, offset + Text.byteLength word, .word⟩ := by
    simp [Token.stop, Nat.add_assoc]
  unfold completed?
  simp only [openQuote?_append_of_closed closed]
  cases openQuote? link with
  | none => rfl
  | some quote =>
    simp only [Token.closeQuote?, sameStop]
    split <;> simp

/-- A word that uses nothing can be left out in front of a joining character.  The scanner takes
both together, and finds what it would find behind the word. -/
theorem usagesFrom_joined (split : text = front ++ word ++ joint :: tail) (plain : ';' ∉ front)
    (inWord : ∀ c ∈ word, isWordChar c = true) (closed : openQuote? word = none)
    (nothing : ∀ offset, termUsages set line offset word = [])
    (joins : isOperandSeparator joint = true) :
    usagesFrom set line text (Text.byteLength front) =
      usagesFrom set line text (Text.byteLength (front ++ word)) := by
  have jointInWord : isWordChar joint = true := by
    simp only [isOperandSeparator, Bool.or_eq_true, beq_iff_eq] at joins
    rcases joins with (rfl | rfl) | rfl <;> rfl
  have plainWord : ';' ∉ front ++ word := List.not_mem_append plain (semicolon_notMem_word inWord)
  -- what the scanner takes from the joining character on
  let link : Text := joint :: tail.takeWhile isWordChar
  have linkInWord : ∀ c ∈ link, isWordChar c = true :=
    List.forall_mem_cons.mpr ⟨jointInWord, fun c => List.mem_takeWhile_imp⟩
  have splitLink : text = front ++ word ++ link ++ tail.dropWhile isWordChar := by
    simp [link, split]
  have splitBoth : text = front ++ (word ++ link) ++ tail.dropWhile isWordChar := by
    simp [link, split]
  have scannedLink :=
    nextToken?_word splitLink plainWord (by simp [link]) linkInWord (endsWord_dropWhile tail)
  have scannedBoth := nextToken?_word splitBoth plain (by simp [link])
    (List.forall_mem_append.mpr ⟨inWord, linkInWord⟩) (endsWord_dropWhile tail)
  rw [usagesFrom_of_token scannedLink rfl, usagesFrom_of_token scannedBoth rfl,
    completed?_append closed, ← Text.byteLength_append]
  cases made : completed? text ⟨link, Text.byteLength (front ++ word), .word⟩ with
  | none => rfl
  | some operand =>
    obtain ⟨more, starts, position⟩ := text_of_completed? made
    have opens : operand.text = joint :: (tail.takeWhile isWordChar ++ more) := starts
    have sameUsages : termUsages set line (Text.byteLength front) (word ++ operand.text) =
        termUsages set line operand.offset operand.text := by
      rw [opens, termUsages_append_link closed joins, nothing, List.nil_append, position,
        Text.byteLength_append]
    have sameStop : Token.stop ⟨word ++ operand.text, Text.byteLength front, operand.kind⟩ =
        operand.stop := by
      simp [Token.stop, position, Nat.add_assoc]
    simp only [Option.map_some, Option.elim_some, sameUsages, sameStop]

theorem termUsages_quoted (quotes : isQuote quote = true) (inside : quote ∉ content)
    (offset : Nat) : termUsages set line offset (quote :: (content ++ [quote])) = [] := by
  have literal : isLiteral (quote :: (content ++ [quote])) = true :=
    Bool.or_eq_true_iff.mpr (Or.inr (Literal.isQuoted_iff.mpr
      ⟨quote, content, quotes, inside, rfl⟩))
  rw [termUsages_of_uncut (uncut_quoted quotes inside)]
  exact if_neg (by simp [namesSymbol, literal])

/-- What may stand behind a literal: nothing, a blank, a terminator, a joining character or the
comment. -/
def EndsLiteral (suffix : Text) : Prop :=
  ∀ c ∈ suffix.head?, isBlank c = true ∨ c = ':' ∨ isOperandSeparator c = true ∨ c = ';'

theorem EndsLiteral.cases (ends : EndsLiteral suffix) :
    EndsWord suffix ∨
      ∃ joint rest, suffix = joint :: rest ∧ isOperandSeparator joint = true := by
  cases suffix with
  | nil => exact Or.inl (by simp [EndsWord])
  | cons c rest =>
    by_cases joins : isOperandSeparator c = true
    · exact Or.inr ⟨c, rest, rfl, joins⟩
    · left
      rintro d ⟨⟩
      rcases ends c rfl with blank | colon | joint | comment
      · simp [isWordChar, blank]
      · simp [isWordChar, colon]
      · exact absurd joint joins
      · simp [isWordChar, comment]

/-- A literal is passed over, whatever it holds. -/
theorem usagesFrom_literal (split : text = front ++ (quote :: (content ++ [quote])) ++ suffix)
    (plain : ';' ∉ front) (quotes : isQuote quote = true) (inside : quote ∉ content)
    (ends : EndsLiteral suffix) :
    usagesFrom set line text (Text.byteLength front) =
      usagesFrom set line text (Text.byteLength (front ++ quote :: (content ++ [quote]))) := by
  have nothing : ∀ offset, termUsages set line offset (quote :: (content ++ [quote])) = [] :=
    termUsages_quoted quotes inside
  rcases word_or_cut content with whole | ⟨kept, c, cut, rfl, keptInWord, cuts⟩
  · have inWord : ∀ c ∈ quote :: (content ++ [quote]), isWordChar c = true := by
      simpa [or_imp, forall_and, isWordChar_of_isQuote quotes] using whole
    have closed := openQuote?_quoted quotes inside
    rcases ends.cases with endsWord | ⟨joint, rest, rfl, joins⟩
    · rw [usagesFrom_word split plain inWord closed endsWord, nothing, List.nil_append]
    · exact usagesFrom_joined split plain inWord closed nothing joins
  · have splitEmpty : text =
        front ++ ([] ++ quote :: (kept ++ c :: cut ++ [quote])) ++ suffix := split
    rw [usagesFrom_quoted splitEmpty plain (by simp) rfl quotes inside keptInWord cuts,
      List.nil_append, nothing, List.nil_append]

/-- Where the comment begins in a front, nothing is found behind that front. -/
theorem usagesFrom_behind_semicolon (commented : ';' ∈ front) (back : Text) :
    usagesFrom set line (front ++ back) (Text.byteLength front) = [] := by
  have reached : front.Reaches (Text.byteLength front) := by
    refine ⟨Nat.le_refl _, ?_⟩
    rintro shorter more rfl nonempty
    have := Text.byteLength_pos_of_ne_nil nonempty
    rw [Text.byteLength_append]
    omega
  have short := codeOf_lt_of_reaches reached commented back
  exact usagesFrom_of_none (nextToken?_behind_code (Nat.le_of_lt short))

end Written

open Written

/-- A line with an instruction whose first operand begins with a literal. -/
def literalLine (mnemonic : Word) (quote : Char) (content suffix : Text) : Text :=
  mnemonic.text ++ [' '] ++ (quote :: (content ++ [quote])) ++ suffix

/-- The byte behind the closing quote of such a line. -/
def literalStop (mnemonic : Word) (quote : Char) (content : Text) : Nat :=
  Text.byteLength (mnemonic.text ++ [' '] ++ (quote :: (content ++ [quote])))

/-- The usages of such a line that stand behind the closing quote, with their distances from it. -/
def usagesBehindLiteral (set : InstructionSet) (line : Nat) (mnemonic : Word) (quote : Char)
    (content suffix : Text) : List (Text × Nat) :=
  let used := (Statement.ofLine set (literalLine mnemonic quote content suffix)).usages set line
  let stop := literalStop mnemonic quote content
  (used.filter fun usage => stop ≤ usage.offset).map fun usage =>
    (usage.symbol, usage.offset - stop)

section LiteralLine

variable {set : InstructionSet} {line : Nat} {mnemonic : Word} {quote : Char}
  {content suffix : Text}

/-- All usages of such a line stand behind its literal. -/
theorem usages_literalLine (named : set.isMnemonic mnemonic.text = true)
    (quotes : isQuote quote = true) (inside : quote ∉ content) (ends : EndsLiteral suffix) :
    (Statement.ofLine set (literalLine mnemonic quote content suffix)).usages set line =
      usagesFrom set line (literalLine mnemonic quote content suffix)
        (literalStop mnemonic quote content) := by
  let rest : Text := content ++ [quote] ++ suffix
  let text := literalLine mnemonic quote content suffix
  have splitWord : text = [] ++ mnemonic.text ++ (' ' :: quote :: rest) := by
    simp [text, literalLine, rest]
  have splitQuote : text = mnemonic.text ++ [' '] ++ quote :: rest := by
    simp [text, literalLine, rest]
  have plainWord := semicolon_notMem_word mnemonic.plain
  have plainGap : ';' ∉ mnemonic.text ++ [' '] := by simp [plainWord]
  have first : nextToken? 0 text = some ⟨mnemonic.text, 0, .word⟩ :=
    nextToken?_word splitWord (by simp) mnemonic.nonempty mnemonic.plain
      (by simp [EndsWord, isWordChar, isBlank])
  have behindGap : nextToken? (Text.byteLength mnemonic.text) text =
      nextToken? (Text.byteLength (mnemonic.text ++ [' '])) text :=
    nextToken?_blanks splitQuote plainWord (by simp [isBlank])
  obtain ⟨second, found, isWord⟩ :=
    nextToken?_isSome_word splitQuote plainGap (isWordChar_of_isQuote quotes)
  have begins : Head.ofLine text = (.absent, 0) := by
    simp [Head.ofLine, first, Token.isSeparator, Token.stop, behindGap.trans found, isWord]
  have stepped : Cursor.next? set text ⟨0, false⟩ =
      some (.mnemonic ⟨mnemonic.text, 0, .word⟩, ⟨Text.byteLength mnemonic.text, true⟩) := by
    simp [Cursor.next?, first, Cursor.classify, named, Token.stop]
  have body : (Statement.ofLine set text).body = .mnemonic ⟨mnemonic.text, 0, .word⟩ ::
      partsFrom set text ⟨Text.byteLength mnemonic.text, true⟩ := by
    simp only [Statement.ofLine, begins]
    exact partsFrom_of_some stepped
  have behindWord : (Statement.ofLine set text).usages set line =
      usagesFrom set line text (Text.byteLength mnemonic.text) := by
    rw [Statement.usages, body]
    rfl
  rw [behindWord, usagesFrom_congr behindGap]
  exact usagesFrom_literal rfl plainGap quotes inside ends

theorem usagesBehindLiteral_of_plain (named : set.isMnemonic mnemonic.text = true)
    (quotes : isQuote quote = true) (inside : quote ∉ content) (ends : EndsLiteral suffix)
    (plain : ';' ∉ content) :
    usagesBehindLiteral set line mnemonic quote content suffix =
      (usagesFrom set line suffix 0).map fun usage => (usage.symbol, usage.offset) := by
  have notQuote : ';' ≠ quote := by
    rintro rfl
    cases quotes
  have plainLiteral : ';' ∉ mnemonic.text ++ [' '] ++ quote :: (content ++ [quote]) := by
    simp [semicolon_notMem_word mnemonic.plain, plain, notQuote]
  have used : (Statement.ofLine set (literalLine mnemonic quote content suffix)).usages set line =
      (usagesFrom set line suffix 0).map
        (Usage.movedBy (literalStop mnemonic quote content)) := by
    rw [usages_literalLine named quotes inside ends]
    exact usagesFrom_moved plainLiteral suffix 0
  unfold usagesBehindLiteral
  simp only [used]
  rw [List.filter_eq_self.mpr (by simp [Usage.movedBy]), List.map_map]
  apply List.map_congr_left
  intro usage _
  simp [Usage.movedBy]

theorem usagesBehindLiteral_of_semicolon (named : set.isMnemonic mnemonic.text = true)
    (quotes : isQuote quote = true) (inside : quote ∉ content) (ends : EndsLiteral suffix)
    (commented : ';' ∈ content) :
    usagesBehindLiteral set line mnemonic quote content suffix = [] := by
  have used : (Statement.ofLine set (literalLine mnemonic quote content suffix)).usages set line =
      [] := by
    rw [usages_literalLine named quotes inside ends]
    exact usagesFrom_behind_semicolon (by simp [commented]) suffix
  simp [usagesBehindLiteral, used]

/-- Two contents of a literal can be exchanged without a change to what is seen behind it exactly if
both hold a semicolon or neither does, or nothing stands there to be seen.  Behind a content with a
semicolon nothing is seen. -/
theorem usagesBehindLiteral_eq_iff (set : InstructionSet) (line : Nat) (mnemonic : Word)
    (named : set.isMnemonic mnemonic.text = true) (quotes : isQuote quote = true)
    (ends : EndsLiteral suffix) (content other : Text) (inside : quote ∉ content)
    (insideOther : quote ∉ other) :
    (usagesBehindLiteral set line mnemonic quote content suffix =
        usagesBehindLiteral set line mnemonic quote other suffix ↔
      (';' ∈ content ↔ ';' ∈ other) ∨
        usagesBehindLiteral set line mnemonic quote [] suffix = []) ∧
    (';' ∈ content → usagesBehindLiteral set line mnemonic quote content suffix = []) := by
  have hidden {text : Text} (insideText : quote ∉ text) (commented : ';' ∈ text) :
      usagesBehindLiteral set line mnemonic quote text suffix = [] :=
    usagesBehindLiteral_of_semicolon named quotes insideText ends commented
  have seen {text : Text} (insideText : quote ∉ text) (plain : ';' ∉ text) :
      usagesBehindLiteral set line mnemonic quote text suffix =
        usagesBehindLiteral set line mnemonic quote [] suffix := by
    rw [usagesBehindLiteral_of_plain named quotes insideText ends plain,
      usagesBehindLiteral_of_plain named quotes List.not_mem_nil ends List.not_mem_nil]
  refine ⟨?_, hidden inside⟩
  by_cases commented : ';' ∈ content
  · by_cases commentedOther : ';' ∈ other
    · simp [hidden inside commented, hidden insideOther commentedOther, commented, commentedOther]
    · rw [hidden inside commented, seen insideOther commentedOther]
      simp [commented, commentedOther, eq_comm]
  · by_cases commentedOther : ';' ∈ other
    · rw [seen inside commented, hidden insideOther commentedOther]
      simp [commented, commentedOther]
    · simp [seen inside commented, seen insideOther commentedOther, commented, commentedOther]

/-- The same operand is seen behind a literal with a blank, a terminator and the other quote as
behind an empty one. -/
theorem usagesBehindLiteral_eq_of_blank :
    ∃ mnemonic : Word, mnemonic.text = "COPY".toList ∧
      let content : Text := "É: \"".toList
      let suffix : Text := ",X".toList
      (InstructionSet.standard.isMnemonic mnemonic.text = true ∧ isQuote '\'' = true ∧
        EndsLiteral suffix ∧ '\'' ∉ content) ∧
        usagesBehindLiteral .standard 0 mnemonic '\'' content suffix =
          usagesBehindLiteral .standard 0 mnemonic '\'' [] suffix ∧
        usagesBehindLiteral .standard 0 mnemonic '\'' content suffix = [("X".toList, 1)] := by
  let mnemonic : Word := ⟨"COPY".toList, by decide, by simp [isWordChar, isBlank]⟩
  have named : InstructionSet.standard.isMnemonic mnemonic.text = true := by decide +kernel
  have ends : EndsLiteral ",X".toList := by
    rintro _ ⟨⟩
    decide
  have inside : '\'' ∉ "É: \"".toList := by decide
  have exchanged := (usagesBehindLiteral_eq_iff .standard 0 mnemonic named rfl ends _ [] inside
    List.not_mem_nil).1.mpr (Or.inl (by decide))
  exact ⟨mnemonic, rfl, ⟨named, rfl, ends, inside⟩, exchanged, by decide +kernel⟩

/-- A semicolon in a literal hides an operand that is seen behind a blank. -/
theorem semicolon_in_literal_hides_operand :
    ∃ mnemonic : Word,
      let suffix : Text := ",X".toList
      (InstructionSet.standard.isMnemonic mnemonic.text = true ∧ isQuote '\'' = true ∧
        EndsLiteral suffix ∧ '\'' ∉ [';'] ∧ '\'' ∉ [' ']) ∧
        literalLine mnemonic '\'' [';'] suffix = "COPY ';',X".toList ∧
        usagesBehindLiteral .standard 0 mnemonic '\'' [';'] suffix = [] ∧
        usagesBehindLiteral .standard 0 mnemonic '\'' [' '] suffix = [("X".toList, 1)] := by
  let mnemonic : Word := ⟨"COPY".toList, by decide, by simp [isWordChar, isBlank]⟩
  have named : InstructionSet.standard.isMnemonic mnemonic.text = true := by decide +kernel
  have ends : EndsLiteral ",X".toList := by
    rintro _ ⟨⟩
    decide
  exact ⟨mnemonic, ⟨named, rfl, ends, by decide, by decide⟩, rfl, by decide +kernel,
    by decide +kernel⟩

end LiteralLine

end AsmSymbols
