import AsmSymbols.Module
import AsmSymbols.Proofs.Labels
import AsmSymbols.Proofs.Placement
import AsmSymbols.Proofs.Writing

/-!
# Scanning what was written

A scan of written lines records what the writer means by them, and nothing else.  The scanner knows
no quotes, so a quoted term with a blank or a terminator in it is cut, continued to its closing
quote, and the rest of its operand is read as a new word.  The invariant of the reading is
`ReadsLinks`: behind any piece of code, a word in hand and the links that follow it give the usages
of their terms, however the scanner cuts them.
-/

set_option autoImplicit false

namespace AsmSymbols.Written

open AsmSymbols.Operand

variable {set : InstructionSet}

theorem isOperandSeparator_char (joint : Joint) : isOperandSeparator joint.char = true := by
  cases joint <;> rfl

theorem isWordChar_char (joint : Joint) : isWordChar joint.char = true := by
  cases joint <;> rfl

theorem utf8Size_char (joint : Joint) : joint.char.utf8Size = 1 := by
  cases joint <;> rfl

theorem isSymbolChar_iff {c : Char} :
    isSymbolChar c = true ↔
      isWordChar c = true ∧ isQuote c = false ∧ isOperandSeparator c = false := by
  simp [isSymbolChar, and_assoc]

theorem isWordChar_of_isQuote {c : Char} (quotes : isQuote c = true) : isWordChar c = true := by
  simp only [isQuote, Bool.or_eq_true, beq_iff_eq] at quotes
  rcases quotes with rfl | rfl <;> rfl

/-- Digits are characters of symbols. -/
theorem isSymbolChar_of_digit {c : Char} (digit : isHexDigit c = true ∨ c = 'x' ∨ c = 'X') :
    isSymbolChar c = true := by
  have noDigits : [' ', '\t', ':', ';', '\'', '"', ',', '+', '-'].all
      (fun special => !(isHexDigit special || special == 'x' || special == 'X')) = true := by decide
  have differs : ∀ special ∈ [' ', '\t', ':', ';', '\'', '"', ',', '+', '-'], c ≠ special := by
    rintro special inList rfl
    have noDigit := List.all_eq_true.mp noDigits c inList
    rcases digit with hexadecimal | rfl | rfl
    · simp [hexadecimal] at noDigit
    · simp at noDigit
    · simp at noDigit
  simp only [List.mem_cons, List.not_mem_nil, or_false, forall_eq_or_imp, forall_eq] at differs
  simp [isSymbolChar, isWordChar, isBlank, isQuote, isOperandSeparator, differs]

theorem openQuote?_of_noQuote {text : Text} (plain : ∀ c ∈ text, isQuote c = false) :
    openQuote? text = none := by
  induction text with
  | nil => rfl
  | cons c text inductionHypothesis =>
    simp only [List.mem_cons, forall_eq_or_imp] at plain
    have unopened : quoteAfter none c = none := by simp [quoteAfter, plain.1]
    change text.foldl quoteAfter (quoteAfter none c) = none
    rw [unopened]
    exact inductionHypothesis plain.2

theorem word_or_cut (text : Text) :
    (∀ c ∈ text, isWordChar c = true) ∨
      ∃ kept c cut, text = kept ++ c :: cut ∧ (∀ d ∈ kept, isWordChar d = true) ∧
        isWordChar c = false := by
  induction text with
  | nil => exact Or.inl (by simp)
  | cons first text inductionHypothesis =>
    cases inWord : isWordChar first with
    | false => exact Or.inr ⟨[], first, text, rfl, by simp, inWord⟩
    | true =>
      rcases inductionHypothesis with whole | ⟨kept, c, cut, split, keptInWord, cuts⟩
      · exact Or.inl (List.forall_mem_cons.mpr ⟨inWord, whole⟩)
      · exact Or.inr ⟨first :: kept, c, cut, by rw [split, List.cons_append],
          List.forall_mem_cons.mpr ⟨inWord, keptInWord⟩, cuts⟩

namespace Term

/-- A term is made of characters of symbols, unless it is quoted. -/
theorem plain_or_quoted (term : Term set) :
    (∀ c ∈ term.text, isSymbolChar c = true) ∨
      ∃ quote content, term.text = quote :: (content ++ [quote]) ∧ isQuote quote = true ∧
        quote ∉ content ∧ ';' ∉ content := by
  cases term with
  | symbol name nonempty plain notLiteral notReserved => exact Or.inl plain
  | reserved word nonempty plain isReserved => exact Or.inl plain
  | number digits isNumber =>
    left
    intro c inDigits
    exact isSymbolChar_of_digit (Literal.digit_of_mem_number isNumber inDigits)
  | quoted quote content quotes inside noComment =>
    exact Or.inr ⟨quote, content, rfl, quotes, inside, noComment⟩

theorem uncut (term : Term set) : Uncut none term.text := by
  rcases term.plain_or_quoted with plain | ⟨quote, content, written, quotes, inside, _⟩
  · exact uncut_of_forall fun c inText => (isSymbolChar_iff.mp (plain c inText)).2.2
  · rw [written]
    exact uncut_quoted quotes inside

theorem closed (term : Term set) : openQuote? term.text = none := by
  rcases term.plain_or_quoted with plain | ⟨quote, content, written, quotes, inside, _⟩
  · exact openQuote?_of_noQuote fun c inText => (isSymbolChar_iff.mp (plain c inText)).2.1
  · rw [written]
    exact openQuote?_quoted quotes inside

theorem noComment (term : Term set) : ';' ∉ term.text := by
  rcases term.plain_or_quoted with plain | ⟨quote, content, written, quotes, _, noComment⟩
  · intro inText
    exact absurd (isSymbolChar_iff.mp (plain _ inText)).1 (by decide)
  · have differs : ';' ≠ quote := by
      rintro rfl
      cases quotes
    rw [written]
    simp [noComment, differs]

theorem ne_nil (term : Term set) : term.text ≠ [] := by
  cases term with
  | symbol name nonempty plain notLiteral notReserved => exact nonempty
  | reserved word nonempty plain isReserved => exact nonempty
  | number digits isNumber => exact Literal.ne_nil_of_number isNumber
  | quoted quote content quotes inside noComment => exact List.cons_ne_nil _ _

/-- The scanner takes a term whole, or it cuts it inside quotes. -/
theorem whole_or_cut (term : Term set) :
    (∀ c ∈ term.text, isWordChar c = true) ∨
      ∃ quote kept c cut, term.text = quote :: (kept ++ c :: cut ++ [quote]) ∧
        isQuote quote = true ∧ quote ∉ kept ++ c :: cut ∧ (∀ d ∈ kept, isWordChar d = true) ∧
        isWordChar c = false := by
  rcases term.plain_or_quoted with plain | ⟨quote, content, written, quotes, inside, _⟩
  · exact Or.inl fun c inText => (isSymbolChar_iff.mp (plain c inText)).1
  · rcases word_or_cut content with whole | ⟨kept, c, cut, rfl, keptInWord, cuts⟩
    · have quoteInWord := isWordChar_of_isQuote quotes
      left
      simpa [written, or_imp, forall_and, quoteInWord] using whole
    · exact Or.inr ⟨quote, kept, c, cut, written, quotes, inside, keptInWord, cuts⟩

/-- Of all terms, only a symbol names one. -/
theorem termUsages_text (term : Term set) (line offset : Nat) :
    termUsages set line offset term.text = term.usages line offset := by
  rw [termUsages_of_uncut term.uncut]
  cases term with
  | symbol name nonempty plain notLiteral notReserved =>
    have names : namesSymbol set name = true := by
      simp [namesSymbol, nonempty, notLiteral, notReserved]
    exact if_pos names
  | reserved word nonempty plain isReserved =>
    have unnamed : ¬ namesSymbol set word = true := by simp [namesSymbol, isReserved]
    exact if_neg unnamed
  | number digits isNumber =>
    have unnamed : ¬ namesSymbol set digits = true := by
      simp [namesSymbol, Literal.isLiteral_of_number isNumber]
    exact if_neg unnamed
  | quoted quote content quotes inside noComment =>
    have literal : isLiteral (quote :: (content ++ [quote])) = true :=
      Bool.or_eq_true_iff.mpr (Or.inr (Literal.isQuoted_iff.mpr
        ⟨quote, content, quotes, inside, rfl⟩))
    have unnamed : ¬ namesSymbol set (quote :: (content ++ [quote])) = true := by
      simp [namesSymbol, literal]
    exact if_neg unnamed

end Term

section Reading

variable {line : Nat} {text front tail : Text}

/-- The usages of a body from byte `position` on, behind its mnemonic. -/
def usagesFrom (set : InstructionSet) (line : Nat) (text : Text) (position : Nat) : List Usage :=
  (Statement.mk .absent (partsFrom set text ⟨position, true⟩)).usages set line

theorem usagesFrom_of_none {position : Nat} (ended : nextToken? position text = none) :
    usagesFrom set line text position = [] := by
  have stopped : Cursor.next? set text ⟨position, true⟩ = none := by
    rw [Cursor.next?, ended]
    rfl
  rw [usagesFrom, partsFrom_of_none stopped]
  rfl

theorem usagesFrom_congr {position other : Nat}
    (same : nextToken? position text = nextToken? other text) :
    usagesFrom set line text position = usagesFrom set line text other := by
  have sameNext : Cursor.next? set text ⟨position, true⟩ = Cursor.next? set text ⟨other, true⟩ := by
    simp only [Cursor.next?, same]
  unfold usagesFrom
  cases found : Cursor.next? set text ⟨other, true⟩ with
  | none => rw [partsFrom_of_none found, partsFrom_of_none (sameNext.trans found)]
  | some result => rw [partsFrom_of_some found, partsFrom_of_some (sameNext.trans found)]

theorem usagesFrom_of_operand {position : Nat} {token operand : Token}
    (scanned : nextToken? position text = some token)
    (classified : Cursor.classify set text true token = (.operand operand, ⟨operand.stop, true⟩)) :
    usagesFrom set line text position =
      termUsages set line operand.offset operand.text ++
        usagesFrom set line text operand.stop := by
  have stepped : Cursor.next? set text ⟨position, true⟩ =
      some (.operand operand, ⟨operand.stop, true⟩) := by
    rw [Cursor.next?, scanned, Option.map_some, classified]
  rw [usagesFrom, partsFrom_of_some stepped, ← operandUsages_eq_termUsages]
  rfl

/-- A word that closes its quotes is read as it stands. -/
theorem usagesFrom_word {word : Text} (split : text = front ++ word ++ tail) (plain : ';' ∉ front)
    (inWord : ∀ c ∈ word, isWordChar c = true) (closed : openQuote? word = none)
    (ends : EndsWord tail) :
    usagesFrom set line text (Text.byteLength front) =
      termUsages set line (Text.byteLength front) word ++
        usagesFrom set line text (Text.byteLength (front ++ word)) := by
  by_cases empty : word = []
  · simp [empty, termUsages, splitTerms, placeFrom, namesSymbol]
  · have scanned := nextToken?_word split plain empty inWord ends
    have classified : Cursor.classify set text true ⟨word, Text.byteLength front, .word⟩ =
        (.operand ⟨word, Text.byteLength front, .word⟩,
          ⟨Text.byteLength front + Text.byteLength word, true⟩) := by
      simp [Cursor.classify, closed, Token.stop]
    rw [Text.byteLength_append]
    exact usagesFrom_of_operand scanned classified

theorem closeQuote?_of_split {word content : Text} {quote : Char}
    (split : text = front ++ word ++ (content ++ quote :: tail)) (inside : quote ∉ content) :
    Token.closeQuote? ⟨word, Text.byteLength front, .word⟩ quote text =
      some ⟨word ++ content ++ [quote], Text.byteLength front, .word⟩ := by
  have rest : Text.dropBytes (Text.byteLength front + Text.byteLength word) text =
      content ++ quote :: tail := dropBytes_of_standsAt split
  have upTo : (content ++ quote :: tail).takeWhile (· != quote) = content := by
    rw [List.takeWhile_append_of_pos]
    · simp
    · intro c inContent
      have : c ≠ quote := fun equality => inside (equality ▸ inContent)
      simpa using this
  simp [Token.closeQuote?, Token.stop, rest, upTo]

/-- A quoted text that the scanner cuts at `c` is read whole, together with the word in front. -/
theorem usagesFrom_quoted {before kept cut : Text} {quote c : Char}
    (split : text = front ++ (before ++ quote :: (kept ++ c :: cut ++ [quote])) ++ tail)
    (plain : ';' ∉ front) (inWord : ∀ d ∈ before, isWordChar d = true)
    (closed : openQuote? before = none) (quotes : isQuote quote = true)
    (inside : quote ∉ kept ++ c :: cut) (keptInWord : ∀ d ∈ kept, isWordChar d = true)
    (cuts : isWordChar c = false) :
    usagesFrom set line text (Text.byteLength front) =
      termUsages set line (Text.byteLength front)
          (before ++ quote :: (kept ++ c :: cut ++ [quote])) ++
        usagesFrom set line text
          (Text.byteLength (front ++ (before ++ quote :: (kept ++ c :: cut ++ [quote])))) := by
  simp only [List.mem_append, not_or] at inside
  obtain ⟨notKept, notCut⟩ := inside
  -- the scanner's word, and what continues it
  have splitWord : text =
      front ++ (before ++ quote :: kept) ++ (c :: cut ++ quote :: tail) := by simp [split]
  have quoteInWord : isWordChar quote = true := isWordChar_of_isQuote quotes
  have scanned : nextToken? (Text.byteLength front) text =
      some ⟨before ++ quote :: kept, Text.byteLength front, .word⟩ := by
    refine nextToken?_word splitWord plain (by simp) ?_ ?_
    · intro d inText
      rcases List.mem_append.mp inText with inBefore | inKept
      · exact inWord d inBefore
      · rcases List.mem_cons.mp inKept with rfl | inKept
        · exact quoteInWord
        · exact keptInWord d inKept
    · simpa [EndsWord] using cuts
  have opened : openQuote? (before ++ quote :: kept) = some quote := by
    rw [openQuote?_append_of_closed closed]
    change kept.foldl quoteAfter (quoteAfter none quote) = some quote
    rw [quoteAfter_of_isQuote quotes]
    exact foldl_quoteAfter_some notKept
  have continued := closeQuote?_of_split splitWord notCut
  have whole : before ++ quote :: kept ++ c :: cut ++ [quote] =
      before ++ quote :: (kept ++ c :: cut ++ [quote]) := by simp
  rw [whole] at continued
  have classified :
      Cursor.classify set text true ⟨before ++ quote :: kept, Text.byteLength front, .word⟩ =
        (.operand ⟨before ++ quote :: (kept ++ c :: cut ++ [quote]), Text.byteLength front, .word⟩,
          ⟨Text.byteLength front +
            Text.byteLength (before ++ quote :: (kept ++ c :: cut ++ [quote])), true⟩) := by
    simp only [Cursor.classify, opened, continued]
    rfl
  rw [Text.byteLength_append front]
  exact usagesFrom_of_operand scanned classified

/-- From a word on that closes its quotes, with `links` behind it, the reading finds the usages of
both.  The word is what the scanner has in hand when the links go on. -/
def ReadsLinks (set : InstructionSet) (line : Nat) (text tail : Text)
    (links : List (Joint × Term set)) : Prop :=
  ∀ front word : Text, text = front ++ word ++ linksText links ++ tail → ';' ∉ front →
    (∀ c ∈ word, isWordChar c = true) → openQuote? word = none →
      usagesFrom set line text (Text.byteLength front) =
        termUsages set line (Text.byteLength front) word ++
          linksUsages line (Text.byteLength (front ++ word)) links ++
          usagesFrom set line text (Text.byteLength (front ++ word ++ linksText links))

/-- One more term: it extends the word, or it is cut and the reading starts anew behind it. -/
theorem ReadsLinks.term {links : List (Joint × Term set)} {before : Text}
    (reads : ReadsLinks set line text tail links) (term : Term set)
    (split : text = front ++ (before ++ term.text) ++ linksText links ++ tail)
    (plain : ';' ∉ front) (inWord : ∀ c ∈ before, isWordChar c = true)
    (closed : openQuote? before = none) :
    usagesFrom set line text (Text.byteLength front) =
      termUsages set line (Text.byteLength front) (before ++ term.text) ++
        linksUsages line (Text.byteLength (front ++ (before ++ term.text))) links ++
        usagesFrom set line text
          (Text.byteLength (front ++ (before ++ term.text) ++ linksText links)) := by
  rcases term.whole_or_cut with
    whole | ⟨quote, kept, c, cut, written, quotes, inside, keptInWord, cuts⟩
  · refine reads front (before ++ term.text) split plain ?_ ?_
    · intro c inText
      exact (List.mem_append.mp inText).elim (inWord c) (whole c)
    · rw [openQuote?_append_of_closed closed, term.closed]
  · have plainTerm : ';' ∉ front ++ (before ++ term.text) := by
      simp [plain, term.noComment, semicolon_notMem_word inWord]
    have further := reads (front ++ (before ++ term.text)) [] (by simpa using split) plainTerm
      (by simp) rfl
    have nothing (offset : Nat) : termUsages set line offset [] = [] := rfl
    rw [List.append_nil, nothing, List.nil_append] at further
    rw [written] at split further ⊢
    rw [List.append_assoc _ (linksText links)] at split
    rw [usagesFrom_quoted split plain inWord closed quotes inside keptInWord cuts, further]
    exact (List.append_assoc _ _ _).symm

theorem readsLinks (ends : EndsWord tail) (links : List (Joint × Term set)) :
    ReadsLinks set line text tail links := by
  induction links with
  | nil =>
    intro front word split plain inWord closed
    simp only [linksText, List.flatMap_nil, List.append_nil, linksUsages] at split ⊢
    exact usagesFrom_word split plain inWord closed ends
  | cons link links inductionHypothesis =>
    obtain ⟨joint, term⟩ := link
    intro front word split plain inWord closed
    have joins := isOperandSeparator_char joint
    have linked : word ++ joint.char :: term.text = word ++ [joint.char] ++ term.text := by simp
    have longer : front ++ word ++ linksText ((joint, term) :: links) =
        front ++ (word ++ [joint.char] ++ term.text) ++ linksText links := by simp [linksText]
    have jointInWord : ∀ c ∈ word ++ [joint.char], isWordChar c = true := by
      simpa [or_imp, forall_and, isWordChar_char] using inWord
    rw [longer] at split ⊢
    have closedJoint := openQuote?_concat_joint closed joins
    rw [inductionHypothesis.term term split plain jointInWord closedJoint, ← linked,
      termUsages_append_joint closed joins, term.termUsages_text]
    simp only [linksUsages, Text.byteLength_append, Text.byteLength_cons, utf8Size_char,
      List.append_assoc, Nat.add_assoc]

theorem usagesFrom_operand (operand : Operand set) (split : text = front ++ operand.text ++ tail)
    (plain : ';' ∉ front) (ends : EndsWord tail) :
    usagesFrom set line text (Text.byteLength front) =
      operand.usages line (Text.byteLength front) ++
        usagesFrom set line text (Text.byteLength (front ++ operand.text)) := by
  have splitFirst : text =
      front ++ ([] ++ operand.first.text) ++ linksText operand.rest ++ tail := by
    simp [split, Operand.text]
  rw [(readsLinks ends operand.rest).term operand.first splitFirst plain (by simp) rfl,
    List.nil_append, operand.first.termUsages_text]
  simp only [Operand.usages, Operand.text, Text.byteLength_append, Nat.add_assoc]

theorem Operand.noComment (operand : Operand set) : ';' ∉ operand.text := by
  have noJoint (joint : Joint) : ';' ≠ joint.char := by cases joint <;> decide
  simp [Operand.text, linksText, Term.noComment, noJoint]

theorem Blanks.endsWord (blanks : Blanks) (ends : EndsWord tail) :
    EndsWord (blanks.text ++ tail) := by
  obtain ⟨text, blank⟩ := blanks
  cases text with
  | nil => exact ends
  | cons c text =>
    have isBlank : isBlank c = true := blank c (by simp)
    simp [EndsWord, isWordChar, isBlank]

theorem Gap.endsWord (gap : Gap) (tail : Text) : EndsWord (gap.text ++ tail) := by
  obtain ⟨c, text, starts⟩ := List.exists_cons_of_ne_nil gap.nonempty
  have isBlank : isBlank c = true := gap.blank c (by simp [starts])
  simp [EndsWord, starts, isWordChar, isBlank]

theorem endsWord_operandsText (ends : EndsWord tail) (operands : List (Gap × Operand set)) :
    EndsWord (operandsText operands ++ tail) := by
  cases operands with
  | nil => exact ends
  | cons entry operands =>
    obtain ⟨gap, operand⟩ := entry
    simpa [operandsText] using gap.endsWord (operand.text ++ (operandsText operands ++ tail))

theorem operandsText_noComment (operands : List (Gap × Operand set)) :
    ';' ∉ operandsText operands := by
  intro inText
  obtain ⟨⟨gap, operand⟩, _, inEntry⟩ := List.mem_flatMap.mp inText
  rcases List.mem_append.mp inEntry with inGap | inOperand
  · exact semicolon_notMem_blanks gap.blank inGap
  · exact operand.noComment inOperand

/-- All operands, one behind the other. -/
theorem usagesFrom_operands (ends : EndsWord tail) (operands : List (Gap × Operand set))
    (split : text = front ++ operandsText operands ++ tail) (plain : ';' ∉ front) :
    usagesFrom set line text (Text.byteLength front) =
      operandsUsages line (Text.byteLength front) operands ++
        usagesFrom set line text (Text.byteLength (front ++ operandsText operands)) := by
  induction operands generalizing front with
  | nil => simp [operandsText, operandsUsages]
  | cons entry operands inductionHypothesis =>
    obtain ⟨gap, operand⟩ := entry
    have longer : front ++ operandsText ((gap, operand) :: operands) =
        front ++ gap.text ++ operand.text ++ operandsText operands := by simp [operandsText]
    rw [longer] at split ⊢
    have splitGap : text =
        front ++ gap.text ++ (operand.text ++ (operandsText operands ++ tail)) := by simp [split]
    have splitOperand : text =
        front ++ gap.text ++ operand.text ++ (operandsText operands ++ tail) := by simp [split]
    have plainGap : ';' ∉ front ++ gap.text :=
      List.not_mem_append plain (semicolon_notMem_blanks gap.blank)
    have plainOperand : ';' ∉ front ++ gap.text ++ operand.text :=
      List.not_mem_append plainGap operand.noComment
    rw [usagesFrom_congr (nextToken?_blanks splitGap plain gap.blank),
      usagesFrom_operand operand splitOperand plainGap (endsWord_operandsText ends operands),
      inductionHypothesis split plainOperand]
    simp only [operandsUsages, Text.byteLength_append, List.append_assoc, Nat.add_assoc]

theorem endsWord_commentText (comment : Option Text) : EndsWord (commentText comment) := by
  cases comment with
  | none => simp [EndsWord, commentText]
  | some comment => simp [EndsWord, commentText, isWordChar]

end Reading

namespace Line

/-- What stands in front of the instruction. -/
def lead (line : Line set) : Text := line.indent.text ++ line.label.elim [] Label.text

/-- What stands behind the instruction. -/
def ending (line : Line set) : Text := line.trailing.text ++ commentText line.comment

def head (line : Line set) : Head :=
  match line.label with
  | none => .absent
  | some label => .label ⟨label.word.text, Text.byteLength line.indent.text, .word⟩

theorem text_eq (line : Line set) :
    line.text = line.lead ++ line.instruction.elim [] Instruction.text ++ line.ending := by
  simp [text, lead, ending]

theorem endsWord_ending (line : Line set) : EndsWord line.ending :=
  line.trailing.endsWord (endsWord_commentText line.comment)

/-- Behind its last part a line has no token. -/
theorem nextToken?_ending (line : Line set) {text front : Text}
    (split : text = front ++ line.ending) (plain : ';' ∉ front) :
    nextToken? (Text.byteLength front) text = none := by
  have splitBlanks : text = front ++ line.trailing.text ++ commentText line.comment := by
    rw [split, ending, List.append_assoc]
  have plainBlanks : ';' ∉ front ++ line.trailing.text :=
    List.not_mem_append plain (semicolon_notMem_blanks line.trailing.blank)
  have noCode : codeOf (commentText line.comment) = [] := by
    cases line.comment <;> rfl
  rw [nextToken?_blanks splitBlanks plain line.trailing.blank]
  exact nextToken?_comment splitBlanks plainBlanks noCode

end Line

/-- A label that is written is found, and the body starts behind its terminator. -/
theorem head_ofLine_label {text tail : Text} {indent : Blanks} {label : Label}
    (split : text = indent.text ++ label.text ++ tail) :
    Head.ofLine text =
      (.label ⟨label.word.text, Text.byteLength indent.text, .word⟩,
        Text.byteLength (indent.text ++ label.word.text ++ label.before.text ++ [':'])) := by
  have plainIndent := semicolon_notMem_blanks indent.blank
  have plainWord : ';' ∉ indent.text ++ label.word.text :=
    List.not_mem_append plainIndent (semicolon_notMem_word label.word.plain)
  have plainBefore : ';' ∉ indent.text ++ label.word.text ++ label.before.text :=
    List.not_mem_append plainWord (semicolon_notMem_blanks label.before.blank)
  have splitIndent : text = [] ++ indent.text ++ (label.text ++ tail) := by simp [split]
  have splitWord : text = indent.text ++ label.word.text ++
      (label.before.text ++ ':' :: (label.after.text ++ tail)) := by simp [split, Label.text]
  have splitColon : text = indent.text ++ label.word.text ++ label.before.text ++
      ':' :: (label.after.text ++ tail) := by simp [split, Label.text]
  have ends : EndsWord (label.before.text ++ ':' :: (label.after.text ++ tail)) :=
    label.before.endsWord (by simp [EndsWord, isWordChar])
  have first : nextToken? 0 text =
      some ⟨label.word.text, Text.byteLength indent.text, .word⟩ :=
    (nextToken?_blanks splitIndent (by simp) indent.blank).trans
      (nextToken?_word splitWord plainIndent label.word.nonempty label.word.plain ends)
  have second := (nextToken?_blanks (splitWord.trans (List.append_assoc _ _ _).symm) plainWord
    label.before.blank).trans (nextToken?_colon splitColon plainBefore)
  rw [Text.byteLength_append indent.text] at second
  simp [Head.ofLine, first, second, Token.isSeparator, Token.stop, Nat.add_assoc]

theorem nextToken?_mnemonic {text front blanks tail : Text} {instruction : Instruction set}
    (split : text = front ++ blanks ++ instruction.text ++ tail) (plain : ';' ∉ front)
    (blank : ∀ c ∈ blanks, isBlank c = true) (ends : EndsWord tail) :
    nextToken? (Text.byteLength front) text =
      some ⟨instruction.mnemonic.text, Text.byteLength (front ++ blanks), .word⟩ := by
  have splitBlanks : text = front ++ blanks ++ (instruction.text ++ tail) := by simp [split]
  have splitWord : text = front ++ blanks ++ instruction.mnemonic.text ++
      (operandsText instruction.operands ++ tail) := by simp [split, Instruction.text]
  have plainBlanks : ';' ∉ front ++ blanks :=
    List.not_mem_append plain (semicolon_notMem_blanks blank)
  rw [nextToken?_blanks splitBlanks plain blank]
  exact nextToken?_word splitWord plainBlanks instruction.mnemonic.nonempty
    instruction.mnemonic.plain (endsWord_operandsText ends instruction.operands)

theorem Operand.starts_word (operand : Operand set) :
    ∃ c rest, operand.text = c :: rest ∧ isWordChar c = true := by
  obtain ⟨c, rest, starts⟩ := List.exists_cons_of_ne_nil operand.first.ne_nil
  refine ⟨c, rest ++ linksText operand.rest, by simp [Operand.text, starts], ?_⟩
  rcases operand.first.plain_or_quoted with plain | ⟨quote, content, written, quotes, _⟩
  · exact (isSymbolChar_iff.mp (plain c (by simp [starts]))).1
  · rw [starts] at written
    cases written
    exact isWordChar_of_isQuote quotes

/-- No terminator follows a mnemonic, so it is not taken for a label. -/
theorem Line.not_isSeparator_behind_mnemonic (line : Line set) {text front : Text}
    {instruction : Instruction set} {token : Token}
    (split : text = front ++ instruction.text ++ line.ending) (plain : ';' ∉ front)
    (found : nextToken? (Text.byteLength (front ++ instruction.mnemonic.text)) text = some token) :
    token.isSeparator = false := by
  have plainWord : ';' ∉ front ++ instruction.mnemonic.text :=
    List.not_mem_append plain (semicolon_notMem_word instruction.mnemonic.plain)
  unfold Instruction.text at split
  cases operands : instruction.operands with
  | nil =>
    rw [operands] at split
    have splitEnding : text = front ++ instruction.mnemonic.text ++ line.ending := by
      simpa [operandsText] using split
    rw [line.nextToken?_ending splitEnding plainWord] at found
    cases found
  | cons entry rest =>
    obtain ⟨gap, operand⟩ := entry
    obtain ⟨c, further, starts, inWord⟩ := operand.starts_word
    rw [operands] at split
    have splitGap : text = front ++ instruction.mnemonic.text ++ gap.text ++
        c :: (further ++ operandsText rest ++ line.ending) := by
      simp [split, operandsText, starts]
    have plainGap : ';' ∉ front ++ instruction.mnemonic.text ++ gap.text :=
      List.not_mem_append plainWord (semicolon_notMem_blanks gap.blank)
    obtain ⟨word, foundWord, isWord⟩ := nextToken?_isSome_word splitGap plainGap inWord
    rw [nextToken?_blanks splitGap plainWord gap.blank, foundWord] at found
    cases found
    simp [Token.isSeparator, isWord]

theorem head_ofLine_unlabelled {line : Line set} (unlabelled : line.label = none) :
    Head.ofLine line.text = (.absent, 0) := by
  have plainIndent := semicolon_notMem_blanks line.indent.blank
  cases instructed : line.instruction with
  | none =>
    have split : line.text = [] ++ line.indent.text ++ line.ending := by
      simp [line.text_eq, Line.lead, unlabelled, instructed]
    have ended : nextToken? 0 line.text = none :=
      (nextToken?_blanks split (by simp) line.indent.blank).trans
        (line.nextToken?_ending split plainIndent)
    simp [Head.ofLine, ended]
  | some instruction =>
    have split : line.text = [] ++ line.indent.text ++ instruction.text ++ line.ending := by
      simp [line.text_eq, Line.lead, unlabelled, instructed]
    have first : nextToken? 0 line.text =
        some ⟨instruction.mnemonic.text, Text.byteLength line.indent.text, .word⟩ :=
      nextToken?_mnemonic split (by simp) line.indent.blank line.endsWord_ending
    cases found : nextToken? (Text.byteLength line.indent.text +
        Text.byteLength instruction.mnemonic.text) line.text with
    | none => simp [Head.ofLine, first, Token.isSeparator, Token.stop, found]
    | some token =>
      rw [← Text.byteLength_append] at found
      have isWord := line.not_isSeparator_behind_mnemonic split plainIndent found
      rw [Text.byteLength_append] at found
      rw [Token.isSeparator] at isWord
      simp [Head.ofLine, first, Token.isSeparator, Token.stop, found, isWord]

/-- The head of a written line, and where its body starts: only blanks are between that place and
the instruction. -/
theorem Line.start (line : Line set) :
    ∃ front blanks, Head.ofLine line.text = (line.head, Text.byteLength front) ∧
      line.lead = front ++ blanks ∧ ';' ∉ front ∧ ∀ c ∈ blanks, isBlank c = true := by
  cases labelled : line.label with
  | none =>
    refine ⟨[], line.indent.text, ?_, by simp [lead, labelled], by simp, line.indent.blank⟩
    rw [head_ofLine_unlabelled labelled, head, labelled]
    rfl
  | some label =>
    have split : line.text = line.indent.text ++ label.text ++
        (line.instruction.elim [] Instruction.text ++ line.ending) := by
      simp [line.text_eq, lead, labelled]
    refine ⟨line.indent.text ++ label.word.text ++ label.before.text ++ [':'], label.after.text,
      ?_, by simp [lead, labelled, Label.text], ?_, label.after.blank⟩
    · rw [head_ofLine_label split, head, labelled]
    · simp [semicolon_notMem_blanks line.indent.blank, semicolon_notMem_word label.word.plain,
        semicolon_notMem_blanks label.before.blank]

theorem head_ofLine_text (line : Line set) : (Statement.ofLine set line.text).head = line.head := by
  obtain ⟨front, blanks, begins, _⟩ := line.start
  exact congrArg Prod.fst begins

theorem body_of_none {line : Line set} (instructed : line.instruction = none) :
    (Statement.ofLine set line.text).body = [] := by
  obtain ⟨front, blanks, begins, leads, plain, blank⟩ := line.start
  have split : line.text = front ++ blanks ++ line.ending := by
    simp [line.text_eq, leads, instructed]
  have plainLead : ';' ∉ front ++ blanks :=
    List.not_mem_append plain (semicolon_notMem_blanks blank)
  have ended : nextToken? (Text.byteLength front) line.text = none :=
    (nextToken?_blanks split plain blank).trans (line.nextToken?_ending split plainLead)
  simp only [Statement.ofLine, begins]
  exact partsFrom_of_none (by simp [Cursor.next?, ended])

theorem body_of_some {line : Line set} {instruction : Instruction set}
    (instructed : line.instruction = some instruction) :
    (Statement.ofLine set line.text).body =
      .mnemonic ⟨instruction.mnemonic.text, Text.byteLength line.lead, .word⟩ ::
        partsFrom set line.text
          ⟨Text.byteLength (line.lead ++ instruction.mnemonic.text), true⟩ := by
  obtain ⟨front, blanks, begins, leads, plain, blank⟩ := line.start
  have split : line.text = front ++ blanks ++ instruction.text ++ line.ending := by
    simp [line.text_eq, leads, instructed]
  have scanned := nextToken?_mnemonic split plain blank line.endsWord_ending
  have stepped : Cursor.next? set line.text ⟨Text.byteLength front, false⟩ =
      some (.mnemonic ⟨instruction.mnemonic.text, Text.byteLength line.lead, .word⟩,
        ⟨Text.byteLength (line.lead ++ instruction.mnemonic.text), true⟩) := by
    rw [Cursor.next?, scanned, leads]
    simp [Cursor.classify, instruction.isMnemonic, Token.stop, Nat.add_assoc]
  simp only [Statement.ofLine, begins]
  exact partsFrom_of_some stepped

/-- The statement read from a written line defines what was meant. -/
theorem definition?_ofLine_text (line : Line set) (number : Nat) :
    (Statement.ofLine set line.text).definition? set number = line.definition? number := by
  have external : (Statement.ofLine set line.text).isExternal set =
      line.instruction.any fun instruction => set.isExternal instruction.mnemonic.text := by
    unfold Statement.isExternal Statement.mnemonic?
    cases instructed : line.instruction with
    | none => simp [body_of_none instructed]
    | some instruction => simp [body_of_some instructed]
  rw [Statement.definition?, head_ofLine_text, external, Line.head, Line.definition?]
  cases line.label <;> rfl

/-- The statement read from a written line uses what was meant. -/
theorem usages_ofLine_text (line : Line set) (number : Nat) :
    (Statement.ofLine set line.text).usages set number = line.usages number := by
  cases instructed : line.instruction with
  | none => simp [Statement.usages, body_of_none instructed, Line.usages, instructed]
  | some instruction =>
    obtain ⟨front, blanks, _, leads, plain, blank⟩ := line.start
    have split : line.text = line.lead ++ instruction.mnemonic.text ++
        operandsText instruction.operands ++ line.ending := by
      simp [line.text_eq, instructed, Instruction.text]
    have plainWord : ';' ∉ line.lead ++ instruction.mnemonic.text := by
      simp [leads, plain, semicolon_notMem_blanks blank,
        semicolon_notMem_word instruction.mnemonic.plain]
    have plainOperands : ';' ∉ line.lead ++ instruction.mnemonic.text ++
        operandsText instruction.operands :=
      List.not_mem_append plainWord (operandsText_noComment instruction.operands)
    have ended := line.nextToken?_ending split plainOperands
    calc (Statement.ofLine set line.text).usages set number
        = usagesFrom set number line.text
            (Text.byteLength (line.lead ++ instruction.mnemonic.text)) := by
          simp [Statement.usages, body_of_some instructed, usagesFrom]
      _ = operandsUsages number (Text.byteLength (line.lead ++ instruction.mnemonic.text))
            instruction.operands := by
          rw [usagesFrom_operands line.endsWord_ending _ split plainWord,
            usagesFrom_of_none ended, List.append_nil]
      _ = line.usages number := by
          rw [Line.usages, instructed]
          rfl

/-- Scanning lines that were written records what was meant, and nothing else: of every key the
first label as its definition and the others as redefinitions, and each symbol that stands as a term
of an operand as a usage, at the place where it was written. -/
theorem scan_records_written (set : InstructionSet) (module : Module) (lines : List (Line set)) :
    (({ module with lines := lines.map Line.text } : Module).scan set).symbols =
      Symbols.recording
        (lines.zipIdx.filterMap fun (line, number) => line.definition? number)
        (lines.zipIdx.flatMap fun (line, number) => line.usages number) := by
  have labels : labelsOf set (lines.map Line.text) =
      lines.zipIdx.filterMap fun (line, number) => line.definition? number := by
    simp only [labelsOf, List.zipIdx_map, List.filterMap_map]
    refine List.filterMap_congr ?_
    rintro ⟨line, number⟩ _
    exact definition?_ofLine_text line number
  have usages : usagesOf set (lines.map Line.text) =
      lines.zipIdx.flatMap fun (line, number) => line.usages number := by
    simp only [usagesOf, List.zipIdx_map, List.flatMap_map]
    refine List.flatMap_congr ?_
    rintro ⟨line, number⟩ _
    exact usages_ofLine_text line number
  rw [← labels, ← usages]
  exact Symbols.ofLines_eq_recording set (lines.map Line.text)

/-- A label between blanks, a blank in quotes, joined terms, a second operand and a comment; the
line below defines the label again, in the other case. -/
theorem scan_records_quoted_blank :
    let nothing : Blanks := ⟨[], List.all_eq_true.mp (by decide)⟩
    let blank : Gap := ⟨⟨[' '], List.all_eq_true.mp (by decide)⟩, by decide⟩
    let tab : Gap := ⟨⟨['\t'], List.all_eq_true.mp (by decide)⟩, by decide⟩
    let mnemonic : Word := ⟨"COPY".toList, by decide, List.all_eq_true.mp (by decide)⟩
    let upper : Word := ⟨['L'], by decide, List.all_eq_true.mp (by decide)⟩
    let lower : Word := ⟨['l'], by decide, List.all_eq_true.mp (by decide)⟩
    let quoted : Term .standard :=
      .quoted '\'' "a b".toList (by decide) (by decide) (by decide)
    let symbol : Term .standard :=
      .symbol ['N'] (by decide) (List.all_eq_true.mp (by decide)) (by decide) (by decide)
    let number : Term .standard := .number ['3'] (by decide)
    let other : Term .standard :=
      .symbol ['x'] (by decide) (List.all_eq_true.mp (by decide)) (by decide) (by decide)
    let lines : List (Line .standard) :=
      [{ indent := blank.toBlanks
         label := some ⟨upper, blank.toBlanks, blank.toBlanks⟩
         instruction := some ⟨mnemonic, by decide,
           [(blank, ⟨quoted, [(.comma, symbol), (.plus, number)]⟩), (tab, ⟨other, []⟩)]⟩
         trailing := blank.toBlanks
         comment := some " 'c".toList },
       { indent := nothing
         label := some ⟨lower, nothing, nothing⟩
         instruction := none
         trailing := nothing
         comment := none }]
    lines.map Line.text = [" L : COPY 'a b',N+3\tx ; 'c".toList, "l:".toList] ∧
      ((⟨['m'], lines.map Line.text, {}⟩ : Module).scan .standard).symbols =
        { definitions := ⟨[(['L'], ⟨['L'], 0, 1, false⟩)]⟩
          usages := ⟨[(['N'], [⟨['N'], 0, 16⟩]), (['X'], [⟨['x'], 0, 20⟩])]⟩
          issues := [⟨['l'], 1, 0, 0, 1⟩] } := by
  intro nothing blank tab mnemonic upper lower quoted symbol number other lines
  have recorded := scan_records_written .standard ⟨['m'], [], {}⟩ lines
  exact ⟨by decide +kernel, recorded.trans (by decide +kernel)⟩

end AsmSymbols.Written
