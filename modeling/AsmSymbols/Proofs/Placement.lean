import Mathlib.Data.List.Pairwise
import AsmSymbols.Module
import AsmSymbols.Proofs.Recording
import AsmSymbols.Proofs.Terms

/-!
# Where usages stand

Reading a body goes from left to right, so its words stand behind each other.  `Begins` lists what
can begin with a token.  Each operand is a piece of its line that closes its quotes, and outside
quotes it is made of characters that lie in front of the comment (`OperandIn`).  What the terms of
such an operand inherit, a scan promises of every usage that it records (`UsageIn`).
-/

set_option autoImplicit false

namespace AsmSymbols

open Operand

/-- `operand` is a piece of `line` that closes its quotes.  Outside quotes it has only characters
of words, and all of them in front of the comment. -/
structure OperandIn (line : Text) (operand : Token) : Prop where
  stands : operand.text.StandsAt operand.offset line
  closed : openQuote? operand.text = none
  outside : ∀ before c after, operand.text = before ++ c :: after → openQuote? before = none →
    isWordChar c = true ∧
      operand.offset + Text.byteLength before < Text.byteLength (codeOf line)

section Continuation

variable {line : Text} {token closed : Token} {quote : Char}

theorem dropBytes_of_standsAt {piece front back : Text} (split : line = front ++ piece ++ back) :
    Text.dropBytes (Text.byteLength front + Text.byteLength piece) line = back := by
  rw [split, ← Text.byteLength_append, Text.dropBytes_append]

theorem split_at_quote {text : Text} (found : quote ∈ text) :
    ∃ after, text = text.takeWhile (· != quote) ++ quote :: after := by
  induction text with
  | nil => simp at found
  | cons c text inductionHypothesis =>
    by_cases same : c = quote
    · subst same
      exact ⟨text, by simp⟩
    · have later : quote ∈ text := by
        rcases List.mem_cons.mp found with equality | later
        · exact absurd equality.symm same
        · exact later
      obtain ⟨after, split⟩ := inductionHypothesis later
      refine ⟨after, ?_⟩
      rw [List.takeWhile_cons_of_pos (by simpa using same), List.cons_append, ← split]

theorem quote_notMem_takeWhile (quote : Char) (text : Text) :
    quote ∉ text.takeWhile (· != quote) := by
  intro inContent
  have := List.mem_takeWhile_imp inContent
  simp at this

/-- A continued word is the word, a content without the quote, and the quote. -/
theorem Token.closeQuote?_spec (stands : token.text.StandsAt token.offset line)
    (found : token.closeQuote? quote line = some closed) :
    ∃ content, quote ∉ content ∧ closed.offset = token.offset ∧
      closed.text = token.text ++ content ++ [quote] ∧
      closed.text.StandsAt closed.offset line := by
  obtain ⟨front, back, split, position⟩ := stands
  have rest : Text.dropBytes token.stop line = back := by
    rw [Token.stop, ← position]
    exact dropBytes_of_standsAt split
  unfold Token.closeQuote? at found
  simp only [rest, Option.ite_none_right_eq_some] at found
  obtain ⟨inRest, ⟨⟩⟩ := found
  obtain ⟨after, splitBack⟩ := split_at_quote inRest
  refine ⟨back.takeWhile (· != quote), quote_notMem_takeWhile quote back, rfl, rfl, ?_⟩
  refine ⟨front, after, ?_, position⟩
  rw [split]
  conv => lhs; rw [splitBack]
  simp

theorem openQuote?_append_content {word content : Text} (opened : openQuote? word = some quote)
    (inside : quote ∉ content) : openQuote? (word ++ content) = some quote := by
  rw [openQuote?_append, opened]
  exact foldl_quoteAfter_some inside

/-- A place outside quotes lies in the word, not in its continuation. -/
theorem mem_word_of_outside {word content before after : Text} {c : Char}
    (opened : openQuote? word = some quote) (inside : quote ∉ content)
    (split : word ++ content ++ [quote] = before ++ c :: after)
    (outside : openQuote? before = none) : ∃ rest, word = before ++ c :: rest := by
  rw [List.append_assoc] at split
  rcases List.append_eq_append_iff.mp split with
    ⟨more, rfl, continued⟩ | ⟨more, rfl, continued⟩
  · -- `before` would reach into the content, where the quote is still open
    exfalso
    have inContent : quote ∉ more := by
      rcases List.append_eq_append_iff.mp continued with ⟨tail, rfl, closing⟩ | ⟨tail, rfl, _⟩
      · have short := congrArg List.length closing
        simp only [List.length_append, List.length_cons, List.length_nil] at short
        have noTail : tail = [] := List.length_eq_zero_iff.mp (by omega)
        simpa [noTail] using inside
      · exact fun inMore => inside (List.mem_append_left _ inMore)
    rw [openQuote?_append_content opened inContent] at outside
    cases outside
  · cases more with
    | nil =>
      rw [List.append_nil, outside] at opened
      cases opened
    | cons first rest =>
      cases continued
      exact ⟨rest, rfl⟩

theorem operandIn_word (stands : token.text.StandsAt token.offset (codeOf line))
    (inWord : ∀ c ∈ token.text, isWordChar c = true) (closed : openQuote? token.text = none) :
    OperandIn line token where
  stands := stands.of_codeOf
  closed := closed
  outside := by
    intro before c after split _
    have positive := c.utf8Size_pos
    have fits := stands.stop_le
    rw [split] at fits inWord
    simp only [Text.byteLength_append, Text.byteLength_cons] at fits
    exact ⟨inWord c (by simp), by omega⟩

theorem operandIn_closed (stands : token.text.StandsAt token.offset (codeOf line))
    (inWord : ∀ c ∈ token.text, isWordChar c = true) (opened : openQuote? token.text = some quote)
    (found : token.closeQuote? quote line = some closed) : OperandIn line closed := by
  obtain ⟨content, inside, offset, text, standsClosed⟩ :=
    Token.closeQuote?_spec stands.of_codeOf found
  refine ⟨standsClosed, ?_, ?_⟩
  · rw [text, openQuote?_append, openQuote?_append_content opened inside]
    simp [quoteAfter]
  · intro before c after split outside
    have positive := c.utf8Size_pos
    have fits := stands.stop_le
    rw [text] at split
    obtain ⟨rest, inFront⟩ := mem_word_of_outside opened inside split outside
    rw [inFront] at fits inWord
    simp only [Text.byteLength_append, Text.byteLength_cons] at fits
    exact ⟨inWord c (by simp), by omega⟩

end Continuation

/-- The word that a part consists of, if it is one. -/
def Part.word? : Part → Option Token
  | .mnemonic word => some word
  | .operand word => some word
  | .stray _ => none
  | .unterminated _ => none

/-- The part that begins with a token, and where the reading goes on. -/
inductive Begins (set : InstructionSet) (line : Text) (named : Bool) (token : Token) :
    Part → Cursor → Prop
  | stray : token.kind = .separator →
      Begins set line named token (.stray token.offset) ⟨token.stop, named⟩
  | mnemonic : token.kind = .word → named = false → set.isMnemonic token.text = true →
      Begins set line named token (.mnemonic token) ⟨token.stop, true⟩
  | operand : token.kind = .word → openQuote? token.text = none →
      Begins set line named token (.operand token) ⟨token.stop, named⟩
  | continued {quote : Char} {closed : Token} : token.kind = .word →
      openQuote? token.text = some quote → token.closeQuote? quote line = some closed →
      Begins set line named token (.operand closed) ⟨closed.stop, named⟩
  | unterminated {quote : Char} : token.kind = .word → openQuote? token.text = some quote →
      token.closeQuote? quote line = none →
      Begins set line named token (.unterminated token.offset) ⟨Text.byteLength line, named⟩

section Reading

variable {set : InstructionSet} {line : Text} {cursor following : Cursor} {part : Part}

theorem Cursor.begins_of_classify {named : Bool} {token : Token}
    (classified : classify set line named token = (part, following)) :
    Begins set line named token part following := by
  unfold classify at classified
  split at classified
  next isSeparator =>
    cases classified
    exact .stray isSeparator
  next isWord =>
    split at classified
    next isMnemonic =>
      rw [Bool.and_eq_true, Bool.not_eq_true'] at isMnemonic
      cases classified
      exact .mnemonic isWord isMnemonic.1 isMnemonic.2
    next =>
      split at classified
      next closed =>
        cases classified
        exact .operand isWord closed
      next quote opened =>
        split at classified
        next never =>
          cases classified
          exact .unterminated isWord opened never
        next found =>
          cases classified
          exact .continued isWord opened found

theorem Begins.operandIn {named : Bool} {token operand : Token}
    (formed : token.Formed) (stands : token.text.StandsAt token.offset (codeOf line))
    (begins : Begins set line named token (.operand operand) following) :
    OperandIn line operand := by
  cases begins with
  | operand isWord closed => exact operandIn_word stands (Token.word_spec formed isWord).2 closed
  | continued isWord opened found =>
    exact operandIn_closed stands (Token.word_spec formed isWord).2 opened found

theorem Begins.word {named : Bool} {token word : Token}
    (begins : Begins set line named token part following) (isWord : part.word? = some word) :
    word.offset = token.offset ∧ word.stop = following.position := by
  cases begins with
  | stray | unterminated => cases isWord
  | mnemonic | operand =>
    cases isWord
    exact ⟨rfl, rfl⟩
  | continued _ _ found =>
    cases isWord
    exact ⟨(Token.closeQuote?_bounds found).1, rfl⟩

/-- One step of the reading: a word lies between the old and the new position, and an operand is
well placed. -/
theorem Cursor.next?_spec (found : cursor.next? set line = some (part, following)) :
    (∀ word, part.word? = some word →
      cursor.position ≤ word.offset ∧ word.stop = following.position) ∧
    ∀ operand, part = .operand operand → OperandIn line operand := by
  obtain ⟨token, scanned, classified⟩ := Option.map_eq_some_iff.mp found
  obtain ⟨formed, stands, behind⟩ := nextToken?_spec scanned
  have begins := begins_of_classify classified
  constructor
  · intro word isWord
    obtain ⟨offset, stop⟩ := begins.word isWord
    exact ⟨offset ▸ behind, stop⟩
  · rintro operand rfl
    exact begins.operandIn formed stands

theorem partsFrom_of_none (ended : cursor.next? set line = none) :
    partsFrom set line cursor = [] := by
  rw [partsFrom]
  split
  · rfl
  next found => rw [ended] at found; cases found

theorem partsFrom_of_some (found : cursor.next? set line = some (part, following)) :
    partsFrom set line cursor = part :: partsFrom set line following := by
  rw [partsFrom]
  split
  next ended => rw [found] at ended; cases ended
  next foundOther =>
    rw [found] at foundOther
    cases foundOther
    rfl

/-- The whole reading, step by step. -/
theorem partsFrom_induction {motive : Cursor → List Part → Prop}
    (ended : ∀ cursor : Cursor, cursor.next? set line = none → motive cursor [])
    (stepped : ∀ (cursor following : Cursor) (part : Part) (rest : List Part),
      cursor.next? set line = some (part, following) → motive following rest →
        motive cursor (part :: rest))
    (cursor : Cursor) : motive cursor (partsFrom set line cursor) := by
  cases found : cursor.next? set line with
  | none =>
    rw [partsFrom_of_none found]
    exact ended cursor found
  | some result =>
    rw [partsFrom_of_some found]
    exact stepped _ _ _ _ found (partsFrom_induction ended stepped _)
termination_by Text.byteLength line - cursor.position
decreasing_by
  have := Cursor.next?_bounds found
  omega

theorem operandIn_of_mem_partsFrom {operand : Token}
    (inBody : Part.operand operand ∈ partsFrom set line cursor) : OperandIn line operand := by
  refine partsFrom_induction
    (motive := fun _ parts => .operand operand ∈ parts → OperandIn line operand) ?_ ?_ cursor inBody
  · intro cursor _ inBody
    cases inBody
  · intro cursor following part rest found inductionHypothesis inBody
    rcases List.mem_cons.mp inBody with equality | later
    · exact (Cursor.next?_spec found).2 operand equality.symm
    · exact inductionHypothesis later

/-- The words of a body stand behind its start and behind each other. -/
theorem words_partsFrom (set : InstructionSet) (line : Text) (cursor : Cursor) :
    (∀ word ∈ (partsFrom set line cursor).filterMap Part.word?, cursor.position ≤ word.offset) ∧
      ((partsFrom set line cursor).filterMap Part.word?).Pairwise
        fun first second => first.stop ≤ second.offset := by
  apply partsFrom_induction (motive := fun cursor parts =>
    (∀ word ∈ parts.filterMap Part.word?, cursor.position ≤ word.offset) ∧
      (parts.filterMap Part.word?).Pairwise fun first second => first.stop ≤ second.offset)
  · intro cursor _
    simp
  · intro cursor following part rest found inductionHypothesis
    have further := (Cursor.next?_bounds found).1
    have behind : ∀ word ∈ rest.filterMap Part.word?, cursor.position ≤ word.offset := by
      intro word inRest
      have := inductionHypothesis.1 word inRest
      omega
    cases isWord : part.word? with
    | none =>
      rw [List.filterMap_cons_none isWord]
      exact ⟨behind, inductionHypothesis.2⟩
    | some word =>
      obtain ⟨start, stop⟩ := (Cursor.next?_spec found).1 word isWord
      rw [List.filterMap_cons_some isWord]
      refine ⟨List.forall_mem_cons.mpr ⟨start, behind⟩, ?_⟩
      refine List.pairwise_cons.mpr ⟨?_, inductionHypothesis.2⟩
      intro second inRest
      rw [stop]
      exact inductionHypothesis.1 second inRest

end Reading

/-- A usage is a symbol that stands as an operand on the line `text`. -/
structure UsageIn (set : InstructionSet) (text : Text) (usage : Usage) : Prop where
  stands : usage.symbol.StandsAt usage.offset text
  nonempty : usage.symbol ≠ []
  notLiteral : isLiteral usage.symbol = false
  notReserved : set.isReserved usage.symbol = false
  /-- The symbol closes every quote that it opens. -/
  closed : openQuote? usage.symbol = none
  /-- Outside its quotes the symbol holds nothing that would end a term or a word. -/
  plain : ∀ before c after, usage.symbol = before ++ c :: after → openQuote? before = none →
    isOperandSeparator c = false ∧ isBlank c = false ∧ c ≠ ':' ∧ c ≠ ';'
  behindLabel : ∀ label colon rest, tokens text = label :: colon :: rest →
    label.kind = .word → colon.kind = .separator →
      label.stop ≤ usage.offset ∧ colon.stop ≤ usage.offset
  clearOfMnemonic : ∀ word, (Statement.ofLine set text).mnemonic? = some word →
    word.stop ≤ usage.offset ∨ usage.offset + Text.byteLength usage.symbol ≤ word.offset
  /-- The symbol starts in front of the first semicolon. -/
  inCode : usage.offset < Text.byteLength (codeOf text)

section Line

variable {set : InstructionSet} {line : Nat} {text : Text} {operand : Token} {usage : Usage}

/-- A usage is a term of its operand. -/
theorem mem_operandUsages (used : usage ∈ operandUsages set line operand) :
    usage.line = line ∧ namesSymbol set usage.symbol = true ∧
      ∃ front back, operand.text = front ++ usage.symbol ++ back ∧
        usage.offset = operand.offset + Text.byteLength front ∧ openQuote? front = none ∧
        (back = [] ∨ openQuote? usage.symbol = none) ∧ Uncut none usage.symbol := by
  rw [operandUsages_eq_termUsages, mem_termUsages] at used
  obtain ⟨placed, sameLine, names⟩ := used
  exact ⟨sameLine, names, mem_placeFrom_splitTerms placed⟩

theorem operandUsages_inside (used : usage ∈ operandUsages set line operand) :
    operand.offset ≤ usage.offset ∧
      usage.offset + Text.byteLength usage.symbol ≤ operand.stop := by
  obtain ⟨_, _, front, back, split, position, _⟩ := mem_operandUsages used
  have length := congrArg Text.byteLength split
  simp only [Text.byteLength_append] at length
  rw [Token.stop]
  omega

theorem symbol_closed (placed : OperandIn text operand)
    (used : usage ∈ operandUsages set line operand) : openQuote? usage.symbol = none := by
  obtain ⟨_, _, front, back, split, _, closedFront, ending, _⟩ := mem_operandUsages used
  rcases ending with rfl | closed
  · have whole := placed.closed
    rwa [split, List.append_nil, openQuote?_append_of_closed closedFront] at whole
  · exact closed

theorem symbol_plain (placed : OperandIn text operand)
    (used : usage ∈ operandUsages set line operand) {before after : Text} {c : Char}
    (splitSymbol : usage.symbol = before ++ c :: after) (outside : openQuote? before = none) :
    isOperandSeparator c = false ∧ isWordChar c = true ∧
      usage.offset + Text.byteLength before < Text.byteLength (codeOf text) := by
  obtain ⟨_, _, front, back, split, position, closedFront, _, uncut⟩ := mem_operandUsages used
  have inOperand : operand.text = (front ++ before) ++ c :: (after ++ back) := by
    simp [split, splitSymbol]
  have closedBefore : openQuote? (front ++ before) = none := by
    rw [openQuote?_append_of_closed closedFront, outside]
  obtain ⟨inWord, inCode⟩ := placed.outside _ c _ inOperand closedBefore
  refine ⟨uncut before c after splitSymbol outside, inWord, ?_⟩
  rw [Text.byteLength_append] at inCode
  omega

theorem mem_usages_ofLine (used : usage ∈ (Statement.ofLine set text).usages set line) :
    ∃ operand, .operand operand ∈ (Statement.ofLine set text).body ∧
      usage ∈ operandUsages set line operand := by
  obtain ⟨part, inBody, inPart⟩ := List.mem_flatMap.mp used
  cases part with
  | operand word => exact ⟨word, inBody, inPart⟩
  | mnemonic word => cases inPart
  | stray offset => cases inPart
  | unterminated offset => cases inPart

theorem words_ofLine_pairwise (set : InstructionSet) (text : Text) :
    (Statement.ofLine set text).body.Pairwise fun first second =>
      ∀ word, first.word? = some word → ∀ other, second.word? = some other →
        word.stop ≤ other.offset :=
  List.pairwise_filterMap.mp (words_partsFrom set text _).2

theorem behind_label (inBody : .operand operand ∈ (Statement.ofLine set text).body)
    {label colon : Token} {rest : List Token} (scanned : tokens text = label :: colon :: rest)
    (isWord : label.kind = .word) (isSeparator : colon.kind = .separator) :
    label.stop ≤ operand.offset ∧ colon.stop ≤ operand.offset := by
  have begins := head_ofLine_eq_label_iff.mpr ⟨colon, rest, scanned, isWord, isSeparator, rfl⟩
  have start := (words_partsFrom set text ⟨(Head.ofLine text).2, false⟩).1 operand
    (List.mem_filterMap.mpr ⟨_, inBody, rfl⟩)
  rw [begins] at start
  have behindColon : colon.stop ≤ operand.offset := start
  have colonBehind := (nextToken?_bounds (second_token_found scanned)).1
  have offsetFirst : colon.offset ≤ colon.stop := Nat.le_add_right _ _
  omega

theorem mnemonic_mem_body {word : Token}
    (named : (Statement.ofLine set text).mnemonic? = some word) :
    .mnemonic word ∈ (Statement.ofLine set text).body := by
  obtain ⟨part, inBody, isMnemonic⟩ := List.exists_of_findSome?_eq_some named
  cases part with
  | mnemonic other =>
    cases isMnemonic
    exact inBody
  | operand other => cases isMnemonic
  | stray offset => cases isMnemonic
  | unterminated offset => cases isMnemonic

/-- Two parts do not overlap, if both are words. -/
def Part.Apart (first second : Part) : Prop :=
  ∀ word, first.word? = some word → ∀ other, second.word? = some other →
    word.stop ≤ other.offset ∨ other.stop ≤ word.offset

instance : Std.Symm Part.Apart where
  symm _ _ apart word isWord other isOther := (apart other isOther word isWord).symm

theorem apart_of_mem_body {first second : Part}
    (inBody : first ∈ (Statement.ofLine set text).body)
    (secondInBody : second ∈ (Statement.ofLine set text).body) (differ : first ≠ second) :
    first.Apart second := by
  have apart : (Statement.ofLine set text).body.Pairwise Part.Apart := by
    refine (words_ofLine_pairwise set text).imp ?_
    intro first second ordered word isWord other isOther
    exact Or.inl (ordered word isWord other isOther)
  exact apart.forall inBody secondInBody differ

/-- Every usage on a line is well placed there. -/
theorem usageIn_of_mem (used : usage ∈ (Statement.ofLine set text).usages set line) :
    UsageIn set text usage := by
  obtain ⟨operand, inBody, inOperand⟩ := mem_usages_ofLine used
  have placed : OperandIn text operand := operandIn_of_mem_partsFrom inBody
  obtain ⟨_, names, front, back, split, position, closedFront, _, _⟩ :=
    mem_operandUsages inOperand
  obtain ⟨starts, stops⟩ := operandUsages_inside inOperand
  simp only [namesSymbol, Bool.not_eq_true', Bool.or_eq_false_iff, List.isEmpty_eq_false_iff]
    at names
  refine ⟨?_, names.1.1, names.1.2, names.2, symbol_closed placed inOperand, ?_, ?_, ?_, ?_⟩
  · rw [position]
    exact Text.StandsAt.trans ⟨front, back, split, rfl⟩ placed.stands
  · intro before c after splitSymbol outside
    obtain ⟨noJoint, inWord, _⟩ := symbol_plain placed inOperand splitSymbol outside
    exact ⟨noJoint, isWordChar_iff.mp inWord⟩
  · intro label colon rest scanned isWord isSeparator
    have := behind_label inBody scanned isWord isSeparator
    omega
  · intro word named
    have differ : Part.mnemonic word ≠ .operand operand := by simp
    have apart := apart_of_mem_body (mnemonic_mem_body named) inBody differ word rfl operand rfl
    omega
  · obtain ⟨c, rest, starting⟩ := List.exists_cons_of_ne_nil names.1.1
    have atStart : usage.symbol = [] ++ c :: rest := starting
    simpa using (symbol_plain placed inOperand atStart rfl).2.2

theorem line_of_mem_usages (used : usage ∈ (Statement.ofLine set text).usages set line) :
    usage.line = line := by
  obtain ⟨operand, _, inOperand⟩ := mem_usages_ofLine used
  exact (mem_operandUsages inOperand).1

/-- The usages on a line stand behind each other. -/
theorem usages_ofLine_pairwise (set : InstructionSet) (line : Nat) (text : Text) :
    ((Statement.ofLine set text).usages set line).Pairwise fun first second =>
      first.offset + Text.byteLength first.symbol ≤ second.offset := by
  refine List.pairwise_flatMap.mpr ⟨?_, ?_⟩
  · intro part _
    cases part with
    | operand word =>
      simp only [operandUsages_eq_termUsages]
      exact (termUsages_pairwise word.offset word.text).imp Nat.le_of_lt
    | mnemonic word => exact List.Pairwise.nil
    | stray offset => exact List.Pairwise.nil
    | unterminated offset => exact List.Pairwise.nil
  · refine (words_ofLine_pairwise set text).imp ?_
    intro first second ordered usage inFirst later inSecond
    cases first with
    | mnemonic word => cases inFirst
    | stray offset => cases inFirst
    | unterminated offset => cases inFirst
    | operand word =>
      cases second with
      | mnemonic other => cases inSecond
      | stray offset => cases inSecond
      | unterminated offset => cases inSecond
      | operand other =>
        have wordsOrdered := ordered word rfl other rfl
        have := operandUsages_inside inFirst
        have := operandUsages_inside inSecond
        omega

end Line

/-- One usage stands in front of another: on an earlier line, or on the same line and without
overlap. -/
def Usage.Precedes (first second : Usage) : Prop :=
  first.line < second.line ∨
    first.line = second.line ∧ first.offset < second.offset ∧
      first.offset + Text.byteLength first.symbol ≤ second.offset

section Module

variable (set : InstructionSet) (lines : List Text)

theorem mem_usagesOf {set : InstructionSet} {lines : List Text} {usage : Usage}
    (used : usage ∈ usagesOf set lines) :
    ∃ text, lines[usage.line]? = some text ∧
      usage ∈ (Statement.ofLine set text).usages set usage.line := by
  obtain ⟨⟨text, line⟩, onLine, inLine⟩ := List.mem_flatMap.mp used
  rw [List.mem_zipIdx_iff_getElem?] at onLine
  have sameLine := line_of_mem_usages inLine
  subst sameLine
  exact ⟨text, onLine, inLine⟩

theorem usagesOf_pairwise : (usagesOf set lines).Pairwise Usage.Precedes := by
  have numbered : lines.zipIdx.Pairwise fun first second => first.2 < second.2 := by
    rw [← List.pairwise_map, List.zipIdx_map_snd]
    exact List.pairwise_lt_range'
  refine List.pairwise_flatMap.mpr ⟨?_, ?_⟩
  · rintro ⟨text, line⟩ _
    refine (usages_ofLine_pairwise set line text).imp_of_mem ?_
    intro first second inFirst inSecond apart
    have sameLine := (line_of_mem_usages inFirst).trans (line_of_mem_usages inSecond).symm
    have positive := Text.byteLength_pos_of_ne_nil (usageIn_of_mem inFirst).nonempty
    exact Or.inr ⟨sameLine, by omega, apart⟩
  · refine numbered.imp ?_
    rintro ⟨text, line⟩ ⟨laterText, laterLine⟩ lower first inFirst second inSecond
    have firstLine := line_of_mem_usages inFirst
    have secondLine := line_of_mem_usages inSecond
    exact Or.inl (by omega)

end Module

section Grouping

theorem flatten_upsertEntries (key : Text) (usage : Usage) (entries : List (Text × List Usage)) :
    ((Table.upsertEntries key (fun held => held.getD [] ++ [usage]) entries).map
        Prod.snd).flatten.Perm ((entries.map Prod.snd).flatten ++ [usage]) := by
  induction entries with
  | nil => simp [Table.upsertEntries]
  | cons entry entries inductionHypothesis =>
    obtain ⟨other, held⟩ := entry
    rw [Table.upsertEntries]
    split
    · simp only [Option.getD_some, List.map_cons, List.flatten_cons, List.append_assoc]
      exact List.perm_append_comm.append_left held
    · simp only [List.map_cons, List.flatten_cons, List.append_assoc]
      exact inductionHypothesis.append_left held

/-- Grouping loses no usage and adds none. -/
theorem flatten_usages_recording (labels : List Definition) (used : List Usage) :
    (Symbols.recording labels used).usages.values.flatten.Perm used := by
  induction used using List.reverseRecOn with
  | nil => exact List.Perm.refl _
  | append_singleton used usage inductionHypothesis =>
    rw [← Symbols.addUsage_recording]
    have grown := flatten_upsertEntries usage.key usage
      (Symbols.recording labels used).usages.entries
    exact grown.trans (inductionHypothesis.append_right [usage])

theorem sublist_of_mem_usages_recording {labels : List Definition} {used held : List Usage}
    (grouped : held ∈ (Symbols.recording labels used).usages.values) : held.Sublist used := by
  simp only [Symbols.recording, Table.values, List.map_map, List.mem_map,
    Function.comp_apply] at grouped
  obtain ⟨key, _, rfl⟩ := grouped
  exact List.filter_sublist

end Grouping

/-- The usages that a scan records, of all keys together, can be put in one sequence from left to
right and from line to line, without overlap; each key holds its usages in that order.  And each of
them is an operand symbol that stands where its entry says. -/
theorem Module.scan_places_usages (set : InstructionSet) (module : Module) :
    ∃ inOrder : List Usage,
      inOrder.Perm (module.scan set).usages.values.flatten ∧
        (∀ held ∈ (module.scan set).usages.values, held.Sublist inOrder) ∧
        inOrder.Pairwise Usage.Precedes ∧
        ∀ usage ∈ inOrder, ∃ text, module.lines[usage.line]? = some text ∧
          UsageIn set text usage := by
  have recorded : (module.scan set).usages =
      (Symbols.recording (labelsOf set module.lines) (usagesOf set module.lines)).usages :=
    congrArg Symbols.usages (Symbols.ofLines_eq_recording set module.lines)
  rw [recorded]
  refine ⟨usagesOf set module.lines, (flatten_usages_recording _ _).symm, ?_,
    usagesOf_pairwise set module.lines, ?_⟩
  · intro held grouped
    exact sublist_of_mem_usages_recording grouped
  · intro usage used
    obtain ⟨text, onLine, inLine⟩ := mem_usagesOf used
    exact ⟨text, onLine, usageIn_of_mem inLine⟩

end AsmSymbols
