import Mathlib.Data.List.Basic
import AsmSymbols.Symbols
import AsmSymbols.Proofs.Scanner

/-!
# How operands fall into terms

A cut is made at a joining character behind closed quotes, and nowhere else.  `splitTerms_cases` is
the one place that opens the cutting function: a text is one term, or a term, a joining character
and a rest that is cut on its own.  Where terms stand and what they hold follows from it.

A number is cut behind its sign, and quotes keep a quoted text together, so the terms of a literal
are literals again (`Literal.splitTerms_of_isLiteral`).  Nothing is lost when such an operand is not
cut at all.
-/

set_option autoImplicit false

namespace AsmSymbols.Operand

/-- No joining character stands in `term` outside quotes, when `quote` is open in front of it. -/
def Uncut (quote : Option Char) (term : Text) : Prop :=
  ∀ before c after, term = before ++ c :: after → before.foldl quoteAfter quote = none →
    isOperandSeparator c = false

theorem uncut_nil (quote : Option Char) : Uncut quote [] := by
  intro before c after split
  simp at split

theorem uncut_cons {quote : Option Char} {c : Char} {rest : Text}
    (here : quote = none → isOperandSeparator c = false)
    (there : Uncut (quoteAfter quote c) rest) : Uncut quote (c :: rest) := by
  intro before d after split closed
  cases before with
  | nil =>
    cases split
    exact here closed
  | cons first before =>
    cases split
    exact there before d after rfl closed

theorem quoteAfter_none_of_isOperandSeparator {c : Char} (joins : isOperandSeparator c = true) :
    quoteAfter none c = none := by
  have notQuote : isQuote c = false := by
    simp only [isOperandSeparator, Bool.or_eq_true, beq_iff_eq] at joins
    rcases joins with (rfl | rfl) | rfl <;> rfl
  simp [quoteAfter, notQuote]

theorem utf8Size_of_isOperandSeparator {c : Char} (joins : isOperandSeparator c = true) :
    c.utf8Size = 1 := by
  simp only [isOperandSeparator, Bool.or_eq_true, beq_iff_eq] at joins
  rcases joins with (rfl | rfl) | rfl <;> rfl

/-- A text is one term, or it is cut behind its first term. -/
theorem splitTerms_cases (quote : Option Char) (text : Text) :
    (splitTerms quote text = [text] ∧ Uncut quote text) ∨
      ∃ term joint rest, text = term ++ joint :: rest ∧ isOperandSeparator joint = true ∧
        Uncut quote term ∧ term.foldl quoteAfter quote = none ∧
        splitTerms quote text = term :: splitTerms none rest := by
  induction text generalizing quote with
  | nil => exact Or.inl ⟨rfl, uncut_nil quote⟩
  | cons c text inductionHypothesis =>
    by_cases cut : quote = none ∧ isOperandSeparator c = true
    · refine Or.inr ⟨[], c, text, rfl, cut.2, uncut_nil quote, cut.1, ?_⟩
      simp [splitTerms, cut]
    · have here : quote = none → isOperandSeparator c = false := by
        intro closed
        simpa [closed] using cut
      rcases inductionHypothesis (quoteAfter quote c) with
        ⟨whole, uncut⟩ | ⟨term, joint, rest, rfl, joins, uncut, closed, split⟩
      · refine Or.inl ⟨?_, uncut_cons here uncut⟩
        rw [splitTerms, if_neg cut, whole]
      · refine Or.inr ⟨c :: term, joint, rest, rfl, joins, uncut_cons here uncut, closed, ?_⟩
        rw [splitTerms, if_neg cut, split]

theorem placeFrom_mem_le {offset start : Nat} {term : Text} {terms : List Text}
    (placed : (start, term) ∈ placeFrom offset terms) : offset ≤ start := by
  induction terms generalizing offset with
  | nil => simp [placeFrom] at placed
  | cons first terms inductionHypothesis =>
    rcases List.mem_cons.mp placed with equality | later
    · cases equality
      exact Nat.le_refl _
    · have := inductionHypothesis later
      omega

/-- Terms follow each other, with room for a joining character in between. -/
theorem placeFrom_pairwise (offset : Nat) (terms : List Text) :
    (placeFrom offset terms).Pairwise fun first second =>
      first.1 + Text.byteLength first.2 < second.1 := by
  induction terms generalizing offset with
  | nil => exact List.Pairwise.nil
  | cons term terms inductionHypothesis =>
    refine List.pairwise_cons.mpr ⟨?_, inductionHypothesis _⟩
    rintro ⟨start, second⟩ later
    exact placeFrom_mem_le later

theorem openQuote?_append (front back : Text) :
    openQuote? (front ++ back) = back.foldl quoteAfter (openQuote? front) :=
  List.foldl_append

/-- Behind closed quotes a text is read as if nothing stood in front of it. -/
theorem openQuote?_append_of_closed {front : Text} (closed : openQuote? front = none)
    (back : Text) : openQuote? (front ++ back) = openQuote? back := by
  rw [openQuote?_append, closed]
  rfl

theorem openQuote?_concat_joint {front : Text} {joint : Char} (closed : openQuote? front = none)
    (joins : isOperandSeparator joint = true) : openQuote? (front ++ [joint]) = none := by
  rw [openQuote?_append, closed]
  exact quoteAfter_none_of_isOperandSeparator joins

theorem splitTerms_ne_nil (quote : Option Char) (text : Text) : splitTerms quote text ≠ [] := by
  rcases splitTerms_cases quote text with ⟨whole, _⟩ | ⟨term, _, rest, _, _, _, _, split⟩
  · rw [whole]
    exact List.cons_ne_nil _ _
  · rw [split]
    exact List.cons_ne_nil _ _

theorem splitTerms_of_uncut {quote : Option Char} {text : Text} (uncut : Uncut quote text) :
    splitTerms quote text = [text] := by
  rcases splitTerms_cases quote text with
    ⟨whole, _⟩ | ⟨term, joint, rest, split, joins, _, closed, _⟩
  · exact whole
  · have := uncut term joint rest split closed
    rw [joins] at this
    cases this

/-- At a joining character behind closed quotes, both sides are cut on their own. -/
theorem splitTerms_append_joint {quote : Option Char} {front : Text} {joint : Char}
    (closed : front.foldl quoteAfter quote = none) (joins : isOperandSeparator joint = true)
    (rest : Text) :
    splitTerms quote (front ++ joint :: rest) = splitTerms quote front ++ splitTerms none rest := by
  induction front generalizing quote with
  | nil =>
    have closed : quote = none := closed
    simp [splitTerms, closed, joins]
  | cons c front inductionHypothesis =>
    rw [List.cons_append, splitTerms, splitTerms]
    split
    next cut =>
      have closedFront : front.foldl quoteAfter none = none := by
        rwa [List.foldl_cons, cut.1, quoteAfter_none_of_isOperandSeparator cut.2] at closed
      rw [inductionHypothesis closedFront, List.cons_append]
    next uncut =>
      rw [inductionHypothesis closed]
      cases split : splitTerms (quoteAfter quote c) front with
      | nil => exact absurd split (splitTerms_ne_nil _ _)
      | cons term following => rfl

/-- The terms of a text take up all of it, so terms that follow are placed behind it. -/
theorem placeFrom_splitTerms_append (offset : Nat) (text : Text) (following : List Text) :
    placeFrom offset (splitTerms none text ++ following) =
      placeFrom offset (splitTerms none text) ++
        placeFrom (offset + Text.byteLength text + 1) following := by
  rcases splitTerms_cases none text with
    ⟨whole, _⟩ | ⟨term, joint, rest, joined, joins, _, _, split⟩
  · rw [whole]
    rfl
  · have inRest := placeFrom_splitTerms_append (offset + Text.byteLength term + 1) rest following
    rw [split, List.cons_append, placeFrom, placeFrom, inRest, List.cons_append]
    simp only [joined, Text.byteLength_append, Text.byteLength_cons,
      utf8Size_of_isOperandSeparator joins]
    congr 3
    omega
termination_by text.length
decreasing_by
  rw [joined, List.length_append, List.length_cons]
  omega

/-- Every term stands in its text behind closed quotes, and no cut goes through it.  It reaches to
the end of the text, or its own quotes are closed. -/
theorem mem_placeFrom_splitTerms {offset start : Nat} {text term : Text}
    (placed : (start, term) ∈ placeFrom offset (splitTerms none text)) :
    ∃ front back, text = front ++ term ++ back ∧ start = offset + Text.byteLength front ∧
      openQuote? front = none ∧ (back = [] ∨ openQuote? term = none) ∧ Uncut none term := by
  rcases splitTerms_cases none text with
    ⟨whole, uncut⟩ | ⟨first, joint, rest, joined, joins, uncut, closed, split⟩
  · rw [whole] at placed
    cases List.mem_singleton.mp placed
    exact ⟨[], [], by simp, rfl, rfl, Or.inl rfl, uncut⟩
  · rw [split] at placed
    rcases List.mem_cons.mp placed with equality | later
    · cases equality
      exact ⟨[], joint :: rest, joined, rfl, rfl, Or.inr closed, uncut⟩
    · obtain ⟨front, back, inRest, position, closedFront, ending, uncutTerm⟩ :=
        mem_placeFrom_splitTerms later
      refine ⟨first ++ joint :: front, back, by simp [joined, inRest], ?_, ?_, ending, uncutTerm⟩
      · simp only [position, Text.byteLength_append, Text.byteLength_cons,
          utf8Size_of_isOperandSeparator joins]
        omega
      · have closedJoint := openQuote?_concat_joint closed joins
        have same := openQuote?_append_of_closed closedJoint front
        rw [List.append_assoc] at same
        exact same.trans closedFront
termination_by text.length
decreasing_by
  rw [joined, List.length_append, List.length_cons]
  omega

section Quoted

variable {quote : Char} {content : Text}

theorem quoteAfter_of_isQuote {quote : Char} (quotes : isQuote quote = true) :
    quoteAfter none quote = some quote := by
  simp [quoteAfter, quotes]

/-- Inside quotes nothing but the same quote matters. -/
theorem foldl_quoteAfter_some (inside : quote ∉ content) :
    content.foldl quoteAfter (some quote) = some quote := by
  induction content with
  | nil => rfl
  | cons c content inductionHypothesis =>
    simp only [List.mem_cons, not_or] at inside
    have differs : c ≠ quote := fun equality => inside.1 equality.symm
    rw [List.foldl_cons, quoteAfter, if_neg differs]
    exact inductionHypothesis inside.2

theorem uncut_content (inside : quote ∉ content) : Uncut (some quote) (content ++ [quote]) := by
  induction content with
  | nil =>
    refine uncut_cons (by simp) ?_
    exact uncut_nil _
  | cons c content inductionHypothesis =>
    simp only [List.mem_cons, not_or] at inside
    have differs : c ≠ quote := fun equality => inside.1 equality.symm
    refine uncut_cons (by simp) ?_
    rw [quoteAfter, if_neg differs]
    exact inductionHypothesis inside.2

/-- A quoted text is one term, and it closes its quote. -/
theorem uncut_quoted (quotes : isQuote quote = true) (inside : quote ∉ content) :
    Uncut none (quote :: (content ++ [quote])) := by
  have noJoint : isOperandSeparator quote = false := by
    simp only [isQuote, Bool.or_eq_true, beq_iff_eq] at quotes
    rcases quotes with rfl | rfl <;> rfl
  refine uncut_cons (fun _ => noJoint) ?_
  rw [quoteAfter_of_isQuote quotes]
  exact uncut_content inside

theorem openQuote?_quoted (quotes : isQuote quote = true) (inside : quote ∉ content) :
    openQuote? (quote :: (content ++ [quote])) = none := by
  unfold openQuote?
  rw [List.foldl_cons, quoteAfter_of_isQuote quotes, List.foldl_append,
    foldl_quoteAfter_some inside]
  simp [quoteAfter]

end Quoted

theorem uncut_of_forall {quote : Option Char} {term : Text}
    (plain : ∀ c ∈ term, isOperandSeparator c = false) : Uncut quote term := by
  rintro before c after rfl _
  exact plain c (by simp)

end AsmSymbols.Operand

namespace AsmSymbols

namespace Literal

/-- An unsigned number consists of digits, apart from the mark of hexadecimal ones. -/
theorem digit_of_mem_number {word : Text} {c : Char}
    (number : (isDecimal word || isHexadecimal word) = true) (inWord : c ∈ word) :
    isHexDigit c = true ∨ c = 'x' ∨ c = 'X' := by
  rcases Bool.or_eq_true_iff.mp number with decimal | hexadecimal
  · simp only [isDecimal, Bool.and_eq_true, List.all_eq_true] at decimal
    exact Or.inl (by simp [isHexDigit, decimal.2 c inWord])
  · unfold isHexadecimal at hexadecimal
    split at hexadecimal
    next mark digits =>
      simp only [Bool.and_eq_true, Bool.or_eq_true, beq_iff_eq, List.all_eq_true] at hexadecimal
      simp only [List.mem_cons] at inWord
      rcases inWord with rfl | rfl | inDigits
      · exact Or.inl rfl
      · exact Or.inr hexadecimal.1.1
      · exact Or.inl (hexadecimal.2 c inDigits)
    next => cases hexadecimal

theorem not_joint_of_mem_number {word : Text} {c : Char}
    (number : (isDecimal word || isHexadecimal word) = true) (inWord : c ∈ word) :
    isOperandSeparator c = false := by
  have digit := digit_of_mem_number number inWord
  by_contra joins
  simp only [isOperandSeparator, Bool.not_eq_false, Bool.or_eq_true, beq_iff_eq] at joins
  rcases joins with (rfl | rfl) | rfl <;> revert digit <;> decide

theorem ne_nil_of_number {word : Text} (number : (isDecimal word || isHexadecimal word) = true) :
    word ≠ [] := by
  rintro rfl
  cases number

theorem dropSign_of_number {word : Text}
    (number : (isDecimal word || isHexadecimal word) = true) : dropSign word = word := by
  cases word with
  | nil => rfl
  | cons c word =>
    have unsigned := not_joint_of_mem_number number (List.mem_cons_self)
    have noSign : (c == '+' || c == '-') = false := by
      simp only [isOperandSeparator, Bool.or_eq_false_iff] at unsigned ⊢
      exact ⟨unsigned.1.2, unsigned.2⟩
    simp [dropSign, noSign]

theorem isLiteral_of_number {word : Text}
    (number : (isDecimal word || isHexadecimal word) = true) : isLiteral word = true := by
  simp [isLiteral, isNumber, dropSign_of_number number, number]

/-- A quoted literal is its quote, a content without that quote, and the quote again. -/
theorem isQuoted_iff {word : Text} :
    isQuoted word = true ↔
      ∃ quote content, isQuote quote = true ∧ quote ∉ content ∧
        word = quote :: (content ++ [quote]) := by
  cases word with
  | nil => simp [isQuoted]
  | cons c rest =>
    simp only [isQuoted, Bool.and_eq_true, beq_iff_eq]
    constructor
    · rintro ⟨quotes, closing⟩
      refine ⟨c, rest.takeWhile (· != c), quotes, ?_, ?_⟩
      · intro inContent
        have := List.mem_takeWhile_imp inContent
        simp at this
      · rw [← closing, List.takeWhile_append_dropWhile]
    · rintro ⟨quote, content, quotes, inside, equality⟩
      cases equality
      refine ⟨quotes, ?_⟩
      rw [List.dropWhile_append_of_pos]
      · simp
      · intro d inContent
        have differs : d ≠ c := fun equality => inside (equality ▸ inContent)
        simpa using differs

theorem splitTerms_of_number {word : Text}
    (number : (isDecimal word || isHexadecimal word) = true) :
    Operand.splitTerms none word = [word] :=
  Operand.splitTerms_of_uncut
    (Operand.uncut_of_forall fun _ inWord => not_joint_of_mem_number number inWord)

theorem splitTerms_sign {sign : Char} (signs : (sign == '+' || sign == '-') = true) (rest : Text) :
    Operand.splitTerms none (sign :: rest) = [] :: Operand.splitTerms none rest := by
  have joins : isOperandSeparator sign = true := by
    simp only [isOperandSeparator, Bool.or_eq_true] at signs ⊢
    rcases signs with plus | minus
    · exact Or.inl (Or.inr plus)
    · exact Or.inr minus
  simp [Operand.splitTerms, joins]

/-- Cutting a literal gives literals, or nothing. -/
theorem splitTerms_of_isLiteral {word term : Text} (literal : isLiteral word = true)
    (isTerm : term ∈ Operand.splitTerms none word) : term = [] ∨ isLiteral term = true := by
  rcases Bool.or_eq_true_iff.mp literal with number | quoted
  · cases word with
    | nil => cases number
    | cons c rest =>
      by_cases signs : (c == '+' || c == '-') = true
      · simp only [isNumber, dropSign, signs, ↓reduceIte] at number
        rw [splitTerms_sign signs, splitTerms_of_number number, List.mem_cons,
          List.mem_singleton] at isTerm
        rcases isTerm with rfl | rfl
        · exact Or.inl rfl
        · exact Or.inr (isLiteral_of_number number)
      · rw [isNumber, dropSign, if_neg signs] at number
        rw [splitTerms_of_number number, List.mem_singleton] at isTerm
        subst isTerm
        exact Or.inr literal
  · obtain ⟨quote, content, quotes, inside, rfl⟩ := isQuoted_iff.mp quoted
    rw [Operand.splitTerms_of_uncut (Operand.uncut_quoted quotes inside), List.mem_singleton]
      at isTerm
    subst isTerm
    exact Or.inr literal

end Literal

section Usages

variable (set : InstructionSet) (line : Nat)

/-- A term that names a symbol. -/
def namesSymbol (term : Text) : Bool := !(term.isEmpty || isLiteral term || set.isReserved term)

/-- The usages in an operand that starts at byte `offset`. -/
def termUsages (offset : Nat) (text : Text) : List Usage :=
  (Operand.placeFrom offset (Operand.splitTerms none text)).filterMap fun (start, term) =>
    if namesSymbol set term then some ⟨term, line, start⟩ else none

theorem placeFrom_add (base offset : Nat) (terms : List Text) :
    Operand.placeFrom (base + offset) terms =
      (Operand.placeFrom offset terms).map fun (start, term) => (base + start, term) := by
  induction terms generalizing offset with
  | nil => rfl
  | cons term terms inductionHypothesis =>
    have following := inductionHypothesis (offset + Text.byteLength term + 1)
    simp only [Operand.placeFrom, List.map_cons, ← following]
    congr 2
    omega

theorem snd_mem_of_mem_placeFrom {offset start : Nat} {term : Text} {terms : List Text}
    (placed : (start, term) ∈ Operand.placeFrom offset terms) : term ∈ terms := by
  induction terms generalizing offset with
  | nil => simp [Operand.placeFrom] at placed
  | cons first terms inductionHypothesis =>
    rcases List.mem_cons.mp placed with equality | later
    · cases equality
      exact List.mem_cons_self
    · exact List.mem_cons_of_mem _ (inductionHypothesis later)

/-- An operand that is a literal as a whole could as well be cut: no term of it names a symbol. -/
theorem operandUsages_eq_termUsages (operand : Token) :
    operandUsages set line operand = termUsages set line operand.offset operand.text := by
  have shifted := placeFrom_add operand.offset 0 (Operand.splitTerms none operand.text)
  rw [Nat.add_zero] at shifted
  unfold operandUsages termUsages
  rw [shifted, List.filterMap_map]
  split
  next literal =>
    symm
    rw [List.filterMap_eq_nil_iff]
    rintro ⟨start, term⟩ placed
    rcases Literal.splitTerms_of_isLiteral literal (snd_mem_of_mem_placeFrom placed) with
      rfl | literal
    · simp [namesSymbol]
    · simp [namesSymbol, literal]
  next =>
    apply List.filterMap_congr
    rintro ⟨start, term⟩ _
    cases skipped : term.isEmpty || isLiteral term || set.isReserved term with
    | true =>
      have unnamed : namesSymbol set term = false := by rw [namesSymbol, skipped]; rfl
      simp only [Function.comp_apply, unnamed, ↓reduceIte, Bool.false_eq_true]
      exact if_pos skipped
    | false =>
      have named : namesSymbol set term = true := by rw [namesSymbol, skipped]; rfl
      simp only [Function.comp_apply, named, ↓reduceIte]
      exact if_neg (Bool.eq_false_iff.mp skipped)

variable {set line}

theorem mem_termUsages {offset : Nat} {text : Text} {usage : Usage} :
    usage ∈ termUsages set line offset text ↔
      (usage.offset, usage.symbol) ∈ Operand.placeFrom offset (Operand.splitTerms none text) ∧
        usage.line = line ∧ namesSymbol set usage.symbol = true := by
  simp only [termUsages, List.mem_filterMap, Prod.exists, Option.ite_none_right_eq_some,
    Option.some.injEq]
  constructor
  · rintro ⟨start, term, placed, names, rfl⟩
    exact ⟨placed, rfl, names⟩
  · rintro ⟨placed, rfl, names⟩
    exact ⟨_, _, placed, names, rfl⟩

theorem termUsages_pairwise (offset : Nat) (text : Text) :
    (termUsages set line offset text).Pairwise fun first second =>
      first.offset + Text.byteLength first.symbol < second.offset := by
  refine List.pairwise_filterMap.mpr ?_
  refine (Operand.placeFrom_pairwise offset _).imp ?_
  rintro ⟨start, term⟩ ⟨later, other⟩ apart first made second madeSecond
  rw [Option.ite_none_right_eq_some] at made madeSecond
  obtain ⟨_, ⟨⟩⟩ := made
  obtain ⟨_, ⟨⟩⟩ := madeSecond
  exact apart

/-- Behind closed quotes, what a joining character separates is used on its own. -/
theorem termUsages_append_joint {front : Text} {joint : Char}
    (closed : Operand.openQuote? front = none) (joins : isOperandSeparator joint = true)
    (offset : Nat) (rest : Text) :
    termUsages set line offset (front ++ joint :: rest) =
      termUsages set line offset front ++
        termUsages set line (offset + Text.byteLength front + 1) rest := by
  unfold termUsages
  rw [Operand.splitTerms_append_joint closed joins, Operand.placeFrom_splitTerms_append,
    List.filterMap_append]

theorem termUsages_of_uncut {term : Text} (uncut : Operand.Uncut none term) (offset : Nat) :
    termUsages set line offset term =
      if namesSymbol set term then [⟨term, line, offset⟩] else [] := by
  unfold termUsages
  rw [Operand.splitTerms_of_uncut uncut]
  split <;> simp [Operand.placeFrom, *]

/-- Record a term of an operand that starts at byte `offset`, if the term names a symbol. -/
def Symbols.addTerm (set : InstructionSet) (line offset : Nat) (symbols : Symbols)
    (placed : Nat × Text) : Symbols :=
  if namesSymbol set placed.2 then symbols.addUsage ⟨placed.2, line, offset + placed.1⟩ else symbols

theorem Symbols.foldl_addTerm (offset : Nat) (text : Text) (symbols : Symbols) :
    (Operand.terms text).foldl (addTerm set line offset) symbols =
      (termUsages set line offset text).foldl addUsage symbols := by
  have shifted := placeFrom_add offset 0 (Operand.splitTerms none text)
  rw [Nat.add_zero] at shifted
  rw [termUsages, shifted, List.filterMap_map, List.foldl_filterMap, Operand.terms]
  congr 1
  funext symbols placed
  cases names : namesSymbol set placed.2 <;> simp [addTerm, names]

end Usages

/-- Cutting a literal gives literals or nothing, so it does not matter that an operand which is a
literal as a whole is not cut at all: whatever was recorded before, recording the operand is the
same as recording all its terms one by one. -/
theorem recording_agrees_on_literals :
    (∀ word, isLiteral word = true →
      ∀ placed ∈ Operand.terms word, placed.2 = [] ∨ isLiteral placed.2 = true) ∧
      ∀ (set : InstructionSet) (line : Nat) (operand : Token) (symbols : Symbols),
        (operandUsages set line operand).foldl Symbols.addUsage symbols =
          (Operand.terms operand.text).foldl (Symbols.addTerm set line operand.offset) symbols := by
  constructor
  · intro word literal placed isTerm
    exact Literal.splitTerms_of_isLiteral literal (snd_mem_of_mem_placeFrom isTerm)
  · intro set line operand symbols
    rw [operandUsages_eq_termUsages, Symbols.foldl_addTerm]

/-- A number loses its sign.  In quotes, a joining character and the other quote stay. -/
theorem recording_agrees_on_sign_and_quotes :
    let number : Text := "-0x1F".toList
    let quoted : Text := "'a,\"-b'".toList
    isLiteral number = true ∧ isLiteral quoted = true ∧
      Operand.terms number = [(0, []), (1, "0x1F".toList)] ∧ Operand.terms quoted = [(0, quoted)] ∧
      (∀ placed ∈ Operand.terms number, placed.2 = [] ∨ isLiteral placed.2 = true) ∧
      ∀ placed ∈ Operand.terms quoted, placed.2 = [] ∨ isLiteral placed.2 = true := by
  intro number quoted
  have literal : isLiteral number = true := by decide
  have literalToo : isLiteral quoted = true := by decide
  exact ⟨literal, literalToo, by decide, by decide,
    recording_agrees_on_literals.1 number literal, recording_agrees_on_literals.1 quoted literalToo⟩

end AsmSymbols
