import AsmSymbols.Proofs.CheckedSearch
import AsmSymbols.Proofs.Placement

/-!
# Reading a line by bytes stays in bounds

`Checked` reads statements and operands with the steps of the checked search, and so it takes pieces
from a line wherever the reading by characters takes characters.  For each function there is one
lemma: the checked one has the result of the other, and no fault.  `scanning_stays_in_bounds` puts
them together.
-/

set_option autoImplicit false

namespace AsmSymbols

namespace Checked

/-- The byte behind a token. -/
def stop (token : Token) : Except Fault Nat := add token.offset (Text.byteLength token.text)

def closeQuote? (text : Text) (token : Token) (quote : Char) : Except Fault (Option Token) := do
  let rest ← sliceFrom text (← stop token)
  if quote ∈ rest then
    let closing ← add (← stop token) (Text.byteLength (rest.takeWhile (· != quote)))
    let behind ← add closing quote.utf8Size
    let closed ← slice text token.offset behind
    return some ⟨closed, token.offset, .word⟩
  else return none

def classify (set : InstructionSet) (text : Text) (named : Bool) (token : Token) :
    Except Fault (Part × Cursor) := do
  let behind ← stop token
  match token.kind with
  | .separator => return (.stray token.offset, ⟨behind, named⟩)
  | .word =>
    if !named && set.isMnemonic token.text then
      return (.mnemonic token, ⟨behind, true⟩)
    else
      match Operand.openQuote? token.text with
      | none => return (.operand token, ⟨behind, named⟩)
      | some quote =>
        match ← closeQuote? text token quote with
        | none => return (.unterminated token.offset, ⟨Text.byteLength text, named⟩)
        | some closed => return (.operand closed, ⟨← stop closed, named⟩)

def next? (set : InstructionSet) (text : Text) (cursor : Cursor) :
    Except Fault (Option (Part × Cursor)) := do
  match ← nextToken? cursor.position text with
  | none => return none
  | some token => return some (← classify set text cursor.named token)

def head (text : Text) : Except Fault (Head × Nat) := do
  match ← nextToken? 0 text with
  | none => return (.absent, 0)
  | some first =>
    if first.isSeparator then
      return (.bare, ← stop first)
    else
      match ← nextToken? (← stop first) text with
      | none => return (.absent, 0)
      | some second =>
        if second.isSeparator then
          return (.label first, ← stop second)
        else return (.absent, 0)

section Reading

variable {set : InstructionSet} {text : Text} {token : Token}

theorem stop_eq_ok (fits : Text.byteLength text < UInt64.size)
    (inside : token.stop ≤ Text.byteLength text) : stop token = .ok token.stop :=
  add_eq_ok (Nat.lt_of_le_of_lt inside fits)

/-- A word is continued by a piece of the line that ends behind the quote. -/
theorem closeQuote?_eq_ok (fits : Text.byteLength text < UInt64.size)
    (stands : token.text.StandsAt token.offset text) (isWord : token.kind = .word) (quote : Char) :
    closeQuote? text token quote = .ok (token.closeQuote? quote text) := by
  obtain ⟨front, back, split, position⟩ := stands
  have stops : token.stop = Text.byteLength (front ++ token.text) := by
    rw [Token.stop, ← position, Text.byteLength_append]
  have inside : token.stop ≤ Text.byteLength text := by simp [stops, split]
  have rest : Text.dropBytes token.stop text = back := by
    rw [stops, split, Text.dropBytes_append]
  unfold closeQuote?
  rw [stop_eq_ok fits inside, ok_bind, stops, sliceFrom_of_split split, ok_bind]
  by_cases found : quote ∈ back
  · have continued : token.closeQuote? quote text =
        some ⟨token.text ++ back.takeWhile (· != quote) ++ [quote], token.offset, .word⟩ := by
      simp only [Token.closeQuote?, rest, found, if_true, isWord]
    obtain ⟨after, splitBack⟩ := split_at_quote found
    rw [continued, if_pos found]
    generalize back.takeWhile (· != quote) = content at splitBack
    have splitClosed : text = front ++ (token.text ++ content ++ [quote]) ++ after := by
      simp [split, splitBack]
    have behind : Text.byteLength (front ++ token.text) + Text.byteLength content +
        quote.utf8Size = Text.byteLength (front ++ (token.text ++ content ++ [quote])) := by
      simp [Nat.add_assoc]
    have closedInside : Text.byteLength (front ++ (token.text ++ content ++ [quote])) ≤
        Text.byteLength text := by
      rw [splitClosed, Text.byteLength_append _ after]
      exact Nat.le_add_right _ _
    rw [ok_bind, add_eq_ok (by omega), ok_bind, add_eq_ok (by omega), ok_bind, behind, ← position,
      slice_of_split splitClosed]
    rfl
  · have given : token.closeQuote? quote text = none := by
      simp only [Token.closeQuote?, rest, found, if_false]
    rw [given, if_neg found]
    rfl

theorem classify_eq_ok (fits : Text.byteLength text < UInt64.size)
    (stands : token.text.StandsAt token.offset text) (named : Bool) :
    classify set text named token = .ok (Cursor.classify set text named token) := by
  have behind := stop_eq_ok fits stands.stop_le
  unfold classify Cursor.classify
  rw [behind, ok_bind]
  cases kind : token.kind with
  | separator => rfl
  | word =>
    dsimp only
    split
    · rfl
    · cases opened : Operand.openQuote? token.text with
      | none => rfl
      | some quote =>
        dsimp only
        rw [closeQuote?_eq_ok fits stands kind, ok_bind]
        cases found : token.closeQuote? quote text with
        | none => rfl
        | some closed =>
          dsimp only
          rw [stop_eq_ok fits (Token.closeQuote?_bounds found).2.2]
          rfl

theorem next?_eq_ok (fits : Text.byteLength text < UInt64.size) (cursor : Cursor) :
    next? set text cursor = .ok (cursor.next? set text) := by
  unfold next? Cursor.next?
  rw [nextToken?_eq_ok fits, ok_bind]
  cases found : AsmSymbols.nextToken? cursor.position text with
  | none => rfl
  | some token =>
    dsimp only
    rw [classify_eq_ok fits (nextToken?_spec found).2.1.of_codeOf]
    rfl

theorem head_eq_ok (fits : Text.byteLength text < UInt64.size) :
    head text = .ok (Head.ofLine text) := by
  unfold head Head.ofLine
  rw [nextToken?_eq_ok fits, ok_bind]
  cases foundFirst : AsmSymbols.nextToken? 0 text with
  | none => rfl
  | some first =>
    dsimp only
    rw [stop_eq_ok fits (nextToken?_bounds foundFirst).2.2]
    split
    · rfl
    · rw [ok_bind, nextToken?_eq_ok fits, ok_bind]
      cases foundSecond : AsmSymbols.nextToken? first.stop text with
      | none => rfl
      | some second =>
        dsimp only
        rw [stop_eq_ok fits (nextToken?_bounds foundSecond).2.2]
        split <;> rfl

end Reading

/-- The parts of a line from a cursor on. -/
def partsFrom (set : InstructionSet) (line : StoredLine) (cursor : Cursor) :
    Except Fault (List Part) :=
  match _found : next? set line.text cursor with
  | .error fault => .error fault
  | .ok none => .ok []
  | .ok (some (part, following)) => do
    let rest ← partsFrom set line following
    return part :: rest
termination_by Text.byteLength line.text - cursor.position
decreasing_by
  rw [next?_eq_ok line.fits, Except.ok.injEq] at _found
  have := Cursor.next?_bounds _found
  omega

theorem partsFrom_eq_ok (set : InstructionSet) (line : StoredLine) (cursor : Cursor) :
    partsFrom set line cursor = .ok (AsmSymbols.partsFrom set line.text cursor) := by
  refine partsFrom_induction
    (motive := fun cursor parts => partsFrom set line cursor = .ok parts) ?_ ?_ cursor
  · intro cursor ended
    have read : next? set line.text cursor = .ok (cursor.next? set line.text) :=
      next?_eq_ok line.fits cursor
    rw [ended] at read
    rw [partsFrom]
    split
    next failed => rw [read] at failed; cases failed
    next => rfl
    next found => rw [read] at found; cases found
  · intro cursor following part rest found inductionHypothesis
    have read : next? set line.text cursor = .ok (cursor.next? set line.text) :=
      next?_eq_ok line.fits cursor
    rw [found] at read
    rw [partsFrom]
    split
    next failed => rw [read] at failed; cases failed
    next ended => rw [read] at ended; cases ended
    next foundOther =>
      rw [read] at foundOther
      cases foundOther
      rw [inductionHypothesis]
      rfl

def ofLine (set : InstructionSet) (line : StoredLine) : Except Fault Statement := do
  let (head, start) ← head line.text
  let body ← partsFrom set line ⟨start, false⟩
  return ⟨head, body⟩

theorem ofLine_eq_ok (set : InstructionSet) (line : StoredLine) :
    ofLine set line = .ok (Statement.ofLine set line.text) := by
  rw [ofLine, head_eq_ok line.fits, ok_bind]
  dsimp only
  rw [partsFrom_eq_ok]
  rfl

/-- The terms of `text` from byte `start` on, of which the part in front of `position` is read.
What is not yet read is the last argument, and `quote` is open in front of it. -/
def termsFrom (text : Text) (quote : Option Char) (start position : Nat) :
    Text → Except Fault (List (Nat × Text))
  | [] => do
    let term ← sliceFrom text start
    return [(start, term)]
  | c :: rest =>
    if quote = none ∧ isOperandSeparator c then do
      let term ← slice text start position
      let next ← add position c.utf8Size
      let following ← termsFrom text none next (position + c.utf8Size) rest
      return (start, term) :: following
    else termsFrom text (Operand.quoteAfter quote c) start (position + c.utf8Size) rest

def terms (text : Text) : Except Fault (List (Nat × Text)) := termsFrom text none 0 0 text

def operandUsages (set : InstructionSet) (number : Nat) (operand : Token) :
    Except Fault (List Usage) := do
  if isLiteral operand.text then
    return []
  else
    let placed ← terms operand.text
    (placed.filter fun (_, term) => namesSymbol set term).mapM fun (start, term) => do
      return ⟨term, number, ← add operand.offset start⟩

def usages (set : InstructionSet) (number : Nat) : List Part → Except Fault (List Usage)
  | [] => return []
  | .operand word :: rest => do
    let used ← operandUsages set number word
    let later ← usages set number rest
    return used ++ later
  | _ :: rest => usages set number rest

/-- Record the line with number `number`. -/
def addLine (set : InstructionSet) (symbols : Symbols) (number : Nat) (line : StoredLine) :
    Except Fault Symbols := do
  let statement ← ofLine set line
  let used ← usages set number statement.body
  let recorded := used.foldl Symbols.addUsage symbols
  match statement.definition? set number with
  | none => return recorded
  | some definition => return recorded.addDefinition definition

section Terms

variable {text front pending rest : Text}

/-- The reading of an operand stands behind `front` and the part of a term that is `pending`. -/
theorem termsFrom_eq_ok (fits : Text.byteLength text < UInt64.size)
    (split : text = front ++ pending ++ rest) (quote : Option Char) {term : Text}
    {following : List Text} (cut : Operand.splitTerms quote rest = term :: following) :
    termsFrom text quote (Text.byteLength front) (Text.byteLength (front ++ pending)) rest =
      .ok (Operand.placeFrom (Text.byteLength front) ((pending ++ term) :: following)) := by
  induction rest generalizing front pending quote term following with
  | nil =>
    cases cut
    rw [List.append_nil] at split
    rw [termsFrom, sliceFrom_of_split split, List.append_nil]
    rfl
  | cons c rest inductionHypothesis =>
    rw [Operand.splitTerms] at cut
    rw [termsFrom]
    have inside : Text.byteLength (front ++ pending) + c.utf8Size ≤ Text.byteLength text := by
      rw [split, Text.byteLength_append _ (c :: rest), Text.byteLength_cons]
      omega
    split at cut
    next joins =>
      cases cut
      have splitBehind : text = (front ++ pending ++ [c]) ++ [] ++ rest := by simp [split]
      have position : Text.byteLength (front ++ pending ++ [c]) =
          Text.byteLength (front ++ pending) + c.utf8Size := Text.byteLength_append _ [c]
      cases cutRest : Operand.splitTerms none rest with
      | nil => exact absurd cutRest (Operand.splitTerms_ne_nil none rest)
      | cons next others =>
        have later := inductionHypothesis splitBehind none cutRest
        rw [List.append_nil, position, List.nil_append] at later
        rw [if_pos joins, slice_of_split split, ok_bind, add_eq_ok (by omega), ok_bind, later,
          ok_bind, List.append_nil, Operand.utf8Size_of_isOperandSeparator joins.2,
          Text.byteLength_append]
        rfl
    next continues =>
      have splitBehind : text = front ++ (pending ++ [c]) ++ rest := by simp [split]
      have position : Text.byteLength (front ++ (pending ++ [c])) =
          Text.byteLength (front ++ pending) + c.utf8Size := by
        simp [Nat.add_assoc]
      cases cutRest : Operand.splitTerms (Operand.quoteAfter quote c) rest with
      | nil => exact absurd cutRest (Operand.splitTerms_ne_nil _ rest)
      | cons next others =>
        have later := inductionHypothesis splitBehind _ cutRest
        rw [cutRest] at cut
        cases cut
        rw [if_neg continues, ← position, later]
        simp

theorem terms_eq_ok (fits : Text.byteLength text < UInt64.size) :
    terms text = .ok (Operand.terms text) := by
  cases cut : Operand.splitTerms none text with
  | nil => exact absurd cut (Operand.splitTerms_ne_nil none text)
  | cons term following =>
    have whole : text = [] ++ [] ++ text := rfl
    rw [Operand.terms, cut]
    exact termsFrom_eq_ok fits whole none cut

end Terms

section Usages

variable {set : InstructionSet} {number : Nat} {line : StoredLine} {operand : Token}

theorem mapM_eq_ok {α β : Type} {read : α → Except Fault β} {value : α → β} {items : List α}
    (each : ∀ item ∈ items, read item = .ok (value item)) :
    items.mapM read = .ok (items.map value) := by
  induction items with
  | nil => rfl
  | cons item items inductionHypothesis =>
    rw [List.forall_mem_cons] at each
    rw [List.mapM_cons, each.1, ok_bind, inductionHypothesis each.2]
    rfl

/-- The offsets of the terms are positions in the line. -/
theorem operandUsages_eq_ok (stands : operand.text.StandsAt operand.offset line.text) :
    operandUsages set number operand = .ok (AsmSymbols.operandUsages set number operand) := by
  have fits : operand.offset + Text.byteLength operand.text < UInt64.size :=
    Nat.lt_of_le_of_lt stands.stop_le line.fits
  unfold operandUsages AsmSymbols.operandUsages
  split
  · rfl
  · rw [terms_eq_ok (by omega), ok_bind]
    have added : ∀ placed ∈ (Operand.terms operand.text).filter fun (_, term) =>
        namesSymbol set term, (do return ⟨placed.2, number, ← add operand.offset placed.1⟩) =
          (Except.ok ⟨placed.2, number, operand.offset + placed.1⟩ : Except Fault Usage) := by
      rintro ⟨start, term⟩ isNamed
      obtain ⟨front, back, split, position, _⟩ :=
        Operand.mem_placeFrom_splitTerms (List.mem_filter.mp isNamed).1
      have inside : start ≤ Text.byteLength operand.text := by
        rw [split]
        simp only [Text.byteLength_append]
        omega
      rw [add_eq_ok (by omega)]
      rfl
    rw [mapM_eq_ok added, ← List.filterMap_eq_map', List.filterMap_filter]
    congr 1
    apply List.filterMap_congr
    rintro ⟨start, term⟩ _
    cases skipped : term.isEmpty || isLiteral term || set.isReserved term <;>
      simp [namesSymbol, skipped]

theorem usages_eq_ok {statement : Statement}
    (stand : ∀ operand, .operand operand ∈ statement.body →
      operand.text.StandsAt operand.offset line.text) :
    usages set number statement.body = .ok (statement.usages set number) := by
  obtain ⟨head, body⟩ := statement
  induction body with
  | nil => rfl
  | cons part body inductionHypothesis =>
    have later := inductionHypothesis fun operand inBody =>
      stand operand (List.mem_cons_of_mem part inBody)
    cases part with
    | operand word =>
      rw [usages, operandUsages_eq_ok (stand word List.mem_cons_self), ok_bind, later]
      rfl
    | mnemonic | stray | unterminated => exact later

end Usages

theorem addLine_eq_ok (set : InstructionSet) (symbols : Symbols) (number : Nat)
    (line : StoredLine) :
    addLine set symbols number line = .ok (symbols.addLine set number line.text) := by
  have stand (operand : Token) (inBody : .operand operand ∈ (Statement.ofLine set line.text).body) :
      operand.text.StandsAt operand.offset line.text := (operandIn_of_mem_partsFrom inBody).stands
  rw [addLine, ofLine_eq_ok, ok_bind, usages_eq_ok stand, ok_bind, Symbols.addLine,
    Symbols.addStatement]
  cases (Statement.ofLine set line.text).definition? set number <;> rfl

end Checked

/-- Reading a line by bytes never goes wrong.  From every start a search finds its token, each line
is recorded and each text is cut into its terms without a byte read behind the end, a piece with an
end out of order, outside the text or inside a character, or a sum that no machine word holds. -/
theorem scanning_stays_in_bounds (set : InstructionSet) (symbols : Symbols) (number start : Nat)
    (line : StoredLine) :
    Checked.nextToken? start line.text = .ok (nextToken? start line.text) ∧
      Checked.addLine set symbols number line = .ok (symbols.addLine set number line.text) ∧
      Checked.terms line.text = .ok (Operand.terms line.text) :=
  ⟨Checked.nextToken?_eq_ok line.fits start, Checked.addLine_eq_ok set symbols number line,
    Checked.terms_eq_ok line.fits⟩

end AsmSymbols
