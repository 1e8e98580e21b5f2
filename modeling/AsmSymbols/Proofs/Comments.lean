import AsmSymbols.Proofs.Placement

/-!
# Comments record nothing

Tokens come from code alone, so a comment could reach a statement in one way only: a word that
leaves a quote open is continued to the next such quote of the whole line, comment included.  While
every quote of the code is closed by the code, no continuation gets that far
(`Token.closeQuote?_append`), and the statement is the same with and without the comment.
-/

set_option autoImplicit false

namespace AsmSymbols

/-- No word of the statement opens a quote that its line never closes. -/
def Statement.closesQuotes (statement : Statement) : Bool :=
  statement.body.all fun
    | .unterminated _ => false
    | _ => true

section Code

variable {line other code : Text}

/-- The search depends on the code of the line only. -/
theorem nextToken?_congr (same : codeOf line = codeOf other) (start : Nat) :
    nextToken? start line = nextToken? start other := by
  simp only [nextToken?, same]

theorem codeOf_comment_eq (plain : ';' ∉ code) (comment : Text) :
    codeOf (code ++ ';' :: comment) = codeOf code := by
  rw [codeOf_commented plain, codeOf_of_plain plain]

theorem headOfLine_congr (same : codeOf line = codeOf other) :
    Head.ofLine line = Head.ofLine other := by
  simp only [Head.ofLine, nextToken?_congr same]

end Code

section Continuation

variable {line text : Text} {token closed : Token} {quote : Char}

theorem takeWhile_upTo_append (found : quote ∈ text) (more : Text) :
    (text ++ more).takeWhile (· != quote) = text.takeWhile (· != quote) := by
  obtain ⟨after, split⟩ := split_at_quote found
  conv => lhs; rw [split]
  rw [List.append_assoc, List.takeWhile_append_of_pos (fun c => List.mem_takeWhile_imp)]
  simp

/-- A word that the line closes is continued in the same way when the line goes on. -/
theorem Token.closeQuote?_append (stands : token.text.StandsAt token.offset line)
    (found : token.closeQuote? quote line = some closed) (more : Text) :
    token.closeQuote? quote (line ++ more) = some closed := by
  obtain ⟨front, back, split, position⟩ := stands
  have rest : Text.dropBytes token.stop line = back := by
    rw [Token.stop, ← position]
    exact dropBytes_of_standsAt split
  have restOfAll : Text.dropBytes token.stop (line ++ more) = back ++ more := by
    rw [Token.stop, ← position]
    apply dropBytes_of_standsAt
    rw [split, List.append_assoc]
  simp only [Token.closeQuote?, rest, Option.ite_none_right_eq_some] at found
  obtain ⟨inBack, same⟩ := found
  have inAll : quote ∈ back ++ more := List.mem_append_left more inBack
  simp only [Token.closeQuote?, restOfAll, if_pos inAll, takeWhile_upTo_append inBack]
  exact same

end Continuation

section Reading

variable {set : InstructionSet} {code : Text} {cursor following : Cursor} {part : Part}

/-- A token of the code makes the same part when a comment follows, unless it opens a quote that
the code does not close. -/
theorem Cursor.classify_append {named : Bool} {token : Token}
    (stands : token.text.StandsAt token.offset code)
    (classified : classify set code named token = (part, following))
    (closes : ∀ offset, part ≠ .unterminated offset) (more : Text) :
    classify set (code ++ more) named token = (part, following) := by
  unfold classify at classified ⊢
  split at classified
  · exact classified
  · split at classified
    next isMnemonic => rw [if_pos isMnemonic, classified]
    next isOperand =>
      rw [if_neg isOperand]
      split at classified
      · exact classified
      · split at classified
        · cases classified
          exact absurd rfl (closes _)
        next found =>
          rw [Token.closeQuote?_append stands found]
          exact classified

theorem Cursor.next?_comment_of_none (plain : ';' ∉ code) (ended : cursor.next? set code = none)
    (comment : Text) : cursor.next? set (code ++ ';' :: comment) = none := by
  rw [next?, Option.map_eq_none_iff] at ended ⊢
  rw [nextToken?_congr (codeOf_comment_eq plain comment), ended]

theorem Cursor.next?_comment_of_some (plain : ';' ∉ code)
    (found : cursor.next? set code = some (part, following))
    (closes : ∀ offset, part ≠ .unterminated offset) (comment : Text) :
    cursor.next? set (code ++ ';' :: comment) = some (part, following) := by
  obtain ⟨token, scanned, classified⟩ := Option.map_eq_some_iff.mp found
  have stands := (nextToken?_spec scanned).2.1.of_codeOf
  rw [next?, nextToken?_congr (codeOf_comment_eq plain comment), scanned, Option.map_some,
    classify_append stands classified closes]

theorem partsFrom_comment (plain : ';' ∉ code) (cursor : Cursor)
    (closes : ∀ offset, .unterminated offset ∉ partsFrom set code cursor) (comment : Text) :
    partsFrom set (code ++ ';' :: comment) cursor = partsFrom set code cursor := by
  refine partsFrom_induction (motive := fun cursor parts =>
    (∀ offset, .unterminated offset ∉ parts) →
      partsFrom set (code ++ ';' :: comment) cursor = parts) ?_ ?_ cursor closes
  · intro cursor ended _
    exact partsFrom_of_none (Cursor.next?_comment_of_none plain ended comment)
  · intro cursor following part rest found inductionHypothesis closes
    have closesHere : ∀ offset, part ≠ .unterminated offset := by
      intro offset equality
      apply closes offset
      rw [equality]
      exact List.mem_cons_self
    have closesRest : ∀ offset, .unterminated offset ∉ rest := fun offset inRest =>
      closes offset (List.mem_cons_of_mem part inRest)
    rw [partsFrom_of_some (Cursor.next?_comment_of_some plain found closesHere comment),
      inductionHypothesis closesRest]

theorem Statement.ofLine_comment (plain : ';' ∉ code)
    (closes : (Statement.ofLine set code).closesQuotes = true) (comment : Text) :
    Statement.ofLine set (code ++ ';' :: comment) = Statement.ofLine set code := by
  have sameHead := headOfLine_congr (codeOf_comment_eq plain comment)
  have noOpenQuote : ∀ offset, .unterminated offset ∉ (Statement.ofLine set code).body := by
    intro offset inBody
    have := List.all_eq_true.mp closes _ inBody
    cases this
  unfold Statement.ofLine at noOpenQuote ⊢
  rw [sameHead, partsFrom_comment plain _ noOpenQuote]

end Reading

/-- A comment behind code that closes its quotes changes nothing that a line records, whatever was
recorded before. -/
theorem Symbols.addLine_ignores_comment (set : InstructionSet) (symbols : Symbols) (line : Nat)
    (code comment : Text) (plain : ';' ∉ code)
    (closes : (Statement.ofLine set code).closesQuotes = true) :
    symbols.addLine set line (code ++ ';' :: comment) = symbols.addLine set line code := by
  unfold addLine
  rw [Statement.ofLine_comment plain closes]

/-- A comment with a quote, a label and an instruction, behind an operand that the scanner cuts at a
blank. -/
theorem Symbols.addLine_ignores_quote_in_comment :
    let code : Text := "L: COPY 'a b',X".toList
    let comment : Text := " isn't; M: LOAD 'Y".toList
    (';' ∉ code ∧ (Statement.ofLine .standard code).closesQuotes = true) ∧
      ∀ symbols : Symbols, symbols.addLine .standard 3 (code ++ ';' :: comment) =
        symbols.addLine .standard 3 code := by
  intro code comment
  have plain : ';' ∉ code := by decide
  have closes : (Statement.ofLine .standard code).closesQuotes = true := by decide +kernel
  exact ⟨⟨plain, closes⟩, fun symbols =>
    addLine_ignores_comment .standard symbols 3 code comment plain closes⟩

/-- Where the code leaves a quote open, the comment can close it. -/
example : Statement.ofLine .standard "LOAD 'A".toList ≠
    Statement.ofLine .standard "LOAD 'A;',B".toList := by decide +kernel

end AsmSymbols
