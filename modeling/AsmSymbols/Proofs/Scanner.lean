import Mathlib.Data.List.TakeWhile
import AsmSymbols.Statement

/-!
# What the scanner finds

`Text.StandsAt` says that a piece stands in a text at a byte.  Every token stands in the code of its
line, at or behind the start of its search, and is one terminator or a whole word
(`nextToken?_spec`).  The other way round, a search that starts behind a piece of code depends only
on what follows it (`nextToken?_append`), so a line can be read piece by piece.
-/

set_option autoImplicit false

namespace AsmSymbols

namespace Text

/-- `piece` stands in `text`, and its first byte is byte `offset`. -/
def StandsAt (piece : Text) (offset : Nat) (text : Text) : Prop :=
  ∃ front back, text = front ++ piece ++ back ∧ byteLength front = offset

theorem StandsAt.stop_le {piece text : Text} {offset : Nat} (stands : piece.StandsAt offset text) :
    offset + byteLength piece ≤ byteLength text := by
  obtain ⟨front, back, rfl, rfl⟩ := stands
  simp only [byteLength_append]
  omega

theorem StandsAt.append_right {piece text : Text} {offset : Nat}
    (stands : piece.StandsAt offset text) (more : Text) :
    piece.StandsAt offset (text ++ more) := by
  obtain ⟨front, back, rfl, rfl⟩ := stands
  exact ⟨front, back ++ more, by simp, rfl⟩

theorem StandsAt.trans {piece middle text : Text} {inner outer : Nat}
    (inMiddle : piece.StandsAt inner middle) (inText : middle.StandsAt outer text) :
    piece.StandsAt (outer + inner) text := by
  obtain ⟨front, back, rfl, rfl⟩ := inMiddle
  obtain ⟨before, after, rfl, rfl⟩ := inText
  exact ⟨before ++ front, back ++ after, by simp, by simp⟩

end Text

section Code

theorem codeOf_prefix (line : Text) : ∃ comment, line = codeOf line ++ comment :=
  ⟨line.dropWhile (· != ';'), List.takeWhile_append_dropWhile.symm⟩

theorem semicolon_notMem_codeOf (line : Text) : ';' ∉ codeOf line := by
  intro inCode
  have := List.mem_takeWhile_imp inCode
  simp at this

theorem codeOf_append {front : Text} (plain : ';' ∉ front) (rest : Text) :
    codeOf (front ++ rest) = front ++ codeOf rest := by
  unfold codeOf
  apply List.takeWhile_append_of_pos
  intro c inFront
  have differs : c ≠ ';' := fun equality => plain (equality ▸ inFront)
  simpa using differs

theorem codeOf_of_plain {code : Text} (plain : ';' ∉ code) : codeOf code = code := by
  have whole := codeOf_append plain []
  rw [List.append_nil] at whole
  exact whole.trans (List.append_nil code)

theorem codeOf_commented {code : Text} (plain : ';' ∉ code) (comment : Text) :
    codeOf (code ++ ';' :: comment) = code := by
  rw [codeOf_append plain]
  exact List.append_nil code

theorem Text.StandsAt.of_codeOf {piece line : Text} {offset : Nat}
    (stands : piece.StandsAt offset (codeOf line)) : piece.StandsAt offset line := by
  obtain ⟨comment, split⟩ := codeOf_prefix line
  have whole := stands.append_right comment
  rwa [← split] at whole

end Code

section Words

theorem isWordChar_iff {c : Char} :
    isWordChar c = true ↔ isBlank c = false ∧ c ≠ ':' ∧ c ≠ ';' := by
  simp [isWordChar, and_assoc]

/-- A text that ends the word in front of it: nothing, or something that no word can hold. -/
def EndsWord (text : Text) : Prop := ∀ c ∈ text.head?, isWordChar c = false

theorem takeWhile_isWordChar {word rest : Text} (inWord : ∀ c ∈ word, isWordChar c = true)
    (ends : EndsWord rest) : (word ++ rest).takeWhile isWordChar = word := by
  rw [List.takeWhile_append_of_pos inWord]
  cases rest with
  | nil => simp
  | cons c rest => simp [ends c rfl]

end Words

/-- A token is one terminator, or a non-empty run of characters that words can hold. -/
def Token.Formed (token : Token) : Prop :=
  match token.kind with
  | .separator => token.text = [':']
  | .word => token.text ≠ [] ∧ ∀ c ∈ token.text, isWordChar c = true

section Search

theorem firstToken?_spec {position : Nat} {code : Text} {token : Token} (plain : ';' ∉ code)
    (found : firstToken? position code = some token) :
    token.Formed ∧ ∃ skipped, token.offset = position + Text.byteLength skipped ∧
      ∃ rest, code = skipped ++ token.text ++ rest := by
  induction code generalizing position with
  | nil => simp [firstToken?] at found
  | cons c code inductionHypothesis =>
    simp only [List.mem_cons, not_or] at plain
    rw [firstToken?] at found
    split at found
    next blank =>
      obtain ⟨formed, skipped, offset, rest, split⟩ := inductionHypothesis plain.2 found
      refine ⟨formed, c :: skipped, ?_, rest, by simp [split]⟩
      rw [offset, Text.byteLength_cons, Nat.add_assoc]
    next visible =>
      split at found
      next colon =>
        cases found
        exact ⟨by simpa [Token.Formed] using colon, [], rfl, code, rfl⟩
      next noColon =>
        cases found
        refine ⟨⟨by simp, ?_⟩, [], rfl, code.dropWhile isWordChar, ?_⟩
        · intro d inWord
          rcases List.mem_cons.mp inWord with rfl | inRest
          · exact isWordChar_iff.mpr ⟨by simpa using visible, by simpa using noColon,
              fun equality => plain.1 equality.symm⟩
          · exact List.mem_takeWhile_imp inRest
        · simp

/-- A token that is found stands in the code of its line, not in front of the start. -/
theorem nextToken?_spec {start : Nat} {line : Text} {token : Token}
    (found : nextToken? start line = some token) :
    token.Formed ∧ token.text.StandsAt token.offset (codeOf line) ∧ start ≤ token.offset := by
  have bounds := nextToken?_bounds found
  unfold nextToken? at found
  obtain ⟨front, split⟩ := Text.dropBytes_suffix start (codeOf line)
  have plain : ';' ∉ Text.dropBytes start (codeOf line) := by
    intro inRest
    apply semicolon_notMem_codeOf line
    rw [← split]
    exact List.mem_append_right front inRest
  have measured := congrArg Text.byteLength split
  rw [Text.byteLength_append] at measured
  obtain ⟨formed, skipped, offset, rest, code⟩ := firstToken?_spec plain found
  refine ⟨formed, ⟨front ++ skipped, rest, ?_, ?_⟩, bounds.1⟩
  · rw [← split, code]
    simp
  · rw [Text.byteLength_append, offset]
    omega

theorem Token.word_spec {token : Token} (formed : token.Formed) (word : token.kind = .word) :
    token.text ≠ [] ∧ ∀ c ∈ token.text, isWordChar c = true := by
  simpa [Formed, word] using formed

/-- Behind a piece of code the search sees only what follows. -/
theorem nextToken?_append {front : Text} (plain : ';' ∉ front) (rest : Text) :
    nextToken? (Text.byteLength front) (front ++ rest) =
      firstToken? (Text.byteLength front) (codeOf rest) := by
  unfold nextToken?
  simp only [codeOf_append plain, Text.dropBytes_append, Text.byteLength_append]
  congr 1
  omega

theorem firstToken?_blanks {blanks : Text} (blank : ∀ c ∈ blanks, isBlank c = true)
    (position : Nat) (rest : Text) :
    firstToken? position (blanks ++ rest) =
      firstToken? (position + Text.byteLength blanks) rest := by
  induction blanks generalizing position with
  | nil => simp
  | cons c blanks inductionHypothesis =>
    simp only [List.mem_cons, forall_eq_or_imp] at blank
    rw [List.cons_append, firstToken?, if_pos blank.1, inductionHypothesis blank.2,
      Text.byteLength_cons, Nat.add_assoc]

theorem firstToken?_word {word rest : Text} (nonempty : word ≠ [])
    (inWord : ∀ c ∈ word, isWordChar c = true) (ends : EndsWord rest) (position : Nat) :
    firstToken? position (word ++ rest) = some ⟨word, position, .word⟩ := by
  cases word with
  | nil => exact absurd rfl nonempty
  | cons c word =>
    simp only [List.mem_cons, forall_eq_or_imp] at inWord
    obtain ⟨notBlank, notColon, _⟩ := isWordChar_iff.mp inWord.1
    rw [List.cons_append, firstToken?, takeWhile_isWordChar inWord.2 ends]
    simp [notBlank, notColon]

theorem semicolon_notMem_blanks {blanks : Text} (blank : ∀ c ∈ blanks, isBlank c = true) :
    ';' ∉ blanks := fun inBlanks => absurd (blank _ inBlanks) (by decide)

theorem semicolon_notMem_word {word : Text} (inWord : ∀ c ∈ word, isWordChar c = true) :
    ';' ∉ word := fun isIn => absurd (inWord _ isIn) (by decide)

variable {text front tail : Text}

/-- Blanks in front of a token make no difference. -/
theorem nextToken?_blanks {blanks : Text} (split : text = front ++ blanks ++ tail)
    (plain : ';' ∉ front) (blank : ∀ c ∈ blanks, isBlank c = true) :
    nextToken? (Text.byteLength front) text =
      nextToken? (Text.byteLength (front ++ blanks)) text := by
  have plainBlanks := semicolon_notMem_blanks blank
  have plainBoth : ';' ∉ front ++ blanks := by simp [plain, plainBlanks]
  rw [split, nextToken?_append plainBoth, List.append_assoc, nextToken?_append plain,
    codeOf_append plainBlanks, firstToken?_blanks blank, Text.byteLength_append]

theorem nextToken?_word {word : Text} (split : text = front ++ word ++ tail)
    (plain : ';' ∉ front) (nonempty : word ≠ []) (inWord : ∀ c ∈ word, isWordChar c = true)
    (ends : EndsWord tail) :
    nextToken? (Text.byteLength front) text = some ⟨word, Text.byteLength front, .word⟩ := by
  have endsCode : EndsWord (codeOf tail) := by
    intro c isHead
    apply ends c
    cases tail with
    | nil => exact isHead
    | cons d tail =>
      by_cases comment : d = ';'
      · simp [codeOf, comment] at isHead
      · simpa [codeOf, comment] using isHead
  rw [split, List.append_assoc, nextToken?_append plain,
    codeOf_append (semicolon_notMem_word inWord), firstToken?_word nonempty inWord endsCode]

theorem nextToken?_colon (split : text = front ++ ':' :: tail) (plain : ';' ∉ front) :
    nextToken? (Text.byteLength front) text = some ⟨[':'], Text.byteLength front, .separator⟩ := by
  rw [split, nextToken?_append plain]
  rfl

/-- Only a comment is left. -/
theorem nextToken?_comment (split : text = front ++ tail) (plain : ';' ∉ front)
    (comment : codeOf tail = []) : nextToken? (Text.byteLength front) text = none := by
  rw [split, nextToken?_append plain, comment]
  rfl

/-- A token that starts with a character of a word is a word. -/
theorem nextToken?_isSome_word {c : Char} (split : text = front ++ c :: tail)
    (plain : ';' ∉ front) (inWord : isWordChar c = true) :
    ∃ token, nextToken? (Text.byteLength front) text = some token ∧ token.kind = .word := by
  obtain ⟨notBlank, notColon, notComment⟩ := isWordChar_iff.mp inWord
  rw [split, nextToken?_append plain]
  refine ⟨⟨c :: (codeOf tail).takeWhile isWordChar, Text.byteLength front, .word⟩, ?_, rfl⟩
  have kept : codeOf (c :: tail) = c :: codeOf tail := by simp [codeOf, notComment]
  rw [kept, firstToken?]
  simp [notBlank, notColon]

end Search

section Tokens

theorem tokensFrom_of_none {start : Nat} {line : Text} (ended : nextToken? start line = none) :
    tokensFrom start line = [] := by
  rw [tokensFrom]
  split
  · rfl
  next found => rw [ended] at found; cases found

theorem tokensFrom_of_some {start : Nat} {line : Text} {token : Token}
    (found : nextToken? start line = some token) :
    tokensFrom start line = token :: tokensFrom token.stop line := by
  rw [tokensFrom]
  split
  next ended => rw [found] at ended; cases ended
  next other foundOther =>
    rw [found] at foundOther
    cases foundOther
    rfl

/-- The second token of a line is found from the end of the first. -/
theorem second_token_found {line : Text} {first second : Token} {rest : List Token}
    (scanned : tokens line = first :: second :: rest) :
    nextToken? first.stop line = some second := by
  unfold tokens at scanned
  cases firstFound : nextToken? 0 line with
  | none => simp [tokensFrom_of_none firstFound] at scanned
  | some token =>
    rw [tokensFrom_of_some firstFound] at scanned
    obtain ⟨rfl, scannedRest⟩ := List.cons.inj scanned
    cases secondFound : nextToken? token.stop line with
    | none => simp [tokensFrom_of_none secondFound] at scannedRest
    | some other =>
      rw [tokensFrom_of_some secondFound] at scannedRest
      obtain ⟨rfl, _⟩ := List.cons.inj scannedRest
      rfl

end Tokens

/-- The label of a line: its first token, if that is a word and a terminator is the second. -/
def labelOf? (line : Text) : Option Token :=
  match tokens line with
  | first :: second :: _ =>
    if first.kind = .word ∧ second.kind = .separator then some first else none
  | _ => none

theorem labelOf?_eq_some_iff {line : Text} {word : Token} :
    labelOf? line = some word ↔
      ∃ colon rest, tokens line = word :: colon :: rest ∧ word.kind = .word ∧
        colon.kind = .separator := by
  unfold labelOf?
  constructor
  · intro found
    split at found
    next first second rest scanned =>
      split at found
      next kinds =>
        cases found
        exact ⟨second, rest, scanned, kinds⟩
      next => cases found
    next => cases found
  · rintro ⟨colon, rest, scanned, isWord, isSeparator⟩
    rw [scanned]
    exact if_pos ⟨isWord, isSeparator⟩

/-- A statement begins with the label that the tokens of its line show, if any, and then its body
starts behind the terminator. -/
theorem head_ofLine_eq_label_iff {line : Text} {word : Token} {start : Nat} :
    Head.ofLine line = (.label word, start) ↔
      ∃ colon rest, tokens line = word :: colon :: rest ∧ word.kind = .word ∧
        colon.kind = .separator ∧ colon.stop = start := by
  unfold Head.ofLine tokens
  cases firstFound : nextToken? 0 line with
  | none => simp [tokensFrom_of_none firstFound]
  | some first =>
    rw [tokensFrom_of_some firstFound]
    cases secondFound : nextToken? first.stop line with
    | none =>
      simp only [tokensFrom_of_none secondFound]
      split <;> simp [secondFound]
    | some second =>
      rw [tokensFrom_of_some secondFound]
      cases firstKind : first.kind with
      | separator =>
        refine ⟨fun found => by simp [Token.isSeparator, firstKind] at found, ?_⟩
        rintro ⟨colon, rest, scanned, isWord, _⟩
        cases scanned
        rw [firstKind] at isWord
        cases isWord
      | word =>
        cases secondKind : second.kind with
        | word => simp [Token.isSeparator, firstKind, secondFound, secondKind]
        | separator =>
          simp only [Token.isSeparator, firstKind, secondFound, secondKind, List.cons.injEq]
          constructor
          · rintro ⟨⟩
            exact ⟨second, _, ⟨rfl, rfl, rfl⟩, firstKind, secondKind, rfl⟩
          · rintro ⟨colon, rest, ⟨rfl, rfl, rfl⟩, _, _, rfl⟩
            rfl

theorem head_ofLine_fst_eq_label_iff {line : Text} {word : Token} :
    (Head.ofLine line).1 = .label word ↔ labelOf? line = some word := by
  rw [labelOf?_eq_some_iff]
  constructor
  · intro begins
    obtain ⟨colon, rest, scanned, isWord, isSeparator, _⟩ :=
      head_ofLine_eq_label_iff.mp (Prod.ext begins rfl)
    exact ⟨colon, rest, scanned, isWord, isSeparator⟩
  · rintro ⟨colon, rest, scanned, isWord, isSeparator⟩
    rw [head_ofLine_eq_label_iff.mpr ⟨colon, rest, scanned, isWord, isSeparator, rfl⟩]

end AsmSymbols
