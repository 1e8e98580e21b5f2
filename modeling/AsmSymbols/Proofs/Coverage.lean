import Mathlib.Data.List.Basic
import Mathlib.Data.List.Pairwise
import AsmSymbols.Proofs.Bytes

/-!
# Tokens cover the code of a line

`Layout front rest tokens` says how the rest of a line is laid out behind what was read before:
blanks, a token, and so on, and in the end blanks up to the comment.  The scanner finds such a
layout for every line (`layout_tokens`).  That tokens stand in order, that words are as long as
they can be and that nothing but blanks lies between tokens are facts about layouts.
-/

set_option autoImplicit false

namespace AsmSymbols

/-- The search, begun at `start` and begun again at the end of each token, finds these tokens and
then no more. -/
inductive Yields (line : Text) : Nat → List Token → Prop
  | ended {start : Nat} : nextToken? start line = none → Yields line start []
  | found {start : Nat} {token : Token} {following : List Token} :
      nextToken? start line = some token → Yields line token.stop following →
        Yields line start (token :: following)

theorem yields_tokensFrom (line : Text) (start : Nat) :
    Yields line start (tokensFrom start line) := by
  cases search : nextToken? start line with
  | none =>
    rw [tokensFrom_of_none search]
    exact Yields.ended search
  | some token =>
    rw [tokensFrom_of_some search]
    exact Yields.found search (yields_tokensFrom line token.stop)
termination_by Text.byteLength line - start
decreasing_by
  have := nextToken?_bounds search
  omega

/-- Behind `front` come blanks, this token and `tail`.  A word goes on as far as it can. -/
structure Leads (front blanks : Text) (token : Token) (tail : Text) : Prop where
  blank : ∀ c ∈ blanks, isBlank c = true
  formed : token.Formed
  position : token.offset = Text.byteLength (front ++ blanks)
  ends : token.kind = .word → EndsWord tail

/-- How the rest of a line behind `front` is laid out in tokens. -/
inductive Layout : Text → Text → List Token → Prop
  | ended {front rest : Text} : (∀ c ∈ codeOf rest, isBlank c = true) → Layout front rest []
  | token {front blanks tail : Text} {token : Token} {following : List Token} :
      Leads front blanks token tail → Layout (front ++ blanks ++ token.text) tail following →
        Layout front (blanks ++ token.text ++ tail) (token :: following)

section Search

theorem endsWord_dropWhile (text : Text) : EndsWord (text.dropWhile isWordChar) := by
  intro c isHead
  have stopped := List.head?_dropWhile_not isWordChar text
  rw [Option.mem_def.mp isHead] at stopped
  exact stopped

/-- Code is blank, or it has a first token. -/
theorem blank_or_leads (front rest : Text) :
    (∀ c ∈ codeOf rest, isBlank c = true) ∨
      ∃ blanks token tail, rest = blanks ++ token.text ++ tail ∧
        Leads front blanks token tail := by
  induction rest generalizing front with
  | nil => exact Or.inl (by simp [codeOf])
  | cons c rest inductionHypothesis =>
    by_cases comment : c = ';'
    · exact Or.inl (by simp [codeOf, comment])
    by_cases blank : isBlank c = true
    · rcases inductionHypothesis (front ++ [c]) with onlyBlanks | ⟨blanks, token, tail, rfl, leads⟩
      · refine Or.inl ?_
        have kept : codeOf (c :: rest) = c :: codeOf rest := by simp [codeOf, comment]
        rw [kept]
        exact List.forall_mem_cons.mpr ⟨blank, onlyBlanks⟩
      · refine Or.inr ⟨c :: blanks, token, tail, rfl, ?_, leads.formed, ?_, leads.ends⟩
        · exact List.forall_mem_cons.mpr ⟨blank, leads.blank⟩
        · simpa using leads.position
    refine Or.inr ⟨[], ?_⟩
    by_cases colon : c = ':'
    · subst colon
      exact ⟨⟨[':'], Text.byteLength front, .separator⟩, rest, rfl, by simp, rfl, by simp, by simp⟩
    · have inWord : isWordChar c = true :=
        isWordChar_iff.mpr ⟨by simpa using blank, colon, comment⟩
      refine ⟨⟨c :: rest.takeWhile isWordChar, Text.byteLength front, .word⟩,
        rest.dropWhile isWordChar, by simp, by simp, ⟨by simp, ?_⟩, by simp, ?_⟩
      · exact List.forall_mem_cons.mpr ⟨inWord, fun d inRest => List.mem_takeWhile_imp inRest⟩
      · exact fun _ => endsWord_dropWhile rest

theorem Token.Formed.noSemicolon {token : Token} (formed : token.Formed) : ';' ∉ token.text := by
  cases kind : token.kind with
  | separator =>
    have isColon : token.text = [':'] := by simpa [Formed, kind] using formed
    simp [isColon]
  | word => exact semicolon_notMem_word (Token.word_spec formed kind).2

variable {front blanks rest tail : Text} {token : Token}

theorem Leads.noSemicolon (leads : Leads front blanks token tail) (plain : ';' ∉ front) :
    ';' ∉ front ++ blanks ++ token.text := by
  simp [plain, semicolon_notMem_blanks leads.blank, leads.formed.noSemicolon]

theorem Leads.stop_eq (leads : Leads front blanks token tail) :
    token.stop = Text.byteLength (front ++ blanks ++ token.text) := by
  rw [Text.byteLength_append, Token.stop, leads.position]

theorem Leads.nextToken? (leads : Leads front blanks token tail) (plain : ';' ∉ front) :
    nextToken? (Text.byteLength front) (front ++ (blanks ++ token.text ++ tail)) = some token := by
  obtain ⟨text, offset, kind⟩ := token
  obtain ⟨blank, formed, rfl, ends⟩ := leads
  have plainBoth : ';' ∉ front ++ blanks := by simp [plain, semicolon_notMem_blanks blank]
  have whole : front ++ (blanks ++ text ++ tail) = front ++ blanks ++ (text ++ tail) := by simp
  rw [nextToken?_blanks whole plain blank]
  cases kind with
  | separator =>
    have isColon : text = [':'] := formed
    subst isColon
    exact nextToken?_colon whole plainBoth
  | word =>
    obtain ⟨nonempty, inWord⟩ := formed
    rw [← List.append_assoc (front ++ blanks)] at whole
    exact nextToken?_word whole plainBoth nonempty inWord (ends rfl)

theorem nextToken?_of_blank (blank : ∀ c ∈ codeOf rest, isBlank c = true) (plain : ';' ∉ front) :
    nextToken? (Text.byteLength front) (front ++ rest) = none := by
  have skipped := firstToken?_blanks blank (Text.byteLength front) []
  rw [List.append_nil] at skipped
  rw [nextToken?_append plain, skipped]
  rfl

end Search

/-- What the search yields is the layout of the line. -/
theorem layout_of_yields {line : Text} {start : Nat} {found : List Token}
    (yields : Yields line start found) {front rest : Text} (whole : line = front ++ rest)
    (plain : ';' ∉ front) (position : start = Text.byteLength front) :
    Layout front rest found := by
  subst whole position
  generalize sameLine : front ++ rest = line, samePosition : Text.byteLength front = start at yields
  induction yields generalizing front rest with
  | ended search =>
    subst sameLine samePosition
    rcases blank_or_leads front rest with blank | ⟨blanks, token, tail, rfl, leads⟩
    · exact Layout.ended blank
    · rw [leads.nextToken? plain] at search
      cases search
  | found search _ inductionHypothesis =>
    subst samePosition
    rcases blank_or_leads front rest with blank | ⟨blanks, token, tail, rfl, leads⟩
    · rw [← sameLine, nextToken?_of_blank blank plain] at search
      cases search
    · rw [← sameLine, leads.nextToken? plain] at search
      cases search
      refine Layout.token leads
        (inductionHypothesis (leads.noSemicolon plain) ?_ leads.stop_eq.symm)
      rw [← sameLine]
      simp

theorem layout_tokens (line : Text) : Layout [] line (tokens line) :=
  layout_of_yields (yields_tokensFrom line 0) rfl (by simp) rfl

section Order

variable {front rest : Text} {found : List Token}

theorem Layout.offset_ge (layout : Layout front rest found) :
    ∀ token ∈ found, Text.byteLength front ≤ token.offset := by
  induction layout with
  | ended _ => simp
  | token leads _ inductionHypothesis =>
    have position := leads.position
    have stops := leads.stop_eq
    simp only [Text.byteLength_append] at position inductionHypothesis
    refine List.forall_mem_cons.mpr ⟨by omega, ?_⟩
    intro later inFollowing
    have := inductionHypothesis later inFollowing
    omega

/-- No token begins before the one in front of it has ended. -/
theorem Layout.pairwise (layout : Layout front rest found) :
    found.Pairwise fun first second => first.stop ≤ second.offset := by
  induction layout with
  | ended _ => exact List.Pairwise.nil
  | token leads following inductionHypothesis =>
    refine List.pairwise_cons.mpr ⟨?_, inductionHypothesis⟩
    intro later inFollowing
    rw [leads.stop_eq]
    exact following.offset_ge later inFollowing

end Order

/-- A word can start behind `front`: there is nothing in front of it, or something that no word can
hold. -/
def StartsWord (front : Text) : Prop := ∀ c ∈ front.getLast?, isWordChar c = false

/-- The token stands in the code of `line`, and if it is a word, nothing can be added to it at
either side. -/
structure Sits (line : Text) (token : Token) : Prop where
  formed : token.Formed
  split : ∃ before after, line = before ++ token.text ++ after ∧ ';' ∉ before ∧
    token.offset = Text.byteLength before ∧
    (token.kind = .word → StartsWord before ∧ EndsWord after)

section Words

variable {front blanks rest tail : Text} {token : Token} {found : List Token}

theorem startsWord_concat {c : Char} (outside : isWordChar c = false) :
    StartsWord (front ++ [c]) := by
  intro last isLast
  rw [List.getLast?_concat, Option.mem_def, Option.some.injEq] at isLast
  rw [← isLast, outside]

/-- A word that follows blanks, or a place where no word goes on, starts there. -/
theorem Leads.startsWord (leads : Leads front blanks token tail) (isWord : token.kind = .word)
    (fresh : StartsWord front ∨ EndsWord (blanks ++ token.text ++ tail)) :
    StartsWord (front ++ blanks) := by
  rcases List.eq_nil_or_concat' blanks with rfl | ⟨blanks, last, rfl⟩
  · rw [List.append_nil]
    rcases fresh with starts | ends
    · exact starts
    · -- the word itself would go on from here
      obtain ⟨nonempty, inWord⟩ := Token.word_spec leads.formed isWord
      obtain ⟨c, text, split⟩ := List.exists_cons_of_ne_nil nonempty
      have outside := ends c (by simp [split])
      rw [inWord c (by simp [split])] at outside
      cases outside
  · have blank := leads.blank last (by simp)
    rw [← List.append_assoc]
    exact startsWord_concat (by simp [isWordChar, blank])

/-- Behind a token either a word can start, or the token is a word that ends there. -/
theorem Leads.fresh (leads : Leads front blanks token tail) :
    StartsWord (front ++ blanks ++ token.text) ∨ EndsWord tail := by
  cases kind : token.kind with
  | separator =>
    have isColon : token.text = [':'] := by simpa [Token.Formed, kind] using leads.formed
    rw [isColon]
    exact Or.inl (startsWord_concat (by decide))
  | word => exact Or.inr (leads.ends kind)

theorem Layout.sits (layout : Layout front rest found) (plain : ';' ∉ front)
    (fresh : StartsWord front ∨ EndsWord rest) : ∀ token ∈ found, Sits (front ++ rest) token := by
  induction layout with
  | ended _ => simp
  | @token front blanks tail token following leads _ inductionHypothesis =>
    have whole : front ++ (blanks ++ token.text ++ tail) =
        front ++ blanks ++ token.text ++ tail := by simp
    refine List.forall_mem_cons.mpr ⟨⟨leads.formed, front ++ blanks, tail, whole, ?_,
      leads.position, fun isWord => ⟨leads.startsWord isWord fresh, leads.ends isWord⟩⟩, ?_⟩
    · simp [plain, semicolon_notMem_blanks leads.blank]
    · rw [whole]
      exact inductionHypothesis (leads.noSemicolon plain) leads.fresh

theorem sits_of_mem_tokens {line : Text} (inTokens : token ∈ tokens line) : Sits line token :=
  (layout_tokens line).sits (by simp) (Or.inl (by simp [StartsWord])) token inTokens

end Words

section Bytes

variable {front rest line : Text} {token : Token} {found : List Token} {position : Nat}
  {byte : UInt8}

/-- A byte of code that is not blank lies in a token. -/
theorem Layout.covers (layout : Layout front rest found) (plain : ';' ∉ front)
    (behind : Text.byteLength front ≤ position)
    (inCode : position < Text.byteLength (codeOf (front ++ rest)))
    (atPosition : (Text.bytes (front ++ rest))[position]? = some byte)
    (visible : isBlankByte byte = false) :
    ∃ token ∈ found, token.offset ≤ position ∧ position < token.stop := by
  induction layout with
  | @ended front rest blank =>
    obtain ⟨comment, split⟩ := codeOf_prefix rest
    rw [codeOf_append plain] at inCode
    have whole : front ++ rest = front ++ codeOf rest ++ comment := by
      rw [List.append_assoc, ← split]
    rw [whole] at atPosition
    have inBytes := Text.mem_bytes_of_getElem? atPosition behind inCode
    rw [isBlankByte_of_blanks blank inBytes] at visible
    cases visible
  | @token front blanks tail token following leads _ inductionHypothesis =>
    have whole : front ++ (blanks ++ token.text ++ tail) =
        front ++ blanks ++ (token.text ++ tail) := by simp
    by_cases inBlanks : position < Text.byteLength (front ++ blanks)
    · rw [whole] at atPosition
      have inBytes := Text.mem_bytes_of_getElem? atPosition behind inBlanks
      rw [isBlankByte_of_blanks leads.blank inBytes] at visible
      cases visible
    by_cases inToken : position < token.stop
    · exact ⟨token, List.mem_cons_self, by rw [leads.position]; omega, inToken⟩
    rw [← List.append_assoc (front ++ blanks)] at whole
    rw [whole] at inCode atPosition
    rw [leads.stop_eq, Nat.not_lt] at inToken
    obtain ⟨later, inFollowing, covered⟩ :=
      inductionHypothesis (leads.noSemicolon plain) inToken inCode atPosition
    exact ⟨later, List.mem_cons_of_mem _ inFollowing, covered⟩

/-- The byte in front of a place where a word can start ends a word. -/
theorem StartsWord.endsWordByte {before after : Text} (starts : StartsWord before)
    (lastByte : position + 1 = Text.byteLength before)
    (atPosition : (Text.bytes (before ++ after))[position]? = some byte) :
    endsWordByte byte = true := by
  rcases List.eq_nil_or_concat' before with rfl | ⟨front, c, rfl⟩
  · cases lastByte
  · have positive := c.utf8Size_pos
    have outside := starts c (by simp)
    have behind : Text.byteLength front ≤ position := by
      simp only [Text.byteLength_append, Text.byteLength_cons, Text.byteLength_nil] at lastByte
      omega
    have inBytes := Text.mem_bytes_of_getElem? atPosition behind (by omega)
    obtain ⟨d, isLast, inBytes⟩ := Text.mem_bytes.mp inBytes
    rw [List.mem_singleton] at isLast
    rw [endsWordByte_of_mem inBytes, isLast, outside]
    rfl

/-- The byte behind a word ends it. -/
theorem EndsWord.endsWordByte {before after : Text} (ends : EndsWord after)
    (atPosition : (Text.bytes (before ++ after))[Text.byteLength before]? = some byte) :
    endsWordByte byte = true := by
  cases after with
  | nil => simp [← Text.length_bytes] at atPosition
  | cons c after =>
    have positive := c.utf8Size_pos
    have outside := ends c (by simp)
    rw [List.append_cons] at atPosition
    have inBytes := Text.mem_bytes_of_getElem? atPosition (Nat.le_refl _) (by simp; omega)
    obtain ⟨d, isFirst, inBytes⟩ := Text.mem_bytes.mp inBytes
    rw [List.mem_singleton] at isFirst
    rw [endsWordByte_of_mem inBytes, isFirst, outside]
    rfl

end Bytes

/-- A token of a line, told by bytes. -/
structure TokenIn (line : Text) (token : Token) : Prop where
  stands : token.text.StandsAt token.offset line
  slice : (Text.bytes line).extract token.offset token.stop = Text.bytes token.text
  nonempty : token.offset < token.stop
  inCode : token.stop ≤ commentStart line
  separator : token.kind = .separator → token.text = [':']
  word : token.kind = .word → ∀ byte ∈ Text.bytes token.text, endsWordByte byte = false
  /-- The byte in front of a word, if there is one, cannot belong to it. -/
  before : token.kind = .word → ∀ position byte, position + 1 = token.offset →
    (Text.bytes line)[position]? = some byte → endsWordByte byte = true
  /-- Nor can the byte behind it. -/
  after : token.kind = .word → ∀ byte, (Text.bytes line)[token.stop]? = some byte →
    endsWordByte byte = true

theorem tokenIn_of_mem_tokens {line : Text} {token : Token} (inTokens : token ∈ tokens line) :
    TokenIn line token := by
  obtain ⟨formed, before, after, whole, plain, position, limits⟩ := sits_of_mem_tokens inTokens
  have stands : token.text.StandsAt token.offset line := ⟨before, after, whole, position.symm⟩
  have plainBoth : ';' ∉ before ++ token.text := by simp [plain, formed.noSemicolon]
  have stops : token.stop = Text.byteLength (before ++ token.text) := by
    rw [Text.byteLength_append, Token.stop, position]
  refine ⟨stands, stands.extract_bytes, ?_, ?_, ?_, ?_, ?_, ?_⟩
  · cases kind : token.kind with
    | separator =>
      have isColon : token.text = [':'] := by simpa [Token.Formed, kind] using formed
      simp [Token.stop, isColon, Char.utf8Size_pos]
    | word =>
      have := Text.byteLength_pos_of_ne_nil (Token.word_spec formed kind).1
      rw [Token.stop]
      omega
  · rw [commentStart_eq, whole, codeOf_append plainBoth, stops, Text.byteLength_append _ (codeOf _)]
    exact Nat.le_add_right _ _
  · intro isSeparator
    simpa [Token.Formed, isSeparator] using formed
  · intro isWord byte inBytes
    exact endsWordByte_of_word (Token.word_spec formed isWord).2 inBytes
  · intro isWord last byte isLast atLast
    rw [whole, List.append_assoc] at atLast
    rw [position] at isLast
    exact (limits isWord).1.endsWordByte isLast atLast
  · intro isWord byte atStop
    rw [whole, stops] at atStop
    exact (limits isWord).2.endsWordByte atStop

/-- Two tokens do not overlap. -/
def Token.Apart (first second : Token) : Prop :=
  first.stop ≤ second.offset ∨ second.stop ≤ first.offset

/-- The search for tokens comes to an end on every line.  Its tokens stand in order and in front of
the comment, words are as long as they can be, and every byte of the code that is not blank lies in
exactly one of them. -/
theorem tokens_cover_code (line : Text) :
    Yields line 0 (tokens line) ∧
      (tokens line).Pairwise (fun first second => first.stop ≤ second.offset) ∧
      (∀ token ∈ tokens line, TokenIn line token) ∧
      ∀ position byte, position < commentStart line →
        (Text.bytes line)[position]? = some byte → isBlankByte byte = false →
          ∃! token, token ∈ tokens line ∧ token.offset ≤ position ∧ position < token.stop := by
  have layout := layout_tokens line
  refine ⟨yields_tokensFrom line 0, layout.pairwise, fun _ => tokenIn_of_mem_tokens, ?_⟩
  intro position byte inCode atPosition visible
  rw [commentStart_eq] at inCode
  obtain ⟨token, inTokens, starts, stops⟩ :=
    layout.covers (by simp) (Nat.zero_le _) inCode atPosition visible
  refine ⟨token, ⟨inTokens, starts, stops⟩, ?_⟩
  rintro other ⟨otherInTokens, otherStarts, otherStops⟩
  -- of two different tokens one would end before the other begins
  by_contra differs
  have : Std.Symm Token.Apart := ⟨fun _ _ => Or.symm⟩
  have apart : (tokens line).Pairwise Token.Apart := layout.pairwise.imp Or.inl
  rcases apart.forall otherInTokens inTokens differs with inFront | behind
  · omega
  · omega

end AsmSymbols
