import Mathlib.Order.Bounds.Defs
import AsmSymbols.Proofs.Coverage

/-!
# A search can begin anywhere

A search that begins at any byte takes the line up at the next character boundary, and from there
it sees what a scan of the whole line sees: a layout of the line can be cut at every boundary of the
code (`Layout.cut`), and what is left of it is again a layout.  A cut inside a word leaves the rest
of that word; any other cut leaves whole tokens.  Where the code ends does not depend on where the
search begins, so behind it there is nothing to find.
-/

set_option autoImplicit false

namespace AsmSymbols

namespace Text

/-- A byte position where a character begins, or the end of the text. -/
def IsBoundary (text : Text) (position : Nat) : Prop :=
  ∃ front back, text = front ++ back ∧ byteLength front = position

/-- A search begun at `start` takes the text up at `point`: at the first boundary that is not in
front of `start`, and past the end at `start` itself. -/
def TakenUpAt (text : Text) (start point : Nat) : Prop :=
  if start ≤ byteLength text then
    IsLeast {position | start ≤ position ∧ text.IsBoundary position} point
  else point = start

/-- `front` is the shortest beginning that reaches byte `start`. -/
structure Reaches (front : Text) (start : Nat) : Prop where
  reaches : start ≤ byteLength front
  shortest : ∀ shorter more, front = shorter ++ more → more ≠ [] → byteLength shorter < start

variable {front back text : Text} {c : Char} {start : Nat}

theorem reaches_nil : Reaches [] 0 where
  reaches := Nat.le_refl 0
  shortest _ _ split nonempty := absurd (List.append_eq_nil_iff.mp split.symm).2 nonempty

theorem reaches_cons :
    Reaches (c :: front) start ↔ 0 < start ∧ Reaches front (start - c.utf8Size) := by
  constructor
  · rintro ⟨reaches, shortest⟩
    have positive : 0 < start := shortest [] (c :: front) rfl (by simp)
    rw [byteLength_cons] at reaches
    refine ⟨positive, by omega, ?_⟩
    intro shorter more split nonempty
    have := shortest (c :: shorter) more (by rw [split, List.cons_append]) nonempty
    rw [byteLength_cons] at this
    omega
  · rintro ⟨positive, reaches, shortest⟩
    refine ⟨by rw [byteLength_cons]; omega, ?_⟩
    intro shorter more split nonempty
    cases shorter with
    | nil => exact positive
    | cons d shorter =>
      obtain ⟨rfl, splitRest⟩ := List.cons.inj split
      have := shortest shorter more splitRest nonempty
      rw [byteLength_cons]
      omega

theorem exists_reaches (inside : start ≤ byteLength text) :
    ∃ front back, text = front ++ back ∧ Reaches front start := by
  induction text generalizing start with
  | nil =>
    obtain rfl : start = 0 := Nat.le_zero.mp inside
    exact ⟨[], [], rfl, reaches_nil⟩
  | cons c text inductionHypothesis =>
    by_cases atStart : start = 0
    · subst atStart
      exact ⟨[], c :: text, rfl, reaches_nil⟩
    · rw [byteLength_cons] at inside
      have further : start - c.utf8Size ≤ byteLength text := by omega
      obtain ⟨front, back, rfl, reaches⟩ := inductionHypothesis further
      exact ⟨c :: front, back, rfl, reaches_cons.mpr ⟨Nat.pos_of_ne_zero atStart, reaches⟩⟩

/-- Dropping bytes drops the shortest beginning that has as many. -/
theorem dropBytes_of_reaches (reached : Reaches front start) (back : Text) :
    dropBytes start (front ++ back) = back := by
  induction front generalizing start with
  | nil =>
    obtain rfl : start = 0 := Nat.le_zero.mp reached.reaches
    exact dropBytes_zero back
  | cons c front inductionHypothesis =>
    obtain ⟨positive, reached⟩ := reaches_cons.mp reached
    obtain ⟨start, rfl⟩ := Nat.exists_eq_succ_of_ne_zero (Nat.ne_of_gt positive)
    exact inductionHypothesis reached

theorem takenUpAt_of_reaches (reached : Reaches front start) (back : Text) :
    (front ++ back).TakenUpAt start (byteLength front) := by
  have inside : start ≤ byteLength (front ++ back) := by
    have := reached.reaches
    rw [byteLength_append]
    omega
  rw [TakenUpAt, if_pos inside]
  refine ⟨⟨reached.reaches, front, back, rfl, rfl⟩, ?_⟩
  rintro position ⟨behind, shorter, rest, split, rfl⟩
  rcases List.append_eq_append_iff.mp split with ⟨more, rfl, _⟩ | ⟨more, rfl, _⟩
  · simp
  · by_cases whole : more = []
    · simp [whole]
    · have := reached.shortest shorter more rfl whole
      omega

end Text

section Search

variable {front line : Text} {start point : Nat}

/-- The search goes on from the boundary. -/
theorem nextToken?_of_reaches (reached : front.Reaches start) (plain : ';' ∉ front)
    (rest : Text) :
    nextToken? start (front ++ rest) = nextToken? (Text.byteLength front) (front ++ rest) := by
  unfold nextToken?
  simp only [codeOf_append plain, Text.dropBytes_of_reaches reached, Text.dropBytes_append]

/-- Where the comment begins in front of the boundary, it begins in front of the start. -/
theorem codeOf_lt_of_reaches (reached : front.Reaches start) (commented : ';' ∈ front)
    (rest : Text) : Text.byteLength (codeOf (front ++ rest)) < start := by
  rcases codeOf_split front with whole | ⟨comment, split⟩
  · rw [whole] at commented
    exact absurd commented (semicolon_notMem_codeOf front)
  · have sameCode : codeOf (front ++ rest) = codeOf front := by
      conv => lhs; rw [split]
      rw [List.append_assoc]
      exact codeOf_commented (semicolon_notMem_codeOf front) (comment ++ rest)
    rw [sameCode]
    exact reached.shortest (codeOf front) (';' :: comment) split (by simp)

theorem nextToken?_behind_code (behind : Text.byteLength (codeOf line) ≤ start) :
    nextToken? start line = none := by
  cases search : nextToken? start line with
  | none => rfl
  | some token =>
    have bounds := nextToken?_bounds search
    have inCode := (nextToken?_spec search).2.1.stop_le
    rw [Token.stop] at bounds
    omega

/-- The tokens depend on the start only through the first of them. -/
theorem tokensFrom_congr (same : nextToken? start line = nextToken? point line) :
    tokensFrom start line = tokensFrom point line := by
  cases search : nextToken? point line with
  | none => rw [tokensFrom_of_none search, tokensFrom_of_none (same.trans search)]
  | some token => rw [tokensFrom_of_some search, tokensFrom_of_some (same.trans search)]

theorem nextToken?_eq_head? (start : Nat) (line : Text) :
    nextToken? start line = (tokensFrom start line).head? := by
  cases search : nextToken? start line with
  | none => rw [tokensFrom_of_none search, List.head?_nil]
  | some token => rw [tokensFrom_of_some search, List.head?_cons]

end Search

/-- What is left of the tokens of a line when it is cut at byte `point`. -/
inductive CutAt (point : Nat) : List Token → List Token → Prop
  | between {earlier later : List Token} : (∀ token ∈ earlier, token.stop ≤ point) →
      (∀ token ∈ later, point ≤ token.offset) → CutAt point (earlier ++ later) later
  | inside {earlier later : List Token} {token : Token} {kept rest : Text} :
      token.text = kept ++ rest → kept ≠ [] → rest ≠ [] →
        point = token.offset + Text.byteLength kept →
          CutAt point (earlier ++ token :: later) (⟨rest, point, .word⟩ :: later)

section Cut

variable {front before after blanks rest tail kept : Text} {token : Token}
  {found following left : List Token} {point : Nat}

/-- In front of all tokens a cut leaves them all. -/
theorem CutAt.whole (behind : ∀ token ∈ found, point ≤ token.offset) : CutAt point found found := by
  rw [← List.nil_append found]
  exact CutAt.between (by simp) behind

theorem CutAt.cons (stops : token.stop ≤ point) (cut : CutAt point following left) :
    CutAt point (token :: following) left := by
  cases cut with
  | between inFront behind =>
    exact CutAt.between (List.forall_mem_cons.mpr ⟨stops, inFront⟩) behind
  | @inside earlier later cutToken kept rest split keptSome restSome position =>
    rw [← List.cons_append]
    exact CutAt.inside split keptSome restSome position

theorem Layout.tokensFrom (layout : Layout front rest found) (plain : ';' ∉ front) :
    tokensFrom (Text.byteLength front) (front ++ rest) = found := by
  induction layout with
  | ended blank => exact tokensFrom_of_none (nextToken?_of_blank blank plain)
  | @token front blanks tail token following leads _ inductionHypothesis =>
    rw [tokensFrom_of_some (leads.nextToken? plain), leads.stop_eq]
    have whole : front ++ (blanks ++ token.text ++ tail) =
        front ++ blanks ++ token.text ++ tail := by simp
    rw [whole, inductionHypothesis (leads.noSemicolon plain)]

/-- A cut in the blanks in front of a token leaves the token. -/
theorem Leads.cut_blanks (leads : Leads front (before ++ blanks) token tail) :
    Leads (front ++ before) blanks token tail where
  blank c inBlanks := leads.blank c (List.mem_append_right before inBlanks)
  formed := leads.formed
  position := by rw [leads.position, List.append_assoc]
  ends := leads.ends

/-- A token that is cut is a word, and so is what is left of it. -/
theorem Leads.cut_word (leads : Leads front blanks token tail) (split : token.text = kept ++ rest)
    (keptSome : kept ≠ []) (restSome : rest ≠ []) :
    Leads (front ++ (blanks ++ kept)) []
      ⟨rest, Text.byteLength (front ++ (blanks ++ kept)), .word⟩ tail := by
  cases kind : token.kind with
  | separator =>
    have isColon : token.text = [':'] := by simpa [Token.Formed, kind] using leads.formed
    have short := congrArg List.length (isColon.symm.trans split)
    have := List.length_pos_iff.mpr keptSome
    have := List.length_pos_iff.mpr restSome
    simp only [List.length_singleton, List.length_append] at short
    omega
  | word =>
    have inWord := (Token.word_spec leads.formed kind).2
    rw [split] at inWord
    refine ⟨by simp, ⟨restSome, ?_⟩, by simp, fun _ => leads.ends kind⟩
    intro c inRest
    exact inWord c (List.mem_append_right kept inRest)

/-- A cut in front of the first token, or in it, or at its end. -/
theorem Leads.cut {more : Text} (leads : Leads front blanks token tail)
    (layout : Layout (front ++ blanks ++ token.text) tail following)
    (split : blanks ++ token.text = before ++ more) :
    ∃ left, CutAt (Text.byteLength (front ++ before)) (token :: following) left ∧
      Layout (front ++ before) (more ++ tail) left := by
  rcases List.append_eq_append_iff.mp split with ⟨kept, rfl, inText⟩ | ⟨spare, rfl, rfl⟩
  · by_cases keptNone : kept = []
    · subst keptNone
      rw [List.nil_append] at inText
      subst inText
      have leadsHere : Leads (front ++ (blanks ++ [])) [] token tail := by
        apply Leads.cut_blanks
        rwa [List.append_nil, List.append_nil]
      have layoutHere : Layout (front ++ (blanks ++ [])) (token.text ++ tail)
          (token :: following) := Layout.token leadsHere (by simpa using layout)
      exact ⟨token :: following, CutAt.whole layoutHere.offset_ge, layoutHere⟩
    by_cases moreNone : more = []
    · subst moreNone
      rw [List.append_nil] at inText
      rw [List.nil_append, ← inText, ← List.append_assoc]
      refine ⟨following, CutAt.cons ?_ (CutAt.whole layout.offset_ge), layout⟩
      rw [leads.stop_eq]
    · have leadsHere := leads.cut_word inText keptNone moreNone
      have whole : front ++ blanks ++ token.text = front ++ (blanks ++ kept) ++ [] ++ more := by
        simp [inText]
      rw [whole] at layout
      refine ⟨_, ?_, Layout.token leadsHere layout⟩
      rw [← List.nil_append (token :: following)]
      apply CutAt.inside inText keptNone moreNone
      rw [leads.position, ← Text.byteLength_append, List.append_assoc]
  · have whole : front ++ (before ++ spare) ++ token.text =
        front ++ before ++ spare ++ token.text := by simp
    rw [whole] at layout
    have layoutHere := Layout.token leads.cut_blanks layout
    exact ⟨token :: following, CutAt.whole layoutHere.offset_ge, layoutHere⟩

/-- A layout can be cut at any boundary of the code. -/
theorem Layout.cut (layout : Layout front rest found) (split : rest = before ++ after)
    (plain : ';' ∉ before) :
    ∃ left, CutAt (Text.byteLength (front ++ before)) found left ∧
      Layout (front ++ before) after left := by
  induction layout generalizing before after with
  | @ended front rest blank =>
    subst split
    rw [codeOf_append plain] at blank
    refine ⟨[], CutAt.whole (by simp), Layout.ended ?_⟩
    intro c inCode
    exact blank c (List.mem_append_right before inCode)
  | @token front blanks tail token following leads layout inductionHypothesis =>
    rcases List.append_eq_append_iff.mp split with ⟨more, rfl, rfl⟩ | ⟨more, inToken, rfl⟩
    · -- behind the token the cut goes through what follows
      have plainMore : ';' ∉ more := fun inMore => plain (List.mem_append_right _ inMore)
      obtain ⟨left, cut, layout⟩ := inductionHypothesis rfl plainMore
      have whole : front ++ (blanks ++ token.text ++ more) =
          front ++ blanks ++ token.text ++ more := by simp
      rw [whole]
      refine ⟨left, cut.cons ?_, layout⟩
      rw [leads.stop_eq, Text.byteLength_append _ more]
      exact Nat.le_add_right _ _
    · exact leads.cut layout inToken

end Cut

section Restart

variable {line : Text} {start point : Nat} {found earlier later left : List Token} {token : Token}

/-- Tokens do not overlap, so at most one of them lies around a position. -/
theorem split_unique {otherEarlier otherLater : List Token} {other : Token}
    (ordered : found.Pairwise fun first second => first.stop ≤ second.offset)
    (split : found = earlier ++ token :: later) (starts : token.offset < point)
    (stops : point < token.stop) (otherSplit : found = otherEarlier ++ other :: otherLater)
    (otherStarts : other.offset < point) (otherStops : point < other.stop) :
    token = other ∧ later = otherLater := by
  subst split
  rw [List.pairwise_append, List.pairwise_cons] at ordered
  rcases List.append_eq_append_iff.mp otherSplit with ⟨more, rfl, rest⟩ | ⟨more, rfl, rest⟩
  · cases more with
    | nil =>
      obtain ⟨rfl, rfl⟩ := List.cons.inj rest
      exact ⟨rfl, rfl⟩
    | cons first more =>
      -- the other token would come behind this one
      obtain ⟨rfl, rfl⟩ := List.cons.inj rest
      have := ordered.2.1.1 other (by simp)
      omega
  · cases more with
    | nil =>
      obtain ⟨rfl, rfl⟩ := List.cons.inj rest
      exact ⟨rfl, rfl⟩
    | cons first more =>
      -- the other token would come in front of this one
      obtain ⟨rfl, rfl⟩ := List.cons.inj rest
      have := ordered.2.2 other (by simp) token (by simp)
      omega

theorem CutAt.in_token (cut : CutAt point found left)
    (ordered : found.Pairwise fun first second => first.stop ≤ second.offset)
    (split : found = earlier ++ token :: later) (starts : token.offset < point)
    (stops : point < token.stop) :
    ∃ kept rest, token.text = kept ++ rest ∧ point = token.offset + Text.byteLength kept ∧
      left = ⟨rest, point, .word⟩ :: later := by
  cases cut with
  | between inFront behind =>
    exfalso
    have inFound : token ∈ earlier ++ token :: later := by simp
    rw [← split] at inFound
    rcases List.mem_append.mp inFound with isInFront | isBehind
    · have := inFront token isInFront
      omega
    · have := behind token isBehind
      omega
  | @inside before after cutToken kept rest inText keptSome restSome position =>
    have keptLength := Text.byteLength_pos_of_ne_nil keptSome
    have restLength := Text.byteLength_pos_of_ne_nil restSome
    have cutStops : point < cutToken.stop := by
      rw [Token.stop, inText, Text.byteLength_append]
      omega
    obtain ⟨rfl, rfl⟩ := split_unique ordered split starts stops rfl (by omega) cutStops
    exact ⟨kept, rest, inText, position, rfl⟩

theorem dropWhile_of_between (inFront : ∀ token ∈ earlier, token.offset < point)
    (behind : ∀ token ∈ later, point ≤ token.offset) :
    (earlier ++ later).dropWhile (fun token => token.offset < point) = later := by
  rw [List.dropWhile_append_of_pos (by simpa using inFront)]
  cases later with
  | nil => rfl
  | cons first later =>
    have notInFront := behind first List.mem_cons_self
    simp [Nat.not_lt.mpr notInFront]

theorem find?_of_between (inFront : ∀ token ∈ earlier, token.offset < point)
    (behind : ∀ token ∈ later, point ≤ token.offset) :
    (earlier ++ later).find? (fun token => point ≤ token.offset) = later.head? := by
  have noneInFront : earlier.find? (fun token => point ≤ token.offset) = none := by
    rw [List.find?_eq_none]
    intro token inEarlier
    simpa using inFront token inEarlier
  rw [List.find?_append, noneInFront, Option.none_or]
  cases later with
  | nil => rfl
  | cons first later => simp [behind first List.mem_cons_self]

theorem CutAt.outside_tokens (cut : CutAt point found left)
    (nonempty : ∀ token ∈ found, token.offset < token.stop)
    (outside : ∀ token ∈ found, ¬ (token.offset < point ∧ point < token.stop)) :
    left.head? = found.find? (fun token => point ≤ token.offset) ∧
      left = found.dropWhile fun token => token.offset < point := by
  cases cut with
  | @between earlier _ inFront behind =>
    have offsetInFront : ∀ token ∈ earlier, token.offset < point := by
      intro token inEarlier
      have := inFront token inEarlier
      have := nonempty token (List.mem_append_left _ inEarlier)
      omega
    rw [find?_of_between offsetInFront behind, dropWhile_of_between offsetInFront behind]
    exact ⟨rfl, rfl⟩
  | @inside before after cutToken kept rest inText keptSome restSome position =>
    exfalso
    have keptLength := Text.byteLength_pos_of_ne_nil keptSome
    have restLength := Text.byteLength_pos_of_ne_nil restSome
    apply outside cutToken (by simp)
    rw [Token.stop, inText, Text.byteLength_append]
    omega

theorem cutAt_behind_code (behind : Text.byteLength (codeOf line) ≤ start)
    (further : start ≤ point) : CutAt point (tokens line) (tokensFrom start line) := by
  rw [tokensFrom_of_none (nextToken?_behind_code behind), ← List.append_nil (tokens line)]
  refine CutAt.between ?_ (by simp)
  intro token inTokens
  have inCode := (tokenIn_of_mem_tokens inTokens).inCode
  rw [commentStart_eq] at inCode
  omega

/-- A search begun at `start` finds what the cut at the next boundary leaves of the tokens. -/
theorem cutAt_tokensFrom (line : Text) (start : Nat) :
    ∃ point, line.TakenUpAt start point ∧ CutAt point (tokens line) (tokensFrom start line) := by
  by_cases inside : start ≤ Text.byteLength line
  · obtain ⟨front, rest, rfl, reached⟩ := Text.exists_reaches inside
    refine ⟨Text.byteLength front, Text.takenUpAt_of_reaches reached rest, ?_⟩
    by_cases plain : ';' ∉ front
    · obtain ⟨left, cut, layout⟩ := (layout_tokens (front ++ rest)).cut rfl plain
      rw [List.nil_append] at cut layout
      rw [tokensFrom_congr (nextToken?_of_reaches reached plain rest), layout.tokensFrom plain]
      exact cut
    · have short := codeOf_lt_of_reaches reached (not_not.mp plain) rest
      exact cutAt_behind_code (Nat.le_of_lt short) reached.reaches
  · have pastEnd : line.TakenUpAt start start := by rw [Text.TakenUpAt, if_neg inside]
    refine ⟨start, pastEnd, cutAt_behind_code ?_ (Nat.le_refl start)⟩
    have := byteLength_codeOf_le line
    omega

/-- What the cut leaves of a word is a slice of the line. -/
theorem extract_of_cut {kept rest : Text} (inTokens : token ∈ tokens line)
    (split : token.text = kept ++ rest) (position : point = token.offset + Text.byteLength kept) :
    Text.bytes rest = (Text.bytes line).extract point token.stop := by
  have inText : rest.StandsAt (Text.byteLength kept) token.text :=
    ⟨kept, [], by rw [split, List.append_nil], rfl⟩
  have stands := inText.trans (tokenIn_of_mem_tokens inTokens).stands
  have stops : token.stop = point + Text.byteLength rest := by
    rw [Token.stop, split, Text.byteLength_append, position, Nat.add_assoc]
  rw [stops, position]
  exact stands.extract_bytes.symm

/-- A search can begin at any byte, and takes the line up at the next character boundary.  Where
this boundary lies inside a token, the search finds the rest of it as a word; anywhere else it finds
the next token.  The tokens behind that one are in both cases those of the whole line. -/
theorem search_restarts_anywhere (line : Text) (start : Nat) :
    ∃ point, line.TakenUpAt start point ∧
      (∀ earlier token later, tokens line = earlier ++ token :: later →
        token.offset < point → point < token.stop →
          ∃ word : Token, word.kind = .word ∧ word.offset = point ∧
            Text.bytes word.text = (Text.bytes line).extract point token.stop ∧
            nextToken? start line = some word ∧ tokensFrom start line = word :: later) ∧
      ((∀ token ∈ tokens line, ¬ (token.offset < point ∧ point < token.stop)) →
        nextToken? start line = (tokens line).find? (fun token => point ≤ token.offset) ∧
          tokensFrom start line =
            (tokens line).dropWhile fun token => token.offset < point) := by
  obtain ⟨point, takenUp, cut⟩ := cutAt_tokensFrom line start
  refine ⟨point, takenUp, ?_, ?_⟩
  · intro earlier token later split starts stops
    have inTokens : token ∈ tokens line := by
      rw [split]
      exact List.mem_append_right earlier List.mem_cons_self
    obtain ⟨kept, rest, inText, position, left⟩ :=
      cut.in_token (layout_tokens line).pairwise split starts stops
    refine ⟨⟨rest, point, .word⟩, rfl, rfl, extract_of_cut inTokens inText position, ?_, left⟩
    rw [nextToken?_eq_head?, left, List.head?_cons]
  · intro outside
    rw [nextToken?_eq_head?]
    exact cut.outside_tokens (fun token inTokens => (tokenIn_of_mem_tokens inTokens).nonempty)
      outside

example : nextToken? 6 "LOAD É1; x".toList = some ⟨['1'], 7, .word⟩ := by decide

end Restart

end AsmSymbols
