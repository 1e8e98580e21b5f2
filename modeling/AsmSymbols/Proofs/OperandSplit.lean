import AsmSymbols.Proofs.Placement

/-!
# The exact cut of an operand

The terms of an operand, put together again with the joining characters between them, give the
operand back.  `WellCut` says what makes such a way of putting a text together the right one: every
term but the last closes its quotes, and no term holds a joining character outside quotes.  Every
text can be put together so (`exists_wellCut`), and the cut finds just that way
(`splitTerms_joined`).

`IsSplit` says the same of a list of placed pieces, without reference to how it was found.
-/

set_option autoImplicit false

namespace AsmSymbols.Operand

/-- Terms put together, each but the first behind its joining character. -/
def joined (first : Text) (following : List (Char × Text)) : Text :=
  first ++ following.flatMap fun link => link.1 :: link.2

/-- The pieces of `text`, with their places, if it is cut at every joining character outside quotes
and nowhere else. -/
structure IsSplit (text : Text) (pieces : List (Nat × Text)) : Prop where
  /-- There is a first piece, and it stands at the start. -/
  start : pieces.head?.map Prod.fst = some 0
  increasing : pieces.Pairwise fun first second => first.1 < second.1
  /-- Each piece is what stands at its place, and the quotes in front of it are closed. -/
  stands : ∀ placed ∈ pieces, ∃ front back, text = front ++ placed.2 ++ back ∧
    Text.byteLength front = placed.1 ∧ openQuote? front = none
  /-- Between a piece and the next stands one joining character and nothing else. -/
  adjacent : pieces.IsChain fun first second =>
    second.1 = first.1 + Text.byteLength first.2 + 1 ∧
      ∃ joint, isOperandSeparator joint = true ∧
        Text.StandsAt [joint] (first.1 + Text.byteLength first.2) text
  rejoined : ∃ first following, pieces.map Prod.snd = first :: following.map Prod.snd ∧
    (∀ link ∈ following, isOperandSeparator link.1 = true) ∧ text = joined first following
  uncut : ∀ placed ∈ pieces, Uncut none placed.2
  closed : ∀ placed ∈ pieces.dropLast, openQuote? placed.2 = none
  /-- The last piece leaves the quote open that the text leaves open. -/
  ending : ∀ last ∈ pieces.getLast?, openQuote? last.2 = openQuote? text

/-- Terms that are put together so that a cut takes them apart again. -/
inductive WellCut : Text → List (Char × Text) → Prop
  | last {term : Text} : Uncut none term → WellCut term []
  | cut {first term : Text} {joint : Char} {following : List (Char × Text)} :
      Uncut none first → openQuote? first = none → isOperandSeparator joint = true →
        WellCut term following → WellCut first ((joint, term) :: following)

section Joining

variable {text front first : Text} {following : List (Char × Text)}

theorem joined_nil (first : Text) : joined first [] = first := List.append_nil first

theorem joined_cons (first : Text) (joint : Char) (term : Text) (following : List (Char × Text)) :
    joined first ((joint, term) :: following) = first ++ joint :: joined term following := by
  simp [joined]

/-- Every text is put together so. -/
theorem exists_wellCut (text : Text) :
    ∃ first following, WellCut first following ∧ text = joined first following := by
  rcases splitTerms_cases none text with
    ⟨_, uncut⟩ | ⟨first, joint, rest, split, joins, uncut, closed, _⟩
  · exact ⟨text, [], .last uncut, (joined_nil text).symm⟩
  · obtain ⟨term, following, wellCut, rejoined⟩ := exists_wellCut rest
    refine ⟨first, (joint, term) :: following, .cut uncut closed joins wellCut, ?_⟩
    rw [joined_cons, ← rejoined, split]
termination_by text.length
decreasing_by
  rw [split, List.length_append, List.length_cons]
  omega

namespace WellCut

theorem splitTerms_joined (wellCut : WellCut first following) :
    splitTerms none (joined first following) = first :: following.map Prod.snd := by
  induction wellCut with
  | last uncut => rw [joined_nil, splitTerms_of_uncut uncut, List.map_nil]
  | cut uncut closed joins _ inductionHypothesis =>
    rw [joined_cons, splitTerms_append_joint closed joins, splitTerms_of_uncut uncut,
      inductionHypothesis]
    rfl

theorem joints (wellCut : WellCut first following) :
    ∀ link ∈ following, isOperandSeparator link.1 = true := by
  induction wellCut with
  | last => simp
  | cut _ _ joins _ inductionHypothesis =>
    exact List.forall_mem_cons.mpr ⟨joins, inductionHypothesis⟩

theorem closed (wellCut : WellCut first following) :
    ∀ term ∈ (first :: following.map Prod.snd).dropLast, openQuote? term = none := by
  induction wellCut with
  | last => simp
  | cut _ closed _ _ inductionHypothesis =>
    exact List.forall_mem_cons.mpr ⟨closed, inductionHypothesis⟩

/-- A joining character behind closed quotes leaves them closed, so the last term alone decides. -/
theorem ending (wellCut : WellCut first following) :
    ∀ last ∈ (first :: following.map Prod.snd).getLast?,
      openQuote? last = openQuote? (joined first following) := by
  induction wellCut with
  | last => simp [joined_nil]
  | @cut first term joint following _ closed joins _ inductionHypothesis =>
    have behind := openQuote?_append_of_closed (openQuote?_concat_joint closed joins)
      (joined term following)
    rw [List.append_assoc] at behind
    rw [joined_cons]
    intro last isLast
    exact (inductionHypothesis last isLast).trans behind.symm

/-- In a text that goes on behind `front`, a joining character stands behind each term but the
last. -/
theorem adjacent (wellCut : WellCut first following)
    (split : text = front ++ joined first following) :
    (placeFrom (Text.byteLength front) (first :: following.map Prod.snd)).IsChain
      fun before after => after.1 = before.1 + Text.byteLength before.2 + 1 ∧
        ∃ joint, isOperandSeparator joint = true ∧
          Text.StandsAt [joint] (before.1 + Text.byteLength before.2) text := by
  induction wellCut generalizing front with
  | last => exact .singleton _
  | @cut first term joint following _ _ joins _ inductionHypothesis =>
    rw [joined_cons] at split
    have position : Text.byteLength (front ++ first ++ [joint]) =
        Text.byteLength front + Text.byteLength first + 1 := by
      simp [utf8Size_of_isOperandSeparator joins, Nat.add_assoc]
    have later := @inductionHypothesis (front ++ first ++ [joint]) (by simp [split])
    rw [position] at later
    refine .cons_cons ⟨rfl, joint, joins, front ++ first, joined term following, ?_, ?_⟩ later
    · simp [split]
    · rw [Text.byteLength_append]

end WellCut

/-- Terms that close their quotes, all but the last, and hold no cut are well put together. -/
theorem wellCut_of_terms (joints : ∀ link ∈ following, isOperandSeparator link.1 = true)
    (uncut : ∀ term ∈ first :: following.map Prod.snd, Uncut none term)
    (closed : ∀ term ∈ (first :: following.map Prod.snd).dropLast, openQuote? term = none) :
    WellCut first following := by
  induction following generalizing first with
  | nil => exact .last (uncut first List.mem_cons_self)
  | cons link following inductionHypothesis =>
    rw [List.map_cons, List.forall_mem_cons] at uncut
    rw [List.map_cons, List.dropLast_cons_cons, List.forall_mem_cons] at closed
    rw [List.forall_mem_cons] at joints
    exact .cut uncut.1 closed.1 joints.1 (inductionHypothesis joints.2 uncut.2 closed.2)

end Joining

section Places

variable {text : Text} {pieces : List (Nat × Text)} {offset : Nat}

theorem map_snd_placeFrom (offset : Nat) (terms : List Text) :
    (placeFrom offset terms).map Prod.snd = terms := by
  induction terms generalizing offset with
  | nil => rfl
  | cons term terms inductionHypothesis =>
    rw [placeFrom, List.map_cons, inductionHypothesis]

/-- Where the first piece starts, and that each starts one byte behind the one before, says where
all pieces stand. -/
theorem eq_placeFrom (start : pieces.head?.map Prod.fst = some offset)
    (adjacent : pieces.IsChain fun first second =>
      second.1 = first.1 + Text.byteLength first.2 + 1) :
    pieces = placeFrom offset (pieces.map Prod.snd) := by
  induction pieces generalizing offset with
  | nil => rfl
  | cons first pieces inductionHypothesis =>
    cases start
    rw [List.map_cons, placeFrom]
    congr 1
    cases pieces with
    | nil => rfl
    | cons second pieces =>
      obtain ⟨next, later⟩ := List.isChain_cons_cons.mp adjacent
      exact inductionHypothesis (by rw [List.head?_cons, Option.map_some, next]) later

/-- Nothing but the terms of a text is an exact cut of it. -/
theorem IsSplit.eq_terms (split : IsSplit text pieces) : pieces = terms text := by
  obtain ⟨first, following, texts, joints, rejoined⟩ := split.rejoined
  have uncut : ∀ term ∈ pieces.map Prod.snd, Uncut none term :=
    List.forall_mem_map.mpr split.uncut
  have closed : ∀ term ∈ (pieces.map Prod.snd).dropLast, openQuote? term = none := by
    rw [← List.map_dropLast]
    exact List.forall_mem_map.mpr split.closed
  rw [texts] at uncut closed
  have wellCut := wellCut_of_terms joints uncut closed
  rw [terms, rejoined, wellCut.splitTerms_joined, ← texts]
  exact eq_placeFrom split.start (split.adjacent.imp fun _ _ next => next.1)

theorem isSplit_terms (text : Text) : IsSplit text (terms text) := by
  obtain ⟨first, following, wellCut, rejoined⟩ := exists_wellCut text
  have placed : terms text = placeFrom 0 (first :: following.map Prod.snd) := by
    rw [terms, rejoined, wellCut.splitTerms_joined]
  have texts : (terms text).map Prod.snd = first :: following.map Prod.snd := by
    rw [placed, map_snd_placeFrom]
  refine ⟨?_, ?_, ?_, ?_, ⟨first, following, texts, wellCut.joints, rejoined⟩, ?_, ?_, ?_⟩
  · rw [placed]
    rfl
  · refine (placeFrom_pairwise 0 _).imp ?_
    intro before after apart
    omega
  · rintro ⟨start, piece⟩ isPiece
    obtain ⟨front, back, split, position, closed, _⟩ := mem_placeFrom_splitTerms isPiece
    exact ⟨front, back, split, by rw [position, Nat.zero_add], closed⟩
  · have whole : text = [] ++ joined first following := rejoined
    rw [placed]
    exact wellCut.adjacent whole
  · rintro ⟨start, piece⟩ isPiece
    obtain ⟨_, _, _, _, _, _, uncut⟩ := mem_placeFrom_splitTerms isPiece
    exact uncut
  · intro piece inFront
    apply wellCut.closed
    rw [← texts, ← List.map_dropLast]
    exact List.mem_map_of_mem inFront
  · intro last isLast
    rw [rejoined]
    apply wellCut.ending
    rw [← texts, List.getLast?_map]
    exact Option.mem_map_of_mem _ isLast

/-- Where a whole text closes its quotes, each of its terms does. -/
theorem closed_of_mem_terms (closed : openQuote? text = none) :
    ∀ placed ∈ terms text, openQuote? placed.2 = none := by
  rintro ⟨start, term⟩ isTerm
  obtain ⟨front, back, split, _, closedFront, ends | closedTerm, _⟩ :=
    mem_placeFrom_splitTerms isTerm
  · rw [split, ends, List.append_nil, openQuote?_append_of_closed closedFront] at closed
    exact closed
  · exact closedTerm

end Places

/-- The terms of a text are its exact cut at the joining characters outside quotes, and no other
list of pieces is.  Every operand of a line closes its quotes, and so do all terms of it. -/
theorem terms_are_exact_split :
    (∀ text pieces, IsSplit text pieces ↔ pieces = terms text) ∧
      ∀ set line operand, .operand operand ∈ (Statement.ofLine set line).body →
        openQuote? operand.text = none ∧
          ∀ placed ∈ terms operand.text, openQuote? placed.2 = none := by
  constructor
  · intro text pieces
    refine ⟨IsSplit.eq_terms, ?_⟩
    rintro rfl
    exact isSplit_terms text
  · intro set line operand inBody
    have closed := (operandIn_of_mem_partsFrom inBody).closed
    exact ⟨closed, closed_of_mem_terms closed⟩

/-- An operand that is continued over a blank.  The other quote and the comma in its literal do not
count. -/
theorem terms_are_exact_split_of_continued :
    let line : Text := "COPY X-'a \"b,',Y".toList
    let operand : Token := ⟨"X-'a \"b,'".toList, 5, .word⟩
    .operand operand ∈ (Statement.ofLine .standard line).body ∧
      openQuote? operand.text = none ∧ (∀ placed ∈ terms operand.text, openQuote? placed.2 = none) ∧
      IsSplit operand.text [(0, ['X']), (2, "'a \"b,'".toList)] := by
  intro line operand
  have inBody : .operand operand ∈ (Statement.ofLine .standard line).body := by decide +kernel
  have closed := terms_are_exact_split.2 .standard line operand inBody
  exact ⟨inBody, closed.1, closed.2, (terms_are_exact_split.1 _ _).mpr (by decide +kernel)⟩

end AsmSymbols.Operand
