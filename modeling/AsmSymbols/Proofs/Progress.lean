import AsmSymbols.Proofs.Placement

/-!
# The reading of a body makes progress

A body is read in rounds.  Each `Round` takes the next token of the line, sees which part begins
with it and says where to go on, which is behind the closing quote when a word was continued.
`Run` is any number of rounds in a row; it need not be the whole reading.

Every round leaves the reading further to the right and inside the line (`Round.Of.advances`).  So
the pieces that the rounds of a run look at lie behind each other (`Run.pieces_pairwise`), and there
are no more rounds than bytes (`Run.length_le`).
-/

set_option autoImplicit false

namespace AsmSymbols

/-- One round of a reading, with the cursors in front of it and behind it. -/
structure Round where
  before : Cursor
  token : Token
  part : Part
  after : Cursor

namespace Round

/-- This is what a reading of `line` does at the cursor. -/
structure Of (set : InstructionSet) (line : Text) (round : Round) : Prop where
  scanned : nextToken? round.before.position line = some round.token
  classified : Cursor.classify set line round.before.named round.token = (round.part, round.after)

/-- What the round looks at: its token, or the operand to which this is continued. -/
def piece (round : Round) : Token := round.part.word?.getD round.token

/-- The byte belongs to what the round looks at. -/
def examines (byte : Nat) (round : Round) : Bool :=
  round.piece.offset ≤ byte && byte < round.piece.stop

/-- The round takes the reading further to the right, and not out of the line. -/
structure Advances (line : Text) (round : Round) : Prop where
  further : round.before.position < round.after.position
  inside : round.after.position ≤ Text.byteLength line
  /-- The token alone is a step forward, also where it opens a quote that the line never closes. -/
  token : round.before.position < round.token.stop ∧ round.token.stop ≤ round.piece.stop
  /-- The piece stands on the line between the two positions. -/
  piece : round.piece.text.StandsAt round.piece.offset line ∧
    round.before.position ≤ round.piece.offset ∧ round.piece.stop ≤ round.after.position

end Round

/-- Rounds in a row lead from one cursor to another. -/
inductive Run (set : InstructionSet) (line : Text) : Cursor → List Round → Cursor → Prop
  | none (cursor : Cursor) : Run set line cursor [] cursor
  | round {first : Round} {rounds : List Round} {stop : Cursor} : first.Of set line →
      Run set line first.after rounds stop → Run set line first.before (first :: rounds) stop

section Step

variable {set : InstructionSet} {line : Text} {round : Round}

theorem Round.of_next? {cursor following : Cursor} {part : Part}
    (found : cursor.next? set line = some (part, following)) :
    ∃ token, Round.Of set line ⟨cursor, token, part, following⟩ := by
  obtain ⟨token, scanned, classified⟩ := Option.map_eq_some_iff.mp found
  exact ⟨token, scanned, classified⟩

theorem Round.Of.next?_eq (isRound : round.Of set line) :
    round.before.next? set line = some (round.part, round.after) := by
  rw [Cursor.next?, isRound.scanned, Option.map_some, isRound.classified]

/-- The piece begins with the token, and the reading does not go on before its end. -/
theorem Round.Of.piece_between (isRound : round.Of set line) :
    round.piece.offset = round.token.offset ∧ round.token.stop ≤ round.piece.stop ∧
      round.piece.stop ≤ round.after.position := by
  obtain ⟨before, token, part, after⟩ := round
  have inside := (nextToken?_bounds isRound.scanned).2.2
  have begins : Begins set line before.named token part after :=
    Cursor.begins_of_classify isRound.classified
  cases begins with
  | stray | mnemonic | operand => exact ⟨rfl, Nat.le_refl _, Nat.le_refl _⟩
  | continued _ _ found =>
    obtain ⟨offset, longer, _⟩ := Token.closeQuote?_bounds found
    exact ⟨offset, Nat.le_of_lt longer, Nat.le_refl _⟩
  | unterminated => exact ⟨rfl, Nat.le_refl _, inside⟩

theorem Round.Of.piece_stands (isRound : round.Of set line) :
    round.piece.text.StandsAt round.piece.offset line := by
  obtain ⟨before, token, part, after⟩ := round
  have stands := (nextToken?_spec isRound.scanned).2.1.of_codeOf
  have begins : Begins set line before.named token part after :=
    Cursor.begins_of_classify isRound.classified
  cases begins with
  | stray | mnemonic | operand | unterminated => exact stands
  | continued _ _ found =>
    obtain ⟨_, _, _, _, standsClosed⟩ := Token.closeQuote?_spec stands found
    exact standsClosed

/-- A round takes the reading further. -/
theorem Round.Of.advances (isRound : round.Of set line) : round.Advances line := by
  obtain ⟨start, nonempty, _⟩ := nextToken?_bounds isRound.scanned
  obtain ⟨offset, continued, stop⟩ := isRound.piece_between
  obtain ⟨further, inside⟩ := Cursor.next?_bounds isRound.next?_eq
  exact ⟨further, inside, ⟨by omega, continued⟩, isRound.piece_stands, by omega, stop⟩

end Step

theorem countP_le_one {α : Type} {counts : α → Bool} {items : List α}
    (apart : items.Pairwise fun first second => counts first = true → counts second = false) :
    items.countP counts ≤ 1 := by
  induction items with
  | nil => exact Nat.zero_le 1
  | cons item items inductionHypothesis =>
    obtain ⟨others, apartRest⟩ := List.pairwise_cons.mp apart
    by_cases counted : counts item = true
    · have noOther : items.countP counts = 0 := by
        rw [List.countP_eq_zero]
        intro other inItems
        simp [others other inItems counted]
      rw [List.countP_cons_of_pos counted, noOther]
    · rw [List.countP_cons_of_neg counted]
      exact inductionHypothesis apartRest

namespace Run

variable {set : InstructionSet} {line : Text} {start stop : Cursor} {rounds : List Round}

theorem advances (run : Run set line start rounds stop) :
    ∀ round ∈ rounds, round.Advances line := by
  induction run with
  | none cursor => simp
  | round isRound _ inductionHypothesis =>
    exact List.forall_mem_cons.mpr ⟨isRound.advances, inductionHypothesis⟩

/-- Every round counts for at least one byte. -/
theorem position_le (run : Run set line start rounds stop) :
    start.position + rounds.length ≤ stop.position := by
  induction run with
  | none cursor => simp
  | @round first rounds stop isRound _ inductionHypothesis =>
    have further := isRound.advances.further
    rw [List.length_cons]
    omega

theorem inside (run : Run set line start rounds stop) :
    stop = start ∨ stop.position ≤ Text.byteLength line := by
  induction run with
  | none cursor => exact Or.inl rfl
  | @round first rounds stop isRound _ inductionHypothesis =>
    -- the start may lie anywhere, but the end of a round lies in the line
    right
    rcases inductionHypothesis with rfl | inside
    · exact isRound.advances.inside
    · exact inside

theorem length_le (run : Run set line start rounds stop) :
    rounds.length ≤ Text.byteLength line := by
  have further := run.position_le
  rcases run.inside with rfl | inside
  · omega
  · omega

/-- The pieces of all rounds stand behind the start. -/
theorem behind (run : Run set line start rounds stop) :
    ∀ round ∈ rounds, start.position ≤ round.piece.offset := by
  induction run with
  | none cursor => simp
  | @round first rounds stop isRound _ inductionHypothesis =>
    obtain ⟨further, _, _, _, start, _⟩ := isRound.advances
    refine List.forall_mem_cons.mpr ⟨start, ?_⟩
    intro round inRounds
    have := inductionHypothesis round inRounds
    omega

/-- What a round looks at begins behind all that earlier rounds have looked at. -/
theorem pieces_pairwise (run : Run set line start rounds stop) :
    rounds.Pairwise fun first second => first.piece.stop ≤ second.piece.offset := by
  induction run with
  | none cursor => exact List.Pairwise.nil
  | @round first rounds stop isRound rest inductionHypothesis =>
    refine List.pairwise_cons.mpr ⟨?_, inductionHypothesis⟩
    intro second inRounds
    exact Nat.le_trans isRound.advances.piece.2.2 (rest.behind second inRounds)

theorem examined_once (run : Run set line start rounds stop) (byte : Nat) :
    rounds.countP (Round.examines byte) ≤ 1 := by
  apply countP_le_one
  refine run.pieces_pairwise.imp ?_
  intro first second apart inFirst
  simp only [Round.examines, Bool.and_eq_true, decide_eq_true_eq] at inFirst
  simp only [Round.examines, Bool.and_eq_false_iff, decide_eq_false_iff_not]
  omega

end Run

/-- The reading that finds the parts of a body is a run, and it stops where no token is left. -/
theorem run_partsFrom (set : InstructionSet) (line : Text) (cursor : Cursor) :
    ∃ rounds stop, Run set line cursor rounds stop ∧ stop.next? set line = none ∧
      rounds.map Round.part = partsFrom set line cursor := by
  apply partsFrom_induction (motive := fun cursor parts =>
    ∃ rounds stop, Run set line cursor rounds stop ∧ stop.next? set line = none ∧
      rounds.map Round.part = parts)
  · intro cursor ended
    exact ⟨[], cursor, .none cursor, ended, rfl⟩
  · rintro cursor following part _ found ⟨rounds, stop, run, ended, rfl⟩
    obtain ⟨token, isRound⟩ := Round.of_next? found
    exact ⟨⟨cursor, token, part, following⟩ :: rounds, stop, .round isRound run, ended, rfl⟩

/-- A reading always makes progress.  From whatever cursor, each round of it leaves the reading
further to the right and inside the line, there are no more rounds than bytes, and no byte belongs
to what two rounds look at.  The body of a line is what such a reading finds until it stops. -/
theorem reading_makes_progress (set : InstructionSet) (line : Text) :
    (∀ start rounds stop, Run set line start rounds stop →
      (∀ round ∈ rounds, round.Advances line) ∧ rounds.length ≤ Text.byteLength line ∧
        ∀ byte, rounds.countP (Round.examines byte) ≤ 1) ∧
      ∃ rounds stop, Run set line ⟨(Head.ofLine line).2, false⟩ rounds stop ∧
        stop.next? set line = none ∧ rounds.map Round.part = (Statement.ofLine set line).body := by
  constructor
  · intro start rounds stop run
    exact ⟨run.advances, run.length_le, run.examined_once⟩
  · exact run_partsFrom set line _

/-- A label, a mnemonic, an operand that is continued over a blank, a stray terminator, and a quote
that is never closed. -/
theorem reading_makes_progress_over_quotes :
    let line : Text := "L: COPY 'a b',X : \"c d".toList
    ∃ rounds stop, Run .standard line ⟨2, false⟩ rounds stop ∧
      stop.next? .standard line = none ∧
      rounds.map Round.part = [.mnemonic ⟨"COPY".toList, 3, .word⟩,
        .operand ⟨"'a b'".toList, 8, .word⟩, .operand ⟨",X".toList, 13, .word⟩, .stray 16,
        .unterminated 18] ∧
      (∀ round ∈ rounds, round.Advances line) ∧ rounds.length ≤ Text.byteLength line ∧
      ∀ byte, rounds.countP (Round.examines byte) ≤ 1 := by
  intro line
  obtain ⟨each, rounds, stop, run, ended, parts⟩ := reading_makes_progress .standard line
  have starts : (Head.ofLine line).2 = 2 := by decide +kernel
  have body : (Statement.ofLine .standard line).body = [.mnemonic ⟨"COPY".toList, 3, .word⟩,
      .operand ⟨"'a b'".toList, 8, .word⟩, .operand ⟨",X".toList, 13, .word⟩, .stray 16,
      .unterminated 18] := by decide +kernel
  rw [starts] at run
  exact ⟨rounds, stop, run, ended, parts.trans body, each _ _ _ run⟩

end AsmSymbols
