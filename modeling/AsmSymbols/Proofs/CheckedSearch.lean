import AsmSymbols.Proofs.Restart

/-!
# Searching by bytes

The rules of the language speak of characters, but a reader of a stored line goes by byte positions
in machine words.  `Checked` holds its steps: look at a byte, add two positions, take a piece out of
a text.  Each of them can end in a `Fault`: the byte lies behind the end, no word holds the sum, or
an end of the piece is out of order, outside the text or inside a character.

A text that is split into pieces can be read at the ends of these pieces (the lemmas `_of_split`),
and a search stops at no other places.  So it never ends in a fault, and finds the same token as a
search by characters (`Checked.nextToken?_eq_ok`).
-/

set_option autoImplicit false

namespace AsmSymbols

namespace Text

variable {text : Text} {position : Nat}

/-- At a boundary, what is left has all the bytes that lie behind. -/
theorem isBoundary_iff :
    text.IsBoundary position ↔
      position + byteLength (dropBytes position text) = byteLength text := by
  constructor
  · rintro ⟨front, back, rfl, rfl⟩
    rw [dropBytes_append, byteLength_append]
  · intro measured
    obtain ⟨front, split⟩ := dropBytes_suffix position text
    have total := congrArg byteLength split
    rw [byteLength_append] at total
    exact ⟨front, _, split.symm, by omega⟩

instance : Decidable (text.IsBoundary position) := decidable_of_iff _ isBoundary_iff.symm

end Text

/-- What stops a reader that goes by byte positions. -/
inductive Fault where
  /-- A sum of positions that no machine word holds. -/
  | overflow
  /-- A byte behind the end of the text. -/
  | index
  /-- A piece whose ends are out of order, outside the text or inside a character. -/
  | slice
  deriving DecidableEq, Repr

/-- A line in memory, where its length is held by a machine word. -/
structure StoredLine where
  text : Text
  fits : Text.byteLength text < UInt64.size

namespace Checked

def add (first second : Nat) : Except Fault Nat :=
  if first + second < UInt64.size then .ok (first + second) else .error .overflow

def byteAt (text : Text) (position : Nat) : Except Fault UInt8 :=
  match (Text.bytes text)[position]? with
  | none => .error .index
  | some byte => .ok byte

def bytesFrom (text : Text) (start : Nat) : Except Fault (List UInt8) :=
  if start ≤ Text.byteLength text then .ok ((Text.bytes text).drop start) else .error .slice

def slice (text : Text) (start stop : Nat) : Except Fault Text :=
  if start ≤ stop ∧ stop ≤ Text.byteLength text ∧ text.IsBoundary start ∧ text.IsBoundary stop then
    let rest := Text.dropBytes start text
    .ok (rest.take (rest.length - (Text.dropBytes stop text).length))
  else .error .slice

def sliceFrom (text : Text) (start : Nat) : Except Fault Text :=
  slice text start (Text.byteLength text)

/-- The piece of `length` bytes from byte `start` on. -/
def pieceAt (text : Text) (start length : Nat) : Except Fault Text := do
  let stop ← add start length
  slice text start stop

section Steps

variable {text front piece back : Text} {start position : Nat}

theorem ok_bind {α β : Type} (value : α) (next : α → Except Fault β) :
    (Except.ok value >>= next) = next value := rfl

theorem add_eq_ok {first second : Nat} (fits : first + second < UInt64.size) :
    add first second = .ok (first + second) := if_pos fits

theorem eq_of_add_eq_ok {first second sum : Nat} (added : add first second = .ok sum) :
    sum = first + second := by
  unfold add at added
  split at added
  · cases added
    rfl
  · cases added

theorem slice_of_split (split : text = front ++ piece ++ back) :
    slice text (Text.byteLength front) (Text.byteLength (front ++ piece)) = .ok piece := by
  have starts : text.IsBoundary (Text.byteLength front) :=
    ⟨front, piece ++ back, by rw [split, List.append_assoc], rfl⟩
  have stops : text.IsBoundary (Text.byteLength (front ++ piece)) :=
    ⟨front ++ piece, back, split, rfl⟩
  have inside : Text.byteLength (front ++ piece) ≤ Text.byteLength text := by simp [split]
  have rest : Text.dropBytes (Text.byteLength front) text = piece ++ back := by
    rw [split, List.append_assoc, Text.dropBytes_append]
  have behind : Text.dropBytes (Text.byteLength (front ++ piece)) text = back := by
    rw [split, Text.dropBytes_append]
  unfold slice
  rw [if_pos ⟨by simp, inside, starts, stops⟩, rest, behind]
  simp

example :
    let text : Text := "É1".toList
    slice text 0 2 = .ok ['É'] ∧ slice text 0 1 = .error .slice ∧ slice text 2 0 = .error .slice ∧
      slice text 2 4 = .error .slice := by decide

theorem pieceAt_of_split (fits : Text.byteLength text < UInt64.size)
    (split : text = front ++ piece ++ back) :
    pieceAt text (Text.byteLength front) (Text.byteLength piece) = .ok piece := by
  have inside : Text.byteLength (front ++ piece) ≤ Text.byteLength text := by simp [split]
  rw [Text.byteLength_append] at inside
  rw [pieceAt, add_eq_ok (by omega), ok_bind, ← Text.byteLength_append]
  exact slice_of_split split

theorem sliceFrom_of_split (split : text = front ++ back) :
    sliceFrom text (Text.byteLength front) = .ok back := by
  have whole : text = front ++ back ++ [] := by rw [split, List.append_nil]
  have piece := slice_of_split whole
  rwa [← split] at piece

/-- At a position inside a piece stands one of its bytes. -/
theorem byteAt_of_split (split : text = front ++ piece ++ back)
    (behind : Text.byteLength front ≤ position)
    (before : position < Text.byteLength (front ++ piece)) :
    ∃ byte ∈ Text.bytes piece, byteAt text position = .ok byte := by
  have inside : position < (Text.bytes text).length := by
    rw [Text.length_bytes, split, Text.byteLength_append]
    omega
  obtain ⟨byte, found⟩ : ∃ byte, (Text.bytes text)[position]? = some byte :=
    ⟨_, List.getElem?_eq_getElem inside⟩
  refine ⟨byte, ?_, by rw [byteAt, found]⟩
  rw [split] at found
  exact Text.mem_bytes_of_getElem? found behind before

/-- Where a character begins stands one of its bytes. -/
theorem byteAt_first {c : Char} {tail : Text} (split : text = front ++ c :: tail) :
    ∃ byte ∈ String.utf8EncodeChar c, byteAt text (Text.byteLength front) = .ok byte := by
  have splitChar : text = front ++ [c] ++ tail := by simp [split]
  have before : Text.byteLength front < Text.byteLength (front ++ [c]) := by
    simp [c.utf8Size_pos]
  obtain ⟨byte, inBytes, found⟩ := byteAt_of_split splitChar (Nat.le_refl _) before
  exact ⟨byte, by simpa [Text.bytes] using inBytes, found⟩

theorem bytesFrom_of_split (split : text = front ++ back) :
    bytesFrom text (Text.byteLength front) = .ok (Text.bytes back) := by
  have inside : Text.byteLength front ≤ Text.byteLength text := by simp [split]
  rw [bytesFrom, if_pos inside, split, Text.bytes_append, ← Text.length_bytes, List.drop_left]

end Steps

/-- Step over the positions of the text that `skips` holds of. -/
def skipWhile (text : Text) (skips : Nat → Except Fault Bool) (position : Nat) :
    Except Fault Nat :=
  if _inside : position < Text.byteLength text then
    match skips position with
    | .error fault => .error fault
    | .ok false => .ok position
    | .ok true =>
      match _stepped : add position 1 with
      | .error fault => .error fault
      | .ok next => skipWhile text skips next
  else .ok position
termination_by Text.byteLength text - position
decreasing_by
  have := eq_of_add_eq_ok _stepped
  omega

section Loops

variable {text : Text} {skips : Nat → Except Fault Bool} {start stop position : Nat}

theorem skipWhile_of_skipped (fits : Text.byteLength text < UInt64.size)
    (inside : position < Text.byteLength text) (skipped : skips position = .ok true) :
    skipWhile text skips position = skipWhile text skips (position + 1) := by
  have stepped : add position 1 = .ok (position + 1) := add_eq_ok (by omega)
  conv => lhs; rw [skipWhile]
  rw [dif_pos inside, skipped]
  dsimp only
  split
  next failed =>
    rw [stepped] at failed
    cases failed
  next next same =>
    rw [stepped] at same
    cases same
    rfl

theorem skipWhile_of_kept
    (kept : position < Text.byteLength text → skips position = .ok false) :
    skipWhile text skips position = .ok position := by
  rw [skipWhile]
  split
  next inside => rw [kept inside]
  next => rfl

/-- The loop ends where the first position is kept. -/
theorem skipWhile_eq_ok (fits : Text.byteLength text < UInt64.size) (further : start ≤ stop)
    (skipped : ∀ position, start ≤ position → position < stop →
      position < Text.byteLength text ∧ skips position = .ok true)
    (kept : stop < Text.byteLength text → skips stop = .ok false) :
    skipWhile text skips start = .ok stop := by
  obtain ⟨count, rfl⟩ := Nat.exists_eq_add_of_le further
  induction count generalizing start with
  | zero => exact skipWhile_of_kept kept
  | succ count inductionHypothesis =>
    have here := skipped start (Nat.le_refl start) (by omega)
    have sameStop : start + (count + 1) = start + 1 + count := by omega
    rw [skipWhile_of_skipped fits here.1 here.2]
    rw [sameStop] at skipped kept ⊢
    apply inductionHypothesis (Nat.le_add_right _ count) _ kept
    intro position behind before
    exact skipped position (by omega) before

end Loops

/-- The token at byte `position`, where no blank stands. -/
def tokenAt? (text : Text) (position : Nat) : Except Fault (Option Token) := do
  if commentStart text ≤ position then
    return none
  else if (← byteAt text position) == ':'.toUInt8 then
    let colon ← pieceAt text position 1
    return some ⟨colon, position, .separator⟩
  else
    -- without an end in sight, the word takes all bytes that are left
    let rest ← bytesFrom text position
    let word ← pieceAt text position (rest.findIdx endsWordByte)
    return some ⟨word, position, .word⟩

def nextToken? (start : Nat) (text : Text) : Except Fault (Option Token) := do
  let boundary ← skipWhile text (fun position => .ok !text.IsBoundary position) start
  let position ← skipWhile text (fun position => isBlankByte <$> byteAt text position) boundary
  tokenAt? text position

section Search

variable {text front back blanks tail : Text} {start : Nat}

theorem skipWhile_to_boundary (fits : Text.byteLength text < UInt64.size)
    (split : text = front ++ back) (reached : front.Reaches start) :
    skipWhile text (fun position => .ok !text.IsBoundary position) start =
      .ok (Text.byteLength front) := by
  have least := Text.takenUpAt_of_reaches reached back
  rw [← split] at least
  have inside : start ≤ Text.byteLength text := by
    have := reached.reaches
    rw [split, Text.byteLength_append]
    omega
  rw [Text.TakenUpAt, if_pos inside] at least
  apply skipWhile_eq_ok fits reached.reaches
  · intro position behind before
    have notBoundary : ¬ text.IsBoundary position := by
      intro boundary
      have := least.2 ⟨behind, boundary⟩
      omega
    refine ⟨?_, by simp [notBoundary]⟩
    rw [split, Text.byteLength_append]
    omega
  · intro _
    simp [least.1.2]

theorem visible_dropWhile (text : Text) :
    ∀ c ∈ (text.dropWhile isBlank).head?, isBlank c = false := by
  intro c isHead
  have stopped := List.head?_dropWhile_not isBlank text
  rw [Option.mem_def.mp isHead] at stopped
  exact stopped

theorem skipWhile_blanks (fits : Text.byteLength text < UInt64.size)
    (split : text = front ++ blanks ++ tail) (blank : ∀ c ∈ blanks, isBlank c = true)
    (visible : ∀ c ∈ tail.head?, isBlank c = false) :
    skipWhile text (fun position => isBlankByte <$> byteAt text position)
        (Text.byteLength front) =
      .ok (Text.byteLength (front ++ blanks)) := by
  apply skipWhile_eq_ok fits (by simp)
  · intro position behind before
    obtain ⟨byte, inBlanks, found⟩ := byteAt_of_split split behind before
    refine ⟨?_, by rw [found, ← isBlankByte_of_blanks blank inBlanks]; rfl⟩
    rw [split, Text.byteLength_append]
    omega
  · intro inside
    cases tail with
    | nil => simp [split] at inside
    | cons c tail =>
      obtain ⟨byte, inBytes, found⟩ := byteAt_first split
      rw [found, ← visible c rfl, ← isBlankByte_of_mem inBytes]
      rfl

/-- The word at the start of a text takes up the bytes in front of the first that ends it. -/
theorem findIdx_endsWordByte (text : Text) :
    (Text.bytes text).findIdx endsWordByte = Text.byteLength (text.takeWhile isWordChar) := by
  induction text with
  | nil => rfl
  | cons c text inductionHypothesis =>
    rw [Text.bytes_cons, List.findIdx_append]
    cases inWord : isWordChar c with
    | true =>
      have passed : (String.utf8EncodeChar c).findIdx endsWordByte =
          (String.utf8EncodeChar c).length := by
        rw [List.findIdx_eq_length]
        intro byte inBytes
        rw [endsWordByte_of_mem inBytes, inWord]
        rfl
      rw [passed, if_neg (Nat.lt_irrefl _), inductionHypothesis, String.length_utf8EncodeChar,
        List.takeWhile_cons_of_pos inWord, Text.byteLength_cons, Nat.add_comm]
    | false =>
      have ended : (String.utf8EncodeChar c).findIdx endsWordByte = 0 := by
        cases encoded : String.utf8EncodeChar c with
        | nil => exact absurd encoded String.utf8EncodeChar_ne_nil
        | cons byte bytes =>
          have inBytes : byte ∈ String.utf8EncodeChar c := by simp [encoded]
          have ends : endsWordByte byte = true := by rw [endsWordByte_of_mem inBytes, inWord]; rfl
          rw [List.findIdx_cons, ends]
          rfl
      rw [ended, if_pos (by simp [c.utf8Size_pos]), List.takeWhile_cons_of_neg (by simp [inWord])]
      rfl

theorem lt_commentStart {c : Char} (plain : ';' ∉ front) (split : text = front ++ c :: tail)
    (inCode : c ≠ ';') : Text.byteLength front < commentStart text := by
  have kept : codeOf (c :: tail) = c :: codeOf tail := by simp [codeOf, inCode]
  have positive := c.utf8Size_pos
  rw [commentStart_eq, split, codeOf_append plain, kept, Text.byteLength_append,
    Text.byteLength_cons]
  omega

theorem tokenAt?_of_comment {position : Nat} (behind : commentStart text ≤ position) :
    tokenAt? text position = .ok none := if_pos behind

theorem tokenAt?_of_colon (fits : Text.byteLength text < UInt64.size) (plain : ';' ∉ front)
    (split : text = front ++ ':' :: tail) :
    tokenAt? text (Text.byteLength front) =
      .ok (some ⟨[':'], Text.byteLength front, .separator⟩) := by
  have inCode := lt_commentStart plain split (by decide)
  have splitColon : text = front ++ [':'] ++ tail := by simp [split]
  have piece : pieceAt text (Text.byteLength front) 1 = .ok [':'] :=
    pieceAt_of_split fits splitColon
  obtain ⟨byte, inBytes, found⟩ := byteAt_first split
  have isColon := (eq_iff_of_mem_utf8EncodeChar (d := ':') (by decide) inBytes).mpr rfl
  unfold tokenAt?
  rw [if_neg (by omega), found, ok_bind, isColon, if_pos BEq.rfl, piece]
  rfl

theorem tokenAt?_of_word {c : Char} {word : Text} (fits : Text.byteLength text < UInt64.size)
    (plain : ';' ∉ front) (split : text = front ++ (c :: word) ++ tail)
    (inWord : ∀ d ∈ c :: word, isWordChar d = true) (ends : EndsWord tail) :
    tokenAt? text (Text.byteLength front) =
      .ok (some ⟨c :: word, Text.byteLength front, .word⟩) := by
  have splitChar : text = front ++ c :: (word ++ tail) := by simp [split]
  have splitRest : text = front ++ (c :: word ++ tail) := by simp [split]
  obtain ⟨_, notColon, notComment⟩ := isWordChar_iff.mp (inWord c List.mem_cons_self)
  have inCode := lt_commentStart plain splitChar notComment
  obtain ⟨byte, inBytes, found⟩ := byteAt_first splitChar
  have noColon : (byte == ':'.toUInt8) = false := by
    rw [beq_of_mem_utf8EncodeChar (by decide) inBytes]
    simpa using notColon
  unfold tokenAt?
  rw [if_neg (by omega), found, ok_bind, noColon, if_neg Bool.false_ne_true,
    bytesFrom_of_split splitRest, ok_bind, findIdx_endsWordByte, takeWhile_isWordChar inWord ends,
    pieceAt_of_split fits split]
  rfl

/-- Where no blank stands, the checked reader sees what the search finds. -/
theorem tokenAt?_eq_ok (fits : Text.byteLength text < UInt64.size) (plain : ';' ∉ front)
    (split : text = front ++ tail) (visible : ∀ c ∈ tail.head?, isBlank c = false) :
    tokenAt? text (Text.byteLength front) =
      .ok (AsmSymbols.nextToken? (Text.byteLength front) text) := by
  by_cases ended : codeOf tail = []
  · have behind : commentStart text ≤ Text.byteLength front := by
      rw [commentStart_eq, split, codeOf_append plain, ended, List.append_nil]
    rw [nextToken?_comment split plain ended, tokenAt?_of_comment behind]
  · cases tail with
    | nil => exact absurd rfl ended
    | cons c tail =>
      by_cases colon : c = ':'
      · subst colon
        rw [tokenAt?_of_colon fits plain split, nextToken?_colon split plain]
      · have notComment : c ≠ ';' := by
          rintro rfl
          exact ended rfl
        have isWord : isWordChar c = true := isWordChar_iff.mpr ⟨visible c rfl, colon, notComment⟩
        have inWord : ∀ d ∈ c :: tail.takeWhile isWordChar, isWordChar d = true := by
          intro d isIn
          rcases List.mem_cons.mp isIn with rfl | inRest
          · exact isWord
          · exact List.mem_takeWhile_imp inRest
        have splitWord : text =
            front ++ (c :: tail.takeWhile isWordChar) ++ tail.dropWhile isWordChar := by
          simp [split]
        have ends := endsWord_dropWhile tail
        rw [tokenAt?_of_word fits plain splitWord inWord ends,
          nextToken?_word splitWord plain (by simp) inWord ends]

/-- A search that begins inside the text comes to the first boundary, and from there behind the
blanks. -/
theorem nextToken?_eq_tokenAt? (fits : Text.byteLength text < UInt64.size)
    (split : text = front ++ back) (reached : front.Reaches start) :
    nextToken? start text = tokenAt? text (Text.byteLength (front ++ back.takeWhile isBlank)) := by
  have splitBlanks : text = front ++ back.takeWhile isBlank ++ back.dropWhile isBlank := by
    simp [split]
  have skipped := skipWhile_blanks fits splitBlanks (fun c => List.mem_takeWhile_imp)
    (visible_dropWhile back)
  rw [nextToken?, skipWhile_to_boundary fits split reached, ok_bind, skipped, ok_bind]

/-- The first token is found from every start, also from inside a character and from behind the
end. -/
theorem nextToken?_eq_ok (fits : Text.byteLength text < UInt64.size) (start : Nat) :
    nextToken? start text = .ok (AsmSymbols.nextToken? start text) := by
  have codeInside := byteLength_codeOf_le text
  by_cases inside : start ≤ Text.byteLength text
  · obtain ⟨front, back, split, reached⟩ := Text.exists_reaches inside
    rw [nextToken?_eq_tokenAt? fits split reached]
    by_cases plain : ';' ∉ front
    · have blank : ∀ c ∈ back.takeWhile isBlank, isBlank c = true := fun c => List.mem_takeWhile_imp
      have plainBoth : ';' ∉ front ++ back.takeWhile isBlank := by
        simp [plain, semicolon_notMem_blanks blank]
      have splitBlanks : text = front ++ back.takeWhile isBlank ++ back.dropWhile isBlank := by
        simp [split]
      have fromBoundary := nextToken?_of_reaches reached plain back
      rw [← split] at fromBoundary
      rw [fromBoundary, nextToken?_blanks splitBlanks plain blank]
      exact tokenAt?_eq_ok fits plainBoth splitBlanks (visible_dropWhile back)
    · have short := codeOf_lt_of_reaches reached (not_not.mp plain) back
      have := reached.reaches
      rw [← split] at short
      rw [nextToken?_behind_code (Nat.le_of_lt short)]
      apply tokenAt?_of_comment
      rw [commentStart_eq, Text.byteLength_append]
      omega
  · rw [nextToken?_behind_code (by omega), nextToken?,
      skipWhile_of_kept (fun isInside => absurd isInside (by omega)), ok_bind,
      skipWhile_of_kept (fun isInside => absurd isInside (by omega)), ok_bind]
    apply tokenAt?_of_comment
    rw [commentStart_eq]
    omega

end Search

end Checked

end AsmSymbols
