import Mathlib.Data.List.Basic
import AsmSymbols.Pattern.Meaning
import AsmSymbols.Proofs.Matching
import AsmSymbols.Proofs.UpperCase

/-!
# The grammar of literals

`Literal.Form` writes the grammar of literals down as what a literal is put together from, with its
digits one by one.  The test for literals accepts just these words (`isLiteral_iff_form`).

The same grammar fits into one pattern, `Literal.patternText`.  Read as a pattern and searched for
in a word, it occurs in the literals and in no other word (`occursIn_pattern`).  For this the sets
of characters in it are taken back to their members: ascending ranges hold what one of them holds,
and a complement holds the rest.
-/

set_option autoImplicit false

namespace AsmSymbols

namespace Literal

def signs : List Text := [[], ['+'], ['-']]

def decimalDigits : Text := ['0', '1', '2', '3', '4', '5', '6', '7', '8', '9']

def hexadecimalDigits : Text :=
  decimalDigits ++ ['a', 'b', 'c', 'd', 'e', 'f'] ++ ['A', 'B', 'C', 'D', 'E', 'F']

/-- At least one digit of some kind, and nothing else. -/
def Digits (kind digits : Text) : Prop := digits ≠ [] ∧ ∀ digit ∈ digits, digit ∈ kind

/-- The forms of literals. -/
inductive Form : Text → Prop
  | decimal {sign digits : Text} : sign ∈ signs → Digits decimalDigits digits →
      Form (sign ++ digits)
  | hexadecimal {sign digits : Text} {mark : Char} : sign ∈ signs → mark = 'x' ∨ mark = 'X' →
      Digits hexadecimalDigits digits → Form (sign ++ '0' :: mark :: digits)
  | quoted {quote : Char} {content : Text} : quote = '\'' ∨ quote = '"' → quote ∉ content →
      Form (quote :: (content ++ [quote]))

section Characters

variable {c : Char}

theorem mem_decimalDigits : c ∈ decimalDigits ↔ 48 ≤ c.toNat ∧ c.toNat ≤ 57 := by
  simp only [decimalDigits, List.mem_cons, List.not_mem_nil, or_false, ← Char.toNat_inj,
    Char.reduceToNat]
  omega

theorem mem_hexadecimalDigits :
    c ∈ hexadecimalDigits ↔ (48 ≤ c.toNat ∧ c.toNat ≤ 57) ∨ (97 ≤ c.toNat ∧ c.toNat ≤ 102) ∨
      (65 ≤ c.toNat ∧ c.toNat ≤ 70) := by
  simp only [hexadecimalDigits, List.mem_append, mem_decimalDigits, List.mem_cons,
    List.not_mem_nil, or_false, ← Char.toNat_inj, Char.reduceToNat]
  omega

theorem isQuote_iff : isQuote c = true ↔ c = '\'' ∨ c = '"' := by
  simp [isQuote]

end Characters

section Recognition

variable {word sign rest : Text}

theorem isDecimal_iff : isDecimal word = true ↔ Digits decimalDigits word := by
  simp only [isDecimal, Digits, Bool.and_eq_true, Bool.not_eq_true', List.isEmpty_eq_false_iff,
    List.all_eq_true, isDigit_iff, mem_decimalDigits]

theorem isHexadecimal_marked {mark : Char} {digits : Text} :
    isHexadecimal ('0' :: mark :: digits) = true ↔
      (mark = 'x' ∨ mark = 'X') ∧ Digits hexadecimalDigits digits := by
  simp only [isHexadecimal, Digits, Bool.and_eq_true, Bool.or_eq_true, beq_iff_eq,
    Bool.not_eq_true', List.isEmpty_eq_false_iff, List.all_eq_true, isHexDigit_iff,
    mem_hexadecimalDigits, and_assoc]

theorem isHexadecimal_iff :
    isHexadecimal word = true ↔
      ∃ mark digits, (mark = 'x' ∨ mark = 'X') ∧ Digits hexadecimalDigits digits ∧
        word = '0' :: mark :: digits := by
  constructor
  · fun_cases isHexadecimal word with
    | case1 mark digits =>
      intro accepted
      obtain ⟨isMark, inKind⟩ := isHexadecimal_marked.mp accepted
      exact ⟨mark, digits, isMark, inKind, rfl⟩
    | case2 => exact nofun
  · rintro ⟨mark, digits, isMark, inKind, rfl⟩
    exact isHexadecimal_marked.mpr ⟨isMark, inKind⟩

theorem exists_sign (word : Text) : ∃ sign ∈ signs, word = sign ++ dropSign word := by
  cases word with
  | nil => exact ⟨[], by decide, rfl⟩
  | cons c word =>
    rw [dropSign]
    split
    next isSign =>
      refine ⟨[c], ?_, rfl⟩
      simpa [signs] using isSign
    next => exact ⟨[], by decide, rfl⟩

theorem isNumber_of_sign (signed : sign ∈ signs)
    (number : (isDecimal rest || isHexadecimal rest) = true) : isNumber (sign ++ rest) = true := by
  have dropped : dropSign (sign ++ rest) = rest := by
    simp only [signs, List.mem_cons, List.not_mem_nil, or_false] at signed
    rcases signed with rfl | rfl | rfl
    · exact dropSign_of_number number
    · rfl
    · rfl
  rw [isNumber, dropped]
  exact number

theorem form_of_isNumber (accepted : isNumber word = true) : Form word := by
  obtain ⟨sign, signed, split⟩ := exists_sign word
  rw [split]
  rcases Bool.or_eq_true_iff.mp accepted with decimal | hexadecimal
  · exact .decimal signed (isDecimal_iff.mp decimal)
  · obtain ⟨mark, digits, isMark, inKind, split⟩ := isHexadecimal_iff.mp hexadecimal
    rw [split]
    exact .hexadecimal signed isMark inKind

theorem isLiteral_iff_form (word : Text) : isLiteral word = true ↔ Form word := by
  rw [isLiteral, Bool.or_eq_true]
  constructor
  · rintro (number | quoted)
    · exact form_of_isNumber number
    · obtain ⟨quote, content, isQuote, inside, rfl⟩ := isQuoted_iff.mp quoted
      exact .quoted (isQuote_iff.mp isQuote) inside
  · intro form
    cases form with
    | decimal signed inKind =>
      apply Or.inl
      apply isNumber_of_sign signed
      rw [isDecimal_iff.mpr inKind, Bool.true_or]
    | hexadecimal signed isMark inKind =>
      apply Or.inl
      apply isNumber_of_sign signed
      rw [isHexadecimal_iff.mpr ⟨_, _, isMark, inKind, rfl⟩, Bool.or_true]
    | quoted isQuote inside =>
      apply Or.inr
      exact isQuoted_iff.mpr ⟨_, _, isQuote_iff.mpr isQuote, inside, rfl⟩

end Recognition

end Literal

namespace CharSet

variable {c : Char} {ranges rest : List (Nat × Nat)} {code low high start : Nat}

theorem holds_cons :
    holds ⟨(low, high) :: rest⟩ code =
      if code ≤ high then decide (low ≤ code) else holds ⟨rest⟩ code := by
  by_cases reached : code ≤ high <;> simp [holds, reached]

/-- In ascending ranges, the one that decides is the only one that can hold a code point. -/
theorem holds_iff (ascending : ranges.Pairwise fun first second => first.2 < second.1) :
    holds ⟨ranges⟩ code = true ↔ ∃ range ∈ ranges, range.1 ≤ code ∧ code ≤ range.2 := by
  induction ranges with
  | nil => simp [holds]
  | cons first rest inductionHypothesis =>
    obtain ⟨apart, ascendingRest⟩ := List.pairwise_cons.mp ascending
    rw [holds_cons]
    by_cases reached : code ≤ first.2
    · have notLater : ¬ ∃ range ∈ rest, range.1 ≤ code ∧ code ≤ range.2 := by
        rintro ⟨range, inRest, low, _⟩
        have := apart range inRest
        omega
      simp [reached, notLater]
    · simp [reached, inductionHypothesis ascendingRest]

/-- The gaps hold what the ranges do not, from where they start. -/
theorem holds_gaps (bounded : code ≤ greatest)
    (ascending : ranges.Pairwise fun first second => first.2 < second.1)
    (proper : ∀ range ∈ ranges, start ≤ range.1 ∧ range.1 ≤ range.2) :
    holds ⟨gaps start ranges⟩ code = true ↔ start ≤ code ∧ holds ⟨ranges⟩ code = false := by
  induction ranges generalizing start with
  | nil =>
    rw [gaps]
    split
    next => simp [bounded, holds]
    next beyond =>
      have : ¬ start ≤ code := by omega
      simp [holds, this]
  | cons first rest inductionHypothesis =>
    obtain ⟨low, high⟩ := first
    obtain ⟨apart, ascendingRest⟩ := List.pairwise_cons.mp ascending
    obtain ⟨⟨starts, grows⟩, properRest⟩ := List.forall_mem_cons.mp proper
    dsimp only at apart starts grows
    have later := inductionHypothesis ascendingRest fun range inRest =>
      ⟨apart range inRest, (properRest range inRest).2⟩
    rw [gaps, holds_cons]
    -- the first range decides up to its end, and the gaps behind it hold nothing there
    by_cases reached : code ≤ high
    · have notLater : holds ⟨gaps (high + 1) rest⟩ code = false := by
        rw [Bool.eq_false_iff, ne_eq, later]
        omega
      rw [if_pos reached]
      split
      next gap =>
        rw [holds_cons, notLater]
        by_cases inGap : code < low
        · rw [if_pos (Nat.le_sub_one_of_lt inGap)]
          simp [inGap]
        · rw [if_neg (by omega)]
          simp [Nat.le_of_not_lt inGap]
      next =>
        rw [notLater]
        simp only [Bool.false_eq_true, decide_eq_false_iff_not, false_iff]
        omega
    · have behind : start ≤ code := by omega
      have isLater : holds ⟨gaps (high + 1) rest⟩ code = true ↔ holds ⟨rest⟩ code = false := by
        rw [later]
        exact and_iff_right (Nat.lt_of_not_le reached)
      rw [if_neg reached, and_iff_right behind]
      split
      next gap =>
        rw [holds_cons, if_neg (by omega), isLater]
      next => exact isLater

theorem holds_singleton (d : Char) : (singleton d).holds c.toNat = true ↔ c = d := by
  rw [singleton, range, holds_iff (List.pairwise_singleton _ _), ← Char.toNat_inj]
  simp only [List.mem_singleton, exists_eq_left]
  omega

theorem holds_pair (first second : Char) (apart : first.toNat < second.toNat) :
    holds ⟨[(first.toNat, first.toNat), (second.toNat, second.toNat)]⟩ c.toNat = true ↔
      c = first ∨ c = second := by
  rw [holds_iff (by simpa using apart), ← Char.toNat_inj, ← Char.toNat_inj]
  simp only [List.mem_cons, List.not_mem_nil, or_false, exists_eq_or_imp, exists_eq_left]
  omega

theorem toNat_le_greatest (c : Char) : c.toNat ≤ greatest := by
  have valid := c.valid
  simp only [UInt32.isValidChar, Nat.isValidChar] at valid
  change c.val.toNat ≤ 0x10FFFF
  omega

theorem holds_others (d : Char) : (singleton d).complement.holds c.toNat = true ↔ c ≠ d := by
  rw [complement, singleton, range,
    holds_gaps (toNat_le_greatest c) (List.pairwise_singleton _ _) (by simp), ne_eq,
    ← holds_singleton d, Bool.not_eq_true]
  exact and_iff_right (Nat.zero_le _)

end CharSet

namespace Pattern

variable {front piece back : Text}

theorem repeated_single {set : CharSet} {count : Nat} :
    Repeated (Matches (.single set)) count front piece back ↔
      piece.length = count ∧ ∀ c ∈ piece, set.holds c.toNat = true := by
  induction count generalizing front piece with
  | zero =>
    rw [List.length_eq_zero_iff]
    constructor
    · rintro rfl
      exact ⟨rfl, by simp⟩
    · exact And.left
  | succ count inductionHypothesis =>
    constructor
    · rintro ⟨_, left, rfl, ⟨c, rfl, holds⟩, row⟩
      obtain ⟨length, all⟩ := inductionHypothesis.mp row
      exact ⟨congrArg Nat.succ length, List.forall_mem_cons.mpr ⟨holds, all⟩⟩
    · rintro ⟨length, all⟩
      cases piece with
      | nil => cases length
      | cons c piece =>
        obtain ⟨holds, allRest⟩ := List.forall_mem_cons.mp all
        exact ⟨[c], piece, rfl, ⟨c, rfl, holds⟩,
          inductionHypothesis.mpr ⟨Nat.succ.inj length, allRest⟩⟩

theorem matches_many {set : CharSet} {least : Nat} {most : Option Nat} :
    Matches (.repetition (.single set) least most) front piece back ↔
      least ≤ piece.length ∧ (∀ bound ∈ most, piece.length ≤ bound) ∧
        ∀ c ∈ piece, set.holds c.toNat = true := by
  constructor
  · rintro ⟨count, enough, allowed, row⟩
    obtain ⟨rfl, all⟩ := repeated_single.mp row
    exact ⟨enough, allowed, all⟩
  · rintro ⟨enough, allowed, all⟩
    exact ⟨piece.length, enough, allowed, repeated_single.mpr ⟨rfl, all⟩⟩

theorem matches_char (d : Char) :
    Matches (.single (.singleton d)) front piece back ↔ piece = [d] := by
  constructor
  · rintro ⟨c, rfl, holds⟩
    rw [(CharSet.holds_singleton d).mp holds]
  · rintro rfl
    exact ⟨d, rfl, (CharSet.holds_singleton d).mpr rfl⟩

end Pattern

namespace Literal

/-- The grammar of literals as a pattern. -/
def patternText : Text :=
  "^(?:[+-]?(?:0[xX][0-9a-fA-F]+|[0-9]+)|'[^']*'|\"[^\"]*\")$".toList

def numberPattern : Pattern :=
  .sequence (.repetition (.single ⟨[(43, 43), (45, 45)]⟩) 0 (some 1))
    (.choice
      (.sequence (.single (.singleton '0')) (.sequence (.single ⟨[(88, 88), (120, 120)]⟩)
        (.repetition (.single ⟨[(48, 57), (65, 70), (97, 102)]⟩) 1 none)))
      (.repetition (.single (.range '0' '9')) 1 none))

def quotedPattern (quote : Char) : Pattern :=
  .sequence (.single (.singleton quote))
    (.sequence (.repetition (.single (CharSet.singleton quote).complement) 0 none)
      (.single (.singleton quote)))

def formPattern : Pattern :=
  .choice numberPattern (.choice (quotedPattern '\'') (quotedPattern '"'))

/-- What `patternText` means: one of the forms, from the start of a text to its end. -/
def pattern : Pattern :=
  .sequence (.anchored .textStart) (.sequence formPattern (.anchored .textEnd))

set_option maxRecDepth 20000 in
-- the text is closed, so reading it is a computation; only the sort in `ofRanges` does not unfold
-- in it, and its three results are put in first
theorem meaning_patternText :
    ((Pattern.Expr.ofText patternText).bind fun expr => expr.meaning {}) = .ok (pattern, {}) := by
  have signSet : CharSet.ofRanges [(43, 43), (45, 45)] = ⟨[(43, 43), (45, 45)]⟩ := by
    simp [CharSet.ofRanges, List.mergeSort, CharSet.join]
  have markSet : CharSet.ofRanges [(120, 120), (88, 88)] = ⟨[(88, 88), (120, 120)]⟩ := by
    simp [CharSet.ofRanges, List.mergeSort, CharSet.join]
  have digitSet : CharSet.ofRanges [(48, 57), (97, 102), (65, 70)] =
      ⟨[(48, 57), (65, 70), (97, 102)]⟩ := by
    simp [CharSet.ofRanges, List.mergeSort, CharSet.join]
  rw [pattern, formPattern, numberPattern, ← signSet, ← markSet, ← digitSet]
  rfl

theorem ofText_patternText : Pattern.ofText patternText = .ok pattern := by
  have small : pattern.isTooLarge = false := by decide +kernel
  have meant := meaning_patternText
  rw [Pattern.ofText]
  cases read : Pattern.Expr.ofText patternText with
  | error problem => simp [read, Except.bind] at meant
  | ok expr =>
    have meaning : expr.meaning {} = .ok (pattern, {}) := by simpa [read, Except.bind] using meant
    simp [bind, Except.bind, meaning, small]

section Matching

open Pattern

variable {front piece back : Text}

theorem matches_digits {set : CharSet} {kind : Text}
    (same : ∀ c, set.holds c.toNat = true ↔ c ∈ kind) :
    Matches (.repetition (.single set) 1 none) front piece back ↔ Digits kind piece := by
  rw [matches_many, Digits, Nat.one_le_iff_ne_zero, ne_eq, List.length_eq_zero_iff]
  simp [same]

theorem matches_sign :
    Matches (.repetition (.single ⟨[(43, 43), (45, 45)]⟩) 0 (some 1)) front piece back ↔
      piece ∈ signs := by
  have holds (c : Char) := @CharSet.holds_pair c '+' '-' (by decide)
  simp only [Char.reduceToNat] at holds
  rw [matches_many]
  match piece with
  | [] => simp [signs]
  | [c] => simp [signs, holds]
  | _ :: _ :: _ => simp [signs]

theorem matches_mark :
    Matches (.single ⟨[(88, 88), (120, 120)]⟩) front piece back ↔
      ∃ mark, (mark = 'x' ∨ mark = 'X') ∧ piece = [mark] := by
  constructor
  · rintro ⟨mark, rfl, holds⟩
    exact ⟨mark, ((CharSet.holds_pair 'X' 'x' (by decide)).mp holds).symm, rfl⟩
  · rintro ⟨mark, isMark, rfl⟩
    exact ⟨mark, rfl, (CharSet.holds_pair 'X' 'x' (by decide)).mpr isMark.symm⟩

theorem matches_decimalDigits :
    Matches (.repetition (.single (.range '0' '9')) 1 none) front piece back ↔
      Digits decimalDigits piece := by
  apply matches_digits
  intro c
  rw [mem_decimalDigits, CharSet.range, CharSet.holds_iff (List.pairwise_singleton _ _)]
  simp

theorem matches_hexadecimalDigits :
    Matches (.repetition (.single ⟨[(48, 57), (65, 70), (97, 102)]⟩) 1 none) front piece back ↔
      Digits hexadecimalDigits piece := by
  apply matches_digits
  intro c
  rw [mem_hexadecimalDigits, CharSet.holds_iff (by simp)]
  simp only [List.mem_cons, List.not_mem_nil, or_false, exists_eq_or_imp, exists_eq_left]
  omega

theorem form_of_numberPattern (inNumber : Matches numberPattern front piece back) :
    Form piece := by
  obtain ⟨sign, _, rfl, inSign, hexadecimal | decimal⟩ := inNumber
  · obtain ⟨_, _, rfl, inZero, _, digits, rfl, inMark, inDigits⟩ := hexadecimal
    obtain rfl := (matches_char '0').mp inZero
    obtain ⟨mark, isMark, rfl⟩ := matches_mark.mp inMark
    exact .hexadecimal (matches_sign.mp inSign) isMark (matches_hexadecimalDigits.mp inDigits)
  · exact .decimal (matches_sign.mp inSign) (matches_decimalDigits.mp decimal)

theorem matches_quotedPattern {quote : Char} :
    Matches (quotedPattern quote) front piece back ↔
      ∃ content, quote ∉ content ∧ piece = quote :: (content ++ [quote]) := by
  constructor
  · rintro ⟨_, _, rfl, opens, content, _, rfl, inContent, closes⟩
    obtain rfl := (matches_char quote).mp opens
    obtain rfl := (matches_char quote).mp closes
    obtain ⟨_, _, others⟩ := matches_many.mp inContent
    refine ⟨content, ?_, rfl⟩
    intro inside
    exact (CharSet.holds_others quote).mp (others quote inside) rfl
  · rintro ⟨content, outside, rfl⟩
    refine ⟨[quote], content ++ [quote], rfl, (matches_char quote).mpr rfl,
      content, [quote], rfl, matches_many.mpr ⟨Nat.zero_le _, by simp, ?_⟩,
      (matches_char quote).mpr rfl⟩
    intro c inside
    apply (CharSet.holds_others quote).mpr
    rintro rfl
    exact outside inside

theorem matches_formPattern : Matches formPattern front piece back ↔ Form piece := by
  constructor
  · rintro (inNumber | inSingle | inDouble)
    · exact form_of_numberPattern inNumber
    · obtain ⟨content, outside, rfl⟩ := matches_quotedPattern.mp inSingle
      exact .quoted (Or.inl rfl) outside
    · obtain ⟨content, outside, rfl⟩ := matches_quotedPattern.mp inDouble
      exact .quoted (Or.inr rfl) outside
  · intro form
    cases form with
    | @decimal sign digits signed inKind =>
      exact Or.inl ⟨sign, digits, rfl, matches_sign.mpr signed,
        Or.inr (matches_decimalDigits.mpr inKind)⟩
    | @hexadecimal sign digits mark signed isMark inKind =>
      exact Or.inl ⟨sign, '0' :: mark :: digits, rfl, matches_sign.mpr signed,
        Or.inl ⟨['0'], mark :: digits, rfl, (matches_char '0').mpr rfl,
          [mark], digits, rfl, matches_mark.mpr ⟨mark, isMark, rfl⟩,
          matches_hexadecimalDigits.mpr inKind⟩⟩
    | @quoted quote content isQuote outside =>
      have matched := (@matches_quotedPattern front _ back quote).mpr ⟨content, outside, rfl⟩
      rcases isQuote with rfl | rfl
      · exact Or.inr (Or.inl matched)
      · exact Or.inr (Or.inr matched)

theorem pattern_countsInOrder : pattern.CountsInOrder := by
  simp [pattern, formPattern, numberPattern, quotedPattern, CountsInOrder]

/-- The two anchors leave nothing in front of a match and nothing behind it. -/
theorem occursIn_pattern (word : Text) : pattern.occursIn word = true ↔ Form word := by
  rw [occursIn_iff pattern_countsInOrder]
  constructor
  · rintro ⟨front, _, back, rfl, _, _, rfl, ⟨rfl, starts⟩, piece, _, rfl, inForm, rfl, ends⟩
    have noFront : front = [] := by
      simpa [Anchor.holds, Spot.between] using starts
    have noBack : back = [] := by
      simpa [Anchor.holds, Spot.between] using ends
    rw [noFront, noBack]
    simpa using matches_formPattern.mp inForm
  · intro form
    exact ⟨[], word, [], by simp, [], word, rfl, ⟨rfl, rfl⟩, word, [], by simp,
      matches_formPattern.mpr form, rfl, rfl⟩

end Matching

end Literal

/-- The test for literals accepts exactly the words of the grammar, and exactly those in which the
pattern of literals occurs. -/
theorem isLiteral_accepts_grammar (word : Text) :
    (isLiteral word = true ↔ Literal.Form word) ∧
      ∃ pattern, Pattern.ofText Literal.patternText = .ok pattern ∧
        pattern.occursIn word = isLiteral word := by
  refine ⟨Literal.isLiteral_iff_form word, Literal.pattern, Literal.ofText_patternText, ?_⟩
  rw [Bool.eq_iff_iff, Literal.occursIn_pattern, Literal.isLiteral_iff_form]

-- a line feed may stand between quotes, but not behind a number
example : isLiteral ['"', '\n', '\'', '"'] = true ∧ isLiteral ['4', '2', '\n'] = false := by
  decide

end AsmSymbols
