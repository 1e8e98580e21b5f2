import AsmSymbols.Proofs.Scanner

/-!
# Texts as bytes

Offsets count bytes, while the rules of the language speak of characters.  `Text.bytes` is the UTF-8
form of a text, of which `byteLength` is the length.  A byte below 128 belongs to a character of its
own (`eq_iff_of_mem_utf8EncodeChar`), so blanks, terminators and semicolons can be told by their
bytes.
-/

set_option autoImplicit false

namespace AsmSymbols

namespace Text

/-- The UTF-8 form. -/
def bytes (text : Text) : List UInt8 := text.flatMap String.utf8EncodeChar

@[simp] theorem bytes_cons (c : Char) (text : Text) :
    bytes (c :: text) = String.utf8EncodeChar c ++ bytes text := List.flatMap_cons

@[simp] theorem bytes_append (front back : Text) :
    bytes (front ++ back) = bytes front ++ bytes back := List.flatMap_append

@[simp] theorem length_bytes (text : Text) : (bytes text).length = byteLength text := by
  induction text with
  | nil => rfl
  | cons c text inductionHypothesis => simp [inductionHypothesis]

theorem mem_bytes {text : Text} {byte : UInt8} :
    byte ∈ bytes text ↔ ∃ c ∈ text, byte ∈ String.utf8EncodeChar c := List.mem_flatMap

/-- A piece of a text is a slice of its bytes. -/
theorem StandsAt.extract_bytes {piece text : Text} {offset : Nat}
    (stands : piece.StandsAt offset text) :
    (bytes text).extract offset (offset + byteLength piece) = bytes piece := by
  obtain ⟨front, back, rfl, rfl⟩ := stands
  simp [← length_bytes]

/-- The byte at a position that lies in a piece is a byte of this piece. -/
theorem mem_bytes_of_getElem? {front piece back : Text} {position : Nat} {byte : UInt8}
    (found : (bytes (front ++ piece ++ back))[position]? = some byte)
    (behind : byteLength front ≤ position) (before : position < byteLength (front ++ piece)) :
    byte ∈ bytes piece := by
  rw [byteLength_append] at before
  rw [List.append_assoc, bytes_append, bytes_append, List.getElem?_append_right (by simpa),
    List.getElem?_append_left (by rw [length_bytes, length_bytes]; omega)] at found
  exact List.mem_of_getElem? found

end Text

section Ascii

variable {c d : Char} {byte : UInt8}

/-- The only byte of an ASCII character is its code; all bytes of others lie above that range. -/
theorem toNat_of_mem_utf8EncodeChar (inBytes : byte ∈ String.utf8EncodeChar c) :
    c.toNat < 128 ∧ byte.toNat = c.toNat ∨ 128 ≤ c.toNat ∧ 128 ≤ byte.toNat := by
  have code : c.val.toNat = c.toNat := rfl
  rw [String.utf8EncodeChar] at inBytes
  split at inBytes
  · refine Or.inl ⟨by omega, ?_⟩
    rw [List.mem_singleton.mp inBytes, UInt8.toNat_ofNat']
    omega
  · refine Or.inr ⟨by omega, ?_⟩
    split at inBytes
    · simp only [List.mem_cons, List.not_mem_nil, or_false] at inBytes
      rcases inBytes with rfl | rfl <;> rw [UInt8.toNat_ofNat'] <;> omega
    · split at inBytes
      · simp only [List.mem_cons, List.not_mem_nil, or_false] at inBytes
        rcases inBytes with rfl | rfl | rfl <;> rw [UInt8.toNat_ofNat'] <;> omega
      · simp only [List.mem_cons, List.not_mem_nil, or_false] at inBytes
        rcases inBytes with rfl | rfl | rfl | rfl <;> rw [UInt8.toNat_ofNat'] <;> omega

theorem eq_iff_of_mem_utf8EncodeChar (ascii : d.toNat < 128)
    (inBytes : byte ∈ String.utf8EncodeChar c) : byte = d.toUInt8 ↔ c = d := by
  have code : d.toUInt8.toNat = d.toNat := by
    have short : d.val.toNat < 256 := Nat.lt_trans ascii (by decide)
    rw [Char.toUInt8, UInt32.toNat_toUInt8]
    exact Nat.mod_eq_of_lt short
  rw [← UInt8.toNat_inj, code, ← Char.toNat_inj]
  have := toNat_of_mem_utf8EncodeChar inBytes
  omega

theorem beq_of_mem_utf8EncodeChar (ascii : d.toNat < 128)
    (inBytes : byte ∈ String.utf8EncodeChar c) : (byte == d.toUInt8) = (c == d) := by
  rw [Bool.eq_iff_iff, beq_iff_eq, beq_iff_eq]
  exact eq_iff_of_mem_utf8EncodeChar ascii inBytes

end Ascii

/-- The bytes of blanks. -/
def isBlankByte (byte : UInt8) : Bool := byte == ' '.toUInt8 || byte == '\t'.toUInt8

/-- The bytes that no word holds. -/
def endsWordByte (byte : UInt8) : Bool :=
  isBlankByte byte || byte == ':'.toUInt8 || byte == ';'.toUInt8

section Classes

variable {c : Char} {text : Text} {byte : UInt8}

theorem isBlankByte_of_mem (inBytes : byte ∈ String.utf8EncodeChar c) :
    isBlankByte byte = isBlank c := by
  rw [isBlankByte, beq_of_mem_utf8EncodeChar (by decide) inBytes,
    beq_of_mem_utf8EncodeChar (by decide) inBytes]
  rfl

theorem endsWordByte_of_mem (inBytes : byte ∈ String.utf8EncodeChar c) :
    endsWordByte byte = !isWordChar c := by
  rw [endsWordByte, isBlankByte_of_mem inBytes, beq_of_mem_utf8EncodeChar (by decide) inBytes,
    beq_of_mem_utf8EncodeChar (by decide) inBytes]
  simp [isWordChar, bne, Bool.not_and]

theorem isBlankByte_of_blanks (blank : ∀ c ∈ text, isBlank c = true)
    (inBytes : byte ∈ Text.bytes text) : isBlankByte byte = true := by
  obtain ⟨c, inText, inBytes⟩ := Text.mem_bytes.mp inBytes
  rw [isBlankByte_of_mem inBytes, blank c inText]

theorem endsWordByte_of_word (inWord : ∀ c ∈ text, isWordChar c = true)
    (inBytes : byte ∈ Text.bytes text) : endsWordByte byte = false := by
  obtain ⟨c, inText, inBytes⟩ := Text.mem_bytes.mp inBytes
  rw [endsWordByte_of_mem inBytes, inWord c inText]
  rfl

theorem semicolon_notMem_bytes (plain : ';' ∉ text) : ';'.toUInt8 ∉ Text.bytes text := by
  intro inBytes
  obtain ⟨c, inText, inBytes⟩ := Text.mem_bytes.mp inBytes
  have isSemicolon := (eq_iff_of_mem_utf8EncodeChar (by decide) inBytes).mp rfl
  exact plain (isSemicolon ▸ inText)

end Classes

/-- The byte position of the first semicolon of a line, or the length of the line. -/
def commentStart (line : Text) : Nat := (Text.bytes line).idxOf ';'.toUInt8

theorem codeOf_split (line : Text) :
    line = codeOf line ∨ ∃ comment, line = codeOf line ++ ';' :: comment := by
  induction line with
  | nil => exact Or.inl rfl
  | cons c line inductionHypothesis =>
    by_cases comment : c = ';'
    · subst comment
      exact Or.inr ⟨line, rfl⟩
    · have kept : codeOf (c :: line) = c :: codeOf line := by simp [codeOf, comment]
      rw [kept]
      rcases inductionHypothesis with whole | ⟨rest, split⟩
      · exact Or.inl (congrArg (c :: ·) whole)
      · exact Or.inr ⟨rest, congrArg (c :: ·) split⟩

/-- Code reaches up to the first semicolon. -/
theorem commentStart_eq (line : Text) : commentStart line = Text.byteLength (codeOf line) := by
  have plain := semicolon_notMem_bytes (semicolon_notMem_codeOf line)
  unfold commentStart
  rcases codeOf_split line with whole | ⟨comment, split⟩
  · rw [← whole] at plain ⊢
    rw [List.idxOf_eq_length plain, Text.length_bytes]
  · conv => lhs; rw [split]
    have starts : Text.bytes (';' :: comment) = ';'.toUInt8 :: Text.bytes comment := rfl
    rw [Text.bytes_append, List.idxOf_append, if_neg plain, starts, List.idxOf_cons_self,
      Text.length_bytes, Nat.zero_add]

end AsmSymbols
