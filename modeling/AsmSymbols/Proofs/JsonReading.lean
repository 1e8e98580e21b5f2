import AsmSymbols.Proofs.JsonGrammar

/-!
# Reading JSON texts

A reader for the JSON grammar.  Every part of it takes a text and gives what stands at its front
together with the rest.  It finds whatever the grammar spells, in front of any rest that cannot
carry on a number (`Closes`); so a text of the grammar says one thing only.
-/

set_option autoImplicit false

namespace AsmSymbols.JsonValue

section Reader

def skipPadding (text : Text) : Text := text.dropWhile isPadding

/-- The digits at the front, of which there must be one. -/
def readDigits? (text : Text) : Option (Text × Text) :=
  if (text.takeWhile Char.isDigit).isEmpty then none
  else some (text.takeWhile Char.isDigit, text.dropWhile Char.isDigit)

def readFraction? : Text → Option (Text × Text)
  | [] => some ([], [])
  | c :: rest => if c = '.' then readDigits? rest else some ([], c :: rest)

def readPower? : Text → Option (Int × Text)
  | [] => none
  | c :: rest =>
    if c = '-' then (readDigits? rest).map fun (digits, rest) => (-(numeral digits : Int), rest)
    else
      (readDigits? (if c = '+' then rest else c :: rest)).map fun (digits, rest) =>
        ((numeral digits : Int), rest)

def readExponent? : Text → Option (Int × Text)
  | [] => some (0, [])
  | c :: rest => if c = 'e' ∨ c = 'E' then readPower? rest else some (0, c :: rest)

/-- The digits in front of a point.  A zero must stand alone. -/
def readWhole? (text : Text) : Option (Text × Text) :=
  (readDigits? text).filter fun (whole, _) => whole = ['0'] ∨ whole.head? ≠ some '0'

def readUnsigned? (text : Text) : Option (Nat × Int × Text) := do
  let (whole, rest) ← readWhole? text
  let (fraction, rest) ← readFraction? rest
  let (power, rest) ← readExponent? rest
  some (numeral (whole ++ fraction), power - fraction.length, rest)

def readNumber? : Text → Option (JsonValue × Text)
  | [] => none
  | c :: rest =>
    if c = '-' then
      (readUnsigned? rest).map fun (digits, scale, rest) => (.number (-(digits : Int)) scale, rest)
    else (readUnsigned? (c :: rest)).map fun (digits, scale, rest) => (.number digits scale, rest)

def readUnit? (text : Text) : Option (Nat × Text) :=
  if (text.take 4).length = 4 ∧ (text.take 4).all isHexDigit then
    some (hexNumeral (text.take 4), text.drop 4)
  else none

/-- The character of a code point, if it has one. -/
def charOf? (code : Nat) : Option Char :=
  if (Char.ofNat code).toNat = code then some (Char.ofNat code) else none

/-- The second half of a surrogate pair, with its backslash. -/
def readLower? : Text → Option (Nat × Text)
  | '\\' :: 'u' :: rest => (readUnit? rest).filter fun (unit, _) => isLowerUnit unit
  | _ => none

/-- A character that is given by a surrogate pair, behind its first half. -/
def readPair? (unit : Nat) (text : Text) : Option (Char × Text) :=
  (readLower? text).bind fun (low, rest) => (charOf? (pairCode unit low)).map fun c => (c, rest)

/-- A character that is given by code units, behind its first backslash and letter. -/
def readUnits? (text : Text) : Option (Char × Text) :=
  (readUnit? text).bind fun (unit, rest) =>
    if isUpperUnit unit then readPair? unit rest else (charOf? unit).map fun c => (c, rest)

def readEscape? : Text → Option (Char × Text)
  | [] => none
  | letter :: rest =>
    if letter = 'u' then readUnits? rest else (escaped? letter).map fun c => (c, rest)

def readChar? : Text → Option (Char × Text)
  | [] => none
  | c :: rest =>
    if c = '\\' then readEscape? rest
    else if c.toNat < 32 ∨ c = '"' then none
    else some (c, rest)

/-- The characters up to the closing quote. -/
def readChars? : Nat → Text → Option (Text × Text)
  | 0, _ => none
  | bound + 1, text =>
    if text.head? = some '"' then some ([], text.tail)
    else do
      let (c, rest) ← readChar? text
      let (chars, rest) ← readChars? bound rest
      some (c :: chars, rest)

def readString? : Text → Option (Text × Text)
  | [] => none
  | c :: rest => if c = '"' then readChars? (rest.length + 1) rest else none

variable {α : Type}

/-- Items up to the closing bracket, of which there must be one. -/
def readItems? (close : Char) (readItem? : Text → Option (α × Text)) :
    Nat → Text → Option (List α × Text)
  | 0, _ => none
  | bound + 1, text => do
    let (item, rest) ← readItem? (skipPadding text)
    match skipPadding rest with
    | [] => none
    | c :: rest =>
      if c = close then some ([item], rest)
      else if c = ',' then
        (readItems? close readItem? bound rest).map fun (items, rest) => (item :: items, rest)
      else none

/-- Items up to the closing bracket, behind the opening one. -/
def readList? (close : Char) (readItem? : Text → Option (α × Text)) (text : Text) :
    Option (List α × Text) :=
  if (skipPadding text).head? = some close then some ([], (skipPadding text).tail)
  else readItems? close readItem? (text.length + 1) text

def readField? (readItem? : Text → Option (α × Text)) (text : Text) :
    Option ((Text × α) × Text) := do
  let (key, rest) ← readString? text
  match skipPadding rest with
  | [] => none
  | c :: rest =>
    if c = ':' then (readItem? (skipPadding rest)).map fun (value, rest) => ((key, value), rest)
    else none

def readWord? (word : Text) (value : JsonValue) (text : Text) : Option (JsonValue × Text) :=
  if word.isPrefixOf text then some (value, text.drop word.length) else none

/-- The value at the front of a text, if it is not nested deeper than `depth`. -/
def readValue? : Nat → Text → Option (JsonValue × Text)
  | 0, _ => none
  | _, [] => none
  | depth + 1, c :: rest =>
    if c = '"' then (readString? (c :: rest)).map fun (value, rest) => (.string value, rest)
    else if c = '[' then
      (readList? ']' (readValue? depth) rest).map fun (items, rest) => (.array items, rest)
    else if c = '\x7b' then
      (readList? '\x7d' (readField? (readValue? depth)) rest).map fun (fields, rest) =>
        (.object fields, rest)
    else if c = 'n' then readWord? ['n', 'u', 'l', 'l'] .null (c :: rest)
    else if c = 't' then readWord? ['t', 'r', 'u', 'e'] (.bool true) (c :: rest)
    else if c = 'f' then readWord? ['f', 'a', 'l', 's', 'e'] (.bool false) (c :: rest)
    else readNumber? (c :: rest)

/-- What a whole text says. -/
def read? (text : Text) : Option JsonValue :=
  (readValue? (text.length + 1) (skipPadding text)).bind fun (value, rest) =>
    if (skipPadding rest).isEmpty then some value else none

end Reader

section Fronts

variable {isBad : Char → Bool} {text rest : Text}

/-- The text does not begin with such a character. -/
def StartsWithout (isBad : Char → Bool) (text : Text) : Prop := ∀ c ∈ text.head?, isBad c = false

@[simp] theorem startsWithout_nil : StartsWithout isBad [] := by
  simp [StartsWithout]

@[simp] theorem startsWithout_cons {c : Char} :
    StartsWithout isBad (c :: rest) ↔ isBad c = false := by
  simp [StartsWithout]

theorem StartsWithout.mono {isWorse : Char → Bool} (starts : StartsWithout isBad text)
    (covers : ∀ c, isBad c = false → isWorse c = false) : StartsWithout isWorse text :=
  fun c isFirst => covers c (starts c isFirst)

theorem StartsWithout.takeWhile (starts : StartsWithout isBad text) :
    text.takeWhile isBad = [] := by
  cases text with
  | nil => rfl
  | cons c rest => simp [startsWithout_cons.mp starts]

theorem StartsWithout.dropWhile (starts : StartsWithout isBad text) :
    text.dropWhile isBad = text := by
  cases text with
  | nil => rfl
  | cons c rest => simp [startsWithout_cons.mp starts]

theorem skipPadding_append {padding : Text} (blank : Padding padding)
    (starts : StartsWithout isPadding rest) : skipPadding (padding ++ rest) = rest := by
  rw [skipPadding, List.dropWhile_append_of_pos blank, starts.dropWhile]

/-- Characters with which a number could go on. -/
def continuesNumber (c : Char) : Bool := c.isDigit || c == '.' || c == 'e' || c == 'E'

/-- What stands behind a value: nothing that could belong to a number. -/
def Closes (rest : Text) : Prop := StartsWithout continuesNumber rest

theorem continuesNumber_of_isPadding {c : Char} (isBlank : isPadding c = true) :
    continuesNumber c = false := by
  simp only [isPadding, Bool.or_eq_true, beq_iff_eq] at isBlank
  rcases isBlank with ((rfl | rfl) | rfl) | rfl <;> rfl

theorem closes_padding {padding : Text} (blank : Padding padding) (closes : Closes rest) :
    Closes (padding ++ rest) := by
  cases padding with
  | nil => exact closes
  | cons first padding =>
    apply startsWithout_cons.mpr
    exact continuesNumber_of_isPadding (blank first (by simp))

end Fronts

section Numbers

variable {text rest digits : Text}

theorem readDigits?_append (some : Digits digits) (stops : StartsWithout Char.isDigit rest) :
    readDigits? (digits ++ rest) = .some (digits, rest) := by
  have taken : (digits ++ rest).takeWhile Char.isDigit = digits := by
    rw [List.takeWhile_append_of_pos some.digits, stops.takeWhile, List.append_nil]
  have left : (digits ++ rest).dropWhile Char.isDigit = rest := by
    rw [List.dropWhile_append_of_pos some.digits, stops.dropWhile]
  rw [readDigits?, taken, left, if_neg]
  simpa using some.nonempty

theorem Closes.noDigit (closes : Closes rest) : StartsWithout Char.isDigit rest :=
  closes.mono fun c closing => by simp_all [continuesNumber]

theorem Digits.starts (some : Digits digits) :
    ∃ c more, digits = c :: more ∧ c.isDigit = true := by
  obtain ⟨c, more, rfl⟩ := List.exists_cons_of_ne_nil some.nonempty
  exact ⟨c, more, rfl, some.digits c (by simp)⟩

theorem ne_of_isDigit {c other : Char} (isDigit : c.isDigit = true)
    (different : other.isDigit = false) : c ≠ other := by
  rintro rfl
  rw [isDigit] at different
  cases different

theorem FractionText.read (fraction : FractionText text digits)
    (stops : StartsWithout (fun c => c.isDigit || c == '.') rest) :
    readFraction? (text ++ rest) = some (digits, rest) := by
  cases fraction with
  | absent =>
    cases rest with
    | nil => rfl
    | cons c rest =>
      have stops := startsWithout_cons.mp stops
      simp only [Bool.or_eq_false_iff, beq_eq_false_iff_ne] at stops
      simp [readFraction?, stops.2]
  | present some =>
    rw [List.cons_append, readFraction?, if_pos rfl]
    apply readDigits?_append some
    exact stops.mono fun c closing => by simp_all

theorem ExponentText.read {power : Int} (exponent : ExponentText text power)
    (closes : Closes rest) : readExponent? (text ++ rest) = some (power, rest) := by
  cases exponent with
  | absent =>
    cases rest with
    | nil => rfl
    | cons c rest =>
      have closes := startsWithout_cons.mp closes
      simp_all [readExponent?, continuesNumber]
  | unsigned marks some =>
    obtain ⟨c, more, rfl, isDigit⟩ := some.starts
    have noMinus : c ≠ '-' := ne_of_isDigit isDigit rfl
    have noPlus : c ≠ '+' := ne_of_isDigit isDigit rfl
    have read := readDigits?_append some closes.noDigit
    rw [List.cons_append] at read
    simp [readExponent?, readPower?, marks, noMinus, noPlus, read]
  | positive marks some =>
    simp [readExponent?, readPower?, marks, readDigits?_append some closes.noDigit]
  | negative marks some =>
    simp [readExponent?, readPower?, marks, readDigits?_append some closes.noDigit]

theorem WholeText.digitsText (whole : WholeText text) : Digits text := by
  cases whole with
  | zero => exact ⟨by simp, by simp⟩
  | digits leads nonzero follows => exact ⟨by simp, List.forall_mem_cons.mpr ⟨leads, follows⟩⟩

theorem WholeText.read (whole : WholeText text) (stops : StartsWithout Char.isDigit rest) :
    readWhole? (text ++ rest) = some (text, rest) := by
  rw [readWhole?, readDigits?_append whole.digitsText stops]
  cases whole with
  | zero => rfl
  | digits leads nonzero follows => simp [nonzero]

theorem UnsignedText.read {number : Nat} {scale : Int} (spelled : UnsignedText text number scale)
    (closes : Closes rest) : readUnsigned? (text ++ rest) = some (number, scale, rest) := by
  cases spelled with
  | @parts whole fraction exponent digits power wholePart fractionPart exponentPart =>
    have noPoint : StartsWithout (fun c => c.isDigit || c == '.') (exponent ++ rest) := by
      cases exponentPart with
      | absent => exact closes.mono fun c closing => by simp_all [continuesNumber]
      | unsigned marks | positive marks | negative marks =>
        rcases marks with rfl | rfl <;> simp
    have noDigit : StartsWithout Char.isDigit (fraction ++ (exponent ++ rest)) := by
      cases fractionPart with
      | absent => exact noPoint.mono fun c closing => by simp_all
      | present => simp
    simp [readUnsigned?, wholePart.read noDigit, fractionPart.read noPoint,
      exponentPart.read closes]

theorem UnsignedText.starts {number : Nat} {scale : Int}
    (spelled : UnsignedText text number scale) : ∃ c more, text = c :: more ∧ c.isDigit = true := by
  cases spelled with
  | parts wholePart =>
    obtain ⟨c, more, rfl, isDigit⟩ := wholePart.digitsText.starts
    exact ⟨c, _, rfl, isDigit⟩

theorem NumberText.read {number scale : Int} (spelled : NumberText text number scale)
    (closes : Closes rest) : readNumber? (text ++ rest) = some (.number number scale, rest) := by
  cases spelled with
  | unsigned spelled =>
    have read := spelled.read closes
    obtain ⟨c, more, rfl, isDigit⟩ := spelled.starts
    have noMinus : c ≠ '-' := ne_of_isDigit isDigit rfl
    rw [List.cons_append] at read
    simp [readNumber?, noMinus, read]
  | negative spelled => simp [readNumber?, spelled.read closes]

end Numbers

section Strings

variable {text rest : Text}

theorem UnitText.read {unit : Nat} (spelled : UnitText text unit) :
    readUnit? (text ++ rest) = some (unit, rest) := by
  have taken : (text ++ rest).take 4 = text := List.take_left' spelled.four
  have left : (text ++ rest).drop 4 = rest := List.drop_left' spelled.four
  have allDigits : text.all isHexDigit = true := List.all_eq_true.mpr spelled.digits
  rw [readUnit?, taken, left, if_pos ⟨spelled.four, allDigits⟩, spelled.value]

theorem charOf?_toNat (c : Char) : charOf? c.toNat = some c := by
  rw [charOf?, Char.ofNat_toNat, if_pos rfl]

/-- No character has the code of a surrogate. -/
theorem toNat_notSurrogate (c : Char) : c.toNat < 0xD800 ∨ 0xE000 ≤ c.toNat := by
  have valid := c.valid
  simp only [UInt32.isValidChar, Nat.isValidChar] at valid
  change c.val.toNat < 0xD800 ∨ 0xE000 ≤ c.val.toNat
  omega

theorem UnitText.readLower {unit : Nat} (spelled : UnitText text unit)
    (isLower : isLowerUnit unit = true) :
    readLower? ('\\' :: 'u' :: (text ++ rest)) = some (unit, rest) := by
  rw [readLower?, spelled.read, Option.filter_some, if_pos isLower]

theorem UnitText.readPair {c : Char} {upper lower : Nat} (spelled : UnitText text lower)
    (isLower : isLowerUnit lower = true) (code : pairCode upper lower = c.toNat) :
    readPair? upper ('\\' :: 'u' :: (text ++ rest)) = some (c, rest) := by
  simp only [readPair?, spelled.readLower isLower, Option.bind_some, code, charOf?_toNat,
    Option.map_some]

theorem CharText.read {c : Char} (spelled : CharText text c) :
    readChar? (text ++ rest) = some (c, rest) := by
  cases spelled with
  | plain printable noQuote noEscape =>
    simp [readChar?, noEscape, noQuote, Nat.not_lt.mpr printable]
  | @escape letter c standsFor =>
    have noUnit : letter ≠ 'u' := by
      rintro rfl
      cases standsFor
    simp [readChar?, readEscape?, noUnit, standsFor]
  | unit code =>
    have noPair : isUpperUnit c.toNat = false := by
      have := toNat_notSurrogate c
      simp only [isUpperUnit, Bool.and_eq_false_iff, decide_eq_false_iff_not]
      omega
    simp [readChar?, readEscape?, readUnits?, code.read, noPair, charOf?_toNat]
  | @pair high low upper lower _ first second isUpper isLower code =>
    simp only [List.cons_append, List.append_assoc, readChar?, readEscape?, readUnits?, ↓reduceIte,
      first.read, Option.bind_some, isUpper, second.readPair isLower code]

theorem CharText.starts {c : Char} (spelled : CharText text c) :
    ∃ first more, text = first :: more ∧ first ≠ '"' := by
  cases spelled with
  | plain printable noQuote noEscape => exact ⟨c, [], rfl, noQuote⟩
  | escape standsFor => exact ⟨_, _, rfl, by decide⟩
  | unit code => exact ⟨_, _, rfl, by decide⟩
  | pair first second isUpper isLower code => exact ⟨_, _, rfl, by decide⟩

theorem CharsText.read {chars : Text} (spelled : CharsText text chars) {bound : Nat}
    (short : text.length < bound) :
    readChars? bound (text ++ '"' :: rest) = some (chars, rest) := by
  induction spelled generalizing bound with
  | nil =>
    obtain ⟨bound, rfl⟩ := Nat.exists_eq_succ_of_ne_zero (Nat.ne_of_gt short)
    rfl
  | @cons front others chars c first _ inductionHypothesis =>
    obtain ⟨bound, rfl⟩ := Nat.exists_eq_succ_of_ne_zero (Nat.ne_of_gt (Nat.zero_lt_of_lt short))
    have readFirst : readChar? (front ++ (others ++ '"' :: rest)) = _ := first.read
    obtain ⟨begins, more, rfl, noQuote⟩ := first.starts
    have shorter : others.length < bound := by
      simp only [List.length_append, List.length_cons] at short
      omega
    have readOthers := inductionHypothesis shorter
    rw [List.cons_append] at readFirst
    rw [List.append_assoc, List.cons_append]
    simp only [readChars?, readFirst, readOthers, List.head?_cons, Option.some.injEq, noQuote,
      ↓reduceIte, Option.bind_eq_bind, Option.bind_some]

theorem StringText.read {chars : Text} (spelled : StringText text chars) :
    readString? (text ++ rest) = some (chars, rest) := by
  cases spelled with
  | quoted spelled =>
    rw [List.cons_append, List.append_assoc, readString?, if_pos rfl]
    apply spelled.read
    simp only [List.length_append]
    omega

end Strings

section Lists

variable {α : Type} {ItemText : Text → α → Prop} {readItem? : Text → Option (α × Text)}
variable {text rest : Text} {close : Char} {limit : Nat}

/-- The text begins with something that is neither padding nor the end of a list. -/
def Opens (text : Text) : Prop :=
  ∃ c more, text = c :: more ∧ isPadding c = false ∧ c ≠ ']' ∧ c ≠ '\x7d'

theorem Opens.append (opens : Opens text) : Opens (text ++ rest) := by
  obtain ⟨c, more, rfl, solid, goesOn⟩ := opens
  exact ⟨c, more ++ rest, rfl, solid, goesOn⟩

theorem Opens.starts (opens : Opens text) : StartsWithout isPadding text := by
  obtain ⟨c, more, rfl, solid, _⟩ := opens
  exact startsWithout_cons.mpr solid

/-- The reader finds every item of at most `limit` characters. -/
structure Finds (ItemText : Text → α → Prop) (readItem? : Text → Option (α × Text))
    (limit : Nat) : Prop where
  opens : ∀ {text item}, ItemText text item → Opens text
  reads : ∀ {text item rest}, ItemText text item → text.length ≤ limit → Closes rest →
    readItem? (text ++ rest) = some (item, rest)

/-- An item with padding around it is found, and so is the mark behind it. -/
theorem Finds.padded (finds : Finds ItemText readItem? limit) {before after : Text} {item : α}
    {mark : Char} (front : Padding before) (spelled : ItemText text item) (back : Padding after)
    (short : text.length ≤ limit) (solid : isPadding mark = false)
    (ends : continuesNumber mark = false) (rest : Text) :
    readItem? (skipPadding (before ++ (text ++ (after ++ mark :: rest)))) =
        some (item, after ++ mark :: rest) ∧
      skipPadding (after ++ mark :: rest) = mark :: rest := by
  have marked : skipPadding (after ++ mark :: rest) = mark :: rest :=
    skipPadding_append back (startsWithout_cons.mpr solid)
  have closes : Closes (after ++ mark :: rest) :=
    closes_padding back (startsWithout_cons.mpr ends)
  rw [skipPadding_append front (finds.opens spelled).append.starts]
  exact ⟨finds.reads spelled short closes, marked⟩

theorem ListText.readItems {items : List α} (listed : ListText ItemText text items)
    (finds : Finds ItemText readItem? limit) (closing : close = ']' ∨ close = '\x7d') {bound : Nat}
    (short : text.length ≤ limit) (fits : text.length < bound) :
    readItems? close readItem? bound (text ++ close :: rest) = some (items, rest) := by
  have solid : isPadding close = false := by rcases closing with rfl | rfl <;> rfl
  have ends : continuesNumber close = false := by rcases closing with rfl | rfl <;> rfl
  have noComma : ',' ≠ close := by rcases closing with rfl | rfl <;> decide
  -- Every item uses up one of the bound, and every item but the last has a comma of its own.
  induction listed generalizing bound with
  | last front spelled back =>
    obtain ⟨bound, rfl⟩ := Nat.exists_eq_succ_of_ne_zero (Nat.ne_zero_of_lt fits)
    simp only [List.length_append] at short
    obtain ⟨found, marked⟩ :=
      finds.padded front spelled back (by omega) solid ends rest
    simp only [List.append_assoc, readItems?, found, marked, Option.bind_eq_bind, Option.bind_some,
      ↓reduceIte]
  | @more _ _ _ others _ _ front spelled back _ inductionHypothesis =>
    obtain ⟨bound, rfl⟩ := Nat.exists_eq_succ_of_ne_zero (Nat.ne_zero_of_lt fits)
    simp only [List.length_append, List.length_cons] at short fits
    obtain ⟨found, marked⟩ :=
      finds.padded front spelled back (by omega) (by decide : isPadding ',' = false)
        (by decide) (others ++ close :: rest)
    simp only [List.append_assoc, List.cons_append, readItems?, found, marked, noComma,
      inductionHypothesis (by omega : _ ≤ limit) (by omega : _ < bound), Option.bind_eq_bind,
      Option.bind_some, ↓reduceIte, Option.map_some]

theorem ListText.opens {items : List α} (listed : ListText ItemText text items)
    (opens : ∀ {text item}, ItemText text item → Opens text) (rest : Text) :
    Opens (skipPadding (text ++ rest)) := by
  cases listed with
  | last front spelled back | more front spelled back =>
    have opens := opens spelled
    rw [List.append_assoc, List.append_assoc, skipPadding_append front opens.append.starts]
    exact opens.append

theorem ListText.read {items : List α} (listed : ListText ItemText text items)
    (finds : Finds ItemText readItem? limit) (closing : close = ']' ∨ close = '\x7d')
    (short : text.length ≤ limit) :
    readList? close readItem? (text ++ close :: rest) = some (items, rest) := by
  obtain ⟨c, more, begins, _, noBracket, noBrace⟩ := listed.opens finds.opens (close :: rest)
  have goesOn : c ≠ close := by rcases closing with rfl | rfl <;> assumption
  rw [readList?, begins, List.head?_cons, if_neg (by simpa using goesOn)]
  apply listed.readItems finds closing short
  simp only [List.length_append]
  omega

theorem readList?_empty {padding : Text} (inside : Padding padding)
    (closing : close = ']' ∨ close = '\x7d') :
    readList? close readItem? (padding ++ close :: rest) = some ([], rest) := by
  have solid : isPadding close = false := by rcases closing with rfl | rfl <;> rfl
  rw [readList?, skipPadding_append inside (startsWithout_cons.mpr solid), List.head?_cons,
    if_pos rfl, List.tail_cons]

theorem StringText.opens {chars : Text} (spelled : StringText text chars) : Opens text := by
  cases spelled with
  | quoted => exact ⟨'"', _, rfl, by decide, by decide, by decide⟩

/-- Fields are found wherever their values are. -/
theorem Finds.field (finds : Finds ItemText readItem? limit) :
    Finds (FieldText ItemText) (readField? readItem?) limit where
  opens := by
    rintro _ _ ⟨named, _, _, _⟩
    exact named.opens.append
  reads := by
    rintro _ _ rest (@⟨_, _, _, after, text, _, named, front, back, spelled⟩) short closes
    simp only [List.length_append, List.length_cons] at short
    have atColon : ∀ others, skipPadding (_ ++ ':' :: others) = ':' :: others := fun others =>
      skipPadding_append front (startsWithout_cons.mpr rfl)
    have atValue : skipPadding (after ++ (text ++ rest)) = text ++ rest :=
      skipPadding_append back (finds.opens spelled).append.starts
    have value := finds.reads spelled (by omega) closes
    simp only [List.append_assoc, List.cons_append, readField?, named.read, atColon, atValue, value,
      Option.bind_eq_bind, Option.bind_some, ↓reduceIte, Option.map_some]

end Lists

section Values

variable {text rest : Text}

theorem NumberText.starts {digits scale : Int} (spelled : NumberText text digits scale) :
    ∃ c more, text = c :: more ∧ (c = '-' ∨ c.isDigit = true) := by
  cases spelled with
  | unsigned spelled =>
    obtain ⟨c, more, rfl, isDigit⟩ := spelled.starts
    exact ⟨c, more, rfl, .inr isDigit⟩
  | negative => exact ⟨'-', _, rfl, .inl rfl⟩

/-- A character with which a number begins is none with which anything else does. -/
theorem ne_of_startsNumber {c other : Char} (starts : c = '-' ∨ c.isDigit = true)
    (noMinus : '-' ≠ other) (noDigit : other.isDigit = false) : c ≠ other := by
  rcases starts with rfl | isDigit
  · exact noMinus
  · exact ne_of_isDigit isDigit noDigit

theorem NumberText.opens {digits scale : Int} (spelled : NumberText text digits scale) :
    Opens text := by
  obtain ⟨c, more, rfl, starts⟩ := spelled.starts
  refine ⟨c, more, rfl, ?_, ne_of_startsNumber starts (by decide) rfl,
    ne_of_startsNumber starts (by decide) rfl⟩
  simp [isPadding, ne_of_startsNumber starts]

theorem ValueText.opens {value : JsonValue} (spelled : ValueText text value) : Opens text := by
  cases spelled with
  | number spelled => exact spelled.opens
  | string spelled => exact spelled.opens
  | null | yes | no | emptyArray | array | emptyObject | object =>
    exact ⟨_, _, rfl, by decide, by decide, by decide⟩

/-- Behind the front of a number only a number is read. -/
theorem NumberText.readValue {digits scale : Int} (spelled : NumberText text digits scale)
    (closes : Closes rest) (depth : Nat) :
    readValue? (depth + 1) (text ++ rest) = some (.number digits scale, rest) := by
  have read := spelled.read closes
  obtain ⟨c, more, rfl, starts⟩ := spelled.starts
  rw [List.cons_append] at read ⊢
  rw [readValue?]
  simpa [ne_of_startsNumber starts] using read

/-- A value is not nested deeper than its text is long. -/
theorem finds_value (limit : Nat) : Finds ValueText (readValue? (limit + 1)) limit := by
  -- Lists nest the grammar in itself, so the induction is on the length: what brackets hold is
  -- shorter than they are.
  induction limit with
  | zero =>
    refine ⟨ValueText.opens, ?_⟩
    intro text value rest spelled short
    obtain ⟨c, more, rfl, _⟩ := spelled.opens
    cases short
  | succ limit inductionHypothesis =>
    refine ⟨ValueText.opens, ?_⟩
    intro text value rest spelled short closes
    cases spelled with
    | null | yes | no => simp [readValue?, readWord?]
    | number spelled => exact spelled.readValue closes _
    | string spelled =>
      have read : readString? (text ++ rest) = _ := spelled.read
      cases spelled
      rw [List.cons_append] at read ⊢
      simp only [readValue?, ↓reduceIte, read, Option.map_some]
    | emptyArray inside => simp [readValue?, readList?_empty inside]
    | emptyObject inside => simp [readValue?, readList?_empty inside]
    | @array body items listed =>
      simp only [List.length_cons, List.length_append] at short
      have read : readList? ']' _ (body ++ ']' :: rest) = some (items, rest) :=
        listed.read inductionHypothesis (.inl rfl) (by omega)
      simp [readValue?, read]
    | @object body fields listed =>
      simp only [List.length_cons, List.length_append] at short
      have read : readList? '\x7d' _ (body ++ '\x7d' :: rest) = some (fields, rest) :=
        listed.read inductionHypothesis.field (.inr rfl) (by omega)
      simp [readValue?, read]

/-- The reader finds what a text says. -/
theorem Spells.read {value : JsonValue} (spells : Spells text value) : read? text = some value := by
  obtain @⟨before, text, after, _, front, spelled, back⟩ := spells
  have opens : skipPadding (before ++ (text ++ after)) = text ++ after :=
    skipPadding_append front spelled.opens.append.starts
  have ends : skipPadding after = [] := by
    simpa using skipPadding_append back startsWithout_nil
  have closes : Closes after := by
    simpa using closes_padding back startsWithout_nil
  have short : text.length ≤ (before ++ (text ++ after)).length := by
    simp only [List.length_append]
    omega
  have read := (finds_value _).reads spelled short closes
  simp only [read?, opens, read, Option.bind_some, ends, List.isEmpty_nil, ↓reduceIte]

/-- A text says one thing only. -/
theorem Spells.unique {value other : JsonValue} (spells : Spells text value)
    (also : Spells text other) : other = value :=
  Option.some.inj (also.read.symm.trans spells.read)

end Values

end AsmSymbols.JsonValue
