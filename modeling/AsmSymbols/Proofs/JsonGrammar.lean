import Mathlib.Data.List.Basic
import AsmSymbols.Json
import AsmSymbols.Literal

/-!
# The JSON grammar

The texts of the JSON grammar, each with what it says.  The grammar is that of the interchange
format and knows more than reports need: null, signs, fractions and exponents, every escape, and
padding around every token.  A lone surrogate stands for no character, so a text with one says
nothing.

The indented form of a document is such a text and says what the document says
(`Json.spells_pretty`).
-/

set_option autoImplicit false

namespace AsmSymbols

/-- What a JSON text says.  A number is a whole number times a power of ten, and the fields of an
object keep their order. -/
inductive JsonValue where
  | null
  | bool (value : Bool)
  | number (digits scale : Int)
  | string (value : Text)
  | array (items : List JsonValue)
  | object (fields : List (Text × JsonValue))

namespace JsonValue

section Tokens

def isPadding (c : Char) : Bool := c == ' ' || c == '\t' || c == '\n' || c == '\r'

def Padding (text : Text) : Prop := ∀ c ∈ text, isPadding c = true

/-- The number that decimal digits write. -/
def numeral (digits : Text) : Nat := Nat.ofDigitChars 10 digits 0

structure Digits (text : Text) : Prop where
  nonempty : text ≠ []
  digits : ∀ c ∈ text, c.isDigit = true

/-- The digits in front of the point.  Only zero itself begins with a zero. -/
inductive WholeText : Text → Prop where
  | zero : WholeText ['0']
  | digits {lead : Char} {rest : Text} (leads : lead.isDigit = true) (nonzero : lead ≠ '0')
      (follows : ∀ c ∈ rest, c.isDigit = true) : WholeText (lead :: rest)

/-- A point with digits behind it, or nothing. -/
inductive FractionText : Text → Text → Prop where
  | absent : FractionText [] []
  | present {digits : Text} (some : Digits digits) : FractionText ('.' :: digits) digits

/-- A mark and a power of ten, or nothing. -/
inductive ExponentText : Text → Int → Prop where
  | absent : ExponentText [] 0
  | unsigned {mark : Char} {digits : Text} (marks : mark = 'e' ∨ mark = 'E')
      (some : Digits digits) : ExponentText (mark :: digits) (numeral digits)
  | positive {mark : Char} {digits : Text} (marks : mark = 'e' ∨ mark = 'E')
      (some : Digits digits) : ExponentText (mark :: '+' :: digits) (numeral digits)
  | negative {mark : Char} {digits : Text} (marks : mark = 'e' ∨ mark = 'E')
      (some : Digits digits) : ExponentText (mark :: '-' :: digits) (-(numeral digits : Int))

inductive UnsignedText : Text → Nat → Int → Prop where
  | parts {whole fraction exponent digits : Text} {power : Int} (wholePart : WholeText whole)
      (fractionPart : FractionText fraction digits) (exponentPart : ExponentText exponent power) :
      UnsignedText (whole ++ (fraction ++ exponent)) (numeral (whole ++ digits))
        (power - digits.length)

inductive NumberText : Text → Int → Int → Prop where
  | unsigned {text : Text} {digits : Nat} {scale : Int} (number : UnsignedText text digits scale) :
      NumberText text digits scale
  | negative {text : Text} {digits : Nat} {scale : Int} (number : UnsignedText text digits scale) :
      NumberText ('-' :: text) (-(digits : Int)) scale

/-- What a letter behind a backslash stands for, code units apart. -/
def escaped? : Char → Option Char
  | '"' => some '"'
  | '\\' => some '\\'
  | '/' => some '/'
  | 'b' => some '\x08'
  | 'f' => some '\x0c'
  | 'n' => some '\n'
  | 'r' => some '\r'
  | 't' => some '\t'
  | _ => none

/-- The value of a hexadecimal digit of either case. -/
def hexDigitValue (c : Char) : Nat :=
  if c.isDigit then c.toNat - '0'.toNat
  else if 'a' ≤ c then c.toNat - 'a'.toNat + 10
  else c.toNat - 'A'.toNat + 10

def hexNumeral (digits : Text) : Nat := digits.foldl (fun value c => 16 * value + hexDigitValue c) 0

/-- The four hexadecimal digits of a code unit. -/
structure UnitText (text : Text) (unit : Nat) : Prop where
  four : text.length = 4
  digits : ∀ c ∈ text, isHexDigit c = true
  value : hexNumeral text = unit

/-- The first half of a surrogate pair. -/
def isUpperUnit (unit : Nat) : Bool := 0xD800 ≤ unit && unit < 0xDC00

/-- The second half of a surrogate pair. -/
def isLowerUnit (unit : Nat) : Bool := 0xDC00 ≤ unit && unit < 0xE000

/-- The code point of a surrogate pair, of which either half carries ten bits. -/
def pairCode (upper lower : Nat) : Nat := 0x10000 + 0x400 * (upper % 0x400) + lower % 0x400

/-- One character of a string: itself, escaped by a letter, or given by its code units. -/
inductive CharText : Text → Char → Prop where
  | plain {c : Char} (printable : 32 ≤ c.toNat) (noQuote : c ≠ '"') (noEscape : c ≠ '\\') :
      CharText [c] c
  | escape {letter c : Char} (standsFor : escaped? letter = some c) : CharText ['\\', letter] c
  | unit {digits : Text} {c : Char} (code : UnitText digits c.toNat) :
      CharText ('\\' :: 'u' :: digits) c
  | pair {high low : Text} {upper lower : Nat} {c : Char} (first : UnitText high upper)
      (second : UnitText low lower) (isUpper : isUpperUnit upper = true)
      (isLower : isLowerUnit lower = true) (code : pairCode upper lower = c.toNat) :
      CharText ('\\' :: 'u' :: (high ++ '\\' :: 'u' :: low)) c

inductive CharsText : Text → Text → Prop where
  | nil : CharsText [] []
  | cons {text rest chars : Text} {c : Char} (first : CharText text c)
      (others : CharsText rest chars) : CharsText (text ++ rest) (c :: chars)

inductive StringText : Text → Text → Prop where
  | quoted {body chars : Text} (spelled : CharsText body chars) :
      StringText ('"' :: (body ++ ['"'])) chars

end Tokens

section Values

variable {α : Type}

/-- One item or more, with commas between them and padding around each. -/
inductive ListText (ItemText : Text → α → Prop) : Text → List α → Prop where
  | last {before text after : Text} {item : α} (front : Padding before)
      (spelled : ItemText text item) (back : Padding after) :
      ListText ItemText (before ++ (text ++ after)) [item]
  | more {before text after rest : Text} {item : α} {items : List α} (front : Padding before)
      (spelled : ItemText text item) (back : Padding after)
      (others : ListText ItemText rest items) :
      ListText ItemText (before ++ (text ++ (after ++ ',' :: rest))) (item :: items)

inductive FieldText (ItemText : Text → α → Prop) : Text → Text × α → Prop where
  | field {keyText key before after text : Text} {value : α} (named : StringText keyText key)
      (front : Padding before) (back : Padding after) (spelled : ItemText text value) :
      FieldText ItemText (keyText ++ (before ++ ':' :: (after ++ text))) (key, value)

inductive ValueText : Text → JsonValue → Prop where
  | null : ValueText ['n', 'u', 'l', 'l'] .null
  | yes : ValueText ['t', 'r', 'u', 'e'] (.bool true)
  | no : ValueText ['f', 'a', 'l', 's', 'e'] (.bool false)
  | number {text : Text} {digits scale : Int} (spelled : NumberText text digits scale) :
      ValueText text (.number digits scale)
  | string {text value : Text} (spelled : StringText text value) : ValueText text (.string value)
  | emptyArray {padding : Text} (inside : Padding padding) :
      ValueText ('[' :: (padding ++ [']'])) (.array [])
  | array {body : Text} {items : List JsonValue} (listed : ListText ValueText body items) :
      ValueText ('[' :: (body ++ [']'])) (.array items)
  | emptyObject {padding : Text} (inside : Padding padding) :
      ValueText ('\x7b' :: (padding ++ ['\x7d'])) (.object [])
  | object {body : Text} {fields : List (Text × JsonValue)}
      (listed : ListText (FieldText ValueText) body fields) :
      ValueText ('\x7b' :: (body ++ ['\x7d'])) (.object fields)

/-- The text is one of the JSON grammar and says this: a value with padding around it. -/
inductive Spells : Text → JsonValue → Prop where
  | padded {before text after : Text} {value : JsonValue} (front : Padding before)
      (spelled : ValueText text value) (back : Padding after) :
      Spells (before ++ (text ++ after)) value

/-- No object, at whatever depth, has two fields of one key. -/
inductive KeysDistinct : JsonValue → Prop where
  | null : KeysDistinct .null
  | bool (value : Bool) : KeysDistinct (.bool value)
  | number (digits scale : Int) : KeysDistinct (.number digits scale)
  | string (value : Text) : KeysDistinct (.string value)
  | array {items : List JsonValue} (each : ∀ item ∈ items, KeysDistinct item) :
      KeysDistinct (.array items)
  | object {fields : List (Text × JsonValue)} (distinct : (fields.map Prod.fst).Nodup)
      (each : ∀ field ∈ fields, KeysDistinct field.2) : KeysDistinct (.object fields)

end Values

end JsonValue

namespace Json

open JsonValue

section Meaning

mutual

/-- What a document says. -/
def value : Json → JsonValue
  | number n => .number n 0
  | bool b => .bool b
  | string text => .string text
  | array items => .array (values items)
  | object fields => .object (fieldValues fields)

def values : List Json → List JsonValue
  | [] => []
  | item :: rest => item.value :: values rest

def fieldValues : List (Text × Json) → List (Text × JsonValue)
  | [] => []
  | (key, item) :: rest => (key, item.value) :: fieldValues rest

end

theorem values_eq_map (items : List Json) : values items = items.map value := by
  induction items with
  | nil => rfl
  | cons item rest inductionHypothesis => rw [values, inductionHypothesis, List.map_cons]

theorem fieldValues_eq_map (fields : List (Text × Json)) :
    fieldValues fields = fields.map fun field => (field.1, field.2.value) := by
  induction fields with
  | nil => rfl
  | cons field rest inductionHypothesis => rw [fieldValues, inductionHypothesis, List.map_cons]

@[simp] theorem value_array (items : List Json) :
    (array items).value = .array (items.map value) := by
  rw [value, values_eq_map]

@[simp] theorem value_object (fields : List (Text × Json)) :
    (object fields).value = .object (fields.map fun field => (field.1, field.2.value)) := by
  rw [value, fieldValues_eq_map]

/-- Induction over a document and all that it holds. -/
theorem induction {motive : Json → Prop} (number : ∀ n, motive (.number n))
    (bool : ∀ b, motive (.bool b)) (string : ∀ text, motive (.string text))
    (array : ∀ items, (∀ item ∈ items, motive item) → motive (.array items))
    (object : ∀ fields, (∀ field ∈ fields, motive field.2) → motive (.object fields)) :
    ∀ json, motive json
  | .number n => number n
  | .bool b => bool b
  | .string text => string text
  | .array items => array items fun item _ => induction number bool string array object item
  | .object fields => object fields fun field _ => induction number bool string array object field.2
termination_by json => json
decreasing_by
  · have smaller := List.sizeOf_lt_of_mem ‹_›
    simp only [Json.array.sizeOf_spec]
    omega
  · have smaller := List.sizeOf_lt_of_mem ‹_›
    obtain ⟨key, item⟩ := field
    simp only [Json.object.sizeOf_spec, Prod.mk.sizeOf_spec] at smaller ⊢
    omega

end Meaning

section Writing

theorem padding_newline (depth : Nat) : Padding (newline depth) := by
  intro c inLine
  rcases List.mem_cons.mp inLine with rfl | isBlank
  · rfl
  · rw [List.eq_of_mem_replicate isBlank]
    rfl

theorem isHexDigit_digitChar : ∀ digit < 16, isHexDigit (Nat.digitChar digit) = true := by
  decide

theorem hexDigitValue_digitChar : ∀ digit < 16, hexDigitValue (Nat.digitChar digit) = digit := by
  decide

/-- The code unit of a control character. -/
theorem unitText_control {code : Nat} (control : code < 32) :
    UnitText ['0', '0', Nat.digitChar (code / 16), Nat.digitChar (code % 16)] code := by
  have upper : code / 16 < 16 := by omega
  have lower : code % 16 < 16 := by omega
  refine ⟨rfl, ?_, ?_⟩
  · simp only [List.mem_cons, List.not_mem_nil, or_false, forall_eq_or_imp, forall_eq]
    exact ⟨rfl, rfl, isHexDigit_digitChar _ upper, isHexDigit_digitChar _ lower⟩
  · have zero : hexDigitValue '0' = 0 := rfl
    simp only [hexNumeral, List.foldl_cons, List.foldl_nil, zero, hexDigitValue_digitChar _ upper,
      hexDigitValue_digitChar _ lower]
    omega

theorem charText_escape (c : Char) : CharText (escape c) c := by
  unfold escape
  split
  case h_8 noQuote noEscape _ _ _ _ _ =>
    split
    next control => exact .unit (unitText_control control)
    next printable => exact .plain (by omega) noQuote noEscape
  all_goals exact .escape rfl

theorem charsText_escape (text : Text) : CharsText (text.flatMap escape) text := by
  induction text with
  | nil => exact .nil
  | cons c rest inductionHypothesis => exact .cons (charText_escape c) inductionHypothesis

theorem stringText_quoted (text : Text) : StringText (quoted text) text :=
  .quoted (charsText_escape text)

theorem digitChar_ne_zero : ∀ digit < 10, 0 < digit → Nat.digitChar digit ≠ '0' := by
  decide

/-- The numeral of a positive number does not begin with a zero. -/
theorem toDigits_lead {n : Nat} (positive : 0 < n) :
    ∃ lead rest, Nat.toDigits 10 n = lead :: rest ∧ lead ≠ '0' := by
  induction n using Nat.strongRecOn with
  | ind n inductionHypothesis =>
    by_cases small : n < 10
    · exact ⟨Nat.digitChar n, [], Nat.toDigits_of_lt_base small,
        digitChar_ne_zero n small positive⟩
    · obtain ⟨lead, rest, written, nonzero⟩ :=
        inductionHypothesis (n / 10) (by omega) (by omega)
      refine ⟨lead, rest ++ [Nat.digitChar (n % 10)], ?_, nonzero⟩
      rw [Nat.toDigits_of_base_le (by omega) (by omega), written, List.cons_append]

theorem wholeText_decimal (n : Nat) : WholeText (Text.decimal n) := by
  have digits : ∀ c ∈ Text.decimal n, c.isDigit = true := fun c =>
    Nat.isDigit_of_mem_toDigits (by omega) (by omega)
  rcases Nat.eq_zero_or_pos n with rfl | positive
  · exact .zero
  · obtain ⟨lead, rest, written, nonzero⟩ := toDigits_lead positive
    rw [Text.decimal, written, List.forall_mem_cons] at digits
    rw [Text.decimal, written]
    exact .digits digits.1 nonzero digits.2

theorem numberText_decimal (n : Nat) : NumberText (Text.decimal n) n 0 := by
  have parts := UnsignedText.parts (wholeText_decimal n) .absent .absent
  have written : numeral (Text.decimal n) = n := Nat.ofDigitChars_toDigits (by omega) (by omega)
  simp only [List.append_nil, written, List.length_nil] at parts
  exact .unsigned parts

theorem prettyItems_eq_flatMap (depth : Nat) (items : List Json) :
    prettyItems depth items =
      items.flatMap fun item => ',' :: (newline depth ++ prettyAt depth item) := by
  induction items with
  | nil => rfl
  | cons item rest inductionHypothesis => simp [prettyItems, inductionHypothesis]

/-- A field of an indented object. -/
def prettyField (depth : Nat) (field : Text × Json) : Text :=
  quoted field.1 ++ ([] ++ ':' :: ([' '] ++ prettyAt depth field.2))

theorem prettyFields_eq_flatMap (depth : Nat) (fields : List (Text × Json)) :
    prettyFields depth fields =
      fields.flatMap fun field => ',' :: (newline depth ++ prettyField depth field) := by
  induction fields with
  | nil => rfl
  | cons field rest inductionHypothesis => simp [prettyFields, prettyField, inductionHypothesis]

theorem prettyAt_array (depth : Nat) (item : Json) (rest : List Json) :
    prettyAt depth (array (item :: rest)) =
      '[' :: (newline (depth + 1) ++
        (prettyAt (depth + 1) item ++ (prettyItems (depth + 1) rest ++ newline depth)) ++
          [']']) := by
  rw [prettyAt]
  simp only [List.append_assoc]
  rfl

theorem prettyAt_object (depth : Nat) (field : Text × Json) (rest : List (Text × Json)) :
    prettyAt depth (object (field :: rest)) =
      '\x7b' :: (newline (depth + 1) ++
        (prettyField (depth + 1) field ++ (prettyFields (depth + 1) rest ++ newline depth)) ++
          ['\x7d']) := by
  rw [prettyAt, prettyField]
  simp only [List.append_assoc]
  rfl

theorem padding_nil : Padding [] := by
  simp [Padding]

/-- Items on lines of their own, a comma at the end of each line but the last. -/
theorem listText_lines {α β : Type} {ItemText : Text → β → Prop} (depth : Nat) {padding : Text}
    (blank : Padding padding) (write : α → Text) (meaning : α → β) (item : α) (rest : List α)
    (spelled : ∀ each ∈ item :: rest, ItemText (write each) (meaning each)) :
    ListText ItemText
      (newline depth ++
        (write item ++
          ((rest.flatMap fun each => ',' :: (newline depth ++ write each)) ++ padding)))
      ((item :: rest).map meaning) := by
  induction rest generalizing item with
  | nil => exact .last (padding_newline depth) (spelled item (by simp)) blank
  | cons next rest inductionHypothesis =>
    have others := inductionHypothesis next fun each inRest =>
      spelled each (List.mem_cons_of_mem _ inRest)
    have listed := ListText.more (padding_newline depth) (spelled item (by simp)) padding_nil others
    rw [List.flatMap_cons, List.append_assoc, List.cons_append, List.append_assoc]
    exact listed

theorem valueText_prettyAt (depth : Nat) (json : Json) :
    ValueText (prettyAt depth json) json.value := by
  induction json using Json.induction generalizing depth with
  | number n => exact .number (numberText_decimal n)
  | bool b =>
    cases b with
    | true => exact .yes
    | false => exact .no
  | string text => exact .string (stringText_quoted text)
  | array items inductionHypothesis =>
    rw [value_array]
    cases items with
    | nil => exact .emptyArray padding_nil
    | cons item rest =>
      have listed := listText_lines (depth + 1) (padding_newline depth) (prettyAt (depth + 1)) value
        item rest fun each inItems => inductionHypothesis each inItems (depth + 1)
      rw [prettyAt_array, prettyItems_eq_flatMap]
      exact .array listed
  | object fields inductionHypothesis =>
    rw [value_object]
    cases fields with
    | nil => exact .emptyObject padding_nil
    | cons field rest =>
      have spelled : ∀ each ∈ field :: rest,
          FieldText ValueText (prettyField (depth + 1) each) (each.1, each.2.value) :=
        fun each inFields => .field (stringText_quoted each.1) padding_nil
          (by simp [Padding, isPadding]) (inductionHypothesis each inFields (depth + 1))
      have listed := listText_lines (depth + 1) (padding_newline depth) _ _ field rest spelled
      rw [prettyAt_object, prettyFields_eq_flatMap]
      exact .object listed

/-- The indented form of a document is a text of the grammar and says what the document says. -/
theorem spells_pretty (json : Json) : Spells json.pretty json.value := by
  have spelled := Spells.padded padding_nil (valueText_prettyAt 0 json) padding_nil
  rwa [List.nil_append, List.append_nil] at spelled

end Writing

end Json

end AsmSymbols
