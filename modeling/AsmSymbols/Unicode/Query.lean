import AsmSymbols.Unicode.Age
import AsmSymbols.Unicode.Break

/-!
# Asking for properties

A set of characters is asked for by a name, or by a property and one of its values.  Names are
matched loosely: case, blanks, hyphens, underscores and a leading `is` do not matter.
-/

set_option autoImplicit false

namespace AsmSymbols.Unicode

inductive Query where
  | named (name : Text)
  | valued (property value : Text)
  deriving DecidableEq, Repr

inductive QueryFault where
  | unknownProperty
  | unknownValue
  deriving DecidableEq, Repr

/-- The form in which names are compared.  Characters beyond ASCII are dropped.  `isc` keeps its
beginning, since without it another name would be left. -/
def looseName (name : Text) : String :=
  let behind :=
    match name with
    | first :: second :: rest =>
      if first.toLower == 'i' && second.toLower == 's' then rest else name
    | _ => name
  let kept := behind.filter fun c => c.toNat < 128 && c != ' ' && c != '_' && c != '-'
  let folded := kept.map Char.toLower
  if behind.length < name.length && folded == ['c'] then "isc" else String.ofList folded

/-- Names of properties that are no sets of characters, or none that can be asked for. -/
def otherProperties : List String :=
  ["age", "bc", "bidiclass", "bidim", "bidimirrored", "bidimirroringglyph", "bidipairedbracket",
    "bidipairedbrackettype", "blk", "block", "bmg", "bpb", "bpt", "canonicalcombiningclass",
    "casefolding", "ccc", "ce", "cf", "changeswhennfkccasefolded", "cjkaccountingnumeric",
    "cjkcompatibilityvariant", "cjkiicore", "cjkirggsource", "cjkirghsource", "cjkirgjsource",
    "cjkirgkpsource", "cjkirgksource", "cjkirgmsource", "cjkirgssource", "cjkirgtsource",
    "cjkirguksource", "cjkirgusource", "cjkirgvsource", "cjkothernumeric", "cjkprimarynumeric",
    "cjkrsunicode", "compex", "compositionexclusion", "cwkcf", "decompositionmapping",
    "decompositiontype", "dm", "dt", "ea", "eastasianwidth", "equideo",
    "equivalentunifiedideograph", "expandsonnfc", "expandsonnfd", "expandsonnfkc",
    "expandsonnfkd", "fcnfkc", "fcnfkcclosure", "fullcompositionexclusion", "gc", "gcb",
    "generalcategory", "graphemeclusterbreak", "hangulsyllabletype", "hst", "incb",
    "indicconjunctbreak", "indicpositionalcategory", "indicsyllabiccategory", "inpc", "insc",
    "isc", "isocomment", "jamoshortname", "jg", "joininggroup", "joiningtype", "jsn", "jt",
    "kaccountingnumeric", "kcompatibilityvariant", "kiicore", "kirggsource", "kirghsource",
    "kirgjsource", "kirgkpsource", "kirgksource", "kirgmsource", "kirgssource", "kirgtsource",
    "kirguksource", "kirgusource", "kirgvsource", "kothernumeric", "kprimarynumeric",
    "krsunicode", "lb", "lc", "linebreak", "lowercasemapping", "na", "na1", "name", "namealias",
    "nfcqc", "nfcquickcheck", "nfdqc", "nfdquickcheck", "nfkccasefold", "nfkccf", "nfkcqc",
    "nfkcquickcheck", "nfkcscf", "nfkcsimplecasefold", "nfkdqc", "nfkdquickcheck", "nt",
    "numerictype", "numericvalue", "nv", "sb", "sc", "scf", "script", "scriptextensions", "scx",
    "sentencebreak", "sfc", "simplecasefolding", "simplelowercasemapping",
    "simpletitlecasemapping", "simpleuppercasemapping", "slc", "stc", "suc", "tc",
    "titlecasemapping", "uc", "unicode1name", "unicoderadicalstroke", "uppercasemapping", "urs",
    "verticalorientation", "vo", "wb", "wordbreak", "xonfc", "xonfd", "xonfkc", "xonfkd"]

def Script.find (script : Script) (sets : Script → CharSet) : Except QueryFault CharSet :=
  if script.own.isEmpty then .error .unknownValue else .ok (sets script)

def Query.ofValue : Option CharSet → Except QueryFault CharSet
  | none => .error .unknownValue
  | some set => .ok set

/-- A name is tried as a property, as a category and as a script.  Three short names of properties
without sets mean categories. -/
def Query.findName (name : String) : Except QueryFault CharSet :=
  let isCategory := name == "cf" || name == "sc" || name == "lc"
  match propertySet? name with
  | some set => .ok set
  | none =>
    if !isCategory && otherProperties.contains name then .error .unknownProperty
    else if isEmptyCategory name then .error .unknownValue
    else
      match categorySet? name, Script.named? name with
      | some set, _ => .ok set
      | none, some script => script.find Script.set
      | none, none => .error .unknownProperty

def Query.findValue (property value : String) : Except QueryFault CharSet :=
  match property with
  | "gc" | "generalcategory" => ofValue (categorySet? value)
  | "sc" | "script" =>
    match Script.named? value with
    | none => .error .unknownValue
    | some script => script.find Script.set
  | "scx" | "scriptextensions" =>
    match Script.named? value with
    | none => .error .unknownValue
    | some script => script.find Script.extended
  | "age" => ofValue (Age.set? value)
  | "gcb" | "graphemeclusterbreak" => ofValue (Break.cluster? value)
  | "wb" | "wordbreak" => ofValue (Break.word? value)
  | "sb" | "sentencebreak" => ofValue (Break.sentence? value)
  | _ =>
    if otherProperties.contains property || (propertySet? property).isSome then
      .error .unknownValue
    else .error .unknownProperty

def Query.find : Query → Except QueryFault CharSet
  | .named name => findName (looseName name)
  | .valued property value => findValue (looseName property) (looseName value)

end AsmSymbols.Unicode
