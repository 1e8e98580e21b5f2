import AsmSymbols.Report
import AsmSymbols.Proofs.JsonReading
import AsmSymbols.Proofs.Linking

/-!
# Reading reports back

What a JSON report tells, and a reader for it.  Each kind of record has a reader that asks for
exactly the fields that are written, in the order in which they are written, and finds the record
again in what its document says.  A JSON text says one thing only, so a report tells all of its
tables to whoever reads JSON, and two reports that agree as texts agree in everything they tell.
-/

set_option autoImplicit false

namespace AsmSymbols

/-- What a report tells of a module. -/
structure ModuleContents where
  name : Text
  definitions : DefinitionTable
  usages : UsageTable
  deriving DecidableEq

/-- What a report tells. -/
structure Report.Contents where
  modules : List ModuleContents
  /-- The linked symbols, of a job that was linked. -/
  globals : Option Globals
  deriving DecidableEq

def Module.contents (module : Module) : ModuleContents :=
  ⟨module.name, module.definitions, module.usages⟩

def Report.contents (modules : List Module) (globals : Option Globals) : Report.Contents :=
  ⟨modules.map Module.contents, globals⟩

namespace JsonValue

section Parts

variable {α : Type}

def text? : JsonValue → Option Text
  | .string value => some value
  | _ => none

def bool? : JsonValue → Option Bool
  | .bool value => some value
  | _ => none

/-- A whole number that is written without a point or a power. -/
def natural? : JsonValue → Option Nat
  | .number (.ofNat value) 0 => some value
  | _ => none

def items? (readItem? : JsonValue → Option α) : JsonValue → Option (List α)
  | .array items => items.mapM readItem?
  | _ => none

/-- A table, each entry of which is a field. -/
def table? (readHeld? : JsonValue → Option α) : JsonValue → Option (Table Text α)
  | .object fields =>
    (fields.mapM fun field => (readHeld? field.2).map fun entry => (field.1, entry)).map Table.mk
  | _ => none

/-- The values of an object that has these fields in this order, and no other. -/
def members? (names : List Text) : JsonValue → Option (List JsonValue)
  | .object fields => if fields.map Prod.fst = names then some (fields.map Prod.snd) else none
  | _ => none

end Parts

end JsonValue

open JsonValue

section Records

def Definition.ofValue? (value : JsonValue) : Option Definition :=
  match value.members? ["symbol", "line", "offset", "external"] with
  | some [symbol, line, offset, external] => do
    some ⟨← symbol.text?, ← line.natural?, ← offset.natural?, ← external.bool?⟩
  | _ => none

def Usage.ofValue? (value : JsonValue) : Option Usage :=
  match value.members? ["symbol", "line", "offset"] with
  | some [symbol, line, offset] => do
    some ⟨← symbol.text?, ← line.natural?, ← offset.natural?⟩
  | _ => none

def GlobalDefinition.ofValue? (value : JsonValue) : Option GlobalDefinition :=
  match value.members? ["module", "line", "offset"] with
  | some [module, line, offset] => do
    some ⟨← module.text?, ← line.natural?, ← offset.natural?⟩
  | _ => none

def ModuleContents.ofValue? (value : JsonValue) : Option ModuleContents :=
  match value.members? ["name", "definitions", "usages"] with
  | some [name, definitions, usages] => do
    some ⟨← name.text?, ← definitions.table? Definition.ofValue?,
      ← usages.table? (items? Usage.ofValue?)⟩
  | _ => none

/-- What a document tells, if it is a report.  The linked symbols may be missing. -/
def Report.Contents.ofValue? (value : JsonValue) : Option Report.Contents :=
  match value.members? ["modules"] with
  | some [modules] => do some ⟨← modules.items? ModuleContents.ofValue?, none⟩
  | _ =>
    match value.members? ["modules", "globals"] with
    | some [modules, globals] => do
      some ⟨← modules.items? ModuleContents.ofValue?,
        some (← globals.table? GlobalDefinition.ofValue?)⟩
    | _ => none

/-- What a text tells, if it is a report. -/
def Report.read? (text : Text) : Option Report.Contents :=
  (JsonValue.read? text).bind Report.Contents.ofValue?

end Records

section Telling

variable {α : Type}

@[simp] theorem text?_value (text : Text) : (Json.string text).value.text? = some text := rfl

@[simp] theorem natural?_value (n : Nat) : (Json.number n).value.natural? = some n := rfl

@[simp] theorem bool?_value (b : Bool) : (Json.bool b).value.bool? = some b := rfl

theorem mapM_of_reads {β γ : Type} (read? : β → Option γ) (write : α → β) (tell : α → γ)
    (reads : ∀ item, read? (write item) = some (tell item)) (items : List α) :
    (items.map write).mapM read? = some (items.map tell) := by
  induction items with
  | nil => rfl
  | cons item rest inductionHypothesis => simp [reads, inductionHypothesis]

/-- What the items of a list tell is found in the list. -/
theorem items?_value {γ : Type} {readItem? : JsonValue → Option γ} {write : α → Json} {tell : α → γ}
    (reads : ∀ item, readItem? (write item).value = some (tell item)) (items : List α) :
    (Json.array (items.map write)).value.items? readItem? = some (items.map tell) := by
  rw [Json.value_array, List.map_map]
  exact mapM_of_reads readItem? _ tell reads items

/-- A table is found again if its entries are. -/
theorem table?_value {readHeld? : JsonValue → Option α} {write : α → Json}
    (reads : ∀ entry, readHeld? (write entry).value = some entry) (table : Table Text α) :
    (Json.object (table.entries.map fun entry => (entry.1, write entry.2))).value.table?
      readHeld? = some table := by
  have entries := mapM_of_reads
    (fun field => (readHeld? field.2).map fun entry => (field.1, entry))
    (fun entry : Text × α => (entry.1, (write entry.2).value)) id (by simp [reads]) table.entries
  rw [List.map_id] at entries
  rw [Json.value_object, List.map_map, table?]
  exact congrArg (Option.map Table.mk) entries

theorem Definition.ofValue?_json (definition : Definition) :
    Definition.ofValue? definition.json.value = some definition := by
  simp [Definition.ofValue?, Definition.json, members?]

theorem Usage.ofValue?_json (usage : Usage) : Usage.ofValue? usage.json.value = some usage := by
  simp [Usage.ofValue?, Usage.json, members?]

theorem GlobalDefinition.ofValue?_json (definition : GlobalDefinition) :
    GlobalDefinition.ofValue? definition.json.value = some definition := by
  simp [GlobalDefinition.ofValue?, GlobalDefinition.json, members?]

theorem DefinitionTable.table?_json (table : DefinitionTable) :
    table.json.value.table? Definition.ofValue? = some table :=
  table?_value Definition.ofValue?_json table

theorem UsageTable.table?_json (table : UsageTable) :
    table.json.value.table? (items? Usage.ofValue?) = some table := by
  have reads (usages : List Usage) :
      (Json.array (usages.map Usage.json)).value.items? Usage.ofValue? = some usages := by
    simpa only [List.map_id'] using items?_value Usage.ofValue?_json usages
  exact table?_value reads table

theorem Globals.table?_json (table : Globals) :
    table.json.value.table? GlobalDefinition.ofValue? = some table :=
  table?_value GlobalDefinition.ofValue?_json table

theorem ModuleContents.ofValue?_json (module : Module) :
    ModuleContents.ofValue? module.json.value = some module.contents := by
  simp [ModuleContents.ofValue?, Module.json, members?, DefinitionTable.table?_json,
    UsageTable.table?_json, Module.contents]

theorem Report.Contents.ofValue?_document (modules : List Module) (globals : Option Globals) :
    Contents.ofValue? (document modules globals).value = some (contents modules globals) := by
  have scanned := items?_value ModuleContents.ofValue?_json modules
  cases globals with
  | none =>
    simp [Contents.ofValue?, document, members?, -Json.value_array, scanned, contents]
  | some table =>
    simp [Contents.ofValue?, document, members?, -Json.value_array, scanned, Globals.table?_json,
      contents]

end Telling

section Keys

variable {α : Type}

theorem keysDistinct_fields {fields : List (Text × Json)} (distinct : (fields.map Prod.fst).Nodup)
    (each : ∀ field ∈ fields, field.2.value.KeysDistinct) :
    (Json.object fields).value.KeysDistinct := by
  rw [Json.value_object]
  apply KeysDistinct.object
  · rwa [List.map_map]
  · exact List.forall_mem_map.mpr each

theorem keysDistinct_items {write : α → Json} (each : ∀ item, (write item).value.KeysDistinct)
    (items : List α) : (Json.array (items.map write)).value.KeysDistinct := by
  rw [Json.value_array, List.map_map]
  apply KeysDistinct.array
  exact List.forall_mem_map.mpr fun item _ => each item

theorem keysDistinct_table {write : α → Json} (each : ∀ entry, (write entry).value.KeysDistinct)
    {table : Table Text α} (distinct : table.keys.Nodup) :
    (Json.object (table.entries.map fun entry => (entry.1, write entry.2))).value.KeysDistinct := by
  apply keysDistinct_fields
  · rwa [List.map_map]
  · exact List.forall_mem_map.mpr fun entry _ => each entry.2

theorem Definition.keysDistinct_json (definition : Definition) :
    definition.json.value.KeysDistinct := by
  apply keysDistinct_fields
  · simp
  · simp [Json.value, KeysDistinct.string, KeysDistinct.number, KeysDistinct.bool]

theorem Usage.keysDistinct_json (usage : Usage) : usage.json.value.KeysDistinct := by
  apply keysDistinct_fields
  · simp
  · simp [Json.value, KeysDistinct.string, KeysDistinct.number]

theorem GlobalDefinition.keysDistinct_json (definition : GlobalDefinition) :
    definition.json.value.KeysDistinct := by
  apply keysDistinct_fields
  · simp
  · simp [Json.value, KeysDistinct.string, KeysDistinct.number]

theorem Module.keysDistinct_json {module : Module}
    (distinctDefinitions : module.definitions.keys.Nodup)
    (distinctUsages : module.usages.keys.Nodup) : module.json.value.KeysDistinct := by
  have definitions : module.definitions.json.value.KeysDistinct :=
    keysDistinct_table Definition.keysDistinct_json distinctDefinitions
  have usages : module.usages.json.value.KeysDistinct :=
    keysDistinct_table (keysDistinct_items Usage.keysDistinct_json) distinctUsages
  apply keysDistinct_fields
  · simp
  · simp [Json.value, KeysDistinct.string, definitions, usages]

/-- A scan leaves distinct keys in the tables of every module, so only the linked symbols have to
be asked for theirs. -/
theorem Report.keysDistinct_document (set : InstructionSet) (modules : List Module)
    {globals : Option Globals} (distinct : ∀ table ∈ globals, table.keys.Nodup) :
    (document (assemble set modules) globals).value.KeysDistinct := by
  have scanned : (Json.array ((assemble set modules).map Module.json)).value.KeysDistinct := by
    rw [assemble, List.map_map]
    apply keysDistinct_items
    intro module
    exact Module.keysDistinct_json (Symbols.nodup_keys_definitions_ofLines set module.lines)
      (Symbols.nodup_keys_usages_ofLines set module.lines)
  cases globals with
  | none =>
    apply keysDistinct_fields
    · simp
    · simpa [-Json.value_array] using scanned
  | some table =>
    have linked : table.json.value.KeysDistinct :=
      keysDistinct_table GlobalDefinition.keysDistinct_json (distinct table rfl)
    apply keysDistinct_fields
    · simp
    · simpa [-Json.value_array] using ⟨scanned, linked⟩

end Keys

namespace Report

theorem read?_json (modules : List Module) (globals : Option Globals) :
    read? (json modules globals) = some (contents modules globals) := by
  rw [read?, json, (Json.spells_pretty _).read, Option.bind_some, Contents.ofValue?_document]

/-- A JSON report is a text of the JSON grammar.  It says one thing, in which no object repeats a
key and in which everything is found that the report tells: the modules in order, each with its
name and its tables in order, and the linked symbols if there are any.  So reports of jobs that
differ in any of this differ. -/
theorem json_tells_contents (set : InstructionSet) (modules : List Module)
    (globals : Option Globals) (distinct : ∀ table ∈ globals, table.keys.Nodup) :
    (∃ value, Spells (json (assemble set modules) globals) value ∧
      (∀ other, Spells (json (assemble set modules) globals) other → other = value) ∧
      value.KeysDistinct ∧
      Contents.ofValue? value = some (contents (assemble set modules) globals)) ∧
    read? (json (assemble set modules) globals) =
      some (contents (assemble set modules) globals) ∧
    ∀ otherSet otherModules otherGlobals,
      json (assemble otherSet otherModules) otherGlobals = json (assemble set modules) globals →
        contents (assemble otherSet otherModules) otherGlobals =
          contents (assemble set modules) globals := by
  have spells := Json.spells_pretty (document (assemble set modules) globals)
  refine ⟨⟨_, spells, ?_, ?_, ?_⟩, read?_json _ _, ?_⟩
  · intro other also
    exact spells.unique also
  · exact keysDistinct_document set modules distinct
  · exact Contents.ofValue?_document _ _
  · -- both contents are read from the one text
    intro otherSet otherModules otherGlobals sameText
    have readAlike := congrArg read? sameText
    rw [read?_json, read?_json] at readAlike
    exact Option.some.inj readAlike

/-- A linked job with a quote, a backslash, a control character and a letter beyond ASCII in its
names.  Its report tells them all, and would differ had the job not been linked. -/
theorem json_tells_odd_symbols :
    let modules := [Module.ofText "d\\a".toList "q\"\\\x01é: LOAD y".toList,
      Module.ofText "b\n".toList "Y: STOP".toList]
    let job := assemble .standard modules
    let key := "Q\"\\\x01é".toList
    let table : Globals :=
      ⟨[(key, ⟨"d\\a".toList, 0, 0⟩), ("Y".toList, ⟨"b\n".toList, 0, 0⟩)]⟩
    let told : Contents :=
      ⟨[⟨"d\\a".toList, ⟨[(key, ⟨"q\"\\\x01é".toList, 0, 0, false⟩)]⟩,
          ⟨[("Y".toList, [⟨"y".toList, 0, 13⟩])]⟩⟩,
        ⟨"b\n".toList, ⟨[("Y".toList, ⟨"Y".toList, 0, 0, false⟩)]⟩, ⟨[]⟩⟩], some table⟩
    link job = .ok table ∧ (∀ linked ∈ some table, linked.keys.Nodup) ∧
      (∃ value, Spells (json job (some table)) value ∧
        (∀ other, Spells (json job (some table)) other → other = value) ∧
        value.KeysDistinct ∧ Contents.ofValue? value = some told) ∧
      read? (json job (some table)) = some told ∧ json job none ≠ json job (some table) := by
  intro modules job key table told
  have linked : link job = .ok table := by decide +kernel
  have distinct : ∀ linked ∈ some table, linked.keys.Nodup := by
    rintro _ ⟨⟩
    exact (link_ok linked).2.1
  have tellsThis : contents job (some table) = told := by decide +kernel
  obtain ⟨said, found, alike⟩ := json_tells_contents .standard modules (some table) distinct
  rw [← tellsThis]
  refine ⟨linked, distinct, said, found, ?_⟩
  intro sameText
  cases congrArg Contents.globals (alike .standard modules none sameText)

end Report

end AsmSymbols
