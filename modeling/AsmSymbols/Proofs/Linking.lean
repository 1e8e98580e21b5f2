import Mathlib.Data.List.Nodup
import AsmSymbols.Link
import AsmSymbols.Proofs.Labels
import AsmSymbols.Proofs.Placement

/-!
# What a successful link finds

A merge that succeeds has put all exports into one table, in order and under distinct keys; one that
fails stopped at the first key that was taken (`Globals.merge_cases`).  A link that succeeds has
also looked up every key that a module uses (`link_ok`).  Together with what a scan leaves in the
tables of a module (`Module.Built`), every usage leads to one label: that of the only module that
defines its symbol.
-/

set_option autoImplicit false

namespace AsmSymbols

def Export.key (offered : Export) : Text := symbolKey offered.symbol

namespace Globals

/-- A merge takes all exports in order, if their keys are new and distinct.  Otherwise it stops at
the first one whose key is taken. -/
theorem merge_cases {globals : Globals} (distinct : globals.keys.Nodup) (offers : List Export) :
    (∃ merged, globals.merge offers = .ok merged ∧
        merged.entries =
          globals.entries ++ offers.map (fun offered => (offered.key, offered.definition)) ∧
        merged.keys.Nodup) ∨
      ∃ before offered after held, offers = before ++ offered :: after ∧
        (globals.keys ++ before.map Export.key).Nodup ∧
        (offered.key, held) ∈
          globals.entries ++ before.map (fun other => (other.key, other.definition)) ∧
        globals.merge offers =
          .error (.multiplyDefined offered.symbol held.module offered.definition.module) := by
  induction offers generalizing globals with
  | nil => exact Or.inl ⟨globals, rfl, by simp, distinct⟩
  | cons first offers inductionHypothesis =>
    rw [merge]
    cases taken : globals.get? first.symbol with
    | some held =>
      refine Or.inr ⟨[], first, offers, held, rfl, by simpa using distinct, ?_, rfl⟩
      exact List.mem_append_left _ (Table.mem_entries_of_find? taken)
    | none =>
      have fresh : first.key ∉ globals.keys := Table.find?_eq_none_iff.mp taken
      have grown : (globals.insert first.key first.definition).entries =
          globals.entries ++ [(first.key, first.definition)] :=
        Table.entries_insert_of_notMem fresh
      have grownKeys : (globals.insert first.key first.definition).keys =
          globals.keys ++ [first.key] := by
        rw [Table.keys, grown, List.map_append]
        rfl
      have stillDistinct : (globals.insert first.key first.definition).keys.Nodup := by
        rw [grownKeys, ← List.concat_eq_append]
        exact distinct.concat fresh
      have later := inductionHypothesis stillDistinct
      rw [grownKeys, grown] at later
      rcases later with ⟨merged, succeeds, entries, allDistinct⟩ |
        ⟨before, offered, after, held, rfl, distinctBefore, taken, fails⟩
      · exact Or.inl ⟨merged, succeeds, by simpa using entries, allDistinct⟩
      · refine Or.inr ⟨first :: before, offered, after, held, rfl, ?_, ?_, fails⟩
        · simpa using distinctBefore
        · simpa using taken

/-- A merge that succeeds appends all exports, and no key comes twice. -/
theorem merge_ok {globals merged : Globals} {offers : List Export} (distinct : globals.keys.Nodup)
    (succeeded : globals.merge offers = .ok merged) :
    merged.entries =
        globals.entries ++ offers.map (fun offered => (offered.key, offered.definition)) ∧
      merged.keys.Nodup := by
  rcases merge_cases distinct offers with ⟨_, succeeds, made⟩ | ⟨_, _, _, _, _, _, _, fails⟩
  · rw [succeeds] at succeeded
    cases succeeded
    exact made
  · rw [fails] at succeeded
    cases succeeded

theorem missing?_eq_none {globals : Globals} {module : Module} {key : Text} {held : List Usage}
    (complete : globals.missing? module = none) (used : (key, held) ∈ module.usages.entries)
    (nonempty : held ≠ []) : globals.contains key = true := by
  have looked := List.findSome?_eq_none_iff.mp complete (key, held) used
  by_contra absent
  obtain ⟨usage, rest, rfl⟩ := List.exists_cons_of_ne_nil nonempty
  simp [absent] at looked

end Globals

section Stages

variable {modules : List Module} {globals : Globals}

theorem link_of_unmerged {problem : LinkError}
    (failed : Globals.merge {} (modules.flatMap Module.exports) = .error problem) :
    link modules = .error problem := by
  rw [link, linkOr, failed]

/-- Once all exports are merged, the first missing symbol decides. -/
theorem link_of_merged (merged : Globals.merge {} (modules.flatMap Module.exports) = .ok globals) :
    link modules = (modules.findSome? globals.missing?).elim (.ok globals) .error := by
  have passedOver : globals.missing? = globals.missingOr? fun _ _ => none := rfl
  rw [link, linkOr, merged, passedOver]
  dsimp only
  cases modules.findSome? (globals.missingOr? fun _ _ => none) <;> rfl

theorem merge_of_link (linked : link modules = .ok globals) :
    Globals.merge {} (modules.flatMap Module.exports) = .ok globals ∧
      modules.findSome? globals.missing? = none := by
  cases merged : Globals.merge {} (modules.flatMap Module.exports) with
  | error problem =>
    rw [link_of_unmerged merged] at linked
    cases linked
  | ok held =>
    rw [link_of_merged merged] at linked
    cases missing : modules.findSome? held.missing? with
    | some problem =>
      rw [missing] at linked
      cases linked
    | none =>
      rw [missing] at linked
      cases linked
      exact ⟨rfl, missing⟩

/-- A link that succeeds has merged the exports of all modules and misses no symbol. -/
theorem link_ok (linked : link modules = .ok globals) :
    globals.entries = (modules.flatMap Module.exports).map
        (fun offered => (offered.key, offered.definition)) ∧
      globals.keys.Nodup ∧ ∀ module ∈ modules, globals.missing? module = none := by
  obtain ⟨merged, complete⟩ := merge_of_link linked
  have noKeys : (Table.keys ({} : Globals)).Nodup := List.nodup_nil
  obtain ⟨entries, distinct⟩ := Globals.merge_ok noKeys merged
  exact ⟨entries, distinct, List.findSome?_eq_none_iff.mp complete⟩

end Stages

/-- A module as it can come to the linker: with the tables of a scan, or without any symbols yet. -/
def Module.Built (module : Module) : Prop :=
  module.symbols = {} ∨ ∃ set, module.symbols = Symbols.ofLines set module.lines

theorem Module.built_scan (set : InstructionSet) (module : Module) : (module.scan set).Built :=
  Or.inr ⟨set, rfl⟩

/-- The table of the module holds a definition under this key, and it is not external. -/
def Module.DefinesKey (module : Module) (key : Text) : Prop :=
  ∃ definition, (key, definition) ∈ module.definitions.entries ∧ definition.external = false

section Built

variable {module : Module}

theorem mem_exports {offered : Export} :
    offered ∈ module.exports ↔
      ∃ definition ∈ module.definitions.values, definition.external = false ∧
        offered = ⟨definition.symbol, module.name, definition.line, definition.offset⟩ := by
  simp only [Module.exports, List.mem_map, List.mem_filter, Bool.not_eq_true']
  constructor
  · rintro ⟨definition, ⟨held, own⟩, rfl⟩
    exact ⟨definition, held, own, rfl⟩
  · rintro ⟨definition, held, own, rfl⟩
    exact ⟨definition, ⟨held, own⟩, rfl⟩

/-- What is in the tables of a module stems from labels and usages in source order. -/
theorem Module.Built.recorded (built : module.Built) :
    ∃ labels used, module.symbols = Symbols.recording labels used ∧ InLineOrder labels ∧
      used.Pairwise Usage.Precedes := by
  rcases built with unscanned | ⟨set, scanned⟩
  · exact ⟨[], [], unscanned, List.Pairwise.nil, List.Pairwise.nil⟩
  · exact ⟨_, _, scanned.trans (Symbols.ofLines_eq_recording set module.lines),
      inLineOrder_labelsOf set module.lines, usagesOf_pairwise set module.lines⟩

theorem Module.Built.key_eq (built : module.Built) {key : Text} {definition : Definition}
    (held : (key, definition) ∈ module.definitions.entries) : key = definition.key := by
  obtain ⟨labels, used, recorded, _⟩ := built.recorded
  rw [Module.definitions, recorded] at held
  obtain ⟨label, _, ⟨⟩⟩ := List.mem_map.mp held
  rfl

/-- Definitions stand in their table in line order, under distinct keys. -/
theorem Module.Built.definitions_pairwise (built : module.Built) :
    module.definitions.values.Pairwise fun first second =>
      first.line < second.line ∧ first.key ≠ second.key := by
  obtain ⟨labels, used, recorded, ordered, _⟩ := built.recorded
  have kept : module.definitions.values =
      labels.filter fun label => label.IsFirstAmong labels := by
    rw [Module.definitions, recorded]
    simp [Symbols.recording, Table.values, Function.comp_def]
  rw [kept]
  refine (ordered.sublist List.filter_sublist).imp_of_mem ?_
  intro first second inFirst inSecond lower
  obtain ⟨inLabels, _⟩ := List.mem_filter.mp inFirst
  have isFirst : second.IsFirstAmong labels := of_decide_eq_true (List.mem_filter.mp inSecond).2
  exact ⟨lower, isFirst first inLabels lower⟩

theorem Module.Built.exports_pairwise (built : module.Built) :
    module.exports.Pairwise fun first second =>
      first.definition.line < second.definition.line ∧ first.key ≠ second.key := by
  refine List.pairwise_map.mpr ?_
  exact built.definitions_pairwise.sublist List.filter_sublist

/-- An export tells of a definition that the table holds under its key. -/
theorem Module.Built.entry_of_export (built : module.Built) {offered : Export}
    (inExports : offered ∈ module.exports) :
    ∃ definition, (offered.key, definition) ∈ module.definitions.entries ∧
      definition.external = false ∧
      offered = ⟨definition.symbol, module.name, definition.line, definition.offset⟩ := by
  obtain ⟨definition, inValues, own, rfl⟩ := mem_exports.mp inExports
  obtain ⟨⟨key, _⟩, held, rfl⟩ := List.mem_map.mp inValues
  obtain rfl := built.key_eq held
  exact ⟨_, held, own, rfl⟩

/-- A module exports the keys that it defines. -/
theorem Module.Built.definesKey_iff (built : module.Built) {key : Text} :
    module.DefinesKey key ↔ ∃ offered ∈ module.exports, offered.key = key := by
  constructor
  · rintro ⟨definition, held, own⟩
    refine ⟨_, mem_exports.mpr ⟨definition, List.mem_map.mpr ⟨_, held, rfl⟩, own, rfl⟩, ?_⟩
    exact (built.key_eq held).symm
  · rintro ⟨offered, inExports, rfl⟩
    obtain ⟨definition, held, own, _⟩ := built.entry_of_export inExports
    exact ⟨definition, held, own⟩

end Built

/-- The module itself defines the symbol: its table holds a definition under the symbol's key that
is not external. -/
def Module.Defines (module : Module) (symbol : Text) : Prop :=
  module.DefinesKey (symbolKey symbol)

section Scanned

variable {set : InstructionSet} {module : Module} {symbol : Text} {definition : Definition}

theorem definitions_scan (set : InstructionSet) (module : Module) :
    (module.scan set).definitions.entries =
      ((labelsOf set module.lines).filter fun label =>
        label.IsFirstAmong (labelsOf set module.lines)).map fun label => (label.key, label) := by
  change (Symbols.ofLines set module.lines).definitions.entries = _
  rw [Symbols.ofLines_eq_recording]
  rfl

/-- Every entry of a scanned table stands under its own key and comes from a line. -/
theorem mem_definitions_scan {key : Text}
    (held : (key, definition) ∈ (module.scan set).definitions.entries) :
    key = definition.key ∧ definition ∈ labelsOf set module.lines := by
  rw [definitions_scan, List.mem_map] at held
  obtain ⟨label, kept, ⟨⟩⟩ := held
  exact ⟨rfl, (List.mem_filter.mp kept).1⟩

/-- A scanned module exports a key exactly if it defines it. -/
theorem defines_scan_iff :
    (module.scan set).Defines symbol ↔
      ∃ offered ∈ (module.scan set).exports, offered.key = symbolKey symbol :=
  (Module.built_scan set module).definesKey_iff

/-- Every key of a scanned usage table is that of the usages under it, of which there are some. -/
theorem mem_usages_scan {key : Text} {held : List Usage}
    (grouped : (key, held) ∈ (module.scan set).usages.entries) :
    held ≠ [] ∧ ∀ usage ∈ held, usage.key = key := by
  have recorded : (module.scan set).usages.entries = _ :=
    congrArg (fun symbols => symbols.usages.entries) (Symbols.ofLines_eq_recording set module.lines)
  rw [recorded] at grouped
  exact Symbols.mem_usages_recording grouped

end Scanned

section Definers

variable {modules : List Module} {globals : Globals}

/-- If no key is exported twice, at most one place of the list holds a module that exports a given
key. -/
theorem place_unique_of_nodup
    (distinct : ((modules.flatMap Module.exports).map Export.key).Nodup) {i j : Nat}
    {first second : Module} (atFirst : modules[i]? = some first)
    (atSecond : modules[j]? = some second) {offered other : Export}
    (inFirst : offered ∈ first.exports) (inSecond : other ∈ second.exports)
    (sameKey : offered.key = other.key) : i = j := by
  rw [List.map_flatMap] at distinct
  have apart := List.pairwise_iff_getElem.mp (List.pairwise_flatMap.mp distinct).2
  obtain ⟨boundFirst, rfl⟩ := List.getElem?_eq_some_iff.mp atFirst
  obtain ⟨boundSecond, rfl⟩ := List.getElem?_eq_some_iff.mp atSecond
  have keyOfFirst := List.mem_map_of_mem (f := Export.key) inFirst
  have keyOfSecond := List.mem_map_of_mem (f := Export.key) inSecond
  rcases Nat.lt_trichotomy i j with lower | same | higher
  · exact absurd sameKey (apart i j boundFirst boundSecond lower _ keyOfFirst _ keyOfSecond)
  · exact same
  · exact absurd sameKey.symm (apart j i boundSecond boundFirst higher _ keyOfSecond _ keyOfFirst)

theorem exporter_unique (linked : link modules = .ok globals) {i j : Nat} {first second : Module}
    (atFirst : modules[i]? = some first) (atSecond : modules[j]? = some second)
    {offered other : Export} (inFirst : offered ∈ first.exports) (inSecond : other ∈ second.exports)
    (sameKey : offered.key = other.key) : i = j := by
  obtain ⟨entries, distinct, _⟩ := link_ok linked
  rw [Table.keys, entries, List.map_map] at distinct
  exact place_unique_of_nodup distinct atFirst atSecond inFirst inSecond sameKey

/-- A key that is found comes from an export. -/
theorem exported_of_find? (linked : link modules = .ok globals) {key : Text}
    {found : GlobalDefinition} (atKey : globals.find? key = some found) :
    ∃ (k : Nat) (module : Module), modules[k]? = some module ∧ ∃ offered ∈ module.exports,
      offered.key = key ∧ offered.definition = found := by
  have held := Table.mem_entries_of_find? atKey
  rw [(link_ok linked).1, List.mem_map] at held
  obtain ⟨offered, inExports, ⟨⟩⟩ := held
  obtain ⟨module, inModules, inModule⟩ := List.mem_flatMap.mp inExports
  obtain ⟨k, bound, rfl⟩ := List.mem_iff_getElem.mp inModules
  exact ⟨k, _, List.getElem?_eq_getElem bound, offered, inModule, rfl, rfl⟩

end Definers

/-- On the line `text` stands a label at byte `offset` that spells `symbol`, in whatever case, and
the instruction behind it, if there is one, does not make it external. -/
structure LabelsAt (set : InstructionSet) (text symbol : Text) (offset : Nat) : Prop where
  label : ∃ first colon rest, tokens text = first :: colon :: rest ∧
    first.kind = .word ∧ first.offset = offset ∧ Text.upper first.text = Text.upper symbol ∧
    colon.kind = .separator ∧ colon.text = [':']
  own : ∀ word, (Statement.ofLine set text).mnemonic? = some word →
    set.isExternal word.text = false

theorem separator_text {line : Text} {first colon : Token} {rest : List Token}
    (scanned : tokens line = first :: colon :: rest) (isSeparator : colon.kind = .separator) :
    colon.text = [':'] := by
  have formed := (nextToken?_spec (second_token_found scanned)).1
  simpa [Token.Formed, isSeparator] using formed

/-- A definition that a scan keeps and that is not external is a label on its line. -/
theorem labelsAt_of_mem_labelsOf {set : InstructionSet} {lines : List Text} {label : Definition}
    (inLabels : label ∈ labelsOf set lines) (own : label.external = false) :
    ∃ text, lines[label.line]? = some text ∧ LabelsAt set text label.symbol label.offset := by
  obtain ⟨text, onLine, made⟩ := mem_labelsOf.mp inLabels
  rw [Statement.definition?_ofLine] at made
  obtain ⟨word, labelled, sameLabel⟩ := Option.map_eq_some_iff.mp made
  obtain ⟨colon, rest, scanned, isWord, isSeparator⟩ := labelOf?_eq_some_iff.mp labelled
  rw [← sameLabel] at own ⊢
  refine ⟨text, onLine, ⟨word, colon, rest, scanned, isWord, rfl, rfl, isSeparator,
    separator_text scanned isSeparator⟩, ?_⟩
  intro mnemonic named
  simpa [Statement.isExternal, named] using own

/-- A usage in a job is resolved.  The linked table finds a definition for its symbol, and exactly
one place of the job holds a module that defines that symbol itself; the definition names this
module and a line of it that begins with the symbol as its own label. -/
def Resolved (set : InstructionSet) (job : List Module) (globals : Globals) (usage : Usage) :
    Prop :=
  ∃ definition, globals.get? usage.symbol = some definition ∧
    ∃ (k : Nat) (definer : Module), job[k]? = some definer ∧ definer.Defines usage.symbol ∧
      (∀ (i : Nat) (other : Module), job[i]? = some other → other.Defines usage.symbol → i = k) ∧
      definition.module = definer.name ∧
      ∃ text, definer.lines[definition.line]? = some text ∧
        LabelsAt set text usage.symbol definition.offset

/-- If the modules of a job link, every usage in them is resolved. -/
theorem link_resolves_usages (sources : List (Text × Text)) {globals : Globals}
    (linked : link (assemble .standard
      (sources.map fun source => Module.ofText source.1 source.2)) = .ok globals) :
    let job := assemble .standard (sources.map fun source => Module.ofText source.1 source.2)
    ∀ module ∈ job, ∀ held ∈ module.usages.values, ∀ usage ∈ held,
      Resolved .standard job globals usage := by
  intro job module inJob held grouped usage used
  have scanned : ∀ other ∈ job, ∃ source : Module, other = source.scan .standard := by
    intro other inJob
    obtain ⟨source, _, rfl⟩ := List.mem_map.mp inJob
    exact ⟨source, rfl⟩
  -- the usage has a key that the linked table holds
  obtain ⟨⟨key, _⟩, inEntries, rfl⟩ := List.mem_map.mp grouped
  obtain ⟨source, rfl⟩ := scanned module inJob
  obtain ⟨nonempty, sameKeys⟩ := mem_usages_scan inEntries
  have usedKey : symbolKey usage.symbol = key := sameKeys usage used
  have present := Globals.missing?_eq_none ((link_ok linked).2.2 _ inJob) inEntries nonempty
  obtain ⟨definition, atKey⟩ := Option.isSome_iff_exists.mp present
  refine ⟨definition, by rw [Globals.get?, usedKey, atKey], ?_⟩
  -- which comes from the export of one module
  obtain ⟨k, definer, atDefiner, offered, inExports, offeredKey, rfl⟩ :=
    exported_of_find? linked atKey
  obtain ⟨definerSource, rfl⟩ := scanned definer (List.mem_of_getElem? atDefiner)
  have sameKey : offered.key = symbolKey usage.symbol := offeredKey.trans usedKey.symm
  refine ⟨k, _, atDefiner, defines_scan_iff.mpr ⟨offered, inExports, sameKey⟩, ?_, ?_⟩
  · intro i other atOther defines
    obtain ⟨otherSource, rfl⟩ := scanned other (List.mem_of_getElem? atOther)
    obtain ⟨otherOffered, inOther, otherKey⟩ := defines_scan_iff.mp defines
    exact exporter_unique linked atOther atDefiner inOther inExports (otherKey.trans sameKey.symm)
  · obtain ⟨label, inValues, own, rfl⟩ := mem_exports.mp inExports
    obtain ⟨⟨labelKey, _⟩, inDefinitions, rfl⟩ := List.mem_map.mp inValues
    have inLabels := (mem_definitions_scan inDefinitions).2
    obtain ⟨text, onLine, labels⟩ := labelsAt_of_mem_labelsOf inLabels own
    obtain ⟨first, colon, rest, tokensSplit, isWord, offset, spelled, terminator⟩ := labels.label
    have spelledSymbol : Text.upper first.text = Text.upper usage.symbol := spelled.trans sameKey
    exact ⟨rfl, text, onLine,
      ⟨first, colon, rest, tokensSplit, isWord, offset, spelledSymbol, terminator⟩, labels.own⟩

/-- One module uses, in another case, a symbol that it only declares and the other one defines. -/
theorem link_resolves_declared_symbol :
    let sources : List (Text × Text) :=
      [("a".toList, "Y: EXTERN\nLOAD y".toList), ("b".toList, "; data\n y : SPACE".toList)]
    let job := assemble .standard (sources.map fun source => Module.ofText source.1 source.2)
    let globals : Globals := ⟨[("Y".toList, ⟨"b".toList, 1, 1⟩)]⟩
    link job = .ok globals ∧ ∃ module ∈ job, ∃ held ∈ module.usages.values,
      ⟨"y".toList, 1, 5⟩ ∈ held ∧ Resolved .standard job globals ⟨"y".toList, 1, 5⟩ := by
  intro sources job globals
  have linked : link job = .ok globals := by decide +kernel
  have inJob : job[0] ∈ job := List.getElem_mem (by decide)
  have grouped : [⟨"y".toList, 1, 5⟩] ∈ job[0].usages.values := by decide +kernel
  exact ⟨linked, job[0], inJob, _, grouped, List.mem_singleton_self _,
    link_resolves_usages sources linked _ inJob _ grouped _ (List.mem_singleton_self _)⟩

end AsmSymbols
