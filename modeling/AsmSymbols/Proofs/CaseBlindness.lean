import Mathlib.Data.List.Forall2
import AsmSymbols.Proofs.Linking
import AsmSymbols.Proofs.UpperCase

/-!
# Assembly ignores case

The keys of all tables are in upper case already.  So the tables of a text in upper case differ from
those of the text only in the spelling of the symbols, and a link, which stores no spelling, has the
same outcome.  Two jobs that differ only in case have one upper case, and thus what
`Module.SameTables` and `SameOutcome` say.
-/

set_option autoImplicit false

namespace AsmSymbols

def Definition.upper (definition : Definition) : Definition :=
  { definition with symbol := Text.upper definition.symbol }

def Usage.upper (usage : Usage) : Usage := { usage with symbol := Text.upper usage.symbol }

def Redefinition.upper (issue : Redefinition) : Redefinition :=
  { issue with symbol := Text.upper issue.symbol }

def Symbols.upper (symbols : Symbols) : Symbols where
  definitions := ⟨symbols.definitions.entries.map fun (key, definition) => (key, definition.upper)⟩
  usages := ⟨symbols.usages.entries.map fun (key, held) => (key, held.map Usage.upper)⟩
  issues := symbols.issues.map Redefinition.upper

/-- The module with its lines, and the symbols found in them, in upper case. -/
def Module.upper (module : Module) : Module where
  name := module.name
  lines := module.lines.map Text.upper
  symbols := module.symbols.upper

section Lines

variable {set : InstructionSet}

theorem Statement.mnemonic?_upper (statement : Statement) :
    statement.upper.mnemonic? = statement.mnemonic?.map Token.upper := by
  unfold mnemonic?
  rw [Statement.upper, List.findSome?_map, List.map_findSome?]
  congr 1
  funext part
  cases part <;> rfl

theorem Statement.isExternal_upper (ignores : set.IgnoresCase) (statement : Statement) :
    statement.upper.isExternal set = statement.isExternal set := by
  rw [isExternal, isExternal, mnemonic?_upper]
  cases statement.mnemonic? with
  | none => rfl
  | some word => exact ignores.external _ _ (Text.upper_upper word.text)

theorem Statement.definition?_upper (ignores : set.IgnoresCase) (line : Nat)
    (statement : Statement) :
    statement.upper.definition? set line =
      (statement.definition? set line).map Definition.upper := by
  have sameExternal := isExternal_upper ignores statement
  cases statement with
  | mk head body =>
    cases head with
    | absent => rfl
    | bare => rfl
    | label word =>
      simp only [definition?, sameExternal]
      rfl

theorem operandUsages_upper (ignores : set.IgnoresCase) (line : Nat) (operand : Token) :
    operandUsages set line operand.upper = (operandUsages set line operand).map Usage.upper := by
  unfold operandUsages
  have sameText : operand.upper.text = Text.upper operand.text := rfl
  rw [sameText, isLiteral_upper]
  split
  · rfl
  · rw [Operand.terms_upper, List.filterMap_map, List.map_filterMap]
    apply List.filterMap_congr
    rintro ⟨start, term⟩ _
    have sameReserved := ignores.reserved _ _ (Text.upper_upper term)
    simp only [Function.comp_apply, Text.isEmpty_upper, isLiteral_upper, sameReserved]
    split <;> rfl

theorem Statement.usages_upper (ignores : set.IgnoresCase) (line : Nat) (statement : Statement) :
    statement.upper.usages set line = (statement.usages set line).map Usage.upper := by
  unfold usages
  rw [Statement.upper, List.flatMap_map, List.map_flatMap]
  apply List.flatMap_congr
  intro part _
  cases part with
  | operand word => exact operandUsages_upper ignores line word
  | mnemonic word => rfl
  | stray offset => rfl
  | unterminated offset => rfl

theorem labelsOf_upper (ignores : set.IgnoresCase) (lines : List Text) :
    labelsOf set (lines.map Text.upper) = (labelsOf set lines).map Definition.upper := by
  unfold labelsOf
  rw [List.zipIdx_map, List.filterMap_map, List.map_filterMap]
  apply List.filterMap_congr
  rintro ⟨text, line⟩ _
  simp only [Function.comp_apply, Prod.map_apply, id_eq, Statement.ofLine_upper ignores,
    Statement.definition?_upper ignores]

theorem usagesOf_upper (ignores : set.IgnoresCase) (lines : List Text) :
    usagesOf set (lines.map Text.upper) = (usagesOf set lines).map Usage.upper := by
  unfold usagesOf
  rw [List.zipIdx_map, List.flatMap_map, List.map_flatMap]
  apply List.flatMap_congr
  rintro ⟨text, line⟩ _
  simp only [Prod.map_apply, id_eq, Statement.ofLine_upper ignores,
    Statement.usages_upper ignores]

end Lines

section Tables

variable (labels : List Definition) (label : Definition)

theorem Definition.key_upper : label.upper.key = label.key := Text.upper_upper label.symbol

theorem Usage.key_upper (usage : Usage) : usage.upper.key = usage.key :=
  Text.upper_upper usage.symbol

theorem isFirstAmong_upper :
    label.upper.IsFirstAmong (labels.map Definition.upper) ↔ label.IsFirstAmong labels := by
  simp only [Definition.IsFirstAmong, List.forall_mem_map, Definition.key_upper]
  rfl

theorem redefinition?_upper :
    label.upper.redefinition? (labels.map Definition.upper) =
      (label.redefinition? labels).map Redefinition.upper := by
  unfold Definition.redefinition?
  simp only [isFirstAmong_upper, List.find?_map, Function.comp_def, Definition.key_upper]
  split
  · rfl
  · rw [Option.map_map, Option.map_map]
    rfl

/-- Spelling makes no difference to the order and the keys of the tables. -/
theorem Symbols.recording_upper (used : List Usage) :
    recording (labels.map Definition.upper) (used.map Usage.upper) =
      (recording labels used).upper := by
  simp only [recording, Symbols.upper, mk.injEq, Table.mk.injEq]
  refine ⟨?_, ?_, ?_⟩
  · simp only [List.filter_map, List.map_map, Function.comp_def, isFirstAmong_upper,
      Definition.key_upper]
  · simp only [List.filter_map, List.map_map, Function.comp_def, Usage.key_upper]
  · rw [List.filterMap_map, List.map_filterMap]
    simp only [Function.comp_def, redefinition?_upper]

theorem Module.scan_upper {set : InstructionSet} (ignores : set.IgnoresCase) (module : Module) :
    module.upper.scan set = (module.scan set).upper := by
  have sameSymbols : Symbols.ofLines set (module.lines.map Text.upper) =
      (Symbols.ofLines set module.lines).upper := by
    rw [Symbols.ofLines_eq_recording, Symbols.ofLines_eq_recording, labelsOf_upper ignores,
      usagesOf_upper ignores, Symbols.recording_upper]
  rw [Module.scan, Module.scan, Module.upper, sameSymbols]
  rfl

end Tables

def Export.upper (offered : Export) : Export :=
  { offered with symbol := Text.upper offered.symbol }

def LinkError.upper : LinkError → LinkError
  | .multiplyDefined symbol first second => .multiplyDefined (Text.upper symbol) first second
  | .undefined usage module => .undefined usage.upper module

section Linking

theorem Module.exports_upper (module : Module) :
    module.upper.exports = module.exports.map Export.upper := by
  simp only [Module.exports, Module.definitions, Module.upper, Symbols.upper, Table.values,
    List.map_map, List.filter_map, Function.comp_def]
  rfl

theorem Globals.merge_upper (globals : Globals) (offers : List Export) :
    globals.merge (offers.map Export.upper) = (globals.merge offers).mapError LinkError.upper := by
  induction offers generalizing globals with
  | nil => rfl
  | cons offered offers inductionHypothesis =>
    have sameKey : symbolKey offered.upper.symbol = symbolKey offered.symbol :=
      Text.upper_upper offered.symbol
    have sameFound : globals.get? offered.upper.symbol = globals.get? offered.symbol :=
      congrArg globals.find? sameKey
    rw [List.map_cons, merge, merge, sameFound]
    cases globals.get? offered.symbol with
    | some held => rfl
    | none =>
      rw [sameKey]
      exact inductionHypothesis _

theorem Globals.missing?_upper (globals : Globals) (module : Module) :
    globals.missing? module.upper = (globals.missing? module).map LinkError.upper := by
  unfold missing? missingOr?
  rw [Module.usages, Module.upper, Symbols.upper, List.findSome?_map, List.map_findSome?]
  congr 1
  funext ⟨key, held⟩
  simp only [Function.comp_apply]
  split
  · rfl
  · cases held <;> rfl

/-- A link stores no spelling, so upper case shows only in the problem that it reports. -/
theorem link_upper (modules : List Module) :
    link (modules.map Module.upper) = (link modules).mapError LinkError.upper := by
  have sameExports : (modules.map Module.upper).flatMap Module.exports =
      (modules.flatMap Module.exports).map Export.upper := by
    rw [List.flatMap_map, List.map_flatMap]
    exact List.flatMap_congr fun module _ => module.exports_upper
  have sameMissing : ∀ globals : Globals, (modules.map Module.upper).findSome? globals.missing? =
      (modules.findSome? globals.missing?).map LinkError.upper := by
    intro globals
    rw [List.findSome?_map, List.map_findSome?]
    congr 1
    funext module
    exact globals.missing?_upper module
  have sameMerge := Globals.merge_upper {} (modules.flatMap Module.exports)
  rw [← sameExports] at sameMerge
  cases merged : Globals.merge {} (modules.flatMap Module.exports) with
  | error problem =>
    rw [merged] at sameMerge
    rw [link_of_unmerged sameMerge, link_of_unmerged merged]
    rfl
  | ok globals =>
    rw [merged] at sameMerge
    rw [link_of_merged sameMerge, link_of_merged merged, sameMissing]
    cases modules.findSome? globals.missing? <;> rfl

end Linking

/-- Two sources of one name whose texts differ at most in case. -/
def SameSource (source other : Text × Text) : Prop :=
  source.1 = other.1 ∧ Text.upper source.2 = Text.upper other.2

/-- The keys of a table, with the places of the definitions but not their spelling. -/
def DefinitionTable.places (table : DefinitionTable) : List (Text × Nat × Nat × Bool) :=
  table.entries.map fun (key, definition) =>
    (key, definition.line, definition.offset, definition.external)

/-- The keys of a table, with the places of the usages but not their spelling. -/
def UsageTable.places (table : UsageTable) : List (Text × List (Nat × Nat)) :=
  table.entries.map fun (key, held) => (key, held.map fun usage => (usage.line, usage.offset))

def Redefinition.places (issue : Redefinition) : Nat × Nat × Nat × Nat :=
  (issue.line, issue.offset, issue.firstLine, issue.firstOffset)

/-- Two modules of one name whose tables show the same keys and places in the same order. -/
structure Module.SameTables (first second : Module) : Prop where
  name : first.name = second.name
  definitions : first.definitions.places = second.definitions.places
  usages : first.usages.places = second.usages.places
  issues : first.issues.map Redefinition.places = second.issues.map Redefinition.places

/-- Two problems of one kind with the same modules and places, whose symbols differ at most in
case. -/
def LinkError.SameUpToCase : LinkError → LinkError → Prop
  | .multiplyDefined symbol first second, .multiplyDefined otherSymbol otherFirst otherSecond =>
    Text.upper symbol = Text.upper otherSymbol ∧ first = otherFirst ∧ second = otherSecond
  | .undefined usage module, .undefined otherUsage otherModule =>
    Text.upper usage.symbol = Text.upper otherUsage.symbol ∧ usage.line = otherUsage.line ∧
      usage.offset = otherUsage.offset ∧ module = otherModule
  | _, _ => False

/-- Two links that give the same table, or problems that differ at most in case. -/
def SameOutcome : Except LinkError Globals → Except LinkError Globals → Prop
  | .ok globals, .ok otherGlobals => globals = otherGlobals
  | .error problem, .error otherProblem => problem.SameUpToCase otherProblem
  | _, _ => False

section Comparison

theorem Module.upper_sameTables (module : Module) : module.upper.SameTables module where
  name := rfl
  definitions := by
    simp only [DefinitionTable.places, Module.definitions, Module.upper, Symbols.upper,
      List.map_map]
    rfl
  usages := by
    simp only [UsageTable.places, Module.usages, Module.upper, Symbols.upper, List.map_map,
      Function.comp_def]
    rfl
  issues := by
    simp only [Module.issues, Module.upper, Symbols.upper, List.map_map]
    rfl

theorem Module.sameTables_of_upper_eq {first second : Module}
    (sameUpper : first.upper = second.upper) : first.SameTables second := by
  have ofFirst := first.upper_sameTables
  have ofSecond := second.upper_sameTables
  rw [sameUpper] at ofFirst
  exact ⟨ofFirst.name.symm.trans ofSecond.name,
    ofFirst.definitions.symm.trans ofSecond.definitions,
    ofFirst.usages.symm.trans ofSecond.usages, ofFirst.issues.symm.trans ofSecond.issues⟩

theorem LinkError.sameUpToCase_of_upper_eq {problem other : LinkError}
    (sameUpper : problem.upper = other.upper) : problem.SameUpToCase other := by
  cases problem with
  | multiplyDefined symbol first second =>
    cases other with
    | multiplyDefined otherSymbol otherFirst otherSecond =>
      simpa [LinkError.upper, SameUpToCase] using sameUpper
    | undefined usage module => cases sameUpper
  | undefined usage module =>
    cases other with
    | multiplyDefined otherSymbol otherFirst otherSecond => cases sameUpper
    | undefined otherUsage otherModule =>
      simpa [LinkError.upper, Usage.upper, SameUpToCase, and_assoc] using sameUpper

theorem sameOutcome_of_mapError_eq {result other : Except LinkError Globals}
    (sameUpper : result.mapError LinkError.upper = other.mapError LinkError.upper) :
    SameOutcome result other := by
  cases result with
  | ok globals =>
    cases other with
    | ok otherGlobals => exact Except.ok.inj sameUpper
    | error problem => cases sameUpper
  | error problem =>
    cases other with
    | ok globals => cases sameUpper
    | error otherProblem => exact LinkError.sameUpToCase_of_upper_eq (Except.error.inj sameUpper)

end Comparison

/-- The job of these sources, with everything in upper case, depends only on their upper case. -/
theorem assemble_upper {set : InstructionSet} (ignores : set.IgnoresCase)
    (sources : List (Text × Text)) :
    (assemble set (sources.map fun source => Module.ofText source.1 source.2)).map Module.upper =
      assemble set (sources.map fun source =>
        Module.ofText source.1 (Text.upper source.2)) := by
  unfold assemble
  rw [List.map_map, List.map_map, List.map_map]
  apply List.map_congr_left
  rintro ⟨name, text⟩ _
  have sameModule : Module.ofText name (Text.upper text) = (Module.ofText name text).upper := by
    rw [Module.ofText, Text.lines_upper]
    rfl
  simp only [Function.comp_apply, sameModule, Module.scan_upper ignores]

/-- The case of letters makes no difference to an assembly, as long as its instruction set ignores
it: two jobs that differ at most in case have the same tables, spelling apart, and their links have
the same outcome. -/
theorem assembly_ignores_case :
    InstructionSet.standard.IgnoresCase ∧
      (∀ mnemonics reserved, (InstructionSet.ofWords mnemonics reserved).IgnoresCase) ∧
      ∀ (set : InstructionSet) (sources others : List (Text × Text)), set.IgnoresCase →
        List.Forall₂ SameSource sources others →
          let job := assemble set (sources.map fun source => Module.ofText source.1 source.2)
          let other := assemble set (others.map fun source => Module.ofText source.1 source.2)
          List.Forall₂ Module.SameTables job other ∧ SameOutcome (link job) (link other) := by
  refine ⟨InstructionSet.standard_ignoresCase, InstructionSet.ofWords_ignoresCase, ?_⟩
  intro set sources others ignores same job other
  have sameSources : (sources.map fun source => Module.ofText source.1 (Text.upper source.2)) =
      others.map fun source => Module.ofText source.1 (Text.upper source.2) := by
    induction same with
    | nil => rfl
    | cons sameSource _ inductionHypothesis =>
      rw [List.map_cons, List.map_cons, inductionHypothesis, sameSource.1, sameSource.2]
  have sameUpper : job.map Module.upper = other.map Module.upper := by
    rw [assemble_upper ignores, assemble_upper ignores, sameSources]
  constructor
  · rw [← List.forall₂_eq_eq_eq, List.forall₂_map_left_iff, List.forall₂_map_right_iff] at sameUpper
    exact sameUpper.imp fun _ _ => Module.sameTables_of_upper_eq
  · apply sameOutcome_of_mapError_eq
    rw [← link_upper, ← link_upper, sameUpper]

/-- Two spellings of one job, with a label that is defined twice and a symbol that nobody
defines. -/
theorem assembly_ignores_case_of_labels :
    let sources : List (Text × Text) := [("a".toList, "Top: load n,0x1f\nTOP: jmp top".toList)]
    let others : List (Text × Text) := [("a".toList, "tOP: LOAD N,0X1F\ntop: JMP Top".toList)]
    let job := assemble .standard (sources.map fun source => Module.ofText source.1 source.2)
    let other := assemble .standard (others.map fun source => Module.ofText source.1 source.2)
    List.Forall₂ SameSource sources others ∧
      link job = .error (.undefined ⟨"n".toList, 0, 10⟩ "a".toList) ∧
      link other = .error (.undefined ⟨"N".toList, 0, 10⟩ "a".toList) ∧
      List.Forall₂ Module.SameTables job other ∧ SameOutcome (link job) (link other) := by
  intro sources others job other
  have same : List.Forall₂ SameSource sources others := by
    refine List.Forall₂.cons ⟨rfl, ?_⟩ List.Forall₂.nil
    decide +kernel
  refine ⟨same, by decide +kernel, by decide +kernel, ?_⟩
  exact assembly_ignores_case.2.2 .standard sources others assembly_ignores_case.1 same

end AsmSymbols
