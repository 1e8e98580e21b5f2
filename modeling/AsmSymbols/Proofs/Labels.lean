import AsmSymbols.Module
import AsmSymbols.Proofs.Recording
import AsmSymbols.Proofs.Scanner

/-!
# Labels become definitions or issues

A label line is one whose tokens begin with a word and a terminator.  A scan makes exactly one thing
of each: a definition, if no earlier label line has its key, and an issue otherwise.
-/

set_option autoImplicit false

namespace AsmSymbols

theorem Statement.definition?_ofLine (set : InstructionSet) (text : Text) (line : Nat) :
    (Statement.ofLine set text).definition? set line =
      (labelOf? text).map fun word =>
        ⟨word.text, line, word.offset, (Statement.ofLine set text).isExternal set⟩ := by
  unfold Statement.definition?
  have begins : (Statement.ofLine set text).head = (Head.ofLine text).1 := rfl
  cases labelled : labelOf? text with
  | some word =>
    rw [begins, head_ofLine_fst_eq_label_iff.mpr labelled]
    rfl
  | none =>
    split
    next word found =>
      rw [begins, head_ofLine_fst_eq_label_iff, labelled] at found
      cases found
    next => rfl

/-- The label of the line is external in a module that has no other line. -/
def externalAlone (set : InstructionSet) (text : Text) : Bool :=
  (Symbols.ofLines set [text]).definitions.values.any Definition.external

/-- The label lines of a module, each as the definition it would make. -/
def labelLines (set : InstructionSet) (lines : List Text) : List Definition :=
  lines.zipIdx.filterMap fun (text, line) =>
    (labelOf? text).map fun word => ⟨word.text, line, word.offset, externalAlone set text⟩

theorem externalAlone_eq_isExternal {set : InstructionSet} {text : Text} {word : Token}
    (labelled : labelOf? text = some word) :
    externalAlone set text = (Statement.ofLine set text).isExternal set := by
  have made := Statement.definition?_ofLine set text 0
  rw [labelled, Option.map_some] at made
  have single : labelsOf set [text] =
      [⟨word.text, 0, word.offset, (Statement.ofLine set text).isExternal set⟩] := by
    simp [labelsOf, made]
  simp [externalAlone, Symbols.ofLines_eq_recording, single, Symbols.recording, Table.values,
    Definition.IsFirstAmong]

theorem labelLines_eq_labelsOf (set : InstructionSet) (lines : List Text) :
    labelLines set lines = labelsOf set lines := by
  unfold labelLines labelsOf
  apply List.filterMap_congr
  rintro ⟨text, line⟩ _
  simp only [Statement.definition?_ofLine]
  cases labelled : labelOf? text with
  | none => rfl
  | some word => simp only [externalAlone_eq_isExternal labelled]

theorem length_labelLines (set : InstructionSet) (lines : List Text) :
    (labelLines set lines).length = lines.countP fun text => (labelOf? text).isSome := by
  have onlyTexts := List.zipIdx_map_fst 0 lines
  rw [labelLines, List.length_filterMap_eq_countP]
  conv => rhs; rw [← onlyTexts, List.countP_map]
  simp [Function.comp_def]

section Issues

variable {labels : List Definition} {label : Definition}

/-- A label that is not the first of its key makes the issue that points to the first. -/
theorem redefinition?_of_mem (inLabels : label ∈ labels) :
    ∃ first, labels.find? (fun other => other.key = label.key) = some first ∧
      label.redefinition? labels =
        if label.IsFirstAmong labels then none
        else some ⟨label.symbol, label.line, label.offset, first.line, first.offset⟩ := by
  have found : (labels.find? fun other => other.key = label.key).isSome := by
    rw [List.find?_isSome]
    exact ⟨label, inLabels, by simp⟩
  obtain ⟨first, found⟩ := Option.isSome_iff_exists.mp found
  exact ⟨first, found, by simp only [Definition.redefinition?, found, Option.map_some]⟩

/-- The issues are the labels that are not the first of their key, in the same order. -/
theorem map_filterMap_redefinition? (labels : List Definition) :
    (labels.filterMap (Definition.redefinition? labels)).map
        (fun issue => (issue.symbol, issue.line, issue.offset)) =
      (labels.filter fun label => !decide (label.IsFirstAmong labels)).map
        fun label => (label.symbol, label.line, label.offset) := by
  rw [List.map_filterMap, ← List.filterMap_eq_map', List.filterMap_filter]
  apply List.filterMap_congr
  intro label inLabels
  obtain ⟨first, _, made⟩ := redefinition?_of_mem inLabels
  rw [made]
  by_cases isFirst : label.IsFirstAmong labels <;> simp [isFirst]

/-- An issue points to the definition that the table keeps for its symbol. -/
theorem get?_recording_of_issue {used : List Usage} {issue : Redefinition}
    (ordered : InLineOrder labels) (raised : issue ∈ (Symbols.recording labels used).issues) :
    ∃ kept, (Symbols.recording labels used).definitions.get? issue.symbol = some kept ∧
      issue.firstLine = kept.line ∧ issue.firstOffset = kept.offset := by
  obtain ⟨label, inLabels, made⟩ := List.mem_filterMap.mp raised
  obtain ⟨first, found, outcome⟩ := redefinition?_of_mem inLabels
  rw [outcome] at made
  split at made
  · cases made
  · cases made
    exact ⟨first, (Symbols.get?_recording ordered used _).trans found, rfl, rfl⟩

theorem length_definitions_add_issues (labels : List Definition) (used : List Usage) :
    (Symbols.recording labels used).definitions.size + (Symbols.recording labels used).issues.length
      = labels.length := by
  have issues := congrArg List.length (map_filterMap_redefinition? labels)
  simp only [List.length_map, ← List.countP_eq_length_filter] at issues
  simp only [Symbols.recording, Table.size, List.length_map, issues,
    ← List.countP_eq_length_filter]
  have total := List.length_eq_countP_add_countP (l := labels)
    fun label => decide (label.IsFirstAmong labels)
  simpa using total.symm

end Issues

/-- Every label line is a definition or an issue, never both and never neither.  The table holds, in
line order, those whose key no earlier label line has; the issues are the others, in line order, and
each points to the definition that is kept for its key. -/
theorem Module.scan_partitions_labels (set : InstructionSet) (module : Module) :
    let labels := labelLines set module.lines
    let scanned := module.scan set
    scanned.definitions.entries =
        (labels.filter fun label => label.IsFirstAmong labels).map
          (fun label => (symbolKey label.symbol, label)) ∧
      scanned.issues.map (fun issue => (issue.symbol, issue.line, issue.offset)) =
        (labels.filter fun label => !decide (label.IsFirstAmong labels)).map
          (fun label => (label.symbol, label.line, label.offset)) ∧
      (∀ issue ∈ scanned.issues, ∃ kept,
        scanned.definitions.get? issue.symbol = some kept ∧
          issue.firstLine = kept.line ∧ issue.firstOffset = kept.offset) ∧
      scanned.definitions.size + scanned.issues.length =
        module.lines.countP fun text => (labelOf? text).isSome := by
  intro labels scanned
  have sameLabels : labels = labelsOf set module.lines := labelLines_eq_labelsOf set module.lines
  have recorded : scanned.symbols = Symbols.recording labels (usagesOf set module.lines) := by
    rw [sameLabels]
    exact Symbols.ofLines_eq_recording set module.lines
  have ordered : InLineOrder labels := by
    rw [sameLabels]
    exact inLineOrder_labelsOf set module.lines
  unfold Module.definitions Module.issues
  rw [recorded]
  refine ⟨rfl, map_filterMap_redefinition? labels, ?_, ?_⟩
  · intro issue raised
    exact get?_recording_of_issue ordered raised
  · rw [length_definitions_add_issues]
    exact length_labelLines set module.lines

end AsmSymbols
