import AsmSymbols.Proofs.Labels

/-!
# Scans of appended lines

The scan of a module that is cut in two can be put together from the scans of its parts, once the
lines of the second part are counted from where it stands (`Symbols.lowered`).  Labels and usages of
the parts follow each other, so all comes down to what is recorded of lists that are appended: keys
of the first part come first, and a label of the second part whose key the first part has becomes an
issue.
-/

set_option autoImplicit false

namespace AsmSymbols

section Lowering

def Definition.lowered (count : Nat) (definition : Definition) : Definition :=
  { definition with line := definition.line + count }

def Usage.lowered (count : Nat) (usage : Usage) : Usage := { usage with line := usage.line + count }

def Redefinition.lowered (count : Nat) (issue : Redefinition) : Redefinition :=
  { issue with line := issue.line + count, firstLine := issue.firstLine + count }

/-- The tables of the same lines when `count` more lines stand in front of them. -/
def Symbols.lowered (count : Nat) (symbols : Symbols) : Symbols where
  definitions :=
    ⟨symbols.definitions.entries.map fun (key, definition) => (key, definition.lowered count)⟩
  usages := ⟨symbols.usages.entries.map fun (key, held) => (key, held.map (Usage.lowered count))⟩
  issues := symbols.issues.map (Redefinition.lowered count)

variable (set : InstructionSet) (count line : Nat)

@[simp] theorem Definition.key_lowered (definition : Definition) :
    (definition.lowered count).key = definition.key := rfl

@[simp] theorem Usage.key_lowered (usage : Usage) : (usage.lowered count).key = usage.key := rfl

theorem Statement.definition?_add (statement : Statement) :
    statement.definition? set (line + count) =
      (statement.definition? set line).map (Definition.lowered count) := by
  unfold Statement.definition?
  cases statement.head <;> rfl

theorem operandUsages_add (operand : Token) :
    operandUsages set (line + count) operand =
      (operandUsages set line operand).map (Usage.lowered count) := by
  unfold operandUsages
  split
  · rfl
  · rw [List.map_filterMap]
    apply List.filterMap_congr
    rintro ⟨start, term⟩ _
    simp only [apply_ite (Option.map (Usage.lowered count)), Option.map_none, Option.map_some]
    rfl

theorem Statement.usages_add (statement : Statement) :
    statement.usages set (line + count) =
      (statement.usages set line).map (Usage.lowered count) := by
  unfold Statement.usages
  rw [List.map_flatMap]
  apply List.flatMap_congr
  intro part _
  cases part with
  | operand word => exact operandUsages_add set count line word
  | _ => rfl

theorem zipIdx_eq_map_lowered (lines : List Text) :
    lines.zipIdx count = lines.zipIdx.map (Prod.map id (· + count)) :=
  (List.map_snd_add_zipIdx_eq_zipIdx (n := count) (k := 0)).symm

theorem labelsOf_append (front back : List Text) :
    labelsOf set (front ++ back) =
      labelsOf set front ++ (labelsOf set back).map (Definition.lowered front.length) := by
  simp only [labelsOf, List.zipIdx_append, List.filterMap_append, Nat.zero_add]
  rw [zipIdx_eq_map_lowered front.length back, List.filterMap_map, List.map_filterMap]
  congr 1
  apply List.filterMap_congr
  rintro ⟨text, line⟩ _
  exact Statement.definition?_add set front.length line _

theorem usagesOf_append (front back : List Text) :
    usagesOf set (front ++ back) =
      usagesOf set front ++ (usagesOf set back).map (Usage.lowered front.length) := by
  simp only [usagesOf, List.zipIdx_append, List.flatMap_append, Nat.zero_add]
  rw [zipIdx_eq_map_lowered front.length back, List.flatMap_map, List.map_flatMap]
  congr 1
  apply List.flatMap_congr
  rintro ⟨text, line⟩ _
  exact Statement.usages_add set front.length line _

variable {count}

theorem isFirstAmong_lowered {labels : List Definition} {label : Definition} :
    (label.lowered count).IsFirstAmong (labels.map (Definition.lowered count)) ↔
      label.IsFirstAmong labels := by
  simp [Definition.IsFirstAmong, Definition.lowered, Definition.key]

theorem redefinition?_lowered (labels : List Definition) (label : Definition) :
    (label.lowered count).redefinition? (labels.map (Definition.lowered count)) =
      (label.redefinition? labels).map (Redefinition.lowered count) := by
  unfold Definition.redefinition?
  simp only [isFirstAmong_lowered, List.find?_map, Function.comp_def, Definition.key_lowered,
    apply_ite (Option.map (Redefinition.lowered count)), Option.map_map]
  rfl

theorem Symbols.recording_lowered (labels : List Definition) (used : List Usage) :
    recording (labels.map (Definition.lowered count)) (used.map (Usage.lowered count)) =
      (recording labels used).lowered count := by
  unfold recording lowered
  simp only [List.filter_map, List.map_map, List.filterMap_map, List.map_filterMap,
    Function.comp_def, isFirstAmong_lowered, redefinition?_lowered, Definition.key_lowered,
    Usage.key_lowered]
  rfl

end Lowering

/-- The issue that a label makes behind lines whose definitions are known.  It points to their
definition of the label's key, if there is one, and otherwise to the first label of that key among
those that it stands with, if it is not that label itself. -/
def Definition.issueBehind? (known : DefinitionTable) (labels : List Definition)
    (label : Definition) : Option Redefinition :=
  ((known.get? label.symbol).map fun first =>
    ⟨label.symbol, label.line, label.offset, first.line, first.offset⟩).or
      (label.redefinition? labels)

section Appended

variable {labels more : List Definition} {label : Definition} (used further : List Usage)

theorem mem_keys_definitions_recording (ordered : InLineOrder labels) :
    label.key ∈ (Symbols.recording labels used).definitions.keys ↔
      ∃ first ∈ labels, first.key = label.key := by
  have looked := Symbols.get?_recording ordered used label.symbol
  rw [← Table.contains_iff]
  change ((Symbols.recording labels used).definitions.get? label.symbol).isSome = true ↔ _
  rw [looked, List.find?_isSome]
  simp only [decide_eq_true_eq]
  rfl

/-- The definitions of lines that follow others are kept, as far as their keys are new. -/
theorem definitions_recording_append (ordered : InLineOrder labels)
    (behind : ∀ label ∈ labels, ∀ later ∈ more, label.line < later.line) :
    let first := Symbols.recording labels used
    let second := Symbols.recording more further
    (Symbols.recording (labels ++ more) (used ++ further)).definitions.entries =
      first.definitions.entries ++
        second.definitions.entries.filter fun entry => entry.1 ∉ first.definitions.keys := by
  intro first second
  change ((labels ++ more).filter fun label => label.IsFirstAmong (labels ++ more)).map
    (fun label => (label.key, label)) = _
  rw [filter_isFirstAmong_append behind, List.map_append]
  congr 1
  change _ = ((more.filter fun label => label.IsFirstAmong more).map
    fun label => (label.key, label)).filter _
  rw [List.filter_map, List.filter_filter]
  congr 1
  apply List.filter_congr
  intro label inMore
  rw [Bool.eq_iff_iff]
  simp only [first, Function.comp_apply, Bool.and_eq_true, decide_eq_true_eq,
    isFirstAmong_append_right fun earlier inLabels => behind earlier inLabels label inMore,
    mem_keys_definitions_recording used ordered, not_exists, not_and, ne_eq]

/-- Usages are grouped by the keys of the first lines and then by the new keys. -/
theorem usages_recording_append :
    let first := Symbols.recording labels used
    let second := Symbols.recording more further
    (Symbols.recording (labels ++ more) (used ++ further)).usages.entries =
      (first.usages.keys ++ second.usages.keys.filter fun key => key ∉ first.usages.keys).map
        fun key =>
          (key, (first.usages.find? key).getD [] ++ (second.usages.find? key).getD []) := by
  intro first second
  simp only [first, second, Symbols.keys_usages_recording, Symbols.getD_find?_usages_recording,
    ← eraseDups_append_keys, ← List.map_append, ← List.filter_append]
  rfl

theorem redefinition?_append_right (ordered : InLineOrder labels)
    (behind : ∀ earlier ∈ labels, earlier.line < label.line) :
    label.redefinition? (labels ++ more) =
      label.issueBehind? (Symbols.recording labels used).definitions more := by
  unfold Definition.issueBehind?
  rw [Symbols.get?_recording ordered]
  change _ = ((labels.find? fun first => first.key = label.key).map _).or _
  cases found : labels.find? fun first => first.key = label.key with
  | none =>
    have others : ∀ earlier ∈ labels, earlier.key ≠ label.key := by
      simpa using found
    simp only [Definition.redefinition?, isFirstAmong_append_right behind, List.find?_append, found,
      Option.none_or, Option.map_none, and_iff_right others]
  | some first =>
    have sameKey : first.key = label.key := by
      simpa using List.find?_some found
    have notFirst : ¬ label.IsFirstAmong (labels ++ more) := fun isFirst =>
      ((isFirstAmong_append_right behind).mp isFirst).1 first (List.mem_of_find?_eq_some found)
        sameKey
    simp only [Definition.redefinition?, notFirst, List.find?_append, found, Option.some_or,
      Option.map_some, ↓reduceIte]

/-- Behind other lines, every label whose key is taken makes an issue. -/
theorem issues_recording_append (ordered : InLineOrder labels)
    (behind : ∀ label ∈ labels, ∀ later ∈ more, label.line < later.line) :
    let first := Symbols.recording labels used
    (Symbols.recording (labels ++ more) (used ++ further)).issues =
      first.issues ++ more.filterMap (Definition.issueBehind? first.definitions more) := by
  intro first
  change (labels ++ more).filterMap (Definition.redefinition? (labels ++ more)) = _
  rw [filterMap_redefinition?_append behind]
  congr 1
  apply List.filterMap_congr
  intro label inMore
  exact redefinition?_append_right used ordered fun earlier inLabels =>
    behind earlier inLabels label inMore

end Appended

/-- The scan of appended lines is put together from the scans of the two parts, the second with its
lines counted from where it stands.  Definitions of the first part are followed by those of the
second whose keys are new; usages keep the order of keys and, under each key, of the parts; and the
issues of the first part are followed by one for each label line of the second part whose key the
first part defines, or an earlier label line of the second. -/
theorem Symbols.ofLines_of_appended (set : InstructionSet) (front back : List Text) :
    let whole := ofLines set (front ++ back)
    let first := ofLines set front
    let second := (ofLines set back).lowered front.length
    let labels := (labelLines set back).map (Definition.lowered front.length)
    whole.definitions.entries =
        first.definitions.entries ++
          second.definitions.entries.filter (fun entry => entry.1 ∉ first.definitions.keys) ∧
      whole.usages.entries =
        (first.usages.keys ++ second.usages.keys.filter fun key => key ∉ first.usages.keys).map
          (fun key =>
            (key, (first.usages.find? key).getD [] ++ (second.usages.find? key).getD [])) ∧
      whole.issues =
        first.issues ++ labels.filterMap (Definition.issueBehind? first.definitions labels) := by
  intro whole first second labels
  have recorded : second = recording labels
      ((usagesOf set back).map (Usage.lowered front.length)) := by
    simp only [second, labels, labelLines_eq_labelsOf, ofLines_eq_recording, recording_lowered]
  have ordered := inLineOrder_labelsOf set front
  have behind : ∀ label ∈ labelsOf set front, ∀ later ∈ labels, label.line < later.line := by
    intro label inFront later inLabels
    obtain ⟨_, _, rfl⟩ := List.mem_map.mp inLabels
    have := line_lt_of_mem_labelsOf inFront
    simp only [Definition.lowered]
    omega
  rw [recorded]
  simp only [whole, first, ofLines_eq_recording, labelsOf_append, usagesOf_append,
    ← labelLines_eq_labelsOf set back]
  exact ⟨definitions_recording_append _ _ ordered behind, usages_recording_append _ _,
    issues_recording_append _ _ ordered behind⟩

end AsmSymbols
