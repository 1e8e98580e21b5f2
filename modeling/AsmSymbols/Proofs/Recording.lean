import Mathlib.Data.List.Basic
import Mathlib.Data.List.Induction
import AsmSymbols.Symbols
import AsmSymbols.Proofs.Table

/-!
# What a scan records

A scan grows its tables one usage and one definition at a time.  `Symbols.recording` says what the
tables hold in the end, without any growing: the definitions that no earlier line makes, the others
as issues, and the usages grouped by key.  One usage and one definition each keep that form, so a
scan of any lines has it (`Symbols.ofLines_eq_recording`).
-/

set_option autoImplicit false

namespace AsmSymbols

def Definition.key (definition : Definition) : Text := symbolKey definition.symbol

def Usage.key (usage : Usage) : Text := symbolKey usage.symbol

/-- No definition on an earlier line has the same key. -/
def Definition.IsFirstAmong (labels : List Definition) (definition : Definition) : Prop :=
  ∀ earlier ∈ labels, earlier.line < definition.line → earlier.key ≠ definition.key

instance (labels : List Definition) (definition : Definition) :
    Decidable (definition.IsFirstAmong labels) :=
  inferInstanceAs (Decidable
    (∀ earlier ∈ labels, earlier.line < definition.line → earlier.key ≠ definition.key))

/-- The issue that a definition makes, if an earlier line has its key. -/
def Definition.redefinition? (labels : List Definition) (definition : Definition) :
    Option Redefinition :=
  if definition.IsFirstAmong labels then none
  else
    (labels.find? fun first => first.key = definition.key).map fun first =>
      ⟨definition.symbol, definition.line, definition.offset, first.line, first.offset⟩

namespace Symbols

/-- The tables of a module with these labels and these usages, each in source order. -/
def recording (labels : List Definition) (used : List Usage) : Symbols where
  definitions :=
    ⟨(labels.filter fun label => label.IsFirstAmong labels).map fun label => (label.key, label)⟩
  usages :=
    ⟨(used.map Usage.key).eraseDups.map fun key =>
      (key, used.filter fun usage => usage.key = key)⟩
  issues := labels.filterMap (Definition.redefinition? labels)

end Symbols

section FirstSeenKeys

theorem eraseDups_concat (keys : List Text) (key : Text) :
    (keys ++ [key]).eraseDups =
      if key ∈ keys then keys.eraseDups else keys.eraseDups ++ [key] := by
  rw [List.eraseDups_append]
  by_cases held : key ∈ keys
  · simp [List.removeAll, held]
  · simp [List.removeAll, held, List.eraseDups_cons]

theorem nodup_eraseDups (keys : List Text) : keys.eraseDups.Nodup := by
  induction keys using List.reverseRecOn with
  | nil => simp
  | append_singleton keys last inductionHypothesis =>
    rw [eraseDups_concat]
    split
    next held => exact inductionHypothesis
    next fresh =>
      rw [List.nodup_append]
      refine ⟨inductionHypothesis, by simp, ?_⟩
      rintro key inKeys _ isLast rfl
      rw [List.mem_singleton] at isLast
      subst isLast
      exact fresh (List.mem_eraseDups.mp inKeys)

theorem eraseDups_filter (kept : Text → Bool) (keys : List Text) :
    (keys.filter kept).eraseDups = keys.eraseDups.filter kept := by
  induction keys using List.reverseRecOn with
  | nil => rfl
  | append_singleton keys last inductionHypothesis =>
    rw [List.filter_append, eraseDups_concat]
    by_cases isKept : kept last = true
    · rw [List.filter_cons_of_pos isKept, List.filter_nil, eraseDups_concat, inductionHypothesis]
      by_cases held : last ∈ keys <;> simp [held, isKept]
    · rw [List.filter_cons_of_neg isKept, List.filter_nil, List.append_nil, inductionHypothesis]
      by_cases held : last ∈ keys <;> simp [held, isKept]

/-- The keys of a list that goes on: those of its beginning, and then the new ones. -/
theorem eraseDups_append_keys (keys more : List Text) :
    (keys ++ more).eraseDups =
      keys.eraseDups ++ more.eraseDups.filter fun key => key ∉ keys.eraseDups := by
  rw [List.eraseDups_append, List.removeAll, eraseDups_filter]
  simp

end FirstSeenKeys

namespace Symbols

theorem filter_key_concat (used : List Usage) (usage : Usage) (key : Text) :
    (used ++ [usage]).filter (fun other => other.key = key) =
      if key = usage.key then used.filter (fun other => other.key = key) ++ [usage]
      else used.filter fun other => other.key = key := by
  by_cases same : key = usage.key
  · simp [same]
  · have differs : usage.key ≠ key := fun equality => same equality.symm
    simp [same, differs]

theorem keys_usages_recording (labels : List Definition) (used : List Usage) :
    (recording labels used).usages.keys = (used.map Usage.key).eraseDups := by
  simp [recording, Table.keys, Function.comp_def]

/-- The table holds all usages of a key. -/
theorem getD_find?_usages_recording (labels : List Definition) (used : List Usage) (key : Text) :
    ((recording labels used).usages.find? key).getD [] =
      used.filter fun usage => usage.key = key := by
  rw [Table.find?, recording, Table.findIn?_map]
  split
  next => rfl
  next unused =>
    symm
    rw [Option.getD_none, List.filter_eq_nil_iff]
    intro usage inUsed sameKey
    apply unused
    exact List.mem_eraseDups.mpr (List.mem_map.mpr ⟨usage, inUsed, of_decide_eq_true sameKey⟩)

/-- Under every key of the usage table stand usages of that key, at least one. -/
theorem mem_usages_recording {labels : List Definition} {used held : List Usage} {key : Text}
    (grouped : (key, held) ∈ (recording labels used).usages.entries) :
    held ≠ [] ∧ ∀ usage ∈ held, usage.key = key := by
  obtain ⟨_, inKeys, ⟨⟩⟩ := List.mem_map.mp grouped
  constructor
  · obtain ⟨usage, inUsed, sameKey⟩ := List.mem_map.mp (List.mem_eraseDups.mp inKeys)
    exact List.ne_nil_of_mem (List.mem_filter.mpr ⟨inUsed, decide_eq_true sameKey⟩)
  · intro usage inGroup
    exact of_decide_eq_true (List.mem_filter.mp inGroup).2

/-- Recording one more usage. -/
theorem addUsage_recording (labels : List Definition) (used : List Usage) (usage : Usage) :
    (recording labels used).addUsage usage = recording labels (used ++ [usage]) := by
  have keysDistinct := nodup_eraseDups (used.map Usage.key)
  simp only [recording, addUsage, UsageTable.add, Table.upsert, List.map_append, List.map_cons,
    List.map_nil, eraseDups_concat, filter_key_concat, mk.injEq, Table.mk.injEq, true_and, and_true]
  change Table.upsertEntries usage.key _ _ = _
  split
  next held =>
    rw [Table.upsertEntries_map_of_mem _ keysDistinct (List.mem_eraseDups.mpr held)]
    apply List.map_congr_left
    intro key _
    by_cases same : key = usage.key
    · simp [same]
    · simp [same]
  next fresh =>
    have notHeld : usage.key ∉ ((used.map Usage.key).eraseDups.map fun key =>
        (key, used.filter fun other => other.key = key)).map Prod.fst := by
      simpa [Function.comp_def] using fresh
    have noneUsed : used.filter (fun other => other.key = usage.key) = [] := by
      rw [List.filter_eq_nil_iff]
      intro other inUsed same
      exact fresh (List.mem_map.mpr ⟨other, inUsed, of_decide_eq_true same⟩)
    rw [Table.upsertEntries_of_notMem notHeld, List.map_append]
    congr 1
    · apply List.map_congr_left
      intro key inKeys
      have differs : key ≠ usage.key := by
        rintro rfl
        exact fresh (List.mem_eraseDups.mp inKeys)
      simp [differs]
    · simp [noneUsed]

theorem foldl_addUsage_recording (labels : List Definition) (used more : List Usage) :
    more.foldl addUsage (recording labels used) = recording labels (used ++ more) := by
  induction more generalizing used with
  | nil => simp
  | cons usage rest inductionHypothesis =>
    rw [List.foldl_cons, addUsage_recording, inductionHypothesis]
    simp

end Symbols

section Labels

variable {labels more : List Definition} {label new : Definition}

/-- Labels in source order: there is at most one on a line. -/
def InLineOrder (labels : List Definition) : Prop :=
  labels.Pairwise fun earlier later => earlier.line < later.line

theorem InLineOrder.concat (ordered : InLineOrder labels)
    (behind : ∀ label ∈ labels, label.line < new.line) : InLineOrder (labels ++ [new]) := by
  refine List.pairwise_append.mpr ⟨ordered, List.pairwise_singleton _ _, ?_⟩
  intro label inLabels last isNew
  rw [List.mem_singleton] at isNew
  subst isNew
  exact behind label inLabels

/-- In line order, the label that a search finds is the first of its key. -/
theorem isFirstAmong_of_find? {key : Text} (ordered : InLineOrder labels)
    (found : labels.find? (fun first => first.key = key) = some label) :
    label.IsFirstAmong labels := by
  obtain ⟨sameKey, before, after, split, others⟩ := List.find?_eq_some_iff_append.mp found
  have sameKey := of_decide_eq_true sameKey
  subst split
  rw [InLineOrder, List.pairwise_append, List.pairwise_cons] at ordered
  intro earlier inLabels lower
  rcases List.mem_append.mp inLabels with inBefore | inRest
  · have otherKey := others earlier inBefore
    rw [sameKey]
    simpa using otherKey
  · exfalso
    rcases List.mem_cons.mp inRest with rfl | inAfter
    · omega
    · have := ordered.2.1.1 earlier inAfter
      omega

theorem find?_filter_isFirstAmong (ordered : InLineOrder labels) (key : Text) :
    (labels.filter fun label => label.IsFirstAmong labels).find? (fun first => first.key = key) =
      labels.find? fun first => first.key = key := by
  rw [List.find?_filter]
  cases found : labels.find? fun first => first.key = key with
  | none =>
    rw [List.find?_eq_none] at found ⊢
    intro label inLabels
    simpa using fun _ => by simpa using found label inLabels
  | some label =>
    have first := isFirstAmong_of_find? ordered found
    obtain ⟨sameKey, before, after, split, others⟩ := List.find?_eq_some_iff_append.mp found
    refine List.find?_eq_some_iff_append.mpr ⟨by simp [first, sameKey], before, after, split, ?_⟩
    intro earlier inBefore
    have := others earlier inBefore
    simp_all

theorem findIn?_map_key (labels : List Definition) (key : Text) :
    Table.findIn? key (labels.map fun label => (label.key, label)) =
      labels.find? fun first => first.key = key := by
  induction labels with
  | nil => rfl
  | cons label rest inductionHypothesis =>
    by_cases same : label.key = key
    · simp [Table.findIn?, same]
    · simp [Table.findIn?, same, inductionHypothesis]

/-- The table finds the first label of a key. -/
theorem Symbols.get?_recording (ordered : InLineOrder labels) (used : List Usage) (symbol : Text) :
    (recording labels used).definitions.get? symbol =
      labels.find? fun first => first.key = symbolKey symbol := by
  unfold recording DefinitionTable.get? Table.find?
  rw [findIn?_map_key, find?_filter_isFirstAmong ordered]

/-- Of two labels with one key, only the upper one is first. -/
theorem Symbols.nodup_keys_definitions_recording (ordered : InLineOrder labels)
    (used : List Usage) : (recording labels used).definitions.keys.Nodup := by
  simp only [recording, Table.keys, List.map_map, Function.comp_def]
  apply List.pairwise_map.mpr
  apply List.pairwise_filter.mpr
  apply List.Pairwise.imp_of_mem _ ordered
  intro upper lower inLabels _ above _ isFirst
  exact of_decide_eq_true isFirst upper inLabels above

/-- Labels further down do not matter to a label. -/
theorem isFirstAmong_append_left (above : ∀ later ∈ more, label.line < later.line) :
    label.IsFirstAmong (labels ++ more) ↔ label.IsFirstAmong labels := by
  constructor
  · intro first earlier inLabels
    exact first earlier (List.mem_append_left _ inLabels)
  · intro first earlier inLabels earlierLine
    rcases List.mem_append.mp inLabels with inLabels | inMore
    · exact first earlier inLabels earlierLine
    · have := above earlier inMore
      omega

theorem isFirstAmong_append_right (behind : ∀ earlier ∈ labels, earlier.line < label.line) :
    label.IsFirstAmong (labels ++ more) ↔
      (∀ earlier ∈ labels, earlier.key ≠ label.key) ∧ label.IsFirstAmong more := by
  constructor
  · intro first
    constructor
    · intro earlier inLabels
      exact first earlier (List.mem_append_left _ inLabels) (behind earlier inLabels)
    · intro earlier inMore
      exact first earlier (List.mem_append_right _ inMore)
  · rintro ⟨others, first⟩ earlier inLabels earlierLine
    rcases List.mem_append.mp inLabels with inLabels | inMore
    · exact others earlier inLabels
    · exact first earlier inMore earlierLine

theorem isFirstAmong_concat (behind : ∀ label ∈ labels, label.line < new.line) :
    new.IsFirstAmong (labels ++ [new]) ↔ ∀ label ∈ labels, label.key ≠ new.key := by
  rw [isFirstAmong_append_right behind]
  simp [Definition.IsFirstAmong]

theorem redefinition?_append_left (inLabels : label ∈ labels)
    (above : ∀ later ∈ more, label.line < later.line) :
    label.redefinition? (labels ++ more) = label.redefinition? labels := by
  have found : (labels.find? fun first => first.key = label.key).isSome := by
    rw [List.find?_isSome]
    exact ⟨label, inLabels, by simp⟩
  obtain ⟨first, found⟩ := Option.isSome_iff_exists.mp found
  simp only [Definition.redefinition?, isFirstAmong_append_left above, List.find?_append, found,
    Option.some_or]

theorem filter_isFirstAmong_append
    (ordered : ∀ label ∈ labels, ∀ later ∈ more, label.line < later.line) :
    (labels ++ more).filter (fun label => label.IsFirstAmong (labels ++ more)) =
      labels.filter (fun label => label.IsFirstAmong labels) ++
        more.filter fun label => label.IsFirstAmong (labels ++ more) := by
  rw [List.filter_append]
  congr 1
  apply List.filter_congr
  intro label inLabels
  simp only [isFirstAmong_append_left (ordered label inLabels)]

theorem filterMap_redefinition?_append
    (ordered : ∀ label ∈ labels, ∀ later ∈ more, label.line < later.line) :
    (labels ++ more).filterMap (Definition.redefinition? (labels ++ more)) =
      labels.filterMap (Definition.redefinition? labels) ++
        more.filterMap (Definition.redefinition? (labels ++ more)) := by
  rw [List.filterMap_append]
  congr 1
  apply List.filterMap_congr
  intro label inLabels
  exact redefinition?_append_left inLabels (ordered label inLabels)

/-- Recording one more label, on a line behind all others. -/
theorem Symbols.addDefinition_recording (ordered : InLineOrder labels)
    (behind : ∀ label ∈ labels, label.line < new.line) (used : List Usage) :
    (recording labels used).addDefinition new = recording (labels ++ [new]) used := by
  have newBehind : ∀ label ∈ labels, ∀ later ∈ [new], label.line < later.line := by
    simpa using behind
  unfold addDefinition
  rw [get?_recording ordered]
  cases found : labels.find? fun first => first.key = symbolKey new.symbol with
  | none =>
    rw [List.find?_eq_none] at found
    have fresh : ∀ label ∈ labels, label.key ≠ new.key := fun label inLabels same =>
      found label inLabels (decide_eq_true same)
    have first : new.IsFirstAmong (labels ++ [new]) := (isFirstAmong_concat behind).mpr fresh
    have noIssue : new.redefinition? (labels ++ [new]) = none := if_pos first
    have notHeld : new.key ∉ (recording labels used).definitions.keys := by
      simp only [recording, Table.keys, List.map_map, List.mem_map, List.mem_filter, not_exists,
        not_and]
      rintro label ⟨inLabels, _⟩
      exact fresh label inLabels
    have grown : (recording labels used).definitions.insert new.key new =
        (recording (labels ++ [new]) used).definitions := by
      simp only [recording, filter_isFirstAmong_append newBehind, List.map_append]
      have kept : [new].filter (fun label => label.IsFirstAmong (labels ++ [new])) = [new] := by
        simp [first]
      rw [kept]
      exact congrArg Table.mk (Table.entries_insert_of_notMem notHeld)
    have sameIssues : (recording labels used).issues =
        (recording (labels ++ [new]) used).issues := by
      simp only [recording, filterMap_redefinition?_append newBehind, List.filterMap_cons, noIssue,
        List.filterMap_nil, List.append_nil]
    exact (mk.injEq ..).mpr ⟨grown, rfl, sameIssues⟩
  | some held =>
    have inLabels := List.mem_of_find?_eq_some found
    have matched := List.find?_some found
    have sameKey : held.key = new.key := of_decide_eq_true matched
    have notFirst : ¬ new.IsFirstAmong (labels ++ [new]) := fun first =>
      (isFirstAmong_concat behind).mp first held inLabels sameKey
    have foundInAll : (labels ++ [new]).find? (fun first => first.key = new.key) = some held := by
      rw [List.find?_append]
      exact Option.or_eq_some_iff.mpr (Or.inl found)
    simp only [recording, filter_isFirstAmong_append newBehind,
      filterMap_redefinition?_append newBehind]
    simp only [Definition.redefinition?, notFirst, foundInAll, ↓reduceIte, Option.map_some,
      List.filterMap_cons, List.filterMap_nil, List.filter_cons, decide_false, Bool.false_eq_true,
      List.filter_nil, List.append_nil]

end Labels

/-- The definitions that the lines of a module make, in line order. -/
def labelsOf (set : InstructionSet) (lines : List Text) : List Definition :=
  lines.zipIdx.filterMap fun (text, line) => (Statement.ofLine set text).definition? set line

/-- The usages on the lines of a module, in source order. -/
def usagesOf (set : InstructionSet) (lines : List Text) : List Usage :=
  lines.zipIdx.flatMap fun (text, line) => (Statement.ofLine set text).usages set line

theorem labelsOf_concat (set : InstructionSet) (lines : List Text) (text : Text) :
    labelsOf set (lines ++ [text]) =
      labelsOf set lines ++
        ((Statement.ofLine set text).definition? set lines.length).toList := by
  simp only [labelsOf, List.zipIdx_append, List.filterMap_append, Nat.zero_add]
  cases found : (Statement.ofLine set text).definition? set lines.length <;> simp [found]

theorem usagesOf_concat (set : InstructionSet) (lines : List Text) (text : Text) :
    usagesOf set (lines ++ [text]) =
      usagesOf set lines ++ (Statement.ofLine set text).usages set lines.length := by
  simp [usagesOf, List.zipIdx_append]

theorem Statement.line_of_definition? {set : InstructionSet} {line : Nat} {statement : Statement}
    {definition : Definition} (found : statement.definition? set line = some definition) :
    definition.line = line := by
  unfold Statement.definition? at found
  split at found
  · cases found
    rfl
  · cases found

/-- A label of a module comes from one of its lines. -/
theorem mem_labelsOf {set : InstructionSet} {lines : List Text} {label : Definition} :
    label ∈ labelsOf set lines ↔
      ∃ text, lines[label.line]? = some text ∧
        (Statement.ofLine set text).definition? set label.line = some label := by
  simp only [labelsOf, List.mem_filterMap, Prod.exists, List.mem_zipIdx_iff_getElem?]
  constructor
  · rintro ⟨text, line, onLine, made⟩
    have sameLine := Statement.line_of_definition? made
    subst sameLine
    exact ⟨text, onLine, made⟩
  · rintro ⟨text, onLine, made⟩
    exact ⟨text, label.line, onLine, made⟩

theorem line_lt_of_mem_labelsOf {set : InstructionSet} {lines : List Text} {label : Definition}
    (inLabels : label ∈ labelsOf set lines) : label.line < lines.length := by
  obtain ⟨text, onLine, _⟩ := mem_labelsOf.mp inLabels
  exact (List.getElem?_eq_some_iff.mp onLine).1

theorem inLineOrder_labelsOf (set : InstructionSet) (lines : List Text) :
    InLineOrder (labelsOf set lines) := by
  induction lines using List.reverseRecOn with
  | nil => exact List.Pairwise.nil
  | append_singleton lines text inductionHypothesis =>
    rw [labelsOf_concat]
    cases made : (Statement.ofLine set text).definition? set lines.length with
    | none => simpa using inductionHypothesis
    | some label =>
      apply inductionHypothesis.concat
      intro earlier inLabels
      rw [Statement.line_of_definition? made]
      exact line_lt_of_mem_labelsOf inLabels

namespace Symbols

theorem addLines_append (set : InstructionSet) (symbols : Symbols) (first : Nat)
    (front back : List Text) :
    addLines set symbols first (front ++ back) =
      addLines set (addLines set symbols first front) (first + front.length) back := by
  induction front generalizing symbols first with
  | nil => simp [addLines]
  | cons text rest inductionHypothesis =>
    simp only [List.cons_append, addLines, inductionHypothesis, List.length_cons]
    congr 1
    omega

/-- Recording one more statement, on a line behind all labels. -/
theorem addStatement_recording (set : InstructionSet) {labels : List Definition} {line : Nat}
    (ordered : InLineOrder labels) (behind : ∀ label ∈ labels, label.line < line)
    (used : List Usage) (statement : Statement) :
    (recording labels used).addStatement set line statement =
      recording (labels ++ (statement.definition? set line).toList)
        (used ++ statement.usages set line) := by
  simp only [addStatement, foldl_addUsage_recording]
  cases made : statement.definition? set line with
  | none => simp
  | some definition =>
    have sameLine := Statement.line_of_definition? made
    subst sameLine
    exact addDefinition_recording ordered behind _

/-- The tables of a scan hold the labels and the usages of the lines, and nothing else. -/
theorem ofLines_eq_recording (set : InstructionSet) (lines : List Text) :
    ofLines set lines = recording (labelsOf set lines) (usagesOf set lines) := by
  induction lines using List.reverseRecOn with
  | nil => rfl
  | append_singleton lines text inductionHypothesis =>
    unfold ofLines at inductionHypothesis ⊢
    rw [addLines_append, inductionHypothesis, labelsOf_concat, usagesOf_concat, Nat.zero_add]
    exact addStatement_recording set (inLineOrder_labelsOf set lines)
      (fun label inLabels => line_lt_of_mem_labelsOf inLabels) _ _

theorem nodup_keys_definitions_ofLines (set : InstructionSet) (lines : List Text) :
    (ofLines set lines).definitions.keys.Nodup := by
  rw [ofLines_eq_recording]
  exact nodup_keys_definitions_recording (inLineOrder_labelsOf set lines) _

theorem nodup_keys_usages_ofLines (set : InstructionSet) (lines : List Text) :
    (ofLines set lines).usages.keys.Nodup := by
  rw [ofLines_eq_recording, keys_usages_recording]
  exact nodup_eraseDups _

end Symbols

end AsmSymbols
