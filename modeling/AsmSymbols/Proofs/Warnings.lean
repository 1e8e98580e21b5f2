import AsmSymbols.Proofs.Labels
import AsmSymbols.Proofs.Runs

/-!
# Redefinitions reach the user

No report tells of a label that was defined before; only the log does.  A user who asks for nothing
else sees warnings and errors (`Log.Filter.shows_standard`), and of all that a run tells, only the
issues of its modules are that severe (`Tool.shown_runLog`).  So standard error holds one warning
for every label line whose key an earlier label line of the file has, each with the time at which it
is shown, and behind them the problem of the run, if it has one.
-/

set_option autoImplicit false

namespace AsmSymbols

/-- The first label of the same key, if it stands on an earlier line. -/
def Definition.earlierSame? (labels : List Definition) (label : Definition) : Option Definition :=
  labels.find? fun earlier => earlier.line < label.line ∧ earlier.key = label.key

/-- A label line whose key an earlier label line of the file has, and the first line that has it. -/
structure RepeatedLabel where
  file : Text
  first : Definition
  later : Definition

/-- The repeated labels of a file, in line order. -/
def repeatedLabels (name text : Text) : List RepeatedLabel :=
  let labels := labelLines .standard (Text.lines text)
  labels.filterMap fun later =>
    (later.earlierSame? labels).map fun first => ⟨name, first, later⟩

namespace RepeatedLabel

/-- The line that tells of a repeated label. -/
def warning (time : Option Text) (label : RepeatedLabel) : Text :=
  "[" ++ Log.stamp time ++ "WARN  libhasm::pass_zero] " ++ Log.indent (label.file ++ ": symbol `"
    ++ label.later.symbol ++ "` redefined at " ++ placeText label.later.line label.later.offset
    ++ " (first defined at " ++ placeText label.first.line label.first.offset ++ ")") ++ "\n"

def record (label : RepeatedLabel) : Log.Record :=
  Log.issueRecord label.file ⟨label.later.symbol, label.later.line, label.later.offset,
    label.first.line, label.first.offset⟩

theorem render_record (time : Option Text) (label : RepeatedLabel) :
    label.record.render time = label.warning time := by
  have level : "WARN".toList ++ List.replicate (5 - "WARN".toList.length) ' ' ++ " ".toList
      ++ "libhasm::pass_zero".toList ++ "] ".toList = "WARN  libhasm::pass_zero] ".toList := by
    decide
  have message : ": symbol `".toList = ": ".toList ++ "symbol `".toList := by decide
  unfold Log.Record.render record Log.issueRecord Log.scanRecord Redefinition.message warning
  dsimp only [Log.Level.name, Log.Source.name]
  rw [← level, message]
  simp only [List.append_assoc]

end RepeatedLabel

section Issues

variable {labels : List Definition} {label : Definition}

theorem earlierSame?_of_isFirstAmong (first : label.IsFirstAmong labels) :
    label.earlierSame? labels = none := by
  rw [Definition.earlierSame?, List.find?_eq_none]
  intro earlier inLabels
  simpa using first earlier inLabels

/-- Among labels in line order, the first of a key stands above every other one. -/
theorem earlierSame?_of_not_isFirstAmong (ordered : InLineOrder labels)
    (repeated : ¬ label.IsFirstAmong labels) :
    label.earlierSame? labels = labels.find? fun first => first.key = label.key := by
  simp only [Definition.IsFirstAmong, not_forall, not_not] at repeated
  obtain ⟨earlier, inLabels, above, sameKey⟩ := repeated
  have found : (labels.find? fun first => first.key = label.key).isSome := by
    rw [List.find?_isSome]
    exact ⟨earlier, inLabels, by simpa using sameKey⟩
  obtain ⟨first, found⟩ := Option.isSome_iff_exists.mp found
  obtain ⟨firstKey, before, after, split, others⟩ := List.find?_eq_some_iff_append.mp found
  have firstAbove : first.line < label.line := by
    by_contra below
    have isFirst := isFirstAmong_of_find? ordered found
    have firstSame : first.key = label.key := of_decide_eq_true firstKey
    exact isFirst earlier inLabels (by omega) (sameKey.trans firstSame.symm)
  rw [found]
  refine List.find?_eq_some_iff_append.mpr ⟨?_, before, after, split, ?_⟩
  · simpa [firstAbove] using firstKey
  · intro other inBefore
    have differs := others other inBefore
    simp_all

/-- An issue tells of a label and of the first label of its key. -/
theorem redefinition?_eq_map_earlierSame? (ordered : InLineOrder labels) :
    label.redefinition? labels = (label.earlierSame? labels).map fun first =>
      ⟨label.symbol, label.line, label.offset, first.line, first.offset⟩ := by
  unfold Definition.redefinition?
  split
  next first => rw [earlierSame?_of_isFirstAmong first, Option.map_none]
  next repeated => rw [earlierSame?_of_not_isFirstAmong ordered repeated]

/-- The issues of a file, as the log tells them. -/
theorem issueRecords_ofLines (name text : Text) :
    (Symbols.ofLines .standard (Text.lines text)).issues.map (Log.issueRecord name) =
      (repeatedLabels name text).map RepeatedLabel.record := by
  have ordered := inLineOrder_labelsOf .standard (Text.lines text)
  rw [Symbols.ofLines_eq_recording, ← labelLines_eq_labelsOf] at *
  unfold Symbols.recording repeatedLabels
  rw [List.map_filterMap, List.map_filterMap]
  apply List.filterMap_congr
  intro later _
  rw [redefinition?_eq_map_earlierSame? ordered, Option.map_map, Option.map_map]
  rfl

end Issues

namespace Log

theorem Filter.shows_standard (record : Record) :
    Filter.standard.shows record =
      decide (record.level.verbosity ≤ Level.warn.verbosity) := by
  simp [shows, standard, upTo, thresholdFor, Table.insert, Table.upsert, Table.upsertEntries]

/-- Only users who ask for more than warnings see these records. -/
def Quiet (records : List Record) : Prop :=
  ∀ record ∈ records, Level.warn.verbosity < record.level.verbosity

theorem Quiet.append {first second : List Record} (quiet : Quiet first) (quietToo : Quiet second) :
    Quiet (first ++ second) := List.forall_mem_append.mpr ⟨quiet, quietToo⟩

theorem quiet_partRecords (set : InstructionSet) (line : Nat) (part : Part) :
    Quiet (partRecords set line part) := by
  cases part with
  | operand word =>
    intro record told
    obtain ⟨usage, _, rfl⟩ := List.mem_map.mp told
    simp [usageRecord, lineRecord, scanRecord, Level.verbosity]
  | mnemonic word => simp [Quiet, partRecords, lineRecord, scanRecord, Level.verbosity]
  | stray offset => simp [Quiet, partRecords, lineRecord, scanRecord, Level.verbosity]
  | unterminated offset => simp [Quiet, partRecords, lineRecord, scanRecord, Level.verbosity]

theorem quiet_statementRecords (set : InstructionSet) (line : Nat) (statement : Statement) :
    Quiet (statementRecords set line statement) := by
  have body : Quiet (statement.body.flatMap (partRecords set line)) := by
    intro record told
    obtain ⟨part, _, told⟩ := List.mem_flatMap.mp told
    exact quiet_partRecords set line part record told
  unfold statementRecords
  cases statement.head with
  | absent => exact (Quiet.append (by simp [Quiet]) body).append (by simp [Quiet])
  | bare =>
    exact (Quiet.append (by simp [Quiet, lineRecord, scanRecord, Level.verbosity]) body).append
      (by simp [Quiet])
  | label word =>
    exact (Quiet.append (by simp [Quiet]) body).append
      (by simp [Quiet, lineRecord, scanRecord, Level.verbosity])

theorem quiet_lineRecords (set : InstructionSet) (first : Nat) (lines : List Text) :
    Quiet (Module.lineRecords set first lines) := by
  induction lines generalizing first with
  | nil => simp [Quiet, Module.lineRecords]
  | cons text lines inductionHypothesis =>
    exact (quiet_statementRecords set first _).append (inductionHypothesis (first + 1))

end Log

namespace Tool

open Log (Quiet)

variable {options : Options} {here : Path} {tree : FileTree} {texts : List Text}

section Shown

theorem shown_of_quiet {records : List Log.Record} (quiet : Quiet records) :
    records.filter Log.Filter.standard.shows = [] := by
  rw [List.filter_eq_nil_iff]
  intro record told
  rw [Log.Filter.shows_standard]
  simpa using quiet record told

theorem shown_issues (name : Text) (issues : List Redefinition) :
    (issues.map (Log.issueRecord name)).filter Log.Filter.standard.shows =
      issues.map (Log.issueRecord name) := by
  rw [List.filter_eq_self]
  intro record told
  obtain ⟨issue, _, rfl⟩ := List.mem_map.mp told
  rw [Log.Filter.shows_standard]
  simp [Log.issueRecord, Log.scanRecord]

/-- Of the scan of a file, the user sees its repeated labels. -/
theorem shown_scanLog (name text : Text) :
    ((Module.ofText name text).scanLog .standard).filter Log.Filter.standard.shows =
      (repeatedLabels name text).map RepeatedLabel.record := by
  have totals : Quiet [Log.totalsRecord name (Symbols.ofLines .standard (Text.lines text))] := by
    simp [Quiet, Log.totalsRecord, Log.scanRecord, Log.Level.verbosity]
  have lines := shown_of_quiet (Log.quiet_lineRecords .standard 0 (Text.lines text))
  have sum := shown_of_quiet totals
  unfold Module.scanLog
  rw [List.filter_append, List.filter_append]
  simp only [Module.ofText, lines, sum, List.nil_append, List.append_nil]
  rw [shown_issues, issueRecords_ofLines]

/-- The repeated labels of all files, in the order of the command line. -/
def allRepeatedLabels (names texts : List Text) : List RepeatedLabel :=
  (names.zip texts).flatMap fun (name, text) => repeatedLabels name text

theorem shown_assemblyLog (names texts : List Text) :
    (assemblyLog .standard (List.zipWith Module.ofText names texts)).filter
        Log.Filter.standard.shows =
      (allRepeatedLabels names texts).map RepeatedLabel.record := by
  induction names generalizing texts with
  | nil => rfl
  | cons name names inductionHypothesis =>
    cases texts with
    | nil => rfl
    | cons text texts =>
      have announced : Quiet [⟨.debug, .assembly, "zeroth pass over ".toList ++ name⟩] := by
        simp [Quiet, Log.Level.verbosity]
      have told : (⟨.debug, .assembly, "zeroth pass over ".toList ++ name⟩ ::
          (Module.ofText name text).scanLog .standard).filter Log.Filter.standard.shows =
            (repeatedLabels name text).map RepeatedLabel.record := by
        rw [← List.singleton_append, List.filter_append, shown_of_quiet announced, shown_scanLog,
          List.nil_append]
      have following := inductionHypothesis texts
      unfold assemblyLog at following ⊢
      unfold allRepeatedLabels at following ⊢
      rw [List.zipWith_cons_cons, List.flatMap_cons, List.filter_append, following,
        List.zip_cons_cons, List.flatMap_cons, List.map_append]
      exact congrArg (· ++ _) told

theorem quiet_readLog (reader : Reader) (names : List Text) : Quiet (readLog reader names) := by
  induction names with
  | nil => simp [Quiet, readLog]
  | cons name names inductionHypothesis =>
    unfold readLog
    split
    · simp [Quiet]
    · refine List.forall_mem_cons.mpr ⟨?_, inductionHypothesis⟩
      simp [Log.Level.verbosity]

theorem quiet_linkLog (modules : List Module) : Quiet (linkLog modules) := by
  unfold linkLog
  split
  · simp [Quiet]
  · simp [Quiet, Log.Level.verbosity]

theorem quiet_writing (options : Options) (reader : Reader) :
    ∃ records, runLog options reader = prepareLog options reader ++ records ∧ Quiet records := by
  unfold runLog
  split
  · exact ⟨[], rfl, by simp [Quiet]⟩
  · split
    · exact ⟨[], rfl, by simp [Quiet]⟩
    · exact ⟨_, rfl, by simp [Quiet, writingRecord, Log.Level.verbosity]⟩

/-- Of all that a run tells, the user sees the repeated labels. -/
theorem shown_runLog (held : tree.HoldsTexts here options.filenames texts) :
    (runLog options (tree.readText here)).filter Log.Filter.standard.shows =
      (allRepeatedLabels options.filenames texts).map RepeatedLabel.record := by
  have linking : Quiet (if options.assembleOnly then [] else linkLog (job options texts)) := by
    split
    · simp [Quiet]
    · exact quiet_linkLog _
  obtain ⟨writing, log, quiet⟩ := quiet_writing options (tree.readText here)
  rw [log, prepareLog, readModules_of_held held]
  dsimp only
  rw [List.filter_append, List.filter_append, List.filter_append, shown_of_quiet quiet,
    shown_of_quiet (quiet_readLog _ _), shown_assemblyLog, ← job, shown_of_quiet linking,
    List.nil_append, List.append_nil, List.append_nil]

/-- One warning for every repeated label, the first of them at the first of these times. -/
def warnings (times : Nat → Option Text) (names texts : List Text) : Text :=
  ((allRepeatedLabels names texts).mapIdx fun n label => label.warning (times n)).flatten

theorem renderLog_runLog (times : Nat → Option Text)
    (held : tree.HoldsTexts here options.filenames texts) :
    renderLog times .standard (runLog options (tree.readText here)) =
      warnings times options.filenames texts := by
  rw [renderLog, shown_runLog held, warnings, List.mapIdx_eq_zipIdx_map, List.mapIdx_eq_zipIdx_map,
    List.zipIdx_map, List.map_map]
  refine congrArg List.flatten (List.map_congr_left ?_)
  rintro ⟨label, n⟩ _
  exact label.render_record (times n)

end Shown

section Call

variable {arguments : List Text} {world : World}

theorem prepare_of_linked {globals : Option Globals}
    (held : tree.HoldsTexts here options.filenames texts)
    (linked : Linked options (job options texts) globals) :
    prepare options (tree.readText here) = .ok (report options (job options texts) globals) := by
  have asked : linkIfAsked options (job options texts) = .ok globals := by
    cases globals with
    | none => exact if_pos linked
    | some globals => simp [linkIfAsked, linked.1, linked.2]
  rw [prepare_of_held held, asked]
  rfl

theorem prepare_of_unlinked {cause : LinkError}
    (held : tree.HoldsTexts here options.filenames texts) (wanted : options.assembleOnly = false)
    (failed : link (job options texts) = .error cause) :
    prepare options (tree.readText here) = .error (.linking cause) := by
  have asked : linkIfAsked options (job options texts) = .error (.linking cause) := by
    simp [linkIfAsked, wanted, failed]
  rw [prepare_of_held held, asked]
  rfl

/-- Standard error of a call that accepts its arguments and reads its files gets one warning for
every label line whose key an earlier label line of the file has.  If linking fails, or else
writing, one line with the problem follows and the status is 1; otherwise nothing follows and it is
0, whatever the warnings. -/
theorem invoke_warns_of_redefinitions (accepted : Options.ofArguments arguments = .ok options)
    (held : world.tree.HoldsTexts here options.filenames texts) :
    let modules := job options texts
    let exit := (invokeAt here arguments none world).1
    let after := (invokeAt here arguments none world).2
    let warned := world.stderr ++ warnings world.times options.filenames texts
    (∀ cause, options.assembleOnly = false → link modules = .error cause →
      exit = 1 ∧ after.stderr = warned ++ errorLine (RunError.linking cause).message) ∧
    ∀ globals, Linked options modules globals →
      (∀ output cause, options.output = some output →
        world.tree.write here output (encodeText (report options modules globals)) =
          .error cause →
          exit = 1 ∧ after.stderr = warned ++ errorLine (RunError.writing output cause).message) ∧
      ((∀ output, options.output = some output → ∃ written,
        world.tree.write here output (encodeText (report options modules globals)) =
          .ok written) →
          exit = 0 ∧ after.stderr = warned) := by
  intro modules exit after warned
  have shown : (world.afterTelling .standard
      (runLog options (world.tree.readText here))).stderr = warned :=
    congrArg (world.stderr ++ ·) (renderLog_runLog world.times held)
  rw [← shown]
  refine ⟨?_, ?_⟩
  · intro cause wanted failed
    have unprepared := prepare_of_unlinked held wanted failed
    exact invokeAt_of_failed accepted (runAt_of_unprepared unprepared)
  · intro globals linked
    have prepared := prepare_of_linked held linked
    refine ⟨?_, ?_⟩
    · intro output cause wanted failed
      exact invokeAt_of_failed accepted (runAt_of_unwritten prepared wanted failed)
    · intro writable
      cases wanted : options.output with
      | none =>
        have call := invokeAt_of_succeeded accepted (runAt_of_printed prepared wanted)
        exact call
      | some output =>
        obtain ⟨tree, written⟩ := writable output wanted
        have call := invokeAt_of_succeeded accepted (runAt_of_written prepared wanted written)
        exact call

/-- Two files that redefine a label each, in other letters, and define one label both.  The log
shows the time, and the second file is named by way of the root. -/
theorem invoke_warns_before_link_error :
    let here : Path := ["w".toList]
    let arguments : List Text := ["b".toList, "/a".toList]
    let options : Options := { filenames := arguments }
    let first : Text := "L: STOP\nl: SPACE".toList
    let second : Text := "x: STOP\nL: SPACE\n X: STOP".toList
    let world : World :=
      { tree := ⟨[(["a".toList], .file (encodeText second)), (["w".toList], .directory),
          (["w".toList, "b".toList], .file (encodeText first))]⟩
        times := fun n => some ("12:00:0".toList ++ Text.decimal n) }
    let after := (invokeAt here arguments none world).2
    (Options.ofArguments arguments = .ok options ∧
      world.tree.HoldsTexts here options.filenames [first, second]) ∧
      (invokeAt here arguments none world).1 = 1 ∧
      after.stderr =
        ("[12:00:00 WARN  libhasm::pass_zero] b: symbol `l` redefined at 1:0 ".toList
          ++ "(first defined at 0:0)\n".toList)
        ++ ("[12:00:01 WARN  libhasm::pass_zero] /a: symbol `X` redefined at 2:1 ".toList
          ++ "(first defined at 0:0)\n".toList)
        ++ "error: linking: symbol `L` is defined in both `b` and `/a`\n".toList := by
  intro here arguments options first second world after
  have accepted : Options.ofArguments arguments = .ok options := by decide +kernel
  have heldFirst : world.tree.HoldsText here "b".toList first := by
    unfold FileTree.HoldsText
    decide +kernel
  have heldSecond : world.tree.HoldsText here "/a".toList second := by
    unfold FileTree.HoldsText
    decide +kernel
  have held : world.tree.HoldsTexts here options.filenames [first, second] :=
    .cons heldFirst (.cons heldSecond .nil)
  have failed : link (job options [first, second]) =
      .error (.multiplyDefined "L".toList "b".toList "/a".toList) := by decide +kernel
  obtain ⟨exit, stderr⟩ := (invoke_warns_of_redefinitions accepted held).1 _ rfl failed
  refine ⟨⟨accepted, held⟩, exit, stderr.trans ?_⟩
  decide +kernel

end Call

end Tool

end AsmSymbols
