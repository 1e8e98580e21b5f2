import Mathlib.Data.List.Forall2
import AsmSymbols.Tool

/-!
# Line endings

A file can end its lines in a line feed, or in a carriage return and a line feed, and the last line
can go without.  `Writes lines text` says that a text holds these lines, whatever endings it
chooses line by line.  Cutting the text brings the lines back (`lines_of_writes`), so nothing that
comes after the cut can tell one choice from another.
-/

set_option autoImplicit false

namespace AsmSymbols

namespace Text

inductive Ending where
  | feed
  | returnFeed
  deriving DecidableEq, Repr

def Ending.text : Ending → Text
  | .feed => ['\n']
  | .returnFeed => ['\r', '\n']

/-- A line that keeps clear of its ending.  Carriage returns may stand in it, but not last. -/
structure IsLine (line : Text) : Prop where
  noFeed : '\n' ∉ line
  noReturn : line.getLast? ≠ some '\r'

/-- `text` holds these lines, each with some ending.  The last one can go without if it is not
empty. -/
inductive Writes : List Text → Text → Prop
  | nothing : Writes [] []
  | unended {line : Text} : IsLine line → line ≠ [] → Writes [line] line
  | ended {line : Text} {lines : List Text} {rest : Text} (ending : Ending) :
      IsLine line → Writes lines rest → Writes (line :: lines) (line ++ ending.text ++ rest)

section Cutting

variable {c : Char} {line rest text : Text}

/-- A character that is no part of an ending goes in front of the first line. -/
theorem lines_cons (noFeed : c ≠ '\n') (noReturn : c = '\r' → rest.head? ≠ some '\n') :
    lines (c :: rest) = (c :: (lines rest).headD []) :: (lines rest).tail := by
  rw [lines.eq_4]
  · cases lines rest <;> rfl
  · rintro more isReturn rfl
    exact noReturn isReturn rfl
  · exact noFeed

theorem IsLine.tail (plain : IsLine (c :: line)) : IsLine line where
  noFeed := fun inLine => plain.noFeed (List.mem_cons_of_mem c inLine)
  noReturn := by
    cases line with
    | nil => simp
    | cons d line => simpa using plain.noReturn

/-- Neither a character of a line nor what follows it there is a line feed of its own ending. -/
theorem IsLine.lines_cons (plain : IsLine (c :: line)) (rest : Text)
    (behind : c = '\r' → line = [] → rest.head? ≠ some '\n') :
    lines (c :: (line ++ rest)) =
      (c :: (lines (line ++ rest)).headD []) :: (lines (line ++ rest)).tail := by
  apply Text.lines_cons
  · intro isFeed
    exact plain.noFeed (isFeed ▸ List.mem_cons_self)
  · intro isReturn
    cases line with
    | nil => exact behind isReturn rfl
    | cons d line =>
      intro startsWithFeed
      have isFeed : d = '\n' := by simpa using startsWithFeed
      exact plain.noFeed (by simp [isFeed])

theorem IsLine.lines_ended (plain : IsLine line) (ending : Ending) (rest : Text) :
    lines (line ++ ending.text ++ rest) = line :: lines rest := by
  rw [List.append_assoc]
  induction line with
  | nil => cases ending <;> rfl
  | cons c line inductionHypothesis =>
    rw [List.cons_append, plain.lines_cons, inductionHypothesis plain.tail]
    · rfl
    · rintro rfl rfl
      exact absurd rfl plain.noReturn

theorem IsLine.lines_unended (plain : IsLine line) (nonempty : line ≠ []) :
    lines line = [line] := by
  induction line with
  | nil => exact absurd rfl nonempty
  | cons c line inductionHypothesis =>
    have step := plain.lines_cons [] (by simp)
    rw [List.append_nil] at step
    rw [step]
    cases line with
    | nil => rfl
    | cons d line =>
      rw [inductionHypothesis plain.tail (List.cons_ne_nil d line)]
      rfl

/-- The lines of a text are those that it writes. -/
theorem lines_of_writes {written : List Text} (writes : Writes written text) :
    lines text = written := by
  induction writes with
  | nothing => rfl
  | unended plain nonempty => exact plain.lines_unended nonempty
  | ended ending plain _ inductionHypothesis =>
    rw [plain.lines_ended, inductionHypothesis]

end Cutting

/-- Two texts that differ in their line endings only. -/
def SameLines (text other : Text) : Prop := ∃ written, Writes written text ∧ Writes written other

theorem SameLines.lines_eq {text other : Text} (same : SameLines text other) :
    lines text = lines other := by
  obtain ⟨written, writes, writesOther⟩ := same
  rw [lines_of_writes writes, lines_of_writes writesOther]

end Text

/-- Two sources of one name that differ in their line endings only. -/
def SameUpToEndings (source other : Text × Text) : Prop :=
  source.1 = other.1 ∧ Text.SameLines source.2 other.2

theorem modules_of_sameUpToEndings {sources others : List (Text × Text)}
    (same : List.Forall₂ SameUpToEndings sources others) :
    (sources.map fun source => Module.ofText source.1 source.2) =
      others.map fun source => Module.ofText source.1 source.2 := by
  induction same with
  | nil => rfl
  | cons sameSource _ inductionHypothesis =>
    rw [List.map_cons, List.map_cons, inductionHypothesis, Module.ofText, Module.ofText,
      sameSource.1, sameSource.2.lines_eq]

namespace Tool

/-- Two readers that find the same files, up to line endings. -/
def ReadsAlike (reader other : Reader) : Prop :=
  ∀ name, (∃ cause, reader name = .error cause ∧ other name = .error cause) ∨
    ∃ text otherText, reader name = .ok text ∧ other name = .ok otherText ∧
      Text.SameLines text otherText

theorem readModules_of_readsAlike {reader other : Reader} (alike : ReadsAlike reader other)
    (names : List Text) : readModules reader names = readModules other names := by
  induction names with
  | nil => rfl
  | cons name names inductionHypothesis =>
    rcases alike name with ⟨cause, failed, failedOther⟩ | ⟨text, otherText, read, readOther, same⟩
    · simp only [readModules, failed, failedOther]
    · simp only [readModules, read, readOther, inductionHypothesis, Module.ofText, same.lines_eq]

end Tool

/-- Line endings make no difference.  A module has the lines that its text writes, and jobs whose
texts differ in their endings only have the same tables, issues, links and reports.  So a run has
the same problem or report, whatever endings its files have. -/
theorem assembly_ignores_line_endings :
    (∀ name written text, Text.Writes written text →
      (Module.ofText name text).lines = written) ∧
    (∀ (set : InstructionSet) (sources others : List (Text × Text)),
      List.Forall₂ SameUpToEndings sources others →
        let job := assemble set (sources.map fun source => Module.ofText source.1 source.2)
        let other := assemble set (others.map fun source => Module.ofText source.1 source.2)
        job.map Module.symbols = other.map Module.symbols ∧ link job = link other ∧
          ∀ globals, Report.text job globals = Report.text other globals ∧
            Report.json job globals = Report.json other globals) ∧
    ∀ (options : Options) (reader other : Tool.Reader), Tool.ReadsAlike reader other →
      Tool.prepare options reader = Tool.prepare options other := by
  refine ⟨fun name written text writes => Text.lines_of_writes writes, ?_, ?_⟩
  · intro set sources others same job other
    have sameJob : job = other := congrArg (assemble set) (modules_of_sameUpToEndings same)
    rw [sameJob]
    exact ⟨rfl, rfl, fun globals => ⟨rfl, rfl⟩⟩
  · intro options reader other alike
    rw [Tool.prepare, Tool.prepare, Tool.readModules_of_readsAlike alike]

/-- Both endings in one file, in either order, around an empty line and behind a line with a
carriage return of its own; the last line of one of the files has no ending. -/
theorem assembly_ignores_mixed_line_endings :
    let text : Text := "A:\rB LOAD N\r\n\nN: SPACE".toList
    let other : Text := "A:\rB LOAD N\n\r\nN: SPACE\r\n".toList
    let job := assemble .standard [Module.ofText ['m'] text]
    let otherJob := assemble .standard [Module.ofText ['m'] other]
    Text.SameLines text other ∧
      (Module.ofText ['m'] other).lines = ["A:\rB LOAD N".toList, [], "N: SPACE".toList] ∧
      job.map Module.symbols = otherJob.map Module.symbols ∧ link job = link otherJob ∧
      Tool.prepare { filenames := [['m']] } (fun _ => .ok text) =
        Tool.prepare { filenames := [['m']] } (fun _ => .ok other) := by
  intro text other job otherJob
  have first : Text.IsLine "A:\rB LOAD N".toList := ⟨by decide +kernel, by decide +kernel⟩
  have empty : Text.IsLine [] := ⟨by decide, by decide⟩
  have last : Text.IsLine "N: SPACE".toList := ⟨by decide +kernel, by decide +kernel⟩
  have writes : Text.Writes ["A:\rB LOAD N".toList, [], "N: SPACE".toList] text := by
    have split : text = "A:\rB LOAD N".toList ++ ['\r', '\n'] ++
        ([] ++ ['\n'] ++ "N: SPACE".toList) := by decide +kernel
    rw [split]
    exact .ended .returnFeed first (.ended .feed empty (.unended last (by decide +kernel)))
  have writesOther : Text.Writes ["A:\rB LOAD N".toList, [], "N: SPACE".toList] other := by
    have split : other = "A:\rB LOAD N".toList ++ ['\n'] ++
        ([] ++ ['\r', '\n'] ++ ("N: SPACE".toList ++ ['\r', '\n'] ++ [])) := by decide +kernel
    rw [split]
    exact .ended .feed first (.ended .returnFeed empty (.ended .returnFeed last .nothing))
  have same : Text.SameLines text other := ⟨_, writes, writesOther⟩
  have alike := assembly_ignores_line_endings.2.1 .standard [(['m'], text)] [(['m'], other)]
    (.cons ⟨rfl, same⟩ .nil)
  exact ⟨same, assembly_ignores_line_endings.1 _ _ _ writesOther, alike.1, alike.2.1,
    assembly_ignores_line_endings.2.2 _ _ _ fun _ => Or.inr ⟨text, other, rfl, rfl, same⟩⟩

end AsmSymbols
