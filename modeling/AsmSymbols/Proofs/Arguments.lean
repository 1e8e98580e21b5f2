import AsmSymbols.CommandLine

/-!
# Options stand anywhere

File names and options can be mixed in any way, as long as the file names keep their order and the
output's name comes right behind its `-o`.  `Options.WrittenAs` builds such arguments from the back,
one piece at a time.  Reading begins at the front: what was read so far is kept and each piece is
added to it (`CommandLine.State.Holds.read_written`), so in the end it has found the options that
were written, and only their check remains.
-/

set_option autoImplicit false

namespace AsmSymbols

/-- Arguments that write options down: the file names in their order, and anywhere among them `-c`,
`--json`, and `-o` with the name of the output, each once if it is wanted and else not at all. -/
inductive Options.WrittenAs : Options → List Text → Prop
  | nothing : WrittenAs {} []
  | filename {options : Options} {arguments : List Text} (name : Text) :
      WrittenAs options arguments →
        WrittenAs { options with filenames := name :: options.filenames } (name :: arguments)
  | output {options : Options} {arguments : List Text} (name : Text) :
      options.output = none → WrittenAs options arguments →
        WrittenAs { options with output := some name } ("-o".toList :: name :: arguments)
  | assembleOnly {options : Options} {arguments : List Text} :
      options.assembleOnly = false → WrittenAs options arguments →
        WrittenAs { options with assembleOnly := true } ("-c".toList :: arguments)
  | json {options : Options} {arguments : List Text} :
      options.json = false → WrittenAs options arguments →
        WrittenAs { options with json := true } ("--json".toList :: arguments)

/-- A text that does not look like an option. -/
def IsPlainName (name : Text) : Prop := name.head? ≠ some '-'

instance (name : Text) : Decidable (IsPlainName name) :=
  inferInstanceAs (Decidable (name.head? ≠ some '-'))

/-- All names, of the files and of the output, are plain. -/
structure Options.PlainNames (options : Options) : Prop where
  filenames : ∀ name ∈ options.filenames, IsPlainName name
  output : ∀ name ∈ options.output, IsPlainName name

namespace Options

/-- No option is set on both sides. -/
structure Apart (first second : Options) : Prop where
  output : first.output = none ∨ second.output = none
  assembleOnly : first.assembleOnly = false ∨ second.assembleOnly = false
  json : first.json = false ∨ second.json = false

/-- What both sides ask for together, the file names of the first side in front. -/
def followedBy (first second : Options) : Options where
  filenames := first.filenames ++ second.filenames
  output := first.output.or second.output
  assembleOnly := first.assembleOnly || second.assembleOnly
  json := first.json || second.json

theorem nothing_apart (options : Options) : Apart {} options :=
  ⟨Or.inl rfl, Or.inl rfl, Or.inl rfl⟩

theorem nothing_followedBy (options : Options) : followedBy {} options = options := rfl

end Options

namespace CommandLine.State

/-- The options that were read so far.  An output can still be waiting to be settled. -/
inductive Holds : State → Options → Prop
  | settled {options : Options} : Holds ⟨options, .nothing, false⟩ options
  | waiting {options : Options} {name : Text} : options.output = none →
      Holds ⟨options, .given name, false⟩ { options with output := some name }

variable {state : State} {held : Options} {name : Text}

theorem Holds.settle_eq (holds : state.Holds held) :
    state.settle = .ok ⟨held, .nothing, false⟩ := by
  cases holds with
  | settled => rfl
  | waiting unset => simp only [settle, setOutput, unset]

theorem Holds.not_ended (holds : state.Holds held) : state.ended = false := by
  cases holds <;> rfl

/-- A plain name is the value that an `-o` waits for, or else a file name. -/
theorem read_of_plain (plain : IsPlainName name) (notEnded : state.ended = false) :
    (state.pending = .awaiting → state.read name = .ok { state with pending := .given name }) ∧
      (state.pending ≠ .awaiting → state.read name = state.readName name) := by
  unfold read
  rw [if_neg (by simp [notEnded])]
  split
  · exact absurd rfl plain
  · exact absurd rfl plain
  · exact absurd rfl plain
  · constructor
    · intro awaiting
      rw [awaiting]
      rfl
    · intro notAwaiting
      split
      next awaiting => exact absurd awaiting notAwaiting
      next => rfl

theorem Holds.read_name (holds : state.Holds held) (plain : IsPlainName name) :
    state.read name =
      .ok ⟨{ held with filenames := held.filenames ++ [name] }, .nothing, false⟩ := by
  have notAwaiting : state.pending ≠ .awaiting := by cases holds <;> simp
  rw [(read_of_plain plain holds.not_ended).2 notAwaiting, readName, holds.settle_eq]
  rfl

theorem Holds.read_assembleOnly (holds : state.Holds held) (unset : held.assembleOnly = false) :
    state.read "-c".toList = .ok ⟨{ held with assembleOnly := true }, .nothing, false⟩ := by
  have shortOption : state.read "-c".toList = state.readShort ['c'] := by
    unfold read
    rw [if_neg (by simp [holds.not_ended])]
    rfl
  rw [shortOption, readShort, holds.settle_eq]
  simp only [bind, Except.bind, setAssembleOnly, unset, Bool.false_eq_true, ↓reduceIte, readShort]

theorem Holds.read_json (holds : state.Holds held) (unset : held.json = false) :
    state.read "--json".toList = .ok ⟨{ held with json := true }, .nothing, false⟩ := by
  have longOption : state.read "--json".toList = state.readLong "json".toList none := by
    unfold read
    rw [if_neg (by simp [holds.not_ended])]
    rfl
  have known : state.readLong "json".toList none = state.settle >>= setJson := rfl
  rw [longOption, known, holds.settle_eq]
  simp only [bind, Except.bind, setJson, unset, Bool.false_eq_true, ↓reduceIte]

theorem Holds.read_output (holds : state.Holds held) :
    state.read "-o".toList = .ok ⟨held, .awaiting, false⟩ := by
  have shortOption : state.read "-o".toList = state.readShort ['o'] := by
    unfold read
    rw [if_neg (by simp [holds.not_ended])]
    rfl
  rw [shortOption, readShort, holds.settle_eq]
  rfl

theorem read_awaited (held : Options) (plain : IsPlainName name) :
    read ⟨held, .awaiting, false⟩ name = .ok ⟨held, .given name, false⟩ :=
  (read_of_plain plain rfl).1 rfl

/-- Reading arguments adds the options that they write to those that were read before. -/
theorem Holds.read_written {options : Options} {arguments : List Text}
    (written : options.WrittenAs arguments) (plain : options.PlainNames)
    (holds : state.Holds held) (apart : held.Apart options) :
    ∃ final : State, arguments.foldlM read state = .ok final ∧
      final.Holds (held.followedBy options) := by
  induction written generalizing state held with
  | nothing =>
    refine ⟨state, rfl, ?_⟩
    have same : held.followedBy {} = held := by simp [Options.followedBy]
    rwa [same]
  | @filename options arguments name written inductionHypothesis =>
    have plainRest : options.PlainNames :=
      ⟨fun other inRest => plain.filenames other (List.mem_cons_of_mem name inRest), plain.output⟩
    have apartRest : Options.Apart { held with filenames := held.filenames ++ [name] } options :=
      ⟨apart.output, apart.assembleOnly, apart.json⟩
    obtain ⟨final, read, found⟩ := inductionHypothesis plainRest Holds.settled apartRest
    refine ⟨final, ?_, ?_⟩
    · rw [List.foldlM_cons, holds.read_name (plain.filenames name List.mem_cons_self)]
      exact read
    · simpa [Options.followedBy] using found
  | @output options arguments name unset written inductionHypothesis =>
    have notHeld : held.output = none := apart.output.resolve_right (by simp)
    have plainName : IsPlainName name := plain.output name rfl
    have plainRest : options.PlainNames := ⟨plain.filenames, by simp [unset]⟩
    obtain ⟨final, read, found⟩ := inductionHypothesis plainRest (Holds.waiting notHeld)
      ⟨Or.inr unset, apart.assembleOnly, apart.json⟩
    refine ⟨final, ?_, ?_⟩
    · have readName :
          (name :: arguments).foldlM State.read ⟨held, .awaiting, false⟩ = .ok final := by
        rw [List.foldlM_cons, read_awaited held plainName]
        exact read
      rw [List.foldlM_cons, holds.read_output]
      exact readName
    · simpa [Options.followedBy, notHeld] using found
  | @assembleOnly options arguments unset written inductionHypothesis =>
    have notHeld : held.assembleOnly = false := apart.assembleOnly.resolve_right (by simp)
    have apartRest : Options.Apart { held with assembleOnly := true } options :=
      ⟨apart.output, Or.inr unset, apart.json⟩
    obtain ⟨final, read, found⟩ :=
      inductionHypothesis ⟨plain.filenames, plain.output⟩ Holds.settled apartRest
    refine ⟨final, ?_, ?_⟩
    · rw [List.foldlM_cons, holds.read_assembleOnly notHeld]
      exact read
    · simpa [Options.followedBy] using found
  | @json options arguments unset written inductionHypothesis =>
    have notHeld : held.json = false := apart.json.resolve_right (by simp)
    have apartRest : Options.Apart { held with json := true } options :=
      ⟨apart.output, apart.assembleOnly, Or.inr unset⟩
    obtain ⟨final, read, found⟩ :=
      inductionHypothesis ⟨plain.filenames, plain.output⟩ Holds.settled apartRest
    refine ⟨final, ?_, ?_⟩
    · rw [List.foldlM_cons, holds.read_json notHeld]
      exact read
    · simpa [Options.followedBy] using found

end CommandLine.State

namespace Options

theorem parse_of_written {options : Options} {arguments : List Text}
    (written : options.WrittenAs arguments) (plain : options.PlainNames) :
    parse arguments = .ok options := by
  obtain ⟨final, read, holds⟩ :=
    CommandLine.State.Holds.settled.read_written written plain (nothing_apart options)
  rw [nothing_followedBy] at holds
  rw [parse, read]
  change final.settle >>= _ = _
  rw [holds.settle_eq]
  rfl

/-- However options are written, reading finds them.  They are accepted if there is a file, and with
an output only one, of another name; else the first of the three problems is told. -/
theorem ofArguments_in_any_order {options : Options} {arguments : List Text}
    (written : options.WrittenAs arguments) (plain : options.PlainNames) :
    (options.filenames ≠ [] →
      (∀ output, options.output = some output →
          ∃ name, options.filenames = [name] ∧ name ≠ output) →
        ofArguments arguments = .ok options) ∧
    (options.filenames = [] → ofArguments arguments = .error .noInputFiles) ∧
    ∀ output, options.output = some output →
      (1 < options.filenames.length →
        ofArguments arguments = .error .outputWithMultipleInputs) ∧
      (options.filenames = [output] →
        ofArguments arguments = .error (.outputMatchesInput output)) := by
  have checked : ofArguments arguments = options.validate := by
    rw [ofArguments, parse_of_written written plain]
    rfl
  rw [checked]
  refine ⟨?_, ?_, ?_⟩
  · intro nonempty apart
    cases wanted : options.output with
    | none => simp [validate, nonempty, wanted]
    | some output =>
      obtain ⟨name, single, differs⟩ := apart output wanted
      simp [validate, wanted, single, differs.symm]
  · intro empty
    simp [validate, empty]
  · intro output wanted
    constructor
    · intro several
      have nonempty : options.filenames ≠ [] := List.ne_nil_of_length_pos (by omega)
      simp [validate, nonempty, wanted, several]
    · intro same
      simp [validate, wanted, same]

/-- One file among options of every kind is accepted, and with a second file, of an empty name, the
same options are not. -/
theorem ofArguments_among_options :
    let one : Options := ⟨["a.asm".toList], some "out".toList, true, true⟩
    let two : Options := ⟨["a.asm".toList, []], some "out".toList, true, true⟩
    let arguments : List Text :=
      ["--json".toList, "a.asm".toList, "-o".toList, "out".toList, "-c".toList]
    (one.WrittenAs arguments ∧ one.PlainNames ∧ ofArguments arguments = .ok one) ∧
      two.WrittenAs (arguments ++ [[]]) ∧ two.PlainNames ∧
        ofArguments (arguments ++ [[]]) = .error .outputWithMultipleInputs := by
  intro one two arguments
  have writtenOne : one.WrittenAs arguments :=
    .json rfl (.filename _ (.output _ rfl (.assembleOnly rfl .nothing)))
  have writtenTwo : two.WrittenAs (arguments ++ [[]]) :=
    .json rfl (.filename _ (.output _ rfl (.assembleOnly rfl (.filename _ .nothing))))
  have plainOne : one.PlainNames := ⟨by decide, by decide⟩
  have plainTwo : two.PlainNames := ⟨by decide, by decide⟩
  have otherName : ∀ output, one.output = some output →
      ∃ name, one.filenames = [name] ∧ name ≠ output := by
    rintro _ ⟨⟩
    exact ⟨_, rfl, by decide⟩
  have accepted := (ofArguments_in_any_order writtenOne plainOne).1 (by decide) otherName
  have refused := ((ofArguments_in_any_order writtenTwo plainTwo).2.2 _ rfl).1 (by decide)
  exact ⟨⟨writtenOne, plainOne, accepted⟩, writtenTwo, plainTwo, refused⟩

end Options

end AsmSymbols
