import AsmSymbols.Tool

/-!
# The tool in a world

The tool acts through a `Host`.  Where the host is a `World`, each of its stages comes down to what
it gives and what it changes.  Reading changes nothing, and the reader that it gives answers like
the file tree to everyone who reads the same files in turn (`Tool.Follows`).  Telling records
changes standard error and moves the clock (`World.afterTelling`).  Only putting the report out
touches standard output and the files.
-/

set_option autoImplicit false

namespace AsmSymbols

/-- Once it is known what a step gives and where it ends, the rest goes on from there. -/
theorem run_bind_of_run {σ α β : Type} {first : StateM σ α} {next : α → StateM σ β}
    {before after : σ} {value : α} (ran : first.run before = (value, after)) :
    (first >>= next).run before = (next value).run after := by
  rw [StateT.run_bind, ran]
  rfl

namespace Tool

/-- The lines that show records, the first of them at the first of these times. -/
def renderLog (times : Nat → Option Text) (filter : Log.Filter) (records : List Log.Record) :
    Text :=
  ((records.filter filter.shows).mapIdx fun n record => record.render (times n)).flatten

end Tool

/-- The world after these records were told. -/
def World.afterTelling (world : World) (filter : Log.Filter) (records : List Log.Record) : World :=
  { world with
    stderr := world.stderr ++ Tool.renderLog world.times filter records
    times := fun n => world.times (n + (records.filter filter.shows).length) }

namespace Tool

section Reading

/-- `reader` answers like `other` to everyone who reads these files in turn and stops at the first
that cannot be read. -/
def Follows (reader other : Reader) : List Text → Prop
  | [] => True
  | name :: rest =>
    reader name = other name ∧ ((other name).isOk = true → Follows reader other rest)

variable {reader other : Reader} {names : List Text} {options : Options}

/-- What is read, and what is told about it, is the same. -/
theorem Follows.reading_eq (follows : Follows reader other names) :
    readModules reader names = readModules other names ∧
      readLog reader names = readLog other names := by
  induction names with
  | nil => exact ⟨rfl, rfl⟩
  | cons name rest inductionHypothesis =>
    obtain ⟨same, later⟩ := follows
    cases found : other name with
    | error cause => simp only [readModules, readLog, same, found, and_self]
    | ok text =>
      obtain ⟨modules, log⟩ := inductionHypothesis (later (by rw [found]; rfl))
      simp only [readModules, readLog, same, found, modules, log, and_self]

theorem Follows.prepare_eq (follows : Follows reader other options.filenames) :
    prepare options reader = prepare options other := by
  rw [prepare, prepare, follows.reading_eq.1]

theorem Follows.runLog_eq (follows : Follows reader other options.filenames) :
    runLog options reader = runLog options other := by
  obtain ⟨modules, log⟩ := follows.reading_eq
  rw [runLog, runLog, prepareLog, prepareLog, log, modules, follows.prepare_eq]

/-- An answer that is known for one more file does not change the others. -/
theorem Follows.extend (follows : Follows reader other names) (name : Text) :
    Follows (fun asked => if asked = name then other name else reader asked) other names := by
  induction names with
  | nil => trivial
  | cons first rest inductionHypothesis =>
    refine ⟨?_, fun found => inductionHypothesis (follows.2 found)⟩
    dsimp only
    split
    next isName => rw [isName]
    next => exact follows.1

/-- Reading files in turn leaves the world as it is, and gives a reader that answers like its file
tree. -/
theorem exists_run_readInTurn (here : Path) (world : World) (names : List Text) :
    ∃ reader, (readInTurn (World.host here) names).run world = (reader, world) ∧
      Follows reader (world.tree.readText here) names := by
  induction names with
  | nil => exact ⟨_, rfl, trivial⟩
  | cons name rest inductionHypothesis =>
    have read : ((World.host here).read name).run world = (world.tree.read here name, world) := rfl
    rw [readInTurn, run_bind_of_run read]
    cases found : textOf (world.tree.read here name) with
    | error cause =>
      refine ⟨fun _ => .error cause, rfl, found.symm, ?_⟩
      intro isOk
      rw [FileTree.readText, found] at isOk
      cases isOk
    | ok text =>
      obtain ⟨others, ran, follows⟩ := inductionHypothesis
      refine ⟨fun asked => if asked = name then .ok text else others asked, ?_, ?_, fun _ => ?_⟩
      · dsimp only
        rw [run_bind_of_run ran]
        rfl
      · simp only [if_true]
        exact found.symm
      · have extended := follows.extend name
        rwa [FileTree.readText, found] at extended

end Reading

section Telling

variable {filter : Log.Filter} {record : Log.Record}

theorem afterTelling_nil (world : World) (filter : Log.Filter) :
    world.afterTelling filter [] = world := by
  simp [World.afterTelling, renderLog]

/-- A record that is shown takes the first of the times. -/
theorem afterTelling_of_shown (shown : filter.shows record = true) (rest : List Log.Record)
    (world : World) :
    world.afterTelling filter (record :: rest) =
      World.afterTelling
        { world with
          stderr := world.stderr ++ record.render (world.times 0)
          times := fun n => world.times (n + 1) } filter rest := by
  simp only [World.afterTelling, renderLog, List.filter_cons_of_pos shown, List.mapIdx_cons,
    List.flatten_cons, List.append_assoc, List.length_cons, Nat.add_assoc]

theorem afterTelling_of_hidden (hidden : ¬ filter.shows record = true) (rest : List Log.Record)
    (world : World) :
    world.afterTelling filter (record :: rest) = world.afterTelling filter rest := by
  simp only [World.afterTelling, renderLog, List.filter_cons_of_neg hidden]

/-- Telling records shows those that the filter lets through, each at its time. -/
theorem run_tell (here : Path) (filter : Log.Filter) (records : List Log.Record) (world : World) :
    (tell (World.host here) filter records).run world =
      ((), world.afterTelling filter records) := by
  induction records generalizing world with
  | nil =>
    rw [afterTelling_nil]
    rfl
  | cons record rest inductionHypothesis =>
    rw [tell]
    by_cases shown : filter.shows record = true
    · have asked : (World.host here).time.run world =
          (world.times 0, { world with times := fun n => world.times (n + 1) }) := rfl
      rw [if_pos shown, run_bind_of_run asked, afterTelling_of_shown shown]
      exact inductionHypothesis _
    · rw [if_neg shown, afterTelling_of_hidden shown]
      exact inductionHypothesis _

end Telling

section Acting

variable {here : Path} {filter : Log.Filter} {options : Options} {world : World}
  {report output : Text}

theorem runAt_of_unprepared {problem : RunError}
    (failed : prepare options (world.tree.readText here) = .error problem) :
    runAt here filter options world =
      (.error problem,
        world.afterTelling filter (runLog options (world.tree.readText here))) := by
  obtain ⟨reader, read, follows⟩ := exists_run_readInTurn here world options.filenames
  rw [runAt, run, run_bind_of_run read, run_bind_of_run (run_tell ..), follows.prepare_eq, failed,
    follows.runLog_eq]
  rfl

theorem runAt_of_prepared (prepared : prepare options (world.tree.readText here) = .ok report) :
    runAt here filter options world =
      (putOut (World.host here) options.output report).run
        (world.afterTelling filter (runLog options (world.tree.readText here))) := by
  obtain ⟨reader, read, follows⟩ := exists_run_readInTurn here world options.filenames
  rw [runAt, run, run_bind_of_run read, run_bind_of_run (run_tell ..), follows.prepare_eq, prepared,
    follows.runLog_eq]

theorem run_putOut_of_unwritten {cause : FileError}
    (failed : world.tree.write here output (encodeText report) = .error cause) :
    (putOut (World.host here) (some output) report).run world =
      (.error (.writing output cause), world) := by
  have wrote : ((World.host here).write output (encodeText report)).run world =
      (.error cause, world) := by
    simp only [World.host, StateT.run, failed]
  rw [putOut, run_bind_of_run wrote]
  rfl

theorem run_putOut_of_written {tree : FileTree}
    (written : world.tree.write here output (encodeText report) = .ok tree) :
    (putOut (World.host here) (some output) report).run world = (.ok (), { world with tree }) := by
  have wrote : ((World.host here).write output (encodeText report)).run world =
      (.ok (), { world with tree }) := by
    simp only [World.host, StateT.run, written]
  rw [putOut, run_bind_of_run wrote]
  rfl

theorem runAt_of_printed (prepared : prepare options (world.tree.readText here) = .ok report)
    (unwanted : options.output = none) :
    runAt here filter options world =
      (.ok (),
        { world.afterTelling filter (runLog options (world.tree.readText here)) with
          stdout := world.stdout ++ report }) := by
  rw [runAt_of_prepared prepared, unwanted]
  rfl

theorem runAt_of_unwritten (prepared : prepare options (world.tree.readText here) = .ok report)
    (wanted : options.output = some output) {cause : FileError}
    (failed : world.tree.write here output (encodeText report) = .error cause) :
    runAt here filter options world =
      (.error (.writing output cause),
        world.afterTelling filter (runLog options (world.tree.readText here))) := by
  rw [runAt_of_prepared prepared, wanted]
  exact run_putOut_of_unwritten failed

theorem runAt_of_written (prepared : prepare options (world.tree.readText here) = .ok report)
    (wanted : options.output = some output) {tree : FileTree}
    (written : world.tree.write here output (encodeText report) = .ok tree) :
    runAt here filter options world =
      (.ok (),
        { world.afterTelling filter (runLog options (world.tree.readText here)) with tree }) := by
  rw [runAt_of_prepared prepared, wanted]
  exact run_putOut_of_written written

end Acting

section Calling

variable {here : Path} {arguments : List Text} {options : Options} {world after : World}

/-- A user who asks for no filter gets the standard one, and nothing is said about it. -/
theorem invokeAt_of_accepted (accepted : Options.ofArguments arguments = .ok options)
    {result : Except RunError Unit} (ran : runAt here .standard options world = (result, after)) :
    invokeAt here arguments none world = (conclude (World.host here) result).run after := by
  have complained : ((World.host here).complain (renderWarnings [])).run world = ((), world) := by
    simp [World.host, StateT.run, renderWarnings]
  rw [invokeAt, invoke]
  dsimp only [Log.Filter.ofWish]
  rw [run_bind_of_run complained, accepted]
  dsimp only
  rw [run_bind_of_run ran]

theorem invokeAt_of_failed (accepted : Options.ofArguments arguments = .ok options)
    {problem : RunError} (ran : runAt here .standard options world = (.error problem, after)) :
    (invokeAt here arguments none world).1 = 1 ∧
      (invokeAt here arguments none world).2.stderr =
        after.stderr ++ errorLine problem.message := by
  rw [invokeAt_of_accepted accepted ran]
  exact ⟨rfl, rfl⟩

theorem invokeAt_of_succeeded (accepted : Options.ofArguments arguments = .ok options)
    (ran : runAt here .standard options world = (.ok (), after)) :
    (invokeAt here arguments none world).1 = 0 ∧
      (invokeAt here arguments none world).2.stderr = after.stderr := by
  rw [invokeAt_of_accepted accepted ran]
  exact ⟨rfl, rfl⟩

end Calling

end Tool

end AsmSymbols
