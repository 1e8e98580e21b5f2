import AsmSymbols.FileTree

/-!
# Reading and writing files

A name leads to a file by a walk over its parts (`FileTree.Resolves`), and different names can lead
to one file.  Writing puts a file at the end of such a walk and changes nothing else.  A walk that
succeeds goes through directories only, and writing never replaces a directory, so every walk goes
the same way afterwards (`FileTree.ChangedAt.walk`): a file that was read is read again with the
same content, unless it is the file that was written.
-/

set_option autoImplicit false

namespace AsmSymbols

section Utf8

/-- Bytes are decoded exactly if they are the UTF-8 form of a text, and then to this text. -/
theorem decodeText?_eq_some_iff {content : Bytes} {text : Text} :
    decodeText? content = some text ↔ content = encodeText text := by
  unfold decodeText? encodeText
  rw [Option.map_eq_some_iff]
  constructor
  · rintro ⟨decoded, found, rfl⟩
    unfold String.fromUTF8? at found
    split at found
    next valid =>
      cases found
      rw [String.ofList_toList]
      rfl
    next => cases found
  · rintro rfl
    refine ⟨String.ofList text, ?_, String.toList_ofList⟩
    have valid := (String.ofList text).isValidUTF8
    unfold String.fromUTF8?
    exact dif_pos valid

end Utf8

/-- The text of a file is found exactly if its bytes are the UTF-8 form of one. -/
theorem textOf_eq_ok_iff {found : Except FileError Bytes} {text : Text} :
    textOf found = .ok text ↔ found = .ok (encodeText text) := by
  unfold textOf
  constructor
  · intro held
    split at held
    · cases held
    · split at held
      · cases held
      next decoded =>
        cases held
        rw [decodeText?_eq_some_iff.mp decoded]
  · rintro rfl
    have decoded : decodeText? (encodeText text) = some text := decodeText?_eq_some_iff.mpr rfl
    simp only [decoded]

namespace FileTree

/-- In the working directory `here`, a name leads to this path. -/
def Resolves (tree : FileTree) (here : Path) (name : Text) (path : Path) : Prop :=
  tree.walk (.origin here name) (nameParts name) = .ok path

section Reading

variable {tree : FileTree} {here : Path} {name : Text} {content : Bytes}

theorem read_eq_ok_iff :
    tree.read here name = .ok content ↔
      nameFault? name = none ∧ namesDirectory name = false ∧
        ∃ path, tree.Resolves here name path ∧ tree.node? path = some (.file content) := by
  unfold read Resolves
  constructor
  · intro found
    split at found
    · cases found
    next noFault =>
      split at found
      · cases found
      next path walked =>
        split at found
        · cases found
        · cases found
        next held isFile =>
          split at found
          · cases found
          next noSlash =>
            cases found
            exact ⟨noFault, Bool.eq_false_iff.mpr noSlash, path, walked, isFile⟩
  · rintro ⟨noFault, noSlash, path, walked, isFile⟩
    simp [noFault, walked, isFile, noSlash]

theorem readText_eq_ok_iff {text : Text} :
    tree.readText here name = .ok text ↔ tree.read here name = .ok (encodeText text) :=
  textOf_eq_ok_iff

end Reading

section Walking

variable {tree : FileTree}

theorem walk_append (path : Path) (front back : List Text) :
    tree.walk path (front ++ back) = (tree.walk path front).bind (tree.walk · back) := by
  induction front generalizing path with
  | nil => rfl
  | cons part front inductionHypothesis =>
    rw [List.cons_append, walk, walk]
    split
    · rfl
    · rfl
    · split
      · rfl
      · exact inductionHypothesis _

theorem walk_singleton {path : Path} (isDirectory : tree.node? path = some .directory)
    (part : Text) : tree.walk path [part] = tree.enter path part := by
  rw [walk]
  simp only [isDirectory]
  cases tree.enter path part with
  | error problem => rfl
  | ok next => rfl

end Walking

/-- Writing to `name` makes or replaces the file `last` of a directory. -/
structure WritesTo (tree : FileTree) (here : Path) (name : Text) (directory : Path)
    (last : Text) : Prop where
  noFault : nameFault? name = none
  noSlash : namesDirectory name = false
  walked : ∃ parts, nameParts name = parts ++ [last] ∧
    tree.walk (.origin here name) parts = .ok directory
  isDirectory : tree.node? directory = some .directory
  notDot : last ≠ ".".toList
  notDots : last ≠ "..".toList
  notTooLong : partTooLong last = false
  notDirectory : tree.node? (directory ++ [last]) ≠ some .directory

section Target

variable {tree : FileTree} {here : Path} {name last : Text} {path directory : Path}

theorem writesTo_of_target (found : tree.target here name = .ok path) :
    ∃ directory last, path = directory ++ [last] ∧ tree.WritesTo here name directory last := by
  unfold target at found
  split at found
  · cases found
  · cases found
  next last noFault isLast =>
    split at found
    · cases found
    next directory walked =>
      split at found
      · cases found
      · cases found
      next isDirectory =>
        split at found
        · cases found
        next plain =>
          split at found
          · cases found
          next notTooLong =>
            split at found
            · cases found
            next notDirectory =>
              cases found
              simp only [Bool.or_eq_true, beq_iff_eq, not_or] at plain
              obtain ⟨parts, splitName⟩ := List.getLast?_eq_some_iff.mp isLast
              rw [splitName, List.dropLast_concat] at walked
              exact ⟨directory, last, rfl, noFault, Bool.eq_false_iff.mpr plain.2,
                ⟨parts, splitName, walked⟩, isDirectory, plain.1.1, plain.1.2,
                Bool.eq_false_iff.mpr notTooLong, notDirectory⟩

/-- A name that is written to leads to its file, once there is one. -/
theorem WritesTo.walk_eq (writes : tree.WritesTo here name directory last) :
    tree.walk (.origin here name) (nameParts name) =
      (tree.node? (directory ++ [last])).elim (.error .notFound)
        fun _ => .ok (directory ++ [last]) := by
  obtain ⟨parts, split, walked⟩ := writes.walked
  have notDot : ¬ (last == ".".toList) = true := by simpa using writes.notDot
  have notDots : ¬ (last == "..".toList) = true := by simpa using writes.notDots
  have notTooLong : ¬ partTooLong last = true := by simp [writes.notTooLong]
  rw [split, walk_append, walked]
  change tree.walk directory [last] = _
  rw [walk_singleton writes.isDirectory, enter, if_neg notDot, if_neg notDots, if_neg notTooLong]
  cases tree.node? (directory ++ [last]) with
  | none => rfl
  | some node => rfl

theorem WritesTo.resolves (writes : tree.WritesTo here name directory last) {node : Node}
    (held : tree.node? (directory ++ [last]) = some node) :
    tree.Resolves here name (directory ++ [last]) := by
  rw [Resolves, writes.walk_eq, held]
  rfl

end Target

/-- `after` has this file, which replaces no directory, and is like `before` everywhere else. -/
structure ChangedAt (before after : FileTree) (path : Path) (content : Bytes) : Prop where
  below : path ≠ []
  notDirectory : before.node? path ≠ some .directory
  here : after.find? path = some (.file content)
  elsewhere : ∀ other, other ≠ path → after.find? other = before.find? other

section Change

variable {before after : FileTree} {here path : Path} {content : Bytes} {name last : Text}

theorem ChangedAt.node?_here (changed : ChangedAt before after path content) :
    after.node? path = some (.file content) := by
  obtain ⟨part, rest, rfl⟩ := List.exists_cons_of_ne_nil changed.below
  exact changed.here

theorem ChangedAt.node?_elsewhere (changed : ChangedAt before after path content) {other : Path}
    (differs : other ≠ path) : after.node? other = before.node? other := by
  cases other with
  | nil => rfl
  | cons part rest => exact changed.elsewhere _ differs

theorem ChangedAt.enter (changed : ChangedAt before after path content) {directory next : Path}
    {part : Text} (entered : before.enter directory part = .ok next) :
    after.enter directory part = .ok next := by
  unfold FileTree.enter at entered ⊢
  split at entered
  next isDot => rw [if_pos isDot, entered]
  next notDot =>
    rw [if_neg notDot]
    split at entered
    next isDots => rw [if_pos isDots, entered]
    next notDots =>
      rw [if_neg notDots]
      split at entered
      · cases entered
      next notTooLong =>
        rw [if_neg notTooLong]
        split at entered
        · cases entered
        next held =>
          by_cases isHere : directory ++ [part] = path
          · simp only [isHere, changed.node?_here]
            rw [← isHere]
            exact entered
          · simp only [changed.node?_elsewhere isHere, held]
            exact entered

/-- Every walk that succeeded goes the same way after the change. -/
theorem ChangedAt.walk (changed : ChangedAt before after path content) {start reached : Path}
    {parts : List Text} (walked : before.walk start parts = .ok reached) :
    after.walk start parts = .ok reached := by
  induction parts generalizing start with
  | nil => exact walked
  | cons part parts inductionHypothesis =>
    rw [FileTree.walk] at walked ⊢
    split at walked
    · cases walked
    · cases walked
    next isDirectory =>
      have elsewhere : start ≠ path := by
        rintro rfl
        exact changed.notDirectory isDirectory
      split at walked
      · cases walked
      next next entered =>
        simp only [changed.node?_elsewhere elsewhere, isDirectory, changed.enter entered]
        exact inductionHypothesis walked

theorem ChangedAt.writesTo {directory : Path}
    (changed : ChangedAt before after (directory ++ [last]) content)
    (writes : before.WritesTo here name directory last) :
    after.WritesTo here name directory last where
  noFault := writes.noFault
  noSlash := writes.noSlash
  walked := by
    obtain ⟨parts, split, walked⟩ := writes.walked
    exact ⟨parts, split, changed.walk walked⟩
  isDirectory := by
    have differs : directory ≠ directory ++ [last] := by simp
    rw [changed.node?_elsewhere differs, writes.isDirectory]
  notDot := writes.notDot
  notDots := writes.notDots
  notTooLong := writes.notTooLong
  notDirectory := by
    rw [changed.node?_here]
    simp

/-- A name that led to a file leads there still; only the changed file has another content. -/
theorem ChangedAt.read (changed : ChangedAt before after path content) {held : Bytes}
    (found : before.read here name = .ok held) :
    (before.Resolves here name path → after.read here name = .ok content) ∧
      (¬ before.Resolves here name path → after.read here name = .ok held) := by
  obtain ⟨noFault, noSlash, other, resolved, isFile⟩ := read_eq_ok_iff.mp found
  constructor
  · intro resolvedHere
    exact read_eq_ok_iff.mpr ⟨noFault, noSlash, path, changed.walk resolvedHere, changed.node?_here⟩
  · intro notHere
    have differs : other ≠ path := by
      rintro rfl
      exact notHere resolved
    refine read_eq_ok_iff.mpr ⟨noFault, noSlash, other, changed.walk resolved, ?_⟩
    rw [changed.node?_elsewhere differs, isFile]

theorem write_eq_error_iff {cause : FileError} :
    before.write here name content = .error cause ↔ before.target here name = .error cause := by
  unfold write
  cases before.target here name with
  | error problem => simp
  | ok path => simp

theorem changedAt_of_write (written : before.write here name content = .ok after) :
    ∃ directory last, before.target here name = .ok (directory ++ [last]) ∧
      before.WritesTo here name directory last ∧
      ChangedAt before after (directory ++ [last]) content := by
  unfold write at written
  split at written
  · cases written
  next path found =>
    cases written
    obtain ⟨directory, last, rfl, writes⟩ := writesTo_of_target found
    refine ⟨directory, last, found, writes, by simp, writes.notDirectory, ?_, ?_⟩
    · simp [Table.insert]
    · intro other differs
      simp [Table.insert, differs]

/-- What was written to a name is read from it. -/
theorem read_of_write (written : before.write here name content = .ok after) :
    after.read here name = .ok content := by
  obtain ⟨directory, last, _, writes, changed⟩ := changedAt_of_write written
  have resolved := (changed.writesTo writes).resolves changed.node?_here
  exact read_eq_ok_iff.mpr
    ⟨writes.noFault, writes.noSlash, directory ++ [last], resolved, changed.node?_here⟩

end Change

end FileTree

end AsmSymbols
