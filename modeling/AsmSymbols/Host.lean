import AsmSymbols.FileTree

/-!
# Surroundings

What the tool can do to the world around it: read and write files, put text on standard output and
standard error, and ask for the time.  `Host` lists these steps for any monad, so that one and the
same program runs on a machine and on a `World`, which is a value.
-/

set_option autoImplicit false

namespace AsmSymbols

structure Host (m : Type → Type) where
  read : Text → m (Except FileError Bytes)
  /-- Make or replace a file. -/
  write : Text → Bytes → m (Except FileError Unit)
  /-- Put a text on standard output. -/
  print : Text → m Unit
  /-- Put a text on standard error. -/
  complain : Text → m Unit
  /-- The time as log lines show it, or nothing if they show none. -/
  time : m (Option Text)

/-- A file tree, what has been put out so far, and the times that the clock is going to tell. -/
structure World where
  tree : FileTree := {}
  stdout : Text := []
  stderr : Text := []
  times : Nat → Option Text := fun _ => none

/-- A world as a host, seen from the working directory `here`. -/
def World.host (here : Path) : Host (StateM World) where
  read name := fun world => (world.tree.read here name, world)
  write name content := fun world =>
    match world.tree.write here name content with
    | .error cause => (.error cause, world)
    | .ok tree => (.ok (), { world with tree })
  print text := fun world => ((), { world with stdout := world.stdout ++ text })
  complain text := fun world => ((), { world with stderr := world.stderr ++ text })
  time := fun world => (world.times 0, { world with times := fun n => world.times (n + 1) })

end AsmSymbols
