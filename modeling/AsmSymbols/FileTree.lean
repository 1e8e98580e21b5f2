import AsmSymbols.Table
import AsmSymbols.Text

/-!
# File trees

The files and directories of a machine, as a value.  A name is looked up the way the operating
system does it: from the root if it begins with a slash, otherwise from the working directory, and
then part by part, each part inside a directory, where `.` stays and `..` goes up.  So one file has
many names, and a name through a file or ending in `/` names no file.  A name and each of its parts
have a greatest length, counted in bytes.

A tree holds plain files and directories, all of which may be read and written; links, devices and
rights are not part of it.  Writing fails only where the file cannot be opened.
-/

set_option autoImplicit false

namespace AsmSymbols

abbrev Bytes := List UInt8

inductive Node where
  | file (content : Bytes)
  | directory
  deriving DecidableEq

/-- The parts that lead to a file or directory, from the root down. -/
abbrev Path := List Text

abbrev FileTree := Table Path Node

inductive FileError where
  | notFound
  | isDirectory
  | notDirectory
  | notText
  | nameTooLong
  | zeroInName
  /-- Any other failure that the operating system reports. -/
  | system (description : Text) (code : Nat)
  deriving DecidableEq, Repr

namespace FileError

def systemText (description : Text) (code : Nat) : Text :=
  description ++ " (os error " ++ Text.decimal code ++ ")"

def message : FileError → Text
  | .notFound => systemText "No such file or directory" 2
  | .isDirectory => systemText "Is a directory" 21
  | .notDirectory => systemText "Not a directory" 20
  | .notText => "stream did not contain valid UTF-8"
  | .nameTooLong => systemText "File name too long" 36
  | .zeroInName => "file name contained an unexpected NUL byte"
  | .system description code => systemText description code

end FileError

/-- The text of which some bytes are the UTF-8 form. -/
def decodeText? (content : Bytes) : Option Text :=
  (String.fromUTF8? ⟨content.toArray⟩).map String.toList

def encodeText (text : Text) : Bytes := (String.ofList text).toUTF8.data.toList

/-- The text of a file, from what reading it gave. -/
def textOf : Except FileError Bytes → Except FileError Text
  | .error problem => .error problem
  | .ok content =>
    match decodeText? content with
    | none => .error .notText
    | some text => .ok text

/-- The parts of a file name.  Slashes in a row count as one. -/
def nameParts (name : Text) : Path := (Text.fields '/' name).filter fun part => !part.isEmpty

/-- Only a directory can be named with a slash at the end. -/
def namesDirectory (name : Text) : Bool := name.getLast? == some '/'

/-- Why a name is refused before anything is looked up. -/
def nameFault? (name : Text) : Option FileError :=
  if name.contains '\x00' then some .zeroInName
  else if 4095 < Text.byteLength name then some .nameTooLong
  else if name.isEmpty then some .notFound
  else none

/-- No file or directory has a longer name of its own. -/
def partTooLong (part : Text) : Bool := 255 < Text.byteLength part

/-- Where the look-up of a name begins: at the root if the name begins with a slash, otherwise in
the working directory. -/
def Path.origin (here : Path) (name : Text) : Path :=
  if name.head? == some '/' then [] else here

namespace FileTree

def node? (tree : FileTree) : Path → Option Node
  | [] => some .directory
  | path => tree.find? path

/-- The path that one part names inside a directory.  The root is its own parent. -/
def enter (tree : FileTree) (path : Path) (part : Text) : Except FileError Path :=
  if part == ("." : Text) then .ok path
  else if part == (".." : Text) then .ok path.dropLast
  else if partTooLong part then .error .nameTooLong
  else
    match tree.node? (path ++ [part]) with
    | none => .error .notFound
    | some _ => .ok (path ++ [part])

/-- Follow the parts of a name.  Every part but the last must lead to a directory. -/
def walk (tree : FileTree) (path : Path) : List Text → Except FileError Path
  | [] => .ok path
  | part :: rest =>
    match tree.node? path with
    | none => .error .notFound
    | some (.file _) => .error .notDirectory
    | some .directory =>
      match tree.enter path part with
      | .error problem => .error problem
      | .ok next => tree.walk next rest

/-- The content of the file that a name leads to, in the working directory `here`. -/
def read (tree : FileTree) (here : Path) (name : Text) : Except FileError Bytes :=
  match nameFault? name with
  | some problem => .error problem
  | none =>
    match tree.walk (.origin here name) (nameParts name) with
    | .error problem => .error problem
    | .ok path =>
      match tree.node? path with
      | none => .error .notFound
      | some .directory => .error .isDirectory
      | some (.file content) => if namesDirectory name then .error .notDirectory else .ok content

def readText (tree : FileTree) (here : Path) (name : Text) : Except FileError Text :=
  textOf (tree.read here name)

/-- The file that writing to a name makes or replaces.  Its directory must exist. -/
def target (tree : FileTree) (here : Path) (name : Text) : Except FileError Path :=
  match nameFault? name, (nameParts name).getLast? with
  | some problem, _ => .error problem
  | none, none => .error .isDirectory
  | none, some last =>
    match tree.walk (.origin here name) (nameParts name).dropLast with
    | .error problem => .error problem
    | .ok path =>
      match tree.node? path with
      | none => .error .notFound
      | some (.file _) => .error .notDirectory
      | some .directory =>
        if last == ("." : Text) || last == (".." : Text) || namesDirectory name then
          .error .isDirectory
        else if partTooLong last then .error .nameTooLong
        else
          match tree.node? (path ++ [last]) with
          | some .directory => .error .isDirectory
          | _ => .ok (path ++ [last])

def write (tree : FileTree) (here : Path) (name : Text) (content : Bytes) :
    Except FileError FileTree :=
  match tree.target here name with
  | .error problem => .error problem
  | .ok path => .ok (tree.insert path (.file content))

/-- Put a node below `here` and make the directories on its way. -/
def plantBelow (tree : FileTree) (here : Path) (node : Node) : List Text → FileTree
  | [] => tree
  | part :: rest =>
    if part == ("." : Text) then plantBelow tree here node rest
    else if part == (".." : Text) then plantBelow tree here.dropLast node rest
    else if rest.isEmpty then tree.insert (here ++ [part]) node
    else plantBelow (tree.insertIfNew (here ++ [part]) .directory) (here ++ [part]) node rest

def plant (tree : FileTree) (here : Path) (name : Text) (node : Node) : FileTree :=
  tree.plantBelow (.origin here name) node (nameParts name)

/-- The files below `here` that an earlier tree does not hold with the same content, with their
paths from there. -/
def changedSince (tree earlier : FileTree) (here : Path) : List (Path × Bytes) :=
  tree.entries.filterMap fun (path, node) =>
    match node with
    | .directory => none
    | .file content =>
      if earlier.find? path = some (.file content) then none
      else if here.isPrefixOf path then some (path.drop here.length, content)
      else none

end FileTree

end AsmSymbols
