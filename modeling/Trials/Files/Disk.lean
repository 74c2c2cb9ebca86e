import Trials.Files.Name

/-!
# Files and directories

A `Disk` is a tree of directories with a current directory.  Its operations are those of a POSIX
system as far as results and errors go: a name is looked up part by part, a slash at the end asks
for a directory, and each failing operation says why (`FileError`).
-/

namespace Trials

/-- Why an operation on files fails. -/
inductive FileError where
  | notFound
  | busy
  /-- There already is something of this name. -/
  | alreadyExists
  /-- A part of the name is no directory. -/
  | notDirectory
  /-- The name is that of a directory. -/
  | isDirectory
  /-- A part of the name is too long. -/
  | nameTooLong
deriving DecidableEq

/-- The text of the error. -/
def FileError.message : FileError → String
  | notFound => "No such file or directory (os error 2)"
  | busy => "Device or resource busy (os error 16)"
  | alreadyExists => "File exists (os error 17)"
  | notDirectory => "Not a directory (os error 20)"
  | isDirectory => "Is a directory (os error 21)"
  | nameTooLong => "File name too long (os error 36)"

/-- A file or a directory. -/
inductive FileTree where
  | file (text : String)
  | dir (entries : List (String × FileTree))
deriving Inhabited

namespace FileTree

/-- What a directory holds under a name. -/
def child? (name : String) : FileTree → Option FileTree
  | .file _ => none
  | .dir entries => (entries.find? fun e => e.1 == name).map (·.2)

/-- What stands at a position, given by the names on the way to it. -/
def at? (t : FileTree) : List String → Option FileTree
  | [] => some t
  | name :: rest => (t.child? name).bind fun t => t.at? rest

/-- The entries of a directory with one of them set. -/
def setEntry (name : String) (t : FileTree) : List (String × FileTree) → List (String × FileTree)
  | [] => [(name, t)]
  | e :: rest => if e.1 = name then (name, t) :: rest else e :: setEntry name t rest

/-- The tree with something put at a position whose directory exists. -/
def put : FileTree → List String → FileTree → FileTree
  | _, [], new => new
  | .file text, _ :: _, _ => .file text
  | .dir entries, name :: rest, new =>
    match rest with
    | [] => .dir (setEntry name new entries)
    | _ =>
      match (FileTree.dir entries).child? name with
      | some t => .dir (setEntry name (put t rest new) entries)
      | none => .dir entries

/-- The tree without what stands at a position. -/
def remove : FileTree → List String → FileTree
  | t, [] => t
  | .file text, _ :: _ => .file text
  | .dir entries, name :: rest =>
    match rest with
    | [] => .dir (entries.filter fun e => e.1 != name)
    | _ =>
      match (FileTree.dir entries).child? name with
      | some t => .dir (setEntry name (remove t rest) entries)
      | none => .dir entries

/-- Whether it is a directory. -/
def isDir : FileTree → Bool
  | .file _ => false
  | .dir _ => true

end FileTree

/-- A tree of files and the position of the current directory. -/
structure Disk where
  root : FileTree
  /-- The current directory. -/
  here : List String := []
deriving Inhabited

namespace Disk

/-! ## Looking up names -/

/-- What a name stands for. -/
inductive Target where
  /-- An entry of a directory, present or not; `slash` tells whether a slash follows its name. -/
  | entry (directory : List String) (name : String) (slash : Bool)
  /-- A directory that the name reaches without naming it. -/
  | directory (position : List String)

/-- The directory that a part of a name leads to. -/
def enter (d : Disk) (position : List String) (part : String) : Except FileError (List String) :=
  if part = "." then .ok position
  else if part = ".." then .ok position.dropLast
  else if 255 < part.utf8ByteSize then .error .nameTooLong
  else
    match d.root.at? (position ++ [part]) with
    | some (.dir _) => .ok (position ++ [part])
    | some (.file _) => .error .notDirectory
    | none => .error .notFound

/-- What a name stands for. -/
def locate (d : Disk) (name : String) : Except FileError Target := do
  let raw := FileName.parts name.toList
  let parts := (raw.filter fun part => !part.isEmpty).map String.ofList
  let start := if name.toList.head? = some '/' then [] else d.here
  match parts.getLast? with
  | none => if name.isEmpty then .error .notFound else return .directory start
  | some last =>
    let position ← parts.dropLast.foldlM d.enter start
    if last = "." then return .directory position
    else if last = ".." then return .directory position.dropLast
    else if 255 < last.utf8ByteSize then .error .nameTooLong
    else return .entry position last (raw.getLast? = some [])

/-- What is found under a name. -/
def find (d : Disk) (name : String) : Except FileError FileTree := do
  match ← d.locate name with
  | .directory position =>
    match d.root.at? position with
    | some t => return t
    | none => .error .notFound
  | .entry position own slash =>
    match d.root.at? (position ++ [own]) with
    | none => .error .notFound
    | some (.file text) => if slash then .error .notDirectory else return .file text
    | some t => return t

/-- Whether there is something of this name. -/
def contains (d : Disk) (name : String) : Bool := (d.find name).toOption.isSome

/-- Whether there is a directory of this name. -/
def isDirectory (d : Disk) (name : String) : Bool := (d.find name).toOption.any FileTree.isDir

/-! ## Operations -/

/-- The text of a file. -/
def read (d : Disk) (name : String) : Except FileError String := do
  match ← d.find name with
  | .file text => return text
  | .dir _ => .error .isDirectory

/-- The disk with a file written, which replaces a file of the same name. -/
def write (d : Disk) (name text : String) : Except FileError Disk := do
  match ← d.locate name with
  | .directory _ => .error .isDirectory
  | .entry position own slash =>
    if slash then .error .isDirectory
    else
      match d.root.at? (position ++ [own]) with
      | some (.dir _) => .error .isDirectory
      | _ => return { d with root := d.root.put (position ++ [own]) (.file text) }

/-- The disk with a new directory. -/
def makeDirectory (d : Disk) (name : String) : Except FileError Disk := do
  match ← d.locate name with
  | .directory _ => .error .alreadyExists
  | .entry position own _ =>
    match d.root.at? (position ++ [own]) with
    | some _ => .error .alreadyExists
    | none => return { d with root := d.root.put (position ++ [own]) (.dir []) }

/-- The disk with a directory that may be there already. -/
def ensureDirectory (d : Disk) (name : String) : Except FileError Disk :=
  match d.makeDirectory name with
  | .ok d => .ok d
  | .error e => if d.isDirectory name then .ok d else .error e

/-- The disk after the first of some directories has been made, the others being those around it;
the disk is also given if that fails. -/
def makeEnclosing (d : Disk) : List String → Except FileError Unit × Disk
  | [] => (.ok (), d)
  | name :: around =>
    match d.ensureDirectory name with
    | .ok d => (.ok (), d)
    | .error .notFound =>
      match makeEnclosing d around with
      | (.error e, d) => (.error e, d)
      | (.ok (), d) =>
        match d.ensureDirectory name with
        | .ok d => (.ok (), d)
        | .error e => (.error e, d)
    | .error e => (.error e, d)

/-- The disk after a directory and all directories around it have been made; the disk is also given
if that fails, with the directories made until then. -/
def makeDirectories (d : Disk) (name : String) : Except FileError Unit × Disk :=
  d.makeEnclosing (FileName.enclosing (name.length + 1) name)

/-- The disk with a file moved to another name, where it replaces a file. -/
def rename (d : Disk) (old new : String) : Except FileError Disk := do
  match ← d.locate old, ← d.locate new with
  | .entry oldPosition oldName _, .entry position own slash =>
    match d.root.at? (oldPosition ++ [oldName]) with
    | none => .error .notFound
    | some t =>
      if slash then .error .notDirectory
      else if (d.root.at? (position ++ [own])).any FileTree.isDir then .error .isDirectory
      else
        return { d with root :=
          (d.root.remove (oldPosition ++ [oldName])).put (position ++ [own]) t }
  | _, _ => .error .busy

end Disk

end Trials
