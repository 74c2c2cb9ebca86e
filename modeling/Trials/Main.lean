import Std.Time.DateTime.Timestamp
import Trials.Command.Single
import Trials.Command.Pool
import Trials.Files.Change

/-!
# The program

The program has two sets of commands, chosen by the first argument: `engine` for those about one
participant and `sim` for those about a pool.  It looks at the files that its arguments may name,
runs the command on them, and does to the files what the command has done.
-/

namespace Trials.Program

/-- The file name of a position. -/
def nameOf (position : List String) : String := "/" ++ "/".intercalate position

/-- The text that an open file holds; what opens and cannot be read is a directory. -/
def contentOf (handle : IO.FS.Handle) : IO FileTree :=
  tryCatch (do return .file (← handle.readToEnd)) fun _ => return .dir []

/-- What stands at a position. -/
def look (position : List String) : IO (Option FileTree) :=
  tryCatch (do
    let handle ← IO.FS.Handle.mk (nameOf position) .read
    return some (← contentOf handle))
    fun _ => return none

/-- The names of files that an argument may stand for or lead to. -/
def namesIn (arg : String) : List String :=
  let value := String.ofList ((arg.toList.dropWhile (· ≠ '=')).drop 1)
  [arg, value].flatMap fun name =>
    [name, FileName.withExtension name "json.tmp", FileName.withExtension name "toml.tmp"]

/-- The disk with everything that some names pass through. -/
def survey (names : List String) : IO Disk := do
  let here := Disk.passes [] (← IO.currentDir).toString
  let start : Disk :=
    { root := .dir [], here := here.getLastD [] }
  (here ++ names.flatMap (Disk.passes start.here)).foldlM (fun disk position => do
    match ← look position with
    | some t => return disk.learn position t
    | none => return disk) start

/-- Does a change. -/
def perform : Change → IO Unit
  | .makeDirectory position => IO.FS.createDirAll (nameOf position)
  | .write position text => IO.FS.writeFile (nameOf position) text
  | .remove position => IO.FS.removeFile (nameOf position)

/-- The present moment. -/
def now : IO Instant := do
  return ⟨(← Std.Time.Timestamp.now).toMillisecondsSinceUnixEpoch.toInt⟩

/-- A seed that cannot be foreseen. -/
def freshSeed : IO UInt64 := do
  let bytes ← IO.getRandomBytes 8
  return bytes.foldl (fun n b => n * 256 + b.toUInt64) 0

/-- What the arguments leave behind. -/
def outputOf (args : List String) (disk : Disk) : IO Output := do
  match args with
  | "sim" :: args =>
    let started ← now
    return Pool.run args started (← now) disk
  | "engine" :: args => return Single.run args ⟨← freshSeed, ← freshSeed⟩ disk
  | _ => return .usage "engine ... | sim ..." disk

end Trials.Program

open Trials Program in
/-- Runs the command that the arguments ask for. -/
def main (args : List String) : IO UInt32 := do
  let disk ← survey ("engine.toml" :: args.flatMap namesIn)
  let output ← outputOf args disk
  (FileTree.changes [] (some disk.root) output.disk.root).forM perform
  IO.print output.out
  IO.eprint output.err
  return output.code
