import Trials.Files.Disk

/-!
# Changes of files

What has to be done to turn one tree of files into another (`FileTree.changes`), and which places a
file name passes through (`Disk.passes`), so that a tree can be put together from just the places
that matter.
-/

namespace Trials

/-- A step that changes files; positions are lists of names, starting at the root. -/
inductive Change where
  | makeDirectory (position : List String)
  | write (position : List String) (text : String)
  | remove (position : List String)
deriving DecidableEq

namespace FileTree

/-- What a directory holds; nothing if there is no directory. -/
def entries : Option FileTree → List (String × FileTree)
  | some (.dir entries) => entries
  | _ => []

/-- The files of a directory that are missing in another one. -/
def removals (position : List String) (before after : List (String × FileTree)) : List Change :=
  (before.filter fun e => !after.any fun f => f.1 == e.1).map fun e => .remove (position ++ [e.1])

mutual
/-- The changes that turn what stood at a position, if anything did, into a tree. -/
def changes (position : List String) (before : Option FileTree) : FileTree → List Change
  | .file text =>
    match before with
    | some (.file old) => if old = text then [] else [.write position text]
    | _ => [.write position text]
  | .dir after =>
    (if before.any isDir then [] else [.makeDirectory position])
      ++ changesIn position (entries before) after
      ++ removals position (entries before) after

/-- The changes that turn the entries of a directory into others. -/
def changesIn (position : List String) (before : List (String × FileTree)) :
    List (String × FileTree) → List Change
  | [] => []
  | (name, t) :: rest =>
    changes (position ++ [name]) ((before.find? fun e => e.1 == name).map (·.2)) t
      ++ changesIn position before rest
end

end FileTree

namespace Disk

/-- The positions that a name passes through, shortest first, when the current directory is
`here`. -/
def passes (here : List String) (name : String) : List (List String) :=
  let parts := ((FileName.parts name.toList).filter fun p => !p.isEmpty).map String.ofList
  let start := if name.toList.head? = some '/' then [] else here
  (parts.foldl (fun (walk : List String × List (List String)) part =>
    if part = "." then walk
    else if part = ".." then (walk.1.dropLast, walk.2)
    else (walk.1 ++ [part], walk.2 ++ [walk.1 ++ [part]])) (start, [])).2

/-- The disk with something put at a position, unless something is known to be there already. -/
def learn (d : Disk) (position : List String) (t : FileTree) : Disk :=
  if (d.root.at? position).isSome then d else { d with root := d.root.put position t }

end Disk

end Trials
