import Trials.Number.Binary64

/-!
# TOML values

A `Toml` value is what a TOML text says.  While a text is read, tables may still grow: a `Toml.Item`
is a part of a document in the making, which knows how each table has come about
(`Toml.TableKind`).  From this it follows which tables a header or a dotted key may extend
(`Toml.extend`, `Toml.openTable`, `Toml.openEntry`).
-/

namespace Trials

/-- A TOML value. -/
inductive Toml where
  | text (s : String)
  | integer (n : Int)
  /-- A float; none if it is written in decimals and larger than every double. -/
  | float (x : Option Binary64)
  | boolean (b : Bool)
  /-- A date, a time or both, as written. -/
  | moment (s : String)
  | array (items : List Toml)
  | table (entries : List (String × Toml))
deriving Inhabited

namespace Toml

/-- How a table has come about. -/
inductive TableKind where
  /-- Through its own header, or as the root of a document or an inline table. -/
  | explicit
  /-- Through the header of a table inside it. -/
  | implied
  /-- Through a dotted key. -/
  | dotted
deriving DecidableEq

/-- A part of a document in the making. -/
inductive Item where
  | value (v : Toml)
  | table (kind : TableKind) (entries : List (String × Item))
  /-- An array of tables made by headers, the last one first. -/
  | tables (entries : List (List (String × Item)))
deriving Inhabited

/-- The entries of a table in the making. -/
abbrev Entries := List (String × Item)

/-- The item of a key. -/
def find? (key : String) (entries : Entries) : Option Item :=
  (entries.find? fun e => e.1 == key).map (·.2)

/-- The entries with the item of a key set. -/
def setItem (key : String) (item : Item) : Entries → Entries
  | [] => [(key, item)]
  | e :: rest => if e.1 = key then (key, item) :: rest else e :: setItem key item rest

/-- A table with the table at the end of a path changed.  Missing tables are made, dotted ones if
the path is that of a dotted key; a dotted key must not reach into a table with a header of its own.
Of an array of tables the last one is meant. -/
def extend (dotted : Bool) (change : TableKind → Entries → Option Entries) :
    List String → TableKind → Entries → Option Entries
  | [], kind, entries => change kind entries
  | key :: path, _, entries =>
    match find? key entries with
    | none => do
      let kind := if dotted then TableKind.dotted else .implied
      return setItem key (.table kind (← extend dotted change path kind [])) entries
    | some (.value _) => none
    | some (.table kind inner) =>
      if dotted && kind == .explicit then none
      else do return setItem key (.table kind (← extend dotted change path kind inner)) entries
    | some (.tables []) => none
    | some (.tables (last :: earlier)) => do
      return setItem key (.tables ((← extend dotted change path .explicit last) :: earlier)) entries

/-- A table with a value added under a dotted key. -/
def addValue (path : List String) (key : String) (v : Toml) (entries : Entries) : Option Entries :=
  extend true (fun kind inner =>
    if !path.isEmpty && kind != .dotted then none
    else if (find? key inner).isSome then none
    else some (inner ++ [(key, .value v)])) path .explicit entries

/-- A document with a table opened by its header. -/
def openTable (path : List String) (key : String) (entries : Entries) : Option Entries :=
  extend false (fun _ inner =>
    match find? key inner with
    | none => some (inner ++ [(key, .table .explicit [])])
    | some (.table .implied own) => some (setItem key (.table .explicit own) inner)
    | some _ => none) path .explicit entries

/-- A document with one more table opened by the header of an array of tables. -/
def openEntry (path : List String) (key : String) (entries : Entries) : Option Entries :=
  extend false (fun _ inner =>
    match find? key inner with
    | none => some (inner ++ [(key, .tables [[]])])
    | some (.tables earlier) => some (setItem key (.tables ([] :: earlier)) inner)
    | some _ => none) path .explicit entries

/-- A document with a value added to the table that the last header has opened. -/
def addValueAt (header path : List String) (key : String) (v : Toml) (entries : Entries) :
    Option Entries :=
  extend false (fun _ inner => addValue path key v inner) header .explicit entries

mutual
/-- The finished value of an item. -/
def finish : Item → Toml
  | .value v => v
  | .table _ entries => .table (finishEntries entries)
  | .tables entries => .array (finishTables entries).reverse

/-- The finished values of entries. -/
def finishEntries : List (String × Item) → List (String × Toml)
  | [] => []
  | (key, item) :: rest => (key, finish item) :: finishEntries rest

/-- The finished tables of an array. -/
def finishTables : List (List (String × Item)) → List Toml
  | [] => []
  | entries :: rest => .table (finishEntries entries) :: finishTables rest
end

end Toml

end Trials
