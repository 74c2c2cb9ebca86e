/-!
# Tables

A `Table` is a list of keys with values in ascending order of the keys, each key once.
`Table.alter` changes the value of one key.
-/

namespace Trials

/-- Keys with values, in ascending order of the keys. -/
abbrev Table (κ ν : Type) := List (κ × ν)

namespace Table

variable {κ ν : Type} [Ord κ]

/-- The table with the value of one key changed; a missing key has the value `default`. -/
def alter (key : κ) (default : ν) (f : ν → ν) : Table κ ν → Table κ ν
  | [] => [(key, f default)]
  | (k, v) :: rest =>
    match compare key k with
    | .lt => (key, f default) :: (k, v) :: rest
    | .eq => (k, f v) :: rest
    | .gt => (k, v) :: alter key default f rest

/-- The table with a value for one key. -/
def set (key : κ) (value : ν) (t : Table κ ν) : Table κ ν := t.alter key value fun _ => value

/-- The table with one more counted under a key. -/
def count (key : κ) (t : Table κ Nat) : Table κ Nat := t.alter key 0 (· + 1)

/-- The value of a key. -/
def get? (key : κ) (t : Table κ ν) : Option ν :=
  (t.find? fun e => compare key e.1 == .eq).map (·.2)

/-- The table of some keys and values, of which the last counts for each key. -/
def ofList (entries : List (κ × ν)) : Table κ ν := entries.foldl (fun t e => t.set e.1 e.2) []

end Table

end Trials
