import Trials.Number.Binary64

/-!
# JSON values

A `Json` value is what a JSON text says.  Integers of 64 bits are kept apart from all other
numbers, which are doubles; an object read from a text lists its fields in ascending order of their
names, each name once (`Json.ofFields`).
-/

namespace Trials

/-- A number: an integer, or a double for everything that is not written as a 64-bit integer. -/
inductive Json.Number where
  | int (n : Int)
  | double (x : Binary64)
deriving DecidableEq

/-- A JSON value. -/
inductive Json where
  | null
  | bool (b : Bool)
  | num (n : Json.Number)
  | str (s : String)
  | arr (items : List Json)
  /-- An object, as its fields. -/
  | obj (fields : List (String × Json))
deriving Inhabited

namespace Json

/-- An integer as a value. -/
abbrev int (n : Int) : Json := .num (.int n)

/-- A natural number as a value. -/
abbrev nat (n : Nat) : Json := .num (.int n)

/-- A double as a value. -/
abbrev double (x : Binary64) : Json := .num (.double x)

/-- The number as a double. -/
def Number.toBinary64 : Number → Binary64
  | .int n => .ofInt n
  | .double x => x

/-! ## Fields -/

/-- A sorted field list with one field added; a field of the same name is replaced. -/
def insertField (name : String) (value : Json) : List (String × Json) → List (String × Json)
  | [] => [(name, value)]
  | (n, v) :: rest =>
    match compare name n with
    | .lt => (name, value) :: (n, v) :: rest
    | .eq => (name, value) :: rest
    | .gt => (n, v) :: insertField name value rest

/-- The object with the given fields in ascending order of their names; of two fields with one
name the later counts. -/
def ofFields (fields : List (String × Json)) : Json :=
  .obj (fields.foldl (fun acc f => insertField f.1 f.2 acc) [])

/-- The value of a field in a field list. -/
def lookup (name : String) (fields : List (String × Json)) : Option Json :=
  (fields.find? fun f => f.1 == name).map (·.2)

/-- The value of a field, if the value is an object that has it. -/
def field? (name : String) : Json → Option Json
  | .obj fields => lookup name fields
  | _ => none

/-- The items of an array. -/
def items? : Json → Option (List Json)
  | .arr items => some items
  | _ => none

/-- The text of a string. -/
def str? : Json → Option String
  | .str s => some s
  | _ => none

/-- The truth value of a boolean. -/
def bool? : Json → Option Bool
  | .bool b => some b
  | _ => none

/-! ## Equality of meaning -/

/-- Whether two numbers are equal by value, an integer being equal to the double of that value. -/
def Number.sameValue : Number → Number → Bool
  | .int a, .int b => a == b
  | .double x, .double y => x.same y
  | .int a, .double x => x.isIntegral && x.truncate == a
  | .double x, .int a => x.isIntegral && x.truncate == a

mutual
/-- Whether two values are equal when numbers are compared by value. -/
def sameValue : Json → Json → Bool
  | .null, .null => true
  | .bool a, .bool b => a == b
  | .num m, .num n => m.sameValue n
  | .str s, .str t => s == t
  | .arr xs, .arr ys => sameItems xs ys
  | .obj xs, .obj ys => sameFields xs ys
  | _, _ => false

/-- Whether two lists have equal values at each place. -/
def sameItems : List Json → List Json → Bool
  | [], [] => true
  | x :: xs, y :: ys => sameValue x y && sameItems xs ys
  | _, _ => false

/-- Whether two sorted field lists have the same names and equal values. -/
def sameFields : List (String × Json) → List (String × Json) → Bool
  | [], [] => true
  | (m, x) :: xs, (n, y) :: ys => m == n && sameValue x y && sameFields xs ys
  | _, _ => false
end

/-- Whether no two items of a list are equal by value. -/
def allDistinct : List Json → Bool
  | [] => true
  | x :: xs => !xs.any (sameValue x) && allDistinct xs

end Json

end Trials
