import Trials.Json.Basic

/-!
# Reading typed data from JSON values

Small readers for the parts of a record: integers of a given range, lists, tables, and the fields
of a record, which may also be given as the list of its fields in order (`Json.recordFields`).  An
integer must be written as one: the double `1.0` is not read as an integer.
-/

namespace Trials.Json

/-- The natural number that a value is, if it is an integer and not negative. -/
def nat? : Json → Option Nat
  | .num (.int n) => if 0 ≤ n then some n.toNat else none
  | _ => none

/-- The natural number below a bound that a value is. -/
def natBelow? (bound : Nat) (v : Json) : Option Nat :=
  v.nat?.bind fun n => if n < bound then some n else none

/-- The unsigned integer of 32 bits that a value is. -/
def uint32? (v : Json) : Option UInt32 := (v.natBelow? UInt32.size).map UInt32.ofNat

/-- The unsigned integer of 64 bits that a value is. -/
def uint64? (v : Json) : Option UInt64 := (v.natBelow? UInt64.size).map UInt64.ofNat

/-- The number that a value is, as a double. -/
def number? : Json → Option Binary64
  | .num n => some n.toBinary64
  | _ => none

/-- The list whose items are read one by one; none if one of them cannot be read. -/
def listOf? {α : Type} (item : Json → Option α) : Json → Option (List α)
  | .arr items => items.mapM item
  | _ => none

/-- The optional part: `null` stands for a missing one. -/
def optional? {α : Type} (part : Json → Option α) : Json → Option (Option α)
  | .null => some none
  | v => (part v).map some

/-- The fields of a record with the given field names, which may be written as an object or as the
list of all fields in order. -/
def allFields (names : List String) : Json → Option (List (String × Json))
  | .obj fields => some fields
  | .arr items => if items.length = names.length then some (names.zip items) else none
  | _ => none

/-- The fields of a record with the given field names, which may be written as an object or as the
list of the fields in order, without some at its end. -/
def recordFields (names : List String) : Json → Option (List (String × Json))
  | .obj fields => some fields
  | .arr items => if items.length ≤ names.length then some (names.zip items) else none
  | _ => none

/-- A field that has to be there. -/
def required? {α : Type} (fields : List (String × Json)) (name : String) (part : Json → Option α) :
    Option α :=
  (lookup name fields).bind part

/-- A field that may be missing, and for which another value then stands. -/
def withDefault? {α : Type} (fields : List (String × Json)) (name : String) (default : α)
    (part : Json → Option α) : Option α :=
  match lookup name fields with
  | none => some default
  | some v => part v

/-- A field that may be missing or `null`. -/
def optionalField? {α : Type} (fields : List (String × Json)) (name : String)
    (part : Json → Option α) : Option (Option α) :=
  withDefault? fields name none (optional? part)

end Trials.Json
