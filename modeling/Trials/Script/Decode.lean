import Trials.Script.Basic
import Trials.Json.Decode
import Trials.Number.Shortest

/-!
# Scripts from JSON

`Script.ofJson` reads a script from a JSON value.  Fields that a block or a script does not know
are passed over; a page keeps them.  The fields of a block are read in the order in which the
object lists them, so that of two faults the first one is reported.
-/

namespace Trials

/-- Why a value is no script. -/
inductive DecodeError where
  /-- A number written as a double stands where a 32-bit integer belongs. -/
  | fractional (x : Binary64)
  /-- A run-if rule has none of the known forms. -/
  | unknownRule
  /-- A condition is neither a 64-bit integer nor a string. -/
  | unknownCondition
  /-- A part is missing or of another type. -/
  | malformed
deriving DecidableEq

/-- A double with a point or an exponent, so that it cannot be taken for an integer. -/
def pointedText (x : Binary64) : String :=
  let text := x.toPositional
  if text.toList.contains '.' then text else text ++ ".0"

/-- The text of the error. -/
def DecodeError.message : DecodeError → String
  | fractional x => "invalid type: floating point `" ++ pointedText x ++ "`, expected u32"
  | unknownRule => "data did not match any variant of untagged enum RunIfSpec"
  | unknownCondition => "data did not match any variant of untagged enum ConditionTag"
  | malformed => "a part is missing or of another type"

/-- What an optional reader gives, or the error that a part is malformed. -/
def orMalformed {α : Type} : Option α → Except DecodeError α
  | some a => .ok a
  | none => .error .malformed

/-! ## Conditions and rules -/

/-- The condition that a value is. -/
def Condition.ofJson : Json → Except DecodeError Condition
  | .num (.int n) =>
    if Condition.least ≤ n ∧ n ≤ Condition.greatest then .ok (.number n)
    else .error .unknownCondition
  | .str s => .ok (.name s)
  | _ => .error .unknownCondition

namespace RunRule

/-- The rule about a chosen option that a value is. -/
def selected? : Json → Option RunRule
  | .arr [.str page, .str option] => some (.selected page option)
  | .obj fields => do
    return .selected (← Json.required? fields "pageID" Json.str?)
      (← Json.required? fields "optionID" Json.str?)
  | _ => none

/-- The rule about an entered text that a value is. -/
def matched? : Json → Option RunRule
  | .obj fields => do
    return .matched (← Json.required? fields "pageID" Json.str?)
      (← Json.required? fields "regex" Json.str?)
  | _ => none

/-- The rule about permutations that a value is. -/
def permutation? : Json → Option RunRule
  | .arr [values] => (values.listOf? Json.uint32?).map .permutation
  | .obj fields =>
    (Json.required? fields "permutation" (Json.listOf? Json.uint32?)).map .permutation
  | _ => none

/-- The rule that a value is: the first of the three forms that fits. -/
def ofJson (v : Json) : Except DecodeError RunRule :=
  match selected? v with
  | some rule => .ok rule
  | none =>
    match matched? v with
    | some rule => .ok rule
    | none =>
      match permutation? v with
      | some rule => .ok rule
      | none => .error .unknownRule

end RunRule

/-- An optional part: `null` stands for a missing one. -/
def optionalOf {α : Type} (part : Json → Except DecodeError α) :
    Json → Except DecodeError (Option α)
  | .null => .ok none
  | v => (part v).map some

/-- A list whose items are read one by one. -/
def listOf {α : Type} (item : Json → Except DecodeError α) : Json → Except DecodeError (List α)
  | .arr items => items.mapM item
  | _ => .error .malformed

/-! ## Pages -/

/-- The page that a value is. -/
def PageDecl.ofJson : Json → Except DecodeError PageDecl
  | .obj fields => do
    let condition ← match Json.lookup "condition" fields with
      | some v => optionalOf Condition.ofJson v
      | none => .ok none
    let id ← orMalformed (Json.required? fields "id" Json.str?)
    return { id, condition, content := fields.filter fun f => f.1 ≠ "id" && f.1 ≠ "condition" }
  | _ => .error .malformed

/-! ## Blocks -/

/-- A cutoff. -/
def cutoffOf : Json → Except DecodeError UInt32
  | .num (.double x) => .error (.fractional x)
  | v => orMalformed v.uint32?

/-- A list of identifiers. -/
def idsOf (v : Json) : Except DecodeError (List String) := orMalformed (v.listOf? Json.str?)

/-- The declaration with one field read; a field that it does not know changes nothing. -/
def BlockHead.setField (h : BlockHead) (name : String) (v : Json) : Except DecodeError BlockHead :=
  match name with
  | "id" => do return { h with id := ← orMalformed v.str? }
  | "runIf" => do return { h with runIf := ← optionalOf RunRule.ofJson v }
  | "criterion" => do return { h with criterion := ← orMalformed (v.optional? Json.number?) }
  | "cutoff" => do return { h with cutoff := ← cutoffOf v }
  | "pages" => do return { h with pages := ← optionalOf (listOf PageDecl.ofJson) v }
  | "groups" => do return { h with groups := ← optionalOf (listOf (listOf PageDecl.ofJson)) v }
  | "latinSquare" => do return { h with latinSquare := ← orMalformed v.bool? }
  | "pseudorandom" => do return { h with pseudorandom := ← orMalformed v.bool? }
  | "exchangeable" => do return { h with exchangeable := ← idsOf v }
  | "counterbalance" => do return { h with counterbalance := ← idsOf v }
  | _ => .ok h

namespace BlockDecl

/-- The fields of a block in order, for a block given as a list. -/
def fieldNames : List String :=
  ["id", "runIf", "criterion", "cutoff", "blocks", "pages", "groups", "latinSquare",
    "pseudorandom", "exchangeable", "counterbalance"]

mutual
/-- The block that a value is: an object that has at least an identifier, or a list of fields. -/
def ofJson : Json → Except DecodeError BlockDecl
  | .obj fields => do
    let b ← readFields default fields
    if (Json.lookup "id" fields).isSome then .ok b else .error .malformed
  | .arr items =>
    if items.isEmpty ∨ fieldNames.length < items.length then .error .malformed
    else readItems default fieldNames items
  | _ => .error .malformed

/-- The block with some named fields read. -/
def readFields (b : BlockDecl) : List (String × Json) → Except DecodeError BlockDecl
  | [] => .ok b
  | (name, v) :: rest => do readFields (← readField b name v) rest

/-- The block with some fields read whose names stand in another list. -/
def readItems (b : BlockDecl) : List String → List Json → Except DecodeError BlockDecl
  | name :: names, v :: rest => do readItems (← readField b name v) names rest
  | _, _ => .ok b

/-- The block with one field read. -/
def readField (b : BlockDecl) (name : String) (v : Json) : Except DecodeError BlockDecl :=
  if name = "blocks" then
    match v with
    | .null => .ok { b with blocks := none }
    | .arr items => do return { b with blocks := some (← listOfJson items) }
    | _ => .error .malformed
  else do return { b with toBlockHead := ← b.toBlockHead.setField name v }

/-- The blocks that some values are. -/
def listOfJson : List Json → Except DecodeError (List BlockDecl)
  | [] => .ok []
  | v :: rest => do return (← ofJson v) :: (← listOfJson rest)
end

end BlockDecl

/-! ## Scripts -/

/-- The fields of a script in order, for a script given as a list. -/
def Script.fieldNames : List String := ["blocks", "exchangeable", "counterbalance"]

/-- The blocks of a script. -/
def blocksOf : Json → Except DecodeError (List BlockDecl)
  | .arr items => BlockDecl.listOfJson items
  | _ => .error .malformed

/-- The script that a value is. -/
def Script.ofJson (v : Json) : Except DecodeError Script := do
  let fields ← orMalformed (v.recordFields Script.fieldNames)
  let blocks ← match Json.lookup "blocks" fields with
    | some v => blocksOf v
    | none => .error .malformed
  let ids (name : String) : Except DecodeError (List String) :=
    orMalformed (Json.withDefault? fields name [] (Json.listOf? Json.str?))
  return { blocks, counterbalance := ← ids "counterbalance", exchangeable := ← ids "exchangeable" }

end Trials
