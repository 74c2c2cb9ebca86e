import Trials.Condition
import Trials.Json.Printer

/-!
# The form of scripts

What a JSON value must look like to be a script, apart from the rules that tie its parts together.
`Schema.script` lists all faults of a value: at each place those of the parts first, then missing
fields, a wrong type, and repeated items.  Numbers are judged by value: the double `1.0` counts as
an integer.
-/

namespace Trials

/-- A kind of JSON value. -/
inductive JsonType where
  | array
  | boolean
  /-- A number without fraction. -/
  | integer
  | number
  | object
  | string
deriving DecidableEq

namespace JsonType

/-- The name of the kind. -/
def text : JsonType → String
  | array => "array"
  | boolean => "boolean"
  | integer => "integer"
  | number => "number"
  | object => "object"
  | string => "string"

/-- Whether a value is of the kind. -/
def admits : JsonType → Json → Bool
  | array, .arr _ => true
  | boolean, .bool _ => true
  | integer, .num (.int _) => true
  | integer, .num (.double x) => x.isIntegral
  | number, .num _ => true
  | object, .obj _ => true
  | string, .str _ => true
  | _, _ => false

end JsonType

/-- A fault in the form of a script. -/
inductive SchemaFault where
  /-- A value is of none of the kinds that belong there. -/
  | type (v : Json) (expected : List JsonType)
  | missing (name : String)
  | tooShort (v : Json)
  /-- A number is less than it may be. -/
  | belowMinimum (v : Json) (limit : Int)
  /-- A number is greater than it may be. -/
  | aboveMaximum (v : Json) (limit : Int)
  /-- Two items of a list are equal. -/
  | repeatedItems (v : Json)
  /-- A value has none of several possible forms. -/
  | noAlternative (v : Json)
  /-- An object has fields that do not belong there. -/
  | unexpected (names : List String)

/-- Some texts with another text between any two. -/
def joinWith (separator : String) : List String → String
  | [] => ""
  | [s] => s
  | s :: rest => s ++ separator ++ joinWith separator rest

namespace SchemaFault

/-- A text in double quotes. -/
def inQuotes (s : String) : String := "\"" ++ s ++ "\""

/-- A text in single quotes. -/
def inApostrophes (s : String) : String := "'" ++ s ++ "'"

/-- The text of the fault. -/
def message : SchemaFault → String
  | type v [expected] => v.compact ++ " is not of type " ++ inQuotes expected.text
  | type v expected =>
    v.compact ++ " is not of types " ++ joinWith ", " (expected.map fun t => inQuotes t.text)
  | missing name => (Json.str name).compact ++ " is a required property"
  | tooShort v => v.compact ++ " is shorter than 1 character"
  | belowMinimum v limit => v.compact ++ " is less than the minimum of " ++ toString limit
  | aboveMaximum v limit => v.compact ++ " is greater than the maximum of " ++ toString limit
  | repeatedItems v => v.compact ++ " has non-unique elements"
  | noAlternative v =>
    v.compact ++ " is not valid under any of the schemas listed in the 'oneOf' keyword"
  | unexpected names =>
    "Additional properties are not allowed (" ++ joinWith ", " (names.map inApostrophes)
      ++ (if names.length = 1 then " was unexpected)" else " were unexpected)")

end SchemaFault

namespace Schema

/-! ## Conditions on single values -/

/-- The value must be of one of some kinds. -/
def type (expected : List JsonType) (v : Json) : List SchemaFault :=
  if expected.any (·.admits v) then [] else [.type v expected]

/-- A number as a multiple of the least positive double. -/
def units : Json.Number → Int
  | .int n => n * Binary64.unitsPerOne
  | .double x => if x.negative then -x.units else x.units

/-- A number must not be less than a limit. -/
def minimum (limit : Int) : Json → List SchemaFault
  | .num n => if units n < limit * Binary64.unitsPerOne then [.belowMinimum (.num n) limit] else []
  | _ => []

/-- A number must not be greater than a limit. -/
def maximum (limit : Int) : Json → List SchemaFault
  | .num n => if limit * Binary64.unitsPerOne < units n then [.aboveMaximum (.num n) limit] else []
  | _ => []

/-- A string must not be empty. -/
def nonempty : Json → List SchemaFault
  | .str s => if s.isEmpty then [.tooShort (.str s)] else []
  | _ => []

/-- Each item of an array must satisfy a condition. -/
def items (item : Json → List SchemaFault) : Json → List SchemaFault
  | .arr vs => vs.flatMap item
  | _ => []

/-- No two items of an array may be equal by value. -/
def uniqueItems : Json → List SchemaFault
  | .arr vs => if Json.allDistinct vs then [] else [.repeatedItems (.arr vs)]
  | _ => []

/-- An object must have some fields. -/
def required (names : List String) : Json → List SchemaFault
  | .obj fields =>
    (names.filter fun name => (Json.lookup name fields).isNone).map .missing
  | _ => []

/-- Each field of an object that has a condition of its own must satisfy it. -/
def properties (field : String → Json → List SchemaFault) : Json → List SchemaFault
  | .obj fields => fields.flatMap fun f => field f.1 f.2
  | _ => []

/-- An object may have no other fields than some. -/
def closed (names : List String) : Json → List SchemaFault
  | .obj fields =>
    match (fields.map (·.1)).filter fun name => !names.contains name with
    | [] => []
    | others => [.unexpected others]
  | _ => []

/-! ## Parts of a script -/

/-- An identifier. -/
def id (v : Json) : List SchemaFault := nonempty v ++ type [.string] v

/-- A list of different identifiers. -/
def idList (v : Json) : List SchemaFault := items id v ++ type [.array] v ++ uniqueItems v

/-- An unsigned integer of 32 bits that is not below a limit. -/
def uint32 (least : Int) (v : Json) : List SchemaFault :=
  maximum 4294967295 v ++ minimum least v ++ type [.integer] v

/-- A condition: a string, or an integer of 64 bits. -/
def condition (v : Json) : List SchemaFault :=
  maximum Condition.greatest v ++ minimum Condition.least v ++ type [.integer, .string] v

/-- A run-if rule about a chosen option. -/
def selectedRule (v : Json) : List SchemaFault :=
  properties (fun name => if name = "optionID" ∨ name = "pageID" then id else fun _ => []) v
    ++ closed ["optionID", "pageID"] v ++ required ["pageID", "optionID"] v ++ type [.object] v

/-- A run-if rule about an entered text. -/
def matchedRule (v : Json) : List SchemaFault :=
  properties (fun name =>
      if name = "pageID" then id else if name = "regex" then type [.string] else fun _ => []) v
    ++ closed ["pageID", "regex"] v ++ required ["pageID", "regex"] v ++ type [.object] v

/-- A run-if rule about permutations. -/
def permutationRule (v : Json) : List SchemaFault :=
  properties (fun name =>
      if name = "permutation" then fun v => items (uint32 0) v ++ type [.array] v
      else fun _ => []) v
    ++ closed ["permutation"] v ++ required ["permutation"] v ++ type [.object] v

/-- A run-if rule: it must have exactly one of the three forms, which exclude one another. -/
def runIf (v : Json) : List SchemaFault :=
  if (selectedRule v).isEmpty || (matchedRule v).isEmpty || (permutationRule v).isEmpty then []
  else [.noAlternative v]

/-- A page. -/
def page (v : Json) : List SchemaFault :=
  properties (fun name =>
      if name = "condition" then condition else if name = "id" then id else fun _ => []) v
    ++ required ["id"] v ++ type [.object] v

/-- A list of pages. -/
def pages (v : Json) : List SchemaFault := items page v ++ type [.array] v

/-- A field of a block other than the blocks inside it. -/
def blockField (name : String) (v : Json) : List SchemaFault :=
  match name with
  | "id" => id v
  | "runIf" => runIf v
  | "criterion" => minimum 0 v ++ type [.number] v
  | "cutoff" => uint32 1 v
  | "pages" => pages v
  | "groups" => items pages v ++ type [.array] v
  | "latinSquare" => type [.boolean] v
  | "pseudorandom" => type [.boolean] v
  | "exchangeable" => idList v
  | "counterbalance" => idList v
  | _ => []

/-- The fields that a block may have. -/
def blockNames : List String :=
  ["blocks", "counterbalance", "criterion", "cutoff", "exchangeable", "groups", "id",
    "latinSquare", "pages", "pseudorandom", "runIf"]

mutual
/-- A block. -/
def block : Json → List SchemaFault
  | .obj fields =>
    blockFields fields ++ closed blockNames (.obj fields) ++ required ["id"] (.obj fields)
  | v => type [.object] v

/-- The fields of a block. -/
def blockFields : List (String × Json) → List SchemaFault
  | [] => []
  | (name, v) :: rest =>
    (if name = "blocks" then blocks v else blockField name v) ++ blockFields rest

/-- A list of blocks. -/
def blocks : Json → List SchemaFault
  | .arr vs => blockItems vs
  | v => type [.array] v

/-- The items of a list of blocks. -/
def blockItems : List Json → List SchemaFault
  | [] => []
  | v :: rest => block v ++ blockItems rest
end

/-- A script. -/
def script (v : Json) : List SchemaFault :=
  properties (fun name =>
      if name = "blocks" then blocks
      else if name = "counterbalance" ∨ name = "exchangeable" then idList
      else fun _ => []) v
    ++ required ["blocks"] v ++ type [.object] v

end Schema

end Trials
