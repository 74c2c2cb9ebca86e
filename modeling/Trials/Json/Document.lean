import Trials.Json.Token

/-!
# JSON documents

A `Document` is a JSON text as a tree: fields in the order of the text, repeated names included,
and numerals and strings as they are written.  `Document.read?` recognises a text with a list of
open containers (`Frame`), one token at a time.  `Document.value?` interprets a document as a
value, which also refuses numbers that are too large, strings with half a surrogate pair and
containers nested too deeply.
-/

namespace Trials.Json

/-- A JSON text as a tree. -/
inductive Document where
  /-- The word `null`. -/
  | null
  /-- One of the words `true` and `false`. -/
  | bool (b : Bool)
  | num (n : Numeral)
  /-- A string, as written between its quotes. -/
  | str (body : List Char)
  | arr (items : List Document)
  /-- An object: its fields in order, names as written between their quotes. -/
  | obj (fields : List (List Char × Document))
deriving Inhabited

namespace Document

/-! ## Reading -/

/-- A container that is still open, its finished parts last first. -/
inductive Frame where
  /-- An array with its items so far. -/
  | arr (done : List Document)
  /-- An object with its fields so far and the name of the field being read. -/
  | obj (done : List (List Char × Document)) (name : List Char)

/-- What a reader expects next, with the containers that are open around it. -/
inductive State where
  | value (around : List Frame)
  /-- The first item of an array, or its closing bracket. -/
  | firstItem (around : List Frame)
  /-- The first field of an object, or its closing brace. -/
  | firstField (around : List Frame)
  | name (done : List (List Char × Document)) (around : List Frame)
  | colon (done : List (List Char × Document)) (name : List Char) (around : List Frame)
  | finished (v : Document) (around : List Frame)

/-- The state after the first token of a value. -/
def begin (around : List Frame) : Token → Option State
  | .null => some (.finished .null around)
  | .bool b => some (.finished (.bool b) around)
  | .num n => some (.finished (.num n) around)
  | .str s => some (.finished (.str s) around)
  | .openArray => some (.firstItem around)
  | .openObject => some (.firstField around)
  | _ => none

/-- The state after one token; none if the token does not belong there. -/
def step : State → Token → Option State
  | .value around, t => begin around t
  | .firstItem around, .closeArray => some (.finished (.arr []) around)
  | .firstItem around, t => begin (.arr [] :: around) t
  | .firstField around, .closeObject => some (.finished (.obj []) around)
  | .firstField around, .str s => some (.colon [] s around)
  | .name done around, .str s => some (.colon done s around)
  | .colon done s around, .colon => some (.value (.obj done s :: around))
  | .finished v (.arr done :: around), .comma => some (.value (.arr (v :: done) :: around))
  | .finished v (.arr done :: around), .closeArray =>
    some (.finished (.arr (v :: done).reverse) around)
  | .finished v (.obj done s :: around), .comma => some (.name ((s, v) :: done) around)
  | .finished v (.obj done s :: around), .closeObject =>
    some (.finished (.obj ((s, v) :: done).reverse) around)
  | _, _ => none

/-- The document that some tokens make up. -/
def ofTokens? (ts : List Token) : Option Document :=
  match ts.foldlM step (.value []) with
  | some (.finished v []) => some v
  | _ => none

/-- The document that a text writes; none if the text is no JSON. -/
def read? (text : String) : Option Document := (tokens? text.toList).bind ofTokens?

/-! ## Interpreting -/

/-- How many containers may be nested in one another. -/
def maxDepth : Nat := 127

mutual
/-- The value of a document that stands inside containers of which `depth` more may be opened. -/
def valueWithin (depth : Nat) : Document → Option Json
  | .null => some .null
  | .bool b => some (.bool b)
  | .num n => n.number?.map Json.num
  | .str s => (textOf? s).map Json.str
  | .arr items =>
    match depth with
    | 0 => none
    | depth + 1 => (itemsWithin depth items).map Json.arr
  | .obj fields =>
    match depth with
    | 0 => none
    | depth + 1 => (fieldsWithin depth fields).map ofFields

/-- The values of the items of an array. -/
def itemsWithin (depth : Nat) : List Document → Option (List Json)
  | [] => some []
  | d :: rest => do return (← valueWithin depth d) :: (← itemsWithin depth rest)

/-- The names and values of the fields of an object. -/
def fieldsWithin (depth : Nat) : List (List Char × Document) → Option (List (String × Json))
  | [] => some []
  | (s, d) :: rest => do
    let name ← textOf? s
    return (name, ← valueWithin depth d) :: (← fieldsWithin depth rest)
end

/-- The value that a document stands for. -/
def value? (d : Document) : Option Json := valueWithin maxDepth d

end Document

/-- The value that a text writes; none if the text is no JSON or its value cannot be held. -/
def parse? (text : String) : Option Json := (Document.read? text).bind Document.value?

end Trials.Json
