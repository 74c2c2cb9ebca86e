import Trials.Json.Document

/-!
# Documents of a known shape

A `Shape` says what a reader of a JSON text asks for.  `Document.fit` turns a document into a value
of the shape: fields that a record does not know are passed over without being interpreted, a
field that is repeated is a fault, a record may be written as the list of its fields, and a table
keeps the last of several entries with one name.  What the parts mean is left to the readers of
values.
-/

namespace Trials.Json

/-- What a reader asks for. -/
inductive Shape where
  | any
  /-- A record with the given fields, in an object or in a list; a list may leave out fields at
  its end if all fields have defaults. -/
  | record (fields : List (String × Shape)) (defaults : Bool)
  /-- An object with the given fields; all other fields are interpreted too, and left out. -/
  | openRecord (fields : List (String × Shape))
  | list (item : Shape)
  | table (entry : Shape)
  /-- An object whose names are unsigned integers. -/
  | numbered (entry : Shape)
deriving Inhabited

namespace Document

/-- The shape of a field. -/
def shapeOf? (name : String) (fields : List (String × Shape)) : Option Shape :=
  (fields.find? fun f => f.1 == name).map (·.2)

/-- The name that the key of a numbered table writes: an unsigned integer of 64 bits without
escapes, blanks or leading zeros. -/
def numberName? (key : List Char) : Option String :=
  match key with
  | [] => none
  | '0' :: _ :: _ => none
  | _ =>
    if key.all Char.isDigit && decide (natOfDigits 0 key ≤ Numeral.maxUnsigned) then
      some (String.ofList key)
    else none

/-- Whether no name stands twice in a list. -/
def namesDiffer : List String → Bool
  | [] => true
  | name :: rest => !rest.contains name && namesDiffer rest

/-- The fields as an object, unless a name is repeated. -/
def distinct (fields : List (String × Json)) : Option Json :=
  if namesDiffer (fields.map (·.1)) then some (ofFields fields) else none

mutual
/-- The value of the given shape that a document stands for, inside containers of which `depth`
more may be opened. -/
def fit (depth : Nat) : Shape → Document → Option Json
  | .record fields _, .obj entries => (fitFields (depth - 1) fields entries).bind distinct
  | .record fields defaults, .arr items =>
    if items.length = fields.length ∨ defaults ∧ items.length < fields.length then
      (fitEach (depth - 1) fields items).map ofFields
    else none
  | .openRecord fields, .obj entries => (fitOpen (depth - 1) fields entries).bind distinct
  | .list item, .arr items => (fitItems (depth - 1) item items).map .arr
  | .table entry, .obj entries => (fitTable (depth - 1) entry entries).map ofFields
  | .numbered entry, .obj entries => (fitNumbered (depth - 1) entry entries).map ofFields
  | .any, d => valueWithin depth d
  | _, _ => none

/-- The known fields of an object. -/
def fitFields (depth : Nat) (fields : List (String × Shape)) :
    List (List Char × Document) → Option (List (String × Json))
  | [] => some []
  | (key, d) :: rest => do
    let name ← textOf? key
    match shapeOf? name fields with
    | some shape => return (name, ← fit depth shape d) :: (← fitFields depth fields rest)
    | none => fitFields depth fields rest

/-- The known fields of an object whose other fields are interpreted too. -/
def fitOpen (depth : Nat) (fields : List (String × Shape)) :
    List (List Char × Document) → Option (List (String × Json))
  | [] => some []
  | (key, d) :: rest => do
    let name ← textOf? key
    match shapeOf? name fields with
    | some shape => return (name, ← fit depth shape d) :: (← fitOpen depth fields rest)
    | none => do
      let _ ← valueWithin depth d
      fitOpen depth fields rest

/-- The fields of a record written as a list. -/
def fitEach (depth : Nat) : List (String × Shape) → List Document → Option (List (String × Json))
  | (name, shape) :: fields, d :: rest => do
    return (name, ← fit depth shape d) :: (← fitEach depth fields rest)
  | _, _ => some []

/-- The items of a list. -/
def fitItems (depth : Nat) (item : Shape) : List Document → Option (List Json)
  | [] => some []
  | d :: rest => do return (← fit depth item d) :: (← fitItems depth item rest)

/-- The entries of a table. -/
def fitTable (depth : Nat) (entry : Shape) :
    List (List Char × Document) → Option (List (String × Json))
  | [] => some []
  | (key, d) :: rest => do
    let name ← textOf? key
    return (name, ← fit depth entry d) :: (← fitTable depth entry rest)

/-- The entries of a numbered table. -/
def fitNumbered (depth : Nat) (entry : Shape) :
    List (List Char × Document) → Option (List (String × Json))
  | [] => some []
  | (key, d) :: rest => do
    let name ← numberName? key
    return (name, ← fit depth entry d) :: (← fitNumbered depth entry rest)
end

end Document

/-- The value of a shape that a text writes. -/
def parseAs? (shape : Shape) (text : String) : Option Json :=
  (Document.read? text).bind (Document.fit Document.maxDepth shape)

end Trials.Json
