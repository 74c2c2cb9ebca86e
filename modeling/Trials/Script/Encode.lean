import Trials.Script.Basic

/-!
# Scripts as JSON

`Script.toJson` writes a script as a JSON value.  Optional parts that are missing are left out, and
so are empty lists of identifiers; cutoffs and flags are always written.
-/

namespace Trials

/-- The condition as a value. -/
def Condition.toJson : Condition → Json
  | number n => .int n
  | name s => .str s

/-- The rule as a value. -/
def RunRule.toJson : RunRule → Json
  | selected page option => Json.ofFields [("pageID", .str page), ("optionID", .str option)]
  | matched page pattern => Json.ofFields [("pageID", .str page), ("regex", .str pattern)]
  | permutation values => Json.ofFields [("permutation", .arr (values.map fun v => .nat v.toNat))]

/-- An optional field. -/
def optionalField {α : Type} (name : String) (toJson : α → Json) (part : Option α) :
    List (String × Json) :=
  part.toList.map fun a => (name, toJson a)

/-- A field for a list of identifiers, left out if the list is empty. -/
def idsField (name : String) (ids : List String) : List (String × Json) :=
  if ids.isEmpty then [] else [(name, .arr (ids.map .str))]

/-- The page as a value. -/
def PageDecl.toJson (p : PageDecl) : Json :=
  Json.ofFields ([("id", .str p.id)] ++ optionalField "condition" Condition.toJson p.condition
    ++ p.content)

/-- Pages as a value. -/
def pagesJson (pages : List PageDecl) : Json := .arr (pages.map PageDecl.toJson)

/-- The fields of a block's declaration. -/
def BlockHead.fields (h : BlockHead) : List (String × Json) :=
  [("id", .str h.id)]
    ++ optionalField "runIf" RunRule.toJson h.runIf
    ++ optionalField "criterion" Json.double h.criterion
    ++ [("cutoff", .nat h.cutoff.toNat)]
    ++ optionalField "pages" pagesJson h.pages
    ++ optionalField "groups" (fun groups => .arr (groups.map pagesJson)) h.groups
    ++ [("latinSquare", .bool h.latinSquare), ("pseudorandom", .bool h.pseudorandom)]
    ++ idsField "exchangeable" h.exchangeable
    ++ idsField "counterbalance" h.counterbalance

namespace BlockDecl

mutual
/-- The block as a value. -/
def toJson : BlockDecl → Json
  | { toBlockHead := head, blocks := none } => Json.ofFields head.fields
  | { toBlockHead := head, blocks := some blocks } =>
    Json.ofFields (("blocks", .arr (listToJson blocks)) :: head.fields)

/-- Some blocks as values. -/
def listToJson : List BlockDecl → List Json
  | [] => []
  | b :: rest => b.toJson :: listToJson rest
end

end BlockDecl

/-- The script as a value. -/
def Script.toJson (s : Script) : Json :=
  Json.ofFields ([("blocks", .arr (BlockDecl.listToJson s.blocks))]
    ++ idsField "exchangeable" s.exchangeable
    ++ idsField "counterbalance" s.counterbalance)

end Trials
