import Trials.RunIf

/-!
# The rules of scripts

A script may have the right form and still make no sense: blocks without content, identifiers used
twice, orders asked of blocks that have nothing to order.  `Script.violations` lists every rule that
a script breaks, block by block: a block's own rules first, then those of the blocks inside it.  A
block without exactly one kind of content is not looked into any further.
-/

namespace Trials

/-- Where siblings stand: on the top level or inside a block. -/
inductive Scope where
  | experiment
  | block (path : Path)
deriving DecidableEq

/-- The text of a scope. -/
def Scope.text : Scope → String
  | experiment => "experiment"
  | block path => path.text

/-- One of the two lists that name blocks to be reordered. -/
inductive OrderingSet where
  | exchangeable
  | counterbalance
deriving DecidableEq

/-- The name of the list. -/
def OrderingSet.text : OrderingSet → String
  | exchangeable => "exchangeable"
  | counterbalance => "counterbalance"

/-- A rule about siblings that is broken. -/
inductive SiblingFault where
  | emptyId
  | slashInId (id : String)
  | duplicateId (id : String)
  /-- One of the lists names a block that is not there. -/
  | unknownBlock (set : OrderingSet) (id : String)
  | inBothSets (id : String)
deriving DecidableEq

/-- A rule about a block that is broken. -/
inductive BlockFault where
  | zeroCutoff
  /-- The criterion is negative or no finite number. -/
  | badCriterion
  | badRule (cause : RuleError)
  /-- The block has no content or several kinds of it. -/
  | noSingleContent
  /-- A block of blocks asks for an order of pages. -/
  | pageOrderOfBlocks
  /-- A block of pages asks for an order of blocks. -/
  | blockOrderOfPages
  /-- A Latin square is asked of groups of different sizes. -/
  | unevenGroups
  | emptyGroup
  /-- A Latin square is asked of pages without groups. -/
  | latinSquareWithoutGroups
  /-- Pages without conditions are to be kept apart. -/
  | untaggedPages
  /-- Pages chosen at random are to be kept apart. -/
  | randomPagesKeptApart
  /-- Pages of groups are to be kept apart although some conditions are more frequent. -/
  | unbalancedConditions
deriving DecidableEq

/-- A rule that a script breaks, and where. -/
inductive Violation where
  | siblings (scope : Scope) (fault : SiblingFault)
  /-- A rule about the block at a path. -/
  | block (path : Path) (fault : BlockFault)
deriving DecidableEq

/-- The text of the fault. -/
def SiblingFault.message : SiblingFault → String
  | emptyId => "empty id"
  | slashInId id => "id '" ++ id ++ "' must not contain '/'"
  | duplicateId id => "duplicate id '" ++ id ++ "'"
  | unknownBlock set id => set.text ++ " names unknown block '" ++ id ++ "'"
  | inBothSets id => "'" ++ id ++ "' cannot be both exchangeable and counterbalanced"

/-- The text of the fault. -/
def BlockFault.message : BlockFault → String
  | zeroCutoff => "cutoff must be > 0"
  | badCriterion => "criterion must be a non-negative number"
  | badRule cause => cause.message
  | noSingleContent => "block must have exactly one of blocks, pages, groups"
  | pageOrderOfBlocks => "latinSquare and pseudorandom apply only to blocks of pages"
  | blockOrderOfPages => "exchangeable and counterbalance apply only to blocks of blocks"
  | unevenGroups => "can't do Latin square on groups of uneven sizes"
  | emptyGroup => "groups must not be empty"
  | latinSquareWithoutGroups => "latinSquare requires groups"
  | untaggedPages => "can't pseudorandomize pages without conditions"
  | randomPagesKeptApart =>
    "can't choose pages from groups randomly and ensure pseudorandomization "
      ++ "will work; supply pages, set latinSquare, or unset pseudorandom"
  | unbalancedConditions =>
    "can't pseudorandomize pages if not all conditions are represented the same number of times"

/-- The text of the violation: the place and the fault. -/
def Violation.message : Violation → String
  | siblings scope fault => scope.text ++ ": " ++ fault.message
  | block path fault => path.text ++ ": " ++ fault.message

namespace Violation

/-! ## Siblings -/

/-- A fault, if a condition holds. -/
def faultIf {α : Type} (condition : Bool) (fault : α) : List α := if condition then [fault] else []

/-- The faults of one identifier by itself. -/
def idFaults (id : String) : List SiblingFault :=
  if id.isEmpty then [.emptyId] else faultIf (id.toList.contains '/') (.slashInId id)

/-- The faults of some identifiers that follow others. -/
def idsFaults (seen : List String) : List String → List SiblingFault
  | [] => []
  | id :: rest =>
    idFaults id ++ faultIf (seen.contains id) (.duplicateId id) ++ idsFaults (id :: seen) rest

/-- The faults of the two lists that name siblings to be reordered. -/
def setFaults (ids exchangeable counterbalance : List String) : List SiblingFault :=
  (exchangeable.filter fun id => !ids.contains id).map (.unknownBlock .exchangeable)
    ++ (counterbalance.filter fun id => !ids.contains id).map (.unknownBlock .counterbalance)
    ++ (exchangeable.filter counterbalance.contains).map .inBothSets

/-! ## Blocks -/

/-- Whether not all numbers of a list are equal. -/
def isUneven : List Nat → Bool
  | [] => false
  | n :: rest => rest.any (· ≠ n)

/-- How often each condition of a list occurs, once for every place where it occurs. -/
def occurrences (conditions : List (Option Condition)) : List Nat :=
  conditions.map fun c => conditions.count c

/-- The faults of the order that a block asks of its groups or pages. -/
def pageOrderFaults (b : BlockDecl) (groups : Option (List (List PageDecl))) : List BlockFault :=
  let conditions := b.declaredPages.map (·.condition)
  (match groups with
    | some groups =>
      faultIf (b.latinSquare && isUneven (groups.map List.length)) .unevenGroups
        ++ faultIf (groups.any List.isEmpty) .emptyGroup
    | none => faultIf b.latinSquare .latinSquareWithoutGroups)
  ++ (if !b.pseudorandom then []
    else if conditions.contains none then [.untaggedPages]
    else if groups.isSome then
      faultIf (!b.latinSquare) .randomPagesKeptApart
        ++ faultIf (isUneven (occurrences conditions)) .unbalancedConditions
    else [])

/-- Whether a criterion may be used: it is finite and not negative. -/
def isUsable (criterion : Binary64) : Bool := criterion.isFinite && !criterion.lt .zero

/-- The faults of a run-if rule. -/
def ruleFaults (s : Script) : RunRule → List RuleError
  | .permutation _ => []
  | .selected page _ => unresolved page
  | .matched page pattern =>
    (match Program.compile pattern with
      | .ok _ => []
      | .error cause => [.badPattern pattern cause])
    ++ unresolved page
where
  /-- The fault of an identifier that does not name exactly one page. -/
  unresolved (page : String) : List RuleError :=
    match s.resolvePage page with
    | .ok _ => []
    | .error cause => [cause]

/-- The faults of a block by itself, before its content is looked at. -/
def headFaults (s : Script) (b : BlockDecl) : List BlockFault :=
  faultIf (b.cutoff == 0) .zeroCutoff
    ++ faultIf (b.criterion.any fun c => !isUsable c) .badCriterion
    ++ (b.runIf.toList.flatMap (ruleFaults s)).map .badRule

/-- The violations of a block that holds pages, or the pages of groups. -/
def ofPages (b : BlockDecl) (path : Path) (groups : Option (List (List PageDecl))) :
    List Violation :=
  faultIf (!b.exchangeable.isEmpty || !b.counterbalance.isEmpty) (.block path .blockOrderOfPages)
    ++ (idsFaults [] (b.declaredPages.map (·.id))).map (.siblings (.block path))
    ++ (pageOrderFaults b groups).map (.block path)

/-- The violations of a block that holds blocks, apart from those of these blocks. -/
def ofBranch (b : BlockDecl) (path : Path) (children : List BlockDecl) : List Violation :=
  let ids := children.map (·.id)
  faultIf (b.latinSquare || b.pseudorandom) (.block path .pageOrderOfBlocks)
    ++ (idsFaults [] ids ++ setFaults ids b.exchangeable b.counterbalance).map
      (.siblings (.block path))

/-- The violations of a block apart from those of the blocks inside it. -/
def ofBlock (s : Script) (parent : Path) (b : BlockDecl) : List Violation :=
  let path := parent.child b.id
  (headFaults s b).map (.block path)
    ++ match b.content with
      | none => [.block path .noSingleContent]
      | some (.blocks children) => ofBranch b path children
      | some (.pages _) => ofPages b path none
      | some (.groups groups) => ofPages b path (some groups)

mutual
/-- The violations of a block beneath a path and of the blocks inside it. -/
def within (s : Script) (parent : Path) : BlockDecl → List Violation
  | { toBlockHead := head, blocks := none } =>
    ofBlock s parent { toBlockHead := head, blocks := none }
  | { toBlockHead := head, blocks := some children } =>
    ofBlock s parent { toBlockHead := head, blocks := some children }
      ++ if head.pages.isNone && head.groups.isNone then withinAll s (parent.child head.id) children
        else []

/-- The violations of some blocks beneath a path. -/
def withinAll (s : Script) (parent : Path) : List BlockDecl → List Violation
  | [] => []
  | b :: rest => within s parent b ++ withinAll s parent rest
end

end Violation

/-- All rules that a script breaks. -/
def Script.violations (s : Script) : List Violation :=
  let ids := s.blocks.map (·.id)
  (Violation.idsFaults [] ids ++ Violation.setFaults ids s.exchangeable s.counterbalance).map
      (.siblings .experiment)
    ++ Violation.withinAll s .root s.blocks

end Trials
