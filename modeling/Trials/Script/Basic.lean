import Trials.Json.Basic
import Trials.Condition
import Trials.Path

/-!
# Scripts

A `Script` declares an experiment: blocks that hold other blocks, pages, or groups of pages from
each of which one page is chosen.  A block also says when it runs (`RunRule`), how often, and how
its children are ordered.  `Script.pagePaths` finds the pages with a given identifier.
-/

namespace Trials

/-- A page as declared: what the experiment itself needs, and everything else as it was written. -/
structure PageDecl where
  id : String
  /-- The page's condition, if it has one. -/
  condition : Option Condition := none
  /-- All other fields, which are for the display only. -/
  content : List (String × Json) := []
deriving Inhabited

/-- When a block runs. -/
inductive RunRule where
  /-- If an option was chosen on a page. -/
  | selected (page option : String)
  /-- If the text entered on a page contains a match of a pattern. -/
  | matched (page pattern : String)
  /-- If the participant's permutation is one of these. -/
  | permutation (values : List UInt32)
deriving DecidableEq

/-- A block as declared, without the blocks inside it. -/
structure BlockHead where
  id : String
  /-- When it runs; always if there is no rule. -/
  runIf : Option RunRule := none
  criterion : Option Binary64 := none
  /-- The largest number of passes. -/
  cutoff : UInt32 := 1
  /-- The pages inside it, if it is a block of pages. -/
  pages : Option (List PageDecl) := none
  /-- The groups of pages inside it, if it is a block of groups. -/
  groups : Option (List (List PageDecl)) := none
  /-- Whether pages are chosen from groups by a Latin square. -/
  latinSquare : Bool := false
  /-- Whether pages of the same condition are kept apart. -/
  pseudorandom : Bool := false
  /-- The blocks inside it that are shuffled among themselves. -/
  exchangeable : List String := []
  /-- The blocks inside it that are rotated among themselves. -/
  counterbalance : List String := []
deriving Inhabited

/-- A block as declared. -/
structure BlockDecl extends BlockHead where
  /-- The blocks inside it, if it is a block of blocks. -/
  blocks : Option (List BlockDecl) := none

instance : Inhabited BlockDecl := ⟨{ id := "" }⟩

/-- An experiment as declared. -/
structure Script where
  blocks : List BlockDecl
  /-- The blocks that are shuffled among themselves. -/
  exchangeable : List String := []
  /-- The blocks that are rotated among themselves. -/
  counterbalance : List String := []

/-- What a block holds. -/
inductive BlockContent where
  | blocks (children : List BlockDecl)
  | pages (pages : List PageDecl)
  | groups (groups : List (List PageDecl))

namespace BlockDecl

/-- What the block holds; none unless it declares exactly one kind of content. -/
def content (b : BlockDecl) : Option BlockContent :=
  match b.blocks, b.pages, b.groups with
  | some blocks, none, none => some (.blocks blocks)
  | none, some pages, none => some (.pages pages)
  | none, none, some groups => some (.groups groups)
  | _, _, _ => none

/-- The pages that the block itself declares, those of groups in the order of the groups. -/
def declaredPages (b : BlockDecl) : List PageDecl :=
  match b.content with
  | some (.pages pages) => pages
  | some (.groups groups) => groups.flatten
  | _ => []

/-- The paths of the pages with an identifier that a block at a path declares itself. -/
def ownPagePaths (b : BlockDecl) (path : Path) (id : String) : List Path :=
  (b.declaredPages.filter fun page => page.id == id).map fun page => path.child page.id

mutual
/-- The paths of the pages with an identifier in a block beneath a path. -/
def pagePaths (parent : Path) (id : String) : BlockDecl → List Path
  | { toBlockHead := head, blocks := none } =>
    ownPagePaths { toBlockHead := head, blocks := none } (parent.child head.id) id
  | { toBlockHead := head, blocks := some blocks } =>
    ownPagePaths { toBlockHead := head, blocks := some blocks } (parent.child head.id) id
      ++ pagePathsIn (parent.child head.id) id blocks

/-- The paths of the pages with an identifier in some blocks beneath a path. -/
def pagePathsIn (parent : Path) (id : String) : List BlockDecl → List Path
  | [] => []
  | b :: rest => b.pagePaths parent id ++ pagePathsIn parent id rest
end

end BlockDecl

/-- The paths of the pages with an identifier. -/
def Script.pagePaths (s : Script) (id : String) : List Path :=
  BlockDecl.pagePathsIn .root id s.blocks

end Trials
