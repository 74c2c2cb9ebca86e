/-!
# Paths

A `Path` names a block or a page of an experiment by the identifiers on the way to it, outermost
first.  `Path.parse` reads a text with slashes, leaving out empty parts, and `Path.text` writes one.
A path `isWithin` another if it is that path or lies beneath it, which is decided identifier by
identifier.
-/

namespace Trials

/-- The identifiers on the way to a block or a page; the experiment itself has none. -/
structure Path where
  /-- The identifiers, outermost first. -/
  segments : List String
deriving DecidableEq, Inhabited

namespace Path

/-- The path of the experiment itself. -/
def root : Path := ⟨[]⟩

/-- The path of a block or page directly beneath. -/
def child (p : Path) (id : String) : Path := ⟨p.segments ++ [id]⟩

/-- The last identifier; the root has none. -/
def id? (p : Path) : Option String := p.segments.getLast?

/-- The number of identifiers. -/
def depth (p : Path) : Nat := p.segments.length

/-- The path of the enclosing block; the root has none. -/
def parent? (p : Path) : Option Path :=
  match p.segments with
  | [] => none
  | s :: rest => some ⟨(s :: rest).dropLast⟩

/-- Whether the path is the other path or lies beneath it. -/
def isWithin (p q : Path) : Bool := q.segments.isPrefixOf p.segments

/-- The order of paths: identifier by identifier, a path before everything beneath it. -/
def order (p q : Path) : Ordering := compareOfLessAndEq p.segments q.segments

@[simp] theorem segments_root : root.segments = [] := rfl

@[simp] theorem segments_child (p : Path) (id : String) :
    (p.child id).segments = p.segments ++ [id] := rfl

@[simp] theorem id?_child (p : Path) (id : String) : (p.child id).id? = some id := by
  simp [id?]

@[simp] theorem parent?_child (p : Path) (id : String) : (p.child id).parent? = some p := by
  obtain ⟨segments⟩ := p
  cases segments with
  | nil => rfl
  | cons s rest =>
    have : (s :: (rest ++ [id])).dropLast = s :: rest := by
      rw [← List.cons_append, List.dropLast_concat]
    simp [parent?, child, this]

@[simp] theorem depth_child (p : Path) (id : String) : (p.child id).depth = p.depth + 1 := by
  simp [depth]

theorem isWithin_iff {p q : Path} : p.isWithin q = true ↔ q.segments <+: p.segments :=
  List.isPrefixOf_iff_prefix

@[simp] theorem isWithin_self (p : Path) : p.isWithin p = true :=
  isWithin_iff.2 (List.prefix_refl _)

theorem isWithin_child (p : Path) (id : String) : (p.child id).isWithin p = true :=
  isWithin_iff.2 (List.prefix_append _ _)

/-! ## Texts -/

/-- The parts of a text between its slashes. -/
def splitSlashes : List Char → List (List Char)
  | [] => [[]]
  | c :: cs =>
    if c = '/' then [] :: splitSlashes cs
    else
      match splitSlashes cs with
      | [] => [[c]]
      | part :: parts => (c :: part) :: parts

/-- The path that a text with slashes names. -/
def parse (text : String) : Path :=
  ⟨((splitSlashes text.toList).filter fun part => !part.isEmpty).map String.ofList⟩

/-- Some texts with a slash between any two. -/
def joinSlashes : List String → String
  | [] => ""
  | [s] => s
  | s :: rest => s ++ "/" ++ joinSlashes rest

/-- The text of a path: its identifiers with slashes between them. -/
def text (p : Path) : String := joinSlashes p.segments

@[simp] theorem parse_empty : parse "" = root := rfl

@[simp] theorem text_root : root.text = "" := rfl

end Path

end Trials
