import Mathlib.Logic.Relation
import Trials.Experiment.Table

/-!
# The forest of blocks

In a sound table (`BlockTable.Sound`) the numbers that a block holds and the numbers of the blocks
around blocks tell the same: a block is held by the block around it, once, and has the larger number
of the two.  So blocks form a forest.  `Inside t c p` says that block `c` stands directly inside
block `p`, and `Within t j i` that `j` is block `i` or stands at any depth inside it.  The blocks
within which a block stands lie on one line (`Within.total`), and two blocks inside one block have
nothing in common (`not_within_sibling`).

Both relations depend on what never changes about blocks (`BlockTable.shapes`), and so does
soundness, apart from the pass of each block being over a permutation of its children.
-/

namespace Trials

theorem Block.shape_inj {b b' : Block} :
    b'.shape = b.shape ↔ b'.info = b.info ∧ b'.parent = b.parent ∧ b'.content = b.content := by
  simp [Block.shape]

namespace BlockTable

variable {t t' : BlockTable}

theorem lt_size_of_getElem? {i : Nat} {b : Block} (h : t[i]? = some b) : i < t.size :=
  (Array.getElem?_eq_some_iff.1 h).1

theorem exists_of_lt_size {i : Nat} (h : i < t.size) : ∃ b, t[i]? = some b :=
  ⟨t[i], Array.getElem?_eq_getElem h⟩

/-- A block of the table after a change is the new one, or one that was there. -/
theorem cases_of_put {i j : Nat} {b b' d : Block} (hb : t[i]? = some b)
    (hd : (t.put i b')[j]? = some d) : j = i ∧ d = b' ∨ j ≠ i ∧ t[j]? = some d := by
  by_cases hj : j = i
  · subst hj
    rw [getElem?_put_self hb] at hd
    exact .inl ⟨rfl, (Option.some.inj hd).symm⟩
  · rw [getElem?_put_of_ne (Ne.symm hj)] at hd
    exact .inr ⟨hj, hd⟩

/-! ## What never changes -/

theorem size_of_shapes (h : t'.shapes = t.shapes) : t'.size = t.size := by
  simpa [shapes] using congrArg Array.size h

theorem exists_of_map {α : Type} {f : Block → α} (h : t'.map f = t.map f) {i : Nat} {b : Block}
    (hb : t[i]? = some b) : ∃ b', t'[i]? = some b' ∧ f b' = f b := by
  have hi : (t'.map f)[i]? = some (f b) := by
    rw [h, Array.getElem?_map, hb]
    rfl
  rw [Array.getElem?_map] at hi
  exact Option.map_eq_some_iff.1 hi

theorem map_put {α : Type} {f : Block → α} {i : Nat} {b b' : Block} (hb : t[i]? = some b)
    (h : f b' = f b) : (t.put i b').map f = t.map f := by
  apply Array.ext_getElem?
  intro j
  rw [Array.getElem?_map, Array.getElem?_map]
  by_cases hj : i = j
  · subst hj
    rw [getElem?_put_self hb, hb, Option.map_some, Option.map_some, h]
  · rw [getElem?_put_of_ne hj]

theorem exists_of_shapes (h : t'.shapes = t.shapes) {i : Nat} {b : Block} (hb : t[i]? = some b) :
    ∃ b', t'[i]? = some b' ∧ b'.shape = b.shape :=
  exists_of_map h hb

theorem shapes_put {i : Nat} {b b' : Block} (hb : t[i]? = some b) (hs : b'.shape = b.shape) :
    (t.put i b').shapes = t.shapes :=
  map_put hb hs

/-! ## Standing inside -/

/-- Block `c` stands directly inside block `p`. -/
def Inside (t : BlockTable) (c p : Nat) : Prop := ∃ b, t[c]? = some b ∧ b.parent = some p

/-- Block `j` is block `i` or stands at any depth inside it. -/
def Within (t : BlockTable) : Nat → Nat → Prop := Relation.ReflTransGen t.Inside

theorem Inside.lt_size {c p : Nat} (h : t.Inside c p) : c < t.size := by
  obtain ⟨b, hb, -⟩ := h
  exact lt_size_of_getElem? hb

theorem Inside.unique {c p q : Nat} (h : t.Inside c p) (h' : t.Inside c q) : p = q := by
  obtain ⟨b, hb, hp⟩ := h
  obtain ⟨b', hb', hq⟩ := h'
  rw [hb] at hb'
  cases hb'
  rw [hp] at hq
  exact Option.some.inj hq

theorem Within.total {j i k : Nat} (hi : t.Within j i) (hk : t.Within j k) :
    t.Within i k ∨ t.Within k i :=
  Relation.ReflTransGen.total_of_right_unique (fun _ _ _ => Inside.unique) hi hk

theorem inside_of_shapes (h : t'.shapes = t.shapes) {c p : Nat} (hc : t.Inside c p) :
    t'.Inside c p := by
  obtain ⟨b, hb, hp⟩ := hc
  obtain ⟨b', hb', hs⟩ := exists_of_shapes h hb
  exact ⟨b', hb', by rw [(Block.shape_inj.1 hs).2.1, hp]⟩

theorem within_congr (h : t'.shapes = t.shapes) {j i : Nat} : t'.Within j i ↔ t.Within j i :=
  ⟨Relation.ReflTransGen.mono (fun _ _ => inside_of_shapes h.symm) _ _,
    Relation.ReflTransGen.mono (fun _ _ => inside_of_shapes h) _ _⟩

/-! ## Soundness -/

/-- The blocks form a forest, and the pass of each is over a permutation of its children. -/
structure Sound (t : BlockTable) : Prop where
  /-- A block knows the block that holds it. -/
  inside_of_mem : ∀ {i : Nat} {b : Block} {c : Nat}, t[i]? = some b →
    c ∈ b.content.children → t.Inside c i
  /-- A block is held by the block that it knows, which has a smaller number. -/
  mem_of_inside : ∀ {c p : Nat}, t.Inside c p →
    p < c ∧ ∃ b : Block, t[p]? = some b ∧ c ∈ b.content.children
  /-- A block is held once. -/
  nodup_children : ∀ {i : Nat} {b : Block}, t[i]? = some b → b.content.children.Nodup
  /-- A pass is over all children. -/
  order_perm : ∀ {i : Nat} {b : Block}, t[i]? = some b →
    b.pass.order.Perm (List.range b.content.count)

namespace Sound

theorem inside_of_content (h : t.Sound) {i place c : Nat} {b : Block} {numbers : List Nat}
    (hb : t[i]? = some b) (hcontent : b.content = .blocks numbers)
    (hc : numbers[place]? = some c) : t.Inside c i := by
  refine h.inside_of_mem hb ?_
  rw [hcontent]
  exact List.mem_of_getElem? hc

theorem lt_of_inside (h : t.Sound) {c p : Nat} (hc : t.Inside c p) : p < c := (h.mem_of_inside hc).1

theorem le_of_within (h : t.Sound) {j i : Nat} (hj : t.Within j i) : i ≤ j := by
  induction hj with
  | refl => exact Nat.le_refl _
  | tail _ hp ih => exact Nat.le_trans (Nat.le_of_lt (h.lt_of_inside hp)) ih

theorem not_within_of_inside (h : t.Sound) {c p : Nat} (hc : t.Inside c p) : ¬ t.Within p c :=
  fun hw => Nat.not_lt_of_le (h.le_of_within hw) (h.lt_of_inside hc)

/-- What stands within one of two blocks directly inside a third does not stand within the other. -/
theorem not_within_sibling (h : t.Sound) {c d p j : Nat} (hc : t.Inside c p) (hd : t.Inside d p)
    (hne : c ≠ d) (hj : t.Within j c) : ¬ t.Within j d := by
  -- of two different blocks one of which is within the other, the block around it lies between
  have key : ∀ {c d}, t.Inside c p → t.Inside d p → c ≠ d → ¬ t.Within c d := by
    intro c d hc hd hne hw
    rcases Relation.ReflTransGen.cases_head hw with rfl | ⟨q, hq, hw⟩
    · exact hne rfl
    · rw [hq.unique hc] at hw
      exact h.not_within_of_inside hd hw
  intro hj'
  rcases hj.total hj' with hw | hw
  · exact key hc hd hne hw
  · exact key hd hc hne.symm hw

/-- A child stands at one place. -/
theorem place_eq (h : t.Sound) {i place place' c : Nat} {b : Block} (hb : t[i]? = some b)
    (hc : b.content.children[place]? = some c) (hc' : b.content.children[place']? = some c) :
    place = place' :=
  (List.getElem?_inj (List.getElem?_eq_some_iff.1 hc).1 (h.nodup_children hb)).1
    (hc.trans hc'.symm)

/-- Soundness only asks for unchanged shapes and for passes over all children. -/
theorem of_shapes (h : t.Sound) (hs : t'.shapes = t.shapes)
    (horder : ∀ {i : Nat} {b : Block}, t'[i]? = some b →
      b.pass.order.Perm (List.range b.content.count)) : t'.Sound where
  inside_of_mem := by
    intro i b' c hb' hc
    obtain ⟨b, hb, hshape⟩ := exists_of_shapes hs.symm hb'
    rw [← (Block.shape_inj.1 hshape).2.2] at hc
    exact inside_of_shapes hs (h.inside_of_mem hb hc)
  mem_of_inside := by
    intro c p hc
    obtain ⟨hlt, b, hb, hmem⟩ := h.mem_of_inside (inside_of_shapes hs.symm hc)
    obtain ⟨b', hb', hshape⟩ := exists_of_shapes hs hb
    rw [← (Block.shape_inj.1 hshape).2.2] at hmem
    exact ⟨hlt, b', hb', hmem⟩
  nodup_children := by
    intro i b' hb'
    obtain ⟨b, hb, hshape⟩ := exists_of_shapes hs.symm hb'
    rw [← (Block.shape_inj.1 hshape).2.2]
    exact h.nodup_children hb
  order_perm := horder

theorem put (h : t.Sound) {i : Nat} {b b' : Block} (hb : t[i]? = some b)
    (hs : b'.shape = b.shape) (horder : b'.pass.order.Perm (List.range b.content.count)) :
    (t.put i b').Sound := by
  refine h.of_shapes (shapes_put hb hs) ?_
  intro j d hd
  rcases cases_of_put hb hd with ⟨-, rfl⟩ | ⟨-, hd⟩
  · rwa [(Block.shape_inj.1 hs).2.2]
  · exact h.order_perm hd

/-- A place that has been taken, or is left, is the place of a child. -/
theorem lt_count (h : t.Sound) {i : Nat} {b : Block} (hb : t[i]? = some b) {place : Nat}
    (hp : place ∈ b.pass.order) : place < b.content.count :=
  List.mem_range.1 ((h.order_perm hb).mem_iff.1 hp)

theorem nodup_order (h : t.Sound) {i : Nat} {b : Block} (hb : t[i]? = some b) :
    b.pass.order.Nodup :=
  (h.order_perm hb).nodup_iff.2 List.nodup_range

end Sound

end BlockTable

end Trials
