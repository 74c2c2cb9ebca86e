import Mathlib.Algebra.Order.Ring.GeomSum
import Mathlib.Data.List.Nodup
import Trials.Proofs.Loop
import Trials.Proofs.Experiment.Forest
import Trials.Proofs.Order.Permutation

/-!
# Restarting

`BlockTable.restart` works off a stack of numbers.  In a sound table it comes to an end without a
fault, and it begins exactly those blocks anew that are reached from a number on the stack through
blocks taken in the present passes (`Reached`): each of them once, with all else as it was
(`restart_spec`).  That the blocks on the stack have nothing in common (`Apart`) is kept throughout,
and so no block is begun anew twice.
-/

namespace Trials

namespace Block

variable {b : Block} {window : Nat} {c : Chance}

@[simp] theorem iteration_restart :
    (b.restart window c).1.pass.iteration = b.pass.iteration + 1 := by
  unfold restart
  split
  · rfl
  · dsimp only
    split <;> rfl

@[simp] theorem consumed_restart : (b.restart window c).1.pass.consumed = [] := by
  unfold restart
  split
  · rfl
  · dsimp only
    split <;> rfl

theorem perm_order_restart (h : b.pass.order.Perm (List.range b.content.count)) :
    (b.restart window c).1.pass.order.Perm (List.range b.content.count) := by
  unfold restart
  split
  · exact h
  next pages pseudorandom hb =>
    dsimp only
    split
    next order horder =>
      rw [hb]
      exact Page.perm_of_order horder
    · exact h

end Block

namespace BlockTable

variable {t t' : BlockTable}

/-! ## Blocks that have been taken -/

/-- Block `c` has been taken in the present pass of block `p`. -/
def Taken (t : BlockTable) (p c : Nat) : Prop :=
  ∃ b place, t[p]? = some b ∧ place ∈ b.pass.consumed ∧ b.content.children[place]? = some c

/-- Block `j` is block `i` or has been taken in a block that is reached from it. -/
def Reached (t : BlockTable) : Nat → Nat → Prop := Relation.ReflTransGen t.Taken

theorem Sound.inside_of_taken (h : t.Sound) {p c : Nat} (hc : t.Taken p c) : t.Inside c p := by
  obtain ⟨b, place, hb, -, hchild⟩ := hc
  exact h.inside_of_mem hb (List.mem_of_getElem? hchild)

theorem Sound.within_of_reached (h : t.Sound) {i j : Nat} (hj : t.Reached i j) : t.Within j i := by
  induction hj with
  | refl => exact Relation.ReflTransGen.refl
  | tail _ hc ih => exact Relation.ReflTransGen.head (h.inside_of_taken hc) ih

theorem taken_congr {p c : Nat} (h : t'[p]? = t[p]?) : t'.Taken p c ↔ t.Taken p c := by
  simp only [Taken, h]

/-- What is reached from a block depends on the blocks within it alone. -/
theorem Sound.reached_congr (h : t.Sound) {i : Nat}
    (heq : ∀ j, t.Within j i → t'[j]? = t[j]?) {j : Nat} : t'.Reached i j ↔ t.Reached i j := by
  constructor
  · intro hj
    induction hj with
    | refl => exact Relation.ReflTransGen.refl
    | tail _ hc ih =>
      exact ih.tail ((taken_congr (heq _ (h.within_of_reached ih))).1 hc)
  · intro hj
    induction hj with
    | refl => exact Relation.ReflTransGen.refl
    | tail hm hc ih =>
      exact ih.tail ((taken_congr (heq _ (h.within_of_reached hm))).2 hc)

/-- A change of one block is not noticed from a block that it does not stand within. -/
theorem Sound.reached_put (h : t.Sound) {i k : Nat} (hk : ¬ t.Within i k) (b : Block) {j : Nat} :
    (t.put i b).Reached k j ↔ t.Reached k j := by
  refine h.reached_congr fun m hm => getElem?_put_of_ne ?_
  rintro rfl
  exact hk hm

/-- The numbers of the blocks taken in the pass of a block. -/
def inside (b : Block) : List Nat :=
  b.pass.consumed.filterMap fun place => b.content.children[place]?

theorem mem_inside {i : Nat} {b : Block} (hb : t[i]? = some b) {c : Nat} :
    c ∈ inside b ↔ t.Taken i c := by
  simp only [inside, List.mem_filterMap, Taken, hb, Option.some.injEq]
  constructor
  · rintro ⟨place, hplace, hc⟩
    exact ⟨b, place, rfl, hplace, hc⟩
  · rintro ⟨b', place, rfl, hplace, hc⟩
    exact ⟨place, hplace, hc⟩

theorem mapM_at {α : Type} {l : List α} :
    ∀ {places : List Nat}, (∀ place ∈ places, place < l.length) →
      places.mapM (Course.at l) = pure (places.filterMap fun place => l[place]?)
  | [], _ => rfl
  | place :: rest, h => by
    obtain ⟨hplace, hrest⟩ := List.forall_mem_cons.1 h
    have ha : l[place]? = some l[place] := List.getElem?_eq_getElem hplace
    rw [List.mapM_cons, Course.at_eq_pure ha, pure_bind, mapM_at hrest, pure_bind,
      List.filterMap_cons_some ha]

/-- In a sound table all blocks that have been taken are found. -/
theorem Sound.taken_eq (h : t.Sound) {i : Nat} {b : Block} (hb : t[i]? = some b) :
    taken b = pure (inside b) := by
  have hlt : ∀ place ∈ b.pass.consumed, place < b.content.count := fun place hplace =>
    h.lt_count hb (List.mem_append_left _ hplace)
  unfold taken inside
  split
  next numbers hcontent =>
    rw [hcontent] at hlt ⊢
    exact mapM_at hlt
  next hcontent =>
    simp [hcontent, Content.children]

theorem Sound.nodup_inside (h : t.Sound) {i : Nat} {b : Block} (hb : t[i]? = some b) :
    (inside b).Nodup := by
  refine List.Nodup.filterMap ?_ (List.Nodup.of_append_left (h.nodup_order hb))
  exact fun place place' c hc hc' => h.place_eq hb hc hc'

/-! ## The stack -/

/-- Nothing stands within both of two blocks. -/
def Apart (t : BlockTable) (i k : Nat) : Prop := ∀ j, t.Within j i → ¬ t.Within j k

theorem Apart.symm {i k : Nat} (h : t.Apart i k) : t.Apart k i := fun j hk hi => h j hi hk

theorem apart_congr (h : t'.shapes = t.shapes) {i k : Nat} : t'.Apart i k ↔ t.Apart i k := by
  simp only [Apart, within_congr h]

/-- What a stack weighs: a block weighs more than all blocks directly inside it together. -/
def weight (t : BlockTable) (stack : List Nat) : Nat :=
  (stack.map fun i => 2 ^ (t.size - i)).sum

theorem weight_append (stack rest : List Nat) :
    t.weight (stack ++ rest) = t.weight stack + t.weight rest := by
  simp [weight]

theorem weight_lt {i : Nat} {stack : List Nat} (hnodup : stack.Nodup)
    (h : ∀ c ∈ stack, i < c ∧ c < t.size) : t.weight stack < 2 ^ (t.size - i) := by
  have hmap : (stack.map fun c => t.size - c).Nodup := by
    refine (List.nodup_map_iff_inj_on hnodup).2 fun c hc d hd hcd => ?_
    have := (h c hc).2
    have := (h d hd).2
    omega
  have hsum : t.weight stack = ∑ k ∈ (stack.map fun c => t.size - c).toFinset, 2 ^ k := by
    rw [List.sum_toFinset _ hmap, List.map_map]
    rfl
  rw [hsum]
  refine Nat.geomSum_lt (Nat.le_refl 2) fun k hk => ?_
  obtain ⟨c, hc, rfl⟩ := List.mem_map.1 (List.mem_toFinset.1 hk)
  have := h c hc
  omega

/-- What restarting has done: the blocks of `anew` have begun their next pass, each with some state
of the source of random orders, and all others are as they were. -/
structure Restarted (window : Nat) (t t' : BlockTable) (anew : Nat → Prop) : Prop where
  /-- Nothing but passes has changed. -/
  shapes : t'.shapes = t.shapes
  /-- The blocks of `anew` have been restarted once. -/
  restarted : ∀ {j : Nat} {b : Block}, anew j → t[j]? = some b →
    ∃ c, t'[j]? = some (b.restart window c).1
  /-- All others are as they were. -/
  same : ∀ {j : Nat}, ¬ anew j → t'[j]? = t[j]?

theorem Restarted.sound {window : Nat} {anew : Nat → Prop} (h : Restarted window t t' anew)
    (ht : t.Sound) : t'.Sound := by
  refine ht.of_shapes h.shapes ?_
  intro j d hd
  by_cases hj : anew j
  · obtain ⟨b, hb, -⟩ := exists_of_shapes h.shapes.symm hd
    obtain ⟨c, hc⟩ := h.restarted hj hb
    rw [hd] at hc
    cases hc
    rw [(Block.shape_inj.1 (Block.shape_restart window b c)).2.2]
    exact Block.perm_order_restart (ht.order_perm hb)
  · rw [h.same hj] at hd
    exact ht.order_perm hd

/-- What restarting has done to one block. -/
theorem Restarted.cases {window : Nat} {anew : Nat → Prop} (h : Restarted window t t' anew)
    {j : Nat} {b' : Block} (hb' : t'[j]? = some b') :
    ∃ b, t[j]? = some b ∧ b'.shape = b.shape ∧
      (anew j ∧ b'.pass.iteration = b.pass.iteration + 1 ∧ b'.pass.consumed = [] ∨
        ¬ anew j ∧ b' = b) := by
  obtain ⟨b, hb, hs⟩ := exists_of_shapes h.shapes.symm hb'
  refine ⟨b, hb, hs.symm, ?_⟩
  by_cases hj : anew j
  · obtain ⟨c, hc⟩ := h.restarted hj hb
    rw [hb'] at hc
    cases hc
    exact .inl ⟨hj, Block.iteration_restart, Block.consumed_restart⟩
  · have hsame := h.same hj
    rw [hb, hb'] at hsame
    exact .inr ⟨hj, Option.some.inj hsame⟩

theorem Sound.inside_of_mem_inside (h : t.Sound) {i : Nat} {b : Block} (hb : t[i]? = some b)
    {c : Nat} (hc : c ∈ inside b) : t.Inside c i :=
  h.inside_of_taken ((mem_inside hb).1 hc)

/-- What is reached from a stack is its top block and what is reached from the stack after it. -/
theorem exists_reached_cons {i : Nat} {b : Block} (hb : t[i]? = some b) (rest : List Nat)
    {j : Nat} : (∃ k ∈ i :: rest, t.Reached k j) ↔
      j = i ∨ ∃ k ∈ (inside b).reverse ++ rest, t.Reached k j := by
  constructor
  · rintro ⟨k, hk, hj⟩
    rcases List.mem_cons.1 hk with rfl | hk
    · rcases Relation.ReflTransGen.cases_head hj with rfl | ⟨m, hm, hj⟩
      · exact .inl rfl
      · have hmem := List.mem_reverse.2 ((mem_inside hb).2 hm)
        exact .inr ⟨m, List.mem_append_left _ hmem, hj⟩
    · exact .inr ⟨k, List.mem_append_right _ hk, hj⟩
  · rintro (rfl | ⟨k, hk, hj⟩)
    · exact ⟨j, List.mem_cons_self, Relation.ReflTransGen.refl⟩
    · rcases List.mem_append.1 hk with hk | hk
      · have hc := (mem_inside hb).1 (List.mem_reverse.1 hk)
        exact ⟨i, List.mem_cons_self, Relation.ReflTransGen.head hc hj⟩
      · exact ⟨k, List.mem_cons_of_mem _ hk, hj⟩

/-- Blocks taken in one block and blocks apart from it make a stack again. -/
theorem Sound.pairwise_apart (h : t.Sound) {i : Nat} {b : Block} (hb : t[i]? = some b)
    {rest : List Nat} (hstack : (i :: rest).Pairwise t.Apart) :
    ((inside b).reverse ++ rest).Pairwise t.Apart := by
  obtain ⟨hi, hrest⟩ := List.pairwise_cons.1 hstack
  rw [List.pairwise_append]
  refine ⟨?_, hrest, ?_⟩
  · rw [List.pairwise_reverse]
    refine (h.nodup_inside hb).imp_of_mem fun hc hd hne j => ?_
    exact h.not_within_sibling (h.inside_of_mem_inside hb hd) (h.inside_of_mem_inside hb hc)
      hne.symm
  · intro c hc r hr j hj
    exact hi r hr j (hj.tail (h.inside_of_mem_inside hb (List.mem_reverse.1 hc)))

/-- A block stands within none of those that come after it. -/
theorem Sound.not_within_of_mem_stack (h : t.Sound) {i : Nat} {b : Block} (hb : t[i]? = some b)
    {rest : List Nat} (hstack : (i :: rest).Pairwise t.Apart) :
    ∀ k ∈ (inside b).reverse ++ rest, ¬ t.Within i k := by
  intro k hk
  rcases List.mem_append.1 hk with hk | hk
  · exact h.not_within_of_inside (h.inside_of_mem_inside hb (List.mem_reverse.1 hk))
  · exact (List.pairwise_cons.1 hstack).1 k hk i Relation.ReflTransGen.refl

theorem Sound.lt_size_of_mem_inside (h : t.Sound) {i : Nat} {b : Block} (hb : t[i]? = some b) :
    ∀ c ∈ inside b, c < t.size := by
  intro c hc
  obtain ⟨d, hd, -⟩ := h.inside_of_mem_inside hb hc
  exact lt_size_of_getElem? hd

/-- The stack after a block weighs less than the stack with it. -/
theorem Sound.weight_inside_lt (h : t.Sound) {i : Nat} {b : Block} (hb : t[i]? = some b)
    (rest : List Nat) : t.weight ((inside b).reverse ++ rest) < t.weight (i :: rest) := by
  have hinside : t.weight (inside b).reverse < 2 ^ (t.size - i) := by
    refine weight_lt (List.nodup_reverse.2 (h.nodup_inside hb)) fun c hc => ?_
    have hc := List.mem_reverse.1 hc
    exact ⟨h.lt_of_inside (h.inside_of_mem_inside hb hc), h.lt_size_of_mem_inside hb c hc⟩
  rw [weight_append]
  simp only [weight, List.map_cons, List.sum_cons] at hinside ⊢
  omega

/-- What one iteration does to the block on the top of the stack. -/
theorem Sound.restartTop_eq (h : t.Sound) (window : Nat) {i : Nat} {b : Block} (hb : t[i]? = some b)
    (rest : List Nat) (c : Chance) :
    restartTop window (i :: rest, t, c) = pure (.inl ((inside b).reverse ++ rest,
      t.put i (b.restart window c).1, (b.restart window c).2)) := by
  rw [restartTop, block_eq_pure hb, pure_bind, h.taken_eq hb, pure_bind]

/-- The top block of a stack has been restarted, and then what is reached from the stack after it. -/
theorem Restarted.cons {window i : Nat} {b : Block} {rest : List Nat} {c : Chance} (h : t.Sound)
    (hb : t[i]? = some b) (hstack : (i :: rest).Pairwise t.Apart)
    (hspec : Restarted window (t.put i (b.restart window c).1) t' fun j =>
      ∃ k ∈ (inside b).reverse ++ rest, (t.put i (b.restart window c).1).Reached k j) :
    Restarted window t t' fun j => ∃ k ∈ i :: rest, t.Reached k j := by
  have hout := h.not_within_of_mem_stack hb hstack
  have hrest : ∀ j, (∃ k ∈ (inside b).reverse ++ rest,
      (t.put i (b.restart window c).1).Reached k j) ↔
        ∃ k ∈ (inside b).reverse ++ rest, t.Reached k j := fun j =>
    exists_congr fun k => and_congr_right fun hk => h.reached_put (hout k hk) _
  have hself : ¬ ∃ k ∈ (inside b).reverse ++ rest, t.Reached k i := by
    rintro ⟨k, hk, hj⟩
    exact hout k hk (h.within_of_reached hj)
  refine ⟨hspec.shapes.trans (shapes_put hb (Block.shape_restart window b c)), ?_, ?_⟩
  · intro j d hj hd
    by_cases hji : j = i
    · subst hji
      rw [hb] at hd
      cases hd
      exact ⟨c, (hspec.same (mt (hrest _).1 hself)).trans (getElem?_put_self hb)⟩
    · have hj := ((exists_reached_cons hb rest).1 hj).resolve_left hji
      exact hspec.restarted ((hrest j).2 hj) ((getElem?_put_of_ne (Ne.symm hji)).trans hd)
  · intro j hj
    have hj := mt (exists_reached_cons hb rest).2 hj
    rw [hspec.same fun hj' => hj (.inr ((hrest j).1 hj')),
      getElem?_put_of_ne fun hij => hj (.inl hij.symm)]

/-- Restarting the blocks of a stack in a sound table comes to an end, and begins those anew that
are reached from the stack. -/
theorem restart_spec (window : Nat) (stack : List Nat) (t : BlockTable) (c : Chance) (h : t.Sound)
    (hstack : stack.Pairwise t.Apart) (hlt : ∀ i ∈ stack, i < t.size) :
    ∃ t' c', Course.Ends (restartTop window) (stack, t, c) (t', c') ∧
      Restarted window t t' fun j => ∃ i ∈ stack, t.Reached i j := by
  match stack with
  | [] =>
    refine ⟨t, c, .stop rfl, rfl, ?_, fun _ => rfl⟩
    rintro j b ⟨i, hi, -⟩
    cases hi
  | i :: rest =>
    obtain ⟨hi, hrest⟩ := List.forall_mem_cons.1 hlt
    obtain ⟨b, hb⟩ := exists_of_lt_size hi
    have hshape : (b.restart window c).1.shape = b.shape := Block.shape_restart window b c
    have hsound : (t.put i (b.restart window c).1).Sound :=
      h.put hb hshape (Block.perm_order_restart (h.order_perm hb))
    have hsize : ∀ k ∈ (inside b).reverse ++ rest, k < t.size := by
      intro k hk
      rcases List.mem_append.1 hk with hk | hk
      · exact h.lt_size_of_mem_inside hb k (List.mem_reverse.1 hk)
      · exact hrest k hk
    have hweight := h.weight_inside_lt hb rest
    obtain ⟨t', c', hends, hspec⟩ := restart_spec window ((inside b).reverse ++ rest)
      (t.put i (b.restart window c).1) (b.restart window c).2 hsound
      ((h.pairwise_apart hb hstack).imp fun {k l} => (apart_congr (shapes_put hb hshape)).2)
      (by simpa using hsize)
    exact ⟨t', c', .next (h.restartTop_eq window hb rest c) hends, hspec.cons h hb hstack⟩
termination_by t.weight stack
decreasing_by
  simpa [weight] using hweight

/-- Restarting one block comes to an end, and begins those blocks anew that are reached from it. -/
theorem Sound.restart_spec (h : t.Sound) (window : Nat) {i : Nat} (hi : i < t.size) (c : Chance) :
    ∃ t' c', Course.Ends (restartTop window) ([i], t, c) (t', c') ∧
      Restarted window t t' (t.Reached i) := by
  obtain ⟨t', c', hends, hspec⟩ := BlockTable.restart_spec window [i] t c h
    (List.pairwise_singleton _ _) (by simpa using hi)
  have heq : (fun j => ∃ k ∈ [i], t.Reached k j) = t.Reached i := by
    funext j
    simp
  rw [heq] at hspec
  exact ⟨t', c', hends, hspec⟩

theorem restart_eq_of_ends {window : Nat} {stack : List Nat} {c c' : Chance}
    (h : Course.Ends (restartTop window) (stack, t, c) (t', c')) :
    restart window stack t c = pure (t', c') := by
  have : Nonempty (BlockTable × Chance) := ⟨(t, c)⟩
  exact h.repeatM_eq

end BlockTable

end Trials
