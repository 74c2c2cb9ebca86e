import Trials.Proofs.Experiment.Reachable
import Trials.Proofs.Order.Separated

/-!
# Pages kept apart

A block whose pages are to be kept apart draws their order when it is built and each time it begins
anew, and it keeps the order it has when no other can be drawn.  So its order is always one that has
been drawn (`Block.KeptApart`), whatever happens to the blocks around it, for taking a child changes
no order at all.

The main result, `separated_of_reachable`, adds what a participant sees of this: pages shown one
after the other in one pass of the block (`Experiment.ShownInTurn`) differ in their conditions.
-/

namespace Trials

/-- Neighbours of a list with an element between what comes before and after it. -/
theorem rel_of_isChain_append {α : Type} {R : α → α → Prop} {a b : α} {init rest : List α}
    (h : (init ++ [a] ++ b :: rest).IsChain R) : R a b := by
  rw [List.isChain_append] at h
  exact h.2.2 a (by simp) b (by simp)

namespace Block

/-- The pages of a block in run order. -/
def pagesInOrder (b : Block) : List Page :=
  b.pass.order.filterMap fun place => b.content.shown[place]?

/-- If its pages are to be kept apart, all of them have conditions, and no two neighbours of the run
order have the same. -/
def KeptApart (b : Block) : Prop :=
  ∀ ⦃pages : List Page⦄, b.content = .pages pages true → none ∉ pages.map (·.condition) ∧
    (b.pass.order.map fun place => (pages.map (·.condition))[place]?).IsChain (· ≠ ·)

variable {b : Block} {window : Nat} {w : Words}

theorem keptApart_of_order {pages : List Page} {pseudorandom : Bool} {order : List Nat}
    (hcontent : b.content = .pages pages pseudorandom)
    (horder : (Page.order pages pseudorandom window w).1 = .ok order)
    (hpass : b.pass.order = order) : b.KeptApart := by
  intro pages' hpages
  rw [hcontent] at hpages
  cases hpages
  have hdrawn : (orderSeparated (pages.map (·.condition)) window w).1 = .ok order := horder
  refine ⟨tagged_of_orderSeparated hdrawn, ?_⟩
  rw [hpass]
  exact noAdjacentRepeats_iff.1 (noAdjacentRepeats_of_orderSeparated hdrawn)

theorem keptApart_of_blocks {numbers : List Nat} (hcontent : b.content = .blocks numbers) :
    b.KeptApart := by
  intro pages hpages
  cases hcontent.symm.trans hpages

theorem KeptApart.congr {b' : Block} (h : b.KeptApart) (hcontent : b'.content = b.content)
    (horder : b'.pass.order = b.pass.order) : b'.KeptApart := by
  intro pages hpages
  rw [horder]
  exact h (hcontent.symm.trans hpages)

theorem KeptApart.restart (h : b.KeptApart) (c : Chance) : (b.restart window c).1.KeptApart := by
  unfold Block.restart
  split
  · exact h.congr rfl (Pass.order_rewind _)
  next pages pseudorandom hb =>
    dsimp only
    split
    next order horder => exact keptApart_of_order hb horder (Pass.order_setOrder _ _)
    · exact h.congr rfl (Pass.order_rewind _)

/-- The places of a block's order stand for pages, so neighbours of the order are pages with
different conditions. -/
theorem KeptApart.isChain (h : b.KeptApart) (hperm : b.pass.order.Perm (List.range b.content.count))
    {pages : List Page} (hb : b.content = .pages pages true) :
    b.pagesInOrder.IsChain fun p q => p.condition ≠ q.condition := by
  have hplaces : ∀ place ∈ b.pass.order, ∃ page, pages[place]? = some page := by
    intro place hplace
    rw [hb] at hperm
    exact ⟨_, List.getElem?_eq_getElem (List.mem_range.1 (hperm.mem_iff.1 hplace))⟩
  have hmap : (b.pass.order.map fun place => (pages.map (·.condition))[place]?) =
      b.pagesInOrder.map fun p => some p.condition := by
    calc (b.pass.order.map fun place => (pages.map (·.condition))[place]?)
        = (b.pass.order.map fun place => pages[place]?).map (Option.map (·.condition)) := by
          simp
      _ = (b.pagesInOrder.map some).map (Option.map (·.condition)) := by
          rw [pagesInOrder, hb, Content.shown, map_some_filterMap hplaces]
      _ = b.pagesInOrder.map fun p => some p.condition := by simp
  have hchain := (h hb).2
  rw [hmap, List.isChain_map] at hchain
  exact hchain.imp fun p q hne heq => hne (congrArg some heq)

end Block

namespace BlockTable

variable {t t' : BlockTable}

/-- In all blocks of a table the pages are kept apart that are to be. -/
def KeptApart (t : BlockTable) : Prop := ∀ ⦃i : Nat⦄ ⦃b : Block⦄, t[i]? = some b → b.KeptApart

theorem KeptApart.push (h : t.KeptApart) {b : Block} (hb : b.KeptApart) :
    KeptApart (t.push b) := by
  intro i d hd
  rw [Array.getElem?_push] at hd
  split at hd
  · cases hd
    exact hb
  · exact h hd

theorem KeptApart.put (h : t.KeptApart) {i : Nat} {b : Block} (hb : b.KeptApart) :
    (t.put i b).KeptApart := by
  intro j d hd
  by_cases hij : i = j
  · subst hij
    have hlt := lt_size_of_getElem? hd
    rw [size_put] at hlt
    rw [getElem?_put_self (Array.getElem?_eq_getElem hlt)] at hd
    cases hd
    exact hb
  · rw [getElem?_put_of_ne hij] at hd
    exact h hd

theorem KeptApart.restart (h : t.KeptApart) {window : Nat} {anew : Nat → Prop}
    (hspec : Restarted window t t' anew) : t'.KeptApart := by
  intro i b' hb'
  by_cases hi : anew i
  · obtain ⟨b, hb, -⟩ := exists_of_shapes hspec.shapes.symm hb'
    obtain ⟨c, hc⟩ := hspec.restarted hi hb
    rw [hb'] at hc
    cases hc
    exact (h hb).restart c
  · rw [hspec.same hi] at hb'
    exact h hb'

end BlockTable

namespace Experiment

open BlockTable

variable {s : Script} {o : BuildOptions}

/-! ## Building -/

theorem keptApart_of_buildLeaf {info : BlockInfo} {parent : Option Nat} {pseudorandom : Bool}
    {decls : List PageDecl} {t t' : BlockTable} {w w' : Words} {number : Nat} (ht : t.KeptApart)
    (h : buildLeaf o info parent pseudorandom decls t w = .ok (number, t', w')) :
    t'.KeptApart := by
  unfold buildLeaf at h
  dsimp only at h
  split at h
  next order horder =>
    cases h
    exact ht.push (Block.keptApart_of_order rfl horder rfl)
  · cases h

mutual

theorem keptApart_of_buildBlock {parent : Option Nat} {path : Path} :
    ∀ {d : BlockDecl} {t t' : BlockTable} {w w' : Words} {number : Nat}, t.KeptApart →
      buildBlock s o parent path d t w = .ok (number, t', w') → t'.KeptApart
  | { toBlockHead := head, blocks := none }, t, t', w, w', number, ht, h => by
    rw [buildBlock] at h
    obtain ⟨info, -, h⟩ := exists_of_bind_eq_ok h
    dsimp only at h
    split at h
    · exact keptApart_of_buildLeaf ht h
    · obtain ⟨⟨pages, w⟩, -, h⟩ := exists_of_bind_eq_ok h
      exact keptApart_of_buildLeaf ht h
    · cases h
  | { toBlockHead := head, blocks := some blocks }, t, t', w, w', number, ht, h => by
    rw [buildBlock] at h
    obtain ⟨info, -, h⟩ := exists_of_bind_eq_ok h
    dsimp only at h
    split at h
    · cases h
    · obtain ⟨⟨numbers, filled, w⟩, hfilled, h⟩ := exists_of_bind_eq_ok h
      obtain ⟨⟨order, w⟩, -, h⟩ := exists_of_bind_eq_ok h
      cases h
      have hinside := keptApart_of_buildBlocks (ht.push (Block.keptApart_of_blocks rfl)) hfilled
      exact hinside.put (Block.keptApart_of_blocks rfl)

theorem keptApart_of_buildBlocks {parent : Option Nat} {path : Path} :
    ∀ {decls : List BlockDecl} {t t' : BlockTable} {w w' : Words} {numbers : List Nat},
      t.KeptApart → buildBlocks s o parent path decls t w = .ok (numbers, t', w') → t'.KeptApart
  | [], t, t', w, w', numbers, ht, h => by
    rw [buildBlocks] at h
    cases h
    exact ht
  | d :: rest, t, t', w, w', numbers, ht, h => by
    rw [buildBlocks] at h
    obtain ⟨⟨number, t, w⟩, hfirst, h⟩ := exists_of_bind_eq_ok h
    obtain ⟨⟨numbers, t, w⟩, hothers, h⟩ := exists_of_bind_eq_ok h
    cases h
    exact keptApart_of_buildBlocks (keptApart_of_buildBlock ht hfirst) hothers

end

theorem keptApart_of_build {e : Experiment} {w : Words} (h : build s o w = .ok e) :
    e.table.KeptApart := by
  obtain ⟨-, numbers, order, w', w'', hbuilt, -⟩ := exists_of_build h
  refine keptApart_of_buildBlocks (fun i b hb => ?_) hbuilt
  simp at hb

/-! ## Moves -/

variable {start e e' : Experiment} {seen : List (Nat × Nat)} {m : Motion} {answers : Answers}

theorem keptApart_moved (h : e.table.KeptApart) (hmoved : Moved answers e m e') :
    e'.table.KeptApart := by
  cases hmoved with
  | enter | ended | skip | leave => exact h
  | descend hposition hb htake => exact h.put ((h hb).congr rfl (Pass.order_take? htake))
  | display hposition hb htake => exact h.put ((h hb).congr rfl (Pass.order_take? htake))
  | again hposition hb htake hdecide hrestart hspec => exact h.restart hspec

theorem Reaches.keptApart (h : Reaches start seen e) (hstart : start.Sound)
    (hkept : start.table.KeptApart) : e.table.KeptApart :=
  h.invariant (P := fun _ e => e.table.KeptApart) hstart hkept
    (fun _ ih hmoved => keptApart_moved ih hmoved) id

/-! ## Pages shown one after the other -/

/-- While no page of a block of pages is shown, the block stays as it is until it begins anew. -/
theorem Reaches.eq_or_later (h : Reaches e seen e') (he : e.Sound) {i : Nat} {b : Block}
    (hb : e.table[i]? = some b) {pages : List Page} {pseudorandom : Bool}
    (hcontent : b.content = .pages pages pseudorandom) (hothers : ∀ d ∈ seen, d.1 ≠ i) :
    ∃ b', e'.table[i]? = some b' ∧ b'.content = b.content ∧
      (b' = b ∨ b.pass.iteration < b'.pass.iteration) := by
  refine h.invariant (P := fun seen e' => (∀ d ∈ seen, d.1 ≠ i) → ∃ b', e'.table[i]? = some b' ∧
    b'.content = b.content ∧ (b' = b ∨ b.pass.iteration < b'.pass.iteration)) he
    (fun _ => ⟨b, hb, rfl, .inl rfl⟩) ?_ id hothers
  intro seen e₁ m e₂ answers hsound ih hmoved hothers
  obtain ⟨d, hd, hsame, hlater⟩ := ih fun x hx => hothers x (List.mem_append_left _ hx)
  cases hmoved with
  | enter | ended | skip | leave => exact ⟨d, hd, hsame, hlater⟩
  | @descend k _ _ b' _ _ hposition hb' htake hholds hblocks =>
    have hne : k ≠ i := by
      rintro rfl
      rw [hb'] at hd
      cases hd
      cases (hblocks.symm.trans hsame).trans hcontent
    exact ⟨d, (getElem?_put_of_ne hne).trans hd, hsame, hlater⟩
  | @display k place _ _ _ _ _ hposition hb' htake =>
    have hne : k ≠ i := hothers (k, place) (List.mem_append_right _ (List.mem_singleton.2 rfl))
    exact ⟨d, (getElem?_put_of_ne hne).trans hd, hsame, hlater⟩
  | @again k _ t c hposition hb' htake hdecide hrestart hspec =>
    by_cases hi : e₁.table.Reached k i
    · obtain ⟨c', hd'⟩ := hspec.restarted hi hd
      have hshape := Block.shape_inj.1 (Block.shape_restart e₁.window d c')
      refine ⟨_, hd', hshape.2.2.trans hsame, .inr ?_⟩
      rw [Block.iteration_restart]
      rcases hlater with rfl | hlt <;> omega
    · exact ⟨d, (hspec.same hi).trans hd, hsame, hlater⟩

/-- From an experiment on, two pages of a block are shown one after the other in one pass. -/
inductive ShownInTurn (e : Experiment) (i : Nat) : Page → Page → Prop where
  | intro {answers answers' : Answers} {e₁ e₂ e₃ : Experiment} {place place' : Nat}
    {page page' : Page} {seen : List (Nat × Nat)} {b b' : Block}
    (first : e.move answers = pure (.shown i place page, e₁)) (between : Reaches e₁ seen e₂)
    (others : ∀ d ∈ seen, d.1 ≠ i) (second : e₂.move answers' = pure (.shown i place' page', e₃))
    (hb : e₁.table[i]? = some b) (hb' : e₂.table[i]? = some b')
    (samePass : b'.pass.iteration = b.pass.iteration) : ShownInTurn e i page page'

/-- Pages shown in turn are neighbours of the run order. -/
theorem ShownInTurn.condition_ne {i : Nat} {page page' : Page} (h : e.ShownInTurn i page page')
    (he : e.Sound) {b : Block} (hb : e.table[i]? = some b) {pages : List Page}
    (hcontent : b.content = .pages pages true) (hkept : b.KeptApart) :
    page.condition ≠ page'.condition := by
  cases h with
  | @intro _ _ e₁ e₂ _ place place' _ _ _ d d' first between others second hd hd' samePass =>
    have hmoved := he.moved_of_move first
    have he₁ := he.moved hmoved
    obtain ⟨b₁, pass, hb₁, htake, htaken, hpage⟩ := hmoved.shown_cases
    obtain rfl : b = b₁ := Option.some.inj (hb.symm.trans hb₁)
    obtain rfl : _ = d := Option.some.inj (htaken.symm.trans hd)
    obtain ⟨d₁, hd₁, -, hlater⟩ := between.eq_or_later he₁ hd hcontent others
    obtain rfl : d' = d₁ := Option.some.inj (hd'.symm.trans hd₁)
    obtain rfl := hlater.resolve_right (Nat.not_lt_of_le (Nat.le_of_eq samePass))
    obtain ⟨d₂, pass', hd₂, htake', -, hpage'⟩ :=
      ((between.sound he₁).moved_of_move second).shown_cases
    obtain rfl : _ = d₂ := Option.some.inj (hd'.symm.trans hd₂)
    -- the first page has been taken last, and the second one is the next that is left
    have horder : b.pass.order = b.pass.consumed ++ [place] ++ place' :: pass'.remaining := by
      rw [← Pass.order_take? htake, Pass.order, (Pass.take?_eq_some htake).2.1,
        (Pass.take?_eq_some htake').1]
    have hchain := (hkept hcontent).2
    rw [List.isChain_map, horder] at hchain
    have hne := rel_of_isChain_append hchain
    simp only [hcontent, Content.shown] at hpage hpage'
    simpa [hpage, hpage'] using hne

/-- In every reachable experiment the pages of a block that are to be kept apart stand in an order
in which no two neighbours have the same condition, and so none that are shown one after the other
in one pass have. -/
theorem separated_of_reachable {w : Words} (hbuild : build s o w = .ok start)
    (hreach : Reachable start e) {i : Nat} {b : Block} (hb : e.table[i]? = some b)
    {pages : List Page} (hcontent : b.content = .pages pages true) :
    b.pagesInOrder.Perm pages ∧ (∀ page ∈ pages, page.condition ≠ none) ∧
      (b.pagesInOrder.IsChain fun p q => p.condition ≠ q.condition) ∧
      ∀ {page page' : Page}, e.ShownInTurn i page page' → page.condition ≠ page'.condition := by
  have hready := ready_of_build hbuild
  have hsound := hreach.sound hready.sound
  obtain ⟨seen, hreach⟩ := hreach
  have hkept := hreach.keptApart hready.sound (keptApart_of_build hbuild) hb
  have hperm := hsound.table.order_perm hb
  refine ⟨?_, ?_, hkept.isChain hperm hcontent, ?_⟩
  · rw [hcontent] at hperm
    rw [Block.pagesInOrder, hcontent]
    exact filterMap_getElem?_perm hperm
  · intro page hpage hnone
    exact (hkept hcontent).1 (List.mem_map.2 ⟨page, hpage, hnone⟩)
  · exact fun hturn => hturn.condition_ne hsound hb hcontent hkept

/-- The experiment that is built from the paired groups when all random words are zero. -/
def pairedStart : Experiment where
  assignment := {}
  window := defaultWindow
  table := #[
    { info := { id := "test", path := ⟨["test"]⟩, runIf := .always, policy := {} }
      parent := none
      content := .pages [
        { id := "p1", path := ⟨["test", "p1"]⟩, condition := some (.number 1), content := [] },
        { id := "q2", path := ⟨["test", "q2"]⟩, condition := some (.number 2), content := [] }] true
      pass := .start [1, 0] }]
  roots := [0]
  chance := { words := { word := fun _ => 0, drawn := 1 } }

theorem build_paired : build paired {} { word := fun _ => 0 } = .ok pairedStart := by
  have horder : orderSeparated [some (Condition.number 1), some (.number 2)] defaultWindow
      { word := fun _ => 0 } = (.ok [1, 0], { word := fun _ => 0, drawn := 1 }) :=
    orderSeparated_of_isChain (by decide) _ (by decide)
  have hpages : Page.order ([testPage "p1" 1, testPage "q2" 2].map (Page.ofDecl ⟨["test"]⟩)) true
      defaultWindow { word := fun _ => 0 } = (.ok [1, 0], { word := fun _ => 0, drawn := 1 }) :=
    horder
  have hblock : buildBlock paired {} none .root (testBlock 1 2) #[] { word := fun _ => 0 } =
      .ok (0, pairedStart.table, { word := fun _ => 0, drawn := 1 }) := by
    show buildLeaf {} { id := "test", path := ⟨["test"]⟩, runIf := .always, policy := {} } none
      true [testPage "p1" 1, testPage "q2" 2] #[] _ = _
    rw [buildLeaf, hpages]
    rfl
  have hblocks : buildBlocks paired {} none .root [testBlock 1 2] #[] { word := fun _ => 0 } =
      .ok ([0], pairedStart.table, { word := fun _ => 0, drawn := 1 }) := by
    rw [buildBlocks, hblock]
    rfl
  rw [build_eq (by decide) rfl, show paired.blocks = [testBlock 1 2] from rfl, hblocks]
  rfl

/-- In the paired block the two pages are shown in turn. -/
theorem paired_shown_in_turn :
    ∃ e b pages page page', build paired {} { word := fun _ => 0 } = .ok pairedStart ∧
      Reachable pairedStart e ∧ e.table[0]? = some b ∧ b.content = .pages pages true ∧
      e.ShownInTurn 0 page page' ∧ page.condition ≠ page'.condition := by
  obtain ⟨e, e₁, e₂, place, place', page, page', b, b₁, pages, henter, hfirst, hsecond, hb,
      hcontent, hb₁⟩ :
      ∃ e e₁ e₂ place place' page page' b b₁ pages,
        pairedStart.move (gradedAnswers true) = pure (.between, e) ∧
        e.move (gradedAnswers true) = pure (.shown 0 place page, e₁) ∧
        e₁.move (gradedAnswers true) = pure (.shown 0 place' page', e₂) ∧
        e.table[0]? = some b ∧ b.content = .pages pages true ∧ e₁.table[0]? = some b₁ :=
    ⟨_, _, _, _, _, _, _, _, _, _, rfl, rfl, rfl, rfl, rfl, rfl⟩
  have hreach : Reachable pairedStart e := ⟨_, .move _ .start henter⟩
  have hturn : e.ShownInTurn 0 page page' := .intro hfirst .start nofun hsecond hb₁ hb₁ rfl
  exact ⟨e, b, pages, page, page', build_paired, hreach, hb, hcontent, hturn,
    (separated_of_reachable build_paired hreach hb hcontent).2.2.2 hturn⟩

end Experiment

end Trials
