import Trials.Proofs.Experiment.Restart
import Trials.Experiment.Basic

/-!
# Moves

`Moved` lists what a move can be, with all that the move asks for: it is one of seven kinds.  From a
sound experiment (`Experiment.Sound`) there is always a move (`Sound.exists_moved`), so no move of
it breaks off or goes on forever, and it leads to a sound experiment again (`Sound.moved`).

`OnPath` says that the run has come to its position from above: each block around the position has
last taken the block through which the run went down, and the top-level block was the last one to be
entered.  Moves keep this as well (`OnPath.moved`).
-/

namespace Trials

namespace Pass

variable {α : Type} {p q : Pass α} {a : α}

theorem take?_eq_some (h : p.take? = some (a, q)) :
    p.remaining = a :: q.remaining ∧ q.consumed = p.consumed ++ [a] ∧
      q.iteration = p.iteration := by
  unfold take? at h
  split at h
  · cases h
  next rest hp =>
    cases h
    exact ⟨hp, rfl, rfl⟩

theorem take?_eq_none (h : p.take? = none) : p.remaining = [] := by
  unfold take? at h
  split at h
  next hp => exact hp
  · cases h

theorem mem_order_of_take? (h : p.take? = some (a, q)) : a ∈ p.order := by
  rw [order, (take?_eq_some h).1]
  exact List.mem_append_right _ List.mem_cons_self

theorem length_remaining_lt (h : p.take? = some (a, q)) :
    q.remaining.length < p.remaining.length := by
  rw [(take?_eq_some h).1]
  exact Nat.lt_succ_self _

end Pass

namespace Experiment

/-- The blocks form a forest whose roots are the top-level blocks, and the position is a block of
it. -/
structure Sound (e : Experiment) : Prop where
  /-- The blocks form a forest. -/
  table : e.table.Sound
  /-- A top-level block is listed once. -/
  nodup_roots : e.roots.Nodup
  /-- The top-level blocks are those without a block around them. -/
  mem_roots : ∀ {i : Nat}, i ∈ e.roots ↔ ∃ b, e.table[i]? = some b ∧ b.parent = none
  /-- The position is a block. -/
  position_lt : ∀ {i : Nat}, e.position = some i → i < e.table.size

/-- What a move with the given answers can be and what it comes to. -/
inductive Moved (answers : Answers) (e : Experiment) : Motion → Experiment → Prop where
  /-- The next top-level block is entered. -/
  | enter {i : Nat} (hposition : e.position = none) (hroot : e.roots[e.cursor]? = some i) :
    Moved answers e .between { e with cursor := e.cursor + 1, position := some i }
  /-- There is no other top-level block. -/
  | ended (hposition : e.position = none) (hroot : e.roots[e.cursor]? = none) :
    Moved answers e .ended e
  /-- The next block inside is taken. -/
  | descend {i place child : Nat} {b : Block} {pass : Pass Nat} {numbers : List Nat}
    (hposition : e.position = some i) (hb : e.table[i]? = some b)
    (htake : b.pass.take? = some (place, pass))
    (hholds : b.info.runIf.holds answers e.assignment.permutation = true)
    (hcontent : b.content = .blocks numbers) (hchild : numbers[place]? = some child) :
    Moved answers e .between ((e.put i { b with pass }).moveTo (some child))
  /-- The next page is shown. -/
  | display {i place : Nat} {b : Block} {pass : Pass Nat} {pages : List Page} {pseudorandom : Bool}
    {page : Page} (hposition : e.position = some i) (hb : e.table[i]? = some b)
    (htake : b.pass.take? = some (place, pass))
    (hholds : b.info.runIf.holds answers e.assignment.permutation = true)
    (hcontent : b.content = .pages pages pseudorandom) (hpage : pages[place]? = some page) :
    Moved answers e (.shown i place page) (e.put i { b with pass })
  /-- The block may not run and is left. -/
  | skip {i place : Nat} {b : Block} {pass : Pass Nat} (hposition : e.position = some i)
    (hb : e.table[i]? = some b) (htake : b.pass.take? = some (place, pass))
    (hholds : b.info.runIf.holds answers e.assignment.permutation = false) :
    Moved answers e .between (e.moveTo b.parent)
  /-- The block is over and is left. -/
  | leave {i : Nat} {b : Block} (hposition : e.position = some i) (hb : e.table[i]? = some b)
    (htake : b.pass.take? = none)
    (hdecide : b.info.policy.decide b.pass.iteration (answers.history b.info.path) = .stop) :
    Moved answers e .between (e.moveTo b.parent)
  /-- The block begins anew. -/
  | again {i : Nat} {b : Block} {t : BlockTable} {c : Chance} (hposition : e.position = some i)
    (hb : e.table[i]? = some b) (htake : b.pass.take? = none)
    (hdecide : b.info.policy.decide b.pass.iteration (answers.history b.info.path) = .again)
    (hrestart : Course.Ends (BlockTable.restartTop e.window) ([i], e.table, e.chance) (t, c))
    (hspec : e.table.Restarted e.window t (e.table.Reached i)) :
    Moved answers e .between { e with table := t, chance := c }

variable {answers : Answers} {e e' : Experiment} {m : Motion}

theorem Moved.move_eq (h : Moved answers e m e') : e.move answers = pure (m, e') := by
  cases h with
  | enter hposition hroot => simp only [move, hposition, Experiment.enter, hroot]
  | ended hposition hroot => simp only [move, hposition, Experiment.enter, hroot]
  | descend hposition hb htake hholds hcontent hchild =>
    simp only [move, hposition, act, BlockTable.block_eq_pure hb, pure_bind, htake, hholds,
      hcontent, Course.at_eq_pure hchild, if_true]
  | @display i place b pass pages pseudorandom page hposition hb htake hholds hcontent hpage =>
    have hact : e.act answers i = pure (.display place, e.put i { b with pass }) := by
      simp only [act, BlockTable.block_eq_pure hb, pure_bind, htake, hholds, hcontent, if_true]
    have hb' : (e.put i { b with pass }).table[i]? = some { b with pass } :=
      BlockTable.getElem?_put_self hb
    have hlook : (e.put i { b with pass }).page i place = pure page := by
      rw [Experiment.page, BlockTable.block_eq_pure hb', pure_bind]
      simp only [hcontent, Course.at_eq_pure hpage]
    simp only [move, hposition, hact, pure_bind, hlook]
  | skip hposition hb htake hholds =>
    simp only [move, hposition, act, BlockTable.block_eq_pure hb, pure_bind, htake, hholds,
      Bool.false_eq_true, if_false]
  | leave hposition hb htake hdecide =>
    simp only [move, hposition, act, BlockTable.block_eq_pure hb, pure_bind, htake, hdecide]
  | again hposition hb htake hdecide hrestart hspec =>
    simp only [move, hposition, act, BlockTable.block_eq_pure hb, pure_bind, htake, hdecide,
      restart, BlockTable.restart_eq_of_ends hrestart]

/-- A sound experiment has a next move. -/
theorem Sound.exists_moved (h : e.Sound) (answers : Answers) :
    ∃ m e', Moved answers e m e' := by
  cases hposition : e.position with
  | none =>
    cases hroot : e.roots[e.cursor]? with
    | none => exact ⟨_, _, .ended hposition hroot⟩
    | some i => exact ⟨_, _, .enter hposition hroot⟩
  | some i =>
    have hi := h.position_lt hposition
    obtain ⟨b, hb⟩ := BlockTable.exists_of_lt_size hi
    cases htake : b.pass.take? with
    | none =>
      cases hdecide : b.info.policy.decide b.pass.iteration (answers.history b.info.path) with
      | stop => exact ⟨_, _, .leave hposition hb htake hdecide⟩
      | again =>
        obtain ⟨t, c, hrestart, hspec⟩ := h.table.restart_spec e.window hi e.chance
        exact ⟨_, _, .again hposition hb htake hdecide hrestart hspec⟩
    | some taken =>
      obtain ⟨place, pass⟩ := taken
      cases hholds : b.info.runIf.holds answers e.assignment.permutation with
      | false => exact ⟨_, _, .skip hposition hb htake hholds⟩
      | true =>
        have hplace := h.table.lt_count hb (Pass.mem_order_of_take? htake)
        cases hcontent : b.content with
        | blocks numbers =>
          rw [hcontent] at hplace
          have hchild := List.getElem?_eq_getElem hplace
          exact ⟨_, _, .descend hposition hb htake hholds hcontent hchild⟩
        | pages pages pseudorandom =>
          rw [hcontent] at hplace
          have hpage := List.getElem?_eq_getElem hplace
          exact ⟨_, _, .display hposition hb htake hholds hcontent hpage⟩

theorem Sound.moved_of_move (h : e.Sound) (hmove : e.move answers = pure (m, e')) :
    Moved answers e m e' := by
  obtain ⟨m', e'', hmoved⟩ := h.exists_moved answers
  have heq := hmoved.move_eq.symm.trans hmove
  cases heq
  exact hmoved

/-- A page that is shown is the one at the first place left. -/
theorem Moved.shown_cases {i place : Nat} {page : Page}
    (h : Moved answers e (.shown i place page) e') :
    ∃ b pass, e.table[i]? = some b ∧ b.pass.take? = some (place, pass) ∧
      e'.table[i]? = some { b with pass } ∧ b.content.shown[place]? = some page := by
  cases h with
  | display hposition hb htake hholds hcontent hpage =>
    refine ⟨_, _, hb, htake, BlockTable.getElem?_put_self hb, ?_⟩
    rw [hcontent]
    exact hpage

/-! ## Moves keep experiments sound -/

theorem Sound.of_shapes (h : e.Sound) (htable : e'.table.Sound)
    (hshapes : e'.table.shapes = e.table.shapes) (hroots : e'.roots = e.roots)
    (hposition : ∀ {i : Nat}, e'.position = some i → i < e.table.size) : e'.Sound where
  table := htable
  nodup_roots := hroots ▸ h.nodup_roots
  mem_roots := by
    intro i
    rw [hroots, h.mem_roots]
    constructor
    · rintro ⟨b, hb, hp⟩
      obtain ⟨b', hb', hs⟩ := BlockTable.exists_of_shapes hshapes hb
      exact ⟨b', hb', (Block.shape_inj.1 hs).2.1.trans hp⟩
    · rintro ⟨b', hb', hp⟩
      obtain ⟨b, hb, hs⟩ := BlockTable.exists_of_shapes hshapes.symm hb'
      exact ⟨b, hb, (Block.shape_inj.1 hs).2.1.trans hp⟩
  position_lt := by
    intro i hi
    rw [BlockTable.size_of_shapes hshapes]
    exact hposition hi

theorem Sound.lt_size_of_parent (h : e.Sound) {i p : Nat} {b : Block} (hb : e.table[i]? = some b)
    (hp : b.parent = some p) : p < e.table.size :=
  Nat.lt_trans (h.table.lt_of_inside ⟨b, hb, hp⟩) (BlockTable.lt_size_of_getElem? hb)

/-- Taking a child keeps the table sound and the shapes as they are. -/
theorem Sound.put_pass (h : e.Sound) {i place : Nat} {b : Block} {pass : Pass Nat}
    (hb : e.table[i]? = some b) (htake : b.pass.take? = some (place, pass)) :
    (e.table.put i { b with pass }).Sound ∧
      (e.table.put i { b with pass }).shapes = e.table.shapes := by
  refine ⟨h.table.put hb rfl ?_, BlockTable.shapes_put hb rfl⟩
  rw [Pass.order_take? htake]
  exact h.table.order_perm hb

/-- A move changes nothing but passes, and keeps the table sound. -/
theorem Sound.table_moved (h : e.Sound) (hmoved : Moved answers e m e') :
    e'.table.Sound ∧ e'.table.shapes = e.table.shapes := by
  cases hmoved with
  | enter | ended | skip | leave => exact ⟨h.table, rfl⟩
  | descend hposition hb htake hholds hcontent hchild => exact h.put_pass hb htake
  | display hposition hb htake hholds hcontent hpage => exact h.put_pass hb htake
  | again hposition hb htake hdecide hrestart hspec => exact ⟨hspec.sound h.table, hspec.shapes⟩

theorem Sound.shapes_moved (h : e.Sound) (hmoved : Moved answers e m e') :
    e'.table.shapes = e.table.shapes :=
  (h.table_moved hmoved).2

/-- A sound experiment is sound after a move. -/
theorem Sound.moved (h : e.Sound) (hmoved : Moved answers e m e') : e'.Sound := by
  obtain ⟨htable, hshapes⟩ := h.table_moved hmoved
  cases hmoved with
  | enter hposition hroot =>
    refine h.of_shapes htable hshapes rfl fun hi => ?_
    cases hi
    obtain ⟨b, hb, -⟩ := h.mem_roots.1 (List.mem_of_getElem? hroot)
    exact BlockTable.lt_size_of_getElem? hb
  | ended => exact h
  | descend hposition hb htake hholds hcontent hchild =>
    refine h.of_shapes htable hshapes rfl fun hi => ?_
    cases hi
    obtain ⟨d, hd, -⟩ := h.table.inside_of_content hb hcontent hchild
    exact BlockTable.lt_size_of_getElem? hd
  | display hposition hb htake hholds hcontent hpage =>
    exact h.of_shapes htable hshapes rfl h.position_lt
  | skip hposition hb => exact h.of_shapes htable hshapes rfl (h.lt_size_of_parent hb)
  | leave hposition hb => exact h.of_shapes htable hshapes rfl (h.lt_size_of_parent hb)
  | again => exact h.of_shapes htable hshapes rfl h.position_lt

/-! ## The way to the position -/

/-- The run went down to a block from the block around it, or entered it as a top-level block. -/
structure CameTo (e : Experiment) (c : Nat) : Prop where
  /-- The block around it has taken it last. -/
  last_taken : ∀ {p : Nat}, e.table.Inside c p → ∃ b place, e.table[p]? = some b ∧
    b.pass.consumed.getLast? = some place ∧ b.content.children[place]? = some c
  /-- A top-level block was the last one to be entered. -/
  last_entered : ∀ {b : Block}, e.table[c]? = some b → b.parent = none →
    0 < e.cursor ∧ e.roots[e.cursor - 1]? = some c

/-- The run came to its position through all blocks around it. -/
def OnPath (e : Experiment) : Prop :=
  ∀ i, e.position = some i → ∀ c, e.table.Within i c → e.CameTo c

/-- A block was come to as before if the block around it and the entered blocks are as before. -/
theorem CameTo.of_shapes {c : Nat} (h : e.CameTo c) (hshapes : e'.table.shapes = e.table.shapes)
    (haround : ∀ {p : Nat}, e.table.Inside c p → e'.table[p]? = e.table[p]?)
    (hroots : e'.roots = e.roots) (hcursor : e'.cursor = e.cursor) : e'.CameTo c where
  last_taken := by
    intro p hp
    have hp := BlockTable.inside_of_shapes hshapes.symm hp
    rw [haround hp]
    exact h.last_taken hp
  last_entered := by
    intro b' hb' hp
    obtain ⟨b, hb, hs⟩ := BlockTable.exists_of_shapes hshapes.symm hb'
    rw [hroots, hcursor]
    exact h.last_entered hb ((Block.shape_inj.1 hs).2.1.trans hp)

/-- No block around a block of the way is as deep as the position. -/
theorem Sound.not_within_of_around (h : e.Sound) {i c p : Nat} (hc : e.table.Within i c)
    (hp : e.table.Inside c p) : ¬ e.table.Within p i := by
  intro hw
  have := h.table.le_of_within hc
  have := h.table.le_of_within hw
  have := h.table.lt_of_inside hp
  omega

/-- A change within the position alone is not noticed on the way to it. -/
theorem OnPath.of_same (h : e.Sound) (hpath : e.OnPath) (e' : Experiment) {i : Nat}
    (hposition : e.position = some i) (hshapes : e'.table.shapes = e.table.shapes)
    (hsame : ∀ {p : Nat}, ¬ e.table.Within p i → e'.table[p]? = e.table[p]?)
    (hroots : e'.roots = e.roots) (hcursor : e'.cursor = e.cursor) {c : Nat}
    (hc : e.table.Within i c) : e'.CameTo c :=
  (hpath i hposition c hc).of_shapes hshapes (fun hp => hsame (h.not_within_of_around hc hp)) hroots
    hcursor

theorem not_within_self_of_ne {t : BlockTable} {i p : Nat} (h : ¬ t.Within p i) : i ≠ p := by
  rintro rfl
  exact h Relation.ReflTransGen.refl

/-- Nothing stands around a top-level block. -/
theorem Sound.not_inside_of_mem_roots (h : e.Sound) {i p : Nat} (hi : i ∈ e.roots) :
    ¬ e.table.Inside i p := by
  obtain ⟨b, hb, hnone⟩ := h.mem_roots.1 hi
  rintro ⟨b', hb', hp⟩
  rw [hb] at hb'
  cases hb'
  cases hnone.symm.trans hp

/-- A top-level block stands within itself alone. -/
theorem Sound.eq_of_within_root (h : e.Sound) {i j : Nat} (hi : i ∈ e.roots)
    (hw : e.table.Within i j) : j = i := by
  obtain rfl | ⟨p, hp, -⟩ := Relation.ReflTransGen.cases_head hw
  · rfl
  · exact absurd hp (h.not_inside_of_mem_roots hi)

/-- The run comes to a block by taking it. -/
theorem Sound.cameTo_of_take (h : e.Sound) {i place child : Nat} {b : Block} {pass : Pass Nat}
    {numbers : List Nat} (hb : e.table[i]? = some b) (htake : b.pass.take? = some (place, pass))
    (hcontent : b.content = .blocks numbers) (hchild : numbers[place]? = some child) :
    (e.put i { b with pass }).CameTo child := by
  obtain ⟨-, hshapes⟩ := h.put_pass hb htake
  have hinside := h.table.inside_of_content hb hcontent hchild
  constructor
  · intro p hp
    rw [(BlockTable.inside_of_shapes hshapes.symm hp).unique hinside]
    refine ⟨_, place, BlockTable.getElem?_put_self hb, ?_, ?_⟩
    · simp [(Pass.take?_eq_some htake).2.1]
    · simpa [hcontent, Content.children] using hchild
  · intro d hd hnone
    obtain ⟨d', hd', hp⟩ := BlockTable.inside_of_shapes hshapes hinside
    have hd : (e.table.put i { b with pass })[child]? = some d := hd
    rw [hd] at hd'
    cases hd'
    cases hnone.symm.trans hp

/-- The run keeps to the path that it came by. -/
theorem OnPath.moved (h : e.Sound) (hpath : e.OnPath) (hmoved : Moved answers e m e') :
    e'.OnPath := by
  cases hmoved with
  | @enter i hposition hroot =>
    intro j hj c hc
    cases hj
    have hroots : i ∈ e.roots := List.mem_of_getElem? hroot
    obtain rfl := h.eq_of_within_root hroots hc
    exact ⟨fun hq => absurd hq (h.not_inside_of_mem_roots hroots),
      fun _ _ => ⟨Nat.succ_pos _, hroot⟩⟩
  | ended => exact hpath
  | @descend i place child b pass numbers hposition hb htake hholds hcontent hchild =>
    intro j hj c hc
    cases hj
    obtain ⟨-, hshapes⟩ := h.put_pass hb htake
    have hc := (BlockTable.within_congr hshapes).1 hc
    rcases Relation.ReflTransGen.cases_head hc with rfl | ⟨q, hq, hc⟩
    · exact (h.cameTo_of_take hb htake hcontent hchild).of_shapes rfl (fun _ => rfl) rfl rfl
    · rw [hq.unique (h.table.inside_of_content hb hcontent hchild)] at hc
      exact hpath.of_same h ((e.put i { b with pass }).moveTo (some child)) hposition hshapes
        (fun hp => BlockTable.getElem?_put_of_ne (not_within_self_of_ne hp)) rfl rfl hc
  | @display i place b pass pages pseudorandom page hposition hb htake hholds hcontent hpage =>
    intro j hj c hc
    have hj : e.position = some j := hj
    rw [hposition] at hj
    cases hj
    obtain ⟨-, hshapes⟩ := h.put_pass hb htake
    exact hpath.of_same h (e.put i { b with pass }) hposition hshapes
      (fun hp => BlockTable.getElem?_put_of_ne (not_within_self_of_ne hp)) rfl rfl
      ((BlockTable.within_congr hshapes).1 hc)
  | @skip _ _ b _ hposition hb =>
    intro p hp c hc
    exact hpath.of_same h (e.moveTo b.parent) hposition rfl (fun _ => rfl) rfl rfl
      (Relation.ReflTransGen.head ⟨_, hb, hp⟩ hc)
  | @leave _ b hposition hb =>
    intro p hp c hc
    exact hpath.of_same h (e.moveTo b.parent) hposition rfl (fun _ => rfl) rfl rfl
      (Relation.ReflTransGen.head ⟨_, hb, hp⟩ hc)
  | @again i b t k hposition hb htake hdecide hrestart hspec =>
    intro j hj c hc
    have hj : e.position = some j := hj
    rw [hposition] at hj
    cases hj
    exact hpath.of_same h { e with table := t, chance := k } hposition hspec.shapes
      (fun hp => hspec.same fun hr => hp (h.table.within_of_reached hr)) rfl rfl
      ((BlockTable.within_congr hspec.shapes).1 hc)

end Experiment

end Trials
