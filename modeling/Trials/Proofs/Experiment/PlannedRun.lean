import Trials.Proofs.Experiment.Declarations
import Trials.Proofs.Experiment.Plan

/-!
# Runs that follow the plan

Where every block may run, and runs once, a run shows the pages of the plan, in its order and
whatever is answered.  What a block still shows is what is planned for the children that it has not
taken, provided that nothing has been taken within these (`BlockTable.Ahead`); running one of them
leaves the others, and all arrangements, as they are (`Scene.Follows`).
-/

namespace Trials

/-- The declared block runs whenever its turn comes, and once. -/
def BlockHead.RunsOnce (h : BlockHead) : Prop :=
  h.runIf = none ∧ (h.cutoff = 1 ∨ ∀ criterion ∈ h.criterion, ¬ Binary64.zero.lt criterion)

/-- The block may run and is over after this pass, whatever is answered. -/
structure Block.RunsOnce (b : Block) : Prop where
  holds : ∀ answers permutation, b.info.runIf.holds answers permutation = true
  stop : ∀ history, b.info.policy.decide b.pass.iteration history = .stop

theorem Block.RunsOnce.of_arrangement {b b' : Block} (h : b.RunsOnce)
    (hsame : b'.arrangement = b.arrangement) : b'.RunsOnce := by
  obtain ⟨hshape, hiteration, -⟩ := Block.arrangement_inj.1 hsame
  have hinfo := (Block.shape_inj.1 hshape).1
  constructor
  · rw [hinfo]
    exact h.holds
  · rw [hinfo, hiteration]
    exact h.stop

theorem Block.arrangement_of_take? {b : Block} {pass : Pass Nat} {place : Nat}
    (h : b.pass.take? = some (place, pass)) :
    ({ b with pass } : Block).arrangement = b.arrangement :=
  Block.arrangement_inj.2 ⟨rfl, (Pass.take?_eq_some h).2.2, Pass.order_take? h⟩

namespace BlockTable

variable {t t' : BlockTable} {i c : Nat} {b : Block}

/-- Nothing has been taken within a block. -/
def Unbegun (t : BlockTable) (i : Nat) : Prop :=
  ∀ (j : Nat) (b : Block), t.Within j i → t[j]? = some b → b.pass.consumed = []

/-- Nothing has been taken within the children that are left to a block. -/
def Ahead (t : BlockTable) (b : Block) : Prop :=
  ∀ place ∈ b.pass.remaining, ∀ c, b.content.children[place]? = some c → t.Unbegun c

theorem Unbegun.congr (h : t.Unbegun i) (hshapes : t'.shapes = t.shapes)
    (hsame : ∀ j, t.Within j i → t'[j]? = t[j]?) : t'.Unbegun i := by
  intro j b hj hb
  rw [within_congr hshapes] at hj
  exact h j b hj ((hsame j hj).symm.trans hb)

theorem Unbegun.ahead (h : t.Unbegun i) (hsound : t.Sound) (hb : t[i]? = some b) : t.Ahead b := by
  intro place _ c hc j d hj hd
  exact h j d (hj.tail (hsound.inside_of_mem hb (List.mem_of_getElem? hc))) hd

theorem Unbegun.remaining_eq (h : t.Unbegun i) (hb : t[i]? = some b) :
    b.pass.remaining = b.pass.order := by
  rw [Pass.order, h i b .refl hb, List.nil_append]

theorem Unbegun.put (h : t.Unbegun c) (hsound : t.Sound) (hb : t[i]? = some b)
    {b' : Block} (hsame : b'.arrangement = b.arrangement) (hinside : t.Inside c i) :
    (t.put i b').Unbegun c := by
  refine h.congr (shapes_put hb (Block.arrangement_inj.1 hsame).1) fun j hj => ?_
  refine getElem?_put_of_ne ?_
  rintro rfl
  exact hsound.not_within_of_inside hinside hj

theorem Ahead.take (h : t.Ahead b) (hsound : t.Sound) (hb : t[i]? = some b) {pass : Pass Nat}
    {place : Nat} (htake : b.pass.take? = some (place, pass)) :
    (t.put i { b with pass }).Ahead { b with pass } := by
  intro place' hplace' c hc
  have hmem : place' ∈ b.pass.remaining := by
    rw [(Pass.take?_eq_some htake).1]
    exact List.mem_cons_of_mem _ hplace'
  exact (h place' hmem c hc).put hsound hb (Block.arrangement_of_take? htake)
    (hsound.inside_of_mem hb (List.mem_of_getElem? hc))

end BlockTable

open BlockTable

namespace Scene

variable {σ : Type} {i place c : Nat} {s s' : Scene σ} {b : Block} {pass : Pass Nat}

/-- Every block may run once. -/
def RunsOnce (s : Scene σ) : Prop := ∀ (j : Nat) (b : Block), s.table[j]? = some b → b.RunsOnce

theorem RunsOnce.of_arrangements (honce : s.RunsOnce)
    (h : s'.table.arrangements = s.table.arrangements) : s'.RunsOnce := by
  intro j b' hb'
  obtain ⟨b, hb, hsame⟩ := exists_of_map h.symm hb'
  exact (honce j b hb).of_arrangement hsame.symm

/-- A block may go on, with what is left to it still untouched. -/
structure Poised (s : Scene σ) (i : Nat) (b : Block) : Prop where
  sound : s.table.Sound
  once : s.RunsOnce
  block : s.table[i]? = some b
  ahead : s.table.Ahead b

theorem Poised.take (h : Poised s i b) (htake : b.pass.take? = some (place, pass)) :
    Poised (s.take i b pass) i { b with pass } := by
  have harranged : (s.take i b pass).table.arrangements = s.table.arrangements :=
    arrangements_put h.block (Block.arrangement_of_take? htake)
  exact ⟨h.sound.of_arrangements harranged, h.once.of_arrangements harranged,
    getElem?_put_self h.block, h.ahead.take h.sound h.block htake⟩

theorem Poised.notMem_of_take (h : Poised s i b) (htake : b.pass.take? = some (place, pass)) :
    place ∉ pass.remaining := by
  have hnodup := h.sound.nodup_order h.block
  rw [Pass.order, (Pass.take?_eq_some htake).1] at hnodup
  exact (List.nodup_cons.1 (List.nodup_append.1 hnodup).2.1).1

/-- A child that is taken has not been touched. -/
theorem Poised.unbegun_of_take (h : Poised s i b) (htake : b.pass.take? = some (place, pass))
    (hc : b.content.children[place]? = some c) : (s.take i b pass).table.Unbegun c := by
  have hmem : place ∈ b.pass.remaining := by
    rw [(Pass.take?_eq_some htake).1]
    exact List.mem_cons_self
  exact (h.ahead place hmem c hc).put h.sound h.block (Block.arrangement_of_take? htake)
    (h.sound.inside_of_mem h.block (List.mem_of_getElem? hc))

end Scene

/-! ## Runs -/

variable {σ : Type} [OutcomeStore σ] {responses : Nat → Response}

/-- A store with responses recorded to some pages, to the first of them the `n`-th one. -/
def recordAll (responses : Nat → Response) (n : Nat) (store : σ) : List Page → σ
  | [] => store
  | page :: rest =>
    recordAll responses (n + 1) (OutcomeStore.record store page.path (responses n)) rest

theorem recordAll_append (pages pages' : List Page) (n : Nat) (store : σ) :
    recordAll responses n store (pages ++ pages') =
      recordAll responses (n + pages.length) (recordAll responses n store pages) pages' := by
  induction pages generalizing n store with
  | nil => rfl
  | cons page pages ih =>
    rw [List.cons_append, recordAll, ih, recordAll, List.length_cons, Nat.add_assoc, Nat.add_comm 1]

namespace Scene

variable {i place c : Nat} {s s' s'' : Scene σ} {b : Block} {pass : Pass Nat}
  {pages pages' : List Page}

/-- A run shows some pages and records the responses to them, changes blocks within one only, and
begins none anew. -/
structure Follows (responses : Nat → Response) (i : Nat) (s s' : Scene σ) (pages : List Page) :
    Prop where
  shown : s'.displays.map (·.page) = s.displays.map (·.page) ++ pages
  stored : s'.store = recordAll responses s.displays.length s.store pages
  arranged : s'.table.arrangements = s.table.arrangements
  same : ∀ j, ¬ s.table.Within j i → s'.table[j]? = s.table[j]?

namespace Follows

theorem refl (i : Nat) (s : Scene σ) : Follows responses i s s [] where
  shown := (List.append_nil _).symm
  stored := rfl
  arranged := rfl
  same := fun _ _ => rfl

theorem length_displays (h : Follows responses i s s' pages) :
    s'.displays.length = s.displays.length + pages.length := by
  have hlength := congrArg List.length h.shown
  rwa [List.length_map, List.length_append, List.length_map] at hlength

theorem trans (h : Follows responses i s s' pages) (h' : Follows responses i s' s'' pages') :
    Follows responses i s s'' (pages ++ pages') where
  shown := by rw [h'.shown, h.shown, List.append_assoc]
  stored := by rw [h'.stored, h.length_displays, h.stored, recordAll_append]
  arranged := h'.arranged.trans h.arranged
  same := by
    intro j hj
    rw [h'.same j (mt (within_congr (shapes_of_arrangements h.arranged)).1 hj), h.same j hj]

theorem take (responses : Nat → Response) (s : Scene σ) (hb : s.table[i]? = some b)
    (htake : b.pass.take? = some (place, pass)) :
    Follows responses i s (s.take i b pass) [] where
  shown := (List.append_nil _).symm
  stored := rfl
  arranged := arrangements_put hb (Block.arrangement_of_take? htake)
  same := by
    intro j hj
    refine getElem?_put_of_ne ?_
    rintro rfl
    exact hj .refl

theorem display (responses : Nat → Response) (i : Nat) (s : Scene σ) (page : Page) :
    Follows responses i s (s.display responses page) [page] where
  shown := List.map_append
  stored := rfl
  arranged := rfl
  same := fun _ _ => rfl

theorem of_inside (h : Follows responses c s s' pages) (hinside : s.table.Inside c i) :
    Follows responses i s s' pages where
  shown := h.shown
  stored := h.stored
  arranged := h.arranged
  same := fun j hj => h.same j fun hw => hj (hw.tail hinside)

end Follows

/-- When a child that is no longer left has been run, the block goes on as it was. -/
theorem Poised.follows (h : Poised s i b) (hc : b.content.children[place]? = some c)
    (hplace : place ∉ b.pass.remaining) (hinner : Follows responses c s s' pages) :
    Poised s' i b where
  sound := h.sound.of_arrangements hinner.arranged
  once := h.once.of_arrangements hinner.arranged
  block := by
    have hinside := h.sound.inside_of_mem h.block (List.mem_of_getElem? hc)
    rw [hinner.same i (h.sound.not_within_of_inside hinside), h.block]
  ahead := by
    intro place' hplace' d hd
    have hne : d ≠ c := by
      rintro rfl
      exact hplace (h.sound.place_eq h.block hc hd ▸ hplace')
    have hinside := h.sound.inside_of_mem h.block (List.mem_of_getElem? hc)
    have hinside' := h.sound.inside_of_mem h.block (List.mem_of_getElem? hd)
    have hshapes := shapes_of_arrangements hinner.arranged
    refine (h.ahead place' hplace' d hd).congr hshapes fun j hj => hinner.same j ?_
    exact h.sound.not_within_sibling hinside' hinside hne hj

variable {permutation : UInt32} {window : Nat}

/-- Running a block that may run once shows what is planned for the children that are left. -/
theorem Runs.follows (h : Runs permutation window responses i s s') (hpoised : Poised s i b) :
    Follows responses i s s'
      (b.pass.remaining.flatMap (b.content.pagesAt s.table.pagesFrom)) := by
  induction h generalizing b with
  | skip hd _ hholds =>
    cases hpoised.block.symm.trans hd
    rw [(hpoised.once _ _ hd).holds] at hholds
    cases hholds
  | again hd _ hdecide =>
    cases hpoised.block.symm.trans hd
    rw [(hpoised.once _ _ hd).stop] at hdecide
    cases hdecide
  | @stop i s d hd htake =>
    cases hpoised.block.symm.trans hd
    rw [Pass.take?_eq_none htake]
    exact .refl i s
  | @page i place s s' d pass list pseudorandom page hd htake hholds hcontent hpage hrest ih =>
    obtain rfl : b = d := Option.some.inj (hpoised.block.symm.trans hd)
    obtain ⟨hsound, honce, hb, hahead⟩ := hpoised.take htake
    have houter := ih ⟨hsound, honce, hb, hahead⟩
    have htaken := (Follows.take responses s hd htake).trans (.display responses i _ page)
    rw [pagesFrom_congr htaken.arranged] at houter
    have hpages : b.content.pagesAt s.table.pagesFrom place = [page] := by
      rw [hcontent, Content.pagesAt, hpage]
      rfl
    rw [(Pass.take?_eq_some htake).1, List.flatMap_cons, hpages]
    exact htaken.trans houter
  | @child i place c s s' s'' d pass numbers hd htake hholds hcontent hchild hrun hrest ihrun
      ihrest =>
    obtain rfl : b = d := Option.some.inj (hpoised.block.symm.trans hd)
    have hc : b.content.children[place]? = some c := by rwa [hcontent]
    have htaken := Follows.take responses s hd htake
    have hpoised₁ := hpoised.take htake
    have hunbegun := hpoised.unbegun_of_take htake hc
    have hinside := hpoised₁.sound.inside_of_mem hpoised₁.block (List.mem_of_getElem? hc)
    obtain ⟨d, hd₁⟩ := exists_of_lt_size hinside.lt_size
    -- nothing has been taken within the child, so it shows all that is planned for it
    have hinner := ihrun ⟨hpoised₁.sound, hpoised₁.once, hd₁, hunbegun.ahead hpoised₁.sound hd₁⟩
    rw [hunbegun.remaining_eq hd₁, ← hpoised₁.sound.pagesFrom_eq hd₁,
      pagesFrom_congr htaken.arranged] at hinner
    -- and the block finds its own pass, and its other children, as they were
    have hafter := htaken.trans (hinner.of_inside hinside)
    have houter := ihrest (hpoised₁.follows hc (hpoised.notMem_of_take htake) hinner)
    rw [pagesFrom_congr hafter.arranged] at houter
    have hpages : b.content.pagesAt s.table.pagesFrom place = s.table.pagesFrom c := by
      rw [hcontent, Content.pagesAt, hchild]
      rfl
    rw [(Pass.take?_eq_some htake).1, List.flatMap_cons, hpages]
    exact hafter.trans houter

end Scene

namespace Experiment

variable {s : Script} {o : BuildOptions} {w : Words} {start : Experiment}

end Experiment

end Trials
