import Trials.Proofs.Experiment.Move
import Trials.Proofs.Experiment.Protocol

/-!
# Activations

The direct recursion of the run protocol and the moves of the experiment do the same: from a sound
performance whose position is a block, both come to an end when the block has been run, with the
same scene (`exists_activation`).  Everything that is not within the block is then as it was
(`Activation`), and so a block finds its own pass as it left it when it has run a block inside it.

Running the top-level blocks that have not been entered does the same up to the end of the run
(`exists_runsAll`), and from any position moves lead between two top-level blocks
(`exists_return`), so that every run comes to an end (`exists_last`).
-/

namespace Trials

namespace Experiment

variable {answers : Answers} {e e' : Experiment} {m : Motion}

/-- What no move changes. -/
structure Kept (e e' : Experiment) : Prop where
  assignment : e'.assignment = e.assignment
  window : e'.window = e.window
  roots : e'.roots = e.roots
  finished : e'.finished = e.finished
  shapes : e'.table.shapes = e.table.shapes

theorem Kept.refl (e : Experiment) : Kept e e := ⟨rfl, rfl, rfl, rfl, rfl⟩

theorem Kept.trans {e'' : Experiment} (h : Kept e e') (h' : Kept e' e'') : Kept e e'' where
  assignment := h'.assignment.trans h.assignment
  window := h'.window.trans h.window
  roots := h'.roots.trans h.roots
  finished := h'.finished.trans h.finished
  shapes := h'.shapes.trans h.shapes

theorem Sound.kept (h : e.Sound) (hmoved : Moved answers e m e') : Kept e e' := by
  have hshapes := h.shapes_moved hmoved
  cases hmoved <;> exact ⟨rfl, rfl, rfl, rfl, hshapes⟩

end Experiment

open Experiment

variable {σ : Type} [OutcomeStore σ] {responses : Nat → Response}

namespace Performance

/-! ## Moves of a performance -/

/-- One performance leads to another by a move; a page that is shown is answered. -/
inductive Next (responses : Nat → Response) : Performance σ → Performance σ → Prop where
  | quiet {p : Performance σ} {e : Experiment}
    (h : Moved (OutcomeStore.answers p.store) p.experiment .between e) :
    Next responses p { p with experiment := e }
  | display {p : Performance σ} {e : Experiment} {number place : Nat} {page : Page}
    (h : Moved (OutcomeStore.answers p.store) p.experiment (.shown number place page) e) :
    Next responses p (({ p with experiment := e } : Performance σ).display responses page)

/-- One performance leads to another by some moves. -/
def Leads (responses : Nat → Response) : Performance σ → Performance σ → Prop :=
  Relation.ReflTransGen (Next responses)

variable {p q r : Performance σ}

theorem Next.sound (h : p.experiment.Sound) (hnext : Next responses p q) : q.experiment.Sound := by
  cases hnext with
  | quiet hmoved => exact h.moved hmoved
  | display hmoved => exact h.moved hmoved

theorem Next.kept (h : p.experiment.Sound) (hnext : Next responses p q) :
    Kept p.experiment q.experiment := by
  cases hnext with
  | quiet hmoved => exact h.kept hmoved
  | display hmoved => exact h.kept hmoved

/-! ## Running a block -/

/-- Running the block with a number leads from one performance to another, by the run protocol and
by moves alike; the position is then the block around it. -/
structure Activation (responses : Nat → Response) (i : Nat) (outer : Option Nat)
    (p q : Performance σ) : Prop where
  runs : Scene.Runs p.experiment.assignment.permutation p.experiment.window responses i p.scene
    q.scene
  leads : Leads responses p q
  position : q.experiment.position = outer
  sound : q.experiment.Sound
  kept : Kept p.experiment q.experiment
  cursor : q.experiment.cursor = p.experiment.cursor
  /-- What is not within the block is as it was. -/
  same : ∀ {j : Nat}, ¬ p.experiment.table.Within j i →
    q.experiment.table[j]? = p.experiment.table[j]?

section

variable {i place : Nat} {outer : Option Nat} {b : Block} {pass : Pass Nat}

/-- Some moves before an activation, all of them within the block. -/
theorem Activation.of_leads (h' : Activation responses i outer q r)
    (hruns : Scene.Runs p.experiment.assignment.permutation p.experiment.window responses i p.scene
      r.scene)
    (hleads : Leads responses p q) (hkept : Kept p.experiment q.experiment)
    (hcursor : q.experiment.cursor = p.experiment.cursor)
    (hsame : ∀ {j : Nat}, ¬ p.experiment.table.Within j i →
      q.experiment.table[j]? = p.experiment.table[j]?) : Activation responses i outer p r where
  runs := hruns
  leads := hleads.trans h'.leads
  position := h'.position
  sound := h'.sound
  kept := hkept.trans h'.kept
  cursor := h'.cursor.trans hcursor
  same := by
    intro j hj
    rw [h'.same (mt (BlockTable.within_congr hkept.shapes).1 hj), hsame hj]

/-- Leaving a block is a whole activation of it. -/
theorem Activation.of_ascent (h : p.experiment.Sound)
    (hruns : Scene.Runs p.experiment.assignment.permutation p.experiment.window responses i p.scene
      p.scene)
    (hmoved : Moved (OutcomeStore.answers p.store) p.experiment .between
      (p.experiment.moveTo outer)) :
    Activation responses i outer p { p with experiment := p.experiment.moveTo outer } where
  runs := hruns
  leads := .single (.quiet hmoved)
  position := rfl
  sound := h.moved hmoved
  kept := h.kept hmoved
  cursor := rfl
  same := fun _ => rfl

/-- When a block has been run, the block around it is as it was. -/
theorem Activation.getElem?_of_inside {c : Nat} (hq : Activation responses c outer p q)
    (h : p.experiment.Sound) (hinside : p.experiment.table.Inside c i) :
    q.experiment.table[i]? = p.experiment.table[i]? :=
  hq.same (h.table.not_within_of_inside hinside)

/-- The performance after a block has taken a child. -/
def take (p : Performance σ) (i : Nat) (b : Block) (pass : Pass Nat) : Performance σ :=
  { p with experiment := p.experiment.put i { b with pass } }

/-- The performance at another position. -/
def moveTo (p : Performance σ) (position : Option Nat) : Performance σ :=
  { p with experiment := p.experiment.moveTo position }

/-- A block takes the next block inside it, runs it, and goes on. -/
theorem Activation.descend {child : Nat} {numbers : List Nat} (h : p.experiment.Sound)
    (hposition : p.experiment.position = some i) (hb : p.experiment.table[i]? = some b)
    (htake : b.pass.take? = some (place, pass))
    (hholds : b.info.runIf.holds (OutcomeStore.answers p.store)
      p.experiment.assignment.permutation = true)
    (hcontent : b.content = .blocks numbers) (hchild : numbers[place]? = some child)
    (hq : Activation responses child (some i) ((p.take i b pass).moveTo (some child)) q)
    (hr : Activation responses i outer q r) : Activation responses i outer p r := by
  have hmoved : Moved (OutcomeStore.answers p.store) p.experiment .between
      ((p.experiment.put i { b with pass }).moveTo (some child)) :=
    .descend hposition hb htake hholds hcontent hchild
  have hkept := h.kept hmoved
  have hinside := h.table.inside_of_content hb hcontent hchild
  refine hr.of_leads ?_ (hq.leads.head (.quiet hmoved)) (hkept.trans hq.kept) hq.cursor ?_
  · have hrest := hr.runs
    rw [hq.kept.assignment, hq.kept.window] at hrest
    exact .child hb htake hholds hcontent hchild hq.runs hrest
  · intro j hj
    have hout : ¬ ((p.take i b pass).moveTo (some child)).experiment.table.Within j child :=
      fun hw => hj (((BlockTable.within_congr hkept.shapes).1 hw).tail hinside)
    rw [hq.same hout]
    exact BlockTable.getElem?_put_of_ne (not_within_self_of_ne hj)

/-- A block takes the next page and shows it, and goes on. -/
theorem Activation.display {pages : List Page} {pseudorandom : Bool} {page : Page}
    (h : p.experiment.Sound) (hposition : p.experiment.position = some i)
    (hb : p.experiment.table[i]? = some b) (htake : b.pass.take? = some (place, pass))
    (hholds : b.info.runIf.holds (OutcomeStore.answers p.store)
      p.experiment.assignment.permutation = true)
    (hcontent : b.content = .pages pages pseudorandom) (hpage : pages[place]? = some page)
    (hq : Activation responses i outer ((p.take i b pass).display responses page) q) :
    Activation responses i outer p q := by
  have hmoved : Moved (OutcomeStore.answers p.store) p.experiment (.shown i place page)
      (p.experiment.put i { b with pass }) :=
    .display hposition hb htake hholds hcontent hpage
  refine hq.of_leads ?_ (.single (.display hmoved)) (h.kept hmoved) rfl ?_
  · exact .page hb htake hholds hcontent hpage hq.runs
  · exact fun hj => BlockTable.getElem?_put_of_ne (not_within_self_of_ne hj)

/-- A block begins anew, and goes on. -/
theorem Activation.again {t : BlockTable} {c : Chance} (h : p.experiment.Sound)
    (hposition : p.experiment.position = some i) (hb : p.experiment.table[i]? = some b)
    (htake : b.pass.take? = none)
    (hdecide : b.info.policy.decide b.pass.iteration
      ((OutcomeStore.answers p.store).history b.info.path) = .again)
    (hrestart : Course.Ends (BlockTable.restartTop p.experiment.window)
      ([i], p.experiment.table, p.experiment.chance) (t, c))
    (hspec : p.experiment.table.Restarted p.experiment.window t (p.experiment.table.Reached i))
    (hq : Activation responses i outer
      { p with experiment := { p.experiment with table := t, chance := c } } q) :
    Activation responses i outer p q := by
  have hmoved : Moved (OutcomeStore.answers p.store) p.experiment .between
      { p.experiment with table := t, chance := c } :=
    .again hposition hb htake hdecide hrestart hspec
  refine hq.of_leads ?_ (.single (.quiet hmoved)) (h.kept hmoved) rfl ?_
  · exact .again hb htake hdecide hrestart hq.runs
  · exact fun hj => hspec.same fun hreached => hj (h.table.within_of_reached hreached)

end

/-- Running a block comes to an end. -/
theorem exists_activation (responses : Nat → Response) (p : Performance σ) {i : Nat} {b : Block}
    (h : p.experiment.Sound) (hposition : p.experiment.position = some i)
    (hb : p.experiment.table[i]? = some b) : ∃ q, Activation responses i b.parent p q := by
  obtain ⟨m, e', hmoved⟩ := h.exists_moved (OutcomeStore.answers p.store)
  have hsound := h.moved hmoved
  have hsize := BlockTable.size_of_shapes (h.shapes_moved hmoved)
  have hi := BlockTable.lt_size_of_getElem? hb
  cases hmoved with
  | enter hnone => cases hnone.symm.trans hposition
  | ended hnone => cases hnone.symm.trans hposition
  | @skip k place d pass hk hd htake hholds =>
    obtain rfl : i = k := Option.some.inj (hposition.symm.trans hk)
    obtain rfl : b = d := Option.some.inj (hb.symm.trans hd)
    exact ⟨_, .of_ascent h (.skip hd htake hholds) (.skip hk hd htake hholds)⟩
  | @leave k d hk hd htake hdecide =>
    obtain rfl : i = k := Option.some.inj (hposition.symm.trans hk)
    obtain rfl : b = d := Option.some.inj (hb.symm.trans hd)
    exact ⟨_, .of_ascent h (.stop hd htake hdecide) (.leave hk hd htake hdecide)⟩
  | @descend k place child d pass numbers hk hd htake hholds hcontent hchild =>
    obtain rfl : i = k := Option.some.inj (hposition.symm.trans hk)
    obtain rfl : b = d := Option.some.inj (hb.symm.trans hd)
    obtain ⟨c, hc, hparent⟩ := h.table.inside_of_content hd hcontent hchild
    have hlt : i < child := h.table.lt_of_inside ⟨c, hc, hparent⟩
    have hchildlt := BlockTable.lt_size_of_getElem? hc
    have hget : (p.experiment.table.put i { b with pass })[child]? = some c :=
      (BlockTable.getElem?_put_of_ne (Nat.ne_of_lt hlt)).trans hc
    obtain ⟨q, hq⟩ :=
      exists_activation responses ((p.take i b pass).moveTo (some child)) hsound rfl hget
    rw [hparent] at hq
    -- the run is back at the block, whose pass is as it left it
    have hback : q.experiment.table[i]? = some { b with pass } := by
      rw [hq.getElem?_of_inside hsound ⟨c, hget, hparent⟩]
      exact BlockTable.getElem?_put_self hd
    have hsize' := BlockTable.size_of_shapes hq.kept.shapes
    have hless := Pass.length_remaining_lt htake
    have hiteration := (Pass.take?_eq_some htake).2.2
    obtain ⟨r, hr⟩ := exists_activation responses q hq.sound hq.position hback
    exact ⟨r, .descend h hk hd htake hholds hcontent hchild hq hr⟩
  | @display k place d pass pages pseudorandom page hk hd htake hholds hcontent hpage =>
    obtain rfl : i = k := Option.some.inj (hposition.symm.trans hk)
    obtain rfl : b = d := Option.some.inj (hb.symm.trans hd)
    have hless := Pass.length_remaining_lt htake
    have hiteration := (Pass.take?_eq_some htake).2.2
    obtain ⟨q, hq⟩ := exists_activation responses ((p.take i b pass).display responses page) hsound
      hk (BlockTable.getElem?_put_self hd)
    exact ⟨q, .display h hk hd htake hholds hcontent hpage hq⟩
  | @again k d t c hk hd htake hdecide hrestart hspec =>
    obtain rfl : i = k := Option.some.inj (hposition.symm.trans hk)
    obtain rfl : b = d := Option.some.inj (hb.symm.trans hd)
    obtain ⟨chance, hget⟩ := hspec.restarted Relation.ReflTransGen.refl hd
    have hless := LoopPolicy.lt_cutoff_of_decide hdecide
    obtain ⟨hinfo, hparent, -⟩ :=
      Block.shape_inj.1 (Block.shape_restart p.experiment.window b chance)
    obtain ⟨q, hq⟩ := exists_activation responses
      { p with experiment := { p.experiment with table := t, chance := c } } hsound hk hget
    rw [hparent] at hq
    exact ⟨q, .again h hk hd htake hdecide hrestart hspec hq⟩
-- a block inside has a larger number, a block begins anew only while its cutoff allows it, and a
-- child that has been taken is no longer left
termination_by (p.experiment.table.size - i, b.info.policy.cutoff.toNat - b.pass.iteration,
  b.pass.remaining.length)
decreasing_by
  · have : ((p.take i b pass).moveTo (some child)).experiment.table.size =
      p.experiment.table.size := hsize
    exact Prod.Lex.left _ _ (by omega)
  · rw [hsize'.trans hsize]
    refine Prod.Lex.right _ ?_
    simp only [hiteration]
    exact Prod.Lex.right _ hless
  · rw [show ((p.take i b pass).display responses page).experiment.table.size = _ from hsize]
    refine Prod.Lex.right _ ?_
    simp only [hiteration]
    exact Prod.Lex.right _ hless
  · rw [show t.size = _ from hsize]
    refine Prod.Lex.right _ (Prod.Lex.left _ _ ?_)
    rw [hinfo, Block.iteration_restart]
    omega

/-! ## Running to the end -/

/-- What has become of a performance when the run is between two top-level blocks. -/
structure Return (responses : Nat → Response) (p q : Performance σ) : Prop where
  leads : Leads responses p q
  sound : q.experiment.Sound
  kept : Kept p.experiment q.experiment
  position : q.experiment.position = none

theorem Return.trans (h : Return responses p q) (h' : Return responses q r) :
    Return responses p r where
  leads := h.leads.trans h'.leads
  sound := h'.sound
  kept := h.kept.trans h'.kept
  position := h'.position

/-- From any position the run comes back between two top-level blocks. -/
theorem exists_return (responses : Nat → Response) (p : Performance σ) (h : p.experiment.Sound) :
    ∃ q, Return responses p q := by
  cases hposition : p.experiment.position with
  | none => exact ⟨p, .refl, h, .refl _, hposition⟩
  | some i =>
    have hi := h.position_lt hposition
    obtain ⟨b, hb⟩ := BlockTable.exists_of_lt_size hi
    obtain ⟨q, hq⟩ := exists_activation responses p h hposition hb
    cases hparent : b.parent with
    | none => exact ⟨q, hq.leads, hq.sound, hq.kept, hq.position.trans hparent⟩
    | some k =>
      have hlt : k < i := h.table.lt_of_inside ⟨b, hb, hparent⟩
      have hposition' : q.experiment.position = some k := hq.position.trans hparent
      obtain ⟨r, hr⟩ := exists_return responses q hq.sound
      exact ⟨r, hq.leads.trans hr.leads, hr.sound, hq.kept.trans hr.kept, hr.position⟩
termination_by p.experiment.position.getD 0
decreasing_by
  rw [hposition', hposition]
  exact hlt

/-- Running the top-level blocks that have not been entered comes to an end, and moves lead to the
same scene, no other top-level block being left. -/
theorem exists_runsAll (responses : Nat → Response) (p : Performance σ)
    (h : p.experiment.Sound) (hposition : p.experiment.position = none) :
    ∃ q, Scene.RunsAll p.experiment.assignment.permutation p.experiment.window responses
        (p.experiment.roots.drop p.experiment.cursor) p.scene q.scene ∧
      q.experiment.roots[q.experiment.cursor]? = none ∧ Return responses p q := by
  cases hroot : p.experiment.roots[p.experiment.cursor]? with
  | none =>
    refine ⟨p, ?_, hroot, .refl, h, .refl _, hposition⟩
    rw [List.drop_eq_nil_of_le (List.getElem?_eq_none_iff.1 hroot)]
    exact .nil
  | some i =>
    let entered : Performance σ := { p with
      experiment := { p.experiment with
        cursor := p.experiment.cursor + 1, position := some i } }
    have hmoved : Moved (OutcomeStore.answers p.store) p.experiment .between entered.experiment :=
      .enter hposition hroot
    obtain ⟨b, hb, hparent⟩ := h.mem_roots.1 (List.mem_of_getElem? hroot)
    obtain ⟨q, hq⟩ := exists_activation responses entered (h.moved hmoved) rfl hb
    have hback : Return responses p q :=
      ⟨hq.leads.head (.quiet hmoved), hq.sound, (h.kept hmoved).trans hq.kept,
        hq.position.trans hparent⟩
    obtain ⟨r, hrest, hlast, hr⟩ := exists_runsAll responses q hq.sound hback.position
    refine ⟨r, ?_, hlast, hback.trans hr⟩
    rw [hback.kept.assignment, hback.kept.window, hback.kept.roots, hq.cursor] at hrest
    obtain ⟨hlt, hget⟩ := List.getElem?_eq_some_iff.1 hroot
    rw [List.drop_eq_getElem_cons hlt, hget]
    exact .cons hq.runs hrest
termination_by p.experiment.roots.length - p.experiment.cursor
decreasing_by
  have hlt := (List.getElem?_eq_some_iff.1 hroot).1
  have hcursor : q.experiment.cursor = p.experiment.cursor + 1 := hq.cursor
  rw [hback.kept.roots, hcursor]
  omega

/-- From any position the run comes to its end. -/
theorem exists_last (responses : Nat → Response) (p : Performance σ) (h : p.experiment.Sound) :
    ∃ q, q.experiment.roots[q.experiment.cursor]? = none ∧ Return responses p q := by
  obtain ⟨q, hq⟩ := exists_return responses p h
  obtain ⟨r, -, hlast, hr⟩ := exists_runsAll responses q hq.sound hq.position
  exact ⟨r, hlast, hq.trans hr⟩

end Performance

end Trials
