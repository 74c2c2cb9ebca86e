import Trials.Proofs.Experiment.Addresses
import Trials.Proofs.Experiment.Declarations

/-!
# No page is shown behind a closed gate

A run comes to a page through the blocks around it, each of which takes the next one, and a block
takes a child only when it may run.  `Logs` keeps what has been taken on the way and what had been
answered then.  On the way to the position every block has last taken the next block of the way, and
might run when it did (`OpenWay`); a move keeps this, whether it goes down, up or begins a block anew,
since it takes nothing from a block further out.
-/

namespace Trials

open BlockTable

/-- A block takes a child: its number, the child, and what had been answered then. -/
structure Taking where
  number : Nat
  item : Item
  answers : Answers

namespace Experiment

/-- What the next move takes. -/
def taking (answers : Answers) (e : Experiment) : List Taking :=
  match e.position with
  | none => []
  | some i =>
    match e.act answers i with
    | .ok (.descend child, _) => [⟨i, .block child, answers⟩]
    | .ok (.display place, _) => [⟨i, .page i place, answers⟩]
    | _ => []

/-- Moves lead from `start` to an experiment and take some children, oldest first. -/
inductive Logs (start : Experiment) : List Taking → Experiment → Prop
  | start : Logs start [] start
  | move {log : List Taking} {e e' : Experiment} {m : Motion} (answers : Answers)
    (h : Logs start log e) (hmove : e.move answers = pure (m, e')) :
    Logs start (log ++ e.taking answers) e'
  | leave {log : List Taking} {e e' : Experiment} (answers : Answers) (h : Logs start log e)
    (hmove : e.move answers = pure (.ended, e')) : Logs start log { e' with finished := true }

/-- What a block has taken last, and that it might run when it did. -/
structure TookLast (log : List Taking) (e : Experiment) (i : Nat) (item : Item)
    (answers : Answers) : Prop where
  last : ∃ before after, log = before ++ ⟨i, item, answers⟩ :: after ∧ ∀ x ∈ after, x.number ≠ i
  allowed : ∃ b, e.table[i]? = some b ∧
    b.info.runIf.holds answers e.assignment.permutation = true

/-- Every block around a block `i` has last taken the next one on the way to it, and might run when
it did. -/
def OpenTo (log : List Taking) (e : Experiment) (i : Nat) : Prop :=
  ∀ c p, e.table.Within i c → e.table.Inside c p → ∃ answers, TookLast log e p (.block c) answers

/-- The way to the position is open. -/
def OpenWay (log : List Taking) (e : Experiment) : Prop :=
  ∀ i, e.position = some i → OpenTo log e i

variable {start e e' : Experiment} {log : List Taking} {answers : Answers} {m : Motion}

/-! ## Logs -/

theorem answers_of_mem_taking {x : Taking} (h : x ∈ e.taking answers) : x.answers = answers := by
  unfold taking at h
  split at h
  · cases h
  · split at h
    · rw [List.mem_singleton.1 h]
    · rw [List.mem_singleton.1 h]
    · cases h

theorem Logs.reachable (h : Logs start log e) : Reachable start e := by
  induction h with
  | start => exact ⟨[], .start⟩
  | move answers _ hmove ih =>
    obtain ⟨seen, ih⟩ := ih
    exact ⟨_, .move answers ih hmove⟩
  | leave answers _ hmove ih =>
    obtain ⟨seen, ih⟩ := ih
    exact ⟨_, .leave answers ih hmove⟩

/-- Whatever is reachable is reached with a log. -/
theorem Reachable.exists_logs (h : Reachable start e) : ∃ log, Logs start log e := by
  obtain ⟨seen, h⟩ := h
  induction h with
  | start => exact ⟨[], .start⟩
  | move answers _ hmove ih =>
    obtain ⟨log, ih⟩ := ih
    exact ⟨_, .move answers ih hmove⟩
  | leave answers _ hmove ih =>
    obtain ⟨log, ih⟩ := ih
    exact ⟨_, .leave answers ih hmove⟩

/-! ## What one move keeps -/

theorem TookLast.append {i : Nat} {item : Item} {answers : Answers} {more : List Taking}
    (h : TookLast log e i item answers) (hmore : ∀ x ∈ more, x.number ≠ i)
    (hshapes : e'.table.shapes = e.table.shapes) (hassignment : e'.assignment = e.assignment) :
    TookLast (log ++ more) e' i item answers where
  last := by
    obtain ⟨before, after, rfl, hafter⟩ := h.last
    refine ⟨before, after ++ more, by simp, fun x hx => ?_⟩
    exact (List.mem_append.1 hx).elim (hafter x) (hmore x)
  allowed := by
    obtain ⟨b, hb, hholds⟩ := h.allowed
    obtain ⟨b', hb', hshape⟩ := exists_of_shapes hshapes hb
    refine ⟨b', hb', ?_⟩
    rw [(Block.shape_inj.1 hshape).1, hassignment]
    exact hholds

theorem OpenTo.outward {i p : Nat} (h : OpenTo log e i) (hp : e.table.Inside i p) :
    OpenTo log e p :=
  fun c q hc hq => h c q (.head hp hc) hq

theorem number_of_mem_taking {i : Nat} (hposition : e.position = some i) {x : Taking}
    (h : x ∈ e.taking answers) : x.number = i := by
  unfold taking at h
  rw [hposition] at h
  dsimp only at h
  split at h
  · rw [List.mem_singleton.1 h]
  · rw [List.mem_singleton.1 h]
  · cases h

/-- What the block at the position takes does not close the way to it. -/
theorem OpenTo.taking {i : Nat} (h : OpenTo log e i) (answers : Answers) (he : e.Sound)
    (hposition : e.position = some i) (hkept : Kept e e') :
    OpenTo (log ++ e.taking answers) e' i := by
  intro c p hc hp
  have hc := (within_congr hkept.shapes).1 hc
  have hp := inside_of_shapes hkept.shapes.symm hp
  obtain ⟨answers', hlast⟩ := h c p hc hp
  refine ⟨answers', hlast.append (fun x hx heq => ?_) hkept.shapes hkept.assignment⟩
  rw [number_of_mem_taking hposition hx] at heq
  exact he.not_within_of_around hc hp (heq ▸ .refl)

theorem Moved.taking_of_shown {u place : Nat} {page : Page}
    (h : Moved answers e (.shown u place page) e') :
    e.taking answers = [⟨u, .page u place, answers⟩] ∧ e.position = some u ∧
      ∃ b, e'.table[u]? = some b ∧ b.info.runIf.holds answers e.assignment.permutation = true := by
  cases h with
  | @display _ _ b pass _ _ _ hposition hb htake hholds hcontent hpage =>
    have hact : e.act answers u = pure (.display place, e.put u { b with pass }) := by
      simp only [act, block_eq_pure hb, pure_bind, htake, hholds, hcontent, if_true]
    refine ⟨?_, hposition, _, getElem?_put_self hb, hholds⟩
    simp only [taking, hposition, hact, pure_eq_ok]

/-- A move keeps the way to the position open. -/
theorem OpenWay.moved (he : e.Sound) (h : OpenWay log e) (hmoved : Moved answers e m e') :
    OpenWay (log ++ e.taking answers) e' := by
  have hkept := he.kept hmoved
  cases hmoved with
  | @enter i hposition hroot =>
    -- Nothing stands around a top-level block.
    intro j hj c p hc hp
    cases hj
    have hmem := List.mem_of_getElem? hroot
    obtain rfl := he.eq_of_within_root hmem hc
    exact absurd hp (he.not_inside_of_mem_roots hmem)
  | ended hposition =>
    intro j hj
    cases hposition.symm.trans hj
  | @descend i place child b pass numbers hposition hb htake hholds hcontent hchild =>
    have hopen := (h i hposition).taking answers he hposition hkept
    have hact : e.act answers i = pure (.descend child, e.put i { b with pass }) := by
      simp only [act, block_eq_pure hb, pure_bind, htake, hholds, hcontent,
        Course.at_eq_pure hchild, if_true]
    have htaking : e.taking answers = [⟨i, .block child, answers⟩] := by
      simp only [taking, hposition, hact, pure_eq_ok]
    have hinside := inside_of_shapes hkept.shapes (he.table.inside_of_content hb hcontent hchild)
    intro j hj c p hc hp
    cases hj
    obtain rfl | ⟨q, hq, hrest⟩ := Relation.ReflTransGen.cases_head hc
    · obtain rfl := hp.unique hinside
      refine ⟨answers, ⟨log, [], by rw [htaking], nofun⟩, _, getElem?_put_self hb, hholds⟩
    · obtain rfl := hq.unique hinside
      exact hopen c p hrest hp
  | display hposition =>
    intro j hj
    exact (h j hj).taking answers he hj hkept
  | @skip i place b pass hposition hb =>
    intro j hj
    exact ((h i hposition).taking answers he hposition hkept).outward ⟨b, hb, hj⟩
  | @leave i b hposition hb =>
    intro j hj
    exact ((h i hposition).taking answers he hposition hkept).outward ⟨b, hb, hj⟩
  | again hposition =>
    intro j hj
    exact (h j hj).taking answers he hj hkept

/-! ## What a run keeps -/

theorem Logs.openWay (h : Logs start log e) (hstart : start.Sound)
    (hposition : start.position = none) : OpenWay log e := by
  induction h with
  | start =>
    intro i hi
    cases hposition.symm.trans hi
  | move answers h hmove ih =>
    have hsound := h.reachable.sound hstart
    exact ih.moved hsound (hsound.moved_of_move hmove)
  | leave answers h hmove _ =>
    cases (h.reachable.sound hstart).moved_of_move hmove with
    | ended hended =>
      intro i hi
      cases hended.symm.trans hi

theorem Logs.assignment_eq (h : Logs start log e) (hstart : start.Sound) :
    e.assignment = start.assignment := by
  obtain ⟨seen, hreach⟩ := h.reachable
  exact hreach.invariant (P := fun _ e => e.assignment = start.assignment) hstart rfl
    (fun hsound ih hmoved => (hsound.kept hmoved).assignment.trans ih) id

/-- A run that shows a page adds to the log what it takes on the way to it. -/
theorem Logs.runs {u place : Nat} {page : Page} (h : Logs start log e)
    (hruns : Runs answers e (.shown u place page) e') :
    ∃ more e₁, Logs start (log ++ more) e₁ ∧ (∀ x ∈ more, x.answers = answers) ∧
      Moved answers e₁ (.shown u place page) e' := by
  generalize hm : Motion.shown u place page = m at hruns
  induction hruns generalizing log with
  | @shown e e' _ _ _ hmoved =>
    cases hm
    exact ⟨[], e, by rwa [List.append_nil], nofun, hmoved⟩
  | ended => cases hm
  | between hmoved _ ih =>
    obtain ⟨more, e₁, hlog, hanswers, hlast⟩ := ih (h.move answers hmoved.move_eq) hm
    refine ⟨_, e₁, by rwa [List.append_assoc] at hlog, fun x hx => ?_, hlast⟩
    exact (List.mem_append.1 hx).elim answers_of_mem_taking (hanswers x)

/-! ## Permutations -/

theorem runIf_of_permutation {s : Script} {path : Path} {head : BlockHead} {info : BlockInfo}
    {values : List UInt32} (h : blockInfo s path head = .ok info)
    (hrule : head.runIf = some (.permutation values)) : info.runIf = .permutation values := by
  rw [blockInfo, hrule] at h
  cases h
  rfl

theorem TookLast.permutation_mem {i : Nat} {item : Item} {b : Block} {values : List UInt32}
    (h : TookLast log e i item answers) (hb : e.table[i]? = some b)
    (hrule : b.info.runIf = .permutation values) : e.assignment.permutation ∈ values := by
  obtain ⟨d, hd, hholds⟩ := h.allowed
  cases hb.symm.trans hd
  rw [hrule, RunIf.holds, List.contains_iff_mem] at hholds
  exact hholds

/-- A block from which something has been taken stands in no block with a rule that excludes the
participant's permutation. -/
theorem OpenTo.permutation_mem {u i : Nat} {item : Item} {b : Block} {values : List UInt32}
    (h : OpenTo log e u) (hlast : TookLast log e u item answers) (hwithin : e.table.Within u i)
    (hb : e.table[i]? = some b) (hrule : b.info.runIf = .permutation values) :
    e.assignment.permutation ∈ values := by
  obtain rfl | ⟨c, hc, hi⟩ := Relation.ReflTransGen.cases_tail hwithin
  · exact hlast.permutation_mem hb hrule
  · obtain ⟨answers', hlast⟩ := h c i hc hi
    exact hlast.permutation_mem hb hrule

/-! ## The main result -/

variable {s : Script} {o : BuildOptions} {w : Words} {σ : Type} [OutcomeStore σ] {store store' : σ}
  {page : Page}

/-- When a call shows a page of a block, the block's condition holds with what the store answers,
and each block around it has last taken the next one on the way when its own condition held.  So no
page is shown beneath a declared block whose rule excludes the participant's permutation. -/
theorem shown_behind_open_gates (hbuild : build s o w = .ok start) (hlog : Logs start log e)
    (hcall : e.advance store = (.ok (.shown page), e', store')) :
    ∃ u place more, Logs start (log ++ more) e' ∧
      (∀ x ∈ more, x.answers = OutcomeStore.answers store) ∧
      (∃ b, e'.table[u]? = some b ∧ b.content.shown[place]? = some page) ∧
      TookLast (log ++ more) e' u (.page u place) (OutcomeStore.answers store) ∧
      OpenTo (log ++ more) e' u ∧
      ∀ path d values, s.Declares path d → d.runIf = some (.permutation values) →
        o.assignment.permutation ∉ values → page.path.isWithin path = false := by
  have hready := ready_of_build hbuild
  have hsound := hlog.reachable.sound hready.sound
  obtain ⟨u, place, e'', hruns, hcall'⟩ := hsound.runs_of_shown (congrArg Prod.fst hcall)
  cases hcall.symm.trans hcall'
  obtain ⟨more, e₁, hlog₁, hanswers, hmoved⟩ := hlog.runs hruns
  have hsound₁ := hlog₁.reachable.sound hready.sound
  obtain ⟨htaking, hposition, b, hb, hholds⟩ := hmoved.taking_of_shown
  have hlog' := hlog₁.move _ hmoved.move_eq
  have hway := hlog₁.openWay hready.sound hready.position u hposition
  have hopen := hway.taking (OutcomeStore.answers store) hsound₁ hposition (hsound₁.kept hmoved)
  rw [htaking, List.append_assoc] at hlog' hopen
  obtain ⟨b', hb', hpage⟩ := hruns.exists_shown
  have hlast : TookLast (log ++ (more ++ [⟨u, .page u place, OutcomeStore.answers store⟩])) e' u
      (.page u place) (OutcomeStore.answers store) := by
    refine ⟨⟨log ++ more, [], by simp, nofun⟩, b, hb, ?_⟩
    rw [(hsound₁.kept hmoved).assignment]
    exact hholds
  refine ⟨u, place, _, hlog', ?_, ⟨b', hb', hpage⟩, hlast, hopen, ?_⟩
  · exact List.forall_mem_append.2 ⟨hanswers, List.forall_mem_singleton.2 rfl⟩
  · intro path d values hd hrule hnot
    by_contra hbeneath
    obtain ⟨i, b₀, hb₀, rfl, hstands⟩ := exists_block_of_build hbuild hd
    obtain ⟨seen, hreach⟩ := hlog'.reachable
    have hshapes := hreach.shapes hready.sound
    have hlabelled :=
      (labelled_of_build hbuild).of_shapes hshapes (hreach.sound hready.sound).table
    obtain ⟨b₁, hb₁, hshape⟩ := exists_of_shapes hshapes hb₀
    have hinfo := (Block.shape_inj.1 hshape).1
    rw [← hinfo, Bool.not_eq_false,
      hlabelled.isWithin_page_iff hb₁ hb' (List.mem_of_getElem? hpage)] at hbeneath
    have hmem := hopen.permutation_mem hlast hbeneath hb₁
      (hinfo ▸ runIf_of_permutation hstands.info hrule)
    rw [hlog'.assignment_eq hready.sound, assignment_of_build hbuild] at hmem
    exact hnot hmem

/-- A page in a block for the first permutation only, and one in a block for the second. -/
def gated : Script where
  blocks := [
    { id := "first", runIf := some (.permutation [0]),
      blocks := some [{ id := "a", pages := some [{ id := "p" }] }] },
    { id := "second", runIf := some (.permutation [1]), pages := some [{ id := "q" }] }]

/-- With the first permutation the first call shows a page of the first block. -/
theorem gated_shown :
    ∃ start page e' log u place, build gated {} (Words.ofSeed 0) = .ok start ∧
      start.advance ({} : MemoryStore) = (.ok (.shown page), e', {}) ∧ page.id = "p" ∧
      Logs start log e' ∧
      TookLast log e' u (.page u place) (OutcomeStore.answers ({} : MemoryStore)) ∧
      OpenTo log e' u ∧ page.path.isWithin ⟨["second"]⟩ = false := by
  obtain ⟨start, e₁, e₂, e', page, hbuild, henter, hdescend, hshown, hid⟩ :
      ∃ start e₁ e₂ e' page, build gated {} (Words.ofSeed 0) = .ok start ∧
        start.move (OutcomeStore.answers ({} : MemoryStore)) = pure (.between, e₁) ∧
        e₁.move (OutcomeStore.answers ({} : MemoryStore)) = pure (.between, e₂) ∧
        e₂.move (OutcomeStore.answers ({} : MemoryStore)) = pure (.shown 1 0 page, e') ∧
        page.id = "p" :=
    ⟨_, _, _, _, _, rfl, rfl, rfl, rfl, rfl⟩
  have hready := ready_of_build hbuild
  have hmoved₁ := hready.sound.moved_of_move henter
  have hsound₁ := hready.sound.moved hmoved₁
  have hmoved₂ := hsound₁.moved_of_move hdescend
  have hruns := Runs.shown ((hsound₁.moved hmoved₂).moved_of_move hshown)
  have hcall := advance_eq_of_shown (.between hmoved₁ (.between hmoved₂ hruns)) hready.finished
  obtain ⟨u, place, more, hlog, -, -, hlast, hopen, hgate⟩ :=
    shown_behind_open_gates hbuild .start hcall
  have hsecond : gated.Declares ⟨["second"]⟩
      { id := "second", runIf := some (.permutation [1]), pages := some [{ id := "q" }] } :=
    .here (List.mem_cons_of_mem _ List.mem_cons_self)
  exact ⟨start, page, e', _, u, place, hbuild, hcall, hid, hlog, hlast, hopen,
    hgate _ _ _ hsecond rfl (by decide)⟩

end Experiment

end Trials
